import Rulebook.Proofs.Locality

/-!
# Searches

A search finds the first of the readings from all positions of a text, front to back. When a
pattern is in two parts and the second one can be read at one position only, a search either
leads there and finds what the second part reads, or it finds nothing. What leads there does
not depend on the text behind that position, as far as a word boundary does not see it.
-/

namespace Rulebook

/-- The positions of a text from the front on. -/
def positions (text : List Char) : List Cursor := stretch .any none (.start text) text

namespace Pattern

theorem searchFrom_eq_head? (pattern : Pattern) (cursor : Cursor) (text : List Char) :
    (pattern.searchFrom cursor text).map (·.2) =
      ((stretch .any none cursor text).flatMap pattern.readings).head? := by
  induction text generalizing cursor with
  | nil =>
    rw [searchFrom, run_some, stretch, List.flatMap_singleton]
    cases pattern.readings cursor <;> rfl
  | cons c rest inductionHypothesis =>
    have further : stretch .any none cursor (c :: rest) =
        cursor :: stretch .any none (cursor.step c rest) rest := rfl
    rw [searchFrom, run_some, further, List.flatMap_cons, List.head?_append]
    cases pattern.readings cursor with
    | nil => exact inductionHypothesis (cursor.step c rest)
    | cons stop others => rfl

/-- A search finds the first of all readings, taken position by position. -/
theorem find?_eq_head? (pattern : Pattern) (text : List Char) :
    pattern.find? text = ((positions text).flatMap pattern.readings).head? :=
  searchFrom_eq_head? pattern (.start text) text

end Pattern

theorem mem_positions (text : List Char) (cursor : Cursor) :
    cursor ∈ positions text ↔
      ∃ front back, text = front ++ back ∧ cursor = .between front back := by
  have ends := mem_drop_stretch .any text 0 none (.start text) cursor rfl
  rw [List.drop_zero] at ends
  rw [positions, ends]
  constructor
  · rintro ⟨word, -, split, isCursor⟩
    refine ⟨word, cursor.after, split, ?_⟩
    simpa [Cursor.past, Cursor.start, Cursor.between] using isCursor
  · rintro ⟨front, back, rfl, rfl⟩
    exact ⟨front, ⟨fun _ _ => rfl, Nat.zero_le _, by simp⟩, rfl, by
      simp [Cursor.past, Cursor.start, Cursor.between]⟩

/-- What a search finds is a reading from some position of the text. -/
theorem Pattern.exists_of_find? (pattern : Pattern) (text : List Char) (stop : Cursor)
    (found : pattern.find? text = some stop) :
    ∃ front back, text = front ++ back ∧ stop ∈ pattern.readings (.between front back) := by
  rw [find?_eq_head?] at found
  obtain ⟨start, isStart, reached⟩ := List.mem_flatMap.mp (List.mem_of_head? found)
  obtain ⟨front, back, split, rfl⟩ := (mem_positions text start).mp isStart
  exact ⟨front, back, split, reached⟩

theorem pairwise_positions (text : List Char) :
    (positions text).Pairwise fun cursor next => cursor.position < next.position := by
  unfold positions
  generalize Cursor.start text = cursor
  induction text generalizing cursor with
  | nil => exact List.pairwise_singleton _ cursor
  | cons c rest inductionHypothesis =>
    apply List.Pairwise.cons _ (inductionHypothesis (cursor.step c rest))
    intro next member
    have further : next ∈ (stretch .any none (cursor.step c rest) rest).drop 0 := member
    obtain ⟨word, -, -, isNext⟩ := (mem_drop_stretch _ _ _ _ _ next rfl).mp further
    rw [isNext]
    show cursor.position < cursor.position + 1 + word.length
    omega

/-- The positions of a text in two parts begin with those in the first part and the one between
the parts. -/
theorem exists_positions_append (front back : List Char) :
    ∃ early later, positions (front ++ back) = early ++ .between front back :: later ∧
      ∀ cursor ∈ early, cursor.position < front.length := by
  obtain ⟨early, later, split⟩ :=
    List.append_of_mem ((mem_positions _ _).mpr ⟨front, back, rfl, rfl⟩)
  have increasing := split ▸ pairwise_positions (front ++ back)
  obtain ⟨-, -, apart⟩ := List.pairwise_append.mp increasing
  exact ⟨early, later, split, fun cursor member => apart cursor member _ List.mem_cons_self⟩

/-- What a list yields first comes from an item that nothing before it rivals, if no later item
yields anything unless that item does. -/
theorem head?_flatMap_of_first {α β : Type} (early later : List α) (first : α) (parts : α → List β)
    (nothing : ∀ item ∈ early, parts item = [])
    (decides : parts first = [] → ∀ item ∈ later, parts item = []) :
    ((early ++ first :: later).flatMap parts).head? = (parts first).head? := by
  rw [List.flatMap_append, List.flatMap_eq_nil_iff.mpr nothing, List.nil_append, List.flatMap_cons]
  cases yielded : parts first with
  | nil => rw [List.flatMap_eq_nil_iff.mpr (decides yielded), List.append_nil]
  | cons value others => rfl

section Leads

open Pattern

variable {lead tail pattern : Pattern}

/-- A part of a pattern leads from somewhere in a text to a position of it. -/
def Leads (lead : Pattern) (front back : List Char) : Prop :=
  ∃ start ∈ positions (front ++ back), .between front back ∈ lead.readings start

/-- What follows a position matters to what leads there only as far as a word boundary sees it. -/
theorem Leads.congr {front back other : List Char} (leads : Leads lead front back)
    (isLocal : Local lead) (alike : AlikeAt back other) : Leads lead front other := by
  obtain ⟨start, member, reached⟩ := leads
  obtain ⟨early, late, split, rfl⟩ := (mem_positions _ _).mp member
  obtain ⟨taken, -, splitLate, isFront, -⟩ := (moves_of_mem_readings lead _ _ reached).taken
  obtain rfl : front = early ++ taken := by
    simpa [Cursor.between] using congrArg List.reverse isFront
  refine ⟨.between early (taken ++ other), (mem_positions _ _).mpr ⟨_, _, by simp, rfl⟩, ?_⟩
  exact isLocal.mem_readings (.between early late) _ taken other reached splitLate alike

/-- A pattern in two parts, of which the second one can be read at one position of a text only. -/
structure MeetsAt (pattern lead tail : Pattern) (front back : List Char) : Prop where
  parts : ∀ cursor, pattern.readings cursor = (lead.readings cursor).flatMap tail.readings
  only : ∀ start ∈ positions (front ++ back), ∀ mid ∈ lead.readings start,
    tail.readings mid ≠ [] → mid = .between front back

namespace MeetsAt

variable {front back : List Char}

theorem find?_eq_head? (meets : MeetsAt pattern lead tail front back) :
    pattern.find? (front ++ back) =
      (((positions (front ++ back)).flatMap lead.readings).flatMap tail.readings).head? := by
  rw [Pattern.find?_eq_head?, List.flatMap_assoc, funext meets.parts]

/-- If the first part leads to the position, a search finds what the second part reads there. -/
theorem find?_of_leads (meets : MeetsAt pattern lead tail front back)
    (leads : Leads lead front back) :
    pattern.find? (front ++ back) = (tail.readings (.between front back)).head? := by
  rw [meets.find?_eq_head?]
  have elsewhere : ∀ mid ∈ (positions (front ++ back)).flatMap lead.readings,
      tail.readings mid ≠ [] → mid = .between front back := by
    intro mid member
    obtain ⟨start, isStart, reached⟩ := List.mem_flatMap.mp member
    exact meets.only start isStart mid reached
  obtain ⟨early, later, split, missing⟩ :=
    List.eq_append_cons_of_mem (List.mem_flatMap.mpr leads)
  rw [split] at elsewhere ⊢
  apply head?_flatMap_of_first early later _ tail.readings
  · intro mid member
    by_contra some
    apply missing
    rw [← elsewhere mid (List.mem_append_left _ member) some]
    exact member
  · intro nothing mid member
    by_contra some
    apply some
    rw [elsewhere mid (List.mem_append_right _ (List.mem_cons_of_mem _ member)) some]
    exact nothing

theorem find?_of_not_leads (meets : MeetsAt pattern lead tail front back)
    (leadless : ¬ Leads lead front back) : pattern.find? (front ++ back) = none := by
  rw [meets.find?_eq_head?, List.head?_eq_none_iff, List.flatMap_eq_nil_iff]
  intro mid member
  obtain ⟨start, isStart, reached⟩ := List.mem_flatMap.mp member
  by_contra some
  apply leadless
  refine ⟨start, isStart, ?_⟩
  rw [← meets.only start isStart mid reached some]
  exact reached

end MeetsAt

end Leads

end Rulebook
