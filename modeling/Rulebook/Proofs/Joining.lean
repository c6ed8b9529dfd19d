import Rulebook.Proofs.Links

/-!
# Links of joined texts

A character that ends an address stands in no link: it is a letter of no beginning of an address
and of no known domain, and it is no character of a host name or a path. A link in front of it
ends as it would at the end of the text, and a host behind it begins as it would at the start,
since neither the character nor the edge of a text continues a word.

Hence the parts of two texts with such a character between them are the parts of the first text,
the character, and the parts of the second. What is read off the parts is read off each text on
its own, so the links are counted apart. This says nothing about texts that are joined by other
characters, or directly, where a link may reach from one into the other.
-/

namespace Rulebook.Lint

open Text

/-- The characters of the beginnings of an address and of the known domains. -/
def linkLetters : List Char := (addressStarts ++ knownDomains).flatMap String.toList

/-- A character that ends an address is no letter of a link, in any case. -/
theorem sameLetter_of_endsAddress (letter c : Char) (listed : letter ∈ linkLetters)
    (ends : endsAddress c = true) : sameLetter letter c = false := by
  have key : caseKey c = c := by
    simp only [endsAddress, Bool.or_eq_true, beq_iff_eq] at ends
    rcases ends with (((((blank | rfl) | rfl) | rfl) | rfl) | rfl) | rfl
    · exact caseKey_of_isBlank c blank
    all_goals decide
  have letters : (linkLetters.all fun letter => !endsAddress (caseKey letter)) = true := by decide
  apply Bool.eq_false_iff.mpr
  intro same
  have here := List.all_eq_true.mp letters letter listed
  rw [beq_iff_eq.mp same, key, ends] at here
  cases here

/-- A run of characters of one kind ends at the latest at a character of another. -/
theorem dropWhile_append_separator (kind : Char → Bool) (c : Char) (outside : kind c = false)
    (cs back : List Char) : (cs ++ c :: back).dropWhile kind = cs.dropWhile kind ++ c :: back := by
  rw [List.dropWhile_append, List.dropWhile_cons_of_neg (by simp [outside])]
  split
  · next none => rw [List.isEmpty_iff.mp none, List.nil_append]
  · rfl

/-- Where each answer of a search is changed in one way, so is the first one. -/
theorem findSome?_eq_map {α β : Type} (list : List α) (search changed : α → Option β)
    (change : β → β) (each : ∀ item ∈ list, changed item = (search item).map change) :
    list.findSome? changed = (list.findSome? search).map change := by
  induction list with
  | nil => rfl
  | cons item rest inductionHypothesis =>
    have others := inductionHypothesis fun other member =>
      each other (List.mem_cons_of_mem item member)
    rw [List.findSome?_cons, List.findSome?_cons, each item List.mem_cons_self, others]
    cases search item <;> rfl

section Separator

variable {c : Char} (ends : endsAddress c = true) (back : List Char)

include ends

/-- No word is continued at the character. -/
theorem wordAt_append (cs : List Char) : wordAt (cs ++ c :: back).head? = wordAt cs.head? := by
  cases cs with
  | nil => exact isWord_of_endsAddress c ends
  | cons d rest => rfl

/-- Letters of links are found in front of the character as at the end of a text. -/
theorem afterWord?_append (word cs : List Char) (letters : ∀ letter ∈ word, letter ∈ linkLetters) :
    afterWord? word (cs ++ c :: back) = (afterWord? word cs).map (· ++ c :: back) := by
  induction word generalizing cs with
  | nil => rfl
  | cons letter word inductionHypothesis =>
    have others : ∀ other ∈ word, other ∈ linkLetters := fun other member =>
      letters other (List.mem_cons_of_mem letter member)
    cases cs with
    | nil =>
      have apart := sameLetter_of_endsAddress letter c (letters letter List.mem_cons_self) ends
      simp [afterWord?, apart]
    | cons d rest =>
      rw [List.cons_append, afterWord?, afterWord?, inductionHypothesis rest others]
      split <;> rfl

/-- An address in front of the character ends there at the latest. -/
theorem afterAddress?_append (cs : List Char) :
    afterAddress? (cs ++ c :: back) = (afterAddress? cs).map (· ++ c :: back) := by
  have starts : (addressStarts.findSome? fun start => afterWord? start.toList (cs ++ c :: back)) =
      (addressStarts.findSome? fun start => afterWord? start.toList cs).map (· ++ c :: back) := by
    refine findSome?_eq_map _ _ _ _ fun start listed => afterWord?_append ends back _ cs ?_
    intro letter member
    exact List.mem_flatMap.mpr ⟨start, List.mem_append_left _ listed, member⟩
  simp only [afterAddress?, starts]
  cases addressStarts.findSome? fun start => afterWord? start.toList cs with
  | none => rfl
  | some rest =>
    cases rest with
    | nil => simp [ends]
    | cons d more =>
      have run := dropWhile_append_separator (!endsAddress ·) c (by simp [ends]) more back
      simp only [Option.map_some, List.cons_append, Option.bind_eq_bind, Option.bind_some, run]
      split <;> rfl

/-- A known domain in front of the character ends a word where it does at the end of a text. -/
theorem afterDomain?_append (cs : List Char) :
    afterDomain? (cs ++ c :: back) = (afterDomain? cs).map (· ++ c :: back) := by
  refine findSome?_eq_map _ _ _ _ fun domain listed => ?_
  have letters : ∀ letter ∈ domain.toList, letter ∈ linkLetters := fun letter member =>
    List.mem_flatMap.mpr ⟨domain, List.mem_append_right _ listed, member⟩
  rw [afterWord?_append ends back _ cs letters]
  cases found : afterWord? domain.toList cs with
  | none => rfl
  | some rest =>
    simp only [Option.map_some, wordAt_append ends back rest]
    split <;> rfl

/-- A path in front of the character ends there at the latest. -/
theorem afterPath_append (cs : List Char) :
    afterPath (cs ++ c :: back) = afterPath cs ++ c :: back := by
  have stop : (!endsAddress c) = false := by simp [ends]
  cases cs with
  | nil =>
    have other : c ≠ '/' := by
      rintro rfl
      exact absurd ends (by decide)
    simp [afterPath, other]
  | cons d rest =>
    by_cases slash : d = '/'
    · subst slash
      exact dropWhile_append_separator _ c stop rest back
    · simp [afterPath, slash]

/-- A host in front of the character ends there at the latest, and none begins at it. -/
theorem afterHost?_append (before : Option Char) (cs : List Char) :
    afterHost? before (cs ++ c :: back) = (afterHost? before cs).map (· ++ c :: back) := by
  have noWord := isWord_of_endsAddress c ends
  have noLetter : isHostLetter c = false := by
    apply Bool.eq_false_iff.mpr
    intro letter
    rw [isWord_of_isHostLetter c letter] at noWord
    cases noWord
  have noName : isHostChar c = false := by
    have noDash : c ≠ '-' := by
      rintro rfl
      exact absurd ends (by decide)
    simp [isHostChar, noLetter, noDash]
  cases cs with
  | nil => simp [afterHost?, noLetter]
  | cons d rest =>
    have name := dropWhile_append_separator isHostChar c noName (d :: rest) back
    simp only [List.cons_append] at name
    simp only [List.cons_append, afterHost?, name]
    split
    · cases behind : (d :: rest).dropWhile isHostChar with
      | nil =>
        have noDot : c ≠ '.' := by
          rintro rfl
          exact absurd ends (by decide)
        simp [noDot]
      | cons e more =>
        by_cases dot : e = '.'
        · subst dot
          simp only [List.cons_append, afterDomain?_append ends back more, Option.map_map]
          congr 1
          funext left
          exact afterPath_append ends back left
        · simp [dot]
    · rfl

/-- A link in front of the character ends there at the latest, and none begins at it. -/
theorem afterLink?_append (before : Option Char) (cs : List Char) :
    afterLink? before (cs ++ c :: back) = (afterLink? before cs).map (· ++ c :: back) := by
  unfold afterLink?
  rw [afterAddress?_append ends back cs, afterHost?_append ends back before cs]
  cases afterAddress? cs <;> rfl

end Separator

/-- What stands before a link matters only as far as it continues a word. -/
theorem afterLink?_congr (before other : Option Char) (same : wordAt before = wordAt other)
    (cs : List Char) : afterLink? before cs = afterLink? other cs := by
  unfold afterLink? afterHost?
  rw [same]

theorem partsAfter_congr (before other : Option Char) (same : wordAt before = wordAt other)
    (cs : List Char) : partsAfter before 0 cs = partsAfter other 0 cs := by
  cases cs with
  | nil => rfl
  | cons c rest => simp only [partsAfter, afterLink?_congr before other same]

/-- The scan of two texts with a separator between them is the scan of the first one, the
separator, and the scan of the second one from its start.

Proof: follow the scan through the first text. A link covers the same characters as without the
second text, none of them behind the first text, so the scan looks at the separator itself.
-/
theorem partsAfter_append {c : Char} (ends : endsAddress c = true) (before : Option Char)
    (covered : Nat) (front back : List Char) (inside : covered ≤ front.length) :
    partsAfter before covered (front ++ c :: back) =
      partsAfter before covered front ++ .plain c :: parts back := by
  induction front generalizing before covered with
  | nil =>
    obtain rfl := Nat.le_zero.mp inside
    have missed := afterLink?_append ends back before []
    have edge : wordAt (some c) = wordAt none := isWord_of_endsAddress c ends
    rw [(afterLink?_eq_none_iff before []).mpr ⟨by decide, rfl⟩] at missed
    rw [List.nil_append, partsAfter_plain before c back missed, partsAfter_congr _ _ edge back]
    rfl
  | cons d front inductionHypothesis =>
    cases covered with
    | succ covered =>
      rw [List.cons_append, partsAfter_covered, partsAfter_covered]
      exact inductionHypothesis (some d) covered (Nat.le_of_succ_le_succ inside)
    | zero =>
      have joined := afterLink?_append ends back before (d :: front)
      cases found : afterLink? before (d :: front) with
      | some left =>
        rw [found, Option.map_some, List.cons_append] at joined
        have same : (front ++ c :: back).length - (left ++ c :: back).length =
            front.length - left.length := by
          simp only [List.length_append]
          omega
        rw [List.cons_append, partsAfter_link before d _ _ joined, same,
          partsAfter_link before d front left found,
          inductionHypothesis (some d) _ (Nat.sub_le _ _)]
        rfl
      | none =>
        rw [found, Option.map_none, List.cons_append] at joined
        rw [List.cons_append, partsAfter_plain before d _ joined,
          partsAfter_plain before d front found, inductionHypothesis (some d) 0 (Nat.zero_le _)]
        rfl

/-- The parts of two texts with a separator between them are the parts of both. -/
theorem parts_append_separator (front back : List Char) (c : Char) (ends : endsAddress c = true) :
    parts (front ++ c :: back) = parts front ++ .plain c :: parts back :=
  partsAfter_append ends none 0 front back (Nat.zero_le _)

/-- Links are counted on each side of a separator apart. -/
theorem countLinks_append_separator (first second : String) (c : Char)
    (ends : endsAddress c = true) :
    countLinks (first ++ String.singleton c ++ second) =
      countLinks first + countLinks second := by
  have joined : (first ++ String.singleton c ++ second).toList =
      first.toList ++ c :: second.toList := by simp
  rw [countLinks, joined, parts_append_separator _ _ c ends, List.count_append,
    List.count_cons_of_ne (by simp), countLinks, countLinks]

/-- White space between two texts neither makes nor hides a link: the links of the whole are
those of the two texts. -/
theorem countLinks_additive (first second : String) (blank : Char)
    (white : isBlank blank = true) :
    countLinks (first ++ String.singleton blank ++ second) =
      countLinks first + countLinks second :=
  countLinks_append_separator first second blank (by simp [endsAddress, white])

/-- A beginning of an address in front of an ideographic space stays a mere beginning, and the
host behind the space is a link as it is alone. -/
theorem space_parts_start_from_host :
    isBlank '\u3000' = true ∧
      countLinks ("go to www." ++ String.singleton '\u3000' ++ "a.com/b or b.net") =
        countLinks "go to www." + countLinks "a.com/b or b.net" ∧
      countLinks "go to www." = 0 ∧ countLinks "a.com/b or b.net" = 2 := by
  have white : isBlank '\u3000' = true := by decide
  exact ⟨white, countLinks_additive "go to www." "a.com/b or b.net" '\u3000' white,
    by decide +kernel, by decide +kernel⟩

end Rulebook.Lint
