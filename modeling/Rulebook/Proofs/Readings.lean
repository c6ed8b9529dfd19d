import Rulebook.Pattern.Matcher

/-!
# The readings of a pattern

A run hands every end that a pattern can reach to a continuation until one works out. The
ends alone, in the order in which they are tried, say the same without the continuation:
`run_eq_findSome?` holds of every pattern. From there a reading is described by what it
takes. It moves forward over a word whose characters the pattern may take, and it leaves the
groups that the pattern does not set.
-/

namespace Rulebook

/-- The ends of a repetition that prefers more rounds. -/
def roundsMost (body : Cursor → List Cursor) :
    Nat → (need : Nat) → (room : Option Nat) → (last : Option Nat) → Cursor → List Cursor
  | 0, _, _, _, _ => []
  | fuel + 1, need, room, last, cursor =>
    if 0 < need then
      (body cursor).flatMap fun next =>
        let left := needAfter need cursor next
        roundsMost body fuel left (roomAfter room (need - left)) last next
    else if room != some 0 && last != some cursor.position then
      (body cursor).flatMap (roundsMost body fuel 0 (roomAfter room 1) (some cursor.position))
        ++ [cursor]
    else [cursor]

/-- At most one round has the ends of that round before the position itself. -/
theorem roundsMost_once (body : Cursor → List Cursor) (fuel : Nat) (cursor : Cursor) :
    roundsMost body (fuel + 2) 0 (some 1) none cursor = body cursor ++ [cursor] := by
  rw [roundsMost, if_neg (Nat.lt_irrefl 0), if_pos (by simp)]
  exact congrArg (· ++ [cursor]) (List.flatMap_singleton' _)

/-- The ends of a repetition that prefers fewer rounds. -/
def roundsFewest (body : Cursor → List Cursor) :
    Nat → (need : Nat) → (room : Option Nat) → (last : Option Nat) → Cursor → List Cursor
  | 0, _, _, _, _ => []
  | fuel + 1, need, room, last, cursor =>
    if 0 < need then
      (body cursor).flatMap fun next =>
        let left := needAfter need cursor next
        roundsFewest body fuel left (roomAfter room (need - left)) last next
    else if room != some 0 && last != some cursor.position then
      cursor ::
        (body cursor).flatMap (roundsFewest body fuel 0 (roomAfter room 1) (some cursor.position))
    else [cursor]

/-- The ends of a repetition of a single character. -/
def roundsOfChar (greed : Greed) (least : Nat) (most : Option Nat) (test : CharTest)
    (cursor : Cursor) : List Cursor :=
  let stops := (stretch test most cursor cursor.after).drop least
  match greed with
  | .most => stops.reverse
  | .fewest => stops
  | .firm => stops.getLast?.toList

/-- The one end of a condition on the text around a position, if it holds. Groups that were
set while the text was looked at stay set. -/
def lookedAround (negated : Bool) (found : Option Cursor) (cursor : Cursor) : List Cursor :=
  match found with
  | some found => if negated then [] else [{ cursor with groups := found.groups }]
  | none => if negated then [cursor] else []

namespace Pattern

/-- The ends that a pattern can reach from a position, in the order in which they are tried.
What is read in its first reading only has no further ends. -/
def readings : Pattern → Cursor → List Cursor
  | .empty, cursor => [cursor]
  | .char test, cursor =>
    match cursor.after with
    | c :: after => if test.accepts c then [cursor.step c after] else []
    | [] => []
  | .seq first second, cursor => (first.readings cursor).flatMap second.readings
  | .alt first second, cursor => first.readings cursor ++ second.readings cursor
  | .group index body, cursor => (body.readings cursor).map (·.remember index cursor)
  | .recall folding index, cursor =>
    match cursor.group? index with
    | some text => (cursor.over? folding text).toList
    | none => []
  | .place spot, cursor => if spot.holds cursor then [cursor] else []
  | .ahead negated body, cursor => lookedAround negated (body.run some cursor) cursor
  | .behind negated width body, cursor =>
    if cursor.position < width then lookedAround negated none cursor
    else lookedAround negated (body.run some (cursor.back width)) cursor
  | .firm body, cursor => (body.run some cursor).toList
  | .loop greed least most (.char test), cursor => roundsOfChar greed least most test cursor
  | .loop greed least most body, cursor =>
    match greed with
    | .most => roundsMost body.readings (loopFuel least cursor) least most none cursor
    | .fewest => roundsFewest body.readings (loopFuel least cursor) least most none cursor
    | .firm => (loopFirm body.run (loopFuel least cursor) least most none cursor).toList
  | .given index yes no, cursor =>
    if (cursor.group? index).isSome then yes.readings cursor else no.readings cursor

end Pattern

/-- Searching the parts of a list one after the other is searching it. -/
theorem findSome?_flatMap {α β γ : Type} (list : List α) (parts : α → List β) (f : β → Option γ) :
    (list.flatMap parts).findSome? f = list.findSome? fun item => (parts item).findSome? f := by
  induction list with
  | nil => rfl
  | cons item rest inductionHypothesis =>
    rw [List.flatMap_cons, List.findSome?_append, inductionHypothesis, List.findSome?_cons]
    cases (parts item).findSome? f <;> rfl

theorem findSome?_toList {α β : Type} (found : Option α) (f : α → Option β) :
    found.toList.findSome? f = found.bind f := by
  cases found with
  | none => rfl
  | some value => simp

/-- Rounds that prefer more try the ends of `roundsMost` in turn. -/
theorem loopMost_eq_findSome? {run : Rest → Rest} {body : Cursor → List Cursor}
    (reads : ∀ rest cursor, run rest cursor = (body cursor).findSome? rest) (rest : Rest)
    (fuel need : Nat) (room last : Option Nat) (cursor : Cursor) :
    loopMost run rest fuel need room last cursor =
      (roundsMost body fuel need room last cursor).findSome? rest := by
  induction fuel generalizing need room last cursor with
  | zero => rfl
  | succ fuel inductionHypothesis =>
    rw [loopMost, roundsMost]
    split
    · rw [reads, findSome?_flatMap]
      simp only [inductionHypothesis]
    · split
      · rw [reads, List.findSome?_append, findSome?_flatMap, List.findSome?_singleton]
        simp only [funext (inductionHypothesis 0 _ _)]
        cases List.findSome? _ (body cursor) <;> rfl
      · rw [List.findSome?_singleton]

/-- Rounds that prefer fewer try the ends of `roundsFewest` in turn. -/
theorem loopFewest_eq_findSome? {run : Rest → Rest} {body : Cursor → List Cursor}
    (reads : ∀ rest cursor, run rest cursor = (body cursor).findSome? rest) (rest : Rest)
    (fuel need : Nat) (room last : Option Nat) (cursor : Cursor) :
    loopFewest run rest fuel need room last cursor =
      (roundsFewest body fuel need room last cursor).findSome? rest := by
  induction fuel generalizing need room last cursor with
  | zero => rfl
  | succ fuel inductionHypothesis =>
    rw [loopFewest, roundsFewest]
    split
    · rw [reads, findSome?_flatMap]
      simp only [inductionHypothesis]
    · by_cases more : (room != some 0 && last != some cursor.position) = true
      · rw [if_pos more, if_pos more, reads, List.findSome?_cons, findSome?_flatMap]
        simp only [funext (inductionHypothesis 0 _ _)]
        cases rest cursor <;> rfl
      · rw [if_neg more, if_neg more, List.findSome?_singleton]
        cases rest cursor <;> rfl

theorem repeatChar_eq_findSome? (greed : Greed) (least : Nat) (most : Option Nat) (test : CharTest)
    (rest : Rest) (cursor : Cursor) :
    repeatChar greed least most test rest cursor =
      (roundsOfChar greed least most test cursor).findSome? rest := by
  cases greed <;> simp [repeatChar, roundsOfChar, findSome?_toList]

namespace Pattern

/-- A run tries the readings of its pattern in turn and nothing else. -/
theorem run_eq_findSome? (pattern : Pattern) (rest : Rest) (cursor : Cursor) :
    pattern.run rest cursor = (pattern.readings cursor).findSome? rest := by
  induction pattern generalizing rest cursor with
  | empty => rw [run, readings, List.findSome?_singleton]
  | char test =>
    rw [run, readings]
    cases cursor.after with
    | nil => rfl
    | cons c after => by_cases accepted : test.accepts c <;> simp [accepted]
  | seq first second ihFirst ihSecond =>
    rw [run, readings, ihFirst, findSome?_flatMap]
    simp only [funext (ihSecond rest)]
  | alt first second ihFirst ihSecond =>
    rw [run, readings, ihFirst, ihSecond, List.findSome?_append]
    cases (first.readings cursor).findSome? rest <;> rfl
  | group index body ih => rw [run, readings, ih, List.findSome?_map]; rfl
  | «recall» folding index =>
    rw [run, readings]
    cases cursor.group? index <;> simp [findSome?_toList]
  | place spot =>
    rw [run, readings]
    by_cases held : spot.holds cursor <;> simp [held]
  | ahead negated body =>
    rw [run, readings]
    cases body.run some cursor <;> cases negated <;> simp [lookedAround]
  | behind negated width body =>
    rw [run, readings]
    by_cases short : cursor.position < width
    · cases negated <;> simp [short, lookedAround]
    · cases body.run some (cursor.back width) <;> cases negated <;> simp [short, lookedAround]
  | firm body => rw [run, readings, findSome?_toList]
  | loop greed least most body ih =>
    cases body with
    | char test => exact repeatChar_eq_findSome? greed least most test rest cursor
    | _ =>
      cases greed with
      | most => exact loopMost_eq_findSome? ih rest _ least most none cursor
      | fewest => exact loopFewest_eq_findSome? ih rest _ least most none cursor
      | firm => exact (findSome?_toList _ rest).symm
  | given index yes no ihYes ihNo =>
    rw [run, readings]
    split
    · exact ihYes rest cursor
    · exact ihNo rest cursor

/-- What a pattern reaches on its own is its first reading. -/
theorem run_some (pattern : Pattern) (cursor : Cursor) :
    pattern.run some cursor = (pattern.readings cursor).head? := by
  rw [run_eq_findSome?]
  cases pattern.readings cursor <;> rfl

end Pattern

namespace Cursor

/-- The position behind a word, with the text that follows it. -/
def past (cursor : Cursor) (word after : List Char) : Cursor :=
  ⟨word.reverse ++ cursor.before, after, cursor.position + word.length, cursor.groups⟩

/-- A position in a text, given by the text on both sides. Nothing is remembered yet. -/
def between (front back : List Char) : Cursor := ⟨front.reverse, back, front.length, []⟩

@[simp] theorem after_past (cursor : Cursor) (word after : List Char) :
    (cursor.past word after).after = after := rfl

@[simp] theorem past_nil (cursor : Cursor) : cursor.past [] cursor.after = cursor := rfl

theorem past_past (cursor : Cursor) (word more between after : List Char) :
    (cursor.past word between).past more after = cursor.past (word ++ more) after := by
  simp [past, Nat.add_assoc]

theorem step_past (cursor : Cursor) (c : Char) (word between after : List Char) :
    (cursor.step c between).past word after = cursor.past (c :: word) after :=
  past_past cursor [c] word between after

theorem between_past (front word after : List Char) :
    (between front (word ++ after)).past word after = between (front ++ word) after := by
  simp [between, past]

end Cursor

/-- A word that a repetition of a single character may take. -/
structure Repeats (test : CharTest) (least : Nat) (most : Option Nat)
    (word : List Char) : Prop where
  accepted : ∀ c ∈ word, test.accepts c = true
  enough : least ≤ word.length
  within : ∀ bound, most = some bound → word.length ≤ bound

theorem repeats_cons (test : CharTest) (least : Nat) (most : Option Nat) (c : Char)
    (word : List Char) :
    Repeats test least most (c :: word) ↔
      (most ≠ some 0 ∧ test.accepts c = true) ∧
        Repeats test (least - 1) (most.map (· - 1)) word := by
  constructor
  · rintro ⟨accepted, enough, within⟩
    have room : most ≠ some 0 := by
      intro full
      exact absurd (within 0 full) (by simp)
    refine ⟨⟨room, accepted c List.mem_cons_self⟩,
      fun d member => accepted d (List.mem_cons_of_mem c member), ?_, ?_⟩
    · simp only [List.length_cons] at enough
      omega
    · intro bound fits
      obtain ⟨limit, isMost, rfl⟩ := Option.map_eq_some_iff.mp fits
      have := within limit isMost
      simp only [List.length_cons] at this
      omega
  · rintro ⟨⟨room, first⟩, accepted, enough, within⟩
    refine ⟨by simpa using ⟨first, accepted⟩, ?_, ?_⟩
    · simp only [List.length_cons]
      omega
    · rintro bound rfl
      have positive : bound ≠ 0 := by
        rintro rfl
        exact room rfl
      have := within (bound - 1) rfl
      simp only [List.length_cons]
      omega

/-- A word that may be taken from a text is empty, or it begins with the first character. -/
theorem exists_repeats_cons (test : CharTest) (least : Nat) (most : Option Nat) (c : Char)
    (after : List Char) (cursor stop : Cursor) (here : cursor.after = c :: after) :
    (∃ word, Repeats test least most word ∧ c :: after = word ++ stop.after ∧
        stop = cursor.past word stop.after) ↔
      (least = 0 ∧ stop = cursor) ∨ (most ≠ some 0 ∧ test.accepts c = true) ∧
        ∃ word, Repeats test (least - 1) (most.map (· - 1)) word ∧ after = word ++ stop.after ∧
          stop = (cursor.step c after).past word stop.after := by
  constructor
  · rintro ⟨word, repeated, split, isStop⟩
    cases word with
    | nil =>
      refine .inl ⟨Nat.le_zero.mp repeated.enough, ?_⟩
      rw [isStop, ← show c :: after = stop.after from split, ← here, Cursor.past_nil]
    | cons d word =>
      obtain ⟨rfl, tail⟩ := List.cons_eq_cons.mp split
      obtain ⟨allowed, repeated⟩ := (repeats_cons test least most c word).mp repeated
      refine .inr ⟨allowed, word, repeated, tail, ?_⟩
      rw [Cursor.step_past]
      exact isStop
  · rintro (⟨rfl, rfl⟩ | ⟨allowed, word, repeated, split, isStop⟩)
    · exact ⟨[], ⟨by simp, Nat.le_refl 0, by simp⟩, here.symm, rfl⟩
    · rw [Cursor.step_past] at isStop
      exact ⟨c :: word, (repeats_cons test least most c word).mpr ⟨allowed, repeated⟩,
        congrArg (c :: ·) split, isStop⟩

/-- The ends of a stretch from the least length on are the ends of the words that the
repetition may take. -/
theorem mem_drop_stretch (test : CharTest) (text : List Char) (least : Nat) (most : Option Nat)
    (cursor stop : Cursor) (here : cursor.after = text) :
    stop ∈ (stretch test most cursor text).drop least ↔
      ∃ word, Repeats test least most word ∧ text = word ++ stop.after ∧
        stop = cursor.past word stop.after := by
  induction text generalizing least most cursor with
  | nil =>
    rw [stretch]
    constructor
    · intro member
      cases least with
      | zero =>
        obtain rfl := List.mem_singleton.mp member
        exact ⟨[], ⟨by simp, Nat.le_refl 0, by simp⟩, here.symm, rfl⟩
      | succ least => simp at member
    · rintro ⟨word, repeated, split, isStop⟩
      obtain ⟨rfl, ended⟩ := List.append_eq_nil_iff.mp split.symm
      obtain rfl := Nat.le_zero.mp repeated.enough
      have stays : cursor.past [] cursor.after = cursor := Cursor.past_nil cursor
      rw [here] at stays
      rw [isStop, ended, stays]
      exact List.mem_singleton_self cursor
  | cons c after inductionHypothesis =>
    rw [exists_repeats_cons test least most c after cursor stop here,
      ← inductionHypothesis (least - 1) _ (cursor.step c after) rfl, stretch]
    by_cases allowed : most ≠ some 0 ∧ test.accepts c = true
    · rw [if_pos (by simpa using allowed)]
      cases least <;> simp [allowed]
    · rw [if_neg (by simpa using allowed)]
      cases least <;> simp [allowed]

/-- Two positions agree on the groups outside the given ones, and on all of them if there are
none of those. -/
structure Cursor.Keeps (set : Nat → Bool) (cursor stop : Cursor) : Prop where
  kept : ∀ index, set index = false → stop.group? index = cursor.group? index
  unset : (∀ index, set index = false) → stop.groups = cursor.groups

/-- What lies between two positions: the second one is behind a word of allowed characters, and
the groups outside the given ones are the same. -/
structure Cursor.Moves (allowed : Char → Bool) (set : Nat → Bool)
    (cursor stop : Cursor) : Prop extends cursor.Keeps set stop where
  taken : ∃ word, (∀ c ∈ word, allowed c = true) ∧ cursor.after = word ++ stop.after ∧
    stop.before = word.reverse ++ cursor.before ∧ stop.position = cursor.position + word.length

namespace Cursor.Moves

variable {allowed : Char → Bool} {set : Nat → Bool} {cursor next stop : Cursor}

theorem refl (allowed : Char → Bool) (set : Nat → Bool) (cursor : Cursor) :
    cursor.Moves allowed set cursor :=
  ⟨⟨fun _ _ => rfl, fun _ => rfl⟩, [], by simp⟩

theorem trans (first : cursor.Moves allowed set next) (second : next.Moves allowed set stop) :
    cursor.Moves allowed set stop := by
  obtain ⟨⟨kept, unset⟩, word, inWord, split, before, position⟩ := first
  obtain ⟨⟨keptMore, unsetMore⟩, more, inMore, splitMore, beforeMore, positionMore⟩ := second
  refine ⟨⟨fun index outside => (keptMore index outside).trans (kept index outside),
    fun none => (unsetMore none).trans (unset none)⟩, word ++ more, ?_, ?_, ?_, ?_⟩
  · simpa [or_imp, forall_and] using ⟨inWord, inMore⟩
  · rw [split, splitMore, List.append_assoc]
  · rw [beforeMore, before, List.reverse_append, List.append_assoc]
  · rw [positionMore, position, List.length_append, Nat.add_assoc]

theorem mono {wider : Char → Bool} {more : Nat → Bool} (moves : cursor.Moves allowed set stop)
    (widens : ∀ c, allowed c = true → wider c = true)
    (grows : ∀ index, more index = false → set index = false) :
    cursor.Moves wider more stop := by
  obtain ⟨⟨kept, unset⟩, word, inWord, rest⟩ := moves
  exact ⟨⟨fun index outside => kept index (grows index outside),
    fun none => unset fun index => grows index (none index)⟩,
    word, fun c member => widens c (inWord c member), rest⟩

/-- A move of one branch is a move of both. -/
theorem or_left (other : Char → Bool) (more : Nat → Bool)
    (moves : cursor.Moves allowed set stop) :
    cursor.Moves (fun c => allowed c || other c) (fun index => set index || more index) stop :=
  moves.mono (fun _ taken => by rw [taken, Bool.true_or]) fun _ outside =>
    (Bool.or_eq_false_iff.mp outside).1

theorem or_right (other : Char → Bool) (more : Nat → Bool)
    (moves : cursor.Moves allowed set stop) :
    cursor.Moves (fun c => other c || allowed c) (fun index => more index || set index) stop :=
  moves.mono (fun _ taken => by rw [taken, Bool.or_true]) fun _ outside =>
    (Bool.or_eq_false_iff.mp outside).2

/-- What begins between two parts of a text and sets no group ends between two parts of it. -/
theorem eq_between {front back : List Char} (moves : (between front back).Moves allowed set stop)
    (none : ∀ index, set index = false) :
    ∃ word, (∀ c ∈ word, allowed c = true) ∧ back = word ++ stop.after ∧
      stop = between (front ++ word) stop.after := by
  obtain ⟨⟨-, unset⟩, word, inWord, split, before, position⟩ := moves
  have groups := unset none
  refine ⟨word, inWord, split, ?_⟩
  cases stop
  simp_all [between]

/-- Looking around takes nothing. -/
theorem of_lookedAround {negated : Bool} {found? : Option Cursor}
    (kept : ∀ found, found? = some found → cursor.Keeps set found)
    (member : stop ∈ lookedAround negated found? cursor) : cursor.Moves allowed set stop := by
  cases found? with
  | none =>
    cases negated with
    | false => simp [lookedAround] at member
    | true => exact List.mem_singleton.mp member ▸ refl allowed set cursor
  | some found =>
    cases negated with
    | false =>
      obtain rfl := List.mem_singleton.mp member
      exact ⟨⟨(kept found rfl).kept, (kept found rfl).unset⟩, [], by simp⟩
    | true => simp [lookedAround] at member

/-- A repetition moves as its rounds do. -/
theorem of_roundsMost {body : Cursor → List Cursor}
    (round : ∀ cursor, ∀ stop ∈ body cursor, cursor.Moves allowed set stop)
    (fuel need : Nat) (room last : Option Nat)
    (member : stop ∈ roundsMost body fuel need room last cursor) :
    cursor.Moves allowed set stop := by
  induction fuel generalizing need room last cursor with
  | zero => simp [roundsMost] at member
  | succ fuel inductionHypothesis =>
    rw [roundsMost] at member
    split at member
    · obtain ⟨next, reached, onward⟩ := List.mem_flatMap.mp member
      exact (round cursor next reached).trans (inductionHypothesis _ _ _ onward)
    · split at member
      · rcases List.mem_append.mp member with further | here
        · obtain ⟨next, reached, onward⟩ := List.mem_flatMap.mp further
          exact (round cursor next reached).trans (inductionHypothesis _ _ _ onward)
        · exact List.mem_singleton.mp here ▸ refl allowed set cursor
      · exact List.mem_singleton.mp member ▸ refl allowed set cursor

theorem of_roundsFewest {body : Cursor → List Cursor}
    (round : ∀ cursor, ∀ stop ∈ body cursor, cursor.Moves allowed set stop)
    (fuel need : Nat) (room last : Option Nat)
    (member : stop ∈ roundsFewest body fuel need room last cursor) :
    cursor.Moves allowed set stop := by
  induction fuel generalizing need room last cursor with
  | zero => simp [roundsFewest] at member
  | succ fuel inductionHypothesis =>
    rw [roundsFewest] at member
    split at member
    · obtain ⟨next, reached, onward⟩ := List.mem_flatMap.mp member
      exact (round cursor next reached).trans (inductionHypothesis _ _ _ onward)
    · split at member
      · rcases List.mem_cons.mp member with rfl | further
        · exact refl allowed set stop
        · obtain ⟨next, reached, onward⟩ := List.mem_flatMap.mp further
          exact (round cursor next reached).trans (inductionHypothesis _ _ _ onward)
      · exact List.mem_singleton.mp member ▸ refl allowed set cursor

theorem of_loopFirm {body : Rest → Rest}
    (round : ∀ cursor stop, body some cursor = some stop → cursor.Moves allowed set stop)
    (fuel need : Nat) (room last : Option Nat)
    (found : loopFirm body fuel need room last cursor = some stop) :
    cursor.Moves allowed set stop := by
  induction fuel generalizing need room last cursor with
  | zero => simp [loopFirm] at found
  | succ fuel inductionHypothesis =>
    rw [loopFirm] at found
    cases reached : body some cursor with
    | none =>
      have stays : need = 0 ∧ cursor = stop := by simpa [reached] using found
      exact stays.2 ▸ refl allowed set cursor
    | some next =>
      simp only [reached] at found
      split at found
      · exact (round cursor next reached).trans (inductionHypothesis _ _ _ found)
      · split at found
        · exact (round cursor next reached).trans (inductionHypothesis _ _ _ found)
        · exact Option.some_inj.mp found ▸ refl allowed set cursor

end Cursor.Moves

namespace Pattern

/-- The characters that a reading may take. -/
def mayTake : Pattern → Char → Bool
  | .char test, c => test.accepts c
  | .seq first second, c | .alt first second, c | .given _ first second, c =>
    first.mayTake c || second.mayTake c
  | .group _ body, c | .firm body, c | .loop _ _ _ body, c => body.mayTake c
  | .recall .., _ => true
  | .empty, _ | .place _, _ | .ahead .., _ | .behind .., _ => false

/-- The groups that a reading may set. -/
def maySet : Pattern → Nat → Bool
  | .seq first second, index | .alt first second, index | .given _ first second, index =>
    first.maySet index || second.maySet index
  | .group own body, index => index == own || body.maySet index
  | .firm body, index | .loop _ _ _ body, index | .ahead _ body, index
  | .behind _ _ body, index => body.maySet index
  | .recall .., _ | .char _, _ | .empty, _ | .place _, _ => false

end Pattern

namespace Cursor

/-- Moving over a remembered text sets no group. -/
theorem moves_of_over? (folding : Folding) (text : List Char) (cursor stop : Cursor)
    (moved : cursor.over? folding text = some stop) :
    cursor.Moves (fun _ => true) (fun _ => false) stop := by
  induction text generalizing cursor with
  | nil => exact Option.some_inj.mp moved ▸ Moves.refl _ _ cursor
  | cons d word inductionHypothesis =>
    rw [over?] at moved
    cases ahead : cursor.after with
    | nil => simp [ahead] at moved
    | cons c rest =>
      simp only [ahead] at moved
      split at moved
      · have first : cursor.Moves (fun _ => true) (fun _ => false) (cursor.step c rest) :=
          ⟨⟨fun _ _ => rfl, fun _ => rfl⟩, [c], by simp, ahead, rfl, rfl⟩
        exact first.trans (inductionHypothesis (cursor.step c rest) moved)
      · simp at moved

/-- The text remembered is the word between the two positions. -/
theorem remember_eq (index : Nat) (word : List Char) (since cursor : Cursor)
    (split : since.after = word ++ cursor.after)
    (forward : cursor.position = since.position + word.length) :
    cursor.remember index since =
      { cursor with groups := (index, word) :: cursor.groups.filter (·.1 != index) } := by
  rw [remember, split, forward, Nat.add_sub_cancel_left, List.take_left]

theorem group?_remember (index : Nat) (since cursor : Cursor) :
    (cursor.remember index since).group? index =
      some (since.after.take (cursor.position - since.position)) := by
  simp [remember, group?]

theorem group?_remember_past (index : Nat) (word after : List Char) (cursor : Cursor)
    (split : cursor.after = word ++ after) :
    ((cursor.past word after).remember index cursor).group? index = some word := by
  rw [remember_eq index word cursor _ split rfl]
  simp [group?]

theorem group?_remember_of_ne (cursor since : Cursor) (index other : Nat) (apart : other ≠ index) :
    (cursor.remember index since).group? other = cursor.group? other := by
  simp only [remember, group?]
  rw [List.find?_cons_of_neg (by simpa using apart.symm), List.find?_filter]
  congr 2
  funext group
  by_cases same : group.1 = other <;> simp [same, apart]

end Cursor

namespace Pattern

/-- A single character is read when it passes the test. -/
theorem mem_readings_char (test : CharTest) (cursor stop : Cursor) :
    stop ∈ (char test).readings cursor ↔
      ∃ c, test.accepts c = true ∧ cursor.after = c :: stop.after ∧
        stop = cursor.step c stop.after := by
  rw [readings]
  cases cursor.after with
  | nil => simp
  | cons c after =>
    simp only [List.mem_ite_nil_right, List.mem_singleton]
    constructor
    · rintro ⟨accepted, rfl⟩
      exact ⟨c, accepted, rfl, rfl⟩
    · rintro ⟨d, accepted, split, isStop⟩
      obtain ⟨rfl, rfl⟩ := List.cons_eq_cons.mp split
      exact ⟨accepted, isStop⟩

/-- Where a sequence can be read, its first part can. -/
theorem readings_ne_nil_of_seq {first second : Pattern} {cursor : Cursor}
    (some : (seq first second).readings cursor ≠ []) : first.readings cursor ≠ [] := by
  obtain ⟨stop, member⟩ := List.exists_mem_of_ne_nil _ some
  obtain ⟨mid, reached, -⟩ := List.mem_flatMap.mp member
  exact List.ne_nil_of_mem reached

/-- Where a group can be read, what it holds can. -/
theorem readings_ne_nil_of_group {index : Nat} {body : Pattern} {cursor : Cursor}
    (some : (group index body).readings cursor ≠ []) : body.readings cursor ≠ [] := by
  intro none
  apply some
  rw [readings, none, List.map_nil]

/-- A reading moves forward over characters that the pattern may take, and it sets only groups
of the pattern. -/
theorem moves_of_mem_readings (pattern : Pattern) (cursor stop : Cursor)
    (member : stop ∈ pattern.readings cursor) :
    cursor.Moves pattern.mayTake pattern.maySet stop := by
  induction pattern generalizing cursor stop with
  | empty =>
    obtain rfl := List.mem_singleton.mp member
    exact .refl _ _ stop
  | char test =>
    obtain ⟨c, accepted, split, isStop⟩ := (mem_readings_char test cursor stop).mp member
    rw [isStop]
    exact ⟨⟨fun _ _ => rfl, fun _ => rfl⟩, [c], by simpa [mayTake], split, rfl, rfl⟩
  | seq first second ihFirst ihSecond =>
    obtain ⟨mid, reached, onward⟩ := List.mem_flatMap.mp member
    exact ((ihFirst cursor mid reached).or_left _ _).trans ((ihSecond mid stop onward).or_right _ _)
  | alt first second ihFirst ihSecond =>
    rcases List.mem_append.mp member with left | right
    · exact (ihFirst cursor stop left).or_left _ _
    · exact (ihSecond cursor stop right).or_right _ _
  | group index body ih =>
    obtain ⟨inner, reached, rfl⟩ := List.mem_map.mp member
    obtain ⟨⟨kept, -⟩, taken⟩ := ih cursor inner reached
    refine ⟨⟨?_, ?_⟩, taken⟩
    · intro other outside
      simp only [maySet, Bool.or_eq_false_iff, beq_eq_false_iff_ne] at outside
      rw [Cursor.group?_remember_of_ne inner cursor index other outside.1, kept other outside.2]
    · intro none
      simpa [maySet] using none index
  | «recall» folding index =>
    rw [readings] at member
    cases remembered : cursor.group? index with
    | none => simp [remembered] at member
    | some text =>
      simp only [remembered, Option.mem_toList] at member
      exact Cursor.moves_of_over? folding text cursor stop member
  | place spot =>
    rw [readings] at member
    split at member
    · obtain rfl := List.mem_singleton.mp member
      exact .refl _ _ stop
    · simp at member
  | ahead negated body ih =>
    rw [readings, run_some] at member
    apply Cursor.Moves.of_lookedAround _ member
    intro found reached
    exact (ih cursor found (List.mem_of_head? reached)).toKeeps
  | behind negated width body ih =>
    rw [readings, run_some] at member
    split at member
    · exact .of_lookedAround (fun found reached => by simp at reached) member
    · apply Cursor.Moves.of_lookedAround _ member
      intro found reached
      have inner := ih (cursor.back width) found (List.mem_of_head? reached)
      exact ⟨inner.kept, inner.unset⟩
  | firm body ih =>
    rw [readings, run_some, Option.mem_toList] at member
    exact ih cursor stop (List.mem_of_head? member)
  | loop greed least most body ih =>
    cases body with
    | char test =>
      have inStretch : stop ∈ (stretch test most cursor cursor.after).drop least := by
        cases greed with
        | most => exact List.mem_reverse.mp member
        | fewest => exact member
        | firm => exact List.mem_of_getLast? (Option.mem_toList.mp member)
      obtain ⟨word, repeated, split, isStop⟩ :=
        (mem_drop_stretch test _ least most cursor stop rfl).mp inStretch
      rw [isStop]
      exact ⟨⟨fun _ _ => rfl, fun _ => rfl⟩, word, repeated.accepted, split, rfl, rfl⟩
    | _ =>
      cases greed with
      | most => exact .of_roundsMost ih _ _ _ _ member
      | fewest => exact .of_roundsFewest ih _ _ _ _ member
      | firm =>
        apply Cursor.Moves.of_loopFirm _ _ _ _ _ (Option.mem_toList.mp member)
        intro start next found
        rw [run_some] at found
        exact ih start next (List.mem_of_head? found)
  | given index yes no ihYes ihNo =>
    rw [readings] at member
    split at member
    · exact (ihYes cursor stop member).or_left _ _
    · exact (ihNo cursor stop member).or_right _ _

/-- True when every reading takes at least one character. Repetitions are not looked into. -/
def takesText : Pattern → Bool
  | .char _ => true
  | .seq first second => first.takesText || second.takesText
  | .alt first second => first.takesText && second.takesText
  | .group _ body => body.takesText
  | _ => false

/-- A pattern that takes text ends behind the position that it is read from. -/
theorem lt_of_takesText (pattern : Pattern) (takes : pattern.takesText = true)
    (cursor stop : Cursor) (member : stop ∈ pattern.readings cursor) :
    cursor.position < stop.position := by
  induction pattern generalizing cursor stop with
  | char test =>
    obtain ⟨c, -, -, isStop⟩ := (mem_readings_char test cursor stop).mp member
    rw [isStop]
    exact Nat.lt_succ_self cursor.position
  | seq first second ihFirst ihSecond =>
    obtain ⟨mid, reached, onward⟩ := List.mem_flatMap.mp member
    obtain ⟨_, -, -, -, start⟩ := (moves_of_mem_readings first cursor mid reached).taken
    obtain ⟨_, -, -, -, finish⟩ := (moves_of_mem_readings second mid stop onward).taken
    rcases Bool.or_eq_true_iff.mp takes with early | late
    · have := ihFirst early cursor mid reached
      omega
    · have := ihSecond late mid stop onward
      omega
  | alt first second ihFirst ihSecond =>
    obtain ⟨left, right⟩ := Bool.and_eq_true_iff.mp takes
    rcases List.mem_append.mp member with inFirst | inSecond
    · exact ihFirst left cursor stop inFirst
    · exact ihSecond right cursor stop inSecond
  | group index body ih =>
    obtain ⟨inner, reached, rfl⟩ := List.mem_map.mp member
    exact ih takes cursor inner reached
  | _ => simp [takesText] at takes

/-- What takes text takes a first character and maybe more. -/
theorem taken_of_takesText (pattern : Pattern) (takes : pattern.takesText = true)
    (cursor stop : Cursor) (member : stop ∈ pattern.readings cursor) :
    ∃ c rest, pattern.mayTake c = true ∧ cursor.after = c :: (rest ++ stop.after) ∧
      stop.position = cursor.position + (c :: rest).length := by
  have forward := lt_of_takesText pattern takes cursor stop member
  obtain ⟨taken, inTaken, split, -, position⟩ :=
    (moves_of_mem_readings pattern cursor stop member).taken
  cases taken with
  | nil =>
    rw [position] at forward
    exact absurd forward (Nat.lt_irrefl _)
  | cons c rest => exact ⟨c, rest, inTaken c List.mem_cons_self, split, position⟩

/-- A part that may be missing is read first, and then left out. -/
theorem readings_optional (body : Pattern) (cursor : Cursor) :
    (optional body).readings cursor = body.readings cursor ++ [cursor] := by
  cases body with
  | char test =>
    show (stretch test (some 1) cursor cursor.after).reverse = _
    rw [readings]
    cases cursor.after with
    | nil => rfl
    | cons c after =>
      have done : stretch test (some 0) (cursor.step c after) after = [cursor.step c after] := by
        cases after <;> rfl
      by_cases accepted : test.accepts c = true
      · simp [stretch, accepted, done]
      · simp [stretch, accepted]
  | _ => exact roundsMost_once _ (0 + cursor.after.length + 1) cursor

/-- The ends of a repetition of a single character that reconsiders are the ends of the words
that it may take. -/
theorem mem_readings_many (greed : Greed) (least : Nat) (most : Option Nat) (test : CharTest)
    (reconsiders : greed ≠ .firm) (cursor stop : Cursor) :
    stop ∈ (loop greed least most (.char test)).readings cursor ↔
      ∃ word, Repeats test least most word ∧ cursor.after = word ++ stop.after ∧
        stop = cursor.past word stop.after := by
  rw [← mem_drop_stretch test cursor.after least most cursor stop rfl]
  cases greed with
  | most => exact List.mem_reverse
  | fewest => exact Iff.rfl
  | firm => exact absurd rfl reconsiders

end Pattern

theorem length_stretch (test : CharTest) (cursor : Cursor) (text : List Char) :
    (stretch test none cursor text).length = (text.takeWhile test.accepts).length + 1 := by
  induction text generalizing cursor with
  | nil => rfl
  | cons c after inductionHypothesis =>
    by_cases accepted : test.accepts c = true
    · simp [stretch, accepted, inductionHypothesis]
    · simp [stretch, accepted]

theorem getLast?_stretch (test : CharTest) (cursor : Cursor) (text : List Char)
    (here : cursor.after = text) :
    (stretch test none cursor text).getLast? =
      some (cursor.past (text.takeWhile test.accepts) (text.dropWhile test.accepts)) := by
  induction text generalizing cursor with
  | nil =>
    have stays := Cursor.past_nil cursor
    rw [here] at stays
    simp [stretch, stays]
  | cons c after inductionHypothesis =>
    have stays := Cursor.past_nil cursor
    rw [here] at stays
    by_cases accepted : test.accepts c = true
    · have further := inductionHypothesis (cursor.step c after) rfl
      rw [Cursor.step_past] at further
      simp [stretch, accepted, List.getLast?_cons, further]
    · simp [stretch, accepted, stays]

namespace Pattern

/-- A repetition that prefers more first takes all the characters that pass the test. -/
theorem head?_readings_many (least : Nat) (test : CharTest) (cursor : Cursor)
    (enough : least ≤ (cursor.after.takeWhile test.accepts).length) :
    ((loop .most least none (.char test)).readings cursor).head? =
      some (cursor.past (cursor.after.takeWhile test.accepts)
        (cursor.after.dropWhile test.accepts)) := by
  show ((stretch test none cursor cursor.after).drop least).reverse.head? = _
  rw [List.head?_reverse, List.getLast?_drop, length_stretch, if_neg (by omega),
    getLast?_stretch test cursor _ rfl]

end Pattern

end Rulebook
