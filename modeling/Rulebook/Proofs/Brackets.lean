import Rulebook.Extract.Query
import Rulebook.Proofs.Places
import Rulebook.Proofs.Readings

/-!
# Tags in brackets

A tag is a pair of brackets with one to thirty characters between them, none of which is a bracket or
ends the line, and no link target is opened right behind it. The tags of a text are looked for at each
opening bracket on its own. That misses none and finds none twice: what follows an opening bracket
settles the tag there, since it ends at the next bracket.

The tags are also what a pattern finds that takes up to thirty characters, reconsiders, looks at the
character behind, and is searched for again behind each match. In the characters of a match there is
no second opening bracket, so nothing is lost by going on behind it.
-/

namespace Rulebook.Extract

/-- What may stand between the brackets of a tag. -/
structure IsTagInside (inside : List Char) : Prop where
  long : 1 ≤ inside.length
  short : inside.length ≤ 30
  plain : ∀ c ∈ inside, c ≠ '[' ∧ c ≠ ']' ∧ c ≠ '\n'

/-- A tag stands at a place of a text, and no bracket behind it makes it a link. -/
def TagAt (text : List Char) (place : Nat) (tag : String) : Prop :=
  ∃ before inside after, IsTagInside inside ∧ tag.toList = '[' :: (inside ++ [']']) ∧
    text = before ++ tag.toList ++ after ∧ before.length = place ∧ after.head? ≠ some '('

theorem isTagChar_iff (c : Char) : isTagChar c = true ↔ c ≠ '[' ∧ c ≠ ']' ∧ c ≠ '\n' := by
  simp [isTagChar, and_assoc]

/-- Behind an opening bracket there is a tag exactly when its inside, a closing bracket and no link
target follow. -/
theorem tagInside?_eq_some_iff (cs inside : List Char) :
    tagInside? cs = some inside ↔
      IsTagInside inside ∧ ∃ after, cs = inside ++ ']' :: after ∧ after.head? ≠ some '(' := by
  constructor
  · intro found
    unfold tagInside? at found
    dsimp only at found
    split at found
    · next after closed =>
      split at found
      · cases found
      · next fits =>
        obtain rfl := Option.some.inj found
        simp only [Bool.or_eq_true, List.isEmpty_iff, decide_eq_true_eq, beq_iff_eq, not_or,
          Nat.not_lt] at fits
        obtain ⟨⟨some, short⟩, free⟩ := fits
        refine ⟨⟨List.length_pos_iff.mpr some, short, ?_⟩, after, ?_, free⟩
        · intro c member
          rw [← isTagChar_iff]
          exact List.all_eq_true.mp List.all_takeWhile c member
        · rw [← closed, List.takeWhile_append_dropWhile]
    · cases found
  · rintro ⟨⟨long, short, plain⟩, after, rfl, free⟩
    have accepted : ∀ c ∈ inside, isTagChar c = true := fun c member =>
      (isTagChar_iff c).mpr (plain c member)
    have closing : isTagChar ']' = false := by decide
    have taken : (inside ++ ']' :: after).takeWhile isTagChar = inside := by
      rw [List.takeWhile_append_of_pos accepted, List.takeWhile_cons_of_neg (by simp [closing]),
        List.append_nil]
    have dropped : (inside ++ ']' :: after).dropWhile isTagChar = ']' :: after := by
      rw [List.dropWhile_append_of_pos accepted, List.dropWhile_cons_of_neg (by simp [closing])]
    have fits : ¬ (inside.isEmpty || decide (tagLimit < inside.length) ||
        after.head? == some '(') = true := by
      simp only [Bool.or_eq_true, List.isEmpty_iff, decide_eq_true_eq, beq_iff_eq, not_or,
        Nat.not_lt]
      exact ⟨⟨List.length_pos_iff.mp long, short⟩, free⟩
    rw [tagInside?, taken, dropped]
    exact if_neg fits

/-- The tag in front of a text is settled by its first character and what follows it. -/
theorem tagAt_zero_iff (c : Char) (rest : List Char) (tag : String) :
    TagAt (c :: rest) 0 tag ↔
      c = '[' ∧ ∃ inside, tagInside? rest = some inside ∧
        tag = String.ofList ('[' :: (inside ++ [']'])) := by
  constructor
  · rintro ⟨before, inside, after, isInside, letters, split, start, free⟩
    obtain rfl := List.eq_nil_of_length_eq_zero start
    obtain ⟨rfl, follows⟩ : c = '[' ∧ rest = inside ++ ']' :: after := by
      simpa [letters] using split
    refine ⟨rfl, inside, ?_, ?_⟩
    · exact (tagInside?_eq_some_iff rest inside).mpr ⟨isInside, after, follows, free⟩
    · rw [← letters, String.ofList_toList]
  · rintro ⟨rfl, inside, found, rfl⟩
    obtain ⟨isInside, after, rfl, free⟩ := (tagInside?_eq_some_iff rest inside).mp found
    refine ⟨[], inside, after, isInside, String.toList_ofList, ?_, rfl, free⟩
    simp

theorem tagAt_succ_iff (c : Char) (rest : List Char) (place : Nat) (tag : String) :
    TagAt (c :: rest) (place + 1) tag ↔ TagAt rest place tag := by
  constructor
  · rintro ⟨before, inside, after, isInside, letters, split, start, free⟩
    cases before with
    | nil => cases start
    | cons d before =>
      refine ⟨before, inside, after, isInside, letters, ?_, Nat.succ.inj start, free⟩
      exact (List.cons.inj split).2
  · rintro ⟨before, inside, after, isInside, letters, rfl, rfl, free⟩
    exact ⟨c :: before, inside, after, isInside, letters, rfl, rfl, free⟩

/-- Looking at each opening bracket on its own lists all tags in order. -/
theorem listsInOrder_tagsOf (cs : List Char) : ListsInOrder (TagAt cs) (tagsOf cs) := by
  induction cs with
  | nil =>
    apply ListsInOrder.nil
    rintro place tag ⟨before, inside, after, -, letters, split, -⟩
    rw [letters] at split
    simp at split
  | cons c rest inductionHypothesis =>
    have behind := inductionHypothesis.shift 1
    by_cases found : ∃ inside, c = '[' ∧ tagInside? rest = some inside
    · obtain ⟨inside, rfl, isInside⟩ := found
      have listed : tagsOf ('[' :: rest) =
          String.ofList ('[' :: (inside ++ [']'])) :: tagsOf rest := by
        simp [tagsOf, isInside]
      rw [listed]
      apply (behind.cons 0 _ ?_).congr
      · intro place tag
        cases place with
        | zero => simp [tagAt_zero_iff, isInside]
        | succ place => simp [tagAt_succ_iff]
      · rintro place tag ⟨start, rfl, -⟩
        omega
    · have listed : tagsOf (c :: rest) = tagsOf rest := by
        rw [tagsOf]
        split
        · next opening =>
          cases isInside : tagInside? rest with
          | none => rfl
          | some inside => exact absurd ⟨inside, beq_iff_eq.mp opening, isInside⟩ found
        · rfl
      rw [listed]
      apply behind.congr
      intro place tag
      cases place with
      | zero =>
        rw [tagAt_zero_iff]
        constructor
        · rintro ⟨rfl, inside, isInside, -⟩
          exact absurd ⟨inside, rfl, isInside⟩ found
        · rintro ⟨start, shifted, -⟩
          omega
      | succ place => simp [tagAt_succ_iff]

section Search

open Pattern

/-- The pattern `\[[^\[\]\n]{1,30}\](?!\()`: a bracket, as many as possible of one to thirty
characters that are neither a bracket nor a line feed, the closing bracket, and no round one behind
it. -/
def tagPattern : Pattern :=
  all [.char (.letter .exact false '['),
    .loop .most 1 (some 30) (.char (.set .exact true [.one '[', .one ']', .one '\n'])),
    .char (.letter .exact false ']'), .ahead true (.char (.letter .exact false '('))]

theorem accepts_letter (d c : Char) :
    (CharTest.letter .exact false d).accepts c = true ↔ d = c := by
  simp [CharTest.accepts, Folding.same]

theorem accepts_tagChar (c : Char) :
    (CharTest.set .exact true [.one '[', .one ']', .one '\n']).accepts c = true ↔
      c ≠ '[' ∧ c ≠ ']' ∧ c ≠ '\n' := by
  have exact : (Folding.exact == Folding.full) = false := rfl
  simp only [CharTest.accepts, SetItem.holds, exact, Folding.same, List.any_cons, List.any_nil,
    Bool.false_and, Bool.false_eq_true, if_false, Bool.or_false, bne_iff_ne, ne_eq,
    Bool.not_eq_true, Bool.or_eq_false_iff, beq_eq_false_iff_ne]

/-- A letter is read where it follows. -/
theorem mem_readings_letter (d : Char) (cursor stop : Cursor) :
    stop ∈ (char (.letter .exact false d)).readings cursor ↔
      cursor.after = d :: stop.after ∧ stop = cursor.past [d] stop.after := by
  rw [mem_readings_char]
  constructor
  · rintro ⟨c, accepted, split, isStop⟩
    obtain rfl := (accepts_letter d c).mp accepted
    exact ⟨split, isStop⟩
  · rintro ⟨split, isStop⟩
    exact ⟨d, (accepts_letter d d).mpr rfl, split, isStop⟩

/-- A position that a letter does not follow is left as it is. -/
theorem mem_readings_notAhead (d : Char) (cursor stop : Cursor) :
    stop ∈ (ahead true (char (.letter .exact false d))).readings cursor ↔
      stop = cursor ∧ cursor.after.head? ≠ some d := by
  rw [readings, run]
  cases cursor.after with
  | nil => simp [lookedAround]
  | cons c after =>
    rw [List.head?_cons, Ne, Option.some.injEq, eq_comm (a := c), ← accepts_letter d c]
    by_cases accepted : (CharTest.letter .exact false d).accepts c = true <;>
      simp [accepted, lookedAround]

/-- The pattern is read over a tag. -/
theorem mem_readings_tagPattern (cursor stop : Cursor) :
    stop ∈ tagPattern.readings cursor ↔
      ∃ inside rest, cursor.after = '[' :: rest ∧ rest = inside ++ ']' :: stop.after ∧
        tagInside? rest = some inside ∧
        stop = cursor.past ('[' :: (inside ++ [']'])) stop.after := by
  constructor
  · intro member
    obtain ⟨opened, isOpened, member⟩ := List.mem_flatMap.mp member
    obtain ⟨inner, isInner, member⟩ := List.mem_flatMap.mp member
    obtain ⟨closed, isClosed, member⟩ := List.mem_flatMap.mp member
    obtain ⟨rfl, free⟩ := (mem_readings_notAhead _ _ _).mp member
    obtain ⟨splitOpened, isOpened⟩ := (mem_readings_letter _ _ _).mp isOpened
    obtain ⟨inside, repeated, splitInner, isInner⟩ :=
      (mem_readings_many _ _ _ _ (by decide) _ _).mp isInner
    obtain ⟨splitClosed, isClosed⟩ := (mem_readings_letter _ _ _).mp isClosed
    have split : opened.after = inside ++ ']' :: stop.after := by rw [splitInner, splitClosed]
    have isInside : IsTagInside inside :=
      ⟨repeated.enough, repeated.within 30 rfl, fun c taken =>
        (accepts_tagChar c).mp (repeated.accepted c taken)⟩
    refine ⟨inside, opened.after, splitOpened, split, ?_, ?_⟩
    · exact (tagInside?_eq_some_iff _ _).mpr ⟨isInside, stop.after, split, free⟩
    · have reached : inner = cursor.past ('[' :: inside) inner.after := by
        rw [isOpened, Cursor.past_past] at isInner
        exact isInner
      rw [reached, Cursor.past_past] at isClosed
      exact isClosed
  · rintro ⟨inside, rest, opened, split, found, isStop⟩
    obtain ⟨isInside, after, splitAlso, free⟩ := (tagInside?_eq_some_iff _ _).mp found
    obtain rfl : after = stop.after := by
      rw [split] at splitAlso
      exact (List.cons.inj (List.append_cancel_left splitAlso)).2.symm
    have repeated : Repeats (.set .exact true [.one '[', .one ']', .one '\n']) 1 (some 30)
        inside := by
      refine ⟨fun c taken => (accepts_tagChar c).mpr (isInside.plain c taken), isInside.long, ?_⟩
      intro bound isBound
      exact Option.some.inj isBound ▸ isInside.short
    refine List.mem_flatMap.mpr ⟨cursor.past ['['] rest, ?_, ?_⟩
    · exact (mem_readings_letter _ _ _).mpr ⟨opened, rfl⟩
    refine List.mem_flatMap.mpr ⟨cursor.past ('[' :: inside) (']' :: stop.after), ?_, ?_⟩
    · apply (mem_readings_many _ _ _ _ (by decide) _ _).mpr
      exact ⟨inside, repeated, split, (Cursor.past_past _ ['['] _ _ _).symm⟩
    refine List.mem_flatMap.mpr ⟨stop, ?_, ?_⟩
    · apply (mem_readings_letter _ _ _).mpr
      refine ⟨rfl, ?_⟩
      rw [Cursor.past_past]
      exact isStop
    · exact (mem_readings_notAhead _ _ _).mpr ⟨rfl, free⟩

/-- The text that a match of the pattern stands on. -/
def matchedText (stop : Cursor) : String := String.ofList ((stop.group? 0).getD [])

/-- From a position the pattern matches the tag that follows, if one does. -/
theorem run_tagPattern (cursor : Cursor) :
    match (group 0 tagPattern).run some cursor with
    | some stop => ∃ inside rest, cursor.after = '[' :: rest ∧ rest = inside ++ ']' :: stop.after ∧
        tagInside? rest = some inside ∧
        matchedText stop = String.ofList ('[' :: (inside ++ [']']))
    | none => ∀ rest, cursor.after = '[' :: rest → tagInside? rest = none := by
  rw [run_some, readings, List.head?_map]
  cases first : (tagPattern.readings cursor).head? with
  | none =>
    intro rest opened
    rw [Option.eq_none_iff_forall_ne_some]
    intro inside found
    obtain ⟨-, after, split, -⟩ := (tagInside?_eq_some_iff rest inside).mp found
    have member := (mem_readings_tagPattern cursor (cursor.past ('[' :: (inside ++ [']'])) after)).mpr
      ⟨inside, rest, opened, split, found, rfl⟩
    rw [List.head?_eq_none_iff.mp first] at member
    cases member
  | some stop =>
    obtain ⟨inside, rest, opened, split, found, isStop⟩ :=
      (mem_readings_tagPattern cursor stop).mp (List.mem_of_head? first)
    refine ⟨inside, rest, opened, split, found, ?_⟩
    have whole : cursor.after = '[' :: (inside ++ [']']) ++ stop.after := by
      rw [opened, split]
      simp
    rw [matchedText, isStop, Cursor.group?_remember_past 0 _ _ cursor whole, Option.getD_some]

/-- No tag begins in a text without opening brackets. -/
theorem tagsOf_append_of_plain (front back : List Char) (plain : '[' ∉ front) :
    tagsOf (front ++ back) = tagsOf back := by
  induction front with
  | nil => rfl
  | cons c rest inductionHypothesis =>
    obtain ⟨other, plain⟩ := List.ne_and_not_mem_of_not_mem_cons plain
    rw [List.cons_append, tagsOf, if_neg (by simpa using Ne.symm other), inductionHypothesis plain]

/-- A search finds the first tag, and the others are those of the text behind it. -/
theorem searchFrom_tagPattern (text : List Char) (cursor : Cursor) (here : cursor.after = text) :
    match (group 0 tagPattern).searchFrom cursor text with
    | some (_, stop) => tagsOf text = matchedText stop :: tagsOf stop.after ∧
        stop.after.length < text.length
    | none => tagsOf text = [] := by
  induction text generalizing cursor with
  | nil =>
    have tried := run_tagPattern cursor
    rw [searchFrom]
    cases reached : (group 0 tagPattern).run some cursor with
    | none => rfl
    | some stop =>
      rw [reached] at tried
      obtain ⟨inside, rest, opened, -⟩ := tried
      rw [here] at opened
      cases opened
  | cons c rest inductionHypothesis =>
    have tried := run_tagPattern cursor
    rw [searchFrom]
    cases reached : (group 0 tagPattern).run some cursor with
    | some stop =>
      rw [reached] at tried
      obtain ⟨inside, _, opened, split, found, matched⟩ := tried
      rw [here] at opened
      obtain ⟨rfl, rfl⟩ := List.cons.inj opened
      obtain ⟨isInside, -⟩ := (tagInside?_eq_some_iff _ _).mp found
      have plain : '[' ∉ inside ++ [']'] := by
        intro member
        rcases List.mem_append.mp member with inner | closing
        · exact (isInside.plain '[' inner).1 rfl
        · exact absurd (List.mem_singleton.mp closing) (by decide)
      have behind : tagsOf rest = tagsOf stop.after := by
        rw [split, ← List.singleton_append, ← List.append_assoc, tagsOf_append_of_plain _ _ plain]
      refine ⟨?_, ?_⟩
      · rw [matched, tagsOf, if_pos (by decide), found, behind]
        rfl
      · rw [split]
        simp only [List.length_cons, List.length_append]
        omega
    | none =>
      rw [reached] at tried
      have skipped : tagsOf (c :: rest) = tagsOf rest := by
        rw [tagsOf]
        split
        · next opening =>
          obtain rfl := beq_iff_eq.mp opening
          rw [tried rest here]
        · rfl
      have further := inductionHypothesis (cursor.step c rest) rfl
      dsimp only
      rw [skipped]
      cases later : (group 0 tagPattern).searchFrom (cursor.step c rest) rest with
      | none =>
        rw [later] at further
        exact further
      | some ends =>
        rw [later] at further
        exact ⟨further.1, Nat.lt_succ_of_lt further.2⟩

/-- All matches of the pattern are the tags, one after the other. -/
theorem findAll_tagPattern (text : List Char) :
    ((group 0 tagPattern).findAll text).map matchedText = tagsOf text := by
  have searched (fuel : Nat) (cursor : Cursor) (enough : cursor.after.length < fuel) :
      ((group 0 tagPattern).findAllFrom fuel cursor).map matchedText = tagsOf cursor.after := by
    induction fuel generalizing cursor with
    | zero => cases enough
    | succ fuel inductionHypothesis =>
      have first := searchFrom_tagPattern cursor.after { cursor with groups := [] } rfl
      rw [findAllFrom]
      cases found : (group 0 tagPattern).searchFrom { cursor with groups := [] } cursor.after with
      | none =>
        rw [found] at first
        exact first.symm
      | some ends =>
        obtain ⟨start, stop⟩ := ends
        rw [found] at first
        obtain ⟨listed, shorter⟩ := first
        rw [listed, List.map_cons, inductionHypothesis stop (by omega)]
  exact searched _ (.start text) (Nat.lt_succ_self _)

end Search

/-- The tags of a text are what stands in it as a tag, each as often as it stands and in the order
of the places; no other list is. The extractor answers with this list, and it is the list of the
matches that a search for the pattern finds one behind the other. -/
theorem listsInOrder_tags_iff (text : String) :
    (∀ found, ListsInOrder (TagAt text.toList) found ↔ found = bracketTags text) ∧
      Extractor.tags.ask [.str text] = Json.strings (bracketTags text) ∧
      ((Pattern.group 0 tagPattern).findAll text.toList).map matchedText = bracketTags text := by
  have lists := listsInOrder_tagsOf text.toList
  refine ⟨?_, ?_, findAll_tagPattern text.toList⟩
  · intro found
    constructor
    · intro alsoLists
      exact alsoLists.unique lists
    · rintro rfl
      exact lists
  · rw [Extractor.ask, Extractor.ask?, searchText?_str]
    rfl

end Rulebook.Extract
