import Rulebook.Proofs.Letters
import Rulebook.Proofs.Separators

/-!
# Ages written with commas

The number of an age is a run of digits with a unit behind it. A unit takes no character of a
numeral, so the run ends where the numeral ends. With a comma in the numeral there is no such
run behind the word for the account, where it would have to begin with the numeral. Before
that word the digits behind the last comma are read instead, whatever stands in front of them.

The unit is found by what stands behind the numeral, so it is the same for both ways to write
the number, and its days are known from its first letter. This tells the two ages apart.
-/

namespace Rulebook.Extract

open Pattern Calendar

section Age

variable {before spelled after : List Char}

/-- What stands between the number of an age and its unit, and the unit. -/
def unitPart : Pattern :=
  all [many blank, optional (word "-"), many blank, .group 2 unitPhrase]

/-- What follows the number of an age in front of the word for the account. -/
def ageClosing : Pattern :=
  .seq unitPart (all [many (among false [.ofKind .blank false false, .one '-']), word "old",
    atLeastOne blank, optional (.seq (word "reddit") (atLeastOne blank)),
    words ["account", "profile"]])

/-- The position behind a number that is remembered. -/
def numberEnd (front digits after : List Char) : Cursor :=
  { Cursor.between (front ++ digits) after with groups := [(1, digits)] }

/-- Every reading of a number takes digits and remembers them. -/
theorem mem_readings_numberGroup (front back : List Char) (stop : Cursor)
    (member : stop ∈ numberGroup.readings (.between front back)) :
    ∃ digits, digits ≠ [] ∧ (∀ c ∈ digits, Text.isDigit c = true) ∧ back = digits ++ stop.after ∧
      stop = numberEnd front digits stop.after := by
  obtain ⟨inner, reached, rfl⟩ := List.mem_map.mp member
  obtain ⟨digits, repeated, split, isInner⟩ :=
    (mem_readings_many .most 1 none _ (by decide) _ inner).mp reached
  refine ⟨digits, ?_, fun c inDigits => accepts_digit c ▸ repeated.accepted c inDigits, split, ?_⟩
  · rintro rfl
    exact absurd repeated.enough (by simp)
  · rw [Cursor.remember_eq 1 digits _ inner split (by rw [isInner]; rfl), isInner]
    simp [numberEnd, Cursor.past, Cursor.between]

/-- What begins with a unit can follow a number only at the end of the numeral. -/
theorem end_of_number (one : OneNumber before spelled after) (front back : List Char)
    (split : before ++ spelled ++ after = front ++ back) (closing : Pattern) (mid : Cursor)
    (reached : mid ∈ numberGroup.readings (.between front back))
    (some : (Pattern.seq unitPart closing).readings mid ≠ []) :
    ∃ digits, digits ≠ [] ∧ (∀ c ∈ digits, Text.isDigit c = true) ∧
      before ++ spelled = front ++ digits ∧ mid = numberEnd front digits after := by
  obtain ⟨digits, nonempty, areDigits, splitBack, isMid⟩ :=
    mem_readings_numberGroup front back mid reached
  obtain ⟨stop, member⟩ := List.exists_mem_of_ne_nil _ some
  obtain ⟨unitEnd, isUnit, -⟩ := List.mem_flatMap.mp member
  obtain ⟨c, rest, takes, ahead, -⟩ := taken_of_takesText unitPart rfl mid unitEnd isUnit
  have spares : sparesNumerals unitPart = true := by decide
  have other := isNumeral_of_mayTake spares c takes
  obtain ⟨init, d, isDigits⟩ := (List.eq_nil_or_concat' digits).resolve_left nonempty
  have whole : before ++ spelled ++ after =
      (front ++ init) ++ [d] ++ c :: (rest ++ unitEnd.after) := by
    rw [split, splitBack, ahead, isDigits]
    simp
  obtain ⟨sameEnd, sameAfter⟩ :=
    one.eq_of_digit (front ++ init) _ d c (areDigits d (by simp [isDigits])) other whole
  refine ⟨digits, nonempty, areDigits, ?_, ?_⟩
  · rw [sameEnd, isDigits, List.append_assoc]
  · rw [sameAfter, ← ahead]
    exact isMid

/-- An age after the word for the account: what leads to its number, the number and its unit. -/
theorem readings_ageAfter (cursor : Cursor) :
    ageAfter.readings cursor =
      ((numberLead .empty (words ["account", "profile"]) 20).readings cursor).flatMap
        (Pattern.seq numberGroup (.seq unitPart edge)).readings := by
  simp only [ageAfter, agePhrase, unitPart, numberGroup, numberLead, all, readings,
    List.flatMap_assoc, List.flatMap_singleton]

/-- The age after the word for the account is read at the numeral. -/
theorem meetsAt_ageAfter (one : OneNumber before spelled after) :
    MeetsAt ageAfter (numberLead .empty (words ["account", "profile"]) 20)
      (.seq numberGroup (.seq unitPart edge)) before (spelled ++ after) where
  parts := readings_ageAfter
  only := by
    apply only_of_numberLead one _ _ _ 20 (fun _ => rfl) (fun _ => rfl) (by decide) rfl
    intro cursor some
    exact digit_of_readings cursor (readings_ne_nil_of_group (readings_ne_nil_of_seq some))

/-- A number with a comma gives no age after the word for the account. -/
theorem find?_ageAfter_of_comma (one : OneNumber before spelled after) (comma : ',' ∈ spelled) :
    ageAfter.find? (before ++ (spelled ++ after)) = none := by
  have nothing : (Pattern.seq numberGroup (.seq unitPart edge)).readings
      (.between before (spelled ++ after)) = [] := by
    by_contra some
    obtain ⟨stop, member⟩ := List.exists_mem_of_ne_nil _ some
    obtain ⟨mid, reached, closes⟩ := List.mem_flatMap.mp member
    obtain ⟨digits, -, areDigits, same, -⟩ := end_of_number one before (spelled ++ after)
      (List.append_assoc ..) edge mid reached (List.ne_nil_of_mem closes)
    have isComma := areDigits ',' (List.append_cancel_left same ▸ comma)
    exact absurd isComma (by decide)
  by_cases leads : Leads (numberLead .empty (words ["account", "profile"]) 20) before
      (spelled ++ after)
  · rw [(meetsAt_ageAfter one).find?_of_leads leads, nothing]
    rfl
  · exact (meetsAt_ageAfter one).find?_of_not_leads leads

/-- A number at the start of a text gives no age after the word for the account. -/
theorem find?_ageAfter_of_start (one : OneNumber [] spelled after) :
    ageAfter.find? (spelled ++ after) = none := by
  apply (meetsAt_ageAfter one).find?_of_not_leads
  rintro ⟨start, -, reached⟩
  exact absurd (lt_of_takesText _ rfl start _ reached) (Nat.not_lt_zero _)

/-- An age before the word for the account: its number, its unit and the rest. -/
theorem readings_ageBefore (cursor : Cursor) :
    ageBefore.readings cursor = (numberGroup.readings cursor).flatMap ageClosing.readings := by
  simp only [ageBefore, agePhrase, ageClosing, unitPart, numberGroup, all, readings,
    List.flatMap_assoc]

/-- A run of digits is first taken whole. -/
theorem head?_numberGroup_of_digits (front digits : List Char) (nonempty : digits ≠ [])
    (areDigits : ∀ c ∈ digits, Text.isDigit c = true) (quiet : Digitless after) :
    (numberGroup.readings (.between front (digits ++ after))).head? =
      some (numberEnd front digits after) := by
  have begins : ∃ d rest, digits ++ after = d :: rest ∧ Text.isDigit d = true := by
    obtain ⟨d, rest, rfl⟩ := List.exists_cons_of_ne_nil nonempty
    exact ⟨d, rest ++ after, rfl, areDigits d List.mem_cons_self⟩
  obtain ⟨taken, left⟩ := span_digits digits after areDigits fun c member =>
    quiet c (List.mem_of_head? member)
  rw [numberGroup, readings, List.head?_map, head?_digits _ begins, Option.map_some]
  show some (((Cursor.between front (digits ++ after)).past ((digits ++ after).takeWhile _)
    ((digits ++ after).dropWhile _)).remember 1 (.between front (digits ++ after))) = _
  rw [taken, left, Cursor.between_past,
    Cursor.remember_eq 1 digits _ _ rfl List.length_append]
  rfl

/-- The closing of an age can be read at the end of a number whatever digits are remembered. -/
theorem ageClosing_numberEnd (front digits other others after : List Char)
    (same : front ++ digits = other ++ others)
    (some : ageClosing.readings (numberEnd front digits after) ≠ []) :
    ageClosing.readings (numberEnd other others after) ≠ [] := by
  have alike : (numberEnd front digits after).Alike 0 (numberEnd front digits after).position
      (numberEnd other others after).position (numberEnd other others after) := by
    refine ⟨rfl, ?_, Nat.add_comm _ _, rfl⟩
    show AlikeAt (front ++ digits).reverse (other ++ others).reverse
    exact same ▸ .refl _
  exact (Local.of_isLocal ageClosing rfl).readings_ne_nil alike some

/-- The age before the word for the account has the digits at the end of the numeral, if
another character stands before them. -/
theorem find?_ageBefore (one : OneNumber before spelled after) (front digits : List Char)
    (same : before ++ spelled = front ++ digits) (nonempty : digits ≠ [])
    (areDigits : ∀ c ∈ digits, Text.isDigit c = true)
    (apart : ∀ c ∈ front.getLast?, Text.isDigit c = false) :
    ageBefore.find? (front ++ (digits ++ after)) =
      (ageClosing.readings (numberEnd front digits after)).head? := by
  have whole : before ++ spelled ++ after = front ++ (digits ++ after) := by
    rw [same, List.append_assoc]
  -- an age that is read from somewhere ends at the end of the numeral
  have ending (cursor : Cursor) (isPosition : cursor ∈ positions (front ++ (digits ++ after)))
      (some : ageBefore.readings cursor ≠ []) :
      ∃ early taken, cursor.position = early.length ∧ front ++ digits = early ++ taken ∧
        (∀ c ∈ taken, Text.isDigit c = true) ∧
        ageClosing.readings (numberEnd early taken after) ≠ [] := by
    obtain ⟨early, late, split, rfl⟩ := (mem_positions _ _).mp isPosition
    rw [readings_ageBefore] at some
    obtain ⟨stop, member⟩ := List.exists_mem_of_ne_nil _ some
    obtain ⟨mid, reached, closes⟩ := List.mem_flatMap.mp member
    obtain ⟨taken, -, areTaken, ends, isMid⟩ := end_of_number one early late (whole.trans split) _
      mid reached (List.ne_nil_of_mem closes)
    exact ⟨early, taken, rfl, same.symm.trans ends, areTaken, isMid ▸ List.ne_nil_of_mem closes⟩
  have first := head?_numberGroup_of_digits front digits nonempty areDigits one.quietAfter
  obtain ⟨others, ends⟩ := List.head?_eq_some_iff.mp first
  obtain ⟨early, later, split, inEarly⟩ := exists_positions_append front (digits ++ after)
  have here : (ageBefore.readings (.between front (digits ++ after))).head? =
      (ageClosing.readings (numberEnd front digits after)).head? := by
    rw [readings_ageBefore, ends]
    apply head?_flatMap_of_first [] _ _ _ (by simp)
    intro nothing mid member
    by_contra some
    obtain ⟨taken, -, -, sameEnd, isMid⟩ := end_of_number one front (digits ++ after) whole _ mid
      (ends ▸ List.mem_cons_of_mem _ member) some
    obtain rfl : taken = digits := List.append_cancel_left (sameEnd.symm.trans same)
    exact some (isMid ▸ nothing)
  rw [Pattern.find?_eq_head?, split, ← here]
  apply head?_flatMap_of_first early later
  · intro cursor member
    by_contra some
    obtain ⟨start, taken, position, sameEnd, areTaken, -⟩ :=
      ending cursor (split ▸ List.mem_append_left _ member) some
    have shorter := inEarly cursor member
    rcases List.append_eq_append_iff.mp sameEnd with ⟨more, rfl, -⟩ | ⟨more, rfl, isTaken⟩
    · simp only [List.length_append] at position shorter
      omega
    · have isLonger : more ≠ [] := by
        rintro rfl
        simp only [List.append_nil] at shorter
        omega
      obtain ⟨init, c, isMore⟩ := (List.eq_nil_or_concat' more).resolve_left isLonger
      have quiet := apart c (by simp [isMore])
      rw [areTaken c (by simp [isTaken, isMore])] at quiet
      cases quiet
  · intro nothing cursor member
    by_contra some
    obtain ⟨start, taken, -, sameEnd, -, closes⟩ :=
      ending cursor (split ▸ List.mem_append_right _ (List.mem_cons_of_mem _ member)) some
    have alsoCloses := ageClosing_numberEnd start taken front digits after sameEnd.symm closes
    rw [nothing, List.head?_nil] at here
    exact alsoCloses (List.head?_eq_none_iff.mp here.symm)

/-- Behind two numbers the text looks the same, but for the number. -/
theorem numberEnd_alike (front digits other others after : List Char)
    (plain : Numeral digits) (otherPlain : Numeral others) :
    (numberEnd front digits after).Alike 2 (numberEnd front digits after).position
      (numberEnd other others after).position (numberEnd other others after) := by
  refine ⟨rfl, ?_, Nat.add_comm _ _, rfl⟩
  have behind := plain.alikeAt_reverse otherPlain front.reverse other.reverse
  simpa [numberEnd, Cursor.between] using behind

/-- The number that an age is found to have. -/
theorem group_of_ageClosing (front digits after : List Char) (stop : Cursor)
    (member : stop ∈ ageClosing.readings (numberEnd front digits after)) :
    stop.group? 1 = some digits := by
  rw [(moves_of_mem_readings ageClosing _ stop member).kept 1 rfl]
  rfl

/-- The age of a number with a comma is the one that the digits at its end have before the word
for the account. -/
theorem ageMention?_of_comma (one : OneNumber before spelled after) (comma : ',' ∈ spelled)
    (front digits : List Char) (same : before ++ spelled = front ++ digits)
    (apart : ∀ c ∈ front.getLast?, Text.isDigit c = false)
    (nonempty : digits ≠ []) (plain : ∀ c ∈ digits, c.isDigit = true) (text : String)
    (split : text.toList = before ++ (spelled ++ after)) :
    ageMention? text = (ageClosing.readings (numberEnd front digits after)).head? := by
  unfold ageMention?
  rw [split, find?_ageAfter_of_comma one comma, ← List.append_assoc, same, List.append_assoc]
  exact find?_ageBefore one front digits same nonempty
    (fun c member => isDigit_of_plain c (plain c member)) apart

/-- The age of a number at the start of a text is the one before the word for the account. -/
theorem ageMention?_of_start (digits : List Char) (nonempty : digits ≠ [])
    (plain : ∀ c ∈ digits, c.isDigit = true) (quiet : Digitless after) (text : String)
    (split : text.toList = digits ++ after) :
    ageMention? text = (ageClosing.readings (numberEnd [] digits after)).head? := by
  have one : OneNumber [] digits after :=
    ⟨numeral_of_digits digits nonempty plain, by simp [Digitless], quiet⟩
  unfold ageMention?
  rw [split, find?_ageAfter_of_start one]
  exact find?_ageBefore one [] digits rfl nonempty
    (fun c member => isDigit_of_plain c (plain c member)) (by simp)

/-- Ages whose closings are read behind numbers of the same value are the same. -/
theorem minAccountAgeDays?_congr (front digits other others : List Char)
    (numeral : Numeral digits) (otherNumeral : Numeral others)
    (number : numberOf? digits = numberOf? others) (text otherText : String)
    (mention : ageMention? text = (ageClosing.readings (numberEnd front digits after)).head?)
    (otherMention : ageMention? otherText =
      (ageClosing.readings (numberEnd other others after)).head?) :
    minAccountAgeDays? text = minAccountAgeDays? otherText := by
  unfold minAccountAgeDays?
  rw [mention, otherMention]
  rcases (Local.of_isLocal ageClosing rfl).head?_readings
      (numberEnd_alike front digits other others after numeral otherNumeral) with
    ⟨none, otherNone⟩ | ⟨stop, member, otherStop, otherMember, first, otherFirst, alike⟩
  · rw [none, otherNone]
  · rw [first, otherFirst]
    simp only [Option.bind_eq_bind, Option.bind_some, alike.remembered,
      group_of_ageClosing _ _ _ _ member, group_of_ageClosing _ _ _ _ otherMember, number]

end Age

section Units

/-- What may stand between a number and its unit. -/
def skipPart : Pattern := all [many blank, optional (word "-"), many blank]

/-- A unit stands behind what may be skipped, and it is remembered. -/
theorem exists_of_mem_readings_unitPart (cursor stop : Cursor)
    (member : stop ∈ unitPart.readings cursor) :
    ∃ mid inner, mid ∈ skipPart.readings cursor ∧ inner ∈ unitPhrase.readings mid ∧
      stop = inner.remember 2 mid := by
  have parts : unitPart.readings cursor =
      (skipPart.readings cursor).flatMap (Pattern.group 2 unitPhrase).readings := by
    simp only [unitPart, skipPart, all, readings, List.flatMap_assoc]
  rw [parts] at member
  obtain ⟨mid, isMid, isStop⟩ := List.mem_flatMap.mp member
  obtain ⟨inner, isInner, rfl⟩ := List.mem_map.mp isStop
  exact ⟨mid, inner, isMid, isInner, rfl⟩

/-- What is remembered of a unit begins with the first character behind what is skipped. -/
theorem mem_readings_unitPart (cursor stop : Cursor) (member : stop ∈ unitPart.readings cursor) :
    ∃ skipped initial rest, (∀ c ∈ skipped, skipPart.mayTake c = true) ∧
      unitPhrase.mayTake initial = true ∧ stop.group? 2 = some (initial :: rest) ∧
      cursor.after = skipped ++ initial :: (rest ++ stop.after) := by
  obtain ⟨mid, inner, isMid, isInner, rfl⟩ := exists_of_mem_readings_unitPart cursor stop member
  obtain ⟨skipped, inSkipped, splitMid, -, -⟩ :=
    (moves_of_mem_readings skipPart cursor mid isMid).taken
  obtain ⟨initial, rest, begins, splitUnit, position⟩ :=
    taken_of_takesText unitPhrase rfl mid inner isInner
  refine ⟨skipped, initial, rest, inSkipped, begins, ?_, ?_⟩
  · rw [Cursor.remember_eq 2 (initial :: rest) mid inner splitUnit position]
    rfl
  · rw [splitMid, splitUnit]
    rfl

/-- Letters that look the same are taken by the same units. -/
theorem mayTake_unitPhrase_congr (c d : Char) (same : Text.caseKey c = Text.caseKey d) :
    unitPhrase.mayTake c = unitPhrase.mayTake d := by
  simp only [unitPhrase, List.map, oneOf, Pattern.optional, mayTake, mayTake_word,
    Text.sameLetter, same]

/-- No letter of a unit is white space. -/
theorem mayTake_unitPhrase_of_isBlank (c : Char) (blank : Text.isBlank c = true) :
    unitPhrase.mayTake c = false := by
  have solid : ∀ part ∈ ["day", "week", "month", "year", "s"],
      (part.toList.all fun letter => !Text.isBlank (Text.caseKey letter)) = true := by decide
  have apart (part : String) (listed : part ∈ ["day", "week", "month", "year", "s"]) :
      (word part).mayTake c = false := by
    rw [mayTake_word, List.any_eq_false]
    intro letter member same
    have key : Text.caseKey letter = c := by
      rw [beq_iff_eq.mp same, Text.caseKey_of_isBlank c blank]
    have here := List.all_eq_true.mp (solid part listed) letter member
    simp [key, blank] at here
  simp [unitPhrase, oneOf, Pattern.optional, mayTake, apart]

/-- No unit begins with a blank or a dash. -/
theorem mayTake_skipPart (c : Char) (initial : unitPhrase.mayTake c = true) :
    skipPart.mayTake c = false := by
  have noBlank : Text.isBlank c = false := by
    apply Bool.eq_false_iff.mpr
    intro blank
    rw [mayTake_unitPhrase_of_isBlank c blank] at initial
    cases initial
  have noDash : Text.sameLetter '-' c = false := by
    apply Bool.eq_false_iff.mpr
    intro dash
    rw [← mayTake_unitPhrase_congr '-' c (beq_iff_eq.mp dash)] at initial
    exact absurd initial (by decide)
  have noDashWord : (word "-").mayTake c = false := by
    rw [mayTake_word]
    simp [noDash]
  have noBlankTest : (CharTest.set .full false [.ofKind .blank false false]).accepts c = false := by
    simp [CharTest.accepts, SetItem.holds, CharKind.holds, noBlank]
  simp only [skipPart, all, many, Pattern.optional, blank, kind, mayTake, noBlankTest, noDashWord,
    Bool.or_false]

/-- The days of a unit are known from its first letter. -/
theorem initial_of_daysOfUnit? (initial : Char) (rest : List Char) (days : Nat)
    (found : daysOfUnit? (initial :: rest) = some days) :
    (Text.small initial, days) ∈ [('d', 1), ('w', 7), ('m', 30), ('y', 365)] := by
  unfold daysOfUnit? at found
  generalize stem : ((Text.lower (initial :: rest)).reverse.dropWhile (· == 's')).reverse = unit
    at found
  have known : ∃ letter more, unit = letter :: more ∧
      (letter, days) ∈ [('d', 1), ('w', 7), ('m', 30), ('y', 365)] := by
    unfold daysPerUnit? at found
    have unitOf (name : String) (same : String.ofList unit = name) : unit = name.toList := by
      rw [← same, String.toList_ofList]
    split at found
    · next same => exact ⟨'d', ['a', 'y'], unitOf _ same, by simp [Option.some.inj found]⟩
    · next same => exact ⟨'w', ['e', 'e', 'k'], unitOf _ same, by simp [← Option.some.inj found]⟩
    · next same =>
      exact ⟨'m', ['o', 'n', 't', 'h'], unitOf _ same, by simp [← Option.some.inj found]⟩
    · next same => exact ⟨'y', ['e', 'a', 'r'], unitOf _ same, by simp [← Option.some.inj found]⟩
    · cases found
  obtain ⟨letter, more, rfl, listed⟩ := known
  have isPrefix : letter :: more <+: Text.lower (initial :: rest) := by
    rw [← stem]
    simpa using List.reverse_prefix.mpr
      (List.dropWhile_suffix (· == 's') : _ <:+ (Text.lower (initial :: rest)).reverse)
  obtain ⟨tail, whole⟩ := isPrefix
  have lower : Text.lower (initial :: rest) =
      Text.lowerBetween [] initial rest ++ Text.lowerAfter [initial] rest := rfl
  rw [lower, Text.lowerBetween] at whole
  -- the special lower-case forms begin with letters that begin no unit
  split at whole
  · have first := (List.cons_eq_cons.mp whole).1
    split at first <;> simp [first] at listed
  · split at whole
    · simp [(List.cons_eq_cons.mp whole).1] at listed
    · rw [← (List.cons_eq_cons.mp whole).1]
      exact listed

/-- A mention of an age: a number, and behind it a unit. -/
structure MentionsAge (digits after : List Char) (stop : Cursor) : Prop where
  number : stop.group? 1 = some digits
  unit : ∃ skipped initial rest tail, (∀ c ∈ skipped, skipPart.mayTake c = true) ∧
    unitPhrase.mayTake initial = true ∧ stop.group? 2 = some (initial :: rest) ∧
    after = skipped ++ initial :: tail

theorem mentionsAge_of_reading (front digits after : List Char) (closing : Pattern)
    (keepsNumber : closing.maySet 1 = false) (keepsUnit : closing.maySet 2 = false) (stop : Cursor)
    (member : stop ∈ (Pattern.seq unitPart closing).readings (numberEnd front digits after)) :
    MentionsAge digits after stop := by
  have setsNoNumber : (Pattern.seq unitPart closing).maySet 1 = false := by
    rw [maySet, keepsNumber]
    rfl
  refine ⟨(moves_of_mem_readings _ _ stop member).kept 1 setsNoNumber, ?_⟩
  obtain ⟨unitEnd, isUnit, closes⟩ := List.mem_flatMap.mp member
  obtain ⟨skipped, initial, rest, inSkipped, begins, unit, split⟩ :=
    mem_readings_unitPart _ unitEnd isUnit
  have kept := (moves_of_mem_readings closing unitEnd stop closes).kept 2 keepsUnit
  exact ⟨skipped, initial, rest, _, inSkipped, begins, kept.trans unit, split⟩

/-- Two mentions in front of the same text have units of the same days. -/
theorem MentionsAge.days_eq {digits others after : List Char} {stop otherStop : Cursor}
    (mention : MentionsAge digits after stop) (otherMention : MentionsAge others after otherStop)
    (unit otherUnit : List Char) (days otherDays : Nat) (isUnit : stop.group? 2 = some unit)
    (isOtherUnit : otherStop.group? 2 = some otherUnit) (found : daysOfUnit? unit = some days)
    (otherFound : daysOfUnit? otherUnit = some otherDays) : days = otherDays ∧ 0 < days := by
  obtain ⟨skipped, initial, rest, tail, inSkipped, begins, known, split⟩ := mention.unit
  obtain ⟨otherSkipped, otherInitial, otherRest, otherTail, inOther, alsoBegins, alsoKnown,
    otherSplit⟩ := otherMention.unit
  obtain rfl : unit = initial :: rest := Option.some.inj (isUnit.symm.trans known)
  obtain rfl : otherUnit = otherInitial :: otherRest :=
    Option.some.inj (isOtherUnit.symm.trans alsoKnown)
  have stops (c : Char) (text : List Char) (begins : unitPhrase.mayTake c = true) :
      ∀ d ∈ (c :: text).head?, skipPart.mayTake d = false := by
    rintro d ⟨⟩
    exact mayTake_skipPart c begins
  have same := (Json.word_append_inj skipPart.mayTake skipped otherSkipped _ _ inSkipped inOther
    (stops initial tail begins) (stops otherInitial otherTail alsoBegins)
    (split.symm.trans otherSplit)).2
  obtain ⟨rfl, -⟩ := List.cons_eq_cons.mp same
  have listed := initial_of_daysOfUnit? initial rest days found
  have alsoListed := initial_of_daysOfUnit? initial otherRest otherDays otherFound
  simp only [List.mem_cons, Prod.mk.injEq, List.not_mem_nil, or_false] at listed alsoListed
  rcases listed with ⟨letter, rfl⟩ | ⟨letter, rfl⟩ | ⟨letter, rfl⟩ | ⟨letter, rfl⟩ <;>
    simp [letter] at alsoListed <;> simp [alsoListed]

/-- An age that is found for plain digits has them for its number. -/
theorem mentionsAge_of_plain {before spelled after : List Char}
    (one : OneNumber before spelled after) (plain : ∀ c ∈ spelled, c.isDigit = true) (text : String)
    (split : text.toList = before ++ (spelled ++ after)) (stop : Cursor)
    (found : ageMention? text = some stop) : MentionsAge spelled after stop := by
  unfold ageMention? at found
  rw [split] at found
  split at found
  · next reading reached =>
    obtain rfl := Option.some.inj found
    by_cases leads : Leads (numberLead .empty (words ["account", "profile"]) 20) before
        (spelled ++ after)
    · rw [(meetsAt_ageAfter one).find?_of_leads leads] at reached
      obtain ⟨mid, isMid, closes⟩ := List.mem_flatMap.mp (List.mem_of_head? reached)
      obtain ⟨digits, -, -, same, rfl⟩ := end_of_number one before (spelled ++ after)
        (List.append_assoc ..) edge mid isMid (List.ne_nil_of_mem closes)
      obtain rfl : spelled = digits := List.append_cancel_left same
      exact mentionsAge_of_reading before spelled after edge rfl rfl reading closes
    · rw [(meetsAt_ageAfter one).find?_of_not_leads leads] at reached
      cases reached
  · rw [find?_ageBefore one before spelled rfl one.numeral.ne_nil
      (fun c member => isDigit_of_plain c (plain c member))
      (fun c last => one.quietBefore c (List.mem_of_getLast? last))] at found
    exact mentionsAge_of_reading before spelled after _ rfl rfl stop (List.mem_of_head? found)

/-- An age that is found is the number mentioned times the days of its unit. -/
theorem exists_of_minAccountAgeDays? (text : String) (digits after : List Char) (total : Nat)
    (mentions : ∀ stop, ageMention? text = some stop → MentionsAge digits after stop)
    (found : minAccountAgeDays? text = some total) :
    ∃ stop unit days count, MentionsAge digits after stop ∧ stop.group? 2 = some unit ∧
      daysOfUnit? unit = some days ∧ numberOf? digits = some count ∧ total = count * days := by
  simp only [minAccountAgeDays?, Option.bind_eq_bind, Option.bind_eq_some_iff] at found
  obtain ⟨stop, mention, unit, isUnit, days, isDays, shown, isShown, count, isCount, isTotal⟩ :=
    found
  have mentioned := mentions stop mention
  obtain rfl : digits = shown := Option.some.inj (mentioned.number.symm.trans isShown)
  exact ⟨stop, unit, days, count, mentioned, isUnit, isDays, isCount,
    (Option.some.inj isTotal).symm⟩

end Units

section Commas

/-- An age whose number has commas is the age that its last three digits give at the start of the
text. It is the age that the plain digits give only if there are no commas or no age is found. -/
theorem age_with_commas (number : Nat) (before after : String)
    (quietBefore : Digitless before.toList) (quietAfter : Digitless after.toList) :
    (1000 ≤ number → minAccountAgeDays? (before ++ commaText number ++ after) =
        minAccountAgeDays? (toString (number % 1000) ++ after)) ∧
      (minAccountAgeDays? (before ++ commaText number ++ after) =
          minAccountAgeDays? (before ++ toString number ++ after) ↔
        number < 1000 ∨ minAccountAgeDays? (before ++ commaText number ++ after) = none ∧
          minAccountAgeDays? (before ++ toString number ++ after) = none) := by
  by_cases small : number < 1000
  · simp only [commaText_of_lt number small, small, true_or, and_true]
    omega
  have cut : withCommas number = withCommas (number / 1000) ++ ',' :: padded 3 (number % 1000) := by
    rw [withCommas, if_neg small]
  have commas := OneNumber.of_withCommas number quietBefore quietAfter
  have plain := OneNumber.of_toDigits number quietBefore quietAfter
  have mention : ageMention? (before ++ commaText number ++ after) =
      (ageClosing.readings (numberEnd (before.toList ++ withCommas (number / 1000) ++ [','])
        (padded 3 (number % 1000)) after.toList)).head? := by
    refine ageMention?_of_comma commas (by rw [cut]; simp) _ _ (by rw [cut]; simp) (by simp; decide)
      (numeral_lastThree number).ne_nil (lastThree_digits number) _
      (toList_commaText before after number)
  constructor
  · intro _
    refine minAccountAgeDays?_congr _ _ [] (Nat.toDigits 10 (number % 1000))
      (numeral_lastThree number) (numeral_toDigits _) ?_ _ _ mention ?_
    · rw [numberOf?_lastThree, numberOf?_toDigits _ (Nat.mod_lt _ (by decide))]
    · refine ageMention?_of_start _ (numeral_toDigits _).ne_nil (plain_toDigits _) quietAfter _ ?_
      rw [String.toList_append, toList_toString_nat]
  · constructor
    · intro same
      cases reading : minAccountAgeDays? (before ++ commaText number ++ after) with
      | none => exact .inr ⟨rfl, same ▸ reading⟩
      | some total =>
        obtain ⟨stop, unit, days, count, mentioned, isUnit, isDays, isCount, isTotal⟩ :=
          exists_of_minAccountAgeDays? _ (padded 3 (number % 1000)) after.toList total
            (fun stop found => mentionsAge_of_reading _ _ _ _ rfl rfl stop
              (List.mem_of_head? (mention.symm.trans found))) reading
        obtain ⟨other, otherUnit, otherDays, otherCount, otherMentioned, isOtherUnit, isOtherDays,
            isOtherCount, isOtherTotal⟩ :=
          exists_of_minAccountAgeDays? _ (Nat.toDigits 10 number) after.toList total
            (mentionsAge_of_plain plain (plain_toDigits number) _
              (toList_plainText before after number)) (same ▸ reading)
        obtain ⟨rfl, positive⟩ := mentioned.days_eq otherMentioned unit otherUnit days otherDays
          isUnit isOtherUnit isDays isOtherDays
        obtain rfl := eq_of_numberOf?_toDigits number otherCount isOtherCount
        rw [numberOf?_lastThree] at isCount
        obtain rfl := Option.some.inj isCount
        have equal := Nat.eq_of_mul_eq_mul_right positive (isTotal.symm.trans isOtherTotal)
        omega
    · rintro (below | ⟨none, alsoNone⟩)
      · exact absurd below small
      · rw [none, alsoNone]

/-- Commas between the digits of the one number of a text change no minimum of karma. A limit on a
title or a body reads the number before the first comma instead, and an age reads the last three
digits, as if the text began with them. These values agree with the plain digits only where
there are no commas or nothing is found. -/
theorem limits_with_commas (number : Nat) (before after : String)
    (quietBefore : Digitless before.toList) (quietAfter : Digitless after.toList) :
    minKarma? (before ++ commaText number ++ after) =
        minKarma? (before ++ toString number ++ after) ∧
      (maxTitleLength? (before ++ commaText number ++ after) =
          maxTitleLength? (before ++ toString (leading number) ++ after) ∧
        (maxTitleLength? (before ++ commaText number ++ after) =
            maxTitleLength? (before ++ toString number ++ after) ↔
          number < 1000 ∨ maxTitleLength? (before ++ commaText number ++ after) = none)) ∧
      (maxBodyLength? (before ++ commaText number ++ after) =
          maxBodyLength? (before ++ toString (leading number) ++ after) ∧
        (maxBodyLength? (before ++ commaText number ++ after) =
            maxBodyLength? (before ++ toString number ++ after) ↔
          number < 1000 ∨ maxBodyLength? (before ++ commaText number ++ after) = none)) ∧
      (1000 ≤ number → minAccountAgeDays? (before ++ commaText number ++ after) =
          minAccountAgeDays? (toString (number % 1000) ++ after)) ∧
        (minAccountAgeDays? (before ++ commaText number ++ after) =
            minAccountAgeDays? (before ++ toString number ++ after) ↔
          number < 1000 ∨ minAccountAgeDays? (before ++ commaText number ++ after) = none ∧
            minAccountAgeDays? (before ++ toString number ++ after) = none) := by
  refine ⟨?_, ?_, ?_, age_with_commas number before after quietBefore quietAfter⟩
  · exact minKarma?_congr (.of_withCommas number quietBefore quietAfter)
      (.of_toDigits number quietBefore quietAfter) (digitValues_withCommas number) _ _
      (toList_commaText before after number) (toList_plainText before after number)
  · exact limit_with_commas number before after ["title"] (fun _ => rfl) rfl quietBefore quietAfter
  · exact limit_with_commas number before after ["body", "post", "content", "text"] (fun _ => rfl)
      rfl quietBefore quietAfter

/-- A title of "max 1,000 characters" is limited to one character. -/
theorem thousand_in_title :
    Digitless "Title max ".toList ∧ Digitless " characters".toList ∧
      maxTitleLength? ("Title max " ++ commaText 1000 ++ " characters") = some 1 := by
  have quietBefore : Digitless "Title max ".toList := by decide
  have quietAfter : Digitless " characters".toList := by decide
  refine ⟨quietBefore, quietAfter, ?_⟩
  rw [(limits_with_commas 1000 "Title max " " characters" quietBefore quietAfter).2.1.1]
  have front : leading 1000 = 1 := by simp [leading]
  rw [front]
  decide +kernel

/-- The same title limit is read with and without a comma as two different numbers. -/
theorem comma_cuts_title_limit :
    maxTitleLength? "Title max 1,000 characters" = some 1 ∧
      maxTitleLength? "Title max 1000 characters" = some 1000 := by decide +kernel

end Commas

end Rulebook.Extract
