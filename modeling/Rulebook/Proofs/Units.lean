import Rulebook.Proofs.Ages
import Rulebook.Proofs.Lowering

/-!
# Units in every spelling

An age is looked for ignoring case, while the days of its unit are looked up by the name that is
left when the unit is lowered and its plural mark is dropped. Ignoring case is the wider of the
two: it takes a letter with every letter that shares a capital with it, and lowering keeps those
apart. Among the letters of the units only the plural mark shares its capital, with the long s.

So a unit that is found is one of the four names, and its days are known unless it ends in a long
s. A mention of an age then gives its number times those days, as far as the number can be
converted at all, and a text without a mention gives none.
-/

namespace Rulebook.Text

/-- Classes of small letters that share a capital are known by their first letters. -/
theorem sharedCapitals_apart : ∀ letters ∈ sharedCapitals, ∀ others ∈ sharedCapitals,
    letters.head? = others.head? → letters = others := by decide

/-- The variants of a letter are its class, or the letter alone if it is in no class. -/
theorem smallVariants_cases (c : Char) :
    (smallVariants c ∈ sharedCapitals ∧ c ∈ smallVariants c) ∨
      smallVariants c = [c] ∧ ∀ letters ∈ sharedCapitals, c ∉ letters := by
  unfold smallVariants
  split
  · next letters found =>
    exact .inl ⟨List.mem_of_find?_eq_some found, by simpa using List.find?_some found⟩
  · next missed =>
    exact .inr ⟨rfl, by simpa using List.find?_eq_none.mp missed⟩

/-- The first of the variants stands for them. -/
theorem head?_smallVariants (c : Char) : (smallVariants (small c)).head? = some (caseKey c) := by
  have nonempty : smallVariants (small c) ≠ [] := by
    rcases smallVariants_cases (small c) with ⟨-, member⟩ | ⟨alone, -⟩
    · exact List.ne_nil_of_mem member
    · simp [alone]
  obtain ⟨first, others, variants⟩ := List.exists_cons_of_ne_nil nonempty
  simp [caseKey, variants]

/-- Characters that are the same letter have small letters that are variants of each other. -/
theorem small_mem_smallVariants (c d : Char) (same : caseKey c = caseKey d) :
    small c ∈ smallVariants (small d) := by
  have heads : (smallVariants (small c)).head? = (smallVariants (small d)).head? := by
    rw [head?_smallVariants, head?_smallVariants, same]
  rcases smallVariants_cases (small c) with ⟨listed, member⟩ | ⟨alone, -⟩
  · rcases smallVariants_cases (small d) with ⟨alsoListed, -⟩ | ⟨otherAlone, unlisted⟩
    · rwa [← sharedCapitals_apart _ listed _ alsoListed heads]
    · rw [otherAlone, List.head?_cons] at heads
      exact absurd (List.mem_of_head? heads) (unlisted _ listed)
  · rw [alone, List.head?_cons] at heads
    exact List.mem_of_head? heads.symm

/-- A word whose letters share no capital with others has one small form in every spelling. -/
theorem map_small_of_spelling (spelling word : List Char)
    (same : spelling.map caseKey = word.map caseKey)
    (single : ∀ letter ∈ word, smallVariants (small letter) = [letter]) :
    spelling.map small = word := by
  induction word generalizing spelling with
  | nil => simpa using same
  | cons letter word inductionHypothesis =>
    obtain ⟨c, rest, rfl, key, others⟩ := List.map_eq_cons_iff.mp same
    have first := small_mem_smallVariants c letter key
    rw [single letter List.mem_cons_self, List.mem_singleton] at first
    rw [List.map_cons, first, inductionHypothesis rest others fun other member =>
      single other (List.mem_cons_of_mem letter member)]

/-- No capital has the long s as its small letter. -/
theorem eq_of_small_eq_long (c : Char) (long : small c = 'ſ') : c = 'ſ' := by
  have apart : ∀ run ∈ capitalRuns, 'ſ'.toNat < run.target ∨
      run.target + (run.last - run.first) < 'ſ'.toNat := by decide +kernel
  have number : 'ſ'.toNat = 383 := rfl
  rcases small_cases c with own | letter | ⟨run, member, first, last⟩
  · exact own.symm.trans long
  · rw [long] at letter
    omega
  · rw [long] at first last
    have missed := apart run member
    omega

/-- Letters whose small forms are neither a sigma nor an i are lowered one by one. -/
theorem lower_eq_map_small (cs : List Char)
    (plain : ∀ c ∈ cs, small c ≠ 'σ' ∧ small c ≠ 'i') : lower cs = cs.map small := by
  have noSigma : 'Σ' ∉ cs := fun member => (plain 'Σ' member).1 (by decide)
  rw [lower_eq_flatMap cs noSigma, List.map_eq_flatMap]
  refine List.flatMap_congr fun c member => ?_
  have sigma : c ≠ 'Σ' := fun same => noSigma (same ▸ member)
  have dotted : c ≠ 'İ' := by
    rintro rfl
    exact (plain 'İ' member).2 (by decide)
  simp [lowerBetween, sigma, dotted]

end Rulebook.Text

namespace Rulebook.Pattern

open Text

/-- A list of patterns is read one pattern after the other. -/
theorem readings_all_cons (first : Pattern) (rest : List Pattern) (cursor : Cursor) :
    (all (first :: rest)).readings cursor =
      (first.readings cursor).flatMap (all rest).readings := by
  cases rest with
  | nil => exact (List.flatMap_singleton' _).symm
  | cons second more => rfl

/-- One of several patterns is read as one of them. -/
theorem mem_readings_oneOf (patterns : List Pattern) (some : patterns ≠ []) (cursor stop : Cursor)
    (member : stop ∈ (oneOf patterns).readings cursor) :
    ∃ pattern ∈ patterns, stop ∈ pattern.readings cursor := by
  induction patterns with
  | nil => exact absurd rfl some
  | cons first rest inductionHypothesis =>
    cases rest with
    | nil => exact ⟨first, List.mem_singleton_self first, member⟩
    | cons second more =>
      rcases List.mem_append.mp member with here | later
      · exact ⟨first, List.mem_cons_self, here⟩
      · obtain ⟨pattern, listed, reached⟩ := inductionHypothesis (List.cons_ne_nil _ _) later
        exact ⟨pattern, List.mem_cons_of_mem first listed, reached⟩

/-- Every reading of a word takes a spelling of it. -/
theorem spelled_of_mem_readings_word (s : String) (cursor stop : Cursor)
    (member : stop ∈ (word s).readings cursor) :
    ∃ spelling, spelling.map caseKey = s.toList.map caseKey ∧
      cursor.after = spelling ++ stop.after ∧ stop = cursor.past spelling stop.after := by
  unfold word at member
  generalize s.toList = letters at member
  induction letters generalizing cursor with
  | nil =>
    obtain rfl := List.mem_singleton.mp member
    exact ⟨[], rfl, rfl, rfl⟩
  | cons letter letters inductionHypothesis =>
    rw [List.map_cons, readings_all_cons] at member
    obtain ⟨mid, reached, onward⟩ := List.mem_flatMap.mp member
    obtain ⟨c, accepted, split, isMid⟩ := (mem_readings_char _ cursor mid).mp reached
    obtain ⟨spelling, same, splitMid, isStop⟩ := inductionHypothesis mid onward
    have key : caseKey letter = caseKey c := by
      simpa [CharTest.accepts, Folding.same, sameLetter] using accepted
    refine ⟨c :: spelling, by rw [List.map_cons, List.map_cons, key, same], ?_, ?_⟩
    · rw [split, splitMid, List.cons_append]
    · rw [← Cursor.step_past cursor c spelling mid.after, ← isMid]
      exact isStop

end Rulebook.Pattern

namespace Rulebook.Extract

open Pattern Text Decimal

section Names

variable {name : String} {days : Nat} {unit : List Char}

/-- The units and their days. -/
def unitDays : List (String × Nat) := [("day", 1), ("week", 7), ("month", 30), ("year", 365)]

/-- A unit as it is written: its name, or its name with a plural mark, in any case. -/
def SpellsUnit (name : String) (unit : List Char) : Prop :=
  unit.map caseKey = name.toList.map caseKey ∨
    unit.map caseKey = (name.toList ++ ['s']).map caseKey

/-- What may be left of the plural mark of a unit without its case. -/
def smallMarks : List (List Char) := [[], ['s'], ['ſ']]

/-- No letter of a name shares its capital with another one. -/
theorem unitDays_letters : ∀ entry ∈ unitDays, ∀ letter ∈ entry.1.toList,
    smallVariants (small letter) = [letter] := by
  -- The check runs along the letters; a quantifier over them would be decided over all characters.
  have checked : (unitDays.all fun entry => entry.1.toList.all fun letter =>
      smallVariants (small letter) == [letter]) = true := by decide
  intro entry listed letter member
  have here := List.all_eq_true.mp (List.all_eq_true.mp checked entry listed) letter member
  exact beq_iff_eq.mp here

/-- Without its case a unit is its name and what is left of the mark, which tells a long s. -/
theorem exists_smallMark (listed : (name, days) ∈ unitDays) (spelled : SpellsUnit name unit) :
    ∃ mark ∈ smallMarks, unit.map small = name.toList ++ mark ∧
      (unit.getLast? = some 'ſ' ↔ mark = ['ſ']) := by
  have letters := unitDays_letters (name, days) listed
  rcases spelled with bare | plural
  · have form := map_small_of_spelling unit name.toList bare letters
    have noLong : unit.getLast? ≠ some 'ſ' := by
      intro last
      have inside : small 'ſ' ∈ unit.map small :=
        List.mem_map_of_mem (List.mem_of_getLast? last)
      rw [form] at inside
      exact absurd (letters _ inside) (by decide)
    exact ⟨[], by simp [smallMarks], by rw [form, List.append_nil], by simp [noLong]⟩
  · rw [List.map_append] at plural
    obtain ⟨front, back, rfl, isName, isMark⟩ := List.map_eq_append_iff.mp plural
    obtain ⟨c, none, rfl, key, ended⟩ := List.map_eq_cons_iff.mp isMark
    obtain rfl := List.map_eq_nil_iff.mp ended
    have form := map_small_of_spelling front name.toList isName letters
    have variant : small c ∈ ['s', 'ſ'] := small_mem_smallVariants c 's' key
    rcases List.mem_cons.mp variant with round | long
    · have noLong : c ≠ 'ſ' := by
        rintro rfl
        exact absurd round (by decide)
      refine ⟨['s'], by simp [smallMarks], ?_, by simp [noLong]⟩
      rw [List.map_append, form, List.map_singleton, round]
    · obtain rfl := eq_of_small_eq_long c (List.mem_singleton.mp long)
      refine ⟨['ſ'], by simp [smallMarks], ?_, by simp⟩
      rw [List.map_append, form]
      rfl

/-- The days of a lowered unit are those of its name, unless a long s is left of the mark. -/
theorem daysPerUnit?_of_mark : ∀ entry ∈ unitDays, ∀ mark ∈ smallMarks,
    daysPerUnit? (String.ofList ((entry.1.toList ++ mark).reverse.dropWhile (· == 's')).reverse) =
      if mark = ['ſ'] then none else some entry.2 := by
  decide

/-- The days of a unit are known in every spelling but those that end in a long s. -/
theorem daysOfUnit?_of_spells (listed : (name, days) ∈ unitDays) (spelled : SpellsUnit name unit) :
    daysOfUnit? unit = if unit.getLast? = some 'ſ' then none else some days := by
  obtain ⟨mark, isMark, form, long⟩ := exists_smallMark listed spelled
  have plain : ∀ entry ∈ unitDays, ∀ mark ∈ smallMarks, 'σ' ∉ entry.1.toList ++ mark ∧
      'i' ∉ entry.1.toList ++ mark := by decide
  have lowered : lower unit = name.toList ++ mark := by
    rw [← form]
    refine lower_eq_map_small unit fun c member => ?_
    have inside : small c ∈ name.toList ++ mark := form ▸ List.mem_map_of_mem member
    obtain ⟨noSigma, noI⟩ := plain (name, days) listed mark isMark
    exact ⟨fun same => noSigma (same ▸ inside), fun same => noI (same ▸ inside)⟩
  rw [daysOfUnit?, lowered, daysPerUnit?_of_mark (name, days) listed mark isMark]
  simp only [long]

end Names

section Mentions

/-- Every reading of a unit takes a spelling of one of the four. -/
theorem spelled_of_mem_readings_unitPhrase (cursor stop : Cursor)
    (member : stop ∈ unitPhrase.readings cursor) :
    ∃ name days unit, (name, days) ∈ unitDays ∧ SpellsUnit name unit ∧
      cursor.after = unit ++ stop.after ∧ stop = cursor.past unit stop.after := by
  obtain ⟨pattern, isPattern, reached⟩ := mem_readings_oneOf _ (by simp) cursor stop member
  obtain ⟨name, isName, rfl⟩ := List.mem_map.mp isPattern
  obtain ⟨⟨name, days⟩, listed, rfl⟩ : ∃ entry ∈ unitDays, entry.1 = name := List.mem_map.mp isName
  obtain ⟨mid, isBare, isStop⟩ := List.mem_flatMap.mp reached
  obtain ⟨bare, same, split, isMid⟩ := spelled_of_mem_readings_word name cursor mid isBare
  rw [readings_optional] at isStop
  rcases List.mem_append.mp isStop with plural | none
  · obtain ⟨mark, isMark, splitMid, isEnd⟩ := spelled_of_mem_readings_word "s" mid stop plural
    refine ⟨name, days, bare ++ mark, listed, .inr ?_, ?_, ?_⟩
    · rw [List.map_append, same, isMark, List.map_append]
      rfl
    · rw [split, splitMid, List.append_assoc]
    · rw [← Cursor.past_past cursor bare mark mid.after, ← isMid]
      exact isEnd
  · obtain rfl := List.mem_singleton.mp none
    exact ⟨name, days, bare, listed, .inl same, split, isMid⟩

/-- What a mention of an age states: its digits and its unit stand in the text, one behind the
other, and the unit is a spelling of one with the given days. -/
structure StatesAge (text : List Char) (mention : Cursor) (digits unit : List Char)
    (days : Nat) : Prop where
  isNumber : mention.group? 1 = some digits
  isUnit : mention.group? 2 = some unit
  nonempty : digits ≠ []
  areDigits : ∀ c ∈ digits, Text.isDigit c = true
  spelled : ∃ name, (name, days) ∈ unitDays ∧ SpellsUnit name unit
  stands : ∃ front gap back, text = front ++ (digits ++ (gap ++ (unit ++ back))) ∧
    ∀ c ∈ gap, skipPart.mayTake c = true

/-- A number with a unit behind it is a mention, whatever the pattern asks for further on. -/
theorem exists_statesAge_of_reading (front back : List Char) (closing : Pattern)
    (keepsNumber : closing.maySet 1 = false) (keepsUnit : closing.maySet 2 = false)
    (mid stop : Cursor) (isNumber : mid ∈ numberGroup.readings (.between front back))
    (closes : stop ∈ (Pattern.seq unitPart closing).readings mid) :
    ∃ digits unit days, StatesAge (front ++ back) stop digits unit days := by
  obtain ⟨digits, nonempty, areDigits, splitBack, isMid⟩ :=
    mem_readings_numberGroup front back mid isNumber
  have setsNoNumber : (Pattern.seq unitPart closing).maySet 1 = false := by
    rw [maySet, keepsNumber]
    rfl
  have number : stop.group? 1 = some digits := by
    rw [(moves_of_mem_readings _ mid stop closes).kept 1 setsNoNumber, isMid]
    rfl
  obtain ⟨unitEnd, isUnit, onward⟩ := List.mem_flatMap.mp closes
  obtain ⟨gapEnd, inner, isGap, isPhrase, rfl⟩ := exists_of_mem_readings_unitPart mid unitEnd isUnit
  obtain ⟨gap, inGap, splitGap, -, -⟩ := (moves_of_mem_readings skipPart mid gapEnd isGap).taken
  obtain ⟨name, days, unit, listed, spelled, splitUnit, isInner⟩ :=
    spelled_of_mem_readings_unitPhrase gapEnd inner isPhrase
  have remembered : stop.group? 2 = some unit := by
    rw [(moves_of_mem_readings closing _ stop onward).kept 2 keepsUnit, isInner]
    exact Cursor.group?_remember_past 2 unit inner.after gapEnd splitUnit
  refine ⟨digits, unit, days, number, remembered, nonempty, areDigits, ⟨name, listed, spelled⟩, ?_⟩
  exact ⟨front, gap, inner.after, by rw [splitBack, splitGap, splitUnit], inGap⟩

/-- Every mention of an age states one, whether it stands after the word for the account or
before it. -/
theorem exists_statesAge (text : String) (mention : Cursor)
    (found : ageMention? text = some mention) :
    ∃ digits unit days, StatesAge text.toList mention digits unit days := by
  cases search : ageAfter.find? text.toList with
  | some behind =>
    have same : behind = mention := by simpa [ageMention?, search] using found
    obtain ⟨front, back, split, reached⟩ := exists_of_find? ageAfter _ behind search
    rw [readings_ageAfter] at reached
    obtain ⟨lead, leads, tail⟩ := List.mem_flatMap.mp reached
    obtain ⟨taken, -, splitBack, isLead⟩ :=
      (moves_of_mem_readings _ _ lead leads).eq_between fun _ => rfl
    obtain ⟨mid, isNumber, closes⟩ := List.mem_flatMap.mp tail
    rw [isLead] at isNumber
    rw [← same, split, splitBack, ← List.append_assoc]
    exact exists_statesAge_of_reading _ _ edge rfl rfl mid behind isNumber closes
  | none =>
    have before : ageBefore.find? text.toList = some mention := by
      simpa [ageMention?, search] using found
    obtain ⟨front, back, split, reached⟩ := exists_of_find? ageBefore _ mention before
    rw [readings_ageBefore] at reached
    obtain ⟨mid, isNumber, closes⟩ := List.mem_flatMap.mp reached
    rw [split]
    exact exists_statesAge_of_reading front back _ rfl rfl mid mention isNumber closes

/-- The age of a mention is the number times the days of the unit, where both are known. -/
theorem minAccountAgeDays?_of_states (text : String) (mention : Cursor) (digits unit : List Char)
    (days : Nat) (found : ageMention? text = some mention)
    (states : StatesAge text.toList mention digits unit days) :
    minAccountAgeDays? text =
      if digits.length ≤ digitLimit ∧ unit.getLast? ≠ some 'ſ' then
        some (valueOf (digitValues digits) * days)
      else none := by
  obtain ⟨name, listed, spelled⟩ := states.spelled
  simp only [minAccountAgeDays?, found, states.isNumber, states.isUnit, Option.bind_eq_bind,
    Option.bind_some, daysOfUnit?_of_spells listed spelled,
    numberOf?_of_digits digits states.areDigits]
  by_cases long : unit.getLast? = some 'ſ'
  · simp [long]
  · by_cases short : digits.length ≤ digitLimit
    · simp [long, short, Nat.not_lt.mpr short]
    · simp [long, short]

/-- A text gives an age where it mentions one: the number times the days of the unit, in every
spelling of both, unless the number has too many digits or the unit ends in a long s. -/
theorem mentioned_age_is_kept_or_hidden (text : String) :
    (ageMention? text = none ∧ minAccountAgeDays? text = none) ∨
      ∃ mention digits unit days, ageMention? text = some mention ∧
        StatesAge text.toList mention digits unit days ∧
        minAccountAgeDays? text =
          if digits.length ≤ digitLimit ∧ unit.getLast? ≠ some 'ſ' then
            some (valueOf (digitValues digits) * days)
          else none := by
  cases found : ageMention? text with
  | none => exact .inl ⟨rfl, by simp [minAccountAgeDays?, found]⟩
  | some mention =>
    obtain ⟨digits, unit, days, states⟩ := exists_statesAge text mention found
    exact .inr ⟨mention, digits, unit, days, rfl, states,
      minAccountAgeDays?_of_states text mention digits unit days found states⟩

/-- A unit may be written with the sign of the kelvin. -/
example : minAccountAgeDays? "2 WEE\u212aS old account" = some 14 := by decide +kernel

/-- Months with a long s are mentioned and give no age. -/
theorem long_s_hides_age :
    ¬ ∀ (text : String) (mention : Cursor) (digits unit : List Char) (days : Nat),
      ageMention? text = some mention → StatesAge text.toList mention digits unit days →
        digits.length ≤ digitLimit →
          minAccountAgeDays? text = some (valueOf (digitValues digits) * days) := by
  intro kept
  have silent : minAccountAgeDays? "account must be 3 monthſ old" = none := by decide +kernel
  have number : (ageMention? "account must be 3 monthſ old").bind (·.group? 1) = some ['3'] := by
    decide +kernel
  obtain ⟨mention, found, isNumber⟩ := Option.bind_eq_some_iff.mp number
  obtain ⟨digits, unit, days, states⟩ := exists_statesAge _ mention found
  obtain rfl : ['3'] = digits := Option.some.inj (isNumber.symm.trans states.isNumber)
  have shown := kept _ mention ['3'] unit days found states (by decide)
  rw [silent] at shown
  cases shown

end Mentions

end Rulebook.Extract
