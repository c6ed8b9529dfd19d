import Rulebook.Proofs.Numerals
import Rulebook.Proofs.Searches

/-!
# Limits and requirements written with commas

In a text with exactly one number the parts of a pattern that lead to a number can only stop
where the numeral begins. The phrase before the number takes no character of a numeral, and
the gap behind it takes no digit. So a search depends on the numeral through what is read
there alone, and whether it leads there is the same for every numeral.

The number of a limit is a run of digits, so it ends at the first comma. The number of a
requirement of karma is a run of digits and commas. A shorter part of that run is tried when
the closing word is too far away, but the word cannot begin within the run, so only the whole
run is ever used, and a comma in it changes nothing.
-/

namespace Rulebook.Extract

open Pattern Calendar

/-- The characters of numerals. -/
def numeralChars : List Char := ['0', '1', '2', '3', '4', '5', '6', '7', '8', '9', ',']

/-- True when no reading takes a character of a numeral. -/
def sparesNumerals (pattern : Pattern) : Bool := numeralChars.all fun c => !pattern.mayTake c

theorem mem_numeralChars (c : Char) (numeral : isNumeral c = true) : c ∈ numeralChars := by
  rcases Bool.or_eq_true_iff.mp numeral with digit | comma
  · have bounds : 48 ≤ c.toNat ∧ c.toNat ≤ 57 := by
      simpa [Char.isDigit, UInt32.le_iff_toNat_le] using digit
    have listed : ∀ offset < 10, Char.ofNat (48 + offset) ∈ numeralChars := by decide
    have point : 48 + (c.toNat - 48) = c.toNat := by omega
    have member := listed (c.toNat - 48) (by omega)
    rwa [point, Char.ofNat_toNat] at member
  · rw [beq_iff_eq.mp comma]
    decide

theorem isNumeral_of_mayTake {pattern : Pattern} (spares : sparesNumerals pattern = true) (c : Char)
    (takes : pattern.mayTake c = true) : isNumeral c = false := by
  apply Bool.eq_false_iff.mpr
  intro numeral
  have spared := List.all_eq_true.mp spares c (mem_numeralChars c numeral)
  simp [takes] at spared

/-- The test for any character of the same line but a digit takes no digit. -/
theorem digitless_of_repeats (least : Nat) (most : Option Nat) (word : List Char)
    (repeated : Repeats (.set .full true [.ofKind .digit false false, .one '\n']) least most word) :
    Digitless word := by
  intro c member
  have accepted := repeated.accepted c member
  simp [CharTest.accepts, SetItem.holds, CharKind.holds] at accepted
  exact accepted.1

section Leads

variable {before word after : List Char} {phrase lead tail pattern : Pattern}

/-- A phrase outside numerals and a gap without digits end before the numeral if a digit
follows. -/
theorem eq_between_of_gap (one : OneNumber before word after) (gap : Nat)
    (spares : sparesNumerals phrase = true) (takes : phrase.takesText = true)
    (groupless : ∀ index, phrase.maySet index = false) (front back : List Char)
    (split : before ++ (word ++ after) = front ++ back) (mid stop : Cursor)
    (reached : mid ∈ phrase.readings (.between front back))
    (onward : stop ∈ (few gap noDigit).readings mid)
    (next : ∃ d rest, stop.after = d :: rest ∧ Text.isDigit d = true) :
    stop = .between before (word ++ after) := by
  obtain ⟨d, rest, ahead, digit⟩ := next
  obtain ⟨taken, inTaken, splitBack, isMid⟩ :=
    (moves_of_mem_readings phrase _ mid reached).eq_between groupless
  obtain ⟨skipped, repeated, splitMid, isStop⟩ :=
    (mem_readings_many .fewest 0 (some gap) _ (by decide) mid stop).mp onward
  have forward := lt_of_takesText phrase takes _ mid reached
  have some : taken ≠ [] := by
    rintro rfl
    rw [isMid, List.append_nil] at forward
    exact Nat.lt_irrefl _ forward
  obtain ⟨init, c, rfl⟩ := (List.eq_nil_or_concat' taken).resolve_left some
  have other := isNumeral_of_mayTake spares c (inTaken c (by simp))
  have whole : before ++ (word ++ after) = front ++ init ++ [c] ++ skipped ++ d :: rest := by
    rw [split, splitBack, splitMid, ahead]
    simp
  obtain ⟨rfl, rest⟩ :=
    one.eq_of_gap (front ++ init) skipped rest c d other (digitless_of_repeats _ _ _ repeated) digit
      whole
  rw [isStop, isMid, splitMid, Cursor.between_past, ahead, rest]
  simp

end Leads

section Digits

theorem accepts_digit (c : Char) :
    (CharTest.set .full false [.ofKind .digit false false]).accepts c = Text.isDigit c := by
  simp [CharTest.accepts, SetItem.holds, CharKind.holds]

theorem holds_word_of_digit (c : Char) (plain : c.isDigit = true) (ascii : Bool) :
    CharKind.word.holds ascii c = true := by
  simp [CharKind.holds, Text.isWord, toNat_lt_of_plain c plain, Char.isAlphanum, plain]

/-- Texts that begin with digits look the same to a word boundary. -/
theorem alikeAt_of_digits (digit other : Char) (rest more : List Char)
    (plain : digit.isDigit = true) (alsoPlain : other.isDigit = true) :
    AlikeAt (digit :: rest) (other :: more) :=
  ⟨rfl, fun ascii => by simp [holds_word_of_digit, plain, alsoPlain]⟩

theorem Numeral.alikeAt {word other : List Char} (numeral : Numeral word)
    (otherNumeral : Numeral other) (after more : List Char) :
    AlikeAt (word ++ after) (other ++ more) := by
  obtain ⟨digit, rest, rfl, plain⟩ := numeral.first
  obtain ⟨otherDigit, otherRest, rfl, alsoPlain⟩ := otherNumeral.first
  exact alikeAt_of_digits _ _ _ _ plain alsoPlain

theorem Numeral.alikeAt_reverse {word other : List Char} (numeral : Numeral word)
    (otherNumeral : Numeral other) (before more : List Char) :
    AlikeAt (word.reverse ++ before) (other.reverse ++ more) := by
  obtain ⟨rest, digit, rfl, plain⟩ := numeral.last
  obtain ⟨otherRest, otherDigit, rfl, alsoPlain⟩ := otherNumeral.last
  rw [List.reverse_concat, List.reverse_concat]
  exact alikeAt_of_digits _ _ _ _ plain alsoPlain

/-- What leads to one numeral leads to another one in its place. -/
theorem leads_iff {lead : Pattern} (isLocal : Local lead) {before after word other : List Char}
    (numeral : Numeral word) (otherNumeral : Numeral other) :
    Leads lead before (word ++ after) ↔ Leads lead before (other ++ after) :=
  ⟨fun leads => leads.congr isLocal (numeral.alikeAt otherNumeral after after),
    fun leads => leads.congr isLocal (otherNumeral.alikeAt numeral after after)⟩

/-- A run of digits begins at a digit. -/
theorem digit_of_readings (cursor : Cursor) (some : (atLeastOne digit).readings cursor ≠ []) :
    ∃ d rest, cursor.after = d :: rest ∧ Text.isDigit d = true := by
  obtain ⟨stop, member⟩ := List.exists_mem_of_ne_nil _ some
  obtain ⟨word, repeated, split, -⟩ :=
    (mem_readings_many .most 1 none _ (by decide) cursor stop).mp member
  cases word with
  | nil => exact absurd repeated.enough (by simp)
  | cons d rest => exact ⟨d, _, split, accepts_digit d ▸ repeated.accepted d List.mem_cons_self⟩

/-- A run of digits is first read to its end. -/
theorem head?_digits (cursor : Cursor)
    (begins : ∃ d rest, cursor.after = d :: rest ∧ Text.isDigit d = true) :
    ((atLeastOne digit).readings cursor).head? =
      some (cursor.past (cursor.after.takeWhile Text.isDigit)
        (cursor.after.dropWhile Text.isDigit)) := by
  rw [← funext accepts_digit]
  refine head?_readings_many 1 _ cursor ?_
  obtain ⟨d, rest, ahead, isDigit⟩ := begins
  rw [funext accepts_digit, ahead, List.takeWhile_cons_of_pos isDigit]
  exact Nat.succ_le_succ (Nat.zero_le _)

end Digits

section Limit

variable {before spelled after : List Char}

/-- What leads to a number: an opening, a phrase, and a gap without digits. -/
def numberLead (opening phrase : Pattern) (gap : Nat) : Pattern :=
  .seq opening (.seq phrase (few gap noDigit))

/-- What begins with a digit can be read behind a lead only at the numeral. -/
theorem only_of_numberLead (one : OneNumber before spelled after) (opening phrase tail : Pattern)
    (gap : Nat) (grouplessOpening : ∀ index, opening.maySet index = false)
    (groupless : ∀ index, phrase.maySet index = false) (spares : sparesNumerals phrase = true)
    (takes : phrase.takesText = true)
    (begins : ∀ cursor, tail.readings cursor ≠ [] →
      ∃ d rest, cursor.after = d :: rest ∧ Text.isDigit d = true) :
    ∀ start ∈ positions (before ++ (spelled ++ after)),
      ∀ mid ∈ (numberLead opening phrase gap).readings start,
        tail.readings mid ≠ [] → mid = .between before (spelled ++ after) := by
  intro start member mid reached some
  obtain ⟨front, back, split, rfl⟩ := (mem_positions _ _).mp member
  obtain ⟨opened, isOpened, fromOpened⟩ := List.mem_flatMap.mp reached
  obtain ⟨behind, isBehind, isMid⟩ := List.mem_flatMap.mp fromOpened
  obtain ⟨taken, -, splitBack, between⟩ :=
    (moves_of_mem_readings opening _ opened isOpened).eq_between grouplessOpening
  rw [between] at isBehind
  refine eq_between_of_gap one gap spares takes groupless _ _ ?_ behind mid isBehind isMid
    (begins mid some)
  rw [split, splitBack, List.append_assoc]

/-- What stands before the number of a limit. -/
def limitLead (things : List String) : Pattern :=
  numberLead (.seq (words things) (few 20 inLine)) limitPhrase 10

/-- The number of a limit. -/
def numberGroup : Pattern := .group 1 (atLeastOne digit)

/-- The number of a limit is read at the numeral. -/
theorem meetsAt_limitOn (one : OneNumber before spelled after) (things : List String)
    (groupless : ∀ index, (words things).maySet index = false) :
    MeetsAt (limitOn things) (limitLead things) numberGroup before (spelled ++ after) where
  parts cursor := by
    simp only [limitOn, limitLead, numberLead, numberGroup, all, readings, List.flatMap_assoc]
  only := by
    apply only_of_numberLead one _ _ _ 10 _ (fun _ => rfl) (by decide) rfl
    · intro cursor some
      exact digit_of_readings cursor (readings_ne_nil_of_group some)
    · intro index
      rw [maySet, groupless]
      rfl

/-- The number of a limit takes all the digits up to the next other character. -/
theorem head?_numberGroup (numeral : Numeral spelled) (front after : List Char) :
    ((numberGroup.readings (.between front (spelled ++ after))).head?.bind (·.group? 1)) =
      some ((spelled ++ after).takeWhile Text.isDigit) := by
  rw [numberGroup, readings, List.head?_map, head?_digits _ (numeral.begins after),
    Option.map_some, Option.bind_some]
  exact Cursor.group?_remember_past 1 _ _ _ List.takeWhile_append_dropWhile.symm

/-- A limit that is found is the number up to the first comma. -/
theorem firstNumber?_of_leads (one : OneNumber before spelled after) (things : List String)
    (groupless : ∀ index, (words things).maySet index = false)
    (leads : Leads (limitLead things) before (spelled ++ after)) (text : String)
    (split : text.toList = before ++ (spelled ++ after)) :
    firstNumber? (limitOn things) text = numberOf? ((spelled ++ after).takeWhile Text.isDigit) := by
  have found := (meetsAt_limitOn one things groupless).find?_of_leads leads
  have digits := head?_numberGroup one.numeral before after
  rw [← found, ← split] at digits
  obtain ⟨stop, isStop, isGroup⟩ := Option.bind_eq_some_iff.mp digits
  simp only [firstNumber?, isStop, isGroup, Option.bind_eq_bind, Option.bind_some]

theorem firstNumber?_of_not_leads (one : OneNumber before spelled after) (things : List String)
    (groupless : ∀ index, (words things).maySet index = false)
    (leadless : ¬ Leads (limitLead things) before (spelled ++ after)) (text : String)
    (split : text.toList = before ++ (spelled ++ after)) :
    firstNumber? (limitOn things) text = none := by
  have nothing := (meetsAt_limitOn one things groupless).find?_of_not_leads leadless
  simp only [firstNumber?, split, nothing, Option.bind_eq_bind, Option.bind_none]

theorem local_limitLead (things : List String) (isLocal : (words things).isLocal = true) :
    Local (limitLead things) := by
  refine .seq (.seq (.of_isLocal _ isLocal) ?_) ?_
  all_goals exact .of_isLocal _ rfl

/-- Two numerals with the same digits up to the first comma give the same limit. -/
theorem firstNumber?_congr {other : List Char} (one : OneNumber before spelled after)
    (alsoOne : OneNumber before other after) (things : List String)
    (groupless : ∀ index, (words things).maySet index = false)
    (isLocal : (words things).isLocal = true)
    (same : (spelled ++ after).takeWhile Text.isDigit = (other ++ after).takeWhile Text.isDigit)
    (text otherText : String) (split : text.toList = before ++ (spelled ++ after))
    (otherSplit : otherText.toList = before ++ (other ++ after)) :
    firstNumber? (limitOn things) text = firstNumber? (limitOn things) otherText := by
  have sameLead : Leads (limitLead things) before (spelled ++ after) ↔
      Leads (limitLead things) before (other ++ after) :=
    leads_iff (local_limitLead things isLocal) one.numeral alsoOne.numeral
  by_cases leads : Leads (limitLead things) before (spelled ++ after)
  · rw [firstNumber?_of_leads one things groupless leads text split,
      firstNumber?_of_leads alsoOne things groupless (sameLead.mp leads) otherText otherSplit, same]
  · rw [firstNumber?_of_not_leads one things groupless leads text split,
      firstNumber?_of_not_leads alsoOne things groupless (mt sameLead.mpr leads) otherText
        otherSplit]

/-- A limit whose number has commas is the number before the first of them. It is the limit that
the plain digits give only if there are no commas or no limit is found. -/
theorem limit_with_commas (number : Nat) (before after : String) (things : List String)
    (groupless : ∀ index, (words things).maySet index = false)
    (isLocal : (words things).isLocal = true)
    (quietBefore : Digitless before.toList) (quietAfter : Digitless after.toList) :
    firstNumber? (limitOn things) (before ++ commaText number ++ after) =
        firstNumber? (limitOn things) (before ++ toString (leading number) ++ after) ∧
      (firstNumber? (limitOn things) (before ++ commaText number ++ after) =
          firstNumber? (limitOn things) (before ++ toString number ++ after) ↔
        number < 1000 ∨
          firstNumber? (limitOn things) (before ++ commaText number ++ after) = none) := by
  have commas := OneNumber.of_withCommas number quietBefore quietAfter
  have plain (value : Nat) := OneNumber.of_toDigits value quietBefore quietAfter
  have split := toList_commaText before after number
  have plainSplit := toList_plainText before after
  refine ⟨firstNumber?_congr commas (plain (leading number)) things groupless isLocal ?_ _ _ split
    (plainSplit (leading number)), ?_⟩
  · rw [takeWhile_withCommas number _ quietAfter, takeWhile_toDigits _ _ quietAfter]
  by_cases small : number < 1000
  · simp only [commaText_of_lt number small, small, true_or]
  have sameLead : Leads (limitLead things) before.toList (withCommas number ++ after.toList) ↔
      Leads (limitLead things) before.toList (Nat.toDigits 10 number ++ after.toList) :=
    leads_iff (local_limitLead things isLocal) commas.numeral (plain number).numeral
  by_cases leads : Leads (limitLead things) before.toList (withCommas number ++ after.toList)
  · rw [firstNumber?_of_leads commas things groupless leads _ split,
      takeWhile_withCommas number _ quietAfter, numberOf?_toDigits _ (leading_lt number),
      firstNumber?_of_leads (plain number) things groupless (sameLead.mp leads) _
        (plainSplit number), takeWhile_toDigits _ _ quietAfter]
    constructor
    · intro same
      have equal := eq_of_numberOf?_toDigits number (leading number) same.symm
      have := leading_lt number
      omega
    · rintro (below | none)
      · exact absurd below small
      · cases none
  · rw [firstNumber?_of_not_leads commas things groupless leads _ split,
      firstNumber?_of_not_leads (plain number) things groupless (mt sameLead.mpr leads) _
        (plainSplit number)]
    simp

end Limit

section Karma

variable {before spelled after : List Char}

/-- The words for a requirement of karma. -/
def karmaWords : Pattern :=
  oneOf [word "minimum", all [word "min", edge, optional (word ".")], word "at least",
    .seq (word "require") (optional (word "s")), word "required", word "need"]

/-- A digit or a comma. -/
def commaOrDigit : CharTest := .set .full false [.ofKind .digit false false, .one ',']

/-- A number with commas: a digit, and then digits and commas. -/
def commaNumber : Pattern := .seq digit (many (.char commaOrDigit))

/-- What follows the number of a requirement of karma. -/
def karmaClosing : Pattern := .seq (few 10 inLine) (word "karma")

/-- The number of a requirement of karma and what follows it. -/
def karmaTail : Pattern := .seq (.group 1 commaNumber) karmaClosing

theorem mem_readings_digit (cursor stop : Cursor) :
    stop ∈ digit.readings cursor ↔
      ∃ d, Text.isDigit d = true ∧ cursor.after = d :: stop.after ∧
        stop = cursor.step d stop.after := by
  simp only [← accepts_digit]
  exact mem_readings_char _ cursor stop

/-- The number of a requirement of karma is read at the numeral. -/
theorem meetsAt_karma (one : OneNumber before spelled after) :
    MeetsAt karmaPhrase (numberLead .empty karmaWords 20) karmaTail before (spelled ++ after) where
  parts cursor := by
    simp only [karmaPhrase, karmaWords, karmaTail, karmaClosing, commaNumber, commaOrDigit, among,
      numberLead, all, readings, List.flatMap_assoc, List.flatMap_singleton]
  only := by
    apply only_of_numberLead one _ _ _ 20 (fun _ => rfl) (fun _ => rfl) (by decide) rfl
    intro cursor some
    have isNumber := readings_ne_nil_of_group (readings_ne_nil_of_seq some)
    obtain ⟨stop, isDigit⟩ := List.exists_mem_of_ne_nil _ (readings_ne_nil_of_seq isNumber)
    obtain ⟨d, digit, ahead, -⟩ := (mem_readings_digit cursor stop).mp isDigit
    exact ⟨d, _, ahead, digit⟩

/-- The closing of a requirement can be read behind a run that holds no letter of its word if it
can be read from the front of that run. -/
theorem karmaClosing_behind (run rest : List Char) (cursor behind : Cursor)
    (spares : ∀ c ∈ run, (word "karma").mayTake c = false) (split : cursor.after = run ++ rest)
    (isRest : behind.after = rest) (alike : AlikeAt (run.reverse ++ cursor.before) behind.before)
    (unset : cursor.group? 0 = behind.group? 0) (some : karmaClosing.readings cursor ≠ []) :
    karmaClosing.readings behind ≠ [] := by
  obtain ⟨stop, member⟩ := List.exists_mem_of_ne_nil _ some
  obtain ⟨mid, isMid, isStop⟩ := List.mem_flatMap.mp member
  obtain ⟨gap, repeated, splitGap, between⟩ :=
    (mem_readings_many .fewest 0 (Option.some 10) _ (by decide) cursor mid).mp isMid
  obtain ⟨k, further, letter, ahead, -⟩ := taken_of_takesText (word "karma") rfl mid stop isStop
  have outside : k ∉ run := by
    intro inside
    rw [spares k inside] at letter
    cases letter
  rw [split, ahead] at splitGap
  obtain ⟨short, rfl, splitRest⟩ := exists_append_of_notMem splitGap outside
  rw [← ahead] at splitRest
  have isNext : behind.past short mid.after ∈ (few 10 inLine).readings behind := by
    apply (mem_readings_many .fewest 0 (Option.some 10) _ (by decide) behind _).mpr
    refine ⟨short, ⟨?_, Nat.zero_le _, ?_⟩, ?_, rfl⟩
    · intro c member
      exact repeated.accepted c (List.mem_append_right _ member)
    · intro bound isBound
      have whole := repeated.within bound isBound
      rw [List.length_append] at whole
      omega
    · rw [isRest, splitRest]
      rfl
  have same : mid.Alike 0 mid.position (behind.past short mid.after).position
      (behind.past short mid.after) := by
    refine ⟨rfl, ?_, Nat.add_comm _ _, ?_⟩
    · rw [between]
      simpa [Cursor.past] using alike.append short.reverse
    · rw [between]
      exact unset
  have closes := (Local.of_isLocal (word "karma") rfl).readings_ne_nil same
    (List.ne_nil_of_mem isStop)
  obtain ⟨final, isFinal⟩ := List.exists_mem_of_ne_nil _ closes
  exact List.ne_nil_of_mem (List.mem_flatMap.mpr ⟨_, isNext, isFinal⟩)

/-- A digit of any script, or something that looks like a comma. -/
theorem accepts_commaOrDigit (c : Char) :
    commaOrDigit.accepts c = (Text.isDigit c || Text.sameLetter ',' c) := by
  have plain : (decide (0xffff < ','.toNat)) = false := by decide
  simp [commaOrDigit, CharTest.accepts, SetItem.holds, CharKind.holds, Folding.same,
    Text.sameLetter_comm c]

/-- A number with commas is first read to its end. -/
theorem head?_commaNumber (front text : List Char)
    (begins : ∃ d more, text = d :: more ∧ Text.isDigit d = true) :
    (commaNumber.readings (.between front text)).head? =
      some ((Cursor.between front text).past (text.takeWhile commaOrDigit.accepts)
        (text.dropWhile commaOrDigit.accepts)) := by
  obtain ⟨d, more, rfl, isDigit⟩ := begins
  have accepted : commaOrDigit.accepts d = true := by rw [accepts_commaOrDigit, isDigit]; rfl
  have start : digit.readings (.between front (d :: more)) =
      [(Cursor.between front (d :: more)).step d more] :=
    if_pos ((accepts_digit d).trans isDigit)
  have first := head?_readings_many 0 commaOrDigit
    ((Cursor.between front (d :: more)).step d more) (Nat.zero_le _)
  rw [Cursor.step_past] at first
  rw [commaNumber, readings, start, List.flatMap_singleton, List.takeWhile_cons_of_pos accepted,
    List.dropWhile_cons_of_pos accepted]
  exact first

/-- Every reading of a number with commas takes digits and commas. -/
theorem mem_readings_commaNumber (cursor stop : Cursor)
    (member : stop ∈ commaNumber.readings cursor) :
    ∃ part, (∀ c ∈ part, commaOrDigit.accepts c = true) ∧ cursor.after = part ++ stop.after ∧
      stop = cursor.past part stop.after := by
  obtain ⟨mid, isDigit, isStop⟩ := List.mem_flatMap.mp member
  obtain ⟨d, digit, split, isMid⟩ := (mem_readings_digit cursor mid).mp isDigit
  obtain ⟨more, repeated, splitMore, past⟩ :=
    (mem_readings_many .most 0 none commaOrDigit (by decide) mid stop).mp isStop
  refine ⟨d :: more, List.forall_mem_cons.mpr ⟨?_, repeated.accepted⟩, ?_, ?_⟩
  · rw [accepts_commaOrDigit, digit]
    rfl
  · rw [split, splitMore]
    rfl
  · rw [← Cursor.step_past cursor d more mid.after, ← isMid]
    exact past

/-- A word takes what looks like one of its letters. -/
theorem mayTake_word (s : String) (c : Char) :
    (word s).mayTake c = s.toList.any (Text.sameLetter · c) := by
  have letters (cs : List Char) : (all (cs.map fun c => .char (.letter .full false c))).mayTake c =
      cs.any (Text.sameLetter · c) := by
    induction cs with
    | nil => rfl
    | cons d rest inductionHypothesis =>
      rw [List.any_cons, ← inductionHypothesis]
      cases rest with
      | nil => simp [all, mayTake, CharTest.accepts, Folding.same]
      | cons e more => simp [all, mayTake, CharTest.accepts, Folding.same]
  exact letters s.toList

/-- No letter of the word for karma is a comma or a digit of a numeral. -/
theorem mayTake_karma (one : OneNumber before spelled after) (c : Char)
    (member : c ∈ spelled ++ after) (accepted : commaOrDigit.accepts c = true) :
    (word "karma").mayTake c = false := by
  rw [accepts_commaOrDigit, Bool.or_eq_true] at accepted
  rcases accepted with digit | comma
  · have spares : sparesNumerals (word "karma") = true := by decide
    have inSpelled : c ∈ spelled := by
      apply (List.mem_append.mp member).resolve_right
      intro inAfter
      rw [one.quietAfter c inAfter] at digit
      cases digit
    apply Bool.eq_false_iff.mpr
    intro takes
    have outside := isNumeral_of_mayTake spares c takes
    rw [one.numeral.within c inSpelled] at outside
    cases outside
  · have key : Text.caseKey c = Text.caseKey ',' := (beq_iff_eq.mp comma).symm
    have letters : (word "karma").mayTake c = (word "karma").mayTake ',' := by
      simp only [mayTake_word, Text.sameLetter, key]
    rw [letters]
    decide

/-- The position behind the number of a requirement, which is remembered. Commas that follow the
numeral are taken with it. -/
def karmaEnd (front text : List Char) : Cursor :=
  ((Cursor.between front text).past (text.takeWhile commaOrDigit.accepts)
    (text.dropWhile commaOrDigit.accepts)).remember 1 (.between front text)

/-- The first reading of a requirement takes the whole number. -/
theorem head?_karmaTail (one : OneNumber before spelled after) :
    (karmaTail.readings (.between before (spelled ++ after))).head? =
      (karmaClosing.readings (karmaEnd before (spelled ++ after))).head? := by
  obtain ⟨others, ends⟩ :=
    List.head?_eq_some_iff.mp (head?_commaNumber before _ (one.numeral.begins after))
  rw [karmaTail, readings, readings, ends, List.map_cons]
  apply head?_flatMap_of_first [] _ _ _ (by simp)
  intro nothing item member
  obtain ⟨stop, isOther, rfl⟩ := List.mem_map.mp member
  obtain ⟨part, accepted, split, isStop⟩ :=
    mem_readings_commaNumber _ stop (ends ▸ List.mem_cons_of_mem _ isOther)
  have whole : spelled ++ after = part ++ stop.after := split
  by_contra some
  refine karmaClosing_behind (stop.after.takeWhile commaOrDigit.accepts)
    (stop.after.dropWhile commaOrDigit.accepts) (stop.remember 1 _) _ ?_ ?_ ?_ ?_ ?_ some nothing
  · intro c inRun
    have inText : c ∈ spelled ++ after := by
      rw [whole]
      exact List.mem_append_right _ ((List.takeWhile_prefix _).subset inRun)
    exact mayTake_karma one c inText (List.all_eq_true.mp List.all_takeWhile c inRun)
  · exact List.takeWhile_append_dropWhile.symm
  · show List.dropWhile _ (spelled ++ after) = _
    rw [whole, List.dropWhile_append_of_pos accepted]
  · have run : (spelled ++ after).takeWhile commaOrDigit.accepts =
        part ++ stop.after.takeWhile commaOrDigit.accepts := by
      rw [whole, List.takeWhile_append_of_pos accepted]
    have same : (karmaEnd before (spelled ++ after)).before =
        (stop.after.takeWhile commaOrDigit.accepts).reverse ++ stop.before := by
      rw [isStop]
      simp [karmaEnd, Cursor.remember, Cursor.past, run]
    exact same ▸ .refl _
  · rw [isStop]
    rfl

theorem accepts_of_isNumeral (c : Char) (numeral : isNumeral c = true) :
    commaOrDigit.accepts c = true := by
  rw [accepts_commaOrDigit]
  rcases Bool.or_eq_true_iff.mp numeral with digit | comma
  · rw [isDigit_of_plain c digit]
    rfl
  · rw [beq_iff_eq.mp comma, Text.sameLetter_refl, Bool.or_true]

/-- The number of a requirement is the numeral and what looks like commas behind it. -/
theorem takeWhile_numeral (numeral : Numeral spelled) (after : List Char) :
    (spelled ++ after).takeWhile commaOrDigit.accepts =
        spelled ++ after.takeWhile commaOrDigit.accepts ∧
      (spelled ++ after).dropWhile commaOrDigit.accepts =
        after.dropWhile commaOrDigit.accepts := by
  have accepted : ∀ c ∈ spelled, commaOrDigit.accepts c = true := by
    intro c member
    exact accepts_of_isNumeral c (numeral.within c member)
  exact ⟨List.takeWhile_append_of_pos accepted, List.dropWhile_append_of_pos accepted⟩

/-- Behind two numerals in the same place the text looks the same. -/
theorem karmaEnd_alike {other : List Char} (numeral : Numeral spelled)
    (otherNumeral : Numeral other) (before after : List Char) :
    (karmaEnd before (spelled ++ after)).Alike 0 (karmaEnd before (spelled ++ after)).position
      (karmaEnd before (other ++ after)).position (karmaEnd before (other ++ after)) where
  after := (takeWhile_numeral numeral after).2.trans (takeWhile_numeral otherNumeral after).2.symm
  before := by
    have behind := (numeral.alikeAt_reverse otherNumeral before.reverse before.reverse).append
      (after.takeWhile commaOrDigit.accepts).reverse
    simpa [karmaEnd, Cursor.remember, Cursor.past, Cursor.between,
      (takeWhile_numeral numeral after).1, (takeWhile_numeral otherNumeral after).1] using behind
  offset := Nat.add_comm _ _
  remembered := rfl

/-- What the number of a requirement comes to depends on the digits of the numeral only. -/
theorem digitValues_karma (one : OneNumber before spelled after) :
    digitValues (((spelled ++ after).takeWhile commaOrDigit.accepts).filter (· != ',')) =
      digitValues spelled := by
  have noComma (text : List Char) : digitValues (text.filter (· != ',')) = digitValues text := by
    rw [digitValues, List.filterMap_filter]
    congr 1
    funext c
    by_cases comma : c = ','
    · rw [comma]
      rfl
    · simp [comma]
  have quiet : Digitless (after.takeWhile commaOrDigit.accepts) := by
    intro c member
    exact one.quietAfter c ((List.takeWhile_prefix _).subset member)
  rw [noComma, (takeWhile_numeral one.numeral after).1, digitValues, List.filterMap_append]
  have none := digitValues_of_digitless _ quiet
  rw [digitValues] at none
  rw [none, List.append_nil]
  rfl

theorem numberOf?_congr {digits others : List Char}
    (same : digitValues digits = digitValues others) : numberOf? digits = numberOf? others := by
  unfold digitValues at same
  unfold numberOf?
  rw [same]

/-- The number that a requirement is found to have. -/
theorem group_of_karma (front text : List Char) (stop : Cursor)
    (member : stop ∈ karmaClosing.readings (karmaEnd front text)) :
    stop.group? 1 = some (text.takeWhile commaOrDigit.accepts) := by
  rw [(moves_of_mem_readings karmaClosing _ stop member).kept 1 rfl]
  exact Cursor.group?_remember_past 1 _ _ _ List.takeWhile_append_dropWhile.symm

/-- Two numerals with the same digits give the same requirement. -/
theorem minKarma?_congr {other : List Char} (one : OneNumber before spelled after)
    (alsoOne : OneNumber before other after) (same : digitValues spelled = digitValues other)
    (text otherText : String) (split : text.toList = before ++ (spelled ++ after))
    (otherSplit : otherText.toList = before ++ (other ++ after)) :
    minKarma? text = minKarma? otherText := by
  unfold minKarma?
  rw [split, otherSplit]
  have sameLead : Leads (numberLead .empty karmaWords 20) before (spelled ++ after) ↔
      Leads (numberLead .empty karmaWords 20) before (other ++ after) :=
    leads_iff (.of_isLocal _ rfl) one.numeral alsoOne.numeral
  by_cases leads : Leads (numberLead .empty karmaWords 20) before (spelled ++ after)
  · rw [(meetsAt_karma one).find?_of_leads leads, head?_karmaTail one,
      (meetsAt_karma alsoOne).find?_of_leads (sameLead.mp leads), head?_karmaTail alsoOne]
    have alike := karmaEnd_alike one.numeral alsoOne.numeral before after
    rcases (Local.of_isLocal karmaClosing rfl).head?_readings alike with
      ⟨none, otherNone⟩ | ⟨stop, member, otherStop, otherMember, first, otherFirst, -⟩
    · rw [none, otherNone]
    · rw [first, otherFirst]
      simp only [Option.bind_eq_bind, Option.bind_some, group_of_karma _ _ _ member,
        group_of_karma _ _ _ otherMember]
      exact numberOf?_congr (by rw [digitValues_karma one, digitValues_karma alsoOne, same])
  · rw [(meetsAt_karma one).find?_of_not_leads leads,
      (meetsAt_karma alsoOne).find?_of_not_leads (mt sameLead.mpr leads)]

end Karma

end Rulebook.Extract
