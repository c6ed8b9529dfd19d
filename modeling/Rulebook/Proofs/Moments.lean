import Rulebook.Calendar.Printer
import Rulebook.Calendar.Reader
import Rulebook.Proofs.Days

/-!
# Moments that read back

The text of a moment shows its offset in whole minutes of less than a day. A moment with
such an offset, or with none, reads back from its text as itself, to the microsecond. Every
moment that is read from a text is one of these.
-/

namespace Rulebook.Calendar

/-- Digits in front grow by the last digit of the number. -/
theorem padded_succ (width value : Nat) (wide : 0 < width) :
    padded (width + 1) value = padded width (value / 10) ++ [(value % 10).digitChar] := by
  unfold padded
  rw [Nat.toDigits_eq_if (by decide : 1 < 10)]
  by_cases single : value < 10
  · have noFront : value / 10 = 0 := Nat.div_eq_of_lt single
    have zeros : List.replicate width '0' = List.replicate (width - 1) '0' ++ ['0'] := by
      rw [← List.replicate_succ', Nat.sub_add_cancel wide]
    simp [single, noFront, Nat.mod_eq_of_lt single, zeros]
  · simp [single, Nat.add_sub_add_right]

/-- A single digit needs no zeros. -/
theorem padded_one (value : Nat) (single : value < 10) : padded 1 value = [value.digitChar] := by
  simp [padded, Nat.toDigits_of_lt_base single]

/-- Two digits are the tens and the ones. -/
theorem padded_two (value : Nat) (small : value < 100) :
    padded 2 value = [(value / 10).digitChar, (value % 10).digitChar] := by
  rw [padded_succ 1 value (by decide), padded_one (value / 10) (by omega)]
  rfl

/-- Four digits are two pairs of them. -/
theorem padded_four (value : Nat) :
    padded 4 value = padded 2 (value / 100) ++ padded 2 (value % 100) := by
  rw [padded_succ 3 value (by decide), padded_succ 2 (value / 10) (by decide),
    padded_two (value % 100) (Nat.mod_lt _ (by decide)), Nat.div_div_eq_div_mul]
  have tens : value / 10 % 10 = value % 100 / 10 := by omega
  have ones : value % 10 = value % 100 % 10 := by omega
  rw [tens, ← ones]
  simp

/-- The characters of a number are digits, as many as the width asks for. -/
theorem padded_digits (width value : Nat) (fits : value < Decimal.tenTo (width + 1)) :
    (padded (width + 1) value).length = width + 1 ∧
      (∀ c ∈ padded (width + 1) value, c.isDigit = true) ∧
      Decimal.valueOf ((padded (width + 1) value).map (·.toNat - 48)) = value := by
  induction width generalizing value with
  | zero =>
    have single : value < 10 := fits
    rw [padded_one value single]
    simp [Decimal.valueOf, Nat.toNat_digitChar_sub_48_of_lt_ten single, single]
  | succ width inductionHypothesis =>
    have below : value / 10 < Decimal.tenTo (width + 1) := by
      rw [Decimal.tenTo_succ] at fits
      omega
    obtain ⟨length, digits, number⟩ := inductionHypothesis (value / 10) below
    have last : value % 10 < 10 := Nat.mod_lt _ (by decide)
    rw [padded_succ (width + 1) value (Nat.succ_pos _)]
    refine ⟨by simp [length], ?_, ?_⟩
    · intro c member
      rcases List.mem_append.mp member with front | final
      · exact digits c front
      · rw [List.mem_singleton] at final
        simp [final, last]
    · unfold Decimal.valueOf at number ⊢
      rw [List.map_append, List.foldl_append, number]
      simp [Nat.toNat_digitChar_sub_48_of_lt_ten last]
      omega

/-- A digit reads as its value. -/
theorem plainDigit?_digitChar (digit : Nat) (single : digit < 10) :
    plainDigit? digit.digitChar = some digit := by
  simp [plainDigit?, single, Nat.toNat_digitChar_sub_48_of_lt_ten single]

/-- Two digits read back as their number. -/
theorem readTwo?_padded (value : Nat) (small : value < 100) (rest : List Char) :
    readTwo? (padded 2 value ++ rest) = some (value, rest) := by
  rw [padded_two value small]
  simp only [List.cons_append, List.nil_append, readTwo?,
    plainDigit?_digitChar (value / 10) (by omega), plainDigit?_digitChar (value % 10) (by omega)]
  simp
  omega

/-- Every month is one of the twelve, and no day is beyond the thirty-first. -/
theorem Date.bounds (date : Date) : date.year < 10000 ∧ date.month < 13 ∧ date.day < 32 := by
  obtain ⟨-, lastYear, -, -, inYear, lastDay⟩ := date.parts
  have months : (monthLengths date.year).length = 12 := rfl
  have longest : ∀ length ∈ monthLengths date.year, length ≤ 31 := by
    unfold monthLengths
    split <;> decide
  have bounded := longest _ (List.getElem_mem inYear)
  omega

/-- A date reads back. -/
theorem readDate?_chars (date : Date) (rest : List Char) :
    readDate? (date.chars ++ rest) = some (date, rest) := by
  obtain ⟨year, month, day⟩ := date.bounds
  have century := readTwo?_padded (date.year / 100) (by omega)
  have years := readTwo?_padded (date.year % 100) (by omega)
  have months := readTwo?_padded date.month (by omega)
  have days := readTwo?_padded date.day (by omega)
  have whole : 100 * (date.year / 100) + date.year % 100 = date.year := by omega
  simp only [readDate?, Date.chars, padded_four, List.append_assoc, List.cons_append, century,
    years, months, days, expect?, beq_self_eq_true, if_true, Option.bind_eq_bind,
    Option.bind_some, whole, Date.of?_parts, Option.pure_def]

/-- A run of digits ends where something else stands. -/
theorem digits_span (digits rest : List Char) (all : ∀ c ∈ digits, c.isDigit = true)
    (ends : ∀ c, rest.head? = some c → c.isDigit = false) :
    (digits ++ rest).takeWhile Char.isDigit = digits ∧
      (digits ++ rest).dropWhile Char.isDigit = rest := by
  rw [List.takeWhile_append_of_pos all, List.dropWhile_append_of_pos all]
  cases rest with
  | nil => simp
  | cons c rest => simp [ends c rfl]

/-- Six digits of a fraction are its microseconds. -/
theorem fractionMicros_of_six (digits : List Nat) (six : digits.length = 6) :
    fractionMicros digits = Decimal.valueOf digits := by
  rw [fractionMicros, ← six, List.take_left]

/-- The seconds read back together with their fraction, in front of anything that is neither. -/
theorem readSeconds?_chars (second fraction : Nat) (rest : List Char) (seconds : second < 60)
    (micros : fraction < 1000000)
    (ends : ∀ c, rest.head? = some c → c.isDigit = false ∧ c ≠ '.' ∧ c ≠ ',') :
    readSeconds? (':' :: (padded 2 second ++
        ((if fraction = 0 then [] else '.' :: padded 6 fraction) ++ rest))) =
      some (second, fraction, rest) := by
  have whole := readTwo?_padded second (by omega)
  by_cases none : fraction = 0
  · rw [if_pos none, List.nil_append, readSeconds?, whole]
    cases rest with
    | nil => simp [none]
    | cons c rest =>
      obtain ⟨-, point, comma⟩ := ends c rfl
      simp [none, point, comma]
  · obtain ⟨length, digits, number⟩ := padded_digits 5 fraction micros
    obtain ⟨run, left⟩ := digits_span (padded 6 fraction) rest digits fun c first => (ends c first).1
    have nonempty : ((padded 6 fraction).map (·.toNat - 48)).isEmpty = false := by
      rw [List.isEmpty_map, List.isEmpty_eq_false_iff]
      exact List.ne_nil_of_length_eq_add_one length
    have sixDigits : fractionMicros ((padded 6 fraction).map (·.toNat - 48)) = fraction := by
      rw [fractionMicros_of_six _ (by rw [List.length_map, length]), number]
    rw [if_neg none, List.cons_append, readSeconds?, whole]
    simp only [Option.bind_eq_bind, Option.bind_some, beq_self_eq_true, Bool.true_or, if_true, run,
      left, sixDigits, nonempty, Bool.false_eq_true, if_false, Option.pure_def]

/-- A time of day reads back. -/
theorem readClock?_chars (micros : Nat) (rest : List Char) (within : micros < dayMicros)
    (ends : ∀ c, rest.head? = some c → c.isDigit = false ∧ c ≠ '.' ∧ c ≠ ',') :
    readClock? (clockChars micros ++
        ((if micros % 1000000 = 0 then [] else fractionChars micros) ++ rest)) =
      some (micros, rest) := by
  unfold dayMicros at within
  have hours := readTwo?_padded (micros / 1000000 / 3600) (by omega)
  have minutes := readTwo?_padded (micros / 1000000 / 60 % 60) (by omega)
  have seconds := readSeconds?_chars (micros / 1000000 % 60) (micros % 1000000) rest (by omega)
    (by omega) ends
  have whole : clockMicros (micros / 1000000 / 3600) (micros / 1000000 / 60 % 60)
      (micros / 1000000 % 60) (micros % 1000000) = micros := by
    unfold clockMicros
    omega
  have inDay : micros / 1000000 / 3600 < 24 := by omega
  have inHour : micros / 1000000 / 60 % 60 < 60 := by omega
  have inMinute : micros / 1000000 % 60 < 60 := by omega
  simp only [readClock?, clockChars, fractionChars, List.append_assoc, List.cons_append, hours,
    minutes, seconds, expect?, beq_self_eq_true, if_true, Option.bind_eq_bind, Option.bind_some,
    Option.pure_def, whole, inDay, inHour, inMinute, decide_true, Bool.and_true]

/-- An offset that a text can show: none, or whole minutes of less than a day. -/
def Moment.IsWritable (m : Moment) : Prop :=
  ∀ offset, m.offset = some offset → offset % 60 = 0 ∧ offset.natAbs < 86400

/-- A text can show universal time. -/
theorem Moment.isWritable_of_universal (m : Moment) (zero : m.offset = some 0) :
    m.IsWritable := by
  intro offset known
  rw [zero] at known
  obtain rfl := Option.some.inj known
  decide

/-- Hours and minutes of an offset read back. -/
theorem readOffset?_chars (minutes : Nat) (day : minutes < 1440) :
    readOffset? (padded 2 (minutes / 60) ++ ':' :: padded 2 (minutes % 60)) =
      some ((minutes * 60 : Nat) : Int) := by
  have hours := readTwo?_padded (minutes / 60) (by omega)
  have rest := readTwo?_padded (minutes % 60) (by omega) []
  rw [List.append_nil] at rest
  have inHour : minutes % 60 < 60 := by omega
  have inDay : minutes / 60 < 24 := by omega
  have whole : minutes / 60 * 3600 + minutes % 60 * 60 = minutes * 60 := by omega
  simp only [readOffset?, hours, rest, Option.bind_eq_bind, Option.bind_some, List.isEmpty_nil,
    inHour, inDay, decide_true, Bool.and_self, if_true, Option.pure_def, whole]

/-- The end of a moment reads back. -/
theorem readZone?_chars (m : Moment) (writable : m.IsWritable) :
    readZone? (offsetChars m.offset) = some m.offset := by
  cases known : m.offset with
  | none => rfl
  | some offset =>
    obtain ⟨whole, day⟩ := writable offset known
    have back := readOffset?_chars (offset.natAbs / 60) (by omega)
    have size : ((offset.natAbs / 60 * 60 : Nat) : Int) = offset.natAbs := by omega
    rw [size] at back
    by_cases zero : offset = 0
    · rw [zero]
      rfl
    · by_cases negative : offset < 0
      · have sign : -(offset.natAbs : Int) = offset := by omega
        have shape : offsetChars (some offset) = '-' :: (padded 2 (offset.natAbs / 60 / 60) ++
            ':' :: padded 2 (offset.natAbs / 60 % 60)) := by simp [offsetChars, zero, negative]
        rw [shape, readZone?, back, Option.map_some, sign]
      · have sign : (offset.natAbs : Int) = offset := by omega
        have shape : offsetChars (some offset) = '+' :: (padded 2 (offset.natAbs / 60 / 60) ++
            ':' :: padded 2 (offset.natAbs / 60 % 60)) := by simp [offsetChars, zero, negative]
        rw [shape, readZone?, back, Option.map_some, sign]

/-- The mark of an offset is neither a digit nor the mark of a fraction. -/
theorem offsetChars_head (offset : Option Int) (c : Char)
    (first : (offsetChars offset).head? = some c) : c.isDigit = false ∧ c ≠ '.' ∧ c ≠ ',' := by
  have marks : c = 'Z' ∨ c = '-' ∨ c = '+' := by
    unfold offsetChars at first
    split at first
    · cases first
    · split at first
      · simp at first
        exact Or.inl first.symm
      · split at first <;> simp at first <;> simp [← first]
  rcases marks with rfl | rfl | rfl <;> decide

/-- A writable moment reads back from its text. -/
theorem Moment.read?_text (m : Moment) (writable : m.IsWritable) : Moment.read? m.text = some m := by
  have clock := readClock?_chars m.micros (offsetChars m.offset) m.withinDay (offsetChars_head _)
  have date := readDate?_chars m.date
  have zone := readZone?_chars m writable
  have within : m.micros < dayMicros := m.withinDay
  have iso : readIso? m.text.toList = some m := by
    simp only [Moment.text, String.toList_ofList, List.append_assoc, List.cons_append, readIso?,
      date, Option.bind_eq_bind, Option.bind_some, beq_iff_eq] at clock ⊢
    simp [clock, zone, Moment.of?, within]
  rw [Moment.read?, iso]

/-- An offset is read in whole minutes of less than a day. -/
theorem readOffset?_bounds (cs : List Char) (offset : Int) (found : readOffset? cs = some offset) :
    0 ≤ offset ∧ offset % 60 = 0 ∧ offset.natAbs < 86400 := by
  simp only [readOffset?, Option.bind_eq_bind, Option.bind_eq_some_iff, Option.pure_def] at found
  obtain ⟨⟨hours, rest⟩, -, ⟨minutes, left⟩, -, checked⟩ := found
  split at checked
  · next inside =>
    simp only [Bool.and_eq_true, decide_eq_true_eq] at inside
    obtain rfl := Option.some.inj checked
    omega
  · cases checked

/-- The end of a moment is read as an offset that a text can show. -/
theorem readZone?_bounds (cs : List Char) (zone : Option Int) (found : readZone? cs = some zone)
    (offset : Int) (known : zone = some offset) : offset % 60 = 0 ∧ offset.natAbs < 86400 := by
  subst known
  unfold readZone? at found
  split at found
  · cases found
  · obtain rfl := Option.some.inj (Option.some.inj found)
    decide
  · obtain rfl := Option.some.inj (Option.some.inj found)
    decide
  all_goals
    first
    | cases found
    | obtain ⟨size, read, same⟩ := Option.map_eq_some_iff.mp found
      obtain rfl := Option.some.inj same
      have bounds := readOffset?_bounds _ size read
      omega

/-- A moment on the wall of a clock keeps the offset of the clock. -/
theorem Moment.offset_of_ofWall? (wall : Int) (offset : Option Int) (m : Moment)
    (found : Moment.ofWall? wall offset = some m) : m.offset = offset :=
  ((Moment.ofWall?_eq_some_iff wall offset m).mp found).2

/-- A count is a moment of universal time. -/
theorem offset_of_ofCount? (count micros : Int) (m : Moment)
    (found : ofCount? count micros = some m) : m.offset = some 0 := by
  simp only [ofCount?] at found
  generalize (if count.natAbs ≤ countWatershed then count * 1000000 + micros
    else count * 1000 + micros) = total at found
  split at found
  · cases found
  · exact Moment.offset_of_ofWall? _ _ m found

/-- A moment that is put together keeps its offset. -/
theorem Moment.offset_of_of? (date : Date) (micros : Nat) (offset : Option Int) (m : Moment)
    (found : Moment.of? date micros offset = some m) : m.offset = offset := by
  unfold Moment.of? at found
  split at found
  · obtain rfl := Option.some.inj found
    rfl
  · cases found

/-- A floating-point count is a moment of universal time, too. -/
theorem offset_of_ofFloatCount? (count : Float) (m : Moment)
    (found : ofFloatCount? count = some m) : m.offset = some 0 := by
  unfold ofFloatCount? at found
  split at found
  · exact offset_of_ofCount? _ _ m found
  · cases found

/-- So are counts written as text. -/
theorem offset_of_readCount? (cs : List Char) (m : Moment) (found : readCount? cs = some m) :
    m.offset = some 0 := by
  unfold readCount? at found
  dsimp only at found
  split at found
  · split at found
    · cases found
    · exact offset_of_ofCount? _ _ m found
  · obtain ⟨count, -, reached⟩ := Option.bind_eq_some_iff.mp found
    exact offset_of_ofFloatCount? count m reached
  · cases found

/-- The offset of a date with a time is the one at its end. -/
theorem isWritable_of_readIso? (cs : List Char) (m : Moment) (found : readIso? cs = some m) :
    m.IsWritable := by
  simp only [readIso?, Option.bind_eq_bind, Option.bind_eq_some_iff] at found
  obtain ⟨⟨date, rest⟩, -, reached⟩ := found
  intro offset known
  split at reached
  · rw [Moment.offset_of_of? _ _ _ m reached] at known
    cases known
  · split at reached
    · obtain ⟨⟨micros, left⟩, -, zoned⟩ := Option.bind_eq_some_iff.mp reached
      obtain ⟨zone, read, made⟩ := Option.bind_eq_some_iff.mp zoned
      rw [Moment.offset_of_of? _ _ _ m made] at known
      exact readZone?_bounds left zone read offset known
    · cases reached

/-- A moment that is read from a text is one that reads back when it is written. -/
theorem Moment.isWritable_of_read? (s : String) (m : Moment) (found : Moment.read? s = some m) :
    m.IsWritable := by
  unfold Moment.read? at found
  split at found
  · next read =>
    obtain rfl := Option.some.inj found
    exact isWritable_of_readIso? _ _ read
  · exact Moment.isWritable_of_universal m (offset_of_readCount? _ m found)

end Rulebook.Calendar
