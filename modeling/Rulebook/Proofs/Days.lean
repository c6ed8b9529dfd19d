import Rulebook.Calendar.Moment

/-!
# Dates by their numbers

Day numbers name the dates of the years 1 to 9999 one by one, in the order of the calendar.
The date with a number is found by a guess at its year that is at most one year too early,
and then by counting off the months; it has that number, and there is one for every number
below that of the first day of the year 10000.

So a moment that is put together from microseconds on a wall clock shows these microseconds,
and the same instant on another clock is the same instant.
-/

namespace Rulebook.Calendar

/-- The days of a year. -/
def yearLength (year : Nat) : Nat := if isLeap year then 366 else 365

/-- The days of some months. -/
def daysOf : List Nat → Nat
  | [] => 0
  | length :: rest => length + daysOf rest

/-- The days of months in front and of months behind add up. -/
theorem daysOf_append (front back : List Nat) :
    daysOf (front ++ back) = daysOf front + daysOf back := by
  induction front with
  | nil => exact (Nat.zero_add _).symm
  | cons length rest inductionHypothesis =>
    rw [List.cons_append, daysOf, daysOf, inductionHypothesis, Nat.add_assoc]

/-- The months of a year make up its days. -/
theorem daysOf_monthLengths (year : Nat) : daysOf (monthLengths year) = yearLength year := by
  unfold monthLengths yearLength
  cases isLeap year <;> rfl

/-- A year begins when the one before it is over. -/
theorem daysBefore_succ (year : Nat) (first : 1 ≤ year) :
    daysBefore (year + 1) = daysBefore year + yearLength year := by
  obtain ⟨past, rfl⟩ : ∃ past, year = past + 1 := ⟨year - 1, by omega⟩
  have fourth : (past + 1) / 4 = past / 4 + if (past + 1) % 4 = 0 then 1 else 0 := by
    split <;> omega
  have century : (past + 1) / 100 = past / 100 + if (past + 1) % 100 = 0 then 1 else 0 := by
    split <;> omega
  have cycle : (past + 1) / 400 = past / 400 + if (past + 1) % 400 = 0 then 1 else 0 := by
    split <;> omega
  have order : past / 100 ≤ past / 4 := Nat.div_le_div_left (by decide) (by decide)
  have leap : isLeap (past + 1) = decide ((past + 1) % 4 = 0 ∧ (past + 1) % 100 ≠ 0 ∨
      (past + 1) % 400 = 0) := by
    rw [isLeap, Bool.decide_or, Bool.decide_and, decide_not]
    rfl
  simp only [daysBefore, yearLength, Nat.add_sub_cancel, fourth, century, cycle, leap,
    decide_eq_true_eq]
  have divides : (past + 1) % 400 = 0 → (past + 1) % 100 = 0 := by omega
  have dividesMore : (past + 1) % 100 = 0 → (past + 1) % 4 = 0 := by omega
  by_cases quarter : (past + 1) % 4 = 0
  · by_cases hundredth : (past + 1) % 100 = 0
    · by_cases whole : (past + 1) % 400 = 0 <;> simp [quarter, hundredth, whole] <;> omega
    · have notWhole := mt divides hundredth
      simp [quarter, hundredth, notWhole]
      omega
  · have notHundredth := mt dividesMore quarter
    have notWhole := mt divides notHundredth
    simp [quarter, notHundredth, notWhole]
    omega

/-- Later years begin later. -/
theorem daysBefore_le (first second : Nat) (ordered : first ≤ second) :
    daysBefore first ≤ daysBefore second := by
  induction ordered with
  | refl => exact Nat.le_refl _
  | @step year _ inductionHypothesis =>
    cases year with
    | zero => exact inductionHypothesis
    | succ past =>
      rw [daysBefore_succ (past + 1) (Nat.succ_pos past)]
      omega

/-- The guess at a year is right, or the year is the next one: 400 years have 146097 days, so
the guess is late by no more than the unevenness of leap years within them. -/
theorem yearOf_bounds (number : Nat) :
    1 ≤ yearOf number ∧ daysBefore (yearOf number) ≤ number ∧
      number < daysBefore (yearOf number + 1) := by
  unfold yearOf daysBefore
  dsimp only
  split
  · omega
  · split <;> omega

/-- Counting off months ends in the month and on the day with the given index. -/
theorem monthAndDay_spec (index month : Nat) (lengths : List Nat) (inside : index < daysOf lengths) :
    ∃ (passed : Nat) (here : passed < lengths.length),
      (monthAndDay index month lengths).1 = month + passed ∧
      1 ≤ (monthAndDay index month lengths).2 ∧
      (monthAndDay index month lengths).2 ≤ lengths[passed] ∧
      daysOf (lengths.take passed) + ((monthAndDay index month lengths).2 - 1) = index := by
  induction lengths generalizing index month with
  | nil => exact absurd inside (Nat.not_lt_zero _)
  | cons length rest inductionHypothesis =>
    rw [monthAndDay]
    split
    · next early => exact ⟨0, by simp, rfl, by simp, by simp; omega, by simp [daysOf]⟩
    · next late =>
      rw [daysOf] at inside
      obtain ⟨passed, here, months, first, last, days⟩ :=
        inductionHypothesis (index - length) (month + 1) (by omega)
      refine ⟨passed + 1, by simpa using here, by omega, first, by simpa using last, ?_⟩
      rw [List.take_succ_cons, daysOf]
      omega

namespace Date

/-- The day number in terms of the months that have passed. -/
theorem dayNumber_eq (date : Date) :
    date.dayNumber = daysBefore date.year + daysOf ((monthLengths date.year).take (date.month - 1))
      + (date.day - 1) := by
  have total (start : Nat) (lengths : List Nat) :
      lengths.foldl (· + ·) start = start + daysOf lengths := by
    induction lengths generalizing start with
    | nil => rfl
    | cons length rest inductionHypothesis =>
      rw [List.foldl_cons, inductionHypothesis, daysOf, Nat.add_assoc]
  rw [dayNumber, total]

/-- The parts of a date: a year within the calendar, a month that the year has and a day that
the month has. -/
theorem parts (date : Date) :
    1 ≤ date.year ∧ date.year ≤ 9999 ∧ 1 ≤ date.month ∧ 1 ≤ date.day ∧
      ∃ inYear : date.month - 1 < (monthLengths date.year).length,
        date.day ≤ (monthLengths date.year)[date.month - 1] := by
  obtain ⟨year, month, day, valid⟩ := date
  simp only [isDate, Bool.and_eq_true, decide_eq_true_eq] at valid
  obtain ⟨⟨⟨firstYear, lastYear⟩, firstDay⟩, lastDay⟩ := valid
  unfold monthLength at lastDay
  split at lastDay
  · omega
  · next notZero =>
    have positive : month ≠ 0 := by simpa using notZero
    rw [List.getD_eq_getElem?_getD] at lastDay
    cases found : (monthLengths year)[month - 1]? with
    | none =>
      rw [found, Option.getD_none] at lastDay
      omega
    | some length =>
      obtain ⟨inYear, same⟩ := List.getElem?_eq_some_iff.mp found
      rw [found, Option.getD_some] at lastDay
      exact ⟨firstYear, lastYear, Nat.one_le_iff_ne_zero.mpr positive, firstDay, inYear,
        by rw [same]; exact lastDay⟩

/-- Days of a list of months end where those of one more month begin. -/
theorem daysOf_take_succ (lengths : List Nat) (count : Nat) (inside : count < lengths.length) :
    daysOf (lengths.take (count + 1)) = daysOf (lengths.take count) + lengths[count] := by
  rw [List.take_succ_eq_append_getElem inside, daysOf_append]
  rfl

/-- More months have more days. -/
theorem daysOf_take_le (lengths : List Nat) (few many : Nat) (ordered : few ≤ many) :
    daysOf (lengths.take few) ≤ daysOf (lengths.take many) := by
  have split : lengths.take many = lengths.take few ++ (lengths.take many).drop few := by
    have front : (lengths.take many).take few = lengths.take few := by
      rw [List.take_take, Nat.min_eq_left ordered]
    rw [← front, List.take_append_drop]
  rw [split, daysOf_append]
  exact Nat.le_add_right _ _

/-- The days of a date's year up to the end of its month hold the date. -/
theorem day_le_month (date : Date) :
    daysOf ((monthLengths date.year).take (date.month - 1)) + date.day ≤
      daysOf ((monthLengths date.year).take date.month) := by
  obtain ⟨-, -, firstMonth, -, inYear, lastDay⟩ := date.parts
  have next := daysOf_take_succ (monthLengths date.year) (date.month - 1) inYear
  rw [Nat.sub_add_cancel firstMonth] at next
  omega

/-- A date lies within its year. -/
theorem dayNumber_bounds (date : Date) :
    daysBefore date.year ≤ date.dayNumber ∧ date.dayNumber < daysBefore (date.year + 1) := by
  obtain ⟨firstYear, -, firstMonth, firstDay, inYear, -⟩ := date.parts
  have inMonth := date.day_le_month
  have months := daysOf_take_le (monthLengths date.year) date.month
    (monthLengths date.year).length (by omega)
  rw [List.take_length, daysOf_monthLengths] at months
  rw [daysBefore_succ date.year firstYear, dayNumber_eq]
  omega

/-- A date comes before another: in an earlier year, an earlier month of the same year, or on
an earlier day of the same month. -/
def Before (first second : Date) : Prop :=
  first.year < second.year ∨ first.year = second.year ∧
    (first.month < second.month ∨ first.month = second.month ∧ first.day < second.day)

/-- Two dates are the same, or one comes before the other. -/
theorem before_or_eq (first second : Date) :
    Before first second ∨ first = second ∨ Before second first := by
  obtain ⟨year, month, day, valid⟩ := first
  obtain ⟨otherYear, otherMonth, otherDay, otherValid⟩ := second
  simp only [Before, Date.mk.injEq]
  omega

/-- An earlier date has a smaller number. -/
theorem dayNumber_lt_of_before (first second : Date) (before : Before first second) :
    first.dayNumber < second.dayNumber := by
  obtain ⟨-, -, -, firstDay, -, -⟩ := first.parts
  obtain ⟨-, -, secondMonth, secondDay, -, -⟩ := second.parts
  rcases before with year | ⟨sameYear, month | ⟨sameMonth, day⟩⟩
  · calc first.dayNumber < daysBefore (first.year + 1) := first.dayNumber_bounds.2
      _ ≤ daysBefore second.year := daysBefore_le _ _ year
      _ ≤ second.dayNumber := second.dayNumber_bounds.1
  · have inMonth := first.day_le_month
    have months := daysOf_take_le (monthLengths first.year) first.month (second.month - 1) (by omega)
    rw [dayNumber_eq, dayNumber_eq, ← sameYear]
    omega
  · rw [dayNumber_eq, dayNumber_eq, ← sameYear, ← sameMonth]
    omega

/-- Different dates have different numbers. -/
theorem dayNumber_injective (first second : Date) (same : first.dayNumber = second.dayNumber) :
    first = second := by
  rcases before_or_eq first second with before | equal | after
  · have smaller := dayNumber_lt_of_before first second before
    omega
  · exact equal
  · have smaller := dayNumber_lt_of_before second first after
    omega

/-- The date that is found under a number has that number. -/
theorem dayNumber_of_ofDayNumber? (number : Nat) (date : Date)
    (found : Date.ofDayNumber? number = some date) : date.dayNumber = number := by
  obtain ⟨firstYear, begun, notOver⟩ := yearOf_bounds number
  rw [daysBefore_succ _ firstYear, ← daysOf_monthLengths] at notOver
  obtain ⟨passed, here, month, firstDay, -, index⟩ := monthAndDay_spec
    (number - daysBefore (yearOf number)) 1 (monthLengths (yearOf number)) (by omega)
  simp only [ofDayNumber?, Date.of?] at found
  split at found
  · obtain rfl := Option.some.inj found
    have months : 1 + passed - 1 = passed := by omega
    rw [dayNumber_eq]
    simp only [month, months]
    omega
  · cases found

/-- There is a date for every number up to the end of the year 9999. -/
theorem exists_ofDayNumber? (number : Nat) (inside : number < daysBefore 10000) :
    ∃ date, Date.ofDayNumber? number = some date := by
  obtain ⟨firstYear, begun, notOver⟩ := yearOf_bounds number
  have lastYear : yearOf number ≤ 9999 := by
    have later := daysBefore_le 10000 (yearOf number)
    omega
  rw [daysBefore_succ _ firstYear, ← daysOf_monthLengths] at notOver
  obtain ⟨passed, here, month, firstDay, lastDay, -⟩ := monthAndDay_spec
    (number - daysBefore (yearOf number)) 1 (monthLengths (yearOf number)) (by omega)
  have months : 1 + passed - 1 = passed := by omega
  have valid : isDate (yearOf number)
      (monthAndDay (number - daysBefore (yearOf number)) 1 (monthLengths (yearOf number))).1
      (monthAndDay (number - daysBefore (yearOf number)) 1 (monthLengths (yearOf number))).2 =
        true := by
    simp only [isDate, monthLength, month, months, List.getD_eq_getElem?_getD,
      List.getElem?_eq_getElem here, Option.getD_some, Bool.and_eq_true, decide_eq_true_eq]
    have notZero : (1 + passed == 0) = false := by simp
    rw [notZero]
    exact ⟨⟨⟨firstYear, lastYear⟩, firstDay⟩, lastDay⟩
  simp only [ofDayNumber?, Date.of?]
  exact ⟨_, dif_pos valid⟩

/-- No date has a number beyond the end of the year 9999. -/
theorem dayNumber_lt (date : Date) : date.dayNumber < daysBefore 10000 := by
  obtain ⟨-, lastYear, -⟩ := date.parts
  exact Nat.lt_of_lt_of_le date.dayNumber_bounds.2 (daysBefore_le _ _ (by omega))

end Date

/-- What a wall clock shows splits into a day and the time of that day. -/
theorem Moment.wall_split (m : Moment) :
    m.wall / dayMicros = m.date.dayNumber ∧ m.wall % dayMicros = m.micros := by
  unfold Moment.wall
  rw [Nat.mul_comm, Nat.mul_add_div (by decide), Nat.mul_add_mod, Nat.div_eq_of_lt m.withinDay,
    Nat.mod_eq_of_lt m.withinDay]
  exact ⟨Nat.add_zero _, rfl⟩

/-- Microseconds on the wall clocks of the calendar. -/
def calendarMicros : Nat := daysBefore 10000 * dayMicros

/-- A wall clock shows the microseconds that a moment was put together from, and there is a
moment exactly for those of the years 1 to 9999. -/
theorem Moment.ofWall?_eq_some_iff (wall : Int) (offset : Option Int) (m : Moment) :
    Moment.ofWall? wall offset = some m ↔ (m.wall : Int) = wall ∧ m.offset = offset := by
  constructor
  · intro found
    unfold ofWall? at found
    split at found
    · cases found
    · next notNegative =>
      obtain ⟨date, dated, rfl⟩ := Option.map_eq_some_iff.mp found
      have number := Date.dayNumber_of_ofDayNumber? _ date dated
      have split := Nat.div_add_mod' wall.toNat dayMicros
      simp only [Moment.wall, number, and_true]
      omega
  · rintro ⟨shown, rfl⟩
    obtain ⟨day, time⟩ := m.wall_split
    have notNegative : ¬ wall < 0 := by omega
    have onClock : wall.toNat = m.wall := by omega
    obtain ⟨date, dated⟩ := Date.exists_ofDayNumber? m.date.dayNumber m.date.dayNumber_lt
    obtain rfl := Date.dayNumber_injective date m.date (Date.dayNumber_of_ofDayNumber? _ _ dated)
    simp only [ofWall?, notNegative, if_false, onClock, day, time, dated, Option.map_some]

/-- Within the calendar every number of microseconds is shown by some moment. -/
theorem Moment.exists_ofWall? (wall : Int) (offset : Option Int) (first : 0 ≤ wall)
    (last : wall < calendarMicros) : ∃ m, Moment.ofWall? wall offset = some m := by
  have inside : wall.toNat / dayMicros < daysBefore 10000 := by
    unfold calendarMicros at last
    exact Nat.div_lt_of_lt_mul (by rw [Nat.mul_comm]; omega)
  obtain ⟨date, dated⟩ := Date.exists_ofDayNumber? _ inside
  have notNegative : ¬ wall < 0 := by omega
  simp only [ofWall?, notNegative, if_false, dated, Option.map_some]
  exact ⟨_, rfl⟩

/-- Every wall clock shows a time of the calendar. -/
theorem Moment.wall_lt (m : Moment) : m.wall < calendarMicros := by
  have day := m.date.dayNumber_lt
  have time := m.withinDay
  calc m.wall < m.date.dayNumber * dayMicros + dayMicros := Nat.add_lt_add_left time _
    _ = (m.date.dayNumber + 1) * dayMicros := (Nat.succ_mul _ _).symm
    _ ≤ calendarMicros := Nat.mul_le_mul_right _ day

/-- A clock of universal time shows the instant itself. -/
theorem Moment.inUtc?_eq_some_iff (m universal : Moment) :
    m.inUtc? = some universal ↔
      (universal.wall : Int) = m.instant ∧ universal.offset = some 0 :=
  Moment.ofWall?_eq_some_iff _ _ _

/-- An instant is on a clock of universal time exactly when it lies within the calendar. -/
theorem Moment.inUtc?_isSome_iff (m : Moment) :
    m.inUtc?.isSome = true ↔ 0 ≤ m.instant ∧ m.instant < calendarMicros := by
  rw [Option.isSome_iff_exists]
  constructor
  · rintro ⟨universal, found⟩
    obtain ⟨shown, -⟩ := (m.inUtc?_eq_some_iff universal).mp found
    have bounded := universal.wall_lt
    omega
  · rintro ⟨first, last⟩
    exact Moment.exists_ofWall? m.instant (some 0) first last

end Rulebook.Calendar
