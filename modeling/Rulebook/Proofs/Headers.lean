import Rulebook.Proofs.Outcomes

/-!
# What rate headers change

A response changes what is known of the calls that are left only through its header for them, and
what is known of their count only through the header for that. A header that is not there changes
nothing, and neither does one that cannot be read: of any other kind, a text that spells no number,
or, for calls, what is no number at all.

A number that is too large is not merely passed over. It breaks off, and when it is the number of
calls, the header for their count is lost with it, however readable that is.
-/

namespace Rulebook

namespace Json

/-- A value reads as a number of seconds when it is a text that spells one, or a number that
floating point can hold. -/
def ReadsAs (value : Json) (seconds : Float) : Prop :=
  (∃ text, value = .str text ∧ Decimal.readFloat? text = some seconds) ∨
    ∃ number, value.number? = some number ∧ number.toFloat = .ok seconds

/-- A value counts as a number of calls when it reads as a finite number. Its fraction is cut
off. -/
def CountsAs (value : Json) (calls : Int) : Prop :=
  ∃ number, value.ReadsAs number ∧ Decimal.truncate? number = some calls

end Json

/-- What is known is replaced by a note of what is told, and stays when nothing is told. -/
def IsReplaced {α β : Type} (Told : α → Prop) (note : α → β) (before after : Option β) : Prop :=
  (∀ told, Told told → after = some (note told)) ∧ ((∀ told, ¬ Told told) → after = before)

namespace HeaderReading

/-- What is known after a reading: a note of its value, or what was known before. -/
def noted {α β : Type} (reading : HeaderReading α) (note : α → β) (before : Option β) : Option β :=
  match reading with
  | .value told => some (note told)
  | _ => before

/-- A reading replaces what is known by what it tells. -/
theorem isReplaced_noted {α β : Type} (reading : HeaderReading α) (Told : α → Prop) (note : α → β)
    (before : Option β) (tells : ∀ told, reading = .value told ↔ Told told) :
    IsReplaced Told note before (reading.noted note before) := by
  unfold IsReplaced
  simp only [← tells]
  cases reading <;> simp [noted]

end HeaderReading

namespace Limiter

/-- A value stands under a header name when it does so in some spelling and no later header has the
name. -/
def StandsUnder (headers : List (String × Json)) (name : String) (value : Json) : Prop :=
  ∃ front spelling back, headers = front ++ (spelling, value) :: back ∧
    Text.lowered spelling = name ∧ ∀ header ∈ back, Text.lowered header.1 ≠ name

/-- The value of a header is what stands under its name. -/
theorem headerValue?_eq_some_iff (headers : List (String × Json)) (name : String) (value : Json) :
    headerValue? headers name = some value ↔ StandsUnder headers name value := by
  unfold headerValue? StandsUnder
  simp only [Option.map_eq_some_iff, List.find?_eq_some_iff_append, List.reverse_eq_iff,
    List.reverse_append, List.reverse_cons, List.append_assoc, List.singleton_append]
  constructor
  · rintro ⟨⟨spelling, found⟩, ⟨named, later, front, split, unnamed⟩, rfl⟩
    refine ⟨front.reverse, spelling, later.reverse, split, beq_iff_eq.mp named, ?_⟩
    intro header member same
    simpa [same] using unnamed header (List.mem_reverse.mp member)
  · rintro ⟨front, spelling, back, split, named, unnamed⟩
    refine ⟨(spelling, value), ⟨beq_iff_eq.mpr named, back.reverse, front.reverse, ?_, ?_⟩, rfl⟩
    · rw [List.reverse_reverse, List.reverse_reverse]
      exact split
    · intro header member
      simpa using unnamed header (List.mem_reverse.mp member)

/-- A value is read as seconds exactly when it reads as a number. -/
theorem readSeconds_eq_value_iff (value : Json) (seconds : Float) :
    readSeconds value = .value seconds ↔ value.ReadsAs seconds := by
  cases value with
  | str text =>
    cases spelled : Decimal.readFloat? text <;>
      simp [readSeconds, Json.ReadsAs, Json.number?, spelled]
  | int whole =>
    cases held : (Number.int whole).toFloat <;>
      simp [readSeconds, Json.ReadsAs, Json.number?, held]
  | bool flag =>
    cases held : (Number.int (if flag then 1 else 0)).toFloat <;>
      simp [readSeconds, Json.ReadsAs, Json.number?, held]
  | float number => simp [readSeconds, Json.ReadsAs, Json.number?, Number.toFloat]
  | _ => simp [readSeconds, Json.ReadsAs, Json.number?]

/-- A value is read as calls exactly when it counts as them. -/
theorem readCount_eq_value_iff (value : Json) (calls : Int) :
    readCount value = .value calls ↔ value.CountsAs calls := by
  have seconds := readSeconds_eq_value_iff value
  unfold readCount Json.CountsAs Decimal.truncate?
  cases reading : readSeconds value with
  | value number =>
    rw [reading] at seconds
    simp only [← seconds, HeaderReading.value.injEq, exists_eq_left']
    cases Decimal.readFloat number <;> simp
  | _ =>
    rw [reading] at seconds
    simp [← seconds]

/-- A header says something of a kind when its value does. -/
def Says (headers : List (String × Json)) (name : String) (Kind : Json → Prop) : Prop :=
  ∃ value, StandsUnder headers name value ∧ Kind value

/-- A header is read as a value when it says so. -/
theorem readHeader_eq_value_iff {α : Type} (read : Json → HeaderReading α)
    (headers : List (String × Json)) (name : String) (told : α) :
    readHeader read headers name = .value told ↔
      Says headers name fun value => read value = .value told := by
  simp only [Says, ← headerValue?_eq_some_iff, readHeader]
  cases headerValue? headers name <;> simp

/-- A header is too large when its value is. -/
theorem says_tooLarge_iff {α : Type} (read : Json → HeaderReading α)
    (headers : List (String × Json)) (name : String) :
    readHeader read headers name = .tooLarge ↔ Says headers name fun value => read value = .tooLarge := by
  simp only [Says, ← headerValue?_eq_some_iff, readHeader_eq_tooLarge_iff]

/-- An update leaves the calls that are told, the moment that is told unless the calls break off
before it is looked at, and the time. -/
theorem update_eq (limiter : Limiter Float) (now : Float) (remaining : HeaderReading Int)
    (reset : HeaderReading Float) :
    (limiter.update now remaining reset).1 =
      { remaining := remaining.noted id limiter.remaining
        reset := match remaining with
          | .tooLarge => limiter.reset
          | _ => reset.noted (now + ·) limiter.reset
        last := now } := by
  cases remaining <;> cases reset <;> rfl

/-- The header for the calls that are left. -/
def callsHeader : String := "x-ratelimit-remaining"

/-- The header for the seconds until their count starts anew. -/
def resetHeader : String := "x-ratelimit-reset"

/-- Headers are taken over one by one.

Whatever a response says, its time is noted. The calls that are left are replaced by what the header
for them counts as, and stay as they are when it is not there or counts as nothing. The moment at
which their count starts anew is replaced in the same way by what its own header reads as, whether
the other one can be read or not. A single thing stands between: a number of calls that is too large
breaks off, and then that moment stays as it is. Seconds that are too large break off as well, when
all else is noted. -/
theorem headers_are_taken_over (limiter : Limiter Float) (now : Float)
    (headers : List (String × Json)) :
    let update := limiter.updateFrom now headers
    update.1.last = now ∧
      IsReplaced (fun calls => Says headers callsHeader (·.CountsAs calls)) id limiter.remaining
        update.1.remaining ∧
      (¬ Says headers callsHeader Json.OverflowsCalls →
        IsReplaced (fun seconds => Says headers resetHeader (·.ReadsAs seconds)) (now + ·)
          limiter.reset update.1.reset) ∧
      (Says headers callsHeader Json.OverflowsCalls → update.1.reset = limiter.reset) ∧
      (update.2 = true ↔
        Says headers callsHeader Json.OverflowsCalls ∨ Says headers resetHeader Json.Overflows) := by
  intro update
  have calls (told : Int) : readHeader readCount headers callsHeader = .value told ↔
      Says headers callsHeader (·.CountsAs told) := by
    simp only [readHeader_eq_value_iff, readCount_eq_value_iff]
  have tooMany : readHeader readCount headers callsHeader = .tooLarge ↔
      Says headers callsHeader Json.OverflowsCalls := by
    simp only [says_tooLarge_iff, readCount_eq_tooLarge_iff]
  have seconds (told : Float) : readHeader readSeconds headers resetHeader = .value told ↔
      Says headers resetHeader (·.ReadsAs told) := by
    simp only [readHeader_eq_value_iff, readSeconds_eq_value_iff]
  have tooLong : readHeader readSeconds headers resetHeader = .tooLarge ↔
      Says headers resetHeader Json.Overflows := by
    simp only [says_tooLarge_iff, readSeconds_eq_tooLarge_iff]
  have broken : update.2 = true ↔ _ ∨ _ := limiter.update_brokeOff_iff now
    (readHeader readCount headers callsHeader) (readHeader readSeconds headers resetHeader)
  have left : update.1 = _ := limiter.update_eq now
    (readHeader readCount headers callsHeader) (readHeader readSeconds headers resetHeader)
  generalize readHeader readCount headers callsHeader = remaining at *
  generalize readHeader readSeconds headers resetHeader = reset at *
  rw [left, broken, tooMany, tooLong]
  refine ⟨rfl, remaining.isReplaced_noted _ id limiter.remaining calls, ?_, ?_, Iff.rfl⟩
  · intro few
    have noted := reset.isReplaced_noted _ (now + ·) limiter.reset seconds
    rw [← tooMany] at few
    cases remaining with
    | tooLarge => exact absurd rfl few
    | _ => exact noted
  · intro many
    obtain rfl := tooMany.mpr many
    rfl

/-- Headers with a text for the calls, and with two spellings of the name for the seconds. -/
def garbledHeaders : List (String × Json) :=
  [("X-Ratelimit-Remaining", .str "lots"), ("x-ratelimit-reset", .arr []),
    ("X-RATELIMIT-RESET", .str " 30 ")]

/-- Calls that cannot be read stay as they are, and the seconds behind them are taken over. -/
theorem garbled_calls_leave_seconds :
    let update := updateFrom ⟨some 7, none, 990.0⟩ 1000.0 garbledHeaders
    ¬ Says garbledHeaders callsHeader Json.OverflowsCalls ∧ update.1.remaining = some 7 ∧
      update.1.reset = some (1000.0 + 30.0) := by
  intro update
  obtain ⟨-, calls, seconds, -, -⟩ :=
    headers_are_taken_over ⟨some 7, none, 990.0⟩ 1000.0 garbledHeaders
  have garbled (value : Json) (stands : StandsUnder garbledHeaders callsHeader value) :
      readCount value = .unreadable := by
    obtain rfl : Json.str "lots" = value :=
      Option.some.inj ((headerValue?_eq_some_iff _ _ _).mpr stands)
    rfl
  have few : ¬ Says garbledHeaders callsHeader Json.OverflowsCalls := by
    rintro ⟨value, stands, overflows⟩
    have tooMany := (readCount_eq_tooLarge_iff value).mpr overflows
    rw [garbled value stands] at tooMany
    cases tooMany
  have thirty : Says garbledHeaders resetHeader (·.ReadsAs 30.0) :=
    ⟨.str " 30 ", (headerValue?_eq_some_iff _ _ _).mp rfl, (readSeconds_eq_value_iff _ _).mp rfl⟩
  refine ⟨few, calls.2 ?_, (seconds few).1 30.0 thirty⟩
  rintro told ⟨value, stands, counts⟩
  have read := (readCount_eq_value_iff value told).mpr counts
  rw [garbled value stands] at read
  cases read

/-- Headers with an infinite number of calls. -/
def infiniteHeaders : List (String × Json) :=
  [("x-ratelimit-remaining", .str "inf"), ("x-ratelimit-reset", .str "30")]

/-- An infinite number of calls breaks off, and seconds that could be read are lost with it. -/
theorem infinite_calls_lose_seconds :
    (¬ ∀ (limiter : Limiter Float) (now : Float) (headers : List (String × Json)),
      (limiter.updateFrom now headers).2 = false) ∧
    ¬ ∀ (limiter : Limiter Float) (now : Float) (headers : List (String × Json)) (seconds : Float),
      Says headers resetHeader (·.ReadsAs seconds) →
        (limiter.updateFrom now headers).1.reset = some (now + seconds) := by
  constructor
  · intro unbroken
    have broken : (updateFrom .fresh 1000.0 infiniteHeaders).2 = true := rfl
    rw [unbroken] at broken
    cases broken
  · intro kept
    have lost : (updateFrom .fresh 1000.0 infiniteHeaders).1.reset = none := rfl
    have thirty : Says infiniteHeaders resetHeader (·.ReadsAs 30.0) :=
      ⟨.str "30", (headerValue?_eq_some_iff _ _ _).mp rfl, (readSeconds_eq_value_iff _ _).mp rfl⟩
    rw [kept .fresh 1000.0 infiniteHeaders 30.0 thirty] at lost
    cases lost

end Limiter

end Rulebook
