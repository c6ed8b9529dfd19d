import Rulebook.Preview.Gate
import Rulebook.Proofs.Numbers
import Rulebook.Proofs.Stamps
import Rulebook.Proofs.Store

/-!
# What the gate counts

The gate counts the events of one user that lie in its window, from its start on and with the
start itself. Whatever the offsets under which the events were recorded, and whatever the
clock, an event is in the window exactly when its instant is: the log keeps all times as
texts of universal time, and these compare as the instants do.

One window cannot be counted. Its start can lie in the year 1 on the gate's own clock and
before that year in universal time; then no text stands for it, and the gate stays closed.
-/

namespace Rulebook

open Calendar Document

/-- A number of a setting that reads as an integer compares with integers as that integer. -/
theorem Number.atMost_int_iff (path : Path) (setting : Json) (threshold : Number)
    (required count : Int) (isNumber : setting.number = .ok threshold)
    (reads : readInteger path setting = .ok required) :
    threshold.atMost (.int count) = true ↔ required ≤ count := by
  have ordered (order : Option Ordering) (same : order = some (compare required count)) :
      (order == some .lt || order == some .eq) = true ↔ required ≤ count := by
    rw [same]
    rcases Int.lt_trichotomy required count with below | rfl | above
    · simp [Int.compare_eq_lt.mpr below, Int.le_of_lt below]
    · simp
    · simp [Int.compare_eq_gt.mpr above, above]
  cases setting with
  | int least =>
    obtain rfl := Except.ok.inj isNumber
    obtain rfl := Checked.ok.inj reads
    exact ordered _ rfl
  | bool least =>
    obtain rfl := Except.ok.inj isNumber
    obtain rfl := Checked.ok.inj reads
    exact ordered _ rfl
  | float least =>
    obtain rfl := Except.ok.inj isNumber
    simp only [readInteger] at reads
    split at reads
    · cases reads
    · next whole cut =>
      split at reads
      · cases reads
      · next noFraction =>
        split at reads
        · obtain rfl := Checked.ok.inj reads
          have exact := Decimal.compareIntFloat_of_whole count whole least cut
            (by simpa using noFraction)
          refine ordered _ ?_
          rw [order?, exact, Option.map_some, Int.compare_swap]
        · cases reads
  | _ => cases isNumber

/-- Settings of the gate amount to a window in microseconds and a number of clean checks. -/
structure GateSettings.Amounts (settings : GateSettings) (window required : Int) : Prop where
  window : ∃ days, settings.windowDays.number = .ok days ∧ daysToMicros days = .ok window
  threshold : ∃ threshold, settings.requiredOkPreviews.number = .ok threshold
  required : readInteger ["required"] settings.requiredOkPreviews = .ok required

/-- Integers are settings of the gate, up to the longest span of days. -/
theorem GateSettings.amounts_int (days required : Int) (within : days.natAbs ≤ spanLimit) :
    Amounts ⟨.int required, .int days⟩ (days * dayMicros) required := by
  have short : ¬ spanLimit < (days.natAbs : Int) := by omega
  exact ⟨⟨.int days, rfl, by rw [daysToMicros, if_neg short]⟩, ⟨.int required, rfl⟩, rfl⟩

/-- An event that the log can hold: its instant lies within the calendar of universal time, and
the identifier of its user fits into a column. -/
def PreviewEvent.isLoggable (event : PreviewEvent) : Bool :=
  event.createdAt.inUtc?.isSome && Database.fitsColumn event.userId

/-- An event of a user from an instant on, of one verdict or of any. -/
def PreviewEvent.matches (userId start : Int) (state : Option PolicyState) (event : PreviewEvent) :
    Bool :=
  event.userId == userId && start ≤ event.createdAt.instant
    && (state.isNone || state == some event.policyState)

namespace Database

/-- A database whose log of events takes events. -/
structure TakesEvents (db : Database) : Prop where
  connected : db.connected = true
  present : db.events.present = true
  writable : db.events.writable = true

/-- The database after an event was offered to the log. One that is refused changes nothing. -/
def logEvent (db : Database) (event : PreviewEvent) : Database :=
  match db.insertEvent event with
  | .ok (after, _) => after
  | .error _ => db

/-- The database after several events were offered. -/
def logEvents (db : Database) (events : List PreviewEvent) : Database := events.foldl logEvent db

/-- The events among several that are logged. -/
def logged (events : List PreviewEvent) : List PreviewEvent :=
  events.filter PreviewEvent.isLoggable

variable (db : Database) (event : PreviewEvent) (userId start : Int) (state : Option PolicyState)

/-- A log that takes events takes one exactly when it can hold it, and keeps its time in
universal time. -/
theorem logEvent_cases (takes : db.TakesEvents) :
    (event.isLoggable = false ∧ db.logEvent event = db) ∨
      ∃ id createdAt, event.isLoggable = true ∧ event.createdAt.inUtc? = some createdAt ∧
        db.logEvent event = { db with events := { db.events with
          rows := db.events.rows ++ [{ event with id, createdAt }] } } := by
  have opened : db.session = .ok () := (session_eq_ok_iff db ()).mpr takes.connected
  have rows : db.events.read? = some db.events.rows :=
    (read?_eq_some_iff _ _).mpr ⟨takes.present, rfl⟩
  have written (rows : List PreviewEvent) :
      db.events.write? rows = some { db.events with rows } :=
    (write?_eq_some_iff _ _ _).mpr ⟨takes.present, takes.writable, rfl⟩
  unfold PreviewEvent.isLoggable logEvent insertEvent
  simp only [opened, rows, written, orFail, checkColumn, universal, bind, Except.bind]
  cases onClock : event.createdAt.inUtc? with
  | none => exact Or.inl ⟨rfl, rfl⟩
  | some createdAt =>
    cases fits : fitsColumn event.userId with
    | false => exact Or.inl ⟨rfl, rfl⟩
    | true => exact Or.inr ⟨_, createdAt, rfl, rfl, rfl⟩

/-- A log that took an event takes the next. -/
theorem TakesEvents.logEvent (takes : db.TakesEvents) : (db.logEvent event).TakesEvents := by
  rcases db.logEvent_cases event takes with ⟨-, same⟩ | ⟨id, createdAt, -, -, same⟩
  · rw [same]
    exact takes
  · rw [same]
    exact ⟨takes.connected, takes.present, takes.writable⟩

/-- A row is counted exactly when the event that it keeps matches. -/
theorem counts_eq_matches (since : Moment) (id : Option Int) (createdAt : Moment)
    (sinceShown : (since.wall : Int) = start) (kept : event.createdAt.inUtc? = some createdAt) :
    counts userId since state { event with id, createdAt } =
      event.matches userId start state := by
  obtain ⟨shown, -⟩ := (Moment.inUtc?_eq_some_iff _ _).mp kept
  have order : ¬ createdAt.stamp < since.stamp ↔ start ≤ event.createdAt.instant := by
    rw [Moment.stamp_lt_iff]
    omega
  simp only [counts, PreviewEvent.matches, ← decide_not, order]

/-- The rows counted after a run of events are those counted before it and the logged events
that match. -/
theorem countP_logEvents (events : List PreviewEvent) (since : Moment)
    (sinceShown : (since.wall : Int) = start) (takes : db.TakesEvents) :
    (db.logEvents events).events.rows.countP (counts userId since state) =
      db.events.rows.countP (counts userId since state) +
        (logged events).countP (PreviewEvent.matches userId start state) := by
  induction events generalizing db with
  | nil => rfl
  | cons event rest inductionHypothesis =>
    rw [logEvents, List.foldl_cons, ← logEvents,
      inductionHypothesis _ (TakesEvents.logEvent db event takes)]
    rcases db.logEvent_cases event takes with
      ⟨refused, same⟩ | ⟨id, createdAt, taken, kept, same⟩
    · rw [same, logged, logged, List.filter_cons_of_neg (by simp [refused])]
    · have counted := counts_eq_matches event userId start state since id createdAt sinceShown kept
      rw [same, logged, logged, List.filter_cons_of_pos taken, List.countP_append,
        List.countP_singleton, List.countP_cons, counted]
      omega

/-- A run of events leaves the log taking events. -/
theorem TakesEvents.logEvents (events : List PreviewEvent) (takes : db.TakesEvents) :
    (db.logEvents events).TakesEvents := by
  induction events generalizing db with
  | nil => exact takes
  | cons event rest inductionHypothesis =>
    exact inductionHypothesis _ (TakesEvents.logEvent db event takes)

/-- What can be counted from a moment on that is on a clock of universal time. -/
theorem countEvents_eq (since universal : Moment) (takes : db.TakesEvents)
    (onClock : since.inUtc? = some universal) :
    db.countEvents userId since state =
      if fitsColumn userId then .ok (db.events.rows.countP (counts userId universal state))
      else .error (.fault .outOfRange) := by
  have opened : db.session = .ok () := (session_eq_ok_iff db ()).mpr takes.connected
  have rows : db.events.read? = some db.events.rows :=
    (read?_eq_some_iff _ _).mpr ⟨takes.present, rfl⟩
  simp only [countEvents, Database.universal, onClock, opened, rows, orFail, checkColumn, bind,
    Except.bind, pure, Except.pure]
  cases fitsColumn userId <;> rfl

/-- Nothing is counted from a moment on that is not. -/
theorem countEvents_of_unshown (since : Moment) (unshown : since.inUtc? = none) :
    db.countEvents userId since state = .error (.fault .outOfRange) := by
  simp only [countEvents, Database.universal, unshown, bind, Except.bind]

/-- Nothing of a user is logged whose identifier does not fit, and nothing from an instant on
that is after the calendar. -/
theorem countP_logged_eq_zero (events : List PreviewEvent)
    (beyond : fitsColumn userId = false ∨ (calendarMicros : Int) ≤ start) :
    (logged events).countP (PreviewEvent.matches userId start state) = 0 := by
  rw [List.countP_eq_zero]
  intro event member matching
  obtain ⟨-, loggable⟩ := List.mem_filter.mp member
  simp only [PreviewEvent.isLoggable, Bool.and_eq_true, Moment.inUtc?_isSome_iff] at loggable
  simp only [PreviewEvent.matches, Bool.and_eq_true, beq_iff_eq, decide_eq_true_eq] at matching
  obtain ⟨⟨-, last⟩, fits⟩ := loggable
  obtain ⟨⟨rfl, late⟩, -⟩ := matching
  rcases beyond with unfit | after
  · rw [fits] at unfit
    cases unfit
  · omega

end Database

namespace Engine

variable (engine : Engine) (events : List PreviewEvent) (userId window required : Int)

/-- The engine after a run of events was offered to its log. -/
def afterEvents : Engine := { engine with db := engine.db.logEvents events }

/-- The number of a user's logged events in a window, of one verdict or of any. A window that
starts before the calendar of universal time counts nothing. -/
def inWindow (start : Int) (state : Option PolicyState) : Nat :=
  if 0 ≤ start then (Database.logged events).countP (PreviewEvent.matches userId start state)
  else 0

/-- A window whose start the gate's clock can show starts at the instant that lies the window
before now. -/
theorem exists_windowStart (configured : engine.gate.Amounts window required)
    (first : 0 ≤ engine.now.wall - window) (last : engine.now.wall - window < calendarMicros) :
    ∃ since, engine.windowStart = .ok since ∧ since.instant = engine.now.instant - window := by
  obtain ⟨⟨days, isNumber, micros⟩, -, -⟩ := configured
  obtain ⟨since, found⟩ := Moment.exists_ofWall? (engine.now.wall - window) engine.now.offset
    first last
  obtain ⟨shown, offset⟩ := (Moment.ofWall?_eq_some_iff _ _ since).mp found
  have shifted : engine.now.shift? (-window) = some since := by
    rw [Moment.shift?, ← Int.sub_eq_add_neg, found]
  refine ⟨since, ?_, ?_⟩
  · simp only [windowStart, isNumber, micros, shifted, bind, Except.bind, pure, Except.pure]
  · rw [Moment.instant, Moment.instant, shown, offset]
    omega

/-- The gate counts what is in the window. -/
theorem safeCounts_afterEvents (since : Moment) (takes : engine.db.TakesEvents)
    (empty : engine.db.events.rows = []) :
    (engine.afterEvents events).safeCounts userId since =
      (inWindow events userId since.instant (some .ok), inWindow events userId since.instant none) := by
  have stillTakes := Database.TakesEvents.logEvents engine.db events takes
  have window := since.inUtc?_isSome_iff
  unfold safeCounts inWindow
  cases onClock : since.inUtc? with
  | none =>
    have outside := mt window.mpr (by simp [onClock])
    have refused := Database.countEvents_of_unshown (engine.db.logEvents events) userId
    simp only [afterEvents, refused _ _ onClock, bind, Except.bind]
    by_cases begun : 0 ≤ since.instant
    · have nothing := Database.countP_logged_eq_zero userId since.instant
      rw [if_pos begun, if_pos begun, nothing _ events (Or.inr (by omega)),
        nothing _ events (Or.inr (by omega))]
    · rw [if_neg begun, if_neg begun]
  | some universal =>
    obtain ⟨shown, -⟩ := (Moment.inUtc?_eq_some_iff since universal).mp onClock
    have begun : 0 ≤ since.instant := by omega
    have counted (state : Option PolicyState) :=
      Database.countP_logEvents engine.db userId since.instant state events universal shown takes
    simp only [empty, List.countP_nil, Nat.zero_add] at counted
    have answered (state : Option PolicyState) :=
      Database.countEvents_eq (engine.db.logEvents events) userId state since universal stillTakes
        onClock
    simp only [afterEvents, answered, counted]
    rw [if_pos begun, if_pos begun]
    cases fits : Database.fitsColumn userId with
    | false =>
      have nothing := Database.countP_logged_eq_zero userId since.instant
      rw [nothing _ events (Or.inl fits), nothing _ events (Or.inl fits)]
      rfl
    | true => rfl

/-- The statistics of the gate, in terms of what is in the window. -/
theorem previewStats_afterEvents (takes : engine.db.TakesEvents)
    (empty : engine.db.events.rows = []) (configured : engine.gate.Amounts window required)
    (first : 0 ≤ engine.now.wall - window) (last : engine.now.wall - window < calendarMicros) :
    (engine.afterEvents events).previewStats userId = .ok
      { okCount := inWindow events userId (engine.now.instant - window) (some .ok)
        totalPreviews := inWindow events userId (engine.now.instant - window) none
        canQueue := decide (required ≤
          inWindow events userId (engine.now.instant - window) (some .ok))
        required := required } := by
  obtain ⟨since, start, instant⟩ := engine.exists_windowStart window required configured first last
  have sameStart : (engine.afterEvents events).windowStart = .ok since := start
  have counts := engine.safeCounts_afterEvents events userId since takes empty
  obtain ⟨-, ⟨threshold, isNumber⟩, reads⟩ := configured
  have sameSettings : (engine.afterEvents events).gate = engine.gate := rfl
  have enough := Number.atMost_int_iff ["required"] _ threshold required
    (inWindow events userId since.instant (some .ok)) isNumber reads
  simp only [previewStats, sameStart, counts, sameSettings, isNumber, reads, Failure.ofFault,
    Failure.ofChecked, bind, Except.bind, pure, Except.pure, ← instant]
  rw [Except.ok.injEq, PreviewStats.mk.injEq]
  exact ⟨rfl, rfl, by rw [Bool.eq_iff_iff, enough, decide_eq_true_iff], rfl⟩

/-- Events of other users make no difference to what is in a user's window. -/
theorem inWindow_filter (start : Int) (state : Option PolicyState) :
    inWindow (events.filter (·.userId == userId)) userId start state =
      inWindow events userId start state := by
  unfold inWindow Database.logged
  rw [List.filter_filter, List.countP_filter, List.countP_filter]
  congr 1
  apply List.countP_congr
  intro event _
  simp only [PreviewEvent.matches, Bool.and_eq_true, beq_iff_eq]
  constructor
  · rintro ⟨matching, loggable, -⟩
    exact ⟨matching, loggable⟩
  · rintro ⟨matching, loggable⟩
    exact ⟨matching, loggable, matching.1.1⟩

/-- After any run of events the gate answers, and its counts are exact: of the events that were
logged it counts those of the user whose instant is at or after the start of the window, the
clean ones and all of them. The user may queue exactly when there are enough clean ones, and
what other users did makes no difference.

A window that starts before the calendar of universal time is the exception. Its start has no
text to compare with, and the gate counts nothing.

The log keeps each event under the text of its instant, so counting compares instants; a run
adds for each event what counting would find of it alone.
-/
theorem previewStats_exact (takes : engine.db.TakesEvents) (empty : engine.db.events.rows = [])
    (configured : engine.gate.Amounts window required)
    (first : 0 ≤ engine.now.wall - window) (last : engine.now.wall - window < calendarMicros) :
    ∃ stats, (engine.afterEvents events).previewStats userId = .ok stats ∧
      (0 ≤ engine.now.instant - window →
        stats.okCount = (Database.logged events).countP
            (PreviewEvent.matches userId (engine.now.instant - window) (some .ok)) ∧
          stats.totalPreviews = (Database.logged events).countP
            (PreviewEvent.matches userId (engine.now.instant - window) none)) ∧
      (engine.now.instant - window < 0 → stats.okCount = 0 ∧ stats.totalPreviews = 0) ∧
      (stats.canQueue = true ↔ required ≤ stats.okCount) ∧ stats.required = required ∧
      ∀ others, others.filter (·.userId == userId) = events.filter (·.userId == userId) →
        (engine.afterEvents others).previewStats userId = .ok stats := by
  have answered (events : List PreviewEvent) := engine.previewStats_afterEvents events userId
    window required takes empty configured first last
  refine ⟨_, answered events, ?_, ?_, decide_eq_true_iff, rfl, ?_⟩
  · intro begun
    simp only [inWindow, if_pos begun, and_self]
  · intro early
    rw [inWindow, inWindow, if_neg (Int.not_le.mpr early), if_neg (Int.not_le.mpr early)]
    exact ⟨rfl, rfl⟩
  · intro others same
    have alike (start : Int) (state : Option PolicyState) :
        inWindow others userId start state = inWindow events userId start state := by
      rw [← inWindow_filter others, same, inWindow_filter]
    rw [answered others, alike, alike]

/-- A gate of one clean check in fourteen days, on the morning of the second of March. -/
def morning : Engine where
  traffic := { pace := Limiter.idlePace }
  now := ⟨⟨2026, 3, 2, by decide⟩, 28800000000, some 0, by decide⟩
  gate := ⟨.int 1, .int 14⟩

/-- A check of a user. -/
def checkOf (userId : Int) (policyState : PolicyState) (createdAt : Moment) : PreviewEvent :=
  ⟨none, userId, "cats", "", "", policyState, [], createdAt⟩

/-- Checks at the edge of the window: a clean one at its start on a clock ahead of universal
time, one of another user there, one with warnings on a clock behind it that shows the day
before, and a clean one that is early by a microsecond, of unknown offset. -/
def checksAtEdge : List PreviewEvent :=
  [checkOf 7 .ok ⟨⟨2026, 2, 16, by decide⟩, 48600000000, some 19800, by decide⟩,
    checkOf 8 .ok ⟨⟨2026, 2, 16, by decide⟩, 28800000000, some 0, by decide⟩,
    checkOf 7 .warn ⟨⟨2026, 2, 15, by decide⟩, 86399000000, some (-64800), by decide⟩,
    checkOf 7 .ok ⟨⟨2026, 2, 16, by decide⟩, 28799999999, none, by decide⟩]

/-- The check at the start is counted and the early one is not. -/
theorem checksAtEdge_counted :
    morning.db.TakesEvents ∧ morning.gate.Amounts (14 * dayMicros) 1 ∧
      ∃ stats, (morning.afterEvents checksAtEdge).previewStats 7 = .ok stats ∧
        stats.okCount = 1 ∧ stats.totalPreviews = 2 ∧ stats.canQueue = true := by
  have takes : morning.db.TakesEvents := ⟨rfl, rfl, rfl⟩
  have configured : morning.gate.Amounts (14 * dayMicros) 1 := GateSettings.amounts_int 14 1 (by decide)
  obtain ⟨stats, answered, exactly, -, enough, -, -⟩ := previewStats_exact morning checksAtEdge 7
    (14 * dayMicros) 1 takes rfl configured (by decide) (by decide)
  obtain ⟨clean, all⟩ := exactly (by decide)
  have one : stats.okCount = 1 := clean.trans (by decide +kernel)
  have two : stats.totalPreviews = 2 := all.trans (by decide +kernel)
  exact ⟨takes, configured, stats, answered, one, two, enough.mpr (by omega)⟩

/-- A gate of one clean check in one day, on the second day of the year 1 on a clock ahead of
universal time. -/
def dawn : Engine where
  traffic := { pace := Limiter.idlePace }
  now := ⟨⟨1, 1, 2, by decide⟩, 3600000000, some 18000, by decide⟩
  gate := ⟨.int 1, .int 1⟩

/-- A clean check that is five hours later, on a clock of universal time. -/
def dawnCheck : PreviewEvent :=
  checkOf 7 .ok ⟨⟨1, 1, 2, by decide⟩, 3600000000, some 0, by decide⟩

/-- A clean check that is in the window of this gate is not counted. -/
theorem early_window_counts_nothing :
    ¬ ∀ (engine : Engine) (events : List PreviewEvent) (userId window required : Int),
      engine.db.TakesEvents → engine.db.events.rows = [] →
      engine.gate.Amounts window required → 0 ≤ engine.now.wall - window →
      engine.now.wall - window < calendarMicros →
      ∃ stats, (engine.afterEvents events).previewStats userId = .ok stats ∧
        stats.okCount = (Database.logged events).countP
          (PreviewEvent.matches userId (engine.now.instant - window) (some .ok)) := by
  intro law
  have takes : dawn.db.TakesEvents := ⟨rfl, rfl, rfl⟩
  have configured : dawn.gate.Amounts dayMicros 1 := GateSettings.amounts_int 1 1 (by decide)
  obtain ⟨stats, answered, counted⟩ := law dawn [dawnCheck] 7 dayMicros 1 takes rfl configured
    (by decide) (by decide)
  rw [previewStats_afterEvents dawn [dawnCheck] 7 dayMicros 1 takes rfl configured (by decide)
    (by decide)] at answered
  obtain rfl := Except.ok.inj answered
  exact absurd counted (by decide +kernel)

end Engine

end Rulebook
