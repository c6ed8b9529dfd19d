import Rulebook.Proofs.Window
import Rulebook.Settings.Check

/-!
# Trouble with the log closes the gate

The gate asks the log for two counts, and any failure of either makes both zero. So whatever
the log does, the gate gives an answer, and after a failure the answer is a denial that tells
the number of clean checks as zero.

All of this needs a window with a start. The start is found before the log is asked, and a
window that reaches back beyond the first day of the calendar has none. The check of the
settings takes windows of any length, and with such a window every operation of the gate breaks
off.
-/

namespace Rulebook

open Calendar Document

/-- How a log answers when it is asked for the number of a user's events from a moment on, of
one verdict or of all. It may answer anything, and it may fail. -/
abbrev EventCounter (ε : Type) := Int → Moment → Option PolicyState → Except ε Int

namespace EventCounter

variable {ε : Type} (counter : EventCounter ε) (userId : Int) (since : Moment)

/-- The clean and all events of a user; zero when either cannot be had. -/
def safeCounts : Int × Int :=
  let counted := do
    let clean ← counter userId since (some .ok)
    let all ← counter userId since none
    return (clean, all)
  match counted with
  | .ok counts => counts
  | .error _ => (0, 0)

/-- True when one of the counts of a user fails. -/
def Fails : Prop :=
  (∃ failure, counter userId since (some .ok) = .error failure) ∨
    ∃ failure, counter userId since none = .error failure

/-- Counts that can both be had are the counts. -/
theorem safeCounts_of_ok (clean all : Int) (first : counter userId since (some .ok) = .ok clean)
    (second : counter userId since none = .ok all) :
    counter.safeCounts userId since = (clean, all) := by
  simp only [safeCounts, first, second, bind, Except.bind, pure, Except.pure]

/-- A failure of either makes both zero. -/
theorem safeCounts_of_fails (fails : counter.Fails userId since) :
    counter.safeCounts userId since = (0, 0) := by
  unfold safeCounts
  cases first : counter userId since (some .ok) with
  | error failure => rfl
  | ok clean =>
    cases second : counter userId since none with
    | error failure => rfl
    | ok all =>
      rcases fails with ⟨failure, failed⟩ | ⟨failure, failed⟩
      · rw [first] at failed
        cases failed
      · rw [second] at failed
        cases failed

end EventCounter

/-- The statistics of a user who has made no check that counts. -/
def PreviewStats.closed (required : Int) : PreviewStats := ⟨0, 0, false, required⟩

/-- Without a check that counts, all the required ones are missing. -/
theorem PreviewStats.decide_closed (required : Int) (positive : 0 < required) :
    (closed required).decide = ⟨false, some required, some 0, some GateDecision.notMet⟩ ∧
      (closed required).decide.remaining = required := by
  refine ⟨rfl, ?_⟩
  show max (required - 0) 0 = required
  omega

namespace GateSettings

variable {settings : GateSettings} {required days : Int}

/-- An accepted number is above zero. -/
theorem positive_of_checkPositive (message : String) (number : Int)
    (accepted : checkPositive message (.int number) = .ok []) : 0 < number := by
  have reads : checkPositive message (.int number) =
      .ok (if (Number.int number).atMost (.int 0) then [message] else []) := rfl
  rw [reads] at accepted
  apply Int.not_le.mp
  intro small
  have order := (Number.atMost_int_iff [] (.int number) _ number 0 rfl rfl).mpr small
  rw [order] at accepted
  cases accepted

/-- Accepted integers are both above zero. -/
theorem positive_of_accepted
    (accepted : (⟨.int required, .int days⟩ : GateSettings).problems = .ok []) :
    0 < required ∧ 0 < days := by
  obtain ⟨missing, first, rest⟩ := (bind_eq_ok_iff _ _ _).mp accepted
  obtain ⟨short, second, none⟩ := (bind_eq_ok_iff _ _ _).mp rest
  obtain ⟨rfl, rfl⟩ := List.append_eq_nil_iff.mp (Except.ok.inj none)
  exact ⟨positive_of_checkPositive _ required first, positive_of_checkPositive _ days second⟩

end GateSettings

namespace Engine

/-- The log of the database as it answers. -/
def eventCounter (engine : Engine) : EventCounter Failure := fun userId since state =>
  (engine.db.countEvents userId since state).map Int.ofNat

section AnyLog

variable {ε : Type} (engine : Engine) (counter : EventCounter ε) (userId : Int)

/-- The counts of a user by any log. -/
def statsOver : Except Failure PreviewStats := do
  let since ← Failure.ofFault engine.windowStart
  let (clean, all) := counter.safeCounts userId since
  let threshold ← Failure.ofFault engine.gate.requiredOkPreviews.number
  let required ← Failure.ofChecked (readInteger ["required"] engine.gate.requiredOkPreviews)
  return ⟨clean, all, threshold.atMost (.int clean), required⟩

/-- Whether a user may queue posts by any log. -/
def canQueueOver : Except Failure Bool := (engine.statsOver counter userId).map (·.canQueue)

/-- The decision for a user by any log, which is counted. -/
def checkOver : Outcome GateDecision :=
  match engine.statsOver counter userId with
  | .error failure => (.error failure, engine)
  | .ok stats => (.ok stats.decide, engine.record (.gate stats.canQueue))

/-- The gate counts by the log of the database. -/
theorem previewStats_eq_statsOver :
    engine.previewStats userId = engine.statsOver engine.eventCounter userId := by
  have counted (since : Moment) : engine.eventCounter.safeCounts userId since =
      (((engine.safeCounts userId since).1 : Int), ((engine.safeCounts userId since).2 : Int)) := by
    unfold EventCounter.safeCounts safeCounts eventCounter
    cases engine.db.countEvents userId since (some .ok) with
    | error failure => rfl
    | ok clean => cases engine.db.countEvents userId since none <;> rfl
  unfold previewStats statsOver
  simp only [counted]

/-- The gate decides by the log of the database. -/
theorem checkGate_eq_checkOver :
    engine.checkGate userId = engine.checkOver engine.eventCounter userId := by
  have same := engine.previewStats_eq_statsOver userId
  cases answered : engine.statsOver engine.eventCounter userId with
  | error failure =>
    rw [answered] at same
    simp only [checkGate, checkOver, same, answered]
  | ok stats =>
    rw [answered] at same
    simp only [checkGate, checkOver, same, answered]

/-- With integers as settings and a window that has a start, the statistics are made of the
counts. -/
theorem statsOver_eq_ok (required days : Int) (since : Moment)
    (settings : engine.gate = ⟨.int required, .int days⟩) (start : engine.windowStart = .ok since) :
    engine.statsOver counter userId = .ok
      ⟨(counter.safeCounts userId since).1, (counter.safeCounts userId since).2,
        decide (required ≤ (counter.safeCounts userId since).1), required⟩ := by
  have enough := Number.atMost_int_iff ["required"] (.int required) _ required
    (counter.safeCounts userId since).1 rfl rfl
  have same : engine.statsOver counter userId = .ok
      ⟨(counter.safeCounts userId since).1, (counter.safeCounts userId since).2,
        (Number.int required).atMost (.int (counter.safeCounts userId since).1), required⟩ := by
    simp only [statsOver, start, settings]
    rfl
  rw [same, Bool.eq_iff_iff.mpr (enough.trans decide_eq_true_iff.symm)]

/-- Without a start of the window there are no statistics, whatever the log answers. -/
theorem statsOver_eq_error (start : engine.windowStart = .error .outOfRange) :
    engine.statsOver counter userId = .error (.fault .outOfRange) := by
  simp only [statsOver, start]
  rfl

end AnyLog

variable (engine : Engine) (required days : Int)

/-- The days that the calendar has are far fewer than can be counted with. -/
theorem within_spanLimit (positive : 0 < days) (reached : days * dayMicros ≤ engine.now.wall) :
    days.natAbs ≤ spanLimit := by
  have last : engine.now.wall < spanLimit * dayMicros :=
    Int.lt_trans (Int.ofNat_lt.mpr engine.now.wall_lt) (by decide)
  have fewer : days < spanLimit :=
    Int.lt_of_mul_lt_mul_right (Int.lt_of_le_of_lt reached last) (by decide)
  omega

/-- A window of a positive number of days has a start exactly when it does not reach back beyond
the first day of the calendar. -/
theorem windowStart_cases (settings : engine.gate = ⟨.int required, .int days⟩)
    (positive : 0 < days) :
    (days * dayMicros ≤ engine.now.wall → ∃ since, engine.windowStart = .ok since ∧
        since.instant = engine.now.instant - days * dayMicros) ∧
      (engine.now.wall < days * dayMicros → engine.windowStart = .error .outOfRange) := by
  constructor
  · intro reached
    have last := engine.now.wall_lt
    have window : 0 < days * dayMicros := Int.mul_pos positive (by decide)
    have configured : engine.gate.Amounts (days * dayMicros) required :=
      settings ▸ GateSettings.amounts_int days required
        (engine.within_spanLimit days positive reached)
    exact engine.exists_windowStart _ required configured (by omega) (by omega)
  · intro beyond
    have reads : engine.gate.windowDays.number = .ok (.int days) := by rw [settings]; rfl
    by_cases long : spanLimit < days.natAbs
    · simp only [windowStart, reads, daysToMicros, if_pos long, bind, Except.bind]
    · have early : engine.now.shift? (-(days * dayMicros)) = none := by
        rw [Moment.shift?, Moment.ofWall?, if_pos (by omega)]
      simp only [windowStart, reads, daysToMicros, if_neg long, early, bind, Except.bind]
      rfl

/-- Trouble with the log closes the gate, and as long as the window has a start nothing makes the
gate break off.

Take any integers as settings that the check of the settings accepts, and any log: it may answer
or fail as it likes. With a window that has a start all operations of the gate answer. When both
counts can be had, they decide; when one of them fails, the answer is a denial with the reason of
denials, the count is zero and all required checks are missing.

The window has no start when it reaches back beyond the first day of the calendar. Then all
operations of the gate break off before the log is asked, although the settings were accepted.
The running gate is the case of the log in the database. -/
theorem gate_fails_closed {ε : Type} (counter : EventCounter ε) (userId : Int)
    (settings : engine.gate = ⟨.int required, .int days⟩)
    (accepted : engine.gate.problems = .ok []) :
    (days * dayMicros ≤ engine.now.wall →
      ∃ since stats, engine.windowStart = .ok since ∧
        since.instant = engine.now.instant - days * dayMicros ∧
        engine.statsOver counter userId = .ok stats ∧
        engine.canQueueOver counter userId = .ok stats.canQueue ∧
        (engine.checkOver counter userId).1 = .ok stats.decide ∧
        (∀ clean all, counter userId since (some .ok) = .ok clean →
          counter userId since none = .ok all →
            stats = ⟨clean, all, decide (required ≤ clean), required⟩) ∧
        (counter.Fails userId since →
          stats = .closed required ∧
          stats.decide = ⟨false, some required, some 0, some GateDecision.notMet⟩ ∧
          stats.decide.remaining = required)) ∧
    (engine.now.wall < days * dayMicros →
      engine.statsOver counter userId = .error (.fault .outOfRange) ∧
      engine.canQueueOver counter userId = .error (.fault .outOfRange) ∧
      (engine.checkOver counter userId).1 = .error (.fault .outOfRange)) ∧
    engine.previewStats userId = engine.statsOver engine.eventCounter userId ∧
    engine.canQueue userId = engine.canQueueOver engine.eventCounter userId ∧
    engine.checkGate userId = engine.checkOver engine.eventCounter userId := by
  obtain ⟨needed, positive⟩ := GateSettings.positive_of_accepted (settings ▸ accepted)
  obtain ⟨begun, beyond⟩ := engine.windowStart_cases required days settings positive
  have running := engine.previewStats_eq_statsOver userId
  refine ⟨?_, ?_, running, congrArg (Except.map _) running, engine.checkGate_eq_checkOver userId⟩
  · intro reached
    obtain ⟨since, start, instant⟩ := begun reached
    have answered := engine.statsOver_eq_ok counter userId required days since settings start
    refine ⟨since, _, start, instant, answered, ?_, ?_, ?_, ?_⟩
    · rw [canQueueOver, answered]
      rfl
    · simp only [checkOver, answered]
    · intro clean all first second
      rw [counter.safeCounts_of_ok userId since clean all first second]
    · intro fails
      have closed : decide (required ≤ 0) = false := decide_eq_false (by omega)
      rw [counter.safeCounts_of_fails userId since fails, closed]
      exact ⟨rfl, PreviewStats.decide_closed required needed⟩
  · intro late
    have refused := engine.statsOver_eq_error counter userId (beyond late)
    refine ⟨refused, ?_, ?_⟩
    · rw [canQueueOver, refused]
      rfl
    · simp only [checkOver, refused]

/-- A log that counts clean checks and fails to count all. -/
def halfBrokenCounter : EventCounter Unit := fun _ _ state =>
  match state with
  | some _ => .ok 5
  | none => .error ()

/-- A log that fails at the second count denies a user who has enough clean checks. -/
theorem half_broken_log_denies :
    morning.gate.problems = .ok [] ∧
      (morning.checkOver halfBrokenCounter 7).1 =
        .ok ⟨false, some 1, some 0, some GateDecision.notMet⟩ := by
  have accepted : morning.gate.problems = .ok [] := rfl
  obtain ⟨answers, -, -⟩ :=
    gate_fails_closed morning 1 14 halfBrokenCounter 7 rfl accepted
  obtain ⟨since, stats, -, -, -, -, decided, -, closed⟩ := answers (by decide +kernel)
  obtain ⟨-, denial, -⟩ := closed (Or.inr ⟨(), rfl⟩)
  exact ⟨accepted, decided.trans (congrArg Except.ok denial)⟩

/-- A gate with a window of a million days, which is longer than the calendar. -/
def boundlessWindow : Engine := { morning with gate := ⟨.int 3, .int 1000000⟩ }

/-- A window of a million days is accepted, and the gate breaks off with it. -/
theorem boundless_window_breaks_off :
    boundlessWindow.gate.problems = .ok [] ∧
      boundlessWindow.previewStats 1 = .error (.fault .outOfRange) ∧
      boundlessWindow.canQueue 1 = .error (.fault .outOfRange) ∧
      (boundlessWindow.checkGate 1).1 = .error (.fault .outOfRange) := by
  have accepted : boundlessWindow.gate.problems = .ok [] := rfl
  have start : boundlessWindow.windowStart = .error .outOfRange :=
    (boundlessWindow.windowStart_cases 3 1000000 rfl (by decide)).2 (by decide +kernel)
  have refused : boundlessWindow.previewStats 1 = .error (.fault .outOfRange) := by
    rw [previewStats_eq_statsOver]
    exact statsOver_eq_error _ _ _ start
  refine ⟨accepted, refused, ?_, ?_⟩
  · rw [canQueue, refused]
    rfl
  · simp only [checkGate, refused]

end Engine

end Rulebook
