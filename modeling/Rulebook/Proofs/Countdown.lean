import Rulebook.Proofs.Record
import Rulebook.Proofs.Window

/-!
# How many clean checks are missing

A denial tells how many more clean checks the user needs. While the clock stands still this number
is exact: the gate opens after as many clean checks of this user, and neither checks of others nor
checks with another verdict make a difference. Once open it stays open.

A check counts from the moment it is recorded, since the window reaches up to now. What is counted
is therefore a sum over the checks of a run, each of them contributing one or nothing.

The number is of no use when the window starts before the calendar of universal time. Then the gate
counts nothing and stays closed, whatever is checked.
-/

namespace Rulebook

open Calendar Document

/-- A check that is asked for: the request and the user who asks. -/
structure LintCall where
  request : Json
  userId : Json

/-- True of the calls of a user. -/
def LintCall.isBy (userId : Int) (call : LintCall) : Bool :=
  match readInteger ["user_id"] call.userId with
  | .ok user => user == userId
  | .bad _ => false

/-- An event is only inserted when the identifier of its user fits into a column. -/
theorem Database.fitsColumn_of_insertEvent (db after : Database) (event recorded : PreviewEvent)
    (inserted : db.insertEvent event = .ok (after, recorded)) :
    fitsColumn event.userId = true := by
  simp only [insertEvent, bind_eq_ok_iff] at inserted
  obtain ⟨_, -, _, -, _, -, _, checked, -⟩ := inserted
  unfold checkColumn at checked
  split at checked
  · next fits => exact fits
  · cases checked

/-- Statistics that allow exactly with enough clean checks amount to a decision that does, and that
tells how many are missing. -/
theorem PreviewStats.decide_spec (stats : PreviewStats)
    (enough : stats.canQueue = true ↔ stats.required ≤ stats.okCount) :
    (stats.decide.canQueue = true ↔ stats.required ≤ stats.okCount) ∧
      stats.decide.remaining = max (stats.required - stats.okCount) 0 := by
  unfold PreviewStats.decide
  cases allowed : stats.canQueue with
  | true =>
    have met := enough.mp allowed
    exact ⟨⟨fun _ => met, fun _ => rfl⟩, (Int.max_eq_right (Int.sub_nonpos_of_le met)).symm⟩
  | false =>
    rw [allowed] at enough
    exact ⟨enough, rfl⟩

namespace Engine

/-- True when a call is the user's own and gives a clean verdict. -/
def isCleanCall (engine : Engine) (userId : Int) (call : LintCall) : Bool :=
  call.isBy userId && match (engine.lint call.request call.userId).1 with
    | .ok result => result.state == .ok
    | .error _ => false

/-- The engine after a call. -/
def afterCall (engine : Engine) (call : LintCall) : Engine :=
  (engine.lint call.request call.userId).2

/-- The engine after a run of calls. -/
def afterCalls (engine : Engine) (calls : List LintCall) : Engine := calls.foldl afterCall engine

/-- How many calls of a run are the user's own and give a clean verdict. -/
def cleanCalls (engine : Engine) (userId : Int) : List LintCall → Nat
  | [] => 0
  | call :: rest =>
    (if engine.isCleanCall userId call then 1 else 0) + (engine.afterCall call).cleanCalls userId rest

/-- An engine that records checks: its log takes events, and the linter keeps it. -/
structure Records (engine : Engine) : Prop where
  takes : engine.db.TakesEvents
  kept : engine.keepsEvents = true

/-- An engine that records checks, with a gate that requires a number of them and counts from a
moment on that is not after now. -/
structure CountsFrom (engine : Engine) (since : Moment) (required : Int) : Prop where
  records : engine.Records
  start : engine.windowStart = .ok since
  reaches : since.instant ≤ engine.now.instant
  threshold : ∃ threshold, engine.gate.requiredOkPreviews.number = .ok threshold
  required : readInteger ["required"] engine.gate.requiredOkPreviews = .ok required

/-- What counts from a moment on does so for as long as the clock stands still and the settings
stay. -/
theorem CountsFrom.of_frame {engine after : Engine} {since : Moment} {required : Int}
    (counting : engine.CountsFrom since required) (records : after.Records)
    (clock : after.now = engine.now) (settings : after.gate = engine.gate) :
    after.CountsFrom since required := by
  constructor
  · exact records
  · rw [windowStart, clock, settings]
    exact counting.start
  · exact clock ▸ counting.reaches
  · exact settings ▸ counting.threshold
  · exact settings ▸ counting.required

variable (engine : Engine) (userId : Int) (call : LintCall)

/-- A call leaves the clock and the settings alone, and a log that takes events takes more. -/
theorem afterCall_frame (records : engine.Records) :
    (engine.afterCall call).Records ∧ (engine.afterCall call).now = engine.now ∧
      (engine.afterCall call).gate = engine.gate := by
  unfold afterCall
  rcases engine.lint_cases call.request call.userId with ⟨failure, same⟩ |
    ⟨post, result, -, -, ⟨-, same⟩ | ⟨-, user, db, recorded, -, inserted, same⟩⟩
  · rw [same]
    exact ⟨records, rfl, rfl⟩
  · rw [same]
    exact ⟨⟨records.takes, records.kept⟩, rfl, rfl⟩
  · obtain ⟨createdAt, -, -, rfl⟩ := engine.db.insertEvent_appended db _ recorded inserted
    obtain ⟨connected, present, writable⟩ := records.takes
    rw [same]
    exact ⟨⟨⟨connected, present, writable⟩, records.kept⟩, rfl, rfl⟩

/-- The event that records a check of now is counted exactly when it is the user's own and clean.
It lies in every window that starts no later than now. -/
theorem counts_eventOf (since createdAt : Moment) (post : Lint.Request) (result : LintResult)
    (user : Int) (id : Option Int) (reaches : (since.wall : Int) ≤ engine.now.instant)
    (onClock : engine.now.inUtc? = some createdAt) :
    Database.counts userId since (some .ok) { engine.eventOf post result user with id, createdAt } =
      (user == userId && result.state == .ok) := by
  have shown : (engine.eventOf post result user).createdAt.inUtc? = some createdAt := onClock
  rw [Database.counts_eq_matches _ userId since.wall (some .ok) since id createdAt rfl shown]
  have begun : decide ((since.wall : Int) ≤ (engine.eventOf post result user).createdAt.instant) =
      true := decide_eq_true reaches
  have verdict : (some PolicyState.ok == some result.state) = (result.state == .ok) := by
    cases result.state <;> rfl
  rw [PreviewEvent.matches, begun, Bool.and_true, Option.isNone_some, Bool.false_or]
  exact congrArg _ verdict

/-- Of a user whose identifier fits into a column the gate counts the clean checks on record, of
another nothing. -/
theorem safeCounts_clean (takes : engine.db.TakesEvents) (since universal : Moment)
    (onClock : since.inUtc? = some universal) :
    (engine.safeCounts userId since).1 =
      if Database.fitsColumn userId then
        engine.db.events.rows.countP (Database.counts userId universal (some .ok))
      else 0 := by
  have answered (state : Option PolicyState) :=
    Database.countEvents_eq engine.db userId state since universal takes onClock
  simp only [safeCounts, answered]
  cases Database.fitsColumn userId <;> rfl

/-- From a moment on that has no universal time nothing is counted. -/
theorem safeCounts_of_unshown (since : Moment) (unshown : since.inUtc? = none) :
    engine.safeCounts userId since = (0, 0) := by
  simp only [safeCounts, Database.countEvents_of_unshown engine.db userId (some .ok) since unshown,
    bind, Except.bind]

/-- A call with a user and a verdict is clean when the user is the one and the verdict is. -/
theorem isCleanCall_eq (user : Int) (result : LintResult)
    (read : readInteger ["user_id"] call.userId = .ok user)
    (given : (engine.lint call.request call.userId).1 = .ok result) :
    engine.isCleanCall userId call = (user == userId && result.state == .ok) := by
  simp only [isCleanCall, LintCall.isBy, read, given]

/-- A call for nobody is nobody's own. -/
theorem isCleanCall_of_null (nobody : call.userId.isNull = true) :
    engine.isCleanCall userId call = false := by
  obtain ⟨request, user⟩ := call
  cases user with
  | null => rfl
  | _ => cases nobody

/-- The step: a call adds one to the count when it is the user's own and clean, and nothing
otherwise. -/
theorem safeCounts_afterCall (records : engine.Records) (since : Moment)
    (begun : 0 ≤ since.instant) (reaches : since.instant ≤ engine.now.instant) :
    ((engine.afterCall call).safeCounts userId since).1 =
      (engine.safeCounts userId since).1 + if engine.isCleanCall userId call then 1 else 0 := by
  obtain ⟨later, -, -⟩ := engine.afterCall_frame call records
  rcases engine.lint_cases call.request call.userId with ⟨failure, same⟩ |
    ⟨post, result, -, -, ⟨unrecorded, same⟩ | ⟨-, user, db, recorded, read, inserted, same⟩⟩
  · have failed : engine.isCleanCall userId call = false := by
      simp only [isCleanCall, same, Bool.and_false]
    rw [afterCall, same, failed]
    rfl
  · rw [records.kept, Bool.not_true, Bool.or_false] at unrecorded
    rw [afterCall, same, engine.isCleanCall_of_null userId call unrecorded]
    rfl
  · have fits := engine.db.fitsColumn_of_insertEvent db _ recorded inserted
    obtain ⟨createdAt, onClock, -, rfl⟩ := engine.db.insertEvent_appended db _ recorded inserted
    have clean := engine.isCleanCall_eq userId call user result read (by rw [same])
    -- The event could be kept, so the window starts within the calendar of universal time.
    have last := ((engine.now.inUtc?_isSome_iff).mp (Option.isSome_of_eq_some onClock)).2
    obtain ⟨universal, shown⟩ := Option.isSome_iff_exists.mp
      ((since.inUtc?_isSome_iff).mpr ⟨begun, Int.lt_of_le_of_lt reaches last⟩)
    have start := ((Moment.inUtc?_eq_some_iff since universal).mp shown).1
    have counted := engine.counts_eventOf userId universal createdAt post result user
      (some (engine.db.events.rows.length + 1)) (by omega) onClock
    rw [safeCounts_clean _ _ later.takes since universal shown,
      safeCounts_clean _ _ records.takes since universal shown, afterCall, same, clean]
    by_cases own : Database.fitsColumn userId = true
    · rw [if_pos own, if_pos own, ← counted]
      exact (List.countP_append ..).trans (congrArg _ (List.countP_singleton ..))
    · have other : (user == userId) = false := by
        rw [beq_eq_false_iff_ne]
        rintro rfl
        exact own fits
      rw [if_neg own, if_neg own, other]
      rfl

variable {since : Moment} {required : Int}

/-- After a run of calls the gate still counts from the same moment on, and if that is within the
calendar of universal time the count has grown by the clean calls of the user. -/
theorem safeCounts_afterCalls (calls : List LintCall) (counting : engine.CountsFrom since required) :
    (engine.afterCalls calls).CountsFrom since required ∧
      (0 ≤ since.instant → ((engine.afterCalls calls).safeCounts userId since).1 =
        (engine.safeCounts userId since).1 + engine.cleanCalls userId calls) := by
  induction calls generalizing engine with
  | nil => exact ⟨counting, fun _ => rfl⟩
  | cons call rest inductionHypothesis =>
    obtain ⟨records, clock, settings⟩ := engine.afterCall_frame call counting.records
    obtain ⟨last, run⟩ := inductionHypothesis _ (counting.of_frame records clock settings)
    refine ⟨last, fun begun => ?_⟩
    have step := engine.safeCounts_afterCall userId call counting.records since begun
      counting.reaches
    rw [afterCalls, List.foldl_cons, ← afterCalls, run begun, step, cleanCalls, Nat.add_assoc]

/-- The gate leaves what it counts alone. -/
theorem CountsFrom.checkGate (counting : engine.CountsFrom since required) :
    (engine.checkGate userId).2.CountsFrom since required ∧
      (engine.checkGate userId).2.safeCounts userId since = engine.safeCounts userId since := by
  unfold Engine.checkGate
  split
  · exact ⟨counting, rfl⟩
  · exact ⟨counting.of_frame ⟨counting.records.takes, counting.records.kept⟩ rfl rfl, rfl⟩

/-- The gate answers. It allows exactly when it counts enough, and what remains is the rest. -/
theorem exists_checkGate (counting : engine.CountsFrom since required) :
    ∃ decision, (engine.checkGate userId).1 = .ok decision ∧
      (decision.canQueue = true ↔ required ≤ (engine.safeCounts userId since).1) ∧
      decision.remaining = max (required - (engine.safeCounts userId since).1) 0 := by
  obtain ⟨threshold, isNumber⟩ := counting.threshold
  have enough := Number.atMost_int_iff ["required"] _ threshold required
    (engine.safeCounts userId since).1 isNumber counting.required
  have answered : engine.previewStats userId = .ok
      ⟨(engine.safeCounts userId since).1, (engine.safeCounts userId since).2,
        threshold.atMost (.int (engine.safeCounts userId since).1), required⟩ := by
    simp only [previewStats, counting.start, isNumber, counting.required, Failure.ofFault,
      Failure.ofChecked, bind, Except.bind, pure, Except.pure]
  simp only [Engine.checkGate, answered]
  exact ⟨_, rfl, PreviewStats.decide_spec _ enough⟩

/-- A gate that allows keeps allowing: the count of a run never falls. -/
theorem checkGate_of_allowed (counting : engine.CountsFrom since required)
    (enough : required ≤ (engine.safeCounts userId since).1) (begun : 0 ≤ since.instant)
    (calls : List LintCall) :
    ∃ decision, (((engine.checkGate userId).2.afterCalls calls).checkGate userId).1 = .ok decision ∧
      decision.canQueue = true := by
  obtain ⟨asked, same⟩ := counting.checkGate engine userId
  obtain ⟨reached, counted⟩ := safeCounts_afterCalls _ userId calls asked
  obtain ⟨decision, answered, decides, -⟩ := exists_checkGate _ userId reached
  refine ⟨decision, answered, decides.mpr ?_⟩
  rw [counted begun, same]
  omega

/-- A gate whose window starts before the calendar of universal time denies, and everything that is
required remains. -/
theorem checkGate_of_early (counting : engine.CountsFrom since required) (positive : 0 < required)
    (early : since.instant < 0) :
    ∃ decision, (engine.checkGate userId).1 = .ok decision ∧ decision.canQueue = false ∧
      decision.remaining = required := by
  have unshown : since.inUtc? = none := by
    apply Option.not_isSome_iff_eq_none.mp
    intro shown
    have begun := ((since.inUtc?_isSome_iff).mp shown).1
    omega
  obtain ⟨decision, answered, decides, remains⟩ := exists_checkGate engine userId counting
  rw [engine.safeCounts_of_unshown userId since unshown] at decides remains
  refine ⟨decision, answered, ?_, by omega⟩
  rw [← Bool.not_eq_true, decides]
  omega

/-- The number that a denial gives is exact.

Take any log that takes events, with anything on record, and any clock that stands still. As long
as the window has a start the gate answers, and a denial gives a number that is at least one. Take
then any run of checks, of any users and with any verdicts, and those of the run that the user made
and that came out clean. The gate allows after the run exactly when they are as many as that number;
otherwise it gives the rest. Once it allows it does so after any further run.

A window that starts before the calendar of universal time is the exception. Nothing that is
checked counts, and the gate repeats its denial for ever.

Proof: the window reaches up to now, so what a clean check puts on record is in it at once. -/
theorem remaining_is_exact (window required : Int) (records : engine.Records)
    (configured : engine.gate.Amounts window required) (positive : 0 < required)
    (back : 0 ≤ window) (first : 0 ≤ engine.now.wall - window) :
    let asked := (engine.checkGate userId).2
    ∃ decision, (engine.checkGate userId).1 = .ok decision ∧
      (decision.canQueue = false → 1 ≤ decision.remaining) ∧
      (0 ≤ engine.now.instant - window → ∀ calls, ∃ later,
        ((asked.afterCalls calls).checkGate userId).1 = .ok later ∧
        (later.canQueue = true ↔ decision.remaining ≤ asked.cleanCalls userId calls) ∧
        later.remaining = max (decision.remaining - asked.cleanCalls userId calls) 0 ∧
        (later.canQueue = true → ∀ further, ∃ last,
          ((((asked.afterCalls calls).checkGate userId).2.afterCalls further).checkGate userId).1 =
            .ok last ∧ last.canQueue = true)) ∧
      (engine.now.instant - window < 0 → decision.canQueue = false ∧
        decision.remaining = required ∧ ∀ calls, ∃ later,
          ((asked.afterCalls calls).checkGate userId).1 = .ok later ∧ later.canQueue = false ∧
          later.remaining = required) := by
  intro asked
  have last : engine.now.wall < calendarMicros := engine.now.wall_lt
  obtain ⟨since, start, instant⟩ :=
    engine.exists_windowStart window required configured first (by omega)
  have counting : engine.CountsFrom since required :=
    ⟨records, start, by omega, configured.threshold, configured.required⟩
  obtain ⟨decision, answered, decides, remains⟩ := exists_checkGate engine userId counting
  obtain ⟨stillCounting, same⟩ := counting.checkGate engine userId
  refine ⟨decision, answered, ?_, ?_, ?_⟩
  · intro denied
    have missing := mt decides.mpr (by rw [denied]; decide)
    omega
  · intro begun calls
    obtain ⟨reached, counted⟩ := asked.safeCounts_afterCalls userId calls stillCounting
    specialize counted (by omega)
    rw [same] at counted
    obtain ⟨later, answer, allows, rest⟩ := exists_checkGate _ userId reached
    refine ⟨later, answer, ?_, ?_, ?_⟩
    · rw [allows]
      omega
    · omega
    · intro allowed
      exact checkGate_of_allowed _ userId reached (allows.mp allowed) (by omega)
  · intro early
    have before : since.instant < 0 := by omega
    obtain ⟨denial, given, denied, all⟩ := checkGate_of_early engine userId counting positive before
    rw [answered] at given
    obtain rfl := Except.ok.inj given
    refine ⟨denied, all, fun calls => ?_⟩
    obtain ⟨reached, -⟩ := asked.safeCounts_afterCalls userId calls stillCounting
    exact checkGate_of_early _ userId reached positive before

/-- Rules for cats that object to nothing, and none for dogs. -/
def catsOnFile : Database where
  rules := { rows := [⟨"cats", .obj []⟩] }

/-- A call that asks for a picture. -/
def picture (community : String) (userId : Int) : LintCall :=
  ⟨.obj [("subreddit", .str community), ("title", .str "A picture")], .int userId⟩

/-- A gate of two clean checks. -/
def gateOfTwo : Engine := { morning with db := catsOnFile, gate := ⟨.int 2, .int 14⟩ }

/-- A clean call of the user, one of somebody else, and one with a warning. -/
def mixedCalls : List LintCall := [picture "r/Cats" 7, picture "cats" 8, picture "dogs" 7]

/-- The first of the two opens half of the way, the second opens the gate. -/
theorem second_clean_check_opens :
    gateOfTwo.Records ∧ gateOfTwo.gate.Amounts (14 * dayMicros) 2 ∧
      ∃ decision, (gateOfTwo.checkGate 7).1 = .ok decision ∧ decision.remaining = 2 ∧
        (∃ later, (((gateOfTwo.checkGate 7).2.afterCalls mixedCalls).checkGate 7).1 = .ok later ∧
          later.canQueue = false ∧ later.remaining = 1) ∧
        ∃ later, (((gateOfTwo.checkGate 7).2.afterCalls
            (mixedCalls ++ [picture "/r/CATS" 7])).checkGate 7).1 = .ok later ∧
          later.canQueue = true := by
  have records : gateOfTwo.Records := ⟨⟨rfl, rfl, rfl⟩, rfl⟩
  have configured : gateOfTwo.gate.Amounts (14 * dayMicros) 2 :=
    GateSettings.amounts_int 14 2 (by decide)
  obtain ⟨decision, answered, -, counting, -⟩ := gateOfTwo.remaining_is_exact 7 (14 * dayMicros) 2
    records configured (by decide) (by decide) (by decide)
  have two : decision.remaining = 2 := by
    have denial : (gateOfTwo.checkGate 7).1 =
        .ok ⟨false, some 2, some 0, some GateDecision.notMet⟩ := rfl
    rw [denial] at answered
    obtain rfl := Except.ok.inj answered
    rfl
  have inUniversalTime : 0 ≤ gateOfTwo.now.instant - 14 * dayMicros := by decide
  obtain ⟨first, afterOne, stillClosed, rest, -⟩ := counting inUniversalTime mixedCalls
  obtain ⟨second, afterTwo, opens, -⟩ :=
    counting inUniversalTime (mixedCalls ++ [picture "/r/CATS" 7])
  have one : (gateOfTwo.checkGate 7).2.cleanCalls 7 mixedCalls = 1 := by decide
  have more : (gateOfTwo.checkGate 7).2.cleanCalls 7 (mixedCalls ++ [picture "/r/CATS" 7]) = 2 := by
    decide
  rw [two, one] at stillClosed rest
  rw [two, more] at opens
  refine ⟨records, configured, decision, answered, two, ⟨first, afterOne, ?_, rest⟩, second,
    afterTwo, opens.mpr (by decide)⟩
  rw [← Bool.not_eq_true, stillClosed]
  decide

/-- The gate whose window starts before the calendar, with rules for cats. -/
def dawnOfCats : Engine := { dawn with db := catsOnFile }

/-- There the one clean check that is missing does not open the gate. -/
theorem clean_check_at_dawn_is_lost :
    ¬ ∀ (engine : Engine) (userId window required : Int) (decision later : GateDecision)
        (calls : List LintCall),
      engine.Records → engine.gate.Amounts window required → 0 < required → dayMicros ≤ window →
      0 ≤ engine.now.wall - window → (engine.checkGate userId).1 = .ok decision →
      decision.canQueue = false →
      (((engine.checkGate userId).2.afterCalls calls).checkGate userId).1 = .ok later →
      (later.canQueue = true ↔
        decision.remaining ≤ (engine.checkGate userId).2.cleanCalls userId calls) := by
  intro law
  have records : dawnOfCats.Records := ⟨⟨rfl, rfl, rfl⟩, rfl⟩
  have configured : dawnOfCats.gate.Amounts dayMicros 1 := GateSettings.amounts_int 1 1 (by decide)
  have one : (dawnOfCats.checkGate 7).2.cleanCalls 7 [picture "cats" 7] = 1 := by decide
  have denial : (dawnOfCats.checkGate 7).1 =
      .ok ⟨false, some 1, some 0, some GateDecision.notMet⟩ := rfl
  have again : (((dawnOfCats.checkGate 7).2.afterCalls [picture "cats" 7]).checkGate 7).1 =
      .ok ⟨false, some 1, some 0, some GateDecision.notMet⟩ := rfl
  have opens := (law dawnOfCats 7 dayMicros 1 _ _ _ records configured (by decide) (by decide)
    (by decide) denial rfl again).mpr (by rw [one]; decide)
  cases opens

end Engine

end Rulebook
