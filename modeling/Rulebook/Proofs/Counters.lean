import Rulebook.Proofs.Calls
import Rulebook.Proofs.Record

/-!
# Runs of counted calls

Every operation of the engine records the calls that end with it. A sync of one community ends with
its fetches and then with itself. A sync of many has all fetches of a batch first and then the syncs
in order, or, when the coroutines take turns, whatever order they come to; its calls are listed
along its course, and the syncs among them are those that it reports.

Along a run the calls follow each other, and so does what is recorded of them. The law about the
counters follows for every run, whatever becomes of the database, the settings, the clock and the
source between two operations.
-/

namespace Rulebook

open Metrics (Recorded)

namespace Engine

variable (engine : Engine)

/-- The calls that end while batches are run under schedules. -/
def planCalls (engine : Engine) : List (List String × List Turn) → List Call
  | [] => []
  | (names, schedule) :: rest =>
    (Crew.fresh engine names).callsDuring schedule ++
      ((Crew.fresh engine names).run schedule).engine.planCalls rest

/-- Batches record the calls that end under their schedules, and the syncs among these calls are
those of the coroutines that are done. -/
theorem recorded_runBatches (plan : List (List String × List Turn)) :
    Recorded engine.traffic.metrics (engine.runBatches plan).2.traffic.metrics
        (engine.planCalls plan) ∧
      (reportsOf (engine.runBatches plan).1).Perm
        ((engine.planCalls plan).filterMap Call.report?) := by
  induction plan generalizing engine with
  | nil => exact ⟨.refl _, .refl _⟩
  | cons batch rest inductionHypothesis =>
    obtain ⟨names, schedule⟩ := batch
    have fresh : ∀ task ∈ (Crew.fresh engine names).tasks, task.Accepted := by
      intro task member
      obtain ⟨name, -, rfl⟩ := List.mem_map.mp member
      trivial
    have unreported : reportsOf (Crew.fresh engine names).tasks = [] := by
      rw [Crew.fresh, reportsOf, List.filterMap_map, List.filterMap_eq_nil_iff]
      exact fun _ _ => rfl
    have here := Crew.counted_run _ schedule fresh
    obtain ⟨recorded, reports⟩ :=
      inductionHypothesis ((Crew.fresh engine names).run schedule).engine
    have reported := here.reports
    rw [unreported, List.nil_append] at reported
    rw [runBatches_cons, planCalls, reportsOf_append, List.filterMap_append]
    exact ⟨here.recorded.trans recorded, reported.append reports⟩

/-- The fetches of the pages of a community. -/
def gatherCalls (key : String) : List Call :=
  let rules := engine.traffic.fetchRules engine.sync key
  [.fetch .aboutRules (failureOf rules.1),
    .fetch .wiki (failureOf (rules.2.fetchWiki engine.sync key).1)]

/-- Gathering records why the source is unavailable, if it is. -/
theorem recorded_gather (key : String) :
    Recorded engine.traffic.metrics (engine.gather key).2.traffic.metrics
      (engine.gatherCalls key) :=
  (engine.traffic.recorded_readBody engine.sync .aboutRules Traffic.rulesOf key).trans
    ((engine.traffic.fetchRules engine.sync key).2.recorded_readBody engine.sync .wiki
      Traffic.wikiOf key)

/-- The fetches for one community of a batch. A name that is refused has none. -/
def nameCalls (name : String) : List Call :=
  match syncKey name with
  | .error _ => []
  | .ok key => engine.gatherCalls key

/-- The fetches for a batch. -/
def batchCalls (engine : Engine) : List String → List Call
  | [] => []
  | name :: rest => engine.nameCalls name ++ (engine.gatherItem name).2.batchCalls rest

/-- The calls of a sync that has been reported. -/
def reportCalls (reports : List Report) : List Call :=
  reports.map fun report => .sync report.1 report.2

/-- The calls of several batches. -/
def batchesCalls (engine : Engine) : List (List String) → List Call
  | [] => []
  | batch :: rest =>
    let gathered := engine.gatherBatch batch
    engine.batchCalls batch ++ (reportCalls (gathered.2.finishReports gathered.1) ++
      (gathered.2.finishAll gathered.1).batchesCalls rest)

/-- The calls of a sync of given communities. -/
def namesCalls (names : List String) : List Call :=
  match batchSize engine.sync with
  | .error _ => []
  | .ok size => engine.batchesCalls (batches size names)

/-- The calls of a sync of given communities, or of all registered ones. -/
def allCalls : Option (List String) → List Call
  | some names => engine.namesCalls names
  | none =>
    if engine.knowsCommunities then
      match engine.db.communityNames with
      | .ok names => engine.namesCalls names
      | .error _ => []
    else []

/-- The fetches for one community are recorded. -/
theorem recorded_gatherItem (name : String) :
    Recorded engine.traffic.metrics (engine.gatherItem name).2.traffic.metrics
      (engine.nameCalls name) := by
  unfold gatherItem nameCalls
  cases syncKey name with
  | error failure => exact .refl _
  | ok key => exact engine.recorded_gather key

/-- A sync of one community records its fetches and then itself. -/
theorem recorded_syncOne (name : String) :
    Recorded engine.traffic.metrics (engine.syncOne name).2.traffic.metrics
      (engine.nameCalls name ++ [.sync name (engine.syncOne name).1]) := by
  unfold syncOne nameCalls
  cases named : syncKey name with
  | error failure => exact .uncounted _ _ (counter?_of_refused name failure failure named)
  | ok key =>
    exact (engine.recorded_gather key).trans
      ((engine.gather key).2.recorded_finish name key _ named)

/-- The fetches for a batch are recorded. -/
theorem recorded_gatherBatch (names : List String) :
    Recorded engine.traffic.metrics (engine.gatherBatch names).2.traffic.metrics
      (engine.batchCalls names) := by
  induction names generalizing engine with
  | nil => exact .refl _
  | cons name rest inductionHypothesis =>
    rw [gatherBatch_cons, batchCalls]
    exact (engine.recorded_gatherItem name).trans (inductionHypothesis _)

/-- A batch that is finished records its syncs. -/
theorem recorded_finishAll (items : List (String × BatchItem))
    (fit : ∀ entry ∈ items, ItemFits (fun _ _ => True) entry) :
    Recorded engine.traffic.metrics (engine.finishAll items).traffic.metrics
      (reportCalls (engine.finishReports items)) := by
  induction items generalizing engine with
  | nil => exact .refl _
  | cons entry rest inductionHypothesis =>
    obtain ⟨name, item⟩ := entry
    obtain ⟨fits, others⟩ := List.forall_mem_cons.mp fit
    have here : Recorded engine.traffic.metrics (engine.finishItem item).2.traffic.metrics
        [.sync name (engine.itemOutcome item)] := by
      cases item with
      | error failure => exact .uncounted _ _ (counter?_of_refused name failure failure fits)
      | ok gathering =>
        obtain ⟨key, gathered⟩ := gathering
        rw [finishItem_after]
        exact engine.recorded_finish name key gathered fits.1
    exact here.trans (inductionHypothesis _ others)

/-- Batches record their fetches and their syncs. -/
theorem recorded_afterBatches (batches : List (List String)) :
    Recorded engine.traffic.metrics (engine.afterBatches batches).traffic.metrics
      (engine.batchesCalls batches) := by
  induction batches generalizing engine with
  | nil => exact .refl _
  | cons batch rest inductionHypothesis =>
    have anything : SyncInvariant (fun _ _ => True) fun _ _ => True :=
      ⟨fun _ _ _ _ => ⟨trivial, trivial⟩, fun _ _ _ _ _ _ => trivial,
        fun _ _ _ _ _ _ _ _ => trivial⟩
    obtain ⟨-, fit⟩ := anything.gatherBatch [] engine batch trivial
    exact (engine.recorded_gatherBatch batch).trans
      (((engine.gatherBatch batch).2.recorded_finishAll _ fit).trans (inductionHypothesis _))

/-- A sync of given communities records its fetches and its syncs. -/
theorem recorded_syncNames (names : List String) :
    Recorded engine.traffic.metrics (engine.syncNames names).2.traffic.metrics
      (engine.namesCalls names) := by
  unfold syncNames namesCalls
  cases batchSize engine.sync with
  | error fault => exact .refl _
  | ok size =>
    obtain ⟨-, left⟩ := engine.syncBatches_eq engine.sync.batchDelay { total := names.length }
      (batches size names)
    dsimp only
    rw [left]
    exact engine.recorded_afterBatches _

/-- A sync of many communities records its fetches and its syncs. -/
theorem recorded_syncAll (names : Option (List String)) :
    Recorded engine.traffic.metrics (engine.syncAll names).2.traffic.metrics
      (engine.allCalls names) := by
  unfold syncAll allCalls
  cases names with
  | some names => exact engine.recorded_syncNames names
  | none =>
    dsimp only
    split
    · cases engine.db.communityNames with
      | ok names => exact engine.recorded_syncNames names
      | error failure => exact .refl _
    · exact .refl _

/-- The syncs among the calls of a sync of many communities are those that it reports. -/
theorem reports_allCalls (names : Option (List String)) :
    (engine.allCalls names).filterMap Call.report? = engine.allReports names := by
  have reported (reports : List Report) :
      (reportCalls reports).filterMap Call.report? = reports := by
    rw [reportCalls, List.filterMap_map]
    exact List.filterMap_some
  have fetched (engine : Engine) (names : List String) :
      (engine.batchCalls names).filterMap Call.report? = [] := by
    induction names generalizing engine with
    | nil => rfl
    | cons name rest inductionHypothesis =>
      rw [batchCalls, List.filterMap_append, inductionHypothesis, List.append_nil, nameCalls]
      cases syncKey name <;> rfl
  have batched (engine : Engine) (batches : List (List String)) :
      (engine.batchesCalls batches).filterMap Call.report? = engine.batchReports batches := by
    induction batches generalizing engine with
    | nil => rfl
    | cons batch rest inductionHypothesis =>
      rw [batchesCalls, batchReports]
      simp only [List.filterMap_append, fetched, reported, inductionHypothesis, List.nil_append]
  have named (names : List String) :
      (engine.namesCalls names).filterMap Call.report? = engine.namesReports names := by
    unfold namesCalls namesReports
    cases batchSize engine.sync with
    | error fault => rfl
    | ok size => exact batched engine _
  unfold allCalls allReports
  cases names with
  | some names => exact named names
  | none =>
    dsimp only
    split
    · cases engine.db.communityNames with
      | ok names => exact named names
      | error failure => rfl
    · rfl

/-- The calls that end with an operation. -/
def callsOf : Operation → List Call
  | .syncOne name => engine.nameCalls name ++ [.sync name (engine.syncOne name).1]
  | .syncAll names => engine.allCalls names
  | .lint request userId => [.lint (engine.lint request userId).1]
  | .checkGate userId => [.gate (engine.checkGate userId).1]
  | .fetchRules name =>
    [.fetch .aboutRules (failureOf (engine.traffic.fetchRules engine.sync name).1)]
  | .fetchWiki name => [.fetch .wiki (failureOf (engine.traffic.fetchWiki engine.sync name).1)]
  | _ => []

/-- Work on the database ends no call that is counted. -/
theorem recorded_onDatabase {α : Type} (result : Database.Result (Database × α)) :
    Recorded engine.traffic.metrics (engine.onDatabase result).2.traffic.metrics [] := by
  cases result <;> exact .refl _

/-- A check is recorded with its verdict, and not at all when it breaks off. -/
theorem recorded_lint (request userId : Json) :
    Recorded engine.traffic.metrics (engine.lint request userId).2.traffic.metrics
      [.lint (engine.lint request userId).1] := by
  rcases engine.lint_cases request userId with ⟨failure, given⟩ |
    ⟨post, result, -, -, ⟨-, given⟩ | ⟨-, user, db, recorded, -, -, given⟩⟩
  · rw [given]
    exact .uncounted _ _ rfl
  · rw [given]
    exact .record _ _ _ rfl
  · rw [given]
    exact .record _ _ _ rfl

/-- A decision is recorded, and nothing when there is none. -/
theorem recorded_checkGate (userId : Int) :
    Recorded engine.traffic.metrics (engine.checkGate userId).2.traffic.metrics
      [.gate (engine.checkGate userId).1] := by
  unfold checkGate
  cases engine.previewStats userId with
  | error failure => exact .uncounted _ _ rfl
  | ok stats =>
    have same : stats.decide.canQueue = stats.canQueue := by
      unfold PreviewStats.decide
      cases stats.canQueue <;> rfl
    refine .record _ _ _ ?_
    simp only [Occurrence.counter?, Call.counter?, same]

/-- Every operation records the calls that end with it. -/
theorem recorded_after (operation : Operation) :
    Recorded engine.traffic.metrics (engine.after operation).traffic.metrics
      (engine.callsOf operation) := by
  cases operation with
  | syncOne name =>
    rw [after, callsOf]
    exact engine.recorded_syncOne name
  | syncAll names => exact engine.recorded_syncAll names
  | lint request userId => exact engine.recorded_lint request userId
  | checkGate userId => exact engine.recorded_checkGate userId
  | fetchRules name => exact engine.traffic.recorded_readBody engine.sync .aboutRules _ name
  | fetchWiki name => exact engine.traffic.recorded_readBody engine.sync .wiki _ name
  | putRules name spec => exact engine.recorded_onDatabase _
  | insertEvent event => exact engine.recorded_onDatabase _
  | addCommunity name displayName => exact engine.recorded_onDatabase _
  | updateCommunity name overview syncedAt => exact engine.recorded_onDatabase _
  | createSchema => exact engine.recorded_onDatabase _

end Engine

/-- What happens to an engine while its calls are counted: an operation, a sync of batches whose
coroutines take turns as a plan says, or a change to anything but the counters. -/
inductive Incident where
  | operation (operation : Operation)
  | batches (plan : List (List String × List Turn))
  | change (world : Engine)

namespace Engine

/-- The calls that end with an incident, and the engine after it. -/
def undergo (engine : Engine) : Incident → List Call × Engine
  | .operation operation => (engine.callsOf operation, engine.after operation)
  | .batches plan => (engine.planCalls plan, (engine.runBatches plan).2)
  | .change world =>
    ([], { world with traffic := { world.traffic with metrics := engine.traffic.metrics } })

/-- The calls that end along a run, in order, and the engine after it. -/
def undergoAll (engine : Engine) : List Incident → List Call × Engine
  | [] => ([], engine)
  | incident :: rest =>
    let later := (engine.undergo incident).2.undergoAll rest
    ((engine.undergo incident).1 ++ later.1, later.2)

variable (engine : Engine)

/-- An incident records the calls that end with it. -/
theorem recorded_undergo (incident : Incident) :
    Recorded engine.traffic.metrics (engine.undergo incident).2.traffic.metrics
      (engine.undergo incident).1 := by
  cases incident with
  | operation operation => exact engine.recorded_after operation
  | batches plan => exact (engine.recorded_runBatches plan).1
  | change world => exact .refl _

/-- A run records the calls that end along it. -/
theorem recorded_undergoAll (incidents : List Incident) :
    Recorded engine.traffic.metrics (engine.undergoAll incidents).2.traffic.metrics
      (engine.undergoAll incidents).1 := by
  induction incidents generalizing engine with
  | nil => exact .refl _
  | cons incident rest inductionHypothesis =>
    exact (engine.recorded_undergo incident).trans (inductionHypothesis _)

/-- Along every run every counter increases by the number of calls that it counts. A call has one
counter at most: a sync that returned that of the successes, one that failed that of the failures
unless its name was refused, a check that of its verdict, a decision its own, and a fetch that found
the source unavailable that of its page, whose value is the sum over all causes. The syncs among the
calls of a sync of many communities are those that it reports, each once, in whatever order its
coroutines took turns.

Proof: what is recorded has, call by call, the counters of the calls that have ended, and both go on
by appending. -/
theorem counters_account_for_calls (enabled : engine.traffic.metrics.enabled = true)
    (incidents : List Incident) :
    (∀ counter, (engine.undergoAll incidents).2.traffic.metrics.value counter =
      engine.traffic.metrics.value counter +
        (engine.undergoAll incidents).1.countP fun call => call.counter? == some counter) ∧
    (∀ names, (engine.allCalls names).filterMap Call.report? = engine.allReports names) ∧
    ∀ plan, (reportsOf (engine.runBatches plan).1).Perm
      ((engine.planCalls plan).filterMap Call.report?) :=
  ⟨(engine.recorded_undergoAll incidents).value enabled, engine.reports_allCalls,
    fun plan => (engine.recorded_runBatches plan).2⟩

/-- Two coroutines that take turns, a sync of a name that is refused, a check and a decision. Then
the rules vanish, and a sync fails. -/
def eventfulDay : List Incident :=
  [.batches [(["cats", "dogs"], alternatingTurns)], .operation (.syncOne "r/"),
    .operation (.lint catsRequest .null), .operation (.checkGate 7),
    .change { correctedEngine with db := { rules := .missing } }, .operation (.syncOne "cats")]

/-- Two syncs return and two fail, one of them for its name. All three that have begun ask for both
pages in vain. -/
theorem eventful_day_is_counted :
    correctedEngine.traffic.metrics.enabled = true ∧
      let after := (correctedEngine.undergoAll eventfulDay).2.traffic.metrics
      after.value (.synced true) = 2 ∧ after.value (.synced false) = 1 ∧
        after.value (.verdict .warn) = 1 ∧ after.value (.gate false) = 1 ∧
        after.value (.unavailable .aboutRules) = 3 ∧ after.value (.unavailable .wiki) = 3 := by
  obtain ⟨counted, -, -⟩ := correctedEngine.counters_account_for_calls rfl eventfulDay
  refine ⟨rfl, ?_⟩
  dsimp only
  simp only [counted]
  decide +kernel

/-- A sync whose name is refused fails and is counted nowhere. -/
theorem refused_sync_is_not_counted :
    ¬ ∀ (engine : Engine) (name : String), engine.traffic.metrics.enabled = true →
      (engine.syncOne name).2.traffic.metrics.value (.synced false) =
        engine.traffic.metrics.value (.synced false) +
          if (failureOf (engine.syncOne name).1).isSome then 1 else 0 := by
  intro law
  have counted := law correctedEngine "r/" rfl
  have failed : (failureOf (correctedEngine.syncOne "r/").1).isSome = true := by decide +kernel
  have unchanged : (correctedEngine.syncOne "r/").2.traffic.metrics.value (.synced false) =
      correctedEngine.traffic.metrics.value (.synced false) := by decide +kernel
  rw [unchanged, if_pos failed] at counted
  omega

end Engine

end Rulebook
