import Rulebook.Proofs.Batches

/-!
# How batches are run

A batch as it is run fetches the pages of all its communities first, one community after the
other, and then finishes them in the same order. That is one schedule of its coroutines among
many: the laws about all schedules are laws about it, and there is a schedule under which all
coroutines get done.
-/

namespace Rulebook

/-- Several moves of one coroutine. -/
def Task.moves (engine : Engine) (name : String) (stage : Stage) : List Move → Stage × Engine
  | [] => (stage, engine)
  | choice :: rest =>
    moves (move engine name choice stage).2 name (move engine name choice stage).1 rest

namespace Crew

variable (engine : Engine) (before after : List Task) (name : String) (stage : Stage)

/-- A turn of the coroutine at a position changes that coroutine only. -/
theorem take_task (choice : Move) :
    take ⟨engine, before ++ ⟨name, stage⟩ :: after⟩ (.task before.length choice) =
      ⟨(Task.move engine name choice stage).2,
        before ++ ⟨name, (Task.move engine name choice stage).1⟩ :: after⟩ := by
  simp [take]

/-- Turns of one coroutine are its moves. -/
theorem run_moves (choices : List Move) :
    run ⟨engine, before ++ ⟨name, stage⟩ :: after⟩ (choices.map (.task before.length)) =
      ⟨(Task.moves engine name stage choices).2,
        before ++ ⟨name, (Task.moves engine name stage choices).1⟩ :: after⟩ := by
  induction choices generalizing engine stage with
  | nil => rfl
  | cons choice rest inductionHypothesis =>
    rw [List.map_cons, run, List.foldl_cons, take_task]
    exact inductionHypothesis _ _

/-- A schedule goes on where another one ends. -/
theorem run_append (crew : Crew) (first second : List Turn) :
    crew.run (first ++ second) = (crew.run first).run second := List.foldl_append

end Crew

/-- The moves that take a coroutine through its fetches, one page after the other. -/
def gatherMoves : List Move :=
  [.start, .fetch .aboutRules, .fetch .aboutRules, .fetch .aboutRules, .fetch .wiki, .fetch .wiki,
    .fetch .wiki]

/-- Fetches the pages of one community of a batch. -/
def Engine.gatherItem (engine : Engine) (name : String) : Engine.BatchItem × Engine :=
  match Engine.syncKey name with
  | .error failure => (.error failure, engine)
  | .ok key => (.ok (key, (engine.gather key).1), (engine.gather key).2)

/-- A batch is gathered one community after the other. -/
theorem Engine.gatherBatch_cons (engine : Engine) (name : String) (rest : List String) :
    engine.gatherBatch (name :: rest) =
      ((name, (engine.gatherItem name).1) :: ((engine.gatherItem name).2.gatherBatch rest).1,
        ((engine.gatherItem name).2.gatherBatch rest).2) := by
  rw [gatherBatch]
  unfold gatherItem
  cases syncKey name <;> rfl

/-- A coroutine that has its pages is at the point where a batch has gathered them. -/
def Stage.Awaits (item : Engine.BatchItem) (stage : Stage) : Prop :=
  match item with
  | .error failure => stage = .done (.error failure)
  | .ok (key, gathered) => ∃ fetches rules wiki, stage = .fetching key fetches ∧
      fetches .aboutRules = .arrived rules ∧ fetches .wiki = .arrived wiki ∧
      gathered = .ofBodies rules wiki

/-- The coroutines of a batch at the point where it has gathered for all of them. -/
inductive AwaitAll : List Task → List (String × Engine.BatchItem) → Prop where
  | nil : AwaitAll [] []
  | cons {name : String} {stage : Stage} {item : Engine.BatchItem} {tasks : List Task}
      {items : List (String × Engine.BatchItem)} (awaits : stage.Awaits item)
      (others : AwaitAll tasks items) : AwaitAll (⟨name, stage⟩ :: tasks) ((name, item) :: items)

namespace Task

/-- The rest of the moves is made where the first one leads. -/
theorem moves_cons (engine : Engine) (name : String) (stage : Stage) (choice : Move)
    (rest : List Move) :
    moves engine name stage (choice :: rest) =
      moves (move engine name choice stage).2 name (move engine name choice stage).1 rest := rfl

/-- A move with a page takes its fetch one step on. -/
theorem move_fetch (engine : Engine) (name key : String) (fetches : Fetches) (page : SourcePage) :
    move engine name (.fetch page) (.fetching key fetches) =
      (.fetching key (fetches.set page
          ((fetches page).advance engine.traffic engine.sync page key).1),
        { engine with
          traffic := ((fetches page).advance engine.traffic engine.sync page key).2 }) := rfl

/-- Three moves with a page take its fetch to the end. -/
theorem moves_fetch (engine : Engine) (name key : String) (fetches : Fetches) (page : SourcePage)
    (asked : fetches page = .asked) (rest : List Move) :
    moves engine name (.fetching key fetches) (.fetch page :: .fetch page :: .fetch page :: rest) =
      moves { engine with traffic := (engine.traffic.fetch engine.sync page key).2 } name
        (.fetching key (fetches.set page
          (.arrived (engine.traffic.fetch engine.sync page key).1))) rest := by
  have thrice := Fetch.advance_thrice engine.traffic engine.sync page key
  simp only [moves_cons, move_fetch, asked, Fetches.set_self, Fetches.set_set]
  dsimp only at thrice
  rw [thrice]

/-- The moves through the fetches leave a coroutine and the engine where a batch has gathered
for it. -/
theorem moves_gather (engine : Engine) (name : String) :
    ∃ stage, moves engine name .ready gatherMoves = (stage, (engine.gatherItem name).2) ∧
      stage.Awaits (engine.gatherItem name).1 := by
  unfold gatherMoves Engine.gatherItem
  cases accepted : Engine.syncKey name with
  | error failure =>
    refine ⟨.done (.error failure), ?_, rfl⟩
    simp only [moves_cons, move, accepted]
    rfl
  | ok key =>
    have started : move engine name .start .ready = (.fetching key fun _ => .asked, engine) := by
      simp only [move, accepted]
    have gathered := engine.traffic.gather_eq engine.sync key
    have left : (engine.gather key).2 =
        { engine with traffic := (engine.traffic.gather engine.sync key).2 } := rfl
    dsimp only
    rw [moves_cons, started, moves_fetch engine name key _ .aboutRules rfl,
      moves_fetch _ name key _ .wiki rfl, left, Engine.gather_gathered, gathered]
    exact ⟨_, rfl, _, _, _, rfl, rfl, rfl, rfl⟩

end Task

/-- The reason of a failure. -/
def reasonOf : Except Failure RuleSpec → Option String
  | .ok _ => none
  | .error failure => some failure.message

/-- Notes what became of several communities in a report. -/
def noteAll (report : SyncReport) (reports : List Report) : SyncReport :=
  reports.foldl (fun report entry => report.note entry.1 (reasonOf entry.2)) report

/-- More outcomes are noted after the others. -/
theorem noteAll_append (report : SyncReport) (first second : List Report) :
    noteAll report (first ++ second) = noteAll (noteAll report first) second :=
  List.foldl_append

/-- A report without the pauses between the batches. -/
def SyncReport.unpaused (report : SyncReport) : SyncReport := { report with pauses := [] }

/-- Pauses do not matter to what is noted. -/
theorem noteAll_unpaused (report : SyncReport) (reports : List Report) :
    (noteAll report reports).unpaused = noteAll report.unpaused reports := by
  induction reports generalizing report with
  | nil => rfl
  | cons entry rest inductionHypothesis =>
    have step : (report.note entry.1 (reasonOf entry.2)).unpaused =
        report.unpaused.note entry.1 (reasonOf entry.2) := by
      unfold SyncReport.note
      cases reasonOf entry.2 <;> rfl
    have rest := inductionHypothesis (report.note entry.1 (reasonOf entry.2))
    rw [step] at rest
    exact rest

/-- A coroutine finishes as a batch finishes its community. -/
theorem Task.move_finish (engine : Engine) (name : String) (stage : Stage)
    (item : Engine.BatchItem) (awaits : stage.Awaits item) :
    ∃ outcome, move engine name .finish stage = (.done outcome, (engine.finishItem item).2) ∧
      (engine.finishItem item).1 = reasonOf outcome := by
  cases item with
  | error failure =>
    obtain rfl : stage = .done (.error failure) := awaits
    exact ⟨.error failure, rfl, rfl⟩
  | ok gathering =>
    obtain ⟨key, gathered⟩ := gathering
    obtain ⟨fetches, rules, wiki, rfl, rulesArrived, wikiArrived, rfl⟩ := awaits
    simp only [move, rulesArrived, wikiArrived, Engine.finishItem]
    cases engine.finish key (.ofBodies rules wiki) with
    | mk outcome after => cases outcome <;> exact ⟨_, rfl, rfl⟩

namespace Crew

/-- A batch gathers as its coroutines do when they fetch in order. -/
theorem exists_gather_schedule (engine : Engine) (before : List Task) (names : List String) :
    ∃ schedule tasks,
      run ⟨engine, before ++ names.map (⟨·, .ready⟩)⟩ schedule =
          ⟨(engine.gatherBatch names).2, before ++ tasks⟩ ∧
        AwaitAll tasks (engine.gatherBatch names).1 := by
  induction names generalizing engine before with
  | nil => exact ⟨[], [], rfl, .nil⟩
  | cons name rest inductionHypothesis =>
    obtain ⟨stage, made, awaits⟩ := Task.moves_gather engine name
    have turns := run_moves engine before (rest.map (⟨·, .ready⟩)) name .ready gatherMoves
    have batch := engine.gatherBatch_cons name rest
    -- What is gathered for the first community does not matter for the others.
    generalize engine.gatherItem name = gathering at made awaits batch
    obtain ⟨item, next⟩ := gathering
    rw [made] at turns
    obtain ⟨schedule, tasks, later, others⟩ :=
      inductionHypothesis next (before ++ [⟨name, stage⟩])
    simp only [List.append_assoc, List.singleton_append] at later
    refine ⟨gatherMoves.map (.task before.length) ++ schedule, ⟨name, stage⟩ :: tasks, ?_, ?_⟩
    · rw [run_append, List.map_cons, turns, batch, later]
    · rw [batch]
      exact .cons awaits others

/-- A batch finishes as its coroutines do when they finish in order. -/
theorem exists_finish_schedule (engine : Engine) (report : SyncReport) (before tasks : List Task)
    (items : List (String × Engine.BatchItem)) (awaits : AwaitAll tasks items) :
    ∃ schedule after,
      run ⟨engine, before ++ tasks⟩ schedule =
          ⟨(engine.finishBatch report items).2, before ++ after⟩ ∧
        (∀ task ∈ after, task.outcome?.isSome = true) ∧
        (engine.finishBatch report items).1 = noteAll report (reportsOf after) := by
  induction awaits generalizing engine report before with
  | nil => exact ⟨[], [], rfl, fun _ member => absurd member List.not_mem_nil, rfl⟩
  | @cons name stage item tasks items awaits others inductionHypothesis =>
    obtain ⟨outcome, made, reason⟩ := Task.move_finish engine name stage item awaits
    have turn := take_task engine before tasks name stage .finish
    rw [made] at turn
    obtain ⟨schedule, after, later, done, reports⟩ := inductionHypothesis
      (engine.finishItem item).2 (report.note name (engine.finishItem item).1)
      (before ++ [⟨name, .done outcome⟩])
    simp only [List.append_assoc, List.singleton_append] at later
    refine ⟨.task before.length .finish :: schedule, ⟨name, .done outcome⟩ :: after, ?_, ?_, ?_⟩
    · rw [run, List.foldl_cons, turn]
      exact later
    · exact List.forall_mem_cons.mpr ⟨rfl, done⟩
    · rw [Engine.finishBatch, reports, reason]
      rfl

end Crew

namespace Engine

/-- A batch as it is run is one of the ways in which its coroutines can take turns. -/
theorem exists_schedule_syncBatch (engine : Engine) (report : SyncReport) (names : List String) :
    ∃ schedule, let crew := (Crew.fresh engine names).run schedule
      crew.engine = (engine.syncBatch report names).2 ∧
        (∀ task ∈ crew.tasks, task.outcome?.isSome = true) ∧
        (engine.syncBatch report names).1 = noteAll report (reportsOf crew.tasks) := by
  obtain ⟨gathering, tasks, gathered, awaits⟩ := Crew.exists_gather_schedule engine [] names
  obtain ⟨finishing, after, finished, done, reports⟩ := Crew.exists_finish_schedule
    (engine.gatherBatch names).2 report [] tasks (engine.gatherBatch names).1 awaits
  have fresh : Crew.fresh engine names = ⟨engine, [] ++ names.map (⟨·, .ready⟩)⟩ := rfl
  refine ⟨gathering ++ finishing, ?_⟩
  rw [Crew.run_append, fresh, gathered, finished]
  unfold syncBatch
  exact ⟨rfl, done, reports⟩

/-- The rest of the batches is synced where the first one leaves the engine, with the report of
the first batch and perhaps a pause in it. -/
theorem syncBatches_cons (engine : Engine) (pause : Json) (report : SyncReport)
    (names : List String) (rest : List (List String)) :
    ∃ next, next.unpaused = (engine.syncBatch report names).1.unpaused ∧
      (engine.syncBatches pause report (names :: rest)) =
        (engine.syncBatch report names).2.syncBatches pause next rest := by
  cases rest with
  | nil => exact ⟨(engine.syncBatch report names).1, rfl, rfl⟩
  | cons batch others =>
    exact ⟨{ (engine.syncBatch report names).1 with
      pauses := (engine.syncBatch report names).1.pauses ++ [pause] }, rfl, by rw [syncBatches]; simp⟩

/-- Batches as they are run are one of the ways in which their coroutines can take turns, and
what they report, except for the pauses, is what became of the coroutines. -/
theorem exists_plan_syncBatches (engine : Engine) (pause : Json) (report : SyncReport)
    (batches : List (List String)) :
    ∃ plan, plan.map Prod.fst = batches ∧
      (engine.runBatches plan).2 = (engine.syncBatches pause report batches).2 ∧
      (∀ task ∈ (engine.runBatches plan).1, task.outcome?.isSome = true) ∧
      (engine.syncBatches pause report batches).1.unpaused =
        noteAll report.unpaused (reportsOf (engine.runBatches plan).1) := by
  induction batches generalizing engine report with
  | nil => exact ⟨[], rfl, rfl, fun _ member => absurd member List.not_mem_nil, rfl⟩
  | cons names rest inductionHypothesis =>
    obtain ⟨schedule, left, done, reports⟩ := engine.exists_schedule_syncBatch report names
    obtain ⟨next, noted, later⟩ := engine.syncBatches_cons pause report names rest
    obtain ⟨plan, cut, after, others, reported⟩ :=
      inductionHypothesis (engine.syncBatch report names).2 next
    refine ⟨(names, schedule) :: plan, by rw [List.map_cons, cut], ?_, ?_, ?_⟩
    · rw [runBatches_cons, left, later]
      exact after
    · rw [runBatches_cons, left]
      intro task member
      rcases List.mem_append.mp member with here | there
      · exact done task here
      · exact others task there
    · rw [runBatches_cons, left, later, reported, reportsOf_append, noteAll_append, noted,
        ← noteAll_unpaused report, ← reports]

/-- A run over communities with different rows leaves the database that syncs one after another
leave, and reports the failures that these have. -/
theorem syncBatches_eq_syncEach (engine : Engine) (pause : Json) (report : SyncReport)
    (names : List String) (size : Nat) (steady : engine.traffic.rate.NeverBreak)
    (distinct : (names.map storeKey).Nodup) :
    (engine.syncBatches pause report (batches size names)).2.db = (engine.syncEach names).2.db ∧
      (engine.syncBatches pause report (batches size names)).1.failed =
        (noteAll report (engine.syncEach names).1).failed := by
  obtain ⟨plan, cut, left, done, reported⟩ :=
    engine.exists_plan_syncBatches pause report (batches size names)
  obtain ⟨db, reports⟩ := engine.runBatches_eq_syncEach names size plan steady distinct cut done
  rw [reports, ← noteAll_unpaused report] at reported
  have failed := congrArg SyncReport.failed reported
  exact ⟨(congrArg Engine.db left).symm.trans db, failed⟩

end Engine

end Rulebook
