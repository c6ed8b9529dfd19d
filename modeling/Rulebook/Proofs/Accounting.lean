import Rulebook.Proofs.Reports
import Mathlib.Data.Rat.Floor

/-!
# The account of a sync of many communities

A sync of given communities always comes to a report, whatever fails on the way. Each community
has one coroutine that comes to one end, and the report tells of all of them in the order in
which they were given: who has a specification, and who has failed and why. There is a pause
between two batches and none after the last, so the pauses count the batches.

A report keeps one reason under each name. So the order of its failures is the order of the
communities only where no name is given twice, and that is supposed throughout. Names that are
written differently may still mean the same community; nothing here depends on that.

How the coroutines of a batch take turns decides what they come to, but not who is accounted for:
the laws hold under every schedule that lets them end.
-/

namespace Rulebook

/-- A move after others is made where they lead. -/
theorem Task.moves_append (engine : Engine) (name : String) (stage : Stage)
    (first second : List Move) :
    moves engine name stage (first ++ second) =
      moves (moves engine name stage first).2 name (moves engine name stage first).1 second := by
  induction first generalizing engine stage with
  | nil => rfl
  | cons choice rest inductionHypothesis => exact inductionHypothesis _ _

/-- A coroutine that nothing comes between is a sync of its community. -/
theorem Task.moves_sync (engine : Engine) (name : String) :
    moves engine name .ready (gatherMoves ++ [.finish]) =
      (.done (engine.syncOne name).1, (engine.syncOne name).2) := by
  obtain ⟨stage, gathered, awaits⟩ := moves_gather engine name
  rw [moves_append, gathered, moves_cons]
  unfold Engine.gatherItem at awaits ⊢
  cases accepted : Engine.syncKey name with
  | error failure =>
    rw [accepted] at awaits
    obtain rfl : stage = .done (.error failure) := awaits
    simp only [Engine.syncOne, accepted]
    rfl
  | ok key =>
    rw [accepted] at awaits
    obtain ⟨fetches, rules, wiki, rfl, rulesArrived, wikiArrived, pages⟩ := awaits
    simp only [move, rulesArrived, wikiArrived, ← pages, Engine.syncOne_eq_finish engine accepted]
    rfl

/-- A turn leaves every coroutine with its community. -/
theorem Crew.names_take (crew : Crew) (turn : Turn) :
    (crew.take turn).tasks.map (·.name) = crew.tasks.map (·.name) := by
  obtain ⟨engine, tasks⟩ := crew
  cases turn with
  | pass limiter clock pauses => rfl
  | task position choice =>
    unfold take
    dsimp only
    cases found : tasks[position]? with
    | none => rfl
    | some task =>
      obtain ⟨before, after, rfl, replaced⟩ := exists_split tasks position task
        ⟨task.name, (Task.move engine task.name choice task.stage).1⟩ found
      dsimp only
      rw [replaced]
      simp only [List.map_append, List.map_cons]

/-- A schedule leaves every coroutine with its community. -/
theorem Crew.names_run (crew : Crew) (schedule : List Turn) :
    (crew.run schedule).tasks.map (·.name) = crew.tasks.map (·.name) := by
  induction schedule generalizing crew with
  | nil => rfl
  | cons turn rest inductionHypothesis =>
    exact (inductionHypothesis (crew.take turn)).trans (crew.names_take turn)

/-- Batches have one coroutine for each community, in order. -/
theorem Engine.names_runBatches (engine : Engine) (plan : List (List String × List Turn)) :
    (engine.runBatches plan).1.map (·.name) = (plan.map Prod.fst).flatten := by
  induction plan generalizing engine with
  | nil => rfl
  | cons batch rest inductionHypothesis =>
    obtain ⟨names, schedule⟩ := batch
    have fresh : (Crew.fresh engine names).tasks.map (·.name) = names := by
      rw [Crew.fresh, List.map_map]
      exact List.map_id names
    rw [runBatches_cons, List.map_append, Crew.names_run, fresh, inductionHypothesis,
      List.map_cons, List.flatten_cons]

/-- Coroutines that are all done are all reported, in order. -/
theorem reportsOf_names (tasks : List Task) (done : ∀ task ∈ tasks, task.outcome?.isSome = true) :
    (reportsOf tasks).map (·.1) = tasks.map (·.name) := by
  unfold reportsOf
  induction tasks with
  | nil => rfl
  | cons task rest inductionHypothesis =>
    obtain ⟨here, others⟩ := List.forall_mem_cons.mp done
    obtain ⟨outcome, ended⟩ := Option.isSome_iff_exists.mp here
    rw [List.filterMap_cons, ended]
    exact congrArg (List.cons task.name) (inductionHypothesis others)

/-- The communities whose syncs have come to a specification. -/
def succeededNames (reports : List Report) : List String :=
  (reports.filter fun report => report.2.toOption.isSome).map (·.1)

/-- The failures among what became of several communities, each with its reason. -/
def failuresOf (reports : List Report) : List (String × String) :=
  reports.filterMap fun report => (reasonOf report.2).map (report.1, ·)

/-- The communities with a reason to have failed are those whose syncs failed. -/
theorem failuresOf_names (reports : List Report) :
    (failuresOf reports).map (·.1) = failedNames reports := by
  unfold failuresOf failedNames
  induction reports with
  | nil => rfl
  | cons report rest inductionHypothesis =>
    obtain ⟨name, outcome⟩ := report
    cases outcome with
    | ok spec => exact inductionHypothesis
    | error failure => exact congrArg (List.cons name) inductionHypothesis

/-- A report accounts for communities when it tells what became of each: how many there are, who
has come to a specification, and who has failed for which reason, in the order in which they were
given. -/
structure SyncReport.AccountsFor (report : SyncReport) (names : List String)
    (reports : List Report) : Prop where
  each : reports.map (·.1) = names
  total : report.total = names.length
  succeeded : report.succeeded = succeededNames reports
  failed : report.failed.map (·.1) = failedNames reports
  reasons : report.failed = failuresOf reports

namespace SyncReport

/-- A reason for a name without one comes last. -/
theorem putReason_of_fresh (name reason : String) (failed : List (String × String))
    (fresh : name ∉ failed.map (·.1)) :
    note.putReason name reason failed = failed ++ [(name, reason)] := by
  induction failed with
  | nil => rfl
  | cons entry rest inductionHypothesis =>
    rw [List.map_cons, List.mem_cons, not_or] at fresh
    have other : (entry.1 == name) = false := beq_false_of_ne (Ne.symm fresh.1)
    rw [note.putReason, other, inductionHypothesis fresh.2]
    rfl

/-- Pauses do not matter to what a report accounts for. -/
theorem AccountsFor.of_unpaused {report : SyncReport} {names : List String}
    {reports : List Report} (accounts : report.unpaused.AccountsFor names reports) :
    report.AccountsFor names reports := by
  obtain ⟨each, total, succeeded, failed, reasons⟩ := accounts
  exact ⟨each, total, succeeded, failed, reasons⟩

end SyncReport

/-- Notes change neither how many communities there are nor the pauses. -/
theorem noteAll_frame (report : SyncReport) (reports : List Report) :
    (noteAll report reports).total = report.total ∧
      (noteAll report reports).pauses = report.pauses := by
  induction reports generalizing report with
  | nil => exact ⟨rfl, rfl⟩
  | cons entry rest inductionHypothesis =>
    have here : (report.note entry.1 (reasonOf entry.2)).total = report.total ∧
        (report.note entry.1 (reasonOf entry.2)).pauses = report.pauses := by
      unfold SyncReport.note
      cases reasonOf entry.2 <;> exact ⟨rfl, rfl⟩
    obtain ⟨total, pauses⟩ := inductionHypothesis (report.note entry.1 (reasonOf entry.2))
    exact ⟨total.trans here.1, pauses.trans here.2⟩

/-- Of communities with different names, the failures are noted one after another. -/
theorem failed_noteAll (report : SyncReport) (reports : List Report)
    (distinct : (report.failed.map (·.1) ++ reports.map (·.1)).Nodup) :
    (noteAll report reports).failed = report.failed ++ failuresOf reports := by
  induction reports generalizing report with
  | nil => exact (List.append_nil _).symm
  | cons entry rest inductionHypothesis =>
    obtain ⟨name, outcome⟩ := entry
    -- Whatever is noted of the first community, its name is not among the others.
    have shifted : (report.failed.map (·.1) ++ [name] ++ rest.map (·.1)).Nodup := by
      rw [List.append_assoc]
      exact distinct
    have later := inductionHypothesis (report.note name (reasonOf outcome))
    cases outcome with
    | ok spec =>
      refine later (shifted.sublist ?_)
      exact (List.sublist_append_left _ _).append_right _
    | error failure =>
      have fresh : name ∉ report.failed.map (·.1) := fun known =>
        (List.nodup_append.mp distinct).2.2 name known name List.mem_cons_self rfl
      have noted : (report.note name (reasonOf (.error failure))).failed =
          report.failed ++ [(name, failure.message)] :=
        SyncReport.putReason_of_fresh name failure.message report.failed fresh
      rw [noted, List.map_append] at later
      refine (later shifted).trans ?_
      rw [List.append_assoc]
      rfl

/-- What is noted of communities with different names accounts for all of them. -/
theorem noteAll_accountsFor (names : List String) (reports : List Report)
    (each : reports.map (·.1) = names) (distinct : names.Nodup) :
    (noteAll { total := names.length } reports).AccountsFor names reports := by
  have failed : (noteAll { total := names.length } reports).failed = failuresOf reports :=
    failed_noteAll _ _ (by
      rw [each]
      exact distinct)
  exact {
    each
    total := (noteAll_frame _ _).1
    succeeded := succeeded_noteAll _ _
    failed := by rw [failed, failuresOf_names]
    reasons := failed }

namespace Engine

/-- Batches are as many as it takes to hold all communities, and no more. -/
theorem length_batches_bounds (size : Nat) (names : List String) (positive : 0 < size) :
    names.length ≤ (batches size names).length * size ∧
      (batches size names).length * size < names.length + size := by
  induction names using batches.induct size with
  | case1 => simpa [batches] using positive
  | case2 name rest inductionHypothesis =>
    rw [batches, List.length_cons, List.length_cons, Nat.succ_mul]
    rw [List.length_drop] at inductionHypothesis
    by_cases full : size - 1 ≤ rest.length
    · omega
    · -- The first batch is the last one.
      have nothing : rest.drop (size - 1) = [] := List.drop_eq_nil_of_le (by omega)
      rw [nothing, batches, List.length_nil, Nat.zero_mul]
      omega

/-- Batches are as many as the communities over the size, rounded up. -/
theorem length_batches (size : Nat) (names : List String) (positive : 0 < size) :
    ((batches size names).length : ℤ) = ⌈(names.length : ℚ) / size⌉ := by
  obtain ⟨enough, needed⟩ := length_batches_bounds size names positive
  have above : (0 : ℚ) < size := Nat.cast_pos.mpr positive
  have enough : (names.length : ℚ) ≤ (batches size names).length * size := by exact_mod_cast enough
  have needed : ((batches size names).length : ℚ) * size < names.length + size := by
    exact_mod_cast needed
  refine (Int.ceil_eq_iff.mpr ⟨?_, ?_⟩).symm
  · rw [lt_div_iff₀ above, sub_mul, one_mul]
    exact sub_lt_iff_lt_add.mpr needed
  · rw [div_le_iff₀ above]
    exact enough

/-- Only communities make a batch. -/
theorem batches_eq_nil_iff (size : Nat) (names : List String) :
    batches size names = [] ↔ names = [] := by
  cases names with
  | nil => simp [batches]
  | cons name rest => simp [batches]

/-- One less than the batches of a size, which are of one community where the size is not
positive. Without communities there is nothing to take one from. -/
theorem length_batches_pred (size : Int) (names : List String) :
    (((batches (max 1 size).toNat names).length - 1 : ℕ) : ℤ) =
      if names = [] then 0 else ⌈(names.length : ℚ) / (max 1 size : ℤ)⌉ - 1 := by
  have counted := length_batches (max 1 size).toNat names (by omega)
  have integral : (((max 1 size).toNat : ℕ) : ℚ) = ((max 1 size : ℤ) : ℚ) := by
    exact_mod_cast Int.toNat_of_nonneg (by omega)
  rw [integral] at counted
  rw [← counted]
  split
  · next nobody =>
    rw [(batches_eq_nil_iff _ _).mpr nobody]
    rfl
  · next somebody =>
    have positive : 0 < (batches (max 1 size).toNat names).length :=
      List.length_pos_iff.mpr fun nobody => somebody ((batches_eq_nil_iff _ _).mp nobody)
    omega

/-- There is a pause after every batch but the last. -/
theorem pauses_syncBatches (engine : Engine) (pause : Json) (report : SyncReport)
    (batches : List (List String)) :
    (engine.syncBatches pause report batches).1.pauses =
      report.pauses ++ List.replicate (batches.length - 1) pause := by
  induction batches generalizing engine report with
  | nil => exact (List.append_nil _).symm
  | cons names rest inductionHypothesis =>
    have batch : (engine.syncBatch report names).1.pauses = report.pauses := by
      unfold syncBatch
      dsimp only
      rw [finishBatch_eq]
      exact (noteAll_frame _ _).2
    cases rest with
    | nil =>
      rw [syncBatches, batch]
      exact (List.append_nil _).symm
    | cons second others =>
      rw [syncBatches]
      · generalize engine.syncBatch report names = first at batch ⊢
        refine (inductionHypothesis _ _).trans ?_
        rw [batch, List.append_assoc]
        rfl
      · exact List.cons_ne_nil _ _

/-- A sync of given communities accounts for every one of them.

It comes to a report, whatever the size of a batch and whatever fails. Its batches are of the
given size, or of one community where that is not positive. Each community has one coroutine, and
all of them end; the report is an account of their ends, and the engine is the one they leave.
There is one pause less than there are batches, and so none after the last.

The same account is due under every other schedule under which the coroutines end. A coroutine
that nothing comes between is a sync of its community by itself. -/
theorem syncAll_accounts_for_each (engine : Engine) (names : List String) (size : Int)
    (sized : engine.sync.batchSize.number = .ok (.int size)) (distinct : names.Nodup) :
    (∃ report plan,
      plan.map Prod.fst = batches (max 1 size).toNat names ∧
      engine.syncAll (some names) = (.ok report, (engine.runBatches plan).2) ∧
      (engine.runBatches plan).1.map (·.name) = names ∧
      (∀ task ∈ (engine.runBatches plan).1, task.outcome?.isSome = true) ∧
      report.AccountsFor names (reportsOf (engine.runBatches plan).1) ∧
      (∀ pause ∈ report.pauses, pause = engine.sync.batchDelay) ∧
      (report.pauses.length : ℤ) =
        if names = [] then 0 else ⌈(names.length : ℚ) / (max 1 size : ℤ)⌉ - 1) ∧
    (∀ plan, plan.map Prod.fst = batches (max 1 size).toNat names →
      (∀ task ∈ (engine.runBatches plan).1, task.outcome?.isSome = true) →
        (noteAll { total := names.length } (reportsOf (engine.runBatches plan).1)).AccountsFor names
          (reportsOf (engine.runBatches plan).1)) ∧
    (∀ start name, Task.moves start name .ready (gatherMoves ++ [.finish]) =
      (.done (start.syncOne name).1, (start.syncOne name).2)) := by
  have named (plan : List (List String × List Turn))
      (cut : plan.map Prod.fst = batches (max 1 size).toNat names) :
      (engine.runBatches plan).1.map (·.name) = names := by
    rw [names_runBatches, cut, batches_flatten]
  have account (plan : List (List String × List Turn))
      (cut : plan.map Prod.fst = batches (max 1 size).toNat names)
      (done : ∀ task ∈ (engine.runBatches plan).1, task.outcome?.isSome = true) :
      (noteAll { total := names.length } (reportsOf (engine.runBatches plan).1)).AccountsFor names
        (reportsOf (engine.runBatches plan).1) :=
    noteAll_accountsFor _ _ ((reportsOf_names _ done).trans (named plan cut)) distinct
  refine ⟨?_, account, Task.moves_sync⟩
  obtain ⟨plan, cut, left, done, reported⟩ := engine.exists_plan_syncBatches
    engine.sync.batchDelay { total := names.length } (batches (max 1 size).toNat names)
  have pauses := engine.pauses_syncBatches engine.sync.batchDelay { total := names.length }
    (batches (max 1 size).toNat names)
  have outcome : engine.syncAll (some names) =
      (.ok (engine.syncBatches engine.sync.batchDelay { total := names.length }
        (batches (max 1 size).toNat names)).1, (engine.runBatches plan).2) := by
    rw [left]
    simp only [syncAll, syncNames, batchSize, sized]
    rfl
  refine ⟨_, plan, cut, outcome, named plan cut, done, .of_unpaused ?_, ?_, ?_⟩
  · rw [reported]
    exact account plan cut done
  · intro pause member
    rw [pauses] at member
    exact List.eq_of_mem_replicate member
  · rw [pauses, List.nil_append, List.length_replicate]
    exact length_batches_pred size names

/-- An engine that is told to sync in batches of no communities. -/
def batchless : Engine := { correctedEngine with sync := { batchSize := .int 0 } }

/-- Three communities in batches of one have two pauses between them, and a name that is refused
is told with the reason. -/
theorem three_are_accounted_for :
    batchless.sync.batchSize.number = .ok (.int 0) ∧ ["cats", "r/", "dogs"].Nodup ∧
      ∃ report, (batchless.syncAll (some ["cats", "r/", "dogs"])).1 = .ok report ∧
        report.total = 3 ∧ report.succeeded = ["cats", "dogs"] ∧
        report.failed = [("r/", "Invalid community name: 'r/'")] ∧ report.pauses.length = 2 := by
  have sized : batchless.sync.batchSize.number = .ok (.int 0) := rfl
  have distinct : ["cats", "r/", "dogs"].Nodup := by decide
  obtain ⟨⟨report, plan, -, outcome, -, -, accounts, -, counted⟩, -⟩ :=
    batchless.syncAll_accounts_for_each ["cats", "r/", "dogs"] 0 sized distinct
  have evaluated : ((batchless.syncAll (some ["cats", "r/", "dogs"])).1.toOption.map
      fun report => (report.succeeded, report.failed)) =
        some (["cats", "dogs"], [("r/", "Invalid community name: 'r/'")]) := by decide +kernel
  rw [outcome] at evaluated
  obtain ⟨succeeded, failed⟩ := Prod.mk.inj (Option.some.inj evaluated)
  refine ⟨sized, distinct, report, congrArg Prod.fst outcome, accounts.total, succeeded, failed, ?_⟩
  norm_num at counted
  exact_mod_cast counted

end Engine

end Rulebook
