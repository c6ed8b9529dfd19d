import Rulebook.Proofs.Schedules

/-!
# The course of a sync of many communities

The report of a sync of many communities keeps one reason for each name. Its course has more: what
became of each community in turn, with the whole failure, and the engine that this left. The
report is what is noted of the course.

What a sync does is to gather and to finish. So a property of the engine and of what has been
reported so far holds to the end when no community loses it by being gathered, refused or
finished. The induction over batches is made here once.
-/

namespace Rulebook

namespace Engine

/-- What becomes of one community of a batch. -/
def itemOutcome (engine : Engine) : BatchItem → Except Failure RuleSpec
  | .error failure => .error failure
  | .ok (key, gathered) => (engine.finish key gathered).1

/-- What becomes of the communities of a batch that are finished in order. -/
def finishReports (engine : Engine) : List (String × BatchItem) → List Report
  | [] => []
  | (name, item) :: rest =>
    (name, engine.itemOutcome item) :: (engine.finishItem item).2.finishReports rest

/-- The engine after the communities of a batch have been finished in order. -/
def finishAll (engine : Engine) (items : List (String × BatchItem)) : Engine :=
  items.foldl (fun engine entry => (engine.finishItem entry.2).2) engine

/-- What becomes of the communities of several batches. -/
def batchReports (engine : Engine) : List (List String) → List Report
  | [] => []
  | batch :: rest =>
    let gathered := engine.gatherBatch batch
    gathered.2.finishReports gathered.1 ++ (gathered.2.finishAll gathered.1).batchReports rest

/-- The engine after several batches. -/
def afterBatches (engine : Engine) : List (List String) → Engine
  | [] => engine
  | batch :: rest =>
    let gathered := engine.gatherBatch batch
    (gathered.2.finishAll gathered.1).afterBatches rest

/-- What becomes of the given communities, if a sync of them gets that far. -/
def namesReports (engine : Engine) (names : List String) : List Report :=
  match batchSize engine.sync with
  | .error _ => []
  | .ok size => engine.batchReports (batches size names)

/-- What becomes of the given communities, or of all registered ones. -/
def allReports (engine : Engine) : Option (List String) → List Report
  | some names => engine.namesReports names
  | none =>
    if engine.knowsCommunities then
      match engine.db.communityNames with
      | .ok names => engine.namesReports names
      | .error _ => []
    else []

end Engine

/-- The communities that are noted as synced are those whose syncs have come to a specification. -/
theorem succeeded_noteAll (report : SyncReport) (reports : List Report) :
    (noteAll report reports).succeeded =
      report.succeeded ++ (reports.filter fun entry => entry.2.toOption.isSome).map (·.1) := by
  induction reports generalizing report with
  | nil => exact (List.append_nil _).symm
  | cons entry rest inductionHypothesis =>
    obtain ⟨name, outcome⟩ := entry
    have later := inductionHypothesis (report.note name (reasonOf outcome))
    cases outcome with
    | error failure => exact later
    | ok spec =>
      refine later.trans ?_
      simp only [SyncReport.note, reasonOf, List.append_assoc, List.filter_cons, Except.toOption,
        Option.isSome_some, if_true, List.map_cons, List.singleton_append]

/-- A reason that is put for a name is there. -/
theorem SyncReport.mem_putReason (name reason : String) (failed : List (String × String)) :
    (name, reason) ∈ note.putReason name reason failed := by
  induction failed with
  | nil => exact List.mem_cons_self
  | cons entry rest inductionHypothesis =>
    unfold note.putReason
    split
    · exact List.mem_cons_self
    · exact List.mem_cons_of_mem _ inductionHypothesis

/-- A reason that is put for a name leaves the reasons for all others. -/
theorem SyncReport.mem_putReason_of_ne (name other reason told : String)
    (failed : List (String × String)) (different : other ≠ name) (known : (other, told) ∈ failed) :
    (other, told) ∈ note.putReason name reason failed := by
  induction failed with
  | nil => cases known
  | cons entry rest inductionHypothesis =>
    unfold note.putReason
    rcases List.mem_cons.mp known with rfl | later
    · rw [if_neg (by simpa using different)]
      exact List.mem_cons_self
    · split
      · exact List.mem_cons_of_mem _ later
      · exact List.mem_cons_of_mem _ (inductionHypothesis later)

/-- A name is noted as failed for a reason when that is what becomes of it each time. -/
theorem mem_failed_noteAll (report : SyncReport) (reports : List Report) (name reason : String)
    (told : ∀ entry ∈ reports, entry.1 = name → reasonOf entry.2 = some reason)
    (known : (name, reason) ∈ report.failed ∨ ∃ entry ∈ reports, entry.1 = name) :
    (name, reason) ∈ (noteAll report reports).failed := by
  induction reports generalizing report with
  | nil =>
    rcases known with already | ⟨entry, member, -⟩
    · exact already
    · cases member
  | cons entry rest inductionHypothesis =>
    obtain ⟨here, others⟩ := List.forall_mem_cons.mp told
    refine inductionHypothesis (report.note entry.1 (reasonOf entry.2)) others ?_
    by_cases about : entry.1 = name
    · rw [here about, about]
      exact Or.inl (SyncReport.mem_putReason name reason report.failed)
    · rcases known with already | ⟨later, member, named⟩
      · refine Or.inl ?_
        cases reasonOf entry.2 with
        | none => exact already
        | some other =>
          exact SyncReport.mem_putReason_of_ne entry.1 name other reason _ (Ne.symm about) already
      · rcases List.mem_cons.mp member with rfl | among
        · exact absurd named about
        · exact Or.inr ⟨later, among, named⟩

namespace Engine

variable (engine : Engine)

/-- What is told of a community is why its sync has failed, if it has. -/
theorem finishItem_reason (item : BatchItem) :
    (engine.finishItem item).1 = reasonOf (engine.itemOutcome item) := by
  unfold finishItem itemOutcome
  cases item with
  | error failure => rfl
  | ok gathering =>
    dsimp only
    cases engine.finish gathering.1 gathering.2 with
    | mk outcome after => cases outcome <;> rfl

/-- Of an accepted community nothing is left but what its finish leaves. -/
theorem finishItem_after (key : String) (gathered : Gathered) :
    (engine.finishItem (.ok (key, gathered))).2 = (engine.finish key gathered).2 := by
  unfold finishItem
  dsimp only
  cases engine.finish key gathered with
  | mk outcome after => cases outcome <;> rfl

/-- A batch that is finished notes its course. -/
theorem finishBatch_eq (report : SyncReport) (items : List (String × BatchItem)) :
    engine.finishBatch report items =
      (noteAll report (engine.finishReports items), engine.finishAll items) := by
  induction items generalizing engine report with
  | nil => rfl
  | cons entry rest inductionHypothesis =>
    obtain ⟨name, item⟩ := entry
    rw [finishBatch]
    dsimp only
    rw [inductionHypothesis, finishItem_reason]
    rfl

/-- Batches note their course, and their pauses besides. -/
theorem syncBatches_eq (pause : Json) (report : SyncReport) (batches : List (List String)) :
    (engine.syncBatches pause report batches).1.unpaused =
        noteAll report.unpaused (engine.batchReports batches) ∧
      (engine.syncBatches pause report batches).2 = engine.afterBatches batches := by
  induction batches generalizing engine report with
  | nil => exact ⟨rfl, rfl⟩
  | cons names rest inductionHypothesis =>
    have batch : engine.syncBatch report names =
        (noteAll report ((engine.gatherBatch names).2.finishReports (engine.gatherBatch names).1),
          (engine.gatherBatch names).2.finishAll (engine.gatherBatch names).1) :=
      (engine.gatherBatch names).2.finishBatch_eq report (engine.gatherBatch names).1
    simp only [batchReports, afterBatches]
    generalize (engine.gatherBatch names).2.finishReports (engine.gatherBatch names).1 = here at *
    generalize (engine.gatherBatch names).2.finishAll (engine.gatherBatch names).1 = next at *
    cases rest with
    | nil =>
      rw [syncBatches, batch]
      simp only [batchReports, afterBatches, List.append_nil]
      exact ⟨noteAll_unpaused report here, trivial⟩
    | cons second others =>
      rw [syncBatches, batch]
      · obtain ⟨noted, left⟩ := inductionHypothesis next
          { noteAll report here with pauses := (noteAll report here).pauses ++ [pause] }
        refine ⟨noted.trans ?_, left⟩
        rw [noteAll_append, ← noteAll_unpaused report here]
        rfl
      · exact List.cons_ne_nil _ _

/-- All communities of a batch are gathered, in order. -/
theorem gatherBatch_names (names : List String) :
    (engine.gatherBatch names).1.map (·.1) = names := by
  induction names generalizing engine with
  | nil => rfl
  | cons name rest inductionHypothesis =>
    unfold gatherBatch
    cases syncKey name with
    | error failure => exact congrArg (List.cons name) (inductionHypothesis engine)
    | ok key => exact congrArg (List.cons name) (inductionHypothesis _)

/-- All communities that were gathered are reported, in order. -/
theorem finishReports_names (items : List (String × BatchItem)) :
    (engine.finishReports items).map (·.1) = items.map (·.1) := by
  induction items generalizing engine with
  | nil => rfl
  | cons entry rest inductionHypothesis =>
    exact congrArg (List.cons entry.1) (inductionHypothesis _)

/-- All communities of all batches are reported, in order. -/
theorem batchReports_names (batches : List (List String)) :
    (engine.batchReports batches).map (·.1) = batches.flatten := by
  induction batches generalizing engine with
  | nil => rfl
  | cons batch rest inductionHypothesis =>
    rw [batchReports, List.map_append, finishReports_names, gatherBatch_names, inductionHypothesis,
      List.flatten_cons]

/-- A sync of the registered communities comes to an end and reports each of them. -/
theorem exists_report_of_names (size : Nat) (names : List String)
    (sized : batchSize engine.sync = .ok size) (listed : engine.knowsCommunities = true)
    (registered : engine.db.communityNames = .ok names) :
    (engine.allReports none).map (·.1) = names ∧ ∃ report,
      (engine.syncAll none).1 = .ok report ∧
        report.unpaused = noteAll { total := names.length } (engine.allReports none) := by
  obtain ⟨noted, -⟩ := engine.syncBatches_eq engine.sync.batchDelay { total := names.length }
    (batches size names)
  have course : engine.allReports none = engine.batchReports (batches size names) := by
    simp only [allReports, listed, if_true, registered, namesReports, sized]
  have outcome : (engine.syncAll none).1 = .ok (engine.syncBatches engine.sync.batchDelay
      { total := names.length } (batches size names)).1 := by
    simp only [syncAll, listed, if_true, registered, syncNames, sized]
  rw [course, outcome]
  exact ⟨by rw [batchReports_names, batches_flatten], _, rfl, noted⟩

end Engine

/-- A community of a batch after its fetches: its name is refused for the reason given, or what was
gathered under its key fits. -/
def ItemFits (Fits : String → Gathered → Prop) (entry : String × Engine.BatchItem) : Prop :=
  match entry.2 with
  | .error failure => Engine.syncKey entry.1 = .error failure
  | .ok (key, gathered) => Engine.syncKey entry.1 = .ok key ∧ Fits key gathered

/-- What holds of an engine and of what has been reported so far, and goes on to hold when a
community is gathered, refused or finished. What is gathered may be relied upon to fit. -/
structure SyncInvariant (Keeps : List Report → Engine → Prop) (Fits : String → Gathered → Prop) :
    Prop where
  gather : ∀ reports engine key, Keeps reports engine →
    Keeps reports (engine.gather key).2 ∧ Fits key (engine.gather key).1
  refuse : ∀ reports engine name failure, Engine.syncKey name = .error failure →
    Keeps reports engine → Keeps (reports ++ [(name, .error failure)]) engine
  finish : ∀ reports engine name key gathered, Engine.syncKey name = .ok key → Fits key gathered →
    Keeps reports engine →
      Keeps (reports ++ [(name, (engine.finish key gathered).1)]) (engine.finish key gathered).2

namespace SyncInvariant

variable {Keeps : List Report → Engine → Prop} {Fits : String → Gathered → Prop}
  (invariant : SyncInvariant Keeps Fits) (reports : List Report) (engine : Engine)

include invariant

/-- It holds after a sync of one community. -/
theorem syncOne (name : String) (keeps : Keeps reports engine) :
    Keeps (reports ++ [(name, (engine.syncOne name).1)]) (engine.syncOne name).2 := by
  unfold Engine.syncOne
  cases accepted : Engine.syncKey name with
  | error failure => exact invariant.refuse reports engine name failure accepted keeps
  | ok key =>
    obtain ⟨gathered, fits⟩ := invariant.gather reports engine key keeps
    exact invariant.finish reports _ name key _ accepted fits gathered

/-- It holds after a batch has been gathered, and everything that was gathered fits. -/
theorem gatherBatch (names : List String) (keeps : Keeps reports engine) :
    Keeps reports (engine.gatherBatch names).2 ∧
      ∀ entry ∈ (engine.gatherBatch names).1, ItemFits Fits entry := by
  induction names generalizing engine with
  | nil => exact ⟨keeps, fun _ member => absurd member List.not_mem_nil⟩
  | cons name rest inductionHypothesis =>
    unfold Engine.gatherBatch
    cases accepted : Engine.syncKey name with
    | error failure =>
      obtain ⟨kept, others⟩ := inductionHypothesis engine keeps
      exact ⟨kept, List.forall_mem_cons.mpr ⟨accepted, others⟩⟩
    | ok key =>
      obtain ⟨gathered, fits⟩ := invariant.gather reports engine key keeps
      obtain ⟨kept, others⟩ := inductionHypothesis (engine.gather key).2 gathered
      exact ⟨kept, List.forall_mem_cons.mpr ⟨⟨accepted, fits⟩, others⟩⟩

/-- It holds after a batch has been finished. -/
theorem finishAll (items : List (String × Engine.BatchItem))
    (fit : ∀ entry ∈ items, ItemFits Fits entry) (keeps : Keeps reports engine) :
    Keeps (reports ++ engine.finishReports items) (engine.finishAll items) := by
  induction items generalizing engine reports with
  | nil =>
    rw [Engine.finishReports, List.append_nil]
    exact keeps
  | cons entry rest inductionHypothesis =>
    obtain ⟨name, item⟩ := entry
    obtain ⟨fits, others⟩ := List.forall_mem_cons.mp fit
    have here : Keeps (reports ++ [(name, engine.itemOutcome item)]) (engine.finishItem item).2 := by
      cases item with
      | error failure => exact invariant.refuse reports engine name failure fits keeps
      | ok gathering =>
        obtain ⟨key, gathered⟩ := gathering
        rw [Engine.finishItem_after]
        exact invariant.finish reports engine name key gathered fits.1 fits.2 keeps
    have later := inductionHypothesis _ _ others here
    rw [List.append_assoc, List.singleton_append] at later
    exact later

/-- It holds after several batches. -/
theorem afterBatches (batches : List (List String)) (keeps : Keeps reports engine) :
    Keeps (reports ++ engine.batchReports batches) (engine.afterBatches batches) := by
  induction batches generalizing engine reports with
  | nil =>
    rw [Engine.batchReports, List.append_nil]
    exact keeps
  | cons batch rest inductionHypothesis =>
    obtain ⟨gathered, fit⟩ := invariant.gatherBatch reports engine batch keeps
    have finished := invariant.finishAll reports _ _ fit gathered
    have later := inductionHypothesis _ _ finished
    rw [List.append_assoc] at later
    exact later

/-- It holds after a sync of given communities. -/
theorem syncNames (names : List String) (keeps : Keeps reports engine) :
    Keeps (reports ++ engine.namesReports names) (engine.syncNames names).2 := by
  unfold Engine.syncNames Engine.namesReports
  cases Engine.batchSize engine.sync with
  | error fault =>
    rw [List.append_nil]
    exact keeps
  | ok size =>
    obtain ⟨-, left⟩ := engine.syncBatches_eq engine.sync.batchDelay { total := names.length }
      (Engine.batches size names)
    dsimp only
    rw [left]
    exact invariant.afterBatches reports engine _ keeps

/-- It holds after a sync of many communities. -/
theorem syncAll (names : Option (List String)) (keeps : Keeps reports engine) :
    Keeps (reports ++ engine.allReports names) (engine.syncAll names).2 := by
  unfold Engine.syncAll Engine.allReports
  cases names with
  | some names => exact invariant.syncNames reports engine names keeps
  | none =>
    dsimp only
    split
    · cases engine.db.communityNames with
      | ok names => exact invariant.syncNames reports engine names keeps
      | error failure =>
        rw [List.append_nil]
        exact keeps
    · rw [List.append_nil]
      exact keeps

end SyncInvariant

end Rulebook
