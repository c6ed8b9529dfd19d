import Rulebook.Proofs.Interleaving
import Rulebook.Sync.All

/-!
# Batches of syncs

Syncs of communities with different rows come to the same however they are run: one after
another, or in batches of any size whose coroutines take turns in any order. Each comes to what
it would have come to by itself at the start, and the database takes the rows of all. A batch as
it is run here, with all fetches first and the rest in order, is one such schedule.

Syncs of one and the same community may follow each other or interleave as well. What they
compile then depends on who is last, but the corrections of the curators stay.
-/

namespace Rulebook

open Calendar (Moment)

/-- What became of the sync of a community. -/
abbrev Report := String × Except Failure RuleSpec

/-- The communities whose syncs failed. -/
def failedNames (reports : List Report) : List String :=
  (reports.filter fun report => report.2.toOption.isNone).map (·.1)

namespace Engine

/-- Syncs communities one after another. -/
def syncEach (engine : Engine) : List String → List Report × Engine
  | [] => ([], engine)
  | name :: rest =>
    let (outcome, engine) := engine.syncOne name
    let (reports, engine) := engine.syncEach rest
    ((name, outcome) :: reports, engine)

/-- The rest is synced where the first sync leaves the engine. -/
theorem syncEach_cons (engine : Engine) (name : String) (rest : List String) :
    engine.syncEach (name :: rest) =
      ((name, (engine.syncOne name).1) :: ((engine.syncOne name).2.syncEach rest).1,
        ((engine.syncOne name).2.syncEach rest).2) := by
  rw [syncEach]

/-- What syncs of several communities come to, however they were run: each has the outcome that
it would have had by itself, the database has taken the rows of all, and neither the settings
nor the replies of other communities have changed. -/
structure ComesTo (before after : Engine) (names : List String) (reports : List Report) : Prop where
  settings : SameSettings after before
  db : after.db = names.foldl before.landOn before.db
  reports : reports = names.map fun name => (name, before.outcomeOn before.db name)
  others : ∀ key, (∀ name ∈ names, key ≠ Community.key name) → ∀ page,
    after.traffic.feed.repliesAt? key page = before.traffic.feed.repliesAt? key page

/-- No syncs come to nothing. -/
theorem comesTo_nil (engine : Engine) : ComesTo engine engine [] [] :=
  ⟨.refl engine, rfl, rfl, fun _ _ _ => rfl⟩

/-- A single sync comes to its own outcome. -/
theorem comesTo_syncOne (engine : Engine) (name : String) :
    ComesTo engine (engine.syncOne name).2 [name] [(name, (engine.syncOne name).1)] := by
  have kept : SameSettings (engine.syncOne name).2 engine ∧
      ∀ key, key ≠ Community.key name → ∀ page,
        (engine.syncOne name).2.traffic.feed.repliesAt? key page =
          engine.traffic.feed.repliesAt? key page := by
    cases accepted : syncKey name with
    | error failure =>
      simp only [syncOne, accepted]
      exact ⟨.refl engine, fun _ _ _ => trivial⟩
    | ok key =>
      obtain ⟨-, rfl⟩ := (syncKey_eq_ok_iff name key).mp accepted
      obtain ⟨metrics, db, after⟩ := (engine.gather (Community.key name)).2.finish_traffic
        (Community.key name) (engine.gather (Community.key name)).1
      have settings := engine.gather_settings (Community.key name)
      obtain ⟨-, -, others⟩ := engine.traffic.gather_others engine.sync (Community.key name)
      rw [syncOne_eq_finish engine accepted, after]
      exact ⟨⟨settings.sync, settings.now, settings.knows, settings.rate, settings.connected⟩,
        fun key different page => others key page different⟩
  refine ⟨kept.1, ?_, ?_, fun key foreign => kept.2 key (foreign name List.mem_cons_self)⟩
  · rw [List.foldl_cons, List.foldl_nil, landOn]
  · rw [List.map_cons, List.map_nil, outcomeOn]

/-- Engines with the same settings and the same replies to come for a community come to the same
with it on every database. -/
theorem landOn_congr (first second : Engine) (name : String) (same : SameSettings first second)
    (steady : second.traffic.rate.NeverBreak)
    (replies : ∀ page, first.traffic.feed.repliesAt? (Community.key name) page =
      second.traffic.feed.repliesAt? (Community.key name) page) (db : Database) :
    first.outcomeOn db name = second.outcomeOn db name ∧
      first.landOn db name = second.landOn db name := by
  have onDatabase : SameSettings { first with db } { second with db } :=
    ⟨same.sync, same.now, same.knows, same.rate, same.connected⟩
  obtain ⟨outcome, landing, left, right⟩ :=
    syncOne_alike onDatabase (gather_congr onDatabase steady replies) (.refl db (storeKey name))
  exact ⟨outcome, left.trans right.symm⟩

/-- Engines that come to the same with each of several communities come to the same with all. -/
theorem foldl_landOn_congr (first second : Engine) (names : List String) (db : Database)
    (alike : ∀ name ∈ names, ∀ db, first.landOn db name = second.landOn db name) :
    names.foldl first.landOn db = names.foldl second.landOn db := by
  induction names generalizing db with
  | nil => rw [List.foldl_nil, List.foldl_nil]
  | cons name rest inductionHypothesis =>
    rw [List.foldl_cons, List.foldl_cons, alike name List.mem_cons_self]
    exact inductionHypothesis _ fun other member => alike other (List.mem_cons_of_mem _ member)

/-- Syncs that follow others come to what all of them come to, if no two have the same rows. -/
theorem ComesTo.append {before between after : Engine} {names more : List String}
    {reports others : List Report} (first : ComesTo before between names reports)
    (second : ComesTo between after more others)
    (distinct : ((names ++ more).map storeKey).Nodup)
    (steady : before.traffic.rate.NeverBreak) :
    ComesTo before after (names ++ more) (reports ++ others) := by
  rw [List.map_append, List.nodup_append] at distinct
  have apart (name : String) (member : name ∈ more) (earlier : String) (listed : earlier ∈ names) :
      storeKey name ≠ storeKey earlier := by
    exact (distinct.2.2 _ (List.mem_map_of_mem listed) _ (List.mem_map_of_mem member)).symm
  have alike (name : String) (member : name ∈ more) (db : Database) :=
    landOn_congr between before name first.settings steady
      (first.others _ fun earlier listed same =>
        apart name member earlier listed (congrArg Community.key same)) db
  constructor
  · exact second.settings.trans first.settings
  · rw [second.db, first.db, List.foldl_append]
    exact foldl_landOn_congr between before more _ fun name member db => (alike name member db).2
  · rw [List.map_append, ← first.reports, second.reports]
    refine congrArg (reports ++ ·) (List.map_congr_left fun name member => ?_)
    have unseen := before.agreeAt_foldl_landOn names before.db (storeKey name) (apart name member)
    rw [(alike name member between.db).1, first.db, (before.landOn_alike _ _ name unseen).1]
  · intro key foreign page
    rw [second.others key (fun name member => foreign name (List.mem_append_right _ member)) page]
    exact first.others key (fun name member => foreign name (List.mem_append_left _ member)) page

/-- Syncs one after another come to what all of them come to. -/
theorem comesTo_syncEach (engine : Engine) (names : List String)
    (steady : engine.traffic.rate.NeverBreak) (distinct : (names.map storeKey).Nodup) :
    ComesTo engine (engine.syncEach names).2 names (engine.syncEach names).1 := by
  induction names generalizing engine with
  | nil => exact comesTo_nil engine
  | cons name rest inductionHypothesis =>
    have here := comesTo_syncOne engine name
    have later := inductionHypothesis (engine.syncOne name).2 (by
      rw [here.settings.rate]
      exact steady) (List.nodup_cons.mp distinct).2
    have all := here.append later distinct steady
    rw [syncEach_cons]
    simpa only [List.singleton_append] using all

end Engine

/-- What became of the coroutines that are done. -/
def reportsOf (tasks : List Task) : List Report :=
  tasks.filterMap fun task => task.outcome?.map (task.name, ·)

/-- Reports of more coroutines follow. -/
theorem reportsOf_append (tasks more : List Task) :
    reportsOf (tasks ++ more) = reportsOf tasks ++ reportsOf more := List.filterMap_append

/-- A faithful coroutine that is done has come to what its sync would have come to. -/
theorem Task.outcome?_of_faithful (start : Engine) (feed : Feed) (task : Task)
    (faithful : task.Faithful start feed) (done : task.outcome?.isSome = true) :
    task.outcome? = some (start.outcomeOn start.db task.name) := by
  obtain ⟨name, stage⟩ := task
  cases stage with
  | done outcome => exact congrArg some faithful
  | _ => cases done

/-- Faithful coroutines that are all done have come to what their syncs would have come to. -/
theorem reportsOf_faithful (start : Engine) (feed : Feed) (tasks : List Task)
    (faithful : ∀ task ∈ tasks, task.Faithful start feed)
    (done : ∀ task ∈ tasks, task.outcome?.isSome = true) :
    reportsOf tasks =
      (tasks.map (·.name)).map fun name => (name, start.outcomeOn start.db name) := by
  unfold reportsOf
  induction tasks with
  | nil => rfl
  | cons task rest inductionHypothesis =>
    obtain ⟨faithfulHere, faithfulLater⟩ := List.forall_mem_cons.mp faithful
    obtain ⟨doneHere, doneLater⟩ := List.forall_mem_cons.mp done
    have here := task.outcome?_of_faithful start feed faithfulHere doneHere
    rw [List.filterMap_cons, here, inductionHypothesis faithfulLater doneLater]
    simp only [Option.map_some, List.map_cons]

namespace Engine

/-- A batch whose coroutines are all done comes to what all of its syncs come to, under any
schedule. -/
theorem comesTo_run (engine : Engine) (names : List String) (schedule : List Turn)
    (steady : engine.traffic.rate.NeverBreak) (distinct : (names.map storeKey).Nodup)
    (done : ∀ task ∈ ((Crew.fresh engine names).run schedule).tasks,
      task.outcome?.isSome = true) :
    ComesTo engine ((Crew.fresh engine names).run schedule).engine names
      (reportsOf ((Crew.fresh engine names).run schedule).tasks) := by
  have sound := (Crew.sound_fresh engine names).run steady distinct schedule
  generalize (Crew.fresh engine names).run schedule = crew at done sound
  obtain ⟨settings, rfl, landed, faithful, others⟩ := sound
  have everybody : Crew.doneNames crew.tasks = crew.tasks.map (·.name) := by
    rw [Crew.doneNames, List.filter_eq_self.mpr done]
  rw [everybody] at landed
  exact ⟨settings, landed, reportsOf_faithful engine _ crew.tasks faithful done, others⟩

/-- Runs batches one after another, each under its own schedule. -/
def runBatches (engine : Engine) : List (List String × List Turn) → List Task × Engine
  | [] => ([], engine)
  | (names, schedule) :: rest =>
    let crew := (Crew.fresh engine names).run schedule
    let (tasks, engine) := crew.engine.runBatches rest
    (crew.tasks ++ tasks, engine)

/-- The rest is run where the first batch leaves the engine. -/
theorem runBatches_cons (engine : Engine) (names : List String) (schedule : List Turn)
    (rest : List (List String × List Turn)) :
    engine.runBatches ((names, schedule) :: rest) =
      (((Crew.fresh engine names).run schedule).tasks ++
          (((Crew.fresh engine names).run schedule).engine.runBatches rest).1,
        (((Crew.fresh engine names).run schedule).engine.runBatches rest).2) := by
  rw [runBatches]

/-- Batches whose coroutines are all done come to what all of their syncs come to. -/
theorem comesTo_runBatches (engine : Engine) (plan : List (List String × List Turn))
    (steady : engine.traffic.rate.NeverBreak)
    (distinct : ((plan.map Prod.fst).flatten.map storeKey).Nodup)
    (done : ∀ task ∈ (engine.runBatches plan).1, task.outcome?.isSome = true) :
    ComesTo engine (engine.runBatches plan).2 (plan.map Prod.fst).flatten
      (reportsOf (engine.runBatches plan).1) := by
  induction plan generalizing engine with
  | nil => exact comesTo_nil engine
  | cons batch rest inductionHypothesis =>
    obtain ⟨names, schedule⟩ := batch
    rw [runBatches_cons] at done ⊢
    rw [List.map_cons, List.flatten_cons] at distinct ⊢
    have parts := distinct
    rw [List.map_append, List.nodup_append] at parts
    have here := comesTo_run engine names schedule steady parts.1 fun task member =>
      done task (List.mem_append_left _ member)
    have later := inductionHypothesis ((Crew.fresh engine names).run schedule).engine
      (by rw [here.settings.rate]; exact steady) parts.2.1 fun task member =>
        done task (List.mem_append_right _ member)
    have all := here.append later distinct steady
    rw [reportsOf_append]
    exact all

/-- Batches of any size hold all communities in order. -/
theorem batches_flatten (size : Nat) (names : List String) :
    (batches size names).flatten = names := by
  induction names using batches.induct size with
  | case1 => simp [batches]
  | case2 name rest inductionHypothesis =>
    rw [batches, List.flatten_cons, inductionHypothesis, List.cons_append, List.take_append_drop]

end Engine

/-- A move goes on with the traffic, or it finishes with some pages and is done with the outcome
of that. -/
theorem Task.move_cases (engine : Engine) (name : String) (choice : Move) (stage : Stage) :
    (∃ traffic, (move engine name choice stage).2 = { engine with traffic }) ∨
      ∃ key gathered, move engine name choice stage =
        (.done (engine.finish key gathered).1, (engine.finish key gathered).2) := by
  unfold move
  split
  · split <;> exact Or.inl ⟨engine.traffic, rfl⟩
  · exact Or.inl ⟨_, rfl⟩
  · next key fetches =>
    split
    · next rules wiki _ _ => exact Or.inr ⟨key, .ofBodies rules wiki, rfl⟩
    · exact Or.inl ⟨engine.traffic, rfl⟩
  · exact Or.inl ⟨engine.traffic, rfl⟩

/-- A coroutine that is done makes no move. -/
theorem Task.move_of_done (engine : Engine) (name : String) (choice : Move)
    (outcome : Except Failure RuleSpec) :
    move engine name choice (.done outcome) = (.done outcome, engine) := by
  cases choice <;> rfl

/-- A coroutine among these is done with a fatal outcome. -/
def Crew.HasMet (Fatal : Except Failure RuleSpec → Prop) (tasks : List Task) : Prop :=
  ∃ task ∈ tasks, ∃ outcome, task.outcome? = some outcome ∧ Fatal outcome

/-- What holds of an engine, and goes on to hold whatever becomes of the traffic and whenever a
community is finished without a fatal outcome. -/
structure CrewInvariant (Keeps : Engine → Prop) (Fatal : Except Failure RuleSpec → Prop) :
    Prop where
  traffic : ∀ engine traffic, Keeps engine → Keeps { engine with traffic }
  finish : ∀ engine key gathered, ¬ Fatal (engine.finish key gathered).1 → Keeps engine →
    Keeps (engine.finish key gathered).2

namespace CrewInvariant

variable {Keeps : Engine → Prop} {Fatal : Except Failure RuleSpec → Prop}
  (invariant : CrewInvariant Keeps Fatal)

include invariant

/-- It holds after a turn, unless a coroutine has met a fatal outcome. One that is done stays done,
so this can be seen at the end. -/
theorem take (crew : Crew) (turn : Turn) (kept : Crew.HasMet Fatal crew.tasks ∨ Keeps crew.engine) :
    Crew.HasMet Fatal (crew.take turn).tasks ∨ Keeps (crew.take turn).engine := by
  obtain ⟨engine, tasks⟩ := crew
  cases turn with
  | pass limiter clock pauses => exact kept.imp id fun keeps => invariant.traffic _ _ keeps
  | task position choice =>
    unfold Crew.take
    dsimp only
    cases found : tasks[position]? with
    | none => exact kept
    | some task =>
      obtain ⟨before, after, rfl, replaced⟩ := Crew.exists_split tasks position task
        ⟨task.name, (Task.move engine task.name choice task.stage).1⟩ found
      dsimp only
      rw [replaced]
      rcases kept with ⟨lapsed, member, outcome, done, fatal⟩ | keeps
      · left
        rcases List.mem_append.mp member with left | right
        · exact ⟨lapsed, List.mem_append_left _ left, outcome, done, fatal⟩
        · rcases List.mem_cons.mp right with rfl | right
          · obtain ⟨name, stage⟩ := lapsed
            cases stage with
            | done result =>
              rw [Task.move_of_done]
              exact ⟨_, member, outcome, done, fatal⟩
            | _ => cases done
          · exact ⟨lapsed, List.mem_append_right _ (List.mem_cons_of_mem _ right), outcome, done,
              fatal⟩
      · rcases Task.move_cases engine task.name choice task.stage with
          ⟨traffic, same⟩ | ⟨key, gathered, made⟩
        · right
          rw [same]
          exact invariant.traffic engine traffic keeps
        · rw [made]
          by_cases fatal : Fatal (engine.finish key gathered).1
          · exact Or.inl ⟨⟨task.name, .done (engine.finish key gathered).1⟩,
              List.mem_append_right _ List.mem_cons_self, _, rfl, fatal⟩
          · exact Or.inr (invariant.finish engine key gathered fatal keeps)

/-- It holds after a schedule, unless a coroutine has met a fatal outcome. -/
theorem run (crew : Crew) (schedule : List Turn)
    (kept : Crew.HasMet Fatal crew.tasks ∨ Keeps crew.engine) :
    Crew.HasMet Fatal (crew.run schedule).tasks ∨ Keeps (crew.run schedule).engine := by
  induction schedule generalizing crew with
  | nil => exact kept
  | cons turn rest inductionHypothesis =>
    exact inductionHypothesis (crew.take turn) (invariant.take crew turn kept)

/-- It holds after batches whose coroutines have met no fatal outcome. -/
theorem runBatches (engine : Engine) (plan : List (List String × List Turn))
    (spared : ¬ Crew.HasMet Fatal (engine.runBatches plan).1) (keeps : Keeps engine) :
    Keeps (engine.runBatches plan).2 := by
  induction plan generalizing engine with
  | nil => exact keeps
  | cons batch rest inductionHypothesis =>
    obtain ⟨names, schedule⟩ := batch
    rw [Engine.runBatches_cons] at spared ⊢
    rcases invariant.run (Crew.fresh engine names) schedule (Or.inr keeps) with
      ⟨task, member, fatal⟩ | kept
    · exact absurd ⟨task, List.mem_append_left _ member, fatal⟩ spared
    · refine inductionHypothesis _ (fun ⟨task, member, fatal⟩ => spared ?_) kept
      exact ⟨task, List.mem_append_right _ member, fatal⟩

end CrewInvariant

namespace Engine

/-- No coroutine changes the corrections of any community, not even when several of them sync the
same one. -/
theorem crewInvariant_correctionsOf (other : String) (found : Option RuleSpec) :
    CrewInvariant (fun engine => engine.now.IsWritable ∧ ∃ after,
      engine.db.getRules other = .ok after ∧ correctionsOf after = correctionsOf found)
      fun _ => False where
  traffic _ _ kept := kept
  finish engine key gathered _ kept := by
    obtain ⟨shown, between, read, same⟩ := kept
    obtain ⟨metrics, db, left⟩ := engine.finish_traffic key gathered
    obtain ⟨after, reread, kept⟩ :=
      engine.correctionsOf_finish key gathered other between shown read
    exact ⟨by rw [left]; exact shown, after, reread, kept.trans same⟩

/-- No batches change the corrections of any community. -/
theorem correctionsOf_runBatches (engine : Engine) (plan : List (List String × List Turn))
    (other : String) (found : Option RuleSpec) (shown : engine.now.IsWritable)
    (read : engine.db.getRules other = .ok found) :
    ∃ after, (engine.runBatches plan).2.db.getRules other = .ok after ∧
      correctionsOf after = correctionsOf found := by
  have spared : ¬ Crew.HasMet (fun _ => False) (engine.runBatches plan).1 :=
    fun ⟨_, _, _, _, fatal⟩ => fatal
  exact ((crewInvariant_correctionsOf other found).runBatches engine plan spared
    ⟨shown, found, read, rfl⟩).2

/-- Batches of any size leave the database that syncs one after another leave, and their
coroutines have the same outcomes. -/
theorem runBatches_eq_syncEach (engine : Engine) (names : List String) (size : Nat)
    (plan : List (List String × List Turn)) (steady : engine.traffic.rate.NeverBreak)
    (distinct : (names.map storeKey).Nodup) (cut : plan.map Prod.fst = batches size names)
    (done : ∀ task ∈ (engine.runBatches plan).1, task.outcome?.isSome = true) :
    (engine.runBatches plan).2.db = (engine.syncEach names).2.db ∧
      reportsOf (engine.runBatches plan).1 = (engine.syncEach names).1 := by
  have all : (plan.map Prod.fst).flatten = names := by
    rw [cut, batches_flatten]
  have together := engine.comesTo_runBatches plan steady (by rw [all]; exact distinct) done
  have oneByOne := engine.comesTo_syncEach names steady distinct
  rw [all] at together
  exact ⟨together.db.trans oneByOne.db.symm, together.reports.trans oneByOne.reports.symm⟩

/-- The order of syncs does not matter, neither within batches nor across them, and it never
costs a correction.

Syncs of communities with different rows, in batches of any size and with the coroutines of a
batch taking turns in any order, leave the database that syncs one after another leave, and
every community has the same outcome, so the same ones fail. Both ways come to what each sync
would have come to by itself at the start. This needs settings that never break a turn off,
since whether a turn is reached with few calls left depends on the order.

Whatever communities are synced side by side, the same one several times or not, and however
far the coroutines have come, the corrections are those of the start: a coroutine reads them
and writes them back in one step. This needs a clock that can be shown, since a document tells
the time of its sync and is read again. -/
theorem syncs_in_any_order (engine : Engine) :
    (engine.traffic.rate.NeverBreak →
      ∀ (names : List String) (size : Nat) (plan : List (List String × List Turn)),
        (names.map storeKey).Nodup → plan.map Prod.fst = batches size names →
        (∀ task ∈ (engine.runBatches plan).1, task.outcome?.isSome = true) →
          (engine.runBatches plan).2.db = (engine.syncEach names).2.db ∧
          reportsOf (engine.runBatches plan).1 = (engine.syncEach names).1 ∧
          failedNames (reportsOf (engine.runBatches plan).1) =
            failedNames (engine.syncEach names).1) ∧
    (engine.now.IsWritable →
      ∀ (plan : List (List String × List Turn)) (name : String) (found : Option RuleSpec),
        engine.db.getRules name = .ok found →
          ∃ after, (engine.runBatches plan).2.db.getRules name = .ok after ∧
            correctionsOf after = correctionsOf found) := by
  constructor
  · intro steady names size plan distinct cut done
    obtain ⟨db, reports⟩ :=
      engine.runBatches_eq_syncEach names size plan steady distinct cut done
    exact ⟨db, reports, congrArg failedNames reports⟩
  · intro shown plan name found read
    exact engine.correctionsOf_runBatches plan name found shown read

/-- An engine with the default settings that has a correction on file. -/
def correctedEngine : Engine where
  db := { rules := { rows :=
    [⟨"cats", .obj [("overrides", .obj [("flairRequired", .bool true)])]⟩] } }
  traffic := { pace := ⟨1, 5, 2⟩ }
  now := offlineVisit.now

/-- Two coroutines that take turns at every step. The second one finishes first. -/
def alternatingTurns : List Turn :=
  [.task 0 .start, .task 1 .start, .task 1 (.fetch .aboutRules), .task 0 (.fetch .wiki),
    .task 1 (.fetch .wiki), .task 0 (.fetch .aboutRules), .task 0 (.fetch .wiki),
    .task 1 (.fetch .wiki), .task 1 (.fetch .aboutRules), .task 0 (.fetch .wiki),
    .task 0 (.fetch .aboutRules), .task 1 (.fetch .wiki), .task 1 (.fetch .aboutRules),
    .task 0 (.fetch .aboutRules), .task 1 .finish, .task 0 .finish]

/-- Two communities that take turns leave what they leave one after another, and two syncs of
one community that take turns leave its correction. -/
theorem alternating_syncs_agree :
    (correctedEngine.runBatches [(["cats", "dogs"], alternatingTurns)]).2.db =
        (correctedEngine.syncEach ["cats", "dogs"]).2.db ∧
      ∃ after, (correctedEngine.runBatches [(["cats", "cats"], alternatingTurns)]).2.db.getRules
          "cats" = .ok after ∧
        correctionsOf after = { flairRequired := some true } := by
  have steady : correctedEngine.traffic.rate.NeverBreak :=
    RateSettings.neverBreak_of_numbers _ (.int 5) (.int 2) _ rfl rfl rfl
  obtain ⟨agree, kept⟩ := correctedEngine.syncs_in_any_order
  have corrected : correctedEngine.db.getRules "cats" = .ok (some
      { rules := { flairRequired := true }, overrides := some { flairRequired := some true } }) := rfl
  refine ⟨?_, kept offlineVisit.shown [(["cats", "cats"], alternatingTurns)] "cats" _ corrected⟩
  refine (agree steady ["cats", "dogs"] 5 [(["cats", "dogs"], alternatingTurns)] ?_ ?_ ?_).1
  · decide +kernel
  · simp [batches]
  · decide +kernel

end Engine

end Rulebook
