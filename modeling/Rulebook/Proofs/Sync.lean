import Rulebook.Proofs.Documents
import Rulebook.Proofs.Store
import Rulebook.Sync.One

/-!
# What a sync leaves on file

A sync replaces one rule document or none. The document it writes holds the automated rules
as they were compiled, the corrections as they were found, and the rules that result from
both, so the corrections survive every sync and the automated rules never depend on them.
Everything that a sync reads of the rules is the row of its own key, so the laws of a single
sync extend to runs of them in any order and under any circumstances.
-/

namespace Rulebook

open Calendar (Moment)

/-- Applying corrections twice is applying them once. -/
@[simp] theorem Override.apply_apply (o : Override) (rules : Rules) :
    o.apply (o.apply rules) = o.apply rules := by
  have getD_getD {α : Type} (value : Option α) (default : α) :
      value.getD (value.getD default) = value.getD default := by cases value <;> rfl
  have or_or {α : Type} (value other : Option α) : value.or (value.or other) = value.or other := by
    cases value <;> simp
  simp only [apply, getD_getD, or_or]

/-- What a sync stores has its corrections applied. -/
theorem syncedSpec_reapply (automated : Rules) (overrides : Option Override) (fetchedAt : Moment)
    (aboutUrl wikiUrl : String) :
    (syncedSpec automated overrides fetchedAt aboutUrl wikiUrl).reapply =
      syncedSpec automated overrides fetchedAt aboutUrl wikiUrl := by
  simp [syncedSpec, RuleSpec.reapply, RuleSpec.merge]

/-- What a sync stores can be shown when the clock can. -/
theorem syncedSpec_isWritable (automated : Rules) (overrides : Option Override)
    (fetchedAt : Moment) (aboutUrl wikiUrl : String) (shown : fetchedAt.IsWritable) :
    (syncedSpec automated overrides fetchedAt aboutUrl wikiUrl).IsWritable := by
  intro source stamped known stamp
  obtain rfl := Option.some.inj known
  obtain rfl := Option.some.inj stamp
  exact shown

/-- What a sync stores reads back, if the clock can be shown. -/
theorem syncedSpec_read (automated : Rules) (overrides : Option Override) (fetchedAt : Moment)
    (aboutUrl wikiUrl : String) (shown : fetchedAt.IsWritable) :
    RuleSpec.read (syncedSpec automated overrides fetchedAt aboutUrl wikiUrl).document =
      .ok (syncedSpec automated overrides fetchedAt aboutUrl wikiUrl) := by
  rw [RuleSpec.read_document _ (syncedSpec_isWritable _ _ _ _ _ shown), syncedSpec_reapply]

namespace Engine

variable (engine : Engine) (name key : String) (gathered : Gathered)

/-- The specification that a sync puts on file, if it gets that far. -/
def stored? : Option RuleSpec :=
  match engine.prepare key gathered with
  | .error _ => none
  | .ok spec =>
    match engine.db.putRules key spec with
    | .error _ => none
    | .ok _ => some spec

/-- The specification that a sync of a community puts on file, if it gets that far. -/
def synced? : Option RuleSpec :=
  match syncKey name with
  | .error _ => none
  | .ok key => (engine.gather key).2.stored? key (engine.gather key).1

/-- The rule rows after a specification was put on file under a key. -/
def rowsWith (rows : List RuleRow) (key : String) : Option RuleSpec → List RuleRow
  | some spec => Table.putRow RuleRow.community ⟨key, spec.document⟩ rows
  | none => rows

/-- A specification is prepared from the compiled rules and the corrections on file. -/
theorem prepare_eq_ok_iff (spec : RuleSpec) :
    engine.prepare key gathered = .ok spec ↔
      ∃ automated existing aboutUrl wikiUrl, gathered.compile = .ok automated ∧
        engine.db.getRules key = .ok existing ∧
        engine.sync.url .aboutRules key = .ok aboutUrl ∧ engine.sync.url .wiki key = .ok wikiUrl ∧
        syncedSpec automated (existing.bind (·.overrides)) engine.now aboutUrl wikiUrl = spec := by
  have faultless {α : Type} (result : Except Fault α) (value : α) :
      Failure.ofFault result = .ok value ↔ result = .ok value := by
    cases result <;> simp [Failure.ofFault]
  simp only [prepare, bind_eq_ok_iff, faultless, pure, Except.pure, Except.ok.injEq]
  constructor
  · rintro ⟨automated, compiled, existing, found, aboutUrl, about, wikiUrl, wiki, rfl⟩
    exact ⟨automated, existing, aboutUrl, wikiUrl, compiled, found, about, wiki, rfl⟩
  · rintro ⟨automated, existing, aboutUrl, wikiUrl, compiled, found, about, wiki, rfl⟩
    exact ⟨automated, compiled, existing, found, aboutUrl, about, wikiUrl, wiki, rfl⟩

/-- Leaving an overview changes the communities only. -/
theorem leaveOverview_frame (spec : RuleSpec) :
    ∃ communities, (engine.leaveOverview key spec).2 =
      { engine with db := { engine.db with communities } } := by
  unfold leaveOverview
  split
  · split
    · next db known updated =>
      obtain ⟨communities, rfl⟩ := Database.updateCommunity_frame _ _ _ _ _ _ updated
      exact ⟨communities, rfl⟩
    · exact ⟨engine.db.communities, rfl⟩
  · exact ⟨engine.db.communities, rfl⟩

/-- Storing replaces the row of the specification that is put on file, or none, and may
leave an overview with the communities. Nothing else changes. -/
theorem store_frame :
    ∃ communities, (engine.store key gathered).2 =
      { engine with db := { engine.db with
          rules := { engine.db.rules with
            rows := rowsWith engine.db.rules.rows (Community.key key)
              (engine.stored? key gathered) }
          communities } } := by
  unfold store stored?
  cases engine.prepare key gathered with
  | error failure => exact ⟨engine.db.communities, rfl⟩
  | ok spec =>
    cases written : engine.db.putRules key spec with
    | error failure => exact ⟨engine.db.communities, by simp [written, rowsWith]⟩
    | ok db =>
      obtain ⟨communities, left⟩ := ({ engine with db } : Engine).leaveOverview_frame key spec
      obtain ⟨-, -, -, -, rfl⟩ := (Database.putRules_eq_ok_iff _ _ _ _).mp written
      refine ⟨communities, ?_⟩
      simp only [written]
      split <;> next outcome => rw [outcome] at left; exact left

/-- Counting the outcome changes the traffic only. -/
theorem finish_frame :
    ∃ traffic, (engine.finish key gathered).2 =
      { (engine.store key gathered).2 with traffic } := by
  unfold finish
  split <;> next outcome => exact ⟨_, by rw [outcome]; rfl⟩

/-- A community is synced under the key of its name, unless that is empty. -/
theorem syncKey_eq_ok_iff :
    syncKey name = .ok key ↔ Community.key name ≠ "" ∧ Community.key name = key := by
  by_cases empty : Community.key name = "" <;> simp [syncKey, empty]

/-- The one reason to refuse a community is that its name has no key. -/
theorem syncKey_eq_error_iff (failure : Failure) :
    syncKey name = .error failure ↔
      Community.key name = "" ∧ failure = .invalidName (Text.quoted name) := by
  rw [eq_comm (a := failure)]
  by_cases empty : Community.key name = "" <;> simp [syncKey, empty]

/-- A sync replaces the row of the specification that is put on file, or none, may leave an
overview with the communities, and has its traffic. Nothing else changes. -/
theorem syncOne_frame :
    ∃ traffic communities, (engine.syncOne name).2 =
      { engine with
        traffic
        db := { engine.db with
          rules := { engine.db.rules with
            rows := rowsWith engine.db.rules.rows (Community.key (Community.key name))
              (engine.synced? name) }
          communities } } := by
  cases refused : syncKey name with
  | error failure =>
    exact ⟨engine.traffic, engine.db.communities, by simp [syncOne, synced?, refused, rowsWith]⟩
  | ok key =>
    obtain ⟨-, rfl⟩ := (syncKey_eq_ok_iff name key).mp refused
    obtain ⟨traffic, counted⟩ := (engine.gather (Community.key name)).2.finish_frame
      (Community.key name) (engine.gather (Community.key name)).1
    obtain ⟨communities, stored⟩ := (engine.gather (Community.key name)).2.store_frame
      (Community.key name) (engine.gather (Community.key name)).1
    refine ⟨traffic, communities, ?_⟩
    simp only [syncOne, synced?, refused, counted, stored]
    rfl

/-- What finishing changes of the rules. -/
theorem finish_rules :
    (engine.finish key gathered).2.db.connected = engine.db.connected ∧
      (engine.finish key gathered).2.db.rules = { engine.db.rules with
        rows := rowsWith engine.db.rules.rows (Community.key key)
          (engine.stored? key gathered) } := by
  obtain ⟨traffic, counted⟩ := engine.finish_frame key gathered
  obtain ⟨communities, stored⟩ := engine.store_frame key gathered
  rw [stored] at counted
  exact ⟨by rw [counted], by rw [counted]⟩

/-- What a sync changes of the rules. -/
theorem syncOne_rules :
    (engine.syncOne name).2.db.connected = engine.db.connected ∧
      (engine.syncOne name).2.db.rules = { engine.db.rules with
        rows := rowsWith engine.db.rules.rows (Community.key (Community.key name))
          (engine.synced? name) } := by
  obtain ⟨traffic, communities, same⟩ := engine.syncOne_frame name
  exact ⟨by rw [same], by rw [same]⟩

/-- A sync touches no settings. -/
theorem syncOne_sync : (engine.syncOne name).2.sync = engine.sync := by
  obtain ⟨traffic, communities, same⟩ := engine.syncOne_frame name
  rw [same]

/-- A specification is put on file when it was prepared and the database takes it. -/
theorem stored?_eq_some_iff (spec : RuleSpec) :
    engine.stored? key gathered = some spec ↔
      engine.prepare key gathered = .ok spec ∧ ∃ db, engine.db.putRules key spec = .ok db := by
  unfold stored?
  cases prepared : engine.prepare key gathered with
  | error failure => simp
  | ok ready =>
    cases written : engine.db.putRules key ready with
    | error failure =>
      simp only [written, Except.ok.injEq, reduceCtorEq, false_iff]
      rintro ⟨rfl, db, accepted⟩
      rw [written] at accepted
      cases accepted
    | ok db =>
      simp only [written, Option.some.injEq, Except.ok.injEq]
      constructor
      · rintro rfl
        exact ⟨rfl, db, written⟩
      · exact And.left

/-- A sync puts a specification on file when the name has a key, the specification was prepared
from what was gathered, and the database takes it. -/
theorem synced?_eq_some_iff (spec : RuleSpec) :
    engine.synced? name = some spec ↔
      Community.key name ≠ "" ∧
        (engine.gather (Community.key name)).2.prepare (Community.key name)
          (engine.gather (Community.key name)).1 = .ok spec ∧
        ∃ db, engine.db.putRules (Community.key name) spec = .ok db := by
  have stored := (engine.gather (Community.key name)).2.stored?_eq_some_iff (Community.key name)
    (engine.gather (Community.key name)).1 spec
  by_cases empty : Community.key name = ""
  · simp [synced?, syncKey, empty]
  · simp only [synced?, syncKey, empty, beq_iff_eq, if_false, ne_eq, not_false_eq_true, true_and]
    exact stored

/-- A sync puts the compiled rules on file under the corrections it finds there. -/
theorem exists_of_synced? (spec : RuleSpec) (synced : engine.synced? name = some spec) :
    ∃ automated existing aboutUrl wikiUrl,
      (engine.gather (Community.key name)).1.compile = .ok automated ∧
        engine.db.getRules (Community.key name) = .ok existing ∧
        syncedSpec automated (existing.bind (·.overrides)) engine.now aboutUrl wikiUrl = spec := by
  obtain ⟨-, prepared, -⟩ := (engine.synced?_eq_some_iff name spec).mp synced
  obtain ⟨automated, existing, aboutUrl, wikiUrl, compiled, found, -, -, same⟩ :=
    (prepare_eq_ok_iff _ _ _ _).mp prepared
  exact ⟨automated, existing, aboutUrl, wikiUrl, compiled, found, same⟩

/-- A sync that has stored its specification returns it, when an overview can be left. -/
theorem store_eq_ok (spec : RuleSpec) (db : Database)
    (prepared : engine.prepare key gathered = .ok spec)
    (written : engine.db.putRules key spec = .ok db)
    (left : ∃ result, db.updateCommunity key spec.overview.document (some engine.now) =
      .ok result) : (engine.store key gathered).1 = .ok spec := by
  obtain ⟨⟨after, known⟩, updated⟩ := left
  cases listed : engine.knowsCommunities <;> simp [store, prepared, written, leaveOverview, listed,
    updated]

end Engine

/-- The corrections among what was found on file: none, if nothing was. -/
def correctionsOf (found : Option RuleSpec) : Override := (found.bind (·.overrides)).getD {}

namespace Engine

variable (engine : Engine) (name : String)

/-- Finishing without putting anything on file leaves what is read. -/
theorem getRules_of_unstored (key : String) (gathered : Gathered) (other : String)
    (found : Option RuleSpec) (stored : engine.stored? key gathered = none)
    (read : engine.db.getRules other = .ok found) :
    (engine.finish key gathered).2.db.getRules other = .ok found := by
  obtain ⟨opened, present⟩ := Database.open_of_getRules _ other found read
  obtain ⟨connected, rules⟩ := engine.finish_rules key gathered
  rw [stored] at rules
  rw [Database.getRules_eq _ other opened present] at read
  rw [Database.getRules_eq _ other (connected.trans opened) (by rw [rules]; exact present), rules]
  exact read

/-- A specification that is put on file is read back. -/
theorem getRules_of_stored (key : String) (gathered : Gathered) (other : String) (spec : RuleSpec)
    (writable : engine.now.IsWritable) (stored : engine.stored? key gathered = some spec)
    (same : Community.key other = Community.key key) :
    (engine.finish key gathered).2.db.getRules other = .ok (some spec) := by
  obtain ⟨connected, rules⟩ := engine.finish_rules key gathered
  obtain ⟨prepared, -⟩ := (engine.stored?_eq_some_iff key gathered spec).mp stored
  obtain ⟨automated, existing, aboutUrl, wikiUrl, -, read, -, -, rfl⟩ :=
    (engine.prepare_eq_ok_iff key gathered spec).mp prepared
  obtain ⟨opened, present⟩ := Database.open_of_getRules _ _ existing read
  rw [stored, ← same] at rules
  rw [Database.getRules_of_put _ other _ engine.db.rules.rows (connected.trans opened)
    (by rw [rules]; exact present) (by rw [rules]; rfl), syncedSpec_read _ _ _ _ _ writable]
  rfl

/-- Finishing with any pages leaves the corrections of every community. -/
theorem correctionsOf_finish (key : String) (gathered : Gathered) (other : String)
    (found : Option RuleSpec) (writable : engine.now.IsWritable)
    (read : engine.db.getRules other = .ok found) :
    ∃ after, (engine.finish key gathered).2.db.getRules other = .ok after ∧
      correctionsOf after = correctionsOf found := by
  cases stored : engine.stored? key gathered with
  | none => exact ⟨found, engine.getRules_of_unstored key gathered other found stored read, rfl⟩
  | some spec =>
    by_cases same : Community.key other = Community.key key
    · refine ⟨some spec, engine.getRules_of_stored key gathered other spec writable stored same, ?_⟩
      obtain ⟨prepared, -⟩ := (engine.stored?_eq_some_iff key gathered spec).mp stored
      obtain ⟨automated, existing, aboutUrl, wikiUrl, -, here, -, -, rfl⟩ :=
        (engine.prepare_eq_ok_iff key gathered spec).mp prepared
      rw [← Database.getRules_of_key_eq _ _ _ same, read] at here
      obtain rfl := Except.ok.inj here
      rfl
    · obtain ⟨connected, rules⟩ := engine.finish_rules key gathered
      rw [stored] at rules
      exact ⟨found, Database.getRules_of_put_ne engine.db _ other _ _ found connected rules same
        read, rfl⟩

/-- A sync that puts a specification on file has it read back. -/
theorem getRules_of_synced (other : String) (spec : RuleSpec) (writable : engine.now.IsWritable)
    (synced : engine.synced? name = some spec)
    (same : Community.key other = Community.key (Community.key name)) :
    (engine.syncOne name).2.db.getRules other = .ok (some spec) := by
  unfold synced? at synced
  unfold syncOne
  cases accepted : syncKey name with
  | error failure =>
    rw [accepted] at synced
    cases synced
  | ok key =>
    obtain ⟨-, rfl⟩ := (syncKey_eq_ok_iff name key).mp accepted
    rw [accepted] at synced
    exact (engine.gather (Community.key name)).2.getRules_of_stored _ _ other spec writable synced
      same

/-- No sync changes the corrections of any community. -/
theorem correctionsOf_syncOne (other : String) (found : Option RuleSpec)
    (writable : engine.now.IsWritable) (read : engine.db.getRules other = .ok found) :
    ∃ after, (engine.syncOne name).2.db.getRules other = .ok after ∧
      correctionsOf after = correctionsOf found := by
  unfold syncOne
  cases syncKey name with
  | error failure => exact ⟨found, read, rfl⟩
  | ok key =>
    exact (engine.gather key).2.correctionsOf_finish key _ other found writable read

end Engine

/-- The specification as of another time. -/
def RuleSpec.stamped (spec : RuleSpec) (fetchedAt : Moment) : RuleSpec :=
  { spec with source := spec.source.map fun source => { source with fetchedAt := some fetchedAt } }

/-- What a sync stores depends on the time only by showing it. -/
theorem syncedSpec_stamped (automated : Rules) (overrides : Option Override)
    (earlier later : Moment) (aboutUrl wikiUrl : String) :
    (syncedSpec automated overrides earlier aboutUrl wikiUrl).stamped later =
      syncedSpec automated overrides later aboutUrl wikiUrl := rfl

/-- What a sync of a community leaves on file: the specification reads back as it is, it keeps
the corrections, its rules are the automated ones with the corrections applied, it tells the
automated rules and the time, and no other row has changed. -/
structure LeftOnFile (before after : Engine) (key : String) (automated : Rules)
    (corrections : Override) (spec : RuleSpec) : Prop where
  stored : Table.rowAt? RuleRow.community key after.db.rules.rows = some ⟨key, spec.document⟩
  readBack : after.db.getRules key = .ok (some spec)
  overrides : spec.overrides = some corrections
  rules : spec.rules = corrections.apply automated
  source : ∃ aboutUrl wikiUrl,
    spec.source = some ⟨some before.now, some aboutUrl, some wikiUrl, automated⟩
  others : ∀ other, other ≠ key → Table.rowAt? RuleRow.community other after.db.rules.rows =
    Table.rowAt? RuleRow.community other before.db.rules.rows

/-- Every sync that puts a specification on file leaves it there. -/
theorem leftOnFile_of_synced? (engine : Engine) (name : String) (automated : Rules)
    (overrides : Option Override) (aboutUrl wikiUrl : String)
    (settled : Community.key (Community.key name) = Community.key name)
    (shown : engine.now.IsWritable)
    (synced : engine.synced? name =
      some (syncedSpec automated overrides engine.now aboutUrl wikiUrl)) :
    LeftOnFile engine (engine.syncOne name).2 (Community.key name) automated
      (overrides.getD {}) (syncedSpec automated overrides engine.now aboutUrl wikiUrl) := by
  obtain ⟨-, rules⟩ := engine.syncOne_rules name
  rw [synced, settled] at rules
  constructor
  · rw [rules]
    exact (Database.rowAt?_put _ _ _ _).trans (if_pos rfl)
  · exact engine.getRules_of_synced name _ _ shown synced (by rw [settled])
  · rfl
  · rfl
  · exact ⟨aboutUrl, wikiUrl, rfl⟩
  · intro other different
    rw [rules]
    exact (Database.rowAt?_put _ _ _ _).trans (if_neg different)

/-- What a sync meets: a community, the replies to come and the time. -/
structure Visit where
  name : String
  traffic : Traffic
  now : Moment
  shown : now.IsWritable

/-- A sync without a connection. -/
def offlineVisit : Visit where
  name := "cats"
  traffic := { pace := ⟨0, 0, 0⟩, connected := false }
  now := ⟨⟨2026, 3, 1, by decide⟩, 43200000000, some 0, by decide⟩
  shown := by
    intro offset known
    obtain rfl := Option.some.inj known
    decide

namespace Engine

/-- The engine under the circumstances of a visit. -/
def met (engine : Engine) (visit : Visit) : Engine :=
  { engine with traffic := visit.traffic, now := visit.now }

/-- One sync under the circumstances of a visit. -/
def visit (engine : Engine) (visit : Visit) : Engine := ((engine.met visit).syncOne visit.name).2

/-- A visit replaces the row of the specification that it puts on file, or none. -/
theorem visit_rules (engine : Engine) (visit : Visit) :
    (engine.visit visit).db.connected = engine.db.connected ∧
      (engine.visit visit).db.rules = { engine.db.rules with
        rows := rowsWith engine.db.rules.rows (Community.key (Community.key visit.name))
          ((engine.met visit).synced? visit.name) } := by
  unfold Engine.visit
  exact (engine.met visit).syncOne_rules visit.name

/-- Several syncs, one after another. -/
def visits (engine : Engine) (visits : List Visit) : Engine := visits.foldl visit engine

/-- A run goes on from where its first visit leaves the engine. -/
theorem visits_cons (engine : Engine) (first : Visit) (rest : List Visit) :
    engine.visits (first :: rest) = (engine.visit first).visits rest := by
  rw [visits, List.foldl_cons, visits]

/-- No visit changes the corrections of any community. -/
theorem correctionsOf_visit (engine : Engine) (visit : Visit) (name : String)
    (found : Option RuleSpec) (read : engine.db.getRules name = .ok found) :
    ∃ after, (engine.visit visit).db.getRules name = .ok after ∧
      correctionsOf after = correctionsOf found := by
  unfold Engine.visit
  exact (engine.met visit).correctionsOf_syncOne visit.name name found visit.shown read

/-- No run of syncs changes the corrections of any community, whatever the source sends and
whichever of them fail. The induction is over the visits; what is carried is that the rules
can be read and have the same corrections. -/
theorem correctionsOf_visits (engine : Engine) (visits : List Visit) (name : String)
    (found : Option RuleSpec) (read : engine.db.getRules name = .ok found) :
    ∃ after, (engine.visits visits).db.getRules name = .ok after ∧
      correctionsOf after = correctionsOf found := by
  induction visits generalizing engine found with
  | nil => exact ⟨found, read, rfl⟩
  | cons visit rest inductionHypothesis =>
    obtain ⟨next, step, kept⟩ := engine.correctionsOf_visit visit name found read
    obtain ⟨after, run, same⟩ := inductionHypothesis (engine.visit visit) next step
    rw [visits_cons]
    exact ⟨after, run, same.trans kept⟩

end Engine

end Rulebook
