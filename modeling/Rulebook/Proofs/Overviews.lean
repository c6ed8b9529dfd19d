import Rulebook.Proofs.Aftermath
import Rulebook.Proofs.Record
import Rulebook.Proofs.Reports

/-!
# Overviews keep up with the rules

A sync writes two tables, the rules first and then the overview that goes with them. When it
succeeds, the overview of a registered community is that of its rules on file, and both tell the
time of the sync. This stays so whatever is done later: a sync of another community stays out of
sight, one of the same community writes both again, and one that fails before it writes the rules
has written nothing.

There are two ways out. A sync that has written the rules and then fails to leave the overview
leaves the one before; that is the failure it reports. And a sync without a list of communities
leaves no overviews at all.
-/

namespace Rulebook

open Calendar (Moment)

namespace Database

/-- The overview on file for a community is that of its rules on file, and both tell the same
time. -/
structure ShowsRules (db : Database) (name : String) (spec : RuleSpec) (fetchedAt : Moment) :
    Prop where
  filed : ∃ document, Table.rowAt? RuleRow.community name db.rules.rows = some ⟨name, document⟩ ∧
    document.isNull = false ∧ RuleSpec.read document = .ok spec
  listed : ∃ row, Table.rowAt? CommunityRow.name name db.communities.rows = some row ∧
    row.overview = spec.overview.document ∧ row.syncedAt = some fetchedAt
  fetched : spec.source.bind (·.fetchedAt) = some fetchedAt
  lastSynced : spec.overview.lastSyncedAt = some fetchedAt

/-- What is answered about a community: its rules, and the overview of these rules. -/
structure Answers (db : Database) (name : String) (spec : RuleSpec) : Prop where
  rules : db.connected = true → db.rules.present = true → db.getRules name = .ok (some spec)
  overview : db.connected = true → db.communities.present = true →
    db.getCommunity name = .ok spec.overview.document

variable {db after : Database} {name key : String} {spec : RuleSpec} {fetchedAt : Moment}

/-- What is on file is what is answered. -/
theorem ShowsRules.answers (shows : db.ShowsRules name spec fetchedAt)
    (settled : Community.key name = name) : db.Answers name spec where
  rules connected present := by
    obtain ⟨document, filed, whole, read⟩ := shows.filed
    rw [getRules_eq db name connected present, settled, filed]
    simp only [whole, read, Failure.ofChecked, Except.map, Bool.false_eq_true, if_false]
  overview connected present := by
    obtain ⟨row, listed, overview, -⟩ := shows.listed
    have opened : db.session = .ok () := (session_eq_ok_iff db ()).mpr connected
    have rows : db.communities.read? = some db.communities.rows :=
      (read?_eq_some_iff _ _).mpr ⟨present, rfl⟩
    simp only [getCommunity, opened, rows, orFail, bind, Except.bind, settled, listed,
      Option.map_some, Option.getD_some, overview, pure, Except.pure]

/-- Only the two rows of a community matter to what is on file for it. -/
theorem ShowsRules.of_rows (shows : db.ShowsRules name spec fetchedAt)
    (rule : Table.rowAt? RuleRow.community name after.rules.rows =
      Table.rowAt? RuleRow.community name db.rules.rows)
    (listed : Table.rowAt? CommunityRow.name name after.communities.rows =
      Table.rowAt? CommunityRow.name name db.communities.rows) :
    after.ShowsRules name spec fetchedAt := by
  refine ⟨?_, ?_, shows.fetched, shows.lastSynced⟩
  · rw [rule]
    exact shows.filed
  · rw [listed]
    exact shows.listed

/-- An overview is left in the row of a registered community, with its time. -/
theorem rowAt?_updateCommunity (overview : Json) (syncedAt : Option Moment) (known : Bool)
    (row : CommunityRow)
    (listed : Table.rowAt? CommunityRow.name (Community.key name) db.communities.rows = some row)
    (updated : db.updateCommunity name overview syncedAt = .ok (after, known)) :
    Table.rowAt? CommunityRow.name (Community.key name) after.communities.rows =
      some { row with overview, syncedAt } := by
  have named := Table.key_of_rowAt? CommunityRow.name _ _ row listed
  simp only [updateCommunity, bind_eq_ok_iff, orFail_eq_ok_iff, read?_eq_some_iff] at updated
  obtain ⟨-, -, rows, ⟨-, rfl⟩, stored⟩ := updated
  split at stored
  · cases stored
  · rw [listed] at stored
    simp only [bind_eq_ok_iff, orFail_eq_ok_iff, write?_eq_some_iff] at stored
    obtain ⟨communities, ⟨-, -, rfl⟩, same⟩ := stored
    obtain ⟨rfl, -⟩ := Prod.mk.inj (Except.ok.inj same)
    rw [← named]
    exact Table.rowAt?_putRow_self CommunityRow.name { row with overview, syncedAt } _

/-- An overview is left out of sight of every other community. -/
theorem rowAt?_updateCommunity_of_ne (overview : Json) (syncedAt : Option Moment) (known : Bool)
    (other : String) (different : Community.key other ≠ name)
    (updated : db.updateCommunity other overview syncedAt = .ok (after, known)) :
    Table.rowAt? CommunityRow.name name after.communities.rows =
      Table.rowAt? CommunityRow.name name db.communities.rows := by
  rcases (AgreeAt.refl db (Community.key other)).updateCommunity_cases overview syncedAt with
    ⟨failure, broken, -⟩ | ⟨_, landing, -, left, -⟩
  · rw [updated] at broken
    cases broken
  · obtain ⟨rfl, -⟩ := Prod.mk.inj (Except.ok.inj (updated.symm.trans left))
    exact (db.agreeAt_land landing different.symm).listed

/-- A community that is registered stays out of sight of every other, and one that is registered
already stays as it is. -/
theorem rowAt?_addCommunity (displayName : Option String) (fresh : Bool) (row : CommunityRow)
    (other : String) (listed : Table.rowAt? CommunityRow.name name db.communities.rows = some row)
    (added : db.addCommunity other displayName = .ok (after, fresh)) :
    Table.rowAt? CommunityRow.name name after.communities.rows = some row := by
  simp only [addCommunity, bind_eq_ok_iff, orFail_eq_ok_iff, read?_eq_some_iff] at added
  obtain ⟨-, -, rows, ⟨-, rfl⟩, stored⟩ := added
  split at stored
  · obtain ⟨rfl, -⟩ := Prod.mk.inj (Except.ok.inj stored)
    exact listed
  · next vacant =>
    simp only [bind_eq_ok_iff, orFail_eq_ok_iff, write?_eq_some_iff] at stored
    obtain ⟨communities, ⟨-, -, rfl⟩, same⟩ := stored
    obtain ⟨rfl, -⟩ := Prod.mk.inj (Except.ok.inj same)
    refine (Table.rowAt?_putRow_of_ne CommunityRow.name _ _ name ?_).trans listed
    rintro rfl
    exact vacant (by rw [listed]; rfl)

end Database

namespace Engine

/-- An engine that leaves overviews, under a clock that can be shown, and a community whose
overview is that of its rules. -/
structure Tends (engine : Engine) (name : String) : Prop where
  knows : engine.knowsCommunities = true
  shown : engine.now.IsWritable
  shows : ∃ spec fetchedAt, engine.db.ShowsRules name spec fetchedAt

variable {engine after : Engine} {name : String}

/-- Only the rows of the community, the list of communities and the clock matter. -/
theorem Tends.of_rows (tends : engine.Tends name)
    (knows : after.knowsCommunities = engine.knowsCommunities) (shown : after.now.IsWritable)
    (rule : Table.rowAt? RuleRow.community name after.db.rules.rows =
      Table.rowAt? RuleRow.community name engine.db.rules.rows)
    (listed : Table.rowAt? CommunityRow.name name after.db.communities.rows =
      Table.rowAt? CommunityRow.name name engine.db.communities.rows) : after.Tends name := by
  obtain ⟨spec, fetchedAt, shows⟩ := tends.shows
  exact ⟨knows.trans tends.knows, shown, spec, fetchedAt, shows.of_rows rule listed⟩

/-- A community that is tended is registered. -/
theorem Tends.exists_row (tends : engine.Tends name) :
    ∃ row, Table.rowAt? CommunityRow.name name engine.db.communities.rows = some row := by
  obtain ⟨spec, fetchedAt, shows⟩ := tends.shows
  obtain ⟨row, listed, -⟩ := shows.listed
  exact ⟨row, listed⟩

section

variable (engine)

/-- A sync that succeeds has put the rules it has prepared on file, and left their overview. -/
theorem exists_updated_of_finish (key : String) (gathered : Gathered) (spec : RuleSpec)
    (knows : engine.knowsCommunities = true)
    (finished : (engine.finish key gathered).1 = .ok spec) :
    engine.prepare key gathered = .ok spec ∧ ∃ db known, engine.db.putRules key spec = .ok db ∧
      db.updateCommunity key spec.overview.document (some engine.now) =
        .ok ((engine.finish key gathered).2.db, known) := by
  obtain ⟨outcome, left⟩ := engine.finish_eq_store key gathered
  rw [outcome] at finished
  rw [left]
  unfold store at finished ⊢
  cases prepared : engine.prepare key gathered with
  | error failure =>
    rw [prepared] at finished
    cases finished
  | ok ready =>
    simp only [prepared] at finished ⊢
    cases written : engine.db.putRules key ready with
    | error failure =>
      rw [written] at finished
      cases finished
    | ok db =>
      simp only [written, leaveOverview, knows, if_true] at finished ⊢
      cases updated : db.updateCommunity key ready.overview.document (some engine.now) with
      | error failure =>
        rw [updated] at finished
        cases finished
      | ok result =>
        obtain ⟨after, known⟩ := result
        rw [updated] at finished
        obtain rfl := Except.ok.inj finished
        exact ⟨rfl, db, known, written, updated⟩

/-- A specification that is prepared can be read back from its document, and tells the time. -/
theorem prepare_reads (key : String) (gathered : Gathered) (spec : RuleSpec)
    (shown : engine.now.IsWritable) (prepared : engine.prepare key gathered = .ok spec) :
    spec.document.isNull = false ∧ RuleSpec.read spec.document = .ok spec ∧
      spec.source.bind (·.fetchedAt) = some engine.now := by
  obtain ⟨automated, existing, aboutUrl, wikiUrl, -, -, -, -, rfl⟩ :=
    (engine.prepare_eq_ok_iff key gathered spec).mp prepared
  exact ⟨rfl, syncedSpec_read _ _ _ _ _ shown, rfl⟩

/-- A sync that succeeds leaves the overview of the rules it puts on file. -/
theorem finish_showsRules (key : String) (gathered : Gathered) (spec : RuleSpec)
    (row : CommunityRow) (knows : engine.knowsCommunities = true) (shown : engine.now.IsWritable)
    (here : Community.key key = name)
    (listed : Table.rowAt? CommunityRow.name name engine.db.communities.rows = some row)
    (finished : (engine.finish key gathered).1 = .ok spec) :
    (engine.finish key gathered).2.db.ShowsRules name spec engine.now := by
  obtain ⟨prepared, db, known, written, updated⟩ :=
    engine.exists_updated_of_finish key gathered spec knows finished
  obtain ⟨whole, read, fetched⟩ := engine.prepare_reads key gathered spec shown prepared
  obtain ⟨-, -, -, -, put⟩ := (Database.putRules_eq_ok_iff _ _ _ _).mp written
  have unmoved : db.communities = engine.db.communities := by rw [put]
  subst here
  rw [← unmoved] at listed
  have overview := Database.rowAt?_updateCommunity _ _ known row listed updated
  obtain ⟨communities, same⟩ := db.updateCommunity_frame _ key _ _ known updated
  refine ⟨⟨spec.document, ?_, whole, read⟩, ⟨_, overview, rfl, rfl⟩, fetched, fetched⟩
  rw [same, put]
  exact (Database.rowAt?_put _ _ _ _).trans (if_pos rfl)

/-- A sync that succeeds has had its tables before it, and has them after it. -/
theorem finish_open (key : String) (gathered : Gathered) (spec : RuleSpec)
    (knows : engine.knowsCommunities = true)
    (finished : (engine.finish key gathered).1 = .ok spec) :
    (engine.finish key gathered).2.db.connected = true ∧
      (engine.finish key gathered).2.db.rules.present = true ∧
      (engine.finish key gathered).2.db.communities.present = true := by
  obtain ⟨-, db, known, written, updated⟩ :=
    engine.exists_updated_of_finish key gathered spec knows finished
  obtain ⟨connected, -, present, -, rfl⟩ := (Database.putRules_eq_ok_iff _ _ _ _).mp written
  have listed : engine.db.communities.present = true := by
    simp only [Database.updateCommunity, bind_eq_ok_iff, Database.orFail_eq_ok_iff,
      Database.read?_eq_some_iff] at updated
    obtain ⟨-, -, rows, ⟨there, -⟩, -⟩ := updated
    exact there
  obtain ⟨landing, landed⟩ := engine.exists_landing_finish key gathered
  rw [landed]
  exact ⟨connected, present, listed⟩

end

/-- Storing what was gathered keeps a community tended, unless its overview could not be left. -/
theorem Tends.finish (tends : engine.Tends name) (key : String) (gathered : Gathered)
    (left : (engine.finish key gathered).1 ≠ .error (.store (.communityWrite name))) :
    (engine.finish key gathered).2.Tends name := by
  obtain ⟨metrics, db, same⟩ := engine.finish_traffic key gathered
  have knows : (engine.finish key gathered).2.knowsCommunities = engine.knowsCommunities := by
    rw [same]
  have now : (engine.finish key gathered).2.now = engine.now := by rw [same]
  by_cases here : Community.key key = name
  · cases outcome : (engine.finish key gathered).1 with
    | ok spec =>
      obtain ⟨row, listed⟩ := tends.exists_row
      exact ⟨knows.trans tends.knows, now ▸ tends.shown, spec, engine.now,
        engine.finish_showsRules key gathered spec row tends.knows tends.shown here listed outcome⟩
    | error failure =>
      obtain ⟨stored, database⟩ := engine.finish_eq_store key gathered
      rw [outcome] at left stored
      rcases engine.store_error_cases key gathered failure stored.symm with
        ⟨-, -, untouched⟩ | ⟨spec, db, -, -, about, -⟩
      · rw [untouched] at database
        exact tends.of_rows knows (now ▸ tends.shown) (by rw [database]) (by rw [database])
      · rw [about, here] at left
        exact absurd rfl left
  · have unseen := engine.agreeAt_finish key name gathered (Ne.symm here)
    exact tends.of_rows knows (now ▸ tends.shown) unseen.rule unseen.listed

/-- A sync of many communities keeps one of them tended, unless one of its syncs could not leave
the overview. -/
theorem syncInvariant_tends (name : String) :
    SyncInvariant (fun reports engine =>
        (∃ report ∈ reports, report.2 = .error (.store (.communityWrite name))) ∨
          engine.Tends name) fun _ _ => True where
  gather reports engine key kept := by
    refine ⟨kept.imp id fun tends => ?_, trivial⟩
    exact ⟨tends.knows, tends.shown, tends.shows⟩
  refuse reports engine other failure _ kept :=
    kept.imp (fun ⟨report, member, broken⟩ => ⟨report, List.mem_append_left _ member, broken⟩) id
  finish reports engine other key gathered _ _ kept := by
    rcases kept with ⟨report, member, broken⟩ | tends
    · exact Or.inl ⟨report, List.mem_append_left _ member, broken⟩
    · by_cases left : (engine.finish key gathered).1 = .error (.store (.communityWrite name))
      · exact Or.inl ⟨_, List.mem_append_right _ List.mem_cons_self, left⟩
      · exact Or.inr (tends.finish key gathered left)

end Engine

namespace Crew

/-- A coroutine among these is done and could not leave the overview of a community. -/
def Lapsed (tasks : List Task) (name : String) : Prop :=
  ∃ task ∈ tasks, task.outcome? = some (.error (.store (.communityWrite name)))

/-- A coroutine that could not leave an overview has met that outcome. -/
theorem hasMet_iff_lapsed (tasks : List Task) (name : String) :
    HasMet (· = .error (.store (.communityWrite name))) tasks ↔ Lapsed tasks name := by
  simp only [HasMet, Lapsed, exists_eq_right]

end Crew

namespace Engine

/-- Coroutines keep a community tended, unless one of them cannot leave its overview. -/
theorem crewInvariant_tends (name : String) :
    CrewInvariant (·.Tends name) (· = .error (.store (.communityWrite name))) where
  traffic _ _ tends := ⟨tends.knows, tends.shown, tends.shows⟩
  finish _ key gathered left tends := tends.finish key gathered left

/-- Batches keep a community tended, unless a coroutine could not leave its overview. -/
theorem Tends.runBatches {engine : Engine} {name : String} (tends : engine.Tends name)
    (plan : List (List String × List Turn))
    (spared : ¬ Crew.Lapsed (engine.runBatches plan).1 name) :
    (engine.runBatches plan).2.Tends name := by
  rw [← Crew.hasMet_iff_lapsed] at spared
  exact (crewInvariant_tends name).runBatches engine plan spared tends

/-- Another engine in the place of this one, with the rules and the communities on file here.
Whether their tables are there and take changes is up to the other one. -/
def amid (engine world : Engine) : Engine :=
  { world with
    db := { world.db with
      rules := { world.db.rules with rows := engine.db.rules.rows }
      communities := { world.db.communities with rows := engine.db.communities.rows } }
    knowsCommunities := engine.knowsCommunities }

end Engine

/-- What can come after a sync: an operation, batches of syncs that take turns, or a change to
anything but the rules and the communities on file. -/
inductive Later where
  | operation (operation : Operation)
  | batches (plan : List (List String × List Turn))
  | meanwhile (world : Engine)

namespace Engine

/-- The engine after something has come. -/
def goOn (engine : Engine) : Later → Engine
  | .operation operation => engine.after operation
  | .batches plan => (engine.runBatches plan).2
  | .meanwhile world => engine.amid world

/-- The engine after all that has come. -/
def goOnAll (engine : Engine) (run : List Later) : Engine := run.foldl goOn engine

/-- What comes spares a community when no sync in it fails to leave the overview of that community.
Besides, nobody succeeds in writing its rules or its overview by hand, no table is made anew, and
the clock can be shown. -/
def Spares (engine : Engine) (name : String) : Later → Prop
  | .operation (.syncOne other) =>
    (engine.syncOne other).1 ≠ .error (.store (.communityWrite name))
  | .operation (.syncAll names) =>
    ∀ report ∈ engine.allReports names, report.2 ≠ .error (.store (.communityWrite name))
  | .operation (.putRules other spec) =>
    Community.key other = name → ∃ failure, engine.db.putRules other spec = .error failure
  | .operation (.updateCommunity other overview syncedAt) =>
    Community.key other = name →
      ∃ failure, engine.db.updateCommunity other overview syncedAt = .error failure
  | .operation .createSchema =>
    engine.db.rules.present = true ∧ engine.db.communities.present = true
  | .operation _ => True
  | .batches plan => ¬ Crew.Lapsed (engine.runBatches plan).1 name
  | .meanwhile world => world.now.IsWritable

/-- All that comes spares a community. -/
def SparesAll (engine : Engine) (name : String) : List Later → Prop
  | [] => True
  | first :: rest => engine.Spares name first ∧ (engine.goOn first).SparesAll name rest

variable {engine : Engine} {name : String}

/-- An operation on the database alone keeps a community tended when it keeps its rows. -/
theorem Tends.onDatabase {α : Type} (tends : engine.Tends name)
    (result : Database.Result (Database × α))
    (kept : ∀ db value, result = .ok (db, value) →
      Table.rowAt? RuleRow.community name db.rules.rows =
          Table.rowAt? RuleRow.community name engine.db.rules.rows ∧
        Table.rowAt? CommunityRow.name name db.communities.rows =
          Table.rowAt? CommunityRow.name name engine.db.communities.rows) :
    (engine.onDatabase result).2.Tends name := by
  unfold Engine.onDatabase
  cases result with
  | error failure => exact tends
  | ok written =>
    obtain ⟨db, value⟩ := written
    obtain ⟨rule, listed⟩ := kept db value rfl
    exact tends.of_rows rfl tends.shown rule listed

/-- An operation that spares a community keeps it tended. -/
theorem Tends.after (tends : engine.Tends name) (operation : Operation)
    (spared : engine.Spares name (.operation operation)) :
    (engine.after operation).Tends name := by
  cases operation with
  | syncOne other =>
    rcases (syncInvariant_tends name).syncOne [] engine other (Or.inr tends) with
      ⟨report, member, broken⟩ | kept
    · obtain rfl := List.mem_singleton.mp member
      exact absurd broken spared
    · exact kept
  | syncAll names =>
    rcases (syncInvariant_tends name).syncAll [] engine names (Or.inr tends) with
      ⟨report, member, broken⟩ | kept
    · exact absurd broken (spared report member)
    · exact kept
  | lint request userId =>
    obtain ⟨traffic, events, same⟩ := engine.lint_frame request userId
    rw [Engine.after, same]
    exact tends.of_rows rfl tends.shown rfl rfl
  | checkGate userId =>
    obtain ⟨traffic, same⟩ := engine.checkGate_frame userId
    rw [Engine.after, same]
    exact tends.of_rows rfl tends.shown rfl rfl
  | fetchRules other => exact ⟨tends.knows, tends.shown, tends.shows⟩
  | fetchWiki other => exact ⟨tends.knows, tends.shown, tends.shows⟩
  | putRules other spec =>
    refine tends.onDatabase _ fun db _ written => ?_
    cases put : engine.db.putRules other spec with
    | error failure =>
      rw [put] at written
      cases written
    | ok stored =>
      rw [put] at written
      obtain ⟨rfl, -⟩ := Prod.mk.inj (Except.ok.inj written)
      obtain ⟨-, -, -, -, rfl⟩ := (Database.putRules_eq_ok_iff _ _ _ _).mp put
      refine ⟨(Database.rowAt?_put _ _ _ _).trans (if_neg ?_), rfl⟩
      rintro rfl
      obtain ⟨failure, broken⟩ := spared rfl
      rw [put] at broken
      cases broken
  | insertEvent event =>
    refine tends.onDatabase _ fun db recorded inserted => ?_
    obtain ⟨createdAt, -, -, rfl⟩ := engine.db.insertEvent_appended db event recorded inserted
    exact ⟨rfl, rfl⟩
  | addCommunity other displayName =>
    refine tends.onDatabase _ fun db fresh added => ?_
    obtain ⟨row, listed⟩ := tends.exists_row
    have kept := Database.rowAt?_addCommunity displayName fresh row other listed added
    obtain ⟨communities, rfl⟩ := engine.db.addCommunity_frame db other displayName fresh added
    exact ⟨rfl, kept.trans listed.symm⟩
  | updateCommunity other overview syncedAt =>
    refine tends.onDatabase _ fun db known updated => ?_
    refine ⟨?_, Database.rowAt?_updateCommunity_of_ne overview syncedAt known other ?_ updated⟩
    · obtain ⟨communities, rfl⟩ :=
        engine.db.updateCommunity_frame db other overview syncedAt known updated
      rfl
    · rintro rfl
      obtain ⟨failure, broken⟩ := spared rfl
      rw [updated] at broken
      cases broken
  | createSchema =>
    refine tends.onDatabase _ fun db _ created => ?_
    obtain ⟨rules, communities⟩ := spared
    unfold Database.createSchema at created
    split at created
    · cases created
    · cases created
    · obtain ⟨rfl, -⟩ := Prod.mk.inj (Except.ok.inj created)
      simp only [Table.create, rules, communities, if_true, and_self]

/-- Whatever comes and spares a community keeps it tended. -/
theorem Tends.goOn (tends : engine.Tends name) (later : Later)
    (spared : engine.Spares name later) : (engine.goOn later).Tends name := by
  cases later with
  | operation operation => exact tends.after operation spared
  | batches plan => exact tends.runBatches plan spared
  | meanwhile world => exact tends.of_rows rfl spared rfl rfl

/-- A run that spares a community keeps it tended. -/
theorem Tends.goOnAll (tends : engine.Tends name) (run : List Later)
    (spared : engine.SparesAll name run) : (engine.goOnAll run).Tends name := by
  induction run generalizing engine with
  | nil => exact tends
  | cons first rest inductionHypothesis =>
    exact inductionHypothesis (tends.goOn first spared.1) spared.2

/-- A sync of a registered community that succeeds leaves the overview of its rules, and its tables
are there. -/
theorem syncOne_showsRules (engine : Engine) (name : String) (spec : RuleSpec) (row : CommunityRow)
    (knows : engine.knowsCommunities = true) (settled : Community.key name = name)
    (listed : Table.rowAt? CommunityRow.name name engine.db.communities.rows = some row)
    (shown : engine.now.IsWritable) (synced : (engine.syncOne name).1 = .ok spec) :
    (engine.syncOne name).2.db.ShowsRules name spec engine.now ∧
      (engine.syncOne name).2.db.connected = true ∧
      (engine.syncOne name).2.db.rules.present = true ∧
      (engine.syncOne name).2.db.communities.present = true := by
  cases accepted : syncKey name with
  | error failure =>
    simp only [syncOne, accepted] at synced
    cases synced
  | ok key =>
    obtain ⟨-, rfl⟩ := (syncKey_eq_ok_iff name key).mp accepted
    rw [syncOne_eq_finish engine accepted] at synced ⊢
    have here : Community.key (Community.key name) = name := by rw [settled, settled]
    exact ⟨finish_showsRules _ _ _ spec row knows shown here listed synced,
      finish_open _ _ _ spec knows synced⟩

/-- The overview of a registered community follows its rules. Right after a sync of it that
succeeds, the overview is that of the specification on file, and all times are that of the sync.
Whatever comes later, in any order and whichever of it fails, the overview is that of the rules on
file, unless a sync that has written the rules could not leave their overview. The clocks must be
ones that can be shown, since the rules on file are read again with the time of their sync.

Proof: a step that spares the community leaves both of its rows or writes both. The induction is
over what comes. -/
theorem overview_follows_rules (engine : Engine) (name : String) (spec : RuleSpec)
    (row : CommunityRow) (knows : engine.knowsCommunities = true)
    (settled : Community.key name = name)
    (listed : Table.rowAt? CommunityRow.name name engine.db.communities.rows = some row)
    (shown : engine.now.IsWritable) (synced : (engine.syncOne name).1 = .ok spec) :
    let after := (engine.syncOne name).2
    after.db.ShowsRules name spec engine.now ∧ after.db.getRules name = .ok (some spec) ∧
      after.db.getCommunity name = .ok spec.overview.document ∧
      ∀ run, after.SparesAll name run → ∃ current fetchedAt,
        (after.goOnAll run).db.ShowsRules name current fetchedAt ∧
          (after.goOnAll run).db.Answers name current := by
  obtain ⟨shows, connected, filed, listing⟩ :=
    engine.syncOne_showsRules name spec row knows settled listed shown synced
  obtain ⟨traffic, communities, same⟩ := engine.syncOne_frame name
  have knowsAfter : (engine.syncOne name).2.knowsCommunities = true := by
    rw [same]
    exact knows
  have shownAfter : (engine.syncOne name).2.now.IsWritable := by
    rw [same]
    exact shown
  have tends : (engine.syncOne name).2.Tends name :=
    ⟨knowsAfter, shownAfter, spec, engine.now, shows⟩
  have answers := shows.answers settled
  refine ⟨shows, answers.rules connected filed, answers.overview connected listing, ?_⟩
  intro run spared
  obtain ⟨current, fetchedAt, kept⟩ := (tends.goOnAll run spared).shows
  exact ⟨current, fetchedAt, kept, kept.answers settled⟩

/-- An engine with a registered community that was never synced. -/
def listedEngine : Engine where
  db := { communities := { rows := [{ name := "cats", displayName := "Cats" }] } }
  traffic := offlineVisit.traffic
  now := offlineVisit.now

/-- Another community is registered, the rules refuse changes, and a sync fails. -/
def refusedSync : List Later :=
  [.operation (.addCommunity "dogs" none),
    .meanwhile { listedEngine with db := { rules := { writable := false } } },
    .operation (.syncOne "r/Cats")]

/-- The overview of a community is still that of its rules after its next sync has failed. -/
theorem overview_survives_refused_sync : ∃ spec, (listedEngine.syncOne "cats").1 = .ok spec ∧
    let after := (listedEngine.syncOne "cats").2
    reasonOf ((after.goOnAll (refusedSync.take 2)).syncOne "r/Cats").1 =
        some "Rule store write failed for r/cats" ∧
      ∃ current fetchedAt, (after.goOnAll refusedSync).db.ShowsRules "cats" current fetchedAt ∧
        (after.goOnAll refusedSync).db.Answers "cats" current := by
  have succeeds : (listedEngine.syncOne "cats").1.toOption.isSome = true := by decide +kernel
  cases synced : (listedEngine.syncOne "cats").1 with
  | error failure =>
    rw [synced] at succeeds
    cases succeeds
  | ok spec =>
    have refused : reasonOf (((listedEngine.syncOne "cats").2.goOnAll (refusedSync.take 2)).syncOne
        "r/Cats").1 = some "Rule store write failed for r/cats" := by decide +kernel
    obtain ⟨-, -, -, later⟩ := listedEngine.overview_follows_rules "cats" spec
      { name := "cats", displayName := "Cats" } rfl (by decide) rfl offlineVisit.shown synced
    refine ⟨spec, rfl, refused, later refusedSync ⟨trivial, offlineVisit.shown, ?_, trivial⟩⟩
    intro broken
    rw [show (((listedEngine.syncOne "cats").2.goOnAll (refusedSync.take 2)).syncOne
      "r/Cats").1 = .error (.store (.communityWrite "cats")) from broken] at refused
    exact absurd refused (by decide)

/-- Without a list of communities a sync that succeeds leaves no overview with the community. -/
theorem unlisted_sync_leaves_no_overview :
    ¬ ∀ (engine : Engine) (name : String) (spec : RuleSpec) (row : CommunityRow),
      Community.key name = name → name ≠ "" →
      Table.rowAt? CommunityRow.name name engine.db.communities.rows = some row →
      engine.now.IsWritable → (engine.syncOne name).1 = .ok spec →
        (engine.syncOne name).2.db.getCommunity name = .ok spec.overview.document := by
  intro law
  have succeeds : (({ listedEngine with knowsCommunities := false } : Engine).syncOne
      "cats").1.toOption.isSome = true := by decide +kernel
  have vacant : ((({ listedEngine with knowsCommunities := false } : Engine).syncOne
      "cats").2.db.getCommunity "cats").toOption.map Json.isNull = some true := by decide +kernel
  cases synced : (({ listedEngine with knowsCommunities := false } : Engine).syncOne "cats").1 with
  | error failure =>
    rw [synced] at succeeds
    cases succeeds
  | ok spec =>
    have shown := law { listedEngine with knowsCommunities := false } "cats" spec
      { name := "cats", displayName := "Cats" } (by decide) (by decide) rfl offlineVisit.shown synced
    rw [shown] at vacant
    cases vacant

end Engine

end Rulebook
