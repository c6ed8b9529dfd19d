import Rulebook.Proofs.Aftermath
import Rulebook.Proofs.Batches
import Rulebook.Proofs.Record
import Rulebook.Proofs.Rows

/-!
# The list of registered communities

The registered communities are a sorted set of keys. A registration adds its key if it is new.
Updates and syncs leave overviews and times with communities that are registered, and whatever else
an engine is asked for, at whatever point it breaks off, leaves the list as it is.

A run has all operations but the set-up of the tables, in any order, with batches of syncs that take
turns, and between them everything may change but the rows of communities: sessions and tables come
and go, and the table refuses changes or takes them. The set-up is left out since it makes a table
anew that has vanished, without its rows.

Looking a community up and registering it are two steps of the program. They count as one here, so
two programs that register the same community at once are not covered.
-/

namespace Rulebook

open Calendar (Moment)

/-- What is stated of a community once and for all, when it is registered. -/
def CommunityRow.card (row : CommunityRow) : String × String := (row.name, row.displayName)

/-- Rows that differ from those before in overviews and times of syncs alone. -/
def Revises (before after : List CommunityRow) : Prop :=
  after.map CommunityRow.card = before.map CommunityRow.card

namespace Revises

variable {before between after : List CommunityRow}

theorem refl (rows : List CommunityRow) : Revises rows rows := rfl

theorem trans (first : Revises before between) (second : Revises between after) :
    Revises before after := Eq.trans second first

/-- The names are the same. -/
theorem names (revises : Revises before after) :
    after.map CommunityRow.name = before.map CommunityRow.name := by
  have same := congrArg (List.map Prod.fst) revises
  rw [List.map_map, List.map_map] at same
  exact same

/-- The rows are in order as before. -/
theorem ordered (revises : Revises before after)
    (ordered : Table.Ordered CommunityRow.name before) : Table.Ordered CommunityRow.name after := by
  rw [Table.Ordered, revises.names]
  exact ordered

end Revises

namespace Database

/-- The names of the registered communities, whether they can be read or not. -/
def names (db : Database) : List String := db.communities.rows.map CommunityRow.name

/-- The name that a community is shown under. -/
def shownName (name : String) : Option String → String
  | some shown => if shown == "" then name else shown
  | none => name

/-- A registration comes to something when the table is there, and for a new key only if it takes
changes too. A key that is registered already is found, and a new one gets a row. -/
theorem addCommunity_eq_ok_iff (db after : Database) (name : String) (displayName : Option String)
    (fresh : Bool) :
    db.addCommunity name displayName = .ok (after, fresh) ↔
      db.connected = true ∧ db.communities.present = true ∧
        ((Community.key name ∈ db.names ∧ fresh = false ∧ after = db) ∨
          (Community.key name ∉ db.names ∧ db.communities.writable = true ∧ fresh = true ∧
            after = { db with communities := { db.communities with
              rows := Table.putRow CommunityRow.name
                { name := Community.key name, displayName := shownName name displayName }
                db.communities.rows } })) := by
  simp only [addCommunity, bind_eq_ok_iff, orFail_eq_ok_iff, session_eq_ok_iff, read?_eq_some_iff]
  constructor
  · rintro ⟨-, connected, rows, ⟨present, rfl⟩, stored⟩
    refine ⟨connected, present, ?_⟩
    split at stored
    · next known =>
      obtain ⟨rfl, rfl⟩ := Prod.mk.inj (Except.ok.inj stored)
      exact Or.inl ⟨(Table.isSome_rowAt?_iff _).mp known, rfl, rfl⟩
    · next unknown =>
      simp only [bind_eq_ok_iff, orFail_eq_ok_iff, write?_eq_some_iff] at stored
      obtain ⟨communities, ⟨-, writable, rfl⟩, same⟩ := stored
      obtain ⟨rfl, rfl⟩ := Prod.mk.inj (Except.ok.inj same)
      exact Or.inr ⟨fun member => unknown ((Table.isSome_rowAt?_iff _).mpr member), writable, rfl,
        rfl⟩
  · rintro ⟨connected, present, outcome⟩
    refine ⟨(), connected, _, ⟨present, rfl⟩, ?_⟩
    rcases outcome with ⟨member, rfl, rfl⟩ | ⟨vacant, writable, rfl, rfl⟩
    · rw [if_pos ((Table.isSome_rowAt?_iff _).mpr member)]
      rfl
    · rw [if_neg fun known => vacant ((Table.isSome_rowAt?_iff _).mp known)]
      simp only [bind_eq_ok_iff, orFail_eq_ok_iff, write?_eq_some_iff]
      exact ⟨_, ⟨present, writable, rfl⟩, rfl⟩

/-- The database with an overview and a time left in the row under a key, if there is one. -/
def leave (db : Database) (key : String) (overview : Json) (syncedAt : Option Moment) : Database :=
  { db with communities := { db.communities with
    rows := db.communities.rows.map fun row =>
      if row.name = key then { row with overview, syncedAt } else row } }

/-- Nothing is left under a key that is not registered. -/
theorem leave_of_notMem (db : Database) (key : String) (overview : Json)
    (syncedAt : Option Moment) (unknown : key ∉ db.names) :
    db.leave key overview syncedAt = db := by
  rw [leave, Table.map_change_of_notMem (fun row => { row with overview, syncedAt }) key unknown]

/-- An overview can be left when the table is there and the overview can be written, and with a
registered community only if the table takes changes too. Of rows in order, it changes the overview
and the time in the row under the key. -/
theorem updateCommunity_eq_ok_iff (db after : Database) (name : String) (overview : Json)
    (syncedAt : Option Moment) (known : Bool)
    (ordered : Table.Ordered CommunityRow.name db.communities.rows) :
    db.updateCommunity name overview syncedAt = .ok (after, known) ↔
      db.connected = true ∧ db.communities.present = true ∧ overview.isStorable = true ∧
        (Community.key name ∈ db.names → db.communities.writable = true) ∧
        (known = true ↔ Community.key name ∈ db.names) ∧
        after = db.leave (Community.key name) overview syncedAt := by
  simp only [updateCommunity, bind_eq_ok_iff, orFail_eq_ok_iff, session_eq_ok_iff,
    read?_eq_some_iff]
  cases found : Table.rowAt? CommunityRow.name (Community.key name) db.communities.rows with
  | none =>
    have unknown : Community.key name ∉ db.names := (Table.rowAt?_eq_none_iff _).mp found
    rw [db.leave_of_notMem _ overview syncedAt unknown]
    constructor
    · rintro ⟨-, connected, rows, ⟨present, rfl⟩, stored⟩
      split at stored
      · cases stored
      · next storable =>
        rw [found] at stored
        obtain ⟨rfl, rfl⟩ := Prod.mk.inj (Except.ok.inj stored)
        exact ⟨connected, present, by simpa using storable, fun member => absurd member unknown,
          by simp [unknown], rfl⟩
    · rintro ⟨connected, present, storable, -, told, rfl⟩
      have missed : known = false := by simpa [unknown] using told
      refine ⟨(), connected, _, ⟨present, rfl⟩, ?_⟩
      rw [if_neg (by simp [storable]), found, missed]
      rfl
  | some row =>
    have here := Table.key_of_rowAt? CommunityRow.name _ _ row found
    have registered : Community.key name ∈ db.names :=
      (Table.isSome_rowAt?_iff _).mp (by rw [found]; rfl)
    have put := ordered.putRow_change (fun row => { row with overview, syncedAt }) _ row found here
    constructor
    · rintro ⟨-, connected, rows, ⟨present, rfl⟩, stored⟩
      split at stored
      · cases stored
      · next storable =>
        simp only [found, bind_eq_ok_iff, orFail_eq_ok_iff, write?_eq_some_iff] at stored
        obtain ⟨communities, ⟨-, writable, rfl⟩, same⟩ := stored
        obtain ⟨rfl, rfl⟩ := Prod.mk.inj (Except.ok.inj same)
        exact ⟨connected, present, by simpa using storable, fun _ => writable,
          iff_of_true rfl registered, by rw [put, leave]⟩
    · rintro ⟨connected, present, storable, writable, told, rfl⟩
      refine ⟨(), connected, _, ⟨present, rfl⟩, ?_⟩
      rw [if_neg (by simp [storable]), told.mpr registered]
      simp only [found, bind_eq_ok_iff, orFail_eq_ok_iff, write?_eq_some_iff]
      exact ⟨_, ⟨present, writable registered, rfl⟩, by rw [put, leave]; rfl⟩

/-- What is left under a key revises the communities. -/
theorem revises_leave (db : Database) (key : String) (overview : Json)
    (syncedAt : Option Moment) :
    Revises db.communities.rows (db.leave key overview syncedAt).communities.rows := by
  rw [Revises, leave, List.map_map]
  refine List.map_congr_left fun row _ => ?_
  rw [Function.comp_apply]
  split <;> rfl

/-- A registration comes to something exactly when the table is there, and takes the new row if one
is needed. -/
theorem exists_addCommunity_iff (db : Database) (name : String) (displayName : Option String) :
    (∃ result, db.addCommunity name displayName = .ok result) ↔
      db.connected = true ∧ db.communities.present = true ∧
        (Community.key name ∉ db.names → db.communities.writable = true) := by
  constructor
  · rintro ⟨⟨after, fresh⟩, added⟩
    obtain ⟨connected, present, outcome⟩ := (addCommunity_eq_ok_iff _ _ _ _ _).mp added
    refine ⟨connected, present, fun vacant => ?_⟩
    rcases outcome with ⟨member, -, -⟩ | ⟨-, writable, -, -⟩
    · exact absurd member vacant
    · exact writable
  · rintro ⟨connected, present, writable⟩
    by_cases member : Community.key name ∈ db.names
    · exact ⟨_, (addCommunity_eq_ok_iff _ _ _ _ _).mpr
        ⟨connected, present, Or.inl ⟨member, rfl, rfl⟩⟩⟩
    · exact ⟨_, (addCommunity_eq_ok_iff _ _ _ _ _).mpr
        ⟨connected, present, Or.inr ⟨member, writable member, rfl, rfl⟩⟩⟩

/-- A registration reports a new name exactly when the key is not on the list. -/
theorem fresh_iff_of_addCommunity (db after : Database) (name : String)
    (displayName : Option String) (fresh : Bool)
    (added : db.addCommunity name displayName = .ok (after, fresh)) :
    fresh = true ↔ Community.key name ∉ db.names := by
  rcases (addCommunity_eq_ok_iff _ _ _ _ _).mp added with
    ⟨-, -, ⟨member, rfl, -⟩ | ⟨vacant, -, rfl, -⟩⟩
  · simp [member]
  · simp [vacant]

/-- An update comes to something exactly when the table is there, the overview can be written, and
the table takes it if the community is registered. -/
theorem exists_updateCommunity_iff (db : Database) (name : String) (overview : Json)
    (syncedAt : Option Moment)
    (ordered : Table.Ordered CommunityRow.name db.communities.rows) :
    (∃ result, db.updateCommunity name overview syncedAt = .ok result) ↔
      db.connected = true ∧ db.communities.present = true ∧ overview.isStorable = true ∧
        (Community.key name ∈ db.names → db.communities.writable = true) := by
  constructor
  · rintro ⟨⟨after, known⟩, updated⟩
    obtain ⟨connected, present, storable, writable, -, -⟩ :=
      (updateCommunity_eq_ok_iff _ _ _ _ _ _ ordered).mp updated
    exact ⟨connected, present, storable, writable⟩
  · rintro ⟨connected, present, storable, writable⟩
    exact ⟨(_, decide _), (updateCommunity_eq_ok_iff _ _ _ _ _ _ ordered).mpr
      ⟨connected, present, storable, writable, decide_eq_true_iff, rfl⟩⟩

/-- The names are read when there are sessions and the table is there. -/
theorem communityNames_cases (db : Database) :
    db.communityNames =
      if db.connected then
        if db.communities.present then .ok db.names else .error (.store .communityList)
      else .error (.missing .sessions) := by
  unfold communityNames session Table.read? names
  cases db.connected <;> cases db.communities.present <;> rfl

end Database

/-- What happens to an engine whose tables are set up: an operation, batches of syncs that take
turns, or a change to anything but the rows of communities. -/
inductive RosterMove where
  | operation (operation : Operation) (later : operation ≠ .createSchema)
  | batches (plan : List (List String × List Turn))
  | meanwhile (world : Engine)

namespace Engine

/-- An operation fails. -/
def Fails (engine : Engine) (failure : Failure) : Operation → Prop
  | .syncOne name => (engine.syncOne name).1 = .error failure
  | .syncAll names => (engine.syncAll names).1 = .error failure
  | .lint request userId => (engine.lint request userId).1 = .error failure
  | .checkGate userId => (engine.checkGate userId).1 = .error failure
  | .fetchRules name => (engine.traffic.fetchRules engine.sync name).1 = .error failure
  | .fetchWiki name => (engine.traffic.fetchWiki engine.sync name).1 = .error failure
  | .putRules name spec => engine.db.putRules name spec = .error failure
  | .insertEvent event => engine.db.insertEvent event = .error failure
  | .addCommunity name displayName => engine.db.addCommunity name displayName = .error failure
  | .updateCommunity name overview syncedAt =>
    engine.db.updateCommunity name overview syncedAt = .error failure
  | .createSchema => engine.db.createSchema = .error failure

/-- The keys that a registration reports as new. -/
def registers (engine : Engine) : Operation → List String
  | .addCommunity name displayName =>
    match engine.db.addCommunity name displayName with
    | .ok (_, true) => [Community.key name]
    | _ => []
  | _ => []

/-- The engine after a move. -/
def play (engine : Engine) : RosterMove → Engine
  | .operation operation _ => engine.after operation
  | .batches plan => (engine.runBatches plan).2
  | .meanwhile world =>
    { world with db := { world.db with communities := { world.db.communities with
      rows := engine.db.communities.rows } } }

/-- The keys that a move reports as new. -/
def enrols (engine : Engine) : RosterMove → List String
  | .operation operation _ => engine.registers operation
  | .batches _ => []
  | .meanwhile _ => []

/-- The engine after several moves. -/
def playAll (engine : Engine) (moves : List RosterMove) : Engine := moves.foldl play engine

/-- The keys that several moves report as new, in order. -/
def enrolled (engine : Engine) : List RosterMove → List String
  | [] => []
  | move :: rest => engine.enrols move ++ (engine.play move).enrolled rest

variable (engine : Engine)

/-- Leaving an overview revises the communities at most. -/
theorem revises_leaveOverview (key : String) (spec : RuleSpec)
    (ordered : Table.Ordered CommunityRow.name engine.db.communities.rows) :
    Revises engine.db.communities.rows
      (engine.leaveOverview key spec).2.db.communities.rows := by
  unfold leaveOverview
  split
  · split
    · next db known updated =>
      obtain ⟨-, -, -, -, -, rfl⟩ :=
        (Database.updateCommunity_eq_ok_iff _ _ _ _ _ _ ordered).mp updated
      exact Database.revises_leave _ _ _ _
    · rfl
  · rfl

/-- Storing what was gathered revises the communities at most. -/
theorem revises_finish (key : String) (gathered : Gathered)
    (ordered : Table.Ordered CommunityRow.name engine.db.communities.rows) :
    Revises engine.db.communities.rows (engine.finish key gathered).2.db.communities.rows := by
  obtain ⟨-, left⟩ := engine.finish_eq_store key gathered
  rw [left]
  unfold store
  cases engine.prepare key gathered with
  | error failure => rfl
  | ok spec =>
    dsimp only
    split
    · rfl
    · next db written =>
      obtain ⟨-, -, -, -, same⟩ := (Database.putRules_eq_ok_iff _ _ _ _).mp written
      have kept : db.communities = engine.db.communities := by rw [same]
      rw [← kept] at ordered ⊢
      have revises := revises_leaveOverview { engine with db } key spec ordered
      split <;> next outcome =>
        rw [outcome] at revises
        exact revises

/-- Whatever comes of syncs, one after another, the communities are revised at most. -/
theorem syncInvariant_revises (rows : List CommunityRow)
    (ordered : Table.Ordered CommunityRow.name rows) :
    SyncInvariant (fun _ engine => Revises rows engine.db.communities.rows) fun _ _ => True where
  gather _ _ _ revises := ⟨revises, trivial⟩
  refuse _ _ _ _ _ revises := revises
  finish _ engine _ key gathered _ _ revises :=
    revises.trans (engine.revises_finish key gathered (revises.ordered ordered))

/-- So they are by syncs that take turns. -/
theorem crewInvariant_revises (rows : List CommunityRow)
    (ordered : Table.Ordered CommunityRow.name rows) :
    CrewInvariant (fun engine => Revises rows engine.db.communities.rows) fun _ => False where
  traffic _ _ revises := revises
  finish engine key gathered _ revises :=
    revises.trans (engine.revises_finish key gathered (revises.ordered ordered))

/-- Every operation but a registration revises the communities at most, once they are set up. -/
theorem revises_after (operation : Operation) (later : operation ≠ .createSchema)
    (others : ¬ ∃ name displayName, operation = .addCommunity name displayName)
    (ordered : Table.Ordered CommunityRow.name engine.db.communities.rows) :
    Revises engine.db.communities.rows (engine.after operation).db.communities.rows := by
  cases operation with
  | syncOne name =>
    have start : Revises engine.db.communities.rows engine.db.communities.rows := .refl _
    have revises := (syncInvariant_revises _ ordered).syncOne [] engine name start
    rw [after]
    exact revises
  | syncAll names =>
    have start : Revises engine.db.communities.rows engine.db.communities.rows := .refl _
    have revises := (syncInvariant_revises _ ordered).syncAll [] engine names start
    rw [after]
    exact revises
  | lint request userId =>
    rw [after, (engine.lint_tables request userId).2]
    exact .refl _
  | checkGate userId =>
    obtain ⟨traffic, same⟩ := engine.checkGate_frame userId
    rw [after, same]
    exact .refl _
  | fetchRules name => exact .refl _
  | fetchWiki name => exact .refl _
  | putRules name spec =>
    rw [after]
    cases put : engine.db.putRules name spec with
    | error failure => exact .refl _
    | ok db =>
      obtain ⟨-, -, -, -, rfl⟩ := (Database.putRules_eq_ok_iff _ _ _ _).mp put
      exact .refl _
  | insertEvent event =>
    rw [after]
    cases inserted : engine.db.insertEvent event with
    | error failure => exact .refl _
    | ok result =>
      obtain ⟨createdAt, -, -, same⟩ := engine.db.insertEvent_appended _ _ _ inserted
      rw [onDatabase, same]
      exact .refl _
  | addCommunity name displayName => exact absurd ⟨name, displayName, rfl⟩ others
  | updateCommunity name overview syncedAt =>
    rw [after]
    cases updated : engine.db.updateCommunity name overview syncedAt with
    | error failure => exact .refl _
    | ok result =>
      obtain ⟨-, -, -, -, -, same⟩ :=
        (Database.updateCommunity_eq_ok_iff _ _ _ _ _ _ ordered).mp updated
      rw [onDatabase, same]
      exact engine.db.revises_leave _ _ _
  | createSchema => exact absurd rfl later

/-- A sync of many communities that fails as a whole has not begun. -/
theorem syncAll_error (names : Option (List String)) (failure : Failure)
    (failed : (engine.syncAll names).1 = .error failure) : (engine.syncAll names).2 = engine := by
  have begun (names : List String) (failed : (engine.syncNames names).1 = .error failure) :
      (engine.syncNames names).2 = engine := by
    unfold syncNames at failed ⊢
    split at failed
    · rfl
    · cases failed
  unfold syncAll at failed ⊢
  split at failed
  · exact begun _ failed
  · split at failed
    · next listed =>
      rw [if_pos listed]
      split at failed
      · exact begun _ failed
      · rfl
    · next unlisted => rw [if_neg unlisted]

/-- An operation that fails leaves the communities as they were. -/
theorem communities_of_fails (failure : Failure) (operation : Operation)
    (fails : engine.Fails failure operation) :
    (engine.after operation).db.communities = engine.db.communities := by
  cases operation with
  | syncOne name =>
    obtain ⟨-, communities, -⟩ := engine.failed_sync_leaves_tables name failure fails
    rw [after, communities]
  | syncAll names => rw [after, engine.syncAll_error names failure fails]
  | lint request userId =>
    rw [after]
    exact (engine.lint_tables request userId).2
  | checkGate userId =>
    obtain ⟨traffic, same⟩ := engine.checkGate_frame userId
    rw [after, same]
  | fetchRules name => rfl
  | fetchWiki name => rfl
  | putRules name spec =>
    have failed : engine.db.putRules name spec = .error failure := fails
    rw [after, failed]
    rfl
  | insertEvent event =>
    have failed : engine.db.insertEvent event = .error failure := fails
    rw [after, failed]
    rfl
  | addCommunity name displayName =>
    have failed : engine.db.addCommunity name displayName = .error failure := fails
    rw [after, failed]
    rfl
  | updateCommunity name overview syncedAt =>
    have failed : engine.db.updateCommunity name overview syncedAt = .error failure := fails
    rw [after, failed]
    rfl
  | createSchema =>
    have failed : engine.db.createSchema = .error failure := fails
    rw [after, failed]
    rfl

/-- An engine whose communities are in order and have the names that were registered. -/
structure Lists (registered : List String) : Prop where
  ordered : Table.Ordered CommunityRow.name engine.db.communities.rows
  names : engine.db.names.Perm registered

namespace Lists

variable {engine after : Engine} {registered : List String}

/-- A list that is revised at most goes on to have the same names. -/
theorem of_revises (lists : engine.Lists registered)
    (revises : Revises engine.db.communities.rows after.db.communities.rows) :
    after.Lists registered := by
  refine ⟨revises.ordered lists.ordered, ?_⟩
  rw [Database.names, revises.names]
  exact lists.names

/-- A registration that reports a new key adds it, and no other does anything. -/
theorem addCommunity (lists : engine.Lists registered) (name : String)
    (displayName : Option String) :
    (engine.after (.addCommunity name displayName)).Lists
      (registered ++ engine.registers (.addCommunity name displayName)) := by
  rw [Engine.after, registers]
  cases added : engine.db.addCommunity name displayName with
  | error failure =>
    rw [List.append_nil]
    exact lists
  | ok result =>
    obtain ⟨db, fresh⟩ := result
    rcases (Database.addCommunity_eq_ok_iff _ _ _ _ _).mp added with
      ⟨-, -, ⟨-, rfl, rfl⟩ | ⟨vacant, -, rfl, rfl⟩⟩
    · rw [List.append_nil]
      exact lists
    · refine ⟨lists.ordered.putRow _, ?_⟩
      exact (Table.keys_putRow_of_notMem _ vacant).trans
        ((lists.names.cons _).trans (List.perm_append_singleton _ _).symm)

/-- An operation adds the keys that it reports as new. -/
theorem operation (lists : engine.Lists registered) (operation : Operation)
    (later : operation ≠ .createSchema) :
    (engine.after operation).Lists (registered ++ engine.registers operation) := by
  by_cases adds : ∃ name displayName, operation = .addCommunity name displayName
  · obtain ⟨name, displayName, rfl⟩ := adds
    exact lists.addCommunity name displayName
  · have silent : engine.registers operation = [] := by
      rw [registers]
      exact fun name displayName same => adds ⟨name, displayName, same⟩
    rw [silent, List.append_nil]
    exact lists.of_revises (engine.revises_after operation later adds lists.ordered)

/-- So does a move. -/
theorem play (lists : engine.Lists registered) (move : RosterMove) :
    (engine.play move).Lists (registered ++ engine.enrols move) := by
  cases move with
  | operation operation later => exact lists.operation operation later
  | batches plan =>
    rw [enrols, List.append_nil]
    exact lists.of_revises
      ((crewInvariant_revises _ lists.ordered).runBatches engine plan
        (fun ⟨_, _, _, _, never⟩ => never) (.refl _))
  | meanwhile world =>
    rw [enrols, List.append_nil]
    exact ⟨lists.ordered, lists.names⟩

/-- Several moves add the keys that they report as new. -/
theorem playAll (lists : engine.Lists registered) (moves : List RosterMove) :
    (engine.playAll moves).Lists (registered ++ engine.enrolled moves) := by
  induction moves generalizing engine registered with
  | nil =>
    rw [enrolled, List.append_nil]
    exact lists
  | cons move rest inductionHypothesis =>
    rw [enrolled, ← List.append_assoc]
    exact inductionHypothesis (lists.play move)

end Lists

/-- The list of communities is the sorted set of the keys that registrations have reported as new.

After any run from an empty table the names strictly increase in the order of their characters, and
they are the keys for which a registration has reported that it is new, each once. They are listed
as they are when there are sessions and the table is there.

A registration comes to something when they are and the table takes the new row, if it needs one. It
reports a new name exactly when the key is not on the list. An update comes to something when the
table is there, the overview can be written, and the table takes it if the community is registered.
It reports a registered community exactly when the key is on the list, and then changes the overview
and the time in the row under that key, and nothing else. A registration or an update that fails
changes nothing at all, and an operation of any other kind that fails nothing in the table of
communities.

Proof: a registration extends the rows and the keys reported alike. Nothing else adds a row, since
an overview is left only where there is a row. -/
theorem communities_are_a_sorted_set (moves : List RosterMove)
    (empty : engine.db.communities.rows = []) :
    let after := engine.playAll moves
    let table := after.db.communities
    after.db.names.Pairwise (· < ·) ∧
      after.db.names.Perm (engine.enrolled moves) ∧
      (after.db.communityNames =
        if after.db.connected then
          if table.present then .ok after.db.names else .error (.store .communityList)
        else .error (.missing .sessions)) ∧
      (∀ name displayName,
        ((∃ result, after.db.addCommunity name displayName = .ok result) ↔
          after.db.connected = true ∧ table.present = true ∧
            (Community.key name ∉ after.db.names → table.writable = true)) ∧
        (∀ db fresh, after.db.addCommunity name displayName = .ok (db, fresh) →
          (fresh = true ↔ Community.key name ∉ after.db.names)) ∧
        ∀ failure, after.db.addCommunity name displayName = .error failure →
          after.after (.addCommunity name displayName) = after) ∧
      (∀ name overview syncedAt,
        ((∃ result, after.db.updateCommunity name overview syncedAt = .ok result) ↔
          after.db.connected = true ∧ table.present = true ∧ overview.isStorable = true ∧
            (Community.key name ∈ after.db.names → table.writable = true)) ∧
        (∀ db known, after.db.updateCommunity name overview syncedAt = .ok (db, known) →
          (known = true ↔ Community.key name ∈ after.db.names) ∧
            db = { after.db with communities := { table with
              rows := table.rows.map fun row =>
                if row.name = Community.key name then { row with overview, syncedAt }
                else row } }) ∧
        ∀ failure, after.db.updateCommunity name overview syncedAt = .error failure →
          after.after (.updateCommunity name overview syncedAt) = after) ∧
      ∀ failure operation, after.Fails failure operation →
        (after.after operation).db.communities = table := by
  have start : engine.Lists [] := by
    refine ⟨?_, ?_⟩
    · rw [empty]
      exact List.Pairwise.nil
    · rw [Database.names, empty]
      exact List.Perm.nil
  have lists := start.playAll moves
  rw [List.nil_append] at lists
  refine ⟨lists.ordered, lists.names, (engine.playAll moves).db.communityNames_cases, ?_, ?_,
    (engine.playAll moves).communities_of_fails⟩
  · intro name displayName
    refine ⟨Database.exists_addCommunity_iff _ name displayName,
      fun db fresh => Database.fresh_iff_of_addCommunity _ db name displayName fresh,
      fun failure failed => ?_⟩
    rw [Engine.after, failed]
    rfl
  · intro name overview syncedAt
    refine ⟨Database.exists_updateCommunity_iff _ _ _ _ lists.ordered, fun db known updated => ?_,
      fun failure failed => ?_⟩
    · obtain ⟨-, -, -, -, told, same⟩ :=
        (Database.updateCommunity_eq_ok_iff _ _ _ _ _ _ lists.ordered).mp updated
      exact ⟨told, same⟩
    · rw [Engine.after, failed]
      rfl

/-- An engine that can reach no source, and whose table of communities takes changes or not. -/
def remoteEngine (writable : Bool) : Engine where
  db := { communities := { writable } }
  traffic := offlineVisit.traffic
  now := offlineVisit.now

/-- A run with a name that is registered twice and one that cannot be. -/
def enrolment : List RosterMove :=
  [.operation (.addCommunity "r/Cats" none) nofun, .operation (.addCommunity "/r/CATS/" none) nofun,
    .meanwhile (remoteEngine false), .operation (.addCommunity "dogs" none) nofun,
    .meanwhile (remoteEngine true), .operation (.syncOne "cats") nofun,
    .operation (.addCommunity "birds" none) nofun]

/-- Two names come to be on the list, in order. -/
theorem two_names_are_listed :
    ((remoteEngine true).playAll enrolment).db.names.Perm ["cats", "birds"] ∧
      ((remoteEngine true).playAll enrolment).db.communityNames = .ok ["birds", "cats"] := by
  have enrolled : (remoteEngine true).enrolled enrolment = ["cats", "birds"] := by decide +kernel
  have left : ((remoteEngine true).playAll enrolment).db.names = ["birds", "cats"] ∧
      ((remoteEngine true).playAll enrolment).db.connected = true ∧
      ((remoteEngine true).playAll enrolment).db.communities.present = true := by
    decide +kernel
  obtain ⟨names, connected, present⟩ := left
  obtain ⟨-, registered, listed, -⟩ :=
    (remoteEngine true).communities_are_a_sorted_set enrolment rfl
  rw [enrolled] at registered
  rw [names, connected, if_pos rfl, present, if_pos rfl] at listed
  exact ⟨registered, listed⟩

end Engine

end Rulebook
