import Rulebook.Proofs.Landing

/-!
# What a failed sync leaves

A sync can break off at the name, at the document on file, at writing the rules and at leaving
the overview. Only the last two touch the database, and a write that fails changes nothing. So
the failure tells what has been written by then: nothing at all, unless the overview could not
be left. In that case the rules are on file as a sync that succeeds would have left them.
-/

namespace Rulebook

/-- True of the failure to leave an overview with a community. -/
def Failure.isCommunityWrite : Failure → Bool
  | .store (.communityWrite _) => true
  | _ => false

/-- A fault is no failure of a write. -/
theorem Failure.isCommunityWrite_of_ofFault {α : Type} (result : Except Fault α)
    (failure : Failure) (failed : Failure.ofFault result = .error failure) :
    failure.isCommunityWrite = false := by
  cases result with
  | ok value => cases failed
  | error fault =>
    obtain rfl := Except.error.inj failed
    rfl

namespace Database

/-- Rules that cannot be read are no failure of the communities. -/
theorem isCommunityWrite_of_getRules (db : Database) (name : String) (failure : Failure)
    (failed : db.getRules name = .error failure) : failure.isCommunityWrite = false := by
  simp only [getRules, ruleDocument?, bind_eq_error_iff, session_eq_error_iff,
    orFail_eq_error_iff] at failed
  rcases failed with (⟨-, rfl⟩ | ⟨-, -, ⟨-, rfl⟩ | ⟨rows, -, unmatched⟩⟩) | ⟨found, -, unread⟩
  · rfl
  · rfl
  · split at unmatched <;> cases unmatched
  · split at unread
    · next document =>
      rcases (bind_eq_error_iff _ _ _).mp unread with refused | ⟨_, _, returned⟩
      · cases read : RuleSpec.read document with
        | ok spec =>
          rw [read] at refused
          cases refused
        | bad problems =>
          rw [read] at refused
          obtain rfl := Except.error.inj refused
          rfl
      · cases returned
    · cases unread

/-- Rules that cannot be written are no failure of the communities. -/
theorem isCommunityWrite_of_putRules (db : Database) (name : String) (spec : RuleSpec)
    (failure : Failure) (failed : db.putRules name spec = .error failure) :
    failure.isCommunityWrite = false := by
  simp only [putRules, bind_eq_error_iff, session_eq_error_iff] at failed
  rcases failed with ⟨-, rfl⟩ | ⟨-, -, refused⟩
  · rfl
  · split at refused
    · obtain ⟨-, rfl⟩ := (orFail_eq_error_iff _ _ _).mp refused
      rfl
    · obtain rfl := Except.error.inj refused
      rfl

/-- With sessions, an overview that cannot be left is reported under the key of its
community. -/
theorem updateCommunity_error (db : Database) (name : String) (overview : Json)
    (syncedAt : Option Calendar.Moment) (failure : Failure) (connected : db.connected = true)
    (failed : db.updateCommunity name overview syncedAt = .error failure) :
    failure = .store (.communityWrite (Community.key name)) := by
  simp only [updateCommunity, bind_eq_error_iff, session_eq_error_iff, orFail_eq_error_iff]
    at failed
  rcases failed with ⟨closed, -⟩ | ⟨-, -, ⟨-, rfl⟩ | ⟨rows, -, refused⟩⟩
  · rw [connected] at closed
    cases closed
  · rfl
  · split at refused
    · exact (Except.error.inj refused).symm
    · split at refused
      · cases refused
      · rcases (bind_eq_error_iff _ _ _).mp refused with unwritten | ⟨_, _, returned⟩
        · exact ((orFail_eq_error_iff _ _ _).mp unwritten).2
        · cases returned

end Database

namespace Engine

variable (engine : Engine) (name key : String) (gathered : Gathered) (failure : Failure)

/-- Preparing a specification writes nothing, so its failures are none of a write. -/
theorem isCommunityWrite_of_prepare (failed : engine.prepare key gathered = .error failure) :
    failure.isCommunityWrite = false := by
  simp only [prepare, bind_eq_error_iff, pure, Except.pure, reduceCtorEq, and_false, exists_false,
    or_false] at failed
  rcases failed with uncompiled | ⟨-, -, unread | ⟨-, -, noAddress | ⟨-, -, noAddress⟩⟩⟩
  · exact Failure.isCommunityWrite_of_ofFault _ failure uncompiled
  · exact engine.db.isCommunityWrite_of_getRules key failure unread
  · exact Failure.isCommunityWrite_of_ofFault _ failure noAddress
  · exact Failure.isCommunityWrite_of_ofFault _ failure noAddress

/-- Leaving an overview fails for the overview alone, and then changes nothing. -/
theorem leaveOverview_error (spec : RuleSpec) (connected : engine.db.connected = true)
    (failed : (engine.leaveOverview key spec).1 = .error failure) :
    failure = .store (.communityWrite (Community.key key)) ∧
      (engine.leaveOverview key spec).2 = engine := by
  unfold leaveOverview at failed ⊢
  split at failed
  · next listed =>
    rw [if_pos listed]
    split at failed
    · cases failed
    · next refused broken =>
      obtain rfl := Except.error.inj failed
      exact ⟨engine.db.updateCommunity_error key _ _ _ connected broken, rfl⟩
  · cases failed

/-- A failed attempt at storing leaves the engine as it was, or it has put a specification on
file and could not leave the overview. -/
theorem store_error_cases (failed : (engine.store key gathered).1 = .error failure) :
    (failure.isCommunityWrite = false ∧ engine.stored? key gathered = none ∧
        (engine.store key gathered).2 = engine) ∨
      ∃ spec db, engine.stored? key gathered = some spec ∧ engine.db.putRules key spec = .ok db ∧
        failure = .store (.communityWrite (Community.key key)) ∧
        (engine.store key gathered).2 = { engine with db } := by
  unfold store stored? at *
  cases prepared : engine.prepare key gathered with
  | error broken =>
    simp only [prepared] at failed ⊢
    obtain rfl := Except.error.inj failed
    exact Or.inl ⟨engine.isCommunityWrite_of_prepare key gathered broken prepared, trivial, trivial⟩
  | ok spec =>
    simp only [prepared] at failed ⊢
    cases written : engine.db.putRules key spec with
    | error broken =>
      simp only [written] at failed ⊢
      obtain rfl := Except.error.inj failed
      exact Or.inl ⟨engine.db.isCommunityWrite_of_putRules key spec broken written, trivial, trivial⟩
    | ok db =>
      simp only [written] at failed ⊢
      obtain ⟨connected, -, -, -, same⟩ := (Database.putRules_eq_ok_iff _ _ _ _).mp written
      have left := ({ engine with db } : Engine).leaveOverview_error key failure spec
        (by rw [same]; exact connected)
      cases outcome : ({ engine with db } : Engine).leaveOverview key spec with
      | mk result after =>
        rw [outcome] at left
        simp only [outcome] at failed ⊢
        cases result with
        | ok value => cases failed
        | error broken =>
          obtain rfl := Except.error.inj failed
          obtain ⟨about, unchanged⟩ := left rfl
          exact Or.inr ⟨spec, db, rfl, written, about, unchanged⟩

/-- A failed sync leaves the database as it was, or it has put a specification on file and could
not leave the overview. -/
theorem syncOne_error_cases (failed : (engine.syncOne name).1 = .error failure) :
    (failure.isCommunityWrite = false ∧ (engine.syncOne name).2.db = engine.db) ∨
      ∃ spec db, engine.synced? name = some spec ∧
        engine.db.putRules (Community.key name) spec = .ok db ∧
        failure = .store (.communityWrite (storeKey name)) ∧ (engine.syncOne name).2.db = db := by
  cases accepted : syncKey name with
  | error refused =>
    have broken : failure = refused := by
      simp only [syncOne, accepted] at failed
      exact (Except.error.inj failed).symm
    obtain ⟨-, named⟩ := (syncKey_eq_error_iff name refused).mp accepted
    refine Or.inl ⟨?_, ?_⟩
    · rw [broken, named]
      rfl
    · simp only [syncOne, accepted]
  | ok key =>
    obtain ⟨-, rfl⟩ := (syncKey_eq_ok_iff name key).mp accepted
    have stored : engine.synced? name = (engine.gather (Community.key name)).2.stored?
        (Community.key name) (engine.gather (Community.key name)).1 := by
      simp only [synced?, accepted]
    obtain ⟨outcome, left⟩ := (engine.gather (Community.key name)).2.finish_eq_store
      (Community.key name) (engine.gather (Community.key name)).1
    rw [syncOne_eq_finish engine accepted] at failed ⊢
    rw [outcome] at failed
    rw [left, stored]
    rcases store_error_cases _ _ _ failure failed with
      ⟨other, -, untouched⟩ | ⟨spec, db, put, written, about, after⟩
    · refine Or.inl ⟨other, ?_⟩
      rw [untouched]
      rfl
    · refine Or.inr ⟨spec, db, put, written, about, ?_⟩
      rw [after]

/-- The engine with another list of communities, or with none. -/
def withCommunities (knows : Bool) (communities : Table CommunityRow) : Engine :=
  { engine with db := { engine.db with communities }, knowsCommunities := knows }

/-- What a sync puts on file does not depend on the communities. -/
theorem synced?_withCommunities (knows : Bool) (communities : Table CommunityRow) :
    (engine.withCommunities knows communities).synced? name = engine.synced? name := by
  apply Option.ext
  intro spec
  simp only [synced?_eq_some_iff, Database.putRules_eq_ok_iff]
  constructor
  · rintro ⟨named, prepared, _, connected, storable, present, writable, -⟩
    exact ⟨named, prepared, _, connected, storable, present, writable, rfl⟩
  · rintro ⟨named, prepared, _, connected, storable, present, writable, -⟩
    exact ⟨named, prepared, _, connected, storable, present, writable, rfl⟩

/-- Without a list of communities a sync that puts a specification on file succeeds. -/
theorem syncOne_of_unlisted (spec : RuleSpec) (unlisted : engine.knowsCommunities = false)
    (synced : engine.synced? name = some spec) : (engine.syncOne name).1 = .ok spec := by
  obtain ⟨named, prepared, db, written⟩ := (engine.synced?_eq_some_iff name spec).mp synced
  have accepted : syncKey name = .ok (Community.key name) :=
    (syncKey_eq_ok_iff name _).mpr ⟨named, rfl⟩
  have sameDatabase : (engine.gather (Community.key name)).2.db = engine.db := rfl
  have sameList : (engine.gather (Community.key name)).2.knowsCommunities = false := unlisted
  obtain ⟨outcome, -⟩ := (engine.gather (Community.key name)).2.finish_eq_store
    (Community.key name) (engine.gather (Community.key name)).1
  rw [syncOne_eq_finish engine accepted, outcome]
  simp [store, prepared, sameDatabase, written, leaveOverview, sameList]

/-- A failed sync leaves a state that its failure tells. The events and the communities are as
they were, and so are the rules, whatever point it has broken off at and whatever was wrong with
the tables, the document on file or the source. The one exception is the failure to leave the
overview: then the rules are those that every sync of that name leaves that gets past the
communities, and there is one that succeeds.

Proof: only two steps write. A refused write changes nothing, and what is put on file is decided
before the communities are looked at, so it is the same with any list of them and with none. -/
theorem failed_sync_leaves_tables (failed : (engine.syncOne name).1 = .error failure) :
    (engine.syncOne name).2.db.events = engine.db.events ∧
      (engine.syncOne name).2.db.communities = engine.db.communities ∧
      (failure ≠ .store (.communityWrite (storeKey name)) →
        (engine.syncOne name).2.db.rules = engine.db.rules) ∧
      (failure = .store (.communityWrite (storeKey name)) →
        (∃ knows communities spec,
          ((engine.withCommunities knows communities).syncOne name).1 = .ok spec) ∧
        ∀ knows communities,
          ((engine.withCommunities knows communities).syncOne name).2.db.rules =
            (engine.syncOne name).2.db.rules) := by
  have alike (knows : Bool) (communities : Table CommunityRow) :
      ((engine.withCommunities knows communities).syncOne name).2.db.rules =
        (engine.syncOne name).2.db.rules := by
    obtain ⟨-, rules⟩ := engine.syncOne_rules name
    obtain ⟨-, others⟩ := (engine.withCommunities knows communities).syncOne_rules name
    rw [rules, others, synced?_withCommunities]
    rfl
  rcases engine.syncOne_error_cases name failure failed with
    ⟨other, untouched⟩ | ⟨spec, db, synced, written, about, after⟩
  · rw [untouched]
    refine ⟨rfl, rfl, fun _ => rfl, ?_⟩
    rintro rfl
    cases other
  · obtain ⟨-, -, -, -, same⟩ := (Database.putRules_eq_ok_iff _ _ _ _).mp written
    refine ⟨?_, ?_, ?_, ?_⟩
    · rw [after, same]
    · rw [after, same]
    · intro different
      exact absurd about different
    · intro _
      refine ⟨⟨false, engine.db.communities, spec, ?_⟩, alike⟩
      apply syncOne_of_unlisted
      · rfl
      · rw [synced?_withCommunities]
        exact synced

/-- An engine whose communities have vanished. -/
def unlistedEngine : Engine where
  db := { communities := .missing }
  traffic := offlineVisit.traffic
  now := offlineVisit.now

/-- The sync fails for the overview, and the rules are on file as if it had not. -/
theorem vanished_communities_leave_rules :
    (unlistedEngine.syncOne "cats").1 = .error (.store (.communityWrite "cats")) ∧
      (unlistedEngine.syncOne "cats").2.db.rules.rows.length = 1 ∧
      (unlistedEngine.syncOne "cats").2.db.events = unlistedEngine.db.events ∧
      ((unlistedEngine.withCommunities true {}).syncOne "cats").2.db.rules =
        (unlistedEngine.syncOne "cats").2.db.rules := by
  have key : storeKey "cats" = "cats" := by decide
  have failed : (unlistedEngine.syncOne "cats").1 =
      .error (.store (.communityWrite (storeKey "cats"))) := rfl
  obtain ⟨events, -, -, rules⟩ := unlistedEngine.failed_sync_leaves_tables "cats" _ failed
  rw [key] at failed
  exact ⟨failed, rfl, events, (rules rfl).2 true {}⟩

end Engine

end Rulebook
