import Rulebook.Proofs.Replies
import Rulebook.Proofs.Store
import Rulebook.Proofs.Sync

/-!
# Where a sync lands

A sync reads the rows of its own key and puts rows under its own key. So its outcome is the same
on two databases that agree on that key, and it puts the same rows into both. Syncs of
different keys therefore commute, and neither sees whether the other has come before it.
-/

namespace Rulebook

open Calendar (Moment)

namespace Table

variable {α : Type}

/-- Rows under different keys can be put in either order. Each goes before the first row whose
key is not smaller than its own, and the other row does not move that place. -/
theorem putRow_comm (keyOf : α → String) (first second : α) (rows : List α)
    (different : keyOf first ≠ keyOf second) :
    putRow keyOf first (putRow keyOf second rows) =
      putRow keyOf second (putRow keyOf first rows) := by
  induction rows with
  | nil => grind [putRow]
  | cons row rest inductionHypothesis =>
    by_cases less : keyOf first < keyOf second
    · grind [putRow]
    · grind [putRow]

/-- The row that is found under a key has that key. -/
theorem key_of_rowAt? (keyOf : α → String) (key : String) (rows : List α) (row : α)
    (found : rowAt? keyOf key rows = some row) : keyOf row = key := by
  unfold rowAt? at found
  have chosen := List.find?_some found
  exact beq_iff_eq.mp chosen

/-- Puts a row, if there is one to put. -/
def putRow? (keyOf : α → String) (row : Option α) (rows : List α) : List α :=
  match row with
  | some row => putRow keyOf row rows
  | none => rows

/-- What is found under another key does not depend on the row that is put. -/
theorem rowAt?_putRow?_of_ne (keyOf : α → String) (row : Option α) (rows : List α)
    (key other : String) (under : ∀ found, row = some found → keyOf found = key)
    (different : other ≠ key) : rowAt? keyOf other (putRow? keyOf row rows) = rowAt? keyOf other rows := by
  cases row with
  | none => rfl
  | some found =>
    have placed := under found rfl
    exact rowAt?_putRow_of_ne keyOf found rows other (by rw [placed]; exact different)

/-- Optional rows under different keys can be put in either order. -/
theorem putRow?_comm (keyOf : α → String) (first second : Option α) (rows : List α)
    (key other : String) (here : ∀ row, first = some row → keyOf row = key)
    (there : ∀ row, second = some row → keyOf row = other) (different : key ≠ other) :
    putRow? keyOf first (putRow? keyOf second rows) =
      putRow? keyOf second (putRow? keyOf first rows) := by
  cases first with
  | none => rfl
  | some row =>
    cases second with
    | none => rfl
    | some otherRow =>
      refine putRow_comm keyOf row otherRow rows ?_
      rw [here row rfl, there otherRow rfl]
      exact different

end Table

namespace Database

/-- Rows to put under one key: a rule document and a registered community. -/
structure Landing (key : String) where
  rule : Option RuleRow
  listed : Option CommunityRow
  ruleUnder : ∀ row, rule = some row → row.community = key
  listedUnder : ∀ row, listed = some row → row.name = key

namespace Landing

variable {key : String}

/-- Nothing to put. -/
def empty : Landing key := ⟨none, none, fun _ none => (nomatch none), fun _ none => (nomatch none)⟩

/-- The rules of one landing and the community of another. -/
def both (first second : Landing key) : Landing key :=
  ⟨first.rule, second.listed, first.ruleUnder, second.listedUnder⟩

end Landing

/-- The database with the rows put into it. -/
def land {key : String} (db : Database) (landing : Landing key) : Database :=
  { db with
    rules := { db.rules with
      rows := Table.putRow? RuleRow.community landing.rule db.rules.rows }
    communities := { db.communities with
      rows := Table.putRow? CommunityRow.name landing.listed db.communities.rows } }

/-- Rules and a community can be put one after the other. -/
theorem land_land {key : String} (db : Database) (first second : Landing key)
    (unlisted : first.listed = none) (unruled : second.rule = none) :
    (db.land first).land second = db.land (first.both second) := by
  simp only [land, Landing.both, unlisted, unruled, Table.putRow?]

/-- Rows under different keys can be put in either order. -/
theorem land_comm {key other : String} (db : Database) (first : Landing key)
    (second : Landing other) (different : key ≠ other) :
    (db.land first).land second = (db.land second).land first := by
  have rules := Table.putRow?_comm RuleRow.community first.rule second.rule db.rules.rows
    key other first.ruleUnder second.ruleUnder different
  have listed := Table.putRow?_comm CommunityRow.name first.listed second.listed
    db.communities.rows key other first.listedUnder second.listedUnder different
  simp only [land, rules, listed]

/-- Two databases that a sync under a key cannot tell apart: they take the same accesses, and
have the same rows under the key. -/
structure AgreeAt (first second : Database) (key : String) : Prop where
  connected : first.connected = second.connected
  rulesPresent : first.rules.present = second.rules.present
  rulesWritable : first.rules.writable = second.rules.writable
  communitiesPresent : first.communities.present = second.communities.present
  communitiesWritable : first.communities.writable = second.communities.writable
  rule : Table.rowAt? RuleRow.community key first.rules.rows =
    Table.rowAt? RuleRow.community key second.rules.rows
  listed : Table.rowAt? CommunityRow.name key first.communities.rows =
    Table.rowAt? CommunityRow.name key second.communities.rows

/-- Rows under one key are out of sight of every other. -/
theorem agreeAt_land {key other : String} (db : Database) (landing : Landing key)
    (different : other ≠ key) : (db.land landing).AgreeAt db other where
  connected := rfl
  rulesPresent := rfl
  rulesWritable := rfl
  communitiesPresent := rfl
  communitiesWritable := rfl
  rule := Table.rowAt?_putRow?_of_ne _ _ _ key other landing.ruleUnder different
  listed := Table.rowAt?_putRow?_of_ne _ _ _ key other landing.listedUnder different

namespace AgreeAt

variable {first second : Database} {name : String}

/-- A database agrees with itself. -/
theorem refl (db : Database) (key : String) : db.AgreeAt db key :=
  ⟨rfl, rfl, rfl, rfl, rfl, rfl, rfl⟩

/-- What agrees with a database that agrees with a third agrees with that. -/
theorem trans {third : Database} {key : String} (agree : first.AgreeAt second key)
    (next : second.AgreeAt third key) : first.AgreeAt third key :=
  ⟨agree.connected.trans next.connected, agree.rulesPresent.trans next.rulesPresent,
    agree.rulesWritable.trans next.rulesWritable,
    agree.communitiesPresent.trans next.communitiesPresent,
    agree.communitiesWritable.trans next.communitiesWritable, agree.rule.trans next.rule,
    agree.listed.trans next.listed⟩

/-- Agreement is kept when both take the same row of rules under the key. -/
theorem land_rule {key : String} (agree : first.AgreeAt second key) (landing : Landing key)
    (row : RuleRow) (put : landing.rule = some row) (unlisted : landing.listed = none) :
    (first.land landing).AgreeAt (second.land landing) key := by
  have placed := landing.ruleUnder row put
  have found (rows : List RuleRow) :
      Table.rowAt? RuleRow.community key (Table.putRow RuleRow.community row rows) = some row := by
    rw [← placed]
    exact Table.rowAt?_putRow_self RuleRow.community row rows
  refine ⟨agree.connected, agree.rulesPresent, agree.rulesWritable, agree.communitiesPresent,
    agree.communitiesWritable, ?_, ?_⟩
  · simp only [land, put, Table.putRow?, found]
  · simp only [land, unlisted, Table.putRow?]
    exact agree.listed

/-- The rules of a community are read from its own row. -/
theorem getRules_eq (agree : first.AgreeAt second (Community.key name)) :
    first.getRules name = second.getRules name := by
  have rule := agree.rule
  simp only [getRules, ruleDocument?, session, Table.read?, agree.connected, agree.rulesPresent]
  cases second.connected with
  | false => rfl
  | true =>
    cases second.rules.present with
    | false => rfl
    | true =>
      simp only [if_true, orFail, bind, Except.bind, rule]

/-- A document is stored under its key in both databases or refused by both. -/
theorem putRules_cases (agree : first.AgreeAt second (Community.key name)) (spec : RuleSpec) :
    (∃ failure, first.putRules name spec = .error failure ∧
        second.putRules name spec = .error failure) ∨
      ∃ landing : Landing (Community.key name),
        landing.rule = some ⟨Community.key name, spec.document⟩ ∧ landing.listed = none ∧
          first.putRules name spec = .ok (first.land landing) ∧
          second.putRules name spec = .ok (second.land landing) := by
  obtain ⟨_, connected, ⟨present, writable, _⟩, _, _⟩ := first
  obtain ⟨_, _, ⟨_, _, _⟩, _, _⟩ := second
  obtain ⟨rfl, rfl, rfl, -, -, -, -⟩ := agree
  simp only [putRules]
  cases connected with
  | false => exact Or.inl ⟨_, rfl, rfl⟩
  | true =>
    cases spec.document.isStorable with
    | false => exact Or.inl ⟨_, rfl, rfl⟩
    | true =>
      cases present with
      | false => exact Or.inl ⟨_, rfl, rfl⟩
      | true =>
        cases writable with
        | false => exact Or.inl ⟨_, rfl, rfl⟩
        | true =>
          exact Or.inr ⟨⟨some ⟨Community.key name, spec.document⟩, none,
            fun row same => Option.some.inj same ▸ rfl, fun _ none => (nomatch none)⟩,
            rfl, rfl, rfl, rfl⟩

/-- An overview is left with the same community in both databases or refused by both. -/
theorem updateCommunity_cases (agree : first.AgreeAt second (Community.key name)) (overview : Json)
    (syncedAt : Option Moment) :
    (∃ failure, first.updateCommunity name overview syncedAt = .error failure ∧
        second.updateCommunity name overview syncedAt = .error failure) ∨
      ∃ (known : Bool) (landing : Landing (Community.key name)), landing.rule = none ∧
        first.updateCommunity name overview syncedAt = .ok (first.land landing, known) ∧
        second.updateCommunity name overview syncedAt = .ok (second.land landing, known) := by
  have listed := agree.listed
  obtain ⟨_, connected, _, _, ⟨present, writable, rows⟩⟩ := first
  obtain ⟨_, _, _, _, ⟨_, _, otherRows⟩⟩ := second
  obtain ⟨rfl, -, -, rfl, rfl, -, -⟩ := agree
  simp only [updateCommunity]
  cases connected with
  | false => exact Or.inl ⟨_, rfl, rfl⟩
  | true =>
    cases present with
    | false => exact Or.inl ⟨_, rfl, rfl⟩
    | true =>
      cases overview.isStorable with
      | false => exact Or.inl ⟨_, rfl, rfl⟩
      | true =>
        simp only [session, Table.read?, if_true, orFail, bind, Except.bind, Bool.not_true,
          Bool.false_eq_true, if_false]
        rw [listed]
        cases found : Table.rowAt? CommunityRow.name (Community.key name) otherRows with
        | none =>
          exact Or.inr ⟨false, .empty, rfl, rfl, rfl⟩
        | some row =>
          have named := Table.key_of_rowAt? CommunityRow.name _ otherRows row found
          cases writable with
          | false => exact Or.inl ⟨_, rfl, rfl⟩
          | true =>
            exact Or.inr ⟨true, ⟨none, some { row with overview, syncedAt },
              fun _ none => (nomatch none), fun _ same => Option.some.inj same ▸ named⟩,
              rfl, rfl, rfl⟩

end AgreeAt

end Database

namespace Engine

open Database (Landing)

/-- The key under which the tables hold the rows of a community. -/
def storeKey (name : String) : String := Community.key (Community.key name)

/-- Two engines with the same settings, clock and connection. -/
structure SameSettings (first second : Engine) : Prop where
  sync : first.sync = second.sync
  now : first.now = second.now
  knows : first.knowsCommunities = second.knowsCommunities
  rate : first.traffic.rate = second.traffic.rate
  connected : first.traffic.connected = second.traffic.connected

namespace SameSettings

variable {first second third : Engine}

theorem refl (engine : Engine) : SameSettings engine engine := ⟨rfl, rfl, rfl, rfl, rfl⟩

theorem symm (same : SameSettings first second) : SameSettings second first :=
  ⟨same.sync.symm, same.now.symm, same.knows.symm, same.rate.symm, same.connected.symm⟩

theorem trans (same : SameSettings first second) (next : SameSettings second third) :
    SameSettings first third :=
  ⟨same.sync.trans next.sync, same.now.trans next.now, same.knows.trans next.knows,
    same.rate.trans next.rate, same.connected.trans next.connected⟩

end SameSettings

/-- Two runs on two databases that come out alike: with the same outcome, and the same rows put
under one key of both. -/
def LandAlike {α : Type} (key : String) (first second : Database)
    (firstRun secondRun : Outcome α) : Prop :=
  firstRun.1 = secondRun.1 ∧ ∃ landing : Landing key,
    firstRun.2.db = first.land landing ∧ secondRun.2.db = second.land landing

/-- Runs that fail alike and touch no database come out alike. -/
theorem LandAlike.of_untouched {α : Type} {key : String} {first second : Database}
    {firstRun secondRun : Outcome α} (outcome : firstRun.1 = secondRun.1)
    (here : firstRun.2.db = first) (there : secondRun.2.db = second) :
    LandAlike key first second firstRun secondRun :=
  ⟨outcome, .empty, here, there⟩

variable {first second : Engine} {name key : String}

/-- The same is prepared from the same row. -/
theorem prepare_congr (same : SameSettings first second)
    (agree : first.db.AgreeAt second.db (Community.key key)) (gathered : Gathered) :
    first.prepare key gathered = second.prepare key gathered := by
  unfold prepare
  rw [agree.getRules_eq, same.sync, same.now]

/-- An overview is left alike, and no rules are put. -/
theorem leaveOverview_alike (same : SameSettings first second)
    (agree : first.db.AgreeAt second.db (Community.key key)) (spec : RuleSpec) :
    (first.leaveOverview key spec).1 = (second.leaveOverview key spec).1 ∧
      ∃ landing : Landing (Community.key key), landing.rule = none ∧
        (first.leaveOverview key spec).2.db = first.db.land landing ∧
        (second.leaveOverview key spec).2.db = second.db.land landing := by
  unfold leaveOverview
  rw [same.knows, same.now]
  cases second.knowsCommunities with
  | false =>
    exact ⟨rfl, .empty, rfl, rfl, rfl⟩
  | true =>
    rcases agree.updateCommunity_cases spec.overview.document (some second.now) with
      ⟨failure, here, there⟩ | ⟨known, landing, unruled, here, there⟩
    · simp only [here, there, if_true]
      exact ⟨trivial, .empty, rfl, rfl, rfl⟩
    · simp only [here, there, if_true]
      exact ⟨trivial, landing, unruled, rfl, rfl⟩

/-- What was gathered is stored alike. -/
theorem store_alike (same : SameSettings first second)
    (agree : first.db.AgreeAt second.db (Community.key key)) (gathered : Gathered) :
    LandAlike (Community.key key) first.db second.db (first.store key gathered)
      (second.store key gathered) := by
  unfold store
  rw [prepare_congr same agree]
  cases second.prepare key gathered with
  | error failure => exact .of_untouched rfl rfl rfl
  | ok spec =>
    rcases agree.putRules_cases spec with
      ⟨failure, here, there⟩ | ⟨landing, put, unlisted, here, there⟩
    · simp only [here, there]
      exact .of_untouched rfl rfl rfl
    · simp only [here, there]
      have after : SameSettings { first with db := first.db.land landing }
          { second with db := second.db.land landing } :=
        ⟨same.sync, same.now, same.knows, same.rate, same.connected⟩
      obtain ⟨outcome, overview, unruled, left, right⟩ :=
        leaveOverview_alike after (agree.land_rule landing _ put unlisted) spec
      have firstLands := left.trans (first.db.land_land landing overview unlisted unruled)
      have secondLands := right.trans (second.db.land_land landing overview unlisted unruled)
      generalize leaveOverview { first with db := first.db.land landing } key spec = firstLeft at *
      generalize leaveOverview { second with db := second.db.land landing } key spec = secondLeft at *
      obtain ⟨firstOutcome, firstAfter⟩ := firstLeft
      obtain ⟨secondOutcome, secondAfter⟩ := secondLeft
      obtain rfl : firstOutcome = secondOutcome := outcome
      cases firstOutcome <;> exact ⟨rfl, landing.both overview, firstLands, secondLands⟩

/-- Counting the outcome changes nothing of it. -/
theorem finish_eq_store (engine : Engine) (key : String) (gathered : Gathered) :
    (engine.finish key gathered).1 = (engine.store key gathered).1 ∧
      (engine.finish key gathered).2.db = (engine.store key gathered).2.db := by
  unfold finish
  split <;> next outcome => rw [outcome]; exact ⟨rfl, rfl⟩

/-- Finishing changes the database and the counters only. -/
theorem finish_traffic (engine : Engine) (key : String) (gathered : Gathered) :
    ∃ metrics db, (engine.finish key gathered).2 =
      { engine with traffic := { engine.traffic with metrics }, db } := by
  obtain ⟨communities, stored⟩ := engine.store_frame key gathered
  unfold finish
  split <;> next outcome =>
    rw [outcome] at stored
    obtain rfl := stored
    exact ⟨_, _, rfl⟩

/-- What was gathered is stored and counted alike. -/
theorem finish_alike (same : SameSettings first second)
    (agree : first.db.AgreeAt second.db (Community.key key)) (gathered : Gathered) :
    LandAlike (Community.key key) first.db second.db (first.finish key gathered)
      (second.finish key gathered) := by
  obtain ⟨outcome, landing, left, right⟩ := store_alike same agree gathered
  obtain ⟨firstOutcome, firstLeft⟩ := first.finish_eq_store key gathered
  obtain ⟨secondOutcome, secondLeft⟩ := second.finish_eq_store key gathered
  exact ⟨firstOutcome.trans (outcome.trans secondOutcome.symm), landing, firstLeft.trans left,
    secondLeft.trans right⟩

/-- Finishing puts rows under one key. -/
theorem exists_landing_finish (engine : Engine) (key : String) (gathered : Gathered) :
    ∃ landing : Landing (Community.key key),
      (engine.finish key gathered).2.db = engine.db.land landing := by
  obtain ⟨-, landing, landed, -⟩ :=
    finish_alike (.refl engine) (.refl engine.db (Community.key key)) gathered
  exact ⟨landing, landed⟩

/-- Finishing stays out of sight of every other key. -/
theorem agreeAt_finish (engine : Engine) (key other : String) (gathered : Gathered)
    (different : other ≠ Community.key key) :
    (engine.finish key gathered).2.db.AgreeAt engine.db other := by
  obtain ⟨landing, landed⟩ := engine.exists_landing_finish key gathered
  rw [landed]
  exact engine.db.agreeAt_land landing different

/-- What is gathered is gathered by the traffic alone. -/
theorem gather_gathered (engine : Engine) (key : String) :
    (engine.gather key).1 = (engine.traffic.gather engine.sync key).1 := rfl

/-- Gathering keeps the settings. -/
theorem gather_settings (engine : Engine) (key : String) :
    SameSettings (engine.gather key).2 engine := by
  obtain ⟨rate, connected, -⟩ := engine.traffic.gather_others engine.sync key
  exact ⟨rfl, rfl, rfl, rate, connected⟩

/-- A sync of a community finishes with what is gathered under its key. -/
theorem syncOne_eq_finish (engine : Engine) (accepted : syncKey name = .ok key) :
    engine.syncOne name = (engine.gather key).2.finish key (engine.gather key).1 := by
  simp only [syncOne, accepted]

/-- Finishing with what another engine gathers is syncing there, if both have the same settings
and agree on the rows. -/
theorem finish_alike_syncOne (same : SameSettings first second) (accepted : syncKey name = .ok key)
    (agree : first.db.AgreeAt second.db (storeKey name)) :
    LandAlike (storeKey name) first.db second.db (first.finish key (second.gather key).1)
      (second.syncOne name) := by
  obtain ⟨-, rfl⟩ := (syncKey_eq_ok_iff name key).mp accepted
  rw [syncOne_eq_finish second accepted]
  exact finish_alike (same.trans (second.gather_settings _).symm) agree _

/-- Syncs that gather the same and see the same rows come out alike. -/
theorem syncOne_alike (same : SameSettings first second)
    (gathered : (first.gather (Community.key name)).1 = (second.gather (Community.key name)).1)
    (agree : first.db.AgreeAt second.db (storeKey name)) :
    LandAlike (storeKey name) first.db second.db (first.syncOne name) (second.syncOne name) := by
  cases accepted : syncKey name with
  | error failure =>
    simp only [syncOne, accepted]
    exact .of_untouched rfl rfl rfl
  | ok key =>
    obtain ⟨-, rfl⟩ := (syncKey_eq_ok_iff name key).mp accepted
    rw [syncOne_eq_finish first accepted, gathered]
    exact finish_alike_syncOne ((first.gather_settings _).trans same) accepted agree

/-- Two engines with the same replies to come for a community gather the same, if their settings
are the same and never break a turn off. -/
theorem gather_congr (same : SameSettings first second) (steady : second.traffic.rate.NeverBreak)
    (replies : ∀ page, first.traffic.feed.repliesAt? key page =
      second.traffic.feed.repliesAt? key page) : (first.gather key).1 = (second.gather key).1 := by
  have otherSteady : first.traffic.rate.NeverBreak := by
    rw [same.rate]
    exact steady
  have fetched (page : SourcePage) := Traffic.fetch_congr first.traffic second.traffic second.sync
    page key otherSteady steady same.connected (replies page)
  rw [gather_gathered, gather_gathered, same.sync, Traffic.gather_eq_ofBodies _ _ _ otherSteady, Traffic.gather_eq_ofBodies _ _ _ steady,
    fetched .aboutRules, fetched .wiki]

/-- What a sync would report on another database. -/
def outcomeOn (engine : Engine) (db : Database) (name : String) : Except Failure RuleSpec :=
  (({ engine with db } : Engine).syncOne name).1

/-- What a sync would make of another database. -/
def landOn (engine : Engine) (db : Database) (name : String) : Database :=
  (({ engine with db } : Engine).syncOne name).2.db

/-- Finishing with what another engine gathers comes to what a sync there would come to on this
database. -/
theorem finish_eq_landOn (same : SameSettings first second) (accepted : syncKey name = .ok key) :
    (first.finish key (second.gather key).1).1 = second.outcomeOn first.db name ∧
      (first.finish key (second.gather key).1).2.db = second.landOn first.db name := by
  have elsewhere : SameSettings first { second with db := first.db } :=
    ⟨same.sync, same.now, same.knows, same.rate, same.connected⟩
  obtain ⟨outcome, landing, left, right⟩ :=
    finish_alike_syncOne elsewhere accepted (.refl first.db _)
  rw [gather_gathered] at outcome left
  rw [gather_gathered]
  unfold outcomeOn landOn
  exact ⟨outcome, left.trans right.symm⟩

/-- Two databases that agree on the key of a sync lead to the same outcome and take the same
rows. -/
theorem landOn_alike (engine : Engine) (db other : Database) (name : String)
    (agree : db.AgreeAt other (storeKey name)) :
    engine.outcomeOn db name = engine.outcomeOn other name ∧
      ∃ landing : Landing (storeKey name),
        engine.landOn db name = db.land landing ∧ engine.landOn other name = other.land landing := by
  have same : SameSettings { engine with db } { engine with db := other } :=
    ⟨rfl, rfl, rfl, rfl, rfl⟩
  refine syncOne_alike same ?_ agree
  rw [gather_gathered, gather_gathered]

/-- A sync stays out of sight of every other key. -/
theorem agreeAt_landOn (engine : Engine) (db : Database) (name : String) (key : String)
    (different : key ≠ storeKey name) : (engine.landOn db name).AgreeAt db key := by
  obtain ⟨-, landing, landed, -⟩ := engine.landOn_alike db db name (.refl db _)
  rw [landed]
  exact db.agreeAt_land landing different

/-- Syncs of different keys can be made in either order. -/
theorem landOn_comm (engine : Engine) (db : Database) (first second : String)
    (different : storeKey first ≠ storeKey second) :
    engine.landOn (engine.landOn db first) second =
      engine.landOn (engine.landOn db second) first := by
  obtain ⟨-, landing, afterSecond, alone⟩ := engine.landOn_alike (engine.landOn db second) db first
    (engine.agreeAt_landOn db second _ different)
  obtain ⟨-, otherLanding, afterFirst, otherAlone⟩ := engine.landOn_alike (engine.landOn db first)
    db second (engine.agreeAt_landOn db first _ different.symm)
  rw [afterSecond, afterFirst, alone, otherAlone]
  exact db.land_comm landing otherLanding different

/-- Several syncs stay out of sight of every key that is none of theirs. -/
theorem agreeAt_foldl_landOn (engine : Engine) (names : List String) (db : Database) (key : String)
    (different : ∀ name ∈ names, key ≠ storeKey name) :
    (names.foldl engine.landOn db).AgreeAt db key := by
  induction names generalizing db with
  | nil => exact .refl db key
  | cons name rest inductionHypothesis =>
    have here := engine.agreeAt_landOn db name key (different name List.mem_cons_self)
    have later := inductionHypothesis (engine.landOn db name) fun other member =>
      different other (List.mem_cons_of_mem _ member)
    rw [List.foldl_cons]
    exact later.trans here

/-- A sync can be made after several of other keys instead of before them. -/
theorem foldl_landOn_comm (engine : Engine) (names : List String) (db : Database) (name : String)
    (different : ∀ other ∈ names, storeKey name ≠ storeKey other) :
    names.foldl engine.landOn (engine.landOn db name) =
      engine.landOn (names.foldl engine.landOn db) name := by
  induction names generalizing db with
  | nil => rw [List.foldl_nil, List.foldl_nil]
  | cons other rest inductionHypothesis =>
    rewrite [List.foldl_cons, List.foldl_cons,
      engine.landOn_comm db name other (different other List.mem_cons_self)]
    exact inductionHypothesis (engine.landOn db other) fun later member =>
      different later (List.mem_cons_of_mem _ member)

end Engine

end Rulebook
