import Rulebook.Proofs.Sync
import Rulebook.Proofs.Trouble

/-!
# What a sync puts on file

A sync of a community with a settled key leaves a document that reads back as it was stored:
the compiled rules with the corrections applied, and the time. The corrections are those that
it has found, so they survive any run of syncs, and syncing again with the same pages changes
nothing but the time.
-/

namespace Rulebook

open Calendar (Moment)

/-- A community and an engine that can sync it: the name has a settled key, the database is
healthy, and what is on file under the key can be read. Documents and replies have been read
from text, so their integers are within the digit limit. The address of the source is a text,
and the clock can be shown, as every time can that was read from text. -/
structure SyncReady (engine : Engine) (name : String) : Prop where
  named : Community.key name ≠ ""
  settled : Community.key (Community.key name) = Community.key name
  connected : engine.db.connected = true
  rulesPresent : engine.db.rules.present = true
  rulesWritable : engine.db.rules.writable = true
  communitiesPresent : engine.db.communities.present = true
  communitiesWritable : engine.db.communities.writable = true
  received : engine.traffic.feed.IsReadable
  address : ∃ base, engine.sync.baseUrl = .str base
  shown : engine.now.IsWritable
  onFile : ∀ row, Table.rowAt? RuleRow.community (Community.key name) engine.db.rules.rows =
    some row → row.document.isStorable = true ∧ ∃ spec, RuleSpec.read row.document = .ok spec

namespace SyncReady

variable {engine : Engine} {name : String}

/-- A community with a settled key has its rows under that key. -/
theorem storeKey_eq (ready : SyncReady engine name) :
    Engine.storeKey name = Community.key name := ready.settled

/-- Nothing that a sync needs is left out. -/
theorem syncable (ready : SyncReady engine name) : Syncable engine name where
  named := ready.named
  connected := ready.connected
  rulesPresent := ready.rulesPresent
  rulesWritable := ready.rulesWritable
  communitiesPresent := ready.communitiesPresent
  communitiesWritable := ready.communitiesWritable
  received := ready.received
  address := ready.address
  onFile row found := ready.onFile row (ready.storeKey_eq ▸ found)

/-- A sync stores what it has prepared, or is refused for the age of an account. -/
theorem exists_synced (ready : SyncReady engine name) :
    ∃ automated existing aboutUrl wikiUrl,
      (engine.gather (Community.key name)).1.compile = .ok automated ∧
      engine.db.getRules (Community.key name) = .ok existing ∧
      (automated.manualFlags.minAccountAgeDays.all Decimal.isShort = true →
        engine.synced? name = some
          (syncedSpec automated (existing.bind (·.overrides)) engine.now aboutUrl wikiUrl)) ∧
      (automated.manualFlags.minAccountAgeDays.all Decimal.isShort = false →
        (engine.syncOne name).1 = .error (.store (.ruleWrite (Community.key name))) ∧
          (engine.syncOne name).2.db = engine.db) := by
  have outcome := ready.syncable.exists_synced
  rw [ready.storeKey_eq] at outcome
  exact outcome

/-- Syncing again with the same pages gets as far, and only the time is another. -/
theorem synced?_again (ready : SyncReady engine name) (spec : RuleSpec) (traffic : Traffic)
    (now : Moment) (synced : engine.synced? name = some spec)
    (same : (({ (engine.syncOne name).2 with traffic, now } : Engine).gather
      (Community.key name)).1 = (engine.gather (Community.key name)).1) :
    ({ (engine.syncOne name).2 with traffic, now } : Engine).synced? name =
      some (spec.stamped now) := by
  obtain ⟨connected, rules⟩ := engine.syncOne_rules name
  obtain ⟨named, prepared, db, written⟩ := (engine.synced?_eq_some_iff name spec).mp synced
  obtain ⟨automated, existing, aboutUrl, wikiUrl, compiled, -, about, wiki, rfl⟩ :=
    (Engine.prepare_eq_ok_iff _ _ _ _).mp prepared
  obtain ⟨opened, storable, present, writable, -⟩ := (Database.putRules_eq_ok_iff _ _ _ _).mp written
  have readBack := engine.getRules_of_synced name (Community.key name) _ ready.shown synced rfl
  have settings := engine.syncOne_sync name
  rw [syncedSpec_isStorable_iff] at storable
  -- Nothing more is needed of the first sync; unfolding it would repeat the whole run.
  generalize (engine.syncOne name).2 = after at *
  refine (Engine.synced?_eq_some_iff _ name _).mpr ⟨named, ?_, _,
    (Database.putRules_eq_ok_iff _ _ _ _).mpr ⟨connected.trans opened, ?_, ?_, ?_, rfl⟩⟩
  · refine (Engine.prepare_eq_ok_iff _ _ _ _).mpr
      ⟨automated, _, aboutUrl, wikiUrl, ?_, readBack, ?_, ?_, rfl⟩
    · rw [same]
      exact compiled
    · show after.sync.url .aboutRules _ = _
      rw [settings]
      exact about
    · show after.sync.url .wiki _ = _
      rw [settings]
      exact wiki
  · rw [syncedSpec_stamped, syncedSpec_isStorable_iff]
    exact storable
  · show after.db.rules.present = true
    rw [rules]
    exact present
  · show after.db.rules.writable = true
    rw [rules]
    exact writable

/-- A sync that can store its specification returns it, when the banned words can be counted. -/
theorem syncOne_eq_ok (ready : SyncReady engine name)
    (spec : RuleSpec) (synced : engine.synced? name = some spec)
    (counted : Decimal.isShort spec.rules.bannedWords.length = true) :
    (engine.syncOne name).1 = .ok spec := ready.syncable.syncOne_eq_ok spec synced counted

end SyncReady

/-- A sync puts the compiled rules on file under the corrections it finds there, and syncing
again with the same pages changes nothing but the time. The one exception is the age of an
account with more digits, in days, than a document can hold: then the sync fails and leaves the
database as it was. The corrections survive any run of syncs.

The automated rules are those of the pages alone. A second sync finds the document of the
first, whose corrections are the ones that the first has found, so it prepares the same
specification but for the time.
-/
theorem sync_stores_compiled_under_corrections (engine : Engine) (name : String)
    (ready : SyncReady engine name) :
    ∃ automated existing,
      (engine.gather (Community.key name)).1.compile = .ok automated ∧
      engine.db.getRules (Community.key name) = .ok existing ∧
      (automated.manualFlags.minAccountAgeDays.all Decimal.isShort = true →
        ∃ spec,
          LeftOnFile engine (engine.syncOne name).2 (Community.key name) automated
            (correctionsOf existing) spec ∧
          (Decimal.isShort spec.rules.bannedWords.length = true →
            (engine.syncOne name).1 = .ok spec) ∧
          ∀ (traffic : Traffic) (now : Moment), now.IsWritable →
            let again : Engine := { (engine.syncOne name).2 with traffic, now }
            (again.gather (Community.key name)).1 = (engine.gather (Community.key name)).1 →
              LeftOnFile again (again.syncOne name).2 (Community.key name) automated
                (correctionsOf existing) (spec.stamped now)) ∧
      (automated.manualFlags.minAccountAgeDays.all Decimal.isShort = false →
        (engine.syncOne name).1 = .error (.store (.ruleWrite (Community.key name))) ∧
          (engine.syncOne name).2.db = engine.db) ∧
      ∀ visits, ∃ after, (engine.visits visits).db.getRules (Community.key name) = .ok after ∧
        correctionsOf after = correctionsOf existing := by
  obtain ⟨automated, existing, aboutUrl, wikiUrl, compiled, found, stored, refused⟩ :=
    ready.exists_synced
  refine ⟨automated, existing, compiled, found, ?_, refused, fun visits =>
    engine.correctionsOf_visits visits _ existing found⟩
  intro short
  have synced := stored short
  refine ⟨_, leftOnFile_of_synced? engine name automated _ aboutUrl wikiUrl ready.settled
    ready.shown synced, ready.syncOne_eq_ok _ synced, ?_⟩
  intro traffic now shown again same
  have second := ready.synced?_again _ traffic now synced same
  rw [syncedSpec_stamped] at second ⊢
  exact leftOnFile_of_synced? again name automated _ aboutUrl wikiUrl ready.settled shown second

/-- A wiki that asks for accounts of an age, and whose second line is worth a note. -/
def twoMonthsReply : Reply :=
  .answer 200 [] (.ok (.obj [("data", .obj
    [("content_md", .str "Account must be 60 days old\n100 karma")])]))

/-- An engine that has a correction on file and whose source publishes both pages. -/
def publishingEngine : Engine :=
  { titleLimitEngine twoMonthsReply with
    db := { rules := { rows :=
      [⟨"cats", .obj [("overrides", .obj [("flairRequired", .bool true)])]⟩] } } }

/-- The rules that the two pages compile to. -/
def publishedRules : Rules where
  maxTitleLength := some 300
  manualFlags := { minAccountAgeDays := some 60 }
  wikiNotes := ["100 karma"]

/-- The automated rules are those of both pages, and the correction stays. -/
theorem correction_survives_published_rules :
    SyncReady publishingEngine "cats" ∧
      (∃ spec, LeftOnFile publishingEngine (publishingEngine.syncOne "cats").2 "cats"
          publishedRules { flairRequired := some true } spec ∧
        (publishingEngine.syncOne "cats").1 = .ok spec) ∧
      ∀ visits, ∃ after, (publishingEngine.visits visits).db.getRules "cats" = .ok after ∧
        correctionsOf after = { flairRequired := some true } := by
  have key : Community.key "cats" = "cats" := by decide
  have readable : twoMonthsReply.IsReadable := by
    intro status headers body same
    cases same
    rfl
  have ready : SyncReady publishingEngine "cats" := by
    constructor
    · rw [key]
      decide
    · rw [key, key]
    · rfl
    · rfl
    · rfl
    · rfl
    · rfl
    · exact titleLimitEngine_isReadable twoMonthsReply readable
    · exact ⟨_, rfl⟩
    · exact offlineVisit.shown
    · intro row found
      rw [key] at found
      obtain rfl := Option.some.inj found
      exact ⟨rfl, _, rfl⟩
  obtain ⟨automated, existing, compiled, found, stored, -, kept⟩ :=
    sync_stores_compiled_under_corrections publishingEngine "cats" ready
  rw [key] at compiled found stored kept
  have told : (publishingEngine.gather "cats").1.compile.toOption = some publishedRules := by
    decide +kernel
  have published := eq_ok_of_toOption _ _ told
  have corrected : publishingEngine.db.getRules "cats" = .ok (some
      { rules := { flairRequired := true }, overrides := some { flairRequired := some true } }) := rfl
  rw [published] at compiled
  rw [corrected] at found
  obtain rfl := Except.ok.inj compiled
  obtain rfl := Except.ok.inj found
  have short : publishedRules.manualFlags.minAccountAgeDays.all Decimal.isShort = true := by
    rw [publishedRules, Option.all_some]
    exact isShort_of_small 60 (by decide)
  obtain ⟨spec, left, returned, -⟩ := stored short
  refine ⟨ready, ⟨spec, left, returned ?_⟩, kept⟩
  rw [left.rules]
  exact isShort_of_small 0 (by decide)

end Rulebook
