import Rulebook.Proofs.Keys
import Rulebook.Proofs.Overviews
import Rulebook.Proofs.Trouble

/-!
# Registered communities are synced

A community is registered under the key of its name, and a sync of all communities goes through
these keys. It reduces each of them again: once to ask the source, and once more to find the row
in the tables. So what is registered is synced when its key is settled, whatever the other
communities do.

There are two kinds of names for which this goes wrong. A name without a key is registered under
the empty text, which every sync refuses. And a name with a dotted capital I has a key with a dot
in it: the sync of such a key succeeds, but it writes to another row.
-/

namespace Rulebook

open Calendar (Moment)

/-- A body that states nothing too large: the words that it bans can be counted, and an age of an
account has digits within the limit. -/
structure Json.IsModest (body : Json) : Prop where
  words : ∀ rules statements, Traffic.rulesOf body = .ok rules →
    rules.mapM Statement.ofJson = .ok statements →
      Decimal.isShort (Rules.compile statements "").bannedWords.length = true
  age : ∀ content, Traffic.wikiOf body = .ok content →
    (ManualFlags.ofWiki (content.text?.getD "")).minAccountAgeDays.all Decimal.isShort = true

/-- Pages that amount to rules that can be stored and shown. -/
def Gathered.IsModest (gathered : Gathered) : Prop :=
  ∃ automated, gathered.compile = .ok automated ∧ automated.isShort = true ∧
    Decimal.isShort automated.bannedWords.length = true

/-- An empty body states nothing. -/
theorem Json.null_isModest : Json.null.IsModest where
  words rules statements found read := by
    obtain rfl := Except.ok.inj found
    obtain rfl := Except.ok.inj read
    exact isShort_of_small _ (by decide)
  age content found := by
    obtain rfl := Except.ok.inj found
    rfl

/-- Rules from modest bodies can be stored and shown, also when a page could not be had. -/
theorem Gathered.isModest_ofBodies (rules wiki : Except Failure Json)
    (published : ArePublished (Gathered.ofBodies rules wiki).rules)
    (fewWords : ∀ body, rules = .ok body → body.IsModest)
    (smallAge : ∀ body, wiki = .ok body → body.IsModest) :
    (Gathered.ofBodies rules wiki).IsModest := by
  obtain ⟨statements, read⟩ := exists_statements _ published
  have counted : Decimal.isShort (Rules.compile statements "").bannedWords.length = true := by
    have nothing : (.ok [] : Except Fault (List Statement)) = .ok statements →
        Decimal.isShort (Rules.compile statements "").bannedWords.length = true := by
      intro none
      obtain rfl := Except.ok.inj none
      exact isShort_of_small _ (by decide)
    cases rules with
    | error failure => exact nothing read
    | ok body =>
      cases found : Traffic.rulesOf body with
      | error fault =>
        simp only [ofBodies, Traffic.readAs, Except.bind, found] at read
        exact nothing read
      | ok listed =>
        simp only [ofBodies, Traffic.readAs, Except.bind, found] at read
        exact (fewWords body rfl).words listed statements found read
  have young : (ManualFlags.ofWiki (Gathered.ofBodies rules wiki).wikiText).minAccountAgeDays.all
      Decimal.isShort = true := by
    cases wiki with
    | error failure => rfl
    | ok body =>
      cases found : Traffic.wikiOf body with
      | error fault =>
        simp only [wikiText, ofBodies, Traffic.readAs, Except.bind, found]
        rfl
      | ok content =>
        simp only [wikiText, ofBodies, Traffic.readAs, Except.bind, found]
        exact (smallAge body rfl).age content found
  refine ⟨Rules.compile statements (Gathered.ofBodies rules wiki).wikiText, ?_, ?_, counted⟩
  · rw [compile, read]
    rfl
  · rw [Rules.isShort_compile]
    exact young

/-- Corrected rules ban words that can be counted when the automated ones and the corrections do. -/
theorem Override.isShort_bannedWords_apply (o : Override) (rules : Rules)
    (fewWords : Decimal.isShort rules.bannedWords.length = true)
    (corrected : ∀ words, o.bannedWords = some words → Decimal.isShort words.length = true) :
    Decimal.isShort (o.apply rules).bannedWords.length = true := by
  cases stated : o.bannedWords with
  | none =>
    simp only [apply, stated, Option.getD_none]
    exact fewWords
  | some words =>
    simp only [apply, stated, Option.getD_some]
    exact corrected words stated

/-- What a sync puts on file can be written and read. -/
theorem Engine.stored?_reads (engine : Engine) (key : String) (gathered : Gathered)
    (spec : RuleSpec) (shown : engine.now.IsWritable)
    (stored : engine.stored? key gathered = some spec) :
    spec.document.isStorable = true ∧ RuleSpec.read spec.document = .ok spec := by
  obtain ⟨prepared, db, written⟩ := (engine.stored?_eq_some_iff key gathered spec).mp stored
  obtain ⟨-, storable, -⟩ := (Database.putRules_eq_ok_iff _ _ _ _).mp written
  obtain ⟨-, read, -⟩ := engine.prepare_reads key gathered spec shown prepared
  exact ⟨storable, read⟩

namespace Database

variable {before after : Database} {name : String}

/-- A community that is new is registered under its key, without an overview. -/
theorem addCommunity_fresh (displayName : Option String)
    (added : before.addCommunity name displayName = .ok (after, true)) :
    after.connected = true ∧ after.communities.present = true ∧
      ∃ shown, Table.rowAt? CommunityRow.name (Community.key name) after.communities.rows =
        some { name := Community.key name, displayName := shown } := by
  have put (shown : String) (rows : List CommunityRow) :
      Table.rowAt? CommunityRow.name (Community.key name) (Table.putRow CommunityRow.name
        { name := Community.key name, displayName := shown } rows) =
          some { name := Community.key name, displayName := shown } :=
    Table.rowAt?_putRow_self CommunityRow.name { name := Community.key name, displayName := shown }
      rows
  simp only [addCommunity, bind_eq_ok_iff, orFail_eq_ok_iff, session_eq_ok_iff,
    read?_eq_some_iff] at added
  obtain ⟨-, connected, rows, ⟨present, rfl⟩, stored⟩ := added
  split at stored
  · cases stored
  · simp only [bind_eq_ok_iff, orFail_eq_ok_iff, write?_eq_some_iff] at stored
    obtain ⟨communities, ⟨-, -, rfl⟩, same⟩ := stored
    obtain ⟨rfl, -⟩ := Prod.mk.inj (Except.ok.inj same)
    exact ⟨connected, present, _, put _ _⟩

/-- The names that are listed are those of the rows. -/
theorem communityNames_eq (db : Database) (connected : db.connected = true)
    (present : db.communities.present = true) :
    db.communityNames = .ok (db.communities.rows.map (·.name)) := by
  have opened : db.session = .ok () := (session_eq_ok_iff db ()).mpr connected
  have rows : db.communities.read? = some db.communities.rows :=
    (read?_eq_some_iff _ _).mpr ⟨present, rfl⟩
  simp only [communityNames, opened, rows, orFail, bind, Except.bind, pure, Except.pure]

end Database

namespace Syncable

variable {engine : Engine} {name : String}

/-- Storing what was gathered for any community leaves the engine able to sync this one. -/
theorem finish (ready : Syncable engine name) (shown : engine.now.IsWritable) (key : String)
    (gathered : Gathered) : Syncable (engine.finish key gathered).2 name := by
  obtain ⟨metrics, db, same⟩ := engine.finish_traffic key gathered
  obtain ⟨landing, landed⟩ := engine.exists_landing_finish key gathered
  obtain ⟨connected, rules⟩ := engine.finish_rules key gathered
  constructor
  · exact ready.named
  · exact connected.trans ready.connected
  · rw [rules]
    exact ready.rulesPresent
  · rw [rules]
    exact ready.rulesWritable
  · rw [landed]
    exact ready.communitiesPresent
  · rw [landed]
    exact ready.communitiesWritable
  · rw [same]
    exact ready.received
  · rw [same]
    exact ready.address
  · intro row filed
    rw [rules] at filed
    cases stored : engine.stored? key gathered with
    | none =>
      rw [stored] at filed
      exact ready.onFile row filed
    | some spec =>
      rw [stored] at filed
      have placed := (Database.rowAt?_put _ _ _ _).symm.trans filed
      split at placed
      · obtain rfl := Option.some.inj placed
        obtain ⟨storable, read⟩ := engine.stored?_reads key gathered spec shown stored
        exact ⟨storable, spec, read⟩
      · exact ready.onFile row placed

end Syncable

/-- A community and an engine that can sync it whenever it likes: the engine keeps a list of
communities and its clock can be shown, and neither the source nor a curator states anything too
large about this community. The others may be in any state. -/
structure Receptive (engine : Engine) (name : String) : Prop extends Syncable engine name where
  listed : engine.knowsCommunities = true
  shown : engine.now.IsWritable
  modest : engine.traffic.feed.Carries fun page body =>
    Community.key page = Engine.storeKey name → body.IsModest
  counted : ∀ existing words, engine.db.getRules (Community.key name) = .ok existing →
    (correctionsOf existing).bannedWords = some words → Decimal.isShort words.length = true

namespace Receptive

variable {engine : Engine} {name : String}

/-- Gathering the pages of any community leaves the engine able to sync this one, and pages under a
key that leads to its rows are modest. -/
theorem gather (receptive : Receptive engine name) (key : String) :
    Receptive (engine.gather key).2 name ∧
      (Community.key key = Engine.storeKey name → (engine.gather key).1.IsModest) := by
  obtain ⟨⟨rules, wiki, gathered, fewWords, smallAge⟩, modest⟩ := engine.traffic.gather_carries
    engine.sync key (fun _ => Json.null_isModest) receptive.modest
  have published := engine.traffic.gather_arePublished engine.sync key receptive.received
  refine ⟨{ receptive.toSyncable.gather key with
    listed := receptive.listed
    shown := receptive.shown
    modest
    counted := receptive.counted }, fun here => ?_⟩
  rw [Engine.gather_gathered]
  rw [gathered] at published ⊢
  exact Gathered.isModest_ofBodies rules wiki published (fun body heard => fewWords body heard here)
    fun body heard => smallAge body heard here

/-- What was gathered can be stored under every key that leads to the rows of the community. -/
theorem exists_finished (receptive : Receptive engine name) (key : String) (gathered : Gathered)
    (modest : gathered.IsModest) (here : Community.key key = Engine.storeKey name) :
    ∃ spec, (engine.finish key gathered).1 = .ok spec := by
  obtain ⟨automated, compiled, short, fewWords⟩ := modest
  obtain ⟨existing, aboutUrl, wikiUrl, found, prepared, storable⟩ :=
    receptive.exists_prepared_of_compile key gathered automated here compiled
  have counted := (correctionsOf existing).isShort_bannedWords_apply automated fewWords
    fun words => receptive.counted existing words found
  exact ⟨_, receptive.finish_eq_ok key gathered _ prepared (storable.mpr short) counted⟩

/-- Storing what was gathered for any community leaves the engine able to sync this one. -/
theorem finish (receptive : Receptive engine name) (key : String) (gathered : Gathered) :
    Receptive (engine.finish key gathered).2 name := by
  obtain ⟨metrics, db, same⟩ := engine.finish_traffic key gathered
  obtain ⟨existing, found, -⟩ := receptive.exists_existing
  obtain ⟨after, kept, corrections⟩ := engine.correctionsOf_finish key gathered
    (Community.key name) existing receptive.shown found
  constructor
  · exact receptive.toSyncable.finish receptive.shown key gathered
  · rw [same]
    exact receptive.listed
  · rw [same]
    exact receptive.shown
  · rw [same]
    exact receptive.modest
  · intro present words read stated
    rw [kept] at read
    obtain rfl := Except.ok.inj read
    rw [corrections] at stated
    exact receptive.counted existing words found stated

end Receptive

namespace Engine

/-- The key of a name is accepted by a sync, and leads to the rows under the key of the key. -/
theorem syncKey_key (name : String) (named : Community.key name ≠ "") :
    syncKey (Community.key name) = .ok (storeKey name) :=
  (syncKey_eq_ok_iff _ _).mpr ⟨fun empty => named ((Community.key_key_eq_empty_iff name).mp empty),
    rfl⟩

/-- A sync of many communities succeeds with this one each time that it comes to it. -/
theorem syncInvariant_succeeds (name : String) :
    SyncInvariant (fun reports engine => Receptive engine name ∧
        ∀ report ∈ reports, report.1 = Community.key name → ∃ spec, report.2 = .ok spec)
      fun key gathered => Community.key key = storeKey name → gathered.IsModest where
  gather reports engine key kept := by
    obtain ⟨receptive, modest⟩ := kept.1.gather key
    exact ⟨⟨receptive, kept.2⟩, modest⟩
  refuse reports engine other failure refused kept := by
    refine ⟨kept.1, List.forall_mem_append.mpr ⟨kept.2, List.forall_mem_singleton.mpr ?_⟩⟩
    rintro rfl
    rw [syncKey_key name kept.1.named] at refused
    cases refused
  finish reports engine other key gathered accepted modest kept := by
    refine ⟨kept.1.finish key gathered,
      List.forall_mem_append.mpr ⟨kept.2, List.forall_mem_singleton.mpr ?_⟩⟩
    rintro rfl
    rw [syncKey_key name kept.1.named] at accepted
    obtain rfl := Except.ok.inj accepted
    have here := Community.key_key_key name
    exact kept.1.exists_finished _ gathered (modest here) here

/-- A sync of many communities leaves the overview of this one, if its key is settled. -/
theorem syncInvariant_written (name : String) (now : Moment)
    (settled : storeKey name = Community.key name) :
    SyncInvariant (fun reports engine => Receptive engine name ∧ engine.now = now ∧
        (∃ row, Table.rowAt? CommunityRow.name (Community.key name) engine.db.communities.rows =
          some row) ∧
        ((∃ report ∈ reports, report.1 = Community.key name) →
          ∃ spec, engine.db.ShowsRules (Community.key name) spec now))
      fun key gathered => Community.key key = storeKey name → gathered.IsModest where
  gather reports engine key kept := by
    obtain ⟨receptive, modest⟩ := kept.1.gather key
    exact ⟨⟨receptive, kept.2⟩, modest⟩
  refuse reports engine other failure refused kept := by
    obtain ⟨receptive, onTime, registered, written⟩ := kept
    refine ⟨receptive, onTime, registered, ?_⟩
    rintro ⟨report, member, named⟩
    rcases List.mem_append.mp member with earlier | last
    · exact written ⟨report, earlier, named⟩
    · obtain rfl := List.mem_singleton.mp last
      obtain rfl : other = Community.key name := named
      rw [syncKey_key name receptive.named] at refused
      cases refused
  finish reports engine other key gathered accepted modest kept := by
    obtain ⟨receptive, onTime, registered, written⟩ := kept
    obtain ⟨metrics, db, same⟩ := engine.finish_traffic key gathered
    have now : (engine.finish key gathered).2.now = engine.now := by rw [same]
    refine ⟨receptive.finish key gathered, now.trans onTime, ?_⟩
    by_cases here : Community.key key = Community.key name
    · -- Another name may have this key too; whichever it is, both rows are written anew.
      have leads := here.trans settled.symm
      obtain ⟨spec, finished⟩ := receptive.exists_finished key gathered (modest leads) leads
      obtain ⟨row, listed⟩ := registered
      have shows := engine.finish_showsRules key gathered spec row receptive.listed receptive.shown
        here listed finished
      rw [onTime] at shows
      obtain ⟨left, found, -⟩ := shows.listed
      exact ⟨⟨left, found⟩, fun _ => ⟨spec, shows⟩⟩
    · have unseen := engine.agreeAt_finish key (Community.key name) gathered (Ne.symm here)
      refine ⟨?_, ?_⟩
      · rw [unseen.listed]
        exact registered
      · rintro ⟨report, member, named⟩
        rcases List.mem_append.mp member with earlier | last
        · obtain ⟨spec, shows⟩ := written ⟨report, earlier, named⟩
          exact ⟨spec, shows.of_rows unseen.rule unseen.listed⟩
        · obtain rfl := List.mem_singleton.mp last
          obtain rfl : other = Community.key name := named
          -- The community itself would have been stored under its own key.
          rw [syncKey_key name receptive.named] at accepted
          obtain rfl := Except.ok.inj accepted
          exact absurd ((Community.key_key_key name).trans settled) here

/-- A row to which no accepted name leads stays as it is. -/
theorem syncInvariant_unwritten (key : String) (row : CommunityRow)
    (astray : ∀ name, Community.key name ≠ "" → storeKey name ≠ key) :
    SyncInvariant (fun _ engine =>
      Table.rowAt? CommunityRow.name key engine.db.communities.rows = some row) fun _ _ => True where
  gather _ _ _ kept := ⟨kept, trivial⟩
  refuse _ _ _ _ _ kept := kept
  finish reports engine other reduced gathered accepted _ kept := by
    obtain ⟨named, rfl⟩ := (syncKey_eq_ok_iff other reduced).mp accepted
    have unseen := engine.agreeAt_finish (Community.key other) key gathered (astray other named).symm
    exact unseen.listed.trans kept

/-- Names without a key are refused each time that a sync of many communities comes to them. -/
theorem syncInvariant_nameless :
    SyncInvariant (fun reports _ => ∀ report ∈ reports, Community.key report.1 = "" →
      report.2 = .error (.invalidName (Text.quoted report.1))) fun _ _ => True where
  gather _ _ _ kept := ⟨kept, trivial⟩
  refuse reports _ other failure refused kept := by
    refine List.forall_mem_append.mpr ⟨kept, List.forall_mem_singleton.mpr fun _ => ?_⟩
    obtain ⟨-, rfl⟩ := (syncKey_eq_error_iff other failure).mp refused
    rfl
  finish reports _ other key _ accepted _ kept := by
    refine List.forall_mem_append.mpr ⟨kept, List.forall_mem_singleton.mpr fun nameless => ?_⟩
    obtain ⟨named, -⟩ := (syncKey_eq_ok_iff other key).mp accepted
    exact absurd nameless named

/-- Whatever is registered under the empty key is refused each time. -/
theorem refused_of_nameless (engine : Engine) (report : Report)
    (member : report ∈ engine.allReports none) (nameless : report.1 = "") :
    report.2 = .error (.invalidName (Text.quoted "")) := by
  have refused := syncInvariant_nameless.syncAll [] engine none (List.forall_mem_nil _)
  have keyless : Community.key "" = "" := by decide
  have outcome := refused report member (by rw [nameless, keyless])
  rw [nameless] at outcome
  exact outcome

/-- No accepted name leads to the row of a key that is empty or not settled. -/
theorem storeKey_ne_of_unsettled (name other : String) (named : Community.key other ≠ "")
    (unsettled : Community.key name = "" ∨ storeKey name ≠ Community.key name) :
    storeKey other ≠ Community.key name := by
  intro same
  rcases unsettled with empty | moves
  · rw [empty] at same
    exact named ((Community.key_key_eq_empty_iff other).mp same)
  · refine moves ?_
    rw [storeKey, ← same]
    exact Community.key_key_key other

/-- A registered community is synced.

When a community is new and all communities are synced then, the sync comes to an end and reports
on the community under the key of its name. If the name has a key and the database, the source and
the corrections on file are as they should be, the community is among those that have succeeded,
whatever becomes of the others. If no dotted capital I stays in the key, it is settled: the rules
are on file under it, and the row of the community has their overview and the time of the sync.

Otherwise nothing reaches the row. The empty key is refused each time, and from a key that is not
settled the sync goes astray.

Proof: what becomes of one community is carried through the batches, and so is what its row
holds. -/
theorem registered_community_is_synced (engine : Engine) (before : Database) (name : String)
    (displayName : Option String) (size : Nat)
    (added : before.addCommunity name displayName = .ok (engine.db, true))
    (listed : engine.knowsCommunities = true) (sized : batchSize engine.sync = .ok size) :
    let key := Community.key name
    let after := (engine.syncAll none).2
    ∃ report, (engine.syncAll none).1 = .ok report ∧
      (Receptive engine name → key ∈ report.succeeded) ∧
      (Receptive engine name → 'İ' ∉ Community.keptChars name →
        ∃ spec, after.db.ShowsRules key spec engine.now) ∧
      (key = "" → key ∉ report.succeeded ∧ (key, "Invalid community name: ''") ∈ report.failed) ∧
      (key = "" ∨ 'İ' ∈ Community.keptChars name →
        ∃ shown, Table.rowAt? CommunityRow.name key after.db.communities.rows =
          some { name := key, displayName := shown }) := by
  have settles : storeKey name = Community.key name ↔ 'İ' ∉ Community.keptChars name :=
    Community.key_key_eq_iff name
  obtain ⟨connected, present, shown, fresh⟩ := Database.addCommunity_fresh displayName added
  have names := engine.db.communityNames_eq connected present
  obtain ⟨named, report, outcome, noted⟩ := engine.exists_report_of_names size _ sized listed names
  have reported : Community.key name ∈ (engine.allReports none).map (·.1) := by
    rw [named]
    exact List.mem_map_of_mem (f := CommunityRow.name) (List.mem_of_find?_eq_some fresh)
  obtain ⟨entry, among, about⟩ := List.mem_map.mp reported
  have succeeded : report.succeeded =
      ((engine.allReports none).filter fun entry => entry.2.toOption.isSome).map (·.1) :=
    (congrArg SyncReport.succeeded noted).trans (succeeded_noteAll _ _)
  refine ⟨report, outcome, ?_, ?_, ?_, ?_⟩
  · intro receptive
    obtain ⟨-, each⟩ := (syncInvariant_succeeds name).syncAll [] engine none
      ⟨receptive, List.forall_mem_nil _⟩
    obtain ⟨spec, synced⟩ := each entry among about
    rw [succeeded]
    exact List.mem_map.mpr ⟨entry, List.mem_filter.mpr ⟨among, by rw [synced]; rfl⟩, about⟩
  · intro receptive undotted
    obtain ⟨-, -, -, written⟩ := (syncInvariant_written name engine.now
      (settles.mpr undotted)).syncAll [] engine none
        ⟨receptive, rfl, ⟨_, fresh⟩, fun ⟨_, member, _⟩ => absurd member List.not_mem_nil⟩
    exact written ⟨entry, among, about⟩
  · intro empty
    rw [empty] at about ⊢
    constructor
    · rw [succeeded]
      intro within
      obtain ⟨other, kept, here⟩ := List.mem_map.mp within
      obtain ⟨member, synced⟩ := List.mem_filter.mp kept
      rw [engine.refused_of_nameless other member here] at synced
      cases synced
    · have failed := congrArg SyncReport.failed noted
      change report.failed = _ at failed
      rw [failed]
      refine mem_failed_noteAll _ _ "" _ ?_ (Or.inr ⟨entry, among, about⟩)
      intro other member here
      rw [engine.refused_of_nameless other member here]
      rfl
  · intro spoilt
    have unsettled : Community.key name = "" ∨ storeKey name ≠ Community.key name :=
      spoilt.imp id fun dotted same => settles.mp same dotted
    have astray (other : String) (named : Community.key other ≠ "") :=
      storeKey_ne_of_unsettled name other named unsettled
    exact ⟨shown, (syncInvariant_unwritten _ _ astray).syncAll [] engine none fresh⟩

/-- An engine with one new community, whose source publishes a rule and lets the request for the
wiki time out. -/
def newlyListedEngine : Engine := { titleLimitEngine .timeout with db := listedEngine.db }

/-- The rule that is published states nothing too large. -/
theorem titleLimitReply_isModest : titleLimitReply.Carries Json.IsModest := by
  intro status headers body same
  cases same
  constructor
  · intro rules statements found read
    obtain rfl := Except.ok.inj found
    obtain rfl := Except.ok.inj read
    exact isShort_of_small _ (by decide +kernel)
  · intro content found
    obtain rfl := Except.ok.inj found
    rfl

/-- The new community is synced under its key, and its row is written. -/
theorem new_community_is_synced :
    ({} : Database).addCommunity "r/Cats" (some "Cats") = .ok (newlyListedEngine.db, true) ∧
      ∃ report, (newlyListedEngine.syncAll none).1 = .ok report ∧ "cats" ∈ report.succeeded ∧
        ∃ spec, (newlyListedEngine.syncAll none).2.db.ShowsRules "cats" spec
          newlyListedEngine.now := by
  have key : Community.key "r/Cats" = "cats" := by decide +kernel
  have undotted : 'İ' ∉ Community.keptChars "r/Cats" := by decide +kernel
  have added : ({} : Database).addCommunity "r/Cats" (some "Cats") =
      .ok (newlyListedEngine.db, true) := rfl
  have receptive : Receptive newlyListedEngine "r/Cats" := by
    constructor
    · constructor
      · rw [key]
        decide
      · rfl
      · rfl
      · rfl
      · rfl
      · rfl
      · exact titleLimitEngine_isReadable .timeout (Reply.timeout_carries _)
      · exact ⟨_, rfl⟩
      · intro row found
        cases found
    · rfl
    · exact offlineVisit.shown
    · refine titleLimitEngine_carries .timeout ?_ (Reply.timeout_carries _)
      exact fun status headers body same _ => titleLimitReply_isModest status headers body same
    · intro existing words read stated
      have absent : newlyListedEngine.db.getRules (Community.key "r/Cats") = .ok none := rfl
      rw [absent] at read
      obtain rfl := Except.ok.inj read
      cases stated
  obtain ⟨report, outcome, succeeded, written, -⟩ :=
    newlyListedEngine.registered_community_is_synced {} "r/Cats" (some "Cats") 5 added rfl rfl
  rw [key] at succeeded written
  exact ⟨added, report, outcome, succeeded receptive, written receptive undotted⟩

/-- An engine with one community, registered under the empty key. -/
def namelessEngine : Engine :=
  { listedEngine with db := { communities := { rows := [{ name := "", displayName := "r/" }] } } }

/-- A community whose name has no key is registered, and its sync fails. -/
theorem nameless_community_is_not_synced :
    ({} : Database).addCommunity "r/" none = .ok (namelessEngine.db, true) ∧
      (namelessEngine.syncAll none).1 = .ok
        { total := 1, succeeded := [], failed := [("", "Invalid community name: ''")] } := by
  have listed : namelessEngine.knowsCommunities = true := rfl
  have names : namelessEngine.db.communityNames = .ok [""] := rfl
  have size : batchSize namelessEngine.sync = .ok 5 := rfl
  have cut : batches 5 [""] = [[""]] := by simp [batches]
  refine ⟨rfl, ?_⟩
  simp only [syncAll, listed, if_true, names, syncNames, size, cut]
  rfl

end Engine

end Rulebook
