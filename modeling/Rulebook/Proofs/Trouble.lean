import Rulebook.Proofs.Fetching
import Rulebook.Proofs.Landing

/-!
# Trouble with the source

Whatever the source answers to the requests of a sync, the sync goes on: a page that cannot be
had counts as empty, and so does one of the wrong shape. What the pages say is compiled field by
field, and no field is read off both of them, so trouble with one page leaves what comes from
the other. Neither does the order of the fetches matter: the page that is asked for first cannot
change what is heard from the second one, unless the settings of the pace break a turn off.

With a healthy database a sync then fails for one reason only. The wiki may state an age of an
account that has more digits, in days, than a document can hold; every other number comes from
a text that the digit limit has passed already.
-/

namespace Rulebook

/-- What rules say that is read off a list of rules. -/
def Rules.statementPart (rules : Rules) : Rules := { rules with manualFlags := {}, wikiNotes := [] }

/-- What rules say that is read off a wiki page. -/
def Rules.wikiPart (rules : Rules) : Rules :=
  { manualFlags := rules.manualFlags, wikiNotes := rules.wikiNotes }

/-- No wiki page changes what a list of rules says. -/
theorem Rules.statementPart_compile (statements : List Statement) (wiki other : String) :
    (compile statements wiki).statementPart = (compile statements other).statementPart := rfl

/-- No list of rules changes what a wiki page says. -/
theorem Rules.wikiPart_compile (statements others : List Statement) (wiki : String) :
    (compile statements wiki).wikiPart = (compile others wiki).wikiPart := rfl

namespace Engine

variable (engine : Engine) (key : String)

/-- The list of rules that a sync goes by: the published ones, and none when their page cannot be
had. -/
def heardRules : List Json := fetchedOr [] (engine.traffic.fetchRules engine.sync key).1

/-- The wiki text that a sync goes by, after it has asked for the rules: the empty text when the
page cannot be had or holds none. -/
def heardWiki : String :=
  let wiki := (engine.traffic.fetchRules engine.sync key).2.fetchWiki engine.sync key
  ((fetchedOr (.str "") wiki.1).text?).getD ""

/-- What is gathered is compiled from what was heard. -/
theorem compile_gather (automated : Rules) :
    (engine.gather key).1.compile = .ok automated ↔
      ∃ statements, (engine.heardRules key).mapM Statement.ofJson = .ok statements ∧
        automated = Rules.compile statements (engine.heardWiki key) := by
  have compiled : (engine.gather key).1.compile =
      ((engine.heardRules key).mapM Statement.ofJson >>= fun statements =>
        pure (Rules.compile statements (engine.heardWiki key))) := rfl
  rw [compiled, bind_eq_ok_iff]
  simp only [pure, Except.pure, Except.ok.injEq, eq_comm]

variable {engine : Engine} {key : String}

/-- The rules are heard alike when the replies to their requests are alike. -/
theorem heardRules_congr (other : Engine) (steady : engine.traffic.rate.NeverBreak)
    (same : other.SameSettings engine)
    (replies : other.traffic.feed.repliesAt? key .aboutRules =
      engine.traffic.feed.repliesAt? key .aboutRules) :
    other.heardRules key = engine.heardRules key := by
  have fetched := other.traffic.fetch_congr engine.traffic engine.sync .aboutRules key
    (same.rate ▸ steady) steady same.connected replies
  simp only [heardRules, Traffic.fetchRules, Traffic.readBody_eq, same.sync, fetched]

/-- The wiki is heard as if nothing else had been asked for. -/
theorem heardWiki_eq (steady : engine.traffic.rate.NeverBreak) :
    engine.heardWiki key =
      ((fetchedOr (.str "") (engine.traffic.fetchWiki engine.sync key).1).text?).getD "" := by
  have moved := engine.traffic.fetch_movedAt engine.sync .aboutRules key
  have untouched := moved.others key .wiki fun both => nomatch both.2
  have fetched := Traffic.fetch_congr _ engine.traffic engine.sync .wiki key
    (moved.rate ▸ steady) steady moved.connected untouched
  simp only [heardWiki, Traffic.fetchRules, Traffic.fetchWiki, Traffic.readBody_eq, fetched]

/-- The wiki is heard alike when the replies to its requests are alike. -/
theorem heardWiki_congr (other : Engine) (steady : engine.traffic.rate.NeverBreak)
    (same : other.SameSettings engine)
    (replies : other.traffic.feed.repliesAt? key .wiki =
      engine.traffic.feed.repliesAt? key .wiki) :
    other.heardWiki key = engine.heardWiki key := by
  have fetched := other.traffic.fetch_congr engine.traffic engine.sync .wiki key
    (same.rate ▸ steady) steady same.connected replies
  rw [heardWiki_eq (same.rate ▸ steady), heardWiki_eq steady]
  simp only [Traffic.fetchWiki, Traffic.readBody_eq, same.sync, fetched]

end Engine

/-- A community and an engine that can sync it: the name has a key, the database is healthy, and
what is on file under the key is absent or can be read. Documents and replies have been read
from text, so their integers are within the digit limit. The address of the source is a text. -/
structure Syncable (engine : Engine) (name : String) : Prop where
  named : Community.key name ≠ ""
  connected : engine.db.connected = true
  rulesPresent : engine.db.rules.present = true
  rulesWritable : engine.db.rules.writable = true
  communitiesPresent : engine.db.communities.present = true
  communitiesWritable : engine.db.communities.writable = true
  received : engine.traffic.feed.IsReadable
  address : ∃ base, engine.sync.baseUrl = .str base
  onFile : ∀ row, Table.rowAt? RuleRow.community (Engine.storeKey name) engine.db.rules.rows =
    some row → row.document.isStorable = true ∧ ∃ spec, RuleSpec.read row.document = .ok spec

namespace Syncable

variable {engine : Engine} {name : String}

/-- What is on file can be read, and its corrections can be written again. -/
theorem exists_existing (ready : Syncable engine name) :
    ∃ existing, engine.db.getRules (Community.key name) = .ok existing ∧
      (correctionsOf existing).isShort = true := by
  rw [Database.getRules_eq _ _ ready.connected ready.rulesPresent]
  cases found : Table.rowAt? RuleRow.community (Community.key (Community.key name))
      engine.db.rules.rows with
  | none => exact ⟨none, rfl, rfl⟩
  | some row =>
    obtain ⟨storable, spec, read⟩ := ready.onFile row found
    cases null : row.document.isNull with
    | true => exact ⟨none, by simp [null], rfl⟩
    | false =>
      refine ⟨some spec, by simp [null, read, Failure.ofChecked, Except.map], ?_⟩
      exact RuleSpec.overrides_isShort_of_read row.document spec storable read

/-- The rules that were heard can be read, whatever they are. -/
theorem exists_statements (ready : Syncable engine name) :
    ∃ statements, (engine.heardRules (Community.key name)).mapM Statement.ofJson =
      .ok statements :=
  Rulebook.exists_statements _
    (engine.traffic.gather_arePublished engine.sync (Community.key name) ready.received)

/-- All pages have an address. -/
theorem exists_url (ready : Syncable engine name) (page : SourcePage) (key : String) :
    ∃ url, engine.sync.url page key = .ok url := by
  obtain ⟨base, address⟩ := ready.address
  exact ⟨_, by rw [SyncSettings.url, address]⟩

/-- Gathering the pages of any community leaves the engine able to sync this one. -/
theorem gather (ready : Syncable engine name) (key : String) :
    Syncable (engine.gather key).2 name := by
  have nothing : Json.null.isStorable = true := rfl
  obtain ⟨-, received⟩ := engine.traffic.gather_carries engine.sync key nothing
    (engine.traffic.feed.isReadable_iff_carries.mp ready.received)
  exact { ready with received := (Feed.isReadable_iff_carries _).mpr received }

/-- What was gathered under a key that leads to the rows of the community is prepared for storing.
It can be stored exactly when the compiled rules can be written. -/
theorem exists_prepared_of_compile (ready : Syncable engine name) (key : String)
    (gathered : Gathered) (automated : Rules) (here : Community.key key = Engine.storeKey name)
    (compiled : gathered.compile = .ok automated) :
    ∃ existing aboutUrl wikiUrl, engine.db.getRules (Community.key name) = .ok existing ∧
      engine.prepare key gathered = .ok
        (syncedSpec automated (existing.bind (·.overrides)) engine.now aboutUrl wikiUrl) ∧
      ((syncedSpec automated (existing.bind (·.overrides)) engine.now aboutUrl
        wikiUrl).document.isStorable = true ↔ automated.isShort = true) := by
  obtain ⟨existing, found, corrections⟩ := ready.exists_existing
  obtain ⟨aboutUrl, about⟩ := ready.exists_url .aboutRules key
  obtain ⟨wikiUrl, wiki⟩ := ready.exists_url .wiki key
  refine ⟨existing, aboutUrl, wikiUrl, found, ?_, ?_⟩
  · have stored := (Database.getRules_of_key_eq engine.db _ _ here).trans found
    exact (engine.prepare_eq_ok_iff key gathered _).mpr
      ⟨automated, existing, aboutUrl, wikiUrl, compiled, stored, about, wiki, rfl⟩
  · rw [syncedSpec_isStorable_iff]
    exact and_iff_left corrections

/-- A sync gets as far as having a specification to store. -/
theorem exists_prepared (ready : Syncable engine name) :
    ∃ automated existing aboutUrl wikiUrl,
      (engine.gather (Community.key name)).1.compile = .ok automated ∧
      engine.db.getRules (Community.key name) = .ok existing ∧
      (engine.gather (Community.key name)).2.prepare (Community.key name)
        (engine.gather (Community.key name)).1 = .ok
          (syncedSpec automated (existing.bind (·.overrides)) engine.now aboutUrl wikiUrl) ∧
      ((syncedSpec automated (existing.bind (·.overrides)) engine.now aboutUrl
          wikiUrl).document.isStorable = true ↔
        automated.manualFlags.minAccountAgeDays.all Decimal.isShort = true) := by
  obtain ⟨statements, read⟩ := ready.exists_statements
  have compiled := (engine.compile_gather (Community.key name) _).mpr ⟨statements, read, rfl⟩
  obtain ⟨existing, aboutUrl, wikiUrl, found, prepared, storable⟩ :=
    (ready.gather (Community.key name)).exists_prepared_of_compile _ _ _ rfl compiled
  rw [Rules.isShort_compile] at storable
  exact ⟨_, existing, aboutUrl, wikiUrl, compiled, found, prepared, storable⟩

/-- A specification that is prepared and can be stored is returned, when its banned words can be
counted. -/
theorem finish_eq_ok (ready : Syncable engine name) (key : String) (gathered : Gathered)
    (spec : RuleSpec) (prepared : engine.prepare key gathered = .ok spec)
    (storable : spec.document.isStorable = true)
    (counted : Decimal.isShort spec.rules.bannedWords.length = true) :
    (engine.finish key gathered).1 = .ok spec := by
  have written := (Database.putRules_eq_ok_iff engine.db _ key spec).mpr
    ⟨ready.connected, storable, ready.rulesPresent, ready.rulesWritable, rfl⟩
  rw [RuleSpec.isStorable_document, Bool.and_eq_true, Bool.and_eq_true] at storable
  have overview := spec.isStorable_overview storable.1.1 counted
  obtain ⟨outcome, -⟩ := engine.finish_eq_store key gathered
  refine outcome.trans (engine.store_eq_ok key gathered spec _ prepared written ?_)
  exact Database.exists_updateCommunity _ key _ _ ready.connected ready.communitiesPresent
    ready.communitiesWritable overview

/-- A sync stores what it has prepared, or is refused for the age of an account. -/
theorem exists_synced (ready : Syncable engine name) :
    ∃ automated existing aboutUrl wikiUrl,
      (engine.gather (Community.key name)).1.compile = .ok automated ∧
      engine.db.getRules (Community.key name) = .ok existing ∧
      (automated.manualFlags.minAccountAgeDays.all Decimal.isShort = true →
        engine.synced? name = some
          (syncedSpec automated (existing.bind (·.overrides)) engine.now aboutUrl wikiUrl)) ∧
      (automated.manualFlags.minAccountAgeDays.all Decimal.isShort = false →
        (engine.syncOne name).1 = .error (.store (.ruleWrite (Engine.storeKey name))) ∧
          (engine.syncOne name).2.db = engine.db) := by
  obtain ⟨automated, existing, aboutUrl, wikiUrl, compiled, found, prepared, short⟩ :=
    ready.exists_prepared
  have accepted : Engine.syncKey name = .ok (Community.key name) :=
    (Engine.syncKey_eq_ok_iff name _).mpr ⟨ready.named, rfl⟩
  refine ⟨automated, existing, aboutUrl, wikiUrl, compiled, found, ?_, ?_⟩
  · intro age
    have written := (Database.putRules_eq_ok_iff engine.db _ (Community.key name) _).mpr
      ⟨ready.connected, short.mpr age, ready.rulesPresent, ready.rulesWritable, rfl⟩
    exact (engine.synced?_eq_some_iff name _).mpr ⟨ready.named, prepared, _, written⟩
  · intro age
    have unstorable := Bool.eq_false_iff.mpr fun storable =>
      absurd (short.mp storable) (Bool.eq_false_iff.mp age)
    have refused := Database.putRules_eq_error engine.db (Community.key name) _ ready.connected
      unstorable
    have same : (engine.gather (Community.key name)).2.db = engine.db := rfl
    simp only [Engine.syncOne, accepted, Engine.finish, Engine.store, prepared, same, refused]
    exact ⟨rfl, rfl⟩

/-- A sync that can store its specification returns it, when the banned words can be counted. -/
theorem syncOne_eq_ok (ready : Syncable engine name) (spec : RuleSpec)
    (synced : engine.synced? name = some spec)
    (counted : Decimal.isShort spec.rules.bannedWords.length = true) :
    (engine.syncOne name).1 = .ok spec := by
  obtain ⟨named, prepared, db, written⟩ := (engine.synced?_eq_some_iff name spec).mp synced
  obtain ⟨-, storable, -⟩ := (Database.putRules_eq_ok_iff _ _ _ _).mp written
  have accepted : Engine.syncKey name = .ok (Community.key name) :=
    (Engine.syncKey_eq_ok_iff name _).mpr ⟨named, rfl⟩
  rw [Engine.syncOne_eq_finish engine accepted]
  exact (ready.gather _).finish_eq_ok _ _ spec prepared storable counted

end Syncable

/-- Trouble with the source only degrades a sync.

Whatever the source answers, the rules that were heard can be read, and a sync of a healthy
database returns a specification whose automated rules are compiled from the two pages as they
were heard. There is one exception: a wiki that states an age of an account with more digits, in
days, than a document can hold makes the sync fail, and the database is left as it was. The words
that are banned are counted on the way, so their number must have digits within the limit too.

What comes from one page does not depend on the other. Take any other answers of the source: as
long as the replies for the rules are the same, so is all that is read off the rules, and as long
as the replies for the wiki are the same, so is all that is read off the wiki. -/
theorem source_trouble_only_degrades (engine : Engine) (name : String)
    (ready : Syncable engine name) :
    ∃ statements existing,
      (engine.heardRules (Community.key name)).mapM Statement.ofJson = .ok statements ∧
      engine.db.getRules (Community.key name) = .ok existing ∧
      let automated := Rules.compile statements (engine.heardWiki (Community.key name))
      (automated.manualFlags.minAccountAgeDays.all Decimal.isShort = true →
        Decimal.isShort ((correctionsOf existing).apply automated).bannedWords.length = true →
          ∃ spec source, (engine.syncOne name).1 = .ok spec ∧ spec.source = some source ∧
            source.automatedBase = automated) ∧
      (automated.manualFlags.minAccountAgeDays.all Decimal.isShort = false →
        (engine.syncOne name).1 = .error (.store (.ruleWrite (Engine.storeKey name))) ∧
          (engine.syncOne name).2.db = engine.db) ∧
      (engine.traffic.rate.NeverBreak →
        ∀ (other : Engine) (otherAutomated : Rules), other.SameSettings engine →
          (other.gather (Community.key name)).1.compile = .ok otherAutomated →
          (other.traffic.feed.repliesAt? (Community.key name) .aboutRules =
              engine.traffic.feed.repliesAt? (Community.key name) .aboutRules →
            otherAutomated.statementPart = automated.statementPart) ∧
          (other.traffic.feed.repliesAt? (Community.key name) .wiki =
              engine.traffic.feed.repliesAt? (Community.key name) .wiki →
            otherAutomated.wikiPart = automated.wikiPart)) := by
  obtain ⟨automated, existing, aboutUrl, wikiUrl, compiled, found, stored, refused⟩ :=
    ready.exists_synced
  obtain ⟨statements, read, rfl⟩ := (engine.compile_gather (Community.key name) _).mp compiled
  refine ⟨statements, existing, read, found, ?_, refused, ?_⟩
  · intro age counted
    exact ⟨_, _, ready.syncOne_eq_ok _ (stored age) counted, rfl, rfl⟩
  · intro steady other otherAutomated same otherCompiled
    obtain ⟨others, otherRead, rfl⟩ :=
      (other.compile_gather (Community.key name) _).mp otherCompiled
    constructor
    · intro replies
      rw [Engine.heardRules_congr other steady same replies, read] at otherRead
      obtain rfl := Except.ok.inj otherRead
      exact Rules.statementPart_compile _ _ _
    · intro replies
      rw [Engine.heardWiki_congr other steady same replies]
      exact Rules.wikiPart_compile _ _ _

/-- A page of rules that states a limit for titles, as a reply. -/
def titleLimitReply : Reply :=
  .answer 200 [] (.ok (.obj [("rules", .arr
    [.obj [("short_name", .str "Titles"), ("description", .str "Title limit 300 characters")]])]))

/-- An engine with an empty database whose source publishes one rule and gives the reply for the
wiki. -/
def titleLimitEngine (wiki : Reply) : Engine where
  traffic :=
    { pace := ⟨1, 5, 2⟩
      feed := [⟨"cats", .aboutRules, [titleLimitReply]⟩, ⟨"cats", .wiki, [wiki]⟩] }
  now := offlineVisit.now

/-- All replies of this source are of a kind when the two that it gives are. -/
theorem titleLimitEngine_carries {Kind : String → Json → Prop} (wiki : Reply)
    (published : titleLimitReply.Carries (Kind "cats")) (answered : wiki.Carries (Kind "cats")) :
    (titleLimitEngine wiki).traffic.feed.Carries Kind := by
  intro prepared member reply listed
  rcases List.mem_cons.mp member with rfl | last
  · obtain rfl := List.mem_singleton.mp listed
    exact published
  · obtain rfl := List.mem_singleton.mp last
    obtain rfl := List.mem_singleton.mp listed
    exact answered

/-- Replies that can be read leave only such replies. -/
theorem titleLimitEngine_isReadable (wiki : Reply) (readable : wiki.IsReadable) :
    (titleLimitEngine wiki).traffic.feed.IsReadable := by
  refine (Feed.isReadable_iff_carries _).mpr (titleLimitEngine_carries wiki ?_ readable)
  intro status headers body same
  cases same
  rfl

/-- A request that times out has no body. -/
theorem Reply.timeout_carries (OfKind : Json → Prop) : Reply.timeout.Carries OfKind :=
  fun _ _ _ same => nomatch same

/-- A wiki that times out leaves the limit that the rules state, and so does a wiki that says
anything else. -/
theorem title_limit_survives_timeout :
    Syncable (titleLimitEngine .timeout) "cats" ∧
      (∃ spec source, ((titleLimitEngine .timeout).syncOne "cats").1 = .ok spec ∧
        spec.source = some source ∧ source.automatedBase = { maxTitleLength := some 300 }) ∧
      ∀ wiki automated, ((titleLimitEngine wiki).gather "cats").1.compile = .ok automated →
        automated.maxTitleLength = some 300 := by
  have key : Community.key "cats" = "cats" := by decide
  have ready : Syncable (titleLimitEngine .timeout) "cats" := by
    constructor
    · rw [key]
      decide
    · rfl
    · rfl
    · rfl
    · rfl
    · rfl
    · exact titleLimitEngine_isReadable .timeout (Reply.timeout_carries _)
    · exact ⟨_, rfl⟩
    · intro row found
      cases found
  have steady : (titleLimitEngine .timeout).traffic.rate.NeverBreak :=
    RateSettings.neverBreak_of_numbers _ (.int 5) (.int 2) _ rfl rfl rfl
  obtain ⟨statements, existing, read, found, stored, -, apart⟩ :=
    source_trouble_only_degrades (titleLimitEngine .timeout) "cats" ready
  rw [key] at read found stored apart
  have silent : (titleLimitEngine .timeout).heardWiki "cats" = "" := rfl
  have compiled : Rules.compile statements "" = { maxTitleLength := some 300 } := by
    obtain rfl := Except.ok.inj read
    decide +kernel
  rw [silent, compiled] at stored apart
  obtain rfl := Except.ok.inj found
  refine ⟨ready, stored rfl (isShort_of_small _ (by decide)), ?_⟩
  intro wiki automated other
  have settings : (titleLimitEngine wiki).SameSettings (titleLimitEngine .timeout) :=
    ⟨rfl, rfl, rfl, rfl, rfl⟩
  exact congrArg Rules.maxTitleLength ((apart steady _ automated settings other).1 rfl)

end Rulebook
