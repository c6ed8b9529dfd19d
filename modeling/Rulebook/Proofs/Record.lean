import Rulebook.Proofs.Operations
import Rulebook.Proofs.Previews

/-!
# The log of events

The log grows at its end and nowhere else. Each operation leaves it as it is or appends one event
with the next number, and the only operations that append are a check that a user asked for and an
event that is inserted by hand. So what is on record stays on record, in its order, for as long as
the table is there.

A check is all or nothing: it breaks off and leaves the whole engine as it was, or it gives its
verdict and the log has the event that tells it.
-/

namespace Rulebook

open Document

/-- A log as appending leaves it: a table that is not there has no events, and no event has a
number beyond how many there are. -/
structure Table.IsLog (log : Table PreviewEvent) : Prop where
  empty : log.present = false → log.rows = []
  numbered : ∀ event ∈ log.rows, ∃ id : Int, event.id = some id ∧ id ≤ log.rows.length

/-- What an operation may do to a log: keep its events, or append one with the next number. -/
inductive LogStep (before : Table PreviewEvent) : Table PreviewEvent → Prop where
  | kept (after : Table PreviewEvent) (same : after.rows = before.rows)
      (stays : before.present = true → after.present = true) : LogStep before after
  | appended (event : PreviewEvent) (next : event.id = some (before.rows.length + 1))
      (present : before.present = true) :
      LogStep before { before with rows := before.rows ++ [event] }

namespace LogStep

variable {before after : Table PreviewEvent}

/-- Leaving the log alone is a step. -/
theorem of_eq (same : after = before) : LogStep before after := by
  rw [same]
  exact .kept before rfl id

/-- Nothing that is on record changes. -/
theorem extends_rows (step : LogStep before after) : before.rows <+: after.rows := by
  cases step with
  | kept _ same stays => exact same ▸ List.prefix_refl _
  | appended event next present => exact List.prefix_append _ _

/-- A log stays one. -/
theorem isLog (step : LogStep before after) (log : before.IsLog) : after.IsLog := by
  cases step with
  | kept _ same stays =>
    constructor
    · intro missing
      have gone : before.present = false := by
        apply Bool.eq_false_iff.mpr
        intro there
        rw [stays there] at missing
        cases missing
      rw [same]
      exact log.empty gone
    · rw [same]
      exact log.numbered
  | appended event next present =>
    constructor
    · intro missing
      rw [present] at missing
      cases missing
    · intro recorded member
      rw [List.length_append, List.length_singleton]
      rcases List.mem_append.mp member with earlier | last
      · obtain ⟨id, numbered, bounded⟩ := log.numbered recorded earlier
        exact ⟨id, numbered, by omega⟩
      · obtain rfl := List.mem_singleton.mp last
        exact ⟨_, next, by omega⟩

end LogStep

/-- An event tells of a check: who asked, which community the post was for, previews of its title
and its body, the verdict with all that was found, and when. -/
structure PreviewEvent.TellsOf (event : PreviewEvent) (engine : Engine) (post : Lint.Request)
    (user : Int) (result : LintResult) : Prop where
  user : event.userId = user
  community : event.subreddit = Community.key post.community
  title : event.titlePreview = Lint.redactPreview post.title titlePreviewLimit
  titleShort : event.titlePreview.length ≤ 200
  body : event.bodyPreview = Lint.redactPreview post.body bodyPreviewLimit
  bodyShort : event.bodyPreview.length ≤ 500
  state : event.policyState = result.state
  warnings : event.warnings = result.violations ++ result.warnings
  instant : event.createdAt.instant = engine.now.instant
  universal : event.createdAt.offset = some 0

namespace Engine

variable (engine : Engine)

/-- The event that records a check tells of it, under any number and with its time on a clock of
universal time. -/
theorem eventOf_tellsOf (post : Lint.Request) (user : Int) (result : LintResult) (id : Option Int)
    (createdAt : Calendar.Moment) (onClock : engine.now.inUtc? = some createdAt) :
    PreviewEvent.TellsOf { engine.eventOf post result user with id, createdAt } engine post user
      result := by
  obtain ⟨shown, offset⟩ := (Calendar.Moment.inUtc?_eq_some_iff _ _).mp onClock
  have title := Lint.length_redactPreview_le post.title titlePreviewLimit (by decide)
  have body := Lint.length_redactPreview_le post.body bodyPreviewLimit (by decide)
  constructor
  · rfl
  · rfl
  · rfl
  · exact Int.ofNat_le.mp title
  · rfl
  · exact Int.ofNat_le.mp body
  · rfl
  · rfl
  · rw [← shown, Calendar.Moment.instant, offset]
    simp
  · exact offset

/-- A check breaks off and changes nothing, or gives its verdict and records nothing, without a
user or a log, or gives its verdict and inserts the event that records it. -/
theorem lint_cases (request userId : Json) :
    (∃ failure, engine.lint request userId = (.error failure, engine)) ∨
      ∃ post result, Lint.Request.validate request = .ok post ∧ engine.verdict post = .ok result ∧
        (((userId.isNull || !engine.keepsEvents) = true ∧
            engine.lint request userId = (.ok result, engine.record (.verdict result.state))) ∨
          ((userId.isNull || !engine.keepsEvents) = false ∧
            ∃ user db recorded, readInteger ["user_id"] userId = .ok user ∧
              engine.db.insertEvent (engine.eventOf post result user) = .ok (db, recorded) ∧
              engine.lint request userId =
                (.ok result, ({ engine with db } : Engine).record (.verdict result.state)))) := by
  unfold lint lintRequest recordCheck
  -- A check can break off at each of its steps; only the last one writes.
  cases validated : Lint.Request.validate request with
  | error rejection => exact Or.inl ⟨_, rfl⟩
  | ok post =>
    cases judged : engine.verdict post with
    | error failure => exact Or.inl ⟨failure, by simp only [judged]⟩
    | ok result =>
      cases unrecorded : userId.isNull || !engine.keepsEvents with
      | true => exact Or.inr ⟨post, result, rfl, judged, Or.inl ⟨rfl, by simp [judged]⟩⟩
      | false =>
        cases read : readInteger ["user_id"] userId with
        | bad problems => exact Or.inl ⟨_, by simp [judged]; rfl⟩
        | ok user =>
          cases inserted : engine.db.insertEvent (engine.eventOf post result user) with
          | error failure => exact Or.inl ⟨failure, by simp [judged, inserted]⟩
          | ok appended =>
            obtain ⟨db, recorded⟩ := appended
            refine Or.inr ⟨post, result, rfl, judged,
              Or.inr ⟨rfl, user, db, recorded, rfl, inserted, ?_⟩⟩
            simp [judged, inserted]

/-- A check that breaks off changes nothing. -/
theorem lint_of_error (request userId : Json) (failure : Failure)
    (failed : (engine.lint request userId).1 = .error failure) :
    (engine.lint request userId).2 = engine := by
  rcases engine.lint_cases request userId with ⟨_, same⟩ |
    ⟨_, _, -, -, ⟨-, same⟩ | ⟨-, _, _, _, -, -, same⟩⟩
  · rw [same]
  · rw [same] at failed
    cases failed
  · rw [same] at failed
    cases failed

/-- A check for nobody, and one without a log, leaves the database alone. -/
theorem lint_db_of_unrecorded (request userId : Json)
    (unrecorded : userId.isNull = true ∨ engine.keepsEvents = false) :
    (engine.lint request userId).2.db = engine.db := by
  rcases engine.lint_cases request userId with ⟨_, same⟩ |
    ⟨_, _, -, -, ⟨-, same⟩ | ⟨recording, -⟩⟩
  · rw [same]
  · rw [same]
    rfl
  · obtain ⟨asked, kept⟩ := Bool.or_eq_false_iff.mp recording
    rcases unrecorded with nobody | unkept
    · rw [nobody] at asked
      cases asked
    · rw [unkept] at kept
      cases kept

/-- Work on the database is a step of the log if its result is one. -/
theorem logStep_onDatabase {α : Type} (result : Database.Result (Database × α))
    (step : ∀ db value, result = .ok (db, value) → LogStep engine.db.events db.events) :
    LogStep engine.db.events (engine.onDatabase result).2.db.events := by
  cases result with
  | error failure => exact .of_eq rfl
  | ok changed =>
    obtain ⟨db, value⟩ := changed
    exact step db value rfl

/-- Work that gives nothing but the database is a step of the log if that is one. -/
theorem logStep_onDatabase_unit (result : Database.Result Database)
    (step : ∀ db, result = .ok db → LogStep engine.db.events db.events) :
    LogStep engine.db.events (engine.onDatabase (result.map (·, ()))).2.db.events := by
  cases result with
  | error failure => exact .of_eq rfl
  | ok db => exact step db rfl

/-- An inserted event is appended to the log. -/
theorem logStep_insertEvent (event : PreviewEvent) (db : Database) (recorded : PreviewEvent)
    (inserted : engine.db.insertEvent event = .ok (db, recorded)) :
    LogStep engine.db.events db.events := by
  obtain ⟨createdAt, -, present, rfl⟩ := engine.db.insertEvent_appended db event recorded inserted
  exact .appended { event with id := some (engine.db.events.rows.length + 1), createdAt } rfl present

/-- A check is a step of the log. -/
theorem logStep_lint (request userId : Json) :
    LogStep engine.db.events (engine.lint request userId).2.db.events := by
  rcases engine.lint_cases request userId with ⟨failure, same⟩ |
    ⟨post, result, -, -, ⟨-, same⟩ | ⟨-, user, db, recorded, -, inserted, same⟩⟩
  · rw [same]
    exact .of_eq rfl
  · rw [same]
    exact .of_eq rfl
  · rw [same]
    exact engine.logStep_insertEvent _ db recorded inserted

/-- A check changes the log of events and the counters only. -/
theorem lint_frame (request userId : Json) : ∃ traffic events,
    (engine.lint request userId).2 = { engine with traffic, db := { engine.db with events } } := by
  rcases engine.lint_cases request userId with ⟨failure, same⟩ |
    ⟨post, result, -, -, ⟨-, same⟩ | ⟨-, user, db, recorded, -, inserted, same⟩⟩
  · rw [same]
    exact ⟨engine.traffic, engine.db.events, rfl⟩
  · rw [same]
    exact ⟨_, engine.db.events, rfl⟩
  · obtain ⟨createdAt, -, -, rfl⟩ := engine.db.insertEvent_appended db _ recorded inserted
    rw [same]
    exact ⟨_, _, rfl⟩

/-- A check leaves the rules on file and the communities alone. -/
theorem lint_tables (request userId : Json) :
    (engine.lint request userId).2.db.rules = engine.db.rules ∧
      (engine.lint request userId).2.db.communities = engine.db.communities := by
  obtain ⟨traffic, events, same⟩ := engine.lint_frame request userId
  rw [same]
  exact ⟨rfl, rfl⟩

/-- The gate changes the counters only. -/
theorem checkGate_frame (userId : Int) :
    ∃ traffic, (engine.checkGate userId).2 = { engine with traffic } := by
  unfold checkGate
  split
  · exact ⟨engine.traffic, rfl⟩
  · exact ⟨_, rfl⟩

/-- The gate touches no table. -/
theorem checkGate_db (userId : Int) : (engine.checkGate userId).2.db = engine.db := by
  obtain ⟨traffic, same⟩ := engine.checkGate_frame userId
  rw [same]

/-- Creating the tables keeps a log that is there, and one that is not comes without events. -/
theorem logStep_createSchema (log : engine.db.events.IsLog) (db : Database)
    (created : engine.db.createSchema = .ok db) : LogStep engine.db.events db.events := by
  unfold Database.createSchema at created
  split at created
  · cases created
  · cases created
  · obtain rfl := Except.ok.inj created
    show LogStep engine.db.events engine.db.events.create
    unfold Table.create
    cases present : engine.db.events.present with
    | true => exact .of_eq rfl
    | false => exact .kept _ (log.empty present).symm fun there => rfl

/-- Every operation is a step of the log. -/
theorem logStep_after (log : engine.db.events.IsLog) (operation : Operation) :
    LogStep engine.db.events (engine.after operation).db.events := by
  cases operation with
  | syncOne name =>
    -- Opened here, or comparing the two sides would run the sync.
    rw [after]
    exact .of_eq (engine.syncedTo_syncOne name).events
  | syncAll names =>
    rw [after]
    exact .of_eq (engine.syncedTo_syncAll names).events
  | lint request userId => exact engine.logStep_lint request userId
  | checkGate userId => exact .of_eq (congrArg Database.events (engine.checkGate_db userId))
  | fetchRules name => exact .of_eq rfl
  | fetchWiki name => exact .of_eq rfl
  | putRules name spec =>
    apply engine.logStep_onDatabase_unit
    intro db written
    obtain ⟨-, -, -, -, rfl⟩ := (Database.putRules_eq_ok_iff _ _ _ _).mp written
    exact .of_eq rfl
  | insertEvent event => exact engine.logStep_onDatabase _ (engine.logStep_insertEvent event)
  | addCommunity name displayName =>
    apply engine.logStep_onDatabase
    intro db fresh added
    obtain ⟨communities, rfl⟩ := engine.db.addCommunity_frame db name displayName fresh added
    exact .of_eq rfl
  | updateCommunity name overview syncedAt =>
    apply engine.logStep_onDatabase
    intro db known updated
    obtain ⟨communities, rfl⟩ :=
      engine.db.updateCommunity_frame db name overview syncedAt known updated
    exact .of_eq rfl
  | createSchema => exact engine.logStep_onDatabase_unit _ (engine.logStep_createSchema log)

/-- Whatever happens, a log stays one. -/
theorem isLog_happen (log : engine.db.events.IsLog) (happening : Happening) :
    (engine.happen happening).db.events.IsLog := by
  cases happening with
  | operation operation => exact (engine.logStep_after log operation).isLog log
  | meanwhile world => exact ⟨log.empty, log.numbered⟩
  | logLost =>
    constructor
    · intro _
      rfl
    · intro event member
      cases member

/-- Unless the log is lost, what is on record stays on record. -/
theorem happen_extends (log : engine.db.events.IsLog) (happening : Happening)
    (kept : happening ≠ .logLost) :
    engine.db.events.rows <+: (engine.happen happening).db.events.rows := by
  cases happening with
  | operation operation => exact (engine.logStep_after log operation).extends_rows
  | meanwhile world => exact List.prefix_refl _
  | logLost => exact absurd rfl kept

/-- After any run a log is still one. -/
theorem isLog_run (log : engine.db.events.IsLog) (happenings : List Happening) :
    (engine.run happenings).db.events.IsLog := by
  induction happenings generalizing engine with
  | nil => exact log
  | cons first rest inductionHypothesis =>
    rw [run_cons]
    exact inductionHypothesis _ (engine.isLog_happen log first)

/-- A run in which the log is not lost keeps all that is on record, in its order. -/
theorem run_extends (log : engine.db.events.IsLog) (happenings : List Happening)
    (kept : .logLost ∉ happenings) :
    engine.db.events.rows <+: (engine.run happenings).db.events.rows := by
  induction happenings generalizing engine with
  | nil => exact List.prefix_refl _
  | cons first rest inductionHypothesis =>
    obtain ⟨here, later⟩ := List.ne_and_not_mem_of_not_mem_cons kept
    rw [run_cons]
    exact (engine.happen_extends log first fun same => here same.symm).trans
      (inductionHypothesis _ (engine.isLog_happen log first) later)

/-- A check that a user asked for, and that gives its verdict, appends the event that tells of it.
Its number is larger than all before it. -/
theorem lint_appends (log : engine.db.events.IsLog) (request userId : Json)
    (result : LintResult) (given : (engine.lint request userId).1 = .ok result)
    (asked : userId.isNull = false) (recording : engine.keepsEvents = true) :
    ∃ post user event id, Lint.Request.validate request = .ok post ∧
      readInteger ["user_id"] userId = .ok user ∧
      (engine.lint request userId).2.db.events.rows = engine.db.events.rows ++ [event] ∧
      event.TellsOf engine post user result ∧ event.id = some id ∧
      ∀ earlier ∈ engine.db.events.rows, ∃ before, earlier.id = some before ∧ before < id := by
  rcases engine.lint_cases request userId with ⟨failure, same⟩ |
    ⟨post, judged, validated, -, ⟨unrecorded, -⟩ | ⟨-, user, db, recorded, read, inserted, same⟩⟩
  · rw [same] at given
    cases given
  · rw [asked, recording] at unrecorded
    cases unrecorded
  · obtain ⟨createdAt, onClock, -, rfl⟩ := engine.db.insertEvent_appended db _ recorded inserted
    rw [same] at given ⊢
    obtain rfl := Except.ok.inj given
    refine ⟨post, user, _, _, validated, read, rfl, ?_, rfl, ?_⟩
    · exact engine.eventOf_tellsOf post user judged _ createdAt onClock
    · intro earlier member
      obtain ⟨before, numbered, bounded⟩ := log.numbered earlier member
      exact ⟨before, numbered, by omega⟩

/-- The log is append-only and tells the truth.

Take any run, and any engine that it reaches from a log as appending leaves it. Whatever happens
next, the events on record stay there in their order, until the log itself is lost.

A check that breaks off, for whatever reason, leaves the engine as it was. A check that gives its
verdict appends one event when a user asked for it and a log is kept: the event has a number
larger than all before it and tells of the check, with previews cut to their lengths. Otherwise it
appends none. A check touches neither the rules on file nor the communities, and the gate touches
no table at all.

Proof: an operation keeps the events or appends one with the next number, so no event ever has a
number beyond how many there are, and the next number is larger than all of them. -/
theorem log_is_append_only (log : engine.db.events.IsLog) (happenings : List Happening) :
    let reached := engine.run happenings
    (∀ further, .logLost ∉ further →
      reached.db.events.rows <+: (reached.run further).db.events.rows) ∧
    (∀ request userId,
      (∀ failure, (reached.lint request userId).1 = .error failure →
        (reached.lint request userId).2 = reached) ∧
      (∀ result, (reached.lint request userId).1 = .ok result →
        userId.isNull = false → reached.keepsEvents = true →
          ∃ post user event id, Lint.Request.validate request = .ok post ∧
            readInteger ["user_id"] userId = .ok user ∧
            (reached.lint request userId).2.db.events.rows = reached.db.events.rows ++ [event] ∧
            event.TellsOf reached post user result ∧ event.id = some id ∧
            ∀ earlier ∈ reached.db.events.rows,
              ∃ before, earlier.id = some before ∧ before < id) ∧
      (userId.isNull = true ∨ reached.keepsEvents = false →
        (reached.lint request userId).2.db = reached.db) ∧
      (reached.lint request userId).2.db.rules = reached.db.rules ∧
      (reached.lint request userId).2.db.communities = reached.db.communities) ∧
    ∀ userId, (reached.checkGate userId).2.db = reached.db := by
  intro reached
  have reachedLog : reached.db.events.IsLog := engine.isLog_run log happenings
  refine ⟨fun further kept => reached.run_extends reachedLog further kept, ?_, reached.checkGate_db⟩
  intro request userId
  refine ⟨reached.lint_of_error request userId, ?_, reached.lint_db_of_unrecorded request userId,
    reached.lint_tables request userId⟩
  intro result given asked recording
  exact reached.lint_appends reachedLog request userId result given asked recording

/-- An engine with an empty database. -/
def freshEngine : Engine where
  traffic := offlineVisit.traffic
  now := offlineVisit.now

/-- A request to check a post. -/
def catsRequest : Json := .obj [("subreddit", .str "r/Cats"), ("title", .str "Cats at a.com")]

/-- A check, the loss of the log, a database file in its place, and another check. -/
def reopened : List Happening :=
  [.operation (.lint catsRequest (.int 7)), .logLost,
    .meanwhile { freshEngine with db := { home := .file } }, .operation .createSchema,
    .operation (.lint catsRequest (.int 7))]

/-- After a log was lost and created anew, the next check has the next number. -/
theorem check_is_recorded_after_loss :
    freshEngine.db.events.IsLog ∧
      ∃ first second, ((freshEngine.run reopened).lint catsRequest (.int 8)).2.db.events.rows =
          [first, second] ∧ first.id = some 1 ∧ (∃ id, second.id = some id ∧ 1 < id) ∧
        second.userId = 8 ∧ second.subreddit = "cats" ∧ second.titlePreview = "Cats at [link]" ∧
        second.policyState = .warn := by
  have log : freshEngine.db.events.IsLog := by
    constructor
    · intro missing
      cases missing
    · intro event member
      cases member
  obtain ⟨-, checks, -⟩ := freshEngine.log_is_append_only log reopened
  obtain ⟨-, appends, -, -, -⟩ := checks catsRequest (.int 8)
  have verdict : ((freshEngine.run reopened).lint catsRequest (.int 8)).1 =
      .ok (noRulesResult "cats") := rfl
  have validated : Lint.Request.validate catsRequest = .ok ⟨"r/Cats", "Cats at a.com", "", false⟩ :=
    rfl
  have once : (freshEngine.run reopened).db.events.rows.map (·.id) = [some 1] := by
    decide +kernel
  obtain ⟨post, user, event, id, valid, read, rows, tells, numbered, larger⟩ :=
    appends _ verdict rfl rfl
  rw [validated] at valid
  obtain rfl := Except.ok.inj valid
  obtain rfl := Checked.ok.inj read
  obtain ⟨first, single, one⟩ := List.map_eq_singleton_iff.mp once
  rw [single] at rows larger
  obtain ⟨before, same, beyond⟩ := larger first (List.mem_singleton.mpr rfl)
  rw [one] at same
  obtain rfl := Option.some.inj same
  refine ⟨log, first, event, rows, one, ⟨id, numbered, beyond⟩, tells.user, ?_, ?_, tells.state⟩
  · exact tells.community.trans (by decide)
  · exact tells.title.trans (by decide +kernel)

end Engine

end Rulebook
