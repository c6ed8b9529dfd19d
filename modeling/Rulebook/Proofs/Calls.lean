import Mathlib.Algebra.BigOperators.Group.List.Lemmas
import Mathlib.Algebra.GroupWithZero.Nat
import Rulebook.Preview.Gate
import Rulebook.Proofs.Schedules

/-!
# What counters count

Counters are increased in the middle of things: in the traffic when a fetch fails, in a sync when
it is over, in the linter and in the gate before they answer. Seen from outside they count calls.
Every call that ends adds to one counter or to none, and which one is decided by its outcome: the
counter of a sync that returned or failed, of a verdict, of a decision, or of the failed fetches of
a page.

Two kinds of calls are counted nowhere. A check or a decision that breaks off has no outcome to be
counted, and a sync whose name is refused has not begun. So failed syncs are counted less often than
they are reported when names are refused.

What has been recorded while some calls ended has the counters of these calls in their order. This
composes, so it is proved of the smallest steps that end a call: a step of a fetch and a move of a
coroutine, and from there of every schedule.
-/

namespace Rulebook

/-- What the counters tell apart. -/
inductive Counter where
  | synced (succeeded : Bool)
  | verdict (state : PolicyState)
  | gate (allowed : Bool)
  | unavailable (page : SourcePage)
deriving DecidableEq

/-- The counter that an occurrence belongs to. The durations of fetches are observed and not
counted. -/
def Occurrence.counter? : Occurrence → Option Counter
  | .synced succeeded => some (.synced succeeded)
  | .verdict state => some (.verdict state)
  | .gate allowed => some (.gate allowed)
  | .fetchFailed page _ => some (.unavailable page)
  | .fetched => none

/-- The value of a counter. Failed fetches of a page are counted by their causes, so their number is
a sum. -/
def Metrics.value (metrics : Metrics) : Counter → Nat
  | .synced succeeded => metrics.count (.synced succeeded)
  | .verdict state => metrics.count (.verdict state)
  | .gate allowed => metrics.count (.gate allowed)
  | .unavailable page =>
    ((metrics.log.dedup.filter fun occurrence =>
      occurrence.counter? == some (.unavailable page)).map metrics.count).sum

/-- A call that has ended. -/
inductive Call where
  | fetch (page : SourcePage) (failure : Option Failure)
  | sync (name : String) (outcome : Except Failure RuleSpec)
  | lint (outcome : Except Failure LintResult)
  | gate (outcome : Except Failure GateDecision)

/-- The counter that counts a call. -/
def Call.counter? : Call → Option Counter
  | .fetch page (some (.sourceUnavailable _ _)) => some (.unavailable page)
  | .fetch _ _ => none
  | .sync _ (.ok _) => some (.synced true)
  | .sync name (.error _) => if Community.key name = "" then none else some (.synced false)
  | .lint (.ok result) => some (.verdict result.state)
  | .lint (.error _) => none
  | .gate (.ok decision) => some (.gate decision.canQueue)
  | .gate (.error _) => none

/-- What a sync of a community has come to. -/
def Call.report? : Call → Option Report
  | .sync name outcome => some (name, outcome)
  | _ => none

/-- Why something has failed, if it has. -/
def failureOf {α : Type} : Except Failure α → Option Failure
  | .ok _ => none
  | .error failure => some failure

namespace Metrics

/-- A counter has the number of its occurrences. -/
theorem value_eq_count (metrics : Metrics) (counter : Counter) :
    metrics.value counter = (metrics.log.filterMap Occurrence.counter?).count counter := by
  have single (occurrence : Occurrence)
      (only : ∀ other, other.counter? = some counter ↔ other = occurrence) :
      metrics.count occurrence = (metrics.log.filterMap Occurrence.counter?).count counter := by
    rw [List.count_filterMap, count, List.count]
    apply List.countP_congr
    intro other _
    rw [beq_iff_eq, beq_iff_eq, only]
  cases counter with
  | synced succeeded =>
    exact single (.synced succeeded) fun other => by cases other <;> simp [Occurrence.counter?]
  | verdict state =>
    exact single (.verdict state) fun other => by cases other <;> simp [Occurrence.counter?]
  | gate allowed =>
    exact single (.gate allowed) fun other => by cases other <;> simp [Occurrence.counter?]
  | unavailable page =>
    rw [List.count_filterMap]
    exact List.sum_map_count_dedup_filter_eq_countP _ metrics.log

/-- What has been recorded while calls ended: of each call that a counter counts one occurrence of
that counter, in the order of the calls. -/
structure Recorded (before after : Metrics) (calls : List Call) : Prop where
  enabled : after.enabled = before.enabled
  log : before.enabled = true → ∃ added, after.log = before.log ++ added ∧
    added.filterMap Occurrence.counter? = calls.filterMap Call.counter?

namespace Recorded

variable {before between after : Metrics} {calls more : List Call}

/-- Nothing is recorded while no call ends. -/
theorem refl (metrics : Metrics) : Recorded metrics metrics [] :=
  ⟨rfl, fun _ => ⟨[], (List.append_nil _).symm, rfl⟩⟩

/-- What is recorded of more calls follows. -/
theorem trans (first : Recorded before between calls) (second : Recorded between after more) :
    Recorded before after (calls ++ more) where
  enabled := second.enabled.trans first.enabled
  log := by
    intro enabled
    obtain ⟨added, here, counted⟩ := first.log enabled
    obtain ⟨others, later, tallied⟩ := second.log (first.enabled.trans enabled)
    refine ⟨added ++ others, ?_, ?_⟩
    · rw [later, here, List.append_assoc]
    · rw [List.filterMap_append, List.filterMap_append, counted, tallied]

/-- Only the counters of the calls matter. -/
theorem congr (recorded : Recorded before after calls)
    (same : calls.filterMap Call.counter? = more.filterMap Call.counter?) :
    Recorded before after more :=
  ⟨recorded.enabled, fun enabled => by rw [← same]; exact recorded.log enabled⟩

/-- One occurrence is recorded of one call that its counter counts. -/
theorem record (metrics : Metrics) (occurrence : Occurrence) (call : Call)
    (same : occurrence.counter? = call.counter?) :
    Recorded metrics (metrics.record occurrence) [call] where
  enabled := by
    unfold Metrics.record
    split <;> rfl
  log := by
    intro enabled
    refine ⟨[occurrence], by rw [Metrics.record, if_pos enabled], ?_⟩
    rw [List.filterMap_cons, List.filterMap_cons, same]
    rfl

/-- Nothing is recorded of a call that is not counted. -/
theorem uncounted (metrics : Metrics) (call : Call) (none : call.counter? = none) :
    Recorded metrics metrics [call] :=
  (refl metrics).congr (by rw [List.filterMap_cons_none none])

/-- Along with the calls every counter increases by the number of calls that it counts. -/
theorem value (recorded : Recorded before after calls) (enabled : before.enabled = true)
    (counter : Counter) :
    after.value counter =
      before.value counter + calls.countP fun call => call.counter? == some counter := by
  obtain ⟨added, log, counted⟩ := recorded.log enabled
  have tally : (calls.filterMap Call.counter?).count counter =
      calls.countP fun call => call.counter? == some counter := List.count_filterMap
  rw [value_eq_count, value_eq_count, log, List.filterMap_append, List.count_append, counted, tally]

end Recorded

end Metrics

open Metrics (Recorded)

namespace Traffic

variable (t : Traffic) (settings : SyncSettings) (page : SourcePage)

/-- Accepting an answer records why the source is unavailable, if it is. -/
theorem recorded_accept (url : String) (status : Int) (headers : List (String × Json))
    (body : Except String Json) :
    Recorded t.metrics (t.accept page url status headers body).2.metrics
      [.fetch page (failureOf (t.accept page url status headers body).1)] := by
  obtain ⟨-, limiter, left⟩ := t.heed_frame t status headers
  unfold accept
  cases heeded : t.heed status headers with
  | mk outcome after =>
    rw [heeded] at left
    obtain rfl : after = { t with limiter } := left
    cases outcome with
    | error fault => exact .uncounted _ _ rfl
    | ok _ =>
      dsimp only
      split
      · exact .record _ _ _ rfl
      · split
        · exact .uncounted _ _ rfl
        · exact .record _ _ _ rfl

/-- Taking in a reply records why the source is unavailable, if it is. -/
theorem recorded_receive (url : String) (reply : Reply) :
    Recorded t.metrics (t.receive settings page url reply).2.metrics
      [.fetch page (failureOf (t.receive settings page url reply).1)] := by
  cases reply with
  | timeout => exact .record _ _ _ rfl
  | broken reason => exact .record _ _ _ rfl
  | systemError => exact .uncounted _ _ rfl
  | answer status headers body => exact t.recorded_accept page url status headers body

/-- Sending a request ends no call. -/
theorem recorded_request (name url : String) :
    Recorded t.metrics (t.request settings page name url).2.metrics [] :=
  (Recorded.record t.metrics .fetched (.fetch page none) rfl).congr rfl

/-- A fetch records why the source is unavailable, if it is. -/
theorem recorded_fetch (name : String) :
    Recorded t.metrics (t.fetch settings page name).2.metrics
      [.fetch page (failureOf (t.fetch settings page name).1)] := by
  unfold fetch
  split
  · exact .uncounted _ _ rfl
  · next url address =>
    split
    · exact .uncounted _ _ rfl
    · obtain ⟨limiter, clock, pauses, waited⟩ := t.wait_frame
      split
      · next fault after outcome =>
        rw [outcome] at waited
        obtain rfl : after = { t with limiter, clock, pauses } := waited
        exact .uncounted _ _ rfl
      · next after outcome =>
        rw [outcome] at waited
        obtain rfl : after = { t with limiter, clock, pauses } := waited
        rw [send_eq]
        have requested := recorded_request { t with limiter, clock, pauses } settings page name url
        exact requested.trans (recorded_receive _ settings page url _)

/-- Reading a page never makes the source unavailable. -/
theorem counter?_readAs {α : Type} (read : Json → Except Fault α) (body : Except Failure Json) :
    (Call.fetch page (failureOf (readAs read body))).counter? =
      (Call.fetch page (failureOf body)).counter? := by
  cases body with
  | error failure => rfl
  | ok value =>
    simp only [readAs, Except.bind]
    cases read value <;> rfl

/-- A page that is fetched and read records why the source is unavailable, if it is. -/
theorem recorded_readBody {α : Type} (read : Json → Except Fault α) (name : String) :
    Recorded t.metrics (readBody read (t.fetch settings page name)).2.metrics
      [.fetch page (failureOf (readBody read (t.fetch settings page name)).1)] := by
  rw [readBody_eq]
  refine (t.recorded_fetch settings page name).congr ?_
  rw [List.filterMap_cons, List.filterMap_cons, counter?_readAs]

end Traffic

/-- The call that ends when a fetch comes from one point to another. -/
def Fetch.ended (page : SourcePage) : Fetch → Fetch → List Call
  | .arrived _, _ => []
  | _, .arrived body => [.fetch page (failureOf body)]
  | _, _ => []

/-- A fetch that stays where it is ends no call. -/
theorem Fetch.ended_self (page : SourcePage) (fetch : Fetch) : fetch.ended page fetch = [] := by
  cases fetch <;> rfl

/-- A step of a fetch records the call that it ends. -/
theorem Fetch.recorded_advance (t : Traffic) (settings : SyncSettings) (page : SourcePage)
    (key : String) (fetch : Fetch) :
    Recorded t.metrics (fetch.advance t settings page key).2.metrics
      (fetch.ended page (fetch.advance t settings page key).1) := by
  cases fetch with
  | asked =>
    unfold advance
    dsimp only
    split
    · exact .uncounted _ _ rfl
    · split
      · exact .uncounted _ _ rfl
      · obtain ⟨limiter, clock, pauses, waited⟩ := t.wait_frame
        split <;> next outcome =>
          rw [outcome] at waited
          obtain rfl := waited
          first | exact .uncounted _ _ rfl | exact .refl _
  | admitted url => exact t.recorded_request settings page key url
  | sent url reply => exact t.recorded_receive settings page url reply
  | arrived body => exact .refl _

/-- The calls that end when a coroutine comes from one stage to another. -/
def Stage.ended (name : String) : Stage → Stage → List Call
  | .done _, _ => []
  | _, .done outcome => [.sync name outcome]
  | .fetching _ before, .fetching _ after =>
    (before .aboutRules).ended .aboutRules (after .aboutRules) ++
      (before .wiki).ended .wiki (after .wiki)
  | _, _ => []

/-- A coroutine that stays where it is ends no call. -/
theorem Stage.ended_self (name : String) (stage : Stage) : stage.ended name stage = [] := by
  cases stage with
  | ready => rfl
  | fetching key fetches => simp only [ended, Fetch.ended_self, List.append_nil]
  | done outcome => rfl

/-- A coroutine that fetches does so under the key of its name. -/
def Task.Accepted (task : Task) : Prop :=
  match task.stage with
  | .fetching key _ => Engine.syncKey task.name = .ok key
  | _ => True

namespace Engine

variable (engine : Engine)

/-- Finishing with the pages of a community counts a sync. -/
theorem recorded_finish (name key : String) (gathered : Gathered)
    (accepted : syncKey name = .ok key) :
    Recorded engine.traffic.metrics (engine.finish key gathered).2.traffic.metrics
      [.sync name (engine.finish key gathered).1] := by
  obtain ⟨some, -⟩ := (syncKey_eq_ok_iff name key).mp accepted
  obtain ⟨communities, stored⟩ := engine.store_frame key gathered
  unfold finish
  split <;> next outcome =>
    rw [outcome] at stored
    obtain rfl := stored
    refine .record _ _ _ ?_
    simp only [Call.counter?, Occurrence.counter?, some, if_false]

/-- A name that is refused has an empty key, and its sync is not counted. -/
theorem counter?_of_refused (name : String) (failure refusal : Failure)
    (refused : syncKey name = .error refusal) :
    (Call.sync name (.error failure)).counter? = none := by
  unfold syncKey at refused
  dsimp only at refused
  split at refused
  · next blank => simp only [Call.counter?, beq_iff_eq.mp blank, if_true]
  · cases refused

end Engine

/-- What a move has to do with the counters: it records the calls that it ends, and the coroutine
goes on to fetch under the key of its name. -/
structure Task.Counted (engine : Engine) (name : String) (stage : Stage) (after : Stage × Engine) :
    Prop where
  recorded : Recorded engine.traffic.metrics after.2.traffic.metrics (stage.ended name after.1)
  accepted : (Task.mk name after.1).Accepted

namespace Task

variable (engine : Engine) (name : String)

/-- A move that the coroutine cannot make ends no call. -/
theorem counted_of_idle (stage : Stage) (accepted : (Task.mk name stage).Accepted) :
    Counted engine name stage (stage, engine) := by
  refine ⟨?_, accepted⟩
  rw [Stage.ended_self]
  exact .refl _

/-- A coroutine that begins is done at once when its name is refused, and that is not counted. -/
theorem counted_start : Counted engine name .ready (move engine name .start .ready) := by
  unfold move
  cases named : Engine.syncKey name with
  | error failure =>
    exact ⟨.uncounted _ _ (Engine.counter?_of_refused name failure failure named), trivial⟩
  | ok key => exact ⟨.refl _, named⟩

/-- A fetch that goes on ends at most its own call. -/
theorem counted_fetch (key : String) (fetches : Fetches) (page : SourcePage)
    (accepted : Engine.syncKey name = .ok key) :
    Counted engine name (.fetching key fetches)
      (move engine name (.fetch page) (.fetching key fetches)) := by
  have advanced := Fetch.recorded_advance engine.traffic engine.sync page key (fetches page)
  rw [move_fetch]
  refine ⟨?_, accepted⟩
  generalize (fetches page).advance engine.traffic engine.sync page key = next at advanced ⊢
  cases page with
  | aboutRules =>
    have other : fetches.set .aboutRules next.1 .wiki = fetches .wiki := rfl
    simp only [Stage.ended, Fetches.set_self, other, Fetch.ended_self, List.append_nil]
    exact advanced
  | wiki =>
    have other : fetches.set .wiki next.1 .aboutRules = fetches .aboutRules := rfl
    simp only [Stage.ended, Fetches.set_self, other, Fetch.ended_self, List.nil_append]
    exact advanced

/-- A coroutine whose pages have arrived ends with a sync that is counted. -/
theorem counted_finish (key : String) (fetches : Fetches)
    (accepted : Engine.syncKey name = .ok key) :
    Counted engine name (.fetching key fetches)
      (move engine name .finish (.fetching key fetches)) := by
  unfold move
  dsimp only
  split
  · next rules wiki _ _ =>
    exact ⟨engine.recorded_finish name key (.ofBodies rules wiki) accepted, trivial⟩
  · exact counted_of_idle engine name _ accepted

/-- Every move records the calls that it ends. -/
theorem counted_move (stage : Stage) (choice : Move) (accepted : (Task.mk name stage).Accepted) :
    Counted engine name stage (move engine name choice stage) := by
  have idle := counted_of_idle engine name stage accepted
  cases choice with
  | start =>
    cases stage with
    | ready => exact counted_start engine name
    | _ => exact idle
  | fetch page =>
    cases stage with
    | fetching key fetches => exact counted_fetch engine name key fetches page accepted
    | _ => exact idle
  | finish =>
    cases stage with
    | fetching key fetches => exact counted_finish engine name key fetches accepted
    | _ => exact idle

/-- A coroutine that comes to an end reports the sync that ends. -/
theorem reports_move (stage : Stage) (choice : Move) :
    reportsOf [⟨name, (move engine name choice stage).1⟩] =
      reportsOf [⟨name, stage⟩] ++
        (stage.ended name (move engine name choice stage).1).filterMap Call.report? := by
  have unreported (page : SourcePage) (first second : Fetch) :
      (first.ended page second).filterMap Call.report? = [] := by
    cases first <;> cases second <;> rfl
  cases stage with
  | done outcome =>
    rw [move_of_done, Stage.ended_self]
    rfl
  | ready =>
    cases (move engine name choice .ready).1 <;> rfl
  | fetching key fetches =>
    cases (move engine name choice (.fetching key fetches)).1 with
    | fetching other next =>
      simp only [Stage.ended, List.filterMap_append, unreported]
      rfl
    | _ => rfl

end Task

namespace Crew

/-- The calls that end at a turn. -/
def callsAt (crew : Crew) : Turn → List Call
  | .task position choice =>
    match crew.tasks[position]? with
    | none => []
    | some task => task.stage.ended task.name (Task.move crew.engine task.name choice task.stage).1
  | .pass _ _ _ => []

/-- The calls that end under a schedule. -/
def callsDuring (crew : Crew) : List Turn → List Call
  | [] => []
  | turn :: rest => crew.callsAt turn ++ (crew.take turn).callsDuring rest

/-- What calls have to do with the counters and with the coroutines of a batch: they are recorded,
and their syncs are those of the coroutines that are done. -/
structure Counted (before after : Crew) (calls : List Call) : Prop where
  recorded : Recorded before.engine.traffic.metrics after.engine.traffic.metrics calls
  accepted : (∀ task ∈ before.tasks, task.Accepted) → ∀ task ∈ after.tasks, task.Accepted
  reports : (reportsOf after.tasks).Perm (reportsOf before.tasks ++ calls.filterMap Call.report?)

/-- A turn records the calls that it ends. -/
theorem counted_take (crew : Crew) (turn : Turn) (accepted : ∀ task ∈ crew.tasks, task.Accepted) :
    Counted crew (crew.take turn) (crew.callsAt turn) := by
  obtain ⟨engine, tasks⟩ := crew
  have idle : Counted ⟨engine, tasks⟩ ⟨engine, tasks⟩ [] :=
    ⟨.refl _, id, by rw [List.filterMap_nil, List.append_nil]⟩
  cases turn with
  | pass limiter clock pauses => exact ⟨idle.recorded, idle.accepted, idle.reports⟩
  | task position choice =>
    unfold take callsAt
    dsimp only
    cases found : tasks[position]? with
    | none => exact idle
    | some task =>
      have here := Task.counted_move engine task.name task.stage choice
        (accepted task (List.mem_of_getElem? found))
      have reports := Task.reports_move engine task.name task.stage choice
      obtain ⟨before, after, rfl, replaced⟩ := exists_split tasks position task
        ⟨task.name, (Task.move engine task.name choice task.stage).1⟩ found
      dsimp only
      rw [replaced]
      generalize Task.move engine task.name choice task.stage = next at here reports ⊢
      refine ⟨here.recorded, ?_, ?_⟩
      · intro _ other member
        rcases List.mem_append.mp member with left | right
        · exact accepted other (List.mem_append_left _ left)
        · rcases List.mem_cons.mp right with rfl | later
          · exact here.accepted
          · exact accepted other (List.mem_append_right _ (List.mem_cons_of_mem _ later))
      · have middle (some : Task) : (reportsOf (before ++ some :: after)).Perm
            (reportsOf before ++ reportsOf after ++ reportsOf [some]) := by
          rw [← reportsOf_append, ← reportsOf_append]
          exact (List.perm_middle.trans (List.perm_append_singleton _ _).symm).filterMap _
        apply (middle _).trans
        rw [reports, ← List.append_assoc]
        exact (middle task).symm.append_right _

/-- A schedule records the calls that end under it. -/
theorem counted_run (crew : Crew) (schedule : List Turn)
    (accepted : ∀ task ∈ crew.tasks, task.Accepted) :
    Counted crew (crew.run schedule) (crew.callsDuring schedule) := by
  induction schedule generalizing crew with
  | nil => exact ⟨.refl _, id, by rw [callsDuring, List.filterMap_nil, List.append_nil]; rfl⟩
  | cons turn rest inductionHypothesis =>
    have here := counted_take crew turn accepted
    have later := inductionHypothesis (crew.take turn) (here.accepted accepted)
    refine ⟨here.recorded.trans later.recorded, fun all => later.accepted (here.accepted all), ?_⟩
    rw [callsDuring, List.filterMap_append, ← List.append_assoc]
    exact later.reports.trans (here.reports.append_right _)

end Crew

end Rulebook
