import Rulebook.Proofs.Landing

/-!
# Syncs side by side

The syncs of a batch run as coroutines of one thread. A coroutine fetches its two pages side by
side and gives way wherever a fetch waits: for its turn, for the reply, for the body. What it
does with the pages afterwards it does in one go. A schedule says which coroutine goes on next
and with which of its pages; between two steps any time may pass, with any effect on the pace.

Whatever the schedule, a coroutine only ever sees the replies for its own pages and the rows of
its own key. So once all coroutines are done, every one has come to what a sync by itself would
have come to, and the database holds the rows of all of them.
-/

namespace Rulebook

/-- How far the fetch of a page has come: it is asked for, it has its turn and an address, its
request has been sent and the source has decided on the reply, or it is over. -/
inductive Fetch where
  | asked
  | admitted (url : String)
  | sent (url : String) (reply : Reply)
  | arrived (body : Except Failure Json)

namespace Fetch

/-- Goes on with a fetch until it waits again. -/
def advance (t : Traffic) (settings : SyncSettings) (page : SourcePage) (key : String) :
    Fetch → Fetch × Traffic
  | .asked =>
    match settings.url page key with
    | .error fault => (.arrived (.error (.fault fault)), t)
    | .ok url =>
      if !t.connected then (.arrived (.error (.missing .connection)), t)
      else
        match t.wait with
        | (.error fault, t) => (.arrived (.error (.fault fault)), t)
        | (.ok _, t) => (.admitted url, t)
  | .admitted url =>
    let (reply, t) := t.request settings page key url
    (.sent url reply, t)
  | .sent url reply =>
    let (body, t) := t.receive settings page url reply
    (.arrived body, t)
  | .arrived body => (.arrived body, t)

/-- A fetch that nothing comes between takes three steps at most. -/
theorem advance_thrice (t : Traffic) (settings : SyncSettings) (page : SourcePage) (key : String) :
    let first := advance t settings page key .asked
    let second := advance first.2 settings page key first.1
    advance second.2 settings page key second.1 =
      (.arrived (t.fetch settings page key).1, (t.fetch settings page key).2) := by
  cases address : settings.url page key with
  | error fault => simp only [advance, Traffic.fetch, address]
  | ok url =>
    cases connected : t.connected with
    | false => simp only [advance, Traffic.fetch, address, connected, Bool.not_false, if_true]
    | true =>
      cases waited : t.wait with
      | mk outcome after =>
        cases outcome with
        | error fault =>
          simp only [advance, Traffic.fetch, address, connected, waited, Bool.not_true,
            Bool.false_eq_true, if_false]
        | ok _ =>
          simp only [advance, Traffic.fetch, address, connected, waited, Bool.not_true,
            Bool.false_eq_true, if_false, Traffic.send_eq]

/-- A fetch that has kept to what the source had to say at the start: while it waits for its
turn its reply is still to come, its reply is the one that was next, and its body is what a
fetch at the start would have given. -/
def Faithful (start : Engine) (feed : Feed) (key : String) (page : SourcePage) : Fetch → Prop
  | .asked => feed.repliesAt? key page = start.traffic.feed.repliesAt? key page
  | .admitted url =>
    start.sync.url page key = .ok url ∧ start.traffic.connected = true ∧
      feed.repliesAt? key page = start.traffic.feed.repliesAt? key page
  | .sent url reply =>
    start.sync.url page key = .ok url ∧ start.traffic.connected = true ∧
      reply = Feed.firstReply (start.traffic.feed.repliesAt? key page)
  | .arrived body => body = (start.traffic.fetch start.sync page key).1

variable {start : Engine} {key : String} {page : SourcePage}

/-- Only the replies for its own page matter to a fetch. -/
theorem Faithful.of_replies {feed after : Feed} {fetch : Fetch}
    (faithful : fetch.Faithful start feed key page)
    (same : after.repliesAt? key page = feed.repliesAt? key page) :
    fetch.Faithful start after key page := by
  cases fetch with
  | asked => exact same.trans faithful
  | admitted url => exact ⟨faithful.1, faithful.2.1, same.trans faithful.2.2⟩
  | sent url reply => exact faithful
  | arrived body => exact faithful

/-- A step of a fetch uses up a reply of its page at most. -/
theorem advance_movedAt (t : Traffic) (settings : SyncSettings) (fetch : Fetch) :
    t.MovedAt (fetch.advance t settings page key).2 key page := by
  cases fetch with
  | asked =>
    unfold advance
    dsimp only
    split
    · exact .refl
    · split
      · exact .refl
      · have waited := t.wait_movedAt key page
        split <;> next outcome => rw [outcome] at waited; exact waited
  | admitted url => exact t.request_movedAt settings page key url
  | sent url reply => exact t.receive_movedAt settings page key url reply
  | arrived body => exact .refl

/-- Every step of a fetch is faithful, if the settings never break a turn off. -/
theorem advance_faithful (t : Traffic) (fetch : Fetch) (steady : start.traffic.rate.NeverBreak)
    (rate : t.rate = start.traffic.rate) (connection : t.connected = start.traffic.connected)
    (faithful : fetch.Faithful start t.feed key page) :
    (fetch.advance t start.sync page key).1.Faithful start
      (fetch.advance t start.sync page key).2.feed key page := by
  cases fetch with
  | asked =>
    cases address : start.sync.url page key with
    | error fault =>
      simp only [advance, address]
      show Except.error _ = (start.traffic.fetch start.sync page key).1
      simp only [Traffic.fetch, address]
    | ok url =>
      cases connected : start.traffic.connected with
      | false =>
        simp only [advance, address, connection, connected, Bool.not_false, if_true]
        exact (start.traffic.fetch_unconnected start.sync page key url address connected).symm
      | true =>
        have turn := t.wait_eq_ok (rate ▸ steady)
        have feed : t.wait.2.feed = t.feed := rfl
        simp only [advance, address, connection, connected, Bool.not_true, Bool.false_eq_true,
          if_false]
        cases waited : t.wait with
        | mk outcome after =>
          rw [waited] at turn feed
          obtain rfl : outcome = .ok () := turn
          have unchanged : after.feed = t.feed := feed
          refine ⟨address, connected, ?_⟩
          rw [unchanged]
          exact faithful
  | admitted url =>
    obtain ⟨address, connected, replies⟩ := faithful
    refine ⟨address, connected, ?_⟩
    rw [← replies, ← Feed.next_eq_firstReply]
    rfl
  | sent url reply =>
    obtain ⟨address, connected, rfl⟩ := faithful
    exact (start.traffic.fetch_eq_receive t start.sync page key url steady address connected).symm
  | arrived body => exact faithful

end Fetch

/-- The fetches of both pages of a community. -/
abbrev Fetches := SourcePage → Fetch

/-- The fetches after one of them has gone on. -/
def Fetches.set (fetches : Fetches) (page : SourcePage) (fetch : Fetch) : Fetches :=
  fun other => if other = page then fetch else fetches other

/-- The fetch that has gone on is the new one. -/
@[simp] theorem Fetches.set_self (fetches : Fetches) (page : SourcePage) (fetch : Fetch) :
    fetches.set page fetch page = fetch := if_pos rfl

/-- Only the last step of a fetch counts. -/
@[simp] theorem Fetches.set_set (fetches : Fetches) (page : SourcePage) (earlier later : Fetch) :
    (fetches.set page earlier).set page later = fetches.set page later := by
  funext other
  unfold set
  split <;> rfl

/-- How far the sync of a community has come. -/
inductive Stage where
  | ready
  | fetching (key : String) (fetches : Fetches)
  | done (outcome : Except Failure RuleSpec)

/-- A coroutine that syncs a community. -/
structure Task where
  name : String
  stage : Stage

/-- A coroutine begins, goes on with the fetch of a page, or finishes. -/
inductive Move where
  | start
  | fetch (page : SourcePage)
  | finish

namespace Task

/-- The outcome of a coroutine that is done. -/
def outcome? (task : Task) : Option (Except Failure RuleSpec) :=
  match task.stage with
  | .done outcome => some outcome
  | _ => none

/-- The stage after a move. A move that the coroutine cannot make changes nothing: it finishes
only when both pages have arrived. -/
def move (engine : Engine) (name : String) : Move → Stage → Stage × Engine
  | .start, .ready =>
    match Engine.syncKey name with
    | .error failure => (.done (.error failure), engine)
    | .ok key => (.fetching key fun _ => .asked, engine)
  | .fetch page, .fetching key fetches =>
    let (fetch, traffic) := (fetches page).advance engine.traffic engine.sync page key
    (.fetching key (fetches.set page fetch), { engine with traffic })
  | .finish, .fetching key fetches =>
    match fetches .aboutRules, fetches .wiki with
    | .arrived rules, .arrived wiki =>
      let (outcome, engine) := engine.finish key (.ofBodies rules wiki)
      (.done outcome, engine)
    | _, _ => (.fetching key fetches, engine)
  | _, stage => (stage, engine)

/-- A coroutine that has kept to what a sync at the start would have met: the replies for its
pages are still to come, or its fetches are faithful, or its outcome is that of such a sync. -/
def Faithful (start : Engine) (feed : Feed) (task : Task) : Prop :=
  match task.stage with
  | .ready => ∀ page, feed.repliesAt? (Community.key task.name) page =
      start.traffic.feed.repliesAt? (Community.key task.name) page
  | .fetching key fetches =>
    Engine.syncKey task.name = .ok key ∧ ∀ page, (fetches page).Faithful start feed key page
  | .done outcome => outcome = start.outcomeOn start.db task.name

/-- Only the replies for its own pages matter to a coroutine. -/
theorem Faithful.of_replies {start : Engine} {feed after : Feed} {task : Task}
    (faithful : task.Faithful start feed)
    (same : ∀ page, after.repliesAt? (Community.key task.name) page =
      feed.repliesAt? (Community.key task.name) page) : task.Faithful start after := by
  obtain ⟨name, stage⟩ := task
  cases stage with
  | ready => exact fun page => (same page).trans (faithful page)
  | fetching key fetches =>
    obtain ⟨accepted, fetched⟩ := faithful
    obtain ⟨-, rfl⟩ := (Engine.syncKey_eq_ok_iff name key).mp accepted
    exact ⟨accepted, fun page => (fetched page).of_replies (same page)⟩
  | done outcome => exact faithful

/-- A step of a coroutine: it keeps the settings and uses up no reply of another community.
Either the coroutine goes on, faithfully and with the database as it was, or it is done, with
the outcome and the rows of a sync on that database. -/
structure Stepped (start : Engine) (name : String) (stage : Stage) (engine : Engine)
    (after : Stage × Engine) : Prop where
  settings : Engine.SameSettings after.2 start
  others : ∀ other page, other ≠ Community.key name →
    after.2.traffic.feed.repliesAt? other page = engine.traffic.feed.repliesAt? other page
  progress :
    ((Task.mk name after.1).outcome?.isSome = (Task.mk name stage).outcome?.isSome ∧
        after.2.db = engine.db ∧ (Task.mk name after.1).Faithful start after.2.traffic.feed) ∨
      ((Task.mk name stage).outcome? = none ∧
        after.1 = .done (start.outcomeOn engine.db name) ∧
        after.2.db = start.landOn engine.db name)

section

variable {start engine : Engine} {name : String}

/-- A move that a coroutine cannot make is a step that changes nothing. -/
theorem stepped_of_idle (stage : Stage) (settings : Engine.SameSettings engine start)
    (faithful : (Task.mk name stage).Faithful start engine.traffic.feed) :
    Stepped start name stage engine (stage, engine) where
  settings := settings
  others _ _ _ := rfl
  progress := Or.inl ⟨rfl, rfl, faithful⟩

/-- A coroutine begins, or is done at once when its name is refused, as a sync would be. -/
theorem stepped_start (settings : Engine.SameSettings engine start)
    (faithful : (Task.mk name .ready).Faithful start engine.traffic.feed) :
    Stepped start name .ready engine (move engine name .start .ready) := by
  unfold move
  cases accepted : Engine.syncKey name with
  | error failure =>
    refine ⟨settings, fun _ _ _ => rfl, Or.inr ⟨rfl, ?_, ?_⟩⟩
    · simp only [Engine.outcomeOn, Engine.syncOne, accepted]
    · simp only [Engine.landOn, Engine.syncOne, accepted]
  | ok key =>
    obtain ⟨-, rfl⟩ := (Engine.syncKey_eq_ok_iff name key).mp accepted
    exact ⟨settings, fun _ _ _ => rfl, Or.inl ⟨rfl, rfl, accepted, faithful⟩⟩

/-- A coroutine goes on with a fetch. Its other fetch is of another page. -/
theorem stepped_fetch (key : String) (fetches : Fetches) (page : SourcePage)
    (settings : Engine.SameSettings engine start) (steady : start.traffic.rate.NeverBreak)
    (faithful : (Task.mk name (.fetching key fetches)).Faithful start engine.traffic.feed) :
    Stepped start name (.fetching key fetches) engine
      (move engine name (.fetch page) (.fetching key fetches)) := by
  obtain ⟨accepted, fetched⟩ := faithful
  have moved : engine.traffic.MovedAt
      ((fetches page).advance engine.traffic engine.sync page key).2 key page :=
    Fetch.advance_movedAt engine.traffic engine.sync (fetches page)
  have next := Fetch.advance_faithful engine.traffic (fetches page) steady settings.rate
    settings.connected (fetched page)
  rw [← settings.sync] at next
  obtain ⟨-, rfl⟩ := (Engine.syncKey_eq_ok_iff name key).mp accepted
  constructor
  · exact ⟨settings.sync, settings.now, settings.knows, moved.rate.trans settings.rate,
      moved.connected.trans settings.connected⟩
  · exact fun other page different => moved.others other page fun both => different both.1
  · refine Or.inl ⟨rfl, rfl, accepted, fun other => ?_⟩
    unfold Fetches.set
    split
    · next same =>
      obtain rfl := same
      exact next
    · next different =>
      exact (fetched other).of_replies (moved.others _ other fun both => different both.2)

/-- A coroutine whose pages have arrived finishes as a sync would. -/
theorem stepped_finish (key : String) (fetches : Fetches)
    (settings : Engine.SameSettings engine start) (steady : start.traffic.rate.NeverBreak)
    (faithful : (Task.mk name (.fetching key fetches)).Faithful start engine.traffic.feed) :
    Stepped start name (.fetching key fetches) engine
      (move engine name .finish (.fetching key fetches)) := by
  obtain ⟨accepted, fetched⟩ := faithful
  have rules := fetched .aboutRules
  have wiki := fetched .wiki
  unfold move
  dsimp only
  split
  · next rulesBody wikiBody rulesArrived wikiArrived =>
    rw [rulesArrived] at rules
    rw [wikiArrived] at wiki
    obtain rfl : rulesBody = (start.traffic.fetch start.sync .aboutRules key).1 := rules
    obtain rfl : wikiBody = (start.traffic.fetch start.sync .wiki key).1 := wiki
    have gathered := start.traffic.gather_eq_ofBodies start.sync key steady
    rw [← gathered, ← Engine.gather_gathered]
    obtain ⟨outcome, lands⟩ := Engine.finish_eq_landOn settings accepted
    obtain ⟨metrics, db, after⟩ := engine.finish_traffic key (start.gather key).1
    generalize engine.finish key (start.gather key).1 = finished at outcome lands after ⊢
    obtain ⟨result, finished⟩ := finished
    obtain rfl : finished = _ := after
    refine ⟨⟨settings.sync, settings.now, settings.knows, settings.rate, settings.connected⟩,
      fun _ _ _ => rfl, Or.inr ⟨rfl, ?_, lands⟩⟩
    exact congrArg Stage.done outcome
  · exact stepped_of_idle _ settings ⟨accepted, fetched⟩

/-- Every move of a faithful coroutine is a step. -/
theorem stepped_move (stage : Stage) (choice : Move) (settings : Engine.SameSettings engine start)
    (steady : start.traffic.rate.NeverBreak)
    (faithful : (Task.mk name stage).Faithful start engine.traffic.feed) :
    Stepped start name stage engine (move engine name choice stage) := by
  have idle := stepped_of_idle stage settings faithful
  cases choice with
  | start =>
    cases stage with
    | ready => exact stepped_start settings faithful
    | _ => exact idle
  | fetch page =>
    cases stage with
    | fetching key fetches => exact stepped_fetch key fetches page settings steady faithful
    | _ => exact idle
  | finish =>
    cases stage with
    | fetching key fetches => exact stepped_finish key fetches settings steady faithful
    | _ => exact idle

end

end Task

/-- The coroutines of a batch and the engine that they share. -/
structure Crew where
  engine : Engine
  tasks : List Task

/-- What happens next: the coroutine at a position makes a move, or time passes and the pace
changes. -/
inductive Turn where
  | task (position : Nat) (move : Move)
  | pass (limiter : Limiter Float) (clock : Float) (pauses : List Float)

namespace Crew

/-- The coroutines of a batch before any of them has begun. -/
def fresh (engine : Engine) (names : List String) : Crew := ⟨engine, names.map (⟨·, .ready⟩)⟩

/-- What happens at a turn. -/
def take (crew : Crew) : Turn → Crew
  | .task position move =>
    match crew.tasks[position]? with
    | none => crew
    | some task =>
      let (stage, engine) := Task.move crew.engine task.name move task.stage
      ⟨engine, crew.tasks.set position ⟨task.name, stage⟩⟩
  | .pass limiter clock pauses =>
    { crew with engine := { crew.engine with
        traffic := { crew.engine.traffic with limiter, clock, pauses } } }

/-- What happens under a schedule. -/
def run (crew : Crew) (schedule : List Turn) : Crew := schedule.foldl take crew

/-- A coroutine at a position stands between those before it and those after it, and what it
turns into takes its place. -/
theorem exists_split (tasks : List Task) (position : Nat) (task next : Task)
    (found : tasks[position]? = some task) :
    ∃ before after, tasks = before ++ task :: after ∧
      tasks.set position next = before ++ next :: after := by
  obtain ⟨inside, rfl⟩ := List.getElem?_eq_some_iff.mp found
  obtain ⟨before, after, split, -, replaced⟩ :
      ∃ before after, tasks = before ++ tasks[position] :: after ∧ before.length = position ∧
        tasks.set position next = before ++ next :: after := List.exists_of_set inside
  exact ⟨before, after, split, replaced⟩

/-- The communities whose coroutines are done. -/
def doneNames (tasks : List Task) : List String :=
  (tasks.filter (·.outcome?.isSome)).map (·.name)

/-- What holds at every moment of a batch, seen from its start: the settings are the same, the
database is what the syncs that are done make of it, every coroutine is faithful, and no reply
of any other community has been used up. -/
structure Sound (start : Engine) (names : List String) (crew : Crew) : Prop where
  settings : Engine.SameSettings crew.engine start
  named : crew.tasks.map (·.name) = names
  landed : crew.engine.db = (doneNames crew.tasks).foldl start.landOn start.db
  faithful : ∀ task ∈ crew.tasks, task.Faithful start crew.engine.traffic.feed
  others : ∀ key, (∀ name ∈ names, key ≠ Community.key name) → ∀ page,
    crew.engine.traffic.feed.repliesAt? key page = start.traffic.feed.repliesAt? key page

/-- A batch that has not begun is sound. -/
theorem sound_fresh (engine : Engine) (names : List String) :
    (fresh engine names).Sound engine names := by
  have undone : doneNames (fresh engine names).tasks = [] := by
    simp [doneNames, fresh, Task.outcome?]
  constructor
  · exact .refl engine
  · rw [fresh, List.map_map]
    exact List.map_id names
  · rw [undone]
    rfl
  · intro task member
    obtain ⟨name, -, rfl⟩ := List.mem_map.mp member
    exact fun _ => rfl
  · exact fun _ _ _ => rfl

/-- Communities with different rows are different from each other wherever one of them stands
among the others. -/
theorem apart_of_distinct (before after : List Task) (task : Task)
    (distinct : ((before ++ task :: after).map fun task => Engine.storeKey task.name).Nodup)
    (other : Task) (member : other ∈ before ++ after) :
    Engine.storeKey task.name ≠ Engine.storeKey other.name := by
  rw [(List.perm_middle.map _).nodup_iff, List.map_cons, List.nodup_cons] at distinct
  intro same
  exact distinct.1 (List.mem_map.mpr ⟨other, member, same.symm⟩)

/-- Who is done is the same before, at and after a position. -/
theorem doneNames_middle (before after : List Task) (task : Task) :
    doneNames (before ++ task :: after) =
      doneNames before ++ (doneNames [task] ++ doneNames after) := by
  simp [doneNames, List.filter_cons]
  split <;> simp

/-- Those who are done are among the coroutines. -/
theorem exists_task_of_done (tasks : List Task) (name : String) (member : name ∈ doneNames tasks) :
    ∃ task ∈ tasks, task.name = name := by
  obtain ⟨task, kept, same⟩ := List.mem_map.mp member
  exact ⟨task, (List.mem_filter.mp kept).1, same⟩

variable {start : Engine} {names : List String} {engine : Engine} {before after : List Task}
  {task : Task} {next : Stage × Engine}

/-- The coroutines of others are faithful after a step, because it uses up none of their
replies. -/
theorem Sound.faithful_others (sound : Sound start names ⟨engine, before ++ task :: after⟩)
    (apart : ∀ other ∈ before ++ after,
      Engine.storeKey task.name ≠ Engine.storeKey other.name)
    (stepped : Task.Stepped start task.name task.stage engine next) (other : Task)
    (member : other ∈ before ++ after) : other.Faithful start next.2.traffic.feed := by
  have among : other ∈ before ++ task :: after :=
    List.perm_middle.symm.subset (List.mem_cons_of_mem task member)
  refine (sound.faithful other among).of_replies fun page => stepped.others _ page ?_
  intro same
  exact apart other member (congrArg Community.key same).symm

/-- A coroutine that is done before its turn comes again has landed where it would have landed
first, and has come to the same. -/
theorem Sound.landed_step (sound : Sound start names ⟨engine, before ++ task :: after⟩)
    (apart : ∀ other ∈ before ++ after,
      Engine.storeKey task.name ≠ Engine.storeKey other.name)
    (undone : task.outcome? = none) :
    start.outcomeOn engine.db task.name = start.outcomeOn start.db task.name ∧
      start.landOn engine.db task.name =
        (doneNames before ++ (task.name :: doneNames after)).foldl start.landOn start.db := by
  have landed := sound.landed
  have nobody : doneNames [task] = [] := by simp [doneNames, undone]
  rw [doneNames_middle, nobody, List.nil_append] at landed
  have different (name : String) (member : name ∈ doneNames before ++ doneNames after) :
      Engine.storeKey task.name ≠ Engine.storeKey name := by
    have split : doneNames before ++ doneNames after = doneNames (before ++ after) := by
      simp [doneNames]
    rw [split] at member
    obtain ⟨other, among, rfl⟩ := exists_task_of_done _ name member
    exact apart other among
  constructor
  · rw [landed]
    exact (start.landOn_alike _ _ task.name (start.agreeAt_foldl_landOn _ _ _ different)).1
  · rw [landed, List.foldl_append, List.foldl_append, List.foldl_cons]
    exact (start.foldl_landOn_comm _ _ task.name fun name member =>
      different name (List.mem_append_right _ member)).symm

/-- A step of one coroutine keeps a batch sound. -/
theorem Sound.step (sound : Sound start names ⟨engine, before ++ task :: after⟩)
    (distinct : (names.map Engine.storeKey).Nodup)
    (stepped : Task.Stepped start task.name task.stage engine next) :
    Sound start names ⟨next.2, before ++ ⟨task.name, next.1⟩ :: after⟩ := by
  have named := sound.named
  have apart := apart_of_distinct before after task (by
    rw [← sound.named, List.map_map] at distinct
    exact distinct)
  have others := sound.faithful_others apart stepped
  -- The coroutine that has made the step may be done; the others are as they were.
  have here : (Task.mk task.name next.1).Faithful start next.2.traffic.feed ∧
      next.2.db = (doneNames (before ++ ⟨task.name, next.1⟩ :: after)).foldl start.landOn
        start.db := by
    rcases stepped.progress with ⟨alike, unchanged, faithful⟩ | ⟨undone, done, landed⟩
    · have same : doneNames [⟨task.name, next.1⟩] = doneNames [task] := by
        simp [doneNames, List.filter_cons, alike]
        split <;> rfl
      refine ⟨faithful, ?_⟩
      rw [unchanged, doneNames_middle, same, ← doneNames_middle]
      exact sound.landed
    · obtain ⟨outcome, lands⟩ := sound.landed_step apart undone
      have somebody : doneNames [⟨task.name, next.1⟩] = [task.name] := by
        simp [doneNames, done, Task.outcome?]
      refine ⟨?_, ?_⟩
      · rw [done]
        exact outcome
      · rw [landed, doneNames_middle, somebody]
        exact lands
  constructor
  · exact stepped.settings
  · simpa using named
  · exact here.2
  · intro other member
    rcases List.mem_append.mp member with left | right
    · exact others other (List.mem_append_left _ left)
    · rcases List.mem_cons.mp right with rfl | right
      · exact here.1
      · exact others other (List.mem_append_right _ right)
  · intro key foreign page
    rw [stepped.others key page]
    · exact sound.others key foreign page
    · refine foreign task.name ?_
      rw [← named]
      exact List.mem_map_of_mem (List.mem_append_right _ List.mem_cons_self)

/-- Whatever happens at a turn keeps a batch sound. -/
theorem Sound.take {crew : Crew} (sound : Sound start names crew)
    (steady : start.traffic.rate.NeverBreak) (distinct : (names.map Engine.storeKey).Nodup)
    (turn : Turn) : Sound start names (crew.take turn) := by
  obtain ⟨engine, tasks⟩ := crew
  cases turn with
  | pass limiter clock pauses =>
    obtain ⟨settings, named, landed, faithful, others⟩ := sound
    exact ⟨⟨settings.sync, settings.now, settings.knows, settings.rate, settings.connected⟩, named,
      landed, faithful, others⟩
  | task position choice =>
    unfold Crew.take
    dsimp only
    cases found : tasks[position]? with
    | none => exact sound
    | some task =>
      have stepped := Task.stepped_move task.stage choice sound.settings steady
        (sound.faithful task (List.mem_of_getElem? found))
      obtain ⟨before, after, rfl, replaced⟩ := exists_split tasks position task
        ⟨task.name, (Task.move engine task.name choice task.stage).1⟩ found
      dsimp only
      rw [replaced]
      exact sound.step distinct stepped

/-- A batch stays sound under any schedule. -/
theorem Sound.run {crew : Crew} (sound : Sound start names crew)
    (steady : start.traffic.rate.NeverBreak) (distinct : (names.map Engine.storeKey).Nodup)
    (schedule : List Turn) : Sound start names (crew.run schedule) := by
  induction schedule generalizing crew with
  | nil => exact sound
  | cons turn rest inductionHypothesis =>
    exact inductionHypothesis (sound.take steady distinct turn)

end Crew

end Rulebook
