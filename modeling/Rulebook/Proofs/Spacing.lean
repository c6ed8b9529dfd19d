import Mathlib.Data.NNRat.Defs
import Mathlib.Data.Rat.Floor
import Mathlib.Tactic.Linarith
import Rulebook.Limiter.Turn
import Rulebook.Proofs.Store

/-!
# When requests go out

In exact numbers a request goes out at the latest of three moments: now, the least distance after
the last request, and, when few calls are left, the buffer after their count starts anew. Each of
the two pauses on the way reads the clock again, so the second one already counts in the first.

While a request waits, time passes and responses to other requests arrive. They may change what
is known about the count, and they may move the time of the last request, but only to their own
moment. So however the waiting is interrupted, and whatever the responses say, two requests are
never closer to each other than the least distance.

Floating-point seconds are not covered: there a sum is rounded, and a pause may end early by as
much.
-/

namespace Rulebook

namespace Number

/-- The exact value of a number. Infinite numbers and the non-number have none. -/
def rational? : Number → Option ℚ
  | .int value => some value
  | .float value =>
    match Decimal.readFloat value with
    | .finite negative magnitude =>
      let scaled : Int := if negative then -(magnitude.num : Int) else magnitude.num
      some (scaled / magnitude.den)
    | _ => none

/-- Dividing down what is negative is dividing up what is not. -/
theorem neg_fdiv_neg (num : Int) (den : Nat) : -(-num).fdiv den = ⌈(num / den : ℚ)⌉ := by
  have rounded := Rat.floor_intCast_div_natCast (-num) den
  rw [Int.cast_neg, neg_div, Int.floor_neg] at rounded
  rw [Int.fdiv_eq_ediv_of_nonneg _ (Int.natCast_nonneg den), ← rounded, neg_neg]

/-- The ceiling of a number is that of its exact value. -/
theorem ceiling?_of_rational (number : Number) (value : ℚ) (valued : number.rational? = some value) :
    number.ceiling? = some ⌈value⌉ := by
  cases number with
  | int whole =>
    obtain rfl := Option.some.inj valued
    rw [Int.ceil_intCast]
    rfl
  | float x =>
    simp only [rational?] at valued
    simp only [ceiling?]
    cases reading : Decimal.readFloat x with
    | finite negative magnitude =>
      rw [reading] at valued
      obtain rfl := Option.some.inj valued
      exact congrArg some (neg_fdiv_neg _ _)
    | infinite negative => simp only [reading, reduceCtorEq] at valued
    | notANumber => simp only [reading, reduceCtorEq] at valued

end Number

/-- What settings say about the spacing of requests, in exact numbers: the requests in a minute,
the number of calls left from which on there is no waiting, and the time to wait longer than
necessary. -/
structure ExactRate where
  perMinute : ℚ
  enough : ℚ
  buffer : ℚ
  positive : 0 < perMinute

namespace ExactRate

/-- The least distance between requests. -/
def interval (rate : ExactRate) : ℚ := 60 / rate.perMinute

/-- The pace of exact settings. Calls are counted whole. -/
def pace (rate : ExactRate) : Pace ℚ := .ofRate rate.perMinute ⌈rate.enough⌉ rate.buffer

/-- The exact numbers of settings whose numbers are finite and that let requests go out. -/
def ofSettings? (settings : RateSettings) : Option ExactRate := do
  let perMinute ← settings.maxRequestsPerMinute.number?.bind Number.rational?
  let enough ← settings.minRemainingCalls.number?.bind Number.rational?
  let buffer ← settings.sleepBuffer.number?.bind Number.rational?
  if positive : 0 < perMinute then return ⟨perMinute, enough, buffer, positive⟩ else none

/-- Settings with finite numbers ask for the same count of calls exactly. -/
theorem enough_paceOf (settings : RateSettings) (rate : ExactRate) (pace : Pace Float)
    (known : ofSettings? settings = some rate) (asked : Limiter.paceOf settings = .ok pace) :
    pace.enough = rate.pace.enough := by
  simp only [ofSettings?, Option.bind_eq_bind, Option.bind_eq_some_iff, Option.pure_def,
    Option.dite_none_right_eq_some, Option.some.injEq] at known
  obtain ⟨-, -, enough, ⟨threshold, isNumber, value⟩, -, -, -, rfl⟩ := known
  simp only [Limiter.paceOf, bind_eq_ok_iff] at asked
  obtain ⟨-, -, perMinute, -, asked⟩ := asked
  split at asked
  · cases asked
  · obtain rfl := Except.ok.inj asked
    simp only [Pace.ofRate, isNumber, Option.map_some, Option.getD_some, Limiter.enoughOf,
      threshold.ceiling?_of_rational enough value, ExactRate.pace]

/-- The default settings ask for a request a second. -/
example : (ofSettings? {}).map (fun rate => (rate.perMinute, rate.enough, rate.buffer)) =
    some (60, 5, 2) := by decide +kernel

end ExactRate

namespace Limiter

/-- The moment at which a request may go out: not before now, not before the least distance after
the last one, and with few calls left not before the buffer after their count starts anew. -/
def due (limiter : Limiter ℚ) (rate : ExactRate) (now : ℚ) : ℚ :=
  let spaced := max now (limiter.last + rate.interval)
  match limiter.remaining, limiter.reset with
  | some remaining, some reset =>
    if remaining < rate.enough then max spaced (reset + rate.buffer) else spaced
  | _, _ => spaced

/-- The wait for the least distance ends when it is reached, which may be now. -/
theorem waitInterval_reached (limiter : Limiter ℚ) (pace : Pace ℚ) (now : ℚ) :
    (limiter.waitInterval pace now).2 = max now (limiter.last + pace.interval) := by
  unfold waitInterval
  dsimp only
  split
  · next early => rw [max_eq_right (by linarith)]; ring
  · next late => rw [max_eq_left (by linarith)]

/-- With few calls left there is a pause exactly when the count has yet to start anew. -/
theorem resetPause?_of_known (limiter : Limiter ℚ) (pace : Pace ℚ) (now : ℚ) (remaining : Int)
    (reset : ℚ) (counted : limiter.remaining = some remaining) (timed : limiter.reset = some reset) :
    limiter.resetPause? pace now =
      if remaining < pace.enough ∧ now < reset + pace.buffer then
        some (reset + pace.buffer - now)
      else none := by
  simp only [resetPause?, counted, timed]
  by_cases few : remaining < pace.enough
  · have shifted : reset - now + pace.buffer = reset + pace.buffer - now := by ring
    simp only [few, if_true, true_and, shifted, sub_pos]
  · simp only [few, if_false, false_and]

/-- No pause is without length. -/
theorem resetPause?_pos (limiter : Limiter ℚ) (pace : Pace ℚ) (now pause : ℚ)
    (waits : limiter.resetPause? pace now = some pause) : 0 < pause := by
  unfold resetPause? at waits
  split at waits
  · dsimp only at waits
    split at waits
    · split at waits
      · next long => exact Option.some.inj waits ▸ long
      · cases waits
    · cases waits
  · cases waits

/-- A request reserves the moment at which it goes out. -/
theorem last_beforeRequest (limiter : Limiter ℚ) (pace : Pace ℚ) (now : ℚ) :
    (limiter.beforeRequest pace now).limiter.last = (limiter.beforeRequest pace now).now := by
  unfold beforeRequest
  dsimp only
  split <;> rfl

/-- A request goes out after both pauses; the second one is reckoned from the end of the first. -/
theorem now_beforeRequest (limiter : Limiter ℚ) (pace : Pace ℚ) (now : ℚ) :
    (limiter.beforeRequest pace now).now =
      let reached := max now (limiter.last + pace.interval)
      reached + (limiter.resetPause? pace reached).getD 0 := by
  unfold beforeRequest
  rw [← waitInterval_reached]
  dsimp only
  split
  · next pause waits => rw [waits, Option.getD_some]
  · next unneeded => rw [unneeded, Option.getD_none, add_zero]

/-- A request goes out when it is due. -/
theorem now_beforeRequest_eq_due (limiter : Limiter ℚ) (rate : ExactRate) (now : ℚ) :
    (limiter.beforeRequest rate.pace now).now = limiter.due rate now := by
  rw [now_beforeRequest]
  have distance : rate.pace.interval = rate.interval := rfl
  rw [distance]
  unfold due
  generalize max now (limiter.last + rate.interval) = reached
  dsimp only
  split
  · next remaining reset counted timed =>
    rw [resetPause?_of_known limiter rate.pace reached remaining reset counted timed]
    have threshold : remaining < rate.pace.enough ↔ (remaining : ℚ) < rate.enough := Int.lt_ceil
    have longer : rate.pace.buffer = rate.buffer := rfl
    simp only [threshold, longer]
    by_cases few : (remaining : ℚ) < rate.enough
    · by_cases early : reached < reset + rate.buffer
      · rw [if_pos ⟨few, early⟩, if_pos few, max_eq_right early.le, Option.getD_some]
        ring
      · rw [if_neg fun both => early both.2, if_pos few, max_eq_left (not_lt.mp early),
          Option.getD_none, add_zero]
    · rw [if_neg fun both => few both.1, if_neg few, Option.getD_none, add_zero]
  · next unknown =>
    have unneeded : limiter.resetPause? rate.pace reached = none := by
      unfold resetPause?
      split
      · next remaining reset counted timed => exact (unknown remaining reset counted timed).elim
      · rfl
    rw [unneeded, Option.getD_none, add_zero]

/-- A request that waits until a moment: for the least distance from the last one, or for the
count of calls to start anew. -/
inductive Waiting where
  | distance (moment : ℚ)
  | renewal (moment : ℚ)

/-- The moment at which a request wakes up. -/
def Waiting.moment : Waiting → ℚ
  | .distance moment => moment
  | .renewal moment => moment

/-- A limiter in use: its clock, the request that waits for its turn, and the moments at which
requests have gone out. -/
structure Watch where
  limiter : Limiter ℚ
  now : ℚ
  waiting : Option Waiting := none
  turns : List ℚ := []

/-- What happens to a limiter in use: a request asks for its turn or goes on from a pause, the
headers of a response arrive, or it is refused, or time passes. -/
inductive Event where
  | ask
  | wake
  | headers (remaining : HeaderReading Int) (reset : HeaderReading ℚ)
  | refusal (seconds : ℚ)
  | pass (seconds : ℚ≥0)

namespace Watch

/-- The request that waits goes out and leaves the limiter given. -/
def goOut (watch : Watch) (limiter : Limiter ℚ) : Watch :=
  { watch with limiter, waiting := none, turns := watch.turns ++ [watch.now] }

/-- What an event does. Only one request waits at a time; another one that asks has to ask again,
and one that wakes up too early goes on waiting. -/
def step (pace : Pace ℚ) (watch : Watch) : Event → Watch
  | .ask =>
    match watch.waiting with
    | none =>
      let reached := (watch.limiter.waitInterval pace watch.now).2
      { watch with waiting := some (.distance reached) }
    | some _ => watch
  | .wake =>
    match watch.waiting with
    | some (.distance moment) =>
      if watch.now < moment then watch
      else
        match watch.limiter.resetPause? pace watch.now with
        | some pause => { watch with waiting := some (.renewal (watch.now + pause)) }
        | none => watch.goOut { watch.limiter with last := watch.now }
    | some (.renewal moment) =>
      if watch.now < moment then watch else watch.goOut ⟨none, none, watch.now⟩
    | none => watch
  | .headers remaining reset =>
    { watch with limiter := (watch.limiter.update watch.now remaining reset).1 }
  | .refusal seconds => { watch with limiter := watch.limiter.hold watch.now seconds }
  | .pass seconds => { watch with now := watch.now + seconds }

/-- What a run of events does. -/
def run (pace : Pace ℚ) (watch : Watch) (events : List Event) : Watch :=
  events.foldl (step pace) watch

/-- The requests that have gone out are apart, none of them lies ahead or after the time noted as
that of the last one, and the request that waits keeps its distance too. -/
structure Spaced (pace : Pace ℚ) (watch : Watch) : Prop where
  apart : watch.turns.Pairwise fun earlier later => earlier + pace.interval ≤ later
  past : ∀ turn ∈ watch.turns, turn ≤ watch.now
  noted : ∀ turn ∈ watch.turns, turn ≤ watch.limiter.last
  ahead : ∀ waiting, watch.waiting = some waiting →
    ∀ turn ∈ watch.turns, turn + pace.interval ≤ waiting.moment

variable {pace : Pace ℚ} {watch : Watch}

/-- A limiter of which no request has gone out yet is spaced. -/
theorem spaced_of_unused (unused : watch.turns = []) : watch.Spaced pace := by
  obtain ⟨limiter, now, waiting, turns⟩ := watch
  obtain rfl : turns = [] := unused
  have nothing (P : ℚ → Prop) : ∀ turn ∈ ([] : List ℚ), P turn := List.forall_mem_nil P
  exact ⟨.nil, nothing _, nothing _, fun _ _ => nothing _⟩

/-- A request that goes out keeps its distance from the others. -/
theorem Spaced.goOut (spaced : watch.Spaced pace) (waiting : Waiting)
    (waits : watch.waiting = some waiting) (due : waiting.moment ≤ watch.now) (limiter : Limiter ℚ)
    (reserved : limiter.last = watch.now) : (watch.goOut limiter).Spaced pace := by
  have distance (turn : ℚ) (member : turn ∈ watch.turns) : turn + pace.interval ≤ watch.now :=
    (spaced.ahead waiting waits turn member).trans due
  have reached : ∀ turn ∈ watch.turns ++ [watch.now], turn ≤ watch.now :=
    List.forall_mem_append.mpr ⟨spaced.past, List.forall_mem_singleton.mpr le_rfl⟩
  constructor
  · refine List.pairwise_append.mpr ⟨spaced.apart, List.pairwise_singleton _ _, ?_⟩
    exact fun turn member => List.forall_mem_singleton.mpr (distance turn member)
  · exact reached
  · rw [Watch.goOut, reserved]
    exact reached
  · exact fun _ nobody => nomatch nobody

/-- The headers of a response move the time of the last request to now. -/
theorem last_update (limiter : Limiter ℚ) (now : ℚ) (remaining : HeaderReading Int)
    (reset : HeaderReading ℚ) : (limiter.update now remaining reset).1.last = now := by
  unfold update
  cases remaining <;> cases reset <;> rfl

/-- The step: an event keeps requests apart. -/
theorem Spaced.step (spaced : watch.Spaced pace) (event : Event) :
    (watch.step pace event).Spaced pace := by
  cases event with
  | ask =>
    unfold Watch.step
    dsimp only
    split
    · refine { spaced with ahead := ?_ }
      intro waiting waits turn member
      obtain rfl := Option.some.inj waits
      rw [Waiting.moment, waitInterval_reached]
      exact le_max_of_le_right (by linarith [spaced.noted turn member])
    · exact spaced
  | wake =>
    unfold Watch.step
    dsimp only
    split
    · next moment waits =>
      split
      · exact spaced
      · next due =>
        split
        · next pause waitsOn =>
          -- The second pause begins when the first is over, so it ends later still.
          have longer := resetPause?_pos _ _ _ _ waitsOn
          refine { spaced with ahead := ?_ }
          intro waiting again turn member
          obtain rfl := Option.some.inj again
          have distance : turn + pace.interval ≤ moment := spaced.ahead _ waits turn member
          have kept : turn + pace.interval ≤ watch.now + pause := by linarith [not_lt.mp due]
          exact kept
        · exact spaced.goOut _ waits (not_lt.mp due) _ rfl
    · next moment waits =>
      split
      · exact spaced
      · next due => exact spaced.goOut _ waits (not_lt.mp due) _ rfl
    · exact spaced
  | headers remaining reset =>
    refine { spaced with noted := ?_ }
    rw [Watch.step, last_update]
    exact spaced.past
  | refusal seconds => exact { spaced with }
  | pass seconds =>
    refine { spaced with past := ?_ }
    exact fun turn member => (spaced.past turn member).trans (le_add_of_nonneg_right seconds.2)

/-- A run of events keeps requests apart. -/
theorem Spaced.run (spaced : watch.Spaced pace) (events : List Event) :
    (watch.run pace events).Spaced pace := by
  induction events generalizing watch with
  | nil => exact spaced
  | cons event rest inductionHypothesis => exact inductionHypothesis (spaced.step event)

end Watch

/-- What happens when a request asks for its turn and nothing comes between until it goes out. -/
def uninterrupted (limiter : Limiter ℚ) (pace : Pace ℚ) (now : ℚ) : List Event :=
  let reached := (limiter.waitInterval pace now).2
  [.ask, .pass (reached - now).toNNRat, .wake] ++
    match limiter.resetPause? pace reached with
    | some pause => [.pass pause.toNNRat, .wake]
    | none => []

/-- A request that nothing comes between goes out as it does in one step. -/
theorem run_uninterrupted (limiter : Limiter ℚ) (pace : Pace ℚ) (now : ℚ) (turns : List ℚ) :
    ({ limiter, now, turns } : Watch).run pace (limiter.uninterrupted pace now) =
      { limiter := (limiter.beforeRequest pace now).limiter
        now := (limiter.beforeRequest pace now).now
        turns := turns ++ [(limiter.beforeRequest pace now).now] } := by
  have later : now ≤ (limiter.waitInterval pace now).2 :=
    waitInterval_reached limiter pace now ▸ le_max_left _ _
  have arrived : now + ((limiter.waitInterval pace now).2 - now).toNNRat =
      (limiter.waitInterval pace now).2 := by
    rw [Rat.coe_toNNRat _ (sub_nonneg.mpr later)]
    ring
  unfold uninterrupted beforeRequest
  dsimp only
  cases waits : limiter.resetPause? pace (limiter.waitInterval pace now).2 with
  | none =>
    simp only [Watch.run, List.append_nil, List.foldl_cons, List.foldl_nil, Watch.step, arrived,
      lt_irrefl, if_false, waits, Watch.goOut]
  | some pause =>
    have shown := Rat.coe_toNNRat pause (resetPause?_pos _ _ _ _ waits).le
    simp only [Watch.run, List.cons_append, List.nil_append, List.foldl_cons, List.foldl_nil,
      Watch.step, arrived, lt_irrefl, if_false, waits, shown, Watch.goOut]

/-- Requests keep their distance.

Undisturbed, a request goes out at the latest of now, the least distance after the last request
and, with few calls left, the buffer after their count starts anew, and it notes that moment. In
every run in which requests wait for their turns, time passes, and responses and refusals arrive
at any point, also while a request waits, any two requests that go out are at least the sixty
seconds of a minute, shared by its requests, apart. -/
theorem requests_keep_distance (rate : ExactRate) :
    (∀ (limiter : Limiter ℚ) (now : ℚ),
      let request := limiter.beforeRequest rate.pace now
      request.now = limiter.due rate now ∧ request.limiter.last = limiter.due rate now ∧
        ∀ turns, ({ limiter, now, turns } : Watch).run rate.pace
            (limiter.uninterrupted rate.pace now) =
          { limiter := request.limiter, now := request.now, turns := turns ++ [request.now] }) ∧
    ∀ (limiter : Limiter ℚ) (now : ℚ) (events : List Event),
      (({ limiter, now } : Watch).run rate.pace events).turns.Pairwise
        fun earlier later => earlier + 60 / rate.perMinute ≤ later := by
  constructor
  · intro limiter now
    have due := limiter.now_beforeRequest_eq_due rate now
    exact ⟨due, (limiter.last_beforeRequest rate.pace now).trans due,
      limiter.run_uninterrupted rate.pace now⟩
  · intro limiter now events
    have unused : ({ limiter, now } : Watch).Spaced rate.pace := Watch.spaced_of_unused rfl
    exact (unused.run events).apart

end Limiter

end Rulebook
