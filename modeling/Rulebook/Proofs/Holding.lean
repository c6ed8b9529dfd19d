import Rulebook.Proofs.Spacing

/-!
# How long a refusal holds

A refusal for too many requests holds the next request by noting that no calls are left until its
window is over. It shares what it notes with the headers of all responses. So the hold lasts as
long as the last word on both: when a response that was on its way tells of enough calls, or of a
count that starts anew earlier, the next request goes out within the window.

The hold is certain only while the responses that arrive keep to it.
-/

namespace Rulebook.Limiter

/-- True of what happens while no request asks for its turn: time passes, and responses to
earlier requests arrive. -/
def Event.isInterlude : Event → Bool
  | .headers _ _ => true
  | .pass _ => true
  | _ => false

/-- The time that an event takes. -/
def Event.duration : Event → ℚ
  | .pass seconds => seconds
  | _ => 0

/-- No event takes time back. -/
theorem Event.duration_nonneg (event : Event) : 0 ≤ event.duration := by
  cases event with
  | pass seconds => exact seconds.2
  | _ => exact le_rfl

/-- The calls that an event tells of. -/
def Event.calls? : Event → Option Int
  | .headers (.value calls) _ => some calls
  | _ => none

/-- The seconds until the count starts anew that an event tells of. They are not looked at when
the number of calls is too large. -/
def Event.seconds? : Event → Option ℚ
  | .headers .tooLarge _ => none
  | .headers _ (.value seconds) => some seconds
  | _ => none

/-- The last word on the calls that are left. -/
def lastCalls (known : Int) (events : List Event) : Int :=
  events.foldl (fun known event => event.calls?.getD known) known

/-- The last word on the moment at which the count starts anew, in events from now on. -/
def lastReset (known now : ℚ) : List Event → ℚ
  | [] => known
  | event :: rest =>
    lastReset ((event.seconds?.map (now + ·)).getD known) (now + event.duration) rest

/-- The step: an event of an interlude replaces what is known by what it tells of. -/
theorem Watch.step_interlude (pace : Pace ℚ) (watch : Watch) (event : Event) (calls : Int)
    (reset : ℚ) (interlude : event.isInterlude = true)
    (counted : watch.limiter.remaining = some calls) (timed : watch.limiter.reset = some reset) :
    (watch.step pace event).limiter.remaining = some (event.calls?.getD calls) ∧
      (watch.step pace event).limiter.reset =
        some ((event.seconds?.map (watch.now + ·)).getD reset) ∧
      (watch.step pace event).now = watch.now + event.duration := by
  cases event with
  | pass seconds => exact ⟨counted, timed, rfl⟩
  | headers remaining told =>
    cases remaining <;> cases told <;>
      simp [Watch.step, update, Event.calls?, Event.seconds?, Event.duration, counted, timed]
  | ask => cases interlude
  | wake => cases interlude
  | refusal seconds => cases interlude

/-- After an interlude the last words are what is known. -/
theorem Watch.run_interlude (pace : Pace ℚ) (watch : Watch) (events : List Event) (calls : Int)
    (reset : ℚ) (interlude : ∀ event ∈ events, event.isInterlude = true)
    (counted : watch.limiter.remaining = some calls) (timed : watch.limiter.reset = some reset) :
    (watch.run pace events).limiter.remaining = some (lastCalls calls events) ∧
      (watch.run pace events).limiter.reset = some (lastReset reset watch.now events) := by
  induction events generalizing watch calls reset with
  | nil => exact ⟨counted, timed⟩
  | cons event rest inductionHypothesis =>
    obtain ⟨here, later⟩ := List.forall_mem_cons.mp interlude
    obtain ⟨callsAfter, resetAfter, nowAfter⟩ :=
      watch.step_interlude pace event calls reset here counted timed
    have onward := inductionHypothesis (watch.step pace event) _ _ later callsAfter resetAfter
    rw [nowAfter] at onward
    exact onward

/-- What is due at or after a moment: it lies in the past, or the least distance or, with few
calls left, the wait for their count reaches it. -/
theorem le_due_iff (limiter : Limiter ℚ) (rate : ExactRate) (now moment : ℚ) (calls : Int)
    (reset : ℚ) (counted : limiter.remaining = some calls) (timed : limiter.reset = some reset) :
    moment ≤ limiter.due rate now ↔
      moment ≤ now ∨ moment ≤ limiter.last + rate.interval ∨
        ((calls : ℚ) < rate.enough ∧ moment ≤ reset + rate.buffer) := by
  simp only [due, counted, timed]
  split
  · next few => rw [le_max_iff, le_max_iff, or_assoc, and_iff_right few]
  · next many => simp only [le_max_iff, many, false_and, or_false]

/-- Calls stay few when no event tells of enough. -/
theorem lastCalls_lt (enough : ℚ) (events : List Event) (known : Int) (few : (known : ℚ) < enough)
    (told : ∀ event ∈ events, ∀ calls, event.calls? = some calls → (calls : ℚ) < enough) :
    (lastCalls known events : ℚ) < enough := by
  induction events generalizing known with
  | nil => exact few
  | cons event rest inductionHypothesis =>
    obtain ⟨here, later⟩ := List.forall_mem_cons.mp told
    refine inductionHypothesis (event.calls?.getD known) ?_ later
    cases calls : event.calls? with
    | none => exact few
    | some count => exact here count calls

/-- The count starts anew no earlier than a window ends when no event tells of less time than the
window is long. -/
theorem le_lastReset (window start : ℚ) (events : List Event) (known now : ℚ) (later : start ≤ now)
    (reaches : start + window ≤ known)
    (told : ∀ event ∈ events, ∀ seconds, event.seconds? = some seconds → window ≤ seconds) :
    start + window ≤ lastReset known now events := by
  induction events generalizing known now with
  | nil => exact reaches
  | cons event rest inductionHypothesis =>
    obtain ⟨here, others⟩ := List.forall_mem_cons.mp told
    refine inductionHypothesis _ (now + event.duration) ?_ ?_ others
    · have forward : 0 ≤ event.duration := event.duration_nonneg
      linarith
    · cases seconds : event.seconds? with
      | none => exact reaches
      | some length =>
        have long := here length seconds
        rw [Option.map_some, Option.getD_some]
        linarith

/-- A hold lasts as long as the last word.

After a refusal that asks to wait for a window, time passes and responses to earlier requests
arrive. The next request goes out when the window is over, or later, exactly if the window is
over by then, or the least distance after the last response reaches beyond it, or the last word
on the calls that are left is that they are few and the last word on the count is that it starts
anew, with the buffer, no earlier. So it does when no response tells of enough calls or of less
time than the window is long. -/
theorem hold_lasts_iff (rate : ExactRate) (limiter : Limiter ℚ) (now window : ℚ)
    (events : List Event) (interlude : ∀ event ∈ events, event.isInterlude = true) :
    let after := ({ limiter := limiter.hold now window, now } : Watch).run rate.pace events
    let request := after.limiter.beforeRequest rate.pace after.now
    (now + window ≤ request.now ↔
      now + window ≤ after.now ∨ now + window ≤ after.limiter.last + rate.interval ∨
        ((lastCalls 0 events : ℚ) < rate.enough ∧
          now + window ≤ lastReset (now + window) now events + rate.buffer)) ∧
    (1 ≤ rate.enough → 0 ≤ rate.buffer →
      (∀ event ∈ events, ∀ calls, event.calls? = some calls → (calls : ℚ) < rate.enough) →
      (∀ event ∈ events, ∀ seconds, event.seconds? = some seconds → window ≤ seconds) →
        now + window ≤ request.now) := by
  intro after request
  obtain ⟨counted, timed⟩ := Watch.run_interlude rate.pace
    { limiter := limiter.hold now window, now } events 0 (now + window) interlude rfl rfl
  have due := after.limiter.le_due_iff rate after.now (now + window) _ _ counted timed
  have goesOut : request.now = after.limiter.due rate after.now :=
    after.limiter.now_beforeRequest_eq_due rate after.now
  rw [← goesOut] at due
  refine ⟨due, fun needed buffered few long => due.mpr (Or.inr (Or.inr ⟨?_, ?_⟩))⟩
  · refine lastCalls_lt rate.enough events 0 ?_ few
    rw [Int.cast_zero]
    linarith
  · have kept := le_lastReset window now events (now + window) now le_rfl le_rfl long
    linarith

/-- The settings of a request a second that waits with fewer than five calls left. -/
def secondRate : ExactRate := ⟨60, 5, 2, by norm_num⟩

/-- A refusal of a minute that is known of from the start. -/
def minuteHold : Watch := { limiter := Limiter.fresh.hold 1000 60, now := 1000 }

/-- A response that tells of few calls for another two minutes keeps the hold. -/
theorem few_calls_keep_hold :
    let events : List Event := [.pass 10, .headers (.value 4) (.value 120), .pass 3]
    let after := minuteHold.run secondRate.pace events
    (∀ event ∈ events, event.isInterlude = true) ∧
      1000 + 60 ≤ (after.limiter.beforeRequest secondRate.pace after.now).now := by
  intro events after
  have interlude : ∀ event ∈ events, event.isInterlude = true := by decide
  obtain ⟨-, lasts⟩ := hold_lasts_iff secondRate .fresh 1000 60 events interlude
  refine ⟨interlude, lasts (by norm_num [secondRate]) (by norm_num [secondRate]) ?_ ?_⟩
  · have few : (4 : ℚ) < 5 := by norm_num
    simpa [events, Event.calls?, secondRate] using few
  · have long : (60 : ℚ) ≤ 120 := by norm_num
    simpa [events, Event.seconds?] using long

/-- A response that tells of many calls lifts the hold: the next request goes out a second later,
though a minute has been asked for. -/
theorem many_calls_lift_hold :
    1 ≤ secondRate.enough ∧ 0 ≤ secondRate.buffer ∧
      let after := minuteHold.run secondRate.pace [.headers (.value 100) (.value 30)]
      let request := after.limiter.beforeRequest secondRate.pace after.now
      request.now = 1001 ∧ ¬ 1000 + 60 ≤ request.now := by
  refine ⟨by norm_num [secondRate], by norm_num [secondRate], ?_⟩
  intro after request
  have goesOut : request.now = 1001 := by
    refine (after.limiter.now_beforeRequest_eq_due secondRate after.now).trans ?_
    norm_num [after, minuteHold, Watch.run, Watch.step, update, hold, due, ExactRate.interval,
      secondRate]
  rw [goesOut]
  exact ⟨rfl, by norm_num⟩

end Rulebook.Limiter
