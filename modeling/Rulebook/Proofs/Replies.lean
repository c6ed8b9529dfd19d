import Rulebook.Sync.One

/-!
# What a fetch depends on

The outcome of a fetch is decided by the address of the page, by the connection, and by the
reply that is next for that page. The pace, the clock and the counters decide when the request
goes out and nothing more, as long as the settings never break a turn off. Requests for other
pages leave the next reply of a page alone.
-/

namespace Rulebook

namespace Feed

/-- The replies prepared for a page of a community. -/
def repliesAt? (feed : Feed) (name : String) (page : SourcePage) : Option (List Reply) :=
  (feed.find? fun prepared => prepared.name == name && prepared.page == page).map (·.replies)

/-- The first of the replies prepared for a page; a page without any is not found. -/
def firstReply : Option (List Reply) → Reply
  | some (reply :: _) => reply
  | _ => .notFound

/-- The next reply for a page is the first one prepared for it. -/
theorem next_eq_firstReply (feed : Feed) (name : String) (page : SourcePage) :
    (feed.next name page).1 = firstReply (feed.repliesAt? name page) := by
  induction feed with
  | nil => rfl
  | cons prepared rest inductionHypothesis =>
    unfold next repliesAt?
    rw [List.find?_cons]
    cases here : prepared.name == name && prepared.page == page with
    | true =>
      rw [if_pos rfl]
      split
      · next empty => simp [firstReply, empty]
      · next reply single => simp [firstReply, single]
      · next reply more _ several => simp [firstReply, several]
    | false => simpa [repliesAt?] using inductionHypothesis

/-- Taking the next reply for a page leaves the replies of every other page. -/
theorem repliesAt?_next_of_ne (feed : Feed) (name other : String) (page otherPage : SourcePage)
    (different : ¬ (other = name ∧ otherPage = page)) :
    (feed.next name page).2.repliesAt? other otherPage = feed.repliesAt? other otherPage := by
  induction feed with
  | nil => rfl
  | cons prepared rest inductionHypothesis =>
    unfold next
    cases here : prepared.name == name && prepared.page == page with
    | true =>
      obtain ⟨named, paged⟩ := Bool.and_eq_true_iff.mp here
      have apart : ¬ (prepared.name = other ∧ prepared.page = otherPage) := by
        rintro ⟨rfl, rfl⟩
        exact different ⟨beq_iff_eq.mp named, beq_iff_eq.mp paged⟩
      rw [if_pos rfl]
      split <;> simp [repliesAt?, apart]
    | false =>
      simp only [Bool.false_eq_true, if_false]
      unfold repliesAt? at inductionHypothesis ⊢
      rw [List.find?_cons, List.find?_cons]
      split
      · rfl
      · exact inductionHypothesis

end Feed

/-- Settings of the pace under which no turn is ever broken off. -/
def RateSettings.NeverBreak (settings : RateSettings) : Prop :=
  ∀ limiter, Limiter.turnFault? settings limiter = none

/-- Numbers that floating point can hold never break a turn off. -/
theorem RateSettings.neverBreak_of_numbers (settings : RateSettings) (enough buffer : Number)
    (seconds : Float) (counted : settings.minRemainingCalls.number = .ok enough)
    (timed : settings.sleepBuffer.number = .ok buffer) (held : buffer.toFloat = .ok seconds) :
    settings.NeverBreak := by
  intro limiter
  have whole : Limiter.bufferFault? settings = none := by
    simp only [Limiter.bufferFault?, timed, held]
  unfold Limiter.turnFault?
  split
  · simp only [counted]
    split
    · exact whole
    · rfl
  · rfl

namespace Traffic

/-- Sends the request for a page; the source decides on the reply when the request arrives. -/
def request (t : Traffic) (settings : SyncSettings) (page : SourcePage) (name url : String) :
    Reply × Traffic :=
  let t := t.record .fetched
  let (reply, feed) := t.feed.next name page
  (reply, { t with feed, sent := t.sent ++ [⟨url, settings.userAgent, settings.requestTimeout⟩] })

/-- Takes in the reply to a request. -/
def receive (t : Traffic) (settings : SyncSettings) (page : SourcePage) (url : String) :
    Reply → Except Failure Json × Traffic
  | .timeout =>
    let limit := settings.requestTimeout.shown?.getD ""
    t.unavailable page url "timeout" ("timed out after " ++ limit ++ "s")
  | .broken reason => t.unavailable page url "connection" reason
  | .systemError => (.error (.fault .system), t)
  | .answer status headers body => t.accept page url status headers body

/-- A page is sent for in two steps, and other things may happen between them. -/
theorem send_eq (t : Traffic) (settings : SyncSettings) (page : SourcePage) (name url : String) :
    t.send settings page name url =
      (t.request settings page name url).2.receive settings page url
        (t.request settings page name url).1 := by
  unfold send request
  cases (t.record .fetched).feed.next name page with
  | mk reply feed => cases reply <;> rfl

/-- Waiting for a turn changes the limiter, its clock and the pauses. -/
theorem wait_frame (t : Traffic) :
    ∃ limiter clock pauses, t.wait.2 = { t with limiter, clock, pauses } :=
  ⟨_, _, _, rfl⟩

/-- A turn comes when the settings never break one off. -/
theorem wait_eq_ok (t : Traffic) (steady : t.rate.NeverBreak) : t.wait.1 = .ok () := by
  have unbroken := steady t.limiter
  simp only [wait, Limiter.takeTurn, unbroken]

/-- Heeding an answer changes the limiter only, and breaks off for what the answer itself
says. -/
theorem heed_frame (t other : Traffic) (status : Int) (headers : List (String × Json)) :
    (t.heed status headers).1 = (other.heed status headers).1 ∧
      ∃ limiter, (t.heed status headers).2 = { t with limiter } := by
  have broken (limiter : Limiter Float) (now : Float) (last : Limiter Float) (later : Float) :
      (limiter.updateFrom now headers).2 = (last.updateFrom later headers).2 := by
    unfold Limiter.updateFrom Limiter.update
    generalize Limiter.readHeader Limiter.readCount headers "x-ratelimit-remaining" = remaining
    generalize Limiter.readHeader Limiter.readSeconds headers "x-ratelimit-reset" = reset
    cases remaining <;> cases reset <;> dsimp only
  have same := broken t.limiter t.clock other.limiter other.clock
  unfold heed
  cases first : t.limiter.updateFrom t.clock headers with
  | mk limiter brokeOff =>
    cases second : other.limiter.updateFrom other.clock headers with
    | mk otherLimiter otherBrokeOff =>
      rw [first, second] at same
      obtain rfl : brokeOff = otherBrokeOff := same
      dsimp only
      split
      · exact ⟨rfl, limiter, rfl⟩
      · split
        · split <;> exact ⟨rfl, _, rfl⟩
        · exact ⟨rfl, limiter, rfl⟩

/-- Accepting an answer changes the limiter and the counters only, and what comes of it is
decided by the answer. -/
theorem accept_frame (t other : Traffic) (page : SourcePage) (url : String) (status : Int)
    (headers : List (String × Json)) (body : Except String Json) :
    (t.accept page url status headers body).1 = (other.accept page url status headers body).1 ∧
      ∃ limiter metrics, (t.accept page url status headers body).2 = { t with limiter, metrics } := by
  obtain ⟨same, limiter, left⟩ := t.heed_frame other status headers
  unfold accept
  cases first : t.heed status headers with
  | mk outcome after =>
    cases second : other.heed status headers with
    | mk otherOutcome otherAfter =>
      rw [first, second] at same
      rw [first] at left
      obtain rfl : outcome = otherOutcome := same
      obtain rfl : after = { t with limiter } := left
      cases outcome with
      | error fault => exact ⟨rfl, limiter, t.metrics, rfl⟩
      | ok _ =>
        dsimp only
        split
        · exact ⟨rfl, limiter, _, rfl⟩
        · split
          · exact ⟨rfl, limiter, t.metrics, rfl⟩
          · exact ⟨rfl, limiter, _, rfl⟩

/-- Taking in a reply changes the limiter and the counters only, and what comes of it is
decided by the reply. -/
theorem receive_frame (t other : Traffic) (settings : SyncSettings) (page : SourcePage)
    (url : String) (reply : Reply) :
    (t.receive settings page url reply).1 = (other.receive settings page url reply).1 ∧
      ∃ limiter metrics, (t.receive settings page url reply).2 = { t with limiter, metrics } := by
  cases reply with
  | timeout => exact ⟨rfl, t.limiter, _, rfl⟩
  | broken reason => exact ⟨rfl, t.limiter, _, rfl⟩
  | systemError => exact ⟨rfl, t.limiter, t.metrics, rfl⟩
  | answer status headers body => exact t.accept_frame other page url status headers body

/-- Without a connection nothing is fetched. -/
theorem fetch_unconnected (t : Traffic) (settings : SyncSettings) (page : SourcePage)
    (name url : String) (address : settings.url page name = .ok url)
    (connected : t.connected = false) :
    (t.fetch settings page name).1 = .error (.missing .connection) := by
  simp only [fetch, address, connected, Bool.not_false, if_true]

/-- What is fetched is what any traffic makes of the reply that is next for the page. -/
theorem fetch_eq_receive (t other : Traffic) (settings : SyncSettings) (page : SourcePage)
    (name url : String) (steady : t.rate.NeverBreak) (address : settings.url page name = .ok url)
    (connected : t.connected = true) :
    (t.fetch settings page name).1 =
      (other.receive settings page url (Feed.firstReply (t.feed.repliesAt? name page))).1 := by
  have turn := t.wait_eq_ok steady
  obtain ⟨limiter, clock, pauses, waited⟩ := t.wait_frame
  simp only [fetch, address, connected, Bool.not_true, Bool.false_eq_true, if_false]
  cases outcome : t.wait with
  | mk admitted after =>
    rw [outcome] at turn waited
    obtain rfl : admitted = .ok () := turn
    obtain rfl : after = { t with limiter, clock, pauses } := waited
    dsimp only
    rw [send_eq, ← Feed.next_eq_firstReply]
    exact (receive_frame _ other settings page url _).1

/-- Two traffics with the same connection and the same replies to come for a page fetch the
same, whatever their pace and their clocks. -/
theorem fetch_congr (t other : Traffic) (settings : SyncSettings) (page : SourcePage)
    (name : String) (steady : t.rate.NeverBreak) (otherSteady : other.rate.NeverBreak)
    (connection : t.connected = other.connected)
    (replies : t.feed.repliesAt? name page = other.feed.repliesAt? name page) :
    (t.fetch settings page name).1 = (other.fetch settings page name).1 := by
  cases address : settings.url page name with
  | error fault => simp only [fetch, address]
  | ok url =>
    cases connected : other.connected with
    | false =>
      rw [fetch_unconnected t settings page name url address (connection.trans connected),
        fetch_unconnected other settings page name url address connected]
    | true =>
      rw [fetch_eq_receive t other settings page name url steady address
          (connection.trans connected),
        fetch_eq_receive other other settings page name url otherSteady address connected, replies]

/-- The traffic after work on one page of a community: the settings of the pace and the
connection are the same, and so are the replies to come for every other page. -/
structure MovedAt (before after : Traffic) (name : String) (page : SourcePage) : Prop where
  rate : after.rate = before.rate
  connected : after.connected = before.connected
  others : ∀ other otherPage, ¬ (other = name ∧ otherPage = page) →
    after.feed.repliesAt? other otherPage = before.feed.repliesAt? other otherPage

namespace MovedAt

variable {before between after : Traffic} {name : String} {page : SourcePage}

/-- Nothing has moved when nothing has happened. -/
theorem refl : before.MovedAt before name page := ⟨rfl, rfl, fun _ _ _ => rfl⟩

/-- Work on one page after work on the same page is work on that page. -/
theorem trans (first : before.MovedAt between name page)
    (second : between.MovedAt after name page) : before.MovedAt after name page where
  rate := second.rate.trans first.rate
  connected := second.connected.trans first.connected
  others other otherPage different :=
    (second.others other otherPage different).trans (first.others other otherPage different)

end MovedAt

/-- Waiting for a turn uses up no reply. -/
theorem wait_movedAt (t : Traffic) (name : String) (page : SourcePage) :
    t.MovedAt t.wait.2 name page := ⟨rfl, rfl, fun _ _ _ => rfl⟩

/-- Sending a request uses up a reply of its page only. -/
theorem request_movedAt (t : Traffic) (settings : SyncSettings) (page : SourcePage)
    (name url : String) : t.MovedAt (t.request settings page name url).2 name page where
  rate := rfl
  connected := rfl
  others other otherPage different :=
    t.feed.repliesAt?_next_of_ne name other page otherPage different

/-- Taking in a reply uses up no other. -/
theorem receive_movedAt (t : Traffic) (settings : SyncSettings) (page : SourcePage)
    (name url : String) (reply : Reply) :
    t.MovedAt (t.receive settings page url reply).2 name page := by
  obtain ⟨-, limiter, metrics, received⟩ := t.receive_frame t settings page url reply
  rw [received]
  exact ⟨rfl, rfl, fun _ _ _ => rfl⟩

/-- A fetch uses up a reply of its page only. -/
theorem fetch_movedAt (t : Traffic) (settings : SyncSettings) (page : SourcePage)
    (name : String) : t.MovedAt (t.fetch settings page name).2 name page := by
  unfold fetch
  split
  · exact .refl
  · next url address =>
    split
    · exact .refl
    · have waited := t.wait_movedAt name page
      split
      · next fault after outcome =>
        rw [outcome] at waited
        exact waited
      · next after outcome =>
        rw [outcome] at waited
        rw [send_eq]
        have requested := after.request_movedAt settings page name url
        exact waited.trans (requested.trans (receive_movedAt _ settings page name url _))

/-- What a page says: its body as it is read. -/
def readAs {α : Type} (read : Json → Except Fault α) (body : Except Failure Json) :
    Except Failure α :=
  body.bind fun value => Failure.ofFault (read value)

/-- Reading a body touches no traffic. -/
theorem readBody_eq {α : Type} (read : Json → Except Fault α)
    (fetched : Except Failure Json × Traffic) :
    readBody read fetched = (readAs read fetched.1, fetched.2) := by
  obtain ⟨outcome, after⟩ := fetched
  cases outcome with
  | error failure => rfl
  | ok body =>
    simp only [readBody, readAs, Except.bind]
    cases read body <;> rfl

end Traffic

/-- What the two pages of a community amount to, however they were fetched. -/
def Gathered.ofBodies (rules wiki : Except Failure Json) : Gathered :=
  ⟨fetchedOr [] (Traffic.readAs Traffic.rulesOf rules),
    fetchedOr (.str "") (Traffic.readAs Traffic.wikiOf wiki)⟩

namespace Traffic

/-- Gathering is one fetch after the other. -/
theorem gather_eq (t : Traffic) (settings : SyncSettings) (key : String) :
    t.gather settings key =
      (.ofBodies (t.fetch settings .aboutRules key).1
          ((t.fetch settings .aboutRules key).2.fetch settings .wiki key).1,
        ((t.fetch settings .aboutRules key).2.fetch settings .wiki key).2) := by
  simp only [gather, fetchRules, fetchWiki, readBody_eq]
  rfl

/-- Each page is gathered as if it were the only one. -/
theorem gather_eq_ofBodies (t : Traffic) (settings : SyncSettings) (key : String)
    (steady : t.rate.NeverBreak) :
    (t.gather settings key).1 =
      .ofBodies (t.fetch settings .aboutRules key).1 (t.fetch settings .wiki key).1 := by
  have moved := t.fetch_movedAt settings .aboutRules key
  have untouched : (t.fetch settings .aboutRules key).2.feed.repliesAt? key .wiki =
      t.feed.repliesAt? key .wiki := moved.others key .wiki fun both => nomatch both.2
  have second := fetch_congr (t.fetch settings .aboutRules key).2 t settings .wiki key
    (by rw [moved.rate]; exact steady) steady moved.connected untouched
  rw [gather_eq, second]

/-- Gathering uses up replies of its own community only. -/
theorem gather_others (t : Traffic) (settings : SyncSettings) (key : String) :
    (t.gather settings key).2.rate = t.rate ∧
      (t.gather settings key).2.connected = t.connected ∧
      ∀ other page, other ≠ key →
        (t.gather settings key).2.feed.repliesAt? other page = t.feed.repliesAt? other page := by
  have first := t.fetch_movedAt settings .aboutRules key
  have second := (t.fetch settings .aboutRules key).2.fetch_movedAt settings .wiki key
  rw [gather_eq]
  refine ⟨second.rate.trans first.rate, second.connected.trans first.connected, ?_⟩
  intro other page different
  have apart (named : SourcePage) : ¬ (other = key ∧ page = named) := fun both => different both.1
  rw [second.others other page (apart .wiki), first.others other page (apart .aboutRules)]

end Traffic

end Rulebook
