import Rulebook.Proofs.Replies
import Rulebook.Proofs.Storable

/-!
# What the source can send

A body that arrives has been read from text, so it holds no integer beyond the digit limit.
From the page of rules only objects are kept. So whatever the source sends, in whatever
order, the rules that a sync gathers can be read, and a page that cannot be had counts as
empty.

More generally, when all bodies that the source can send about a name are of the kind of that
name, every body that is fetched under the name is of that kind, and so are all bodies that remain
to be sent.
-/

namespace Rulebook

/-- A reply whose body, if it has one, is of a kind. -/
def Reply.Carries (Kind : Json → Prop) (reply : Reply) : Prop :=
  ∀ status headers body, reply = .answer status headers (.ok body) → Kind body

/-- Replies whose bodies are all of the kind of their name. -/
def Feed.Carries (Kind : String → Json → Prop) (feed : Feed) : Prop :=
  ∀ prepared ∈ feed, ∀ reply ∈ prepared.replies, reply.Carries (Kind prepared.name)

/-- A reply whose body, if it has one, can be written. -/
def Reply.IsReadable (reply : Reply) : Prop :=
  ∀ status headers body, reply = .answer status headers (.ok body) → body.isStorable = true

/-- Replies that can all be read. -/
def Feed.IsReadable (feed : Feed) : Prop :=
  ∀ prepared ∈ feed, ∀ reply ∈ prepared.replies, reply.IsReadable

/-- Replies can be read when their bodies can be written. -/
theorem Feed.isReadable_iff_carries (feed : Feed) :
    feed.IsReadable ↔ feed.Carries fun _ body => body.isStorable = true := Iff.rfl

variable {Kind : String → Json → Prop}

/-- The reply for a page that does not exist has the empty body. -/
theorem Reply.notFound_carries (OfKind : Json → Prop) (missing : OfKind .null) :
    Reply.notFound.Carries OfKind := by
  intro status headers body same
  cases same
  exact missing

/-- The next reply under a name is of its kind, and the replies left are of theirs. -/
theorem Feed.next_carries (feed : Feed) (name : String) (page : SourcePage)
    (missing : Kind name .null) (carries : feed.Carries Kind) :
    (feed.next name page).1.Carries (Kind name) ∧ (feed.next name page).2.Carries Kind := by
  induction feed with
  | nil => exact ⟨Reply.notFound_carries _ missing, carries⟩
  | cons prepared rest inductionHypothesis =>
    obtain ⟨here, others⟩ := List.forall_mem_cons.mp carries
    unfold Feed.next
    split
    · next asked =>
      obtain ⟨named, -⟩ := Bool.and_eq_true_iff.mp asked
      obtain rfl := beq_iff_eq.mp named
      split
      · exact ⟨Reply.notFound_carries _ missing, carries⟩
      · next reply single => exact ⟨here reply (by simp [single]), carries⟩
      · next reply more _ several =>
        refine ⟨here reply (by simp [several]), List.forall_mem_cons.mpr ⟨?_, others⟩⟩
        exact fun later member => here later (by simp [several, member])
    · obtain ⟨next, left⟩ := inductionHypothesis others
      exact ⟨next, List.forall_mem_cons.mpr ⟨here, left⟩⟩

/-- No rules are published ones. -/
theorem arePublished_nil : ArePublished [] := fun _ member => absurd member List.not_mem_nil

namespace Traffic

/-- Only the body of the answer is accepted. -/
theorem body_of_accept (t : Traffic) (page : SourcePage) (url : String) (status : Int)
    (headers : List (String × Json)) (received : Except String Json) (body : Json)
    (accepted : (t.accept page url status headers received).1 = .ok body) :
    received = .ok body := by
  unfold accept at accepted
  split at accepted
  · cases accepted
  · split at accepted
    · cases accepted
    · cases received with
      | error reason => cases accepted
      | ok value => rw [Except.ok.inj accepted]

/-- A request is answered by a reply of the kind of the name, and the replies left are of theirs. -/
theorem request_carries (t : Traffic) (settings : SyncSettings) (page : SourcePage)
    (name url : String) (missing : Kind name .null) (carries : t.feed.Carries Kind) :
    (t.request settings page name url).1.Carries (Kind name) ∧
      (t.request settings page name url).2.feed.Carries Kind :=
  t.feed.next_carries name page missing carries

/-- What a page gives is the body of the reply that is taken in, and no other reply is used up. -/
theorem receive_carries (t : Traffic) (settings : SyncSettings) (page : SourcePage) (url : String)
    (reply : Reply) (OfKind : Json → Prop) (carries : reply.Carries OfKind) :
    (∀ body, (t.receive settings page url reply).1 = .ok body → OfKind body) ∧
      (t.receive settings page url reply).2.feed = t.feed := by
  obtain ⟨-, limiter, metrics, left⟩ := t.receive_frame t settings page url reply
  refine ⟨fun body received => ?_, by rw [left]⟩
  cases reply with
  | answer status headers content =>
    have arrived := t.body_of_accept page url status headers content body received
    exact carries status headers body (by rw [arrived])
  | timeout => cases received
  | broken reason => cases received
  | systemError => cases received

/-- What is fetched under a name is of its kind, and all that remains to be sent is of its own. -/
theorem fetch_carries (t : Traffic) (settings : SyncSettings) (page : SourcePage) (name : String)
    (missing : Kind name .null) (carries : t.feed.Carries Kind) :
    (∀ body, (t.fetch settings page name).1 = .ok body → Kind name body) ∧
      (t.fetch settings page name).2.feed.Carries Kind := by
  have nothing (failure : Failure) (body : Json) :
      Except.error failure = .ok body → Kind name body := fun same => nomatch same
  unfold fetch
  split
  · exact ⟨nothing _, carries⟩
  · next url _ =>
    split
    · exact ⟨nothing _, carries⟩
    · have waited : t.wait.2.feed.Carries Kind := carries
      split
      · next fault after outcome =>
        rw [outcome] at waited
        exact ⟨nothing _, waited⟩
      · next after outcome =>
        rw [outcome] at waited
        obtain ⟨next, left⟩ := after.request_carries settings page name url missing waited
        obtain ⟨fetched, rest⟩ := receive_carries _ settings page url _ (Kind name) next
        rw [send_eq]
        refine ⟨fetched, ?_⟩
        rw [rest]
        exact left

/-- What is gathered under a name is read off bodies of its kind, and all that remains to be sent is
of its own. -/
theorem gather_carries (t : Traffic) (settings : SyncSettings) (key : String)
    (missing : Kind key .null) (carries : t.feed.Carries Kind) :
    (∃ rules wiki, (t.gather settings key).1 = .ofBodies rules wiki ∧
        (∀ body, rules = .ok body → Kind key body) ∧ ∀ body, wiki = .ok body → Kind key body) ∧
      (t.gather settings key).2.feed.Carries Kind := by
  obtain ⟨rules, between⟩ := t.fetch_carries settings .aboutRules key missing carries
  obtain ⟨wiki, left⟩ := (t.fetch settings .aboutRules key).2.fetch_carries settings .wiki key
    missing between
  rw [gather_eq]
  exact ⟨⟨_, _, rfl, rules, wiki⟩, left⟩

/-- The rules of a page that can be written are published ones. -/
theorem arePublished_of_rulesOf (body : Json) (rules : List Json) (storable : body.isStorable = true)
    (found : rulesOf body = .ok rules) : ArePublished rules := by
  cases body with
  | obj fields =>
    have listedStorable : ((Json.lookup? "rules" fields).getD .null).isStorable = true := by
      cases listed : Json.lookup? "rules" fields with
      | none => rfl
      | some value => exact Json.isStorable_of_lookup? "rules" fields value storable listed
    simp only [rulesOf] at found
    generalize (Json.lookup? "rules" fields).getD .null = listed at found listedStorable
    split at found
    · cases listed with
      | arr items =>
        obtain rfl := Except.ok.inj found
        intro rule member
        obtain ⟨among, isObject⟩ := List.mem_filter.mp member
        have written := Json.isStorable_of_mem items rule listedStorable among
        cases rule with
        | obj inner => exact ⟨inner, rfl, written⟩
        | _ => cases isObject
      | obj _ => exact Except.ok.inj found ▸ arePublished_nil
      | str _ => exact Except.ok.inj found ▸ arePublished_nil
      | _ => cases found
    · exact Except.ok.inj found ▸ arePublished_nil
  | _ => exact Except.ok.inj found ▸ arePublished_nil

/-- What a sync gathers as rules are published ones, also when nothing could be fetched. -/
theorem gather_arePublished (t : Traffic) (settings : SyncSettings) (key : String)
    (readable : t.feed.IsReadable) : ArePublished (t.gather settings key).1.rules := by
  have missing : Json.null.isStorable = true := rfl
  obtain ⟨⟨rules, wiki, gathered, storable, -⟩, -⟩ :=
    t.gather_carries settings key missing (t.feed.isReadable_iff_carries.mp readable)
  rw [gathered]
  show ArePublished (fetchedOr [] (readAs rulesOf rules))
  cases rules with
  | error failure => exact arePublished_nil
  | ok body =>
    cases read : rulesOf body with
    | error fault =>
      simp only [readAs, Except.bind, read]
      exact arePublished_nil
    | ok published =>
      simp only [readAs, Except.bind, read]
      exact arePublished_of_rulesOf body published (storable body rfl) read

end Traffic

end Rulebook
