import Rulebook.Proofs.Replies

/-!
# What a fetch can come to

A fetch is documented to give a list of objects, or the content of a wiki page as a text, and to
report the source as unavailable otherwise. It keeps to that exactly for orderly replies: the
headers can be heeded, and the body of a successful answer has the shape that its page should
have, as far down as it is unpacked.

Three kinds of replies are not orderly. A number in a header may be too large; of texts only an
infinite number of calls is. A list of rules may be a number or the truth value, and the data of
a wiki page no object; these break off. And the content of a wiki page may be no text, and is
given as it is.
-/

namespace Rulebook

/-- The outcomes that a fetch is documented to have: a value of the kind, or the source is not
available. -/
def IsDocumented {α : Type} (Kind : α → Prop) : Except Failure α → Prop
  | .ok value => Kind value
  | .error failure => ∃ url reason, failure = .sourceUnavailable url reason

/-- A fault is not documented. -/
theorem not_documented_fault {α : Type} (Kind : α → Prop) (fault : Fault) :
    ¬ IsDocumented Kind (.error (.fault fault)) := by
  rintro ⟨url, reason, same⟩
  cases same

/-- A list of objects. -/
def AreObjects (rules : List Json) : Prop := ∀ rule ∈ rules, ∃ fields, rule = .obj fields

/-- A text. -/
def Json.IsText (value : Json) : Prop := ∃ text, value = .str text

/-- An integer that floating point cannot hold. -/
def Json.Overflows (value : Json) : Prop :=
  ∃ whole, value.number? = some (.int whole) ∧ Decimal.floatOfInt? whole = none

/-- A number that cannot be cut to a number of calls, because it is infinite or floating point
cannot hold it. -/
def Json.OverflowsCalls (value : Json) : Prop :=
  value.Overflows ∨ ∃ calls negative, Limiter.readSeconds value = .value calls ∧
    Decimal.readFloat calls = .infinite negative

/-- Headers whose numbers can be held. How long to wait after a refusal is only looked at when the
answer is one. -/
structure Heedable (status : Int) (headers : List (String × Json)) : Prop where
  calls : ∀ value, Limiter.headerValue? headers "x-ratelimit-remaining" = some value →
    ¬ value.OverflowsCalls
  reset : ∀ value, Limiter.headerValue? headers "x-ratelimit-reset" = some value →
    ¬ value.Overflows
  retry : status = 429 → ∀ header,
    headers.find? (fun header => Text.lowered header.1 == "retry-after") = some header →
      ¬ header.2.Overflows

/-- A reply that can be heeded and whose body, if it is looked at, has a shape. -/
def Reply.IsOrderly (Shaped : Json → Prop) : Reply → Prop
  | .answer status headers body => Heedable status headers ∧
      (200 ≤ status → status < 300 → ∀ value, body = .ok value → Shaped value)
  | .timeout => True
  | .broken _ => True
  | .systemError => False

/-- What stands under a key of a field list is of a kind, unless it counts as false. -/
def Json.Under (Kind : Json → Prop) (key : String) (fields : List (String × Json)) : Prop :=
  ∀ value, lookup? key fields = some value → value.truthy = true → Kind value

/-- A value that can be gone through: an array, an object or a text. -/
def Json.IsListable : Json → Prop
  | .arr _ => True
  | .obj _ => True
  | .str _ => True
  | _ => False

/-- The data of a wiki page: an object with a text for its content. -/
def Json.IsWikiData : Json → Prop
  | .obj inner => Json.Under Json.IsText "content_md" inner
  | _ => False

/-- A page of rules has something for a list that can be gone through. -/
def RulesShaped : Json → Prop
  | .obj fields => Json.Under Json.IsListable "rules" fields
  | _ => True

/-- A wiki page has data with a text. -/
def WikiShaped : Json → Prop
  | .obj fields => Json.Under Json.IsWikiData "data" fields
  | _ => True

/-- A missing value counts as false too. -/
theorem Json.under_iff (Kind : Json → Prop) (key : String) (fields : List (String × Json)) :
    Json.Under Kind key fields ↔ (((lookup? key fields).getD .null).truthy = true →
      Kind ((lookup? key fields).getD .null)) := by
  unfold Json.Under
  cases lookup? key fields with
  | none => exact iff_of_true (fun _ missing => nomatch missing) fun untrue => nomatch untrue
  | some value =>
    constructor
    · exact fun each => each value rfl
    · rintro here _ ⟨⟩
      exact here

/-- What counts as false does not overflow. -/
theorem Json.not_overflows_of_untruthy (value : Json) (untruthy : value.truthy = false) :
    ¬ value.Overflows := by
  rintro ⟨whole, isNumber, beyond⟩
  cases value with
  | int number =>
    obtain rfl : number = whole := by simpa [Json.number?] using isNumber
    obtain rfl : number = 0 := by simpa [Json.truthy] using untruthy
    cases beyond
  | bool flag =>
    obtain rfl : flag = false := untruthy
    obtain rfl : 0 = whole := by simpa [Json.number?] using isNumber
    cases beyond
  | _ => simp [Json.number?] at isNumber

namespace Limiter

/-- Seconds are too large when floating point cannot hold them. -/
theorem readSeconds_eq_tooLarge_iff (value : Json) :
    readSeconds value = .tooLarge ↔ value.Overflows := by
  unfold readSeconds Json.Overflows
  split
  · split <;> simp [Json.number?]
  · split
    · next missing => simp [missing]
    · next number isNumber =>
      rw [isNumber]
      cases number with
      | float x => simp [Number.toFloat]
      | int whole =>
        cases held : Decimal.floatOfInt? whole <;> simp [Number.toFloat, held]

/-- Calls are too large when they overflow. -/
theorem readCount_eq_tooLarge_iff (value : Json) :
    readCount value = .tooLarge ↔ value.OverflowsCalls := by
  have seconds := readSeconds_eq_tooLarge_iff value
  unfold readCount Json.OverflowsCalls
  cases reading : readSeconds value with
  | value calls =>
    rw [reading] at seconds
    cases cut : Decimal.readFloat calls <;> simp [cut, ← seconds]
  | _ =>
    rw [reading] at seconds
    simp [← seconds]

/-- A header is too large when its value is there and is. -/
theorem readHeader_eq_tooLarge_iff {α : Type} (read : Json → HeaderReading α)
    (headers : List (String × Json)) (name : String) :
    readHeader read headers name = .tooLarge ↔
      ∃ value, headerValue? headers name = some value ∧ read value = .tooLarge := by
  unfold readHeader
  cases headerValue? headers name <;> simp

/-- Taking over headers breaks off exactly when one of them is too large. -/
theorem update_brokeOff_iff (limiter : Limiter Float) (now : Float)
    (remaining : HeaderReading Int) (reset : HeaderReading Float) :
    (limiter.update now remaining reset).2 = true ↔ remaining = .tooLarge ∨ reset = .tooLarge := by
  unfold update
  cases remaining <;> cases reset <;> simp

/-- The seconds to wait after a refusal are known unless they overflow. -/
theorem holdSeconds_eq_error_iff (retryAfter : Json) (fault : Fault) :
    holdSeconds retryAfter = .error fault ↔ fault = .outOfRange ∧ retryAfter.Overflows := by
  have seconds := readSeconds_eq_tooLarge_iff retryAfter
  unfold holdSeconds
  cases counts : retryAfter.truthy with
  | false =>
    have held := retryAfter.not_overflows_of_untruthy counts
    simp [held]
  | true =>
    cases reading : readSeconds retryAfter <;> rw [reading] at seconds <;> simp [← seconds, eq_comm]

end Limiter

namespace Traffic

/-- The header that says how long to wait can be heeded when it is not there or does not
overflow. -/
theorem exists_holdSeconds_iff (header : Option (String × Json)) :
    (∃ seconds, Limiter.holdSeconds ((header.map (·.2)).getD .null) = .ok seconds) ↔
      ∀ found, header = some found → ¬ found.2.Overflows := by
  have fault := Limiter.holdSeconds_eq_error_iff ((header.map (·.2)).getD .null)
  have missing : ¬ Json.null.Overflows := Json.not_overflows_of_untruthy .null rfl
  cases held : Limiter.holdSeconds ((header.map (·.2)).getD .null) with
  | error cause =>
    obtain ⟨-, overflows⟩ := (fault cause).mp held
    cases header with
    | none => exact absurd overflows missing
    | some found => simpa using overflows
  | ok seconds =>
    refine iff_of_true ⟨seconds, rfl⟩ ?_
    rintro found rfl overflows
    rw [(fault .outOfRange).mpr ⟨rfl, overflows⟩] at held
    cases held

/-- Heeding an answer breaks off exactly when its headers cannot be heeded. -/
theorem heed_eq_ok_iff (t : Traffic) (status : Int) (headers : List (String × Json)) :
    (t.heed status headers).1 = .ok () ↔ Heedable status headers := by
  have broken := t.limiter.update_brokeOff_iff t.clock
    (Limiter.readHeader Limiter.readCount headers "x-ratelimit-remaining")
    (Limiter.readHeader Limiter.readSeconds headers "x-ratelimit-reset")
  have retry := exists_holdSeconds_iff
    (headers.find? fun header => Text.lowered header.1 == "retry-after")
  simp only [Limiter.readHeader_eq_tooLarge_iff, Limiter.readCount_eq_tooLarge_iff,
    Limiter.readSeconds_eq_tooLarge_iff] at broken
  unfold heed Limiter.updateFrom
  generalize t.limiter.update t.clock _ _ = updated at broken
  obtain ⟨limiter, brokeOff⟩ := updated
  cases brokeOff with
  | true =>
    refine iff_of_false (fun heeded => nomatch heeded) fun heedable => ?_
    rcases broken.mp rfl with ⟨value, found, overflows⟩ | ⟨value, found, overflows⟩
    · exact heedable.calls value found overflows
    · exact heedable.reset value found overflows
  | false =>
    have calls : ∀ value, Limiter.headerValue? headers "x-ratelimit-remaining" = some value →
        ¬ value.OverflowsCalls := fun value found overflows =>
      Bool.false_ne_true (broken.mpr (Or.inl ⟨value, found, overflows⟩))
    have reset : ∀ value, Limiter.headerValue? headers "x-ratelimit-reset" = some value →
        ¬ value.Overflows := fun value found overflows =>
      Bool.false_ne_true (broken.mpr (Or.inr ⟨value, found, overflows⟩))
    simp only [Bool.false_eq_true, if_false]
    split
    · next refused =>
      have refusal : status = 429 := by simpa using refused
      split
      · next seconds held => exact iff_of_true rfl ⟨calls, reset, fun _ => retry.mp ⟨seconds, held⟩⟩
      · next fault held =>
        refine iff_of_false (fun heeded => nomatch heeded) fun heedable => ?_
        obtain ⟨seconds, other⟩ := retry.mpr (heedable.retry refusal)
        rw [held] at other
        cases other
    · next accepted =>
      have other : status ≠ 429 := by simpa using accepted
      exact iff_of_true rfl ⟨calls, reset, fun refusal => absurd refusal other⟩

/-- What is made of an answer is documented exactly when it can be heeded and, if it is successful,
what is read off its body is. -/
theorem isDocumented_receive_iff {α : Type} (read : Json → Except Fault α) (Kind : α → Prop)
    (Shaped : Json → Prop)
    (shape : ∀ body, IsDocumented Kind (Failure.ofFault (read body)) ↔ Shaped body)
    (t : Traffic) (settings : SyncSettings) (page : SourcePage) (url : String) (reply : Reply) :
    IsDocumented Kind (readAs read (t.receive settings page url reply).1) ↔
      reply.IsOrderly Shaped := by
  have told (reason : String) :
      IsDocumented Kind (readAs read (.error (.sourceUnavailable url reason))) :=
    ⟨url, reason, rfl⟩
  cases reply with
  | timeout => exact iff_of_true (told _) trivial
  | broken reason => exact iff_of_true (told _) trivial
  | systemError => exact iff_of_false (not_documented_fault Kind _) id
  | answer status headers body =>
    have heedable := t.heed_eq_ok_iff status headers
    cases heeded : t.heed status headers with
    | mk outcome after =>
      rw [heeded] at heedable
      cases outcome with
      | error fault =>
        simp only [receive, accept, heeded, Reply.IsOrderly]
        refine iff_of_false (not_documented_fault Kind fault) fun orderly => ?_
        cases heedable.mpr orderly.1
      | ok _ =>
        simp only [receive, accept, heeded, Reply.IsOrderly, and_iff_right (heedable.mp rfl)]
        split
        · next refused =>
          refine iff_of_true (told _) fun enough small => ?_
          rw [Bool.or_eq_true, decide_eq_true_iff, decide_eq_true_iff] at refused
          omega
        · next accepted =>
          rw [Bool.or_eq_true, decide_eq_true_iff, decide_eq_true_iff] at accepted
          cases body with
          | error reason => exact iff_of_true (told _) fun _ _ _ same => nomatch same
          | ok value =>
            refine (shape value).trans ⟨fun shaped _ _ _ same => Except.ok.inj same ▸ shaped, ?_⟩
            exact fun orderly => orderly (by omega) (by omega) value rfl

/-- What is read off a page of rules is a list of objects exactly when the page has its shape. -/
theorem isDocumented_rulesOf_iff (body : Json) :
    IsDocumented AreObjects (Failure.ofFault (rulesOf body)) ↔ RulesShaped body := by
  have nothing : IsDocumented AreObjects (.ok []) := List.forall_mem_nil _
  cases body with
  | obj fields =>
    simp only [RulesShaped, Json.under_iff, rulesOf]
    generalize (Json.lookup? "rules" fields).getD .null = listed
    cases counts : listed.truthy with
    | false => exact iff_of_true nothing fun untrue => absurd untrue Bool.false_ne_true
    | true =>
      rw [if_pos rfl]
      cases listed with
      | arr items =>
        refine iff_of_true ?_ fun _ => trivial
        intro rule member
        obtain ⟨-, isObject⟩ := List.mem_filter.mp member
        cases rule with
        | obj inner => exact ⟨inner, rfl⟩
        | _ => cases isObject
      | obj inner => exact iff_of_true nothing fun _ => trivial
      | str text => exact iff_of_true nothing fun _ => trivial
      | _ => exact iff_of_false (not_documented_fault _ _) fun listable => listable rfl
  | _ => exact iff_of_true nothing trivial

/-- What is read off a wiki page is a text exactly when the page has its shape. -/
theorem isDocumented_wikiOf_iff (body : Json) :
    IsDocumented Json.IsText (Failure.ofFault (wikiOf body)) ↔ WikiShaped body := by
  have nothing : IsDocumented Json.IsText (.ok (.str "")) := ⟨"", rfl⟩
  cases body with
  | obj fields =>
    simp only [WikiShaped, Json.under_iff, wikiOf]
    generalize (Json.lookup? "data" fields).getD .null = data
    cases counts : data.truthy with
    | false => exact iff_of_true nothing fun untrue => absurd untrue Bool.false_ne_true
    | true =>
      rw [if_pos rfl]
      cases data with
      | obj inner =>
        simp only [Json.IsWikiData, Json.under_iff]
        generalize (Json.lookup? "content_md" inner).getD .null = content
        cases given : content.truthy with
        | false => exact iff_of_true nothing fun _ untrue => absurd untrue Bool.false_ne_true
        | true => exact ⟨fun isText _ _ => isText, fun shaped => shaped trivial rfl⟩
      | _ => exact iff_of_false (not_documented_fault _ _) fun isData => isData rfl
  | _ => exact iff_of_true nothing trivial

/-- A fetch keeps to its documentation exactly for orderly replies.

With an address, a connection and settings that never break a turn off, a fetch of the rules gives
a list of objects or reports the source as unavailable, and a fetch of the wiki page gives a text
or reports the same, if and only if the reply that is next for the page is orderly. Timeouts,
broken connections, bodies that cannot be read and answers of any status are; what is not is an
answer with a number in its headers that is too large, or a body of another shape in an answer
that is successful. -/
theorem outcome_documented_iff (t : Traffic) (settings : SyncSettings) (name base : String)
    (address : settings.baseUrl = .str base) (connected : t.connected = true)
    (steady : t.rate.NeverBreak) :
    (IsDocumented AreObjects (t.fetchRules settings name).1 ↔
        (t.feed.next name .aboutRules).1.IsOrderly RulesShaped) ∧
      (IsDocumented Json.IsText (t.fetchWiki settings name).1 ↔
        (t.feed.next name .wiki).1.IsOrderly WikiShaped) := by
  have fetched (page : SourcePage) :
      ∃ url, (t.fetch settings page name).1 =
        (t.receive settings page url (t.feed.next name page).1).1 := by
    have url : settings.url page name = .ok (withoutSlashes base ++ "/r/" ++ name ++ page.address) := by
      rw [SyncSettings.url, address]
    exact ⟨_, by
      rw [t.fetch_eq_receive t settings page name _ steady url connected, Feed.next_eq_firstReply]⟩
  constructor
  · obtain ⟨url, received⟩ := fetched .aboutRules
    rw [fetchRules, readBody_eq, received]
    exact isDocumented_receive_iff rulesOf AreObjects RulesShaped isDocumented_rulesOf_iff t settings
      .aboutRules url _
  · obtain ⟨url, received⟩ := fetched .wiki
    rw [fetchWiki, readBody_eq, received]
    exact isDocumented_receive_iff wikiOf Json.IsText WikiShaped isDocumented_wikiOf_iff t settings
      .wiki url _

/-- A source with the replies given for the two pages of a community. -/
def sourceOf (rules wiki : Reply) : Traffic where
  pace := ⟨1, 5, 2⟩
  feed := [⟨"cats", .aboutRules, [rules]⟩, ⟨"cats", .wiki, [wiki]⟩]

/-- A page whose list of rules has a number in it, sent with a number of calls. -/
def mixedRules : Reply :=
  .answer 200 [("X-Ratelimit-Remaining", .str "7")]
    (.ok (.obj [("rules", .arr [.int 5, .obj [("short_name", .str "Be kind")]])]))

/-- A list with a number in it gives its objects, and a refusal is reported. -/
theorem mixed_rules_are_documented :
    let source := sourceOf mixedRules (.answer 429 [("Retry-After", .str "soon")] (.ok .null))
    ({} : SyncSettings).baseUrl = .str "https://www.reddit.com" ∧ source.connected = true ∧
      source.rate.NeverBreak ∧ IsDocumented AreObjects (source.fetchRules {} "cats").1 ∧
        IsDocumented Json.IsText (source.fetchWiki {} "cats").1 := by
  intro source
  have steady : source.rate.NeverBreak :=
    RateSettings.neverBreak_of_numbers _ (.int 5) (.int 2) _ rfl rfl rfl
  obtain ⟨rules, wiki⟩ := outcome_documented_iff source {} "cats" _ rfl rfl steady
  have noNumber (text : String) : ¬ (Json.str text).Overflows := fun ⟨_, isNumber, _⟩ =>
    nomatch isNumber
  refine ⟨rfl, rfl, steady, rules.mpr ⟨⟨?_, ?_, ?_⟩, ?_⟩, wiki.mpr ⟨⟨?_, ?_, ?_⟩, ?_⟩⟩
  · rintro _ ⟨⟩ (overflows | ⟨calls, negative, read, infinite⟩)
    · exact noNumber "7" overflows
    · have seven : Limiter.readSeconds (.str "7") = .value 7.0 := rfl
      obtain rfl := HeaderReading.value.inj (seven.symm.trans read)
      have finite : Decimal.readFloat 7.0 = .finite false ⟨7 * 2 ^ 50, -50⟩ := by decide +kernel
      cases finite.symm.trans infinite
  · exact fun _ missing => nomatch missing
  · exact fun refusal => nomatch refusal
  · rintro - - _ ⟨⟩ _ ⟨⟩ -
    trivial
  · exact fun _ missing => nomatch missing
  · exact fun _ missing => nomatch missing
  · rintro - _ ⟨⟩
    exact noNumber "soon"
  · exact fun _ small => nomatch small

/-- Rules that are a number, data that is a list, and an infinite number of calls break a fetch off,
and content that is a number is given as it is. -/
theorem stray_replies_escape :
    ((sourceOf (.answer 200 [] (.ok (.obj [("rules", .int 5)]))) .timeout).fetchRules {} "cats").1 =
        .error (.fault .wrongType) ∧
      ((sourceOf .timeout (.answer 200 [] (.ok (.obj [("data", .arr [.null])])))).fetchWiki {}
        "cats").1 = .error (.fault .noSuchOperation) ∧
      ((sourceOf (.answer 200 [("X-Ratelimit-Remaining", .str "inf")] (.ok .null))
        .timeout).fetchRules {} "cats").1 = .error (.fault .outOfRange) ∧
      ((sourceOf .timeout (.answer 200 [] (.ok (.obj [("data", .obj [("content_md", .int 5)])])))
        ).fetchWiki {} "cats").1 = .ok (.int 5) := ⟨rfl, rfl, rfl, rfl⟩

end Traffic

end Rulebook
