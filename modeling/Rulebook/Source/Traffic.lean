import Rulebook.Failure
import Rulebook.Json.Shown
import Rulebook.Limiter.Turn
import Rulebook.Source.Reply

/-!
# Fetching published rules

A community publishes a page of rules and a wiki page. Fetching one waits for its turn,
notes what the headers say about the pace, and gives the body of a successful answer. All
other answers, and requests that break down, are reported as the source being unavailable.

From the page of rules only the objects in its list are kept. The wiki page gives its
content, or the empty text.
-/

namespace Rulebook

/-- The names of the pages in addresses. -/
def SourcePage.address : SourcePage → String
  | .aboutRules => "/about/rules.json"
  | .wiki => "/wiki/rules.json"

/-- A request as it was sent. -/
structure SentRequest where
  url : String
  userAgent : Json
  timeout : Json

/-- The state of the traffic with the source: the pace that the settings amount to and what
the limiter knows, its clock, the pauses made and the requests sent, the replies to come, and the counters.
Without a connection nothing can be fetched. -/
structure Traffic where
  rate : RateSettings := {}
  pace : Pace Float
  limiter : Limiter Float := .fresh
  clock : Float := 1000.0
  pauses : List Float := []
  sent : List SentRequest := []
  feed : Feed := []
  connected : Bool := true
  metrics : Metrics := {}

/-- A text without slashes at its end. -/
def withoutSlashes (s : String) : String :=
  String.ofList (s.toList.reverse.dropWhile (· == '/')).reverse

/-- The address of a page. -/
def SyncSettings.url (settings : SyncSettings) (page : SourcePage) (name : String) :
    Except Fault String :=
  match settings.baseUrl with
  | .str base => .ok (withoutSlashes base ++ "/r/" ++ name ++ page.address)
  | _ => .error .noSuchOperation

namespace Traffic

/-- Waits for the turn of the next request. -/
def wait (t : Traffic) : Except Fault Unit × Traffic :=
  let (turn, waited) := t.limiter.takeTurn t.rate t.pace t.clock
  (turn, { t with
    limiter := waited.limiter
    clock := waited.now
    pauses := t.pauses ++ waited.pauses })

/-- Counts an occurrence. -/
def record (t : Traffic) (occurrence : Occurrence) : Traffic :=
  { t with metrics := t.metrics.record occurrence }

/-- Counts a failed fetch and reports the source as unavailable. -/
def unavailable (t : Traffic) (page : SourcePage) (url cause reason : String) :
    Except Failure Json × Traffic :=
  (.error (.sourceUnavailable url reason), t.record (.fetchFailed page cause))

/-- Takes over what the headers say and, after a refusal for too many requests, how long to
hold the next request. -/
def heed (t : Traffic) (status : Int) (headers : List (String × Json)) :
    Except Fault Unit × Traffic :=
  let (limiter, brokeOff) := t.limiter.updateFrom t.clock headers
  let t := { t with limiter }
  if brokeOff then (.error .outOfRange, t)
  else if status == 429 then
    let retryAfter := ((headers.find? fun header => Text.lowered header.1 == "retry-after").map
      (·.2)).getD .null
    match Limiter.holdSeconds retryAfter with
    | .ok seconds => (.ok (), { t with limiter := t.limiter.hold t.clock seconds })
    | .error fault => (.error fault, t)
  else (.ok (), t)

/-- What an answer amounts to. -/
def accept (t : Traffic) (page : SourcePage) (url : String) (status : Int)
    (headers : List (String × Json)) (body : Except String Json) : Except Failure Json × Traffic :=
  match t.heed status headers with
  | (.error fault, t) => (.error (.fault fault), t)
  | (.ok _, t) =>
    if status < 200 || 300 ≤ status then
      t.unavailable page url (toString status) ("HTTP " ++ toString status)
    else
      match body with
      | .ok value => (.ok value, t)
      | .error reason => t.unavailable page url "decode" ("invalid JSON: " ++ reason)

/-- Sends the request for a page and gives its body. -/
def send (t : Traffic) (settings : SyncSettings) (page : SourcePage) (name url : String) :
    Except Failure Json × Traffic :=
  let t := t.record .fetched
  let (reply, feed) := t.feed.next name page
  let request : SentRequest := ⟨url, settings.userAgent, settings.requestTimeout⟩
  let t := { t with feed, sent := t.sent ++ [request] }
  match reply with
  | .timeout =>
    let limit := settings.requestTimeout.shown?.getD ""
    t.unavailable page url "timeout" ("timed out after " ++ limit ++ "s")
  | .broken reason => t.unavailable page url "connection" reason
  | .systemError => (.error (.fault .system), t)
  | .answer status headers body => t.accept page url status headers body

/-- Fetches a page: its address must be known and the connection there, and the request
waits for its turn. -/
def fetch (t : Traffic) (settings : SyncSettings) (page : SourcePage) (name : String) :
    Except Failure Json × Traffic :=
  match settings.url page name with
  | .error fault => (.error (.fault fault), t)
  | .ok url =>
    if !t.connected then (.error (.missing .connection), t)
    else
      match t.wait with
      | (.error fault, t) => (.error (.fault fault), t)
      | (.ok _, t) => t.send settings page name url

/-- The rules in the body of a page: the objects of its list. -/
def rulesOf (body : Json) : Except Fault (List Json) :=
  match body with
  | .obj fields =>
    let rules := (Json.lookup? "rules" fields).getD .null
    if rules.truthy then do
      let items ← match rules with
        | .arr items => pure items
        | .obj _ => pure []
        | .str _ => pure []
        | _ => throw .wrongType
      return items.filter fun item => match item with
        | .obj _ => true
        | _ => false
    else .ok []
  | _ => .ok []

/-- The content in the body of a wiki page. -/
def wikiOf (body : Json) : Except Fault Json :=
  match body with
  | .obj fields =>
    let data := (Json.lookup? "data" fields).getD .null
    if data.truthy then
      match data with
      | .obj inner =>
        let content := (Json.lookup? "content_md" inner).getD .null
        .ok (if content.truthy then content else .str "")
      | _ => .error .noSuchOperation
    else .ok (.str "")
  | _ => .ok (.str "")

/-- Reads a fetched body. -/
def readBody {α : Type} (read : Json → Except Fault α) :
    Except Failure Json × Traffic → Except Failure α × Traffic
  | (.error failure, t) => (.error failure, t)
  | (.ok body, t) => (match read body with
    | .ok value => .ok value
    | .error fault => .error (.fault fault), t)

/-- Fetches the published rules of a community. -/
def fetchRules (t : Traffic) (settings : SyncSettings) (name : String) :
    Except Failure (List Json) × Traffic :=
  readBody rulesOf (t.fetch settings .aboutRules name)

/-- Fetches the content of a community's wiki page. -/
def fetchWiki (t : Traffic) (settings : SyncSettings) (name : String) :
    Except Failure Json × Traffic :=
  readBody wikiOf (t.fetch settings .wiki name)

end Traffic

end Rulebook
