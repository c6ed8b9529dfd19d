import Rulebook.Json.Basic
import Rulebook.Metrics

/-!
# Replies of the source

The source of rules answers a request with a status, headers and a body, or the request
breaks down on the way. Replies are prepared per community and page: a list of them is used
up one by one, and its last one answers from then on. A page without replies is not found.
-/

namespace Rulebook

/-- What becomes of a request. -/
inductive Reply where
  /-- An answer; the body may be unreadable for the reason given. -/
  | answer (status : Int) (headers : List (String × Json)) (body : Except String Json)
  | timeout
  /-- The connection or the payload breaks. -/
  | broken (reason : String)
  | systemError

/-- The reply for a page that does not exist. -/
def Reply.notFound : Reply := .answer 404 [] (.ok .null)

/-- Reads a prepared reply. -/
def Reply.ofJson (value : Json) : Reply :=
  let text (key : String) : String := ((value.get? key).bind Json.text?).getD ""
  let reason (name : String) : String := if text "text" == "" then name else text "text"
  match (value.get? "raise").bind Json.text? with
  | some "timeout" => .timeout
  | some "connection" => .broken (reason "ClientConnectionError")
  | some "payload" => .broken (reason "ClientPayloadError")
  | some "os" => .systemError
  | _ =>
    let status := match value.get? "status" with
      | some (.int status) => status
      | _ => 200
    let headers := match value.get? "headers" with
      | some (.obj fields) => fields
      | _ => []
    let body := match (value.get? "json_error").bind Json.text? with
      | some reason => .error reason
      | none => .ok ((value.get? "json").getD .null)
    .answer status headers body

/-- The replies prepared for one page of one community. -/
structure PreparedPage where
  name : String
  page : SourcePage
  replies : List Reply

/-- All prepared replies. -/
abbrev Feed := List PreparedPage

namespace Feed

/-- Reads the replies of one page; a single reply stands for a list of one. -/
def repliesOfJson : Json → List Reply
  | .arr items => items.map Reply.ofJson
  | value => [Reply.ofJson value]

/-- Reads the pages of one community. -/
def pagesOfJson (name : String) (value : Json) : List PreparedPage :=
  let page (key : String) (page : SourcePage) : List PreparedPage :=
    match value.get? key with
    | some replies => [⟨name, page, repliesOfJson replies⟩]
    | none => []
  page "about" .aboutRules ++ page "wiki" .wiki

/-- Reads prepared replies by community. -/
def ofJson : Json → Feed
  | .obj fields => fields.flatMap fun field => pagesOfJson field.1 field.2
  | _ => []

/-- Replaces the replies of the pages that are given anew. -/
def replace (feed changes : Feed) : Feed :=
  (feed.filter fun old => !changes.any fun new => new.name == old.name && new.page == old.page)
    ++ changes

/-- The next reply for a page, and the replies left. -/
def next (feed : Feed) (name : String) (page : SourcePage) : Reply × Feed :=
  match feed with
  | [] => (.notFound, [])
  | prepared :: rest =>
    if prepared.name == name && prepared.page == page then
      match prepared.replies with
      | [] => (.notFound, feed)
      | [reply] => (reply, feed)
      | reply :: more => (reply, { prepared with replies := more } :: rest)
    else
      let (reply, left) := next rest name page
      (reply, prepared :: left)

end Feed

end Rulebook
