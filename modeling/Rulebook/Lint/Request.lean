import Rulebook.Community.Name
import Rulebook.Document.Field

/-!
# Requests for a check

A request names a community and carries a post. It is validated before anything is
looked up: the first field that cannot be read is reported in words, and then the name of
the community must not be empty once it is reduced to a key.
-/

namespace Rulebook.Lint

open Document

/-- A request for a check. -/
structure Request where
  community : String
  title : String
  body : String
  hasLink : Bool
deriving Repr, DecidableEq

/-- Reads a request. -/
def Request.read : Reader Request
  | path, .obj fields =>
    Request.mk
      <$> required path fields (.single "subreddit") readText
      <*> required path fields (.single "title") readText
      <*> plainDefault path fields (.single "body") "" readText
      <*> plainDefault path fields ⟨"hasLink", "has_link"⟩ false readTruth
  | path, _ => problem path .mapping

/-- What is wrong with a request. -/
inductive Rejection where
  | unreadable (kind : ProblemKind)
  | noCommunity
deriving Repr, DecidableEq

/-- The problem of a field in words. -/
def fieldMessage : ProblemKind → String
  | .missing => "Field required"
  | .text => "Input should be a valid string"
  | .truth => "Input should be a valid boolean"
  | .truthText => "Input should be a valid boolean, unable to interpret input"
  | _ => "Input should be a valid dictionary or instance of LintRequest"

/-- The rejection in words. -/
def Rejection.message : Rejection → String
  | .unreadable kind => "Invalid lint request: " ++ fieldMessage kind
  | .noCommunity => "Invalid lint request: subreddit is required"

/-- Requires a community name. -/
def Request.named (request : Request) : Except Rejection Request :=
  if Community.key request.community == "" then .error .noCommunity else .ok request

/-- Validates a value as a request. -/
def Request.validate (value : Json) : Except Rejection Request :=
  match Request.read [] value with
  | .ok request => request.named
  | .bad problems => .error (.unreadable ((problems.head?.map (·.kind)).getD .mapping))

end Rulebook.Lint
