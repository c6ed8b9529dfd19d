import Rulebook.Engine
import Rulebook.Lint.Request

/-!
# Checking a post against the rules on file

A request is validated before anything is looked up. Without rules on file the verdict is a
warning: their absence neither blocks a post nor clears it. When a user asked, the check
is recorded as an event with the verdict and a redacted preview, before it is counted.
-/

namespace Rulebook.Engine

open Lint Document

/-- The verdict when there are no rules on file. -/
def noRulesResult (key : String) : LintResult :=
  { state := .warn, warnings := ["No rules on file for r/" ++ key] }

/-- The verdict on a request. -/
def verdict (engine : Engine) (request : Request) : Except Failure LintResult := do
  let key := Community.key request.community
  match ← engine.db.getRules key with
  | none => return noRulesResult key
  | some spec =>
    Failure.ofFault
      (evaluate engine.platform spec.rules ⟨request.title, request.body, request.hasLink⟩)

/-- The event that records a check. -/
def eventOf (engine : Engine) (request : Request) (result : LintResult) (userId : Int) :
    PreviewEvent where
  id := none
  userId := userId
  subreddit := Community.key request.community
  titlePreview := redactPreview request.title titlePreviewLimit
  bodyPreview := redactPreview request.body bodyPreviewLimit
  policyState := result.state
  warnings := result.violations ++ result.warnings
  createdAt := engine.now

/-- Records a check for a user; no user or no log records nothing. -/
def recordCheck (engine : Engine) (request : Request) (result : LintResult) (userId : Json) :
    Outcome Unit :=
  if userId.isNull || !engine.keepsEvents then (.ok (), engine)
  else
    match readInteger ["user_id"] userId with
    | .bad problems => (.error (.unreadable problems), engine)
    | .ok user =>
      match engine.db.insertEvent (engine.eventOf request result user) with
      | .ok (db, _) => (.ok (), { engine with db })
      | .error failure => (.error failure, engine)

/-- Checks a valid request. -/
def lintRequest (engine : Engine) (request : Request) (userId : Json) : Outcome LintResult :=
  match engine.verdict request with
  | .error failure => (.error failure, engine)
  | .ok result =>
    match engine.recordCheck request result userId with
    | (.error failure, engine) => (.error failure, engine)
    | (.ok _, engine) => (.ok result, engine.record (.verdict result.state))

/-- Checks a value given as a request. -/
def lint (engine : Engine) (request userId : Json) : Outcome LintResult :=
  match Request.validate request with
  | .error rejection => (.error (.rejected rejection), engine)
  | .ok request => engine.lintRequest request userId

end Rulebook.Engine
