import Rulebook.Calendar.Printer
import Rulebook.Document.Field
import Rulebook.Lint.Verdict

/-!
# Preview events

Every check that a user asks for is recorded as an event: the verdict and a redacted,
shortened preview of the post, never the post itself. Events are not changed afterwards.
-/

namespace Rulebook

open Calendar Document

/-- A recorded check. -/
structure PreviewEvent where
  id : Option Int
  userId : Int
  subreddit : String
  titlePreview : String
  bodyPreview : String
  policyState : PolicyState
  warnings : List String
  createdAt : Moment
deriving DecidableEq

/-- Reads an event. -/
def PreviewEvent.read : Reader PreviewEvent
  | path, .obj fields =>
    PreviewEvent.mk
      <$> optional path fields (.single "id") readInteger
      <*> required path fields ⟨"userId", "user_id"⟩ readInteger
      <*> required path fields (.single "subreddit") readText
      <*> required path fields ⟨"titlePreview", "title_preview"⟩ readText
      <*> required path fields ⟨"bodyPreview", "body_preview"⟩ readText
      <*> required path fields ⟨"policyState", "policy_state"⟩ (readChoice PolicyState.ofName?)
      <*> plainDefault path fields (.single "warnings") [] (readList readText)
      <*> required path fields ⟨"createdAt", "created_at"⟩ readMoment
  | path, _ => problem path .attributes

/-- The event as a document. -/
def PreviewEvent.document (event : PreviewEvent) : Json :=
  .obj [("id", Json.ofOption .int event.id), ("userId", .int event.userId),
    ("subreddit", .str event.subreddit), ("titlePreview", .str event.titlePreview),
    ("bodyPreview", .str event.bodyPreview), ("policyState", .str event.policyState.name),
    ("warnings", Json.strings event.warnings), ("createdAt", .str event.createdAt.text)]

/-- The largest number of characters of a title preview. -/
def titlePreviewLimit : Int := 200

/-- The largest number of characters of a body preview. -/
def bodyPreviewLimit : Int := 500

end Rulebook
