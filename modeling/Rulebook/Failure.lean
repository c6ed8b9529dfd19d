import Rulebook.Document.Checked
import Rulebook.Fault
import Rulebook.Lint.Request

/-!
# Failures of the engine

An operation of the engine fails for one of a few causes: a request is rejected, a store or
the source of rules is not available, a document cannot be read, a name is empty, a part
is not set up, or a value has the wrong shape. Each cause that the engine itself finds
carries the words it is reported in.
-/

namespace Rulebook

/-- What a store could not do. -/
inductive StoreFailure where
  | ruleRead (key : String)
  | ruleWrite (key : String)
  | eventRead
  | eventWrite
  | communityList
  | communityRead (key : String)
  | communityWrite (key : String)
  | schema
deriving Repr, DecidableEq

/-- The failure in words. -/
def StoreFailure.message : StoreFailure → String
  | .ruleRead key => "Rule store read failed for r/" ++ key
  | .ruleWrite key => "Rule store write failed for r/" ++ key
  | .eventRead => "Preview event read failed"
  | .eventWrite => "Preview event write failed"
  | .communityList => "Community list read failed"
  | .communityRead key => "Community read failed for r/" ++ key
  | .communityWrite key => "Community write failed for r/" ++ key
  | .schema => "Database schema could not be created"

/-- A part that an operation needs and that is not there. -/
inductive MissingPart where
  | sessions
  | engine
  | connection
  | communities
deriving Repr, DecidableEq

/-- The missing part in words. -/
def MissingPart.message : MissingPart → String
  | .sessions => "Database session factory (SessionLocal) is not initialized."
  | .engine => "Database engine is not initialized."
  | .connection => "RedditRulesClient used outside of its async context"
  | .communities => "sync_all needs a community store to enumerate communities"

/-- Why an operation failed. -/
inductive Failure where
  | rejected (rejection : Lint.Rejection)
  | store (failure : StoreFailure)
  | sourceUnavailable (url reason : String)
  | unreadable (problems : List Document.Problem)
  | invalidName (shown : String)
  | missing (part : MissingPart)
  | fault (fault : Fault)
deriving Repr, DecidableEq

/-- A result whose fault is a failure of the engine. -/
def Failure.ofFault {α : Type} : Except Fault α → Except Failure α
  | .ok value => .ok value
  | .error cause => .error (.fault cause)

/-- A checked value as a result. -/
def Failure.ofChecked {α : Type} : Document.Checked α → Except Failure α
  | .ok value => .ok value
  | .bad problems => .error (.unreadable problems)

/-- The failure in words; a fault has none of its own. -/
def Failure.message : Failure → String
  | .rejected rejection => rejection.message
  | .store failure => failure.message
  | .sourceUnavailable url reason => "Upstream unavailable for " ++ url ++ ": " ++ reason
  | .unreadable problems => Document.problemsText problems
  | .invalidName shown => "Invalid community name: " ++ shown
  | .missing part => part.message
  | .fault _ => ""

end Rulebook
