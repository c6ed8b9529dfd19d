import Rulebook.Decimal.Reader
import Rulebook.Fault
import Rulebook.Json.Basic
import Rulebook.Lint.Link
import Rulebook.Pattern.Matcher
import Rulebook.Pattern.Reader
import Rulebook.Rules.Basic

/-!
# Checking a post against rules

A breach of banned words, patterns or the link policy is a violation and blocks the post.
Everything else is a warning at most. Notes of the wiki are shown for context and never
change the verdict.

A pattern that is malformed is skipped. The check itself breaks off in few cases: a
pattern with a count beyond all bounds, with flags that contradict each other or with groups
too deep in one another, and a number in the rules that is too large to be written into a
message.
-/

namespace Rulebook

/-- The verdict on a post. -/
inductive PolicyState where
  | ok
  | warn
  | blocked
deriving Repr, DecidableEq

namespace PolicyState

/-- The name of a verdict in documents. -/
def name : PolicyState → String
  | .ok => "ok"
  | .warn => "warn"
  | .blocked => "blocked"

/-- The verdict with a name. -/
def ofName? : String → Option PolicyState
  | "ok" => some .ok
  | "warn" => some .warn
  | "blocked" => some .blocked
  | _ => none

/-- How severe a verdict is. -/
def severity : PolicyState → Nat
  | .ok => 0
  | .warn => 1
  | .blocked => 2

end PolicyState

/-- The outcome of a check. -/
structure LintResult where
  state : PolicyState
  violations : List String := []
  warnings : List String := []
  notes : List String := []
deriving Repr, DecidableEq

/-- The outcome as a document. -/
def LintResult.document (result : LintResult) : Json :=
  .obj [("policyState", .str result.state.name), ("violations", Json.strings result.violations),
    ("warnings", Json.strings result.warnings), ("notes", Json.strings result.notes)]

namespace Lint

/-- A post as it is checked. -/
structure Post where
  title : String
  body : String
  hasLink : Bool
deriving Repr, DecidableEq

/-- The number of notes shown. -/
def shownNotes : Nat := 2

/-- Notes from this length on are not shown. -/
def noteLength : Nat := 100

/-- A number inside a message. -/
def numberText (n : Int) : Except Fault String :=
  if Decimal.isShort n then .ok (toString n) else .error .unconvertible

/-- True when a banned word stands in the title or the body, whatever the case. -/
def breaksBan (post : Post) (banned : String) : Bool :=
  let needle := Text.lower banned.toList
  !needle.isEmpty && (Text.occurs needle (Text.lower post.title.toList)
    || Text.occurs needle (Text.lower post.body.toList))

/-- The violations of banned words. -/
def banViolations (rules : Rules) (post : Post) : List String :=
  (rules.bannedWords.filter (breaksBan post)).map fun banned =>
    "Contains banned term \"" ++ banned ++ "\""

/-- Whether a pattern matches a text. A malformed pattern matches nothing. -/
def patternMatches (platform : Pattern.Platform) (pattern text : String) : Except Fault Bool :=
  match Pattern.read platform pattern with
  | .ok compiled => .ok (compiled.matches? text.toList)
  | .error .malformed => .ok false
  | .error .countTooLarge => .error .outOfRange
  | .error .countTooLong => .error .unconvertible
  | .error .flagsConflict => .error .unconvertible
  | .error .tooDeep => .error .tooDeep

/-- The violations of the patterns for one part of a post. -/
def patternViolations (platform : Pattern.Platform) (part text : String) :
    List String → Except Fault (List String)
  | [] => .ok []
  | pattern :: rest => do
    let found ← patternMatches platform pattern text
    let others ← patternViolations platform part text rest
    let message := part ++ " matches prohibited pattern /" ++ pattern ++ "/"
    return if found then message :: others else others

/-- The violations of the link policy, at most one. -/
def linkViolations (rules : Rules) (post : Post) : List String :=
  match rules.linkPolicy with
  | .noLink =>
    if post.hasLink then ["Link policy (no-link): this community does not allow links"] else []
  | .oneLink =>
    let links := countLinks post.body
    if 1 < links then
      ["Link policy (one-link): found " ++ toString links
        ++ " links in the body, this community allows one"]
    else []
  | _ => []

/-- The warning for the single link that a policy allows. -/
def linkWarnings (rules : Rules) (post : Post) : List String :=
  if rules.linkPolicy == .oneLink && countLinks post.body == 1 then
    ["Link policy (one-link): this community allows a single promotional link"]
  else []

/-- The warning for a title without any of the required tags. -/
def tagWarnings (rules : Rules) (post : Post) : List String :=
  let tagged := rules.requiredTags.any fun tag => Text.occurs tag.toList post.title.toList
  if rules.requiredTags.isEmpty || tagged then []
  else
    ["Missing required tag: title should include one of "
      ++ ", ".intercalate rules.requiredTags]

/-- The warning for a part that is longer than its maximum. -/
def lengthWarnings (part text : String) (most : Option Int) : Except Fault (List String) :=
  match most with
  | none => .ok []
  | some most =>
    if most < (text.length : Int) then do
      let limit ← numberText most
      return [part ++ " too long: " ++ toString text.length ++ " characters (maximum " ++ limit
        ++ ")"]
    else .ok []

/-- True when an opening mark is followed by its closing mark with something between. -/
def hasMark (opening closing : Char) : List Char → Bool
  | [] => false
  | c :: rest =>
    (c == opening && rest.head? != some closing && rest.contains closing)
      || hasMark opening closing rest

/-- True when a title carries something like a flair or a tag. -/
def hasFlairMark (title : String) : Bool :=
  hasMark '[' ']' title.toList || hasMark '(' ')' title.toList

/-- The warning for a missing flair. -/
def flairWarnings (rules : Rules) (post : Post) : List String :=
  if rules.flairRequired && !hasFlairMark post.title then
    ["This community may require post flair or tags"]
  else []

/-- The warning for a karma minimum. -/
def karmaWarnings (flags : ManualFlags) : Except Fault (List String) :=
  match flags.minKarma with
  | none => .ok []
  | some karma =>
    if karma == 0 then .ok []
    else do
      let least ← numberText karma
      return ["This community requires " ++ least ++ "+ karma"]

/-- Months that a number of days amounts to: a thirtieth in floating point, rounded to the
nearest integer with ties to the even one. -/
def monthsOf (days : Nat) : Except Fault Nat :=
  match Decimal.Binary.nearest? days 30 with
  | some months => .ok (Decimal.roundDiv months.num months.den)
  | none => .error .outOfRange

/-- The warning for a minimum age of the account, in months from thirty days on. -/
def ageWarnings (flags : ManualFlags) : Except Fault (List String) :=
  match flags.minAccountAgeDays with
  | none => .ok []
  | some days =>
    if days == 0 then .ok []
    else if 30 ≤ days then do
      let months ← monthsOf days.toNat
      return ["This community requires " ++ toString months ++ "+ month old accounts"]
    else do
      let least ← numberText days
      return ["This community requires " ++ least ++ "+ day old accounts"]

/-- The warning for required verification. -/
def verificationWarnings (flags : ManualFlags) : List String :=
  if flags.verificationRequired then ["This community requires verification before posting"]
  else []

/-- The warning for asking for votes. -/
def voteWarnings (post : Post) : List String :=
  let words := ["upvotes", "upvote"]
  if Text.mentionsWhole words none post.title.toList
      || Text.mentionsWhole words none post.body.toList then
    ["Asking for upvotes may hurt engagement"]
  else []

/-- The notes shown with a verdict. -/
def guidelineNotes (rules : Rules) : List String :=
  ((rules.wikiNotes.take shownNotes).filter fun note => note.length < noteLength).map
    ("Community guideline: " ++ ·)

/-- All violations, in the order of the checks. -/
def violations (platform : Pattern.Platform) (rules : Rules) (post : Post) :
    Except Fault (List String) := do
  let titles ← patternViolations platform "Title" post.title rules.titleRegexes
  let bodies ← patternViolations platform "Body" post.body rules.bodyRegexes
  return banViolations rules post ++ titles ++ bodies ++ linkViolations rules post

/-- All warnings, in the order of the checks. -/
def warnings (rules : Rules) (post : Post) : Except Fault (List String) := do
  let flags := rules.manualFlags
  let title ← lengthWarnings "Title" post.title rules.maxTitleLength
  let body ← lengthWarnings "Body" post.body rules.maxBodyLength
  let karma ← karmaWarnings flags
  let age ← ageWarnings flags
  return linkWarnings rules post ++ tagWarnings rules post ++ title ++ body
    ++ flairWarnings rules post ++ karma ++ age ++ verificationWarnings flags
    ++ voteWarnings post

/-- The verdict that violations and warnings amount to. -/
def stateOf (violations warnings : List String) : PolicyState :=
  if !violations.isEmpty then .blocked else if !warnings.isEmpty then .warn else .ok

/-- Checks a post against rules. -/
def evaluate (platform : Pattern.Platform) (rules : Rules) (post : Post) :
    Except Fault LintResult := do
  let violations ← violations platform rules post
  let warnings ← warnings rules post
  return ⟨stateOf violations warnings, violations, warnings, guidelineNotes rules⟩

end Lint

end Rulebook
