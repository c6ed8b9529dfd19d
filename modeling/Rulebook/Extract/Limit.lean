import Rulebook.Decimal.Reader
import Rulebook.Pattern.Matcher

/-!
# Limits and minima in prose

A limit is a number shortly after a word for the limited thing and a phrase that limits.
The account requirements are found the same way: a minimum of karma, with commas allowed
between its digits, and a minimum age with its unit. The number of an age may stand after
the word for the account or before it.

A number that is too long to convert gives no limit, and so does a unit that is not one of
the four known ones.
-/

namespace Rulebook.Extract

open Pattern

/-- Phrases that limit. -/
def limitPhrase : Pattern :=
  oneOf [word "maximum", .seq (word "max") (optional (word ".")),
    all [word "limit", optional (word "ed"), optional (.seq (atLeastOne blank) (word "to"))],
    word "exceed", word "at most", word "no more than", word "up to"]

/-- Any character of the same line. -/
def inLine : Pattern := among true [.one '\n']

/-- Any character of the same line but a digit. -/
def noDigit : Pattern := among true [.ofKind .digit false false, .one '\n']

/-- A limit on one of the named things; the number is the first group. -/
def limitOn (things : List String) : Pattern :=
  all [words things, few 20 inLine, limitPhrase, few 10 noDigit, .group 1 (atLeastOne digit)]

/-- The number that a run of digits of any script spells, unless it is too long. -/
def numberOf? (digits : List Char) : Option Nat :=
  let values := digits.filterMap Text.digitValue?
  if Decimal.digitLimit < values.length then none else some (Decimal.valueOf values)

/-- The number in a group of the first match. -/
def firstNumber? (pattern : Pattern) (text : String) : Option Nat := do
  let found ← pattern.find? text.toList
  let digits ← found.group? 1
  numberOf? digits

/-- The largest number of characters of a title. -/
def maxTitleLength? (text : String) : Option Nat := firstNumber? (limitOn ["title"]) text

/-- The largest number of characters of a body. -/
def maxBodyLength? (text : String) : Option Nat :=
  firstNumber? (limitOn ["body", "post", "content", "text"]) text

/-- A requirement of karma. -/
def karmaPhrase : Pattern :=
  all [oneOf [word "minimum", all [word "min", edge, optional (word ".")], word "at least",
      .seq (word "require") (optional (word "s")), word "required", word "need"],
    few 20 noDigit,
    .group 1 (.seq digit (many (among false [.ofKind .digit false false, .one ',']))),
    few 10 inLine, word "karma"]

/-- The least karma that a poster needs. -/
def minKarma? (text : String) : Option Nat := do
  let found ← karmaPhrase.find? text.toList
  let digits ← found.group? 1
  numberOf? (digits.filter (· != ','))

/-- A unit of time. -/
def unitPhrase : Pattern :=
  oneOf (["day", "week", "month", "year"].map fun unit => .seq (word unit) (optional (word "s")))

/-- A number and a unit, the first and the second group. -/
def agePhrase : Pattern :=
  all [.group 1 (atLeastOne digit), many blank, optional (word "-"), many blank,
    .group 2 unitPhrase]

/-- An age after the word for the account. -/
def ageAfter : Pattern :=
  all [words ["account", "profile"], few 20 noDigit, agePhrase, edge]

/-- An age before the word for the account. -/
def ageBefore : Pattern :=
  all [agePhrase, many (among false [.ofKind .blank false false, .one '-']), word "old",
    atLeastOne blank, optional (.seq (word "reddit") (atLeastOne blank)),
    words ["account", "profile"]]

/-- The days of a unit, given by its name without the plural mark. -/
def daysPerUnit? : String → Option Nat
  | "day" => some 1
  | "week" => some 7
  | "month" => some 30
  | "year" => some 365
  | _ => none

/-- The days of a unit as it is written. -/
def daysOfUnit? (unit : List Char) : Option Nat :=
  daysPerUnit? (String.ofList ((Text.lower unit).reverse.dropWhile (· == 's')).reverse)

/-- The mention of an age that counts: one after the word for the account if there is any. -/
def ageMention? (text : String) : Option Cursor :=
  match ageAfter.find? text.toList with
  | some found => some found
  | none => ageBefore.find? text.toList

/-- The least age of an account in days. -/
def minAccountAgeDays? (text : String) : Option Nat := do
  let found ← ageMention? text
  let days ← daysOfUnit? (← found.group? 2)
  let count ← numberOf? (← found.group? 1)
  return count * days

end Rulebook.Extract
