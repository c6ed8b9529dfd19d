import Rulebook.Calendar.Reader
import Rulebook.Document.Checked
import Rulebook.Json.Basic

/-!
# Reading fields

A field may be given under its public key or under its older spelling with underscores;
the public key wins when both are present. Fields that always have a value treat a null
as if the field were absent, so the other spelling may then supply the value.

Scalars are read leniently. A text is a string. An integer may also be given as a truth
value, as a floating-point number without a fraction, or as text. A truth value may also
be given as zero or one or by one of its usual names.
-/

namespace Rulebook.Document

open Rulebook.Calendar

/-- A place in a document, outermost key first. -/
abbrev Path := List String

/-- Reads a value found at a place. -/
abbrev Reader (α : Type) := Path → Json → Checked α

/-- A single problem at a place. -/
def problem {α : Type} (path : Path) (kind : ProblemKind) : Checked α := .bad [⟨path, kind⟩]

/-- The two spellings of a field. -/
structure Key where
  main : String
  other : String
deriving Repr, DecidableEq

/-- A key that is spelled one way only. -/
def Key.single (name : String) : Key := ⟨name, name⟩

/-- The value of a field with the spelling it was found under. -/
def Key.find? (key : Key) (fields : List (String × Json)) : Option (String × Json) :=
  match Json.lookup? key.main fields with
  | some value => some (key.main, value)
  | none => (Json.lookup? key.other fields).map (key.other, ·)

/-- The value of a field, nulls counting as absent. -/
def Key.findSet? (key : Key) (fields : List (String × Json)) : Option (String × Json) :=
  let present (name : String) : Option (String × Json) :=
    match Json.lookup? name fields with
    | some .null => none
    | some value => some (name, value)
    | none => none
  match present key.main with
  | some found => some found
  | none => present key.other

/-- Reads a field that has a value for absence; null counts as absent. -/
def withDefault {α : Type} (path : Path) (fields : List (String × Json)) (key : Key) (value : α)
    (read : Reader α) : Checked α :=
  match key.findSet? fields with
  | some (name, found) => read (path ++ [name]) found
  | none => .ok value

/-- Reads a field that may be absent or null. -/
def optional {α : Type} (path : Path) (fields : List (String × Json)) (key : Key)
    (read : Reader α) : Checked (Option α) :=
  match key.find? fields with
  | some (_, .null) => .ok none
  | some (name, found) => (read (path ++ [name]) found).map some
  | none => .ok none

/-- Reads a field that must be present; a null is not treated as absence. -/
def required {α : Type} (path : Path) (fields : List (String × Json)) (key : Key)
    (read : Reader α) : Checked α :=
  match key.find? fields with
  | some (name, found) => read (path ++ [name]) found
  | none => problem (path ++ [key.main]) .missing

/-- Reads a field with a value for absence; a null is read like any other value. -/
def plainDefault {α : Type} (path : Path) (fields : List (String × Json)) (key : Key) (value : α)
    (read : Reader α) : Checked α :=
  match key.find? fields with
  | some (name, found) => read (path ++ [name]) found
  | none => .ok value

/-- Reads a string. -/
def readText : Reader String
  | _, .str value => .ok value
  | path, _ => problem path .text

/-- Reads a list, naming the items by their positions. -/
def readList {α : Type} (read : Reader α) : Reader (List α)
  | path, .arr items =>
    Checked.all (items.mapIdx fun index item => read (path ++ [toString index]) item)
  | path, _ => problem path .list

/-- Drops the zeros after a decimal point; nothing when other digits stand there. -/
def wholePart? (cs : List Char) : Option (List Char) :=
  match cs.dropWhile (· != '.') with
  | [] => some cs
  | _ :: fraction => if fraction.all (· == '0') then some (cs.takeWhile (· != '.')) else none

/-- The integer that a text spells: ASCII digits with single underscores between them, an
optional sign, zeros after a decimal point and white space around it. -/
def integerText? (s : String) : Option Int := do
  let whole ← wholePart? (Text.trimPadding s.toList)
  let (negative, body) := Decimal.readSign whole
  let (digits, rest) := Decimal.digitRun body
  if digits.isEmpty || !rest.isEmpty then none
  else return if negative then -(Decimal.valueOf digits : Int) else Decimal.valueOf digits

/-- Reads an integer. -/
def readInteger : Reader Int
  | _, .int value => .ok value
  | _, .bool value => .ok (if value then 1 else 0)
  | path, .float value =>
    match Decimal.truncate? value with
    | none => problem path .infinite
    | some whole =>
      if !Decimal.isWhole value then problem path .fraction
      else if whole.natAbs < Decimal.wordLimit then .ok whole
      else problem path .integerSize
  | path, .str value =>
    if Decimal.digitLimit < (Text.trimPadding value.toList).length then problem path .integerSize
    else
      match integerText? value with
      | some whole => .ok whole
      | none => problem path .integerText
  | path, _ => problem path .integer

/-- The names of truth. -/
def trueNames : List String := ["1", "t", "y", "yes", "on", "true"]

/-- The names of falsehood. -/
def falseNames : List String := ["0", "f", "n", "no", "off", "false"]

/-- The truth value that an integer stands for. -/
def truthOfInt (path : Path) (value : Int) : Checked Bool :=
  if value == 0 then .ok false
  else if value == 1 then .ok true
  else problem path .truthText

/-- Reads a truth value. -/
def readTruth : Reader Bool
  | _, .bool value => .ok value
  | path, .int value =>
    if value.natAbs < Decimal.wordLimit then truthOfInt path value else problem path .truth
  | path, .float value =>
    match Decimal.truncate? value with
    | some whole =>
      if Decimal.isWhole value && whole.natAbs < Decimal.wordLimit then truthOfInt path whole
      else problem path .truth
    | none => problem path .truth
  | path, .str value =>
    let name := String.ofList (value.toList.map Char.toLower)
    if trueNames.contains name then .ok true
    else if falseNames.contains name then .ok false
    else problem path .truthText
  | path, _ => problem path .truth

/-- Reads a moment. -/
def readMoment : Reader Moment
  | path, .str value =>
    match Moment.read? value with
    | some m => .ok m
    | none => problem path .momentText
  | path, .int value =>
    match ofCount? value 0 with
    | some m => .ok m
    | none => problem path .momentSize
  | path, .float value =>
    match ofFloatCount? value with
    | some m => .ok m
    | none => problem path .momentSize
  | path, _ => problem path .moment

/-- Reads one of a set of named values. -/
def readChoice {α : Type} (ofName? : String → Option α) : Reader α
  | path, .str name =>
    match ofName? name with
    | some value => .ok value
    | none => problem path .choice
  | path, _ => problem path .choice

end Rulebook.Document
