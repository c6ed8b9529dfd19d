import Rulebook.Json.Basic
import Rulebook.Decimal.Reader

/-!
# Reading JSON text

A recursive descent over the characters. The depth of the descent and the number of
items it reads are bounded by the length of the text, which serves as fuel; a text that
is read completely never runs out of it, since every step consumes a character.
-/

namespace Rulebook.Json

/-- Drops the four characters that may stand between tokens. -/
def skipSpace (cs : List Char) : List Char :=
  cs.dropWhile fun c => c == ' ' || c == '\t' || c == '\n' || c == '\r'

/-- The value of a hexadecimal digit. -/
def hexValue? (c : Char) : Option Nat :=
  if c.isDigit then some (c.toNat - 48)
  else if 'a' ≤ c && c ≤ 'f' then some (c.toNat - 87)
  else if 'A' ≤ c && c ≤ 'F' then some (c.toNat - 55)
  else none

/-- Reads four hexadecimal digits. -/
def readUnit? : List Char → Option (Nat × List Char)
  | a :: b :: c :: d :: rest => do
    let a ← hexValue? a
    let b ← hexValue? b
    let c ← hexValue? c
    let d ← hexValue? d
    return (((a * 16 + b) * 16 + c) * 16 + d, rest)
  | _ => none

/-- Reads the code point of an escape; two escapes may spell one code point beyond the
sixteen-bit range. -/
def readPoint? (cs : List Char) : Option (Char × List Char) := do
  let (high, rest) ← readUnit? cs
  if 0xd800 ≤ high && high < 0xdc00 then
    match rest with
    | '\\' :: 'u' :: more =>
      let (low, left) ← readUnit? more
      if 0xdc00 ≤ low && low < 0xe000 then
        return (Char.ofNat (0x10000 + (high - 0xd800) * 0x400 + (low - 0xdc00)), left)
      else none
    | _ => none
  else return (Char.ofNat high, rest)

/-- The character that a one-letter escape stands for. -/
def plainEscape? : Char → Option Char
  | '"' => some '"'
  | '\\' => some '\\'
  | '/' => some '/'
  | 'b' => some '\x08'
  | 'f' => some '\x0c'
  | 'n' => some '\n'
  | 'r' => some '\r'
  | 't' => some '\t'
  | _ => none

/-- Reads a string after its opening quote; `taken` holds the characters so far, reversed. -/
def readString? : Nat → List Char → List Char → Option (String × List Char)
  | 0, _, _ => none
  | fuel + 1, taken, cs =>
    match cs with
    | '"' :: rest => some (String.ofList taken.reverse, rest)
    | '\\' :: 'u' :: rest =>
      match readPoint? rest with
      | some (c, left) => readString? fuel (c :: taken) left
      | none => none
    | '\\' :: c :: rest =>
      match plainEscape? c with
      | some d => readString? fuel (d :: taken) rest
      | none => none
    | c :: rest => if c.toNat < 32 then none else readString? fuel (c :: taken) rest
    | [] => none

/-- The run of ASCII digits at the front. -/
def plainDigits (cs : List Char) : List Nat × List Char :=
  ((cs.takeWhile Char.isDigit).map (·.toNat - 48), cs.dropWhile Char.isDigit)

/-- The digits after a point, when at least one stands there. -/
def fractionDigits (cs : List Char) : Option (List Nat) × List Char :=
  match cs with
  | '.' :: rest =>
    let (digits, left) := plainDigits rest
    if digits.isEmpty then (none, cs) else (some digits, left)
  | _ => (none, cs)

/-- The exponent after its mark, when at least one digit stands there. -/
def exponentDigits (cs : List Char) : Option Int × List Char :=
  match cs with
  | mark :: rest =>
    if mark == 'e' || mark == 'E' then
      let (negative, body) := Decimal.readSign rest
      let (digits, left) := plainDigits body
      if digits.isEmpty then (none, cs)
      else
        let size : Int := Decimal.valueOf digits
        (some (if negative then -size else size), left)
    else (none, cs)
  | [] => (none, cs)

/-- Reads a number written in digits. It is an integer exactly when it has neither point nor
exponent. -/
def readDigits? (cs : List Char) : Option (Json × List Char) :=
  let (negative, body) :=
    match cs with
    | '-' :: rest => (true, rest)
    | _ => (false, cs)
  let (whole, rest) := plainDigits body
  if whole.isEmpty || (1 < whole.length && whole.head? == some 0) then none
  else
    let (fraction, rest) := fractionDigits rest
    let (exponent, rest) := exponentDigits rest
    match fraction, exponent with
    | none, none =>
      let size : Int := Decimal.valueOf whole
      some (.int (if negative then -size else size), rest)
    | _, _ =>
      let places := fraction.getD []
      some (.float (Decimal.scientific negative (Decimal.valueOf (whole ++ places))
        (exponent.getD 0 - places.length)), rest)

/-- The names of the numbers that have no digits. -/
def namedNumbers : List (String × Float) :=
  [("NaN", 0.0 / 0.0), ("Infinity", 1.0 / 0.0), ("-Infinity", -1.0 / 0.0)]

/-- Reads a number. -/
def readNumber? (cs : List Char) : Option (Json × List Char) :=
  match namedNumbers.find? fun named => named.1.toList.isPrefixOf cs with
  | some (name, value) => some (.float value, cs.drop name.length)
  | none => readDigits? cs

mutual

/-- Reads one value. -/
def readValue? : Nat → List Char → Option (Json × List Char)
  | 0, _ => none
  | fuel + 1, cs =>
    match skipSpace cs with
    | 'n' :: 'u' :: 'l' :: 'l' :: rest => some (.null, rest)
    | 't' :: 'r' :: 'u' :: 'e' :: rest => some (.bool true, rest)
    | 'f' :: 'a' :: 'l' :: 's' :: 'e' :: rest => some (.bool false, rest)
    | '"' :: rest => (readString? (rest.length + 1) [] rest).map fun (s, left) => (.str s, left)
    | '[' :: rest =>
      match skipSpace rest with
      | ']' :: left => some (.arr [], left)
      | _ => (readItems? fuel [] rest).map fun (items, left) => (.arr items, left)
    | '\x7b' :: rest =>
      match skipSpace rest with
      | '\x7d' :: left => some (.obj [], left)
      | _ => (readFields? fuel [] rest).map fun (fields, left) => (.obj fields, left)
    | cs => readNumber? cs

/-- Reads the items of an array up to its closing bracket. -/
def readItems? : Nat → List Json → List Char → Option (List Json × List Char)
  | 0, _, _ => none
  | fuel + 1, taken, cs =>
    match readValue? fuel cs with
    | none => none
    | some (item, rest) =>
      match skipSpace rest with
      | ',' :: more => readItems? fuel (item :: taken) more
      | ']' :: left => some ((item :: taken).reverse, left)
      | _ => none

/-- Reads the fields of an object up to its closing brace. -/
def readFields? : Nat → List (String × Json) → List Char →
    Option (List (String × Json) × List Char)
  | 0, _, _ => none
  | fuel + 1, taken, cs =>
    match skipSpace cs with
    | '"' :: rest =>
      match readString? (rest.length + 1) [] rest with
      | none => none
      | some (key, rest) =>
        match skipSpace rest with
        | ':' :: rest =>
          match readValue? fuel rest with
          | none => none
          | some (value, rest) =>
            match skipSpace rest with
            | ',' :: more => readFields? fuel (put key value taken) more
            | '\x7d' :: left => some (put key value taken, left)
            | _ => none
        | _ => none
    | _ => none

end

/-- Reads a text that holds exactly one value. -/
def parse? (s : String) : Option Json :=
  let cs := s.toList
  match readValue? (cs.length + 1) cs with
  | some (value, rest) => if (skipSpace rest).isEmpty then some value else none
  | none => none

end Rulebook.Json
