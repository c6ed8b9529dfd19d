import Rulebook.Text.Blank
import Rulebook.Text.Capital
import Rulebook.Text.Digit
import Rulebook.Text.Word

/-!
# Patterns

A pattern describes a stretch of text: single characters, sequences, ordered choices,
bounded repetitions, numbered groups, references to them, and conditions on the
neighbourhood of a position. How letters compare is fixed at each character test, so one
pattern may treat case differently in its parts.

The constructors at the end build the fixed patterns of the rule heuristics; they compare
letters ignoring case.
-/

namespace Rulebook

/-- How two characters compare. -/
inductive Folding where
  /-- Only the same character. -/
  | exact
  /-- The same letter ignoring the case of ASCII letters. -/
  | ascii
  /-- The same letter ignoring case in every script. -/
  | full
deriving Repr, DecidableEq

/-- Classes of characters. -/
inductive CharKind where
  | digit
  | blank
  | word
deriving Repr, DecidableEq

/-- The small form of an ASCII capital; other characters stay. -/
def asciiSmall (c : Char) : Char := if c.isUpper then Char.ofNat (c.toNat + 32) else c

/-- Compares two characters. -/
def Folding.same (folding : Folding) (c d : Char) : Bool :=
  match folding with
  | .exact => c == d
  | .ascii => asciiSmall c == asciiSmall d
  | .full => Text.sameLetter c d

/-- Compares a character with one remembered earlier. Only small forms are compared, so
small letters that share a capital stay apart. -/
def Folding.echoes (folding : Folding) (c d : Char) : Bool :=
  match folding with
  | .exact => c == d
  | .ascii => asciiSmall c == asciiSmall d
  | .full => Text.small c == Text.small d

/-- Membership in a class, either over every script or over ASCII alone. -/
def CharKind.holds (kind : CharKind) (ascii : Bool) (c : Char) : Bool :=
  if ascii && 128 ≤ c.toNat then false
  else
    match kind with
    | .digit => Text.isDigit c
    | .blank => Text.isBlank c && !(ascii && 28 ≤ c.toNat && c.toNat ≤ 31)
    | .word => Text.isWord c

/-- A member of a character set. -/
inductive SetItem where
  | one (c : Char)
  | range (low high : Char)
  | ofKind (kind : CharKind) (negated ascii : Bool)
deriving Repr, DecidableEq

/-- True of the characters from one to another. -/
def isBetween (low high c : Char) : Bool := low ≤ c && c ≤ high

/-- Whether a range holds the capital of a small letter. Only ranges that reach beyond the
sixteen-bit range are asked, and they are asked for it in every script, even where letters
compare over ASCII alone. -/
def reachesCapital (low high c : Char) : Bool :=
  0xffff < high.toNat && isBetween low high (Text.capital c)

/-- Tests a character against a member. A range holds a character when it holds one of its
spellings. A single capital beyond the sixteen-bit range compares with the small form of
the character, so it matches nothing. -/
def SetItem.holds (folding : Folding) (item : SetItem) (c : Char) : Bool :=
  match item with
  | .one d =>
    if folding == .full && 0xffff < d.toNat then Text.small c == d else folding.same c d
  | .range low high =>
    match folding with
    | .exact => isBetween low high c
    | .ascii =>
      isBetween low high c || isBetween low high c.toLower || isBetween low high c.toUpper
        || reachesCapital low high (asciiSmall c)
    | .full =>
      (Text.spellings c).any (isBetween low high) || reachesCapital low high (Text.small c)
  | .ofKind kind negated ascii => kind.holds ascii c != negated

/-- A test of one character. -/
inductive CharTest where
  /-- Every character. -/
  | any
  /-- Every character but the line feed. -/
  | inLine
  | letter (folding : Folding) (negated : Bool) (c : Char)
  | set (folding : Folding) (negated : Bool) (items : List SetItem)
deriving Repr, DecidableEq

/-- The outcome of a test. -/
def CharTest.accepts (test : CharTest) (c : Char) : Bool :=
  match test with
  | .any => true
  | .inLine => c != '\n'
  | .letter folding negated d => folding.same d c != negated
  | .set folding negated items => items.any (·.holds folding c) != negated

/-- A condition on a position that takes no text. -/
inductive Place where
  /-- The start of the text. -/
  | start
  /-- The start of the text or the position after a line feed. -/
  | lineStart
  /-- The end of the text. -/
  | stop
  /-- The end of the text or the position before a line feed that ends it. -/
  | lastStop
  /-- The end of the text or the position before a line feed. -/
  | lineStop
  /-- A position between a word character and none, or, negated, any other. An empty text
  has neither kind. -/
  | boundary (negated ascii : Bool)
deriving Repr, DecidableEq

/-- Which count a repetition tries first, and whether it reconsiders. -/
inductive Greed where
  | most
  | fewest
  | firm
deriving Repr, DecidableEq

/-- A pattern. -/
inductive Pattern where
  /-- The empty text. -/
  | empty
  /-- One character that passes the test. -/
  | char (test : CharTest)
  | seq (first second : Pattern)
  /-- The first branch, or the second if nothing works out with the first. -/
  | alt (first second : Pattern)
  /-- Remembers the text of the body under a number. -/
  | group (index : Nat) (body : Pattern)
  /-- The text last remembered under a number. -/
  | recall (folding : Folding) (index : Nat)
  | place (place : Place)
  /-- The body stands after the position, or does not when negated; nothing is taken. -/
  | ahead (negated : Bool) (body : Pattern)
  /-- The body stands in the given number of characters before the position. -/
  | behind (negated : Bool) (width : Nat) (body : Pattern)
  /-- The body in its first reading only. -/
  | firm (body : Pattern)
  /-- The body at least `least` times and at most `most` times if that is given. -/
  | loop (greed : Greed) (least : Nat) (most : Option Nat) (body : Pattern)
  /-- One branch if a group has been remembered, the other if not. -/
  | given (index : Nat) (yes no : Pattern)
deriving Repr

namespace Pattern

/-- All patterns of a list, one after the other. -/
def all : List Pattern → Pattern
  | [] => .empty
  | [pattern] => pattern
  | pattern :: rest => .seq pattern (all rest)

/-- The first pattern of a list that works out. -/
def oneOf : List Pattern → Pattern
  | [] => .empty
  | [pattern] => pattern
  | pattern :: rest => .alt pattern (oneOf rest)

/-- The letters of a word ignoring case. -/
def word (s : String) : Pattern := all (s.toList.map fun c => .char (.letter .full false c))

/-- One of several words ignoring case. -/
def words (list : List String) : Pattern := oneOf (list.map word)

/-- The pattern or nothing. -/
def optional (body : Pattern) : Pattern := .loop .most 0 (some 1) body

/-- Any number of repetitions, as many as possible first. -/
def many (body : Pattern) : Pattern := .loop .most 0 none body

/-- At least one repetition, as many as possible first. -/
def atLeastOne (body : Pattern) : Pattern := .loop .most 1 none body

/-- Up to a number of repetitions, as few as possible first. -/
def few (most : Nat) (body : Pattern) : Pattern := .loop .fewest 0 (some most) body

/-- One character of a class. -/
def kind (kind : CharKind) : Pattern := .char (.set .full false [.ofKind kind false false])

/-- One white-space character. -/
def blank : Pattern := kind .blank

/-- One decimal digit. -/
def digit : Pattern := kind .digit

/-- One of the characters, or, negated, any other. -/
def among (negated : Bool) (items : List SetItem) : Pattern := .char (.set .full negated items)

/-- A word boundary. -/
def edge : Pattern := .place (.boundary false false)

end Pattern

end Rulebook
