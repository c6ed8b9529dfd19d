import Rulebook.Pattern.Basic

/-!
# Matching

Matching is backtracking in the order that the pattern prescribes. A pattern is run with
a continuation that decides whether the rest works out, so a choice falls back to its
second branch when the continuation refuses every reading of the first.

A repetition stops trying once a round that was not required has taken no text. Hence the
rounds are bounded by the required ones and the length of the text, and that bound is the
fuel of the loops; it never runs out.
-/

namespace Rulebook

/-- A position in a text: the reversed text before it, the text after it, how many
characters stand before it, and the groups remembered so far. -/
structure Cursor where
  before : List Char
  after : List Char
  position : Nat
  groups : List (Nat × List Char)
deriving Repr

namespace Cursor

/-- The start of a text. -/
def start (text : List Char) : Cursor := ⟨[], text, 0, []⟩

/-- Moves over one character. -/
def step (cursor : Cursor) (c : Char) (rest : List Char) : Cursor :=
  ⟨c :: cursor.before, rest, cursor.position + 1, cursor.groups⟩

/-- The text remembered under a number. -/
def group? (cursor : Cursor) (index : Nat) : Option (List Char) :=
  (cursor.groups.find? (·.1 == index)).map (·.2)

/-- Remembers the text since an earlier position. -/
def remember (cursor : Cursor) (index : Nat) (since : Cursor) : Cursor :=
  let text := since.after.take (cursor.position - since.position)
  { cursor with groups := (index, text) :: cursor.groups.filter (·.1 != index) }

/-- Moves back by a number of characters. -/
def back (cursor : Cursor) (width : Nat) : Cursor :=
  ⟨cursor.before.drop width, (cursor.before.take width).reverse ++ cursor.after,
    cursor.position - width, cursor.groups⟩

/-- Moves over a remembered text. -/
def over? (folding : Folding) (cursor : Cursor) : List Char → Option Cursor
  | [] => some cursor
  | d :: word =>
    match cursor.after with
    | [] => none
    | c :: rest => if folding.echoes d c then over? folding (cursor.step c rest) word else none

end Cursor

/-- Tests a condition on a position. -/
def Place.holds (place : Place) (cursor : Cursor) : Bool :=
  match place with
  | .start => cursor.before.isEmpty
  | .lineStart => cursor.before.isEmpty || cursor.before.head? == some '\n'
  | .stop => cursor.after.isEmpty
  | .lastStop => cursor.after.isEmpty || cursor.after == ['\n']
  | .lineStop => cursor.after.isEmpty || cursor.after.head? == some '\n'
  | .boundary negated ascii =>
    let wordAt (c : Option Char) : Bool := c.any (CharKind.word.holds ascii)
    if cursor.before.isEmpty && cursor.after.isEmpty then false
    else (wordAt cursor.before.head? != wordAt cursor.after.head?) != negated

/-- What remains to be done at a position. -/
abbrev Rest := Cursor → Option Cursor

/-- The position and, one after the other, those behind each character that passes the
test, up to a number of characters. -/
def stretch (test : CharTest) (room : Option Nat) (cursor : Cursor) : List Char → List Cursor
  | [] => [cursor]
  | c :: after =>
    if room != some 0 && test.accepts c then
      cursor :: stretch test (room.map (· - 1)) (cursor.step c after) after
    else [cursor]

/-- A repetition of a single character: the positions it can end at, tried from the far end,
from the near end, or at the far end alone. -/
def repeatChar (greed : Greed) (least : Nat) (most : Option Nat) (test : CharTest) (rest : Rest)
    (cursor : Cursor) : Option Cursor :=
  let stops := (stretch test most cursor cursor.after).drop least
  match greed with
  | .most => stops.reverse.findSome? rest
  | .fewest => stops.findSome? rest
  | .firm => stops.getLast?.bind rest

/-- What is left to require after a round. A round that changed nothing can stand for all
further ones but as many as the text has room for. -/
def needAfter (need : Nat) (cursor next : Cursor) : Nat :=
  if next.position == cursor.position && next.groups == cursor.groups then
    min (need - 1) (next.after.length + 1)
  else need - 1

/-- The rounds left when `spent` of them are used up. -/
def roomAfter (room : Option Nat) (spent : Nat) : Option Nat := room.map (· - spent)

/-- Rounds of a repetition that prefers more of them. `last` is the position at which the
last round that was not required began. -/
def loopMost (body : Rest → Rest) (rest : Rest) :
    Nat → (need : Nat) → (room : Option Nat) → (last : Option Nat) → Rest
  | 0, _, _, _, _ => none
  | fuel + 1, need, room, last, cursor =>
    if 0 < need then
      body (fun next =>
        let left := needAfter need cursor next
        loopMost body rest fuel left (roomAfter room (need - left)) last next) cursor
    else if room != some 0 && last != some cursor.position then
      match body (loopMost body rest fuel 0 (roomAfter room 1) (some cursor.position)) cursor with
      | some found => some found
      | none => rest cursor
    else rest cursor

/-- Rounds of a repetition that prefers fewer of them. -/
def loopFewest (body : Rest → Rest) (rest : Rest) :
    Nat → (need : Nat) → (room : Option Nat) → (last : Option Nat) → Rest
  | 0, _, _, _, _ => none
  | fuel + 1, need, room, last, cursor =>
    if 0 < need then
      body (fun next =>
        let left := needAfter need cursor next
        loopFewest body rest fuel left (roomAfter room (need - left)) last next) cursor
    else
      match rest cursor with
      | some found => some found
      | none =>
        if room != some 0 && last != some cursor.position then
          body (loopFewest body rest fuel 0 (roomAfter room 1) (some cursor.position)) cursor
        else none

/-- Rounds of a repetition that keeps the first reading of every round. -/
def loopFirm (body : Rest → Rest) :
    Nat → (need : Nat) → (room : Option Nat) → (last : Option Nat) → Rest
  | 0, _, _, _, _ => none
  | fuel + 1, need, room, last, cursor =>
    if 0 < need then
      match body some cursor with
      | some next =>
        let left := needAfter need cursor next
        loopFirm body fuel left (roomAfter room (need - left)) last next
      | none => none
    else if room != some 0 && last != some cursor.position then
      match body some cursor with
      | some next => loopFirm body fuel 0 (roomAfter room 1) (some cursor.position) next
      | none => some cursor
    else some cursor

/-- The rounds that a repetition can make from a position. -/
def loopFuel (least : Nat) (cursor : Cursor) : Nat := least + cursor.after.length + 3

/-- Runs a pattern from a position and then what remains. The result is the first end that
works out. -/
def Pattern.run : Pattern → Rest → Rest
  | .empty, rest, cursor => rest cursor
  | .char test, rest, cursor =>
    match cursor.after with
    | c :: after => if test.accepts c then rest (cursor.step c after) else none
    | [] => none
  | .seq first second, rest, cursor => first.run (second.run rest) cursor
  | .alt first second, rest, cursor =>
    match first.run rest cursor with
    | some found => some found
    | none => second.run rest cursor
  | .group index body, rest, cursor =>
    body.run (fun stop => rest (stop.remember index cursor)) cursor
  | .recall folding index, rest, cursor =>
    match cursor.group? index with
    | some text => (cursor.over? folding text).bind rest
    | none => none
  | .place spot, rest, cursor => if spot.holds cursor then rest cursor else none
  | .ahead negated body, rest, cursor =>
    match body.run some cursor with
    | some found => if negated then none else rest { cursor with groups := found.groups }
    | none => if negated then rest cursor else none
  | .behind negated width body, rest, cursor =>
    if cursor.position < width then
      if negated then rest cursor else none
    else
      match body.run some (cursor.back width) with
      | some found => if negated then none else rest { cursor with groups := found.groups }
      | none => if negated then rest cursor else none
  | .firm body, rest, cursor => (body.run some cursor).bind rest
  | .loop greed least most (.char test), rest, cursor =>
    repeatChar greed least most test rest cursor
  | .loop greed least most body, rest, cursor =>
    match greed with
    | .most => loopMost body.run rest (loopFuel least cursor) least most none cursor
    | .fewest => loopFewest body.run rest (loopFuel least cursor) least most none cursor
    | .firm => (loopFirm body.run (loopFuel least cursor) least most none cursor).bind rest
  | .given index yes no, rest, cursor =>
    if (cursor.group? index).isSome then yes.run rest cursor else no.run rest cursor

namespace Pattern

/-- The first match at or after a position, with the text that is left to search. The
result is where the match begins and where it ends. -/
def searchFrom (pattern : Pattern) (cursor : Cursor) : List Char → Option (Cursor × Cursor)
  | [] => (pattern.run some cursor).map (cursor, ·)
  | c :: rest =>
    match pattern.run some cursor with
    | some stop => some (cursor, stop)
    | none => searchFrom pattern (cursor.step c rest) rest

/-- The end of the first match in a text, with the groups it remembers. -/
def find? (pattern : Pattern) (text : List Char) : Option Cursor :=
  (pattern.searchFrom (.start text) text).map (·.2)

/-- True when the pattern matches somewhere in a text. -/
def matches? (pattern : Pattern) (text : List Char) : Bool := (pattern.find? text).isSome

/-- The ends of the matches that follow each other without overlap, for patterns that
never match the empty text. -/
def findAllFrom (pattern : Pattern) : Nat → Cursor → List Cursor
  | 0, _ => []
  | fuel + 1, cursor =>
    match pattern.searchFrom { cursor with groups := [] } cursor.after with
    | some (_, stop) => stop :: findAllFrom pattern fuel stop
    | none => []

/-- The ends of all matches in a text. -/
def findAll (pattern : Pattern) (text : List Char) : List Cursor :=
  pattern.findAllFrom (text.length + 1) (.start text)

end Pattern

end Rulebook
