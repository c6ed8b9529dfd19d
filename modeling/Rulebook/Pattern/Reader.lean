import Rulebook.Decimal.Reader
import Rulebook.Pattern.Basic
import Rulebook.Pattern.Platform
import Rulebook.Text.Identifier

/-!
# Reading patterns

Curators write patterns as text in the usual notation: sets in brackets, groups and
their extensions in parentheses, counts in braces, escapes after a backslash, and flags.
Patterns start out ignoring case.

A text that is no pattern is malformed. Three faults are told apart from that, because
they are not excused as malformed patterns are: a count that is too large or too long to
be a number, a contradiction between the flags for ASCII and for all scripts, and groups
that lie too deep in one another for the stack.

The reader walks over tokens, a token being a character or a backslash with the
character after it. Every call spends fuel, and the calls below one another are at most
a few per token, so the fuel that the entry point grants never runs out.
-/

namespace Rulebook.Pattern

/-- Why a text is not accepted as a pattern. -/
inductive Defect where
  | malformed
  | countTooLarge
  | countTooLong
  | flagsConflict
  | tooDeep
deriving Repr, DecidableEq

/-- A unit of the notation. -/
inductive Token where
  | plain (c : Char)
  | escaped (c : Char)
  /-- A backslash that ends the text. -/
  | dangling
deriving Repr, DecidableEq

/-- Splits a text into tokens. -/
def tokens : List Char → List Token
  | [] => []
  | ['\\'] => [.dangling]
  | '\\' :: c :: rest => .escaped c :: tokens rest
  | c :: rest => .plain c :: tokens rest

/-- Flags of a pattern or of a part of it. -/
structure Flags where
  ignoreCase : Bool := false
  multiline : Bool := false
  dotAll : Bool := false
  verbose : Bool := false
  ascii : Bool := false
  unicode : Bool := false
  template : Bool := false
deriving Repr, DecidableEq

/-- How letters compare under the flags. -/
def Flags.folding (flags : Flags) : Folding :=
  if !flags.ignoreCase then .exact else if flags.ascii then .ascii else .full

/-- Adds the flags of the second argument. -/
def Flags.union (flags more : Flags) : Flags :=
  ⟨flags.ignoreCase || more.ignoreCase, flags.multiline || more.multiline,
    flags.dotAll || more.dotAll, flags.verbose || more.verbose, flags.ascii || more.ascii,
    flags.unicode || more.unicode, flags.template || more.template⟩

/-- The flags inside a group that switches some on and others off. The flags for ASCII
and for all scripts replace each other. -/
def Flags.switch (flags on off : Flags) : Flags :=
  let base : Flags :=
    if on.ascii || on.unicode then { flags with ascii := false, unicode := false } else flags
  let sum := base.union on
  { sum with
    ignoreCase := sum.ignoreCase && !off.ignoreCase
    multiline := sum.multiline && !off.multiline
    dotAll := sum.dotAll && !off.dotAll
    verbose := sum.verbose && !off.verbose }

/-- True when some flag is set in both. -/
def Flags.meets (flags other : Flags) : Bool :=
  (flags.ignoreCase && other.ignoreCase) || (flags.multiline && other.multiline)
    || (flags.dotAll && other.dotAll) || (flags.verbose && other.verbose)

/-- What a piece of a sequence is, as far as a count after it cares. -/
inductive Role where
  | ordinary
  | place
  | counted
deriving Repr, DecidableEq

/-- A piece of a sequence with the least and largest number of characters it takes. -/
structure Piece where
  pattern : Pattern
  role : Role
  least : Nat
  most : Nat

/-- The reader's state: the calls that there is still room for, the tokens ahead, the flags
of the whole pattern, the groups by name, the widths of the groups that are closed (by
number, from one), the number of groups when the outermost look-behind began, the groups
that conditions mention, and whether a part was met that only the finished pattern is
judged by. The platform is there to be asked and never changes. -/
structure Draft where
  platform : Platform
  room : Nat
  ahead : List Token
  flags : Flags
  names : List (String × Nat)
  widths : List (Option (Nat × Nat))
  behindFrom : Option Nat
  mentioned : List Nat
  spoiled : Bool

/-- Reading steps. -/
abbrev Step := StateT Draft (Except Defect)

/-- Rejects the text. -/
def malformed {α : Type} : Step α := throw .malformed

/-- Stands for an unbounded width. -/
def boundless : Nat := Decimal.twoTo 64

/-- Counts start to be too large here. -/
def countLimit : Nat := 4294967295

/-- Reads a part of a pattern by calls within the ones under way. What is in parentheses
takes two calls, a branch of a condition one. -/
def within {α : Type} (calls : Nat) (part : Step α) : Step α := do
  let draft ← get
  if draft.room < calls then throw .tooDeep
  else
    set { draft with room := draft.room - calls }
    let given ← part
    modify fun draft => { draft with room := draft.room + calls }
    return given

/-- The token ahead. -/
def peek : Step (Option Token) := return (← get).ahead.head?

/-- Takes the token ahead. A backslash at the end is noticed as soon as it comes up. -/
def take : Step (Option Token) := do
  let draft ← get
  match draft.ahead with
  | [] => return none
  | token :: rest =>
    if rest.head? == some .dangling then malformed
    else
      set { draft with ahead := rest }
      return some token

/-- Takes a character if it is ahead. -/
def accept (c : Char) : Step Bool := do
  if (← peek) == some (.plain c) then
    let _ ← take
    return true
  else return false

/-- Takes a character that has to be ahead. -/
def demand (c : Char) : Step Unit := do
  if !(← accept c) then malformed

/-- Takes up to `count` characters that pass the test. -/
def takeSome (passes : Char → Bool) : Nat → Step (List Char)
  | 0 => return []
  | count + 1 => do
    match ← peek with
    | some (.plain c) =>
      if passes c then
        let _ ← take
        return c :: (← takeSome passes count)
      else return []
    | _ => return []

/-- The characters of a token. -/
def Token.chars : Token → List Char
  | .plain c => [c]
  | .escaped c => ['\\', c]
  | .dangling => ['\\']

/-- Takes a name up to its terminator, which is taken too. -/
def takeName (terminator : Char) : Nat → Step (List Char)
  | 0 => malformed
  | fuel + 1 => do
    match ← take with
    | none => malformed
    | some token =>
      if token == .plain terminator then return []
      else return token.chars ++ (← takeName terminator fuel)

/-- Takes a name that must not be empty. -/
def name (terminator : Char) : Step (List Char) := do
  let cs ← takeName terminator ((← get).ahead.length + 1)
  if cs.isEmpty then malformed else return cs

/-- True of octal digits. -/
def isOctal (c : Char) : Bool := '0' ≤ c && c ≤ '7'

/-- The value of a hexadecimal digit. -/
def hexValue (c : Char) : Nat :=
  if c.isDigit then c.toNat - 48 else (c.toLower).toNat - 87

/-- True of hexadecimal digits. -/
def isHex (c : Char) : Bool := c.isDigit || ('a' ≤ c.toLower && c.toLower ≤ 'f')

/-- The value of a run of digits in a base. -/
def valueIn (base : Nat) (cs : List Char) : Nat :=
  cs.foldl (fun value c => base * value + hexValue c) 0

/-- Takes exactly `width` hexadecimal digits. -/
def hexPoint (width : Nat) : Step Nat := do
  let digits ← takeSome isHex width
  let point := valueIn 16 digits
  if digits.length == width && point ≤ 0x10ffff then return point else malformed

/-- The control character that an escape letter stands for. -/
def controlEscape? : Char → Option Nat
  | 'a' => some 7
  | 'b' => some 8
  | 'f' => some 12
  | 'n' => some 10
  | 'r' => some 13
  | 't' => some 9
  | 'v' => some 11
  | '\\' => some 92
  | _ => none

/-- The class that an escape letter stands for, and whether it is negated. -/
def classEscape? : Char → Option (CharKind × Bool)
  | 'd' => some (.digit, false)
  | 'D' => some (.digit, true)
  | 's' => some (.blank, false)
  | 'S' => some (.blank, true)
  | 'w' => some (.word, false)
  | 'W' => some (.word, true)
  | _ => none

/-- Takes the name of a character between braces. -/
def namedPoint : Step Nat := do
  demand '\x7b'
  let named ← name '\x7d'
  match (← get).platform.named? named with
  | some c => return c.toNat
  | none => malformed

/-- The code point of an escape that spells it by number or name, if the letter begins
one. -/
def spelledEscape (c : Char) : Step (Option Nat) := do
  match c with
  | 'N' => return some (← namedPoint)
  | 'x' => return some (← hexPoint 2)
  | 'u' => return some (← hexPoint 4)
  | 'U' => return some (← hexPoint 8)
  | _ => return none

/-- An ASCII letter without a meaning of its own cannot be escaped. -/
def selfEscape (c : Char) : Step Nat :=
  if c.isAlpha then malformed else return c.toNat

/-- Tests one code point. Half of a surrogate pair is no character, so it never matches. -/
def pointTest (folding : Folding) (negated : Bool) (point : Nat) : CharTest :=
  if 0xd800 ≤ point && point < 0xe000 then .set folding negated []
  else .letter folding negated (Char.ofNat point)

/-- One code point as a piece. -/
def pointPiece (flags : Flags) (point : Nat) : Piece :=
  ⟨.char (pointTest flags.folding false point), .ordinary, 1, 1⟩

/-- One character of a class as a piece. -/
def classPiece (flags : Flags) (kind : CharKind) (negated : Bool) : Piece :=
  ⟨.char (.set flags.folding false [.ofKind kind negated flags.ascii]), .ordinary, 1, 1⟩

/-- A condition on the position as a piece. -/
def placePiece (place : Place) : Piece := ⟨.place place, .place, 0, 0⟩

/-- The width of a closed group. -/
def groupWidth? (draft : Draft) (index : Nat) : Option (Nat × Nat) :=
  if index == 0 then none else (draft.widths.getD (index - 1) none)

/-- Inside a look-behind only groups closed before it may be referred to. -/
def checkBehind (index : Nat) : Step Unit := do
  let draft ← get
  match draft.behindFrom with
  | none => return ()
  | some first =>
    if (groupWidth? draft index).isNone || first ≤ index then malformed

/-- A reference to a group, which must be closed. -/
def recallPiece (flags : Flags) (index : Nat) : Step Piece := do
  match groupWidth? (← get) index with
  | none => malformed
  | some (least, most) =>
    checkBehind index
    return ⟨.recall flags.folding index, .ordinary, least, most⟩

/-- An escape that begins with a digit other than zero: three octal digits spell a code
point, anything else refers to a group. -/
def digitEscape (flags : Flags) (first : Char) : Step Piece := do
  match ← peek with
  | some (.plain second) =>
    if second.isDigit then
      let _ ← take
      match ← peek with
      | some (.plain third) =>
        if isOctal first && isOctal second && isOctal third then
          let _ ← take
          let point := valueIn 8 [first, second, third]
          if 0o377 < point then malformed else return pointPiece flags point
        else recallPiece flags (valueIn 10 [first, second])
      | _ => recallPiece flags (valueIn 10 [first, second])
    else recallPiece flags (valueIn 10 [first])
  | _ => recallPiece flags (valueIn 10 [first])

/-- An escape outside a set. -/
def escapePiece (flags : Flags) (c : Char) : Step Piece := do
  if c == 'A' then return placePiece .start
  else if c == 'Z' then return placePiece .stop
  else if c == 'b' then return placePiece (.boundary false flags.ascii)
  else if c == 'B' then return placePiece (.boundary true flags.ascii)
  else
    match classEscape? c, controlEscape? c with
    | some (kind, negated), _ => return classPiece flags kind negated
    | none, some point => return pointPiece flags point
    | none, none =>
      match ← spelledEscape c with
      | some point => return pointPiece flags point
      | none =>
        if c == '0' then
          let digits ← takeSome isOctal 2
          return pointPiece flags (valueIn 8 digits)
        else if c.isDigit then digitEscape flags c
        else return pointPiece flags (← selfEscape c)

/-- A member of a set before it is known whether a range follows. -/
inductive Member where
  | point (value : Nat)
  | kind (kind : CharKind) (negated : Bool)
deriving Repr, DecidableEq

/-- An escape inside a set. -/
def escapeMember (c : Char) : Step Member := do
  match controlEscape? c, classEscape? c with
  | some point, _ => return .point point
  | none, some (kind, negated) => return .kind kind negated
  | none, none =>
    match ← spelledEscape c with
    | some point => return .point point
    | none =>
      if isOctal c then
        let digits ← takeSome isOctal 2
        let point := valueIn 8 (c :: digits)
        if 0o377 < point then malformed else return .point point
      else if c.isDigit then malformed
      else return .point (← selfEscape c)

/-- A member of a set from its first token. -/
def member (token : Token) : Step Member :=
  match token with
  | .plain c => return .point c.toNat
  | .escaped c => escapeMember c
  | .dangling => malformed

/-- A finished member as the set holds it. Ranges lose the surrogates at their ends. -/
inductive Entry where
  | point (value : Nat)
  | range (low high : Nat)
  | kind (kind : CharKind) (negated : Bool)
deriving Repr, DecidableEq

/-- A member on its own. -/
def Member.entry : Member → Entry
  | .point value => .point value
  | .kind which negated => .kind which negated

/-- The test of an entry, if any character passes it. -/
def Entry.item? (ascii : Bool) : Entry → Option SetItem
  | .point value =>
    if 0xd800 ≤ value && value < 0xe000 then none else some (.one (Char.ofNat value))
  | .range low high =>
    let low := if 0xd800 ≤ low && low < 0xe000 then 0xe000 else low
    let high := if 0xd800 ≤ high && high < 0xe000 then 0xd7ff else high
    if high < low then none else some (.range (Char.ofNat low) (Char.ofNat high))
  | .kind which negated => some (.ofKind which negated ascii)

/-- Reads the entries of a set up to its closing bracket. A bracket that comes first is an
entry, and so is a hyphen that comes last. -/
def setEntries : Nat → List Entry → Step (List Entry)
  | 0, _ => malformed
  | fuel + 1, taken => do
    match ← take with
    | none => malformed
    | some token =>
      if token == .plain ']' && !taken.isEmpty then return taken.reverse
      else
        let first ← member token
        if ← accept '-' then
          match ← take with
          | none => malformed
          | some token =>
            if token == .plain ']' then
              return (Entry.point '-'.toNat :: first.entry :: taken).reverse
            else
              match first, ← member token with
              | .point low, .point high =>
                if high < low then malformed else setEntries fuel (.range low high :: taken)
              | _, _ => malformed
        else setEntries fuel (first.entry :: taken)

/-- Reads a set after its opening bracket. A single character is tested as a letter. -/
def setPiece (flags : Flags) : Step Piece := do
  let negated ← accept '^'
  let entries ← setEntries ((← get).ahead.length + 1) []
  let test :=
    match entries.eraseDups with
    | [.point value] => pointTest flags.folding negated value
    | distinct => .set flags.folding negated (distinct.filterMap (·.item? flags.ascii))
  return ⟨.char test, .ordinary, 1, 1⟩

/-- Takes a run of ASCII digits. -/
def digitsAhead : Step (List Char) := do
  takeSome Char.isDigit ((← get).ahead.length + 1)

/-- The number that a run of digits spells; nothing for no digits. -/
def countOf (digits : List Char) : Step (Option Nat) := do
  if digits.isEmpty then return none
  else if Decimal.digitLimit < digits.length then throw .countTooLong
  else
    let count := valueIn 10 digits
    if countLimit ≤ count then throw .countTooLarge else return some count

/-- Reads the bounds in braces after the opening one. Nothing, and nothing taken, when the
braces hold no bounds; then the brace stands for itself. -/
def bounds : Step (Option (Nat × Option Nat)) := do
  let origin ← get
  if (← peek) == some (.plain '\x7d') then return none
  else
    let low ← digitsAhead
    let high ← if ← accept ',' then digitsAhead else pure low
    if !(← accept '\x7d') then
      set origin
      return none
    else
      let least ← countOf low
      let most ← countOf high
      match most with
      | some most =>
        if most < least.getD 0 then malformed else return some (least.getD 0, some most)
      | none => return some (least.getD 0, none)

/-- Reads the mark after a count that says which count is tried first. -/
def greedMark : Step Greed := do
  match ← peek with
  | some (.plain '?') =>
    let _ ← take
    return .fewest
  | some (.plain '+') =>
    let _ ← take
    return .firm
  | _ => return .most

/-- Applies a count to the last of the pieces, which are held in reverse. -/
def applyCount (flags : Flags) (least : Nat) (most : Option Nat) (pieces : List Piece) :
    Step (List Piece) := do
  match pieces with
  | [] => malformed
  | piece :: rest =>
    if piece.role != .ordinary then malformed
    else
      let greed ← greedMark
      if flags.template then modify fun draft => { draft with spoiled := true }
      let width :=
        match most with
        | some most => piece.most * most
        | none => if piece.most == 0 then 0 else boundless
      return ⟨.loop greed least most piece.pattern, .counted, piece.least * least, width⟩ :: rest

/-- The flag of a letter. -/
def flagOf? : Char → Option Flags
  | 'i' => some { ignoreCase := true }
  | 'm' => some { multiline := true }
  | 's' => some { dotAll := true }
  | 'x' => some { verbose := true }
  | 'a' => some { ascii := true }
  | 't' => some { template := true }
  | 'u' => some { unicode := true }
  | _ => none

/-- The flags that a group construct switches. -/
inductive Switch where
  /-- Flags of the whole pattern. -/
  | whole (on : Flags)
  /-- Flags switched on and off inside the group that follows. -/
  | inside (on off : Flags)

/-- Reads the flags switched on, from the first letter to the character that ends them. -/
def flagsOn : Nat → Flags → Char → Step (Flags × Char)
  | 0, _, _ => malformed
  | fuel + 1, sum, c => do
    match flagOf? c with
    | none => malformed
    | some flag =>
      let sum := sum.union flag
      if sum.ascii && sum.unicode then malformed
      else
        match ← take with
        | some (.plain next) =>
          if next == ')' || next == '-' || next == ':' then return (sum, next)
          else flagsOn fuel sum next
        | _ => malformed

/-- Reads the flags switched off, from the first letter to the colon. -/
def flagsOff : Nat → Flags → Char → Step Flags
  | 0, _, _ => malformed
  | fuel + 1, sum, c => do
    match flagOf? c with
    | none => malformed
    | some flag =>
      if flag.ascii || flag.unicode then malformed
      else
        let sum := sum.union flag
        match ← take with
        | some (.plain next) => if next == ':' then return sum else flagsOff fuel sum next
        | _ => malformed

/-- Reads a switch of flags from its first character. -/
def switch (c : Char) : Step Switch := do
  let fuel := (← get).ahead.length + 2
  let (on, last) ← if c == '-' then pure (({} : Flags), '-') else flagsOn fuel {} c
  if last == ')' then return .whole on
  else if on.template then malformed
  else
    let off ←
      if last == '-' then
        match ← take with
        | some (.plain first) => flagsOff fuel {} first
        | _ => malformed
      else pure {}
    if off.template || on.meets off then malformed else return .inside on off

/-- A sequence of pieces, held in reverse, as one piece. -/
def sequencePiece (pieces : List Piece) : Piece :=
  let ordered := pieces.reverse
  ⟨all (ordered.map (·.pattern)), .ordinary, total (ordered.map (·.least)),
    total (ordered.map (·.most))⟩
where
  total (counts : List Nat) : Nat := counts.foldl (· + ·) 0

/-- The entries of a branch that tests a single character under the given comparison. -/
def setItems? (folding : Folding) : Pattern → Option (List SetItem)
  | .char (.letter own false c) => if own == folding then some [.one c] else none
  | .char (.set own false items) => if own == folding then some items else none
  | _ => none

/-- A choice of branches. When all of them test a single character they form one set. -/
def choice (folding : Folding) (branches : List Pattern) : Pattern :=
  match branches.mapM (setItems? folding) with
  | some items => .char (.set folding false items.flatten)
  | none => oneOf branches

/-- A choice of branches as one piece; a single branch stays as it is. -/
def choicePiece (flags : Flags) (branches : List Piece) : Piece :=
  match branches with
  | [] => ⟨.empty, .ordinary, 0, 0⟩
  | [branch] => branch
  | first :: rest =>
    ⟨choice flags.folding (branches.map (·.pattern)), .ordinary,
      rest.foldl (fun least branch => min least branch.least) first.least,
      rest.foldl (fun most branch => max most branch.most) first.most⟩

/-- Opens a group and gives its number. -/
def openGroup (name : Option (List Char)) : Step Nat := do
  let draft ← get
  let index := draft.widths.length + 1
  let names ←
    match name with
    | none => pure draft.names
    | some cs =>
      if draft.names.any (·.1 == String.ofList cs) then malformed
      else pure ((String.ofList cs, index) :: draft.names)
  set { draft with names, widths := draft.widths ++ [none] }
  return index

/-- Closes a group with the width of its body. -/
def closeGroup (index : Nat) (body : Piece) : Step Unit :=
  modify fun draft =>
    { draft with widths := draft.widths.set (index - 1) (some (body.least, body.most)) }

/-- The group that a name in a condition or reference stands for. -/
def namedGroup (cs : List Char) : Step Nat := do
  match (← get).names.find? (·.1 == String.ofList cs) with
  | some (_, index) => return index
  | none => malformed

/-- The group of a condition, by name or by number. -/
def conditionGroup (cs : List Char) : Step Nat := do
  if Text.isIdentifier cs then namedGroup cs
  else
    match Decimal.readInt? (String.ofList cs) with
    | some index =>
      if index ≤ 0 || 1073741823 ≤ index then malformed
      else
        modify fun draft => { draft with mentioned := index.toNat :: draft.mentioned }
        return index.toNat
    | none => malformed

/-- Drops a comment up to its closing parenthesis. -/
def dropComment : Nat → Step Unit
  | 0 => malformed
  | fuel + 1 => do
    match ← take with
    | none => malformed
    | some token => if token == .plain ')' then return () else dropComment fuel

/-- Drops a verbose comment up to the end of its line. -/
def dropLine : Nat → Step Unit
  | 0 => return ()
  | fuel + 1 => do
    match ← take with
    | none => return ()
    | some token => if token == .plain '\n' then return () else dropLine fuel

/-- What a construct in parentheses contributes to a sequence. -/
inductive Contribution where
  | piece (piece : Piece)
  /-- Nothing, as a comment. -/
  | nothing
  /-- Flags of the whole pattern. -/
  | flags (on : Flags)

/-- White space that a verbose pattern ignores. -/
def isFiller (c : Char) : Bool := c == ' ' || (9 ≤ c.toNat && c.toNat ≤ 13)

mutual

/-- Reads branches up to the end of a group or of the text. At the top level later
branches see flags that the first one set for the whole pattern. -/
def branches : Nat → (top : Bool) → (taken : List Piece) → Flags → Step Piece
  | 0, _, _, _ => malformed
  | fuel + 1, top, taken, flags => do
    let branch ← sequence fuel (top && taken.isEmpty) [] flags
    if ← accept '|' then
      let draft ← get
      branches fuel top (branch :: taken) (if top then draft.flags else flags)
    else return choicePiece flags (branch :: taken).reverse

/-- Reads pieces up to a bar, the end of a group or the end of the text. `first` is set
where flags of the whole pattern may still stand. -/
def sequence : Nat → (first : Bool) → (pieces : List Piece) → Flags → Step Piece
  | 0, _, _, _ => malformed
  | fuel + 1, first, pieces, flags => do
    let ahead ← peek
    if ahead == none || ahead == some (.plain '|') || ahead == some (.plain ')') then
      return sequencePiece pieces
    else
      match ← take with
      | none => malformed
      | some .dangling => malformed
      | some (.escaped c) =>
        let piece ← escapePiece flags c
        sequence fuel first (piece :: pieces) flags
      | some (.plain c) =>
        if flags.verbose && isFiller c then sequence fuel first pieces flags
        else if flags.verbose && c == '#' then
          dropLine ((← get).ahead.length + 1)
          sequence fuel first pieces flags
        else if c == '[' then
          let piece ← setPiece flags
          sequence fuel first (piece :: pieces) flags
        else if c == '*' then
          sequence fuel first (← applyCount flags 0 none pieces) flags
        else if c == '+' then
          sequence fuel first (← applyCount flags 1 none pieces) flags
        else if c == '?' then
          sequence fuel first (← applyCount flags 0 (some 1) pieces) flags
        else if c == '\x7b' then
          match ← bounds with
          | none => sequence fuel first (pointPiece flags c.toNat :: pieces) flags
          | some (least, most) =>
            sequence fuel first (← applyCount flags least most pieces) flags
        else if c == '.' then
          let test := if flags.dotAll then CharTest.any else CharTest.inLine
          sequence fuel first (⟨.char test, .ordinary, 1, 1⟩ :: pieces) flags
        else if c == '^' then
          let place := if flags.multiline then Place.lineStart else Place.start
          sequence fuel first (placePiece place :: pieces) flags
        else if c == '$' then
          let place := if flags.multiline then Place.lineStop else Place.lastStop
          sequence fuel first (placePiece place :: pieces) flags
        else if c == '(' then
          match ← parenthesis fuel flags with
          | .piece piece => sequence fuel first (piece :: pieces) flags
          | .nothing => sequence fuel first pieces flags
          | .flags on =>
            if first && pieces.isEmpty then
              modify fun draft => { draft with flags := draft.flags.union on }
              sequence fuel first pieces (← get).flags
            else malformed
        else sequence fuel first (pointPiece flags c.toNat :: pieces) flags

/-- Reads what follows an opening parenthesis. -/
def parenthesis : Nat → Flags → Step Contribution
  | 0, _ => malformed
  | fuel + 1, flags => do
    if !(← accept '?') then return .piece (← captured fuel none flags)
    else
      match ← take with
      | some (.plain ':') => return .piece (← enclosed fuel flags)
      | some (.plain '>') =>
        let body ← enclosed fuel flags
        return .piece { body with pattern := .firm body.pattern }
      | some (.plain '#') =>
        dropComment ((← get).ahead.length + 1)
        return .nothing
      | some (.plain '=') =>
        let body ← enclosed fuel flags
        return .piece ⟨.ahead false body.pattern, .ordinary, 0, 0⟩
      | some (.plain '!') =>
        let body ← enclosed fuel flags
        return .piece ⟨.ahead true body.pattern, .ordinary, 0, 0⟩
      | some (.plain '<') =>
        match ← take with
        | some (.plain '=') => return .piece (← lookBehind fuel false flags)
        | some (.plain '!') => return .piece (← lookBehind fuel true flags)
        | _ => malformed
      | some (.plain 'P') =>
        match ← take with
        | some (.plain '<') =>
          let cs ← name '>'
          if Text.isIdentifier cs then return .piece (← captured fuel (some cs) flags)
          else malformed
        | some (.plain '=') =>
          let cs ← name ')'
          if Text.isIdentifier cs then return .piece (← recallPiece flags (← namedGroup cs))
          else malformed
        | _ => malformed
      | some (.plain '(') =>
        let index ← conditionGroup (← name ')')
        checkBehind index
        return .piece (← conditional fuel index flags)
      | some (.plain c) =>
        if c == '-' || (flagOf? c).isSome then
          match ← switch c with
          | .whole on => return .flags on
          | .inside on off =>
            -- Such a group never joins the set that a choice of single characters forms.
            let body ← enclosed fuel (flags.switch on off)
            return .piece { body with pattern := .seq .empty body.pattern }
        else malformed
      | _ => malformed

/-- Reads branches up to the closing parenthesis. -/
def enclosed : Nat → Flags → Step Piece
  | 0, _ => malformed
  | fuel + 1, flags => do
    let body ← within 2 (branches fuel false [] flags)
    demand ')'
    return body

/-- Reads a group that remembers its text. -/
def captured : Nat → Option (List Char) → Flags → Step Piece
  | 0, _, _ => malformed
  | fuel + 1, name, flags => do
    let index ← openGroup name
    let body ← enclosed fuel flags
    closeGroup index body
    return { body with pattern := .group index body.pattern }

/-- Reads a look-behind. Its body must have one width; that is judged at the end. -/
def lookBehind : Nat → Bool → Flags → Step Piece
  | 0, _, _ => malformed
  | fuel + 1, negated, flags => do
    let outer := (← get).behindFrom
    modify fun draft =>
      { draft with behindFrom := some (outer.getD (draft.widths.length + 1)) }
    let body ← within 2 (branches fuel false [] flags)
    modify fun draft => { draft with behindFrom := outer }
    demand ')'
    if body.least != body.most || countLimit < body.least then
      modify fun draft => { draft with spoiled := true }
    return ⟨.behind negated body.least body.pattern, .ordinary, 0, 0⟩

/-- Reads the one or two branches of a condition. -/
def conditional : Nat → Nat → Flags → Step Piece
  | 0, _, _ => malformed
  | fuel + 1, index, flags => do
    let yes ← within 1 (sequence fuel false [] flags)
    if ← accept '|' then
      let no ← within 1 (sequence fuel false [] flags)
      if (← peek) == some (.plain '|') then malformed
      else
        demand ')'
        return ⟨.given index yes.pattern no.pattern, .ordinary, min yes.least no.least,
          max yes.most no.most⟩
    else
      demand ')'
      return ⟨.given index yes.pattern .empty, .ordinary, 0, yes.most⟩

end

/-- Reads a whole text. -/
def wholeText : Step Pattern := do
  let draft ← get
  if draft.ahead.head? == some .dangling then malformed
  else
    let body ← branches (8 * draft.ahead.length + 16) true [] draft.flags
    let draft ← get
    if draft.flags.ascii && draft.flags.unicode then throw .flagsConflict
    else if !draft.ahead.isEmpty then malformed
    else if draft.mentioned.any (draft.widths.length < ·) then malformed
    else if draft.spoiled then malformed
    else return body.pattern

/-- The draft that the reading of a text begins with. Case is ignored unless the flags of the
text say otherwise. -/
def Draft.start (platform : Platform) (s : String) : Draft :=
  ⟨platform, platform.room s, tokens s.toList, { ignoreCase := true }, [], [], none, [], false⟩

/-- Reads a pattern. -/
def read (platform : Platform) (s : String) : Except Defect Pattern :=
  (wholeText.run (.start platform s)).map (·.1)

end Rulebook.Pattern
