/-!
# White space and lines

White space covers the ASCII blanks, the four information separators, the next-line
control and the Unicode space separators. A subset of it ends a line; a carriage
return with a line feed after it is one line end.
-/

namespace Rulebook.Text

/-- White space of every script. -/
def isBlank (c : Char) : Bool :=
  let point := c.toNat
  if point < 128 then (9 ≤ point && point ≤ 13) || (28 ≤ point && point ≤ 32)
  else point == 0x85 || point == 0xa0 || point == 0x1680 || (0x2000 ≤ point && point ≤ 0x200a)
    || point == 0x2028 || point == 0x2029 || point == 0x202f || point == 0x205f || point == 0x3000

/-- Drops white space at the front. -/
def trimStart (cs : List Char) : List Char := cs.dropWhile isBlank

/-- Drops white space at the end. -/
def trimEnd (cs : List Char) : List Char := (cs.reverse.dropWhile isBlank).reverse

/-- Drops white space at both ends. -/
def trim (cs : List Char) : List Char := trimEnd (trimStart cs)

/-- The string without white space at its ends. -/
def trimmed (s : String) : String := String.ofList (trim s.toList)

/-- White space as it may surround a number: all but the information separators. -/
def isPadding (c : Char) : Bool := isBlank c && !(28 ≤ c.toNat && c.toNat ≤ 31)

/-- Drops the white space around a number. -/
def trimPadding (cs : List Char) : List Char :=
  ((cs.dropWhile isPadding).reverse.dropWhile isPadding).reverse

/-- Characters that end a line. -/
def endsLine (c : Char) : Bool :=
  let point := c.toNat
  (10 ≤ point && point ≤ 13) || (28 ≤ point && point ≤ 30) || point == 0x85
    || point == 0x2028 || point == 0x2029

/-- Splits into lines, given the reversed part of the current line already read. A
line end at the very end of the text opens no further line. -/
def linesFrom (current : List Char) : List Char → List (List Char)
  | [] => if current.isEmpty then [] else [current.reverse]
  | '\r' :: '\n' :: rest => current.reverse :: linesFrom [] rest
  | c :: rest =>
    if endsLine c then current.reverse :: linesFrom [] rest else linesFrom (c :: current) rest

/-- The lines of a text without their ends. -/
def lines (cs : List Char) : List (List Char) := linesFrom [] cs

end Rulebook.Text
