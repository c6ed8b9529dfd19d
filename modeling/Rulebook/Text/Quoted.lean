import Rulebook.Text.Printable

/-!
# Quoted text

A quoted text stands between single quotes, or between double quotes when it holds a
single quote and no double quote. Backslashes, the chosen quote, line controls and
unprintable characters are written as escapes; everything else is shown as it is.
-/

namespace Rulebook.Text

/-- One lower-case hexadecimal digit. -/
def hexDigit (value : Nat) : Char :=
  if value < 10 then Char.ofNat (48 + value) else Char.ofNat (87 + value)

/-- The last `width` hexadecimal digits of a number. -/
def hexDigits : Nat → Nat → List Char
  | 0, _ => []
  | width + 1, value => hexDigits width (value / 16) ++ [hexDigit (value % 16)]

/-- The quote that needs the fewest escapes; a tie goes to the single quote. -/
def chooseQuote (cs : List Char) : Char :=
  if cs.contains '\'' && !cs.contains '"' then '"' else '\''

/-- How one character is written inside the given quotes. -/
def quoteChar (quote c : Char) : List Char :=
  if c == quote || c == '\\' then ['\\', c]
  else if c == '\n' then ['\\', 'n']
  else if c == '\r' then ['\\', 'r']
  else if c == '\t' then ['\\', 't']
  else if isPrintable c then [c]
  else if c.toNat < 0x100 then '\\' :: 'x' :: hexDigits 2 c.toNat
  else if c.toNat < 0x10000 then '\\' :: 'u' :: hexDigits 4 c.toNat
  else '\\' :: 'U' :: hexDigits 8 c.toNat

/-- The quoted form of a string. -/
def quoted (s : String) : String :=
  let quote := chooseQuote s.toList
  String.ofList (quote :: s.toList.flatMap (quoteChar quote) ++ [quote])

end Rulebook.Text
