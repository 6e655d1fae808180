import CslProcessor.Unicode.Property

/-!
# Quoted text

How a text is shown inside a message: between single quotes, or between double quotes when it
holds a single quote and no double one. The quote in use, the backslash and the three common
controls are escaped by a backslash, and a character without a visible form by its code point.

## Main definitions

* `quoteMark`: The quote a text is shown between.
* `escapeChar`: One character as it is shown.
* `quoted`: The text as it is shown.
-/

namespace CslProcessor

namespace Text

/-- The quote a text is shown between. -/
def quoteMark (cs : List Char) : Char :=
  if cs.contains '\'' && !cs.contains '"' then '"' else '\''

/-- The last `width` hexadecimal digits of a number. -/
def hexDigits (width n : Nat) : List Char :=
  match width with
  | 0 => []
  | k + 1 => hexDigits k (n / 16) ++ [Nat.digitChar (n % 16)]

/-- A character written by its code point, in the shortest form that holds it. -/
def escapeCode (n : Nat) : List Char :=
  if n < 0x100 then ['\\', 'x'] ++ hexDigits 2 n
  else if n < 0x10000 then ['\\', 'u'] ++ hexDigits 4 n
  else ['\\', 'U'] ++ hexDigits 8 n

/-- A character as it is shown between two marks. -/
def escapeChar (mark c : Char) : List Char :=
  if c == mark || c == '\\' then ['\\', c]
  else if c == '\n' then ['\\', 'n']
  else if c == '\r' then ['\\', 'r']
  else if c == '\t' then ['\\', 't']
  else if Unicode.isPrintable c then [c]
  else escapeCode c.toNat

/-- A text as it is shown inside a message. -/
def quoted (s : String) : String :=
  let mark := quoteMark s.toList
  String.ofList (mark :: s.toList.flatMap (escapeChar mark) ++ [mark])

end Text

end CslProcessor
