import CslProcessor.Text.Basic

/-!
# Written integers

An integer may have white space around it and a sign in front. Its digits are decimal digits of
any script, and a single underscore may stand between two of them.

## Main definitions

* `underscored?`: The number that digits with underscores write.
* `integer?`: The integer that a text writes.
-/

namespace CslProcessor

namespace Text

/-- Whether a character may stand around an integer: beyond ASCII any white space may, within it
    the blank and the controls from the tab to the carriage return. -/
def isMargin (c : Char) : Bool :=
  if c.toNat < 128 then c == ' ' || (9 ≤ c.toNat && c.toNat ≤ 13) else Unicode.isSpace c

/-- The number that digits write, with single underscores between them allowed. -/
def underscored? (cs : List Char) : Option Nat :=
  let groups := cs.splitOnP (· == '_')
  if groups.any (·.isEmpty) then none else decimal? groups.flatten

/-- The integer that a text writes. -/
def integer? (s : String) : Option Int :=
  let cs := ((s.toList.dropWhile isMargin).reverse.dropWhile isMargin).reverse
  match cs with
  | '-' :: digits => (underscored? digits).map fun n => -(n : Int)
  | '+' :: digits => (underscored? digits).map fun n => (n : Int)
  | digits => (underscored? digits).map fun n => (n : Int)

end Text

end CslProcessor
