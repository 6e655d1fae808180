import CslProcessor.Text.Basic

/-!
# Numbers as they are written

The value of a number variable, such as a volume or an edition, is kept as it was written: it may
be an integer, an integer with letters around it, a range, a list, or any other text. The
questions a style asks of it are answered from its text.

A value is read as an integer when it consists of digits. Some digits, such as `²`, have no place
value; a value made of digits one of which is such a sign is neither an integer nor other text,
and reading it as an integer fails.

## Main definitions

* `NumberText`: A number as it is written.
* `NumberText.integer`: The integer it writes, if it writes one.
* `NumberText.affixed?`: The integer between other characters, as in `A12` or `2nd`.
* `NumberText.isNumeric`: Whether it is a number, a range or a list of numbers.
* `NumberText.isPlural`: Whether it is a range or a list.

## Theorems

* `decimal?_isSome_iff`: Decimal digits, and nothing else, write a number.
-/

namespace CslProcessor

/-- The value of a number variable, as it was written. -/
structure NumberText where
  /-- The text. -/
  raw : String
  deriving Repr, DecidableEq, Inhabited

/-- A text made of digits one of which has no place value. -/
structure NotDecimal where
  /-- The text. -/
  text : String
  deriving Repr, DecidableEq

namespace NumberText

open Unicode

/-- The text of an integer. -/
def ofInt (n : Int) : NumberText :=
  ⟨toString n⟩

/-- The text without the white space around it. -/
def core (v : NumberText) : List Char :=
  Text.trim v.raw.toList

/-- The integer a value writes, or nothing if it has a character that is no digit. -/
def integer (v : NumberText) : Except NotDecimal (Option Nat) :=
  if v.core.isEmpty || !v.core.all isDigit then .ok none
  else match Text.decimal? v.core with
    | some n => .ok (some n)
    | none => .error ⟨String.ofList v.core⟩

/-- Whether a character may stand beside the integer of a value such as `A12`. -/
def isAffix (c : Char) : Bool :=
  !isDecimal c && !isSpace c

/-- The one integer within a value, with the characters before and behind it. -/
def affixed? (v : NumberText) : Option (String × Nat × String) :=
  let lead := v.core.takeWhile isAffix
  let rest := v.core.dropWhile isAffix
  let digits := rest.takeWhile isDecimal
  let trail := rest.dropWhile isDecimal
  if digits.isEmpty || !trail.all isAffix then none
  else (Text.decimal? digits).map fun n => (String.ofList lead, n, String.ofList trail)

/-- Whether a character separates the members of a range or of a list. -/
def isSeparator (c : Char) : Bool :=
  c == '-' || c == '–' || c == '—' || c == '&' || c == ','

/-- Whether a text is digits with letters of the Latin alphabet before and behind them. -/
def isLettered (cs : List Char) : Bool :=
  let rest := cs.dropWhile Char.isAlpha
  !(rest.takeWhile isDecimal).isEmpty && (rest.dropWhile isDecimal).all Char.isAlpha

/-- Whether every member of the range or list that a value writes is a number, perhaps with
    letters. -/
def isNumeric (v : NumberText) : Bool :=
  (v.raw.toList.splitOnP isSeparator).all fun piece => isLettered (Text.trim piece)

/-- What stands behind a separator or the word `and` at the front of a text. -/
def afterJoint? : List Char → Option (List Char)
  | 'a' :: 'n' :: 'd' :: rest => some rest
  | c :: rest => if isSeparator c then some rest else none
  | [] => none

/-- Whether a text goes on, after white space, with a joint and some other text. -/
def continues (cs : List Char) : Bool :=
  match afterJoint? (Text.trimStart cs) with
  | some rest => rest.any (!isSpace ·)
  | none => false

/-- Whether some digit of a text is followed by a joint and some other text. -/
def hasJoint : List Char → Bool
  | [] => false
  | c :: rest => (isDecimal c && continues rest) || hasJoint rest

/-- Whether a value is a range or a list. -/
def isPlural (v : NumberText) : Bool :=
  hasJoint v.raw.toList

/-- Whether a value has no text but white space. -/
def isBlank (v : NumberText) : Bool :=
  v.core.isEmpty

end NumberText

namespace Text

/-- Reading on from a number read so far succeeds exactly on decimal digits. -/
theorem isSome_foldl_digit (cs : List Char) (n : Option Nat) :
    (cs.foldl (fun n c => do return 10 * (← n) + (← Unicode.decimalValue? c)) n).isSome
      = (n.isSome && cs.all Unicode.isDecimal) := by
  induction cs generalizing n with
  | nil => simp
  | cons c cs ih =>
    rw [List.foldl_cons, ih, List.all_cons, ← Unicode.decimalValue?_isSome c]
    cases n <;> cases Unicode.decimalValue? c <;> simp

/-- Decimal digits, and nothing else, write a number. -/
theorem decimal?_isSome_iff (cs : List Char) :
    (decimal? cs).isSome = cs.all Unicode.isDecimal := by
  rw [decimal?, isSome_foldl_digit]
  rfl

end Text

end CslProcessor
