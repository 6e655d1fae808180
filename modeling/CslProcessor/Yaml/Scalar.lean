import CslProcessor.Data.Basic
import CslProcessor.Text.Basic
import CslProcessor.Unicode.Table

/-!
# Plain scalars

What a plain scalar of a settings file stands for: nothing, a truth value, a number, or else the
text itself. Numbers may hold underscores; whole ones may be written in base two, eight or sixteen,
or in groups of base sixty.

## Main definitions

* `readInteger?`, `readDecimal?`: The numbers.
* `resolve`: What a plain scalar stands for.
-/

namespace CslProcessor

namespace Yaml

/-- Whether a character is a digit of a base up to sixteen. -/
def isDigitOf (base : Nat) (c : Char) : Bool :=
  if '0' ≤ c && c ≤ '9' then c.toNat - 48 < base
  else base == 16 && (('a' ≤ c && c ≤ 'f') || ('A' ≤ c && c ≤ 'F'))

/-- Whether all characters are digits of a base or underscores. -/
def allDigits (base : Nat) (cs : List Char) : Bool :=
  cs.all fun c => c == '_' || isDigitOf base c

/-- The number that digits of a base write, underscores left out. -/
def digitsValue (base : Nat) (cs : List Char) : Nat :=
  (cs.filter (· != '_')).foldl (fun n c => base * n + Unicode.hexDigit c.toLower) 0

/-- A sign in front of a number, and what follows. -/
def splitSign : List Char → Bool × List Char
  | '-' :: cs => (true, cs)
  | '+' :: cs => (false, cs)
  | cs => (false, cs)

/-- A number with a sign. -/
def signed (negative : Bool) (n : Nat) : Int :=
  if negative then -(n : Int) else n

/-- Whether a group behind a colon is a number below sixty. -/
def isSixtieth (cs : List Char) : Bool :=
  match cs with
  | [c] => isDigitOf 10 c
  | [c, d] => '0' ≤ c && c ≤ '5' && isDigitOf 10 d
  | _ => false

/-- The number without sign that a text writes. -/
def readNatural? (cs : List Char) : Option Nat :=
  match cs with
  | ['0'] => some 0
  | '0' :: 'b' :: digits =>
    if digits.any (· != '_') && allDigits 2 digits then some (digitsValue 2 digits) else none
  | '0' :: 'x' :: digits =>
    if digits.any (· != '_') && allDigits 16 digits then some (digitsValue 16 digits) else none
  | '0' :: digits => if allDigits 8 digits then some (digitsValue 8 digits) else none
  | cs =>
    match cs.splitOnP (· == ':') with
    | first :: groups =>
      if first.head?.any (isDigitOf 10) && allDigits 10 first && groups.all isSixtieth then
        some (groups.foldl (fun n g => 60 * n + digitsValue 10 g) (digitsValue 10 first))
      else none
    | [] => none

/-- The whole number that a text writes. -/
def readInteger? (cs : List Char) : Option Int :=
  let (negative, digits) := splitSign cs
  (readNatural? digits).map (signed negative)

/-- The exponent that a text behind the digits writes: nothing, or a letter, a sign and digits. -/
def readExponent? (cs : List Char) : Option Int :=
  match cs with
  | [] => some 0
  | e :: sign :: digits =>
    if (e == 'e' || e == 'E') && (sign == '-' || sign == '+') && !digits.isEmpty
        && digits.all (isDigitOf 10) then some (signed (sign == '-') (digitsValue 10 digits))
    else none
  | _ => none

/-- A number with digits behind the point, at least one of them. -/
def scaled (digits : Int) (places : Int) : Data :=
  if places ≤ 0 then .decimal (digits * Nat.pow 10 ((-places).toNat + 1)) 1
  else .decimal digits places.toNat

/-- The number with a point that a text writes. -/
def readDecimal? (cs : List Char) : Option Data :=
  let (negative, number) := splitSign cs
  let inNumber := fun c => c == '_' || isDigitOf 10 c
  let whole := number.takeWhile inNumber
  match number.dropWhile inNumber with
  | '.' :: rest =>
    let behind := rest.takeWhile inNumber
    let leads := whole.head?.any (isDigitOf 10)
      || (whole.isEmpty && cs.head? == some '.' && behind.head?.any (isDigitOf 10))
    match readExponent? (rest.dropWhile inNumber) with
    | some exponent =>
      if leads then
        let places := (behind.filter (· != '_')).length
        some (scaled (signed negative (digitsValue 10 (whole ++ behind))) (places - exponent))
      else none
    | none => none
  | _ => none

/-- The spellings of the absence of a value. -/
def nullWords : List String :=
  ["", "~", "null", "Null", "NULL"]

/-- The spellings of the truth values. -/
def truthWords : List (String × Bool) :=
  ["yes", "Yes", "YES", "true", "True", "TRUE", "on", "On", "ON"].map (·, true)
    ++ ["no", "No", "NO", "false", "False", "FALSE", "off", "Off", "OFF"].map (·, false)

/-- What a plain scalar stands for. -/
def resolve (s : String) : Data :=
  if nullWords.contains s then .null
  else match truthWords.lookup s with
    | some b => .truth b
    | none =>
      match readInteger? s.toList with
      | some n => .int n
      | none => (readDecimal? s.toList).getD (.text s)

end Yaml

end CslProcessor
