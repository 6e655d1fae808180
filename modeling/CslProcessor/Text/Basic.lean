import CslProcessor.Unicode.Property

/-!
# Plain text

The operations on plain text that the rules of citation styles are made of: trimming, splitting
at white space, joining the words of a name, and writing numbers with leading zeros. Text is a
string; the operations look at it as a list of characters.

## Main definitions

* `trimStart`, `trimEnd`, `trim`: Text without the white space at its ends.
* `words`: The maximal pieces free of white space.
* `endsWith`: Whether a text has a given last character.
* `without`: Text with all occurrences of a character removed.
* `joinWords`: Words joined by blanks, except behind an apostrophe or a hyphen.
* `padded`, `pointed`: A number filled up with zeros, and one with digits behind the point.

## Theorems

* `joinWords_nil`: Joining no word.
-/

namespace CslProcessor

namespace Text

open Unicode (isSpace)

/-- Text without the white space in front of it. -/
def trimStart (cs : List Char) : List Char :=
  cs.dropWhile isSpace

/-- Text without the white space behind it. -/
def trimEnd (cs : List Char) : List Char :=
  (trimStart cs.reverse).reverse

/-- Text without the white space around it. -/
def trim (cs : List Char) : List Char :=
  trimEnd (trimStart cs)

/-- A string without the white space around it. -/
def trimmed (s : String) : String :=
  String.ofList (trim s.toList)

/-- The maximal pieces of a text that are free of white space. -/
def words (cs : List Char) : List (List Char) :=
  (cs.splitOnP isSpace).filter (!·.isEmpty)

/-- Whether the last character is one of some marks. -/
def endsWith (marks : List Char) (s : String) : Bool :=
  match s.toList.getLast? with
  | some c => marks.contains c
  | none => false

/-- A string with all occurrences of a character removed. -/
def without (c : Char) (s : String) : String :=
  String.ofList (s.toList.filter (· != c))

/-- Puts one more word behind joined words. No blank follows an apostrophe or a hyphen, and an
    empty word leaves no trace. -/
def addWord (joined word : String) : String :=
  if word.isEmpty then joined
  else if joined.isEmpty || endsWith ['\'', '’', '-'] joined then joined ++ word
  else joined ++ " " ++ word

/-- Words joined by blanks, except behind an apostrophe or a hyphen. -/
def joinWords (ws : List String) : String :=
  ws.foldl addWord ""

@[simp]
theorem joinWords_nil : joinWords [] = "" := rfl

/-- A number in decimal, filled up with zeros to a width that counts the sign. -/
def padded (width : Nat) (n : Int) : String :=
  let sign := if n < 0 then "-" else ""
  let digits := toString n.natAbs
  sign ++ String.ofList (List.replicate (width - (sign.length + digits.length)) '0') ++ digits

/-- A number whose last `places` digits stand behind the point, without zeros at its end but for one
    behind the point. -/
def pointed (digits : Int) (places : Nat) : String :=
  let sign := if digits < 0 then "-" else ""
  let behind := (padded places ((digits.natAbs % Nat.pow 10 places : Nat) : Int)).toList
  let kept := (behind.reverse.dropWhile (· == '0')).reverse
  sign ++ toString (digits.natAbs / Nat.pow 10 places) ++ "."
    ++ (if kept.isEmpty then "0" else String.ofList kept)

/-- The number that decimal digits of any script write, nothing if one of the characters is no
    decimal digit. -/
def decimal? (cs : List Char) : Option Nat :=
  cs.foldl (fun n c => do return 10 * (← n) + (← Unicode.decimalValue? c)) (some 0)

end Text

/-- A kind with finitely many members, each known by a name. -/
class Named (α : Type) where
  /-- All members. -/
  members : List α
  /-- The name of a member. -/
  name : α → String

namespace Named

/-- The member of a kind that has a name. -/
def ofName? {α : Type} [Named α] (s : String) : Option α :=
  (Named.members (α := α)).find? fun a => Named.name a == s

end Named

end CslProcessor
