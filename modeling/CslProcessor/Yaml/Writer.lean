import CslProcessor.Yaml.Scalar

/-!
# Writing settings files

Records are written as block mappings, a field a line. A text is written plainly if it is read
back as that text; or else between single quotes, if it holds visible ASCII characters only; or else
between double quotes, with escapes. Long lines end at a blank.

## Main definitions

* `Style`: How a text is written.
* `styleOf`, `textScalar`: The way in which a text is written, and the text as it is written.
* `write`: Data as it is written.
-/

namespace CslProcessor

namespace Yaml

/-- How a text is written. -/
inductive Style
  | plain
  | single
  | double
  deriving Repr, DecidableEq

/-- Whether a character is blank or ends a line; so is the end of the text. -/
def breaksWord (c : Option Char) : Bool :=
  c.all [' ', '\t', '\r', '\n', Char.ofNat 0, '\x85', Char.ofNat 0x2028, Char.ofNat 0x2029].contains

/-- Whether a text holds marks that have a meaning inside a plain scalar, given whether a blank
    stands before it. -/
def holdsMarks : Bool → List Char → Bool
  | _, [] => false
  | afterBlank, c :: cs =>
    (c == ':' && breaksWord cs.head?) || (c == '#' && afterBlank)
      || holdsMarks (breaksWord (some c)) cs

/-- Whether a text begins with a mark that has a meaning there. -/
def startsWithMark (cs : List Char) : Bool :=
  ['-', '-', '-'].isPrefixOf cs || ['.', '.', '.'].isPrefixOf cs
    || match cs with
      | [] => false
      | c :: rest =>
        [',', '[', ']', '\x7b', '\x7d', '#', '&', '*', '!', '|', '>', '\'', '"', '%', '@',
            '\x60'].contains c
          || (['?', ':', '-'].contains c && breaksWord rest.head?)

/-- Whether a character is a visible one of ASCII or a blank. -/
def isAsciiText (c : Char) : Bool :=
  ' ' ≤ c && c ≤ '~'

/-- Whether a blank stands before the end of a line, or behind it. -/
def holdsBlankBreak : List Char → Bool
  | ' ' :: '\n' :: _ => true
  | '\n' :: ' ' :: _ => true
  | _ :: cs => holdsBlankBreak cs
  | [] => false

/-- Words that stand for what is neither number nor text. -/
def reservedWords : List String :=
  ["=", "<<", ".nan", ".NaN", ".NAN"]
    ++ ["", "+", "-"].flatMap fun sign => [".inf", ".Inf", ".INF"].map (sign ++ ·)

/-- Whether a text looks like a day: four digits, two digits and two digits with dashes between. -/
def isDayWord (cs : List Char) : Bool :=
  (cs.map fun c => if c.isDigit then '0' else c) == "0000-00-00".toList

/-- Whether a text would be read back as a text if it were written plainly. -/
def isTextWord (s : String) : Bool :=
  match resolve s with
  | .text _ => !reservedWords.contains s && !isDayWord s.toList
  | _ => false

/-- How a text is written. -/
def styleOf (s : String) : Style :=
  let cs := s.toList
  if !(cs.all fun c => isAsciiText c || c == '\n') || holdsBlankBreak cs then .double
  else if isTextWord s && !cs.contains '\n' && cs.head? != some ' ' && cs.getLast? != some ' '
      && !startsWithMark cs && !holdsMarks false cs then .plain
  else .single

/-- The letters that stand for characters behind a backslash. -/
def letters : List (Nat × Char) :=
  [(0, '0'), (7, 'a'), (8, 'b'), (9, 't'), (10, 'n'), (11, 'v'), (12, 'f'), (13, 'r'), (27, 'e'),
    (34, '"'), (92, '\\'), (0x85, 'N'), (0xa0, '_'), (0x2028, 'L'), (0x2029, 'P')]

/-- The last `width` hexadecimal digits of a number, in capitals. -/
def capitalDigits (width n : Nat) : List Char :=
  match width with
  | 0 => []
  | k + 1 => capitalDigits k (n / 16) ++ [(Nat.digitChar (n % 16)).toUpper]

/-- A character between double quotes. -/
def escaped (c : Char) : List Char :=
  match letters.lookup c.toNat with
  | some letter => ['\\', letter]
  | none =>
    if isAsciiText c then [c]
    else if c.toNat ≤ 0xff then '\\' :: 'x' :: capitalDigits 2 c.toNat
    else if c.toNat ≤ 0xffff then '\\' :: 'u' :: capitalDigits 4 c.toNat
    else '\\' :: 'U' :: capitalDigits 8 c.toNat

/-- A line may end behind this column. -/
def lineWidth : Nat := 80

/-- Blanks at the start of a line. -/
def margin (indent : Nat) : List Char :=
  List.replicate indent ' '

/-- Whether a line may end at a blank, given the characters around it. -/
def mayEndAt (before after : Option Char) : Bool :=
  before.any (· != ' ') && after.any (· != ' ')

/-- A text that is written plainly or between single quotes, from a column on. A line that is long
    ends at the next single blank. Between quotes a quote is doubled, and so is the first line end
    of several. -/
def wrapped (quoted : Bool) (indent : Nat) : Option Char → Nat → List Char → List Char
  | _, _, [] => []
  | before, column, c :: cs =>
    if c == '\n' then
      let next := if cs.head? == some '\n' then 0 else indent
      (if before == some '\n' then ['\n'] else ['\n', '\n']) ++ margin next
        ++ wrapped quoted indent (some c) next cs
    else if c == ' ' && lineWidth < column && mayEndAt before cs.head? then
      '\n' :: margin indent ++ wrapped quoted indent (some c) indent cs
    else
      let written := if quoted && c == '\'' then ['\'', '\''] else [c]
      written ++ wrapped quoted indent (some c) (column + written.length) cs

/-- A line end between double quotes, where it does not count, and the mark before a blank that
    follows. -/
def lineEnd (indent : Nat) (after : Option Char) : List Char :=
  '\\' :: '\n' :: margin indent ++ if after == some ' ' then ['\\'] else []

/-- A text between double quotes, from a column on. A line that is long ends at the next blank, and
    before or behind an escape. -/
def escapedText (indent : Nat) (first afterEscape : Bool) (column : Nat) : List Char → List Char
  | [] => []
  | c :: cs =>
    let written := escaped c
    let isEscape := written.length != 1
    let mayEnd := !first && !cs.isEmpty
    if isEscape then
      if mayEnd && lineWidth + 1 < column + written.length then
        written ++ lineEnd indent cs.head?
          ++ escapedText indent false true (if cs.head? == some ' ' then indent + 1 else indent) cs
      else written ++ escapedText indent false true (column + written.length) cs
    else if mayEnd && (c == ' ' || afterEscape) && lineWidth < column then
      lineEnd indent (some c) ++ written
        ++ escapedText indent false false (if c == ' ' then indent + 2 else indent + 1) cs
    else written ++ escapedText indent false false (column + 1) cs

/-- A text as it is written from a column on, with further lines at an indentation. -/
def textScalar (indent column : Nat) (s : String) : String :=
  match styleOf s with
  | .plain => String.ofList (wrapped false indent none column s.toList)
  | .single => "'" ++ String.ofList (wrapped true indent none (column + 1) s.toList) ++ "'"
  | .double => "\"" ++ String.ofList (escapedText indent true false (column + 1) s.toList) ++ "\""

/-- The indentation of what belongs to a field: the items of a list stand below the key. -/
def valueIndent (indent : Nat) : Data → Nat
  | .list _ => indent
  | _ => indent + 2

/-- A key as it is written. -/
def keyText (indent : Nat) (name : String) : String :=
  String.ofList (margin indent) ++ textScalar (indent + 2) indent name ++ ":"

/-- The lines of data at an indentation, the first of them behind a key or a dash that ends at a
    column. -/
def lines (indent column : Nat) : Data → List String
  | .null => [" null"]
  | .truth b => [if b then " true" else " false"]
  | .int n => [" " ++ toString n]
  | .decimal digits places => [" " ++ Text.pointed digits places]
  | .text s => [" " ++ textScalar indent (column + 1) s]
  | .list [] => [" []"]
  | .record [] => [" \x7b\x7d"]
  | .list items =>
    "" :: items.attach.flatMap fun v => itemLines indent (lines (indent + 2) (indent + 1) v.1)
  | .record fields =>
    "" :: fields.attach.flatMap fun p =>
      let key := keyText indent p.1.1
      fieldLines key (lines (valueIndent indent p.1.2) key.length p.1.2)
termination_by d => sizeOf d
decreasing_by
  · exact Data.sizeOf_lt_of_mem v.2
  · exact Data.sizeOf_lt_of_pair_mem p.2
where
  /-- The lines of a field, given those of its value. -/
  fieldLines (key : String) (value : List String) : List String :=
    match value with
    | [] => [key]
    | first :: more => (key ++ first) :: more
  /-- The lines of an item, given those of its value. A block begins right behind the dash. -/
  itemLines (indent : Nat) (value : List String) : List String :=
    let dash := String.ofList (margin indent) ++ "-"
    match value with
    | [] => [dash]
    | "" :: first :: more => (dash ++ " " ++ String.ofList (first.toList.drop (indent + 2))) :: more
    | first :: more => (dash ++ first) :: more

/-- Data as it is written. -/
def write (d : Data) : String :=
  match lines 0 0 d with
  | first :: more =>
    let all := if first.isEmpty then more else String.ofList first.toList.tail :: more
    String.join (all.map (· ++ "\n"))
  | [] => ""

end Yaml

end CslProcessor
