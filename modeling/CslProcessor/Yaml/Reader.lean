import CslProcessor.Collection.Assoc
import CslProcessor.Yaml.Scalar

/-!
# Reading simple settings files

Settings are loaded with any reader of files (`Settings.Reader`). This one is for running the
library by itself. It reads the part of YAML that settings are commonly written in: mappings and
sequences in blocks, told apart by their columns, or between brackets; scalars that are plain or
between quotes; and comments. Anchors, tags and block scalars are refused like text that is
malformed, so it does not stand for YAML as a whole, and nothing is proved from it.

Blocks are read from a cursor, which knows its column. A token that begins with a tab is none, so
tabs never count as indentation.

## Main definitions

* `Cursor`, `Scan`: The text that is left, and work on it.
* `plain`, `quoted`: Scalars.
* `flowItems`, `flowFields`, `block`, `mapping`, `sequence`: Collections.
* `read?`: The data that a text stands for.
-/

namespace CslProcessor

namespace Yaml

/-- The text that is left, and the column in which it begins. -/
structure Cursor where
  /-- The characters. -/
  chars : List Char
  /-- The column. -/
  column : Nat := 0
  deriving Repr

/-- Work on the text that is left, which fails for text that is malformed. -/
abbrev Scan := StateT Cursor Option

/-- The column behind some characters. -/
def columnAfter (column : Nat) (cs : List Char) : Nat :=
  cs.foldl (fun n c => if c == '\n' then 0 else n + 1) column

/-- The text behind a number of characters. -/
def Cursor.advance (c : Cursor) (n : Nat) : Cursor :=
  ⟨c.chars.drop n, columnAfter c.column (c.chars.take n)⟩

/-- Passes over some characters. -/
def skip (n : Nat) : Scan Unit :=
  modify (·.advance n)

/-- Whether a character is blank or ends a line; so is the end of the text. -/
def isGap (c : Option Char) : Bool :=
  c.all fun c => c == ' ' || c == '\t' || c == '\n'

/-- How many characters there are up to the next token, and whether a line ends among them. -/
def gapLength : Bool → List Char → Nat × Bool
  | _, [] => (0, false)
  | comment, c :: cs =>
    if c == '\n' then
      let (n, _) := gapLength false cs
      (n + 1, true)
    else if comment || c == '#' then
      let (n, ended) := gapLength true cs
      (n + 1, ended)
    else if c == ' ' then
      let (n, ended) := gapLength false cs
      (n + 1, ended)
    else (0, false)

/-- Goes to the next token; whether it is on another line or there is none. -/
def gap : Scan Bool := do
  let (n, ended) := gapLength false (← get).chars
  skip n
  return ended || (← get).chars.isEmpty

/-- Whether the text begins with a mark for documents. -/
def startsDocument (mark cs : List Char) : Bool :=
  mark.isPrefixOf cs && isGap (cs.drop 3).head?

/-- Whether a token is the end of a document. -/
def Cursor.atEnd (c : Cursor) : Bool :=
  c.chars.isEmpty || (c.column == 0 && startsDocument ['.', '.', '.'] c.chars)

/-- The characters that have a meaning between brackets. -/
def flowMarks : List Char :=
  [',', '[', ']', '\x7b', '\x7d']

/-- Whether the text begins with the colon behind a key. -/
def atColon (inFlow : Bool) (cs : List Char) : Bool :=
  match cs with
  | ':' :: rest => isGap rest.head? || (inFlow && rest.head?.any flowMarks.contains)
  | _ => false

/-! ## Scalars -/

/-- How many characters of a line belong to a plain scalar. Blanks count if more follows. -/
def plainLength (inFlow : Bool) : List Char → Nat
  | [] => 0
  | c :: cs =>
    if c == '\n' || c == '\t' || atColon inFlow (c :: cs)
        || (inFlow && (c == '?' || flowMarks.contains c)) then 0
    else if c == ' ' then
      match plainLength inFlow cs with
      | 0 => 0
      | n + 1 => if cs.head? == some '#' then 0 else n + 2
    else plainLength inFlow cs + 1

/-- What stands for some line ends in a folded text: a blank for one, all but one for more. -/
def foldedBreaks (n : Nat) : List Char :=
  if n ≤ 1 then [' '] else List.replicate (n - 1) '\n'

/-- The line ends and blanks in front of a text: how many characters, how many of them line ends,
    and the column behind them. -/
def breaksLength : List Char → Nat × Nat × Nat
  | [] => (0, 0, 0)
  | c :: cs =>
    if c == '\n' then
      let (n, ends, column) := breaksLength cs
      (n + 1, ends + 1, if ends == 0 then (cs.takeWhile (· == ' ')).length else column)
    else if c == ' ' then
      let (n, ends, column) := breaksLength cs
      (n + 1, ends, column)
    else (0, 0, 0)

/-- Whether a plain scalar can begin with a character, given the one behind. -/
def startsPlain (inFlow : Bool) (c : Char) (next : Option Char) : Bool :=
  if c == '-' then !isGap next
  else if c == '?' || c == ':' then !inFlow && !isGap next
  else !(c == ' ' || c == '\t' || c == '\n'
    || ['#', '&', '*', '!', '|', '>', '\'', '"', '%', '@', '\x60'].contains c
    || flowMarks.contains c)

/-- The text of a plain scalar, whose further lines begin at a column or behind it, and whether
    there are such lines. -/
def plainText (inFlow : Bool) (column : Nat) : Nat → Scan (List Char × Bool)
  | 0 => failure
  | fuel + 1 => do
    let cs := (← get).chars
    let n := plainLength inFlow cs
    let text := cs.take n
    skip n
    let left := (← get).chars
    let (m, ends, next) := breaksLength left
    let rest := left.drop m
    let continues := ends != 0 && (inFlow || column ≤ next) && rest.head? != some '#'
      && plainLength inFlow rest != 0
      && !(next == 0
        && (startsDocument ['-', '-', '-'] rest || startsDocument ['.', '.', '.'] rest))
    if continues then
      skip m
      let (more, _) ← plainText inFlow column fuel
      return (text ++ foldedBreaks ends ++ more, true)
    else return (text, false)

/-- A character of a text between quotes, and whether it was written by an escape. -/
abbrev QuotedChar := Char × Bool

/-- The text up to the closing single quote, in which two quotes stand for one, and the text
    behind it. -/
def singleQuoted? : List Char → Option (List QuotedChar × List Char)
  | [] => none
  | '\'' :: '\'' :: cs =>
    (singleQuoted? cs).map fun (text, rest) => (('\'', true) :: text, rest)
  | '\'' :: cs => some ([], cs)
  | c :: cs => (singleQuoted? cs).map fun (text, rest) => ((c, false) :: text, rest)

/-- What stands for a character behind a backslash. -/
def escapes : List (Char × Char) :=
  [('0', Char.ofNat 0), ('a', '\x07'), ('b', '\x08'), ('t', '\t'), ('n', '\n'), ('v', '\x0b'),
    ('f', '\x0c'), ('r', '\r'), ('e', '\x1b'), (' ', ' '), ('"', '"'), ('\\', '\\'), ('/', '/'),
    ('N', '\x85'), ('_', Char.ofNat 0xa0), ('L', Char.ofNat 0x2028), ('P', Char.ofNat 0x2029)]

/-- How many hexadecimal digits follow some characters behind a backslash. -/
def codeWidths : List (Char × Nat) :=
  [('x', 2), ('u', 4), ('U', 8)]

/-- The text up to the closing double quote, in which a backslash begins an escape, and the text
    behind it. -/
def doubleQuoted? : Nat → List Char → Option (List QuotedChar × List Char)
  | 0, _ => none
  | _, [] => none
  | _, '"' :: cs => some ([], cs)
  | fuel + 1, '\\' :: '\n' :: cs =>
    doubleQuoted? fuel (cs.dropWhile fun c => c == ' ' || c == '\t')
  | fuel + 1, '\\' :: c :: cs =>
    match escapes.lookup c, codeWidths.lookup c with
    | some e, _ => (doubleQuoted? fuel cs).map fun (text, rest) => ((e, true) :: text, rest)
    | none, some width =>
      let digits := cs.take width
      if digits.length == width && digits.all (isDigitOf 16) then
        (doubleQuoted? fuel (cs.drop width)).map fun (text, rest) =>
          ((Char.ofNat (digitsValue 16 digits), true) :: text, rest)
      else none
    | none, none => none
  | fuel + 1, c :: cs =>
    (doubleQuoted? fuel cs).map fun (text, rest) => ((c, false) :: text, rest)

/-- Whether a character is a blank that was written as it is. -/
def QuotedChar.isBlank (c : QuotedChar) : Bool :=
  c == (' ', false) || c == ('\t', false)

/-- A line without the blanks behind it. -/
def trimLine (line : List QuotedChar) : List QuotedChar :=
  (line.reverse.dropWhile QuotedChar.isBlank).reverse

/-- Puts a line of a text between quotes behind the ones before, given how many line ends stand
    between. -/
def addLine (folded : List Char × Nat) (line : List QuotedChar) : List Char × Nat :=
  if line.isEmpty then (folded.1, folded.2 + 1)
  else (folded.1 ++ foldedBreaks folded.2 ++ line.map (·.1), 1)

/-- A text between quotes with its line ends folded. -/
def foldLines (cs : List QuotedChar) : List Char :=
  match cs.splitOnP (· == ('\n', false)) with
  | [] => []
  | [line] => line.map (·.1)
  | first :: lines =>
    let inner := lines.dropLast.map fun l => trimLine (l.dropWhile QuotedChar.isBlank)
    let last := (lines.getLast?.getD []).dropWhile QuotedChar.isBlank
    let (text, breaks) := (inner ++ [last]).foldl addLine ((trimLine first).map (·.1), 1)
    if last.isEmpty then text ++ foldedBreaks (breaks - 1) else text

/-- A scalar between quotes; the text between them. -/
def quoted : Scan (List Char × Bool) := do
  let cs := (← get).chars
  let found := match cs with
    | '\'' :: rest => singleQuoted? rest
    | '"' :: rest => doubleQuoted? (rest.length + 1) rest
    | _ => none
  match found with
  | none => failure
  | some (text, rest) =>
    let n := cs.length - rest.length
    skip n
    return (foldLines text, (cs.take n).contains '\n')

/-! ## Collections -/

/-- The name that stands for a key. -/
def keyName : Data → Option String
  | .text s => some s
  | .null => some "None"
  | .truth b => some (if b then "True" else "False")
  | .int n => some (toString n)
  | .decimal digits places => some (toString digits ++ "/" ++ toString places)
  | .list _ | .record _ => none

mutual

/-- A scalar, or a collection between brackets; whether it takes more than one line. Further
    lines of a plain scalar begin at a column or behind it. -/
def atom (inFlow : Bool) (column : Nat) : Nat → Scan (Data × Bool)
  | 0 => failure
  | fuel + 1 => do
    match (← get).chars with
    | [] => failure
    | c :: rest =>
      if c == '\'' || c == '"' then
        let (text, long) ← quoted
        return (.text (String.ofList text), long)
      else if c == '[' then
        skip 1
        return (.list (← flowItems fuel), false)
      else if c == '\x7b' then
        skip 1
        return (.record (← flowFields fuel []), false)
      else if startsPlain inFlow c rest.head? then
        let (text, long) ← plainText inFlow column fuel
        return (resolve (String.ofList text), long)
      else failure

/-- The items up to a closing bracket. -/
def flowItems : Nat → Scan (List Data)
  | 0 => failure
  | fuel + 1 => do
    let _ ← gap
    if (← get).chars.head? == some ']' then
      skip 1
      return []
    let (first, _) ← atom true 0 fuel
    let _ ← gap
    let item ←
      if (← get).chars.head? == some ':' then
        skip 1
        let some name := keyName first | failure
        pure (Data.record [(name, ← flowValue fuel)])
      else pure first
    flowNext ']'
    return item :: (← flowItems fuel)

/-- The fields up to a closing brace, after some that were read. -/
def flowFields : Nat → Assoc String Data → Scan (Assoc String Data)
  | 0, _ => failure
  | fuel + 1, fields => do
    let _ ← gap
    if (← get).chars.head? == some '\x7d' then
      skip 1
      return fields
    let (key, _) ← atom true 0 fuel
    let some name := keyName key | failure
    let _ ← gap
    let value ←
      if (← get).chars.head? == some ':' then
        skip 1
        flowValue fuel
      else pure .null
    flowNext '\x7d'
    flowFields fuel (Assoc.set name value fields)

/-- The value behind a colon between brackets. -/
def flowValue : Nat → Scan Data
  | 0 => failure
  | fuel + 1 => do
    let _ ← gap
    if (← get).chars.head?.any [',', ']', '\x7d'].contains then return .null
    return (← atom true 0 fuel).1

/-- Goes behind a comma, or to the closing mark. -/
def flowNext (closing : Char) : Scan Unit := do
  let _ ← gap
  match (← get).chars with
  | c :: _ => if c == ',' then skip 1 else if c == closing then pure () else failure
  | [] => failure

end

/-- Whether the cursor is at the dash of an item. -/
def Cursor.atDash (c : Cursor) : Bool :=
  match c.chars with
  | '-' :: rest => isGap rest.head?
  | _ => false

/-- Goes to the colon behind a key, if there is one. -/
def findColon : Scan Bool := do
  let cs := (← get).chars
  let blanks := (cs.takeWhile (· == ' ')).length
  if atColon false (cs.drop blanks) then
    skip (blanks + 1)
    return true
  else return false

/-- A value that ends its line. -/
def lineValue (column fuel : Nat) : Scan Data := do
  let (value, _) ← atom false column fuel
  if ← findColon then failure
  if ← gap then return value else failure

mutual

/-- A collection or a value that begins at the cursor, inside a block at a column. -/
def block : Nat → Nat → Scan Data
  | 0, _ => failure
  | fuel + 1, column => do
    let start := (← get).column
    if (← get).atDash then return .list (← sequence fuel start)
    let (first, long) ← atom false column fuel
    if ← findColon then
      if long then failure
      let some name := keyName first | failure
      let value ← fieldValue fuel start
      return .record (← mapping fuel start [(name, value)])
    else if ← gap then return first
    else failure

/-- The value behind the colon of a key at a column. -/
def fieldValue : Nat → Nat → Scan Data
  | 0, _ => failure
  | fuel + 1, column => do
    let ended ← gap
    let c ← get
    if c.atEnd then return .null
    if !ended then
      if c.atDash then failure
      lineValue (column + 1) fuel
    else if column < c.column then block fuel (column + 1)
    else if c.column == column && c.atDash then return .list (← sequence fuel column)
    else return .null

/-- The fields of a mapping at a column, after some that were read. -/
def mapping : Nat → Nat → Assoc String Data → Scan (Assoc String Data)
  | 0, _, _ => failure
  | fuel + 1, column, fields => do
    let _ ← gap
    let c ← get
    if c.atEnd || c.column < column then return fields
    if column < c.column || c.atDash then failure
    let (key, long) ← atom false (column + 1) fuel
    let colon ← findColon
    if long || !colon then failure
    let some name := keyName key | failure
    let value ← fieldValue fuel column
    mapping fuel column (Assoc.set name value fields)

/-- The items of a sequence at a column. -/
def sequence : Nat → Nat → Scan (List Data)
  | 0, _ => failure
  | fuel + 1, column => do
    let _ ← gap
    let c ← get
    if c.atEnd || c.column < column then return []
    if column < c.column then failure
    if !c.atDash then return []
    skip 1
    let ended ← gap
    let c ← get
    let item ←
      if c.atEnd || (ended && c.column ≤ column) then pure .null
      else block fuel (column + 1)
    return item :: (← sequence fuel column)

end

/-! ## Documents -/

/-- A text with line ends of one kind. -/
def unifyBreaks : List Char → List Char
  | '\r' :: '\n' :: cs => '\n' :: unifyBreaks cs
  | '\r' :: cs => '\n' :: unifyBreaks cs
  | c :: cs => c :: unifyBreaks cs
  | [] => []

/-- Whether a character may stand in a document. -/
def isAllowed (c : Char) : Bool :=
  let n := c.toNat
  n == 9 || n == 10 || n == 13 || (0x20 ≤ n && n ≤ 0x7e) || n == 0x85
    || (0xa0 ≤ n && n ≤ 0xfffd) || 0x10000 ≤ n

/-- A document up to the end of the text. -/
def document (fuel : Nat) : Scan Data := do
  let _ ← gap
  let c ← get
  if c.column == 0 && startsDocument ['-', '-', '-'] c.chars then
    skip 3
    let _ ← gap
  let value ← if (← get).atEnd then pure .null else block fuel 0
  let _ ← gap
  let c ← get
  if c.column == 0 && startsDocument ['.', '.', '.'] c.chars then
    skip 3
    let _ ← gap
  if (← get).chars.isEmpty then return value else failure

/-- The data that a text stands for, nothing if the text is malformed. -/
def read? (s : String) : Option Data :=
  let cs := unifyBreaks s.toList
  if cs.all isAllowed then
    ((document (4 * cs.length + 8)).run { chars := cs }).map (·.1)
  else none

end Yaml

end CslProcessor
