import CslProcessor.Text.Marked
import CslProcessor.Unicode.Case

/-!
# Case transforms

The changes of case that a style asks for, applied to a sequence of segments, some of which are
verbatim. A verbatim segment never changes, but its words count: whether a word is the first or
the last one, or stands behind a colon, is decided over all segments together.

A *word* begins with a letter or numeral and goes on with word characters and apostrophes, within
one segment. The transforms by words are

* `capitalizeFirst`: the first word gets a capital;
* `capitalizeAll`: every word gets a capital;
* `title`: words in small letters get a capital, except stop words in the middle, which lose it;
  words with capitals elsewhere stay as they are;
* `sentence`: the first word gets a capital, and later words with a capital in front and small
  letters behind lose it.

For the last two, text that is all in capitals is put into small letters beforehand.

## Main definitions

* `TextCase`: The transforms.
* `Piece`, `pieces`: A segment cut into words and what stands between them.
* `WordPlace`: Where a word stands among the words of all segments.
* `recaseWord`: What a transform makes of one word.
* `recase`, `recaseText`: What a transform makes of segments, and of plain text.

## Theorems

* `flatten_pieces`: Cutting into words loses no character.
-/

namespace CslProcessor

/-- Changes of case. -/
inductive TextCase
  | lowercase
  | uppercase
  | capitalizeFirst
  | capitalizeAll
  | title
  | sentence
  deriving Repr, DecidableEq, Inhabited

instance : Named TextCase where
  members := [.lowercase, .uppercase, .capitalizeFirst, .capitalizeAll, .title, .sentence]
  name
    | .lowercase => "lowercase"
    | .uppercase => "uppercase"
    | .capitalizeFirst => "capitalize-first"
    | .capitalizeAll => "capitalize-all"
    | .title => "title"
    | .sentence => "sentence"

namespace Text

open Unicode

/-- Words that title case leaves in small letters in the middle of a title. -/
def stopWords : List String :=
  ["a", "an", "and", "as", "at", "but", "by", "down", "for", "from", "in", "into", "nor", "of",
    "on", "onto", "or", "over", "so", "the", "till", "to", "up", "via", "with", "yet"]

/-- Whether a character can begin a word. -/
def beginsWord (c : Char) : Bool :=
  isAlphanumeric c

/-- Whether a character can stand inside a word. -/
def insideWord (c : Char) : Bool :=
  isWord c || c == '\'' || c == '’'

/-- A word, or a character that is part of no word. -/
inductive Piece
  | word (cs : List Char)
  | gap (c : Char)
  deriving Repr, DecidableEq

namespace Piece

/-- The characters of a piece. -/
def chars : Piece → List Char
  | word cs => cs
  | gap c => [c]

/-- Whether a piece is a word. -/
def isWord : Piece → Bool
  | word _ => true
  | gap _ => false

end Piece

/-- Text cut into words and the characters between them. -/
def pieces (cs : List Char) : List Piece :=
  match cs with
  | [] => []
  | c :: rest =>
    if beginsWord c then
      .word (c :: rest.takeWhile insideWord) :: pieces (rest.dropWhile insideWord)
    else .gap c :: pieces rest
termination_by cs.length
decreasing_by
  · exact Nat.lt_succ_of_le (List.dropWhile_sublist _).length_le
  · exact Nat.lt_succ_self _

/-- Cutting into words loses no character. -/
theorem flatten_pieces (cs : List Char) : (pieces cs).flatMap Piece.chars = cs := by
  fun_induction pieces cs with
  | case1 => rfl
  | case2 c rest _ ih =>
    simp only [List.flatMap_cons, ih, Piece.chars, List.cons_append]
    rw [List.takeWhile_append_dropWhile]
  | case3 c rest _ ih => simp [ih, Piece.chars]

/-- Where a word stands among the words of all segments. -/
structure WordPlace where
  /-- No word stands before it. -/
  isFirst : Bool
  /-- No word stands behind it. -/
  isLast : Bool
  /-- The text before it ends in a colon, a question mark or an exclamation mark. -/
  afterColon : Bool
  deriving Repr, DecidableEq

/-- A word with its first character in upper case. -/
def capitalize : List Char → List Char
  | [] => []
  | c :: cs => upperChar c ++ cs

/-- Whether a word has a capital in front and small letters behind. -/
def isTitleForm : List Char → Bool
  | [] => false
  | c :: cs => isUppercase c && (cs.isEmpty || isLowerText cs)

/-- A word of a title. -/
def titleWord (edge : Bool) (w : List Char) : List Char :=
  let lowered := toLower w
  if stopWords.contains (String.ofList lowered) && !edge then
    if isLowerText w || isTitleForm w then lowered else w
  else if isLowerText w then capitalize w
  else w

/-- A word of a sentence. -/
def sentenceWord (first : Bool) (w : List Char) : List Char :=
  if first then
    if isLowerText w then capitalize w else w
  else if isTitleForm w && w.length > 1 then toLower w
  else w

/-- What a transform makes of a word at a place. -/
def recaseWord (case : TextCase) (place : WordPlace) (w : List Char) : List Char :=
  match case with
  | .capitalizeFirst => if place.isFirst then capitalize w else w
  | .capitalizeAll => capitalize w
  | .title => titleWord (place.isFirst || place.isLast || place.afterColon) w
  | .sentence => sentenceWord (place.isFirst || place.afterColon) w
  | .lowercase => toLower w
  | .uppercase => toUpper w

/-- Whether the text before a word, given in reverse, ends in a mark that opens a clause. -/
def opensClause (reversed : List Char) : Bool :=
  match trimStart reversed with
  | c :: _ => c == ':' || c == '?' || c == '!'
  | [] => false

/-- What a transform makes of the pieces of one segment. The text before them is given in
    reverse, and it is known whether a word stood before them and whether one comes after. -/
def recasePieces (case : TextCase) (wordBefore wordAfter : Bool) (reversed : List Char) :
    List Piece → List Char
  | [] => []
  | .gap c :: rest => c :: recasePieces case wordBefore wordAfter (c :: reversed) rest
  | .word w :: rest =>
    recaseWord case
        { isFirst := !wordBefore
          isLast := !(wordAfter || rest.any Piece.isWord)
          afterColon := opensClause reversed } w
      ++ recasePieces case true wordAfter (w.reverse ++ reversed) rest

/-- Whether a text holds a word. -/
def hasWord (s : String) : Bool :=
  s.toList.any beginsWord

/-- What a transform by words makes of segments that follow some text, given in reverse. -/
def recaseSegments (case : TextCase) (wordBefore : Bool) (reversed : List Char) :
    List Segment → List String
  | [] => []
  | s :: rest =>
    (if s.verbatim then s.text
      else String.ofList (recasePieces case wordBefore (rest.any fun r => hasWord r.text) reversed
        (pieces s.text.toList)))
      :: recaseSegments case (wordBefore || hasWord s.text) (s.text.toList.reverse ++ reversed) rest

/-- Whether the plain segments hold two letters or more and all of them are capitals. -/
def isShouting (segments : List Segment) : Bool :=
  let letters := (segments.filter (!·.verbatim)).flatMap fun s => s.text.toList.filter isAlphabetic
  letters.length > 1 && letters.all isUppercase

/-- The segments with a map applied to the plain ones. -/
def mapPlain (f : List Char → List Char) (segments : List Segment) : List Segment :=
  segments.map fun s => if s.verbatim then s else { s with text := String.ofList (f s.text.toList) }

/-- What a transform makes of each of the segments, in their order. -/
def recase (case : TextCase) (segments : List Segment) : List String :=
  match case with
  | .lowercase => (mapPlain toLower segments).map Segment.text
  | .uppercase => (mapPlain toUpper segments).map Segment.text
  | .capitalizeFirst | .capitalizeAll => recaseSegments case false [] segments
  | .title | .sentence =>
    recaseSegments case false []
      (if isShouting segments then mapPlain toLower segments else segments)

/-- What a transform makes of plain text. -/
def recaseText (case : TextCase) (text : String) : String :=
  String.join (recase case [⟨text, false⟩])

end Text

end CslProcessor
