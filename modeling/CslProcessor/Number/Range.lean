import CslProcessor.Number.Basic
import CslProcessor.Text.Template

/-!
# Ranges of pages

How a range such as `321-328` is printed. The hyphen between the numbers becomes the delimiter of
the locale, and a style may ask for the end of the range in a short form: with the leading digits
that it shares with the start left out, down to one digit or down to two, or by the rules of
Chicago. A range whose end was abbreviated in the first place is filled up before.

A text may list several ranges, separated by commas and ampersands; each is printed for itself.
Between other words, too, a hyphen gives way to the delimiter. But there the delimiter is read as a
template, while it stands between the numbers of a range as it is. So a delimiter with a backslash
may print a range and fail at a single page, where there is nothing to be replaced.

## Main definitions

* `PageRangeFormat`: The forms of the end of a range.
* `expandEnd`: The end of a range with all its digits.
* `collapseEnd`: The end of a range in a form.
* `joinRanges`, `normalize`: A text with the hyphens between words replaced.
* `formatPiece`: One member of a list of ranges in a form.
* `splitList`, `formatPages`: The members of a list of ranges and the list in a form.
-/

namespace CslProcessor

/-- The forms of the end of a range. -/
inductive PageRangeFormat
  /-- All digits. -/
  | expanded
  /-- The digits that differ from the start. -/
  | minimal
  /-- The digits that differ from the start, but two at least. -/
  | minimalTwo
  /-- The rules of the Chicago manual. -/
  | chicago
  deriving Repr, DecidableEq, Inhabited

instance : Named PageRangeFormat where
  members := [.expanded, .minimal, .minimalTwo, .chicago]
  name
    | .expanded => "expanded"
    | .minimal => "minimal"
    | .minimalTwo => "minimal-two"
    | .chicago => "chicago"

namespace PageRange

open Unicode

/-- The number that digits write. -/
def value (digits : List Char) : Nat :=
  (Text.decimal? digits).getD 0

/-- The end of a range with the leading digits that it left out. -/
def expandEnd (start stop : List Char) : List Char :=
  if stop.length < start.length then start.take (start.length - stop.length) ++ stop else stop

/-- The end of a range without the leading digits that it shares with the start, at least `keep`
    digits of it. -/
def dropShared (keep : Nat) : List Char → List Char → List Char
  | a :: start, b :: stop =>
    if keep ≤ stop.length && a == b then dropShared keep start stop else b :: stop
  | _, stop => stop

/-- The end of a range in the shortest form of at least `keep` digits. Numbers of different
    length share no leading digits. -/
def minimalEnd (keep : Nat) (start stop : List Char) : List Char :=
  if start.length == stop.length then dropShared keep start stop else stop

/-- The end of a range by the rules of Chicago: in full below one hundred and behind a multiple of
    one hundred, down to one digit behind a number from 1 to 9 past a multiple of one hundred, and
    otherwise down to two digits, unless more than two of four digits change. -/
def chicagoEnd (start stop : List Char) : List Char :=
  let first := value start
  if first < 100 || first % 100 == 0 then stop
  else if first % 100 < 10 then minimalEnd 1 start stop
  else
    let collapsed := minimalEnd 2 start stop
    if start.length == 4 && collapsed.length > 2 then stop else collapsed

/-- The end of a range in a form. An end that is not greater than the start stays as it is. -/
def collapseEnd (format : Option PageRangeFormat) (start stop : List Char) : List Char :=
  let full := expandEnd start stop
  if value full ≤ value start then stop
  else match format with
    | none | some .expanded => full
    | some .minimal => minimalEnd 1 start full
    | some .minimalTwo => minimalEnd 2 start full
    | some .chicago => chicagoEnd start full

/-- Whether a character joins two words to a range. -/
def isHyphen (c : Char) : Bool :=
  c == '-' || c == '–'

/-- The text behind a hyphen with white space around it, if a word character follows. -/
def afterHyphen? (cs : List Char) : Option (List Char) :=
  match Text.trimStart cs with
  | h :: rest =>
    match Text.trimStart rest with
    | c :: behind => if isHyphen h && isWord c then some (c :: behind) else none
    | [] => none
  | [] => none

/-- White space in front of a text only makes it longer. -/
theorem length_trimStart_le (cs : List Char) : (Text.trimStart cs).length ≤ cs.length :=
  (List.dropWhile_sublist _).length_le

/-- What follows a hyphen is shorter than the text the hyphen is in. -/
theorem length_lt_of_afterHyphen? {cs behind : List Char} (h : afterHyphen? cs = some behind) :
    behind.length < cs.length := by
  have h1 := length_trimStart_le cs
  unfold afterHyphen? at h
  split at h
  · next x rest heq =>
    have h2 := length_trimStart_le rest
    rw [heq] at h1
    split at h
    · next c tl heq2 =>
      rw [heq2] at h2
      split at h
      · simp only [Option.some.injEq] at h
        rw [← h]
        exact Nat.lt_of_le_of_lt h2 (Nat.lt_of_lt_of_le (Nat.lt_succ_self _) h1)
      · cases h
    · cases h
  · cases h

/-- A text with every hyphen between two word characters, and the white space around it, replaced
    by what a template makes of it. -/
def joinRanges (t : Template) (cs : List Char) : List Char :=
  match cs with
  | [] => []
  | c :: rest =>
    match h : (if isWord c then afterHyphen? rest else none) with
    | some behind =>
      have : behind.length < rest.length := by
        split at h
        · exact length_lt_of_afterHyphen? h
        · cases h
      c :: t.fill (rest.take (rest.length - behind.length)) ++ joinRanges t behind
    | none => c :: joinRanges t rest
termination_by cs.length
decreasing_by
  · simp only [List.length_cons]; omega
  · simp only [List.length_cons]; omega

/-- A text with its hyphens between words replaced by a delimiter, which is a template. -/
def normalize (delimiter cs : List Char) : Except TemplateError (List Char) :=
  (Template.read delimiter).map (joinRanges · cs)

/-- Whether a character is a dash of a range of numbers. -/
def isDash (c : Char) : Bool :=
  c == '-' || c == '–' || c == '—'

/-- A range of two numbers with white space around it. -/
structure Written where
  /-- White space in front. -/
  lead : List Char
  /-- The digits of the first number. -/
  start : List Char
  /-- The digits of the last number. -/
  stop : List Char
  /-- White space behind. -/
  trail : List Char
  deriving Repr, DecidableEq

/-- Reads a range: two numbers with dashes between them, and white space anywhere but inside the
    numbers and between the dashes. -/
def read? (cs : List Char) : Option Written :=
  let lead := cs.takeWhile isSpace
  let body := cs.dropWhile isSpace
  let start := body.takeWhile isDecimal
  let joint := Text.trimStart (body.dropWhile isDecimal)
  let dashes := joint.takeWhile isDash
  let behind := Text.trimStart (joint.dropWhile isDash)
  let stop := behind.takeWhile isDecimal
  let trail := behind.dropWhile isDecimal
  if start.isEmpty || dashes.isEmpty || stop.isEmpty || !trail.all isSpace then none
  else some ⟨lead, start, stop, trail⟩

/-- Whether a character separates the members of a list of ranges. -/
def isListMark (c : Char) : Bool :=
  c == ',' || c == '&'

/-- Whether a text has nothing but blanks and marks of a list. -/
def isIdle (cs : List Char) : Bool :=
  cs.all fun c => c == ' ' || isListMark c

/-- One member of a list of ranges as it is printed, or what stands between two of them. Between the
    numbers of a range the delimiter is printed as it is. -/
def formatPiece (format : Option PageRangeFormat) (delimiter cs : List Char) :
    Except TemplateError (List Char) :=
  match read? cs with
  | some r =>
    let stop := if format.isNone then r.stop else collapseEnd format r.start r.stop
    .ok (r.lead ++ r.start ++ delimiter ++ stop ++ r.trail)
  | none => if isIdle cs then .ok cs else normalize delimiter cs

/-- The members of a list of ranges, with a mark and the white space around it between two of
    them. -/
def splitList (cs : List Char) : List (List Char) :=
  match h : cs.dropWhile (!isListMark ·) with
  | [] => [cs]
  | mark :: rest =>
    have : (Text.trimStart rest).length < cs.length := by
      have hle : (cs.dropWhile (!isListMark ·)).length ≤ cs.length :=
        (List.dropWhile_sublist _).length_le
      rw [h] at hle
      exact Nat.lt_of_le_of_lt (length_trimStart_le rest) hle
    let front := cs.takeWhile (!isListMark ·)
    let member := Text.trimEnd front
    member :: (front.drop member.length ++ mark :: rest.takeWhile isSpace) ::
      splitList (Text.trimStart rest)
termination_by cs.length

/-- A list of ranges as it is printed. -/
def formatPages (format : Option PageRangeFormat) (delimiter cs : List Char) :
    Except TemplateError (List Char) := do
  let pieces ← (splitList cs).mapM (formatPiece format delimiter)
  return pieces.flatten

end PageRange

end CslProcessor
