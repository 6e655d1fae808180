import CslProcessor.Text.Basic

/-!
# Text with verbatim spans

A text some parts of which must be printed as they were written, whatever the style does to the
case of the text around them. The parts are half-open spans of character positions, in ascending
order and without overlap; an empty span is allowed, and so are two spans that touch.

In its written form a span stands between braces. A pair of braces marks a span only if no other
brace stands between the two, and a brace that belongs to no such pair is a character like any
other.

## Main definitions

* `Span`, `MarkedText`: A span and a text with spans.
* `MarkedText.ofSpans`: Checks and orders the spans of a text.
* `MarkedText.parse`: Reads the written form.
* `MarkedText.write`: Writes braces around every span.
* `MarkedText.segments`: The text cut into verbatim and plain pieces.

## Theorems

* `length_lt_of_closeSpan?`: Reading a span leaves less text.
-/

namespace CslProcessor

/-- The character positions from `start` up to, but not including, `stop`. -/
structure Span where
  /-- The first position inside. -/
  start : Nat
  /-- The first position behind. -/
  stop : Nat
  deriving Repr, DecidableEq, Inhabited

/-- A piece of text, to be kept as it is or not. -/
structure Segment where
  /-- The characters. -/
  text : String
  /-- Whether they must be kept as they are. -/
  verbatim : Bool
  deriving Repr, DecidableEq, Inhabited

/-- A text with the spans that must be kept as they are. -/
structure MarkedText where
  /-- The whole text. -/
  text : String
  /-- The verbatim spans, in ascending order. -/
  spans : List Span := []
  deriving Repr, DecidableEq, Inhabited

/-- What can be wrong with the spans of a text. -/
inductive SpanError
  /-- The span is no part of the text. -/
  | outside (start stop : Int)
  /-- Two spans share a character. -/
  | overlapping
  deriving Repr, DecidableEq

namespace SpanError

/-- The message for a faulty span. -/
def message : SpanError → String
  | outside start stop =>
    "Verbatim span (" ++ toString start ++ ", " ++ toString stop ++ ") outside text"
  | overlapping => "Verbatim spans must not overlap"

end SpanError

namespace MarkedText

/-- Every span lies within `length` characters and none begins before the one in front of it
    has ended. -/
def ValidSpans (length : Nat) (spans : List Span) : Prop :=
  (∀ s ∈ spans, s.start ≤ s.stop ∧ s.stop ≤ length) ∧
    spans.Pairwise fun a b => a.stop ≤ b.start

/-- A text all of whose spans are in order. -/
def WellFormed (t : MarkedText) : Prop :=
  ValidSpans t.text.length t.spans

/-- Puts a pair in front of the first pair that is not smaller, pairs ordered by their first
    and then by their second component. -/
def insertPair (p : Int × Int) : List (Int × Int) → List (Int × Int)
  | [] => [p]
  | q :: qs => if p.1 < q.1 || (p.1 == q.1 && p.2 ≤ q.2) then p :: q :: qs else q :: insertPair p qs

/-- Reads pairs of positions as spans of a text of a given length. -/
def readSpans (length : Nat) : List (Int × Int) → Except SpanError (List Span)
  | [] => .ok []
  | (a, b) :: rest =>
    if 0 ≤ a ∧ a ≤ b ∧ b ≤ length then
      (readSpans length rest).map (⟨a.toNat, b.toNat⟩ :: ·)
    else .error (.outside a b)

/-- Whether some span begins before the one in front of it has ended. -/
def overlap : List Span → Bool
  | s :: t :: rest => t.start < s.stop || overlap (t :: rest)
  | _ => false

/-- A text with spans given as pairs of positions in any order. The spans are put in order and
    checked, first each by itself and then each against its neighbour. -/
def ofSpans (text : String) (pairs : List (Int × Int)) : Except SpanError MarkedText := do
  let spans ← readSpans text.length (pairs.foldr insertPair [])
  if overlap spans then throw .overlapping
  return ⟨text, spans⟩

/-- A text that is verbatim as a whole. -/
def verbatim (text : String) : MarkedText :=
  ⟨text, if text.isEmpty then [] else [⟨0, text.length⟩]⟩

/-- Whether a character delimits spans in the written form. -/
def isBrace (c : Char) : Bool :=
  c == '\x7b' || c == '\x7d'

/-- What stands behind an opening brace, read as the inside of a span and the text behind it;
    nothing if the next brace does not close. -/
def closeSpan? (cs : List Char) : Option (List Char × List Char) :=
  match cs.dropWhile (!isBrace ·) with
  | c :: rest => if c == '\x7d' then some (cs.takeWhile (!isBrace ·), rest) else none
  | [] => none

/-- Reading a span leaves less text. -/
theorem length_lt_of_closeSpan? {cs inner rest : List Char}
    (h : closeSpan? cs = some (inner, rest)) : rest.length < cs.length := by
  unfold closeSpan? at h
  split at h
  · next c tl heq =>
    split at h
    · simp only [Option.some.injEq, Prod.mk.injEq] at h
      have hlen : (cs.dropWhile (!isBrace ·)).length ≤ cs.length :=
        (List.dropWhile_sublist _).length_le
      rw [heq] at hlen
      rw [← h.2]
      exact Nat.lt_of_lt_of_le (Nat.lt_succ_self _) hlen
    · cases h
  · cases h

/-- Reads the written form: the text without the braces of its spans, and the spans, the first
    character of the text having position `at0`. -/
def parseFrom (at0 : Nat) (cs : List Char) : List Char × List Span :=
  match cs with
  | [] => ([], [])
  | c :: rest =>
    match h : (if c == '\x7b' then closeSpan? rest else none) with
    | some (inner, behind) =>
      have : behind.length < rest.length := by
        split at h
        · exact length_lt_of_closeSpan? h
        · cases h
      let (text, spans) := parseFrom (at0 + inner.length) behind
      (inner ++ text, ⟨at0, at0 + inner.length⟩ :: spans)
    | none =>
      let (text, spans) := parseFrom (at0 + 1) rest
      (c :: text, spans)
termination_by cs.length
decreasing_by
  · simp only [List.length_cons]; omega
  · simp only [List.length_cons]; omega

/-- Reads the written form, in which a span stands between braces. -/
def parse (written : String) : MarkedText :=
  let (text, spans) := parseFrom 0 written.toList
  ⟨String.ofList text, spans⟩

/-- The text from a position on, with braces around every span. -/
def writeFrom (at0 : Nat) : List Span → List Char → List Char
  | [], cs => cs
  | s :: spans, cs =>
    cs.take (s.start - at0)
      ++ '\x7b' :: (cs.drop (s.start - at0)).take (s.stop - s.start)
      ++ '\x7d' :: writeFrom s.stop spans (cs.drop (s.stop - at0))

/-- The written form, in which a span stands between braces. -/
def write (t : MarkedText) : String :=
  String.ofList (writeFrom 0 t.spans t.text.toList)

/-- A piece of text, or nothing for an empty one. -/
def piece (verbatim : Bool) (cs : List Char) : List Segment :=
  if cs.isEmpty then [] else [⟨String.ofList cs, verbatim⟩]

/-- The text from a position on, cut at the ends of the spans. -/
def segmentsFrom (at0 : Nat) : List Span → List Char → List Segment
  | [], cs => piece false cs
  | s :: spans, cs =>
    piece false (cs.take (s.start - at0))
      ++ piece true ((cs.drop (s.start - at0)).take (s.stop - s.start))
      ++ segmentsFrom s.stop spans (cs.drop (s.stop - at0))

/-- The text cut into non-empty pieces, verbatim and plain. -/
def segments (t : MarkedText) : List Segment :=
  segmentsFrom 0 t.spans t.text.toList

/-- Whether the text is empty. -/
def isEmpty (t : MarkedText) : Bool :=
  t.text.isEmpty

end MarkedText

end CslProcessor
