import CslProcessor.Run.Basic

/-!
# Punctuation at the seams of runs

Where two runs meet, punctuation can come twice: a title that ends in a question mark is followed
by the full stop of the style, and an element with a blank behind it by a delimiter with a blank
in front. At every seam the second of two such marks is dropped:

* a full stop behind a full stop, a question mark or an exclamation mark;
* a comma, semicolon or colon behind the same mark;
* blanks behind a blank.

A locale may ask that a full stop or comma behind a closing quote moves inside the quote. Runs
without text are left out.

## Main definitions

* `dropBlanks`, `dropDouble`: The text behind a seam without what came twice.
* `tuckIn`: The text on both sides of a seam after a mark moved inside a quote.
* `normalizePunctuation`: The runs with all their seams in order.
-/

namespace CslProcessor

namespace Runs

/-- Marks behind which a full stop is dropped. -/
def terminalMarks : List Char :=
  ['.', '?', '!']

/-- The text behind a seam without its blanks, if there is a blank before the seam. -/
def dropBlanks (before after : List Char) : List Char :=
  if before.getLast? == some ' ' then after.dropWhile (· == ' ') else after

/-- The text behind a seam without a mark that came before the seam already. -/
def dropDouble (before after : List Char) : List Char :=
  match before.getLast?, after with
  | some last, c :: rest =>
    if (c == '.' && terminalMarks.contains last)
      || ((c == ',' || c == ';' || c == ':') && last == c) then rest
    else after
  | _, _ => after

/-- The text on both sides of a seam, with a full stop or comma behind a closing quote moved
    inside the quote. -/
def tuckIn (before after : List Char) : List Char × List Char :=
  match after with
  | c :: rest =>
    if (c == '.' || c == ',') && before.getLast? == some '”' then
      (before.dropLast ++ [c, '”'], rest)
    else (before, after)
  | [] => (before, after)

/-- The text on both sides of a seam after all rules. -/
def settleSeam (punctuationInQuote : Bool) (before after : List Char) : List Char × List Char :=
  let after := dropDouble before (dropBlanks before after)
  let (before, after) := if punctuationInQuote then tuckIn before after else (before, after)
  (before, dropBlanks before after)

/-- A run with another text, or nothing for an empty one. -/
def retext (r : TextRun) (cs : List Char) : List TextRun :=
  if cs.isEmpty then [] else [{ r with text := String.ofList cs }]

/-- Puts a run behind settled runs, which are given last first. -/
def settle (punctuationInQuote : Bool) (settled : List TextRun) (r : TextRun) : List TextRun :=
  if r.text.isEmpty then settled
  else match settled with
    | [] => [r]
    | p :: rest =>
      let (before, after) := settleSeam punctuationInQuote p.text.toList r.text.toList
      retext r after ++ { p with text := String.ofList before } :: rest

/-- The runs with text, all their seams in order. -/
def normalizePunctuation (punctuationInQuote : Bool) (runs : List TextRun) : List TextRun :=
  (runs.foldl (settle punctuationInQuote) []).reverse

end Runs

end CslProcessor
