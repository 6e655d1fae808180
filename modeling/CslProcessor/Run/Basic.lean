import CslProcessor.Entry.Variable
import CslProcessor.Run.Flags
import CslProcessor.Text.Basic

/-!
# Text runs

The output of the library: pieces of text, each with a tag that says what it is, the variable it
comes from, and style flags. What the pieces look like on a page is up to the caller.

Runs without text print nothing. Text around an element, and delimiters between elements, are
only printed where the elements print something.

## Main definitions

* `RunTag`, `RunTag.ofVariable`: What a run is, and what the runs of a variable are.
* `TextRun`: A piece of output.
* `plainText`, `isBlank`: The text of runs, and whether there is any.
* `withAffixes`, `withFlags`, `joinRuns`: Runs with text around them, with flags, and joined.

## Theorems

* `plainText_append`: The text of runs in sequence.
* `isBlank_append`: Runs in sequence are blank if all of them are.
-/

namespace CslProcessor

/-- What a run is. -/
inductive RunTag
  | author | names | year | date | title | container | publisher | locator | number
  | citationNumber | yearSuffix | identifier | term | punctuation | text
  deriving Repr, DecidableEq, Inhabited

instance : Named RunTag where
  members := [.author, .names, .year, .date, .title, .container, .publisher, .locator, .number,
    .citationNumber, .yearSuffix, .identifier, .term, .punctuation, .text]
  name
    | .author => "author"
    | .names => "names"
    | .year => "year"
    | .date => "date"
    | .title => "title"
    | .container => "container"
    | .publisher => "publisher"
    | .locator => "locator"
    | .number => "number"
    | .citationNumber => "citation-number"
    | .yearSuffix => "year-suffix"
    | .identifier => "identifier"
    | .term => "term"
    | .punctuation => "punctuation"
    | .text => "text"

namespace RunTag

/-- Variables whose runs have a tag of their own. -/
def special : List (String × RunTag) :=
  [("author", author), ("title", title), ("title-short", title), ("container-title", container),
    ("container-title-short", container), ("collection-title", container),
    ("publisher", publisher), ("publisher-place", publisher), ("locator", locator),
    ("citation-number", citationNumber), ("year-suffix", yearSuffix), ("DOI", identifier),
    ("ISBN", identifier), ("ISSN", identifier), ("PMID", identifier), ("PMCID", identifier),
    ("URL", identifier)]

/-- The tag of the runs of a variable: its own, or that of its class. -/
def ofVariable (name : String) : RunTag :=
  match special.lookup name with
  | some tag => tag
  | none =>
    if Variable.nameVariables.contains name then names
    else if name == "issued" then year
    else if Variable.dateVariables.contains name then date
    else if Variable.numberVariables.contains name then number
    else text

end RunTag

/-- A piece of output. -/
structure TextRun where
  /-- The text. -/
  text : String
  /-- What it is. -/
  tag : RunTag := .text
  /-- The variable it comes from. -/
  variableName : Option String := none
  /-- The style flags. -/
  flags : Flags := []
  /-- Whether the text must be kept as it is. -/
  verbatim : Bool := false
  deriving Repr, DecidableEq, Inhabited

namespace TextRun

/-- Text that no variable supplies, such as a delimiter. -/
def punctuation (text : String) : TextRun :=
  { text, tag := .punctuation }

/-- A run with more flags. -/
def addFlags (flags : Flags) (r : TextRun) : TextRun :=
  { r with flags := flags.union r.flags }

end TextRun

namespace Runs

/-- The text of runs. -/
def plainText (runs : List TextRun) : String :=
  String.join (runs.map TextRun.text)

/-- Whether runs have no text. -/
def isBlank (runs : List TextRun) : Bool :=
  runs.all (·.text.isEmpty)

/-- A run of punctuation, or nothing for an empty text. -/
def punctuation (text : String) : List TextRun :=
  if text.isEmpty then [] else [TextRun.punctuation text]

/-- Runs with text around them, if they have text themselves. -/
def withAffixes (lead trail : String) (runs : List TextRun) : List TextRun :=
  if isBlank runs then [] else punctuation lead ++ runs ++ punctuation trail

/-- Runs with more flags. -/
def withFlags (flags : Flags) (runs : List TextRun) : List TextRun :=
  runs.map (TextRun.addFlags flags)

/-- Puts a group of runs behind those joined so far. -/
def joinStep (delimiter : String) (joined group : List TextRun) : List TextRun :=
  if isBlank group then joined
  else if joined.isEmpty then group
  else joined ++ punctuation delimiter ++ group

/-- Groups of runs with a delimiter between them, blank groups left out. -/
def joinRuns (delimiter : String) (groups : List (List TextRun)) : List TextRun :=
  groups.foldl (joinStep delimiter) []

/-- The text of runs as characters. -/
theorem toList_plainText (runs : List TextRun) :
    (plainText runs).toList = runs.flatMap (·.text.toList) := by
  simp [plainText, String.toList_join, List.flatMap_map]

/-- The text of runs in sequence. -/
theorem plainText_append (a b : List TextRun) :
    plainText (a ++ b) = plainText a ++ plainText b := by
  simp [plainText, String.join_append]

/-- Runs are blank exactly if no one of them has text. -/
theorem isBlank_append (a b : List TextRun) : isBlank (a ++ b) = (isBlank a && isBlank b) := by
  simp [isBlank]

end Runs

end CslProcessor
