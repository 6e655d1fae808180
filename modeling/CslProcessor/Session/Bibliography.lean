import CslProcessor.Session.Basic

/-!
# The bibliography of a session

The bibliography lists every entry that was mentioned, in the order that the style asks for. Where
the names at the front of an item are those of the item before, a style may have them replaced by a
fixed text.

## Main definitions

* `leadingNames`: The runs of names at the front of an item.
* `substituteAuthor`: An item with the names of the item before replaced.
* `Session.bibliography`: The bibliography.
-/

namespace CslProcessor

/-- Whether a run shows names. -/
def TextRun.showsNames (r : TextRun) : Bool :=
  r.variableName.any Variable.nameVariables.contains

/-- The runs of names at the front of an item. -/
def leadingNames (runs : List TextRun) : List TextRun :=
  runs.takeWhile TextRun.showsNames

/-- An item with its leading names replaced if they are those of the item before, and its own
    leading names. -/
def substituteAuthor (substitute previous : Option String) (runs : List TextRun) :
    List TextRun × Option String :=
  match leadingNames runs with
  | [] => (runs, none)
  | first :: more =>
    let names := Runs.plainText (first :: more)
    match substitute with
    | some text =>
      if previous == some names then
        ({ first with text, verbatim := false } :: runs.drop (more.length + 1), some names)
      else (runs, some names)
    | none => (runs, some names)

namespace Session

/-- What the item of an entry is rendered with. -/
def itemContext (s : Session) (part : Section) (index : Nat) : RenderContext where
  style := s.style
  locale := s.locale
  part := part
  cite := { citationNumber := (s.history.numbers.lookup index).map Int.ofNat }
  disambiguation := s.tracker.state index

/-- The items of entries, given the leading names of the item before. -/
def renderItems (s : Session) (part : Section) :
    Option String → List Nat → Render.Rendering (List BibliographyItem)
  | _, [] => return []
  | previous, index :: rest => do
    let entry := s.entryAt index
    let runs ← Render.renderItem (s.itemContext part index) entry part.layout
    let (substituted, names) := substituteAuthor part.subsequentAuthorSubstitute previous runs
    let rendered : RenderedCitation :=
      { runs := Render.finishLayout part.layout s.locale substituted, entryIds := [entry.id] }
    let others ← renderItems s part names rest
    return ⟨entry.id, rendered, (s.history.numbers.lookup index).getD 0⟩ :: others

/-- The entries that were mentioned, in the order of the bibliography. -/
def sortedEntries (s : Session) (part : Section) : Render.Rendering (List Nat) := do
  let indexes := s.history.mentioned
  let order ← sortEntries part.sort (indexes.map fun i => (s.entryAt i, s.itemContext part i))
  return order.filterMap (indexes[·]?)

/-- The items of all entries that were mentioned. -/
def bibliographyItems (s : Session) (part : Section) :
    Render.Rendering (List BibliographyItem) := do
  s.renderItems part none (← s.sortedEntries part)

/-- The bibliography, empty if the style has none. -/
def bibliography : Action Bibliography := do
  let s ← get
  match s.style.bibliography with
  | none =>
    report
      { severity := .debug, channel := .history, message := "Style has no bibliography section"
        fields := [("style", .text s.style.id)] }
    return { style := s.style.id }
  | some part =>
    let items ← rendering (s.bibliographyItems part)
    report (s.log.bibliographyBuilt (.number items.length))
    return { items, style := s.style.id }

end Session

end CslProcessor
