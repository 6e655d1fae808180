import CslProcessor.Data.Reading
import CslProcessor.Disambiguation.Policy
import CslProcessor.Processor.Basic
import CslProcessor.Sorting.Value

/-!
# Citations as plain data

Cites are records of their fields. A target is the identifier of an entry or a whole cite. Terms
that entries are compared by are given by the data they look like.

## Main definitions

* `CitationItem`, `CiteTarget`, `SortTerm`, `SortValue`: The readers of these types.
-/

namespace CslProcessor

open Data

instance : Readable CitationItem where
  ofData d := do
    d.onlyFields ["entry_id", "locator", "locator_type", "prefix", "suffix"]
    return {
      entryId := ← d.need "entry_id"
      locator := ← d.get "locator" none
      locatorType := ← d.get "locator_type" "page"
      lead := ← d.get "prefix" ""
      trail := ← d.get "suffix" "" }

instance : Readable CiteTarget where
  ofData
    | text id => .ok (.ofId id)
    | d => (Readable.ofData d).map .ofItem

/-- Reads a term; lists are sequences, and truth values are numbers. -/
def SortTerm.ofData (d : Data) : Reading SortTerm := do
  match d with
  | .null => return .nothing
  | .truth b => return .number (if b then 1 else 0)
  | .int n => return .number n
  | .text s => return .text s
  | .list items => return .sequence (← (list items).itemsWith fun v _ => SortTerm.ofData v)
  | _ => throw .wrongKind
termination_by sizeOf d
decreasing_by
  rename_i h
  simpa using h

instance : Readable SortTerm := ⟨SortTerm.ofData⟩

instance : Readable SortValue where
  ofData d := do
    match ← d.items with
    | [kind, term, literal] =>
      return ⟨.ofName (← Readable.ofData kind), ← Readable.ofData term, ← Readable.ofData literal⟩
    | _ => throw .tooShort

/-- Terms are written as the data they look like. -/
def SortTerm.toData : SortTerm → Data
  | number n => .int n
  | text s => .text s
  | sequence terms => .list (terms.map SortTerm.toData)
  | nothing => .null

/-- A value is written as its kind, its term and its text. -/
def SortValue.toData (v : SortValue) : Data :=
  .list [.text v.kind.name, v.term.toData, .text v.literal]

end CslProcessor
