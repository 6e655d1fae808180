import CslProcessor.Data.Reading

/-!
# Entries as plain data

A name is a record of its parts, a date a record of its parts with the other end of a range inside
it. The value of a variable is told by its form: a list holds names, a record holds what its one
field says, and texts and numbers are read as the variable asks for.

## Main definitions

* `PersonName`, `Date`, `MarkedText`, `RawValue`, `Entry`: The readers of these types.
-/

namespace CslProcessor

open Data

instance : Readable PersonName where
  ofData d := do
    d.onlyFields ["family", "given", "particle", "dropping_particle", "suffix", "literal"]
    return {
      family := ← d.get "family" ""
      given := ← d.get "given" ""
      particle := ← d.get "particle" ""
      droppingParticle := ← d.get "dropping_particle" ""
      suffix := ← d.get "suffix" ""
      literal := ← d.get "literal" "" }

/-- Checks the parts of a date. -/
def CalendarDate.read (year : Int) (month day season : Option Int) : Reading CalendarDate :=
  match CalendarDate.ofParts year month day season with
  | .ok date => .ok date
  | .error e => .error (.date e)

/-- Reads a date, the other end of its range first. -/
def Date.ofData (d : Data) : Reading Date := do
  let rangeEnd ← d.givenWith "end" fun v _ => Date.ofData v
  d.onlyFields ["year", "month", "day", "season", "approximate", "end"]
  let year ← d.need "year"
  let month ← d.get "month" none
  let day ← d.get "day" none
  let season ← d.get "season" none
  let approximate ← d.get "approximate" false
  return { ← CalendarDate.read year month day season with approximate, rangeEnd }
termination_by sizeOf d

instance : Readable Date := ⟨Date.ofData⟩

/-- Checks the spans of a text. -/
def MarkedText.read (text : String) (spans : List (Int × Int)) : Reading MarkedText :=
  match MarkedText.ofSpans text spans with
  | .ok t => .ok t
  | .error e => .error (.span e)

instance : Readable MarkedText where
  ofData d := do
    let spans ← d.get "verbatim" []
    MarkedText.read (← d.need "text") spans

/-- A number is read from its text, or as the text of other data. -/
instance : Readable NumberText where
  ofData
    | text s => .ok ⟨s⟩
    | int n => .ok (NumberText.ofInt n)
    | truth b => .ok ⟨if b then "True" else "False"⟩
    | null => .ok ⟨"None"⟩
    | _ => .error .wrongKind

instance : Readable RawValue where
  ofData d := do
    match d with
    | text s => return .text s
    | int n => return .integer n
    | truth b => return .truth b
    | null => return .missing
    | list _ => return .typed (.names (← Readable.ofData d))
    | decimal .. => throw .wrongKind
    | record _ =>
      if let some v := d.field? "date" then return .typed (.date (← Readable.ofData v))
      else if let some _ := d.field? "text" then return .typed (.text (← Readable.ofData d))
      else if let some v := d.field? "number" then
        return .typed (.number ⟨← Readable.ofData v⟩)
      else if let some v := d.field? "serial" then
        return .typed (.serial ⟨← Readable.ofData v⟩)
      else throw .noSuchName

/-- The type is read first, then the variables in their order, and then their values are taken as
    the variables ask for. -/
instance : Readable Entry where
  ofData d := do
    let type ← d.get "type" EntryType.articleJournal
    let id ← d.need "id"
    let raw ← d.get "variables" (record [])
    match Entry.ofRaw id type (← raw.fieldsOf) with
    | .ok e => return e
    | .error e => throw (.value e)

end CslProcessor
