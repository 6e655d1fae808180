import CslProcessor.Data.Basic
import CslProcessor.Entry.Basic
import CslProcessor.Render.Context
import CslProcessor.Run.Output

/-!
# Answers as plain data

The forms in which rendered text, values of variables and states of entries are handed out.

## Main definitions

* `Writable`: Types whose values are written as plain data.
* `Runs.toData`: Runs with their text.
* `Bibliography.toData`: A bibliography with its items.
-/

namespace CslProcessor

open Data

/-- Types whose values are written as plain data. -/
class Writable (α : Type) where
  /-- Writes a value. -/
  toData : α → Data

export Writable (toData)

instance : Writable Data := ⟨id⟩

instance : Writable String := ⟨text⟩

instance : Writable Int := ⟨int⟩

instance : Writable Nat := ⟨fun n => int n⟩

instance : Writable Bool := ⟨truth⟩

instance {α : Type} [Writable α] : Writable (Option α) :=
  ⟨fun a => (a.map toData).getD null⟩

instance {α : Type} [Writable α] : Writable (List α) :=
  ⟨fun as => list (as.map toData)⟩

instance {α β : Type} [Writable α] [Writable β] : Writable (α × β) :=
  ⟨fun p => list [toData p.1, toData p.2]⟩

/-- Members of a kind are written as their names. -/
instance (priority := low) {α : Type} [Named α] : Writable α :=
  ⟨fun a => text (Named.name a)⟩

instance : Writable Span := ⟨fun s => toData (s.start, s.stop)⟩

instance : Writable Segment := ⟨fun s => toData (s.text, s.verbatim)⟩

namespace MarkedText

/-- The fields of a marked text. -/
def dataFields (t : MarkedText) : List (String × Data) :=
  [("text", .text t.text), ("verbatim", toData t.spans), ("segments", toData t.segments),
    ("bool", .truth !t.isEmpty)]

end MarkedText

instance : Writable PersonName where
  toData n := record
    [("family", text n.family), ("given", text n.given), ("particle", text n.particle),
      ("dropping_particle", text n.droppingParticle), ("suffix", text n.suffix),
      ("literal", text n.literal)]

/-- Writes the parts of a date and what is written of the other end of its range. -/
def CalendarDate.toData (d : CalendarDate) (approximate : Bool) (rangeEnd : Data) : Data :=
  record
    [("year", int d.year), ("month", Writable.toData d.month), ("day", Writable.toData d.day),
      ("season", Writable.toData d.season), ("approximate", truth approximate),
      ("end", rangeEnd)]

/-- Writes a date with the other end of its range inside it. -/
def Date.toData : Date → Data
  | ⟨d, approximate, none⟩ => d.toData approximate null
  | ⟨d, approximate, some e⟩ => d.toData approximate e.toData

instance : Writable Date := ⟨Date.toData⟩

instance : Writable Value where
  toData
    | .text t => record (("kind", .text "text") :: t.dataFields)
    | .number n => record [("kind", text "number"), ("raw", text n.raw)]
    | .date d => record [("kind", text "date"), ("date", toData d)]
    | .serial s => record [("kind", text "serial"), ("numbers", toData s.numbers)]
    | .names ns => record [("kind", text "names"), ("names", toData ns)]

instance : Writable TextRun where
  toData r := record <|
    [("text", text r.text), ("tag", toData r.tag)]
      ++ (r.variableName.filter (!·.isEmpty)).toList.map (fun v => ("variable", text v))
      ++ (if r.flags.isEmpty then [] else [("styles", toData r.flags)])

/-- Writes runs with their joined text, and further fields. -/
def Runs.toData (runs : List TextRun) (further : List (String × Data) := []) : Data :=
  record ([("text", text (Runs.plainText runs)), ("runs", Writable.toData runs)] ++ further)

instance : Writable RenderedCitation where
  toData c := record
    [("text", text c.toText), ("entries", toData c.entryIds), ("event", toData c.eventIndex),
      ("runs", toData c.runs)]

instance : Writable BibliographyItem where
  toData i := record
    [("id", text i.entryId), ("number", toData i.number), ("text", text i.rendered.toText),
      ("rendered", toData i.rendered)]

instance : Writable Bibliography where
  toData b := record
    [("entries", toData b.entries), ("ids", toData b.entryIds), ("style", text b.style),
      ("count", toData b.items.length), ("string", text b.toText), ("items", toData b.items)]

instance : Writable EntryDisambiguation where
  toData d := record
    [("givenname_levels", toData d.givenNameLevels), ("extra_names", int d.extraNames),
      ("year_suffix", toData d.yearSuffix), ("condition", truth d.condition),
      ("letter", toData d.letters?.toOption.join)]

end CslProcessor
