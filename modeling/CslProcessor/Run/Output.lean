import CslProcessor.Run.Basic

/-!
# Rendered citations and bibliographies

## Main definitions

* `RenderedCitation`: The output for one citation or one item of a bibliography.
* `BibliographyItem`, `Bibliography`: A bibliography and its items.
* `Bibliography.toText`: A bibliography as plain text, one item a line.
-/

namespace CslProcessor

/-- The output for one citation or one item of a bibliography. -/
structure RenderedCitation where
  /-- The runs. -/
  runs : List TextRun := []
  /-- The entries, as they were cited. -/
  entryIds : List String := []
  /-- The index of the citation among the citations of the document. -/
  eventIndex : Option Nat := none
  deriving Repr, DecidableEq, Inhabited

namespace RenderedCitation

/-- The output as plain text. -/
def toText (r : RenderedCitation) : String :=
  Runs.plainText r.runs

/-- The runs with a tag. -/
def tagged (r : RenderedCitation) (tag : RunTag) : List TextRun :=
  r.runs.filter (·.tag == tag)

end RenderedCitation

/-- One item of a bibliography. -/
structure BibliographyItem where
  /-- The entry. -/
  entryId : String
  /-- The output. -/
  rendered : RenderedCitation
  /-- The number of the entry. -/
  number : Nat
  deriving Repr, DecidableEq, Inhabited

/-- A bibliography. -/
structure Bibliography where
  /-- The items in their order. -/
  items : List BibliographyItem := []
  /-- The style. -/
  style : String := ""
  deriving Repr, DecidableEq, Inhabited

namespace Bibliography

/-- The items as plain text. -/
def entries (b : Bibliography) : List String :=
  b.items.map (·.rendered.toText)

/-- The entries in the order of the items. -/
def entryIds (b : Bibliography) : List String :=
  b.items.map (·.entryId)

/-- The bibliography as plain text, one item a line. -/
def toText (b : Bibliography) : String :=
  "\n".intercalate b.entries

end Bibliography

end CslProcessor
