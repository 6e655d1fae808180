import CslProcessor.Render.Context
import CslProcessor.Run.Output

/-!
# Citations of a document

A citation stands at a position of the document and cites one entry or several, each perhaps with
the place within the entry that is meant and with text around it.

## Main definitions

* `CitationItem`, `CitationEvent`: Cites and citations.
* `EventRecord`: A citation that was accepted, with what became of it.
-/

namespace CslProcessor

/-- One cite of a citation. -/
structure CitationItem where
  /-- The entry. -/
  entryId : String
  /-- The place within the entry. -/
  locator : Option String := none
  /-- What kind of place it is. -/
  locatorType : String := "page"
  /-- Text in front of the cite. -/
  lead : String := ""
  /-- Text behind the cite. -/
  trail : String := ""
  deriving Repr, DecidableEq, Inhabited

/-- A citation. -/
structure CitationEvent where
  /-- The cites. -/
  items : List CitationItem
  /-- Where in the document the citation stands. -/
  position : Int
  deriving Repr, DecidableEq, Inhabited

namespace CitationEvent

/-- A citation of whole entries. -/
def ofIds (ids : List String) (position : Int) : CitationEvent :=
  ⟨ids.map fun id => { entryId := id }, position⟩

/-- The entries that are cited. -/
def entryIds (e : CitationEvent) : List String :=
  e.items.map (·.entryId)

end CitationEvent

/-- A citation that was accepted. -/
structure EventRecord where
  /-- The citation. -/
  event : CitationEvent
  /-- The positions of its entries in the store. -/
  indexes : List Nat
  /-- What is known of its cites. -/
  cites : List CiteContext
  /-- Its output, empty until it has been rendered. -/
  rendered : RenderedCitation := {}
  deriving Repr, Inhabited

end CslProcessor
