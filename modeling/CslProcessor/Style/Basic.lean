import CslProcessor.Locale.Basic
import CslProcessor.Number.Range
import CslProcessor.Style.Node

/-!
# Styles

A style has a section for citations, and usually one for the bibliography. A section has a layout
and options of its own. Elements that several places share are macros of the style.

## Main definitions

* `Layout`, `Section`, `Style`: Layouts, sections and styles.
* `Style.macroNodes?`: The elements of a macro.
* `Style.printsYearSuffix`: Whether the style has a place of its own for the letter behind a year.
-/

namespace CslProcessor

/-- The elements of one cite or item, and what stands between and around cites. -/
structure Layout where
  /-- The elements. -/
  children : List Node
  /-- What stands between two cites. -/
  delimiter : String := ""
  /-- The looks of the whole. -/
  formatting : Formatting := {}
  deriving Repr, Inhabited

/-- The citations or the bibliography of a style. -/
structure Section where
  /-- The layout. -/
  layout : Layout
  /-- The criteria of sorting, most important first. -/
  sort : List SortKey := []
  /-- The least number of names that is shortened. -/
  etAlMin : Option Int := none
  /-- How many names a shortened list shows. -/
  etAlUseFirst : Option Int := none
  /-- The same least number for later cites. -/
  etAlSubsequentMin : Option Int := none
  /-- The same number of names for later cites. -/
  etAlSubsequentUseFirst : Option Int := none
  /-- What stands behind an initial. -/
  initialMark : Option String := none
  /-- The means of telling cites apart, in their order. -/
  disambiguation : List DisambiguationMethod := []
  /-- Which given names may be printed to tell cites apart. -/
  givenNameRule : GivenNameRule := .byCite
  /-- How many citations back a cite is near. -/
  nearNoteDistance : Option Int := none
  /-- What is printed instead of the names of the item before. -/
  subsequentAuthorSubstitute : Option String := none
  deriving Repr, Inhabited

/-- A style. -/
structure Style where
  /-- The name of the style. -/
  id : String
  /-- The citations. -/
  citation : Section
  /-- The bibliography. -/
  bibliography : Option Section := none
  /-- The full title. -/
  title : String := ""
  /-- Where citations stand. -/
  styleClass : StyleClass := .inText
  /-- The macros by name. -/
  macros : List (String × List Node) := []
  /-- Terms that count before those of the locale. -/
  localeTerms : Terms := []
  /-- The form of ranges of pages. -/
  pageRangeFormat : Option PageRangeFormat := none
  /-- Where particles move behind the given name. -/
  demoteParticle : ParticleDemotion := .displayAndSort
  /-- Whether initials keep their hyphens. -/
  initialsWithHyphen : Bool := true
  deriving Repr, Inhabited

namespace Style

/-- Whether citations stand in notes. -/
def isNote (s : Style) : Bool :=
  s.styleClass == .note

/-- The elements of a macro. -/
def macroNodes? (s : Style) (name : String) : Option (List Node) :=
  s.macros.lookup name

/-- The elements of the layouts and of all macros. -/
def roots (s : Style) : List Node :=
  s.citation.layout.children
    ++ (s.bibliography.map (·.layout.children)).getD []
    ++ s.macros.flatMap (·.2)

/-- Whether some element prints the letter behind a year. -/
def printsYearSuffix (s : Style) : Bool :=
  (Node.flattenAll s.roots).any (Node.printsVariable "year-suffix")

end Style

end CslProcessor
