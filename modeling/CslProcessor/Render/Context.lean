import CslProcessor.Disambiguation.State
import CslProcessor.Entry.Basic
import CslProcessor.Number.Format
import CslProcessor.Style.Basic

/-!
# What a cite is rendered with

Everything the rendering of an entry depends on beside the entry: the style and the section of it,
the locale, the cite, what tells the entry apart, and whether the output is for sorting.

## Main definitions

* `CiteContext`: What is known of a cite.
* `CiteContext.state`, `CiteContext.isAt`: The position of a cite.
* `RenderContext`: What a rendering depends on.
* `Condition.holds`: Whether a condition is fulfilled.
* `RenderError`: Why a rendering can fail.
-/

namespace CslProcessor

/-- What is known of a cite. -/
structure CiteContext where
  /-- The position among the cites of the document, nearness not counted. -/
  position : Position := .first
  /-- Whether the entry was cited shortly before. -/
  nearNote : Bool := false
  /-- The place within the entry that is cited. -/
  locator : Option String := none
  /-- What kind of place it is. -/
  locatorType : String := "page"
  /-- The number of the entry. -/
  citationNumber : Option Int := none
  /-- The number of the note that cited the entry first. -/
  firstNoteNumber : Option Int := none
  deriving Repr, DecidableEq, Inhabited

namespace CiteContext

/-- The position of a cite, with nearness in place of any other repetition. -/
def state (c : CiteContext) : Position :=
  if c.position == .subsequent && c.nearNote then .nearNote else c.position

/-- Whether a cite is at a position that a condition asks for. -/
def isAt (c : CiteContext) : Position → Bool
  | .first => c.position == .first
  | .subsequent => c.position != .first
  | .ibid => c.position == .ibid || c.position == .ibidWithLocator
  | .ibidWithLocator => c.position == .ibidWithLocator
  | .nearNote => c.nearNote && c.position != .first

end CiteContext

/-- What a rendering depends on beside the entry. -/
structure RenderContext where
  /-- The style. -/
  style : Style
  /-- The locale. -/
  locale : Locale
  /-- The section of the style. -/
  part : Section
  /-- The cite. -/
  cite : CiteContext := {}
  /-- What tells the entry apart. -/
  disambiguation : EntryDisambiguation := {}
  /-- Whether the output is for sorting. -/
  sorting : Bool := false
  deriving Repr, Inhabited

/-- Why a rendering can fail. -/
inductive RenderError
  /-- A number has a digit without place value. -/
  | notDecimal (text : String)
  /-- The index of the letters behind a year is negative. -/
  | negativeSuffix (index : Int)
  /-- The delimiter of ranges of pages is no template. -/
  | delimiter (e : TemplateError)
  deriving Repr, DecidableEq

namespace RenderError

/-- The message for a rendering that failed. -/
def message : RenderError → String
  | notDecimal text => "Not a decimal number: " ++ text
  | negativeSuffix _ => "Year suffix index must be non-negative"
  | delimiter .malformed => "Malformed template"
  | delimiter (.unknownName name) => "Unknown group name: " ++ name

/-- The outcome of reading a number. -/
def ofNumber {α : Type} : Except NotDecimal α → Except RenderError α
  | .ok a => .ok a
  | .error e => .error (.notDecimal e.text)

/-- The outcome of finding letters. -/
def ofSuffix {α : Type} : Except NegativeSuffix α → Except RenderError α
  | .ok a => .ok a
  | .error e => .error (.negativeSuffix e.index)

/-- The outcome of printing ranges of pages. -/
def ofPages {α : Type} : Except TemplateError α → Except RenderError α
  | .ok a => .ok a
  | .error e => .error (.delimiter e)

end RenderError

namespace RenderContext

/-- The letters behind the year. -/
def letters? (c : RenderContext) : Except RenderError (Option String) :=
  RenderError.ofSuffix c.disambiguation.letters?

/-- The same context for a cite and what tells its entry apart. -/
def forCite (c : RenderContext) (cite : CiteContext) (d : EntryDisambiguation) : RenderContext :=
  { c with cite, disambiguation := d }

/-- Ranges of pages in the form of the style. -/
def pageText (c : RenderContext) (text : String) : Except RenderError String :=
  RenderError.ofPages (c.locale.formatPages c.style.pageRangeFormat text)

/-- The text of a number or a locator. Only that of pages is taken for ranges. -/
def textOf (c : RenderContext) (kind text : String) : Except RenderError String :=
  if kind == "page" then c.pageText text else .ok text

/-- Whether a variable has a value for the cite. -/
def hasVariable (c : RenderContext) (e : Entry) (name : String) : Bool :=
  if name == "locator" then c.cite.locator.isSome
  else if name == "citation-number" then c.cite.citationNumber.isSome
  else if name == "year-suffix" then c.disambiguation.yearSuffix.isSome
  else e.has name

/-- The value that decides whether a variable is numeric. -/
def numericText? (c : RenderContext) (e : Entry) (name : String) : Option NumberText :=
  if name == "locator" then (c.cite.locator.filter (!·.isEmpty)).map (⟨·⟩)
  else match e.get? name with
    | some (.number n) => some n
    | some (.text t) => some ⟨t.text⟩
    | _ => none

/-- Whether a variable is numeric. -/
def isNumeric (c : RenderContext) (e : Entry) (name : String) : Bool :=
  (c.numericText? e name).any (·.isNumeric)

end RenderContext

/-- Whether a variable holds an approximate date. -/
def Entry.isUncertain (e : Entry) (name : String) : Bool :=
  (e.date? name).any (·.approximate)

namespace Condition

/-- The outcomes of the tests of a condition. -/
def tests (c : Condition) (e : Entry) (ctx : RenderContext) : List Bool :=
  c.types.map (Named.name e.type == ·)
    ++ c.variableNames.map (ctx.hasVariable e)
    ++ c.isNumeric.map (ctx.isNumeric e)
    ++ c.isUncertainDate.map e.isUncertain
    ++ c.locators.map (fun l => ctx.cite.locator.isSome && ctx.cite.locatorType == l)
    ++ c.positions.map ctx.cite.isAt
    ++ (c.disambiguate.map (ctx.disambiguation.condition == ·)).toList

/-- Whether a condition is fulfilled. A condition without tests is, unless one of them has to
    be. -/
def holds (c : Condition) (e : Entry) (ctx : RenderContext) : Bool :=
  c.quantifier.combine (c.tests e ctx)

end Condition

end CslProcessor
