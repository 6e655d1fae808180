import CslProcessor.Date.Render
import CslProcessor.Entry.Description
import CslProcessor.Name.List
import CslProcessor.Render.Context

/-!
# Elements without elements below them

The runs of the elements that print a value of the entry or of the cite by themselves, and the
looks that every element gives to its runs: full stops are dropped, then the case is changed, then
come quotes, flags, and the text around it. Runs without text have no looks.

## Main definitions

* `finish`: The looks of an element applied to its runs.
* `valueRuns`: The runs of a value printed as text.
* `labelRuns`, `numberRuns`: The runs of a label and of a number.
* `dateLayout`, `dateRuns`: The parts of a date element, and its runs.
* `nameSettings`, `namesRuns`: The options of a list of names, and the runs of lists of names.
-/

namespace CslProcessor

namespace Render

open Runs

/-- The runs without full stops, verbatim runs left as they are. -/
def stripPeriods (runs : List TextRun) : List TextRun :=
  runs.map fun r => if r.verbatim then r else { r with text := Text.without '.' r.text }

/-- The runs with their case changed. -/
def recaseRuns (case : TextCase) (runs : List TextRun) : List TextRun :=
  runs.zipWith (fun r text => { r with text })
    (Text.recase case (runs.map fun r => ⟨r.text, r.verbatim⟩))

/-- The runs between quotes of a locale. -/
def inQuotes (locale : Locale) (runs : List TextRun) : List TextRun :=
  TextRun.punctuation (locale.term "open-quote") :: runs
    ++ [TextRun.punctuation (locale.term "close-quote")]

/-- The looks of an element applied to its runs. -/
def finish (f : Formatting) (locale : Locale) (runs : List TextRun) : List TextRun :=
  if isBlank runs then []
  else
    let runs := if f.stripPeriods then stripPeriods runs else runs
    let runs := match f.textCase with
      | some case => recaseRuns case runs
      | none => runs
    let runs := if f.quotes then inQuotes locale runs else runs
    withAffixes f.lead f.trail (withFlags f.flags runs)

/-- The run of a number that the cite supplies. -/
def citeNumber (name : String) (number : Option Int) : List TextRun :=
  match number with
  | some n => [{ text := toString n, tag := .ofVariable name, variableName := some name }]
  | none => []

/-- The runs of a value printed as text. -/
def valueRuns (ctx : RenderContext) (name : String) (v : Value) :
    Except RenderError (List TextRun) := do
  let tag := RunTag.ofVariable name
  match v with
  | .text t =>
    return t.segments.map fun s =>
      { text := s.text, tag, variableName := some name, verbatim := s.verbatim }
  | .number n =>
    let text ← ctx.textOf name n.raw
    return [{ text, tag, variableName := some name }]
  | _ => return []

/-- The value of a variable in a form: its short form, if it is asked for and there is one. -/
def formValue? (e : Entry) (name : String) (form : TermForm) : Option Value :=
  match if form == .short then e.get? (name ++ "-short") else none with
  | some v => some v
  | none => e.get? name

/-- The runs of a locator. -/
def locatorRuns (ctx : RenderContext) : Except RenderError (List TextRun) := do
  match ctx.cite.locator with
  | none => return []
  | some l =>
    let text ← ctx.textOf ctx.cite.locatorType l
    return [{ text, tag := .ofVariable "locator", variableName := some "locator" }]

/-- Number variables whose label is the term of another name. -/
def labelTerms : List (String × String) :=
  [("chapter-number", "chapter"), ("collection-number", "number"), ("number-of-pages", "page"),
    ("number-of-volumes", "volume"), ("page-first", "page")]

/-- Whether the label of a value takes its plural form by itself. -/
def isPluralValue (name : String) : Value → Except RenderError Bool
  | .names ns => .ok (ns.length > 1)
  | .number n =>
    if name == "number-of-pages" || name == "number-of-volumes" then do
      return (← RenderError.ofNumber n.integer).getD 0 > 1
    else .ok n.isPlural
  | _ => .ok false

/-- The run of a term beside a variable, or nothing for an empty one. -/
def termRuns (name text : String) : List TextRun :=
  if text.isEmpty then [] else [{ text, tag := .term, variableName := some name }]

/-- The runs of the label of a locator. -/
def locatorLabel (ctx : RenderContext) (form : TermForm) (plural : LabelPlural) : List TextRun :=
  match ctx.cite.locator with
  | none => []
  | some l =>
    termRuns "locator"
      (ctx.locale.term ctx.cite.locatorType form (plural.resolve (NumberText.isPlural ⟨l⟩)))

/-- The runs of the label of a value. -/
def valueLabel (ctx : RenderContext) (name : String) (form : TermForm) (plural : LabelPlural)
    (v : Value) : Except RenderError (List TextRun) := do
  let contextIsPlural ← isPluralValue name v
  let term := (labelTerms.lookup name).getD name
  return termRuns name (ctx.locale.term term form (plural.resolve contextIsPlural))

/-- The value that a number element prints. -/
def numberValue? (ctx : RenderContext) (e : Entry) (name : String) : Option Value :=
  if name == "citation-number" then
    (ctx.cite.citationNumber.filter (· != 0)).map fun n => .number (NumberText.ofInt n)
  else if name == "locator" then
    (ctx.cite.locator.filter (!·.isEmpty)).map fun l => .number ⟨l⟩
  else e.get? name

/-- The runs of a number. A text is printed as it is, and a value of any other kind written out. -/
def numberRuns (ctx : RenderContext) (name : String) (form : NumberForm) (v : Value) :
    Except RenderError (List TextRun) := do
  let text ← match v with
    | .number n => RenderError.ofNumber (n.format form ctx.locale)
    | v => .ok v.describe
  return if text.isEmpty then []
    else [{ text, tag := .ofVariable name, variableName := some name }]

/-- Names of the parts that a selection keeps. -/
def keptParts : DatePartsSelection → List String
  | .yearMonthDay => ["year", "month", "day"]
  | .yearMonth => ["year", "month"]
  | .year => ["year"]

/-- A part of a date format with the options that the element changes. -/
def overridePart (part override : DatePart) : DatePart :=
  { part with
    form := match override.form with
      | some form => if form.isEmpty then part.form else some form
      | none => part.form
    formatting :=
      { part.formatting with
        textCase := override.formatting.textCase
        fontStyle := override.formatting.fontStyle
        fontWeight := override.formatting.fontWeight
        stripPeriods := override.formatting.stripPeriods } }

/-- The parts without the text behind the last one. -/
def clearLastTrail : List DatePart → List DatePart
  | [] => []
  | [part] => [{ part with formatting := { part.formatting with trail := "" } }]
  | part :: rest => part :: clearLastTrail rest

/-- The parts of a date format that an element prints. If one is left out, the text behind the
    last one is too, since it was meant to stand before another part. -/
def formatParts (d : DateElement) (format : DateFormat) : List DatePart :=
  let kept := format.parts.filter fun p => (keptParts d.selection).contains p.name
  let parts := kept.map fun p =>
    match d.parts.reverse.find? (·.name == p.name) with
    | some override => overridePart p override
    | none => p
  if parts.length < format.parts.length then clearLastTrail parts else parts

/-- The parts of a date element and what stands between them. -/
def dateLayout (d : DateElement) (locale : Locale) : List DatePart × String :=
  match d.form.bind fun form => locale.dateFormats.lookup (Named.name form) with
  | some format => (formatParts d format, format.delimiter)
  | none => (d.parts, d.delimiter)

/-- The runs of a date. A text stands in the place of the year. -/
def dateRuns (ctx : RenderContext) (d : DateElement) (v : Value) : List TextRun :=
  let (parts, delimiter) := dateLayout d ctx.locale
  let tag := RunTag.ofVariable d.variableName
  match v with
  | .date date =>
    DateText.renderDate { locale := ctx.locale, delimiter, tag, variableName := d.variableName }
      date parts
  | .text t =>
    if !parts.isEmpty && parts.all (·.name != "year") then []
    else [{ text := t.text, tag, variableName := some d.variableName }]
  | _ => []

/-- The run of the letters behind a year. -/
def suffixRun (letters : String) (flags : Flags := []) : TextRun :=
  { text := letters, tag := .yearSuffix, variableName := some "year-suffix", flags }

/-- The runs with letters behind the first year, if there is a year. -/
def insertSuffix? (letters : String) : List TextRun → Option (List TextRun)
  | [] => none
  | r :: rest =>
    if r.tag == .year then some (r :: suffixRun letters r.flags :: rest)
    else (insertSuffix? letters rest).map (r :: ·)

/-- The first option that is present. -/
def firstSome {α : Type} (options : List (Option α)) : Option α :=
  options.findSome? id

/-- The options of a list of names, those of the element counting before those of the section.
    For sorting, all names are printed in full with the family name first. -/
def nameSettings (ctx : RenderContext) (o : NameOptions) : NameListSettings :=
  let s := ctx.part
  let subsequent := ctx.cite.position != .first
  { options := if ctx.sorting && o.form == .short then { o with form := .long } else o
    etAlMin := firstSome <|
      if subsequent then [o.etAlSubsequentMin, s.etAlSubsequentMin, o.etAlMin, s.etAlMin]
      else [o.etAlMin, s.etAlMin]
    etAlUseFirst := firstSome <|
      if subsequent then
        [o.etAlSubsequentUseFirst, s.etAlSubsequentUseFirst, o.etAlUseFirst, s.etAlUseFirst]
      else [o.etAlUseFirst, s.etAlUseFirst]
    initialMark := firstSome [o.initialMark, s.initialMark]
    sortOrder := if ctx.sorting then some .all else o.nameAsSortOrder
    demote := ctx.style.demoteParticle
    hyphenate := ctx.style.initialsWithHyphen
    extraNames := ctx.disambiguation.extraNames
    givenNameLevels := ctx.disambiguation.givenNameLevels }

/-- The runs of a list of names with its label. -/
def withLabel (ctx : RenderContext) (label : Option NameLabel) (name : String) (count : Nat)
    (runs : List TextRun) : List TextRun :=
  match label with
  | none => runs
  | some l =>
    let term := ctx.locale.term name l.form (l.plural.resolve (count > 1))
    let labelRuns := finish l.formatting ctx.locale (termRuns name term)
    if l.before then labelRuns ++ runs else runs ++ labelRuns

/-- The runs of the list of names of one variable. -/
def nameListRuns (ctx : RenderContext) (el : NamesElement) (list : String × List PersonName) :
    List TextRun :=
  let (name, names) := list
  let runs := NameList.render (nameSettings ctx el.name) ctx.locale (.ofVariable name) name
    el.etAl names
  withLabel ctx el.label name names.length <|
    withAffixes el.name.formatting.lead el.name.formatting.trail
      (withFlags el.name.formatting.flags runs)

/-- The lists of names that an element prints. -/
def nameLists (e : Entry) (suppressed : List String) (names : List String) :
    List (String × List PersonName) :=
  ((names.filter (!suppressed.contains ·)).map fun v => (v, e.names v)).filter
    (!·.2.isEmpty)

/-- How many names some lists show together. -/
def shownTotal (s : NameListSettings) (lists : List (String × List PersonName)) : Int :=
  (lists.map fun l => s.shownCount l.2.length).foldr (· + ·) 0

/-- The runs of lists of names, or of their count. -/
def namesRuns (ctx : RenderContext) (el : NamesElement) (lists : List (String × List PersonName)) :
    List TextRun :=
  finish el.formatting ctx.locale <|
    if el.name.form == .count then
      [{ text := toString (shownTotal (nameSettings ctx el.name) lists), tag := .number
         variableName := lists.head?.map (·.1) }]
    else joinRuns el.delimiter (lists.map (nameListRuns ctx el))

/-- An element that stands in for another and has no options for names takes over those of the
    other. -/
def inherit (el owner : NamesElement) : NamesElement :=
  if el.name = {} then
    { el with name := owner.name, etAl := owner.etAl, label := el.label.or owner.label }
  else el

end Render

end CslProcessor
