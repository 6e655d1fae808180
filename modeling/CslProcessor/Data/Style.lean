import CslProcessor.Data.Reading

/-!
# Styles as plain data

An element of a style is a record with the name of its kind under `node`. The options whose values
are names are read before the rest of a record is looked at.

A style is given by the name of a built-in one, or as a record of its parts, or as a record of the
parts in which it differs from a built-in one, whose name stands under `base`.

## Main definitions

* `Formatting`, `NameOptions`, `Condition`, `SortKey`, `Layout`, `Section`: The readers of options.
* `Node.ofData`: The reader of elements.
* `Style.ofData`: The reader of styles.
-/

namespace CslProcessor

open Data

instance : Readable Formatting where
  ofData d := do
    let display ← d.get "display" none
    let textCase ← d.get "text_case" none
    d.onlyFields ["prefix", "suffix", "font_style", "font_variant", "font_weight",
      "text_decoration", "vertical_align", "display", "text_case", "quotes", "strip_periods"]
    return {
      lead := ← d.get "prefix" ""
      trail := ← d.get "suffix" ""
      fontStyle := ← d.get "font_style" none
      fontVariant := ← d.get "font_variant" none
      fontWeight := ← d.get "font_weight" none
      textDecoration := ← d.get "text_decoration" none
      verticalAlign := ← d.get "vertical_align" none
      display
      textCase
      quotes := ← d.get "quotes" false
      stripPeriods := ← d.get "strip_periods" false }

/-- The looks under `formatting`. -/
def Data.looks (d : Data) (name : String := "formatting") : Reading Formatting :=
  d.get name {}

instance : Readable DatePart where
  ofData d := do
    let formatting ← d.looks
    d.onlyFields ["name", "form", "range_delimiter", "formatting"]
    return {
      name := ← d.need "name"
      form := ← d.get "form" none
      rangeDelimiter := ← d.get "range_delimiter" "–"
      formatting }

instance : Readable NameOptions where
  ofData d := do
    let conjunction ← d.get "and" none
    let delimiterPrecedesLast ← d.get "delimiter_precedes_last" .contextual
    let delimiterPrecedesEtAl ← d.get "delimiter_precedes_et_al" .contextual
    let nameAsSortOrder ← d.get "name_as_sort_order" none
    let form ← d.get "form" .long
    let familyFormatting ← d.looks "family_formatting"
    let givenFormatting ← d.looks "given_formatting"
    let formatting ← d.looks
    d.onlyFields ["and", "delimiter", "delimiter_precedes_last", "delimiter_precedes_et_al",
      "et_al_min", "et_al_use_first", "et_al_subsequent_min", "et_al_subsequent_use_first",
      "et_al_use_last", "initialize", "initialize_with", "name_as_sort_order", "sort_separator",
      "form", "family_formatting", "given_formatting", "formatting"]
    return {
      conjunction
      delimiter := ← d.get "delimiter" ", "
      delimiterPrecedesLast
      delimiterPrecedesEtAl
      etAlMin := ← d.get "et_al_min" none
      etAlUseFirst := ← d.get "et_al_use_first" none
      etAlSubsequentMin := ← d.get "et_al_subsequent_min" none
      etAlSubsequentUseFirst := ← d.get "et_al_subsequent_use_first" none
      etAlUseLast := ← d.get "et_al_use_last" false
      useInitials := ← d.get "initialize" true
      initialMark := ← d.get "initialize_with" none
      nameAsSortOrder
      sortSeparator := ← d.get "sort_separator" ", "
      form
      familyFormatting
      givenFormatting
      formatting }

instance : Readable EtAl where
  ofData d := do
    let formatting ← d.looks
    d.onlyFields ["term", "formatting"]
    return { term := ← d.get "term" "et-al", formatting }

instance : Readable NameLabel where
  ofData d := do
    let form ← d.get "form" .long
    let plural ← d.get "plural" .contextual
    let formatting ← d.looks
    d.onlyFields ["form", "plural", "before", "formatting"]
    return { form, plural, before := ← d.get "before" false, formatting }

instance : Readable Condition where
  ofData d := do
    let positions ← d.get "positions" []
    let quantifier ← d.get "match" .all
    d.onlyFields ["types", "variables", "is_numeric", "is_uncertain_date", "locators",
      "positions", "disambiguate", "match"]
    return {
      types := ← d.get "types" []
      variableNames := ← d.get "variables" []
      isNumeric := ← d.get "is_numeric" []
      isUncertainDate := ← d.get "is_uncertain_date" []
      locators := ← d.get "locators" []
      positions
      disambiguate := ← d.get "disambiguate" none
      quantifier }

namespace Node

/-- Reads a text element. -/
def readText (d : Data) : Reading Node := do
  let form ← d.get "form" .long
  let formatting ← d.looks
  d.onlyFields ["node", "variable", "macro", "term", "value", "form", "plural", "formatting"]
  let plural ← d.get "plural" false
  return .text (.ofNames (← d.get "variable" none) (← d.get "macro" none) (← d.get "term" none)
    (← d.get "value" none) form plural) formatting

/-- Reads a label. -/
def readLabel (d : Data) : Reading Node := do
  let form ← d.get "form" .long
  let plural ← d.get "plural" .contextual
  let formatting ← d.looks
  d.onlyFields ["node", "variable", "form", "plural", "formatting"]
  return .label (← d.get "variable" "locator") form plural formatting

/-- Reads a number element. -/
def readNumber (d : Data) : Reading Node := do
  let form ← d.get "form" .numeric
  let formatting ← d.looks
  d.onlyFields ["node", "variable", "form", "formatting"]
  return .number (← d.need "variable") form formatting

/-- Reads a date element. -/
def readDate (d : Data) : Reading Node := do
  let form ← d.get "form" none
  let selection ← d.get "date_parts" .yearMonthDay
  let parts ← d.get "parts" []
  let formatting ← d.looks
  d.onlyFields ["node", "variable", "form", "date_parts", "parts", "delimiter", "formatting"]
  return .date {
    variableName := ← d.need "variable"
    form
    selection
    parts
    delimiter := ← d.get "delimiter" ""
    formatting }

/-- Reads an element for lists of names, whose substitutes are read by someone else. -/
def readNames (d : Data) (substitutes : Reading (List Node)) : Reading Node := do
  let name ← d.get "name" {}
  let etAl ← d.get "et_al" {}
  let label ← d.get "label" none
  let substitutes ← substitutes
  let formatting ← d.looks
  d.onlyFields ["node", "variables", "name", "et_al", "label", "substitute", "delimiter",
    "formatting"]
  return .names {
    variableNames := ← d.need "variables"
    name
    etAl
    label
    delimiter := ← d.get "delimiter" ", "
    formatting } substitutes

/-- Reads a group, whose elements are read by someone else. -/
def readGroup (d : Data) (children : Reading (List Node)) : Reading Node := do
  let children ← children
  let formatting ← d.looks
  d.onlyFields ["node", "children", "delimiter", "formatting"]
  return .group children (← d.get "delimiter" "") formatting

mutual

/-- Reads an element. -/
def ofData (d : Data) : Reading Node := do
  let kind : String ← d.need "node"
  if kind == "Text" then readText d
  else if kind == "Label" then readLabel d
  else if kind == "Number" then readNumber d
  else if kind == "Date" then readDate d
  else if kind == "Names" then
    readNames d (d.getWith "substitute" [] fun v _ => listOfData v)
  else if kind == "Group" then
    readGroup d (d.getWith "children" [] fun v _ => listOfData v)
  else if kind == "Choose" then
    let branches ← d.getWith "branches" [] fun v _ => v.itemsWith fun b _ => branchOfData b
    let otherwise ← d.getWith "otherwise" [] fun v _ => listOfData v
    d.onlyFields ["node", "branches", "otherwise"]
    return .choose branches otherwise
  else if kind == "Unknown" then return .unknown kind
  else throw .noSuchName
termination_by sizeOf d

/-- Reads a branch. -/
def branchOfData (d : Data) : Reading Branch := do
  let condition ← d.get "condition" {}
  let children ← d.getWith "children" [] fun v _ => listOfData v
  return .mk condition children
termination_by sizeOf d

/-- Reads a sequence of elements. -/
def listOfData (d : Data) : Reading (List Node) :=
  d.itemsWith fun v _ => ofData v
termination_by sizeOf d

end

end Node

instance : Readable Node := ⟨Node.ofData⟩

instance : Readable Layout where
  ofData d := do
    let children ← d.get "children" []
    let formatting ← d.looks
    d.onlyFields ["children", "delimiter", "formatting"]
    return { children, delimiter := ← d.get "delimiter" "", formatting }

instance : Readable SortKey where
  ofData d := do
    let direction ← d.get "direction" .ascending
    let missing ← d.get "missing" .last
    d.onlyFields ["variable", "macro", "direction", "missing"]
    match SortSource.ofNames (← d.get "variable" none) (← d.get "macro" none) with
    | .ok source => return { source, direction, missing }
    | .error e => throw (.sortSource e)

instance : Readable Section where
  ofData d := do
    let layout ← d.need "layout"
    let sort ← d.get "sort" []
    let disambiguation ← d.get "disambiguation" []
    let givenNameRule ← d.get "givenname_rule" .byCite
    d.onlyFields ["layout", "sort", "et_al_min", "et_al_use_first", "et_al_subsequent_min",
      "et_al_subsequent_use_first", "initialize_with", "disambiguation", "givenname_rule",
      "near_note_distance", "subsequent_author_substitute"]
    return {
      layout
      sort
      etAlMin := ← d.get "et_al_min" none
      etAlUseFirst := ← d.get "et_al_use_first" none
      etAlSubsequentMin := ← d.get "et_al_subsequent_min" none
      etAlSubsequentUseFirst := ← d.get "et_al_subsequent_use_first" none
      initialMark := ← d.get "initialize_with" none
      disambiguation
      givenNameRule
      nearNoteDistance := ← d.get "near_note_distance" none
      subsequentAuthorSubstitute := ← d.get "subsequent_author_substitute" none }

/-- Reads a term with its name and form: the singular, and perhaps a plural. -/
def Terms.readOne (d : Data) : Reading ((String × TermForm) × Term) := do
  match ← d.items with
  | [name, form, single] =>
    return ((← Readable.ofData name, ← Readable.ofData form), ⟨← Readable.ofData single, none⟩)
  | [name, form, single, multiple] =>
    return ((← Readable.ofData name, ← Readable.ofData form),
      ⟨← Readable.ofData single, ← Readable.ofData multiple⟩)
  | _ => throw .wrongKind

/-- Reads terms. -/
def Terms.ofData (d : Data) : Reading Terms :=
  d.itemsWith fun v _ => Terms.readOne v

namespace Style

/-- Reads the parts in which a style differs from another. -/
def readOver (base : Style) (d : Data) : Reading Style := do
  let citation ← d.get "citation" base.citation
  let bibliography ← d.get "bibliography" base.bibliography
  let macros ← d.getWith "macros" base.macros fun v _ => v.fieldsOf
  let localeTerms ← d.getWith "locale_terms" base.localeTerms fun v _ => Terms.ofData v
  let styleClass ← d.get "style_class" base.styleClass
  let pageRangeFormat ← d.get "page_range_format" base.pageRangeFormat
  let demoteParticle ← d.get "demote_non_dropping_particle" base.demoteParticle
  return {
    id := ← d.get "id" base.id
    title := ← d.get "title" base.title
    citation
    bibliography
    macros
    localeTerms
    styleClass
    pageRangeFormat
    demoteParticle
    initialsWithHyphen := ← d.get "initialize_with_hyphen" base.initialsWithHyphen }

/-- The built-in style of a name. -/
def read (name : String) : Reading Style :=
  match Style.named name with
  | .ok s => .ok s
  | .error e => .error (.style e)

/-- Reads a style. -/
def ofData (d : Data) : Reading Style := do
  match d with
  | text name => read name
  | record _ =>
    match d.field? "base" with
    | some base => readOver (← read (← Readable.ofData base)) d
    | none =>
      if (d.field? "citation").isNone then throw .wrongKind
      readOver { id := "test", citation := { layout := { children := [] } } } d
  | _ => throw .notRecord

end Style

instance : Readable Style := ⟨Style.ofData⟩

end CslProcessor
