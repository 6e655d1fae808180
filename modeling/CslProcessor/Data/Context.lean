import CslProcessor.Data.Style
import CslProcessor.Locale.AmericanEnglish
import CslProcessor.Name.Format
import CslProcessor.Render.Context

/-!
# Contexts as plain data

What a rendering depends on beside the entry: the locale, the cite and what tells its entry apart.
A locale is given by its tag, or as a record of what it adds to another one.

A section is the one for citations unless the record says otherwise.

## Main definitions

* `Locale.ofData`: The reader of locales.
* `CiteContext`, `EntryDisambiguation`, `NameListSettings`: The readers of these types.
* `Style.readSection`: The section that a record asks for.
* `RenderContext.ofData`: The reader of contexts.
-/

namespace CslProcessor

open Data

namespace Locale

/-- Reads the date formats of a locale. -/
def readFormats (d : Data) : Reading (List (String × DateFormat)) := do
  (← d.fields).mapM fun (name, v) => do
    let parts ← v.get "parts" []
    return (name, { parts, delimiter := ← v.get "delimiter" "" })

/-- The locale that another one is added to. -/
def readBase (d : Data) : Locale :=
  match d.field? "base" with
  | some (text tag) => if tag.isEmpty then { lang := "" } else Locale.ofTag tag
  | _ => { lang := "" }

/-- Reads a locale. -/
def ofData (d : Data) : Reading Locale := do
  match d with
  | null => return americanEnglish
  | text tag => return Locale.ofTag tag
  | _ =>
    let base := readBase d
    let lang ← d.get "lang" base.lang
    let terms ← d.getWith "terms" [] fun v _ => Terms.ofData v
    let dateFormats ← d.getWith "date_formats" base.dateFormats fun v _ => readFormats v
    let punctuationInQuote ← d.get "punctuation_in_quote" base.punctuationInQuote
    let limitDayOrdinals ← d.get "limit_day_ordinals_to_day_1" base.limitDayOrdinals
    return { base.withTerms terms with lang, dateFormats, punctuationInQuote, limitDayOrdinals }

end Locale

instance : Readable Locale := ⟨Locale.ofData⟩

instance : Readable CiteContext where
  ofData d := do
    let position ← d.get "position" .first
    d.onlyFields ["position", "near_note", "locator", "locator_type", "citation_number",
      "first_note_number"]
    return {
      position
      nearNote := ← d.get "near_note" false
      locator := ← d.get "locator" none
      locatorType := ← d.get "locator_type" "page"
      citationNumber := ← d.get "citation_number" none
      firstNoteNumber := ← d.get "first_note_number" none }

instance : Readable EntryDisambiguation where
  ofData d := do
    d.onlyFields ["givenname_levels", "extra_names", "year_suffix", "condition"]
    return {
      givenNameLevels := ← d.get "givenname_levels" []
      extraNames := ← d.get "extra_names" 0
      yearSuffix := ← d.get "year_suffix" none
      condition := ← d.get "condition" false }

instance : Readable NameListSettings where
  ofData d := do
    let options ← d.get "options" {}
    let sortOrder ← d.get "sort_order" none
    let demote ← d.get "demote" .displayAndSort
    d.onlyFields ["options", "et_al_min", "et_al_use_first", "initialize_with", "sort_order",
      "demote", "hyphenate", "extra_names", "givenname_levels"]
    return {
      options
      etAlMin := ← d.get "et_al_min" none
      etAlUseFirst := ← d.get "et_al_use_first" none
      initialMark := ← d.get "initialize_with" none
      sortOrder
      demote
      hyphenate := ← d.get "hyphenate" true
      extraNames := ← d.get "extra_names" 0
      givenNameLevels := ← d.get "givenname_levels" [] }

/-- The section of a style that a record asks for, or one of the record itself. -/
def Style.readSection (style : Style) (d : Data) : Reading Section := do
  match d.given? "section" with
  | none | some (text "citation") => return style.citation
  | some (text "bibliography") =>
    match style.bibliography with
    | some s => return s
    | none => throw .notRecord
  | some (text _) => throw .noSuchName
  | some s => Readable.ofData s

namespace RenderContext

/-- The locale of a record, with the terms of a style if the record asks for them. -/
def readLocale (style : Style) (d : Data) : Reading Locale := do
  let locale ← d.get "locale" americanEnglish
  if ← d.get "merge_terms" false then return locale.withTerms style.localeTerms
  else return locale

/-- Reads a context. -/
def ofData (d : Data) : Reading RenderContext := do
  let style ← d.getWith "style" Builtin.apa fun v _ => Style.ofData v
  let locale ← readLocale style d
  let part ← style.readSection d
  let cite ← d.get "cite" {}
  let disambiguation ← d.get "disambiguation" {}
  let sorting ← d.get "sorting" false
  return { style, locale, part, cite, disambiguation, sorting }

end RenderContext

instance : Readable RenderContext := ⟨RenderContext.ofData⟩

end CslProcessor
