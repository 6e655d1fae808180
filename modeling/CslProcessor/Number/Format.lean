import CslProcessor.Locale.Basic
import CslProcessor.Number.Range
import CslProcessor.Number.Roman

/-!
# Numbers as they are printed

A value that writes an integer is printed in the form the style asks for: in figures, as an
ordinal in figures or in words, or in Roman numerals. Any other value is printed as it was
written, with the hyphens of a range replaced by the dash.

## Main definitions

* `NumberText.format`: A number in a form.
* `Locale.pageDelimiter`, `Locale.formatPages`: Ranges of pages in a locale.
-/

namespace CslProcessor

namespace NumberText

/-- The delimiter between the numbers of a range, where the locale does not matter. -/
def rangeDash : String := "–"

/-- An integer in a form. -/
def formatInteger (n : Nat) (form : NumberForm) (locale : Locale) : String :=
  match form with
  | .numeric => toString n
  | .ordinal => locale.ordinal n
  | .longOrdinal => locale.longOrdinal n
  | .roman => roman n

/-- A number in a form. -/
def format (v : NumberText) (form : NumberForm) (locale : Locale) : Except NotDecimal String := do
  match ← v.integer with
  | some n => return formatInteger n form locale
  | none =>
    let dash := Template.literal rangeDash.toList
    return if v.isNumeric then String.ofList (PageRange.joinRanges dash v.core) else v.raw

end NumberText

/-- The delimiter of ranges of pages in a locale. -/
def Locale.pageDelimiter (l : Locale) : String :=
  let delimiter := l.term "page-range-delimiter"
  if delimiter.isEmpty then NumberText.rangeDash else delimiter

/-- Ranges of pages in a form, with the delimiter of a locale. -/
def Locale.formatPages (l : Locale) (format : Option PageRangeFormat) (text : String) :
    Except TemplateError String :=
  (PageRange.formatPages format l.pageDelimiter.toList text.toList).map String.ofList

end CslProcessor
