import CslProcessor.Style.Builtin.Shared

/-!
# Notes

A style in the manner of the Chicago manual: citations in notes, in full at first and short later,
with `Ibid.` for a cite of the same entry as the one before.

## Main definitions

* `chicagoNote`: The style.
-/

namespace CslProcessor

namespace Builtin

namespace ChicagoNote

/-- Quotes. -/
def quoted : Formatting :=
  { quotes := true }

/-- Entries whose title stands in quotes. -/
def quotedTypes : Condition :=
  ofTypes (periodicalTypes ++ containedTypes ++ ["post-weblog"])

/-- Editors with their label in the place of authors. -/
def labelledEditors : Node :=
  .names
    { variableNames := ["editor"]
      label := some { form := .short, formatting := wrapped ", " "" } } []

/-- Authors in full. -/
def contributorsLong : List Node :=
  [.names
    { variableNames := ["author"]
      name := { conjunction := some .text, etAlMin := some 4, etAlUseFirst := some 1 } }
    [labelledEditors]]

/-- Authors by their family names. -/
def contributorsShort : List Node :=
  [.names
    { variableNames := ["author"]
      name :=
        { form := .short, conjunction := some .text, etAlMin := some 4, etAlUseFirst := some 1 } }
    [.names { variableNames := ["editor"] } []]]

/-- The title in a form, in quotes or in italics. -/
def titleIn (form : TermForm) : List Node :=
  [.choose [.mk quotedTypes [.ofVariable "title" quoted form]] [.ofVariable "title" italic form]]

/-- Place and publisher. -/
def imprint : Node :=
  .grouped ": " [.ofVariable "publisher-place", .ofVariable "publisher"]

/-- The periodical with volume and year. -/
def periodical (formatting : Formatting) : Node :=
  .grouped " "
    [.ofVariable "container-title" italic, .ofVariable "volume", issuedYear (wrapped "(" ")")]
    formatting

/-- Where an entry appeared, in a note. -/
def publicationNote : List Node :=
  [.choose [.mk (ofTypes periodicalTypes) [periodical (wrapped ", " "")]]
    [.grouped ", " [imprint, issuedYear] (wrapped " (" ")")]]

/-- Where an entry appeared, in the bibliography. -/
def publicationBibliography : List Node :=
  [.choose
    [.mk (ofTypes periodicalTypes) [periodical {}, .ofVariable "page" (wrapped ": " "")]]
    [.grouped ", " [imprint, issuedYear]]]

/-- The term for the same entry as before. -/
def ibid : Node :=
  .ofTerm "ibid" capitalized

/-- The citations. -/
def citation : Section :=
  { layout :=
      { children :=
          [.choose
            [.mk { positions := [.ibidWithLocator] }
              [.grouped ", " [ibid, .ofVariable "locator"]],
             .mk { positions := [.ibid] } [ibid],
             .mk { positions := [.subsequent] }
              [.grouped ", "
                [.ofMacro "contributors-short", .ofMacro "title-short", .ofVariable "locator"]]]
            [.grouped ", "
              [.ofMacro "contributors-long",
               .grouped "" [.ofMacro "title", .ofMacro "publication-note"],
               .ofVariable "locator"]]]
        delimiter := "; "
        formatting := wrapped "" "." }
    disambiguation := [.addNames, .addGivenName]
    givenNameRule := .byCite }

/-- The names of the bibliography. -/
def bibliographyNames : Node :=
  .names
    { variableNames := ["author"]
      name :=
        { conjunction := some .text
          nameAsSortOrder := some .first
          delimiterPrecedesLast := .always
          etAlMin := some 11
          etAlUseFirst := some 7 } }
    [labelledEditors]

/-- The bibliography. -/
def bibliography : Section :=
  { layout :=
      { children :=
          [.grouped ". " [bibliographyNames, .ofMacro "title", .ofMacro "publication-bib"]]
        formatting := wrapped "" "." }
    sort :=
      [{ source := .byVariable "author" }, { source := .byVariable "title" },
       { source := .byVariable "issued" }]
    subsequentAuthorSubstitute := some "———" }

end ChicagoNote

/-- A style with notes. -/
def chicagoNote : Style :=
  { id := "chicago-note"
    title := "Chicago Manual of Style 17th edition (note)"
    styleClass := .note
    citation := ChicagoNote.citation
    bibliography := some ChicagoNote.bibliography
    macros :=
      [("contributors-long", ChicagoNote.contributorsLong),
       ("contributors-short", ChicagoNote.contributorsShort),
       ("title", ChicagoNote.titleIn .long), ("title-short", ChicagoNote.titleIn .short),
       ("publication-note", ChicagoNote.publicationNote),
       ("publication-bib", ChicagoNote.publicationBibliography)]
    pageRangeFormat := some .chicago }

end Builtin

end CslProcessor
