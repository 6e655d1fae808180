import CslProcessor.Style.Builtin.Shared

/-!
# Author and date

A style in the manner of the American Psychological Association: citations by author and year in
the text, letters behind the year, and an ampersand before the last author.

## Main definitions

* `apa`: The style.
-/

namespace CslProcessor

namespace Builtin

namespace Apa

/-- The names of the bibliography. -/
def bibliographyNames : NameOptions :=
  { conjunction := some .symbol
    delimiterPrecedesLast := .always
    initialMark := some ". "
    nameAsSortOrder := some .all
    etAlMin := some 21
    etAlUseFirst := some 19
    etAlUseLast := true }

/-- The label of editors. -/
def editorLabel : NameLabel :=
  { form := .short
    formatting := { lead := " (", trail := ")", textCase := some .capitalizeFirst } }

/-- Authors in the bibliography, or the editors or the title in their place. -/
def author : List Node :=
  [.names { variableNames := ["author"], name := bibliographyNames }
    [.names { variableNames := ["editor"], label := some editorLabel } [], .ofMacro "title"]]

/-- Authors in a citation, or the editors or the title in their place. -/
def authorShort : List Node :=
  [.names
    { variableNames := ["author"]
      name :=
        { form := .short, conjunction := some .symbol, etAlMin := some 3, etAlUseFirst := some 1 } }
    [.names { variableNames := ["editor"] } [], .ofVariable "title" italic .short]]

/-- The year with its letters, or the term for a missing date. -/
def yearOfIssue : List Node :=
  [.choose [.mk (hasValue "issued") [issuedYear, .ofVariable "year-suffix"]]
    [.ofTerm "no date" {} .short, .ofVariable "year-suffix" (wrapped "-" "")]]

/-- The month and day, led by a comma when either exists. -/
def monthAndDay : Node :=
  .date
    { variableName := "issued"
      parts := [{ name := "month", form := some "long" },
        { name := "day", formatting := wrapped " " "" }]
      formatting := wrapped ", " "" }

/-- The full date, or the term for a missing one. -/
def dateOfIssue : List Node :=
  [.choose [.mk (hasValue "issued") [issuedYear, .ofVariable "year-suffix", monthAndDay]]
    [.ofMacro "issued-year"]]

/-- Edition and volume between parentheses. -/
def editionAndVolume : List Node :=
  [.grouped ", "
    [.grouped ""
      [.number "edition" .ordinal {}, .ofTerm "edition" (wrapped " " "") .short],
     .grouped " "
      [.label "volume" .short .contextual capitalized, .number "volume" .numeric {}]]
    (wrapped " (" ")")]

/-- The title, in italics where the entry stands for itself. -/
def title : List Node :=
  [.choose
    [.mk (ofTypes standaloneTypes)
      [.grouped ""
        [.ofVariable "title" { italic with textCase := some .sentence },
         .ofMacro "edition-volume"]]]
    [.ofVariable "title" { textCase := some .sentence }]]

/-- Where an entry of a periodical appeared. -/
def periodical : List Node :=
  [.grouped ", "
    [.ofVariable "container-title" italic,
     .grouped "" [.ofVariable "volume" italic, .ofVariable "issue" (wrapped "(" ")")],
     .ofVariable "page"]]

/-- Where an entry within a larger work appeared. -/
def contained : List Node :=
  [.grouped " "
    [.ofTerm "in" capitalized,
     .grouped ", "
      [.names
        { variableNames := ["editor"]
          name := { conjunction := some .symbol, initialMark := some ". " }
          label := some editorLabel } [],
       .ofVariable "container-title" italic],
     .grouped " " [.label "page" .short .contextual {}, .ofVariable "page"] (wrapped "(" ")")],
   .ofVariable "publisher" (wrapped ". " "")]

/-- Where an entry appeared. -/
def container : List Node :=
  [.choose [.mk (ofTypes periodicalTypes) periodical, .mk (ofTypes containedTypes) contained]
    [.ofVariable "publisher"]]

/-- Where an entry is found: its identifier, or an address with the date of access. -/
def access : List Node :=
  [.choose
    [.mk (hasValue "DOI") [.ofVariable "DOI" (wrapped "https://doi.org/" "")],
     .mk (hasValue "URL")
      [.grouped " "
        [.ofTerm "retrieved" capitalized,
         .date { variableName := "accessed", form := some .text, formatting := wrapped "" "," },
         .ofTerm "from"]
        (wrapped "" " "),
       .ofVariable "URL"]]
    []]

/-- The citations. -/
def citation : Section :=
  { layout :=
      { children :=
          [.grouped ", "
            [.ofMacro "author-short", .ofMacro "issued-year",
             .grouped " " [.label "locator" .short .contextual {}, .ofVariable "locator"]]]
        delimiter := "; "
        formatting := wrapped "(" ")" }
    disambiguation := [.addNames, .addGivenName, .addYearSuffix]
    givenNameRule := .primaryNameWithInitials }

/-- The bibliography. -/
def bibliography : Section :=
  { layout :=
      { children :=
          [.grouped ". "
            [.ofMacro "author", .ofMacro "issued-date" (wrapped "(" ")"), .ofMacro "title",
             .ofMacro "container"]
            (wrapped "" "."),
           .ofMacro "access" (wrapped " " "")] }
    sort :=
      [{ source := .byMacro "author" }, { source := .byVariable "issued" },
       { source := .byVariable "title" }] }

end Apa

/-- A style by author and date. -/
def apa : Style :=
  { id := "apa"
    title := "American Psychological Association 7th edition"
    citation := Apa.citation
    bibliography := some Apa.bibliography
    macros :=
      [("author", Apa.author), ("author-short", Apa.authorShort),
       ("issued-year", Apa.yearOfIssue), ("issued-date", Apa.dateOfIssue),
       ("edition-volume", Apa.editionAndVolume), ("title", Apa.title),
       ("container", Apa.container), ("access", Apa.access)]
    pageRangeFormat := some .expanded }

end Builtin

end CslProcessor
