import CslProcessor.Style.Builtin.Shared

/-!
# Numbers

A style in the manner of the IEEE: citations by number, in the order in which entries are cited.

## Main definitions

* `ieee`: The style.
-/

namespace CslProcessor

namespace Builtin

namespace Ieee

/-- A variable behind its label. -/
def labelled (name : String) : Node :=
  .grouped " " [.label name .short .contextual {}, .ofVariable name]

/-- The order of the numbers. -/
def byNumber : List SortKey :=
  [{ source := .byVariable "citation-number" }]

/-- The citations. -/
def citation : Section :=
  { layout :=
      { children := [.ofVariable "citation-number" (wrapped "[" "]")]
        delimiter := ", " }
    sort := byNumber }

/-- The authors. -/
def author : Node :=
  .names
    { variableNames := ["author"]
      name :=
        { conjunction := some .text
          initialMark := some ". "
          etAlMin := some 7
          etAlUseFirst := some 1 }
      etAl := { formatting := italic } } []

/-- The month and year of publication. -/
def issued : Node :=
  .date
    { variableName := "issued"
      parts := [{ name := "month", form := some "short", formatting := wrapped "" " " },
        { name := "year" }] }

/-- The bibliography. -/
def bibliography : Section :=
  { layout :=
      { children :=
          [.ofVariable "citation-number" (wrapped "[" "] "),
           .grouped ", "
            [author, .ofVariable "title" { quotes := true }, .ofVariable "container-title" italic,
             labelled "volume", labelled "issue", labelled "page", issued]
            (wrapped "" ".")] }
    sort := byNumber }

end Ieee

/-- A style with numbers. -/
def ieee : Style :=
  { id := "ieee"
    title := "IEEE"
    citation := Ieee.citation
    bibliography := some Ieee.bibliography
    pageRangeFormat := some .expanded }

end Builtin

end CslProcessor
