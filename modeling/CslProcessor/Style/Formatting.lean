import CslProcessor.Run.Flags
import CslProcessor.Text.Case

/-!
# Formatting

What a style can say about the looks of an element: the text around it, its font, its place on
the page, its case, quotes, and whether full stops are dropped.

The library prints no markup. Fonts and places become *flags* on the printed runs; a font option
that only restates the default has none.

## Main definitions

* `Display`: Places on the page.
* `Formatting`: The looks of an element.
* `Formatting.flags`: The flags that the runs of the element carry.
-/

namespace CslProcessor

/-- Places on the page. -/
inductive Display
  | block
  | leftMargin
  | rightInline
  | indent
  deriving Repr, DecidableEq, Inhabited

instance : Named Display where
  members := [.block, .leftMargin, .rightInline, .indent]
  name
    | .block => "block"
    | .leftMargin => "left-margin"
    | .rightInline => "right-inline"
    | .indent => "indent"

/-- The looks of an element. -/
structure Formatting where
  /-- Text in front of the element. -/
  lead : String := ""
  /-- Text behind the element. -/
  trail : String := ""
  /-- Upright, italic or oblique. -/
  fontStyle : Option String := none
  /-- Small capitals or not. -/
  fontVariant : Option String := none
  /-- How heavy the letters are. -/
  fontWeight : Option String := none
  /-- Underlined or not. -/
  textDecoration : Option String := none
  /-- Raised or lowered. -/
  verticalAlign : Option String := none
  /-- The place on the page. -/
  display : Option Display := none
  /-- The change of case. -/
  textCase : Option TextCase := none
  /-- Whether the element stands in quotes. -/
  quotes : Bool := false
  /-- Whether full stops are dropped. -/
  stripPeriods : Bool := false
  deriving Repr, DecidableEq, Inhabited

namespace Formatting

/-- Values of font options that restate the default. -/
def defaultFonts : List String :=
  ["", "normal", "baseline", "none"]

/-- The flags that the runs of the element carry. -/
def flags (f : Formatting) : Flags :=
  let fonts := [f.fontStyle, f.fontVariant, f.fontWeight, f.textDecoration, f.verticalAlign]
  Flags.ofList <|
    (fonts.filterMap id).filter (!defaultFonts.contains ·)
      ++ (f.display.map fun d => "display:" ++ Named.name d).toList

end Formatting

end CslProcessor
