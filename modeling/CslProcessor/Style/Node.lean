import CslProcessor.Style.Options

/-!
# Elements of a style

The tree a style is made of. The kinds of elements are closed: text, labels, numbers, dates, lists
of names, groups and choices. A tree from elsewhere may hold elements of a kind this library does
not know; such an element keeps the name of its kind and prints nothing.

## Main definitions

* `TextSource`: What a text element prints.
* `DateElement`, `NamesElement`: The options of dates and of lists of names.
* `Node`, `Branch`: The elements.
* `Node.flatten`: An element with all elements below it.
-/

namespace CslProcessor

/-- What a text element prints. -/
inductive TextSource
  /-- The value of a variable. -/
  | ofVariable (name : String) (form : TermForm)
  /-- The elements of a macro. -/
  | ofMacro (name : String)
  /-- A term of the locale. -/
  | ofTerm (name : String) (form : TermForm) (plural : Bool)
  /-- A fixed text. -/
  | ofValue (text : String)
  /-- Nothing. -/
  | nothing
  deriving Repr, DecidableEq, Inhabited

/-- What a text element prints when several sources are named: the variable counts before the
    macro, the macro before the term, and the term before the fixed text. -/
def TextSource.ofNames (variableName macroName termName value : Option String) (form : TermForm)
    (plural : Bool) : TextSource :=
  match variableName, macroName, termName, value with
  | some v, _, _, _ => .ofVariable v form
  | none, some m, _, _ => .ofMacro m
  | none, none, some t, _ => .ofTerm t form plural
  | none, none, none, some s => .ofValue s
  | none, none, none, none => .nothing

/-- A date element. With a form, the date format of the locale is used, and the parts only change
    some of its options; without one, the parts are printed in their order. -/
structure DateElement where
  /-- The variable. -/
  variableName : String
  /-- The date format of the locale. -/
  form : Option DateForm := none
  /-- Which parts of that format are printed. -/
  selection : DatePartsSelection := .yearMonthDay
  /-- The parts. -/
  parts : List DatePart := []
  /-- What stands between two parts. -/
  delimiter : String := ""
  /-- The looks. -/
  formatting : Formatting := {}
  deriving Repr, DecidableEq, Inhabited

/-- The options of an element for lists of names, without its substitutes. -/
structure NamesElement where
  /-- The variables. -/
  variableNames : List String
  /-- The options of the lists. -/
  name : NameOptions := {}
  /-- The term for further names. -/
  etAl : EtAl := {}
  /-- The label. -/
  label : Option NameLabel := none
  /-- What stands between the lists of two variables. -/
  delimiter : String := ", "
  /-- The looks. -/
  formatting : Formatting := {}
  deriving Repr, DecidableEq, Inhabited

mutual

/-- An element of a style. -/
inductive Node
  /-- A variable, a macro, a term or a fixed text. -/
  | text (source : TextSource) (formatting : Formatting)
  /-- The term that goes with a variable. -/
  | label (variableName : String) (form : TermForm) (plural : LabelPlural) (formatting : Formatting)
  /-- A number. -/
  | number (variableName : String) (form : NumberForm) (formatting : Formatting)
  /-- A date. -/
  | date (element : DateElement)
  /-- Lists of names, or the first substitute that prints something. -/
  | names (element : NamesElement) (substitutes : List Node)
  /-- Elements that disappear together. -/
  | group (children : List Node) (delimiter : String) (formatting : Formatting)
  /-- The elements of the first branch whose condition is fulfilled. -/
  | choose (branches : List Branch) (otherwise : List Node)
  /-- An element of a kind that is not known. -/
  | unknown (kind : String)

/-- A condition with the elements that are printed if it is fulfilled. -/
inductive Branch
  | mk (condition : Condition) (children : List Node)

end

deriving instance Repr for Node, Branch

instance : Inhabited Node := ⟨.group [] "" {}⟩

namespace Node

mutual

/-- An element with all elements below it, in the order of the tree. The elements of a macro are
    not below the element that prints it. -/
def flatten : Node → List Node
  | .group children delimiter formatting =>
    .group children delimiter formatting :: flattenAll children
  | .choose branches otherwise =>
    .choose branches otherwise :: (flattenBranches branches ++ flattenAll otherwise)
  | .names element substitutes => .names element substitutes :: flattenAll substitutes
  | .text source formatting => [.text source formatting]
  | .label v form plural formatting => [.label v form plural formatting]
  | .number v form formatting => [.number v form formatting]
  | .date element => [.date element]
  | .unknown kind => [.unknown kind]

/-- All elements of a sequence of trees. -/
def flattenAll : List Node → List Node
  | [] => []
  | n :: rest => flatten n ++ flattenAll rest

/-- All elements below some branches. -/
def flattenBranches : List Branch → List Node
  | [] => []
  | .mk _ children :: rest => flattenAll children ++ flattenBranches rest

end

/-- A variable printed as text. -/
def ofVariable (name : String) (formatting : Formatting := {}) (form : TermForm := .long) : Node :=
  .text (.ofVariable name form) formatting

/-- A macro. -/
def ofMacro (name : String) (formatting : Formatting := {}) : Node :=
  .text (.ofMacro name) formatting

/-- A term. -/
def ofTerm (name : String) (formatting : Formatting := {}) (form : TermForm := .long) : Node :=
  .text (.ofTerm name form false) formatting

/-- Elements with a delimiter between them. -/
def grouped (delimiter : String) (children : List Node) (formatting : Formatting := {}) : Node :=
  .group children delimiter formatting

/-- Whether an element prints a variable as text. -/
def printsVariable (name : String) : Node → Bool
  | .text (.ofVariable v _) _ => v == name
  | _ => false

end Node

end CslProcessor
