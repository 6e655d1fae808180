import CslProcessor.Style.Basic

/-!
# What the built-in styles share

## Main definitions

* `italic`, `wrapped`: Looks that occur often.
* `periodicalTypes`, `containedTypes`, `standaloneTypes`: Classes of entries.
* `ofTypes`: The condition that an entry is of one of some types.
* `issuedYear`: The year of publication.
-/

namespace CslProcessor

namespace Builtin

/-- Italic letters. -/
def italic : Formatting :=
  { fontStyle := some "italic" }

/-- Text in front and behind. -/
def wrapped (lead trail : String) : Formatting :=
  { lead, trail }

/-- A capital in front. -/
def capitalized : Formatting :=
  { textCase := some .capitalizeFirst }

/-- Entries that appear in a periodical. -/
def periodicalTypes : List String :=
  ["article-journal", "article-magazine", "article-newspaper"]

/-- Entries that appear within a larger work. -/
def containedTypes : List String :=
  ["chapter", "paper-conference", "entry"]

/-- Entries that stand for themselves. -/
def standaloneTypes : List String :=
  ["book", "report", "thesis", "dataset", "software", "motion-picture", "webpage"]

/-- The entry is of one of some types. -/
def ofTypes (types : List String) : Condition :=
  { types, quantifier := .any }

/-- The entry has a value for a variable. -/
def hasValue (name : String) : Condition :=
  { variableNames := [name] }

/-- The year of publication. -/
def issuedYear (formatting : Formatting := {}) : Node :=
  .date { variableName := "issued", parts := [{ name := "year" }], formatting }

end Builtin

end CslProcessor
