import CslProcessor.Style.Formatting

/-!
# Options of a style

The closed vocabularies a style chooses from, and the options of the elements that are not
elements themselves: parts of dates, name lists, labels of names, conditions and sort keys.

## Main definitions

* `TermForm`, `LabelPlural`, `NumberForm`, `DateForm`, `DatePartsSelection`: Forms of elements.
* `Conjunction`, `DelimiterRule`, `SortOrder`, `NameForm`, `ParticleDemotion`: Options of names.
* `Quantifier`, `Position`: What conditions are made of.
* `SortDirection`, `MissingPolicy`, `SortKey`: Sorting.
* `DisambiguationMethod`, `GivenNameRule`: How cites that look alike are told apart.
* `DatePart`, `NameOptions`, `EtAl`, `NameLabel`, `Condition`: Options with several fields.
-/

namespace CslProcessor

/-- Forms of terms and variables. -/
inductive TermForm
  | long
  | short
  | verb
  | verbShort
  | symbol
  deriving Repr, DecidableEq, Inhabited

instance : Named TermForm where
  members := [.long, .short, .verb, .verbShort, .symbol]
  name
    | .long => "long"
    | .short => "short"
    | .verb => "verb"
    | .verbShort => "verb-short"
    | .symbol => "symbol"

/-- When a label takes its plural form. -/
inductive LabelPlural
  | contextual
  | always
  | never
  deriving Repr, DecidableEq, Inhabited

instance : Named LabelPlural where
  members := [.contextual, .always, .never]
  name
    | .contextual => "contextual"
    | .always => "always"
    | .never => "never"

/-- Whether a label takes its plural form, given whether its context does. -/
def LabelPlural.resolve (contextIsPlural : Bool) : LabelPlural → Bool
  | .contextual => contextIsPlural
  | .always => true
  | .never => false

/-- Forms of numbers. -/
inductive NumberForm
  | numeric
  | ordinal
  | longOrdinal
  | roman
  deriving Repr, DecidableEq, Inhabited

instance : Named NumberForm where
  members := [.numeric, .ordinal, .longOrdinal, .roman]
  name
    | .numeric => "numeric"
    | .ordinal => "ordinal"
    | .longOrdinal => "long-ordinal"
    | .roman => "roman"

/-- The date formats of a locale. -/
inductive DateForm
  | text
  | numeric
  deriving Repr, DecidableEq, Inhabited

instance : Named DateForm where
  members := [.text, .numeric]
  name
    | .text => "text"
    | .numeric => "numeric"

/-- Which parts of a localized date are printed. -/
inductive DatePartsSelection
  | yearMonthDay
  | yearMonth
  | year
  deriving Repr, DecidableEq, Inhabited

instance : Named DatePartsSelection where
  members := [.yearMonthDay, .yearMonth, .year]
  name
    | .yearMonthDay => "year-month-day"
    | .yearMonth => "year-month"
    | .year => "year"

/-- What joins the last two names of a list. -/
inductive Conjunction
  | text
  | symbol
  deriving Repr, DecidableEq, Inhabited

instance : Named Conjunction where
  members := [.text, .symbol]
  name
    | .text => "text"
    | .symbol => "symbol"

/-- When a delimiter stands before the last name or the term for further names. -/
inductive DelimiterRule
  | contextual
  | always
  | never
  | afterInvertedName
  deriving Repr, DecidableEq, Inhabited

instance : Named DelimiterRule where
  members := [.contextual, .always, .never, .afterInvertedName]
  name
    | .contextual => "contextual"
    | .always => "always"
    | .never => "never"
    | .afterInvertedName => "after-inverted-name"

/-- Which names are printed with the family name first. -/
inductive SortOrder
  | first
  | all
  deriving Repr, DecidableEq, Inhabited

instance : Named SortOrder where
  members := [.first, .all]
  name
    | .first => "first"
    | .all => "all"

/-- Forms of names. -/
inductive NameForm
  | long
  | short
  | count
  deriving Repr, DecidableEq, Inhabited

instance : Named NameForm where
  members := [.long, .short, .count]
  name
    | .long => "long"
    | .short => "short"
    | .count => "count"

/-- Where the particle of a family name moves behind the given name. -/
inductive ParticleDemotion
  | never
  | sortOnly
  | displayAndSort
  deriving Repr, DecidableEq, Inhabited

instance : Named ParticleDemotion where
  members := [.never, .sortOnly, .displayAndSort]
  name
    | .never => "never"
    | .sortOnly => "sort-only"
    | .displayAndSort => "display-and-sort"

/-- How the tests of a condition are combined. -/
inductive Quantifier
  | all
  | any
  | none
  deriving Repr, DecidableEq, Inhabited

instance : Named Quantifier where
  members := [.all, .any, .none]
  name
    | .all => "all"
    | .any => "any"
    | .none => "none"

/-- Whether the tests of a condition are fulfilled together. -/
def Quantifier.combine (tests : List Bool) : Quantifier → Bool
  | .all => tests.all id
  | .any => tests.any id
  | .none => !tests.any id

/-- Positions of a cite among the cites of a document. -/
inductive Position
  | first
  | subsequent
  | ibid
  | ibidWithLocator
  | nearNote
  deriving Repr, DecidableEq, Inhabited

instance : Named Position where
  members := [.first, .subsequent, .ibid, .ibidWithLocator, .nearNote]
  name
    | .first => "first"
    | .subsequent => "subsequent"
    | .ibid => "ibid"
    | .ibidWithLocator => "ibid-with-locator"
    | .nearNote => "near-note"

/-- Where the citations of a style stand. -/
inductive StyleClass
  | inText
  | note
  deriving Repr, DecidableEq, Inhabited

instance : Named StyleClass where
  members := [.inText, .note]
  name
    | .inText => "in-text"
    | .note => "note"

/-- Directions of sorting. -/
inductive SortDirection
  | ascending
  | descending
  deriving Repr, DecidableEq, Inhabited

instance : Named SortDirection where
  members := [.ascending, .descending]
  name
    | .ascending => "ascending"
    | .descending => "descending"

/-- Where entries without a value stand, whatever the direction. -/
inductive MissingPolicy
  | first
  | last
  deriving Repr, DecidableEq, Inhabited

instance : Named MissingPolicy where
  members := [.first, .last]
  name
    | .first => "first"
    | .last => "last"

/-- Means of telling cites apart. -/
inductive DisambiguationMethod
  | addNames
  | addGivenName
  | conditional
  | addYearSuffix
  deriving Repr, DecidableEq, Inhabited

instance : Named DisambiguationMethod where
  members := [.addNames, .addGivenName, .conditional, .addYearSuffix]
  name
    | .addNames => "add-names"
    | .addGivenName => "add-givenname"
    | .conditional => "conditional"
    | .addYearSuffix => "add-year-suffix"

/-- Which given names may be printed to tell cites apart. -/
inductive GivenNameRule
  | allNames
  | allNamesWithInitials
  | primaryName
  | primaryNameWithInitials
  | byCite
  deriving Repr, DecidableEq, Inhabited

instance : Named GivenNameRule where
  members := [.allNames, .allNamesWithInitials, .primaryName, .primaryNameWithInitials, .byCite]
  name
    | .allNames => "all-names"
    | .allNamesWithInitials => "all-names-with-initials"
    | .primaryName => "primary-name"
    | .primaryNameWithInitials => "primary-name-with-initials"
    | .byCite => "by-cite"

/-- One part of a date with its form and looks. -/
structure DatePart where
  /-- Year, month or day; any other name prints nothing. -/
  name : String
  /-- The form, of which every part has its own. -/
  form : Option String := none
  /-- What stands between the ends of a range. -/
  rangeDelimiter : String := "–"
  /-- The looks. -/
  formatting : Formatting := {}
  deriving Repr, DecidableEq, Inhabited

/-- Options of a list of names. An absent option is taken over from the section. -/
structure NameOptions where
  /-- What joins the last two names. -/
  conjunction : Option Conjunction := none
  /-- What stands between names. -/
  delimiter : String := ", "
  /-- When the delimiter stands before the last name. -/
  delimiterPrecedesLast : DelimiterRule := .contextual
  /-- When the delimiter stands before the term for further names. -/
  delimiterPrecedesEtAl : DelimiterRule := .contextual
  /-- The least number of names that is shortened. -/
  etAlMin : Option Int := none
  /-- How many names a shortened list shows. -/
  etAlUseFirst : Option Int := none
  /-- The same least number for later cites. -/
  etAlSubsequentMin : Option Int := none
  /-- The same number of names for later cites. -/
  etAlSubsequentUseFirst : Option Int := none
  /-- Whether a shortened list ends with the last name. -/
  etAlUseLast : Bool := false
  /-- Whether given names are shortened at all. -/
  useInitials : Bool := true
  /-- What stands behind an initial. -/
  initialMark : Option String := none
  /-- Which names have the family name first. -/
  nameAsSortOrder : Option SortOrder := none
  /-- What stands between the parts of a name with the family name first. -/
  sortSeparator : String := ", "
  /-- The form of the names. -/
  form : NameForm := .long
  /-- The looks of family names. -/
  familyFormatting : Formatting := {}
  /-- The looks of given names. -/
  givenFormatting : Formatting := {}
  /-- The looks of the list. -/
  formatting : Formatting := {}
  deriving Repr, DecidableEq, Inhabited

/-- The term for further names. -/
structure EtAl where
  /-- The name of the term. -/
  term : String := "et-al"
  /-- Its looks. -/
  formatting : Formatting := {}
  deriving Repr, DecidableEq, Inhabited

/-- A label beside a list of names. -/
structure NameLabel where
  /-- The form of the term. -/
  form : TermForm := .long
  /-- When it takes its plural form. -/
  plural : LabelPlural := .contextual
  /-- Whether it stands before the names. -/
  before : Bool := false
  /-- Its looks. -/
  formatting : Formatting := {}
  deriving Repr, DecidableEq, Inhabited

/-- Tests of an entry and its cite. -/
structure Condition where
  /-- The entry is of a type. -/
  types : List String := []
  /-- A variable has a value. -/
  variableNames : List String := []
  /-- A variable is numeric. -/
  isNumeric : List String := []
  /-- A date is approximate. -/
  isUncertainDate : List String := []
  /-- The cite has a locator of a type. -/
  locators : List String := []
  /-- The cite is at a position. -/
  positions : List Position := []
  /-- The entry has been told apart by conditions, or not. -/
  disambiguate : Option Bool := none
  /-- How the tests are combined. -/
  quantifier : Quantifier := .all
  deriving Repr, DecidableEq, Inhabited

/-- What entries are sorted by: a variable or the text of a macro. -/
inductive SortSource
  | byVariable (name : String)
  | byMacro (name : String)
  deriving Repr, DecidableEq, Inhabited

/-- One criterion of sorting. -/
structure SortKey where
  /-- What is compared. -/
  source : SortSource
  /-- The direction. -/
  direction : SortDirection := .ascending
  /-- Where entries without a value stand. -/
  missing : MissingPolicy := .last
  deriving Repr, DecidableEq, Inhabited

/-- A sort key names both a variable and a macro, or neither. -/
inductive SortSourceError
  | notExactlyOne
  deriving Repr, DecidableEq

/-- The message for a faulty sort key. -/
def SortSourceError.message : SortSourceError → String
  | .notExactlyOne => "SortKey needs exactly one of variable or macro"

/-- What a sort key compares, given the names of a variable and of a macro, exactly one of which
    may be present. -/
def SortSource.ofNames (variableName macroName : Option String) :
    Except SortSourceError SortSource :=
  match variableName, macroName with
  | some v, none => .ok (.byVariable v)
  | none, some m => .ok (.byMacro m)
  | _, _ => .error .notExactlyOne

end CslProcessor
