import CslProcessor.Style.Options
import CslProcessor.Unicode.Decomposition

/-!
# Locales

The words and date formats of a language. A locale is a table of terms, each under a name and a
form, and a style may put terms of its own over it.

A form that a term does not have is replaced by the next one that comes near: the short verb by
the verb, the symbol by the short form, and every form in the end by the long one.

## Main definitions

* `Term`, `DateFormat`, `Locale`: Terms, date formats, and the table of both.
* `Locale.withTerms`: Terms put over those of a locale.
* `TermForm.fallbacks`, `Locale.lookup?`, `Locale.term`: Finding a term.
* `Locale.month`, `Locale.season`, `Locale.ordinal`, `Locale.longOrdinal`: Terms by number.
* `collationKey`: Text for comparison without regard to accents and case.
-/

namespace CslProcessor

/-- A term with its singular and, if it has one, its plural. -/
structure Term where
  /-- The singular. -/
  single : String
  /-- The plural. -/
  multiple : Option String := none
  deriving Repr, DecidableEq, Inhabited

namespace Term

/-- The text of a term; a term without plural uses its singular. -/
def text (t : Term) (plural : Bool) : String :=
  if plural then t.multiple.getD t.single else t.single

end Term

/-- The parts of a date in the order of a language. -/
structure DateFormat where
  /-- The parts with their looks. -/
  parts : List DatePart
  /-- What stands between two parts. -/
  delimiter : String := ""
  deriving Repr, DecidableEq, Inhabited

/-- Terms under their names and forms; an earlier one hides a later one of the same name and
    form. -/
abbrev Terms := List ((String × TermForm) × Term)

/-- The words and date formats of a language. -/
structure Locale where
  /-- The tag of the language. -/
  lang : String
  /-- The terms. -/
  terms : Terms := []
  /-- The date formats by name. -/
  dateFormats : List (String × DateFormat) := []
  /-- Whether a full stop or comma moves inside a closing quote. -/
  punctuationInQuote : Bool := false
  /-- Whether only the first day of a month is an ordinal. -/
  limitDayOrdinals : Bool := false
  deriving Repr, DecidableEq, Inhabited

namespace TermForm

/-- The forms that are tried for a form, in their order. -/
def fallbacks : TermForm → List TermForm
  | long => [long]
  | short => [short, long]
  | verb => [verb, long]
  | verbShort => [verbShort, verb, long]
  | symbol => [symbol, short, long]

end TermForm

/-- Text for comparison without regard to accents and case: decomposed, without marks, and
    folded. -/
def collationKey (text : String) : String :=
  let bare := (Unicode.decompose text.toList).filter fun c => Unicode.combiningClass c == 0
  String.ofList (Unicode.caseFold bare)

namespace Locale

/-- A locale with terms put over its own; of two terms of one name and form the later counts. -/
def withTerms (l : Locale) (overrides : Terms) : Locale :=
  { l with terms := overrides.reverse ++ l.terms }

/-- The term of a name in a form, or in the form that comes nearest. -/
def lookup? (l : Locale) (name : String) (form : TermForm) : Option Term :=
  form.fallbacks.findSome? fun f => l.terms.lookup (name, f)

/-- The text of a term, empty for one that is not defined. -/
def term (l : Locale) (name : String) (form : TermForm := .long) (plural : Bool := false) :
    String :=
  match l.lookup? name form with
  | some t => t.text plural
  | none => ""

/-- Whether a term is defined in a form or in one of those tried for it. -/
def hasTerm (l : Locale) (name : String) (form : TermForm := .long) : Bool :=
  (l.lookup? name form).isSome

/-- The name of a month. -/
def month (l : Locale) (n : Int) (form : TermForm := .long) : String :=
  l.term ("month-" ++ Text.padded 2 n) form

/-- The name of a season. -/
def season (l : Locale) (n : Int) : String :=
  l.term ("season-" ++ Text.padded 2 n)

/-- The name of the ordinal ending for some last digits. -/
def ordinalTerm (digits : Int) : String :=
  "ordinal-" ++ Text.padded 2 digits

/-- The ordinal ending of a number: that of its last two digits from 10 on, if there is one, else
    that of its last digit, else the common one. -/
def ordinalSuffix (l : Locale) (n : Int) : String :=
  if n % 100 ≥ 10 && l.hasTerm (ordinalTerm (n % 100)) then l.term (ordinalTerm (n % 100))
  else if l.hasTerm (ordinalTerm (n % 10)) then l.term (ordinalTerm (n % 10))
  else l.term "ordinal"

/-- A number in figures with its ordinal ending. -/
def ordinal (l : Locale) (n : Int) : String :=
  toString n ++ l.ordinalSuffix n

/-- An ordinal in words, from one to ten and where the locale has the word, else in figures. -/
def longOrdinal (l : Locale) (n : Int) : String :=
  let word := "long-ordinal-" ++ Text.padded 2 n
  if 1 ≤ n && n ≤ 10 && l.hasTerm word then l.term word else l.ordinal n

end Locale

end CslProcessor
