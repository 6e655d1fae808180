import CslProcessor.Text.Basic
import CslProcessor.Unicode.Case

/-!
# Names of persons and institutions

A personal name has a family name and a given name, each of which may be missing, and particles
and a suffix beside them. The particle of `van Gogh` belongs to the family name wherever the name
is printed; the dropping particle of `Jean de La Fontaine` is left out where the family name
stands alone. The name of an institution is literal: it is never split or shortened.

## Main definitions

* `PersonName`: A name by its parts.
* `PersonName.isLiteral`: Whether a name is printed as a whole.
* `PersonName.familyWithParticle`: The family name with the particle that belongs to it.
* `PersonName.initials`: The given name shortened to initials.
* `PersonName.sortParts`: The parts a name is sorted by.
-/

namespace CslProcessor

/-- A name by its parts, an absent part being empty. -/
structure PersonName where
  /-- The family name. -/
  family : String := ""
  /-- The given names. -/
  given : String := ""
  /-- The particle that stays with the family name. -/
  particle : String := ""
  /-- The particle left out where the family name stands alone. -/
  droppingParticle : String := ""
  /-- A suffix such as `Jr.` -/
  suffix : String := ""
  /-- The name of an institution. -/
  literal : String := ""
  deriving Repr, DecidableEq, Inhabited

namespace PersonName

/-- Whether a name is printed as a whole. -/
def isLiteral (n : PersonName) : Bool :=
  !n.literal.isEmpty || (n.family.isEmpty && n.given.isEmpty)

/-- The text of a name that is printed as a whole. -/
def wholeText (n : PersonName) : String :=
  if !n.literal.isEmpty then n.literal else if !n.family.isEmpty then n.family else n.given

/-- The family name with the particle that belongs to it. -/
def familyWithParticle (n : PersonName) : String :=
  Text.joinWords [n.particle, n.family]

/-- The first character of a word in upper case. -/
def initial : List Char → List Char
  | [] => []
  | c :: _ => Unicode.upperChar c

/-- The initials of the parts of a hyphenated word, each followed by a mark. -/
def wordInitials (mark : List Char) (hyphenate : Bool) (word : List Char) : List Char :=
  let parts := (word.splitOnP (· == '-')).filter (!·.isEmpty)
  let shortened := parts.map fun p => initial p ++ mark
  if hyphenate then ['-'].intercalate shortened else shortened.flatten

/-- The given name shortened to initials, each followed by `mark`. A blank at the end of the mark
    separates the initials of two words; `hyphenate` keeps the hyphen within a word. -/
def initials (n : PersonName) (mark : String) (hyphenate : Bool) : String :=
  let pieces := (Text.words n.given.toList).map
    (wordInitials (Text.trimEnd mark.toList) hyphenate)
  let spacer := if Text.endsWith [' '] mark then [' '] else []
  String.ofList (Text.trim (spacer.intercalate pieces))

/-- The parts a name is sorted by: the family name, the given name and the suffix, each with the
    particle that goes with it. -/
def sortParts (n : PersonName) : String × String × String :=
  if n.isLiteral then (n.literal, "", "")
  else (n.familyWithParticle, Text.joinWords [n.given, n.droppingParticle], n.suffix)

end PersonName

end CslProcessor
