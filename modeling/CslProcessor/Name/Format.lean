import CslProcessor.Name.Basic
import CslProcessor.Style.Options

/-!
# Names as they are printed

A name is printed in one of three shapes: in the order of speech (`Vincent van Gogh`), with the
family name first (`Gogh, Vincent van`), or short (`van Gogh`). With the family name first, the
particle goes behind the given name or stays in front, as the style has it.

A name may be printed at a higher *level* than the style asks for, to tell it from another: level
1 adds the initials to a short name, and level 2 prints the given name in full.

## Main definitions

* `NameListSettings`: The options of a list of names, from whatever level of the style they come.
* `NamePart`: What a piece of a name is.
* `PersonName.givenText`: The given name in the form a style asks for.
* `PersonName.parts`, `PersonName.format`: A name in pieces, and as one text.
-/

namespace CslProcessor

/-- The options of a list of names, once those of the section and the cite are known. -/
structure NameListSettings where
  /-- The options of the element. -/
  options : NameOptions
  /-- The least number of names that is shortened. -/
  etAlMin : Option Int := none
  /-- How many names a shortened list shows. -/
  etAlUseFirst : Option Int := none
  /-- What stands behind an initial. -/
  initialMark : Option String := none
  /-- Which names have the family name first. -/
  sortOrder : Option SortOrder := none
  /-- Where particles move behind the given name. -/
  demote : ParticleDemotion := .displayAndSort
  /-- Whether initials keep their hyphens. -/
  hyphenate : Bool := true
  /-- How many names are shown beyond those of a shortened list. -/
  extraNames : Int := 0
  /-- The levels of the names, in their order. -/
  givenNameLevels : List Int := []
  deriving Repr, DecidableEq, Inhabited

namespace NameListSettings

/-- The level of the name at an index, which is zero for all names beyond those listed. -/
def level (s : NameListSettings) (index : Nat) : Int :=
  s.givenNameLevels.getD index 0

end NameListSettings

/-- What a piece of a name is. -/
inductive NamePart
  | family
  | given
  | other
  deriving Repr, DecidableEq, Inhabited

instance : Named NamePart where
  members := [.family, .given, .other]
  name
    | .family => "family"
    | .given => "given"
    | .other => "other"

namespace PersonName

/-- The given name in the form a style asks for; nothing where the form leaves it out. -/
def givenText (n : PersonName) (s : NameListSettings) (level : Int) : Option String :=
  if s.options.form == .short && level == 0 then none
  else if n.given.isEmpty then some ""
  else if level ≥ 2 then some n.given
  else if s.options.form == .short then
    let mark := s.initialMark.getD ""
    some (n.initials (if mark.isEmpty then ". " else mark) s.hyphenate)
  else match s.initialMark with
    | some mark => some (if s.options.useInitials then n.initials mark s.hyphenate else n.given)
    | none => some n.given

/-- A separator with what follows it, or nothing if nothing follows. -/
def separated (separator text : String) (part : NamePart) : List (String × NamePart) :=
  if text.isEmpty then [] else [(separator, .other), (text, part)]

/-- A name with the family name first. -/
def invertedParts (n : PersonName) (s : NameListSettings) (given : String) :
    List (String × NamePart) :=
  let demoted := s.demote == .displayAndSort
  let head := if demoted then n.family else n.familyWithParticle
  let tail := Text.joinWords
    (if demoted then [given, n.droppingParticle, n.particle] else [given, n.droppingParticle])
  (head, .family) :: separated s.options.sortSeparator tail .given
    ++ separated s.options.sortSeparator n.suffix .other

/-- A name in the order of speech. -/
def spokenParts (n : PersonName) (given : String) : List (String × NamePart) :=
  (if given.isEmpty then [] else [(given, .given), (" ", .other)])
    ++ [(Text.joinWords [n.droppingParticle, n.particle, n.family], .family)]
    ++ (if n.suffix.isEmpty then [] else [(" " ++ n.suffix, .other)])

/-- The pieces of a name. -/
def parts (n : PersonName) (s : NameListSettings) (inverted : Bool) (level : Int := 0) :
    List (String × NamePart) :=
  if n.isLiteral then [(n.wholeText, .family)]
  else match n.givenText s level with
    | none => [(n.familyWithParticle, .family)]
    | some given => if inverted then n.invertedParts s given else n.spokenParts given

/-- A name as one text. -/
def format (n : PersonName) (s : NameListSettings) (inverted : Bool) (level : Int := 0) : String :=
  String.join ((n.parts s inverted level).map (·.1))

end PersonName

end CslProcessor
