import CslProcessor.Disambiguation.State
import CslProcessor.Style.Options

/-!
# How far entries are told apart

A style declares means of telling entries apart. Each of them is tried in steps, from the weakest
to the strongest, and a step only ever raises what is printed of an entry. The letter behind the
year is no such step: it is the last resort whether it is declared or not.

## Main definitions

* `Policy`: The means that a style declares.
* `Policy.givenNameLevels`: The levels of given names that are tried.
* `Policy.steps`: The steps of one means.
-/

namespace CslProcessor

namespace Disambiguation

/-- The means of telling entries apart, in the order in which they are tried. -/
structure Policy where
  /-- The means. -/
  methods : List DisambiguationMethod := []
  /-- Which given names may be printed. -/
  givenNameRule : GivenNameRule := .byCite
  deriving Repr, DecidableEq, Inhabited

namespace Policy

/-- The levels of given names that are tried for entries with at most `limit` names. -/
def givenNameLevels (p : Policy) (limit : Nat) : List (List Int) :=
  if limit == 0 then []
  else match p.givenNameRule with
    | .allNames => [List.replicate limit 1, List.replicate limit 2]
    | .allNamesWithInitials => [List.replicate limit 1]
    | .primaryName => [[1], [2]]
    | .primaryNameWithInitials => [[1]]
    | .byCite =>
      (List.range limit).flatMap fun position =>
        [1, 2].map fun level => List.replicate position 0 ++ [level]

/-- A state with at least some further names. -/
def showNames (extra : Int) (d : EntryDisambiguation) : EntryDisambiguation :=
  { d with extraNames := max d.extraNames extra }

/-- A state with the branches for entries told apart in use. -/
def useCondition (d : EntryDisambiguation) : EntryDisambiguation :=
  { d with condition := true }

/-- The steps of one means for entries with at most `limit` names. -/
def steps (p : Policy) (limit : Nat) :
    DisambiguationMethod → List (EntryDisambiguation → EntryDisambiguation)
  | .conditional => [useCondition]
  | .addNames => (List.range limit).map fun n => showNames (n + 1 : Nat)
  | .addGivenName => (p.givenNameLevels limit).map EntryDisambiguation.raiseLevels
  | .addYearSuffix => []

/-- The means that have steps. -/
def steppedMethods (p : Policy) : List DisambiguationMethod :=
  p.methods.filter (· != .addYearSuffix)

end Policy

end Disambiguation

end CslProcessor
