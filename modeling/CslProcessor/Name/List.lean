import CslProcessor.Locale.Basic
import CslProcessor.Name.Format
import CslProcessor.Run.Basic

/-!
# Lists of names

A list of names is printed in full, or shortened from a length on. A shortened list shows its
first names and then either a term such as `et al.` or an ellipsis and the last name. In a list
printed in full, the last two names may be joined by a word or a sign.

## Main definitions

* `shownCount`: How many names from the front are shown.
* `isInverted`: Whether the name at an index has the family name first.
* `usesLast`: Whether a shortened list ends with the last name.
* `NameList.render`: The runs of a list.
* `nameSortKey`: What a name is sorted by.
-/

namespace CslProcessor

namespace NameListSettings

/-- How many names from the front are shown, of `total` names. -/
def shownCount (s : NameListSettings) (total : Nat) : Int :=
  match s.etAlMin, s.etAlUseFirst with
  | some least, some first =>
    if (total : Int) < least then total else min (total : Int) (first + s.extraNames)
  | _, _ => total

/-- Whether the name at an index has the family name first. -/
def isInverted (s : NameListSettings) (index : Int) : Bool :=
  if s.options.form == .short then false
  else match s.sortOrder with
    | some .all => true
    | some .first => index == 0
    | none => false

/-- Whether a list of `total` names is shortened. -/
def isTruncated (s : NameListSettings) (total : Nat) : Bool :=
  s.shownCount total < total

/-- Whether a shortened list ends with its last name, at least one being left out before it. -/
def usesLast (s : NameListSettings) (total : Nat) : Bool :=
  s.isTruncated total && s.options.etAlUseLast && s.shownCount total + 2 ≤ total

/-- Whether a delimiter stands somewhere in a list that shows some names. -/
def delimiterApplies (rule : DelimiterRule) (shown : Int) (previousInverted : Bool)
    (threshold : Int) : Bool :=
  match rule with
  | .always => true
  | .never => false
  | .afterInvertedName => previousInverted
  | .contextual => threshold ≤ shown

/-- The word or sign between the last two names, empty for none. -/
def conjunctionTerm (s : NameListSettings) (locale : Locale) : String :=
  match s.options.conjunction with
  | none => ""
  | some .symbol => locale.term "and" .symbol
  | some .text => locale.term "and" .long

/-- The flags of a piece of a name. -/
def partFlags (s : NameListSettings) : NamePart → Flags
  | .family => s.options.familyFormatting.flags
  | .given => s.options.givenFormatting.flags
  | .other => []

end NameListSettings

namespace NameList

/-- A run of a name variable, or nothing for an empty text. -/
def run (tag : RunTag) (variableName : String) (text : String) (flags : Flags := []) :
    List TextRun :=
  if text.isEmpty then [] else [{ text, tag, variableName := some variableName, flags }]

variable (s : NameListSettings) (locale : Locale) (tag : RunTag) (variableName : String)

/-- The runs of the name at an index. -/
def nameRuns (index : Nat) (n : PersonName) : List TextRun :=
  (n.parts s (s.isInverted index) (s.level index)).flatMap fun (text, part) =>
    run tag variableName text (s.partFlags part)

/-- What stands before the name at an index, of `total` names. The last two names of a list
    printed in full are joined by the conjunction, if there is one. -/
def jointRuns (total index : Nat) : List TextRun :=
  let conjunction := s.conjunctionTerm locale
  if index == 0 then []
  else if !s.isTruncated total && index + 1 == total && !conjunction.isEmpty then
    run tag variableName
        (if NameListSettings.delimiterApplies s.options.delimiterPrecedesLast total
          (s.isInverted (index - 1)) 3 then s.options.delimiter else " ")
      ++ run tag variableName (conjunction ++ " ")
  else run tag variableName s.options.delimiter

/-- What stands in place of the names that are left out. -/
def closingRuns (etAl : EtAl) (names : List PersonName) : List TextRun :=
  let total := names.length
  let shown := s.shownCount total
  if s.usesLast total then
    run tag variableName s.options.delimiter ++ run tag variableName "… "
      ++ (names.getLast?.map (nameRuns s tag variableName (total - 1))).getD []
  else if s.isTruncated total then
    let term := locale.term etAl.term
    if term.isEmpty then []
    else
      run tag variableName
          (if NameListSettings.delimiterApplies s.options.delimiterPrecedesEtAl shown
            (s.isInverted (shown - 1)) 2 then s.options.delimiter else " ")
        ++ run tag variableName term etAl.formatting.flags
  else []

/-- The names that are shown from the front, each with its index. -/
def shownNames (names : List PersonName) : List (PersonName × Nat) :=
  (names.take (s.shownCount names.length).toNat).zipIdx

/-- The runs of a list of names, every one of which carries the variable. -/
def render (etAl : EtAl) (names : List PersonName) : List TextRun :=
  if names.isEmpty then []
  else
    (shownNames s names).flatMap (fun (n, index) =>
        jointRuns s locale tag variableName names.length index
          ++ nameRuns s tag variableName index n)
      ++ closingRuns s locale tag variableName etAl names

end NameList

/-- What a name is sorted by: family name, given name and suffix, for comparison without regard
    to accents and case. -/
def nameSortKey (demote : ParticleDemotion) (n : PersonName) : String × String × String :=
  if n.isLiteral then (collationKey n.wholeText, "", "")
  else
    let (family, given) :=
      if demote == .never then (n.familyWithParticle, Text.joinWords [n.given, n.droppingParticle])
      else (n.family, Text.joinWords [n.given, n.droppingParticle, n.particle])
    (collationKey family, collationKey given, collationKey n.suffix)

end CslProcessor
