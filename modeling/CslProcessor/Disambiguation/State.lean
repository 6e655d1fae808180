import CslProcessor.Disambiguation.Suffix

/-!
# What tells an entry apart

The information that is printed with an entry so that its cites look like no others: given names
at higher levels, names beyond those of a shortened list, a letter behind the year, and whether
the branches of the style for such entries are in use.

States are ordered by the information they carry. A state is only ever replaced by one that
*covers* it, so that what a reader was shown once is never taken back.

## Main definitions

* `EntryDisambiguation`: The state of one entry.
* `EntryDisambiguation.letters?`: The letters behind the year.
* `EntryDisambiguation.raiseLevels`: A state with higher levels.
* `EntryDisambiguation.covers`: Whether a state carries all information of another.
* `EntryDisambiguation.describe`: A state in words, for messages.

## Theorems

* `covers_refl`: A state covers itself.
-/

namespace CslProcessor

/-- The information printed to tell an entry apart. -/
structure EntryDisambiguation where
  /-- How far given names are printed: 0 as styled, 1 as initials, 2 in full. -/
  givenNameLevels : List Int := []
  /-- Names shown beyond those of a shortened list. -/
  extraNames : Int := 0
  /-- The index of the letters behind the year. -/
  yearSuffix : Option Int := none
  /-- Whether branches for entries told apart are in use. -/
  condition : Bool := false
  deriving Repr, DecidableEq, Inhabited, Hashable

/-- The index of the letters behind a year is negative. -/
structure NegativeSuffix where
  /-- The index. -/
  index : Int
  deriving Repr, DecidableEq

/-- The letters at an index, unless it is negative. -/
def YearSuffix.lettersAt (index : Int) : Except NegativeSuffix String :=
  if index < 0 then .error ⟨index⟩ else .ok (suffixLetters index.toNat)

namespace EntryDisambiguation

/-- The state of an entry that needs no telling apart. -/
def neutral : EntryDisambiguation := {}

/-- The level of the name at an index, zero beyond the levels listed. -/
def level (d : EntryDisambiguation) (index : Nat) : Int :=
  d.givenNameLevels.getD index 0

/-- The letters behind the year. -/
def letters? (d : EntryDisambiguation) : Except NegativeSuffix (Option String) :=
  match d.yearSuffix with
  | none => .ok none
  | some index => (YearSuffix.lettersAt index).map some

/-- A state without the letters behind the year. -/
def withoutSuffix (d : EntryDisambiguation) : EntryDisambiguation :=
  { d with yearSuffix := none }

/-- The greater level at every index; a level that one list lacks counts as zero. -/
def maxLevels : List Int → List Int → List Int
  | [], bs => bs.map (max 0)
  | as, [] => as.map (max · 0)
  | a :: as, b :: bs => max a b :: maxLevels as bs

/-- A state with levels that are nowhere lower than given ones. -/
def raiseLevels (levels : List Int) (d : EntryDisambiguation) : EntryDisambiguation :=
  { d with givenNameLevels := maxLevels levels d.givenNameLevels }

/-- Whether a suffix is there and not lower, if another one is there. -/
def suffixCovers (a b : Option Int) : Bool :=
  match b, a with
  | none, _ => true
  | some _, none => false
  | some j, some i => j ≤ i

/-- Whether a state carries all information of another. -/
def covers (a b : EntryDisambiguation) : Bool :=
  b.extraNames ≤ a.extraNames && (!b.condition || a.condition)
    && suffixCovers a.yearSuffix b.yearSuffix
    && b.givenNameLevels.zipIdx.all fun (level, i) => level ≤ a.level i

/-- Levels between brackets, a single one with a comma behind it. -/
def describeLevels : List Int → String
  | [] => "()"
  | [a] => "(" ++ toString a ++ ",)"
  | levels => "(" ++ ", ".intercalate (levels.map toString) ++ ")"

/-- A state in words, for messages. -/
def describe (d : EntryDisambiguation) : String :=
  "EntryDisambiguation(givenname_levels=" ++ describeLevels d.givenNameLevels
    ++ ", extra_names=" ++ toString d.extraNames
    ++ ", year_suffix=" ++ (d.yearSuffix.map toString).getD "None"
    ++ ", condition=" ++ (if d.condition then "True" else "False") ++ ")"

/-- A state covers itself. -/
theorem covers_refl (d : EntryDisambiguation) : d.covers d = true := by
  have hs : suffixCovers d.yearSuffix d.yearSuffix = true := by
    cases d.yearSuffix <;> simp [suffixCovers]
  simp only [covers, Int.le_refl, decide_true, Bool.true_and, hs, Bool.and_true, Bool.and_eq_true,
    List.all_eq_true, Bool.or_eq_true, Bool.not_eq_true', decide_eq_true_eq]
  refine ⟨by cases d.condition <;> simp, fun ⟨x, i⟩ h => ?_⟩
  rw [List.mem_zipIdx_iff_getElem?] at h
  simp [level, h]

end EntryDisambiguation

end CslProcessor
