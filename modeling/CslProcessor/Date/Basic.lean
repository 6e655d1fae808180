import CslProcessor.Text.Basic

/-!
# Dates

A calendar date of any granularity: a year, a year and a month, or a full date, and perhaps a
season where a month would be. A date may be approximate, and it may be the start of a range.

Dates are ordered by year, then month, then day; a missing month or day stands before all others,
and the season does not count.

## Main definitions

* `CalendarDate`: Year, month, day and season, within their bounds.
* `CalendarDate.ofParts`: Checks the parts of a date.
* `CalendarDate.cmp`: The order of dates.
* `Date`: A date that may be approximate or the start of a range.
* `Date.isRange`: Whether a date is a range with two different ends.

## Theorems

* `partWithin_toNat`: A part within its bounds is one as a natural number, too.
-/

namespace CslProcessor

/-- Whether a part of a date is absent or between two bounds. -/
def partWithin (lo hi : Nat) (part : Option Nat) : Bool :=
  part.all fun n => lo ≤ n && n ≤ hi

/-- Whether the parts of a date below the year are within their bounds, and a day has a month. -/
def validParts (month day season : Option Nat) : Bool :=
  partWithin 1 12 month && partWithin 1 31 day && partWithin 1 4 season
    && (day.isNone || month.isSome)

/-- A date by its parts. -/
structure CalendarDate where
  /-- The year; zero and less are years before the common era. -/
  year : Int
  /-- The month, from 1 to 12. -/
  month : Option Nat := none
  /-- The day, from 1 to 31. -/
  day : Option Nat := none
  /-- The season, from 1 for spring to 4 for winter. -/
  season : Option Nat := none
  /-- The parts are within their bounds. -/
  valid : validParts month day season = true := by decide
  deriving Repr, DecidableEq

/-- What can be wrong with the parts of a date. -/
inductive DateError
  | month (n : Int)
  | day (n : Int)
  | season (n : Int)
  | dayWithoutMonth
  deriving Repr, DecidableEq

namespace DateError

/-- The message for faulty parts. -/
def message : DateError → String
  | month n => "Month out of range: " ++ toString n
  | day n => "Day out of range: " ++ toString n
  | season n => "Season out of range: " ++ toString n
  | dayWithoutMonth => "A day requires a month"

end DateError

namespace CalendarDate

/-- A number between two bounds is within them as a part. -/
theorem partWithin_toNat {lo hi : Nat} {n : Int} (h : lo ≤ n ∧ n ≤ hi) :
    partWithin lo hi (some n.toNat) = true := by
  simp only [partWithin, Option.all_some, Bool.and_eq_true, decide_eq_true_eq]
  omega

/-- A part of a date, if it is absent or between two bounds. -/
def readPart (lo hi : Nat) (fault : Int → DateError) :
    Option Int → Except DateError { part : Option Nat // partWithin lo hi part = true }
  | none => .ok ⟨none, rfl⟩
  | some n =>
    if h : lo ≤ n ∧ n ≤ hi then
      .ok ⟨some n.toNat, partWithin_toNat h⟩
    else .error (fault n)

/-- The date with given parts, which are checked from the month to the season. -/
def ofParts (year : Int) (month day season : Option Int) : Except DateError CalendarDate := do
  let ⟨m, hm⟩ ← readPart 1 12 .month month
  let ⟨d, hd⟩ ← readPart 1 31 .day day
  let ⟨s, hs⟩ ← readPart 1 4 .season season
  if h : (d.isNone || m.isSome) = true then
    return { year, month := m, day := d, season := s, valid := by simp [validParts, hm, hd, hs, h] }
  else throw .dayWithoutMonth

/-- What dates are ordered by. -/
def sortKey (d : CalendarDate) : Int × Nat × Nat :=
  (d.year, d.month.getD 0, d.day.getD 0)

/-- The order of two keys: by the first component that differs. -/
def cmpKey (a b : Int × Nat × Nat) : Ordering :=
  (compare a.1 b.1).then ((compare a.2.1 b.2.1).then (compare a.2.2 b.2.2))

/-- The order of dates. -/
def cmp (a b : CalendarDate) : Ordering :=
  cmpKey a.sortKey b.sortKey

end CalendarDate

/-- A date that may be approximate or the start of a range. -/
structure Date extends CalendarDate where
  /-- Whether the date is an estimate. -/
  approximate : Bool := false
  /-- The other end of the range that starts here. -/
  rangeEnd : Option Date := none
  deriving Repr, BEq

namespace Date

/-- Whether a date is a range whose ends differ by more than the season. -/
def isRange (d : Date) : Bool :=
  d.rangeEnd.any fun e => e.sortKey != d.sortKey

end Date

end CslProcessor
