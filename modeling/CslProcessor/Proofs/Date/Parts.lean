import CslProcessor.Date.Render
import Mathlib.Data.List.Range
import Mathlib.Tactic.SplitIfs

/-!
# Parts of a date that have text

A year and a day are printed in figures, perhaps with a term behind them, so they always have text
where they are there. A month, and the season in its place, may be printed by its name alone. In a
locale that has these names, a part has text exactly if the date has the part, and parts give runs
exactly if one of them has text.

## Main definitions

* `Locale.NamesCalendar`: A locale that has names for the months and seasons.
* `CalendarDate.has`: Whether a date has a part.

## Theorems

* `partText_ne_empty_iff`: A date has a part exactly if the part has text.
* `renderParts_ne_nil_iff`: Parts give runs exactly if one of them has text.
-/

namespace CslProcessor

/-- The months have names, long ones and short ones, and the seasons have names. -/
structure Locale.NamesCalendar (l : Locale) : Prop where
  month : ∀ n ∈ List.range' 1 12, l.month n .short ≠ "" ∧ l.month n .long ≠ ""
  season : ∀ n ∈ List.range' 1 4, l.season n ≠ ""

/-- Whether a date has a part, a season standing for the month if there is none. -/
def CalendarDate.has (d : CalendarDate) (name : String) : Bool :=
  if name == "year" then true
  else if name == "month" then d.month.isSome || d.season.isSome
  else if name == "day" then d.day.isSome
  else false

namespace DateText

/-! ## Text -/

theorem repr_ne_empty (n : Int) : n.repr ≠ "" := by
  cases n with
  | ofNat m => exact Nat.repr_ne_empty
  | negSucc m =>
      change "-" ++ (m + 1).repr ≠ ""
      simp

theorem padded_ne_empty (width : Nat) (n : Int) : Text.padded width n ≠ "" := by
  simp [Text.padded]

theorem yearText_ne_empty (year : Int) (form : Option String) (locale : Locale) :
    yearText year form locale ≠ "" := by
  unfold yearText
  split_ifs <;> simp [repr_ne_empty, padded_ne_empty]

theorem dayText_eq_empty_iff (day : Option Nat) (form : Option String) (locale : Locale) :
    dayText day form locale = "" ↔ day = none := by
  cases day with
  | none => simp [dayText]
  | some n =>
      simp only [dayText, reduceCtorEq, iff_false]
      split_ifs <;> simp [Locale.ordinal, repr_ne_empty, padded_ne_empty]

theorem monthText_eq_empty_iff {locale : Locale} (hl : locale.NamesCalendar) (d : CalendarDate)
    (form : Option String) :
    monthText d form locale = "" ↔ d.month = none ∧ d.season = none := by
  have hvalid := d.valid
  simp only [validParts, Bool.and_eq_true] at hvalid
  have hwithin : ∀ {hi n : Nat}, partWithin 1 hi (some n) = true → n ∈ List.range' 1 hi := by
    intro hi n hn
    simp only [partWithin, Option.all_some, Bool.and_eq_true, decide_eq_true_eq] at hn
    rw [List.mem_range'_1]
    omega
  unfold monthText
  cases hmonth : d.month with
  | none =>
      cases hseason : d.season with
      | none => simp
      | some season =>
          rw [hseason] at hvalid
          simpa using hl.season season (hwithin hvalid.1.2)
  | some month =>
      rw [hmonth] at hvalid
      have hnames := hl.month month (hwithin hvalid.1.1.1)
      simp only [reduceCtorEq, false_and, iff_false]
      split_ifs
      · simp
      · exact padded_ne_empty 2 month
      · exact hnames.1
      · exact hnames.2

/-- In a locale that names the months and seasons, a part has text exactly if the date has it. -/
theorem partText_ne_empty_iff {locale : Locale} (hl : locale.NamesCalendar) (d : CalendarDate)
    (part : DatePart) : partText d part locale ≠ "" ↔ d.has part.name = true := by
  unfold partText CalendarDate.has
  split_ifs with hyear hmonth hday
  · simp [yearText_ne_empty]
  · rw [Ne, monthText_eq_empty_iff hl, Bool.or_eq_true, Option.isSome_iff_ne_none,
      Option.isSome_iff_ne_none, not_and_or]
  · rw [Ne, dayText_eq_empty_iff, Option.isSome_iff_ne_none]
  · simp

/-! ## Runs -/

section

variable {s : Setting} {d : CalendarDate} {noLead noTrail : Bool}

theorem partRuns_eq_nil_iff {part : DatePart} :
    partRuns s d part noLead noTrail = [] ↔ partText d part s.locale = "" := by
  rw [partRuns]
  split
  · rename_i hempty
    simpa using hempty
  · rename_i hempty
    simpa using hempty

-- Groups give runs exactly if one of them has runs.
theorem delimited_eq_nil_iff {delimiter : String} {groups : List (List TextRun)} :
    delimited delimiter groups = [] ↔ ∀ group ∈ groups, group = [] := by
  induction groups using List.reverseRecOn with
  | nil => simp [delimited]
  | append_singleton groups group ih =>
      rw [delimited, List.foldl_append, ← delimited, List.foldl_cons, List.foldl_nil,
        List.forall_mem_append, ← ih]
      split_ifs with hgroup hjoined <;> simp_all

theorem forall_mem_partGroups {parts : List DatePart} :
    (∀ group ∈ partGroups s d noLead noTrail parts, group = []) ↔
      ∀ part ∈ parts, partText d part s.locale = "" := by
  induction parts generalizing noLead with
  | nil => simp [partGroups]
  | cons part rest ih =>
      rw [partGroups, List.forall_mem_cons, List.forall_mem_cons, partRuns_eq_nil_iff, ih]

/-- Parts give runs exactly if one of them has text. -/
theorem renderParts_ne_nil_iff {parts : List DatePart} :
    renderParts s d parts noLead noTrail ≠ [] ↔ ∃ part ∈ parts, partText d part s.locale ≠ "" := by
  rw [Ne, renderParts, delimited_eq_nil_iff, forall_mem_partGroups]
  simp

end

end DateText

end CslProcessor
