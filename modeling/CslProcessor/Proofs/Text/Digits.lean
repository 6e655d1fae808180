import CslProcessor.Number.Basic
import Mathlib.Data.List.Basic

/-!
# Digits without place value

A value made of digits is read as an integer. This fails exactly where a digit has no place value,
as the superscript two has none, and whatever reads the value fails with it.

## Theorems

* `Text.mem_toString_int`: The characters of a written integer.
* `NumberText.integer_eq_error_iff`: When reading a value as an integer fails.
* `superscriptTwo_integer`: A value for which it does.
-/

namespace CslProcessor

/-- A written integer has decimal digits of ASCII, behind a sign at most. -/
theorem Text.mem_toString_int {n : Int} {c : Char} (h : c ∈ (toString n).toList) :
    c = '-' ∨ c.isDigit = true := by
  cases n with
  | ofNat m =>
    change c ∈ (Nat.repr m).toList at h
    rw [Nat.repr, String.toList_ofList] at h
    exact .inr (Nat.isDigit_of_mem_toDigits (by decide : 0 < 10) (by decide) h)
  | negSucc m =>
    change c ∈ ("-" ++ Nat.repr (m + 1)).toList at h
    rw [String.toList_append, List.mem_append] at h
    rcases h with hsign | hdigit
    · exact .inl (List.mem_singleton.1 hsign)
    · rw [Nat.repr, String.toList_ofList] at hdigit
      exact .inr (Nat.isDigit_of_mem_toDigits (by decide : 0 < 10) (by decide) hdigit)

namespace NumberText

open Unicode

/-- Reading a value as an integer fails exactly if it has digits only and one of them has no place
    value. -/
theorem integer_eq_error_iff {v : NumberText} {e : NotDecimal} :
    v.integer = .error e ↔
      v.core.all isDigit = true ∧ v.core.all isDecimal = false ∧ e = ⟨String.ofList v.core⟩ := by
  have hdecimal := Text.decimal?_isSome_iff v.core
  unfold integer
  by_cases hdigits : (v.core.isEmpty || !v.core.all isDigit) = true
  · rw [if_pos hdigits]
    refine ⟨nofun, fun ⟨hall, hnone, _⟩ => ?_⟩
    rw [hall, Bool.not_true, Bool.or_false, List.isEmpty_iff] at hdigits
    rw [hdigits] at hnone
    exact absurd hnone.symm Bool.false_ne_true
  · rw [if_neg hdigits]
    have hall : v.core.all isDigit = true := by
      by_contra hnot
      rw [Bool.not_eq_true] at hnot
      rw [hnot, Bool.not_false, Bool.or_true] at hdigits
      exact hdigits rfl
    cases hnumber : Text.decimal? v.core with
    | some n =>
        rw [hnumber, Option.isSome_some] at hdecimal
        rw [← hdecimal]
        exact ⟨nofun, fun ⟨_, hnone, _⟩ => absurd hnone.symm Bool.false_ne_true⟩
    | none =>
        rw [hnumber, Option.isSome_none] at hdecimal
        rw [Except.error.injEq]
        exact ⟨fun h => ⟨hall, hdecimal.symm, h.symm⟩, fun ⟨_, _, h⟩ => h.symm⟩

end NumberText

/-! ## The superscript two -/

namespace Unicode

theorem isSpace_superscriptTwo : isSpace '²' = false := by
  rw [isSpace, if_neg (by decide), Table.mem, Table.find?, spaceTable, Table.ofText,
    String.toList_ofList]
  decide +kernel

theorem isDecimal_superscriptTwo : isDecimal '²' = false := by
  rw [isDecimal, if_neg (by decide), Table.mem, Table.find?, decimalTable, Table.ofText,
    String.toList_ofList]
  decide +kernel

theorem isDigit_superscriptTwo : isDigit '²' = true := by
  rw [isDigit, isDecimal_superscriptTwo, Table.mem, Table.find?, digitSignTable, Table.ofText,
    String.toList_ofList]
  decide +kernel

end Unicode

theorem superscriptTwo_core : NumberText.core ⟨"²"⟩ = ['²'] := by
  change Text.trim ['²'] = ['²']
  simp only [Text.trim, Text.trimStart, Text.trimEnd, List.dropWhile_cons,
    Unicode.isSpace_superscriptTwo, Bool.false_eq_true, if_false, List.reverse_singleton]

/-- The superscript two is a digit, but not one of a decimal number. -/
theorem superscriptTwo_integer : NumberText.integer ⟨"²"⟩ = .error ⟨"²"⟩ := by
  rw [NumberText.integer_eq_error_iff, superscriptTwo_core, List.all_cons, List.all_cons,
    Unicode.isDigit_superscriptTwo, Unicode.isDecimal_superscriptTwo]
  exact ⟨rfl, rfl, rfl⟩

end CslProcessor
