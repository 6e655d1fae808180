import CslProcessor.Number.Range
import Mathlib.Data.List.Basic

/-!
# Ends of ranges

The end of a range of pages may be printed without leading digits that it shares with the start.
Whatever the form, what was left out stands at the front of the start, and the rest of the start has
as many digits as the end has left. So the digits of the start in front of those are the ones that
are missing.

An end that is not greater than the start is kept as it was written. Filling in the digits of a
collapsed end gives the full end of before. So it is known from the collapsed end, too, whether the
full end is greater, and an end that was collapsed is printed in full as the end itself is.

## Theorems

* `dropShared_spec`: What is left out of an end.
* `expandEnd_collapseEnd`: The end of a range read back from any form.
* `collapseEnd_expanded_collapseEnd`: A collapsed end in full.
* `collapseEnd_ne_nil`, `mem_collapseEnd`: The digits that a form leaves.
-/

namespace CslProcessor

namespace PageRange

-- The digits that are left out stand at the front of the start.
theorem expandEnd_append {shared rest stop : List Char} (h : rest.length = stop.length) :
    expandEnd (shared ++ rest) stop = shared ++ stop := by
  rw [expandEnd, List.length_append, h, Nat.add_sub_cancel, List.take_left]
  split
  · rfl
  · rename_i hlength
    have hnone : shared = [] := List.eq_nil_of_length_eq_zero (by omega)
    rw [hnone, List.nil_append]

theorem expandEnd_of_length_le {start stop : List Char} (h : start.length ≤ stop.length) :
    expandEnd start stop = stop := by
  rw [expandEnd, if_neg (Nat.not_lt.2 h)]

theorem length_le_expandEnd (start stop : List Char) :
    start.length ≤ (expandEnd start stop).length := by
  rw [expandEnd]
  split
  · rw [List.length_append, List.length_take]
    omega
  · omega

/-- The digits that are dropped stand at the front of both numbers. -/
theorem dropShared_spec (keep : Nat) {start stop : List Char} (h : start.length = stop.length) :
    ∃ shared rest, start = shared ++ rest ∧ stop = shared ++ dropShared keep start stop ∧
      rest.length = (dropShared keep start stop).length := by
  fun_induction dropShared keep start stop with
  | case1 a start b stop hshared ih =>
      rcases ih (Nat.succ.inj h) with ⟨shared, rest, hstart, hstop, hlength⟩
      have hab : a = b := eq_of_beq (Bool.and_eq_true_iff.1 hshared).2
      exact ⟨a :: shared, rest, congrArg (a :: ·) hstart, by rw [List.cons_append, ← hstop, hab],
        hlength⟩
  | case2 a start b stop => exact ⟨[], a :: start, rfl, rfl, h⟩
  | case3 start stop => exact ⟨[], start, rfl, rfl, h⟩

theorem expandEnd_minimalEnd (keep : Nat) {start stop : List Char}
    (h : start.length ≤ stop.length) : expandEnd start (minimalEnd keep start stop) = stop := by
  rw [minimalEnd]
  split
  · rename_i hlength
    rcases dropShared_spec keep (eq_of_beq hlength) with ⟨shared, rest, hstart, hstop, hrest⟩
    calc expandEnd start (dropShared keep start stop)
        = expandEnd (shared ++ rest) (dropShared keep start stop) := by rw [← hstart]
      _ = shared ++ dropShared keep start stop := expandEnd_append hrest
      _ = stop := hstop.symm
  · exact expandEnd_of_length_le h

theorem expandEnd_chicagoEnd {start stop : List Char} (h : start.length ≤ stop.length) :
    expandEnd start (chicagoEnd start stop) = stop := by
  rw [chicagoEnd]
  split
  · exact expandEnd_of_length_le h
  · split
    · exact expandEnd_minimalEnd 1 h
    · dsimp only
      split
      · exact expandEnd_of_length_le h
      · exact expandEnd_minimalEnd 2 h

/-- A collapsed end of a range gives the end itself again, once the digits that it left out are
    filled in. -/
theorem expandEnd_collapseEnd (format : Option PageRangeFormat) (start stop : List Char) :
    expandEnd start (collapseEnd format start stop) = expandEnd start stop := by
  have hlength := length_le_expandEnd start stop
  unfold collapseEnd
  dsimp only
  split
  · rfl
  · cases format with
    | none => exact expandEnd_of_length_le hlength
    | some format =>
        cases format with
        | expanded => exact expandEnd_of_length_le hlength
        | minimal => exact expandEnd_minimalEnd 1 hlength
        | minimalTwo => exact expandEnd_minimalEnd 2 hlength
        | chicago => exact expandEnd_chicagoEnd hlength

-- An end that is not greater than the start.
theorem collapseEnd_of_value_le (format : Option PageRangeFormat) {start stop : List Char}
    (h : value (expandEnd start stop) ≤ value start) : collapseEnd format start stop = stop := by
  unfold collapseEnd
  exact if_pos h

/-- A collapsed end is printed in full as the end itself is. -/
theorem collapseEnd_expanded_collapseEnd (format : Option PageRangeFormat)
    (start stop : List Char) :
    collapseEnd (some .expanded) start (collapseEnd format start stop) =
      collapseEnd (some .expanded) start stop := by
  by_cases hle : value (expandEnd start stop) ≤ value start
  · rw [collapseEnd_of_value_le format hle]
  · have hexpanded : ∀ stop' : List Char, ¬ value (expandEnd start stop') ≤ value start →
        collapseEnd (some .expanded) start stop' = expandEnd start stop' := by
      intro stop' hstop'
      unfold collapseEnd
      exact if_neg hstop'
    have hfull := expandEnd_collapseEnd format start stop
    rw [hexpanded _ (hfull.symm ▸ hle), hexpanded _ hle, hfull]

-- An end is left without digits only if it had none.
theorem collapseEnd_ne_nil (format : Option PageRangeFormat) {start stop : List Char}
    (h : stop ≠ []) : collapseEnd format start stop ≠ [] := by
  intro hnil
  have hfull := expandEnd_collapseEnd format start stop
  -- Without digits of its own the end would be the start, and such an end is kept as it is.
  have hstart : expandEnd start [] = start := by
    have happend : expandEnd (start ++ []) [] = start ++ [] := expandEnd_append rfl
    rwa [List.append_nil] at happend
  rw [hnil, hstart] at hfull
  rw [collapseEnd_of_value_le format (Nat.le_of_eq (congrArg value hfull.symm))] at hnil
  exact h hnil

theorem mem_collapseEnd {format : Option PageRangeFormat} {start stop : List Char} {c : Char}
    (h : c ∈ collapseEnd format start stop) : c ∈ start ∨ c ∈ stop := by
  -- Digits of a collapsed end are among those of the full end, which come from both numbers.
  have hcollapsed : c ∈ expandEnd start (collapseEnd format start stop) := by
    rw [expandEnd]
    split
    · exact List.mem_append_right _ h
    · exact h
  rw [expandEnd_collapseEnd, expandEnd] at hcollapsed
  split at hcollapsed
  · exact (List.mem_append.1 hcollapsed).imp List.mem_of_mem_take id
  · exact Or.inr hcollapsed

end PageRange

end CslProcessor
