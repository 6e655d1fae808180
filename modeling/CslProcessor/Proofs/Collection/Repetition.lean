import CslProcessor.Collection.ListSet
import Mathlib.Data.List.Nodup
import Mathlib.Data.List.Perm.Subperm

/-!
# Leaving out Repetitions

Facts about the several ways in which repetitions are left out of lists: by keeping first
occurrences, by keeping last ones, and by collecting a set.

## Theorems

* `nodup_eraseDups`: Nothing is repeated where first occurrences are kept.
* `length_eraseDups_eq_iff`: Something is left out exactly if something is repeated.
* `ListSet.nodup_ofList`, `ListSet.mem_ofList`: The set of the members of a list.
* `ListSet.nodup_lastOccurrences`: Nothing is repeated where last occurrences are kept.
* `ListSet.lastOccurrences_eq_self`: Nothing is left out where nothing is repeated.
-/

namespace CslProcessor

variable {α : Type} [BEq α] [LawfulBEq α]

/-- Nothing is repeated where first occurrences are kept. -/
theorem nodup_eraseDups (l : List α) : l.eraseDups.Nodup := by
  cases l with
  | nil =>
      rw [List.eraseDups_nil]
      exact List.nodup_nil
  | cons a l =>
      rw [List.eraseDups_cons, List.nodup_cons]
      refine ⟨fun hmem => ?_, nodup_eraseDups _⟩
      rw [List.mem_eraseDups, List.mem_filter, beq_self_eq_true] at hmem
      exact Bool.false_ne_true hmem.2
termination_by l.length
decreasing_by
  have hle := List.length_filter_le (fun b => !b == a) l
  rw [List.length_cons]
  omega

/-- Something is left out exactly if something is repeated. -/
theorem length_eraseDups_eq_iff (l : List α) : l.eraseDups.length = l.length ↔ l.Nodup := by
  have hsub : l.eraseDups.Subperm l :=
    List.subperm_of_subset (nodup_eraseDups l) (fun _ ha => List.mem_eraseDups.1 ha)
  constructor
  · intro hlen
    have hperm := hsub.perm_of_length_le (Nat.le_of_eq hlen.symm)
    exact hperm.nodup_iff.1 (nodup_eraseDups l)
  · intro hnd
    have hsup : l.Subperm l.eraseDups :=
      List.subperm_of_subset hnd (fun _ ha => List.mem_eraseDups.2 ha)
    exact Nat.le_antisymm hsub.length_le hsup.length_le

namespace ListSet

/-- The set of the members of a list has these members. -/
theorem mem_ofList {l : List α} {a : α} : a ∈ ofList l ↔ a ∈ l := by
  rw [ofList, mem_union, or_iff_left List.not_mem_nil]

theorem nodup_union {a b : List α} (hb : b.Nodup) : (union a b).Nodup := by
  induction a with
  | nil => exact hb
  | cons x rest ih =>
      rw [union, List.foldr_cons, ← union]
      exact List.Nodup.insert ih

theorem nodup_ofList (l : List α) : (ofList l).Nodup :=
  nodup_union List.nodup_nil

/-- Nothing is repeated where last occurrences are kept. -/
theorem nodup_lastOccurrences (l : List α) : (lastOccurrences l).Nodup := by
  induction l with
  | nil => exact List.nodup_nil
  | cons a l ih =>
      rw [lastOccurrences]
      split
      · exact ih
      · rename_i hnot
        rw [List.nodup_cons, mem_lastOccurrences]
        exact ⟨by simpa using hnot, ih⟩

-- Where nothing is repeated nothing is left out.
theorem lastOccurrences_eq_self {l : List α} (h : l.Nodup) : lastOccurrences l = l := by
  induction l with
  | nil => rfl
  | cons a l ih =>
      rw [List.nodup_cons] at h
      rw [lastOccurrences, if_neg (by simpa using h.1), ih h.2]

end ListSet

end CslProcessor
