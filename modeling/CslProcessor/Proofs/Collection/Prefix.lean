import Mathlib.Data.List.DropRight
import Mathlib.Data.List.TakeWhile

/-!
# Where a run of members ends

In a sequence of two lists, the members in front that satisfy a condition are those of the first
list if all of these satisfy it and the first member of the second list does not. A list without the
members at its ends that satisfy a condition begins and ends with one that does not.

## Theorems

* `takeWhile_append_of_head`, `dropWhile_append_of_head`: The members in front, and the others.
* `head_append`, `head_append_of_ne_nil`: The first member of a sequence of two lists.
* `exists_append_of_append_eq_append`: Two sequences that are the same but for a run at the end.
* `eq_false_of_dropWhile_eq_cons`, `dropWhile_append_cons`: The first member that is not dropped.
* `eq_false_of_head_strip`, `eq_false_of_getLast_strip`: The ends of what is left.
-/

namespace CslProcessor

variable {α : Type} {p : α → Bool} {l m : List α} {c : α}

-- A run of members that satisfy a condition ends where the next member does not.
theorem takeWhile_append_of_head (hl : ∀ c ∈ l, p c = true) (hm : ∀ c ∈ m.head?, p c = false) :
    (l ++ m).takeWhile p = l := by
  rw [List.takeWhile_append_of_pos hl]
  cases m with
  | nil => rw [List.takeWhile_nil, List.append_nil]
  | cons c rest => rw [List.takeWhile_cons_of_neg (by simp [hm c rfl]), List.append_nil]

theorem dropWhile_append_of_head (hl : ∀ c ∈ l, p c = true) (hm : ∀ c ∈ m.head?, p c = false) :
    (l ++ m).dropWhile p = m := by
  rw [List.dropWhile_append_of_pos hl]
  cases m with
  | nil => rfl
  | cons c rest => rw [List.dropWhile_cons_of_neg (by simp [hm c rfl])]

theorem head_append (hl : ∀ c ∈ l, p c = false) (hm : ∀ c ∈ m.head?, p c = false) :
    ∀ c ∈ (l ++ m).head?, p c = false := by
  cases l with
  | nil => exact hm
  | cons c rest => exact fun d hd => hl d (Option.mem_some_iff.1 hd ▸ List.mem_cons_self)

theorem head_append_of_ne_nil (h : l ≠ []) (hl : ∀ c ∈ l, p c = false) :
    ∀ c ∈ (l ++ m).head?, p c = false := by
  cases l with
  | nil => exact absurd rfl h
  | cons c rest => exact fun d hd => hl d (Option.mem_some_iff.1 hd ▸ List.mem_cons_self)

-- Members that satisfy a condition are cut off behind the last one that does not.
theorem exists_append_of_append_eq_append {v w : List α} (hw : ∀ c ∈ w, p c = true)
    (hl : ∀ c ∈ l.getLast?, p c = false) (h : m ++ w = l ++ v) :
    ∃ rest, m = l ++ rest ∧ ∀ c ∈ rest, c ∈ v ∨ c ∈ w := by
  rcases List.append_eq_append_iff.1 h with ⟨rest, hfront, hwhole⟩ | ⟨rest, hm, hv⟩
  · cases hlast : rest.getLast? with
    | none =>
      rw [List.getLast?_eq_none_iff.1 hlast, List.append_nil] at hfront
      exact ⟨[], by rw [hfront, List.append_nil], fun c hc => nomatch hc⟩
    | some c =>
      have hfalse := hl c (by rw [hfront, List.getLast?_append, hlast]; rfl)
      have hmem : c ∈ w := hwhole ▸ List.mem_append_left v (List.mem_of_mem_getLast? hlast)
      rw [hw c hmem] at hfalse
      cases hfalse
  · exact ⟨rest, hm, fun c hc => Or.inl (hv ▸ List.mem_append_left w hc)⟩

-- The first member that is left does not satisfy the condition.
theorem eq_false_of_dropWhile_eq_cons (h : l.dropWhile p = c :: m) : p c = false := by
  have hhead := List.head_dropWhile_not (p := p) (l := l) (by simp [h])
  simpa [h] using hhead

theorem dropWhile_append_cons (h : p c = false) :
    (l ++ c :: m).dropWhile p = l.dropWhile p ++ c :: m := by
  rw [List.dropWhile_append, List.dropWhile_cons_of_neg (by simp [h])]
  split
  · rename_i hnil
    rw [List.isEmpty_iff.1 hnil, List.nil_append]
  · rfl

theorem eq_false_of_getLast_strip (h : (l.rdropWhile p).getLast? = some c) : p c = false := by
  rw [List.rdropWhile, List.getLast?_reverse] at h
  rcases List.head?_eq_some_iff.1 h with ⟨front, hfront⟩
  exact eq_false_of_dropWhile_eq_cons hfront

theorem eq_false_of_head_strip (h : ((l.dropWhile p).rdropWhile p).head? = some c) :
    p c = false := by
  rcases List.head?_eq_some_iff.1 h with ⟨tail, htail⟩
  rcases htail ▸ List.rdropWhile_prefix p (l.dropWhile p) with ⟨behind, hrest⟩
  exact eq_false_of_dropWhile_eq_cons hrest.symm

end CslProcessor
