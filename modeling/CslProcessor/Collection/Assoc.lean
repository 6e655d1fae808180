/-!
# Association lists

Finite maps as lists of pairs, looked up from the front. Writing replaces the value of a key in
its place, or puts a new pair at the end, so that keys stay in the order in which they came.

## Main definitions

* `Assoc.set`: Gives a key a value.
* `Assoc.erase`: Drops a key.
* `Assoc.keys`: The keys in their order.

## Theorems

* `lookup_set_self`, `lookup_set_of_ne`: What is found after writing.
* `set_eq_append`: A key that is new.
* `lookup_erase_self`, `lookup_erase_of_ne`: What is found after erasing.
* `mem_keys_iff`: The keys are what something is found for.
* `lookup_of_mem`: A pair of a map without repetitions is found.
-/

namespace CslProcessor

/-- A finite map as a list of pairs. -/
abbrev Assoc (κ ν : Type) := List (κ × ν)

namespace Assoc

variable {κ ν : Type} [BEq κ]

/-- Gives a key a value, in its place if there is such a key already. -/
def set (k : κ) (v : ν) : Assoc κ ν → Assoc κ ν
  | [] => [(k, v)]
  | (k', v') :: rest => if k == k' then (k', v) :: rest else (k', v') :: set k v rest

/-- Drops a key. -/
def erase (k : κ) (m : Assoc κ ν) : Assoc κ ν :=
  m.filter fun p => !(k == p.1)

/-- The keys in their order. -/
def keys (m : Assoc κ ν) : List κ :=
  m.map (·.1)

@[simp]
theorem lookup_set_self [LawfulBEq κ] (k : κ) (v : ν) (m : Assoc κ ν) :
    (set k v m).lookup k = some v := by
  induction m with
  | nil => simp [set]
  | cons p rest ih =>
    obtain ⟨k', v'⟩ := p
    by_cases h : k = k'
    · simp [set, h]
    · simp [set, beq_false_of_ne h, List.lookup_cons, ih]

theorem lookup_set_of_ne [LawfulBEq κ] {k j : κ} (h : j ≠ k) (v : ν) (m : Assoc κ ν) :
    (set k v m).lookup j = m.lookup j := by
  induction m with
  | nil => simp [set, List.lookup_cons, beq_false_of_ne h]
  | cons p rest ih =>
    obtain ⟨k', v'⟩ := p
    by_cases hp : k = k'
    · subst hp
      simp [set, List.lookup_cons, beq_false_of_ne h]
    · simp [set, List.lookup_cons, beq_false_of_ne hp, ih]

/-- A key that is new is put at the end. -/
theorem set_eq_append [LawfulBEq κ] {k : κ} (v : ν) {m : Assoc κ ν} (h : m.lookup k = none) :
    set k v m = m ++ [(k, v)] := by
  induction m with
  | nil => rfl
  | cons p rest ih =>
    obtain ⟨k', v'⟩ := p
    by_cases hk : k = k'
    · simp [hk] at h
    · rw [List.lookup_cons, beq_false_of_ne hk] at h
      simp [set, beq_false_of_ne hk, ih h]

@[simp]
theorem lookup_erase_self [LawfulBEq κ] (k : κ) (m : Assoc κ ν) : (erase k m).lookup k = none := by
  simp [erase, List.lookup_eq_none_iff]

theorem lookup_erase_of_ne [LawfulBEq κ] {k j : κ} (h : j ≠ k) (m : Assoc κ ν) :
    (erase k m).lookup j = m.lookup j := by
  induction m with
  | nil => rfl
  | cons p rest ih =>
    obtain ⟨k', v'⟩ := p
    unfold erase at ih ⊢
    by_cases hp : k = k'
    · subst hp
      simp [List.lookup_cons, beq_false_of_ne h, ih]
    · simp [hp, List.lookup_cons, ih]

/-- The keys are what something is found for. -/
theorem mem_keys_iff [LawfulBEq κ] {k : κ} {m : Assoc κ ν} :
    k ∈ keys m ↔ (m.lookup k).isSome = true := by
  induction m with
  | nil => simp [keys]
  | cons p rest ih =>
    obtain ⟨k', v'⟩ := p
    unfold keys at ih ⊢
    by_cases h : k = k'
    · simp [h]
    · simp [h, List.lookup_cons, beq_false_of_ne h, ih]

theorem lookup_of_mem [LawfulBEq κ] {m : Assoc κ ν} (hnd : (keys m).Nodup) {k : κ} {v : ν}
    (h : (k, v) ∈ m) : m.lookup k = some v := by
  induction m with
  | nil => exact absurd h List.not_mem_nil
  | cons p rest ih =>
    rw [keys, List.map_cons, List.nodup_cons] at hnd
    rcases List.mem_cons.1 h with rfl | hmem
    · rw [List.lookup_cons, beq_self_eq_true]
    · have hne : k ≠ p.1 := by
        rintro rfl
        exact hnd.1 (List.mem_map.2 ⟨_, hmem, rfl⟩)
      rw [List.lookup_cons, beq_false_of_ne hne]
      exact ih hnd.2 hmem

end Assoc

end CslProcessor
