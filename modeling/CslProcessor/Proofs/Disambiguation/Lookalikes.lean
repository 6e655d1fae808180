import CslProcessor.Proofs.Collection.Repetition
import CslProcessor.Proofs.Disambiguation.Bookkeeping
import Mathlib.Data.List.Pairwise

/-!
# Lookalikes

The entries that look alike, read off a map of keys instead of the buckets.

A tracker finds lookalikes through buckets, and looks only into the buckets of some entries. The
groups that it finds come in the order of their first members, so the order of the buckets and the
order within a bucket do not show. `lookalikes` lists all groups in that order by the keys alone,
and what a tracker finds are those of them that have a member among the entries it was asked about.

## Main definitions

* `withKey`: The entries with a key.
* `lookalikes`: The groups of entries with the same key.

## Theorems

* `mem_lookalikes`: What the groups are.
* `exists_mem_lookalikes`: Two entries with the same key are in a group.
* `pairwise_disjoint_lookalikes`: No entry is in two groups.
* `crowded_eq`: The crowded buckets of some entries are groups of lookalikes.
-/

namespace CslProcessor

namespace Disambiguation

/-- The entries of the order with a key. -/
def withKey (keys : Assoc Nat String) (order : List Nat) (key : String) : List Nat :=
  order.filter (keys.lookup · == some key)

/-- The groups of two or more entries that look alike, in the order of their first members. -/
def lookalikes (keys : Assoc Nat String) (order : List Nat) : List (List Nat) :=
  order.filterMap fun i => (keys.lookup i).bind fun key =>
    let group := withKey keys order key
    if key ≠ "" ∧ 1 < group.length ∧ group.head? = some i then some group else none

variable {keys : Assoc Nat String} {order : List Nat}

theorem mem_withKey {key : String} {i : Nat} :
    i ∈ withKey keys order key ↔ i ∈ order ∧ keys.lookup i = some key := by
  rw [withKey, List.mem_filter, beq_iff_eq]

theorem withKey_sublist (key : String) : (withKey keys order key).Sublist order :=
  List.filter_sublist

-- The group that an entry is the first member of, if there is one.
theorem mem_group_iff {i : Nat} {g : List Nat} :
    ((keys.lookup i).bind fun key =>
      let group := withKey keys order key
      if key ≠ "" ∧ 1 < group.length ∧ group.head? = some i then some group else none) = some g ↔
      ∃ key, key ≠ "" ∧ g = withKey keys order key ∧ 1 < g.length ∧ g.head? = some i := by
  rw [Option.bind_eq_some_iff]
  constructor
  · rintro ⟨key, -, hg⟩
    simp only [Option.ite_none_right_eq_some, Option.some.injEq] at hg
    rcases hg with ⟨⟨hne, hlen, hhead⟩, rfl⟩
    exact ⟨key, hne, rfl, hlen, hhead⟩
  · rintro ⟨key, hne, rfl, hlen, hhead⟩
    refine ⟨key, (mem_withKey.1 (List.mem_of_head? hhead)).2, ?_⟩
    exact if_pos ⟨hne, hlen, hhead⟩

/-- The groups are what more than one entry has in common. -/
theorem mem_lookalikes {g : List Nat} :
    g ∈ lookalikes keys order ↔ ∃ key, key ≠ "" ∧ g = withKey keys order key ∧ 1 < g.length := by
  rw [lookalikes, List.mem_filterMap]
  constructor
  · rintro ⟨i, -, hg⟩
    rcases mem_group_iff.1 hg with ⟨key, hne, rfl, hlen, -⟩
    exact ⟨key, hne, rfl, hlen⟩
  · rintro ⟨key, hne, rfl, hlen⟩
    cases hhead : (withKey keys order key).head? with
    | none =>
        rw [List.head?_eq_none_iff.1 hhead] at hlen
        exact absurd hlen (by simp)
    | some i =>
        have hi := mem_withKey.1 (List.mem_of_head? hhead)
        exact ⟨i, hi.1, mem_group_iff.2 ⟨key, hne, rfl, hlen, hhead⟩⟩

theorem sublist_of_mem_lookalikes {g : List Nat} (h : g ∈ lookalikes keys order) :
    g.Sublist order := by
  rcases mem_lookalikes.1 h with ⟨key, -, rfl, -⟩
  exact withKey_sublist key

-- The members of a group have the same key, which prints something.
theorem exists_key_of_mem_lookalikes {g : List Nat} (h : g ∈ lookalikes keys order) :
    ∃ key, key ≠ "" ∧ ∀ i ∈ g, keys.lookup i = some key := by
  rcases mem_lookalikes.1 h with ⟨key, hne, rfl, -⟩
  exact ⟨key, hne, fun i hi => (mem_withKey.1 hi).2⟩

-- A group has two members.
theorem exists_ne_of_mem_lookalikes (hnd : order.Nodup) {g : List Nat}
    (h : g ∈ lookalikes keys order) : ∃ i ∈ g, ∃ j ∈ g, i ≠ j := by
  have hg := hnd.sublist (sublist_of_mem_lookalikes h)
  rcases mem_lookalikes.1 h with ⟨key, -, -, hlen⟩
  match g, hg, hlen with
  | i :: j :: rest, hg, _ =>
      rw [List.nodup_cons, List.mem_cons, not_or] at hg
      exact ⟨i, List.mem_cons_self, j, List.mem_cons_of_mem _ List.mem_cons_self, hg.1.1⟩

/-- Two entries with the same key that prints something are in a group. -/
theorem exists_mem_lookalikes {i j : Nat} {key : String} (hi : i ∈ order) (hj : j ∈ order)
    (hij : i ≠ j) (hne : key ≠ "") (hki : keys.lookup i = some key)
    (hkj : keys.lookup j = some key) : ∃ g ∈ lookalikes keys order, i ∈ g ∧ j ∈ g := by
  have hmi : i ∈ withKey keys order key := mem_withKey.2 ⟨hi, hki⟩
  have hmj : j ∈ withKey keys order key := mem_withKey.2 ⟨hj, hkj⟩
  refine ⟨withKey keys order key, mem_lookalikes.2 ⟨key, hne, rfl, ?_⟩, hmi, hmj⟩
  have hsub : [i, j].Subperm (withKey keys order key) := by
    refine List.subperm_of_subset (by simp [hij]) ?_
    intro k hk
    rcases List.mem_cons.1 hk with rfl | hk
    · exact hmi
    · rw [List.mem_singleton.1 hk]
      exact hmj
  exact hsub.length_le

/-- No entry is in two groups. -/
theorem pairwise_disjoint_lookalikes (hnd : order.Nodup) :
    (lookalikes keys order).Pairwise List.Disjoint := by
  rw [lookalikes, List.pairwise_filterMap]
  refine List.Pairwise.imp ?_ hnd
  intro i j hij g hg g' hg' k hk hk'
  rcases mem_group_iff.1 hg with ⟨key, -, rfl, -, hhead⟩
  rcases mem_group_iff.1 hg' with ⟨key', -, rfl, -, hhead'⟩
  have hsame := (mem_withKey.1 hk).2.symm.trans (mem_withKey.1 hk').2
  rw [← Option.some.inj hsame, hhead, Option.some.injEq] at hhead'
  exact hij hhead'

-- The groups depend on nothing but the keys.
theorem lookalikes_congr {keys' : Assoc Nat String}
    (h : ∀ i, keys.lookup i = keys'.lookup i) : lookalikes keys order = lookalikes keys' order := by
  have hwith : ∀ key, withKey keys order key = withKey keys' order key := by
    intro key
    simp only [withKey, h]
  simp only [lookalikes, hwith, h]

/-! ## Crowded buckets -/

-- The bucket of a key holds as many entries as the order has with that key.
theorem Buckets.Mirrors.length_members {b : Buckets} (h : b.Mirrors keys) (hnd : order.Nodup)
    (hsub : ∀ i key, keys.lookup i = some key → i ∈ order) (key : String) :
    (b.members key).length = (withKey keys order key).length := by
  refine List.Perm.length_eq ?_
  rw [List.perm_ext_iff_of_nodup (h.nodup key) (hnd.sublist (withKey_sublist key))]
  intro i
  rw [h.mem_iff, mem_withKey]
  exact ⟨fun hi => ⟨hsub i key hi, hi⟩, And.right⟩

-- What the crowded buckets of some keys are before they are put in order.
theorem mem_crowded_groups {b : Buckets} (h : b.Mirrors keys) (hnd : order.Nodup)
    (hsub : ∀ i key, keys.lookup i = some key → i ∈ order) {ks : List String} {g : List Nat} :
    g ∈ (((ListSet.ofList ks).filter (!·.isEmpty)).filterMap fun key =>
        let members := (b.lookup key).getD []
        if members.length ≤ 1 then none else some (order.filter members.contains)) ↔
      ∃ key ∈ ks, key ≠ "" ∧ g = withKey keys order key ∧ 1 < g.length := by
  have hfilter : ∀ key, order.filter ((b.lookup key).getD []).contains =
      withKey keys order key := by
    intro key
    refine List.filter_congr fun i _ => ?_
    rw [Bool.eq_iff_iff, List.contains_iff_mem, beq_iff_eq]
    exact h.mem_iff key i
  have hlen : ∀ key, ((b.lookup key).getD []).length = (withKey keys order key).length :=
    h.length_members hnd hsub
  simp only [List.mem_filterMap, List.mem_filter, ListSet.mem_ofList, hfilter, hlen,
    Option.ite_none_left_eq_some, Option.some.injEq, Bool.not_eq_true', Nat.not_le]
  constructor
  · rintro ⟨key, ⟨hmem, hne⟩, hlt, rfl⟩
    exact ⟨key, hmem, by simpa using hne, rfl, hlt⟩
  · rintro ⟨key, hmem, hne, rfl, hlt⟩
    exact ⟨key, ⟨hmem, by simpa using hne⟩, hlt, rfl⟩

-- The crowded buckets are different from one another.
theorem nodup_crowded_groups {b : Buckets} (h : b.Mirrors keys)
    (hsub : ∀ i key, keys.lookup i = some key → i ∈ order) (ks : List String) :
    (((ListSet.ofList ks).filter (!·.isEmpty)).filterMap fun key =>
      let members := (b.lookup key).getD []
      if members.length ≤ 1 then none else some (order.filter members.contains)).Nodup := by
  refine List.Nodup.filterMap ?_ ((ListSet.nodup_ofList ks).filter _)
  intro key key' g hg hg'
  simp only [Option.mem_def, Option.ite_none_left_eq_some, Option.some.injEq, Nat.not_le] at hg hg'
  -- A bucket has a member, and that has one key only.
  have hpos : 0 < ((b.lookup key).getD []).length := by omega
  rcases List.length_pos_iff_exists_mem.1 hpos with ⟨i, hi⟩
  have hkey := (h.mem_iff key i).1 hi
  have hmem : i ∈ g := by
    rw [← hg.2, List.mem_filter, List.contains_iff_mem]
    exact ⟨hsub i key hkey, hi⟩
  rw [← hg'.2, List.mem_filter, List.contains_iff_mem] at hmem
  have hkey' := (h.mem_iff key' i).1 hmem.2
  rw [hkey, Option.some.injEq] at hkey'
  exact hkey'

-- A list without repetitions that has one possible member.
theorem eq_toList_of_mem_iff {α : Type} {l : List α} (hnd : l.Nodup) {o : Option α}
    (h : ∀ a, a ∈ l ↔ o = some a) : l = o.toList := by
  have hperm : l.Perm o.toList := by
    rw [List.perm_ext_iff_of_nodup hnd (by cases o <;> simp)]
    intro a
    rw [h, Option.mem_toList]
  cases o with
  | none => exact List.perm_nil.1 hperm
  | some a => exact List.perm_singleton.1 hperm

/-- The crowded buckets of some entries are the groups of lookalikes with one of these entries. -/
theorem crowded_eq {b : Buckets} (h : b.Mirrors keys) (hnd : order.Nodup)
    (hsub : ∀ i key, keys.lookup i = some key → i ∈ order) (touched : List Nat) :
    Tracker.crowded b order (touched.filterMap (keys.lookup ·)) =
      (lookalikes keys order).filter (·.any touched.contains) := by
  rw [Tracker.crowded, Tracker.inOrder, lookalikes, List.filter_filterMap,
    List.filterMap_eq_flatMap_toList _ order]
  refine List.flatMap_congr fun i _ => ?_
  refine eq_toList_of_mem_iff ((nodup_crowded_groups h hsub _).filter _) (fun g => ?_)
  rw [List.mem_filter, mem_crowded_groups h hnd hsub, Option.filter_eq_some_iff, mem_group_iff,
    beq_iff_eq, List.any_eq_true]
  simp only [List.mem_filterMap, List.contains_iff_mem]
  constructor
  · rintro ⟨⟨key, ⟨j, hj, hkey⟩, hne, rfl, hlen⟩, hhead⟩
    exact ⟨⟨key, hne, rfl, hlen, hhead⟩, j, mem_withKey.2 ⟨hsub j key hkey, hkey⟩, hj⟩
  · rintro ⟨⟨key, hne, rfl, hlen, hhead⟩, j, hj, htouched⟩
    exact ⟨⟨key, ⟨j, htouched, (mem_withKey.1 hj).2⟩, hne, rfl, hlen⟩, hhead⟩

end Disambiguation

end CslProcessor
