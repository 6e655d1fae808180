import CslProcessor.Proofs.Disambiguation.Lockstep
import Mathlib.Data.List.Nodup

/-!
# What a Tracker Knows

The books of a tracker: a cache of keys, the keys of the entries it tracks, and the buckets of both
kinds of keys. `Tracker.Knows` says that all of them are right for a renderer, and every operation
keeps it.

The cache and the order of entries within a bucket depend on what was done before, so two trackers
with the same states can hold different books. `Tracker.Agree` relates such trackers. Every
question that the books answer has one answer in trackers that agree, which is why the rest of the
theory can run them in lockstep.

## Main definitions

* `Buckets.members`: The entries in a bucket.
* `Buckets.Mirrors`: Buckets hold exactly what a map of keys says.
* `Tracker.Knows`: The books of a tracker are right.
* `Tracker.Agree`: Two trackers know the same.

## Theorems

* `Buckets.Mirrors.add`, `Buckets.Mirrors.remove`: Buckets keep up with the keys.
* `Tracker.Knows.place`, `Tracker.Knows.untrack_write`: The books stay right.
* `Tracker.Agree.current`, `Tracker.Agree.base`: Trackers that agree have the same keys.
* `keyOf_lockstep`: A key is the same from the cache and from the renderer.
* `track_lockstep`, `commit_lockstep`: The operations in lockstep.
-/

namespace CslProcessor

namespace Disambiguation

namespace Buckets

/-- The entries in the bucket of a key. -/
def members (b : Buckets) (key : String) : List Nat :=
  (b.lookup key).getD []

theorem members_add_self (b : Buckets) (key : String) (i : Nat) :
    (b.add key i).members key = List.insert i (b.members key) := by
  rw [members, add, Assoc.lookup_set_self, Option.getD_some, members]

theorem members_add_of_ne (b : Buckets) {key key' : String} (h : key' ≠ key) (i : Nat) :
    (b.add key i).members key' = b.members key' := by
  rw [members, add, Assoc.lookup_set_of_ne h, members]

theorem members_remove_self (b : Buckets) (key : String) (i : Nat) :
    (b.remove key i).members key = (b.members key).erase i := by
  unfold remove
  split
  · rename_i hnil
    rw [members, members, Assoc.lookup_erase_self, Option.getD_none, hnil]
  · rw [members, members, Assoc.lookup_set_self, Option.getD_some]

theorem members_remove_of_ne (b : Buckets) {key key' : String} (h : key' ≠ key) (i : Nat) :
    (b.remove key i).members key' = b.members key' := by
  unfold remove
  split
  · rw [members, Assoc.lookup_erase_of_ne h, members]
  · rw [members, Assoc.lookup_set_of_ne h, members]

/-- The buckets hold exactly the entries that a map of keys puts there, each of them once, and
    there is no bucket without entries. -/
structure Mirrors (b : Buckets) (keys : Assoc Nat String) : Prop where
  mem_iff : ∀ key i, i ∈ b.members key ↔ keys.lookup i = some key
  nodup : ∀ key, (b.members key).Nodup
  occupied : ∀ key, b.lookup key ≠ some []

theorem Mirrors.nil : Mirrors [] [] :=
  ⟨fun _ _ => by simp [members], fun _ => by simp [members], fun _ => by simp⟩

/-- Putting an entry under a key, unless it has another one. -/
theorem Mirrors.add {b : Buckets} {keys : Assoc Nat String} (h : b.Mirrors keys) {i : Nat}
    {key : String} (hi : ∀ key', keys.lookup i = some key' → key' = key) :
    (b.add key i).Mirrors (Assoc.set i key keys) := by
  constructor
  · intro key' j
    by_cases hk : key' = key
    · rw [hk, members_add_self, List.mem_insert_iff, h.mem_iff]
      by_cases hj : j = i
      · simp [hj]
      · rw [Assoc.lookup_set_of_ne hj]
        simp [hj]
    · rw [members_add_of_ne b hk, h.mem_iff]
      by_cases hj : j = i
      · rw [hj, Assoc.lookup_set_self, Option.some.injEq]
        exact ⟨fun hl => absurd (hi key' hl) hk, fun heq => absurd heq.symm hk⟩
      · rw [Assoc.lookup_set_of_ne hj]
  · intro key'
    by_cases hk : key' = key
    · rw [hk, members_add_self]
      exact List.Nodup.insert (h.nodup key)
    · rw [members_add_of_ne b hk]
      exact h.nodup key'
  · intro key'
    by_cases hk : key' = key
    · rw [hk, Buckets.add, Assoc.lookup_set_self]
      intro hnil
      have hmem : i ∈ List.insert i ((b.lookup key).getD []) := List.mem_insert_self
      rw [Option.some.inj hnil] at hmem
      exact List.not_mem_nil hmem
    · rw [Buckets.add, Assoc.lookup_set_of_ne hk]
      exact h.occupied key'

/-- Taking an entry out of the bucket of its key. -/
theorem Mirrors.remove {b : Buckets} {keys : Assoc Nat String} (h : b.Mirrors keys) {i : Nat}
    {key : String} (hi : keys.lookup i = some key) :
    (b.remove key i).Mirrors (Assoc.erase i keys) := by
  constructor
  · intro key' j
    by_cases hk : key' = key
    · rw [hk, members_remove_self, (h.nodup key).mem_erase_iff, h.mem_iff]
      by_cases hj : j = i
      · simp [hj]
      · rw [Assoc.lookup_erase_of_ne hj]
        simp [hj]
    · rw [members_remove_of_ne b hk, h.mem_iff]
      by_cases hj : j = i
      · rw [hj, Assoc.lookup_erase_self, hi]
        simp [Ne.symm hk]
      · rw [Assoc.lookup_erase_of_ne hj]
  · intro key'
    by_cases hk : key' = key
    · rw [hk, members_remove_self]
      exact (h.nodup key).erase i
    · rw [members_remove_of_ne b hk]
      exact h.nodup key'
  · intro key'
    unfold Buckets.remove
    by_cases hk : key' = key
    · rw [hk]
      split
      · rw [Assoc.lookup_erase_self]
        simp
      · rename_i hne
        rw [Assoc.lookup_set_self]
        exact fun hnil => hne (Option.some.inj hnil)
    · split
      · rw [Assoc.lookup_erase_of_ne hk]
        exact h.occupied key'
      · rw [Assoc.lookup_set_of_ne hk]
        exact h.occupied key'

-- Dropping an entry that has no key.
theorem Mirrors.erase {b : Buckets} {keys : Assoc Nat String} (h : b.Mirrors keys) {i : Nat}
    (hi : keys.lookup i = none) : b.Mirrors (Assoc.erase i keys) where
  mem_iff := fun key j => by
    rw [h.mem_iff]
    by_cases hj : j = i
    · rw [hj, hi, Assoc.lookup_erase_self]
    · rw [Assoc.lookup_erase_of_ne hj]
  nodup := h.nodup
  occupied := h.occupied

end Buckets

variable {ε : Type}

namespace Tracker

/-- The books of a tracker are right for a renderer, and tell of no entries but some known ones. -/
structure Knows (r : KeyRenderer ε) (known : List Nat) (t : Tracker) : Prop where
  cached : ∀ i d key, t.keys.lookup (i, d) = some key → i ∈ known ∧ r.key i d = .ok key
  current : ∀ i key, t.current.lookup i = some key → i ∈ known ∧ r.key i (t.state i) = .ok key
  base : ∀ i key, t.base.lookup i = some key → r.key i (t.state i).withoutSuffix = .ok key
  both : ∀ i, (t.base.lookup i).isSome = t.tracks i
  buckets : t.buckets.Mirrors t.current
  baseBuckets : t.baseBuckets.Mirrors t.base

-- A tracker without books knows what there is to know about no entry.
theorem Knows.reset (r : KeyRenderer ε) (known : List Nat) (t : Tracker) (id : Option Nat) :
    (t.reset id).Knows r known where
  cached := fun i d key h => by simp [Tracker.reset] at h
  current := fun i key h => by simp [Tracker.reset] at h
  base := fun i key h => by simp [Tracker.reset] at h
  both := fun i => rfl
  buckets := Buckets.Mirrors.nil
  baseBuckets := Buckets.Mirrors.nil

-- Knowing about some entries is knowing about them among more entries, and does not depend on what
-- the renderer does with others.
theorem Knows.mono {r r' : KeyRenderer ε} {known known' : List Nat} {t : Tracker}
    (h : t.Knows r known) (hsub : ∀ i ∈ known, i ∈ known')
    (hkey : ∀ i ∈ known, ∀ d, r'.key i d = r.key i d) : t.Knows r' known' where
  cached := fun i d key hl => by
    rcases h.cached i d key hl with ⟨hi, hk⟩
    exact ⟨hsub i hi, by rw [hkey i hi]; exact hk⟩
  current := fun i key hl => by
    rcases h.current i key hl with ⟨hi, hk⟩
    exact ⟨hsub i hi, by rw [hkey i hi]; exact hk⟩
  base := fun i key hl => by
    have htr : t.tracks i = true := by rw [← h.both i, hl, Option.isSome_some]
    rcases Option.isSome_iff_exists.1 htr with ⟨k, hk⟩
    rw [hkey i (h.current i k hk).1]
    exact h.base i key hl
  both := h.both
  buckets := h.buckets
  baseBuckets := h.baseBuckets

theorem tracks_eq_true_iff {t : Tracker} {i : Nat} :
    t.tracks i = true ↔ ∃ key, t.current.lookup i = some key :=
  Option.isSome_iff_exists

theorem tracks_eq_false_iff {t : Tracker} {i : Nat} :
    t.tracks i = false ↔ t.current.lookup i = none := by
  rw [tracks, Option.isSome_eq_false_iff, Option.isNone_iff_eq_none]

theorem Knows.mem_of_tracks {r : KeyRenderer ε} {known : List Nat} {t : Tracker}
    (h : t.Knows r known) {i : Nat} (hi : t.tracks i = true) : i ∈ known := by
  rcases tracks_eq_true_iff.1 hi with ⟨key, hkey⟩
  exact (h.current i key hkey).1

theorem Knows.base_eq_none {r : KeyRenderer ε} {known : List Nat} {t : Tracker}
    (h : t.Knows r known) {i : Nat} (hi : t.tracks i = false) : t.base.lookup i = none := by
  rw [← Option.isNone_iff_eq_none, ← Option.isSome_eq_false_iff, h.both i, hi]

theorem Knows.exists_base {r : KeyRenderer ε} {known : List Nat} {t : Tracker}
    (h : t.Knows r known) {i : Nat} (hi : t.tracks i = true) :
    ∃ key, t.base.lookup i = some key := by
  rw [← Option.isSome_iff_exists, h.both i, hi]

/-! ## Placing and dropping entries -/

theorem tracks_place (t : Tracker) (i j : Nat) (key base : String) :
    (t.place i key base).tracks j = (j == i || t.tracks j) := by
  unfold tracks place
  by_cases hj : j = i
  · simp [hj]
  · simp [Assoc.lookup_set_of_ne hj, hj]

theorem tracks_untrack (t : Tracker) (i j : Nat) :
    (t.untrack i).tracks j = (j != i && t.tracks j) := by
  unfold tracks untrack
  by_cases hj : j = i
  · simp [hj]
  · simp [Assoc.lookup_erase_of_ne hj, hj]

/-- The books stay right when an entry is placed under its keys, for the first time or again. -/
theorem Knows.place {r : KeyRenderer ε} {known : List Nat} {t : Tracker} (h : t.Knows r known)
    {i : Nat} (hi : i ∈ known) {key base : String}
    (hkey : r.key i (t.state i) = .ok key)
    (hbase : r.key i (t.state i).withoutSuffix = .ok base) :
    (t.place i key base).Knows r known where
  cached := h.cached
  current := fun j k hl => by
    by_cases hj : j = i
    · rw [Tracker.place, hj, Assoc.lookup_set_self] at hl
      rw [hj, ← Option.some.inj hl]
      exact ⟨hi, hkey⟩
    · rw [Tracker.place, Assoc.lookup_set_of_ne hj] at hl
      exact h.current j k hl
  base := fun j k hl => by
    by_cases hj : j = i
    · rw [Tracker.place, hj, Assoc.lookup_set_self] at hl
      rw [hj, ← Option.some.inj hl]
      exact hbase
    · rw [Tracker.place, Assoc.lookup_set_of_ne hj] at hl
      exact h.base j k hl
  both := fun j => by
    rw [tracks_place, ← h.both j]
    by_cases hj : j = i
    · simp [Tracker.place, hj]
    · simp [Tracker.place, Assoc.lookup_set_of_ne hj, hj]
  buckets := h.buckets.add fun key' hl => by
    have hsame := (h.current i key' hl).2
    rw [hkey] at hsame
    exact (Except.ok.inj hsame).symm
  baseBuckets := h.baseBuckets.add fun base' hl => by
    have hsame := h.base i base' hl
    rw [hbase] at hsame
    exact (Except.ok.inj hsame).symm

/-- A tracker with the state of an entry written. -/
def write (t : Tracker) (i : Nat) (d : EntryDisambiguation) : Tracker :=
  { t with states := Assoc.set i d t.states }

theorem state_write (t : Tracker) (i : Nat) (d : EntryDisambiguation) :
    (t.write i d).state = Function.update t.state i d := by
  funext j
  by_cases hj : j = i
  · rw [hj, Function.update_self, state, write, Assoc.lookup_set_self, Option.getD_some]
  · rw [Function.update_of_ne hj, state, write, Assoc.lookup_set_of_ne hj, state]

-- The books stay right when a state is written and its entry dropped, since nothing but the cache
-- tells of that entry any more.
theorem Knows.untrack_write {r : KeyRenderer ε} {known : List Nat} {t : Tracker}
    (h : t.Knows r known) (i : Nat) (d : EntryDisambiguation) :
    ((t.write i d).untrack i).Knows r known := by
  have hstate : ∀ j, j ≠ i → ((t.write i d).untrack i).state j = t.state j := by
    intro j hj
    change (t.write i d).state j = t.state j
    rw [state_write, Function.update_of_ne hj]
  -- The entry itself is in none of the books any more, and the state of no other entry is written.
  constructor
  · exact h.cached
  · intro j k hl
    by_cases hj : j = i
    · rw [Tracker.untrack, hj, Assoc.lookup_erase_self] at hl
      exact absurd hl (by simp only [reduceCtorEq, not_false_eq_true])
    · rw [Tracker.untrack, Assoc.lookup_erase_of_ne hj] at hl
      rw [hstate j hj]
      exact h.current j k hl
  · intro j k hl
    by_cases hj : j = i
    · rw [Tracker.untrack, hj, Assoc.lookup_erase_self] at hl
      exact absurd hl (by simp only [reduceCtorEq, not_false_eq_true])
    · rw [Tracker.untrack, Assoc.lookup_erase_of_ne hj] at hl
      rw [hstate j hj]
      exact h.base j k hl
  · intro j
    rw [tracks_untrack]
    by_cases hj : j = i
    · simp [Tracker.untrack, hj]
    · have hb : (t.base.lookup j).isSome = t.tracks j := h.both j
      simp [Tracker.untrack, Tracker.write, Assoc.lookup_erase_of_ne hj, hj, hb, tracks]
  · simp only [Tracker.untrack, Tracker.write]
    cases hkey : t.current.lookup i with
    | some key => exact h.buckets.remove hkey
    | none => exact h.buckets.erase hkey
  · simp only [Tracker.untrack, Tracker.write]
    cases hbase : t.base.lookup i with
    | some base => exact h.baseBuckets.remove hbase
    | none => exact h.baseBuckets.erase hbase

/-! ## Trackers that agree -/

/-- Two trackers know the same about the same entries for the same renderer, whatever their books
    look like. -/
structure Agree (r : KeyRenderer ε) (known : List Nat) (t u : Tracker) : Prop where
  left : t.Knows r known
  right : u.Knows r known
  state : t.state = u.state
  tracks : t.tracks = u.tracks
  renderer : t.renderer = u.renderer

theorem Agree.refl {r : KeyRenderer ε} {known : List Nat} {t : Tracker} (h : t.Knows r known) :
    t.Agree r known t :=
  ⟨h, h, rfl, rfl, rfl⟩

/-- Trackers that agree have the same keys. -/
theorem Agree.current {r : KeyRenderer ε} {known : List Nat} {t u : Tracker}
    (h : t.Agree r known u) (i : Nat) : t.current.lookup i = u.current.lookup i := by
  -- Both track the entry or neither does, and both have the key that the renderer gives it.
  have htr := congrFun h.tracks i
  cases ht : t.current.lookup i with
  | none =>
      have hu : u.tracks i = false := by rw [← htr, tracks_eq_false_iff, ht]
      exact (tracks_eq_false_iff.1 hu).symm
  | some key =>
      have hu : u.tracks i = true := by rw [← htr, tracks_eq_true_iff]; exact ⟨key, ht⟩
      rcases tracks_eq_true_iff.1 hu with ⟨key', hkey'⟩
      have hsame := (h.left.current i key ht).2
      rw [h.state, (h.right.current i key' hkey').2, Except.ok.injEq] at hsame
      rw [hkey', hsame]

/-- Trackers that agree have the same base keys. -/
theorem Agree.base {r : KeyRenderer ε} {known : List Nat} {t u : Tracker}
    (h : t.Agree r known u) (i : Nat) : t.base.lookup i = u.base.lookup i := by
  cases htr : t.tracks i with
  | false =>
      have hu : u.tracks i = false := by rw [← h.tracks]; exact htr
      rw [h.left.base_eq_none htr, h.right.base_eq_none hu]
  | true =>
      have hu : u.tracks i = true := by rw [← h.tracks]; exact htr
      rcases h.left.exists_base htr with ⟨base, hbase⟩
      rcases h.right.exists_base hu with ⟨base', hbase'⟩
      have hsame := h.left.base i base hbase
      rw [h.state, h.right.base i base' hbase', Except.ok.injEq] at hsame
      rw [hbase, hbase', hsame]

end Tracker

/-! ## Keys from the cache -/

open Tracker

/-- A tracker apart from its cache and its list of what was rendered. -/
def Tracker.withoutCache (t : Tracker) : Tracker :=
  { t with keys := [], calls := [] }

theorem Tracker.state_eq_of_withoutCache {t u : Tracker} (h : u.withoutCache = t.withoutCache) :
    u.state = t.state := by
  have hstate : u.withoutCache.state = t.withoutCache.state := congrArg Tracker.state h
  exact hstate

theorem Tracker.tracks_eq_of_withoutCache {t u : Tracker} (h : u.withoutCache = t.withoutCache) :
    u.tracks = t.tracks := by
  have htracks : u.withoutCache.tracks = t.withoutCache.tracks := congrArg Tracker.tracks h
  exact htracks

theorem Tracker.renderer_eq_of_withoutCache {t u : Tracker}
    (h : u.withoutCache = t.withoutCache) : u.renderer = t.renderer := by
  have hr : u.withoutCache.renderer = t.withoutCache.renderer := congrArg Tracker.renderer h
  exact hr

-- Asking for a key changes nothing but the cache.
theorem withoutCache_of_keyOf {r : KeyRenderer ε} {i : Nat} {d : EntryDisambiguation}
    {t v : Tracker} {key : String} (h : keyOf r i d t = .ok key v) :
    v.withoutCache = t.withoutCache := by
  unfold keyOf at h
  rw [get_bind] at h
  cases hc : t.keys.lookup (i, d) with
  | some known =>
      rw [hc] at h
      injection h with _ hv
      rw [← hv]
  | none =>
      rw [hc] at h
      simp only [modify_bind] at h
      cases hk : r.key i d with
      | ok text =>
          rw [hk] at h
          injection h with _ hv
          rw [← hv]
          rfl
      | error e =>
          rw [hk] at h
          cases h

-- Filling the cache with a right key leaves the books right.
theorem Tracker.Knows.cache {r : KeyRenderer ε} {known : List Nat} {t : Tracker}
    (h : t.Knows r known) {i : Nat} (hi : i ∈ known) {d : EntryDisambiguation} {key : String}
    (hkey : r.key i d = .ok key) (calls : List (Nat × EntryDisambiguation)) :
    ({ t with keys := ((i, d), key) :: t.keys, calls } : Tracker).Knows r known where
  cached := fun j d' key' hl => by
    rw [List.lookup_cons] at hl
    by_cases hj : (j, d') = (i, d)
    · rw [hj, beq_self_eq_true] at hl
      rw [(Prod.mk.inj hj).1, (Prod.mk.inj hj).2, ← Option.some.inj hl]
      exact ⟨hi, hkey⟩
    · rw [beq_false_of_ne hj] at hl
      exact h.cached j d' key' hl
  current := h.current
  base := h.base
  both := h.both
  buckets := h.buckets
  baseBuckets := h.baseBuckets

-- A key is what the renderer says, be it from the cache or not, and asking for it changes nothing
-- but the cache.
theorem keyOf_cases {r : KeyRenderer ε} {known : List Nat} {t : Tracker} (h : t.Knows r known)
    {i : Nat} (hi : i ∈ known) (d : EntryDisambiguation) :
    (∃ key v, r.key i d = .ok key ∧ keyOf r i d t = .ok key v ∧ v.Knows r known ∧
      v.withoutCache = t.withoutCache) ∨
    (∃ e v, r.key i d = .error e ∧ keyOf r i d t = .error (.rendering e) v) := by
  unfold keyOf
  rw [get_bind]
  cases hc : t.keys.lookup (i, d) with
  | some key =>
      exact Or.inl ⟨key, t, (h.cached i d key hc).2, rfl, h, rfl⟩
  | none =>
      simp only [modify_bind]
      cases hk : r.key i d with
      | ok key => exact Or.inl ⟨key, _, rfl, rfl, h.cache hi hk _, rfl⟩
      | error e => exact Or.inr ⟨e, _, rfl, rfl⟩

theorem Tracker.Agree.of_withoutCache {r : KeyRenderer ε} {known : List Nat} {t u v w : Tracker}
    (h : t.Agree r known u) (hv : v.Knows r known) (hw : w.Knows r known)
    (htv : v.withoutCache = t.withoutCache) (huw : w.withoutCache = u.withoutCache) :
    v.Agree r known w where
  left := hv
  right := hw
  state := by rw [state_eq_of_withoutCache htv, state_eq_of_withoutCache huw, h.state]
  tracks := by rw [tracks_eq_of_withoutCache htv, tracks_eq_of_withoutCache huw, h.tracks]
  renderer := by rw [renderer_eq_of_withoutCache htv, renderer_eq_of_withoutCache huw, h.renderer]

/-- Trackers that agree give the same key, or fail to give it for the same reason. -/
theorem keyOf_lockstep {r : KeyRenderer ε} {known : List Nat} {t u : Tracker}
    (h : t.Agree r known u) {i : Nat} (hi : i ∈ known) (d : EntryDisambiguation) :
    Lockstep (fun a b v w => a = b ∧ r.key i d = .ok a ∧ v.Agree r known w ∧
      v.withoutCache = t.withoutCache ∧ w.withoutCache = u.withoutCache)
      (keyOf r i d t) (keyOf r i d u) := by
  rcases keyOf_cases h.left hi d with ⟨key, v, hk, ht, hv, htv⟩ | ⟨e, v, hk, ht⟩
  · rcases keyOf_cases h.right hi d with ⟨key', w, hk', hu, hw, huw⟩ | ⟨e, w, hk', hu⟩
    · rw [ht, hu]
      rw [hk, Except.ok.injEq] at hk'
      exact ⟨hk', hk, h.of_withoutCache hv hw htv huw, htv, huw⟩
    · rw [hk] at hk'
      exact absurd hk' (by simp only [reduceCtorEq, not_false_eq_true])
  · rcases keyOf_cases h.right hi d with ⟨key', w, hk', hu, hw, huw⟩ | ⟨e', w, hk', hu⟩
    · rw [hk] at hk'
      exact absurd hk' (by simp only [reduceCtorEq, not_false_eq_true])
    · rw [ht, hu]
      rw [hk, Except.error.injEq] at hk'
      exact hk'

/-! ## Tracking and committing -/

/-- What tracking one more entry changes. -/
def Tracker.Tracked (i : Nat) (t u : Tracker) : Prop :=
  u.state = t.state ∧ (∀ j, u.tracks j = (j == i || t.tracks j)) ∧ u.renderer = t.renderer

theorem Tracker.Agree.place {r : KeyRenderer ε} {known : List Nat} {t u : Tracker}
    (h : t.Agree r known u) {i : Nat} (hi : i ∈ known) {key base : String}
    (hkey : r.key i (t.state i) = .ok key)
    (hbase : r.key i (t.state i).withoutSuffix = .ok base) :
    (t.place i key base).Agree r known (u.place i key base) where
  left := h.left.place hi hkey hbase
  right := h.right.place hi (by rw [← h.state]; exact hkey) (by rw [← h.state]; exact hbase)
  state := h.state
  tracks := by
    funext j
    rw [tracks_place, tracks_place, h.tracks]
  renderer := h.renderer

/-- Trackers that agree on everything agree when they start to track an entry. -/
theorem track_lockstep {r : KeyRenderer ε} {known : List Nat} {t u : Tracker}
    (h : t.Agree r known u) {i : Nat} (hi : i ∈ known) :
    Lockstep (fun _ _ v w => v.Agree r known w ∧ t.Tracked i v ∧ u.Tracked i w)
      (track r i t) (track r i u) := by
  unfold track
  rw [get_bind, get_bind, ← h.state]
  refine (keyOf_lockstep h hi _).bind ?_
  rintro key _ t₁ u₁ ⟨rfl, hkey, h₁, ht₁, hu₁⟩
  refine (keyOf_lockstep h₁ hi _).bind ?_
  rintro base _ t₂ u₂ ⟨rfl, hbase, h₂, ht₂, hu₂⟩
  have ht := ht₂.trans ht₁
  have hu := hu₂.trans hu₁
  have hst := state_eq_of_withoutCache ht
  have htt := tracks_eq_of_withoutCache ht
  have hsu := state_eq_of_withoutCache hu
  have hrt := renderer_eq_of_withoutCache ht
  have hru := renderer_eq_of_withoutCache hu
  refine ⟨h₂.place hi (by rw [hst]; exact hkey) (by rw [hst]; exact hbase),
    ⟨hst, fun j => ?_, hrt⟩, hsu, fun j => ?_, hru⟩
  · rw [tracks_place, htt]
  · rw [tracks_place, tracks_eq_of_withoutCache hu]

/-- What committing a state changes: the state of the entry, and the tracker tells whether that
    was another one. -/
def Tracker.Committed (i : Nat) (d : EntryDisambiguation) (changed : Bool) (t u : Tracker) : Prop :=
  u.state = Function.update t.state i d ∧ (changed = true ↔ d ≠ t.state i) ∧
    u.tracks = t.tracks ∧ u.renderer = t.renderer

theorem update?_self (t : Tracker) (i : Nat) : t.update? i (t.state i) = .ok none := by
  rw [Tracker.update?, if_pos (beq_self_eq_true _)]

theorem update?_of_covers {t : Tracker} {i : Nat} {d : EntryDisambiguation} (hne : d ≠ t.state i)
    (hc : d.covers (t.state i) = true) : t.update? i d = .ok (some (t.write i d)) := by
  rw [Tracker.update?, beq_false_of_ne hne, if_neg Bool.false_ne_true, if_pos hc]
  rfl

theorem Tracker.Agree.untrack_write {r : KeyRenderer ε} {known : List Nat} {t u : Tracker}
    (h : t.Agree r known u) (i : Nat) (d : EntryDisambiguation) :
    ((t.write i d).untrack i).Agree r known ((u.write i d).untrack i) where
  left := h.left.untrack_write i d
  right := h.right.untrack_write i d
  state := by
    change (t.write i d).state = (u.write i d).state
    rw [state_write, state_write, h.state]
  tracks := by
    funext j
    rw [tracks_untrack, tracks_untrack]
    change (j != i && t.tracks j) = (j != i && u.tracks j)
    rw [h.tracks]
  renderer := h.renderer

/-- Committing a state that takes nothing back succeeds wherever the renderer does, and leaves
    trackers that agree in agreement. -/
theorem commit_lockstep {r : KeyRenderer ε} {known : List Nat} {t u : Tracker}
    (h : t.Agree r known u) {i : Nat} (htr : t.tracks i = true) {d : EntryDisambiguation}
    (hc : d.covers (t.state i) = true) :
    Lockstep (fun a b v w => a = b ∧ v.Agree r known w ∧ t.Committed i d a v)
      (commit r i d t) (commit r i d u) := by
  unfold commit
  rw [get_bind, get_bind]
  by_cases hd : d = t.state i
  · -- The state that the entry has: nothing is done.
    have hu : u.update? i d = .ok none := by
      rw [hd, h.state]
      exact update?_self u i
    rw [hu]
    rw [hd, update?_self]
    refine ⟨rfl, h, ?_, ?_, rfl, rfl⟩
    · rw [Function.update_eq_self]
    · simp
  · -- Another state: it is written, and the entry is dropped and tracked again.
    have hu : u.update? i d = .ok (some (u.write i d)) :=
      update?_of_covers (by rw [← h.state]; exact hd) (by rw [← h.state]; exact hc)
    rw [hu, update?_of_covers hd hc]
    simp only [set_bind]
    refine (track_lockstep (h.untrack_write i d) (h.left.mem_of_tracks htr)).bind ?_
    rintro _ _ v w ⟨h', ⟨hs, ht, hr⟩, -⟩
    refine ⟨rfl, h', ?_, ?_, ?_, hr⟩
    · rw [hs]
      exact state_write t i d
    · simp [hd]
    · funext j
      rw [ht, tracks_untrack]
      change (j == i || (j != i && t.tracks j)) = t.tracks j
      by_cases hj : j = i
      · rw [hj, htr, beq_self_eq_true, Bool.true_or]
      · rw [beq_false_of_ne hj, Bool.false_or, bne_iff_ne.2 hj, Bool.true_and]

end Disambiguation

end CslProcessor
