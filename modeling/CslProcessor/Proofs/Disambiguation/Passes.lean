import CslProcessor.Proofs.Disambiguation.Letters
import CslProcessor.Proofs.Disambiguation.Lookalikes

/-!
# Passes in Lockstep

A pass looks at the lookalikes of the entries that were touched last, and at the letters of those
that share a base key with one of them. `Separated` and `Lettered` say of the other entries that
there is no need to look: no two of them look alike, and their letters are in order. Under this
hypothesis a pass over some entries does what a pass over all entries would do, which is why it is
enough to look at what has changed.

After a pass the letters of all entries are in order. Whether two entries look alike is another
matter: they may if the renderer ignores letters. Of a renderer that is `Faithful` to letters,
entries that look alike after a pass were changed by it, so that the next pass looks at them.

## Main definitions

* `Separated`, `Lettered`: What holds of the entries that were not touched.
* `Faithful`: Entries with different letters do not look alike.
* `pass`: A single pass.

## Theorems

* `passes_succ`: Passes are one pass after the other.
* `completeGroups_lockstep`: Groups with letters in order may be left out.
* `pass_advances`: A pass over some entries does what a pass over others does.
* `pass_idle`: A pass without lookalikes does nothing when all letters are in order.
-/

namespace CslProcessor

namespace Disambiguation

variable {ε : Type} {p : Policy} {r : KeyRenderer ε} {order : List Nat}

/-- The states without their letters. -/
def bare (σ : States) : States :=
  fun i => (σ i).withoutSuffix

/-- No two entries look alike, apart from some entries. -/
def Separated (r : KeyRenderer ε) (order : List Nat) (σ : States) (except : List Nat) : Prop :=
  ∀ i ∈ order, ∀ j ∈ order, i ≠ j → i ∉ except → j ∉ except → ¬ LooksAlike r σ i j

/-- The letters of any two entries with the same base key are in order, apart from some entries. -/
def Lettered (r : KeyRenderer ε) (order : List Nat) (σ : States) (except : List Nat) : Prop :=
  ∀ i ∈ order, ∀ j ∈ order, i ≠ j → i ∉ except → j ∉ except →
    LooksAlike r (bare σ) i j → InOrder σ i j

/-- Two entries with the same text have the same letter, so that another letter for one of them
    tells them apart. -/
def Faithful (r : KeyRenderer ε) : Prop :=
  ∀ i j d e key, i ≠ j → key ≠ "" → r.key i d = .ok key → r.key j e = .ok key →
    d.yearSuffix = e.yearSuffix

theorem Lettered.mono {σ : States} {c c' : List Nat} (h : Lettered r order σ c)
    (hsub : ∀ i, i ∈ c → i ∈ c') : Lettered r order σ c' :=
  fun i hi j hj hij hic hjc =>
    h i hi j hj hij (fun hm => hic (hsub i hm)) (fun hm => hjc (hsub j hm))

/-! ## Groups of a tracker -/

-- The collisions of some entries are the groups of lookalikes with one of these entries.
theorem Tracker.Knows.collisions_eq {t : Tracker} (h : t.Knows r order) (hnd : order.Nodup)
    (touched : List Nat) : t.collisions order touched =
      (lookalikes t.current order).filter (·.any touched.contains) :=
  crowded_eq h.buckets hnd (fun i key hl => (h.current i key hl).1) touched

-- The groups with a common base key of some entries, likewise.
theorem Tracker.Knows.crowded_base_eq {t : Tracker} (h : t.Knows r order) (hnd : order.Nodup)
    (touched : List Nat) :
    Tracker.crowded t.baseBuckets order (touched.filterMap (t.base.lookup ·)) =
      (lookalikes t.base order).filter (·.any touched.contains) := by
  refine crowded_eq h.baseBuckets hnd (fun i key hl => ?_) touched
  have htr : t.tracks i = true := by rw [← h.both i, hl, Option.isSome_some]
  exact h.mem_of_tracks htr

theorem Tracker.Agree.collisions_eq {t u : Tracker} (h : t.Agree r order u) (hnd : order.Nodup)
    (touched : List Nat) : t.collisions order touched = u.collisions order touched := by
  rw [h.left.collisions_eq hnd, h.right.collisions_eq hnd, lookalikes_congr h.current]

-- The entries have the base keys that the renderer gives them.
theorem Tracker.Paired.base_iff {t u : Tracker} (h : t.Paired r order u) {i : Nat}
    (hi : i ∈ order) (key : String) :
    t.base.lookup i = some key ↔ r.key i (bare t.state i) = .ok key := by
  refine ⟨h.left.base i key, fun hk => ?_⟩
  rcases h.left.exists_base (h.tracked i hi) with ⟨key', hkey'⟩
  have hk' := h.left.base i key' hkey'
  rw [bare, hk', Except.ok.injEq] at hk
  rw [hkey', hk]

-- Two members of a group of lookalikes look alike.
theorem Tracker.Paired.looksAlike {t u : Tracker} (h : t.Paired r order u) {g : List Nat}
    (hg : g ∈ lookalikes t.current order) {i j : Nat} (hi : i ∈ g) (hj : j ∈ g) :
    LooksAlike r t.state i j := by
  have hsub := (sublist_of_mem_lookalikes hg).subset
  rcases exists_key_of_mem_lookalikes hg with ⟨key, hne, hkey⟩
  exact ⟨key, hne, (h.current_iff (hsub hi) key).1 (hkey i hi),
    (h.current_iff (hsub hj) key).1 (hkey j hj)⟩

-- Two entries that look alike are in a group of lookalikes.
theorem Tracker.Paired.exists_group {t u : Tracker} (h : t.Paired r order u) {i j : Nat}
    (hi : i ∈ order) (hj : j ∈ order) (hij : i ≠ j) (halike : LooksAlike r t.state i j) :
    ∃ g ∈ lookalikes t.current order, i ∈ g ∧ j ∈ g := by
  rcases halike with ⟨key, hne, hki, hkj⟩
  exact exists_mem_lookalikes hi hj hij hne ((h.current_iff hi key).2 hki)
    ((h.current_iff hj key).2 hkj)

-- Two members of a group with a common base key look alike without their letters.
theorem Tracker.Paired.looksAlike_bare {t u : Tracker} (h : t.Paired r order u) {g : List Nat}
    (hg : g ∈ lookalikes t.base order) {i j : Nat} (hi : i ∈ g) (hj : j ∈ g) :
    LooksAlike r (bare t.state) i j := by
  have hsub := (sublist_of_mem_lookalikes hg).subset
  rcases exists_key_of_mem_lookalikes hg with ⟨key, hne, hkey⟩
  exact ⟨key, hne, (h.base_iff (hsub hi) key).1 (hkey i hi),
    (h.base_iff (hsub hj) key).1 (hkey j hj)⟩

-- Two entries that look alike without their letters are in a group with a common base key.
theorem Tracker.Paired.exists_base_group {t u : Tracker} (h : t.Paired r order u) {i j : Nat}
    (hi : i ∈ order) (hj : j ∈ order) (hij : i ≠ j) (halike : LooksAlike r (bare t.state) i j) :
    ∃ g ∈ lookalikes t.base order, i ∈ g ∧ j ∈ g := by
  rcases halike with ⟨key, hne, hki, hkj⟩
  exact exists_mem_lookalikes hi hj hij hne ((h.base_iff hi key).2 hki)
    ((h.base_iff hj key).2 hkj)

/-! ## Means and letters for groups -/

-- Telling one group apart advances. With a faithful renderer, members that have not moved have not
-- looked alike.
theorem separate_advances (hnd : order.Nodup) {group : List Nat} (hsub : group.Sublist order)
    {t u : Tracker} (h : t.Paired r order u) :
    Lockstep (fun a b v w =>
      (Faithful r → ∀ i ∈ group, ∀ j ∈ group, i ≠ j → i ∉ a → j ∉ a →
        ¬ LooksAlike r t.state i j) ∧ Advances p r order id t a b v w)
      (separate p r group t) (separate p r group u) := by
  unfold separate
  refine (applyMethods_advances hnd p.steppedMethods [group] ?_ t u h).bind ?_
  · intro g hg
    rw [List.mem_singleton.1 hg]
    exact hsub
  · rintro ⟨c, remaining⟩ _ v w ⟨hleft, rfl, hvw, hprog⟩
    refine (assignAll_advances (p := p) hnd remaining hleft.sublist v w hvw).bind ?_
    rintro c' _ v' w' ⟨hkept, rfl, hvw', hprog'⟩
    refine ⟨fun hf i hi j hj hij hni hnj halike => ?_, rfl, hvw',
      hprog.trans hprog' (fun i => ListSet.mem_union)⟩
    rw [ListSet.mem_union, not_or] at hni hnj
    -- The two are still together when letters are given, so they have different ones.
    rcases hleft.together group List.mem_cons_self i hi j hj hij hni.1 hnj.1 halike with
      ⟨k, hk, hik, hjk⟩
    have hdiff := hkept k hk i hik j hjk hij hni.2 hnj.2
    rw [hprog.state_eq hni.1, hprog.state_eq hnj.1] at hdiff
    rcases halike with ⟨key, hne, hki, hkj⟩
    exact hdiff (hf i j _ _ key hij hne hki hkj)

-- Telling several groups apart advances, likewise.
theorem separateAll_advances (hnd : order.Nodup) (groups : List (List Nat))
    (hgroups : ∀ g ∈ groups, g.Sublist order) :
    ∀ t u : Tracker, t.Paired r order u →
      Lockstep (fun a b v w =>
        (Faithful r → ∀ g ∈ groups, ∀ i ∈ g, ∀ j ∈ g, i ≠ j → i ∉ a → j ∉ a →
          ¬ LooksAlike r t.state i j) ∧ Advances p r order id t a b v w)
        (separateAll p r groups t) (separateAll p r groups u) := by
  induction groups with
  | nil =>
      intro t u h
      exact ⟨fun _ g hg => absurd hg List.not_mem_nil, rfl, h, Tracker.Progress.refl t⟩
  | cons group rest ih =>
      intro t u h
      rw [separateAll]
      refine (separate_advances (p := p) hnd (hgroups group List.mem_cons_self) h).bind ?_
      rintro c _ v w ⟨hsep, rfl, hvw, hprog⟩
      refine (ih (fun g hg => hgroups g (List.mem_cons_of_mem _ hg)) v w hvw).bind ?_
      rintro c' _ v' w' ⟨hsep', rfl, hvw', hprog'⟩
      refine ⟨fun hf g hg i hi j hj hij hni hnj halike => ?_, rfl, hvw',
        hprog.trans hprog' (fun i => ListSet.mem_union)⟩
      rw [ListSet.mem_union, not_or] at hni hnj
      rcases List.mem_cons.1 hg with rfl | hg
      · exact hsep hf i hi j hj hij hni.1 hnj.1 halike
      · exact hsep' hf g hg i hi j hj hij hni.2 hnj.2
          (halike.congr (hprog.state_eq hni.1) (hprog.state_eq hnj.1))

/-! ## Completing letters -/

/-- What completing the letters of groups does to the states: it leaves the letters of every group
    with a common base key in order, and changes nothing but letters. -/
structure Completion (r : KeyRenderer ε) (groups : List (List Nat)) (σ τ : States) : Prop where
  withoutSuffix : ∀ i, (τ i).withoutSuffix = (σ i).withoutSuffix
  frame : ∀ i, (∀ g ∈ groups, i ∉ g) → τ i = σ i
  inOrder : ∀ g ∈ groups, (∀ i ∈ g, ∀ j ∈ g, SameBase r σ i j) →
    ∀ i ∈ g, ∀ j ∈ g, i ≠ j → InOrder τ i j

-- A group with letters in order may be passed over.
theorem Completion.skip {g : List Nat} {rest : List (List Nat)} {σ τ : States}
    (hdisj : ∀ g' ∈ rest, List.Disjoint g g')
    (hg : ∀ i ∈ g, ∀ j ∈ g, i ≠ j → InOrder σ i j) (h : Completion r rest σ τ) :
    Completion r (g :: rest) σ τ where
  withoutSuffix := h.withoutSuffix
  frame := fun i hi => h.frame i (fun g' hg' => hi g' (List.mem_cons_of_mem _ hg'))
  inOrder := fun g' hg' hbase i hi j hj hij => by
    rcases List.mem_cons.1 hg' with rfl | hg'
    · have hframe : ∀ k ∈ g', τ k = σ k :=
        fun k hk => h.frame k (fun g'' hg'' hk' => hdisj g'' hg'' hk hk')
      exact (hg i hi j hj hij).congr (by rw [hframe i hi]) (by rw [hframe j hj])
    · exact h.inOrder g' hg' hbase i hi j hj hij

-- One group after another.
theorem Completion.cons {g changed : List Nat} {rest : List (List Nat)} {σ τ ρ : States}
    (hdisj : ∀ g' ∈ rest, List.Disjoint g g') (hg : Lettering r [] g changed σ τ)
    (h : Completion r rest τ ρ) : Completion r (g :: rest) σ ρ where
  withoutSuffix := fun i => by rw [h.withoutSuffix, hg.withoutSuffix]
  frame := fun i hi => by
    rw [h.frame i (fun g' hg' => hi g' (List.mem_cons_of_mem _ hg')),
      hg.frame i (hi g List.mem_cons_self)]
  inOrder := fun g' hg' hbase i hi j hj hij => by
    rcases List.mem_cons.1 hg' with rfl | hg'
    · have hframe : ∀ k ∈ g', ρ k = τ k :=
        fun k hk => h.frame k (fun g'' hg'' hk' => hdisj g'' hg'' hk hk')
      have hdiff := hg.distinct i hi j hj hij (hbase i hi j hj)
      have horder : InOrder τ i j :=
        ⟨iff_of_false (hg.lettered i hi) (hg.lettered j hj), fun heq => absurd heq hdiff⟩
      exact horder.congr (by rw [hframe i hi]) (by rw [hframe j hj])
    · refine h.inOrder g' hg' (fun k hk l hl => ?_) i hi j hj hij
      exact (hbase k hk l hl).congr (hg.withoutSuffix k) (hg.withoutSuffix l)

theorem Tracker.lettersInOrder_congr {t u : Tracker} {g : List Nat}
    (h : ∀ i ∈ g, u.state i = t.state i) : u.lettersInOrder g = t.lettersInOrder g := by
  have hletters : g.filterMap (fun i => (u.state i).yearSuffix) =
      g.filterMap fun i => (t.state i).yearSuffix :=
    List.filterMap_congr fun i hi => by rw [h i hi]
  rw [Tracker.lettersInOrder, Tracker.lettersInOrder, hletters]

-- A group with letters in order may be left out.
theorem completeGroups_filter_cons {t : Tracker} {g : List Nat} (hg : t.lettersInOrder g = true)
    (needed : List Nat → Bool) (rest : List (List Nat)) :
    completeGroups r ((g :: rest).filter needed) t = completeGroups r (rest.filter needed) t := by
  rw [List.filter_cons]
  by_cases hn : needed g = true
  · rw [if_pos hn, completeGroups, get_bind, if_pos hg]
  · rw [if_neg hn]

/-- Completing the letters of groups advances, and does the same whichever groups with letters in
    order are left out. -/
theorem completeGroups_lockstep (hnd : order.Nodup) (needed needed' : List Nat → Bool)
    (groups : List (List Nat)) (hgroups : ∀ g ∈ groups, g.Sublist order)
    (hdisj : groups.Pairwise List.Disjoint) :
    ∀ t u : Tracker, t.Paired r order u →
      (∀ g ∈ groups, needed g = false → t.lettersInOrder g = true) →
      (∀ g ∈ groups, needed' g = false → t.lettersInOrder g = true) →
      Lockstep (fun a b v w => Completion r groups t.state v.state ∧
        Advances p r order Prod.fst t a b v w)
        (completeGroups r (groups.filter needed) t)
        (completeGroups r (groups.filter needed') u) := by
  induction groups with
  | nil =>
      intro t u h _ _
      exact ⟨⟨fun _ => rfl, fun _ _ => rfl, fun g hg => absurd hg List.not_mem_nil⟩, rfl, h,
        Tracker.Progress.refl t⟩
  | cons g rest ih =>
      intro t u h hn hn'
      rw [List.pairwise_cons] at hdisj
      have hsub := hgroups g List.mem_cons_self
      have hrest : ∀ g' ∈ rest, g'.Sublist order :=
        fun g' hg' => hgroups g' (List.mem_cons_of_mem _ hg')
      have hsame : u.lettersInOrder g = t.lettersInOrder g :=
        Tracker.lettersInOrder_congr fun i _ => by rw [h.state]
      by_cases hg : t.lettersInOrder g = true
      · -- A group with letters in order makes no difference, left out or not.
        rw [completeGroups_filter_cons hg, completeGroups_filter_cons (hsame.trans hg)]
        refine (ih hrest hdisj.2 t u h (fun g' hg' => hn g' (List.mem_cons_of_mem _ hg'))
          (fun g' hg' => hn' g' (List.mem_cons_of_mem _ hg'))).mono ?_
        rintro a b v w ⟨hcompl, hadv⟩
        exact ⟨hcompl.skip hdisj.1 ((lettersInOrder_iff (hnd.sublist hsub)).1 hg), hadv⟩
      · -- A group with letters that are not in order is left out by neither run.
        have hneeded : needed g = true := by
          by_contra hfalse
          exact hg (hn g List.mem_cons_self (Bool.not_eq_true _ ▸ hfalse))
        have hneeded' : needed' g = true := by
          by_contra hfalse
          exact hg (hn' g List.mem_cons_self (Bool.not_eq_true _ ▸ hfalse))
        rw [List.filter_cons_of_pos hneeded, List.filter_cons_of_pos hneeded', completeGroups,
          completeGroups, get_bind, get_bind, hsame, if_neg hg, if_neg hg]
        refine (assignSuffixes_advances_nil (p := p) hnd hsub h).bind ?_
        rintro c _ v w ⟨hletters, rfl, hvw, hprog⟩
        -- Groups have no members in common, so the letters of the others are as they were.
        have hkeep : ∀ g' ∈ rest, t.lettersInOrder g' = true → v.lettersInOrder g' = true := by
          intro g' hg' ht
          rw [Tracker.lettersInOrder_congr fun i hi =>
            hletters.frame i (fun hi' => hdisj.1 g' hg' hi' hi), ht]
        refine (ih hrest hdisj.2 v w hvw
          (fun g' hg' hf => hkeep g' hg' (hn g' (List.mem_cons_of_mem _ hg') hf))
          (fun g' hg' hf => hkeep g' hg' (hn' g' (List.mem_cons_of_mem _ hg') hf))).bind ?_
        rintro ⟨c', concerned⟩ _ v' w' ⟨hcompl, rfl, hvw', hprog'⟩
        exact ⟨hcompl.cons hdisj.1 hletters, rfl, hvw',
          hprog.trans hprog' (fun i => ListSet.mem_union)⟩

-- Letters that are in order apart from some entries are in order in every group with a common base
-- key that has none of these entries.
theorem Tracker.Paired.lettersInOrder {t u : Tracker} (h : t.Paired r order u)
    (hnd : order.Nodup) {touched : List Nat} (hl : Lettered r order t.state touched)
    {g : List Nat} (hg : g ∈ lookalikes t.base order) (hfree : g.any touched.contains = false) :
    t.lettersInOrder g = true := by
  have hsub := sublist_of_mem_lookalikes hg
  have hout : ∀ i ∈ g, i ∉ touched := by
    intro i hi hmem
    rw [List.any_eq_false] at hfree
    exact hfree i hi (List.contains_iff_mem.2 hmem)
  rw [lettersInOrder_iff (hnd.sublist hsub)]
  intro i hi j hj hij
  exact hl i (hsub.subset hi) j (hsub.subset hj) hij (hout i hi) (hout j hj)
    (h.looksAlike_bare hg hi hj)

-- Completing the letters of some entries does what completing those of others does, if the letters
-- are in order apart from either. All letters are in order then.
theorem completeSuffixes_lockstep (hnd : order.Nodup) {t u : Tracker} (h : t.Paired r order u)
    {touched touched' : List Nat} (hl : Lettered r order t.state touched)
    (hl' : Lettered r order t.state touched') :
    Lockstep (fun a b v w => Lettered r order v.state [] ∧ Advances p r order Prod.fst t a b v w)
      (completeSuffixes r order touched t) (completeSuffixes r order touched' u) := by
  unfold completeSuffixes
  rw [get_bind, get_bind, h.left.crowded_base_eq hnd, h.right.crowded_base_eq hnd,
    ← lookalikes_congr h.toAgree.base]
  refine (completeGroups_lockstep (p := p) hnd _ _ _ (fun g hg => sublist_of_mem_lookalikes hg)
    (pairwise_disjoint_lookalikes hnd) t u h (fun g hg hf => h.lettersInOrder hnd hl hg hf)
    (fun g hg hf => h.lettersInOrder hnd hl' hg hf)).mono ?_
  rintro a b v w ⟨hcompl, hadv⟩
  refine ⟨fun i hi j hj hij _ _ halike => ?_, hadv⟩
  -- Without letters entries look as before, so the groups are still the same ones.
  have hbare : bare v.state = bare t.state := funext hcompl.withoutSuffix
  rw [hbare] at halike
  rcases h.exists_base_group hi hj hij halike with ⟨g, hg, hig, hjg⟩
  refine hcompl.inOrder g hg (fun k hk l hl => ?_) i hig j hjg hij
  rcases h.looksAlike_bare hg hk hl with ⟨key, -, hkk, hkl⟩
  exact ⟨key, hkk, hkl⟩

/-! ## A single pass -/

/-- What a pass reports. -/
structure PassReport where
  /-- The entries whose states have changed. -/
  changed : List Nat
  /-- The groups of lookalikes that were found. -/
  groups : List (List Nat)
  /-- The members of groups with letters that were not in order. -/
  concerned : List Nat

/-- A single pass over the entries that were touched last. -/
def pass (p : Policy) (r : KeyRenderer ε) (order touched : List Nat) :
    Resolving ε PassReport := do
  let groups := (← get).collisions order touched
  let separated ← separateAll p r groups
  let (completed, concerned) ← completeSuffixes r order (ListSet.union touched separated)
  return { changed := ListSet.union separated completed, groups, concerned }

/-- Passes are one pass, and unless that changed nothing, more of them. -/
theorem passes_succ (n : Nat) (touched checked affected : List Nat) :
    passes p r order (n + 1) touched checked affected = (do
      let s ← pass p r order touched
      let affected := ListSet.union s.groups.flatten (ListSet.union s.concerned affected)
      if s.changed.isEmpty then return (checked, affected)
      else
        passes p r order n s.changed (ListSet.union s.changed checked)
          (ListSet.union s.changed affected)) := by
  rw [passes, pass]
  simp only [bind_assoc, pure_bind]

-- Letters in order apart from some entries stay so, apart from these and those that move.
theorem Lettered.progress {t v : Tracker} {touched c : List Nat}
    (h : Lettered r order t.state touched) (hprog : t.Progress p r order c v) :
    Lettered r order v.state (ListSet.union touched c) := by
  intro i hi j hj hij hni hnj halike
  rw [ListSet.mem_union, not_or] at hni hnj
  have hsi := hprog.state_eq hni.2
  have hsj := hprog.state_eq hnj.2
  have halike' : LooksAlike r (bare t.state) i j :=
    halike.congr (by rw [bare, bare, hsi]) (by rw [bare, bare, hsj])
  exact (h i hi j hj hij hni.1 hnj.1 halike').congr (by rw [hsi]) (by rw [hsj])

/-- A pass over some entries does what a pass over others does, if both find the same lookalikes
    and the letters of all other entries are in order. Then all letters are in order, and if the
    renderer is faithful only entries that were changed can look alike. -/
theorem pass_advances (hnd : order.Nodup) {t u : Tracker} (h : t.Paired r order u)
    {touched touched' : List Nat}
    (hcoll : t.collisions order touched = t.collisions order touched')
    (hl : Lettered r order t.state touched) (hl' : Lettered r order t.state touched') :
    Lockstep (fun a b v w => Lettered r order v.state [] ∧
      (Faithful r → Separated r order t.state touched → Separated r order v.state a.changed) ∧
      Advances p r order PassReport.changed t a b v w)
      (pass p r order touched t) (pass p r order touched' u) := by
  unfold pass
  rw [get_bind, get_bind, ← h.toAgree.collisions_eq hnd, ← hcoll]
  have hgroups : ∀ g ∈ t.collisions order touched, g.Sublist order := by
    intro g hg
    rw [h.left.collisions_eq hnd] at hg
    exact sublist_of_mem_lookalikes (List.mem_filter.1 hg).1
  refine (separateAll_advances (p := p) hnd _ hgroups t u h).bind ?_
  rintro c _ v w ⟨hsep, rfl, hvw, hprog⟩
  refine (completeSuffixes_lockstep (p := p) hnd hvw (hl.progress hprog)
    (hl'.progress hprog)).bind ?_
  rintro ⟨c', concerned⟩ _ v' w' ⟨hlettered, rfl, hvw', hprog'⟩
  have hall : t.Progress p r order (ListSet.union c c') v' :=
    hprog.trans hprog' (fun i => ListSet.mem_union)
  refine ⟨hlettered, fun hf hseparated i hi j hj hij hni hnj halike => ?_, rfl, hvw', hall⟩
  -- Two entries that look alike and have not moved were in one group before the pass.
  have halike' : LooksAlike r t.state i j :=
    halike.congr (hall.state_eq hni).symm (hall.state_eq hnj).symm
  rw [ListSet.mem_union, not_or] at hni hnj
  rcases h.exists_group hi hj hij halike' with ⟨g, hg, hig, hjg⟩
  by_cases hfound : g.any touched.contains = true
  · -- A group that was found was told apart, apart from members that have moved.
    have hmem : g ∈ t.collisions order touched := by
      rw [h.left.collisions_eq hnd]
      exact List.mem_filter.2 ⟨hg, hfound⟩
    exact hsep hf g hmem i hig j hjg hij hni.1 hnj.1 halike'
  · -- A group that was not found has no touched entry.
    have hout : ∀ k ∈ g, k ∉ touched := by
      intro k hk hmem
      exact hfound (List.any_eq_true.2 ⟨k, hk, List.contains_iff_mem.2 hmem⟩)
    exact hseparated i hi j hj hij (hout i hig) (hout j hjg) halike'

/-- A pass that finds no lookalikes while all letters are in order does nothing. -/
theorem pass_idle (hnd : order.Nodup) {t u : Tracker} (h : t.Paired r order u)
    {touched : List Nat} (hcoll : t.collisions order touched = [])
    (hl : Lettered r order t.state []) : pass p r order touched t = .ok ⟨[], [], []⟩ t := by
  have hcompl : completeSuffixes r order (ListSet.union touched []) t = .ok ([], []) t := by
    unfold completeSuffixes
    rw [get_bind, h.left.crowded_base_eq hnd]
    -- No group of these is in want of letters.
    have hskip : ∀ groups : List (List Nat), (∀ g ∈ groups, t.lettersInOrder g = true) →
        completeGroups r groups t = .ok ([], []) t := by
      intro groups
      induction groups with
      | nil =>
          intro _
          rfl
      | cons g rest ih =>
          intro hall
          rw [completeGroups, get_bind, if_pos (hall g List.mem_cons_self)]
          exact ih (fun g' hg' => hall g' (List.mem_cons_of_mem _ hg'))
    refine hskip _ (fun g hg => ?_)
    exact h.lettersInOrder hnd hl (List.mem_filter.1 hg).1 (by simp)
  unfold pass
  rw [get_bind, hcoll, separateAll, pure_bind_apply, bind_of_ok hcompl]
  rfl

end Disambiguation

end CslProcessor
