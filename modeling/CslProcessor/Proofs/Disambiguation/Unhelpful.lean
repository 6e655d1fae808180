import CslProcessor.Proofs.Disambiguation.Frames
import CslProcessor.Proofs.Disambiguation.Passes

/-!
# Steps that do not help

A step is taken only if it tells more entries apart. With a renderer that shows nothing of a state
but its letter no step of any means does that, since steps give no letters. So all means together
leave a group of lookalikes as it is and as one group, whatever the policy declares, and what is
left to be done for the group is to give it letters.

Asking what a step would do may fill the cache. Apart from that, the tracker is the same one.

## Main definitions

* `LettersOnly`: Nothing of a state shows but its letter.
* `Tracker.Unmoved`: A tracker that is the same one apart from its cache.
* `Tracker.Lookalike`: A group of entries with the same key.

## Theorems

* `distinctAfter_unhelpful`: A step tells as many entries apart as there were.
* `trySteps_unhelpful`, `applyMethods_unhelpful`: No step is taken.
* `separate_unhelpful`: A group is told apart by letters alone.
-/

namespace CslProcessor

namespace Disambiguation

variable {ε : Type} {p : Policy} {r : KeyRenderer ε} {order : List Nat}

/-- Nothing of a state shows but its letter. -/
def LettersOnly (r : KeyRenderer ε) : Prop :=
  ∀ i d e, d.yearSuffix = e.yearSuffix → r.key i d = r.key i e

namespace Tracker

/-- A tracker with the right books of all entries that is the same as another one apart from its
    cache. -/
structure Unmoved (r : KeyRenderer ε) (order : List Nat) (t v : Tracker) : Prop where
  paired : v.Paired r order v
  same : v.withoutCache = t.withoutCache

theorem Unmoved.refl {t : Tracker} (h : t.Paired r order t) : Unmoved r order t t :=
  ⟨h, rfl⟩

theorem Unmoved.trans {t v w : Tracker} (h : Unmoved r order t v) (h' : Unmoved r order v w) :
    Unmoved r order t w :=
  ⟨h'.paired, h'.same.trans h.same⟩

theorem Unmoved.state {t v : Tracker} (h : Unmoved r order t v) : v.state = t.state :=
  state_eq_of_withoutCache h.same

theorem Unmoved.current {t v : Tracker} (h : Unmoved r order t v) : v.current = t.current := by
  have hcurrent : v.withoutCache.current = t.withoutCache.current :=
    congrArg Tracker.current h.same
  exact hcurrent

/-- A group of two or more entries with the same key, which prints something. -/
structure Lookalike (t : Tracker) (members : List Nat) : Prop where
  crowded : 1 < members.length
  key : ∃ key, key ≠ "" ∧ ∀ i ∈ members, t.current.lookup i = some key

theorem Lookalike.congr {t v : Tracker} {members : List Nat} (h : t.Lookalike members)
    (hv : v.current = t.current) : v.Lookalike members :=
  ⟨h.crowded, by rw [hv]; exact h.key⟩

-- Lookalikes are one group still.
theorem Lookalike.regroup {t : Tracker} {members : List Nat} (h : t.Lookalike members) :
    t.regroup members = [members] := by
  rcases h.key with ⟨key, hne, hkey⟩
  have hkeyed : (members.map fun i => (i, (t.current.lookup i).getD "")) =
      members.map fun i => (i, key) := by
    refine List.map_congr_left fun i hi => ?_
    rw [hkey i hi, Option.getD_some]
  have hkeys : (members.map fun i => (i, key)).map (·.2) = List.replicate members.length key := by
    rw [List.map_map]
    exact List.map_const'
  have hall : ((members.map fun i => (i, key)).filter (·.2 == key)).map (·.1) = members := by
    rw [List.filter_eq_self.2 (by simp), List.map_map]
    exact List.map_id' members
  have hdups : (List.replicate members.length key).eraseDups = [key] := by
    rcases Nat.exists_eq_add_of_lt h.crowded with ⟨n, hn⟩
    rw [hn, List.replicate_succ, List.eraseDups_cons,
      List.filter_eq_nil_iff.2 (by simp), List.eraseDups_nil]
  have hshort : ¬ members.length ≤ 1 := Nat.not_le.2 h.crowded
  rw [Tracker.regroup, hkeyed]
  simp only [hkeys, hdups]
  rw [List.filter_cons_of_pos (by simpa using hne), List.filter_nil, List.filterMap_cons]
  simp only [hall, if_neg hshort, List.filterMap_nil]

end Tracker

open Tracker

/-! ## Steps -/

-- Rendering keys that print what is printed anyway.
theorem mapM_keyOf {d : Nat → EntryDisambiguation} (members : List Nat)
    (hsub : ∀ i ∈ members, i ∈ order) :
    ∀ t : Tracker, t.Paired r order t → (∀ i, r.key i (d i) = r.key i (t.state i)) →
      ∃ v, members.mapM (fun i => keyOf r i (d i)) t =
        .ok (members.filterMap (t.current.lookup ·)) v ∧ Unmoved r order t v := by
  induction members with
  | nil => exact fun t h _ => ⟨t, rfl, Unmoved.refl h⟩
  | cons i rest ih =>
      intro t h hd
      have hi := hsub i List.mem_cons_self
      rcases tracks_eq_true_iff.1 (h.tracked i hi) with ⟨key, hkey⟩
      have hprints : r.key i (d i) = .ok key := (hd i).trans ((h.current_iff hi key).1 hkey)
      rcases keyOf_cases h.left hi (d i) with ⟨key', v, hk, ht, hv, htv⟩ | ⟨e, v, hk, -⟩
      · rw [hprints, Except.ok.injEq] at hk
        subst hk
        have hpaired : v.Paired r order v := by
          refine ⟨Agree.refl hv, fun j hj => ?_⟩
          rw [tracks_eq_of_withoutCache htv]
          exact h.tracked j hj
        have hfirst : Unmoved r order t v := ⟨hpaired, htv⟩
        rcases ih (fun j hj => hsub j (List.mem_cons_of_mem _ hj)) v hpaired
          (by rw [hfirst.state]; exact hd) with ⟨w, hw, hrest⟩
        refine ⟨w, ?_, hfirst.trans hrest⟩
        rw [List.filterMap_cons_some (f := (t.current.lookup ·)) hkey, ← hfirst.current,
          List.mapM_cons, bind_of_ok ht, bind_of_ok hw]
        rfl
      · rw [hprints] at hk
        exact absurd hk (by simp only [reduceCtorEq, not_false_eq_true])

/-- A step that gives no letter would tell as many entries apart as there are different keys. -/
theorem distinctAfter_unhelpful (hr : LettersOnly r)
    {step : EntryDisambiguation → EntryDisambiguation}
    (hstep : ∀ d, (step d).yearSuffix = d.yearSuffix) {members : List Nat}
    (hsub : ∀ i ∈ members, i ∈ order) {t : Tracker} (h : t.Paired r order t) :
    ∃ v, distinctAfter r step members t = .ok (t.distinct members) v ∧ Unmoved r order t v := by
  have hprints : ∀ i, r.key i (step (t.state i)) = r.key i (t.state i) :=
    fun i => hr i _ _ (hstep _)
  rcases mapM_keyOf (d := fun i => step (t.state i)) members hsub t h hprints with ⟨v, hv, hsame⟩
  refine ⟨v, ?_, hsame⟩
  unfold distinctAfter
  rw [get_bind, bind_of_ok hv]
  rfl

-- So it is not taken.
theorem tryStep_unhelpful (hr : LettersOnly r)
    {step : EntryDisambiguation → EntryDisambiguation}
    (hstep : ∀ d, (step d).yearSuffix = d.yearSuffix) {members : List Nat}
    (hsub : ∀ i ∈ members, i ∈ order) {t : Tracker} (h : t.Paired r order t) :
    ∃ v, tryStep r members step t = .ok [] v ∧ Unmoved r order t v := by
  rcases distinctAfter_unhelpful hr hstep hsub h with ⟨v, hv, hsame⟩
  refine ⟨v, ?_, hsame⟩
  have hdistinct : v.distinct members = t.distinct members := by
    rw [Tracker.distinct, Tracker.distinct, hsame.current]
  unfold tryStep
  rw [bind_of_ok hv, get_bind, hdistinct, if_neg (Nat.lt_irrefl _)]
  rfl

/-- No step of several ones is taken. -/
theorem trySteps_unhelpful (hr : LettersOnly r) {members : List Nat}
    (hsub : ∀ i ∈ members, i ∈ order)
    (steps : List (EntryDisambiguation → EntryDisambiguation))
    (hsteps : ∀ step ∈ steps, ∀ d, (step d).yearSuffix = d.yearSuffix) :
    ∀ t : Tracker, t.Paired r order t →
      ∃ v, trySteps r members steps t = .ok [] v ∧ Unmoved r order t v := by
  induction steps with
  | nil => exact fun t h => ⟨t, rfl, Unmoved.refl h⟩
  | cons step rest ih =>
      intro t h
      rcases tryStep_unhelpful hr (hsteps step List.mem_cons_self) hsub h with ⟨v, hv, hfirst⟩
      rw [trySteps, bind_of_ok hv, get_bind]
      split
      · exact ⟨v, rfl, hfirst⟩
      · rcases ih (fun s hs => hsteps s (List.mem_cons_of_mem _ hs)) v hfirst.paired with
          ⟨w, hw, hrest⟩
        rw [bind_of_ok hw]
        exact ⟨w, rfl, hfirst.trans hrest⟩

/-! ## Means -/

theorem applyMethod_unhelpful (hr : LettersOnly r) (method : DisambiguationMethod)
    (groups : List (List Nat)) (hsub : ∀ g ∈ groups, ∀ i ∈ g, i ∈ order) :
    ∀ t : Tracker, t.Paired r order t → (∀ g ∈ groups, t.Lookalike g) →
      ∃ v, applyMethod p r method groups t = .ok ([], groups) v ∧ Unmoved r order t v := by
  induction groups with
  | nil => exact fun t h _ => ⟨t, rfl, Unmoved.refl h⟩
  | cons members rest ih =>
      intro t h halike
      rcases trySteps_unhelpful hr (hsub members List.mem_cons_self)
        (p.steps (nameLimit r members) method) (fun _ hs => Policy.yearSuffix_of_mem_steps hs) t h
        with ⟨v, hv, hfirst⟩
      have halike' : ∀ g ∈ members :: rest, v.Lookalike g :=
        fun g hg => (halike g hg).congr hfirst.current
      rcases ih (fun g hg => hsub g (List.mem_cons_of_mem _ hg)) v hfirst.paired
        (fun g hg => halike' g (List.mem_cons_of_mem _ hg)) with ⟨w, hw, hrest⟩
      refine ⟨w, ?_, hfirst.trans hrest⟩
      rw [applyMethod, bind_of_ok hv, get_bind, (halike' members List.mem_cons_self).regroup,
        bind_of_ok hw]
      rfl

/-- All means together leave groups of lookalikes as they are. -/
theorem applyMethods_unhelpful (hr : LettersOnly r) {groups : List (List Nat)}
    (hsub : ∀ g ∈ groups, ∀ i ∈ g, i ∈ order) (methods : List DisambiguationMethod) :
    ∀ t : Tracker, t.Paired r order t → (∀ g ∈ groups, t.Lookalike g) →
      ∃ v, applyMethods p r methods groups t = .ok ([], groups) v ∧ Unmoved r order t v := by
  induction methods with
  | nil => exact fun t h _ => ⟨t, rfl, Unmoved.refl h⟩
  | cons method rest ih =>
      intro t h halike
      rcases applyMethod_unhelpful (p := p) hr method groups hsub t h halike with ⟨v, hv, hfirst⟩
      rcases ih v hfirst.paired (fun g hg => (halike g hg).congr hfirst.current) with
        ⟨w, hw, hrest⟩
      refine ⟨w, ?_, hfirst.trans hrest⟩
      rw [applyMethods, bind_of_ok hv]
      simp only [bind_of_ok hw]
      rfl

/-- A group of lookalikes is told apart by letters alone. -/
theorem separate_unhelpful (hr : LettersOnly r) {group : List Nat}
    (hsub : ∀ i ∈ group, i ∈ order) {t : Tracker} (h : t.Paired r order t)
    (halike : t.Lookalike group) :
    ∃ v, separate p r group t = assignAll r [group] v ∧ Unmoved r order t v := by
  have hgroup : ∀ g ∈ [group], ∀ i ∈ g, i ∈ order := by
    intro g hg
    rw [List.mem_singleton.1 hg]
    exact hsub
  have halike' : ∀ g ∈ [group], t.Lookalike g := by
    intro g hg
    rw [List.mem_singleton.1 hg]
    exact halike
  rcases applyMethods_unhelpful (p := p) hr hgroup p.steppedMethods t h halike' with
    ⟨v, hv, hsame⟩
  refine ⟨v, ?_, hsame⟩
  unfold separate
  rw [bind_of_ok hv]
  exact congrFun (bind_pure (assignAll r [group])) v

end Disambiguation

end CslProcessor
