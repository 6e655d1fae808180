import CslProcessor.Proofs.Disambiguation.Moves
import Mathlib.Data.List.Fold
import Mathlib.Data.List.MinMax
import Mathlib.Data.List.Perm.Subperm
import Mathlib.Order.Nat

/-!
# Exposure in Lockstep

The steps of the means of a policy, from a single commit up to all means for several groups. In
trackers that agree all of this runs in lockstep, and what it does to the states are moves.

`Tracker.Paired` is the setting of all work between the start and the end of a resolution: two
trackers agree and track every entry of the order. `Advances` is what a piece of work in that
setting leaves behind, given which of its results reports the entries that moved. Whatever the
rest of the theory needs to know of a piece of work is added to `Advances` in the statement about
that piece.

## Main definitions

* `Tracker.Paired`: Two trackers that agree and track every entry.
* `Advances`: What a piece of work leaves behind.
* `LeftOver`: What is left of groups when entries have moved.

## Theorems

* `commit_advances`: Committing a move.
* `tryStep_advances`, `trySteps_advances`: One step, and several steps, for a group.
* `applyMethod_advances`, `applyMethods_advances`: One means, and several means, for groups.
-/

namespace CslProcessor

namespace Disambiguation

variable {ε α : Type} {p : Policy} {r : KeyRenderer ε} {order : List Nat}

/-- Two trackers that agree and track every entry of the order. -/
structure Tracker.Paired (r : KeyRenderer ε) (order : List Nat) (t u : Tracker) : Prop
    extends t.Agree r order u where
  tracked : ∀ i ∈ order, t.tracks i = true

/-- What a piece of work leaves behind: both runs return the same, the trackers are paired still,
    and what is reported has moved. -/
def Advances (p : Policy) (r : KeyRenderer ε) (order : List Nat) (reported : α → List Nat)
    (t : Tracker) (a b : α) (v w : Tracker) : Prop :=
  a = b ∧ v.Paired r order w ∧ t.Progress p r order (reported a) v

-- Trackers with right books that track every entry of the order are paired if their states and
-- their renderers are the same.
theorem Tracker.Knows.paired {t u : Tracker} (ht : t.Knows r order) (hu : u.Knows r order)
    (hstate : t.state = u.state) (hrenderer : t.renderer = u.renderer)
    (htracked : ∀ i ∈ order, t.tracks i = true) (htracked' : ∀ i ∈ order, u.tracks i = true) :
    t.Paired r order u := by
  refine ⟨⟨ht, hu, hstate, ?_, hrenderer⟩, htracked⟩
  funext i
  by_cases hi : i ∈ order
  · rw [htracked i hi, htracked' i hi]
  · -- Neither of them tracks anything else.
    have hout : ∀ v : Tracker, v.Knows r order → v.tracks i = false := by
      intro v hv
      by_contra htrue
      exact hi (hv.mem_of_tracks (Bool.not_eq_false _ ▸ htrue))
    rw [hout t ht, hout u hu]

theorem nameLimit_le {members : List Nat} (h : ∀ i ∈ members, i ∈ order) :
    nameLimit r members ≤ nameLimit r order := by
  unfold nameLimit
  rw [List.foldl_eq_foldr, List.foldl_eq_foldr, ← Nat.bot_eq_zero]
  refine List.max_le_of_forall_le _ _ (fun n hn => ?_)
  rcases List.mem_map.1 hn with ⟨i, hi, rfl⟩
  exact List.le_max_of_le (List.mem_map_of_mem (h i hi)) (Nat.le_refl _)

/-- Committing a move, or the state that an entry has, advances. -/
theorem commit_advances {t u : Tracker} (h : t.Paired r order u) {i : Nat} (hi : i ∈ order)
    {d : EntryDisambiguation} (hc : d.covers (t.state i) = true)
    (hmove : d ≠ t.state i → Move p r order t.state i d) :
    Lockstep (fun a b v w => v.state = Function.update t.state i d ∧
      Advances p r order (fun a => if a then [i] else []) t a b v w)
      (commit r i d t) (commit r i d u) := by
  refine (commit_lockstep h.toAgree (h.tracked i hi) hc).mono ?_
  rintro a b v w ⟨rfl, hagree, hs, hchanged, htr, hr⟩
  refine ⟨hs, rfl, ⟨hagree, fun j hj => ?_⟩, ⟨?_, htr, hr⟩⟩
  · rw [htr]
    exact h.tracked j hj
  · cases a with
    | false =>
        -- Nothing was reported, so the entry has the state that it had.
        refine ⟨[], fun _ => Iff.rfl, ?_⟩
        have hsame : d = t.state i := by
          by_contra hne
          exact absurd (hchanged.2 hne) Bool.false_ne_true
        rw [hs, hsame, Function.update_eq_self]
        exact Moves.done _
    | true =>
        refine ⟨[i], fun _ => Iff.rfl, Moves.step (hmove (hchanged.1 rfl)) ?_⟩
        rw [hs]
        exact Moves.done _

-- Committing a step for every member of a group advances.
theorem commitAll_advances {limit : Nat} {method : DisambiguationMethod}
    {step : EntryDisambiguation → EntryDisambiguation} (hlimit : limit ≤ nameLimit r order)
    (hstep : step ∈ p.steps limit method) (σ : States) (members : List Nat)
    (hnd : members.Nodup) (hsub : ∀ i ∈ members, i ∈ order) :
    ∀ t u : Tracker, t.Paired r order u → (∀ i ∈ members, t.state i = σ i) →
      Lockstep (Advances p r order id t)
        (commitAll r (members.map fun i => (i, step (σ i))) t)
        (commitAll r (members.map fun i => (i, step (σ i))) u) := by
  induction members with
  | nil =>
      intro t u h _
      exact ⟨rfl, h, Tracker.Progress.refl t⟩
  | cons i rest ih =>
      intro t u h hσ
      rw [List.nodup_cons] at hnd
      have hi := hsub i List.mem_cons_self
      rw [List.map_cons, commitAll, ← hσ i List.mem_cons_self]
      refine (commit_advances h hi (Policy.covers_of_mem_steps hstep _)
        (fun hne => Move.expose hi hlimit hstep hne)).bind ?_
      rintro a _ v w ⟨hs, rfl, hvw, hprog⟩
      -- The other members have not moved, as no entry is a member twice.
      have hσ' : ∀ j ∈ rest, v.state j = σ j := by
        intro j hj
        have hne : j ≠ i := fun heq => hnd.1 (heq ▸ hj)
        rw [hs, Function.update_of_ne hne]
        exact hσ j (List.mem_cons_of_mem _ hj)
      refine (ih hnd.2 (fun j hj => hsub j (List.mem_cons_of_mem _ hj)) v w hvw hσ').bind ?_
      rintro c _ v' w' ⟨rfl, hvw', hprog'⟩
      refine ⟨rfl, hvw', hprog.trans hprog' (fun j => ?_)⟩
      cases a <;> simp

/-! ## What trackers that agree answer alike -/

theorem Tracker.Agree.distinct {t u : Tracker} (h : t.Agree r order u) (members : List Nat) :
    t.distinct members = u.distinct members := by
  have hcur : (fun i => t.current.lookup i) = fun i => u.current.lookup i := funext h.current
  simp only [Tracker.distinct, hcur]

theorem Tracker.Agree.regroup {t u : Tracker} (h : t.Agree r order u) (members : List Nat) :
    t.regroup members = u.regroup members := by
  have hcur : (fun i => t.current.lookup i) = fun i => u.current.lookup i := funext h.current
  have hkeyed : (fun i => (i, (t.current.lookup i).getD "")) =
      fun i => (i, (u.current.lookup i).getD "") := funext fun i => by rw [h.current]
  simp only [Tracker.regroup, hkeyed]

-- Groups that are told apart further are parts of the groups before, in the same order.
theorem Tracker.sublist_of_mem_regroup {t : Tracker} {members g : List Nat}
    (h : g ∈ t.regroup members) : g.Sublist members := by
  rcases List.mem_filterMap.1 h with ⟨key, -, hg⟩
  simp only [Option.ite_none_left_eq_some, Option.some.injEq] at hg
  rw [← hg.2]
  have hmap : (members.map fun i => (i, (t.current.lookup i).getD "")).map (·.1) = members := by
    rw [List.map_map]
    exact List.map_id' members
  calc (((members.map fun i => (i, (t.current.lookup i).getD "")).filter (·.2 == key)).map (·.1))
      |>.Sublist ((members.map fun i => (i, (t.current.lookup i).getD "")).map (·.1)) :=
        List.Sublist.map _ List.filter_sublist
    _ = members := hmap

/-! ## Steps -/

-- Looking at the keys after a step changes nothing but the cache.
theorem distinctAfter_lockstep {t u : Tracker} (h : t.Paired r order u)
    (step : EntryDisambiguation → EntryDisambiguation) {members : List Nat}
    (hsub : ∀ i ∈ members, i ∈ order) :
    Lockstep (fun a b v w => a = b ∧ v.Paired r order w ∧ v.withoutCache = t.withoutCache)
      (distinctAfter r step members t) (distinctAfter r step members u) := by
  unfold distinctAfter
  rw [get_bind, get_bind, ← h.state]
  have hI : ∀ i ∈ members, ∀ v w : Tracker,
      (v.Agree r order w ∧ v.withoutCache = t.withoutCache) →
      Lockstep (fun a b v' w' => a = b ∧ v'.Agree r order w' ∧ v'.withoutCache = t.withoutCache)
        (keyOf r i (step (t.state i)) v) (keyOf r i (step (t.state i)) w) := by
    rintro i hi v w ⟨hvw, hv⟩
    refine (keyOf_lockstep hvw (hsub i hi) _).mono ?_
    rintro a _ v' w' ⟨rfl, -, hvw', hv', -⟩
    exact ⟨rfl, hvw', hv'.trans hv⟩
  refine (Lockstep.mapM _ _ members hI t u ⟨h.toAgree, rfl⟩).bind ?_
  rintro keys _ v w ⟨rfl, hvw, hv⟩
  refine ⟨rfl, ⟨hvw, fun i hi => ?_⟩, hv⟩
  rw [Tracker.tracks_eq_of_withoutCache hv]
  exact h.tracked i hi

theorem Tracker.Progress.of_withoutCache {t v u : Tracker} {c : List Nat}
    (hv : v.withoutCache = t.withoutCache) (h : v.Progress p r order c u) :
    t.Progress p r order c u where
  moves := by
    rw [← state_eq_of_withoutCache hv]
    exact h.moves
  tracks := h.tracks.trans (tracks_eq_of_withoutCache hv)
  renderer := h.renderer.trans (renderer_eq_of_withoutCache hv)

/-- Taking a step for a group, or leaving it, advances. -/
theorem tryStep_advances {t u : Tracker} (h : t.Paired r order u) {limit : Nat}
    {method : DisambiguationMethod} {step : EntryDisambiguation → EntryDisambiguation}
    (hlimit : limit ≤ nameLimit r order) (hstep : step ∈ p.steps limit method)
    {members : List Nat} (hnd : members.Nodup) (hsub : ∀ i ∈ members, i ∈ order) :
    Lockstep (Advances p r order id t) (tryStep r members step t) (tryStep r members step u) := by
  unfold tryStep
  refine (distinctAfter_lockstep h step hsub).bind ?_
  rintro after _ v w ⟨rfl, hvw, hv⟩
  rw [get_bind, get_bind, ← hvw.toAgree.distinct, ← hvw.state]
  split
  · refine (commitAll_advances hlimit hstep v.state members hnd hsub v w hvw
      (fun _ _ => rfl)).mono ?_
    rintro c _ v' w' ⟨rfl, hvw', hprog⟩
    exact ⟨rfl, hvw', hprog.of_withoutCache hv⟩
  · exact ⟨rfl, hvw, (Tracker.Progress.refl v).of_withoutCache hv⟩

/-- Trying several steps for a group advances. -/
theorem trySteps_advances {limit : Nat} {method : DisambiguationMethod}
    (hlimit : limit ≤ nameLimit r order) {members : List Nat} (hnd : members.Nodup)
    (hsub : ∀ i ∈ members, i ∈ order) (steps : List (EntryDisambiguation → EntryDisambiguation))
    (hsteps : ∀ step ∈ steps, step ∈ p.steps limit method) :
    ∀ t u : Tracker, t.Paired r order u →
      Lockstep (Advances p r order id t) (trySteps r members steps t)
        (trySteps r members steps u) := by
  induction steps with
  | nil =>
      intro t u h
      exact ⟨rfl, h, Tracker.Progress.refl t⟩
  | cons step rest ih =>
      intro t u h
      rw [trySteps]
      refine (tryStep_advances h hlimit (hsteps step List.mem_cons_self) hnd hsub).bind ?_
      rintro c _ v w ⟨rfl, hvw, hprog⟩
      rw [get_bind, get_bind, ← hvw.toAgree.distinct]
      split
      · exact ⟨rfl, hvw, hprog⟩
      · refine (ih (fun s hs => hsteps s (List.mem_cons_of_mem _ hs)) v w hvw).bind ?_
        rintro c' _ v' w' ⟨rfl, hvw', hprog'⟩
        exact ⟨rfl, hvw', hprog.trans hprog' (fun i => ListSet.mem_union)⟩

/-! ## Means -/

-- The entries have the keys that the renderer gives them.
theorem Tracker.Paired.current_iff {t u : Tracker} (h : t.Paired r order u) {i : Nat}
    (hi : i ∈ order) (key : String) :
    t.current.lookup i = some key ↔ r.key i (t.state i) = .ok key := by
  refine ⟨fun hl => (h.left.current i key hl).2, fun hk => ?_⟩
  rcases Tracker.tracks_eq_true_iff.1 (h.tracked i hi) with ⟨key', hkey'⟩
  have hk' := (h.left.current i key' hkey').2
  rw [hk, Except.ok.injEq] at hk'
  rw [hkey', hk']

-- Two members of a group with the same key that prints something are in a group still.
theorem Tracker.exists_mem_regroup {t : Tracker} {members : List Nat} {i j : Nat} {key : String}
    (hi : i ∈ members) (hj : j ∈ members) (hij : i ≠ j) (hne : key ≠ "")
    (hki : t.current.lookup i = some key) (hkj : t.current.lookup j = some key) :
    ∃ g ∈ t.regroup members, i ∈ g ∧ j ∈ g := by
  have hmem : ∀ k ∈ members, t.current.lookup k = some key →
      (k, key) ∈ members.map fun k => (k, (t.current.lookup k).getD "") := by
    intro k hk hl
    exact List.mem_map.2 ⟨k, hk, by rw [hl, Option.getD_some]⟩
  have hgroup : ∀ k ∈ members, t.current.lookup k = some key →
      k ∈ ((members.map fun k => (k, (t.current.lookup k).getD "")).filter (·.2 == key)).map
        (·.1) := by
    intro k hk hl
    exact List.mem_map.2 ⟨(k, key), List.mem_filter.2 ⟨hmem k hk hl, beq_self_eq_true key⟩, rfl⟩
  refine ⟨_, List.mem_filterMap.2 ⟨key, ?_, if_neg ?_⟩, hgroup i hi hki, hgroup j hj hkj⟩
  · rw [List.mem_filter, List.mem_eraseDups]
    exact ⟨List.mem_map.2 ⟨_, hmem i hi hki, rfl⟩, by simpa using hne⟩
  · -- The group has two members, so it is longer than one.
    have hsub : [i, j].Subperm
        (((members.map fun k => (k, (t.current.lookup k).getD "")).filter (·.2 == key)).map
          (·.1)) := by
      refine List.subperm_of_subset (by simp [hij]) ?_
      intro k hk
      rcases List.mem_cons.1 hk with rfl | hk
      · exact hgroup k hi hki
      · rw [List.mem_singleton.1 hk]
        exact hgroup j hj hkj
    exact Nat.not_le.2 hsub.length_le

/-- What is left of groups when some entries have moved: parts of the groups, in which entries
    that look alike and have not moved are together still. -/
structure LeftOver (r : KeyRenderer ε) (order : List Nat) (σ : States) (groups : List (List Nat))
    (moved : List Nat) (left : List (List Nat)) : Prop where
  sublist : ∀ g ∈ left, g.Sublist order
  together : ∀ g ∈ groups, ∀ i ∈ g, ∀ j ∈ g, i ≠ j → i ∉ moved → j ∉ moved →
    LooksAlike r σ i j → ∃ h ∈ left, i ∈ h ∧ j ∈ h

/-- Trying one means for several groups advances, and leaves parts of these groups. -/
theorem applyMethod_advances (hnd : order.Nodup) (method : DisambiguationMethod)
    (groups : List (List Nat)) (hgroups : ∀ g ∈ groups, g.Sublist order) :
    ∀ t u : Tracker, t.Paired r order u →
      Lockstep (fun a b v w => LeftOver r order t.state groups a.1 a.2 ∧
        Advances p r order Prod.fst t a b v w)
        (applyMethod p r method groups t) (applyMethod p r method groups u) := by
  induction groups with
  | nil =>
      intro t u h
      refine ⟨⟨?_, ?_⟩, rfl, h, Tracker.Progress.refl t⟩
      · exact fun g hg => absurd hg List.not_mem_nil
      · exact fun g hg => absurd hg List.not_mem_nil
  | cons members rest ih =>
      intro t u h
      have hmem := hgroups members List.mem_cons_self
      have hsub : ∀ i ∈ members, i ∈ order := fun i hi => hmem.subset hi
      rw [applyMethod]
      refine (trySteps_advances (nameLimit_le hsub) (hnd.sublist hmem) hsub _
        (fun _ hs => hs) t u h).bind ?_
      rintro c _ v w ⟨rfl, hvw, hprog⟩
      rw [get_bind, get_bind, ← hvw.toAgree.regroup]
      refine (ih (fun g hg => hgroups g (List.mem_cons_of_mem _ hg)) v w hvw).bind ?_
      rintro ⟨c', left⟩ _ v' w' ⟨hleft, rfl, hvw', hprog'⟩
      refine ⟨⟨fun g hg => ?_, fun g hg i hi j hj hij hni hnj halike => ?_⟩, rfl, hvw',
        hprog.trans hprog' (fun i => ListSet.mem_union)⟩
      · rcases List.mem_append.1 hg with hg | hg
        · exact (Tracker.sublist_of_mem_regroup hg).trans hmem
        · exact hleft.sublist g hg
      · -- Whoever has not moved looks now as before.
        rw [ListSet.mem_union, not_or] at hni hnj
        have halike' := halike.congr (hprog.state_eq hni.1) (hprog.state_eq hnj.1)
        rcases List.mem_cons.1 hg with rfl | hg
        · rcases halike' with ⟨key, hne, hki, hkj⟩
          rcases Tracker.exists_mem_regroup hi hj hij hne
            ((hvw.current_iff (hsub i hi) key).2 hki)
            ((hvw.current_iff (hsub j hj) key).2 hkj) with ⟨k, hk, hik, hjk⟩
          exact ⟨k, List.mem_append_left _ hk, hik, hjk⟩
        · rcases hleft.together g hg i hi j hj hij hni.2 hnj.2 halike' with ⟨k, hk, hik, hjk⟩
          exact ⟨k, List.mem_append_right _ hk, hik, hjk⟩

/-- Trying several means advances, and leaves parts of the groups. -/
theorem applyMethods_advances (hnd : order.Nodup) (methods : List DisambiguationMethod) :
    ∀ groups : List (List Nat), (∀ g ∈ groups, g.Sublist order) →
      ∀ t u : Tracker, t.Paired r order u →
        Lockstep (fun a b v w => LeftOver r order t.state groups a.1 a.2 ∧
          Advances p r order Prod.fst t a b v w)
          (applyMethods p r methods groups t) (applyMethods p r methods groups u) := by
  induction methods with
  | nil =>
      intro groups hgroups t u h
      exact ⟨⟨hgroups, fun g hg i hi j hj _ _ _ _ => ⟨g, hg, hi, hj⟩⟩, rfl, h,
        Tracker.Progress.refl t⟩
  | cons method rest ih =>
      intro groups hgroups t u h
      rw [applyMethods]
      refine (applyMethod_advances hnd method groups hgroups t u h).bind ?_
      rintro ⟨c, left⟩ _ v w ⟨hleft, rfl, hvw, hprog⟩
      refine (ih left hleft.sublist v w hvw).bind ?_
      rintro ⟨c', remaining⟩ _ v' w' ⟨hremaining, rfl, hvw', hprog'⟩
      refine ⟨⟨hremaining.sublist, fun g hg i hi j hj hij hni hnj halike => ?_⟩, rfl, hvw',
        hprog.trans hprog' (fun i => ListSet.mem_union)⟩
      rw [ListSet.mem_union, not_or] at hni hnj
      rcases hleft.together g hg i hi j hj hij hni.1 hnj.1 halike with ⟨k, hk, hik, hjk⟩
      exact hremaining.together k hk i hik j hjk hij hni.2 hnj.2
        (halike.congr (hprog.state_eq hni.1) (hprog.state_eq hnj.1))

end Disambiguation

end CslProcessor
