import CslProcessor.Proofs.Collection.Repetition
import CslProcessor.Proofs.Disambiguation.Exposure

/-!
# What steps leave alone

The steps of the means of a policy change none but the members of the groups that they are taken
for, and they give no letters. Both hold of any work that was done, without any assumption on the
books of the tracker, and are read off by going through the work backwards.

What is left of groups in the end are parts of these groups. Groups without common members leave
parts without common members, so that what is done for one part later leaves the others alone.

## Main definitions

* `Exposed`: What steps do to the states.
* `Narrowed`: What is left of groups.

## Theorems

* `commit_state`: What committing a state changes.
* `trySteps_exposed`: Several steps for a group.
* `applyMethods_exposed`: Several means for several groups.
-/

namespace CslProcessor

namespace Disambiguation

variable {ε : Type} {p : Policy} {r : KeyRenderer ε}

/-! ## Single states -/

-- Asking for a key writes no state.
theorem keyOf_state {i : Nat} {d : EntryDisambiguation} {t v : Tracker} {key : String}
    (h : keyOf r i d t = .ok key v) : v.state = t.state :=
  Tracker.state_eq_of_withoutCache (withoutCache_of_keyOf h)

-- Neither does starting to track an entry.
theorem track_state {i : Nat} {t v : Tracker} {a : Unit} (h : track r i t = .ok a v) :
    v.state = t.state := by
  unfold track at h
  rw [get_bind] at h
  rcases bind_eq_ok_iff.1 h with ⟨key, w, hkey, h⟩
  rcases bind_eq_ok_iff.1 h with ⟨base, w', hbase, h⟩
  injection h with _ hv
  calc v.state = w'.state := by rw [← hv]; rfl
    _ = w.state := keyOf_state hbase
    _ = t.state := keyOf_state hkey

-- What writing a state comes to, if it is written or there already.
theorem Tracker.update?_cases (t : Tracker) (i : Nat) (d : EntryDisambiguation) :
    (t.update? i d = .ok none ∧ d = t.state i) ∨ t.update? i d = .ok (some (t.write i d)) ∨
      ∃ e, t.update? i d = .error e := by
  by_cases hd : d = t.state i
  · rw [hd]
    exact Or.inl ⟨update?_self t i, rfl⟩
  · by_cases hc : d.covers (t.state i) = true
    · exact Or.inr (Or.inl (update?_of_covers hd hc))
    · refine Or.inr (Or.inr ⟨⟨i, t.state i, d⟩, ?_⟩)
      rw [Tracker.update?, beq_false_of_ne hd, if_neg Bool.false_ne_true, if_neg hc]

/-- Committing a state gives it to the entry and changes no other state. -/
theorem commit_state {i : Nat} {d : EntryDisambiguation} {t v : Tracker} {a : Bool}
    (h : commit r i d t = .ok a v) : v.state = Function.update t.state i d := by
  unfold commit at h
  rw [get_bind] at h
  rcases t.update?_cases i d with ⟨hu, hd⟩ | hu | ⟨e, hu⟩
  · rw [hu] at h
    injection h with _ hv
    rw [← hv, hd, Function.update_eq_self]
  · rw [hu] at h
    simp only [set_bind] at h
    rcases bind_eq_ok_iff.1 h with ⟨_, w, htrack, h⟩
    injection h with _ hv
    rw [← hv, track_state htrack]
    exact Tracker.state_write t i d
  · rw [hu] at h
    cases h

/-! ## Steps -/

/-- What steps do to the states, given the entries that they are taken for: they leave all others
    as they are, and they give no letters. -/
structure Exposed (members : List Nat) (σ τ : States) : Prop where
  frame : ∀ i, i ∉ members → τ i = σ i
  letters : ∀ i, (τ i).yearSuffix = (σ i).yearSuffix

theorem Exposed.refl (members : List Nat) (σ : States) : Exposed members σ σ :=
  ⟨fun _ _ => rfl, fun _ => rfl⟩

theorem Exposed.trans {members : List Nat} {σ τ ρ : States} (h : Exposed members σ τ)
    (h' : Exposed members τ ρ) : Exposed members σ ρ where
  frame := fun i hi => (h'.frame i hi).trans (h.frame i hi)
  letters := fun i => (h'.letters i).trans (h.letters i)

theorem Exposed.mono {members members' : List Nat} {σ τ : States} (h : Exposed members σ τ)
    (hsub : ∀ i ∈ members, i ∈ members') : Exposed members' σ τ where
  frame := fun i hi => h.frame i (fun hmem => hi (hsub i hmem))
  letters := h.letters

-- A step of any means gives no letter.
theorem Policy.yearSuffix_of_mem_steps {limit : Nat} {method : DisambiguationMethod}
    {step : EntryDisambiguation → EntryDisambiguation} (h : step ∈ p.steps limit method)
    (d : EntryDisambiguation) : (step d).yearSuffix = d.yearSuffix := by
  cases method with
  | conditional =>
      rw [Policy.steps, List.mem_singleton] at h
      rw [h]
      rfl
  | addNames =>
      rcases List.mem_map.1 h with ⟨n, -, rfl⟩
      rfl
  | addGivenName =>
      rcases List.mem_map.1 h with ⟨levels, -, rfl⟩
      rfl
  | addYearSuffix =>
      rw [Policy.steps] at h
      exact absurd h List.not_mem_nil

-- Committing a step for every member of a group.
theorem commitAll_exposed {step : EntryDisambiguation → EntryDisambiguation}
    (hstep : ∀ d, (step d).yearSuffix = d.yearSuffix) (σ : States) (members : List Nat) :
    ∀ {t v : Tracker} {c : List Nat}, (∀ i, (t.state i).yearSuffix = (σ i).yearSuffix) →
      commitAll r (members.map fun i => (i, step (σ i))) t = .ok c v →
      Exposed members t.state v.state := by
  induction members with
  | nil =>
      intro t v c _ h
      injection h with _ hv
      rw [← hv]
      exact Exposed.refl [] t.state
  | cons i rest ih =>
      intro t v c hσ h
      rw [List.map_cons, commitAll] at h
      rcases bind_eq_ok_iff.1 h with ⟨changed, w, hcommit, h⟩
      rcases bind_eq_ok_iff.1 h with ⟨others, w', hrest, h⟩
      injection h with _ hv
      subst hv
      have hw := commit_state hcommit
      have hfirst : Exposed [i] t.state w.state := by
        rw [hw]
        refine ⟨fun j hj => Function.update_of_ne (List.ne_of_not_mem_cons hj) _ _, fun j => ?_⟩
        by_cases hj : j = i
        · rw [hj, Function.update_self, hstep, hσ]
        · rw [Function.update_of_ne hj]
      have hothers := ih (fun j => (hfirst.letters j).trans (hσ j)) hrest
      exact (hfirst.mono (by simp)).trans (hothers.mono (fun j hj => List.mem_cons_of_mem _ hj))

-- Looking at the keys after a step writes no state.
theorem distinctAfter_state {step : EntryDisambiguation → EntryDisambiguation}
    {members : List Nat} {t v : Tracker} {n : Nat}
    (h : distinctAfter r step members t = .ok n v) : v.state = t.state := by
  have hall : ∀ (l : List Nat) (u w : Tracker) (keys : List String),
      l.mapM (fun i => keyOf r i (step (t.state i))) u = .ok keys w → w.state = u.state := by
    intro l
    induction l with
    | nil =>
        intro u w keys h
        rw [List.mapM_nil] at h
        injection h with _ hw
        rw [← hw]
    | cons i rest ih =>
        intro u w keys h
        rw [List.mapM_cons] at h
        rcases bind_eq_ok_iff.1 h with ⟨key, u', hkey, h⟩
        rcases bind_eq_ok_iff.1 h with ⟨others, w', hothers, h⟩
        injection h with _ hw
        rw [← hw, ih u' w' others hothers, keyOf_state hkey]
  unfold distinctAfter at h
  rw [get_bind] at h
  rcases bind_eq_ok_iff.1 h with ⟨keys, w, hkeys, h⟩
  injection h with _ hv
  rw [← hv]
  exact hall members t w keys hkeys

-- Taking a step for a group, or leaving it.
theorem tryStep_exposed {step : EntryDisambiguation → EntryDisambiguation}
    (hstep : ∀ d, (step d).yearSuffix = d.yearSuffix) {members : List Nat} {t v : Tracker}
    {c : List Nat} (h : tryStep r members step t = .ok c v) :
    Exposed members t.state v.state := by
  unfold tryStep at h
  rcases bind_eq_ok_iff.1 h with ⟨after, w, hafter, h⟩
  rw [get_bind] at h
  rw [← distinctAfter_state hafter]
  split at h
  · exact commitAll_exposed hstep w.state members (fun _ => rfl) h
  · injection h with _ hv
    rw [← hv]
    exact Exposed.refl members w.state

/-- Trying several steps for a group gives no letters and changes the members at most. -/
theorem trySteps_exposed {members : List Nat}
    (steps : List (EntryDisambiguation → EntryDisambiguation))
    (hsteps : ∀ step ∈ steps, ∀ d, (step d).yearSuffix = d.yearSuffix) :
    ∀ {t v : Tracker} {c : List Nat}, trySteps r members steps t = .ok c v →
      Exposed members t.state v.state := by
  induction steps with
  | nil =>
      intro t v c h
      injection h with _ hv
      rw [← hv]
      exact Exposed.refl members t.state
  | cons step rest ih =>
      intro t v c h
      rw [trySteps] at h
      rcases bind_eq_ok_iff.1 h with ⟨changed, w, htry, h⟩
      have hfirst := tryStep_exposed (hsteps step List.mem_cons_self) htry
      rw [get_bind] at h
      split at h
      · injection h with _ hv
        rw [← hv]
        exact hfirst
      · rcases bind_eq_ok_iff.1 h with ⟨others, w', hrest, h⟩
        injection h with _ hv
        rw [← hv]
        exact hfirst.trans (ih (fun s hs => hsteps s (List.mem_cons_of_mem _ hs)) hrest)

/-! ## Means -/

/-- What is left of groups has no other members, and has no members in common if the groups had
    none. -/
structure Narrowed (groups left : List (List Nat)) : Prop where
  mem : ∀ g ∈ left, ∀ i ∈ g, ∃ h ∈ groups, i ∈ h
  disjoint : groups.Pairwise List.Disjoint → left.Pairwise List.Disjoint

-- No entry is in two groups of those that look alike.
theorem Tracker.pairwise_disjoint_regroup (t : Tracker) (members : List Nat) :
    (t.regroup members).Pairwise List.Disjoint := by
  have hkey : ∀ (key : String) (i : Nat),
      i ∈ (((members.map fun i => (i, (t.current.lookup i).getD "")).filter (·.2 == key)).map
        (·.1)) → (t.current.lookup i).getD "" = key := by
    intro key i hi
    rcases List.mem_map.1 hi with ⟨⟨j, k⟩, hmem, rfl⟩
    rw [List.mem_filter, List.mem_map, beq_iff_eq] at hmem
    rcases hmem with ⟨⟨j', -, heq⟩, hk⟩
    rw [Prod.mk.injEq] at heq
    rw [← hk, ← heq.1, ← heq.2]
  rw [Tracker.regroup, List.pairwise_filterMap]
  refine List.Pairwise.imp ?_ ((nodup_eraseDups _).filter _)
  intro key key' hne g hg g' hg' i hi hi'
  simp only [Option.ite_none_left_eq_some, Option.some.injEq] at hg hg'
  rw [← hg.2] at hi
  rw [← hg'.2] at hi'
  exact hne ((hkey key i hi).symm.trans (hkey key' i hi'))

-- One group after another.
theorem Narrowed.cons {members : List Nat} {groups parts left : List (List Nat)}
    (hparts : ∀ g ∈ parts, ∀ i ∈ g, i ∈ members) (hdisj : parts.Pairwise List.Disjoint)
    (h : Narrowed groups left) : Narrowed (members :: groups) (parts ++ left) where
  mem := fun g hg i hi => by
    rcases List.mem_append.1 hg with hg | hg
    · exact ⟨members, List.mem_cons_self, hparts g hg i hi⟩
    · rcases h.mem g hg i hi with ⟨k, hk, hik⟩
      exact ⟨k, List.mem_cons_of_mem _ hk, hik⟩
  disjoint := fun hall => by
    rw [List.pairwise_cons] at hall
    rw [List.pairwise_append]
    refine ⟨hdisj, h.disjoint hall.2, fun g hg g' hg' i hi hi' => ?_⟩
    rcases h.mem g' hg' i hi' with ⟨k, hk, hik⟩
    exact hall.1 k hk (hparts g hg i hi) hik

-- Trying one means for several groups.
theorem applyMethod_exposed {method : DisambiguationMethod} (groups : List (List Nat)) :
    ∀ {t v : Tracker} {c : List Nat} {left : List (List Nat)},
      applyMethod p r method groups t = .ok (c, left) v →
      Exposed groups.flatten t.state v.state ∧ Narrowed groups left := by
  induction groups with
  | nil =>
      intro t v c left h
      injection h with ha hv
      rw [Prod.mk.injEq] at ha
      rw [← hv, ← ha.2]
      exact ⟨Exposed.refl _ _, fun g hg => absurd hg List.not_mem_nil, id⟩
  | cons members rest ih =>
      intro t v c left h
      rw [applyMethod] at h
      rcases bind_eq_ok_iff.1 h with ⟨changed, w, htry, h⟩
      rw [get_bind] at h
      rcases bind_eq_ok_iff.1 h with ⟨⟨others, further⟩, w', hrest, h⟩
      injection h with ha hv
      rw [Prod.mk.injEq] at ha
      rw [← hv, ← ha.2]
      rcases ih hrest with ⟨hexposed, hnarrowed⟩
      have hfirst : Exposed members t.state w.state :=
        trySteps_exposed _ (fun _ hs => Policy.yearSuffix_of_mem_steps hs) htry
      refine ⟨(hfirst.mono ?_).trans (hexposed.mono ?_), hnarrowed.cons
        (fun g hg i hi => (Tracker.sublist_of_mem_regroup hg).subset hi)
        (w.pairwise_disjoint_regroup members)⟩
      · exact fun i hi => List.mem_append_left _ hi
      · exact fun i hi => List.mem_append_right _ hi

/-- Trying several means for groups gives no letters and changes their members at most. -/
theorem applyMethods_exposed (methods : List DisambiguationMethod) :
    ∀ {groups : List (List Nat)} {t v : Tracker} {c : List Nat} {left : List (List Nat)},
      applyMethods p r methods groups t = .ok (c, left) v →
      Exposed groups.flatten t.state v.state ∧ Narrowed groups left := by
  induction methods with
  | nil =>
      intro groups t v c left h
      injection h with ha hv
      rw [Prod.mk.injEq] at ha
      rw [← hv, ← ha.2]
      exact ⟨Exposed.refl _ _, fun g hg i hi => ⟨g, hg, hi⟩, id⟩
  | cons method rest ih =>
      intro groups t v c left h
      rw [applyMethods] at h
      rcases bind_eq_ok_iff.1 h with ⟨⟨changed, parts⟩, w, hmethod, h⟩
      rcases bind_eq_ok_iff.1 h with ⟨⟨others, remaining⟩, w', hrest, h⟩
      injection h with ha hv
      rw [Prod.mk.injEq] at ha
      rw [← hv, ← ha.2]
      rcases applyMethod_exposed groups hmethod with ⟨hexposed, hnarrowed⟩
      rcases ih hrest with ⟨hexposed', hnarrowed'⟩
      have hmem : ∀ i ∈ parts.flatten, i ∈ groups.flatten := by
        intro i hi
        rcases List.mem_flatten.1 hi with ⟨g, hg, hig⟩
        exact List.mem_flatten.2 (hnarrowed.mem g hg i hig)
      refine ⟨hexposed.trans (hexposed'.mono hmem), fun g hg i hi => ?_,
        fun hall => hnarrowed'.disjoint (hnarrowed.disjoint hall)⟩
      rcases hnarrowed'.mem g hg i hi with ⟨k, hk, hik⟩
      exact hnarrowed.mem k hk i hik

end Disambiguation

end CslProcessor
