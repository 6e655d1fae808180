import CslProcessor.Proofs.Disambiguation.Fixpoint
import CslProcessor.Proofs.Disambiguation.Frames

/-!
# Keeping letters

When an entry keeps the letter that it has.

An entry loses its letter only in a group of entries that look alike or share a base key, and only
to an entry of the group that was cited before it and has the same letter. There is no such group
if the text of a cite tells both the letter and the base key, and if the states are `Spread`: no
two entries with a common base key have the same letter. Entries that look alike then have no
letters at all, and letters that are given to them, or to a group with a common base key, leave
the states spread. `Steady` work is work that leaves every entry with a letter as it is.

## Main definitions

* `Legible`: The text of a cite tells the letter and the base key.
* `Spread`: No two entries with a common base key have the same letter.
* `Steady`: Entries with letters are left as they are.
* `Mingled`: Whoever of a group has a letter shares the base key of all others.

## Theorems

* `assignSuffixes_induct`: What holds of a group when letters are given to it.
* `assignSuffixes_steady`: Letters for a group.
* `separate_steady`: All means for a group without letters.
* `completeGroups_steady`: Letters for groups with common base keys.
* `passes_steady`: Several passes.
-/

namespace CslProcessor

namespace Disambiguation

variable {ε α : Type} {p : Policy} {r : KeyRenderer ε} {order : List Nat}

/-- Two entries with the same text have the same letter, and the same text without letters. -/
def Legible (r : KeyRenderer ε) : Prop :=
  ∀ i j d e key, i ≠ j → key ≠ "" → r.key i d = .ok key → r.key j e = .ok key →
    d.yearSuffix = e.yearSuffix ∧ r.key i d.withoutSuffix = r.key j e.withoutSuffix

/-- None but some entries have letters, and no two entries with a common base key have the same
    letter. -/
structure Spread (r : KeyRenderer ε) (entries : List Nat) (σ : States) : Prop where
  mem : ∀ i, (σ i).yearSuffix ≠ none → i ∈ entries
  distinct : ∀ i j, i ≠ j → SameBase r σ i j → (σ i).yearSuffix = (σ j).yearSuffix →
    (σ i).yearSuffix = none

/-- Entries with letters are left as they are, and letters are spread afterwards. -/
structure Steady (r : KeyRenderer ε) (entries : List Nat) (σ τ : States) : Prop where
  kept : ∀ i, (σ i).yearSuffix ≠ none → τ i = σ i
  spread : Spread r entries τ

theorem Legible.faithful (h : Legible r) : Faithful r :=
  fun i j d e key hij hne hi hj => (h i j d e key hij hne hi hj).1

theorem Spread.mono {entries entries' : List Nat} {σ : States} (h : Spread r entries σ)
    (hsub : ∀ i ∈ entries, i ∈ entries') : Spread r entries' σ where
  mem := fun i hi => hsub i (h.mem i hi)
  distinct := h.distinct

theorem Steady.refl {σ : States} (h : Spread r order σ) : Steady r order σ σ :=
  ⟨fun _ _ => rfl, h⟩

theorem Steady.trans {σ τ ρ : States} (h : Steady r order σ τ) (h' : Steady r order τ ρ) :
    Steady r order σ ρ where
  kept := fun i hi => by
    have hτ := h.kept i hi
    rw [h'.kept i (by rw [hτ]; exact hi), hτ]
  spread := h'.spread

-- What is known of a run beside itself is known of the run.
theorem Lockstep.diagonal {Q : α → α → Tracker → Tracker → Prop}
    {x : EStateM.Result (ResolveError ε) Tracker α} {a : α} {v : Tracker} (h : Lockstep Q x x)
    (hx : x = .ok a v) : Q a a v v := by
  rw [hx] at h
  exact h

/-! ## Single entries -/

-- Showing more of entries without letters.
theorem Exposed.steady {members : List Nat} {σ τ : States} (h : Exposed members σ τ)
    (hs : Spread r order σ) (hnone : ∀ i ∈ members, (σ i).yearSuffix = none) :
    Steady r order σ τ := by
  have hkept : ∀ i, (σ i).yearSuffix ≠ none → τ i = σ i :=
    fun i hi => h.frame i (fun hmem => hi (hnone i hmem))
  refine ⟨hkept, fun i hi => hs.mem i (by rw [← h.letters]; exact hi), ?_⟩
  intro i j hij hsame heq
  by_contra hsome
  -- Two entries with letters look as before.
  have hi : (σ i).yearSuffix ≠ none := by
    rw [← h.letters]
    exact hsome
  have hj : (σ j).yearSuffix ≠ none := by
    rw [← h.letters, ← heq]
    exact hsome
  have hτi := hkept i hi
  have hτj := hkept j hj
  rw [hτi, hτj] at heq
  refine hi (hs.distinct i j hij (hsame.congr ?_ ?_) heq)
  · rw [hτi]
  · rw [hτj]

-- The next letter for an entry is none that an entry with the same base key has.
theorem Spread.update {σ : States} (h : Spread r order σ) {i : Nat} {n : Int} (hi : i ∈ order)
    (hn : IsNextLetter r order σ i n) :
    Spread r order (Function.update σ i { σ i with yearSuffix := some n }) := by
  have hother : ∀ j, j ≠ i → SameBase r σ i j → (σ j).yearSuffix ≠ some n := by
    intro j hj hsame heq
    refine hn.unused j (h.mem j ?_) hj hsame heq
    rw [heq]
    exact Option.some_ne_none n
  constructor
  · intro j hj
    by_cases hji : j = i
    · rw [hji]
      exact hi
    · rw [Function.update_of_ne hji] at hj
      exact h.mem j hj
  · intro j k hjk hsame heq
    have hsame' : SameBase r σ j k :=
      hsame.congr (withoutSuffix_update σ i _ j).symm (withoutSuffix_update σ i _ k).symm
    by_cases hji : j = i
    · subst hji
      rw [Function.update_self, Function.update_of_ne (Ne.symm hjk)] at heq
      exact absurd heq.symm (hother k (Ne.symm hjk) hsame')
    · rw [Function.update_of_ne hji] at heq ⊢
      by_cases hki : k = i
      · subst hki
        rw [Function.update_self] at heq
        exact absurd heq (hother j hjk hsame'.symm)
      · rw [Function.update_of_ne hki] at heq
        exact h.distinct j k hjk hsame' heq

/-! ## Letters for a group -/

/-- Whoever of some entries has a letter shares the base key of all members of a group. -/
def Mingled (r : KeyRenderer ε) (group entries : List Nat) (σ : States) : Prop :=
  ∀ i ∈ group, ∀ j ∈ entries, i ≠ j → (σ j).yearSuffix ≠ none → SameBase r σ i j

-- An entry gets a letter only if it has none.
theorem giveLetter_steady {past rest : List Nat} {i : Nat} {t v : Tracker} {seen : List Int}
    {a : Bool} (hnd : (past ++ i :: rest).Nodup) (hi : i ∈ order) (h : t.Paired r order t)
    (hs : Spread r order t.state) (hm : Mingled r (past ++ i :: rest) (i :: rest) t.state)
    (hseen : ∀ n, n ∈ seen ↔ ∃ j ∈ past, (t.state j).yearSuffix = some n)
    (hrun : giveLetter r seen i t = .ok a v) : Steady r order t.state v.state := by
  unfold giveLetter at hrun
  rw [get_bind] at hrun
  by_cases hkeep : (t.state i).yearSuffix.any (!seen.contains ·) = true
  · rw [if_pos hkeep] at hrun
    injection hrun with _ hv
    rw [← hv]
    exact Steady.refl hs
  · rw [if_neg hkeep] at hrun
    rw [commit_state hrun]
    -- No entry of the past has the letter of this one, if it has a letter.
    have hnone : (t.state i).yearSuffix = none := by
      by_contra hsome
      rcases Option.ne_none_iff_exists'.1 hsome with ⟨n, hn⟩
      rw [hn, Option.any_some, Bool.not_eq_true, Bool.not_eq_false', List.contains_iff_mem,
        hseen] at hkeep
      rcases hkeep with ⟨j, hj, heq⟩
      have hji : j ≠ i := (List.nodup_append.1 hnd).2.2 j hj i List.mem_cons_self
      have hsame := hm j (List.mem_append_left _ hj) i List.mem_cons_self hji hsome
      have hfalse := hs.distinct j i hji hsame (by rw [heq, hn])
      rw [heq] at hfalse
      exact absurd hfalse (Option.some_ne_none n)
    refine ⟨fun j hj => Function.update_of_ne ?_ _ _, hs.update hi (nextLetter_spec h hi)⟩
    rintro rfl
    exact hj hnone

-- What holds at first, and is kept whenever an entry of a group keeps its letter or gets one, holds
-- when all members have been gone through.
theorem assignSuffixes_induct (hnd : order.Nodup) {members : List Nat}
    (hsub : members.Sublist order) {I : List Nat → States → Prop}
    (hstep : ∀ (past rest : List Nat) (i : Nat) (seen : List Int) (t v : Tracker) (a : Bool),
      past ++ i :: rest = members → t.Paired r order t →
      (∀ n, n ∈ seen ↔ ∃ j ∈ past, (t.state j).yearSuffix = some n) → I past t.state →
      giveLetter r seen i t = .ok a v → I (past ++ [i]) v.state)
    {t v : Tracker} {c : List Nat} (h : t.Paired r order t) (hI : I [] t.state)
    (hrun : assignSuffixes r [] members t = .ok c v) : I members v.state := by
  have hall : ∀ (rest past : List Nat) (seen : List Int) (t v : Tracker) (c : List Nat),
      past ++ rest = members → t.Paired r order t →
      (∀ n, n ∈ seen ↔ ∃ j ∈ past, (t.state j).yearSuffix = some n) → I past t.state →
      assignSuffixes r seen rest t = .ok c v → I members v.state := by
    intro rest
    induction rest with
    | nil =>
        intro past seen t v c hmem _ _ hI hrun
        injection hrun with _ hv
        rw [← hv, ← hmem, List.append_nil]
        exact hI
    | cons i rest ih =>
        intro past seen t v c hmem h hseen hI hrun
        have hsub' : (past ++ i :: rest).Sublist order := by
          rw [hmem]
          exact hsub
        have hpast : i ∉ past := fun hi =>
          (List.nodup_append.1 (hnd.sublist hsub')).2.2 i hi i List.mem_cons_self rfl
        rw [assignSuffixes_cons] at hrun
        rcases bind_eq_ok_iff.1 hrun with ⟨a, w, hgive, hrun⟩
        rw [get_bind] at hrun
        rcases bind_eq_ok_iff.1 hrun with ⟨others, w', hrest, hrun⟩
        injection hrun with _ hv
        rw [← hv]
        rcases (giveLetter_advances (p := {}) hsub' hseen h).diagonal hgive with
          ⟨hgiven, -, hpaired, -⟩
        refine ih (past ++ [i]) _ w w' others ?_ hpaired (hgiven.mem_seen_iff hpast hseen)
          (hstep past rest i seen t w a hmem h hseen hI hgive) hrest
        rw [List.append_assoc]
        exact hmem
  exact hall members [] [] t v c rfl h (by simp) hI hrun

-- Giving letters to a group leaves the letters of its members alone, if whoever has one shares the
-- base key of all members.
theorem assignSuffixes_steady (hnd : order.Nodup) {members : List Nat}
    (hsub : members.Sublist order) {t v : Tracker} {c : List Nat} (h : t.Paired r order t)
    (hs : Spread r order t.state) (hm : Mingled r members members t.state)
    (hrun : assignSuffixes r [] members t = .ok c v) : Steady r order t.state v.state := by
  refine (assignSuffixes_induct (I := fun past σ => Steady r order t.state σ ∧
    ∀ rest, past ++ rest = members → Mingled r members rest σ) hnd hsub ?_ h
    ⟨Steady.refl hs, fun rest hrest => ?_⟩ hrun).1
  · rintro past rest i seen u w a hmem hu hseen ⟨hsteady, hmingled⟩ hgive
    have hsub' : (past ++ i :: rest).Sublist order := by
      rw [hmem]
      exact hsub
    have hm' := hmingled (i :: rest) hmem
    have hone := giveLetter_steady (hnd.sublist hsub')
      (hsub'.subset (List.mem_append_right _ List.mem_cons_self)) hu hsteady.spread
      (by rw [hmem]; exact hm') hseen hgive
    refine ⟨hsteady.trans hone, fun rest' hrest' => ?_⟩
    rw [List.append_assoc, ← hmem] at hrest'
    have htail : rest' = rest := by simpa using hrest'
    subst htail
    -- The others have neither got letters nor other base keys.
    rcases (giveLetter_advances (p := {}) hsub' hseen hu).diagonal hgive with ⟨hgiven, -⟩
    rcases hgiven.given with ⟨n, hw, -⟩
    have hbare : ∀ l, (w.state l).withoutSuffix = (u.state l).withoutSuffix := by
      intro l
      rw [hw]
      exact withoutSuffix_update u.state i _ l
    intro k hk j hj hkj hsome
    have hji : j ≠ i := by
      rintro rfl
      have hnd' := (List.nodup_append.1 (hnd.sublist hsub')).2.1
      exact (List.nodup_cons.1 hnd').1 hj
    rw [hw, Function.update_of_ne hji] at hsome
    exact (hm' k hk j (List.mem_cons_of_mem _ hj) hkj hsome).congr (hbare k) (hbare j)
  · have hall : rest = members := hrest
    rw [hall]
    exact hm

/-! ## Groups without letters -/

/-- No entry of a group has a letter. -/
def Unlettered (group : List Nat) (σ : States) : Prop :=
  ∀ i ∈ group, (σ i).yearSuffix = none

-- A group without letters is mingled.
theorem Unlettered.mingled {group : List Nat} {σ : States} (h : Unlettered group σ) :
    Mingled r group group σ :=
  fun _ _ j hj _ hsome => absurd (h j hj) hsome

-- Giving letters to several groups without letters.
theorem assignAll_steady (hnd : order.Nodup) (groups : List (List Nat))
    (hgroups : ∀ g ∈ groups, g.Sublist order) (hdisj : groups.Pairwise List.Disjoint) :
    ∀ {t v : Tracker} {c : List Nat}, t.Paired r order t → Spread r order t.state →
      (∀ g ∈ groups, Unlettered g t.state) → assignAll r groups t = .ok c v →
      Steady r order t.state v.state ∧ ∀ i, (∀ g ∈ groups, i ∉ g) → v.state i = t.state i := by
  induction groups with
  | nil =>
      intro t v c _ hs _ hrun
      injection hrun with _ hv
      rw [← hv]
      exact ⟨Steady.refl hs, fun _ _ => rfl⟩
  | cons g rest ih =>
      intro t v c h hs hnone hrun
      rw [List.pairwise_cons] at hdisj
      rw [assignAll] at hrun
      rcases bind_eq_ok_iff.1 hrun with ⟨changed, w, hfirst, hrun⟩
      rcases bind_eq_ok_iff.1 hrun with ⟨others, w', hrest, hrun⟩
      injection hrun with _ hv
      subst hv
      have hsub := hgroups g List.mem_cons_self
      have hsteady := assignSuffixes_steady hnd hsub h hs
        (hnone g List.mem_cons_self).mingled hfirst
      rcases (assignSuffixes_advances_nil (p := {}) hnd hsub h).diagonal hfirst with
        ⟨hletters, -, hpaired, -⟩
      have hnone' : ∀ g' ∈ rest, Unlettered g' w.state := by
        intro g' hg' i hi
        rw [hletters.frame i (fun hig => hdisj.1 g' hg' hig hi)]
        exact hnone g' (List.mem_cons_of_mem _ hg') i hi
      rcases ih (fun g' hg' => hgroups g' (List.mem_cons_of_mem _ hg')) hdisj.2 hpaired
        hsteady.spread hnone' hrest with ⟨hsteady', hframe⟩
      refine ⟨hsteady.trans hsteady', fun i hi => ?_⟩
      rw [hframe i (fun g' hg' => hi g' (List.mem_cons_of_mem _ hg')),
        hletters.frame i (hi g List.mem_cons_self)]

-- Telling one group without letters apart.
theorem separate_steady (hnd : order.Nodup) {group : List Nat} (hsub : group.Sublist order)
    {t v : Tracker} {c : List Nat} (h : t.Paired r order t) (hs : Spread r order t.state)
    (hnone : Unlettered group t.state) (hrun : separate p r group t = .ok c v) :
    Steady r order t.state v.state ∧ ∀ i, i ∉ group → v.state i = t.state i := by
  unfold separate at hrun
  rcases bind_eq_ok_iff.1 hrun with ⟨⟨changed, left⟩, w, hmeans, hrun⟩
  rcases bind_eq_ok_iff.1 hrun with ⟨lettered, w', hletters, hrun⟩
  injection hrun with _ hv
  subst hv
  have hgroups : ∀ g ∈ [group], g.Sublist order := by
    intro g hg
    rw [List.mem_singleton.1 hg]
    exact hsub
  rcases applyMethods_exposed p.steppedMethods hmeans with ⟨hexposed, hnarrowed⟩
  rcases (applyMethods_advances hnd p.steppedMethods [group] hgroups t t h).diagonal hmeans with
    ⟨hleft, -, hpaired, -⟩
  have hflat : ([group] : List (List Nat)).flatten = group := by simp
  rw [hflat] at hexposed
  have hmem : ∀ g ∈ left, ∀ i ∈ g, i ∈ group := by
    intro g hg i hi
    rcases hnarrowed.mem g hg i hi with ⟨k, hk, hik⟩
    rw [List.mem_singleton.1 hk] at hik
    exact hik
  have hsteady := hexposed.steady hs hnone
  have hleftNone : ∀ g ∈ left, Unlettered g w.state := by
    intro g hg i hi
    rw [hexposed.letters]
    exact hnone i (hmem g hg i hi)
  rcases assignAll_steady hnd left hleft.sublist (hnarrowed.disjoint (List.pairwise_singleton _ _))
    hpaired hsteady.spread hleftNone hletters with ⟨hsteady', hframe⟩
  refine ⟨hsteady.trans hsteady', fun i hi => ?_⟩
  rw [hframe i (fun g hg hig => hi (hmem g hg i hig)), hexposed.frame i hi]

-- Telling several groups without letters apart.
theorem separateAll_steady (hnd : order.Nodup) (groups : List (List Nat))
    (hgroups : ∀ g ∈ groups, g.Sublist order) (hdisj : groups.Pairwise List.Disjoint) :
    ∀ {t v : Tracker} {c : List Nat}, t.Paired r order t → Spread r order t.state →
      (∀ g ∈ groups, Unlettered g t.state) → separateAll p r groups t = .ok c v →
      Steady r order t.state v.state := by
  induction groups with
  | nil =>
      intro t v c _ hs _ hrun
      injection hrun with _ hv
      rw [← hv]
      exact Steady.refl hs
  | cons g rest ih =>
      intro t v c h hs hnone hrun
      rw [List.pairwise_cons] at hdisj
      rw [separateAll] at hrun
      rcases bind_eq_ok_iff.1 hrun with ⟨changed, w, hfirst, hrun⟩
      rcases bind_eq_ok_iff.1 hrun with ⟨others, w', hrest, hrun⟩
      injection hrun with _ hv
      subst hv
      have hsub := hgroups g List.mem_cons_self
      rcases separate_steady hnd hsub h hs (hnone g List.mem_cons_self) hfirst with
        ⟨hsteady, hframe⟩
      rcases (separate_advances hnd hsub h).diagonal hfirst with ⟨-, -, hpaired, -⟩
      have hnone' : ∀ g' ∈ rest, Unlettered g' w.state := by
        intro g' hg' i hi
        rw [hframe i (fun hig => hdisj.1 g' hg' hig hi)]
        exact hnone g' (List.mem_cons_of_mem _ hg') i hi
      exact hsteady.trans (ih (fun g' hg' => hgroups g' (List.mem_cons_of_mem _ hg')) hdisj.2
        hpaired hsteady.spread hnone' hrest)

/-! ## Groups with a common base key -/

-- Completing the letters of groups with common base keys.
theorem completeGroups_steady (hnd : order.Nodup) (groups : List (List Nat))
    (hgroups : ∀ g ∈ groups, g.Sublist order) :
    ∀ {t v : Tracker} {a : List Nat × List Nat}, t.Paired r order t → Spread r order t.state →
      (∀ g ∈ groups, ∀ i ∈ g, ∀ j ∈ g, SameBase r t.state i j) →
      completeGroups r groups t = .ok a v → Steady r order t.state v.state := by
  induction groups with
  | nil =>
      intro t v a _ hs _ hrun
      injection hrun with _ hv
      rw [← hv]
      exact Steady.refl hs
  | cons g rest ih =>
      intro t v a h hs hsame hrun
      have hrest : ∀ g' ∈ rest, g'.Sublist order :=
        fun g' hg' => hgroups g' (List.mem_cons_of_mem _ hg')
      rw [completeGroups, get_bind] at hrun
      by_cases hletters : t.lettersInOrder g = true
      · rw [if_pos hletters] at hrun
        exact ih hrest h hs (fun g' hg' => hsame g' (List.mem_cons_of_mem _ hg')) hrun
      · rw [if_neg hletters] at hrun
        rcases bind_eq_ok_iff.1 hrun with ⟨changed, w, hfirst, hrun⟩
        rcases bind_eq_ok_iff.1 hrun with ⟨⟨others, concerned⟩, w', hothers, hrun⟩
        injection hrun with _ hv
        subst hv
        have hsub := hgroups g List.mem_cons_self
        have hsteady := assignSuffixes_steady hnd hsub h hs
          (fun i hi j hj _ _ => hsame g List.mem_cons_self i hi j hj) hfirst
        rcases (assignSuffixes_advances_nil (p := {}) hnd hsub h).diagonal hfirst with
          ⟨hlettering, -, hpaired, -⟩
        refine hsteady.trans (ih hrest hpaired hsteady.spread (fun g' hg' i hi j hj => ?_) hothers)
        exact (hsame g' (List.mem_cons_of_mem _ hg') i hi j hj).congr
          (hlettering.withoutSuffix i) (hlettering.withoutSuffix j)

-- Completing the letters of some entries.
theorem completeSuffixes_steady (hnd : order.Nodup) {t v : Tracker} {touched : List Nat}
    {a : List Nat × List Nat} (h : t.Paired r order t) (hs : Spread r order t.state)
    (hrun : completeSuffixes r order touched t = .ok a v) : Steady r order t.state v.state := by
  unfold completeSuffixes at hrun
  rw [get_bind, h.left.crowded_base_eq hnd] at hrun
  refine completeGroups_steady hnd _ (fun g hg => ?_) h hs (fun g hg i hi j hj => ?_) hrun
  · exact sublist_of_mem_lookalikes (List.mem_filter.1 hg).1
  · rcases h.looksAlike_bare (List.mem_filter.1 hg).1 hi hj with ⟨key, -, hki, hkj⟩
    exact ⟨key, hki, hkj⟩

/-! ## Passes -/

/-- Entries that look alike have no letters, if the text of a cite tells its letter and its base
    key. -/
theorem Spread.unlettered {t : Tracker} (hs : Spread r order t.state) (hl : Legible r)
    (hnd : order.Nodup) (h : t.Paired r order t) {g : List Nat}
    (hg : g ∈ lookalikes t.current order) : Unlettered g t.state := by
  have hsub := sublist_of_mem_lookalikes hg
  -- Any two of them have the same letter and the same base key.
  have hpair : ∀ i ∈ g, ∀ j ∈ g, i ≠ j → (t.state i).yearSuffix = none := by
    intro i hi j hj hij
    rcases h.looksAlike hg hi hj with ⟨key, hne, hki, hkj⟩
    rcases hl i j _ _ key hij hne hki hkj with ⟨hletter, hbase⟩
    rcases h.left.exists_base (h.tracked i (hsub.subset hi)) with ⟨base, hb⟩
    have hbi := h.left.base i base hb
    exact hs.distinct i j hij ⟨base, hbi, by rw [← hbase]; exact hbi⟩ hletter
  rcases exists_ne_of_mem_lookalikes hnd hg with ⟨k, hk, l, hkl, hne⟩
  intro i hi
  by_cases hik : i = k
  · rw [hik]
    exact hpair k hk l hkl hne
  · exact hpair i hi k hk hik

/-- A pass leaves every entry with a letter as it is. -/
theorem pass_steady (hl : Legible r) (hnd : order.Nodup) {touched : List Nat} {t v : Tracker}
    {s : PassReport} (h : t.Paired r order t) (hs : Spread r order t.state)
    (hrun : pass p r order touched t = .ok s v) : Steady r order t.state v.state := by
  unfold pass at hrun
  rw [get_bind, h.left.collisions_eq hnd] at hrun
  rcases bind_eq_ok_iff.1 hrun with ⟨separated, w, hseparate, hrun⟩
  rcases bind_eq_ok_iff.1 hrun with ⟨⟨completed, concerned⟩, w', hcomplete, hrun⟩
  injection hrun with _ hv
  subst hv
  have hgroups : ∀ g ∈ (lookalikes t.current order).filter (·.any touched.contains),
      g.Sublist order := fun g hg => sublist_of_mem_lookalikes (List.mem_filter.1 hg).1
  have hsteady := separateAll_steady hnd _ hgroups
    ((pairwise_disjoint_lookalikes hnd).filter _) h hs
    (fun g hg => hs.unlettered hl hnd h (List.mem_filter.1 hg).1) hseparate
  rcases (separateAll_advances hnd _ hgroups t t h).diagonal hseparate with ⟨-, -, hpaired, -⟩
  exact hsteady.trans (completeSuffixes_steady hnd hpaired hsteady.spread hcomplete)

/-- Passes leave every entry with a letter as it is. -/
theorem passes_steady (hl : Legible r) (hnd : order.Nodup) (n : Nat) :
    ∀ {touched checked affected : List Nat} {t v : Tracker} {a : List Nat × List Nat},
      OnWay r order touched t → Spread r order t.state →
      passes p r order n touched checked affected t = .ok a v →
      Steady r order t.state v.state := by
  induction n with
  | zero =>
      intro touched checked affected t v a _ hs hrun
      injection hrun with _ hv
      rw [← hv]
      exact Steady.refl hs
  | succ n ih =>
      intro touched checked affected t v a h hs hrun
      rw [passes_succ] at hrun
      rcases bind_eq_ok_iff.1 hrun with ⟨s, w, hpass, hrun⟩
      have hsteady := pass_steady hl hnd h.paired hs hpass
      split at hrun
      · injection hrun with _ hv
        rw [← hv]
        exact hsteady
      · rcases pass_onWay (p := p) hnd hl.faithful h with
          ⟨s', w', hpass', hway, -⟩ | ⟨e, w', hpass'⟩
        · rw [hpass] at hpass'
          injection hpass' with hs' hw'
          rw [← hs', ← hw'] at hway
          exact hsteady.trans (ih hway hsteady.spread hrun)
        · rw [hpass] at hpass'
          exact absurd hpass' (by simp only [reduceCtorEq, not_false_eq_true])

end Disambiguation

end CslProcessor
