import CslProcessor.Proofs.Disambiguation.Frames
import CslProcessor.Proofs.Disambiguation.Incremental

/-!
# States only grow

Telling entries apart never takes anything back, whatever a tracker says of itself. The guard of a
tracker against states that lose information is there for the writer of the means: none of the
means that there are ever runs into it.

Nothing is assumed of the books here. They may be wrong, of another renderer, or about entries that
are gone; all that counts is which entries are written, with which states, and what is reported of
it. `Grows` says so of a result, with the states at the start of a piece of work as its reference,
and work in sequence keeps to it by `Grows.bind`. A failure leaves states that have grown, too.

That a state carries the information of another does not carry over to a third one when levels are
negative, since a level that is not listed counts as zero. So growth is measured level by level.

## Main definitions

* `EntryDisambiguation.Grown`: A state is nowhere less than another.
* `Growth`: What work on some entries does to the states.
* `Grows`: What the result of a piece of work may be.

## Theorems

* `Grown.covers`: A state that has grown carries all information.
* `Grows.bind`: Work in sequence.
* `commit_grows`: Writing a state that has grown is not refused.
* `assignSuffixes_grows`, `applyMethods_grows`, `passes_grows`: Letters, means and passes.
* `resolve_growth`: What a resolution does to the states, whether it succeeds or not.
-/

namespace CslProcessor

namespace EntryDisambiguation

open Disambiguation (firstLetter)

/-- A state is nowhere less than another: it shows as many names, each of them at the same level or
    a higher one, it uses the branches for entries told apart if the other does, and its letter is
    the same one or one behind it. -/
structure Grown (d e : EntryDisambiguation) : Prop where
  extraNames : d.extraNames ≤ e.extraNames
  condition : d.condition = true → e.condition = true
  letter : e.yearSuffix = d.yearSuffix ∨ ∃ n, e.yearSuffix = some n ∧ firstLetter d ≤ n
  level : ∀ i, d.level i ≤ e.level i

theorem Grown.refl (d : EntryDisambiguation) : Grown d d :=
  ⟨Int.le_refl _, id, Or.inl rfl, fun _ => Int.le_refl _⟩

theorem Grown.trans {d e f : EntryDisambiguation} (h : Grown d e) (h' : Grown e f) : Grown d f where
  extraNames := Int.le_trans h.extraNames h'.extraNames
  condition := fun hd => h'.condition (h.condition hd)
  level := fun i => Int.le_trans (h.level i) (h'.level i)
  letter := by
    rcases h'.letter with hf | ⟨m, hf, hm⟩
    · rw [hf]
      exact h.letter
    · refine Or.inr ⟨m, hf, ?_⟩
      rcases h.letter with he | ⟨n, he, hn⟩
      · simpa only [firstLetter, he] using hm
      · -- A letter behind a letter that was behind the first one.
        simp only [firstLetter, he] at hm
        omega

/-- A state that has grown carries all information of the one before. -/
theorem Grown.covers {d e : EntryDisambiguation} (h : Grown d e) : e.covers d = true := by
  refine covers_iff.2 ⟨h.extraNames, h.condition, ?_, fun i l hl => ?_⟩
  · rcases h.letter with he | ⟨n, he, hn⟩
    · rw [he]
      cases d.yearSuffix <;> simp [suffixCovers]
    · rw [he]
      cases hd : d.yearSuffix with
      | none => rfl
      | some m =>
          simp only [firstLetter, hd] at hn
          simp only [suffixCovers, decide_eq_true_eq]
          omega
  · have hlevel := h.level i
    rw [EntryDisambiguation.level, List.getD_eq_getElem?_getD, hl, Option.getD_some] at hlevel
    exact hlevel

theorem Grown.withoutSuffix {d e : EntryDisambiguation} (h : Grown d e) :
    Grown d.withoutSuffix e.withoutSuffix :=
  ⟨h.extraNames, h.condition, Or.inl rfl, h.level⟩

-- A letter behind the one that there is.
theorem Grown.of_letter (d : EntryDisambiguation) {n : Int} (h : firstLetter d ≤ n) :
    Grown d { d with yearSuffix := some n } :=
  ⟨Int.le_refl _, id, Or.inr ⟨n, rfl, h⟩, fun _ => Int.le_refl _⟩

-- A list of greater levels is nowhere lower, nor is it where the other list ends.
theorem getD_le_getD_maxLevels (as bs : List Int) (i : Nat) :
    bs.getD i 0 ≤ (maxLevels as bs).getD i 0 := by
  cases hb : bs[i]? with
  | some b =>
      rw [List.getD_eq_getElem?_getD, hb, Option.getD_some]
      exact (le_getD_maxLevels as bs i).2 b hb
  | none =>
      rw [List.getD_eq_getElem?_getD, hb, Option.getD_none]
      induction as generalizing bs i with
      | nil => rw [maxLevels, List.getD_eq_getElem?_getD, List.getElem?_map, hb]; rfl
      | cons a as ih =>
          cases bs with
          | nil =>
              rw [maxLevels, List.getD_eq_getElem?_getD, List.getElem?_map]
              · cases (a :: as)[i]? with
                | none => exact Int.le_refl 0
                | some l => exact Int.le_max_right l 0
              · exact List.cons_ne_nil a as
          | cons b bs =>
              cases i with
              | zero => exact absurd hb (by simp)
              | succ i => simpa [maxLevels] using ih bs i (by simpa using hb)

/-- A step of any means lets a state grow. -/
theorem grown_of_mem_steps {p : Disambiguation.Policy} {limit : Nat}
    {method : DisambiguationMethod} {step : EntryDisambiguation → EntryDisambiguation}
    (h : step ∈ p.steps limit method) (d : EntryDisambiguation) : Grown d (step d) := by
  rcases Grown.refl d with ⟨hextra, hcond, hletter, hlevel⟩
  cases method with
  | conditional =>
      rw [Disambiguation.Policy.steps, List.mem_singleton] at h
      subst h
      exact ⟨hextra, fun _ => rfl, hletter, hlevel⟩
  | addNames =>
      rcases List.mem_map.1 h with ⟨n, -, rfl⟩
      exact ⟨Int.le_max_left _ _, hcond, hletter, hlevel⟩
  | addGivenName =>
      rcases List.mem_map.1 h with ⟨levels, -, rfl⟩
      exact ⟨hextra, hcond, hletter, getD_le_getD_maxLevels levels _⟩
  | addYearSuffix =>
      rw [Disambiguation.Policy.steps] at h
      exact absurd h List.not_mem_nil

end EntryDisambiguation

namespace Disambiguation

open EntryDisambiguation

variable {ε α β : Type} {p : Policy} {r : KeyRenderer ε} {among : List Nat}

/-! ## Results -/

/-- What work on some entries does to the states: they grow, and those of all other entries stay
    as they are. -/
structure Growth (among : List Nat) (σ τ : States) : Prop where
  grown : ∀ i, Grown (σ i) (τ i)
  frame : ∀ i, i ∉ among → τ i = σ i

theorem Growth.refl (among : List Nat) (σ : States) : Growth among σ σ :=
  ⟨fun i => Grown.refl (σ i), fun _ _ => rfl⟩

theorem Growth.trans {σ τ ρ : States} (h : Growth among σ τ) (h' : Growth among τ ρ) :
    Growth among σ ρ where
  grown := fun i => (h.grown i).trans (h'.grown i)
  frame := fun i hi => (h'.frame i hi).trans (h.frame i hi)

theorem Growth.mono {among' : List Nat} {σ τ : States} (h : Growth among σ τ)
    (hsub : ∀ i ∈ among, i ∈ among') : Growth among' σ τ where
  grown := h.grown
  frame := fun i hi => h.frame i (fun hmem => hi (hsub i hmem))

-- Writing a state that has grown.
theorem Growth.update {σ : States} {i : Nat} {d : EntryDisambiguation} (h : Grown (σ i) d) :
    Growth [i] σ (Function.update σ i d) where
  grown := fun j => by
    by_cases hj : j = i
    · rw [hj, Function.update_self]
      exact h
    · rw [Function.update_of_ne hj]
      exact Grown.refl (σ j)
  frame := fun j hj => Function.update_of_ne (List.ne_of_not_mem_cons hj) _ _

/-- A state that a cite is rendered under: one that has grown, with its letter or without. -/
def Shown (d e : EntryDisambiguation) : Prop :=
  Grown d e ∨ Grown d.withoutSuffix e

theorem Shown.of_grown {d e f : EntryDisambiguation} (h : Grown d e) (h' : Shown e f) :
    Shown d f := by
  rcases h' with h' | h'
  · exact Or.inl (h.trans h')
  · exact Or.inr (h.withoutSuffix.trans h')

/-- What a piece of work may come to, given the entries that it may write and which of its results
    reports the entries whose states are others than some: states that have grown, or a failure of
    the renderer under a state that has grown, or lookalikes that are left over. -/
inductive Grows (r : KeyRenderer ε) (among : List Nat) (reported : α → List Nat) (σ : States) :
    EStateM.Result (ResolveError ε) Tracker α → Prop
  /-- The work succeeds and reports what has changed. -/
  | ok {a : α} {v : Tracker} (growth : Growth among σ v.state)
      (told : ∀ i, v.state i ≠ σ i → i ∈ reported a) : Grows r among reported σ (.ok a v)
  /-- The renderer fails. -/
  | rendering {i : Nat} {d : EntryDisambiguation} {e : ε} {v : Tracker}
      (growth : Growth among σ v.state) (key : r.key i d = .error e) (shown : Shown (σ i) d) :
      Grows r among reported σ (.error (.rendering e) v)
  /-- Some entries look alike still. -/
  | stillAlike {indexes : List Nat} {v : Tracker} (growth : Growth among σ v.state) :
      Grows r among reported σ (.error (.stillAlike indexes) v)

/-- Work in sequence: what comes behind has to keep to what it may come to, from any state that
    has grown by then. -/
theorem Grows.bind {reported : α → List Nat} {reported' : β → List Nat} {σ : States}
    {m : Resolving ε α} {f : α → Resolving ε β} {t : Tracker}
    (h : Grows r among reported σ (m t))
    (hf : ∀ a v, m t = .ok a v → Growth among σ v.state →
      (∀ i, v.state i ≠ σ i → i ∈ reported a) → Grows r among reported' σ (f a v)) :
    Grows r among reported' σ ((m >>= f) t) := by
  cases hm : m t with
  | ok a v =>
      rw [hm] at h
      rw [bind_of_ok hm]
      cases h with
      | ok growth told => exact hf a v hm growth told
  | error e v =>
      rw [hm] at h
      rw [bind_of_error hm]
      cases h with
      | rendering growth key shown => exact Grows.rendering growth key shown
      | stillAlike growth => exact Grows.stillAlike growth

/-- Work that keeps to it from a state that has grown keeps to it from the start, if what had
    changed by then counts as reported. -/
theorem Grows.after {reported : α → List Nat} {σ τ : States} {c : List Nat}
    {x : EStateM.Result (ResolveError ε) Tracker α} (h : Grows r among reported τ x)
    (growth : Growth among σ τ) (told : ∀ i, τ i ≠ σ i → i ∈ c) :
    Grows r among (fun a => ListSet.union c (reported a)) σ x := by
  cases h with
  | ok growth' told' =>
      refine Grows.ok (growth.trans growth') (fun i hi => ListSet.mem_union.2 ?_)
      by_cases hmid : τ i = σ i
      · exact Or.inr (told' i (by rw [hmid]; exact hi))
      · exact Or.inl (told i hmid)
  | rendering growth' key shown =>
      exact Grows.rendering (growth.trans growth') key (shown.of_grown (growth.grown _))
  | stillAlike growth' => exact Grows.stillAlike (growth.trans growth')

-- More entries may be written, and more of them reported.
theorem Grows.mono {among' : List Nat} {reported reported' : α → List Nat} {σ : States}
    {x : EStateM.Result (ResolveError ε) Tracker α} (h : Grows r among reported σ x)
    (hsub : ∀ i ∈ among, i ∈ among') (htold : ∀ a, ∀ i ∈ reported a, i ∈ reported' a) :
    Grows r among' reported' σ x := by
  cases h with
  | ok growth told => exact Grows.ok (growth.mono hsub) (fun i hi => htold _ i (told i hi))
  | rendering growth key shown => exact Grows.rendering (growth.mono hsub) key shown
  | stillAlike growth => exact Grows.stillAlike (growth.mono hsub)

-- Nothing has changed yet.
theorem Grows.nothing (reported : α → List Nat) (a : α) (t : Tracker) :
    Grows r among reported t.state (.ok a t) :=
  Grows.ok (Growth.refl among t.state) (fun _ hi => absurd rfl hi)

-- However the work ends, the states have grown.
theorem Grows.growth {reported : α → List Nat} {σ : States}
    {x : EStateM.Result (ResolveError ε) Tracker α} (h : Grows r among reported σ x) :
    Growth among σ (stateAfter x).state := by
  cases h with
  | ok growth told => exact growth
  | rendering growth key shown => exact growth
  | stillAlike growth => exact growth

-- It does not end with a state that was refused.
theorem Grows.not_regress {reported : α → List Nat} {σ : States}
    {x : EStateM.Result (ResolveError ε) Tracker α} (h : Grows r among reported σ x)
    (e : Regress) : replyOf x ≠ .error (.regress e) := by
  cases h with
  | ok growth told => simp [replyOf]
  | rendering growth key shown => simp [replyOf]
  | stillAlike growth => simp [replyOf]

-- If it succeeds, an entry whose state has changed is reported.
theorem Grows.mem_of_ne {reported : α → List Nat} {σ : States}
    {x : EStateM.Result (ResolveError ε) Tracker α} (h : Grows r among reported σ x) {a : α}
    (ha : replyOf x = .ok a) {i : Nat} (hi : (stateAfter x).state i ≠ σ i) : i ∈ reported a := by
  cases h with
  | ok growth told =>
      rw [replyOf, Except.ok.injEq] at ha
      rw [← ha]
      exact told i hi
  | rendering growth key shown => exact absurd ha (by simp [replyOf])
  | stillAlike growth => exact absurd ha (by simp [replyOf])

/-! ## Single entries -/

/-- Asking for a key writes no state. -/
theorem keyOf_grows {i : Nat} {d : EntryDisambiguation} {t : Tracker}
    (h : Shown (t.state i) d) :
    Grows r among (fun _ => []) t.state (keyOf r i d t) := by
  unfold keyOf
  rw [get_bind]
  cases t.keys.lookup (i, d) with
  | some key => exact Grows.nothing _ key t
  | none =>
      simp only [modify_bind]
      cases hk : r.key i d with
      | ok key => exact Grows.ok (Growth.refl among t.state) (fun _ hi => absurd rfl hi)
      | error e => exact Grows.rendering (Growth.refl among t.state) hk h

-- Neither does starting to track an entry.
theorem track_grows (i : Nat) (t : Tracker) :
    Grows r among (fun _ => []) t.state (track r i t) := by
  unfold track
  rw [get_bind]
  refine (keyOf_grows (Or.inl (Grown.refl _))).bind fun key v _ growth told => ?_
  have hshown : Shown (v.state i) (t.state i).withoutSuffix := by
    by_cases hi : v.state i = t.state i
    · rw [hi]
      exact Or.inr (Grown.refl _)
    · exact absurd (told i hi) List.not_mem_nil
  refine ((keyOf_grows hshown).after growth told).bind fun base w _ growth' told' => ?_
  exact Grows.ok growth' told'

theorem trackAll_grows (l : List Nat) :
    ∀ t : Tracker, Grows r among (fun _ => []) t.state (trackAll r l t) := by
  induction l with
  | nil => exact fun t => Grows.nothing _ _ t
  | cons i rest ih =>
      intro t
      rw [trackAll]
      exact (track_grows i t).bind fun _ v _ growth told => (ih v).after growth told

/-- Writing a state that has grown is not refused, and it is reported if it is another one. -/
theorem commit_grows {i : Nat} {d : EntryDisambiguation} {t : Tracker} (hi : i ∈ among)
    (h : Grown (t.state i) d) :
    Grows r among (fun a => if a then [i] else []) t.state (commit r i d t) := by
  unfold commit
  rw [get_bind]
  by_cases hd : d = t.state i
  · rw [hd, update?_self]
    exact Grows.nothing _ false t
  · rw [update?_of_covers hd h.covers]
    simp only [set_bind]
    have hstate : ((t.write i d).untrack i).state = Function.update t.state i d :=
      Tracker.state_write t i d
    have hfirst : Growth among t.state ((t.write i d).untrack i).state := by
      rw [hstate]
      refine (Growth.update h).mono (fun j hj => ?_)
      rw [List.mem_singleton.1 hj]
      exact hi
    have htold : ∀ j, ((t.write i d).untrack i).state j ≠ t.state j → j ∈ [i] := by
      intro j hj
      by_contra hne
      rw [hstate, Function.update_of_ne (List.ne_of_not_mem_cons hne)] at hj
      exact hj rfl
    refine ((track_grows i _).after hfirst htold).bind fun _ v _ growth told => ?_
    exact Grows.ok growth told

/-! ## Steps -/

-- Committing a step for every member of a group. A member that is listed twice has taken the step
-- when its second turn comes.
theorem commitAll_grows {step : EntryDisambiguation → EntryDisambiguation}
    (hstep : ∀ d, Grown d (step d)) (σ : States) (members : List Nat)
    (hsub : ∀ i ∈ members, i ∈ among) :
    ∀ t : Tracker, (∀ i ∈ members, t.state i = σ i ∨ t.state i = step (σ i)) →
      Grows r among id t.state (commitAll r (members.map fun i => (i, step (σ i))) t) := by
  induction members with
  | nil => exact fun t _ => Grows.nothing _ _ t
  | cons i rest ih =>
      intro t hσ
      rw [List.map_cons, commitAll]
      have hgrown : Grown (t.state i) (step (σ i)) := by
        rcases hσ i List.mem_cons_self with heq | heq
        · rw [heq]
          exact hstep (σ i)
        · rw [heq]
          exact Grown.refl _
      refine (commit_grows (hsub i List.mem_cons_self) hgrown).bind
        fun changed v hrun growth told => ?_
      have hσ' : ∀ j ∈ rest, v.state j = σ j ∨ v.state j = step (σ j) := by
        intro j hj
        rw [commit_state hrun]
        by_cases hji : j = i
        · rw [hji, Function.update_self]
          exact Or.inr rfl
        · rw [Function.update_of_ne hji]
          exact hσ j (List.mem_cons_of_mem _ hj)
      refine ((ih (fun j hj => hsub j (List.mem_cons_of_mem _ hj)) v hσ').after growth told).bind
        fun others w _ growth' told' => ?_
      refine Grows.ok growth' (fun j hj => ?_)
      cases changed <;> simpa [ListSet.mem_union] using told' j hj

-- Looking at the keys after a step writes no state.
theorem distinctAfter_grows {step : EntryDisambiguation → EntryDisambiguation}
    (hstep : ∀ d, Grown d (step d)) (members : List Nat) (t : Tracker) :
    Grows r among (fun _ => []) t.state (distinctAfter r step members t) := by
  have hall : ∀ (l : List Nat) (u : Tracker), Growth among t.state u.state →
      (∀ i, u.state i ≠ t.state i → i ∈ ([] : List Nat)) →
      Grows r among (fun _ => []) t.state
        (l.mapM (fun i => keyOf r i (step (t.state i))) u) := by
    intro l
    induction l with
    | nil =>
        intro u growth told
        rw [List.mapM_nil]
        exact Grows.ok growth told
    | cons i rest ih =>
        intro u growth told
        rw [List.mapM_cons]
        have hshown : Shown (u.state i) (step (t.state i)) := by
          by_cases hi : u.state i = t.state i
          · rw [hi]
            exact Or.inl (hstep _)
          · exact absurd (told i hi) List.not_mem_nil
        refine ((keyOf_grows hshown).after growth told).bind fun key v _ growth' told' => ?_
        refine (ih v growth' told').bind fun keys w _ growth'' told'' => ?_
        exact Grows.ok growth'' told''
  unfold distinctAfter
  rw [get_bind]
  exact (hall members t (Growth.refl among t.state) (fun _ hi => absurd rfl hi)).bind
    fun keys v _ growth told => Grows.ok growth told

theorem tryStep_grows {step : EntryDisambiguation → EntryDisambiguation}
    (hstep : ∀ d, Grown d (step d)) {members : List Nat} (hsub : ∀ i ∈ members, i ∈ among)
    (t : Tracker) : Grows r among id t.state (tryStep r members step t) := by
  unfold tryStep
  refine (distinctAfter_grows hstep members t).bind fun after v _ growth told => ?_
  rw [get_bind]
  split
  · exact (commitAll_grows hstep v.state members hsub v (fun _ _ => Or.inl rfl)).after growth told
  · exact Grows.ok growth told

/-- Trying several steps for a group lets its members grow. -/
theorem trySteps_grows {members : List Nat} (hsub : ∀ i ∈ members, i ∈ among)
    (steps : List (EntryDisambiguation → EntryDisambiguation))
    (hsteps : ∀ step ∈ steps, ∀ d, Grown d (step d)) :
    ∀ t : Tracker, Grows r among id t.state (trySteps r members steps t) := by
  induction steps with
  | nil => exact fun t => Grows.nothing _ _ t
  | cons step rest ih =>
      intro t
      rw [trySteps]
      refine (tryStep_grows (hsteps step List.mem_cons_self) hsub t).bind
        fun changed v _ growth told => ?_
      rw [get_bind]
      split
      · exact Grows.ok growth told
      · refine ((ih (fun s hs => hsteps s (List.mem_cons_of_mem _ hs)) v).after growth told).bind
          fun others w _ growth' told' => ?_
        exact Grows.ok growth' told'

/-! ## Means -/

theorem applyMethod_grows (method : DisambiguationMethod) (groups : List (List Nat))
    (hsub : ∀ g ∈ groups, ∀ i ∈ g, i ∈ among) :
    ∀ t : Tracker, Grows r among Prod.fst t.state (applyMethod p r method groups t) := by
  induction groups with
  | nil => exact fun t => Grows.nothing _ _ t
  | cons members rest ih =>
      intro t
      rw [applyMethod]
      refine (trySteps_grows (hsub members List.mem_cons_self) _
        (fun _ hs => grown_of_mem_steps hs) t).bind fun changed v _ growth told => ?_
      rw [get_bind]
      refine ((ih (fun g hg => hsub g (List.mem_cons_of_mem _ hg)) v).after growth told).bind ?_
      rintro ⟨others, further⟩ w _ growth' told'
      exact Grows.ok growth' told'

/-- Trying several means for groups lets their members grow. -/
theorem applyMethods_grows (methods : List DisambiguationMethod) :
    ∀ (groups : List (List Nat)), (∀ g ∈ groups, ∀ i ∈ g, i ∈ among) →
      ∀ t : Tracker, Grows r among Prod.fst t.state (applyMethods p r methods groups t) := by
  induction methods with
  | nil => exact fun _ _ t => Grows.nothing _ _ t
  | cons method rest ih =>
      intro groups hsub t
      rw [applyMethods]
      refine (applyMethod_grows method groups hsub t).bind ?_
      rintro ⟨changed, left⟩ v hrun growth told
      -- What is left of the groups has no other members.
      have hleft : ∀ g ∈ left, ∀ i ∈ g, i ∈ among := by
        intro g hg i hi
        rcases (applyMethod_exposed groups hrun).2.mem g hg i hi with ⟨k, hk, hik⟩
        exact hsub k hk i hik
      refine ((ih left hleft v).after growth told).bind ?_
      rintro ⟨others, remaining⟩ w _ growth' told'
      exact Grows.ok growth' told'

/-! ## Letters -/

theorem giveLetter_grows {i : Nat} (hi : i ∈ among) (seen : List Int) (t : Tracker) :
    Grows r among (fun a => if a then [i] else []) t.state (giveLetter r seen i t) := by
  unfold giveLetter
  rw [get_bind]
  split
  · exact Grows.nothing _ false t
  · exact commit_grows hi (Grown.of_letter _ (freeLetter_le _ _))

/-- Giving letters to a group lets its members grow. -/
theorem assignSuffixes_grows (members : List Nat) (hsub : ∀ i ∈ members, i ∈ among) :
    ∀ (seen : List Int) (t : Tracker),
      Grows r among id t.state (assignSuffixes r seen members t) := by
  induction members with
  | nil => exact fun _ t => Grows.nothing _ _ t
  | cons i rest ih =>
      intro seen t
      rw [assignSuffixes_cons]
      refine (giveLetter_grows (hsub i List.mem_cons_self) seen t).bind
        fun changed v _ growth told => ?_
      rw [get_bind]
      refine ((ih (fun j hj => hsub j (List.mem_cons_of_mem _ hj)) _ v).after growth told).bind
        fun others w _ growth' told' => ?_
      refine Grows.ok growth' (fun j hj => ?_)
      cases changed <;> simpa [ListSet.mem_union] using told' j hj

theorem assignAll_grows (groups : List (List Nat)) (hsub : ∀ g ∈ groups, ∀ i ∈ g, i ∈ among) :
    ∀ t : Tracker, Grows r among id t.state (assignAll r groups t) := by
  induction groups with
  | nil => exact fun t => Grows.nothing _ _ t
  | cons members rest ih =>
      intro t
      rw [assignAll]
      refine (assignSuffixes_grows members (hsub members List.mem_cons_self) [] t).bind
        fun changed v _ growth told => ?_
      refine ((ih (fun g hg => hsub g (List.mem_cons_of_mem _ hg)) v).after growth told).bind
        fun others w _ growth' told' => ?_
      exact Grows.ok growth' told'

theorem separate_grows {group : List Nat} (hsub : ∀ i ∈ group, i ∈ among) (t : Tracker) :
    Grows r among id t.state (separate p r group t) := by
  unfold separate
  have hgroup : ∀ g ∈ [group], ∀ i ∈ g, i ∈ among := by
    intro g hg
    rw [List.mem_singleton.1 hg]
    exact hsub
  refine (applyMethods_grows p.steppedMethods [group] hgroup t).bind ?_
  rintro ⟨changed, remaining⟩ v hrun growth told
  have hremaining : ∀ g ∈ remaining, ∀ i ∈ g, i ∈ among := by
    intro g hg i hi
    rcases (applyMethods_exposed p.steppedMethods hrun).2.mem g hg i hi with ⟨k, hk, hik⟩
    exact hgroup k hk i hik
  refine ((assignAll_grows remaining hremaining v).after growth told).bind
    fun lettered w _ growth' told' => ?_
  exact Grows.ok growth' told'

theorem separateAll_grows (groups : List (List Nat)) (hsub : ∀ g ∈ groups, ∀ i ∈ g, i ∈ among) :
    ∀ t : Tracker, Grows r among id t.state (separateAll p r groups t) := by
  induction groups with
  | nil => exact fun t => Grows.nothing _ _ t
  | cons group rest ih =>
      intro t
      rw [separateAll]
      refine (separate_grows (hsub group List.mem_cons_self) t).bind
        fun changed v _ growth told => ?_
      refine ((ih (fun g hg => hsub g (List.mem_cons_of_mem _ hg)) v).after growth told).bind
        fun others w _ growth' told' => ?_
      exact Grows.ok growth' told'

theorem completeGroups_grows (groups : List (List Nat))
    (hsub : ∀ g ∈ groups, ∀ i ∈ g, i ∈ among) :
    ∀ t : Tracker, Grows r among Prod.fst t.state (completeGroups r groups t) := by
  induction groups with
  | nil => exact fun t => Grows.nothing _ _ t
  | cons members rest ih =>
      intro t
      have hrest := ih (fun g hg => hsub g (List.mem_cons_of_mem _ hg))
      rw [completeGroups, get_bind]
      split
      · exact hrest t
      · refine (assignSuffixes_grows members (hsub members List.mem_cons_self) [] t).bind
          fun changed v _ growth told => ?_
        refine ((hrest v).after growth told).bind ?_
        rintro ⟨others, concerned⟩ w _ growth' told'
        exact Grows.ok growth' told'

/-! ## Passes -/

-- The members of crowded buckets are put in the order of the entries, so there are no others.
theorem Tracker.mem_of_mem_crowded {b : Buckets} {order g : List Nat} {keys : List String}
    (h : g ∈ Tracker.crowded b order keys) {i : Nat} (hi : i ∈ g) : i ∈ order := by
  rw [Tracker.crowded, Tracker.inOrder, List.mem_flatMap] at h
  rcases h with ⟨first, -, hg⟩
  rcases List.mem_filterMap.1 (List.mem_filter.1 hg).1 with ⟨key, -, hkey⟩
  simp only [Option.ite_none_left_eq_some, Option.some.injEq] at hkey
  rw [← hkey.2] at hi
  exact (List.mem_filter.1 hi).1

-- Completing the letters of some entries.
theorem completeSuffixes_grows (order touched : List Nat) (t : Tracker) :
    Grows r order Prod.fst t.state (completeSuffixes r order touched t) := by
  unfold completeSuffixes
  rw [get_bind]
  exact completeGroups_grows _ (fun g hg i hi => Tracker.mem_of_mem_crowded hg hi) t

/-- A single pass lets the entries grow that it reports. -/
theorem pass_grows (order touched : List Nat) (t : Tracker) :
    Grows r order PassReport.changed t.state (pass p r order touched t) := by
  unfold pass
  rw [get_bind]
  have hgroups : ∀ g ∈ t.collisions order touched, ∀ i ∈ g, i ∈ order :=
    fun g hg i hi => Tracker.mem_of_mem_crowded hg hi
  refine (separateAll_grows _ hgroups t).bind fun separated v _ growth told => ?_
  refine ((completeSuffixes_grows order _ v).after growth told).bind ?_
  rintro ⟨completed, concerned⟩ w _ growth' told'
  exact Grows.ok growth' told'

/-- Passes let entries grow. What has changed since some time before them is reported, if what had
    changed by their start was reported already. -/
theorem passes_grows (order : List Nat) (σ : States) (n : Nat) :
    ∀ (touched checked affected : List Nat) (t : Tracker), Growth order σ t.state →
      (∀ i, t.state i ≠ σ i → i ∈ affected) →
      Grows r order Prod.snd σ (passes p r order n touched checked affected t) := by
  induction n with
  | zero => exact fun _ _ _ t growth told => Grows.ok growth told
  | succ n ih =>
      intro touched checked affected t growth told
      rw [passes_succ]
      refine ((pass_grows order touched t).after growth told).bind fun s v _ growth' told' => ?_
      split
      · rename_i hdone
        rw [List.isEmpty_iff] at hdone
        refine Grows.ok growth' (fun i hi => ?_)
        rcases ListSet.mem_union.1 (told' i hi) with hmem | hmem
        · simp only [ListSet.mem_union, hmem, or_true]
        · rw [hdone] at hmem
          exact absurd hmem List.not_mem_nil
      · refine ih _ _ _ v growth' (fun i hi => ?_)
        rcases ListSet.mem_union.1 (told' i hi) with hmem | hmem
        · simp only [ListSet.mem_union, hmem, or_true]
        · simp only [ListSet.mem_union, hmem, true_or]

/-! ## Resolutions -/

-- What a resolution does after its passes writes no state.
theorem conclude_grows {among order : List Nat} {cited fresh : Nat} {checked affected : List Nat}
    {σ : States} {t : Tracker} (growth : Growth among σ t.state)
    (told : ∀ i, t.state i ≠ σ i → i ∈ affected) :
    Grows r among Resolution.affected σ (conclude order cited fresh checked affected t) := by
  by_cases hnone : t.collisions order checked = []
  · rw [conclude_of_nil hnone]
    exact Grows.ok growth told
  · rw [conclude_of_ne_nil hnone]
    exact Grows.stillAlike growth

/-- A resolution lets its entries grow and reports those whose states have changed. -/
theorem resolveWithin_grows (n : Nat) (entries : List Nat) (t : Tracker) :
    Grows r entries Resolution.affected t.state (resolveWithin n p r entries t) := by
  have hsub : ∀ i ∈ ListSet.lastOccurrences entries, i ∈ entries :=
    fun i hi => ListSet.mem_lastOccurrences.1 hi
  unfold resolveWithin
  simp only [modify_bind, get_bind]
  rw [← Tracker.state_begin r (ListSet.lastOccurrences entries) t]
  refine (trackAll_grows _ (t.begin r _)).bind fun _ v _ growth told => ?_
  -- Nothing has been written so far.
  have hstate : v.state = (t.begin r (ListSet.lastOccurrences entries)).state := by
    funext i
    by_contra hi
    exact List.not_mem_nil (told i hi)
  rw [← hstate]
  refine ((passes_grows _ v.state n _ _ [] v (Growth.refl _ v.state)
    (fun _ hi => absurd rfl hi)).mono hsub (fun _ _ hi => hi)).bind ?_
  rintro ⟨checked, affected⟩ w _ growth' told'
  exact conclude_grows growth' told'

/-- Nothing is ever taken back. A resolution by any means, with any renderer and from any tracker,
    is not refused a state that it writes. Whether it succeeds or fails, the states that it leaves
    carry all information of the states before, with no level lower, and only those of its entries
    have changed. If it succeeds it reports all entries whose states have changed. -/
theorem resolve_growth (p : Policy) (r : KeyRenderer ε) (entries : List Nat) (t : Tracker) :
    (∀ e, replyOf (resolve p r entries t) ≠ .error (.regress e)) ∧
    (∀ i, ((stateAfter (resolve p r entries t)).state i).covers (t.state i) = true ∧
      ∀ k, (t.state i).level k ≤ ((stateAfter (resolve p r entries t)).state i).level k) ∧
    (∀ i, i ∉ entries → (stateAfter (resolve p r entries t)).state i = t.state i) ∧
    ∀ a, replyOf (resolve p r entries t) = .ok a →
      ∀ i, (stateAfter (resolve p r entries t)).state i ≠ t.state i → i ∈ a.affected := by
  have hall : Grows r entries Resolution.affected t.state (resolve p r entries t) := by
    rw [resolve_eq_resolveWithin]
    exact resolveWithin_grows maxPasses entries t
  exact ⟨hall.not_regress, fun i => ⟨(hall.growth.grown i).covers, (hall.growth.grown i).level⟩,
    hall.growth.frame, fun _ ha _ hi => hall.mem_of_ne ha hi⟩

end Disambiguation

end CslProcessor
