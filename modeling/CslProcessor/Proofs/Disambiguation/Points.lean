import CslProcessor.Proofs.Disambiguation.Growth
import CslProcessor.Proofs.Disambiguation.Plans

/-!
# Between the Operations of a Resolution

What holds at all points of a plan. Operations keep some properties of a tracker only for certain
entries: giving a state to an entry that is not tracked would start to track it. So a plan has to be
followed piece by piece, each piece starting from the tracker and with the answer that the pieces
before it have given. The pieces of a resolution give states to none but the members of the groups
that they are taken for, and all groups are made of the entries of the resolution.

## Main definitions

* `Plan.Keeps`: What holds at all points of a plan.
* `Kept`: What asking for keys and giving states to some entries keeps.

## Theorems

* `Plan.Keeps.of_ok`: It holds at the end, too.
* `Plan.Keeps.bind`: Plans in sequence.
* `passesPlan_keeps`, `separationPlan_keeps`: The plans of passes and of what comes after the
  entries are tracked.
* `trackAllPlan_keeps`: The plan of tracking entries.
-/

namespace CslProcessor

namespace Disambiguation

variable {ε α β : Type} {p : Policy} {r : KeyRenderer ε} {order : List Nat} {I : Tracker → Prop}

/-! ## Plans in sequence -/

/-- A property holds at all points of a plan if it holds where the plan starts. -/
def Plan.Keeps {m : Resolving ε α} (x : Plan r m) (I : Tracker → Prop) (t : Tracker) : Prop :=
  I t → ∀ u ∈ x.points t, I u

namespace Plan.Keeps

variable {m m' : Resolving ε α} {f : α → Resolving ε β} {t : Tracker}

/-- What holds at all points holds at the end. -/
theorem of_ok {x : Plan r m} (h : x.Keeps I t) (ht : I t) {a : α} {v : Tracker}
    (hm : m t = .ok a v) : I v := by
  rw [← x.run_eq] at hm
  rcases Work.run_eq_ok hm with rfl | hv
  · exact ht
  · exact h ht v hv

theorem pure (a : α) (t : Tracker) : (Plan.pure a : Plan r _).Keeps I t :=
  fun _ _ hu => absurd hu List.not_mem_nil

theorem op {o : Operation} (h : ∀ a u, I t → o.run r t = .ok a u → I u) :
    (Plan.op o : Plan r _).Keeps I t := by
  intro ht u hu
  rw [Plan.points, Plan.op, Work.points] at hu
  cases ho : o.run r t with
  | ok a v =>
      rw [ho] at hu
      rw [List.mem_singleton.1 hu]
      exact h a v ht ho
  | error e v =>
      rw [ho] at hu
      exact absurd hu List.not_mem_nil

/-- The second plan starts where the first one ended, and with its result. -/
theorem bind {x : Plan r m} {y : ∀ a, Plan r (f a)} (hx : x.Keeps I t)
    (hy : ∀ a v, m t = .ok a v → (y a).Keeps I v) : (x.bind y).Keeps I t := by
  intro ht u hu
  rw [Plan.points, Plan.bind, Work.points_bind, x.run_eq] at hu
  cases hm : m t with
  | ok a v =>
      rw [hm] at hu
      rcases List.mem_append.1 hu with hu | hu
      · exact hx ht u hu
      · exact hy a v hm (hx.of_ok ht hm) u hu
  | error e v =>
      rw [hm, List.append_nil] at hu
      exact hx ht u hu

theorem look {f : Tracker → Resolving ε β} {y : ∀ t, Plan r (f t)} (h : (y t).Keeps I t) :
    (Plan.look y).Keeps I t := h

theorem congr {h : m = m'} {x : Plan r m'} (hx : x.Keeps I t) : (Plan.congr h x).Keeps I t := hx

theorem ite {c : Prop} [Decidable c] {x : Plan r m} {y : Plan r m'} (hx : c → x.Keeps I t)
    (hy : ¬ c → y.Keeps I t) : (Plan.ite c x y).Keeps I t := by
  unfold Plan.Keeps Plan.points Plan.ite
  split
  · exact hx ‹c›
  · exact hy ‹¬ c›

theorem mapM {ι : Type} {f : ι → Resolving ε α} {y : ∀ i, Plan r (f i)}
    (h : ∀ i u, (y i).Keeps I u) (l : List ι) : ∀ t, (Plan.mapM y l).Keeps I t := by
  induction l with
  | nil => exact fun t => pure [] t
  | cons i rest ih =>
      exact fun t => congr <| (h i t).bind fun _ v _ => (ih v).bind fun _ w _ => pure _ w

end Plan.Keeps

theorem trackAllPlan_keeps (l : List Nat)
    (htrack : ∀ i ∈ l, ∀ t a u, I t → Operation.run r (.track i) t = .ok a u → I u) :
    ∀ t, (trackAllPlan r l).Keeps I t := by
  induction l with
  | nil => exact fun t => Plan.Keeps.pure _ t
  | cons i rest ih =>
      rcases List.forall_mem_cons.1 htrack with ⟨hi, hrest⟩
      exact fun t => (Plan.Keeps.op (hi t)).bind fun _ v _ => ih hrest v

/-! ## Steps -/

/-- What asking for keys and giving states to some entries keeps. -/
structure Kept (r : KeyRenderer ε) (order : List Nat) (I : Tracker → Prop) : Prop where
  key : ∀ i d t a u, I t → Operation.run r (.key i d) t = .ok a u → I u
  commit : ∀ i ∈ order, ∀ d t a u, I t → Operation.run r (.commit i d) t = .ok a u → I u

open Plan.Keeps

section

variable (h : Kept r order I)

include h

theorem distinctAfterPlan_keeps (step : EntryDisambiguation → EntryDisambiguation)
    (members : List Nat) (t : Tracker) : (distinctAfterPlan r step members).Keeps I t := by
  refine Plan.Keeps.bind (m := members.mapM fun i => keyOf r i (step (t.state i))) ?_
    fun _ v _ => pure _ v
  exact mapM (fun i u => op (o := .key i (step (t.state i))) (h.key i _ u)) members t

theorem commitAllPlan_keeps (l : List (Nat × EntryDisambiguation)) (hl : ∀ x ∈ l, x.1 ∈ order) :
    ∀ t, (commitAllPlan r l).Keeps I t := by
  induction l with
  | nil => exact fun t => pure [] t
  | cons x rest ih =>
      intro t
      rcases List.forall_mem_cons.1 hl with ⟨hx, hrest⟩
      exact (op (h.commit x.1 hx x.2 t)).bind fun _ v _ => (ih hrest v).bind fun _ w _ => pure _ w

theorem tryStepPlan_keeps {members : List Nat} (hsub : ∀ i ∈ members, i ∈ order)
    (step : EntryDisambiguation → EntryDisambiguation) (t : Tracker) :
    (tryStepPlan r members step).Keeps I t := by
  refine (distinctAfterPlan_keeps h step members t).bind fun _ v _ => look <| ite ?_ ?_
  · refine fun _ => commitAllPlan_keeps h _ (fun x hx => ?_) v
    rcases List.mem_map.1 hx with ⟨i, hi, rfl⟩
    exact hsub i hi
  · exact fun _ => pure [] v

theorem tryStepsPlan_keeps {members : List Nat} (hsub : ∀ i ∈ members, i ∈ order)
    (steps : List (EntryDisambiguation → EntryDisambiguation)) :
    ∀ t, (tryStepsPlan r members steps).Keeps I t := by
  induction steps with
  | nil => exact fun t => pure [] t
  | cons step rest ih =>
      exact fun t => (tryStepPlan_keeps h hsub step t).bind fun _ v _ => look <| ite
        (fun _ => pure _ v) (fun _ => (ih v).bind fun _ w _ => pure _ w)

/-! ## Means -/

theorem applyMethodPlan_keeps (method : DisambiguationMethod) (groups : List (List Nat))
    (hsub : ∀ g ∈ groups, ∀ i ∈ g, i ∈ order) :
    ∀ t, (applyMethodPlan p r method groups).Keeps I t := by
  induction groups with
  | nil => exact fun t => pure _ t
  | cons members rest ih =>
      intro t
      rcases List.forall_mem_cons.1 hsub with ⟨hmembers, hrest⟩
      exact (tryStepsPlan_keeps h hmembers _ t).bind fun _ v _ => look <|
        (ih hrest v).bind fun _ w _ => pure _ w

theorem applyMethodsPlan_keeps (methods : List DisambiguationMethod) :
    ∀ (groups : List (List Nat)), (∀ g ∈ groups, ∀ i ∈ g, i ∈ order) →
      ∀ t, (applyMethodsPlan p r methods groups).Keeps I t := by
  induction methods with
  | nil => exact fun _ _ t => pure _ t
  | cons method rest ih =>
      intro groups hsub t
      refine (applyMethodPlan_keeps h method groups hsub t).bind fun x v hrun => ?_
      -- What is left of the groups has no other members.
      have hleft : ∀ g ∈ x.2, ∀ i ∈ g, i ∈ order := by
        intro g hg i hi
        rcases (applyMethod_exposed groups hrun).2.mem g hg i hi with ⟨k, hk, hik⟩
        exact hsub k hk i hik
      exact (ih x.2 hleft v).bind fun _ w _ => pure _ w

/-! ## Letters -/

theorem giveLetterPlan_keeps {i : Nat} (hi : i ∈ order) (seen : List Int) (t : Tracker) :
    (giveLetterPlan r seen i).Keeps I t :=
  look <| ite (fun _ => pure _ t) (fun _ => op (h.commit i hi _ t))

theorem assignSuffixesPlan_keeps (members : List Nat) (hsub : ∀ i ∈ members, i ∈ order) :
    ∀ (seen : List Int) (t : Tracker), (assignSuffixesPlan r seen members).Keeps I t := by
  induction members with
  | nil => exact fun _ t => pure [] t
  | cons i rest ih =>
      intro seen t
      rcases List.forall_mem_cons.1 hsub with ⟨hi, hrest⟩
      exact congr <| (giveLetterPlan_keeps h hi seen t).bind fun _ v _ => look <|
        (ih hrest _ v).bind fun _ w _ => pure _ w

theorem assignAllPlan_keeps (groups : List (List Nat)) (hsub : ∀ g ∈ groups, ∀ i ∈ g, i ∈ order) :
    ∀ t, (assignAllPlan r groups).Keeps I t := by
  induction groups with
  | nil => exact fun t => pure [] t
  | cons members rest ih =>
      intro t
      rcases List.forall_mem_cons.1 hsub with ⟨hmembers, hrest⟩
      exact (assignSuffixesPlan_keeps h members hmembers [] t).bind fun _ v _ =>
        (ih hrest v).bind fun _ w _ => pure _ w

theorem separatePlan_keeps {group : List Nat} (hsub : ∀ i ∈ group, i ∈ order) (t : Tracker) :
    (separatePlan p r group).Keeps I t := by
  have hgroup : ∀ g ∈ [group], ∀ i ∈ g, i ∈ order := by
    intro g hg
    rw [List.mem_singleton.1 hg]
    exact hsub
  refine (applyMethodsPlan_keeps h p.steppedMethods [group] hgroup t).bind fun x v hrun => ?_
  have hremaining : ∀ g ∈ x.2, ∀ i ∈ g, i ∈ order := by
    intro g hg i hi
    rcases (applyMethods_exposed p.steppedMethods hrun).2.mem g hg i hi with ⟨k, hk, hik⟩
    exact hgroup k hk i hik
  exact (assignAllPlan_keeps h x.2 hremaining v).bind fun _ w _ => pure _ w

theorem separateAllPlan_keeps (groups : List (List Nat))
    (hsub : ∀ g ∈ groups, ∀ i ∈ g, i ∈ order) :
    ∀ t, (separateAllPlan p r groups).Keeps I t := by
  induction groups with
  | nil => exact fun t => pure [] t
  | cons group rest ih =>
      intro t
      rcases List.forall_mem_cons.1 hsub with ⟨hgroup, hrest⟩
      exact (separatePlan_keeps h hgroup t).bind fun _ v _ =>
        (ih hrest v).bind fun _ w _ => pure _ w

theorem completeGroupsPlan_keeps (groups : List (List Nat))
    (hsub : ∀ g ∈ groups, ∀ i ∈ g, i ∈ order) :
    ∀ t, (completeGroupsPlan r groups).Keeps I t := by
  induction groups with
  | nil => exact fun t => pure _ t
  | cons members rest ih =>
      intro t
      rcases List.forall_mem_cons.1 hsub with ⟨hmembers, hrest⟩
      refine look <| ite (fun _ => ih hrest t) fun _ => ?_
      exact (assignSuffixesPlan_keeps h members hmembers [] t).bind fun _ v _ =>
        (ih hrest v).bind fun _ w _ => pure _ w

/-! ## Passes -/

theorem passPlan_keeps (touched : List Nat) (t : Tracker) :
    (passPlan p r order touched).Keeps I t := by
  have hcrowded : ∀ {b : Buckets} {keys : List String},
      ∀ g ∈ Tracker.crowded b order keys, ∀ i ∈ g, i ∈ order :=
    fun g hg i hi => Tracker.mem_of_mem_crowded hg hi
  refine look <| (separateAllPlan_keeps h _ hcrowded t).bind fun _ v _ => ?_
  exact Plan.Keeps.bind (look (completeGroupsPlan_keeps h _ hcrowded v)) fun _ w _ => pure _ w

/-- The passes give states to none but the entries that they are made over. -/
theorem passesPlan_keeps (n : Nat) : ∀ (touched checked affected : List Nat) (t : Tracker),
    (passesPlan p r order n touched checked affected).Keeps I t := by
  induction n with
  | zero => exact fun _ _ _ t => pure _ t
  | succ n ih =>
      intro touched checked affected t
      exact congr <| (passPlan_keeps h touched t).bind fun s v _ =>
        ite (fun _ => pure _ v) (fun _ => ih s.changed _ _ v)

end

theorem concludePlan_keeps (cited fresh : Nat) (checked affected : List Nat) (t : Tracker) :
    (concludePlan r order cited fresh checked affected).Keeps I t := by
  refine congr <| look <| ite (fun _ => pure _ t) fun _ => ?_
  exact (op nofun).bind nofun

/-- What comes after the entries are tracked gives states to none but the entries of the
    resolution. -/
theorem separationPlan_keeps {entries : List Nat}
    (h : Kept r (ListSet.lastOccurrences entries) I) (fresh : List Nat) (t : Tracker) :
    (separationPlan p r entries fresh).Keeps I t :=
  (passesPlan_keeps h maxPasses fresh fresh [] t).bind fun x v _ =>
    concludePlan_keeps entries.length fresh.length x.1 x.2 v

end Disambiguation

end CslProcessor
