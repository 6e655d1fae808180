import CslProcessor.Sorting.Insertion
import Mathlib

/-!
# Sorting by insertion puts an order in order

Where the relation that a list is sorted by is an order on the members of the list, apart from ties,
sorting gives a list that never descends. Any two such lists of the same members agree at every
position, apart from ties. So the members alone decide how a list is sorted, and not the order in
which they come. Members that tie stay in the order in which they came.

Nothing is asked of the relation beyond the members, since a relation may well be an order on some
lists and none on others.

## Main definitions

* `Insertion.OrderOn`: A relation is an order on some items, apart from ties.
* `Insertion.InOrder`: A list never descends.
* `Insertion.StableOrder`: Nor do items change places that tie.

## Theorems

* `splitRun_stable`: The run at the front is in order.
* `place_spec`: Where an item goes.
* `sort_stable`: A list that was sorted is in order, and ties stand as they did before.
* `forall₂_tie_of_inOrder`: Two lists in order of the same members agree, apart from ties.
-/

namespace CslProcessor

namespace Insertion

variable {α : Type} {lt : α → α → Bool} {S : α → Prop}

/-- A relation is an order on some items, apart from ties: none of two items is less than the other
    both ways, and not being greater carries over. -/
structure OrderOn (lt : α → α → Bool) (S : α → Prop) : Prop where
  asymm : ∀ x y, S x → S y → lt x y = true → lt y x = false
  trans : ∀ x y z, S x → S y → S z → lt y x = false → lt z y = false → lt z x = false

/-- A list never descends. -/
def InOrder (lt : α → α → Bool) (l : List α) : Prop :=
  l.Pairwise fun x y => lt y x = false

/-- A list never descends, and items that tie stand as they did before. -/
def StableOrder (lt : α → α → Bool) (before : α → α → Prop) (l : List α) : Prop :=
  l.Pairwise fun x y => lt y x = false ∧ (lt x y = false → before x y)

theorem StableOrder.inOrder {before : α → α → Prop} {l : List α} (h : StableOrder lt before l) :
    InOrder lt l :=
  h.imp And.left

-- What is less than something that is not greater is less.
theorem OrderOn.lt_of_lt_of_le (h : OrderOn lt S) {x y z : α} (hx : S x) (hy : S y) (hz : S z)
    (hxy : lt x y = true) (hyz : lt z y = false) : lt x z = true := by
  by_contra hxz
  rw [Bool.not_eq_true] at hxz
  rw [h.trans y z x hy hz hx hyz hxz] at hxy
  exact Bool.false_ne_true hxy

theorem OrderOn.lt_trans (h : OrderOn lt S) {x y z : α} (hx : S x) (hy : S y) (hz : S z)
    (hxy : lt x y = true) (hyz : lt y z = true) : lt x z = true :=
  h.lt_of_lt_of_le hx hy hz hxy (h.asymm y z hy hz hyz)

/-! ## The run at the front -/

-- A run in which each item stands to the next as asked for does so throughout.
theorem splitWhile_pairwise (follows : α → α → Bool) (S : α → Prop)
    (htrans : ∀ x y z, S x → S y → S z → follows x y = true → follows y z = true →
      follows x z = true) (as : List α) :
    ∀ a, S a → (∀ b ∈ as, S b) →
      (a :: (splitWhile follows a as).1).Pairwise fun x y => follows x y = true := by
  induction as with
  | nil => exact fun a _ _ => List.pairwise_singleton _ a
  | cons b rest ih =>
      intro a ha hS
      rw [splitWhile]
      by_cases hab : follows a b = true
      · have hrun := ih b (hS b List.mem_cons_self) fun c hc => hS c (List.mem_cons_of_mem _ hc)
        rw [if_pos hab]
        refine List.pairwise_cons.2 ⟨fun c hc => ?_, hrun⟩
        rcases List.mem_cons.1 hc with rfl | hc
        · exact hab
        · have hsub : c ∈ rest := by
            rw [← splitWhile_append follows b rest]
            exact List.mem_append_left _ hc
          exact htrans a b c ha (hS b List.mem_cons_self) (hS c (List.mem_cons_of_mem _ hsub)) hab
            ((List.pairwise_cons.1 hrun).1 c hc)
      · rw [if_neg hab]
        exact List.pairwise_singleton _ a

-- The run at the front is the front of the list, or that in reverse.
theorem exists_front (lt : α → α → Bool) (as : List α) :
    ∃ front, front ++ (splitRun lt as).2 = as ∧
      ((splitRun lt as).1 = front ∨ (splitRun lt as).1 = front.reverse) := by
  match as with
  | [] => exact ⟨[], rfl, Or.inl rfl⟩
  | [a] => exact ⟨[a], rfl, Or.inl rfl⟩
  | a :: b :: rest =>
      rw [splitRun]
      split
      · exact ⟨_, congrArg (a :: b :: ·) (splitWhile_append _ b rest), Or.inr rfl⟩
      · exact ⟨_, congrArg (a :: b :: ·) (splitWhile_append _ b rest), Or.inl rfl⟩

/-- The run at the front of a list is in order. -/
theorem splitRun_stable (h : OrderOn lt S) {before : α → α → Prop} (as : List α)
    (hS : ∀ a ∈ as, S a) (hbefore : as.Pairwise before) :
    StableOrder lt before (splitRun lt as).1 := by
  match as with
  | [] => exact List.Pairwise.nil
  | [a] => exact List.pairwise_singleton _ a
  | a :: b :: rest =>
      have ha := hS a List.mem_cons_self
      have hb := hS b (List.mem_cons_of_mem _ List.mem_cons_self)
      have hrest : ∀ c ∈ b :: rest, S c := fun c hc => hS c (List.mem_cons_of_mem _ hc)
      rw [splitRun]
      by_cases hba : lt b a = true
      · -- A run that always descends is reversed, and has no ties.
        have hrun := splitWhile_pairwise (fun x y => lt y x) S
          (fun x y z hx hy hz hxy hyz => h.lt_trans hz hy hx hyz hxy) (b :: rest) a ha hrest
        rw [splitWhile, if_pos hba] at hrun
        rw [if_pos hba, StableOrder, List.pairwise_reverse]
        refine List.Pairwise.imp_of_mem (fun {x y} hx hy hxy => ?_) hrun
        have hsub : ∀ x ∈ a :: b :: (splitWhile (fun x y => lt y x) b rest).1, S x := by
          intro x hx
          refine hS x ?_
          rw [← splitWhile_append (fun x y => lt y x) b rest]
          simp only [List.mem_cons, List.mem_append] at hx ⊢
          tauto
        refine ⟨h.asymm y x (hsub y hy) (hsub x hx) hxy, fun htie => ?_⟩
        rw [hxy] at htie
        exact absurd htie (by simp only [Bool.true_eq_false, not_false_eq_true])
      · have hrun := splitWhile_pairwise (fun x y => !lt y x) S
          (fun x y z hx hy hz hxy hyz => by
            rw [Bool.not_eq_true'] at hxy hyz ⊢
            exact h.trans x y z hx hy hz hxy hyz) (b :: rest) a ha hrest
        rw [splitWhile, if_pos (by rw [Bool.not_eq_true', ← Bool.not_eq_true]; exact hba)] at hrun
        have hfront := hbefore
        rw [← splitWhile_append (fun x y => !lt y x) b rest, ← List.cons_append,
          ← List.cons_append] at hfront
        rw [if_neg hba]
        exact hrun.imp₂ (fun _ _ hxy hR => ⟨by rwa [Bool.not_eq_true'] at hxy, fun _ => hR⟩)
          (List.pairwise_append.1 hfront).1

/-! ## Items put in their places -/

/-- The items in front of the place of an item are not greater than it, and it is less than the
    items from there on. -/
theorem place_spec (h : OrderOn lt S) {x : α} (hx : S x) {sorted : List α}
    (hsorted : InOrder lt sorted) (hS : ∀ y ∈ sorted, S y) (lo hi : Nat) :
    lo ≤ hi → hi ≤ sorted.length → (∀ y ∈ sorted.take lo, lt x y = false) →
      (∀ y ∈ sorted.drop hi, lt x y = true) →
      (∀ y ∈ sorted.take (place lt x sorted lo hi), lt x y = false) ∧
        ∀ y ∈ sorted.drop (place lt x sorted lo hi), lt x y = true := by
  induction lo, hi using place.induct lt x sorted with
  | case1 lo hi hlt hnone =>
      intro _ hhi _ _
      rw [List.getElem?_eq_none_iff] at hnone
      omega
  | case2 lo hi hlt y hy hxy ih =>
      intro _ hhi hlo _
      rw [place, if_pos hlt, hy]
      simp only [hxy, if_true]
      -- What stands behind the middle item is not less than it.
      have hmid : (lo + hi) / 2 < sorted.length := by omega
      have hdrop : sorted.drop ((lo + hi) / 2) = y :: sorted.drop ((lo + hi) / 2 + 1) := by
        rw [List.drop_eq_getElem_cons hmid]
        rw [List.getElem?_eq_getElem hmid, Option.some.injEq] at hy
        rw [hy]
      have hpair := hsorted.drop (i := (lo + hi) / 2)
      rw [hdrop] at hpair
      refine ih (by omega) (by omega) hlo fun z hz => ?_
      have hzS : S z := hS z (List.mem_of_mem_drop hz)
      have hyS : S y := hS y (List.mem_of_getElem? hy)
      rw [hdrop] at hz
      rcases List.mem_cons.1 hz with rfl | hz
      · exact hxy
      · exact h.lt_of_lt_of_le hx hyS hzS hxy ((List.pairwise_cons.1 hpair).1 z hz)
  | case3 lo hi hlt y hy hxy ih =>
      intro _ hhi _ hdrop
      rw [Bool.not_eq_true] at hxy
      rw [place, if_pos hlt, hy]
      simp only [hxy, Bool.false_eq_true, if_false]
      -- What stands in front of the middle item is not greater than it.
      have hmid : (lo + hi) / 2 < sorted.length := by omega
      have htake : sorted.take ((lo + hi) / 2 + 1) = sorted.take ((lo + hi) / 2) ++ [y] := by
        rw [List.take_add_one, hy]
        rfl
      have hpair := hsorted.take (i := (lo + hi) / 2 + 1)
      rw [htake] at hpair
      refine ih (by omega) hhi (fun z hz => ?_) hdrop
      have hzS : S z := hS z (List.mem_of_mem_take hz)
      have hyS : S y := hS y (List.mem_of_getElem? hy)
      rw [htake] at hz
      rcases List.mem_append.1 hz with hz | hz
      · exact h.trans z y x hzS hyS hx ((List.pairwise_append.1 hpair).2.2 z hz y (by simp)) hxy
      · rw [List.mem_singleton.1 hz]
        exact hxy
  | case4 lo hi hle =>
      intro hlohi _ hlo hhi
      have heq : lo = hi := by omega
      rw [place, if_neg hle]
      exact ⟨hlo, heq ▸ hhi⟩

/-- An item that is inserted into a list in order leaves it in order, and stands behind those that
    it ties with. -/
theorem insert_stable (h : OrderOn lt S) {before : α → α → Prop} {x : α} (hx : S x)
    {sorted : List α} (hsorted : StableOrder lt before sorted) (hS : ∀ y ∈ sorted, S y)
    (hbefore : ∀ y ∈ sorted, before y x) : StableOrder lt before (insert lt sorted x) := by
  rcases place_spec h hx hsorted.inOrder hS 0 sorted.length (Nat.zero_le _) (Nat.le_refl _)
    (by simp) (by simp) with ⟨hfront, hback⟩
  have hsplit := hsorted
  rw [StableOrder, ← List.take_append_drop (place lt x sorted 0 sorted.length) sorted,
    List.pairwise_append] at hsplit
  rcases hsplit with ⟨htake, hdrop, hacross⟩
  rw [insert, StableOrder, List.pairwise_append, List.pairwise_cons]
  refine ⟨htake, ⟨fun z hz => ?_, hdrop⟩, fun y hy z hz => ?_⟩
  · have hlt := hback z hz
    refine ⟨h.asymm x z hx (hS z (List.mem_of_mem_drop hz)) hlt, fun htie => ?_⟩
    rw [hlt] at htie
    exact absurd htie (by simp only [Bool.true_eq_false, not_false_eq_true])
  · rcases List.mem_cons.1 hz with rfl | hz
    · exact ⟨hfront y hy, fun _ => hbefore y (List.mem_of_mem_take hy)⟩
    · exact hacross y hy z hz

/-- A list that was sorted is in order, and items that tie stand in it as they did before. -/
theorem sort_stable (h : OrderOn lt S) {before : α → α → Prop} (as : List α)
    (hS : ∀ a ∈ as, S a) (hbefore : as.Pairwise before) :
    StableOrder lt before (sort lt as) := by
  have hfold : ∀ (others run : List α), StableOrder lt before run →
      (∀ a ∈ run ++ others, S a) → others.Pairwise before →
      (∀ a ∈ run, ∀ b ∈ others, before a b) →
      StableOrder lt before (others.foldl (insert lt) run) := by
    intro others
    induction others with
    | nil => exact fun _ hrun _ _ _ => hrun
    | cons x rest ih =>
        intro run hrun hmem hothers hacross
        rw [List.pairwise_cons] at hothers
        have hx : S x := hmem x (by simp)
        have hrunS : ∀ a ∈ run, S a := fun a ha => hmem a (List.mem_append_left _ ha)
        refine ih (insert lt run x) (insert_stable h hx hrun hrunS
          (fun y hy => hacross y hy x List.mem_cons_self)) (fun a ha => hmem a ?_) hothers.2
          (fun a ha b hb => ?_)
        · rw [List.mem_append, (insert_perm lt run x).mem_iff] at ha
          simp only [List.mem_append, List.mem_cons] at ha ⊢
          tauto
        · rw [(insert_perm lt run x).mem_iff] at ha
          rcases List.mem_cons.1 ha with rfl | ha
          · exact hothers.1 b hb
          · exact hacross a ha b (List.mem_cons_of_mem _ hb)
  rcases exists_front lt as with ⟨front, hfront, hrun⟩
  have hsplit := hbefore
  rw [← hfront, List.pairwise_append] at hsplit
  have hmem : ∀ a, a ∈ (splitRun lt as).1 → a ∈ front := by
    intro a ha
    rcases hrun with heq | heq
    · rwa [heq] at ha
    · rwa [heq, List.mem_reverse] at ha
  exact hfold _ _ (splitRun_stable h as hS hbefore)
    (fun a ha => hS a ((splitRun_perm lt as).mem_iff.1 ha)) hsplit.2.1
    (fun a ha b hb => hsplit.2.2 a (hmem a ha) b hb)

/-! ## Lists of the same members -/

theorem OrderOn.irrefl (h : OrderOn lt S) {x : α} (hx : S x) : lt x x = false := by
  by_contra hlt
  rw [Bool.not_eq_false] at hlt
  have hnot := h.asymm x x hx hx hlt
  rw [hlt] at hnot
  exact Bool.false_ne_true hnot.symm

-- No more members are less than one than stand in front of it.
theorem InOrder.countP_lt_le (h : OrderOn lt S) {l : List α} (hl : InOrder lt l)
    (hS : ∀ a ∈ l, S a) {k : Nat} (hk : k < l.length) : l.countP (fun x => lt x l[k]) ≤ k := by
  have hback : (l.drop k).countP (fun x => lt x l[k]) = 0 := by
    have hpair := hl.drop (i := k)
    rw [List.drop_eq_getElem_cons hk] at hpair ⊢
    rw [List.countP_eq_zero]
    intro x hx
    rw [Bool.not_eq_true]
    rcases List.mem_cons.1 hx with rfl | hx
    · exact h.irrefl (hS _ (List.getElem_mem hk))
    · exact (List.pairwise_cons.1 hpair).1 x hx
  calc l.countP (fun x => lt x l[k])
      = (l.take k).countP (fun x => lt x l[k]) + (l.drop k).countP (fun x => lt x l[k]) := by
        rw [← List.countP_append, List.take_append_drop]
    _ ≤ k := by
        rw [hback, Nat.add_zero]
        exact List.countP_le_length.trans (List.length_take_le k l)

-- At least so many are not greater, and the one itself.
theorem InOrder.lt_countP (h : OrderOn lt S) {l : List α} (hl : InOrder lt l)
    (hS : ∀ a ∈ l, S a) {k : Nat} (hk : k < l.length) : k < l.countP (fun x => !lt l[k] x) := by
  have hfront : (l.take (k + 1)).countP (fun x => !lt l[k] x) = k + 1 := by
    have hlength : (l.take (k + 1)).length = k + 1 := by
      rw [List.length_take]
      omega
    have hpair := hl.take (i := k + 1)
    rw [← List.take_concat_get' l k hk] at hpair hlength ⊢
    rw [← hlength, List.countP_eq_length]
    intro x hx
    rw [Bool.not_eq_true']
    rcases List.mem_append.1 hx with hx | hx
    · exact (List.pairwise_append.1 hpair).2.2 x hx l[k] (by simp)
    · rw [List.mem_singleton.1 hx]
      exact h.irrefl (hS _ (List.getElem_mem hk))
  have hle := (List.take_sublist (k + 1) l).countP_le (p := fun x => !lt l[k] x)
  omega

/-- Two lists in order of the same members agree at every position, apart from ties. -/
theorem forall₂_tie_of_inOrder (h : OrderOn lt S) {l l' : List α} (hl : InOrder lt l)
    (hl' : InOrder lt l') (hperm : l.Perm l') (hS : ∀ a ∈ l, S a) :
    List.Forall₂ (fun x y => lt x y = false ∧ lt y x = false) l l' := by
  have hS' : ∀ a ∈ l', S a := fun a ha => hS a (hperm.mem_iff.2 ha)
  -- What stands at a position in one list is not less than what stands there in the other, since
  -- too many members would be less than the latter.
  have hle : ∀ {l l' : List α}, InOrder lt l → InOrder lt l' → l.Perm l' → (∀ a ∈ l, S a) →
      (∀ a ∈ l', S a) → ∀ k (hk : k < l.length) (hk' : k < l'.length),
        lt l[k] l'[k] = false := by
    intro l l' hl hl' hperm hS hS' k hk hk'
    by_contra hlt
    rw [Bool.not_eq_false] at hlt
    have hmono : l.countP (fun x => !lt l[k] x) ≤ l.countP (fun x => lt x l'[k]) := by
      refine List.countP_mono_left fun x hx hle => ?_
      rw [Bool.not_eq_true'] at hle
      by_contra hnot
      rw [Bool.not_eq_true] at hnot
      have hback := h.trans l'[k] x l[k] (hS' _ (List.getElem_mem hk')) (hS x hx)
        (hS _ (List.getElem_mem hk)) hnot hle
      rw [hlt] at hback
      exact Bool.false_ne_true hback.symm
    have hmany := hl.lt_countP h hS hk
    have hfew := hl'.countP_lt_le h hS' hk'
    rw [hperm.countP_eq] at hmono hmany
    rw [hperm.countP_eq] at hmono
    omega
  rw [List.forall₂_iff_get]
  refine ⟨hperm.length_eq, fun k hk hk' => ⟨?_, ?_⟩⟩
  · exact hle hl hl' hperm hS hS' k hk hk'
  · exact hle hl' hl hperm.symm hS' hS k hk' hk

end Insertion

end CslProcessor
