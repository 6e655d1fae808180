import CslProcessor.Proofs.Collection.Repetition
import CslProcessor.Proofs.Disambiguation.Exposure
import Mathlib.Data.List.Pairwise

/-!
# Letters in Lockstep

Letters behind the year, from the choice of one letter up to the letters of several groups.

Going through a group in its order, an entry keeps its letter unless an entry before it has the
same, and otherwise gets the next one. `Lettering` says what that leaves of the states: nothing but
letters has changed, every member has one, and members with the same base key have different ones.
The entries that were gone through already take part in the induction as the past of the group.

## Main definitions

* `InOrder`: The letters of two entries do not give rise to further letters.
* `Lettering`: What giving letters to a group does to the states.

## Theorems

* `freeLetter_le`, `freeLetter_not_mem`, `mem_of_lt_freeLetter`: The least letter not in use.
* `nextLetter_spec`: The letter that is given is the next one.
* `lettersInOrder_iff`: What it takes for the letters of a group to be in order.
* `assignSuffixes_advances`, `assignAll_advances`: The letters of one group, and of several.
-/

namespace CslProcessor

namespace Disambiguation

variable {ε : Type} {p : Policy} {r : KeyRenderer ε} {order : List Nat}

/-! ## The least letter not in use -/

-- Among one more letters than are in use there is one that is not.
theorem exists_free (used : List Int) (start : Int) :
    ∃ n < used.length + 1, start + (n : Nat) ∉ used := by
  by_contra hall
  simp only [not_exists, not_and, Decidable.not_not] at hall
  have hsub : (List.range (used.length + 1)).map (fun n : Nat => start + n) ⊆ used := by
    intro k hk
    rcases List.mem_map.1 hk with ⟨n, hn, rfl⟩
    exact hall n (List.mem_range.1 hn)
  have hnd : ((List.range (used.length + 1)).map (fun n : Nat => start + n)).Nodup :=
    List.Nodup.map (fun a b hab => by omega) List.nodup_range
  have hle := (List.subperm_of_subset hnd hsub).length_le
  rw [List.length_map, List.length_range] at hle
  omega

-- The letter that is found is the first one that is not in use.
theorem freeLetter_eq (used : List Int) (start : Int) :
    ∃ n : Nat, freeLetter used start = start + n ∧ start + (n : Int) ∉ used ∧
      ∀ m < n, start + (m : Int) ∈ used := by
  rcases exists_free used start with ⟨n, hn, hfree⟩
  unfold freeLetter
  rw [List.find?_map]
  cases hf : (List.range (used.length + 1)).find?
      ((fun k => !used.contains k) ∘ fun n : Nat => start + n) with
  | none =>
      rw [List.find?_range_eq_none] at hf
      have hin := hf n hn
      simp only [Function.comp_apply, Bool.not_not, List.contains_iff_mem] at hin
      exact absurd hin hfree
  | some m =>
      rw [List.find?_range_eq_some] at hf
      simp only [Function.comp_apply, Bool.not_eq_eq_eq_not, Bool.not_true,
        List.contains_eq_mem, decide_eq_false_iff_not, Bool.not_not, decide_eq_true_eq] at hf
      exact ⟨m, rfl, hf.1, hf.2.2⟩

/-- The letter that is found is not before the one to start from. -/
theorem freeLetter_le (used : List Int) (start : Int) : start ≤ freeLetter used start := by
  rcases freeLetter_eq used start with ⟨n, heq, -, -⟩
  omega

/-- The letter that is found is not in use. -/
theorem freeLetter_not_mem (used : List Int) (start : Int) : freeLetter used start ∉ used := by
  rcases freeLetter_eq used start with ⟨n, heq, hfree, -⟩
  rw [heq]
  exact hfree

/-- All letters before the one that is found are in use. -/
theorem mem_of_lt_freeLetter {used : List Int} {start k : Int} (hle : start ≤ k)
    (hlt : k < freeLetter used start) : k ∈ used := by
  rcases freeLetter_eq used start with ⟨n, heq, -, hbefore⟩
  have hk : k = start + ((k - start).toNat : Int) := by omega
  rw [hk]
  exact hbefore _ (by omega)

/-! ## The next letter -/

-- Tracked entries have the same base key in the books if and only if they have.
theorem Tracker.Paired.base_eq_iff {t u : Tracker} (h : t.Paired r order u) {i j : Nat}
    (hi : i ∈ order) (hj : j ∈ order) :
    t.base.lookup i = t.base.lookup j ↔ SameBase r t.state i j := by
  rcases h.left.exists_base (h.tracked i hi) with ⟨bi, hbi⟩
  rcases h.left.exists_base (h.tracked j hj) with ⟨bj, hbj⟩
  have hki := h.left.base i bi hbi
  have hkj := h.left.base j bj hbj
  rw [hbi, hbj, Option.some.injEq]
  constructor
  · rintro rfl
    exact ⟨bi, hki, hkj⟩
  · rintro ⟨key, hi', hj'⟩
    rw [hki, Except.ok.injEq] at hi'
    rw [hkj, Except.ok.injEq] at hj'
    rw [hi', hj']

-- The letters that are in use are those of the other entries with the same base key.
theorem mem_usedLetters_iff {t u : Tracker} (h : t.Paired r order u) {i : Nat} (hi : i ∈ order)
    {n : Int} :
    n ∈ ((((t.base.lookup i).bind (t.baseBuckets.lookup ·)).getD []).filter (· != i)).filterMap
        (fun peer => (t.state peer).yearSuffix) ↔
      ∃ j ∈ order, j ≠ i ∧ SameBase r t.state i j ∧ (t.state j).yearSuffix = some n := by
  rcases h.left.exists_base (h.tracked i hi) with ⟨base, hbase⟩
  have hpeers : ((t.base.lookup i).bind (t.baseBuckets.lookup ·)).getD [] =
      t.baseBuckets.members base := by
    rw [hbase, Option.bind_some, Buckets.members]
  -- A bucket of base keys holds the entries with that base key.
  have hmem : ∀ j, j ∈ t.baseBuckets.members base ↔ j ∈ order ∧ SameBase r t.state i j := by
    intro j
    rw [h.left.baseBuckets.mem_iff]
    constructor
    · intro hj
      have htr : t.tracks j = true := by rw [← h.left.both j, hj, Option.isSome_some]
      have hord := h.left.mem_of_tracks htr
      exact ⟨hord, (h.base_eq_iff hi hord).1 (by rw [hbase, hj])⟩
    · rintro ⟨hj, hsame⟩
      rw [← (h.base_eq_iff hi hj).2 hsame, hbase]
  rw [hpeers, List.mem_filterMap]
  constructor
  · rintro ⟨j, hj, hn⟩
    rw [List.mem_filter, bne_iff_ne, hmem] at hj
    exact ⟨j, hj.1.1, hj.2, hj.1.2, hn⟩
  · rintro ⟨j, hj, hne, hsame, hn⟩
    exact ⟨j, by rw [List.mem_filter, bne_iff_ne, hmem]; exact ⟨⟨hj, hsame⟩, hne⟩, hn⟩

/-- The letter that is given is the next one. -/
theorem nextLetter_spec {t u : Tracker} (h : t.Paired r order u) {i : Nat} (hi : i ∈ order) :
    IsNextLetter r order t.state i (t.nextLetter i) where
  first_le := freeLetter_le _ _
  unused := fun j hj hne hsame heq =>
    freeLetter_not_mem _ _ ((mem_usedLetters_iff h hi).2 ⟨j, hj, hne, hsame, heq⟩)
  least := fun _ hle hlt => (mem_usedLetters_iff h hi).1 (mem_of_lt_freeLetter hle hlt)

-- There is only one next letter.
theorem IsNextLetter.unique {σ : States} {i : Nat} {m n : Int}
    (hm : IsNextLetter r order σ i m) (hn : IsNextLetter r order σ i n) : m = n := by
  have hle : ∀ {m n : Int}, IsNextLetter r order σ i m → IsNextLetter r order σ i n → m ≤ n := by
    intro m n hm hn
    by_contra hlt
    rcases hm.least n hn.first_le (Int.not_le.1 hlt) with ⟨j, hj, hne, hsame, heq⟩
    exact hn.unused j hj hne hsame heq
  exact Int.le_antisymm (hle hm hn) (hle hn hm)

theorem Tracker.Paired.symm {t u : Tracker} (h : t.Paired r order u) : u.Paired r order t where
  left := h.right
  right := h.left
  state := h.state.symm
  tracks := h.tracks.symm
  renderer := h.renderer.symm
  tracked := fun i hi => by
    rw [← h.tracks]
    exact h.tracked i hi

-- Trackers that agree give the same letter.
theorem Tracker.Paired.nextLetter_eq {t u : Tracker} (h : t.Paired r order u) {i : Nat}
    (hi : i ∈ order) : t.nextLetter i = u.nextLetter i := by
  have hspec := nextLetter_spec h.symm hi
  rw [← h.state] at hspec
  exact (nextLetter_spec h hi).unique hspec

/-! ## Letters in order -/

/-- Neither of two entries has a letter, or both have different ones. -/
def InOrder (σ : States) (i j : Nat) : Prop :=
  ((σ i).yearSuffix = none ↔ (σ j).yearSuffix = none) ∧
    ((σ i).yearSuffix = (σ j).yearSuffix → (σ i).yearSuffix = none)

theorem InOrder.congr {σ τ : States} {i j : Nat} (h : InOrder σ i j)
    (hi : (τ i).yearSuffix = (σ i).yearSuffix) (hj : (τ j).yearSuffix = (σ j).yearSuffix) :
    InOrder τ i j := by
  unfold InOrder
  rw [hi, hj]
  exact h

-- No letter occurs twice in a group if two members with the same one have none.
theorem nodup_letters_iff {σ : States} {members : List Nat} (hnd : members.Nodup) :
    (members.filterMap fun i => (σ i).yearSuffix).Nodup ↔
      ∀ i ∈ members, ∀ j ∈ members, i ≠ j →
        (σ i).yearSuffix = (σ j).yearSuffix → (σ i).yearSuffix = none := by
  rw [List.Nodup, List.pairwise_filterMap]
  constructor
  · intro h i hi j hj hij heq
    -- The relation is symmetric, so it does not matter which of the two members comes first.
    have hsymm : Std.Symm fun i j => ∀ m, (σ i).yearSuffix = some m →
        ∀ n, (σ j).yearSuffix = some n → m ≠ n :=
      ⟨fun i j hij n hn m hm hmn => hij m hm n hn hmn.symm⟩
    cases hn : (σ i).yearSuffix with
    | none => rfl
    | some n => exact absurd rfl (h.forall hi hj hij n hn n (by rw [← heq, hn]))
  · intro h
    refine hnd.pairwise_of_forall_ne (fun i hi j hj hij m hm n hn hmn => ?_)
    have hnone := h i hi j hj hij (by rw [hm, hn, hmn])
    rw [hm] at hnone
    exact Option.some_ne_none m hnone

/-- The letters of a group are in order if and only if they are for any two members. -/
theorem lettersInOrder_iff {t : Tracker} {members : List Nat} (hnd : members.Nodup) :
    t.lettersInOrder members = true ↔
      ∀ i ∈ members, ∀ j ∈ members, i ≠ j → InOrder t.state i j := by
  have hempty : (members.filterMap fun i => (t.state i).yearSuffix).isEmpty = true ↔
      ∀ i ∈ members, (t.state i).yearSuffix = none := by
    rw [List.isEmpty_iff, List.filterMap_eq_nil_iff]
  have hfull : (members.filterMap fun i => (t.state i).yearSuffix).length = members.length ↔
      ∀ i ∈ members, (t.state i).yearSuffix ≠ none := by
    rw [List.filterMap_length_eq_length]
    simp only [Option.isSome_iff_ne_none]
  rw [Tracker.lettersInOrder, Bool.or_eq_true, Bool.and_eq_true, beq_iff_eq, beq_iff_eq,
    length_eraseDups_eq_iff, hempty, hfull, nodup_letters_iff hnd]
  constructor
  · rintro (hnone | ⟨hsome, hne⟩) i hi j hj hij
    · exact ⟨by simp only [hnone i hi, hnone j hj], fun _ => hnone i hi⟩
    · exact ⟨iff_of_false (hsome i hi) (hsome j hj), hne i hi j hj hij⟩
  · intro h
    by_cases hnone : ∀ i ∈ members, (t.state i).yearSuffix = none
    · exact Or.inl hnone
    · -- One member has a letter, so all of them have.
      refine Or.inr ⟨?_, fun i hi j hj hij => (h i hi j hj hij).2⟩
      simp only [not_forall] at hnone
      rcases hnone with ⟨k, hk, hsome⟩
      intro i hi
      by_cases hik : i = k
      · rw [hik]
        exact hsome
      · exact fun hi' => hsome ((h i hi k hk hik).1.1 hi')

/-! ## Giving letters to a group -/

theorem SameBase.symm {σ : States} {i j : Nat} (h : SameBase r σ i j) : SameBase r σ j i := by
  rcases h with ⟨key, hi, hj⟩
  exact ⟨key, hj, hi⟩

theorem SameBase.congr {σ τ : States} {i j : Nat} (h : SameBase r σ i j)
    (hi : (τ i).withoutSuffix = (σ i).withoutSuffix)
    (hj : (τ j).withoutSuffix = (σ j).withoutSuffix) : SameBase r τ i j := by
  unfold SameBase
  rw [hi, hj]
  exact h

-- Giving an entry a letter changes nothing but letters.
theorem withoutSuffix_update (σ : States) (i : Nat) (n : Option Int) (j : Nat) :
    (Function.update σ i { σ i with yearSuffix := n } j).withoutSuffix = (σ j).withoutSuffix := by
  by_cases hj : j = i
  · rw [hj, Function.update_self]
    rfl
  · rw [Function.update_of_ne hj]

/-- What giving letters to a group does to the states, given the entries that were gone through
    before it, and the entries that got another letter. -/
structure Lettering (r : KeyRenderer ε) (past members changed : List Nat) (σ τ : States) :
    Prop where
  withoutSuffix : ∀ i, (τ i).withoutSuffix = (σ i).withoutSuffix
  frame : ∀ i, i ∉ members → τ i = σ i
  lettered : ∀ i ∈ members, (τ i).yearSuffix ≠ none
  distinct : ∀ i ∈ members, ∀ j ∈ past ++ members, i ≠ j → SameBase r σ i j →
    (τ i).yearSuffix ≠ (τ j).yearSuffix
  kept : ∀ i ∈ members, ∀ j ∈ past ++ members, i ≠ j → i ∉ changed → j ∉ changed →
    (σ i).yearSuffix ≠ (σ j).yearSuffix

/-- What giving a letter to one entry does to the states, given the entries that were gone through
    before it, and whether it got another letter. -/
structure LetterGiven (r : KeyRenderer ε) (past : List Nat) (i : Nat) (changed : Bool)
    (σ τ : States) : Prop where
  given : ∃ n : Int, τ = Function.update σ i { σ i with yearSuffix := some n } ∧
    ∀ j ∈ past, SameBase r σ i j → (σ j).yearSuffix ≠ some n
  kept : changed = false → τ = σ ∧ ∀ j ∈ past, (σ i).yearSuffix ≠ (σ j).yearSuffix

-- The letters seen so far are still those of the past, to which the entry belongs now.
theorem LetterGiven.mem_seen_iff {past : List Nat} {i : Nat} {changed : Bool} {σ τ : States}
    (h : LetterGiven r past i changed σ τ) (hi : i ∉ past) {seen : List Int}
    (hseen : ∀ n, n ∈ seen ↔ ∃ j ∈ past, (σ j).yearSuffix = some n) (n : Int) :
    n ∈ (τ i).yearSuffix.toList ++ seen ↔ ∃ j ∈ past ++ [i], (τ j).yearSuffix = some n := by
  rcases h.given with ⟨m, hτ, -⟩
  have hpast : ∀ j ∈ past, j ≠ i := by
    rintro j hj rfl
    exact hi hj
  rw [List.mem_append, Option.mem_toList, hseen, or_comm]
  simp only [List.mem_append, List.mem_singleton, or_and_right, exists_or, exists_eq_left]
  refine or_congr (exists_congr fun j => and_congr_right fun hj => ?_) Iff.rfl
  rw [hτ, Function.update_of_ne (hpast j hj)]

-- One entry after another.
theorem Lettering.cons {past rest changed : List Nat} {i : Nat} {a : Bool} {σ τ ρ : States}
    (hnd : (past ++ i :: rest).Nodup) (h : LetterGiven r past i a σ τ)
    (h' : Lettering r (past ++ [i]) rest changed τ ρ) :
    Lettering r past (i :: rest) (if a then i :: changed else changed) σ ρ := by
  rcases h.given with ⟨n, hτ, hn⟩
  rw [List.nodup_append, List.nodup_cons] at hnd
  have hw : ∀ j, (τ j).withoutSuffix = (σ j).withoutSuffix := by
    intro j
    rw [hτ]
    exact withoutSuffix_update σ i _ j
  have hi : (ρ i).yearSuffix = some n := by
    rw [h'.frame i hnd.2.1.1, hτ, Function.update_self]
  have hmem : ∀ k, k ∈ past ++ i :: rest → k ∈ past ++ [i] ++ rest := by
    intro k hk
    rw [List.append_assoc]
    exact hk
  constructor
  · intro j
    rw [h'.withoutSuffix, hw]
  · intro j hj
    rw [List.mem_cons, not_or] at hj
    rw [h'.frame j hj.2, hτ, Function.update_of_ne hj.1]
  · intro j hj
    rcases List.mem_cons.1 hj with rfl | hj
    · rw [hi]
      exact Option.some_ne_none n
    · exact h'.lettered j hj
  · intro j hj k hk hjk hsame
    have hsame' : SameBase r τ j k := hsame.congr (hw j) (hw k)
    rcases List.mem_cons.1 hj with rfl | hj
    · rcases List.mem_append.1 hk with hk | hk
      · -- An entry of the past still has the letter that was avoided.
        have hkrest : k ∉ rest := fun hmem =>
          hnd.2.2 k hk k (List.mem_cons_of_mem _ hmem) rfl
        rw [hi, h'.frame k hkrest, hτ, Function.update_of_ne (Ne.symm hjk)]
        exact Ne.symm (hn k hk hsame)
      · rcases List.mem_cons.1 hk with rfl | hk
        · exact absurd rfl hjk
        · exact Ne.symm (h'.distinct k hk j (by simp) (Ne.symm hjk) hsame'.symm)
    · exact h'.distinct j hj k (hmem k hk) hjk hsame'
  · -- Two entries that kept their letters: the later one has looked at the letter of the other.
    intro j hj k hk hjk hjc hkc
    have hold : ∀ m, m ∉ (if a then i :: changed else changed) → m ∉ changed ∧ τ m = σ m := by
      intro m hm
      cases a with
      | false => exact ⟨hm, by rw [(h.kept rfl).1]⟩
      | true =>
          rw [if_pos rfl, List.mem_cons, not_or] at hm
          exact ⟨hm.2, by rw [hτ, Function.update_of_ne hm.1]⟩
    rcases hold j hjc with ⟨hjc', hjτ⟩
    rcases hold k hkc with ⟨hkc', hkτ⟩
    rcases List.mem_cons.1 hj with rfl | hj
    · rcases List.mem_append.1 hk with hk | hk
      · cases a with
        | false => exact (h.kept rfl).2 k hk
        | true => exact absurd List.mem_cons_self hjc
      · rcases List.mem_cons.1 hk with rfl | hk
        · exact absurd rfl hjk
        · rw [← hjτ, ← hkτ]
          exact Ne.symm (h'.kept k hk j (by simp) (Ne.symm hjk) hkc' hjc')
    · rw [← hjτ, ← hkτ]
      exact h'.kept j hj k (hmem k hk) hjk hjc' hkc'

/-- Gives a letter to one entry, unless it has one that no entry of the past has; whether it got
    one. -/
def giveLetter (r : KeyRenderer ε) (seen : List Int) (i : Nat) : Resolving ε Bool := do
  let t ← get
  if (t.state i).yearSuffix.any (!seen.contains ·) then return false
  else commit r i { t.state i with yearSuffix := some (t.nextLetter i) }

-- Giving letters to a group is giving a letter to its first member and then to the others.
theorem assignSuffixes_cons (r : KeyRenderer ε) (seen : List Int) (i : Nat) (rest : List Nat) :
    assignSuffixes r seen (i :: rest) = (do
      let changed ← giveLetter r seen i
      let letter := ((← get).state i).yearSuffix
      let others ← assignSuffixes r (letter.toList ++ seen) rest
      return if changed then i :: others else others) := by
  funext t
  rw [assignSuffixes, giveLetter, bind_assoc, get_bind, get_bind]
  by_cases hkeep : (t.state i).yearSuffix.any (!seen.contains ·) = true
  · rw [if_pos hkeep, if_pos hkeep]
  · rw [if_neg hkeep, if_neg hkeep]

-- An entry that does not keep its letter has none, or shares it with an entry of the past.
theorem needs_letter {past rest : List Nat} {i : Nat} {σ : States}
    (hsub : (past ++ i :: rest).Sublist order) {seen : List Int}
    (hseen : ∀ n, n ∈ seen ↔ ∃ j ∈ past, (σ j).yearSuffix = some n)
    (hkeep : ¬ (σ i).yearSuffix.any (!seen.contains ·) = true) :
    (σ i).yearSuffix = none ∨ ∃ j, Before order j i ∧ (σ j).yearSuffix = (σ i).yearSuffix := by
  cases hn : (σ i).yearSuffix with
  | none => exact Or.inl rfl
  | some n =>
      rw [hn, Option.any_some, Bool.not_eq_true, Bool.not_eq_false', List.contains_iff_mem,
        hseen] at hkeep
      rcases hkeep with ⟨j, hj, heq⟩
      have hpair : [j, i].Sublist (past ++ i :: rest) :=
        (List.singleton_sublist.2 hj).append (List.singleton_sublist.2 List.mem_cons_self)
      exact Or.inr ⟨j, hpair.trans hsub, heq⟩

-- An entry keeps its letter or gets the next one. Either way it has a letter that no entry of the
-- past with the same base key has.
theorem giveLetter_advances {past rest : List Nat} {i : Nat}
    (hsub : (past ++ i :: rest).Sublist order) {seen : List Int} {t u : Tracker}
    (hseen : ∀ n, n ∈ seen ↔ ∃ j ∈ past, (t.state j).yearSuffix = some n)
    (h : t.Paired r order u) :
    Lockstep (fun a b v w => LetterGiven r past i a t.state v.state ∧
      Advances p r order (fun a => if a then [i] else []) t a b v w)
      (giveLetter r seen i t) (giveLetter r seen i u) := by
  have hi : i ∈ order := hsub.subset (List.mem_append_right _ List.mem_cons_self)
  unfold giveLetter
  rw [get_bind, get_bind, ← h.state, ← h.nextLetter_eq hi]
  by_cases hkeep : (t.state i).yearSuffix.any (!seen.contains ·) = true
  · -- It keeps its letter, since no entry of the past has that.
    rw [if_pos hkeep]
    rw [Option.any_eq_true] at hkeep
    rcases hkeep with ⟨n, hn, hfree⟩
    rw [Bool.not_eq_true', List.contains_eq_mem, decide_eq_false_iff_not, hseen] at hfree
    refine ⟨⟨⟨n, ?_, fun j hj _ heq => hfree ⟨j, hj, heq⟩⟩, fun _ => ⟨rfl, fun j hj heq => ?_⟩⟩,
      rfl, h, Tracker.Progress.refl t⟩
    · have hsame : ({ t.state i with yearSuffix := some n } : EntryDisambiguation) = t.state i := by
        rw [← hn]
      rw [hsame, Function.update_eq_self]
    · exact hfree ⟨j, hj, by rw [← heq, hn]⟩
  · -- It gets the next letter, which no other entry with the same base key has.
    rw [if_neg hkeep]
    have hnext := nextLetter_spec h hi
    refine (commit_advances (p := p) h hi hnext.covers
      (fun _ => Move.letter hi (needs_letter hsub hseen hkeep) hnext)).mono ?_
    rintro a b v w ⟨hs, hadv⟩
    refine ⟨⟨⟨t.nextLetter i, hs, fun j hj hsame => ?_⟩, ?_⟩, hadv⟩
    · by_cases hji : j = i
      · rw [hji]
        exact hnext.ne
      · exact hnext.unused j (hsub.subset (List.mem_append_left _ hj)) hji hsame
    · -- The next letter is another one, so the entry has changed.
      rintro rfl
      have hsame : v.state i = t.state i := hadv.2.2.state_eq List.not_mem_nil
      rw [hs, Function.update_self] at hsame
      exact absurd (congrArg EntryDisambiguation.yearSuffix hsame).symm hnext.ne

/-- Giving letters to a group advances. -/
theorem assignSuffixes_advances (hnd : order.Nodup) (members : List Nat) :
    ∀ (past : List Nat) (seen : List Int) (t u : Tracker), (past ++ members).Sublist order →
      (∀ n, n ∈ seen ↔ ∃ j ∈ past, (t.state j).yearSuffix = some n) → t.Paired r order u →
      Lockstep (fun a b v w => Lettering r past members a t.state v.state ∧
        Advances p r order id t a b v w)
        (assignSuffixes r seen members t) (assignSuffixes r seen members u) := by
  induction members with
  | nil =>
      intro past seen t u _ _ h
      refine ⟨⟨fun _ => rfl, fun _ _ => rfl, ?_, ?_, ?_⟩, rfl, h, Tracker.Progress.refl t⟩
      · exact fun i hi => absurd hi List.not_mem_nil
      · exact fun i hi => absurd hi List.not_mem_nil
      · exact fun i hi => absurd hi List.not_mem_nil
  | cons i rest ih =>
      intro past seen t u hsub hseen h
      have hndm : (past ++ i :: rest).Nodup := hnd.sublist hsub
      have hi : i ∈ order := hsub.subset (List.mem_append_right _ List.mem_cons_self)
      rw [assignSuffixes_cons]
      refine (giveLetter_advances (p := p) hsub hseen h).bind ?_
      rintro a _ v w ⟨hgiven, rfl, hvw, hprog⟩
      rw [get_bind, get_bind, ← hvw.state]
      have hsub' : (past ++ [i] ++ rest).Sublist order := by
        rw [List.append_assoc]
        exact hsub
      have hpast : i ∉ past :=
        fun hmem => (List.nodup_append.1 hndm).2.2 i hmem i List.mem_cons_self rfl
      refine (ih (past ++ [i]) _ v w hsub' (hgiven.mem_seen_iff hpast hseen) hvw).bind ?_
      rintro c _ v' w' ⟨hletters, rfl, hvw', hprog'⟩
      refine ⟨Lettering.cons hndm hgiven hletters, rfl, hvw', hprog.trans hprog' (fun j => ?_)⟩
      cases a <;> simp

-- Giving letters to a group that nothing came before.
theorem assignSuffixes_advances_nil (hnd : order.Nodup) {members : List Nat}
    (hsub : members.Sublist order) {t u : Tracker} (h : t.Paired r order u) :
    Lockstep (fun a b v w => Lettering r [] members a t.state v.state ∧
      Advances p r order id t a b v w)
      (assignSuffixes r [] members t) (assignSuffixes r [] members u) :=
  assignSuffixes_advances hnd members [] [] t u hsub (by simp) h

/-- Giving letters to several groups advances. Members of one group that kept their letters have
    had different ones. -/
theorem assignAll_advances (hnd : order.Nodup) (groups : List (List Nat))
    (hgroups : ∀ g ∈ groups, g.Sublist order) :
    ∀ t u : Tracker, t.Paired r order u →
      Lockstep (fun a b v w =>
        (∀ g ∈ groups, ∀ i ∈ g, ∀ j ∈ g, i ≠ j → i ∉ a → j ∉ a →
          (t.state i).yearSuffix ≠ (t.state j).yearSuffix) ∧
        Advances p r order id t a b v w) (assignAll r groups t) (assignAll r groups u) := by
  induction groups with
  | nil =>
      intro t u h
      exact ⟨fun g hg => absurd hg List.not_mem_nil, rfl, h, Tracker.Progress.refl t⟩
  | cons members rest ih =>
      intro t u h
      rw [assignAll]
      refine (assignSuffixes_advances_nil (p := p) hnd
        (hgroups members List.mem_cons_self) h).bind ?_
      rintro c _ v w ⟨hletters, rfl, hvw, hprog⟩
      refine (ih (fun g hg => hgroups g (List.mem_cons_of_mem _ hg)) v w hvw).bind ?_
      rintro c' _ v' w' ⟨hkept, rfl, hvw', hprog'⟩
      refine ⟨fun g hg i hi j hj hij hni hnj => ?_, rfl, hvw',
        hprog.trans hprog' (fun i => ListSet.mem_union)⟩
      rw [ListSet.mem_union, not_or] at hni hnj
      rcases List.mem_cons.1 hg with rfl | hg
      · exact hletters.kept i hi j hj hij hni.1 hnj.1
      · rw [← hprog.state_eq hni.1, ← hprog.state_eq hnj.1]
        exact hkept g hg i hi j hj hij hni.2 hnj.2

end Disambiguation

end CslProcessor
