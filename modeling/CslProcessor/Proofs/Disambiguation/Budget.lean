import CslProcessor.Proofs.Disambiguation.Moves
import Mathlib

/-!
# How many moves there can be

Moves come to an end, whatever the renderer does. A step exposes something of an entry, and there
is only so much to expose. Between two steps letters are given. An entry may get several of them
in turn, but each new letter leaves fewer entries before it with the same or a later letter, and
the entries before it are left alone. So the entries, read from the first to the last, are the
digits of a number that gets smaller with every letter; and what is left to expose stands in front
of these digits.

## Main definitions

* `exposureLeft`: How much steps can still expose of an entry.
* `letterLeft`, `lettersLeft`: How much there is left to do about letters.
* `movesLeft`: A bound on the number of moves.

## Theorems

* `Policy.exposureLeft_step`: A step leaves less to expose, or changes nothing.
* `lettersLeft_lt`: The digits of an entry and of those behind it.
* `Move.movesLeft_lt`, `Moves.movesLeft_add_le`: Every move counts.
-/

namespace CslProcessor

namespace Disambiguation

open EntryDisambiguation (maxLevels)

/-! ## Exposing more -/

/-- How far levels are from those of given names in full, for so many names at least. -/
def levelsLeft (limit : Nat) (levels : List Int) : Nat :=
  3 * (limit - levels.length) + (levels.map fun l => (2 - l).toNat).sum

/-- How much steps can still expose of an entry with so many names at most. -/
def exposureLeft (limit : Nat) (d : EntryDisambiguation) : Nat :=
  (!d.condition).toNat + ((limit : Int) - d.extraNames).toNat +
    levelsLeft limit d.givenNameLevels

theorem levelsLeft_cons (limit : Nat) (l : Int) (levels : List Int) :
    levelsLeft (limit + 1) (l :: levels) = (2 - l).toNat + levelsLeft limit levels := by
  unfold levelsLeft
  rw [List.length_cons, Nat.add_sub_add_right, List.map_cons, List.sum_cons]
  omega

-- Levels below zero count as zero once anything is raised.
theorem levelsLeft_maxLevels_nil (limit : Nat) (old : List Int) :
    maxLevels [] old = old ∨ levelsLeft limit (maxLevels [] old) < levelsLeft limit old := by
  by_cases hneg : ∃ l ∈ old, l < 0
  · rcases hneg with ⟨l, hl, hlt⟩
    refine Or.inr ?_
    rw [maxLevels, levelsLeft, levelsLeft, List.length_map, List.map_map]
    refine Nat.add_lt_add_left (List.sum_lt_sum _ _ (fun k _ => ?_) ⟨l, hl, ?_⟩) _
    · simp only [Function.comp_apply]
      omega
    · simp only [Function.comp_apply]
      omega
  · refine Or.inl ?_
    rw [maxLevels]
    refine (List.map_congr_left fun l hl => ?_).trans (List.map_id _)
    have hle : ¬ l < 0 := fun hlt => hneg ⟨l, hl, hlt⟩
    rw [id_eq]
    omega

-- A level that was missing counts three, and none of the levels counts more than two.
theorem levelsLeft_maxLevels_of_nil {limit : Nat} {levels : List Int} (hne : levels ≠ [])
    (hlength : levels.length ≤ limit) :
    levelsLeft limit (maxLevels levels []) < levelsLeft limit [] := by
  have hraised : maxLevels levels [] = levels.map (max · 0) := by
    rw [maxLevels]
    exact hne
  have hsum : ((maxLevels levels []).map fun l => (2 - l).toNat).sum ≤ 2 * levels.length := by
    rw [hraised, List.map_map, Nat.mul_comm]
    refine (List.sum_le_card_nsmul _ 2 fun x hx => ?_).trans (by simp)
    rcases List.mem_map.1 hx with ⟨l, -, rfl⟩
    simp only [Function.comp_apply]
    omega
  have hlen : (maxLevels levels []).length = levels.length := by
    rw [hraised, List.length_map]
  have hpos := List.length_pos_iff.2 hne
  rw [levelsLeft, levelsLeft, hlen, List.length_nil, List.map_nil, List.sum_nil]
  omega

-- Raising levels leaves less to raise, or changes nothing.
theorem levelsLeft_maxLevels (levels : List Int) :
    ∀ (limit : Nat) (old : List Int), levels.length ≤ limit → (∀ l ∈ levels, l ≤ 2) →
      maxLevels levels old = old ∨
        levelsLeft limit (maxLevels levels old) < levelsLeft limit old := by
  induction levels with
  | nil => exact fun limit old _ _ => levelsLeft_maxLevels_nil limit old
  | cons a rest ih =>
      intro limit old hlength hle
      have ha := hle a List.mem_cons_self
      cases old with
      | nil => exact Or.inr (levelsLeft_maxLevels_of_nil (List.cons_ne_nil a rest) hlength)
      | cons b bs =>
          rw [List.length_cons] at hlength
          rcases Nat.exists_eq_add_of_le' (Nat.le_trans (Nat.le_add_left 1 _) hlength) with
            ⟨n, rfl⟩
          rw [maxLevels, levelsLeft_cons, levelsLeft_cons]
          rcases ih n bs (Nat.le_of_succ_le_succ hlength)
            (fun l hl => hle l (List.mem_cons_of_mem _ hl)) with heq | hlt
          · -- The other levels are as they were, so it depends on the first one.
            rw [heq]
            by_cases hab : a ≤ b
            · exact Or.inl (by rw [Int.max_eq_right hab])
            · refine Or.inr ?_
              omega
          · refine Or.inr ?_
            omega

-- The levels that are tried are as many as there are names at most, and none is beyond given names
-- in full.
theorem Policy.le_of_mem_givenNameLevels {p : Policy} {limit : Nat} {levels : List Int}
    (h : levels ∈ p.givenNameLevels limit) : levels.length ≤ limit ∧ ∀ l ∈ levels, l ≤ 2 := by
  unfold Policy.givenNameLevels at h
  split at h
  · exact absurd h List.not_mem_nil
  · rename_i hlimit
    rw [beq_iff_eq] at hlimit
    split at h
    · rcases List.mem_pair.1 h with rfl | rfl
      · exact ⟨by simp, fun l hl => by rw [List.eq_of_mem_replicate hl]; decide⟩
      · exact ⟨by simp, fun l hl => by rw [List.eq_of_mem_replicate hl]⟩
    · rw [List.mem_singleton.1 h]
      exact ⟨by simp, fun l hl => by rw [List.eq_of_mem_replicate hl]; decide⟩
    · rcases List.mem_pair.1 h with rfl | rfl
      · exact ⟨by rw [List.length_singleton]; omega, by simp⟩
      · exact ⟨by rw [List.length_singleton]; omega, by simp⟩
    · rw [List.mem_singleton.1 h]
      exact ⟨by rw [List.length_singleton]; omega, by simp⟩
    · rcases List.mem_flatMap.1 h with ⟨position, hposition, hlevel⟩
      rw [List.mem_range] at hposition
      rcases List.mem_map.1 hlevel with ⟨level, hmem, rfl⟩
      constructor
      · rw [List.length_append, List.length_replicate, List.length_singleton]
        omega
      · intro l hl
        rcases List.mem_append.1 hl with hl | hl
        · rw [List.eq_of_mem_replicate hl]
          decide
        · rw [List.mem_singleton.1 hl]
          rcases List.mem_pair.1 hmem with rfl | rfl
          · decide
          · exact Int.le_refl 2

/-- A step leaves less to expose, or changes nothing. -/
theorem Policy.exposureLeft_step {p : Policy} {limit bound : Nat} {method : DisambiguationMethod}
    {step : EntryDisambiguation → EntryDisambiguation} (hbound : limit ≤ bound)
    (h : step ∈ p.steps limit method) (d : EntryDisambiguation) :
    step d = d ∨ exposureLeft bound (step d) < exposureLeft bound d := by
  cases method with
  | conditional =>
      rw [Policy.steps, List.mem_singleton] at h
      subst h
      cases hc : d.condition with
      | true =>
          refine Or.inl ?_
          rw [Policy.useCondition, ← hc]
      | false =>
          refine Or.inr ?_
          simp only [exposureLeft, Policy.useCondition, hc, Bool.not_true, Bool.not_false,
            Bool.toNat_true, Bool.toNat_false]
          omega
  | addNames =>
      rcases List.mem_map.1 h with ⟨n, hn, rfl⟩
      rw [List.mem_range] at hn
      by_cases hle : ((n + 1 : Nat) : Int) ≤ d.extraNames
      · refine Or.inl ?_
        rw [Policy.showNames, Int.max_eq_left hle]
      · refine Or.inr ?_
        simp only [exposureLeft, Policy.showNames]
        omega
  | addGivenName =>
      rcases List.mem_map.1 h with ⟨levels, hlevels, rfl⟩
      rcases Policy.le_of_mem_givenNameLevels hlevels with ⟨hlength, hle⟩
      rcases levelsLeft_maxLevels levels bound d.givenNameLevels (hlength.trans hbound) hle with
        heq | hlt
      · refine Or.inl ?_
        rw [EntryDisambiguation.raiseLevels, heq]
      · refine Or.inr ?_
        simp only [exposureLeft, EntryDisambiguation.raiseLevels]
        omega
  | addYearSuffix =>
      rw [Policy.steps] at h
      exact absurd h List.not_mem_nil

/-! ## Giving letters -/

/-- How many of some entries have a letter or a later one. -/
def lettersFrom (σ : States) (l : List Nat) (n : Int) : Nat :=
  l.countP fun j => (σ j).yearSuffix.any (n ≤ ·)

/-- How much there is left to do about the letter of an entry: how many entries before it have the
    same or a later letter, and one more than there are if it has none. -/
def letterLeft (σ : States) (before : List Nat) (i : Nat) : Nat :=
  match (σ i).yearSuffix with
  | none => before.length + 1
  | some n => lettersFrom σ before n

/-- What there is left to do about the letters of entries, behind others; the number whose digits
    in a base are what is left of each of them. -/
def lettersLeft (base : Nat) (σ : States) : List Nat → List Nat → Nat
  | _, [] => 0
  | before, i :: rest =>
    letterLeft σ before i * base ^ rest.length + lettersLeft base σ (i :: before) rest

theorem lettersFrom_congr {σ τ : States} {l : List Nat}
    (h : ∀ j ∈ l, (τ j).yearSuffix = (σ j).yearSuffix) (n : Int) :
    lettersFrom τ l n = lettersFrom σ l n :=
  List.countP_congr fun j hj => by rw [h j hj]

-- Fewer entries have a later letter than one that is in use.
theorem lettersFrom_lt {σ : States} {l : List Nat} {j : Nat} {k n : Int} (hkn : k < n)
    (hj : j ∈ l) (hletter : (σ j).yearSuffix = some k) :
    lettersFrom σ l n < lettersFrom σ l k := by
  -- Whatever counts for the later letter counts for the earlier one, and the entry itself only
  -- for the earlier one.
  have hmono : ∀ l : List Nat, lettersFrom σ l n ≤ lettersFrom σ l k := by
    refine fun l => List.countP_mono_left fun x _ hx => ?_
    rw [Option.any_eq_true] at hx ⊢
    rcases hx with ⟨m, hm, hle⟩
    refine ⟨m, hm, ?_⟩
    rw [decide_eq_true_eq] at hle ⊢
    omega
  have hlate : (σ j).yearSuffix.any (n ≤ ·) = false := by
    rw [hletter, Option.any_some, decide_eq_false_iff_not]
    omega
  have hfrom : (σ j).yearSuffix.any (k ≤ ·) = true := by
    rw [hletter, Option.any_some, decide_eq_true_eq]
  rcases List.append_of_mem hj with ⟨first, rest, rfl⟩
  have hfirst := hmono first
  have hrest := hmono rest
  unfold lettersFrom at *
  rw [List.countP_append, List.countP_append, List.countP_cons_of_neg (by rw [hlate]; simp),
    List.countP_cons_of_pos (p := fun j => (σ j).yearSuffix.any (k ≤ ·)) hfrom]
  omega

theorem letterLeft_le (σ : States) (before : List Nat) (i : Nat) :
    letterLeft σ before i ≤ before.length + 1 := by
  unfold letterLeft
  split
  · exact Nat.le_refl _
  · exact Nat.le_succ_of_le List.countP_le_length

-- What is left of an entry depends on its letter and on those of the entries before it.
theorem letterLeft_congr {σ τ : States} {before : List Nat} {i : Nat}
    (hi : (τ i).yearSuffix = (σ i).yearSuffix)
    (hbefore : ∀ j ∈ before, (τ j).yearSuffix = (σ j).yearSuffix) :
    letterLeft τ before i = letterLeft σ before i := by
  unfold letterLeft
  rw [hi]
  split
  · rfl
  · exact lettersFrom_congr hbefore _

-- A smaller digit in front outweighs the digits behind it.
theorem leading_digit_lt {base x y u v : Nat} (hu : u < base) (hxy : x < y) :
    x * base + u < y * base + v := by
  have hle : (x + 1) * base ≤ y * base := Nat.mul_le_mul_right base hxy
  rw [Nat.succ_mul] at hle
  omega

/-- The digits of entries are less than one more digit in front of them. -/
theorem lettersLeft_lt {base : Nat} {σ : States} (rest : List Nat) :
    ∀ before : List Nat, before.length + rest.length < base →
      lettersLeft base σ before rest < base ^ rest.length := by
  induction rest with
  | nil =>
      intro before _
      exact Nat.one_pos
  | cons i rest ih =>
      -- A digit is at most one more than the number of entries before it, so less than the base.
      intro before hbase
      rw [List.length_cons] at hbase
      have hrest := ih (i :: before) (by rw [List.length_cons]; omega)
      have hdigit := letterLeft_le σ before i
      rw [lettersLeft, List.length_cons, Nat.pow_succ]
      calc letterLeft σ before i * base ^ rest.length + lettersLeft base σ (i :: before) rest
          < letterLeft σ before i * base ^ rest.length + base ^ rest.length :=
            Nat.add_lt_add_left hrest _
        _ = base ^ rest.length * (letterLeft σ before i + 1) := by
            rw [Nat.mul_comm, Nat.mul_succ]
        _ ≤ base ^ rest.length * base := Nat.mul_le_mul_left _ (by omega)

-- If there is less left of one entry, and the entries before it are as they were, the number is
-- smaller, whatever has become of the entries behind it.
theorem lettersLeft_lt_of_letterLeft_lt {base i : Nat} {σ τ : States} {rest : List Nat}
    (first : List Nat) :
    ∀ before : List Nat, before.length + (first ++ i :: rest).length < base →
      (∀ j ∈ first ++ before, (τ j).yearSuffix = (σ j).yearSuffix) →
      letterLeft τ (first.reverse ++ before) i < letterLeft σ (first.reverse ++ before) i →
      lettersLeft base τ before (first ++ i :: rest) <
        lettersLeft base σ before (first ++ i :: rest) := by
  induction first with
  | nil =>
      intro before hbase _ hlt
      rw [List.reverse_nil, List.nil_append] at hlt
      rw [List.nil_append, lettersLeft, lettersLeft]
      rw [List.nil_append, List.length_cons] at hbase
      have hrest : lettersLeft base τ (i :: before) rest < base ^ rest.length :=
        lettersLeft_lt rest (i :: before) (by rw [List.length_cons]; omega)
      -- The digit of the entry itself is smaller, and outweighs those behind it.
      exact leading_digit_lt hrest hlt
  | cons k first ih =>
      intro before hbase hsame hlt
      rw [List.cons_append, lettersLeft, lettersLeft]
      have hk : letterLeft τ before k = letterLeft σ before k :=
        letterLeft_congr (hsame k (by simp)) (fun j hj => hsame j (by simp [hj]))
      have hrest := ih (k :: before)
        (by rw [List.cons_append, List.length_cons] at hbase; rw [List.length_cons]; omega)
        (fun j hj => hsame j (by
          rcases List.mem_append.1 hj with hj | hj
          · simp [hj]
          · rcases List.mem_cons.1 hj with rfl | hj
            · simp
            · simp [hj]))
        (by rw [List.reverse_cons, List.append_assoc, List.singleton_append] at hlt; exact hlt)
      -- The digits before it are the same.
      rw [hk]
      exact Nat.add_lt_add_left hrest _

-- An entry that comes before another one stands before it in the order.
theorem Before.mem_of_append {first rest : List Nat} {i j : Nat}
    (hnd : (first ++ i :: rest).Nodup) (h : Before (first ++ i :: rest) j i) : j ∈ first := by
  rw [Before, List.sublist_append_iff] at h
  rcases h with ⟨l, l', hsplit, hl, hl'⟩
  have hout : i ∉ first ∧ i ∉ rest := by
    rw [List.nodup_append, List.nodup_cons] at hnd
    exact ⟨fun hi => hnd.2.2 i hi i List.mem_cons_self rfl, hnd.2.1.1⟩
  cases l with
  | cons k l =>
      rw [List.cons_append, List.cons.injEq] at hsplit
      rw [hsplit.1]
      exact hl.subset List.mem_cons_self
  | nil =>
      -- Otherwise it stands behind that one.
      rw [List.nil_append] at hsplit
      rw [← hsplit] at hl'
      by_cases hji : j = i
      · rw [hji, List.cons_sublist_cons] at hl'
        exact absurd (hl'.subset List.mem_cons_self) hout.2
      · have hrest := List.Sublist.of_cons_of_ne hji hl'
        exact absurd (hrest.subset (by simp)) hout.2

-- The next letter leaves less to do about an entry that has none or shares the one it has.
theorem letterLeft_update_lt {σ : States} {before : List Nat} {i : Nat} {n : Int}
    (hi : i ∉ before) (hfirst : firstLetter (σ i) ≤ n)
    (hneeds : (σ i).yearSuffix = none ∨ ∃ j ∈ before, (σ j).yearSuffix = (σ i).yearSuffix) :
    letterLeft (Function.update σ i { σ i with yearSuffix := some n }) before i <
      letterLeft σ before i := by
  have hnew : letterLeft (Function.update σ i { σ i with yearSuffix := some n }) before i =
      lettersFrom σ before n := by
    rw [letterLeft, Function.update_self]
    refine lettersFrom_congr (fun j hj => ?_) n
    rw [Function.update_of_ne]
    rintro rfl
    exact hi hj
  rw [hnew, letterLeft]
  unfold firstLetter at hfirst
  cases hletter : (σ i).yearSuffix with
  | none => exact Nat.lt_succ_of_le List.countP_le_length
  | some k =>
      rw [hletter] at hneeds hfirst
      rcases hneeds with hnone | ⟨j, hj, hshared⟩
      · exact absurd hnone (Option.some_ne_none k)
      · -- The entry that shares the letter does not count any more.
        exact lettersFrom_lt (Int.lt_of_add_one_le hfirst) hj hshared

/-! ## Moves -/

/-- A bound on the number of moves that can follow. -/
def movesLeft {ε : Type} (r : KeyRenderer ε) (order : List Nat) (σ : States) : Nat :=
  (order.map fun i => exposureLeft (nameLimit r order) (σ i)).sum *
    (order.length + 1) ^ order.length + lettersLeft (order.length + 1) σ [] order

variable {ε : Type} {p : Policy} {r : KeyRenderer ε} {order : List Nat}

-- A sum over entries gets smaller with the part of one of them.
theorem sum_update_lt {f : EntryDisambiguation → Nat} {σ : States} {i : Nat}
    {d : EntryDisambiguation} (hi : i ∈ order) (h : f d < f (σ i)) :
    (order.map fun j => f (Function.update σ i d j)).sum < (order.map fun j => f (σ j)).sum := by
  refine List.sum_lt_sum _ _ (fun j _ => ?_) ⟨i, hi, ?_⟩
  · by_cases hj : j = i
    · rw [hj, Function.update_self]
      exact Nat.le_of_lt h
    · rw [Function.update_of_ne hj]
  · rw [Function.update_self]
    exact h

-- And it stays the same with that part.
theorem sum_update_eq {f : EntryDisambiguation → Nat} {σ : States} {i : Nat}
    {d : EntryDisambiguation} (h : f d = f (σ i)) :
    (order.map fun j => f (Function.update σ i d j)).sum = (order.map fun j => f (σ j)).sum := by
  refine congrArg List.sum (List.map_congr_left fun j _ => ?_)
  by_cases hj : j = i
  · rw [hj, Function.update_self, h]
  · rw [Function.update_of_ne hj]

/-- Every move counts. -/
theorem Move.movesLeft_lt (hnd : order.Nodup) {σ : States} {i : Nat} {d : EntryDisambiguation}
    (h : Move p r order σ i d) :
    movesLeft r order (Function.update σ i d) < movesLeft r order σ := by
  have hdigits : ∀ τ : States, lettersLeft (order.length + 1) τ [] order <
      (order.length + 1) ^ order.length :=
    fun τ => lettersLeft_lt order [] (by rw [List.length_nil]; omega)
  unfold movesLeft
  cases h with
  | @expose limit method step hi hlimit hstep hne =>
      -- Less to expose outweighs whatever becomes of the letters.
      have hless := (Policy.exposureLeft_step hlimit hstep (σ i)).resolve_left hne
      exact leading_digit_lt (hdigits _) (sum_update_lt hi hless)
  | @letter n hi hneeds hnext =>
      -- A letter exposes nothing, and the letters before it stay as they are.
      rw [sum_update_eq (f := exposureLeft (nameLimit r order))
        (d := { σ i with yearSuffix := some n }) rfl]
      refine Nat.add_lt_add_left ?_ _
      rcases List.append_of_mem hi with ⟨first, rest, rfl⟩
      have hout : i ∉ first := by
        rw [List.nodup_append] at hnd
        exact fun hmem => hnd.2.2 i hmem i List.mem_cons_self rfl
      refine lettersLeft_lt_of_letterLeft_lt first [] (by rw [List.length_nil]; omega) ?_ ?_
      · intro j hj
        rw [List.append_nil] at hj
        have hne : j ≠ i := by
          rintro rfl
          exact hout hj
        rw [Function.update_of_ne hne]
      · rw [List.append_nil]
        refine letterLeft_update_lt (fun hmem => hout (List.mem_reverse.1 hmem)) hnext.first_le ?_
        refine hneeds.imp_right fun ⟨j, hbefore, hshared⟩ => ⟨j, ?_, hshared⟩
        exact List.mem_reverse.2 (hbefore.mem_of_append hnd)

/-- As many moves as there are count as many times. -/
theorem Moves.movesLeft_add_le (hnd : order.Nodup) {m : List Nat} {σ τ : States}
    (h : Moves p r order m σ τ) :
    movesLeft r order τ + m.length ≤ movesLeft r order σ := by
  induction h with
  | done σ => exact Nat.le_refl _
  | step hmove _ ih =>
      have hlt := hmove.movesLeft_lt hnd
      rw [List.length_cons]
      omega

-- Progress in which something has moved leaves fewer moves.
theorem Tracker.Progress.movesLeft_lt (hnd : order.Nodup) {c : List Nat} {t u : Tracker}
    (h : t.Progress p r order c u) (hc : c ≠ []) :
    movesLeft r order u.state < movesLeft r order t.state := by
  rcases h.moves with ⟨m, hm, hmoves⟩
  have hle := hmoves.movesLeft_add_le hnd
  cases m with
  | nil =>
      rcases List.exists_mem_of_ne_nil c hc with ⟨i, hi⟩
      exact absurd ((hm i).2 hi) List.not_mem_nil
  | cons i rest =>
      rw [List.length_cons] at hle
      omega

end Disambiguation

end CslProcessor
