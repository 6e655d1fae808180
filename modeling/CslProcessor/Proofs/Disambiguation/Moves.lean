import CslProcessor.Disambiguation.Resolution
import CslProcessor.Proofs.Disambiguation.Bookkeeping
import Mathlib.Data.List.Sublists

/-!
# Moves

What telling entries apart can do to their states, said once.

A *move* gives one entry another state: it takes a step of some means of the policy, or it gives
the entry the next letter. A letter is given only to an entry that has none or to one whose letter
an entry cited before it has, and the next letter is the least one behind the letter that it has
which no other entry with the same base key has. All work on a tracker amounts to a sequence of
moves, and the entries it reports are the entries that moved.

## Main definitions

* `States`: The states of all entries.
* `Before`: One entry was cited before another.
* `SameBase`: Two entries have the same base key.
* `LooksAlike`: Two entries have the same key, which prints something.
* `IsNextLetter`: The letter that an entry gets next.
* `Move`, `Moves`: One change of state, and several of them.
* `Tracker.Progress`: Two trackers with moves between them.

## Theorems

* `Policy.covers_of_mem_steps`: A step takes nothing back.
* `Moves.append`: Moves after moves.
* `Moves.eq_of_not_mem`: An entry that did not move has the state it had.
* `Tracker.Progress.trans`: Progress after progress.
-/

namespace CslProcessor

-- A list of greater levels is nowhere lower than either of the two lists.
theorem EntryDisambiguation.le_getD_maxLevels (as bs : List Int) (i : Nat) :
    (∀ a, as[i]? = some a → a ≤ (maxLevels as bs).getD i 0) ∧
      ∀ b, bs[i]? = some b → b ≤ (maxLevels as bs).getD i 0 := by
  induction as generalizing bs i with
  | nil =>
      constructor
      · intro a ha
        simp at ha
      · intro b hb
        rw [maxLevels, List.getD_eq_getElem?_getD, List.getElem?_map, hb]
        exact Int.le_max_right 0 b
  | cons a as ih =>
      cases bs with
      | nil =>
          constructor
          · intro a' ha
            rw [maxLevels, List.getD_eq_getElem?_getD, List.getElem?_map, ha]
            · exact Int.le_max_left a' 0
            · exact List.cons_ne_nil a as
          · intro b hb
            simp at hb
      | cons b bs =>
          cases i with
          | zero =>
              constructor
              · intro a' ha
                rw [← Option.some.inj ha]
                exact Int.le_max_left a b
              · intro b' hb
                rw [← Option.some.inj hb]
                exact Int.le_max_right a b
          | succ i =>
              rcases ih bs i with ⟨ha, hb⟩
              exact ⟨fun a' h => by simpa [maxLevels] using ha a' (by simpa using h),
                fun b' h => by simpa [maxLevels] using hb b' (by simpa using h)⟩

-- What it takes for a state to carry all information of another.
theorem EntryDisambiguation.covers_iff {a b : EntryDisambiguation} :
    a.covers b = true ↔ b.extraNames ≤ a.extraNames ∧ (b.condition = true → a.condition = true) ∧
      suffixCovers a.yearSuffix b.yearSuffix = true ∧
      ∀ i l, b.givenNameLevels[i]? = some l → l ≤ a.level i := by
  simp only [covers, Bool.and_eq_true, decide_eq_true_eq, Bool.or_eq_true, Bool.not_eq_true',
    List.all_eq_true, and_assoc]
  refine and_congr_right fun _ => and_congr ?_ (and_congr_right fun _ => ?_)
  · cases b.condition <;> simp
  · constructor
    · intro h i l hl
      exact h (l, i) (List.mem_zipIdx_iff_getElem?.2 hl)
    · rintro h ⟨l, i⟩ hl
      exact h i l (List.mem_zipIdx_iff_getElem?.1 hl)

namespace Disambiguation

open EntryDisambiguation

/-- A step of any means takes nothing back. -/
theorem Policy.covers_of_mem_steps {p : Policy} {limit : Nat} {method : DisambiguationMethod}
    {step : EntryDisambiguation → EntryDisambiguation} (h : step ∈ p.steps limit method)
    (d : EntryDisambiguation) : (step d).covers d = true := by
  rcases covers_iff.1 (covers_refl d) with ⟨hextra, hcond, hsuffix, hlevels⟩
  rw [covers_iff]
  cases method with
  | conditional =>
      rw [Policy.steps, List.mem_singleton] at h
      subst h
      exact ⟨hextra, fun _ => rfl, hsuffix, hlevels⟩
  | addNames =>
      rcases List.mem_map.1 h with ⟨n, -, rfl⟩
      exact ⟨Int.le_max_left _ _, hcond, hsuffix, hlevels⟩
  | addGivenName =>
      rcases List.mem_map.1 h with ⟨levels, -, rfl⟩
      exact ⟨hextra, hcond, hsuffix, fun i => (le_getD_maxLevels levels _ i).2⟩
  | addYearSuffix =>
      rw [Policy.steps] at h
      exact absurd h (List.not_mem_nil)

/-- The states of all entries. -/
abbrev States := Nat → EntryDisambiguation

/-- One entry was cited before another. -/
def Before (order : List Nat) (j i : Nat) : Prop :=
  [j, i].Sublist order

variable {ε : Type}

/-- Two entries have the same base key. -/
def SameBase (r : KeyRenderer ε) (σ : States) (i j : Nat) : Prop :=
  ∃ key, r.key i (σ i).withoutSuffix = .ok key ∧ r.key j (σ j).withoutSuffix = .ok key

/-- Two entries look alike: their cites have the same text, and there is text in them. -/
def LooksAlike (r : KeyRenderer ε) (σ : States) (i j : Nat) : Prop :=
  ∃ key, key ≠ "" ∧ r.key i (σ i) = .ok key ∧ r.key j (σ j) = .ok key

/-- The first letter that an entry can get. -/
def firstLetter (d : EntryDisambiguation) : Int :=
  match d.yearSuffix with
  | none => 0
  | some n => n + 1

/-- The letter that an entry gets next: the least one behind the letter that it has which no other
    entry with the same base key has. -/
structure IsNextLetter (r : KeyRenderer ε) (order : List Nat) (σ : States) (i : Nat)
    (n : Int) : Prop where
  first_le : firstLetter (σ i) ≤ n
  unused : ∀ j ∈ order, j ≠ i → SameBase r σ i j → (σ j).yearSuffix ≠ some n
  least : ∀ k, firstLetter (σ i) ≤ k → k < n →
    ∃ j ∈ order, j ≠ i ∧ SameBase r σ i j ∧ (σ j).yearSuffix = some k

/-- One change of the state of one entry. -/
inductive Move (p : Policy) (r : KeyRenderer ε) (order : List Nat) (σ : States) :
    Nat → EntryDisambiguation → Prop
  /-- The entry takes a step of a means. -/
  | expose {i limit : Nat} {method : DisambiguationMethod}
      {step : EntryDisambiguation → EntryDisambiguation} (hi : i ∈ order)
      (hlimit : limit ≤ nameLimit r order) (hstep : step ∈ p.steps limit method)
      (hne : step (σ i) ≠ σ i) : Move p r order σ i (step (σ i))
  /-- The entry gets the next letter, since it has none or shares the one it has. -/
  | letter {i : Nat} {n : Int} (hi : i ∈ order)
      (hneeds : (σ i).yearSuffix = none ∨
        ∃ j, Before order j i ∧ (σ j).yearSuffix = (σ i).yearSuffix)
      (hnext : IsNextLetter r order σ i n) :
      Move p r order σ i { σ i with yearSuffix := some n }

/-- Several moves, with the entries that moved. -/
inductive Moves (p : Policy) (r : KeyRenderer ε) (order : List Nat) :
    List Nat → States → States → Prop
  /-- No move. -/
  | done (σ : States) : Moves p r order [] σ σ
  /-- One move, and more of them. -/
  | step {i : Nat} {d : EntryDisambiguation} {moved : List Nat} {σ τ : States}
      (hmove : Move p r order σ i d) (hrest : Moves p r order moved (Function.update σ i d) τ) :
      Moves p r order (i :: moved) σ τ

variable {p : Policy} {r : KeyRenderer ε} {order : List Nat}

theorem LooksAlike.congr {σ τ : States} {i j : Nat} (h : LooksAlike r σ i j) (hi : τ i = σ i)
    (hj : τ j = σ j) : LooksAlike r τ i j := by
  unfold LooksAlike
  rw [hi, hj]
  exact h

-- The next letter is not the one that the entry has.
theorem IsNextLetter.ne {σ : States} {i : Nat} {n : Int} (h : IsNextLetter r order σ i n) :
    (σ i).yearSuffix ≠ some n := by
  intro heq
  have hle := h.first_le
  simp only [firstLetter, heq] at hle
  omega

-- A state with the next letter takes nothing back.
theorem IsNextLetter.covers {σ : States} {i : Nat} {n : Int} (h : IsNextLetter r order σ i n) :
    ({ σ i with yearSuffix := some n } : EntryDisambiguation).covers (σ i) = true := by
  rcases covers_iff.1 (covers_refl (σ i)) with ⟨hextra, hcond, -, hlevels⟩
  rw [covers_iff]
  refine ⟨hextra, hcond, ?_, hlevels⟩
  have hle := h.first_le
  unfold firstLetter at hle
  cases hs : (σ i).yearSuffix with
  | none => rfl
  | some k =>
      rw [hs] at hle
      simp only [suffixCovers, decide_eq_true_eq]
      simp only at hle
      omega

theorem Moves.append {m m' : List Nat} {σ τ ρ : States} (h : Moves p r order m σ τ)
    (h' : Moves p r order m' τ ρ) : Moves p r order (m ++ m') σ ρ := by
  induction h with
  | done σ => exact h'
  | step hmove _ ih => exact Moves.step hmove (ih h')

/-- An entry that did not move has the state it had. -/
theorem Moves.eq_of_not_mem {m : List Nat} {σ τ : States} (h : Moves p r order m σ τ) {i : Nat}
    (hi : i ∉ m) : τ i = σ i := by
  induction h with
  | done σ => rfl
  | step hmove _ ih =>
      rw [List.mem_cons, not_or] at hi
      rw [ih hi.2, Function.update_of_ne hi.1]

/-- Two trackers with moves between them: what moved is what was reported, and the same entries
    are tracked for the same renderer. -/
structure Tracker.Progress (p : Policy) (r : KeyRenderer ε) (order changed : List Nat)
    (t u : Tracker) : Prop where
  moves : ∃ m, (∀ i, i ∈ m ↔ i ∈ changed) ∧ Moves p r order m t.state u.state
  tracks : u.tracks = t.tracks
  renderer : u.renderer = t.renderer

namespace Tracker

theorem Progress.refl (t : Tracker) : t.Progress p r order [] t :=
  ⟨⟨[], fun _ => Iff.rfl, Moves.done _⟩, rfl, rfl⟩

/-- Progress after progress. What is reported is whatever moved either time. -/
theorem Progress.trans {c c' c'' : List Nat} {t u v : Tracker} (h : t.Progress p r order c u)
    (h' : u.Progress p r order c' v) (hc : ∀ i, i ∈ c'' ↔ i ∈ c ∨ i ∈ c') :
    t.Progress p r order c'' v := by
  rcases h.moves with ⟨m, hm, hmoves⟩
  rcases h'.moves with ⟨m', hm', hmoves'⟩
  refine ⟨⟨m ++ m', fun i => ?_, hmoves.append hmoves'⟩, h'.tracks.trans h.tracks,
    h'.renderer.trans h.renderer⟩
  rw [List.mem_append, hm, hm', hc]

-- An entry that was not reported has the state it had.
theorem Progress.state_eq {c : List Nat} {t u : Tracker} (h : t.Progress p r order c u) {i : Nat}
    (hi : i ∉ c) : u.state i = t.state i := by
  rcases h.moves with ⟨m, hm, hmoves⟩
  exact hmoves.eq_of_not_mem (by rw [hm]; exact hi)

end Tracker

end Disambiguation

end CslProcessor
