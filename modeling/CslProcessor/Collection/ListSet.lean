/-!
# Lists as sets

Finite sets as lists without repetitions. Only membership and the number of members count; whoever
shows a set puts it in order first.

## Main definitions

* `ListSet.union`: All members of two sets.
* `ListSet.lastOccurrences`: The members of a list in the order of their last occurrences.
* `ListSet.sorted`: The numbers of a set in ascending order.

## Theorems

* `mem_union`: The members of a union.
* `mem_lastOccurrences`: Leaving out repetitions loses no member.
-/

namespace CslProcessor

namespace ListSet

variable {α : Type} [BEq α]

/-- All members of two sets. -/
def union (a b : List α) : List α :=
  a.foldr List.insert b

/-- The members of a list, each at the place of its last occurrence. -/
def lastOccurrences : List α → List α
  | [] => []
  | a :: as => if as.contains a then lastOccurrences as else a :: lastOccurrences as

/-- The set of the members of a list. -/
def ofList (as : List α) : List α :=
  union as []

/-- The numbers of a set in ascending order. -/
def sorted (ns : List Nat) : List Nat :=
  ns.mergeSort fun a b => decide (a ≤ b)

/-- The members of a union. -/
theorem mem_union [LawfulBEq α] {a b : List α} {x : α} : x ∈ union a b ↔ x ∈ a ∨ x ∈ b := by
  induction a with
  | nil => simp [union]
  | cons y rest ih =>
    rw [union, List.foldr_cons, List.mem_insert_iff, ← union, ih, List.mem_cons, or_assoc]

/-- Leaving out repetitions loses no member. -/
theorem mem_lastOccurrences [LawfulBEq α] {as : List α} {x : α} :
    x ∈ lastOccurrences as ↔ x ∈ as := by
  induction as with
  | nil => simp [lastOccurrences]
  | cons a rest ih =>
    rw [lastOccurrences]
    split
    · rename_i h
      rw [ih, List.mem_cons]
      exact ⟨Or.inr, fun h' => h'.elim (fun e => e ▸ (by simpa using h)) id⟩
    · simp [ih]

end ListSet

end CslProcessor
