/-!
# Sorting by insertion

A list is put in order item by item. The run at its front is taken over first: the longest one
that never descends, or the longest one that always does, which is reversed. Every further item
goes behind the items that it is not less than; its place is found by halving.

For an order this is a stable sort. A relation that is no order has no right answer, but it has
this one.

## Main definitions

* `Insertion.splitRun`: The run at the front of a list.
* `Insertion.place`: Where an item goes.
* `Insertion.sort`: The list in order.

## Theorems

* `sort_perm`: Sorting rearranges.
-/

namespace CslProcessor

namespace Insertion

variable {α : Type} (lt : α → α → Bool)

/-- Cuts a list behind the longest run in which each item stands to the one before it as
    asked for. -/
def splitWhile (follows : α → α → Bool) : α → List α → List α × List α
  | _, [] => ([], [])
  | a, b :: rest =>
    if follows a b then
      let (run, others) := splitWhile follows b rest
      (b :: run, others)
    else ([], b :: rest)

/-- The run at the front of a list, put in ascending order, and the other items. -/
def splitRun : List α → List α × List α
  | [] => ([], [])
  | [a] => ([a], [])
  | a :: b :: rest =>
    if lt b a then
      let (run, others) := splitWhile (fun x y => lt y x) b rest
      ((a :: b :: run).reverse, others)
    else
      let (run, others) := splitWhile (fun x y => !lt y x) b rest
      (a :: b :: run, others)

/-- The place of an item among those from position `lo` up to, but not including, position `hi`:
    behind the middle one, unless the item is less than it. -/
def place (x : α) (sorted : List α) (lo hi : Nat) : Nat :=
  if lo < hi then
    match sorted[(lo + hi) / 2]? with
    | none => lo
    | some y =>
      if lt x y then place x sorted lo ((lo + hi) / 2)
      else place x sorted ((lo + hi) / 2 + 1) hi
  else lo
termination_by hi - lo

/-- Inserts an item into a list that is in order. -/
def insert (sorted : List α) (x : α) : List α :=
  let i := place lt x sorted 0 sorted.length
  sorted.take i ++ x :: sorted.drop i

/-- A list in order. -/
def sort (as : List α) : List α :=
  let (run, others) := splitRun lt as
  others.foldl (insert lt) run

theorem splitWhile_append (follows : α → α → Bool) (a : α) (as : List α) :
    (splitWhile follows a as).1 ++ (splitWhile follows a as).2 = as := by
  induction as generalizing a with
  | nil => rfl
  | cons b rest ih =>
    rw [splitWhile]
    split
    · simpa using ih b
    · rfl

theorem splitRun_perm (as : List α) :
    ((splitRun lt as).1 ++ (splitRun lt as).2).Perm as := by
  match as with
  | [] => exact .refl _
  | [a] => exact .refl _
  | a :: b :: rest =>
    rw [splitRun]
    split
    · have h := splitWhile_append (fun x y => lt y x) b rest
      refine ((List.reverse_perm _).append_right _).trans ?_
      simp [h]
    · have h := splitWhile_append (fun x y => !lt y x) b rest
      simp [h]

theorem insert_perm (sorted : List α) (x : α) : (insert lt sorted x).Perm (x :: sorted) := by
  rw [insert]
  refine List.perm_middle.trans ?_
  rw [List.take_append_drop]

/-- Sorting rearranges. -/
theorem sort_perm (as : List α) : (sort lt as).Perm as := by
  have key : ∀ (others run : List α), (others.foldl (insert lt) run).Perm (run ++ others) := by
    intro others
    induction others with
    | nil => intro run; simp
    | cons x rest ih =>
      intro run
      refine (ih _).trans ?_
      exact ((insert_perm lt run x).append_right rest).trans List.perm_middle.symm
  exact (key _ _).trans (splitRun_perm lt as)

end Insertion

end CslProcessor
