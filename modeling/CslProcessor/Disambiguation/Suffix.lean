/-!
# Letters behind a year

The letters that tell works of one year apart: `a` to `z`, then `aa`, `ab` and so on. Read as
numerals with the digits `a` for 1 to `z` for 26, they are the numbers from 1 on.

## Main definitions

* `letterAt`: The letter at an index of the alphabet.
* `letters`, `suffixLetters`: The letters at an index.
* `numeral`: The number that letters write.

## Theorems

* `numeral_letters`: The letters at an index write the number after it.
-/

namespace CslProcessor

namespace YearSuffix

/-- The letter at an index of the alphabet. -/
def letterAt (i : Nat) : Char :=
  Char.ofNat (97 + i)

/-- The digit that a letter writes. -/
def digitOf (c : Char) : Nat :=
  c.toNat - 96

/-- The letters at an index. -/
def letters (index : Nat) : List Char :=
  if index < 26 then [letterAt index]
  else letters (index / 26 - 1) ++ [letterAt (index % 26)]
termination_by index

/-- The letters at an index, as text. -/
def suffixLetters (index : Nat) : String :=
  String.ofList (letters index)

/-- The number that letters write, the digits running from 1 to 26. -/
def numeral (cs : List Char) : Nat :=
  cs.foldl (fun n c => 26 * n + digitOf c) 0

/-- A letter of the alphabet writes the digit after its index. -/
theorem digitOf_letterAt {i : Nat} (h : i < 26) : digitOf (letterAt i) = i + 1 := by
  have hall : ∀ j ∈ List.range 26, digitOf (letterAt j) = j + 1 := by decide
  exact hall i (List.mem_range.2 h)

/-- One more letter is one more digit. -/
theorem numeral_append_singleton (cs : List Char) (c : Char) :
    numeral (cs ++ [c]) = 26 * numeral cs + digitOf c := by
  simp [numeral, List.foldl_append]

/-- The letters at an index write the number after it. -/
theorem numeral_letters (index : Nat) : numeral (letters index) = index + 1 := by
  fun_induction letters index with
  | case1 index h => simp [numeral, digitOf_letterAt h]
  | case2 index h ih =>
    rw [numeral_append_singleton, ih, digitOf_letterAt (Nat.mod_lt _ (by decide))]
    omega

end YearSuffix

end CslProcessor
