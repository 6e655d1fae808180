import CslProcessor.Unicode.Property
import Mathlib.Data.List.Basic

/-!
# Classes of characters without a common member

White space and dashes stand between words and are no part of them. Beyond ASCII this is a fact
about the tables of the classes. No run of the one table meets a run of the other, and a member of a
table lies between the ends of some run.

## Main definitions

* `Table.apart`: No run of one table meets a run of another.
* `dashTable`, `wordTables`: The dashes beyond ASCII, and the tables of word characters.

## Theorems

* `Table.exists_run_of_mem`: A member lies between the ends of a run.
* `Table.mem_eq_false_of_apart`: Tables that are apart have no common member.
* `isWord_eq_false_of_isSpace`, `isWord_eq_false_of_mem_dashTable`: White space and dashes are no
  word characters.
-/

namespace CslProcessor

namespace Unicode

namespace Table

theorem le_of_search {runs : Array Run} {n lo hi : Nat} {r : Run}
    (h : search runs n lo hi = some r) : r ∈ runs ∧ r.first ≤ n ∧ n ≤ r.last := by
  fun_induction search runs n lo hi with
  | case1 => cases h
  | case2 lo hi _ r' _ _ ih => exact ih h
  | case3 lo hi _ r' _ _ _ ih => exact ih h
  | case4 lo hi _ r' hr' hfirst hlast _ =>
      rw [← Option.some.inj h]
      exact ⟨Array.mem_of_getElem? hr', Nat.le_of_not_lt hfirst, Nat.le_of_not_lt hlast⟩
  | case5 => cases h
  | case6 => cases h

/-- A member of a table lies between the ends of one of its runs. -/
theorem exists_run_of_mem {t : Table} {n : Nat} (h : t.mem n = true) :
    ∃ r ∈ t.runs.toList, r.first ≤ n ∧ n ≤ r.last := by
  rcases Option.isSome_iff_exists.1 h with ⟨r, hr⟩
  rcases le_of_search hr with ⟨hmem, hbounds⟩
  exact ⟨r, Array.mem_toList_iff.2 hmem, hbounds⟩

/-- Whether every run of a table ends before every run of another table, or begins behind it. -/
def apart (t u : Table) : Bool :=
  t.runs.toList.all fun r => u.runs.toList.all fun s => r.last < s.first || s.last < r.first

/-- Tables that are apart have no common member. -/
theorem mem_eq_false_of_apart {t u : Table} {n : Nat} (h : t.apart u = true)
    (ht : t.mem n = true) : u.mem n = false := by
  by_contra hu
  rw [Bool.not_eq_false] at hu
  rcases exists_run_of_mem ht with ⟨r, hr, hrn⟩
  rcases exists_run_of_mem hu with ⟨s, hs, hsn⟩
  have hapart := List.all_eq_true.1 (List.all_eq_true.1 h r hr) s hs
  rw [Bool.or_eq_true, decide_eq_true_eq, decide_eq_true_eq] at hapart
  omega

end Table

/-- The dashes beyond ASCII. -/
def dashTable : Table :=
  ⟨#[{ first := 0x2013, last := 0x2014, step := 1, image := [] }]⟩

/-- The tables that together hold the word characters beyond ASCII. -/
def wordTables : List Table :=
  [alphabeticTable, decimalTable, digitSignTable, numericSignTable]

-- Every table is read here only once, since the largest of them takes a while.
theorem apart_wordTables :
    ∀ u ∈ wordTables, spaceTable.apart u = true ∧ dashTable.apart u = true := by
  rw [wordTables, spaceTable, alphabeticTable, decimalTable, digitSignTable, numericSignTable]
  iterate 5 rw [Table.ofText, String.toList_ofList]
  decide +kernel

-- A character beyond ASCII that none of the tables of word characters holds.
theorem isWord_eq_false_of_apart {t : Table} {c : Char} (hc : ¬ c.toNat < 128)
    (ht : t.mem c.toNat = true) (hapart : ∀ u ∈ wordTables, t.apart u = true) :
    isWord c = false := by
  have hnone : ∀ u ∈ wordTables, u.mem c.toNat = false :=
    fun u hu => Table.mem_eq_false_of_apart (hapart u hu) ht
  have hunderscore : (c == '_') = false := by
    rw [beq_eq_false_iff_ne]
    rintro rfl
    exact hc (by decide)
  simp only [wordTables, List.forall_mem_cons, List.not_mem_nil] at hnone
  simp [isWord, isAlphanumeric, isAlphabetic, isNumeral, isDigit, isDecimal, hc, hnone,
    hunderscore]

/-- White space is no part of a word. -/
theorem isWord_eq_false_of_isSpace {c : Char} (h : isSpace c = true) : isWord c = false := by
  by_cases hc : c.toNat < 128
  · have hall : ∀ n ∈ List.range 128,
        isSpace (Char.ofNat n) = true → isWord (Char.ofNat n) = false := by decide +kernel
    have hn := hall c.toNat (List.mem_range.2 hc)
    rw [Char.ofNat_toNat] at hn
    exact hn h
  · rw [isSpace, if_neg hc] at h
    exact isWord_eq_false_of_apart hc h fun u hu => (apart_wordTables u hu).1

theorem toNat_of_mem_dashTable {c : Char} (h : dashTable.mem c.toNat = true) :
    ¬ c.toNat < 128 := by
  rcases Table.exists_run_of_mem h with ⟨r, hr, hfirst, -⟩
  rw [List.mem_singleton.1 hr] at hfirst
  dsimp only at hfirst
  omega

/-- A dash is no part of a word. -/
theorem isWord_eq_false_of_mem_dashTable {c : Char} (h : dashTable.mem c.toNat = true) :
    isWord c = false :=
  isWord_eq_false_of_apart (toNat_of_mem_dashTable h) h fun u hu => (apart_wordTables u hu).2

/-- A dash is no white space. -/
theorem isSpace_eq_false_of_mem_dashTable {c : Char} (h : dashTable.mem c.toNat = true) :
    isSpace c = false := by
  have hapart : dashTable.apart spaceTable = true := by
    rw [spaceTable, Table.ofText, String.toList_ofList]
    decide +kernel
  rw [isSpace, if_neg (toNat_of_mem_dashTable h)]
  exact Table.mem_eq_false_of_apart hapart h

end Unicode

end CslProcessor
