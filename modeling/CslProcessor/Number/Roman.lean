import CslProcessor.Number.Basic

/-!
# Roman numerals

The numbers from 1 to 3999 in small Roman numerals, the greatest part first. All other integers
are written in Arabic figures.

## Main definitions

* `romanParts`: The parts of a numeral with their values.
* `roman`: An integer in Roman numerals.
-/

namespace CslProcessor

namespace NumberText

/-- The parts of a Roman numeral with their values, greatest first. -/
def romanParts : List (Nat × String) :=
  [(1000, "m"), (900, "cm"), (500, "d"), (400, "cd"), (100, "c"), (90, "xc"), (50, "l"),
    (40, "xl"), (10, "x"), (9, "ix"), (5, "v"), (4, "iv"), (1, "i")]

/-- Every part as often as it fits into what the parts before it left. -/
def romanFrom : List (Nat × String) → Nat → String
  | [], _ => ""
  | (value, part) :: parts, n =>
    String.join (List.replicate (n / value) part) ++ romanFrom parts (n % value)

/-- An integer in small Roman numerals, or in Arabic figures outside the range of the numerals. -/
def roman (n : Int) : String :=
  if 0 < n ∧ n ≤ 3999 then romanFrom romanParts n.toNat else toString n

end NumberText

end CslProcessor
