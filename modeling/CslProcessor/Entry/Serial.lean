import CslProcessor.Unicode.Case

/-!
# Serial numbers

Identifiers such as DOI or ISBN, kept by their kinds. A kind is found whatever the case of its
letters, and the first of two identifiers of one kind counts.

## Main definitions

* `SerialNumbers`: Identifiers with their kinds.
* `SerialNumbers.ofPairs`: The identifiers that are not empty.
* `SerialNumbers.find?`: The identifier of a kind.
-/

namespace CslProcessor

/-- Identifiers with their kinds, in the order in which they were given. -/
structure SerialNumbers where
  /-- Kind and identifier. -/
  numbers : List (String × String) := []
  deriving Repr, DecidableEq, Inhabited

namespace SerialNumbers

/-- The identifiers among given ones that are not empty. -/
def ofPairs (pairs : List (String × String)) : SerialNumbers :=
  ⟨pairs.filter (!·.2.isEmpty)⟩

/-- A kind without regard to the case of its letters. -/
def lowered (kind : String) : List Char :=
  Unicode.toLower kind.toList

/-- The first identifier of a kind. -/
def find? (s : SerialNumbers) (kind : String) : Option String :=
  (s.numbers.find? fun p => lowered p.1 == lowered kind).map (·.2)

/-- Whether there is no identifier. -/
def isEmpty (s : SerialNumbers) : Bool :=
  s.numbers.isEmpty

end SerialNumbers

end CslProcessor
