import CslProcessor.Entry.Basic
import CslProcessor.Text.Quoted

/-!
# Stores of entries

Entries are held in the order in which they were added and are known by their position from then
on. No two of them have the same identifier, and a store holds only so many.

## Main definitions

* `EntryStore`: The entries.
* `EntryStore.add`: One more entry.
* `EntryStore.indexOf?`, `EntryStore.get?`: From identifiers to positions and back.
* `StoreError`: Why an entry cannot be added.

## Theorems

* `add_eq_ok_iff`: Which entries can be added, and what the store is like then.
-/

namespace CslProcessor

/-- Entries in the order in which they were added. -/
structure EntryStore where
  /-- How many entries there can be. -/
  maxEntries : Int := 10000
  /-- The entries. -/
  entries : List Entry := []
  deriving Repr, Inhabited

/-- Why an entry cannot be added. -/
inductive StoreError
  /-- There is an entry of the same identifier. -/
  | duplicate (id : String)
  /-- There is no room for an entry. -/
  | full (limit : Int) (id : String)
  deriving Repr, DecidableEq

/-- The message for an entry that cannot be added. -/
def StoreError.message : StoreError → String
  | duplicate id => "Duplicate entry id: " ++ Text.quoted id
  | full limit id =>
    "Entry store is full (" ++ toString limit ++ " entries); cannot add " ++ Text.quoted id

namespace EntryStore

/-- The identifiers in the order of the entries. -/
def ids (s : EntryStore) : List String :=
  s.entries.map (·.id)

/-- How many entries there are. -/
def size (s : EntryStore) : Nat :=
  s.entries.length

/-- The position of an identifier. -/
def indexOf? (s : EntryStore) (id : String) : Option Nat :=
  s.entries.findIdx? (·.id == id)

/-- The entry at a position. -/
def get? (s : EntryStore) (index : Nat) : Option Entry :=
  s.entries[index]?

/-- The entry of an identifier. -/
def find? (s : EntryStore) (id : String) : Option Entry :=
  s.entries.find? (·.id == id)

/-- Whether there is an entry of an identifier. -/
def contains (s : EntryStore) (id : String) : Bool :=
  (s.find? id).isSome

/-- The store with one more entry at its end. -/
def add (s : EntryStore) (e : Entry) : Except StoreError EntryStore :=
  if s.contains e.id then .error (.duplicate e.id)
  else if s.maxEntries ≤ s.size then .error (.full s.maxEntries e.id)
  else .ok { s with entries := s.entries ++ [e] }

/-- The store with several more entries at its end. -/
def addAll (s : EntryStore) : List Entry → Except StoreError EntryStore
  | [] => .ok s
  | e :: rest => do (← s.add e).addAll rest

/-- An entry can be added if its identifier is new and there is room, and stands at the end
    then. -/
theorem add_eq_ok_iff {s s' : EntryStore} {e : Entry} :
    s.add e = .ok s' ↔
      s.contains e.id = false ∧ s.size < s.maxEntries ∧
        s' = { s with entries := s.entries ++ [e] } := by
  unfold add
  grind

end EntryStore

end CslProcessor
