/-!
# Plain data

The form in which entries, styles and settings come from outside and answers go back: truth
values, numbers, texts, lists and records. A record has named fields in an order.

A field or an item is smaller than what it is taken from, which is what a reader of nested data
goes down by.

## Main definitions

* `Data`: Plain data.
* `Data.field?`: The field of a record.
* `Data.isBlank`: Whether data counts as nothing where a truth value is asked for.

## Theorems

* `sizeOf_lt_of_field?`: A field is smaller than its record.
* `sizeOf_lt_of_mem`: An item is smaller than its list.
-/

namespace CslProcessor

/-- Plain data. -/
inductive Data
  /-- The absence of a value. -/
  | null
  | truth (b : Bool)
  | int (n : Int)
  /-- A number with digits behind the point: `digits` divided by a power of ten. -/
  | decimal (digits : Int) (places : Nat)
  | text (s : String)
  | list (items : List Data)
  | record (fields : List (String × Data))
  deriving Repr, Inhabited

namespace Data

/-- The field of a record, nothing for any other data. -/
def field? (d : Data) (name : String) : Option Data :=
  match d with
  | record fields => fields.lookup name
  | _ => none

/-- The field of a record, nothing if it is there without a value. -/
def given? (d : Data) (name : String) : Option Data :=
  match d.field? name with
  | some null => none
  | other => other

/-- Whether data counts as nothing where a truth value is asked for. -/
def isBlank : Data → Bool
  | null => true
  | truth b => !b
  | int n => n == 0
  | decimal digits _ => digits == 0
  | text s => s.isEmpty
  | list items => items.isEmpty
  | record fields => fields.isEmpty

/-- What an association list finds is one of its pairs. -/
theorem mem_of_lookup {fields : List (String × Data)} {name : String} {v : Data}
    (h : fields.lookup name = some v) : (name, v) ∈ fields := by
  induction fields with
  | nil => simp at h
  | cons p rest ih =>
    obtain ⟨k, w⟩ := p
    rw [List.lookup_cons] at h
    split at h
    · rename_i hk
      simp_all
    · exact List.mem_cons_of_mem _ (ih h)

/-- An item is smaller than its list. -/
theorem sizeOf_lt_of_mem {items : List Data} {v : Data} (h : v ∈ items) :
    sizeOf v < sizeOf (list items) := by
  have := List.sizeOf_lt_of_mem h
  simp only [list.sizeOf_spec]
  omega

/-- The value of a pair is smaller than the record that has it. -/
theorem sizeOf_lt_of_pair_mem {fields : List (String × Data)} {p : String × Data}
    (h : p ∈ fields) : sizeOf p.2 < sizeOf (record fields) := by
  have := List.sizeOf_lt_of_mem h
  cases p
  simp only [record.sizeOf_spec, Prod.mk.sizeOf_spec] at *
  omega

/-- A field is smaller than its record. -/
theorem sizeOf_lt_of_field? {d v : Data} {name : String} (h : d.field? name = some v) :
    sizeOf v < sizeOf d := by
  cases d <;> simp only [field?, reduceCtorEq] at h
  exact sizeOf_lt_of_pair_mem (mem_of_lookup h)

/-- A field that has a value is a field. -/
theorem field?_of_given? {d v : Data} {name : String} (h : d.given? name = some v) :
    d.field? name = some v := by
  unfold given? at h
  split at h
  · simp at h
  · exact h

end Data

end CslProcessor
