import CslProcessor.Style.Options

/-!
# What entries are compared by

The value that an entry has under a sort key is of a kind, and carries a term that values of its
kind are compared by and a literal text. Values of two kinds are compared by their texts, and so
are values of one kind whose terms cannot be ordered. An entry without a value stands first or
last, whatever the direction.

## Main definitions

* `SortTerm`, `SortTerm.compare?`: What values of one kind are compared by, as far as they can be.
* `SortKind`, `SortValue`, `SortValue.cmp`: Values and how they compare.
* `SortKey.cmp`: The comparison of two entries under one key.
* `compareValues`: The comparison under several keys, the first one that decides.
-/

namespace CslProcessor

/-- What values of one kind are compared by. -/
inductive SortTerm
  | number (n : Int)
  | text (s : String)
  /-- Compared from the front; a sequence stands behind its beginnings. -/
  | sequence (terms : List SortTerm)
  /-- Equal to itself and comparable to nothing else. -/
  | nothing
  deriving Repr, Inhabited

namespace SortTerm

mutual

/-- The order of two terms, if they have one. -/
def compare? : SortTerm → SortTerm → Option Ordering
  | number a, number b => some (compare a b)
  | text a, text b => some (compare a b)
  | sequence as, sequence bs => compareAll? as bs
  | nothing, nothing => some .eq
  | _, _ => none

/-- The order of two sequences: the first terms that differ decide, and then the length. -/
def compareAll? : List SortTerm → List SortTerm → Option Ordering
  | [], [] => some .eq
  | [], _ :: _ => some .lt
  | _ :: _, [] => some .gt
  | a :: as, b :: bs =>
    match compare? a b with
    | some .eq => compareAll? as bs
    | other => other

end

end SortTerm

/-- Kinds of sort values. -/
inductive SortKind
  | names
  | date
  | number
  | text
  /-- A kind that a caller brings along. -/
  | other (name : String)
  deriving Repr, DecidableEq, Inhabited

namespace SortKind

/-- The name of a kind. -/
def name : SortKind → String
  | names => "names"
  | date => "date"
  | number => "number"
  | text => "text"
  | other s => s

/-- The kind of a name. -/
def ofName (s : String) : SortKind :=
  if s == "names" then names
  else if s == "date" then date
  else if s == "number" then number
  else if s == "text" then text
  else other s

end SortKind

/-- The value of an entry under a sort key. -/
structure SortValue where
  /-- The kind. -/
  kind : SortKind
  /-- What values of the kind are compared by. -/
  term : SortTerm
  /-- What all values are compared by in the end. -/
  literal : String
  deriving Repr, Inhabited

namespace SortValue

/-- The value of a text. -/
def ofText (s : String) : SortValue :=
  ⟨.text, .text s, s⟩

/-- The comparison of two values. -/
def cmp (a b : SortValue) : Ordering :=
  if a.kind == b.kind then (a.term.compare? b.term).getD (compare a.literal b.literal)
  else compare a.literal b.literal

end SortValue

/-- How an entry without a value compares to one that has a value. -/
def MissingPolicy.order : MissingPolicy → Ordering
  | .first => .lt
  | .last => .gt

/-- A comparison in a direction. -/
def SortDirection.apply : SortDirection → Ordering → Ordering
  | .ascending, o => o
  | .descending, o => o.swap

/-- The comparison of two entries under one key. -/
def SortKey.cmp (key : SortKey) : Option SortValue → Option SortValue → Ordering
  | none, none => .eq
  | none, some _ => key.missing.order
  | some _, none => key.missing.order.swap
  | some a, some b => key.direction.apply (a.cmp b)

/-- The comparison of two entries under several keys: the first key that tells them apart
    decides. -/
def compareValues :
    List SortKey → List (Option SortValue) → List (Option SortValue) → Ordering
  | key :: keys, a :: as, b :: bs => (key.cmp a b).then (compareValues keys as bs)
  | _, _, _ => .eq

end CslProcessor
