import CslProcessor.Data.Basic
import CslProcessor.Entry.Basic
import CslProcessor.Style.Builtin.Registry

/-!
# Reading plain data

The means by which readers of domain values are put together, and what they complain about. A
field that is missing takes a default. A record may be held to the fields it is expected to have.

Truth values are read from any data: what is blank counts as false.

A reader that goes down into nested data is told of every part that it is smaller than the whole.

## Main definitions

* `ReadError`, `Reading`: Why data cannot be read, and the outcome of reading.
* `Readable`: Types whose values are read from plain data.
* `Data.get`, `Data.need`: The field of a record, with a default or required.
* `Data.onlyFields`: Refuses fields of other names.
* `Data.argumentsOf`: The arguments of a call.
* `Data.getWith`, `Data.givenWith`, `Data.itemsWith`: Descent into nested data.
-/

namespace CslProcessor

/-- Why plain data cannot be read. -/
inductive ReadError
  /-- A value is of the wrong kind, or a record lacks a field or has one too many. -/
  | wrongKind
  /-- A text is not one of the names asked for, or a list is not of the length asked for. -/
  | notAllowed
  /-- There is nothing of a name. -/
  | noSuchName
  /-- Something other than a record stands where a record must stand. -/
  | notRecord
  /-- There are fewer items than asked for. -/
  | tooShort
  | date (e : DateError)
  | span (e : SpanError)
  | value (e : UnsupportedValue)
  | sortSource (e : SortSourceError)
  | style (e : UnknownStyle)
  deriving Repr, DecidableEq

/-- The outcome of reading plain data. -/
abbrev Reading := Except ReadError

/-- Types whose values are read from plain data. -/
class Readable (α : Type) where
  /-- Reads a value. -/
  ofData : Data → Reading α

namespace Data

/-- Reads a field, with knowledge that it is smaller than the record. -/
def getWith {α : Type} (d : Data) (name : String) (default : α)
    (read : (v : Data) → sizeOf v < sizeOf d → Reading α) : Reading α :=
  match h : d.field? name with
  | some v => read v (sizeOf_lt_of_field? h)
  | none => .ok default

/-- Reads a field unless it is missing or without a value, with knowledge that it is smaller than
    the record. -/
def givenWith {α : Type} (d : Data) (name : String)
    (read : (v : Data) → sizeOf v < sizeOf d → Reading α) : Reading (Option α) :=
  match h : d.given? name with
  | some v => (read v (sizeOf_lt_of_field? (field?_of_given? h))).map some
  | none => .ok none

/-- Reads the items of a list, with knowledge that they are smaller than the list. -/
def itemsWith {α : Type} (d : Data) (read : (v : Data) → sizeOf v < sizeOf d → Reading α) :
    Reading (List α) :=
  match d, read with
  | list items, read => items.attach.mapM fun v => read v.1 (sizeOf_lt_of_mem v.2)
  | _, _ => .error .wrongKind

/-- A field, or a default for a missing one. -/
def get {α : Type} [Readable α] (d : Data) (name : String) (default : α) : Reading α :=
  d.getWith name default fun v _ => Readable.ofData v

/-- A field that is required. -/
def need {α : Type} [Readable α] (d : Data) (name : String) : Reading α :=
  match d.field? name with
  | some v => Readable.ofData v
  | none => .error .wrongKind

/-- The fields of a record. -/
def fields : Data → Reading (List (String × Data))
  | record fs => .ok fs
  | _ => .error .notRecord

/-- The items of a list. -/
def items (d : Data) : Reading (List Data) :=
  d.itemsWith fun v _ => .ok v

/-- Refuses anything but a record with fields of some names. -/
def onlyFields (d : Data) (names : List String) : Reading Unit :=
  match d with
  | record fs => if fs.all fun (k, _) => names.contains k then .ok () else .error .wrongKind
  | _ => .error .wrongKind

/-- The fields of a record, each read as a value. -/
def fieldsOf {α : Type} [Readable α] (d : Data) : Reading (List (String × α)) := do
  (← d.fields).mapM fun (k, v) => do return (k, ← Readable.ofData v)

/-- The arguments of a call in the order of their names, given by position as a list or by name as
    a record, or by both. An argument that is not given has its default. -/
def argumentsOf (names : List (String × Option Data)) (positional : List Data)
    (named : List (String × Data)) : Reading (List Data) := do
  let (first, rest) := names.splitAt positional.length
  if names.length < positional.length || named.any (fun (k, _) => (names.lookup k).isNone)
      || first.any (fun (k, _) => (named.lookup k).isSome) then throw .wrongKind
  let others ← rest.mapM fun (k, default) =>
    match (named.lookup k).or default with
    | some v => .ok v
    | none => .error .wrongKind
  return positional ++ others

/-- The arguments of a call given by position as a list, by name as a record, or alone. -/
def arguments (d : Data) (names : List (String × Option Data)) : Reading (List Data) :=
  match d with
  | record fs => argumentsOf names [] fs
  | list items => argumentsOf names items []
  | other => argumentsOf names [other] []

end Data

open Data

instance : Readable Data where
  ofData d := .ok d

instance : Readable String where
  ofData
    | text s => .ok s
    | _ => .error .wrongKind

instance : Readable Int where
  ofData
    | int n => .ok n
    | truth b => .ok (if b then 1 else 0)
    | _ => .error .wrongKind

instance : Readable Bool where
  ofData d := .ok !d.isBlank

instance {α : Type} [Readable α] : Readable (Option α) where
  ofData
    | null => .ok none
    | d => (Readable.ofData d).map some

instance {α : Type} [Readable α] : Readable (List α) where
  ofData d := d.itemsWith fun v _ => Readable.ofData v

instance {α β : Type} [Readable α] [Readable β] : Readable (α × β) where
  ofData d := do
    match ← d.items with
    | [a, b] => return (← Readable.ofData a, ← Readable.ofData b)
    | _ => throw .notAllowed

/-- Members of a kind are read from their names. -/
instance (priority := low) {α : Type} [Named α] : Readable α where
  ofData
    | text s =>
      match Named.ofName? s with
      | some a => .ok a
      | none => .error .notAllowed
    | _ => .error .notAllowed

end CslProcessor
