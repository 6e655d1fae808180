import CslProcessor.Entry.Description
import CslProcessor.Name.List
import CslProcessor.Render.Basic
import CslProcessor.Sorting.Insertion
import CslProcessor.Sorting.Value

/-!
# Sorting entries

A sort key reads a variable or renders a macro. Names are compared by their parts, dates by year,
month and day, numbers by their value if they are whole, and all else by the collation key of its
text. A macro is rendered for sorting, without the letter behind the year.

## Main definitions

* `RenderContext.forSorting`: A context for the rendering of sort keys.
* `SortKey.value`: The value of an entry under a key.
* `sortEntries`: The positions of entries in the order of some keys.
-/

namespace CslProcessor

/-- The same context for the rendering of a sort key. -/
def RenderContext.forSorting (c : RenderContext) : RenderContext :=
  { c with sorting := true, disambiguation := c.disambiguation.withoutSuffix }

namespace SortValue

/-- The term of a name. -/
def nameTerm (demote : ParticleDemotion) (n : PersonName) : SortTerm :=
  let (a, b, c) := nameSortKey demote n
  .sequence [.text a, .text b, .text c]

/-- The parts of a name in sorted order, joined. -/
def nameLiteral (n : PersonName) : String :=
  let (a, b, c) := n.sortParts
  Text.joinWords [a, b, c]

/-- The value of a list of names. -/
def ofNames (demote : ParticleDemotion) (ns : List PersonName) : SortValue :=
  ⟨.names, .sequence (ns.map (nameTerm demote)),
    collationKey ("; ".intercalate (ns.map nameLiteral))⟩

/-- A date as far as it goes: year, month and day with hyphens. -/
def dateLiteral (d : CalendarDate) : String :=
  let day := (d.day.map fun n => Text.padded 2 n).toList
  let rest := match d.month with
    | none => []
    | some n => Text.padded 2 n :: day
  "-".intercalate (Text.padded 4 d.year :: rest)

/-- The value of a date. -/
def ofDate (d : CalendarDate) : SortValue :=
  let (year, month, day) := d.sortKey
  ⟨.date, .sequence [.number year, .number month, .number day], dateLiteral d⟩

/-- The value of a number. -/
def ofNumber (n : Int) (literal : String) : SortValue :=
  ⟨.number, .number n, literal⟩

/-- The value of a variable. -/
def ofValue (demote : ParticleDemotion) : Value → Except RenderError SortValue
  | .names ns => .ok (ofNames demote ns)
  | .date d => .ok (ofDate d.toCalendarDate)
  | .number n => do
    match ← RenderError.ofNumber n.integer with
    | some k => return ofNumber k n.raw
    | none => return ofText (collationKey n.raw)
  | .text t => .ok (ofText (collationKey t.text))
  | .serial s => .ok (ofText (collationKey s.describe))

end SortValue

namespace SortKey

open Render

/-- The value of an entry under a key, if it has one. -/
def value (key : SortKey) (e : Entry) (ctx : RenderContext) : Rendering (Option SortValue) := do
  match key.source with
  | .byMacro name =>
    let text ← renderMacro ctx.forSorting e name
    return if text.isEmpty then none else some (.ofText (collationKey text))
  | .byVariable name =>
    if name == "citation-number" then
      return ctx.cite.citationNumber.map fun n => .ofNumber n (toString n)
    match e.get? name with
    | none => return none
    | some v =>
      match SortValue.ofValue ctx.style.demoteParticle v with
      | .ok s => return some s
      | .error err => throw err

/-- The values of an entry under some keys. -/
def values (keys : List SortKey) (e : Entry) (ctx : RenderContext) :
    Rendering (List (Option SortValue)) :=
  keys.mapM fun key => key.value e ctx

end SortKey

/-- The positions of items in the order of their values, items that no key tells apart in the
    order in which they were given. -/
def sortPositions (keys : List SortKey) (rows : List (List (Option SortValue))) : List Nat :=
  let value := fun i => rows.getD i []
  Insertion.sort (fun i j => (compareValues keys (value i) (value j)).isLT)
    (List.range rows.length)

/-- The positions of entries in the order of some keys, each entry with what it is rendered
    with. -/
def sortEntries (keys : List SortKey) (items : List (Entry × RenderContext)) :
    Render.Rendering (List Nat) := do
  if keys.isEmpty then return List.range items.length
  let rows ← items.mapM fun (e, ctx) => SortKey.values keys e ctx
  return sortPositions keys rows

end CslProcessor
