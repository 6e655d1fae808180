import CslProcessor.Collection.Assoc
import CslProcessor.Collection.ListSet
import CslProcessor.Disambiguation.State

/-!
# Keeping track of what entries look like

The *key* of an entry is the text of its cite under its state, its *base key* the same text
without the letter behind the year. A tracker knows both keys of the entries it tracks, and for
every key the *bucket* of the entries that have it, so that entries that look alike are found
without looking at all others. Keys are rendered once for every entry and state.

The states belong to the tracker too. They are written by `Tracker.update?` alone, which refuses
to take information back.

## Main definitions

* `KeyRenderer`: How keys are rendered.
* `Tracker`: States, keys and buckets.
* `ResolveError`, `Resolving`: Work on a tracker.
* `keyOf`, `track`, `untrack`, `commit`: The operations.
* `Tracker.crowded`, `Tracker.collisions`: The buckets with more than one entry.
-/

namespace CslProcessor

namespace Disambiguation

/-- How the cite of an entry is rendered under a state. Two of these with the same number are
    taken to be the same. -/
structure KeyRenderer (ε : Type) where
  /-- The number. -/
  id : Nat
  /-- The text of the cite. -/
  key : Nat → EntryDisambiguation → Except ε String
  /-- The length of the longest list of names. -/
  nameCount : Nat → Nat

/-- A key with the entries that have it. -/
abbrev Buckets := Assoc String (List Nat)

/-- The states of entries with their keys. -/
structure Tracker where
  /-- The states that were written. -/
  states : Assoc Nat EntryDisambiguation := []
  /-- The renderer that the keys come from. -/
  renderer : Option Nat := none
  /-- The keys that were rendered. -/
  keys : Assoc (Nat × EntryDisambiguation) String := []
  /-- The keys of the tracked entries. -/
  current : Assoc Nat String := []
  /-- The base keys of the tracked entries. -/
  base : Assoc Nat String := []
  /-- The tracked entries by key. -/
  buckets : Buckets := []
  /-- The tracked entries by base key. -/
  baseBuckets : Buckets := []
  /-- What was rendered, latest first. -/
  calls : List (Nat × EntryDisambiguation) := []
  deriving Repr, Inhabited

/-- An entry would lose information. -/
structure Regress where
  /-- The entry. -/
  index : Nat
  /-- Its state. -/
  old : EntryDisambiguation
  /-- The state that was to replace it. -/
  new : EntryDisambiguation
  deriving Repr, DecidableEq

/-- The message for an entry that would lose information. -/
def Regress.message (e : Regress) : String :=
  "Disambiguation state of entry " ++ toString e.index ++ " would regress: " ++ e.old.describe
    ++ " -> " ++ e.new.describe

/-- Why entries cannot be told apart. -/
inductive ResolveError (ε : Type)
  /-- A cite cannot be rendered. -/
  | rendering (e : ε)
  /-- An entry would lose information. -/
  | regress (e : Regress)
  /-- Entries look alike in spite of all means. -/
  | stillAlike (indexes : List Nat)
  deriving Repr, DecidableEq

/-- Work on a tracker. What was done before a failure stays done. -/
abbrev Resolving (ε : Type) := EStateM (ResolveError ε) Tracker

namespace Buckets

/-- Puts an entry into the bucket of a key. -/
def add (key : String) (index : Nat) (b : Buckets) : Buckets :=
  Assoc.set key (List.insert index ((b.lookup key).getD [])) b

/-- Takes an entry out of the bucket of a key, and the bucket away if nothing is left in it. -/
def remove (key : String) (index : Nat) (b : Buckets) : Buckets :=
  match ((b.lookup key).getD []).erase index with
  | [] => Assoc.erase key b
  | members => Assoc.set key members b

end Buckets

namespace Tracker

/-- The state of an entry. -/
def state (t : Tracker) (index : Nat) : EntryDisambiguation :=
  (t.states.lookup index).getD .neutral

/-- The states that were written, in the order of the entries. -/
def sortedStates (t : Tracker) : List (Nat × EntryDisambiguation) :=
  t.states.mergeSort fun a b => decide (a.1 ≤ b.1)

/-- Writes the state of an entry, if it differs from the one it has and takes nothing back. -/
def update? (t : Tracker) (index : Nat) (value : EntryDisambiguation) :
    Except Regress (Option Tracker) :=
  if value == t.state index then .ok none
  else if value.covers (t.state index) then
    .ok (some { t with states := Assoc.set index value t.states })
  else .error ⟨index, t.state index, value⟩

/-- Forgets all keys, and whose they are. -/
def reset (t : Tracker) (renderer : Option Nat) : Tracker :=
  { states := t.states, calls := t.calls, renderer }

/-- Whether an entry is tracked. -/
def tracks (t : Tracker) (index : Nat) : Bool :=
  (t.current.lookup index).isSome

/-- Groups of entries in the order of their first members. -/
def inOrder (order : List Nat) (groups : List (List Nat)) : List (List Nat) :=
  order.flatMap fun i => groups.filter (·.head? == some i)

/-- The buckets of some keys that hold more than one entry, their members in a given order. What
    prints nothing looks like nothing else. -/
def crowded (b : Buckets) (order : List Nat) (keys : List String) : List (List Nat) :=
  inOrder order <| ((ListSet.ofList keys).filter (!·.isEmpty)).filterMap fun key =>
    let members := (b.lookup key).getD []
    if members.length ≤ 1 then none else some (order.filter members.contains)

/-- The groups of entries that look like one of some entries. -/
def collisions (t : Tracker) (order : List Nat) (indexes : List Nat) : List (List Nat) :=
  crowded t.buckets order (indexes.filterMap (t.current.lookup ·))

/-- How many different keys some tracked entries have. -/
def distinct (t : Tracker) (members : List Nat) : Nat :=
  (members.filterMap (t.current.lookup ·)).eraseDups.length

/-- The groups among some tracked entries that look alike, in the order of their first members. -/
def regroup (t : Tracker) (members : List Nat) : List (List Nat) :=
  let keyed := members.map fun i => (i, (t.current.lookup i).getD "")
  ((keyed.map (·.2)).eraseDups.filter (!·.isEmpty)).filterMap fun key =>
    let group := (keyed.filter (·.2 == key)).map (·.1)
    if group.length ≤ 1 then none else some group

/-- Puts an entry under its two keys. -/
def place (t : Tracker) (index : Nat) (key base : String) : Tracker :=
  { t with
    current := Assoc.set index key t.current
    base := Assoc.set index base t.base
    buckets := t.buckets.add key index
    baseBuckets := t.baseBuckets.add base index }

/-- Drops the keys of an entry. -/
def untrack (t : Tracker) (index : Nat) : Tracker :=
  { t with
    current := Assoc.erase index t.current
    base := Assoc.erase index t.base
    buckets := match t.current.lookup index with
      | some key => t.buckets.remove key index
      | none => t.buckets
    baseBuckets := match t.base.lookup index with
      | some key => t.baseBuckets.remove key index
      | none => t.baseBuckets }

end Tracker

variable {ε : Type}

/-- The text of the cite of an entry under a state, rendered unless it has been before. -/
def keyOf (r : KeyRenderer ε) (index : Nat) (value : EntryDisambiguation) :
    Resolving ε String := do
  match (← get).keys.lookup (index, value) with
  | some key => return key
  | none =>
    modify fun t => { t with calls := (index, value) :: t.calls }
    match r.key index value with
    | .ok key =>
      modify fun t => { t with keys := ((index, value), key) :: t.keys }
      return key
    | .error e => throw (.rendering e)

/-- Starts to track an entry. -/
def track (r : KeyRenderer ε) (index : Nat) : Resolving ε Unit := do
  let d := (← get).state index
  let key ← keyOf r index d
  let base ← keyOf r index d.withoutSuffix
  modify (·.place index key base)

/-- Starts to track several entries. -/
def trackAll (r : KeyRenderer ε) : List Nat → Resolving ε Unit
  | [] => return ()
  | i :: rest => do
    track r i
    trackAll r rest

/-- Gives an entry another state, and the keys that go with it. Tells whether the state is
    another one. -/
def commit (r : KeyRenderer ε) (index : Nat) (value : EntryDisambiguation) :
    Resolving ε Bool := do
  match (← get).update? index value with
  | .error e => throw (.regress e)
  | .ok none => return false
  | .ok (some t) =>
    set (t.untrack index)
    track r index
    return true

end Disambiguation

end CslProcessor
