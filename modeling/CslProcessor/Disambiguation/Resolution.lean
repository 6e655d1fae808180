import CslProcessor.Disambiguation.Policy
import CslProcessor.Disambiguation.Tracker
import CslProcessor.Log.Record

/-!
# Telling entries apart

Entries whose cites look alike are told apart by the means of a policy, and those that still look
alike afterwards by letters behind the year, in the order in which they were cited first. A step
of a means is taken only if it tells more entries apart than could be told apart before.

All entries with the same base key share one sequence of letters: as soon as one of them has a
letter, all of them get one.

What is done for one group may make an entry look like one of another group. So the work goes on
in passes, each concerned with the entries that the one before has changed, until a pass changes
nothing or the number of passes is used up.

## Main definitions

* `applyMethod`, `separate`: The steps of one means, and all means for one group.
* `assignSuffixes`, `completeSuffixes`: The letters.
* `passes`: The passes.
* `resolve`: Tells entries apart.
* `Resolution`: What has become of the entries.
-/

namespace CslProcessor

namespace Disambiguation

variable {ε : Type}

/-- How many different keys entries would have after a step. -/
def distinctAfter (r : KeyRenderer ε) (step : EntryDisambiguation → EntryDisambiguation)
    (members : List Nat) : Resolving ε Nat := do
  let t ← get
  let keys ← members.mapM fun i => keyOf r i (step (t.state i))
  return keys.eraseDups.length

/-- Gives entries other states; the entries whose states have changed. -/
def commitAll (r : KeyRenderer ε) : List (Nat × EntryDisambiguation) → Resolving ε (List Nat)
  | [] => return []
  | (i, value) :: rest => do
    let changed ← commit r i value
    let others ← commitAll r rest
    return if changed then i :: others else others

/-- Takes a step for a group if it tells more entries apart. -/
def tryStep (r : KeyRenderer ε) (members : List Nat)
    (step : EntryDisambiguation → EntryDisambiguation) : Resolving ε (List Nat) := do
  let after ← distinctAfter r step members
  let t ← get
  -- A step that tells no more entries apart would only print more than is needed.
  if t.distinct members < after then commitAll r (members.map fun i => (i, step (t.state i)))
  else return []

/-- Tries steps for a group until all of its members are told apart. -/
def trySteps (r : KeyRenderer ε) (members : List Nat) :
    List (EntryDisambiguation → EntryDisambiguation) → Resolving ε (List Nat)
  | [] => return []
  | step :: rest => do
    let changed ← tryStep r members step
    if (← get).distinct members == members.length then return changed
    let others ← trySteps r members rest
    return ListSet.union changed others

/-- The length of the longest list of names in a group. -/
def nameLimit (r : KeyRenderer ε) (members : List Nat) : Nat :=
  (members.map r.nameCount).foldl max 0

/-- Tries the steps of one means for several groups; the entries whose states have changed, and
    the groups that look alike still. -/
def applyMethod (p : Policy) (r : KeyRenderer ε) (method : DisambiguationMethod) :
    List (List Nat) → Resolving ε (List Nat × List (List Nat))
  | [] => return ([], [])
  | members :: rest => do
    let changed ← trySteps r members (p.steps (nameLimit r members) method)
    let left := (← get).regroup members
    let (others, further) ← applyMethod p r method rest
    return (ListSet.union changed others, left ++ further)

/-- Tries several means one after the other. -/
def applyMethods (p : Policy) (r : KeyRenderer ε) :
    List DisambiguationMethod → List (List Nat) → Resolving ε (List Nat × List (List Nat))
  | [], groups => return ([], groups)
  | method :: rest, groups => do
    let (changed, left) ← applyMethod p r method groups
    let (others, remaining) ← applyMethods p r rest left
    return (ListSet.union changed others, remaining)

/-- The least letter from a given one on that is not in use. Among one more letters than are in
    use there is one. -/
def freeLetter (used : List Int) (start : Int) : Int :=
  (((List.range (used.length + 1)).map fun n => start + (n : Nat)).find?
    (!used.contains ·)).getD start

/-- The next letter for an entry, behind the one it has and none that another entry with the same
    base key has. -/
def Tracker.nextLetter (t : Tracker) (index : Nat) : Int :=
  let peers := ((t.base.lookup index).bind (t.baseBuckets.lookup ·)).getD []
  let used := (peers.filter (· != index)).filterMap fun peer => (t.state peer).yearSuffix
  freeLetter used (match (t.state index).yearSuffix with
    | none => 0
    | some n => n + 1)

/-- Gives a letter to every entry that has none, and another one to an entry whose letter an
    entry before it has. -/
def assignSuffixes (r : KeyRenderer ε) : List Int → List Nat → Resolving ε (List Nat)
  | _, [] => return []
  | seen, i :: rest => do
    let t ← get
    let d := t.state i
    let keeps := d.yearSuffix.any (!seen.contains ·)
    let changed ←
      if keeps then pure false
      else commit r i { d with yearSuffix := some (t.nextLetter i) }
    let letter := ((← get).state i).yearSuffix
    let others ← assignSuffixes r (letter.toList ++ seen) rest
    return if changed then i :: others else others

/-- Gives letters to several groups. -/
def assignAll (r : KeyRenderer ε) : List (List Nat) → Resolving ε (List Nat)
  | [] => return []
  | members :: rest => do
    let changed ← assignSuffixes r [] members
    let others ← assignAll r rest
    return ListSet.union changed others

/-- Tells the members of one group apart by all means. -/
def separate (p : Policy) (r : KeyRenderer ε) (group : List Nat) : Resolving ε (List Nat) := do
  let (changed, remaining) ← applyMethods p r p.steppedMethods [group]
  let lettered ← assignAll r remaining
  return ListSet.union changed lettered

/-- Tells the members of several groups apart. -/
def separateAll (p : Policy) (r : KeyRenderer ε) : List (List Nat) → Resolving ε (List Nat)
  | [] => return []
  | group :: rest => do
    let changed ← separate p r group
    let others ← separateAll p r rest
    return ListSet.union changed others

/-- Whether the letters of a group are in order: nobody has one, or all have different ones. -/
def Tracker.lettersInOrder (t : Tracker) (members : List Nat) : Bool :=
  let letters := members.filterMap fun i => (t.state i).yearSuffix
  letters.isEmpty
    || (letters.length == members.length && letters.eraseDups.length == letters.length)

/-- Completes the letters of groups with the same base key; the entries whose states have
    changed, and the members of the groups that were not in order. -/
def completeGroups (r : KeyRenderer ε) :
    List (List Nat) → Resolving ε (List Nat × List Nat)
  | [] => return ([], [])
  | members :: rest => do
    if (← get).lettersInOrder members then completeGroups r rest
    else
      let changed ← assignSuffixes r [] members
      let (others, concerned) ← completeGroups r rest
      return (ListSet.union changed others, ListSet.union members concerned)

/-- Completes the letters of the groups that have the base key of one of some entries. -/
def completeSuffixes (r : KeyRenderer ε) (order indexes : List Nat) :
    Resolving ε (List Nat × List Nat) := do
  let t ← get
  completeGroups r (Tracker.crowded t.baseBuckets order (indexes.filterMap (t.base.lookup ·)))

/-- How many passes there are at most. -/
def maxPasses : Nat := 32

/-- The passes, at most as many as a number says, over the entries that were touched last; the
    entries that were touched at all, and those that are concerned. -/
def passes (p : Policy) (r : KeyRenderer ε) (order : List Nat) :
    Nat → List Nat → List Nat → List Nat → Resolving ε (List Nat × List Nat)
  | 0, _, checked, affected => return (checked, affected)
  | n + 1, touched, checked, affected => do
    let groups := (← get).collisions order touched
    let separated ← separateAll p r groups
    let (completed, concerned) ← completeSuffixes r order (ListSet.union touched separated)
    let changed := ListSet.union separated completed
    let affected := ListSet.union groups.flatten (ListSet.union concerned affected)
    -- Only an entry that has changed can look like another one from here on.
    if changed.isEmpty then return (checked, affected)
    passes p r order n changed (ListSet.union changed checked) (ListSet.union changed affected)

/-- What has become of the entries. -/
structure Resolution where
  /-- The entries that may look different now. -/
  affected : List Nat
  /-- How many entries there were. -/
  cited : Nat
  /-- How many of them were not known before. -/
  fresh : Nat
  deriving Repr, DecidableEq

/-- What is reported of a resolution. -/
def Resolution.records (s : Resolution) : List Log.Record :=
  if s.affected.isEmpty then []
  else
    [{ severity := .debug, channel := .disambiguation, message := "Disambiguation pass complete"
       fields := [("entries", .number s.cited), ("fresh", .number s.fresh),
        ("affected", .number s.affected.length)] }]

/-- Tells entries apart that are given in the order in which they were cited first. Entries that
    are known from before are not rendered again, unless the renderer is another one or an entry
    has gone. -/
def resolve (p : Policy) (r : KeyRenderer ε) (entries : List Nat) : Resolving ε Resolution := do
  let order := ListSet.lastOccurrences entries
  let known ← get
  -- Keys made by another renderer, or next to an entry that is gone, are not to be relied on.
  unless known.renderer == some r.id && (Assoc.keys known.current).all order.contains do
    set (known.reset (some r.id))
  let t ← get
  let fresh := order.filter (!t.tracks ·)
  trackAll r fresh
  let (checked, affected) ← passes p r order maxPasses fresh fresh []
  let remaining := (← get).collisions order checked
  -- After a failure nothing counts as known, so that the next call looks at every entry again.
  unless remaining.isEmpty do
    modify (·.reset none)
    throw (.stillAlike (ListSet.sorted remaining.flatten))
  return { affected, cited := entries.length, fresh := fresh.length }

end Disambiguation

end CslProcessor
