import CslProcessor.Collection.Assoc
import CslProcessor.Collection.ListSet
import CslProcessor.Session.Event

/-!
# The history of a document

The citations that were accepted, in the order of the document, and the numbers of the entries
that were mentioned. From these follows what is known of a further cite.

The first cite of an entry is a first one. A later one is compared with the cite before it: the
same cite of the citation before if that cites the same entries in the same order, or else the cite
before it in the same citation, or else the only cite of the citation before. A citation without
cites is passed over. Of the same entry with the same locator, or without one in both, the cite
repeats the one before; with another locator it repeats it for a new place; all other cites are
merely later ones. Beside that, a cite is near when the entry was cited few citations ago.

## Main definitions

* `History`: Citations and numbers.
* `repeatPosition`: How a cite repeats one of the same entry.
* `History.priorItem?`: The cite before a cite.
* `History.record`: The history after one more citation.
* `History.mention`: The history after entries were mentioned without being cited.
-/

namespace CslProcessor

/-- Citations that were accepted, and what follows from them for those to come. -/
structure History where
  /-- The citations. -/
  events : List EventRecord := []
  /-- The numbers of the entries that were mentioned, in the order in which they were. -/
  numbers : Assoc Nat Nat := []
  /-- The number of the citation that cited an entry first. -/
  firstNotes : Assoc Nat Nat := []
  /-- The index of the citation that cited an entry last. -/
  lastCited : Assoc Nat Nat := []
  /-- The indexes of the citations that cite an entry. -/
  citedIn : Assoc Nat (List Nat) := []
  /-- The position in the document of the last citation. -/
  lastPosition : Option Int := none
  /-- The index of the last citation that has cites. -/
  previous : Option Nat := none
  deriving Repr, Inhabited

/-- How a cite repeats a prior one of the same entry. -/
def repeatPosition (prior current : CitationItem) : Position :=
  if current.locator.isNone then
    if prior.locator.isNone then .ibid else .subsequent
  else if prior.locator == current.locator && prior.locatorType == current.locatorType then .ibid
  else .ibidWithLocator

namespace History

/-- The entries that were mentioned, in the order in which they were. -/
def mentioned (h : History) : List Nat :=
  Assoc.keys h.numbers

/-- Gives an entry the next number, unless it has one. -/
def number (h : History) (index : Nat) : History :=
  if (h.numbers.lookup index).isSome then h
  else { h with numbers := Assoc.set index (h.numbers.length + 1) h.numbers }

/-- The history after entries were mentioned without being cited. -/
def mention (h : History) (indexes : List Nat) : History :=
  indexes.foldl number h

/-- Notes that an entry is cited by the citation of an index. -/
def register (eventIndex : Nat) (h : History) (index : Nat) : History :=
  let h := h.number index
  if (h.firstNotes.lookup index).isSome then h
  else { h with firstNotes := Assoc.set index (eventIndex + 1) h.firstNotes }

/-- The last citation that has cites. -/
def previousEvent? (h : History) : Option EventRecord :=
  h.previous.bind (h.events[·]?)

/-- The cite before the cite of an index in a citation of some entries. -/
def priorItem? (h : History) (event : CitationEvent) (indexes : List Nat) (k : Nat) :
    Option CitationItem :=
  -- A citation of the same entries in the same order is repeated cite by cite.
  match h.previousEvent?.filter (·.indexes == indexes) with
  | some previous => previous.event.items[k]?
  | none =>
    match k with
    | j + 1 => event.items[j]?
    | 0 =>
      match h.previousEvent?.map (·.event.items) with
      | some [item] => some item
      | _ => none

/-- The position of a cite of an entry that was cited before. -/
def laterPosition (prior : Option CitationItem) (item : CitationItem) : Position :=
  match prior with
  | some p => if p.entryId == item.entryId then repeatPosition p item else .subsequent
  | none => .subsequent

/-- What is known of the cite of an index, given the citation that cited its entry last. -/
def citeContext (h : History) (near : Int) (event : CitationEvent) (indexes : List Nat)
    (last : Option Nat) (k : Nat) (item : CitationItem) (index : Nat) : CiteContext where
  position := match last with
    | none => .first
    | some _ => laterPosition (h.priorItem? event indexes k) item
  nearNote := last.any fun n => decide ((h.events.length : Int) - n ≤ near)
  locator := item.locator
  locatorType := item.locatorType
  citationNumber := (h.numbers.lookup index).map Int.ofNat
  firstNoteNumber := (h.firstNotes.lookup index).map Int.ofNat

/-- What is known of the cites from an index on, and by which citations entries were cited last
    after them. -/
def citeContexts (h : History) (near : Int) (event : CitationEvent) (indexes : List Nat) :
    Nat → Assoc Nat Nat → List (CitationItem × Nat) → List CiteContext × Assoc Nat Nat
  | _, lastCited, [] => ([], lastCited)
  | k, lastCited, (item, index) :: rest =>
    let cite := h.citeContext near event indexes (lastCited.lookup index) k item index
    -- The cites behind this one see it as the last citation of its entry.
    let (cites, last) :=
      citeContexts h near event indexes (k + 1) (Assoc.set index h.events.length lastCited) rest
    (cite :: cites, last)

/-- Notes which citation cites an entry. -/
def addCitedIn (eventIndex : Nat) (m : Assoc Nat (List Nat)) (index : Nat) :
    Assoc Nat (List Nat) :=
  Assoc.set index (List.insert eventIndex ((m.lookup index).getD [])) m

/-- The history after one more citation, whose entries are at given positions of the store. -/
def record (near : Int) (event : CitationEvent) (indexes : List Nat) (h : History) : History :=
  let eventIndex := h.events.length
  let known := indexes.foldl (register eventIndex) h
  let (cites, lastCited) :=
    known.citeContexts near event indexes 0 known.lastCited (event.items.zip indexes)
  { known with
    events := known.events ++ [{ event, indexes, cites }]
    lastCited
    citedIn := indexes.foldl (addCitedIn eventIndex) known.citedIn
    lastPosition := some event.position
    previous := if event.items.isEmpty then known.previous else some eventIndex }

/-- The citations that cite one of some entries. -/
def citing (h : History) (indexes : List Nat) : List Nat :=
  indexes.foldr (fun i events => ListSet.union ((h.citedIn.lookup i).getD []) events) []

/-- The history with the output of a citation. -/
def setRendered (h : History) (eventIndex : Nat) (rendered : RenderedCitation) : History :=
  { h with events := h.events.modify eventIndex fun r => { r with rendered } }

end History

end CslProcessor
