import CslProcessor.Disambiguation.Resolution
import CslProcessor.Locale.AmericanEnglish
import CslProcessor.Log.SessionLog
import CslProcessor.Render.Basic
import CslProcessor.Session.History
import CslProcessor.Session.Store
import CslProcessor.Settings.Basic
import CslProcessor.Sorting.Basic

/-!
# Sessions

A session takes the citations of a document in their order and renders each of them as it comes.
A new citation may bring an entry that looks like one that was cited before; then both are told
apart, and the citations of the older one become *dirty*: their output is out of date until they
are rendered again.

Input that is not acceptable is refused before anything is changed. What was done before any other
failure stays done.

## Main definitions

* `Session`: The state of a session.
* `SessionError`: Why an operation of a session fails.
* `Session.Action`: Operations on a session.
* `Session.process`, `Session.nocite`: The operations that mention entries.
* `Session.refresh`, `Session.citations`: The operations that bring output up to date.
-/

namespace CslProcessor

open Disambiguation (Tracker Policy KeyRenderer ResolveError)

/-- Why an operation of a session fails. -/
inductive SessionError
  /-- There is no entry of an identifier. -/
  | unknownEntry (id : String)
  /-- An entry cannot be added. -/
  | store (e : StoreError)
  /-- A citation does not stand behind the one before. -/
  | outOfOrder (position last : Int)
  /-- Entries look alike in spite of all means. -/
  | stillAlike (indexes : List Nat)
  /-- An entry would lose information. -/
  | regress (e : Disambiguation.Regress)
  /-- Something cannot be rendered. -/
  | rendering (e : RenderError)
  deriving Repr, DecidableEq

namespace SessionError

/-- The message for an operation that failed. -/
def message : SessionError → String
  | unknownEntry id => "Unknown entry id: " ++ Text.quoted id
  | store e => e.message
  | outOfOrder position last =>
    "Event at position " ++ toString position ++ " follows position " ++ toString last
  | stillAlike indexes =>
    "Entries [" ++ ", ".intercalate (indexes.map toString)
      ++ "] still render identically after disambiguation"
  | regress e => e.message
  | rendering e => e.message

/-- Whether input was refused. -/
def isInput : SessionError → Bool
  | unknownEntry _ | store _ | outOfOrder .. => true
  | stillAlike _ | regress _ | rendering _ => false

/-- Why telling entries apart fails. -/
def ofResolve : ResolveError RenderError → SessionError
  | .rendering e => rendering e
  | .regress e => regress e
  | .stillAlike indexes => stillAlike indexes

end SessionError

/-- The state of a session. -/
structure Session where
  /-- The style. -/
  style : Style
  /-- The locale, with the terms of the style. -/
  locale : Locale
  /-- How many citations back a cite is near. -/
  nearNoteDistance : Int
  /-- The entries. -/
  store : EntryStore
  /-- The citations so far. -/
  history : History := {}
  /-- What entries look like and how they are told apart. -/
  tracker : Tracker := {}
  /-- The citations whose output is out of date. -/
  dirty : List Nat := []
  /-- The name of the session and the count of citations that were reported. -/
  log : Log.SessionLog
  /-- What was reported, latest first. -/
  journal : List Log.Record := []
  deriving Repr, Inhabited

namespace Session

/-- A session without citations. -/
def start (id : String) (store : EntryStore) (style : Style) (locale : Locale := americanEnglish)
    (settings : EngineSettings := {}) : Session where
  style := style
  locale := locale.withTerms style.localeTerms
  nearNoteDistance :=
    style.citation.nearNoteDistance.getD settings.nearNoteDistance.floor
  store := store
  log := { session := id }

/-- Operations on a session. -/
abbrev Action := EStateM SessionError Session

/-- Reports something. -/
def report (r : Log.Record) : Action Unit :=
  modify fun s => { s with journal := r :: s.journal }

/-- Renders something and reports what the rendering does. -/
def rendering {α : Type} (r : Render.Rendering α) : Action α := fun s =>
  let noted := fun (notices : List Render.Notice) =>
    { s with journal := notices.reverse.map Render.Notice.record ++ s.journal }
  match r [] with
  | .ok a notices => .ok a (noted notices)
  | .error e notices => .error (.rendering e) (noted notices)

/-- The entry at a position of the store, and an empty one where there is none. -/
def entryAt (s : Session) (index : Nat) : Entry :=
  (s.store.get? index).getD { id := "" }

/-- The position of an identifier in the store. -/
def locate (id : String) : Action Nat := do
  match (← get).store.indexOf? id with
  | some index => return index
  | none => throw (.unknownEntry id)

/-! ## Telling entries apart -/

/-- What the cite of an entry is rendered with to see what the entry looks like. -/
def keyContext (s : Session) (index : Nat) (d : EntryDisambiguation) : RenderContext where
  style := s.style
  locale := s.locale
  part := s.style.citation
  cite := {
    position := .subsequent
    citationNumber := (s.history.numbers.lookup index).map Int.ofNat }
  disambiguation := d

/-- The text of the cite of an entry under a state. -/
def keyRendering (s : Session) (index : Nat) (d : EntryDisambiguation) :
    Render.Rendering String := do
  let item : Render.CitedItem := { entry := s.entryAt index, context := s.keyContext index d }
  return Runs.plainText
    (← Render.renderCitation s.style.citation.layout s.locale [item])

/-- The length of the longest list of names of an entry. -/
def nameCount (s : Session) (index : Nat) : Nat :=
  (Variable.nameVariables.map fun v => ((s.entryAt index).names v).length).foldl max 0

/-- How the session renders cites to see what entries look like. -/
def keyRenderer (s : Session) : KeyRenderer RenderError where
  id := 0
  key := fun index d =>
    match s.keyRendering index d [] with
    | .ok key _ => .ok key
    | .error e _ => .error e
  nameCount := s.nameCount

/-- What renderings of cites report. -/
def keyRecords (s : Session) (calls : List (Nat × EntryDisambiguation)) : List Log.Record :=
  calls.flatMap fun (index, d) =>
    (match s.keyRendering index d [] with
      | .ok _ notices => notices
      | .error _ notices => notices).map Render.Notice.record

/-- The means of the style. -/
def policy (s : Session) : Policy where
  methods := s.style.citation.disambiguation
  givenNameRule := s.style.citation.givenNameRule

/-- The session with a tracker, and with reports of what was rendered since the one before. -/
def withTracker (s : Session) (t : Tracker) : Session :=
  let calls := t.calls.take (t.calls.length - s.tracker.calls.length)
  { s with
    tracker := t
    journal := (s.keyRecords calls.reverse).reverse ++ s.journal }

/-- Tells all entries apart that were mentioned; the entries that may look different now. -/
def disambiguate : Action (List Nat) := fun s =>
  let mentioned := s.history.mentioned
  match Disambiguation.resolve s.policy s.keyRenderer mentioned s.tracker with
  | .error e t => .error (.ofResolve e) (s.withTracker t)
  | .ok resolution t =>
    let s' := s.withTracker t
    let told := if resolution.affected.isEmpty then []
      else [s'.log.entriesDisambiguated (.number mentioned.length)
        (.number resolution.affected.length)]
    .ok resolution.affected
      { s' with journal := told ++ resolution.records.reverse ++ s'.journal }

/-! ## Output -/

/-- The cites of a citation with what they are rendered with. -/
def citedItems (s : Session) (r : EventRecord) : List Render.CitedItem :=
  let base : RenderContext := { style := s.style, locale := s.locale, part := s.style.citation }
  (r.event.items.zip (r.indexes.zip r.cites)).map fun (item, index, cite) =>
    { entry := s.entryAt index
      context := base.forCite cite (s.tracker.state index)
      lead := item.lead
      trail := item.trail }

/-- The cites of a citation in the order of the style. -/
def orderedItems (s : Session) (items : List Render.CitedItem) :
    Render.Rendering (List Render.CitedItem) := do
  let keys := s.style.citation.sort
  if keys.isEmpty || items.length ≤ 1 then return items
  let order ← sortEntries keys (items.map fun i => (i.entry, i.context))
  return order.filterMap (items[·]?)

/-- The output of a citation as it is now. -/
def renderRecord (s : Session) (eventIndex : Nat) (r : EventRecord) :
    Render.Rendering RenderedCitation := do
  let items ← s.orderedItems (s.citedItems r)
  let runs ← Render.renderCitation s.style.citation.layout s.locale items
  return { runs, entryIds := r.event.entryIds, eventIndex := some eventIndex }

/-- Renders a citation of the history and keeps its output. -/
def renderEvent (eventIndex : Nat) : Action RenderedCitation := do
  let s ← get
  match s.history.events[eventIndex]? with
  | none => return {}
  | some r =>
    let rendered ← rendering (s.renderRecord eventIndex r)
    modify fun s => { s with history := s.history.setRendered eventIndex rendered }
    return rendered

/-- The session with the citations of some entries dirty. -/
def markDirty (s : Session) (indexes : List Nat) : Session :=
  { s with dirty := ListSet.union (s.history.citing indexes) s.dirty }

/-! ## Operations -/

/-- Takes the next citation of the document and renders it. -/
def process (event : CitationEvent) : Action RenderedCitation := do
  let indexes ← event.items.mapM fun item => locate item.entryId
  let s ← get
  -- Nothing has changed up to here, so a citation that is refused leaves no trace.
  match s.history.lastPosition with
  | some last => if event.position ≤ last then throw (.outOfOrder event.position last)
  | none => pure ()
  let eventIndex := s.history.events.length
  set { s with history := s.history.record s.nearNoteDistance event indexes }
  let affected ← disambiguate
  let before := (← get).dirty.length
  modify fun s =>
    let marked := s.markDirty affected
    -- The citation itself is rendered right below.
    { marked with dirty := marked.dirty.erase eventIndex }
  let rendered ← renderEvent eventIndex
  let s ← get
  set { s with log := s.log.count }
  report <| s.log.eventProcessed (.number eventIndex) (.number event.items.length)
    (.number ((s.dirty.length : Int) - before))
  return rendered

/-- Has entries in the bibliography that are not cited. -/
def nocite (ids : List String) : Action Unit := do
  let indexes ← ids.mapM locate
  let s ← get
  let mentioned := s.history.mention indexes
  set { s with history := mentioned }
  if mentioned.numbers.length != s.history.numbers.length then
    let affected ← disambiguate
    modify (·.markDirty affected)

/-- Renders some citations again, one after the other. -/
def renderEvents : List Nat → Action (List (Nat × RenderedCitation))
  | [] => return []
  | i :: rest => do
    let rendered ← renderEvent i
    let others ← renderEvents rest
    return (i, rendered) :: others

/-- Renders all dirty citations again; their output by the index of the citation. -/
def refresh : Action (List (Nat × RenderedCitation)) := do
  let updated ← renderEvents (ListSet.sorted (← get).dirty)
  modify fun s => { s with dirty := [] }
  unless updated.isEmpty do
    report ((← get).log.eventsRefreshed (.number updated.length))
  return updated

/-- The output of all citations, brought up to date. -/
def citations : Action (List RenderedCitation) := do
  let _ ← refresh
  return (← get).history.events.map (·.rendered)

/-- The positions of the cites of a citation. -/
def positions? (s : Session) (eventIndex : Nat) : Option (List Position) :=
  s.history.events[eventIndex]?.map fun r => r.cites.map (·.state)

/-- The number of an entry. -/
def citationNumber? (id : String) : Action (Option Nat) := do
  let index ← locate id
  return (← get).history.numbers.lookup index

/-- What tells an entry apart. -/
def disambiguation (id : String) : Action EntryDisambiguation := do
  let index ← locate id
  return (← get).tracker.state index

/-- Adds an entry to the store; its position there. -/
def addEntry (e : Entry) : Action Nat := do
  let s ← get
  match s.store.add e with
  | .ok store =>
    set { s with store }
    return s.store.size
  | .error err => throw (.store err)

end Session

end CslProcessor
