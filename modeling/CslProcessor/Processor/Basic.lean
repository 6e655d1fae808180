import CslProcessor.Data.Context
import CslProcessor.Session.Bibliography
import CslProcessor.Settings.Load

/-!
# The processor

A processor bundles a store, a style, a locale and a session. It chooses the position of a citation
unless the caller does: behind the last one it has taken.

Adding entries never fails for want of room; the caller is told that the entry was not added.

## Main definitions

* `Processor`: The state of a processor.
* `CiteTarget`: What can be cited.
* `Processor.cite`, `Processor.format`, `Processor.generateBibliography`: The main operations.
* `formatReferences`: The bibliography of some entries as plain text.
-/

namespace CslProcessor

namespace EngineSettings

/-- The style unless another one is asked for. -/
def style (s : EngineSettings) : Reading Style :=
  match s.defaultStyle with
  | .text name => Style.read name
  | _ => .error .notRecord

/-- The locale unless another one is asked for. -/
def locale (s : EngineSettings) : Reading Locale :=
  match s.defaultLocale with
  | .text tag => .ok (Locale.ofTag tag)
  | .list _ | .record _ => .error .wrongKind
  | _ => .ok americanEnglish

end EngineSettings

/-- The state of a processor. -/
structure Processor where
  /-- The settings. -/
  settings : EngineSettings
  /-- The style. -/
  style : Style
  /-- The locale. -/
  locale : Locale
  /-- The session. -/
  session : Session
  /-- The position of the last citation. -/
  lastPosition : Int := 0
  deriving Repr, Inhabited

/-- What can be cited: an entry, or a cite with all that belongs to it. -/
inductive CiteTarget
  | ofId (id : String)
  | ofItem (item : CitationItem)
  deriving Repr, DecidableEq

namespace Processor

/-- How the session of a processor is called in reports. -/
def sessionName : String := "*"

/-- A session without citations over an empty store. -/
def freshSession (settings : EngineSettings) (style : Style) (locale : Locale) : Session :=
  Session.start sessionName { maxEntries := settings.maxEntries.ceiling } style locale settings

/-- A processor without entries. -/
def start (style : Style) (locale : Locale := americanEnglish) (settings : EngineSettings := {}) :
    Processor where
  settings := settings
  style := style
  locale := locale
  session := freshSession settings style locale

/-- Operations on a processor. -/
abbrev Action := EStateM SessionError Processor

/-- An operation on the session. -/
def onSession {α : Type} (a : Session.Action α) : Action α := fun p =>
  match a p.session with
  | .ok x session => .ok x { p with session }
  | .error e session => .error e { p with session }

/-- Adds an entry, unless there is no room for it; whether it was added. -/
def addReference (e : Entry) : Action Bool := do
  let p ← get
  match p.session.store.add e with
  | .ok store =>
    set { p with session := { p.session with store } }
    return true
  | .error (.full ..) =>
    onSession <| Session.report
      { severity := .warning, channel := .engine, message := "Max references reached"
        fields := [("max_entries", .text p.settings.maxEntries.shown)] }
    return false
  | .error err => throw (.store err)

/-- Adds several entries; how many were added. -/
def addReferences : List Entry → Action Nat
  | [] => return 0
  | e :: rest => do
    let added ← addReference e
    let others ← addReferences rest
    return if added then others + 1 else others

/-- Takes a citation and renders it. -/
def process (event : CitationEvent) : Action RenderedCitation := do
  let rendered ← onSession (Session.process event)
  modify fun p => { p with lastPosition := event.position }
  return rendered

/-- The cite of a target. A mere entry takes the locator that is given for all. -/
def CiteTarget.item (locator : Option String) (locatorType : String) : CiteTarget → CitationItem
  | .ofId entryId => { entryId, locator, locatorType }
  | .ofItem item => item

/-- Cites some targets, behind the last citation unless a position is given. -/
def cite (targets : List CiteTarget) (locator : Option String := none)
    (locatorType : String := "page") (position : Option Int := none) :
    Action RenderedCitation := do
  let next := (← get).lastPosition + 1
  process ⟨targets.map (CiteTarget.item locator locatorType), position.getD next⟩

/-- Cites some targets, if there are any; the output as plain text. -/
def format (targets : List CiteTarget) (locator : Option String := none)
    (locatorType : String := "page") : Action String := do
  if targets.isEmpty then return ""
  return (← cite targets locator locatorType).toText

/-- Renders dirty citations again; their output as plain text by the index of the citation. -/
def updates : Action (List (Nat × String)) := do
  return (← onSession Session.refresh).map fun (i, rendered) => (i, rendered.toText)

/-- The output of all citations as plain text. -/
def citations : Action (List String) := do
  return (← onSession Session.citations).map (·.toText)

/-- Has entries in the bibliography that are not cited. -/
def nocite (ids : List String) : Action Unit :=
  onSession (Session.nocite ids)

/-- The bibliography of some entries, or if none are named of all that were mentioned; or else,
    if nothing was cited at all, of all entries. -/
def generateBibliography (ids : List String := []) : Action Bibliography := do
  let session := (← get).session
  if !ids.isEmpty then nocite ids
  else if session.history.events.isEmpty then nocite session.store.ids
  let whole ← onSession Session.bibliography
  return if ids.isEmpty then whole
    else { whole with items := whole.items.filter fun i => ids.contains i.entryId }

/-- Forgets all entries and citations. What was reported stays. -/
def clear : Action Unit :=
  modify fun p =>
    { p with
      session := { freshSession p.settings p.style p.locale with journal := p.session.journal }
      lastPosition := 0 }

end Processor

/-- The bibliography of some entries as plain text. -/
def formatReferences (style : Style) (entries : List Entry) : Processor.Action String := do
  set (Processor.start style)
  let _ ← Processor.addReferences entries
  return (← Processor.generateBibliography).toText

end CslProcessor
