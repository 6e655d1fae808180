import CslProcessor.Log.Registry
import CslProcessor.Log.SessionLog
import CslProcessor.Settings.Files

/-!
# Calls of loggers

What a registry of loggers can be asked for, as values. Most calls are about one logger: the one
whose handle was made or handed out last. Reports on a session go through a handle of their own.

A call that fails leaves the registry as it was.

## Main definitions

* `LogDesk`: A registry with the handles in use.
* `SessionReport`, `SessionLog.take`: The reports on a session.
* `LogCall`, `LogCall.run`: What can be asked for.
-/

namespace CslProcessor

namespace Log

/-- Something to be reported on a session. -/
inductive SessionReport
  | eventProcessed (event items dirty : FieldValue)
  | entriesDisambiguated (cited changed : FieldValue)
  | eventsRefreshed (count : FieldValue)
  | bibliographyBuilt (entries : FieldValue)
  deriving Repr, DecidableEq, Inhabited

/-- The log after a report, and the record of it. Only a citation is counted, and only entries that
    changed are worth a record. -/
def SessionLog.take (s : SessionLog) : SessionReport → SessionLog × Option Record
  | .eventProcessed event items dirty =>
    (s.count, some (s.count.eventProcessed event items dirty))
  | .entriesDisambiguated cited changed =>
    (s, if changed.isBlank then none else some (s.entriesDisambiguated cited changed))
  | .eventsRefreshed count => (s, some (s.eventsRefreshed count))
  | .bibliographyBuilt entries => (s, some (s.bibliographyBuilt entries))

/-- A registry with the handles in use. -/
structure LogDesk where
  /-- The loggers. -/
  registry : LogRegistry
  /-- The handle that was made or handed out last. -/
  current : Option Nat := none
  /-- The handle of each name that was made or handed out last. -/
  held : Assoc String Nat := []
  /-- The session that is reported on, and the handle for that. -/
  session : Option (SessionLog × Nat) := none
  /-- The file that was set up last. -/
  file : String := ""
  /-- What was logged, first things first. -/
  emitted : List Emitted := []
  deriving Repr, Inhabited

/-- Why a call fails. -/
inductive LogError
  /-- No handle is in use. -/
  | noHandle
  /-- The settings are faulty. -/
  | settings (e : SettingsError)
  deriving Repr, DecidableEq

/-- What can be asked for. -/
inductive LogCall
  | configure (setup : LogSetup)
  /-- Sets up logging as settings say, given as plain data. -/
  | apply (settings : Data)
  | create (name : String) (setup : LogSetup)
  /-- Has the handle of a name handed out. -/
  | handOut (name : String)
  | bind (fields : Fields)
  | unbind (names : List String)
  | level
  | write (severity : Severity) (message : String) (fields : Fields)
  /-- Starts to report on a session. -/
  | session (name : String)
  | report (r : SessionReport)
  /-- Asks for the lines of the file that was set up last. -/
  | file
  deriving Repr, Inhabited

/-- What is replied to a call. -/
inductive LogReply
  | done
  | truth (b : Bool)
  | count (n : Nat)
  | level (s : Severity)
  /-- A logger was set up. -/
  | made (setup : LogSetup)
  /-- What a file holds. -/
  | contents (lines : List Emitted)
  deriving Repr, Inhabited

namespace LogDesk

/-- Work at a desk. -/
abbrev Action := EStateM LogError LogDesk

/-- The handle that was made or handed out last. -/
def handle : Action Nat := do
  match (← get).current with
  | some h => return h
  | none => throw .noHandle

/-- Has a handle in use for a name from now on. -/
def hold (name : String) (handle : Nat) : Action Unit :=
  modify fun s => { s with current := some handle, held := Assoc.set name handle s.held }

/-- Changes the registry. -/
def onRegistry (f : LogRegistry → LogRegistry) : Action Unit :=
  modify fun s => { s with registry := f s.registry }

/-- The handle that is handed out for a name. -/
def handedOut (name : String) : Action Nat := fun s =>
  let (registry, handle) := s.registry.get name
  .ok handle { s with registry }

/-- Remembers the file of a setup. -/
def noteFile (setup : LogSetup) : Action Unit :=
  modify fun s => { s with file := setup.file.getD s.file }

/-- Logs through a handle. -/
def emit (handle : Nat) (severity : Severity) (message : String) (fields : Fields) :
    Action Unit :=
  modify fun s =>
    let (registry, e) := s.registry.emit handle severity message fields
    { s with registry, emitted := s.emitted ++ e.toList }

end LogDesk

open LogDesk

/-- Makes a call, with the names of the loggers for settings and for sessions. -/
def LogCall.run (settingsName sessionName : String) : LogCall → LogDesk.Action LogReply
  | configure setup => do
    onRegistry (·.configure setup)
    noteFile setup
    return .done
  | apply settings => do
    match LoggingSettings.ofData settings with
    | .error e => throw (.settings e)
    | .ok logging =>
      match logging.appliedRecord with
      | .error e => throw (.settings e)
      | .ok r =>
        onRegistry (·.configure { severity := .ofName logging.level })
        emit (← handedOut settingsName) r.severity r.message r.fields
        return .done
  | create name setup => do
    let (registry, h) := (← get).registry.create name setup
    modify fun s => { s with registry }
    hold name h
    noteFile setup
    return .made setup
  | handOut name => do
    let before := (← get).held.lookup name
    let h ← handedOut name
    hold name h
    return .truth (before == some h)
  | bind fields => do
    let h ← handle
    onRegistry (·.bind h fields)
    return .done
  | unbind names => do
    let h ← handle
    onRegistry (·.unbind h names)
    return .done
  | level => do
    let h ← handle
    let r := (← get).registry
    return .level (r.levelOf (r.nameOf h))
  | write severity message fields => do
    emit (← handle) severity message fields
    return .done
  | session name => do
    let h ← handedOut sessionName
    modify fun s => { s with session := some ({ session := name }, h) }
    return .done
  | report r => do
    match (← get).session with
    | none => throw .noHandle
    | some (log, h) =>
      let (log, record) := log.take r
      modify fun s => { s with session := some (log, h) }
      match record with
      | some r => emit h r.severity r.message r.fields
      | none => pure ()
      return .count log.events
  | file => do
    let s ← get
    return .contents ((s.registry.files.lookup s.file).getD [])

end Log

end CslProcessor
