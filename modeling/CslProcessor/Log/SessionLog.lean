import CslProcessor.Log.Record

/-!
# Reports on a session

What is reported while the citations of a document are processed, and the count of citations that
were reported.

## Main definitions

* `SessionLog`: The name of a session, and the count.
* `SessionLog.eventProcessed`, `SessionLog.entriesDisambiguated`, `SessionLog.eventsRefreshed`,
  `SessionLog.bibliographyBuilt`: The reports.
-/

namespace CslProcessor

namespace Log

/-- The reports on one session. -/
structure SessionLog where
  /-- How the session is called. -/
  session : String
  /-- How many citations were reported. -/
  events : Nat := 0
  deriving Repr, DecidableEq, Inhabited

namespace SessionLog

/-- A report on the session. -/
def note (s : SessionLog) (severity : Severity) (message : String) (fields : Fields) : Record :=
  { severity, channel := .session, message, fields := ("session", .text s.session) :: fields }

/-- The log after one more citation. -/
def count (s : SessionLog) : SessionLog :=
  { s with events := s.events + 1 }

/-- A citation was processed. -/
def eventProcessed (s : SessionLog) (event items dirty : FieldValue) : Record :=
  s.note .debug "Processed citation event" [("event", event), ("items", items), ("dirty", dirty)]

/-- Entries were told apart. -/
def entriesDisambiguated (s : SessionLog) (cited changed : FieldValue) : Record :=
  s.note .debug "Disambiguated entries" [("cited", cited), ("changed", changed)]

/-- Citations were rendered again. -/
def eventsRefreshed (s : SessionLog) (count : FieldValue) : Record :=
  s.note .debug "Re-rendered dirty events" [("count", count)]

/-- A bibliography was built. -/
def bibliographyBuilt (s : SessionLog) (entries : FieldValue) : Record :=
  s.note .info "Bibliography generated"
    [("entries", entries), ("events", .number s.events), ("duration_sec", .elapsed)]

end SessionLog

end Log

end CslProcessor
