import CslProcessor.Data.Reading
import CslProcessor.Log.Call

/-!
# Calls of loggers as plain data

A call is a record with the name of what is asked for under `do` and with what it needs beside it.
What is reported on a session is given by position or by name.

## Main definitions

* `FieldValue.ofData`, `Fields.ofData`: The readers of fields.
* `LogSetup`, `SessionReport.ofData`, `LogCall`: The readers of setups, reports and calls.
-/

namespace CslProcessor

namespace Log

open Data

/-- The value that data stands for. What is neither text, number nor truth value stands for the
    text that shows it. -/
def FieldValue.ofData : Data → FieldValue
  | .text s => .text s
  | .int n => .number n
  | .truth b => .truth b
  | .null => .missing
  | d => .text d.shown

/-- Reads fields of any names but some. -/
def Fields.ofData (taken : List String) : Data → Reading Fields
  | record fs =>
    if fs.any fun (k, _) => taken.contains k then .error .wrongKind
    else .ok (fs.map fun (k, v) => (k, FieldValue.ofData v))
  | null => .ok []
  | _ => .error .wrongKind

instance : Readable LogSetup where
  ofData d := do
    let level ← d.get "level" "INFO"
    let onConsole ← d.get "console" false
    let rich ← d.get "rich" true
    return {
      severity := .ofName level
      file := ((d.given? "file").filter (!·.isBlank)).map Data.shown
      console := if !onConsole then .off else if rich then .rich else .plain }

/-- Reads what is reported on a session under a name. -/
def SessionReport.ofData (name : String) (given : Data) : Reading SessionReport := do
  let value := fun (values : List Data) (i : Nat) => FieldValue.ofData (values.getD i .null)
  if name == "event_processed" then
    let l ← given.arguments [("event_index", none), ("items", none), ("dirty", some (int 0))]
    return .eventProcessed (value l 0) (value l 1) (value l 2)
  else if name == "entries_disambiguated" then
    let l ← given.arguments [("cited", none), ("changed", none)]
    let changed := if (l.getD 1 .null).isBlank then .missing else value l 1
    return .entriesDisambiguated (value l 0) changed
  else if name == "events_refreshed" then
    return .eventsRefreshed (value (← given.arguments [("count", none)]) 0)
  else if name == "bibliography_built" then
    return .bibliographyBuilt (value (← given.arguments [("entries", none)]) 0)
  else throw .noSuchName

/-- The names of the severities that messages are written with. -/
def messageNames : List String :=
  ["debug", "info", "warning", "error"]

instance : Readable LogCall where
  ofData d := do
    let name : String ← d.need "do"
    if name == "configure" then return .configure (← Readable.ofData d)
    else if name == "apply" then return .apply d
    else if name == "create" then return .create (← d.need "name") (← Readable.ofData d)
    else if name == "get" then return .handOut (← d.need "name")
    else if name == "bind" then
      return .bind (← Fields.ofData ["self"] ((d.field? "fields").getD .null))
    else if name == "unbind" then return .unbind (← d.get "keys" [])
    else if name == "level" then return .level
    else if name == "session" then return .session (← d.need "name")
    else if name == "file" then return .file
    else if messageNames.contains name then
      return .write (.ofName name) (← d.need "message")
        (← Fields.ofData ["self", "message"] ((d.field? "fields").getD .null))
    else return .report (← SessionReport.ofData name ((d.field? "args").getD (list [])))

end Log

end CslProcessor
