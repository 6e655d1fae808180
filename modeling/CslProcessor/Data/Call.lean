import CslProcessor.Data.Entry
import CslProcessor.Data.Output
import CslProcessor.Data.Session
import CslProcessor.Processor.Call

/-!
# Calls as plain data

A call is a record with the name of what is asked for under `do` and with what it needs beside it.

## Main definitions

* `SessionCall`, `ProcessorCall`: The readers of calls.
* `Reply`: The writer of replies.
-/

namespace CslProcessor

open Data

/-- Reads a citation of some cites. -/
def CitationEvent.ofData (d : Data) : Reading CitationEvent := do
  return ⟨← d.need "items", ← d.need "position"⟩

instance : Readable SessionCall where
  ofData d := do
    let name : String ← d.need "do"
    if name == "process" then return .process (← CitationEvent.ofData d)
    else if name == "cite_ids" then return .process (.ofIds (← d.need "ids") (← d.need "position"))
    else if name == "nocite" then return .nocite (← d.need "ids")
    else if name == "add" then return .add (← d.need "entry")
    else if name == "refresh" then return .refresh
    else if name == "citations" then return .citations
    else if name == "number" then return .number (← d.need "id")
    else if name == "disambiguation" then return .disambiguation (← d.need "id")
    else if name == "bibliography" then return .bibliography
    else throw .noSuchName

instance : Readable ProcessorCall where
  ofData d := do
    let name : String ← d.need "do"
    if name == "add" then return .add (← d.need "entry")
    else if name == "add_many" then return .addAll (← d.need "entries")
    else if name == "get" then return .find (← d.need "id")
    else if name == "cite" then
      return .cite (← d.need "targets") (← d.get "locator" none) (← d.get "locator_type" "page")
        (← d.get "position" none)
    else if name == "format" then
      return .format (← d.need "targets") (← d.get "locator" none) (← d.get "locator_type" "page")
    else if name == "process" then return .process (← CitationEvent.ofData d)
    else if name == "updates" then return .updates
    else if name == "citations" then return .citations
    else if name == "nocite" then return .nocite (← d.need "ids")
    else if name == "bibliography" then
      let ids : Option (List String) ← d.get "ids" none
      return .bibliography (ids.getD [])
    else if name == "clear" then return .clear
    else throw .noSuchName

instance : Writable Reply where
  toData
    | .done => null
    | .truth b => truth b
    | .count n => toData n
    | .text s => text s
    | .texts l => toData l
    | .citation c => toData c
    | .citations l => record (l.map fun (i, c) => (toString i, toData c))
    | .updates l => record (l.map fun (i, s) => (toString i, text s))
    | .bibliography b => toData b
    | .positions l => toData l
    | .number n => toData n
    | .state d => toData d
    | .entryType t => toData t

end CslProcessor
