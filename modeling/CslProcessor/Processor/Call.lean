import CslProcessor.Processor.Basic
import CslProcessor.Session.Call

/-!
# Calls of a processor

What a processor can be asked for, as values.

## Main definitions

* `ProcessorCall`, `ProcessorCall.run`: What a processor can be asked for, and its replies.
-/

namespace CslProcessor

/-- What a processor can be asked for. -/
inductive ProcessorCall
  | add (e : Entry)
  | addAll (es : List Entry)
  | find (id : String)
  | cite (targets : List CiteTarget) (locator : Option String) (locatorType : String)
      (position : Option Int)
  | format (targets : List CiteTarget) (locator : Option String) (locatorType : String)
  | process (event : CitationEvent)
  | updates
  | citations
  | nocite (ids : List String)
  | bibliography (ids : List String)
  | clear
  deriving Repr, Inhabited

/-- Makes a call. -/
def ProcessorCall.run : ProcessorCall → Processor.Action Reply
  | add e => return .truth (← Processor.addReference e)
  | addAll es => return .count (← Processor.addReferences es)
  | find id => return .entryType (((← get).session.store.find? id).map (·.type))
  | cite targets locator locatorType position =>
    return .citation (← Processor.cite targets locator locatorType position)
  | format targets locator locatorType =>
    return .text (← Processor.format targets locator locatorType)
  | process event => return .citation (← Processor.process event)
  | updates => return .updates (← Processor.updates)
  | citations => return .texts (← Processor.citations)
  | nocite ids => do
    Processor.nocite ids
    return .done
  | bibliography ids => return .bibliography (← Processor.generateBibliography ids)
  | clear => do
    Processor.clear
    return .done

end CslProcessor
