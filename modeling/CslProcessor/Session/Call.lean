import CslProcessor.Session.Bibliography

/-!
# Calls of a session

What a session can be asked for, as values, and what it replies. A call that fails leaves the
session usable: the calls after it are made all the same.

## Main definitions

* `Reply`: What is replied.
* `SessionCall`, `SessionCall.run`: What a session can be asked for.
* `runCalls`: Calls one after the other, with what is replied to each.
-/

namespace CslProcessor

/-- What is replied to a call. -/
inductive Reply
  | done
  | truth (b : Bool)
  | count (n : Nat)
  | text (s : String)
  | texts (l : List String)
  | citation (c : RenderedCitation)
  /-- Output by the index of the citation. -/
  | citations (l : List (Nat × RenderedCitation))
  /-- Output as plain text, by the index of the citation. -/
  | updates (l : List (Nat × String))
  | bibliography (b : Bibliography)
  | positions (l : List Position)
  | number (n : Option Nat)
  | state (d : EntryDisambiguation)
  | entryType (t : Option EntryType)
  deriving Repr, DecidableEq, Inhabited

/-- What a session can be asked for. -/
inductive SessionCall
  | process (event : CitationEvent)
  | nocite (ids : List String)
  | add (e : Entry)
  | refresh
  | citations
  | number (id : String)
  | disambiguation (id : String)
  | bibliography
  deriving Repr, Inhabited

/-- Makes a call. -/
def SessionCall.run : SessionCall → Session.Action Reply
  | process event => return .citation (← Session.process event)
  | nocite ids => do
    Session.nocite ids
    return .done
  | add e => return .count (← Session.addEntry e)
  | refresh => return .citations (← Session.refresh)
  | citations => return .texts ((← Session.citations).map (·.toText))
  | number id => return .number (← Session.citationNumber? id)
  | disambiguation id => return .state (← Session.disambiguation id)
  | bibliography => return .bibliography (← Session.bibliography)

/-- Makes calls one after the other, whether or not they fail; what is replied to each, and the
    state in the end. -/
def runCalls {γ ε σ α : Type} (run : γ → EStateM ε σ α) : List γ → σ → List (Except ε α) × σ
  | [], s => ([], s)
  | call :: rest, s =>
    let (reply, s) := match run call s with
      | .ok a s => (Except.ok a, s)
      | .error e s => (Except.error e, s)
    let (others, s) := runCalls run rest s
    (reply :: others, s)

end CslProcessor
