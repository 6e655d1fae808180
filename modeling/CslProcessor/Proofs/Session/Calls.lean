import CslProcessor.Proofs.Session.Steps

/-!
# Calls of a Session

A call is an operation and a reply made of what it gives. The reply has no part in what becomes of
the session, so what is true of operations is true of calls.

A call is fine if it succeeds or is refused for its input. Only then is anything promised about the
session after it.

## Main definitions

* `Session.Fine`: A call succeeds, or is refused for its input.

## Theorems

* `fine_of_read`: Reading something at the end is fine only if the work before is.
* `stateAfter_run`: The session after a call is the one after the operation.
* `fine_of_run`: A call is fine only if the operation is.
-/

namespace CslProcessor

namespace Session

/-- A call succeeds, or is refused for its input. -/
def Fine {α : Type} (r : EStateM.Result SessionError Session α) : Prop :=
  ∀ e, replyOf r = .error e → e.isInput = true

theorem fine_of_ok {α : Type} {m : Action α} {s s' : Session} {a : α} (hrun : m s = .ok a s') :
    Fine (m s) := by
  rw [hrun]
  exact fun e he => absurd he (by simp only [replyOf, reduceCtorEq, not_false_eq_true])

theorem not_fine {α : Type} {m : Action α} {s s' : Session} {e : SessionError}
    (hrun : m s = .error e s') (he : e.isInput = false) : ¬ Fine (m s) := by
  intro hfine
  have hinput := hfine e (by rw [hrun]; rfl)
  rw [he] at hinput
  exact Bool.false_ne_true hinput

/-- Reading something at the end is fine if the work before is. -/
theorem fine_of_read {α β : Type} {m : Action α} {f : Session → α → β} {s : Session}
    (h : Fine ((do
      let a ← m
      return f (← get) a : Action β) s)) : Fine (m s) := by
  intro e he
  refine h e ?_
  rw [replyOf_read, he]
  rfl

theorem stateAfter_locate (id : String) (s : Session) : stateAfter (locate id s) = s := by
  rcases locate_cases id s with ⟨i, hrun⟩ | ⟨e, hrun⟩
  · rw [hrun]
    rfl
  · rw [hrun]
    rfl

/-- The session after a call is the one after what the call is about; the rest is its reply. -/
theorem stateAfter_run (call : SessionCall) (s : Session) :
    stateAfter (call.run s) =
      match call with
      | .process event => stateAfter (process event s)
      | .nocite ids => stateAfter (nocite ids s)
      | .add e => stateAfter (addEntry e s)
      | .refresh | .citations => stateAfter (refresh s)
      | .number id | .disambiguation id => stateAfter (locate id s)
      | .bibliography => stateAfter (bibliography s) := by
  cases call with
  | process event => exact stateAfter_read _ (fun _ c => Reply.citation c) s
  | nocite ids => exact stateAfter_read _ (fun _ _ => Reply.done) s
  | add e => exact stateAfter_read _ (fun _ i => Reply.count i) s
  | refresh => exact stateAfter_read _ (fun _ l => Reply.citations l) s
  | citations =>
      exact (stateAfter_read citations (fun _ l => Reply.texts (l.map RenderedCitation.toText))
        s).trans (stateAfter_read refresh (fun u _ => u.history.events.map EventRecord.rendered) s)
  | number id =>
      exact (stateAfter_read (citationNumber? id) (fun _ n => Reply.number n) s).trans
        (stateAfter_read (locate id) (fun u i => u.history.numbers.lookup i) s)
  | disambiguation id =>
      exact (stateAfter_read (disambiguation id) (fun _ d => Reply.state d) s).trans
        (stateAfter_read (locate id) (fun u i => u.tracker.state i) s)
  | bibliography => exact stateAfter_read _ (fun _ b => Reply.bibliography b) s

/-- A call is fine only if what it is about is. -/
theorem fine_of_run {call : SessionCall} {s : Session} (h : Fine (call.run s)) :
    match call with
    | .process event => Fine (process event s)
    | .nocite ids => Fine (nocite ids s)
    | .add e => Fine (addEntry e s)
    | .refresh | .citations => Fine (refresh s)
    | .number id | .disambiguation id => Fine (locate id s)
    | .bibliography => Fine (bibliography s) := by
  cases call with
  | process event => exact fine_of_read (f := fun _ c => Reply.citation c) h
  | nocite ids => exact fine_of_read (f := fun _ _ => Reply.done) h
  | add e => exact fine_of_read (f := fun _ i => Reply.count i) h
  | refresh => exact fine_of_read (f := fun _ l => Reply.citations l) h
  | citations =>
      have hlist : Fine (citations s) :=
        fine_of_read (f := fun _ l => Reply.texts (List.map RenderedCitation.toText l)) h
      exact fine_of_read (f := fun u _ => u.history.events.map EventRecord.rendered) hlist
  | number id =>
      have hnumber : Fine (citationNumber? id s) := fine_of_read (f := fun _ n => Reply.number n) h
      exact fine_of_read (f := fun u i => u.history.numbers.lookup i) hnumber
  | disambiguation id =>
      have hstate : Fine (disambiguation id s) := fine_of_read (f := fun _ d => Reply.state d) h
      exact fine_of_read (f := fun u i => u.tracker.state i) hstate
  | bibliography => exact fine_of_read (f := fun _ b => Reply.bibliography b) h

end Session

end CslProcessor
