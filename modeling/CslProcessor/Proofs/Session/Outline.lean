import CslProcessor.Proofs.Session.Calls

/-!
# The outline of a session

What a session has taken in: its entries, its citations and the numbers of the entries that were
mentioned, without what was made of them.

The course of a session is told for runs that do not break off. The outline is told for all runs.
A call that is not refused is taken in before anything can fail, and neither telling entries apart
nor rendering takes anything back, so it makes no difference to the outline whether these succeed.
`runCalls_enters` turns this into an induction over the calls that were not refused.

## Main definitions

* `Session.outline`: A session with nothing but what it has taken in.
* `Session.KeepsOutline`: Work that takes nothing in.
* `Session.Enters`: What a call that is not refused takes in.
* `Session.refusal`, `Session.acceptedCalls`: Which calls are not refused.

## Theorems

* `KeepsOutline.bind`: Work in sequence takes nothing in if no piece of it does.
* `outline_process`, `outline_nocite`: What the operations that mention entries take in.
* `enters_run`: A call is taken in, or refused.
* `runCalls_enters`: What every call that is taken in keeps holds after a run.
-/

namespace CslProcessor

namespace Session

variable {α β : Type}

/-! ## Work that takes nothing in -/

/-- A session with its entries, its citations and its numbers alone. -/
def outline (s : Session) : Session :=
  { s.core with tracker := {} }

/-- Work that takes nothing in, whether or not it fails. -/
def KeepsOutline (m : Action α) : Prop :=
  ∀ s, (stateAfter (m s)).outline = s.outline

/-- Work in sequence takes nothing in if no piece of it does. -/
theorem KeepsOutline.bind {m : Action α} {f : α → Action β} (hm : KeepsOutline m)
    (hf : ∀ a, KeepsOutline (f a)) : KeepsOutline (m >>= f) := by
  intro s
  have hs := hm s
  cases h : m s with
  | ok a u =>
      rw [h] at hs
      rw [bind_of_ok h, hf a u]
      exact hs
  | error e u =>
      rw [h] at hs
      rw [bind_of_error h]
      exact hs

theorem keepsOutline_pure (a : α) : KeepsOutline (pure a) :=
  fun _ => rfl

-- Reading the session takes nothing in.
theorem keepsOutline_get_bind {f : Session → Action α} (hf : ∀ s, KeepsOutline (f s)) :
    KeepsOutline ((get : Action Session) >>= f) :=
  fun s => hf s s

-- Neither does changing it in what is not part of the outline.
theorem keepsOutline_modify {g : Session → Session} (hg : ∀ s, (g s).outline = s.outline) :
    KeepsOutline (modify g : Action Unit) :=
  hg

theorem keepsOutline_report (r : Log.Record) : KeepsOutline (report r) :=
  keepsOutline_modify fun _ => rfl

theorem keepsOutline_rendering (r : Render.Rendering α) : KeepsOutline (rendering r) := by
  intro s
  unfold rendering
  cases r [] <;> rfl

theorem keepsOutline_disambiguate : KeepsOutline disambiguate := by
  intro s
  unfold disambiguate
  simp only
  cases Disambiguation.resolve s.policy s.keyRenderer s.history.mentioned s.tracker <;> rfl

-- The output of a citation is not part of the outline.
theorem outline_output (s : Session) (k : Nat) (c : RenderedCitation) :
    (s.output k c).outline = s.outline := by
  rw [outline, outline, core_output]

theorem keepsOutline_renderEvent (k : Nat) : KeepsOutline (renderEvent k) := by
  unfold renderEvent
  refine keepsOutline_get_bind fun s => ?_
  cases s.history.events[k]? with
  | none => exact keepsOutline_pure _
  | some r =>
      refine (keepsOutline_rendering _).bind fun c => ?_
      exact (keepsOutline_modify fun u => outline_output u k c).bind fun _ => keepsOutline_pure c

theorem keepsOutline_renderEvents (l : List Nat) : KeepsOutline (renderEvents l) := by
  induction l with
  | nil => exact keepsOutline_pure _
  | cons k rest ih =>
      exact (keepsOutline_renderEvent k).bind fun _ => ih.bind fun _ => keepsOutline_pure _

/-- Bringing outputs up to date takes nothing in. -/
theorem keepsOutline_refresh : KeepsOutline refresh := by
  unfold refresh
  refine keepsOutline_get_bind fun s => (keepsOutline_renderEvents _).bind fun updated => ?_
  refine KeepsOutline.bind (keepsOutline_modify ?_) fun _ => ?_
  · exact fun _ => rfl
  · cases updated.isEmpty with
    | true => exact keepsOutline_pure _
    | false =>
        refine keepsOutline_get_bind fun u => ?_
        exact (keepsOutline_report _).bind fun _ => keepsOutline_pure _

/-- Building the bibliography takes nothing in. -/
theorem keepsOutline_bibliography : KeepsOutline bibliography := by
  unfold bibliography
  refine keepsOutline_get_bind fun s => ?_
  cases s.style.bibliography with
  | none => exact (keepsOutline_report _).bind fun _ => keepsOutline_pure _
  | some part =>
      refine (keepsOutline_rendering _).bind fun items => ?_
      exact (keepsOutline_report _).bind fun _ => keepsOutline_pure _

/-! ## The operations that mention entries -/

-- A citation that is accepted is recorded, whatever happens afterwards.
theorem outline_processAccepted (event : CitationEvent) (indexes : List Nat) (s : Session) :
    (stateAfter (processAccepted event indexes s)).outline =
      (s.recorded event indexes).outline := by
  unfold processAccepted
  rw [get_bind, set_bind]
  refine (keepsOutline_disambiguate.bind fun affected => keepsOutline_get_bind fun u => ?_)
    (s.recorded event indexes)
  refine KeepsOutline.bind (keepsOutline_modify ?_) fun _ => ?_
  · exact fun _ => rfl
  · refine (keepsOutline_renderEvent _).bind fun c => ?_
    intro v
    rw [get_bind, set_bind]
    exact ((keepsOutline_report _).bind fun _ => keepsOutline_pure c) { v with log := v.log.count }

/-- A citation is recorded if it is accepted. -/
theorem outline_process (event : CitationEvent) (s : Session) :
    (stateAfter (process event s)).outline =
      match s.accepted event with
      | .ok indexes => (s.recorded event indexes).outline
      | .error _ => s.outline := by
  rw [process_eq]
  cases s.accepted event with
  | ok indexes => exact outline_processAccepted event indexes s
  | error e => rfl

/-- What mentioning entries does once all of them are found. -/
def mentionAll (indexes : List Nat) : Action Unit := do
  let s ← get
  let mentioned := s.history.mention indexes
  set { s with history := mentioned }
  if mentioned.numbers.length != s.history.numbers.length then
    let affected ← disambiguate
    modify (·.markDirty affected)

-- Mentioning unknown entries leaves no trace.
theorem nocite_eq (ids : List String) (s : Session) :
    nocite ids s =
      match s.locateAll ids with
      | .ok indexes => mentionAll indexes s
      | .error e => .error e s := by
  have hlocate := mapM_locate id ids s
  rw [List.map_id] at hlocate
  unfold nocite
  cases hids : s.locateAll ids with
  | error e =>
      rw [hids] at hlocate
      exact bind_of_error hlocate _
  | ok indexes =>
      rw [hids] at hlocate
      exact bind_of_ok hlocate _

theorem outline_mentionAll (indexes : List Nat) (s : Session) :
    (stateAfter (mentionAll indexes s)).outline = (s.mentioning indexes).outline := by
  unfold mentionAll
  rw [get_bind, set_bind]
  split
  · refine keepsOutline_disambiguate.bind (fun affected => keepsOutline_modify ?_)
      (s.mentioning indexes)
    exact fun _ => rfl
  · rfl

/-- Entries are mentioned if all of them are found. -/
theorem outline_nocite (ids : List String) (s : Session) :
    (stateAfter (nocite ids s)).outline =
      match s.locateAll ids with
      | .ok indexes => (s.mentioning indexes).outline
      | .error _ => s.outline := by
  rw [nocite_eq]
  cases s.locateAll ids with
  | ok indexes => exact outline_mentionAll indexes s
  | error e => rfl

/-! ## Refused calls -/

/-- Whether a reply refuses the input. -/
def refusal : Except SessionError α → Bool
  | .ok _ => false
  | .error e => e.isInput

theorem refusal_map (f : α → β) (x : Except SessionError α) : refusal (x.map f) = refusal x := by
  cases x <;> rfl

-- A citation is refused exactly if it is not accepted.
theorem refusal_process (event : CitationEvent) (s : Session) :
    refusal (replyOf (process event s)) = !(s.accepted event).isOk := by
  rw [process_eq]
  cases haccept : s.accepted event with
  | error e => exact isInput_of_accepted haccept
  | ok indexes =>
      rcases processAccepted_cases event indexes s with
        ⟨a, t, r, c, notices, s', -, -, -, hrun, -⟩ | ⟨e, s', hrun, he⟩
      · simp only [hrun]
        rfl
      · simp only [hrun]
        exact he

-- A mention is refused exactly if an entry is not found.
theorem refusal_nocite (ids : List String) (s : Session) :
    refusal (replyOf (nocite ids s)) = !(s.locateAll ids).isOk := by
  rw [nocite_eq]
  cases hids : s.locateAll ids with
  | error e => exact isInput_of_locateAll hids
  | ok indexes =>
      have hfine : refusal (replyOf (mentionAll indexes s)) = false := by
        unfold mentionAll
        rw [get_bind, set_bind]
        split
        · rcases disambiguate_cases (s.mentioning indexes) with
            ⟨a, t, u, -, hrun, -⟩ | ⟨e, u, hrun, he⟩
          · refine congrArg (fun x => refusal (replyOf x)) (bind_of_ok hrun _) |>.trans ?_
            rfl
          · refine congrArg (fun x => refusal (replyOf x)) (bind_of_error hrun _) |>.trans ?_
            exact he
        · rfl
      exact hfine

/-- What a call that is not refused takes in. -/
inductive Enters (s : Session) : SessionCall → Session → Prop
  /-- A citation is recorded. -/
  | process {event : CitationEvent} {indexes : List Nat} (h : s.accepted event = .ok indexes) :
    Enters s (.process event) (s.recorded event indexes)
  /-- Entries are mentioned. -/
  | nocite {ids : List String} {indexes : List Nat} (h : s.locateAll ids = .ok indexes) :
    Enters s (.nocite ids) (s.mentioning indexes)
  /-- An entry is added. -/
  | add {e : Entry} {store : EntryStore} (h : s.store.add e = .ok store) :
    Enters s (.add e) (s.withEntry e)
  /-- Any other call. -/
  | refresh : Enters s .refresh s
  | citations : Enters s .citations s
  | number (id : String) : Enters s (.number id) s
  | disambiguation (id : String) : Enters s (.disambiguation id) s
  | bibliography : Enters s .bibliography s

-- A call that takes nothing in.
theorem enters_of_keepsOutline {call : SessionCall} {s : Session} (h : Enters s call s)
    (hkeeps : (stateAfter (call.run s)).outline = s.outline) :
    (refusal (replyOf (call.run s)) = true ∧ (stateAfter (call.run s)).outline = s.outline) ∨
      (refusal (replyOf (call.run s)) = false ∧
        ∃ s', Enters s call s' ∧ (stateAfter (call.run s)).outline = s'.outline) := by
  cases hrefusal : refusal (replyOf (call.run s)) with
  | true => exact Or.inl ⟨rfl, hkeeps⟩
  | false => exact Or.inr ⟨rfl, s, h, hkeeps⟩

/-- A call is refused and leaves no trace, or it is taken in. -/
theorem enters_run (call : SessionCall) (s : Session) :
    (refusal (replyOf (call.run s)) = true ∧ (stateAfter (call.run s)).outline = s.outline) ∨
      (refusal (replyOf (call.run s)) = false ∧
        ∃ s', Enters s call s' ∧ (stateAfter (call.run s)).outline = s'.outline) := by
  have hafter := stateAfter_run call s
  cases call with
  | process event =>
      have hreply : refusal (replyOf ((SessionCall.process event).run s)) =
          refusal (replyOf (process event s)) :=
        (congrArg refusal (replyOf_read _ (fun _ c => Reply.citation c) s)).trans (refusal_map _ _)
      have houtline := outline_process event s
      rw [hafter, hreply, refusal_process]
      cases haccept : s.accepted event with
      | ok indexes =>
          rw [haccept] at houtline
          exact Or.inr ⟨rfl, _, Enters.process haccept, houtline⟩
      | error e =>
          rw [haccept] at houtline
          exact Or.inl ⟨rfl, houtline⟩
  | nocite ids =>
      have hreply : refusal (replyOf ((SessionCall.nocite ids).run s)) =
          refusal (replyOf (nocite ids s)) :=
        (congrArg refusal (replyOf_read _ (fun _ _ => Reply.done) s)).trans (refusal_map _ _)
      have houtline := outline_nocite ids s
      rw [hafter, hreply, refusal_nocite]
      cases hids : s.locateAll ids with
      | ok indexes =>
          rw [hids] at houtline
          exact Or.inr ⟨rfl, _, Enters.nocite hids, houtline⟩
      | error e =>
          rw [hids] at houtline
          exact Or.inl ⟨rfl, houtline⟩
  | add e =>
      have hreply : refusal (replyOf ((SessionCall.add e).run s)) =
          refusal (replyOf (addEntry e s)) :=
        (congrArg refusal (replyOf_read _ (fun _ i => Reply.count i) s)).trans (refusal_map _ _)
      have hrun := addEntry_eq e s
      rw [hafter, hreply]
      cases hadd : s.store.add e with
      | ok store =>
          rw [hadd] at hrun
          simp only [hrun]
          exact Or.inr ⟨rfl, _, Enters.add hadd, rfl⟩
      | error err =>
          rw [hadd] at hrun
          simp only [hrun]
          exact Or.inl ⟨rfl, rfl⟩
  | refresh => exact enters_of_keepsOutline .refresh (by rw [hafter]; exact keepsOutline_refresh s)
  | citations =>
      exact enters_of_keepsOutline .citations (by rw [hafter]; exact keepsOutline_refresh s)
  | number id =>
      exact enters_of_keepsOutline (.number id)
        (by rw [hafter]; exact congrArg outline (stateAfter_locate id s))
  | disambiguation id =>
      exact enters_of_keepsOutline (.disambiguation id)
        (by rw [hafter]; exact congrArg outline (stateAfter_locate id s))
  | bibliography =>
      exact enters_of_keepsOutline .bibliography
        (by rw [hafter]; exact keepsOutline_bibliography s)

/-! ## Runs -/

/-- The calls that were not refused, given what was replied. -/
def acceptedCalls (calls : List SessionCall) (replies : List (Except SessionError Reply)) :
    List SessionCall :=
  (calls.zip replies).filterMap fun (call, reply) => if refusal reply then none else some call

theorem acceptedCalls_cons (call : SessionCall) (rest : List SessionCall)
    (reply : Except SessionError Reply) (others : List (Except SessionError Reply)) :
    acceptedCalls (call :: rest) (reply :: others) =
      if refusal reply then acceptedCalls rest others else call :: acceptedCalls rest others := by
  cases hreply : refusal reply <;> simp [acceptedCalls, hreply]

/-- What every call that is taken in keeps holds after a run, if it depends on nothing but the
    outline and on the calls that were not refused. -/
theorem runCalls_enters {P : List SessionCall → Session → Prop}
    (hcongr : ∀ l s u, s.outline = u.outline → P l s → P l u)
    (hstep : ∀ l s call u, P l s → Enters s call u → P (l ++ [call]) u)
    (calls : List SessionCall) : ∀ (l : List SessionCall) (s : Session), P l s →
      P (l ++ acceptedCalls calls (runCalls SessionCall.run calls s).1)
        (runCalls SessionCall.run calls s).2 := by
  induction calls with
  | nil =>
      intro l s h
      rw [acceptedCalls, List.zip_nil_left, List.filterMap_nil, List.append_nil]
      exact h
  | cons call rest ih =>
      intro l s h
      rw [runCalls_cons, acceptedCalls_cons]
      rcases enters_run call s with ⟨hrefused, hsame⟩ | ⟨htaken, u, henters, hsame⟩
      · rw [hrefused, if_pos rfl]
        exact ih l _ (hcongr l _ _ hsame.symm h)
      · have hnext := ih (l ++ [call]) _ (hcongr _ _ _ hsame.symm (hstep l s call u h henters))
        rw [List.append_assoc, List.singleton_append] at hnext
        rw [htaken, if_neg Bool.false_ne_true]
        exact hnext

end Session

end CslProcessor
