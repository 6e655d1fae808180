import CslProcessor.Proofs.Processor.Refusals
import CslProcessor.Proofs.Text.Digits

/-!
# The places of a processor

A processor and its session each keep a place in the document. The place of the session is the
position of the last citation that was taken in. The place of the processor, behind which the next
citation goes unless the caller says where, is the position of the last citation that was rendered.
Both stay where they are when a citation is refused, and both move when one is rendered. But when a
citation fails after it was taken in, only the place of the session moves, and the processor may
fall behind.

What both places are after a run follows from its calls and its replies alone. So these tell when a
citation without a position is refused as out of order, although its entries are stored: when a
citation behind the last one that was rendered has failed, and since then none was taken in and
nothing was forgotten. `unreadableLocator_outOfOrder` shows such runs.

## Main definitions

* `Places`, `Processor.places`: Two places in a document, and those of a processor.
* `Places.cited`, `Places.after`, `Places.replay`: How they move by a citation, a call and a run.
* `Places.Lost`: The processor has fallen behind its session.
* `Strays`, `Idle`, `StraysOff`: Calls that make it so, calls that leave it so, and such runs.

## Theorems

* `Places.lost_replay_iff`: After which runs the processor has fallen behind.
* `Processor.citesAt_process`: How a citation moves the places.
* `Processor.places_run`, `Processor.places_runCalls`: The places after a call and after a run.
* `Processor.outOfOrder_process_iff`: When a citation of stored entries is out of order.
* `Processor.cite_outOfOrder_iff`: After which runs a citation without a position is.
-/

namespace CslProcessor

/-- Two places in a document. -/
structure Places where
  /-- The position of the last citation that was rendered, 0 if none was. -/
  rendered : Int := 0
  /-- The position of the last citation that was taken in. -/
  taken : Option Int := none
  deriving Repr, DecidableEq

/-- Where a call cites, if it does, given the position of the last citation that was rendered. -/
def ProcessorCall.position? (rendered : Int) : ProcessorCall → Option Int
  | cite _ _ _ position => some (position.getD (rendered + 1))
  | format targets _ _ => if targets.isEmpty then none else some (rendered + 1)
  | process event => some event.position
  | _ => none

/-- Whether a call has everything forgotten. -/
def ProcessorCall.forgets : ProcessorCall → Bool
  | clear => true
  | _ => false

namespace Places

/-- The places after a citation at a position, given what was replied. -/
def cited {α : Type} (w : Places) (position : Int) : Except SessionError α → Places
  | .ok _ => ⟨position, some position⟩
  | .error e => if e.isInput then w else { w with taken := some position }

/-- The places after a call, given what was replied. -/
def after (w : Places) (call : ProcessorCall) (reply : Except SessionError Reply) : Places :=
  match call.position? w.rendered with
  | some position => w.cited position reply
  | none => if call.forgets then {} else w

/-- The places after some calls, each with what was replied. -/
def replay (w : Places) (log : List (ProcessorCall × Except SessionError Reply)) : Places :=
  log.foldl (fun w x => w.after x.1 x.2) w

/-- The place where the next citation would go is taken. -/
def Lost (w : Places) : Prop :=
  ∃ last, w.taken = some last ∧ w.rendered + 1 ≤ last

end Places

/-- A call cites behind the last citation that was rendered, and fails after the citation was taken
    in. -/
def Strays (w : Places) (x : ProcessorCall × Except SessionError Reply) : Prop :=
  ∃ position e, x.1.position? w.rendered = some position ∧ w.rendered < position ∧
    x.2 = .error e ∧ e.isInput = false

/-- A call has no citation taken in, and has nothing forgotten. -/
def Idle (x : ProcessorCall × Except SessionError Reply) : Prop :=
  x.1.forgets = false ∧ (Session.refusal x.2 = true ∨ ∀ rendered, x.1.position? rendered = none)

/-- A call in a run strays, and the calls behind it are idle. -/
def StraysOff (log : List (ProcessorCall × Except SessionError Reply)) : Prop :=
  ∃ front x back, log = front ++ x :: back ∧ Strays (Places.replay {} front) x ∧ ∀ y ∈ back, Idle y

namespace Places

/-! ## When the processor falls behind -/

theorem replay_concat (w : Places) (log : List (ProcessorCall × Except SessionError Reply))
    (x : ProcessorCall × Except SessionError Reply) :
    w.replay (log ++ [x]) = (w.replay log).after x.1 x.2 := by
  rw [replay, List.foldl_append]
  rfl

-- Whether a call cites does not depend on where.
theorem position?_eq_none {call : ProcessorCall} {m : Int} (h : call.position? m = none) (n : Int) :
    call.position? n = none := by
  cases call with
  | format targets locator locatorType =>
      cases targets with
      | nil => rfl
      | cons t rest => cases h
  | cite => cases h
  | process => cases h
  | _ => rfl

theorem forgets_of_position? {call : ProcessorCall} {m n : Int} (h : call.position? m = some n) :
    call.forgets = false := by
  cases call with
  | clear => cases h
  | _ => rfl

-- A citation that was rendered is the last one for the processor and for its session.
theorem not_lost_cited_ok {α : Type} (w : Places) (position : Int) (a : α) :
    ¬ (w.cited position (.ok a)).Lost := by
  rintro ⟨last, hlast, hle⟩
  have heq : position = last := Option.some.inj hlast
  change position + 1 ≤ last at hle
  omega

theorem cited_of_isInput {α : Type} (w : Places) (position : Int) {e : SessionError}
    (h : e.isInput = true) : w.cited position (.error e : Except SessionError α) = w :=
  if_pos h

theorem lost_cited_error_iff {α : Type} (w : Places) (position : Int) {e : SessionError}
    (h : e.isInput = false) :
    (w.cited position (.error e : Except SessionError α)).Lost ↔ w.rendered < position := by
  rw [cited, h, if_neg Bool.false_ne_true]
  constructor
  · rintro ⟨last, hlast, hle⟩
    rw [← Option.some.inj hlast] at hle
    exact Int.lt_iff_add_one_le.2 hle
  · exact fun hlt => ⟨position, rfl, Int.lt_iff_add_one_le.1 hlt⟩

-- A call that cites is idle only if it is refused.
theorem idle_iff_of_position? {call : ProcessorCall} {m n : Int}
    (h : call.position? m = some n) (reply : Except SessionError Reply) :
    Idle (call, reply) ↔ Session.refusal reply = true := by
  refine ⟨fun hidle => hidle.2.resolve_right fun hnone => ?_,
    fun hrefused => ⟨forgets_of_position? h, Or.inl hrefused⟩⟩
  rw [hnone m] at h
  cases h

/-- A call makes the processor fall behind, or leaves it behind. -/
theorem lost_after_iff (w : Places) (call : ProcessorCall) (reply : Except SessionError Reply) :
    (w.after call reply).Lost ↔ Strays w (call, reply) ∨ w.Lost ∧ Idle (call, reply) := by
  unfold after
  cases hposition : call.position? w.rendered with
  | none =>
      have hstrays : ¬ Strays w (call, reply) := by
        rintro ⟨position, e, hsome, -⟩
        rw [hposition] at hsome
        cases hsome
      rw [or_iff_right hstrays]
      cases hforgets : call.forgets with
      | true =>
          refine ⟨nofun, fun ⟨_, hidle⟩ => ?_⟩
          rw [Idle, hforgets] at hidle
          exact absurd hidle.1.symm Bool.false_ne_true
      | false =>
          exact ⟨fun h => ⟨h, hforgets, Or.inr (position?_eq_none hposition)⟩, And.left⟩
  | some position =>
      rw [idle_iff_of_position? hposition]
      cases reply with
      | ok r =>
          refine ⟨fun h => absurd h (not_lost_cited_ok w position r), ?_⟩
          rintro (⟨_, _, -, -, herror, -⟩ | ⟨-, hrefused⟩)
          · cases herror
          · cases hrefused
      | error e =>
          cases hinput : e.isInput with
          | true =>
              simp only [cited_of_isInput w position hinput]
              refine ⟨fun h => Or.inr ⟨h, hinput⟩, ?_⟩
              rintro (⟨_, e', -, -, herror, hfault⟩ | ⟨h, -⟩)
              · rw [← Except.error.inj herror, hinput] at hfault
                cases hfault
              · exact h
          | false =>
              simp only [lost_cited_error_iff w position hinput]
              refine ⟨fun h => Or.inl ⟨position, e, hposition, h, rfl, hinput⟩, ?_⟩
              rintro (⟨position', _, hsome, hlt, -, -⟩ | ⟨-, hrefused⟩)
              · rw [hposition] at hsome
                rw [Option.some.inj hsome]
                exact hlt
              · rw [Session.refusal, hinput] at hrefused
                cases hrefused

/-- The processor has fallen behind after a run if a call of it strays and those behind are idle. -/
theorem lost_replay_iff (log : List (ProcessorCall × Except SessionError Reply)) :
    (replay {} log).Lost ↔ StraysOff log := by
  induction log using List.reverseRecOn with
  | nil =>
      refine ⟨nofun, ?_⟩
      rintro ⟨front, x, back, heq, -⟩
      exact absurd heq.symm (by simp)
  | append_singleton log x ih =>
      rw [replay_concat, lost_after_iff, ih]
      constructor
      · rintro (hstrays | ⟨⟨front, y, back, rfl, hstrays, hidle⟩, hx⟩)
        · exact ⟨log, x, [], rfl, hstrays, fun _ h => absurd h List.not_mem_nil⟩
        · refine ⟨front, y, back ++ [x], by simp, hstrays, fun z hz => ?_⟩
          rcases List.mem_append.1 hz with hz | hz
          · exact hidle z hz
          · rw [List.mem_singleton.1 hz]
            exact hx
      · rintro ⟨front, y, back, heq, hstrays, hidle⟩
        rcases List.eq_nil_or_concat' back with rfl | ⟨back, z, rfl⟩
        · have hsplit := List.append_inj' heq rfl
          rw [List.singleton_inj.1 hsplit.2, hsplit.1]
          exact Or.inl hstrays
        · rw [← List.cons_append, ← List.append_assoc] at heq
          have hsplit := List.append_inj' heq rfl
          rw [List.singleton_inj.1 hsplit.2]
          refine Or.inr ⟨⟨front, y, back, hsplit.1, hstrays, fun v hv => ?_⟩, ?_⟩
          · exact hidle v (List.mem_append_left _ hv)
          · exact hidle z (List.mem_append_right _ (List.mem_singleton_self z))

end Places

namespace Processor

open Session (refusal)

variable {α β : Type}

/-- The places of a processor and of its session. -/
def places (p : Processor) : Places :=
  ⟨p.lastPosition, p.session.history.lastPosition⟩

/-! ## Work that leaves the places as they are -/

/-- Work after which the places are what they were, whether or not it fails. -/
def Stays (m : Action α) : Prop :=
  ∀ p, (stateAfter (m p)).places = p.places

/-- Work in sequence stays in its place if each piece of it does. -/
theorem Stays.bind {m : Action α} {f : α → Action β} (hm : Stays m) (hf : ∀ a, Stays (f a)) :
    Stays (m >>= f) := by
  intro p
  have hp := hm p
  cases hrun : m p with
  | ok a q =>
      rw [hrun] at hp
      rw [bind_of_ok hrun, hf a q]
      exact hp
  | error e q =>
      rw [hrun] at hp
      rw [bind_of_error hrun]
      exact hp

theorem stays_pure (a : α) : Stays (pure a) :=
  fun _ => rfl

-- Sessions of one outline have taken in the same last citation.
theorem lastPosition_of_outline {s u : Session} (h : s.outline = u.outline) :
    s.history.lastPosition = u.history.lastPosition :=
  congrArg (fun v => v.history.lastPosition) h

theorem stays_onSession {a : Session.Action α}
    (ha : ∀ s, (stateAfter (a s)).history.lastPosition = s.history.lastPosition) :
    Stays (onSession a) := by
  intro p
  rw [stateAfter_onSession, places, ha p.session]
  rfl

theorem stays_addReference (e : Entry) : Stays (addReference e) := by
  intro p
  rw [addReference_eq]
  cases p.session.store.add e with
  | ok store => rfl
  | error err => cases err <;> rfl

theorem stays_addReferences (es : List Entry) : Stays (addReferences es) := by
  induction es with
  | nil => exact stays_pure _
  | cons e rest ih => exact (stays_addReference e).bind fun _ => ih.bind fun _ => stays_pure _

theorem stays_nocite (ids : List String) : Stays (nocite ids) := by
  refine stays_onSession fun s => ?_
  have houtline := Session.outline_nocite ids s
  cases hids : s.locateAll ids with
  | error e =>
      rw [hids] at houtline
      exact lastPosition_of_outline houtline
  | ok indexes =>
      rw [hids] at houtline
      rw [lastPosition_of_outline houtline, Session.mentioning, History.mention_eq]

theorem stays_generateBibliography (ids : List String) : Stays (generateBibliography ids) := by
  have hprepare : Stays (prepare ids) := by
    intro p
    rw [prepare_eq]
    cases ids.isEmpty with
    | false => exact stays_nocite ids p
    | true =>
        cases p.session.history.events.isEmpty with
        | false => rfl
        | true => exact stays_nocite p.session.store.ids p
  rw [generateBibliography_eq]
  refine hprepare.bind fun _ => Stays.bind (stays_onSession fun s => ?_) fun _ => stays_pure _
  exact lastPosition_of_outline (Session.keepsOutline_bibliography s)

theorem stays_updates : Stays updates :=
  (stays_onSession fun s => lastPosition_of_outline (Session.keepsOutline_refresh s)).bind
    fun _ => stays_pure _

theorem stays_citations : Stays citations := by
  refine Stays.bind (stays_onSession fun s => ?_) fun _ => stays_pure _
  have hread := stateAfter_read Session.refresh
    (fun u _ => u.history.events.map EventRecord.rendered) s
  exact (congrArg (·.history.lastPosition) hread).trans
    (lastPosition_of_outline (Session.keepsOutline_refresh s))

/-! ## Citations -/

-- A citation is taken in unless it is refused, whatever happens afterwards.
theorem lastPosition_process (event : CitationEvent) (s : Session) :
    (stateAfter (Session.process event s)).history.lastPosition =
      if refusal (replyOf (Session.process event s)) then s.history.lastPosition
      else some event.position := by
  have houtline := Session.outline_process event s
  rw [Session.refusal_process]
  cases haccept : s.accepted event with
  | error e =>
      rw [haccept] at houtline
      exact lastPosition_of_outline houtline
  | ok indexes =>
      rw [haccept] at houtline
      exact lastPosition_of_outline houtline

/-- Work that moves the places as a citation at a position does. -/
def CitesAt (m : Action α) (position : Processor → Int) : Prop :=
  ∀ p, (stateAfter (m p)).places = p.places.cited (position p) (replyOf (m p))

-- Whatever is made of the output.
theorem CitesAt.map {m : Action α} {position : Processor → Int} (h : CitesAt m position)
    (f : α → β) : CitesAt (do return f (← m)) position := by
  intro p
  have hp := h p
  cases hrun : m p with
  | ok a q =>
      rw [hrun] at hp
      rw [bind_of_ok hrun]
      exact hp
  | error e q =>
      rw [hrun] at hp
      rw [bind_of_error hrun]
      exact hp

/-- A citation that is refused leaves the places as they are; one that is rendered moves both, and
    one that fails otherwise moves that of the session. -/
theorem citesAt_process (event : CitationEvent) :
    CitesAt (process event) fun _ => event.position := by
  intro p
  have hlast := lastPosition_process event p.session
  cases hrun : Session.process event p.session with
  | ok c s =>
      have honSession : onSession (Session.process event) p = .ok c { p with session := s } := by
        rw [onSession, hrun]
      have hprocess : process event p =
          .ok c { p with session := s, lastPosition := event.position } := bind_of_ok honSession _
      rw [hrun] at hlast
      rw [hprocess]
      exact congrArg (Places.mk event.position) hlast
  | error e s =>
      have honSession : onSession (Session.process event) p = .error e { p with session := s } := by
        rw [onSession, hrun]
      have hprocess : process event p = .error e { p with session := s } :=
        bind_of_error honSession _
      rw [hrun] at hlast
      rw [hprocess]
      refine (congrArg (Places.mk p.lastPosition) hlast).trans ?_
      change Places.mk p.lastPosition (if e.isInput = true then _ else _) =
        if e.isInput = true then p.places else _
      split <;> rfl

theorem citesAt_cite (targets : List CiteTarget) (locator : Option String) (locatorType : String)
    (position : Option Int) :
    CitesAt (cite targets locator locatorType position)
      fun p => position.getD (p.lastPosition + 1) := by
  intro p
  unfold cite
  rw [get_bind]
  exact citesAt_process _ p

/-! ## Calls and runs -/

/-- The places after a call follow from those before and from what was replied. -/
theorem places_run (call : ProcessorCall) (p : Processor) :
    (stateAfter (call.run p)).places = p.places.after call (replyOf (call.run p)) := by
  cases call with
  | add e => exact ((stays_addReference e).bind fun _ => stays_pure _) p
  | addAll es => exact ((stays_addReferences es).bind fun _ => stays_pure _) p
  | find id => rfl
  | cite targets locator locatorType position =>
      exact (citesAt_cite targets locator locatorType position).map _ p
  | format targets locator locatorType =>
      cases targets with
      | nil => rfl
      | cons t rest =>
          have hcite := citesAt_cite (t :: rest) locator locatorType none
          exact (hcite.map RenderedCitation.toText).map Reply.text p
  | process event => exact (citesAt_process event).map _ p
  | updates => exact (stays_updates.bind fun _ => stays_pure _) p
  | citations => exact (stays_citations.bind fun _ => stays_pure _) p
  | nocite ids => exact ((stays_nocite ids).bind fun _ => stays_pure _) p
  | bibliography ids => exact ((stays_generateBibliography ids).bind fun _ => stays_pure _) p
  | clear => rfl

/-- So do the places after a run. -/
theorem places_runCalls (calls : List ProcessorCall) :
    ∀ p : Processor, (runCalls ProcessorCall.run calls p).2.places =
      p.places.replay (calls.zip (runCalls ProcessorCall.run calls p).1) := by
  induction calls with
  | nil => exact fun p => rfl
  | cons call rest ih =>
      intro p
      rw [runCalls_cons, ih, places_run]
      rfl

/-! ## Citations without a position -/

-- Entries that are stored are all found.
theorem exists_locateAll {s : Session} {ids : List String}
    (h : ∀ id ∈ ids, (s.store.indexOf? id).isSome = true) :
    ∃ indexes, s.locateAll ids = .ok indexes := by
  induction ids with
  | nil => exact ⟨[], rfl⟩
  | cons id rest ih =>
      rcases ih fun i hi => h i (List.mem_cons_of_mem _ hi) with ⟨indexes, hrest⟩
      rcases Option.isSome_iff_exists.1 (h id List.mem_cons_self) with ⟨index, hid⟩
      exact ⟨index :: indexes, by rw [Session.locateAll, hid, hrest]; rfl⟩

/-- The citation of some entries behind the last one that was rendered. -/
def nextEvent (p : Processor) (ids : List String) (locator : Option String)
    (locatorType : String) : CitationEvent :=
  ⟨(ids.map CiteTarget.ofId).map (CiteTarget.item locator locatorType), p.lastPosition + 1⟩

theorem replyOf_cite (p : Processor) (ids : List String) (locator : Option String)
    (locatorType : String) :
    replyOf (cite (ids.map CiteTarget.ofId) locator locatorType none p) =
      replyOf (Session.process (p.nextEvent ids locator locatorType) p.session) := by
  unfold cite
  rw [get_bind, ← replyOf_onSession]
  change replyOf (process (p.nextEvent ids locator locatorType) p) = _
  cases hrun : onSession (Session.process (p.nextEvent ids locator locatorType)) p with
  | ok c q => rw [process, bind_of_ok hrun]; rfl
  | error e q => rw [process, bind_of_error hrun]

theorem entryIds_nextEvent (p : Processor) (ids : List String) (locator : Option String)
    (locatorType : String) : (p.nextEvent ids locator locatorType).entryIds = ids := by
  simp [nextEvent, CitationEvent.entryIds, List.map_map, Function.comp_def, CiteTarget.item]

-- A citation of stored entries is out of order if it does not stand behind the last one taken in.
theorem outOfOrder_process_iff {s : Session} {event : CitationEvent}
    (hstored : ∀ id ∈ event.entryIds, (s.store.indexOf? id).isSome = true) (position last : Int) :
    replyOf (Session.process event s) = .error (.outOfOrder position last) ↔
      event.position = position ∧ s.history.lastPosition = some last ∧ position ≤ last := by
  rcases exists_locateAll hstored with ⟨indexes, hids⟩
  have hrefusal := Session.refusal_process event s
  -- Once a citation is accepted it fails for other reasons, if at all.
  have haccepted : s.accepted event = .ok indexes →
      replyOf (Session.process event s) ≠ .error (.outOfOrder position last) := by
    intro haccept heq
    rw [heq, haccept] at hrefusal
    cases hrefusal
  cases hlast : s.history.lastPosition with
  | none =>
      have haccept : s.accepted event = .ok indexes := by rw [Session.accepted, hids, hlast]
      refine ⟨fun h => absurd h (haccepted haccept), ?_⟩
      rintro ⟨-, hlatest, -⟩
      cases hlatest
  | some latest =>
      by_cases hle : event.position ≤ latest
      · have haccept : s.accepted event = .error (.outOfOrder event.position latest) := by
          rw [Session.accepted, hids, hlast]
          exact if_pos hle
        rw [Session.process_eq, haccept]
        constructor
        · intro h
          injection h with h
          injection h with hposition hlatest
          exact ⟨hposition, by rw [hlatest], by rw [← hposition, ← hlatest]; exact hle⟩
        · rintro ⟨rfl, hlatest, -⟩
          rw [Option.some.inj hlatest]
          rfl
      · have haccept : s.accepted event = .ok indexes := by
          rw [Session.accepted, hids, hlast]
          exact if_neg hle
        refine ⟨fun h => absurd h (haccepted haccept), ?_⟩
        rintro ⟨rfl, hlatest, hle'⟩
        rw [Option.some.inj hlatest] at hle
        exact absurd hle' hle

/-- After any run, whatever replies it got, a citation of stored entries without a position is
    refused as out of order exactly if a citation of the run has strayed off: it stood behind the
    last one that was rendered and failed after it was taken in, and since then none was taken in
    and nothing was forgotten. In all other cases the position that the processor chooses is greater
    than that of the last citation that was taken in. -/
theorem cite_outOfOrder_iff {style : Style} {locale : Locale} {settings : EngineSettings}
    {calls : List ProcessorCall} {replies : List (Except SessionError Reply)} {p : Processor}
    (hrun : (replies, p) = runCalls ProcessorCall.run calls (start style locale settings))
    {ids : List String} (hstored : ∀ id ∈ ids, (p.session.store.indexOf? id).isSome = true)
    (locator : Option String) (locatorType : String) :
    ((∃ position last, replyOf (cite (ids.map CiteTarget.ofId) locator locatorType none p) =
        .error (.outOfOrder position last)) ↔ StraysOff (calls.zip replies)) ∧
      ((∀ last, p.session.history.lastPosition = some last → last < p.lastPosition + 1) ↔
        ¬ StraysOff (calls.zip replies)) := by
  have hreplies : replies = (runCalls ProcessorCall.run calls (start style locale settings)).1 :=
    congrArg Prod.fst hrun
  have hfinal : p = (runCalls ProcessorCall.run calls (start style locale settings)).2 :=
    congrArg Prod.snd hrun
  have hplaces : p.places = Places.replay {} (calls.zip replies) := by
    rw [hfinal, hreplies]
    exact places_runCalls calls (start style locale settings)
  have hlost : p.places.Lost ↔ StraysOff (calls.zip replies) := by
    rw [hplaces]
    exact Places.lost_replay_iff _
  rw [← hlost]
  constructor
  · rw [replyOf_cite]
    have hevent : ∀ id ∈ (p.nextEvent ids locator locatorType).entryIds,
        (p.session.store.indexOf? id).isSome = true := by
      rw [entryIds_nextEvent]
      exact hstored
    constructor
    · rintro ⟨position, last, hreply⟩
      rcases (outOfOrder_process_iff hevent position last).1 hreply with ⟨rfl, hlast, hle⟩
      exact ⟨last, hlast, hle⟩
    · rintro ⟨last, hlast, hle⟩
      exact ⟨_, last, (outOfOrder_process_iff hevent _ last).2 ⟨rfl, hlast, hle⟩⟩
  · constructor
    · rintro hbehind ⟨last, hlast, hle⟩
      exact absurd (hbehind last hlast) (Int.not_lt.2 hle)
    · intro hkept last hlast
      by_contra hle
      exact hkept ⟨last, hlast, Int.not_lt.1 hle⟩

/-- Calls of which the last one is refused. -/
def fifthPlace : List ProcessorCall :=
  [.add { id := "a" }, .cite [.ofId "a"] none "page" (some 5), .cite [.ofId "b"] none "page" none]

set_option maxRecDepth 100000 in
theorem cite_outOfOrder_iff_fifthPlace :
    ∃ replies p, (replies, p) = runCalls ProcessorCall.run fifthPlace twoWorks ∧
      ¬ StraysOff (fifthPlace.zip replies) ∧
      ∀ position last, replyOf (cite [.ofId "a"] none "page" none p) ≠
        .error (.outOfOrder position last) := by
  have hstored : ∀ id ∈ ["a"], ((runCalls ProcessorCall.run fifthPlace
      twoWorks).2.session.store.indexOf? id).isSome = true := by
    intro id hid
    rw [List.mem_singleton.1 hid]
    cbv
  have hrendered : (runCalls ProcessorCall.run fifthPlace twoWorks).2.lastPosition = 5 := by cbv
  have htaken : (runCalls ProcessorCall.run fifthPlace
      twoWorks).2.session.history.lastPosition = some 5 := by cbv
  rcases cite_outOfOrder_iff rfl hstored none "page" with ⟨hreply, hkept⟩
  have hstraight := hkept.1 fun last hlast => by
    have heq : 5 = last := Option.some.inj (htaken.symm.trans hlast)
    have hlt : last < (runCalls ProcessorCall.run fifthPlace twoWorks).2.lastPosition + 1 := by
      omega
    exact hlt
  exact ⟨_, _, rfl, hstraight, fun position last h => hstraight (hreply.1 ⟨position, last, h⟩)⟩

end Processor

/-! ## A locator that cannot be read -/

namespace Render

-- A number that cannot be read cannot be printed.
theorem numberRuns_of_unreadable {v : NumberText} {err : NotDecimal} (h : v.integer = .error err)
    (ctx : RenderContext) (name : String) (form : NumberForm) :
    numberRuns ctx name form (.number v) = .error (.notDecimal err.text) := by
  rw [numberRuns, NumberText.format, h]
  rfl

theorem renderNumber_locator {ctx : RenderContext} {locator : String} {err : NotDecimal}
    (hlocator : ctx.cite.locator = some locator)
    (hread : NumberText.integer ⟨locator⟩ = .error err) (e : Entry) (form : NumberForm)
    (f : Formatting) :
    renderNumber ctx e "locator" form f {} = .error (.notDecimal err.text) {} := by
  have hne : locator ≠ "" := by
    rintro rfl
    cases hread
  have hvalue : numberValue? ctx e "locator" = some (.number ⟨locator⟩) := by
    simp [numberValue?, hlocator, hne]
  unfold renderNumber
  rw [get_bind, if_neg (by decide), hvalue]
  simp only [numberRuns_of_unreadable hread]
  rfl

end Render

namespace Processor

/-- A style that prints locators as numbers. -/
def numberedLocators : Style :=
  { id := "style"
    citation := { layout := { children :=
      [.text (.ofValue "W") {}, .number "locator" .numeric {}] } } }

-- In this style a cite with a locator that cannot be read cannot be rendered.
theorem renderItem_numberedLocators {ctx : RenderContext} {locator : String} {err : NotDecimal}
    (hlocator : ctx.cite.locator = some locator)
    (hread : NumberText.integer ⟨locator⟩ = .error err) (e : Entry) (lead trail : String) :
    Render.renderItem ctx e numberedLocators.citation.layout lead trail [] =
      .error (.notDecimal err.text) [] := by
  have hnodes : ∀ ms, Render.renderAll ms ctx e
      [.text (.ofValue "W") {}, .number "locator" .numeric {}] {} =
        .error (.notDecimal err.text) {} := by
    intro ms
    have htext : ∃ out, Render.renderNode ms ctx e (.text (.ofValue "W") {}) {} = .ok out {} := by
      rw [Render.renderNode]
      exact ⟨_, rfl⟩
    rcases htext with ⟨out, htext⟩
    have hnumber := Render.renderNumber_locator hlocator hread e .numeric {}
    rw [Render.renderAll, bind_of_ok htext, Render.renderAll, Render.renderNode]
    exact bind_of_error (bind_of_error hnumber _) _
  have hwalk : Render.walkEntry ctx e numberedLocators.citation.layout.children {} =
      .error (.notDecimal err.text) {} := bind_of_error (hnodes _) _
  have hruns : Render.entryRuns ctx e numberedLocators.citation.layout.children [] =
      .error (.notDecimal err.text) [] := by
    rw [Render.entryRuns, hwalk]
    rfl
  exact bind_of_error hruns _

-- Neither can a citation that has such a cite and no other.
theorem renderRecord_numberedLocators {s : Session} (hstyle : s.style = numberedLocators)
    {r : EventRecord} {item : CitationItem} {index : Nat} {c : CiteContext} {locator : String}
    {err : NotDecimal} (hitems : r.event.items = [item]) (hindexes : r.indexes = [index])
    (hcites : r.cites = [c]) (hlocator : c.locator = some locator)
    (hread : NumberText.integer ⟨locator⟩ = .error err) (k : Nat) :
    s.renderRecord k r [] = .error (.notDecimal err.text) [] := by
  have hcited : ∃ ctx lead trail, ctx.cite.locator = some locator ∧
      s.citedItems r = [{ entry := s.entryAt index, context := ctx, lead, trail }] := by
    unfold Session.citedItems
    rw [hitems, hindexes, hcites]
    exact ⟨_, _, _, hlocator, rfl⟩
  rcases hcited with ⟨ctx, lead, trail, hctx, hcited⟩
  have hordered : s.orderedItems (s.citedItems r) [] = .ok (s.citedItems r) [] := by
    unfold Session.orderedItems
    rw [hstyle]
    rfl
  unfold Session.renderRecord
  rw [bind_of_ok hordered, hcited, hstyle]
  have hitem := renderItem_numberedLocators hctx hread (s.entryAt index) lead trail
  have hrendered : Render.renderItems numberedLocators.citation.layout
      [{ entry := s.entryAt index, context := ctx, lead, trail }] [] =
        .error (.notDecimal err.text) [] := bind_of_error hitem _
  exact bind_of_error (bind_of_error hrendered _) _

-- So a citation that is the first one of its session fails when it is rendered.
theorem renderEvent_numberedLocators {s : Session} (hstyle : s.style = numberedLocators)
    {r : EventRecord} (hr : s.history.events[0]? = some r) {item : CitationItem} {index : Nat}
    {c : CiteContext} {locator : String} {err : NotDecimal} (hitems : r.event.items = [item])
    (hindexes : r.indexes = [index]) (hcites : r.cites = [c]) (hlocator : c.locator = some locator)
    (hread : NumberText.integer ⟨locator⟩ = .error err) :
    ∃ s', Session.renderEvent 0 s = .error (.rendering (.notDecimal err.text)) s' := by
  have hfails := renderRecord_numberedLocators hstyle hitems hindexes hcites hlocator hread 0
  rcases Session.renderEvent_cases hr with ⟨_, _, _, hok, -, -⟩ | ⟨e, _, s', herror, hrun⟩
  · rw [hfails] at hok
    cases hok
  · rw [hfails] at herror
    injection herror with he _
    exact ⟨s', by rw [hrun, ← he]⟩

/-- A processor with one entry, without citations. -/
def oneNumbered : Processor :=
  stateAfter (addReference { id := "a" } (start numberedLocators { lang := "" }))

/-- Its citation with a locator. -/
def located (locator : String) : CitationEvent :=
  oneNumbered.nextEvent ["a"] (some locator) "page"

-- The citation is taken in and told apart, and then it cannot be rendered.
theorem replyOf_located {locator : String} {err : NotDecimal}
    (hread : NumberText.integer ⟨locator⟩ = .error err) :
    replyOf (Session.process (located locator) oneNumbered.session) =
      .error (.rendering (.notDecimal err.text)) := by
  have haccept : oneNumbered.session.accepted (located locator) = .ok [0] := rfl
  have hrecord : ∃ r c,
      (oneNumbered.session.recorded (located locator) [0]).history.events[0]? = some r ∧
        r.event.items = [{ entryId := "a", locator := some locator }] ∧ r.indexes = [0] ∧
          r.cites = [c] ∧ c.locator = some locator := ⟨_, _, rfl, rfl, rfl, rfl, rfl⟩
  rcases hrecord with ⟨r, c, hr, hitems, hindexes, hcites, hlocator⟩
  have htold : replyOf (Session.disambiguate
      (oneNumbered.session.recorded (located locator) [0])) = .ok [] := by cbv
  rw [Session.process_eq, haccept]
  simp only
  unfold Session.processAccepted
  rw [get_bind, set_bind]
  rcases Session.disambiguate_cases (oneNumbered.session.recorded (located locator) [0]) with
    ⟨a, t, s, -, hrun, hquiet⟩ | ⟨e, s, hrun, -⟩
  · have hs := Session.eq_of_quiet hquiet
    rw [bind_of_ok hrun, get_bind, modify_bind, hs]
    have hfails : ∀ (f : RenderedCitation → Session.Action RenderedCitation) (u : Session),
        u.style = numberedLocators →
        u.history = (oneNumbered.session.recorded (located locator) [0]).history →
        replyOf ((Session.renderEvent 0 >>= f) u) =
          .error (.rendering (.notDecimal err.text)) := by
      intro f u hstyle hhistory
      rw [← hhistory] at hr
      rcases renderEvent_numberedLocators hstyle hr hitems hindexes hcites hlocator hread with
        ⟨u', hu⟩
      rw [bind_of_error hu]
      rfl
    exact hfails _ _ rfl rfl
  · rw [hrun] at htold
    cases htold

/-- Calls of which the second one strays if the locator cannot be read. -/
def locatedCalls (locator : String) : List ProcessorCall :=
  [.add { id := "a" }, .cite [.ofId "a"] (some locator) "page" none,
    .cite [.ofId "a"] none "page" none]

/-- A citation with a locator that cannot be read fails, but its place is taken. So is the place of
    the next citation, although that has no locator and its entry is stored. -/
theorem unreadableLocator_outOfOrder {locator : String} {err : NotDecimal}
    (hread : NumberText.integer ⟨locator⟩ = .error err) :
    (runCalls ProcessorCall.run (locatedCalls locator)
      (start numberedLocators { lang := "" })).1 =
      [.ok (.truth true), .error (.rendering (.notDecimal err.text)),
        .error (.outOfOrder 1 1)] := by
  have hadd : (ProcessorCall.add { id := "a" }).run (start numberedLocators { lang := "" }) =
      .ok (.truth true) oneNumbered := rfl
  have hreply := replyOf_located hread
  have houtline := Session.outline_process (located locator) oneNumbered.session
  have haccept : oneNumbered.session.accepted (located locator) = .ok [0] := rfl
  rw [haccept] at houtline
  cases hrun : Session.process (located locator) oneNumbered.session with
  | ok c s =>
      rw [hrun] at hreply
      cases hreply
  | error e s =>
      rw [hrun] at hreply houtline
      have hsession : onSession (Session.process (located locator)) oneNumbered =
          .error e { oneNumbered with session := s } := by
        rw [onSession, hrun]
      have hcite : cite [.ofId "a"] (some locator) "page" none oneNumbered =
          .error e { oneNumbered with session := s } := bind_of_error hsession _
      have hcall : (ProcessorCall.cite [.ofId "a"] (some locator) "page" none).run oneNumbered =
          .error e { oneNumbered with session := s } := bind_of_error hcite _
      -- The citation has been taken in at the first position.
      have hlast : s.history.lastPosition = some 1 := lastPosition_of_outline houtline
      have hstore := congrArg Session.store houtline
      change s.store = oneNumbered.session.store at hstore
      have hnext : replyOf (cite (["a"].map .ofId) none "page" none
          { oneNumbered with session := s }) = .error (.outOfOrder 1 1) := by
        rw [replyOf_cite, outOfOrder_process_iff]
        · exact ⟨rfl, hlast, Int.le_refl 1⟩
        · rw [entryIds_nextEvent]
          change ∀ id ∈ ["a"], (s.store.indexOf? id).isSome = true
          rw [hstore]
          decide
      have hthird : replyOf ((ProcessorCall.cite [.ofId "a"] none "page" none).run
          { oneNumbered with session := s }) = .error (.outOfOrder 1 1) :=
        (replyOf_read _ (fun _ c => Reply.citation c) _).trans
          (congrArg (Except.map Reply.citation) hnext)
      have hsecond : (Except.error e : Except SessionError Reply) =
          .error (.rendering (.notDecimal err.text)) :=
        congrArg Except.error (Except.error.inj hreply)
      rw [locatedCalls, runCalls_cons, hadd, stateAfter, runCalls_cons, hcall, stateAfter,
        runCalls_cons, hthird, replyOf, replyOf, hsecond]
      rfl

theorem squaredLocator_outOfOrder :
    (runCalls ProcessorCall.run (locatedCalls "²") (start numberedLocators { lang := "" })).1 =
      [.ok (.truth true), .error (.rendering (.notDecimal "²")), .error (.outOfOrder 1 1)] :=
  unreadableLocator_outOfOrder superscriptTwo_integer

end Processor

end CslProcessor
