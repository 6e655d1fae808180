import CslProcessor.Proofs.Sequence
import CslProcessor.Proofs.Session.History

/-!
# What the Operations of a Session do

Every operation of a session, told as a change of the session. A session reports what it does, and
nothing that it does depends on its reports, so all of this is said of sessions without their
reports.

Input that is refused leaves no trace at all. Every other failure comes from telling entries apart
or from rendering, and is not a matter of input.

## Main definitions

* `Session.quiet`: A session without its reports.
* `Session.locateAll`, `Session.accepted`: Which input is accepted.
* `Session.recorded`, `Session.marked`, `Session.output`: The parts of what an operation changes.
* `Session.RerenderedOne`, `Session.Rerendered`: What rendering again does.

## Theorems

* `disambiguate_cases`, `renderEvent_cases`: The steps that may fail.
* `processAccepted_cases`, `nocite_cases`: The operations that mention entries.
* `renderEvent_one`, `renderEvents_cases`, `refresh_cases`: The operations that bring output up to
  date.
* `locate_cases`, `addEntry_eq`, `bibliography_cases`: The other operations.
-/

namespace CslProcessor

namespace Session

/-- A session without its reports. -/
def quiet (s : Session) : Session :=
  { s with log := default, journal := [] }

-- Sessions that differ in their reports only.
theorem eq_of_quiet {s u : Session} (h : s.quiet = u.quiet) :
    s = { u with log := s.log, journal := s.journal } := by
  rcases s with ⟨_, _, _, _, _, _, _, _, _⟩
  rcases u with ⟨_, _, _, _, _, _, _, _, _⟩
  simp only [quiet, mk.injEq, and_true] at h
  simp only [mk.injEq, and_true]
  exact h

/-! ## Accepted input -/

/-- The positions of identifiers in the store. -/
def locateAll (s : Session) : List String → Except SessionError (List Nat)
  | [] => .ok []
  | id :: rest =>
    match s.store.indexOf? id with
    | some index => (s.locateAll rest).map (index :: ·)
    | none => .error (.unknownEntry id)

/-- The positions of the entries of a citation that is accepted. -/
def accepted (s : Session) (event : CitationEvent) : Except SessionError (List Nat) :=
  match s.locateAll event.entryIds, s.history.lastPosition with
  | .error e, _ => .error e
  | .ok indexes, none => .ok indexes
  | .ok indexes, some last =>
    if event.position ≤ last then .error (.outOfOrder event.position last) else .ok indexes

-- Looking up identifiers changes nothing.
theorem mapM_locate {ι : Type} (f : ι → String) (l : List ι) (s : Session) :
    (l.mapM fun x => locate (f x)) s =
      match s.locateAll (l.map f) with
      | .ok indexes => .ok indexes s
      | .error e => .error e s := by
  induction l with
  | nil => rfl
  | cons x rest ih =>
      rw [List.mapM_cons, List.map_cons, locateAll]
      cases hx : s.store.indexOf? (f x) with
      | none =>
          have hloc : locate (f x) s = .error (.unknownEntry (f x)) s := by
            rw [locate, get_bind, hx]
            rfl
          rw [bind_of_error hloc]
      | some index =>
          have hloc : locate (f x) s = .ok index s := by
            rw [locate, get_bind, hx]
            rfl
          rw [bind_of_ok hloc]
          cases hrest : s.locateAll (rest.map f) with
          | error e =>
              rw [hrest] at ih
              rw [bind_of_error ih]
              rfl
          | ok indexes =>
              rw [hrest] at ih
              rw [bind_of_ok ih]
              rfl

-- Only unknown identifiers are refused when looking them up.
theorem isInput_of_locateAll {s : Session} {ids : List String} {e : SessionError}
    (h : s.locateAll ids = .error e) : e.isInput = true := by
  induction ids with
  | nil => exact absurd h (by simp only [locateAll, reduceCtorEq, not_false_eq_true])
  | cons id rest ih =>
      rw [locateAll] at h
      cases hid : s.store.indexOf? id with
      | none =>
          rw [hid] at h
          rw [← Except.error.inj h]
          rfl
      | some index =>
          rw [hid] at h
          cases hrest : s.locateAll rest with
          | error e' =>
              rw [hrest] at h
              exact ih (by rw [hrest, Except.error.inj h])
          | ok indexes =>
              rw [hrest] at h
              exact absurd h (by simp only [Except.map, reduceCtorEq, not_false_eq_true])

-- Identifiers that are found are found in the store.
theorem lt_size_of_locateAll {s : Session} {ids : List String} :
    ∀ {indexes : List Nat}, s.locateAll ids = .ok indexes →
      ∀ i ∈ indexes, i < s.store.size := by
  induction ids with
  | nil =>
      intro indexes h i hi
      rw [← Except.ok.inj h] at hi
      exact absurd hi List.not_mem_nil
  | cons id rest ih =>
      intro indexes h i hi
      rw [locateAll] at h
      cases hid : s.store.indexOf? id with
      | none =>
          rw [hid] at h
          exact absurd h (by simp only [reduceCtorEq, not_false_eq_true])
      | some index =>
          rw [hid] at h
          cases hrest : s.locateAll rest with
          | error e' =>
              rw [hrest] at h
              exact absurd h (by simp only [Except.map, reduceCtorEq, not_false_eq_true])
          | ok others =>
              rw [hrest] at h
              rw [← Except.ok.inj h] at hi
              rcases List.mem_cons.1 hi with rfl | hi
              · rw [EntryStore.indexOf?, List.findIdx?_eq_some_iff_getElem] at hid
                exact hid.1
              · exact ih hrest i hi

-- A citation that is accepted cites entries of the store.
theorem lt_size_of_accepted {s : Session} {event : CitationEvent} {indexes : List Nat}
    (h : s.accepted event = .ok indexes) : ∀ i ∈ indexes, i < s.store.size := by
  unfold accepted at h
  split at h
  · exact absurd h (by simp only [reduceCtorEq, not_false_eq_true])
  · rename_i hloc _
    rw [← Except.ok.inj h]
    exact lt_size_of_locateAll hloc
  · rename_i hloc _
    split at h
    · exact absurd h (by simp only [reduceCtorEq, not_false_eq_true])
    · rw [← Except.ok.inj h]
      exact lt_size_of_locateAll hloc

-- A citation that is not accepted is refused input.
theorem isInput_of_accepted {s : Session} {event : CitationEvent} {e : SessionError}
    (h : s.accepted event = .error e) : e.isInput = true := by
  unfold accepted at h
  split at h
  · rename_i hloc
    rw [← Except.error.inj h]
    exact isInput_of_locateAll hloc
  · exact absurd h (by simp only [reduceCtorEq, not_false_eq_true])
  · split at h
    · rw [← Except.error.inj h]
      rfl
    · exact absurd h (by simp only [reduceCtorEq, not_false_eq_true])

/-! ## Telling entries apart and rendering -/

/-- Telling entries apart puts the tracker of a resolution in place, or fails as it does. -/
theorem disambiguate_cases (s : Session) :
    (∃ a t s', Disambiguation.resolve s.policy s.keyRenderer s.history.mentioned s.tracker =
        .ok a t ∧ disambiguate s = .ok a.affected s' ∧
        s'.quiet = ({ s with tracker := t } : Session).quiet) ∨
    (∃ e s', disambiguate s = .error e s' ∧ e.isInput = false) := by
  unfold disambiguate
  cases h : Disambiguation.resolve s.policy s.keyRenderer s.history.mentioned s.tracker with
  | ok a t =>
      simp only [h]
      exact Or.inl ⟨a, t, _, rfl, rfl, rfl⟩
  | error e t =>
      simp only [h]
      refine Or.inr ⟨_, _, rfl, ?_⟩
      cases e <;> rfl

/-- A session with the output of a citation. -/
def output (s : Session) (k : Nat) (c : RenderedCitation) : Session :=
  { s with history := s.history.setRendered k c }

/-- Rendering a citation keeps its output, or fails. -/
theorem renderEvent_cases {s : Session} {k : Nat} {r : EventRecord}
    (hr : s.history.events[k]? = some r) :
    (∃ c notices s', s.renderRecord k r [] = .ok c notices ∧ renderEvent k s = .ok c s' ∧
        s'.quiet = (s.output k c).quiet) ∨
    (∃ e notices s', s.renderRecord k r [] = .error e notices ∧
        renderEvent k s = .error (.rendering e) s') := by
  unfold renderEvent
  rw [get_bind, hr]
  simp only
  cases h : s.renderRecord k r [] with
  | ok c notices =>
      have hren : rendering (s.renderRecord k r) s =
          .ok c { s with journal := notices.reverse.map Render.Notice.record ++ s.journal } := by
        rw [rendering, h]
      rw [bind_of_ok hren, modify_bind]
      exact Or.inl ⟨c, notices, _, rfl, rfl, rfl⟩
  | error e notices =>
      have hren : rendering (s.renderRecord k r) s = .error (.rendering e)
          { s with journal := notices.reverse.map Render.Notice.record ++ s.journal } := by
        rw [rendering, h]
      rw [bind_of_error hren]
      exact Or.inr ⟨e, notices, _, rfl, rfl⟩

/-! ## The operations that mention entries -/

/-- A session with one more citation. -/
def recorded (s : Session) (event : CitationEvent) (indexes : List Nat) : Session :=
  { s with history := s.history.record s.nearNoteDistance event indexes }

/-- A session after entries were told apart, whose dirty citations are those of the entries that
    may look different now, apart from one that is about to be rendered. -/
def marked (s : Session) (t : Disambiguation.Tracker) (affected : List Nat) (k : Nat) : Session :=
  let told : Session := { s with tracker := t }
  { told with dirty := (told.markDirty affected).dirty.erase k }

/-- What processing a citation does once it is accepted. -/
def processAccepted (event : CitationEvent) (indexes : List Nat) : Action RenderedCitation := do
  let s ← get
  let eventIndex := s.history.events.length
  set (s.recorded event indexes)
  let affected ← disambiguate
  let before := (← get).dirty.length
  modify fun s =>
    let marked := s.markDirty affected
    { marked with dirty := marked.dirty.erase eventIndex }
  let rendered ← renderEvent eventIndex
  let s ← get
  set { s with log := s.log.count }
  report <| s.log.eventProcessed (.number eventIndex) (.number event.items.length)
    (.number ((s.dirty.length : Int) - before))
  return rendered

-- A citation that is refused leaves no trace.
theorem process_eq (event : CitationEvent) (s : Session) :
    process event s =
      match s.accepted event with
      | .ok indexes => processAccepted event indexes s
      | .error e => .error e s := by
  have hlocate := mapM_locate CitationItem.entryId event.items s
  rw [← CitationEvent.entryIds] at hlocate
  unfold process accepted
  cases hids : s.locateAll event.entryIds with
  | error e =>
      rw [hids] at hlocate
      rw [bind_of_error hlocate]
  | ok indexes =>
      rw [hids] at hlocate
      rw [bind_of_ok hlocate, get_bind]
      cases hlast : s.history.lastPosition with
      | none => rfl
      | some last =>
          by_cases hle : event.position ≤ last
          · simp only [if_pos hle]
            rfl
          · simp only [if_neg hle]
            rfl

-- The citation that has just been recorded.
theorem exists_recorded (s : Session) (event : CitationEvent) (indexes : List Nat) :
    ∃ cites, (s.recorded event indexes).history.events =
      s.history.events ++ [{ event := event, indexes := indexes, cites := cites }] :=
  History.exists_record s.nearNoteDistance event indexes s.history

-- The citations of a session with one more are those that there were, and the new one.
theorem getElem?_recorded {s : Session} {event : CitationEvent} {indexes : List Nat} {k : Nat}
    {r : EventRecord} (hr : (s.recorded event indexes).history.events[k]? = some r) :
    s.history.events[k]? = some r ∨ k = s.history.events.length ∧ r.indexes = indexes := by
  rcases exists_recorded s event indexes with ⟨cites, hevents⟩
  rw [hevents] at hr
  rcases Nat.lt_or_ge k s.history.events.length with hlt | hge
  · rw [List.getElem?_append_left hlt] at hr
    exact Or.inl hr
  · rw [List.getElem?_append_right hge, List.getElem?_singleton] at hr
    by_cases hzero : k - s.history.events.length = 0
    · rw [if_pos hzero, Option.some.injEq] at hr
      exact Or.inr ⟨by omega, by rw [← hr]⟩
    · rw [if_neg hzero] at hr
      exact absurd hr (by simp only [reduceCtorEq, not_false_eq_true])

/-- A citation that is accepted is recorded, entries are told apart, and it is rendered; or one of
    the latter two fails. -/
theorem processAccepted_cases (event : CitationEvent) (indexes : List Nat) (s : Session) :
    (∃ a t r c notices s',
      Disambiguation.resolve s.policy (s.recorded event indexes).keyRenderer
        (s.recorded event indexes).history.mentioned s.tracker = .ok a t ∧
      (s.recorded event indexes).history.events[s.history.events.length]? = some r ∧
      ((s.recorded event indexes).marked t a.affected s.history.events.length).renderRecord
        s.history.events.length r [] = .ok c notices ∧
      processAccepted event indexes s = .ok c s' ∧
      s'.quiet = (((s.recorded event indexes).marked t a.affected
        s.history.events.length).output s.history.events.length c).quiet) ∨
    (∃ e s', processAccepted event indexes s = .error e s' ∧ e.isInput = false) := by
  have hr : ∃ r, (s.recorded event indexes).history.events[s.history.events.length]? =
      some r := by
    rcases exists_recorded s event indexes with ⟨cites, hevents⟩
    exact ⟨_, by rw [hevents, List.getElem?_concat_length]⟩
  rcases hr with ⟨r, hr⟩
  unfold processAccepted
  rw [get_bind, set_bind]
  rcases disambiguate_cases (s.recorded event indexes) with
    ⟨a, t, s₁, hres, hdis, hquiet⟩ | ⟨e, s₁, hdis, he⟩
  · rw [bind_of_ok hdis, get_bind, modify_bind]
    have hs₁ := eq_of_quiet hquiet
    -- From here on the session is the marked one, apart from its reports.
    have hmarked : ({ s₁.markDirty a.affected with
        dirty := (s₁.markDirty a.affected).dirty.erase s.history.events.length } : Session) =
        { (s.recorded event indexes).marked t a.affected s.history.events.length with
          log := s₁.log, journal := s₁.journal } := by
      rw [hs₁]
      rfl
    simp only [hmarked]
    generalize hm : ({ (s.recorded event indexes).marked t a.affected s.history.events.length with
      log := s₁.log, journal := s₁.journal } : Session) = s₂
    have hr₂ : s₂.history.events[s.history.events.length]? = some r := by
      rw [← hm]
      exact hr
    rcases renderEvent_cases hr₂ with ⟨c, notices, s₃, hren, hrun, hq⟩ | ⟨e, -, s₃, -, hrun⟩
    · rw [bind_of_ok hrun, get_bind, set_bind]
      refine Or.inl ⟨a, t, r, c, notices, _, hres, hr, ?_, rfl, ?_⟩
      · rw [← hren, ← hm]
        rfl
      · rw [eq_of_quiet hq, ← hm]
        rfl
    · rw [bind_of_error hrun]
      exact Or.inr ⟨.rendering e, _, rfl, rfl⟩
  · rw [bind_of_error hdis]
    exact Or.inr ⟨e, _, rfl, he⟩

/-- A session with further entries that were mentioned without being cited. -/
def mentioning (s : Session) (indexes : List Nat) : Session :=
  { s with history := s.history.mention indexes }

/-- Whether some entries were all mentioned before. -/
def AllMentioned (s : Session) (indexes : List Nat) : Prop :=
  (s.mentioning indexes).history.numbers.length = s.history.numbers.length

instance (s : Session) (indexes : List Nat) : Decidable (s.AllMentioned indexes) :=
  inferInstanceAs (Decidable (_ = _))

/-- Mentioning entries is refused input, or changes nothing if all of them were mentioned before,
    or has entries told apart, which may fail. -/
theorem nocite_cases (ids : List String) (s : Session) :
    (∃ e, s.locateAll ids = .error e ∧ nocite ids s = .error e s) ∨
    (∃ indexes, s.locateAll ids = .ok indexes ∧ s.AllMentioned indexes ∧
      nocite ids s = .ok ⟨⟩ s) ∨
    (∃ indexes a t s', s.locateAll ids = .ok indexes ∧ ¬ s.AllMentioned indexes ∧
      Disambiguation.resolve s.policy (s.mentioning indexes).keyRenderer
        (s.mentioning indexes).history.mentioned s.tracker = .ok a t ∧
      nocite ids s = .ok ⟨⟩ s' ∧
      s'.quiet = (({ s.mentioning indexes with tracker := t } : Session).markDirty
        a.affected).quiet) ∨
    (∃ e s', nocite ids s = .error e s' ∧ e.isInput = false) := by
  have hlocate := mapM_locate id ids s
  rw [List.map_id] at hlocate
  unfold nocite
  cases hids : s.locateAll ids with
  | error e =>
      rw [hids] at hlocate
      exact Or.inl ⟨e, rfl, bind_of_error hlocate _⟩
  | ok indexes =>
      rw [hids] at hlocate
      refine Or.inr ?_
      by_cases hlen : (s.history.mention indexes).numbers.length = s.history.numbers.length
      · refine Or.inl ⟨indexes, rfl, hlen, ?_⟩
        refine (bind_of_ok hlocate _).trans ?_
        rw [get_bind, set_bind, hlen, bne_self_eq_false, if_neg Bool.false_ne_true,
          History.mention_of_length_eq hlen]
        rfl
      · refine Or.inr ?_
        rcases disambiguate_cases (s.mentioning indexes) with
          ⟨a, t, s₁, hres, hdis, hquiet⟩ | ⟨e, s₁, hdis, he⟩
        · refine Or.inl ⟨indexes, a, t, s₁.markDirty a.affected, rfl, hlen, hres, ?_, ?_⟩
          · refine (bind_of_ok hlocate _).trans ?_
            rw [get_bind, set_bind, if_pos (bne_iff_ne.2 hlen)]
            exact bind_of_ok hdis _
          · rw [eq_of_quiet hquiet]
            rfl
        · refine Or.inr ⟨e, s₁, ?_, he⟩
          refine (bind_of_ok hlocate _).trans ?_
          rw [get_bind, set_bind, if_pos (bne_iff_ne.2 hlen)]
          exact bind_of_error hdis _

/-! ## The operations that bring output up to date -/

/-- A session without its reports, the outputs that it keeps, and which of them are dirty. -/
def core (s : Session) : Session :=
  { s.quiet with history := s.history.unrendered, dirty := [] }

/-- The citation of an index is rendered to an output, as things are now. -/
def Renders (s : Session) (k : Nat) (c : RenderedCitation) : Prop :=
  ∃ r notices, s.history.events[k]? = some r ∧ s.renderRecord k r [] = .ok c notices

/-- The output that is kept for the citation of an index. -/
def stored? (s : Session) (k : Nat) : Option RenderedCitation :=
  s.history.events[k]?.map (·.rendered)

theorem core_of_quiet {s u : Session} (h : s.quiet = u.quiet) : s.core = u.core := by
  rw [eq_of_quiet h]
  rfl

theorem core_output (s : Session) (k : Nat) (c : RenderedCitation) :
    (s.output k c).core = s.core := by
  have h := History.unrendered_setRendered s.history k c
  unfold core output
  rw [h]
  rfl

-- A rendering uses neither outputs nor reports.
theorem renders_core {s : Session} {k : Nat} {c : RenderedCitation} :
    s.core.Renders k c ↔ s.Renders k c := by
  have hevents : s.core.history.events[k]? =
      s.history.events[k]?.map fun r => { r with rendered := {} } :=
    List.getElem?_map
  unfold Renders
  rw [hevents]
  cases s.history.events[k]? with
  | none => simp only [Option.map_none, reduceCtorEq, false_and, exists_false]
  | some r =>
      simp only [Option.map_some, Option.some.injEq, exists_and_left, exists_eq_left']
      exact Iff.rfl

theorem Renders.congr {s u : Session} {k : Nat} {c : RenderedCitation} (h : s.Renders k c)
    (hcore : u.core = s.core) : u.Renders k c := by
  rw [← renders_core, hcore, renders_core]
  exact h

-- There is one output only.
theorem Renders.unique {s : Session} {k : Nat} {c c' : RenderedCitation} (h : s.Renders k c)
    (h' : s.Renders k c') : c = c' := by
  rcases h with ⟨r, notices, hr, hren⟩
  rcases h' with ⟨r', notices', hr', hren'⟩
  rw [hr, Option.some.injEq] at hr'
  rw [← hr', hren] at hren'
  injection hren'

theorem stored?_output (s : Session) (k j : Nat) (c : RenderedCitation) :
    (s.output k c).stored? j = if k = j then (s.stored? j).map (fun _ => c) else s.stored? j := by
  unfold stored? output History.setRendered
  simp only
  rw [List.getElem?_modify]
  cases s.history.events[j]? with
  | none => simp
  | some r =>
      by_cases hk : k = j
      · simp [hk]
      · simp [hk]

theorem length_events_congr {s u : Session} (h : u.core = s.core) :
    u.history.events.length = s.history.events.length := by
  have hevents : u.core.history.events.length = s.core.history.events.length := by rw [h]
  unfold core History.unrendered at hevents
  rw [List.length_map, List.length_map] at hevents
  exact hevents

/-- What rendering some citations again does: it keeps an output for each of them, which is the one
    that it is rendered to. -/
structure Rerendered (s : Session) (l : List Nat) (cs : List (Nat × RenderedCitation))
    (s' : Session) : Prop where
  core : s'.core = s.core
  dirty : s'.dirty = s.dirty
  keys : cs.map (·.1) = l
  renders : ∀ x ∈ cs, s.stored? x.1 ≠ none → s.Renders x.1 x.2
  stored : ∀ x ∈ cs, s.stored? x.1 ≠ none → s'.stored? x.1 = some x.2
  kept : ∀ k, k ∉ l → s'.stored? k = s.stored? k

theorem stored?_eq_none_iff {s u : Session} (h : u.core = s.core) (k : Nat) :
    u.stored? k = none ↔ s.stored? k = none := by
  have hevents : ∀ s : Session, s.stored? k = none ↔ s.core.history.events[k]? = none := by
    intro s
    unfold stored? core History.unrendered
    rw [Option.map_eq_none_iff, List.getElem?_map, Option.map_eq_none_iff]
  rw [hevents, hevents, h]

/-- What rendering one citation again does, if there is one of this index. -/
structure RerenderedOne (s : Session) (k : Nat) (c : RenderedCitation) (s' : Session) : Prop where
  core : s'.core = s.core
  dirty : s'.dirty = s.dirty
  renders : s.stored? k ≠ none → s.Renders k c
  stored : s.stored? k ≠ none → s'.stored? k = some c
  kept : ∀ j, j ≠ k → s'.stored? j = s.stored? j

/-- Rendering one citation again, or failing to. -/
theorem renderEvent_one (k : Nat) (s : Session) :
    (∃ c s', renderEvent k s = .ok c s' ∧ s.RerenderedOne k c s') ∨
      ∃ e s', renderEvent k s = .error e s' ∧ e.isInput = false ∧ ∀ c, ¬ s.Renders k c := by
  cases hr : s.history.events[k]? with
  | none =>
      -- There is no citation of this index, and the reply is an empty one.
      have hnone : s.stored? k = none := by
        rw [stored?, hr, Option.map_none]
      refine Or.inl ⟨{}, s, ?_, rfl, rfl, fun hne => absurd hnone hne,
        fun hne => absurd hnone hne, fun _ _ => rfl⟩
      rw [renderEvent, get_bind, hr]
      rfl
  | some r =>
      rcases renderEvent_cases hr with ⟨c, notices, s', hren, hrun, hquiet⟩ |
        ⟨e, notices, s', hren, hrun⟩
      · have hs' := eq_of_quiet hquiet
        have hstored : ∀ j, s'.stored? j = (s.output k c).stored? j := by
          intro j
          rw [hs']
          rfl
        refine Or.inl ⟨c, s', hrun, ?_, ?_, fun _ => ⟨r, notices, hr, hren⟩, fun _ => ?_,
          fun j hj => ?_⟩
        · rw [core_of_quiet hquiet, core_output]
        · rw [hs']
          rfl
        · rw [hstored, stored?_output, if_pos rfl, stored?, hr]
          rfl
        · rw [hstored, stored?_output, if_neg (Ne.symm hj)]
      · refine Or.inr ⟨.rendering e, s', hrun, rfl, ?_⟩
        rintro c ⟨r', notices', hr', hren'⟩
        rw [hr, Option.some.injEq] at hr'
        rw [← hr', hren] at hren'
        exact absurd hren' (by simp only [reduceCtorEq, not_false_eq_true])

-- One citation rendered again, and then some others. It may be one of the others, too.
theorem RerenderedOne.cons {s s₁ s₂ : Session} {k : Nat} {c : RenderedCitation} {rest : List Nat}
    {cs : List (Nat × RenderedCitation)} (h : s.RerenderedOne k c s₁)
    (hrest : s₁.Rerendered rest cs s₂) : s.Rerendered (k :: rest) ((k, c) :: cs) s₂ := by
  have hne : ∀ j, s.stored? j ≠ none → s₁.stored? j ≠ none := by
    intro j
    rw [Ne, Ne, stored?_eq_none_iff h.core]
    exact id
  refine ⟨hrest.core.trans h.core, hrest.dirty.trans h.dirty, ?_, ?_, ?_, ?_⟩
  · rw [List.map_cons, hrest.keys]
  · intro x hx hx'
    rcases List.mem_cons.1 hx with rfl | hx
    · exact h.renders hx'
    · exact (hrest.renders x hx (hne _ hx')).congr h.core.symm
  · intro x hx hx'
    rcases List.mem_cons.1 hx with rfl | hx
    · by_cases hagain : k ∈ rest
      · -- Rendered twice, it is the same both times.
        rw [← hrest.keys, List.mem_map] at hagain
        rcases hagain with ⟨y, hy, rfl⟩
        have hsame := (hrest.renders y hy (hne _ hx')).congr h.core.symm
        rw [hrest.stored y hy (hne _ hx'), hsame.unique (h.renders hx')]
      · rw [hrest.kept k hagain]
        exact h.stored hx'
    · exact hrest.stored x hx (hne _ hx')
  · intro j hj
    rw [List.mem_cons, not_or] at hj
    rw [hrest.kept j hj.2, h.kept j hj.1]

/-- Rendering some citations again, or failing to for one that is not rendered to anything. -/
theorem renderEvents_cases (l : List Nat) :
    ∀ s : Session, (∃ cs s', renderEvents l s = .ok cs s' ∧ s.Rerendered l cs s') ∨
      ∃ e s', renderEvents l s = .error e s' ∧ e.isInput = false ∧
        ∃ k ∈ l, ∀ c, ¬ s.Renders k c := by
  induction l with
  | nil =>
      intro s
      refine Or.inl ⟨[], s, rfl, rfl, rfl, rfl, ?_, ?_, fun k _ => rfl⟩
      · exact fun x hx => absurd hx List.not_mem_nil
      · exact fun x hx => absurd hx List.not_mem_nil
  | cons k rest ih =>
      intro s
      rw [renderEvents]
      rcases renderEvent_one k s with ⟨c, s₁, hrun, hone⟩ | ⟨e, s₁, hrun, he, hnot⟩
      · rw [bind_of_ok hrun]
        rcases ih s₁ with ⟨cs, s₂, hrun', hre⟩ | ⟨e, s₂, hrun', he, j, hj, hnot⟩
        · rw [bind_of_ok hrun']
          exact Or.inl ⟨(k, c) :: cs, s₂, rfl, hone.cons hre⟩
        · -- What is not rendered after the first citation was not rendered before it either.
          rw [bind_of_error hrun']
          exact Or.inr ⟨e, s₂, rfl, he, j, List.mem_cons_of_mem _ hj,
            fun c hc => hnot c (hc.congr hone.core)⟩
      · rw [bind_of_error hrun]
        exact Or.inr ⟨e, s₁, rfl, he, k, List.mem_cons_self, hnot⟩

/-- Rendering all dirty citations again, or failing to for one of them. Nothing is dirty
    afterwards. -/
theorem refresh_cases (s : Session) :
    (∃ cs s₁ s', refresh s = .ok cs s' ∧ s.Rerendered (ListSet.sorted s.dirty) cs s₁ ∧
      s'.quiet = ({ s₁ with dirty := [] } : Session).quiet) ∨
    ∃ e s', refresh s = .error e s' ∧ e.isInput = false ∧ ∃ k ∈ s.dirty, ∀ c, ¬ s.Renders k c := by
  unfold refresh
  rw [get_bind]
  rcases renderEvents_cases (ListSet.sorted s.dirty) s with
    ⟨cs, s₁, hrun, hre⟩ | ⟨e, s₁, hrun, he, k, hk, hnot⟩
  · rw [bind_of_ok hrun, modify_bind]
    cases hcs : cs.isEmpty with
    | true => exact Or.inl ⟨cs, s₁, _, rfl, hre, rfl⟩
    | false => exact Or.inl ⟨cs, s₁, _, rfl, hre, rfl⟩
  · rw [bind_of_error hrun]
    exact Or.inr ⟨e, s₁, rfl, he, k, List.mem_mergeSort.1 hk, hnot⟩

/-! ## The other operations -/

/-- Looking up an identifier changes nothing. -/
theorem locate_cases (id : String) (s : Session) :
    (∃ i, locate id s = .ok i s) ∨ ∃ e, locate id s = .error e s := by
  unfold locate
  rw [get_bind]
  cases s.store.indexOf? id with
  | none => exact Or.inr ⟨_, rfl⟩
  | some i => exact Or.inl ⟨i, rfl⟩

/-- A session with one more entry in the store. -/
def withEntry (s : Session) (e : Entry) : Session :=
  { s with store := { s.store with entries := s.store.entries ++ [e] } }

/-- An entry is added at the end of the store, or leaves no trace. -/
theorem addEntry_eq (e : Entry) (s : Session) :
    addEntry e s =
      match s.store.add e with
      | .ok _ => .ok s.store.size (s.withEntry e)
      | .error err => .error (.store err) s := by
  rw [addEntry, get_bind]
  cases hadd : s.store.add e with
  | error err => rfl
  | ok store =>
      have hstore := (EntryStore.add_eq_ok_iff.1 hadd).2.2
      rw [hstore]
      rfl

/-- Building the bibliography changes nothing but reports. -/
theorem bibliography_cases (s : Session) :
    (∃ b s', bibliography s = .ok b s' ∧ s'.quiet = s.quiet) ∨
      ∃ e s', bibliography s = .error e s' ∧ e.isInput = false := by
  unfold bibliography
  rw [get_bind]
  cases s.style.bibliography with
  | none => exact Or.inl ⟨_, _, rfl, rfl⟩
  | some part =>
      simp only
      cases hitems : s.bibliographyItems part [] with
      | ok items notices =>
          have hren : rendering (s.bibliographyItems part) s = .ok items
              { s with journal := notices.reverse.map Render.Notice.record ++ s.journal } := by
            rw [rendering, hitems]
          rw [bind_of_ok hren]
          exact Or.inl ⟨_, _, rfl, rfl⟩
      | error e notices =>
          have hren : rendering (s.bibliographyItems part) s = .error (.rendering e)
              { s with journal := notices.reverse.map Render.Notice.record ++ s.journal } := by
            rw [rendering, hitems]
          rw [bind_of_error hren]
          exact Or.inr ⟨_, _, rfl, rfl⟩

end Session

end CslProcessor
