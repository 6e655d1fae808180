import CslProcessor.Proofs.Session.Coherence
import CslProcessor.Proofs.Session.Course
import CslProcessor.Proofs.Session.Numbering

/-!
# What the Bibliography depends on

Numbers, letters and the bibliography depend on nothing but which entries became known, and in which
company. Each call that makes entries known has them told apart together, so it matters which
entries come in one call. It does not matter whether a call cites them or merely mentions them, with
what locators or affixes, at which positions, how often known entries are cited again in between, or
when output is brought up to date.

Two sessions are compared by what a bibliography is made of, which leaves out citations and outputs.
One call then does to this part what mentioning its new entries and telling all entries apart does,
and if it has no new entries this is nothing, since entries that are settled stay as they are.

## Main definitions

* `Session.ListsAlike`: Two sessions have the same bibliography, for the same reasons.
* `Session.registrations`: The new entries of the calls of a run.
* `Session.Orderly`: A run in which nothing fails but for input that is refused.

## Theorems

* `ListsAlike.told`: Telling entries apart depends on nothing else.
* `Coherent.told`: Entries that are told apart stay as they are.
* `course_registers`, `Orderly.registers`: What a call does by its new entries.
* `ListsAlike.runs`: Runs with the same new entries keep sessions alike.
* `bibliography_of_registrations`: Numbers, letters and the bibliography after two runs.
-/

namespace CslProcessor

namespace History

-- An entry that has a number gets no other.
theorem number_of_mem {h : History} {i : Nat} (hi : i ∈ h.mentioned) : h.number i = h :=
  if_pos (mem_mentioned_iff.1 hi)

/-- Mentioning entries is mentioning those that are new, which come last. -/
theorem exists_new (indexes : List Nat) :
    ∀ h : History, ∃ new, (h.mention indexes).mentioned = h.mentioned ++ new ∧
      h.mention indexes = h.mention new := by
  induction indexes with
  | nil => exact fun h => ⟨[], by rw [List.append_nil]; rfl, rfl⟩
  | cons i rest ih =>
      intro h
      rw [mention, List.foldl_cons, ← mention]
      rcases ih (h.number i) with ⟨new, hmentioned, hsame⟩
      by_cases hi : i ∈ h.mentioned
      · rw [number_of_mem hi] at hmentioned hsame ⊢
        exact ⟨new, hmentioned, hsame⟩
      · refine ⟨i :: new, ?_, ?_⟩
        · rw [hmentioned, mentioned_number, if_neg hi, List.append_assoc, List.singleton_append]
        · rw [hsame, mention, mention, List.foldl_cons]

end History

namespace Session

/-! ## Sessions with the same bibliography -/

/-- Two sessions have the same bibliography, for the same reasons: they agree on entries, numbers
    and on what tells entries apart. -/
structure ListsAlike (s u : Session) : Prop where
  style : s.style = u.style
  locale : s.locale = u.locale
  store : s.store = u.store
  numbers : s.history.numbers = u.history.numbers
  state : s.tracker.state = u.tracker.state

theorem ListsAlike.refl (s : Session) : ListsAlike s s :=
  ⟨rfl, rfl, rfl, rfl, rfl⟩

theorem ListsAlike.symm {s u : Session} (h : ListsAlike s u) : ListsAlike u s :=
  ⟨h.style.symm, h.locale.symm, h.store.symm, h.numbers.symm, h.state.symm⟩

theorem ListsAlike.trans {s u v : Session} (h : ListsAlike s u) (h' : ListsAlike u v) :
    ListsAlike s v :=
  ⟨h.style.trans h'.style, h.locale.trans h'.locale, h.store.trans h'.store,
    h.numbers.trans h'.numbers, h.state.trans h'.state⟩

-- The bibliography does not depend on outputs.
theorem ListsAlike.of_core {s u : Session} (h : s.core = u.core) : ListsAlike s u := by
  have hfield : ∀ {β : Type} (f : Session → β), f s.core = f u.core := fun f => by rw [h]
  exact ⟨hfield (·.style), hfield (·.locale), hfield (·.store), hfield (·.history.numbers),
    hfield (·.tracker.state)⟩

theorem ListsAlike.mentioned {s u : Session} (h : ListsAlike s u) :
    s.history.mentioned = u.history.mentioned := by
  rw [History.mentioned, History.mentioned, h.numbers]

theorem ListsAlike.entryAt {s u : Session} (h : ListsAlike s u) : s.entryAt = u.entryAt := by
  funext i
  rw [Session.entryAt, Session.entryAt, h.store]

theorem ListsAlike.mentioning {s u : Session} (h : ListsAlike s u) (indexes : List Nat) :
    ListsAlike (s.mentioning indexes) (u.mentioning indexes) :=
  ⟨h.style, h.locale, h.store, History.numbers_mention_congr h.numbers, h.state⟩

-- Entries look the same in sessions with the same bibliography.
theorem ListsAlike.keyRenderer {s u : Session} (h : ListsAlike s u) :
    s.keyRenderer = u.keyRenderer := by
  have hrendering : s.keyRendering = u.keyRendering := by
    funext i d
    unfold keyRendering keyContext
    rw [h.style, h.locale, h.entryAt, h.numbers]
  have hcount : s.nameCount = u.nameCount := by
    funext i
    unfold nameCount
    rw [h.entryAt]
  unfold Session.keyRenderer
  rw [hrendering, hcount]

/-! ## Telling entries apart -/

-- Telling entries apart keeps everything but what tells them apart.
theorem told_eq (s : Session) : s.told = { s with tracker := s.told.tracker } := by
  unfold told
  split <;> rfl

/-- What tells entries apart depends on nothing but what a bibliography is made of. -/
theorem ListsAlike.told {s u : Session} (h : ListsAlike s u)
    (hs : s.tracker.Settled s.keyRenderer) (hu : u.tracker.Settled u.keyRenderer) :
    ListsAlike s.told u.told := by
  have hstate : s.told.tracker.state = u.told.tracker.state := by
    have hpolicy : s.policy = u.policy := by
      unfold policy
      rw [h.style]
    rw [← h.keyRenderer] at hu
    have hsame := Disambiguation.resolve_sameOutcome (p := s.policy) (fun _ => hs) (fun _ => hu)
      h.state s.history.mentioned
    unfold Session.told
    rw [← hpolicy, ← h.keyRenderer, ← h.mentioned]
    cases hrs : Disambiguation.resolve s.policy s.keyRenderer s.history.mentioned s.tracker with
    | ok a t =>
        cases hru : Disambiguation.resolve s.policy s.keyRenderer s.history.mentioned
          u.tracker with
        | ok b w =>
            rw [hrs, hru] at hsame
            exact hsame.2.1
        | error e w =>
            rw [hrs, hru] at hsame
            exact absurd hsame (by simp only [Disambiguation.SameOutcome, not_false_eq_true])
    | error e t =>
        cases hru : Disambiguation.resolve s.policy s.keyRenderer s.history.mentioned
          u.tracker with
        | ok b w =>
            rw [hrs, hru] at hsame
            cases e <;>
              exact absurd hsame (by simp only [Disambiguation.SameOutcome, not_false_eq_true])
        | error e' w => exact h.state
  rw [told_eq s, told_eq u]
  exact ⟨h.style, h.locale, h.store, h.numbers, hstate⟩

/-- Entries that are told apart stay as they are when they are told apart again. -/
theorem Coherent.told {s : Session} (h : s.Coherent) : ListsAlike s.told s := by
  rcases Disambiguation.resolve_settled (p := s.policy) h.settled
    (fun i => ⟨h.tracked i, h.known i⟩) with ⟨a, t, hres, hstate⟩
  rw [told_of_ok hres]
  exact ⟨rfl, rfl, rfl, rfl, hstate⟩

/-! ## New entries -/

/-- Whatever a call does to a bibliography, it does by mentioning its new entries and telling all
    entries apart. -/
theorem course_registers {s : Session} (h : s.Coherent) {call : SessionCall}
    (hadd : ∀ e, call ≠ .add e) :
    ∃ new, (s.course call).history.mentioned = s.history.mentioned ++ new ∧
      ListsAlike (s.course call) (s.mentioning new).told := by
  have hidle : ∃ new, s.history.mentioned = s.history.mentioned ++ new ∧
      ListsAlike s (s.mentioning new).told :=
    ⟨[], (List.append_nil _).symm, h.told.symm⟩
  cases call with
  | process event =>
      cases haccept : s.accepted event with
      | error e =>
          simp only [course, haccept]
          exact hidle
      | ok indexes =>
          simp only [course, haccept]
          rcases History.exists_new indexes s.history with ⟨new, hmentioned, hsame⟩
          have hnumbers := History.numbers_record s.nearNoteDistance event indexes s.history
          refine ⟨new, ?_, ?_⟩
          · rw [told_eq, ← hmentioned]
            exact History.mentioned_record ..
          · -- A citation numbers its entries as mentioning them does.
            have halike : ListsAlike (s.recorded event indexes) (s.mentioning new) := by
              refine ⟨rfl, rfl, rfl, ?_, rfl⟩
              rw [mentioning, ← hsame]
              exact hnumbers
            exact halike.told (h.settled_mention rfl rfl rfl rfl hnumbers)
              (h.settled_mention rfl rfl rfl rfl rfl)
  | nocite ids =>
      cases hids : s.locateAll ids with
      | error e =>
          simp only [course, hids]
          exact hidle
      | ok indexes =>
          by_cases hall : s.AllMentioned indexes
          · simp only [course, hids, if_pos hall]
            exact hidle
          · simp only [course, hids, if_neg hall]
            rcases History.exists_new indexes s.history with ⟨new, hmentioned, hsame⟩
            have heq : s.mentioning indexes = s.mentioning new := by
              rw [mentioning, mentioning, hsame]
            refine ⟨new, ?_, ?_⟩
            · rw [told_eq, ← hmentioned]
              rfl
            · rw [heq]
              exact ListsAlike.refl _
  | add e => exact absurd rfl (hadd e)
  | refresh => exact hidle
  | citations => exact hidle
  | number id => exact hidle
  | disambiguation id => exact hidle
  | bibliography => exact hidle

/-- The entries of a session that another one before it did not know, in the order of their
    numbers. -/
def newEntries (s u : Session) : List Nat :=
  u.history.mentioned.drop s.history.mentioned.length

/-- The entries that the calls of a run make known, in the order in which they are numbered: a list
    for each call that makes any known. -/
def registrations : List SessionCall → Session → List (List Nat)
  | [], _ => []
  | call :: rest, s =>
    match call.run s with
    | .ok _ u | .error _ u =>
      let new := newEntries s u
      if new.isEmpty then registrations rest u else new :: registrations rest u

theorem registrations_cons (call : SessionCall) (rest : List SessionCall) (s : Session) :
    registrations (call :: rest) s =
      if newEntries s (stateAfter (call.run s)) = [] then
        registrations rest (stateAfter (call.run s))
      else newEntries s (stateAfter (call.run s)) ::
        registrations rest (stateAfter (call.run s)) := by
  simp only [← List.isEmpty_iff]
  rw [registrations]
  cases call.run s <;> rfl

/-- A run from a coherent session that adds no entries to the store, and in which nothing fails but
    for input that is refused. -/
structure Orderly (calls : List SessionCall) (s : Session) : Prop where
  coherent : s.Coherent
  closed : ∀ e, SessionCall.add e ∉ calls
  input : ∀ e, Except.error e ∈ (runCalls SessionCall.run calls s).1 → e.isInput = true

theorem Orderly.fine {call : SessionCall} {rest : List SessionCall} {s : Session}
    (h : Orderly (call :: rest) s) : Fine (call.run s) := by
  intro e he
  refine h.input e ?_
  rw [runCalls_cons, he]
  exact List.mem_cons_self

-- What is left of such a run after its first call.
theorem Orderly.next {call : SessionCall} {rest : List SessionCall} {s : Session}
    (h : Orderly (call :: rest) s) : Orderly rest (stateAfter (call.run s)) := by
  refine ⟨run_keeps call s h.coherent h.fine, fun e he => ?_, fun e he => ?_⟩
  · exact h.closed e (List.mem_cons_of_mem _ he)
  · refine h.input e ?_
    rw [runCalls_cons]
    exact List.mem_cons_of_mem _ he

/-- What the first call of such a run does to a bibliography. -/
theorem Orderly.registers {call : SessionCall} {rest : List SessionCall} {s : Session}
    (h : Orderly (call :: rest) s) :
    ListsAlike (stateAfter (call.run s))
      (s.mentioning (newEntries s (stateAfter (call.run s)))).told := by
  have hcourse := ListsAlike.of_core (core_run h.fine)
  have hclosed : ∀ e, call ≠ .add e := fun e he => h.closed e (he ▸ List.mem_cons_self)
  rcases course_registers h.coherent hclosed with ⟨new, hmentioned, halike⟩
  rw [newEntries, hcourse.mentioned, hmentioned, List.drop_left]
  exact hcourse.trans halike

-- A call without new entries leaves the bibliography as it is.
theorem Orderly.idle {call : SessionCall} {rest : List SessionCall} {s : Session}
    (h : Orderly (call :: rest) s)
    (hnew : newEntries s (stateAfter (call.run s)) = []) :
    ListsAlike (stateAfter (call.run s)) s := by
  have halike := h.registers
  rw [hnew] at halike
  exact halike.trans h.coherent.told

-- Calls with the same new entries keep sessions alike.
theorem ListsAlike.calls {s s' : Session} (h : ListsAlike s s') {call call' : SessionCall}
    {rest rest' : List SessionCall} (hs : Orderly (call :: rest) s)
    (hs' : Orderly (call' :: rest') s')
    (hnew : newEntries s (stateAfter (call.run s)) = newEntries s' (stateAfter (call'.run s'))) :
    ListsAlike (stateAfter (call.run s)) (stateAfter (call'.run s')) := by
  have halike' := hs'.registers
  rw [← hnew] at halike'
  refine (hs.registers.trans ?_).trans halike'.symm
  exact (h.mentioning _).told (hs.coherent.settled_mention rfl rfl rfl rfl rfl)
    (hs'.coherent.settled_mention rfl rfl rfl rfl rfl)

-- A run without new entries leaves the bibliography as it is.
theorem listsAlike_of_registrations_nil (calls : List SessionCall) :
    ∀ {s : Session}, Orderly calls s → registrations calls s = [] →
      ListsAlike (runCalls SessionCall.run calls s).2 s := by
  induction calls with
  | nil => exact fun _ _ => ListsAlike.refl _
  | cons call rest ih =>
      intro s hs hnone
      rw [registrations_cons] at hnone
      by_cases hnew : newEntries s (stateAfter (call.run s)) = []
      · rw [if_pos hnew] at hnone
        rw [runCalls_cons]
        exact (ih hs.next hnone).trans (hs.idle hnew)
      · rw [if_neg hnew] at hnone
        exact absurd hnone (List.cons_ne_nil _ _)

/-- Runs with the same new entries keep sessions alike, whatever else they do. -/
theorem ListsAlike.runs (calls : List SessionCall) :
    ∀ (calls' : List SessionCall) {s s' : Session}, ListsAlike s s' → Orderly calls s →
      Orderly calls' s' → registrations calls s = registrations calls' s' →
      ListsAlike (runCalls SessionCall.run calls s).2 (runCalls SessionCall.run calls' s').2 := by
  induction calls with
  | nil =>
      intro calls' s s' h _ hs' hreg
      exact h.trans (listsAlike_of_registrations_nil calls' hs' hreg.symm).symm
  | cons call rest ih =>
      intro calls' s s' h hs hs' hreg
      rw [runCalls_cons]
      rw [registrations_cons] at hreg
      by_cases hnew : newEntries s (stateAfter (call.run s)) = []
      · rw [if_pos hnew] at hreg
        exact ih calls' ((hs.idle hnew).trans h) hs.next hs' hreg
      · rw [if_neg hnew] at hreg
        -- The other run goes on without new entries, up to the call that has the same ones.
        induction calls' generalizing s' with
        | nil => exact absurd hreg (List.cons_ne_nil _ _)
        | cons call' rest' ih' =>
            rw [runCalls_cons]
            rw [registrations_cons call'] at hreg
            by_cases hnew' : newEntries s' (stateAfter (call'.run s')) = []
            · rw [if_pos hnew'] at hreg
              exact ih' (h.trans (hs'.idle hnew').symm) hs'.next hreg
            · rw [if_neg hnew', List.cons.injEq] at hreg
              exact ih rest' (h.calls hs hs' hreg.1) hs.next hs'.next hreg.2

/-! ## Numbers and the bibliography -/

/-- What is replied to a call for the bibliography. -/
theorem replyOf_bibliography (s : Session) :
    replyOf (bibliography s) =
      match s.style.bibliography with
      | none => .ok { style := s.style.id }
      | some part =>
        match s.bibliographyItems part [] with
        | .ok items _ => .ok { items, style := s.style.id }
        | .error e _ => .error (.rendering e) := by
  unfold bibliography
  rw [get_bind]
  cases s.style.bibliography with
  | none => rfl
  | some part =>
      simp only
      cases hitems : s.bibliographyItems part [] with
      | ok items notices =>
          have hren : rendering (s.bibliographyItems part) s = .ok items
              { s with journal := notices.reverse.map Render.Notice.record ++ s.journal } := by
            rw [rendering, hitems]
          rw [bind_of_ok hren]
          rfl
      | error e notices =>
          have hren : rendering (s.bibliographyItems part) s = .error (.rendering e)
              { s with journal := notices.reverse.map Render.Notice.record ++ s.journal } := by
            rw [rendering, hitems]
          rw [bind_of_error hren]
          rfl

theorem ListsAlike.itemContext {s u : Session} (h : ListsAlike s u) :
    s.itemContext = u.itemContext := by
  funext part i
  unfold Session.itemContext
  rw [h.style, h.locale, h.numbers, h.state]

theorem ListsAlike.renderItems {s u : Session} (h : ListsAlike s u) (part : Section)
    (indexes : List Nat) :
    ∀ previous, s.renderItems part previous indexes = u.renderItems part previous indexes := by
  induction indexes with
  | nil => exact fun _ => rfl
  | cons i rest ih =>
      intro previous
      unfold Session.renderItems
      simp only [h.entryAt, h.itemContext, h.locale, h.numbers, ih]

theorem ListsAlike.bibliographyItems {s u : Session} (h : ListsAlike s u) :
    s.bibliographyItems = u.bibliographyItems := by
  funext part
  unfold Session.bibliographyItems sortedEntries
  rw [h.mentioned, h.entryAt, h.itemContext]
  exact congrArg _ (funext fun indexes => h.renderItems part indexes none)

/-- Sessions that list alike give the same bibliography. -/
theorem ListsAlike.replyOf_bibliography {s u : Session} (h : ListsAlike s u) :
    replyOf (bibliography s) = replyOf (bibliography u) := by
  rw [Session.replyOf_bibliography, Session.replyOf_bibliography, h.style, h.bibliographyItems]

-- Nor do they differ in what they reply about an entry.
theorem ListsAlike.replyOf_locate {s u : Session} (h : ListsAlike s u) (id : String) :
    replyOf (locate id s) = replyOf (locate id u) := by
  rw [locate, get_bind, get_bind, h.store]
  cases u.store.indexOf? id <;> rfl

theorem ListsAlike.replyOf_citationNumber {s u : Session} (h : ListsAlike s u) (id : String) :
    replyOf (citationNumber? id s) = replyOf (citationNumber? id u) := by
  have hread : ∀ v : Session, replyOf (citationNumber? id v) =
      (replyOf (locate id v)).map fun i => v.history.numbers.lookup i := by
    intro v
    refine (replyOf_read (locate id) (fun u i => u.history.numbers.lookup i) v).trans ?_
    rw [stateAfter_locate]
  rw [hread, hread, h.replyOf_locate, h.numbers]

theorem ListsAlike.replyOf_disambiguation {s u : Session} (h : ListsAlike s u) (id : String) :
    replyOf (disambiguation id s) = replyOf (disambiguation id u) := by
  have hread : ∀ v : Session, replyOf (disambiguation id v) =
      (replyOf (locate id v)).map v.tracker.state := by
    intro v
    refine (replyOf_read (locate id) (fun u i => u.tracker.state i) v).trans ?_
    rw [stateAfter_locate]
  rw [hread, hread, h.replyOf_locate, h.state]

/-- After two runs of new sessions with the same entries, style, locale and settings that make the
    same entries known, call by call, all numbers, all that tells entries apart, and the
    bibliography are the same. Nothing else about the calls matters. -/
theorem bibliography_of_registrations (id id' : String) (store : EntryStore) (style : Style)
    (locale : Locale) (settings : EngineSettings) (calls calls' : List SessionCall)
    (hclosed : ∀ e, SessionCall.add e ∉ calls) (hclosed' : ∀ e, SessionCall.add e ∉ calls')
    (hinput : ∀ e, Except.error e ∈ (runCalls SessionCall.run calls
      (start id store style locale settings)).1 → e.isInput = true)
    (hinput' : ∀ e, Except.error e ∈ (runCalls SessionCall.run calls'
      (start id' store style locale settings)).1 → e.isInput = true)
    (hreg : registrations calls (start id store style locale settings) =
      registrations calls' (start id' store style locale settings)) (s s' : Session)
    (hs : s = (runCalls SessionCall.run calls (start id store style locale settings)).2)
    (hs' : s' = (runCalls SessionCall.run calls' (start id' store style locale settings)).2) :
    s.history.numbers = s'.history.numbers ∧ s.tracker.state = s'.tracker.state ∧
    replyOf (bibliography s) = replyOf (bibliography s') ∧
    ∀ entryId, replyOf (citationNumber? entryId s) = replyOf (citationNumber? entryId s') ∧
      replyOf (disambiguation entryId s) = replyOf (disambiguation entryId s') := by
  have hstart : ListsAlike (start id store style locale settings)
      (start id' store style locale settings) := ⟨rfl, rfl, rfl, rfl, rfl⟩
  have halike : ListsAlike s s' := by
    rw [hs, hs']
    exact hstart.runs calls calls' ⟨start_coherent id store style locale settings, hclosed, hinput⟩
      ⟨start_coherent id' store style locale settings, hclosed', hinput'⟩ hreg
  exact ⟨halike.numbers, halike.state, halike.replyOf_bibliography,
    fun entryId => ⟨halike.replyOf_citationNumber entryId, halike.replyOf_disambiguation entryId⟩⟩

/-- Whether a call has succeeded or has failed for its input. -/
def isReplyOrRefusal {α : Type} : Except SessionError α → Bool
  | .ok _ => true
  | .error e => e.isInput

set_option maxRecDepth 100000 in
theorem bibliography_of_registrations_listedWorks :
    ∃ calls calls' s s',
      calls = [.process ⟨[{ entryId := "b", locator := some "5", lead := "see" }], 2⟩,
        .process ⟨[], 3⟩, .refresh, .nocite ["b", "a"]] ∧
      calls' = [.nocite ["b", "b"], .nocite ["c"], .process (.ofIds ["a"] 7)] ∧
      registrations calls listedWorks = [[1], [0]] ∧
      registrations calls' listedWorks = [[1], [0]] ∧
      s = (runCalls SessionCall.run calls listedWorks).2 ∧
      s' = (runCalls SessionCall.run calls' listedWorks).2 ∧
      s.tracker.state = s'.tracker.state ∧
      replyOf (bibliography s) = replyOf (bibliography s') := by
  have hreg : registrations [.process ⟨[{ entryId := "b", locator := some "5", lead := "see" }], 2⟩,
      .process ⟨[], 3⟩, .refresh, .nocite ["b", "a"]] listedWorks = [[1], [0]] := by cbv
  have hreg' : registrations [.nocite ["b", "b"], .nocite ["c"], .process (.ofIds ["a"] 7)]
      listedWorks = [[1], [0]] := by cbv
  have hreplies : (runCalls SessionCall.run
      [.process ⟨[{ entryId := "b", locator := some "5", lead := "see" }], 2⟩, .process ⟨[], 3⟩,
        .refresh, .nocite ["b", "a"]] listedWorks).1.all (·.isOk) = true := by cbv
  have hrefused : (runCalls SessionCall.run
      [.nocite ["b", "b"], .nocite ["c"], .process (.ofIds ["a"] 7)] listedWorks).1.all
        isReplyOrRefusal = true := by cbv
  have hall := bibliography_of_registrations _ _ _ _ _ _ _ _ (by simp) (by simp)
    (fun e he => absurd he (not_mem_error_of_all_isOk hreplies e))
    (fun e he => List.all_eq_true.1 hrefused _ he) (hreg.trans hreg'.symm) _ _ rfl rfl
  exact ⟨_, _, _, _, rfl, rfl, hreg, hreg', rfl, rfl, hall.2.1, hall.2.2.1⟩

end Session

end CslProcessor
