import CslProcessor.Proofs.Session.Calls

/-!
# The Course of a Session

What becomes of a session if its outputs are left aside. No operation looks at the outputs that are
kept, or at which of them are dirty, so the rest of the session takes a course of its own, which
nothing but citations, mentions and further entries has a part in. In particular it makes no
difference to it when outputs are brought up to date, or how often.

The course is told as a function of the calls, and a run is shown to follow it as long as it does
not break off: a call may be refused for its input, which leaves no trace, but not fail otherwise.

## Main definitions

* `Session.told`: A session with its entries told apart.
* `Session.course`: What becomes of a session by a call.
* `SessionCall.contributes`: Whether a call has a part in the course of a session.

## Theorems

* `core_course_congr`: The course does not depend on outputs.
* `core_run`, `core_runCalls`: Calls and runs follow the course.
* `core_runCalls_congr`: Runs with the same contributions end alike.
-/

namespace CslProcessor

namespace Session

/-! ## The course -/

/-- A session with its entries told apart, if that succeeds. -/
def told (s : Session) : Session :=
  match Disambiguation.resolve s.policy s.keyRenderer s.history.mentioned s.tracker with
  | .ok _ t => { s with tracker := t }
  | .error .. => s

/-- What becomes of a session by a call, apart from outputs. -/
def course (s : Session) : SessionCall → Session
  | .process event =>
    match s.accepted event with
    | .ok indexes => (s.recorded event indexes).told
    | .error _ => s
  | .nocite ids =>
    match s.locateAll ids with
    | .ok indexes => if s.AllMentioned indexes then s else (s.mentioning indexes).told
    | .error _ => s
  | .add e =>
    match s.store.add e with
    | .ok _ => s.withEntry e
    | .error _ => s
  | .refresh | .citations | .number _ | .disambiguation _ | .bibliography => s

end Session

/-- Whether a call has a part in the course of a session. -/
def SessionCall.contributes : SessionCall → Bool
  | .process _ | .nocite _ | .add _ => true
  | .refresh | .citations | .number _ | .disambiguation _ | .bibliography => false

namespace Session

-- The other calls have no part in it.
theorem foldl_course_filter (calls : List SessionCall) (s : Session) :
    (calls.filter SessionCall.contributes).foldl course s = calls.foldl course s := by
  rw [List.foldl_filter]
  congr
  funext u call
  cases call <;> rfl

/-! ## Outputs have no part in the course -/

theorem core_core (s : Session) : s.core.core = s.core := by
  unfold core quiet History.unrendered
  simp

-- Where an identifier is found does not depend on outputs.
theorem locateAll_core (s : Session) (ids : List String) :
    s.core.locateAll ids = s.locateAll ids := by
  induction ids with
  | nil => rfl
  | cons id rest ih =>
      rw [locateAll, locateAll, ih]
      rfl

theorem accepted_core (s : Session) (event : CitationEvent) :
    s.core.accepted event = s.accepted event := by
  rw [accepted, accepted, locateAll_core]
  rfl

theorem core_recorded (s : Session) (event : CitationEvent) (indexes : List Nat) :
    (s.core.recorded event indexes).core = (s.recorded event indexes).core := by
  have h := History.unrendered_record s.nearNoteDistance event indexes s.history
  unfold recorded
  simp only [core, quiet, h]

theorem core_mentioning (s : Session) (indexes : List Nat) :
    (s.core.mentioning indexes).core = (s.mentioning indexes).core := by
  have hidem : s.history.unrendered.unrendered = s.history.unrendered := by
    unfold History.unrendered
    simp
  have h := History.unrendered_mention indexes s.history
  have h' := History.unrendered_mention indexes s.history.unrendered
  unfold mentioning
  simp only [core, quiet, h, h', hidem]

theorem allMentioned_core (s : Session) (indexes : List Nat) :
    s.core.AllMentioned indexes ↔ s.AllMentioned indexes := by
  have hnumbers : (s.core.mentioning indexes).history.numbers =
      (s.mentioning indexes).history.numbers := History.numbers_mention_congr rfl
  unfold AllMentioned
  rw [hnumbers]
  rfl

-- Entries are told apart by what they look like, not by outputs.
theorem core_told (s : Session) : s.core.told.core = s.told.core := by
  have hsame : Disambiguation.resolve s.core.policy s.core.keyRenderer s.core.history.mentioned
      s.core.tracker = Disambiguation.resolve s.policy s.keyRenderer s.history.mentioned
      s.tracker := rfl
  unfold told
  rw [hsame]
  cases Disambiguation.resolve s.policy s.keyRenderer s.history.mentioned s.tracker with
  | ok a t =>
      have h := core_core s
      exact congrArg (fun u : Session => { u with tracker := t }) h
  | error e t => exact core_core s

theorem core_told_congr {s u : Session} (h : s.core = u.core) : s.told.core = u.told.core := by
  rw [← core_told, h, core_told]

/-- The course does not depend on outputs. -/
theorem core_course_congr {s u : Session} (h : s.core = u.core) (call : SessionCall) :
    (s.course call).core = (u.course call).core := by
  cases call with
  | process event =>
      have haccept : s.accepted event = u.accepted event := by
        rw [← accepted_core, h, accepted_core]
      simp only [course, haccept]
      cases u.accepted event with
      | ok indexes =>
          refine core_told_congr ?_
          rw [← core_recorded, h, core_recorded]
      | error e => exact h
  | nocite ids =>
      have hids : s.locateAll ids = u.locateAll ids := by
        rw [← locateAll_core, h, locateAll_core]
      simp only [course, hids]
      cases u.locateAll ids with
      | ok indexes =>
          have hall : s.AllMentioned indexes ↔ u.AllMentioned indexes := by
            rw [← allMentioned_core, h, allMentioned_core]
          by_cases hs : s.AllMentioned indexes
          · simp only [if_pos hs, if_pos (hall.1 hs)]
            exact h
          · simp only [if_neg hs, if_neg (fun hu => hs (hall.2 hu))]
            refine core_told_congr ?_
            rw [← core_mentioning, h, core_mentioning]
      | error e => exact h
  | add e =>
      have hstore : s.store = u.store := by
        have hcore : s.core.store = u.core.store := by rw [h]
        exact hcore
      simp only [course, hstore]
      cases u.store.add e with
      | ok store => exact congrArg (fun v : Session => v.withEntry e) h
      | error err => exact h
  | refresh => exact h
  | citations => exact h
  | number id => exact h
  | disambiguation id => exact h
  | bibliography => exact h

-- Nor does it over several calls.
theorem core_foldl_course_congr (calls : List SessionCall) :
    ∀ {s u : Session}, s.core = u.core →
      (calls.foldl course s).core = (calls.foldl course u).core := by
  induction calls with
  | nil => exact fun h => h
  | cons call rest ih =>
      intro s u h
      exact ih (core_course_congr h call)

/-! ## Calls follow the course -/

theorem told_of_ok {s : Session} {a : Disambiguation.Resolution} {t : Disambiguation.Tracker}
    (h : Disambiguation.resolve s.policy s.keyRenderer s.history.mentioned s.tracker = .ok a t) :
    s.told = { s with tracker := t } := by
  rw [told, h]

theorem core_process {event : CitationEvent} {s : Session} (h : Fine (process event s)) :
    (stateAfter (process event s)).core = (s.course (.process event)).core := by
  cases haccept : s.accepted event with
  | error e =>
      have hrun : process event s = .error e s := by rw [process_eq, haccept]
      have hcourse : s.course (.process event) = s := by
        simp only [course, haccept]
      rw [hrun, hcourse]
      rfl
  | ok indexes =>
      have heq : process event s = processAccepted event indexes s := by rw [process_eq, haccept]
      rw [heq] at h ⊢
      rcases processAccepted_cases event indexes s with
        ⟨a, t, r, c, notices, s', hres, -, -, hrun, hquiet⟩ | ⟨e, s', hrun, he⟩
      · have hcourse : s.course (.process event) =
            { s.recorded event indexes with tracker := t } := by
          rw [← told_of_ok (s := s.recorded event indexes) hres]
          simp only [course, haccept]
        rw [hrun, hcourse]
        refine (core_of_quiet hquiet).trans ?_
        rw [core_output]
        rfl
      · exact absurd h (not_fine hrun he)

theorem core_nocite {ids : List String} {s : Session} (h : Fine (nocite ids s)) :
    (stateAfter (nocite ids s)).core = (s.course (.nocite ids)).core := by
  rcases nocite_cases ids s with ⟨e, hids, hrun⟩ | ⟨indexes, hids, hall, hrun⟩ |
    ⟨indexes, a, t, s', hids, hall, hres, hrun, hquiet⟩ | ⟨e, s', hrun, he⟩
  · simp only [course, hids, hrun]
    rfl
  · simp only [course, hids, hrun, if_pos hall]
    rfl
  · have htold := told_of_ok (s := s.mentioning indexes) hres
    simp only [course, hids, hrun, if_neg hall, htold]
    exact (core_of_quiet hquiet).trans rfl
  · exact absurd h (not_fine hrun he)

theorem core_refresh {s : Session} (h : Fine (refresh s)) :
    (stateAfter (refresh s)).core = s.core := by
  rcases refresh_cases s with ⟨cs, s₁, s', hrun, hre, hquiet⟩ | ⟨e, s', hrun, he, -⟩
  · rw [hrun]
    exact (core_of_quiet hquiet).trans hre.core
  · exact absurd h (not_fine hrun he)

theorem core_addEntry (e : Entry) (s : Session) :
    (stateAfter (addEntry e s)).core = (s.course (.add e)).core := by
  rw [addEntry_eq]
  simp only [course]
  cases s.store.add e with
  | ok store => rfl
  | error err => rfl

theorem core_bibliography {s : Session} (h : Fine (bibliography s)) :
    (stateAfter (bibliography s)).core = s.core := by
  rcases bibliography_cases s with ⟨b, s', hrun, hquiet⟩ | ⟨e, s', hrun, he⟩
  · rw [hrun]
    exact core_of_quiet hquiet
  · exact absurd h (not_fine hrun he)

/-- A call that does not break off follows the course. -/
theorem core_run {call : SessionCall} {s : Session} (h : Fine (call.run s)) :
    (stateAfter (call.run s)).core = (s.course call).core := by
  have hfine := fine_of_run h
  rw [stateAfter_run]
  cases call with
  | process event => exact core_process hfine
  | nocite ids => exact core_nocite hfine
  | add e => exact core_addEntry e s
  | refresh => exact core_refresh hfine
  | citations => exact core_refresh hfine
  | number id => exact congrArg core (stateAfter_locate id s)
  | disambiguation id => exact congrArg core (stateAfter_locate id s)
  | bibliography => exact core_bibliography hfine

/-- A run that does not break off follows the course. -/
theorem core_runCalls (calls : List SessionCall) :
    ∀ s : Session, (∀ e, Except.error e ∈ (runCalls SessionCall.run calls s).1 →
        e.isInput = true) →
      (runCalls SessionCall.run calls s).2.core = (calls.foldl course s).core := by
  induction calls with
  | nil => exact fun _ _ => rfl
  | cons call rest ih =>
      intro s hinput
      rw [runCalls_cons] at hinput ⊢
      have hfine : Fine (call.run s) :=
        fun e he => hinput e (by rw [he]; exact List.mem_cons_self)
      rw [ih _ (fun e he => hinput e (List.mem_cons_of_mem _ he)), List.foldl_cons]
      exact core_foldl_course_congr rest (core_run hfine)

/-- Runs that start alike and have the same contributions end alike. -/
theorem core_runCalls_congr {calls calls' : List SessionCall} {s : Session}
    (hsame : calls.filter SessionCall.contributes = calls'.filter SessionCall.contributes)
    (hinput : ∀ e, Except.error e ∈ (runCalls SessionCall.run calls s).1 → e.isInput = true)
    (hinput' : ∀ e, Except.error e ∈ (runCalls SessionCall.run calls' s).1 → e.isInput = true) :
    (runCalls SessionCall.run calls s).2.core = (runCalls SessionCall.run calls' s).2.core := by
  rw [core_runCalls calls s hinput, core_runCalls calls' s hinput',
    ← foldl_course_filter calls, hsame, foldl_course_filter]

end Session

end CslProcessor
