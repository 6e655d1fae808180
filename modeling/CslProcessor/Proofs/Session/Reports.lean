import CslProcessor.Proofs.Session.Outline
import CslProcessor.Proofs.Session.Registration

/-!
# Reports have no part in a session

A session reports what it does, and never looks at its reports. So two sessions that differ in
nothing but reports get the same replies to the same calls, and go on differing in nothing else.
This is so of calls that fail as well, for whatever reason.

Most operations read the session before they go on. `Heedless` is therefore said of an operation as
a whole, while its parts may start from what two different sessions were when they were read.

## Main definitions

* `Session.SameButReports`: Two sessions differ in nothing but reports.
* `Session.Heedless`: Work on a session that heeds no reports.

## Theorems

* `Heedless.bind`: Work in sequence heeds no reports if no piece of it does.
* `heedless_process`, `heedless_nocite`, `heedless_refresh`, `heedless_citations`,
  `heedless_bibliography`: No operation heeds reports.
-/

namespace CslProcessor

namespace Session

variable {α β : Type}

/-- Two sessions differ in nothing but reports. -/
def SameButReports (s u : Session) : Prop :=
  s.quiet = u.quiet

/-- Work on a session that heeds no reports. -/
def Heedless (m : Action α) : Prop :=
  ∀ s u, SameButReports s u → SameReply SameButReports (m s) (m u)

theorem SameButReports.exists_eq {s u : Session} (h : SameButReports s u) :
    ∃ log journal, s = { u with log := log, journal := journal } :=
  ⟨s.log, s.journal, eq_of_quiet h⟩

/-- Work in sequence heeds no reports if no piece of it does. -/
theorem Heedless.bind {m : Action α} {f : α → Action β} (hm : Heedless m)
    (hf : ∀ a, Heedless (f a)) : Heedless (m >>= f) :=
  fun s u h => (hm s u h).bind fun a => hf a

theorem heedless_pure (a : α) : Heedless (pure a) :=
  fun _ _ h => ⟨rfl, h⟩

theorem heedless_rendering (r : Render.Rendering α) : Heedless (rendering r) := by
  intro s u h
  unfold rendering
  cases r [] with
  | ok a notices => exact ⟨rfl, h⟩
  | error e notices => exact ⟨rfl, h⟩

/-- Entries are told apart without regard to reports. -/
theorem heedless_disambiguate : Heedless disambiguate := by
  intro s u h
  rcases h.exists_eq with ⟨log, journal, rfl⟩
  have hsame : Disambiguation.resolve ({ u with log, journal } : Session).policy
      ({ u with log, journal } : Session).keyRenderer
      ({ u with log, journal } : Session).history.mentioned
      ({ u with log, journal } : Session).tracker =
      Disambiguation.resolve u.policy u.keyRenderer u.history.mentioned u.tracker := rfl
  unfold disambiguate
  simp only [hsame]
  cases Disambiguation.resolve u.policy u.keyRenderer u.history.mentioned u.tracker with
  | ok a t => exact ⟨rfl, rfl⟩
  | error e t => exact ⟨rfl, rfl⟩

theorem heedless_renderEvent (k : Nat) : Heedless (renderEvent k) := by
  intro s u h
  rcases h.exists_eq with ⟨log, journal, rfl⟩
  unfold renderEvent
  rw [get_bind, get_bind]
  simp only
  cases u.history.events[k]? with
  | none => exact ⟨rfl, rfl⟩
  | some r =>
      refine (heedless_rendering (u.renderRecord k r) { u with log, journal } u h).bind ?_
      intro c v w hvw
      rcases hvw.exists_eq with ⟨log', journal', rfl⟩
      exact ⟨rfl, rfl⟩

theorem heedless_renderEvents (l : List Nat) : Heedless (renderEvents l) := by
  induction l with
  | nil => exact heedless_pure _
  | cons k rest ih =>
      exact (heedless_renderEvent k).bind fun _ => ih.bind fun _ => heedless_pure _

/-- Bringing outputs up to date heeds no reports. -/
theorem heedless_refresh : Heedless refresh := by
  intro s u h
  rcases h.exists_eq with ⟨log, journal, rfl⟩
  unfold refresh
  rw [get_bind, get_bind]
  refine (heedless_renderEvents (ListSet.sorted u.dirty) { u with log, journal } u h).bind ?_
  intro updated v w hvw
  rcases hvw.exists_eq with ⟨log', journal', rfl⟩
  cases updated.isEmpty with
  | true => exact ⟨rfl, rfl⟩
  | false => exact ⟨rfl, rfl⟩

theorem heedless_citations : Heedless citations := by
  refine heedless_refresh.bind fun _ => ?_
  intro s u h
  rcases h.exists_eq with ⟨log, journal, rfl⟩
  exact ⟨rfl, rfl⟩

/-- Building the bibliography heeds no reports. -/
theorem heedless_bibliography : Heedless bibliography := by
  intro s u h
  have halike : ListsAlike s u := ListsAlike.of_core (core_of_quiet h)
  unfold bibliography
  rw [get_bind, get_bind, halike.style, halike.bibliographyItems]
  cases u.style.bibliography with
  | none => exact ⟨rfl, h⟩
  | some part =>
      refine (heedless_rendering (u.bibliographyItems part) s u h).bind ?_
      exact fun items v w hvw => ⟨rfl, hvw⟩

/-! ## The operations that mention entries -/

-- Which citations are accepted does not depend on reports.
theorem SameButReports.accepted {s u : Session} (h : SameButReports s u) (event : CitationEvent) :
    s.accepted event = u.accepted event := by
  rw [← accepted_core s, core_of_quiet h, accepted_core]

theorem heedless_processAccepted (event : CitationEvent) (indexes : List Nat) :
    Heedless (processAccepted event indexes) := by
  intro s u h
  rcases h.exists_eq with ⟨log, journal, rfl⟩
  unfold processAccepted
  rw [get_bind, get_bind, set_bind, set_bind]
  refine (heedless_disambiguate (({ u with log, journal } : Session).recorded event indexes)
    (u.recorded event indexes) rfl).bind ?_
  intro affected v w hvw
  rcases hvw.exists_eq with ⟨log', journal', rfl⟩
  rw [get_bind, get_bind, modify_bind, modify_bind]
  refine SameReply.bind (heedless_renderEvent _ _ _ ?_) ?_
  · rfl
  · intro c v' w' hvw'
    rcases hvw'.exists_eq with ⟨log'', journal'', rfl⟩
    exact ⟨rfl, rfl⟩

/-- Processing a citation heeds no reports. -/
theorem heedless_process (event : CitationEvent) : Heedless (process event) := by
  intro s u h
  rw [process_eq, process_eq, h.accepted]
  cases u.accepted event with
  | ok indexes => exact heedless_processAccepted event indexes s u h
  | error e => exact ⟨rfl, h⟩

theorem heedless_mentionAll (indexes : List Nat) : Heedless (mentionAll indexes) := by
  intro s u h
  rcases h.exists_eq with ⟨log, journal, rfl⟩
  unfold mentionAll
  rw [get_bind, get_bind, set_bind, set_bind]
  simp only
  split
  · refine (heedless_disambiguate (({ u with log, journal } : Session).mentioning indexes)
      (u.mentioning indexes) rfl).bind ?_
    intro affected v w hvw
    rcases hvw.exists_eq with ⟨log', journal', rfl⟩
    exact ⟨rfl, rfl⟩
  · exact ⟨rfl, rfl⟩

/-- Mentioning entries heeds no reports. -/
theorem heedless_nocite (ids : List String) : Heedless (nocite ids) := by
  intro s u h
  have hids : s.locateAll ids = u.locateAll ids := by
    rw [← locateAll_core s, core_of_quiet h, locateAll_core]
  rw [nocite_eq, nocite_eq, hids]
  cases u.locateAll ids with
  | ok indexes => exact heedless_mentionAll indexes s u h
  | error e => exact ⟨rfl, h⟩

end Session

end CslProcessor
