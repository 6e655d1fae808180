import CslProcessor.Processor.Call
import CslProcessor.Proofs.Session.Reports

/-!
# Refused calls leave no trace

A call of a processor is turned down if its input is refused or if there is no room for its entry.
All checks of a call come before anything that it changes, so a call that is turned down changes
nothing but reports, and no later call can tell that it was made. It follows that such calls can be
left out of a run, wherever they stand in it, also if other calls fail for whatever reason.

Adding several entries at once is the exception: entries in front of one that is refused stay added.

## Main definitions

* `Processor.SameButReports`, `Processor.Heedless`: Processors that differ in nothing but reports,
  and work that heeds no reports.
* `Processor.RefusesCleanly`: Work that changes nothing but reports if it is refused.
* `turnedDown`: Whether a call was turned down.
* `Processor.keptCalls`: The calls that were not.

## Theorems

* `Processor.heedless_run`: No call heeds reports.
* `Processor.run_turnedDown`: A call that is turned down changes nothing but reports.
* `Processor.runCalls_keptCalls`, `Processor.turnedDown_leaves_no_trace`: Calls that were turned
  down can be left out of a run.
-/

namespace CslProcessor

namespace Processor

open Session (refusal)

variable {α β : Type}

/-! ## Work that heeds no reports -/

/-- Two processors differ in nothing but reports. -/
structure SameButReports (p q : Processor) : Prop where
  settings : p.settings = q.settings
  style : p.style = q.style
  locale : p.locale = q.locale
  session : p.session.SameButReports q.session
  lastPosition : p.lastPosition = q.lastPosition

theorem SameButReports.refl (p : Processor) : SameButReports p p :=
  ⟨rfl, rfl, rfl, rfl, rfl⟩

theorem SameButReports.trans {p q r : Processor} (h : SameButReports p q)
    (h' : SameButReports q r) : SameButReports p r :=
  ⟨h.settings.trans h'.settings, h.style.trans h'.style, h.locale.trans h'.locale,
    Eq.trans h.session h'.session, h.lastPosition.trans h'.lastPosition⟩

theorem SameButReports.exists_eq {p q : Processor} (h : SameButReports p q) :
    ∃ s, p = { q with session := s } ∧ s.SameButReports q.session := by
  refine ⟨p.session, ?_, h.session⟩
  rw [← h.settings, ← h.style, ← h.locale, ← h.lastPosition]

/-- Work on a processor that heeds no reports. -/
def Heedless (m : Action α) : Prop :=
  ∀ p q, SameButReports p q → SameReply SameButReports (m p) (m q)

/-- Work in sequence heeds no reports if no piece of it does. -/
theorem Heedless.bind {m : Action α} {f : α → Action β} (hm : Heedless m)
    (hf : ∀ a, Heedless (f a)) : Heedless (m >>= f) :=
  fun p q h => (hm p q h).bind fun a => hf a

theorem heedless_pure (a : α) : Heedless (pure a) :=
  fun _ _ h => ⟨rfl, h⟩

-- What is replied is what the session replies, and nothing but the session changes.
theorem replyOf_onSession (a : Session.Action α) (p : Processor) :
    replyOf (onSession a p) = replyOf (a p.session) := by
  unfold onSession
  cases a p.session <;> rfl

theorem stateAfter_onSession (a : Session.Action α) (p : Processor) :
    stateAfter (onSession a p) = { p with session := stateAfter (a p.session) } := by
  unfold onSession
  cases a p.session <;> rfl

/-- Work on the session of a processor heeds no reports if it heeds none of the session. -/
theorem heedless_onSession {a : Session.Action α} (ha : Session.Heedless a) :
    Heedless (onSession a) := by
  intro p q h
  rcases h.exists_eq with ⟨s, rfl, hs⟩
  rcases ha s q.session hs with ⟨hreply, hstate⟩
  refine ⟨?_, ?_⟩
  · rw [replyOf_onSession, replyOf_onSession, hreply]
  · rw [stateAfter_onSession, stateAfter_onSession]
    exact ⟨rfl, rfl, rfl, hstate, rfl⟩

/-- An entry is added, or not for want of room, or is refused. -/
theorem addReference_eq (e : Entry) (p : Processor) :
    addReference e p =
      match p.session.store.add e with
      | .ok store => .ok true { p with session := { p.session with store } }
      | .error (.full ..) =>
        .ok false { p with session := stateAfter (Session.report
          { severity := .warning, channel := .engine, message := "Max references reached"
            fields := [("max_entries", .text p.settings.maxEntries.shown)] } p.session) }
      | .error (.duplicate id) => .error (.store (.duplicate id)) p := by
  unfold addReference
  rw [get_bind]
  cases p.session.store.add e with
  | ok store => rfl
  | error err => cases err <;> rfl

theorem heedless_addReference (e : Entry) : Heedless (addReference e) := by
  intro p q h
  rcases h.exists_eq with ⟨s, rfl, hs⟩
  rcases hs.exists_eq with ⟨log, journal, rfl⟩
  rw [addReference_eq, addReference_eq]
  simp only
  cases q.session.store.add e with
  | ok store => exact ⟨rfl, rfl, rfl, rfl, rfl, rfl⟩
  | error err => cases err <;> exact ⟨rfl, rfl, rfl, rfl, rfl, rfl⟩

theorem heedless_addReferences (es : List Entry) : Heedless (addReferences es) := by
  induction es with
  | nil => exact heedless_pure _
  | cons e rest ih =>
      exact (heedless_addReference e).bind fun _ => ih.bind fun _ => heedless_pure _

theorem heedless_process (event : CitationEvent) : Heedless (process event) := by
  refine (heedless_onSession (Session.heedless_process event)).bind fun c => ?_
  exact fun p q h => ⟨rfl, h.settings, h.style, h.locale, h.session, rfl⟩

theorem heedless_cite (targets : List CiteTarget) (locator : Option String) (locatorType : String)
    (position : Option Int) : Heedless (cite targets locator locatorType position) := by
  intro p q h
  unfold cite
  rw [get_bind, get_bind, h.lastPosition]
  exact heedless_process _ p q h

theorem heedless_nocite (ids : List String) : Heedless (nocite ids) :=
  heedless_onSession (Session.heedless_nocite ids)

/-- Which entries a bibliography mentions before it is built. -/
def prepare (ids : List String) : Action Unit := do
  let session := (← get).session
  if !ids.isEmpty then nocite ids
  else if session.history.events.isEmpty then nocite session.store.ids

theorem prepare_eq (ids : List String) (p : Processor) :
    prepare ids p =
      if ids.isEmpty then
        if p.session.history.events.isEmpty then nocite p.session.store.ids p else .ok ⟨⟩ p
      else nocite ids p := by
  unfold prepare
  rw [get_bind]
  cases ids.isEmpty with
  | false => rfl
  | true => cases p.session.history.events.isEmpty <;> rfl

/-- A bibliography is built after the entries that it is asked for were mentioned. -/
theorem generateBibliography_eq (ids : List String) :
    generateBibliography ids = do
      prepare ids
      let whole ← onSession Session.bibliography
      return if ids.isEmpty then whole
        else { whole with items := whole.items.filter fun i => ids.contains i.entryId } := by
  funext p
  have hprepare := prepare_eq ids p
  unfold generateBibliography
  rw [get_bind]
  cases hids : ids.isEmpty with
  | false =>
      rw [hids, if_neg Bool.false_ne_true] at hprepare
      exact (bind_congr_of_eq hprepare _).symm
  | true =>
      rw [hids, if_pos rfl] at hprepare
      cases hnone : p.session.history.events.isEmpty with
      | false =>
          rw [hnone, if_neg Bool.false_ne_true] at hprepare
          have hpure : prepare ids p = (pure () : Action Unit) p := hprepare
          refine Eq.trans ?_ (bind_congr_of_eq hpure _).symm
          rfl
      | true =>
          rw [hnone, if_pos rfl] at hprepare
          exact (bind_congr_of_eq hprepare _).symm

theorem heedless_prepare (ids : List String) : Heedless (prepare ids) := by
  intro p q h
  have hs := h.session
  have hids : p.session.store.ids = q.session.store.ids := by
    rcases hs.exists_eq with ⟨log, journal, heq⟩
    rw [heq]
  have hevents : p.session.history.events = q.session.history.events := by
    rcases hs.exists_eq with ⟨log, journal, heq⟩
    rw [heq]
  rw [prepare_eq, prepare_eq, hids, hevents]
  cases ids.isEmpty with
  | false => exact heedless_nocite ids p q h
  | true =>
      cases q.session.history.events.isEmpty with
      | false => exact ⟨rfl, h⟩
      | true => exact heedless_nocite q.session.store.ids p q h

theorem heedless_generateBibliography (ids : List String) :
    Heedless (generateBibliography ids) := by
  rw [generateBibliography_eq]
  refine (heedless_prepare ids).bind fun _ => ?_
  exact (heedless_onSession Session.heedless_bibliography).bind fun _ => heedless_pure _

/-- No call heeds reports. -/
theorem heedless_run (call : ProcessorCall) : Heedless call.run := by
  cases call with
  | add e => exact (heedless_addReference e).bind fun _ => heedless_pure _
  | addAll es => exact (heedless_addReferences es).bind fun _ => heedless_pure _
  | find id =>
      intro p q h
      rcases h.exists_eq with ⟨s, rfl, hs⟩
      rcases hs.exists_eq with ⟨log, journal, rfl⟩
      exact ⟨rfl, h⟩
  | cite targets locator locatorType position =>
      exact (heedless_cite targets locator locatorType position).bind fun _ => heedless_pure _
  | format targets locator locatorType =>
      refine Heedless.bind ?_ fun _ => heedless_pure _
      unfold format
      cases targets.isEmpty with
      | true => exact heedless_pure _
      | false =>
          exact (heedless_cite targets locator locatorType none).bind fun _ => heedless_pure _
  | process event => exact (heedless_process event).bind fun _ => heedless_pure _
  | updates =>
      refine Heedless.bind ?_ fun _ => heedless_pure _
      exact (heedless_onSession Session.heedless_refresh).bind fun _ => heedless_pure _
  | citations =>
      refine Heedless.bind ?_ fun _ => heedless_pure _
      exact (heedless_onSession Session.heedless_citations).bind fun _ => heedless_pure _
  | nocite ids => exact (heedless_nocite ids).bind fun _ => heedless_pure _
  | bibliography ids =>
      exact (heedless_generateBibliography ids).bind fun _ => heedless_pure _
  | clear =>
      refine Heedless.bind ?_ fun _ => heedless_pure _
      intro p q h
      refine ⟨rfl, h.settings, h.style, h.locale, ?_, rfl⟩
      have hfresh : (freshSession p.settings p.style p.locale).quiet =
          (freshSession q.settings q.style q.locale).quiet := by
        rw [h.settings, h.style, h.locale]
      exact hfresh

/-! ## Calls that are turned down -/

/-- Work that is never refused. -/
def NeverRefused (m : Action α) : Prop :=
  ∀ p, refusal (replyOf (m p)) = false

/-- Work that changes nothing but reports if it is refused. -/
def RefusesCleanly (m : Action α) : Prop :=
  ∀ p, refusal (replyOf (m p)) = true → SameButReports (stateAfter (m p)) p

theorem NeverRefused.refusesCleanly {m : Action α} (h : NeverRefused m) : RefusesCleanly m := by
  intro p hrefused
  rw [h p] at hrefused
  exact absurd hrefused Bool.false_ne_true

theorem NeverRefused.bind {m : Action α} {f : α → Action β} (hm : NeverRefused m)
    (hf : ∀ a, NeverRefused (f a)) : NeverRefused (m >>= f) := by
  intro p
  have hp := hm p
  cases hrun : m p with
  | ok a q =>
      rw [bind_of_ok hrun]
      exact hf a q
  | error e q =>
      rw [hrun] at hp
      rw [bind_of_error hrun]
      exact hp

/-- What comes behind the last check is never refused. -/
theorem RefusesCleanly.bind {m : Action α} {f : α → Action β} (hm : RefusesCleanly m)
    (hf : ∀ a, NeverRefused (f a)) : RefusesCleanly (m >>= f) := by
  intro p hrefused
  have hp := hm p
  cases hrun : m p with
  | ok a q =>
      rw [bind_of_ok hrun, hf a q] at hrefused
      exact absurd hrefused Bool.false_ne_true
  | error e q =>
      rw [hrun] at hp
      rw [bind_of_error hrun] at hrefused ⊢
      exact hp hrefused

theorem neverRefused_pure (a : α) : NeverRefused (pure a) :=
  fun _ => rfl

theorem neverRefused_onSession {a : Session.Action α}
    (ha : ∀ s, refusal (replyOf (a s)) = false) : NeverRefused (onSession a) := by
  intro p
  rw [replyOf_onSession]
  exact ha p.session

theorem refusesCleanly_onSession {a : Session.Action α}
    (ha : ∀ s, refusal (replyOf (a s)) = true → stateAfter (a s) = s) :
    RefusesCleanly (onSession a) := by
  intro p hrefused
  rw [replyOf_onSession] at hrefused
  rw [stateAfter_onSession, ha p.session hrefused]
  exact SameButReports.refl p

theorem refusesCleanly_process (event : CitationEvent) : RefusesCleanly (process event) := by
  refine (refusesCleanly_onSession fun s hrefused => ?_).bind fun c => ?_
  · rw [Session.refusal_process] at hrefused
    rw [Session.process_eq]
    cases haccept : s.accepted event with
    | ok indexes =>
        rw [haccept] at hrefused
        exact absurd hrefused Bool.false_ne_true
    | error e => rfl
  · exact fun p => rfl

theorem refusesCleanly_cite (targets : List CiteTarget) (locator : Option String)
    (locatorType : String) (position : Option Int) :
    RefusesCleanly (cite targets locator locatorType position) := by
  intro p
  unfold cite
  rw [get_bind]
  exact refusesCleanly_process _ p

theorem refusesCleanly_nocite (ids : List String) : RefusesCleanly (nocite ids) := by
  refine refusesCleanly_onSession fun s hrefused => ?_
  rw [Session.refusal_nocite] at hrefused
  rw [Session.nocite_eq]
  cases hids : s.locateAll ids with
  | ok indexes =>
      rw [hids] at hrefused
      exact absurd hrefused Bool.false_ne_true
  | error e => rfl

theorem refusesCleanly_prepare (ids : List String) : RefusesCleanly (prepare ids) := by
  intro p
  rw [prepare_eq]
  cases ids.isEmpty with
  | false => exact refusesCleanly_nocite ids p
  | true =>
      cases p.session.history.events.isEmpty with
      | false => exact fun _ => SameButReports.refl p
      | true => exact refusesCleanly_nocite p.session.store.ids p

-- Rendering fails for other reasons than input.
theorem refusal_refresh (s : Session) : refusal (replyOf (Session.refresh s)) = false := by
  rcases Session.refresh_cases s with ⟨cs, s₁, s', hrun, -, -⟩ | ⟨e, s', hrun, he, -⟩
  · rw [hrun]
    rfl
  · rw [hrun]
    exact he

theorem refusal_citations (s : Session) : refusal (replyOf (Session.citations s)) = false := by
  have hread := replyOf_read Session.refresh
    (fun u _ => u.history.events.map EventRecord.rendered) s
  refine (congrArg refusal hread).trans ?_
  rw [Session.refusal_map, refusal_refresh]

theorem refusal_bibliography (s : Session) :
    refusal (replyOf (Session.bibliography s)) = false := by
  rcases Session.bibliography_cases s with ⟨b, s', hrun, -⟩ | ⟨e, s', hrun, he⟩
  · rw [hrun]
    rfl
  · rw [hrun]
    exact he

theorem refusesCleanly_generateBibliography (ids : List String) :
    RefusesCleanly (generateBibliography ids) := by
  rw [generateBibliography_eq]
  refine (refusesCleanly_prepare ids).bind fun _ => ?_
  exact (neverRefused_onSession refusal_bibliography).bind fun _ => neverRefused_pure _

end Processor

/-- Whether a call was turned down: its input was refused, or there was no room for its entry. -/
def turnedDown : Except SessionError Reply → Bool
  | .error e => e.isInput
  | .ok (.truth added) => !added
  | .ok _ => false

namespace Processor

open Session (refusal)

variable {α : Type}

-- Where a reply does not tell whether something was added, being turned down is being refused.
theorem turnedDown_reply {m : Action α} {f : α → Reply} (hf : ∀ a, turnedDown (.ok (f a)) = false)
    (hm : RefusesCleanly m) (p : Processor)
    (h : turnedDown (replyOf ((do return f (← m) : Action Reply) p)) = true) :
    SameButReports (stateAfter ((do return f (← m) : Action Reply) p)) p := by
  have hread := replyOf_read m (fun _ => f) p
  refine ((hm.bind fun a => neverRefused_pure (f a)) p ?_)
  cases hrun : m p with
  | ok a q =>
      rw [hrun] at hread
      rw [show replyOf ((do return f (← m) : Action Reply) p) = .ok (f a) from hread, hf] at h
      exact absurd h Bool.false_ne_true
  | error e q =>
      rw [hrun] at hread
      rw [show replyOf ((do return f (← m) : Action Reply) p) = .error e from hread] at h ⊢
      exact h

/-- A call that is turned down changes nothing but reports, unless it adds several entries. -/
theorem run_turnedDown {call : ProcessorCall} (hcall : ∀ es, call ≠ .addAll es) (p : Processor)
    (h : turnedDown (replyOf (call.run p)) = true) :
    SameButReports (stateAfter (call.run p)) p := by
  cases call with
  | add e =>
      have hrun := addReference_eq e p
      cases hadd : p.session.store.add e with
      | ok store =>
          rw [hadd] at hrun
          rw [ProcessorCall.run, bind_of_ok hrun] at h
          exact absurd h Bool.false_ne_true
      | error err =>
          cases err with
          | duplicate id =>
              rw [hadd] at hrun
              rw [ProcessorCall.run, bind_of_error hrun]
              exact SameButReports.refl p
          | full limit id =>
              rw [hadd] at hrun
              rw [ProcessorCall.run, bind_of_ok hrun]
              exact ⟨rfl, rfl, rfl, rfl, rfl⟩
  | addAll es => exact absurd rfl (hcall es)
  | find id => exact absurd h Bool.false_ne_true
  | cite targets locator locatorType position =>
      exact turnedDown_reply (fun _ => rfl) (refusesCleanly_cite _ _ _ _) p h
  | format targets locator locatorType =>
      refine turnedDown_reply (fun _ => rfl) ?_ p h
      unfold format
      cases targets.isEmpty with
      | true => exact (neverRefused_pure _).refusesCleanly
      | false => exact (refusesCleanly_cite _ _ _ _).bind fun _ => neverRefused_pure _
  | process event => exact turnedDown_reply (fun _ => rfl) (refusesCleanly_process event) p h
  | updates =>
      refine turnedDown_reply (fun _ => rfl) (NeverRefused.refusesCleanly ?_) p h
      exact (neverRefused_onSession refusal_refresh).bind fun _ => neverRefused_pure _
  | citations =>
      refine turnedDown_reply (fun _ => rfl) (NeverRefused.refusesCleanly ?_) p h
      exact (neverRefused_onSession refusal_citations).bind fun _ => neverRefused_pure _
  | nocite ids => exact turnedDown_reply (fun _ => rfl) (refusesCleanly_nocite ids) p h
  | bibliography ids =>
      exact turnedDown_reply (fun _ => rfl) (refusesCleanly_generateBibliography ids) p h
  | clear => exact absurd h Bool.false_ne_true

/-! ## Runs without calls that were turned down -/

/-- The calls that were not turned down, given what was replied. -/
def keptCalls (calls : List ProcessorCall) (replies : List (Except SessionError Reply)) :
    List ProcessorCall :=
  ((calls.zip replies).filter fun x => !turnedDown x.2).map (·.1)

theorem keptCalls_cons (call : ProcessorCall) (rest : List ProcessorCall)
    (reply : Except SessionError Reply) (others : List (Except SessionError Reply)) :
    keptCalls (call :: rest) (reply :: others) =
      if turnedDown reply then keptCalls rest others else call :: keptCalls rest others := by
  cases hreply : turnedDown reply <;> simp [keptCalls, hreply]

/-- Without the calls that were turned down the other calls get the same replies. -/
theorem runCalls_keptCalls (calls : List ProcessorCall) :
    ∀ {p q : Processor}, SameButReports p q → (∀ es, ProcessorCall.addAll es ∉ calls) →
      (runCalls ProcessorCall.run
          (keptCalls calls (runCalls ProcessorCall.run calls p).1) q).1 =
        (runCalls ProcessorCall.run calls p).1.filter (fun reply => !turnedDown reply) ∧
      SameButReports (runCalls ProcessorCall.run calls p).2
        (runCalls ProcessorCall.run
          (keptCalls calls (runCalls ProcessorCall.run calls p).1) q).2 := by
  induction calls with
  | nil => exact fun h _ => ⟨rfl, h⟩
  | cons call rest ih =>
      intro p q h hcalls
      have hrest : ∀ es, ProcessorCall.addAll es ∉ rest :=
        fun es hmem => hcalls es (List.mem_cons_of_mem _ hmem)
      rw [runCalls_cons, keptCalls_cons, List.filter_cons]
      cases hdown : turnedDown (replyOf (call.run p)) with
      | true =>
          -- Nothing has changed that the later calls could tell.
          have hsame := run_turnedDown (fun es heq => hcalls es (heq ▸ List.mem_cons_self)) p hdown
          exact ih (hsame.trans h) hrest
      | false =>
          rcases heedless_run call p q h with ⟨hreply, hstate⟩
          rcases ih hstate hrest with ⟨hreplies, hfinal⟩
          rw [if_neg Bool.false_ne_true, runCalls_cons, ← hreply]
          refine ⟨?_, hfinal⟩
          rw [hreplies]
          rfl

/-- Calls that were turned down leave no trace: without them, the other calls of a run get the same
    replies and leave the processor as it is, apart from reports, with the same positions, the same
    numbers and the same that tells entries apart. -/
theorem turnedDown_leaves_no_trace (p : Processor) (calls : List ProcessorCall)
    (hcalls : ∀ es, ProcessorCall.addAll es ∉ calls)
    (replies : List (Except SessionError Reply)) (p' : Processor)
    (hrun : (replies, p') = runCalls ProcessorCall.run calls p) :
    ∃ q, runCalls ProcessorCall.run (keptCalls calls replies) p =
        (replies.filter (fun reply => !turnedDown reply), q) ∧
      SameButReports p' q ∧ p'.session.positions? = q.session.positions? ∧
      p'.session.history.numbers = q.session.history.numbers ∧
      p'.session.tracker.state = q.session.tracker.state := by
  have hreplies : replies = (runCalls ProcessorCall.run calls p).1 := congrArg Prod.fst hrun
  have hfinal : p' = (runCalls ProcessorCall.run calls p).2 := congrArg Prod.snd hrun
  rcases runCalls_keptCalls calls (SameButReports.refl p) hcalls with ⟨hkept, hsame⟩
  rw [← hreplies] at hkept hsame
  rw [← hfinal] at hsame
  refine ⟨_, Prod.ext hkept rfl, hsame, ?_⟩
  rcases hsame.session.exists_eq with ⟨log, journal, heq⟩
  rw [heq]
  exact ⟨rfl, rfl, rfl⟩

/-- A processor with room for two entries. -/
def twoWorks : Processor :=
  start { id := "style", citation := { layout := { children := [.text (.ofValue "W") {}] } } }
    { lang := "" } { maxEntries := .int 2 }

/-- Calls of which five are turned down, one of them for want of room. -/
def crowdedCalls : List ProcessorCall :=
  [.add { id := "a" }, .nocite ["a", "b"], .add { id := "a" }, .add { id := "b" },
    .add { id := "c" }, .cite [.ofId "a"] none "page" none,
    .cite [.ofId "b"] none "page" (some 1), .cite [.ofId "b", .ofId "c"] none "page" none,
    .cite [.ofId "b"] none "page" none, .updates]

set_option maxRecDepth 100000 in
theorem turnedDown_leaves_no_trace_twoWorks :
    ∃ replies p' q, (replies, p') = runCalls ProcessorCall.run crowdedCalls twoWorks ∧
      runCalls ProcessorCall.run
        [.add { id := "a" }, .add { id := "b" }, .cite [.ofId "a"] none "page" none,
          .cite [.ofId "b"] none "page" none, .updates] twoWorks =
        (replies.filter (fun reply => !turnedDown reply), q) ∧ SameButReports p' q := by
  have hkept : keptCalls crowdedCalls (runCalls ProcessorCall.run crowdedCalls twoWorks).1 =
      [.add { id := "a" }, .add { id := "b" }, .cite [.ofId "a"] none "page" none,
        .cite [.ofId "b"] none "page" none, .updates] := by
    cbv
  rcases turnedDown_leaves_no_trace twoWorks crowdedCalls (by simp [crowdedCalls])
    (runCalls ProcessorCall.run crowdedCalls twoWorks).1
    (runCalls ProcessorCall.run crowdedCalls twoWorks).2 rfl with ⟨q, hrun, hsame, -⟩
  rw [hkept] at hrun
  exact ⟨_, _, q, rfl, hrun, hsame⟩

end Processor

end CslProcessor
