import CslProcessor.Proofs.Processor.Refusals
import CslProcessor.Proofs.Session.Numbering

/-!
# The numbers of a processor

A processor has everything forgotten by one of its calls, and takes up citations and mentions where
others have failed. So the numbers of its session do not follow from its calls alone, as those of a
session do. What is true of them at any time is that they are counted from one, in the order in
which some entries were mentioned, and that these are stored.

This is true of a session without citations, and every piece of work preserves it, whether or not it
fails: what takes nothing in leaves the numbers as they are, and what mentions entries counts on.

## Main definitions

* `Preserves`: Work that preserves an invariant, whether or not it fails.
* `Session.Counting`, `Processor.Counting`: Sessions and processors of a style whose numbers are
  counted.

## Theorems

* `Session.numberedBy_nocite`: The numbers after a mention.
* `Processor.preserves_run`: Every call of a processor preserves what is true of its numbers.
* `Processor.counting_runCalls`: The numbers of a processor are counted after any run.
-/

namespace CslProcessor

/-! ## Invariants of work -/

section

variable {ε σ α β : Type} {I : σ → Prop}

/-- Work that preserves an invariant, whether or not it fails. -/
def Preserves (I : σ → Prop) (m : EStateM ε σ α) : Prop :=
  ∀ s, I s → I (stateAfter (m s))

theorem preserves_pure (a : α) : Preserves I (pure a : EStateM ε σ α) :=
  fun _ h => h

/-- Work in sequence preserves an invariant if each piece of it does. -/
theorem Preserves.bind {m : EStateM ε σ α} {f : α → EStateM ε σ β} (hm : Preserves I m)
    (hf : ∀ a, Preserves I (f a)) : Preserves I (m >>= f) := by
  intro s hs
  have hnext := hm s hs
  cases hrun : m s with
  | ok a u =>
      rw [hrun] at hnext
      rw [bind_of_ok hrun]
      exact hf a u hnext
  | error e u =>
      rw [hrun] at hnext
      rw [bind_of_error hrun]
      exact hnext

end

/-! ## Sessions -/

namespace Session

variable {style : Style} {α : Type}

/-- A session of a style whose numbers are counted, by whatever mentions. -/
structure Counting (style : Style) (s : Session) : Prop where
  ofStyle : s.style = style
  numbered : ∃ ids, NumberedBy ids s.store s.history

-- The style and the numbers are part of the outline.
theorem Counting.congr {s u : Session} (h : s.Counting style) (heq : u.outline = s.outline) :
    u.Counting style := by
  obtain ⟨ids, hn⟩ := h.numbered
  have hstyle : u.style = s.style := (congrArg Session.style heq :)
  have hstore : u.store = s.store := (congrArg Session.store heq :)
  have hnumbers : u.history.numbers = s.history.numbers :=
    (congrArg (fun v : Session => v.history.numbers) heq :)
  refine ⟨hstyle.trans h.ofStyle, ids, ?_⟩
  rw [hstore]
  exact hn.congr hnumbers

theorem KeepsOutline.preserves {m : Action α} (h : KeepsOutline m) :
    Preserves (Counting style) m :=
  fun s hs => hs.congr (h s)

-- What mentioning entries takes in, once they are found.
theorem outline_nocite_of_locateAll {s : Session} {ids : List String} {indexes : List Nat}
    (h : s.locateAll ids = .ok indexes) :
    (stateAfter (nocite ids s)).outline = (s.mentioning indexes).outline := by
  rw [outline_nocite, h]

/-- Entries that are mentioned are counted behind those that were mentioned before. -/
theorem numberedBy_nocite {s : Session} {ids more : List String} {indexes : List Nat}
    (hn : NumberedBy ids s.store s.history) (hmore : s.locateAll more = .ok indexes) :
    NumberedBy (ids ++ more) (stateAfter (nocite more s)).store
      (stateAfter (nocite more s)).history := by
  have houtline := outline_nocite_of_locateAll hmore
  have hstore : (stateAfter (nocite more s)).store = s.store := (congrArg Session.store houtline :)
  have hnumbers : (stateAfter (nocite more s)).history.numbers =
      (s.history.mention indexes).numbers :=
    (congrArg (fun v : Session => v.history.numbers) houtline :)
  rw [hstore]
  exact (hn.mention more (locates_of_locateAll hmore)).congr hnumbers

theorem preserves_nocite (more : List String) : Preserves (Counting style) (nocite more) := by
  intro s hs
  cases hmore : s.locateAll more with
  | error e =>
      have houtline := outline_nocite more s
      rw [hmore] at houtline
      exact hs.congr houtline
  | ok indexes =>
      obtain ⟨ids, hn⟩ := hs.numbered
      have hstyle : (stateAfter (nocite more s)).style = s.style :=
        (congrArg Session.style (outline_nocite_of_locateAll hmore) :)
      exact ⟨hstyle.trans hs.ofStyle, ids ++ more, numberedBy_nocite hn hmore⟩

theorem preserves_process (event : CitationEvent) : Preserves (Counting style) (process event) := by
  intro s hs
  have houtline := outline_process event s
  cases haccept : s.accepted event with
  | error e =>
      rw [haccept] at houtline
      exact hs.congr houtline
  | ok indexes =>
      rw [haccept] at houtline
      obtain ⟨ids, hn⟩ := hs.numbered
      have hmention := hn.mention event.entryIds (locates_of_accepted haccept)
      have hrecorded : (s.recorded event indexes).Counting style :=
        ⟨hs.ofStyle, ids ++ event.entryIds, hmention.congr (History.numbers_record ..)⟩
      exact hrecorded.congr houtline

theorem preserves_citations : Preserves (Counting style) citations := by
  intro s hs
  have hread : stateAfter (citations s) = stateAfter (refresh s) :=
    stateAfter_read refresh (fun u _ => u.history.events.map EventRecord.rendered) s
  rw [hread]
  exact hs.congr (keepsOutline_refresh s)

-- One more entry in the store.
theorem Counting.add {s : Session} (hs : s.Counting style) {e : Entry} {store : EntryStore}
    (h : s.store.add e = .ok store) : ({ s with store } : Session).Counting style := by
  obtain ⟨ids, hn⟩ := hs.numbered
  obtain ⟨-, -, rfl⟩ := EntryStore.add_eq_ok_iff.1 h
  exact ⟨hs.ofStyle, ids, hn.add e⟩

end Session

/-! ## Processors -/

namespace Processor

variable {style : Style} {α : Type}

/-- A processor of a style whose session is of this style and has its numbers counted. -/
structure Counting (style : Style) (p : Processor) : Prop where
  ofStyle : p.style = style
  session : p.session.Counting style

theorem preserves_onSession {a : Session.Action α} (ha : Preserves (Session.Counting style) a) :
    Preserves (Counting style) (onSession a) := by
  intro p hp
  rw [stateAfter_onSession]
  exact ⟨hp.ofStyle, ha p.session hp.session⟩

theorem preserves_addReference (e : Entry) : Preserves (Counting style) (addReference e) := by
  intro p hp
  rw [addReference_eq]
  cases hadd : p.session.store.add e with
  | ok store => exact ⟨hp.ofStyle, hp.session.add hadd⟩
  | error err =>
      cases err with
      | duplicate id => exact hp
      | full limit id =>
          exact ⟨hp.ofStyle, (Session.keepsOutline_report _).preserves _ hp.session⟩

theorem preserves_addReferences (es : List Entry) :
    Preserves (Counting style) (addReferences es) := by
  induction es with
  | nil => exact preserves_pure _
  | cons e rest ih =>
      exact (preserves_addReference e).bind fun _ => ih.bind fun _ => preserves_pure _

theorem preserves_process (event : CitationEvent) :
    Preserves (Counting style) (process event) := by
  refine (preserves_onSession (Session.preserves_process event)).bind fun c => ?_
  exact fun p hp => ⟨hp.ofStyle, hp.session⟩

theorem preserves_cite (targets : List CiteTarget) (locator : Option String) (locatorType : String)
    (position : Option Int) :
    Preserves (Counting style) (cite targets locator locatorType position) :=
  fun p hp => preserves_process _ p hp

theorem preserves_nocite (ids : List String) : Preserves (Counting style) (nocite ids) :=
  preserves_onSession (Session.preserves_nocite ids)

theorem preserves_prepare (ids : List String) : Preserves (Counting style) (prepare ids) := by
  intro p hp
  rw [prepare_eq]
  cases ids.isEmpty with
  | false => exact preserves_nocite ids p hp
  | true =>
      cases p.session.history.events.isEmpty with
      | false => exact hp
      | true => exact preserves_nocite p.session.store.ids p hp

theorem preserves_generateBibliography (ids : List String) :
    Preserves (Counting style) (generateBibliography ids) := by
  rw [generateBibliography_eq]
  refine (preserves_prepare ids).bind fun _ => ?_
  exact (preserves_onSession Session.keepsOutline_bibliography.preserves).bind fun _ =>
    preserves_pure _

/-- A session without citations has no numbers yet. -/
theorem counting_freshSession (settings : EngineSettings) (locale : Locale) :
    (freshSession settings style locale).Counting style :=
  ⟨rfl, [], rfl, rfl, fun _ hi => absurd hi List.not_mem_nil⟩

/-- Every call of a processor preserves what is true of its numbers. -/
theorem preserves_run (call : ProcessorCall) : Preserves (Counting style) call.run := by
  cases call with
  | add e => exact (preserves_addReference e).bind fun _ => preserves_pure _
  | addAll es => exact (preserves_addReferences es).bind fun _ => preserves_pure _
  | find id => exact fun p hp => hp
  | cite targets locator locatorType position =>
      exact (preserves_cite targets locator locatorType position).bind fun _ => preserves_pure _
  | format targets locator locatorType =>
      refine Preserves.bind ?_ fun _ => preserves_pure _
      unfold format
      cases targets.isEmpty with
      | true => exact preserves_pure _
      | false =>
          exact (preserves_cite targets locator locatorType none).bind fun _ => preserves_pure _
  | process event => exact (preserves_process event).bind fun _ => preserves_pure _
  | updates =>
      refine Preserves.bind ?_ fun _ => preserves_pure _
      exact (preserves_onSession Session.keepsOutline_refresh.preserves).bind fun _ =>
        preserves_pure _
  | citations =>
      refine Preserves.bind ?_ fun _ => preserves_pure _
      exact (preserves_onSession Session.preserves_citations).bind fun _ => preserves_pure _
  | nocite ids => exact (preserves_nocite ids).bind fun _ => preserves_pure _
  | bibliography ids =>
      exact (preserves_generateBibliography ids).bind fun _ => preserves_pure _
  | clear =>
      -- What was reported is kept, but nothing that was taken in.
      rintro p ⟨rfl, -⟩
      exact ⟨rfl, (counting_freshSession p.settings p.locale).congr rfl⟩

/-- After any run, whatever it has failed at, the numbers of a processor are counted. -/
theorem counting_runCalls (style : Style) (locale : Locale) (settings : EngineSettings)
    (calls : List ProcessorCall) :
    (runCalls ProcessorCall.run calls (start style locale settings)).2.Counting style := by
  refine runCalls_invariant (B := fun _ => False) calls ?_ _ ?_ fun _ _ => id
  · exact fun call _ p hp _ => preserves_run call p hp
  · exact ⟨rfl, counting_freshSession settings locale⟩

end Processor

end CslProcessor
