import CslProcessor.Proofs.Disambiguation.Histories
import CslProcessor.Proofs.Session.Calls

/-!
# Coherence of a Session

What is true of a session between any two operations. Its tracker has right books for the way in
which the session renders cites now, although that way changes whenever an entry is numbered or
added: the entries that the books tell of keep their numbers and their places. And every output
that is kept is the one that a rendering would give now, unless it is marked as dirty.

The second part is an invariant *beyond a set*, as usual where things are brought up to date bit by
bit: while a citation is processed its own output is missing, so `Sound` leaves out the citations
that are pending.

## Main definitions

* `Session.Sound`: The session is right, apart from the output of citations that are pending.
* `Session.Coherent`: The session is right, and knows all entries that were mentioned.

## Theorems

* `start_coherent`: A new session is coherent.
* `Sound.recorded`, `Sound.mentioning`: Before entries are told apart.
* `Sound.toldApart`: After entries were told apart.
* `Sound.output`, `Sound.refreshed`: After citations were rendered.
* `run_keeps`: Every call keeps a session coherent, unless it fails for another reason than
  input that is refused.
* `runCalls_coherent`: So does every run.
-/

namespace CslProcessor

open Disambiguation (Tracker KeyRenderer Resolved)

-- Being settled depends on nothing but the keys of tracked entries.
theorem Disambiguation.Tracker.Settled.congr {ε : Type} {r r' : KeyRenderer ε} {t : Tracker}
    (h : t.Settled r) (hkey : ∀ i, t.tracks i = true → ∀ d, r'.key i d = r.key i d) :
    t.Settled r' := by
  have hmem : ∀ i ∈ Assoc.keys t.current, ∀ d, r'.key i d = r.key i d :=
    fun i hi => hkey i (Tracker.mem_keys_current_iff.1 hi)
  refine ⟨h.knows.mono (fun _ hi => hi) hmem, ?_, ?_⟩
  · intro i hi j hj hij hni hnj halike
    refine h.separated i hi j hj hij hni hnj ?_
    unfold Disambiguation.LooksAlike at halike ⊢
    rw [hmem i hi, hmem j hj] at halike
    exact halike
  · intro i hi j hj hij hni hnj halike
    refine h.lettered i hi j hj hij hni hnj ?_
    unfold Disambiguation.LooksAlike at halike ⊢
    rw [hmem i hi, hmem j hj] at halike
    exact halike

namespace Session

/-! ## What renderings depend on -/

-- The key of an entry depends on the entry and its number.
theorem keyRenderer_key_congr {s u : Session} (hstyle : u.style = s.style)
    (hlocale : u.locale = s.locale) {i : Nat} (hentry : u.entryAt i = s.entryAt i)
    (hnumber : u.history.numbers.lookup i = s.history.numbers.lookup i)
    (d : EntryDisambiguation) : u.keyRenderer.key i d = s.keyRenderer.key i d := by
  have hrendering : u.keyRendering i d = s.keyRendering i d := by
    unfold keyRendering keyContext
    rw [hstyle, hlocale, hentry, hnumber]
  unfold keyRenderer
  simp only [hrendering]

-- The output of a citation depends on its entries and their states.
theorem renderRecord_congr {s u : Session} (hstyle : u.style = s.style)
    (hlocale : u.locale = s.locale) (r : EventRecord)
    (hentry : ∀ i ∈ r.indexes, u.entryAt i = s.entryAt i)
    (hstate : ∀ i ∈ r.indexes, u.tracker.state i = s.tracker.state i) (k : Nat) :
    u.renderRecord k r = s.renderRecord k r := by
  have hitems : u.citedItems r = s.citedItems r := by
    unfold citedItems
    rw [hstyle, hlocale]
    refine List.map_congr_left ?_
    rintro ⟨item, index, cite⟩ hx
    have hindex : index ∈ r.indexes := (List.of_mem_zip (List.of_mem_zip hx).2).1
    simp only [hentry index hindex, hstate index hindex]
  have horder : ∀ items, u.orderedItems items = s.orderedItems items := by
    intro items
    unfold orderedItems
    rw [hstyle]
  unfold renderRecord
  rw [hitems, horder, hstyle, hlocale]

/-! ## The invariant -/

/-- The session is right, apart from the output of citations that are pending. -/
structure Sound (s : Session) (pending : List Nat) : Prop where
  inStore : ∀ i ∈ s.history.mentioned, i < s.store.size
  known : ∀ i, s.tracker.tracks i = true → i ∈ s.history.mentioned
  settled : s.tracker.Settled s.keyRenderer
  cited : ∀ k r, s.history.events[k]? = some r → ∀ i ∈ r.indexes,
    i ∈ s.history.mentioned ∧ k ∈ (s.history.citedIn.lookup i).getD []
  noted : ∀ i, ∀ k ∈ (s.history.citedIn.lookup i).getD [], k < s.history.events.length
  inRange : ∀ k ∈ s.dirty, k < s.history.events.length
  current : ∀ k c, s.stored? k = some c → k ∉ s.dirty → k ∉ pending → s.Renders k c

/-- The session is right, and knows all entries that were mentioned. -/
structure Coherent (s : Session) : Prop extends s.Sound [] where
  tracked : ∀ i ∈ s.history.mentioned, s.tracker.tracks i = true

theorem Sound.of_quiet {s u : Session} {pending : List Nat} (h : u.Sound pending)
    (hquiet : s.quiet = u.quiet) : s.Sound pending := by
  rw [eq_of_quiet hquiet]
  exact ⟨h.inStore, h.known, h.settled, h.cited, h.noted, h.inRange, h.current⟩

theorem Coherent.of_quiet {s u : Session} (h : u.Coherent) (hquiet : s.quiet = u.quiet) :
    s.Coherent := by
  refine ⟨h.toSound.of_quiet hquiet, ?_⟩
  rw [eq_of_quiet hquiet]
  exact h.tracked

/-- A new session is coherent. -/
theorem start_coherent (id : String) (store : EntryStore) (style : Style) (locale : Locale)
    (settings : EngineSettings) : (start id store style locale settings).Coherent where
  inStore := fun _ hi => absurd hi List.not_mem_nil
  known := fun _ hi => absurd hi Bool.false_ne_true
  settled := Tracker.Settled.reset _ {} none
  cited := fun _ _ hr => absurd hr (by simp [start])
  noted := fun _ _ hk => absurd hk (by simp [start])
  inRange := fun _ hk => absurd hk List.not_mem_nil
  current := fun _ _ hc => absurd hc (by simp [start, stored?])
  tracked := fun _ hi => absurd hi List.not_mem_nil

-- The books stay right when further entries are numbered.
theorem Sound.settled_mention {s u : Session} {pending : List Nat} (h : s.Sound pending)
    (hstyle : u.style = s.style) (hlocale : u.locale = s.locale) (hstore : u.store = s.store)
    (htracker : u.tracker = s.tracker) {indexes : List Nat}
    (hnumbers : u.history.numbers = (s.history.mention indexes).numbers) :
    u.tracker.Settled u.keyRenderer := by
  rw [htracker]
  refine h.settled.congr (fun i hi d => keyRenderer_key_congr hstyle hlocale ?_ ?_ d)
  · rw [entryAt, entryAt, hstore]
  · rw [hnumbers]
    exact History.lookup_numbers_mention (h.known i hi)

/-- A session with further entries that were mentioned. -/
theorem Sound.mentioning {s : Session} (h : s.Sound []) {indexes : List Nat}
    (hindexes : ∀ i ∈ indexes, i < s.store.size) : (s.mentioning indexes).Sound [] := by
  have hhistory := History.mention_eq indexes s.history
  have hevents : (s.mentioning indexes).history.events = s.history.events ∧
      (s.mentioning indexes).history.citedIn = s.history.citedIn := by
    rw [Session.mentioning, hhistory]
    exact ⟨rfl, rfl⟩
  have hmem : ∀ i, i ∈ (s.mentioning indexes).history.mentioned ↔
      i ∈ indexes ∨ i ∈ s.history.mentioned := fun i => History.mem_mentioned_mention
  -- Outputs do not show which entries were mentioned.
  have hrenders : ∀ k c, s.Renders k c → (s.mentioning indexes).Renders k c := by
    rintro k c ⟨r, notices, hr, hren⟩
    refine ⟨r, notices, by rw [hevents.1]; exact hr, ?_⟩
    rw [← hren, renderRecord_congr (s := s) (u := s.mentioning indexes) rfl rfl r
      (fun _ _ => rfl) (fun _ _ => rfl)]
  refine ⟨?_, ?_, h.settled_mention rfl rfl rfl rfl rfl, ?_, ?_, ?_, ?_⟩
  · intro i hi
    rcases (hmem i).1 hi with hi | hi
    · exact hindexes i hi
    · exact h.inStore i hi
  · exact fun i hi => (hmem i).2 (Or.inr (h.known i hi))
  · intro k r hr i hi
    rw [hevents.1] at hr
    rcases h.cited k r hr i hi with ⟨hmen, hcit⟩
    exact ⟨(hmem i).2 (Or.inr hmen), by rw [hevents.2]; exact hcit⟩
  · rw [hevents.1, hevents.2]
    exact h.noted
  · rw [hevents.1]
    exact h.inRange
  · intro k c hc hk hp
    rw [stored?, hevents.1] at hc
    exact hrenders k c (h.current k c hc hk hp)

/-- A session with one more citation, which is pending. -/
theorem Sound.recorded {s : Session} (h : s.Sound []) (event : CitationEvent) {indexes : List Nat}
    (hindexes : ∀ i ∈ indexes, i < s.store.size) :
    (s.recorded event indexes).Sound [s.history.events.length] := by
  rcases exists_recorded s event indexes with ⟨cites, hevents⟩
  have hnumbers := History.numbers_record s.nearNoteDistance event indexes s.history
  have hmem : ∀ i, i ∈ (s.recorded event indexes).history.mentioned ↔
      i ∈ indexes ∨ i ∈ s.history.mentioned := by
    intro i
    rw [← History.mem_mentioned_mention, ← History.mentioned_record s.nearNoteDistance event]
    exact Iff.rfl
  -- An entry is noted for the new citation if it is cited there, and for what it was noted for.
  have hcited := fun i k => History.mem_citedIn_record s.nearNoteDistance event indexes s.history
    (i := i) (k := k)
  refine ⟨?_, ?_, h.settled_mention rfl rfl rfl rfl hnumbers, ?_, ?_, ?_, ?_⟩
  · intro i hi
    rcases (hmem i).1 hi with hi | hi
    · exact hindexes i hi
    · exact h.inStore i hi
  · exact fun i hi => (hmem i).2 (Or.inr (h.known i hi))
  · intro k r hr i hi
    rcases getElem?_recorded hr with hr' | ⟨rfl, hrind⟩
    · rcases h.cited k r hr' i hi with ⟨hmen, hcit⟩
      exact ⟨(hmem i).2 (Or.inr hmen), (hcited i k).2 (Or.inr hcit)⟩
    · rw [hrind] at hi
      exact ⟨(hmem i).2 (Or.inl hi), (hcited i _).2 (Or.inl ⟨hi, rfl⟩)⟩
  · intro i k hk
    rw [hevents, List.length_append, List.length_singleton]
    rcases (hcited i k).1 hk with ⟨-, rfl⟩ | hk
    · omega
    · have hlt := h.noted i k hk
      omega
  · intro k hk
    have hlt := h.inRange k hk
    rw [hevents, List.length_append, List.length_singleton]
    omega
  · intro k c hc hk hp
    rw [stored?, Option.map_eq_some_iff] at hc
    rcases hc with ⟨r, hr, hrc⟩
    -- The new citation is pending, and the others are rendered as before.
    rcases getElem?_recorded hr with hr' | ⟨rfl, -⟩
    · rcases h.current k c (by rw [stored?, hr', Option.map_some, hrc]) hk List.not_mem_nil with
        ⟨r', notices, hr'', hren⟩
      rw [hr', Option.some.injEq] at hr''
      refine ⟨r, notices, hr, ?_⟩
      rw [← hr''] at hren
      rw [← hren, renderRecord_congr (s := s) (u := s.recorded event indexes) rfl rfl r
        (fun _ _ => rfl) (fun _ _ => rfl)]
    · exact absurd List.mem_cons_self hp

/-- After entries were told apart, the citations of those that may look different are dirty. The
    session knows all entries that were mentioned. -/
theorem Sound.toldApart {s : Session} {pending : List Nat} (h : s.Sound pending)
    {a : Disambiguation.Resolution} {t : Tracker}
    (hres : Disambiguation.resolve s.policy s.keyRenderer s.history.mentioned s.tracker = .ok a t) :
    (({ s with tracker := t } : Session).markDirty a.affected).Sound pending ∧
      ∀ i ∈ s.history.mentioned, t.tracks i = true := by
  have hresolved := Disambiguation.resolved_of_ok (fun _ => h.settled) hres
  have hmem : ∀ i, i ∈ ListSet.lastOccurrences s.history.mentioned ↔ i ∈ s.history.mentioned :=
    fun i => ListSet.mem_lastOccurrences
  refine ⟨⟨h.inStore, ?_, hresolved.settled, h.cited, h.noted, ?_, ?_⟩, ?_⟩
  · exact fun i hi => (hmem i).1 (hresolved.knows.mem_of_tracks hi)
  · intro k hk
    rcases ListSet.mem_union.1 hk with hk | hk
    · rcases History.mem_citing.1 hk with ⟨i, -, hcit⟩
      exact h.noted i k hcit
    · exact h.inRange k hk
  · -- A citation that is not dirty now was not dirty before, and it cites no reported entry.
    intro k c hc hk hp
    have hout : k ∉ s.history.citing a.affected ∧ k ∉ s.dirty := by
      rw [← not_or, ← ListSet.mem_union]
      exact hk
    rcases h.current k c hc hout.2 hp with ⟨r, notices, hr, hren⟩
    refine ⟨r, notices, hr, ?_⟩
    rw [← hren]
    rw [renderRecord_congr (s := s) (u := ({ s with tracker := t } : Session).markDirty a.affected)
      rfl rfl r (fun _ _ => rfl) (fun i hi => ?_)]
    refine hresolved.state_eq i (fun haff => hout.1 ?_)
    exact History.mem_citing.2 ⟨i, haff, (h.cited k r hr i hi).2⟩
  · exact fun i hi => hresolved.tracked i ((hmem i).2 hi)

-- A session that differs in outputs and in what is dirty only is right if these are.
theorem Sound.of_core {s u : Session} {pending pending' : List Nat} (h : s.Sound pending)
    (hcore : u.core = s.core) (hrange : ∀ k ∈ u.dirty, k < u.history.events.length)
    (hcurrent : ∀ k c, u.stored? k = some c → k ∉ u.dirty → k ∉ pending' → u.Renders k c) :
    u.Sound pending' := by
  -- Whatever is no output and not about what is dirty can be read off the core.
  have hfield : ∀ {β : Type} (f : Session → β), f u.core = f s.core := fun f => by rw [hcore]
  have hstyle : u.style = s.style := hfield (·.style)
  have hlocale : u.locale = s.locale := hfield (·.locale)
  have hstore : u.store = s.store := hfield (·.store)
  have htracker : u.tracker = s.tracker := hfield (·.tracker)
  have hnumbers : u.history.numbers = s.history.numbers := hfield (·.history.numbers)
  have hcitedIn : u.history.citedIn = s.history.citedIn := hfield (·.history.citedIn)
  have hevents : u.history.events.map (fun r => { r with rendered := {} }) =
      s.history.events.map fun r => { r with rendered := {} } := hfield (·.history.events)
  have hmentioned : u.history.mentioned = s.history.mentioned := by
    rw [History.mentioned, History.mentioned, hnumbers]
  have hlength := length_events_congr hcore
  refine ⟨?_, ?_, ?_, ?_, ?_, hrange, hcurrent⟩
  · rw [hmentioned, hstore]
    exact h.inStore
  · rw [hmentioned, htracker]
    exact h.known
  · rw [htracker]
    refine h.settled.congr (fun i _ d => keyRenderer_key_congr hstyle hlocale ?_ ?_ d)
    · rw [entryAt, entryAt, hstore]
    · rw [hnumbers]
  · intro k r hr i hi
    have hk := congrArg (fun l : List EventRecord => l[k]?) hevents
    simp only [List.getElem?_map, hr, Option.map_some] at hk
    rcases Option.map_eq_some_iff.1 hk.symm with ⟨r', hr', hrr'⟩
    have hind := congrArg EventRecord.indexes hrr'
    rw [hmentioned, hcitedIn]
    exact h.cited k r' hr' i (hind ▸ hi)
  · rw [hcitedIn, hlength]
    exact h.noted

-- A citation that is pending need not be dirty.
theorem Sound.erase {s : Session} {pending : List Nat} (h : s.Sound pending) {k : Nat}
    (hk : k ∈ pending) : ({ s with dirty := s.dirty.erase k } : Session).Sound pending := by
  refine h.of_core rfl (fun j hj => h.inRange j (List.mem_of_mem_erase hj)) ?_
  intro j c hc hj hp
  have hne : j ≠ k := fun heq => hp (heq ▸ hk)
  exact h.current j c hc (fun hmem => hj ((List.mem_erase_of_ne hne).2 hmem)) hp

/-- After a pending citation was rendered nothing is pending. -/
theorem Sound.output {s : Session} {k : Nat} (h : s.Sound [k]) {c : RenderedCitation}
    (hc : s.Renders k c) : (s.output k c).Sound [] := by
  have hlength : (s.output k c).history.events.length = s.history.events.length :=
    List.length_modify ..
  refine h.of_core (core_output s k c) ?_ ?_
  · rw [hlength]
    exact h.inRange
  · intro j c' hj hdirty _
    rw [stored?_output] at hj
    by_cases hkj : k = j
    · -- The pending citation itself: what is kept is what it was rendered to.
      rw [if_pos hkj, Option.map_eq_some_iff] at hj
      rcases hj with ⟨-, -, rfl⟩
      rw [← hkj]
      exact hc.congr (core_output s k c)
    · rw [if_neg hkj] at hj
      refine (h.current j c' hj hdirty ?_).congr (core_output s k c)
      rw [List.mem_singleton]
      exact Ne.symm hkj

/-- After all dirty citations were rendered again nothing is dirty. -/
theorem Sound.refreshed {s u : Session} (h : s.Sound []) {cs : List (Nat × RenderedCitation)}
    (hre : s.Rerendered (ListSet.sorted s.dirty) cs u) :
    ({ u with dirty := [] } : Session).Sound [] := by
  have hcore : ({ u with dirty := [] } : Session).core = s.core := hre.core
  refine h.of_core hcore (fun k hk => absurd hk List.not_mem_nil) ?_
  intro k c hc _ _
  have hc' : u.stored? k = some c := hc
  by_cases hk : k ∈ s.dirty
  · -- It was dirty, so it is one of those that were rendered.
    have hsorted : k ∈ ListSet.sorted s.dirty := List.mem_mergeSort.2 hk
    rw [← hre.keys, List.mem_map] at hsorted
    rcases hsorted with ⟨x, hx, hxk⟩
    have hne : s.stored? x.1 ≠ none := by
      rw [Ne, ← stored?_eq_none_iff hre.core, hxk, hc']
      exact Option.some_ne_none c
    have hst := hre.stored x hx hne
    rw [hxk, hc', Option.some.injEq] at hst
    have hren := hre.renders x hx hne
    rw [hxk, ← hst] at hren
    exact hren.congr hcore
  · -- It was not dirty, so it is kept as it was.
    rw [hre.kept k (fun hmem => hk (List.mem_mergeSort.1 hmem))] at hc'
    exact (h.current k c hc' hk List.not_mem_nil).congr hcore

-- The entries of a session stay where they are when one more comes.
theorem entryAt_withEntry (s : Session) (e : Entry) {i : Nat} (hi : i < s.store.size) :
    (s.withEntry e).entryAt i = s.entryAt i := by
  rw [EntryStore.size] at hi
  rw [entryAt, entryAt, EntryStore.get?, EntryStore.get?, withEntry,
    List.getElem?_append_left hi]

-- One more entry in the store leaves a session coherent.
theorem Coherent.added {s : Session} (h : s.Coherent) (e : Entry) : (s.withEntry e).Coherent := by
  have hentry : ∀ i ∈ s.history.mentioned, (s.withEntry e).entryAt i = s.entryAt i :=
    fun i hi => entryAt_withEntry s e (h.inStore i hi)
  refine ⟨⟨?_, h.known, ?_, h.cited, h.noted, h.inRange, ?_⟩, h.tracked⟩
  · intro i hi
    have hlt := h.inStore i hi
    rw [EntryStore.size] at hlt ⊢
    rw [withEntry, List.length_append]
    omega
  · refine Tracker.Settled.congr h.settled fun i hi d => ?_
    exact keyRenderer_key_congr (s := s) (u := s.withEntry e) rfl rfl (hentry i (h.known i hi))
      rfl d
  · intro k c hc hk hp
    rcases h.current k c hc hk hp with ⟨r, notices, hr, hren⟩
    refine ⟨r, notices, hr, ?_⟩
    rw [← hren, renderRecord_congr (s := s) (u := s.withEntry e) rfl rfl r
      (fun i hi => hentry i (h.cited k r hr i hi).1) (fun _ _ => rfl)]

/-! ## Operations -/

/-- An operation keeps a session coherent, unless it fails for another reason than input that is
    refused. -/
def Keeps {α : Type} (m : Action α) : Prop :=
  ∀ s : Session, s.Coherent → Fine (m s) → (stateAfter (m s)).Coherent

-- Processing a citation keeps a session coherent.
theorem keeps_process (event : CitationEvent) : Keeps (process event) := by
  intro s h hfine
  cases haccept : s.accepted event with
  | error e =>
      rw [process_eq, haccept]
      exact h
  | ok indexes =>
      have heq : process event s = processAccepted event indexes s := by rw [process_eq, haccept]
      rw [heq] at hfine ⊢
      rcases processAccepted_cases event indexes s with
        ⟨a, t, r, c, notices, s', hres, hr, hren, hrun, hquiet⟩ | ⟨e, s', hrun, he⟩
      · rw [hrun]
        have hsound := h.toSound.recorded event (lt_size_of_accepted haccept)
        rcases hsound.toldApart hres with ⟨htold, htracks⟩
        have hmarked := htold.erase (k := s.history.events.length) List.mem_cons_self
        exact Coherent.of_quiet ⟨hmarked.output ⟨r, notices, hr, hren⟩, htracks⟩ hquiet
      · exact absurd hfine (not_fine hrun he)

-- Mentioning entries keeps a session coherent.
theorem keeps_nocite (ids : List String) : Keeps (nocite ids) := by
  intro s h hfine
  rcases nocite_cases ids s with ⟨e, -, hrun⟩ | ⟨-, -, -, hrun⟩ |
    ⟨indexes, a, t, s', hids, -, hres, hrun, hquiet⟩ | ⟨e, s', hrun, he⟩
  · rw [hrun]
    exact h
  · rw [hrun]
    exact h
  · rw [hrun]
    have hsound := h.toSound.mentioning (lt_size_of_locateAll hids)
    rcases hsound.toldApart hres with ⟨htold, htracks⟩
    exact Coherent.of_quiet ⟨htold, htracks⟩ hquiet
  · exact absurd hfine (not_fine hrun he)

-- Bringing output up to date keeps a session coherent.
theorem keeps_refresh : Keeps refresh := by
  intro s h hfine
  rcases refresh_cases s with ⟨cs, s₁, s', hrun, hre, hquiet⟩ | ⟨e, s', hrun, he, -⟩
  · rw [hrun]
    have htracked : ∀ i ∈ s₁.history.mentioned, s₁.tracker.tracks i = true := by
      have htracker : s₁.tracker = s.tracker := (congrArg Session.tracker hre.core :)
      have hnumbers : s₁.history.numbers = s.history.numbers :=
        (congrArg (fun u : Session => u.history.numbers) hre.core :)
      rw [History.mentioned, hnumbers, htracker]
      exact h.tracked
    exact Coherent.of_quiet ⟨h.toSound.refreshed hre, htracked⟩ hquiet
  · exact absurd hfine (not_fine hrun he)

-- Adding an entry keeps a session coherent.
theorem keeps_addEntry (e : Entry) : Keeps (addEntry e) := by
  intro s h _
  rw [addEntry_eq]
  cases s.store.add e with
  | error err => exact h
  | ok store => exact h.added e

-- Building the bibliography keeps a session coherent.
theorem keeps_bibliography : Keeps bibliography := by
  intro s h hfine
  rcases bibliography_cases s with ⟨b, s', hrun, hquiet⟩ | ⟨e, s', hrun, he⟩
  · rw [hrun]
    exact h.of_quiet hquiet
  · exact absurd hfine (not_fine hrun he)

/-- Every call keeps a session coherent, unless it fails for another reason than input that is
    refused. -/
theorem run_keeps (call : SessionCall) : Keeps call.run := by
  intro s h hfine
  have hwork := fine_of_run hfine
  rw [stateAfter_run]
  cases call with
  | process event => exact keeps_process event s h hwork
  | nocite ids => exact keeps_nocite ids s h hwork
  | add e => exact keeps_addEntry e s h hwork
  | refresh => exact keeps_refresh s h hwork
  | citations => exact keeps_refresh s h hwork
  | number id =>
      simp only [stateAfter_locate]
      exact h
  | disambiguation id =>
      simp only [stateAfter_locate]
      exact h
  | bibliography => exact keeps_bibliography s h hwork

/-- A run leaves a session coherent, unless a call fails for another reason than input that is
    refused. -/
theorem runCalls_coherent {calls : List SessionCall} {s : Session} (h : s.Coherent)
    (hinput : ∀ e, Except.error e ∈ (runCalls SessionCall.run calls s).1 → e.isInput = true) :
    (runCalls SessionCall.run calls s).2.Coherent := by
  refine runCalls_invariant (B := fun e => ¬ e.isInput = true) calls
    (fun c _ s hs hgood => run_keeps c s hs fun e he => ?_) s h ?_
  · exact not_not.1 (hgood e he)
  · exact fun e he hbad => hbad (hinput e he)

end Session

end CslProcessor
