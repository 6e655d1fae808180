import CslProcessor.Proofs.Session.Course
import CslProcessor.Proofs.Session.Separation
import Mathlib

/-!
# Output is up to date

What marking citations as dirty is for. The output that a session keeps for a citation is the one
that rendering it now would give, unless the citation is dirty; so listing all outputs gives what
rendering every citation from scratch would, whenever outputs were brought up to date before.

Somebody who holds the outputs of a session, and overwrites them with what the session replies,
holds the same as the session, apart from dirty citations. For this the listings have to be taken
into account too: listing brings all outputs up to date, and the refresh after it has nothing to
tell. A client that overwrites with the replies to refreshes only may hold old output for good.

## Main definitions

* `Session.scratch?`: The output of a citation as rendering it now would give.
* `Outputs`, `SessionCall.news`, `watch`: What a client holds that follows a run.
* `Session.Follows`: What a client holds is what is kept, apart from dirty citations.

## Theorems

* `citations_eq_ok_iff`: The listing is what rendering from scratch gives.
* `Follows.run`, `Follows.watched`: A client stays up to date over a call, and over a run.
* `stored_upToDate`: All of it, after any run.
* `sameText_stale`: A client that does not heed listings may hold old output.
-/

namespace CslProcessor

/-- Outputs by the index of their citation. -/
abbrev Outputs := Nat → Option RenderedCitation

/-- Outputs overwritten with new ones. -/
def Outputs.overwrite (held new : Outputs) : Outputs := fun k => (new k).or (held k)

theorem Outputs.overwrite_none (held : Outputs) : held.overwrite (fun _ => none) = held := by
  funext k
  rw [overwrite, Option.none_or]

/-- The outputs that a client takes from the reply to a call; from listings only if it heeds
    them. -/
def SessionCall.news (listings : Bool) (s : Session) : SessionCall → Outputs
  | .process event =>
    match Session.process event s with
    | .ok c _ => fun k => if c.eventIndex = some k then some c else none
    | .error .. => fun _ => none
  | .refresh =>
    match Session.refresh s with
    | .ok l _ => fun k => l.lookup k
    | .error .. => fun _ => none
  | .citations =>
    match Session.citations s with
    | .ok cs _ => fun k => if listings then cs[k]? else none
    | .error .. => fun _ => none
  | _ => fun _ => none

/-- What a client holds after a run. -/
def watch (listings : Bool) : List SessionCall → Session → Outputs → Outputs
  | [], _, held => held
  | call :: rest, s, held =>
    watch listings rest (stateAfter (call.run s)) (held.overwrite (call.news listings s))

namespace Session

/-! ## Rendering from scratch -/

/-- The output of a citation as rendering it now would give. -/
def scratch? (s : Session) (k : Nat) : Option RenderedCitation :=
  match renderEvent k s with
  | .ok c _ => some c
  | .error .. => none

theorem scratch?_eq_some_iff {s : Session} {k : Nat} (hk : k < s.history.events.length)
    {c : RenderedCitation} : s.scratch? k = some c ↔ s.Renders k c := by
  have hr := List.getElem?_eq_getElem hk
  unfold scratch?
  rcases renderEvent_cases hr with ⟨c', notices, s', hren, hrun, -⟩ | ⟨e, notices, s', hren, hrun⟩
  · rw [hrun, Option.some.injEq]
    constructor
    · rintro rfl
      exact ⟨_, notices, hr, hren⟩
    · exact fun h => (Renders.unique ⟨_, notices, hr, hren⟩ h)
  · rw [hrun]
    constructor
    · exact fun h => absurd h (by simp only [reduceCtorEq, not_false_eq_true])
    · rintro ⟨r, notices', hr', hren'⟩
      rw [hr, Option.some.injEq] at hr'
      rw [← hr', hren] at hren'
      exact absurd hren' (by simp only [reduceCtorEq, not_false_eq_true])

-- Sessions that differ in outputs only give the same from scratch.
theorem scratch?_congr {s u : Session} (h : u.core = s.core) :
    (List.range u.history.events.length).map u.scratch? =
      (List.range s.history.events.length).map s.scratch? := by
  have hlength := length_events_congr h
  rw [hlength]
  refine List.map_congr_left fun k hk => ?_
  rw [List.mem_range] at hk
  refine Option.ext fun c => ?_
  rw [scratch?_eq_some_iff hk, scratch?_eq_some_iff (by rw [hlength]; exact hk)]
  exact ⟨fun hren => hren.congr h.symm, fun hren => hren.congr h⟩

/-! ## Listing all outputs -/

-- After a refresh nothing is dirty, and nothing but outputs has changed.
theorem refresh_ok {s s' : Session} {l : List (Nat × RenderedCitation)}
    (h : refresh s = .ok l s') :
    s'.dirty = [] ∧ s'.core = s.core ∧
      (∀ k ∉ s.dirty, l.lookup k = none ∧ s'.stored? k = s.stored? k) ∧
      ∀ k ∈ s.dirty, s.stored? k ≠ none → l.lookup k = s'.stored? k := by
  rcases refresh_cases s with ⟨cs, s₁, v, hrun, hre, hquiet⟩ | ⟨e, v, hrun, -⟩
  · rw [h, EStateM.Result.ok.injEq] at hrun
    rcases hrun with ⟨rfl, rfl⟩
    have hs' := eq_of_quiet hquiet
    have hstored : ∀ k, s'.stored? k = s₁.stored? k := by
      intro k
      rw [hs']
      rfl
    have hkey : ∀ x ∈ l, x.1 ∈ s.dirty := by
      intro x hx
      have hmem := List.mem_map_of_mem (f := (·.1)) hx
      rw [hre.keys] at hmem
      exact List.mem_mergeSort.1 hmem
    refine ⟨?_, (core_of_quiet hquiet).trans hre.core, ?_, ?_⟩
    · rw [hs']
    · -- What is not dirty is not rendered again.
      intro k hk
      constructor
      · rw [List.lookup_eq_none_iff]
        intro x hx
        rw [bne_iff_ne]
        rintro rfl
        exact hk (hkey x hx)
      · rw [hstored]
        exact hre.kept k (fun hmem => hk (List.mem_mergeSort.1 hmem))
    · -- What is dirty is in the list, and kept as the list has it.
      intro k hk hne
      have hmem : k ∈ l.map (·.1) := by
        rw [hre.keys]
        exact List.mem_mergeSort.2 hk
      cases hlookup : l.lookup k with
      | none =>
          rcases List.mem_map.1 hmem with ⟨x, hx, hxk⟩
          exact absurd hxk.symm (bne_iff_ne.1 (List.lookup_eq_none_iff.1 hlookup x hx))
      | some c =>
          rcases List.lookup_eq_some_iff.1 hlookup with ⟨l₁, l₂, hl, -⟩
          have hc : (k, c) ∈ l := by
            rw [hl]
            exact List.mem_append_right l₁ List.mem_cons_self
          rw [hstored, hre.stored (k, c) hc hne]
  · rw [h] at hrun
    exact absurd hrun (by simp only [reduceCtorEq, not_false_eq_true])

-- Listing all outputs is a refresh, and reading what is kept then.
theorem citations_of_refresh {s s' : Session} {l : List (Nat × RenderedCitation)}
    (h : refresh s = .ok l s') :
    citations s = .ok (s'.history.events.map (·.rendered)) s' := by
  rw [citations, bind_of_ok h]
  rfl

theorem citations_eq_ok {s s' : Session} {cs : List RenderedCitation}
    (h : citations s = .ok cs s') :
    ∃ l, refresh s = .ok l s' ∧ cs = s'.history.events.map (·.rendered) := by
  rcases bind_eq_ok_iff.1 h with ⟨l, v, hrun, hread⟩
  rw [get_bind] at hread
  injection hread with hcs hs
  rw [hs] at hrun hcs
  exact ⟨l, hrun, hcs.symm⟩

theorem getElem?_outputs (s : Session) (k : Nat) :
    (s.history.events.map (·.rendered))[k]? = s.stored? k :=
  List.getElem?_map

-- The output that is kept for a citation that is not dirty is the one from scratch.
theorem Coherent.scratch? {s : Session} (h : s.Coherent) {k : Nat} {c : RenderedCitation}
    (hc : s.stored? k = some c) (hk : k ∉ s.dirty) : s.scratch? k = some c := by
  have hrenders := h.current k c hc hk List.not_mem_nil
  rcases hrenders with ⟨r, notices, hr, hren⟩
  exact (scratch?_eq_some_iff (List.getElem?_eq_some_iff.1 hr).1).2 ⟨r, notices, hr, hren⟩

/-- The listing of all outputs is what rendering from scratch gives, and it is given whenever
    rendering from scratch succeeds. -/
theorem citations_eq_ok_iff {s : Session} (h : s.Coherent) (cs : List RenderedCitation) :
    (∃ u, citations s = .ok cs u) ↔
      cs.map some = (List.range s.history.events.length).map s.scratch? := by
  -- After a refresh every output is kept as from scratch, since nothing is dirty any more.
  have hlisted : ∀ l u, refresh s = .ok l u →
      (u.history.events.map (·.rendered)).map some =
        (List.range s.history.events.length).map s.scratch? := by
    intro l u hrun
    rcases refresh_ok hrun with ⟨hdirty, hcore, -, -⟩
    have hcoherent : u.Coherent := by
      have hnext := keeps_refresh s h (fine_of_ok hrun)
      rw [hrun] at hnext
      exact hnext
    rw [← scratch?_congr hcore]
    refine List.ext_getElem? fun k => ?_
    rw [List.getElem?_map, getElem?_outputs, List.getElem?_map]
    cases hk : u.stored? k with
    | none =>
        have hnone : u.history.events.length ≤ k := by
          rw [stored?, Option.map_eq_none_iff, List.getElem?_eq_none_iff] at hk
          exact hk
        rw [List.getElem?_eq_none (by rw [List.length_range]; exact hnone)]
        rfl
    | some c =>
        have hlt : k < u.history.events.length := by
          rw [stored?, Option.map_eq_some_iff] at hk
          rcases hk with ⟨r, hr, -⟩
          exact (List.getElem?_eq_some_iff.1 hr).1
        rw [List.getElem?_range hlt, Option.map_some, Option.map_some,
          hcoherent.scratch? hk (by rw [hdirty]; exact List.not_mem_nil)]
  constructor
  · -- What is listed is what was kept after the refresh.
    rintro ⟨u, hrun⟩
    rcases citations_eq_ok hrun with ⟨l, hrefresh, rfl⟩
    exact hlisted l u hrefresh
  · intro hcs
    rcases refresh_cases s with ⟨l, -, u, hrun, -, -⟩ | ⟨e, u, -, -, k, hk, hnot⟩
    · refine ⟨u, ?_⟩
      have hsame := hlisted l u hrun
      rw [← hcs] at hsame
      rw [citations_of_refresh hrun, (List.map_inj_right fun _ _ => Option.some.inj).1 hsame]
    · -- A dirty citation is rendered to something, as all of them are.
      have hlt := h.inRange k hk
      have hget := congrArg (fun l : List (Option RenderedCitation) => l[k]?) hcs
      simp only [List.getElem?_map, List.getElem?_range hlt, Option.map_some] at hget
      rcases Option.map_eq_some_iff.1 hget with ⟨c, -, hc⟩
      exact absurd ((scratch?_eq_some_iff hlt).1 hc.symm) (hnot c)

/-! ## Clients -/

/-- What a client holds is what is kept, apart from dirty citations. -/
def Follows (held : Outputs) (s : Session) : Prop :=
  ∀ k, k ∉ s.dirty → held k = s.stored? k

-- A client still follows where no output has changed and more of them may be dirty.
theorem Follows.mono {held : Outputs} {s s' : Session} (h : Follows held s)
    (hstored : ∀ k, s'.stored? k = s.stored? k) (hdirty : ∀ k ∈ s.dirty, k ∈ s'.dirty) :
    Follows held s' := by
  intro k hk
  rw [hstored]
  exact h k (fun hmem => hk (hdirty k hmem))

theorem Follows.of_quiet {held : Outputs} {s u : Session} (h : Follows held u)
    (hquiet : s.quiet = u.quiet) : Follows held s := by
  have hs := eq_of_quiet hquiet
  refine h.mono (fun k => ?_) (fun k hk => ?_)
  · rw [hs]
    rfl
  · rw [hs]
    exact hk

-- The output of a citation knows its index.
theorem eventIndex_of_renderRecord {s : Session} {k : Nat} {r : EventRecord}
    {c : RenderedCitation} {notices notices' : List Render.Notice}
    (h : s.renderRecord k r notices = .ok c notices') : c.eventIndex = some k := by
  rcases bind_eq_ok_iff.1 h with ⟨items, n₁, -, h⟩
  rcases bind_eq_ok_iff.1 h with ⟨runs, n₂, -, h⟩
  injection h with hc
  rw [← hc]

theorem stored?_recorded {s : Session} {event : CitationEvent} {indexes : List Nat} {k : Nat}
    (hk : k ≠ s.history.events.length) : (s.recorded event indexes).stored? k = s.stored? k := by
  rcases exists_recorded s event indexes with ⟨cites, hevents⟩
  rw [stored?, stored?, hevents]
  rcases Nat.lt_or_gt_of_ne hk with hlt | hgt
  · rw [List.getElem?_append_left hlt]
  · rw [List.getElem?_eq_none (by rw [List.length_append, List.length_singleton]; omega),
      List.getElem?_eq_none (Nat.le_of_lt hgt)]

-- A client takes the output of a citation from the reply to it.
theorem Follows.process {held : Outputs} {s : Session} (h : Follows held s)
    {event : CitationEvent} (hfine : Fine (Session.process event s)) (listings : Bool) :
    Follows (held.overwrite (SessionCall.news listings s (.process event)))
      (stateAfter (Session.process event s)) := by
  cases haccept : s.accepted event with
  | error e =>
      have hrun : Session.process event s = .error e s := by rw [process_eq, haccept]
      simp only [SessionCall.news, hrun, Outputs.overwrite_none]
      exact h
  | ok indexes =>
      have heq : Session.process event s = processAccepted event indexes s := by
        rw [process_eq, haccept]
      rw [heq] at hfine
      rcases processAccepted_cases event indexes s with
        ⟨a, t, r, c, notices, s', -, hr, hren, hrun, hquiet⟩ | ⟨e, s', hrun, he⟩
      · rw [← heq] at hrun
        simp only [SessionCall.news, hrun, eventIndex_of_renderRecord hren, Option.some.injEq]
        refine Follows.of_quiet ?_ hquiet
        intro k hk
        rw [Outputs.overwrite, stored?_output]
        by_cases hn : s.history.events.length = k
        · -- The citation that was processed: the client takes the reply, which is kept.
          rw [if_pos hn, if_pos hn, Option.some_or, ← hn]
          have hstored : ((s.recorded event indexes).marked t a.affected
              s.history.events.length).stored? s.history.events.length = some r.rendered := by
            rw [stored?]
            exact congrArg (Option.map EventRecord.rendered) hr
          rw [hstored, Option.map_some]
        · -- Another citation is as it was, and dirty now if it was dirty before.
          rw [if_neg hn, if_neg hn, Option.none_or]
          have hstored : ((s.recorded event indexes).marked t a.affected
              s.history.events.length).stored? k = s.stored? k :=
            stored?_recorded (Ne.symm hn)
          rw [hstored]
          refine h k (fun hmem => hk ?_)
          exact (List.mem_erase_of_ne (Ne.symm hn)).2 (ListSet.mem_union.2 (Or.inr hmem))
      · exact absurd hfine (not_fine hrun he)

theorem Follows.nocite {held : Outputs} {s : Session} (h : Follows held s) {ids : List String}
    (hfine : Fine (Session.nocite ids s)) :
    Follows held (stateAfter (Session.nocite ids s)) := by
  rcases nocite_cases ids s with ⟨e, -, hrun⟩ | ⟨indexes, -, -, hrun⟩ |
    ⟨indexes, a, t, s', -, -, -, hrun, hquiet⟩ | ⟨e, s', hrun, he⟩
  · rw [hrun]
    exact h
  · rw [hrun]
    exact h
  · rw [hrun]
    refine Follows.of_quiet (h.mono (fun k => ?_) (fun k hk => ?_)) hquiet
    · have hevents : (s.mentioning indexes).history.events = s.history.events := by
        rw [mentioning, History.mention_eq]
      exact congrArg (fun l : List EventRecord => l[k]?.map (·.rendered)) hevents
    · exact ListSet.mem_union.2 (Or.inr hk)
  · exact absurd hfine (not_fine hrun he)

-- A client that overwrites with a refresh holds what is kept.
theorem Follows.refreshed {held : Outputs} {s s' : Session} {l : List (Nat × RenderedCitation)}
    (h : Follows held s) (hrange : ∀ k ∈ s.dirty, k < s.history.events.length)
    (hrun : refresh s = .ok l s') (k : Nat) :
    held.overwrite (fun k => l.lookup k) k = s'.stored? k := by
  rcases refresh_ok hrun with ⟨-, -, hkept, hnew⟩
  rw [Outputs.overwrite]
  by_cases hk : k ∈ s.dirty
  · have hne : s.stored? k ≠ none := by
      rw [stored?, Ne, Option.map_eq_none_iff, List.getElem?_eq_none_iff]
      have hlt := hrange k hk
      omega
    rw [hnew k hk hne]
    cases hst : s'.stored? k with
    | some c => rfl
    | none => exact absurd ((stored?_eq_none_iff (refresh_ok hrun).2.1 k).1 hst) hne
  · rw [(hkept k hk).1, (hkept k hk).2, Option.none_or]
    exact h k hk

-- A client that overwrites with a listing holds what is kept.
theorem Follows.listed {held : Outputs} {s s' : Session} {cs : List RenderedCitation}
    (h : Follows held s) (hrange : ∀ k ∈ s.dirty, k < s.history.events.length)
    (hrun : citations s = .ok cs s') (k : Nat) :
    held.overwrite (fun k => cs[k]?) k = s'.stored? k := by
  rcases citations_eq_ok hrun with ⟨l, hrefresh, rfl⟩
  rw [Outputs.overwrite]
  simp only [getElem?_outputs]
  cases hst : s'.stored? k with
  | some c => rfl
  | none =>
      -- Behind the last citation the client holds nothing, as before.
      rw [Option.none_or]
      have hnone := (stored?_eq_none_iff (refresh_ok hrefresh).2.1 k).1 hst
      rw [← hnone]
      refine h k (fun hk => ?_)
      rw [stored?, Option.map_eq_none_iff, List.getElem?_eq_none_iff] at hnone
      have hlt := hrange k hk
      omega

/-- A client follows a call, if it heeds listings or the call is none. -/
theorem Follows.run {held : Outputs} {s : Session} (h : Follows held s) (hs : s.Coherent)
    {call : SessionCall} {listings : Bool} (hlist : listings = true ∨ call ≠ .citations)
    (hfine : Fine (call.run s)) :
    Follows (held.overwrite (call.news listings s)) (stateAfter (call.run s)) := by
  have hwork := fine_of_run hfine
  rw [stateAfter_run]
  cases call with
  | process event => exact h.process hwork listings
  | nocite ids => exact h.nocite hwork
  | add e =>
      simp only [addEntry_eq]
      cases s.store.add e with
      | ok store => exact h.mono (fun _ => rfl) (fun _ hk => hk)
      | error err => exact h
  | refresh =>
      rcases refresh_cases s with ⟨l, -, s', hok, -, -⟩ | ⟨e, s', herror, he, -⟩
      · simp only [SessionCall.news, hok]
        exact fun k _ => h.refreshed hs.inRange hok k
      · exact absurd hwork (not_fine herror he)
  | citations =>
      rcases hlist with rfl | hne
      · rcases refresh_cases s with ⟨l, -, s', hok, -, -⟩ | ⟨e, s', herror, he, -⟩
        · simp only [SessionCall.news, citations_of_refresh hok, hok, if_true]
          exact fun k _ => h.listed hs.inRange (citations_of_refresh hok) k
        · exact absurd hwork (not_fine herror he)
      · exact absurd rfl hne
  | number id =>
      simp only [stateAfter_locate]
      exact h
  | disambiguation id =>
      simp only [stateAfter_locate]
      exact h
  | bibliography =>
      rcases bibliography_cases s with ⟨b, s', hok, hquiet⟩ | ⟨e, s', herror, he⟩
      · simp only [hok]
        exact h.of_quiet hquiet
      · exact absurd hwork (not_fine herror he)

/-- A client follows a run, if it heeds listings or there are none. -/
theorem Follows.watched {listings : Bool} (calls : List SessionCall) :
    ∀ {held : Outputs} {s : Session}, Follows held s → s.Coherent →
      (listings = true ∨ SessionCall.citations ∉ calls) →
      (∀ e, Except.error e ∈ (runCalls SessionCall.run calls s).1 → e.isInput = true) →
      Follows (watch listings calls s held) (runCalls SessionCall.run calls s).2 := by
  induction calls with
  | nil => exact fun h _ _ _ => h
  | cons call rest ih =>
      intro held s h hs hlist hinput
      rw [runCalls_cons] at hinput ⊢
      have hfine : Fine (call.run s) :=
        fun e he => hinput e (by rw [he]; exact List.mem_cons_self)
      have hnext := run_keeps call s hs hfine
      have hone : listings = true ∨ call ≠ .citations :=
        hlist.imp_right fun hnot heq => hnot (heq ▸ List.mem_cons_self)
      exact ih (h.run hs hone hfine) hnext
        (hlist.imp_right fun hnot hmem => hnot (List.mem_cons_of_mem _ hmem))
        (fun e he => hinput e (List.mem_cons_of_mem _ he))

/-- After any run in which nothing has failed but for input that was refused, the output that is
    kept for a citation that is not dirty is the one from scratch. Listing all outputs gives what
    rendering from scratch gives, and it makes no difference when outputs were brought up to date
    in between. A client that overwrites outputs with the replies to citations and refreshes, and
    heeds listings if there are any, holds what is listed after a refresh. -/
theorem stored_upToDate (id : String) (store : EntryStore) (style : Style) (locale : Locale)
    (settings : EngineSettings) (calls : List SessionCall)
    (hinput : ∀ e, Except.error e ∈ (runCalls SessionCall.run calls
      (start id store style locale settings)).1 → e.isInput = true) (s : Session)
    (hs : s = (runCalls SessionCall.run calls (start id store style locale settings)).2) :
    (∀ k c, s.stored? k = some c → k ∉ s.dirty → s.scratch? k = some c) ∧
    (∀ cs, (∃ u, citations s = .ok cs u) ↔
      cs.map some = (List.range s.history.events.length).map s.scratch?) ∧
    (∀ calls' s', calls'.filter SessionCall.contributes = calls.filter SessionCall.contributes →
      (∀ e, Except.error e ∈ (runCalls SessionCall.run calls'
        (start id store style locale settings)).1 → e.isInput = true) →
      s' = (runCalls SessionCall.run calls' (start id store style locale settings)).2 →
      ∀ cs, (∃ u, citations s' = .ok cs u) ↔ ∃ u, citations s = .ok cs u) ∧
    (∀ listings, (listings = true ∨ SessionCall.citations ∉ calls) →
      ∀ l s', refresh s = .ok l s' → ∃ cs u, citations s' = .ok cs u ∧
        ∀ k, (watch listings calls (start id store style locale settings)
          (fun _ => none)).overwrite (fun k => l.lookup k) k = cs[k]?) := by
  have hstart := start_coherent id store style locale settings
  have hcoherent : s.Coherent := hs ▸ runCalls_coherent hstart hinput
  refine ⟨fun k c hc hk => hcoherent.scratch? hc hk, citations_eq_ok_iff hcoherent, ?_, ?_⟩
  · -- Two runs with the same contributions differ in outputs and in what is dirty only.
    rintro calls' s' hsame hinput' rfl cs
    have hcore := core_runCalls_congr hsame hinput' hinput
    rw [← hs] at hcore
    rw [citations_eq_ok_iff (runCalls_coherent hstart hinput'), citations_eq_ok_iff hcoherent,
      scratch?_congr hcore]
  · intro listings hlist l s' hrun
    have hnone : Follows (fun _ => none) (start id store style locale settings) := by
      intro k _
      simp [start, stored?]
    have hfollows := hnone.watched calls hstart hlist hinput
    rw [← hs] at hfollows
    -- The listing after the refresh finds nothing dirty.
    rcases refresh_ok hrun with ⟨hdirty, -⟩
    rcases refresh_cases s' with ⟨l', -, u, hrun', -, -⟩ | ⟨-, -, -, -, k, hk, -⟩
    · refine ⟨_, u, citations_of_refresh hrun', fun k => ?_⟩
      have hkept := ((refresh_ok hrun').2.2.1 k (by rw [hdirty]; exact List.not_mem_nil)).2
      rw [getElem?_outputs, hkept]
      exact hfollows.refreshed hcoherent.inRange hrun k
    · rw [hdirty] at hk
      exact absurd hk List.not_mem_nil

set_option maxRecDepth 100000 in
theorem stored_upToDate_sameText :
    ∃ s l s' cs u, s = (runCalls SessionCall.run
        [.process (.ofIds ["a"] 1), .process (.ofIds ["b"] 2)] sameText).2 ∧
      refresh s = .ok l s' ∧ citations s' = .ok cs u ∧
      ∀ k, (watch false [.process (.ofIds ["a"] 1), .process (.ofIds ["b"] 2)] sameText
        (fun _ => none)).overwrite (fun k => l.lookup k) k = cs[k]? := by
  have hreplies : (runCalls SessionCall.run
      [.process (.ofIds ["a"] 1), .process (.ofIds ["b"] 2)] sameText).1.all (·.isOk) = true := by
    cbv
  have hok : (replyOf (refresh (runCalls SessionCall.run
      [.process (.ofIds ["a"] 1), .process (.ofIds ["b"] 2)] sameText).2)).isOk = true := by
    cbv
  cases hrun : refresh (runCalls SessionCall.run
      [.process (.ofIds ["a"] 1), .process (.ofIds ["b"] 2)] sameText).2 with
  | ok l s' =>
      rcases (stored_upToDate _ _ _ _ _ _
        (fun e he => absurd he (not_mem_error_of_all_isOk hreplies e)) _ rfl).2.2.2 false
        (Or.inr (by simp)) l s' hrun with ⟨cs, u, hlisted, hheld⟩
      exact ⟨_, l, s', cs, u, rfl, hrun, hlisted, hheld⟩
  | error e s' =>
      rw [hrun] at hok
      exact absurd hok Bool.false_ne_true

set_option maxRecDepth 100000 in
/-- A client that does not heed listings may hold old output, even right after a refresh. -/
theorem sameText_stale :
    ∃ calls s l s' cs u, calls = [.process (.ofIds ["a"] 1), .process (.ofIds ["b"] 2),
        .citations] ∧
      (∀ e, Except.error e ∈ (runCalls SessionCall.run calls sameText).1 → e.isInput = true) ∧
      s = (runCalls SessionCall.run calls sameText).2 ∧
      refresh s = .ok l s' ∧ citations s' = .ok cs u ∧
      ¬ ∀ k, (watch false calls sameText (fun _ => none)).overwrite (fun k => l.lookup k) k =
        cs[k]? := by
  have hreplies : (runCalls SessionCall.run
      [.process (.ofIds ["a"] 1), .process (.ofIds ["b"] 2), .citations] sameText).1.all
        (·.isOk) = true := by
    cbv
  have hstale : (match refresh (runCalls SessionCall.run
      [.process (.ofIds ["a"] 1), .process (.ofIds ["b"] 2), .citations] sameText).2 with
      | .ok l s' =>
        match citations s' with
        | .ok cs _ => (((watch false [.process (.ofIds ["a"] 1), .process (.ofIds ["b"] 2),
            .citations] sameText (fun _ => none)).overwrite (fun k => l.lookup k) 0).map
              (·.toText), cs[0]?.map (·.toText))
        | .error .. => (none, none)
      | .error .. => (none, none)) = (some "W", some "Wa") := by
    cbv
  cases hrun : refresh (runCalls SessionCall.run
      [.process (.ofIds ["a"] 1), .process (.ofIds ["b"] 2), .citations] sameText).2 with
  | error e s' =>
      rw [hrun] at hstale
      exact absurd hstale (by simp)
  | ok l s' =>
      cases hlisted : citations s' with
      | error e u =>
          simp only [hrun, hlisted] at hstale
          exact absurd hstale (by simp)
      | ok cs u =>
          refine ⟨_, _, l, s', cs, u, rfl, fun e he => absurd he
            (not_mem_error_of_all_isOk hreplies e), rfl, hrun, hlisted, fun hheld => ?_⟩
          simp only [hrun, hlisted] at hstale
          rw [hheld 0, Prod.mk.injEq] at hstale
          rw [hstale.1] at hstale
          exact absurd hstale.2 (by decide)

end Session

end CslProcessor
