import CslProcessor.Disambiguation.AuthorDate
import CslProcessor.Proofs.Disambiguation.Incremental

/-!
# Histories of Resolutions

A tracker serves many resolutions, with entries that come and go and with more than one renderer.
Along any such history the tracker rests: what it claims to know is so. Resolutions that could not
tell all entries apart are part of the history, since the tracker makes no claim after them; only
a failure of a renderer may leave it in the middle of its work.

So any resolution could have been the first one. What it reports, the states it leaves behind and
whether it fails are what they would be if all books were forgotten before it. And there is nothing
to do for a resolution that comes right after one that succeeded.

## Main definitions

* `ResolveCall`: A resolution as a call.
* `Consistent`: Renderers with the same number render the same keys.
* `Outcome`: What there is to see of a resolution.

## Theorems

* `resolve_rests`: A resolution leaves a tracker that rests.
* `runCalls_rests`: So does a history of resolutions.
* `resolve_again`: There is nothing to do for a resolution right after another one.
* `outcome_after_forgetting`: Forgetting changes no outcome.
-/

namespace CslProcessor

namespace Disambiguation

variable {ε : Type} {p : Policy} {r : KeyRenderer ε}

/-- A resolution as a call. -/
structure ResolveCall (ε : Type) where
  /-- How cites are rendered. -/
  renderer : KeyRenderer ε
  /-- The entries in the order in which they were cited first. -/
  entries : List Nat

/-- Makes a call. -/
def ResolveCall.run (p : Policy) (call : ResolveCall ε) : Resolving ε Resolution :=
  resolve p call.renderer call.entries

/-- Renderers with the same number render the same keys. -/
def Consistent (calls : List (ResolveCall ε)) : Prop :=
  ∀ c ∈ calls, ∀ d ∈ calls, c.renderer.id = d.renderer.id → c.renderer.key = d.renderer.key

/-- Whether a renderer has failed. -/
def ResolveError.IsRendering : ResolveError ε → Prop
  | .rendering _ => True
  | .regress _ | .stillAlike _ => False

/-- What there is to see of a resolution: the entries that are reported or the failure, and the
    states of all entries. What a renderer that fails leaves behind is not looked at. -/
inductive Outcome (ε : Type)
  /-- All entries are told apart. -/
  | toldApart (affected : List Nat) (states : States)
  /-- Some entries look alike. -/
  | stillAlike (indexes : List Nat) (states : States)
  /-- An entry would have lost information. -/
  | regress (e : Regress) (states : States)
  /-- A renderer has failed. -/
  | rendering (e : ε)

/-- What there is to see of the result of a resolution. -/
def outcome : EStateM.Result (ResolveError ε) Tracker Resolution → Outcome ε
  | .ok a t => .toldApart a.affected t.state
  | .error (.stillAlike indexes) t => .stillAlike indexes t.state
  | .error (.regress e) t => .regress e t.state
  | .error (.rendering e) _ => .rendering e

theorem SameOutcome.outcome_eq {order : List Nat} {t : Tracker}
    {x y : EStateM.Result (ResolveError ε) Tracker Resolution} (h : SameOutcome r order t x y) :
    outcome x = outcome y := by
  cases x with
  | ok a v =>
      cases y with
      | ok b w => rw [outcome, outcome, h.1, h.2.1]
      | error e w => exact absurd h (by simp only [SameOutcome, not_false_eq_true])
  | error e v =>
      cases y with
      | ok b w => cases e <;> exact absurd h (by simp only [SameOutcome, not_false_eq_true])
      | error e' w =>
          cases e with
          | rendering e =>
              cases e' with
              | rendering e' => rw [outcome, outcome, (h : e = e')]
              | regress _ => exact absurd h (by simp only [SameOutcome, not_false_eq_true])
              | stillAlike _ => exact absurd h (by simp only [SameOutcome, not_false_eq_true])
          | regress _ => exact absurd h (by simp only [SameOutcome, not_false_eq_true])
          | stillAlike is =>
              cases e' with
              | rendering _ => exact absurd h (by simp only [SameOutcome, not_false_eq_true])
              | regress _ => exact absurd h (by simp only [SameOutcome, not_false_eq_true])
              | stillAlike js => rw [outcome, outcome, h.1, h.2.1]

-- The outcome of a resolution depends on nothing but the states.
theorem resolve_sameOutcome {t u : Tracker} (ht : t.Rests r) (hu : u.Rests r)
    (hs : t.state = u.state) (entries : List Nat) :
    SameOutcome r (ListSet.lastOccurrences entries) t (resolve p r entries t)
      (resolve p r entries u) := by
  rw [resolve_eq_resolveWithin]
  exact resolveWithin_sameOutcome (by decide) ht hu hs entries

-- What a resolution that succeeds leaves behind.
theorem resolved_of_ok {t v : Tracker} (ht : t.Rests r) {entries : List Nat} {a : Resolution}
    (h : resolve p r entries t = .ok a v) :
    Resolved r (ListSet.lastOccurrences entries) t a.affected v := by
  have hsame := resolve_sameOutcome (p := p) ht ht rfl entries
  rw [h] at hsame
  exact hsame.2.2.1

/-- A resolution leaves a tracker that rests, unless a renderer fails. -/
theorem resolve_rests {t : Tracker} {r' : KeyRenderer ε} (ht : t.Rests r)
    (hkey : r'.id = r.id → r'.key = r.key) (entries : List Nat)
    (hrender : ∀ e, replyOf (resolve p r entries t) = .error e → ¬ e.IsRendering) :
    (stateAfter (resolve p r entries t)).Rests r' := by
  cases h : resolve p r entries t with
  | ok a v =>
      intro hr
      have hres := resolved_of_ok ht h
      have hid : r'.id = r.id := by
        rw [stateAfter, hres.renderer, Option.some.injEq] at hr
        exact hr.symm
      exact Tracker.Rests.congr (fun _ => hres.settled) hid (hkey hid) hr
  | error e v =>
      have hsame := resolve_sameOutcome (p := p) ht ht rfl entries
      rw [h] at hsame hrender
      cases e with
      | rendering e => exact absurd trivial (hrender _ rfl)
      | regress e => exact absurd hsame (by simp only [SameOutcome, not_false_eq_true])
      | stillAlike indexes =>
          -- No books are kept after entries that look alike still.
          exact Tracker.Rests.of_none hsame.2.2.1

/-- A history of resolutions leaves a tracker that rests, unless a renderer fails. -/
theorem runCalls_rests {calls : List (ResolveCall ε)} {call : ResolveCall ε}
    (hcons : Consistent (call :: calls)) (states : Assoc Nat EntryDisambiguation)
    (hrender : ∀ e, Except.error e ∈ (runCalls (ResolveCall.run p) calls { states }).1 →
      ¬ e.IsRendering) :
    (runCalls (ResolveCall.run p) calls { states }).2.Rests call.renderer := by
  have hall := runCalls_invariant (I := fun t => ∀ c ∈ call :: calls, t.Rests c.renderer)
    (B := ResolveError.IsRendering) calls
    (fun c hc t ht hgood d hd => resolve_rests (ht c (List.mem_cons_of_mem _ hc))
      (hcons d hd c (List.mem_cons_of_mem _ hc)) c.entries hgood)
    ({ states } : Tracker) (fun c _ => Tracker.Rests.of_none rfl) hrender
  exact hall call List.mem_cons_self

/-- There is nothing to do for a resolution right after one that succeeded. -/
theorem resolve_again {t v : Tracker} {entries affected : List Nat}
    (h : Resolved r (ListSet.lastOccurrences entries) t affected v) :
    resolve p r entries v = .ok { affected := [], cited := entries.length, fresh := 0 } v := by
  have hnd := ListSet.nodup_lastOccurrences entries
  rw [resolve_eq_resolveWithin, resolveWithin]
  simp only [modify_bind, get_bind]
  have hbegin : v.begin r (ListSet.lastOccurrences entries) = v := by
    unfold Tracker.begin
    refine if_pos ?_
    rw [h.renderer, beq_self_eq_true, Bool.true_and, List.all_eq_true]
    intro i hi
    exact List.contains_iff_mem.2 (h.knows.mem_of_tracks (Tracker.mem_keys_current_iff.1 hi))
  rw [hbegin]
  generalize ListSet.lastOccurrences entries = order at *
  have hfresh : order.filter (!v.tracks ·) = [] := by
    rw [List.filter_eq_nil_iff]
    intro i hi
    rw [h.tracked i hi]
    simp
  have hpaired : v.Paired r order v := ⟨Tracker.Agree.refl h.knows, h.tracked⟩
  have hcoll : v.collisions order [] = [] := by
    rw [h.knows.collisions_eq hnd]
    simp
  have hpasses : passes p r order maxPasses [] [] [] v = .ok ([], []) v := by
    rw [maxPasses, passes_succ, bind_of_ok (pass_idle hnd hpaired hcoll h.lettered)]
    rfl
  have htrack : trackAll r ([] : List Nat) v = .ok ⟨⟩ v := rfl
  rw [hfresh, bind_of_ok htrack, bind_of_ok hpasses]
  exact conclude_of_nil hcoll _ _ _

-- Nor is there anything to do for one of exactly the entries of a tracker that is settled, although
-- it may have to render them all again.
theorem resolve_settled {t : Tracker} (h : t.Settled r) {entries : List Nat}
    (hentries : ∀ i, i ∈ entries ↔ t.tracks i = true) :
    ∃ a v, resolve p r entries t = .ok a v ∧ v.state = t.state := by
  have hmem : ∀ i, i ∈ Assoc.keys t.current ↔ i ∈ ListSet.lastOccurrences entries := by
    intro i
    rw [Tracker.mem_keys_current_iff, ListSet.mem_lastOccurrences, hentries]
  -- The same tracker, if it claims to know the renderer, is one that a resolution leaves behind.
  have hresolved : Resolved r (ListSet.lastOccurrences entries) t []
      ({ t with renderer := some r.id } : Tracker) := by
    have hknows := h.knows.mono (fun i hi => (hmem i).1 hi) (fun _ _ _ => rfl)
    refine ⟨⟨hknows.cached, hknows.current, hknows.base, hknows.both, hknows.buckets,
      hknows.baseBuckets⟩, ?_, rfl, ?_, ?_, fun _ _ => rfl⟩
    · exact fun i hi => Tracker.mem_keys_current_iff.1 ((hmem i).2 hi)
    · exact fun i hi j hj => h.separated i ((hmem i).2 hi) j ((hmem j).2 hj)
    · exact fun i hi j hj => h.lettered i ((hmem i).2 hi) j ((hmem j).2 hj)
  have hsame := resolve_sameOutcome (p := p) (u := { t with renderer := some r.id })
    (fun _ => h) (fun _ => hresolved.settled) rfl entries
  rw [resolve_again hresolved] at hsame
  cases hrun : resolve p r entries t with
  | ok a v =>
      rw [hrun] at hsame
      exact ⟨a, v, rfl, hsame.2.1⟩
  | error e v =>
      rw [hrun] at hsame
      cases e <;> exact absurd hsame (by simp only [SameOutcome, not_false_eq_true])

/-- At any time in a history of resolutions, forgetting all books changes nothing about the outcome
    of the next one: what is reported, the states of all entries, and whether entries look alike
    still and which. So once a resolution has succeeded, the same resolution made again reports
    nothing and changes no state, also if it is made with a new tracker for the same states. -/
theorem outcome_after_forgetting (p : Policy) (states : Assoc Nat EntryDisambiguation)
    (calls : List (ResolveCall ε)) (call : ResolveCall ε) (hcons : Consistent (call :: calls))
    (hrender : ∀ e, Except.error e ∈ (runCalls (ResolveCall.run p) calls { states }).1 →
      ¬ e.IsRendering) :
    (∀ id, outcome (call.run p ((runCalls (ResolveCall.run p) calls { states }).2.reset id)) =
      outcome (call.run p (runCalls (ResolveCall.run p) calls { states }).2)) ∧
    ∀ a v, call.run p (runCalls (ResolveCall.run p) calls { states }).2 = .ok a v →
      outcome (call.run p v) = .toldApart [] v.state ∧
        outcome (call.run p { states := v.states }) = .toldApart [] v.state := by
  have hrests := runCalls_rests hcons states hrender
  constructor
  · intro id
    exact (resolve_sameOutcome (Tracker.Rests.reset _ _ id) hrests rfl call.entries).outcome_eq
  · intro a v h
    have hres := resolved_of_ok hrests h
    have hagain : outcome (call.run p v) = .toldApart [] v.state := by
      rw [ResolveCall.run, resolve_again hres]
      rfl
    have hnew : ({ states := v.states } : Tracker).Rests call.renderer :=
      Tracker.Rests.of_none rfl
    refine ⟨hagain, ?_⟩
    rw [← hagain]
    exact (resolve_sameOutcome hnew (fun _ => hres.settled) rfl call.entries).outcome_eq

/-- Two works of one year by authors of the same family name, in a resolution of some of them. -/
def namesakes (entries : List Nat) : ResolveCall NegativeSuffix where
  renderer := AuthorDate.renderer 0
    [{ names := [("Doe", "Ann")], year := "2020" }, { names := [("Doe", "Bob")], year := "2020" }]
  entries := entries

set_option maxRecDepth 100000 in
theorem outcome_after_forgetting_namesakes :
    outcome ((namesakes [0, 1]).run {}
        ((runCalls (ResolveCall.run {}) [namesakes [0]] {}).2.reset none)) =
      outcome ((namesakes [0, 1]).run {} (runCalls (ResolveCall.run {}) [namesakes [0]] {}).2) ∧
    ∃ a v, (namesakes [0, 1]).run {} (runCalls (ResolveCall.run {}) [namesakes [0]] {}).2 =
        .ok a v ∧ outcome ((namesakes [0, 1]).run {} { states := v.states }) =
          .toldApart [] v.state := by
  have hok : (match (namesakes [0, 1]).run {}
      (runCalls (ResolveCall.run {}) [namesakes [0]] {}).2 with
      | .ok .. => true
      | .error .. => false) = true := by decide +kernel
  have hreplies : (runCalls (ResolveCall.run {}) [namesakes [0]] {}).1.all (·.isOk) = true := by
    decide +kernel
  have hcons : Consistent [namesakes [0, 1], namesakes [0]] := by
    simp [Consistent, namesakes]
  have hall := outcome_after_forgetting {} [] [namesakes [0]] (namesakes [0, 1]) hcons
    (fun e he => absurd he (not_mem_error_of_all_isOk hreplies e))
  refine ⟨hall.1 none, ?_⟩
  cases hrun : (namesakes [0, 1]).run {}
      (runCalls (ResolveCall.run {}) [namesakes [0]] {}).2 with
  | ok a v => exact ⟨a, v, rfl, (hall.2 a v hrun).2⟩
  | error e v =>
      rw [hrun] at hok
      exact absurd hok Bool.false_ne_true

end Disambiguation

end CslProcessor
