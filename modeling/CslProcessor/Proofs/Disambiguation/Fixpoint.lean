import CslProcessor.Proofs.Disambiguation.AuthorDate
import CslProcessor.Proofs.Disambiguation.Budget
import CslProcessor.Proofs.Disambiguation.Histories

/-!
# Reaching the fixpoint

With a renderer that is faithful to letters a pass leaves only entries alike that it has changed.
So when a pass changes nothing, all entries are told apart, and since there are only so many moves,
some pass changes nothing. From then on further passes find nothing to do.

This gives every resolution the number of passes that it takes. It succeeds if there are that many
passes, and fails otherwise. The number of passes that there are is fixed, and it is not enough for
every resolution: a step that tells two entries apart may make one of them look like a third one,
so that a row of entries is told apart one by one, with one pass for each.

## Main definitions

* `OnWay`: What holds before every pass.
* `Succeeds`, `RendererFails`: How a resolution with so many passes ends.
* `AuthorDate.row`: Works that are told apart one by one.

## Theorems

* `pass_onWay`: What a pass leaves behind.
* `passes_reach`: As many passes as there can be moves reach the fixpoint.
* `passes_stay`: One more pass changes nothing after that.
* `exists_passes`: The number of passes that a resolution takes.
* `resolve_succeeds_iff`: A resolution succeeds if it takes no more passes than there are.
* `row_stillAlike`: A row of works that takes more passes than there are.
-/

namespace CslProcessor

namespace Disambiguation

variable {ε : Type} {p : Policy} {r : KeyRenderer ε} {order : List Nat}

/-! ## Passes of a faithful renderer -/

/-- What holds before every pass: right books of all entries, and no need to look at entries that
    were not touched last. -/
structure OnWay (r : KeyRenderer ε) (order touched : List Nat) (t : Tracker) : Prop where
  paired : t.Paired r order t
  separated : Separated r order t.state touched
  lettered : Lettered r order t.state touched

/-- A pass of a faithful renderer leaves nothing to look at but the entries that it has changed,
    and all letters in order. -/
theorem pass_onWay (hnd : order.Nodup) (hf : Faithful r) {touched : List Nat} {t : Tracker}
    (h : OnWay r order touched t) :
    (∃ s v, pass p r order touched t = .ok s v ∧ OnWay r order s.changed v ∧
      Lettered r order v.state [] ∧ t.Progress p r order s.changed v) ∨
    ∃ e v, pass p r order touched t = .error (.rendering e) v := by
  rcases (pass_advances (p := p) hnd h.paired rfl h.lettered h.lettered).cases with
    ⟨s, v, s', v', hv, hv', hlettered, hsep, rfl, hpaired, hprog⟩ | ⟨e, v, -, hv, -⟩
  · rw [hv] at hv'
    injection hv' with _ heq
    rw [← heq] at hpaired
    exact Or.inl ⟨s, v, hv, ⟨hpaired, hsep hf h.separated, hlettered.mono (by simp)⟩, hlettered,
      hprog⟩
  · exact Or.inr ⟨e, v, hv⟩

/-- As many passes as there can be moves tell all entries apart, unless the renderer fails. -/
theorem passes_reach (hnd : order.Nodup) (hf : Faithful r) (n : Nat) :
    ∀ {touched checked affected : List Nat} {t : Tracker}, OnWay r order touched t →
      movesLeft r order t.state < n →
      (∃ a v, passes p r order n touched checked affected t = .ok a v ∧
        Separated r order v.state []) ∨
      ∃ e v, passes p r order n touched checked affected t = .error (.rendering e) v := by
  induction n with
  | zero => exact fun _ hn => absurd hn (Nat.not_lt_zero _)
  | succ n ih =>
      intro touched checked affected t h hn
      rw [passes_succ]
      rcases pass_onWay (p := p) hnd hf h with ⟨s, v, hv, hway, -, hprog⟩ | ⟨e, v, hv⟩
      · rw [bind_of_ok hv]
        by_cases hdone : s.changed = []
        · -- Nothing has changed, so no two entries look alike.
          have hsep := hway.separated
          rw [hdone] at hsep
          simp only [hdone, List.isEmpty_nil, if_true]
          exact Or.inl ⟨_, v, rfl, hsep⟩
        · have hlt := hprog.movesLeft_lt hnd hdone
          simp only [List.isEmpty_iff, if_neg hdone]
          exact ih hway (by omega)
      · rw [bind_of_error hv]
        exact Or.inr ⟨e, v, rfl⟩

-- Where no two entries look alike there are no collisions.
theorem Tracker.Paired.collisions_eq_nil {t u : Tracker} (h : t.Paired r order u)
    (hnd : order.Nodup) (hs : Separated r order t.state []) (touched : List Nat) :
    t.collisions order touched = [] := by
  rw [h.left.collisions_eq hnd, List.filter_eq_nil_iff]
  intro g hg
  have hsub := (sublist_of_mem_lookalikes hg).subset
  rcases exists_ne_of_mem_lookalikes hnd hg with ⟨i, hi, j, hj, hij⟩
  exact absurd (h.looksAlike hg hi hj)
    (hs i (hsub hi) j (hsub hj) hij List.not_mem_nil List.not_mem_nil)

/-- One more pass changes nothing once all entries are told apart and all letters are in order. -/
theorem passes_stay (hnd : order.Nodup) (hf : Faithful r) (n : Nat) :
    ∀ {touched checked affected : List Nat} {t v : Tracker} {a : List Nat × List Nat},
      OnWay r order touched t → (0 < n ∨ Lettered r order t.state []) →
      passes p r order n touched checked affected t = .ok a v → Separated r order v.state [] →
      ∃ b, passes p r order (n + 1) touched checked affected t = .ok b v := by
  induction n with
  | zero =>
      intro touched checked affected t v a h hl hrun hs
      have hstart : EStateM.Result.ok (checked, affected) t = EStateM.Result.ok a v := hrun
      injection hstart with _ heq
      subst heq
      have hlettered := hl.resolve_left (Nat.lt_irrefl 0)
      have hidle := pass_idle (p := p) hnd h.paired
        (h.paired.collisions_eq_nil hnd hs touched) hlettered
      rw [passes_succ, bind_of_ok hidle]
      exact ⟨_, rfl⟩
  | succ n ih =>
      intro touched checked affected t v a h _ hrun hs
      rw [passes_succ] at hrun ⊢
      rcases pass_onWay (p := p) hnd hf h with ⟨s, w, hw, hway, hlettered, -⟩ | ⟨e, w, hw⟩
      · rw [bind_of_ok hw] at hrun ⊢
        by_cases hdone : s.changed.isEmpty = true
        · simp only [if_pos hdone] at hrun ⊢
          exact ⟨a, hrun⟩
        · simp only [if_neg hdone] at hrun ⊢
          exact ih hway (Or.inr hlettered) hrun hs
      · rw [bind_of_error hw] at hrun
        exact absurd hrun (by simp only [reduceCtorEq, not_false_eq_true])

-- A renderer that fails does so with one more pass, too.
theorem passes_fail (n : Nat) :
    ∀ {touched checked affected : List Nat} {t v : Tracker} {e : ResolveError ε},
      passes p r order n touched checked affected t = .error e v →
      passes p r order (n + 1) touched checked affected t = .error e v := by
  induction n with
  | zero =>
      intro touched checked affected t v e hrun
      have hok : EStateM.Result.ok (checked, affected) t = EStateM.Result.error e v := hrun
      exact absurd hok (by simp only [reduceCtorEq, not_false_eq_true])
  | succ n ih =>
      intro touched checked affected t v e hrun
      rw [passes_succ] at hrun ⊢
      cases hw : pass p r order touched t with
      | ok s w =>
          rw [bind_of_ok hw] at hrun ⊢
          by_cases hdone : s.changed.isEmpty = true
          · simp only [if_pos hdone] at hrun ⊢
            exact hrun
          · simp only [if_neg hdone] at hrun ⊢
            exact ih hrun
      | error e' w =>
          rw [bind_of_error hw] at hrun ⊢
          exact hrun

/-! ## Resolutions of a faithful renderer -/

-- What a resolution comes down to: it fails as the renderer does before any pass, or its passes
-- start on the way, from the states that there were.
theorem resolveWithin_cases {t : Tracker} (ht : t.Rests r) (entries : List Nat) :
    (∀ n, ∃ e v, resolveWithin n p r entries t = .error (.rendering e) v) ∨
    ∃ touched v, OnWay r (ListSet.lastOccurrences entries) touched v ∧ v.state = t.state ∧
      ∀ n, resolveWithin n p r entries t =
        (passes p r (ListSet.lastOccurrences entries) n touched touched [] >>= fun x =>
          conclude (ListSet.lastOccurrences entries) entries.length touched.length x.1 x.2) v := by
  have hnd := ListSet.nodup_lastOccurrences entries
  have hready := ht.begin (ListSet.lastOccurrences entries)
  have hstate := Tracker.state_begin r (ListSet.lastOccurrences entries) t
  unfold resolveWithin
  simp only [modify_bind, get_bind]
  generalize ListSet.lastOccurrences entries = order at *
  generalize t.begin r order = u at *
  rcases trackAll_cases order hnd (fun _ hi => hi) u hready.knows with
    ⟨v, -, htrack, hknows, hsv, htracks, -⟩ | ⟨e, v, -, htrack⟩
  · refine Or.inr ⟨order.filter (!u.tracks ·), v, ⟨⟨Tracker.Agree.refl hknows, ?_⟩, ?_, ?_⟩,
      hsv.trans hstate, fun n => bind_of_ok htrack _⟩
    · intro i hi
      rw [htracks, List.contains_iff_mem.2 hi, Bool.true_or]
    · rw [hsv]
      exact hready.separated
    · rw [hsv]
      exact hready.lettered
  · exact Or.inl fun n => ⟨e, v, bind_of_error htrack _⟩

-- A resolution succeeds if its passes tell all entries apart.
theorem conclude_eq_ok_iff (hnd : order.Nodup) {touched : List Nat} {t : Tracker}
    (h : OnWay r order touched t) (n cited fresh : Nat) :
    (∃ a v, (passes p r order n touched touched [] >>= fun x =>
        conclude order cited fresh x.1 x.2) t = .ok a v) ↔
      ∃ x v, passes p r order n touched touched [] t = .ok x v ∧
        Separated r order v.state [] := by
  rcases (passes_lockstep (p := p) hnd n touched touched touched touched [] t t h.paired rfl
    h.lettered h.lettered).cases with ⟨x, v, _, w, hv, -, -, hpassed⟩ | ⟨e, v, -, hv, -⟩
  · rw [bind_of_ok hv]
    rcases hpassed.moved with ⟨c, hprog, hc, -, -⟩
    have hall := hpassed.paired.collisions_eq_lookalikes hnd (h.separated.progress hprog hc)
    constructor
    · rintro ⟨a, v', hok⟩
      refine ⟨x, v, hv, hpassed.paired.separated ?_⟩
      by_contra hne
      rw [← hall] at hne
      rw [conclude_of_ne_nil hne] at hok
      exact absurd hok (by simp only [reduceCtorEq, not_false_eq_true])
    · rintro ⟨x', v', hv', hs⟩
      rw [hv] at hv'
      injection hv' with _ heq
      rw [← heq] at hs
      exact ⟨_, v, conclude_of_nil (hpassed.paired.collisions_eq_nil hnd hs x.1) ..⟩
  · rw [bind_of_error hv]
    constructor
    · rintro ⟨a, v', hok⟩
      exact absurd hok (by simp only [reduceCtorEq, not_false_eq_true])
    · rintro ⟨x, v', hok, -⟩
      rw [hv] at hok
      exact absurd hok (by simp only [reduceCtorEq, not_false_eq_true])

/-- A resolution succeeds. -/
def Succeeds (n : Nat) (p : Policy) (r : KeyRenderer ε) (entries : List Nat) (t : Tracker) :
    Prop :=
  ∃ a v, resolveWithin n p r entries t = .ok a v

/-- The renderer fails in a resolution. -/
def RendererFails (n : Nat) (p : Policy) (r : KeyRenderer ε) (entries : List Nat) (t : Tracker) :
    Prop :=
  ∃ e v, resolveWithin n p r entries t = .error (.rendering e) v

-- With one more pass a resolution succeeds still.
theorem Succeeds.succ (hf : Faithful r) {t : Tracker} (ht : t.Rests r) {entries : List Nat}
    {n : Nat} (hn : 0 < n) (h : Succeeds n p r entries t) : Succeeds (n + 1) p r entries t := by
  have hnd := ListSet.nodup_lastOccurrences entries
  rcases resolveWithin_cases (p := p) ht entries with hfail | ⟨touched, v, hway, -, heq⟩
  · rcases h with ⟨a, v, hok⟩
    rcases hfail n with ⟨e, w, herror⟩
    rw [hok] at herror
    exact absurd herror (by simp only [reduceCtorEq, not_false_eq_true])
  · unfold Succeeds at h ⊢
    rw [heq, conclude_eq_ok_iff hnd hway] at h ⊢
    rcases h with ⟨x, w, hrun, hs⟩
    rcases passes_stay hnd hf n hway (Or.inl hn) hrun hs with ⟨y, hrun'⟩
    exact ⟨y, w, hrun', hs⟩

-- With one more pass the renderer fails still.
theorem RendererFails.succ {t : Tracker} (ht : t.Rests r) {entries : List Nat} {n : Nat}
    (h : RendererFails n p r entries t) : RendererFails (n + 1) p r entries t := by
  rcases resolveWithin_cases (p := p) ht entries with hfail | ⟨touched, v, hway, -, heq⟩
  · exact hfail (n + 1)
  · unfold RendererFails at h ⊢
    rw [heq] at h ⊢
    rcases h with ⟨e, w, hrun⟩
    rcases bind_eq_error_iff.1 hrun with hpasses | ⟨x, w', -, hconclude⟩
    · exact ⟨e, w, bind_of_error (passes_fail n hpasses) _⟩
    · -- What comes after the passes renders nothing.
      by_cases hnone : w'.collisions (ListSet.lastOccurrences entries) x.1 = []
      · rw [conclude_of_nil hnone] at hconclude
        exact absurd hconclude (by simp only [reduceCtorEq, not_false_eq_true])
      · rw [conclude_of_ne_nil hnone] at hconclude
        exact absurd hconclude (by simp)

-- With as many passes as there can be moves a resolution succeeds, unless the renderer fails.
theorem succeeds_or_rendererFails (hf : Faithful r) {t : Tracker} (ht : t.Rests r)
    (entries : List Nat) {n : Nat}
    (hn : movesLeft r (ListSet.lastOccurrences entries) t.state < n) :
    Succeeds n p r entries t ∨ RendererFails n p r entries t := by
  have hnd := ListSet.nodup_lastOccurrences entries
  rcases resolveWithin_cases (p := p) ht entries with hfail | ⟨touched, v, hway, hstate, heq⟩
  · exact Or.inr (hfail n)
  · unfold Succeeds RendererFails
    rw [heq, conclude_eq_ok_iff hnd hway]
    rw [← hstate] at hn
    rcases passes_reach (p := p) hnd hf n hway hn with ⟨a, w, hrun, hs⟩ | ⟨e, w, hrun⟩
    · exact Or.inl ⟨a, w, hrun, hs⟩
    · exact Or.inr ⟨e, w, bind_of_error hrun _⟩

/-- A resolution takes a number of passes. With as many passes or more it succeeds, and with fewer
    it does not, unless the renderer fails. -/
theorem exists_passes (hf : Faithful r) {t : Tracker} (ht : t.Rests r) (entries : List Nat) :
    ∃ n, 0 < n ∧ n ≤ movesLeft r (ListSet.lastOccurrences entries) t.state + 1 ∧
      ∀ m, 0 < m → ¬ RendererFails m p r entries t → (Succeeds m p r entries t ↔ n ≤ m) := by
  classical
  have hbound := succeeds_or_rendererFails (p := p) hf ht entries (Nat.lt_succ_self _)
  have hends : ∃ n, 0 < n ∧ (Succeeds n p r entries t ∨ RendererFails n p r entries t) :=
    ⟨_, Nat.succ_pos _, hbound⟩
  -- The least number of passes with which it succeeds, or with which the renderer fails.
  obtain ⟨n, ⟨hpos, hend⟩, hleast⟩ :
      ∃ n, (0 < n ∧ (Succeeds n p r entries t ∨ RendererFails n p r entries t)) ∧
        ∀ m, 0 < m ∧ (Succeeds m p r entries t ∨ RendererFails m p r entries t) → n ≤ m :=
    ⟨Nat.find hends, Nat.find_spec hends, fun m hm => Nat.find_min' hends hm⟩
  have hstay : ∀ k, Succeeds (n + k) p r entries t ∨ RendererFails (n + k) p r entries t := by
    intro k
    induction k with
    | zero => exact hend
    | succ k ih =>
        rcases ih with hok | hfail
        · exact Or.inl (hok.succ hf ht (Nat.add_pos_left hpos k))
        · exact Or.inr (hfail.succ ht)
  refine ⟨n, hpos, hleast _ ⟨Nat.succ_pos _, hbound⟩, fun m hm hnot => ?_⟩
  constructor
  · exact fun hok => hleast m ⟨hm, Or.inl hok⟩
  · intro hle
    have hm' := hstay (m - n)
    rw [Nat.add_sub_cancel' hle] at hm'
    exact hm'.resolve_right hnot

/-- At any time in a history of resolutions, a resolution with a renderer that is faithful to
    letters takes a number of passes, which is at most one more than there can be moves. With as
    many passes or more all entries are told apart. So a resolution with the number of passes that
    there are tells all entries apart exactly if it takes no more than these, and otherwise fails
    since some entries look alike still, unless the renderer fails. -/
theorem resolve_succeeds_iff (p : Policy) (states : Assoc Nat EntryDisambiguation)
    (calls : List (ResolveCall ε)) (call : ResolveCall ε) (hcons : Consistent (call :: calls))
    (hrender : ∀ e, Except.error e ∈ (runCalls (ResolveCall.run p) calls { states }).1 →
      ¬ e.IsRendering) (hf : Faithful call.renderer) (t : Tracker)
    (ht : t = (runCalls (ResolveCall.run p) calls { states }).2) :
    ∃ n, 0 < n ∧
      n ≤ movesLeft call.renderer (ListSet.lastOccurrences call.entries) t.state + 1 ∧
      (∀ m, 0 < m → ¬ RendererFails m p call.renderer call.entries t →
        (Succeeds m p call.renderer call.entries t ↔ n ≤ m)) ∧
      (¬ RendererFails maxPasses p call.renderer call.entries t →
        ((∃ a v, call.run p t = .ok a v) ↔ n ≤ maxPasses) ∧
        ((∃ ids v, call.run p t = .error (.stillAlike ids) v) ↔ maxPasses < n)) := by
  have hrests : t.Rests call.renderer := ht ▸ runCalls_rests hcons states hrender
  rcases exists_passes (p := p) hf hrests call.entries with ⟨n, hpos, hbound, hn⟩
  refine ⟨n, hpos, hbound, hn, fun hnot => ?_⟩
  have hrun : call.run p t = resolveWithin maxPasses p call.renderer call.entries t := by
    rw [ResolveCall.run, resolve_eq_resolveWithin]
  have hok : (∃ a v, call.run p t = .ok a v) ↔ n ≤ maxPasses := by
    rw [hrun]
    exact hn maxPasses (by decide) hnot
  refine ⟨hok, ?_⟩
  rw [← Nat.not_le, ← hok]
  constructor
  · rintro ⟨ids, v, herror⟩ ⟨a, w, hsuccess⟩
    rw [hsuccess] at herror
    exact absurd herror (by simp only [reduceCtorEq, not_false_eq_true])
  · intro hfails
    have hsame := resolve_sameOutcome (p := p) hrests hrests rfl call.entries
    rw [← ResolveCall.run] at hsame
    cases hresult : call.run p t with
    | ok a v => exact absurd ⟨a, v, hresult⟩ hfails
    | error e v =>
        rw [hresult] at hsame
        cases e with
        | stillAlike ids => exact ⟨ids, v, rfl⟩
        | rendering e =>
            rw [hrun] at hresult
            exact absurd ⟨e, v, hresult⟩ hnot
        | regress e => exact absurd hsame (by simp only [SameOutcome, not_false_eq_true])

theorem namesakes_faithful (entries : List Nat) : Faithful (namesakes entries).renderer := by
  refine AuthorDate.faithful 0 fun a ha => ?_
  have hyear : a.ignoresSuffix = false ∧ a.year = "2020" := by
    rcases List.mem_pair.1 ha with rfl | rfl
    · exact ⟨rfl, rfl⟩
    · exact ⟨rfl, rfl⟩
  rw [hyear.1, hyear.2]
  exact ⟨rfl, by simp⟩

set_option maxRecDepth 100000 in
theorem resolve_succeeds_iff_namesakes :
    ∃ n, 0 < n ∧ n ≤ maxPasses ∧ ∀ m, 0 < m →
      ¬ RendererFails m {} (namesakes [0, 1]).renderer [0, 1] {} →
        (Succeeds m {} (namesakes [0, 1]).renderer [0, 1] {} ↔ n ≤ m) := by
  have hok : (match (namesakes [0, 1]).run {} {} with
      | .ok .. => true
      | .error .. => false) = true := by decide +kernel
  have hcons : Consistent [namesakes [0, 1]] := by
    simp [Consistent]
  rcases resolve_succeeds_iff {} [] [] (namesakes [0, 1]) hcons
    (fun e he => absurd he List.not_mem_nil) (namesakes_faithful [0, 1]) {} rfl with
    ⟨n, hpos, -, hn, hresolve⟩
  refine ⟨n, hpos, ?_, hn⟩
  cases hrun : (namesakes [0, 1]).run {} {} with
  | ok a v =>
      refine (hresolve ?_).1.1 ⟨a, v, hrun⟩
      rintro ⟨e, w, herror⟩
      rw [← resolve_eq_resolveWithin] at herror
      have hboth := hrun.symm.trans herror
      exact absurd hboth (by simp only [reduceCtorEq, not_false_eq_true])
  | error e v =>
      rw [hrun] at hok
      exact absurd hok Bool.false_ne_true

/-- Works of which each, when it shows one more name, looks like the next one: the first name of
    every work but the first is written like the first names of the works before it together. -/
def AuthorDate.row (count : Nat) : List AuthorDate :=
  (List.range count).map fun k =>
    { names := if k = 0 then [("A", "")] else
        [(", ".intercalate (List.replicate k "A"), ""), ("A", "")]
      shown := 1 }

theorem AuthorDate.row_faithful (count : Nat) :
    Faithful (AuthorDate.renderer 0 (AuthorDate.row count)) := by
  refine AuthorDate.faithful 0 fun a ha => ?_
  rcases List.mem_map.1 ha with ⟨k, -, rfl⟩
  exact ⟨rfl, by simp⟩

/-- Whether entries look alike still. -/
def Outcome.isStillAlike {ε : Type} : Outcome ε → Bool
  | .stillAlike .. => true
  | .toldApart .. | .regress .. | .rendering _ => false

set_option maxRecDepth 100000 in
/-- A row of works that takes more passes than there are, although the form is faithful to
    letters. -/
theorem row_stillAlike :
    Faithful (AuthorDate.renderer 0 (AuthorDate.row 34)) ∧ (List.range 34).Nodup ∧
      ∃ ids v, resolve { methods := [.addNames] } (AuthorDate.renderer 0 (AuthorDate.row 34))
        (List.range 34) {} = .error (.stillAlike ids) v := by
  have hfails : (outcome (resolve { methods := [.addNames] }
      (AuthorDate.renderer 0 (AuthorDate.row 34)) (List.range 34) {})).isStillAlike = true := by
    decide +kernel
  refine ⟨AuthorDate.row_faithful 34, List.nodup_range, ?_⟩
  cases hrun : resolve { methods := [.addNames] } (AuthorDate.renderer 0 (AuthorDate.row 34))
      (List.range 34) {} with
  | ok a v =>
      rw [hrun] at hfails
      exact absurd hfails Bool.false_ne_true
  | error e v =>
      rw [hrun] at hfails
      cases e with
      | stillAlike ids => exact ⟨ids, v, rfl⟩
      | rendering e => exact absurd hfails Bool.false_ne_true
      | regress e => exact absurd hfails Bool.false_ne_true

end Disambiguation

end CslProcessor
