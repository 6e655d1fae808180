import CslProcessor.Proofs.Session.Coherence
import Mathlib

/-!
# Entries are told apart

What telling entries apart is for: no two entries of a resolution that succeeds have cites with the
same text, unless there is no text in them. This holds along any history of resolutions, although a
resolution looks only at what is new or changes, and it holds of all entries that a session has
mentioned, at any time.

## Main definitions

* `ToldApart`: Two entries have different cites.
* `Session.sameText`: A session whose entries need letters.

## Theorems

* `Settled.toldApart`: The entries of a tracker that is settled are told apart.
* `resolve_toldApart`: The entries of a resolution, and of a session, are told apart.
-/

namespace CslProcessor

/-- A session with two entries whose cites have the same text but for letters. -/
def Session.sameText : Session :=
  start "session" { entries := [{ id := "a" }, { id := "b" }] }
    { id := "style", citation := { layout := { children := [.text (.ofValue "W") {}] } } }
    { lang := "" }

namespace Disambiguation

/-- The cites of two entries can be rendered and differ, unless there is no text in them. -/
def ToldApart {ε : Type} (r : KeyRenderer ε) (σ : States) (i j : Nat) : Prop :=
  ∃ k l, r.key i (σ i) = .ok k ∧ r.key j (σ j) = .ok l ∧ (k = l → k = "")

-- Any two entries of a tracker that is settled are told apart.
theorem Tracker.Settled.toldApart {ε : Type} {r : KeyRenderer ε} {t : Tracker} (h : t.Settled r)
    {i j : Nat} (hi : t.tracks i = true) (hj : t.tracks j = true) (hij : i ≠ j) :
    ToldApart r t.state i j := by
  rcases Tracker.tracks_eq_true_iff.1 hi with ⟨k, hk⟩
  rcases Tracker.tracks_eq_true_iff.1 hj with ⟨l, hl⟩
  have hki := (h.knows.current i k hk).2
  have hlj := (h.knows.current j l hl).2
  refine ⟨k, l, hki, hlj, fun heq => ?_⟩
  by_contra hne
  refine h.separated i (Tracker.mem_keys_current_iff.2 hi) j (Tracker.mem_keys_current_iff.2 hj)
    hij List.not_mem_nil List.not_mem_nil ⟨k, hne, hki, ?_⟩
  rw [heq]
  exact hlj

/-- Whenever a resolution succeeds, in whatever history of resolutions, any two of its entries are
    told apart. And after any run of a session in which nothing has failed but for input that was
    refused, any two entries that were mentioned are told apart. -/
theorem resolve_toldApart :
    (∀ (ε : Type) (p : Policy) (states : Assoc Nat EntryDisambiguation)
      (calls : List (ResolveCall ε)) (call : ResolveCall ε), Consistent (call :: calls) →
      (∀ e, Except.error e ∈ (runCalls (ResolveCall.run p) calls { states }).1 →
        ¬ e.IsRendering) →
      ∀ a v, call.run p (runCalls (ResolveCall.run p) calls { states }).2 = .ok a v →
        ∀ i ∈ call.entries, ∀ j ∈ call.entries, i ≠ j → ToldApart call.renderer v.state i j) ∧
    (∀ (id : String) (store : EntryStore) (style : Style) (locale : Locale)
      (settings : EngineSettings) (calls : List SessionCall),
      (∀ e, Except.error e ∈ (runCalls SessionCall.run calls
        (Session.start id store style locale settings)).1 → e.isInput = true) →
      ∀ s, s = (runCalls SessionCall.run calls
        (Session.start id store style locale settings)).2 →
        ∀ i ∈ s.history.mentioned, ∀ j ∈ s.history.mentioned, i ≠ j →
          ToldApart s.keyRenderer s.tracker.state i j) := by
  constructor
  · intro ε p states calls call hcons hrender a v h i hi j hj hij
    have hresolved := resolved_of_ok (runCalls_rests hcons states hrender) h
    refine hresolved.settled.toldApart ?_ ?_ hij
    · exact hresolved.tracked i (ListSet.mem_lastOccurrences.2 hi)
    · exact hresolved.tracked j (ListSet.mem_lastOccurrences.2 hj)
  · rintro id store style locale settings calls hinput s rfl i hi j hj hij
    have hcoherent := Session.runCalls_coherent
      (Session.start_coherent id store style locale settings) hinput
    exact hcoherent.settled.toldApart (hcoherent.tracked i hi) (hcoherent.tracked j hj) hij

set_option maxRecDepth 100000 in
theorem resolve_toldApart_namesakes :
    (∃ a v, (namesakes [0, 1]).run {} (runCalls (ResolveCall.run {}) [namesakes [0]] {}).2 =
        .ok a v ∧ ToldApart (namesakes [0, 1]).renderer v.state 0 1) ∧
      ∀ s, s = (runCalls SessionCall.run [.process (.ofIds ["a"] 1), .nocite ["b"]]
        Session.sameText).2 → ToldApart s.keyRenderer s.tracker.state 0 1 := by
  constructor
  · have hok : (match (namesakes [0, 1]).run {}
        (runCalls (ResolveCall.run {}) [namesakes [0]] {}).2 with
        | .ok .. => true
        | .error .. => false) = true := by decide +kernel
    have hreplies : (runCalls (ResolveCall.run {}) [namesakes [0]] {}).1.all (·.isOk) = true := by
      decide +kernel
    have hcons : Consistent [namesakes [0, 1], namesakes [0]] := by
      simp [Consistent, namesakes]
    cases hrun : (namesakes [0, 1]).run {}
        (runCalls (ResolveCall.run {}) [namesakes [0]] {}).2 with
    | ok a v =>
        refine ⟨a, v, rfl, ?_⟩
        exact resolve_toldApart.1 _ {} [] [namesakes [0]] (namesakes [0, 1]) hcons
          (fun e he => absurd he (not_mem_error_of_all_isOk hreplies e)) a v hrun 0 (by decide) 1
          (by decide) (by decide)
    | error e v =>
        rw [hrun] at hok
        exact absurd hok Bool.false_ne_true
  · intro s hs
    have hreplies : (runCalls SessionCall.run [.process (.ofIds ["a"] 1), .nocite ["b"]]
        Session.sameText).1.all (·.isOk) = true := by cbv
    have hmentioned : (runCalls SessionCall.run [.process (.ofIds ["a"] 1), .nocite ["b"]]
        Session.sameText).2.history.mentioned = [0, 1] := by cbv
    rw [← hs] at hmentioned
    exact resolve_toldApart.2 _ _ _ _ _ _
      (fun e he => absurd he (not_mem_error_of_all_isOk hreplies e)) s hs 0
      (by rw [hmentioned]; decide) 1 (by rw [hmentioned]; decide) (by decide)

end Disambiguation

end CslProcessor
