import CslProcessor.Proofs.Disambiguation.Histories
import CslProcessor.Proofs.Disambiguation.Points

/-!
# Books That Mirror the Tracked Entries

A tracker keeps its keys twice: by entry, and in buckets by key. The keys tell of states, which are
kept apart from both, and a change of state goes through all of them one after the other. Between
any two operations of a resolution the books are nevertheless right: `Tracker.Mirrored` says that
the keys are those of the present states and that the buckets hold exactly the entries with their
keys, none of them empty.

No assumption on the operations is needed for that. Each of them leaves right books behind, also one
that fails since a key cannot be rendered, because the entry is dropped before its keys are asked
for. Which entries are tracked depends on the resolution, however. New entries are tracked one by
one, from then on nothing but states and keys of the tracked entries changes, and giving up drops
them all.

## Main definitions

* `Tracker.Mirrored`: The books tell of the present states of the tracked entries.
* `Tracker.Serves`: A tracker has right books for a renderer, or claims nothing.
* `Tracker.TracksExactly`: Some entries are tracked and no others.
* `LeavesTracked`: The entries that are tracked after a resolution.

## Theorems

* `Operation.serves`: Every operation leaves right books.
* `kept_tracksExactly`: Asking for keys and giving states to tracked entries keeps what is tracked.
* `resolve_serves`: So does a resolution as a whole, if it starts from books that it may rely on.
* `mirrored_throughout`: The books are right at all points of all resolutions.
-/

namespace CslProcessor

namespace Disambiguation

variable {ε : Type} {p : Policy} {r : KeyRenderer ε} {entries order : List Nat}

namespace Tracker

/-- The books of a tracker tell of the present states of the tracked entries, as a renderer shows
    them, and of nothing else. -/
structure Mirrored (r : KeyRenderer ε) (t : Tracker) : Prop where
  current : ∀ i, t.tracks i = true →
    ∃ key, t.current.lookup i = some key ∧ r.key i (t.state i) = .ok key
  base : ∀ i, t.tracks i = true →
    ∃ key, t.base.lookup i = some key ∧ r.key i (t.state i).withoutSuffix = .ok key
  both : ∀ i, (t.base.lookup i).isSome = t.tracks i
  buckets : t.buckets.Mirrors t.current
  baseBuckets : t.baseBuckets.Mirrors t.base

theorem Knows.mirrored {known : List Nat} {t : Tracker} (h : t.Knows r known) :
    t.Mirrored r where
  current := fun i hi => by
    rcases tracks_eq_true_iff.1 hi with ⟨key, hkey⟩
    exact ⟨key, hkey, (h.current i key hkey).2⟩
  base := fun i hi => by
    rcases h.exists_base hi with ⟨key, hkey⟩
    exact ⟨key, hkey, h.base i key hkey⟩
  both := h.both
  buckets := h.buckets
  baseBuckets := h.baseBuckets

/-- A tracker has right books for a renderer. It claims to know that renderer or none. -/
structure Serves (r : KeyRenderer ε) (t : Tracker) : Prop where
  renderer : t.renderer = some r.id ∨ t.renderer = none
  knows : ∃ known, t.Knows r known

theorem Serves.mirrored {t : Tracker} (h : t.Serves r) : t.Mirrored r := by
  rcases h.knows with ⟨known, hknows⟩
  exact hknows.mirrored

-- More entries can always be counted among the known ones.
theorem Serves.knows_of {t : Tracker} (h : t.Serves r) (i : Nat) :
    ∃ known, i ∈ known ∧ t.Knows r known := by
  rcases h.knows with ⟨known, hknows⟩
  exact ⟨i :: known, List.mem_cons_self,
    hknows.mono (fun _ hj => List.mem_cons_of_mem _ hj) (fun _ _ _ => rfl)⟩

-- Forgetting leaves nothing that could be wrong.
theorem Serves.reset (t : Tracker) {id : Option Nat} (hid : id = some r.id ∨ id = none) :
    (t.reset id).Serves r :=
  ⟨hid, [], Knows.reset r [] t id⟩

/-- A tracker can be relied on by a renderer: its books are right if it claims to know it. -/
def Reliable (r : KeyRenderer ε) (t : Tracker) : Prop :=
  t.renderer = some r.id → ∃ known, t.Knows r known

theorem Serves.reliable {r' : KeyRenderer ε} {t : Tracker} (h : t.Serves r)
    (hkey : r'.id = r.id → r'.key = r.key) : t.Reliable r' := by
  intro hr
  rcases h.knows with ⟨known, hknows⟩
  rcases h.renderer with hid | hid
  · rw [hid, Option.some.injEq] at hr
    exact ⟨known, hknows.mono (fun _ hi => hi) (fun i _ d => by rw [hkey hr.symm])⟩
  · rw [hid] at hr
    exact absurd hr (by simp only [reduceCtorEq, not_false_eq_true])

-- A resolution begins with books that are right.
theorem Reliable.begin {t : Tracker} (h : t.Reliable r) (order : List Nat) :
    (t.begin r order).Serves r := by
  unfold Tracker.begin
  split
  · rename_i hcond
    rw [Bool.and_eq_true, beq_iff_eq] at hcond
    exact ⟨Or.inl hcond.1, h hcond.1⟩
  · exact Serves.reset t (Or.inl rfl)

end Tracker

/-! ## Right books after every operation -/

open Tracker

-- A key that cannot be rendered is not put into the cache.
theorem keyOf_eq_error {i : Nat} {d : EntryDisambiguation} {t v : Tracker} {e : ResolveError ε}
    (h : keyOf r i d t = .error e v) :
    (∃ e', e = .rendering e') ∧ v = { t with calls := (i, d) :: t.calls } := by
  unfold keyOf at h
  rw [get_bind] at h
  cases hc : t.keys.lookup (i, d) with
  | some key =>
      rw [hc] at h
      cases h
  | none =>
      rw [hc] at h
      simp only [modify_bind] at h
      cases hk : r.key i d with
      | ok key =>
          rw [hk] at h
          cases h
      | error e' =>
          rw [hk] at h
          injection h with he hv
          exact ⟨⟨e', he.symm⟩, hv.symm⟩

-- A key that was asked for is what the renderer shows, and the books stay right in any case.
theorem keyOf_serves {t : Tracker} (h : t.Serves r) (i : Nat) (d : EntryDisambiguation) :
    (∃ key v, keyOf r i d t = .ok key v ∧ r.key i d = .ok key ∧ v.Serves r ∧
      v.withoutCache = t.withoutCache) ∨ ∃ e v, keyOf r i d t = .error e v ∧ v.Serves r := by
  rcases h.knows_of i with ⟨known, hi, hknows⟩
  rcases keyOf_cases hknows hi d with ⟨key, v, hkey, hk, hv, htv⟩ | ⟨e, v, -, hk⟩
  · refine Or.inl ⟨key, v, hk, hkey, ⟨?_, known, hv⟩, htv⟩
    rw [renderer_eq_of_withoutCache htv]
    exact h.renderer
  · refine Or.inr ⟨_, v, hk, ?_⟩
    rw [(keyOf_eq_error hk).2]
    exact ⟨h.renderer, known, hknows.cached, hknows.current, hknows.base, hknows.both,
      hknows.buckets, hknows.baseBuckets⟩

-- An entry is placed only after both of its keys were rendered.
theorem track_serves {t : Tracker} (h : t.Serves r) (i : Nat) :
    (stateAfter (track r i t)).Serves r := by
  unfold track
  rw [get_bind]
  rcases keyOf_serves h i (t.state i) with ⟨key, v, hk, hkey, hv, htv⟩ | ⟨e, v, hk, hv⟩
  · rw [bind_of_ok hk]
    rcases keyOf_serves hv i (t.state i).withoutSuffix with
      ⟨base, w, hb, hbase, hw, hvw⟩ | ⟨e, w, hb, hw⟩
    · rw [bind_of_ok hb]
      rcases hw.knows_of i with ⟨known, hi, hknows⟩
      rw [← state_eq_of_withoutCache (hvw.trans htv)] at hkey hbase
      exact ⟨hw.renderer, known, hknows.place hi hkey hbase⟩
    · rw [bind_of_error hb]
      exact hw
  · rw [bind_of_error hk]
    exact hv

-- An entry whose state is written is dropped before its new keys are asked for.
theorem commit_serves {t : Tracker} (h : t.Serves r) (i : Nat) (d : EntryDisambiguation) :
    (stateAfter (commit r i d t)).Serves r := by
  unfold commit
  rw [get_bind]
  rcases t.update?_cases i d with ⟨hu, -⟩ | hu | ⟨e, hu⟩
  · rw [hu]
    exact h
  · rw [hu]
    simp only [set_bind]
    have hdropped : ((t.write i d).untrack i).Serves r := by
      rcases h.knows with ⟨known, hknows⟩
      exact ⟨h.renderer, known, hknows.untrack_write i d⟩
    have htracked := track_serves hdropped i
    cases htr : track r i ((t.write i d).untrack i) with
    | ok a v =>
        rw [htr] at htracked
        rw [bind_of_ok htr]
        exact htracked
    | error e v =>
        rw [htr] at htracked
        rw [bind_of_error htr]
        exact htracked
  · rw [hu]
    exact h

/-- Every operation leaves right books, also one that fails. -/
theorem Operation.serves (o : Operation) (t : Tracker) (h : t.Serves r) :
    (stateAfter (o.run r t)).Serves r := by
  cases o with
  | begin order =>
      rcases h.knows with ⟨known, hknows⟩
      exact Reliable.begin (fun _ => ⟨known, hknows⟩) order
  | track i => exact track_serves h i
  | key i d =>
      change (stateAfter (keyOf r i d t)).Serves r
      rcases keyOf_serves h i d with ⟨key, v, hk, -, hv, -⟩ | ⟨e, v, hk, hv⟩
      · rw [hk]
        exact hv
      · rw [hk]
        exact hv
  | commit i d => exact commit_serves h i d
  | giveUp indexes => exact Serves.reset t (Or.inr rfl)

/-- So all points of work that starts from right books have right books. -/
theorem Plan.serves {α : Type} {m : Resolving ε α} (x : Plan r m) {t : Tracker} (h : t.Serves r) :
    (∀ u ∈ x.points t, u.Serves r) ∧ (stateAfter (m t)).Serves r := by
  have hall := Work.forall_points Operation.serves x.work h
  rw [x.run_eq] at hall
  exact hall

/-! ## Tracked entries -/

/-- Some entries are tracked and no others. -/
def Tracker.TracksExactly (t : Tracker) (entries : List Nat) : Prop :=
  ∀ i, t.tracks i = true ↔ i ∈ entries

theorem keyOf_tracks {i : Nat} {d : EntryDisambiguation} {t v : Tracker} {key : String}
    (h : keyOf r i d t = .ok key v) : v.tracks = t.tracks :=
  tracks_eq_of_withoutCache (withoutCache_of_keyOf h)

theorem track_tracks {i : Nat} {t v : Tracker} {a : Unit} (h : track r i t = .ok a v) (j : Nat) :
    v.tracks j = (j == i || t.tracks j) := by
  unfold track at h
  rw [get_bind] at h
  rcases bind_eq_ok_iff.1 h with ⟨key, u, hkey, h⟩
  rcases bind_eq_ok_iff.1 h with ⟨base, w, hbase, h⟩
  injection h with _ hv
  rw [← hv, tracks_place, keyOf_tracks hbase, keyOf_tracks hkey]

-- Giving a tracked entry a state drops it and tracks it again.
theorem commit_tracks {i : Nat} {d : EntryDisambiguation} {t v : Tracker} {a : Bool}
    (h : commit r i d t = .ok a v) (hi : t.tracks i = true) : v.tracks = t.tracks := by
  unfold commit at h
  rw [get_bind] at h
  rcases t.update?_cases i d with ⟨hu, -⟩ | hu | ⟨e, hu⟩
  · rw [hu] at h
    injection h with _ hv
    rw [hv]
  · rw [hu] at h
    simp only [set_bind] at h
    rcases bind_eq_ok_iff.1 h with ⟨_, w, htrack, h⟩
    injection h with _ hv
    funext j
    rw [← hv, track_tracks htrack, tracks_untrack]
    change (j == i || (j != i && t.tracks j)) = t.tracks j
    by_cases hj : j = i
    · rw [hj, hi, beq_self_eq_true, Bool.true_or]
    · rw [beq_false_of_ne hj, Bool.false_or, bne_iff_ne.2 hj, Bool.true_and]
  · rw [hu] at h
    cases h

/-- Asking for keys and giving states to tracked entries keeps what is tracked. -/
theorem kept_tracksExactly (r : KeyRenderer ε) (entries : List Nat) :
    Kept r (ListSet.lastOccurrences entries) (·.TracksExactly entries) where
  key := fun i d t a u ht h j => by
    have htracks : u.tracks = t.tracks := keyOf_tracks h
    rw [htracks]
    exact ht j
  commit := fun i hi d t a u ht h j => by
    have hti : t.tracks i = true := (ht i).2 (ListSet.mem_lastOccurrences.1 hi)
    have htracks : u.tracks = t.tracks := commit_tracks h hti
    rw [htracks]
    exact ht j

theorem trackAll_tracks (l : List Nat) : ∀ {t v : Tracker} {a : Unit},
    trackAll r l t = .ok a v → ∀ j, v.tracks j = (l.contains j || t.tracks j) := by
  induction l with
  | nil =>
      intro t v a h j
      injection h with _ hv
      rw [← hv, List.contains_nil, Bool.false_or]
  | cons i rest ih =>
      intro t v a h j
      rw [trackAll] at h
      rcases bind_eq_ok_iff.1 h with ⟨_, u, htrack, h⟩
      rw [ih h, track_tracks htrack, List.contains_cons]
      cases rest.contains j <;> cases (j == i) <;> rfl

-- A resolution begins with none but its own entries.
theorem mem_of_tracks_begin {t : Tracker} {i : Nat} (h : (t.begin r order).tracks i = true) :
    i ∈ order := by
  unfold Tracker.begin at h
  split at h
  · rename_i hcond
    rw [Bool.and_eq_true, List.all_eq_true] at hcond
    exact List.contains_iff_mem.1 (hcond.2 i (mem_keys_current_iff.2 h))
  · exact absurd h Bool.false_ne_true

-- When the new entries are tracked all are.
theorem trackNew_tracks {t v : Tracker} {fresh : List Nat} (h : trackNew r order t = .ok fresh v)
    (ht : ∀ i, t.tracks i = true → i ∈ order) (i : Nat) : v.tracks i = true ↔ i ∈ order := by
  unfold trackNew at h
  rw [get_bind] at h
  rcases bind_eq_ok_iff.1 h with ⟨_, w, htrack, h⟩
  injection h with _ hv
  rw [← hv, trackAll_tracks _ htrack, Bool.or_eq_true, List.contains_iff_mem, List.mem_filter]
  constructor
  · exact fun hi => hi.elim And.left (ht i)
  · intro hi
    cases htr : t.tracks i with
    | true => exact Or.inr rfl
    | false => exact Or.inl ⟨hi, rfl⟩

-- No entries but those of the resolution are tracked while the new ones are.
theorem trackNewPlan_keeps (r : KeyRenderer ε) (order : List Nat) (t : Tracker) :
    (trackNewPlan r order).Keeps (fun u => ∀ i, u.tracks i = true → i ∈ order) t := by
  refine Plan.Keeps.look <| (trackAllPlan_keeps _ ?_ t).bind fun _ v _ => Plan.Keeps.pure _ v
  intro i hi u a v hu h j hj
  have htracks : v.tracks j = (j == i || u.tracks j) := track_tracks h j
  rw [htracks, Bool.or_eq_true, beq_iff_eq] at hj
  rcases hj with rfl | hj
  · exact (List.mem_filter.1 hi).1
  · exact hu j hj

/-! ## Operations that fail -/

theorem track_eq_error {i : Nat} {t v : Tracker} {e : ResolveError ε}
    (h : track r i t = .error e v) : (∃ e', e = .rendering e') ∧ v.tracks = t.tracks := by
  unfold track at h
  rw [get_bind] at h
  rcases bind_eq_error_iff.1 h with hkey | ⟨key, u, hkey, h⟩
  · rcases keyOf_eq_error hkey with ⟨he, hv⟩
    rw [hv]
    exact ⟨he, rfl⟩
  · rcases bind_eq_error_iff.1 h with hbase | ⟨base, w, hbase, h⟩
    · rcases keyOf_eq_error hbase with ⟨he, hv⟩
      rw [hv, ← keyOf_tracks hkey]
      exact ⟨he, rfl⟩
    · cases h

-- The first part of a resolution fails only if a key cannot be rendered.
theorem opening_eq_error {t v : Tracker} {e : ResolveError ε}
    (h : opening r entries t = .error e v) : e.IsRendering := by
  have hall : ∀ (l : List Nat) {u w : Tracker}, trackAll r l u = .error e w → e.IsRendering := by
    intro l
    induction l with
    | nil => exact fun h => nomatch h
    | cons i rest ih =>
        intro u w h
        rw [trackAll] at h
        rcases bind_eq_error_iff.1 h with htrack | ⟨_, u', -, h⟩
        · rcases (track_eq_error htrack).1 with ⟨e', rfl⟩
          exact trivial
        · exact ih h
  rw [opening, modify_bind, trackNew, get_bind] at h
  rcases bind_eq_error_iff.1 h with htrack | ⟨_, u, -, h⟩
  · exact hall _ htrack
  · cases h

/-- An operation that fails tracks no more entries than before, and none if it is giving up. -/
theorem Operation.tracks_of_error {o : Operation} {t v : Tracker} {e : ResolveError ε}
    (h : o.run r t = .error e v) :
    ((∃ indexes, e = .stillAlike indexes) ∧ v.TracksExactly []) ∨
      (∀ indexes, e ≠ .stillAlike indexes) ∧ ∀ i, v.tracks i = true → t.tracks i = true := by
  cases o with
  | begin order => cases h
  | track i =>
      rcases track_eq_error h with ⟨⟨e', rfl⟩, htracks⟩
      refine Or.inr ⟨nofun, fun j hj => ?_⟩
      rw [← htracks]
      exact hj
  | key i d =>
      rcases keyOf_eq_error h with ⟨⟨e', rfl⟩, rfl⟩
      exact Or.inr ⟨nofun, fun j hj => hj⟩
  | commit i d =>
      refine Or.inr ?_
      change Disambiguation.commit r i d t = .error e v at h
      unfold Disambiguation.commit at h
      rw [get_bind] at h
      rcases t.update?_cases i d with ⟨hu, -⟩ | hu | ⟨regress, hu⟩
      · rw [hu] at h
        cases h
      · rw [hu] at h
        simp only [set_bind] at h
        rcases bind_eq_error_iff.1 h with htrack | ⟨_, w, htrack, h⟩
        · rcases track_eq_error htrack with ⟨⟨e', rfl⟩, htracks⟩
          refine ⟨nofun, fun j hj => ?_⟩
          rw [htracks, tracks_untrack, Bool.and_eq_true] at hj
          exact hj.2
        · cases h
      · rw [hu] at h
        injection h with he hv
        rw [← he, ← hv]
        exact ⟨nofun, fun j hj => hj⟩
  | giveUp indexes =>
      injection h with he hv
      rw [← he, ← hv]
      refine Or.inl ⟨⟨indexes, rfl⟩, fun i => ?_⟩
      exact ⟨fun hi => absurd hi Bool.false_ne_true, fun hi => absurd hi List.not_mem_nil⟩

/-! ## Resolutions -/

-- All points of the first part of a resolution have right books, and so has its end.
theorem opening_serves {t : Tracker} (h : t.Reliable r) (entries : List Nat) :
    (∀ u ∈ (openingPlan r entries).points t, u.Serves r) ∧
      (stateAfter (opening r entries t)).Serves r := by
  have hbegin := h.begin (ListSet.lastOccurrences entries)
  rcases (trackNewPlan r (ListSet.lastOccurrences entries)).serves hbegin with ⟨hpoints, hend⟩
  rw [points_openingPlan]
  exact ⟨List.forall_mem_cons.2 ⟨hbegin, hpoints⟩, hend⟩

/-- A resolution leaves right books, also if it fails. -/
theorem resolve_serves {t : Tracker} (h : t.Reliable r) (entries : List Nat) :
    (stateAfter (resolve p r entries t)).Serves r := by
  have hopening := (opening_serves h entries).2
  rw [resolve_eq_opening_bind_separation]
  cases ho : opening r entries t with
  | ok fresh v =>
      rw [ho] at hopening
      rw [bind_of_ok ho]
      exact ((separationPlan p r entries fresh).serves hopening).2
  | error e v =>
      rw [ho] at hopening
      rw [bind_of_error ho]
      exact hopening

/-- A history of resolutions leaves books that every renderer may rely on that claims to be known,
    whether they have failed or not. -/
theorem runCalls_reliable {calls : List (ResolveCall ε)} {call : ResolveCall ε}
    (hcons : Consistent (call :: calls)) (states : Assoc Nat EntryDisambiguation) :
    (runCalls (ResolveCall.run p) calls { states }).2.Reliable call.renderer := by
  have hstep : ∀ c ∈ calls, ∀ t : Tracker, (∀ d ∈ call :: calls, t.Reliable d.renderer) →
      ∀ d ∈ call :: calls, (stateAfter (c.run p t)).Reliable d.renderer := by
    intro c hc t ht d hd
    have hmem : c ∈ call :: calls := List.mem_cons_of_mem _ hc
    exact (resolve_serves (ht c hmem) c.entries).reliable (hcons d hd c hmem)
  have hall := runCalls_invariant (I := fun t => ∀ d ∈ call :: calls, t.Reliable d.renderer)
    (B := fun _ => False) calls (fun c hc t ht _ => hstep c hc t ht) ({ states } : Tracker)
    (fun _ _ hr => absurd hr (by simp only [reduceCtorEq, not_false_eq_true]))
    (fun _ _ => not_false)
  exact hall call List.mem_cons_self

-- The first part of a resolution ends when all its entries are tracked.
theorem opening_tracksExactly {t v : Tracker} {fresh : List Nat}
    (h : opening r entries t = .ok fresh v) : v.TracksExactly entries := by
  rw [opening, modify_bind] at h
  intro i
  rw [trackNew_tracks h (fun _ => mem_of_tracks_begin), ListSet.mem_lastOccurrences]

/-- The entries that are tracked after a resolution: its own ones if it succeeded, none if it gave
    up, and none but its own ones if a key could not be rendered. It is not refused any state. -/
def LeavesTracked (entries : List Nat) :
    EStateM.Result (ResolveError ε) Tracker Resolution → Prop
  | .ok _ v => v.TracksExactly entries
  | .error (.stillAlike _) v => v.TracksExactly []
  | .error (.rendering _) v => ∀ i, v.tracks i = true → i ∈ entries
  | .error (.regress _) _ => False

-- Work that fails does so at one of its points, where no other entries are tracked.
theorem Plan.tracks_of_error {α : Type} {m : Resolving ε α} {x : Plan r m} {I : Tracker → Prop}
    {t v : Tracker} {e : ResolveError ε} (hx : x.Keeps I t) (ht : I t)
    (hI : ∀ u, I u → ∀ i, u.tracks i = true → i ∈ entries) (h : m t = .error e v) :
    ((∃ indexes, e = .stillAlike indexes) ∧ v.TracksExactly []) ∨
      (∀ indexes, e ≠ .stillAlike indexes) ∧ ∀ i, v.tracks i = true → i ∈ entries := by
  rw [← x.run_eq] at h
  rcases Work.run_eq_error h with ⟨o, u, hu, ho⟩
  have hIu : I u := by
    rcases hu with rfl | hu
    · exact ht
    · exact hx ht u hu
  exact (Operation.tracks_of_error ho).imp_right fun hsub =>
    ⟨hsub.1, fun i hi => hI u hIu i (hsub.2 i hi)⟩

theorem resolve_leavesTracked (p : Policy) (r : KeyRenderer ε) (entries : List Nat)
    (t : Tracker) : LeavesTracked entries (resolve p r entries t) := by
  have hregress := (resolve_growth p r entries t).1
  -- What is left after a failure, in either part.
  have hfailed : ∀ {e : ResolveError ε} {v : Tracker}, resolve p r entries t = .error e v →
      ((∃ indexes, e = .stillAlike indexes) ∧ v.TracksExactly [] ∨
        (∀ indexes, e ≠ .stillAlike indexes) ∧ ∀ i, v.tracks i = true → i ∈ entries) →
      LeavesTracked entries (.error e v : EStateM.Result _ _ Resolution) := by
    intro e v hrun hcases
    cases e with
    | rendering e =>
        rcases hcases with ⟨⟨indexes, he⟩, -⟩ | ⟨-, hsub⟩
        · cases he
        · exact hsub
    | regress e => exact absurd (by rw [hrun]; rfl) (hregress e)
    | stillAlike indexes =>
        rcases hcases with ⟨-, hnone⟩ | ⟨hne, -⟩
        · exact hnone
        · exact absurd rfl (hne indexes)
  cases hrun : resolve p r entries t with
  | ok a w =>
      rw [resolve_eq_opening_bind_separation] at hrun
      rcases bind_eq_ok_iff.1 hrun with ⟨fresh, v, ho, hsep⟩
      exact (separationPlan_keeps (kept_tracksExactly r entries) fresh v).of_ok
        (opening_tracksExactly ho) hsep
  | error e w =>
      refine hfailed hrun ?_
      rw [resolve_eq_opening_bind_separation] at hrun
      rcases bind_eq_error_iff.1 hrun with ho | ⟨fresh, v, ho, hsep⟩
      · refine (trackNewPlan r (ListSet.lastOccurrences entries)).tracks_of_error
          (trackNewPlan_keeps r _ _) (fun _ => mem_of_tracks_begin) ?_ ho
        exact fun u hu i hi => ListSet.mem_lastOccurrences.1 (hu i hi)
      · exact Plan.tracks_of_error (separationPlan_keeps (kept_tracksExactly r entries) fresh v)
          (opening_tracksExactly ho) (fun u hu i => (hu i).1) hsep

/-- The books mirror what is tracked at all points of any history of resolutions, however they
    ended. A resolution is its two parts. After every operation of the first part the keys are those
    of the present states, the buckets hold exactly the entries with their keys and none is empty,
    and no entries but those of the resolution are tracked. When this part ends, as it does unless a
    key cannot be rendered, and after every operation of the second part, exactly the entries of the
    resolution are tracked in addition. And so it is until the next resolution, unless it gave up:
    then no entry is tracked. -/
theorem mirrored_throughout (p : Policy) (states : Assoc Nat EntryDisambiguation)
    (calls : List (ResolveCall ε)) (call : ResolveCall ε) (hcons : Consistent (call :: calls)) :
    let t := (runCalls (ResolveCall.run p) calls { states }).2
    call.run p = (opening call.renderer call.entries >>=
      separation p call.renderer call.entries) ∧
    (∀ u ∈ (openingPlan call.renderer call.entries).points t,
      u.Mirrored call.renderer ∧ ∀ i, u.tracks i = true → i ∈ call.entries) ∧
    (∀ e v, opening call.renderer call.entries t = .error e v → e.IsRendering) ∧
    (∀ fresh v, opening call.renderer call.entries t = .ok fresh v →
      v.Mirrored call.renderer ∧ v.TracksExactly call.entries ∧
      ∀ u ∈ (separationPlan p call.renderer call.entries fresh).points v,
        u.Mirrored call.renderer ∧ u.TracksExactly call.entries) ∧
    (stateAfter (call.run p t)).Mirrored call.renderer ∧
    LeavesTracked call.entries (call.run p t) := by
  intro t
  have hreliable : t.Reliable call.renderer := runCalls_reliable hcons states
  rcases opening_serves hreliable call.entries with ⟨hpoints, hend⟩
  refine ⟨resolve_eq_opening_bind_separation p _ _, fun u hu => ⟨(hpoints u hu).mirrored, ?_⟩,
    fun e v => opening_eq_error, fun fresh v ho => ?_,
    (resolve_serves hreliable call.entries).mirrored, resolve_leavesTracked p _ _ t⟩
  · intro i hi
    rw [← ListSet.mem_lastOccurrences]
    rw [points_openingPlan] at hu
    rcases List.mem_cons.1 hu with rfl | hu
    · exact mem_of_tracks_begin hi
    · exact trackNewPlan_keeps _ _ _ (fun _ => mem_of_tracks_begin) u hu i hi
  · rw [ho] at hend
    have hv := opening_tracksExactly ho
    refine ⟨hend.mirrored, hv, fun u hu => ⟨?_, ?_⟩⟩
    · exact (((separationPlan p call.renderer call.entries fresh).serves hend).1 u hu).mirrored
    · exact separationPlan_keeps (kept_tracksExactly call.renderer call.entries) fresh v hv u hu

/-- The second of two namesakes is new, and both get letters: the first one moves to a bucket of its
    own, and then the second one leaves its bucket empty. -/
def namesakeBuckets : List Buckets :=
  [[("Doe 2020", [1]), ("Doe 2020a", [0])], [("Doe 2020a", [0]), ("Doe 2020b", [1])]]

set_option maxRecDepth 100000 in
theorem mirrored_throughout_namesakes :
    let t := (runCalls (ResolveCall.run {}) [namesakes [0]] {}).2
    ∃ v, opening (namesakes [0, 1]).renderer [0, 1] t = .ok [1] v ∧ v.TracksExactly [0, 1] ∧
      ((separationPlan {} (namesakes [0, 1]).renderer [0, 1] [1]).points v).map (·.buckets) =
        namesakeBuckets ∧
      ∀ u ∈ (separationPlan {} (namesakes [0, 1]).renderer [0, 1] [1]).points v,
        u.Mirrored (namesakes [0, 1]).renderer ∧ u.TracksExactly [0, 1] := by
  have hcons : Consistent [namesakes [0, 1], namesakes [0]] := by
    simp [Consistent, namesakes]
  have hfresh : replyOf (opening (namesakes [0, 1]).renderer [0, 1]
      (runCalls (ResolveCall.run {}) [namesakes [0]] ({ states := [] } : Tracker)).2) =
        .ok [1] := by decide +kernel
  have hbuckets : ((separationPlan {} (namesakes [0, 1]).renderer [0, 1] [1]).points
      (stateAfter (opening (namesakes [0, 1]).renderer [0, 1]
        (runCalls (ResolveCall.run {}) [namesakes [0]] ({ states := [] } : Tracker)).2))).map
          (·.buckets) = namesakeBuckets := by decide +kernel
  have hall := (mirrored_throughout {} [] [namesakes [0]] (namesakes [0, 1]) hcons).2.2.2.1
  intro t
  cases hrun : opening (namesakes [0, 1]).renderer [0, 1] t with
  | ok fresh v =>
      rw [hrun] at hfresh hbuckets
      rw [Except.ok.inj hfresh] at hrun ⊢
      have hmirrored := hall [1] v hrun
      exact ⟨v, rfl, hmirrored.2.1, hbuckets, hmirrored.2.2⟩
  | error e v =>
      rw [hrun] at hfresh
      exact absurd hfresh (by simp only [replyOf, reduceCtorEq, not_false_eq_true])

end Disambiguation

end CslProcessor
