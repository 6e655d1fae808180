import CslProcessor.Proofs.Disambiguation.Passes

/-!
# Telling Entries apart bit by bit

A resolution looks only at entries that are new and at those that change. That this is enough is
due to what it leaves behind: a tracker that is `Settled` has the right books, no two of its
entries look alike, and all their letters are in order.

Two trackers that are settled, or make no claim to be, give the same outcome from the same states,
whatever they know already. In particular a tracker may forget everything at any time. The outcome
says what there is to see of a resolution: what it reports, the states it leaves, and why it fails
if it does.

The number of passes is a parameter here, since none of this depends on it.

## Main definitions

* `Tracker.Settled`, `Tracker.Rests`: What a resolution relies on.
* `Tracker.begin`: A tracker as a resolution starts from it.
* `resolveWithin`: A resolution with a given number of passes.
* `Resolved`, `SameOutcome`: What a resolution leaves behind.

## Theorems

* `trackAll_cases`: Starting to track entries fails as rendering them does.
* `passes_lockstep`: Passes over more entries do the same.
* `resolveWithin_sameOutcome`: The outcome depends on the states only.
-/

namespace CslProcessor

namespace Disambiguation

variable {ε : Type} {p : Policy} {r : KeyRenderer ε} {order : List Nat}

/-! ## Tracking new entries -/

/-- Both keys of an entry under a state. -/
def bothKeys (r : KeyRenderer ε) (i : Nat) (d : EntryDisambiguation) :
    Except ε (String × String) := do
  let key ← r.key i d
  let base ← r.key i d.withoutSuffix
  return (key, base)

/-- Renders both keys of several entries. -/
def renderAll (r : KeyRenderer ε) (σ : States) : List Nat → Except ε Unit
  | [] => return ()
  | i :: rest => do
    let _ ← bothKeys r i (σ i)
    renderAll r σ rest

-- The keys of a tracked entry can be rendered.
theorem Tracker.Knows.bothKeys_ok {known : List Nat} {t : Tracker} (h : t.Knows r known) {i : Nat}
    (htr : t.tracks i = true) : ∃ keys, bothKeys r i (t.state i) = .ok keys := by
  rcases Tracker.tracks_eq_true_iff.1 htr with ⟨key, hkey⟩
  rcases h.exists_base htr with ⟨base, hbase⟩
  refine ⟨(key, base), ?_⟩
  rw [bothKeys, (h.current i key hkey).2, h.base i base hbase]
  rfl

-- Starting to track an entry fails as rendering its keys does.
theorem track_cases {known : List Nat} {t : Tracker} (h : t.Knows r known) {i : Nat}
    (hi : i ∈ known) :
    (∃ keys v, bothKeys r i (t.state i) = .ok keys ∧ track r i t = .ok ⟨⟩ v ∧ v.Knows r known ∧
      t.Tracked i v) ∨
    (∃ e v, bothKeys r i (t.state i) = .error e ∧ track r i t = .error (.rendering e) v) := by
  unfold bothKeys track
  rw [get_bind]
  rcases keyOf_cases h hi (t.state i) with ⟨key, v, hk, ht, hv, htv⟩ | ⟨e, v, hk, ht⟩
  · rw [hk, bind_of_ok ht]
    rcases keyOf_cases hv hi (t.state i).withoutSuffix with
      ⟨base, w, hb, hu, hw, hvw⟩ | ⟨e, w, hb, hu⟩
    · rw [hb, bind_of_ok hu]
      have hcache := hvw.trans htv
      have hst := Tracker.state_eq_of_withoutCache hcache
      have htt := Tracker.tracks_eq_of_withoutCache hcache
      have hr := Tracker.renderer_eq_of_withoutCache hcache
      refine Or.inl ⟨_, _, rfl, rfl, hw.place hi (by rw [hst]; exact hk) (by rw [hst]; exact hb),
        hst, fun j => ?_, hr⟩
      rw [Tracker.tracks_place, htt]
    · rw [hb, bind_of_error hu]
      exact Or.inr ⟨e, w, rfl, rfl⟩
  · rw [hk, bind_of_error ht]
    exact Or.inr ⟨e, v, rfl, rfl⟩

/-- Starting to track the entries that are not tracked yet fails as rendering the keys of all of
    them does, since those of tracked entries can be rendered. -/
theorem trackAll_cases {known : List Nat} (l : List Nat) (hnd : l.Nodup)
    (hl : ∀ i ∈ l, i ∈ known) :
    ∀ t : Tracker, t.Knows r known →
      (∃ v, renderAll r t.state l = .ok ⟨⟩ ∧ trackAll r (l.filter (!t.tracks ·)) t = .ok ⟨⟩ v ∧
        v.Knows r known ∧ v.state = t.state ∧ (∀ j, v.tracks j = (l.contains j || t.tracks j)) ∧
        v.renderer = t.renderer) ∨
      (∃ e v, renderAll r t.state l = .error e ∧
        trackAll r (l.filter (!t.tracks ·)) t = .error (.rendering e) v) := by
  induction l with
  | nil =>
      intro t h
      exact Or.inl ⟨t, rfl, rfl, h, rfl, fun j => by simp, rfl⟩
  | cons i rest ih =>
      intro t h
      rw [List.nodup_cons] at hnd
      have hi := hl i List.mem_cons_self
      have hrest : ∀ j ∈ rest, j ∈ known := fun j hj => hl j (List.mem_cons_of_mem _ hj)
      rw [renderAll]
      cases htr : t.tracks i with
      | true =>
          -- A tracked entry is passed over, and its keys can be rendered.
          rcases h.bothKeys_ok htr with ⟨keys, hkeys⟩
          rw [hkeys, List.filter_cons_of_neg (by rw [htr]; simp)]
          rcases ih hnd.2 hrest t h with ⟨v, hren, htrack, hv, hst, htracks, hr⟩ | hfail
          · refine Or.inl ⟨v, hren, htrack, hv, hst, fun j => ?_, hr⟩
            rw [htracks, List.contains_cons]
            by_cases hj : j = i
            · rw [hj, htr, Bool.or_true, Bool.or_true]
            · rw [beq_false_of_ne hj, Bool.false_or]
          · exact Or.inr hfail
      | false =>
          rw [List.filter_cons_of_pos (by rw [htr]; rfl), trackAll]
          rcases track_cases h hi with
            ⟨keys, v, hkeys, htrack, hv, hst, htracks, hr⟩ | ⟨e, v, hkeys, htrack⟩
          · rw [hkeys, bind_of_ok htrack]
            -- The entries behind this one are tracked as much as before.
            have hsame : rest.filter (!t.tracks ·) = rest.filter (!v.tracks ·) := by
              refine List.filter_congr fun j hj => ?_
              have hne : j ≠ i := fun heq => hnd.1 (heq ▸ hj)
              rw [htracks, beq_false_of_ne hne, Bool.false_or]
            rw [hsame, ← hst]
            rcases ih hnd.2 hrest v hv with ⟨w, hren, htrack', hw, hst', htracks', hr'⟩ | hfail
            · refine Or.inl ⟨w, hren, htrack', hw, hst', fun j => ?_, hr'.trans hr⟩
              rw [htracks', htracks, List.contains_cons]
              cases rest.contains j <;> cases (j == i) <;> rfl
            · exact Or.inr hfail
          · rw [hkeys, bind_of_error htrack]
            exact Or.inr ⟨e, v, rfl, rfl⟩

/-! ## Passes over some entries and over others -/

/-- What passes leave behind when they start with different entries. -/
structure Passed (p : Policy) (r : KeyRenderer ε) (order checked checked' affected : List Nat)
    (t : Tracker) (a b : List Nat × List Nat) (v w : Tracker) : Prop where
  same : a.2 = b.2
  paired : v.Paired r order w
  affected : ∀ i ∈ affected, i ∈ a.2
  moved : ∃ c, t.Progress p r order c v ∧ (∀ i, i ∈ a.1 ↔ i ∈ checked ∨ i ∈ c) ∧
    (∀ i, i ∈ b.1 ↔ i ∈ checked' ∨ i ∈ c) ∧ ∀ i ∈ c, i ∈ a.2

/-- Passes over some entries do what passes over others do, if both find the same lookalikes and
    the letters of all other entries are in order. After a pass all letters are in order. -/
theorem passes_lockstep (hnd : order.Nodup) (n : Nat) :
    ∀ (touched touched' checked checked' affected : List Nat) (t u : Tracker),
      t.Paired r order u → t.collisions order touched = t.collisions order touched' →
      Lettered r order t.state touched → Lettered r order t.state touched' →
      Lockstep (fun a b v w => (0 < n ∨ Lettered r order t.state [] → Lettered r order v.state []) ∧
        Passed p r order checked checked' affected t a b v w)
        (passes p r order n touched checked affected t)
        (passes p r order n touched' checked' affected u) := by
  induction n with
  | zero =>
      intro touched touched' checked checked' affected t u h _ _ _
      refine ⟨fun hl => hl.resolve_left (Nat.lt_irrefl 0), rfl, h, fun _ hi => hi, [],
        Tracker.Progress.refl t, ?_, ?_, ?_⟩ <;> simp
  | succ n ih =>
      intro touched touched' checked checked' affected t u h hcoll hl hl'
      rw [passes_succ, passes_succ]
      refine (pass_advances (p := p) hnd h hcoll hl hl').bind ?_
      rintro s _ v w ⟨hlettered, -, rfl, hvw, hprog⟩
      by_cases hdone : s.changed.isEmpty = true
      · -- The last pass: nothing has moved in it.
        simp only [if_pos hdone]
        rw [List.isEmpty_iff] at hdone
        refine ⟨fun _ => hlettered, rfl, hvw, fun i hi => ?_, s.changed, hprog, ?_, ?_, ?_⟩
        · simp only [ListSet.mem_union, hi, or_true]
        all_goals simp [hdone]
      · -- From here on both runs look at the same entries.
        simp only [if_neg hdone]
        refine (ih s.changed s.changed _ _ _ v w hvw rfl (hlettered.mono (by simp))
          (hlettered.mono (by simp))).mono ?_
        rintro a b v' w' ⟨hl'', hpassed⟩
        rcases hpassed.moved with ⟨c, hprog', hca, hcb, hcaff⟩
        refine ⟨fun _ => hl'' (Or.inr hlettered), hpassed.same, hpassed.paired, fun i hi => ?_,
          ListSet.union s.changed c, hprog.trans hprog' (fun i => ListSet.mem_union), ?_, ?_, ?_⟩
        · refine hpassed.affected i ?_
          simp only [ListSet.mem_union, hi, or_true]
        · intro i
          rw [hca, ListSet.mem_union, ListSet.mem_union, or_assoc, or_left_comm]
        · intro i
          rw [hcb, ListSet.mem_union, ListSet.mem_union, or_assoc, or_left_comm]
        · intro i hi
          rcases ListSet.mem_union.1 hi with hi | hi
          · exact hpassed.affected i (ListSet.mem_union.2 (Or.inl hi))
          · exact hcaff i hi

/-! ## Resolutions -/

namespace Tracker

/-- A tracker with the right books, in which no two entries look alike and all letters are in
    order. -/
structure Settled (r : KeyRenderer ε) (t : Tracker) : Prop where
  knows : t.Knows r (Assoc.keys t.current)
  separated : Separated r (Assoc.keys t.current) t.state []
  lettered : Lettered r (Assoc.keys t.current) t.state []

/-- A tracker that is settled, if it claims to know the renderer at all. -/
def Rests (r : KeyRenderer ε) (t : Tracker) : Prop :=
  t.renderer = some r.id → t.Settled r

theorem mem_keys_current_iff {t : Tracker} {i : Nat} :
    i ∈ Assoc.keys t.current ↔ t.tracks i = true :=
  Assoc.mem_keys_iff

-- A tracker without books is settled.
theorem Settled.reset (r : KeyRenderer ε) (t : Tracker) (id : Option Nat) :
    (t.reset id).Settled r where
  knows := Knows.reset r _ t id
  separated := fun _ hi => absurd hi List.not_mem_nil
  lettered := fun _ hi => absurd hi List.not_mem_nil

-- A tracker that forgets its books rests.
theorem Rests.reset (r : KeyRenderer ε) (t : Tracker) (id : Option Nat) : (t.reset id).Rests r :=
  fun _ => Settled.reset r t id

-- A tracker that claims nothing rests.
theorem Rests.of_none {t : Tracker} (h : t.renderer = none) : t.Rests r := by
  intro hr
  rw [h] at hr
  exact absurd hr (Option.some_ne_none _).symm

-- Resting depends on nothing but the keys that are rendered.
theorem Rests.congr {r' : KeyRenderer ε} {t : Tracker} (h : t.Rests r) (hid : r'.id = r.id)
    (hkey : r'.key = r.key) : t.Rests r' := by
  intro hr
  rcases h (by rw [hr, hid]) with ⟨hknows, hsep, hlet⟩
  refine ⟨hknows.mono (fun _ hi => hi) (fun i _ d => by rw [hkey]), ?_, ?_⟩
  · simpa only [Separated, LooksAlike, hkey] using hsep
  · simpa only [Lettered, LooksAlike, hkey] using hlet

/-- The tracker that a resolution starts from: one that forgets its books if they are another
    renderer's or tell of an entry that is gone. -/
def begin (r : KeyRenderer ε) (order : List Nat) (t : Tracker) : Tracker :=
  if t.renderer == some r.id && (Assoc.keys t.current).all order.contains then t
  else t.reset (some r.id)

/-- What a resolution starts from: right books, and no need to look at tracked entries. -/
structure Ready (r : KeyRenderer ε) (order : List Nat) (t : Tracker) : Prop where
  knows : t.Knows r order
  renderer : t.renderer = some r.id
  separated : Separated r order t.state (order.filter (!t.tracks ·))
  lettered : Lettered r order t.state (order.filter (!t.tracks ·))

theorem state_begin (r : KeyRenderer ε) (order : List Nat) (t : Tracker) :
    (t.begin r order).state = t.state := by
  unfold begin
  split <;> rfl

-- An entry of the order that is not new is tracked.
theorem tracks_of_not_mem_fresh {t : Tracker} {i : Nat} (hi : i ∈ order)
    (hfresh : i ∉ order.filter (!t.tracks ·)) : t.tracks i = true := by
  rw [List.mem_filter, not_and, Bool.not_eq_true, Bool.not_eq_false'] at hfresh
  exact hfresh hi

-- A tracker that is settled and tells of no other entries is what a resolution starts from.
theorem Settled.ready {t : Tracker} (h : t.Settled r) (hr : t.renderer = some r.id)
    (hsub : ∀ i, t.tracks i = true → i ∈ order) : t.Ready r order := by
  have htracked : ∀ i ∈ order, i ∉ order.filter (!t.tracks ·) → i ∈ Assoc.keys t.current :=
    fun i hi hfresh => mem_keys_current_iff.2 (tracks_of_not_mem_fresh hi hfresh)
  refine ⟨h.knows.mono (fun i hi => hsub i (mem_keys_current_iff.1 hi)) (fun _ _ _ => rfl), hr,
    ?_, ?_⟩
  · intro i hi j hj hij hni hnj
    exact h.separated i (htracked i hi hni) j (htracked j hj hnj) hij List.not_mem_nil
      List.not_mem_nil
  · intro i hi j hj hij hni hnj
    exact h.lettered i (htracked i hi hni) j (htracked j hj hnj) hij List.not_mem_nil
      List.not_mem_nil

theorem Rests.begin {t : Tracker} (h : t.Rests r) (order : List Nat) :
    (t.begin r order).Ready r order := by
  unfold Tracker.begin
  split
  · rename_i hcond
    rw [Bool.and_eq_true, beq_iff_eq, List.all_eq_true] at hcond
    exact (h hcond.1).ready hcond.1
      (fun i hi => List.contains_iff_mem.1 (hcond.2 i (mem_keys_current_iff.2 hi)))
  · refine (Settled.reset r t _).ready rfl (fun i hi => ?_)
    exact absurd hi Bool.false_ne_true

end Tracker

/-- What a resolution does after its passes. -/
def conclude (order : List Nat) (cited fresh : Nat) (checked affected : List Nat) :
    Resolving ε Resolution := do
  let remaining := (← get).collisions order checked
  unless remaining.isEmpty do
    modify (·.reset none)
    throw (.stillAlike (ListSet.sorted remaining.flatten))
  return { affected, cited, fresh }

/-- A resolution with a given number of passes. -/
def resolveWithin (n : Nat) (p : Policy) (r : KeyRenderer ε) (entries : List Nat) :
    Resolving ε Resolution := do
  let order := ListSet.lastOccurrences entries
  modify (·.begin r order)
  let fresh := order.filter (!(← get).tracks ·)
  trackAll r fresh
  let (checked, affected) ← passes p r order n fresh fresh []
  conclude order entries.length fresh.length checked affected

-- A resolution is one with the number of passes that there are at most.
theorem resolve_eq_resolveWithin (p : Policy) (r : KeyRenderer ε) (entries : List Nat) :
    resolve p r entries = resolveWithin maxPasses p r entries := by
  funext t
  unfold resolve resolveWithin
  simp only [get_bind, modify_bind]
  by_cases hcond : (t.renderer == some r.id &&
      (Assoc.keys t.current).all (ListSet.lastOccurrences entries).contains) = true
  · rw [Tracker.begin, if_pos hcond]
    simp only [hcond]
    rfl
  · rw [Tracker.begin, if_neg hcond]
    simp only [hcond]
    rfl

theorem conclude_of_nil {t : Tracker} {checked : List Nat} (h : t.collisions order checked = [])
    (cited fresh : Nat) (affected : List Nat) :
    (conclude order cited fresh checked affected : Resolving ε Resolution) t =
      .ok { affected, cited, fresh } t := by
  rw [conclude, get_bind, h]
  rfl

theorem conclude_of_ne_nil {t : Tracker} {checked : List Nat}
    (h : t.collisions order checked ≠ []) (cited fresh : Nat) (affected : List Nat) :
    (conclude order cited fresh checked affected : Resolving ε Resolution) t =
      .error (.stillAlike (ListSet.sorted (t.collisions order checked).flatten))
        (t.reset none) := by
  rw [conclude, get_bind]
  have hne : (t.collisions order checked).isEmpty = false := by
    rw [← Bool.not_eq_true, List.isEmpty_iff]
    exact h
  simp only [hne]
  rfl

-- Looking at some entries finds all lookalikes if no two others look alike.
theorem Tracker.Paired.collisions_eq_lookalikes {t u : Tracker} (h : t.Paired r order u)
    (hnd : order.Nodup) {touched : List Nat} (hs : Separated r order t.state touched) :
    t.collisions order touched = lookalikes t.current order := by
  rw [h.left.collisions_eq hnd, List.filter_eq_self]
  intro g hg
  have hsub := (sublist_of_mem_lookalikes hg).subset
  rcases exists_ne_of_mem_lookalikes hnd hg with ⟨i, hi, j, hj, hij⟩
  by_contra hnone
  have hout : ∀ k ∈ g, k ∉ touched := by
    intro k hk hmem
    exact hnone (List.any_eq_true.2 ⟨k, hk, List.contains_iff_mem.2 hmem⟩)
  exact hs i (hsub hi) j (hsub hj) hij (hout i hi) (hout j hj) (h.looksAlike hg hi hj)

-- Where there are no lookalikes no two entries look alike.
theorem Tracker.Paired.separated {t u : Tracker} (h : t.Paired r order u)
    (hnone : lookalikes t.current order = []) : Separated r order t.state [] := by
  intro i hi j hj hij _ _ halike
  rcases h.exists_group hi hj hij halike with ⟨g, hg, -, -⟩
  rw [hnone] at hg
  exact List.not_mem_nil hg

-- Entries apart from which no two look alike, together with those that have moved since.
theorem Separated.progress {t v : Tracker} {touched checked c : List Nat}
    (h : Separated r order t.state touched) (hprog : t.Progress p r order c v)
    (hc : ∀ i, i ∈ checked ↔ i ∈ touched ∨ i ∈ c) : Separated r order v.state checked := by
  intro i hi j hj hij hni hnj halike
  rw [hc, not_or] at hni hnj
  exact h i hi j hj hij hni.1 hnj.1
    (halike.congr (hprog.state_eq hni.2).symm (hprog.state_eq hnj.2).symm)

/-- What a resolution leaves behind: the books of all entries, no two entries that look alike, all
    letters in order, and the states of all entries that are not reported as they were. -/
structure Resolved (r : KeyRenderer ε) (order : List Nat) (t : Tracker) (affected : List Nat)
    (v : Tracker) : Prop where
  knows : v.Knows r order
  tracked : ∀ i ∈ order, v.tracks i = true
  renderer : v.renderer = some r.id
  separated : Separated r order v.state []
  lettered : Lettered r order v.state []
  state_eq : ∀ i, i ∉ affected → v.state i = t.state i

-- A tracker that is left behind is settled.
theorem Resolved.settled {t v : Tracker} {affected : List Nat}
    (h : Resolved r order t affected v) : v.Settled r := by
  have hmem : ∀ i, i ∈ Assoc.keys v.current ↔ i ∈ order := by
    intro i
    rw [Tracker.mem_keys_current_iff]
    exact ⟨h.knows.mem_of_tracks, h.tracked i⟩
  refine ⟨h.knows.mono (fun i hi => (hmem i).2 hi) (fun _ _ _ => rfl), ?_, ?_⟩
  · exact fun i hi j hj => h.separated i ((hmem i).1 hi) j ((hmem j).1 hj)
  · exact fun i hi j hj => h.lettered i ((hmem i).1 hi) j ((hmem j).1 hj)

/-- Two resolutions have the same outcome: they report the same entries and leave the same states
    behind, or they fail for the same reason. After lookalikes that are left over neither tracker
    claims to know a renderer. -/
def SameOutcome (r : KeyRenderer ε) (order : List Nat) (t : Tracker) :
    EStateM.Result (ResolveError ε) Tracker Resolution →
      EStateM.Result (ResolveError ε) Tracker Resolution → Prop
  | .ok a v, .ok b w => a.affected = b.affected ∧ v.state = w.state ∧
      Resolved r order t a.affected v ∧ Resolved r order t b.affected w
  | .error (.stillAlike is) v, .error (.stillAlike js) w => is = js ∧ v.state = w.state ∧
      v.renderer = none ∧ w.renderer = none
  | .error (.rendering e) _, .error (.rendering e') _ => e = e'
  | _, _ => False

-- The outcome of passes and of what comes after them is the same, whichever entries they start
-- with, as long as there is no need to look at the others.
theorem passes_sameOutcome (hnd : order.Nodup) {n : Nat} (hn : 0 < n) {t v w : Tracker}
    (h : v.Paired r order w) (hr : v.renderer = some r.id) (hst : v.state = t.state)
    {touched touched' : List Nat} (hs : Separated r order v.state touched)
    (hs' : Separated r order v.state touched') (hl : Lettered r order v.state touched)
    (hl' : Lettered r order v.state touched') (cited fresh fresh' : Nat) :
    SameOutcome r order t
      ((passes p r order n touched touched [] >>= fun x =>
        conclude order cited fresh x.1 x.2) v)
      ((passes p r order n touched' touched' [] >>= fun x =>
        conclude order cited fresh' x.1 x.2) w) := by
  have hcoll : v.collisions order touched = v.collisions order touched' := by
    rw [h.collisions_eq_lookalikes hnd hs, h.collisions_eq_lookalikes hnd hs']
  rcases (passes_lockstep (p := p) hnd n touched touched' touched touched' [] v w h hcoll hl
    hl').cases with ⟨a, v', b, w', hv, hw, hlettered, hpassed⟩ | ⟨e, v', w', hv, hw⟩
  · rw [bind_of_ok hv, bind_of_ok hw]
    rcases hpassed.moved with ⟨c, hprog, hca, hcb, hcaff⟩
    have hpaired := hpassed.paired
    have hlet := hlettered (Or.inl hn)
    -- Either run finds all lookalikes that are left over.
    have hleft := hpaired.collisions_eq_lookalikes hnd (hs.progress hprog hca)
    have hright : w'.collisions order b.1 = lookalikes v'.current order := by
      rw [← hpaired.toAgree.collisions_eq hnd]
      exact hpaired.collisions_eq_lookalikes hnd (hs'.progress hprog hcb)
    by_cases hnone : lookalikes v'.current order = []
    · rw [conclude_of_nil (hleft.trans hnone), conclude_of_nil (hright.trans hnone)]
      have hsep := hpaired.separated hnone
      have hframe : ∀ i, i ∉ a.2 → v'.state i = t.state i := by
        intro i hi
        rw [hprog.state_eq (fun hc => hi (hcaff i hc)), hst]
      have hrend : v'.renderer = some r.id := hprog.renderer.trans hr
      refine ⟨hpassed.same, hpaired.state, ⟨hpaired.left, hpaired.tracked, hrend, hsep, hlet,
        hframe⟩, hpaired.right, hpaired.symm.tracked, ?_, ?_, ?_, ?_⟩
      · rw [← hpaired.renderer, hrend]
      · rw [← hpaired.state]
        exact hsep
      · rw [← hpaired.state]
        exact hlet
      · rw [← hpaired.state, ← hpassed.same]
        exact hframe
    · rw [conclude_of_ne_nil (by rw [hleft]; exact hnone),
        conclude_of_ne_nil (by rw [hright]; exact hnone)]
      exact ⟨by rw [hleft, hright], hpaired.state, rfl, rfl⟩
  · rw [bind_of_error hv, bind_of_error hw]
    exact rfl

/-- The outcome of a resolution depends on nothing but the states. -/
theorem resolveWithin_sameOutcome {n : Nat} (hn : 0 < n) {t u : Tracker} (ht : t.Rests r)
    (hu : u.Rests r) (hs : t.state = u.state) (entries : List Nat) :
    SameOutcome r (ListSet.lastOccurrences entries) t (resolveWithin n p r entries t)
      (resolveWithin n p r entries u) := by
  have hnd := ListSet.nodup_lastOccurrences entries
  have hrt := ht.begin (ListSet.lastOccurrences entries)
  have hru := hu.begin (ListSet.lastOccurrences entries)
  unfold resolveWithin
  simp only [modify_bind, get_bind]
  have hst := Tracker.state_begin r (ListSet.lastOccurrences entries) t
  have hsu := Tracker.state_begin r (ListSet.lastOccurrences entries) u
  generalize ListSet.lastOccurrences entries = order at *
  generalize t.begin r order = t' at *
  generalize u.begin r order = u' at *
  have hsame : u'.state = t'.state := by rw [hst, hsu, hs]
  have hsub : ∀ i ∈ order, i ∈ order := fun _ hi => hi
  rcases trackAll_cases order hnd hsub t' hrt.knows with
    ⟨v, hren, htrack, hv, hsv, htv, hrv⟩ | ⟨e, v, hren, htrack⟩
  · rcases trackAll_cases order hnd hsub u' hru.knows with
      ⟨w, -, htrack', hw, hsw, htw, hrw⟩ | ⟨e, w, hren', -⟩
    · rw [bind_of_ok htrack, bind_of_ok htrack']
      have hall : ∀ i ∈ order, order.contains i = true := fun i hi => List.contains_iff_mem.2 hi
      have hpaired : v.Paired r order w := by
        refine hv.paired hw ?_ ?_ (fun i hi => ?_) (fun i hi => ?_)
        · rw [hsv, hsw, hsame]
        · rw [hrv, hrw, hrt.renderer, hru.renderer]
        · rw [htv, hall i hi, Bool.true_or]
        · rw [htw, hall i hi, Bool.true_or]
      have hsw' : v.state = u'.state := hsv.trans hsame.symm
      refine passes_sameOutcome hnd hn hpaired (hrv.trans hrt.renderer) (hsv.trans hst) ?_ ?_ ?_
        ?_ _ _ _
      · rw [hsv]
        exact hrt.separated
      · rw [hsw']
        exact hru.separated
      · rw [hsv]
        exact hrt.lettered
      · rw [hsw']
        exact hru.lettered
    · -- Whether the keys can be rendered does not depend on the tracker.
      rw [hsame, hren] at hren'
      exact absurd hren' (by simp only [reduceCtorEq, not_false_eq_true])
  · rcases trackAll_cases order hnd hsub u' hru.knows with
      ⟨w, hren', -⟩ | ⟨e', w, hren', htrack'⟩
    · rw [hsame, hren] at hren'
      exact absurd hren' (by simp only [reduceCtorEq, not_false_eq_true])
    · rw [bind_of_error htrack, bind_of_error htrack']
      rw [hsame, hren, Except.error.injEq] at hren'
      exact hren'

end Disambiguation

end CslProcessor
