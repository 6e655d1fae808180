import CslProcessor.Session.Call

/-!
# Work in Sequence

Work on a state that may fail, taken apart. What comes behind a piece of work starts where that
piece ended, and is not done if the piece failed. A run of calls is such a sequence too, with the
difference that a call that fails leaves its state to the calls after it. So an invariant of a run
has to survive failures, or at least those that the run has.

## Main definitions

* `replyOf`, `stateAfter`: What a call replies, and the state that it leaves.
* `SameReply`: Two pieces of work reply the same.

## Theorems

* `get_bind`, `set_bind`, `modify_bind`, `bind_of_ok`, `bind_of_error`: How work goes on.
* `bind_eq_ok_iff`, `bind_eq_error_iff`, `exceptBind_eq_ok_iff`, `exceptBind_eq_error_iff`: How work
  has gone on.
* `stateAfter_read`, `replyOf_read`: Reading something of the state at the end.
* `SameReply.bind`: Work that replies the same goes on replying the same.
* `runCalls_cons`: A run is one call after another.
* `runCalls_invariant`: What every call keeps holds after a run.
-/

namespace CslProcessor

variable {γ ε σ α β : Type}

/-- Reading the state goes on from the state that was read. -/
theorem get_bind (f : σ → EStateM ε σ α) (s : σ) : ((get : EStateM ε σ σ) >>= f) s = f s s := rfl

/-- Writing the state goes on from the state that was written. -/
theorem set_bind (s u : σ) (f : PUnit → EStateM ε σ α) :
    ((set s : EStateM ε σ PUnit) >>= f) u = f ⟨⟩ s := rfl

/-- Changing the state goes on from the state as it was changed. -/
theorem modify_bind (g : σ → σ) (s : σ) (f : PUnit → EStateM ε σ α) :
    ((modify g : EStateM ε σ PUnit) >>= f) s = f ⟨⟩ (g s) := rfl

-- Returning something goes on with it.
theorem pure_bind_apply (b : β) (s : σ) (f : β → EStateM ε σ α) :
    ((pure b : EStateM ε σ β) >>= f) s = f b s := rfl

/-- What comes behind a piece of work starts where that piece ended. -/
theorem bind_of_ok {m : EStateM ε σ α} {s u : σ} {a : α} (h : m s = .ok a u)
    (f : α → EStateM ε σ β) : (m >>= f) s = f a u := by
  change EStateM.bind m f s = f a u
  rw [EStateM.bind, h]

/-- What comes behind a piece of work that failed is not done. -/
theorem bind_of_error {m : EStateM ε σ α} {s u : σ} {e : ε} (h : m s = .error e u)
    (f : α → EStateM ε σ β) : (m >>= f) s = .error e u := by
  change EStateM.bind m f s = .error e u
  rw [EStateM.bind, h]

-- Work that begins alike goes on alike.
theorem bind_congr_of_eq {m m' : EStateM ε σ α} {s : σ} (h : m s = m' s)
    (f : α → EStateM ε σ β) : (m >>= f) s = (m' >>= f) s := by
  change EStateM.bind m f s = EStateM.bind m' f s
  rw [EStateM.bind, EStateM.bind, h]

/-- Work in sequence has succeeded if each piece of it has. -/
theorem bind_eq_ok_iff {m : EStateM ε σ α} {f : α → EStateM ε σ β} {s u : σ} {b : β} :
    (m >>= f) s = .ok b u ↔ ∃ a v, m s = .ok a v ∧ f a v = .ok b u := by
  cases hm : m s with
  | ok a v =>
      rw [bind_of_ok hm]
      constructor
      · exact fun h => ⟨a, v, rfl, h⟩
      · rintro ⟨a', v', heq, h⟩
        rw [EStateM.Result.ok.injEq] at heq
        rw [heq.1, heq.2]
        exact h
  | error e v =>
      rw [bind_of_error hm]
      simp only [reduceCtorEq, false_and, exists_false]

/-- Work in sequence has failed if a piece of it has. -/
theorem bind_eq_error_iff {m : EStateM ε σ α} {f : α → EStateM ε σ β} {s u : σ} {e : ε} :
    (m >>= f) s = .error e u ↔
      m s = .error e u ∨ ∃ a v, m s = .ok a v ∧ f a v = .error e u := by
  cases hm : m s with
  | ok a v =>
      rw [bind_of_ok hm]
      constructor
      · exact fun h => Or.inr ⟨a, v, rfl, h⟩
      · rintro (heq | ⟨a', v', heq, h⟩)
        · exact absurd heq (by simp only [reduceCtorEq, not_false_eq_true])
        · rw [EStateM.Result.ok.injEq] at heq
          rw [heq.1, heq.2]
          exact h
  | error e' v =>
      rw [bind_of_error hm]
      simp only [EStateM.Result.error.injEq, reduceCtorEq, false_and, exists_false, or_false]

-- The same of work without a state.
theorem exceptBind_eq_ok_iff {x : Except ε α} {f : α → Except ε β} {b : β} :
    (x >>= f) = .ok b ↔ ∃ a, x = .ok a ∧ f a = .ok b := by
  cases x with
  | ok a => exact ⟨fun h => ⟨a, rfl, h⟩, fun ⟨_, heq, h⟩ => Except.ok.inj heq ▸ h⟩
  | error e => exact ⟨nofun, nofun⟩

theorem exceptBind_eq_error_iff {x : Except ε α} {f : α → Except ε β} {e : ε} :
    (x >>= f) = .error e ↔ x = .error e ∨ ∃ a, x = .ok a ∧ f a = .error e := by
  cases x with
  | ok a =>
      rw [or_iff_right nofun]
      exact ⟨fun h => ⟨a, rfl, h⟩, fun ⟨_, heq, h⟩ => Except.ok.inj heq ▸ h⟩
  | error e' =>
      rw [or_iff_left nofun]
      exact ⟨fun h => Except.error.inj h ▸ rfl, fun h => Except.error.inj h ▸ rfl⟩

/-! ## Runs of calls -/

/-- The reply to a call. -/
def replyOf : EStateM.Result ε σ α → Except ε α
  | .ok a _ => .ok a
  | .error e _ => .error e

/-- The state after a call. -/
def stateAfter : EStateM.Result ε σ α → σ
  | .ok _ s => s
  | .error _ s => s

-- A reply that is a result comes from work that has succeeded.
theorem exists_ok_of_replyOf {x : EStateM.Result ε σ α} {a : α} (h : replyOf x = .ok a) :
    ∃ b s, x = .ok b s := by
  cases x with
  | ok b s => exact ⟨b, s, rfl⟩
  | error e s => cases h

/-- Reading something of the state at the end does not change it, and fails as the work before. -/
theorem stateAfter_read (m : EStateM ε σ α) (f : σ → α → β) (s : σ) :
    stateAfter ((do
      let a ← m
      return f (← get) a : EStateM ε σ β) s) = stateAfter (m s) := by
  cases h : m s with
  | ok a u =>
      rw [bind_of_ok h]
      rfl
  | error e u =>
      rw [bind_of_error h]
      rfl

theorem replyOf_read (m : EStateM ε σ α) (f : σ → α → β) (s : σ) :
    replyOf ((do
      let a ← m
      return f (← get) a : EStateM ε σ β) s) = (replyOf (m s)).map (f (stateAfter (m s))) := by
  cases h : m s with
  | ok a u =>
      rw [bind_of_ok h]
      rfl
  | error e u =>
      rw [bind_of_error h]
      rfl

/-- Two pieces of work reply the same, and the states that they leave stand in a relation. -/
def SameReply (R : σ → σ → Prop) (x y : EStateM.Result ε σ α) : Prop :=
  replyOf x = replyOf y ∧ R (stateAfter x) (stateAfter y)

/-- Work that replies the same goes on replying the same. -/
theorem SameReply.bind {R : σ → σ → Prop} {m m' : EStateM ε σ α} {f f' : α → EStateM ε σ β}
    {s u : σ} (h : SameReply R (m s) (m' u))
    (hf : ∀ a v w, R v w → SameReply R (f a v) (f' a w)) :
    SameReply R ((m >>= f) s) ((m' >>= f') u) := by
  cases hm : m s with
  | ok a v =>
      cases hm' : m' u with
      | ok b w =>
          rw [hm, hm'] at h
          rw [bind_of_ok hm, bind_of_ok hm', ← Except.ok.inj h.1]
          exact hf a v w h.2
      | error e w =>
          rw [hm, hm'] at h
          exact absurd h.1 (by simp only [replyOf, reduceCtorEq, not_false_eq_true])
  | error e v =>
      cases hm' : m' u with
      | ok b w =>
          rw [hm, hm'] at h
          exact absurd h.1 (by simp only [replyOf, reduceCtorEq, not_false_eq_true])
      | error e' w =>
          rw [hm, hm'] at h
          rw [bind_of_error hm, bind_of_error hm']
          exact ⟨congrArg Except.error (Except.error.inj h.1), h.2⟩

/-- A run is its first call and the run of the others. -/
theorem runCalls_cons (run : γ → EStateM ε σ α) (call : γ) (rest : List γ) (s : σ) :
    runCalls run (call :: rest) s =
      (replyOf (run call s) :: (runCalls run rest (stateAfter (run call s))).1,
        (runCalls run rest (stateAfter (run call s))).2) := by
  rw [runCalls]
  cases run call s with
  | ok a s' => rfl
  | error e s' => rfl

-- A run of some calls and then of others.
theorem runCalls_append (run : γ → EStateM ε σ α) (calls later : List γ) (s : σ) :
    runCalls run (calls ++ later) s =
      ((runCalls run calls s).1 ++ (runCalls run later (runCalls run calls s).2).1,
        (runCalls run later (runCalls run calls s).2).2) := by
  induction calls generalizing s with
  | nil => rfl
  | cons call rest ih => rw [List.cons_append, runCalls_cons, ih, runCalls_cons, List.cons_append]

/-- What every call keeps, unless it fails in a way in which the run does not, holds after the
    run. -/
theorem runCalls_invariant {run : γ → EStateM ε σ α} {I : σ → Prop} {B : ε → Prop}
    (calls : List γ) (hstep : ∀ c ∈ calls, ∀ s, I s →
      (∀ e, replyOf (run c s) = .error e → ¬ B e) → I (stateAfter (run c s))) :
    ∀ s : σ, I s → (∀ e, Except.error e ∈ (runCalls run calls s).1 → ¬ B e) →
      I (runCalls run calls s).2 := by
  induction calls with
  | nil => exact fun s hs _ => hs
  | cons call rest ih =>
      intro s hs hgood
      rw [runCalls_cons] at hgood ⊢
      have hs' : I (stateAfter (run call s)) :=
        hstep call List.mem_cons_self s hs
          (fun e he => hgood e (by rw [he]; exact List.mem_cons_self))
      exact ih (fun c hc => hstep c (List.mem_cons_of_mem _ hc)) _ hs'
        (fun e he => hgood e (List.mem_cons_of_mem _ he))

-- Work for the members of a list that has succeeded gives something for each of them.
theorem mapM_eq_ok {f : α → EStateM ε σ β} {l : List α} :
    ∀ {bs : List β} {s u : σ}, l.mapM f s = .ok bs u →
      bs.length = l.length ∧ ∀ x ∈ l.zip bs, ∃ v w, f x.1 v = .ok x.2 w := by
  induction l with
  | nil =>
      intro bs s u h
      rw [List.mapM_nil] at h
      injection h with hbs _
      rw [← hbs]
      exact ⟨rfl, fun x hx => absurd hx List.not_mem_nil⟩
  | cons a rest ih =>
      intro bs s u h
      rw [List.mapM_cons] at h
      rcases bind_eq_ok_iff.1 h with ⟨b, v, ha, h⟩
      rcases bind_eq_ok_iff.1 h with ⟨others, w, hothers, h⟩
      injection h with hbs _
      rcases ih hothers with ⟨hlength, hall⟩
      rw [← hbs]
      refine ⟨by rw [List.length_cons, List.length_cons, hlength], fun x hx => ?_⟩
      rw [List.zip_cons_cons] at hx
      rcases List.mem_cons.1 hx with rfl | hx
      · exact ⟨s, v, ha⟩
      · exact hall x hx

-- Work for the members of a list succeeds if it does for each of them, from whatever state.
theorem exists_mapM_eq_ok {f : α → EStateM ε σ β} {l : List α}
    (h : ∀ a ∈ l, ∀ s, ∃ b u, f a s = .ok b u) (s : σ) : ∃ bs u, l.mapM f s = .ok bs u := by
  induction l generalizing s with
  | nil => exact ⟨[], s, rfl⟩
  | cons a rest ih =>
      rcases h a List.mem_cons_self s with ⟨b, v, hb⟩
      rcases ih (fun a' ha' => h a' (List.mem_cons_of_mem _ ha')) v with ⟨bs, u, hbs⟩
      refine ⟨b :: bs, u, ?_⟩
      rw [List.mapM_cons, bind_of_ok hb, bind_of_ok hbs]
      rfl

-- If all failures are the same, work for the members of a list fails if it does for one of them.
theorem exceptMapM_eq_error_iff {f : α → Except ε β}
    (hf : ∀ a b e e', f a = .error e → f b = .error e' → e = e') {l : List α} {e : ε} :
    l.mapM f = .error e ↔ ∃ a ∈ l, f a = .error e := by
  induction l with
  | nil => exact ⟨nofun, fun ⟨_, ha, _⟩ => nomatch ha⟩
  | cons a rest ih =>
      rw [List.mapM_cons, exceptBind_eq_error_iff]
      constructor
      · rintro (ha | ⟨b, -, hothers⟩)
        · exact ⟨a, List.mem_cons_self, ha⟩
        · rcases exceptBind_eq_error_iff.1 hothers with hothers | ⟨bs, -, hpure⟩
          · rcases ih.1 hothers with ⟨c, hc, hfail⟩
            exact ⟨c, List.mem_cons_of_mem a hc, hfail⟩
          · cases hpure
      · rintro ⟨c, hc, hfail⟩
        cases ha : f a with
        | error e' => exact Or.inl (hf a c e' e ha hfail ▸ rfl)
        | ok b =>
          rcases List.mem_cons.1 hc with rfl | hc
          · rw [ha] at hfail
            cases hfail
          · exact Or.inr ⟨b, rfl, exceptBind_eq_error_iff.2 (Or.inl (ih.2 ⟨c, hc, hfail⟩))⟩

-- Where every reply is a result there is no failure.
theorem not_mem_error_of_all_isOk {replies : List (Except ε α)}
    (h : replies.all (·.isOk) = true) (e : ε) : Except.error e ∉ replies := by
  intro he
  have hok := List.all_eq_true.1 h _ he
  exact absurd hok Bool.false_ne_true

end CslProcessor
