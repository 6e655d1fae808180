import CslProcessor.Disambiguation.Tracker
import CslProcessor.Proofs.Sequence

/-!
# Work in Lockstep

Two runs of work on trackers, side by side.

What a tracker knows can be known in more than one way: a key can be in its cache or not, and a
bucket can list its members in one order or in another. None of this may show. So most facts about
work on trackers are stated of two runs at once, which start from trackers that agree and may
execute different programs: `Lockstep` says that both return, and that what they return and where
they end up stand in a relation, or else that both meet the same failure of the renderer. No other
failure is possible in lockstep, and a run beside itself gives the facts about a single run.

`Lockstep.bind` chains runs the way programs are chained.

## Main definitions

* `Lockstep`: Two results of work that belong together.

## Theorems

* `Lockstep.bind`: Runs in lockstep go on in lockstep.
* `Lockstep.mono`: A weaker relation is enough.
* `Lockstep.of_ok`: What a run that returns knows about the run beside it.
* `Lockstep.of_error`: What a run that fails knows about the run beside it.
* `Lockstep.cases`: What runs in lockstep can do.
* `Lockstep.mapM`: Pieces of work in lockstep, one after the other.
-/

namespace CslProcessor

namespace Disambiguation

variable {ε α β γ δ : Type}

/-- Both runs return and are related, or both meet the same failure of the renderer. -/
def Lockstep (Q : α → β → Tracker → Tracker → Prop) :
    EStateM.Result (ResolveError ε) Tracker α → EStateM.Result (ResolveError ε) Tracker β → Prop
  | .ok a t, .ok b u => Q a b t u
  | .error (.rendering e) _, .error (.rendering e') _ => e = e'
  | _, _ => False

namespace Lockstep

/-- Runs in lockstep go on in lockstep. -/
theorem bind {Q : α → β → Tracker → Tracker → Prop} {R : γ → δ → Tracker → Tracker → Prop}
    {m : Resolving ε α} {m' : Resolving ε β} {f : α → Resolving ε γ} {f' : β → Resolving ε δ}
    {t u : Tracker} (h : Lockstep Q (m t) (m' u))
    (hf : ∀ a b v w, Q a b v w → Lockstep R (f a v) (f' b w)) :
    Lockstep R ((m >>= f) t) ((m' >>= f') u) := by
  change Lockstep R (EStateM.bind m f t) (EStateM.bind m' f' u)
  unfold EStateM.bind
  cases hm : m t with
  | ok a v =>
      cases hm' : m' u with
      | ok b w =>
          rw [hm, hm'] at h
          exact hf a b v w h
      | error e w => rw [hm, hm'] at h; exact absurd h (by simp only [Lockstep, not_false_eq_true])
  | error e v =>
      cases hm' : m' u with
      | ok b w =>
          rw [hm, hm'] at h
          cases e <;> exact absurd h (by simp only [Lockstep, not_false_eq_true])
      | error e' w =>
          rw [hm, hm'] at h
          cases e <;> cases e' <;> exact h

/-- A weaker relation is enough. -/
theorem mono {Q R : α → β → Tracker → Tracker → Prop}
    {x : EStateM.Result (ResolveError ε) Tracker α} {y : EStateM.Result (ResolveError ε) Tracker β}
    (h : Lockstep Q x y) (hQR : ∀ a b v w, Q a b v w → R a b v w) : Lockstep R x y := by
  cases x with
  | ok a v =>
      cases y with
      | ok b w => exact hQR a b v w h
      | error e w => exact h
  | error e v =>
      cases y with
      | ok b w => cases e <;> exact h
      | error e' w => cases e <;> cases e' <;> exact h

/-- Beside a run that returns, the other run returns too. -/
theorem of_ok {Q : α → β → Tracker → Tracker → Prop} {a : α} {v : Tracker}
    {y : EStateM.Result (ResolveError ε) Tracker β} (h : Lockstep Q (.ok a v) y) :
    ∃ b w, y = .ok b w ∧ Q a b v w := by
  cases y with
  | ok b w => exact ⟨b, w, rfl, h⟩
  | error e w => exact absurd h (by simp only [Lockstep, not_false_eq_true])

/-- Beside a run that fails, the other run fails too, and for the same reason. -/
theorem of_error {Q : α → β → Tracker → Tracker → Prop} {e : ResolveError ε} {v : Tracker}
    {y : EStateM.Result (ResolveError ε) Tracker β} (h : Lockstep Q (.error e v) y) :
    ∃ e', e = .rendering e' ∧ ∃ w, y = .error (.rendering e') w := by
  cases e with
  | rendering e =>
      cases y with
      | ok b w => exact absurd h (by simp only [Lockstep, not_false_eq_true])
      | error e' w =>
          cases e' with
          | rendering e' =>
              have heq : e = e' := h
              exact ⟨e, rfl, w, by rw [heq]⟩
          | regress _ => exact absurd h (by simp only [Lockstep, not_false_eq_true])
          | stillAlike _ => exact absurd h (by simp only [Lockstep, not_false_eq_true])
  | regress _ => cases y <;> exact absurd h (by simp only [Lockstep, not_false_eq_true])
  | stillAlike _ => cases y <;> exact absurd h (by simp only [Lockstep, not_false_eq_true])

/-- Runs in lockstep both return, or both fail for the same reason. -/
theorem cases {Q : α → β → Tracker → Tracker → Prop}
    {x : EStateM.Result (ResolveError ε) Tracker α} {y : EStateM.Result (ResolveError ε) Tracker β}
    (h : Lockstep Q x y) :
    (∃ a v b w, x = .ok a v ∧ y = .ok b w ∧ Q a b v w) ∨
      ∃ e v w, x = .error (.rendering e) v ∧ y = .error (.rendering e) w := by
  cases x with
  | ok a v =>
      rcases h.of_ok with ⟨b, w, rfl, hQ⟩
      exact Or.inl ⟨a, v, b, w, rfl, rfl, hQ⟩
  | error e v =>
      rcases h.of_error with ⟨e', rfl, w, rfl⟩
      exact Or.inr ⟨e', v, w, rfl, rfl⟩

/-- Work for the members of a list is in lockstep if every piece of it is, whatever relation the
    pieces keep among themselves. -/
theorem mapM {ι : Type} {I : Tracker → Tracker → Prop} (f f' : ι → Resolving ε α) (l : List ι)
    (h : ∀ i ∈ l, ∀ t u, I t u → Lockstep (fun a b v w => a = b ∧ I v w) (f i t) (f' i u)) :
    ∀ t u, I t u → Lockstep (fun as bs v w => as = bs ∧ I v w) (l.mapM f t) (l.mapM f' u) := by
  induction l with
  | nil =>
      intro t u hI
      exact ⟨rfl, hI⟩
  | cons i rest ih =>
      intro t u hI
      rw [List.mapM_cons, List.mapM_cons]
      refine bind (h i (List.mem_cons_self ..) t u hI) ?_
      rintro a b v w ⟨rfl, hI'⟩
      refine bind (ih (fun j hj => h j (List.mem_cons_of_mem _ hj)) v w hI') ?_
      rintro as bs v' w' ⟨rfl, hI''⟩
      exact ⟨rfl, hI''⟩

end Lockstep

end Disambiguation

end CslProcessor
