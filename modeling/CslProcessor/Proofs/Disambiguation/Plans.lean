import CslProcessor.Proofs.Disambiguation.Incremental

/-!
# Resolutions, One Operation at a Time

Work on a tracker is a function from the tracker before to the tracker after, so it does not tell
what happened in between. A *plan* does: it is a tree whose nodes look at the tracker or do one
operation to it, and whose branches are the answers. The type of a plan says that doing it is doing
the work, so whatever is known of the work holds of its plan, and a plan that leaves out or adds an
operation that matters has the wrong type.

A plan passes through *points*, the trackers that its operations leave. What every operation keeps
holds at all points of any plan (`Work.forall_points`), so such properties need no look at what a
resolution does. The plan of a resolution is put together from the plans of its pieces, in the way
in which the resolution is put together from these.

## Main definitions

* `Operation`: What can be done to a tracker.
* `Work`, `Work.run`, `Work.points`: Operations in sequence, and the trackers that they leave.
* `Plan`, `Plan.points`: A way to do some work by operations.
* `opening`, `separation`: The two parts of a resolution.
* `openingPlan`, `separationPlan`: Their plans.

## Theorems

* `Work.points_bind`: The points of operations that go on.
* `Work.run_eq_ok`, `Work.run_eq_error`: Where operations end.
* `Work.forall_points`: What every operation keeps.
* `resolve_eq_opening_bind_separation`: A resolution is its two parts.
-/

namespace CslProcessor

namespace Disambiguation

variable {ε α β : Type} {p : Policy} {r : KeyRenderer ε}

/-! ## Operations -/

/-- What can be done to a tracker. -/
inductive Operation
  /-- Forgetting the books, if they are not to be relied on for some entries. -/
  | begin (order : List Nat)
  /-- Starting to track an entry. -/
  | track (index : Nat)
  /-- Asking for a key. -/
  | key (index : Nat) (value : EntryDisambiguation)
  /-- Giving an entry a state. -/
  | commit (index : Nat) (value : EntryDisambiguation)
  /-- Giving up, since entries look alike still. -/
  | giveUp (indexes : List Nat)

/-- What an operation answers. There is no answer to giving up. -/
def Operation.Answer : Operation → Type
  | .begin _ | .track _ => Unit
  | .key _ _ => String
  | .commit _ _ => Bool
  | .giveUp _ => Empty

/-- Does an operation. -/
def Operation.run (r : KeyRenderer ε) : (o : Operation) → Resolving ε o.Answer
  | .begin order => modify (·.begin r order)
  | .track index => Disambiguation.track r index
  | .key index value => keyOf r index value
  | .commit index value => Disambiguation.commit r index value
  | .giveUp indexes => do
    modify (·.reset none)
    throw (.stillAlike indexes)

/-- Operations in sequence, each chosen by what was seen and answered before. -/
inductive Work (α : Type) : Type
  /-- There is nothing left to do. -/
  | done (a : α)
  /-- Looking at the tracker. -/
  | look (next : Tracker → Work α)
  /-- Doing an operation. -/
  | op (o : Operation) (next : o.Answer → Work α)

namespace Work

/-- Does the operations. -/
def run (r : KeyRenderer ε) : Work α → Resolving ε α
  | .done a => pure a
  | .look next => get >>= fun t => (next t).run r
  | .op o next => o.run r >>= fun a => (next a).run r

/-- The trackers that the operations leave, as far as these succeed. -/
def points (r : KeyRenderer ε) : Work α → Tracker → List Tracker
  | .done _, _ => []
  | .look next, t => (next t).points r t
  | .op o next, t => match o.run r t with
    | .ok a u => u :: (next a).points r u
    | .error _ _ => []

/-- Goes on with the result. -/
def bind : Work α → (α → Work β) → Work β
  | .done a, f => f a
  | .look next, f => .look fun t => (next t).bind f
  | .op o next, f => .op o fun a => (next a).bind f

theorem run_bind (w : Work α) (f : α → Work β) :
    (w.bind f).run r = w.run r >>= fun a => (f a).run r := by
  induction w with
  | done a => rfl
  | look next ih => simp only [bind, run, ih, bind_assoc]
  | op o next ih => simp only [bind, run, ih, bind_assoc]

/-- The points of what goes on come behind those of what was done before. -/
theorem points_bind (w : Work α) (f : α → Work β) (t : Tracker) :
    (w.bind f).points r t = w.points r t ++ match w.run r t with
      | .ok a u => (f a).points r u
      | .error _ _ => [] := by
  induction w generalizing t with
  | done a => rfl
  | look next ih => exact ih t t
  | op o next ih =>
      rw [bind, points, points, run]
      cases ho : o.run r t with
      | ok a u =>
          rw [bind_of_ok ho, List.cons_append]
          exact congrArg (u :: ·) (ih a u)
      | error e u =>
          rw [bind_of_error ho]
          rfl

/-- Operations that succeed end at their last point. -/
theorem run_eq_ok {w : Work α} {t v : Tracker} {a : α} (h : w.run r t = .ok a v) :
    v = t ∨ v ∈ w.points r t := by
  induction w generalizing t with
  | done b =>
      injection h with _ hv
      exact Or.inl hv.symm
  | look next ih => exact ih t h
  | op o next ih =>
      rcases bind_eq_ok_iff.1 h with ⟨b, u, ho, h⟩
      simp only [points, ho]
      rcases ih b h with hv | hmem
      · rw [hv]
        exact Or.inr List.mem_cons_self
      · exact Or.inr (List.mem_cons_of_mem _ hmem)

/-- Operations fail where one of them does. -/
theorem run_eq_error {w : Work α} {t v : Tracker} {e : ResolveError ε}
    (h : w.run r t = .error e v) :
    ∃ o u, (u = t ∨ u ∈ w.points r t) ∧ Operation.run r o u = .error e v := by
  induction w generalizing t with
  | done b => cases h
  | look next ih => exact ih t h
  | op o next ih =>
      rcases bind_eq_error_iff.1 h with ho | ⟨b, u, ho, h⟩
      · exact ⟨o, t, Or.inl rfl, ho⟩
      · rcases ih b h with ⟨o', u', hu', ho'⟩
        simp only [points, ho]
        rcases hu' with hu' | hmem
        · rw [hu'] at ho'
          exact ⟨o', u, Or.inr List.mem_cons_self, ho'⟩
        · exact ⟨o', u', Or.inr (List.mem_cons_of_mem _ hmem), ho'⟩

/-- What every operation keeps, also one that fails, holds at every point and at the end. -/
theorem forall_points {I : Tracker → Prop}
    (hstep : ∀ o t, I t → I (stateAfter (Operation.run r o t))) (w : Work α) {t : Tracker}
    (ht : I t) : (∀ u ∈ w.points r t, I u) ∧ I (stateAfter (w.run r t)) := by
  induction w generalizing t with
  | done a => exact ⟨fun u hu => absurd hu List.not_mem_nil, ht⟩
  | look next ih => exact ih t ht
  | op o next ih =>
      have hu := hstep o t ht
      rw [points, run]
      cases ho : o.run r t with
      | ok a u =>
          rw [ho] at hu
          rw [bind_of_ok ho]
          exact ⟨List.forall_mem_cons.2 ⟨hu, (ih a hu).1⟩, (ih a hu).2⟩
      | error e u =>
          rw [ho] at hu
          rw [bind_of_error ho]
          exact ⟨fun v hv => absurd hv List.not_mem_nil, hu⟩

end Work

/-! ## Plans -/

/-- A way to do some work by operations. -/
structure Plan (r : KeyRenderer ε) (m : Resolving ε α) where
  /-- The operations. -/
  work : Work α
  /-- Doing them is doing the work. -/
  run_eq : work.run r = m

namespace Plan

variable {m m' : Resolving ε α} {f : α → Resolving ε β}

/-- The points that a plan passes through. -/
def points (x : Plan r m) (t : Tracker) : List Tracker :=
  x.work.points r t

/-- Doing nothing. -/
def pure (a : α) : Plan r (Pure.pure a : Resolving ε α) where
  work := .done a
  run_eq := rfl

/-- A single operation. -/
def op (o : Operation) : Plan r (o.run r) where
  work := .op o .done
  run_eq := bind_pure (o.run r)

/-- One piece of work after another. -/
def bind (x : Plan r m) (y : ∀ a, Plan r (f a)) : Plan r (m >>= f) where
  work := x.work.bind fun a => (y a).work
  run_eq := by
    rw [Work.run_bind, x.run_eq]
    exact congrArg (m >>= ·) (funext fun a => (y a).run_eq)

/-- Work that looks at the tracker first. -/
def look {f : Tracker → Resolving ε β} (y : ∀ t, Plan r (f t)) : Plan r (get >>= f) where
  work := .look fun t => (y t).work
  run_eq := congrArg (get >>= ·) (funext fun t => (y t).run_eq)

/-- One of two pieces of work. -/
def ite (c : Prop) [Decidable c] (x : Plan r m) (y : Plan r m') :
    Plan r (if c then m else m') where
  work := if c then x.work else y.work
  run_eq := by
    split
    · exact x.run_eq
    · exact y.run_eq

/-- The same work, said in another way. -/
def congr (h : m = m') (x : Plan r m') : Plan r m where
  work := x.work
  run_eq := x.run_eq.trans h.symm

/-- The same kind of work for all members of a list. -/
def mapM {ι : Type} {f : ι → Resolving ε α} (y : ∀ i, Plan r (f i)) :
    (l : List ι) → Plan r (l.mapM f)
  | [] => .congr List.mapM_nil (.pure [])
  | i :: rest => .congr List.mapM_cons <|
    (y i).bind fun a => (mapM y rest).bind fun others => .pure (a :: others)

end Plan

/-! ## The plan of a resolution -/

/-- Tracks the entries that are new, and hands them on. -/
def trackNew (r : KeyRenderer ε) (order : List Nat) : Resolving ε (List Nat) := do
  let fresh := order.filter (!(← get).tracks ·)
  trackAll r fresh
  return fresh

/-- What a resolution does before its passes. -/
def opening (r : KeyRenderer ε) (entries : List Nat) : Resolving ε (List Nat) := do
  modify (·.begin r (ListSet.lastOccurrences entries))
  trackNew r (ListSet.lastOccurrences entries)

/-- What a resolution does with the entries that are new: its passes and the last look at what they
    leave. -/
def separation (p : Policy) (r : KeyRenderer ε) (entries fresh : List Nat) :
    Resolving ε Resolution := do
  let x ← passes p r (ListSet.lastOccurrences entries) maxPasses fresh fresh []
  conclude (ListSet.lastOccurrences entries) entries.length fresh.length x.1 x.2

/-- A resolution is its two parts. -/
theorem resolve_eq_opening_bind_separation (p : Policy) (r : KeyRenderer ε)
    (entries : List Nat) : resolve p r entries = opening r entries >>= separation p r entries := by
  rw [resolve_eq_resolveWithin, resolveWithin, opening]
  simp only [trackNew, bind_assoc, pure_bind, separation]

/-- Tracking entries, one by one. -/
def trackAllPlan (r : KeyRenderer ε) : (l : List Nat) → Plan r (trackAll r l)
  | [] => .pure ()
  | i :: rest => (Plan.op (.track i)).bind fun _ => trackAllPlan r rest

/-- Tracking the entries that are new. -/
def trackNewPlan (r : KeyRenderer ε) (order : List Nat) : Plan r (trackNew r order) :=
  .look fun _ => (trackAllPlan r _).bind fun _ => .pure _

/-- The first part of a resolution. -/
def openingPlan (r : KeyRenderer ε) (entries : List Nat) : Plan r (opening r entries) :=
  (Plan.op (.begin (ListSet.lastOccurrences entries))).bind fun _ => trackNewPlan r _

-- The first point of a resolution is the tracker that it begins with.
theorem points_openingPlan (r : KeyRenderer ε) (entries : List Nat) (t : Tracker) :
    (openingPlan r entries).points t = t.begin r (ListSet.lastOccurrences entries) ::
      (trackNewPlan r (ListSet.lastOccurrences entries)).points
        (t.begin r (ListSet.lastOccurrences entries)) := rfl

/-- Counting keys after a step asks for one key after another. -/
def distinctAfterPlan (r : KeyRenderer ε) (step : EntryDisambiguation → EntryDisambiguation)
    (members : List Nat) : Plan r (distinctAfter r step members) :=
  .look fun t => (Plan.mapM (fun i => Plan.op (.key i (step (t.state i)))) members).bind
    fun _ => .pure _

/-- Committing states, one by one. -/
def commitAllPlan (r : KeyRenderer ε) :
    (l : List (Nat × EntryDisambiguation)) → Plan r (commitAll r l)
  | [] => .pure []
  | (i, value) :: rest => (Plan.op (.commit i value)).bind fun _ =>
    (commitAllPlan r rest).bind fun _ => .pure _

/-- A step for a group. -/
def tryStepPlan (r : KeyRenderer ε) (members : List Nat)
    (step : EntryDisambiguation → EntryDisambiguation) : Plan r (tryStep r members step) :=
  (distinctAfterPlan r step members).bind fun _ => .look fun _ =>
    .ite _ (commitAllPlan r _) (.pure [])

/-- The steps for a group. -/
def tryStepsPlan (r : KeyRenderer ε) (members : List Nat) :
    (steps : List (EntryDisambiguation → EntryDisambiguation)) →
      Plan r (trySteps r members steps)
  | [] => .pure []
  | step :: rest => (tryStepPlan r members step).bind fun _ => .look fun _ =>
    .ite _ (.pure _) ((tryStepsPlan r members rest).bind fun _ => .pure _)

/-- One means for several groups. -/
def applyMethodPlan (p : Policy) (r : KeyRenderer ε) (method : DisambiguationMethod) :
    (groups : List (List Nat)) → Plan r (applyMethod p r method groups)
  | [] => .pure ([], [])
  | members :: rest => (tryStepsPlan r members _).bind fun _ => .look fun _ =>
    (applyMethodPlan p r method rest).bind fun _ => .pure _

/-- Several means for several groups. -/
def applyMethodsPlan (p : Policy) (r : KeyRenderer ε) :
    (methods : List DisambiguationMethod) → (groups : List (List Nat)) →
      Plan r (applyMethods p r methods groups)
  | [], groups => .pure ([], groups)
  | method :: rest, groups => (applyMethodPlan p r method groups).bind fun x =>
    (applyMethodsPlan p r rest x.2).bind fun _ => .pure _

/-- A letter for one entry. -/
def giveLetterPlan (r : KeyRenderer ε) (seen : List Int) (i : Nat) :
    Plan r (giveLetter r seen i) :=
  .look fun _ => .ite _ (.pure false) (.op (.commit i _))

/-- Letters for a group. -/
def assignSuffixesPlan (r : KeyRenderer ε) :
    (seen : List Int) → (members : List Nat) → Plan r (assignSuffixes r seen members)
  | _, [] => .pure []
  | seen, i :: rest => .congr (assignSuffixes_cons r seen i rest) <|
    (giveLetterPlan r seen i).bind fun _ => .look fun _ =>
      (assignSuffixesPlan r _ rest).bind fun _ => .pure _

/-- Letters for several groups. -/
def assignAllPlan (r : KeyRenderer ε) : (groups : List (List Nat)) → Plan r (assignAll r groups)
  | [] => .pure []
  | members :: rest => (assignSuffixesPlan r [] members).bind fun _ =>
    (assignAllPlan r rest).bind fun _ => .pure _

/-- All means for a group. -/
def separatePlan (p : Policy) (r : KeyRenderer ε) (group : List Nat) :
    Plan r (separate p r group) :=
  (applyMethodsPlan p r p.steppedMethods [group]).bind fun x =>
    (assignAllPlan r x.2).bind fun _ => .pure _

/-- All means for several groups. -/
def separateAllPlan (p : Policy) (r : KeyRenderer ε) :
    (groups : List (List Nat)) → Plan r (separateAll p r groups)
  | [] => .pure []
  | group :: rest => (separatePlan p r group).bind fun _ =>
    (separateAllPlan p r rest).bind fun _ => .pure _

/-- The letters of groups with the same base key. -/
def completeGroupsPlan (r : KeyRenderer ε) :
    (groups : List (List Nat)) → Plan r (completeGroups r groups)
  | [] => .pure ([], [])
  | members :: rest => .look fun _ => .ite _ (completeGroupsPlan r rest) <|
    (assignSuffixesPlan r [] members).bind fun _ =>
      (completeGroupsPlan r rest).bind fun _ => .pure _

/-- A single pass. -/
def passPlan (p : Policy) (r : KeyRenderer ε) (order touched : List Nat) :
    Plan r (pass p r order touched) :=
  .look fun t => (separateAllPlan p r (t.collisions order touched)).bind fun _ =>
    Plan.bind (.look fun _ => completeGroupsPlan r _) fun _ => .pure _

/-- The passes. -/
def passesPlan (p : Policy) (r : KeyRenderer ε) (order : List Nat) :
    (n : Nat) → (touched checked affected : List Nat) →
      Plan r (passes p r order n touched checked affected)
  | 0, _, checked, affected => .pure (checked, affected)
  | n + 1, touched, checked, affected => .congr (passes_succ n touched checked affected) <|
    (passPlan p r order touched).bind fun s =>
      .ite _ (.pure _) (passesPlan p r order n s.changed _ _)

-- After the passes a resolution either has its result or gives up.
theorem conclude_eq (r : KeyRenderer ε) (order : List Nat) (cited fresh : Nat)
    (checked affected : List Nat) :
    (conclude order cited fresh checked affected : Resolving ε Resolution) = (do
      let remaining := (← get).collisions order checked
      if remaining.isEmpty then return { affected, cited, fresh }
      else Operation.run r (.giveUp (ListSet.sorted remaining.flatten)) >>= Empty.elim) := by
  funext t
  rw [get_bind]
  by_cases hnone : t.collisions order checked = []
  · rw [conclude_of_nil hnone, hnone]
    rfl
  · rw [conclude_of_ne_nil hnone, if_neg (by rwa [List.isEmpty_iff])]
    rfl

/-- The last look at what the passes leave. -/
def concludePlan (r : KeyRenderer ε) (order : List Nat) (cited fresh : Nat)
    (checked affected : List Nat) : Plan r (conclude order cited fresh checked affected) :=
  .congr (conclude_eq r order cited fresh checked affected) <|
    .look fun _ => .ite _ (.pure _) ((Plan.op (.giveUp _)).bind nofun)

/-- The second part of a resolution. -/
def separationPlan (p : Policy) (r : KeyRenderer ε) (entries fresh : List Nat) :
    Plan r (separation p r entries fresh) :=
  (passesPlan p r _ maxPasses fresh fresh []).bind fun _ => concludePlan r _ _ _ _ _

end Disambiguation

end CslProcessor
