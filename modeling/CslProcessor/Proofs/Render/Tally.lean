import CslProcessor.Proofs.Render.Log
import CslProcessor.Proofs.Render.Suppression

/-!
# The counts on a log

An element reports how many variables were called below it, and how many of them count as printed.
Both are counts of visits on its log: an element that calls a variable is counted where it is
visited, unless that is on trial, and it counts as printed by a rule of its own kind. Labels,
numbers and dates count if their runs have text. A variable printed as text counts if there are runs
at all, and lists of names count if there are names, or a substitute that stands in; both are
counted before it is known whether any text is left.

A group that is left out reports as many called variables as are below it, and none that count as
printed; but then none of them has. So the counts are the same through any nesting of groups.

## Main definitions

* `Node.callsVariable`: Elements that call a variable.
* `findsContent`: Whether a variable or lists of names are found, whatever text is left of them.
* `Moment.calls`, `Moment.counts`: The visits that are counted.
* `Tally`: Counts as they are on a log.

## Theorems

* `tally_leaf`: The visit of an element without elements below it.
* `tallyDescent`: What an element reports are the counts on its log.
-/

namespace CslProcessor

namespace Node

/-- Whether an element calls a variable. -/
def callsVariable : Node → Bool
  | .text (.ofVariable ..) _ | .label .. | .number .. | .date _ | .names .. => true
  | .text .. | .group .. | .choose .. | .unknown _ => false

end Node

namespace Render

open Runs

/-- Whether a substitute stands in at a moment. -/
def Moment.standsIn (m : Moment) : Bool :=
  match m.what with
  | .standIn _ _ => !m.onTrial
  | .visit _ _ => false

/-- Whether a text element finds its variable, and an element for lists of names finds names or a
    substitute. There may be no text in what is found. -/
def findsContent (ms : Macros) (ctx : RenderContext) (e : Entry) (n : Node) (p : Pass) : Bool :=
  match n with
  | .text (.ofVariable name form) _ =>
    match variableRuns ctx e name form p with
    | .ok runs _ => !runs.isEmpty
    | .error _ _ => false
  | .names el substitutes =>
    !(nameLists e p.suppressed el.variableNames).isEmpty
      || (logNames ms ctx e el substitutes p).any Moment.standsIn
  | _ => false

/-- Whether an element prints text. -/
def printsText (ms : Macros) (ctx : RenderContext) (e : Entry) (n : Node) (p : Pass) : Bool :=
  match renderNode ms ctx e n p with
  | .ok out _ => !isBlank out.runs
  | .error _ _ => false

/-- Whether an element counts as printed. -/
def countsAsPrinted (ms : Macros) (ctx : RenderContext) (e : Entry) (n : Node) (p : Pass) : Bool :=
  match n with
  | .label .. | .number .. | .date _ => printsText ms ctx e n p
  | .text .. | .names .. | .group .. | .choose .. | .unknown _ => findsContent ms ctx e n p

namespace Moment

/-- Whether an element that calls a variable is visited, and not on trial. -/
def calls (m : Moment) : Bool :=
  match m.what with
  | .visit _ n => !m.onTrial && n.callsVariable
  | .standIn _ _ => false

/-- Whether an element that counts as printed is visited, and not on trial. -/
def counts (ctx : RenderContext) (e : Entry) (m : Moment) : Bool :=
  match m.what with
  | .visit ms n => !m.onTrial && countsAsPrinted ms ctx e n m.pass
  | .standIn _ _ => false

end Moment

/-- The counts on a log are those that are reported. -/
structure Tally (ctx : RenderContext) (e : Entry) (log : List Moment) (called rendered : Nat) :
    Prop where
  called : log.countP Moment.calls = called
  rendered : log.countP (Moment.counts ctx e) = rendered

section

variable {ctx : RenderContext} {e : Entry} {log later : List Moment} {called rendered : Nat}

theorem Tally.append {called' rendered' : Nat} (h : Tally ctx e log called rendered)
    (h' : Tally ctx e later called' rendered') :
    Tally ctx e (log ++ later) (called + called') (rendered + rendered') where
  called := by rw [List.countP_append, h.called, h'.called]
  rendered := by rw [List.countP_append, h.rendered, h'.rendered]

-- A visit of an element that calls no variable is not counted.
theorem Tally.visiting {n : Node} (h : Tally ctx e log called rendered)
    (hn : n.callsVariable = false) (hcount : ∀ ms p, countsAsPrinted ms ctx e n p = false)
    (ms : Macros) (p : Pass) :
    Tally ctx e (Moment.visiting ms n p :: log) called rendered where
  called := by
    rw [List.countP_cons_of_neg (by simp [Moment.calls, Moment.visiting, hn])]
    exact h.called
  rendered := by
    rw [List.countP_cons_of_neg (by simp [Moment.counts, Moment.visiting, hcount])]
    exact h.rendered

-- A visit of an element that calls a variable, with nothing counted below it.
theorem tally_call {n : Node} {ms : Macros} {p : Pass} {r : Nat} (hn : n.callsVariable = true)
    (hcalled : log.countP Moment.calls = 0) (hrendered : log.countP (Moment.counts ctx e) = 0)
    (hr : r = if countsAsPrinted ms ctx e n p then 1 else 0) :
    Tally ctx e (Moment.visiting ms n p :: log) 1 r where
  called := by simp [hcalled, Moment.calls, Moment.visiting, hn]
  rendered := by
    rw [hr, List.countP_cons, hrendered, Nat.zero_add]
    simp [Moment.counts, Moment.visiting]

end

/-! ## Elements without elements below them -/

section

variable {ctx : RenderContext} {e : Entry} {p p' : Pass} {out : Output}

-- The visit of an element that prints a value and counts as printed if there is text.
theorem tally_value {ms : Macros} {n : Node} (hn : n.callsVariable = true)
    (hcount : countsAsPrinted ms ctx e n p = printsText ms ctx e n p)
    (h : Sparing [] (ValueOutput []) (renderNode ms ctx e n))
    (hout : renderNode ms ctx e n p = .ok out p') :
    Tally ctx e [Moment.visiting ms n p] out.called out.rendered := by
  have hvalue := (h p (List.nil_subset _)).2 out p' hout
  rw [hvalue.called]
  refine tally_call hn rfl rfl ?_
  rw [hvalue.rendered, hcount, printsText, hout]
  cases hblank : isBlank out.runs <;> simp [hblank]

/-- The visit of an element without elements below it. -/
theorem tally_leaf {ms : Macros} {n : Node} (hleaf : n.isLeaf = true)
    (hout : renderNode ms ctx e n p = .ok out p') :
    Tally ctx e (logNode ms ctx e n p) out.called out.rendered := by
  rw [logNode, logBelow_of_isLeaf hleaf]
  have hnone : Tally ctx e [] 0 0 := ⟨rfl, rfl⟩
  cases n with
  | text source f =>
      cases source with
      | ofVariable name form =>
          rw [renderNode] at hout
          rcases bind_eq_ok_iff.1 hout with ⟨runs, q, hruns, hout⟩
          cases hout
          refine tally_call rfl rfl rfl ?_
          rw [countsAsPrinted, findsContent, hruns]
          cases runs <;> rfl
      | ofMacro name => cases hleaf
      | _ =>
          rw [renderNode] at hout
          cases hout
          exact hnone.visiting rfl (fun _ _ => rfl) ms p
  | label name form plural f =>
      refine tally_value rfl rfl ?_ hout
      rw [renderNode]
      exact sparing_renderLabel ctx e name form plural f
  | number name form f =>
      refine tally_value rfl rfl ?_ hout
      rw [renderNode]
      exact sparing_renderNumber ctx e name form f
  | date d =>
      refine tally_value rfl rfl ?_ hout
      rw [renderNode]
      exact sparing_renderDate ctx e d
  | unknown kind =>
      rw [renderNode] at hout
      rcases bind_eq_ok_iff.1 hout with ⟨_, q, -, hout⟩
      cases hout
      exact hnone.visiting rfl (fun _ _ => rfl) ms p
  | names el substitutes => cases hleaf
  | group children delimiter f => cases hleaf
  | choose branches otherwise => cases hleaf

end

/-! ## The walk -/

section

variable (ms : Macros) (ctx : RenderContext) (e : Entry) (owner : NamesElement)

-- Among substitutes every visit is on trial.
theorem onTrial_of_mem_logSubstitutes (substitutes : List Node) :
    ∀ p : Pass, ∀ m ∈ logSubstitutes ms ctx e owner substitutes p, m.onTrial = true ∨
      ∃ candidate runs, m.what = .standIn candidate runs := by
  induction substitutes with
  | nil =>
      intro p m hm
      rw [logSubstitutes] at hm
      exact absurd hm List.not_mem_nil
  | cons n rest ih =>
      intro p m hm
      rw [logSubstitutes_cons] at hm
      rcases List.mem_append.1 hm with hm | hm
      · rcases List.mem_map.1 hm with ⟨m', -, rfl⟩
        exact Or.inl rfl
      · cases hout : renderNode ms ctx e (n.standingFor owner) p with
        | error err p' =>
            rw [hout] at hm
            exact absurd hm List.not_mem_nil
        | ok out p' =>
            rw [hout, behind] at hm
            split at hm
            · exact ih p' m hm
            · rw [List.mem_singleton.1 hm]
              exact Or.inr ⟨n, out.runs, rfl⟩

theorem uncounted_logSubstitutes (substitutes : List Node) (p : Pass) :
    Tally ctx e (logSubstitutes ms ctx e owner substitutes p) 0 0 := by
  have hall := onTrial_of_mem_logSubstitutes ms ctx e owner substitutes p
  constructor
  all_goals
    refine List.countP_eq_zero.2 fun m hm => ?_
    rcases hall m hm with htrial | ⟨candidate, runs, hwhat⟩
    · cases h : m.what <;> simp [Moment.calls, Moment.counts, h, htrial]
    · simp [Moment.calls, Moment.counts, hwhat]

-- On trial no substitute stands in for the element that is tried for.
theorem any_standsIn_tried (log : List Moment) :
    (log.map Moment.tried).any Moment.standsIn = false := by
  refine List.any_eq_false.2 fun m hm => ?_
  rcases List.mem_map.1 hm with ⟨m', -, rfl⟩
  cases h : m'.what <;> simp [Moment.standsIn, Moment.tried, h]

end

/-- What an element reports are the counts on its log. -/
theorem tallyDescent (ctx : RenderContext) (e : Entry) : Descent ctx e
    (fun ms n => ∀ p out p', renderNode ms ctx e n p = .ok out p' →
      Tally ctx e (logNode ms ctx e n p) out.called out.rendered)
    (fun ms ns => ∀ p outs p', renderAll ms ctx e ns p = .ok outs p' →
      Tally ctx e (logAll ms ctx e ns p) (Output.join "" outs).called
        (Output.join "" outs).rendered)
    (fun ms owner substitutes => ∀ p out p',
      renderSubstitutes ms ctx e owner substitutes p = .ok out p' → out.called = 1 ∧
        out.rendered =
          if (logSubstitutes ms ctx e owner substitutes p).any Moment.standsIn then 1 else 0) where
  leaf ms n h p out p' hout := tally_leaf h hout
  undefined ms name f h p out p' hout := by
    rw [renderNode_of_lookup_none h] at hout
    rcases bind_eq_ok_iff.1 hout with ⟨_, q, -, hout⟩
    cases hout
    rw [logNode, logBelow_of_lookup_none h]
    exact Tally.visiting ⟨rfl, rfl⟩ rfl (fun _ _ => rfl) ms p
  defined ms name f nodes h hnodes p out p' hout := by
    rw [renderNode_of_lookup h] at hout
    rcases bind_eq_ok_iff.1 hout with ⟨outs, q, houts, hout⟩
    cases hout
    rw [logNode, logBelow_of_lookup h]
    exact (hnodes p outs _ houts).visiting rfl (fun _ _ => rfl) ms p
  names ms el substitutes hsubstitutes p out p' hout := by
    rw [renderNode, renderNames, get_bind] at hout
    rw [logNode, logBelow]
    cases hlists : nameLists e p.suppressed el.variableNames with
    | nil =>
        rw [hlists] at hout
        have hlog : logNames ms ctx e el substitutes p =
            logSubstitutes ms ctx e el substitutes p := by rw [logNames, hlists]
        have hnone := uncounted_logSubstitutes ms ctx e el substitutes p
        rcases hsubstitutes p out p' hout with ⟨hcalled, hrendered⟩
        rw [hcalled, hlog]
        refine tally_call rfl hnone.called hnone.rendered ?_
        rw [hrendered, countsAsPrinted, findsContent, hlists, hlog]
        rfl
    | cons list rest =>
        rw [hlists] at hout
        cases hout
        have hlog : logNames ms ctx e el substitutes p = [] := by rw [logNames, hlists]
        rw [hlog]
        refine tally_call rfl rfl rfl ?_
        rw [countsAsPrinted, findsContent, hlists]
        rfl
  group ms children delimiter f hchildren p out p' hout := by
    rw [renderNode] at hout
    rcases bind_eq_ok_iff.1 hout with ⟨outs, q, houts, hout⟩
    have htally := (hchildren p outs q houts).visiting (n := .group children delimiter f) rfl
      (fun _ _ => rfl) ms p
    rw [logNode, logBelow]
    split at hout
    · rename_i hempty
      cases hout
      have hrendered : (Output.join "" outs).rendered = 0 := by
        simp only [Bool.and_eq_true, beq_iff_eq] at hempty
        exact hempty.2
      rw [hrendered] at htally
      exact htally
    · cases hout
      exact htally
  choose ms branches otherwise hchosen p out p' hout := by
    rw [renderNode] at hout
    rcases bind_eq_ok_iff.1 hout with ⟨outs, q, houts, hout⟩
    cases hout
    rw [logNode, logBelow]
    exact (hchosen p outs _ houts).visiting rfl (fun _ _ => rfl) ms p
  nil ms p outs p' houts := by
    rw [renderAll] at houts
    cases houts
    rw [logAll]
    exact ⟨rfl, rfl⟩
  cons ms n rest hn hrest p outs p' houts := by
    rw [renderAll] at houts
    rcases bind_eq_ok_iff.1 houts with ⟨out, q, hout, houts⟩
    rcases bind_eq_ok_iff.1 houts with ⟨others, q', hothers, houts⟩
    cases houts
    rw [logAll_cons, hout]
    exact (hn p out q hout).append (hrest q others p' hothers)
  noSubstitute ms owner p out p' hout := by
    rw [renderSubstitutes] at hout
    cases hout
    rw [logSubstitutes]
    exact ⟨rfl, rfl⟩
  substitute ms owner n rest hn hrest p out p' hout := by
    rw [renderSubstitutes_cons] at hout
    rcases bind_eq_ok_iff.1 hout with ⟨tried, q, htried, hout⟩
    rw [logSubstitutes_cons, List.any_append, any_standsIn_tried, Bool.false_or, htried, behind]
    split at hout
    · rename_i hblank
      rw [if_pos hblank]
      exact hrest q out p' hout
    · rename_i hprinted
      rw [if_neg hprinted]
      cases hout
      exact ⟨rfl, rfl⟩

end Render

end CslProcessor
