import CslProcessor.Proofs.Render.Descent

/-!
# The log of a walk

The runs of an entry do not say which elements were visited for them, nor in which order: a
substitute that prints nothing leaves no run, and a group may drop what is below it. The log of a
walk is the list of what happens on it: visits of elements, and substitutes that stand in for their
owners. Each moment comes with what the walk keeps at that time.

The log is made of the same pieces as the walk, in the same order. Behind an element it goes on from
what the walk keeps there, and it ends where the walk fails. An element is visited before what is
below it. Substitutes are visited on trial, and so is everything below them: of what they report,
only the runs of the one that stands in are used.

## Main definitions

* `Happening`, `Moment`: What happens on a walk, and when.
* `logBelow`, `logAll`, `logNames`, `logSubstitutes`: The log of the parts of a walk.
* `logNode`: The log of an element, its own visit included.
* `entryLog`: The log of the walk over an entry.

## Theorems

* `logAll_cons`, `logSubstitutes_cons`: How the log goes on behind an element.
-/

namespace CslProcessor

namespace Render

open Runs

/-- What happens on a walk. -/
inductive Happening
  /-- An element is visited. The macros are those that may still be entered. -/
  | visit (ms : Macros) (n : Node)
  /-- A substitute stands in for an element with the runs that it printed. -/
  | standIn (candidate : Node) (runs : List TextRun)

/-- A moment of a walk. -/
structure Moment where
  /-- What happens. -/
  what : Happening
  /-- What the walk keeps: when a visit begins, and when a substitute stands in. -/
  pass : Pass
  /-- Whether it happens for a substitute that is tried. -/
  onTrial : Bool := false

namespace Moment

/-- An element is visited. -/
def visiting (ms : Macros) (n : Node) (p : Pass) : Moment :=
  { what := .visit ms n, pass := p }

/-- A substitute stands in with what it reported. -/
def standingIn (candidate : Node) (out : Output) (p : Pass) : Moment :=
  { what := .standIn candidate out.runs
    pass := stateAfter (suppress out.runs candidate.listed p) }

/-- The same moment on trial. -/
def tried (m : Moment) : Moment :=
  { m with onTrial := true }

end Moment

/-- What happens behind a part of the walk, nothing if that has failed. -/
def behind {α : Type} (r : EStateM.Result RenderError Pass α) (later : α → Pass → List Moment) :
    List Moment :=
  match r with
  | .ok a p => later a p
  | .error _ _ => []

mutual

/-- What happens below an element. -/
def logBelow (ms : Macros) (ctx : RenderContext) (e : Entry) (n : Node) (p : Pass) :
    List Moment :=
  match n with
  | .text (.ofMacro name) _ =>
    match h : ms.lookup name with
    | none => []
    | some nodes =>
      have := Macros.length_without_lt h
      logAll (ms.without name) ctx e nodes p
  | .names el substitutes => logNames ms ctx e el substitutes p
  | .group children _ _ => logAll ms ctx e children p
  | .choose branches otherwise =>
    have := sizeOf_chosen_lt ctx e otherwise branches
    logAll ms ctx e (chosen ctx e otherwise branches) p
  | .text (.ofVariable ..) _ | .text (.ofTerm ..) _ | .text (.ofValue _) _ | .text .nothing _
  | .label .. | .number .. | .date _ | .unknown _ => []
termination_by (ms.length, sizeOf n, 0)

/-- What happens at elements in their order. -/
def logAll (ms : Macros) (ctx : RenderContext) (e : Entry) (ns : List Node) (p : Pass) :
    List Moment :=
  match ns with
  | [] => []
  | n :: rest =>
    (Moment.visiting ms n p :: logBelow ms ctx e n p)
      ++ behind (renderNode ms ctx e n p) fun _ p' => logAll ms ctx e rest p'
termination_by (ms.length, sizeOf ns, 0)

/-- What happens below an element for lists of names: nothing if there are names. -/
def logNames (ms : Macros) (ctx : RenderContext) (e : Entry) (el : NamesElement)
    (substitutes : List Node) (p : Pass) : List Moment :=
  match nameLists e p.suppressed el.variableNames with
  | [] => logSubstitutes ms ctx e el substitutes p
  | _ :: _ => []
termination_by (ms.length, sizeOf substitutes, 1)

/-- What happens at substitutes, until one of them stands in. -/
def logSubstitutes (ms : Macros) (ctx : RenderContext) (e : Entry) (owner : NamesElement)
    (substitutes : List Node) (p : Pass) : List Moment :=
  match substitutes with
  | [] => []
  | .names el inner :: rest =>
    (Moment.visiting ms (.names (inherit el owner) inner) p
        :: logNames ms ctx e (inherit el owner) inner p).map Moment.tried
      ++ behind (renderNames ms ctx e (inherit el owner) inner p) fun out p' =>
        if isBlank out.runs then logSubstitutes ms ctx e owner rest p'
        else [Moment.standingIn (.names el inner) out p']
  | n :: rest =>
    (Moment.visiting ms n p :: logBelow ms ctx e n p).map Moment.tried
      ++ behind (renderNode ms ctx e n p) fun out p' =>
        if isBlank out.runs then logSubstitutes ms ctx e owner rest p'
        else [Moment.standingIn n out p']
termination_by (ms.length, sizeOf substitutes, 0)

end

/-- What happens at an element. -/
def logNode (ms : Macros) (ctx : RenderContext) (e : Entry) (n : Node) (p : Pass) : List Moment :=
  Moment.visiting ms n p :: logBelow ms ctx e n p

/-- What happens on the walk over the elements of an entry. -/
def entryLog (ctx : RenderContext) (e : Entry) (nodes : List Node) : List Moment :=
  logAll ctx.style.macros ctx e nodes {}

section

variable {ms : Macros} {ctx : RenderContext} {e : Entry} {owner : NamesElement} {p : Pass}

theorem logAll_cons (n : Node) (rest : List Node) :
    logAll ms ctx e (n :: rest) p = logNode ms ctx e n p
      ++ behind (renderNode ms ctx e n p) fun _ p' => logAll ms ctx e rest p' := by
  rw [logAll, logNode]

/-- The first substitute is tried as it is visited. If it prints something it stands in, and else
    the others are tried. -/
theorem logSubstitutes_cons (n : Node) (rest : List Node) :
    logSubstitutes ms ctx e owner (n :: rest) p =
      (logNode ms ctx e (n.standingFor owner) p).map Moment.tried
        ++ behind (renderNode ms ctx e (n.standingFor owner) p) fun out p' =>
          if isBlank out.runs then logSubstitutes ms ctx e owner rest p'
          else [Moment.standingIn n out p'] := by
  cases n with
  | names el inner =>
      rw [logSubstitutes, Node.standingFor, logNode, logBelow, renderNode]
  | _ =>
      rw [logSubstitutes]
      · rfl
      · simp

theorem logBelow_of_isLeaf {n : Node} (h : n.isLeaf = true) : logBelow ms ctx e n p = [] := by
  cases n with
  | text source f =>
      cases source with
      | ofMacro name => cases h
      | _ => rw [logBelow]
  | names el substitutes => cases h
  | group children delimiter f => cases h
  | choose branches otherwise => cases h
  | _ => rw [logBelow]

variable {name : String} {f : Formatting}

theorem logBelow_of_lookup_none (h : ms.lookup name = none) :
    logBelow ms ctx e (.text (.ofMacro name) f) p = [] := by
  rw [logBelow]
  split
  · rfl
  · rename_i hsome
    rw [h] at hsome
    exact absurd hsome (by simp only [reduceCtorEq, not_false_eq_true])

theorem logBelow_of_lookup {nodes : List Node} (h : ms.lookup name = some nodes) :
    logBelow ms ctx e (.text (.ofMacro name) f) p = logAll (ms.without name) ctx e nodes p := by
  rw [logBelow]
  split
  · rename_i hnone
    rw [h] at hnone
    exact absurd hnone (by simp only [reduceCtorEq, not_false_eq_true])
  · rename_i hsome
    rw [h, Option.some.injEq] at hsome
    rw [hsome]

end

end Render

end CslProcessor
