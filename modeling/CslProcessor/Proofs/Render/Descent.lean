import CslProcessor.Proofs.Render.Trace

/-!
# Descending into the elements of a style

The walk over a style recurses over elements, over sequences of elements, and over the substitutes
of a list of names, and it enters a macro with the macros that are left. A property of all elements
follows the same descent. It is shown for every kind of element from the elements that the walk
visits for it; the induction over what is left to visit is done here once.

A substitute that is a list of names is visited with the options that it takes over from the element
it stands in for. So a substitute is always visited as some element, and a list of substitutes needs
no case for lists of names.

## Main definitions

* `Node.isLeaf`: Whether the walk visits nothing below an element.
* `Node.standingFor`: A substitute as it is visited.
* `Descent`: What a property of elements and sequences has to satisfy.

## Theorems

* `renderSubstitutes_cons`: The first of some substitutes is visited, and maybe the others.
* `Descent.node`, `Descent.all`, `Descent.substitutes`: The property holds of all of them.
-/

namespace CslProcessor

namespace Node

/-- Whether the walk visits nothing below an element. -/
def isLeaf : Node → Bool
  | .text (.ofMacro _) _ | .names .. | .group .. | .choose .. => false
  | .text .. | .label .. | .number .. | .date _ | .unknown _ => true

/-- A substitute as it is visited for the element that it stands in for. -/
def standingFor (owner : NamesElement) : Node → Node
  | .names el inner => .names (Render.inherit el owner) inner
  | n => n

/-- The variables that an element lists as those of its names. -/
def listed : Node → List String
  | .names el _ => el.variableNames
  | _ => []

end Node

namespace Render

open Runs

section

variable (ms : Macros) (ctx : RenderContext) (e : Entry) (owner : NamesElement)

/-- The first of some substitutes is visited. If it prints something it stands in for its owner, and
    else the others are tried. -/
theorem renderSubstitutes_cons (n : Node) (rest : List Node) :
    renderSubstitutes ms ctx e owner (n :: rest) = (do
      let out ← renderNode ms ctx e (n.standingFor owner)
      if isBlank out.runs then renderSubstitutes ms ctx e owner rest
      else standIn ctx owner out n.listed) := by
  cases n with
  | names el inner => rw [renderSubstitutes, Node.standingFor, renderNode, Node.listed]
  | _ =>
      rw [renderSubstitutes]
      · rfl
      · simp

end

/-! ## Properties of all elements -/

/-- What a property `N` of elements, `S` of sequences and `T` of the substitutes of an element has
    to satisfy to hold of whatever the walk visits. -/
structure Descent (ctx : RenderContext) (e : Entry) (N : Macros → Node → Prop)
    (S : Macros → List Node → Prop) (T : Macros → NamesElement → List Node → Prop) : Prop where
  leaf : ∀ ms n, n.isLeaf = true → N ms n
  undefined : ∀ ms name f, ms.lookup name = none → N ms (.text (.ofMacro name) f)
  defined : ∀ ms name f nodes, ms.lookup name = some nodes → S (ms.without name) nodes →
    N ms (.text (.ofMacro name) f)
  names : ∀ ms el substitutes, T ms el substitutes → N ms (.names el substitutes)
  group : ∀ ms children delimiter f, S ms children → N ms (.group children delimiter f)
  choose : ∀ ms branches otherwise, S ms (chosen ctx e otherwise branches) →
    N ms (.choose branches otherwise)
  nil : ∀ ms, S ms []
  cons : ∀ ms n rest, N ms n → S ms rest → S ms (n :: rest)
  noSubstitute : ∀ ms owner, T ms owner []
  substitute : ∀ ms owner n rest, N ms (n.standingFor owner) → T ms owner rest →
    T ms owner (n :: rest)

section

variable {ctx : RenderContext} {e : Entry} {N : Macros → Node → Prop}
  {S : Macros → List Node → Prop} {T : Macros → NamesElement → List Node → Prop}

-- The measures are those of the walk, so that each case descends as the walk does.
mutual

/-- The property holds of every element. -/
theorem Descent.node (d : Descent ctx e N S T) (ms : Macros) (n : Node) : N ms n := by
  cases n with
  | text source f =>
      cases source with
      | ofMacro name =>
          cases h : ms.lookup name with
          | none => exact d.undefined ms name f h
          | some nodes =>
              have := Macros.length_without_lt h
              exact d.defined ms name f nodes h (d.all (ms.without name) nodes)
      | _ => exact d.leaf ms _ rfl
  | names el substitutes => exact d.names ms el substitutes (d.substitutes ms el substitutes)
  | group children delimiter f => exact d.group ms children delimiter f (d.all ms children)
  | choose branches otherwise =>
      have := sizeOf_chosen_lt ctx e otherwise branches
      exact d.choose ms branches otherwise (d.all ms (chosen ctx e otherwise branches))
  | _ => exact d.leaf ms _ rfl
termination_by (ms.length, sizeOf n)

/-- The property holds of every sequence of elements. -/
theorem Descent.all (d : Descent ctx e N S T) (ms : Macros) (ns : List Node) : S ms ns := by
  cases ns with
  | nil => exact d.nil ms
  | cons n rest => exact d.cons ms n rest (d.node ms n) (d.all ms rest)
termination_by (ms.length, sizeOf ns)

/-- The property holds of the substitutes of every element. -/
theorem Descent.substitutes (d : Descent ctx e N S T) (ms : Macros) (owner : NamesElement)
    (substitutes : List Node) : T ms owner substitutes := by
  cases substitutes with
  | nil => exact d.noSubstitute ms owner
  | cons n rest =>
      have hn := d.node ms n
      have hrest := d.substitutes ms owner rest
      cases n with
      -- The element as it is visited may be larger, but its own substitutes are the same.
      | names el inner =>
          exact d.substitute ms owner _ rest
            (d.names ms _ inner (d.substitutes ms (inherit el owner) inner)) hrest
      | _ => exact d.substitute ms owner _ rest hn hrest
termination_by (ms.length, sizeOf substitutes)

end

end

end Render

end CslProcessor
