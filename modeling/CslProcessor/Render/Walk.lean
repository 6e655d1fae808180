import CslProcessor.Render.Element
import CslProcessor.Run.Punctuation

/-!
# The walk over a style

Rendering an entry walks over the elements of a style in their order. Every element reports its
runs, and how many variables were called below it and how many of those printed something. A group
all of whose variables print nothing disappears with everything in it.

When all names of an element are missing, its substitutes are tried in their order, and the first
one that prints something stands in for it. The variables that it printed are suppressed from then
on, so that a title in the place of an author is not printed twice.

Letters behind the year are printed where the style says so, else behind the first year that the
walk prints, else at the end.

A macro is looked up among the macros that are not being printed already, so that the walk ends
whatever the macros of a style refer to.

## Main definitions

* `Notice`, `Pass`, `Walk`: What a walk reports on the side, what it keeps, and walks.
* `Output`: What an element reports.
* `renderNode`, `renderAll`, `renderNames`, `renderSubstitutes`: The walk.
-/

namespace CslProcessor

namespace Render

open Runs

/-- What a rendering reports on the side. -/
inductive Notice
  /-- An element is of a kind that is not known. -/
  | unknownNode (kind : String)
  /-- A macro is not defined. -/
  | undefinedMacro (name : String)
  deriving Repr, DecidableEq

/-- What the walk over an entry keeps. -/
structure Pass where
  /-- Variables that are not printed any more. -/
  suppressed : List String := []
  /-- Whether the letters behind the year have been printed. -/
  suffixDone : Bool := false
  /-- What was reported on the side. -/
  notices : List Notice := []
  deriving Repr, DecidableEq, Inhabited

/-- A part of the walk. It can fail, and what it has kept until then stays. -/
abbrev Walk := EStateM RenderError Pass

/-- What an element reports. -/
structure Output where
  /-- The runs. -/
  runs : List TextRun := []
  /-- How many variables were called. -/
  called : Nat := 0
  /-- How many of them printed something. -/
  rendered : Nat := 0
  deriving Repr, DecidableEq, Inhabited

namespace Output

/-- One variable was called, with the runs it printed. -/
def ofRuns (runs : List TextRun) : Output :=
  { runs, called := 1, rendered := if runs.isEmpty then 0 else 1 }

/-- One variable was called and printed nothing. -/
def vacant : Output :=
  { called := 1 }

/-- What a sequence of elements reports. -/
def join (delimiter : String) (outs : List Output) : Output :=
  { runs := joinRuns delimiter (outs.map Output.runs)
    called := (outs.map Output.called).foldr (· + ·) 0
    rendered := (outs.map Output.rendered).foldr (· + ·) 0 }

end Output

/-- Macros by name. -/
abbrev Macros := List (String × List Node)

/-- The macros of all other names. -/
def Macros.without (ms : Macros) (name : String) : Macros :=
  ms.filter (·.1 != name)

/-- Without a macro that is there, there are fewer macros. -/
theorem Macros.length_without_lt {ms : Macros} {name : String} {nodes : List Node}
    (h : ms.lookup name = some nodes) : (ms.without name).length < ms.length := by
  induction ms with
  | nil => simp at h
  | cons m rest ih =>
    have hle : (rest.filter (·.1 != name)).length ≤ rest.length := List.length_filter_le _ _
    simp only [without, List.filter_cons]
    by_cases hm : name == m.1
    · have hm' : (m.1 != name) = false := by rw [bne, BEq.comm, hm]; rfl
      simp only [hm', List.length_cons]
      exact Nat.lt_succ_of_le hle
    · have hm' : (m.1 != name) = true := by rw [bne, BEq.comm, Bool.eq_false_iff.2 hm]; rfl
      simp only [hm', if_true, List.length_cons]
      rw [List.lookup_cons] at h
      simp only [hm] at h
      exact Nat.succ_lt_succ (ih h)

/-- A value computed without the walk. -/
def ofExcept {α : Type} : Except RenderError α → Walk α
  | .ok a => pure a
  | .error e => throw e

/-- Reports something on the side. -/
def note (n : Notice) : Walk Unit :=
  modify fun p => { p with notices := p.notices ++ [n] }

/-- The elements of the first branch whose condition is fulfilled. -/
def chosen (ctx : RenderContext) (e : Entry) (otherwise : List Node) : List Branch → List Node
  | [] => otherwise
  | .mk condition children :: rest =>
    if condition.holds e ctx then children else chosen ctx e otherwise rest

/-- The elements that are chosen are part of the choice. -/
theorem sizeOf_chosen_lt (ctx : RenderContext) (e : Entry) (otherwise : List Node)
    (branches : List Branch) :
    sizeOf (chosen ctx e otherwise branches) < 1 + sizeOf branches + sizeOf otherwise := by
  induction branches with
  | nil => simp [chosen]
  | cons b rest ih =>
    obtain ⟨condition, children⟩ := b
    unfold chosen
    split
    · simp only [List.cons.sizeOf_spec, Branch.mk.sizeOf_spec]; omega
    · simp only [List.cons.sizeOf_spec]; omega

/-- The runs of a variable printed as text. -/
def variableRuns (ctx : RenderContext) (e : Entry) (name : String) (form : TermForm) :
    Walk (List TextRun) := do
  if (← get).suppressed.contains name then return []
  else if name == "year-suffix" then
    match ← ofExcept ctx.letters? with
    | none => return []
    | some letters =>
      modify fun p => { p with suffixDone := true }
      return [suffixRun letters]
  else if name == "citation-number" then return citeNumber name ctx.cite.citationNumber
  else if name == "first-reference-note-number" then
    return citeNumber name ctx.cite.firstNoteNumber
  else if name == "locator" then ofExcept (locatorRuns ctx)
  else match formValue? e name form with
    | some v => ofExcept (valueRuns ctx name v)
    | none => return []

/-- A label. -/
def renderLabel (ctx : RenderContext) (e : Entry) (name : String) (form : TermForm)
    (plural : LabelPlural) (f : Formatting) : Walk Output := do
  if name == "locator" then
    return .ofRuns (finish f ctx.locale (locatorLabel ctx form plural))
  else if (← get).suppressed.contains name then return .vacant
  else match e.get? name with
    | none => return .vacant
    | some v =>
      return .ofRuns (finish f ctx.locale (← ofExcept (valueLabel ctx name form plural v)))

/-- A number. -/
def renderNumber (ctx : RenderContext) (e : Entry) (name : String) (form : NumberForm)
    (f : Formatting) : Walk Output := do
  if (← get).suppressed.contains name then return .vacant
  else match numberValue? ctx e name with
    | none => return .vacant
    | some v => return .ofRuns (finish f ctx.locale (← ofExcept (numberRuns ctx name form v)))

/-- Letters behind the first year of a date, unless they have a place elsewhere. -/
def placeSuffix (ctx : RenderContext) (runs : List TextRun) : Walk (List TextRun) := do
  match ← ofExcept ctx.letters? with
  | none => return runs
  | some letters =>
    -- A style that prints the letters itself decides on their place.
    if (← get).suffixDone || ctx.style.printsYearSuffix then return runs
    else match insertSuffix? letters runs with
      | none => return runs
      | some suffixed =>
        modify fun p => { p with suffixDone := true }
        return suffixed

/-- A date. -/
def renderDate (ctx : RenderContext) (e : Entry) (d : DateElement) : Walk Output := do
  if (← get).suppressed.contains d.variableName then return .vacant
  else match e.get? d.variableName with
    | none => return .vacant
    | some v =>
      let runs := dateRuns ctx d v
      let runs ← if d.variableName == "issued" then placeSuffix ctx runs else pure runs
      return .ofRuns (finish d.formatting ctx.locale runs)

/-- Suppresses the variables of the runs of a substitute, and further ones. -/
def suppress (runs : List TextRun) (further : List String) : Walk Unit :=
  modify fun p =>
    { p with
      suppressed := p.suppressed
        ++ (runs.filterMap (·.variableName)).filter (fun v => !v.isEmpty && v != "year-suffix")
        ++ further }

/-- A substitute stands in for an element. -/
def standIn (ctx : RenderContext) (owner : NamesElement) (out : Output) (further : List String) :
    Walk Output := do
  suppress out.runs further
  return { runs := finish owner.formatting ctx.locale out.runs, called := 1, rendered := 1 }

mutual

/-- One element. -/
def renderNode (ms : Macros) (ctx : RenderContext) (e : Entry) (n : Node) : Walk Output :=
  match n with
  | .text (.ofVariable name form) f => do
    let out := Output.ofRuns (← variableRuns ctx e name form)
    return { out with runs := finish f ctx.locale out.runs }
  | .text (.ofMacro name) f =>
    match h : ms.lookup name with
    | none => do
      note (.undefinedMacro name)
      return {}
    | some nodes => do
      -- Within its own elements a macro is undefined; this bounds the descent.
      have := Macros.length_without_lt h
      let out := Output.join "" (← renderAll (ms.without name) ctx e nodes)
      return { out with runs := finish f ctx.locale out.runs }
  | .text (.ofTerm name form plural) f =>
    let text := ctx.locale.term name form plural
    return { runs := finish f ctx.locale (if text.isEmpty then [] else [{ text, tag := .term }]) }
  | .text (.ofValue text) f =>
    return { runs := finish f ctx.locale (if text.isEmpty then [] else [{ text }]) }
  | .text .nothing _ => return {}
  | .label name form plural f => renderLabel ctx e name form plural f
  | .number name form f => renderNumber ctx e name form f
  | .date d => renderDate ctx e d
  | .names el substitutes => renderNames ms ctx e el substitutes
  | .group children delimiter f => do
    let out := Output.join delimiter (← renderAll ms ctx e children)
    -- Terms and literal text are no reason to print a group whose variables are all empty.
    if out.called > 0 && out.rendered == 0 then return { called := out.called }
    else return { out with runs := finish f ctx.locale out.runs }
  | .choose branches otherwise => do
    have := sizeOf_chosen_lt ctx e otherwise branches
    return Output.join "" (← renderAll ms ctx e (chosen ctx e otherwise branches))
  | .unknown kind => do
    note (.unknownNode kind)
    return {}
termination_by (ms.length, sizeOf n, 0)

/-- Elements in their order. -/
def renderAll (ms : Macros) (ctx : RenderContext) (e : Entry) (ns : List Node) :
    Walk (List Output) :=
  match ns with
  | [] => return []
  | n :: rest => do
    let out ← renderNode ms ctx e n
    let outs ← renderAll ms ctx e rest
    return out :: outs
termination_by (ms.length, sizeOf ns, 0)

/-- Lists of names, or what stands in for them. -/
def renderNames (ms : Macros) (ctx : RenderContext) (e : Entry) (el : NamesElement)
    (substitutes : List Node) : Walk Output := do
  match nameLists e (← get).suppressed el.variableNames with
  | [] => renderSubstitutes ms ctx e el substitutes
  | lists => return { runs := namesRuns ctx el lists, called := 1, rendered := 1 }
termination_by (ms.length, sizeOf substitutes, 1)

/-- The first substitute that prints something. -/
def renderSubstitutes (ms : Macros) (ctx : RenderContext) (e : Entry) (owner : NamesElement)
    (substitutes : List Node) : Walk Output :=
  match substitutes with
  | [] => return .vacant
  | .names el inner :: rest => do
    let out ← renderNames ms ctx e (inherit el owner) inner
    if isBlank out.runs then renderSubstitutes ms ctx e owner rest
    else standIn ctx owner out el.variableNames
  | n :: rest => do
    let out ← renderNode ms ctx e n
    if isBlank out.runs then renderSubstitutes ms ctx e owner rest
    else standIn ctx owner out []
termination_by (ms.length, sizeOf substitutes, 0)

end

end Render

end CslProcessor
