import CslProcessor.Proofs.Render.Looks
import CslProcessor.Proofs.Sequence
import CslProcessor.Render.Basic

/-!
# The walk with the origin of every run

The runs of an entry do not say which element printed them: a date element and a text element can
print runs that look the same. The walk of this module keeps the element beside every run, and is
the walk over the style apart from that. An element without elements below it has printed all that
it reports, and what stands around and between the runs of other elements was printed by none.

## Main definitions

* `Printed`: A run with its origin.
* `Trace`: What an element reports, with origins.
* `traceNode`, `traceAll`, `traceNames`, `traceSubstitutes`: The walk that keeps origins.
* `entryTrace`: The runs of an entry with their origins.

## Theorems

* `runsOf_finish`, `runsOf_join`: The looks of runs with origins, and how these are joined.
* `output_traceNode`, `output_traceAll`: The walk is the same without the origins.
* `entryRuns_eq_trace`: The runs of an entry are those of its trace.
-/

namespace CslProcessor

namespace Render

open Runs

/-- A run with the element that printed it. Text around and between elements has no origin. -/
structure Printed where
  /-- The run. -/
  run : TextRun
  /-- The element that printed it. -/
  origin : Option Node := none

/-- Runs without their origins. -/
def runsOf (ps : List Printed) : List TextRun :=
  ps.map Printed.run

/-- Runs that one element printed, or none. -/
def printedBy (origin : Option Node) (runs : List TextRun) : List Printed :=
  runs.map fun run => { run, origin }

@[simp]
theorem runsOf_append (a b : List Printed) : runsOf (a ++ b) = runsOf a ++ runsOf b :=
  List.map_append

@[simp]
theorem runsOf_printedBy (origin : Option Node) (runs : List TextRun) :
    runsOf (printedBy origin runs) = runs := by
  simp [runsOf, printedBy, Function.comp_def]

namespace Printed

/-- Runs that take the places of others and have their origins. -/
def replaced (ps : List Printed) (runs : List TextRun) : List Printed :=
  ps.zipWith (fun p run => { p with run }) runs

theorem runsOf_replaced {ps : List Printed} :
    ∀ {runs : List TextRun}, runs.length = ps.length → runsOf (replaced ps runs) = runs := by
  induction ps with
  | nil => exact fun {runs} h => (List.eq_nil_of_length_eq_zero h).symm
  | cons p rest ih =>
      intro runs h
      cases runs with
      | nil => rfl
      | cons r runs =>
          rw [List.length_cons, List.length_cons, Nat.add_right_cancel_iff] at h
          exact congrArg (r :: ·) (ih h)

/-- The looks of an element applied to runs with their origins. -/
def finish (f : Formatting) (locale : Locale) (ps : List Printed) : List Printed :=
  if vanishes f locale (runsOf ps) then []
  else printedBy none (opening f locale) ++ replaced ps (restyled f (runsOf ps))
    ++ printedBy none (closing f locale)

/-- Puts a group of runs behind those joined so far. -/
def joinStep (delimiter : String) (joined group : List Printed) : List Printed :=
  if isBlank (runsOf group) then joined
  else if joined.isEmpty then group
  else joined ++ printedBy none (punctuation delimiter) ++ group

/-- Groups of runs with a delimiter between them, blank groups left out. -/
def join (delimiter : String) (groups : List (List Printed)) : List Printed :=
  groups.foldl (joinStep delimiter) []

/-- The looks give the same runs with origins and without. -/
theorem runsOf_finish (f : Formatting) (locale : Locale) (ps : List Printed) :
    runsOf (finish f locale ps) = Render.finish f locale (runsOf ps) := by
  have hlength : (restyled f (runsOf ps)).length = ps.length := by
    rw [← (forall₂_restyled f (runsOf ps)).length_eq, runsOf, List.length_map]
  rw [finish_eq, finish]
  split
  · rfl
  · rw [runsOf_append, runsOf_append, runsOf_printedBy, runsOf_printedBy, runsOf_replaced hlength]

theorem runsOf_joinStep (delimiter : String) (joined group : List Printed) :
    runsOf (joinStep delimiter joined group) =
      Runs.joinStep delimiter (runsOf joined) (runsOf group) := by
  have hempty : (runsOf joined).isEmpty = joined.isEmpty := by rw [runsOf, List.isEmpty_map]
  rw [joinStep, Runs.joinStep, hempty]
  split
  · rfl
  · split
    · rfl
    · rw [runsOf_append, runsOf_append, runsOf_printedBy]

/-- Runs are joined in the same way with origins and without. -/
theorem runsOf_join (delimiter : String) (groups : List (List Printed)) :
    runsOf (join delimiter groups) = joinRuns delimiter (groups.map runsOf) := by
  have hfold : ∀ joined, runsOf (groups.foldl (joinStep delimiter) joined) =
      (groups.map runsOf).foldl (Runs.joinStep delimiter) (runsOf joined) := by
    induction groups with
    | nil => exact fun _ => rfl
    | cons group rest ih =>
        intro joined
        rw [List.foldl_cons, ih, runsOf_joinStep]
        rfl
  exact hfold []

end Printed

/-- What an element reports, with the origins of its runs. -/
structure Trace where
  /-- The runs. -/
  printed : List Printed := []
  /-- How many variables were called. -/
  called : Nat := 0
  /-- How many of them printed something. -/
  rendered : Nat := 0

namespace Trace

/-- The same without origins. -/
def output (t : Trace) : Output :=
  { runs := runsOf t.printed, called := t.called, rendered := t.rendered }

/-- What an element reports that has printed all of it. -/
def ofNode (n : Node) (out : Output) : Trace :=
  { printed := printedBy (some n) out.runs, called := out.called, rendered := out.rendered }

/-- What a sequence of elements reports. -/
def join (delimiter : String) (ts : List Trace) : Trace :=
  { printed := Printed.join delimiter (ts.map Trace.printed)
    called := (ts.map Trace.called).foldr (· + ·) 0
    rendered := (ts.map Trace.rendered).foldr (· + ·) 0 }

@[simp]
theorem output_ofNode (n : Node) (out : Output) : (ofNode n out).output = out := by
  rw [output, ofNode, runsOf_printedBy]

theorem output_join (delimiter : String) (ts : List Trace) :
    (join delimiter ts).output = Output.join delimiter (ts.map output) := by
  simp [output, join, Output.join, Printed.runsOf_join, Function.comp_def]

/-- The looks of an element applied to what is reported below it. -/
def finish (f : Formatting) (locale : Locale) (t : Trace) : Trace :=
  { t with printed := Printed.finish f locale t.printed }

theorem output_finish (f : Formatting) (locale : Locale) (t : Trace) :
    (t.finish f locale).output =
      { t.output with runs := Render.finish f locale t.output.runs } := by
  rw [output, finish, Printed.runsOf_finish, output]

/-- What a group reports. Terms and literal text are no reason to print it if its variables are all
    empty. -/
def grouped (f : Formatting) (locale : Locale) (t : Trace) : Trace :=
  if t.called > 0 && t.rendered == 0 then { called := t.called } else t.finish f locale

theorem output_grouped (f : Formatting) (locale : Locale) (t : Trace) :
    (t.grouped f locale).output =
      if t.output.called > 0 && t.output.rendered == 0 then { called := t.output.called }
      else { t.output with runs := Render.finish f locale t.output.runs } := by
  change _ = if t.called > 0 && t.rendered == 0 then _ else _
  rw [grouped]
  split
  · rfl
  · exact output_finish f locale t

end Trace

/-! ## The walk -/

/-- A substitute stands in for an element. -/
def standInTrace (ctx : RenderContext) (owner : NamesElement) (t : Trace) (further : List String) :
    Walk Trace := do
  suppress (runsOf t.printed) further
  return { printed := Printed.finish owner.formatting ctx.locale t.printed, called := 1,
           rendered := 1 }

mutual

/-- One element. -/
def traceNode (ms : Macros) (ctx : RenderContext) (e : Entry) (n : Node) : Walk Trace :=
  match n with
  | .text (.ofMacro name) f =>
    match h : ms.lookup name with
    | none => do
      note (.undefinedMacro name)
      return {}
    | some nodes => do
      have := Macros.length_without_lt h
      return (Trace.join "" (← traceAll (ms.without name) ctx e nodes)).finish f ctx.locale
  | .names el substitutes => traceNames ms ctx e el substitutes
  | .group children delimiter f => do
    return (Trace.join delimiter (← traceAll ms ctx e children)).grouped f ctx.locale
  | .choose branches otherwise => do
    have := sizeOf_chosen_lt ctx e otherwise branches
    return Trace.join "" (← traceAll ms ctx e (chosen ctx e otherwise branches))
  | .text (.ofVariable ..) _ | .text (.ofTerm ..) _ | .text (.ofValue _) _ | .text .nothing _
  | .label .. | .number .. | .date _ | .unknown _ => do
    return Trace.ofNode n (← renderNode ms ctx e n)
termination_by (ms.length, sizeOf n, 0)

/-- Elements in their order. -/
def traceAll (ms : Macros) (ctx : RenderContext) (e : Entry) (ns : List Node) :
    Walk (List Trace) :=
  match ns with
  | [] => return []
  | n :: rest => do
    let t ← traceNode ms ctx e n
    let ts ← traceAll ms ctx e rest
    return t :: ts
termination_by (ms.length, sizeOf ns, 0)

/-- Lists of names, or what stands in for them. -/
def traceNames (ms : Macros) (ctx : RenderContext) (e : Entry) (el : NamesElement)
    (substitutes : List Node) : Walk Trace := do
  match nameLists e (← get).suppressed el.variableNames with
  | [] => traceSubstitutes ms ctx e el substitutes
  | lists =>
    return Trace.ofNode (.names el substitutes)
      { runs := namesRuns ctx el lists, called := 1, rendered := 1 }
termination_by (ms.length, sizeOf substitutes, 1)

/-- The first substitute that prints something. -/
def traceSubstitutes (ms : Macros) (ctx : RenderContext) (e : Entry) (owner : NamesElement)
    (substitutes : List Node) : Walk Trace :=
  match substitutes with
  | [] => return { called := 1 }
  | .names el inner :: rest => do
    let t ← traceNames ms ctx e (inherit el owner) inner
    if isBlank (runsOf t.printed) then traceSubstitutes ms ctx e owner rest
    else standInTrace ctx owner t el.variableNames
  | n :: rest => do
    let t ← traceNode ms ctx e n
    if isBlank (runsOf t.printed) then traceSubstitutes ms ctx e owner rest
    else standInTrace ctx owner t []
termination_by (ms.length, sizeOf substitutes, 0)

end

/-! ## The same walk -/

theorem output_standInTrace (ctx : RenderContext) (owner : NamesElement) (t : Trace)
    (further : List String) :
    Trace.output <$> standInTrace ctx owner t further = standIn ctx owner t.output further := by
  rw [standInTrace, standIn, map_bind]
  simp only [map_pure, Trace.output, Printed.runsOf_finish]

-- A substitute stands in with its origins if it does without them.
theorem output_substitute {ctx : RenderContext} {owner : NamesElement} {further : List String}
    {t others : Walk Trace} {w others' : Walk Output} (ht : Trace.output <$> t = w)
    (hothers : Trace.output <$> others = others') :
    Trace.output <$> (do
        let r ← t
        if isBlank (runsOf r.printed) then others else standInTrace ctx owner r further) =
      (do
        let out ← w
        if isBlank out.runs then others' else standIn ctx owner out further) := by
  rw [← ht, ← hothers, map_bind, bind_map_left]
  refine congrArg _ (funext fun t => ?_)
  rw [apply_ite (Trace.output <$> ·), output_standInTrace]
  rfl

section

variable {ms : Macros} {ctx : RenderContext} {e : Entry} {name : String} {f : Formatting}

theorem renderNode_of_lookup_none (h : ms.lookup name = none) :
    renderNode ms ctx e (.text (.ofMacro name) f) = do
      note (.undefinedMacro name)
      return {} := by
  rw [renderNode]
  split
  · rfl
  · rename_i hsome
    rw [h] at hsome
    exact absurd hsome (by simp only [reduceCtorEq, not_false_eq_true])

theorem traceNode_of_lookup_none (h : ms.lookup name = none) :
    traceNode ms ctx e (.text (.ofMacro name) f) = do
      note (.undefinedMacro name)
      return {} := by
  rw [traceNode]
  split
  · rfl
  · rename_i hsome
    rw [h] at hsome
    exact absurd hsome (by simp only [reduceCtorEq, not_false_eq_true])

theorem renderNode_of_lookup {nodes : List Node} (h : ms.lookup name = some nodes) :
    renderNode ms ctx e (.text (.ofMacro name) f) = do
      let out := Output.join "" (← renderAll (ms.without name) ctx e nodes)
      return { out with runs := finish f ctx.locale out.runs } := by
  rw [renderNode]
  split
  · rename_i hnone
    rw [h] at hnone
    exact absurd hnone (by simp only [reduceCtorEq, not_false_eq_true])
  · rename_i hsome
    rw [h, Option.some.injEq] at hsome
    rw [hsome]

theorem traceNode_of_lookup {nodes : List Node} (h : ms.lookup name = some nodes) :
    traceNode ms ctx e (.text (.ofMacro name) f) = do
      return (Trace.join "" (← traceAll (ms.without name) ctx e nodes)).finish f ctx.locale := by
  rw [traceNode]
  split
  · rename_i hnone
    rw [h] at hnone
    exact absurd hnone (by simp only [reduceCtorEq, not_false_eq_true])
  · rename_i hsome
    rw [h, Option.some.injEq] at hsome
    rw [hsome]

end

-- What an element reports that is taken to have printed all of it.
theorem output_ofNode_bind (n : Node) (w : Walk Output) :
    Trace.output <$> (do return Trace.ofNode n (← w)) = w := by
  rw [map_bind]
  simp only [map_pure, Trace.output_ofNode, bind_pure]

mutual

/-- An element reports the same with origins and without. -/
theorem output_traceNode (ms : Macros) (ctx : RenderContext) (e : Entry) (n : Node) :
    Trace.output <$> traceNode ms ctx e n = renderNode ms ctx e n := by
  cases n with
  | text source f =>
      cases source with
      | ofMacro name =>
          cases h : ms.lookup name with
          | none =>
              rw [traceNode_of_lookup_none h, renderNode_of_lookup_none h, map_bind]
              rfl
          | some nodes =>
              have := Macros.length_without_lt h
              rw [traceNode_of_lookup h, renderNode_of_lookup h, ← output_traceAll, map_bind,
                bind_map_left]
              simp only [map_pure, Trace.output_finish, Trace.output_join]
      | ofVariable name form => rw [traceNode, output_ofNode_bind]
      | ofTerm name form plural => rw [traceNode, output_ofNode_bind]
      | ofValue text => rw [traceNode, output_ofNode_bind]
      | nothing => rw [traceNode, output_ofNode_bind]
  | label v form plural f => rw [traceNode, output_ofNode_bind]
  | number v form f => rw [traceNode, output_ofNode_bind]
  | date d => rw [traceNode, output_ofNode_bind]
  | names el substitutes =>
      rw [traceNode, renderNode]
      exact output_traceNames ms ctx e el substitutes
  | group children delimiter f =>
      rw [traceNode, renderNode, ← output_traceAll, map_bind, bind_map_left]
      refine congrArg _ (funext fun ts => ?_)
      rw [map_pure, Trace.output_grouped, Trace.output_join]
      exact apply_ite pure _ _ _
  | choose branches otherwise =>
      have := sizeOf_chosen_lt ctx e otherwise branches
      rw [traceNode, renderNode, ← output_traceAll, map_bind, bind_map_left]
      simp only [map_pure, Trace.output_join]
  | unknown kind => rw [traceNode, output_ofNode_bind]
termination_by (ms.length, sizeOf n, 0)

/-- A sequence of elements reports the same with origins and without. -/
theorem output_traceAll (ms : Macros) (ctx : RenderContext) (e : Entry) (ns : List Node) :
    List.map Trace.output <$> traceAll ms ctx e ns = renderAll ms ctx e ns := by
  cases ns with
  | nil =>
      rw [traceAll, renderAll, map_pure]
      rfl
  | cons n rest =>
      rw [traceAll, renderAll, ← output_traceNode, ← output_traceAll]
      simp only [map_bind, map_pure, bind_map_left, List.map_cons]
termination_by (ms.length, sizeOf ns, 0)

theorem output_traceNames (ms : Macros) (ctx : RenderContext) (e : Entry) (el : NamesElement)
    (substitutes : List Node) :
    Trace.output <$> traceNames ms ctx e el substitutes = renderNames ms ctx e el substitutes := by
  rw [traceNames, renderNames, map_bind]
  refine congrArg _ (funext fun p => ?_)
  cases nameLists e p.suppressed el.variableNames with
  | nil => exact output_traceSubstitutes ms ctx e el substitutes
  | cons list rest =>
      change Trace.output <$> pure _ = pure _
      rw [map_pure, Trace.output_ofNode]
termination_by (ms.length, sizeOf substitutes, 1)

theorem output_traceSubstitutes (ms : Macros) (ctx : RenderContext) (e : Entry)
    (owner : NamesElement) (substitutes : List Node) :
    Trace.output <$> traceSubstitutes ms ctx e owner substitutes =
      renderSubstitutes ms ctx e owner substitutes := by
  cases substitutes with
  | nil =>
      rw [traceSubstitutes, renderSubstitutes]
      rfl
  | cons n rest =>
      have hrest := output_traceSubstitutes ms ctx e owner rest
      cases n with
      | names el inner =>
          rw [traceSubstitutes, renderSubstitutes]
          exact output_substitute (output_traceNames ms ctx e (inherit el owner) inner) hrest
      | _ =>
          rw [traceSubstitutes, renderSubstitutes]
          · exact output_substitute (output_traceNode ms ctx e _) hrest
          all_goals simp
termination_by (ms.length, sizeOf substitutes, 0)

end

/-! ## Entries -/

/-- Letters that have found no place stand at the end. -/
def appendLetters (ctx : RenderContext) (ps : List Printed) : Walk (List Printed) := do
  match ← ofExcept ctx.letters? with
  | none => return ps
  | some letters =>
    if (← get).suffixDone || isBlank (runsOf ps) then return ps
    else return ps ++ printedBy none [suffixRun letters]

/-- The runs of an entry, its letters included, with their origins. -/
def entryTrace (ctx : RenderContext) (e : Entry) (nodes : List Node) : Walk (List Printed) := do
  let t := Trace.join "" (← traceAll ctx.style.macros ctx e nodes)
  appendLetters ctx t.printed

theorem runsOf_appendLetters (ctx : RenderContext) (ps : List Printed) :
    runsOf <$> appendLetters ctx ps = appendSuffix ctx (runsOf ps) := by
  rw [appendLetters, appendSuffix, map_bind]
  refine congrArg _ (funext fun letters => ?_)
  cases letters with
  | none => exact map_pure _ _
  | some letters =>
      change runsOf <$> (get >>= _) = get >>= _
      rw [map_bind]
      refine congrArg _ (funext fun p => ?_)
      rw [apply_ite (runsOf <$> ·), map_pure, map_pure, runsOf_append, runsOf_printedBy]

/-- The walk over an entry gives the same runs with origins and without. -/
theorem runsOf_entryTrace (ctx : RenderContext) (e : Entry) (nodes : List Node) :
    runsOf <$> entryTrace ctx e nodes = walkEntry ctx e nodes := by
  rw [entryTrace, walkEntry, ← output_traceAll, map_bind, bind_map_left]
  refine congrArg _ (funext fun ts => ?_)
  rw [runsOf_appendLetters, ← Trace.output_join]
  rfl

/-- The runs of an entry are those of its trace. -/
theorem entryRuns_eq_trace (ctx : RenderContext) (e : Entry) (nodes : List Node)
    (notices : List Notice) :
    entryRuns ctx e nodes notices =
      match entryTrace ctx e nodes {} with
      | .ok ps pass => .ok (runsOf ps) (notices ++ pass.notices)
      | .error err pass => .error err (notices ++ pass.notices) := by
  cases h : entryTrace ctx e nodes {} with
  | ok ps pass =>
      rw [entryRuns, ← runsOf_entryTrace, map_eq_pure_bind, bind_of_ok h]
      rfl
  | error err pass =>
      rw [entryRuns, ← runsOf_entryTrace, map_eq_pure_bind, bind_of_error h]

end Render

end CslProcessor
