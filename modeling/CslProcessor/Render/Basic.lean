import CslProcessor.Render.Walk

/-!
# Rendering

The output for an entry, for a citation of several entries, and for a macro by itself. Letters
behind the year that found no place among the elements stand at the end of an entry that prints
anything at all.

A rendering reports on the side what it met in the style that it could not print. The reports of
several renderings add up, also where one of them fails.

## Main definitions

* `Rendering`: Renderings with their reports.
* `walkEntry`: The walk over the elements of an entry.
* `entryRuns`: The runs of an entry, its letters included.
* `render`, `renderItem`: The output for an entry.
* `CitedItem`, `renderCitation`: The output for a citation.
* `renderMacro`: The text of a macro.
-/

namespace CslProcessor

namespace Render

open Runs

/-- A rendering, which can fail; its reports are kept in either case. -/
abbrev Rendering := EStateM RenderError (List Notice)

/-- Letters that have found no place stand at the end. -/
def appendSuffix (ctx : RenderContext) (runs : List TextRun) : Walk (List TextRun) := do
  match ← ofExcept ctx.letters? with
  | none => return runs
  | some letters =>
    if (← get).suffixDone || isBlank runs then return runs
    else return runs ++ [suffixRun letters]

/-- The walk over the elements of an entry. -/
def walkEntry (ctx : RenderContext) (e : Entry) (nodes : List Node) : Walk (List TextRun) := do
  let out := Output.join "" (← renderAll ctx.style.macros ctx e nodes)
  appendSuffix ctx out.runs

/-- The runs of an entry, its letters included. -/
def entryRuns (ctx : RenderContext) (e : Entry) (nodes : List Node) : Rendering (List TextRun) :=
  fun notices =>
    match walkEntry ctx e nodes {} with
    | .ok runs pass => .ok runs (notices ++ pass.notices)
    | .error err pass => .error err (notices ++ pass.notices)

/-- The runs of an entry with the punctuation in order. -/
def render (ctx : RenderContext) (e : Entry) (nodes : List Node) : Rendering (List TextRun) := do
  return normalizePunctuation ctx.locale.punctuationInQuote (← entryRuns ctx e nodes)

/-- The runs of one cite, with text around it. -/
def renderItem (ctx : RenderContext) (e : Entry) (layout : Layout) (lead : String := "")
    (trail : String := "") : Rendering (List TextRun) := do
  return withAffixes lead trail (← entryRuns ctx e layout.children)

/-- One cite of a citation. -/
structure CitedItem where
  /-- The entry. -/
  entry : Entry
  /-- What it is rendered with. -/
  context : RenderContext
  /-- Text in front of the cite. -/
  lead : String := ""
  /-- Text behind the cite. -/
  trail : String := ""
  deriving Repr

/-- The runs of several cites, one after the other. -/
def renderItems (layout : Layout) : List CitedItem → Rendering (List (List TextRun))
  | [] => return []
  | i :: rest => do
    let runs ← renderItem i.context i.entry layout i.lead i.trail
    let others ← renderItems layout rest
    return runs :: others

/-- The looks of a layout and its punctuation applied to the runs of its cites. -/
def finishLayout (layout : Layout) (locale : Locale) (runs : List TextRun) : List TextRun :=
  normalizePunctuation locale.punctuationInQuote (finish layout.formatting locale runs)

/-- The runs of a citation. -/
def renderCitation (layout : Layout) (locale : Locale) (items : List CitedItem) :
    Rendering (List TextRun) := do
  return finishLayout layout locale (joinRuns layout.delimiter (← renderItems layout items))

/-- The text of a macro, empty for one that is not defined. -/
def renderMacro (ctx : RenderContext) (e : Entry) (name : String) : Rendering String := do
  match ctx.style.macroNodes? name with
  | none => return ""
  | some nodes => return plainText (← render ctx e nodes)

end Render

end CslProcessor
