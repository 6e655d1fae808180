import CslProcessor.Proofs.Render.Log
import CslProcessor.Proofs.Render.Suppression

/-!
# Substituted variables are not printed again

A substitute that stands in for a list of names suppresses the variables of its runs, and those that
it lists if it is a list of names itself. On the log of a walk this is read off as follows. Every
part of the log begins and ends with some suppressed variables; along it they only grow, and the
variables that a substitute spends are among them from the moment at which it stands in. Parts of
the log follow one another, each beginning where the one before it has ended, so that the whole log
has the property.

An element that is visited later finds the spent variables suppressed, and prints none of them. A
variable without a name is apart: the walk takes a run of it to be a run of no variable.

## Main definitions

* `Happening.spent`: The variables that a substitute suppresses.
* `Chronicle`: A part of a log with the variables that are suppressed before and behind it.

## Theorems

* `Chronicle.append`, `Chronicle.behind`: Parts of a log, one behind the other.
* `chronicleDescent`, `chronicle_entryLog`: The log of a walk.
* `substituted_not_printed_again`: No later element prints what a substitute has spent.
-/

namespace CslProcessor

namespace Render

open Runs

/-! ## The log -/

/-- The variables that a substitute which stands in suppresses: those of its runs, and those that it
    lists itself. -/
def Happening.spent : Happening → List String
  | .visit _ _ => []
  | .standIn candidate runs =>
    (runs.filterMap (·.variableName)).filter (fun v => !v.isEmpty && v != "year-suffix")
      ++ candidate.listed

/-- Moments of a part of a walk that begins and ends with some suppressed variables. Variables are
    suppressed as they are spent, and stay so. -/
structure Chronicle (start stop : List String) (log : List Moment) : Prop where
  whole : start ⊆ stop
  since : ∀ m ∈ log, start ⊆ m.pass.suppressed
  before : ∀ m ∈ log, m.pass.suppressed ⊆ stop
  ascending : log.Pairwise fun m m' => m.pass.suppressed ⊆ m'.pass.suppressed
  spent : ∀ m ∈ log, m.what.spent ⊆ m.pass.suppressed

section

variable {start between stop : List String} {log later : List Moment}

theorem chronicle_nil (h : start ⊆ stop) : Chronicle start stop [] where
  whole := h
  since _ hm := absurd hm List.not_mem_nil
  before _ hm := absurd hm List.not_mem_nil
  ascending := List.Pairwise.nil
  spent _ hm := absurd hm List.not_mem_nil

theorem chronicle_singleton {m : Moment} (hstart : start ⊆ m.pass.suppressed)
    (hstop : m.pass.suppressed ⊆ stop) (hspent : m.what.spent ⊆ m.pass.suppressed) :
    Chronicle start stop [m] where
  whole := List.Subset.trans hstart hstop
  since _ hm := by rwa [List.mem_singleton.1 hm]
  before _ hm := by rwa [List.mem_singleton.1 hm]
  ascending := List.pairwise_singleton _ _
  spent _ hm := by rwa [List.mem_singleton.1 hm]

/-- Two parts of a walk, one behind the other. -/
theorem Chronicle.append (h : Chronicle start between log) (h' : Chronicle between stop later) :
    Chronicle start stop (log ++ later) where
  whole := List.Subset.trans h.whole h'.whole
  since m hm :=
    (List.mem_append.1 hm).elim (h.since m) fun hm => List.Subset.trans h.whole (h'.since m hm)
  before m hm :=
    (List.mem_append.1 hm).elim (fun hm => List.Subset.trans (h.before m hm) h'.whole)
      (h'.before m)
  ascending := List.pairwise_append.2 ⟨h.ascending, h'.ascending,
    fun m hm m' hm' => List.Subset.trans (h.before m hm) (h'.since m' hm')⟩
  spent m hm := (List.mem_append.1 hm).elim (h.spent m) (h'.spent m)

theorem Chronicle.visiting {p : Pass} (h : Chronicle p.suppressed stop log) (ms : Macros)
    (n : Node) : Chronicle p.suppressed stop (Moment.visiting ms n p :: log) := by
  have hvisit : Chronicle p.suppressed p.suppressed [Moment.visiting ms n p] :=
    chronicle_singleton (List.Subset.refl _) (List.Subset.refl _) (List.nil_subset _)
  exact hvisit.append h

-- Whether a moment is on trial says nothing of what is suppressed.
theorem Chronicle.tried (h : Chronicle start stop log) :
    Chronicle start stop (log.map Moment.tried) where
  whole := h.whole
  since := List.forall_mem_map.2 h.since
  before := List.forall_mem_map.2 h.before
  ascending := List.pairwise_map.2 h.ascending
  spent := List.forall_mem_map.2 h.spent

variable {α β : Type} {w : Walk α} {f : α → Walk β} {p : Pass}

/-- A part of a walk with what happens behind it. -/
theorem Chronicle.behind {next : α → Pass → List Moment}
    (hw : Chronicle p.suppressed (stateAfter (w p)).suppressed log)
    (hnext : ∀ a p', w p = .ok a p' →
      Chronicle p'.suppressed (stateAfter (f a p')).suppressed (next a p')) :
    Chronicle p.suppressed (stateAfter ((w >>= f) p)).suppressed
      (log ++ Render.behind (w p) next) := by
  cases h : w p with
  | ok a p' =>
      rw [h] at hw
      rw [bind_of_ok h]
      exact hw.append (hnext a p' h)
  | error err p' =>
      rw [h] at hw
      rw [bind_of_error h]
      exact hw.append (chronicle_nil (List.Subset.refl _))

-- Work that logs nothing and suppresses no less.
theorem Chronicle.bind (hw : Chronicle p.suppressed (stateAfter (w p)).suppressed log)
    (hf : ∀ a p', p'.suppressed ⊆ (stateAfter (f a p')).suppressed) :
    Chronicle p.suppressed (stateAfter ((w >>= f) p)).suppressed log := by
  cases h : w p with
  | ok a p' =>
      rw [h] at hw
      rw [bind_of_ok h, ← List.append_nil log]
      exact hw.append (chronicle_nil (hf a p'))
  | error err p' =>
      rw [h] at hw
      rw [bind_of_error h]
      exact hw

-- Putting together what was reported suppresses nothing.
theorem Chronicle.bind_pure {g : α → β}
    (hw : Chronicle p.suppressed (stateAfter (w p)).suppressed log) :
    Chronicle p.suppressed (stateAfter ((w >>= fun a => pure (g a)) p)).suppressed log :=
  hw.bind fun _ p' => List.Subset.refl p'.suppressed

end

section

variable (ctx : RenderContext) (e : Entry)

/-- A substitute that stands in has suppressed the variables that it spends. -/
theorem chronicle_standingIn (owner : NamesElement) (n : Node) (out : Output) (p : Pass) :
    Chronicle p.suppressed (stateAfter (standIn ctx owner out n.listed p)).suppressed
      [Moment.standingIn n out p] := by
  refine chronicle_singleton ?_ (List.Subset.refl _) ?_
  · exact List.Subset.trans (List.subset_append_left _ _) (List.subset_append_left _ _)
  · refine List.append_subset.2 ⟨?_, List.subset_append_right _ _⟩
    exact List.Subset.trans (List.subset_append_right _ _) (List.subset_append_left _ _)

/-- The log of a walk is a chronicle of what the walk suppresses. -/
theorem chronicleDescent : Descent ctx e
    (fun ms n => ∀ p, Chronicle p.suppressed (stateAfter (renderNode ms ctx e n p)).suppressed
      (logNode ms ctx e n p))
    (fun ms ns => ∀ p, Chronicle p.suppressed (stateAfter (renderAll ms ctx e ns p)).suppressed
      (logAll ms ctx e ns p))
    (fun ms owner substitutes => ∀ p, Chronicle p.suppressed
      (stateAfter (renderSubstitutes ms ctx e owner substitutes p)).suppressed
      (logSubstitutes ms ctx e owner substitutes p)) where
  leaf ms n h p := by
    rw [logNode, logBelow_of_isLeaf h]
    have hgrows := (sparing_leaf ctx e ms n h p (List.Subset.refl _)).1
    exact (chronicle_nil hgrows).visiting ms n
  undefined ms name f h p := by
    rw [logNode, logBelow_of_lookup_none h, renderNode_of_lookup_none h]
    exact (chronicle_nil (List.Subset.refl _)).visiting ms _
  defined ms name f nodes h hnodes p := by
    rw [logNode, logBelow_of_lookup h, renderNode_of_lookup h]
    exact (hnodes p).bind_pure.visiting ms _
  names ms el substitutes hsubstitutes p := by
    rw [logNode, logBelow, logNames, renderNode, renderNames, get_bind]
    refine Chronicle.visiting ?_ ms _
    cases nameLists e p.suppressed el.variableNames with
    | nil => exact hsubstitutes p
    | cons list rest => exact chronicle_nil (List.Subset.refl _)
  group ms children delimiter f hchildren p := by
    rw [logNode, logBelow, renderNode]
    simp only [← apply_ite (pure : Output → Walk Output)]
    exact (hchildren p).bind_pure.visiting ms _
  choose ms branches otherwise hchosen p := by
    rw [logNode, logBelow, renderNode]
    exact (hchosen p).bind_pure.visiting ms _
  nil ms p := by
    rw [logAll, renderAll]
    exact chronicle_nil (List.Subset.refl _)
  cons ms n rest hn hrest p := by
    rw [logAll_cons, renderAll]
    exact (hn p).behind fun _ p' _ => (hrest p').bind_pure
  noSubstitute ms owner p := by
    rw [logSubstitutes, renderSubstitutes]
    exact chronicle_nil (List.Subset.refl _)
  substitute ms owner n rest hn hrest p := by
    rw [logSubstitutes_cons, renderSubstitutes_cons]
    refine (hn p).tried.behind fun out p' _ => ?_
    split_ifs
    · exact hrest p'
    · exact chronicle_standingIn ctx owner n out p'

end

/-! ## Entries -/

section

variable (ctx : RenderContext) (e : Entry) (nodes : List Node)

-- Letters at the end suppress nothing.
theorem sparing_appendSuffix {S : List String} (runs : List TextRun) :
    Sparing S (fun _ => True) (appendSuffix ctx runs) := by
  refine (sparing_ofExcept fun _ _ => trivial).bind fun letters _ => ?_
  cases letters with
  | none => exact Sparing.pure trivial
  | some letters =>
      refine sparing_get.bind fun p _ => ?_
      split_ifs
      · exact Sparing.pure trivial
      · exact Sparing.pure trivial

/-- The log of an entry is a chronicle of what the walk over it suppresses. -/
theorem chronicle_entryLog :
    Chronicle [] (stateAfter (walkEntry ctx e nodes {})).suppressed (entryLog ctx e nodes) :=
  ((chronicleDescent ctx e).all ctx.style.macros nodes {}).bind fun _ p' =>
    (sparing_appendSuffix ctx _ p' (List.Subset.refl _)).1

-- A variable with a name is spent by runs of it, and any by the element that lists it.
theorem mem_spent {candidate : Node} {runs : List TextRun} {v : String}
    (h : v ∈ candidate.listed ∨ v ≠ "" ∧ ∃ r ∈ runs, r.variableName = some v)
    (hletters : v ≠ "year-suffix") : v ∈ (Happening.standIn candidate runs).spent := by
  refine List.mem_append.2 (h.symm.imp (fun ⟨hname, r, hr, hv⟩ => ?_) id)
  refine List.mem_filter.2 ⟨List.mem_filterMap.2 ⟨r, hr, hv⟩, ?_⟩
  simp [hname, hletters]

/-- What a substitute has printed in the place of an element is not printed again. On the walk over
    an entry, the suppressed variables only grow; and once a substitute stands in for an element, no
    element that is visited later reports a run of a variable that the substitute lists, or that has
    a name and is the variable of one of its runs, locators and letters behind a year apart. -/
theorem substituted_not_printed_again :
    ((entryLog ctx e nodes).Pairwise fun m m' => m.pass.suppressed ⊆ m'.pass.suppressed) ∧
    (∀ m ∈ entryLog ctx e nodes,
      m.pass.suppressed ⊆ (stateAfter (walkEntry ctx e nodes {})).suppressed) ∧
    ∀ (won seen : Moment) (candidate n : Node) (runs : List TextRun) (ms : Macros) (out : Output)
      (p : Pass) (v : String), [won, seen].Sublist (entryLog ctx e nodes) →
      won.what = .standIn candidate runs → seen.what = .visit ms n →
      renderNode ms ctx e n seen.pass = .ok out p →
      (v ∈ candidate.listed ∨ v ≠ "" ∧ ∃ r ∈ runs, r.variableName = some v) →
      v ≠ "locator" → v ≠ "year-suffix" → ∀ r ∈ out.runs, r.variableName ≠ some v := by
  have hlog := chronicle_entryLog ctx e nodes
  refine ⟨hlog.ascending, hlog.before, ?_⟩
  intro won seen candidate n runs ms out p v hlater hwon hseen hout hv hlocator hletters r hr hmark
  have hgrows := List.pairwise_iff_forall_sublist.1 hlog.ascending hlater
  have hspent := hlog.spent won (hlater.subset List.mem_cons_self)
  rw [hwon] at hspent
  have hmem : v ∈ seen.pass.suppressed := hgrows (hspent (mem_spent hv hletters))
  have hspared := ((sparingDescent ctx e).node ms n seen.pass (List.Subset.refl _)).2 out p hout
  exact (hspared r hr v hmem hmark).elim hlocator hletters

end

/-! ## A variable in the place of the author -/

/-- The elements of a style without macros and a locale without terms. -/
def plainContext (nodes : List Node) : RenderContext :=
  { style := { id := "plain", citation := { layout := { children := nodes } } }
    locale := { lang := "en" }, part := { layout := { children := nodes } } }

/-- The author. -/
def authorNames : NamesElement :=
  { variableNames := ["author"] }

/-- A variable with the publisher behind it. -/
def withPublisher (v : String) : Node :=
  .group [.ofVariable v, .ofVariable "publisher"] ", " {}

/-- A variable in the place of the author, and then once more with the publisher. -/
def inPlaceOfAuthor (v : String) : List Node :=
  [.names authorNames [.ofVariable v], withPublisher v]

-- Without an author the variable stands in, and the group is visited later.
theorem standIn_before_withPublisher {nodes : List Node} {e : Entry} {v : String} {out : Output}
    (hauthor : e.names "author" = [])
    (hout : renderNode [] (plainContext nodes) e (.ofVariable v) {} = .ok out {})
    (hprinted : ¬ isBlank out.runs = true) :
    [Moment.standingIn (.ofVariable v) out {},
      Moment.visiting [] (withPublisher v) (stateAfter (suppress out.runs [] {}))].Sublist
        (entryLog (plainContext nodes) e (inPlaceOfAuthor v)) := by
  have hlists : nameLists e [] authorNames.variableNames = [] := by
    simp [nameLists, authorNames, hauthor]
  have hnames : renderNode [] (plainContext nodes) e (.names authorNames [.ofVariable v]) {} =
      standIn (plainContext nodes) authorNames out [] {} := by
    rw [renderNode, renderNames, get_bind, hlists]
    dsimp only
    rw [renderSubstitutes_cons]
    refine (bind_of_ok hout _).trans ?_
    rw [if_neg hprinted]
    rfl
  have hlog : logNode [] (plainContext nodes) e (.names authorNames [.ofVariable v]) {} =
      [Moment.visiting [] (.names authorNames [.ofVariable v]) {},
        (Moment.visiting [] (.ofVariable v) {}).tried,
        Moment.standingIn (.ofVariable v) out {}] := by
    have hvisited : (Node.ofVariable v).standingFor authorNames = .ofVariable v := rfl
    rw [logNode, logBelow, logNames, hlists]
    dsimp only
    rw [logSubstitutes_cons, hvisited, hout, logNode, logBelow_of_isLeaf rfl, behind,
      if_neg hprinted]
    rfl
  rw [entryLog, inPlaceOfAuthor, logAll_cons]
  change List.Sublist _ (logNode [] _ _ _ _ ++ behind (renderNode [] _ _ _ _) _)
  rw [hnames, hlog]
  have hstanding : [Moment.standingIn (.ofVariable v) out {}].Sublist
      [Moment.visiting [] (.names authorNames [.ofVariable v]) {},
        (Moment.visiting [] (.ofVariable v) {}).tried,
        Moment.standingIn (.ofVariable v) out {}] :=
    .cons _ (.cons _ (List.Sublist.refl _))
  refine hstanding.append ?_
  change List.Sublist [_] (logAll [] _ _ [withPublisher v] _)
  rw [logAll_cons]
  exact .cons_cons _ (List.nil_sublist _)

/-- A work without an author. -/
def annals : Entry :=
  { id := "annals", type := .book
    values := [("title", .text { text := "Annals" }), ("publisher", .text { text := "Press" })] }

-- When the group is visited the title has been used up, and the publisher has not.
theorem substituted_not_printed_again_annals :
    ∃ out p, renderNode [] (plainContext (inPlaceOfAuthor "title")) annals (withPublisher "title")
        { suppressed := ["title"] } = .ok out p ∧
      plainText out.runs = "Press" ∧ ∀ r ∈ out.runs, r.variableName ≠ some "title" := by
  have htitle : renderNode [] (plainContext (inPlaceOfAuthor "title")) annals
      (.ofVariable "title") {} =
      .ok { runs := [{ text := "Annals", tag := .title, variableName := some "title" }],
            called := 1, rendered := 1 } {} := by
    rw [Node.ofVariable, renderNode]
    rfl
  have hgroup : renderNode [] (plainContext (inPlaceOfAuthor "title")) annals
      (withPublisher "title") { suppressed := ["title"] } =
      .ok { runs := [{ text := "Press", tag := .publisher, variableName := some "publisher" }],
            called := 2, rendered := 1 } { suppressed := ["title"] } := by
    simp only [withPublisher, renderNode, renderAll, Node.ofVariable]
    rfl
  refine ⟨_, _, hgroup, by decide, ?_⟩
  exact (substituted_not_printed_again _ _ _).2.2 _ _ _ _ _ _ _ _ "title"
    (standIn_before_withPublisher rfl htitle (by decide)) rfl rfl hgroup
    (Or.inr ⟨by decide, _, List.mem_singleton_self _, rfl⟩) (by decide) (by decide)

/-- An entry with a variable that has no name. -/
def nameless : Entry :=
  { id := "nameless", values := [("", .text { text := "x" })] }

/-- The value of that variable. -/
def namelessRun : TextRun :=
  { text := "x", variableName := some "" }

/-- A variable without a name is not suppressed by the runs of a substitute. It is printed again. -/
theorem namelessVariable_printed_again :
    ∃ (won seen : Moment) (candidate n : Node) (runs : List TextRun) (ms : Macros) (out : Output)
      (p : Pass), [won, seen].Sublist
        (entryLog (plainContext (inPlaceOfAuthor "")) nameless (inPlaceOfAuthor "")) ∧
      won.what = .standIn candidate runs ∧ seen.what = .visit ms n ∧
      renderNode ms (plainContext (inPlaceOfAuthor "")) nameless n seen.pass = .ok out p ∧
      (∃ r ∈ runs, r.variableName = some "") ∧ ∃ r ∈ out.runs, r.variableName = some "" := by
  have hvariable : renderNode [] (plainContext (inPlaceOfAuthor "")) nameless (.ofVariable "") {} =
      .ok { runs := [namelessRun], called := 1, rendered := 1 } {} := by
    rw [Node.ofVariable, renderNode]
    rfl
  have hgroup : renderNode [] (plainContext (inPlaceOfAuthor "")) nameless (withPublisher "") {} =
      .ok { runs := [namelessRun], called := 2, rendered := 1 } {} := by
    simp only [withPublisher, renderNode, renderAll, Node.ofVariable]
    rfl
  exact ⟨_, _, _, _, _, _, _, _, standIn_before_withPublisher rfl hvariable (by decide), rfl, rfl,
    hgroup, ⟨_, List.mem_singleton_self _, rfl⟩, ⟨_, List.mem_singleton_self _, rfl⟩⟩

end Render

end CslProcessor
