import CslProcessor.Proofs.Render.Descent
import CslProcessor.Proofs.Render.Marks

/-!
# Suppressed variables stay suppressed

The walk over a style keeps a set of variables that are not printed any more. No element takes a
variable out of it, and no element that is visited while a variable is in it prints a run of that
variable, whatever is printed below it: the elements that print a value look it up among the
suppressed variables first, and all others only put together what is printed below them.

The locator and the letters behind a year are apart. The label of a locator and the letters that a
date places are printed without regard to what is suppressed.

The invariant is about a set of variables that are suppressed, not about all of them, so that it
does not change as the walk suppresses more.

## Main definitions

* `Spared`: Marks of a run that is not of a variable of a set.
* `Sparing`: Work that leaves the variables of a set suppressed, with results of a kind.
* `ValueOutput`: What an element that prints a value reports.

## Theorems

* `Sparing.bind`: Work in sequence.
* `sparing_variableRuns`, `sparing_renderLabel`, `sparing_renderNumber`, `sparing_renderDate`:
  Elements that print a value.
* `sparingDescent`: The walk.
-/

namespace CslProcessor

namespace Render

open Runs

/-- The marks of a run that is not of a variable of a set, the locator and the letters behind a year
    apart. -/
def Spared (S : List String) (_tag : RunTag) (variableName : Option String) : Prop :=
  ∀ name ∈ S, variableName = some name → name = "locator" ∨ name = "year-suffix"

section

variable {S : List String}

theorem spared_punctuation : Spared S .punctuation none :=
  fun _ _ h => absurd h (by simp only [reduceCtorEq, not_false_eq_true])

/-- What belongs to variables outside of a set spares that set. -/
theorem BelongsTo.spared {names : List String} {tag : RunTag} {variableName : Option String}
    (h : BelongsTo names tag variableName)
    (hnames : ∀ name ∈ names, name ∈ S → name = "locator" ∨ name = "year-suffix") :
    Spared S tag variableName := by
  intro name hname heq
  rcases h with ⟨hnone, -⟩ | ⟨name', hname', hsome, -⟩
  · rw [hnone] at heq
    exact absurd heq (by simp only [reduceCtorEq, not_false_eq_true])
  · rw [hsome, Option.some.injEq] at heq
    exact hnames name (heq ▸ hname') hname

-- The same for the runs of one variable, which is not in the set or apart.
theorem spared_of_belongs {name : String} {runs : List TextRun}
    (h : Marked (BelongsTo [name]) runs)
    (hname : name ∈ S → name = "locator" ∨ name = "year-suffix") : Marked (Spared S) runs :=
  h.imp fun _ _ hbelongs => hbelongs.spared fun _ hmem => List.mem_singleton.1 hmem ▸ hname

theorem spared_suffixRun (letters : String) (flags : Flags) :
    Marked (Spared S) [suffixRun letters flags] :=
  marked_singleton fun _ _ h => Or.inr (Option.some.inj h).symm

end

/-! ## Work that leaves variables suppressed -/

/-- Work that leaves the variables of a set suppressed where they are, with results of a kind. -/
def Sparing {α : Type} (S : List String) (P : α → Prop) (w : Walk α) : Prop :=
  ∀ p : Pass, S ⊆ p.suppressed →
    S ⊆ (stateAfter (w p)).suppressed ∧ ∀ a p', w p = .ok a p' → P a

section

variable {α β : Type} {S : List String} {P : α → Prop} {Q : β → Prop}

theorem Sparing.pure {a : α} (h : P a) : Sparing S P (pure a : Walk α) := by
  intro p hp
  refine ⟨hp, fun a' p' heq => ?_⟩
  injection heq with ha _
  rw [← ha]
  exact h

/-- Work in sequence spares a set if each piece of it does. -/
theorem Sparing.bind {w : Walk α} {f : α → Walk β} (hw : Sparing S P w)
    (hf : ∀ a, P a → Sparing S Q (f a)) : Sparing S Q (w >>= f) := by
  intro p hp
  cases h : w p with
  | ok a p' =>
      have hp' := (hw p hp).1
      rw [h] at hp'
      rw [bind_of_ok h]
      exact hf a ((hw p hp).2 a p' h) p' hp'
  | error err p' =>
      have hp' := (hw p hp).1
      rw [h] at hp'
      rw [bind_of_error h]
      exact ⟨hp', fun _ _ heq => absurd heq (by simp only [reduceCtorEq, not_false_eq_true])⟩

theorem Sparing.imp {P' : α → Prop} {w : Walk α} (h : Sparing S P w) (hP : ∀ a, P a → P' a) :
    Sparing S P' w :=
  fun p hp => ⟨(h p hp).1, fun a p' heq => hP a ((h p hp).2 a p' heq)⟩

theorem sparing_get : Sparing S (fun p : Pass => S ⊆ p.suppressed) (get : Walk Pass) := by
  intro p hp
  refine ⟨hp, fun a p' heq => ?_⟩
  injection heq with ha _
  rw [← ha]
  exact hp

theorem sparing_modify {g : Pass → Pass} (h : ∀ p, p.suppressed ⊆ (g p).suppressed) :
    Sparing S (fun _ => True) (modify g : Walk PUnit) :=
  fun p hp => ⟨List.Subset.trans hp (h p), fun _ _ _ => trivial⟩

-- A report on the side.
theorem sparing_note (n : Notice) : Sparing S (fun _ => True) (note n) := by
  refine sparing_modify ?_
  exact fun p => List.Subset.refl p.suppressed

theorem sparing_ofExcept {x : Except RenderError α} (h : ∀ a, x = .ok a → P a) :
    Sparing S P (ofExcept x) := by
  cases x with
  | ok a => exact Sparing.pure (h a rfl)
  | error err =>
      exact fun p hp => ⟨hp, fun _ _ heq => absurd heq (by
        change EStateM.Result.error err p = _ at heq
        simp only [reduceCtorEq] at heq)⟩

end

/-! ## Elements without elements below them -/

/-- What an element reports spares a set. -/
def SparedOutput (S : List String) (out : Output) : Prop :=
  Marked (Spared S) out.runs

/-- What an element that prints a value reports. It has called one variable, which counts as printed
    if there is text. -/
structure ValueOutput (S : List String) (out : Output) : Prop where
  spared : SparedOutput S out
  called : out.called = 1
  rendered : out.rendered = if isBlank out.runs then 0 else 1

section

variable {S : List String} (ctx : RenderContext) (e : Entry)

theorem valueOutput_vacant : ValueOutput S .vacant :=
  ⟨marked_nil, rfl, rfl⟩

theorem valueOutput_finish (f : Formatting) (locale : Locale) {runs : List TextRun}
    (h : Marked (Spared S) runs) : ValueOutput S (.ofRuns (finish f locale runs)) := by
  refine ⟨h.finish spared_punctuation f locale, rfl, ?_⟩
  change (if (finish f locale runs).isEmpty then 0 else 1) = _
  rw [← isBlank_finish]
  rfl

-- A name that was not found among the suppressed ones.
theorem not_mem_of_not_contains {p : Pass} {name : String} (hp : S ⊆ p.suppressed)
    (h : ¬ p.suppressed.contains name = true) : name ∉ S :=
  fun hmem => h (List.contains_iff_mem.2 (hp hmem))

-- Letters are marked as such, and printing them suppresses nothing.
theorem sparing_lettersDone {runs : List TextRun} (h : Marked (Spared S) runs) :
    Sparing S (Marked (Spared S)) (do
      modify fun p : Pass => { p with suffixDone := true }
      return runs : Walk (List TextRun)) := by
  refine Sparing.bind (sparing_modify ?_) fun _ _ => Sparing.pure h
  exact fun p => List.Subset.refl p.suppressed

/-- A variable printed as text. -/
theorem sparing_variableRuns (name : String) (form : TermForm) :
    Sparing S (Marked (Spared S)) (variableRuns ctx e name form) := by
  refine sparing_get.bind fun p hp => ?_
  split_ifs with hsuppressed hletters hnumber hnote hlocator
  · exact Sparing.pure marked_nil
  · refine (sparing_ofExcept fun _ _ => trivial).bind fun letters _ => ?_
    cases letters with
    | none => exact Sparing.pure marked_nil
    | some letters => exact sparing_lettersDone (spared_suffixRun letters [])
  all_goals
    have hfree := not_mem_of_not_contains hp hsuppressed
    have hmine : ∀ {runs : List TextRun}, Marked (BelongsTo [name]) runs →
        Marked (Spared S) runs :=
      fun h => spared_of_belongs h fun hmem => absurd hmem hfree
  · exact Sparing.pure (hmine (belongs_citeNumber name _))
  · exact Sparing.pure (hmine (belongs_citeNumber name _))
  · refine sparing_ofExcept fun runs h => hmine ?_
    rw [beq_iff_eq.1 hlocator]
    exact belongs_locatorRuns ctx h
  · cases formValue? e name form with
    | none => exact Sparing.pure marked_nil
    | some v => exact sparing_ofExcept fun runs h => hmine (belongs_valueRuns ctx name h)

/-- A label. That of a locator is printed whether or not the locator is suppressed. -/
theorem sparing_renderLabel (name : String) (form : TermForm) (plural : LabelPlural)
    (f : Formatting) : Sparing S (ValueOutput S) (renderLabel ctx e name form plural f) := by
  have hfinish : ∀ {runs : List TextRun}, Marked (Spared S) runs →
      Sparing S (ValueOutput S) (pure (.ofRuns (finish f ctx.locale runs)) : Walk Output) :=
    fun h => Sparing.pure (valueOutput_finish f ctx.locale h)
  rw [renderLabel]
  split_ifs with hlocator
  · exact hfinish (spared_of_belongs (belongs_locatorLabel ctx form plural) fun _ => Or.inl rfl)
  · refine sparing_get.bind fun p hp => ?_
    split_ifs with hsuppressed
    · exact Sparing.pure valueOutput_vacant
    · have hfree := not_mem_of_not_contains hp hsuppressed
      cases e.get? name with
      | none => exact Sparing.pure valueOutput_vacant
      | some v =>
          have hruns : ∀ runs, valueLabel ctx name form plural v = .ok runs →
              Marked (Spared S) runs :=
            fun _ h => spared_of_belongs (belongs_valueLabel ctx name form plural h)
              fun hmem => absurd hmem hfree
          exact (sparing_ofExcept hruns).bind fun _ => hfinish

theorem sparing_renderNumber (name : String) (form : NumberForm) (f : Formatting) :
    Sparing S (ValueOutput S) (renderNumber ctx e name form f) := by
  refine sparing_get.bind fun p hp => ?_
  split_ifs with hsuppressed
  · exact Sparing.pure valueOutput_vacant
  · have hfree := not_mem_of_not_contains hp hsuppressed
    cases numberValue? ctx e name with
    | none => exact Sparing.pure valueOutput_vacant
    | some v =>
        have hruns : ∀ runs, numberRuns ctx name form v = .ok runs → Marked (Spared S) runs :=
          fun _ h => spared_of_belongs (belongs_numberRuns ctx name form h)
            fun hmem => absurd hmem hfree
        exact (sparing_ofExcept hruns).bind fun _ h =>
          Sparing.pure (valueOutput_finish f ctx.locale h)

theorem spared_insertSuffix {letters : String} {runs suffixed : List TextRun}
    (h : Marked (Spared S) runs) (hsuffix : insertSuffix? letters runs = some suffixed) :
    Marked (Spared S) suffixed := by
  induction runs generalizing suffixed with
  | nil => cases hsuffix
  | cons r rest ih =>
      have hr : Marked (Spared S) [r] := marked_singleton (h r List.mem_cons_self)
      have hrest : Marked (Spared S) rest := fun r' hr' => h r' (List.mem_cons_of_mem r hr')
      rw [insertSuffix?] at hsuffix
      split at hsuffix
      · cases hsuffix
        exact hr.append ((spared_suffixRun letters r.flags).append hrest)
      · rcases Option.map_eq_some_iff.1 hsuffix with ⟨rest', hrest', rfl⟩
        exact hr.append (ih hrest hrest')

theorem sparing_placeSuffix {runs : List TextRun} (h : Marked (Spared S) runs) :
    Sparing S (Marked (Spared S)) (placeSuffix ctx runs) := by
  refine (sparing_ofExcept fun _ _ => trivial).bind fun letters _ => ?_
  cases letters with
  | none => exact Sparing.pure h
  | some letters =>
      refine sparing_get.bind fun p _ => ?_
      split_ifs
      · exact Sparing.pure h
      · cases hsuffix : insertSuffix? letters runs with
        | none => exact Sparing.pure h
        | some suffixed => exact sparing_lettersDone (spared_insertSuffix h hsuffix)

theorem sparing_renderDate (d : DateElement) :
    Sparing S (ValueOutput S) (renderDate ctx e d) := by
  refine sparing_get.bind fun p hp => ?_
  by_cases hsuppressed : p.suppressed.contains d.variableName = true
  · rw [if_pos hsuppressed]
    exact Sparing.pure valueOutput_vacant
  · rw [if_neg hsuppressed]
    have hfree := not_mem_of_not_contains hp hsuppressed
    cases e.get? d.variableName with
    | none => exact Sparing.pure valueOutput_vacant
    | some v =>
        have hruns : Marked (Spared S) (dateRuns ctx d v) :=
          spared_of_belongs (belongs_dateRuns ctx d v) fun hmem => absurd hmem hfree
        have hfinish : ∀ runs, Marked (Spared S) runs → Sparing S (ValueOutput S)
            (pure (.ofRuns (finish d.formatting ctx.locale runs)) : Walk Output) :=
          fun runs h => Sparing.pure (valueOutput_finish d.formatting ctx.locale h)
        dsimp only
        split_ifs
        · exact (sparing_placeSuffix ctx hruns).bind hfinish
        · exact (Sparing.pure hruns).bind hfinish

/-- Elements without elements below them look up what they print among the suppressed variables. -/
theorem sparing_leaf (ms : Macros) (n : Node) (h : n.isLeaf = true) :
    Sparing S (SparedOutput S) (renderNode ms ctx e n) := by
  have hfixed : ∀ (f : Formatting) (r : TextRun), r.variableName = none →
      ∀ text : String, Sparing S (SparedOutput S) (pure
        { runs := finish f ctx.locale (if text.isEmpty then [] else [r]) } : Walk Output) := by
    intro f r hr text
    refine Sparing.pure (Marked.finish spared_punctuation f ctx.locale ?_)
    split_ifs
    · exact marked_nil
    · exact marked_singleton fun _ _ heq => absurd (hr.symm.trans heq) (by simp)
  cases n with
  | text source f =>
      cases source with
      | ofVariable name form =>
          rw [renderNode]
          exact (sparing_variableRuns ctx e name form).bind fun runs hruns =>
            Sparing.pure (hruns.finish spared_punctuation f ctx.locale)
      | ofMacro name => cases h
      | ofTerm name form plural =>
          rw [renderNode]
          exact hfixed f _ rfl _
      | ofValue text =>
          rw [renderNode]
          exact hfixed f _ rfl _
      | nothing =>
          rw [renderNode]
          exact Sparing.pure marked_nil
  | label name form plural f =>
      rw [renderNode]
      exact (sparing_renderLabel ctx e name form plural f).imp fun _ h => h.spared
  | number name form f =>
      rw [renderNode]
      exact (sparing_renderNumber ctx e name form f).imp fun _ h => h.spared
  | date d =>
      rw [renderNode]
      exact (sparing_renderDate ctx e d).imp fun _ h => h.spared
  | unknown kind =>
      rw [renderNode]
      exact (sparing_note _).bind fun _ _ => Sparing.pure marked_nil
  | names el substitutes => cases h
  | group children delimiter f => cases h
  | choose branches otherwise => cases h

end

/-! ## The walk -/

/-- The lists of names that an element prints are of variables that are not suppressed. -/
theorem not_mem_of_mem_nameLists {e : Entry} {suppressed names : List String} {name : String}
    (h : name ∈ (nameLists e suppressed names).map Prod.fst) : name ∉ suppressed := by
  rcases List.mem_map.1 h with ⟨list, hlist, rfl⟩
  rcases List.mem_map.1 (List.mem_filter.1 hlist).1 with ⟨v, hv, rfl⟩
  have hfree := (List.mem_filter.1 hv).2
  exact fun hmem => by simp [hmem] at hfree

section

variable {S : List String} (ctx : RenderContext) (e : Entry)

/-- A substitute that stands in for an element suppresses more. -/
theorem sparing_standIn {out : Output} (h : SparedOutput S out) (owner : NamesElement)
    (further : List String) : Sparing S (SparedOutput S) (standIn ctx owner out further) := by
  refine Sparing.bind (sparing_modify ?_) fun _ _ =>
    Sparing.pure (Marked.finish spared_punctuation owner.formatting ctx.locale h)
  exact fun p => List.Subset.trans (List.subset_append_left _ _) (List.subset_append_left _ _)

theorem sparedOutput_join {outs : List Output} (h : ∀ out ∈ outs, SparedOutput S out)
    (delimiter : String) : SparedOutput S (.join delimiter outs) := by
  refine marked_joinRuns spared_punctuation delimiter fun group hgroup => ?_
  rcases List.mem_map.1 hgroup with ⟨out, hout, rfl⟩
  exact h out hout

/-- The walk leaves suppressed variables suppressed and prints none of them. -/
theorem sparingDescent : Descent ctx e
    (fun ms n => Sparing S (SparedOutput S) (renderNode ms ctx e n))
    (fun ms ns => Sparing S (fun outs => ∀ out ∈ outs, SparedOutput S out)
      (renderAll ms ctx e ns))
    (fun ms owner substitutes => Sparing S (SparedOutput S)
      (renderSubstitutes ms ctx e owner substitutes)) where
  leaf := sparing_leaf ctx e
  undefined ms name f h := by
    rw [renderNode_of_lookup_none h]
    exact (sparing_note _).bind fun _ _ => Sparing.pure marked_nil
  defined ms name f nodes h hnodes := by
    rw [renderNode_of_lookup h]
    exact hnodes.bind fun outs houts => Sparing.pure
      (Marked.finish spared_punctuation f ctx.locale (sparedOutput_join houts ""))
  names ms el substitutes hsubstitutes := by
    rw [renderNode, renderNames]
    refine sparing_get.bind fun p hp => ?_
    cases hlists : nameLists e p.suppressed el.variableNames with
    | nil => exact hsubstitutes
    | cons list rest =>
        refine Sparing.pure ((belongs_namesRuns ctx el _).imp fun _ _ h => h.spared ?_)
        intro name hname hmem
        rw [← hlists] at hname
        exact absurd (hp hmem) (not_mem_of_mem_nameLists hname)
  group ms children delimiter f hchildren := by
    rw [renderNode]
    refine hchildren.bind fun outs houts => ?_
    have hjoined := sparedOutput_join houts delimiter
    dsimp only
    split_ifs
    · exact Sparing.pure marked_nil
    · exact Sparing.pure (Marked.finish spared_punctuation f ctx.locale hjoined)
  choose ms branches otherwise hchosen := by
    rw [renderNode]
    exact hchosen.bind fun outs houts => Sparing.pure (sparedOutput_join houts "")
  nil ms := by
    rw [renderAll]
    exact Sparing.pure fun _ h => absurd h List.not_mem_nil
  cons ms n rest hn hrest := by
    rw [renderAll]
    refine hn.bind fun out hout => hrest.bind fun outs houts => Sparing.pure ?_
    exact List.forall_mem_cons.2 ⟨hout, houts⟩
  noSubstitute ms owner := by
    rw [renderSubstitutes]
    exact Sparing.pure marked_nil
  substitute ms owner n rest hn hrest := by
    rw [renderSubstitutes_cons]
    refine hn.bind fun out hout => ?_
    split_ifs
    · exact hrest
    · exact sparing_standIn ctx hout owner _

end

end Render

end CslProcessor
