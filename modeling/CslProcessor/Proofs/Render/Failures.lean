import CslProcessor.Proofs.Number.Lists
import CslProcessor.Proofs.Render.Descent
import CslProcessor.Proofs.Text.Digits
import CslProcessor.Sorting.Basic
import Mathlib.Data.List.TakeWhile

/-!
# How renderings fail

A rendering looks up variables, macros, terms and the parts of dates, and takes names, runs and
texts apart, any of which may not be there. None of this makes it fail. There are three causes of
failure: a number of the entry, or a locator, that is made of digits one of which has no place
value; letters behind the year at a negative index; and pages with something in them that is no
range, where the term that the locale has for the delimiter is no template. The error says which of
them it was.

Work in sequence fails for the causes of its pieces, so that the causes of the walk over a style are
those of the elements without elements below them.

## Main definitions

* `FailsBy`: Work that fails for certain causes only.
* `NumberText.Unreadable`: A number that cannot be read.
* `Cause`: What makes a rendering of an entry fail with an error.

## Theorems

* `not_unreadable_ofInt`: An integer can be read.
* `failingDescent`, `fails_render`, `fails_renderMacro`, `fails_sortEntries`: Renderings and sorting
  fail for their causes only.
-/

namespace CslProcessor

/-! ## Work that fails for certain causes only -/

section

variable {ε σ α β : Type} {C D : ε → Prop}

/-- Work that fails for certain causes only. -/
def FailsBy (C : ε → Prop) (m : EStateM ε σ α) : Prop :=
  ∀ s e u, m s = .error e u → C e

namespace FailsBy

theorem pure (a : α) : FailsBy C (Pure.pure a : EStateM ε σ α) :=
  fun _ _ _ h => nomatch h

/-- Work in sequence fails for the causes of its pieces. -/
theorem bind {m : EStateM ε σ α} {f : α → EStateM ε σ β} (hm : FailsBy C m)
    (hf : ∀ a, FailsBy C (f a)) : FailsBy C (m >>= f) := by
  intro s e u h
  rcases bind_eq_error_iff.1 h with hfirst | ⟨a, v, -, hsecond⟩
  · exact hm s e u hfirst
  · exact hf a v e u hsecond

theorem mapM {f : α → EStateM ε σ β} {l : List α} (hf : ∀ a ∈ l, FailsBy C (f a)) :
    FailsBy C (l.mapM f) := by
  induction l with
  | nil => exact pure []
  | cons a rest ih =>
    rw [List.mapM_cons]
    have hrest := ih fun b hb => hf b (List.mem_cons_of_mem a hb)
    exact (hf a List.mem_cons_self).bind fun _ => hrest.bind fun _ => pure _

theorem imp {m : EStateM ε σ α} (h : FailsBy C m) (hC : ∀ e, C e → D e) : FailsBy D m :=
  fun s e u hfail => hC e (h s e u hfail)

/-- Work that has no cause to fail returns. -/
theorem returns {m : EStateM ε σ α} (h : FailsBy C m) (hC : ∀ e, ¬C e) (s : σ) :
    ∃ a u, m s = .ok a u := by
  cases hm : m s with
  | ok a u => exact ⟨a, u, rfl⟩
  | error e u => exact absurd (h s e u hm) (hC e)

end FailsBy

theorem failsBy_get : FailsBy C (get : EStateM ε σ σ) :=
  fun _ _ _ h => nomatch h

theorem failsBy_modify (g : σ → σ) : FailsBy C (modify g : EStateM ε σ PUnit) :=
  fun _ _ _ h => nomatch h

end

/-! ## Causes -/

namespace NumberText

open Unicode

/-- Without the white space around it, a number has digits only, one of which is not decimal. -/
def Unreadable (v : NumberText) : Prop :=
  (∀ c ∈ v.core, isDigit c = true) ∧ ∃ c ∈ v.core, isDecimal c = false

/-- A number that is not read as an integer cannot be read, and the error shows it. -/
theorem unreadable_of_integer {v : NumberText} {e : NotDecimal} (h : v.integer = .error e) :
    v.Unreadable ∧ e = ⟨String.ofList v.core⟩ := by
  obtain ⟨hdigit, hdecimal, he⟩ := integer_eq_error_iff.1 h
  obtain ⟨c, hc, hnone⟩ := List.all_eq_false.1 hdecimal
  exact ⟨⟨List.all_eq_true.1 hdigit, c, hc, Bool.eq_false_iff.2 hnone⟩, he⟩

theorem mem_of_mem_core {v : NumberText} {c : Char} (h : c ∈ v.core) : c ∈ v.raw.toList := by
  unfold core Text.trim Text.trimEnd Text.trimStart at h
  rw [List.mem_reverse] at h
  have hdropped := (List.dropWhile_suffix isSpace).subset h
  rw [List.mem_reverse] at hdropped
  exact (List.dropWhile_suffix isSpace).subset hdropped

/-- Only white space is taken from the ends of a number. -/
theorem mem_core {v : NumberText} {c : Char} (h : c ∈ v.raw.toList) (hspace : isSpace c = false) :
    c ∈ v.core := by
  have hkept : ∀ {l : List Char}, c ∈ l → c ∈ l.dropWhile isSpace := by
    intro l hl
    rw [← List.takeWhile_append_dropWhile (p := isSpace) (l := l), List.mem_append] at hl
    rcases hl with hspaces | hrest
    · rw [List.mem_takeWhile_imp hspaces] at hspace
      cases hspace
    · exact hrest
  unfold core Text.trim Text.trimEnd Text.trimStart
  exact List.mem_reverse.2 (hkept (List.mem_reverse.2 (hkept h)))

/-- A letter among the characters of a number makes it a text, which is never read. -/
theorem not_unreadable_of_letter {v : NumberText} {c : Char} (h : c ∈ v.raw.toList)
    (hspace : isSpace c = false) (hdigit : isDigit c = false) : ¬v.Unreadable := by
  rintro ⟨hall, -⟩
  rw [hall c (mem_core h hspace)] at hdigit
  cases hdigit

/-- An integer is written in decimal digits. -/
theorem not_unreadable_ofInt (n : Int) : ¬(ofInt n).Unreadable := by
  rintro ⟨hdigit, c, hc, hdecimal⟩
  rcases Text.mem_toString_int (mem_of_mem_core hc) with rfl | hascii
  · exact absurd (hdigit '-' hc) (by decide)
  · have hlow : c.toNat < 128 := by
      have hlast : c.val ≤ 57 := of_decide_eq_true (Bool.and_eq_true_iff.1 hascii).2
      exact Nat.lt_of_le_of_lt (UInt32.le_iff_toNat_le.1 hlast) (by decide)
    rw [isDecimal, if_pos hlow, hascii] at hdecimal
    cases hdecimal

end NumberText

namespace Render

open Runs

/-- What makes a rendering of an entry fail with an error. The pages of an entry may be those of its
    short form. -/
inductive Cause (e : Entry) (ctx : RenderContext) : RenderError → Prop
  /-- A number of the entry cannot be read. -/
  | number {name : String} {n : NumberText} (h : e.get? name = some (.number n))
      (hn : n.Unreadable) : Cause e ctx (.notDecimal (String.ofList n.core))
  /-- The locator cannot be read as a number. -/
  | locator {l : String} (h : ctx.cite.locator = some l) (hl : NumberText.Unreadable ⟨l⟩) :
      Cause e ctx (.notDecimal (String.ofList (NumberText.core ⟨l⟩)))
  /-- The pages of the entry need a template, and the delimiter is none. -/
  | pages {name : String} {n : NumberText} {t : TemplateError}
      (hname : name = "page" ∨ name = "page-short") (h : e.get? name = some (.number n))
      (hn : PageRange.NeedsTemplate n.raw.toList)
      (ht : Template.read ctx.locale.pageDelimiter.toList = .error t) : Cause e ctx (.delimiter t)
  /-- The pages that the locator names need one. -/
  | locatorPages {l : String} {t : TemplateError} (h : ctx.cite.locator = some l)
      (hpage : ctx.cite.locatorType = "page") (hl : PageRange.NeedsTemplate l.toList)
      (ht : Template.read ctx.locale.pageDelimiter.toList = .error t) : Cause e ctx (.delimiter t)
  /-- The index of the letters behind the year is negative. -/
  | suffix {index : Int} (h : ctx.disambiguation.yearSuffix = some index) (hindex : index < 0) :
      Cause e ctx (.negativeSuffix index)

section

variable {e : Entry} {ctx : RenderContext} {α : Type}

theorem fails_ofExcept {x : Except RenderError α} (h : ∀ err, x = .error err → Cause e ctx err) :
    FailsBy (Cause e ctx) (ofExcept x) := by
  cases x with
  | ok a => exact FailsBy.pure a
  | error err =>
    intro p err' p' hfail
    obtain ⟨rfl, -⟩ := EStateM.Result.error.inj hfail
    exact h err rfl

theorem cause_of_letters {err : RenderError} (h : ctx.letters? = .error err) :
    Cause e ctx err := by
  unfold RenderContext.letters? EntryDisambiguation.letters? at h
  cases hsuffix : ctx.disambiguation.yearSuffix with
  | none =>
    rw [hsuffix] at h
    cases h
  | some index =>
    rw [hsuffix] at h
    unfold YearSuffix.lettersAt at h
    dsimp only at h
    split at h
    · rename_i hindex
      obtain rfl := Except.error.inj h
      exact .suffix hsuffix hindex
    · cases h

theorem ofNumber_eq_error {x : Except NotDecimal α} {err : RenderError}
    (h : RenderError.ofNumber x = .error err) :
    ∃ e', x = .error e' ∧ err = .notDecimal e'.text := by
  cases x with
  | ok a => cases h
  | error e' => exact ⟨e', rfl, (Except.error.inj h).symm⟩

theorem cause_of_integer {n : NumberText} {err : RenderError}
    (h : RenderError.ofNumber n.integer = .error err) :
    n.Unreadable ∧ err = .notDecimal (String.ofList n.core) := by
  obtain ⟨e', hn, rfl⟩ := ofNumber_eq_error h
  obtain ⟨hunreadable, rfl⟩ := NumberText.unreadable_of_integer hn
  exact ⟨hunreadable, rfl⟩

/-- A number can be printed unless it cannot be read. -/
theorem cause_of_format {n : NumberText} {form : NumberForm} {locale : Locale} {err : RenderError}
    (h : RenderError.ofNumber (n.format form locale) = .error err) :
    n.Unreadable ∧ err = .notDecimal (String.ofList n.core) := by
  obtain ⟨e', hformat, rfl⟩ := ofNumber_eq_error h
  rcases exceptBind_eq_error_iff.1 hformat with hn | ⟨k, -, hprinted⟩
  · obtain ⟨hunreadable, rfl⟩ := NumberText.unreadable_of_integer hn
    exact ⟨hunreadable, rfl⟩
  · cases k <;> cases hprinted

/-- A label is printed unless the number that decides about its plural cannot be read. -/
theorem cause_of_valueLabel {name : String} {form : TermForm} {plural : LabelPlural} {v : Value}
    {err : RenderError} (hv : e.get? name = some v)
    (h : valueLabel ctx name form plural v = .error err) : Cause e ctx err := by
  rcases exceptBind_eq_error_iff.1 h with hplural | ⟨contextIsPlural, -, hprinted⟩
  · cases v with
    | number n =>
      unfold isPluralValue at hplural
      dsimp only at hplural
      split at hplural
      · rcases exceptBind_eq_error_iff.1 hplural with hn | ⟨k, -, hread⟩
        · obtain ⟨hunreadable, rfl⟩ := cause_of_integer hn
          exact .number hv hunreadable
        · cases hread
      · cases hplural
    | names _ | date _ | text _ | serial _ => cases hplural
  · cases hprinted

/-- A number is printed unless it cannot be read. The number of the entry itself always can. -/
theorem cause_of_numberRuns {name : String} {form : NumberForm} {v : Value} {err : RenderError}
    (hv : numberValue? ctx e name = some v) (h : numberRuns ctx name form v = .error err) :
    Cause e ctx err := by
  cases v with
  | number n =>
    rcases exceptBind_eq_error_iff.1 h with hformat | ⟨text, -, hprinted⟩
    · obtain ⟨hunreadable, rfl⟩ := cause_of_format hformat
      unfold numberValue? at hv
      split_ifs at hv
      · obtain ⟨k, -, hk⟩ := Option.map_eq_some_iff.1 hv
        obtain rfl := Value.number.inj hk
        exact absurd hunreadable (NumberText.not_unreadable_ofInt k)
      · obtain ⟨l, hl, hn⟩ := Option.map_eq_some_iff.1 hv
        obtain rfl := Value.number.inj hn
        exact .locator (Option.filter_eq_some_iff.1 hl).1 hunreadable
      · exact .number hv hunreadable
    · cases hprinted
  | names _ | date _ | text _ | serial _ => cases h

/-- Pages cannot be printed if the delimiter is no template and one is needed. -/
theorem textOf_eq_error_iff {kind text : String} {err : RenderError} :
    ctx.textOf kind text = .error err ↔ kind = "page" ∧ PageRange.NeedsTemplate text.toList ∧
      ∃ t, Template.read ctx.locale.pageDelimiter.toList = .error t ∧ err = .delimiter t := by
  unfold RenderContext.textOf RenderContext.pageText Locale.formatPages
  split
  · rename_i hkind
    rw [and_iff_right (beq_iff_eq.1 hkind)]
    cases hpages : PageRange.formatPages ctx.style.pageRangeFormat
        ctx.locale.pageDelimiter.toList text.toList with
    | ok out =>
      refine ⟨nofun, fun ⟨hneeds, t, ht, _⟩ => ?_⟩
      rw [PageRange.formatPages_eq_error_iff.2 ⟨ht, hneeds⟩] at hpages
      cases hpages
    | error t =>
      obtain ⟨ht, hneeds⟩ := PageRange.formatPages_eq_error_iff.1 hpages
      refine ⟨fun h => ⟨hneeds, t, ht, (Except.error.inj h).symm⟩, fun ⟨_, t', ht', herr⟩ => ?_⟩
      rw [herr, ← Except.error.inj (ht.symm.trans ht')]
      rfl
  · rename_i hkind
    exact ⟨nofun, fun ⟨h, _⟩ => absurd (beq_iff_eq.2 h) hkind⟩

theorem cause_of_locatorRuns {err : RenderError} (h : locatorRuns ctx = .error err) :
    Cause e ctx err := by
  unfold locatorRuns at h
  cases hl : ctx.cite.locator with
  | none =>
    rw [hl] at h
    cases h
  | some l =>
    rw [hl] at h
    rcases exceptBind_eq_error_iff.1 h with htext | ⟨text, -, hprinted⟩
    · obtain ⟨hpage, hneeds, t, ht, rfl⟩ := textOf_eq_error_iff.1 htext
      exact .locatorPages hl hpage hneeds ht
    · cases hprinted

-- The value in a form is that of a variable.
theorem get?_of_formValue? {name : String} {form : TermForm} {v : Value}
    (h : formValue? e name form = some v) : e.get? name = some v ∨
      e.get? (name ++ "-short") = some v := by
  unfold formValue? at h
  split at h
  · rename_i short hshort
    split_ifs at hshort
    rw [hshort]
    exact Or.inr h
  · exact Or.inl h

theorem cause_of_valueRuns {name : String} {form : TermForm} {v : Value} {err : RenderError}
    (hv : formValue? e name form = some v) (h : valueRuns ctx name v = .error err) :
    Cause e ctx err := by
  cases v with
  | number n =>
    rcases exceptBind_eq_error_iff.1 h with htext | ⟨text, -, hprinted⟩
    · obtain ⟨rfl, hneeds, t, ht, rfl⟩ := textOf_eq_error_iff.1 htext
      rcases get?_of_formValue? hv with hpage | hshort
      · exact .pages (Or.inl rfl) hpage hneeds ht
      · exact .pages (Or.inr rfl) hshort hneeds ht
    · cases hprinted
  | names _ | date _ | text _ | serial _ => cases h

end

/-! ## The walk -/

section

variable (e : Entry) (ctx : RenderContext)

theorem fails_letters : FailsBy (Cause e ctx) (ofExcept ctx.letters?) :=
  fails_ofExcept fun _ h => cause_of_letters h

theorem fails_variableRuns (name : String) (form : TermForm) :
    FailsBy (Cause e ctx) (variableRuns ctx e name form) := by
  refine failsBy_get.bind fun p => ?_
  split_ifs
  · exact FailsBy.pure _
  · refine (fails_letters e ctx).bind fun letters => ?_
    cases letters with
    | none => exact FailsBy.pure _
    | some letters => exact (failsBy_modify _).bind fun _ => FailsBy.pure _
  · exact FailsBy.pure _
  · exact FailsBy.pure _
  · exact fails_ofExcept fun _ h => cause_of_locatorRuns h
  · cases hv : formValue? e name form with
    | none => exact FailsBy.pure _
    | some v => exact fails_ofExcept fun _ h => cause_of_valueRuns hv h

theorem fails_renderLabel (name : String) (form : TermForm) (plural : LabelPlural)
    (f : Formatting) : FailsBy (Cause e ctx) (renderLabel ctx e name form plural f) := by
  rw [renderLabel]
  split_ifs
  · exact FailsBy.pure _
  · refine failsBy_get.bind fun p => ?_
    split_ifs
    · exact FailsBy.pure _
    · cases hv : e.get? name with
      | none => exact FailsBy.pure _
      | some v =>
        exact (fails_ofExcept fun _ h => cause_of_valueLabel hv h).bind fun _ => FailsBy.pure _

theorem fails_renderNumber (name : String) (form : NumberForm) (f : Formatting) :
    FailsBy (Cause e ctx) (renderNumber ctx e name form f) := by
  refine failsBy_get.bind fun p => ?_
  split_ifs
  · exact FailsBy.pure _
  · cases hv : numberValue? ctx e name with
    | none => exact FailsBy.pure _
    | some v =>
      exact (fails_ofExcept fun _ h => cause_of_numberRuns hv h).bind fun _ => FailsBy.pure _

theorem fails_placeSuffix (runs : List TextRun) :
    FailsBy (Cause e ctx) (placeSuffix ctx runs) := by
  refine (fails_letters e ctx).bind fun letters => ?_
  cases letters with
  | none => exact FailsBy.pure _
  | some letters =>
    refine failsBy_get.bind fun p => ?_
    split_ifs
    · exact FailsBy.pure _
    · cases insertSuffix? letters runs with
      | none => exact FailsBy.pure _
      | some suffixed => exact (failsBy_modify _).bind fun _ => FailsBy.pure _

theorem fails_renderDate (d : DateElement) : FailsBy (Cause e ctx) (renderDate ctx e d) := by
  refine failsBy_get.bind fun p => ?_
  by_cases hsuppressed : p.suppressed.contains d.variableName = true
  · rw [if_pos hsuppressed]
    exact FailsBy.pure _
  · rw [if_neg hsuppressed]
    cases e.get? d.variableName with
    | none => exact FailsBy.pure _
    | some v =>
      dsimp only
      split_ifs
      · exact (fails_placeSuffix e ctx _).bind fun _ => FailsBy.pure _
      · exact (FailsBy.pure _).bind fun _ => FailsBy.pure _

/-- Elements without elements below them. -/
theorem fails_leaf (ms : Macros) (n : Node) (h : n.isLeaf = true) :
    FailsBy (Cause e ctx) (renderNode ms ctx e n) := by
  cases n with
  | text source f =>
    cases source with
    | ofVariable name form =>
      rw [renderNode]
      exact (fails_variableRuns e ctx name form).bind fun _ => FailsBy.pure _
    | ofMacro name => cases h
    | ofTerm name form plural =>
      rw [renderNode]
      exact FailsBy.pure _
    | ofValue text =>
      rw [renderNode]
      exact FailsBy.pure _
    | nothing =>
      rw [renderNode]
      exact FailsBy.pure _
  | label name form plural f =>
    rw [renderNode]
    exact fails_renderLabel e ctx name form plural f
  | number name form f =>
    rw [renderNode]
    exact fails_renderNumber e ctx name form f
  | date d =>
    rw [renderNode]
    exact fails_renderDate e ctx d
  | unknown kind =>
    rw [renderNode]
    exact (failsBy_modify _).bind fun _ => FailsBy.pure _
  | names el substitutes => cases h
  | group children delimiter f => cases h
  | choose branches otherwise => cases h

/-- The walk fails for the causes that an entry and a context have, whatever the style is. -/
theorem failingDescent : Descent ctx e
    (fun ms n => FailsBy (Cause e ctx) (renderNode ms ctx e n))
    (fun ms ns => FailsBy (Cause e ctx) (renderAll ms ctx e ns))
    (fun ms owner substitutes => FailsBy (Cause e ctx)
      (renderSubstitutes ms ctx e owner substitutes)) where
  leaf := fails_leaf e ctx
  undefined ms name f h := by
    rw [renderNode_of_lookup_none h]
    exact (failsBy_modify _).bind fun _ => FailsBy.pure _
  defined ms name f nodes h hnodes := by
    rw [renderNode_of_lookup h]
    exact hnodes.bind fun _ => FailsBy.pure _
  names ms el substitutes hsubstitutes := by
    rw [renderNode, renderNames]
    refine failsBy_get.bind fun p => ?_
    cases nameLists e p.suppressed el.variableNames with
    | nil => exact hsubstitutes
    | cons list rest => exact FailsBy.pure _
  group ms children delimiter f hchildren := by
    rw [renderNode]
    refine hchildren.bind fun outs => ?_
    dsimp only
    split_ifs
    · exact FailsBy.pure _
    · exact FailsBy.pure _
  choose ms branches otherwise hchosen := by
    rw [renderNode]
    exact hchosen.bind fun _ => FailsBy.pure _
  nil ms := by
    rw [renderAll]
    exact FailsBy.pure _
  cons ms n rest hn hrest := by
    rw [renderAll]
    exact hn.bind fun _ => hrest.bind fun _ => FailsBy.pure _
  noSubstitute ms owner := by
    rw [renderSubstitutes]
    exact FailsBy.pure _
  substitute ms owner n rest hn hrest := by
    rw [renderSubstitutes_cons]
    refine hn.bind fun out => ?_
    split_ifs
    · exact hrest
    · exact (failsBy_modify _).bind fun _ => FailsBy.pure _

/-! ## Whole renderings -/

theorem fails_appendSuffix (runs : List TextRun) :
    FailsBy (Cause e ctx) (appendSuffix ctx runs) := by
  refine (fails_letters e ctx).bind fun letters => ?_
  cases letters with
  | none => exact FailsBy.pure _
  | some letters =>
    refine failsBy_get.bind fun p => ?_
    split_ifs <;> exact FailsBy.pure _

theorem fails_walkEntry (nodes : List Node) : FailsBy (Cause e ctx) (walkEntry ctx e nodes) :=
  ((failingDescent e ctx).all ctx.style.macros nodes).bind fun _ => fails_appendSuffix e ctx _

theorem fails_entryRuns (nodes : List Node) : FailsBy (Cause e ctx) (entryRuns ctx e nodes) := by
  intro notices err notices' h
  unfold entryRuns at h
  cases hwalk : walkEntry ctx e nodes {} with
  | ok runs pass =>
    rw [hwalk] at h
    cases h
  | error err' pass =>
    rw [hwalk] at h
    obtain ⟨rfl, -⟩ := EStateM.Result.error.inj h
    exact fails_walkEntry e ctx nodes _ _ _ hwalk

/-- The rendering of an entry fails for a cause that the entry and the context have. -/
theorem fails_render (nodes : List Node) : FailsBy (Cause e ctx) (render ctx e nodes) :=
  (fails_entryRuns e ctx nodes).bind fun _ => FailsBy.pure _

/-- So does the rendering of a macro. -/
theorem fails_renderMacro (name : String) : FailsBy (Cause e ctx) (renderMacro ctx e name) := by
  unfold renderMacro
  cases ctx.style.macroNodes? name with
  | none => exact FailsBy.pure _
  | some nodes => exact (fails_render e ctx nodes).bind fun _ => FailsBy.pure _

end

/-- Some of the cites of a citation have a cause. -/
def CauseAmong (items : List (Entry × RenderContext)) (err : RenderError) : Prop :=
  ∃ x ∈ items, Cause x.1 x.2 err

theorem fails_renderItems (layout : Layout) (items : List CitedItem) :
    FailsBy (CauseAmong (items.map fun i => (i.entry, i.context))) (renderItems layout items) := by
  induction items with
  | nil => exact FailsBy.pure _
  | cons i rest ih =>
    have hitem : FailsBy (Cause i.entry i.context)
        (renderItem i.context i.entry layout i.lead i.trail) :=
      (fails_entryRuns i.entry i.context layout.children).bind fun _ => FailsBy.pure _
    refine (hitem.imp fun err h => ⟨_, List.mem_cons_self, h⟩).bind fun _ => ?_
    refine (ih.imp fun err ⟨x, hx, h⟩ => ⟨x, List.mem_cons_of_mem _ hx, h⟩).bind fun _ => ?_
    exact FailsBy.pure _

/-- The rendering of a citation fails for a cause that one of its cites has. -/
theorem fails_renderCitation (layout : Layout) (locale : Locale) (items : List CitedItem) :
    FailsBy (CauseAmong (items.map fun i => (i.entry, i.context)))
      (renderCitation layout locale items) :=
  (fails_renderItems layout items).bind fun _ => FailsBy.pure _

end Render

/-! ## Sorting -/

open Render

/-- A sort key is rendered without letters, and has the other causes. -/
theorem cause_of_forSorting {e : Entry} {ctx : RenderContext} {err : RenderError}
    (h : Cause e ctx.forSorting err) : Cause e ctx err := by
  cases h with
  | number h hn => exact .number h hn
  | locator h hl => exact .locator h hl
  | pages hname h hn ht => exact .pages hname h hn ht
  | locatorPages h hpage hl ht => exact .locatorPages h hpage hl ht
  | suffix h _ => cases h

theorem cause_of_ofValue {e : Entry} {ctx : RenderContext} {name : String} {v : Value}
    {demote : ParticleDemotion} {err : RenderError} (hv : e.get? name = some v)
    (h : SortValue.ofValue demote v = .error err) : Cause e ctx err := by
  cases v with
  | number n =>
    rcases exceptBind_eq_error_iff.1 h with hn | ⟨k, -, hread⟩
    · obtain ⟨hunreadable, rfl⟩ := cause_of_integer hn
      exact .number hv hunreadable
    · cases k <;> cases hread
  | names _ | date _ | text _ | serial _ => cases h

theorem fails_value (key : SortKey) (e : Entry) (ctx : RenderContext) :
    FailsBy (Cause e ctx) (key.value e ctx) := by
  unfold SortKey.value
  cases key.source with
  | byMacro name =>
    have hmacro := (fails_renderMacro e ctx.forSorting name).imp fun _ h => cause_of_forSorting h
    exact hmacro.bind fun _ => FailsBy.pure _
  | byVariable name =>
    dsimp only
    split_ifs
    · exact FailsBy.pure _
    · cases hv : e.get? name with
      | none => exact FailsBy.pure _
      | some v =>
        dsimp only
        cases hs : SortValue.ofValue ctx.style.demoteParticle v with
        | ok s => exact FailsBy.pure _
        | error err =>
          intro notices err' notices' h
          obtain ⟨rfl, -⟩ := EStateM.Result.error.inj h
          exact cause_of_ofValue hv hs

/-- Sorting fails for a cause that one of the entries has. -/
theorem fails_sortEntries (keys : List SortKey) (items : List (Entry × RenderContext)) :
    FailsBy (CauseAmong items) (sortEntries keys items) := by
  unfold sortEntries
  dsimp only
  split_ifs
  · exact FailsBy.pure _
  · refine (FailsBy.mapM fun x hx => ?_).bind fun _ => FailsBy.pure _
    have hrow := FailsBy.mapM fun key (_ : key ∈ keys) => fails_value key x.1 x.2
    exact hrow.imp fun _ h => ⟨x, hx, h⟩

end CslProcessor
