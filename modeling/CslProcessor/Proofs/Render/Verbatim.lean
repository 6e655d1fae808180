import CslProcessor.Proofs.Render.Log
import CslProcessor.Proofs.Render.Suppression
import CslProcessor.Proofs.Render.VerbatimRuns

/-!
# Verbatim pieces of the values that are printed

Only a variable that is printed as text has verbatim runs, one for every verbatim piece of its
value. Dates, names, numbers, labels, terms and letters are plain, whatever values they are made of.
So the verbatim texts of an entry are those of the variables that were printed as text, in the order
of their visits. The elements around them keep these texts: looks do, delimiters do, and what is
left out has none. A substitute that is tried in vain prints no text at all, and a group is left out
if nothing counts as printed in it, while a variable with verbatim pieces always counts.

Which variables are printed is read off the log of the walk. A variable that is visited as text is
printed unless it is suppressed at that time.

## Main definitions

* `Value.verbatimPieces`: The verbatim pieces of a value.
* `textValue?`: The value of an entry that a variable prints as text.
* `Moment.verbatimTexts`, `logTexts`: What moments of the walk add to the verbatim texts.
* `Faithful`: Verbatim texts that are those of a log.
* `Plain`: Work whose runs are plain.

## Theorems

* `verbatimTexts_dateRuns`, `verbatimTexts_namesRuns`: Dates and names are plain.
* `verbatimTexts_variableRuns`: Variables printed as text.
* `faithful_leaf`: The visit of an element without elements below it.
* `faithfulDescent`: The walk.
* `verbatimTexts_entryRuns`: The verbatim texts of an entry.
-/

namespace CslProcessor

/-! ## Verbatim pieces -/

namespace MarkedText

theorem text_of_mem_piece {verbatim : Bool} {cs : List Char} {s : Segment}
    (h : s ∈ piece verbatim cs) : s.text ≠ "" := by
  rw [piece] at h
  split at h
  · exact absurd h List.not_mem_nil
  · rename_i hne
    rw [List.mem_singleton.1 h]
    intro hempty
    have hnil := congrArg String.toList hempty
    rw [String.toList_ofList] at hnil
    exact hne (List.isEmpty_iff.2 hnil)

/-- The pieces of a text are not empty. -/
theorem text_of_mem_segmentsFrom {at0 : Nat} {spans : List Span} {cs : List Char} {s : Segment}
    (h : s ∈ segmentsFrom at0 spans cs) : s.text ≠ "" := by
  induction spans generalizing at0 cs with
  | nil => exact text_of_mem_piece h
  | cons span rest ih =>
      rw [segmentsFrom, List.mem_append, List.mem_append] at h
      rcases h with (h | h) | h
      · exact text_of_mem_piece h
      · exact text_of_mem_piece h
      · exact ih h

end MarkedText

/-- The verbatim pieces of a value. -/
def Value.verbatimPieces : Value → List String
  | .text t => (t.segments.filter (·.verbatim)).map (·.text)
  | _ => []

theorem Value.not_mem_verbatimPieces (v : Value) : "" ∉ v.verbatimPieces := by
  intro h
  cases v with
  | text t =>
      rcases List.mem_map.1 h with ⟨s, hs, hempty⟩
      exact MarkedText.text_of_mem_segmentsFrom (List.mem_filter.1 hs).1 hempty
  | _ => exact absurd h List.not_mem_nil

/-! ## Plain runs -/

namespace NameList

open Runs

variable (s : NameListSettings) (locale : Locale) (tag : RunTag) (name : String)

@[simp]
theorem verbatimTexts_run (text : String) (flags : Flags) :
    verbatimTexts (run tag name text flags) = [] := by
  rw [run]
  split <;> rfl

@[simp]
theorem verbatimTexts_nameRuns (index : Nat) (n : PersonName) :
    verbatimTexts (nameRuns s tag name index n) = [] := by
  simp [nameRuns, verbatimTexts_flatMap]

@[simp]
theorem verbatimTexts_jointRuns (total index : Nat) :
    verbatimTexts (jointRuns s locale tag name total index) = [] := by
  simp only [jointRuns]
  split_ifs <;> simp

@[simp]
theorem verbatimTexts_closingRuns (etAl : EtAl) (names : List PersonName) :
    verbatimTexts (closingRuns s locale tag name etAl names) = [] := by
  simp only [closingRuns]
  split_ifs
  · cases names.getLast? <;> simp
  all_goals simp

theorem verbatimTexts_render (etAl : EtAl) (names : List PersonName) :
    verbatimTexts (render s locale tag name etAl names) = [] := by
  rw [render]
  split
  · rfl
  · simp [verbatimTexts_flatMap]

end NameList

namespace DateText

open Runs

variable (s : Setting)

theorem verbatimTexts_partRuns (d : CalendarDate) (part : DatePart) (noLead noTrail : Bool) :
    verbatimTexts (partRuns s d part noLead noTrail) = [] := by
  simp only [partRuns]
  split
  · rfl
  · cases noLead <;> cases noTrail <;> simp [verbatimTexts_cons]

@[simp]
theorem verbatimTexts_renderParts (d : CalendarDate) (parts : List DatePart)
    (noLead noTrail : Bool) : verbatimTexts (renderParts s d parts noLead noTrail) = [] := by
  have hgroups : ∀ noLead, ∀ group ∈ partGroups s d noLead noTrail parts,
      verbatimTexts group = [] := by
    induction parts with
    | nil => exact fun _ _ h => absurd h List.not_mem_nil
    | cons part rest ih =>
        intro noLead group hgroup
        rcases List.mem_cons.1 hgroup with rfl | hgroup
        · exact verbatimTexts_partRuns s d part _ _
        · exact ih _ group hgroup
  rw [renderParts, delimited, verbatimTexts_foldl]
  · rw [verbatimTexts_nil, List.nil_append, List.flatMap_eq_nil_iff]
    exact hgroups noLead
  · intro joined group hgroup
    rw [hgroups noLead group hgroup, List.append_nil]
    split_ifs with _ hempty
    · rfl
    · rw [hgroups noLead group hgroup, List.isEmpty_iff.1 hempty, verbatimTexts_nil]
    · rw [verbatimTexts_append, verbatimTexts_append, verbatimTexts_punctuation,
        hgroups noLead group hgroup, List.append_nil, List.append_nil]

theorem verbatimTexts_renderRange (a b : CalendarDate) (rangeDelimiter : String)
    (blocks : RangeBlocks) :
    verbatimTexts (renderRange s a b rangeDelimiter blocks) = [] := by
  have hbetween : ∀ left right, verbatimTexts (between s.delimiter left right) = [] := by
    intro left right
    rw [between]
    split
    · rfl
    · exact verbatimTexts_punctuation _
  simp only [renderRange, verbatimTexts_append, verbatimTexts_renderParts, hbetween]
  split <;> simp [verbatimTexts_cons, TextRun.punctuation]

theorem verbatimTexts_renderDate (d : Date) (parts : List DatePart) :
    verbatimTexts (renderDate s d parts) = [] := by
  rw [renderDate]
  cases d.rangeEnd with
  | none => exact verbatimTexts_renderParts s _ _ _ _
  | some stop =>
      dsimp only
      split_ifs
      · exact verbatimTexts_renderParts s _ _ _ _
      · split
        · exact verbatimTexts_renderParts s _ _ _ _
        · exact verbatimTexts_renderRange s _ _ _ _

end DateText

namespace Render

open Runs

-- Looks leave plain runs plain.
theorem verbatimTexts_finish_of_plain (f : Formatting) (locale : Locale) {runs : List TextRun}
    (h : verbatimTexts runs = []) : verbatimTexts (finish f locale runs) = [] := by
  rw [verbatimTexts_finish f locale (by simp [h]), h]

section

variable (ctx : RenderContext) (name : String)

theorem verbatimTexts_citeNumber (number : Option Int) :
    verbatimTexts (citeNumber name number) = [] := by
  cases number <;> rfl

theorem verbatimTexts_locatorRuns {runs : List TextRun} (h : locatorRuns ctx = .ok runs) :
    verbatimTexts runs = [] := by
  unfold locatorRuns at h
  cases hl : ctx.cite.locator with
  | none =>
      rw [hl] at h
      cases h
      rfl
  | some l =>
      rw [hl] at h
      rcases exceptBind_eq_ok_iff.1 h with ⟨text, -, h⟩
      cases h
      rfl

theorem verbatimTexts_termRuns (text : String) : verbatimTexts (termRuns name text) = [] := by
  rw [termRuns]
  split <;> rfl

theorem verbatimTexts_locatorLabel (form : TermForm) (plural : LabelPlural) :
    verbatimTexts (locatorLabel ctx form plural) = [] := by
  rw [locatorLabel]
  cases ctx.cite.locator with
  | none => rfl
  | some l => exact verbatimTexts_termRuns _ _

theorem verbatimTexts_valueLabel {form : TermForm} {plural : LabelPlural} {v : Value}
    {runs : List TextRun} (h : valueLabel ctx name form plural v = .ok runs) :
    verbatimTexts runs = [] := by
  rcases exists_text_of_valueLabel ctx name h with ⟨text, rfl⟩
  exact verbatimTexts_termRuns name text

theorem verbatimTexts_numberRuns {form : NumberForm} {v : Value} {runs : List TextRun}
    (h : numberRuns ctx name form v = .ok runs) : verbatimTexts runs = [] := by
  rcases exists_text_of_numberRuns ctx name h with ⟨text, rfl⟩
  split <;> rfl

/-- The runs of a date are plain, also those of a text in its place. -/
theorem verbatimTexts_dateRuns (d : DateElement) (v : Value) :
    verbatimTexts (dateRuns ctx d v) = [] := by
  cases v with
  | date date => exact DateText.verbatimTexts_renderDate _ _ _
  | text t =>
      simp only [dateRuns]
      split_ifs <;> rfl
  | _ => rfl

theorem verbatimTexts_insertSuffix {letters : String} {runs suffixed : List TextRun}
    (h : insertSuffix? letters runs = some suffixed) :
    verbatimTexts suffixed = verbatimTexts runs := by
  induction runs generalizing suffixed with
  | nil => cases h
  | cons r rest ih =>
      rw [insertSuffix?] at h
      split at h
      · cases h
        simp [verbatimTexts_cons, suffixRun]
      · rcases Option.map_eq_some_iff.1 h with ⟨others, hothers, rfl⟩
        rw [verbatimTexts_cons, verbatimTexts_cons, ih hothers]

theorem verbatimTexts_withLabel (label : Option NameLabel) (count : Nat) {runs : List TextRun}
    (h : verbatimTexts runs = []) : verbatimTexts (withLabel ctx label name count runs) = [] := by
  cases label with
  | none => exact h
  | some l =>
      have hlabel := fun text =>
        verbatimTexts_finish_of_plain l.formatting ctx.locale (verbatimTexts_termRuns name text)
      simp only [withLabel]
      split <;> simp [h, hlabel]

theorem verbatimTexts_nameListRuns (el : NamesElement) (list : String × List PersonName) :
    verbatimTexts (nameListRuns ctx el list) = [] := by
  refine verbatimTexts_withLabel _ _ _ _ ?_
  rw [verbatimTexts_withAffixes] <;> simp [NameList.verbatimTexts_render]

/-- The runs of lists of names are plain. -/
theorem verbatimTexts_namesRuns (el : NamesElement) (lists : List (String × List PersonName)) :
    verbatimTexts (namesRuns ctx el lists) = [] := by
  refine verbatimTexts_finish_of_plain _ _ ?_
  split
  · rfl
  · have hlists : ∀ group ∈ lists.map (nameListRuns ctx el), verbatimTexts group = [] := by
      intro group hgroup
      rcases List.mem_map.1 hgroup with ⟨list, -, rfl⟩
      exact verbatimTexts_nameListRuns ctx el list
    rw [verbatimTexts_joinRuns _ fun group hgroup => by simp [hlists group hgroup],
      List.flatMap_eq_nil_iff]
    exact hlists

end

/-! ## Verbatim texts of a log -/

/-- The value of an entry that a variable prints as text. Letters, the numbers of a cite and the
    place that is cited are not of the entry. -/
def textValue? (e : Entry) (name : String) (form : TermForm) : Option Value :=
  if ["year-suffix", "citation-number", "first-reference-note-number", "locator"].contains name
  then none
  else formValue? e name form

/-- The verbatim pieces that a variable has to print as text. -/
def verbatimPieces (e : Entry) (name : String) (form : TermForm) : List String :=
  ((textValue? e name form).map Value.verbatimPieces).getD []

/-- What a moment adds to the verbatim texts: the verbatim pieces of a variable that is visited as
    text and not suppressed. -/
def Moment.verbatimTexts (e : Entry) (m : Moment) : List String :=
  match m.what with
  | .visit _ (.text (.ofVariable name form) _) =>
    if m.pass.suppressed.contains name then [] else verbatimPieces e name form
  | _ => []

/-- The verbatim texts on a log. -/
def logTexts (e : Entry) (log : List Moment) : List String :=
  log.flatMap (Moment.verbatimTexts e)

section

variable {e : Entry}

theorem not_mem_verbatimPieces (e : Entry) (name : String) (form : TermForm) :
    "" ∉ verbatimPieces e name form := by
  rw [verbatimPieces]
  cases textValue? e name form with
  | none => exact List.not_mem_nil
  | some v => exact v.not_mem_verbatimPieces

theorem not_mem_logTexts (log : List Moment) : "" ∉ logTexts e log := by
  intro h
  rcases List.mem_flatMap.1 h with ⟨m, -, hm⟩
  rw [Moment.verbatimTexts] at hm
  split at hm
  · split at hm
    · exact absurd hm List.not_mem_nil
    · exact not_mem_verbatimPieces _ _ _ hm
  · exact absurd hm List.not_mem_nil

theorem logTexts_append (log later : List Moment) :
    logTexts e (log ++ later) = logTexts e log ++ logTexts e later :=
  List.flatMap_append

-- What is visited on trial adds the same. It is left out if it prints nothing, not if it is tried.
theorem logTexts_tried (log : List Moment) :
    logTexts e (log.map Moment.tried) = logTexts e log := by
  rw [logTexts, List.flatMap_map]
  rfl

end

/-- Verbatim texts that are those of a log, none if nothing counts as printed. -/
structure Faithful (e : Entry) (log : List Moment) (texts : List String)
    (rendered : Nat) : Prop where
  onLog : texts = logTexts e log
  counted : rendered = 0 → texts = []

section

variable {e : Entry} {log later : List Moment} {texts : List String}
  {rendered : Nat}

theorem faithful_nil : Faithful e [] [] rendered :=
  ⟨rfl, fun _ => rfl⟩

theorem Faithful.append {texts' : List String} {rendered' : Nat}
    (h : Faithful e log texts rendered) (h' : Faithful e later texts' rendered') :
    Faithful e (log ++ later) (texts ++ texts') (rendered + rendered') where
  onLog := by rw [logTexts_append, h.onLog, h'.onLog]
  counted hnone := by
    rw [h.counted (Nat.eq_zero_of_add_eq_zero_right hnone),
      h'.counted (Nat.eq_zero_of_add_eq_zero_left hnone), List.append_nil]

-- A moment that adds nothing.
theorem Faithful.cons {m : Moment} (h : Faithful e log texts rendered)
    (hm : m.verbatimTexts e = []) : Faithful e (m :: log) texts rendered where
  onLog := by
    rw [logTexts, List.flatMap_cons, hm, h.onLog]
    rfl
  counted := h.counted

theorem Faithful.solid (h : Faithful e log texts rendered) : "" ∉ texts :=
  h.onLog ▸ not_mem_logTexts log

theorem Faithful.finish {runs : List TextRun} (f : Formatting) (locale : Locale)
    (h : Faithful e log (verbatimTexts runs) rendered) :
    Faithful e log (verbatimTexts (Render.finish f locale runs)) rendered := by
  rwa [verbatimTexts_finish f locale h.solid]

-- What is left of the runs of several elements, whatever stands between them.
theorem Faithful.join {outs : List Output} (delimiter : String)
    (h : Faithful e log (outs.flatMap fun out => verbatimTexts out.runs) rendered) :
    Faithful e log (verbatimTexts (Output.join delimiter outs).runs) rendered := by
  have hsolid : ∀ group ∈ outs.map Output.runs, "" ∉ verbatimTexts group := by
    intro group hgroup hempty
    rcases List.mem_map.1 hgroup with ⟨out, hout, rfl⟩
    exact h.solid (List.mem_flatMap.2 ⟨out, hout, hempty⟩)
  rwa [Output.join, verbatimTexts_joinRuns delimiter hsolid, List.flatMap_map]

end

/-! ## Elements without elements below them -/

section

variable {ctx : RenderContext} {e : Entry}

theorem verbatimTexts_valueRuns {name : String} {v : Value} {runs : List TextRun}
    (h : valueRuns ctx name v = .ok runs) : verbatimTexts runs = v.verbatimPieces := by
  cases v with
  | text t =>
      cases h
      simp [verbatimTexts, Value.verbatimPieces, List.filter_map, Function.comp_def]
  | number n =>
      rcases exceptBind_eq_ok_iff.1 h with ⟨text, -, h⟩
      cases h
      rfl
  | _ =>
      cases h
      rfl

theorem ofExcept_eq_ok {α : Type} {x : Except RenderError α} {p p' : Pass} {a : α}
    (h : ofExcept x p = .ok a p') : x = .ok a := by
  cases x with
  | ok b =>
      cases h
      rfl
  | error err => cases h

/-- A variable printed as text has the verbatim pieces of its value, unless it is suppressed. -/
theorem verbatimTexts_variableRuns {name : String} {form : TermForm} {p p' : Pass}
    {runs : List TextRun} (h : variableRuns ctx e name form p = .ok runs p') :
    verbatimTexts runs =
      if p.suppressed.contains name then [] else verbatimPieces e name form := by
  rw [variableRuns, get_bind] at h
  split_ifs at h ⊢ with hsuppressed hletters hnumber hnote hlocator
  · cases h
    rfl
  · rw [beq_iff_eq.1 hletters]
    rcases bind_eq_ok_iff.1 h with ⟨letters, q, -, h⟩
    cases letters <;> (cases h; rfl)
  · cases h
    rw [beq_iff_eq.1 hnumber, verbatimTexts_citeNumber]
    rfl
  · cases h
    rw [beq_iff_eq.1 hnote, verbatimTexts_citeNumber]
    rfl
  · rw [beq_iff_eq.1 hlocator, verbatimTexts_locatorRuns ctx (ofExcept_eq_ok h)]
    rfl
  · have hvalue : textValue? e name form = formValue? e name form := by
      simp_all [textValue?]
    rw [verbatimPieces, hvalue]
    cases hv : formValue? e name form with
    | none =>
        rw [hv] at h
        cases h
        rfl
    | some v =>
        rw [hv] at h
        exact verbatimTexts_valueRuns (ofExcept_eq_ok h)

-- A variable that is visited as text.
theorem faithful_text {ms : Macros} {name : String} {form : TermForm} {f : Formatting}
    {p p' : Pass} {out : Output}
    (hout : renderNode ms ctx e (.text (.ofVariable name form) f) p = .ok out p') :
    Faithful e [Moment.visiting ms (.text (.ofVariable name form) f) p]
      (verbatimTexts out.runs) out.rendered := by
  rw [renderNode] at hout
  rcases bind_eq_ok_iff.1 hout with ⟨runs, q, hruns, hout⟩
  cases hout
  have hmoment : verbatimTexts runs =
      logTexts e [Moment.visiting ms (.text (.ofVariable name form) f) p] := by
    rw [verbatimTexts_variableRuns hruns, logTexts, List.flatMap_singleton]
    rfl
  refine Faithful.finish f ctx.locale ⟨hmoment, fun hnone => ?_⟩
  cases runs with
  | nil => rfl
  | cons r rest => cases hnone

/-- Work whose runs are plain, whatever it starts from. -/
def Plain (w : Walk Output) : Prop :=
  Sparing [] (fun out => verbatimTexts out.runs = []) w

theorem plain_finish (f : Formatting) {runs : List TextRun} (h : verbatimTexts runs = []) :
    Plain (pure (.ofRuns (finish f ctx.locale runs))) :=
  Sparing.pure (verbatimTexts_finish_of_plain f ctx.locale h)

theorem plain_renderLabel (name : String) (form : TermForm) (plural : LabelPlural)
    (f : Formatting) : Plain (renderLabel ctx e name form plural f) := by
  rw [renderLabel]
  split_ifs
  · exact plain_finish f (verbatimTexts_locatorLabel ctx form plural)
  · refine sparing_get.bind fun p _ => ?_
    split_ifs
    · exact Sparing.pure rfl
    · cases e.get? name with
      | none => exact Sparing.pure rfl
      | some v =>
          have hlabel : ∀ runs, valueLabel ctx name form plural v = .ok runs →
              verbatimTexts runs = [] := fun _ h => verbatimTexts_valueLabel ctx name h
          exact (sparing_ofExcept hlabel).bind fun _ h => plain_finish f h

theorem plain_renderNumber (name : String) (form : NumberForm) (f : Formatting) :
    Plain (renderNumber ctx e name form f) := by
  refine sparing_get.bind fun p _ => ?_
  split_ifs
  · exact Sparing.pure rfl
  · cases numberValue? ctx e name with
    | none => exact Sparing.pure rfl
    | some v =>
        have hnumber : ∀ runs, numberRuns ctx name form v = .ok runs → verbatimTexts runs = [] :=
          fun _ h => verbatimTexts_numberRuns ctx name h
        exact (sparing_ofExcept hnumber).bind fun _ h => plain_finish f h

theorem plain_placeSuffix {runs : List TextRun} (h : verbatimTexts runs = []) :
    Sparing [] (fun runs => verbatimTexts runs = []) (placeSuffix ctx runs) := by
  refine (sparing_ofExcept fun _ _ => trivial).bind fun letters _ => ?_
  cases letters with
  | none => exact Sparing.pure h
  | some letters =>
      refine sparing_get.bind fun p _ => ?_
      split_ifs
      · exact Sparing.pure h
      · cases hsuffix : insertSuffix? letters runs with
        | none => exact Sparing.pure h
        | some suffixed =>
            refine Sparing.bind (sparing_modify ?_) fun _ _ =>
              Sparing.pure ((verbatimTexts_insertSuffix hsuffix).trans h)
            exact fun p => List.Subset.refl p.suppressed

theorem plain_renderDate (d : DateElement) : Plain (renderDate ctx e d) := by
  refine sparing_get.bind fun p _ => ?_
  split
  · exact Sparing.pure rfl
  · cases e.get? d.variableName with
    | none => exact Sparing.pure rfl
    | some v =>
        have hdate := verbatimTexts_dateRuns ctx d v
        dsimp only
        split
        · exact (plain_placeSuffix hdate).bind fun _ h => plain_finish d.formatting h
        · exact plain_finish d.formatting hdate

/-- Elements without elements below them are plain, except for variables printed as text. -/
theorem plain_leaf (ms : Macros) {n : Node} (hleaf : n.isLeaf = true)
    (hn : ∀ name form f, n ≠ .text (.ofVariable name form) f) : Plain (renderNode ms ctx e n) := by
  have hliteral : ∀ (f : Formatting) (r : TextRun), r.verbatim = false → ∀ text : String,
      Plain (pure { runs := finish f ctx.locale (if text.isEmpty then [] else [r]) }) := by
    intro f r hr text
    refine Sparing.pure (verbatimTexts_finish_of_plain f ctx.locale ?_)
    split
    · rfl
    · simp [verbatimTexts_cons, hr]
  cases n with
  | text source f =>
      cases source with
      | ofVariable name form => exact absurd rfl (hn name form f)
      | ofMacro name => cases hleaf
      | ofTerm name form plural =>
          rw [renderNode]
          exact hliteral f _ rfl _
      | ofValue text =>
          rw [renderNode]
          exact hliteral f _ rfl _
      | nothing =>
          rw [renderNode]
          exact Sparing.pure rfl
  | label name form plural f =>
      rw [renderNode]
      exact plain_renderLabel name form plural f
  | number name form f =>
      rw [renderNode]
      exact plain_renderNumber name form f
  | date d =>
      rw [renderNode]
      exact plain_renderDate d
  | unknown kind =>
      rw [renderNode]
      exact (sparing_note _).bind fun _ _ => Sparing.pure rfl
  | names el substitutes => cases hleaf
  | group children delimiter f => cases hleaf
  | choose branches otherwise => cases hleaf

/-- The visit of an element without elements below it. -/
theorem faithful_leaf {ms : Macros} {n : Node} {p p' : Pass} {out : Output}
    (hleaf : n.isLeaf = true) (hout : renderNode ms ctx e n p = .ok out p') :
    Faithful e (logNode ms ctx e n p) (verbatimTexts out.runs) out.rendered := by
  rw [logNode, logBelow_of_isLeaf hleaf]
  by_cases htext : ∃ name form f, n = .text (.ofVariable name form) f
  · rcases htext with ⟨name, form, f, rfl⟩
    exact faithful_text hout
  · have hn : ∀ name form f, n ≠ .text (.ofVariable name form) f :=
      fun name form f heq => htext ⟨name, form, f, heq⟩
    rw [(plain_leaf ms hleaf hn p (List.nil_subset _)).2 out p' hout]
    refine faithful_nil.cons ?_
    rw [Moment.verbatimTexts, Moment.visiting]
    split
    · rename_i heq
      injection heq with _ hnode
      exact absurd hnode (hn _ _ _)
    · rfl

end

/-! ## The walk -/

/-- The verbatim texts of an element are those on its log. -/
theorem faithfulDescent (ctx : RenderContext) (e : Entry) : Descent ctx e
    (fun ms n => ∀ p out p', renderNode ms ctx e n p = .ok out p' →
      Faithful e (logNode ms ctx e n p) (verbatimTexts out.runs) out.rendered)
    (fun ms ns => ∀ p outs p', renderAll ms ctx e ns p = .ok outs p' →
      Faithful e (logAll ms ctx e ns p) (outs.flatMap fun out => verbatimTexts out.runs)
        (Output.join "" outs).rendered)
    (fun ms owner substitutes => ∀ p out p',
      renderSubstitutes ms ctx e owner substitutes p = .ok out p' →
      Faithful e (logSubstitutes ms ctx e owner substitutes p) (verbatimTexts out.runs)
        out.rendered) where
  leaf ms n h p out p' hout := faithful_leaf h hout
  undefined ms name f h p out p' hout := by
    rw [renderNode_of_lookup_none h] at hout
    rcases bind_eq_ok_iff.1 hout with ⟨_, q, -, hout⟩
    cases hout
    rw [logNode, logBelow_of_lookup_none h]
    exact faithful_nil.cons rfl
  defined ms name f nodes h hnodes p out p' hout := by
    rw [renderNode_of_lookup h] at hout
    rcases bind_eq_ok_iff.1 hout with ⟨outs, q, houts, hout⟩
    cases hout
    rw [logNode, logBelow_of_lookup h]
    exact (((hnodes p outs _ houts).join "").finish f ctx.locale).cons rfl
  names ms el substitutes hsubstitutes p out p' hout := by
    rw [renderNode, renderNames, get_bind] at hout
    rw [logNode, logBelow, logNames]
    refine Faithful.cons ?_ rfl
    cases hlists : nameLists e p.suppressed el.variableNames with
    | nil =>
        rw [hlists] at hout
        exact hsubstitutes p out p' hout
    | cons list rest =>
        rw [hlists] at hout
        cases hout
        rw [verbatimTexts_namesRuns]
        exact faithful_nil
  group ms children delimiter f hchildren p out p' hout := by
    rw [renderNode] at hout
    rcases bind_eq_ok_iff.1 hout with ⟨outs, q, houts, hout⟩
    have hall := hchildren p outs q houts
    rw [logNode, logBelow]
    refine Faithful.cons ?_ rfl
    split at hout
    · -- A group that is left out has no verbatim texts, since nothing counts as printed in it.
      rename_i hempty
      cases hout
      have hrendered : (Output.join "" outs).rendered = 0 := by
        simp only [Bool.and_eq_true, beq_iff_eq] at hempty
        exact hempty.2
      rw [hall.counted hrendered] at hall
      exact ⟨hall.onLog, fun _ => rfl⟩
    · cases hout
      exact (hall.join delimiter).finish f ctx.locale
  choose ms branches otherwise hchosen p out p' hout := by
    rw [renderNode] at hout
    rcases bind_eq_ok_iff.1 hout with ⟨outs, q, houts, hout⟩
    cases hout
    rw [logNode, logBelow]
    exact ((hchosen p outs _ houts).join "").cons rfl
  nil ms p outs p' houts := by
    rw [renderAll] at houts
    cases houts
    rw [logAll]
    exact faithful_nil
  cons ms n rest hn hrest p outs p' houts := by
    rw [renderAll] at houts
    rcases bind_eq_ok_iff.1 houts with ⟨out, q, hout, houts⟩
    rcases bind_eq_ok_iff.1 houts with ⟨others, q', hothers, houts⟩
    cases houts
    rw [logAll_cons, hout]
    exact (hn p out q hout).append (hrest q others p' hothers)
  noSubstitute ms owner p out p' hout := by
    rw [renderSubstitutes] at hout
    cases hout
    rw [logSubstitutes]
    exact faithful_nil
  substitute ms owner n rest hn hrest p out p' hout := by
    rw [renderSubstitutes_cons] at hout
    rcases bind_eq_ok_iff.1 hout with ⟨tried, q, htried, hout⟩
    have htrial := hn p tried q htried
    rw [logSubstitutes_cons, htried, behind]
    split at hout
    · -- A substitute without text has been tried in vain, and has no verbatim texts.
      rename_i hblank
      have hnone := verbatimTexts_of_isBlank htrial.solid hblank
      rw [if_pos hblank]
      have hbehind := hrest q out p' hout
      refine ⟨?_, hbehind.counted⟩
      rw [logTexts_append, logTexts_tried, ← htrial.onLog, hnone, List.nil_append]
      exact hbehind.onLog
    · rename_i hprinted
      rw [if_neg hprinted]
      cases hout
      refine ⟨?_, fun hnone => absurd hnone Nat.one_ne_zero⟩
      rw [logTexts_append, logTexts_tried, ← htrial.onLog]
      exact (verbatimTexts_finish owner.formatting ctx.locale htrial.solid).trans
        (List.append_nil _).symm

-- Letters at the end are plain.
theorem verbatimTexts_appendSuffix {ctx : RenderContext} {runs runs' : List TextRun}
    {p p' : Pass} (h : appendSuffix ctx runs p = .ok runs' p') :
    verbatimTexts runs' = verbatimTexts runs := by
  rw [appendSuffix] at h
  rcases bind_eq_ok_iff.1 h with ⟨letters, q, -, h⟩
  cases letters with
  | none =>
      cases h
      rfl
  | some letters =>
      dsimp only at h
      rw [get_bind] at h
      split at h
      · cases h
        rfl
      · cases h
        simp [verbatimTexts_cons, suffixRun]

/-- The verbatim texts of an entry are the verbatim pieces of the values of the variables that were
    printed as text on the walk, in the order of their visits. -/
theorem verbatimTexts_entryRuns {ctx : RenderContext} {e : Entry} {nodes : List Node}
    {notices notices' : List Notice} {runs : List TextRun}
    (h : entryRuns ctx e nodes notices = .ok runs notices') :
    verbatimTexts runs = logTexts e (entryLog ctx e nodes) := by
  rw [entryRuns] at h
  cases hwalk : walkEntry ctx e nodes {} with
  | error err p =>
      rw [hwalk] at h
      cases h
  | ok walked p =>
      rw [hwalk] at h
      cases h
      rw [walkEntry] at hwalk
      rcases bind_eq_ok_iff.1 hwalk with ⟨outs, q, houts, happend⟩
      have hall := (faithfulDescent ctx e).all ctx.style.macros nodes {} outs q houts
      rw [verbatimTexts_appendSuffix happend]
      exact (hall.join "").onLog

/-! ## A title in capitals -/

/-- A title and a place, all of it in capitals and without full stops. -/
def shoutedTitle : List Node :=
  [.group [.text (.ofVariable "title" .long) { textCase := some .title, quotes := true },
      .text (.ofVariable "publisher-place" .long) { lead := "(", trail := ")" }] " "
    { textCase := some .uppercase, stripPeriods := true }]

/-- A style that prints nothing else. -/
def shouting : RenderContext :=
  { style := { id := "shouting", citation := { layout := { children := shoutedTitle } } }
    locale := { lang := "en" }, part := { layout := { children := shoutedTitle } } }

/-- A guide whose title and place have verbatim pieces. -/
def phoneGuide : Entry :=
  { id := "guide", type := .book
    values :=
      [("title", .text { text := "the iPhone et al.", spans := [⟨4, 10⟩] }),
        ("publisher-place", .text { text := "St. Louis, Mo.", spans := [⟨0, 3⟩, ⟨11, 14⟩] })] }

theorem verbatimTexts_entryRuns_shouting :
    ∃ runs notices, entryRuns shouting phoneGuide shoutedTitle [] = .ok runs notices ∧
      verbatimTexts runs = ["iPhone", "St.", "Mo."] := by
  have hprinted : ∃ runs notices,
      entryRuns shouting phoneGuide shoutedTitle [] = .ok runs notices := by
    rw [entryRuns, walkEntry]
    simp only [shoutedTitle, renderAll, renderNode, appendSuffix]
    exact ⟨_, _, rfl⟩
  rcases hprinted with ⟨runs, notices, hruns⟩
  refine ⟨runs, notices, hruns, ?_⟩
  rw [verbatimTexts_entryRuns hruns, entryLog, shoutedTitle]
  simp only [logAll_cons, logAll, logNode, logBelow, renderNode, renderAll]
  decide +kernel

end Render

end CslProcessor
