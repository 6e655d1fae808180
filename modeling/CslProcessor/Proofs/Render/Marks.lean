import CslProcessor.Proofs.Render.Looks
import CslProcessor.Proofs.Sequence

/-!
# What runs are marked with

A run is marked with a tag and with the variable that it comes from. The looks of an element and the
delimiters between elements keep the marks of all runs and add runs of punctuation, which come from
no variable. So what holds of the marks of the runs of some elements holds of all that is made of
them, if it holds of punctuation.

An element that prints a variable marks its runs with that variable or with none. With the variable
goes its tag, or one of those that stand beside it: for a term, a part of a date, or a count. Only
the letters behind a year are marked as letters.

## Main definitions

* `Marked`: All runs have marks with a property.
* `BelongsTo`: The marks that an element gives to its runs.

## Theorems

* `Marked.finish`, `marked_joinRuns`: Marks under looks and between delimiters.
* `belongs_valueRuns`, `belongs_dateRuns`, `belongs_namesRuns`: The marks of values, dates and
  names.
-/

namespace CslProcessor

namespace Render

open Runs

/-- All runs have marks with a property. -/
def Marked (P : RunTag → Option String → Prop) (runs : List TextRun) : Prop :=
  ∀ r ∈ runs, P r.tag r.variableName

section

variable {P Q : RunTag → Option String → Prop} {runs : List TextRun}

theorem marked_nil : Marked P [] :=
  fun _ h => absurd h List.not_mem_nil

theorem marked_singleton {r : TextRun} (h : P r.tag r.variableName) : Marked P [r] := by
  intro r' hr'
  rw [List.mem_singleton.1 hr']
  exact h

theorem Marked.append {a b : List TextRun} (ha : Marked P a) (hb : Marked P b) :
    Marked P (a ++ b) := by
  intro r hr
  rcases List.mem_append.1 hr with hr | hr
  · exact ha r hr
  · exact hb r hr

theorem Marked.imp (h : Marked P runs) (hPQ : ∀ tag variableName, P tag variableName →
    Q tag variableName) : Marked Q runs :=
  fun r hr => hPQ _ _ (h r hr)

-- Runs that are made of others by giving them more flags keep their marks.
theorem Marked.withFlags (flags : Flags) (h : Marked P runs) :
    Marked P (Runs.withFlags flags runs) := by
  intro r hr
  rcases List.mem_map.1 hr with ⟨r', hr', rfl⟩
  exact h r' hr'

theorem marked_flatMap {α : Type} {f : α → List TextRun} {l : List α}
    (h : ∀ a ∈ l, Marked P (f a)) : Marked P (l.flatMap f) := by
  intro r hr
  rcases List.mem_flatMap.1 hr with ⟨a, ha, hr⟩
  exact h a ha r hr

-- Groups put one behind the other, in whatever way.
theorem marked_foldl {step : List TextRun → List TextRun → List TextRun}
    (hstep : ∀ joined group, Marked P joined → Marked P group → Marked P (step joined group))
    {groups : List (List TextRun)} (h : ∀ group ∈ groups, Marked P group) :
    Marked P (groups.foldl step []) := by
  have hfold : ∀ joined, Marked P joined → Marked P (groups.foldl step joined) := by
    induction groups with
    | nil => exact fun _ hjoined => hjoined
    | cons group rest ih =>
        intro joined hjoined
        exact ih (fun g hg => h g (List.mem_cons_of_mem _ hg)) _
          (hstep joined group hjoined (h group List.mem_cons_self))
  exact hfold [] marked_nil

end

/-! ## Looks and delimiters -/

section

variable {P : RunTag → Option String → Prop} (hp : P .punctuation none) {runs : List TextRun}

include hp

theorem marked_punctuation (text : String) : Marked P (punctuation text) := by
  rw [punctuation]
  split
  · exact marked_nil
  · exact marked_singleton hp

theorem marked_quote (f : Formatting) (locale : Locale) (term : String) :
    Marked P (quote f locale term) := by
  rw [quote]
  split
  · exact marked_singleton hp
  · exact marked_nil

theorem marked_opening (f : Formatting) (locale : Locale) : Marked P (opening f locale) :=
  (marked_punctuation hp f.lead).append (marked_quote hp f locale _)

theorem marked_closing (f : Formatting) (locale : Locale) : Marked P (closing f locale) :=
  (marked_quote hp f locale _).append (marked_punctuation hp f.trail)

/-- The looks of an element keep the marks of its runs. -/
theorem Marked.finish (f : Formatting) (locale : Locale) (h : Marked P runs) :
    Marked P (Render.finish f locale runs) := by
  rw [finish_eq]
  split
  · exact marked_nil
  · refine ((marked_opening hp f locale).append fun r hr => ?_).append (marked_closing hp f locale)
    rcases exists_of_forall₂_right (forall₂_restyled f runs) hr with ⟨r', hr', hplace⟩
    rw [hplace.tag, hplace.variableName]
    exact h r' hr'

theorem Marked.withAffixes (lead trail : String) (h : Marked P runs) :
    Marked P (Runs.withAffixes lead trail runs) := by
  rw [Runs.withAffixes]
  split
  · exact marked_nil
  · exact ((marked_punctuation hp lead).append h).append (marked_punctuation hp trail)

/-- Delimiters between groups leave the marks of the groups as they are. -/
theorem marked_joinRuns (delimiter : String) {groups : List (List TextRun)}
    (h : ∀ group ∈ groups, Marked P group) : Marked P (joinRuns delimiter groups) := by
  refine marked_foldl (fun joined group hjoined hgroup => ?_) h
  rw [joinStep]
  split_ifs
  · exact hjoined
  · exact hgroup
  · exact (hjoined.append (marked_punctuation hp delimiter)).append hgroup

end

/-! ## Elements -/

/-- The marks that an element which prints some variables gives to its runs. -/
def BelongsTo (names : List String) (tag : RunTag) (variableName : Option String) : Prop :=
  (variableName = none ∧ tag ≠ .yearSuffix) ∨
    ∃ name ∈ names, variableName = some name ∧
      (tag = .ofVariable name ∨ tag = .term ∨ tag = .date ∨ tag = .number)

theorem belongsTo_punctuation (names : List String) : BelongsTo names .punctuation none :=
  Or.inl ⟨rfl, by decide⟩

theorem belongsTo_variable {names : List String} {name : String} (h : name ∈ names) :
    BelongsTo names (.ofVariable name) (some name) :=
  Or.inr ⟨name, h, rfl, Or.inl rfl⟩

theorem BelongsTo.mono {names names' : List String} {tag : RunTag} {variableName : Option String}
    (h : BelongsTo names tag variableName) (hsub : names ⊆ names') :
    BelongsTo names' tag variableName := by
  rcases h with h | ⟨name, hname, h⟩
  · exact Or.inl h
  · exact Or.inr ⟨name, hsub hname, h⟩

section

variable (ctx : RenderContext) (name : String)

-- Values, locators, labels and numbers may fail to be printed; these are about those that do not.
theorem belongs_valueRuns {v : Value} {runs : List TextRun}
    (h : valueRuns ctx name v = .ok runs) : Marked (BelongsTo [name]) runs := by
  have hmark := belongsTo_variable (List.mem_singleton_self name)
  cases v with
  | text t =>
      cases h
      intro r hr
      rcases List.mem_map.1 hr with ⟨s, -, rfl⟩
      exact hmark
  | number n =>
      rcases exceptBind_eq_ok_iff.1 h with ⟨text, -, h⟩
      cases h
      exact marked_singleton hmark
  | _ =>
      cases h
      exact marked_nil

theorem belongs_citeNumber (number : Option Int) :
    Marked (BelongsTo [name]) (citeNumber name number) := by
  cases number with
  | none => exact marked_nil
  | some n => exact marked_singleton (belongsTo_variable (List.mem_singleton_self name))

theorem belongs_locatorRuns {runs : List TextRun} (h : locatorRuns ctx = .ok runs) :
    Marked (BelongsTo ["locator"]) runs := by
  unfold locatorRuns at h
  cases hl : ctx.cite.locator with
  | none =>
      rw [hl] at h
      cases h
      exact marked_nil
  | some l =>
      rw [hl] at h
      rcases exceptBind_eq_ok_iff.1 h with ⟨text, -, h⟩
      cases h
      exact marked_singleton (belongsTo_variable List.mem_cons_self)

theorem belongs_termRuns (text : String) : Marked (BelongsTo [name]) (termRuns name text) := by
  rw [termRuns]
  split
  · exact marked_nil
  · exact marked_singleton (Or.inr ⟨name, List.mem_cons_self, rfl, Or.inr (Or.inl rfl)⟩)

theorem belongs_locatorLabel (form : TermForm) (plural : LabelPlural) :
    Marked (BelongsTo ["locator"]) (locatorLabel ctx form plural) := by
  rw [locatorLabel]
  cases ctx.cite.locator with
  | none => exact marked_nil
  | some l => exact belongs_termRuns _ _

theorem exists_text_of_valueLabel {form : TermForm} {plural : LabelPlural} {v : Value}
    {runs : List TextRun} (h : valueLabel ctx name form plural v = .ok runs) :
    ∃ text, runs = termRuns name text := by
  cases hplural : isPluralValue name v with
  | ok contextIsPlural =>
      rw [valueLabel, hplural] at h
      cases h
      exact ⟨_, rfl⟩
  | error err =>
      rw [valueLabel, hplural] at h
      cases h

theorem exists_text_of_numberRuns {form : NumberForm} {v : Value} {runs : List TextRun}
    (h : numberRuns ctx name form v = .ok runs) :
    ∃ text : String, runs = if text.isEmpty then []
      else [{ text, tag := .ofVariable name, variableName := some name }] := by
  unfold numberRuns at h
  cases v with
  | number n =>
      dsimp only at h
      cases hn : RenderError.ofNumber (n.format form ctx.locale) with
      | ok text =>
          rw [hn] at h
          cases h
          exact ⟨text, rfl⟩
      | error err =>
          rw [hn] at h
          cases h
  | _ =>
      cases h
      exact ⟨_, rfl⟩

theorem belongs_valueLabel (form : TermForm) (plural : LabelPlural) {v : Value}
    {runs : List TextRun} (h : valueLabel ctx name form plural v = .ok runs) :
    Marked (BelongsTo [name]) runs := by
  rcases exists_text_of_valueLabel ctx name h with ⟨text, rfl⟩
  exact belongs_termRuns name text

theorem belongs_numberRuns (form : NumberForm) {v : Value} {runs : List TextRun}
    (h : numberRuns ctx name form v = .ok runs) : Marked (BelongsTo [name]) runs := by
  rcases exists_text_of_numberRuns ctx name h with ⟨text, rfl⟩
  split
  · exact marked_nil
  · exact marked_singleton (belongsTo_variable (List.mem_singleton_self name))

end

/-! ## Dates -/

section

variable (s : DateText.Setting)

/-- The marks of the parts of a date. -/
def DateMark (tag : RunTag) (variableName : Option String) : Prop :=
  (tag = .punctuation ∧ variableName = none) ∨
    variableName = some s.variableName ∧ (tag = s.tag ∨ tag = .date)

variable {s}

theorem marked_partRuns (d : CalendarDate) (part : DatePart) (noLead noTrail : Bool) :
    Marked (DateMark s) (DateText.partRuns s d part noLead noTrail) := by
  have hp : DateMark s .punctuation none := Or.inl ⟨rfl, rfl⟩
  have haffix : ∀ (omitted : Bool) (text : String),
      Marked (DateMark s) (if omitted then [] else punctuation text) := by
    intro omitted text
    cases omitted with
    | true => exact marked_nil
    | false => exact marked_punctuation hp text
  rw [DateText.partRuns]
  split
  · exact marked_nil
  · refine ((haffix _ _).append (marked_singleton (Or.inr ⟨rfl, ?_⟩))).append (haffix _ _)
    dsimp only
    split
    · exact Or.inl rfl
    · exact Or.inr rfl

theorem marked_renderParts (d : CalendarDate) (parts : List DatePart) (noLead noTrail : Bool) :
    Marked (DateMark s) (DateText.renderParts s d parts noLead noTrail) := by
  have hgroups : ∀ noLead, ∀ group ∈ DateText.partGroups s d noLead noTrail parts,
      Marked (DateMark s) group := by
    induction parts with
    | nil => exact fun _ _ h => absurd h List.not_mem_nil
    | cons part rest ih =>
        intro noLead group hgroup
        rcases List.mem_cons.1 hgroup with rfl | hgroup
        · exact marked_partRuns _ _ _ _
        · exact ih _ group hgroup
  refine marked_foldl (fun joined group hjoined hgroup => ?_) (hgroups noLead)
  split_ifs
  · exact hjoined
  · exact hgroup
  · exact (hjoined.append (marked_punctuation (Or.inl ⟨rfl, rfl⟩) _)).append hgroup

theorem marked_renderRange (a b : CalendarDate) (rangeDelimiter : String)
    (blocks : DateText.RangeBlocks) :
    Marked (DateMark s) (DateText.renderRange s a b rangeDelimiter blocks) := by
  have hp : DateMark s .punctuation none := Or.inl ⟨rfl, rfl⟩
  have hbetween : ∀ left right, Marked (DateMark s) (DateText.between s.delimiter left right) := by
    intro left right
    rw [DateText.between]
    split
    · exact marked_nil
    · exact marked_punctuation hp _
  have hlast : ∀ behind : List TextRun,
      Marked (DateMark s) (if behind.isEmpty then [] else punctuation s.delimiter) := by
    intro behind
    split
    · exact marked_nil
    · exact marked_punctuation hp _
  have hrange : Marked (DateMark s) [TextRun.punctuation rangeDelimiter] := marked_singleton hp
  have hparts := marked_renderParts (s := s)
  rw [DateText.renderRange]
  exact ((((((hparts _ _ _ _).append (hbetween _ _)).append (hparts _ _ _ _)).append
    hrange).append (hparts _ _ _ _)).append (hlast _)).append (hparts _ _ _ _)

theorem marked_renderDate (d : Date) (parts : List DatePart) :
    Marked (DateMark s) (DateText.renderDate s d parts) := by
  rw [DateText.renderDate]
  cases d.rangeEnd with
  | none => exact marked_renderParts _ _ _ _
  | some stop =>
      dsimp only
      split_ifs
      · exact marked_renderParts _ _ _ _
      · split
        · exact marked_renderParts _ _ _ _
        · exact marked_renderRange _ _ _ _

end

theorem belongs_dateRuns (ctx : RenderContext) (d : DateElement) (v : Value) :
    Marked (BelongsTo [d.variableName]) (dateRuns ctx d v) := by
  have hmark := belongsTo_variable (List.mem_singleton_self d.variableName)
  cases v with
  | date date =>
      refine (marked_renderDate date _).imp fun tag variableName h => ?_
      rcases h with ⟨htag, hname⟩ | ⟨hname, htag | htag⟩
      · exact Or.inl ⟨hname, by rw [htag]; decide⟩
      · rw [hname, htag]
        exact hmark
      · exact Or.inr ⟨d.variableName, List.mem_cons_self, hname, Or.inr (Or.inr (Or.inl htag))⟩
  | text t =>
      simp only [dateRuns]
      split_ifs
      · exact marked_nil
      · exact marked_singleton hmark
  | _ => exact marked_nil

/-! ## Names -/

section

variable (s : NameListSettings) (locale : Locale) (tag : RunTag) (name : String)

/-- The marks of a list of names. -/
def NameMark (tag' : RunTag) (variableName : Option String) : Prop :=
  tag' = tag ∧ variableName = some name

theorem marked_run (text : String) (flags : Flags) :
    Marked (NameMark tag name) (NameList.run tag name text flags) := by
  rw [NameList.run]
  split
  · exact marked_nil
  · exact marked_singleton ⟨rfl, rfl⟩

theorem marked_nameRuns (index : Nat) (n : PersonName) :
    Marked (NameMark tag name) (NameList.nameRuns s tag name index n) :=
  marked_flatMap fun _ _ => marked_run tag name _ _

theorem marked_jointRuns (total index : Nat) :
    Marked (NameMark tag name) (NameList.jointRuns s locale tag name total index) := by
  simp only [NameList.jointRuns]
  split
  · exact marked_nil
  · split
    · exact (marked_run tag name _ _).append (marked_run tag name _ _)
    · exact marked_run tag name _ _

theorem marked_closingRuns (etAl : EtAl) (names : List PersonName) :
    Marked (NameMark tag name) (NameList.closingRuns s locale tag name etAl names) := by
  have hrun := marked_run tag name
  simp only [NameList.closingRuns]
  split
  · refine ((hrun _ _).append (hrun _ _)).append ?_
    cases names.getLast? with
    | none => exact marked_nil
    | some n => exact marked_nameRuns s tag name _ n
  · split
    · split
      · exact marked_nil
      · exact (hrun _ _).append (hrun _ _)
    · exact marked_nil

theorem marked_nameList (etAl : EtAl) (names : List PersonName) :
    Marked (NameMark tag name) (NameList.render s locale tag name etAl names) := by
  rw [NameList.render]
  split
  · exact marked_nil
  · refine Marked.append (marked_flatMap fun x _ => ?_)
      (marked_closingRuns s locale tag name etAl names)
    exact (marked_jointRuns s locale tag name _ _).append (marked_nameRuns s tag name _ _)

end

section

variable (ctx : RenderContext) (el : NamesElement)

theorem belongs_withLabel (label : Option NameLabel) (name : String) (count : Nat)
    {runs : List TextRun} (h : Marked (BelongsTo [name]) runs) :
    Marked (BelongsTo [name]) (withLabel ctx label name count runs) := by
  cases label with
  | none => exact h
  | some l =>
      have hlabel := (belongs_termRuns name (ctx.locale.term name l.form
        (l.plural.resolve (count > 1)))).finish (belongsTo_punctuation _) l.formatting ctx.locale
      simp only [withLabel]
      split
      · exact hlabel.append h
      · exact h.append hlabel

theorem belongs_nameListRuns (list : String × List PersonName) :
    Marked (BelongsTo [list.1]) (nameListRuns ctx el list) := by
  have hp := belongsTo_punctuation [list.1]
  refine belongs_withLabel _ _ _ _ (Marked.withAffixes hp _ _ (Marked.withFlags _ ?_))
  refine (marked_nameList _ _ _ _ _ _).imp ?_
  rintro tag variableName ⟨rfl, rfl⟩
  exact belongsTo_variable (List.mem_singleton_self _)

/-- Lists of names are marked with their variables. -/
theorem belongs_namesRuns (lists : List (String × List PersonName)) :
    Marked (BelongsTo (lists.map Prod.fst)) (namesRuns ctx el lists) := by
  have hp := belongsTo_punctuation (lists.map Prod.fst)
  refine Marked.finish hp _ _ ?_
  split
  · refine marked_singleton ?_
    cases lists with
    | nil => exact Or.inl ⟨rfl, by simp⟩
    | cons list rest => exact Or.inr ⟨list.1, List.mem_cons_self, rfl, by simp⟩
  · refine marked_joinRuns hp _ fun group hgroup => ?_
    rcases List.mem_map.1 hgroup with ⟨list, hlist, rfl⟩
    refine (belongs_nameListRuns ctx el list).imp fun tag variableName h => h.mono ?_
    exact List.cons_subset.2 ⟨List.mem_map_of_mem hlist, List.nil_subset _⟩

end

end Render

end CslProcessor
