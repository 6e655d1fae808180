import CslProcessor.Proofs.Render.Placing

/-!
# What single elements do about letters

An element either prints the letters behind a year or leaves it at what it was whether they have
been printed. Two kinds of elements can print them: a text element for their variable, and a date
element for the time of issue in a style that has no such text element. What an element does is
stated about the walk that keeps origins, if it does not fail. What can make it fail has nothing to
do with letters.

A group of which nothing was counted as printed disappears. An element that prints the letters
counts, so that no group with letters in it does.

## Main definitions

* `Meets`: Work that ends as said unless it fails.
* `Step`, `Steps`: What a part of the walk does about the letters, and several parts in sequence.
* `Quiet`: Work that has nothing to do with them.

## Theorems

* `Step.grouped`, `Steps.join`: Groups and sequences of elements.
* `quiet_variable`, `quiet_label`, `quiet_number`, `quiet_date`: Elements that print no letters.
* `meets_suffixVariable`, `meets_issuedDate`: Elements that can print them.
-/

namespace CslProcessor

namespace Render

open Runs Text

/-! ## Work that ends as said -/

section

variable {α β : Type} {w : Walk α} {f : α → Walk β} {p : Pass} {Q : α → Pass → Prop}

/-- A part of the walk ends as said, if it does not fail. -/
def Meets (w : Walk α) (p : Pass) (Q : α → Pass → Prop) : Prop :=
  match w p with
  | .ok a p' => Q a p'
  | .error _ _ => True

theorem meets_pure {a : α} (h : Q a p) : Meets (pure a) p Q := h

theorem meets_get {f : Pass → Walk α} (h : Meets (f p) p Q) : Meets (get >>= f) p Q := h

/-- Parts of the walk in sequence. -/
theorem Meets.bind {R : β → Pass → Prop} (h : Meets w p Q)
    (hf : ∀ a p', Q a p' → Meets (f a) p' R) : Meets (w >>= f) p R := by
  unfold Meets at h
  cases hw : w p with
  | ok a p' =>
      rw [hw] at h
      rw [Meets, bind_of_ok hw]
      exact hf a p' h
  | error err p' =>
      rw [hw] at h
      rw [Meets, bind_of_error hw]
      exact trivial

theorem meets_ofExcept {x : Except RenderError α} {P : α → Prop} (h : ∀ a, x = .ok a → P a) :
    Meets (ofExcept x) p fun a p' => p' = p ∧ P a := by
  cases x with
  | ok a => exact ⟨rfl, h a rfl⟩
  | error err => exact trivial

end

/-! ## Parts of the walk -/

/-- What a part of the walk does about the letters, by whether they had been printed before it and
    have been printed after it. If it prints them, it counts as having printed something. -/
structure Step (explicit before after : Bool) (t : Trace) : Prop where
  placing : Placing explicit before after t.printed
  counted : after = before ∨ 0 < t.rendered

/-- The same of several parts in sequence. -/
inductive Steps (explicit : Bool) : Bool → Bool → List Trace → Prop
  | nil {before : Bool} : Steps explicit before before []
  | cons {before between after : Bool} {t : Trace} {ts : List Trace}
      (h : Step explicit before between t) (hrest : Steps explicit between after ts) :
      Steps explicit before after (t :: ts)

section

variable {explicit before after : Bool}

theorem step_of_neutral {t : Trace} (h : ∀ p ∈ t.printed, Neutral p) :
    Step explicit before before t :=
  ⟨Placing.neutral h, Or.inl rfl⟩

theorem step_of_empty {called rendered : Nat} :
    Step explicit before before { called, rendered } :=
  step_of_neutral fun _ hp => absurd hp List.not_mem_nil

-- An element that prints a variable.
theorem step_ofRuns {n : Node} {runs : List TextRun}
    (h : Placing explicit before after (printedBy (some n) runs)) :
    Step explicit before after (Trace.ofNode n (.ofRuns runs)) := by
  refine ⟨h, ?_⟩
  cases h with
  | waiting _ => exact Or.inl rfl
  | placed hseen _ =>
      right
      rcases hseen with ⟨p, hp, -⟩
      cases runs with
      | nil => exact absurd hp List.not_mem_nil
      | cons r rest => exact Nat.one_pos
  | past _ => exact Or.inl rfl

theorem Step.finish (f : Formatting) (locale : Locale) {t : Trace}
    (h : Step explicit before after t) : Step explicit before after (t.finish f locale) :=
  ⟨h.placing.finish f locale, h.counted⟩

/-- A group that disappears has not printed the letters. -/
theorem Step.grouped (f : Formatting) (locale : Locale) {t : Trace}
    (h : Step explicit before after t) : Step explicit before after (t.grouped f locale) := by
  rw [Trace.grouped]
  split
  · rename_i hvacant
    simp only [gt_iff_lt, Bool.and_eq_true, decide_eq_true_eq, beq_iff_eq] at hvacant
    rcases h.counted with hsame | hpos
    · rw [hsame]
      exact step_of_empty
    · omega
  · exact h.finish f locale

-- Parts of the walk put behind what was joined before.
theorem Steps.placing (delimiter : String) {ts : List Trace} (h : Steps explicit before after ts) :
    ∀ {start : Bool} {joined : List Printed}, Placing explicit start before joined →
      Placing explicit start after
        ((ts.map Trace.printed).foldl (Printed.joinStep delimiter) joined) := by
  induction h with
  | nil => exact fun hjoined => hjoined
  | cons ht _ ih => exact fun hjoined => ih (hjoined.joinStep delimiter ht.placing)

theorem Steps.counted {ts : List Trace} (h : Steps explicit before after ts) :
    after = before ∨ 0 < (ts.map Trace.rendered).foldr (· + ·) 0 := by
  induction h with
  | nil => exact Or.inl rfl
  | cons ht _ ih =>
      rw [List.map_cons, List.foldr_cons]
      rcases ht.counted with hsame | hpos
      · rcases ih with hsame' | hpos
        · exact Or.inl (hsame'.trans hsame)
        · omega
      · omega

/-- Parts of the walk that are joined. -/
theorem Steps.join (delimiter : String) {ts : List Trace} (h : Steps explicit before after ts) :
    Step explicit before after (Trace.join delimiter ts) :=
  ⟨h.placing delimiter (Placing.neutral fun _ hp => absurd hp List.not_mem_nil), h.counted⟩

end

/-! ## Elements that print no letters -/

/-- Work that leaves it at what it was whether the letters have been printed, and prints none. -/
def Quiet (w : Walk Output) (p : Pass) : Prop :=
  Meets w p fun out p' => p'.suffixDone = p.suffixDone ∧ NoLetters out.runs

theorem quiet_pure {out : Output} {p : Pass} (h : NoLetters out.runs) : Quiet (pure out) p :=
  meets_pure ⟨rfl, h⟩

-- A quiet element, of which no date can be a year of issue.
theorem step_of_noLetters {explicit before : Bool} {n : Node} {out : Output}
    (hn : ∀ d, n = .date d → d.variableName ≠ "issued") (h : NoLetters out.runs) :
    Step explicit before before (Trace.ofNode n out) := by
  refine step_of_neutral fun p hp => ?_
  rcases List.mem_map.1 hp with ⟨r, hr, rfl⟩
  refine ⟨h r hr, fun hyear => ?_⟩
  rcases hyear.2 with ⟨d, horigin, hissued⟩
  exact hn d (Option.some.inj horigin) hissued

theorem Quiet.meets {n : Node} {w : Walk Output} {p : Pass} {explicit : Bool}
    (hn : ∀ d, n = .date d → d.variableName ≠ "issued") (h : Quiet w p) :
    Meets (do return Trace.ofNode n (← w)) p fun t p' =>
      Step explicit p.suffixDone p'.suffixDone t := by
  refine Meets.bind h fun out p' hout => meets_pure ?_
  rw [hout.1]
  exact step_of_noLetters hn hout.2

section

variable {ctx : RenderContext} {e : Entry}

theorem meets_variableRuns {name : String} (hname : name ≠ "year-suffix") (form : TermForm)
    (p : Pass) :
    Meets (variableRuns ctx e name form) p fun runs p' => p' = p ∧ NoLetters runs := by
  rw [variableRuns]
  refine meets_get ?_
  have hbeq : (name == "year-suffix") = false := beq_eq_false_iff_ne.2 hname
  rw [hbeq, if_neg Bool.false_ne_true]
  split
  · exact meets_pure ⟨rfl, noLetters_nil⟩
  split
  · exact meets_pure ⟨rfl, noLetters_of_variable (belongs_citeNumber name _) hname⟩
  split
  · exact meets_pure ⟨rfl, noLetters_of_variable (belongs_citeNumber name _) hname⟩
  split
  · exact meets_ofExcept fun _ h => noLetters_of_variable (belongs_locatorRuns ctx h) (by decide)
  cases formValue? e name form with
  | some v =>
      exact meets_ofExcept fun _ h => noLetters_of_variable (belongs_valueRuns ctx name h) hname
  | none => exact meets_pure ⟨rfl, noLetters_nil⟩

theorem quiet_variable {name : String} (hname : name ≠ "year-suffix") (ms : Macros)
    (form : TermForm) (f : Formatting) (p : Pass) :
    Quiet (renderNode ms ctx e (.text (.ofVariable name form) f)) p := by
  rw [renderNode]
  refine Meets.bind (meets_variableRuns hname form p) fun runs p' h => meets_pure ⟨?_, ?_⟩
  · rw [h.1]
  · exact noLetters_finish f ctx.locale h.2

-- A text that no variable supplies, or nothing for an empty one.
theorem noLetters_literal (text : String) {tag : RunTag} (htag : tag ≠ .yearSuffix) :
    NoLetters (if text.isEmpty then [] else [{ text, tag }]) := by
  split
  · exact noLetters_nil
  · exact noLetters_singleton htag

theorem quiet_term (ms : Macros) (name : String) (form : TermForm) (plural : Bool)
    (f : Formatting) (p : Pass) :
    Quiet (renderNode ms ctx e (.text (.ofTerm name form plural) f)) p := by
  rw [renderNode]
  exact quiet_pure (noLetters_finish f ctx.locale (noLetters_literal _ (by decide)))

theorem quiet_value (ms : Macros) (text : String) (f : Formatting) (p : Pass) :
    Quiet (renderNode ms ctx e (.text (.ofValue text) f)) p := by
  rw [renderNode]
  exact quiet_pure (noLetters_finish f ctx.locale (noLetters_literal text (by decide)))

theorem quiet_label (ms : Macros) (name : String) (form : TermForm) (plural : LabelPlural)
    (f : Formatting) (p : Pass) : Quiet (renderNode ms ctx e (.label name form plural f)) p := by
  rw [renderNode, renderLabel]
  split
  · have hlabel := noLetters_of_variable (belongs_locatorLabel ctx form plural) (by decide)
    exact quiet_pure (noLetters_finish f ctx.locale hlabel)
  refine meets_get ?_
  split
  · exact quiet_pure noLetters_nil
  cases e.get? name with
  | none => exact quiet_pure noLetters_nil
  | some v =>
      have hlabel : ∀ runs, valueLabel ctx name form plural v = .ok runs → NoLetters runs := by
        intro runs h
        rcases exists_text_of_valueLabel ctx name h with ⟨text, rfl⟩
        exact noLetters_termRuns name text
      refine (meets_ofExcept hlabel).bind fun runs p' h => ?_
      rw [h.1]
      exact quiet_pure (noLetters_finish f ctx.locale h.2)

theorem quiet_number (hown : e.get? "year-suffix" = none) (ms : Macros) (name : String)
    (form : NumberForm) (f : Formatting) (p : Pass) :
    Quiet (renderNode ms ctx e (.number name form f)) p := by
  rw [renderNode, renderNumber]
  refine meets_get ?_
  split
  · exact quiet_pure noLetters_nil
  cases hv : numberValue? ctx e name with
  | none => exact quiet_pure noLetters_nil
  | some v =>
      have hname : name ≠ "year-suffix" := by
        rintro rfl
        have hnone : numberValue? ctx e "year-suffix" = e.get? "year-suffix" := rfl
        rw [hnone, hown] at hv
        exact absurd hv (by simp)
      have hnumber : ∀ runs, numberRuns ctx name form v = .ok runs → NoLetters runs :=
        fun _ h => noLetters_of_variable (belongs_numberRuns ctx name form h) hname
      refine (meets_ofExcept hnumber).bind fun runs p' h => ?_
      rw [h.1]
      exact quiet_pure (noLetters_finish f ctx.locale h.2)

theorem quiet_date {d : DateElement} (hown : e.get? "year-suffix" = none)
    (hd : d.variableName ≠ "issued") (ms : Macros) (p : Pass) :
    Quiet (renderNode ms ctx e (.date d)) p := by
  rw [renderNode, renderDate]
  refine meets_get ?_
  split
  · exact quiet_pure noLetters_nil
  cases hv : e.get? d.variableName with
  | none => exact quiet_pure noLetters_nil
  | some v =>
      have hname : d.variableName ≠ "year-suffix" := by
        intro hname
        rw [hname, hown] at hv
        exact absurd hv (by simp)
      have hbeq : (d.variableName == "issued") = false := beq_eq_false_iff_ne.2 hd
      rw [hbeq]
      have hdate := noLetters_of_variable (belongs_dateRuns ctx d v) hname
      exact quiet_pure (noLetters_finish _ _ hdate)

end

/-! ## Letters that a style prints itself -/

section

variable {ctx : RenderContext} {e : Entry} {letters : String}

-- The letters by themselves, in a style that prints them.
theorem placing_suffixRun {before : Bool} (origin : Option Node)
    (hlettered : Lettered letters.toList) :
    Placing true before true (printedBy origin [suffixRun letters]) := by
  have hfree : ∀ {P : Prop}, true = false → P := fun h => absurd h (by decide)
  cases before with
  | false => exact .placed ⟨_, List.mem_singleton_self _, rfl, hlettered⟩ hfree
  | true => exact .past hfree

theorem meets_suffixRuns (hletters : ctx.letters? = .ok (some letters))
    (hlettered : Lettered letters.toList) (origin : Option Node) (form : TermForm) (p : Pass) :
    Meets (variableRuns ctx e "year-suffix" form) p fun runs p' =>
      Placing true p.suffixDone p'.suffixDone (printedBy origin runs) := by
  rw [variableRuns]
  refine meets_get ?_
  split
  · exact meets_pure (Placing.neutral fun _ hp => absurd hp List.not_mem_nil)
  · rw [if_pos (by decide), hletters]
    exact placing_suffixRun origin hlettered

/-- An element that prints the letters. -/
theorem meets_suffixVariable (hletters : ctx.letters? = .ok (some letters))
    (hlettered : Lettered letters.toList) (ms : Macros) (form : TermForm) (f : Formatting)
    (p : Pass) :
    Meets (traceNode ms ctx e (.text (.ofVariable "year-suffix" form) f)) p fun t p' =>
      Step true p.suffixDone p'.suffixDone t := by
  rw [traceNode, renderNode]
  have hruns := meets_suffixRuns (e := e) hletters hlettered
    (some (.text (.ofVariable "year-suffix" form) f)) form p
  refine Meets.bind (hruns.bind fun runs p' h => meets_pure ?_) fun out p' h => meets_pure h
  exact ⟨h.finish_printedBy f ctx.locale _, (step_ofRuns h).counted⟩

end

/-! ## Letters behind a year -/

-- Without a year there is no place for the letters.
theorem tag_ne_year_of_insertSuffix? {letters : String} {runs : List TextRun}
    (h : insertSuffix? letters runs = none) : ∀ r ∈ runs, r.tag ≠ .year := by
  induction runs with
  | nil => exact fun _ hr => absurd hr List.not_mem_nil
  | cons r rest ih =>
      rw [insertSuffix?] at h
      split at h
      · exact absurd h (by simp)
      · rename_i hr
        intro r' hr'
        rcases List.mem_cons.1 hr' with rfl | hr'
        · exact fun hyear => hr (by rw [hyear]; rfl)
        · exact ih (Option.map_eq_none_iff.1 h) r' hr'

/-- The letters are put behind the first year. -/
theorem eq_of_insertSuffix? {letters : String} {runs : List TextRun} :
    ∀ {suffixed : List TextRun}, insertSuffix? letters runs = some suffixed →
      ∃ front year behind, runs = front ++ year :: behind ∧
        suffixed = front ++ year :: suffixRun letters year.flags :: behind ∧ year.tag = .year ∧
        ∀ r ∈ front, r.tag ≠ .year := by
  induction runs with
  | nil => exact fun h => absurd h (by simp [insertSuffix?])
  | cons r rest ih =>
      intro suffixed h
      rw [insertSuffix?] at h
      split at h
      · rename_i hyear
        exact ⟨[], r, rest, rfl, (Option.some.inj h).symm, beq_iff_eq.1 hyear,
          fun _ hr => absurd hr List.not_mem_nil⟩
      · rename_i hr
        rcases Option.map_eq_some_iff.1 h with ⟨suffixed', h', rfl⟩
        rcases ih h' with ⟨front, year, behind, rfl, rfl, hyear, hfront⟩
        refine ⟨r :: front, year, behind, rfl, rfl, hyear, fun r' hr' => ?_⟩
        rcases List.mem_cons.1 hr' with rfl | hr'
        · exact fun hyear => hr (by rw [hyear]; rfl)
        · exact hfront r' hr'

section

variable {ctx : RenderContext} {e : Entry} {letters : String}

-- A date whose letters stand behind its first year.
theorem placing_suffixed {explicit : Bool} (hlettered : Lettered letters.toList) {d : DateElement}
    (hd : d.variableName = "issued") {front behind : List TextRun} {year : TextRun}
    (hruns : NoLetters (front ++ year :: behind)) (hyear : year.tag = .year)
    (hfront : ∀ r ∈ front, r.tag ≠ .year) :
    Placing explicit false true (printedBy (some (.date d))
      (front ++ year :: suffixRun letters year.flags :: behind)) := by
  rw [printedBy, List.map_append, List.map_cons, List.map_cons]
  refine .placed ⟨_, List.mem_append_right _ (List.mem_cons_of_mem _ List.mem_cons_self), rfl,
    hlettered⟩ fun _ => ⟨_, _, _, _, rfl, fun p hp => ?_, ⟨hyear, d, rfl, hd⟩, ⟨rfl, hlettered⟩,
    fun p hp => ?_⟩
  · rcases List.mem_map.1 hp with ⟨r, hr, rfl⟩
    exact ⟨hruns r (List.mem_append_left _ hr), fun hissue => hfront r hr hissue.1⟩
  · rcases List.mem_map.1 hp with ⟨r, hr, rfl⟩
    exact hruns r (List.mem_append_right _ (List.mem_cons_of_mem _ hr))

/-- A date of the time of issue gets the letters, unless they have been printed before or are
    printed elsewhere. -/
theorem meets_placeSuffix (hletters : ctx.letters? = .ok (some letters))
    (hlettered : Lettered letters.toList) {d : DateElement} (hd : d.variableName = "issued")
    {runs : List TextRun} (hruns : NoLetters runs) (p : Pass) :
    Meets (placeSuffix ctx runs) p fun runs' p' =>
      Placing ctx.style.printsYearSuffix p.suffixDone p'.suffixDone
        (printedBy (some (.date d)) runs') := by
  have htags : ∀ q ∈ printedBy (some (.date d)) runs, q.run.tag ≠ .yearSuffix := by
    intro q hq
    rcases List.mem_map.1 hq with ⟨r, hr, rfl⟩
    exact hruns r hr
  rw [placeSuffix, hletters]
  change Meets (if p.suffixDone || ctx.style.printsYearSuffix then _ else _) p _
  cases hdone : p.suffixDone with
  | true =>
      refine meets_pure ?_
      rw [hdone]
      exact .past fun _ => htags
  | false =>
      cases hexplicit : ctx.style.printsYearSuffix with
      | true =>
          refine meets_pure ?_
          rw [hdone]
          exact .waiting fun h => absurd h (by decide)
      | false =>
          cases hinsert : insertSuffix? letters runs with
          | none =>
              refine meets_pure ?_
              rw [hdone]
              refine .waiting fun _ q hq => ⟨htags q hq, fun hissue => ?_⟩
              rcases List.mem_map.1 hq with ⟨r, hr, rfl⟩
              exact tag_ne_year_of_insertSuffix? hinsert r hr hissue.1
          | some suffixed =>
              rcases eq_of_insertSuffix? hinsert with
                ⟨front, year, behind, rfl, rfl, hyear, hfront⟩
              exact placing_suffixed hlettered hd hruns hyear hfront

/-- A date of the time of issue. -/
theorem meets_issuedDate (hletters : ctx.letters? = .ok (some letters))
    (hlettered : Lettered letters.toList) {d : DateElement} (hd : d.variableName = "issued")
    (ms : Macros) (p : Pass) :
    Meets (traceNode ms ctx e (.date d)) p fun t p' =>
      Step ctx.style.printsYearSuffix p.suffixDone p'.suffixDone t := by
  have hvacant : ∀ {explicit before : Bool},
      Step explicit before before (Trace.ofNode (.date d) .vacant) := step_of_empty
  rw [traceNode, renderNode, renderDate]
  refine Meets.bind (Q := fun out p' => Step ctx.style.printsYearSuffix p.suffixDone p'.suffixDone
    (Trace.ofNode (.date d) out)) (meets_get ?_) fun out p' h => meets_pure h
  split
  · exact meets_pure hvacant
  cases e.get? d.variableName with
  | none => exact meets_pure hvacant
  | some v =>
      have hname : d.variableName ≠ "year-suffix" := by
        rw [hd]
        decide
      have hplaced := meets_placeSuffix hletters hlettered hd 
        (noLetters_of_variable (belongs_dateRuns ctx d v) hname) p
      have hbeq : (d.variableName == "issued") = true := beq_iff_eq.2 hd
      rw [hbeq]
      exact hplaced.bind fun runs p' h => meets_pure (step_ofRuns (h.finish_printedBy _ _ _))

end

end Render

end CslProcessor
