import CslProcessor.Proofs.Render.Looks

/-!
# Verbatim runs under looks and delimiters

Looks change the text of plain runs only, and add plain runs around them. So the texts of the
verbatim runs stay as they are, in their order, if no run with text is lost. Runs are left out where
a whole group of them has no text, be it from the start or after full stops have been dropped and
the case has been changed. As verbatim runs keep their text, there are none in such a group.

That no verbatim text is empty is all that this needs, so it is asked of the texts, not of the
runs: what keeps the texts keeps it, too.

## Main definitions

* `verbatimTexts`: The texts of the verbatim runs.

## Theorems

* `verbatimTexts_of_isBlank`: Runs without text hold no verbatim ones.
* `verbatimTexts_joinRuns`: Delimiters add none, and groups that are left out have none.
* `forall₂_recase_verbatim`: A change of case leaves verbatim segments as they are.
* `verbatimTexts_finish`: The looks of an element keep the verbatim texts.
-/

namespace CslProcessor

namespace Runs

/-- The texts of the verbatim runs. -/
def verbatimTexts (runs : List TextRun) : List String :=
  (runs.filter (·.verbatim)).map (·.text)

section

variable {runs : List TextRun}

@[simp]
theorem verbatimTexts_nil : verbatimTexts [] = [] := rfl

theorem verbatimTexts_cons (r : TextRun) (rest : List TextRun) :
    verbatimTexts (r :: rest) = (if r.verbatim then [r.text] else []) ++ verbatimTexts rest := by
  rw [verbatimTexts, List.filter_cons]
  split <;> rfl

@[simp]
theorem verbatimTexts_append (a b : List TextRun) :
    verbatimTexts (a ++ b) = verbatimTexts a ++ verbatimTexts b := by
  simp only [verbatimTexts, List.filter_append, List.map_append]

theorem verbatimTexts_flatMap {α : Type} (f : α → List TextRun) (l : List α) :
    verbatimTexts (l.flatMap f) = l.flatMap fun a => verbatimTexts (f a) := by
  simp only [verbatimTexts, List.filter_flatMap, List.map_flatMap]

@[simp]
theorem verbatimTexts_punctuation (text : String) : verbatimTexts (punctuation text) = [] := by
  rw [punctuation]
  split <;> rfl

/-- Runs without text hold no verbatim ones. -/
theorem verbatimTexts_of_isBlank (hsolid : "" ∉ verbatimTexts runs) (h : isBlank runs = true) :
    verbatimTexts runs = [] := by
  refine List.eq_nil_iff_forall_not_mem.2 fun text htext => hsolid ?_
  rcases List.mem_map.1 htext with ⟨r, hr, hrtext⟩
  have hempty := List.all_eq_true.1 h r (List.mem_filter.1 hr).1
  rwa [← String.isEmpty_iff.1 hempty, hrtext]

/-! ## Runs joined and surrounded -/

-- Groups put one behind the other, whatever is put between them.
theorem verbatimTexts_foldl {step : List TextRun → List TextRun → List TextRun}
    {groups : List (List TextRun)}
    (hstep : ∀ joined, ∀ group ∈ groups,
      verbatimTexts (step joined group) = verbatimTexts joined ++ verbatimTexts group)
    (joined : List TextRun) :
    verbatimTexts (groups.foldl step joined) =
      verbatimTexts joined ++ groups.flatMap verbatimTexts := by
  induction groups generalizing joined with
  | nil => rw [List.foldl_nil, List.flatMap_nil, List.append_nil]
  | cons group rest ih =>
      have hrest := ih fun joined g hg => hstep joined g (List.mem_cons_of_mem _ hg)
      rw [List.foldl_cons, hrest, hstep joined group List.mem_cons_self, List.flatMap_cons,
        List.append_assoc]

/-- Delimiters are not verbatim, and groups that are left out have nothing that is. -/
theorem verbatimTexts_joinRuns (delimiter : String) {groups : List (List TextRun)}
    (hsolid : ∀ group ∈ groups, "" ∉ verbatimTexts group) :
    verbatimTexts (joinRuns delimiter groups) = groups.flatMap verbatimTexts := by
  refine verbatimTexts_foldl (fun joined group hgroup => ?_) []
  rw [joinStep]
  split_ifs with hblank hempty
  · rw [verbatimTexts_of_isBlank (hsolid group hgroup) hblank, List.append_nil]
  · rw [List.isEmpty_iff.1 hempty, verbatimTexts_nil, List.nil_append]
  · rw [verbatimTexts_append, verbatimTexts_append, verbatimTexts_punctuation, List.append_nil]

theorem verbatimTexts_withAffixes (lead trail : String) (hsolid : "" ∉ verbatimTexts runs) :
    verbatimTexts (withAffixes lead trail runs) = verbatimTexts runs := by
  rw [withAffixes]
  split
  · rename_i hblank
    rw [verbatimTexts_of_isBlank hsolid hblank, verbatimTexts_nil]
  · simp

-- A change of runs that leaves the verbatim ones as they are.
theorem verbatimTexts_map {f : TextRun → TextRun}
    (hf : ∀ r, (f r).verbatim = r.verbatim ∧ (r.verbatim = true → (f r).text = r.text)) :
    verbatimTexts (runs.map f) = verbatimTexts runs := by
  induction runs with
  | nil => rfl
  | cons r rest ih =>
      rw [List.map_cons, verbatimTexts_cons, verbatimTexts_cons, ih, (hf r).1]
      split
      · rename_i hverbatim
        rw [(hf r).2 hverbatim]
      · rfl

@[simp]
theorem verbatimTexts_withFlags (flags : Flags) :
    verbatimTexts (withFlags flags runs) = verbatimTexts runs :=
  verbatimTexts_map fun _ => ⟨rfl, fun _ => rfl⟩

end

end Runs

/-! ## Changes of case -/

namespace Text

/-- A segment in the place of another one: verbatim if that is, and then with the same text. -/
structure KeptVerbatim (s t : Segment) : Prop where
  verbatim : t.verbatim = s.verbatim
  text : s.verbatim = true → t.text = s.text

theorem keptVerbatim_mapPlain (f : List Char → List Char) (segments : List Segment) :
    List.Forall₂ KeptVerbatim segments (mapPlain f segments) := by
  rw [mapPlain, List.forall₂_map_right_iff, List.forall₂_same]
  intro s _
  split
  · exact ⟨rfl, fun _ => rfl⟩
  · rename_i hplain
    exact ⟨rfl, fun hs => absurd hs hplain⟩

-- The plain segments may have been changed before.
theorem forall₂_recaseSegments_verbatim (case : TextCase) {original mapped : List Segment}
    (h : List.Forall₂ KeptVerbatim original mapped) (wordBefore : Bool) (reversed : List Char) :
    List.Forall₂ (fun s text => s.verbatim = true → text = s.text) original
      (recaseSegments case wordBefore reversed mapped) := by
  induction h generalizing wordBefore reversed with
  | nil => exact List.Forall₂.nil
  | cons hst _ ih =>
      rw [recaseSegments]
      refine List.Forall₂.cons (fun hs => ?_) (ih _ _)
      rw [hst.verbatim, if_pos hs]
      exact hst.text hs

/-- A change of case leaves verbatim segments as they are, each in its place. -/
theorem forall₂_recase_verbatim (case : TextCase) (segments : List Segment) :
    List.Forall₂ (fun s text => s.verbatim = true → text = s.text) segments
      (recase case segments) := by
  have hsame : List.Forall₂ KeptVerbatim segments segments :=
    List.forall₂_same.2 fun _ _ => ⟨rfl, fun _ => rfl⟩
  have hmapped : ∀ f, List.Forall₂ (fun s text => s.verbatim = true → text = s.text) segments
      ((mapPlain f segments).map Segment.text) := by
    intro f
    rw [List.forall₂_map_right_iff]
    exact (keptVerbatim_mapPlain f segments).imp fun _ _ h => h.text
  cases case with
  | lowercase => exact hmapped _
  | uppercase => exact hmapped _
  | capitalizeFirst => exact forall₂_recaseSegments_verbatim _ hsame _ _
  | capitalizeAll => exact forall₂_recaseSegments_verbatim _ hsame _ _
  | title | sentence =>
      refine forall₂_recaseSegments_verbatim _ ?_ _ _
      split
      · exact keptVerbatim_mapPlain _ segments
      · exact hsame

end Text

/-! ## Looks -/

namespace Render

open Runs

variable {runs : List TextRun}

theorem verbatimTexts_stripPeriods (runs : List TextRun) :
    verbatimTexts (stripPeriods runs) = verbatimTexts runs := by
  refine verbatimTexts_map fun r => ?_
  split
  · exact ⟨rfl, fun _ => rfl⟩
  · rename_i hplain
    exact ⟨rfl, fun hr => absurd hr hplain⟩

-- Texts put into the places of others, the same for verbatim ones.
theorem verbatimTexts_zipWith :
    ∀ {texts : List String},
      List.Forall₂ (fun s text => s.verbatim = true → text = s.text)
        (runs.map fun r => (⟨r.text, r.verbatim⟩ : Segment)) texts →
      verbatimTexts (runs.zipWith (fun r text => { r with text }) texts) = verbatimTexts runs := by
  induction runs with
  | nil => exact fun _ => rfl
  | cons r rest ih =>
      intro texts htexts
      rw [List.map_cons] at htexts
      rcases List.forall₂_cons_left_iff.1 htexts with ⟨text, others, htext, hothers, rfl⟩
      rw [List.zipWith_cons_cons, verbatimTexts_cons, verbatimTexts_cons, ih hothers]
      split
      · rename_i hverbatim
        rw [htext hverbatim]
      · rfl

theorem verbatimTexts_recased (f : Formatting) (runs : List TextRun) :
    verbatimTexts (recased f runs) = verbatimTexts runs := by
  rw [recased]
  cases f.textCase with
  | none => rfl
  | some case => exact verbatimTexts_zipWith (Text.forall₂_recase_verbatim case _)

theorem verbatimTexts_restyled (f : Formatting) (runs : List TextRun) :
    verbatimTexts (restyled f runs) = verbatimTexts runs := by
  rw [restyled, verbatimTexts_withFlags, verbatimTexts_recased]
  split
  · exact verbatimTexts_stripPeriods runs
  · rfl

theorem verbatimTexts_quote (f : Formatting) (locale : Locale) (term : String) :
    verbatimTexts (quote f locale term) = [] := by
  rw [quote]
  split <;> rfl

/-- The looks of an element keep the verbatim texts. -/
theorem verbatimTexts_finish (f : Formatting) (locale : Locale)
    (hsolid : "" ∉ verbatimTexts runs) :
    verbatimTexts (finish f locale runs) = verbatimTexts runs := by
  rw [finish_eq]
  split
  · rename_i hvanishes
    rw [vanishes, Bool.or_eq_true, isBlank_append, isBlank_append, Bool.and_eq_true,
      Bool.and_eq_true] at hvanishes
    rw [verbatimTexts_nil]
    rcases hvanishes with hblank | ⟨⟨-, hblank⟩, -⟩
    · exact (verbatimTexts_of_isBlank hsolid hblank).symm
    · rw [← verbatimTexts_restyled f runs] at hsolid ⊢
      exact (verbatimTexts_of_isBlank hsolid hblank).symm
  · simp [opening, closing, verbatimTexts_quote, verbatimTexts_restyled]

end Render

end CslProcessor
