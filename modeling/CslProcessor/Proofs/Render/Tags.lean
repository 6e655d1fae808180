import CslProcessor.Proofs.Render.Marks

/-!
# Which elements print letters

Every run of an element has the tag of the variable that it comes from, or a tag for what stands
around it. Of the variables only the letters have the tag of the letters. So an element that is not
about them prints none, whatever the entry holds and whatever its looks are.

## Main definitions

* `NoLetters`: No run has the tag of letters.

## Theorems

* `ofVariable_ne_yearSuffix`: The tag of any other variable.
* `noLetters_of_belongs`: What belongs to other variables holds no letters.
-/

namespace CslProcessor

/-- Only the letters have their tag. -/
theorem RunTag.ofVariable_ne_yearSuffix {name : String} (h : name ≠ "year-suffix") :
    RunTag.ofVariable name ≠ .yearSuffix := by
  rw [ofVariable]
  cases hl : special.lookup name with
  | none => split_ifs <;> simp
  | some tag =>
      have hmem : (name, tag) ∈ special := by
        rcases List.lookup_eq_some_iff.1 hl with ⟨before, behind, heq, -⟩
        rw [heq]
        exact List.mem_append_right before List.mem_cons_self
      rintro rfl
      have hall : ∀ x ∈ special, x.2 = RunTag.yearSuffix → x.1 = "year-suffix" := by decide
      exact h (hall _ hmem rfl)

namespace Render

open Runs

/-- No run has the tag of letters. -/
def NoLetters (runs : List TextRun) : Prop :=
  ∀ r ∈ runs, r.tag ≠ .yearSuffix

theorem noLetters_nil : NoLetters [] :=
  fun _ h => absurd h List.not_mem_nil

theorem noLetters_singleton {r : TextRun} (h : r.tag ≠ .yearSuffix) : NoLetters [r] := by
  intro r' hr'
  rw [List.mem_singleton.1 hr']
  exact h

theorem noLetters_finish (f : Formatting) (locale : Locale) {runs : List TextRun}
    (h : NoLetters runs) : NoLetters (finish f locale runs) := by
  have hmarked : Marked (fun tag _ => tag ≠ .yearSuffix) runs := h
  exact hmarked.finish (by decide) f locale

/-- What belongs to other variables holds no letters. -/
theorem noLetters_of_belongs {names : List String} {runs : List TextRun}
    (h : Marked (BelongsTo names) runs) (hnames : ∀ name ∈ names, name ≠ "year-suffix") :
    NoLetters runs := by
  intro r hr
  rcases h r hr with ⟨-, htag⟩ | ⟨name, hname, -, htag | htag | htag | htag⟩
  · exact htag
  · rw [htag]
    exact RunTag.ofVariable_ne_yearSuffix (hnames name hname)
  all_goals
    rw [htag]
    decide

-- The same for the runs of one variable.
theorem noLetters_of_variable {name : String} {runs : List TextRun}
    (h : Marked (BelongsTo [name]) runs) (hname : name ≠ "year-suffix") : NoLetters runs :=
  noLetters_of_belongs h fun _ hmem => List.mem_singleton.1 hmem ▸ hname

-- A term beside a variable is not the variable, whichever it is.
theorem noLetters_termRuns (name text : String) : NoLetters (termRuns name text) := by
  rw [termRuns]
  split
  · exact noLetters_nil
  · exact noLetters_singleton (by simp)

end Render

end CslProcessor
