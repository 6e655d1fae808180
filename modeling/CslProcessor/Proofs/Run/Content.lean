import CslProcessor.Proofs.Run.Seams
import Mathlib.Data.List.Forall2
import Mathlib.Data.List.Infix

/-!
# What settled runs say

The rules for seams drop and move marks and blanks, and nothing else. Apart from these, settled runs
say what the runs said before, run by run: every settled run is one of the runs given, with its tag,
its variable, its flags and its content, and runs keep their order. A run that is left out had no
content.

## Main definitions

* `seamMarks`, `content`: What the rules for seams may drop or move, and all the rest of a text.
* `ComesFrom`: A settled run and the run that it was.

## Theorems

* `Seam.content_eq`: Both sides of a seam keep their content.
* `content_joinSeam`: Texts put together have the content of both.
* `settle_comesFrom`: What settling one run does to the runs settled so far.
* `normalizePunctuation_content`: Settled runs have the content of the runs given.
-/

namespace CslProcessor

namespace Runs

/-- What the rules for seams may drop or move. -/
def seamMarks : List Char :=
  ['.', ',', ';', ':', ' ']

/-- A text without the characters that the rules for seams may drop or move. -/
def content (cs : List Char) : List Char :=
  cs.filter (!seamMarks.contains ·)

/-- A run is another one with the same content, of the same kind. -/
structure ComesFrom (source r : TextRun) : Prop where
  tag : r.tag = source.tag
  variableName : r.variableName = source.variableName
  flags : r.flags = source.flags
  verbatim : r.verbatim = source.verbatim
  content : content r.text.toList = content source.text.toList

theorem ComesFrom.refl (r : TextRun) : ComesFrom r r :=
  ⟨rfl, rfl, rfl, rfl, rfl⟩

-- A run that has come from another one, with its text changed at a seam.
theorem ComesFrom.retext {source r : TextRun} {cs : List Char} (h : ComesFrom source r)
    (hcs : Runs.content cs = Runs.content r.text.toList) :
    ComesFrom source { r with text := String.ofList cs } :=
  ⟨h.tag, h.variableName, h.flags, h.verbatim, by rw [String.toList_ofList, hcs, h.content]⟩

@[simp]
theorem content_append (a b : List Char) : content (a ++ b) = content a ++ content b :=
  List.filter_append a b

theorem content_of_seamMarks {cs : List Char} (h : ∀ c ∈ cs, c ∈ seamMarks) : content cs = [] := by
  rw [content, List.filter_eq_nil_iff]
  intro c hc
  simpa using h c hc

theorem content_cons_of_mem {c : Char} (h : c ∈ seamMarks) (cs : List Char) :
    content (c :: cs) = content cs := by
  rw [← List.singleton_append, content_append, content_of_seamMarks (by simpa using h),
    List.nil_append]

-- A mark that is dropped or moved is one of those that may be.
theorem Clash.mem_seamMarks {last mark : Char} (h : Clash last mark) : mark ∈ seamMarks := by
  simp only [Clash, clashes, List.mem_cons, List.not_mem_nil, Prod.mk.injEq, or_false] at h
  simp only [seamMarks, List.mem_cons, List.not_mem_nil]
  grind

/-- Both sides of a seam keep their content. -/
theorem Seam.content_eq {piq : Bool} {before after : List Char} {settled : List Char × List Char}
    (h : Seam piq before after settled) :
    content settled.1 = content before ∧ content settled.2 = content after := by
  cases h with
  | @blanks _ dropped after hlast hdropped =>
      have hblanks : content dropped = [] := content_of_seamMarks fun c hc => by
        rw [hdropped c hc]
        decide
      rw [content_append, hblanks]
      exact ⟨rfl, rfl⟩
  | double hlast hclash =>
      rw [content_cons_of_mem hclash.mem_seamMarks]
      exact ⟨rfl, rfl⟩
  | @tucked front after mark hquote hmark =>
      have hmem : mark ∈ seamMarks := by
        rcases hmark with rfl | rfl <;> decide
      rw [content_cons_of_mem hmem, content_append, content_cons_of_mem hmem, content_append]
      exact ⟨rfl, rfl⟩
  | kept hclash htuck => exact ⟨rfl, rfl⟩

/-- Texts put together at their seam have the content of both. -/
theorem content_joinSeam (piq : Bool) (before after : List Char) :
    content (joinSeam piq before after) = content before ++ content after := by
  have hseam := (seam_settleSeam piq before after).content_eq
  rw [joinSeam, content_append, hseam.1, hseam.2]

theorem content_foldl_joinSeam (piq : Bool) (texts : List (List Char)) (before : List Char) :
    content (texts.foldl (joinSeam piq) before) = content before ++ content texts.flatten := by
  induction texts generalizing before with
  | nil => simp [content]
  | cons text rest ih =>
      rw [List.foldl_cons, ih, content_joinSeam, List.flatten_cons, content_append,
        List.append_assoc]

/-- Settling one more run leaves each run settled so far the run that it was, and puts the run
    behind them or leaves it out. -/
theorem settle_comesFrom (piq : Bool) {sources settled : List TextRun}
    (h : List.Forall₂ ComesFrom sources settled) (r : TextRun) :
    List.Forall₂ ComesFrom sources (settle piq settled r) ∨
      List.Forall₂ ComesFrom (r :: sources) (settle piq settled r) := by
  unfold settle
  split
  · exact Or.inl h
  · cases h with
    | nil => exact Or.inr (.cons (ComesFrom.refl r) .nil)
    | @cons source p sources rest hp hrest =>
        have hseam := (seam_settleSeam piq p.text.toList r.text.toList).content_eq
        have hfront := List.Forall₂.cons (hp.retext hseam.1) hrest
        dsimp only [retext]
        split
        · exact Or.inl hfront
        · exact Or.inr (.cons ((ComesFrom.refl r).retext hseam.2) hfront)

/-- Settled runs say what the runs given say, apart from marks and blanks, and each of them is one
    of the runs given, in their order. -/
theorem normalizePunctuation_content (piq : Bool) (runs : List TextRun) :
    content (plainText (normalizePunctuation piq runs)).toList =
        content (plainText runs).toList ∧
      ∃ sources, sources.Sublist runs ∧
        List.Forall₂ ComesFrom sources (normalizePunctuation piq runs) := by
  constructor
  · rw [toList_normalizePunctuation, content_foldl_joinSeam, toList_plainText, List.flatMap_def]
    rfl
  · -- Runs are settled last first, so their sources are found in that order too.
    have hfold : ∃ sources, sources.reverse.Sublist runs ∧
        List.Forall₂ ComesFrom sources (runs.foldl (settle piq) []) := by
      induction runs using List.reverseRecOn with
      | nil => exact ⟨[], List.Sublist.refl [], .nil⟩
      | append_singleton runs r ih =>
          rcases ih with ⟨sources, hsources, hsettled⟩
          rw [List.foldl_append, List.foldl_cons, List.foldl_nil]
          rcases settle_comesFrom piq hsettled r with h | h
          · exact ⟨sources, hsources.trans (List.sublist_append_left runs [r]), h⟩
          · refine ⟨r :: sources, ?_, h⟩
            rw [List.reverse_cons]
            exact hsources.append (List.Sublist.refl [r])
    rcases hfold with ⟨sources, hsources, hsettled⟩
    exact ⟨sources.reverse, hsources, List.forall₂_reverse_iff.2 hsettled⟩

end Runs

end CslProcessor
