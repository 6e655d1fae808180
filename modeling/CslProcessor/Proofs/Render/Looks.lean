import CslProcessor.Proofs.Text.Lettering
import CslProcessor.Render.Element

/-!
# Runs under the looks of an element

The looks of an element rewrite its runs one by one, and put quotes and text around them. Runs may
lose their text, and if all of them do, nothing is left. Runs of letters do not lose theirs, so
where there are letters the looks keep every run in its place.

## Main definitions

* `InPlaceOf`: One run in the place of another.
* `opening`, `restyled`, `closing`: What stands in front of runs, the runs, and what stands behind.
* `vanishes`: Whether nothing is left.

## Theorems

* `finish_eq`: The looks take runs apart into these.
* `isBlank_finish`: They leave runs with text, or none.
* `forall₂_restyled`: Runs stay in their places.
* `not_lettered_of_vanishes`: Letters do not vanish.
-/

namespace CslProcessor

namespace Render

open Runs Text

/-! ## Lists member by member -/

section

variable {α β : Type} {R : α → β → Prop}

-- What stands to a sequence of two lists is a sequence of two lists.
theorem forall₂_append_left {l l' : List α} :
    ∀ {k : List β}, List.Forall₂ R (l ++ l') k →
      ∃ m m', k = m ++ m' ∧ List.Forall₂ R l m ∧ List.Forall₂ R l' m' := by
  induction l with
  | nil => exact fun {k} h => ⟨[], k, rfl, List.Forall₂.nil, h⟩
  | cons a rest ih =>
      intro k h
      rw [List.cons_append] at h
      rcases List.forall₂_cons_left_iff.1 h with ⟨b, k', hb, h', rfl⟩
      rcases ih h' with ⟨m, m', rfl, hm, hm'⟩
      exact ⟨b :: m, m', rfl, List.Forall₂.cons hb hm, hm'⟩

theorem exists_of_forall₂_left {l : List α} {k : List β} (h : List.Forall₂ R l k) {a : α}
    (ha : a ∈ l) : ∃ b ∈ k, R a b := by
  rcases List.append_of_mem ha with ⟨s, t, rfl⟩
  rcases forall₂_append_left h with ⟨m, m', rfl, -, hm'⟩
  rcases List.forall₂_cons_left_iff.1 hm' with ⟨b, t', hb, -, rfl⟩
  exact ⟨b, List.mem_append_right m List.mem_cons_self, hb⟩

theorem exists_of_forall₂_right {l : List α} {k : List β} (h : List.Forall₂ R l k) {b : β}
    (hb : b ∈ k) : ∃ a ∈ l, R a b :=
  exists_of_forall₂_left h.flip hb

end

/-! ## The looks taken apart -/

/-- A run in the place of another one. It is of the same kind and from the same variable, and still
    of letters if that one was. -/
structure InPlaceOf (r r' : TextRun) : Prop where
  tag : r'.tag = r.tag
  variableName : r'.variableName = r.variableName
  lettered : Lettered r.text.toList → Lettered r'.text.toList

theorem InPlaceOf.refl (r : TextRun) : InPlaceOf r r :=
  ⟨rfl, rfl, id⟩

theorem InPlaceOf.trans {r r' r'' : TextRun} (h : InPlaceOf r r') (h' : InPlaceOf r' r'') :
    InPlaceOf r r'' :=
  ⟨h'.tag.trans h.tag, h'.variableName.trans h.variableName,
    fun hr => h'.lettered (h.lettered hr)⟩

/-- A quote of a locale, if an element asks for quotes. -/
def quote (f : Formatting) (locale : Locale) (term : String) : List TextRun :=
  if f.quotes then [TextRun.addFlags f.flags (TextRun.punctuation (locale.term term))] else []

/-- What the looks of an element put in front of its runs. -/
def opening (f : Formatting) (locale : Locale) : List TextRun :=
  punctuation f.lead ++ quote f locale "open-quote"

/-- What the looks of an element put behind its runs. -/
def closing (f : Formatting) (locale : Locale) : List TextRun :=
  quote f locale "close-quote" ++ punctuation f.trail

/-- The runs in the case of an element. -/
def recased (f : Formatting) (runs : List TextRun) : List TextRun :=
  match f.textCase with
  | some case => recaseRuns case runs
  | none => runs

/-- The runs with the text and the flags that the looks of an element give them. -/
def restyled (f : Formatting) (runs : List TextRun) : List TextRun :=
  withFlags f.flags (recased f (if f.stripPeriods then stripPeriods runs else runs))

/-- Whether the looks of an element leave nothing of its runs. -/
def vanishes (f : Formatting) (locale : Locale) (runs : List TextRun) : Bool :=
  isBlank runs ||
    isBlank (quote f locale "open-quote" ++ restyled f runs ++ quote f locale "close-quote")

/-- The looks of an element put something in front of its runs and something behind. -/
theorem finish_eq (f : Formatting) (locale : Locale) (runs : List TextRun) :
    finish f locale runs =
      if vanishes f locale runs then []
      else opening f locale ++ restyled f runs ++ closing f locale := by
  have hquoted : ∀ rs : List TextRun,
      withFlags f.flags (if f.quotes then inQuotes locale rs else rs) =
        quote f locale "open-quote" ++ withFlags f.flags rs ++ quote f locale "close-quote" := by
    intro rs
    cases hq : f.quotes with
    | true => simp [quote, inQuotes, withFlags, hq]
    | false => simp [quote, hq]
  cases hblank : isBlank runs with
  | true => rw [finish, vanishes, hblank, if_pos rfl, Bool.true_or, if_pos rfl]
  | false =>
      have hfinish : finish f locale runs = withAffixes f.lead f.trail
          (quote f locale "open-quote" ++ restyled f runs ++ quote f locale "close-quote") := by
        rw [restyled, ← hquoted, finish, hblank, if_neg Bool.false_ne_true]
        rfl
      rw [hfinish, vanishes, hblank, Bool.false_or, withAffixes, opening, closing]
      simp only [List.append_assoc]

/-- The looks of an element leave runs with text, or none. -/
theorem isBlank_finish (f : Formatting) (locale : Locale) (runs : List TextRun) :
    isBlank (finish f locale runs) = (finish f locale runs).isEmpty := by
  rw [finish_eq]
  cases hv : vanishes f locale runs with
  | true => rfl
  | false =>
      rw [vanishes, Bool.or_eq_false_iff, isBlank_append, isBlank_append] at hv
      have hprinted :
          isBlank (opening f locale ++ restyled f runs ++ closing f locale) = false := by
        simp only [opening, closing, isBlank_append]
        revert hv
        cases isBlank (quote f locale "open-quote") <;> cases isBlank (restyled f runs) <;>
          cases isBlank (quote f locale "close-quote") <;> simp
      rw [if_neg Bool.false_ne_true, hprinted]
      cases h : opening f locale ++ restyled f runs ++ closing f locale with
      | nil =>
          rw [h] at hprinted
          exact absurd hprinted (by decide)
      | cons r rest => rfl

/-! ## Runs in their places -/

theorem inPlaceOf_stripPeriods {l runs : List TextRun} (h : List.Forall₂ InPlaceOf l runs) :
    List.Forall₂ InPlaceOf l (stripPeriods runs) := by
  rw [stripPeriods, List.forall₂_map_right_iff]
  refine h.imp fun r r' hr => hr.trans ?_
  split
  · exact InPlaceOf.refl r'
  · refine ⟨rfl, rfl, fun hr' => ?_⟩
    dsimp only
    rwa [hr'.without]

theorem inPlaceOf_withFlags (flags : Flags) {l runs : List TextRun}
    (h : List.Forall₂ InPlaceOf l runs) : List.Forall₂ InPlaceOf l (withFlags flags runs) := by
  rw [withFlags, List.forall₂_map_right_iff]
  exact h.imp fun r r' hr => hr.trans ⟨rfl, rfl, id⟩

-- Texts that stay in the places of segments, put back into the runs of these.
theorem inPlaceOf_zipWith {l runs : List TextRun} (h : List.Forall₂ InPlaceOf l runs) :
    ∀ {texts : List String},
      List.Forall₂ StaysLettered (runs.map fun r => ⟨r.text, r.verbatim⟩) texts →
      List.Forall₂ InPlaceOf l (runs.zipWith (fun r text => { r with text }) texts) := by
  induction h with
  | nil => exact fun _ => List.Forall₂.nil
  | cons hr _ ih =>
      intro texts htexts
      rw [List.map_cons] at htexts
      rcases List.forall₂_cons_left_iff.1 htexts with ⟨text, rest, htext, hrest, rfl⟩
      exact List.Forall₂.cons (hr.trans ⟨rfl, rfl, htext⟩) (ih hrest)

theorem inPlaceOf_recased (f : Formatting) {l runs : List TextRun}
    (h : List.Forall₂ InPlaceOf l runs) : List.Forall₂ InPlaceOf l (recased f runs) := by
  rw [recased]
  cases f.textCase with
  | none => exact h
  | some case => exact inPlaceOf_zipWith h (forall₂_recase case _)

/-- Runs stay in their places. -/
theorem forall₂_restyled (f : Formatting) (runs : List TextRun) :
    List.Forall₂ InPlaceOf runs (restyled f runs) := by
  have hsame : List.Forall₂ InPlaceOf runs runs := List.forall₂_same.2 fun r _ => InPlaceOf.refl r
  refine inPlaceOf_withFlags f.flags (inPlaceOf_recased f ?_)
  cases f.stripPeriods with
  | false => exact hsame
  | true => exact inPlaceOf_stripPeriods hsame

theorem tag_of_mem_punctuation {text : String} {r : TextRun} (h : r ∈ punctuation text) :
    r.tag = .punctuation := by
  rw [punctuation] at h
  split at h
  · exact absurd h List.not_mem_nil
  · rw [List.mem_singleton.1 h]
    rfl

theorem tag_of_mem_quote {f : Formatting} {locale : Locale} {term : String} {r : TextRun}
    (h : r ∈ quote f locale term) : r.tag = .punctuation := by
  rw [quote] at h
  split at h
  · rw [List.mem_singleton.1 h]
    rfl
  · exact absurd h List.not_mem_nil

/-- What the looks put around runs is punctuation. -/
theorem tag_of_mem_opening {f : Formatting} {locale : Locale} {r : TextRun}
    (h : r ∈ opening f locale) : r.tag = .punctuation := by
  rcases List.mem_append.1 h with h | h
  · exact tag_of_mem_punctuation h
  · exact tag_of_mem_quote h

theorem tag_of_mem_closing {f : Formatting} {locale : Locale} {r : TextRun}
    (h : r ∈ closing f locale) : r.tag = .punctuation := by
  rcases List.mem_append.1 h with h | h
  · exact tag_of_mem_quote h
  · exact tag_of_mem_punctuation h

/-! ## Letters do not vanish -/

-- Runs with letters among them are not blank.
theorem not_lettered_of_isBlank {runs : List TextRun} (h : isBlank runs = true) :
    ∀ r ∈ runs, ¬ Lettered r.text.toList := by
  intro r hr hletters
  have hempty := List.all_eq_true.1 h r hr
  rw [String.isEmpty_iff] at hempty
  rw [hempty] at hletters
  exact hletters.1 rfl

/-- Runs with letters among them do not vanish. -/
theorem not_lettered_of_vanishes {f : Formatting} {locale : Locale} {runs : List TextRun}
    (h : vanishes f locale runs = true) : ∀ r ∈ runs, ¬ Lettered r.text.toList := by
  rw [vanishes, Bool.or_eq_true] at h
  rcases h with h | h
  · exact not_lettered_of_isBlank h
  · rw [isBlank_append, isBlank_append, Bool.and_eq_true, Bool.and_eq_true] at h
    intro r hr hletters
    rcases exists_of_forall₂_left (forall₂_restyled f runs) hr with ⟨r', hr', hplace⟩
    exact not_lettered_of_isBlank h.1.2 r' hr' (hplace.lettered hletters)

end Render

end CslProcessor
