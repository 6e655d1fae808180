import CslProcessor.Proofs.Render.Tags
import CslProcessor.Proofs.Render.Trace

/-!
# Where letters are placed

What the walk knows of the letters behind a year is whether they have been printed. `Placing` says
what this means for the runs of a part of the walk, by the two values that it has before that part
and after it. Letters that were printed within the part are still there, and nothing that is done to
runs afterwards can take them away or come between them and their year: parts are put one behind the
other, and looks keep the runs in their places.

A style that prints the letters itself may do so wherever and as often as it likes, so of such a
style only that letters are there is known.

## Main definitions

* `Printed.IsIssueYear`, `Printed.IsLetters`: The two kinds of runs that matter.
* `BehindFirstYear`: Letters stand behind the first year, and nowhere else.
* `Placing`: What is known of the runs of a part of the walk.

## Theorems

* `Placing.append`, `Placing.surround`: Sequences of parts, and runs with others around them.
* `Placing.finish`, `Placing.finish_printedBy`: The looks of an element.
* `Placing.joinStep`: Parts that are joined.
-/

namespace CslProcessor

namespace Render

open Runs Text

namespace Printed

/-- A year that a date element prints for the time of issue. -/
def IsIssueYear (p : Printed) : Prop :=
  p.run.tag = .year ∧ ∃ d : DateElement, p.origin = some (.date d) ∧ d.variableName = "issued"

/-- Letters behind a year. -/
def IsLetters (p : Printed) : Prop :=
  p.run.tag = .yearSuffix ∧ Lettered p.run.text.toList

/-- A run in the place of another one, with its origin. -/
structure InPlaceOf (p q : Printed) : Prop where
  origin : q.origin = p.origin
  run : Render.InPlaceOf p.run q.run

variable {p q : Printed}

theorem InPlaceOf.isLetters (h : InPlaceOf p q) (hp : p.IsLetters) : q.IsLetters :=
  ⟨h.run.tag.trans hp.1, h.run.lettered hp.2⟩

theorem InPlaceOf.isIssueYear_iff (h : InPlaceOf p q) : q.IsIssueYear ↔ p.IsIssueYear := by
  rw [IsIssueYear, IsIssueYear, h.origin, h.run.tag]

end Printed

/-- A run is neither letters nor a year of issue. -/
def Neutral (p : Printed) : Prop :=
  p.run.tag ≠ .yearSuffix ∧ ¬ p.IsIssueYear

/-- Letters stand behind the first year of issue, and nowhere else. -/
def BehindFirstYear (ps : List Printed) : Prop :=
  ∃ front year letters behind, ps = front ++ year :: letters :: behind ∧
    (∀ p ∈ front, Neutral p) ∧ year.IsIssueYear ∧ letters.IsLetters ∧
    ∀ p ∈ behind, p.run.tag ≠ .yearSuffix

/-- What is known of the runs of a part of the walk, by whether the letters had been printed before
    it and have been printed after it. In a style with a place of its own for the letters little
    is known. -/
inductive Placing (explicit : Bool) : Bool → Bool → List Printed → Prop
  /-- The letters are still to be printed. -/
  | waiting {ps : List Printed} (h : explicit = false → ∀ p ∈ ps, Neutral p) :
      Placing explicit false false ps
  /-- The letters are printed here. -/
  | placed {ps : List Printed} (hseen : ∃ p ∈ ps, p.IsLetters)
      (h : explicit = false → BehindFirstYear ps) : Placing explicit false true ps
  /-- The letters were printed before. -/
  | past {ps : List Printed} (h : explicit = false → ∀ p ∈ ps, p.run.tag ≠ .yearSuffix) :
      Placing explicit true true ps

namespace Placing

variable {explicit before between after : Bool} {ps qs : List Printed}

/-- Where nothing is printed that matters, nothing changes. -/
theorem neutral (h : ∀ p ∈ ps, Neutral p) : Placing explicit before before ps := by
  cases before with
  | false => exact waiting fun _ => h
  | true => exact past fun _ p hp => (h p hp).1

/-- Two parts of the walk in sequence. -/
theorem append (h : Placing explicit before between ps) (h' : Placing explicit between after qs) :
    Placing explicit before after (ps ++ qs) := by
  cases h with
  | waiting hps =>
      cases h' with
      | waiting hqs =>
          refine waiting fun hexplicit p hp => ?_
          rcases List.mem_append.1 hp with hp | hp
          · exact hps hexplicit p hp
          · exact hqs hexplicit p hp
      | placed hseen hqs =>
          rcases hseen with ⟨p, hp, hletters⟩
          refine placed ⟨p, List.mem_append_right ps hp, hletters⟩ fun hexplicit => ?_
          rcases hqs hexplicit with ⟨front, year, letters, behind, rfl, hfront, hrest⟩
          refine ⟨ps ++ front, year, letters, behind, by simp, fun p hp => ?_, hrest⟩
          rcases List.mem_append.1 hp with hp | hp
          · exact hps hexplicit p hp
          · exact hfront p hp
  | placed hseen hps =>
      cases h' with
      | past hqs =>
          rcases hseen with ⟨p, hp, hletters⟩
          refine placed ⟨p, List.mem_append_left qs hp, hletters⟩ fun hexplicit => ?_
          rcases hps hexplicit with
            ⟨front, year, letters, behind, rfl, hfront, hyear, hletters', hbehind⟩
          refine ⟨front, year, letters, behind ++ qs, by simp, hfront, hyear, hletters',
            fun p hp => ?_⟩
          rcases List.mem_append.1 hp with hp | hp
          · exact hbehind p hp
          · exact hqs hexplicit p hp
  | past hps =>
      cases h' with
      | past hqs =>
          refine past fun hexplicit p hp => ?_
          rcases List.mem_append.1 hp with hp | hp
          · exact hps hexplicit p hp
          · exact hqs hexplicit p hp

-- Runs without what matters stay so when others take their places.
theorem neutral_of_inPlaceOf (h : List.Forall₂ Printed.InPlaceOf ps qs)
    (hps : ∀ p ∈ ps, Neutral p) : ∀ q ∈ qs, Neutral q := by
  intro q hq
  rcases exists_of_forall₂_right h hq with ⟨p, hp, hplace⟩
  have hneutral := hps p hp
  exact ⟨hplace.run.tag ▸ hneutral.1, fun hyear => hneutral.2 (hplace.isIssueYear_iff.1 hyear)⟩

theorem tag_ne_of_inPlaceOf (h : List.Forall₂ Printed.InPlaceOf ps qs)
    (hps : ∀ p ∈ ps, p.run.tag ≠ .yearSuffix) : ∀ q ∈ qs, q.run.tag ≠ .yearSuffix := by
  intro q hq
  rcases exists_of_forall₂_right h hq with ⟨p, hp, hplace⟩
  rw [hplace.run.tag]
  exact hps p hp

theorem behindFirstYear_of_inPlaceOf (h : List.Forall₂ Printed.InPlaceOf ps qs)
    (hps : BehindFirstYear ps) : BehindFirstYear qs := by
  rcases hps with ⟨front, year, letters, behind, rfl, hfront, hyear, hletters, hbehind⟩
  rcases forall₂_append_left h with ⟨front', rest, rfl, hfront', hrest⟩
  rcases List.forall₂_cons_left_iff.1 hrest with ⟨year', rest', hyear', hrest', rfl⟩
  rcases List.forall₂_cons_left_iff.1 hrest' with ⟨letters', behind', hletters', hbehind', rfl⟩
  exact ⟨front', year', letters', behind', rfl, neutral_of_inPlaceOf hfront' hfront,
    hyear'.isIssueYear_iff.2 hyear, hletters'.isLetters hletters,
    tag_ne_of_inPlaceOf hbehind' hbehind⟩

/-- Runs that take the places of others. -/
theorem inPlace (h : Placing explicit before after ps)
    (hplaces : List.Forall₂ Printed.InPlaceOf ps qs) : Placing explicit before after qs := by
  cases h with
  | waiting hps => exact waiting fun hexplicit => neutral_of_inPlaceOf hplaces (hps hexplicit)
  | placed hseen hps =>
      rcases hseen with ⟨p, hp, hletters⟩
      rcases exists_of_forall₂_left hplaces hp with ⟨q, hq, hplace⟩
      exact placed ⟨q, hq, hplace.isLetters hletters⟩
        fun hexplicit => behindFirstYear_of_inPlaceOf hplaces (hps hexplicit)
  | past hps => exact past fun hexplicit => tag_ne_of_inPlaceOf hplaces (hps hexplicit)

/-- A part without letters among its runs has not printed them. -/
theorem eq_of_not_lettered (h : Placing explicit before after ps)
    (hps : ∀ p ∈ ps, ¬ Lettered p.run.text.toList) : after = before := by
  cases h with
  | waiting _ => rfl
  | placed hseen _ =>
      rcases hseen with ⟨p, hp, hletters⟩
      exact absurd hletters.2 (hps p hp)
  | past _ => rfl

-- A part that prints nothing visible has not printed the letters.
theorem eq_of_isBlank (h : Placing explicit before after ps) (hblank : isBlank (runsOf ps) = true) :
    after = before :=
  h.eq_of_not_lettered fun p hp =>
    not_lettered_of_isBlank hblank p.run (List.mem_map_of_mem hp)

end Placing

-- Punctuation does not matter.
theorem neutral_printedBy {origin : Option Node} {runs : List TextRun}
    (h : ∀ r ∈ runs, r.tag = .punctuation) : ∀ p ∈ printedBy origin runs, Neutral p := by
  intro p hp
  rcases List.mem_map.1 hp with ⟨r, hr, rfl⟩
  have htag := h r hr
  refine ⟨?_, fun hyear => ?_⟩
  · rw [htag]
    decide
  · rw [hyear.1] at htag
    exact absurd htag (by decide)

/-! ## Looks -/

namespace Placing

variable {explicit before after : Bool}

/-- Runs in their places, between punctuation. -/
theorem surround (f : Formatting) (locale : Locale) (origin : Option Node) {ps qs : List Printed}
    (h : Placing explicit before after ps) (hplaces : List.Forall₂ Printed.InPlaceOf ps qs) :
    Placing explicit before after
      (printedBy origin (opening f locale) ++ qs ++ printedBy origin (closing f locale)) :=
  ((neutral (neutral_printedBy fun _ => tag_of_mem_opening)).append (h.inPlace hplaces)).append
    (neutral (neutral_printedBy fun _ => tag_of_mem_closing))

-- What is left of runs that vanish.
theorem vanished {f : Formatting} {locale : Locale} {ps : List Printed}
    (h : Placing explicit before after ps) (hvanishes : vanishes f locale (runsOf ps) = true) :
    Placing explicit before after [] := by
  rw [h.eq_of_not_lettered fun p hp =>
    not_lettered_of_vanishes hvanishes p.run (List.mem_map_of_mem hp)]
  exact neutral fun _ hp => absurd hp List.not_mem_nil

theorem forall₂_replaced {ps : List Printed} : ∀ {runs : List TextRun},
    List.Forall₂ InPlaceOf (runsOf ps) runs →
      List.Forall₂ Printed.InPlaceOf ps (Printed.replaced ps runs) := by
  induction ps with
  | nil => exact fun _ => List.Forall₂.nil
  | cons p rest ih =>
      intro runs h
      rcases List.forall₂_cons_left_iff.1 h with ⟨r, runs', hr, hrest, rfl⟩
      exact List.Forall₂.cons ⟨rfl, hr⟩ (ih hrest)

/-- The looks of an element neither lose the letters nor move them. -/
theorem finish (f : Formatting) (locale : Locale) {ps : List Printed}
    (h : Placing explicit before after ps) :
    Placing explicit before after (Printed.finish f locale ps) := by
  rw [Printed.finish]
  split
  · rename_i hvanishes
    exact h.vanished hvanishes
  · exact h.surround f locale none (forall₂_replaced (forall₂_restyled f (runsOf ps)))

/-- The same for an element that has printed all of its runs. -/
theorem finish_printedBy (f : Formatting) (locale : Locale) (origin : Option Node)
    {runs : List TextRun} (h : Placing explicit before after (printedBy origin runs)) :
    Placing explicit before after (printedBy origin (Render.finish f locale runs)) := by
  rw [finish_eq]
  split
  · rename_i hvanishes
    exact h.vanished (by rwa [runsOf_printedBy])
  · have hplaces : List.Forall₂ Printed.InPlaceOf (printedBy origin runs)
        (printedBy origin (restyled f runs)) := by
      rw [printedBy, printedBy, List.forall₂_map_left_iff, List.forall₂_map_right_iff]
      exact (forall₂_restyled f runs).imp fun _ _ hplace => ⟨rfl, hplace⟩
    have hsurround := h.surround f locale origin hplaces
    rwa [printedBy, printedBy, printedBy, ← List.map_append, ← List.map_append] at hsurround

/-- A group of runs put behind others. -/
theorem joinStep (delimiter : String) {between : Bool} {joined group : List Printed}
    (h : Placing explicit before between joined) (h' : Placing explicit between after group) :
    Placing explicit before after (Printed.joinStep delimiter joined group) := by
  rw [Printed.joinStep]
  split
  · rename_i hblank
    rw [h'.eq_of_isBlank hblank]
    exact h
  · split
    · rename_i hempty
      rw [List.isEmpty_iff] at hempty
      rw [hempty] at h
      exact h.append h'
    · exact (h.append (neutral (neutral_printedBy fun _ => tag_of_mem_punctuation))).append h'

end Placing

end Render

end CslProcessor
