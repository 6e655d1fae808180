import CslProcessor.Locale.AmericanEnglish
import CslProcessor.Proofs.Date.Blocks
import CslProcessor.Proofs.Date.Parts

/-!
# Ranges with one end or two

The blocks of a range hold every part of the layout, and whatever differs between the ends stands
in the middle block, which is printed for both. So a range loses nothing of either end.

The two ends need not have the same parts, though. The middle block is cut around the parts that
one end has, and the other end may have none of them, as a month has no day to set against a full
date; the delimiter is printed all the same. What an end does print there comes from one of two
places: a part that may differ, or a part that happens to stand between two of those. `HasSide` says
so of the dates and the layout alone.

## Main definitions

* `HasSide`: A date has something to print on its side of the delimiter.

## Theorems

* `renderDate_range`: The blocks of a range, with all that differs in the middle.
* `hasSide_iff`: What an end prints in the middle block.
* `delimiter_between_sides`: When there is text on both sides of the delimiter.
* `untilNinthOfMay_dangles`: A range that prints one end only.
-/

namespace CslProcessor

namespace DateText

variable {s : Setting} {d e : Date} {parts : List DatePart}

/-! ## Both ends -/

-- A member that neither of the outer lists has stands in the middle one.
theorem index_of_not_mem {l m r : List DatePart} {i : Nat} {part : DatePart}
    (hi : (l ++ m ++ r)[i]? = some part) (hpart : part ∉ l ++ r) :
    l.length ≤ i ∧ i < l.length + m.length := by
  rw [List.mem_append, not_or] at hpart
  constructor
  · by_contra hlt
    rw [Nat.not_le] at hlt
    rw [List.append_assoc, List.getElem?_append_left hlt] at hi
    exact hpart.1 (List.mem_of_getElem? hi)
  · by_contra hle
    rw [List.getElem?_append_right (by rw [List.length_append]; omega)] at hi
    exact hpart.2 (List.mem_of_getElem? hi)

/-- A range is printed as its start, and then every part has the same text in both ends; or the
    layout falls into three blocks, of which the first is printed for the start, the middle one for
    both ends with the delimiter of the greatest unit that differs between them, and the last for
    the end. Every part with different texts stands in the middle block. -/
theorem renderDate_range (he : d.rangeEnd = some e) :
    (renderDate s d parts = renderParts s d.toCalendarDate parts ∧
      ∀ part ∈ parts,
        partText d.toCalendarDate part s.locale = partText e.toCalendarDate part s.locale) ∨
    ∃ before middle behind, ∃ unit ∈ middle,
      parts = before ++ middle ++ behind ∧
      renderDate s d parts =
        renderParts s d.toCalendarDate before ++
          between s.delimiter (renderParts s d.toCalendarDate before)
            (renderParts s d.toCalendarDate middle false true) ++
          renderParts s d.toCalendarDate middle false true ++
          [TextRun.punctuation unit.rangeDelimiter] ++
          renderParts s e.toCalendarDate middle true false ++
          (if (renderParts s e.toCalendarDate behind).isEmpty then []
            else Runs.punctuation s.delimiter) ++
          renderParts s e.toCalendarDate behind ∧
      (∀ part ∈ parts, differs s.locale d.toCalendarDate e.toCalendarDate part = true →
        unitRank unit.name ≤ unitRank part.name) ∧
      (∀ part ∈ before ++ behind,
        partText d.toCalendarDate part s.locale = partText e.toCalendarDate part s.locale) ∧
      ∀ i part, parts[i]? = some part →
        partText d.toCalendarDate part s.locale ≠ partText e.toCalendarDate part s.locale →
        before.length ≤ i ∧ i < before.length + middle.length := by
  rw [renderDate_of_rangeEnd s he]
  cases hplan : rangePlan? s.locale d.toCalendarDate e.toCalendarDate parts with
  | none =>
      exact Or.inl ⟨rfl, fun part hpart =>
        partText_eq_of_differs_eq_false (rangePlan?_eq_none_iff.1 hplan part hpart)⟩
  | some plan =>
      rcases plan with ⟨unit, blocks⟩
      rcases rangePlan?_spec hplan with ⟨rfl, hunit, hdiffers, hgreatest⟩
      have hparts := append_rangeBlocks (differs s.locale d.toCalendarDate e.toCalendarDate) parts
      have hsame : ∀ part ∈ (rangeBlocks (differs s.locale d.toCalendarDate e.toCalendarDate)
          parts).before ++ (rangeBlocks (differs s.locale d.toCalendarDate e.toCalendarDate)
          parts).behind,
          partText d.toCalendarDate part s.locale = partText e.toCalendarDate part s.locale := by
        intro part hpart
        refine partText_eq_of_differs_eq_false ?_
        exact (List.mem_append.1 hpart).elim picked_eq_false_of_mem_before
          picked_eq_false_of_mem_behind
      exact Or.inr ⟨_, _, _, unit, mem_middle_iff.2 (Or.inl ⟨hunit, hdiffers⟩), hparts.symm, rfl,
        hgreatest, hsame, fun i part hi hne =>
          index_of_not_mem (hparts.symm ▸ hi) fun hmem => hne (hsame part hmem)⟩

/-- Month, day and year, each with what stands behind it. -/
def monthDayYear : List DatePart :=
  [{ name := "month", formatting := { trail := " " } },
    { name := "day", formatting := { trail := ", " } }, { name := "year" }]

/-- Dates in the built-in locale. -/
def american : Setting :=
  { locale := americanEnglish }

/-- The fifth of June. -/
def fifthOfJune : Date :=
  { year := 2020, month := some 6, day := some 5 }

/-- From the third of May to the fifth of June. -/
def untilFifthOfJune : Date :=
  { year := 2020, month := some 5, day := some 3, rangeEnd := some fifthOfJune }

-- Month and day are printed for both ends, and the year once.
theorem renderDate_range_untilFifthOfJune :
    untilFifthOfJune.rangeEnd = some fifthOfJune ∧
      Runs.plainText (renderDate american untilFifthOfJune monthDayYear) = "May 3–June 5, 2020" ∧
      ∃ before middle behind, ∃ unit ∈ middle,
        monthDayYear = before ++ middle ++ behind ∧ unit.rangeDelimiter = "–" ∧
          ∀ i part, monthDayYear[i]? = some part →
            partText untilFifthOfJune.toCalendarDate part americanEnglish ≠
              partText fifthOfJune.toCalendarDate part americanEnglish →
            before.length ≤ i ∧ i < before.length + middle.length := by
  have htext : Runs.plainText (renderDate american untilFifthOfJune monthDayYear) =
      "May 3–June 5, 2020" := by decide +kernel
  have hone : Runs.plainText (renderParts american untilFifthOfJune.toCalendarDate
      monthDayYear) = "May 3, 2020" := by decide +kernel
  refine ⟨rfl, htext, ?_⟩
  have hend : untilFifthOfJune.rangeEnd = some fifthOfJune := rfl
  rcases @renderDate_range american _ _ monthDayYear hend with
    ⟨hstart, -⟩ | ⟨before, middle, behind, unit, hunit, hparts, -, -, -, hplace⟩
  · rw [hstart, hone] at htext
    exact absurd htext (by decide)
  · refine ⟨before, middle, behind, unit, hunit, hparts, ?_, hplace⟩
    have hmem : unit ∈ monthDayYear := by simp [hparts, hunit]
    exact (by decide : ∀ part ∈ monthDayYear, part.rangeDelimiter = "–") unit hmem

/-! ## One end only -/

/-- Whether a date has a part of the layout to print beside another date: one in which the two may
    differ, or one between two of these that the other date has. -/
def HasSide (a b : CalendarDate) (parts : List DatePart) : Prop :=
  (∃ part ∈ parts, part.name ∈ differingParts a b ∧ a.has part.name = true) ∨
    ∃ part, a.has part.name = true ∧
      StandsBetween (fun p => (differingParts a b).contains p.name && b.has p.name) parts part

/-- A date prints something in the middle block exactly if it has a side of its own. -/
theorem hasSide_iff {locale : Locale} (hl : locale.NamesCalendar) {a b : CalendarDate} :
    (∃ part ∈ (rangeBlocks (differs locale a b) parts).middle, partText a part locale ≠ "") ↔
      HasSide a b parts := by
  have hpicked : ∀ part, differs locale a b part = true ↔
      part.name ∈ differingParts a b ∧ (a.has part.name = true ∨ b.has part.name = true) := by
    intro part
    rw [differs_iff, partText_ne_empty_iff hl, partText_ne_empty_iff hl]
  constructor
  · rintro ⟨part, hmem, htext⟩
    rw [partText_ne_empty_iff hl] at htext
    by_cases hown : ∃ p ∈ parts, p.name ∈ differingParts a b ∧ a.has p.name = true
    · exact Or.inl hown
    -- Whatever is picked is picked for the other date.
    have hother : ∀ p ∈ parts, differs locale a b p = true →
        ((differingParts a b).contains p.name && b.has p.name) = true := by
      intro p hp hdiffers
      have hp' := (hpicked p).1 hdiffers
      rw [Bool.and_eq_true, List.contains_eq_mem, decide_eq_true_eq]
      exact ⟨hp'.1, hp'.2.resolve_left fun hhas => hown ⟨p, hp, hp'.1, hhas⟩⟩
    rcases mem_middle_iff.1 hmem with ⟨hpart, hdiffers⟩ | hbetween
    · exact absurd ⟨part, hpart, ((hpicked part).1 hdiffers).1, htext⟩ hown
    · exact Or.inr ⟨part, htext, hbetween.imp hother⟩
  · rintro (⟨part, hpart, hname, hhas⟩ | ⟨part, hhas, hbetween⟩)
    · exact ⟨part, mem_middle_iff.2 (Or.inl ⟨hpart, (hpicked part).2 ⟨hname, Or.inl hhas⟩⟩),
        (partText_ne_empty_iff hl a part).2 hhas⟩
    · refine ⟨part, mem_middle_iff.2 (Or.inr (hbetween.imp fun p _ hp => ?_)),
        (partText_ne_empty_iff hl a part).2 hhas⟩
      rw [Bool.and_eq_true, List.contains_eq_mem, decide_eq_true_eq] at hp
      exact (hpicked p).2 ⟨hp.1, Or.inr hp.2⟩

/-- Where the delimiter of a range is printed, a part of the start stands in front of it exactly if
    the start has a side of its own, and a part of the end behind it exactly if the end has one. So
    there are both if the two ends have the same parts. -/
theorem delimiter_between_sides (hl : s.locale.NamesCalendar) (he : d.rangeEnd = some e)
    {unit : DatePart} {blocks : RangeBlocks}
    (hplan : rangePlan? s.locale d.toCalendarDate e.toCalendarDate parts = some (unit, blocks)) :
    renderDate s d parts =
        renderRange s d.toCalendarDate e.toCalendarDate unit.rangeDelimiter blocks ∧
      (renderParts s d.toCalendarDate blocks.middle false true ≠ [] ↔
        HasSide d.toCalendarDate e.toCalendarDate parts) ∧
      (renderParts s e.toCalendarDate blocks.middle true false ≠ [] ↔
        HasSide e.toCalendarDate d.toCalendarDate parts) ∧
      ((∀ name, d.has name = e.has name) →
        HasSide d.toCalendarDate e.toCalendarDate parts ∧
          HasSide e.toCalendarDate d.toCalendarDate parts) := by
  rcases rangePlan?_spec hplan with ⟨rfl, hunit, hdiffers, -⟩
  refine ⟨by rw [renderDate_of_rangeEnd s he, hplan], ?_, ?_, fun hsame => ?_⟩
  · rw [renderParts_ne_nil_iff, hasSide_iff hl]
  · rw [renderParts_ne_nil_iff, differs_comm, hasSide_iff hl]
  · rw [differs_iff, partText_ne_empty_iff hl, partText_ne_empty_iff hl, ← hsame unit.name,
      or_self] at hdiffers
    refine ⟨Or.inl ⟨unit, hunit, hdiffers⟩, Or.inl ⟨unit, hunit, ?_⟩⟩
    rw [differingParts_comm, ← hsame unit.name]
    exact hdiffers

theorem namesCalendar_americanEnglish : americanEnglish.NamesCalendar :=
  ⟨by decide +kernel, by decide +kernel⟩

-- Both ends have a month and a day.
theorem delimiter_between_sides_untilFifthOfJune :
    renderParts american untilFifthOfJune.toCalendarDate (monthDayYear.take 2) false true ≠ [] ∧
      renderParts american fifthOfJune.toCalendarDate (monthDayYear.take 2) true false ≠ [] := by
  have hplan : rangePlan? americanEnglish untilFifthOfJune.toCalendarDate
      fifthOfJune.toCalendarDate monthDayYear =
        some (monthDayYear[0], ⟨[], monthDayYear.take 2, monthDayYear.drop 2⟩) := by
    decide +kernel
  rcases delimiter_between_sides (s := american) namesCalendar_americanEnglish rfl hplan with
    ⟨-, hstart, hstop, hsame⟩
  have hsides := hsame fun name => rfl
  exact ⟨hstart.2 hsides.1, hstop.2 hsides.2⟩

/-- The ninth of May. -/
def ninthOfMay : Date :=
  { year := 2020, month := some 5, day := some 9 }

/-- From some day in May to the ninth. -/
def untilNinthOfMay : Date :=
  { year := 2020, month := some 5, rangeEnd := some ninthOfMay }

/-- The start has no day, and nothing stands between the shared month and the delimiter. -/
theorem untilNinthOfMay_dangles :
    american.locale.NamesCalendar ∧ untilNinthOfMay.rangeEnd = some ninthOfMay ∧
      (∃ unit blocks, rangePlan? american.locale untilNinthOfMay.toCalendarDate
          ninthOfMay.toCalendarDate monthDayYear = some (unit, blocks) ∧
        renderParts american untilNinthOfMay.toCalendarDate blocks.middle false true = []) ∧
      Runs.plainText (renderDate american untilNinthOfMay monthDayYear) = "May –9, 2020" := by
  have hplan : rangePlan? american.locale untilNinthOfMay.toCalendarDate ninthOfMay.toCalendarDate
      monthDayYear =
        some (monthDayYear[1], ⟨[monthDayYear[0]], [monthDayYear[1]], [monthDayYear[2]]⟩) := by
    decide +kernel
  exact ⟨namesCalendar_americanEnglish, rfl, ⟨_, _, hplan, by decide +kernel⟩, by decide +kernel⟩

end DateText

end CslProcessor
