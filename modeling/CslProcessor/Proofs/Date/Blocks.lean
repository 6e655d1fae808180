import CslProcessor.Date.Render
import CslProcessor.Proofs.Collection.Prefix
import Mathlib.Data.List.Basic

/-!
# Layouts cut around the parts that differ

Which parts of a layout may differ between two dates is told from the dates alone, by the greatest
unit in which they differ; the layout is then cut around those of them that are printed for one
date at least. A part that is not picked has the same text in both dates: either it cannot differ,
or it has no text. So nothing that differs is left outside the middle block.

That the early exit for dates without difference changes nothing needs the bounds of a date: a
month that is there is not zero, so two dates with the same key have the same month and day.

## Main definitions

* `StandsBetween`: A part stands between two that are picked.
* `rangePlan?`: The blocks of a range that is printed as one, and the part whose delimiter it takes.

## Theorems

* `partText_eq_of_differs_eq_false`: A part that is not picked has the same text in both dates.
* `append_rangeBlocks`, `mem_middle_iff`: The blocks are the layout, and what the middle one holds.
* `greatestUnit?_spec`: The part of the greatest unit.
* `renderDate_of_rangeEnd`: A range is printed in its blocks, if there is a part to pick.
-/

namespace CslProcessor

namespace DateText

/-! ## Parts that differ -/

/-- A part that may not differ has the same text in both dates. -/
theorem partText_eq_of_not_mem {a b : CalendarDate} {part : DatePart} (locale : Locale)
    (h : part.name ∉ differingParts a b) : partText a part locale = partText b part locale := by
  unfold differingParts at h
  unfold partText
  split_ifs at h with hyear hmonth hday
  · simp only [List.mem_cons, List.not_mem_nil, or_false, not_or] at h
    simp [h]
  · simp only [List.mem_cons, List.not_mem_nil, or_false, not_or] at h
    simp [h, not_not.1 hyear]
  · simp only [List.mem_singleton] at h
    rw [not_or, not_not, not_not] at hmonth
    simp [h, not_not.1 hyear, monthText, hmonth]
  · rw [not_or, not_not, not_not] at hmonth
    simp [not_not.1 hyear, monthText, hmonth, not_not.1 hday]

/-- A part that is not picked has the same text in both dates. -/
theorem partText_eq_of_differs_eq_false {locale : Locale} {a b : CalendarDate} {part : DatePart}
    (h : differs locale a b part = false) : partText a part locale = partText b part locale := by
  rw [differs, Bool.and_eq_false_iff, List.contains_eq_mem, decide_eq_false_iff_not,
    Bool.not_eq_false', Bool.and_eq_true, String.isEmpty_iff, String.isEmpty_iff] at h
  rcases h with hname | ⟨ha, hb⟩
  · exact partText_eq_of_not_mem locale hname
  · rw [ha, hb]

theorem differs_iff {locale : Locale} {a b : CalendarDate} {part : DatePart} :
    differs locale a b part = true ↔
      part.name ∈ differingParts a b ∧
        (partText a part locale ≠ "" ∨ partText b part locale ≠ "") := by
  rw [differs, Bool.and_eq_true, List.contains_eq_mem, decide_eq_true_eq, Bool.not_eq_true',
    Bool.and_eq_false_iff, String.isEmpty_eq_false_iff, String.isEmpty_eq_false_iff]

theorem differingParts_comm (a b : CalendarDate) : differingParts a b = differingParts b a := by
  simp only [differingParts, ne_comm]

theorem differs_comm (locale : Locale) (a b : CalendarDate) :
    differs locale a b = differs locale b a := by
  funext part
  rw [Bool.eq_iff_iff, differs_iff, differs_iff, differingParts_comm, or_comm]

/-! ## Blocks -/

section

variable {picked : DatePart → Bool} {parts : List DatePart} {part : DatePart}

/-- The blocks in sequence are the layout. -/
theorem append_rangeBlocks (picked : DatePart → Bool) (parts : List DatePart) :
    (rangeBlocks picked parts).before ++ (rangeBlocks picked parts).middle ++
      (rangeBlocks picked parts).behind = parts := by
  rw [rangeBlocks]
  dsimp only
  rw [List.append_assoc, ← List.reverse_append, List.takeWhile_append_dropWhile,
    List.reverse_reverse, List.takeWhile_append_dropWhile]

theorem picked_eq_false_of_mem_before (h : part ∈ (rangeBlocks picked parts).before) :
    picked part = false := by
  simpa using List.mem_takeWhile_imp h

theorem picked_eq_false_of_mem_behind (h : part ∈ (rangeBlocks picked parts).behind) :
    picked part = false := by
  simpa using List.mem_takeWhile_imp (List.mem_reverse.1 h)

/-- A part is picked, and another one picked stands somewhere on either side of it. -/
def StandsBetween (picked : DatePart → Bool) (parts : List DatePart) (part : DatePart) : Prop :=
  ∃ l first m last r, parts = l ++ first :: (m ++ last :: r) ∧ picked first = true ∧
    picked last = true ∧ part ∈ m

theorem StandsBetween.imp {picked' : DatePart → Bool} (h : StandsBetween picked parts part)
    (himp : ∀ p ∈ parts, picked p = true → picked' p = true) :
    StandsBetween picked' parts part := by
  rcases h with ⟨l, first, m, last, r, rfl, hfirst, hlast, hm⟩
  exact ⟨l, first, m, last, r, rfl, himp first (by simp) hfirst, himp last (by simp) hlast, hm⟩

-- A layout around two parts that are picked.
theorem middle_append_cons {l m r : List DatePart} {first last : DatePart}
    (hfirst : picked first = true) (hlast : picked last = true) :
    (rangeBlocks picked (l ++ first :: (m ++ last :: r))).middle =
      l.dropWhile (!picked ·) ++
        first :: (m ++ last :: (r.reverse.dropWhile (!picked ·)).reverse) := by
  rw [rangeBlocks]
  dsimp only
  rw [dropWhile_append_cons (by simp [hfirst]), List.append_cons, ← List.append_assoc,
    List.reverse_append, List.reverse_cons, List.append_assoc, List.singleton_append,
    dropWhile_append_cons (by simp [hlast])]
  simp

-- The first and the last part of the middle block are picked.
theorem picked_of_head_middle (h : (rangeBlocks picked parts).middle.head? = some part) :
    picked part = true := by
  simpa using eq_false_of_head_strip h

theorem picked_of_getLast_middle (h : (rangeBlocks picked parts).middle.getLast? = some part) :
    picked part = true := by
  simpa using eq_false_of_getLast_strip h

-- What is picked stands in no other block.
theorem mem_middle_of_picked (hmem : part ∈ parts) (hpart : picked part = true) :
    part ∈ (rangeBlocks picked parts).middle := by
  rw [← append_rangeBlocks picked parts, List.mem_append, List.mem_append] at hmem
  rcases hmem with (hbefore | hmiddle) | hbehind
  · exact absurd hpart (by simp [picked_eq_false_of_mem_before hbefore])
  · exact hmiddle
  · exact absurd hpart (by simp [picked_eq_false_of_mem_behind hbehind])

-- A part of the block that is not picked is neither its first part nor its last one.
theorem standsBetween_of_mem_middle (hmem : part ∈ (rangeBlocks picked parts).middle)
    (hpart : picked part ≠ true) : StandsBetween picked parts part := by
  rcases List.exists_cons_of_ne_nil (List.ne_nil_of_mem hmem) with ⟨first, tail, hfirst⟩
  have htail : part ∈ tail := by
    refine (List.mem_cons.1 (hfirst ▸ hmem)).resolve_left fun heq => hpart ?_
    exact picked_of_head_middle (heq ▸ congrArg List.head? hfirst)
  rcases List.eq_nil_or_concat tail with hnil | ⟨m, last, hlast⟩
  · exact absurd htail (by simp [hnil])
  rw [hlast, List.concat_eq_append] at hfirst htail
  have hends : (rangeBlocks picked parts).middle.getLast? = some last := by
    rw [hfirst, ← List.cons_append, List.getLast?_concat]
  have hm : part ∈ m := by
    rw [List.mem_append, List.mem_singleton] at htail
    exact htail.resolve_right fun heq => hpart (picked_of_getLast_middle (heq ▸ hends))
  have hparts := append_rangeBlocks picked parts
  rw [hfirst] at hparts
  exact ⟨_, first, m, last, _, by simpa using hparts.symm,
    picked_of_head_middle (congrArg List.head? hfirst), picked_of_getLast_middle hends, hm⟩

/-- The middle block holds the parts that are picked and those that stand between two of them. -/
theorem mem_middle_iff :
    part ∈ (rangeBlocks picked parts).middle ↔
      part ∈ parts ∧ picked part = true ∨ StandsBetween picked parts part := by
  constructor
  · intro hmem
    by_cases hpart : picked part = true
    · refine Or.inl ⟨?_, hpart⟩
      rw [← append_rangeBlocks picked parts]
      exact List.mem_append_left _ (List.mem_append_right _ hmem)
    · exact Or.inr (standsBetween_of_mem_middle hmem hpart)
  · rintro (⟨hmem, hpart⟩ | ⟨l, first, m, last, r, rfl, hfirst, hlast, hm⟩)
    · exact mem_middle_of_picked hmem hpart
    · rw [middle_append_cons hfirst hlast]
      simp [hm]

end

/-! ## The greatest unit -/

theorem greatestUnit?_eq_none_iff {parts : List DatePart} :
    greatestUnit? parts = none ↔ parts = [] := by
  cases parts with
  | nil => simp [greatestUnit?]
  | cons part rest =>
      rw [greatestUnit?]
      split <;> simp

/-- It is one of the parts, and none of them is of a greater unit. -/
theorem greatestUnit?_spec {parts : List DatePart} {unit : DatePart}
    (h : greatestUnit? parts = some unit) :
    unit ∈ parts ∧ ∀ part ∈ parts, unitRank unit.name ≤ unitRank part.name := by
  induction parts generalizing unit with
  | nil => cases h
  | cons head rest ih =>
      rw [greatestUnit?] at h
      cases hrest : greatestUnit? rest with
      | none =>
          rw [hrest] at h
          cases h
          rw [greatestUnit?_eq_none_iff.1 hrest]
          simp
      | some other =>
          rcases ih hrest with ⟨hother, hle⟩
          rw [hrest] at h
          dsimp only at h
          split at h
          · rename_i hhead
            cases h
            exact ⟨List.mem_cons_self, List.forall_mem_cons.2
              ⟨Nat.le_refl _, fun part hpart => Nat.le_trans hhead (hle part hpart)⟩⟩
          · rename_i hhead
            cases h
            exact ⟨List.mem_cons_of_mem _ hother,
              List.forall_mem_cons.2 ⟨Nat.le_of_not_le hhead, hle⟩⟩

/-! ## Ranges that are printed as such -/

/-- The part whose delimiter stands between the ends of a range, and the blocks of the layout;
    nothing if no part is picked, and the range is printed as one date. -/
def rangePlan? (locale : Locale) (a b : CalendarDate) (parts : List DatePart) :
    Option (DatePart × RangeBlocks) :=
  (greatestUnit? (parts.filter (differs locale a b))).map fun unit =>
    (unit, rangeBlocks (differs locale a b) parts)

/-- A range is printed as one date exactly if no part is picked. -/
theorem rangePlan?_eq_none_iff {locale : Locale} {a b : CalendarDate} {parts : List DatePart} :
    rangePlan? locale a b parts = none ↔ ∀ part ∈ parts, differs locale a b part = false := by
  rw [rangePlan?, Option.map_eq_none_iff, greatestUnit?_eq_none_iff, List.filter_eq_nil_iff]
  simp only [Bool.not_eq_true]

/-- What is known of a range that is printed in blocks. -/
theorem rangePlan?_spec {locale : Locale} {a b : CalendarDate} {parts : List DatePart}
    {unit : DatePart} {blocks : RangeBlocks}
    (h : rangePlan? locale a b parts = some (unit, blocks)) :
    blocks = rangeBlocks (differs locale a b) parts ∧ unit ∈ parts ∧
      differs locale a b unit = true ∧
      ∀ part ∈ parts, differs locale a b part = true → unitRank unit.name ≤ unitRank part.name := by
  rcases Option.map_eq_some_iff.1 h with ⟨greatest, hgreatest, heq⟩
  cases heq
  rcases greatestUnit?_spec hgreatest with ⟨hunit, hle⟩
  rw [List.mem_filter] at hunit
  exact ⟨rfl, hunit.1, hunit.2, fun part hpart hdiffers =>
    hle part (List.mem_filter.2 ⟨hpart, hdiffers⟩)⟩

-- A month or day that is there is not zero.
theorem eq_of_getD_zero_eq {hi : Nat} {p q : Option Nat} (hp : partWithin 1 hi p = true)
    (hq : partWithin 1 hi q = true) (h : p.getD 0 = q.getD 0) : p = q := by
  have hpos : ∀ {n : Nat}, partWithin 1 hi (some n) = true → n ≠ 0 := by
    intro n hn
    simp only [partWithin, Option.all_some, Bool.and_eq_true, decide_eq_true_eq] at hn
    omega
  cases p with
  | none =>
      cases q with
      | none => rfl
      | some n => exact absurd h.symm (hpos hq)
  | some m =>
      cases q with
      | none => exact absurd h (hpos hp)
      | some n => exact congrArg some h

/-- Dates with the same key and the same season differ in no part. -/
theorem differingParts_of_sortKey_eq {a b : CalendarDate} (hkey : a.sortKey = b.sortKey)
    (hseason : a.season = b.season) : differingParts a b = [] := by
  have ha := a.valid
  have hb := b.valid
  simp only [validParts, Bool.and_eq_true] at ha hb
  simp only [CalendarDate.sortKey, Prod.mk.injEq] at hkey
  have hmonth := eq_of_getD_zero_eq ha.1.1.1 hb.1.1.1 hkey.2.1
  have hday := eq_of_getD_zero_eq ha.1.1.2 hb.1.1.2 hkey.2.2
  simp [differingParts, hkey.1, hmonth, hday, hseason]

/-- A range is printed in its blocks if there is a part to pick, else as its start. -/
theorem renderDate_of_rangeEnd (s : Setting) {d e : Date} (he : d.rangeEnd = some e)
    (parts : List DatePart) :
    renderDate s d parts =
      match rangePlan? s.locale d.toCalendarDate e.toCalendarDate parts with
      | none => renderParts s d.toCalendarDate parts
      | some (unit, blocks) =>
        renderRange s d.toCalendarDate e.toCalendarDate unit.rangeDelimiter blocks := by
  rw [renderDate, he]
  dsimp only
  split
  · rename_i hsame
    rw [Date.isRange, he, Option.any_some, Bool.and_eq_true, Bool.not_eq_true',
      bne_eq_false_iff_eq, beq_iff_eq] at hsame
    have hnone := differingParts_of_sortKey_eq hsame.1.symm hsame.2.symm
    rw [rangePlan?_eq_none_iff.2 fun part _ => by simp [differs, hnone]]
  · rw [rangePlan?]
    cases greatestUnit? (parts.filter (differs s.locale d.toCalendarDate e.toCalendarDate)) <;> rfl

end DateText

end CslProcessor
