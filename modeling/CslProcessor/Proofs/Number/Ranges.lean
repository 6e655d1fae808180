import CslProcessor.Proofs.Number.Ends
import CslProcessor.Proofs.Number.Hyphens
import Mathlib.Tactic.Tauto

/-!
# Ranges read back

A member of a list of ranges is a range or something else. A printed range is read as a range again,
with the same start and the end in the form in which it was printed. What is no range gets its
hyphens joined, and is no range after that: a joined text that reads as a range has stood with the
same numbers around a joint before. So printing a member in some form and then in full is printing
it in full.

A delimiter without a backslash is a template of itself. With such a one every member is printed,
and white space around a member stays around what is printed.

## Main definitions

* `Written.Proper`, `Written.text`: Two numbers, and a range that is written with them.
* `printedEnd`: The end of a range as it is printed.
* `printPiece`: A member of a list as it is printed with a plain delimiter.

## Theorems

* `exists_joint_of_read?`, `read?_text`: What is read as a range.
* `read?_of_read?_joinRanges`: Joining makes no range.
* `formatPiece_eq`: With a plain delimiter every member is printed.
* `printPiece_append_left`, `printPiece_append_right`: White space around a member.
* `printPiece_printPiece`: A member printed once more.
-/

namespace CslProcessor

namespace PageRange

open Unicode

/-! ## The shape of a range -/

namespace Written

/-- Two numbers with white space around them. -/
structure Proper (r : Written) : Prop where
  lead : ∀ c ∈ r.lead, isSpace c = true
  start_ne_nil : r.start ≠ []
  start : ∀ c ∈ r.start, isDecimal c = true
  stop_ne_nil : r.stop ≠ []
  stop : ∀ c ∈ r.stop, isDecimal c = true
  trail : ∀ c ∈ r.trail, isSpace c = true

/-- A range as it is written, with what stands between its numbers. -/
def text (r : Written) (j : Joint) : List Char :=
  r.lead ++ (r.start ++ j.inFrontOf (r.stop ++ r.trail))

end Written

theorem Written.Proper.beginsWord_stop {r : Written} (h : r.Proper) :
    BeginsWord (r.stop ++ r.trail) := by
  cases hstop : r.stop with
  | nil => exact absurd hstop h.stop_ne_nil
  | cons c rest =>
      exact ⟨c, rfl, isWord_of_isDecimal (h.stop c (hstop ▸ List.mem_cons_self))⟩

/-- What is read as a range has its shape. -/
theorem exists_joint_of_read? {cs : List Char} {r : Written} (h : read? cs = some r) :
    r.Proper ∧ ∃ j : Joint, cs = r.text j := by
  unfold read? at h
  dsimp only at h
  split at h
  · cases h
  · rename_i hparts
    cases h
    simp only [Bool.or_eq_true, List.isEmpty_iff, Bool.not_eq_true', not_or, Bool.not_eq_false,
      List.all_eq_true] at hparts
    rcases hparts with ⟨⟨⟨hstart, hdashes⟩, hstop⟩, htrail⟩
    have hspaces : ∀ l : List Char, ∀ c ∈ l.takeWhile isSpace, isSpace c = true :=
      fun _ _ hc => List.mem_takeWhile_imp hc
    have hdigits : ∀ l : List Char, ∀ c ∈ l.takeWhile isDecimal, isDecimal c = true :=
      fun _ _ hc => List.mem_takeWhile_imp hc
    refine ⟨⟨hspaces _, hstart, hdigits _, hstop, hdigits _, htrail⟩, ?_⟩
    let rest := (cs.dropWhile isSpace).dropWhile isDecimal
    let joint : Joint :=
      { before := rest.takeWhile isSpace
        dashes := (Text.trimStart rest).takeWhile isDash
        behind := ((Text.trimStart rest).dropWhile isDash).takeWhile isSpace
        isSpace_before := hspaces _
        dashes_ne_nil := hdashes
        isDash_dashes := fun _ hc => List.mem_takeWhile_imp hc
        isSpace_behind := hspaces _ }
    refine ⟨joint, ?_⟩
    simp only [Written.text, Joint.inFrontOf, joint, rest, List.takeWhile_append_dropWhile,
      takeWhile_append_trimStart]

/-- What has the shape of a range is read as one. -/
theorem read?_text {r : Written} (h : r.Proper) (j : Joint) : read? (r.text j) = some r := by
  -- Where each part of the text ends, the next one begins with a character of another class.
  have htrail : ∀ c ∈ r.trail.head?, isDecimal c = false := fun c hc =>
    isDecimal_eq_false_of_isWord (isWord_eq_false_of_isSpace (h.trail c (List.mem_of_mem_head? hc)))
  have hstop : ∀ c ∈ (r.stop ++ r.trail).head?, isSpace c = false :=
    head_append_of_ne_nil h.stop_ne_nil fun c hc => isSpace_eq_false_of_isDecimal (h.stop c hc)
  have hbehind : ∀ c ∈ (j.behind ++ (r.stop ++ r.trail)).head?, isDash c = false := by
    refine head_append (fun c hc => ?_) (head_append_of_ne_nil h.stop_ne_nil fun c hc => ?_)
    · exact Bool.eq_false_iff.2 fun hdash =>
        Bool.eq_false_iff.1 (isSpace_eq_false_of_isDash hdash) (j.isSpace_behind c hc)
    · exact isDash_eq_false_of_isWord (isWord_of_isDecimal (h.stop c hc))
  have hdashes : ∀ c ∈ (j.dashes ++ (j.behind ++ (r.stop ++ r.trail))).head?, isSpace c = false :=
    head_append_of_ne_nil j.dashes_ne_nil fun c hc =>
      isSpace_eq_false_of_isDash (j.isDash_dashes c hc)
  have hbefore : ∀ c ∈ (j.before ++ (j.dashes ++ (j.behind ++ (r.stop ++ r.trail)))).head?,
      isDecimal c = false := by
    refine head_append (fun c hc => ?_) (head_append_of_ne_nil j.dashes_ne_nil fun c hc => ?_)
    · exact isDecimal_eq_false_of_isWord (isWord_eq_false_of_isSpace (j.isSpace_before c hc))
    · exact isDecimal_eq_false_of_isWord (isWord_eq_false_of_isDash (j.isDash_dashes c hc))
  have hstart : ∀ c ∈ (r.start ++
      (j.before ++ (j.dashes ++ (j.behind ++ (r.stop ++ r.trail))))).head?, isSpace c = false :=
    head_append_of_ne_nil h.start_ne_nil fun c hc => isSpace_eq_false_of_isDecimal (h.start c hc)
  simp only [read?, Written.text, Joint.inFrontOf, Text.trimStart,
    takeWhile_append_of_head h.lead hstart, dropWhile_append_of_head h.lead hstart,
    takeWhile_append_of_head h.start hbefore, dropWhile_append_of_head h.start hbefore,
    dropWhile_append_of_head j.isSpace_before hdashes,
    takeWhile_append_of_head j.isDash_dashes hbehind,
    dropWhile_append_of_head j.isDash_dashes hbehind,
    dropWhile_append_of_head j.isSpace_behind hstop,
    takeWhile_append_of_head h.stop htrail, dropWhile_append_of_head h.stop htrail]
  rw [if_neg]
  simp [h.start_ne_nil, j.dashes_ne_nil, h.stop_ne_nil, List.all_eq_true.2 h.trail]

/-! ## White space around a range -/

theorem read?_append_left {w : List Char} (hw : ∀ c ∈ w, isSpace c = true) (cs : List Char) :
    read? (w ++ cs) = (read? cs).map fun r => { r with lead := w ++ r.lead } := by
  simp only [read?, List.takeWhile_append_of_pos hw, List.dropWhile_append_of_pos hw]
  split <;> rfl

theorem read?_append_right {w : List Char} (hw : ∀ c ∈ w, isSpace c = true) (cs : List Char) :
    read? (cs ++ w) = (read? cs).map fun r => { r with trail := r.trail ++ w } := by
  cases h : read? cs with
  | some r =>
      rcases exists_joint_of_read? h with ⟨hr, j, rfl⟩
      have hproper : { r with trail := r.trail ++ w }.Proper :=
        { hr with trail := fun c hc => (List.mem_append.1 hc).elim (hr.trail c) (hw c) }
      have htext : r.text j ++ w = { r with trail := r.trail ++ w }.text j := by
        simp only [Written.text, Joint.inFrontOf, List.append_assoc]
      rw [htext, read?_text hproper, Option.map_some]
  | none =>
      cases happend : read? (cs ++ w) with
      | none => rfl
      | some r =>
          -- The range ends with a digit, so that the white space behind it is cut off in any case.
          rcases exists_joint_of_read? happend with ⟨hr, j, htext⟩
          have hfront : cs ++ w = (r.lead ++ (r.start ++ j.inFrontOf r.stop)) ++ r.trail := by
            rw [htext]
            simp only [Written.text, Joint.inFrontOf, List.append_assoc]
          have hlast : ∀ c ∈ (r.lead ++ (r.start ++ j.inFrontOf r.stop)).getLast?,
              isSpace c = false := by
            intro c hc
            simp only [Joint.inFrontOf, ← List.append_assoc] at hc
            rw [List.getLast?_append_of_ne_nil _ hr.stop_ne_nil] at hc
            exact isSpace_eq_false_of_isDecimal (hr.stop c (List.mem_of_mem_getLast? hc))
          rcases exists_append_of_append_eq_append hw hlast hfront with ⟨trail, hcs, htrail⟩
          have hproper : { r with trail := trail }.Proper :=
            { hr with trail := fun c hc => (htrail c hc).elim (hr.trail c) (hw c) }
          have hshape : cs = { r with trail := trail }.text j := by
            rw [hcs]
            simp only [Written.text, Joint.inFrontOf, List.append_assoc]
          rw [hshape, read?_text hproper] at h
          cases h

/-! ## Members of a list -/

/-- A joined text is read as a range only if the text itself is. -/
theorem read?_of_read?_joinRanges {cs : List Char} {r : Written}
    (h : read? (joinRanges (.literal ['–']) cs) = some r) : read? cs = some r := by
  rcases exists_joint_of_read? h with ⟨hr, j, hout⟩
  have htail : '–' ∉ r.stop ++ r.trail := fun hmem =>
    (List.mem_append.1 hmem).elim (enDash_not_mem_of_isDecimal hr.stop)
      (enDash_not_mem_of_isSpace hr.trail)
  -- Up to the last digit of the first number there is no dash.
  rcases List.eq_nil_or_concat r.start with hnil | ⟨digits, last, hstart⟩
  · exact absurd hnil hr.start_ne_nil
  rw [List.concat_eq_append] at hstart
  have hlead : '–' ∉ (r.lead ++ digits) ++ [last] := by
    rw [List.append_assoc, ← hstart]
    exact fun hmem => (List.mem_append.1 hmem).elim (enDash_not_mem_of_isSpace hr.lead)
      (enDash_not_mem_of_isDecimal hr.start)
  have hshape : ∀ tail, r.lead ++ (r.start ++ tail) = (r.lead ++ digits) ++ last :: tail := by
    intro tail
    rw [hstart]
    simp only [List.append_assoc, List.singleton_append]
  rw [Written.text, hshape] at hout
  rcases exists_append_cons_of_joinRanges hlead hout with ⟨rest, hcs, hrest⟩
  rcases exists_joint_of_joinRanges htail hr.beginsWord_stop hrest with ⟨j', hj'⟩
  rw [hcs, hj', ← hshape]
  exact read?_text hr j'

/-- The end of a range as it is printed. -/
def printedEnd (format : Option PageRangeFormat) (r : Written) : List Char :=
  if format.isNone then r.stop else collapseEnd format r.start r.stop

/-- A member of a list of ranges, or what stands between two of them, as it is printed with a plain
    delimiter. -/
def printPiece (format : Option PageRangeFormat) (d cs : List Char) : List Char :=
  match read? cs with
  | some r => r.lead ++ r.start ++ d ++ printedEnd format r ++ r.trail
  | none => joinRanges (.literal d) cs

theorem printPiece_of_read? {cs : List Char} {r : Written} (h : read? cs = some r)
    (format : Option PageRangeFormat) (d : List Char) :
    printPiece format d cs = r.lead ++ r.start ++ d ++ printedEnd format r ++ r.trail := by
  rw [printPiece, h]

theorem printPiece_of_none {cs : List Char} (h : read? cs = none)
    (format : Option PageRangeFormat) (d : List Char) :
    printPiece format d cs = joinRanges (.literal d) cs := by
  rw [printPiece, h]

-- A range has digits.
theorem read?_of_isWord {cs : List Char} (h : ∀ c ∈ cs, isWord c = false) : read? cs = none := by
  cases hread : read? cs with
  | none => rfl
  | some r =>
      rcases exists_joint_of_read? hread with ⟨hr, j, rfl⟩
      rcases List.exists_mem_of_ne_nil _ hr.start_ne_nil with ⟨c, hc⟩
      have hfalse := h c (List.mem_append_right _ (List.mem_append_left _ hc))
      rw [isWord_of_isDecimal (hr.start c hc)] at hfalse
      cases hfalse

/-- Without words there is nothing to be changed. -/
theorem printPiece_of_isWord {cs : List Char} (h : ∀ c ∈ cs, isWord c = false)
    (format : Option PageRangeFormat) (d : List Char) : printPiece format d cs = cs := by
  rw [printPiece_of_none (read?_of_isWord h), joinRanges_of_isWord h]

-- Blanks and marks of a list are no words.
theorem isWord_eq_false_of_isListMark {c : Char} (h : isListMark c = true) : isWord c = false := by
  rw [isListMark, Bool.or_eq_true, beq_iff_eq, beq_iff_eq] at h
  rcases h with rfl | rfl <;> decide

theorem isWord_of_isIdle {cs : List Char} (h : isIdle cs = true) :
    ∀ c ∈ cs, isWord c = false := by
  intro c hc
  have hidle := List.all_eq_true.1 h c hc
  rw [Bool.or_eq_true, beq_iff_eq] at hidle
  rcases hidle with rfl | hmark
  · decide
  · exact isWord_eq_false_of_isListMark hmark

/-- With a plain delimiter every member is printed. -/
theorem formatPiece_eq {d : List Char} (hd : '\\' ∉ d) (format : Option PageRangeFormat)
    (cs : List Char) : formatPiece format d cs = .ok (printPiece format d cs) := by
  cases h : read? cs with
  | some r =>
      rw [printPiece_of_read? h, formatPiece, h]
      rfl
  | none =>
      rw [formatPiece, h]
      dsimp only
      split
      · rename_i hidle
        rw [printPiece_of_isWord (isWord_of_isIdle hidle)]
      · rw [normalize, Template.read_literal hd, printPiece_of_none h]
        rfl

section

variable {w : List Char} (hw : ∀ c ∈ w, isSpace c = true) (format : Option PageRangeFormat)
  (d cs : List Char)

include hw

theorem printPiece_append_left :
    printPiece format d (w ++ cs) = w ++ printPiece format d cs := by
  have hread := read?_append_left hw cs
  cases h : read? cs with
  | some r =>
      rw [h, Option.map_some] at hread
      rw [printPiece_of_read? h, printPiece_of_read? hread]
      simp only [printedEnd, List.append_assoc]
  | none =>
      rw [h, Option.map_none] at hread
      rw [printPiece_of_none h, printPiece_of_none hread,
        joinRanges_append_of_isWord fun c hc => isWord_eq_false_of_isSpace (hw c hc)]

theorem printPiece_append_right :
    printPiece format d (cs ++ w) = printPiece format d cs ++ w := by
  have hread := read?_append_right hw cs
  cases h : read? cs with
  | some r =>
      rw [h, Option.map_some] at hread
      rw [printPiece_of_read? h, printPiece_of_read? hread]
      simp only [printedEnd, List.append_assoc]
  | none =>
      rw [h, Option.map_none] at hread
      rw [printPiece_of_none h, printPiece_of_none hread, joinRanges_append_of_isSpace hw]

end

-- A range with its printed end in the place of its end.
theorem proper_printedEnd {r : Written} (h : r.Proper) (format : Option PageRangeFormat) :
    { r with stop := printedEnd format r }.Proper := by
  rw [printedEnd]
  split
  · exact h
  · exact { h with
      stop_ne_nil := collapseEnd_ne_nil format h.stop_ne_nil
      stop := fun c hc => (mem_collapseEnd hc).elim (h.start c) (h.stop c) }

/-- One member of a list of ranges, formatted and then printed in full, is printed in full. -/
theorem printPiece_printPiece (format : Option PageRangeFormat) (cs : List Char) :
    printPiece (some .expanded) ['–'] (printPiece format ['–'] cs) =
      printPiece (some .expanded) ['–'] cs := by
  cases h : read? cs with
  | none =>
      have hagain : read? (joinRanges (.literal ['–']) cs) = none := by
        cases hjoined : read? (joinRanges (.literal ['–']) cs) with
        | none => rfl
        | some r => exact absurd (read?_of_read?_joinRanges hjoined) (by simp [h])
      rw [printPiece_of_none h, printPiece_of_none h, printPiece_of_none hagain,
        joinRanges_joinRanges]
  | some r =>
      have hproper := (exists_joint_of_read? h).1
      have hagain := read?_text (proper_printedEnd hproper format) .enDash
      have htext : { r with stop := printedEnd format r }.text .enDash =
          printPiece format ['–'] cs := by
        rw [printPiece_of_read? h]
        simp only [Written.text, Joint.inFrontOf, Joint.enDash, List.append_assoc, List.nil_append]
      have hend : collapseEnd (some .expanded) r.start (printedEnd format r) =
          collapseEnd (some .expanded) r.start r.stop := by
        rw [printedEnd]
        split
        · rfl
        · exact collapseEnd_expanded_collapseEnd format r.start r.stop
      rw [htext] at hagain
      rw [printPiece_of_read? hagain, printPiece_of_read? h]
      exact congrArg (r.lead ++ r.start ++ ['–'] ++ · ++ r.trail) hend

theorem mem_printedEnd {format : Option PageRangeFormat} {r : Written} {c : Char}
    (h : c ∈ printedEnd format r) : c ∈ r.start ∨ c ∈ r.stop := by
  rw [printedEnd] at h
  split at h
  · exact Or.inr h
  · exact mem_collapseEnd h

/-- A member of a list of ranges is printed with its own characters and the delimiter. -/
theorem mem_printPiece {format : Option PageRangeFormat} {d cs : List Char} {c : Char}
    (h : c ∈ printPiece format d cs) : c ∈ cs ∨ c ∈ d := by
  cases hread : read? cs with
  | none =>
      rw [printPiece_of_none hread] at h
      exact mem_joinRanges h
  | some r =>
      rw [printPiece_of_read? hread] at h
      rcases exists_joint_of_read? hread with ⟨-, j, rfl⟩
      simp only [List.mem_append, Written.text, Joint.inFrontOf] at h ⊢
      have hend := @mem_printedEnd format r c
      tauto

end PageRange

end CslProcessor
