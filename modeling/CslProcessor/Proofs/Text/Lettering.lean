import CslProcessor.Text.Case
import Mathlib.Data.List.Forall2

/-!
# Latin letters under changes of case

A change of case may turn one character into several and looks at the words around, so little can
be said about what it makes of a text in general. Of Latin letters it makes Latin letters again, as
many as there were. So a segment of them stays visible whatever the segments around it say, and
there is no full stop in it that could be dropped.

## Main definitions

* `Lettered`: A text of Latin letters, not empty.

## Theorems

* `lettered_recaseWord`: A word of letters stays one.
* `forall₂_recase`: A segment of letters stays one, each in its place.
* `Lettered.without`: There is nothing to drop in letters.
-/

namespace CslProcessor

namespace Text

open Unicode

/-- Characters that are all Latin letters, at least one of them. -/
def Lettered (cs : List Char) : Prop :=
  cs ≠ [] ∧ ∀ c ∈ cs, c.isAlpha = true

-- Letters are ASCII characters.
theorem toNat_lt_of_isAlpha {c : Char} (h : c.isAlpha = true) : c.toNat < 128 := by
  have hcases : c.isUpper = true ∨ c.isLower = true := Bool.or_eq_true_iff.1 h
  have hval : c.toNat = c.val.toNat := rfl
  rcases hcases with hupper | hlower
  · have hbounds : 'A'.val ≤ c.val ∧ c.val ≤ 'Z'.val := of_decide_eq_true hupper
    have hle : c.val.toNat ≤ 90 := UInt32.le_iff_toNat_le.1 hbounds.2
    omega
  · have hbounds := Bool.and_eq_true_iff.1 hlower
    have hle : c.val.toNat ≤ 122 := UInt32.le_iff_toNat_le.1 (of_decide_eq_true hbounds.2)
    omega

-- A letter in the other case is a letter.
theorem isAlpha_toUpper {c : Char} (h : c.isAlpha = true) : c.toUpper.isAlpha = true := by
  have hall : ∀ n ∈ List.range 128,
      (Char.ofNat n).isAlpha = true → (Char.ofNat n).toUpper.isAlpha = true := by decide +kernel
  have hc := hall c.toNat (List.mem_range.2 (toNat_lt_of_isAlpha h))
  rw [Char.ofNat_toNat] at hc
  exact hc h

theorem isAlpha_toLower {c : Char} (h : c.isAlpha = true) : c.toLower.isAlpha = true := by
  have hall : ∀ n ∈ List.range 128,
      (Char.ofNat n).isAlpha = true → (Char.ofNat n).toLower.isAlpha = true := by decide +kernel
  have hc := hall c.toNat (List.mem_range.2 (toNat_lt_of_isAlpha h))
  rw [Char.ofNat_toNat] at hc
  exact hc h

theorem upperChar_of_isAlpha {c : Char} (h : c.isAlpha = true) : upperChar c = [c.toUpper] := by
  rw [upperChar, if_pos (toNat_lt_of_isAlpha h)]

theorem lowerChar_of_isAlpha {c : Char} (h : c.isAlpha = true) : lowerChar c = [c.toLower] := by
  rw [lowerChar, if_pos (toNat_lt_of_isAlpha h)]

/-! ## Words -/

theorem lettered_map {f : Char → Char} (hf : ∀ c : Char, c.isAlpha = true → (f c).isAlpha = true)
    {cs : List Char} (h : Lettered cs) : Lettered (cs.map f) := by
  refine ⟨fun hnil => h.1 (List.map_eq_nil_iff.1 hnil), fun c hc => ?_⟩
  rcases List.mem_map.1 hc with ⟨d, hd, rfl⟩
  exact hf d (h.2 d hd)

theorem toUpper_eq_map {cs : List Char} (h : ∀ c ∈ cs, c.isAlpha = true) :
    toUpper cs = cs.map Char.toUpper := by
  induction cs with
  | nil => rfl
  | cons c rest ih =>
      have hc := upperChar_of_isAlpha (h c List.mem_cons_self)
      have hrest := ih fun d hd => h d (List.mem_cons_of_mem _ hd)
      rw [toUpper, List.flatMap_cons, hc, ← toUpper, hrest]
      rfl

-- No letter is a sigma, whose small form depends on what stands around it.
theorem lowerFrom_eq_map {cs : List Char} (h : ∀ c ∈ cs, c.isAlpha = true) :
    ∀ reversed, lowerFrom reversed cs = cs.map Char.toLower := by
  induction cs with
  | nil => exact fun _ => rfl
  | cons c rest ih =>
      intro reversed
      have hc := h c List.mem_cons_self
      have hsigma : (c == 'Σ') = false := by
        rw [beq_eq_false_iff_ne]
        rintro rfl
        exact absurd hc (by decide)
      have hrest := ih (fun d hd => h d (List.mem_cons_of_mem _ hd)) (c :: reversed)
      rw [lowerFrom, hsigma, hrest, lowerChar_of_isAlpha hc]
      rfl

theorem lettered_toUpper {cs : List Char} (h : Lettered cs) : Lettered (toUpper cs) := by
  rw [toUpper_eq_map h.2]
  exact lettered_map (fun _ => isAlpha_toUpper) h

theorem lettered_toLower {cs : List Char} (h : Lettered cs) : Lettered (toLower cs) := by
  rw [toLower, lowerFrom_eq_map h.2]
  exact lettered_map (fun _ => isAlpha_toLower) h

theorem lettered_capitalize {cs : List Char} (h : Lettered cs) : Lettered (capitalize cs) := by
  cases cs with
  | nil => exact absurd rfl h.1
  | cons c rest =>
      have hc := h.2 c List.mem_cons_self
      rw [capitalize, upperChar_of_isAlpha hc]
      refine ⟨List.cons_ne_nil _ _, fun d hd => ?_⟩
      rcases List.mem_cons.1 hd with rfl | hd
      · exact isAlpha_toUpper hc
      · exact h.2 d (List.mem_cons_of_mem _ hd)

/-- A word of letters stays one. -/
theorem lettered_recaseWord (case : TextCase) (place : WordPlace) {w : List Char}
    (h : Lettered w) : Lettered (recaseWord case place w) := by
  cases case with
  | lowercase => exact lettered_toLower h
  | uppercase => exact lettered_toUpper h
  | capitalizeFirst =>
      rw [recaseWord]
      split
      · exact lettered_capitalize h
      · exact h
  | capitalizeAll => exact lettered_capitalize h
  | title =>
      simp only [recaseWord, titleWord]
      split_ifs
      · exact lettered_toLower h
      · exact h
      · exact lettered_capitalize h
      · exact h
  | sentence =>
      simp only [recaseWord, sentenceWord]
      split_ifs
      · exact lettered_capitalize h
      · exact h
      · exact lettered_toLower h
      · exact h

/-! ## Segments -/

-- Letters are cut into words and gaps of letters.
theorem lettered_of_mem_pieces {cs : List Char} (h : ∀ c ∈ cs, c.isAlpha = true) :
    ∀ p ∈ pieces cs, Lettered p.chars := by
  intro p hp
  refine ⟨?_, fun c hc => h c ?_⟩
  · fun_induction pieces cs with
    | case1 => exact absurd hp List.not_mem_nil
    | case2 c rest _ ih =>
        rcases List.mem_cons.1 hp with rfl | hp
        · exact List.cons_ne_nil _ _
        · refine ih (fun d hd => h d ?_) hp
          exact List.mem_cons_of_mem _ ((List.dropWhile_sublist _).mem hd)
    | case3 c rest _ ih =>
        rcases List.mem_cons.1 hp with rfl | hp
        · exact List.cons_ne_nil _ _
        · exact ih (fun d hd => h d (List.mem_cons_of_mem _ hd)) hp
  · rw [← flatten_pieces cs]
    exact List.mem_flatMap.2 ⟨p, hp, hc⟩

theorem isAlpha_recasePieces (case : TextCase) (wordAfter : Bool) {ps : List Piece}
    (h : ∀ p ∈ ps, Lettered p.chars) : ∀ wordBefore reversed,
      ∀ c ∈ recasePieces case wordBefore wordAfter reversed ps, c.isAlpha = true := by
  induction ps with
  | nil => exact fun _ _ c hc => absurd hc List.not_mem_nil
  | cons p rest ih =>
      have hp := h p List.mem_cons_self
      have hrest := ih fun q hq => h q (List.mem_cons_of_mem _ hq)
      intro wordBefore reversed c hc
      cases p with
      | word w =>
          rcases List.mem_append.1 hc with hc | hc
          · exact (lettered_recaseWord case _ hp).2 c hc
          · exact hrest _ _ c hc
      | gap d =>
          rcases List.mem_cons.1 hc with rfl | hc
          · exact hp.2 c List.mem_cons_self
          · exact hrest _ _ c hc

theorem recasePieces_ne_nil (case : TextCase) (wordBefore wordAfter : Bool) (reversed : List Char)
    {ps : List Piece} (h : ∀ p ∈ ps, Lettered p.chars) (hne : ps ≠ []) :
    recasePieces case wordBefore wordAfter reversed ps ≠ [] := by
  cases ps with
  | nil => exact absurd rfl hne
  | cons p rest =>
      cases p with
      | word w =>
          have hw := (lettered_recaseWord case
            { isFirst := !wordBefore
              isLast := !(wordAfter || rest.any Piece.isWord)
              afterColon := opensClause reversed } (h _ List.mem_cons_self)).1
          exact List.append_ne_nil_of_left_ne_nil hw _
      | gap d => exact List.cons_ne_nil _ _

theorem lettered_recasePieces (case : TextCase) (wordBefore wordAfter : Bool)
    (reversed : List Char) {cs : List Char} (h : Lettered cs) :
    Lettered (recasePieces case wordBefore wordAfter reversed (pieces cs)) := by
  have hpieces := lettered_of_mem_pieces h.2
  refine ⟨recasePieces_ne_nil case wordBefore wordAfter reversed hpieces ?_,
    isAlpha_recasePieces case wordAfter hpieces wordBefore reversed⟩
  intro hnil
  have hflat := flatten_pieces cs
  rw [hnil] at hflat
  exact h.1 hflat.symm

/-- A text stays one of letters in the place of another. -/
def StaysLettered (s : Segment) (t : String) : Prop :=
  Lettered s.text.toList → Lettered t.toList

-- Segments that have been mapped before are recased in their places.
theorem forall₂_recaseSegments (case : TextCase) {original mapped : List Segment}
    (h : List.Forall₂ (fun s t => StaysLettered s t.text) original mapped) :
    ∀ wordBefore reversed,
      List.Forall₂ StaysLettered original (recaseSegments case wordBefore reversed mapped) := by
  induction h with
  | nil => exact fun _ _ => List.Forall₂.nil
  | @cons s t _ _ hst _ ih =>
      intro wordBefore reversed
      rw [recaseSegments]
      refine List.Forall₂.cons (fun hs => ?_) (ih _ _)
      split
      · exact hst hs
      · rw [String.toList_ofList]
        exact lettered_recasePieces case _ _ _ (hst hs)

theorem forall₂_mapPlain {f : List Char → List Char} (hf : ∀ cs, Lettered cs → Lettered (f cs))
    (segments : List Segment) :
    List.Forall₂ (fun s t => StaysLettered s t.text) segments (mapPlain f segments) := by
  rw [mapPlain, List.forall₂_map_right_iff, List.forall₂_same]
  intro s _ hs
  split
  · exact hs
  · rw [String.toList_ofList]
    exact hf _ hs

/-- A segment of letters stays one in its place, whatever the segments around it are. -/
theorem forall₂_recase (case : TextCase) (segments : List Segment) :
    List.Forall₂ StaysLettered segments (recase case segments) := by
  have hsame : List.Forall₂ (fun s t => StaysLettered s t.text) segments segments :=
    List.forall₂_same.2 fun _ _ hs => hs
  have hlower := forall₂_mapPlain (fun _ => lettered_toLower) segments
  cases case with
  | lowercase => exact List.forall₂_map_right_iff.2 hlower
  | uppercase =>
      exact List.forall₂_map_right_iff.2 (forall₂_mapPlain (fun _ => lettered_toUpper) segments)
  | capitalizeFirst => exact forall₂_recaseSegments _ hsame _ _
  | capitalizeAll => exact forall₂_recaseSegments _ hsame _ _
  | title =>
      refine forall₂_recaseSegments _ ?_ _ _
      split
      · exact hlower
      · exact hsame
  | sentence =>
      refine forall₂_recaseSegments _ ?_ _ _
      split
      · exact hlower
      · exact hsame

/-! ## Full stops -/

-- There is no full stop in letters.
theorem Lettered.without {text : String} (h : Lettered text.toList) : without '.' text = text := by
  have hfilter : text.toList.filter (· != '.') = text.toList := by
    refine List.filter_eq_self.2 fun c hc => ?_
    rw [bne_iff_ne]
    rintro rfl
    exact absurd (h.2 _ hc) (by decide)
  rw [Text.without, hfilter, String.ofList_toList]

end Text

end CslProcessor
