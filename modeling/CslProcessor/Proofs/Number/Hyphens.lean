import CslProcessor.Number.Range
import CslProcessor.Proofs.Collection.Prefix
import CslProcessor.Proofs.Unicode.Classes

/-!
# Hyphens between words

A hyphen between two words gives way to a delimiter, and the white space around it goes with it.
The characters of words stay, each behind those that it was behind, and a joined text begins as the
text does. White space and dashes are no part of words. So whatever stands in front of a joined text
and is no part of a word stood there before, and a hyphen between words of the joined text was one
of the text, or is a delimiter. If the delimiter is the en dash, joining once more changes nothing.

## Main definitions

* `Joint`: Dashes with white space around them.
* `BeginsWord`: Texts that begin with a character of a word.

## Theorems

* `exists_joint_of_afterHyphen?`, `afterHyphen?_inFrontOf`: When a word follows a hyphen.
* `exists_append_of_joinRanges`, `exists_append_cons_of_joinRanges`: The front of a joined text.
* `joinRanges_append_of_isWord`, `joinRanges_append_of_isSpace`: What stays around a joined text.
* `exists_joint_of_joinRanges`: What stands behind a joint.
* `joinRanges_joinRanges`: Joining once more.
-/

namespace CslProcessor

namespace PageRange

open Unicode

/-! ## Dashes, digits and white space -/

section

variable {c : Char}

theorem mem_dashTable_of_isDash (h : isDash c = true) :
    c = '-' ∨ dashTable.mem c.toNat = true := by
  rw [isDash, Bool.or_eq_true, Bool.or_eq_true, beq_iff_eq, beq_iff_eq, beq_iff_eq] at h
  rcases h with (rfl | rfl) | rfl
  · exact Or.inl rfl
  · exact Or.inr (by decide +kernel)
  · exact Or.inr (by decide +kernel)

theorem isWord_eq_false_of_isDash (h : isDash c = true) : isWord c = false := by
  rcases mem_dashTable_of_isDash h with rfl | h
  · decide
  · exact isWord_eq_false_of_mem_dashTable h

theorem isSpace_eq_false_of_isDash (h : isDash c = true) : isSpace c = false := by
  rcases mem_dashTable_of_isDash h with rfl | h
  · decide
  · exact isSpace_eq_false_of_mem_dashTable h

theorem isWord_of_isDecimal (h : isDecimal c = true) : isWord c = true :=
  isWord_of_isDigit (isDigit_of_isDecimal h)

-- What is no word character is no digit, and the other way round.
theorem isDecimal_eq_false_of_isWord (h : isWord c = false) : isDecimal c = false :=
  Bool.eq_false_iff.2 fun hc => Bool.eq_false_iff.1 h (isWord_of_isDecimal hc)

theorem isSpace_eq_false_of_isDecimal (h : isDecimal c = true) : isSpace c = false :=
  Bool.eq_false_iff.2 fun hc =>
    Bool.eq_false_iff.1 (isWord_eq_false_of_isSpace hc) (isWord_of_isDecimal h)

theorem isDash_eq_false_of_isWord (h : isWord c = true) : isDash c = false :=
  Bool.eq_false_iff.2 fun hc => Bool.eq_false_iff.1 (isWord_eq_false_of_isDash hc) h

end

theorem isWord_enDash : isWord '–' = false :=
  isWord_eq_false_of_isDash (by decide)

-- White space and digits hold no dash.
theorem enDash_not_mem_of_isSpace {l : List Char} (h : ∀ c ∈ l, isSpace c = true) : '–' ∉ l :=
  fun hmem => Bool.eq_false_iff.1 (isSpace_eq_false_of_isDash (by decide)) (h _ hmem)

theorem enDash_not_mem_of_isDecimal {l : List Char} (h : ∀ c ∈ l, isDecimal c = true) : '–' ∉ l :=
  fun hmem => Bool.eq_false_iff.1 isWord_enDash (isWord_of_isDecimal (h _ hmem))

/-! ## Joints -/

/-- What stands between the numbers of a range: dashes with white space around them. -/
structure Joint where
  /-- White space in front. -/
  before : List Char
  /-- The dashes. -/
  dashes : List Char
  /-- White space behind. -/
  behind : List Char
  isSpace_before : ∀ c ∈ before, isSpace c = true
  dashes_ne_nil : dashes ≠ []
  isDash_dashes : ∀ c ∈ dashes, isDash c = true
  isSpace_behind : ∀ c ∈ behind, isSpace c = true

/-- A text with a joint in front of it. -/
def Joint.inFrontOf (j : Joint) (cs : List Char) : List Char :=
  j.before ++ (j.dashes ++ (j.behind ++ cs))

/-- The characters of a joint. -/
def Joint.text (j : Joint) : List Char :=
  j.before ++ j.dashes ++ j.behind

theorem Joint.inFrontOf_eq (j : Joint) (cs : List Char) : j.inFrontOf cs = j.text ++ cs := by
  rw [inFrontOf, text, List.append_assoc, List.append_assoc]

-- A joint is no part of a word.
theorem Joint.isWord_text (j : Joint) : ∀ c ∈ j.text, isWord c = false := by
  intro c hc
  rcases List.mem_append.1 hc with hc | hc
  · rcases List.mem_append.1 hc with hc | hc
    · exact isWord_eq_false_of_isSpace (j.isSpace_before c hc)
    · exact isWord_eq_false_of_isDash (j.isDash_dashes c hc)
  · exact isWord_eq_false_of_isSpace (j.isSpace_behind c hc)

/-- The en dash alone. -/
def Joint.enDash : Joint where
  before := []
  dashes := ['–']
  behind := []
  isSpace_before := by simp
  dashes_ne_nil := by simp
  isDash_dashes := List.forall_mem_singleton.2 (by decide)
  isSpace_behind := by simp

-- White space in front of a text.
theorem takeWhile_append_trimStart (cs : List Char) :
    cs.takeWhile isSpace ++ Text.trimStart cs = cs :=
  List.takeWhile_append_dropWhile

/-- Whether the first character of a text is one of a word. -/
def BeginsWord (cs : List Char) : Prop :=
  ∃ c ∈ cs.head?, isWord c = true

theorem dropWhile_append_of_beginsWord {l m : List Char} (hl : ∀ c ∈ l, isWord c = false)
    (hm : BeginsWord m) : (l ++ m).dropWhile (!isWord ·) = m := by
  rcases hm with ⟨c, hc, hword⟩
  refine dropWhile_append_of_head (fun x hx => by rw [hl x hx, Bool.not_false]) fun x hx => ?_
  rw [Option.mem_unique hx hc, hword, Bool.not_true]

/-- A joint that is a single hyphen. -/
def Joint.IsHyphen (j : Joint) : Prop :=
  ∃ c, isHyphen c = true ∧ j.dashes = [c]

theorem exists_joint_of_afterHyphen? {cs behind : List Char} (h : afterHyphen? cs = some behind) :
    BeginsWord behind ∧ ∃ j : Joint, j.IsHyphen ∧ cs = j.inFrontOf behind := by
  unfold afterHyphen? at h
  split at h
  · rename_i hyphen rest hcs
    split at h
    · rename_i c tl hrest
      split at h
      · rename_i hmarks
        cases h
        rcases Bool.and_eq_true_iff.1 hmarks with ⟨hhyphen, hword⟩
        have hdash : isDash hyphen = true := by
          rw [isDash, Bool.or_eq_true]
          exact Or.inl hhyphen
        let joint : Joint :=
          { before := cs.takeWhile isSpace
            dashes := [hyphen]
            behind := rest.takeWhile isSpace
            isSpace_before := fun _ hc => List.mem_takeWhile_imp hc
            dashes_ne_nil := List.cons_ne_nil _ _
            isDash_dashes := fun _ hc => List.mem_singleton.1 hc ▸ hdash
            isSpace_behind := fun _ hc => List.mem_takeWhile_imp hc }
        refine ⟨⟨c, rfl, hword⟩, joint, ⟨hyphen, hhyphen, rfl⟩, ?_⟩
        calc cs = cs.takeWhile isSpace ++ hyphen :: rest := by
              rw [← hcs, takeWhile_append_trimStart]
          _ = cs.takeWhile isSpace ++ hyphen :: (rest.takeWhile isSpace ++ c :: tl) := by
              rw [← hrest, takeWhile_append_trimStart]
      · cases h
    · cases h
  · cases h

theorem afterHyphen?_inFrontOf {j : Joint} {behind : List Char} (hj : j.IsHyphen)
    (hbehind : BeginsWord behind) : afterHyphen? (j.inFrontOf behind) = some behind := by
  rcases hj with ⟨h, hh, hj⟩
  rcases hbehind with ⟨c, hc, hword⟩
  cases behind with
  | nil => cases hc
  | cons d tl =>
      cases hc
      have hspace : isSpace c = false :=
        Bool.eq_false_iff.2 fun hs => absurd hword (by simp [isWord_eq_false_of_isSpace hs])
      have hdash : isSpace h = false :=
        isSpace_eq_false_of_isDash (j.isDash_dashes h (hj ▸ List.mem_singleton_self h))
      have hfirst : Text.trimStart (j.before ++ h :: (j.behind ++ c :: tl)) =
          h :: (j.behind ++ c :: tl) :=
        dropWhile_append_of_head j.isSpace_before fun _ hx => Option.mem_some_iff.1 hx ▸ hdash
      have hsecond : Text.trimStart (j.behind ++ c :: tl) = c :: tl :=
        dropWhile_append_of_head j.isSpace_behind fun _ hx => Option.mem_some_iff.1 hx ▸ hspace
      rw [Joint.inFrontOf, hj, List.singleton_append, afterHyphen?, hfirst]
      dsimp only
      rw [hsecond]
      dsimp only
      rw [hh, hword, Bool.and_self, if_pos rfl]

/-! ## Joined texts -/

section

variable {d : List Char}

theorem joinRanges_cons_of_none {c : Char} {rest : List Char}
    (h : isWord c = true → afterHyphen? rest = none) :
    joinRanges (.literal d) (c :: rest) = c :: joinRanges (.literal d) rest := by
  rw [joinRanges]
  split
  · rename_i hsome
    split at hsome
    · rename_i hc
      rw [h hc] at hsome
      cases hsome
    · cases hsome
  · rfl

theorem joinRanges_cons_of_some {c : Char} {rest behind : List Char} (hc : isWord c = true)
    (h : afterHyphen? rest = some behind) :
    joinRanges (.literal d) (c :: rest) = c :: (d ++ joinRanges (.literal d) behind) := by
  rw [joinRanges]
  split
  · rename_i hsome
    rw [if_pos hc, h] at hsome
    cases hsome
    dsimp only
    rw [Template.fill_literal, List.cons_append]
  · rename_i hnone
    rw [if_pos hc, h] at hnone
    cases hnone

-- Behind a character there is a hyphen that gives way to the delimiter, or there is none.
theorem joinRanges_cons (d : List Char) (c : Char) (rest : List Char) :
    (∃ behind, isWord c = true ∧ afterHyphen? rest = some behind ∧
      joinRanges (.literal d) (c :: rest) = c :: (d ++ joinRanges (.literal d) behind)) ∨
    joinRanges (.literal d) (c :: rest) = c :: joinRanges (.literal d) rest := by
  by_cases hc : isWord c = true
  · cases h : afterHyphen? rest with
    | none => exact Or.inr (joinRanges_cons_of_none fun _ => h)
    | some behind => exact Or.inl ⟨behind, hc, rfl, joinRanges_cons_of_some hc h⟩
  · exact Or.inr (joinRanges_cons_of_none fun hword => absurd hword hc)

-- A joined text begins as the text does.
theorem head?_joinRanges (cs : List Char) : (joinRanges (.literal d) cs).head? = cs.head? := by
  cases cs with
  | nil => rw [joinRanges]
  | cons c rest =>
      rw [joinRanges]
      split <;> rfl

theorem beginsWord_joinRanges {cs : List Char} (h : BeginsWord cs) :
    BeginsWord (joinRanges (.literal d) cs) := by
  rw [BeginsWord, head?_joinRanges]
  exact h

theorem mem_joinRanges {d cs : List Char} {c : Char} (h : c ∈ joinRanges (.literal d) cs) :
    c ∈ cs ∨ c ∈ d := by
  fun_induction joinRanges (.literal d) cs with
  | case1 => exact Or.inl h
  | case2 x rest behind hbehind _ ih =>
      split at hbehind
      · rcases exists_joint_of_afterHyphen? hbehind with ⟨-, j, -, rfl⟩
        rcases List.mem_cons.1 h with rfl | h
        · exact Or.inl List.mem_cons_self
        rcases List.mem_append.1 h with h | h
        · rw [Template.fill_literal] at h
          exact Or.inr h
        · rw [j.inFrontOf_eq]
          exact (ih h).imp (fun h => List.mem_cons_of_mem x (List.mem_append_right _ h)) id
      · cases hbehind
  | case3 x rest _ ih =>
      rcases List.mem_cons.1 h with rfl | h
      · exact Or.inl List.mem_cons_self
      · exact (ih h).imp (List.mem_cons_of_mem x) id

/-- What stands in front of a joined text and is no part of a word stood there before. -/
theorem exists_append_of_joinRanges {l : List Char} (hl : ∀ c ∈ l, isWord c = false) :
    ∀ {cs out : List Char}, joinRanges (.literal d) cs = l ++ out →
      ∃ cs', cs = l ++ cs' ∧ joinRanges (.literal d) cs' = out := by
  induction l with
  | nil => exact fun {cs} {out} h => ⟨cs, rfl, h⟩
  | cons c rest ih =>
      intro cs out h
      have hhead := head?_joinRanges (d := d) cs
      rw [h] at hhead
      cases cs with
      | nil => cases hhead
      | cons x tl =>
          cases hhead
          have hc : isWord c = true → afterHyphen? tl = none := fun hword =>
            absurd hword (by simp [hl c List.mem_cons_self])
          rw [joinRanges_cons_of_none hc, List.cons_append, List.cons.injEq] at h
          rcases ih (fun x hx => hl x (List.mem_cons_of_mem _ hx)) h.2 with ⟨cs', rfl, hout⟩
          exact ⟨cs', rfl, hout⟩

/-- What is no part of a word stays in front of a joined text. -/
theorem joinRanges_append_of_isWord {l : List Char} (hl : ∀ c ∈ l, isWord c = false)
    (cs : List Char) : joinRanges (.literal d) (l ++ cs) = l ++ joinRanges (.literal d) cs := by
  induction l with
  | nil => rfl
  | cons c rest ih =>
      have hc : isWord c = true → afterHyphen? (rest ++ cs) = none := fun hword =>
        absurd hword (by simp [hl c List.mem_cons_self])
      rw [List.cons_append, joinRanges_cons_of_none hc,
        ih fun x hx => hl x (List.mem_cons_of_mem _ hx), List.cons_append]

/-- Without words there is nothing to join. -/
theorem joinRanges_of_isWord {cs : List Char} (h : ∀ c ∈ cs, isWord c = false) :
    joinRanges (.literal d) cs = cs := by
  have happend := joinRanges_append_of_isWord (d := d) h []
  rwa [joinRanges, List.append_nil] at happend

-- White space begins no word.
theorem beginsWord_append_iff {l w : List Char} (hw : ∀ c ∈ w, isSpace c = true) :
    BeginsWord (l ++ w) ↔ BeginsWord l := by
  cases l with
  | nil =>
      refine ⟨fun ⟨c, hc, hword⟩ => ?_, fun ⟨_, hc, _⟩ => nomatch hc⟩
      rw [isWord_eq_false_of_isSpace (hw c (List.mem_of_mem_head? hc))] at hword
      cases hword
  | cons c rest => exact Iff.rfl

/-- White space behind a text joins nothing to it. -/
theorem afterHyphen?_append_of_isSpace {rest w : List Char} (hw : ∀ c ∈ w, isSpace c = true) :
    afterHyphen? (rest ++ w) = (afterHyphen? rest).map (· ++ w) := by
  cases h : afterHyphen? rest with
  | some behind =>
      rcases exists_joint_of_afterHyphen? h with ⟨hbegins, j, hj, rfl⟩
      rw [j.inFrontOf_eq, List.append_assoc, ← j.inFrontOf_eq,
        afterHyphen?_inFrontOf hj ((beginsWord_append_iff hw).2 hbegins), Option.map_some]
  | none =>
      cases happend : afterHyphen? (rest ++ w) with
      | none => rfl
      | some out =>
          rcases exists_joint_of_afterHyphen? happend with ⟨hout, j, hj, hsplit⟩
          rw [j.inFrontOf_eq] at hsplit
          rcases List.append_eq_append_iff.1 hsplit with ⟨tl, -, hwhole⟩ | ⟨behind, hrest, rfl⟩
          · -- The word would begin in the white space.
            rcases hout with ⟨c, hc, hword⟩
            have hmem : c ∈ w := hwhole ▸ List.mem_append_right tl (List.mem_of_mem_head? hc)
            rw [isWord_eq_false_of_isSpace (hw c hmem)] at hword
            cases hword
          · have hbegins := (beginsWord_append_iff hw).1 hout
            rw [hrest, ← j.inFrontOf_eq, afterHyphen?_inFrontOf hj hbegins] at h
            cases h

/-- White space stays behind a joined text. -/
theorem joinRanges_append_of_isSpace {w : List Char} (hw : ∀ c ∈ w, isSpace c = true)
    (cs : List Char) : joinRanges (.literal d) (cs ++ w) = joinRanges (.literal d) cs ++ w := by
  fun_induction joinRanges (.literal d) cs with
  | case1 => exact joinRanges_of_isWord fun c hc => isWord_eq_false_of_isSpace (hw c hc)
  | case2 c rest behind hbehind _ ih =>
      split at hbehind
      · rename_i hc
        have happend : afterHyphen? (rest ++ w) = some (behind ++ w) := by
          rw [afterHyphen?_append_of_isSpace hw, hbehind, Option.map_some]
        rw [List.cons_append, joinRanges_cons_of_some hc happend, ih, Template.fill_literal]
        simp only [List.cons_append, List.append_assoc]
      · cases hbehind
  | case3 c rest hnone ih =>
      have happend : isWord c = true → afterHyphen? (rest ++ w) = none := by
        intro hc
        rw [dif_pos hc] at hnone
        rw [afterHyphen?_append_of_isSpace hw, hnone, Option.map_none]
      rw [List.cons_append, joinRanges_cons_of_none happend, ih, List.cons_append]

-- A joined text without a delimiter is as it was.
theorem eq_of_not_mem_joinRanges {x : Char} {ds cs : List Char}
    (h : x ∉ joinRanges (.literal (x :: ds)) cs) : joinRanges (.literal (x :: ds)) cs = cs := by
  fun_induction joinRanges (.literal (x :: ds)) cs with
  | case1 => rfl
  | case2 c rest behind _ _ _ =>
      exact absurd (List.mem_cons_of_mem _ List.mem_cons_self) h
  | case3 c rest _ ih => exact congrArg (c :: ·) (ih fun hmem => h (List.mem_cons_of_mem _ hmem))

/-- Up to the first delimiter a joined text is as it was. -/
theorem exists_append_cons_of_joinRanges {x : Char} {ds l : List Char} {c : Char}
    (hl : x ∉ l ++ [c]) :
    ∀ {cs out : List Char}, joinRanges (.literal (x :: ds)) cs = l ++ c :: out →
      ∃ cs', cs = l ++ c :: cs' ∧ joinRanges (.literal (x :: ds)) (c :: cs') = c :: out := by
  induction l with
  | nil =>
      intro cs out h
      have hhead := head?_joinRanges (d := x :: ds) cs
      rw [h] at hhead
      cases cs with
      | nil => cases hhead
      | cons y tl =>
          cases hhead
          exact ⟨tl, rfl, h⟩
  | cons y l ih =>
      intro cs out h
      cases cs with
      | nil =>
          rw [joinRanges] at h
          cases h
      | cons z tl =>
          rcases joinRanges_cons (x :: ds) z tl with ⟨behind, -, -, hout⟩ | hout
          · -- The delimiter would stand before the end of what holds none.
            have htail := (List.cons.inj (hout.symm.trans h)).2
            have hmem : x ∈ l ++ [c] := by
              cases l with
              | nil => exact List.mem_singleton.2 (List.cons.inj htail).1
              | cons w l =>
                  rw [← (List.cons.inj htail).1]
                  exact List.mem_cons_self
            exact absurd (List.mem_cons_of_mem y hmem) hl
          · rcases List.cons.inj (hout.symm.trans h) with ⟨hzy, htail⟩
            rcases ih (fun hmem => hl (List.mem_cons_of_mem y hmem)) htail with ⟨cs', hcs, hrest⟩
            exact ⟨cs', by rw [hzy, hcs, List.cons_append], hrest⟩

end

-- No hyphen is put between words that was not there.
theorem afterHyphen?_joinRanges_eq_none {d rest : List Char} (h : afterHyphen? rest = none) :
    afterHyphen? (joinRanges (.literal d) rest) = none := by
  cases hout : afterHyphen? (joinRanges (.literal d) rest) with
  | none => rfl
  | some out =>
      rcases exists_joint_of_afterHyphen? hout with ⟨hword, j, hj, hrest⟩
      rw [j.inFrontOf_eq] at hrest
      rcases exists_append_of_joinRanges j.isWord_text hrest with ⟨behind, hcs, hbehind⟩
      have hword' : BeginsWord behind := by
        rw [← hbehind, BeginsWord, head?_joinRanges] at hword
        exact hword
      rw [hcs, ← j.inFrontOf_eq, afterHyphen?_inFrontOf hj hword'] at h
      cases h

/-- Joining a text once more changes nothing. -/
theorem joinRanges_joinRanges (cs : List Char) :
    joinRanges (.literal ['–']) (joinRanges (.literal ['–']) cs) =
      joinRanges (.literal ['–']) cs := by
  fun_induction joinRanges (.literal ['–']) cs with
  | case1 => rw [joinRanges]
  | case2 c rest behind hbehind _ ih =>
      split at hbehind
      · rename_i hc
        have hword := beginsWord_joinRanges (d := ['–']) (exists_joint_of_afterHyphen? hbehind).1
        have hagain : afterHyphen? ('–' :: joinRanges (.literal ['–']) behind) =
            some (joinRanges (.literal ['–']) behind) :=
          afterHyphen?_inFrontOf (j := .enDash) ⟨'–', by decide, rfl⟩ hword
        change joinRanges (.literal ['–']) (c :: '–' :: joinRanges (.literal ['–']) behind) = _
        rw [joinRanges_cons_of_some hc hagain, ih]
        rfl
      · cases hbehind
  | case3 c rest hnone ih =>
      have hrest : isWord c = true → afterHyphen? (joinRanges (.literal ['–']) rest) = none := by
        intro hc
        rw [dif_pos hc] at hnone
        exact afterHyphen?_joinRanges_eq_none hnone
      rw [joinRanges_cons_of_none hrest, ih]

-- What stands behind a joint after joining stood behind a joint before.
theorem exists_joint_of_joinRanges {c : Char} {rest tail : List Char} {j : Joint}
    (htail : '–' ∉ tail) (hword : BeginsWord tail)
    (h : joinRanges (.literal ['–']) (c :: rest) = c :: j.inFrontOf tail) :
    ∃ j' : Joint, rest = j'.inFrontOf tail := by
  rcases joinRanges_cons ['–'] c rest with ⟨behind, -, hbehind, hout⟩ | hout
  · rcases exists_joint_of_afterHyphen? hbehind with ⟨hbegins, j', -, hrest⟩
    refine ⟨j', ?_⟩
    have heq : ['–'] ++ joinRanges (.literal ['–']) behind = j.text ++ tail := by
      rw [← j.inFrontOf_eq]
      exact (List.cons.inj (hout.symm.trans h)).2
    -- On both sides a word begins behind what is no part of a word.
    have hdrop := congrArg (List.dropWhile (!isWord ·)) heq
    rw [dropWhile_append_of_beginsWord (by simp [isWord_enDash]) (beginsWord_joinRanges hbegins),
      dropWhile_append_of_beginsWord j.isWord_text hword] at hdrop
    rw [← hdrop] at htail
    rw [hrest, ← hdrop, eq_of_not_mem_joinRanges htail]
  · have heq : joinRanges (.literal ['–']) rest = j.text ++ tail := by
      rw [← j.inFrontOf_eq]
      exact (List.cons.inj (hout.symm.trans h)).2
    rcases exists_append_of_joinRanges j.isWord_text heq with ⟨behind, hrest, hbehind⟩
    rw [← hbehind] at htail
    refine ⟨j, ?_⟩
    rw [hrest, j.inFrontOf_eq, ← hbehind, eq_of_not_mem_joinRanges htail]

end PageRange

end CslProcessor
