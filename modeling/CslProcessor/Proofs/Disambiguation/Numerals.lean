import CslProcessor.Proofs.Disambiguation.AuthorDate
import Mathlib.Data.List.Shortlex
import Mathlib.Data.Set.Function

/-!
# Letters as Numerals

The letters behind a year are numerals with 26 digits and no zero: `a` is worth 1 and `z` is worth
26. Such numerals are unique, since a number leaves no choice for its last digit: it is the one
whose worth has the right remainder, between 1 and 26. So every text of letters stands at exactly
one index, and texts stand in the order of their length and, within one length, of the alphabet.

That a greater index never stands before a smaller one is proved the other way round. The digits of
one numeral, read on from some number, cannot catch up with those of another one of the same length
that is read on from a greater number (`foldl_lt_foldl`). A longer numeral is ahead by its first
digits, and of two numerals of one length the one with the greater letter where they differ first.

## Main definitions

* `IsNumeral`: Digits, and at least one of them.
* `suffixTexts`: The texts of letters.
* `indexOf`: The index at which a text stands.

## Theorems

* `letters_numeral`: The letters at the index of a numeral are its digits.
* `foldl_lt_foldl`: A numeral that is ahead stays ahead.
* `numeral_lt_of_shortlex`: Numerals have the order of their texts.
* `suffixLetters_bijOn`: Letters stand for indexes one to one and in order.
-/

namespace CslProcessor

namespace YearSuffix

/-- Whether a character is a digit of a numeral of letters. -/
def IsDigit (c : Char) : Prop :=
  'a' ≤ c ∧ c ≤ 'z'

/-- Digits, and at least one of them. -/
def IsNumeral (cs : List Char) : Prop :=
  cs ≠ [] ∧ ∀ c ∈ cs, IsDigit c

/-- The texts of letters that can stand behind a year. -/
def suffixTexts : Set String :=
  {s | IsNumeral s.toList}

/-- The index at which a text of letters stands. -/
def indexOf (s : String) : Nat :=
  numeral s.toList - 1

/-! ## Digits -/

theorem isDigit_iff {c : Char} : IsDigit c ↔ 97 ≤ c.toNat ∧ c.toNat ≤ 122 := Iff.rfl

theorem isDigit_of_isLower {c : Char} (h : c.isLower = true) : IsDigit c := by
  have hboth := Bool.and_eq_true_iff.1 h
  exact ⟨of_decide_eq_true hboth.1, of_decide_eq_true hboth.2⟩

theorem IsDigit.digitOf_pos {c : Char} (h : IsDigit c) : 1 ≤ digitOf c := by
  rw [isDigit_iff] at h
  rw [digitOf]
  omega

theorem IsDigit.digitOf_le {c : Char} (h : IsDigit c) : digitOf c ≤ 26 := by
  rw [isDigit_iff] at h
  rw [digitOf]
  omega

-- Digits have the order of the alphabet.
theorem IsDigit.digitOf_lt {c d : Char} (hc : IsDigit c) (h : c < d) :
    digitOf c < digitOf d := by
  rw [isDigit_iff] at hc
  have hlt : c.toNat < d.toNat := h
  rw [digitOf, digitOf]
  omega

theorem letterAt_digitOf {c : Char} (h : IsDigit c) : letterAt (digitOf c - 1) = c := by
  rw [isDigit_iff] at h
  have hcode : 97 + (digitOf c - 1) = c.toNat := by
    rw [digitOf]
    omega
  rw [letterAt, hcode, Char.ofNat_toNat]

theorem isNumeral_letters (index : Nat) : IsNumeral (letters index) :=
  ⟨letters_ne_nil index, fun c hc => isDigit_of_isLower (isLower_letters index c hc)⟩

/-! ## Reading -/

theorem IsNumeral.numeral_pos {cs : List Char} (h : IsNumeral cs) : 1 ≤ numeral cs := by
  rcases List.eq_nil_or_concat cs with hnil | ⟨front, c, hcs⟩
  · exact absurd hnil h.1
  · rw [List.concat_eq_append] at hcs
    have hc : IsDigit c := h.2 c (by rw [hcs]; exact List.mem_append_right _ List.mem_cons_self)
    rw [hcs, numeral_append_singleton]
    exact Nat.le_add_left_of_le hc.digitOf_pos

/-- The letters at the index of a numeral are its digits. -/
theorem letters_numeral {cs : List Char} (h : IsNumeral cs) : letters (numeral cs - 1) = cs := by
  induction cs using List.reverseRecOn with
  | nil => exact absurd rfl h.1
  | append_singleton front c ih =>
      have hc : IsDigit c := h.2 c (List.mem_append_right _ List.mem_cons_self)
      have hpos := hc.digitOf_pos
      have hle := hc.digitOf_le
      rw [numeral_append_singleton]
      by_cases hfront : front = []
      · -- A single digit.
        subst hfront
        have hindex : 26 * numeral [] + digitOf c - 1 = digitOf c - 1 := by
          rw [numeral, List.foldl_nil, Nat.mul_zero, Nat.zero_add]
        rw [hindex, letters, if_pos (by omega), letterAt_digitOf hc, List.nil_append]
      · -- The last digit is what is left over by the digits before it.
        have hnumeral : IsNumeral front :=
          ⟨hfront, fun d hd => h.2 d (List.mem_append_left _ hd)⟩
        have hfpos := hnumeral.numeral_pos
        have hdiv : (26 * numeral front + digitOf c - 1) / 26 = numeral front := by omega
        have hmod : (26 * numeral front + digitOf c - 1) % 26 = digitOf c - 1 := by omega
        rw [letters, if_neg (by omega), hdiv, hmod, ih hnumeral, letterAt_digitOf hc]

/-! ## Order -/

/-- What is read on from a smaller number stays behind, for as many digits. -/
theorem foldl_lt_foldl {cs ds : List Char} (hlen : cs.length = ds.length)
    (hcs : ∀ c ∈ cs, IsDigit c) (hds : ∀ d ∈ ds, IsDigit d) :
    ∀ {m n : Nat}, m < n → cs.foldl (fun n c => 26 * n + digitOf c) m <
      ds.foldl (fun n c => 26 * n + digitOf c) n := by
  induction cs generalizing ds with
  | nil =>
      intro m n hmn
      rw [List.length_nil, eq_comm, List.length_eq_zero_iff] at hlen
      rw [hlen, List.foldl_nil, List.foldl_nil]
      exact hmn
  | cons c cs ih =>
      intro m n hmn
      cases ds with
      | nil => exact absurd hlen (by simp)
      | cons d ds =>
          rw [List.foldl_cons, List.foldl_cons]
          -- A digit is worth at most 26, as much as the step that the other number is ahead.
          have hle := (hcs c List.mem_cons_self).digitOf_le
          have hpos := (hds d List.mem_cons_self).digitOf_pos
          exact ih (Nat.succ.inj hlen) (fun x hx => hcs x (List.mem_cons_of_mem _ hx))
            (fun x hx => hds x (List.mem_cons_of_mem _ hx)) (by omega)

-- Two numerals of one length differ as they do where they differ first.
theorem foldl_lt_of_lex {cs ds : List Char} (h : List.Lex (· < ·) cs ds)
    (hlen : cs.length = ds.length) (hcs : ∀ c ∈ cs, IsDigit c) (hds : ∀ d ∈ ds, IsDigit d) :
    ∀ m : Nat, cs.foldl (fun n c => 26 * n + digitOf c) m <
      ds.foldl (fun n c => 26 * n + digitOf c) m := by
  induction h with
  | nil => exact absurd hlen (by simp)
  | cons hrest ih =>
      intro m
      rw [List.foldl_cons, List.foldl_cons]
      exact ih (Nat.succ.inj hlen) (fun x hx => hcs x (List.mem_cons_of_mem _ hx))
        (fun x hx => hds x (List.mem_cons_of_mem _ hx)) _
  | rel hlt =>
      intro m
      rw [List.foldl_cons, List.foldl_cons]
      have hfirst := (hcs _ List.mem_cons_self).digitOf_lt hlt
      exact foldl_lt_foldl (Nat.succ.inj hlen) (fun x hx => hcs x (List.mem_cons_of_mem _ hx))
        (fun x hx => hds x (List.mem_cons_of_mem _ hx)) (by omega)

/-- Numerals have the order of their texts. -/
theorem numeral_lt_of_shortlex {cs ds : List Char} (hcs : IsNumeral cs) (hds : IsNumeral ds)
    (h : List.Shortlex (· < ·) cs ds) : numeral cs < numeral ds := by
  rcases List.shortlex_def.1 h with hlen | ⟨hlen, hlex⟩
  · -- The longer numeral begins with digits that the shorter one lacks.
    have hsplit := List.take_append_drop (ds.length - cs.length) ds
    have hahead : IsNumeral (ds.take (ds.length - cs.length)) := by
      refine ⟨fun hnil => ?_, fun d hd => hds.2 d (List.mem_of_mem_take hd)⟩
      rw [List.take_eq_nil_iff] at hnil
      exact hnil.elim (by omega) hds.1
    have hread : numeral ds = (ds.drop (ds.length - cs.length)).foldl
        (fun n c => 26 * n + digitOf c) (numeral (ds.take (ds.length - cs.length))) := by
      rw [numeral, numeral, ← List.foldl_append, hsplit]
    rw [hread, numeral]
    refine foldl_lt_foldl ?_ hcs.2 (fun d hd => hds.2 d (List.mem_of_mem_drop hd))
      hahead.numeral_pos
    rw [List.length_drop]
    omega
  · exact foldl_lt_of_lex hlex hlen hcs.2 hds.2 0

-- Texts of letters can be compared, so their order is also that of the indexes.
theorem letters_shortlex_iff {m n : Nat} :
    List.Shortlex (· < ·) (letters m) (letters n) ↔ m < n := by
  have hlt : ∀ {i j : Nat}, List.Shortlex (· < ·) (letters i) (letters j) → i < j := by
    intro i j h
    have hnumeral := numeral_lt_of_shortlex (isNumeral_letters i) (isNumeral_letters j) h
    rw [numeral_letters, numeral_letters] at hnumeral
    omega
  refine ⟨hlt, fun hmn => ?_⟩
  by_contra hnot
  have hback : ¬ List.Shortlex (· < ·) (letters n) (letters m) := fun h =>
    Nat.lt_asymm hmn (hlt h)
  have heq := Std.Trichotomous.trichotomous (r := List.Shortlex (· < ·)) _ _ hnot hback
  exact absurd (letters_injective heq) (Nat.ne_of_lt hmn)

/-! ## Letters and indexes -/

theorem toList_suffixLetters (index : Nat) : (suffixLetters index).toList = letters index := by
  rw [suffixLetters, String.toList_ofList]

-- Reading the text at an index gives the index back, and the text at the index of a text is it.
theorem indexOf_invOn : Set.InvOn indexOf suffixLetters Set.univ suffixTexts := by
  constructor
  · intro index _
    rw [indexOf, toList_suffixLetters, numeral_letters, Nat.add_sub_cancel]
  · intro s hs
    rw [indexOf, suffixLetters, letters_numeral hs, String.ofList_toList]

theorem mapsTo_suffixLetters : Set.MapsTo suffixLetters Set.univ suffixTexts := by
  intro index _
  rw [suffixTexts, Set.mem_ofPred_eq, toList_suffixLetters]
  exact isNumeral_letters index

/-- The letters behind a year stand for indexes one to one: the indexes from 0 on have exactly the
    texts of letters, the index of a text is what it writes as a numeral less one, and texts have
    the order of their indexes, shorter ones first and those of one length by the alphabet. So what
    is printed behind a year is never the same for two indexes. -/
theorem suffixLetters_bijOn :
    (∀ index : Nat, lettersAt index = .ok (suffixLetters index)) ∧
    Set.BijOn suffixLetters Set.univ suffixTexts ∧
    Set.InvOn indexOf suffixLetters Set.univ suffixTexts ∧
    (∀ m n : Nat, m < n ↔
      List.Shortlex (· < ·) (suffixLetters m).toList (suffixLetters n).toList) ∧
    ∀ (d e : EntryDisambiguation) (m n : Nat),
      { d with yearSuffix := some (m : Int) }.letters? =
        { e with yearSuffix := some (n : Int) }.letters? ↔ m = n := by
  have hletters : ∀ index : Nat, lettersAt index = .ok (suffixLetters index) := fun index => by
    rw [lettersAt, if_neg (by omega), Int.toNat_natCast]
  refine ⟨hletters, indexOf_invOn.bijOn mapsTo_suffixLetters (Set.mapsTo_univ _ _), indexOf_invOn,
    fun m n => ?_, fun d e m n => ?_⟩
  · rw [toList_suffixLetters, toList_suffixLetters, letters_shortlex_iff]
  · change (lettersAt m).map some = (lettersAt n).map some ↔ m = n
    rw [hletters, hletters]
    refine ⟨fun h => ?_, fun h => by rw [h]⟩
    exact indexOf_invOn.1.injOn (Set.mem_univ m) (Set.mem_univ n)
      (Option.some.inj (Except.ok.inj h))

example : suffixLetters 701 = "zz" ∧ suffixLetters 702 = "aaa" := by decide +kernel

end YearSuffix

end CslProcessor
