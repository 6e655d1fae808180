import CslProcessor.Run.Punctuation
import Mathlib.Data.List.TakeWhile

/-!
# Seams between runs

What the rules for a seam do, said once. The text behind a seam loses blanks, or it loses a mark
that clashes with the last character before the seam, or its first mark moves inside a closing
quote, or both sides stay as they are. No seam is touched in two of these ways.

The rules look at the last character before the seam and at nothing further in front, so they do the
same to a run and to all the text that ends with it. The text of settled runs is therefore the fold
of the texts of the runs, and what holds of it can be shown without runs.

## Main definitions

* `clashes`, `Clash`: Pairs of marks that may not stand side by side.
* `TucksIn`: The text behind a seam starts with a mark that belongs inside a quote.
* `Seam`: What the rules for a seam do.
* `joinSeam`: Two texts put together at their seam.

## Theorems

* `seam_settleSeam`: The rules do one of four things.
* `settleSeam_append`: What stands further in front does not matter.
* `toList_normalizePunctuation`: The text of settled runs.
-/

namespace CslProcessor

namespace Runs

/-- Pairs of marks of which the second is dropped. -/
def clashes : List (Char × Char) :=
  [('.', '.'), ('?', '.'), ('!', '.'), (',', ','), (';', ';'), (':', ':')]

/-- Two marks that may not stand side by side. -/
def Clash (a b : Char) : Prop :=
  (a, b) ∈ clashes

instance (a b : Char) : Decidable (Clash a b) :=
  inferInstanceAs (Decidable ((a, b) ∈ clashes))

/-- The text behind a seam starts with a full stop or comma, and a closing quote stands before the
    seam. -/
def TucksIn (before after : List Char) : Prop :=
  before.getLast? = some '”' ∧ ∃ mark ∈ after.head?, mark = '.' ∨ mark = ','

/-- What the rules for a seam do to the text on both sides of it. -/
inductive Seam (punctuationInQuote : Bool) :
    List Char → List Char → List Char × List Char → Prop
  /-- Blanks behind a blank are dropped. -/
  | blanks {before dropped after : List Char} (hlast : before.getLast? = some ' ')
      (hdropped : ∀ c ∈ dropped, c = ' ') :
      Seam punctuationInQuote before (dropped ++ after) (before, after)
  /-- A mark that clashes is dropped. -/
  | double {before after : List Char} {last mark : Char} (hlast : before.getLast? = some last)
      (hclash : Clash last mark) :
      Seam punctuationInQuote before (mark :: after) (before, after)
  /-- A mark moves inside a closing quote. -/
  | tucked {front after : List Char} {mark : Char} (hquote : punctuationInQuote = true)
      (hmark : mark = '.' ∨ mark = ',') :
      Seam punctuationInQuote (front ++ ['”']) (mark :: after) (front ++ [mark, '”'], after)
  /-- Both sides stay as they are. -/
  | kept {before after : List Char}
      (hclash : ∀ last ∈ before.getLast?, ∀ c ∈ after.head?, ¬ Clash last c)
      (htuck : punctuationInQuote = true → ¬ TucksIn before after) :
      Seam punctuationInQuote before after (before, after)

/-! ## The rules one by one -/

theorem dropBlanks_of_getLast? {before after : List Char} (h : before.getLast? = some ' ') :
    dropBlanks before after = after.dropWhile (· == ' ') := by
  rw [dropBlanks, h]
  rfl

theorem dropBlanks_of_ne {before after : List Char} (h : before.getLast? ≠ some ' ') :
    dropBlanks before after = after := by
  rw [dropBlanks, if_neg]
  rwa [beq_iff_eq]

-- The test for a mark that came before the seam already.
theorem double_iff_clash (last c : Char) :
    ((c == '.' && terminalMarks.contains last) ||
      ((c == ',' || c == ';' || c == ':') && last == c)) = true ↔ Clash last c := by
  simp only [Clash, clashes, terminalMarks, List.contains_iff_mem, List.mem_cons, List.not_mem_nil,
    Bool.or_eq_true, Bool.and_eq_true, beq_iff_eq, Prod.mk.injEq, or_false]
  grind

theorem dropDouble_of_clash {before after : List Char} {last mark : Char}
    (hlast : before.getLast? = some last) (h : Clash last mark) :
    dropDouble before (mark :: after) = after := by
  simp only [dropDouble, hlast]
  rw [if_pos ((double_iff_clash last mark).2 h)]

theorem dropDouble_of_not_clash {before after : List Char}
    (h : ∀ last ∈ before.getLast?, ∀ c ∈ after.head?, ¬ Clash last c) :
    dropDouble before after = after := by
  cases hlast : before.getLast? with
  | none => simp only [dropDouble, hlast]
  | some last =>
      cases after with
      | nil => simp only [dropDouble, hlast]
      | cons c rest =>
          simp only [dropDouble, hlast]
          rw [if_neg]
          exact fun hc => h last hlast c rfl ((double_iff_clash last c).1 hc)

theorem tuckIn_of_tucksIn {front after : List Char} {mark : Char} (h : mark = '.' ∨ mark = ',') :
    tuckIn (front ++ ['”']) (mark :: after) = (front ++ [mark, '”'], after) := by
  simp only [tuckIn, List.getLast?_append, List.getLast?_singleton, Option.some_or,
    List.dropLast_concat]
  rw [if_pos]
  rcases h with rfl | rfl <;> rfl

theorem tuckIn_of_not {before after : List Char} (h : ¬ TucksIn before after) :
    tuckIn before after = (before, after) := by
  cases after with
  | nil => rfl
  | cons c rest =>
      simp only [tuckIn]
      rw [if_neg]
      simp only [Bool.and_eq_true, Bool.or_eq_true, beq_iff_eq]
      exact fun hc => h ⟨hc.2, c, rfl, hc.1⟩

-- A text that a mark can be tucked into ends with the quote, and so with no blank and no mark.
theorem TucksIn.exists_eq {before after : List Char} (h : TucksIn before after) :
    ∃ front mark rest, before = front ++ ['”'] ∧ after = mark :: rest ∧
      (mark = '.' ∨ mark = ',') := by
  rcases h with ⟨hlast, mark, hhead, hmark⟩
  rcases List.getLast?_eq_some_iff.1 hlast with ⟨front, rfl⟩
  rcases List.head?_eq_some_iff.1 hhead with ⟨rest, rfl⟩
  exact ⟨front, mark, rest, rfl, rfl, hmark⟩

theorem not_clash_quote (c : Char) : ¬ Clash '”' c ∧ ¬ Clash c '”' := by
  simp [Clash, clashes]

theorem not_clash_blank (c : Char) : ¬ Clash ' ' c ∧ ¬ Clash c ' ' := by
  simp [Clash, clashes]

/-! ## The rules together -/

-- A seam at which nothing is dropped.
theorem settleSeam_of_kept {piq : Bool} {before after : List Char}
    (hblank : before.getLast? ≠ some ' ')
    (hclash : ∀ last ∈ before.getLast?, ∀ c ∈ after.head?, ¬ Clash last c)
    (htuck : piq = true → ¬ TucksIn before after) :
    settleSeam piq before after = (before, after) := by
  simp only [settleSeam, dropBlanks_of_ne hblank, dropDouble_of_not_clash hclash]
  cases piq with
  | false => simp only [Bool.false_eq_true, if_false, dropBlanks_of_ne hblank]
  | true => simp only [if_true, tuckIn_of_not (htuck rfl), dropBlanks_of_ne hblank]

theorem settleSeam_of_clash {piq : Bool} {before after : List Char} {last mark : Char}
    (hlast : before.getLast? = some last) (h : Clash last mark) :
    settleSeam piq before (mark :: after) = (before, after) := by
  have hblank : before.getLast? ≠ some ' ' := by
    rw [hlast]
    rintro ⟨⟩
    exact (not_clash_blank mark).1 h
  have htuck : ¬ TucksIn before after := by
    rintro ⟨hquote, -⟩
    rw [hlast] at hquote
    cases hquote
    exact (not_clash_quote mark).1 h
  simp only [settleSeam, dropBlanks_of_ne hblank, dropDouble_of_clash hlast h,
    tuckIn_of_not htuck, ite_self]

theorem settleSeam_of_tucksIn {front after : List Char} {mark : Char}
    (h : mark = '.' ∨ mark = ',') :
    settleSeam true (front ++ ['”']) (mark :: after) = (front ++ [mark, '”'], after) := by
  have hblank : ∀ s : List Char, (s ++ ['”']).getLast? ≠ some ' ' := by simp
  have hclash : ∀ last ∈ (front ++ ['”']).getLast?, ∀ c ∈ (mark :: after).head?,
      ¬ Clash last c := by
    simp only [List.getLast?_concat, Option.mem_def, Option.some.injEq, forall_eq']
    exact fun c _ => (not_clash_quote c).1
  have hmoved : (front ++ [mark, '”']).getLast? ≠ some ' ' := by
    rw [List.append_cons]
    exact hblank _
  simp only [settleSeam, dropBlanks_of_ne (hblank front), dropDouble_of_not_clash hclash, if_true,
    tuckIn_of_tucksIn h, dropBlanks_of_ne hmoved]

theorem settleSeam_of_blank {piq : Bool} {before after : List Char}
    (hlast : before.getLast? = some ' ') :
    settleSeam piq before after = (before, after.dropWhile (· == ' ')) := by
  have htwice : (after.dropWhile (· == ' ')).dropWhile (· == ' ') = after.dropWhile (· == ' ') :=
    List.dropWhile_eq_self_iff.2 fun hl => List.dropWhile_get_zero_not _ _ hl
  have hclash : ∀ last ∈ before.getLast?, ∀ c ∈ (after.dropWhile (· == ' ')).head?,
      ¬ Clash last c := by
    rw [hlast]
    rintro last ⟨⟩ c -
    exact (not_clash_blank c).1
  have htuck : ¬ TucksIn before (after.dropWhile (· == ' ')) := by
    rintro ⟨hquote, -⟩
    rw [hlast] at hquote
    exact absurd hquote (by decide)
  simp only [settleSeam, dropBlanks_of_getLast? hlast, dropDouble_of_not_clash hclash,
    tuckIn_of_not htuck, ite_self, htwice]

/-- The rules for a seam drop blanks, drop a mark, move a mark inside a quote, or do nothing. -/
theorem seam_settleSeam (piq : Bool) (before after : List Char) :
    Seam piq before after (settleSeam piq before after) := by
  by_cases hblank : before.getLast? = some ' '
  · have hdropped : ∀ c ∈ after.takeWhile (· == ' '), c = ' ' :=
      fun c hc => beq_iff_eq.1 (List.mem_takeWhile_imp (p := (· == ' ')) hc)
    have hseam : Seam piq before (after.takeWhile (· == ' ') ++ after.dropWhile (· == ' '))
        (before, after.dropWhile (· == ' ')) := Seam.blanks hblank hdropped
    rw [List.takeWhile_append_dropWhile] at hseam
    rwa [settleSeam_of_blank hblank]
  by_cases hclash : ∀ last ∈ before.getLast?, ∀ c ∈ after.head?, ¬ Clash last c
  · by_cases htuck : piq = true ∧ TucksIn before after
    · rcases htuck with ⟨rfl, htuck⟩
      rcases htuck.exists_eq with ⟨front, mark, rest, rfl, rfl, hmark⟩
      rw [settleSeam_of_tucksIn hmark]
      exact Seam.tucked rfl hmark
    · have htuck' : piq = true → ¬ TucksIn before after := fun hpiq h => htuck ⟨hpiq, h⟩
      rw [settleSeam_of_kept hblank hclash htuck']
      exact Seam.kept hclash htuck'
  · simp only [not_forall, not_not] at hclash
    rcases hclash with ⟨last, hlast, mark, hmark, hclash⟩
    rcases List.head?_eq_some_iff.1 hmark with ⟨rest, rfl⟩
    rw [settleSeam_of_clash hlast hclash]
    exact Seam.double hlast hclash

/-! ## The text of settled runs -/

section

variable (front : List Char) {before : List Char} (h : before ≠ [])

include h

theorem getLast?_append_of_ne_nil : (front ++ before).getLast? = before.getLast? := by
  rw [List.getLast?_append, List.getLast?_eq_some_getLast h, Option.some_or]

theorem dropBlanks_append (after : List Char) :
    dropBlanks (front ++ before) after = dropBlanks before after := by
  rw [dropBlanks, getLast?_append_of_ne_nil front h, dropBlanks]

theorem dropDouble_append (after : List Char) :
    dropDouble (front ++ before) after = dropDouble before after := by
  simp only [dropDouble, getLast?_append_of_ne_nil front h]

theorem tuckIn_append (after : List Char) :
    tuckIn (front ++ before) after =
      (front ++ (tuckIn before after).1, (tuckIn before after).2) := by
  cases after with
  | nil => rfl
  | cons c rest =>
      simp only [tuckIn, getLast?_append_of_ne_nil front h, List.dropLast_append_of_ne_nil h]
      split
      · rw [List.append_assoc]
      · rfl

theorem tuckIn_ne_nil (after : List Char) : (tuckIn before after).1 ≠ [] := by
  cases after with
  | nil => exact h
  | cons c rest =>
      simp only [tuckIn]
      split
      · simp
      · exact h

/-- What stands further in front of a seam does not matter. -/
theorem settleSeam_append (piq : Bool) (after : List Char) :
    settleSeam piq (front ++ before) after =
      (front ++ (settleSeam piq before after).1, (settleSeam piq before after).2) := by
  simp only [settleSeam, dropBlanks_append front h, dropDouble_append front h,
    tuckIn_append front h]
  cases piq with
  | false => simp only [Bool.false_eq_true, if_false, dropBlanks_append front h]
  | true => simp only [if_true, dropBlanks_append front (tuckIn_ne_nil h _)]

theorem settleSeam_ne_nil (piq : Bool) (after : List Char) :
    (settleSeam piq before after).1 ≠ [] := by
  cases piq with
  | false => exact h
  | true => exact tuckIn_ne_nil h _

end

/-- Two texts put together at their seam. -/
def joinSeam (punctuationInQuote : Bool) (before after : List Char) : List Char :=
  (settleSeam punctuationInQuote before after).1 ++ (settleSeam punctuationInQuote before after).2

theorem joinSeam_nil_left (piq : Bool) (after : List Char) : joinSeam piq [] after = after := by
  have hkept : settleSeam piq [] after = ([], after) :=
    settleSeam_of_kept (by simp) (by simp) fun _ h => by simp [TucksIn] at h
  rw [joinSeam, hkept, List.nil_append]

theorem joinSeam_nil_right (piq : Bool) (before : List Char) : joinSeam piq before [] = before := by
  have hkept : settleSeam piq before [] = (before, []) := by
    by_cases hblank : before.getLast? = some ' '
    · rw [settleSeam_of_blank hblank, List.dropWhile_nil]
    · exact settleSeam_of_kept hblank (by simp) fun _ h => by simp [TucksIn] at h
  rw [joinSeam, hkept, List.append_nil]

theorem toList_plainText_retext (r : TextRun) (cs : List Char) :
    (plainText (retext r cs)).toList = cs := by
  rw [retext]
  split
  · rename_i h
    rw [List.isEmpty_iff.1 h]
    rfl
  · simp [plainText]

-- No settled run is without text.
theorem text_ne_of_mem_retext {r r' : TextRun} {cs : List Char} (h : r' ∈ retext r cs) :
    r'.text ≠ "" := by
  rw [retext] at h
  split at h
  · exact absurd h List.not_mem_nil
  · rename_i hne
    rw [List.mem_singleton.1 h]
    simpa [String.ofList_eq_empty_iff] using hne

/-- The text of one more run is joined to the text of the runs settled so far. -/
theorem settle_text (piq : Bool) {settled : List TextRun} (h : ∀ p ∈ settled, p.text ≠ "")
    (r : TextRun) :
    (∀ p ∈ settle piq settled r, p.text ≠ "") ∧
      (plainText (settle piq settled r).reverse).toList =
        joinSeam piq (plainText settled.reverse).toList r.text.toList := by
  unfold settle
  split
  · rename_i hempty
    rw [String.isEmpty_iff.1 hempty]
    exact ⟨h, (joinSeam_nil_right piq _).symm⟩
  · rename_i hne
    cases settled with
    | nil =>
        refine ⟨fun p hp => ?_, ?_⟩
        · rw [List.mem_singleton.1 hp]
          simpa using hne
        · simp [plainText, joinSeam_nil_left]
    | cons p rest =>
        have hp : p.text.toList ≠ [] := by
          simpa using h p List.mem_cons_self
        dsimp only
        refine ⟨fun q hq => ?_, ?_⟩
        · rcases List.mem_append.1 hq with hq | hq
          · exact text_ne_of_mem_retext hq
          · rcases List.mem_cons.1 hq with rfl | hq
            · simpa using settleSeam_ne_nil hp piq r.text.toList
            · exact h q (List.mem_cons_of_mem _ hq)
        · have hone : ∀ q : TextRun, (plainText [q]).toList = q.text.toList := by
            intro q
            simp [plainText]
          have hreverse : ∀ cs, (retext r cs).reverse = retext r cs := by
            intro cs
            rw [retext]
            split <;> rfl
          rw [List.reverse_append, List.reverse_cons, List.reverse_cons, hreverse]
          simp only [plainText_append, String.toList_append, hone, toList_plainText_retext,
            String.toList_ofList]
          rw [joinSeam, settleSeam_append _ hp]

/-- The text of settled runs is put together from the texts of the runs, seam by seam. -/
theorem toList_normalizePunctuation (piq : Bool) (runs : List TextRun) :
    (plainText (normalizePunctuation piq runs)).toList =
      (runs.map (·.text.toList)).foldl (joinSeam piq) [] := by
  have hfold : ∀ settled : List TextRun, (∀ p ∈ settled, p.text ≠ "") →
      (plainText (runs.foldl (settle piq) settled).reverse).toList =
        (runs.map (·.text.toList)).foldl (joinSeam piq) (plainText settled.reverse).toList := by
    induction runs with
    | nil => exact fun _ _ => rfl
    | cons r rest ih =>
        intro settled h
        have hr := settle_text piq h r
        rw [List.foldl_cons, List.map_cons, List.foldl_cons, ih _ hr.1, hr.2]
  exact hfold [] fun _ h => absurd h List.not_mem_nil

end Runs

end CslProcessor
