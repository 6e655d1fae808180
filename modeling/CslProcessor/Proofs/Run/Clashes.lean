import CslProcessor.Proofs.Run.Seams
import Mathlib.Data.List.Chain
import Mathlib.Data.List.Infix

/-!
# Marks that clash

Where no run holds two marks side by side of which one is to be dropped, the settled runs hold none
either, as long as no mark moves inside a quote. What is dropped at a seam leaves no clash behind:
the mark behind a dropped one does not clash with it, and so not with the mark it was dropped for.

A mark that moves inside a quote is not compared with the character that it meets there. This is the
one way in which two marks can come to clash, and a clash that has come about stays.

## Main definitions

* `ClashFree`: No two marks in a text clash.
* `ClashesInQuote`: A mark moves inside a quote, to a mark that it clashes with.

## Theorems

* `clashFree_iff_apart`: A text has no clash if no character clashes with the next one.
* `apart_joinSeam_iff`: When two texts put together have no clash.
* `clashFree_normalizePunctuation_iff`: When settled runs have no clash.
* `closedQuestion_clashes`: A question in quotes with a full stop behind it.
-/

namespace CslProcessor

namespace Runs

/-- No two marks that stand side by side in a text clash. -/
def ClashFree (text : String) : Prop :=
  ∀ pair ∈ clashes, ¬ [pair.1, pair.2] <:+: text.toList

instance (text : String) : Decidable (ClashFree text) :=
  inferInstanceAs (Decidable (∀ pair ∈ clashes, ¬ [pair.1, pair.2] <:+: text.toList))

/-- The text behind a seam starts with a full stop or comma that moves inside the quote before the
    seam, and the last character there is a mark that it clashes with. -/
def ClashesInQuote (before after : List Char) : Prop :=
  ∃ front last mark rest, before = front ++ [last, '”'] ∧ after = mark :: rest ∧
    (mark = '.' ∨ mark = ',') ∧ Clash last mark

/-- No character clashes with the next one. -/
abbrev Apart (cs : List Char) : Prop :=
  cs.IsChain fun a b => ¬ Clash a b

/-- A text has no clash if no character clashes with the next one. -/
theorem clashFree_iff_apart (text : String) : ClashFree text ↔ Apart text.toList := by
  rw [Apart, List.isChain_iff_forall_rel_of_append_cons_cons, ClashFree]
  constructor
  · intro h a b front behind heq hclash
    refine h (a, b) hclash ⟨front, behind, ?_⟩
    rw [heq, List.append_assoc]
    rfl
  · rintro h ⟨a, b⟩ hclash ⟨front, behind, heq⟩
    have hsplit : text.toList = front ++ a :: b :: behind := by
      rw [← heq, List.append_assoc]
      rfl
    exact h hsplit hclash

-- A mark behind a dropped one that clashes with the mark in front of it clashes with that one too.
theorem Clash.next {last mark c : Char} (h : Clash last mark) (hc : Clash last c) :
    Clash mark c := by
  simp only [Clash, clashes, List.mem_cons, List.not_mem_nil, Prod.mk.injEq, or_false] at h hc ⊢
  grind

-- A mark that moves meets no mark that it clashes with where none stands before the quote.
theorem not_clashesInQuote_of_getLast? {before : List Char} {last : Char}
    (h : before.getLast? = some last) (hne : last ≠ '”') (after : List Char) :
    ¬ ClashesInQuote before after := by
  rintro ⟨front, x, mark, rest, rfl, -⟩
  rw [List.append_cons, List.getLast?_concat, Option.some.injEq] at h
  exact hne h.symm

-- Two texts put together with nothing at the seam.
theorem apart_append_iff {before after : List Char} (h : Apart after)
    (hseam : ∀ last ∈ before.getLast?, ∀ c ∈ after.head?, ¬ Clash last c) :
    Apart (before ++ after) ↔ Apart before := by
  rw [Apart, List.isChain_append]
  exact ⟨fun h => h.1, fun hbefore => ⟨hbefore, h, hseam⟩⟩

-- A mark that stands between a text and a closing quote.
theorem apart_tucked_iff (front : List Char) (mark : Char) :
    Apart (front ++ [mark, '”']) ↔
      Apart (front ++ ['”']) ∧ ∀ last ∈ front.getLast?, ¬ Clash last mark := by
  have hquote : ∀ c, ¬ Clash c '”' := fun c => (not_clash_quote c).2
  simp only [Apart, List.isChain_append, List.isChain_cons_cons, List.IsChain.singleton, hquote,
    List.head?_cons, Option.mem_def, Option.some.injEq, forall_eq', not_false_eq_true, and_true,
    true_and, implies_true]

-- Where a mark moves, the clash it may have is with the last character before the quote.
theorem clashesInQuote_tucked_iff {front after : List Char} {mark : Char}
    (hmark : mark = '.' ∨ mark = ',') :
    ClashesInQuote (front ++ ['”']) (mark :: after) ↔ ∃ last ∈ front.getLast?, Clash last mark := by
  constructor
  · rintro ⟨front', last, mark', rest, hbefore, hafter, -, hclash⟩
    rw [List.append_cons front', List.append_cancel_right_eq] at hbefore
    rw [List.cons.injEq] at hafter
    rw [hbefore, hafter.1]
    exact ⟨last, List.getLast?_concat, hclash⟩
  · rintro ⟨last, hlast, hclash⟩
    rcases List.getLast?_eq_some_iff.1 hlast with ⟨front', rfl⟩
    exact ⟨front', last, mark, after, by simp, rfl, hmark, hclash⟩

/-- Two texts without a clash have none when they are put together, unless a mark moves inside a
    quote and meets a mark there that it clashes with. -/
theorem apart_joinSeam_iff (piq : Bool) {before after : List Char} (h : Apart after) :
    Apart (joinSeam piq before after) ↔
      Apart before ∧ (piq = true → ¬ ClashesInQuote before after) := by
  have hseam := seam_settleSeam piq before after
  rw [joinSeam]
  generalize settleSeam piq before after = settled at hseam ⊢
  cases hseam with
  | @blanks _ dropped after hlast hdropped =>
      have hafter : Apart after := (List.isChain_append.1 h).2.1
      have hquiet := not_clashesInQuote_of_getLast? hlast (by decide) (dropped ++ after)
      rw [apart_append_iff hafter]
      · exact (and_iff_left fun _ => hquiet).symm
      · rw [hlast]
        rintro last ⟨⟩ c -
        exact (not_clash_blank c).1
  | @double _ after last mark hlast hclash =>
      have hne : last ≠ '”' := by
        rintro rfl
        exact (not_clash_quote mark).1 hclash
      have hquiet := not_clashesInQuote_of_getLast? hlast hne (mark :: after)
      have hafter : Apart after := h.tail
      rw [apart_append_iff hafter]
      · exact (and_iff_left fun _ => hquiet).symm
      · rw [hlast]
        rintro last' ⟨⟩ c hc hnext
        rcases List.head?_eq_some_iff.1 hc with ⟨rest, rfl⟩
        exact (List.isChain_cons_cons.1 h).1 (hclash.next hnext)
  | @tucked front after mark hquote hmark =>
      have hafter : Apart after := h.tail
      rw [apart_append_iff hafter, apart_tucked_iff, clashesInQuote_tucked_iff hmark]
      · simp [hquote]
      · rw [List.append_cons, List.getLast?_concat]
        rintro last ⟨⟩ c -
        exact (not_clash_quote c).1
  | kept hclash htuck =>
      rw [apart_append_iff h hclash]
      refine (and_iff_left fun hpiq => ?_).symm
      rintro ⟨front, last, mark, rest, rfl, rfl, hmark, -⟩
      exact htuck hpiq ⟨by simp, mark, rfl, hmark⟩

/-- Where no run has a clash, the settled runs have one exactly if a full stop or comma moves inside
    a closing quote in front of which stands a mark that it clashes with. So they never have one if
    marks do not move inside quotes. -/
theorem clashFree_normalizePunctuation_iff (piq : Bool) (runs : List TextRun)
    (h : ∀ r ∈ runs, ClashFree r.text) :
    ClashFree (plainText (normalizePunctuation piq runs)) ↔
      (piq = true → ∀ before r, before ++ [r] <+: runs →
        ¬ ClashesInQuote (plainText (normalizePunctuation true before)).toList r.text.toList) := by
  rw [clashFree_iff_apart, toList_normalizePunctuation]
  induction runs using List.reverseRecOn with
  | nil => simp [Apart]
  | append_singleton runs r ih =>
      have hr : Apart r.text.toList :=
        (clashFree_iff_apart _).1 (h r (List.mem_append_right runs List.mem_cons_self))
      have hruns := ih fun r' hr' => h r' (List.mem_append_left [r] hr')
      rw [List.map_append, List.foldl_append, List.map_singleton, List.foldl_cons, List.foldl_nil,
        apart_joinSeam_iff piq hr, hruns, ← imp_and]
      refine imp_congr_right fun hpiq => ?_
      rw [hpiq, ← toList_normalizePunctuation]
      constructor
      · rintro ⟨hearlier, hlast⟩ before r' hprefix
        rcases List.prefix_concat_iff.1 hprefix with heq | hprefix
        · rcases List.append_inj' heq rfl with ⟨rfl, hr'⟩
          rw [List.singleton_inj.1 hr']
          exact hlast
        · exact hearlier before r' hprefix
      · intro hall
        refine ⟨fun before r' hprefix => hall before r' ?_, hall runs r (List.prefix_refl _)⟩
        exact hprefix.trans (List.prefix_append runs [r])

/-- A title in quotes and the year. -/
def quotedTitle : List TextRun :=
  [.punctuation "“", { text := "Why", tag := .title, variableName := some "title" },
    .punctuation "”", .punctuation ", ", { text := "1493", tag := .year }]

-- The comma moves inside the quote, where it meets a letter.
theorem clashFree_normalizePunctuation_iff_quotedTitle :
    (∀ r ∈ quotedTitle, ClashFree r.text) ∧
      plainText (normalizePunctuation true quotedTitle) = "“Why,” 1493" ∧
      ∀ before r, before ++ [r] <+: quotedTitle →
        ¬ ClashesInQuote (plainText (normalizePunctuation true before)).toList r.text.toList := by
  have hruns : ∀ r ∈ quotedTitle, ClashFree r.text := by decide
  have htext : plainText (normalizePunctuation true quotedTitle) = "“Why,” 1493" := by decide
  have hfree : ClashFree (plainText (normalizePunctuation true quotedTitle)) := by
    rw [htext]
    decide
  exact ⟨hruns, htext, (clashFree_normalizePunctuation_iff true quotedTitle hruns).1 hfree rfl⟩

/-- A question in quotes with a full stop behind it. -/
def closedQuestion : List TextRun :=
  [{ text := "Why?", tag := .title, variableName := some "title" }, .punctuation "”",
    .punctuation "."]

/-- The full stop moves inside the quote and stands behind the question mark. -/
theorem closedQuestion_clashes :
    (∀ r ∈ closedQuestion, ClashFree r.text) ∧
      plainText (normalizePunctuation true closedQuestion) = "Why?.”" ∧
      ¬ ClashFree (plainText (normalizePunctuation true closedQuestion)) := by
  have htext : plainText (normalizePunctuation true closedQuestion) = "Why?.”" := by decide
  refine ⟨by decide, htext, ?_⟩
  rw [htext]
  decide

end Runs

end CslProcessor
