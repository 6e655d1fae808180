import CslProcessor.Proofs.Collection.Prefix
import CslProcessor.Text.Basic
import Mathlib.Data.List.Basic
import Mathlib.Data.List.Induction
import Mathlib.Tactic.SplitIfs

/-!
# Text without white space around it

A text is bare if neither its first nor its last character is white space. The empty text is bare,
and so it does not matter to what is put together from bare texts which of them are empty. Between
two texts that are not empty anything may stand.

## Main definitions

* `Bare`: No white space at the ends of a text.

## Theorems

* `bare_trim`: Trimmed text is bare.
* `Bare.append`, `Bare.around`: Bare texts in sequence.
* `bare_joinWords`, `joinWords_eq_empty_iff`: Joined words.
-/

namespace CslProcessor

namespace Text

open Unicode (isSpace)

/-- There is no white space at either end of a text. -/
structure Bare (s : String) : Prop where
  head : ∀ c ∈ s.toList.head?, isSpace c = false
  last : ∀ c ∈ s.toList.getLast?, isSpace c = false

theorem bare_empty : Bare "" :=
  ⟨by simp, by simp⟩

/-- Trimmed text is bare. -/
theorem bare_trim (cs : List Char) : Bare (String.ofList (trim cs)) := by
  constructor
  · rw [String.toList_ofList]
    exact fun c hc => eq_false_of_head_strip hc
  · rw [String.toList_ofList]
    exact fun c hc => eq_false_of_getLast_strip hc

theorem bare_of_trimmed {s : String} (h : trimmed s = s) : Bare s :=
  h ▸ bare_trim s.toList

theorem toList_ne_nil {s : String} (h : s ≠ "") : s.toList ≠ [] := by
  simpa using h

section

variable {a b : String}

-- An end of a sequence is an end of the text that stands there.
theorem head_toList_append (h : a ≠ "") : (a ++ b).toList.head? = a.toList.head? := by
  rw [String.toList_append, List.head?_append_of_ne_nil _ (toList_ne_nil h)]

theorem getLast_toList_append (h : b ≠ "") : (a ++ b).toList.getLast? = b.toList.getLast? := by
  rw [String.toList_append, List.getLast?_append_of_ne_nil _ (toList_ne_nil h)]

/-- Bare texts that are not empty, with anything in between. -/
theorem Bare.around (ha : Bare a) (hb : Bare b) (hane : a ≠ "") (hbne : b ≠ "") (mid : String) :
    Bare (a ++ mid ++ b) := by
  constructor
  · rw [String.append_assoc, head_toList_append hane]
    exact ha.head
  · rw [getLast_toList_append hbne]
    exact hb.last

theorem Bare.append (ha : Bare a) (hb : Bare b) : Bare (a ++ b) := by
  by_cases hane : a = ""
  · rwa [hane, String.empty_append]
  by_cases hbne : b = ""
  · rwa [hbne, String.append_empty]
  · simpa using ha.around hb hane hbne ""

end

/-! ## Joined words -/

theorem bare_addWord {joined word : String} (hjoined : Bare joined) (hword : Bare word) :
    Bare (addWord joined word) := by
  unfold addWord
  split_ifs with hempty hdirect
  · exact hjoined
  · exact hjoined.append hword
  · rw [Bool.or_eq_true, not_or, String.isEmpty_iff] at hdirect
    rw [String.isEmpty_iff] at hempty
    exact hjoined.around hword hdirect.1 hempty " "

theorem addWord_eq_empty_iff {joined word : String} :
    addWord joined word = "" ↔ joined = "" ∧ word = "" := by
  unfold addWord
  split_ifs <;> simp_all

/-- Words that are bare are bare together. -/
theorem bare_joinWords {ws : List String} (h : ∀ w ∈ ws, Bare w) : Bare (joinWords ws) := by
  induction ws using List.reverseRecOn with
  | nil => exact bare_empty
  | append_singleton ws w ih =>
      rw [joinWords, List.foldl_append, ← joinWords]
      exact bare_addWord (ih fun w' hw' => h w' (List.mem_append_left _ hw'))
        (h w (List.mem_append_right _ List.mem_cons_self))

/-- Joined words are empty if all the words are. -/
theorem joinWords_eq_empty_iff {ws : List String} : joinWords ws = "" ↔ ∀ w ∈ ws, w = "" := by
  induction ws using List.reverseRecOn with
  | nil => simp
  | append_singleton ws w ih =>
      rw [joinWords, List.foldl_append, ← joinWords, List.foldl_cons, List.foldl_nil,
        addWord_eq_empty_iff, ih, List.forall_mem_append, List.forall_mem_singleton]

end Text

end CslProcessor
