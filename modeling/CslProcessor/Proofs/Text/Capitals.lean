import CslProcessor.Text.Case
import CslProcessor.Proofs.Unicode.Classes
import Mathlib.Data.List.Basic

/-!
# Capitals inside words

A transform that capitalizes words works on the words of one segment at a time. Its changes are
written down here character by character, so that it can be said which character a capital comes
from, also where a character becomes two.

Inside a segment, only the first character of a word gets a capital, and whatever stands behind a
letter or numeral is not the first character of a word. A segment can break off inside a word,
though, and its first letter then counts as the first letter of a word wherever the segment before
it ends. `isCapitalized_iff_of_getLast` says that this is the only place where a letter behind a
letter or numeral gets a capital, and `recase_splitSurname` shows such a place.

## Main definitions

* `Turned`: A character with what takes its place.
* `WordChange`, `wordChange`: What a transform does to a word as a whole.
* `turnPieces`, `turnsIn`: What becomes of the characters of one segment among others.
* `IsTitled`: A word that gets a capital in the middle of a title.

## Theorems

* `text_turn`, `getElem_recase`: The changes of the characters together are what the transform
  makes of a word, and of a segment.
* `isCapitalized_turn_iff`: The capitals of a changed word come from its first character.
* `not_isCapitalized_of_getLast`: A letter behind a letter or numeral of its segment gets no
  capital.
* `isCapitalized_iff_of_getLast`: The letters behind a letter or numeral that get a capital.
-/

namespace CslProcessor

/-- The transforms that put capitals in front of words and do nothing else to small letters. -/
def TextCase.capitalizes : TextCase → Bool
  | .capitalizeFirst | .capitalizeAll | .title => true
  | .lowercase | .uppercase | .sentence => false

namespace Text

open Unicode

/-! ## What becomes of a character -/

/-- A character with what takes its place. -/
structure Turned where
  /-- The character. -/
  char : Char
  /-- What it becomes. -/
  image : List Char
  deriving DecidableEq

namespace Turned

/-- A character that stays. -/
def same (c : Char) : Turned :=
  { char := c, image := [c] }

/-- The characters before a change. -/
def chars (ts : List Turned) : List Char :=
  ts.map char

/-- The text after a change. -/
def text (ts : List Turned) : List Char :=
  ts.flatMap image

/-- A character has become a capital, or several characters with a capital among them. -/
def IsCapitalized (t : Turned) : Prop :=
  t.image ≠ [t.char] ∧ ∃ c ∈ t.image, isUppercase c = true

@[simp]
theorem chars_append (a b : List Turned) : chars (a ++ b) = chars a ++ chars b :=
  List.map_append

@[simp]
theorem text_append (a b : List Turned) : text (a ++ b) = text a ++ text b :=
  List.flatMap_append

@[simp]
theorem chars_map_same (cs : List Char) : chars (cs.map same) = cs := by
  simp [chars, same, Function.comp_def]

@[simp]
theorem text_map_same (cs : List Char) : text (cs.map same) = cs := by
  simp [text, same, List.flatMap_map]

theorem not_isCapitalized_same (c : Char) : ¬ (same c).IsCapitalized :=
  fun h => h.1 rfl

theorem not_isCapitalized_of_mem_map_same {cs : List Char} {t : Turned} (h : t ∈ cs.map same) :
    ¬ t.IsCapitalized := by
  rcases List.mem_map.1 h with ⟨c, -, rfl⟩
  exact not_isCapitalized_same c

end Turned

open Turned

/-! ## Changes of a word -/

/-- What a transform does to a word as a whole. -/
inductive WordChange
  /-- The word stays. -/
  | keep
  /-- Its first character gets into upper case. -/
  | capitalize
  /-- All of it gets into lower case. -/
  | lower
  /-- All of it gets into upper case. -/
  | raise
  deriving DecidableEq

/-- The characters of a text in lower case, whose part before the cursor is given in reverse. -/
def loweredFrom (reversed : List Char) : List Char → List Turned
  | [] => []
  | c :: rest =>
    { char := c
      image := if c == 'Σ' && meetsCased reversed && !meetsCased rest then ['ς'] else lowerChar c }
      :: loweredFrom (c :: reversed) rest

/-- The characters of a word under a change. -/
def WordChange.turn : WordChange → List Char → List Turned
  | keep, w => w.map same
  | capitalize, [] => []
  | capitalize, c :: cs => { char := c, image := upperChar c } :: cs.map same
  | lower, w => loweredFrom [] w
  | raise, w => w.map fun c => { char := c, image := upperChar c }

/-- What title case does to a word. -/
def titleChange (edge : Bool) (w : List Char) : WordChange :=
  if stopWords.contains (String.ofList (toLower w)) && !edge then
    if isLowerText w || isTitleForm w then .lower else .keep
  else if isLowerText w then .capitalize
  else .keep

/-- What sentence case does to a word. -/
def sentenceChange (first : Bool) (w : List Char) : WordChange :=
  if first then
    if isLowerText w then .capitalize else .keep
  else if isTitleForm w && w.length > 1 then .lower
  else .keep

/-- What a transform does to a word at a place. -/
def wordChange (case : TextCase) (place : WordPlace) (w : List Char) : WordChange :=
  match case with
  | .capitalizeFirst => if place.isFirst then .capitalize else .keep
  | .capitalizeAll => .capitalize
  | .title => titleChange (place.isFirst || place.isLast || place.afterColon) w
  | .sentence => sentenceChange (place.isFirst || place.afterColon) w
  | .lowercase => .lower
  | .uppercase => .raise

theorem text_loweredFrom (reversed cs : List Char) :
    text (loweredFrom reversed cs) = lowerFrom reversed cs := by
  induction cs generalizing reversed with
  | nil => rfl
  | cons c rest ih =>
      rw [loweredFrom, lowerFrom, ← ih]
      rfl

theorem chars_loweredFrom (reversed cs : List Char) : chars (loweredFrom reversed cs) = cs := by
  induction cs generalizing reversed with
  | nil => rfl
  | cons c rest ih => exact congrArg (c :: ·) (ih (c :: reversed))

theorem chars_turn (change : WordChange) (w : List Char) : chars (change.turn w) = w := by
  cases change with
  | keep => exact chars_map_same w
  | capitalize =>
      cases w with
      | nil => rfl
      | cons c cs => exact congrArg (c :: ·) (chars_map_same cs)
  | lower => exact chars_loweredFrom [] w
  | raise => simp [WordChange.turn, chars, Function.comp_def]

/-- The change of a word makes of it what the transform makes of it. -/
theorem text_turn (case : TextCase) (place : WordPlace) (w : List Char) :
    text ((wordChange case place w).turn w) = recaseWord case place w := by
  have hkeep : text (WordChange.keep.turn w) = w := text_map_same w
  have hlower : text (WordChange.lower.turn w) = toLower w := text_loweredFrom [] w
  have hraise : text (WordChange.raise.turn w) = toUpper w := by
    simp [WordChange.turn, text, toUpper, List.flatMap_map]
  have hcapitalize : text (WordChange.capitalize.turn w) = Text.capitalize w := by
    cases w with
    | nil => rfl
    | cons c cs => exact congrArg (upperChar c ++ ·) (text_map_same cs)
  cases case with
  | lowercase => exact hlower
  | uppercase => exact hraise
  | capitalizeFirst =>
      rw [wordChange, recaseWord]
      split
      · exact hcapitalize
      · exact hkeep
  | capitalizeAll => exact hcapitalize
  | title =>
      simp only [wordChange, recaseWord, titleChange, titleWord]
      split_ifs <;> assumption
  | sentence =>
      simp only [wordChange, recaseWord, sentenceChange, sentenceWord]
      split_ifs <;> assumption

/-! ## Changes of a segment -/

/-- What becomes of the characters of the pieces of one segment under a transform by words. The
    text before them is given in reverse. -/
def turnPieces (case : TextCase) (wordBefore wordAfter : Bool) (reversed : List Char) :
    List Piece → List Turned
  | [] => []
  | .gap c :: rest => same c :: turnPieces case wordBefore wordAfter (c :: reversed) rest
  | .word w :: rest =>
    (wordChange case
        { isFirst := !wordBefore
          isLast := !(wordAfter || rest.any Piece.isWord)
          afterColon := opensClause reversed } w).turn w
      ++ turnPieces case true wordAfter (w.reverse ++ reversed) rest

/-- The text of segments as a whole. -/
def joined (segments : List Segment) : List Char :=
  segments.flatMap fun s => s.text.toList

/-- What becomes of the characters of a segment between others under a transform by words. -/
def turnsIn (case : TextCase) (before : List Segment) (s : Segment) (behind : List Segment) :
    List Turned :=
  if s.verbatim then s.text.toList.map same
  else turnPieces case (before.any fun r => hasWord r.text) (behind.any fun r => hasWord r.text)
    (joined before).reverse (pieces s.text.toList)

theorem text_turnPieces (case : TextCase) (wordBefore wordAfter : Bool) (reversed : List Char)
    (ps : List Piece) :
    text (turnPieces case wordBefore wordAfter reversed ps) =
      recasePieces case wordBefore wordAfter reversed ps := by
  induction ps generalizing wordBefore reversed with
  | nil => rfl
  | cons p rest ih =>
      cases p with
      | gap c => exact congrArg (c :: ·) (ih wordBefore (c :: reversed))
      | word w =>
          rw [turnPieces, recasePieces, text_append, text_turn, ih]

theorem chars_turnPieces (case : TextCase) (wordBefore wordAfter : Bool) (reversed : List Char)
    (ps : List Piece) :
    chars (turnPieces case wordBefore wordAfter reversed ps) = ps.flatMap Piece.chars := by
  induction ps generalizing wordBefore reversed with
  | nil => rfl
  | cons p rest ih =>
      cases p with
      | gap c => exact congrArg (c :: ·) (ih wordBefore (c :: reversed))
      | word w =>
          rw [turnPieces, chars_append, chars_turn, ih, List.flatMap_cons, Piece.chars]

theorem chars_turnsIn (case : TextCase) (before : List Segment) (s : Segment)
    (behind : List Segment) : chars (turnsIn case before s behind) = s.text.toList := by
  rw [turnsIn]
  split
  · exact chars_map_same _
  · rw [chars_turnPieces, flatten_pieces]

theorem getElem_recaseSegments (case : TextCase) (wordBefore : Bool) (reversed : List Char)
    (before : List Segment) (s : Segment) (behind : List Segment) :
    (recaseSegments case wordBefore reversed (before ++ s :: behind))[before.length]? =
      some (if s.verbatim then s.text
        else String.ofList (recasePieces case (wordBefore || before.any fun r => hasWord r.text)
          (behind.any fun r => hasWord r.text) ((joined before).reverse ++ reversed)
          (pieces s.text.toList))) := by
  induction before generalizing wordBefore reversed with
  | nil => simp [recaseSegments, joined]
  | cons r before ih =>
      rw [List.cons_append, recaseSegments, List.length_cons, List.getElem?_cons_succ, ih]
      simp [joined, Bool.or_assoc]

/-- The transform makes of a segment what the changes of its characters make of it. -/
theorem getElem_recase {case : TextCase} (hcase : case.capitalizes = true)
    {before behind : List Segment} {s : Segment}
    (hcalm : isShouting (before ++ s :: behind) = false) :
    (recase case (before ++ s :: behind))[before.length]? =
      some (String.ofList (text (turnsIn case before s behind))) := by
  have hsegments : recase case (before ++ s :: behind) =
      recaseSegments case false [] (before ++ s :: behind) := by
    cases case with
    | capitalizeFirst => rfl
    | capitalizeAll => rfl
    | title => simp [recase, hcalm]
    | sentence => cases hcase
    | lowercase => cases hcase
    | uppercase => cases hcase
  rw [hsegments, getElem_recaseSegments, turnsIn]
  split
  · rw [text_map_same, String.ofList_toList]
  · rw [text_turnPieces, Bool.false_or, List.append_nil]

/-! ## Where capitals come from -/

/-- A character in upper case. -/
def raised (c : Char) : Turned :=
  { char := c, image := upperChar c }

-- The stop words have no capitals, and are the only words that title case puts in small letters.
theorem isUppercase_of_mem_stopWords {w : String} (hw : w ∈ stopWords) :
    ∀ c ∈ w.toList, isUppercase c = false := by
  have hall : (stopWords.all fun w => w.toList.all fun c => !isUppercase c) = true := by decide
  simpa only [List.all_eq_true, Bool.not_eq_true'] using List.all_eq_true.1 hall w hw

-- What a word can become, with the reason for small letters.
theorem wordChange_cases {case : TextCase} (hcase : case.capitalizes = true) (place : WordPlace)
    (w : List Char) :
    wordChange case place w = .keep ∨ wordChange case place w = .capitalize ∨
      wordChange case place w = .lower ∧ String.ofList (toLower w) ∈ stopWords := by
  cases case with
  | capitalizeFirst => simp only [wordChange]; split <;> simp
  | capitalizeAll => exact Or.inr (Or.inl rfl)
  | title =>
      simp only [wordChange, titleChange, Bool.and_eq_true, List.contains_iff_mem]
      split_ifs with hstop <;> simp [hstop]
  | sentence => cases hcase
  | lowercase => cases hcase
  | uppercase => cases hcase

theorem not_isCapitalized_of_mem_loweredFrom {w : List Char} {t : Turned}
    (hstop : String.ofList (toLower w) ∈ stopWords) (ht : t ∈ loweredFrom [] w) :
    ¬ t.IsCapitalized := by
  rintro ⟨-, c, hc, hupper⟩
  have hmem : c ∈ toLower w := by
    rw [toLower, ← text_loweredFrom]
    exact List.mem_flatMap.2 ⟨t, ht, hc⟩
  have hsmall := isUppercase_of_mem_stopWords hstop c (by rwa [String.toList_ofList])
  rw [hsmall] at hupper
  cases hupper

/-- The capitals of a changed word come from its first character. -/
theorem isCapitalized_turn_iff {case : TextCase} (hcase : case.capitalizes = true)
    {place : WordPlace} {w : List Char} {a b : List Turned} {t : Turned}
    (hsplit : (wordChange case place w).turn w = a ++ t :: b) :
    t.IsCapitalized ↔
      a = [] ∧ wordChange case place w = .capitalize ∧ (raised t.char).IsCapitalized := by
  have hmem : t ∈ (wordChange case place w).turn w := by simp [hsplit]
  rcases wordChange_cases hcase place w with hkeep | hcapitalize | ⟨hlower, hstop⟩
  · rw [hkeep] at hmem ⊢
    simp [not_isCapitalized_of_mem_map_same hmem]
  · rw [hcapitalize] at hsplit ⊢
    cases w with
    | nil => simp [WordChange.turn] at hsplit
    | cons c cs =>
        cases a with
        | nil =>
            rw [← (List.cons.inj hsplit).1]
            simp [raised]
        | cons u a =>
            have hsame : t ∈ cs.map same := by simp [(List.cons.inj hsplit).2]
            simp [not_isCapitalized_of_mem_map_same hsame]
  · rw [hlower] at hmem ⊢
    simp [not_isCapitalized_of_mem_loweredFrom hstop hmem]

/-- A word with some text behind it that gets a capital in the middle of a title: it is in small
    letters, and either no stop word or the last word. -/
def IsTitled (w rest : List Char) : Prop :=
  isLowerText w = true ∧ (String.ofList (toLower w) ∈ stopWords → rest.any beginsWord = false)

/-- The transforms that capitalize a word in the middle of the text, behind a letter or numeral. -/
theorem wordChange_eq_capitalize_iff {case : TextCase} (hcase : case.capitalizes = true)
    (w rest : List Char) :
    wordChange case
        { isFirst := false, isLast := !rest.any beginsWord, afterColon := false } w = .capitalize ↔
      case = .capitalizeAll ∨ case = .title ∧ IsTitled w rest := by
  cases case with
  | capitalizeFirst => simp [wordChange]
  | capitalizeAll => simp [wordChange]
  | title =>
      simp only [wordChange, titleChange, IsTitled, Bool.and_eq_true, List.contains_iff_mem]
      split_ifs with hstop <;> simp_all
  | sentence => cases hcase
  | lowercase => cases hcase
  | uppercase => cases hcase

-- A letter or numeral is no end of a clause, and no white space that could stand behind one.
theorem opensClause_of_isAlphanumeric {c : Char} (hc : isAlphanumeric c = true)
    (reversed : List Char) : opensClause (c :: reversed) = false := by
  have hword : isWord c = true := by rw [isWord, hc, Bool.true_or]
  have hspace : isSpace c = false := by
    cases hspace : isSpace c with
    | false => rfl
    | true =>
        rw [isWord_eq_false_of_isSpace hspace] at hword
        cases hword
  have hmark : ∀ d ∈ [':', '?', '!'], (c == d) = false := by
    have hnone : ([':', '?', '!'].all fun d => !isAlphanumeric d) = true := by decide
    intro d hd
    rw [beq_eq_false_iff_ne]
    rintro rfl
    have hout := List.all_eq_true.1 hnone c hd
    rw [hc] at hout
    cases hout
  simp only [List.forall_mem_cons] at hmark
  simp [opensClause, trimStart, hspace, hmark]

theorem any_isWord_pieces (cs : List Char) : (pieces cs).any Piece.isWord = cs.any beginsWord := by
  fun_induction pieces cs with
  | case1 => rfl
  | case2 c rest hc ih => simp [Piece.isWord, hc]
  | case3 c rest hc ih => simp [Piece.isWord, hc, ih]

theorem getLast_chars_append {a e : List Turned} (he : e ≠ []) :
    (chars (a ++ e)).getLast? = (chars e).getLast? := by
  have hne : chars e ≠ [] := fun h => he (List.map_eq_nil_iff.1 h)
  rw [chars_append, List.getLast?_append_of_ne_nil _ hne]

-- What stands behind a word does not begin with a letter.
theorem not_isAlphabetic_of_dropWhile {case : TextCase} {wordBefore wordAfter : Bool}
    {reversed cs : List Char} {b : List Turned} {t : Turned}
    (h : turnPieces case wordBefore wordAfter reversed (pieces (cs.dropWhile insideWord)) =
      t :: b) : ¬ isAlphabetic t.char = true := by
  have hdrop : cs.dropWhile insideWord = t.char :: chars b := by
    rw [← flatten_pieces (cs.dropWhile insideWord), ← chars_turnPieces, h]
    rfl
  have hout := List.head?_dropWhile_not insideWord cs
  rw [hdrop] at hout
  intro ht
  simp [insideWord, isWord_of_isAlphabetic ht] at hout

/-- No letter is capitalized that stands behind a letter or numeral of its own segment. -/
theorem not_isCapitalized_of_getLast {case : TextCase} (hcase : case.capitalizes = true)
    {wordBefore wordAfter : Bool} {reversed cs : List Char} {a b : List Turned} {t : Turned}
    (hsplit : turnPieces case wordBefore wordAfter reversed (pieces cs) = a ++ t :: b)
    (ht : isAlphabetic t.char = true)
    (hlast : ∃ c ∈ (chars a).getLast?, isAlphanumeric c = true) : ¬ t.IsCapitalized := by
  have hne : a ≠ [] := by
    rintro rfl
    simp [chars] at hlast
  fun_induction pieces cs generalizing wordBefore reversed a with
  | case1 => simp [turnPieces] at hsplit
  | case2 c rest hc ih =>
      rw [turnPieces] at hsplit
      -- A word ends where the next character is no letter, so the letter is not the next one.
      have hbehind : ∀ e {wordBefore reversed},
          turnPieces case wordBefore wordAfter reversed (pieces (rest.dropWhile insideWord)) =
            e ++ t :: b →
          (e ≠ [] → ∃ c ∈ (chars e).getLast?, isAlphanumeric c = true) → ¬ t.IsCapitalized := by
        intro e wordBefore reversed he hlast
        cases e with
        | nil => exact absurd ht (not_isAlphabetic_of_dropWhile he)
        | cons u e => exact ih he (hlast (List.cons_ne_nil u e)) (List.cons_ne_nil u e)
      rcases List.append_eq_append_iff.1 hsplit with ⟨e, rfl, he⟩ | ⟨e, he, hrest⟩
      · refine hbehind e he fun hne => ?_
        rwa [← getLast_chars_append hne]
      · cases e with
        | nil => exact hbehind [] hrest.symm fun hne => absurd rfl hne
        | cons u e =>
            rw [← (List.cons.inj hrest).1] at he
            exact fun h => hne ((isCapitalized_turn_iff hcase he).1 h).1
  | case3 c rest hc ih =>
      rw [turnPieces] at hsplit
      cases a with
      | nil => exact absurd rfl hne
      | cons u a =>
          rcases List.cons.inj hsplit with ⟨rfl, hrest⟩
          cases a with
          | nil =>
              rcases hlast with ⟨d, hd, halnum⟩
              rw [← Option.mem_some_iff.1 hd] at halnum
              exact absurd halnum hc
          | cons u a =>
              have hne : u :: a ≠ [] := List.cons_ne_nil u a
              rw [← List.singleton_append, getLast_chars_append hne] at hlast
              exact ih hrest hlast hne

theorem any_joined (segments : List Segment) :
    (joined segments).any beginsWord = segments.any fun r => hasWord r.text := by
  simp only [joined, List.any_flatMap, hasWord]

-- Behind a letter or numeral no word is the first one, and none opens a clause.
theorem turnsIn_of_getLast {case : TextCase} {before behind : List Segment} {s : Segment}
    (hplain : s.verbatim = false) {c : Char} {rest : List Char}
    (htext : s.text.toList = c :: rest) (hc : isAlphabetic c = true)
    (hlast : ∃ p ∈ (joined before).getLast?, isAlphanumeric p = true) :
    ∃ turned, turnsIn case before s behind =
      (wordChange case
        { isFirst := false
          isLast := !(rest.dropWhile insideWord ++ joined behind).any beginsWord
          afterColon := false } (c :: rest.takeWhile insideWord)).turn
        (c :: rest.takeWhile insideWord) ++ turned := by
  rcases hlast with ⟨p, hp, halnum⟩
  have hbegins : beginsWord c = true := by rw [beginsWord, isAlphanumeric, hc, Bool.true_or]
  have hbefore : (before.any fun r => hasWord r.text) = true := by
    rw [← any_joined, List.any_eq_true]
    exact ⟨p, List.mem_of_getLast? hp, halnum⟩
  have hclause : opensClause (joined before).reverse = false := by
    rcases List.getLast?_eq_some_iff.1 hp with ⟨front, hfront⟩
    rw [hfront, List.reverse_append]
    exact opensClause_of_isAlphanumeric halnum front.reverse
  rw [turnsIn, if_neg (by simp [hplain]), htext, pieces, if_pos hbegins, turnPieces, hbefore,
    hclause, any_isWord_pieces, ← any_joined, List.any_append, Bool.or_comm]
  exact ⟨_, rfl⟩

-- The first character of a plain segment, behind a letter or numeral.
theorem isCapitalized_first_iff {case : TextCase} (hcase : case.capitalizes = true)
    {before behind : List Segment} {s : Segment} (hplain : s.verbatim = false) {b : List Turned}
    {t : Turned} (hsplit : turnsIn case before s behind = t :: b)
    (ht : isAlphabetic t.char = true)
    (hlast : ∃ c ∈ (joined before).getLast?, isAlphanumeric c = true) :
    t.IsCapitalized ↔ (raised t.char).IsCapitalized ∧
      (case = .capitalizeAll ∨
        case = .title ∧ IsTitled (s.text.toList.takeWhile insideWord)
          (s.text.toList.dropWhile insideWord ++ joined behind)) := by
  have htext : s.text.toList = t.char :: chars b := by
    rw [← chars_turnsIn case before s behind, hsplit]
    rfl
  have hinside : insideWord t.char = true := by simp [insideWord, isWord_of_isAlphabetic ht]
  rcases turnsIn_of_getLast hplain htext ht hlast with ⟨turned, hturned⟩
  rw [hsplit, ← List.takeWhile_cons_of_pos hinside, ← List.dropWhile_cons_of_pos hinside,
    ← htext] at hturned
  -- The change of a word that has a first character begins with that of the character.
  rcases List.cons_eq_append_iff.1 hturned with ⟨hnil, -⟩ | ⟨v, hturn, -⟩
  · have hword := congrArg chars hnil
    rw [chars_turn, htext, List.takeWhile_cons_of_pos hinside] at hword
    cases hword
  · rw [isCapitalized_turn_iff hcase (a := []) hturn, wordChange_eq_capitalize_iff hcase]
    tauto

/-- In text that is not all in capitals, the transforms that capitalize words put a capital behind a
    letter or numeral only in the place of the first letter of a plain segment: in every word if
    all words are capitalized, and in title case if the word that begins there is in small letters,
    unless it is a stop word with another word behind. If only the first word is capitalized, there
    is no such place. -/
theorem isCapitalized_iff_of_getLast {case : TextCase} (hcase : case.capitalizes = true)
    {before behind : List Segment} {s : Segment}
    (hcalm : isShouting (before ++ s :: behind) = false) {a b : List Turned} {t : Turned}
    (hsplit : turnsIn case before s behind = a ++ t :: b) (ht : isAlphabetic t.char = true)
    (hlast : ∃ c ∈ (joined before ++ chars a).getLast?, isAlphanumeric c = true) :
    s.text.toList = chars (a ++ t :: b) ∧
      (recase case (before ++ s :: behind))[before.length]? =
        some (String.ofList (text (a ++ t :: b))) ∧
      (t.IsCapitalized ↔
        a = [] ∧ s.verbatim = false ∧ (raised t.char).IsCapitalized ∧
          (case = .capitalizeAll ∨
            case = .title ∧ IsTitled (s.text.toList.takeWhile insideWord)
              (s.text.toList.dropWhile insideWord ++ joined behind))) := by
  have htext : s.text.toList = chars (a ++ t :: b) := by rw [← hsplit, chars_turnsIn]
  refine ⟨htext, hsplit ▸ getElem_recase hcase hcalm, ?_⟩
  cases hverbatim : s.verbatim with
  | true =>
      have hmem : t ∈ s.text.toList.map same := by
        rw [turnsIn, if_pos hverbatim] at hsplit
        simp [hsplit]
      simp [not_isCapitalized_of_mem_map_same hmem]
  | false =>
      cases a with
      | cons u a =>
          have hne : chars (u :: a) ≠ [] := List.cons_ne_nil _ _
          rw [List.getLast?_append_of_ne_nil _ hne] at hlast
          rw [turnsIn, if_neg (by simp [hverbatim])] at hsplit
          simp [not_isCapitalized_of_getLast hcase hsplit ht hlast]
      | nil =>
          rw [show chars [] = [] from rfl, List.append_nil] at hlast
          rw [isCapitalized_first_iff hcase hverbatim hsplit ht hlast]
          simp

/-- A surname whose first letter has been protected. -/
def splitSurname : List Segment :=
  [⟨"D", true⟩, ⟨"ijkstra", false⟩]

theorem isCapitalized_iff_of_getLast_splitSurname :
    (recase .title splitSurname)[1]? = some "Ijkstra" ∧ (raised 'i').IsCapitalized := by
  have hsplit : turnsIn .title [⟨"D", true⟩] ⟨"ijkstra", false⟩ [] =
      [] ++ raised 'i' :: "jkstra".toList.map same := by decide +kernel
  have htitle : TextCase.title.capitalizes = true := rfl
  have hlast : ∃ c ∈ (joined [⟨"D", true⟩] ++ chars []).getLast?, isAlphanumeric c = true :=
    ⟨'D', by decide, by decide⟩
  rcases isCapitalized_iff_of_getLast htitle (by decide) hsplit (by decide) hlast with
    ⟨-, hrecase, hiff⟩
  refine ⟨hrecase.trans (by decide +kernel), hiff.2 ⟨rfl, rfl, ?_, Or.inr ⟨rfl, by decide, ?_⟩⟩⟩
  · exact ⟨by decide, 'I', by decide, by decide⟩
  · exact fun _ => by decide

/-- The letter behind the protected one gets a capital, in the middle of the surname. -/
theorem recase_splitSurname :
    isShouting splitSurname = false ∧ joined splitSurname = 'D' :: 'i' :: "jkstra".toList ∧
      isAlphanumeric 'D' = true ∧ isAlphabetic 'i' = true ∧ isLowercase 'i' = true ∧
      isUppercase 'I' = true ∧ recase .title splitSurname = ["D", "Ijkstra"] := by
  decide +kernel

end Text

end CslProcessor
