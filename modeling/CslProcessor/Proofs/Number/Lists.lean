import CslProcessor.Proofs.Number.Ranges
import CslProcessor.Proofs.Sequence

/-!
# Lists of ranges

A list of ranges is taken apart at its commas and ampersands, and the white space around them goes
with them. Nothing of what stands between two members is changed, and white space at the ends of a
member stays as it is. So a list is printed as if it had been taken apart at the marks alone, and
that is the form in which lists can be printed twice: a printed member has no marks that it did not
have before.

A list can be printed with any delimiter as long as there are only ranges in it. Anything else needs
a template, and with a delimiter that is none there is nothing to print then.

## Main definitions

* `mapPieces`: A map applied to the pieces of a text between marks.
* `NeedsTemplate`: Lists with something in them that is no range.

## Theorems

* `mapPieces_append_cons`, `mapPieces_mapPieces`: The first piece, and two maps one behind the
  other.
* `formatPages_eq`: With a plain delimiter a list is printed piece by piece.
* `formatPages_eq_error_iff`: Which lists cannot be printed.
* `collapsed_expands`: Collapsed ranges can be read back.
-/

namespace CslProcessor

namespace PageRange

open Unicode

/-! ## Pieces between marks -/

/-- Applies a map to the maximal pieces of a text that are free of some marks. -/
def mapPieces (isMark : Char → Bool) (f : List Char → List Char) (cs : List Char) : List Char :=
  match h : cs.dropWhile (!isMark ·) with
  | [] => f cs
  | mark :: rest =>
    have : rest.length < cs.length := by
      have hle : (cs.dropWhile (!isMark ·)).length ≤ cs.length :=
        (List.dropWhile_sublist _).length_le
      rw [h] at hle
      exact hle
    f (cs.takeWhile (!isMark ·)) ++ mark :: mapPieces isMark f rest
termination_by cs.length

-- Where no mark is found, there is none.
theorem dropWhile_eq_nil_iff_unmarked {isMark : Char → Bool} {cs : List Char} :
    cs.dropWhile (!isMark ·) = [] ↔ ∀ c ∈ cs, isMark c = false := by
  simp only [List.dropWhile_eq_nil_iff, Bool.not_eq_true']

-- What stands in front of the first mark, the mark, and the rest.
theorem eq_of_dropWhile_eq_cons {isMark : Char → Bool} {cs rest : List Char} {mark : Char}
    (h : cs.dropWhile (!isMark ·) = mark :: rest) :
    (∀ c ∈ cs.takeWhile (!isMark ·), isMark c = false) ∧ isMark mark = true ∧
      cs = cs.takeWhile (!isMark ·) ++ mark :: rest := by
  refine ⟨fun c hc => by simpa using List.mem_takeWhile_imp hc, ?_, ?_⟩
  · simpa using eq_false_of_dropWhile_eq_cons h
  · rw [← h, List.takeWhile_append_dropWhile]

section

variable {isMark : Char → Bool} {f g : List Char → List Char}

theorem mapPieces_of_unmarked {cs : List Char} (h : ∀ c ∈ cs, isMark c = false) :
    mapPieces isMark f cs = f cs := by
  rw [mapPieces]
  split
  · rfl
  · rename_i mark rest hdrop
    rw [dropWhile_eq_nil_iff_unmarked.2 h] at hdrop
    cases hdrop

theorem mapPieces_append_cons {l rest : List Char} {mark : Char}
    (hl : ∀ c ∈ l, isMark c = false) (hmark : isMark mark = true) :
    mapPieces isMark f (l ++ mark :: rest) = f l ++ mark :: mapPieces isMark f rest := by
  have hfree : ∀ c ∈ l, (!isMark c) = true := fun c hc => by rw [hl c hc, Bool.not_false]
  have hhead : ∀ c ∈ (mark :: rest).head?, (!isMark c) = false := fun c hc => by
    rw [← Option.mem_some_iff.1 hc, hmark, Bool.not_true]
  rw [mapPieces]
  split
  · rename_i hdrop
    rw [dropWhile_append_of_head hfree hhead] at hdrop
    cases hdrop
  · rename_i mark' rest' hdrop
    rw [dropWhile_append_of_head hfree hhead] at hdrop
    cases hdrop
    rw [takeWhile_append_of_head hfree hhead]

/-- Pieces between marks that are mapped twice are mapped by the composition, if the first map makes
    no new marks. -/
theorem mapPieces_mapPieces
    (hf : ∀ l : List Char, (∀ c ∈ l, isMark c = false) → ∀ c ∈ f l, isMark c = false)
    (cs : List Char) :
    mapPieces isMark g (mapPieces isMark f cs) = mapPieces isMark (fun l => g (f l)) cs := by
  fun_induction mapPieces isMark f cs with
  | case1 cs hdrop =>
      have hcs := dropWhile_eq_nil_iff_unmarked.1 hdrop
      rw [mapPieces_of_unmarked hcs, mapPieces_of_unmarked (hf cs hcs)]
  | case2 cs mark rest hdrop _ ih =>
      rcases eq_of_dropWhile_eq_cons hdrop with ⟨hfree, hmark, hcs⟩
      rw [mapPieces_append_cons (hf _ hfree) hmark, ih]
      conv => rhs; rw [hcs]
      rw [mapPieces_append_cons hfree hmark]

end

/-! ## Lists -/

-- White space is no mark of a list.
theorem isListMark_eq_false_of_isSpace {c : Char} (h : isSpace c = true) :
    isListMark c = false := by
  refine Bool.eq_false_iff.2 fun hmark => ?_
  rw [isListMark, Bool.or_eq_true, beq_iff_eq, beq_iff_eq] at hmark
  rcases hmark with rfl | rfl <;> exact absurd h (by decide)

/-- White space in front of a list stays in front of it. -/
theorem mapPieces_append_of_isSpace {w : List Char} (hw : ∀ c ∈ w, isSpace c = true)
    (format : Option PageRangeFormat) (d cs : List Char) :
    mapPieces isListMark (printPiece format d) (w ++ cs) =
      w ++ mapPieces isListMark (printPiece format d) cs := by
  have hfree : ∀ c ∈ w, isListMark c = false := fun c hc => isListMark_eq_false_of_isSpace (hw c hc)
  have happend : ∀ l : List Char, (∀ c ∈ l, isListMark c = false) →
      ∀ c ∈ w ++ l, isListMark c = false := fun l hl c hc =>
    (List.mem_append.1 hc).elim (hfree c) (hl c)
  cases hdrop : cs.dropWhile (!isListMark ·) with
  | nil =>
      have hcs := dropWhile_eq_nil_iff_unmarked.1 hdrop
      rw [mapPieces_of_unmarked hcs, mapPieces_of_unmarked (happend cs hcs),
        printPiece_append_left hw]
  | cons mark rest =>
      rcases eq_of_dropWhile_eq_cons hdrop with ⟨hl, hmark, hcs⟩
      rw [hcs, ← List.append_assoc, mapPieces_append_cons (happend _ hl) hmark,
        mapPieces_append_cons hl hmark, printPiece_append_left hw, List.append_assoc]

-- A text without the white space behind it, and that white space.
theorem exists_append_trimEnd (cs : List Char) :
    ∃ w, cs = Text.trimEnd cs ++ w ∧ ∀ c ∈ w, isSpace c = true := by
  refine ⟨(cs.reverse.takeWhile isSpace).reverse, ?_, fun c hc => ?_⟩
  · rw [Text.trimEnd, ← List.reverse_append, takeWhile_append_trimStart, List.reverse_reverse]
  · exact List.mem_takeWhile_imp (List.mem_reverse.1 hc)

/-- The members of a list and what stands between them are printed as the pieces between the marks
    are. -/
theorem flatMap_splitList (format : Option PageRangeFormat) (d cs : List Char) :
    (splitList cs).flatMap (printPiece format d) =
      mapPieces isListMark (printPiece format d) cs := by
  fun_induction splitList cs with
  | case1 cs hdrop =>
      have hcs := dropWhile_eq_nil_iff_unmarked.1 hdrop
      rw [mapPieces_of_unmarked hcs, List.flatMap_singleton]
  | case2 cs mark rest hdrop _ front member ih =>
      rcases eq_of_dropWhile_eq_cons hdrop with ⟨hl, hmark, hcs⟩
      rcases exists_append_trimEnd front with ⟨w, hfront, hw⟩
      have hbetween : front.drop member.length = w := by
        conv => lhs; rw [hfront]
        exact List.drop_left
      have hv : ∀ c ∈ rest.takeWhile isSpace, isSpace c = true := fun _ hc =>
        List.mem_takeWhile_imp hc
      have hidle : ∀ c ∈ w ++ mark :: rest.takeWhile isSpace, isWord c = false := by
        intro c hc
        rcases List.mem_append.1 hc with hc | hc
        · exact isWord_eq_false_of_isSpace (hw c hc)
        · rcases List.mem_cons.1 hc with rfl | hc
          · exact isWord_eq_false_of_isListMark hmark
          · exact isWord_eq_false_of_isSpace (hv c hc)
      have hmember : printPiece format d front = printPiece format d member ++ w := by
        conv => lhs; rw [hfront]
        exact printPiece_append_right hw format d member
      have hrest : mapPieces isListMark (printPiece format d) rest =
          rest.takeWhile isSpace ++
            mapPieces isListMark (printPiece format d) (Text.trimStart rest) := by
        conv => lhs; rw [← takeWhile_append_trimStart rest]
        exact mapPieces_append_of_isSpace hv format d _
      rw [hbetween, List.flatMap_cons, List.flatMap_cons, ih, printPiece_of_isWord hidle]
      conv => rhs; rw [hcs]
      rw [mapPieces_append_cons hl hmark, hrest]
      change _ = printPiece format d front ++ _
      rw [hmember]
      simp only [List.append_assoc, List.cons_append]

/-- With a plain delimiter a list is printed piece by piece. -/
theorem formatPages_eq {d : List Char} (hd : '\\' ∉ d) (format : Option PageRangeFormat)
    (cs : List Char) :
    formatPages format d cs = .ok (mapPieces isListMark (printPiece format d) cs) := by
  have hpieces : formatPiece format d = fun piece => .ok (printPiece format d piece) :=
    funext (formatPiece_eq hd format)
  have hmap : ∀ l : List (List Char), l.mapM (formatPiece format d) =
      .ok (l.map (printPiece format d)) := fun l => by
    rw [hpieces]
    exact List.mapM_pure
  rw [formatPages, hmap, ← flatMap_splitList]
  rfl

/-- Something in a list, or between its members, is neither a range nor blanks and marks. -/
def NeedsTemplate (cs : List Char) : Prop :=
  ∃ piece ∈ splitList cs, read? piece = none ∧ isIdle piece = false

-- A text without marks is the only member of its list.
theorem needsTemplate_iff_of_unmarked {cs : List Char} (h : cs.any isListMark = false) :
    NeedsTemplate cs ↔ read? cs = none ∧ isIdle cs = false := by
  have hfree : ∀ c ∈ cs, isListMark c = false := by simpa using h
  have hsplit : splitList cs = [cs] := by
    rw [splitList]
    split
    · rfl
    · rename_i mark rest hdrop
      rw [dropWhile_eq_nil_iff_unmarked.2 hfree] at hdrop
      cases hdrop
  simp only [NeedsTemplate, hsplit, List.mem_singleton, exists_eq_left]

theorem formatPiece_eq_error_iff {format : Option PageRangeFormat} {d cs : List Char}
    {e : TemplateError} : formatPiece format d cs = .error e ↔
      Template.read d = .error e ∧ read? cs = none ∧ isIdle cs = false := by
  unfold formatPiece
  cases read? cs with
  | some r => simp only [reduceCtorEq, false_and, and_false]
  | none =>
      cases isIdle cs with
      | true => simp only [if_true, reduceCtorEq, and_false]
      | false =>
          unfold normalize
          cases Template.read d <;> simp [Except.map]

/-- A list cannot be printed if its delimiter is no template and one would be needed. -/
theorem formatPages_eq_error_iff {format : Option PageRangeFormat} {d cs : List Char}
    {e : TemplateError} : formatPages format d cs = .error e ↔
      Template.read d = .error e ∧ NeedsTemplate cs := by
  have hsame : ∀ piece piece' e e', formatPiece format d piece = .error e →
      formatPiece format d piece' = .error e' → e = e' := fun _ _ _ _ h h' =>
    Except.error.inj ((formatPiece_eq_error_iff.1 h).1.symm.trans (formatPiece_eq_error_iff.1 h').1)
  have hlist : formatPages format d cs = .error e ↔
      (splitList cs).mapM (formatPiece format d) = .error e := by
    unfold formatPages
    rw [exceptBind_eq_error_iff]
    exact or_iff_left fun ⟨_, _, h⟩ => nomatch h
  rw [hlist, exceptMapM_eq_error_iff hsame]
  simp only [formatPiece_eq_error_iff, NeedsTemplate]
  constructor
  · rintro ⟨piece, hpiece, ht, hneeds⟩
    exact ⟨ht, piece, hpiece, hneeds⟩
  · rintro ⟨ht, piece, hpiece, hneeds⟩
    exact ⟨piece, hpiece, ht, hneeds⟩

-- Formatting puts no mark of a list into a member of it.
theorem isListMark_printPiece {format : Option PageRangeFormat} {cs : List Char}
    (h : ∀ c ∈ cs, isListMark c = false) :
    ∀ c ∈ printPiece format ['–'] cs, isListMark c = false := by
  intro c hc
  rcases mem_printPiece hc with hc | hc
  · exact h c hc
  · rw [List.mem_singleton.1 hc]
    decide

/-- Collapsed ranges can be read back. The end of a range in any form gives the end itself, once the
    leading digits that it left out are filled in. And a text is printed with all its ranges in some
    form, or with their ends as they were written, and what is printed is printed in full as the
    text itself is. -/
theorem collapsed_expands :
    (∀ (format : Option PageRangeFormat) (start stop : List Char),
      expandEnd start (collapseEnd format start stop) = expandEnd start stop) ∧
    ∀ (format : Option PageRangeFormat) (cs : List Char), ∃ out,
      formatPages format ['–'] cs = .ok out ∧
        formatPages (some .expanded) ['–'] out = formatPages (some .expanded) ['–'] cs := by
  refine ⟨expandEnd_collapseEnd, fun format cs => ?_⟩
  have hdash : '\\' ∉ ['–'] := by decide
  refine ⟨_, formatPages_eq hdash format cs, ?_⟩
  rw [formatPages_eq hdash, formatPages_eq hdash,
    mapPieces_mapPieces fun _ => isListMark_printPiece]
  exact congrArg (Except.ok <| mapPieces isListMark · cs) (funext (printPiece_printPiece format))

end PageRange

end CslProcessor
