import CslProcessor.Text.Marked
import CslProcessor.Proofs.Collection.Prefix

/-!
# Reading and writing marked text

A written text is read from its front. It begins with a span between braces, or with a character
that opens none, and the rest is read after that. So what was read is known by an induction over the
written text, one case for each way in which it can begin.

A text with spans is taken apart in the same manner: the text in front of the first span, the inside
of the span, and the rest, in which the other spans are laid. Writing and cutting into segments
follow these parts. That spans are laid in a text is the same as that each of them is part of it,
and none begins before the one in front of it has ended.

## Main definitions

* `Laid`: Spans one behind the other in a text.
* `verbatimSpans`: The positions of the verbatim segments.
* `bounds`: A span as a pair of positions.

## Theorems

* `written_induction`: How a written text begins.
* `laid_iff`, `laid_parseFrom`: When spans are laid in a text, and that those which are read are.
* `writeFrom_parseFrom`, `parseFrom_writeFrom`: What was read, written, and what was written, read.
* `toList_segmentsFrom`, `verbatimSpans_segmentsFrom`: The segments of a text.
* `ofSpans_bounds`, `wellFormed_of_ofSpans`: What passes the checks.
* `parse_write`: Marked text can be read and written.
-/

namespace CslProcessor

namespace MarkedText

/-! ## Reading -/

/-- What is read as the inside of a span stands in front of the next brace, which closes. -/
theorem closeSpan?_eq_some_iff {cs inner rest : List Char} :
    closeSpan? cs = some (inner, rest) ↔
      cs = inner ++ '\x7d' :: rest ∧ ∀ c ∈ inner, isBrace c = false := by
  constructor
  · intro h
    have hfree : ∀ c ∈ cs.takeWhile (!isBrace ·), isBrace c = false := fun c hc => by
      simpa using List.mem_takeWhile_imp hc
    unfold closeSpan? at h
    split at h
    · rename_i c tl hdrop
      split at h
      · rename_i hclose
        cases h
        refine ⟨?_, hfree⟩
        rw [← beq_iff_eq.1 hclose, ← hdrop, List.takeWhile_append_dropWhile]
      · cases h
    · cases h
  · rintro ⟨rfl, hinner⟩
    have hfree : ∀ c ∈ inner, (!isBrace c) = true := fun c hc => by rw [hinner c hc, Bool.not_false]
    have hbrace : ∀ c ∈ ('\x7d' :: rest).head?, (!isBrace c) = false := fun c hc => by
      rw [← Option.mem_some_iff.1 hc]
      rfl
    rw [closeSpan?, dropWhile_append_of_head hfree hbrace, takeWhile_append_of_head hfree hbrace]
    rfl

theorem parseFrom_nil (at0 : Nat) : parseFrom at0 [] = ([], []) := by
  rw [parseFrom]

theorem parseFrom_span (at0 : Nat) {inner : List Char} (rest : List Char)
    (h : ∀ c ∈ inner, isBrace c = false) :
    parseFrom at0 ('\x7b' :: (inner ++ '\x7d' :: rest)) =
      (inner ++ (parseFrom (at0 + inner.length) rest).1,
        ⟨at0, at0 + inner.length⟩ :: (parseFrom (at0 + inner.length) rest).2) := by
  have hclose : closeSpan? (inner ++ '\x7d' :: rest) = some (inner, rest) :=
    closeSpan?_eq_some_iff.2 ⟨rfl, h⟩
  rw [parseFrom]
  split
  · rename_i inner' behind hsome
    rw [if_pos (by decide), hclose] at hsome
    cases hsome
    rfl
  · rename_i hnone
    rw [if_pos (by decide), hclose] at hnone
    cases hnone

theorem parseFrom_cons (at0 : Nat) {c : Char} (rest : List Char)
    (h : c = '\x7b' → closeSpan? rest = none) :
    parseFrom at0 (c :: rest) =
      (c :: (parseFrom (at0 + 1) rest).1, (parseFrom (at0 + 1) rest).2) := by
  rw [parseFrom]
  split
  · rename_i hsome
    split at hsome
    · rename_i hopen
      rw [h (eq_of_beq hopen)] at hsome
      cases hsome
    · cases hsome
  · rfl

theorem parseFrom_append (at0 : Nat) {l : List Char} (rest : List Char)
    (h : ∀ c ∈ l, isBrace c = false) :
    parseFrom at0 (l ++ rest) =
      (l ++ (parseFrom (at0 + l.length) rest).1, (parseFrom (at0 + l.length) rest).2) := by
  induction l generalizing at0 with
  | nil => rfl
  | cons c l ih =>
      have hc : c = '\x7b' → closeSpan? (l ++ rest) = none := by
        rintro rfl
        exact absurd (h _ List.mem_cons_self) (by decide)
      have hlength : at0 + 1 + l.length = at0 + (c :: l).length := by
        rw [List.length_cons]
        omega
      rw [List.cons_append, parseFrom_cons at0 (l ++ rest) hc,
        ih (at0 + 1) fun x hx => h x (List.mem_cons_of_mem c hx), hlength, List.cons_append]

/-- A written text is empty, it begins with a span between braces, or it begins with a character
    that opens no span. -/
@[elab_as_elim]
theorem written_induction {P : List Char → Prop} (nil : P [])
    (span : ∀ inner rest, (∀ c ∈ inner, isBrace c = false) → P rest →
      P ('\x7b' :: (inner ++ '\x7d' :: rest)))
    (char : ∀ c rest, (c = '\x7b' → closeSpan? rest = none) → P rest → P (c :: rest)) :
    ∀ cs, P cs := by
  intro cs
  induction hn : cs.length using Nat.strong_induction_on generalizing cs with
  | h n ih =>
      cases cs with
      | nil => exact nil
      | cons c rest =>
          rw [List.length_cons] at hn
          cases hclose : closeSpan? rest with
          | none => exact char c rest (fun _ => hclose) (ih rest.length (by omega) rest rfl)
          | some parts =>
              by_cases hopen : c = '\x7b'
              · rcases closeSpan?_eq_some_iff.1 hclose with ⟨rfl, hinner⟩
                have hless := length_lt_of_closeSpan? hclose
                rw [hopen]
                exact span parts.1 parts.2 hinner (ih parts.2.length (by omega) parts.2 rfl)
              · exact char c rest (fun h => absurd h hopen) (ih rest.length (by omega) rest rfl)

/-! ## Spans in a text -/

/-- Spans one behind the other in a text whose first character has a given position. -/
inductive Laid : Nat → List Span → List Char → Prop
  | nil (at0 : Nat) (cs : List Char) : Laid at0 [] cs
  | cons {at0 : Nat} {spans : List Span} (front inner : List Char) {rest : List Char} :
      Laid (at0 + front.length + inner.length) spans rest →
      Laid at0 (⟨at0 + front.length, at0 + front.length + inner.length⟩ :: spans)
        (front ++ (inner ++ rest))

-- One more character in front of a text moves no span.
theorem Laid.char {at0 : Nat} {spans : List Span} {cs : List Char} (c : Char)
    (h : Laid (at0 + 1) spans cs) : Laid at0 spans (c :: cs) := by
  cases h with
  | nil => exact .nil at0 _
  | cons front inner hrest =>
      have hfront : at0 + 1 + front.length = at0 + (c :: front).length := by
        rw [List.length_cons]
        omega
      rw [hfront] at hrest ⊢
      exact .cons (c :: front) inner hrest

/-- Spans are laid in a text exactly if they are parts of it, in ascending order and without
    overlap. -/
theorem laid_iff {at0 : Nat} {spans : List Span} {cs : List Char} :
    Laid at0 spans cs ↔
      (∀ s ∈ spans, at0 ≤ s.start ∧ s.start ≤ s.stop ∧ s.stop ≤ at0 + cs.length) ∧
        spans.Pairwise fun a b => a.stop ≤ b.start := by
  constructor
  · intro h
    induction h with
    | nil => exact ⟨by simp, List.Pairwise.nil⟩
    | cons front inner _ ih =>
        refine ⟨fun s hs => ?_, List.pairwise_cons.2 ⟨fun s hs => (ih.1 s hs).1, ih.2⟩⟩
        simp only [List.length_append]
        rcases List.mem_cons.1 hs with rfl | hs
        · dsimp only
          omega
        · have hbounds := ih.1 s hs
          omega
  · intro h
    induction spans generalizing at0 cs with
    | nil => exact .nil at0 cs
    | cons s rest ih =>
        rcases h with ⟨hbounds, horder⟩
        rcases hbounds s List.mem_cons_self with ⟨hstart, hspan, hstop⟩
        have hparts : cs = cs.take (s.start - at0) ++
            ((cs.drop (s.start - at0)).take (s.stop - s.start) ++ cs.drop (s.stop - at0)) := by
          have hdrop : cs.drop (s.stop - at0) =
              (cs.drop (s.start - at0)).drop (s.stop - s.start) := by
            rw [List.drop_drop]
            congr 1
            omega
          rw [hdrop, List.take_append_drop, List.take_append_drop]
        have hfront : at0 + (cs.take (s.start - at0)).length = s.start := by
          rw [List.length_take]
          omega
        have hinner : ((cs.drop (s.start - at0)).take (s.stop - s.start)).length =
            s.stop - s.start := by
          rw [List.length_take, List.length_drop]
          omega
        have hrest : Laid s.stop rest (cs.drop (s.stop - at0)) := by
          refine ih ⟨fun s' hs' => ?_, (List.pairwise_cons.1 horder).2⟩
          have hbounds' := hbounds s' (List.mem_cons_of_mem s hs')
          have hbehind := (List.pairwise_cons.1 horder).1 s' hs'
          rw [List.length_drop]
          omega
        have hcons := @Laid.cons at0 rest (cs.take (s.start - at0))
          ((cs.drop (s.start - at0)).take (s.stop - s.start)) (cs.drop (s.stop - at0))
        have hend : s.start + (s.stop - s.start) = s.stop := by omega
        rw [hfront, hinner, hend, ← hparts] at hcons
        exact hcons hrest

theorem laid_iff_wellFormed (t : MarkedText) : Laid 0 t.spans t.text.toList ↔ t.WellFormed := by
  rw [laid_iff, WellFormed, ValidSpans]
  simp only [Nat.zero_le, true_and, Nat.zero_add, String.length_toList]

/-- The spans that are read are laid in the text that is read. -/
theorem laid_parseFrom (at0 : Nat) (cs : List Char) :
    Laid at0 (parseFrom at0 cs).2 (parseFrom at0 cs).1 := by
  induction cs using written_induction generalizing at0 with
  | nil =>
      rw [parseFrom_nil]
      exact .nil at0 []
  | span inner rest h ih =>
      rw [parseFrom_span at0 rest h]
      exact .cons [] inner (ih _)
  | char c rest h ih =>
      rw [parseFrom_cons at0 rest h]
      exact (ih _).char c

/-! ## Writing -/

section

variable {at0 : Nat} {spans : List Span}

-- The parts of a text at the ends of a span are what the span was laid between.
theorem parts_append (at0 : Nat) (front inner rest : List Char) :
    (front ++ (inner ++ rest)).take (at0 + front.length - at0) = front ∧
    ((front ++ (inner ++ rest)).drop (at0 + front.length - at0)).take
      (at0 + front.length + inner.length - (at0 + front.length)) = inner ∧
    (front ++ (inner ++ rest)).drop (at0 + front.length + inner.length - at0) = rest := by
  have hboth : at0 + front.length + inner.length - at0 = (front ++ inner).length := by
    rw [List.length_append]
    omega
  rw [Nat.add_sub_cancel_left, Nat.add_sub_cancel_left, hboth, List.take_left, List.drop_left,
    List.take_left, ← List.append_assoc, List.drop_left]
  exact ⟨rfl, rfl, rfl⟩

theorem writeFrom_append (at0 : Nat) (spans : List Span) (front inner rest : List Char) :
    writeFrom at0 (⟨at0 + front.length, at0 + front.length + inner.length⟩ :: spans)
        (front ++ (inner ++ rest)) =
      front ++ '\x7b' :: (inner ++ '\x7d' ::
        writeFrom (at0 + front.length + inner.length) spans rest) := by
  rcases parts_append at0 front inner rest with ⟨hfront, hinner, hrest⟩
  rw [writeFrom]
  dsimp only
  rw [hfront, hinner, hrest]
  simp only [List.append_assoc, List.cons_append]

-- A character in front of the spans is written as it is.
theorem writeFrom_cons {cs : List Char} (c : Char) (h : Laid (at0 + 1) spans cs) :
    writeFrom at0 spans (c :: cs) = c :: writeFrom (at0 + 1) spans cs := by
  cases h with
  | nil => rw [writeFrom, writeFrom]
  | cons front inner _ =>
      have hfront : at0 + 1 + front.length = at0 + (c :: front).length := by
        rw [List.length_cons]
        omega
      rw [writeFrom_append, hfront]
      exact writeFrom_append at0 _ (c :: front) inner _

/-- What was read is written as it was. -/
theorem writeFrom_parseFrom (at0 : Nat) (cs : List Char) :
    writeFrom at0 (parseFrom at0 cs).2 (parseFrom at0 cs).1 = cs := by
  induction cs using written_induction generalizing at0 with
  | nil => rw [parseFrom_nil, writeFrom]
  | span inner rest h ih =>
      rw [parseFrom_span at0 rest h]
      have hwrite := writeFrom_append at0 (parseFrom (at0 + inner.length) rest).2 [] inner
        (parseFrom (at0 + inner.length) rest).1
      rw [List.length_nil, Nat.add_zero, ih] at hwrite
      exact hwrite
  | char c rest h ih =>
      rw [parseFrom_cons at0 rest h, writeFrom_cons c (laid_parseFrom (at0 + 1) rest), ih]

/-- A text in which spans are laid reads as it was once it is written, if it has no braces. -/
theorem parseFrom_writeFrom {cs : List Char} (h : Laid at0 spans cs)
    (hfree : ∀ c ∈ cs, isBrace c = false) :
    parseFrom at0 (writeFrom at0 spans cs) = (cs, spans) := by
  induction h with
  | nil at0 cs =>
      have hread := parseFrom_append at0 [] hfree
      rwa [List.append_nil, parseFrom_nil, List.append_nil] at hread
  | cons front inner _ ih =>
      simp only [List.forall_mem_append] at hfree
      rw [writeFrom_append, parseFrom_append _ _ hfree.1, parseFrom_span _ _ hfree.2.1,
        ih hfree.2.2]

end

/-! ## Segments -/

/-- The positions of the verbatim segments of a text whose first character has a given position. -/
def verbatimSpans (at0 : Nat) : List Segment → List Span
  | [] => []
  | s :: rest =>
    if s.verbatim then
      ⟨at0, at0 + s.text.length⟩ :: verbatimSpans (at0 + s.text.length) rest
    else verbatimSpans (at0 + s.text.length) rest

section

variable {at0 : Nat} {spans : List Span}

theorem segmentsFrom_append {front inner rest : List Char} :
    segmentsFrom at0 (⟨at0 + front.length, at0 + front.length + inner.length⟩ :: spans)
        (front ++ (inner ++ rest)) =
      piece false front ++ (piece true inner ++
        segmentsFrom (at0 + front.length + inner.length) spans rest) := by
  rcases parts_append at0 front inner rest with ⟨hfront, hinner, hrest⟩
  rw [segmentsFrom]
  dsimp only
  rw [hfront, hinner, hrest, List.append_assoc]

theorem toList_piece (verbatim : Bool) (cs : List Char) :
    (piece verbatim cs).flatMap (·.text.toList) = cs := by
  cases cs with
  | nil => rfl
  | cons c rest => simp [piece]

theorem verbatimSpans_plain (at0 : Nat) (cs : List Char) (rest : List Segment) :
    verbatimSpans at0 (piece false cs ++ rest) = verbatimSpans (at0 + cs.length) rest := by
  cases cs with
  | nil => rfl
  | cons c tl =>
      change verbatimSpans at0 (⟨String.ofList (c :: tl), false⟩ :: rest) = _
      rw [verbatimSpans, if_neg Bool.false_ne_true, String.length_ofList]

theorem verbatimSpans_verbatim (at0 : Nat) (cs : List Char) (rest : List Segment) :
    verbatimSpans at0 (piece true cs ++ rest) =
      [(⟨at0, at0 + cs.length⟩ : Span)].filter (fun s => s.start < s.stop)
        ++ verbatimSpans (at0 + cs.length) rest := by
  cases cs with
  | nil => simp [piece]
  | cons c tl =>
      have hspan : at0 < at0 + (c :: tl).length := Nat.lt_add_of_pos_right (Nat.succ_pos _)
      change verbatimSpans at0 (⟨String.ofList (c :: tl), true⟩ :: rest) = _
      rw [verbatimSpans, if_pos rfl, String.length_ofList, List.filter_cons_of_pos (by simp)]
      rfl

/-- The segments of a text hold all of it. -/
theorem toList_segmentsFrom {cs : List Char} (h : Laid at0 spans cs) :
    (segmentsFrom at0 spans cs).flatMap (·.text.toList) = cs := by
  induction h with
  | nil at0 cs => rw [segmentsFrom, toList_piece]
  | cons front inner _ ih =>
      rw [segmentsFrom_append, List.flatMap_append, List.flatMap_append, toList_piece, toList_piece,
        ih]

/-- The verbatim segments are the spans that are not empty, each in its place. -/
theorem verbatimSpans_segmentsFrom {cs : List Char} (h : Laid at0 spans cs) :
    verbatimSpans at0 (segmentsFrom at0 spans cs) = spans.filter fun s => s.start < s.stop := by
  induction h with
  | nil at0 cs =>
      rw [segmentsFrom, ← List.append_nil (piece false cs), verbatimSpans_plain]
      rfl
  | cons front inner _ ih =>
      rw [segmentsFrom_append, verbatimSpans_plain, verbatimSpans_verbatim, ih,
        ← List.filter_append, List.singleton_append]

end

/-! ## Checking spans -/

/-- A span as a pair of positions. -/
def bounds (s : Span) : Int × Int :=
  (s.start, s.stop)

-- Spans in ascending order are put into the order that they have.
theorem foldr_insertPair {spans : List Span} (hspan : ∀ s ∈ spans, s.start ≤ s.stop)
    (horder : spans.Pairwise fun a b => a.stop ≤ b.start) :
    (spans.map bounds).foldr insertPair [] = spans.map bounds := by
  induction spans with
  | nil => rfl
  | cons s rest ih =>
      rw [List.map_cons, List.foldr_cons,
        ih (fun x hx => hspan x (List.mem_cons_of_mem s hx)) (List.pairwise_cons.1 horder).2]
      cases rest with
      | nil => rfl
      | cons t rest =>
          have hs := hspan s List.mem_cons_self
          have ht := hspan t (List.mem_cons_of_mem s List.mem_cons_self)
          have hst := (List.pairwise_cons.1 horder).1 t List.mem_cons_self
          rw [List.map_cons, insertPair, if_pos]
          simp [bounds]
          omega

theorem readSpans_bounds {length : Nat} {spans : List Span}
    (h : ∀ s ∈ spans, s.start ≤ s.stop ∧ s.stop ≤ length) :
    readSpans length (spans.map bounds) = .ok spans := by
  induction spans with
  | nil => rfl
  | cons s rest ih =>
      have hs := h s List.mem_cons_self
      rw [List.map_cons, bounds, readSpans, if_pos (by omega),
        ih fun x hx => h x (List.mem_cons_of_mem s hx)]
      rfl

theorem le_of_readSpans {length : Nat} {pairs : List (Int × Int)} {spans : List Span}
    (h : readSpans length pairs = .ok spans) : ∀ s ∈ spans, s.start ≤ s.stop ∧ s.stop ≤ length := by
  induction pairs generalizing spans with
  | nil =>
      cases h
      simp
  | cons pair rest ih =>
      rcases pair with ⟨a, b⟩
      rw [readSpans] at h
      split at h
      · rename_i hbounds
        cases hrest : readSpans length rest with
        | error err =>
            rw [hrest] at h
            cases h
        | ok others =>
            rw [hrest] at h
            cases h
            refine List.forall_mem_cons.2 ⟨?_, ih hrest⟩
            dsimp only
            omega
      · cases h

-- Spans none of which overlaps the next one.
theorem pairwise_iff_overlap {spans : List Span} (hspan : ∀ s ∈ spans, s.start ≤ s.stop) :
    spans.Pairwise (fun a b => a.stop ≤ b.start) ↔ overlap spans = false := by
  induction spans with
  | nil => simp [overlap]
  | cons s rest ih =>
      have hrest := ih fun x hx => hspan x (List.mem_cons_of_mem s hx)
      cases rest with
      | nil => simp [overlap]
      | cons t rest =>
          rw [overlap, Bool.or_eq_false_iff, ← hrest, List.pairwise_cons, decide_eq_false_iff_not,
            Nat.not_lt]
          refine ⟨fun h => ⟨h.1 t List.mem_cons_self, h.2⟩, fun h => ⟨fun x hx => ?_, h.2⟩⟩
          rcases List.mem_cons.1 hx with rfl | hx
          · exact h.1
          · have ht := hspan t (List.mem_cons_of_mem s List.mem_cons_self)
            have htx := (List.pairwise_cons.1 h.2).1 x hx
            omega

/-- A text whose spans are in order passes the checks and is left as it is. -/
theorem ofSpans_bounds {t : MarkedText} (h : t.WellFormed) :
    ofSpans t.text (t.spans.map bounds) = .ok t := by
  have hspan : ∀ s ∈ t.spans, s.start ≤ s.stop := fun s hs => (h.1 s hs).1
  rw [ofSpans, foldr_insertPair hspan h.2, readSpans_bounds h.1]
  change (if overlap t.spans = true then _ else _) = _
  rw [(pairwise_iff_overlap hspan).1 h.2, if_neg Bool.false_ne_true]
  rfl

/-- The checks leave spans in order. -/
theorem wellFormed_of_ofSpans {text : String} {pairs : List (Int × Int)} {t : MarkedText}
    (h : ofSpans text pairs = .ok t) : t.text = text ∧ t.WellFormed := by
  rw [ofSpans] at h
  cases hspans : readSpans text.length (pairs.foldr insertPair []) with
  | error err =>
      rw [hspans] at h
      cases h
  | ok spans =>
      rw [hspans] at h
      change (if overlap spans = true then _ else _) = _ at h
      split at h
      · cases h
      · rename_i hoverlap
        cases h
        have hbounds := le_of_readSpans hspans
        exact ⟨rfl, hbounds, (pairwise_iff_overlap fun s hs => (hbounds s hs).1).2
          (Bool.eq_false_iff.2 hoverlap)⟩

/-! ## Reading and writing -/

theorem wellFormed_parse (written : String) : (parse written).WellFormed := by
  have hlaid := laid_parseFrom 0 written.toList
  rw [← laid_iff_wellFormed]
  simpa [parse] using hlaid

/-- Marked text can be read and written. Every string is read: the spans pass the checks, so they
    lie in the text, in ascending order and without overlap. The segments hold the whole text, and
    the verbatim ones are the spans that are not empty, each in its place. Written again, it is the
    same string. And a text without braces is read with the spans that it was written with,
    whichever of them are empty or touch each other. -/
theorem parse_write :
    (∀ written : String,
      ofSpans (parse written).text ((parse written).spans.map bounds) = .ok (parse written) ∧
      (parse written).WellFormed ∧
      String.join ((parse written).segments.map Segment.text) = (parse written).text ∧
      verbatimSpans 0 (parse written).segments =
        (parse written).spans.filter (fun s => s.start < s.stop) ∧
      write (parse written) = written) ∧
    ∀ (text : String) (pairs : List (Int × Int)) (t : MarkedText), ofSpans text pairs = .ok t →
      (∀ c ∈ text.toList, isBrace c = false) → parse (write t) = t := by
  constructor
  · intro written
    have hwell := wellFormed_parse written
    have hlaid := (laid_iff_wellFormed _).2 hwell
    refine ⟨ofSpans_bounds hwell, hwell, ?_, verbatimSpans_segmentsFrom hlaid, ?_⟩
    · rw [← String.toList_inj, String.toList_join, List.flatMap_map]
      exact toList_segmentsFrom hlaid
    · have hwrite := writeFrom_parseFrom 0 written.toList
      simp [write, parse, hwrite]
  · intro text pairs t h hfree
    rcases wellFormed_of_ofSpans h with ⟨rfl, hwell⟩
    have hread := parseFrom_writeFrom ((laid_iff_wellFormed t).2 hwell) hfree
    simp [parse, write, hread]

/-- A word with three spans: a letter, nothing, and the next letter. -/
def touchingSpans : List (Int × Int) :=
  [(1, 2), (0, 1), (1, 1)]

-- The spans are put in order, and written and read again they are the same.
theorem parse_write_touchingSpans :
    ∃ t, ofSpans "iPhone" touchingSpans = .ok t ∧ write t = "\x7bi\x7d\x7b\x7d\x7bP\x7dhone" ∧
      parse (write t) = t := by
  have hall : ("iPhone".toList.all fun c => !isBrace c) = true := by decide
  have hfree : ∀ c ∈ "iPhone".toList, isBrace c = false := by
    simpa only [List.all_eq_true, Bool.not_eq_true'] using hall
  exact ⟨⟨"iPhone", [⟨0, 1⟩, ⟨1, 1⟩, ⟨1, 2⟩]⟩, by decide, by decide,
    parse_write.2 "iPhone" touchingSpans _ (by decide) hfree⟩

end MarkedText

end CslProcessor
