import CslProcessor.Session.History

/-!
# Histories that grow

What becomes of a history when a citation is recorded or entries are mentioned. Nothing that was
known is lost: an entry keeps its number, and a citation stays where it is. Beside the new citation
there is only what follows from it.

The outputs that a history keeps are not used for anything that is recorded later. This is what
`History.unrendered` is for: it drops them, and recording does not notice.

## Main definitions

* `History.unrendered`: A history without the outputs that it keeps.

## Theorems

* `mem_mentioned_mention`, `lookup_numbers_mention`: Numbers after entries were mentioned.
* `mention_of_length_eq`: Entries that were mentioned before change nothing.
* `numbers_record`, `mem_citedIn_record`: A history after one more citation.
* `mem_citing`: The citations that cite some entries.
* `unrendered_record`: Recording does not use outputs.
-/

namespace CslProcessor

namespace History

/-! ## Numbers -/

theorem mem_mentioned_iff {h : History} {i : Nat} :
    i ∈ h.mentioned ↔ (h.numbers.lookup i).isSome = true :=
  Assoc.mem_keys_iff

-- An entry that has a number keeps it.
theorem lookup_numbers_number {h : History} {i j : Nat} (hj : j ∈ h.mentioned) :
    (h.number i).numbers.lookup j = h.numbers.lookup j := by
  unfold number
  split
  · rfl
  · rename_i hnone
    rw [mem_mentioned_iff] at hj
    have hne : j ≠ i := fun heq => hnone (heq ▸ hj)
    rw [Assoc.lookup_set_of_ne hne]

theorem mem_mentioned_number {h : History} {i j : Nat} :
    j ∈ (h.number i).mentioned ↔ j = i ∨ j ∈ h.mentioned := by
  rw [mem_mentioned_iff, mem_mentioned_iff]
  unfold number
  split
  · rename_i hsome
    constructor
    · exact Or.inr
    · rintro (rfl | hj)
      · exact hsome
      · exact hj
  · by_cases hj : j = i
    · simp [hj]
    · simp [Assoc.lookup_set_of_ne hj, hj]

/-- Entries that have numbers keep them. -/
theorem lookup_numbers_mention {indexes : List Nat} :
    ∀ {h : History} {j : Nat}, j ∈ h.mentioned →
      (h.mention indexes).numbers.lookup j = h.numbers.lookup j := by
  induction indexes with
  | nil =>
      intro h j _
      rfl
  | cons i rest ih =>
      intro h j hj
      rw [mention, List.foldl_cons, ← mention, ih (mem_mentioned_number.2 (Or.inr hj)),
        lookup_numbers_number hj]

/-- The entries that were mentioned are those from before and the new ones. -/
theorem mem_mentioned_mention {indexes : List Nat} :
    ∀ {h : History} {j : Nat},
      j ∈ (h.mention indexes).mentioned ↔ j ∈ indexes ∨ j ∈ h.mentioned := by
  induction indexes with
  | nil =>
      intro h j
      simp [mention]
  | cons i rest ih =>
      intro h j
      rw [mention, List.foldl_cons, ← mention, ih, mem_mentioned_number, List.mem_cons,
        or_left_comm, or_assoc]

-- An entry either has a number or is the only one to get one.
theorem number_cases (h : History) (i : Nat) :
    h.number i = h ∨ (h.number i).numbers.length = h.numbers.length + 1 := by
  unfold number
  split
  · exact Or.inl rfl
  · rename_i hnone
    rw [Bool.not_eq_true, Option.isSome_eq_false_iff, Option.isNone_iff_eq_none] at hnone
    exact Or.inr (by rw [Assoc.set_eq_append _ hnone, List.length_append, List.length_singleton])

theorem length_numbers_le_mention (indexes : List Nat) :
    ∀ h : History, h.numbers.length ≤ (h.mention indexes).numbers.length := by
  induction indexes with
  | nil => exact fun h => Nat.le_refl _
  | cons i rest ih =>
      intro h
      have hrest := ih (h.number i)
      rw [mention, List.foldl_cons, ← mention]
      rcases number_cases h i with heq | hlen
      · rw [heq] at hrest ⊢
        exact hrest
      · omega

/-- If no number is new, nothing has changed. -/
theorem mention_of_length_eq {indexes : List Nat} :
    ∀ {h : History}, (h.mention indexes).numbers.length = h.numbers.length →
      h.mention indexes = h := by
  induction indexes with
  | nil => exact fun _ => rfl
  | cons i rest ih =>
      intro h hlen
      have hrest := length_numbers_le_mention rest (h.number i)
      rw [mention, List.foldl_cons, ← mention] at hlen ⊢
      rcases number_cases h i with heq | hnew
      · rw [heq] at hlen ⊢
        exact ih hlen
      · omega

-- Mentioning entries changes nothing but numbers.
theorem mention_eq (indexes : List Nat) :
    ∀ h : History, h.mention indexes = { h with numbers := (h.mention indexes).numbers } := by
  induction indexes with
  | nil => exact fun _ => rfl
  | cons i rest ih =>
      intro h
      have hone : h.number i = { h with numbers := (h.number i).numbers } := by
        unfold number
        split <;> rfl
      rw [mention, List.foldl_cons, ← mention, ih, hone]

/-! ## One more citation -/

-- Numbers depend on nothing but numbers.
theorem numbers_mention_congr {indexes : List Nat} :
    ∀ {h h' : History}, h.numbers = h'.numbers →
      (h.mention indexes).numbers = (h'.mention indexes).numbers := by
  induction indexes with
  | nil => exact fun heq => heq
  | cons i rest ih =>
      intro h h' heq
      rw [mention, mention, List.foldl_cons, List.foldl_cons, ← mention, ← mention]
      refine ih ?_
      unfold number
      rw [heq]
      split
      · exact heq
      · rfl

theorem register_eq (e : Nat) (h : History) (i : Nat) :
    h.register e i =
      if ((h.number i).firstNotes.lookup i).isSome then h.number i
      else { h.number i with firstNotes := Assoc.set i (e + 1) (h.number i).firstNotes } := rfl

-- Registering the entries of a citation gives them numbers, and changes nothing else but the notes
-- on first citations.
theorem foldl_register (e : Nat) (indexes : List Nat) :
    ∀ h : History, ∃ firstNotes, indexes.foldl (register e) h =
      { h with numbers := (h.mention indexes).numbers, firstNotes } := by
  induction indexes with
  | nil => exact fun h => ⟨h.firstNotes, rfl⟩
  | cons i rest ih =>
      intro h
      have hone : ∃ firstNotes, h.register e i =
          { h with numbers := (h.number i).numbers, firstNotes } := by
        have hnumber : h.number i = { h with numbers := (h.number i).numbers } := by
          unfold number
          split <;> rfl
        rw [register_eq]
        split
        · exact ⟨h.firstNotes, hnumber⟩
        · rw [hnumber]
          exact ⟨_, rfl⟩
      rcases hone with ⟨f, hf⟩
      rcases ih { h with numbers := (h.number i).numbers, firstNotes := f } with ⟨f', hf'⟩
      have hnumbers : (mention { h with numbers := (h.number i).numbers, firstNotes := f }
          rest).numbers = (h.mention (i :: rest)).numbers := by
        rw [mention, mention, List.foldl_cons]
        exact numbers_mention_congr rfl
      refine ⟨f', ?_⟩
      rw [List.foldl_cons, hf, hf', hnumbers]

-- What is known of the cites of a new citation.
theorem exists_record (near : Int) (event : CitationEvent) (indexes : List Nat) (h : History) :
    ∃ cites, (h.record near event indexes).events =
      h.events ++ [{ event := event, indexes := indexes, cites := cites }] := by
  rcases foldl_register h.events.length indexes h with ⟨f, hf⟩
  rw [record, hf]
  exact ⟨_, rfl⟩

theorem numbers_record (near : Int) (event : CitationEvent) (indexes : List Nat) (h : History) :
    (h.record near event indexes).numbers = (h.mention indexes).numbers := by
  rcases foldl_register h.events.length indexes h with ⟨f, hf⟩
  rw [record, hf]

theorem mentioned_record (near : Int) (event : CitationEvent) (indexes : List Nat) (h : History) :
    (h.record near event indexes).mentioned = (h.mention indexes).mentioned := by
  rw [mentioned, mentioned, numbers_record]

/-- The citations of an entry are those from before, and the new one if it cites the entry. -/
theorem mem_citedIn_record (near : Int) (event : CitationEvent) (indexes : List Nat) (h : History)
    {i k : Nat} :
    k ∈ ((h.record near event indexes).citedIn.lookup i).getD [] ↔
      (i ∈ indexes ∧ k = h.events.length) ∨ k ∈ (h.citedIn.lookup i).getD [] := by
  have hfold : ∀ (indexes : List Nat) (m : Assoc Nat (List Nat)),
      k ∈ ((indexes.foldl (addCitedIn h.events.length) m).lookup i).getD [] ↔
        (i ∈ indexes ∧ k = h.events.length) ∨ k ∈ (m.lookup i).getD [] := by
    intro indexes
    induction indexes with
    | nil =>
        intro m
        simp
    | cons j rest ih =>
        intro m
        rw [List.foldl_cons, ih, addCitedIn]
        by_cases hj : i = j
        · rw [hj, Assoc.lookup_set_self, Option.getD_some, List.mem_insert_iff]
          simp only [List.mem_cons, true_or, true_and]
          constructor
          · rintro (⟨-, hk⟩ | hk)
            · exact Or.inl hk
            · exact hk
          · exact Or.inr
        · rw [Assoc.lookup_set_of_ne hj, List.mem_cons, or_iff_right hj]
  rcases foldl_register h.events.length indexes h with ⟨f, hf⟩
  rw [record, hf]
  exact hfold indexes h.citedIn

/-- The citations that cite some entries. -/
theorem mem_citing {h : History} {indexes : List Nat} {k : Nat} :
    k ∈ h.citing indexes ↔ ∃ i ∈ indexes, k ∈ (h.citedIn.lookup i).getD [] := by
  induction indexes with
  | nil => simp [citing]
  | cons i rest ih =>
      rw [citing, List.foldr_cons, ← citing, ListSet.mem_union, ih]
      simp

/-! ## Outputs -/

/-- A history without the outputs that it keeps. -/
def unrendered (h : History) : History :=
  { h with events := h.events.map fun r => { r with rendered := {} } }

theorem unrendered_setRendered (h : History) (k : Nat) (c : RenderedCitation) :
    (h.setRendered k c).unrendered = h.unrendered := by
  unfold unrendered setRendered
  simp only [mk.injEq, and_true]
  refine List.ext_getElem? fun j => ?_
  rw [List.getElem?_map, List.getElem?_map, List.getElem?_modify]
  cases h.events[j]? with
  | none => rfl
  | some r =>
      by_cases hjk : k = j
      · simp [hjk]
      · simp [hjk]

theorem unrendered_number (h : History) (i : Nat) :
    (h.number i).unrendered = h.unrendered.number i := by
  unfold number unrendered
  split <;> rfl

theorem unrendered_mention (indexes : List Nat) :
    ∀ h : History, (h.mention indexes).unrendered = h.unrendered.mention indexes := by
  induction indexes with
  | nil => exact fun _ => rfl
  | cons i rest ih =>
      intro h
      rw [mention, mention, List.foldl_cons, List.foldl_cons, ← mention, ← mention, ih,
        unrendered_number]

theorem unrendered_foldl_register (e : Nat) (indexes : List Nat) :
    ∀ h : History, (indexes.foldl (register e) h).unrendered =
      indexes.foldl (register e) h.unrendered := by
  induction indexes with
  | nil => exact fun _ => rfl
  | cons i rest ih =>
      intro h
      have hone : (h.register e i).unrendered = h.unrendered.register e i := by
        rw [register_eq, register_eq, ← unrendered_number]
        unfold unrendered
        split <;> rfl
      rw [List.foldl_cons, List.foldl_cons, ih, hone]

-- What is known of cites does not depend on outputs.
theorem citeContexts_unrendered (h : History) (near : Int) (event : CitationEvent)
    (indexes : List Nat) (l : List (CitationItem × Nat)) :
    ∀ (k : Nat) (lastCited : Assoc Nat Nat),
      h.unrendered.citeContexts near event indexes k lastCited l =
        h.citeContexts near event indexes k lastCited l := by
  have hlength : h.unrendered.events.length = h.events.length := by
    rw [unrendered, List.length_map]
  have hprevious : h.unrendered.previousEvent? =
      h.previousEvent?.map fun r => { r with rendered := {} } := by
    unfold previousEvent? unrendered
    cases h.previous with
    | none => rfl
    | some n => simp
  have hprior : ∀ k, h.unrendered.priorItem? event indexes k = h.priorItem? event indexes k := by
    intro k
    unfold priorItem?
    rw [hprevious]
    cases h.previousEvent? with
    | none => rfl
    | some r =>
        by_cases hr : (r.indexes == indexes) = true
        · simp only [Option.map_some, Option.filter_some, hr, if_true]
        · simp only [Option.map_some, Option.filter_some, hr, if_false, Bool.false_eq_true]
  have hcontext : ∀ (last : Option Nat) (k : Nat) (item : CitationItem) (index : Nat),
      h.unrendered.citeContext near event indexes last k item index =
        h.citeContext near event indexes last k item index := by
    intro last k item index
    unfold citeContext
    rw [hprior, hlength]
    rfl
  induction l with
  | nil => exact fun _ _ => rfl
  | cons x rest ih =>
      intro k lastCited
      rw [citeContexts, citeContexts, hcontext, hlength, ih]

/-- Recording a citation does not use outputs. -/
theorem unrendered_record (near : Int) (event : CitationEvent) (indexes : List Nat)
    (h : History) :
    (h.record near event indexes).unrendered =
      (h.unrendered.record near event indexes).unrendered := by
  have hlength : h.unrendered.events.length = h.events.length := by
    rw [unrendered, List.length_map]
  have hknown := unrendered_foldl_register h.events.length indexes h
  rw [record, record, hlength, ← hknown, citeContexts_unrendered]
  unfold unrendered
  simp

end History

end CslProcessor
