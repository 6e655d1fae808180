import CslProcessor.Disambiguation.AuthorDate
import CslProcessor.Proofs.Disambiguation.Passes

/-!
# The plain author-date form shows letters

The letter behind a year can be read off the plain author-date form: it is what stands behind the
last character that is no lower case letter, as long as the year itself ends in a digit or is left
out. So two cites with the same text have the same letter.

## Theorems

* `isLower_letters`: Letters are lower case letters.
* `yearSuffix_eq_of_letters`: Different letters have different texts.
* `AuthorDate.key_ends`: The form ends in the letter.
* `AuthorDate.faithful`: The form is faithful to letters.
-/

namespace CslProcessor

namespace YearSuffix

theorem isLower_letterAt {i : Nat} (h : i < 26) : (letterAt i).isLower = true := by
  have hall : ∀ j ∈ List.range 26, (letterAt j).isLower = true := by decide
  exact hall i (List.mem_range.2 h)

theorem isLower_letters (index : Nat) : ∀ c ∈ letters index, c.isLower = true := by
  fun_induction letters index with
  | case1 index h =>
      intro c hc
      rw [List.mem_singleton.1 hc]
      exact isLower_letterAt h
  | case2 index h ih =>
      intro c hc
      rcases List.mem_append.1 hc with hc | hc
      · exact ih c hc
      · rw [List.mem_singleton.1 hc]
        exact isLower_letterAt (Nat.mod_lt _ (by decide))

-- Letters at different indexes are different.
theorem letters_injective {m n : Nat} (h : letters m = letters n) : m = n := by
  have hnumeral := congrArg numeral h
  rw [numeral_letters, numeral_letters] at hnumeral
  omega

theorem letters_ne_nil (index : Nat) : letters index ≠ [] := by
  intro hnil
  have hnumeral := numeral_letters index
  rw [hnil] at hnumeral
  exact absurd hnumeral (by simp [numeral])

end YearSuffix

namespace EntryDisambiguation

open YearSuffix

-- The letters of a state, if it has any.
theorem letters?_eq_ok {d : EntryDisambiguation} {s : Option String} (h : d.letters? = .ok s) :
    (d.yearSuffix = none ∧ s = none) ∨
      ∃ n : Nat, d.yearSuffix = some (n : Int) ∧ s = some (suffixLetters n) := by
  unfold letters? at h
  cases hn : d.yearSuffix with
  | none =>
      rw [hn] at h
      exact Or.inl ⟨rfl, (Except.ok.inj h).symm⟩
  | some n =>
      rw [hn] at h
      simp only [lettersAt] at h
      split at h
      · exact absurd h (by simp only [Except.map, reduceCtorEq, not_false_eq_true])
      · rename_i hneg
        refine Or.inr ⟨n.toNat, ?_, (Except.ok.inj h).symm⟩
        rw [Int.toNat_of_nonneg (by omega)]

theorem isLower_of_letters? {d : EntryDisambiguation} {s : Option String}
    (h : d.letters? = .ok s) : ∀ c ∈ (s.getD "").toList, c.isLower = true := by
  rcases letters?_eq_ok h with ⟨-, rfl⟩ | ⟨n, -, rfl⟩
  · simp
  · rw [Option.getD_some, suffixLetters, String.toList_ofList]
    exact isLower_letters n

/-- States that print the same letters have the same letter. -/
theorem yearSuffix_eq_of_letters {d e : EntryDisambiguation} {s t : Option String}
    (hd : d.letters? = .ok s) (he : e.letters? = .ok t)
    (heq : (s.getD "").toList = (t.getD "").toList) : d.yearSuffix = e.yearSuffix := by
  rcases letters?_eq_ok hd with ⟨hd', rfl⟩ | ⟨m, hd', rfl⟩
  · rcases letters?_eq_ok he with ⟨he', rfl⟩ | ⟨n, he', rfl⟩
    · rw [hd', he']
    · rw [Option.getD_some, suffixLetters, String.toList_ofList] at heq
      exact absurd heq.symm (letters_ne_nil n)
  · rcases letters?_eq_ok he with ⟨he', rfl⟩ | ⟨n, he', rfl⟩
    · rw [Option.getD_some, suffixLetters, String.toList_ofList] at heq
      exact absurd heq (letters_ne_nil m)
    · rw [Option.getD_some, Option.getD_some, suffixLetters, suffixLetters, String.toList_ofList,
        String.toList_ofList] at heq
      rw [hd', he', letters_injective heq]

end EntryDisambiguation

namespace Disambiguation

open EntryDisambiguation (isLower_of_letters? yearSuffix_eq_of_letters)

-- What stands behind the last character without a property is the same in equal texts.
theorem ends_eq {good : Char → Bool} {l l' s s' : List Char} {c c' : Char}
    (hc : good c = false) (hc' : good c' = false) (hs : ∀ x ∈ s, good x = true)
    (hs' : ∀ x ∈ s', good x = true) (h : l ++ c :: s = l' ++ c' :: s') : s = s' := by
  rw [List.append_eq_append_iff] at h
  rcases h with ⟨m, hl', hrest⟩ | ⟨m, hl, hrest⟩
  · cases m with
    | nil =>
        rw [List.nil_append, List.cons.injEq] at hrest
        exact hrest.2
    | cons x m =>
        -- The last such character of one text would stand in the end of the other.
        rw [List.cons_append, List.cons.injEq] at hrest
        have hmem : c' ∈ s := by
          rw [hrest.2]
          exact List.mem_append_right m List.mem_cons_self
        rw [hs c' hmem] at hc'
        exact absurd hc' (by simp only [Bool.true_eq_false, not_false_eq_true])
  · cases m with
    | nil =>
        rw [List.nil_append, List.cons.injEq] at hrest
        exact hrest.2.symm
    | cons x m =>
        rw [List.cons_append, List.cons.injEq] at hrest
        have hmem : c ∈ s' := by
          rw [hrest.2]
          exact List.mem_append_right m List.mem_cons_self
        rw [hs' c hmem] at hc
        exact absurd hc (by simp only [Bool.true_eq_false, not_false_eq_true])

namespace AuthorDate

-- The last character of a year with a space before it is no lower case letter.
theorem exists_last {y : List Char} (hy : ∀ c ∈ y, c.isLower = false) :
    ∃ l c, ' ' :: y = l ++ [c] ∧ c.isLower = false := by
  rcases List.eq_nil_or_concat (' ' :: y) with hnil | ⟨l, c, hl⟩
  · exact absurd hnil (List.cons_ne_nil _ _)
  · rw [List.concat_eq_append] at hl
    refine ⟨l, c, hl, ?_⟩
    have hmem : c ∈ ' ' :: y := by
      rw [hl]
      exact List.mem_append_right l List.mem_cons_self
    rcases List.mem_cons.1 hmem with rfl | hmem
    · decide
    · exact hy c hmem

/-- The form ends in the letter, with a character before it that is none. -/
theorem key_ends {a : AuthorDate} (hshows : a.ignoresSuffix = false)
    (hyear : ∀ c ∈ a.year.toList, c.isLower = false) {d : EntryDisambiguation} {text : String}
    (h : a.key d = .ok text) (hne : text ≠ "") :
    ∃ l c s, d.letters? = .ok s ∧ c.isLower = false ∧
      text.toList = l ++ c :: (s.getD "").toList := by
  unfold key at h
  cases hblank : a.blank with
  | true =>
      rw [hblank] at h
      exact absurd (Except.ok.inj h).symm hne
  | false =>
      rw [hblank, hshows] at h
      simp only [Bool.false_eq_true, if_false] at h
      cases hletters : d.letters? with
      | error e =>
          rw [hletters] at h
          exact absurd h (by simp [bind, Except.bind])
      | ok s =>
          rw [hletters] at h
          have htext : ∃ front, text = front ++ " " ++ a.year ++ s.getD "" :=
            ⟨_, (Except.ok.inj h).symm⟩
          rcases htext with ⟨front, rfl⟩
          rcases exists_last hyear with ⟨l, c, hl, hc⟩
          have hspace : " ".toList ++ a.year.toList = l ++ [c] := hl
          refine ⟨front.toList ++ l, c, s, rfl, hc, ?_⟩
          rw [String.toList_append, String.toList_append, String.toList_append,
            List.append_assoc front.toList, hspace, ← List.append_assoc, List.append_assoc _ [c]]
          rfl

/-- The form is faithful to letters, if these are shown and years have no lower case letters. -/
theorem faithful (id : Nat) {rows : List AuthorDate}
    (hrows : ∀ a ∈ rows, a.ignoresSuffix = false ∧ ∀ c ∈ a.year.toList, c.isLower = false) :
    Faithful (renderer id rows) := by
  -- Whatever has text is a row.
  have hends : ∀ i d text, text ≠ "" → (renderer id rows).key i d = .ok text →
      ∃ l c s, d.letters? = .ok s ∧ c.isLower = false ∧
        text.toList = l ++ c :: (s.getD "").toList := by
    intro i d text hne hkey
    unfold renderer at hkey
    cases hrow : rows[i]? with
    | none =>
        simp only [hrow] at hkey
        exact absurd (Except.ok.inj hkey).symm hne
    | some a =>
        simp only [hrow] at hkey
        rcases hrows a (List.mem_of_getElem? hrow) with ⟨hshows, hyear⟩
        exact key_ends hshows hyear hkey hne
  intro i j d e text _ hne hi hj
  rcases hends i d text hne hi with ⟨l, c, s, hd, hc, htext⟩
  rcases hends j e text hne hj with ⟨l', c', s', he, hc', htext'⟩
  rw [htext] at htext'
  exact yearSuffix_eq_of_letters hd he
    (ends_eq hc hc' (isLower_of_letters? hd) (isLower_of_letters? he) htext')

end AuthorDate

end Disambiguation

end CslProcessor
