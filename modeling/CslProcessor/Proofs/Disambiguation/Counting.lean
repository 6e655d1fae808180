import CslProcessor.Proofs.Disambiguation.Growth
import CslProcessor.Proofs.Disambiguation.Keeping
import CslProcessor.Proofs.Disambiguation.Unhelpful

/-!
# Letters by count

The letters of entries whose cites are a fixed text with a letter behind it, such that no text is
another one with lower case letters behind it. Nothing but letters can tell such entries apart, and
which letter an entry gets is fixed by its place: among the entries with one text, the first one
gets the first letter, the second one the second, and so on. A text that is empty, or that only one
entry has, needs no letter.

`Counted` states have no letter but the right one, and nothing else. Groups that are given letters
are `Ripe`: whoever of the entries with their text has no letter is a member. Going through such a
group, an entry finds that the letters before its own are taken, as the entries before it have them
by then, and that its own is free. So the states are counted still, and all members have letters.

## Main definitions

* `TextAndLetter`, `Unambiguous`: The cites that this is about.
* `countedLetter`: The letter of an entry by count.
* `Counted`: States with no letter but the right ones.
* `Ripe`: A group that may be given letters.

## Theorems

* `rank_eq_idxOf`, `exists_before_of_lt_rank`: Counts as places among entries with one text.
* `TextAndLetter.legible`: A text with a letter tells both.
* `Counted.not_rendering`: Cites can be rendered as counted states grow.
* `isNextLetter_rank`: The next letter is the right one.
* `assignSuffixes_counted`: Letters for a group.
-/

namespace CslProcessor

namespace Disambiguation

variable {p : Policy} {r : KeyRenderer NegativeSuffix} {base : Nat → String} {order : List Nat}

/-! ## Letters by count -/

/-- Cites that are a text of the entry with its letter behind it. -/
def TextAndLetter (base : Nat → String) (r : KeyRenderer NegativeSuffix) : Prop :=
  ∀ i d, r.key i d = d.letters?.map fun s => base i ++ s.getD ""

/-- No text is another one with lower case letters behind it. -/
def Unambiguous (base : Nat → String) : Prop :=
  ∀ i j s, (∀ c ∈ s.toList, c.isLower = true) → base i = base j ++ s → base i = base j

/-- The entries with the text of an entry. -/
def peersOf (base : Nat → String) (entries : List Nat) (i : Nat) : List Nat :=
  entries.filter (base · == base i)

/-- How many entries before an entry have its text. -/
def rank (base : Nat → String) (entries : List Nat) (i : Nat) : Nat :=
  (peersOf base (entries.takeWhile (· != i)) i).length

/-- The letter of an entry by count: none if its text is empty or no other entry has it. -/
def countedLetter (base : Nat → String) (entries : List Nat) (i : Nat) : Option Int :=
  if i ∈ entries ∧ base i ≠ "" ∧ 1 < (peersOf base entries i).length then
    some (rank base entries i)
  else none

theorem mem_peersOf {i j : Nat} : j ∈ peersOf base order i ↔ j ∈ order ∧ base j = base i := by
  rw [peersOf, List.mem_filter, beq_iff_eq]

theorem peersOf_congr {i j : Nat} (h : base i = base j) :
    peersOf base order i = peersOf base order j := by
  rw [peersOf, peersOf, h]

-- The count of an entry is its place among the entries with its text.
theorem rank_eq_idxOf {i : Nat} (hi : i ∈ order) :
    rank base order i = (peersOf base order i).idxOf i := by
  induction order with
  | nil => exact absurd hi List.not_mem_nil
  | cons j rest ih =>
      by_cases hji : j = i
      · rw [hji, rank, List.takeWhile_cons_of_neg (by simp), peersOf, peersOf,
          List.filter_cons_of_pos (p := (base · == base i)) (beq_self_eq_true (base i)),
          List.idxOf_cons_self]
        rfl
      · have hrest := ih ((List.mem_cons.1 hi).resolve_left (Ne.symm hji))
        rw [rank, peersOf] at hrest
        rw [rank, List.takeWhile_cons_of_pos (by simpa using hji), peersOf, peersOf]
        by_cases hb : (base j == base i) = true
        · rw [List.filter_cons_of_pos (p := (base · == base i)) hb,
            List.filter_cons_of_pos (p := (base · == base i)) hb, List.length_cons,
            List.idxOf_cons_ne _ hji, hrest]
          rfl
        · rw [List.filter_cons_of_neg (p := (base · == base i)) hb,
            List.filter_cons_of_neg (p := (base · == base i)) hb, hrest]
          rfl

theorem countedLetter_eq_some_iff {i : Nat} {n : Int} :
    countedLetter base order i = some n ↔
      (i ∈ order ∧ base i ≠ "" ∧ 1 < (peersOf base order i).length) ∧
        n = rank base order i := by
  rw [countedLetter, Option.ite_none_right_eq_some, Option.some.injEq, eq_comm (a := n)]

-- Entries with one text have different counts.
theorem eq_of_rank_eq {i j : Nat} (hi : i ∈ order) (hj : j ∈ order) (hb : base i = base j)
    (h : rank base order i = rank base order j) : i = j := by
  rw [rank_eq_idxOf hi, rank_eq_idxOf hj, ← peersOf_congr hb] at h
  exact (List.idxOf_inj (mem_peersOf.2 ⟨hi, rfl⟩)).1 h

-- So they have different letters.
theorem eq_of_countedLetter_eq {i j : Nat} {n : Int} (hb : base i = base j)
    (hi : countedLetter base order i = some n) (hj : countedLetter base order j = some n) :
    i = j := by
  rw [countedLetter_eq_some_iff] at hi hj
  exact eq_of_rank_eq hi.1.1 hj.1.1 hb (Int.ofNat.inj (hi.2.symm.trans hj.2))

-- Every lesser count is that of an entry before, with the same text.
theorem exists_before_of_lt_rank (hnd : order.Nodup) {i k : Nat} (hi : i ∈ order)
    (hk : k < rank base order i) :
    ∃ j, Before order j i ∧ base j = base i ∧ rank base order j = k := by
  have hmem : i ∈ peersOf base order i := mem_peersOf.2 ⟨hi, rfl⟩
  rw [rank_eq_idxOf hi] at hk
  have hlt := Nat.lt_trans hk (List.idxOf_lt_length_iff.2 hmem)
  have hpeers : (peersOf base order i).Nodup := hnd.filter _
  have hj := mem_peersOf.1 (List.getElem_mem hlt)
  refine ⟨(peersOf base order i)[k], ?_, hj.2, ?_⟩
  · -- The entry stands in the part of the peers up to the other one.
    have hpair : [(peersOf base order i)[k], i].Sublist
        ((peersOf base order i).take ((peersOf base order i).idxOf i) ++
          (peersOf base order i).drop ((peersOf base order i).idxOf i)) := by
      refine (List.singleton_sublist.2 ?_).append (List.singleton_sublist.2 ?_)
      · rw [List.mem_take_iff_idxOf_lt (List.getElem_mem hlt), hpeers.idxOf_getElem]
        exact hk
      · rw [List.drop_eq_getElem_cons (List.idxOf_lt_length_iff.2 hmem), List.getElem_idxOf]
        exact List.mem_cons_self
    rw [List.take_append_drop] at hpair
    exact hpair.trans List.filter_sublist
  · rw [rank_eq_idxOf hj.1, peersOf_congr hj.2, hpeers.idxOf_getElem]

-- More entries behind do not change the letter of an entry that has one.
theorem countedLetter_of_front {entries : List Nat} (h : order <+: entries) {i : Nat} {n : Int}
    (hi : countedLetter base order i = some n) : countedLetter base entries i = some n := by
  rw [countedLetter_eq_some_iff] at hi ⊢
  rcases hi with ⟨⟨hmem, hne, hlen⟩, hn⟩
  have hpeers : peersOf base order i <+: peersOf base entries i := h.filter _
  have hmem' := h.subset hmem
  refine ⟨⟨hmem', hne, Nat.lt_of_lt_of_le hlen hpeers.length_le⟩, ?_⟩
  rw [hn, rank_eq_idxOf hmem, rank_eq_idxOf hmem',
    hpeers.idxOf_eq_of_mem (mem_peersOf.2 ⟨hmem, rfl⟩)]

/-! ## Texts with letters -/

-- Nothing but the letter shows.
theorem TextAndLetter.lettersOnly (hr : TextAndLetter base r) : LettersOnly r := by
  intro i d e hde
  rw [hr, hr, EntryDisambiguation.letters?, EntryDisambiguation.letters?, hde]

-- Without a letter an entry shows its text.
theorem TextAndLetter.key_of_none (hr : TextAndLetter base r) (i : Nat) {d : EntryDisambiguation}
    (hd : d.yearSuffix = none) : r.key i d = .ok (base i) := by
  rw [hr, EntryDisambiguation.letters?, hd]
  simp only [Except.map, Option.getD_none, String.append_empty]

theorem TextAndLetter.sameBase_iff (hr : TextAndLetter base r) {σ : States} {i j : Nat} :
    SameBase r σ i j ↔ base i = base j := by
  simp only [SameBase, hr.key_of_none _ (d := (σ _).withoutSuffix) rfl, Except.ok.injEq]
  exact ⟨fun ⟨key, hi, hj⟩ => hi.trans hj.symm, fun h => ⟨base i, rfl, h.symm⟩⟩

-- Of two texts that go on with letters, one is the other one with some of the letters.
theorem Unambiguous.eq_of_append_eq (hu : Unambiguous base) {i j : Nat} {s s' : String}
    (hs : ∀ c ∈ s.toList, c.isLower = true) (hs' : ∀ c ∈ s'.toList, c.isLower = true)
    (h : base i ++ s = base j ++ s') : base i = base j := by
  have hfront : ∀ {k l : Nat} {m : List Char}, (∀ c ∈ m, c.isLower = true) →
      (base k).toList = (base l).toList ++ m → base k = base l := by
    intro k l m hm heq
    refine hu k l (String.ofList m) (by rw [String.toList_ofList]; exact hm) ?_
    exact String.toList_injective (by rw [heq, String.toList_append, String.toList_ofList])
  have hlists := congrArg String.toList h
  rw [String.toList_append, String.toList_append, List.append_eq_append_iff] at hlists
  rcases hlists with ⟨m, hm, hrest⟩ | ⟨m, hm, hrest⟩
  · exact (hfront (fun c hc => hs c (by rw [hrest]; exact List.mem_append_left _ hc)) hm).symm
  · exact hfront (fun c hc => hs' c (by rw [hrest]; exact List.mem_append_left _ hc)) hm

/-- A text with a letter tells both. -/
theorem TextAndLetter.legible (hr : TextAndLetter base r) (hu : Unambiguous base) :
    Legible r := by
  intro i j d e key _ _ hi hj
  rw [hr] at hi hj
  cases hs : d.letters? with
  | error e => rw [hs] at hi; exact absurd hi (by simp [Except.map])
  | ok s =>
      cases hs' : e.letters? with
      | error e => rw [hs'] at hj; exact absurd hj (by simp [Except.map])
      | ok s' =>
          rw [hs] at hi
          rw [hs'] at hj
          have hboth : base i ++ s.getD "" = base j ++ s'.getD "" :=
            (Except.ok.inj hi).trans (Except.ok.inj hj).symm
          have htext : base i = base j :=
            hu.eq_of_append_eq (EntryDisambiguation.isLower_of_letters? hs)
              (EntryDisambiguation.isLower_of_letters? hs') hboth
          have hletters : (s.getD "").toList = (s'.getD "").toList := by
            have hlists := congrArg String.toList hboth
            rw [String.toList_append, String.toList_append, htext] at hlists
            exact List.append_cancel_left hlists
          refine ⟨EntryDisambiguation.yearSuffix_eq_of_letters hs hs' hletters, ?_⟩
          rw [hr.key_of_none i rfl, hr.key_of_none j rfl, htext]

/-! ## Counted states -/

/-- States with no letter but the right ones, and with nothing else. -/
structure Counted (base : Nat → String) (order : List Nat) (σ : States) : Prop where
  plain : ∀ i, σ i = { yearSuffix := (σ i).yearSuffix }
  letter : ∀ i, (σ i).yearSuffix = none ∨ (σ i).yearSuffix = countedLetter base order i

theorem Counted.countedLetter_eq {σ : States} (h : Counted base order σ) {i : Nat} {n : Int}
    (hi : (σ i).yearSuffix = some n) : countedLetter base order i = some n := by
  rcases h.letter i with hnone | hletter
  · rw [hi] at hnone
    exact absurd hnone (Option.some_ne_none n)
  · rw [← hletter, hi]

-- Entries with one text have different letters.
theorem Counted.eq_of_letter_eq {σ : States} (h : Counted base order σ) {i j : Nat} {n : Int}
    (hb : base i = base j) (hi : (σ i).yearSuffix = some n) (hj : (σ j).yearSuffix = some n) :
    i = j :=
  eq_of_countedLetter_eq hb (h.countedLetter_eq hi) (h.countedLetter_eq hj)

-- So letters are spread.
theorem Counted.spread (hr : TextAndLetter base r) {σ : States} (h : Counted base order σ) :
    Spread r order σ where
  mem := fun i hi => by
    rcases Option.ne_none_iff_exists'.1 hi with ⟨n, hn⟩
    exact (countedLetter_eq_some_iff.1 (h.countedLetter_eq hn)).1.1
  distinct := fun i j hij hsame heq => by
    by_contra hi
    rcases Option.ne_none_iff_exists'.1 hi with ⟨n, hn⟩
    exact hij (h.eq_of_letter_eq (hr.sameBase_iff.1 hsame) hn (heq ▸ hn))

-- States without letters are alike.
theorem Counted.eq_of_none {σ τ : States} (h : Counted base order σ) (h' : Counted base order τ)
    {i : Nat} (hi : (σ i).yearSuffix = none) (hi' : (τ i).yearSuffix = none) : τ i = σ i := by
  rw [h'.plain i, h.plain i, hi, hi']

-- Giving an entry its letter.
theorem Counted.update {σ : States} (h : Counted base order σ) {i : Nat} {n : Int}
    (hi : countedLetter base order i = some n) :
    Counted base order (Function.update σ i { σ i with yearSuffix := some n }) := by
  constructor
  · intro j
    by_cases hj : j = i
    · rw [hj, Function.update_self, h.plain i]
    · rw [Function.update_of_ne hj]
      exact h.plain j
  · intro j
    by_cases hj : j = i
    · rw [hj, Function.update_self, hi]
      exact Or.inr rfl
    · rw [Function.update_of_ne hj]
      exact h.letter j

-- Letters that are right stay right when entries are added.
theorem Counted.of_front {σ : States} {entries : List Nat} (h : Counted base order σ)
    (hfront : order <+: entries) : Counted base entries σ where
  plain := h.plain
  letter := fun i => by
    cases hi : (σ i).yearSuffix with
    | none => exact Or.inl rfl
    | some n => exact Or.inr (countedLetter_of_front hfront (h.countedLetter_eq hi)).symm

-- No state that entries grow to from counted states has a letter that cannot be shown.
theorem Counted.not_rendering {α : Type} {among : List Nat} {reported : α → List Nat}
    {x : EStateM.Result (ResolveError NegativeSuffix) Tracker α} (hr : TextAndLetter base r)
    {σ : States} (h : Counted base order σ) (hx : Grows r among reported σ x)
    (e : NegativeSuffix) (v : Tracker) : x ≠ .error (.rendering e) v := by
  rintro rfl
  cases hx with
  | @rendering i d _ _ growth key shown =>
      have hfirst : 0 ≤ firstLetter (σ i) := by
        cases hi : (σ i).yearSuffix with
        | none => simp only [firstLetter, hi, Int.le_refl]
        | some n =>
            have hn := (countedLetter_eq_some_iff.1 (h.countedLetter_eq hi)).2
            simp only [firstLetter, hi]
            omega
      have hletter : ∀ n, d.yearSuffix = some n → 0 ≤ n := by
        intro n hn
        rcases shown with hgrown | hgrown
        · rcases hgrown.letter with heq | ⟨m, hm, hle⟩
          · rw [hn] at heq
            have hcount := (countedLetter_eq_some_iff.1 (h.countedLetter_eq heq.symm)).2
            omega
          · rw [hn, Option.some.injEq] at hm
            omega
        · rcases hgrown.letter with heq | ⟨m, hm, hle⟩
          · rw [hn] at heq
            exact absurd heq (Option.some_ne_none n)
          · rw [hn, Option.some.injEq] at hm
            have hzero : firstLetter (σ i).withoutSuffix = 0 := rfl
            omega
      rw [hr, EntryDisambiguation.letters?] at key
      cases hd : d.yearSuffix with
      | none =>
          rw [hd] at key
          exact absurd key (by simp [Except.map])
      | some n =>
          have hn := hletter n hd
          rw [hd] at key
          simp only [YearSuffix.lettersAt, if_neg (Int.not_lt.2 hn)] at key
          exact absurd key (by simp [Except.map])

/-! ## Letters for a group -/

/-- A group with a common text that may be given letters: whoever of the entries with its text has
    no letter is a member, and there are several of these entries. -/
structure Ripe (base : Nat → String) (order : List Nat) (σ : States) (text : String)
    (group : List Nat) : Prop where
  sublist : group.Sublist order
  before : ∀ i ∈ group, ∀ j ∈ group, Before order j i → Before group j i
  text_ne : text ≠ ""
  text_eq : ∀ i ∈ group, base i = text
  crowded : ∀ i ∈ group, 1 < (peersOf base order i).length
  missing : ∀ i ∈ order, base i = text → (σ i).yearSuffix = none → i ∈ group

theorem Growth.letter_ne_none {among : List Nat} {σ τ : States} (h : Growth among σ τ) {i : Nat}
    (hi : (σ i).yearSuffix ≠ none) : (τ i).yearSuffix ≠ none := by
  rcases (h.grown i).letter with heq | ⟨n, hn, -⟩
  · rw [heq]
    exact hi
  · rw [hn]
    exact Option.some_ne_none n

-- A group stays ripe when letters are given.
theorem Ripe.growth {among : List Nat} {σ τ : States} {text : String} {group : List Nat}
    (h : Ripe base order σ text group) (hgrowth : Growth among σ τ) :
    Ripe base order τ text group where
  sublist := h.sublist
  before := h.before
  text_ne := h.text_ne
  text_eq := h.text_eq
  crowded := h.crowded
  missing := fun i hi hb hnone => h.missing i hi hb (by
    by_contra hsome
    exact hgrowth.letter_ne_none hsome hnone)

-- The entries with a key are ripe, if that is their text and nobody without a letter is missing.
theorem ripe_withKey (hnd : order.Nodup) {σ : States} {keys : Assoc Nat String} {text : String}
    (hne : text ≠ "") (htext : ∀ i ∈ withKey keys order text, base i = text)
    (hmissing : ∀ i ∈ order, base i = text → (σ i).yearSuffix = none →
      keys.lookup i = some text) (hlen : 1 < (withKey keys order text).length) :
    Ripe base order σ text (withKey keys order text) where
  sublist := withKey_sublist text
  before := fun i hi j hj hbefore => by
    have hpair := hbefore.filter (keys.lookup · == some text)
    rw [List.filter_eq_self.2] at hpair
    · exact hpair
    · intro k hk
      rcases List.mem_cons.1 hk with rfl | hk
      · exact beq_iff_eq.2 (mem_withKey.1 hj).2
      · rw [List.mem_singleton.1 hk]
        exact beq_iff_eq.2 (mem_withKey.1 hi).2
  text_ne := hne
  text_eq := htext
  crowded := fun i hi => by
    have hsub : withKey keys order text ⊆ peersOf base order i := by
      intro j hj
      exact mem_peersOf.2 ⟨(mem_withKey.1 hj).1, (htext j hj).trans (htext i hi).symm⟩
    have hgroup : (withKey keys order text).Nodup := hnd.filter _
    exact Nat.lt_of_lt_of_le hlen (List.subperm_of_subset hgroup hsub).length_le
  missing := fun i hi hb hnone => mem_withKey.2 ⟨hi, hmissing i hi hb hnone⟩

/-- The next letter of an entry is the right one, if all entries before it with its text have
    letters. -/
theorem isNextLetter_rank (hr : TextAndLetter base r) (hnd : order.Nodup) {σ : States}
    (h : Counted base order σ) {i : Nat} (hi : i ∈ order) (hnone : (σ i).yearSuffix = none)
    (hbefore : ∀ j, Before order j i → base j = base i → (σ j).yearSuffix ≠ none) :
    IsNextLetter r order σ i (rank base order i) where
  first_le := by
    simp only [firstLetter, hnone]
    exact Int.natCast_nonneg _
  unused := fun j hj hji hsame heq => by
    have hcount := (countedLetter_eq_some_iff.1 (h.countedLetter_eq heq)).2
    have hb := hr.sameBase_iff.1 hsame
    exact hji (eq_of_rank_eq hj hi hb.symm (Int.ofNat.inj hcount.symm))
  least := fun k hle hlt => by
    simp only [firstLetter, hnone] at hle
    have hlt' : k.toNat < rank base order i := by omega
    rcases exists_before_of_lt_rank hnd hi hlt' with ⟨j, hj, hb, hrank⟩
    refine ⟨j, hj.subset List.mem_cons_self, ?_, hr.sameBase_iff.2 hb.symm, ?_⟩
    · rintro rfl
      omega
    · rcases Option.ne_none_iff_exists'.1 (hbefore j hj hb) with ⟨n, hn⟩
      have hcount := (countedLetter_eq_some_iff.1 (h.countedLetter_eq hn)).2
      rw [hn, hcount, hrank, Int.toNat_of_nonneg hle]

-- An entry of a ripe group keeps its letter, or gets the right one.
theorem giveLetter_counted (hr : TextAndLetter base r) (hnd : order.Nodup) {text : String}
    {past rest : List Nat} {i : Nat} {t v : Tracker} {seen : List Int} {a : Bool}
    (h : t.Paired r order t) (hc : Counted base order t.state)
    (hripe : Ripe base order t.state text (past ++ i :: rest))
    (hpast : ∀ j ∈ past, (t.state j).yearSuffix ≠ none)
    (hseen : ∀ n, n ∈ seen ↔ ∃ j ∈ past, (t.state j).yearSuffix = some n)
    (hrun : giveLetter r seen i t = .ok a v) : Counted base order v.state := by
  have hmem : i ∈ past ++ i :: rest := List.mem_append_right _ List.mem_cons_self
  have hgroup : (past ++ i :: rest).Nodup := hnd.sublist hripe.sublist
  have hi : i ∈ order := hripe.sublist.subset hmem
  have hb : base i = text := hripe.text_eq i hmem
  unfold giveLetter at hrun
  rw [get_bind] at hrun
  by_cases hkeep : (t.state i).yearSuffix.any (!seen.contains ·) = true
  · rw [if_pos hkeep] at hrun
    injection hrun with _ hv
    rw [← hv]
    exact hc
  · rw [if_neg hkeep] at hrun
    -- No entry of the past has the letter of this one, if it has a letter.
    have hnone : (t.state i).yearSuffix = none := by
      by_contra hsome
      rcases Option.ne_none_iff_exists'.1 hsome with ⟨n, hn⟩
      rw [hn, Option.any_some, Bool.not_eq_true, Bool.not_eq_false', List.contains_iff_mem,
        hseen] at hkeep
      rcases hkeep with ⟨j, hj, hjn⟩
      have hbj := hripe.text_eq j (List.mem_append_left _ hj)
      have hji := hc.eq_of_letter_eq (hbj.trans hb.symm) hjn hn
      exact (List.nodup_append.1 hgroup).2.2 j hj i List.mem_cons_self hji
    -- Whoever comes before it has a letter: those without one are members that are in the past.
    have hbefore : ∀ j, Before order j i → base j = base i → (t.state j).yearSuffix ≠ none := by
      intro j hj hbj hnone'
      have hjg := hripe.missing j (hj.subset List.mem_cons_self) (hbj.trans hb) hnone'
      exact hpast j ((hripe.before i hmem j hjg hj).mem_of_append hgroup) hnone'
    rw [commit_state hrun, (nextLetter_spec h hi).unique
      (isNextLetter_rank hr hnd hc hi hnone hbefore)]
    refine hc.update (countedLetter_eq_some_iff.2 ⟨⟨hi, ?_, hripe.crowded i hmem⟩, rfl⟩)
    rw [hb]
    exact hripe.text_ne

/-- Giving letters to a ripe group leaves counted states, and all of its members have letters. -/
theorem assignSuffixes_counted (hr : TextAndLetter base r) (hnd : order.Nodup) {text : String}
    {members : List Nat} {t v : Tracker} {c : List Nat} (h : t.Paired r order t)
    (hc : Counted base order t.state) (hripe : Ripe base order t.state text members)
    (hrun : assignSuffixes r [] members t = .ok c v) :
    Counted base order v.state ∧ ∀ i ∈ members, (v.state i).yearSuffix ≠ none := by
  have hall := assignSuffixes_induct (I := fun past σ => Counted base order σ ∧
    Ripe base order σ text members ∧ ∀ j ∈ past, (σ j).yearSuffix ≠ none) hnd hripe.sublist ?_ h
    ⟨hc, hripe, fun j hj => absurd hj List.not_mem_nil⟩ hrun
  · exact ⟨hall.1, hall.2.2⟩
  · rintro past rest i seen u w a hmem hu hseen ⟨hcu, hru, hpast⟩ hgive
    have hsub : (past ++ i :: rest).Sublist order := by
      rw [hmem]
      exact hripe.sublist
    have hcw := giveLetter_counted hr hnd hu hcu (by rw [hmem]; exact hru) hpast hseen hgive
    have hgrows := giveLetter_grows (r := r) (List.mem_singleton_self i) seen u
    rw [hgive] at hgrows
    refine ⟨hcw, hru.growth hgrows.growth, fun j hj => ?_⟩
    rcases List.mem_append.1 hj with hj | hj
    · exact hgrows.growth.letter_ne_none (hpast j hj)
    · -- The entry has the letter that it kept or got.
      rcases (giveLetter_advances (p := {}) hsub hseen hu).diagonal hgive with ⟨hgiven, -⟩
      rcases hgiven.given with ⟨n, hw, -⟩
      rw [List.mem_singleton.1 hj, hw, Function.update_self]
      exact Option.some_ne_none n

end Disambiguation

end CslProcessor
