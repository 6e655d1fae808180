import CslProcessor.Proofs.Disambiguation.Keeping

/-!
# Sequences of letters

The letters of entries with a common base key, over a history of resolutions.

After a resolution that succeeds either none of these entries has a letter, or each of them has one
of its own. Whatever came before, and whatever the states were at first, plays no part in this.

Whether an entry keeps its letter is another matter. It does, if the text of a cite tells both the
letter and the base key, letters are spread at first, and entries are only ever added: then nothing
at all changes about an entry that has a letter. Without the first of these conditions an entry may
lose its letter to an entry with another base key, although the two are told apart already.

## Main definitions

* `BaseClass`: The entries with a base key.
* `AllOrNone`: No entry has a letter, or each has one of its own.
* `reprints`: Works that keep their letters.
* `lookalikeYears`: Works that do not.

## Theorems

* `letters_allOrNone`: The letters after a resolution that succeeds.
* `AuthorDate.legible`: The plain author-date form tells letters and base keys.
* `resolve_steady`, `runCalls_steady`: What resolutions leave alone.
* `letters_kept`: Entries keep their letters.
* `letters_moved`: Entries that do not.
-/

namespace CslProcessor

namespace Disambiguation

variable {ε : Type} {p : Policy} {r : KeyRenderer ε} {order : List Nat}

/-! ## All or none -/

/-- The entries with a base key. -/
def BaseClass (r : KeyRenderer ε) (entries : List Nat) (σ : States) (key : String) (i : Nat) :
    Prop :=
  i ∈ entries ∧ r.key i (σ i).withoutSuffix = .ok key

/-- No entry of a class has a letter, or each of them has one that no other has. -/
def AllOrNone (σ : States) (members : Nat → Prop) : Prop :=
  (∀ i, members i → (σ i).yearSuffix = none) ∨
    ∀ i, members i → (σ i).yearSuffix ≠ none ∧
      ∀ j, members j → j ≠ i → (σ j).yearSuffix ≠ (σ i).yearSuffix

-- Letters that are in order for any two entries.
theorem AllOrNone.of_inOrder {σ : States} {members : Nat → Prop}
    (h : ∀ i j, members i → members j → i ≠ j → InOrder σ i j) : AllOrNone σ members := by
  by_cases hnone : ∀ i, members i → (σ i).yearSuffix = none
  · exact Or.inl hnone
  · -- One entry has a letter, so all of them have.
    simp only [not_forall] at hnone
    rcases hnone with ⟨k, hk, hsome⟩
    have hall : ∀ i, members i → (σ i).yearSuffix ≠ none := by
      intro i hi
      by_cases hik : i = k
      · rw [hik]
        exact hsome
      · exact fun hnone => hsome ((h i k hi hk hik).1.1 hnone)
    refine Or.inr fun i hi => ⟨hall i hi, fun j hj hji heq => ?_⟩
    exact hall j hj ((h j i hj hi hji).2 heq)

/-- At any time in a history of resolutions, once a resolution has succeeded, either none of the
    entries with a common base key that prints something has a letter, or each of them has one of
    its own. A renderer must not have failed before, as it might have done in the middle of giving
    letters; one whose failures are of an empty type cannot. -/
theorem letters_allOrNone (p : Policy) (states : Assoc Nat EntryDisambiguation)
    (calls : List (ResolveCall ε)) (call : ResolveCall ε) (hcons : Consistent (call :: calls))
    (hrender : ∀ e, Except.error e ∈ (runCalls (ResolveCall.run p) calls { states }).1 →
      ¬ e.IsRendering) {a : Resolution} {v : Tracker}
    (hok : call.run p (runCalls (ResolveCall.run p) calls { states }).2 = .ok a v) {key : String}
    (hne : key ≠ "") : AllOrNone v.state (BaseClass call.renderer call.entries v.state key) := by
  have hres := resolved_of_ok (runCalls_rests hcons states hrender) hok
  refine AllOrNone.of_inOrder fun i j hi hj hij => ?_
  have hmem : ∀ k ∈ call.entries, k ∈ ListSet.lastOccurrences call.entries :=
    fun k hk => ListSet.mem_lastOccurrences.2 hk
  exact hres.lettered i (hmem i hi.1) j (hmem j hj.1) hij List.not_mem_nil List.not_mem_nil
    ⟨key, hne, hi.2, hj.2⟩

set_option maxRecDepth 100000 in
theorem letters_allOrNone_namesakes :
    ∃ a v, (namesakes [0, 1]).run {} (runCalls (ResolveCall.run {}) [namesakes [0]] {}).2 =
        .ok a v ∧ (v.state 0).yearSuffix ≠ none ∧
      AllOrNone v.state (BaseClass (namesakes [0, 1]).renderer [0, 1] v.state "Doe 2020") := by
  have hok : (match (namesakes [0, 1]).run {}
      (runCalls (ResolveCall.run {}) [namesakes [0]] {}).2 with
      | .ok _ v => (v.state 0).yearSuffix.isSome
      | .error .. => false) = true := by decide +kernel
  have hreplies : (runCalls (ResolveCall.run {}) [namesakes [0]] {}).1.all (·.isOk) = true := by
    decide +kernel
  have hcons : Consistent [namesakes [0, 1], namesakes [0]] := by
    simp [Consistent, namesakes]
  cases hrun : (namesakes [0, 1]).run {}
      (runCalls (ResolveCall.run {}) [namesakes [0]] {}).2 with
  | ok a v =>
      rw [hrun] at hok
      refine ⟨a, v, rfl, Option.isSome_iff_ne_none.1 hok, ?_⟩
      exact letters_allOrNone {} [] [namesakes [0]] (namesakes [0, 1]) hcons
        (fun e he => absurd he (not_mem_error_of_all_isOk hreplies e)) hrun (by simp)
  | error e v =>
      rw [hrun] at hok
      exact absurd hok Bool.false_ne_true

/-! ## Resolutions that keep letters -/

-- Spread letters depend on nothing but the keys that are rendered.
theorem Spread.congr {r' : KeyRenderer ε} {entries : List Nat} {σ : States}
    (h : Spread r entries σ) (hkey : r'.key = r.key) : Spread r' entries σ where
  mem := h.mem
  distinct := by simpa only [SameBase, hkey] using h.distinct

/-- A resolution of all entries with letters, and possibly more, leaves every entry with a letter
    as it is, unless the renderer fails. -/
theorem resolve_steady (hl : Legible r) {t : Tracker} (ht : t.Rests r) {entries : List Nat}
    (hs : Spread r entries t.state)
    (hrender : ∀ e, replyOf (resolve p r entries t) = .error e → ¬ e.IsRendering) :
    Steady r entries t.state (stateAfter (resolve p r entries t)).state := by
  have hnd := ListSet.nodup_lastOccurrences entries
  rw [resolve_eq_resolveWithin] at hrender ⊢
  rcases resolveWithin_cases (p := p) ht entries with hfail | ⟨touched, v, hway, hstate, heq⟩
  · rcases hfail maxPasses with ⟨e, v, hv⟩
    rw [hv] at hrender
    exact absurd trivial (hrender _ rfl)
  · rw [heq] at hrender ⊢
    have hs' : Spread r (ListSet.lastOccurrences entries) v.state := by
      rw [hstate]
      exact hs.mono (fun i hi => ListSet.mem_lastOccurrences.2 hi)
    rcases (passes_lockstep (p := p) hnd maxPasses touched touched touched touched [] v v
      hway.paired rfl hway.lettered hway.lettered).cases with
      ⟨x, w, _, _, hw, -⟩ | ⟨e, w, -, hw, -⟩
    · have hsteady := passes_steady hl hnd maxPasses hway hs' hw
      rw [bind_of_ok hw]
      -- What comes after the passes writes no state, be there lookalikes left or not.
      have hconclude : (stateAfter ((conclude (ListSet.lastOccurrences entries) entries.length
          touched.length x.1 x.2 : Resolving ε Resolution) w)).state = w.state := by
        by_cases hnone : w.collisions (ListSet.lastOccurrences entries) x.1 = []
        · rw [conclude_of_nil hnone, stateAfter]
        · rw [conclude_of_ne_nil hnone]
          rfl
      rw [hconclude, ← hstate]
      exact ⟨hsteady.kept, hsteady.spread.mono fun i hi => ListSet.mem_lastOccurrences.1 hi⟩
    · rw [bind_of_error hw] at hrender
      exact absurd trivial (hrender _ rfl)

/-- A history of resolutions in which entries are only ever added leaves every entry with a letter
    as it is, and the letters spread over the entries that there have been. -/
theorem runCalls_steady (hl : Legible r) (calls : List (ResolveCall ε))
    (hkey : ∀ c ∈ calls, c.renderer.key = r.key)
    (hgrow : calls.Pairwise fun c d => ∀ i ∈ c.entries, i ∈ d.entries) :
    ∀ {t : Tracker} {start : List Nat}, (∀ c ∈ calls, t.Rests c.renderer) →
      Spread r start t.state → (∀ c ∈ calls, ∀ i ∈ start, i ∈ c.entries) →
      (∀ e, Except.error e ∈ (runCalls (ResolveCall.run p) calls t).1 → ¬ e.IsRendering) →
      ∃ entries, (∀ i ∈ entries, i ∈ start ∨ ∃ c ∈ calls, i ∈ c.entries) ∧
        Steady r entries t.state (runCalls (ResolveCall.run p) calls t).2.state := by
  induction calls with
  | nil =>
      intro t start _ hs _ _
      exact ⟨start, fun i hi => Or.inl hi, Steady.refl hs⟩
  | cons call rest ih =>
      intro t start hrests hs hcover hrender
      rw [List.pairwise_cons] at hgrow
      rw [runCalls_cons] at hrender ⊢
      have hcall : call ∈ call :: rest := List.mem_cons_self
      have hgood : ∀ e, replyOf (call.run p t) = .error e → ¬ e.IsRendering :=
        fun e he => hrender e (by rw [he]; exact List.mem_cons_self)
      have hfirst : Steady r call.entries t.state (stateAfter (call.run p t)).state := by
        have hstart : Spread call.renderer call.entries t.state :=
          (hs.mono (hcover call hcall)).congr (hkey call hcall)
        have hlegible : Legible call.renderer := by
          simpa only [Legible, hkey call hcall] using hl
        have hsteady := resolve_steady hlegible (hrests call hcall) hstart hgood
        exact ⟨hsteady.kept, hsteady.spread.congr (hkey call hcall).symm⟩
      have hrests' : ∀ c ∈ rest, (stateAfter (call.run p t)).Rests c.renderer := by
        intro c hc
        refine resolve_rests (hrests call hcall) (fun _ => ?_) call.entries hgood
        rw [hkey c (List.mem_cons_of_mem _ hc), hkey call hcall]
      rcases ih (fun c hc => hkey c (List.mem_cons_of_mem _ hc)) hgrow.2 hrests' hfirst.spread
        hgrow.1 (fun e he => hrender e (List.mem_cons_of_mem _ he)) with
        ⟨entries, hmem, hsteady⟩
      refine ⟨entries, fun i hi => ?_, ?_, hsteady.spread⟩
      · rcases hmem i hi with hi | ⟨c, hc, hi⟩
        · exact Or.inr ⟨call, hcall, hi⟩
        · exact Or.inr ⟨c, List.mem_cons_of_mem _ hc, hi⟩
      · intro i hi
        have hsame := hfirst.kept i hi
        rw [hsteady.kept i (by rw [hsame]; exact hi), hsame]

/-- Entries keep their letters. In any history of resolutions that render the same legible keys and
    in which entries are only ever added, starting from spread letters, nothing changes about an
    entry that has a letter, unless the renderer fails. -/
theorem letters_kept (p : Policy) (states : Assoc Nat EntryDisambiguation) (start : List Nat)
    (calls later : List (ResolveCall ε)) (hl : Legible r)
    (hkey : ∀ c ∈ calls ++ later, c.renderer.key = r.key)
    (hgrow : (calls ++ later).Pairwise fun c d => ∀ i ∈ c.entries, i ∈ d.entries)
    (hs : Spread r start ({ states } : Tracker).state)
    (hcover : ∀ c ∈ calls ++ later, ∀ i ∈ start, i ∈ c.entries)
    (hrender : ∀ e,
      Except.error e ∈ (runCalls (ResolveCall.run p) (calls ++ later) { states }).1 →
        ¬ e.IsRendering) {t u : Tracker}
    (ht : t = (runCalls (ResolveCall.run p) calls { states }).2)
    (hu : u = (runCalls (ResolveCall.run p) later t).2) {i : Nat}
    (hi : (t.state i).yearSuffix ≠ none) : u.state i = t.state i := by
  rw [List.pairwise_append] at hgrow
  rw [runCalls_append, ← ht] at hrender
  have hgood : ∀ e, Except.error e ∈ (runCalls (ResolveCall.run p) calls { states }).1 →
      ¬ e.IsRendering := fun e he => hrender e (List.mem_append_left _ he)
  have hcons : ∀ c ∈ later, Consistent (c :: calls) := by
    intro c hc d hd d' hd' _
    have hmem : ∀ x ∈ c :: calls, x ∈ calls ++ later := by
      intro x hx
      rcases List.mem_cons.1 hx with rfl | hx
      · exact List.mem_append_right _ hc
      · exact List.mem_append_left _ hx
    rw [hkey d (hmem d hd), hkey d' (hmem d' hd')]
  rcases runCalls_steady hl calls (fun c hc => hkey c (List.mem_append_left _ hc)) hgrow.1
    (fun c _ => Tracker.Rests.of_none rfl) hs
    (fun c hc => hcover c (List.mem_append_left _ hc)) hgood with ⟨entries, hmem, hsteady⟩
  rw [← ht] at hsteady
  -- The entries that there have been are among those of every later resolution.
  have hcover' : ∀ c ∈ later, ∀ i ∈ entries, i ∈ c.entries := by
    intro c hc j hj
    rcases hmem j hj with hj | ⟨d, hd, hj⟩
    · exact hcover c (List.mem_append_right _ hc) j hj
    · exact hgrow.2.2 d hd c hc j hj
  have hrests : ∀ c ∈ later, t.Rests c.renderer :=
    fun c hc => ht ▸ runCalls_rests (hcons c hc) states hgood
  rcases runCalls_steady (p := p) hl later (fun c hc => hkey c (List.mem_append_right _ hc))
    hgrow.2.1 hrests hsteady.spread hcover'
    (fun e he => hrender e (List.mem_append_right _ he)) with ⟨entries', -, hsteady'⟩
  rw [hu]
  exact hsteady'.kept i hi

/-! ## Legible forms -/

/-- The plain author-date form up to the letters. -/
def AuthorDate.front (a : AuthorDate) (d : EntryDisambiguation) : String :=
  ", ".intercalate ((a.shownNames d.extraNames).zipIdx.map fun ((family, given), i) =>
      nameText (d.level i) family given)
    ++ (if d.condition then " (" ++ a.title ++ ")" else "") ++ " " ++ a.year

-- The letters come last.
theorem AuthorDate.key_eq {a : AuthorDate} (hblank : a.blank = false)
    (hshows : a.ignoresSuffix = false) (d : EntryDisambiguation) :
    a.key d = d.letters?.map fun s => a.front d ++ s.getD "" := by
  unfold key
  rw [hblank, hshows]
  cases d.letters? <;> rfl

-- Without its letters the form is what stands before them.
theorem AuthorDate.key_append {a : AuthorDate} (hshows : a.ignoresSuffix = false)
    {d : EntryDisambiguation} {text : String} (h : a.key d = .ok text) (hne : text ≠ "") :
    ∃ base s, base ≠ "" ∧ a.key d.withoutSuffix = .ok base ∧ d.letters? = .ok s ∧
      text = base ++ s.getD "" := by
  cases hblank : a.blank with
  | true =>
      unfold key at h
      rw [hblank] at h
      exact absurd (Except.ok.inj h).symm hne
  | false =>
      rw [key_eq hblank hshows] at h
      cases hletters : d.letters? with
      | error e =>
          rw [hletters] at h
          exact absurd h (by simp only [Except.map, reduceCtorEq, not_false_eq_true])
      | ok s =>
          rw [hletters] at h
          refine ⟨a.front d, s, ?_, ?_, rfl, (Except.ok.inj h).symm⟩
          · simp [front, String.append_eq_empty_iff]
          · have hnone : d.withoutSuffix.letters? = .ok none := rfl
            rw [key_eq hblank hshows, hnone, Except.map, Option.getD_none, String.append_empty]
            rfl

/-- The plain author-date form tells letters and base keys, if letters are shown and years have no
    lower case letters. -/
theorem AuthorDate.legible (id : Nat) {rows : List AuthorDate}
    (hrows : ∀ a ∈ rows, a.ignoresSuffix = false ∧ ∀ c ∈ a.year.toList, c.isLower = false) :
    Legible (renderer id rows) := by
  -- Whatever has text is a row, and the text without letters ends in no lower case letter.
  have hends : ∀ i d text, text ≠ "" → (renderer id rows).key i d = .ok text →
      ∃ base s l c, (renderer id rows).key i d.withoutSuffix = .ok base ∧ d.letters? = .ok s ∧
        text = base ++ s.getD "" ∧ c.isLower = false ∧ base.toList = l ++ [c] := by
    intro i d text hne hkey
    unfold renderer at hkey ⊢
    cases hrow : rows[i]? with
    | none =>
        simp only [hrow] at hkey
        exact absurd (Except.ok.inj hkey).symm hne
    | some a =>
        simp only [hrow] at hkey ⊢
        rcases hrows a (List.mem_of_getElem? hrow) with ⟨hshows, hyear⟩
        rcases key_append hshows hkey hne with ⟨base, s, hbase, hkey', hletters, htext⟩
        rcases key_ends hshows hyear hkey' hbase with ⟨l, c, s', hnone, hc, hl⟩
        rw [← Except.ok.inj hnone, Option.getD_none] at hl
        exact ⟨base, s, l, c, hkey', hletters, htext, hc, hl⟩
  intro i j d e text _ hne hi hj
  rcases hends i d text hne hi with ⟨base, s, l, c, hbase, hs, htext, hc, hl⟩
  rcases hends j e text hne hj with ⟨base', s', l', c', hbase', hs', htext', hc', hl'⟩
  have hlists : l ++ c :: (s.getD "").toList = l' ++ c' :: (s'.getD "").toList := by
    have hsame := congrArg String.toList (htext.symm.trans htext')
    rw [String.toList_append, String.toList_append, hl, hl', List.append_assoc,
      List.append_assoc] at hsame
    exact hsame
  have hletters := ends_eq hc hc' (EntryDisambiguation.isLower_of_letters? hs)
    (EntryDisambiguation.isLower_of_letters? hs') hlists
  refine ⟨EntryDisambiguation.yearSuffix_eq_of_letters hs hs' hletters, ?_⟩
  -- The same letters leave the same text before them.
  have hfront : base = base' := by
    rw [hletters, ← List.singleton_append, ← List.singleton_append (l := (s'.getD "").toList),
      ← List.append_assoc, ← List.append_assoc, ← hl, ← hl'] at hlists
    exact String.toList_injective (List.append_cancel_right hlists)
  rw [hbase, hbase', hfront]

/-- Three printings of one work, in a resolution of some of them. -/
def reprints (entries : List Nat) : ResolveCall NegativeSuffix where
  renderer := AuthorDate.renderer 0 (List.replicate 3 { names := [("Doe", "Ann")], year := "2020" })
  entries := entries

theorem reprints_legible (entries : List Nat) : Legible (reprints entries).renderer := by
  refine AuthorDate.legible 0 fun a ha => ?_
  rw [List.eq_of_mem_replicate ha]
  exact ⟨rfl, by simp⟩

set_option maxRecDepth 100000 in
theorem letters_kept_reprints :
    ((runCalls (ResolveCall.run {}) [reprints [0, 1]] {}).2.state 1).yearSuffix = some 1 ∧
      (runCalls (ResolveCall.run {}) [reprints [0, 1, 2]]
          (runCalls (ResolveCall.run {}) [reprints [0, 1]] {}).2).2.state 1 =
        (runCalls (ResolveCall.run {}) [reprints [0, 1]] {}).2.state 1 := by
  have hletter :
      ((runCalls (ResolveCall.run {}) [reprints [0, 1]] {}).2.state 1).yearSuffix = some 1 := by
    decide +kernel
  have hreplies : (runCalls (ResolveCall.run {})
      ([reprints [0, 1]] ++ [reprints [0, 1, 2]]) {}).1.all (·.isOk) = true := by decide +kernel
  have hstart : Spread (reprints []).renderer [] ({} : Tracker).state :=
    ⟨fun i hi => absurd rfl hi, fun i j _ _ _ => rfl⟩
  refine ⟨hletter, ?_⟩
  exact letters_kept {} [] [] [reprints [0, 1]] [reprints [0, 1, 2]] (reprints_legible [])
    (by simp [reprints]) (by simp [reprints]) hstart (by simp)
    (fun e he => absurd he (not_mem_error_of_all_isOk hreplies e)) rfl rfl
    (by rw [hletter]; exact Option.some_ne_none 1)

/-- Works of which the second and the third are alike, the fourth is printed like the second with
    its letter, and the first like the second with its letter and one more name. -/
def lookalikeYears (entries : List Nat) : ResolveCall NegativeSuffix where
  renderer := AuthorDate.renderer 0
    [{ names := [("Roe, X", "")], year := "2020a" },
      { names := [("Roe", ""), ("X", "")], shown := 1, year := "2020" },
      { names := [("Roe", ""), ("X", "")], shown := 1, year := "2020" },
      { names := [("Roe", "")], year := "2020a" }]
  entries := entries

set_option maxRecDepth 100000 in
/-- A work that loses its letter when another one is added, although no resolution fails. -/
theorem letters_moved :
    (runCalls (ResolveCall.run { methods := [.addNames] })
      [lookalikeYears [0, 1, 2], lookalikeYears [0, 1, 2, 3]] {}).1.all (·.isOk) = true ∧
    ((runCalls (ResolveCall.run { methods := [.addNames] })
      [lookalikeYears [0, 1, 2]] {}).2.state 1).yearSuffix = some 0 ∧
    ((runCalls (ResolveCall.run { methods := [.addNames] })
      [lookalikeYears [0, 1, 2], lookalikeYears [0, 1, 2, 3]] {}).2.state 1).yearSuffix =
        some 1 := by
  decide +kernel

end Disambiguation

end CslProcessor
