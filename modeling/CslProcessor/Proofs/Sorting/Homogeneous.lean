import CslProcessor.Proofs.Sorting.Entries
import CslProcessor.Proofs.Text.Digits
import Mathlib

/-!
# Sorting by values of one kind

Where all values under a key are of one kind, nothing is compared by its text, so that comparing
entries is an order. What this order is can be said without any comparison: terms stand for numbers,
texts and sequences, an entry stands in front of another under a key by the term of its value and
the direction of the key, or as an entry without a value by the policy of the key, and under several
keys the first one that does not tie decides.

Sorting needs a value under each key of each entry, if only that there is none, and these may be out
of reach: `squaredVolume_fails` shows a number whose digits cannot be read. This is the only way for
sorting to fail.

## Main definitions

* `SortTerm.Less`, `SortKey.InFront`, `RowInFront`: What stands in front of what.
* `SameTerms`: Two rows of values tie under all keys.
* `Homogeneous`: The values of some entries are of one kind under each key.
* `EntryInFront`, `EntriesTie`: The order of entries.

## Theorems

* `SortTerm.compare?_eq_lt_iff`, `SortTerm.compare?_eq_eq_iff`: Terms are compared by this order.
* `compareValues_spec`: So are rows of values of one kind.
* `sortEntries_isOk_iff`: When sorting returns.
* `sortEntries_sorted`: How entries are sorted, and that this does not depend on the order in which
  they come.
-/

namespace CslProcessor

/-! ## Terms -/

namespace SortTerm

/-- A term stands in front of another one. -/
inductive Less : SortTerm → SortTerm → Prop
  | number {m n : Int} (h : m < n) : Less (.number m) (.number n)
  | text {s t : String} (h : s < t) : Less (.text s) (.text t)
  /-- A sequence stands in front of those that go on behind it. -/
  | shorter {b : SortTerm} {bs : List SortTerm} : Less (.sequence []) (.sequence (b :: bs))
  | head {a b : SortTerm} {as bs : List SortTerm} (h : Less a b) :
      Less (.sequence (a :: as)) (.sequence (b :: bs))
  | tail {a : SortTerm} {as bs : List SortTerm} (h : Less (.sequence as) (.sequence bs)) :
      Less (.sequence (a :: as)) (.sequence (a :: bs))

mutual

/-- Terms that tie are the same. -/
theorem compare?_eq_eq_iff : ∀ a b : SortTerm, a.compare? b = some .eq ↔ a = b
  | .number a, .number b => by
      rw [compare?, Option.some.injEq, compare_eq_iff_eq, number.injEq]
  | .text a, .text b => by
      rw [compare?, Option.some.injEq, compare_eq_iff_eq, text.injEq]
  | .sequence as, .sequence bs => by
      rw [compare?, compareAll?_eq_eq_iff as bs, sequence.injEq]
  | .nothing, .nothing => by
      rw [compare?]
      exact ⟨fun _ => rfl, fun _ => rfl⟩
  | .number _, .text _ | .number _, .sequence _ | .number _, .nothing => by
      simp only [compare?, reduceCtorEq]
  | .text _, .number _ | .text _, .sequence _ | .text _, .nothing => by
      simp only [compare?, reduceCtorEq]
  | .sequence _, .number _ | .sequence _, .text _ | .sequence _, .nothing => by
      simp only [compare?, reduceCtorEq]
  | .nothing, .number _ | .nothing, .text _ | .nothing, .sequence _ => by
      simp only [compare?, reduceCtorEq]

theorem compareAll?_eq_eq_iff :
    ∀ as bs : List SortTerm, compareAll? as bs = some .eq ↔ as = bs
  | [], [] => by simp only [compareAll?]
  | [], _ :: _ | _ :: _, [] => by simp only [compareAll?, Option.some.injEq, reduceCtorEq]
  | a :: as, b :: bs => by
      have hheads := compare?_eq_eq_iff a b
      have htails := compareAll?_eq_eq_iff as bs
      rw [compareAll?, List.cons.injEq, ← hheads, ← htails]
      split <;> simp_all

end

mutual

/-- A term is less than another one if it stands in front of it. -/
theorem compare?_eq_lt_iff : ∀ a b : SortTerm, a.compare? b = some .lt ↔ Less a b
  | .number a, .number b => by
      rw [compare?, Option.some.injEq, compare_lt_iff_lt]
      exact ⟨.number, fun h => by cases h; assumption⟩
  | .text a, .text b => by
      rw [compare?, Option.some.injEq, compare_lt_iff_lt]
      exact ⟨.text, fun h => by cases h; assumption⟩
  | .sequence as, .sequence bs => by
      rw [compare?, compareAll?_eq_lt_iff as bs]
  | .nothing, .nothing => ⟨nofun, nofun⟩
  | .number _, .text _ | .number _, .sequence _ | .number _, .nothing => ⟨nofun, nofun⟩
  | .text _, .number _ | .text _, .sequence _ | .text _, .nothing => ⟨nofun, nofun⟩
  | .sequence _, .number _ | .sequence _, .text _ | .sequence _, .nothing => ⟨nofun, nofun⟩
  | .nothing, .number _ | .nothing, .text _ | .nothing, .sequence _ => ⟨nofun, nofun⟩

theorem compareAll?_eq_lt_iff :
    ∀ as bs : List SortTerm, compareAll? as bs = some .lt ↔ Less (.sequence as) (.sequence bs)
  | [], [] => ⟨nofun, nofun⟩
  | [], _ :: _ => ⟨fun _ => .shorter, fun _ => rfl⟩
  | _ :: _, [] => ⟨nofun, nofun⟩
  | a :: as, b :: bs => by
      have hheads := compare?_eq_lt_iff a b
      have htails := compareAll?_eq_lt_iff as bs
      rw [compareAll?]
      constructor
      · intro h
        cases hc : compare? a b with
        | none => simp [hc] at h
        | some o =>
            cases o with
            | lt => exact .head (hheads.1 hc)
            | gt => simp [hc] at h
            | eq =>
                rw [hc] at h
                rw [← (compare?_eq_eq_iff a b).1 hc]
                exact .tail (htails.1 h)
      · intro h
        cases h with
        | head h => rw [hheads.2 h]
        | tail h =>
            rw [(compare?_eq_eq_iff a a).2 rfl]
            exact htails.2 h

end

end SortTerm

/-! ## Values and rows -/

/-- An entry stands in front of another one under a key, by the values that they have under it. -/
inductive SortKey.InFront (key : SortKey) : Option SortValue → Option SortValue → Prop
  | missingFirst {w : SortValue} (h : key.missing = .first) : InFront key none (some w)
  | missingLast {v : SortValue} (h : key.missing = .last) : InFront key (some v) none
  | ascending {v w : SortValue} (hdirection : key.direction = .ascending)
      (h : v.term.Less w.term) : InFront key (some v) (some w)
  | descending {v w : SortValue} (hdirection : key.direction = .descending)
      (h : w.term.Less v.term) : InFront key (some v) (some w)

/-- An entry stands in front of another one by its row of values: under the first key under which
    they do not tie. -/
inductive RowInFront : List SortKey → List (Option SortValue) → List (Option SortValue) → Prop
  | here {key : SortKey} {keys : List SortKey} {a b : Option SortValue}
      {as bs : List (Option SortValue)} (h : key.InFront a b) :
      RowInFront (key :: keys) (a :: as) (b :: bs)
  | later {key : SortKey} {keys : List SortKey} {a b : Option SortValue}
      {as bs : List (Option SortValue)} (htie : a.map (·.term) = b.map (·.term))
      (h : RowInFront keys as bs) : RowInFront (key :: keys) (a :: as) (b :: bs)

/-- Two rows of values tie under all keys: they lack the same values and have the same terms. -/
def SameTerms (r r' : List (Option SortValue)) : Prop :=
  r.map (Option.map (·.term)) = r'.map (Option.map (·.term))

/-- Two values, so far as they are there, are of one kind. -/
def OfOneKind (a b : Option SortValue) : Prop :=
  ∀ v w, a = some v → b = some w → v.Proper ∧ w.Proper ∧ v.kind = w.kind

-- Values of one kind are compared by their terms.
theorem SortValue.cmp_spec {v w : SortValue} (hv : v.Proper) (hw : w.Proper)
    (hkind : v.kind = w.kind) :
    (v.cmp w = .lt ↔ v.term.Less w.term) ∧ (v.cmp w = .eq ↔ v.term = w.term) := by
  have hw' : v.kind.Admits w.term := hkind ▸ hw
  rcases SortKind.Admits.isLE_trans hv hw' hw' with ⟨o, -, -, ho, -⟩
  have hcmp : v.cmp w = o := by
    rw [cmp, if_pos (beq_iff_eq.2 hkind), ho]
    rfl
  rw [← SortTerm.compare?_eq_lt_iff, ← SortTerm.compare?_eq_eq_iff, ho, hcmp, Option.some.injEq,
    Option.some.injEq]
  exact ⟨Iff.rfl, Iff.rfl⟩

-- What a policy says of two entries, one of which has no value.
theorem MissingPolicy.order_spec (p : MissingPolicy) :
    (p.order = .lt ↔ p = .first) ∧ (p.order.swap = .lt ↔ p = .last) ∧ p.order ≠ .eq ∧
      p.order.swap ≠ .eq := by
  cases p <;> decide

theorem SortKey.cmp_spec (key : SortKey) {a b : Option SortValue} (h : OfOneKind a b) :
    (key.cmp a b = .lt ↔ key.InFront a b) ∧
      (key.cmp a b = .eq ↔ a.map (·.term) = b.map (·.term)) := by
  rcases key.missing.order_spec with ⟨hfirst, hlast, hne, hne'⟩
  rcases a with _ | v <;> rcases b with _ | w
  · exact ⟨⟨nofun, nofun⟩, fun _ => rfl, fun _ => rfl⟩
  · refine ⟨hfirst.trans ⟨.missingFirst, fun hfront => ?_⟩, fun heq => absurd heq hne, nofun⟩
    cases hfront with
    | missingFirst h => exact h
  · refine ⟨hlast.trans ⟨.missingLast, fun hfront => ?_⟩, fun heq => absurd heq hne', nofun⟩
    cases hfront with
    | missingLast h => exact h
  · rcases h v w rfl rfl with ⟨hv, hw, hkind⟩
    have hterms : some v.term = some w.term ↔ v.cmp w = .eq := by
      rw [Option.some.injEq, (SortValue.cmp_spec hv hw hkind).2]
    rw [cmp, Option.map_some, Option.map_some, hterms]
    cases hdirection : key.direction with
    | ascending =>
        refine ⟨(SortValue.cmp_spec hv hw hkind).1.trans ⟨.ascending hdirection, ?_⟩, Iff.rfl⟩
        rintro (_ | _ | ⟨-, h⟩ | ⟨h, -⟩)
        · exact h
        · rw [hdirection] at h
          cases h
    | descending =>
        rw [SortDirection.apply, ← SortValue.cmp_swap]
        refine ⟨(SortValue.cmp_spec hw hv hkind.symm).1.trans ⟨.descending hdirection, ?_⟩, ?_⟩
        · rintro (_ | _ | ⟨h, -⟩ | ⟨-, h⟩)
          · rw [hdirection] at h
            cases h
          · exact h
        · rw [SortValue.cmp_swap v w]
          cases v.cmp w <;> decide

/-- Rows of values of one kind are compared by the first key under which they do not tie. -/
theorem compareValues_spec (keys : List SortKey) :
    ∀ {r r' : List (Option SortValue)}, r.length = keys.length → List.Forall₂ OfOneKind r r' →
      (compareValues keys r r' = .lt ↔ RowInFront keys r r') ∧
        (compareValues keys r r' = .eq ↔ SameTerms r r') := by
  induction keys with
  | nil =>
      intro r r' hlength hkinds
      rw [List.eq_nil_of_length_eq_zero hlength] at hkinds ⊢
      rw [List.forall₂_nil_left_iff.1 hkinds]
      exact ⟨⟨nofun, nofun⟩, fun _ => rfl, fun _ => rfl⟩
  | cons key rest ih =>
      intro r r' hlength hkinds
      cases hkinds with
      | nil => cases hlength
      | @cons a b as bs hkind hkinds =>
          have hthen : ∀ o p : Ordering, (o.then p = .lt ↔ o = .lt ∨ o = .eq ∧ p = .lt) ∧
              (o.then p = .eq ↔ o = .eq ∧ p = .eq) := by decide
          rcases key.cmp_spec hkind with ⟨hlt, heq⟩
          rcases ih (Nat.succ.inj hlength) hkinds with ⟨hlts, heqs⟩
          rw [compareValues, (hthen _ _).1, (hthen _ _).2, hlt, heq, hlts, heqs]
          refine ⟨⟨?_, ?_⟩, ?_⟩
          · rintro (hfront | ⟨htie, hfront⟩)
            · exact .here hfront
            · exact .later htie hfront
          · rintro (hfront | ⟨htie, hfront⟩)
            · exact Or.inl hfront
            · exact Or.inr ⟨htie, hfront⟩
          · rw [SameTerms, SameTerms, List.map_cons, List.map_cons, List.cons.injEq]

/-! ## Entries -/

/-- The value of an entry under a key, or why there is none to be had. -/
def SortKey.valueOf (key : SortKey) (x : Entry × RenderContext) :
    Except RenderError (Option SortValue) :=
  replyOf (key.value x.1 x.2 [])

/-- The values of some entries are of one kind under each key, so far as they are there. -/
def Homogeneous (keys : List SortKey) (items : List (Entry × RenderContext)) : Prop :=
  ∀ key ∈ keys, ∀ x ∈ items, ∀ y ∈ items, ∀ v w, key.valueOf x = .ok (some v) →
    key.valueOf y = .ok (some w) → v.kind = w.kind

/-- An entry stands in front of another one by its values. -/
def EntryInFront (keys : List SortKey) (x y : Entry × RenderContext) : Prop :=
  ∃ r r', SortKey.row keys x = .ok r ∧ SortKey.row keys y = .ok r' ∧ RowInFront keys r r'

/-- Two entries tie under all keys. -/
def EntriesTie (keys : List SortKey) (x y : Entry × RenderContext) : Prop :=
  ∃ r r', SortKey.row keys x = .ok r ∧ SortKey.row keys y = .ok r' ∧ SameTerms r r'

namespace SortKey

-- What a value is does not depend on what was noticed before.
theorem replyOf_value (key : SortKey) (x : Entry × RenderContext) (n : List Render.Notice) :
    replyOf (key.value x.1 x.2 n) = key.valueOf x :=
  (Steady.value key x.1 x.2 n []).1

-- A row has the value under each key.
theorem valueOf_of_row {keys : List SortKey} {x : Entry × RenderContext}
    {r : List (Option SortValue)} (h : row keys x = .ok r) {k : Nat} (hk : k < keys.length)
    (hk' : k < r.length) : keys[k].valueOf x = .ok r[k] := by
  unfold row values at h
  cases hrun : (keys.mapM fun key : SortKey => key.value x.1 x.2) [] with
  | error e n =>
      rw [hrun] at h
      cases h
  | ok r' n =>
      rw [hrun] at h
      obtain rfl : r' = r := Except.ok.inj h
      have hzip : (keys[k], r'[k]) ∈ keys.zip r' :=
        List.mem_of_getElem? (i := k) (by simp [hk, hk'])
      rcases (mapM_eq_ok hrun).2 _ hzip with ⟨m, m', hvalue⟩
      rw [← replyOf_value _ x m, hvalue]
      rfl

-- There is a row if there is a value under each key.
theorem exists_row_iff {keys : List SortKey} {x : Entry × RenderContext} :
    (∃ r, row keys x = .ok r) ↔ ∀ key ∈ keys, ∃ v, key.valueOf x = .ok v := by
  constructor
  · rintro ⟨r, hr⟩ key hkey
    rcases List.getElem_of_mem hkey with ⟨k, hk, rfl⟩
    have hk' : k < r.length := (row_proper hr).1 ▸ hk
    exact ⟨r[k], valueOf_of_row hr hk hk'⟩
  · intro h
    have hvalues : ∀ key ∈ keys, ∀ n, ∃ v n', key.value x.1 x.2 n = .ok v n' := by
      intro key hkey n
      rcases h key hkey with ⟨v, hv⟩
      exact exists_ok_of_replyOf ((replyOf_value key x n).trans hv)
    rcases exists_mapM_eq_ok hvalues [] with ⟨r, n, hr⟩
    exact ⟨r, congrArg replyOf hr⟩

end SortKey

/-- Sorting returns if there is a value of each entry under each key, and only then. -/
theorem sortEntries_isOk_iff (keys : List SortKey) (items : List (Entry × RenderContext))
    (n : List Render.Notice) :
    (∃ order n', sortEntries keys items n = .ok order n') ↔
      ∀ x ∈ items, ∀ key ∈ keys, ∃ v, key.valueOf x = .ok v := by
  constructor
  · rintro ⟨order, n', h⟩ x hx
    exact SortKey.exists_row_iff.1 ⟨_, (rows_of_sortEntries h).1 x hx⟩
  · intro h
    unfold sortEntries
    by_cases hkeys : keys.isEmpty = true
    · exact ⟨_, n, by rw [if_pos hkeys]; rfl⟩
    · have hrows : ∀ x ∈ items, ∀ m, ∃ r m', SortKey.values keys x.1 x.2 m = .ok r m' := by
        intro x hx m
        rcases SortKey.exists_row_iff.2 (h x hx) with ⟨r, hr⟩
        exact exists_ok_of_replyOf ((replyOf_values keys x.1 x.2 m).trans hr)
      rcases exists_mapM_eq_ok hrows n with ⟨rows, n', hrun⟩
      rw [if_neg hkeys]
      exact ⟨_, n', bind_of_ok hrun _⟩

-- Rows of such entries have values of one kind at each position.
theorem Homogeneous.ofOneKind {keys : List SortKey} {items : List (Entry × RenderContext)}
    (h : Homogeneous keys items) {x y : Entry × RenderContext} (hx : x ∈ items) (hy : y ∈ items)
    {r r' : List (Option SortValue)} (hr : SortKey.row keys x = .ok r)
    (hr' : SortKey.row keys y = .ok r') : List.Forall₂ OfOneKind r r' := by
  rcases SortKey.row_proper hr with ⟨hlength, hproper⟩
  rcases SortKey.row_proper hr' with ⟨hlength', hproper'⟩
  rw [List.forall₂_iff_get]
  refine ⟨hlength.trans hlength'.symm, fun k hk hk' v w hv hw => ?_⟩
  have hkey : k < keys.length := hlength ▸ hk
  rw [List.get_eq_getElem] at hv hw
  refine ⟨hproper v (hv ▸ List.getElem_mem hk), hproper' w (hw ▸ List.getElem_mem hk'), ?_⟩
  refine h keys[k] (List.getElem_mem hkey) x hx y hy v w ?_ ?_
  · rw [SortKey.valueOf_of_row hr hkey hk, hv]
  · rw [SortKey.valueOf_of_row hr' hkey hk', hw]

-- No text stands between values of another kind, since there are none.
theorem Homogeneous.aligned {keys : List SortKey} {items : List (Entry × RenderContext)}
    (h : Homogeneous keys items) : Aligned fun r => ∃ x ∈ items, SortKey.row keys x = .ok r := by
  rintro k v w u ⟨r, ⟨x, hx, hr⟩, hv⟩ - ⟨r', ⟨y, hy, hr'⟩, hu⟩ - hkind
  rcases List.getElem?_eq_some_iff.1 hv with ⟨hk, hv⟩
  rcases List.getElem?_eq_some_iff.1 hu with ⟨hk', hu⟩
  have hkinds := (List.forall₂_iff_get.1 (h.ofOneKind hy hx hr' hr)).2 k hk' hk
  exact absurd (hkinds u v hu hv).2.2 hkind

/-- Entries with values of one kind under each key are sorted if all values can be had: to an order
    of their positions in which an entry never stands behind one that it should stand in front of,
    and ties stand as they did before. However they are rearranged, the outcome is the same, apart
    from ties. -/
theorem sortEntries_sorted {keys : List SortKey} {items : List (Entry × RenderContext)}
    (h : Homogeneous keys items) (n : List Render.Notice) :
    ((∃ order n', sortEntries keys items n = .ok order n') ↔
      ∀ x ∈ items, ∀ key ∈ keys, ∃ v, key.valueOf x = .ok v) ∧
    ∀ order n', sortEntries keys items n = .ok order n' →
      order.Perm (List.range items.length) ∧
      (order.Pairwise fun i j => ∀ x y, items[i]? = some x → items[j]? = some y →
        EntryInFront keys x y ∨ EntriesTie keys x y ∧ i < j) ∧
      ∀ items' m, items'.Perm items → ∃ order' m', sortEntries keys items' m = .ok order' m' ∧
        List.Forall₂ (EntriesTie keys) (order.filterMap (items[·]?))
          (order'.filterMap (items'[·]?)) := by
  refine ⟨sortEntries_isOk_iff keys items n, fun order n' hsort => ⟨sortEntries_perm hsort, ?_, ?_⟩⟩
  · have hrows := (rows_of_sortEntries hsort).1
    have horders : OrdersOn (compareValues keys) fun r => ∃ x ∈ items, rowOf keys x = r := by
      refine OrdersOn.mono (ordersOn_of_aligned (fun r ⟨x, _, hx⟩ => ⟨x, hx⟩) h.aligned) ?_
      rintro r ⟨x, hx, rfl⟩
      exact ⟨x, hx, hrows x hx⟩
    refine (sortEntries_stable hsort horders).imp fun {i j} hij x y hxi hyj => ?_
    have hx := List.mem_of_getElem? hxi
    have hy := List.mem_of_getElem? hyj
    rcases hij x y hxi hyj with ⟨hle, htie⟩
    have hspec := compareValues_spec keys (SortKey.row_proper (hrows x hx)).1
      (h.ofOneKind hx hy (hrows x hx) (hrows y hy))
    rw [compareValues_swap keys (rowOf keys x)] at hle
    cases hc : compareValues keys (rowOf keys x) (rowOf keys y) with
    | lt => exact Or.inl ⟨_, _, hrows x hx, hrows y hy, hspec.1.1 hc⟩
    | eq =>
        refine Or.inr ⟨⟨_, _, hrows x hx, hrows y hy, hspec.2.1 hc⟩, htie ?_⟩
        rw [hc]
        rfl
    | gt =>
        rw [hc] at hle
        exact absurd hle.symm Bool.false_ne_true
  · intro items' m hperm
    have hvalues := (sortEntries_isOk_iff keys items n).1 ⟨order, n', hsort⟩
    rcases (sortEntries_isOk_iff keys items' m).2
      fun x hx => hvalues x (hperm.mem_iff.1 hx) with ⟨order', m', hsort'⟩
    refine ⟨order', m', hsort', ?_⟩
    have hsame := sortEntries_forall₂ hperm hsort hsort' h.aligned
    have hmem := filterMap_getElem?_perm (sortEntries_perm hsort)
    have hmem' := (filterMap_getElem?_perm (sortEntries_perm hsort')).trans hperm
    rw [List.forall₂_iff_get] at hsame ⊢
    refine ⟨hsame.1, fun k hk hk' => ?_⟩
    rcases hsame.2 k hk hk' with ⟨r, r', hr, hr', htie⟩
    have hkinds := h.ofOneKind (hmem.mem_iff.1 (List.get_mem _ ⟨k, hk⟩))
      (hmem'.mem_iff.1 (List.get_mem _ ⟨k, hk'⟩)) hr hr'
    exact ⟨r, r', hr, hr', (compareValues_spec keys (SortKey.row_proper hr).1 hkinds).2.1 htie⟩

set_option maxRecDepth 100000 in
theorem sortEntries_sorted_volumes :
    ∃ m, sortEntries byVolume [volume "a" "9", volume "b" "9", volume "c" "10"] [] =
        .ok [0, 1, 2] m ∧
      ([0, 1, 2].Pairwise fun i j => ∀ x y,
        [volume "a" "9", volume "b" "9", volume "c" "10"][i]? = some x →
        [volume "a" "9", volume "b" "9", volume "c" "10"][j]? = some y →
        EntryInFront byVolume x y ∨ EntriesTie byVolume x y ∧ i < j) ∧
      ∃ order' m', sortEntries byVolume [volume "c" "10", volume "b" "9", volume "a" "9"] [] =
          .ok order' m' ∧
        List.Forall₂ (EntriesTie byVolume)
          ([0, 1, 2].filterMap ([volume "a" "9", volume "b" "9", volume "c" "10"][·]?))
          (order'.filterMap ([volume "c" "10", volume "b" "9", volume "a" "9"][·]?)) := by
  have hkind : ∀ key ∈ byVolume,
      ∀ x ∈ [volume "a" "9", volume "b" "9", volume "c" "10"], ∀ v,
        key.valueOf x = .ok (some v) → v.kind = .number := by
    intro key hkey x hx v hv
    rw [List.mem_singleton.1 hkey] at hv
    simp only [List.mem_cons, List.not_mem_nil, or_false] at hx
    rcases hx with rfl | rfl | rfl <;>
      exact congrArg SortValue.kind (Option.some.inj (Except.ok.inj hv)).symm
  have hhomogeneous : Homogeneous byVolume [volume "a" "9", volume "b" "9", volume "c" "10"] :=
    fun key hkey x hx y hy v w hv hw =>
      (hkind key hkey x hx v hv).trans (hkind key hkey y hy w hw).symm
  have hsort : ∃ m, sortEntries byVolume [volume "a" "9", volume "b" "9", volume "c" "10"] [] =
    .ok [0, 1, 2] m := ⟨_, rfl⟩
  rcases hsort with ⟨m, hsort⟩
  rcases (sortEntries_sorted hhomogeneous []).2 _ _ hsort with ⟨-, hpairs, hrearranged⟩
  exact ⟨m, hsort, hpairs, hrearranged _ []
    (List.reverse_perm [volume "a" "9", volume "b" "9", volume "c" "10"])⟩

-- What fails to be made of the value of a variable fails under a key that reads it.
theorem SortKey.value_of_unreadable {key : SortKey} {name : String} {e : Entry}
    {ctx : RenderContext} {v : Value} {err : RenderError} (hsource : key.source = .byVariable name)
    (hname : (name == "citation-number") = false) (hget : e.get? name = some v)
    (hvalue : SortValue.ofValue ctx.style.demoteParticle v = .error err)
    (n : List Render.Notice) : key.value e ctx n = .error err n := by
  unfold SortKey.value
  simp only [hsource, hname, hget, hvalue, Bool.false_eq_true, if_false]
  rfl

/-- A volume whose digits have no place value has no value to be compared by, and even by itself it
    is not sorted. -/
theorem squaredVolume_fails :
    Homogeneous byVolume [volume "a" "²"] ∧
      replyOf (sortEntries byVolume [volume "a" "²"] []) = .error (.notDecimal "²") := by
  have hstored : (volume "a" "²").1.stored? "volume" = some (.number ⟨"²"⟩) := rfl
  have hget : (volume "a" "²").1.get? "volume" = some (.number ⟨"²"⟩) := by
    rw [Entry.get?, hstored, Option.filter_some, Value.isVacant, NumberText.isBlank,
      superscriptTwo_core]
    rfl
  have hnumber : ∀ demote, SortValue.ofValue demote (.number ⟨"²"⟩) =
      .error (.notDecimal "²") := by
    intro demote
    rw [SortValue.ofValue, superscriptTwo_integer]
    rfl
  have hrow : SortKey.values byVolume (volume "a" "²").1 (volume "a" "²").2 [] =
      .error (.notDecimal "²") [] := by
    rw [SortKey.values, byVolume, List.mapM_cons]
    exact bind_of_error (SortKey.value_of_unreadable rfl rfl hget (hnumber _) []) _
  have hrows : [volume "a" "²"].mapM (fun x => SortKey.values byVolume x.1 x.2) [] =
      .error (.notDecimal "²") [] := by
    rw [List.mapM_cons]
    exact bind_of_error hrow _
  refine ⟨fun key hkey x hx y hy v w hv hw => ?_, ?_⟩
  · rw [List.mem_singleton.1 hx] at hv
    rw [List.mem_singleton.1 hy, hv] at hw
    rw [Option.some.inj (Except.ok.inj hw)]
  · have hkeys : ¬ byVolume.isEmpty = true := Bool.false_ne_true
    rw [sortEntries, if_neg hkeys, bind_of_error hrows]
    rfl

end CslProcessor
