import CslProcessor.Proofs.Sorting.Order
import Mathlib

/-!
# The order of entries

What entries are compared by, and when the order of a list of entries does not depend on the order
in which they come.

Any two entries compare as they should the other way round. But three entries may go round in a
circle, where kinds of values are mixed under a key: `mixedVolumes_cycle` shows three volumes and
two lists of them whose order depends on which one comes first. This is ruled out, for three entries
as for a list of them, where values of one kind are compared as their texts are as soon as the text
of a value of another kind stands between these. Under one key nothing less is enough.

## Main definitions

* `SortKey.row`: What an entry is compared by.
* `Aligned`: Some rows of values have no disagreement between values and texts.
* `FullTie`: Two entries compare as equal.

## Theorems

* `SortKey.value_proper`: The values of entries are made as they should be.
* `replyOf_values`: They do not depend on what was noticed before.
* `sortEntries_perm`: Sorting rearranges positions.
* `sortEntries_stable`: Sorted entries are in order, and ties stand as they did before.
* `sortEntries_order`: When comparing entries is an order, and what follows for sorting.
* `mixedVolumes_cycle`: Why it is not one for all entries.
-/

namespace CslProcessor

open Render (Rendering)

/-! ## The values of entries -/

namespace SortValue

theorem ofText_proper (s : String) : (ofText s).Proper :=
  ⟨s, rfl⟩

theorem ofNumber_proper (n : Int) (literal : String) : (ofNumber n literal).Proper :=
  ⟨n, rfl⟩

theorem ofDate_proper (d : CalendarDate) : (ofDate d).Proper :=
  ⟨[d.sortKey.1, d.sortKey.2.1, d.sortKey.2.2], rfl⟩

theorem ofNames_proper (demote : ParticleDemotion) (ns : List PersonName) :
    (ofNames demote ns).Proper := by
  refine ⟨ns.map fun n => [(nameSortKey demote n).1, (nameSortKey demote n).2.1,
    (nameSortKey demote n).2.2], ?_⟩
  simp only [ofNames, SortTerm.sequence.injEq, List.map_map]
  rfl

theorem ofValue_proper {demote : ParticleDemotion} {v : Value} {s : SortValue}
    (h : ofValue demote v = .ok s) : s.Proper := by
  cases v with
  | text t =>
      rw [← Except.ok.inj h]
      exact ofText_proper _
  | names ns =>
      rw [← Except.ok.inj h]
      exact ofNames_proper demote ns
  | date d =>
      rw [← Except.ok.inj h]
      exact ofDate_proper _
  | serial s =>
      rw [← Except.ok.inj h]
      exact ofText_proper _
  | number n =>
      simp only [ofValue] at h
      cases hn : RenderError.ofNumber n.integer with
      | error e =>
          rw [hn] at h
          cases h
      | ok k =>
          rw [hn] at h
          cases k with
          | none =>
              rw [← Except.ok.inj h]
              exact ofText_proper _
          | some k =>
              rw [← Except.ok.inj h]
              exact ofNumber_proper _ _

end SortValue

namespace SortKey

/-- The values of entries are made as they should be. -/
theorem value_proper {key : SortKey} {e : Entry} {ctx : RenderContext} {v : SortValue}
    {n n' : List Render.Notice} (h : key.value e ctx n = .ok (some v) n') : v.Proper := by
  unfold value at h
  cases hsource : key.source with
  | byMacro name =>
      simp only [hsource] at h
      rcases bind_eq_ok_iff.1 h with ⟨text, m, -, h⟩
      injection h with hv _
      by_cases hempty : text.isEmpty = true
      · rw [if_pos hempty] at hv
        cases hv
      · rw [if_neg hempty, Option.some.injEq] at hv
        rw [← hv]
        exact SortValue.ofText_proper _
  | byVariable name =>
      simp only [hsource] at h
      by_cases hnumber : (name == "citation-number") = true
      · rw [if_pos hnumber] at h
        injection h with hv _
        rcases Option.map_eq_some_iff.1 hv with ⟨k, -, rfl⟩
        exact SortValue.ofNumber_proper _ _
      · rw [if_neg hnumber] at h
        cases hget : e.get? name with
        | none =>
            rw [hget] at h
            cases h
        | some value =>
            simp only [hget] at h
            cases hvalue : SortValue.ofValue ctx.style.demoteParticle value with
            | error err =>
                rw [hvalue] at h
                cases h
            | ok s =>
                rw [hvalue] at h
                injection h with hv _
                rw [Option.some.injEq] at hv
                rw [← hv]
                exact SortValue.ofValue_proper hvalue

/-- What an entry is compared by, or why there is no such thing. -/
def row (keys : List SortKey) (x : Entry × RenderContext) :
    Except RenderError (List (Option SortValue)) :=
  replyOf (values keys x.1 x.2 [])

end SortKey

/-! ## Results do not depend on what was noticed -/

/-- Work whose result does not depend on what was noticed before. -/
def Steady {α : Type} (m : Rendering α) : Prop :=
  ∀ n n', SameReply (fun _ _ => True) (m n) (m n')

namespace Steady

variable {α β : Type}

theorem bind {m : Rendering α} {f : α → Rendering β} (hm : Steady m) (hf : ∀ a, Steady (f a)) :
    Steady (m >>= f) :=
  fun n n' => (hm n n').bind fun a v w _ => hf a v w

theorem pure (a : α) : Steady (Pure.pure a) :=
  fun _ _ => ⟨rfl, trivial⟩

theorem throw (e : RenderError) : Steady (MonadExcept.throw e : Rendering α) :=
  fun _ _ => ⟨rfl, trivial⟩

theorem mapM {f : α → Rendering β} (hf : ∀ a, Steady (f a)) (l : List α) :
    Steady (l.mapM f) := by
  induction l with
  | nil => exact pure []
  | cons a rest ih =>
      rw [List.mapM_cons]
      exact (hf a).bind fun _ => ih.bind fun _ => pure _

-- A walk starts without notices, whatever was noticed before.
theorem entryRuns (ctx : RenderContext) (e : Entry) (nodes : List Node) :
    Steady (Render.entryRuns ctx e nodes) := by
  intro n n'
  unfold Render.entryRuns
  cases Render.walkEntry ctx e nodes {} <;> exact ⟨rfl, trivial⟩

theorem renderMacro (ctx : RenderContext) (e : Entry) (name : String) :
    Steady (Render.renderMacro ctx e name) := by
  unfold Render.renderMacro
  cases ctx.style.macroNodes? name with
  | none => exact pure _
  | some nodes => exact ((entryRuns ctx e nodes).bind fun _ => pure _).bind fun _ => pure _

theorem value (key : SortKey) (e : Entry) (ctx : RenderContext) : Steady (key.value e ctx) := by
  unfold SortKey.value
  cases key.source with
  | byMacro name => exact (renderMacro _ e name).bind fun _ => pure _
  | byVariable name =>
      simp only
      by_cases hnumber : (name == "citation-number") = true
      · rw [if_pos hnumber]
        exact pure _
      · rw [if_neg hnumber]
        cases e.get? name with
        | none => exact pure _
        | some v =>
            simp only
            cases SortValue.ofValue ctx.style.demoteParticle v with
            | ok s => exact pure _
            | error err => exact throw err

end Steady

/-- What an entry is compared by does not depend on what was noticed before. -/
theorem replyOf_values (keys : List SortKey) (e : Entry) (ctx : RenderContext)
    (n : List Render.Notice) : replyOf (SortKey.values keys e ctx n) = SortKey.row keys (e, ctx) :=
  (Steady.mapM (fun key => Steady.value key e ctx) keys n []).1

-- There is a value for each key, if only that there is none, and all of them are as they should be.
theorem SortKey.row_proper {keys : List SortKey} {x : Entry × RenderContext}
    {r : List (Option SortValue)} (h : row keys x = .ok r) :
    r.length = keys.length ∧ ∀ v, some v ∈ r → v.Proper := by
  unfold row values at h
  cases hrun : (keys.mapM fun key : SortKey => key.value x.1 x.2) [] with
  | error e n =>
      rw [hrun] at h
      cases h
  | ok row n =>
      rw [hrun] at h
      rcases mapM_eq_ok hrun with ⟨hlength, hall⟩
      rw [← Except.ok.inj h]
      refine ⟨hlength, fun v hv => ?_⟩
      rcases List.getElem_of_mem hv with ⟨k, hk, hkv⟩
      have hkey : k < keys.length := hlength ▸ hk
      have hzip : (keys[k], some v) ∈ keys.zip row := by
        rw [← hkv]
        exact List.mem_of_getElem? (i := k) (by simp [hk, hkey])
      rcases hall _ hzip with ⟨m, m', hvalue⟩
      exact value_proper hvalue

/-! ## When comparing entries is an order -/

/-- Some rows of values have no disagreement between values and texts under any key. -/
def Aligned (S : List (Option SortValue) → Prop) : Prop :=
  ∀ k x y z, Column S k (some x) → Column S k (some y) → Column S k (some z) →
    SortValue.TextAligned x y z

/-- Rows of entries without a disagreement are in order. -/
theorem ordersOn_of_aligned {keys : List SortKey} {S : List (Option SortValue) → Prop}
    (hrows : ∀ r, S r → ∃ x, SortKey.row keys x = .ok r) (h : Aligned S) :
    OrdersOn (compareValues keys) S := by
  refine ordersOn_compareValues keys (fun r hr => ?_) fun k key _ => ?_
  · rcases hrows r hr with ⟨x, hx⟩
    exact (SortKey.row_proper hx).1
  · rw [key.ordersOn_iff, SortValue.ordersOn_iff]
    · exact fun x y z hx hy hz => h k x y z hx hy hz
    · rintro v ⟨r, hr, hv⟩
      rcases hrows r hr with ⟨x, hx⟩
      exact (SortKey.row_proper hx).2 v (List.mem_of_getElem? hv)

/-- Under one key rows of entries are in order only without a disagreement. -/
theorem aligned_of_ordersOn {key : SortKey} {S : List (Option SortValue) → Prop}
    (hrows : ∀ r, S r → ∃ x, SortKey.row [key] x = .ok r) (h : OrdersOn (compareValues [key]) S) :
    Aligned S := by
  have hone : ∀ r, S r → ∃ v, r = [v] := by
    intro r hr
    rcases hrows r hr with ⟨x, hx⟩
    exact List.length_eq_one_iff.1 (SortKey.row_proper hx).1
  have hcompare : ∀ u v, compareValues [key] [u] [v] = key.cmp u v := by
    intro u v
    change (key.cmp u v).then .eq = key.cmp u v
    cases key.cmp u v <;> rfl
  have hkey : OrdersOn key.cmp fun v => S [v] := by
    refine ⟨fun u v _ _ => key.cmp_swap u v, fun u v w hu hv hw => ?_⟩
    rw [← hcompare, ← hcompare, ← hcompare]
    exact h.trans [u] [v] [w] hu hv hw
  have hvalues := key.ordersOn_iff.1 hkey
  intro k x y z hx hy hz
  have hcolumn : ∀ {v}, Column S k (some v) → S [some v] := by
    rintro v ⟨r, hr, hv⟩
    rcases hone r hr with ⟨u, rfl⟩
    have hmem := List.mem_of_getElem? hv
    rw [List.mem_singleton.1 hmem]
    exact hr
  exact SortValue.textAligned_of_ordersOn hvalues (hcolumn hx) (hcolumn hy) (hcolumn hz)

/-! ## Sorted entries -/

/-- What an entry is compared by, nothing if there is no such thing. -/
def rowOf (keys : List SortKey) (x : Entry × RenderContext) : List (Option SortValue) :=
  match SortKey.row keys x with
  | .ok r => r
  | .error _ => []

/-- Two entries compare as equal under all keys. -/
def FullTie (keys : List SortKey) (x y : Entry × RenderContext) : Prop :=
  ∃ r r', SortKey.row keys x = .ok r ∧ SortKey.row keys y = .ok r' ∧
    compareValues keys r r' = .eq

/-- Sorting gives the positions of all entries, each of them once. -/
theorem sortEntries_perm {keys : List SortKey} {items : List (Entry × RenderContext)}
    {order : List Nat} {n n' : List Render.Notice}
    (h : sortEntries keys items n = .ok order n') : order.Perm (List.range items.length) := by
  unfold sortEntries at h
  by_cases hkeys : keys.isEmpty = true
  · simp only [if_pos hkeys] at h
    injection h with horder _
    rw [← horder]
  · simp only [if_neg hkeys] at h
    rcases bind_eq_ok_iff.1 h with ⟨rows, w, hrows, h⟩
    injection h with horder _
    rw [← horder, ← (mapM_eq_ok hrows).1]
    exact Insertion.sort_perm _ _

-- Members at positions that are all positions of a list are its members.
theorem filterMap_getElem?_perm {α : Type} {l : List α} {order : List Nat}
    (h : order.Perm (List.range l.length)) : (order.filterMap (l[·]?)).Perm l := by
  have hall : ∀ l : List α, (List.range l.length).filterMap (l[·]?) = l := by
    intro l
    induction l with
    | nil => rfl
    | cons a rest ih =>
        rw [List.length_cons, List.range_succ_eq_map, List.filterMap_cons, List.filterMap_map]
        exact congrArg (a :: ·) ih
  have hperm := h.filterMap (l[·]?)
  rw [hall l] at hperm
  exact hperm

-- Sorting succeeds if there is something to compare every entry by.
theorem rows_of_sortEntries {keys : List SortKey} {items : List (Entry × RenderContext)}
    {order : List Nat} {n n' : List Render.Notice} (h : sortEntries keys items n = .ok order n') :
    (∀ x ∈ items, SortKey.row keys x = .ok (rowOf keys x)) ∧
      (keys.isEmpty = true ∨ order = sortPositions keys (items.map (rowOf keys))) := by
  unfold sortEntries at h
  cases hkeys : keys.isEmpty with
  | true =>
      rw [List.isEmpty_iff.1 hkeys]
      exact ⟨fun x _ => rfl, Or.inl rfl⟩
  | false =>
      rw [hkeys, if_neg Bool.false_ne_true] at h
      rcases bind_eq_ok_iff.1 h with ⟨rows, m, hrows, h⟩
      injection h with horder _
      rcases mapM_eq_ok hrows with ⟨hlength, hall⟩
      have hrow : ∀ k (hk : k < items.length) (hk' : k < rows.length),
          SortKey.row keys items[k] = .ok rows[k] := by
        intro k hk hk'
        have hzip : (items[k], rows[k]) ∈ items.zip rows :=
          List.mem_of_getElem? (i := k) (by simp [hk, hk'])
        rcases hall _ hzip with ⟨v, w, hvalues⟩
        have hrun : SortKey.values keys items[k].1 items[k].2 v = .ok rows[k] w := hvalues
        rw [← replyOf_values keys items[k].1 items[k].2 v, hrun]
        rfl
      have hsame : ∀ k (hk : k < items.length) (hk' : k < rows.length),
          rowOf keys items[k] = rows[k] := by
        intro k hk hk'
        rw [rowOf, hrow k hk hk']
      refine ⟨fun x hx => ?_, Or.inr ?_⟩
      · rcases List.getElem_of_mem hx with ⟨k, hk, rfl⟩
        rw [hsame k hk (hlength ▸ hk)]
        exact hrow k hk (hlength ▸ hk)
      · rw [← horder]
        congr 1
        refine List.ext_getElem (by rw [List.length_map, hlength]) fun k hk hk' => ?_
        rw [List.getElem_map]
        exact (hsame k (hlength ▸ hk) hk).symm

/-- Sorted entries are in order, and those that compare as equal stand as they did before. -/
theorem sortEntries_stable {keys : List SortKey} {items : List (Entry × RenderContext)}
    {order : List Nat} {n n' : List Render.Notice} (h : sortEntries keys items n = .ok order n')
    (horders : OrdersOn (compareValues keys) fun r => ∃ x ∈ items, rowOf keys x = r) :
    order.Pairwise fun i j => ∀ x y, items[i]? = some x → items[j]? = some y →
      (compareValues keys (rowOf keys y) (rowOf keys x)).isLT = false ∧
        ((compareValues keys (rowOf keys x) (rowOf keys y)).isLT = false → i < j) := by
  rcases rows_of_sortEntries h with ⟨-, hkeys | horder⟩
  · -- Without keys all entries tie.
    rw [sortEntries, if_pos hkeys] at h
    injection h with horder _
    rw [← horder, List.isEmpty_iff.1 hkeys]
    exact List.pairwise_lt_range.imp fun hij _ _ _ _ => ⟨rfl, fun _ => hij⟩
  · have hat : ∀ i (hi : i < items.length),
        (items.map (rowOf keys)).getD i [] = rowOf keys items[i] := by
      intro i hi
      simp [List.getD, hi]
    have hpositions : OrdersOn (fun i j => compareValues keys
        ((items.map (rowOf keys)).getD i []) ((items.map (rowOf keys)).getD j []))
          fun i => i < items.length := by
      refine ⟨fun i j _ _ => compareValues_swap keys _ _, fun i j k hi hj hk => ?_⟩
      rw [hat i hi, hat j hj, hat k hk]
      exact horders.trans _ _ _ ⟨_, List.getElem_mem hi, rfl⟩ ⟨_, List.getElem_mem hj, rfl⟩
        ⟨_, List.getElem_mem hk, rfl⟩
    have hsorted := Insertion.sort_stable hpositions.orderOn
      (List.range (items.map (rowOf keys)).length) (fun i hi => by
        rw [List.length_map] at hi
        exact List.mem_range.1 hi) List.pairwise_lt_range
    rw [horder]
    refine hsorted.imp fun {i j} hij x y hx hy => ?_
    rcases List.getElem?_eq_some_iff.1 hx with ⟨hi, rfl⟩
    rcases List.getElem?_eq_some_iff.1 hy with ⟨hj, rfl⟩
    simp only [hat i hi, hat j hj] at hij
    exact hij

-- In particular they are in order.
theorem sortEntries_inOrder {keys : List SortKey} {items : List (Entry × RenderContext)}
    {order : List Nat} {n n' : List Render.Notice} (h : sortEntries keys items n = .ok order n')
    (horders : OrdersOn (compareValues keys) fun r => ∃ x ∈ items, rowOf keys x = r) :
    Insertion.InOrder (fun x y => (compareValues keys (rowOf keys x) (rowOf keys y)).isLT)
      (order.filterMap (items[·]?)) := by
  rw [Insertion.InOrder, List.pairwise_filterMap]
  exact (sortEntries_stable h horders).imp fun hij x hx y hy => (hij x y hx hy).1

-- Entries that are not told apart by the order of their rows tie.
theorem fullTie_of_row {keys : List SortKey} {x y : Entry × RenderContext}
    (hx : SortKey.row keys x = .ok (rowOf keys x)) (hy : SortKey.row keys y = .ok (rowOf keys y))
    (hxy : (compareValues keys (rowOf keys x) (rowOf keys y)).isLT = false)
    (hyx : (compareValues keys (rowOf keys y) (rowOf keys x)).isLT = false) :
    FullTie keys x y := by
  refine ⟨_, _, hx, hy, ?_⟩
  rw [compareValues_swap keys (rowOf keys x)] at hyx
  cases hc : compareValues keys (rowOf keys x) (rowOf keys y) with
  | eq => rfl
  | lt =>
      rw [hc] at hxy
      exact absurd hxy.symm Bool.false_ne_true
  | gt =>
      rw [hc] at hyx
      exact absurd hyx.symm Bool.false_ne_true

/-- Two lists of the same entries are sorted alike, apart from full ties, if there is no
    disagreement between values and texts. -/
theorem sortEntries_forall₂ {keys : List SortKey} {items items' : List (Entry × RenderContext)}
    {order order' : List Nat} {n n' m m' : List Render.Notice} (hperm : items'.Perm items)
    (h : sortEntries keys items n = .ok order m) (h' : sortEntries keys items' n' = .ok order' m')
    (halign : Aligned fun r => ∃ x ∈ items, SortKey.row keys x = .ok r) :
    List.Forall₂ (FullTie keys) (order.filterMap (items[·]?)) (order'.filterMap (items'[·]?)) := by
  have hrows := (rows_of_sortEntries h).1
  have horders : OrdersOn (compareValues keys) fun r => ∃ x ∈ items, rowOf keys x = r := by
    refine OrdersOn.mono (ordersOn_of_aligned (fun r ⟨x, _, hx⟩ => ⟨x, hx⟩) halign) ?_
    rintro r ⟨x, hx, rfl⟩
    exact ⟨x, hx, hrows x hx⟩
  have horders' : OrdersOn (compareValues keys) fun r => ∃ x ∈ items', rowOf keys x = r :=
    horders.mono fun r ⟨x, hx, hr⟩ => ⟨x, hperm.mem_iff.1 hx, hr⟩
  have hlt : Insertion.OrderOn
      (fun x y => (compareValues keys (rowOf keys x) (rowOf keys y)).isLT) fun x => x ∈ items := by
    refine OrdersOn.orderOn ⟨fun x y _ _ => compareValues_swap keys _ _, fun x y z hx hy hz => ?_⟩
    exact horders.trans _ _ _ ⟨x, hx, rfl⟩ ⟨y, hy, rfl⟩ ⟨z, hz, rfl⟩
  have hitems := filterMap_getElem?_perm (sortEntries_perm h)
  have hitems' := filterMap_getElem?_perm (sortEntries_perm h')
  have hsame := Insertion.forall₂_tie_of_inOrder hlt (sortEntries_inOrder h horders)
    (sortEntries_inOrder h' horders') (hitems.trans (hperm.symm.trans hitems'.symm))
    fun x hx => hitems.mem_iff.1 hx
  rw [List.forall₂_iff_get] at hsame ⊢
  refine ⟨hsame.1, fun k hk hk' => ?_⟩
  have hx := hitems.mem_iff.1 (List.get_mem _ ⟨k, hk⟩)
  have hy := hperm.mem_iff.1 (hitems'.mem_iff.1 (List.get_mem _ ⟨k, hk'⟩))
  exact fullTie_of_row (hrows _ hx) (hrows _ hy) (hsame.2 k hk hk').1 (hsame.2 k hk hk').2

/-- The other way round entries always compare as the opposite. Three entries are in order if there
    is no disagreement between values and texts among them, and lists of entries without such a
    disagreement are sorted alike, whatever order the entries come in, apart from full ties. Under
    one key, entries are in order only if there is none. -/
theorem sortEntries_order (keys : List SortKey) :
    (∀ r r', compareValues keys r' r = (compareValues keys r r').swap) ∧
    (∀ x y z r₁ r₂ r₃, SortKey.row keys x = .ok r₁ → SortKey.row keys y = .ok r₂ →
      SortKey.row keys z = .ok r₃ → Aligned (fun r => r ∈ [r₁, r₂, r₃]) →
      (compareValues keys r₁ r₂).isLE = true → (compareValues keys r₂ r₃).isLE = true →
        (compareValues keys r₁ r₃).isLE = true) ∧
    (∀ items items' order order' n n' m m', items'.Perm items →
      sortEntries keys items n = .ok order m → sortEntries keys items' n' = .ok order' m' →
      Aligned (fun r => ∃ x ∈ items, SortKey.row keys x = .ok r) →
      List.Forall₂ (FullTie keys) (order.filterMap (items[·]?))
        (order'.filterMap (items'[·]?))) ∧
    ∀ key, keys = [key] → ∀ S : List (Option SortValue) → Prop,
      (∀ r, S r → ∃ x, SortKey.row keys x = .ok r) → OrdersOn (compareValues keys) S →
        Aligned S := by
  refine ⟨fun r r' => compareValues_swap keys r r', ?_, ?_, ?_⟩
  · intro x y z r₁ r₂ r₃ hx hy hz halign
    have hrows : ∀ r, r ∈ [r₁, r₂, r₃] → ∃ x, SortKey.row keys x = .ok r := by
      intro r hr
      simp only [List.mem_cons, List.not_mem_nil, or_false] at hr
      rcases hr with rfl | rfl | rfl
      · exact ⟨x, hx⟩
      · exact ⟨y, hy⟩
      · exact ⟨z, hz⟩
    exact (ordersOn_of_aligned hrows halign).trans r₁ r₂ r₃ (by simp) (by simp) (by simp)
  · exact fun _ _ _ _ _ _ _ _ hperm h h' halign => sortEntries_forall₂ hperm h h' halign
  · rintro key rfl S hrows h
    exact aligned_of_ordersOn hrows h

/-- An entry with a volume, with a context for it. -/
def volume (id raw : String) : Entry × RenderContext :=
  ({ id, values := [("volume", .number ⟨raw⟩)] },
    { style := { id := "style", citation := { layout := { children := [] } } }
      locale := { lang := "" }
      part := { layout := { children := [] } } })

/-- Sorting by volume. -/
def byVolume : List SortKey :=
  [{ source := .byVariable "volume" }]

/-- The rows of two volumes that are numbers and of one that is a text behind both. -/
def newVolumeRows : List (List (Option SortValue)) :=
  [[some (.ofNumber 9 "9")], [some (.ofNumber 10 "10")], [some (.ofText "new")]]

theorem aligned_newVolumeRows : Aligned fun r => r ∈ newVolumeRows := by
  have hmem : ∀ k v, Column (fun r => r ∈ newVolumeRows) k (some v) →
      v ∈ [SortValue.ofNumber 9 "9", .ofNumber 10 "10", .ofText "new"] := by
    rintro k v ⟨r, hr, hv⟩
    have hin := List.mem_of_getElem? hv
    simp only [newVolumeRows, List.mem_cons, List.not_mem_nil, or_false] at hr ⊢
    rcases hr with rfl | rfl | rfl <;> simp_all
  have hall : ∀ x ∈ [SortValue.ofNumber 9 "9", .ofNumber 10 "10", .ofText "new"],
      ∀ y ∈ [SortValue.ofNumber 9 "9", .ofNumber 10 "10", .ofText "new"],
      ∀ z ∈ [SortValue.ofNumber 9 "9", .ofNumber 10 "10", .ofText "new"],
        SortValue.TextAligned x y z := by decide +kernel
  exact fun k x y z hx hy hz => hall x (hmem k x hx) y (hmem k y hy) z (hmem k z hz)

set_option maxRecDepth 100000 in
theorem sortEntries_order_volumes :
    ∃ r₁ r₂ r₃ order order' m m', SortKey.row byVolume (volume "a" "9") = .ok r₁ ∧
      SortKey.row byVolume (volume "b" "10") = .ok r₂ ∧
      SortKey.row byVolume (volume "c" "new") = .ok r₃ ∧
      (compareValues byVolume r₁ r₂).isLE = true ∧ (compareValues byVolume r₂ r₃).isLE = true ∧
      (compareValues byVolume r₁ r₃).isLE = true ∧
      sortEntries byVolume [volume "a" "9", volume "b" "10", volume "c" "new"] [] = .ok order m ∧
      sortEntries byVolume [volume "c" "new", volume "b" "10", volume "a" "9"] [] =
        .ok order' m' ∧
      List.Forall₂ (FullTie byVolume)
        (order.filterMap ([volume "a" "9", volume "b" "10", volume "c" "new"][·]?))
        (order'.filterMap ([volume "c" "new", volume "b" "10", volume "a" "9"][·]?)) := by
  have hall := sortEntries_order byVolume
  have h₁ : SortKey.row byVolume (volume "a" "9") = .ok [some (.ofNumber 9 "9")] := rfl
  have h₂ : SortKey.row byVolume (volume "b" "10") = .ok [some (.ofNumber 10 "10")] := rfl
  have h₃ : SortKey.row byVolume (volume "c" "new") = .ok [some (.ofText "new")] := rfl
  have h₁₂ : (compareValues byVolume [some (.ofNumber 9 "9")]
      [some (.ofNumber 10 "10")]).isLE = true := rfl
  have h₂₃ : (compareValues byVolume [some (.ofNumber 10 "10")]
      [some (.ofText "new")]).isLE = true := rfl
  have hsort : ∃ m, sortEntries byVolume [volume "a" "9", volume "b" "10", volume "c" "new"] [] =
    .ok [0, 1, 2] m := ⟨_, rfl⟩
  have hsort' : ∃ m, sortEntries byVolume [volume "c" "new", volume "b" "10", volume "a" "9"] [] =
    .ok [2, 1, 0] m := ⟨_, rfl⟩
  rcases hsort with ⟨m, hsort⟩
  rcases hsort' with ⟨m', hsort'⟩
  refine ⟨_, _, _, _, _, m, m', h₁, h₂, h₃, h₁₂, h₂₃,
    hall.2.1 _ _ _ _ _ _ h₁ h₂ h₃ aligned_newVolumeRows h₁₂ h₂₃, hsort, hsort',
    hall.2.2.1 _ _ _ _ _ _ _ _ ?_ hsort hsort' ?_⟩
  · exact List.reverse_perm [volume "a" "9", volume "b" "10", volume "c" "new"]
  · rintro k x y z hx hy hz
    have hmem : ∀ {v}, Column (fun r => ∃ x ∈ [volume "a" "9", volume "b" "10", volume "c" "new"],
        SortKey.row byVolume x = .ok r) k v → Column (fun r => r ∈ newVolumeRows) k v := by
      rintro v ⟨r, ⟨x, hx, hr⟩, hv⟩
      refine ⟨r, ?_, hv⟩
      simp only [newVolumeRows, List.mem_cons, List.not_mem_nil, or_false] at hx ⊢
      rcases hx with rfl | rfl | rfl
      · exact Or.inl (Except.ok.inj (hr.symm.trans h₁))
      · exact Or.inr (Or.inl (Except.ok.inj (hr.symm.trans h₂)))
      · exact Or.inr (Or.inr (Except.ok.inj (hr.symm.trans h₃)))
    exact aligned_newVolumeRows k x y z (hmem hx) (hmem hy) (hmem hz)

set_option maxRecDepth 100000 in
/-- By value 9 stands before 10, by text 10 before 5a and this before 9. Three volumes go round in a
    circle, and the same three are sorted in two ways. -/
theorem mixedVolumes_cycle :
    ∃ r₁ r₂ r₃, SortKey.row byVolume (volume "a" "10") = .ok r₁ ∧
      SortKey.row byVolume (volume "b" "5a") = .ok r₂ ∧
      SortKey.row byVolume (volume "c" "9") = .ok r₃ ∧
      compareValues byVolume r₁ r₂ = .lt ∧ compareValues byVolume r₂ r₃ = .lt ∧
      compareValues byVolume r₁ r₃ = .gt ∧
      replyOf (sortEntries byVolume [volume "a" "10", volume "b" "5a", volume "c" "9"] []) =
        .ok [0, 1, 2] ∧
      replyOf (sortEntries byVolume [volume "c" "9", volume "a" "10", volume "b" "5a"] []) =
        .ok [0, 1, 2] := by
  refine ⟨[some (.ofNumber 10 "10")], [some (.ofText "5a")], [some (.ofNumber 9 "9")], rfl, rfl,
    rfl, rfl, rfl, rfl, rfl, rfl⟩

end CslProcessor
