import CslProcessor.Proofs.Sequence
import CslProcessor.Proofs.Sorting.Insertion
import CslProcessor.Sorting.Basic
import Mathlib

/-!
# When comparing entries is an order

Values of one kind are compared by what they stand for, and values of two kinds by their texts.
Each of these is an order for itself: the terms of a kind stand for numbers, texts or sequences of
these, which are in order, and so are texts. Together they are an order only where they agree. As
numbers 9 is less than 10, as texts `10` is less than `5a`, and this is less than `9`.

The two have to agree where a text of one kind stands between two of another. `TextAligned` says so
of three values, and `ordersOn_iff` that this is enough and not too much. The rest carries orders
over from values to entries with or without a value, in both directions, and to several keys.

An order is asked for on some things only, since values of entries that are compared may well be in
order while others are not.

## Main definitions

* `OrdersOn`: A comparison is an order on some things, apart from ties.
* `SortTerm.Represents`, `SortKind.Admits`: What the terms of a kind stand for.
* `SortValue.Proper`, `SortValue.TextAligned`: Values as they are made, and where their texts have
  to be in order.
* `Column`: What stands at a position in some rows of values.

## Theorems

* `SortTerm.compare?_swap`, `SortValue.cmp_swap`, `SortKey.cmp_swap`, `compareValues_swap`: The
  other way round the outcome is the opposite.
* `SortValue.ordersOn_iff`: Values are in order exactly if their texts are where it matters.
* `SortKey.ordersOn_iff`: Entries are in order under a key exactly if their values are.
* `ordersOn_compareValues`: Entries are in order under several keys if they are under each.
-/

namespace CslProcessor

/-! ## Terms -/

namespace SortTerm

mutual

theorem compare?_swap : ∀ a b : SortTerm, b.compare? a = (a.compare? b).map Ordering.swap
  | .number a, .number b => by
      have hswap : compare b a = (compare a b).swap := Std.OrientedCmp.eq_swap
      rw [compare?, compare?, hswap]
      rfl
  | .text a, .text b => by
      have hswap : compare b a = (compare a b).swap := Std.OrientedCmp.eq_swap
      rw [compare?, compare?, hswap]
      rfl
  | .sequence as, .sequence bs => by
      rw [compare?, compare?, compareAll?_swap as bs]
  | .nothing, .nothing => rfl
  | .number _, .text _ | .number _, .sequence _ | .number _, .nothing => rfl
  | .text _, .number _ | .text _, .sequence _ | .text _, .nothing => rfl
  | .sequence _, .number _ | .sequence _, .text _ | .sequence _, .nothing => rfl
  | .nothing, .number _ | .nothing, .text _ | .nothing, .sequence _ => rfl

theorem compareAll?_swap :
    ∀ as bs : List SortTerm, compareAll? bs as = (compareAll? as bs).map Ordering.swap
  | [], [] => rfl
  | [], _ :: _ => rfl
  | _ :: _, [] => rfl
  | a :: as, b :: bs => by
      rw [compareAll?, compareAll?, compare?_swap a b]
      rcases compare? a b with _ | o
      · rfl
      · cases o with
        | eq => exact compareAll?_swap as bs
        | lt => rfl
        | gt => rfl

end

/-- Terms that stand for something are compared as it is. -/
def Represents {β : Type} (f : β → SortTerm) (cmp : β → β → Ordering) : Prop :=
  ∀ x y, (f x).compare? (f y) = some (cmp x y)

theorem represents_number : Represents .number compare :=
  fun _ _ => rfl

theorem represents_text : Represents .text compare :=
  fun _ _ => rfl

/-- Sequences of such terms are compared like lists. -/
theorem Represents.sequence {β : Type} {f : β → SortTerm} {cmp : β → β → Ordering}
    (h : Represents f cmp) :
    Represents (fun l : List β => .sequence (l.map f)) (List.compareLex cmp) := by
  intro xs
  induction xs with
  | nil =>
      intro ys
      cases ys <;> rfl
  | cons x rest ih =>
      intro ys
      cases ys with
      | nil => rfl
      | cons y others =>
          have htails := ih others
          simp only [compare?, List.map_cons, compareAll?, h x y, List.compareLex] at htails ⊢
          cases cmp x y <;> simp [htails]

/-- Terms that stand for something in order are in order. -/
theorem Represents.isLE_trans {β : Type} {f : β → SortTerm} {cmp : β → β → Ordering}
    [Std.TransCmp cmp] (h : Represents f cmp) (x y z : β) :
    ∃ o₁ o₂ o₃, (f x).compare? (f y) = some o₁ ∧ (f y).compare? (f z) = some o₂ ∧
      (f x).compare? (f z) = some o₃ ∧ (o₁.isLE = true → o₂.isLE = true → o₃.isLE = true) :=
  ⟨_, _, _, h x y, h y z, h x z, Std.TransCmp.isLE_trans⟩

end SortTerm

/-- The terms that values of a kind are compared by. -/
def SortKind.Admits : SortKind → SortTerm → Prop
  | .names, t =>
    ∃ names : List (List String), t = .sequence (names.map fun parts => .sequence (parts.map .text))
  | .date, t => ∃ parts : List Int, t = .sequence (parts.map .number)
  | .number, t => ∃ n, t = .number n
  | .text, t => ∃ s, t = .text s
  | .other _, _ => False

-- The terms of one kind are in order.
theorem SortKind.Admits.isLE_trans {k : SortKind} {a b c : SortTerm} (ha : k.Admits a)
    (hb : k.Admits b) (hc : k.Admits c) :
    ∃ o₁ o₂ o₃, a.compare? b = some o₁ ∧ b.compare? c = some o₂ ∧ a.compare? c = some o₃ ∧
      (o₁.isLE = true → o₂.isLE = true → o₃.isLE = true) := by
  cases k with
  | names =>
      rcases ha with ⟨x, rfl⟩
      rcases hb with ⟨y, rfl⟩
      rcases hc with ⟨z, rfl⟩
      exact SortTerm.represents_text.sequence.sequence.isLE_trans x y z
  | date =>
      rcases ha with ⟨x, rfl⟩
      rcases hb with ⟨y, rfl⟩
      rcases hc with ⟨z, rfl⟩
      exact SortTerm.represents_number.sequence.isLE_trans x y z
  | number =>
      rcases ha with ⟨x, rfl⟩
      rcases hb with ⟨y, rfl⟩
      rcases hc with ⟨z, rfl⟩
      exact SortTerm.represents_number.isLE_trans x y z
  | text =>
      rcases ha with ⟨x, rfl⟩
      rcases hb with ⟨y, rfl⟩
      rcases hc with ⟨z, rfl⟩
      exact SortTerm.represents_text.isLE_trans x y z
  | other name => exact ha.elim

/-- A comparison is an order on some things, apart from ties: the other way round the outcome is the
    opposite, and not being behind carries over. -/
structure OrdersOn {α : Type} (cmp : α → α → Ordering) (S : α → Prop) : Prop where
  swap : ∀ x y, S x → S y → cmp y x = (cmp x y).swap
  trans : ∀ x y z, S x → S y → S z → (cmp x y).isLE = true → (cmp y z).isLE = true →
    (cmp x z).isLE = true

theorem OrdersOn.transCmp {α : Type} {cmp : α → α → Ordering} {S : α → Prop}
    (h : OrdersOn cmp S) : Std.TransCmp fun x y : Subtype S => cmp x y where
  eq_swap {x y} := h.swap y x y.2 x.2
  isLE_trans {x y z} := h.trans x y z x.2 y.2 z.2

theorem OrdersOn.mono {α : Type} {cmp : α → α → Ordering} {S T : α → Prop} (h : OrdersOn cmp S)
    (hsub : ∀ x, T x → S x) : OrdersOn cmp T :=
  ⟨fun x y hx hy => h.swap x y (hsub x hx) (hsub y hy),
    fun x y z hx hy hz => h.trans x y z (hsub x hx) (hsub y hy) (hsub z hz)⟩

/-- What is less by such a comparison is less by an order. -/
theorem OrdersOn.orderOn {α : Type} {cmp : α → α → Ordering} {S : α → Prop} (h : OrdersOn cmp S) :
    Insertion.OrderOn (fun x y => (cmp x y).isLT) S := by
  have hle : ∀ {x y}, S x → S y → ((cmp y x).isLT = false ↔ (cmp x y).isLE = true) := by
    intro x y hx hy
    rw [h.swap x y hx hy]
    cases cmp x y <;> decide
  refine ⟨fun x y hx hy hxy => ?_, fun x y z hx hy hz hxy hyz => ?_⟩
  · rw [hle hx hy]
    cases hc : cmp x y <;> rw [hc] at hxy
    · rfl
    · rfl
    · exact absurd hxy Bool.false_ne_true
  · rw [hle hx hy] at hxy
    rw [hle hy hz] at hyz
    rw [hle hx hz]
    exact h.trans x y z hx hy hz hxy hyz

/-! ## Values -/

namespace SortValue

/-- The term of a value is one of its kind. -/
def Proper (v : SortValue) : Prop :=
  v.kind.Admits v.term

theorem cmp_swap (a b : SortValue) : b.cmp a = (a.cmp b).swap := by
  have hliteral : compare b.literal a.literal = (compare a.literal b.literal).swap :=
    Std.OrientedCmp.eq_swap
  unfold cmp
  by_cases hkind : a.kind = b.kind
  · rw [if_pos (beq_iff_eq.2 hkind), if_pos (beq_iff_eq.2 hkind.symm),
      SortTerm.compare?_swap a.term, hliteral]
    cases a.term.compare? b.term <;> rfl
  · rw [if_neg (mt beq_iff_eq.1 hkind), if_neg (mt beq_iff_eq.1 (Ne.symm hkind)), hliteral]

-- Values of two kinds are compared by their texts.
theorem cmp_of_kind_ne {a b : SortValue} (h : a.kind ≠ b.kind) :
    a.cmp b = compare a.literal b.literal :=
  if_neg (mt beq_iff_eq.1 h)

-- Values of one kind are in order.
theorem Proper.isLE_trans {a b c : SortValue} (ha : a.Proper) (hb : b.Proper) (hc : c.Proper)
    (hab : a.kind = b.kind) (hbc : b.kind = c.kind) (h : (a.cmp b).isLE = true)
    (h' : (b.cmp c).isLE = true) : (a.cmp c).isLE = true := by
  rw [Proper, ← hab] at hb
  rw [Proper, ← hbc, ← hab] at hc
  rcases SortKind.Admits.isLE_trans ha hb hc with ⟨o₁, o₂, o₃, hab', hbc', hac', htrans⟩
  rw [cmp, if_pos (beq_iff_eq.2 hab), hab'] at h
  rw [cmp, if_pos (beq_iff_eq.2 hbc), hbc'] at h'
  rw [cmp, if_pos (beq_iff_eq.2 (hab.trans hbc)), hac']
  exact htrans h h'

/-- Two values of one kind are compared as their texts are, if the text of a value of another kind
    stands between these. -/
def TextAligned (x y z : SortValue) : Prop :=
  x.kind = y.kind → z.kind ≠ x.kind → (compare x.literal z.literal).isLE = true →
    (compare z.literal y.literal).isLE = true → x.cmp y = compare x.literal y.literal

instance (x y z : SortValue) : Decidable (TextAligned x y z) :=
  inferInstanceAs (Decidable (_ → _ → _ → _ → _))

-- What is not in front of something is behind it.
theorem literal_lt_of_not_isLE {x z : SortValue}
    (h : ¬ (compare x.literal z.literal).isLE = true) : compare z.literal x.literal = .lt := by
  have hswap : compare z.literal x.literal = (compare x.literal z.literal).swap :=
    Std.OrientedCmp.eq_swap
  rw [hswap]
  cases hc : compare x.literal z.literal <;> simp [hc] at h ⊢

theorem not_isLE_of_cmp_lt {x y : SortValue} (h : y.cmp x = .lt) : ¬ (x.cmp y).isLE = true := by
  rw [cmp_swap y x, h]
  exact Bool.false_ne_true

-- If two values change places with their texts wherever it matters, all is in order.
theorem ordersOn_of_textAligned {S : SortValue → Prop} (hproper : ∀ v, S v → v.Proper)
    (halign : ∀ x y z, S x → S y → S z → TextAligned x y z) : OrdersOn cmp S := by
  refine ⟨fun x y _ _ => cmp_swap x y, fun x y z hx hy hz hxy hyz => ?_⟩
  by_cases hkxy : x.kind = y.kind
  · by_cases hkyz : y.kind = z.kind
    · exact (hproper x hx).isLE_trans (hproper y hy) (hproper z hz) hkxy hkyz hxy hyz
    · -- If the last one were in front of the first, its text would stand between the other two.
      have hkxz : x.kind ≠ z.kind := fun heq => hkyz (hkxy.symm.trans heq)
      rw [cmp_of_kind_ne hkyz] at hyz
      rw [cmp_of_kind_ne hkxz]
      by_contra hxz
      have hzx := literal_lt_of_not_isLE hxz
      have hyx := halign y x z hy hx hz hkxy.symm (Ne.symm hkyz) hyz (by rw [hzx]; rfl)
      rw [Std.TransCmp.lt_of_isLE_of_lt hyz hzx] at hyx
      exact not_isLE_of_cmp_lt hyx hxy
  · rw [cmp_of_kind_ne hkxy] at hxy
    by_cases hkyz : y.kind = z.kind
    · have hkxz : x.kind ≠ z.kind := fun heq => hkxy (heq.trans hkyz.symm)
      rw [cmp_of_kind_ne hkxz]
      by_contra hxz
      have hzx := literal_lt_of_not_isLE hxz
      have hzy := halign z y x hz hy hx hkyz.symm hkxz (by rw [hzx]; rfl) hxy
      rw [Std.TransCmp.lt_of_lt_of_isLE hzx hxy] at hzy
      exact not_isLE_of_cmp_lt hzy hyz
    · rw [cmp_of_kind_ne hkyz] at hyz
      have hlits := Std.TransCmp.isLE_trans hxy hyz
      by_cases hkxz : x.kind = z.kind
      · rw [halign x z y hx hz hy hkxz (Ne.symm hkxy) hxy hyz]
        exact hlits
      · rw [cmp_of_kind_ne hkxz]
        exact hlits

-- A third value whose text stands in between shows any disagreement.
theorem textAligned_of_ordersOn {S : SortValue → Prop} (h : OrdersOn cmp S) {x y z : SortValue}
    (hx : S x) (hy : S y) (hz : S z) : TextAligned x y z := by
  intro hkxy hkzx hxz hzy
  have hkzy : z.kind ≠ y.kind := fun heq => hkzx (heq.trans hkxy.symm)
  rw [← cmp_of_kind_ne (Ne.symm hkzx)] at hxz
  rw [← cmp_of_kind_ne hkzy] at hzy
  have hle := h.trans x z y hx hz hy hxz hzy
  -- A tie of the two carries over to all three texts.
  have htie : (y.cmp x).isLE = true → compare x.literal y.literal = .eq := by
    intro hyx
    have hzx := h.trans z y x hz hy hx hzy hyx
    have hyz := h.trans y x z hy hx hz hyx hxz
    rw [cmp_of_kind_ne (Ne.symm hkzx)] at hxz
    rw [cmp_of_kind_ne hkzx] at hzx
    rw [cmp_of_kind_ne hkzy] at hzy
    rw [cmp_of_kind_ne (Ne.symm hkzy)] at hyz
    exact Std.OrientedCmp.isLE_antisymm (Std.TransCmp.isLE_trans hxz hzy)
      (Std.TransCmp.isLE_trans hyz hzx)
  cases hc : x.cmp y with
  | gt =>
      rw [hc] at hle
      exact absurd hle Bool.false_ne_true
  | eq =>
      refine (htie ?_).symm
      rw [cmp_swap x y, hc]
      rfl
  | lt =>
      rw [cmp_of_kind_ne (Ne.symm hkzx)] at hxz
      rw [cmp_of_kind_ne hkzy] at hzy
      have hlits := Std.TransCmp.isLE_trans hxz hzy
      cases hl : compare x.literal y.literal with
      | lt => rfl
      | gt =>
          rw [hl] at hlits
          exact absurd hlits Bool.false_ne_true
      | eq =>
          -- All three texts are the same, so the values tie as well.
          have hyx : (compare y.literal x.literal).isLE = true := by
            have hswap : compare y.literal x.literal = (compare x.literal y.literal).swap :=
              Std.OrientedCmp.eq_swap
            rw [hswap, hl]
            rfl
          have hyz := Std.TransCmp.isLE_trans hyx hxz
          have hzx := Std.TransCmp.isLE_trans hzy hyx
          rw [← cmp_of_kind_ne (Ne.symm hkzy)] at hyz
          rw [← cmp_of_kind_ne hkzx] at hzx
          have hback := h.trans y z x hy hz hx hyz hzx
          exact absurd hback (not_isLE_of_cmp_lt hc)

/-- Values are in order exactly if values of one kind are compared as their texts are wherever the
    text of a value of another kind stands between these. -/
theorem ordersOn_iff {S : SortValue → Prop} (hproper : ∀ v, S v → v.Proper) :
    OrdersOn cmp S ↔ ∀ x y z, S x → S y → S z → TextAligned x y z :=
  ⟨fun h _ _ _ hx hy hz => textAligned_of_ordersOn h hx hy hz, ordersOn_of_textAligned hproper⟩

end SortValue

/-! ## Sort keys -/

-- A comparison of two entries under a key.
theorem SortKey.cmp_swap (key : SortKey) (a b : Option SortValue) :
    key.cmp b a = (key.cmp a b).swap := by
  cases a with
  | none =>
      cases b with
      | none => rfl
      | some y => rfl
  | some x =>
      cases b with
      | none => exact Ordering.swap_swap.symm
      | some y =>
          rw [cmp, cmp, x.cmp_swap y]
          cases key.direction <;> rfl

/-- Under a key entries are in order if their values are, and only then. -/
theorem SortKey.ordersOn_iff (key : SortKey) {S : Option SortValue → Prop} :
    OrdersOn key.cmp S ↔ OrdersOn SortValue.cmp fun v => S (some v) := by
  constructor
  · intro h
    refine ⟨fun x y _ _ => x.cmp_swap y, fun x y z hx hy hz hxy hyz => ?_⟩
    cases hdir : key.direction with
    | ascending =>
        have htrans := h.trans (some x) (some y) (some z) hx hy hz
        simp only [cmp, hdir, SortDirection.apply] at htrans
        exact htrans hxy hyz
    | descending =>
        -- From the back to the front.
        have htrans := h.trans (some z) (some y) (some x) hz hy hx
        simp only [cmp, hdir, SortDirection.apply, ← SortValue.cmp_swap] at htrans
        exact htrans hyz hxy
  · intro h
    refine ⟨fun a b _ _ => key.cmp_swap a b, fun a b c ha hb hc hab hbc => ?_⟩
    rcases a with _ | x <;> rcases b with _ | y <;> rcases c with _ | z
    · rfl
    · exact hbc
    · rfl
    · exact hab
    · exact hab
    · -- An entry without a value stands on one side of all that have one.
      cases hmissing : key.missing <;> simp [cmp, hmissing, MissingPolicy.order] at hab hbc
    · exact hbc
    · cases hdir : key.direction with
      | ascending =>
          simp only [cmp, hdir, SortDirection.apply] at hab hbc ⊢
          exact h.trans x y z ha hb hc hab hbc
      | descending =>
          simp only [cmp, hdir, SortDirection.apply, ← SortValue.cmp_swap] at hab hbc ⊢
          exact h.trans z y x hc hb ha hbc hab

/-! ## Several keys -/

theorem compareValues_swap (keys : List SortKey) :
    ∀ as bs : List (Option SortValue),
      compareValues keys bs as = (compareValues keys as bs).swap := by
  induction keys with
  | nil => exact fun _ _ => rfl
  | cons key rest ih =>
      intro as bs
      cases as with
      | nil => cases bs <;> rfl
      | cons a as =>
          cases bs with
          | nil => rfl
          | cons b bs =>
              rw [compareValues, compareValues, key.cmp_swap a b, ih as bs]
              cases key.cmp a b <;> rfl

/-- What stands at a position in some rows of values. -/
def Column (S : List (Option SortValue) → Prop) (k : Nat) (v : Option SortValue) : Prop :=
  ∃ r, S r ∧ r[k]? = some v

/-- Entries are in order under several keys if they are under each of them. -/
theorem ordersOn_compareValues (keys : List SortKey) :
    ∀ {S : List (Option SortValue) → Prop}, (∀ r, S r → r.length = keys.length) →
      (∀ (k : Nat) (key : SortKey), keys[k]? = some key → OrdersOn key.cmp (Column S k)) →
      OrdersOn (compareValues keys) S := by
  induction keys with
  | nil => exact fun _ _ => ⟨fun _ _ _ _ => rfl, fun _ _ _ _ _ _ _ _ => rfl⟩
  | cons key rest ih =>
      intro S hlength hkeys
      refine ⟨fun as bs _ _ => compareValues_swap _ as bs, fun as bs cs has hbs hcs hab hbc => ?_⟩
      have htails : OrdersOn (compareValues rest) fun r => ∃ a, S (a :: r) := by
        refine ih (fun r hr => ?_) fun k key' hk => ?_
        · rcases hr with ⟨a, hr⟩
          exact Nat.succ.inj (hlength _ hr)
        · have hrest := hkeys (k + 1) key' (by rw [List.getElem?_cons_succ, hk])
          refine ⟨fun x y _ _ => key'.cmp_swap x y, fun x y z hx hy hz => ?_⟩
          rcases hx with ⟨r, ⟨a, hr⟩, hx⟩
          rcases hy with ⟨r', ⟨a', hr'⟩, hy⟩
          rcases hz with ⟨r'', ⟨a'', hr''⟩, hz⟩
          exact hrest.trans x y z ⟨_, hr, hx⟩ ⟨_, hr', hy⟩ ⟨_, hr'', hz⟩
      have hheads := (hkeys 0 key (List.getElem?_cons_zero ..)).transCmp
      have hnil : ∀ {r : List (Option SortValue)}, S r → r ≠ [] := by
        rintro r hr rfl
        exact absurd (hlength _ hr) (by simp)
      have hthen : ∀ o p : Ordering,
          (o.then p).isLE = true ↔ o = .lt ∨ o = .eq ∧ p.isLE = true := by decide
      rcases List.exists_cons_of_ne_nil (hnil has) with ⟨a, as, rfl⟩
      rcases List.exists_cons_of_ne_nil (hnil hbs) with ⟨b, bs, rfl⟩
      rcases List.exists_cons_of_ne_nil (hnil hcs) with ⟨c, cs, rfl⟩
      have ha : Column S 0 a := ⟨_, has, rfl⟩
      have hb : Column S 0 b := ⟨_, hbs, rfl⟩
      have hc : Column S 0 c := ⟨_, hcs, rfl⟩
      rw [compareValues, hthen] at hab hbc ⊢
      -- The first key decides, unless both pairs tie under it.
      rcases hab with hab | ⟨hab, hab'⟩ <;> rcases hbc with hbc | ⟨hbc, hbc'⟩
      · exact Or.inl (hheads.lt_trans (a := ⟨a, ha⟩) (b := ⟨b, hb⟩) (c := ⟨c, hc⟩) hab hbc)
      · exact Or.inl (hheads.lt_of_lt_of_eq (a := ⟨a, ha⟩) (b := ⟨b, hb⟩) (c := ⟨c, hc⟩) hab hbc)
      · exact Or.inl (hheads.lt_of_eq_of_lt (a := ⟨a, ha⟩) (b := ⟨b, hb⟩) (c := ⟨c, hc⟩) hab hbc)
      · exact Or.inr ⟨hheads.eq_trans (a := ⟨a, ha⟩) (b := ⟨b, hb⟩) (c := ⟨c, hc⟩) hab hbc,
          htails.trans as bs cs ⟨a, has⟩ ⟨b, hbs⟩ ⟨c, hcs⟩ hab' hbc'⟩

end CslProcessor
