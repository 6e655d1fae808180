import CslProcessor.Proofs.Render.Tally

/-!
# Groups that disappear

A group is left out if variables were called below it and none of them counts as printed. So a group
whose variables all come out empty is not always left out: an element that has found something, an
empty locator or names without text, keeps the group, and what is printed of it then are its terms
and its literal text.

Elements that are tried as substitutes are not counted. They make no difference to whether variables
are called, since the element that they are tried for calls variables itself, but they do make one
to what counts as printed.

## Main definitions

* `Moment.IsCall`: An element that calls a variable is visited, maybe on trial.

## Theorems

* `callDescent`: If such an element is visited at all, one is visited that is counted.
* `countsAsPrinted_of_blank`: What counts as printed if no text is.
* `group_blank_iff`: When a group whose variables come out empty is left out.
* `emptyLocator_keeps_group`: A group with an empty locator is printed.
-/

namespace CslProcessor

namespace Render

open Runs

/-- An element that calls a variable is visited, maybe on trial. -/
def Moment.IsCall (m : Moment) : Prop :=
  ∃ ms n, m.what = .visit ms n ∧ n.callsVariable = true

section

variable {ms : Macros} {ctx : RenderContext} {e : Entry} {n : Node} {p : Pass}

-- The visit of an element is counted, or what is counted below it.
theorem exists_calls_logNode
    (hbelow : (∃ m ∈ logBelow ms ctx e n p, m.IsCall) → n.callsVariable = true ∨
      ∃ m ∈ logBelow ms ctx e n p, m.calls = true)
    (hcall : ∃ m ∈ logNode ms ctx e n p, m.IsCall) :
    ∃ m ∈ logNode ms ctx e n p, m.calls = true := by
  have hself : n.callsVariable = true → ∃ m ∈ logNode ms ctx e n p, m.calls = true :=
    fun h => ⟨_, List.mem_cons_self, by simp [Moment.calls, Moment.visiting, h]⟩
  rcases hcall with ⟨m, hm, hmcall⟩
  rcases List.mem_cons.1 hm with rfl | hm
  · rcases hmcall with ⟨ms', n', hwhat, hn'⟩
    cases hwhat
    exact hself hn'
  · rcases hbelow ⟨m, hm, hmcall⟩ with h | ⟨m', hm', hcalls⟩
    · exact hself h
    · exact ⟨m', List.mem_cons_of_mem _ hm', hcalls⟩

end

/-- If an element that calls a variable is visited at all, one is visited that is counted: what is
    on trial is on trial for an element that calls a variable itself. -/
theorem callDescent (ctx : RenderContext) (e : Entry) : Descent ctx e
    (fun ms n => ∀ p, (∃ m ∈ logNode ms ctx e n p, m.IsCall) →
      ∃ m ∈ logNode ms ctx e n p, m.calls = true)
    (fun ms ns => ∀ p, (∃ m ∈ logAll ms ctx e ns p, m.IsCall) →
      ∃ m ∈ logAll ms ctx e ns p, m.calls = true)
    (fun _ _ _ => True) where
  leaf ms n h p := exists_calls_logNode fun ⟨m, hm, _⟩ => by
    rw [logBelow_of_isLeaf h] at hm
    exact absurd hm List.not_mem_nil
  undefined ms name f h p := exists_calls_logNode fun ⟨m, hm, _⟩ => by
    rw [logBelow_of_lookup_none h] at hm
    exact absurd hm List.not_mem_nil
  defined ms name f nodes h hnodes p := exists_calls_logNode fun hcall => Or.inr (by
    rw [logBelow_of_lookup h] at hcall ⊢
    exact hnodes p hcall)
  names ms el substitutes _ p := exists_calls_logNode fun _ => Or.inl rfl
  group ms children delimiter f hchildren p := exists_calls_logNode fun hcall => Or.inr (by
    rw [logBelow] at hcall ⊢
    exact hchildren p hcall)
  choose ms branches otherwise hchosen p := exists_calls_logNode fun hcall => Or.inr (by
    rw [logBelow] at hcall ⊢
    exact hchosen p hcall)
  nil ms p hcall := by
    rw [logAll] at hcall
    rcases hcall with ⟨m, hm, -⟩
    exact absurd hm List.not_mem_nil
  cons ms n rest hn hrest p hcall := by
    rw [logAll_cons] at hcall ⊢
    rcases hcall with ⟨m, hm, hcall⟩
    rcases List.mem_append.1 hm with hm | hm
    · rcases hn p ⟨m, hm, hcall⟩ with ⟨m', hm', hcalls⟩
      exact ⟨m', List.mem_append_left _ hm', hcalls⟩
    · cases hout : renderNode ms ctx e n p with
      | error err p' =>
          rw [hout] at hm
          exact absurd hm List.not_mem_nil
      | ok out p' =>
          rw [hout] at hm
          rcases hrest p' ⟨m, hm, hcall⟩ with ⟨m', hm', hcalls⟩
          exact ⟨m', List.mem_append_right _ hm', hcalls⟩
  noSubstitute _ _ := trivial
  substitute _ _ _ _ _ _ := trivial

/-! ## Groups -/

section

variable {ms : Macros} {ctx : RenderContext} {e : Entry} {children : List Node} {p p' : Pass}
  {outs : List Output} {out : Output}

-- An element that calls no variable finds none.
theorem findsContent_of_not_calls {n : Node} {q : Pass} (hn : n.callsVariable = false) :
    findsContent ms ctx e n q = false ∧ countsAsPrinted ms ctx e n q = false := by
  cases n with
  | text source f =>
      cases source with
      | ofVariable name form => cases hn
      | _ => exact ⟨rfl, rfl⟩
  | group children delimiter f => exact ⟨rfl, rfl⟩
  | choose branches otherwise => exact ⟨rfl, rfl⟩
  | unknown kind => exact ⟨rfl, rfl⟩
  | _ => cases hn

-- If an element prints no text, it counts as printed for what it has found.
theorem countsAsPrinted_of_blank {n : Node} {q : Pass} (hblank : n.callsVariable = true →
      ∀ out p', renderNode ms ctx e n q = .ok out p' → isBlank out.runs = true) :
    countsAsPrinted ms ctx e n q = findsContent ms ctx e n q := by
  cases hn : n.callsVariable with
  | false => rw [(findsContent_of_not_calls hn).1, (findsContent_of_not_calls hn).2]
  | true =>
      have hnone : printsText ms ctx e n q = false := by
        rw [printsText]
        cases hout : renderNode ms ctx e n q with
        | ok out p' =>
            dsimp only
            rw [hblank hn out p' hout]
            rfl
        | error err p' => rfl
      cases n with
      | label name form plural f => exact hnone
      | number name form f => exact hnone
      | date d => exact hnone
      | _ => rfl

/-- When a group is left out whose variables come out empty. Let some element that calls a variable
    be visited below the group, and all of these print no text. The group prints no text exactly if
    none of those that are not on trial has found anything, or if there is no text below the group
    at all. -/
theorem group_blank_iff {delimiter : String} {f : Formatting}
    (hout : renderNode ms ctx e (.group children delimiter f) p = .ok out p')
    (hcalled : ∃ m ∈ logAll ms ctx e children p, m.IsCall)
    (hblank : ∀ m ∈ logAll ms ctx e children p, ∀ ms' n, m.what = .visit ms' n →
      n.callsVariable = true → ∀ out' q, renderNode ms' ctx e n m.pass = .ok out' q →
      isBlank out'.runs = true) :
    ∃ outs, renderAll ms ctx e children p = .ok outs p' ∧
      (isBlank out.runs = true ↔
        (∀ m ∈ logAll ms ctx e children p, ∀ ms' n, m.what = .visit ms' n → m.onTrial = false →
          findsContent ms' ctx e n m.pass = false) ∨
        isBlank (finish f ctx.locale (joinRuns delimiter (outs.map Output.runs))) = true) := by
  rw [renderNode] at hout
  rcases bind_eq_ok_iff.1 hout with ⟨outs, q, houts, hout⟩
  have htally := (tallyDescent ctx e).all ms children p outs q houts
  have hpositive : 0 < (Output.join delimiter outs).called := by
    change 0 < (Output.join "" outs).called
    rw [← htally.called]
    exact List.countP_pos_iff.2 ((callDescent ctx e).all ms children p hcalled)
  have hzero : (Output.join delimiter outs).rendered = 0 ↔
      ∀ m ∈ logAll ms ctx e children p, ∀ ms' n, m.what = .visit ms' n → m.onTrial = false →
        findsContent ms' ctx e n m.pass = false := by
    change (Output.join "" outs).rendered = 0 ↔ _
    rw [← htally.rendered, List.countP_eq_zero]
    refine forall₂_congr fun m hm => ?_
    cases hwhat : m.what with
    | standIn candidate runs => simp [Moment.counts, hwhat]
    | visit ms' n =>
        have hcount := countsAsPrinted_of_blank (hblank m hm ms' n hwhat)
        simp only [Moment.counts, hwhat, hcount]
        cases m.onTrial <;> simp
  split at hout
  · rename_i hempty
    cases hout
    simp only [Bool.and_eq_true, beq_iff_eq] at hempty
    exact ⟨outs, houts, iff_of_true rfl (Or.inl (hzero.1 hempty.2))⟩
  · rename_i hprinted
    cases hout
    have hrendered : (Output.join delimiter outs).rendered ≠ 0 := by
      intro h
      exact hprinted (by simp [hpositive, h])
    exact ⟨outs, houts, ⟨Or.inr, fun h => h.resolve_left (mt hzero.2 hrendered)⟩⟩

end

/-! ## A section without a number -/

/-- A literal text with the place that is cited behind it. -/
def sectionReference : List Node :=
  [.text (.ofValue "sec. ") {}, .ofVariable "locator"]

/-- A cite of a place within an entry, or of none. -/
def citedAt (locator : Option String) : RenderContext :=
  { style := { id := "sections", citation := { layout := { children := sectionReference } } }
    locale := { lang := "en" }, part := { layout := { children := sectionReference } }
    cite := { locator, locatorType := "section" } }

/-- An entry without variables. -/
def untitled : Entry :=
  { id := "untitled" }

section

variable (ctx : RenderContext) (e : Entry)

theorem logAll_sectionReference :
    logAll [] ctx e sectionReference {} =
      [Moment.visiting [] (.text (.ofValue "sec. ") {}) {},
        Moment.visiting [] (.ofVariable "locator") {}] := by
  have hvalue : renderNode [] ctx e (.text (.ofValue "sec. ") {}) {} =
      .ok { runs := [{ text := "sec. " }] } {} := by
    rw [renderNode]
    rfl
  rw [sectionReference, logAll_cons, hvalue, behind, logAll_cons, logNode, logNode,
    logBelow_of_isLeaf rfl, logBelow_of_isLeaf rfl]
  cases renderNode [] ctx e (.ofVariable "locator") {} with
  | ok out p => rw [behind, logAll]; rfl
  | error err p => rfl

-- The place that is cited is the only variable.
theorem isCall_sectionReference : ∃ m ∈ logAll [] ctx e sectionReference {}, m.IsCall := by
  rw [logAll_sectionReference]
  exact ⟨_, List.mem_cons_of_mem _ List.mem_cons_self, [], .ofVariable "locator", rfl, rfl⟩

variable {ctx e}

-- It prints no text if it is not there, and if it is empty.
theorem blank_sectionReference {out : Output}
    (hout : renderNode [] ctx e (.ofVariable "locator") {} = .ok out {})
    (hblank : isBlank out.runs = true) :
    ∀ m ∈ logAll [] ctx e sectionReference {}, ∀ ms' n, m.what = .visit ms' n →
      n.callsVariable = true → ∀ out' q, renderNode ms' ctx e n m.pass = .ok out' q →
      isBlank out'.runs = true := by
  intro m hm ms' n hwhat hn out' q hout'
  rw [logAll_sectionReference] at hm
  simp only [List.mem_cons, List.not_mem_nil, or_false] at hm
  rcases hm with rfl | rfl
  · cases hwhat
    cases hn
  · cases hwhat
    rw [Moment.visiting, hout] at hout'
    cases hout'
    exact hblank

end

-- Where no place is cited the literal text is left out.
theorem group_blank_iff_noLocator :
    ∃ out p', renderNode [] (citedAt none) untitled (.group sectionReference "" {}) {} =
        .ok out p' ∧ isBlank out.runs = true := by
  have hlocator : renderNode [] (citedAt none) untitled (.ofVariable "locator") {} =
      .ok { called := 1 } {} := by
    rw [Node.ofVariable, renderNode]
    rfl
  have hgroup : renderNode [] (citedAt none) untitled (.group sectionReference "" {}) {} =
      .ok { called := 1 } {} := by
    simp only [sectionReference, Node.ofVariable, renderNode, renderAll]
    rfl
  rcases group_blank_iff hgroup (isCall_sectionReference _ _)
    (blank_sectionReference hlocator rfl) with ⟨outs, -, hiff⟩
  refine ⟨_, _, hgroup, hiff.2 (Or.inl fun m hm ms' n hwhat _ => ?_)⟩
  rw [logAll_sectionReference] at hm
  simp only [List.mem_cons, List.not_mem_nil, or_false] at hm
  rcases hm with rfl | rfl
  · cases hwhat
    rfl
  · cases hwhat
    rfl

/-- Where the place that is cited is empty the literal text is printed, although the only variable
    of the group prints no text. -/
theorem emptyLocator_keeps_group :
    (∃ m ∈ logAll [] (citedAt (some "")) untitled sectionReference {}, m.IsCall) ∧
    (∀ m ∈ logAll [] (citedAt (some "")) untitled sectionReference {}, ∀ ms' n,
      m.what = .visit ms' n → n.callsVariable = true → ∀ out' q,
      renderNode ms' (citedAt (some "")) untitled n m.pass = .ok out' q →
      isBlank out'.runs = true) ∧
    ∃ out p', renderNode [] (citedAt (some "")) untitled (.group sectionReference "" {}) {} =
        .ok out p' ∧ plainText out.runs = "sec. " := by
  have hlocator : renderNode [] (citedAt (some "")) untitled (.ofVariable "locator") {} =
      .ok { called := 1, rendered := 1 } {} := by
    rw [Node.ofVariable, renderNode]
    rfl
  have hgroup : renderNode [] (citedAt (some "")) untitled (.group sectionReference "" {}) {} =
      .ok { runs := [{ text := "sec. " }], called := 1, rendered := 1 } {} := by
    simp only [sectionReference, Node.ofVariable, renderNode, renderAll]
    rfl
  exact ⟨isCall_sectionReference _ _, blank_sectionReference hlocator rfl, _, _, hgroup, by decide⟩

end Render

end CslProcessor
