import CslProcessor.Proofs.Collection.Repetition
import CslProcessor.Proofs.Session.Locating
import CslProcessor.Proofs.Sorting.Entries
import Mathlib

/-!
# Numbers of entries

The number of an entry says how many entries had been mentioned when it was mentioned first, itself
included. Mentions are counted over all calls that were not refused, from left to right within a
call, be it a citation or not, and repetitions are not counted. So the numbers of a session can be
read off its calls, and a number that was given stays.

The bibliography has one item for every entry with a number, and none beside these. Sorting gives
the positions of the entries in another order and loses none of them.

## Main definitions

* `SessionCall.mentions`: The identifiers that a call mentions.
* `Session.numbering`: The numbers by identifier.
* `Session.Numbered`: What is true of numbers at any time.
* `Session.Unlistable`: What keeps a bibliography from being made.

## Theorems

* `mentioned_number`: The entries in the order of their numbers.
* `Numbered.enters`: A call that is taken in keeps numbers in order.
* `renderItems_items`: There is one item for each entry.
* `numbering_complete`: The numbers and the bibliography after any run.
-/

namespace CslProcessor

/-! ## Numbers -/

namespace History

theorem lookup_numbers_eq_none {h : History} {i : Nat} (hi : i ∉ h.mentioned) :
    h.numbers.lookup i = none := by
  rw [mem_mentioned_iff, Bool.not_eq_true, Option.isSome_eq_false_iff,
    Option.isNone_iff_eq_none] at hi
  exact hi

-- An entry that is numbered comes last, unless it has a number.
theorem mentioned_number (h : History) (i : Nat) :
    (h.number i).mentioned = if i ∈ h.mentioned then h.mentioned else h.mentioned ++ [i] := by
  unfold number
  by_cases hi : i ∈ h.mentioned
  · rw [if_pos hi, if_pos (mem_mentioned_iff.1 hi)]
  · have hnone := lookup_numbers_eq_none hi
    rw [if_neg hi, hnone, if_neg (by simp)]
    simp only [mentioned, Assoc.set_eq_append _ hnone, Assoc.keys, List.map_append,
      List.map_cons, List.map_nil]

-- The numbers are counted from one.
theorem numbers_number {h : History} (hcount : h.numbers = h.mentioned.zipIdx 1) (i : Nat) :
    (h.number i).numbers = (h.number i).mentioned.zipIdx 1 := by
  rw [mentioned_number]
  by_cases hi : i ∈ h.mentioned
  · rw [if_pos hi, number, if_pos (mem_mentioned_iff.1 hi), hcount]
  · have hnone := lookup_numbers_eq_none hi
    have hlength : h.mentioned.length = h.numbers.length := List.length_map _
    rw [if_neg hi, number, hnone, if_neg (by simp)]
    simp only [Assoc.set_eq_append _ hnone]
    rw [List.zipIdx_append, ← hcount, hlength, List.zipIdx_singleton, Nat.add_comm]

end History

/-- The identifiers that a call mentions. -/
def SessionCall.mentions : SessionCall → List String
  | .process event => event.entryIds
  | .nocite ids => ids
  | .add _ | .refresh | .citations | .number _ | .disambiguation _ | .bibliography => []

namespace Session

/-- The numbers of the entries that were mentioned, by their identifiers. -/
def numbering (s : Session) : List (String × Nat) :=
  s.history.numbers.map fun x => (s.store.idAt x.1, x.2)

/-- Numbers are counted from one in the order in which some identifiers were mentioned. -/
structure NumberedBy (ids : List String) (store : EntryStore) (h : History) : Prop where
  counted : h.numbers = h.mentioned.zipIdx 1
  ids : h.mentioned.map store.idAt = ids.eraseDups
  located : ∀ i ∈ h.mentioned, store.indexOf? (store.idAt i) = some i

variable {ids : List String} {store : EntryStore} {h : History}

-- An entry has a number exactly if its identifier was mentioned.
theorem NumberedBy.mem_iff (hn : NumberedBy ids store h) {id : String} {i : Nat}
    (hi : store.indexOf? id = some i) : i ∈ h.mentioned ↔ id ∈ ids := by
  have hids : id ∈ ids ↔ id ∈ h.mentioned.map store.idAt := by
    rw [hn.ids, List.mem_eraseDups]
  rw [hids, List.mem_map]
  constructor
  · intro hmem
    exact ⟨i, hmem, EntryStore.idAt_of_indexOf? hi⟩
  · rintro ⟨j, hj, hid⟩
    have hsame := hn.located j hj
    rw [hid, hi, Option.some.injEq] at hsame
    rw [hsame]
    exact hj

-- One more mention.
theorem NumberedBy.number (hn : NumberedBy ids store h) {id : String} {i : Nat}
    (hi : store.indexOf? id = some i) : NumberedBy (ids ++ [id]) store (h.number i) := by
  have hid := EntryStore.idAt_of_indexOf? hi
  refine ⟨History.numbers_number hn.counted i, ?_, ?_⟩
  · rw [History.mentioned_number, List.eraseDups_append, ← hn.ids]
    by_cases hmem : i ∈ h.mentioned
    · have hold : id ∈ ids := (hn.mem_iff hi).1 hmem
      simp [hmem, List.removeAll, hold]
    · have hnew : id ∉ ids := fun hold => hmem ((hn.mem_iff hi).2 hold)
      simp [hmem, List.removeAll, hnew, hid, List.eraseDups_cons]
  · intro j hj
    rcases History.mem_mentioned_number.1 hj with rfl | hj
    · rw [hid, hi]
    · exact hn.located j hj

-- Several more mentions.
theorem NumberedBy.mention (more : List String) :
    ∀ {ids : List String} {h : History} {indexes : List Nat}, NumberedBy ids store h →
      store.Locates more indexes → NumberedBy (ids ++ more) store (h.mention indexes) := by
  induction more with
  | nil =>
      intro ids h indexes hn hids
      rw [List.map_eq_nil_iff.1 hids.symm, List.append_nil]
      exact hn
  | cons id rest ih =>
      intro ids h indexes hn hids
      rcases hids.of_cons with ⟨i, others, rfl, hid, hrest⟩
      have hmore := ih (hn.number hid) hrest
      rw [List.append_assoc, List.singleton_append] at hmore
      rw [History.mention, List.foldl_cons, ← History.mention]
      exact hmore

-- Numbers are what matters of a history.
theorem NumberedBy.congr (hn : NumberedBy ids store h) {h' : History}
    (heq : h'.numbers = h.numbers) : NumberedBy ids store h' := by
  have hmentioned : h'.mentioned = h.mentioned := by
    rw [History.mentioned, heq]
    rfl
  refine ⟨?_, ?_, ?_⟩
  · rw [heq, hmentioned, hn.counted]
  · rw [hmentioned, hn.ids]
  · rw [hmentioned]
    exact hn.located

-- One more entry in the store.
theorem NumberedBy.add (hn : NumberedBy ids store h) (e : Entry) :
    NumberedBy ids { store with entries := store.entries ++ [e] } h := by
  have hsame : ∀ i ∈ h.mentioned,
      ({ store with entries := store.entries ++ [e] } : EntryStore).idAt i = store.idAt i := by
    intro i hi
    exact EntryStore.idAt_of_indexOf? (EntryStore.indexOf?_add e (hn.located i hi))
  refine ⟨hn.counted, ?_, fun i hi => ?_⟩
  · rw [← hn.ids]
    exact List.map_congr_left hsame
  · rw [hsame i hi]
    exact EntryStore.indexOf?_add e (hn.located i hi)

/-- The numbers of a session are counted in the order in which its calls have mentioned entries. -/
def Numbered (calls : List SessionCall) (s : Session) : Prop :=
  NumberedBy (calls.flatMap SessionCall.mentions) s.store s.history

theorem Numbered.congr (calls : List SessionCall) (s u : Session) (heq : s.outline = u.outline)
    (hn : Numbered calls s) : Numbered calls u := by
  have hstore : u.outline.store = s.outline.store := by rw [heq]
  have hnumbers : u.outline.history.numbers = s.outline.history.numbers := by rw [heq]
  change u.store = s.store at hstore
  unfold Numbered
  rw [hstore]
  exact NumberedBy.congr hn hnumbers

/-- A call that is taken in mentions its entries behind those mentioned before. -/
theorem Numbered.enters (calls : List SessionCall) (s : Session) (call : SessionCall) (u : Session)
    (hn : Numbered calls s) (h : Enters s call u) : Numbered (calls ++ [call]) u := by
  unfold Numbered
  rw [List.flatMap_append, List.flatMap_singleton]
  cases h with
  | process haccept =>
      have hids := locates_of_accepted haccept
      exact (NumberedBy.mention _ hn hids).congr (History.numbers_record ..)
  | nocite hlocate =>
      have hids := locates_of_locateAll hlocate
      exact NumberedBy.mention _ hn hids
  | add _ =>
      rw [SessionCall.mentions, List.append_nil]
      exact NumberedBy.add hn _
  | refresh | citations | number | disambiguation | bibliography =>
      rw [SessionCall.mentions, List.append_nil]
      exact hn

-- No entry is mentioned twice.
theorem NumberedBy.nodup (hn : NumberedBy ids store h) : h.mentioned.Nodup := by
  have hids := nodup_eraseDups ids
  rw [← hn.ids] at hids
  exact hids.of_map _

/-- The number of an identifier. -/
def numberOf? (s : Session) (id : String) : Option Nat :=
  (s.store.indexOf? id).bind (s.history.numbers.lookup ·)

/-- The numbers are those that the identifiers have. -/
theorem Numbered.mem_numbering_iff {calls : List SessionCall} {s : Session}
    (hn : Numbered calls s) {id : String} {n : Nat} :
    (id, n) ∈ s.numbering ↔ s.numberOf? id = some n := by
  rw [numbering, List.mem_map, numberOf?, Option.bind_eq_some_iff]
  constructor
  · rintro ⟨⟨i, m⟩, hmem, heq⟩
    rw [Prod.mk.injEq] at heq
    have hi : i ∈ s.history.mentioned := List.mem_map.2 ⟨_, hmem, rfl⟩
    have hloc := NumberedBy.located hn i hi
    rw [heq.1] at hloc
    refine ⟨i, hloc, ?_⟩
    rw [← heq.2]
    exact Assoc.lookup_of_mem (NumberedBy.nodup hn) hmem
  · rintro ⟨i, hloc, hlookup⟩
    rcases List.lookup_eq_some_iff.1 hlookup with ⟨l, l', heq, -⟩
    refine ⟨(i, n), by rw [heq]; simp, ?_⟩
    rw [EntryStore.idAt_of_indexOf? hloc]

-- The numbers as they follow from the calls.
theorem Numbered.numbering_eq {calls : List SessionCall} {s : Session} (hn : Numbered calls s) :
    s.numbering = (calls.flatMap SessionCall.mentions).eraseDups.zipIdx 1 := by
  rw [numbering, ← hn.ids, List.zipIdx_map, ← hn.counted]
  rfl

-- The entries in the order in which they were mentioned, with the numbers that are found for them.
theorem Numbered.getElem?_mentioned {calls : List SessionCall} {s : Session}
    (hn : Numbered calls s) (k : Nat) :
    (s.history.mentioned[k]?).map (fun i =>
      (s.store.idAt i, (s.history.numbers.lookup i).getD 0)) = s.numbering[k]? := by
  rw [numbering, History.mentioned, Assoc.keys, List.getElem?_map, List.getElem?_map,
    Option.map_map]
  cases hk : s.history.numbers[k]? with
  | none => rfl
  | some x =>
      have hlookup := Assoc.lookup_of_mem (NumberedBy.nodup hn) (List.mem_of_getElem? hk)
      simp only [Option.map_some, Function.comp_apply, hlookup, Option.getD_some]

/-! ## The order of the bibliography -/

/-- There is one item for each entry, with its identifier and its number. -/
theorem renderItems_items {s : Session} {part : Section} (indexes : List Nat) :
    ∀ {previous : Option String} {items : List BibliographyItem} {n n' : List Render.Notice},
      s.renderItems part previous indexes n = .ok items n' →
      items.map (fun item => (item.entryId, item.number)) =
        indexes.map fun i => (s.store.idAt i, (s.history.numbers.lookup i).getD 0) := by
  induction indexes with
  | nil =>
      intro previous items n n' h
      injection h with hitems _
      rw [← hitems]
      rfl
  | cons i rest ih =>
      intro previous items n n' h
      rw [renderItems] at h
      rcases bind_eq_ok_iff.1 h with ⟨runs, w, -, h⟩
      rcases bind_eq_ok_iff.1 h with ⟨others, w', hothers, h⟩
      injection h with hitems _
      rw [← hitems, List.map_cons, List.map_cons, ih hothers]
      rfl

/-- Sorting the entries that were mentioned fails, or rendering one of them does. -/
def Unlistable (s : Session) (part : Section) (e : RenderError) : Prop :=
  (∃ notices, sortEntries part.sort
    (s.history.mentioned.map fun i => (s.entryAt i, s.itemContext part i)) [] =
      .error e notices) ∨
    ∃ i ∈ s.history.mentioned, ∃ n notices,
      (Render.renderItem (s.itemContext part i) (s.entryAt i) part.layout) n = .error e notices

-- Items fail if one of them cannot be rendered.
theorem renderItems_error {s : Session} {part : Section} {e : RenderError} (indexes : List Nat) :
    ∀ {previous : Option String} {n n' : List Render.Notice},
      s.renderItems part previous indexes n = .error e n' →
      ∃ i ∈ indexes, ∃ m m',
        (Render.renderItem (s.itemContext part i) (s.entryAt i) part.layout) m = .error e m' := by
  induction indexes with
  | nil =>
      intro previous n n' h
      cases h
  | cons i rest ih =>
      intro previous n n' h
      rw [renderItems] at h
      rcases bind_eq_error_iff.1 h with hitem | ⟨runs, w, -, h⟩
      · exact ⟨i, List.mem_cons_self, n, n', hitem⟩
      · rcases bind_eq_error_iff.1 h with hothers | ⟨others, w', -, h⟩
        · rcases ih hothers with ⟨j, hj, hitem⟩
          exact ⟨j, List.mem_cons_of_mem i hj, hitem⟩
        · cases h

theorem bibliographyItems_error {s : Session} {part : Section} {e : RenderError}
    {notices : List Render.Notice} (h : s.bibliographyItems part [] = .error e notices) :
    s.Unlistable part e := by
  unfold bibliographyItems sortedEntries at h
  rcases bind_eq_error_iff.1 h with hsorted | ⟨sorted, w, hsorted, hrender⟩
  · rcases bind_eq_error_iff.1 hsorted with hsort | ⟨order, w, -, h⟩
    · exact Or.inl ⟨notices, hsort⟩
    · cases h
  · rcases bind_eq_ok_iff.1 hsorted with ⟨order, w', -, horder⟩
    injection horder with hsame _
    rcases renderItems_error _ hrender with ⟨i, hi, m, m', hitem⟩
    rw [← hsame, List.mem_filterMap] at hi
    rcases hi with ⟨k, -, hk⟩
    exact Or.inr ⟨i, List.mem_of_getElem? hk, m, m', hitem⟩

-- The bibliography of a style that has one, or a failure to render it.
theorem bibliography_items {s : Session} {part : Section}
    (hpart : s.style.bibliography = some part) :
    (∃ b s' order notices, bibliography s = .ok b s' ∧
      sortEntries part.sort (s.history.mentioned.map fun i => (s.entryAt i, s.itemContext part i))
        [] = .ok order notices ∧
      b.items.map (fun item => (item.entryId, item.number)) =
        (order.filterMap (s.history.mentioned[·]?)).map fun i =>
          (s.store.idAt i, (s.history.numbers.lookup i).getD 0)) ∨
      ∃ e s', bibliography s = .error (.rendering e) s' ∧ s.Unlistable part e := by
  unfold bibliography
  rw [get_bind, hpart]
  simp only
  cases hitems : s.bibliographyItems part [] with
  | error e notices =>
      have hren : rendering (s.bibliographyItems part) s = .error (.rendering e)
          { s with journal := notices.reverse.map Render.Notice.record ++ s.journal } := by
        rw [rendering, hitems]
      rw [bind_of_error hren]
      exact Or.inr ⟨e, _, rfl, bibliographyItems_error hitems⟩
  | ok items notices =>
      have hren : rendering (s.bibliographyItems part) s = .ok items
          { s with journal := notices.reverse.map Render.Notice.record ++ s.journal } := by
        rw [rendering, hitems]
      rw [bind_of_ok hren]
      unfold bibliographyItems sortedEntries at hitems
      rcases bind_eq_ok_iff.1 hitems with ⟨sorted, w, hsorted, hrender⟩
      rcases bind_eq_ok_iff.1 hsorted with ⟨order, w', hsort, horder⟩
      injection horder with hsame _
      rw [← hsame] at hrender
      exact Or.inl ⟨_, _, order, w', rfl, hsort, renderItems_items _ hrender⟩

/-- The numbers after any run are counted from one in the order in which the calls that were not
    refused mention entries, and none of them ever changes. The bibliography has one item for each
    of them, in the order in which sorting puts the entries, unless the entries cannot be
    sorted or one of them cannot be rendered. -/
theorem numbering_complete (id : String) (store : EntryStore) (style : Style) (locale : Locale)
    (settings : EngineSettings) (calls : List SessionCall) (s : Session)
    (replies : List (Except SessionError Reply))
    (hs : (replies, s) = runCalls SessionCall.run calls (start id store style locale settings)) :
    s.numbering = ((acceptedCalls calls replies).flatMap SessionCall.mentions).eraseDups.zipIdx 1 ∧
    (∀ entryId n, (entryId, n) ∈ s.numbering ↔ s.numberOf? entryId = some n) ∧
    (∀ later, s.numbering <+: (runCalls SessionCall.run later s).2.numbering) ∧
    ∀ part, s.style.bibliography = some part →
      (∃ b s' order notices, bibliography s = .ok b s' ∧
        sortEntries part.sort
          (s.history.mentioned.map fun i => (s.entryAt i, s.itemContext part i)) [] =
            .ok order notices ∧
        order.Perm (List.range s.numbering.length) ∧
        b.items.map (fun item => (item.entryId, item.number)) =
          order.filterMap (s.numbering[·]?) ∧
        (b.items.map fun item => (item.entryId, item.number)).Perm s.numbering) ∨
      ∃ e s', bibliography s = .error (.rendering e) s' ∧ s.Unlistable part e := by
  have hstart : Numbered [] (start id store style locale settings) :=
    ⟨rfl, rfl, fun i hi => absurd hi List.not_mem_nil⟩
  have hn : Numbered (acceptedCalls calls replies) s := by
    have hrun := runCalls_enters Numbered.congr Numbered.enters calls [] _ hstart
    rw [← hs] at hrun
    exact hrun
  refine ⟨hn.numbering_eq, fun _ _ => hn.mem_numbering_iff, fun later => ?_, fun part hpart => ?_⟩
  · have hlater := runCalls_enters Numbered.congr Numbered.enters later _ s hn
    rw [hlater.numbering_eq, hn.numbering_eq, List.flatMap_append, List.eraseDups_append,
      List.zipIdx_append]
    exact List.prefix_append _ _
  · rcases bibliography_items hpart with ⟨b, s', order, notices, hrun, hsort, hitems⟩ | hfail
    · have hperm := sortEntries_perm hsort
      have hlength : s.history.mentioned.length = s.numbering.length := by
        rw [numbering, List.length_map, History.mentioned, Assoc.keys, List.length_map]
      rw [List.length_map, hlength] at hperm
      have hlist : b.items.map (fun item => (item.entryId, item.number)) =
          order.filterMap (s.numbering[·]?) := by
        rw [hitems, List.map_filterMap]
        exact List.filterMap_congr fun k _ => hn.getElem?_mentioned k
      refine Or.inl ⟨b, s', order, notices, hrun, hsort, hperm, hlist, ?_⟩
      rw [hlist]
      exact filterMap_getElem?_perm hperm
    · exact Or.inr hfail

/-- A session of a style with a bibliography. -/
def listedWorks : Session :=
  start "session" { entries := [{ id := "a" }, { id := "b" }] }
    { id := "style"
      citation := { layout := { children := [.text (.ofValue "W") {}] } }
      bibliography := some { layout := { children := [.text (.ofValue "W") {}] } } }
    { lang := "" }

set_option maxRecDepth 100000 in
theorem numbering_complete_listedWorks :
    ∃ s b s', s = (runCalls SessionCall.run [.nocite ["b", "c"], .nocite ["b", "b"],
        .process (.ofIds ["a", "b"] 1)] listedWorks).2 ∧
      s.numbering = [("b", 1), ("a", 2)] ∧ bibliography s = .ok b s' ∧
      (b.items.map fun item => (item.entryId, item.number)).Perm [("b", 1), ("a", 2)] := by
  have hok : (replyOf (bibliography (runCalls SessionCall.run [.nocite ["b", "c"],
      .nocite ["b", "b"], .process (.ofIds ["a", "b"] 1)] listedWorks).2)).isOk = true := by
    cbv
  have hnumbering : (runCalls SessionCall.run [.nocite ["b", "c"], .nocite ["b", "b"],
      .process (.ofIds ["a", "b"] 1)] listedWorks).2.numbering = [("b", 1), ("a", 2)] := by
    cbv
  have hstyle : (runCalls SessionCall.run [.nocite ["b", "c"], .nocite ["b", "b"],
      .process (.ofIds ["a", "b"] 1)] listedWorks).2.style.bibliography.isSome = true := by
    cbv
  obtain ⟨s, hs⟩ : ∃ s, s = (runCalls SessionCall.run [.nocite ["b", "c"], .nocite ["b", "b"],
      .process (.ofIds ["a", "b"] 1)] listedWorks).2 := ⟨_, rfl⟩
  have hrun : ((runCalls SessionCall.run [.nocite ["b", "c"], .nocite ["b", "b"],
      .process (.ofIds ["a", "b"] 1)] listedWorks).1, s) = runCalls SessionCall.run
        [.nocite ["b", "c"], .nocite ["b", "b"], .process (.ofIds ["a", "b"] 1)] listedWorks := by
    rw [hs]
  rw [← hs] at hok hnumbering hstyle
  rcases Option.isSome_iff_exists.1 hstyle with ⟨part, hpart⟩
  rcases (numbering_complete _ _ _ _ _ _ _ _ hrun).2.2.2 part hpart with
    ⟨b, s', -, -, hb, -, -, -, hperm⟩ | ⟨e, s', hfail, -⟩
  · rw [hnumbering] at hperm
    exact ⟨s, b, s', hs, hnumbering, hb, hperm⟩
  · rw [hfail] at hok
    exact absurd hok Bool.false_ne_true

end Session

end CslProcessor
