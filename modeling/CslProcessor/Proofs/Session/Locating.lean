import CslProcessor.Proofs.Session.Outline

/-!
# Identifiers and positions

Documents speak of entries by their identifiers, and a session by their positions in the store. A
session looks up all identifiers of a call before it does anything else, so that whatever it takes
in comes with positions that the store `Locates`. From then on either can be read off the other,
and a store that grows locates what it located before.

## Main definitions

* `EntryStore.idAt`: The identifier at a position.
* `EntryStore.Locates`: The positions of some identifiers.

## Theorems

* `indexOf?_add`: An identifier that is found stays where it is.
* `locates_of_locateAll`, `locates_of_accepted`: What a session looks up.
* `Locates.mem_iff`, `Locates.eq_iff`: Positions stand for identifiers.
* `Locates.mono`: What a later store locates.
-/

namespace CslProcessor

namespace EntryStore

/-- The identifier at a position, and an empty one where there is none. -/
def idAt (s : EntryStore) (index : Nat) : String :=
  ((s.get? index).getD { id := "" }).id

/-- At the position of an identifier there is this identifier. -/
theorem idAt_of_indexOf? {s : EntryStore} {id : String} {index : Nat}
    (h : s.indexOf? id = some index) : s.idAt index = id := by
  rw [indexOf?, List.findIdx?_eq_some_iff_getElem] at h
  rcases h with ⟨hlt, hid, -⟩
  rw [idAt, get?, List.getElem?_eq_getElem hlt, Option.getD_some]
  exact beq_iff_eq.1 hid

/-- The identifiers of a store are those that are found. -/
theorem isSome_indexOf?_iff {s : EntryStore} {id : String} :
    (s.indexOf? id).isSome = true ↔ id ∈ s.ids := by
  rw [indexOf?, List.findIdx?_isSome, List.any_eq_true, ids, List.mem_map]
  simp only [beq_iff_eq]

/-- An identifier that is found stays where it is when an entry is added. -/
theorem indexOf?_add {s : EntryStore} {id : String} {index : Nat} (e : Entry)
    (h : s.indexOf? id = some index) :
    ({ s with entries := s.entries ++ [e] } : EntryStore).indexOf? id = some index := by
  rw [indexOf?] at h ⊢
  rw [List.findIdx?_append, h, Option.some_or]

/-- Some identifiers are found at some positions, one by one. -/
def Locates (s : EntryStore) (ids : List String) (indexes : List Nat) : Prop :=
  ids.map s.indexOf? = indexes.map some

namespace Locates

variable {s s' : EntryStore} {ids ids' : List String} {indexes indexes' : List Nat}

theorem of_cons {id : String} (h : s.Locates (id :: ids) indexes) :
    ∃ i others, indexes = i :: others ∧ s.indexOf? id = some i ∧ s.Locates ids others := by
  cases indexes with
  | nil => exact absurd h (by simp [Locates])
  | cons i others =>
      rw [Locates, List.map_cons, List.map_cons, List.cons.injEq] at h
      exact ⟨i, others, rfl, h⟩

theorem exists_index (h : s.Locates ids indexes) {id : String} (hid : id ∈ ids) :
    ∃ i ∈ indexes, s.indexOf? id = some i := by
  have hmem : s.indexOf? id ∈ ids.map s.indexOf? := List.mem_map_of_mem hid
  rw [h, List.mem_map] at hmem
  rcases hmem with ⟨i, hi, heq⟩
  exact ⟨i, hi, heq.symm⟩

theorem getElem? (h : s.Locates ids indexes) {k i : Nat} {id : String} (hid : ids[k]? = some id)
    (hi : indexes[k]? = some i) : s.indexOf? id = some i := by
  have hat : (ids.map s.indexOf?)[k]? = (indexes.map some)[k]? := by rw [h]
  rw [List.getElem?_map, List.getElem?_map, hid, hi] at hat
  exact Option.some.inj hat

theorem length_eq (h : s.Locates ids indexes) : indexes.length = ids.length := by
  have hlengths := congrArg List.length h
  rw [List.length_map, List.length_map] at hlengths
  exact hlengths.symm

-- The same for a citation, of which every cite has its position.
theorem length_items {event : CitationEvent} (h : s.Locates event.entryIds indexes) :
    indexes.length = event.items.length := by
  rw [h.length_eq, CitationEvent.entryIds, List.length_map]

theorem indexOf?_item {event : CitationEvent} (h : s.Locates event.entryIds indexes) {k i : Nat}
    {item : CitationItem} (hitem : event.items[k]? = some item) (hi : indexes[k]? = some i) :
    s.indexOf? item.entryId = some i := by
  refine h.getElem? ?_ hi
  rw [CitationEvent.entryIds, List.getElem?_map, hitem, Option.map_some]

theorem take (h : s.Locates ids indexes) (k : Nat) : s.Locates (ids.take k) (indexes.take k) := by
  rw [Locates, List.map_take, List.map_take, h]

/-- The identifiers can be read off the positions. -/
theorem ids_eq (h : s.Locates ids indexes) : ids = indexes.map s.idAt := by
  have hsome : ids.map some = (indexes.map s.idAt).map some :=
    calc ids.map some = ids.map fun id => (s.indexOf? id).map s.idAt := by
          refine List.map_congr_left fun id hid => ?_
          rcases h.exists_index hid with ⟨i, -, hi⟩
          rw [hi, Option.map_some, idAt_of_indexOf? hi]
      _ = (ids.map s.indexOf?).map (Option.map s.idAt) := by
          rw [List.map_map]
          rfl
      _ = (indexes.map some).map (Option.map s.idAt) := by rw [h]
      _ = (indexes.map s.idAt).map some := by
          rw [List.map_map, List.map_map]
          rfl
  exact (List.map_inj_right fun _ _ => Option.some.inj).1 hsome

/-- Among positions that are located, a position stands for its identifier. -/
theorem mem_iff (h : s.Locates ids indexes) {id : String} {i : Nat} (hi : s.indexOf? id = some i) :
    i ∈ indexes ↔ id ∈ ids := by
  constructor
  · intro hmem
    rw [h.ids_eq, ← idAt_of_indexOf? hi]
    exact List.mem_map_of_mem hmem
  · intro hmem
    rcases h.exists_index hmem with ⟨j, hj, hid⟩
    rw [hi] at hid
    rw [Option.some.inj hid]
    exact hj

/-- The same positions are located for the same identifiers. -/
theorem eq_iff (h : s.Locates ids indexes) (h' : s.Locates ids' indexes') :
    indexes = indexes' ↔ ids = ids' := by
  constructor
  · rintro rfl
    rw [h.ids_eq, h'.ids_eq]
  · rintro rfl
    exact (List.map_inj_right fun _ _ => Option.some.inj).1 (h.symm.trans h')

/-- A store that finds all that another one finds locates what that one locates. -/
theorem mono (h : s.Locates ids indexes)
    (hfound : ∀ id i, s.indexOf? id = some i → s'.indexOf? id = some i) :
    s'.Locates ids indexes := by
  rw [Locates, ← h]
  refine List.map_congr_left fun id hid => ?_
  rcases h.exists_index hid with ⟨i, -, hi⟩
  rw [hi, hfound id i hi]

end Locates

end EntryStore

namespace Session

/-- A session looks up identifiers one by one. -/
theorem locates_of_locateAll {s : Session} {ids : List String} :
    ∀ {indexes : List Nat}, s.locateAll ids = .ok indexes → s.store.Locates ids indexes := by
  induction ids with
  | nil =>
      intro indexes h
      rw [← Except.ok.inj h]
      rfl
  | cons id rest ih =>
      intro indexes h
      rw [locateAll] at h
      cases hid : s.store.indexOf? id with
      | none =>
          rw [hid] at h
          exact absurd h (by simp only [reduceCtorEq, not_false_eq_true])
      | some index =>
          rw [hid] at h
          cases hrest : s.locateAll rest with
          | error e =>
              rw [hrest] at h
              exact absurd h (by simp only [Except.map, reduceCtorEq, not_false_eq_true])
          | ok others =>
              rw [hrest] at h
              rw [← Except.ok.inj h, EntryStore.Locates, List.map_cons, List.map_cons, hid,
                ih hrest]

/-- The entries of a citation that is accepted are found. -/
theorem locates_of_accepted {s : Session} {event : CitationEvent} {indexes : List Nat}
    (h : s.accepted event = .ok indexes) : s.store.Locates event.entryIds indexes := by
  refine locates_of_locateAll ?_
  unfold accepted at h
  split at h
  · exact absurd h (by simp only [reduceCtorEq, not_false_eq_true])
  · rename_i hloc _
    rw [hloc, ← Except.ok.inj h]
  · rename_i hloc _
    split at h
    · exact absurd h (by simp only [reduceCtorEq, not_false_eq_true])
    · rw [hloc, ← Except.ok.inj h]

end Session

end CslProcessor
