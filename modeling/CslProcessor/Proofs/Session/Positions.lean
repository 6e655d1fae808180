import CslProcessor.Proofs.Session.Numbering

/-!
# Positions of cites

What is known of a cite, read off the document instead of tables.

A history keeps tables of what it takes to tell the position of the next cite: which citation cited
an entry first and which did so last, and which citation was the last one with any cites. They are
written while a citation is gone through, so that a cite counts for those behind it. `Tabled` says
that between citations they hold what a search of all citations would find, and `declaredCite` is
what such a search makes of a cite: a function of the citations before, of the citation itself and
of the index of the cite in it, besides the number of the entry.

Tables are written by positions in the store, while documents speak of identifiers. The two amount
to the same thing as long as the cited entries are `Located` in the store.

## Main definitions

* `lastIdx?`: The index of the last member with a property.
* `priorCite?`, `comparedPosition`, `declaredCite`: What is known of a cite of a document.
* `History.Tabled`: The tables hold what a search would find.
* `Session.declaredCites`: What is known of all cites of a session.
* `Session.Declared`: What is recorded of cites is what is known of them.

## Theorems

* `citeContexts_fst`, `lookup_citeContexts_snd`: A citation is gone through cite by cite.
* `Tabled.record`: The tables stay right when a citation is recorded.
* `priorItem?_eq`, `lastIdx?_cites`, `findIdx?_cites`: Tables and documents agree.
* `cites_recorded`: What is recorded of the cites of one more citation.
* `Declared.enters`: A call that is taken in leaves what is recorded as declared.
* `cites_declared`: What is recorded of all cites after any run.
-/

namespace CslProcessor

/-! ## The first and the last index -/

section Indexes

variable {α β : Type}

/-- The index of the last member with a property. -/
def lastIdx? (p : α → Bool) (l : List α) : Option Nat :=
  (l.zipIdx.filter fun x => p x.1).getLast?.map (·.2)

/-- One more member is the last one with the property, or makes no difference. -/
theorem lastIdx?_append_singleton (p : α → Bool) (l : List α) (a : α) :
    lastIdx? p (l ++ [a]) = if p a then some l.length else lastIdx? p l := by
  unfold lastIdx?
  rw [List.zipIdx_append, List.filter_append]
  cases hp : p a <;> simp [hp]

theorem lastIdx?_map (p : β → Bool) (f : α → β) (l : List α) :
    lastIdx? p (l.map f) = lastIdx? (fun a => p (f a)) l := by
  unfold lastIdx?
  rw [List.zipIdx_map, List.filter_map, List.getLast?_map, Option.map_map]
  rfl

theorem lastIdx?_congr {p q : α → Bool} {l : List α} (h : ∀ a ∈ l, p a = q a) :
    lastIdx? p l = lastIdx? q l := by
  unfold lastIdx?
  have hfilter : (l.zipIdx.filter fun x => p x.1) = l.zipIdx.filter fun x => q x.1 := by
    refine List.filter_congr ?_
    rintro ⟨a, i⟩ hmem
    exact h a (List.mem_of_getElem? (List.mem_zipIdx_iff_getElem?.1 hmem))
  rw [hfilter]

theorem findIdx?_congr {p q : α → Bool} {l : List α} (h : ∀ a ∈ l, p a = q a) :
    l.findIdx? p = l.findIdx? q := by
  induction l with
  | nil => rfl
  | cons a rest ih =>
      rw [List.findIdx?_cons, List.findIdx?_cons, h a List.mem_cons_self,
        ih fun b hb => h b (List.mem_cons_of_mem a hb)]

/-- What stands at the last index is the last member with the property. -/
theorem getElem?_lastIdx? (p : α → Bool) (l : List α) :
    (lastIdx? p l).bind (l[·]?) = (l.filter p).getLast? := by
  have hfst : l.filter p = (l.zipIdx.filter fun x => p x.1).map (·.1) := by
    conv_lhs => rw [← List.zipIdx_map_fst 0 l]
    rw [List.filter_map]
    rfl
  unfold lastIdx?
  rw [hfst, List.getLast?_map]
  cases hlast : (l.zipIdx.filter fun x => p x.1).getLast? with
  | none => rfl
  | some x =>
      have hmem := List.mem_filter.1 (List.mem_of_getLast? hlast)
      exact List.mem_zipIdx_iff_getElem?.1 hmem.1

end Indexes

/-! ## What is known of a cite -/

/-- Whether a citation cites an entry. -/
def CitationEvent.cites (e : CitationEvent) (id : String) : Bool :=
  e.entryIds.contains id

/-- A citation up to one of its cites. -/
def CitationEvent.upTo (e : CitationEvent) (k : Nat) : CitationEvent :=
  { e with items := e.items.take k }

/-- The cite that the cite of an index is compared with, given the citations before. If the last
    one of these that has cites cites the same entries in the same order, it is the cite of the
    same index there. Otherwise it is the cite before in the citation itself, and for the first one
    the only cite of that last citation. -/
def priorCite? (earlier : List CitationEvent) (event : CitationEvent) (k : Nat) :
    Option CitationItem :=
  let last := (earlier.filter (!·.items.isEmpty)).getLast?
  match last.filter (·.entryIds == event.entryIds) with
  | some previous => previous.items[k]?
  | none =>
    if 0 < k then event.items[k - 1]?
    else (last.filter (·.items.length == 1)).bind (·.items[0]?)

/-- The position of a cite of an entry that was cited before, by the cite that it is compared
    with. -/
def comparedPosition (prior : Option CitationItem) (item : CitationItem) : Position :=
  match prior with
  | none => .subsequent
  | some p =>
    if p.entryId ≠ item.entryId ∨ (item.locator = none ∧ p.locator ≠ none) then .subsequent
    else if (p.locator = none ∧ item.locator = none)
        ∨ (p.locator = item.locator ∧ p.locatorType = item.locatorType) then .ibid
    else .ibidWithLocator

/-- What is known of the cite of an index, given the citations before and the number of the
    entry. -/
def declaredCite (near : Int) (earlier : List CitationEvent) (event : CitationEvent)
    (number : Option Nat) (k : Nat) (item : CitationItem) : CiteContext :=
  let last := lastIdx? (·.cites item.entryId) (earlier ++ [event.upTo k])
  { position :=
      if last.isNone then .first else comparedPosition (priorCite? earlier event k) item
    nearNote := last.any fun n => decide ((earlier.length : Int) - n ≤ near)
    locator := item.locator
    locatorType := item.locatorType
    citationNumber := number.map Int.ofNat
    firstNoteNumber :=
      ((earlier ++ [event]).findIdx? (·.cites item.entryId)).map fun n => Int.ofNat (n + 1) }

theorem laterPosition_eq (prior : Option CitationItem) (item : CitationItem) :
    History.laterPosition prior item = comparedPosition prior item := by
  cases prior with
  | none => rfl
  | some p =>
      unfold History.laterPosition comparedPosition repeatPosition
      cases hid : p.entryId == item.entryId <;> cases hl : item.locator <;>
        cases hp : p.locator <;> simp_all

/-! ## Going through a citation -/

namespace History

-- A cite counts as the last one of its entry for the cites behind it.
theorem citeContexts_fst (h : History) (near : Int) (event : CitationEvent) (indexes : List Nat)
    (l : List (CitationItem × Nat)) :
    ∀ (k : Nat) (lastCited : Assoc Nat Nat),
      (h.citeContexts near event indexes k lastCited l).1 = l.mapIdx fun m x =>
        h.citeContext near event indexes
          (if x.2 ∈ (l.take m).map (·.2) then some h.events.length else lastCited.lookup x.2)
          (k + m) x.1 x.2 := by
  induction l with
  | nil => exact fun _ _ => rfl
  | cons y rest ih =>
      intro k lastCited
      rcases y with ⟨item, index⟩
      rw [citeContexts, List.mapIdx_cons]
      simp only [ih, List.take_zero, List.map_nil, List.not_mem_nil, if_false, Nat.add_zero,
        List.cons.injEq, true_and]
      refine congrArg (fun f => rest.mapIdx f) ?_
      funext m x
      rw [List.take_succ_cons, List.map_cons, Nat.add_right_comm, Nat.add_assoc]
      by_cases hx : x.2 = index
      · simp [hx]
      · rw [Assoc.lookup_set_of_ne hx]
        simp [hx]

-- Afterwards the citation is the last one for all entries that it cites.
theorem lookup_citeContexts_snd (h : History) (near : Int) (event : CitationEvent)
    (indexes : List Nat) (l : List (CitationItem × Nat)) :
    ∀ (k : Nat) (lastCited : Assoc Nat Nat) (i : Nat),
      (h.citeContexts near event indexes k lastCited l).2.lookup i =
        if i ∈ l.map (·.2) then some h.events.length else lastCited.lookup i := by
  induction l with
  | nil => exact fun _ _ _ => rfl
  | cons y rest ih =>
      intro k lastCited i
      rcases y with ⟨item, index⟩
      refine (ih (k + 1) (Assoc.set index h.events.length lastCited) i).trans ?_
      simp only [List.map_cons, List.mem_cons]
      by_cases hi : i = index
      · simp [hi]
      · rw [Assoc.lookup_set_of_ne hi]
        exact if_congr (or_iff_right hi).symm rfl rfl

-- The first citation of an entry is noted once.
theorem lookup_firstNotes_foldl_register (n : Nat) (indexes : List Nat) (i : Nat) :
    ∀ h : History, (indexes.foldl (register n) h).firstNotes.lookup i =
      (h.firstNotes.lookup i).or (if i ∈ indexes then some (n + 1) else none) := by
  induction indexes with
  | nil => simp
  | cons j rest ih =>
      intro h
      have hnotes : (h.number j).firstNotes = h.firstNotes := by
        unfold number
        split <;> rfl
      rw [List.foldl_cons, ih, register_eq, hnotes]
      by_cases hi : i = j
      · cases hj : h.firstNotes.lookup j with
        | none => simp [hi, hj]
        | some m => simp [hi, hnotes, hj]
      · cases hj : h.firstNotes.lookup j with
        | none => simp [hi, Assoc.lookup_set_of_ne hi]
        | some m => simp [hi, hnotes]

/-- The tables of a history hold what a search of its citations would find. -/
structure Tabled (h : History) : Prop where
  lastCited : ∀ i, h.lastCited.lookup i = lastIdx? (·.indexes.contains i) h.events
  firstNotes : ∀ i,
    h.firstNotes.lookup i = (h.events.findIdx? (·.indexes.contains i)).map (· + 1)
  previous : h.previous = lastIdx? (!·.event.items.isEmpty) h.events
  numbered : ∀ r ∈ h.events, ∀ i ∈ r.indexes, i ∈ h.mentioned

-- The tables do not depend on outputs.
theorem tabled_unrendered {h : History} : h.unrendered.Tabled ↔ h.Tabled := by
  have hlast : ∀ p : EventRecord → Bool, (∀ r, p { r with rendered := {} } = p r) →
      lastIdx? p h.unrendered.events = lastIdx? p h.events := by
    intro p hp
    rw [unrendered, lastIdx?_map]
    exact lastIdx?_congr fun r _ => hp r
  have hfirst : ∀ i, h.unrendered.events.findIdx? (·.indexes.contains i) =
      h.events.findIdx? (·.indexes.contains i) := by
    intro i
    rw [unrendered, List.findIdx?_map]
    rfl
  constructor
  · rintro ⟨hlasts, hfirsts, hprevious, hnumbered⟩
    refine ⟨fun i => ?_, fun i => ?_, ?_, fun r hr => ?_⟩
    · exact (hlasts i).trans (hlast _ fun _ => rfl)
    · exact (hfirsts i).trans (congrArg (Option.map (· + 1)) (hfirst i))
    · exact hprevious.trans (hlast _ fun _ => rfl)
    · exact hnumbered { r with rendered := {} } (List.mem_map.2 ⟨r, hr, rfl⟩)
  · rintro ⟨hlasts, hfirsts, hprevious, hnumbered⟩
    refine ⟨fun i => ?_, fun i => ?_, ?_, fun r hr => ?_⟩
    · exact (hlasts i).trans (hlast _ fun _ => rfl).symm
    · exact (hfirsts i).trans (congrArg (Option.map (· + 1)) (hfirst i)).symm
    · exact hprevious.trans (hlast _ fun _ => rfl).symm
    · rcases List.mem_map.1 hr with ⟨r', hr', rfl⟩
      exact hnumbered r' hr'

-- Numbers that are given do not matter to what is found.
theorem Tabled.mention {h : History} (ht : h.Tabled) (indexes : List Nat) :
    (h.mention indexes).Tabled := by
  have hevents : (h.mention indexes).events = h.events := by rw [mention_eq]
  refine ⟨?_, ?_, ?_, ?_⟩
  · rw [hevents, mention_eq]
    exact ht.lastCited
  · rw [hevents, mention_eq]
    exact ht.firstNotes
  · rw [hevents, mention_eq]
    exact ht.previous
  · rw [hevents]
    exact fun r hr i hi => mem_mentioned_mention.2 (Or.inr (ht.numbered r hr i hi))

/-- The tables stay right when a citation is recorded. -/
theorem Tabled.record {h : History} (ht : h.Tabled) (near : Int) {event : CitationEvent}
    {indexes : List Nat} (hlength : indexes.length = event.items.length) :
    (h.record near event indexes).Tabled := by
  rcases exists_record near event indexes h with ⟨cites, hevents⟩
  rcases foldl_register h.events.length indexes h with ⟨f, hf⟩
  have hsnd : (event.items.zip indexes).map (·.2) = indexes :=
    List.map_snd_zip (Nat.le_of_eq hlength)
  refine ⟨fun i => ?_, fun i => ?_, ?_, ?_⟩
  · rw [hevents, lastIdx?_append_singleton, ← ht.lastCited]
    simp only [List.contains_iff_mem]
    have hlast := lookup_citeContexts_snd (indexes.foldl (register h.events.length) h) near event
      indexes (event.items.zip indexes) 0 h.lastCited i
    rw [hsnd, hf] at hlast
    rw [History.record, hf]
    exact hlast
  · rw [hevents, List.findIdx?_append]
    have hfirst := lookup_firstNotes_foldl_register h.events.length indexes i h
    rw [hf, ht.firstNotes] at hfirst
    rw [History.record, hf]
    refine hfirst.trans ?_
    by_cases hi : i ∈ indexes
    · cases h.events.findIdx? (·.indexes.contains i) <;> simp [hi]
    · cases h.events.findIdx? (·.indexes.contains i) <;> simp [hi]
  · rw [hevents, lastIdx?_append_singleton, ← ht.previous]
    rw [History.record, hf]
    cases event.items.isEmpty <;> rfl
  · intro r hr i hi
    rw [mentioned_record, mem_mentioned_mention]
    rw [hevents, List.mem_append, List.mem_singleton] at hr
    rcases hr with hr | rfl
    · exact Or.inr (ht.numbered r hr i hi)
    · exact Or.inl hi

/-! ## Recording -/

/-- The citations of a history. -/
def document (h : History) : List CitationEvent :=
  h.events.map (·.event)

/-- All cited entries are found in a store, at the positions that are recorded. -/
def Located (h : History) (store : EntryStore) : Prop :=
  ∀ r ∈ h.events, store.Locates r.event.entryIds r.indexes

section Recording

variable {h : History} {store : EntryStore} {event : CitationEvent} {indexes : List Nat}

-- The last citation with cites, as it stands in the document.
theorem Tabled.previousEvent (ht : h.Tabled) :
    h.previousEvent?.map (·.event) = (h.document.filter (!·.items.isEmpty)).getLast? := by
  rw [previousEvent?, ht.previous, getElem?_lastIdx?, document, List.filter_map,
    List.getLast?_map]
  rfl

-- The cite to compare with is found through the tables.
theorem priorItem?_eq (ht : h.Tabled) (hlocated : h.Located store)
    (hids : store.Locates event.entryIds indexes) (k : Nat) :
    h.priorItem? event indexes k = priorCite? h.document event k := by
  have hfilter : (h.previousEvent?.filter (·.indexes == indexes)).map (·.event) =
      (h.previousEvent?.map (·.event)).filter (·.entryIds == event.entryIds) := by
    cases hr : h.previousEvent? with
    | none => rfl
    | some r =>
        have hmem : r ∈ h.events := by
          rcases Option.bind_eq_some_iff.1 hr with ⟨n, -, hn⟩
          exact List.mem_of_getElem? hn
        have hsame := (hlocated r hmem).eq_iff hids
        have hbeq : (r.event.entryIds == event.entryIds) = (r.indexes == indexes) := by
          rw [Bool.eq_iff_iff, beq_iff_eq, beq_iff_eq]
          exact hsame.symm
        rw [Option.map_some, Option.filter_some, Option.filter_some, hbeq]
        cases r.indexes == indexes <;> rfl
  simp only [priorItem?, priorCite?, ← ht.previousEvent, ← hfilter]
  cases h.previousEvent?.filter (·.indexes == indexes) with
  | some r => rfl
  | none =>
      cases k with
      | succ j => rfl
      | zero =>
          cases h.previousEvent? with
          | none => rfl
          | some r =>
              rcases hitems : r.event.items with _ | ⟨item, _ | ⟨item', rest⟩⟩ <;>
                simp [Option.filter_some, hitems]

-- A citation is recorded with the position of an entry if it cites the entry.
theorem Located.contains_indexes (hlocated : h.Located store) {id : String} {i : Nat}
    (hid : store.indexOf? id = some i) :
    ∀ r ∈ h.events, r.indexes.contains i = r.event.cites id := by
  intro r hr
  rw [CitationEvent.cites, Bool.eq_iff_iff, List.contains_iff_mem, List.contains_iff_mem]
  exact (hlocated r hr).mem_iff hid

-- The citation that cites an entry last, up to a cite of a new one.
theorem lastIdx?_cites (ht : h.Tabled) (hlocated : h.Located store)
    (hids : store.Locates event.entryIds indexes) {id : String} {i : Nat}
    (hid : store.indexOf? id = some i) (k : Nat) :
    lastIdx? (·.cites id) (h.document ++ [event.upTo k]) =
      if i ∈ indexes.take k then some h.events.length else h.lastCited.lookup i := by
  have htake : store.Locates (event.upTo k).entryIds (indexes.take k) := by
    rw [CitationEvent.upTo, CitationEvent.entryIds, List.map_take]
    exact hids.take k
  rw [lastIdx?_append_singleton, document, List.length_map, lastIdx?_map, ht.lastCited,
    lastIdx?_congr (hlocated.contains_indexes hid)]
  refine if_congr ?_ rfl rfl
  rw [CitationEvent.cites, List.contains_iff_mem]
  exact (htake.mem_iff hid).symm

-- The citation that cites an entry of a new one first, which may be the new one.
theorem findIdx?_cites (ht : h.Tabled) (hlocated : h.Located store)
    (hids : store.Locates event.entryIds indexes) {id : String} {i : Nat}
    (hid : store.indexOf? id = some i) (hmem : i ∈ indexes) :
    ((h.document ++ [event]).findIdx? (·.cites id)).map (· + 1) =
      (indexes.foldl (register h.events.length) h).firstNotes.lookup i := by
  have hevent : event.cites id = true := by
    rw [CitationEvent.cites, List.contains_iff_mem]
    exact (hids.mem_iff hid).1 hmem
  have hdocument : h.document.findIdx? (·.cites id) =
      h.events.findIdx? (·.indexes.contains i) := by
    rw [document, List.findIdx?_map]
    exact findIdx?_congr fun r hr => (hlocated.contains_indexes hid r hr).symm
  rw [lookup_firstNotes_foldl_register, ht.firstNotes, List.findIdx?_append, hdocument,
    if_pos hmem]
  cases h.events.findIdx? (·.indexes.contains i) <;> simp [hevent, document]

/-- What is recorded of a cite is what is known of it. -/
theorem citeContext_eq (ht : h.Tabled) (hlocated : h.Located store)
    (hids : store.Locates event.entryIds indexes) (near : Int) {k i : Nat}
    {item : CitationItem} (hitem : event.items[k]? = some item) (hi : indexes[k]? = some i) :
    (indexes.foldl (register h.events.length) h).citeContext near event indexes
        (if i ∈ indexes.take k then some h.events.length else h.lastCited.lookup i) k item i =
      declaredCite near h.document event ((h.mention indexes).numbers.lookup i) k item := by
  have hid := hids.indexOf?_item hitem hi
  have hlast := lastIdx?_cites ht hlocated hids hid k
  have hfirst := findIdx?_cites ht hlocated hids hid (List.mem_of_getElem? hi)
  have hprior := priorItem?_eq ht hlocated hids k
  rcases foldl_register h.events.length indexes h with ⟨f, hf⟩
  rw [hf] at hfirst ⊢
  unfold citeContext declaredCite
  rw [← hlast, ← hfirst, ← laterPosition_eq, ← hprior, document, List.length_map]
  simp only [CiteContext.mk.injEq, Option.map_map, true_and]
  constructor
  · cases lastIdx? (·.cites item.entryId) (h.events.map (·.event) ++ [event.upTo k]) <;> rfl
  · rfl

/-- What is recorded of the cites of one more citation. -/
theorem cites_recorded (ht : h.Tabled) (hlocated : h.Located store)
    (hids : store.Locates event.entryIds indexes) (near : Int) :
    (h.record near event indexes).events.map (·.cites) =
      h.events.map (·.cites) ++ [event.items.mapIdx fun k item =>
        declaredCite near h.document event
          ((store.indexOf? item.entryId).bind ((h.mention indexes).numbers.lookup ·)) k item] := by
  have hlength := hids.length_items
  have hsnd : (event.items.zip indexes).map (·.2) = indexes :=
    List.map_snd_zip (Nat.le_of_eq hlength)
  rcases foldl_register h.events.length indexes h with ⟨f, hf⟩
  have hcites : ((indexes.foldl (register h.events.length) h).citeContexts near event indexes 0
      h.lastCited (event.items.zip indexes)).1 = event.items.mapIdx fun k item =>
        declaredCite near h.document event
          ((store.indexOf? item.entryId).bind ((h.mention indexes).numbers.lookup ·)) k item := by
    rw [citeContexts_fst]
    refine List.ext_getElem? fun k => ?_
    rw [List.getElem?_mapIdx, List.getElem?_mapIdx, List.map_take, hsnd, Nat.zero_add]
    cases hitem : event.items[k]? with
    | none =>
        rw [List.getElem?_eq_none_iff] at hitem
        rw [List.getElem?_eq_none_iff.2 (by rw [List.length_zip]; omega)]
        rfl
    | some item =>
        have hk : k < indexes.length := by
          rw [hlength]
          exact (List.getElem?_eq_some_iff.1 hitem).1
        have hi : indexes[k]? = some indexes[k] := List.getElem?_eq_getElem hk
        have hzip : (event.items.zip indexes)[k]? = some (item, indexes[k]) := by
          rw [List.getElem?_zip_eq_some]
          exact ⟨hitem, hi⟩
        have hid := hids.indexOf?_item hitem hi
        have hcite := citeContext_eq ht hlocated hids near hitem hi
        rw [hzip, Option.map_some, Option.map_some, hid, Option.bind_some, ← hcite, hf]
  rw [hf] at hcites
  rw [History.record, hf]
  simp only [List.map_append, List.map_cons, List.map_nil, hcites]

end Recording

end History

/-! ## Runs -/

/-- The citation that a call asks to be taken in. -/
def SessionCall.event? : SessionCall → Option CitationEvent
  | .process event => some event
  | .nocite _ | .add _ | .refresh | .citations | .number _ | .disambiguation _
  | .bibliography => none

namespace Session

/-- The citations that a session has taken in. -/
def document (s : Session) : List CitationEvent :=
  s.history.document

/-- What is known of the cites of a session by its document. -/
def declaredCites (s : Session) (near : Int) : List (List CiteContext) :=
  s.document.mapIdx fun j event => event.items.mapIdx fun k item =>
    declaredCite near (s.document.take j) event (s.numberOf? item.entryId) k item

/-- The citations of a session are those of its calls, and what is recorded of their cites is what
    is known of them. -/
structure Declared (near : Int) (calls : List SessionCall) (s : Session) : Prop where
  distance : s.nearNoteDistance = near
  document : s.document = calls.filterMap SessionCall.event?
  located : s.history.Located s.store
  tabled : s.history.Tabled
  cites : s.history.events.map (·.cites) = s.declaredCites near

variable {near : Int} {calls : List SessionCall} {s : Session}

-- None of it depends on more than the outline.
theorem declared_outline : Declared near calls s.outline ↔ Declared near calls s := by
  have hdocument : s.outline.document = s.document := List.map_map
  have hcites : s.outline.history.events.map (·.cites) = s.history.events.map (·.cites) :=
    List.map_map
  have hlocated : s.outline.history.Located s.outline.store ↔ s.history.Located s.store :=
    List.forall_mem_map
  have hdeclared : s.outline.declaredCites near = s.declaredCites near := by
    rw [declaredCites, declaredCites, hdocument]
    rfl
  constructor
  · rintro ⟨hdistance, hcalls, hfound, htabled, hsame⟩
    exact ⟨hdistance, hdocument.symm.trans hcalls, hlocated.1 hfound,
      History.tabled_unrendered.1 htabled, by rw [← hcites, hsame, hdeclared]⟩
  · rintro ⟨hdistance, hcalls, hfound, htabled, hsame⟩
    exact ⟨hdistance, hdocument.trans hcalls, hlocated.2 hfound,
      History.tabled_unrendered.2 htabled, by rw [hcites, hsame, hdeclared]⟩

theorem Declared.congr (calls : List SessionCall) (s u : Session) (heq : s.outline = u.outline)
    (h : Declared near calls s) : Declared near calls u := by
  rw [← declared_outline, ← heq, declared_outline]
  exact h

-- What is known of the cites so far is known later, if no number is changed.
theorem declaredCites_append {u : Session} {more : List CitationEvent}
    (hdocument : u.document = s.document ++ more)
    (hnumbers : ∀ event ∈ s.document, ∀ item ∈ event.items,
      u.numberOf? item.entryId = s.numberOf? item.entryId) :
    u.declaredCites near = s.declaredCites near ++ more.mapIdx fun j event =>
      event.items.mapIdx fun k item =>
        declaredCite near (s.document ++ more.take j) event (u.numberOf? item.entryId) k item := by
  rw [declaredCites, declaredCites, hdocument, List.mapIdx_append]
  congr 1
  · rw [List.mapIdx_eq_mapIdx_iff]
    intro j hj
    rw [List.mapIdx_eq_mapIdx_iff, List.take_append_of_le_length (Nat.le_of_lt hj)]
    intro k hk
    rw [hnumbers _ (List.getElem_mem hj) _ (List.getElem_mem hk)]
  · refine congrArg (fun f => more.mapIdx f) ?_
    funext j event
    rw [Nat.add_comm, List.take_length_add_append]

-- An entry that is cited has a number, and keeps it.
theorem Declared.numberOf? (h : Declared near calls s) {u : Session}
    (hfound : ∀ id i, s.store.indexOf? id = some i → u.store.indexOf? id = some i)
    (hkept : ∀ i ∈ s.history.mentioned, u.history.numbers.lookup i = s.history.numbers.lookup i) :
    ∀ event ∈ s.document, ∀ item ∈ event.items,
      u.numberOf? item.entryId = s.numberOf? item.entryId := by
  intro event hevent item hitem
  rcases List.mem_map.1 hevent with ⟨r, hr, rfl⟩
  have hcited : item.entryId ∈ r.event.entryIds := List.mem_map_of_mem hitem
  rcases (h.located r hr).exists_index hcited with ⟨i, hi, hid⟩
  have hmentioned := h.tabled.numbered r hr i hi
  rw [Session.numberOf?, Session.numberOf?, hid, hfound _ _ hid, Option.bind_some,
    Option.bind_some, hkept i hmentioned]

/-- A citation is recorded as declared. -/
theorem Declared.recorded (h : Declared near calls s) {event : CitationEvent}
    {indexes : List Nat} (hids : s.store.Locates event.entryIds indexes) :
    Declared near (calls ++ [.process event]) (s.recorded event indexes) := by
  rcases History.exists_record near event indexes s.history with ⟨cites, hevents⟩
  have hhistory : (s.recorded event indexes).history = s.history.record near event indexes := by
    rw [Session.recorded, h.distance]
  have hdocument : (s.recorded event indexes).document = s.document ++ [event] := by
    rw [Session.document, Session.document, hhistory, History.document, hevents, List.map_append]
    rfl
  have hnumbers := h.numberOf? (u := s.recorded event indexes) (fun _ _ hid => hid)
    fun i hi => by rw [hhistory, History.numbers_record, History.lookup_numbers_mention hi]
  refine ⟨h.distance, ?_, ?_, ?_, ?_⟩
  · rw [hdocument, h.document, List.filterMap_append]
    rfl
  · intro r hr
    rw [hhistory, hevents, List.mem_append, List.mem_singleton] at hr
    rcases hr with hr | rfl
    · exact h.located r hr
    · exact hids
  · rw [hhistory]
    exact h.tabled.record near hids.length_items
  · rw [declaredCites_append hdocument hnumbers, ← h.cites, hhistory,
      History.cites_recorded h.tabled h.located hids near]
    simp only [List.mapIdx_cons, List.mapIdx_nil, List.take_zero, List.append_nil,
      Session.numberOf?, hhistory, History.numbers_record]
    rfl

/-- A call that takes in no citation leaves everything as declared. -/
theorem Declared.unchanged (h : Declared near calls s) {u : Session} {call : SessionCall}
    (hcall : call.event? = none) (hdistance : u.nearNoteDistance = s.nearNoteDistance)
    (hevents : u.history.events = s.history.events) (htabled : u.history.Tabled)
    (hfound : ∀ id i, s.store.indexOf? id = some i → u.store.indexOf? id = some i)
    (hkept : ∀ i ∈ s.history.mentioned, u.history.numbers.lookup i = s.history.numbers.lookup i) :
    Declared near (calls ++ [call]) u := by
  have hdocument : u.document = s.document ++ [] := by
    rw [Session.document, History.document, hevents, List.append_nil]
    rfl
  refine ⟨hdistance.trans h.distance, ?_, ?_, htabled, ?_⟩
  · rw [hdocument, h.document, List.filterMap_append]
    simp [hcall]
  · intro r hr
    rw [hevents] at hr
    exact (h.located r hr).mono hfound
  · rw [declaredCites_append hdocument (h.numberOf? hfound hkept), ← h.cites, hevents]
    exact (List.append_nil _).symm

/-- A call that is taken in leaves what is recorded as declared. -/
theorem Declared.enters (calls : List SessionCall) (s : Session) (call : SessionCall)
    (u : Session) (h : Declared near calls s) (henters : Enters s call u) :
    Declared near (calls ++ [call]) u := by
  cases henters with
  | process haccept => exact h.recorded (locates_of_accepted haccept)
  | nocite _ =>
      refine h.unchanged rfl rfl ?_ (h.tabled.mention _) (fun _ _ hid => hid) fun i hi => ?_
      · rw [mentioning, History.mention_eq]
      · exact History.lookup_numbers_mention hi
  | add _ =>
      exact h.unchanged rfl rfl rfl h.tabled (fun _ _ hid => EntryStore.indexOf?_add _ hid)
        fun _ _ => rfl
  | refresh | citations | number | disambiguation | bibliography =>
      exact h.unchanged rfl rfl rfl h.tabled (fun _ _ hid => hid) fun _ _ => rfl

/-- What is recorded of the cites after any run is what is known of them by the citations that were
    not refused. -/
theorem cites_declared (id : String) (store : EntryStore) (style : Style) (locale : Locale)
    (settings : EngineSettings) (calls : List SessionCall) :
    let initial := start id store style locale settings
    let run := runCalls SessionCall.run calls initial
    run.2.document = (acceptedCalls calls run.1).filterMap SessionCall.event? ∧
      run.2.history.events.map (·.cites) = run.2.document.mapIdx fun j event =>
        event.items.mapIdx fun k item =>
          declaredCite initial.nearNoteDistance (run.2.document.take j) event
            (run.2.numberOf? item.entryId) k item := by
  intro initial run
  have hstart : Declared initial.nearNoteDistance [] initial := by
    refine ⟨rfl, rfl, fun r hr => absurd hr List.not_mem_nil, ?_, rfl⟩
    exact ⟨fun _ => rfl, fun _ => rfl, rfl, fun r hr => absurd hr List.not_mem_nil⟩
  have hrun := runCalls_enters Declared.congr Declared.enters calls [] initial hstart
  rw [List.nil_append] at hrun
  exact ⟨hrun.document, hrun.cites⟩

-- The same entries again, one of them at another page.
example :
    (let first : CitationEvent :=
      ⟨[{ entryId := "a" }, { entryId := "b", locator := "1" }], 1⟩
    let again : CitationEvent :=
      ⟨[{ entryId := "a" }, { entryId := "b", locator := "2" }], 2⟩
    again.items.mapIdx fun k item => (declaredCite 5 [first] again none k item).position) =
      [.ibid, .ibidWithLocator] := by
  decide

end Session

end CslProcessor
