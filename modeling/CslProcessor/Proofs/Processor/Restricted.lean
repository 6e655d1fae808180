import CslProcessor.Proofs.Processor.Numbers
import CslProcessor.Proofs.Processor.Places
import Mathlib

/-!
# Bibliographies of some entries

A bibliography can be asked for some entries. They are mentioned first, so that they have numbers;
then the bibliography of the session is built, and the items of other entries are left out. So the
items are those of the bibliography of the session, in its order, and there is one for each entry
that was asked for: every one of them has a number now, and none has two items.

A list that names no entries is taken for none, so the bibliography of the session is not
restricted. What was asked for is nothing then, and nothing is what is listed if and only if the
bibliography of the session is empty.

The bibliography may be asked for at any time, also after calls that have failed. Building it
changes nothing but reports, which nothing heeds, so the session replies the same when it is asked
for its own bibliography right after the call.

## Main definitions

* `Bibliography.among`: The part of a bibliography that belongs to some entries.

## Theorems

* `Session.bibliography_entryIds`: A bibliography lists every entry that was mentioned, once.
* `Processor.generateBibliography_cases`: A bibliography of some entries, by what the session
  replies.
* `Processor.lists_asked_iff`: When nothing but what was asked for is listed.
-/

namespace CslProcessor

/-- The part of a bibliography that belongs to some entries. -/
def Bibliography.among (ids : List String) (b : Bibliography) : Bibliography :=
  if ids.isEmpty then b else { b with items := b.items.filter fun i => ids.contains i.entryId }

namespace Session

variable {s : Session}

/-! ## The bibliography of a session -/

theorem preserves_sameButReports_rendering {α : Type} (r : Render.Rendering α) :
    Preserves (SameButReports · s) (rendering r) := by
  intro u hu
  unfold rendering
  cases r [] <;> exact hu

theorem preserves_sameButReports_report (r : Log.Record) :
    Preserves (SameButReports · s) (report r) :=
  fun _ hu => hu

/-- Building a bibliography changes nothing but reports, whether or not it fails. -/
theorem sameButReports_bibliography (s : Session) :
    SameButReports (stateAfter (bibliography s)) s := by
  unfold bibliography
  rw [get_bind]
  cases s.style.bibliography with
  | none =>
      exact ((preserves_sameButReports_report _).bind fun _ => preserves_pure _) s rfl
  | some part =>
      refine ((preserves_sameButReports_rendering _).bind fun items => ?_) s rfl
      exact (preserves_sameButReports_report _).bind fun _ => preserves_pure _

-- So it is built again if it is asked for again.
theorem replyOf_bibliography_again (s : Session) :
    replyOf (bibliography (stateAfter (bibliography s))) = replyOf (bibliography s) :=
  (heedless_bibliography _ _ (sameButReports_bibliography s)).1

/-- A bibliography lists every entry that was mentioned, and none twice. -/
theorem bibliography_entryIds {part : Section} {ids : List String} {b : Bibliography}
    (hpart : s.style.bibliography = some part) (hn : NumberedBy ids s.store s.history)
    (hb : replyOf (bibliography s) = .ok b) : b.entryIds.Perm ids.eraseDups := by
  rcases bibliography_items hpart with ⟨b', s', order, notices, hrun, hsort, hitems⟩ |
    ⟨e, s', hrun, -⟩
  · rw [hrun] at hb
    have hsame : b' = b := Except.ok.inj hb
    have horder := sortEntries_perm hsort
    rw [List.length_map] at horder
    have hlist : b.entryIds = (order.filterMap (s.history.mentioned[·]?)).map s.store.idAt := by
      have hfirst := congrArg (List.map Prod.fst) hitems
      rw [List.map_map, List.map_map, hsame] at hfirst
      exact hfirst
    rw [hlist, ← hn.ids]
    exact (filterMap_getElem?_perm horder).map _
  · rw [hrun] at hb
    cases hb

end Session

namespace Bibliography

variable {ids mentioned : List String} {b : Bibliography}

theorem among_of_ne_nil (hids : ids ≠ []) (b : Bibliography) :
    b.among ids = { b with items := b.items.filter fun i => ids.contains i.entryId } := by
  rw [among, List.isEmpty_eq_false_iff.2 hids, if_neg Bool.false_ne_true]

theorem style_among (ids : List String) (b : Bibliography) : (b.among ids).style = b.style := by
  unfold among
  split <;> rfl

/-- What belongs to some entries keeps its order. -/
theorem items_among_sublist (ids : List String) (b : Bibliography) :
    (b.among ids).items.Sublist b.items := by
  unfold among
  split
  · exact List.Sublist.refl _
  · exact List.filter_sublist

/-- If every entry that was asked for was mentioned, the part that belongs to them lists them, each
    once. -/
theorem entryIds_among (hb : b.entryIds.Perm mentioned.eraseDups) (hids : ids ≠ [])
    (hmentioned : ids ⊆ mentioned) : (b.among ids).entryIds.Perm ids.eraseDups := by
  have hlist : (b.among ids).entryIds = b.entryIds.filter ids.contains := by
    rw [among_of_ne_nil hids, entryIds, entryIds, List.filter_map]
    rfl
  have hnodup : b.entryIds.Nodup := hb.nodup_iff.2 (nodup_eraseDups mentioned)
  rw [hlist, List.perm_ext_iff_of_nodup (hnodup.filter _) (nodup_eraseDups ids)]
  intro id
  rw [List.mem_filter, hb.mem_iff, List.mem_eraseDups, List.mem_eraseDups,
    List.contains_iff_mem]
  exact and_iff_right_of_imp fun hid => hmentioned hid

-- Without a list everything is listed.
theorem entryIds_among_nil_iff : (b.among []).entryIds.Perm ([] : List String).eraseDups ↔
    b.items = [] := by
  rw [List.eraseDups_nil, List.perm_nil]
  exact List.map_eq_nil_iff

end Bibliography

namespace Processor

open Session (refusal)

variable {p : Processor} {ids : List String}

/-! ## The bibliography of some entries -/

/-- A bibliography of some entries fails while they are mentioned, or it is a part of what the
    session replies. -/
theorem generateBibliography_cases (ids : List String) (p : Processor) :
    (∃ e q, prepare ids p = .error e q ∧ replyOf (generateBibliography ids p) = .error e) ∨
      ∃ q, prepare ids p = .ok () q ∧
        (stateAfter (generateBibliography ids p)).session =
          stateAfter (Session.bibliography q.session) ∧
        replyOf (generateBibliography ids p) =
          (replyOf (Session.bibliography q.session)).map (Bibliography.among ids) := by
  rw [generateBibliography_eq]
  cases hprepare : prepare ids p with
  | error e q =>
      refine Or.inl ⟨e, q, rfl, ?_⟩
      rw [bind_of_error hprepare]
      rfl
  | ok u q =>
      have hstate := stateAfter_read (onSession Session.bibliography)
        (fun _ => Bibliography.among ids) q
      have hreply := replyOf_read (onSession Session.bibliography)
        (fun _ => Bibliography.among ids) q
      rw [stateAfter_onSession] at hstate
      rw [replyOf_onSession] at hreply
      rw [bind_of_ok hprepare]
      exact Or.inr ⟨q, rfl, congrArg Processor.session hstate, hreply⟩

/-- Mentioning stored entries is never refused, though it may fail. -/
theorem refusal_nocite_of_stored (hids : ids ⊆ p.session.store.ids) :
    refusal (replyOf (nocite ids p)) = false := by
  rcases exists_locateAll fun id hid => EntryStore.isSome_indexOf?_iff.2 (hids hid) with
    ⟨indexes, hlocate⟩
  unfold nocite
  rw [replyOf_onSession, Session.refusal_nocite, hlocate]
  rfl

theorem refusal_prepare_of_stored (hids : ids ⊆ p.session.store.ids) :
    refusal (replyOf (prepare ids p)) = false := by
  rw [prepare_eq]
  cases ids.isEmpty with
  | false => exact refusal_nocite_of_stored hids
  | true =>
      cases p.session.history.events.isEmpty with
      | false => rfl
      | true => exact refusal_nocite_of_stored (List.Subset.refl _)

/-- Entries that a bibliography is asked for have numbers once they were mentioned. -/
theorem Counting.exists_numberedBy_prepare {style : Style} (hp : p.Counting style)
    (hne : ids ≠ []) (hids : ids ⊆ p.session.store.ids) :
    ∃ mentioned, Session.NumberedBy mentioned (stateAfter (prepare ids p)).session.store
      (stateAfter (prepare ids p)).session.history ∧ ids ⊆ mentioned := by
  rcases exists_locateAll fun id hid => EntryStore.isSome_indexOf?_iff.2 (hids hid) with
    ⟨indexes, hlocate⟩
  obtain ⟨before, hn⟩ := hp.session.numbered
  refine ⟨before ++ ids, ?_, List.subset_append_right _ _⟩
  rw [prepare_eq, List.isEmpty_eq_false_iff.2 hne, if_neg Bool.false_ne_true, nocite,
    stateAfter_onSession]
  exact Session.numberedBy_nocite hn hlocate

/-- The bibliography of some stored entries is a part of the bibliography that the session has right
    after the call, and keeps its order. It lists these entries, each once, and no others, unless
    the list of them is empty and the bibliography of the session is not. It fails only if the
    entries cannot be told apart or the bibliography of the session cannot be built. -/
theorem lists_asked_iff (style : Style) (locale : Locale) (settings : EngineSettings)
    (calls : List ProcessorCall) (p : Processor)
    (replies : List (Except SessionError Reply)) (ids : List String)
    (hp : (replies, p) = runCalls ProcessorCall.run calls (start style locale settings))
    (hstyle : style.bibliography.isSome = true) (hids : ids ⊆ p.session.store.ids) :
    match replyOf (generateBibliography ids p) with
    | .ok b => ∃ whole,
        replyOf (Session.bibliography (stateAfter (generateBibliography ids p)).session) =
          .ok whole ∧
        b.style = whole.style ∧ b.items.Sublist whole.items ∧ (ids = [] → b = whole) ∧
        (b.entryIds.Perm ids.eraseDups ↔ ids ≠ [] ∨ whole.items = [])
    | .error e => e.isInput = false ∧ (replyOf (prepare ids p) = .error e ∨
        replyOf (Session.bibliography (stateAfter (generateBibliography ids p)).session) =
          .error e) := by
  have hcounting : p.Counting style := by
    have hrun := counting_runCalls style locale settings calls
    rw [← hp] at hrun
    exact hrun
  have hprepared := preserves_prepare ids p hcounting
  have hcalm := refusal_prepare_of_stored hids
  obtain ⟨part, hpart⟩ := Option.isSome_iff_exists.1 hstyle
  rcases generateBibliography_cases ids p with ⟨e, q, hprepare, hreply⟩ |
    ⟨q, hprepare, hsession, hreply⟩
  · rw [hreply]
    rw [hprepare] at hcalm ⊢
    exact ⟨hcalm, Or.inl rfl⟩
  · -- What the session has replied in the call, it replies right after.
    rw [hreply, hsession, Session.replyOf_bibliography_again]
    cases hwhole : replyOf (Session.bibliography q.session) with
    | error e =>
        have hrefusal := refusal_bibliography q.session
        rw [hwhole] at hrefusal
        exact ⟨hrefusal, Or.inr rfl⟩
    | ok whole =>
        refine ⟨whole, rfl, Bibliography.style_among ids whole,
          Bibliography.items_among_sublist ids whole, ?_, ?_⟩
        · rintro rfl
          rfl
        · by_cases hne : ids = []
          · rw [hne, or_iff_right (not_not_intro rfl)]
            exact Bibliography.entryIds_among_nil_iff
          · obtain ⟨mentioned, hn, hsub⟩ := hcounting.exists_numberedBy_prepare hne hids
            rw [hprepare] at hn hprepared
            have hsection : q.session.style.bibliography = some part :=
              (congrArg Style.bibliography hprepared.session.ofStyle).trans hpart
            have hlisted := Session.bibliography_entryIds hsection hn hwhole
            exact iff_of_true (Bibliography.entryIds_among hlisted hne hsub) (Or.inl hne)

/-- A style that lists the numbers of entries. -/
def listedNumbers : Style :=
  { id := "style"
    citation := { layout := { children := [.number "citation-number" .numeric {}] } }
    bibliography := some { layout := { children := [.number "citation-number" .numeric {}] } } }

/-- Two entries, of which the first one is cited. -/
def firstCited : List ProcessorCall :=
  [.add { id := "a" }, .add { id := "b" }, .cite [.ofId "a"] none "page" none]

-- Two entries were asked for, one of them twice.
set_option maxRecDepth 100000 in
theorem lists_asked_iff_firstCited :
    ∃ replies p b,
      (replies, p) = runCalls ProcessorCall.run firstCited (start listedNumbers { lang := "" }) ∧
      replyOf (generateBibliography ["b", "a", "b"] p) = .ok b ∧ b.entryIds.Perm ["b", "a"] := by
  obtain ⟨replies, p, hp⟩ : ∃ replies p, (replies, p) =
      runCalls ProcessorCall.run firstCited (start listedNumbers { lang := "" }) := ⟨_, _, rfl⟩
  have hlast : p = (runCalls ProcessorCall.run firstCited
      (start listedNumbers { lang := "" })).2 := congrArg Prod.snd hp
  have hok : (replyOf (generateBibliography ["b", "a", "b"] p)).isOk = true := by
    rw [hlast]
    cbv
  have hids : p.session.store.ids = ["a", "b"] := by
    rw [hlast]
    cbv
  have hlists := lists_asked_iff listedNumbers { lang := "" } {} firstCited p replies
    ["b", "a", "b"] hp rfl (by rw [hids]; decide)
  cases hreply : replyOf (generateBibliography ["b", "a", "b"] p) with
  | error e =>
      rw [hreply] at hok
      exact absurd hok Bool.false_ne_true
  | ok b =>
      rw [hreply] at hlists
      obtain ⟨whole, -, -, -, -, hperm⟩ := hlists
      exact ⟨replies, p, b, hp, hreply, hperm.2 (Or.inl (List.cons_ne_nil _ _))⟩

-- No entries were asked for, and the one that was cited is listed.
set_option maxRecDepth 100000 in
theorem lists_cited_of_none_asked :
    ∃ replies p b,
      (replies, p) = runCalls ProcessorCall.run firstCited (start listedNumbers { lang := "" }) ∧
      replyOf (generateBibliography [] p) = .ok b ∧ b.entryIds = ["a"] ∧
      ¬ b.entryIds.Perm ([] : List String).eraseDups := by
  obtain ⟨replies, p, hp⟩ : ∃ replies p, (replies, p) =
      runCalls ProcessorCall.run firstCited (start listedNumbers { lang := "" }) := ⟨_, _, rfl⟩
  have hlast : p = (runCalls ProcessorCall.run firstCited
      (start listedNumbers { lang := "" })).2 := congrArg Prod.snd hp
  have hlist : (replyOf (generateBibliography [] p)).map Bibliography.entryIds = .ok ["a"] := by
    rw [hlast]
    cbv
  cases hreply : replyOf (generateBibliography [] p) with
  | error e =>
      rw [hreply] at hlist
      cases hlist
  | ok b =>
      rw [hreply] at hlist
      have hentries : b.entryIds = ["a"] := Except.ok.inj hlist
      refine ⟨replies, p, b, hp, hreply, hentries, ?_⟩
      rw [hentries, List.eraseDups_nil, List.perm_nil]
      exact List.cons_ne_nil _ _

end Processor

end CslProcessor
