import CslProcessor.Proofs.Disambiguation.Counting
import CslProcessor.Proofs.Disambiguation.Histories

/-!
# Letters in one batch or in many

Letters that are given by count do not depend on how the entries are put into resolutions. One pass
finds all groups of lookalikes and gives them letters, and leaves nothing to be done by another
one. So a resolution of entries whose cites are a text with a letter succeeds and gives the letters
by count, from any states that have no letters but these. Since the count of an entry does not
depend on what comes behind it, a history that only adds entries may give the letters in any number
of resolutions.

## Main definitions

* `Unserved`: A ripe group without letters.

## Theorems

* `separate_counted`, `completeGroups_counted`: One group, and groups with a common base key.
* `pass_separated`: One pass tells all entries apart.
* `resolve_counted`: A resolution succeeds and gives the letters by count.
* `letters_counted`: So does every resolution of a history that only adds entries.
-/

namespace CslProcessor

namespace Disambiguation

variable {p : Policy} {r : KeyRenderer NegativeSuffix} {base : Nat → String} {order : List Nat}

/-! ## A single pass -/

/-- A ripe group without letters. -/
def Unserved (base : Nat → String) (order : List Nat) (σ : States) (group : List Nat) : Prop :=
  (∃ text, Ripe base order σ text group) ∧ 1 < group.length ∧ Unlettered group σ

-- Telling such a group apart gives letters to its members, whatever means are declared.
theorem separate_counted (hr : TextAndLetter base r) (hnd : order.Nodup) {group : List Nat}
    {t v : Tracker} {c : List Nat} (h : t.Paired r order t) (hc : Counted base order t.state)
    (hgroup : Unserved base order t.state group) (hrun : separate p r group t = .ok c v) :
    Counted base order v.state ∧ (∀ i ∈ group, (v.state i).yearSuffix ≠ none) ∧
      ∀ i, i ∉ group → v.state i = t.state i := by
  rcases hgroup with ⟨⟨text, hripe⟩, hlen, hnone⟩
  have hsub : ∀ i ∈ group, i ∈ order := fun i hi => hripe.sublist.subset hi
  have halike : t.Lookalike group := by
    refine ⟨hlen, text, hripe.text_ne, fun i hi => ?_⟩
    rw [h.current_iff (hsub i hi), hr.key_of_none i (hnone i hi), hripe.text_eq i hi]
  rcases separate_unhelpful (p := p) hr.lettersOnly hsub h halike with ⟨w, heq, hw⟩
  rw [heq, assignAll] at hrun
  rcases bind_eq_ok_iff.1 hrun with ⟨changed, u, hletters, hrun⟩
  injection hrun with _ hv
  rw [← hv, ← hw.state]
  rw [← hw.state] at hc hripe
  rcases assignSuffixes_counted hr hnd hw.paired hc hripe hletters with ⟨hcount, hall⟩
  rcases (assignSuffixes_advances_nil (p := {}) hnd hripe.sublist hw.paired).diagonal hletters
    with ⟨hlettering, -⟩
  exact ⟨hcount, hall, hlettering.frame⟩

-- Telling several such groups apart, likewise.
theorem separateAll_counted (hr : TextAndLetter base r) (hnd : order.Nodup)
    (groups : List (List Nat)) (hdisj : groups.Pairwise List.Disjoint) :
    ∀ {t v : Tracker} {c : List Nat}, t.Paired r order t → Counted base order t.state →
      (∀ g ∈ groups, Unserved base order t.state g) → separateAll p r groups t = .ok c v →
      Counted base order v.state ∧ ∀ g ∈ groups, ∀ i ∈ g, (v.state i).yearSuffix ≠ none := by
  induction groups with
  | nil =>
      intro t v c _ hc _ hrun
      injection hrun with _ hv
      rw [← hv]
      exact ⟨hc, fun g hg => absurd hg List.not_mem_nil⟩
  | cons g rest ih =>
      intro t v c h hc hgroups hrun
      rw [List.pairwise_cons] at hdisj
      rw [separateAll] at hrun
      rcases bind_eq_ok_iff.1 hrun with ⟨changed, w, hfirst, hrun⟩
      rcases bind_eq_ok_iff.1 hrun with ⟨others, w', hrest, hrun⟩
      injection hrun with _ hv
      subst hv
      have hg := hgroups g List.mem_cons_self
      rcases hg.1 with ⟨text, hripe⟩
      rcases separate_counted hr hnd h hc hg hfirst with ⟨hcw, hall, hframe⟩
      rcases (separate_advances hnd hripe.sublist h).diagonal hfirst with ⟨-, -, hpaired, -⟩
      have hgrows : Grows r g id t.state (separate p r g t) := separate_grows (fun _ hi => hi) t
      rw [hfirst] at hgrows
      -- The other groups are as they were, since they have no members in common with this one.
      have hgroups' : ∀ g' ∈ rest, Unserved base order w.state g' := by
        intro g' hg'
        rcases hgroups g' (List.mem_cons_of_mem _ hg') with ⟨⟨text', hripe'⟩, hlen, hnone⟩
        refine ⟨⟨text', hripe'.growth hgrows.growth⟩, hlen, fun i hi => ?_⟩
        rw [hframe i (fun hig => hdisj.1 g' hg' hig hi)]
        exact hnone i hi
      rcases ih hdisj.2 hpaired hcw hgroups' hrest with ⟨hcv, hall'⟩
      have hgrows' : Grows r rest.flatten id w.state (separateAll p r rest w) :=
        separateAll_grows rest (fun g' hg' i hi => List.mem_flatten.2 ⟨g', hg', hi⟩) w
      rw [hrest] at hgrows'
      refine ⟨hcv, fun g' hg' i hi => ?_⟩
      rcases List.mem_cons.1 hg' with rfl | hg'
      · exact hgrows'.growth.letter_ne_none (hall i hi)
      · exact hall' g' hg' i hi

-- Completing the letters of ripe groups.
theorem completeGroups_counted (hr : TextAndLetter base r) (hnd : order.Nodup)
    (groups : List (List Nat)) :
    ∀ {t v : Tracker} {a : List Nat × List Nat}, t.Paired r order t →
      Counted base order t.state → (∀ g ∈ groups, ∃ text, Ripe base order t.state text g) →
      completeGroups r groups t = .ok a v → Counted base order v.state := by
  induction groups with
  | nil =>
      intro t v a _ hc _ hrun
      injection hrun with _ hv
      rw [← hv]
      exact hc
  | cons g rest ih =>
      intro t v a h hc hgroups hrun
      have hrest : ∀ g' ∈ rest, ∃ text, Ripe base order t.state text g' :=
        fun g' hg' => hgroups g' (List.mem_cons_of_mem _ hg')
      rcases hgroups g List.mem_cons_self with ⟨text, hripe⟩
      rw [completeGroups, get_bind] at hrun
      by_cases hletters : t.lettersInOrder g = true
      · rw [if_pos hletters] at hrun
        exact ih h hc hrest hrun
      · rw [if_neg hletters] at hrun
        rcases bind_eq_ok_iff.1 hrun with ⟨changed, w, hfirst, hrun⟩
        rcases bind_eq_ok_iff.1 hrun with ⟨⟨others, concerned⟩, w', hothers, hrun⟩
        injection hrun with _ hv
        subst hv
        rcases (assignSuffixes_advances_nil (p := {}) hnd hripe.sublist h).diagonal hfirst with
          ⟨-, -, hpaired, -⟩
        have hgrows := assignSuffixes_grows (r := r) g (fun i hi => hi) [] t
        rw [hfirst] at hgrows
        refine ih hpaired (assignSuffixes_counted hr hnd h hc hripe hfirst).1 (fun g' hg' => ?_)
          hothers
        rcases hrest g' hg' with ⟨text', hripe'⟩
        exact ⟨text', hripe'.growth hgrows.growth⟩

-- Groups of lookalikes are without letters, and ripe.
theorem Counted.unserved (hr : TextAndLetter base r) (hu : Unambiguous base) (hnd : order.Nodup)
    {t : Tracker} (h : t.Paired r order t) (hc : Counted base order t.state) {g : List Nat}
    (hg : g ∈ lookalikes t.current order) : Unserved base order t.state g := by
  have hnone := (hc.spread hr).unlettered (hr.legible hu) hnd h hg
  rcases mem_lookalikes.1 hg with ⟨key, hne, rfl, hlen⟩
  refine ⟨⟨key, ripe_withKey hnd hne (fun i hi => ?_) (fun i hi hb hi' => ?_) hlen⟩, hlen, hnone⟩
  · have hkey := (h.current_iff (mem_withKey.1 hi).1 key).1 (mem_withKey.1 hi).2
    rw [hr.key_of_none i (hnone i hi), Except.ok.injEq] at hkey
    exact hkey
  · rw [h.current_iff hi, hr.key_of_none i hi', hb]

-- Groups with a common base key are ripe.
theorem ripe_of_mem_lookalikes_base (hr : TextAndLetter base r) (hnd : order.Nodup) {t : Tracker}
    (h : t.Paired r order t) {g : List Nat} (hg : g ∈ lookalikes t.base order) :
    ∃ text, Ripe base order t.state text g := by
  rcases mem_lookalikes.1 hg with ⟨key, hne, rfl, hlen⟩
  refine ⟨key, ripe_withKey hnd hne (fun i hi => ?_) (fun i hi hb _ => ?_) hlen⟩
  · have hkey := (h.base_iff (mem_withKey.1 hi).1 key).1 (mem_withKey.1 hi).2
    rw [bare, hr.key_of_none i rfl, Except.ok.injEq] at hkey
    exact hkey
  · rw [h.base_iff hi, bare, hr.key_of_none i rfl, hb]

-- Completing the letters of some entries.
theorem completeSuffixes_counted (hr : TextAndLetter base r) (hnd : order.Nodup)
    {touched : List Nat} {t v : Tracker} {a : List Nat × List Nat} (h : t.Paired r order t)
    (hc : Counted base order t.state)
    (hrun : completeSuffixes r order touched t = .ok a v) : Counted base order v.state := by
  unfold completeSuffixes at hrun
  rw [get_bind, h.left.crowded_base_eq hnd] at hrun
  exact completeGroups_counted hr hnd _ h hc
    (fun g hg => ripe_of_mem_lookalikes_base hr hnd h (List.mem_filter.1 hg).1) hrun

-- A pass leaves counted states, and gives letters to all lookalikes that it finds.
theorem pass_counted (hr : TextAndLetter base r) (hu : Unambiguous base) (hnd : order.Nodup)
    {touched : List Nat} {t v : Tracker} {s : PassReport} (h : t.Paired r order t)
    (hc : Counted base order t.state) (hrun : pass p r order touched t = .ok s v) :
    Counted base order v.state ∧
      ∀ g ∈ t.collisions order touched, ∀ i ∈ g, (v.state i).yearSuffix ≠ none := by
  unfold pass at hrun
  rw [get_bind] at hrun
  rcases bind_eq_ok_iff.1 hrun with ⟨separated, w, hseparate, hrun⟩
  rcases bind_eq_ok_iff.1 hrun with ⟨⟨completed, concerned⟩, w', hcomplete, hrun⟩
  injection hrun with _ hv
  subst hv
  have hmem : ∀ g ∈ t.collisions order touched, g ∈ lookalikes t.current order := by
    intro g hg
    rw [h.left.collisions_eq hnd] at hg
    exact (List.mem_filter.1 hg).1
  have hdisj : (t.collisions order touched).Pairwise List.Disjoint := by
    rw [h.left.collisions_eq hnd]
    exact (pairwise_disjoint_lookalikes hnd).filter _
  rcases separateAll_counted hr hnd _ hdisj h hc
    (fun g hg => hc.unserved hr hu hnd h (hmem g hg)) hseparate with ⟨hcw, hall⟩
  rcases (separateAll_advances hnd _ (fun g hg => sublist_of_mem_lookalikes (hmem g hg)) t t
    h).diagonal hseparate with ⟨-, -, hpaired, -⟩
  have hgrows := completeSuffixes_grows (r := r) order (ListSet.union touched separated) w
  rw [hcomplete] at hgrows
  exact ⟨completeSuffixes_counted hr hnd hpaired hcw hcomplete,
    fun g hg i hi => hgrows.growth.letter_ne_none (hall g hg i hi)⟩

/-- A pass tells all entries apart. Entries that look alike after it would have no letters, and
    would have looked alike before it; but then one of them was touched, so that both of them were
    in a group that was found. -/
theorem pass_separated (hr : TextAndLetter base r) (hu : Unambiguous base) (hnd : order.Nodup)
    {touched : List Nat} {t v : Tracker} {s : PassReport} (h : OnWay r order touched t)
    (hc : Counted base order t.state) (hrun : pass p r order touched t = .ok s v) :
    Separated r order v.state [] := by
  rcases pass_counted hr hu hnd h.paired hc hrun with ⟨hcv, hall⟩
  have hgrows := pass_grows (p := p) (r := r) order touched t
  rw [hrun] at hgrows
  rintro i hi j hj hij - - ⟨key, hne, hki, hkj⟩
  rcases (hr.legible hu) i j _ _ key hij hne hki hkj with ⟨hletter, hbase⟩
  rw [hr.key_of_none i rfl, hr.key_of_none j rfl, Except.ok.injEq] at hbase
  have hni : (v.state i).yearSuffix = none := by
    by_contra hsome
    rcases Option.ne_none_iff_exists'.1 hsome with ⟨n, hn⟩
    exact hij (hcv.eq_of_letter_eq hbase hn (by rw [← hletter, hn]))
  have hsame : ∀ k, (v.state k).yearSuffix = none → v.state k = t.state k := by
    intro k hk
    refine hc.eq_of_none hcv ?_ hk
    by_contra hsome
    exact hgrows.growth.letter_ne_none hsome hk
  have halike : LooksAlike r t.state i j :=
    ⟨key, hne, by rw [← hsame i hni]; exact hki,
      by rw [← hsame j (by rw [← hletter, hni])]; exact hkj⟩
  rcases h.paired.exists_group hi hj hij halike with ⟨g, hg, hig, hjg⟩
  by_cases hfound : g.any touched.contains = true
  · refine hall g ?_ i hig hni
    rw [h.paired.left.collisions_eq hnd]
    exact List.mem_filter.2 ⟨hg, hfound⟩
  · have hout : ∀ k ∈ g, k ∉ touched := by
      intro k hk hmem
      exact hfound (List.any_eq_true.2 ⟨k, hk, List.contains_iff_mem.2 hmem⟩)
    exact h.separated i hi j hj hij (hout i hig) (hout j hjg) halike

/-! ## Resolutions -/

-- Two passes are enough: the second one has nothing to do.
theorem passes_counted (hr : TextAndLetter base r) (hu : Unambiguous base) (hnd : order.Nodup)
    {n : Nat} (hn : 1 < n) {touched checked affected : List Nat} {t : Tracker}
    (h : OnWay r order touched t) (hc : Counted base order t.state) :
    ∃ a v, passes p r order n touched checked affected t = .ok a v ∧
      Counted base order v.state ∧ Separated r order v.state [] := by
  rcases Nat.exists_eq_add_of_lt hn with ⟨m, rfl⟩
  have hgrows := pass_grows (p := p) (r := r) order touched t
  rcases pass_onWay (p := p) hnd (hr.legible hu).faithful h with
    ⟨s, v, hpass, hway, hlettered, -⟩ | ⟨e, v, hpass⟩
  · have hcv := (pass_counted hr hu hnd h.paired hc hpass).1
    have hsep := pass_separated hr hu hnd h hc hpass
    rw [passes_succ, bind_of_ok hpass]
    split
    · exact ⟨_, v, rfl, hcv, hsep⟩
    · have hidle := pass_idle (p := p) hnd hway.paired
        (hway.paired.collisions_eq_nil hnd hsep s.changed) hlettered
      rw [Nat.add_comm 1 m, passes_succ, bind_of_ok hidle]
      exact ⟨_, v, rfl, hcv, hsep⟩
  · exact absurd hpass (hc.not_rendering hr hgrows e v)

-- Where all entries are told apart and all letters are in order, whoever needs a letter has one.
theorem Counted.state_eq (hr : TextAndLetter base r) (hnd : order.Nodup) {σ : States}
    (hc : Counted base order σ) (hs : Separated r order σ []) (hl : Lettered r order σ [])
    (i : Nat) : σ i = { yearSuffix := countedLetter base order i } := by
  rw [hc.plain i]
  cases hn : (σ i).yearSuffix with
  | some n => rw [hc.countedLetter_eq hn]
  | none =>
      cases hcount : countedLetter base order i with
      | none => rfl
      | some n =>
          exfalso
          rcases (countedLetter_eq_some_iff.1 hcount).1 with ⟨hi, hne, hlen⟩
          -- Another entry has the same text.
          have hpeer : ∃ j ∈ peersOf base order i, j ≠ i := by
            by_contra hall
            simp only [not_exists, not_and, Decidable.not_not] at hall
            have hsub : peersOf base order i ⊆ [i] :=
              fun j hj => List.mem_singleton.2 (hall j hj)
            have hpeers : (peersOf base order i).Nodup := hnd.filter _
            have hle := (List.subperm_of_subset hpeers hsub).length_le
            rw [List.length_singleton] at hle
            omega
          rcases hpeer with ⟨j, hj, hji⟩
          rcases mem_peersOf.1 hj with ⟨hjo, hb⟩
          have hbare : LooksAlike r (bare σ) i j :=
            ⟨base i, hne, hr.key_of_none i rfl, by rw [hr.key_of_none j rfl, hb]⟩
          have hnj := (hl i hi j hjo (Ne.symm hji) List.not_mem_nil List.not_mem_nil
            hbare).1.1 hn
          exact hs i hi j hjo (Ne.symm hji) List.not_mem_nil List.not_mem_nil
            ⟨base i, hne, hr.key_of_none i hn, by rw [hr.key_of_none j hnj, hb]⟩

/-- A resolution from counted states succeeds, and gives the letters by count. -/
theorem resolve_counted (hr : TextAndLetter base r) (hu : Unambiguous base) {t : Tracker}
    (ht : t.Rests r) {entries : List Nat} (hnd : entries.Nodup)
    (hc : Counted base entries t.state) :
    ∃ a v, resolve p r entries t = .ok a v ∧
      ∀ i, v.state i = { yearSuffix := countedLetter base entries i } := by
  have horder : ListSet.lastOccurrences entries = entries := ListSet.lastOccurrences_eq_self hnd
  have hok : ∃ a v, resolve p r entries t = .ok a v ∧ Counted base entries v.state := by
    rw [resolve_eq_resolveWithin]
    rcases resolveWithin_cases (p := p) ht entries with hfail | ⟨touched, v, hway, hstate, heq⟩
    · rcases hfail maxPasses with ⟨e, v, hv⟩
      exact absurd hv (hc.not_rendering hr (resolveWithin_grows maxPasses entries t) e v)
    · rw [heq]
      rw [horder] at hway ⊢
      have hmax : 1 < maxPasses := by decide
      have hcount : Counted base entries v.state := by
        rw [hstate]
        exact hc
      obtain ⟨x, w, hw, hcw, hsep⟩ : ∃ x w, passes p r entries maxPasses touched touched [] v =
          .ok x w ∧ Counted base entries w.state ∧ Separated r entries w.state [] :=
        passes_counted hr hu hnd hmax hway hcount
      rcases (passes_lockstep (p := p) hnd maxPasses touched touched touched touched [] v v
        hway.paired rfl hway.lettered hway.lettered).diagonal hw with ⟨-, hpassed⟩
      rw [bind_of_ok hw, conclude_of_nil (hpassed.paired.collisions_eq_nil hnd hsep x.1)]
      exact ⟨_, w, rfl, hcw⟩
  rcases hok with ⟨a, v, hv, hcv⟩
  have hres := resolved_of_ok ht hv
  rw [horder] at hres
  exact ⟨a, v, hv, hcv.state_eq hr hnd hres.separated hres.lettered⟩

/-! ## Histories -/

-- All renderers of these cites render the same keys.
theorem TextAndLetter.key_eq {r' : KeyRenderer NegativeSuffix} (hr : TextAndLetter base r)
    (hr' : TextAndLetter base r') : r'.key = r.key := by
  funext i d
  rw [hr, hr']

/-- A history that only adds entries leaves states that are counted for the last of its
    resolutions, and all of its resolutions succeed. -/
theorem runCalls_counted (hu : Unambiguous base) (calls : List (ResolveCall NegativeSuffix))
    (hkey : ∀ c ∈ calls, TextAndLetter base c.renderer)
    (hgrow : calls.Pairwise fun c d => c.entries <+: d.entries)
    (hnd : ∀ c ∈ calls, c.entries.Nodup) :
    ∀ {t : Tracker} {start : List Nat}, (∀ r, TextAndLetter base r → t.Rests r) →
      Counted base start t.state → (∀ c ∈ calls, start <+: c.entries) →
      (runCalls (ResolveCall.run p) calls t).1.all (·.isOk) = true ∧
      (∀ r, TextAndLetter base r → (runCalls (ResolveCall.run p) calls t).2.Rests r) ∧
      ∃ entries, Counted base entries (runCalls (ResolveCall.run p) calls t).2.state ∧
        (entries = start ∨ ∃ c ∈ calls, entries = c.entries) := by
  induction calls with
  | nil => exact fun hrests hc _ => ⟨rfl, hrests, _, hc, Or.inl rfl⟩
  | cons call rest ih =>
      intro t start hrests hc hstart
      rw [List.pairwise_cons] at hgrow
      have hcall : call ∈ call :: rest := List.mem_cons_self
      have hr := hkey call hcall
      rcases resolve_counted (p := p) hr hu (hrests _ hr) (hnd call hcall)
        (hc.of_front (hstart call hcall)) with ⟨a, v, hv, hstate⟩
      have hrun : call.run p t = .ok a v := hv
      have hcv : Counted base call.entries v.state :=
        ⟨fun i => by rw [hstate], fun i => Or.inr (by rw [hstate])⟩
      have hrests' : ∀ r', TextAndLetter base r' → v.Rests r' := by
        intro r' hr'
        have hrest := resolve_rests (p := p) (hrests _ hr) (fun _ => hr.key_eq hr') call.entries
          (by rw [hv]; exact fun e he => absurd he (by simp [replyOf]))
        rw [hv] at hrest
        exact hrest
      rcases ih (fun c hc => hkey c (List.mem_cons_of_mem _ hc)) hgrow.2
        (fun c hc => hnd c (List.mem_cons_of_mem _ hc)) hrests' hcv hgrow.1 with
        ⟨hok, hrests'', entries, hcount, hlast⟩
      rw [runCalls_cons, hrun, replyOf, stateAfter]
      refine ⟨?_, hrests'', entries, hcount, Or.inr ?_⟩
      · rw [List.all_cons, hok]
        rfl
      · rcases hlast with heq | ⟨c, hc, heq⟩
        · exact ⟨call, hcall, heq⟩
        · exact ⟨c, List.mem_cons_of_mem _ hc, heq⟩

/-- Where only letters can help, they are given by count. If cites are a fixed text of each entry
    with its letter behind it, and no text is another one with lower case letters behind it, then
    in any history of resolutions by any means that starts without states and only adds entries
    behind those that there are, every resolution succeeds. After each of them nothing is printed
    of an entry but a letter, and that if its text is not empty and another entry has it: the
    letter whose index is the number of entries before it with its text. -/
theorem letters_counted (p : Policy) (base : Nat → String) (hu : Unambiguous base)
    (calls : List (ResolveCall NegativeSuffix))
    (hkey : ∀ c ∈ calls, TextAndLetter base c.renderer)
    (hgrow : calls.Pairwise fun c d => c.entries <+: d.entries)
    (hnd : ∀ c ∈ calls, c.entries.Nodup) :
    (runCalls (ResolveCall.run p) calls {}).1.all (·.isOk) = true ∧
    ∀ before call, before ++ [call] <+: calls → ∀ i,
      (runCalls (ResolveCall.run p) (before ++ [call]) {}).2.state i =
        { yearSuffix := countedLetter base call.entries i } := by
  have hrests : ∀ r, TextAndLetter base r → ({} : Tracker).Rests r :=
    fun r _ => Tracker.Rests.of_none rfl
  have hstart : Counted base [] ({} : Tracker).state := ⟨fun i => rfl, fun i => Or.inl rfl⟩
  refine ⟨(runCalls_counted hu calls hkey hgrow hnd hrests hstart
    (fun c _ => List.nil_prefix)).1, ?_⟩
  intro before call hfront i
  have hbefore : ∀ c ∈ before, c ∈ calls :=
    fun c hc => hfront.subset (List.mem_append_left _ hc)
  have hcall : call ∈ calls := hfront.subset (by simp)
  have hgrow' := List.pairwise_append.1 (hgrow.sublist hfront.sublist)
  rcases runCalls_counted (p := p) hu before (fun c hc => hkey c (hbefore c hc)) hgrow'.1
    (fun c hc => hnd c (hbefore c hc)) hrests hstart (fun c _ => List.nil_prefix) with
    ⟨-, hrests', entries, hcount, hlast⟩
  -- The entries counted so far stand at the beginning of those of the next resolution.
  have hnext : entries <+: call.entries := by
    rcases hlast with rfl | ⟨c, hc, rfl⟩
    · exact List.nil_prefix
    · exact hgrow'.2.2 c hc call (List.mem_singleton_self call)
  have hr := hkey call hcall
  rcases resolve_counted (p := p) hr hu (hrests' _ hr) (hnd call hcall)
    (hcount.of_front hnext) with ⟨a, v, hv, hstate⟩
  have hrun : call.run p (runCalls (ResolveCall.run p) before {}).2 = .ok a v := hv
  rw [runCalls_append, runCalls_cons, hrun]
  exact hstate i

/-- The years of works that come from two years in turn. -/
def twoYears (i : Nat) : String :=
  if i % 2 = 0 then "2020" else "2021"

/-- Works printed as their years, in a resolution of some of them. -/
def yearsOnly (entries : List Nat) : ResolveCall NegativeSuffix where
  renderer :=
    { id := 0, key := fun i d => d.letters?.map fun s => twoYears i ++ s.getD ""
      nameCount := fun _ => 2 }
  entries := entries

-- Years have the same length, so there is no room for letters.
theorem twoYears_unambiguous : Unambiguous twoYears := by
  intro i j s _ h
  have hlength : ∀ k, (twoYears k).toList.length = 4 := by
    intro k
    unfold twoYears
    split <;> rfl
  have hsum := congrArg (fun text => text.toList.length) h
  simp only [String.toList_append, List.length_append, hlength] at hsum
  have hs : s.toList = [] := List.length_eq_zero_iff.1 (by omega)
  rw [h, String.toList_eq_nil_iff.1 hs, String.append_empty]

theorem letters_counted_years :
    (runCalls (ResolveCall.run { methods := [.addNames, .addGivenName] })
      [yearsOnly [0, 1], yearsOnly [0, 1, 2]] {}).1.all (·.isOk) = true ∧
    (runCalls (ResolveCall.run { methods := [.addNames, .addGivenName] })
      [yearsOnly [0, 1], yearsOnly [0, 1, 2]] {}).2.state 2 = { yearSuffix := some 1 } := by
  have hkey : ∀ c ∈ [yearsOnly [0, 1], yearsOnly [0, 1, 2]], TextAndLetter twoYears c.renderer := by
    intro c hc i d
    simp only [List.mem_cons, List.not_mem_nil, or_false] at hc
    rcases hc with rfl | rfl <;> rfl
  have hall := letters_counted { methods := [.addNames, .addGivenName] } twoYears
    twoYears_unambiguous [yearsOnly [0, 1], yearsOnly [0, 1, 2]] hkey (by simp [yearsOnly])
    (by simp [yearsOnly])
  refine ⟨hall.1, ?_⟩
  exact hall.2 [yearsOnly [0, 1]] (yearsOnly [0, 1, 2]) (List.prefix_refl _) 2

end Disambiguation

end CslProcessor
