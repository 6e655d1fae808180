import CslProcessor.Proofs.Settings.Bounds
import CslProcessor.Proofs.Text.Digits

/-!
# References in settings

A reference to the environment is replaced by text, whatever the setting is. For a setting that is
a text this is what is meant: the reference loads like the value written in its place. A setting
that is a number is another matter, since a number and the text that writes it are not the same:
the text is refused for being no number, even if it writes one that is within the bounds.

So a number cannot be given by reference. The mapping with the reference loads like the mapping
with the number only where both are refused, and for another number.

## Main definitions

* `NumberSetting`: The settings of sessions that are numbers.
* `EngineSettings.unchecked`, `EngineSettings.refusal`: Settings before the check, and what the
  check says of numbers that are none.
* `direct`: A mapping with a value written directly.

## Theorems

* `load_direct_text`: A reference loads like its value as a text.
* `load_reference_eq_iff`: When a reference loads like its value as a number.
-/

namespace CslProcessor

namespace Data

/-- Replacing the references sees no difference between values that are replaced alike. -/
theorem expand_set {env : Environment} {fields : List (String × Data)} {key : String} {v w : Data}
    (hkey : fields.lookup key = some v) (h : w.expand env = v.expand env) :
    (record (Assoc.set key w fields)).expand env = (record fields).expand env := by
  rw [expand_record, expand_record]
  congr 1
  induction fields with
  | nil => cases hkey
  | cons p rest ih =>
    obtain ⟨key', v'⟩ := p
    rw [List.lookup_cons] at hkey
    rw [Assoc.set]
    cases hsame : key == key' with
    | true =>
      rw [hsame] at hkey
      obtain rfl := Option.some.inj hkey
      simp [h]
    | false =>
      rw [hsame] at hkey
      simp [ih hkey]

end Data

namespace EngineSettings

/-- Settings out of a record, as they are before the check. -/
def unchecked (d : Data) : EngineSettings where
  nearNoteDistance := (d.field? "near_note_distance").getD (.int 5)
  maxEntries := (d.field? "max_entries").getD (.int 10000)
  defaultStyle := (d.field? "default_style").getD (.text "apa")
  defaultLocale := (d.field? "default_locale").getD (.text "en-US")

theorem ofData_eq (d : Data) : ofData d = (unchecked d).check := rfl

/-- What the check says if one of the numbers is none. -/
def refusal (s : EngineSettings) : SettingsError :=
  match s.nearNoteDistance.within? 0 Settings.maxDistance with
  | some false => .distance s.nearNoteDistance.shown
  | _ => .wrongKind

theorem refusal_cases (s : EngineSettings) :
    s.refusal = .wrongKind ∨ ∃ shown, s.refusal = .distance shown := by
  unfold refusal
  split
  · exact .inr ⟨_, rfl⟩
  · exact .inl rfl

/-- A number that is a text is refused. -/
theorem check_of_text {s : EngineSettings} {t : String}
    (h : s.nearNoteDistance = .text t ∨ s.maxEntries = .text t) : s.check = .error s.refusal := by
  unfold check refusal
  rcases h with hdistance | hcapacity
  · rw [hdistance]
    rfl
  · cases s.nearNoteDistance.within? 0 Settings.maxDistance with
    | none => rfl
    | some within =>
      cases within with
      | false => rfl
      | true =>
        rw [hcapacity]
        rfl

/-- A refusal for a number that is none, or for the distance, is the first that there is. -/
theorem eq_refusal_of_check {s : EngineSettings} {e : SettingsError} (h : s.check = .error e)
    (he : e = .wrongKind ∨ ∃ shown, e = .distance shown) : e = s.refusal := by
  unfold check at h
  unfold refusal
  split at h <;> rename_i hdistance
  · rw [hdistance]
    exact (Except.error.inj h).symm
  · rw [hdistance]
    exact (Except.error.inj h).symm
  · rw [hdistance]
    split at h
    · exact (Except.error.inj h).symm
    · obtain rfl := Except.error.inj h
      simp at he
    · split at h
      · obtain rfl := Except.error.inj h
        simp at he
      · cases h

/-- What passes the check has a distance that is not refused. -/
theorem refusal_of_check {s t : EngineSettings} (h : s.check = .ok t) : s.refusal = .wrongKind := by
  unfold check at h
  unfold refusal
  split at h <;> rename_i hdistance
  · cases h
  · cases h
  · rw [hdistance]

end EngineSettings

namespace Settings

/-- The settings of sessions that are numbers. -/
inductive NumberSetting
  | distance
  | capacity
  deriving Repr, DecidableEq

namespace NumberSetting

/-- The name of a setting. -/
def key : NumberSetting → String
  | distance => "near_note_distance"
  | capacity => "max_entries"

/-- The least and the greatest number that a setting allows. -/
def bounds : NumberSetting → Int × Int
  | distance => (0, 1000)
  | capacity => (1, 1000000)

/-- The value of a setting. -/
def of (s : EngineSettings) : NumberSetting → Data
  | distance => s.nearNoteDistance
  | capacity => s.maxEntries

theorem of_unchecked (k : NumberSetting) {d v : Data} (h : d.field? k.key = some v) :
    k.of (EngineSettings.unchecked d) = v := by
  cases k with
  | distance => exact congrArg (·.getD (.int 5)) h
  | capacity => exact congrArg (·.getD (.int 10000)) h

end NumberSetting

/-- A mapping with a value written directly at a key of a section. -/
def direct (fields : List (String × Data)) (name : String) (inner : List (String × Data))
    (key : String) (v : Data) : Data :=
  .record (Assoc.set name (.record (Assoc.set key v inner)) fields)

variable {env : Environment} {fields inner : List (String × Data)} {r : WrittenReference}

/-- The settings of logs that a mapping gives. -/
def loggingOf (d : Data) : Except SettingsError LoggingSettings := do
  LoggingSettings.ofData (← part d "logging")

/-- The settings of logs are refused for other reasons than numbers. -/
theorem loggingOf_error {d : Data} {e : SettingsError} (h : loggingOf d = .error e) :
    ¬(e = .wrongKind ∨ ∃ shown, e = .distance shown) := by
  rcases exceptBind_eq_error_iff.1 h with hpart | ⟨inner, -, hmade⟩
  · unfold part at hpart
    split at hpart
    · cases hpart
    · split at hpart
      · cases hpart
      · obtain rfl := Except.error.inj hpart
        simp
  · unfold LoggingSettings.ofData at hmade
    dsimp only at hmade
    split at hmade
    · split at hmade
      · cases hmade
      · obtain rfl := Except.error.inj hmade
        simp
    · obtain rfl := Except.error.inj hmade
      simp

/-- A mapping that has a section is not blank. -/
theorem expanded_of_lookup {name : String} {v : Data} (h : fields.lookup name = some v) :
    expanded env (.record fields) = ofData ((Data.record fields).expand env) := by
  cases fields with
  | nil => cases h
  | cons p rest => rfl

/-- How settings are made of a mapping with a section for sessions. -/
theorem expanded_record (hinner : fields.lookup "engine" = some (.record inner)) :
    expanded env (.record fields) = do
      let engine ← (EngineSettings.unchecked ((Data.record inner).expand env)).check
      let logging ← loggingOf ((Data.record fields).expand env)
      return { engine, logging } := by
  have hengine : ((Data.record fields).expand env).field? "engine" =
      some ((Data.record inner).expand env) := by
    rw [Data.field?_expand]
    exact congrArg (Option.map (Data.expand env)) hinner
  have hpart : part ((Data.record fields).expand env) "engine" =
      .ok ((Data.record inner).expand env) := by
    rw [part, hengine, Data.expand_record]
    rfl
  rw [expanded_of_lookup hinner, ← EngineSettings.ofData_eq]
  rw [Data.expand_record] at hpart ⊢
  rw [ofData, hpart]
  unfold loggingOf
  dsimp only [bind, Except.bind]
  cases EngineSettings.ofData ((Data.record inner).expand env) with
  | error e => rfl
  | ok engine => cases part (.record (fields.map fun p => (p.1, p.2.expand env))) "logging" <;> rfl

/-- Settings whose check fails cannot be made. -/
theorem expanded_of_error (hinner : fields.lookup "engine" = some (.record inner))
    {e : SettingsError} (h : (EngineSettings.unchecked ((Data.record inner).expand env)).check =
      .error e) : expanded env (.record fields) = .error e := by
  rw [expanded_record hinner, h]
  rfl

/-- Settings that cannot be made for a number that is none, or for the distance, have failed their
    check. -/
theorem check_of_expanded (hinner : fields.lookup "engine" = some (.record inner))
    {e : SettingsError} (h : expanded env (.record fields) = .error e)
    (he : e = .wrongKind ∨ ∃ shown, e = .distance shown) :
    (EngineSettings.unchecked ((Data.record inner).expand env)).check = .error e := by
  rw [expanded_record hinner] at h
  rcases exceptBind_eq_error_iff.1 h with hcheck | ⟨engine, -, h⟩
  · exact hcheck
  · rcases exceptBind_eq_error_iff.1 h with hlogging | ⟨logging, -, h⟩
    · exact absurd he (loggingOf_error hlogging)
    · cases h

/-- Loading fails as the making of the settings does. -/
theorem load_eq_error_iff {names : VariableNames} {d : Data} {e : SettingsError}
    {records : List Log.Record} :
    load names env d records = .error e records ↔ expanded env d = .error e := by
  unfold load
  cases expanded env d with
  | error e' => simp
  | ok made =>
    simp only [reduceCtorEq, iff_false]
    exact nofun

/-- A reference loads like its value as a text, if the value holds no dollar sign. -/
theorem load_direct_text {names : VariableNames} {records : List Log.Record} {name key : String}
    (hinner : fields.lookup name = some (.record inner))
    (hkey : inner.lookup key = some (.text r.text))
    (hvalue : ∀ c ∈ (r.value env).toList, c ≠ '$') :
    load names env (direct fields name inner key (.text (r.value env))) records =
      load names env (.record fields) records := by
  have htext : (Data.text (r.value env)).expand env = (Data.text r.text).expand env := by
    rw [Data.expand_text, Data.expand_text, expandText_reference,
      expandText_of_forall_ne env hvalue]
  have hexpand : (direct fields name inner key (.text (r.value env))).expand env =
      (Data.record fields).expand env := Data.expand_set hinner (Data.expand_set hkey htext)
  have hexpanded : expanded env (direct fields name inner key (.text (r.value env))) =
      expanded env (.record fields) := by
    rw [expanded_of_lookup hinner, direct, expanded_of_lookup (Assoc.lookup_set_self ..), ← hexpand,
      direct]
  rw [load, load, hexpanded]

section Number

variable (k : NumberSetting)

/-- The value of a setting that is replaced. -/
theorem of_unchecked_expand (env : Environment) {v : Data}
    (hkey : inner.lookup k.key = some v) :
    k.of (EngineSettings.unchecked ((Data.record inner).expand env)) = v.expand env := by
  refine k.of_unchecked ?_
  rw [Data.field?_expand]
  exact congrArg (Option.map (Data.expand env)) hkey

/-- A reference in place of a number is refused. -/
theorem check_reference (hkey : inner.lookup k.key = some (.text r.text)) :
    (EngineSettings.unchecked ((Data.record inner).expand env)).check =
      .error (EngineSettings.unchecked ((Data.record inner).expand env)).refusal := by
  have hvalue := of_unchecked_expand k env hkey
  rw [Data.expand_text] at hvalue
  cases k with
  | distance => exact EngineSettings.check_of_text (.inl hvalue)
  | capacity => exact EngineSettings.check_of_text (.inr hvalue)

/-- With a number within its bounds in place of the reference, a refusal of the first number that
    is none would be the same. -/
theorem refusal_direct {n : Int} (hn : k.bounds.1 ≤ n ∧ n ≤ k.bounds.2)
    (hkey : inner.lookup k.key = some (.text r.text)) :
    (EngineSettings.unchecked ((Data.record (Assoc.set k.key (.int n) inner)).expand env)).refusal =
      (EngineSettings.unchecked ((Data.record inner).expand env)).refusal := by
  have hreference := of_unchecked_expand k env hkey
  have hnumber := of_unchecked_expand k env (Assoc.lookup_set_self k.key (.int n) inner)
  rw [Data.expand_text] at hreference
  rw [Data.expand_int] at hnumber
  unfold EngineSettings.refusal
  cases k with
  | distance =>
    simp only [NumberSetting.of] at hreference hnumber
    have hwithin : (Data.int n).within? 0 maxDistance = some true := by
      simpa [Data.within?, Data.amount?, maxDistance, NumberSetting.bounds] using hn
    rw [hreference, hnumber, hwithin]
    rfl
  | capacity =>
    -- The distance is looked at first, and is the same in both mappings.
    have hdistance : ((Data.record (Assoc.set "max_entries" (.int n) inner)).expand env).field?
        "near_note_distance" = ((Data.record inner).expand env).field? "near_note_distance" := by
      rw [Data.field?_expand, Data.field?_expand]
      have hkept : (Assoc.set "max_entries" (.int n) inner).lookup "near_note_distance" =
          inner.lookup "near_note_distance" := Assoc.lookup_set_of_ne (by decide) (.int n) inner
      exact congrArg (Option.map (Data.expand env)) hkept
    simp only [EngineSettings.unchecked, NumberSetting.key, hdistance]

/-- A number within the bounds that a mapping gives by reference, as the decimal text that the
    reference stands for. The mapping loads like the one with the text written directly. It loads
    like the one with the number written directly only where the latter is refused too, and for a
    number that is none or for the distance. Where the latter loads, the text is refused for being
    no number. -/
theorem load_reference_eq_iff {names : VariableNames} {records : List Log.Record} {n : Int}
    (hn : k.bounds.1 ≤ n ∧ n ≤ k.bounds.2) (hvalue : r.value env = toString n)
    (hinner : fields.lookup "engine" = some (.record inner))
    (hkey : inner.lookup k.key = some (.text r.text)) :
    let loaded (v : Data) := load names env (direct fields "engine" inner k.key v) records
    let reference := load names env (.record fields) records
    reference = loaded (.text (toString n)) ∧
      (reference = loaded (.int n) ↔
        ∃ e, loaded (.int n) = .error e records ∧ (e = .wrongKind ∨ ∃ shown, e = .distance shown)) ∧
      ∀ s records', loaded (.int n) = .ok s records' → reference = .error .wrongKind records := by
  intro loaded reference
  have hdirect : (Assoc.set "engine" (.record (Assoc.set k.key (.int n) inner)) fields).lookup
      "engine" = some (.record (Assoc.set k.key (.int n) inner)) := Assoc.lookup_set_self ..
  have hrefused : reference = .error
      (EngineSettings.unchecked ((Data.record inner).expand env)).refusal records :=
    load_eq_error_iff.2 (expanded_of_error hinner (check_reference k hkey))
  refine ⟨?_, ⟨fun h => ?_, ?_⟩, fun s records' h => ?_⟩
  · -- Decimal digits hold no dollar sign.
    have hdollar : ∀ c ∈ (r.value env).toList, c ≠ '$' := by
      rw [hvalue]
      rintro c hc rfl
      rcases Text.mem_toString_int hc with h | h
      · exact absurd h (by decide)
      · exact absurd h (by decide)
    rw [← hvalue]
    exact (load_direct_text hinner hkey hdollar).symm
  · exact ⟨_, h.symm.trans hrefused, EngineSettings.refusal_cases _⟩
  · rintro ⟨e, hload, he⟩
    have hcheck := check_of_expanded hdirect (load_eq_error_iff.1 hload) he
    rw [hrefused, hload, EngineSettings.eq_refusal_of_check hcheck he, refusal_direct k hn hkey]
  · cases hcheck : (EngineSettings.unchecked
        ((Data.record (Assoc.set k.key (.int n) inner)).expand env)).check with
    | error e =>
      have hfail : loaded (.int n) = .error e records :=
        load_eq_error_iff.2 (expanded_of_error hdirect hcheck)
      rw [hfail] at h
      cases h
    | ok t => rw [hrefused, ← refusal_direct k hn hkey, EngineSettings.refusal_of_check hcheck]

end Number

/-- A reference to the capacity, with a default. -/
def capacityReference : WrittenReference where
  name := "CAPACITY"
  default := some "50"
  name_ne := by decide
  name_chars := by simp
  default_chars := by simp

set_option maxRecDepth 100000 in
/-- A capacity within the bounds that a default gives. -/
theorem load_capacityReference :
    let fields := [("engine", Data.record [("max_entries", .text capacityReference.text)])]
    let loaded (v : Data) := load (.startingWith "CITEFORGE_") []
      (direct fields "engine" [("max_entries", .text capacityReference.text)] "max_entries" v) []
    let reference := load (.startingWith "CITEFORGE_") [] (.record fields) []
    (∃ s, loaded (.int 50) = .ok s []) ∧ capacityReference.value [] = toString (50 : Int) ∧
      reference = loaded (.text (toString (50 : Int))) ∧
      (reference = loaded (.int 50) ↔
        ∃ e, loaded (.int 50) = .error e [] ∧ (e = .wrongKind ∨ ∃ shown, e = .distance shown)) ∧
      ∀ s records', loaded (.int 50) = .ok s records' → reference = .error .wrongKind [] := by
  have hloaded : load (.startingWith "CITEFORGE_") []
      (.record [("engine", .record [("max_entries", .int 50)])]) [] =
        .ok { engine := { maxEntries := .int 50 } } [] := by cbv
  exact ⟨⟨_, hloaded⟩, rfl, load_reference_eq_iff .capacity (by decide) rfl rfl rfl⟩

set_option maxRecDepth 100000 in
/-- A distance of seven that is given by reference is refused, and is not when it is written
    directly. -/
theorem load_distance_by_reference :
    let mapping (v : Data) : Data := .record [("engine", .record [("near_note_distance", v)])]
    let loaded (v : Data) := load (.startingWith "CITEFORGE_") [("DISTANCE", "7")] (mapping v) []
    loaded (.text "$\x7bDISTANCE\x7d") = .error .wrongKind [] ∧
      loaded (.int 7) = .ok { engine := { nearNoteDistance := .int 7 } } [] := by
  refine ⟨?_, ?_⟩
  · cbv
  · cbv

end Settings

end CslProcessor
