import CslProcessor.Settings.Load

/-!
# What the environment says

The variables that count before the settings are written to settings that were checked already, and
nothing checks them again. That they keep the settings within bounds is up to how the variables are
read: a number is moved between its bounds, and a name is one of those that are allowed.

## Main definitions

* `numberAfter`: A number of the settings, given its variable.

## Theorems

* `clamp_eq`: A number moved between two bounds.
* `integer_run`, `mem_of_choice_run`: The number and the name that a variable holds.
* `overrideEngine_run`, `overrideLogging_run`: The settings with what the environment says.
-/

namespace CslProcessor

namespace Environment

theorem clamp_eq {l h : Int} (hlh : l ≤ h) (n : Int) :
    clamp (some l) (some h) n = max l (min n h) := by
  dsimp only [clamp]
  omega

variable (env : Environment) (name : String) (records : List Log.Record)

/-- The number that a variable holds, moved between two bounds. -/
theorem integer_run (otherwise : String) {l h : Int} (hlh : l ≤ h) :
    ((env.integer name otherwise (some l) (some h)).run records).1 =
      ((env.lookup name).bind Text.integer?).map fun n => max l (min n h) := by
  unfold integer
  cases env.lookup name with
  | none => rfl
  | some value =>
    rw [Option.bind_some]
    dsimp only
    cases Text.integer? value with
    | none => rfl
    | some n =>
      rw [Option.map_some, ← clamp_eq hlh]
      rfl

/-- The name that a variable holds is one of those that are allowed. -/
theorem mem_of_choice_run {allowed : List String} {caseCounts : Bool} {s : String}
    (h : ((env.choice name allowed caseCounts).run records).1 = some s) : s ∈ allowed := by
  unfold choice at h
  cases hvalue : env.lookup name with
  | none =>
    rw [hvalue] at h
    cases h
  | some value =>
    rw [hvalue] at h
    dsimp only at h
    split at h
    · rename_i found hfind
      obtain rfl : found = s := Option.some.inj h
      exact List.mem_of_find?_eq_some hfind
    · cases h

end Environment

namespace Settings

variable (names : VariableNames) (env : Environment) (records : List Log.Record)

/-- What a number of the settings is, given what is to be read from its variable. -/
def numberAfter (name : String) (l h : Int) (otherwise : Data) : Data :=
  match (env.lookup name).bind Text.integer? with
  | some n => .int (max l (min n h))
  | none => otherwise

theorem replacing_integer_run (name otherwise : String) {l h : Int} (hlh : l ≤ h) (old : Data) :
    replacing old .int ((env.integer name otherwise (some l) (some h)).run records).1 =
      numberAfter env name l h old := by
  rw [env.integer_run name records otherwise hlh, replacing, numberAfter]
  cases (env.lookup name).bind Text.integer? <;> rfl

/-- What the environment makes of the settings of sessions: the numbers in its variables count
    first, and the style is another one only if that one is built in. -/
theorem overrideEngine_run (s : EngineSettings) :
    let t := ((overrideEngine names env s).run records).1
    t.nearNoteDistance = numberAfter env names.nearNoteDistance 0 maxDistance s.nearNoteDistance ∧
      t.maxEntries = numberAfter env names.maxEntries 1 maxCapacity s.maxEntries ∧
      (t.defaultStyle = s.defaultStyle ∨
        ∃ style ∈ Style.available, t.defaultStyle = .text style) := by
  intro t
  let reported := ((env.integer names.nearNoteDistance "None" (some 0)
    (some maxDistance)).run records).2
  let reported' := ((env.integer names.maxEntries "None" (some 1)
    (some maxCapacity)).run reported).2
  have hstyle : t.defaultStyle = replacing s.defaultStyle .text
      ((env.choice names.defaultStyle Style.available).run reported').1 := rfl
  refine ⟨replacing_integer_run env records _ _ (by decide) _,
    replacing_integer_run env reported _ _ (by decide) _, ?_⟩
  cases hchoice : ((env.choice names.defaultStyle Style.available).run reported').1 with
  | none =>
    rw [hchoice] at hstyle
    exact .inl hstyle
  | some style =>
    rw [hchoice] at hstyle
    exact .inr ⟨style, env.mem_of_choice_run _ _ hchoice, hstyle⟩

/-- What the environment makes of the settings of logs: the level is another one only if that is
    one of the levels. -/
theorem overrideLogging_run (s : LoggingSettings) :
    let t := ((overrideLogging names env s).run records).1
    t.level = s.level ∨ t.level ∈ levels := by
  intro t
  have hlevel : t.level =
      ((env.choice names.logLevel levels).run records).1.getD s.level := rfl
  cases hchoice : ((env.choice names.logLevel levels).run records).1 with
  | none =>
    rw [hchoice] at hlevel
    exact .inl hlevel
  | some level =>
    rw [hchoice] at hlevel
    exact .inr (hlevel ▸ env.mem_of_choice_run _ _ hchoice)

end Settings

end CslProcessor
