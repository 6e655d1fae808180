import CslProcessor.Data.Reading
import CslProcessor.Settings.Basic
import CslProcessor.Settings.Environment

/-!
# Queries of the environment as plain data

A query names a variable and says what it is to hold. What a variable does not hold falls back to
a default.

## Main definitions

* `EnvironmentQuery`, `EnvironmentQuery.answer`: Queries and their answers.
* `Environment.ofData`: The reader of environments.
-/

namespace CslProcessor

open Data

/-- What a variable is to hold. -/
inductive EnvironmentQuery
  /-- A number between two bounds. -/
  | integer (name : String) (fallback : Data) (lo hi : Option Int)
  /-- A truth value. -/
  | truth (name : String) (fallback : Data)
  /-- One of some names. -/
  | choice (name : String) (fallback : Data) (allowed : List String) (caseCounts : Bool)
  deriving Repr, Inhabited

/-- What a variable holds. -/
def EnvironmentQuery.answer (env : Environment) : EnvironmentQuery → Reporting Data
  | integer name fallback lo hi => do
    return ((← env.integer name fallback.shown lo hi).map Data.int).getD fallback
  | truth name fallback => return ((env.truth name).map Data.truth).getD fallback
  | choice name fallback allowed caseCounts => do
    return ((← env.choice name allowed.eraseDups caseCounts).map Data.text).getD fallback

instance : Readable EnvironmentQuery where
  ofData d := do
    let kind : String ← d.need "get"
    let name : String ← d.need "name"
    if kind == "int" then
      d.onlyFields ["get", "name", "default", "min_value", "max_value"]
      return .integer name (← d.get "default" null) (← d.get "min_value" none)
        (← d.get "max_value" none)
    else if kind == "bool" then
      d.onlyFields ["get", "name", "default"]
      return .truth name (← d.get "default" (Data.truth false))
    else if kind == "whitelist" then
      d.onlyFields ["get", "name", "default", "allowed", "case_sensitive"]
      return .choice name (← d.get "default" null) (← d.need "allowed")
        (← d.get "case_sensitive" false)
    else throw .noSuchName

/-- Reads an environment; without any there are no variables. -/
def Environment.ofData : Option Data → Reading Environment
  | some d => d.fieldsOf
  | none => .ok []

end CslProcessor
