import Mathlib
import Navi.Base.System
import Navi.Memory.Items

/-!
# The parameter registry

A registry keeps the parameters in a table and the values in a cache. A change records the
value that it replaces in the metadata of the row, and a rollback reads it from there. A
gradient step and a smoothing start from the metadata of the row that they replace.
-/

namespace Navi.Memory

open Navi.Base

/-- What a registry rests on: the system defaults, `float` and `int` of a value and
`round(x, n)`. -/
structure RegistryEngine where
  defaults : List (String × Rat)
  toFloat : Json → Option Rat
  toFloat_float : ∀ x, toFloat (.float x) = some x
  toInt : Json → Option Int
  toInt_int : ∀ n, toInt (.int n) = some n
  rounded : Nat → Rat → Rat

/-- `SYSTEM_DYNAMIC_PARAMETERS.get(name)`. -/
def RegistryEngine.default? (engine : RegistryEngine) (name : String) : Option Rat :=
  (engine.defaults.find? (·.1 = name)).map (·.2)

/-- `DynamicParameterRegistry` with the rows of its store. -/
structure Registry where
  parameters : Table String Parameter (·.name)
  cache : Table String (String × Rat) Prod.fst
  lastLoadedAt : Time
  seeded : Bool

namespace Registry

/-- A new registry over an empty store. -/
def fresh : Registry where
  parameters := .empty
  cache := .empty
  lastLoadedAt := 0
  seeded := false

/-- The seeding of `_sync`. -/
def seed (engine : RegistryEngine) (parameters : Table String Parameter (·.name)) (now : Time) :
    Table String Parameter (·.name) :=
  engine.defaults.foldl (fun table entry => table.insertOrIgnore (seededParameter entry now))
    parameters

def load (parameters : Table String Parameter (·.name)) :
    Table String (String × Rat) Prod.fst where
  rows := parameters.rows.map fun row => (row.name, row.value)
  nodup := by
    rw [List.map_map]
    exact parameters.nodup

/-- `_sync`. -/
def sync (engine : RegistryEngine) (r : Registry) (now : Time) : Registry :=
  if r.seeded ∧ now - r.lastLoadedAt < 5 ∧ r.cache.rows ≠ [] then r
  else
    let parameters := if r.seeded then r.parameters else seed engine r.parameters now
    { parameters := parameters
      cache := load parameters
      lastLoadedAt := now
      seeded := true }

/-- What `get` reads of a registry that is synced. -/
def cached (engine : RegistryEngine) (r : Registry) (name : String) (fallback : Option Rat) : Rat :=
  ((r.cache.get? name).map (·.2)).getD (fallback.getD ((engine.default? name).getD 0))

/-- A write of a row, in the cache and in the store. -/
def write (r : Registry) (row : Parameter) : Registry :=
  { r with
    cache := r.cache.upsert (row.name, row.value)
    parameters := r.parameters.upsert row }

/-- `set`. -/
def set (engine : RegistryEngine) (r : Registry) (name : String) (value : Rat) (reason : String)
    (metadata : Dict) (now : Time) : Registry :=
  if (metadata.get "previous_value").isSome then
    r.write ⟨name, value, now, metadata.put "reason" (.str reason)⟩
  else
    let r := r.sync engine now
    r.write ⟨name, value, now,
      (metadata.put "previous_value" (.float (r.cached engine name none))).put "reason"
        (.str reason)⟩

def metadata (r : Registry) (name : String) : Dict :=
  ((r.parameters.get? name).map (·.metadata)).getD []

/-- `max(min_v, min(max_v, value))` under bounds. -/
def clamp (bounds : Option (Rat × Rat)) (value : Rat) : Rat :=
  bounds.elim value fun bound => max bound.1 (min bound.2 value)

/-- `rollback`; none where `float` raises. -/
def rollback (engine : RegistryEngine) (r : Registry) (name reason : String) (now : Time) :
    Registry × Option (Option Rat) :=
  let r := r.sync engine now
  match (r.metadata name).get "previous_value" with
  | none | some .null => (r, some none)
  | some previous =>
      match engine.toFloat previous with
      | none => (r, none)
      | some value =>
          (r.set engine name value reason [("previous_value", .float (r.cached engine name none))]
            now, some (some value))

/-- `reset_to_default`. -/
def resetToDefault (engine : RegistryEngine) (r : Registry) (name reason : String) (now : Time) :
    Registry × Option (Option Rat) :=
  let value := (engine.default? name).getD 0
  (r.set engine name value reason [] now, some (some value))

/-- `decay_towards_default`. -/
def decayTowardsDefault (engine : RegistryEngine) (r : Registry) (name : String) (factor : Rat)
    (reason : String) (now : Time) : Registry × Option (Option Rat) :=
  let r := r.sync engine now
  let current := r.cached engine name none
  let default := (engine.default? name).getD current
  let decayed := engine.rounded 4 (default + max 0 (min 1 factor) * (current - default))
  (r.set engine name decayed reason [] now, some (some decayed))

/-- `apply_gradient`; none where it raises. -/
def applyGradient (engine : RegistryEngine) (r : Registry) (name : String) (gradient : Rat)
    (learningRate beta : Option Rat) (bounds : Option (Rat × Rat)) (reason : String) (now : Time) :
    Registry × Option (Option Rat) :=
  let r := r.sync engine now
  let current := r.cached engine name none
  let metadata := r.metadata name
  let rate := learningRate.getD (r.cached engine "parameter_learning_rate" (some (5 / 100)))
  let b := beta.getD (r.cached engine "parameter_momentum_beta" (some (90 / 100)))
  match (metadata.get "momentum").elim (some 0) engine.toFloat,
      (metadata.get "step").elim (some 0) engine.toInt with
  | some oldMomentum, some oldStep =>
      let step := oldStep + 1
      -- Python raises where zero is raised to a negative power
      if b = 0 ∧ step < 0 then (r, none)
      else
        let momentum := b * oldMomentum + (1 - b) * gradient
        let correction := 1 - b ^ step
        let delta := rate * (if 0 < correction then momentum / correction else momentum)
        let value := clamp bounds (engine.rounded 4 (current + delta))
        let metadata := (((metadata.put "momentum" (.float (engine.rounded 6 momentum))).put
          "step" (.int step)).put "last_gradient" (.float (engine.rounded 6 gradient))).put
            "last_delta" (.float (engine.rounded 6 delta))
        (r.set engine name value reason metadata now, some (some value))
  | _, _ => (r, none)

/-- `apply_ema`. -/
def applyEma (engine : RegistryEngine) (r : Registry) (name : String) (candidate : Rat)
    (alpha : Option Rat) (bounds : Option (Rat × Rat)) (reason : String) (now : Time) :
    Registry × Option (Option Rat) :=
  let r := r.sync engine now
  let current := r.cached engine name none
  let a := alpha.getD (r.cached engine "parameter_ema_alpha" (some (80 / 100)))
  let value := clamp bounds (engine.rounded 4 (a * current + (1 - a) * candidate))
  let metadata := ((r.metadata name).put "ema_source_candidate" (.float candidate)).put
    "ema_alpha" (.float a)
  (r.set engine name value reason metadata now, some (some value))

end Registry

/-- A call of a registry, and when it is made. -/
inductive ParameterCall where
  | set (name : String) (value : Rat) (reason : String) (now : Time)
  | applyGradient (name : String) (gradient : Rat) (learningRate beta : Option Rat)
      (bounds : Option (Rat × Rat)) (reason : String) (now : Time)
  | applyEma (name : String) (candidate : Rat) (alpha : Option Rat)
      (bounds : Option (Rat × Rat)) (reason : String) (now : Time)
  | decayTowardsDefault (name : String) (factor : Rat) (reason : String) (now : Time)
  | resetToDefault (name reason : String) (now : Time)
  | rollback (name reason : String) (now : Time)

/-- The calls; what each returned, none where it raised. -/
def registryMachine (engine : RegistryEngine) :
    Machine Registry ParameterCall (Option (Option Rat)) where
  step r
    | .set name value reason now => (r.set engine name value reason [] now, some none)
    | .applyGradient name gradient learningRate beta bounds reason now =>
        r.applyGradient engine name gradient learningRate beta bounds reason now
    | .applyEma name candidate alpha bounds reason now =>
        r.applyEma engine name candidate alpha bounds reason now
    | .decayTowardsDefault name factor reason now =>
        r.decayTowardsDefault engine name factor reason now
    | .resetToDefault name reason now => r.resetToDefault engine name reason now
    | .rollback name reason now => r.rollback engine name reason now

end Navi.Memory
