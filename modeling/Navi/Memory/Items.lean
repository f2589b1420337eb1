import Mathlib
import Navi.Base.Dict
import Navi.Base.Index

/-!
# Memory items and parameters

The rows of `memory_items` and `memory_parameters`, and the provider's statements on them. A
stored item names its source, its reason and its provenance.
-/

namespace Navi.Memory

open Navi.Base

/-! ## Items -/

/-- `MemoryItem`. Its times are what a REAL column gives back, which is a float unless something
else was bound. -/
structure MemoryItem where
  id : String
  type : String
  status : String
  scope : String
  content : String
  source : String
  confidence : Rat
  createdAt : Json
  updatedAt : Json
  lastVerifiedAt : Json
  expiresAt : Json
  metadata : Dict
  reason : String
  provenance : String
  summary : String
  deriving DecidableEq

/-- What `store_item` raises where it refuses an item. -/
def MemoryItem.refusal (item : MemoryItem) : Option String :=
  if strip item.source = "" then some "memory source is required"
  else if strip item.reason = "" then some "memory reason is required"
  else if strip item.provenance = "" then some "memory provenance is required"
  else none

/-- A row of `memory_parameters`. -/
structure Parameter where
  name : String
  value : Rat
  updatedAt : Time
  metadata : Dict
  deriving DecidableEq

/-- The two tables; what is stored was not refused. -/
structure MemoryTables where
  items : Table String MemoryItem (·.id)
  parameters : Table String Parameter (·.name)
  stored : ∀ item ∈ items.rows, item.refusal = none

namespace MemoryTables

/-- `store_item`. -/
def storeItem (s : MemoryTables) (item : MemoryItem) : Except String MemoryTables :=
  match h : item.refusal with
  | some message => .error message
  | none => .ok
      { s with
        items := s.items.upsert item
        stored := fun other hother => by
          rcases Table.mem_upsert hother with rfl | hold
          · exact h
          · exact s.stored other hold }

/-- `delete_item` of the provider. -/
def deleteItem (s : MemoryTables) (itemId : String) : MemoryTables :=
  { s with
    items := s.items.delete (·.id = itemId)
    stored := fun other hother => s.stored other (Table.mem_delete.mp hother).1 }

/-- `set_parameter` of the provider. -/
def setParameter (s : MemoryTables) (parameter : Parameter) : MemoryTables :=
  { s with parameters := s.parameters.upsert parameter }

/-- `set_parameter_if_absent`. -/
def setParameterIfAbsent (s : MemoryTables) (parameter : Parameter) : MemoryTables :=
  { s with parameters := s.parameters.insertOrIgnore parameter }

end MemoryTables

section

variable {s s' : MemoryTables} {item : MemoryItem}

theorem storeItem_eq_ok (h : item.refusal = none) :
    ∃ s', s.storeItem item = .ok s' ∧ s'.items = s.items.upsert item
      ∧ s'.parameters = s.parameters := by
  unfold MemoryTables.storeItem
  split
  next message hrefused =>
    rw [h] at hrefused
    cases hrefused
  next => exact ⟨_, rfl, rfl, rfl⟩

theorem refusal_of_storeItem (h : s.storeItem item = .ok s') : item.refusal = none := by
  unfold MemoryTables.storeItem at h
  split at h
  next => cases h
  next hstored => exact hstored

theorem items_of_storeItem (h : s.storeItem item = .ok s') :
    s'.items = s.items.upsert item ∧ s'.parameters = s.parameters := by
  unfold MemoryTables.storeItem at h
  split at h
  next => cases h
  next =>
    obtain rfl := Except.ok.inj h
    exact ⟨rfl, rfl⟩

end

/-! ## System parameters -/

/-- `SYSTEM_DYNAMIC_PARAMETERS`, as far as the credit of a trace reads them. -/
def systemDynamicParameters : List (String × Rat) :=
  [("ltp_boost_delta", 5 / 100), ("decay_stale_threshold", 20 / 100),
    ("temporal_discount_factor", 85 / 100), ("confidence_reduction_delta", 10 / 100),
    ("provider_retry_after_seconds", 15), ("reward_success", 1), ("reward_degraded", 20 / 100),
    ("severity_safeguard_policy", 1), ("severity_loop_no_progress", 80 / 100),
    ("severity_planner_or_parser", 70 / 100), ("severity_checker_blocked", 60 / 100),
    ("severity_capability_failure", 50 / 100), ("severity_runtime", 40 / 100),
    ("severity_provider_no_response", 30 / 100), ("severity_default", 50 / 100),
    ("parameter_momentum_beta", 90 / 100), ("parameter_learning_rate", 5 / 100)]

/-- The system default of a parameter. -/
def systemDefault (name : String) : Option Rat :=
  (systemDynamicParameters.find? (·.1 = name)).map (·.2)

/-- The value that a registry reads for a parameter, which seeds the defaults first. -/
def MemoryTables.parameterValue (s : MemoryTables) (name : String) : Option Rat :=
  ((s.parameters.get? name).map (·.value)).or (systemDefault name)

/-- `get` of the registry. -/
def MemoryTables.parameter (s : MemoryTables) (name : String) (fallback : Rat) : Rat :=
  (s.parameterValue name).getD fallback

def seededParameter (entry : String × Rat) (now : Time) : Parameter where
  name := entry.1
  value := entry.2
  updatedAt := now
  metadata := [("reason", .str "system_default_initialization")]

end Navi.Memory
