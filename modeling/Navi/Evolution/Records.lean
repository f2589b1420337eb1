import Navi.Evolution.Files

/-!
# Targets in tables

The adapters of evolution that read, check, change and restore rows: memory items, memory
parameters and graph nodes. What they read is the row as JSON with its keys in order.
-/

namespace Navi.Evolution

open Navi.Base Navi.Base.Json Navi.Memory

section

variable (env : TargetRuntime)

/-! ## Memory items -/

namespace Item

/-- `item.__dict__`. -/
def dict (item : MemoryItem) : Dict :=
  [("id", .str item.id), ("type", .str item.type), ("status", .str item.status),
    ("scope", .str item.scope), ("content", .str item.content), ("source", .str item.source),
    ("confidence", .float item.confidence), ("created_at", item.createdAt),
    ("updated_at", item.updatedAt), ("last_verified_at", item.lastVerifiedAt),
    ("expires_at", item.expiresAt), ("metadata", .obj item.metadata),
    ("reason", .str item.reason), ("provenance", .str item.provenance),
    ("summary", .str item.summary)]

def times (item : MemoryItem) : List Json :=
  [item.createdAt, item.updatedAt, item.lastVerifiedAt, item.expiresAt]

/-- The fields of `MemoryItem`, the last three with a default. -/
def fields : List String :=
  ["id", "type", "status", "scope", "content", "source", "confidence", "created_at",
    "updated_at", "last_verified_at", "expires_at", "metadata", "reason", "provenance", "summary"]

/-- A value as a number, where Python compares it as one. -/
def number : Json → Option Rat
  | .int n => some n
  | .float x => some x
  | .bool b => some (if b then 1 else 0)
  | .null | .str _ | .arr _ | .obj _ => none

/-- `==` of a value and one that a column holds. -/
def equal (value held : Json) : Bool :=
  match number value, number held with
  | some x, some y => x = y
  | none, none => value = held
  | some _, none | none, some _ => false

/-- `read`. -/
def read (home : Home) (targetId : String) : String :=
  match home.memory.items.get? targetId with
  | some item => dumpJson env (dict item)
  | none => ""

/-- The fields that a proposal does not change. -/
def immutable : List String :=
  ["id", "type", "status", "scope", "source", "created_at", "provenance"]

/-- `data.get(key) == current_data.get(key)`. -/
def unchanged (data : Dict) (current : MemoryItem) (key : String) : Bool :=
  equal ((data.get key).getD .null) (((dict current).get key).getD .null)

/-- `validate`. -/
def validate (home : Home) (targetId candidate : String) : Except TargetError Unit := do
  let data ← jsonObject env candidate "memory_item"
  match home.memory.items.get? targetId with
  | none => .error (.valueError "memory_item target must already exist")
  | some current =>
      require (textOr env data "id" "" = targetId)
        (.valueError "memory_item candidate id must match target_id")
      let missing := ["content", "scope", "source", "status", "type"].filter (!data.flag ·)
      require (missing = []) (.valueError
        ("memory_item candidate missing fields: " ++ ", ".intercalate missing))
      let changed := immutable.filter (!unchanged data current ·)
      require (changed = []) (.valueError
        ("memory_item evolution cannot change authority or lifecycle fields: "
          ++ ", ".intercalate changed))

/-- `json_object` of a value. -/
def objectOrEmpty (value : Json) : Dict :=
  match value with
  | .obj data => data
  | .str text =>
      match env.loads (if text = "" then "\x7b\x7d" else text) with
      | some (.obj data) => data
      | _ => []
  | .null | .bool _ | .int _ | .float _ | .arr _ => []

/-- `max(0.0, min(1.0, confidence))`. -/
def clamp (confidence : Rat) : Rat := max 0 (min 1 confidence)

def textField (data : Dict) (key : String) (default : Option String) : Except TargetError String :=
  match data.get key, default with
  | some (.str s), _ => .ok s
  | none, some s => .ok s
  | _, _ => .error (.other "TypeError")

/-- A field that is bound to a REAL column. -/
def timeField (data : Dict) (key : String) : Except TargetError Json :=
  match (data.get key).bind env.realColumn with
  | some held => .ok held
  | none => .error (.other "Error")

/-- What the hooks are told of an item. -/
def write (item : MemoryItem) : MemoryWrite where
  type := item.type
  status := item.status
  scope := item.scope
  source := item.source
  confidence := clamp item.confidence
  contentChars := item.content.length
  metadataKeys := (item.metadata.map Prod.fst).insertionSort (· ≤ ·)

/-- `_assert_memory_write_allowed`. -/
def checkWrite (item : MemoryItem) : Except TargetError Unit :=
  match env.refusal (write item) with
  | some message => .error (.valueError message)
  | none => .ok ()

/-- The item that `restore_item` stores, which has no summary. -/
def restored (data : Dict) : Except TargetError MemoryItem := do
  -- `MemoryItem(**item_dict)`
  require ((data.all fun entry => entry.1 ∈ fields) = true
    ∧ ∀ field ∈ fields.take 11, (data.get field).isSome) (.other "TypeError")
  let some confidence := number ((data.get "confidence").getD .null)
    | .error (.other "TypeError")
  return {
    id := ← textField data "id" none
    type := ← textField data "type" none
    status := ← textField data "status" none
    scope := ← textField data "scope" none
    content := ← textField data "content" none
    source := ← textField data "source" none
    confidence := clamp confidence
    createdAt := ← timeField env data "created_at"
    updatedAt := ← timeField env data "updated_at"
    lastVerifiedAt := ← timeField env data "last_verified_at"
    expiresAt := ← timeField env data "expires_at"
    metadata := objectOrEmpty env ((data.get "metadata").getD .null)
    reason := ← textField data "reason" (some "")
    provenance := ← textField data "provenance" (some "")
    summary := "" }

/-- `restore_item`. -/
def restore (home : Home) (data : Dict) : Except TargetError Home := do
  let item ← restored env data
  checkWrite env item
  let memory ← (home.memory.storeItem item).mapError .valueError
  return { home with memory := memory }

/-- `apply`. -/
def apply (home : Home) (targetId candidate : String) : Except TargetError Home := do
  validate env home targetId candidate
  restore env home (← jsonObject env candidate "memory_item")

/-- `rollback`. -/
def rollback (home : Home) (targetId before : String) : Except TargetError Home :=
  if before = "" then .ok { home with memory := home.memory.deleteItem targetId }
  else do restore env home (← jsonObject env before "memory_item")

end Item

/-! ## Memory parameters -/

namespace MemoryParameter

/-- `_ensure_parameters`. -/
def ensure (home : Home) (now : Time) : Home :=
  { home with
    memory := env.defaultParameters.foldl (fun memory entry =>
      memory.setParameterIfAbsent
        { name := entry.1
          value := entry.2
          updatedAt := now
          metadata := [("reason", .str "default_initialization")] }) home.memory }

/-- `get_parameter_entry` of a stored parameter. -/
def entry (name : String) (value : Rat) (updatedAt : Time) (metadata : Dict) : Dict :=
  [("name", .str name), ("value", .float value), ("updated_at", .float updatedAt),
    ("metadata", .obj metadata)]

/-- `read`, which stores the defaults first. -/
def read (home : Home) (now : Time) (targetId : String) : Home × String :=
  let home := ensure env home now
  match home.memory.parameters.get? targetId with
  | some row => (home, dumpJson env (entry targetId row.value row.updatedAt row.metadata))
  | none =>
      match env.defaultParameters.lookup targetId with
      | some value => (home, dumpJson env (entry targetId value 0 [("reason", .str "default")]))
      | none => (home, "")

/-- `float(data.get("value", default))`. -/
def valueOr (data : Dict) (default : Rat) : Except TargetError Rat :=
  match data.get "value" with
  | none => .ok default
  | some value =>
      match env.toFloat value with
      | some x => .ok x
      | none => .error (.other "TypeError")

/-- `dict(data.get("metadata", {}))`. -/
def metadataOf (data : Dict) : Except TargetError Dict :=
  match data.get "metadata" with
  | none => .ok []
  | some value =>
      match env.toDict value with
      | some metadata => .ok metadata
      | none => .error (.other "TypeError")

/-- `validate`. -/
def validate (_targetId candidate : String) : Except TargetError Unit := do
  let data ← jsonObject env candidate "memory_parameter"
  let _ ← valueOr env data 0

/-- `set_parameter`, whose reason is part of the metadata. -/
def set (home : Home) (now : Time) (name : String) (value : Rat) (reason : String)
    (metadata : Dict) : Home :=
  let home := ensure env home now
  let recorded : Json :=
    if reason = "" then (metadata.get "reason").getD (.str "dynamic_update") else .str reason
  { home with
    memory := home.memory.setParameter
      { name := name
        value := value
        updatedAt := now
        metadata := metadata.put "reason" recorded } }

/-- `get_parameter`. -/
def value (home : Home) (name : String) : Rat :=
  (((home.memory.parameters.get? name).map (·.value)).or
    (env.defaultParameters.lookup name)).getD 0

/-- `apply`. -/
def apply (home : Home) (now : Time) (targetId candidate : String) : Except TargetError Home := do
  validate env targetId candidate
  let data ← jsonObject env candidate "memory_parameter"
  let value ← valueOr env data 0
  let metadata ← metadataOf env data
  return set env home now targetId value (textOr env data "reason" "evolution_apply") metadata

/-- What was recorded of a parameter; nothing where it was not there. -/
def recordedData (before : String) : Except TargetError Dict :=
  if before = "" then .ok [] else jsonObject env before "memory_parameter"

/-- `rollback`. -/
def rollback (home : Home) (now : Time) (targetId before : String) : Except TargetError Home := do
  let data ← recordedData env before
  let value ← valueOr env data (value env home targetId)
  let metadata ← metadataOf env data
  return set env home now targetId value "evolution_rollback" metadata

end MemoryParameter

/-! ## Graph nodes -/

namespace Node

/-- `read`. -/
def read (home : Home) (targetId : String) : String :=
  match home.nodes.get? targetId with
  | some node => dumpJson env node.data
  | none => ""

/-- `validate`. -/
def validate (home : Home) (targetId candidate : String) : Except TargetError Unit := do
  require ((home.nodes.get? targetId).isSome)
    (.valueError "graph_node target must already exist")
  let _ ← jsonObject env candidate "graph_node"

/-- `replace_data`. -/
def replaceData (home : Home) (now : Time) (nodeId : String) (data : Dict) : Home :=
  { home with
    nodes := home.nodes.update (fun node => node.id = nodeId)
      (fun node => { node with data := data, updatedAt := now }) fun _ => rfl }

/-- `delete`, with the edges of the node. -/
def delete (home : Home) (nodeId : String) : Home :=
  { home with
    nodes := home.nodes.delete (·.id = nodeId)
    edges := home.edges.filter fun edge => ¬ (edge.1 = nodeId ∨ edge.2 = nodeId) }

/-- `apply`. -/
def apply (home : Home) (now : Time) (targetId candidate : String) : Except TargetError Home := do
  validate env home targetId candidate
  return replaceData home now targetId (← jsonObject env candidate "graph_node")

/-- `rollback`. -/
def rollback (home : Home) (now : Time) (targetId before : String) : Except TargetError Home :=
  if before = "" then .ok (delete home targetId)
  else do return replaceData home now targetId (← jsonObject env before "graph_node")

end Node

end

end Navi.Evolution
