import Navi.Evolution.Records

/-!
# Applying and rolling back

The registry of adapters, what the engine records before it applies a proposal, what it rolls
back to, and how it tells after a crash whether a proposal was applied. On top of it, what the
two are for.
-/

namespace Navi.Evolution

open Navi.Base Navi.Base.Json Navi.Memory

/-- The adapters of `EvolutionTargetAdapterRegistry`. -/
inductive Adapter where
  | promptLayer
  | skill
  | memoryItem
  | memoryParameter
  | evalCase
  | graphNode
  deriving DecidableEq

section

variable (env : TargetRuntime)

namespace Adapter

/-- `read`; reading a parameter stores the defaults. -/
def read (home : Home) (now : Time) (targetId : String) :
    Adapter → Except TargetError (Home × String)
  | promptLayer => (PromptLayer.read env home targetId).map (home, ·)
  | skill => (Skill.read home targetId).map (home, ·)
  | memoryItem => .ok (home, Item.read env home targetId)
  | memoryParameter => .ok (MemoryParameter.read env home now targetId)
  | evalCase => (EvalCase.read env home targetId).map (home, ·)
  | graphNode => .ok (home, Node.read env home targetId)

/-- `validate`. -/
def validate (home : Home) (targetId candidate : String) : Adapter → Except TargetError Unit
  | promptLayer => PromptLayer.validate env targetId candidate
  | skill => Skill.validate env targetId candidate
  | memoryItem => Item.validate env home targetId candidate
  | memoryParameter => MemoryParameter.validate env targetId candidate
  | evalCase => EvalCase.validate env targetId candidate
  | graphNode => Node.validate env home targetId candidate

/-- `apply`. -/
def apply (home : Home) (now : Time) (targetId candidate : String) :
    Adapter → Except TargetError Home
  | promptLayer => PromptLayer.apply env home targetId candidate
  | skill => Skill.apply env home targetId candidate
  | memoryItem => Item.apply env home targetId candidate
  | memoryParameter => MemoryParameter.apply env home now targetId candidate
  | evalCase => EvalCase.apply env home targetId candidate
  | graphNode => Node.apply env home now targetId candidate

/-- What the engine rolls back with: `rollback_snapshot` where the adapter has it, and else
`rollback`. -/
def rollback (home : Home) (now : Time) (targetId recorded : String) :
    Adapter → Except TargetError Home
  | promptLayer => PromptLayer.rollbackSnapshot env home targetId recorded
  | skill => Skill.rollback home targetId recorded
  | memoryItem => Item.rollback env home targetId recorded
  | memoryParameter => MemoryParameter.rollback env home now targetId recorded
  | evalCase => EvalCase.rollback home targetId recorded
  | graphNode => Node.rollback env home now targetId recorded

end Adapter

/-! ## The engine -/

/-- What `apply_proposal` records before it applies: what it read or, where the adapter has one,
a snapshot. -/
def rollbackState (home : Home) (now : Time) (targetId : String) :
    Adapter → Except TargetError (Home × String)
  | .promptLayer => do
      let _ ← PromptLayer.read env home targetId
      let snapshot ← PromptLayer.snapshot env home targetId
      return (home, snapshot)
  | adapter => adapter.read env home now targetId

/-- The home after `adapter.apply`, which leaves it where it raises. -/
def attempt (home : Home) (now : Time) (targetId candidate : String) (adapter : Adapter) : Home :=
  (adapter.apply env home now targetId candidate).toOption.getD home

end

/-- What `_reconcile_applying` comes to. -/
inductive Reconciled where
  | applied
  | failed
  | uncertain
  deriving DecidableEq

/-- `_reconcile_applying`, by what it reads and whether the apply event was recorded. -/
def reconcileApplying (current before after : String) (recorded : Bool) : Reconciled :=
  if current = after ∧ recorded then .applied
  else if current = before then .failed
  else .uncertain

/-! ## What is claimed of the adapters -/

section

variable (env : TargetRuntime)

/-- A home as files and tables hold it: no object has a key twice, and a column gives back what
it holds. -/
structure StoredHome extends Home where
  items : ∀ item ∈ memory.items.rows, (Json.obj item.metadata).distinct = true
    ∧ ∀ time ∈ Item.times item, env.realColumn time = some time
  parameters : ∀ row ∈ memory.parameters.rows, (Json.obj row.metadata).distinct = true
  data : ∀ node ∈ nodes.rows, (Json.obj node.data).distinct = true

/-- The same item, but for its update time. -/
def SameItem (item item' : MemoryItem) : Prop :=
  { item' with updatedAt := item.updatedAt, metadata := item.metadata } = item
    ∧ Same (.obj item'.metadata) (.obj item.metadata)

/-- The same parameter, but for its update time. -/
def SameParameter (row row' : Parameter) : Prop :=
  row'.name = row.name ∧ row'.value = row.value
    ∧ Same (.obj row'.metadata) (.obj row.metadata)

/-- The same node, but for its update time. -/
def SameNode (node node' : GraphNode) : Prop :=
  { node' with updatedAt := node.updatedAt, data := node.data } = node
    ∧ Same (.obj node'.data) (.obj node.data)

/-- The target is there or not as before, and is as it was but for the update time of its
row. -/
def SameTarget (home home' : Home) (targetId : String) : Adapter → Prop
  | .promptLayer => home'.overrides targetId = home.overrides targetId
  | .skill => ∀ name, safeName targetId = .ok name → home'.skills name = home.skills name
  | .evalCase => ∀ name, safeName targetId = .ok name → home'.evalCases name = home.evalCases name
  | .memoryItem =>
      Option.Rel SameItem (home.memory.items.get? targetId) (home'.memory.items.get? targetId)
  | .memoryParameter => Option.Rel SameParameter (home.memory.parameters.get? targetId)
      (home'.memory.parameters.get? targetId)
  | .graphNode => Option.Rel SameNode (home.nodes.get? targetId) (home'.nodes.get? targetId)

/-- Rolling back, with what was recorded before the candidate was applied, makes the target
again what it was. -/
def RollsBack (adapter : Adapter) (home : Home) (targetId candidate : String)
    (started applied rolledBack : Time) : Prop :=
  ∃ home₁ recorded home₂, rollbackState env home started targetId adapter = .ok (home₁, recorded)
    ∧ adapter.rollback env (attempt env home₁ applied targetId candidate adapter) rolledBack
        targetId recorded = .ok home₂
    ∧ SameTarget home home₂ targetId adapter

/-- After a crash, an apply that was done is recognised by what is read. -/
def Recognised (adapter : Adapter) (home : Home) (targetId candidate : String)
    (started applied checked : Time) : Prop :=
  ∃ home₁ before home₂ home₃ current,
    adapter.read env home started targetId = .ok (home₁, before)
    ∧ adapter.apply env home₁ applied targetId candidate = .ok home₂
    ∧ adapter.read env home₂ checked targetId = .ok (home₃, current)
    ∧ reconcileApplying current before candidate true = .applied

/-! ## When it holds -/

/-- A text file without carriage returns. -/
def Plain (text : String) : Prop := '\r' ∉ text.toList

def Restorable (home : Home) (targetId : String) : Adapter → Prop
  | .promptLayer => ∀ raw ∈ home.overrides targetId, Plain raw
  | .skill => ∃ name, safeName targetId = .ok name
      ∧ ∀ raw ∈ home.skills name, raw ≠ "" ∧ Plain raw
  | .evalCase => ∃ name, safeName targetId = .ok name
      ∧ ∀ raw ∈ home.evalCases name, raw ≠ "" ∧ Plain raw
  | .memoryItem => ∀ item ∈ home.memory.items.get? targetId,
      item.summary = "" ∧ 0 ≤ item.confidence ∧ item.confidence ≤ 1
        ∧ env.refusal (Item.write item) = none
  | .memoryParameter => ∃ row ∈ home.memory.parameters.get? targetId,
      row.metadata.get "reason" = some (.str "evolution_rollback")
  | .graphNode => True

/-- The candidate is what is read after it was applied. -/
def Readable (targetId candidate : String) (applied : Time) : Adapter → Prop
  | .promptLayer | .skill => Plain candidate
  | .evalCase => (∃ name, safeName targetId = .ok name) ∧ Plain candidate
  | .memoryItem => ∃ item : MemoryItem, candidate = dumpJson env (Item.dict item)
      ∧ (Json.obj item.metadata).distinct = true
      ∧ (∀ time ∈ Item.times item, env.realColumn time = some time)
      ∧ item.summary = "" ∧ 0 ≤ item.confidence ∧ item.confidence ≤ 1 ∧ strip item.reason ≠ ""
      ∧ env.refusal (Item.write item) = none
  | .memoryParameter => ∃ (value : Rat) (metadata : Dict), (Json.obj metadata).distinct = true
      ∧ candidate = dumpJson env (MemoryParameter.entry targetId value applied metadata)
      ∧ metadata.get "reason" = some (.str "evolution_apply")
  | .graphNode => ∃ data : Dict, (Json.obj data).distinct = true ∧ candidate = dumpJson env data

end

end Navi.Evolution
