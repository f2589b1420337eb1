import Navi.Goals.Admission
import Navi.Goals.Schedules

/-!
# Policies of goals

The permissions, the specification that a goal's loop runs under, the context of a
capability call, and `open_goal` with all that it writes, for one caller.
-/

namespace Navi.Goals

open Navi.Base Navi.Lifecycle

/-! ## Permissions and capabilities -/

/-- The permissions of `PERMISSION_ORDER`. -/
inductive Permission where
  | read
  | network
  | prepare
  | write
  deriving DecidableEq

/-- `PERMISSION_ORDER`. -/
def Permission.level : Permission → Nat
  | .read => 0
  | .network => 1
  | .prepare => 2
  | .write => 3

theorem Permission.level_injective : Function.Injective Permission.level := by
  intro a b h
  cases a <;> cases b <;> first | rfl | cases h

instance : LinearOrder Permission := LinearOrder.lift' Permission.level Permission.level_injective

/-- `ToolSpec`, as far as the policies of goals read it; `permission` is normalised. -/
structure ToolSpec where
  name : String
  capabilityClass : String
  mutates : Bool
  permission : Permission
  permissionPolicy : String
  delegationAllowed : Bool

/-- `planner_specs()`: the handlers are keyed by the names of their capabilities. -/
abbrev Registry := Table String ToolSpec (·.name)

/-- `CapabilityContext`, as far as the goal capabilities read it; `permission_ceiling` is
normalised and the set `allowed_tools` a list. -/
structure CapabilityContext where
  goalId : String
  source : String
  peerId : String
  senderId : String
  sessionId : String
  workspace : String
  permissionCeiling : Permission
  allowedTools : Option (List String)

/-- Whether `allowed_tools` is not there or has this name. -/
def CapabilityContext.allows (context : CapabilityContext) (name : String) : Prop :=
  ∀ tools ∈ context.allowedTools, name ∈ tools

instance (context : CapabilityContext) (name : String) : Decidable (context.allows name) :=
  inferInstanceAs (Decidable (∀ tools ∈ context.allowedTools, name ∈ tools))

/-- What the workspaces of a call lead to: the directory of the service,
`durable_workspace_for`, and the path of `_resolve_workspace`. -/
structure Workspaces where
  projectDir : String
  durable : String → String
  resolve : String → String

/-- `workspaces_match`. -/
def Workspaces.match (workspaces : Workspaces) (left right : String) : Bool :=
  left = "" ∨ right = "" ∨ workspaces.durable left = workspaces.durable right

/-- `tuple(sorted(set(names)))`. -/
def sortedSet (names : List String) : List String := names.dedup.insertionSort (· ≤ ·)

@[simp] theorem mem_sortedSet {name : String} {names : List String} :
    name ∈ sortedSet names ↔ name ∈ names := by
  rw [sortedSet, List.mem_insertionSort, List.mem_dedup]

/-! ## Specifications -/

/-- `BudgetPolicy`, after its `validate`. -/
structure BudgetPolicy where
  tokenBudget : Int
  callBudget : Int
  costBudget : Rat
  qpsLimit : Int
  maxConcurrent : Int
  tokenBudget_nonneg : 0 ≤ tokenBudget
  callBudget_nonneg : 0 ≤ callBudget
  costBudget_nonneg : 0 ≤ costBudget
  qpsLimit_nonneg : 0 ≤ qpsLimit
  one_le_maxConcurrent : 1 ≤ maxConcurrent

/-- `LoopSpec`, as far as opening and updating a goal and a spawn read or set it, after its
`validate`. Its ladder has one step, with this command and this timeout. -/
structure LoopPolicy where
  id : String
  goalId : String
  objective : String
  scope : List String
  constraints : List String
  acceptanceCriteria : List String
  permissionCeiling : Permission
  allowedCapabilities : List String
  verificationCommand : String
  timeout : Time
  budget : BudgetPolicy
  objective_ne : strip objective ≠ ""
  scope_ne : scope ≠ []
  allowedCapabilities_ne : allowedCapabilities ≠ []

/-- Whether a loop under the specification may call the capability. -/
def LoopPolicy.allows (spec : LoopPolicy) (name : String) : Prop :=
  "*" ∈ spec.allowedCapabilities ∨ name ∈ spec.allowedCapabilities

instance (spec : LoopPolicy) (name : String) : Decidable (spec.allows name) :=
  inferInstanceAs (Decidable (_ ∨ _))

/-- `loop_runs`, as far as the specification of a goal is looked up by it. -/
structure LoopRow where
  runId : String
  goalId : String
  loopSpecId : String
  updatedAt : Time

/-- The tables that opening and updating a goal reads and writes. -/
structure PolicyStores where
  goals : GoalRows
  runs : Table String Run (·.id)
  specs : Table String LoopPolicy (·.id)
  loopRuns : Table String LoopRow (·.runId)

/-- What a call raises: an error of its own with its text, a `KeyError` or `ValueError` of
the service, or an error of another type from outside of the tables. -/
inductive Raised where
  | schemaMismatch (message : String)
  | notFound (message : String)
  | permissionDenied (message : String)
  | conflict (message : String)
  | keyError (message : String)
  | valueError (message : String)
  | other (type : String)

/-- `type(error).__name__`. -/
def Raised.type : Raised → String
  | .schemaMismatch _ => "SchemaMismatch"
  | .notFound _ => "NotFound"
  | .permissionDenied _ => "PermissionDenied"
  | .conflict _ => "Conflict"
  | .keyError _ => "KeyError"
  | .valueError _ => "ValueError"
  | .other type => type

/-- `list_by_goal(goal_id, limit=1)`. -/
def latestLoopRun (s : PolicyStores) (goalId : String) : Option LoopRow :=
  ((s.loopRuns.rows.filter (·.goalId = goalId)).insertionSort
    fun a b => b.updatedAt ≤ a.updatedAt).head?

/-- `get_spec_json`, read back. -/
def specOf (s : PolicyStores) (specId : String) : Except Raised LoopPolicy :=
  match s.specs.get? specId with
  | some spec => .ok spec
  | none => .error (.keyError ("loop spec not found: " ++ specId))

/-- `goal_loop_spec`. -/
def goalLoopSpec (s : PolicyStores) (goalId : String) : Except Raised LoopPolicy :=
  match s.goals.get? goalId, latestLoopRun s goalId with
  | none, _ => .error (.keyError ("goal not found: " ++ goalId))
  | some _, none => .error (.keyError ("loop specification not found for goal: " ++ goalId))
  | some _, some row => specOf s row.loopSpecId

end Navi.Goals
