import Navi.Base.Checks
import Navi.Base.NumberTexts

/-!
# Loop specifications as JSON

The whole `LoopSpec` with its nested records, the checks each makes, the dictionaries
their `to_dict` methods write and the one function that reads them back. Whatever has
the text of a valid specification is read as that specification.
-/

namespace Navi.Loop.Specification

open Navi.Base

/-! ## Reading JSON values -/

/-- What checking or reading a specification raises. -/
inductive SpecError where
  | keyError (key : String)
  | typeError (message : String)
  | valueError (message : String)
  deriving DecidableEq

/-- An `int` or a `float`. -/
inductive Number where
  | int (n : Int)
  | float (x : Rat)
  deriving DecidableEq

namespace Number

def value : Number → Rat
  | .int n => n
  | .float x => x

def toJson : Number → Json
  | .int n => .int n
  | .float x => .float x

end Number

/-- `container[key]`. -/
def item (container : Json) (key : String) : Except SpecError Json :=
  match container with
  | .obj entries =>
      match Dict.get entries key with
      | some value => .ok value
      | none => .error (.keyError key)
  | _ => .error (.typeError "indices must be integers")

/-- `str(container[key])`. -/
def textItem (container : Json) (key : String) : Except SpecError String :=
  return (← item container key).text

/-- `for item in value`: a text is read by its characters, an object by its keys. -/
def iterate : Json → Except SpecError (List Json)
  | .arr items => .ok items
  | .str s => .ok (s.toList.map fun c => .str (String.ofList [c]))
  | .obj entries => .ok (entries.map fun entry => .str entry.1)
  | _ => .error (.typeError "object is not iterable")

/-- `tuple(str(item) for item in container[key])`. -/
def textItems (container : Json) (key : String) : Except SpecError (List String) := do
  return (← iterate (← item container key)).map Json.text

/-- `_required_dict`. -/
def requiredDict (container : Json) (key : String) : Except SpecError Dict := do
  match ← item container key with
  | .obj entries => .ok entries
  | _ => .error (.valueError ("LoopSpec." ++ key ++ " must be an object"))

/-- The keyword arguments of a record: every key is one of its fields. -/
def keywords (record : String) (fields : List String) (arguments : Dict) :
    Except SpecError Unit :=
  match arguments.find? fun argument => argument.1 ∉ fields with
  | some argument => .error (.typeError
      (record ++ ".__init__() got an unexpected keyword argument '" ++ argument.1 ++ "'"))
  | none => .ok ()

/-- A keyword argument of a field's type, or the field's default. -/
def keyword {α : Type} (read : Json → Option α) (default : α) (arguments : Dict) (field : String) :
    Except SpecError α :=
  match Dict.get arguments field with
  | none => .ok default
  | some value =>
      match read value with
      | some argument => .ok argument
      | none => .error (.typeError (field ++ " is of another type"))

def readBool : Json → Option Bool
  | .bool b => some b
  | _ => none

def readInt : Json → Option Int
  | .int n => some n
  | _ => none

def readNumber : Json → Option Number
  | .int n => some (.int n)
  | .float x => some (.float x)
  | _ => none

def readText : Json → Option String
  | .str s => some s
  | _ => none

/-- `float(value)`. -/
def readFloat : Json → Except SpecError Rat
  | .int n => .ok n
  | .float x => .ok x
  | .bool b => .ok (if b then 1 else 0)
  | .str s =>
      match floatOfText s with
      | some x => .ok x
      | none => .error (.valueError ("could not convert string to float: '" ++ s ++ "'"))
  | _ => .error (.typeError "float() argument must be a string or a real number")

/-! ## Permissions -/

/-- `str.lower` of a character, as far as a comparison with an ASCII text can tell: the
Kelvin sign is the one other character that becomes an ASCII letter. -/
def lowerChar (c : Char) : Char := if c = Char.ofNat 0x212A then 'k' else c.toLower

/-- `PERMISSION_ORDER`. -/
def permissionOrder : List String := ["read", "network", "prepare", "write"]

/-- `normalize_permission`. -/
def normalizePermission (value : String) : Except SpecError String := do
  let stripped := String.ofList ((strip value).toList.map lowerChar)
  let permission := if stripped = "" then "read" else stripped
  require (permission ∈ permissionOrder) (.valueError ("unsupported permission: " ++ value))
  return permission

/-! ## The records -/

/-- `GoalSpec`. -/
structure GoalSpec where
  objective : String
  scope : List String := []
  constraints : List String := []
  acceptanceCriteria : List String := []
  permissionCeiling : String := "read"
  riskLevel : String := "normal"
  owner : String := ""
  resumePolicy : String := "checkpoint"
  cancelPolicy : String := "mark_cancelled"
  memoryPolicy : String := "governed"
  metadata : Dict := []

def texts (items : List String) : Json := .arr (items.map .str)

namespace GoalSpec

/-- `GoalSpec.validate`. -/
def validate (goal : GoalSpec) : Except SpecError Unit := do
  require (strip goal.objective ≠ "") (.valueError "GoalSpec.objective is required")
  require (goal.scope ≠ []) (.valueError "GoalSpec.scope is required")
  let _ ← normalizePermission goal.permissionCeiling

/-- `GoalSpec.to_dict`. -/
def toDict (goal : GoalSpec) : Dict :=
  [("objective", .str goal.objective),
    ("scope", texts goal.scope),
    ("constraints", texts goal.constraints),
    ("acceptance_criteria", texts goal.acceptanceCriteria),
    ("permission_ceiling", .str goal.permissionCeiling),
    ("risk_level", .str goal.riskLevel),
    ("owner", .str goal.owner),
    ("resume_policy", .str goal.resumePolicy),
    ("cancel_policy", .str goal.cancelPolicy),
    ("memory_policy", .str goal.memoryPolicy),
    ("metadata", .obj goal.metadata)]

end GoalSpec

/-- `StateTransition`, a node or a stop state given by its text. -/
structure StateTransition where
  source : String
  target : String
  condition : String
  deriving DecidableEq

/-- `StateTransition.to_dict`. -/
def StateTransition.toDict (edge : StateTransition) : Dict :=
  [("source", .str edge.source), ("target", .str edge.target), ("condition", .str edge.condition)]

/-- `TimeoutPolicy`. -/
structure TimeoutPolicy where
  seconds : Number := .float 120
  killSignal : String := "SIGKILL"
  stdoutTailBytes : Int := 8192
  stderrTailBytes : Int := 8192
  deriving DecidableEq

namespace TimeoutPolicy

/-- `TimeoutPolicy.validate`. -/
def validate (timeout : TimeoutPolicy) : Except SpecError Unit := do
  require (0 < timeout.seconds.value) (.valueError "TimeoutPolicy.seconds must be positive")
  require (0 ≤ timeout.stdoutTailBytes ∧ 0 ≤ timeout.stderrTailBytes)
    (.valueError "timeout tail sizes must be non-negative")

/-- `TimeoutPolicy.to_dict`. -/
def toDict (timeout : TimeoutPolicy) : Dict :=
  [("seconds", timeout.seconds.toJson),
    ("kill_signal", .str timeout.killSignal),
    ("stdout_tail_bytes", .int timeout.stdoutTailBytes),
    ("stderr_tail_bytes", .int timeout.stderrTailBytes)]

/-- `TimeoutPolicy(**arguments)`. -/
def ofKeywords (arguments : Dict) : Except SpecError TimeoutPolicy := do
  keywords "TimeoutPolicy" ["seconds", "kill_signal", "stdout_tail_bytes", "stderr_tail_bytes"]
    arguments
  return {
    seconds := ← keyword readNumber (.float 120) arguments "seconds"
    killSignal := ← keyword readText "SIGKILL" arguments "kill_signal"
    stdoutTailBytes := ← keyword readInt 8192 arguments "stdout_tail_bytes"
    stderrTailBytes := ← keyword readInt 8192 arguments "stderr_tail_bytes" }

end TimeoutPolicy

/-- `VerificationStep`, its kind given by its text. -/
structure VerificationStep where
  kind : String
  name : String
  required : Bool := true
  command : String := ""
  evidenceKey : String := ""
  timeout : TimeoutPolicy := {}
  deriving DecidableEq

namespace VerificationStep

def commandKinds : List String := ["unit_test", "integration_test", "command_exit_code"]

/-- `VerificationStep.validate`. -/
def validate (step : VerificationStep) : Except SpecError Unit := do
  require (strip step.name ≠ "") (.valueError "VerificationStep.name is required")
  step.timeout.validate
  require (step.kind ∈ commandKinds → strip step.command ≠ "")
    (.valueError (step.kind ++ " verification requires a command"))

/-- `VerificationStep.to_dict`. -/
def toDict (step : VerificationStep) : Dict :=
  [("kind", .str step.kind),
    ("name", .str step.name),
    ("required", .bool step.required),
    ("command", .str step.command),
    ("evidence_key", .str step.evidenceKey),
    ("timeout", .obj step.timeout.toDict)]

end VerificationStep

/-- `CheckpointPolicy`. -/
structure CheckpointPolicy where
  beforeStateTransition : Bool := true
  beforeSideEffect : Bool := true
  persistNodeInputs : Bool := true
  persistNodeOutputs : Bool := true
  deriving DecidableEq

namespace CheckpointPolicy

/-- `CheckpointPolicy.validate`. -/
def validate (policy : CheckpointPolicy) : Except SpecError Unit := do
  require (policy.beforeStateTransition = true)
    (.valueError "Durable StateGraph requires checkpoints before state transitions")
  require (policy.beforeSideEffect = true)
    (.valueError "side effects require a checkpoint before execution")

/-- `CheckpointPolicy.to_dict`. -/
def toDict (policy : CheckpointPolicy) : Dict :=
  [("before_state_transition", .bool policy.beforeStateTransition),
    ("before_side_effect", .bool policy.beforeSideEffect),
    ("persist_node_inputs", .bool policy.persistNodeInputs),
    ("persist_node_outputs", .bool policy.persistNodeOutputs)]

/-- `CheckpointPolicy(**arguments)`. -/
def ofKeywords (arguments : Dict) : Except SpecError CheckpointPolicy := do
  keywords "CheckpointPolicy" ["before_state_transition", "before_side_effect",
    "persist_node_inputs", "persist_node_outputs"] arguments
  return {
    beforeStateTransition := ← keyword readBool true arguments "before_state_transition"
    beforeSideEffect := ← keyword readBool true arguments "before_side_effect"
    persistNodeInputs := ← keyword readBool true arguments "persist_node_inputs"
    persistNodeOutputs := ← keyword readBool true arguments "persist_node_outputs" }

end CheckpointPolicy

/-- `WorkspacePolicy`, its mode given by its text. -/
structure WorkspacePolicy where
  mode : String := "read_only"
  requireFingerprint : Bool := true
  requireThreeWayMerge : Bool := true
  requireLocks : Bool := true
  atomicMerge : Bool := true
  deriving DecidableEq

namespace WorkspacePolicy

/-- `WorkspacePolicy.validate`. -/
def validate (policy : WorkspacePolicy) : Except SpecError Unit := do
  if policy.mode ∈ ["shadow", "sandbox"] then
    require (policy.requireFingerprint = true)
      (.valueError "shadow/sandbox workspace requires fingerprint checks")
    require (policy.requireThreeWayMerge = true)
      (.valueError "shadow/sandbox workspace requires 3-way merge")
    require (policy.atomicMerge = true)
      (.valueError "shadow/sandbox workspace requires atomic merge")

/-- `WorkspacePolicy.to_dict`. -/
def toDict (policy : WorkspacePolicy) : Dict :=
  [("mode", .str policy.mode),
    ("require_fingerprint", .bool policy.requireFingerprint),
    ("require_three_way_merge", .bool policy.requireThreeWayMerge),
    ("require_locks", .bool policy.requireLocks),
    ("atomic_merge", .bool policy.atomicMerge)]

/-- `WorkspacePolicy(**arguments)`. -/
def ofKeywords (arguments : Dict) : Except SpecError WorkspacePolicy := do
  keywords "WorkspacePolicy" ["mode", "require_fingerprint", "require_three_way_merge",
    "require_locks", "atomic_merge"] arguments
  return {
    mode := ← keyword readText "read_only" arguments "mode"
    requireFingerprint := ← keyword readBool true arguments "require_fingerprint"
    requireThreeWayMerge := ← keyword readBool true arguments "require_three_way_merge"
    requireLocks := ← keyword readBool true arguments "require_locks"
    atomicMerge := ← keyword readBool true arguments "atomic_merge" }

end WorkspacePolicy

/-- `RetryPolicy`. -/
structure RetryPolicy where
  maxAttempts : Int := 10
  reflectBeforeRetry : Bool := true
  deriving DecidableEq

namespace RetryPolicy

/-- `RetryPolicy.validate`. -/
def validate (policy : RetryPolicy) : Except SpecError Unit :=
  require (1 ≤ policy.maxAttempts) (.valueError "RetryPolicy.max_attempts must be at least 1")

/-- `RetryPolicy.to_dict`. -/
def toDict (policy : RetryPolicy) : Dict :=
  [("max_attempts", .int policy.maxAttempts),
    ("reflect_before_retry", .bool policy.reflectBeforeRetry)]

/-- `RetryPolicy(**arguments)`. -/
def ofKeywords (arguments : Dict) : Except SpecError RetryPolicy := do
  keywords "RetryPolicy" ["max_attempts", "reflect_before_retry"] arguments
  return {
    maxAttempts := ← keyword readInt 10 arguments "max_attempts"
    reflectBeforeRetry := ← keyword readBool true arguments "reflect_before_retry" }

end RetryPolicy

/-- `BudgetPolicy`. -/
structure BudgetPolicy where
  tokenBudget : Int := 0
  callBudget : Int := 0
  costBudget : Number := .float 0
  qpsLimit : Int := 0
  maxConcurrent : Int := 1
  deriving DecidableEq

namespace BudgetPolicy

/-- `BudgetPolicy.validate`. -/
def validate (policy : BudgetPolicy) : Except SpecError Unit := do
  require (0 ≤ policy.tokenBudget) (.valueError "BudgetPolicy.token_budget must be non-negative")
  require (0 ≤ policy.callBudget) (.valueError "BudgetPolicy.call_budget must be non-negative")
  require (0 ≤ policy.costBudget.value)
    (.valueError "BudgetPolicy.cost_budget must be non-negative")
  require (0 ≤ policy.qpsLimit) (.valueError "BudgetPolicy.qps_limit must be non-negative")
  require (1 ≤ policy.maxConcurrent)
    (.valueError "BudgetPolicy.max_concurrent must be at least 1")

/-- `BudgetPolicy.to_dict`. -/
def toDict (policy : BudgetPolicy) : Dict :=
  [("token_budget", .int policy.tokenBudget),
    ("call_budget", .int policy.callBudget),
    ("cost_budget", policy.costBudget.toJson),
    ("qps_limit", .int policy.qpsLimit),
    ("max_concurrent", .int policy.maxConcurrent)]

/-- `BudgetPolicy(**arguments)`. -/
def ofKeywords (arguments : Dict) : Except SpecError BudgetPolicy := do
  keywords "BudgetPolicy" ["token_budget", "call_budget", "cost_budget", "qps_limit",
    "max_concurrent"] arguments
  return {
    tokenBudget := ← keyword readInt 0 arguments "token_budget"
    callBudget := ← keyword readInt 0 arguments "call_budget"
    costBudget := ← keyword readNumber (.float 0) arguments "cost_budget"
    qpsLimit := ← keyword readInt 0 arguments "qps_limit"
    maxConcurrent := ← keyword readInt 1 arguments "max_concurrent" }

end BudgetPolicy

/-- `RollbackPolicy`. -/
structure RollbackPolicy where
  discardShadowOnFailure : Bool := true
  rollbackToCheckpoint : Bool := true
  requireHumanOnUncertainSideEffect : Bool := true
  deriving DecidableEq

namespace RollbackPolicy

/-- `RollbackPolicy.to_dict`. -/
def toDict (policy : RollbackPolicy) : Dict :=
  [("discard_shadow_on_failure", .bool policy.discardShadowOnFailure),
    ("rollback_to_checkpoint", .bool policy.rollbackToCheckpoint),
    ("require_human_on_uncertain_side_effect", .bool policy.requireHumanOnUncertainSideEffect)]

/-- `RollbackPolicy(**arguments)`. -/
def ofKeywords (arguments : Dict) : Except SpecError RollbackPolicy := do
  keywords "RollbackPolicy" ["discard_shadow_on_failure", "rollback_to_checkpoint",
    "require_human_on_uncertain_side_effect"] arguments
  return {
    discardShadowOnFailure := ← keyword readBool true arguments "discard_shadow_on_failure"
    rollbackToCheckpoint := ← keyword readBool true arguments "rollback_to_checkpoint"
    requireHumanOnUncertainSideEffect :=
      ← keyword readBool true arguments "require_human_on_uncertain_side_effect" }

end RollbackPolicy

/-- `EscalationPolicy`. -/
structure EscalationPolicy where
  askUserOnConflict : Bool := true
  askUserOnApproval : Bool := true
  askUserOnUncertainSideEffect : Bool := true
  deriving DecidableEq

namespace EscalationPolicy

/-- `EscalationPolicy.to_dict`. -/
def toDict (policy : EscalationPolicy) : Dict :=
  [("ask_user_on_conflict", .bool policy.askUserOnConflict),
    ("ask_user_on_approval", .bool policy.askUserOnApproval),
    ("ask_user_on_uncertain_side_effect", .bool policy.askUserOnUncertainSideEffect)]

/-- `EscalationPolicy(**arguments)`. -/
def ofKeywords (arguments : Dict) : Except SpecError EscalationPolicy := do
  keywords "EscalationPolicy" ["ask_user_on_conflict", "ask_user_on_approval",
    "ask_user_on_uncertain_side_effect"] arguments
  return {
    askUserOnConflict := ← keyword readBool true arguments "ask_user_on_conflict"
    askUserOnApproval := ← keyword readBool true arguments "ask_user_on_approval"
    askUserOnUncertainSideEffect :=
      ← keyword readBool true arguments "ask_user_on_uncertain_side_effect" }

end EscalationPolicy

/-- `LoopSpec`, the stop states given by their texts. -/
structure LoopSpec where
  id : String
  goalId : String
  goal : GoalSpec
  stateGraph : List StateTransition
  allowedCapabilities : List String
  verificationLadder : List VerificationStep
  workspacePolicy : WorkspacePolicy := {}
  checkpointPolicy : CheckpointPolicy := {}
  retryPolicy : RetryPolicy := {}
  budgetPolicy : BudgetPolicy := {}
  rollbackPolicy : RollbackPolicy := {}
  escalationPolicy : EscalationPolicy := {}
  terminalStates : List String
  createdAt : Rat

/-- `DEFAULT_TERMINAL_STATES`. -/
def defaultTerminalStates : List String :=
  ["converged", "paused", "waiting_approval", "blocked", "failed", "cancelled", "superseded",
    "conflicted", "timed_out"]

/-- The default stop states that a list leaves out, in the order of their texts. -/
def missingTerminalStates (states : List String) : List String :=
  ["blocked", "cancelled", "conflicted", "converged", "failed", "paused", "superseded",
    "timed_out", "waiting_approval"].filter fun state => state ∉ states

namespace LoopSpec

/-- `LoopSpec.validate`. -/
def validate (spec : LoopSpec) : Except SpecError Unit := do
  spec.goal.validate
  require (strip spec.goalId ≠ "") (.valueError "LoopSpec.goal_id is required")
  require (spec.stateGraph ≠ []) (.valueError "LoopSpec.state_graph is required")
  require (spec.allowedCapabilities ≠ []) (.valueError "LoopSpec.allowed_capabilities is required")
  require (spec.verificationLadder ≠ []) (.valueError "LoopSpec.verification_ladder is required")
  spec.verificationLadder.forM VerificationStep.validate
  spec.workspacePolicy.validate
  spec.checkpointPolicy.validate
  spec.retryPolicy.validate
  spec.budgetPolicy.validate
  -- `LoopTerminalState(text)` raises on any other text.
  spec.terminalStates.forM fun state =>
    require (state ∈ defaultTerminalStates)
      (.valueError ("'" ++ state ++ "' is not a valid LoopTerminalState"))
  require (missingTerminalStates spec.terminalStates = [])
    (.valueError ("LoopSpec.terminal_states missing: "
      ++ ", ".intercalate (missingTerminalStates spec.terminalStates)))

/-- `LoopSpec.to_dict`. -/
def toDict (spec : LoopSpec) : Dict :=
  [("id", .str spec.id),
    ("goal_id", .str spec.goalId),
    ("goal", .obj spec.goal.toDict),
    ("state_graph", .arr (spec.stateGraph.map fun edge => .obj edge.toDict)),
    ("allowed_capabilities", texts spec.allowedCapabilities),
    ("verification_ladder", .arr (spec.verificationLadder.map fun step => .obj step.toDict)),
    ("workspace_policy", .obj spec.workspacePolicy.toDict),
    ("checkpoint_policy", .obj spec.checkpointPolicy.toDict),
    ("retry_policy", .obj spec.retryPolicy.toDict),
    ("budget_policy", .obj spec.budgetPolicy.toDict),
    ("rollback_policy", .obj spec.rollbackPolicy.toDict),
    ("escalation_policy", .obj spec.escalationPolicy.toDict),
    ("terminal_states", texts spec.terminalStates),
    ("created_at", .float spec.createdAt)]

end LoopSpec

/-! ## Reading a specification -/

/-- The goal that `_loop_spec_from_json` reads. -/
def goalFromJson (data : Json) : Except SpecError GoalSpec := do
  return {
    objective := ← textItem data "objective"
    scope := ← textItems data "scope"
    constraints := ← textItems data "constraints"
    acceptanceCriteria := ← textItems data "acceptance_criteria"
    permissionCeiling := ← textItem data "permission_ceiling"
    riskLevel := ← textItem data "risk_level"
    owner := ← textItem data "owner"
    resumePolicy := ← textItem data "resume_policy"
    cancelPolicy := ← textItem data "cancel_policy"
    memoryPolicy := ← textItem data "memory_policy"
    metadata := ← requiredDict data "metadata" }

/-- An edge that `_loop_spec_from_json` reads. -/
def transitionFromJson (data : Json) : Except SpecError StateTransition := do
  return {
    source := ← textItem data "source"
    target := ← textItem data "target"
    condition := ← textItem data "condition" }

/-- A step of the ladder that `_loop_spec_from_json` reads. -/
def stepFromJson (data : Json) : Except SpecError VerificationStep := do
  return {
    kind := ← textItem data "kind"
    name := ← textItem data "name"
    required := (← item data "required").truthy
    command := ← textItem data "command"
    evidenceKey := ← textItem data "evidence_key"
    timeout := ← TimeoutPolicy.ofKeywords (← requiredDict data "timeout") }

/-- `_loop_spec_from_json`, on the value that `json.loads` reads from the text. -/
def loopSpecFromJson (data : Json) : Except SpecError LoopSpec := do
  let goalData ← item data "goal"
  let spec : LoopSpec := {
    id := ← textItem data "id"
    goalId := ← textItem data "goal_id"
    goal := ← goalFromJson goalData
    stateGraph := ← (← iterate (← item data "state_graph")).mapM transitionFromJson
    allowedCapabilities := ← textItems data "allowed_capabilities"
    verificationLadder := ← (← iterate (← item data "verification_ladder")).mapM stepFromJson
    workspacePolicy := ← WorkspacePolicy.ofKeywords (← requiredDict data "workspace_policy")
    checkpointPolicy := ← CheckpointPolicy.ofKeywords (← requiredDict data "checkpoint_policy")
    retryPolicy := ← RetryPolicy.ofKeywords (← requiredDict data "retry_policy")
    budgetPolicy := ← BudgetPolicy.ofKeywords (← requiredDict data "budget_policy")
    rollbackPolicy := ← RollbackPolicy.ofKeywords (← requiredDict data "rollback_policy")
    escalationPolicy := ← EscalationPolicy.ofKeywords (← requiredDict data "escalation_policy")
    terminalStates := ← textItems data "terminal_states"
    createdAt := ← readFloat (← item data "created_at") }
  spec.validate
  return spec

/-! ## What has the text of a record is read as that record -/

section

variable {data : Json} {d : Dict} {key : String}

theorem item_of_same (key : String) {w : Json} (h : Json.Same data (.obj d))
    (hw : Dict.get d key = some w) :
    ∃ v, item data key = .ok v ∧ Json.Same v w := by
  obtain ⟨e, rfl⟩ := h.obj
  obtain ⟨v, hv, hsame⟩ := h.get hw
  refine ⟨v, ?_, hsame⟩
  simp only [item, hv]

theorem item_of_scalar {w : Json} (h : Json.Same data (.obj d)) (hw : Dict.get d key = some w)
    (hscalar : w.scalar = true) : item data key = .ok w := by
  obtain ⟨v, hv, hsame⟩ := item_of_same _ h hw
  rw [hv, hsame.eq_of_scalar hscalar]

theorem textItem_of_same {s : String} (h : Json.Same data (.obj d))
    (hs : Dict.get d key = some (.str s)) : textItem data key = .ok s := by
  simp only [textItem, item_of_scalar h hs rfl]
  rfl

theorem items_of_same (key : String) {ws : List Json} (h : Json.Same data (.obj d))
    (hws : Dict.get d key = some (.arr ws)) :
    ∃ v vs, item data key = .ok v ∧ iterate v = .ok vs ∧ List.Forall₂ Json.Same vs ws := by
  obtain ⟨v, hv, hsame⟩ := item_of_same _ h hws
  obtain ⟨vs, rfl, hvs⟩ := hsame.arr
  exact ⟨_, vs, hv, rfl, hvs⟩

theorem map_text_of_same {vs : List Json} {strings : List String}
    (h : List.Forall₂ Json.Same vs (strings.map .str)) : vs.map Json.text = strings := by
  induction strings generalizing vs with
  | nil =>
      cases h
      rfl
  | cons s rest ih =>
      obtain ⟨v, vs, hv, hvs, rfl⟩ := List.forall₂_cons_right_iff.mp h
      rw [List.map_cons, ih hvs, hv.eq_of_scalar rfl]
      rfl

theorem textItems_of_same {strings : List String} (h : Json.Same data (.obj d))
    (hstrings : Dict.get d key = some (texts strings)) :
    textItems data key = .ok strings := by
  obtain ⟨v, vs, hv, hiterate, hvs⟩ := items_of_same _ h hstrings
  unfold textItems
  rw [hv]
  show (do return (← iterate v).map Json.text) = _
  rw [hiterate]
  show Except.ok (vs.map Json.text) = _
  rw [map_text_of_same hvs]

theorem requiredDict_of_same (key : String) {w : Dict} (h : Json.Same data (.obj d))
    (hw : Dict.get d key = some (.obj w)) :
    ∃ v, requiredDict data key = .ok v ∧ Json.Same (.obj v) (.obj w) := by
  obtain ⟨v, hv, hsame⟩ := item_of_same _ h hw
  obtain ⟨e, rfl⟩ := hsame.obj
  refine ⟨e, ?_, hsame⟩
  unfold requiredDict
  rw [hv]
  rfl

end

section

variable {e d : Dict}

theorem bind_keywords {α : Type} {record : String} {fields : List String}
    {rest : Unit → Except SpecError α} (h : Json.Same (.obj e) (.obj d))
    (hfields : d.map Prod.fst = fields) : (keywords record fields e >>= rest) = rest () := by
  have hnone : e.find? (fun argument => argument.1 ∉ fields) = none := by
    rw [List.find?_eq_none]
    intro argument hargument
    simpa [← hfields] using h.mem_keys hargument
  unfold keywords
  rw [hnone]
  rfl

theorem bind_keyword {α β : Type} {read : Json → Option α} {default value : α} {field : String}
    {w : Json} {rest : α → Except SpecError β} (h : Json.Same (.obj e) (.obj d))
    (hw : Dict.get d field = some w) (hscalar : w.scalar = true) (hread : read w = some value) :
    (keyword read default e field >>= rest) = rest value := by
  obtain ⟨v, hv, hsame⟩ := h.get hw
  obtain rfl := hsame.eq_of_scalar hscalar
  unfold keyword
  simp only [hv, hread]
  rfl

theorem readNumber_toJson (n : Number) : readNumber n.toJson = some n := by
  cases n <;> rfl

theorem scalar_toJson (n : Number) : n.toJson.scalar = true := by
  cases n <;> rfl

theorem TimeoutPolicy.ofKeywords_of_same {timeout : TimeoutPolicy}
    (h : Json.Same (.obj e) (.obj timeout.toDict)) : ofKeywords e = .ok timeout := by
  unfold ofKeywords
  refine (bind_keywords h rfl).trans ?_
  refine (bind_keyword h (by rfl) (scalar_toJson _) (readNumber_toJson _)).trans ?_
  repeat refine (bind_keyword h (by rfl) (by rfl) (by rfl)).trans ?_
  rfl

theorem CheckpointPolicy.ofKeywords_of_same {policy : CheckpointPolicy}
    (h : Json.Same (.obj e) (.obj policy.toDict)) : ofKeywords e = .ok policy := by
  unfold ofKeywords
  refine (bind_keywords h rfl).trans ?_
  repeat refine (bind_keyword h (by rfl) (by rfl) (by rfl)).trans ?_
  rfl

theorem WorkspacePolicy.ofKeywords_of_same {policy : WorkspacePolicy}
    (h : Json.Same (.obj e) (.obj policy.toDict)) : ofKeywords e = .ok policy := by
  unfold ofKeywords
  refine (bind_keywords h rfl).trans ?_
  repeat refine (bind_keyword h (by rfl) (by rfl) (by rfl)).trans ?_
  rfl

theorem RetryPolicy.ofKeywords_of_same {policy : RetryPolicy}
    (h : Json.Same (.obj e) (.obj policy.toDict)) : ofKeywords e = .ok policy := by
  unfold ofKeywords
  refine (bind_keywords h rfl).trans ?_
  repeat refine (bind_keyword h (by rfl) (by rfl) (by rfl)).trans ?_
  rfl

theorem BudgetPolicy.ofKeywords_of_same {policy : BudgetPolicy}
    (h : Json.Same (.obj e) (.obj policy.toDict)) : ofKeywords e = .ok policy := by
  unfold ofKeywords
  refine (bind_keywords h rfl).trans ?_
  refine (bind_keyword h (by rfl) (by rfl) (by rfl)).trans ?_
  refine (bind_keyword h (by rfl) (by rfl) (by rfl)).trans ?_
  refine (bind_keyword h (by rfl) (scalar_toJson _) (readNumber_toJson _)).trans ?_
  repeat refine (bind_keyword h (by rfl) (by rfl) (by rfl)).trans ?_
  rfl

theorem RollbackPolicy.ofKeywords_of_same {policy : RollbackPolicy}
    (h : Json.Same (.obj e) (.obj policy.toDict)) : ofKeywords e = .ok policy := by
  unfold ofKeywords
  refine (bind_keywords h rfl).trans ?_
  repeat refine (bind_keyword h (by rfl) (by rfl) (by rfl)).trans ?_
  rfl

theorem EscalationPolicy.ofKeywords_of_same {policy : EscalationPolicy}
    (h : Json.Same (.obj e) (.obj policy.toDict)) : ofKeywords e = .ok policy := by
  unfold ofKeywords
  refine (bind_keywords h rfl).trans ?_
  repeat refine (bind_keyword h (by rfl) (by rfl) (by rfl)).trans ?_
  rfl

end

section

variable {data : Json}

theorem goalFromJson_of_same {goal : GoalSpec} (h : Json.Same data (.obj goal.toDict)) :
    ∃ metadata, Json.Same (.obj metadata) (.obj goal.metadata) ∧
      goalFromJson data = .ok { goal with metadata := metadata } := by
  obtain ⟨metadata, hmetadata, hsame⟩ := requiredDict_of_same "metadata" h (w := goal.metadata) rfl
  refine ⟨metadata, hsame, ?_⟩
  unfold goalFromJson
  refine (bind_of_eq_ok (textItem_of_same h rfl)).trans ?_
  repeat refine (bind_of_eq_ok (textItems_of_same h rfl)).trans ?_
  repeat refine (bind_of_eq_ok (textItem_of_same h rfl)).trans ?_
  refine (bind_of_eq_ok hmetadata).trans ?_
  rfl

theorem transitionFromJson_of_same {edge : StateTransition}
    (h : Json.Same data (.obj edge.toDict)) : transitionFromJson data = .ok edge := by
  unfold transitionFromJson
  repeat refine (bind_of_eq_ok (textItem_of_same h rfl)).trans ?_
  rfl

theorem stepFromJson_of_same {step : VerificationStep}
    (h : Json.Same data (.obj step.toDict)) : stepFromJson data = .ok step := by
  obtain ⟨timeout, htimeout, hsame⟩ := requiredDict_of_same "timeout" h
    (w := step.timeout.toDict) rfl
  unfold stepFromJson
  refine (bind_of_eq_ok (textItem_of_same h rfl)).trans ?_
  refine (bind_of_eq_ok (textItem_of_same h rfl)).trans ?_
  refine (bind_of_eq_ok (item_of_scalar h (w := .bool step.required) rfl rfl)).trans ?_
  refine (bind_of_eq_ok (textItem_of_same h rfl)).trans ?_
  refine (bind_of_eq_ok (textItem_of_same h rfl)).trans ?_
  refine (bind_of_eq_ok htimeout).trans ?_
  refine (bind_of_eq_ok (TimeoutPolicy.ofKeywords_of_same hsame)).trans ?_
  rfl

theorem mapM_of_same {α : Type} {write : α → Json} {read : Json → Except SpecError α}
    (hread : ∀ a v, Json.Same v (write a) → read v = .ok a) {vs : List Json} {records : List α}
    (h : List.Forall₂ Json.Same vs (records.map write)) : vs.mapM read = .ok records := by
  induction records generalizing vs with
  | nil =>
      cases h
      rfl
  | cons a rest ih =>
      obtain ⟨v, vs, hv, hvs, rfl⟩ := List.forall₂_cons_right_iff.mp h
      rw [List.mapM_cons, bind_of_eq_ok (hread a v hv), bind_of_eq_ok (ih hvs)]
      rfl

theorem validate_withMetadata (spec : LoopSpec) (metadata : Dict) :
    { spec with goal := { spec.goal with metadata := metadata } }.validate = spec.validate := rfl

/-- **A specification is read back as it was written.** Whatever has the text of a valid
specification is read as that specification, the keys of its metadata in any order. -/
theorem loopSpecFromJson_of_text (floats : Json.FloatText) (space : List Char) (spec : LoopSpec)
    (hvalid : spec.validate = .ok ()) (data : Json)
    (htext : Json.dumps floats space data = Json.dumps floats space (.obj spec.toDict)) :
    ∃ metadata, Json.Same (.obj metadata) (.obj spec.goal.metadata) ∧
      loopSpecFromJson data
        = .ok { spec with goal := { spec.goal with metadata := metadata } } := by
  have h : Json.Same data (.obj spec.toDict) := Json.dumps_eq_iff.mp htext
  obtain ⟨goalData, hgoalData, hgoalSame⟩ := item_of_same "goal" h rfl
  obtain ⟨metadata, hmetadata, hgoal⟩ := @goalFromJson_of_same _ spec.goal hgoalSame
  refine ⟨metadata, hmetadata, ?_⟩
  obtain ⟨graph, edges, hgraph, hedges, hedgesSame⟩ := items_of_same "state_graph" h rfl
  obtain ⟨ladder, steps, hladder, hsteps, hstepsSame⟩ :=
    items_of_same "verification_ladder" h rfl
  obtain ⟨workspace, hworkspace, hworkspaceSame⟩ :=
    requiredDict_of_same "workspace_policy" h (w := spec.workspacePolicy.toDict) rfl
  obtain ⟨checkpoint, hcheckpoint, hcheckpointSame⟩ :=
    requiredDict_of_same "checkpoint_policy" h (w := spec.checkpointPolicy.toDict) rfl
  obtain ⟨retry, hretry, hretrySame⟩ :=
    requiredDict_of_same "retry_policy" h (w := spec.retryPolicy.toDict) rfl
  obtain ⟨budget, hbudget, hbudgetSame⟩ :=
    requiredDict_of_same "budget_policy" h (w := spec.budgetPolicy.toDict) rfl
  obtain ⟨rollback, hrollback, hrollbackSame⟩ :=
    requiredDict_of_same "rollback_policy" h (w := spec.rollbackPolicy.toDict) rfl
  obtain ⟨escalation, hescalation, hescalationSame⟩ :=
    requiredDict_of_same "escalation_policy" h (w := spec.escalationPolicy.toDict) rfl
  unfold loopSpecFromJson
  refine (bind_of_eq_ok hgoalData).trans ?_
  refine (bind_of_eq_ok (textItem_of_same h rfl)).trans ?_
  refine (bind_of_eq_ok (textItem_of_same h rfl)).trans ?_
  refine (bind_of_eq_ok hgoal).trans ?_
  refine (bind_of_eq_ok hgraph).trans ?_
  refine (bind_of_eq_ok hedges).trans ?_
  refine (bind_of_eq_ok (mapM_of_same (fun _ _ => transitionFromJson_of_same) hedgesSame)).trans ?_
  refine (bind_of_eq_ok (textItems_of_same h rfl)).trans ?_
  refine (bind_of_eq_ok hladder).trans ?_
  refine (bind_of_eq_ok hsteps).trans ?_
  refine (bind_of_eq_ok (mapM_of_same (fun _ _ => stepFromJson_of_same) hstepsSame)).trans ?_
  refine (bind_of_eq_ok hworkspace).trans ?_
  refine (bind_of_eq_ok (WorkspacePolicy.ofKeywords_of_same hworkspaceSame)).trans ?_
  refine (bind_of_eq_ok hcheckpoint).trans ?_
  refine (bind_of_eq_ok (CheckpointPolicy.ofKeywords_of_same hcheckpointSame)).trans ?_
  refine (bind_of_eq_ok hretry).trans ?_
  refine (bind_of_eq_ok (RetryPolicy.ofKeywords_of_same hretrySame)).trans ?_
  refine (bind_of_eq_ok hbudget).trans ?_
  refine (bind_of_eq_ok (BudgetPolicy.ofKeywords_of_same hbudgetSame)).trans ?_
  refine (bind_of_eq_ok hrollback).trans ?_
  refine (bind_of_eq_ok (RollbackPolicy.ofKeywords_of_same hrollbackSame)).trans ?_
  refine (bind_of_eq_ok hescalation).trans ?_
  refine (bind_of_eq_ok (EscalationPolicy.ofKeywords_of_same hescalationSame)).trans ?_
  refine (bind_of_eq_ok (textItems_of_same h rfl)).trans ?_
  refine (bind_of_eq_ok (item_of_scalar h (w := .float spec.createdAt) rfl rfl)).trans ?_
  refine (bind_of_eq_ok (a := spec.createdAt) rfl).trans ?_
  -- the record that was built is checked once more
  exact bind_of_eq_ok ((validate_withMetadata spec metadata).trans hvalid)

end

/-- A specification with an edge, a command and a note. -/
def commandSpec : LoopSpec where
  id := "spec"
  goalId := "goal"
  goal := { objective := "build", scope := ["repo:navi"], metadata := [("note", .str "n")] }
  stateGraph := [⟨"plan", "execute", "plan_ready"⟩]
  allowedCapabilities := ["*"]
  verificationLadder := [{ kind := "command_exit_code", name := "tests", command := "make" }]
  terminalStates := defaultTerminalStates
  createdAt := 1 / 2

theorem loopSpecFromJson_commandSpec :
    ∃ metadata, Json.Same (.obj metadata) (.obj commandSpec.goal.metadata) ∧
      loopSpecFromJson (Json.sortKeys (.obj commandSpec.toDict))
        = .ok { commandSpec with goal := { commandSpec.goal with metadata := metadata } } :=
  loopSpecFromJson_of_text Json.fractionText [' '] commandSpec (by decide +kernel) _
    (Json.dumps_eq_iff.mpr (Json.sortKeys_sortKeys _))

end Navi.Loop.Specification
