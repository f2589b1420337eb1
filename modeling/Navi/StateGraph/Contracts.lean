import Mathlib.Algebra.Order.Ring.Rat
import Navi.Loop.Contracts

/-!
# State graph contracts

The records that pass between the runner, its ports and the run's evidence, and
the pure functions on them.
-/

namespace Navi.StateGraph

open Navi.Base Navi.Loop

/-! ## Resource grants -/

/-- `ResourceDecision`. -/
inductive ResourceDecision where
  | allow
  | pause
  | escalate
  | block
  deriving DecidableEq

/-- `str(decision)`. -/
def ResourceDecision.text : ResourceDecision → String
  | .allow => "allow"
  | .pause => "pause"
  | .escalate => "escalate"
  | .block => "block"

/-- `ResourceGrant`. -/
structure ResourceGrant where
  decision : ResourceDecision
  reason : String
  budgetState : Dict
  retryAfterSeconds : Time
  grantId : String

/-- `ResourceGrant.allowed`. -/
def ResourceGrant.allowed (grant : ResourceGrant) : Bool := grant.decision = .allow

/-- `ResourceGrant.to_dict`. -/
def ResourceGrant.toDict (grant : ResourceGrant) : Dict :=
  [("decision", .str grant.decision.text), ("reason", .str grant.reason),
    ("budget_state", .obj grant.budgetState),
    ("retry_after_seconds", .float grant.retryAfterSeconds), ("grant_id", .str grant.grantId)]

/-! ## Planned steps -/

/-- `PlannedCapabilityStep`. -/
structure PlannedCapabilityStep where
  tool : String
  args : Dict
  permission : String
  reason : String
  usedMemoryIds : List String
  usedEvidenceIds : List String
  memoryActivation : Dict

/-- `PlannedCapabilityStep.to_dict`. -/
def PlannedCapabilityStep.toDict (step : PlannedCapabilityStep) : Dict :=
  [("tool", .str step.tool), ("args", .obj step.args), ("permission", .str step.permission),
    ("reason", .str step.reason), ("used_memory_ids", .arr (step.usedMemoryIds.map .str)),
    ("used_evidence_ids", .arr (step.usedEvidenceIds.map .str)),
    ("memory_activation", .obj step.memoryActivation)]

/-- `tuple(str(item) for item in raw.get(key) or ())`. -/
def textItems (raw : Dict) (key : String) : List String :=
  (((raw.get key).map Json.items).getD []).map Json.text

/-- `_planned_step_from_raw`. -/
def plannedStepFromRaw (raw : Option Json) : Option PlannedCapabilityStep :=
  match raw.bind Json.asDict with
  | some raw =>
      match raw.get "tool", raw.get "args", raw.get "permission" with
      | some (.str tool), some (.obj args), some (.str permission) =>
          if strip tool = "" ∨ strip permission = "" then none
          else
            some
              { tool := strip tool
                args := args
                permission := strip permission
                reason := raw.text "reason"
                usedMemoryIds := textItems raw "used_memory_ids"
                usedEvidenceIds := textItems raw "used_evidence_ids"
                memoryActivation := (raw.sub "memory_activation").getD [] }
      | _, _, _ => none
  | none => none

/-- A step whose tool and permission are not blank and have no white space
around them. -/
structure PlannedCapabilityStep.Normalised (step : PlannedCapabilityStep) : Prop where
  tool : strip step.tool = step.tool
  toolNonblank : step.tool ≠ ""
  permission : strip step.permission = step.permission
  permissionNonblank : step.permission ≠ ""

theorem textItems_of_get {raw : Dict} {key : String} {texts : List String}
    (h : raw.get key = some (.arr (texts.map .str))) : textItems raw key = texts := by
  have hid : (texts.map Json.str).map Json.text = texts := by
    rw [List.map_map]
    exact List.map_id' texts
  simp [textItems, h, hid]

theorem plannedStepFromRaw_toDict {step : PlannedCapabilityStep} (h : step.Normalised) :
    plannedStepFromRaw (some (.obj step.toDict)) = some step := by
  have hmemory : textItems step.toDict "used_memory_ids" = step.usedMemoryIds :=
    textItems_of_get rfl
  have hevidence : textItems step.toDict "used_evidence_ids" = step.usedEvidenceIds :=
    textItems_of_get rfl
  have hreason : step.toDict.text "reason" = step.reason := Dict.text_of_get rfl
  have hactivation : step.toDict.sub "memory_activation" = some step.memoryActivation :=
    Dict.sub_of_get rfl
  have htool : step.toDict.get "tool" = some (.str step.tool) := rfl
  have hargs : step.toDict.get "args" = some (.obj step.args) := rfl
  have hpermission : step.toDict.get "permission" = some (.str step.permission) := rfl
  have hnonblank : ¬ (step.tool = "" ∨ step.permission = "") :=
    not_or.mpr ⟨h.toolNonblank, h.permissionNonblank⟩
  simp only [plannedStepFromRaw, Option.bind_some, Json.asDict_obj, htool, hargs, hpermission,
    h.tool, h.permission, if_neg hnonblank, hreason, hmemory, hevidence, hactivation,
    Option.getD_some]

/-! ## Reports of the other ports -/

/-- `ExecutedCapabilityStep`. -/
structure ExecutedCapabilityStep where
  ok : Bool
  action : String
  facts : Dict
  message : String
  errorReason : String
  terminal : Bool
  yieldsControl : Bool
  deterministicCompletionAuthority : Bool
  mutates : Bool

/-- `ExecutedCapabilityStep.to_dict`. -/
def ExecutedCapabilityStep.toDict (executed : ExecutedCapabilityStep) : Dict :=
  [("ok", .bool executed.ok), ("action", .str executed.action), ("facts", .obj executed.facts),
    ("message", .str executed.message), ("error_reason", .str executed.errorReason),
    ("terminal", .bool executed.terminal), ("yields_control", .bool executed.yieldsControl),
    ("deterministic_completion_authority", .bool executed.deterministicCompletionAuthority),
    ("mutates", .bool executed.mutates)]

/-- `ReflectionDecision`. -/
structure ReflectionDecision where
  replanAllowed : Bool
  reasonCode : String
  facts : Dict

/-- `ReflectionDecision.to_dict`. -/
def ReflectionDecision.toDict (decision : ReflectionDecision) : Dict :=
  [("replan_allowed", .bool decision.replanAllowed), ("reason_code", .str decision.reasonCode),
    ("facts", .obj decision.facts)]

/-- `CheckerReport`. -/
structure CheckerReport where
  accepted : Bool
  blocked : Bool
  timedOut : Bool
  stateHint : String
  checkerResults : List Json
  evidence : Dict

/-- `CheckerReport.to_dict`. -/
def CheckerReport.toDict (report : CheckerReport) : Dict :=
  [("accepted", .bool report.accepted), ("blocked", .bool report.blocked),
    ("timed_out", .bool report.timedOut), ("state_hint", .str report.stateHint),
    ("checker_results", .arr report.checkerResults), ("evidence", .obj report.evidence)]

/-- `SemanticCheckDecision`. -/
structure SemanticCheckDecision where
  passed : Bool
  evidenceSummary : String

/-- `SemanticCheckDecision.to_facts`. -/
def SemanticCheckDecision.toFacts (decision : SemanticCheckDecision) : Dict :=
  [("passed", .bool decision.passed), ("ok", .bool decision.passed),
    ("evidence_summary", .str decision.evidenceSummary), ("evaluator_role", .str "checker"),
    ("isolated_context", .bool true)]

/-- `MergeStatus`. -/
inductive MergeStatus where
  | clean
  | conflicted
  | noOp
  deriving DecidableEq

/-- `str(status)`. -/
def MergeStatus.text : MergeStatus → String
  | .clean => "clean"
  | .conflicted => "conflicted"
  | .noOp => "no_op"

/-- `MergeResult`. -/
structure MergeResult where
  status : MergeStatus
  conflicts : List String
  artifactPath : String

/-- `MergeResult.to_dict`. -/
def MergeResult.toDict (result : MergeResult) : Dict :=
  [("status", .str result.status.text), ("conflicts", .arr (result.conflicts.map .str)),
    ("artifact_path", .str result.artifactPath)]

/-- `LockAcquireResult`. -/
structure LockAcquireResult where
  acquired : Bool
  lock : Dict
  conflicts : List Json

/-- `LockAcquireResult.to_dict`. -/
def LockAcquireResult.toDict (result : LockAcquireResult) : Dict :=
  [("acquired", .bool result.acquired), ("lock", .obj result.lock),
    ("conflicts", .arr result.conflicts)]

/-- `SideEffectSagaResult`. -/
structure SideEffectSagaResult where
  action : String
  ok : Bool
  scope : String
  state : String
  artifact : String
  commit : String
  compensate : String
  commitStrategy : String
  reason : String

/-- `SideEffectSagaResult.to_dict`. -/
def SideEffectSagaResult.toDict (result : SideEffectSagaResult) : Dict :=
  [("action", .str result.action), ("ok", .bool result.ok), ("scope", .str result.scope),
    ("state", .str result.state), ("artifact", .str result.artifact),
    ("commit", .str result.commit), ("compensate", .str result.compensate),
    ("commit_strategy", .str result.commitStrategy), ("reason", .str result.reason)]

/-! ## Provider transport retries -/

/-- The default of `_provider_transport_max_retries`. -/
def providerTransportMaxRetries : Int := 3

/-- The default of `_provider_transport_retry_min_seconds`. -/
def providerTransportRetryMinSeconds : Time := 1

/-- The default of `_provider_transport_retry_max_seconds`. -/
def providerTransportRetryMaxSeconds : Time := 300

/-- What is configured about transport retries. -/
structure TransportRetries where
  maxRetries : Int := providerTransportMaxRetries
  minSeconds : Time := providerTransportRetryMinSeconds
  maxSeconds : Time := providerTransportRetryMaxSeconds

/-- `prior.get("kind") == "provider_transport"` with this model role. -/
def transportGateOf (role : String) (prior : Dict) : Bool :=
  prior.text "kind" = "provider_transport" ∧ prior.text "model_role" = role

/-- `int(value or 0)`, and what counts when there is no such integer. -/
def intOr (default : Int) : Option Json → Int
  | some (.int n) => n
  | some (.float x) => x.num.tdiv x.den
  | some (.bool true) => 1
  | some (.str s) => if s = "" then 0 else s.toInt?.getD default
  | some (.arr (_ :: _)) | some (.obj (_ :: _)) => default
  | _ => 0

/-- A number field, zero when it is no number. -/
def numberOrZero : Option Json → Time
  | some (.int n) => n
  | some (.float x) => x
  | some (.bool true) => 1
  | _ => 0

/-- `_next_provider_transport_retry_gate_for_facts`. -/
def nextProviderTransportRetryGate (retries : TransportRetries) (failureFacts evidence : Dict)
    (modelRole : String) (resumeNode : LoopNode) : Option Dict :=
  if !failureFacts.flag "retryable" then none
  else
    let priorCount : Int :=
      match (evidence.sub "retry_gate").filter (transportGateOf modelRole) with
      | some prior => max 0 (intOr retries.maxRetries (prior.get "retry_count"))
      | none => 0
    if retries.maxRetries ≤ priorCount then none
    else
      let retryAfter := min retries.maxSeconds
        (max retries.minSeconds (numberOrZero (failureFacts.get "retry_after_seconds")))
      some
        [("decision", .str "pause"), ("kind", .str "provider_transport"),
          ("reason", .str "provider_transport_unavailable"), ("model_role", .str modelRole),
          ("retry_after_seconds", .float retryAfter), ("retry_count", .int (priorCount + 1)),
          ("max_retries", .int retries.maxRetries),
          ("resume_node", .str resumeNode.text)]

theorem nextProviderTransportRetryGate_spec {retries : TransportRetries}
    {failureFacts evidence gate : Dict} {modelRole : String} {resumeNode : LoopNode}
    (h : nextProviderTransportRetryGate retries failureFacts evidence modelRole resumeNode
      = some gate) :
    gate.text "decision" = "pause" ∧ gate.text "resume_node" = resumeNode.text := by
  unfold nextProviderTransportRetryGate at h
  split at h
  · cases h
  · dsimp only at h
    split_ifs at h
    · obtain rfl := Option.some.inj h
      exact ⟨Dict.text_of_get rfl, Dict.text_of_get rfl⟩

/-- The dictionaries of a list field. -/
def dictItems (evidence : Dict) (key : String) : List Dict :=
  (((evidence.get key).map Json.items).getD []).filterMap Json.asDict

/-- The last `n` elements. -/
def lastOf {α : Type} (n : Nat) (xs : List α) : List α := xs.drop (xs.length - n)

/-- `_clear_provider_transport_retry_gate`. -/
def clearProviderTransportRetryGate (evidence : Dict) (modelRole : String) : Dict :=
  match (evidence.sub "retry_gate").filter (transportGateOf modelRole) with
  | none => evidence
  | some prior =>
      let recovered := prior.merge [("outcome", .str "recovered")]
      let history := dictItems evidence "provider_transport_retry_history" ++ [recovered]
      (evidence.put "provider_transport_retry_history"
        (.arr ((lastOf 10 history).map .obj))).put "retry_gate" .null

/-- `_provider_transport_retry_clearance_evidence`. -/
def providerTransportRetryClearanceEvidence (evidence : Dict) : Dict :=
  match evidence.get "retry_gate" with
  | some .null =>
      [("retry_gate", .null),
        ("provider_transport_retry_history",
          .arr (((evidence.get "provider_transport_retry_history").map Json.items).getD []))]
  | _ => []

/-- What clearance evidence may be: nothing, or a cleared gate with its history. -/
inductive Clearance : Dict → Prop where
  | nothing : Clearance []
  | cleared (history : Json) :
      Clearance [("retry_gate", .null), ("provider_transport_retry_history", history)]

theorem clearance_evidence (evidence : Dict) :
    Clearance (providerTransportRetryClearanceEvidence evidence) := by
  unfold providerTransportRetryClearanceEvidence
  split
  · exact .cleared _
  · exact .nothing

/-! ## Other readings of the collected evidence -/

/-- `_transition_side_effect`, of an executor record. -/
def transitionSideEffect (executor : Dict) : Dict :=
  match executor.sub "facts" with
  | none => []
  | some facts =>
      let keys := ["side_effect_scope", "side_effect_state", "side_effect_artifact",
        "side_effect_commit", "side_effect_compensate"]
      let explicit : Bool := keys.any (fun key => (facts.get key).isSome)
        || executor.text "action" = "connector_outbound"
      let scope := facts.text "side_effect_scope"
      let state := if (facts.flag "side_effect_state") then facts.text "side_effect_state"
        else facts.text "state_transition"
      let artifact := if facts.flag "side_effect_artifact" then facts.text "side_effect_artifact"
        else facts.text "outbound_path"
      if !explicit then []
      else if scope = "" ∧ state = "" ∧ artifact = "" then []
      else
        [("scope", .str scope), ("state", .str state), ("artifact", .str artifact),
          ("action", .str (executor.text "action")),
          ("commit", .str (facts.text "side_effect_commit")),
          ("compensate", .str (facts.text "side_effect_compensate")),
          ("commit_strategy", .str (facts.text "side_effect_commit_strategy"))]

/-- `_side_effect_from_collected_evidence`. -/
def sideEffectFromCollectedEvidence (evidence : Dict) : Dict :=
  match evidence.sub "capability_result" with
  | none => []
  | some capabilityResult => transitionSideEffect capabilityResult

/-- `_step_runs_command`. -/
def stepRunsCommand (step : VerificationStep) : Bool :=
  strip step.command ≠ "" ∧ (step.kind = .unitTest ∨ step.kind = .integrationTest
    ∨ step.kind = .commandExitCode)

/-- The planner's name of a capability, and whether it returns facts only. -/
structure PlannerSpec where
  name : String
  factsOnly : Bool

/-- `_surface_response_required`. -/
def surfaceResponseRequired (spec : LoopSpec) (plannerSpecs : List PlannerSpec) : Bool :=
  let available := plannerSpecs.any fun item => !item.factsOnly
    && (spec.allowedCapabilities.contains "*" || spec.allowedCapabilities.contains item.name)
  let delivery := (((spec.metadata.sub "task_context").getD []).sub "delivery").getD []
  available && (spec.metadata.text "loop_kind" = "turn"
    || delivery.text "stage" = "post_semantic_acceptance_outbox"
    || (spec.metadata.text "source" ≠ "" && spec.metadata.text "execution_mode" = "foreground"))

/-- `_has_surface_result`. -/
def hasSurfaceResult (evidence : Dict) : Bool :=
  if strip (evidence.text "responded_message") ≠ "" then true
  else
    match (evidence.sub "capability_result").bind fun result => result.sub "facts" with
    | some facts => (facts.sub "connector_delivery").isSome
    | none => false

end Navi.StateGraph
