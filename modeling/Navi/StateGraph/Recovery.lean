import Navi.Base.JsonText
import Navi.StateGraph.Contracts

/-!
# The recovery ports

What the runner asks after a failure: whether the model may plan again, and the
facts it is told. Each port grants another plan only while attempts are left.
-/

namespace Navi.StateGraph

open Navi.Base Navi.Loop

/-- `_encode_recovery_fact`. -/
def encodeRecoveryFact (floats : Json.FloatText) (factType : String) (facts : Dict) : String :=
  Json.dumps floats [' '] (.obj [("fact_type", .str factType), ("facts", .obj facts)])

def recoveryFacts (floats : Json.FloatText) (factType : String) (facts : Dict) : Dict :=
  [("recovery", .obj facts), ("recovery_fact", .str (encodeRecoveryFact floats factType facts))]

/-- `CapabilityRecoveryPort.recover`. -/
def capabilityRecover (floats : Json.FloatText) (spec : LoopSpec) (state : LoopRunState)
    (executed : ExecutedCapabilityStep) : ReflectionDecision :=
  let retryable : Bool :=
    match executed.facts.get "retryable" with
    | some (.bool false) => false
    | _ => true
  let facts : Dict :=
    [("trigger", .str "capability.failed"), ("reason_code", .str "execution_failed"),
      ("blocked", .bool false), ("failure_domain", .str "executor"),
      ("loop_run_id", .str state.runId), ("attempt", .int state.attempt),
      ("goal_id", .str spec.goalId), ("error_reason", .str executed.errorReason),
      ("retryable", .bool retryable), ("message", .str executed.message),
      ("facts", .obj executed.facts)]
  { replanAllowed := state.attempt < spec.maxAttempts
    reasonCode := if retryable then "execution_failed" else "execution_not_retryable"
    facts := recoveryFacts floats "capability_execution_failed" facts }

/-- `ContractViolationRecoveryPort.recover`, of an exception of this type and
with this message. -/
def contractViolationRecover (floats : Json.FloatText) (spec : LoopSpec) (state : LoopRunState)
    (errorType message domain : String) (failureFacts : Dict) : ReflectionDecision :=
  let violation : Dict :=
    [("error_type", .str errorType), ("error", .str message), ("domain", .str domain)]
      ++ if failureFacts.isEmpty then [] else [("failure_facts", .obj failureFacts)]
  let contract : Dict :=
    [("syscall_count", .str "exactly_one"), ("runtime_executes_one_syscall_per_plan", .bool true),
      ("respond_is_terminal", .bool true)]
  let facts : Dict :=
    [("trigger", .str "runtime.contract_failed"), ("reason_code", .str errorType),
      ("blocked", .bool false), ("failure_domain", .str domain),
      ("loop_run_id", .str state.runId), ("attempt", .int state.attempt),
      ("max_attempts", .int spec.maxAttempts), ("goal_id", .str spec.goalId),
      ("contract_violation", .obj violation), ("contract", .obj contract)]
  { replanAllowed := state.attempt < spec.maxAttempts
    reasonCode := errorType
    facts := recoveryFacts floats "runtime_contract_failed" facts }

/-- `_checker_reason_code`. -/
def checkerReasonCode (report : CheckerReport) : String :=
  let reasons := report.checkerResults.filterMap fun item =>
    item.asDict.map fun result => strip (result.text "reason")
  if report.timedOut then "checker_timed_out"
  else
    match reasons.find? (· ≠ "") with
    | some reason => reason
    | none => if report.blocked then "checker_blocked" else "checker_rejected"

/-- `RecoveryReflectorPort.reflect`. -/
def recoveryReflect (floats : Json.FloatText) (spec : LoopSpec) (state : LoopRunState)
    (report : CheckerReport) (harnessResults : List Dict) : ReflectionDecision :=
  let reasonCode := checkerReasonCode report
  let facts : Dict :=
    [("trigger", .str "loop.check"), ("reason_code", .str reasonCode),
      ("blocked", .bool report.blocked),
      ("failure_domain",
        .str (if report.blocked then "checker_blocked" else "verification_failed")),
      ("loop_run_id", .str state.runId), ("attempt", .int state.attempt),
      ("goal_id", .str spec.goalId), ("checker_report", .obj report.toDict),
      ("harness_results", .arr (harnessResults.map .obj))]
  { replanAllowed := reasonCode ≠ "no_route_available" ∧ state.attempt < spec.maxAttempts
    reasonCode := reasonCode
    facts := recoveryFacts floats "loop_checker_fact" facts }

/-! ## Another plan costs an attempt -/

section

variable {floats : Json.FloatText} {spec : LoopSpec} {state : LoopRunState}

theorem capabilityRecover_replans {executed : ExecutedCapabilityStep}
    (h : (capabilityRecover floats spec state executed).replanAllowed = true) :
    state.attempt < spec.maxAttempts := by
  simpa [capabilityRecover] using h

theorem contractViolationRecover_replans {errorType message domain : String} {failureFacts : Dict}
    (h : (contractViolationRecover floats spec state errorType message domain
      failureFacts).replanAllowed = true) : state.attempt < spec.maxAttempts := by
  simpa [contractViolationRecover] using h

theorem recoveryReflect_replans {report : CheckerReport} {harnessResults : List Dict}
    (h : (recoveryReflect floats spec state report harnessResults).replanAllowed = true) :
    state.attempt < spec.maxAttempts := by
  have hboth : checkerReasonCode report ≠ "no_route_available"
      ∧ state.attempt < spec.maxAttempts := by
    simpa [recoveryReflect] using h
  exact hboth.2

end

end Navi.StateGraph
