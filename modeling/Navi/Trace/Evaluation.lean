import Mathlib.Data.List.Sort
import Navi.Base.Dict

/-!
# The evaluation of a trace

The events of a trace, the summary of a loop decision, and the rules that are asked one
after another what the trace comes to. A rule that answers writes what it found into the
evidence; one that does not leaves it as it is.
-/

namespace Navi.Trace

open Navi.Base

/-! ## Events and decisions -/

/-- `TraceEvent`, as far as its evaluation reads it, with `output_json` read as an object. -/
structure TraceEvent where
  id : String
  runId : String
  phase : String
  tool : String
  modelRole : String
  ok : Bool
  output : Dict
  message : String

/-- `TraceOutcome`. -/
inductive TraceOutcome where
  | success
  | degraded
  | failure
  | unknown
  deriving DecidableEq

/-- `TraceFailureDomain`. -/
inductive TraceFailureDomain where
  | capabilityFailure
  | checkerBlocked
  | loopNoProgress
  | missingCompletionCheck
  | misunderstanding
  | none
  | plannerOrParser
  | providerNoResponse
  | runtime
  | safeguardPolicy
  | traceMissing
  deriving DecidableEq

/-- The texts of `TraceFailureDomain`. -/
def TraceFailureDomain.text : TraceFailureDomain → String
  | .capabilityFailure => "capability_failure"
  | .checkerBlocked => "checker_blocked"
  | .loopNoProgress => "loop_no_progress"
  | .missingCompletionCheck => "missing_completion_check"
  | .misunderstanding => "misunderstanding"
  | .none => "none"
  | .plannerOrParser => "planner_or_parser"
  | .providerNoResponse => "provider_no_response"
  | .runtime => "runtime"
  | .safeguardPolicy => "safeguard_policy"
  | .traceMissing => "trace_missing"

/-- `TRACE_FAILURE_DOMAIN_VALUES`. -/
def failureDomains : List TraceFailureDomain :=
  [.capabilityFailure, .checkerBlocked, .loopNoProgress, .missingCompletionCheck,
    .misunderstanding, .none, .plannerOrParser, .providerNoResponse, .runtime, .safeguardPolicy,
    .traceMissing]

/-- `trace_failure_domain` of a key, with `none` for the empty text. -/
def traceFailureDomain (output : Dict) (key : String) : Option TraceFailureDomain :=
  failureDomains.find? fun domain => domain.text = strip (output.text key)

/-- `failed_loop_result_names` of a key. -/
def failedLoopResultNames (output : Dict) (key : String) : List String :=
  match output.get key with
  | some (.arr items) => items.filterMap fun item =>
      match item with
      | .obj result =>
          if Dict.get result "passed" = some (.bool false)
              ∧ strip (Dict.text result "name") ≠ "" then some (strip (Dict.text result "name"))
          else none
      | _ => none
  | _ => []

/-- `LoopDecisionSummary`. -/
structure LoopDecisionSummary where
  decision : String
  reason : String
  phase : String
  failureDomain : Option TraceFailureDomain
  tool : String
  runId : String
  stepId : String
  failedCheckers : List String
  failedGates : List String

/-- `loop_decision_summary`. -/
def loopDecisionSummary (output : Dict) (eventTool eventRunId : String) : LoopDecisionSummary where
  decision := output.text "decision"
  reason := output.text "reason"
  phase := output.text "phase"
  failureDomain := traceFailureDomain output "failure_domain"
  tool := if eventTool = "" then output.text "tool" else eventTool
  runId := if eventRunId = "" then output.text "run_id" else eventRunId
  stepId := output.text "step_id"
  failedCheckers := failedLoopResultNames output "checker_results"
  failedGates := failedLoopResultNames output "gate_results"

/-- `LoopDecisionSummary.to_dict`. -/
def LoopDecisionSummary.toDict (summary : LoopDecisionSummary) : Dict :=
  [("decision", .str summary.decision), ("reason", .str summary.reason),
    ("phase", .str summary.phase),
    ("failure_domain", .str ((summary.failureDomain.map (·.text)).getD "")),
    ("tool", .str summary.tool), ("run_id", .str summary.runId), ("step_id", .str summary.stepId),
    ("failed_checkers", .arr (summary.failedCheckers.map .str)),
    ("failed_gates", .arr (summary.failedGates.map .str))]

/-- `classify_loop_failure`. -/
def classifyLoopFailure (output : Dict) : TraceFailureDomain :=
  let summary := loopDecisionSummary output "" ""
  let failed := summary.failedCheckers ++ summary.failedGates
  match summary.failureDomain with
  | some .none | none =>
      if "planner_result" ∈ failed then .plannerOrParser
      else if "capability_result" ∈ failed then .capabilityFailure
      else if "completion_checker" ∈ failed then .checkerBlocked
      else .runtime
  | some domain => domain

/-- `classify_loop_blocked`. -/
def classifyLoopBlocked (output : Dict) : TraceFailureDomain :=
  let summary := loopDecisionSummary output "" ""
  if summary.reason = "external_pause" then .none
  else match summary.failureDomain with
    | some .none | none =>
        if "no_progress_gate" ∈ summary.failedGates then .loopNoProgress else .checkerBlocked
    | some domain => domain

/-- `_event_facts`. -/
def TraceEvent.facts (event : TraceEvent) : Dict := (event.output.sub "facts").getD []

/-- A decision with the output it was read from. -/
abbrev DecisionItem := LoopDecisionSummary × Dict

/-- `loop_decision_summary` of an event. -/
def TraceEvent.decision (event : TraceEvent) : DecisionItem :=
  (loopDecisionSummary event.output event.tool event.runId, event.output)

/-- `_loop_decision_events`, each with its summary. -/
def loopDecisions (events : List TraceEvent) : List DecisionItem :=
  (events.filter fun event => event.phase = "loop.decision" ∧ event.output ≠ []).map (·.decision)

/-- `_base_trace_evidence`. -/
def baseTraceEvidence (events : List TraceEvent) : Dict :=
  let roleEvents := events.filter (·.phase = "agent.role_result")
  let decisions := loopDecisions events
  [("event_count", .int events.length)]
    ++ (if roleEvents = [] then []
      else [("agent_role_results", .arr (roleEvents.map fun event =>
        .obj [("model_role", .str event.modelRole), ("message", .str event.message)]))])
    ++ (if decisions = [] then []
      else [("loop_decisions", .arr (decisions.map fun item => .obj item.1.toDict))])

/-! ## Facts about a trace -/

/-- `_first_failure`. -/
def firstFailure (events : List TraceEvent) : Option TraceEvent := events.find? (!·.ok)

/-- `_capability_result_has_safeguard_decision`. -/
def hasSafeguardDecision (event : TraceEvent) : Bool := (event.facts.sub "hook_decision").isSome

/-- `_capability_result_is_input_schema_mismatch`. -/
def isInputSchemaMismatch (event : TraceEvent) : Bool :=
  match event.output.sub "facts" with
  | some facts => facts.get "error_reason" = some (.str "schema_mismatch")
      ∧ facts.get "result_action" = none
  | none => false

/-- `_trace_contains_approval_request`. -/
def containsApprovalRequest (events : List TraceEvent) : Bool :=
  events.any fun event => event.phase = "capability.result" ∧
    ((event.facts.text "entity_type" = "approval_request" ∧ (event.facts.sub "approval").isSome)
      ∨ (event.facts.sub "pending_approval").isSome
      ∨ (event.facts.sub "current_approval").isSome
      ∨ ((event.facts.sub "approval").isSome
        ∧ event.facts.text "entity_type" ∈ ["approval", "approval_request"]))

/-- `_trace_contains_user_ask`. -/
def containsUserAsk (events : List TraceEvent) : Bool :=
  events.any fun event => event.phase = "capability.result" ∧ event.ok = true ∧
    (event.tool = "ask.user"
      ∨ (event.output.text "action" = "ask" ∧ event.tool ∈ ["respond", "ask.user"]))

/-- `_planner_call_started_without_result`. -/
def startedWithoutResult (events : List TraceEvent) : Bool :=
  events.any (·.phase = "planner.call.start") ∧
    ¬ events.any (·.phase ∈ ["planner.syscall", "planner.call.error", "turn.final"])

/-- `_entity_id_from_facts`. -/
def entityIdFromFacts (facts : Dict) : String :=
  ((["entity_id", "goal_id", "run_id", "loop_run_id", "approval_id", "session_id", "memory_id",
    "trace_id", "delivery_id"].map facts.text).find? (· ≠ "")).getD ""

/-- `_single_entity_mutation_refs`. -/
def singleEntityMutationRefs (facts : Dict) (collection : String) : List String :=
  let transition := facts.text "state_transition"
  let declared := facts.text "entity_type"
  let entityType :=
    if declared ≠ "" then declared else if collection ≠ "" then collection else "entity"
  let entityId := entityIdFromFacts facts
  if transition = "" ∨ transition = "state_read" ∨ entityId = "" then []
  else [entityType ++ ":" ++ entityId ++ ":" ++ transition]

/-- `_entity_mutation_refs`. -/
def entityMutationRefs (facts : Dict) : List String :=
  singleEntityMutationRefs facts "" ++ facts.flatMap fun entry =>
    entry.2.items.flatMap fun item =>
      match item with
      | .obj nested => singleEntityMutationRefs nested entry.1
      | _ => []

/-- The entities that successful capability results have mutated, once for each time. -/
def mutationRefs (events : List TraceEvent) : List String :=
  (events.filter fun event => event.phase = "capability.result" ∧ event.ok = true
    ∧ event.output.get "mutates" = some (.bool true)).flatMap fun event =>
      entityMutationRefs event.facts

/-- Those that were mutated more than once. -/
def duplicateRefs (events : List TraceEvent) : List String :=
  (mutationRefs events).dedup.filter fun ref => 1 < (mutationRefs events).count ref

/-! ## The rules -/

/-- `TraceEvaluationDraft`. -/
structure TraceEvaluationDraft where
  outcome : TraceOutcome
  failureDomain : TraceFailureDomain
  deriving DecidableEq

/-- What a rule answers, with the evidence it leaves. -/
abbrev Evaluated := TraceEvaluationDraft × Dict

/-- `_evaluation`. -/
def evaluation (outcome : TraceOutcome) (failureDomain : TraceFailureDomain) (evidence : Dict)
    (rule : String) : Evaluated :=
  (⟨outcome, failureDomain⟩, evidence.put "evaluation_rule" (.str rule))

/-- `_record_first_failure_evidence`. -/
def firstFailureEvidence (failure : TraceEvent) (evidence : Dict) : Dict :=
  (evidence.put "first_failure_phase" (.str failure.phase)).put
    "first_failure_tool" (.str failure.tool)

/-- Whether a decision ends a trace that had failed: `_successful_completion_after` of one. -/
def LoopDecisionSummary.completes (summary : LoopDecisionSummary) : Bool :=
  summary.decision ∈ ["finalize", "converged"]
    ∧ summary.failureDomain ∈ [none, some .none]
    ∧ summary.failedCheckers = [] ∧ summary.failedGates = []
    ∧ summary.reason ∈ ["completion_evidence_true", "terminal_result"]

/-- `_successful_completion_after`. -/
def successfulCompletionAfter (events : List TraceEvent) (failure : TraceEvent) :
    Option LoopDecisionSummary :=
  let later := (events.dropWhile (·.id ≠ failure.id)).filter (·.id ≠ failure.id)
  ((later.filter fun event => event.phase = "loop.decision" ∧ event.ok = true
    ∧ event.output ≠ []).map (·.decision.1)).find? (·.completes)

/-- `_record_recovery_evidence`. -/
def recoveryEvidence (recovery : LoopDecisionSummary) (evidence : Dict) : Dict :=
  (evidence.put "recovered_after_first_failure" (.bool true)).put
    "recovery_decision" (.obj recovery.toDict)

/-- A failure that is degraded to where a later decision completes. -/
def recoveredOr (events : List TraceEvent) (failure : TraceEvent) (domain : TraceFailureDomain)
    (evidence : Dict) (recovered failed : String) : Evaluated :=
  match successfulCompletionAfter events failure with
  | some recovery => evaluation .degraded domain (recoveryEvidence recovery evidence) recovered
  | none => evaluation .failure domain evidence failed

/-- `_duplicate_entity_mutation_rule`. -/
def duplicateEntityMutationRule (events : List TraceEvent) (evidence : Dict) : Option Evaluated :=
  if duplicateRefs events = [] then none
  else some (evaluation .degraded .loopNoProgress
    (evidence.put "duplicate_mutation" (.obj [("refs", .obj ((duplicateRefs events).map fun ref =>
      (ref, .int ((mutationRefs events).count ref))))]))
    "duplicate_entity_mutation")

/-- `_failed_loop_decision_rule`. -/
def failedLoopDecisionRule (item : DecisionItem) (events : List TraceEvent) (evidence : Dict) :
    Option Evaluated :=
  if item.1.decision ≠ "failed" then none
  else
    let domain := classifyLoopFailure item.2
    let mismatch := (firstFailure events).any isInputSchemaMismatch
    if domain = .capabilityFailure ∧ mismatch = true then
      some (evaluation .failure .plannerOrParser
        (evidence.put "failure_domain_corrected_from"
          (.str TraceFailureDomain.capabilityFailure.text))
        "loop_failure_domain_corrected_by_input_schema")
    else some (evaluation .failure domain evidence "loop_decision_failed")

/-- `_blocked_loop_decision_rule`. -/
def blockedLoopDecisionRule (item : DecisionItem) (_ : List TraceEvent) (evidence : Dict) :
    Option Evaluated :=
  if item.1.decision = "blocked" then
    some (evaluation .failure (classifyLoopBlocked item.2) evidence "loop_decision_blocked")
  else none

/-- `_waiting_approval_loop_decision_rule`. -/
def waitingApprovalLoopDecisionRule (item : DecisionItem) (events : List TraceEvent)
    (evidence : Dict) : Option Evaluated :=
  if item.1.reason ≠ "approval_required" then none
  else if ¬ containsApprovalRequest events ∧ containsUserAsk events then
    some (evaluation .degraded .safeguardPolicy
      (evidence.put "ordinary_ask_recorded_as_approval_gate" (.bool true))
      "ordinary_ask_recorded_as_approval_gate")
  else some (evaluation .success .none
    ((evidence.put "pending_external_gate" (.bool true)).put "completion_evidence" (.bool false))
    "loop_decision_waiting_approval")

/-- `_external_pause_loop_decision_rule`. -/
def externalPauseLoopDecisionRule (item : DecisionItem) (_ : List TraceEvent) (evidence : Dict) :
    Option Evaluated :=
  if item.1.reason ≠ "external_pause" then none
  else some (evaluation .success .none
    ((evidence.put "pending_external_action" (.bool true)).put "completion_evidence" (.bool false))
    "loop_decision_external_pause")

/-- Whether a decision names a failed check or gate, or a failure domain. -/
def LoopDecisionSummary.hasIssue (summary : LoopDecisionSummary) : Bool :=
  summary.failedCheckers ≠ [] ∨ summary.failedGates ≠ []
    ∨ summary.failureDomain ∉ [none, some .none]

/-- `_converged_loop_decision_rule`. -/
def convergedLoopDecisionRule (item : DecisionItem) (events : List TraceEvent) (evidence : Dict) :
    Option Evaluated :=
  if item.1.decision ≠ "converged" then none
  else if (firstFailure events).isSome ∧ item.1.hasIssue = false then none
  else if item.1.hasIssue = false then
    some (evaluation .success .none evidence "loop_decision_converged")
  else some (evaluation .degraded (item.1.failureDomain.getD .loopNoProgress) evidence
    "loop_decision_converged_with_issue")

/-- `LOOP_DECISION_EVALUATION_RULES`. -/
def loopDecisionEvaluationRules :
    List (DecisionItem → List TraceEvent → Dict → Option Evaluated) :=
  [failedLoopDecisionRule, waitingApprovalLoopDecisionRule, externalPauseLoopDecisionRule,
    blockedLoopDecisionRule, convergedLoopDecisionRule]

/-- `_loop_decision_rule`: each classifier is asked about every decision, the newest first. -/
def loopDecisionRule (events : List TraceEvent) (evidence : Dict) : Option Evaluated :=
  loopDecisionEvaluationRules.findSome? fun classifier =>
    (loopDecisions events).reverse.findSome? fun item => classifier item events evidence

/-- `_planner_failure_rule`. -/
def plannerFailureRule (events : List TraceEvent) (evidence : Dict) : Option Evaluated :=
  match firstFailure events with
  | none => none
  | some failure =>
      if failure.phase ∈ ["planner.call.error", "planner.syscall", "planner.parse_error"] then
        some (recoveredOr events failure .plannerOrParser (firstFailureEvidence failure evidence)
          "planner_failed_then_recovered" "planner_failed_event")
      else none

/-- `_first_failure_rule`. -/
def firstFailureRule (phase : String) (domain : TraceFailureDomain) (rule : String)
    (predicate : TraceEvent → Bool) (events : List TraceEvent) (evidence : Dict) :
    Option Evaluated :=
  match firstFailure events with
  | none => none
  | some failure =>
      if failure.phase = phase ∧ predicate failure = true then
        some (evaluation .failure domain (firstFailureEvidence failure evidence) rule)
      else none

/-- `_safeguard_failure_rule`. -/
def safeguardFailureRule : List TraceEvent → Dict → Option Evaluated :=
  firstFailureRule "capability.result" .safeguardPolicy "safeguard_hook_decision"
    hasSafeguardDecision

/-- `_capability_failure_rule`. -/
def capabilityFailureRule (events : List TraceEvent) (evidence : Dict) : Option Evaluated :=
  match firstFailure events with
  | none => none
  | some failure =>
      if failure.phase = "capability.result" then
        if isInputSchemaMismatch failure then
          some (recoveredOr events failure .plannerOrParser (firstFailureEvidence failure evidence)
            "capability_input_schema_mismatch_then_recovered" "capability_input_schema_mismatch")
        else some (recoveredOr events failure .capabilityFailure
          (firstFailureEvidence failure evidence)
          "capability_failed_then_recovered" "capability_failed_event")
      else none

/-- What `_checker_failure_rule` records of the first recovery plan. -/
def recoveryPlanEvidence (plan : Option TraceEvent) (evidence : Dict) : Dict :=
  let evidence := evidence.put "recovery_plan_recorded" (.bool plan.isSome)
  match plan with
  | none => evidence
  | some event =>
      let blocked := ((event.output.get "blocked").map Json.truthy).getD true
      let evidence := evidence.put "recovery_blocked" (.bool blocked)
      match event.output.sub "details" with
      | some details => evidence.put "recovery_detail_keys"
          (.arr (((details.map Prod.fst).insertionSort (· ≤ ·)).map .str))
      | none => evidence

/-- `_checker_failure_rule`. -/
def checkerFailureRule (events : List TraceEvent) (evidence : Dict) : Option Evaluated :=
  match firstFailure events with
  | none => none
  | some failure =>
      if failure.phase = "loop.check" then
        let plan := events.find? (·.phase = "loop.recovery")
        some (evaluation .failure .checkerBlocked
          (recoveryPlanEvidence plan (firstFailureEvidence failure evidence))
          (if plan.isSome then "checker_failed_after_recovery_plan"
            else "checker_failed_without_recovery_plan"))
      else none

/-- `_runtime_failure_rule`. -/
def runtimeFailureRule (events : List TraceEvent) (evidence : Dict) : Option Evaluated :=
  (firstFailure events).map fun failure =>
    evaluation .failure .runtime (firstFailureEvidence failure evidence) "runtime_failed_event"

/-- `_planner_no_response_rule`. -/
def plannerNoResponseRule (events : List TraceEvent) (evidence : Dict) : Option Evaluated :=
  if startedWithoutResult events then
    some (evaluation .failure .providerNoResponse
      (evidence.put "planner_call_without_result" (.bool true)) "planner_call_without_result")
  else none

/-- `_missing_trace_rule`. -/
def missingTraceRule (events : List TraceEvent) (evidence : Dict) : Option Evaluated :=
  if events = [] then some (evaluation .unknown .traceMissing evidence "trace_missing") else none

/-- `TRACE_EVALUATION_RULES`. -/
def traceEvaluationRules : List (List TraceEvent → Dict → Option Evaluated) :=
  [duplicateEntityMutationRule, loopDecisionRule, plannerFailureRule, safeguardFailureRule,
    capabilityFailureRule, checkerFailureRule, runtimeFailureRule, plannerNoResponseRule,
    missingTraceRule]

/-- `_evaluate_trace_with_rules`. -/
def evaluateTraceWithRules (events : List TraceEvent) (evidence : Dict) : Evaluated :=
  (traceEvaluationRules.findSome? fun rule => rule events evidence).getD
    (evaluation .success .none evidence "no_failed_or_degraded_rule")

/-- The `limit` of `list_events`. -/
def eventLimit : Nat := 5000

/-- What `evaluate_trace` records of a trace with these events: `list_events` returns the
oldest of them. -/
def evaluateTrace (recorded : List TraceEvent) : Evaluated :=
  let events := recorded.take eventLimit
  evaluateTraceWithRules events (baseTraceEvidence events)

end Navi.Trace
