import Navi.StateGraph.Runner

/-!
# The deterministic checker

`DeterministicChecker`: a verification ladder, judged by the facts under the evidence keys of its
steps and by nothing else.
-/

namespace Navi.StateGraph

open Navi.Base Navi.Loop

/-! ## Results of steps -/

/-- `LoopSeverity`, as far as the checker uses it. -/
inductive LoopSeverity where
  | info
  | error

/-- `str(severity)`. -/
def LoopSeverity.text : LoopSeverity → String
  | .info => "info"
  | .error => "error"

/-- `LoopCheckResult`. -/
structure LoopCheckResult where
  name : String
  passed : Bool
  severity : LoopSeverity
  reason : String
  evidence : Dict

/-- `LoopCheckResult.to_dict`. -/
def LoopCheckResult.toDict (result : LoopCheckResult) : Dict :=
  [("name", .str result.name), ("passed", .bool result.passed),
    ("severity", .str result.severity.text), ("reason", .str result.reason),
    ("evidence", .obj result.evidence)]

/-- `str(kind)`. -/
def kindText : VerificationKind → String
  | .schema => "schema"
  | .static => "static"
  | .unitTest => "unit_test"
  | .integrationTest => "integration_test"
  | .commandExitCode => "command_exit_code"
  | .artifactInspection => "artifact_inspection"
  | .llmChecker => "llm_checker"
  | .humanApproval => "human_approval"

/-- `type(value).__name__`. -/
def typeName : Json → String
  | .null => "NoneType"
  | .bool _ => "bool"
  | .int _ => "int"
  | .float _ => "float"
  | .str _ => "str"
  | .arr _ => "list"
  | .obj _ => "dict"

/-- `_step_is_command_like`. -/
def stepIsCommandLike (step : VerificationStep) : Bool :=
  step.kind = .unitTest ∨ step.kind = .integrationTest ∨ step.kind = .commandExitCode

/-- `_checker_fact`. -/
def checkerFact (facts : Dict) : Dict := (facts.sub "checker_fact").getD []

/-- `exit_code == 0`, of whatever is there. -/
def isZero : Option Json → Bool
  | some (.int n) => n = 0
  | some (.float x) => x = 0
  | some (.bool b) => !b
  | _ => false

/-- Whether the facts of a command say that it timed out. -/
def commandTimedOut (facts : Dict) : Bool :=
  facts.flag "timed_out" || decide ((checkerFact facts).get "error_type"
    = some (.str "TimeoutError"))

def commandPassed (facts : Dict) : Bool := isZero (facts.get "exit_code") && !commandTimedOut facts

/-- The severity of a step that passed, or did not. -/
def severityOf (passed : Bool) : LoopSeverity := if passed then .info else .error

/-- `_evaluate_command_step`. -/
def evaluateCommandStep (step : VerificationStep) (facts : Dict) : LoopCheckResult where
  name := step.name
  passed := commandPassed facts
  severity := severityOf (commandPassed facts)
  reason :=
    if commandTimedOut facts then "command_timed_out"
    else if commandPassed facts then "exit_code_zero" else "exit_code_nonzero"
  evidence :=
    [("evidence_key", .str step.key), ("kind", .str (kindText step.kind)),
      ("exit_code", (facts.get "exit_code").getD .null),
      ("timed_out", .bool (commandTimedOut facts)),
      ("error_type", ((checkerFact facts).get "error_type").getD (.str ""))]

/-- What a step that is no command goes by: `passed` where it is there, else `ok`. -/
def factPassed (facts : Dict) : Bool :=
  facts.flag (if (facts.get "passed").isSome then "passed" else "ok")

/-- `_evaluate_boolean_step`. -/
def evaluateBooleanStep (step : VerificationStep) (facts : Dict) : LoopCheckResult where
  name := step.name
  passed := factPassed facts
  severity := severityOf (factPassed facts)
  reason :=
    if factPassed facts then "fact_passed"
    else if step.kind = .llmChecker then "semantic_check_failed" else "fact_failed"
  evidence :=
    [("evidence_key", .str step.key), ("kind", .str (kindText step.kind)),
      ("evidence_summary", .str (facts.text "evidence_summary")),
      ("evaluator_role", .str (facts.text "evaluator_role")),
      ("isolated_context", .bool (facts.flag "isolated_context"))]

def missingEvidence (step : VerificationStep) : LoopCheckResult where
  name := step.name
  passed := !step.required
  severity := if step.required then .error else .info
  reason := if step.required then "evidence_missing" else "optional_evidence_missing"
  evidence := [("evidence_key", .str step.key)]

/-- `_evaluate_step`. -/
def evaluateStep (evidence : Dict) (step : VerificationStep) : LoopCheckResult :=
  match evidence.get step.key with
  | none | some .null => missingEvidence step
  | some (.obj facts) =>
      if stepIsCommandLike step then evaluateCommandStep step facts
      else evaluateBooleanStep step facts
  | some other =>
      { name := step.name, passed := false, severity := .error, reason := "evidence_not_object"
        evidence := [("evidence_key", .str step.key), ("type", .str (typeName other))] }

/-! ## The ladder -/

/-- The required steps that failed, as `evaluate` collects them. -/
def failedRequired (ladder : List VerificationStep) (evidence : Dict) : List LoopCheckResult :=
  ((ladder.zip (ladder.map (evaluateStep evidence))).filter fun checked =>
    checked.1.required && !checked.2.passed).map (·.2)

/-- Whether a result says that its step timed out. -/
def LoopCheckResult.timedOut (result : LoopCheckResult) : Bool :=
  decide (result.evidence.get "timed_out" = some (.bool true))
    || decide (result.evidence.get "error_type" = some (.str "TimeoutError"))

/-- The body of `DeterministicChecker.evaluate`. -/
def evaluateLadder (ladder : List VerificationStep) (evidence : Dict) : CheckerReport :=
  let failed := failedRequired ladder evidence
  let accepted := failed.isEmpty
  let timedOut := failed.any (·.timedOut)
  let blocked := failed.any fun result =>
    result.reason = "evidence_missing" ∨ result.reason = "no_route_available"
  { accepted := accepted
    blocked := blocked
    timedOut := timedOut
    stateHint :=
      if accepted then LoopTerminalState.converged.text
      else if timedOut then LoopTerminalState.timedOut.text
      else if blocked then LoopTerminalState.blocked.text else ""
    checkerResults := (ladder.map (evaluateStep evidence)).map fun result => .obj result.toDict
    evidence := [("required_failed", .int failed.length)] }

/-- `DeterministicChecker.evaluate`, where `spec.validate()` raises this error, if any. -/
def deterministicChecker (specError : Option String) :
    Answer → LoopSpec → Dict → Except String CheckerReport :=
  fun _ spec evidence =>
    match specError with
    | some error => .error error
    | none => .ok (evaluateLadder spec.verificationLadder evidence)

theorem evaluateLadder_accepted {ladder : List VerificationStep} {evidence : Dict} :
    (evaluateLadder ladder evidence).accepted = true
      ↔ ∀ step ∈ ladder, step.required = true → (evaluateStep evidence step).passed = true := by
  have hfailed : failedRequired ladder evidence = [] ↔ ∀ step ∈ ladder,
      step.required = true → (evaluateStep evidence step).passed = true := by
    unfold failedRequired
    induction ladder with
    | nil => simp
    | cons step rest ih =>
        rw [List.map_cons, List.zip_cons_cons, List.filter_cons, List.forall_mem_cons, ← ih]
        cases step.required <;> cases (evaluateStep evidence step).passed <;> simp
  rw [← hfailed]
  exact List.isEmpty_iff

theorem evaluateStep_command {evidence facts : Dict} {step : VerificationStep}
    (hruns : stepRunsCommand step = true) (h : evidence.get step.key = some (.obj facts)) :
    (evaluateStep evidence step).passed = commandPassed facts := by
  have hlike : stepIsCommandLike step = true := by
    unfold stepRunsCommand at hruns
    exact decide_eq_true (of_decide_eq_true hruns).2
  simp only [evaluateStep, h, hlike, if_true]
  rfl

theorem evaluateStep_semantic {evidence facts : Dict} {step : VerificationStep} {passed : Bool}
    (hkind : step.kind = .llmChecker) (h : evidence.get step.key = some (.obj facts))
    (hpassed : facts.get "passed" = some (.bool passed)) :
    (evaluateStep evidence step).passed = passed := by
  have hlike : stepIsCommandLike step = false := by
    unfold stepIsCommandLike
    simp [hkind]
  simp only [evaluateStep, h, hlike]
  show factPassed facts = passed
  simp [factPassed, hpassed, Dict.flag, Json.truthy]

end Navi.StateGraph
