import Navi.Base.Triple
import Navi.Loop.Approvals
import Navi.StateGraph.Recovery

/-!
# The runner

`DurableStateGraphRunner`, on one loop and as its only driver. Every operation
outside the runner's own code (a port, the gateway, the harness, a store call,
a look at the lease heartbeat) takes the next answer of the world's list, so a
run is a function of the answers, and a list that ends is a process that dies
before its next operation. The world keeps a log of what the runner did, newest
first; nothing reads it. Traces, grant releases, lock releases and the discarding
of shadow workspaces change nothing here and are left out.
-/

namespace Navi.StateGraph

open Navi.Base Navi.Loop

/-! ## What is logged -/

inductive Stop where
  | yielded (executed : ExecutedCapabilityStep) (progressSignature : String)
  | resourceGrant (grant : ResourceGrant)
  | lockConflict (lock : LockAcquireResult)
  | plannerTransportRetry (errorType : String) (failureFacts gate : Dict)
  | checkerTransportRetry (failureFacts gate executor : Dict)
  | sideEffectCommit (result : SideEffectSagaResult)

inductive Reopening where
  | forResume
  | resourcePause
  | retryablePause
  | approvalWait (approvalId : String) (status : ApprovalStatus)
  deriving DecidableEq

inductive Observation where
  | planned (step : PlannedCapabilityStep)
  | evaluating (run : LoopRunState)
  | ranCommand (step : VerificationStep) (result : Dict)
  | checked (step : VerificationStep) (capabilityResult : Dict) (decision : SemanticCheckDecision)
  | completed (step : VerificationStep) (capabilityResult : Dict)
  | judged (report : CheckerReport)
  | merged (result : MergeResult)
  | sideEffectsCommitted (result : SideEffectSagaResult)

/-- What happens to a loop. The row is the one before the event. -/
inductive Event where
  | started (cell : LoopCell) (evidence : Dict)
  | executing (run : LoopRunState) (step : PlannedCapabilityStep)
  | parking (run : LoopRunState) (stop : Stop)
  | committed (run : LoopRunState) (request : TransitionRequest) (next : LoopRunState)
  | refused (run : LoopRunState) (request : TransitionRequest) (error : StoreError)
  | reopened (by_ : Reopening) (run next : LoopRunState)
  | pausedExternally (run next : LoopRunState)
  | observed (what : Observation)

/-! ## The world of a run -/

inductive Err where
  | store (error : StoreError)
  | semanticCheckerCall (failureFacts : Dict) (cause : String)
  | other (message : String)

inductive Halt where
  | raised (error : Err)
  | died

/-- What `planner_port.plan` raises: `ResourceLimitError`, one of the provider
errors with its `provider_failure_facts`, or anything else. -/
inductive PlannerError where
  | resourceLimit (grant : ResourceGrant)
  | failure (errorType message : String) (failureFacts : Dict)
  | other (message : String)

/-- What one operation finds. Each operation reads the fields it is about. -/
structure Answer where
  now : Time
  checkpointId : String
  leaseRenewalError : Bool
  grant : ResourceGrant
  planned : Except PlannerError PlannedCapabilityStep
  executed : Except String ExecutedCapabilityStep
  decision : ReflectionDecision
  assessed : Except (Dict × String) SemanticCheckDecision
  report : Except String CheckerReport
  lock : Except String LockAcquireResult
  shadow : Except String Dict
  harness : Except String Dict
  merged : Except String MergeResult
  sideEffect : Except String SideEffectSagaResult
  harnessResults : List Dict := []

/-- What the runner changes: the loop's rows, the evidence the call collects,
`_pending_transition_evidence` and `_lease_claimed`. -/
structure World where
  cell : LoopCell
  collected : Dict
  pending : Dict
  leaseClaimed : Bool
  answers : List Answer
  log : List Event

abbrev Drive := EStateM Halt World

/-- What decides whether the model may plan again: after a planner failure, a
failed step, and a rejected evaluation. -/
structure RecoveryPorts where
  contractViolation : Answer → LoopSpec → LoopRunState → String → String → Dict →
    ReflectionDecision
  capability : Answer → LoopSpec → LoopRunState → ExecutedCapabilityStep → ReflectionDecision
  reflector : Answer → LoopSpec → LoopRunState → CheckerReport → ReflectionDecision

/-- Ports that are handed to the runner: they decide as the world answers. -/
def RecoveryPorts.given : RecoveryPorts where
  contractViolation answer _ _ _ _ _ := answer.decision
  capability answer _ _ _ := answer.decision
  reflector answer _ _ _ := answer.decision

/-- The ports of a runner that is handed none. -/
def RecoveryPorts.own (floats : Json.FloatText) : RecoveryPorts where
  contractViolation _ spec state errorType message failureFacts :=
    contractViolationRecover floats spec state errorType message "planner" failureFacts
  capability _ spec state executed := capabilityRecover floats spec state executed
  reflector answer spec state report :=
    recoveryReflect floats spec state report answer.harnessResults

/-- What the runner is constructed with. `specError` is what `spec.validate()`
raises, if anything. -/
structure Runner where
  spec : LoopSpec
  specError : Option String
  executionOwner : String
  plannerSpecs : List PlannerSpec
  hasSemanticChecker : Bool
  progressSignature : PlannedCapabilityStep → ExecutedCapabilityStep → String
  recovery : RecoveryPorts := .given
  checker : Answer → LoopSpec → Dict → Except String CheckerReport :=
    fun answer _ _ => answer.report
  transportRetries : TransportRetries := {}

/-- A call returns its result, or goes on in its next phase. -/
inductive Next (α : Type) where
  | result (state : LoopRunState)
  | goOn (value : α)

def raise {α : Type} (error : Err) : Drive α := throw (.raised error)

def ask : Drive Answer := do
  let world ← get
  match world.answers with
  | [] => throw .died
  | answer :: rest =>
      set { world with answers := rest }
      return answer

def askPort {α : Type} (port : Answer → Except String α) : Drive α := do
  let answer ← ask
  match port answer with
  | .ok value => return value
  | .error error => raise (.other error)

def note (event : Event) : Drive Unit :=
  modify fun world => { world with log := event :: world.log }

def observe (what : Observation) : Drive Unit := note (.observed what)

def collect (change : Dict → Dict) : Drive Unit :=
  modify fun world => { world with collected := change world.collected }

def collected : Drive Dict := do return (← get).collected

/-! ## Store operations -/

/-- `store.write_checkpoint`. -/
def writeCheckpoint (node : LoopNode) (inputs : Dict) : Drive String := do
  let answer ← ask
  modify fun world =>
    { world with
      cell := Loop.writeCheckpoint world.cell answer.checkpointId node inputs answer.now }
  return answer.checkpointId

/-- `store.transition`. -/
def storeTransition (request : TransitionRequest) : Drive LoopRunState := do
  let answer ← ask
  let world ← get
  match Loop.transition world.cell request answer.now with
  | .ok cell =>
      set { world with
        cell := cell, log := .committed world.cell.run request cell.run :: world.log }
      return cell.run
  | .error error =>
      note (.refused world.cell.run request error)
      raise (.store error)

/-- `if self._lease_renewal_error is not None: raise`. -/
def checkLeaseRenewal : Drive Unit := do
  let answer ← ask
  if answer.leaseRenewalError then
    raise (.store (.runtimeError "loop execution lease could not be renewed by this driver"))
  else return ()

/-- The text of a stop state, empty when there is none. -/
def terminalStateText : Option LoopTerminalState → String
  | some terminal => terminal.text
  | none => ""

/-- `_transition`. -/
def transition (r : Runner) (state : LoopRunState) (node : LoopNode) (condition : String)
    (terminalState : Option LoopTerminalState) (evidence : Dict) : Drive LoopRunState := do
  checkLeaseRenewal
  let checkpointId ← writeCheckpoint state.node
    [("target_node", .str node.text), ("condition", .str condition),
      ("terminal_state", .str (terminalStateText terminalState))]
  let world ← get
  let transitioned ← storeTransition
    { node := node
      terminalState := terminalState
      condition := condition
      evidence := world.pending.merge evidence
      checkpointId := checkpointId
      leaseOwner := r.executionOwner }
  modify fun world => { world with pending := [] }
  return transitioned

/-! ## Parking a loop -/

/-- The actions that yield to the user or to a connector. -/
def yieldsToPause (action : String) : Bool := action = "ask" ∨ action = "connector_outbound"

def Stop.node : Stop → LoopNode
  | .yielded executed _ => if yieldsToPause executed.action then .pause else .escalate
  | .resourceGrant grant => if grant.decision = .pause then .pause else .escalate
  | .lockConflict _ | .plannerTransportRetry _ _ _ | .checkerTransportRetry _ _ _ => .pause
  | .sideEffectCommit _ => .escalate

def Stop.terminal (stop : Stop) : LoopTerminalState :=
  if stop.node = .pause then .paused else .waitingApproval

/-- The condition of the move to the parking node. -/
def Stop.first : Stop → String
  | .yielded executed _ =>
      if yieldsToPause executed.action then "resource_pause" else "approval_required"
  | .resourceGrant grant =>
      if grant.decision = .pause then "resource_pause" else "resource_escalate"
  | .lockConflict _ | .plannerTransportRetry _ _ _ | .checkerTransportRetry _ _ _ =>
      "resource_pause"
  | .sideEffectCommit _ => "side_effect_commit_required"

/-- The condition of the stop at the parking node. -/
def Stop.second : Stop → String
  | .yielded executed _ =>
      if yieldsToPause executed.action then "resource_or_user_pause" else "approval_required"
  | .resourceGrant grant =>
      if grant.decision = .pause then "resource_or_user_pause" else "resource_escalate"
  | .lockConflict _ | .plannerTransportRetry _ _ _ | .checkerTransportRetry _ _ _ =>
      "resource_or_user_pause"
  | .sideEffectCommit _ => "approval_required"

/-- The evidence of both, for a loop parked from a node. -/
def Stop.evidence (stop : Stop) (node : LoopNode) : Dict :=
  match stop with
  | .yielded executed progressSignature =>
      executed.toDict.merge [("progress_signature", .str progressSignature)]
  | .resourceGrant grant =>
      [("resource_grant", .obj grant.toDict), ("resource_resume_node", .str node.text)]
  | .lockConflict lock =>
      [("workspace_lock", .obj lock.toDict), ("reason", .str "workspace_lock_conflict")]
  | .plannerTransportRetry errorType failureFacts gate =>
      [("error_type", .str errorType), ("failure_facts", .obj failureFacts),
        ("automatic_model_retry", .bool false), ("durable_transport_retry", .bool true),
        ("retry_gate", .obj gate)]
  | .checkerTransportRetry failureFacts gate executor =>
      [("checker_provider_failure", .obj failureFacts), ("automatic_model_retry", .bool false),
        ("durable_transport_retry", .bool true), ("retry_gate", .obj gate),
        ("executor", .obj executor)]
  | .sideEffectCommit result => result.toDict

/-- The two transitions that park a loop, as they stand in
`_stop_for_resource_grant`, `_pause_for_lock_conflict`,
`_pause_for_provider_transport_retry`, `_side_effect_commit_required` and the
loop over `yield_transitions`. -/
def park (r : Runner) (state : LoopRunState) (stop : Stop) : Drive LoopRunState := do
  note (.parking state stop)
  let evidence := stop.evidence state.node
  let moved ← transition r state stop.node stop.first none evidence
  transition r moved stop.node stop.second (some stop.terminal) evidence

/-- `_stop_for_resource_grant`. -/
def stopForResourceGrant (r : Runner) (state : LoopRunState) (grant : ResourceGrant) :
    Drive LoopRunState :=
  if grant.decision = .pause ∨ grant.decision = .escalate then park r state (.resourceGrant grant)
  else
    transition r state state.node "resource_blocked" (some .blocked)
      ((Stop.resourceGrant grant).evidence state.node)

/-- `_gate_or_stop`. -/
def gateOrStop (r : Runner) (state : LoopRunState) : Drive (Next Unit) := do
  let answer ← ask
  if answer.grant.allowed then return .goOn ()
  else return .result (← stopForResourceGrant r state answer.grant)

/-! ## `PLAN` -/

/-- The branch of `_run_async_impl` on a provider failure of the planner. -/
def plannerFailed (r : Runner) (state : LoopRunState) (errorType message : String)
    (failureFacts : Dict) : Drive LoopRunState := do
  let failure : Dict :=
    [("attempt", .int state.attempt), ("error_type", .str errorType), ("error", .str message),
      ("failure_facts", .obj failureFacts)]
  collect fun evidence =>
    let history := (((evidence.get "planner_failure_history").map Json.items).getD [])
      ++ [.obj failure]
    evidence.put "planner_failure_history" (.arr (lastOf 5 history))
  let answer ← ask
  let isTransportFailure : Bool := failureFacts.flag "provider_call_failure"
    && !failureFacts.flag "structured_output_failure"
  let evidence ← collected
  let gate : Option Dict :=
    if isTransportFailure then
      nextProviderTransportRetryGate r.transportRetries failureFacts evidence "planner" .plan
    else none
  match gate with
  | some gate =>
      let stop := Stop.plannerTransportRetry errorType failureFacts gate
      collect fun evidence => evidence.merge (stop.evidence state.node)
      park r state stop
  | none =>
      let retryFacts : Dict :=
        if isTransportFailure then
          let exhausted : Dict :=
            if failureFacts.flag "retryable" then
              [("durable_transport_retry", .bool true), ("transport_retry_exhausted", .bool true)]
            else []
          ("automatic_model_retry", .bool false) :: exhausted
        else []
      let recovered :=
        r.recovery.contractViolation answer r.spec state errorType message failureFacts
      let decision : ReflectionDecision :=
        { recovered with
          replanAllowed := recovered.replanAllowed && !isTransportFailure
          facts := recovered.facts.merge retryFacts }
      collect fun evidence => evidence.put "reflection" (.obj decision.toDict)
      let plannerError : Dict := [("error_type", .str errorType), ("error", .str message)]
      if decision.replanAllowed then
        let reflected ← transition r state .reflect "planner_failed" none plannerError
        transition r reflected .plan "new_route_available" none decision.toDict
      else
        transition r state .plan "planner_failed" (some .failed)
          (plannerError.merge [("reflection", .obj decision.toDict)])

/-- `_run_async_impl` at `PLAN`. -/
def planState (r : Runner) (state : LoopRunState) :
    Drive (Next (LoopRunState × PlannedCapabilityStep)) := do
  match ← gateOrStop r state with
  | .result stopped => return .result stopped
  | .goOn _ =>
      let _ ← writeCheckpoint .plan [("planner_node", .str "start")]
      let answer ← ask
      match answer.planned with
      | .error (.resourceLimit grant) => return .result (← stopForResourceGrant r state grant)
      | .error (.failure errorType message failureFacts) =>
          return .result (← plannerFailed r state errorType message failureFacts)
      | .error (.other message) => raise (.other message)
      | .ok plannedStep =>
          observe (.planned plannedStep)
          collect fun evidence =>
            clearProviderTransportRetryGate
              (evidence.put "planned_capability" (.obj plannedStep.toDict)) "planner"
          let evidence ← collected
          let planned : Dict := [("planned_capability", .obj plannedStep.toDict)]
          let state ← transition r state .execute "plan_ready" none
            (planned.merge (providerTransportRetryClearanceEvidence evidence))
          return .goOn (state, plannedStep)

/-! ## `EXECUTE` -/

def putOrPop (evidence : Dict) (keep : Bool) (key value : String) : Dict :=
  if keep then evidence.put key (.str value) else evidence.pop key

/-- The collected evidence after a step was executed, with its progress
signature as `attempt_history` records it. -/
def executedEvidence (state : LoopRunState) (plannedStep : PlannedCapabilityStep)
    (executed : ExecutedCapabilityStep) (progressSignature : String) (evidence : Dict) : Dict :=
  let hasAsk : Bool := executed.action = "ask" ∧ executed.message ≠ ""
  let hasChat : Bool := executed.action = "chat" ∧ executed.message ≠ ""
  let item : Dict :=
    [("attempt", .int state.attempt), ("tool", .str plannedStep.tool),
      ("args", .obj plannedStep.args), ("ok", .bool executed.ok), ("action", .str executed.action),
      ("facts", .obj executed.facts), ("message", .str executed.message),
      ("error_reason", .str executed.errorReason), ("terminal", .bool executed.terminal),
      ("progress_signature", .str progressSignature)]
  let history := (((evidence.get "attempt_history").map Json.items).getD []) ++ [.obj item]
  let evidence := evidence.put "capability_result" (.obj executed.toDict)
  let evidence := putOrPop evidence hasAsk "responded_message" executed.message
  let evidence := putOrPop evidence hasAsk "responded_action" executed.action
  let evidence := putOrPop evidence hasChat "candidate_response" executed.message
  let evidence := putOrPop evidence hasChat "candidate_response_action" executed.action
  let evidence := evidence.put "attempt_history" (.arr history)
  evidence.put "progress_signature" (.str progressSignature)

theorem executedEvidence_result (state : LoopRunState) (plannedStep : PlannedCapabilityStep)
    (executed : ExecutedCapabilityStep) (progressSignature : String) (evidence : Dict) :
    (executedEvidence state plannedStep executed progressSignature evidence).get
      "capability_result" = some (.obj executed.toDict) := by
  have hkeeps (e : Dict) (keep : Bool) (key value : String) (hkey : key ≠ "capability_result") :
      (putOrPop e keep key value).get "capability_result" = e.get "capability_result" := by
    unfold putOrPop
    split <;> simp [hkey]
  simp [executedEvidence, hkeeps]

/-- `repeated_count`. -/
def repeatedCount (evidence : Dict) (progressSignature : String) : Nat :=
  ((dictItems evidence "attempt_history").filter fun item =>
    item.get "progress_signature" = some (.str progressSignature)).length

/-- `collected_evidence["loop_gate"]`. -/
def loopGate (progressSignature : String) (repeated : Nat) : Dict :=
  [("reason", .str "repeated_progress_signature"), ("progress_signature", .str progressSignature),
    ("repeat_count", .int repeated), ("warning_count", .int (repeated - 2 : Nat))]

/-- The branch on a step that is not there. -/
def missingPlan (r : Runner) (state : LoopRunState) : Drive LoopRunState := do
  let state ← transition r state .reflect "missing_planned_capability" none
    [("reason", .str "execute_without_planned_capability")]
  transition r state .reflect "checker_rejected" (some .failed)
    [("reason", .str "state_graph_resume_missing_plan")]

/-- The branch on a step that failed. -/
def capabilityFailed (r : Runner) (state : LoopRunState) (executed : ExecutedCapabilityStep)
    (progressSignature : String) : Drive LoopRunState := do
  let state ← transition r state .reflect "capability_failed" none
    (executed.toDict.merge [("progress_signature", .str progressSignature)])
  let answer ← ask
  let decision := r.recovery.capability answer r.spec state executed
  collect fun evidence => evidence.put "reflection" (.obj decision.toDict)
  if decision.replanAllowed then
    transition r state .plan "new_route_available" none decision.toDict
  else
    transition r state .reflect "no_route_available" (some .blocked) decision.toDict

def settleExecution (r : Runner) (state : LoopRunState) (plannedStep : PlannedCapabilityStep)
    (executed : ExecutedCapabilityStep) (progressSignature : String) : Drive (Next LoopRunState) :=
  do
    let evidence ← collected
    let repeated := repeatedCount evidence progressSignature
    let loopGate := loopGate progressSignature repeated
    let warned : Bool := 3 ≤ repeated ∧ executed.mutates = false
    collect fun evidence =>
      if warned then evidence.put "loop_gate" (.obj loopGate) else evidence
    if warned ∧ 2 ≤ repeated - 2 then
      Next.result <$> transition r state .execute "repeated_progress_signature" (some .blocked)
        (loopGate.merge [("tool", .str plannedStep.tool)])
    else if executed.yieldsControl then
      Next.result <$> park r state (.yielded executed progressSignature)
    else if !executed.ok then
      Next.result <$> capabilityFailed r state executed progressSignature
    else
      Next.goOn <$> transition r state .evaluate "side_effect_recorded" none
        [("executor", .obj executed.toDict), ("progress_signature", .str progressSignature)]

/-- The branch on a step that is there. -/
def executeStep (r : Runner) (state : LoopRunState) (plannedStep : PlannedCapabilityStep) :
    Drive (Next LoopRunState) := do
  let _ ← writeCheckpoint .execute [("planned_capability", .obj plannedStep.toDict)]
  note (.executing state plannedStep)
  let executed ← askPort (·.executed)
  let progressSignature := r.progressSignature plannedStep executed
  collect (executedEvidence state plannedStep executed progressSignature)
  settleExecution r state plannedStep executed progressSignature

/-- `_run_async_impl` at `EXECUTE`. -/
def executeState (r : Runner) (state : LoopRunState) (planned : Option PlannedCapabilityStep) :
    Drive (Next LoopRunState) := do
  match ← gateOrStop r state with
  | .result stopped => return .result stopped
  | .goOn _ =>
      match planned with
      | none => Next.result <$> missingPlan r state
      | some plannedStep => executeStep r state plannedStep

/-! ## `EVALUATE` -/

/-- The lock on the workspace, where the policy requires one; `key` is where the
evidence keeps it. -/
def acquireWorkspaceLock (r : Runner) (state : LoopRunState) (key : String) :
    Drive (Next Unit) := do
  if r.spec.requireLocks then
    let lock ← askPort (·.lock)
    collect fun evidence => evidence.put key (.obj lock.toDict)
    if lock.acquired then return .goOn ()
    else Next.result <$> park r state (.lockConflict lock)
  else return .goOn ()

/-- The loop over the commands of the verification ladder. -/
def runCommands (r : Runner) (state : LoopRunState) : List VerificationStep → Drive (Next Unit)
  | [] => return .goOn ()
  | step :: rest => do
      if !stepRunsCommand step then
        runCommands r state rest
      else
        match ← gateOrStop r state with
        | .result stopped => return .result stopped
        | .goOn _ =>
            let _ ← writeCheckpoint .evaluate [("verification_step", .str step.name)]
            match ← acquireWorkspaceLock r state "workspace_lock" with
            | .result stopped => return .result stopped
            | .goOn _ =>
                let result ← askPort (·.harness)
                observe (.ranCommand step result)
                collect fun evidence => evidence.put step.key (.obj result)
                runCommands r state rest

/-- The facts of a step that its own capability completed. -/
def deterministicFacts (state : LoopRunState) : Dict :=
  [("passed", .bool true), ("ok", .bool true),
    ("evidence_summary", .str "capability returned objective completion evidence"),
    ("evaluator_role", .str "deterministic_evidence"), ("isolated_context", .bool true),
    ("attempt", .int state.attempt)]

/-- The objective evidence that replaces a semantic check. -/
def objectiveEvidence (spec : LoopSpec) (capabilityResult : Dict) : Bool :=
  let profile := (spec.metadata.sub "execution_profile").getD []
  let facts := (capabilityResult.sub "facts").getD []
  let completed : Bool :=
    match facts.get "completion_evidence" with
    | some (.bool b) => b
    | _ => false
  profile.text "checker_tier" = "objective_evidence" && capabilityResult.flag "ok" && completed
    && capabilityResult.flag "deterministic_completion_authority"

/-- The loop of `_populate_semantic_checker_evidence`. -/
def assessSteps (r : Runner) (state : LoopRunState) (capabilityResult : Dict) :
    List VerificationStep → Drive Unit
  | [] => return ()
  | step :: rest => do
      if step.kind ≠ .llmChecker then
        assessSteps r state capabilityResult rest
      else if objectiveEvidence r.spec capabilityResult then
        observe (.completed step capabilityResult)
        collect fun evidence =>
          (evidence.put step.key (.obj (deterministicFacts state))).put "semantic_checker_result"
            (.obj (deterministicFacts state))
        assessSteps r state capabilityResult rest
      else
        let answer ← ask
        match answer.assessed with
        | .error (failureFacts, cause) => raise (.semanticCheckerCall failureFacts cause)
        | .ok decision =>
            observe (.checked step capabilityResult decision)
            let facts := decision.toFacts.merge [("attempt", .int state.attempt)]
            collect fun evidence =>
              (evidence.put step.key (.obj facts)).put "semantic_checker_result" (.obj facts)
            assessSteps r state capabilityResult rest

/-- `_populate_semantic_checker_evidence`. -/
def populateSemanticCheckerEvidence (r : Runner) (state : LoopRunState) : Drive Unit := do
  let evidence ← collected
  let capabilityResult : Option Dict :=
    if r.hasSemanticChecker then evidence.sub "capability_result" else none
  match capabilityResult with
  | none => return ()
  | some capabilityResult => assessSteps r state capabilityResult r.spec.verificationLadder

/-- `_commit_side_effects`. -/
def commitSideEffects : Drive (Option SideEffectSagaResult) := do
  let evidence ← collected
  if (sideEffectFromCollectedEvidence evidence).isEmpty then return none
  else
    let result ← askPort (·.sideEffect)
    observe (.sideEffectsCommitted result)
    collect fun evidence => evidence.put "side_effect_commit_result" (.obj result.toDict)
    return some result

/-- `_compensate_side_effects`. -/
def compensateSideEffects : Drive Unit := do
  let evidence ← collected
  if (sideEffectFromCollectedEvidence evidence).isEmpty then return ()
  else
    let result ← askPort (·.sideEffect)
    collect fun evidence =>
      let results := (((evidence.get "side_effect_compensation_results").map Json.items).getD [])
        ++ [.obj result.toDict]
      evidence.put "side_effect_compensation_results" (.arr results)

/-- `_reflect_state`. -/
def reflectState (r : Runner) (state : LoopRunState) (report : CheckerReport) :
    Drive LoopRunState := do
  compensateSideEffects
  let reflected ← transition r state .reflect "checker_failed" none report.toDict
  let answer ← ask
  let decision := r.recovery.reflector answer r.spec reflected report
  collect fun evidence => evidence.put "reflection" (.obj decision.toDict)
  if decision.replanAllowed then
    transition r reflected .plan "new_route_available" none decision.toDict
  else if report.blocked then
    transition r reflected .reflect "no_route_available" (some .blocked) decision.toDict
  else
    transition r reflected .reflect "checker_rejected" (some .failed) decision.toDict

/-- A candidate response that the checker accepted becomes the response. -/
def acceptResponse (evidence : Dict) : Dict :=
  let response := evidence.text "candidate_response"
  let action := evidence.text "candidate_response_action"
  let evidence := (evidence.pop "candidate_response").pop "candidate_response_action"
  if response = "" then evidence
  else
    (evidence.put "responded_message" (.str response)).put "responded_action"
      (.str (if action = "" then "chat" else action))

/-- `collected_evidence["surface_response"]`. -/
def surfaceResponse : Dict :=
  [("required", .bool true), ("verified_work_complete", .bool true),
    ("authority", .str "semantic_checker"), ("presentation_missing", .bool true),
    ("completed_effect_replay_prohibited", .bool true)]

/-- What `checker_passed` adds to the report. -/
def convergedEvidence : Dict :=
  [("reason_code", .str ""), ("reason", .str ""), ("repeat_count", .int 0),
    ("replan_allowed", .bool false), ("facts", .obj [])]

/-- The merge of a shadow workspace back into its workspace. -/
def mergeShadow (r : Runner) (state : LoopRunState) : Drive (Next Unit) := do
  if r.spec.workspaceMode = .shadow then
    match ← acquireWorkspaceLock r state "merge_workspace_lock" with
    | .result stopped => return .result stopped
    | .goOn _ =>
        let merged ← askPort (·.merged)
        observe (.merged merged)
        collect fun evidence => evidence.put "merge_result" (.obj merged.toDict)
        if merged.status = .conflicted then
          compensateSideEffects
          Next.result <$> transition r state .evaluate "merge_conflict" (some .conflicted)
            merged.toDict
        else return .goOn ()
  else return .goOn ()

/-- The commit of the staged side effects and the stop that follows it. -/
def convergeState (r : Runner) (state : LoopRunState) (report : CheckerReport) :
    Drive LoopRunState := do
  match (← commitSideEffects).filter (fun result => !result.ok) with
  | some result => park r state (.sideEffectCommit result)
  | none =>
      transition r state .evaluate "checker_passed" (some .converged)
        (report.toDict.merge convergedEvidence)

/-- The branch of `_evaluate_state` on an accepted report. -/
def acceptedState (r : Runner) (state : LoopRunState) (report : CheckerReport) :
    Drive LoopRunState := do
  collect acceptResponse
  let evidence ← collected
  let isTerminal := ((evidence.sub "capability_result").getD []).flag "terminal"
  if surfaceResponseRequired r.spec r.plannerSpecs && !hasSurfaceResult evidence
      && !isTerminal && state.attempt < r.spec.maxAttempts then
    collect fun evidence => evidence.put "surface_response" (.obj surfaceResponse)
    transition r state .plan "continue_iteration" none
      [("reason", .str "verified_facts_require_user_facing_result"),
        ("attempt", .int state.attempt)]
  else
    match ← mergeShadow r state with
    | .result stopped => return stopped
    | .goOn _ => convergeState r state report

/-- `_evaluate_state`, from the semantic check on. -/
def judgeState (r : Runner) (state : LoopRunState) : Drive LoopRunState := do
  populateSemanticCheckerEvidence r state
  collect fun evidence => clearProviderTransportRetryGate evidence "checker"
  modify fun world =>
    { world with
      pending := world.pending.merge (providerTransportRetryClearanceEvidence world.collected) }
  let evidence ← collected
  let report ← askPort fun answer => r.checker answer r.spec evidence
  observe (.judged report)
  if report.accepted then
    acceptedState r state report
  else if report.timedOut then
    compensateSideEffects
    transition r state .evaluate "hard_timeout" (some .timedOut) report.toDict
  else
    reflectState r state report

/-- `_evaluate_state`. -/
def evaluateState (r : Runner) (state : LoopRunState) : Drive LoopRunState := do
  observe (.evaluating state)
  match ← gateOrStop r state with
  | .result stopped => return stopped
  | .goOn _ =>
      match ← runCommands r state r.spec.verificationLadder with
      | .result stopped => return stopped
      | .goOn _ => judgeState r state

/-- The branch of `_run_async_impl` on a `SemanticCheckerCallError`. -/
def checkerCallFailed (r : Runner) (state : LoopRunState) (failureFacts : Dict) (cause : String) :
    Drive LoopRunState := do
  let evidence ← collected
  if !failureFacts.flag "provider_call_failure" then
    raise (.other cause)
  else
    match nextProviderTransportRetryGate r.transportRetries failureFacts evidence "checker"
        .evaluate with
    | some gate =>
        let executor := (evidence.sub "capability_result").getD []
        let stop := Stop.checkerTransportRetry failureFacts gate executor
        collect fun evidence => evidence.merge (stop.evidence state.node)
        park r state stop
    | none =>
        let hadGate := evidence.flag "retry_gate"
        let failure : Dict :=
          [("checker_provider_failure", .obj failureFacts), ("automatic_model_retry", .bool false),
            ("durable_transport_retry", .bool hadGate),
            ("transport_retry_exhausted", .bool (failureFacts.flag "retryable" && hadGate))]
        collect fun evidence => evidence.merge failure
        let reflected ← transition r state .reflect "checker_failed" none failure
        transition r reflected .reflect "checker_rejected" (some .failed) failure

/-- `_run_async_impl` at `EVALUATE`. -/
def evaluateOrRetry (r : Runner) (state : LoopRunState) : Drive LoopRunState :=
  tryCatch (evaluateState r state) fun halt =>
    match halt with
    | .raised (.semanticCheckerCall failureFacts cause) =>
        checkerCallFailed r state failureFacts cause
    | halt => throw halt

/-! ## The runner's loop -/

/-- `_planned_step_from_checkpoint`. -/
def plannedStepFromCheckpoint (cell : LoopCell) : Option PlannedCapabilityStep :=
  match latestCheckpoint cell .execute "planned_capability" with
  | some checkpoint => plannedStepFromRaw (checkpoint.inputs.get "planned_capability")
  | none => none

/-- The planned step a call starts with. -/
def startingStep (cell : LoopCell) (evidence : Dict) : Option PlannedCapabilityStep :=
  if cell.run.node = .execute then
    (plannedStepFromCheckpoint cell).or (plannedStepFromRaw (evidence.get "planned_capability"))
  else none

def executionLeaseSeconds (spec : LoopSpec) : Time :=
  max 900 ((spec.verificationLadder.map (·.timeoutSeconds)).foldl max 0 + 60)

/-- The claim of `_run_async_impl`, once for a run. -/
def claimOnce (r : Runner) : Drive Unit := do
  let world ← get
  if world.leaseClaimed then return ()
  else
    let answer ← ask
    let world ← get
    match claimForExecution world.cell r.executionOwner (executionLeaseSeconds r.spec) answer.now
        false with
    | none =>
        raise (.store (.runtimeError "loop run is already claimed by another execution driver"))
    | some cell => set { world with cell := cell, leaseClaimed := true }

/-- The shadow workspace of a call, where the policy has one. -/
def createShadow (r : Runner) : Drive Unit := do
  if r.spec.workspaceMode = .shadow then
    let shadow ← askPort (·.shadow)
    collect fun evidence => evidence.put "shadow_workspace" (.obj shadow)
  else return ()

/-- The phase `PLAN`, when the call starts there. -/
def planPhase (r : Runner) (state : LoopRunState) (planned : Option PlannedCapabilityStep) :
    Drive (Next (LoopRunState × Option PlannedCapabilityStep)) := do
  if state.node = .plan then
    match ← planState r state with
    | .result result => return .result result
    | .goOn (state, plannedStep) => return .goOn (state, some plannedStep)
  else return .goOn (state, planned)

/-- The phase `EVALUATE`, when the loop is there. -/
def evaluatePhase (r : Runner) (state : LoopRunState) : Drive LoopRunState :=
  if state.node = .evaluate then evaluateOrRetry r state else return state

/-- The phases from `EXECUTE` on. -/
def actPhases (r : Runner) (state : LoopRunState) (planned : Option PlannedCapabilityStep) :
    Drive LoopRunState := do
  if state.node = .execute then
    match ← executeState r state planned with
    | .result result => return result
    | .goOn state => evaluatePhase r state
  else evaluatePhase r state

/-- `_run_async_impl`, from its claim on. -/
def runPhases (r : Runner) (evidence : Dict) : Drive LoopRunState := do
  let world ← get
  note (.started world.cell evidence)
  collect fun _ => evidence
  createShadow r
  match ← planPhase r world.cell.run (startingStep world.cell evidence) with
  | .result result => return result
  | .goOn (state, planned) => actPhases r state planned

/-- `_run_async_impl`. -/
def runAsyncImpl (r : Runner) (evidence : Dict) : Drive LoopRunState := do
  match r.specError with
  | some error => raise (.other error)
  | none =>
      let _ ← ask
      let world ← get
      if world.cell.run.isStopped then
        collect fun _ => evidence
        return world.cell.run
      else
        claimOnce r
        runPhases r evidence

/-- `run_async`, for at most this many calls of `_run_async_impl`. -/
def runLoop (r : Runner) : Nat → Dict → Drive LoopRunState
  | 0, _ => throw .died
  | calls + 1, evidence => do
      let state ← runAsyncImpl r evidence
      checkLeaseRenewal
      if state.node ≠ .plan ∨ state.isStopped then return state
      else
        let evidence ← collected
        runLoop r calls evidence

/-- The world a `run_async` call starts in. -/
def startWorld (cell : LoopCell) (log : List Event) (answers : List Answer) : World where
  cell := cell
  collected := []
  pending := []
  leaseClaimed := false
  answers := answers
  log := log

/-- The loop's rows and the log after a `run_async` call, however it ended. -/
def runAsync (r : Runner) (cell : LoopCell) (log : List Event) (calls : Nat) (evidence : Dict)
    (answers : List Answer) : LoopCell × List Event :=
  match runLoop r calls evidence (startWorld cell log answers) with
  | .ok _ world => (world.cell, world.log)
  | .error _ world => (world.cell, world.log)

end Navi.StateGraph
