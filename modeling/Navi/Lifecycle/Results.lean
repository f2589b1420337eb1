import Navi.Lifecycle.Saga
import Navi.StateGraph.Resume

/-!
# Results and resumes

`apply_state_graph_result`, `fail_state_graph_execution` and
`resume_goal_loop_run` on the rows of one run. A fault says before which durable
write the call stops; whether it raises there or its process dies makes no
difference to the rows, except inside the application of a saga. Traces, case
precipitation and the release of grants are left out.
-/

namespace Navi.Lifecycle

open Navi.Base Navi.Loop
open Navi.StateGraph (Answer Err ResumeRequest QueueTick Runner graphEvidence plainAnswers
  plainExecution plainLoop plainRunner queueClaim queueResume reopenToResume runLoop startWorld)

/-! ## The rows -/

/-- What a result delivery writes of a `DeliveryItem`. -/
structure ResultItem where
  id : String
  runId : String
  goalId : String
  channel : String
  peerId : String
  body : String
  createdAt : Time

/-- The stores of one run, with the Goal's connector and the delivery outbox. -/
structure ResultStores extends Stores where
  source : String
  peerId : String
  outbox : Table String ResultItem (·.id)

/-! ## The projection of a result -/

/-- What `apply_state_graph_result` reads of a `StateGraphRunResult`. -/
structure GraphResult where
  runState : LoopRunState
  evidence : Dict
  checkerReport : Dict

/-- `_surface_message_from_result`. -/
def surfaceMessage (result : GraphResult) : String :=
  strip (result.evidence.text "responded_message")

/-- The keyword arguments a projection passes to `update_run`. -/
def projectedUpdates (phase : Phase) (governance : Option Governance) (acceptance : Acceptance)
    (resolution : Resolution) (resultSummary error : String) : RunUpdates where
  phase := some phase
  governance := governance
  acceptance := some acceptance
  resolution := some resolution
  planSummary := none
  resultSummary := some resultSummary
  error := some error
  trustRuleId := none
  autonomyLevel := none

/-- `_run_updates_for_loop`; `existing` is the Run's result summary. -/
def runUpdatesForLoop (existing : String) (result : GraphResult) : RunUpdates :=
  let message := surfaceMessage result
  let kept := if existing = "" then message else existing
  match result.runState.terminalState with
  | some .converged => projectedUpdates .ended (some .none) .accepted .success message ""
  | some .paused => projectedUpdates .paused none .unverified .blocked kept ""
  | some .waitingApproval =>
      projectedUpdates .paused (some .awaitingApproval) .unverified .blocked kept ""
  | some .conflicted =>
      projectedUpdates .paused (some .awaitingApproval) .unverified .blocked message
        "loop_conflicted"
  | some .blocked => projectedUpdates .ended (some .none) .rejected .blocked message "loop_blocked"
  | some .timedOut =>
      projectedUpdates .ended (some .none) .rejected .failed message "loop_timed_out"
  | some .cancelled =>
      projectedUpdates .ended (some .none) .rejected .canceled message "loop_cancelled"
  | some .superseded =>
      projectedUpdates .ended (some .none) .rejected .canceled message "loop_superseded"
  | some .failed => projectedUpdates .ended (some .none) .rejected .failed message "loop_failed"
  | none => projectedUpdates .running none .unverified .blocked message ""

/-- The projection of a converged result whose delivery is pending. -/
def deliveryPendingUpdates : RunUpdates :=
  projectedUpdates .paused (some .none) .unverified .none "" ""

/-- `background_delivery_pending`. -/
def backgroundDeliveryPending (s : ResultStores) (result : GraphResult)
    (persistResultDelivery : Option Bool) : Bool :=
  let deliveryRequired := persistResultDelivery.getD
    (result.runState.evidence.text "execution_mode" = "background")
  result.runState.terminalState = some .converged ∧ deliveryRequired ∧ surfaceMessage result ≠ ""
    ∧ s.source ≠ "" ∧ s.peerId ≠ ""

/-- `merged_evidence`. -/
def resultEvidence (result : GraphResult) (evidence : Dict) (deliveryPending : Bool) : Dict :=
  let merged := Dict.merge
    [("loop_run_id", .str result.runState.runId),
      ("loop_terminal_state", .str (terminalText result.runState)),
      ("checker_report", .obj result.checkerReport)] evidence
  if deliveryPending then merged.put "delivery_status" (.str "pending") else merged

/-- The operation key of a loop result. -/
def resultKey (loop : LoopRunState) : String :=
  "loop-result:" ++ loop.runId ++ ":" ++ toString loop.version ++ ":" ++ terminalText loop

def resultSaga (s : ResultStores) (result : GraphResult) (evidence : Dict)
    (deliveryPending : Bool) (now : Time) : LifecycleSaga :=
  let updates :=
    if deliveryPending then deliveryPendingUpdates else runUpdatesForLoop s.run.resultSummary result
  newSaga (resultKey result.runState) s.run.id s.goal.id updates
    (resultEvidence result evidence deliveryPending) none now

/-! ## The outbox -/

/-- `_stable_batch_id`, of a name that is not empty. -/
def stableBatchId (value : String) : String := String.ofList ((strip value).toList.take 240)

def resultItem (s : ResultStores) (body : String) (now : Time) : ResultItem where
  id := stableBatchId ("goal:" ++ s.run.id) ++ ":text"
  runId := strip s.run.id
  goalId := strip s.goal.id
  channel := strip (if strip s.source = "" then s.source else strip s.source)
  peerId := strip s.peerId
  body := strip body
  createdAt := now

/-- `record_result_delivery_outbox`, for a Goal with a connector and a body that is
not empty; `none` when it raises. -/
def recordResultDeliveryOutbox (s : ResultStores) (body : String) (now : Time) :
    Option ResultStores :=
  if s.outbox.rows.any fun item => item.runId = s.run.id then some s
  else
    let item := resultItem s body now
    if item.channel = "" ∨ item.peerId = "" then none
    else
      match s.outbox.get? item.id with
      | some found => if found.body = item.body then some s else none
      | none => some { s with outbox := s.outbox.insertOrIgnore item }

/-! ## The receipt -/

/-- `record_delivery`. The loops that carry the message are left out. -/
def recordDelivery (s : ResultStores) (receipt : Dict) (textPreview : String) (now : Time) :
    ResultStores :=
  let kept := if s.run.resultSummary = "" then textPreview else s.run.resultSummary
  let run := mergeRunUpdates s.run
    (projectedUpdates .ended (some .none) .accepted .success kept "") now
  { s with
    run := run
    goal :=
      updateForRun s.goal run (Dict.merge [("state_transition", .str "delivered")] receipt) now }

/-! ## Applying a result -/

/-- Where `apply_state_graph_result` stops: before its saga is prepared, in the
application of the saga, or before the result is enqueued. -/
inductive ResultFault where
  | prepare
  | apply (fault : Fault)
  | enqueue

/-- The fault of the saga's application. -/
def ResultFault.applying : Option ResultFault → Option Fault
  | some (.apply fault) => some fault
  | _ => none

/-- Prepare a saga and apply the row that has its key, as far as the fault lets it. -/
def prepareAndApply (s : Stores) (saga : LifecycleSaga) (fault : Option Fault) (now : Time) :
    Stores × Applied :=
  let s := prepare s saga
  match s.sagas.get? saga.operationKey with
  | none => (s, .raised)
  | some row => apply s row fault now

/-- `apply_state_graph_result`. -/
def applyStateGraphResult (s : ResultStores) (result : GraphResult) (evidence : Dict)
    (persistResultDelivery : Option Bool) (fault : Option ResultFault) (now : Time) :
    ResultStores :=
  match fault with
  | some .prepare => s
  | fault =>
      let pending := backgroundDeliveryPending s result persistResultDelivery
      let saga := resultSaga s result evidence pending now
      let applied := prepareAndApply s.toStores saga (ResultFault.applying fault) now
      let s := { s with toStores := applied.1 }
      match applied.2, fault with
      | .completed, some .enqueue => s
      | .completed, _ =>
          if pending then (recordResultDeliveryOutbox s (surfaceMessage result) now).getD s else s
      | _, _ => s

/-- `type(error).__name__`. -/
def errorType : Err → String
  | .store (.keyError _) => "KeyError"
  | .store (.valueError _) => "ValueError"
  | .store (.runtimeError _) => "RuntimeError"
  | .semanticCheckerCall _ _ => "SemanticCheckerCallError"
  | .other message => message

/-- `str(error)`. -/
def errorMessage : Err → String
  | .store (.keyError message) | .store (.valueError message) | .store (.runtimeError message)
  | .semanticCheckerCall _ message | .other message => message

/-- `fail_state_graph_execution`. -/
def failStateGraphExecution (s : ResultStores) (error : Err) (executionOwner : String)
    (fault : Option ResultFault) (failedAt now : Time) : ResultStores :=
  let failure := "state_graph_exception:" ++ errorType error
  let evidence : Dict := [("reason", .str failure), ("error", .str (errorMessage error))]
  match failActiveRun s.loop executionOwner evidence failedAt with
  | .error _ => s
  | .ok loop =>
      let s := { s with loop := loop }
      match fault with
      | some .prepare => s
      | fault =>
          let goalEvidence : Dict :=
            [("state_transition", .str "state_graph_execution_failed"),
              ("loop_run_id", .str loop.run.runId), ("error", .str failure)]
          let saga := newSaga
            ("loop-exception:" ++ loop.run.runId ++ ":" ++ toString loop.run.version)
            s.run.id s.goal.id (projectedUpdates .ended (some .none) .rejected .failed "" failure)
            goalEvidence none now
          { s with
            toStores := (prepareAndApply s.toStores saga (ResultFault.applying fault) now).1 }

/-! ## Resuming -/

/-- Where `resume_goal_loop_run` stops before its result: at a durable write, or
between the writes and the runner's call. -/
inductive ResumeFault where
  | updateRun
  | updateGoal
  | ports
  | result (fault : ResultFault)

/-- What a resume finds: the spec of the loop, with the runner built from it, or
what reading it raises; the workspace; what the runner's operations find; and the
readings of the clock. -/
structure ResumeWorld where
  runner : Except String Runner
  workspace : Except String Unit
  calls : Nat
  answers : List Answer
  checkerReport : Dict
  persistResultDelivery : Option Bool
  reopening : Time
  resuming : Time
  starting : Time
  settling : Time

/-- `update_run` at the start of a resume. -/
def startRun (run : Run) (now : Time) : Run :=
  mergeRunUpdates run
    { phase := some .running, governance := some .approved, acceptance := some .none
      resolution := some .none, planSummary := none, resultSummary := some "", error := some ""
      trustRuleId := none, autonomyLevel := none } now

/-- `update_state` at the start of a resume. -/
def startGoal (goal : Goal) (loopRunId : String) (request : ResumeRequest) (now : Time) : Goal :=
  { goal with
    state := ⟨.running, .approved, .none, .none⟩
    taskStatus := "in_progress"
    blockedReason := ""
    evidence := goal.evidence.merge
      [("state_transition", .str "loop_resume_started"), ("loop_run_id", .str loopRunId),
        ("entrypoint", .str request.entrypoint), ("resume_reason", .str request.resumeReason)]
    completedAt := 0
    updatedAt := now }

/-- The evidence a resume adds to its result. -/
def resumeResultEvidence (request : ResumeRequest) : Dict :=
  [("state_graph_mode", .str "llm_backed"), ("resumed", .bool true),
    ("resume_reason", .str request.resumeReason)]

/-- The fault of the projection of a result. -/
def ResumeFault.settling : Option ResumeFault → Option ResultFault
  | some (.result fault) => some fault
  | _ => none

/-- `run_goal_loop_state_graph`, with the evidence of its caller. -/
def runGoalLoopStateGraph (s : ResultStores) (request : ResumeRequest) (world : ResumeWorld)
    (runner : Runner) (evidence : Dict) (fault : Option ResultFault) : ResultStores :=
  match runLoop runner world.calls evidence (startWorld s.loop [] world.answers) with
  | .ok state ended =>
      let s := { s with loop := ended.cell }
      applyStateGraphResult s ⟨state, ended.collected, world.checkerReport⟩
        (resumeResultEvidence request) world.persistResultDelivery fault world.settling
  | .error (.raised error) ended =>
      let s := { s with loop := ended.cell }
      failStateGraphExecution s error runner.executionOwner fault world.settling world.settling
  | .error .died ended => { s with loop := ended.cell }

/-- `resume_goal_loop_run`, from its first write on. -/
def startResume (s : ResultStores) (request : ResumeRequest) (world : ResumeWorld)
    (runner : Runner) (evidence : Dict) (fault : Option ResumeFault) : ResultStores :=
  match fault with
  | some .updateRun => s
  | fault =>
      let s := { s with run := startRun s.run world.starting }
      match fault with
      | some .updateGoal => s
      | fault =>
          let s := { s with goal := startGoal s.goal s.loop.run.runId request world.starting }
          match fault with
          | some .ports => s
          | fault =>
              runGoalLoopStateGraph s request world runner evidence (ResumeFault.settling fault)

/-- `resume_goal_loop_run`. The Goal is the loop's if the ids agree, and the Run
the Goal's. -/
def resumeGoalLoopRun (s : ResultStores) (request : ResumeRequest) (world : ResumeWorld)
    (fault : Option ResumeFault) : ResultStores :=
  if s.goal.id ≠ s.loop.run.goalId then s
  else
    let evidence := graphEvidence s.loop.run s.run.id request
    match reopenToResume s.loop request world.reopening world.resuming with
    | .error _ => s
    | .ok loop =>
        let s := { s with loop := loop }
        match world.runner, world.workspace with
        | .ok runner, .ok _ =>
            if s.goal.runId = "" ∨ s.run.id ≠ s.goal.runId then s
            else startResume s request world runner evidence fault
        | _, _ => s

/-- The body of the loop of `process_queue_once`, on a loop that it had claimed. -/
def processCandidate (s : ResultStores) (owner : String) (retryPause : Bool) (world : ResumeWorld)
    (fault : Option ResumeFault) : ResultStores :=
  if s.goal.id ≠ s.loop.run.goalId then
    { s with loop := (releaseExecutionLease s.loop owner world.starting).getD s.loop }
  else resumeGoalLoopRun s (queueResume retryPause) world fault

/-- The claim of `process_queue_once` on the loop, if it gets it. -/
def claimCandidate (s : ResultStores) (tick : QueueTick) : Option ResultStores :=
  (queueClaim s.loop tick).map fun claimed => { s with loop := claimed.1 }

/-! ## A plain world -/

/-- The stores of the plain background loop, opened from a connector. -/
def plainStores : ResultStores where
  sagas := Table.empty
  run := runningRun "run"
  goal := runningGoal "goal" "run"
  loop := plainLoop.1
  source := "feishu"
  peerId := "peer"
  outbox := Table.empty

/-- Claims of this owner, all at one time. -/
def plainTick (owner : String) (now : Time) : QueueTick := ⟨owner, now, now, now, now, []⟩

/-- A resume that drives the plain runner from this time on, and whose step answers
the user. -/
def plainWorld (owner : String) (start count : Nat) : ResumeWorld where
  runner := .ok { plainRunner with executionOwner := owner }
  workspace := .ok ()
  calls := 8
  answers := (plainAnswers start count).map fun answer =>
    { answer with executed := .ok { plainExecution with action := "chat", message := "done" } }
  checkerReport := []
  persistResultDelivery := some true
  reopening := start
  resuming := start
  starting := start
  settling := start + count

end Navi.Lifecycle
