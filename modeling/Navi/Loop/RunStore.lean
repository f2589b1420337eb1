import Mathlib.Algebra.Order.Ring.Rat
import Mathlib.Data.List.Sort
import Navi.Base.NumberTexts
import Navi.Loop.Contracts

/-!
# The loop run store

`LoopRunStore`, restricted to the rows of one loop run: its specification's
edges, its run row and its checkpoints. The event log is left out; no method
reads it. `transition` is split at its two statements, the read with its checks
and the guarded write, because drivers interleave between them.
-/

namespace Navi.Loop

open Navi.Base

/-- A row of `loop_checkpoints`, without the state dump that nothing reads. -/
structure LoopCheckpoint where
  id : String
  node : LoopNode
  inputs : Dict
  createdAt : Time

structure LoopCell where
  stateGraph : List StateTransition
  run : LoopRunState
  checkpoints : List LoopCheckpoint

/-- `create_run`, at the given node. -/
def createRun (stateGraph : List StateTransition) (runId goalId : String) (node : LoopNode)
    (evidence : Dict) (now : Time) : LoopCell where
  stateGraph := stateGraph
  run :=
    { runId := runId, goalId := goalId, node := node, terminalState := none, checkpointId := "",
      attempt := 1, evidence := evidence, updatedAt := now, version := 0, leaseOwner := "",
      leaseExpiresAt := 0 }
  checkpoints := []

/-! ## Leases -/

/-- The lease allows this owner to claim: free, its own, or expired. -/
def claimable (run : LoopRunState) (owner : String) (now : Time) : Bool :=
  run.leaseOwner = "" ∨ run.leaseOwner = owner ∨ run.leaseExpiresAt ≤ now

/-- The terminal clause of `claim_for_execution`. -/
def claimableState (run : LoopRunState) (allowPaused : Bool) : Bool :=
  run.terminalState = none ∨ (allowPaused ∧ run.terminalState = some .paused)

/-- `claim_for_execution`; `none` when the update matched no row. -/
def claimForExecution (cell : LoopCell) (owner : String) (leaseSeconds now : Time)
    (allowPaused : Bool) : Option LoopCell :=
  if claimableState cell.run allowPaused ∧ claimable cell.run owner now then
    some { cell with run := { cell.run with
      leaseOwner := owner
      leaseExpiresAt := now + max 1 leaseSeconds
      version := cell.run.version + 1
      updatedAt := now } }
  else none

theorem claimForExecution_eq_some {cell cell' : LoopCell} {owner : String}
    {leaseSeconds now : Time} {allowPaused : Bool} :
    claimForExecution cell owner leaseSeconds now allowPaused = some cell'
      ↔ (claimableState cell.run allowPaused = true ∧ claimable cell.run owner now = true)
        ∧ cell' = { cell with run := { cell.run with
            leaseOwner := owner
            leaseExpiresAt := now + max 1 leaseSeconds
            version := cell.run.version + 1
            updatedAt := now } } := by
  unfold claimForExecution
  split
  next hguard => simp [hguard, eq_comm]
  next hguard => simp [hguard]

/-- `renew_execution_lease`; `none` when it returns false. The version stays. -/
def renewExecutionLease (cell : LoopCell) (owner : String) (leaseSeconds now : Time) :
    Option LoopCell :=
  if cell.run.terminalState = none ∧ cell.run.leaseOwner = owner
      ∧ now < cell.run.leaseExpiresAt then
    some { cell with run := { cell.run with
      leaseExpiresAt := now + max 1 leaseSeconds
      updatedAt := now } }
  else none

/-- `release_execution_lease`; `none` when it returns false. -/
def releaseExecutionLease (cell : LoopCell) (owner : String) (now : Time) : Option LoopCell :=
  if cell.run.leaseOwner = owner then
    some { cell with run := { cell.run with
      leaseOwner := ""
      leaseExpiresAt := 0
      version := cell.run.version + 1
      updatedAt := now } }
  else none

/-! ## Transitions -/

/-- The arguments of `transition`. -/
structure TransitionRequest where
  node : LoopNode
  terminalState : Option LoopTerminalState
  condition : String
  evidence : Dict
  checkpointId : String
  leaseOwner : String

/-- `target`: the stop state when there is one, the node otherwise. -/
def TransitionRequest.target (request : TransitionRequest) : Target :=
  match request.terminalState with
  | some terminal => .terminal terminal
  | none => .node request.node

/-- `_transition_allowed`. -/
def transitionAllowed (stateGraph : List StateTransition) (node : LoopNode) (target : Target)
    (condition : String) : Bool :=
  stateGraph.any fun edge =>
    edge.source = node ∧ edge.target = target ∧ (condition = "" ∨ edge.condition = condition)

/-- The error of a transition that is no edge of the loop's graph. -/
def notAllowed : StoreError :=
  .valueError "LoopRun transition is not allowed by LoopSpec.state_graph"

/-- The lease a transition writes: a stop clears it. -/
def leaseAfter (run : LoopRunState) (terminalState : Option LoopTerminalState) : String × Time :=
  match terminalState with
  | some _ => ("", 0)
  | none => (run.leaseOwner, run.leaseExpiresAt)

/-- The reads and checks of `transition`: the state it is about to write. -/
def transitionRead (cell : LoopCell) (request : TransitionRequest) (now : Time) :
    Except StoreError LoopRunState :=
  let current := cell.run
  if cell.checkpoints.all (fun checkpoint => checkpoint.id ≠ request.checkpointId) then
    .error (.valueError "LoopRun transition requires a persisted checkpoint")
  else if current.isStopped then
    .error (.valueError "stopped LoopRunState cannot transition without an explicit resume")
  else if !transitionAllowed cell.stateGraph current.node request.target request.condition then
    .error notAllowed
  else if request.leaseOwner ≠ ""
      ∧ (current.leaseOwner ≠ request.leaseOwner ∨ current.leaseExpiresAt ≤ now) then
    .error (.runtimeError "loop execution lease is not owned by this driver")
  else
    (current.transition request.node request.checkpointId request.terminalState request.evidence
      now).map fun next => { next with
        version := current.version + 1
        leaseOwner := (leaseAfter current request.terminalState).1
        leaseExpiresAt := (leaseAfter current request.terminalState).2 }

/-- The write of `transition`: `WHERE id = ? AND version = ?`, for a next state
computed from a row of the version before it. -/
def transitionWrite (cell : LoopCell) (next : LoopRunState) : Except StoreError LoopCell :=
  if cell.run.version + 1 = next.version then
    .ok { cell with run := next }
  else .error (.runtimeError "loop state changed concurrently")

/-- `transition`. -/
def transition (cell : LoopCell) (request : TransitionRequest) (now : Time) :
    Except StoreError LoopCell :=
  (transitionRead cell request now).bind (transitionWrite cell)

/-- The row a permitted transition writes. -/
def moved (run : LoopRunState) (request : TransitionRequest) (now : Time) : LoopRunState :=
  { run with
    node := request.node
    checkpointId := request.checkpointId
    terminalState := request.terminalState
    evidence := run.evidence.merge request.evidence
    attempt := nextAttempt run.node request.node run.attempt
    updatedAt := now
    version := run.version + 1
    leaseOwner := (leaseAfter run request.terminalState).1
    leaseExpiresAt := (leaseAfter run request.terminalState).2 }

/-- The checks of `transition`, passed. -/
structure Permitted (cell : LoopCell) (request : TransitionRequest) (now : Time) : Prop where
  persisted : ∃ checkpoint ∈ cell.checkpoints, checkpoint.id = request.checkpointId
  running : cell.run.terminalState = none
  edge : transitionAllowed cell.stateGraph cell.run.node request.target request.condition = true
  leased : request.leaseOwner ≠ "" →
    cell.run.leaseOwner = request.leaseOwner ∧ now < cell.run.leaseExpiresAt
  named : strip request.checkpointId ≠ ""

theorem transitionRead_of_permitted {cell : LoopCell} {request : TransitionRequest} {now : Time}
    (h : Permitted cell request now) :
    transitionRead cell request now = .ok (moved cell.run request now) := by
  obtain ⟨⟨checkpoint, hmem, hid⟩, hrunning, hedge, hleased, hnamed⟩ := h
  have hpersisted : ¬ cell.checkpoints.all (fun c => c.id ≠ request.checkpointId) := by
    simp only [List.all_eq_true, not_forall]
    exact ⟨checkpoint, hmem, by simp [hid]⟩
  have hlease : ¬ (request.leaseOwner ≠ "" ∧ (cell.run.leaseOwner ≠ request.leaseOwner
      ∨ cell.run.leaseExpiresAt ≤ now)) := by
    rintro ⟨hguarded, hother⟩
    obtain ⟨howner, hlater⟩ := hleased hguarded
    exact hother.elim (fun hne => hne howner) (not_le.mpr hlater)
  have hstopped : cell.run.isStopped = false := by simp [hrunning]
  simp only [transitionRead, hpersisted, hstopped, hedge, hlease, LoopRunState.transition, hnamed]
  rfl

theorem permitted_of_transitionRead {cell : LoopCell} {request : TransitionRequest} {now : Time}
    {next : LoopRunState} (h : transitionRead cell request now = .ok next) :
    Permitted cell request now := by
  simp only [transitionRead] at h
  split_ifs at h with hpersisted hstopped hedge hlease
  have hrunning : cell.run.terminalState = none := by simpa using hstopped
  have hnamed : strip request.checkpointId ≠ "" := by
    intro hblank
    simp [LoopRunState.transition, hrunning, hblank, Except.map] at h
  simp only [List.all_eq_true, not_forall, decide_eq_true_eq, not_not] at hpersisted
  obtain ⟨checkpoint, hmem, hid⟩ := hpersisted
  refine ⟨⟨checkpoint, hmem, hid⟩, hrunning, by simpa using hedge, ?_, hnamed⟩
  intro hguarded
  simp only [ne_eq, hguarded, not_false_eq_true, true_and, not_or, not_not, not_le] at hlease
  exact hlease

/-- A transition goes through exactly when it is permitted, and then writes the
moved row. -/
theorem transition_eq_ok {cell cell' : LoopCell} {request : TransitionRequest} {now : Time} :
    transition cell request now = .ok cell'
      ↔ Permitted cell request now ∧ cell' = { cell with run := moved cell.run request now } := by
  unfold transition
  constructor
  · intro h
    cases hread : transitionRead cell request now with
    | error error => simp [hread, Except.bind] at h
    | ok next =>
        have hpermitted := permitted_of_transitionRead hread
        rw [transitionRead_of_permitted hpermitted] at h
        simp only [Except.bind, transitionWrite, moved, if_true, Except.ok.injEq] at h
        exact ⟨hpermitted, h.symm⟩
  · rintro ⟨hpermitted, rfl⟩
    rw [transitionRead_of_permitted hpermitted]
    simp [Except.bind, transitionWrite, moved]

/-- `write_checkpoint`. -/
def writeCheckpoint (cell : LoopCell) (id : String) (node : LoopNode) (inputs : Dict)
    (now : Time) : LoopCell :=
  { cell with checkpoints := cell.checkpoints ++ [⟨id, node, inputs, now⟩] }

/-- The checkpoint `latest_checkpoint` prefers: the later one, and among equal
times the one inserted last. -/
def laterCheckpoint (best : Option LoopCheckpoint) (checkpoint : LoopCheckpoint) :
    Option LoopCheckpoint :=
  match best with
  | some found => if found.createdAt ≤ checkpoint.createdAt then some checkpoint else some found
  | none => some checkpoint

/-- `latest_checkpoint` at a node, among those whose inputs have a key. -/
def latestCheckpoint (cell : LoopCell) (node : LoopNode) (inputKey : String) :
    Option LoopCheckpoint :=
  (cell.checkpoints.filter fun checkpoint =>
    checkpoint.node = node ∧ (checkpoint.inputs.get inputKey).isSome).foldl laterCheckpoint none

/-! ## Reopening -/

/-- The loop is parked at an external wait. -/
def externallyWaiting (run : LoopRunState) : Bool :=
  run.terminalState = some .paused ∨ run.terminalState = some .waitingApproval

theorem externallyWaiting_of_running {run : LoopRunState} (h : run.terminalState = none) :
    externallyWaiting run = false := by
  simp [externallyWaiting, h]

theorem isTerminal_of_waiting {run : LoopRunState} (h : externallyWaiting run = true) :
    run.isTerminal = false := by
  simp only [externallyWaiting, decide_eq_true_eq] at h
  rcases h with hpaused | hwaiting
  · simp [LoopRunState.isTerminal, hpaused, LoopTerminalState.suspended]
  · simp [LoopRunState.isTerminal, hwaiting, LoopTerminalState.suspended]

/-- The text of a stop state, empty when there is none. -/
def terminalText (run : LoopRunState) : String :=
  match run.terminalState with
  | some terminal => terminal.text
  | none => ""

/-- `reopen_for_resume`. -/
def reopenForResume (cell : LoopCell) (now : Time) : Except StoreError LoopCell :=
  if externallyWaiting cell.run then
    .ok { cell with run := { cell.run with
      node := .execute, terminalState := none, updatedAt := now, version := cell.run.version + 1 } }
  else
    .error (.valueError
      ("loop run is not resumable from terminal state: " ++ terminalText cell.run))

/-- `is_retryable_resource_pause`. -/
def isRetryableResourcePause (grant : Option Json) : Bool :=
  match grant.bind Json.asDict with
  | some grant => grant.text "decision" = "pause"
  | none => false

def resumeNode? (raw : String) : Option LoopNode :=
  if raw = LoopNode.plan.text then some .plan
  else if raw = LoopNode.execute.text then some .execute
  else if raw = LoopNode.evaluate.text then some .evaluate
  else none

/-- The run a retry reopens: at a node, with one more evidence entry. -/
def reopenedAt (run : LoopRunState) (node : LoopNode) (key : String) (facts : Dict) (now : Time) :
    LoopRunState :=
  { run with
    node := node
    terminalState := none
    evidence := run.evidence.merge [(key, .obj facts)]
    updatedAt := now
    version := run.version + 1 }

/-- `reopen_resource_pause`. -/
def reopenResourcePause (cell : LoopCell) (now : Time) : Except StoreError LoopCell :=
  let current := cell.run
  let grant := current.evidence.get "resource_grant"
  if current.terminalState ≠ some .paused ∨ !isRetryableResourcePause grant then
    .error (.valueError "loop run is not at a transient resource pause")
  else
    let raw := current.evidence.text "resource_resume_node"
    match resumeNode? raw with
    | none => .error (.valueError "transient resource pause has no valid resume node")
    | some node =>
        let reason := ((current.evidence.sub "resource_grant").getD []).text "reason"
        let facts : Dict :=
          [("reason", .str reason), ("resumed_at", .float now), ("resume_node", .str raw)]
        .ok { cell with run := reopenedAt current node "resource_retry" facts now }

/-- `reopen_retryable_pause`. -/
def reopenRetryablePause (cell : LoopCell) (now : Time) : Except StoreError LoopCell :=
  let current := cell.run
  match current.evidence.sub "retry_gate" with
  | none => reopenResourcePause cell now
  | some gate =>
      if current.terminalState ≠ some .paused then
        .error (.valueError "loop run is not at a typed retry pause")
      else if gate.text "decision" ≠ "pause" then
        .error (.valueError "retry gate is not paused")
      else
        let raw := gate.text "resume_node"
        match resumeNode? raw with
        | none => .error (.valueError "retry pause has no valid resume node")
        | some node =>
            let facts : Dict :=
              [("kind", .str (gate.text "kind")), ("reason", .str (gate.text "reason")),
                ("retry_count", (gate.get "retry_count").getD .null),
                ("max_retries", (gate.get "max_retries").getD .null),
                ("resumed_at", .float now), ("resume_node", .str raw)]
            .ok { cell with run := reopenedAt current node "durable_retry" facts now }

/-! ## Stops from outside the graph -/

/-- `_transition_to`. -/
def transitionTo (cell : LoopCell) (target : LoopTerminalState) (evidence : Dict) (now : Time) :
    LoopCell :=
  { cell with run := { cell.run with
    terminalState := some target
    evidence := cell.run.evidence.merge evidence
    updatedAt := now
    version := cell.run.version + 1
    leaseOwner := ""
    leaseExpiresAt := 0 } }

/-- Cancel a loop parked at an external wait; the text is the method's refusal. -/
def cancelWaiting (refusal : String) (cell : LoopCell) (evidence : Dict) (now : Time) :
    Except StoreError LoopCell :=
  if cell.run.terminalState = some .cancelled then .ok cell
  else if externallyWaiting cell.run then .ok (transitionTo cell .cancelled evidence now)
  else .error (.valueError (refusal ++ terminalText cell.run))

/-- `reject_external_gate`. -/
def rejectExternalGate : LoopCell → Dict → Time → Except StoreError LoopCell :=
  cancelWaiting "loop run is not waiting at an external approval gate: "

/-- `cancel_external_wait`. -/
def cancelExternalWait : LoopCell → Dict → Time → Except StoreError LoopCell :=
  cancelWaiting "loop run is not waiting at an external boundary: "

/-- `pause_external_wait`. -/
def pauseExternalWait (cell : LoopCell) (evidence : Dict) (now : Time) :
    Except StoreError LoopCell :=
  if externallyWaiting cell.run then .ok (transitionTo cell .paused evidence now)
  else .error (.valueError
    ("loop run is not waiting at an external boundary: " ++ terminalText cell.run))

/-- `complete_external_delivery`. -/
def completeExternalDelivery (cell : LoopCell) (success : Bool) (evidence : Dict) (now : Time) :
    Except StoreError LoopCell :=
  let target : LoopTerminalState := if success then .converged else .failed
  let action := cell.run.evidence.text "action"
  if cell.run.terminalState = some target then .ok cell
  else if cell.run.terminalState = some .paused ∧ action = "connector_outbound" then
    .ok (transitionTo cell target evidence now)
  else .error (.valueError ("external delivery receipt requires a delivery pause: "
    ++ terminalText cell.run ++ "/" ++ action))

/-- `fail_active_run`. -/
def failActiveRun (cell : LoopCell) (leaseOwner : String) (evidence : Dict) (now : Time) :
    Except StoreError LoopCell :=
  if leaseOwner = "" then .error (.valueError "loop failure requires a lease owner")
  else if cell.run.isStopped then .ok cell
  else if cell.run.leaseOwner ≠ leaseOwner ∨ cell.run.leaseExpiresAt ≤ now then
    .error (.runtimeError "loop execution lease is not owned by this worker")
  else .ok (transitionTo cell .failed evidence now)

/-! ## The retry sweep -/

/-- `max(0.0, float(d.get("retry_after_seconds") or 0.0))`, zero when it is no number. -/
def retryAfterSeconds (facts : Dict) : Time :=
  match facts.get "retry_after_seconds" with
  | some (.int n) => max 0 n
  | some (.float x) => max 0 x
  | some (.bool true) => 1
  | some (.str s) => max 0 ((floatOfText s).getD 0)
  | _ => 0

/-- What the sweep decides about one paused loop: the delay to wait for, or
`none` when the pause is not retryable. -/
def retryDelay (state : LoopRunState) : Option Time :=
  let gate := (state.evidence.sub "retry_gate").filter fun gate => gate.text "decision" = "pause"
  match gate with
  | some gate => some (retryAfterSeconds gate)
  | none =>
      if state.evidence.text "execution_mode" = "background"
          ∧ isRetryableResourcePause (state.evidence.get "resource_grant") then
        some (retryAfterSeconds ((state.evidence.sub "resource_grant").getD []))
      else none

/-- The pause is retryable and its delay has passed. -/
def retryDue (now : Time) (state : LoopRunState) : Bool :=
  match retryDelay state with
  | some delay => state.updatedAt + delay ≤ now
  | none => false

/-- `list_retryable_pauses`, over the rows of all loops. -/
def listRetryablePauses (rows : List LoopRunState) (now : Time) (limit : Nat) :
    List LoopRunState :=
  let paused := (rows.filter fun row => row.terminalState = some .paused).insertionSort
    fun a b => a.updatedAt ≤ b.updatedAt
  ((paused.take (limit * 5)).filter (retryDue now)).take (max 1 limit)

theorem listRetryablePauses_spec {rows : List LoopRunState} {now : Time} {limit : Nat}
    {run : LoopRunState} (h : run ∈ listRetryablePauses rows now limit) :
    run ∈ rows ∧ run.terminalState = some .paused ∧ retryDue now run = true := by
  unfold listRetryablePauses at h
  obtain ⟨htaken, hdue⟩ := List.mem_filter.mp (List.mem_of_mem_take h)
  have hrow := (List.mem_insertionSort _).mp (List.mem_of_mem_take htaken)
  obtain ⟨hmem, hpaused⟩ := List.mem_filter.mp hrow
  exact ⟨hmem, of_decide_eq_true hpaused, hdue⟩

end Navi.Loop
