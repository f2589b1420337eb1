import Navi.Base.Dict

/-!
# Loop contracts

The nodes and stop states of a loop, its state graph, and the run state that
moves along it.
-/

namespace Navi.Loop

open Navi.Base

/-- `LoopNode`. -/
inductive LoopNode where
  | plan
  | execute
  | evaluate
  | reflect
  | escalate
  | pause
  deriving DecidableEq

/-- `str(node)`. -/
def LoopNode.text : LoopNode → String
  | .plan => "plan"
  | .execute => "execute"
  | .evaluate => "evaluate"
  | .reflect => "reflect"
  | .escalate => "escalate"
  | .pause => "pause"

theorem LoopNode.text_injective : Function.Injective LoopNode.text := by
  intro a b h
  cases a <;> cases b <;> first
    | rfl
    | simp [LoopNode.text] at h

/-- `LoopTerminalState`. -/
inductive LoopTerminalState where
  | converged
  | paused
  | waitingApproval
  | blocked
  | failed
  | cancelled
  | superseded
  | conflicted
  | timedOut
  deriving DecidableEq

/-- `str(state)`. -/
def LoopTerminalState.text : LoopTerminalState → String
  | .converged => "converged"
  | .paused => "paused"
  | .waitingApproval => "waiting_approval"
  | .blocked => "blocked"
  | .failed => "failed"
  | .cancelled => "cancelled"
  | .superseded => "superseded"
  | .conflicted => "conflicted"
  | .timedOut => "timed_out"

/-- Membership in `SUSPENDED_LOOP_STATES`. -/
def LoopTerminalState.suspended : LoopTerminalState → Bool
  | .paused | .waitingApproval => true
  | _ => false

/-- What an edge leads to. Node names and stop-state names are distinct texts. -/
inductive Target where
  | node (node : LoopNode)
  | terminal (state : LoopTerminalState)
  deriving DecidableEq

/-- `StateTransition`. -/
structure StateTransition where
  source : LoopNode
  target : Target
  condition : String
  deriving DecidableEq

/-- The base edges of `default_state_graph`. -/
def baseEdges : List StateTransition :=
  [⟨.plan, .node .execute, "plan_ready"⟩,
    ⟨.plan, .node .escalate, "needs_user_or_approval"⟩,
    ⟨.plan, .node .pause, "resource_pause"⟩,
    ⟨.plan, .node .escalate, "resource_escalate"⟩,
    ⟨.plan, .terminal .blocked, "resource_blocked"⟩,
    ⟨.plan, .node .reflect, "planner_failed"⟩,
    ⟨.plan, .terminal .failed, "planner_failed"⟩,
    ⟨.execute, .node .evaluate, "side_effect_recorded"⟩,
    ⟨.execute, .node .reflect, "capability_failed"⟩,
    ⟨.execute, .terminal .timedOut, "hard_timeout"⟩,
    ⟨.execute, .node .pause, "resource_pause"⟩,
    ⟨.execute, .node .escalate, "resource_escalate"⟩,
    ⟨.execute, .node .escalate, "approval_required"⟩,
    ⟨.execute, .terminal .blocked, "repeated_progress_signature"⟩,
    ⟨.execute, .terminal .blocked, "resource_blocked"⟩,
    ⟨.evaluate, .terminal .converged, "checker_passed"⟩,
    ⟨.evaluate, .node .plan, "continue_iteration"⟩,
    ⟨.evaluate, .node .reflect, "checker_failed"⟩,
    ⟨.evaluate, .terminal .conflicted, "merge_conflict"⟩,
    ⟨.evaluate, .terminal .timedOut, "hard_timeout"⟩,
    ⟨.evaluate, .node .pause, "resource_pause"⟩,
    ⟨.evaluate, .node .escalate, "resource_escalate"⟩,
    ⟨.evaluate, .node .escalate, "side_effect_commit_required"⟩,
    ⟨.evaluate, .terminal .blocked, "resource_blocked"⟩,
    ⟨.evaluate, .terminal .blocked, "no_route_available"⟩,
    ⟨.reflect, .node .plan, "new_route_available"⟩,
    ⟨.reflect, .terminal .blocked, "no_route_available"⟩,
    ⟨.reflect, .terminal .failed, "checker_rejected"⟩,
    ⟨.escalate, .terminal .waitingApproval, "approval_required"⟩,
    ⟨.escalate, .terminal .waitingApproval, "resource_escalate"⟩,
    ⟨.pause, .terminal .paused, "resource_or_user_pause"⟩]

/-- The control edges of `default_state_graph`. -/
def controlEdges : List StateTransition :=
  [LoopNode.plan, .execute, .evaluate, .reflect, .escalate, .pause].flatMap fun node =>
    [⟨node, .terminal .cancelled, "cancel_requested"⟩,
      ⟨node, .terminal .superseded, "superseded"⟩]

/-- `default_state_graph`. -/
def defaultStateGraph : List StateTransition := baseEdges ++ controlEdges

/-- The kinds of `VerificationKind`. -/
inductive VerificationKind where
  | schema
  | static
  | unitTest
  | integrationTest
  | commandExitCode
  | artifactInspection
  | llmChecker
  | humanApproval
  deriving DecidableEq

/-- `VerificationStep`. -/
structure VerificationStep where
  kind : VerificationKind
  name : String
  command : String
  evidenceKey : String
  timeoutSeconds : Time
  required : Bool

/-- `step.evidence_key or step.name`. -/
def VerificationStep.key (step : VerificationStep) : String :=
  if step.evidenceKey = "" then step.name else step.evidenceKey

/-- `WorkspaceMode`. -/
inductive WorkspaceMode where
  | readOnly
  | shadow
  | sandbox
  deriving DecidableEq

/-- What the runner reads of a `LoopSpec`. -/
structure LoopSpec where
  goalId : String
  metadata : Dict
  stateGraph : List StateTransition
  allowedCapabilities : List String
  verificationLadder : List VerificationStep
  workspaceMode : WorkspaceMode
  requireLocks : Bool
  maxAttempts : Nat
  discardShadowOnFailure : Bool

/-- What the store and the runner keep of a loop run. `terminalState` is `none`
for the empty text. -/
structure LoopRunState where
  runId : String
  goalId : String
  node : LoopNode
  terminalState : Option LoopTerminalState
  checkpointId : String
  attempt : Nat
  evidence : Dict
  updatedAt : Time
  version : Nat
  leaseOwner : String
  leaseExpiresAt : Time

namespace LoopRunState

/-- `is_suspended`. -/
def isSuspended (state : LoopRunState) : Bool :=
  match state.terminalState with
  | some terminal => terminal.suspended
  | none => false

/-- `is_terminal`. -/
def isTerminal (state : LoopRunState) : Bool :=
  match state.terminalState with
  | some terminal => !terminal.suspended
  | none => false

/-- `is_stopped`. -/
def isStopped (state : LoopRunState) : Bool := state.isTerminal || state.isSuspended

@[simp] theorem isStopped_eq (state : LoopRunState) :
    state.isStopped = state.terminalState.isSome := by
  unfold isStopped isTerminal isSuspended
  cases state.terminalState with
  | none => rfl
  | some terminal => cases terminal <;> rfl

theorem isTerminal_of_running {state : LoopRunState} (h : state.terminalState = none) :
    state.isTerminal = false := by
  simp [isTerminal, h]

end LoopRunState

/-- The attempt a move from one node to another leads to: leaving `REFLECT` or
`EVALUATE` for `PLAN` consumes one. -/
def nextAttempt (source target : LoopNode) (attempt : Nat) : Nat :=
  if (source = .reflect ∨ source = .evaluate) ∧ target = .plan then attempt + 1 else attempt

theorem le_nextAttempt (source target : LoopNode) (attempt : Nat) :
    attempt ≤ nextAttempt source target attempt := by
  unfold nextAttempt
  split <;> omega

/-- The errors the loop stores raise. -/
inductive StoreError where
  | keyError (message : String)
  | valueError (message : String)
  | runtimeError (message : String)
  deriving DecidableEq

/-- `LoopRunState.transition`. -/
def LoopRunState.transition (state : LoopRunState) (node : LoopNode) (checkpointId : String)
    (terminalState : Option LoopTerminalState) (evidence : Dict) (now : Time) :
    Except StoreError LoopRunState :=
  if state.isStopped then
    .error (.valueError "stopped LoopRunState cannot transition without an explicit resume")
  else if strip checkpointId = "" then
    .error (.valueError "LoopRunState transition requires a checkpoint_id")
  else
    .ok { state with
      node := node
      checkpointId := checkpointId
      terminalState := terminalState
      evidence := state.evidence.merge evidence
      attempt := nextAttempt state.node node state.attempt
      updatedAt := now }

end Navi.Loop
