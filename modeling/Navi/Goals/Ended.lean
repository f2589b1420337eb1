import Navi.Lifecycle.LateResume
import Navi.Lifecycle.ResultRecovery
import Navi.Goals.Admission
import Navi.Goals.Templates

/-!
# Ended goals

One goal with its Run and its loop run, from the moment `open_goal` returns: completed
turns with their stop condition, `cancel_goal`, claims, resumptions and drivers, in any
number and interleaved store call by store call. Each store call reads one row or writes
one row, and what was read may be stale by the time it is used.
-/

namespace Navi.Goals

open Navi.Base Navi.Lifecycle Navi.Loop
open Navi.Lifecycle.Control (Outcome cancelUpdates cancelEvidence cancelRequest writeGoal
  endedUpdates failEvidence typeName message projectedTo)

/-! ## The calls -/

/-- What a call writes to the Run and then to the Goal. -/
inductive Projection where
  /-- of `cancel_loop` -/
  | cancellation (loopRunId : String) (evidence : Dict)
  /-- of `_cancel_scheduled_goal` -/
  | scheduleCancellation (reason : String)
  /-- of `resume_goal_loop_run`, with the loop run that it has resumed -/
  | resumption (state : LoopRunState) (entrypoint resumeReason : String)
  /-- of the saga of a driver -/
  | outcome (ending : Outcome)

/-- The `update_run` of `resume_goal_loop_run`. -/
def resumedRunUpdates : RunUpdates where
  phase := some .running
  governance := some .approved
  acceptance := some .none
  resolution := some .none
  planSummary := none
  resultSummary := some ""
  error := some ""
  trustRuleId := none
  autonomyLevel := none

def Projection.runUpdates : Projection → RunUpdates
  | .cancellation _ _ => cancelUpdates
  | .scheduleCancellation _ =>
      endedUpdates .rejected .canceled "schedule cancelled" "loop_cancelled"
  | .resumption _ _ _ => resumedRunUpdates
  | .outcome ending => ending.runUpdates

/-- The `update_state` of `cancel_loop`. -/
def cancelLoopUpdate (loopRunId : String) (evidence : Dict) : StateUpdate where
  phase := some .ended
  governance := some .none
  acceptance := some .rejected
  resolution := some .canceled
  taskStatus := "blocked"
  blockedReason := ""
  evidence := Dict.merge [("loop_run_id", .str loopRunId)] evidence

/-- The `update_state` of `resume_goal_loop_run`. -/
def resumedUpdate (loopRunId entrypoint resumeReason : String) : StateUpdate where
  phase := some .running
  governance := some .approved
  acceptance := some .none
  resolution := some .none
  taskStatus := "in_progress"
  blockedReason := ""
  evidence := [("state_transition", .str "loop_resume_started"), ("loop_run_id", .str loopRunId),
    ("entrypoint", .str entrypoint), ("resume_reason", .str resumeReason)]

/-- The row of the Goal that a call leaves, from the Run as it was read back, the Goal
as it was found by its Run (by a saga), and as `update_state` read it. -/
def Projection.goalRow (projection : Projection) (back : Run) (found read row : GoalRow)
    (now : Time) : GoalRow :=
  match projection with
  | .cancellation loopRunId evidence =>
      updateState (cancelLoopUpdate loopRunId evidence) read row now
  | .scheduleCancellation reason => updateState (canceledUpdate reason) read row now
  | .resumption state entrypoint resumeReason =>
      updateState (resumedUpdate state.runId entrypoint resumeReason) read row now
  | .outcome ending =>
      { row with toGoal :=
          writeGoal row.toGoal found.toGoal read.toGoal back ending.goalEvidence now }

inductive ServiceCall where
  | idle
  /-- `update_state` of `on_turn_completed` -/
  | stopping (facts : Dict)
  | stopRead (facts : Dict) (read : GoalRow)
  /-- `cancel_loop`, with the loop run that it found -/
  | found (state : LoopRunState) (evidence : Dict)
  | checkpointed (state : LoopRunState) (evidence : Dict) (checkpointId : String)
  /-- `resume_goal_loop_run`: the retry of a pause, then `resume_loop` -/
  | reopening (retryPause resourceRetry : Bool) (entrypoint resumeReason : String)
  | resuming (entrypoint resumeReason : String)
  | resumeFound (state : LoopRunState) (entrypoint resumeReason : String)
  /-- a driver with the loop run as it knows it -/
  | driving (seen : LoopRunState)
  | failing (typeName message : String)
  /-- `update_run` -/
  | projecting (projection : Projection)
  | runRead (projection : Projection) (read : Run)
  | runWritten (projection : Projection)
  /-- `update_for_run` of a saga -/
  | runReadBack (projection : Projection) (back : Run)
  | goalFound (projection : Projection) (back : Run) (found : GoalRow)
  /-- `update_state` -/
  | goalRead (projection : Projection) (back : Run) (found read : GoalRow)

/-- The three rows, the number of the Goal's blocked or failed runs, and the calls; and,
as a history variable, the resolution that the Goal had when it first ended. -/
structure EndedState where
  goal : GoalRow
  run : Run
  loop : LoopCell
  retries : Nat
  calls : Nat → ServiceCall
  endedAs : Option Resolution

/-- The `update_run` of `_setup_scheduled`. -/
def registeredRunUpdates : RunUpdates :=
  endedUpdates .accepted .success "schedule registered" ""

/-- What `open_goal` leaves: a schedule is registered by a Run and a loop run that have
ended, and any other goal starts with active ones. -/
def EndedState.start (request : OpenRequest) (stateGraph : List StateTransition)
    (id runId loopRunId : String) (nextRunAt now : Time) : EndedState :=
  let row := request.row id runId nextRunAt now
  let opened : EndedState :=
    { goal := row
      run := openedRun runId now
      loop := createRun stateGraph loopRunId id .plan
        [("execution_mode", .str request.executionMode)] now
      retries := 0
      calls := fun _ => .idle
      endedAs := none }
  if request.loopKind = .scheduled then
    let registered := createRun stateGraph loopRunId id .evaluate
      (registrationEvidence request.cronSchedule nextRunAt) now
    { opened with
      goal := updateState (registeredUpdate request.cronSchedule nextRunAt) row row now
      run := mergeRunUpdates (openedRun runId now) registeredRunUpdates now
      loop := { registered with run := { registered.run with terminalState := some .converged } } }
  else opened

def EndedState.become (s : EndedState) (call : Nat) (next : ServiceCall) : EndedState :=
  { s with calls := Function.update s.calls call next }

def EndedState.setGoal (s : EndedState) (row : GoalRow) : EndedState :=
  { s with
    goal := row
    endedAs := s.endedAs.or (if row.state.phase = .ended then some row.state.resolution else none) }

/-- What the loop store answers: the loop run, or an error that the call raises. -/
def EndedState.answered (s : EndedState) (call : Nat) (answer : Except StoreError LoopCell)
    (next : LoopCell → ServiceCall) : EndedState :=
  match answer with
  | .ok loop => { s with loop := loop }.become call (next loop)
  | .error _ => s.become call .idle

/-- A call begins, or a driver makes one of its moves; or a call makes its next store
call (with the id of a checkpoint), or ends where it is. -/
inductive EndedLabel where
  | turnCompleted (call : Nat) (now : Time)
  | cancelGoal (call : Nat) (reason : String)
  | resume (call : Nat) (retryPause resourceRetry : Bool) (entrypoint resumeReason : String)
  | drive (call : Nat)
  | claim (owner : String) (leaseSeconds now : Time) (allowPaused : Bool)
  | claimActive (executionMode owner : String) (now : Time) (updatedBefore : Option Time)
  | renew (owner : String) (leaseSeconds now : Time)
  | release (owner : String) (now : Time)
  | writesCheckpoint (call : Nat) (id : String) (node : LoopNode) (inputs : Dict) (now : Time)
  | transitions (call : Nat) (request : TransitionRequest) (now : Time)
  | raises (call : Nat) (typeName message : String)
  | returns (call : Nat) (deliverable : Bool) (surface : String) (checkerReport evidence : Dict)
  | failsActiveRun (call : Nat) (owner : String) (now : Time)
  | advance (call : Nat) (id : String) (now : Time)
  | crash (call : Nat)

def serviceStep (s : EndedState) (call : Nat) (id : String) (now : Time) : Option EndedState :=
  match s.calls call with
  | .idle | .driving _ | .failing _ _ => none
  | .stopping facts => some (s.become call (.stopRead facts s.goal))
  | .stopRead facts read =>
      some ((s.setGoal (updateState (stoppedUpdate facts) read s.goal now)).become call .idle)
  | .found state evidence =>
      if externallyWaiting state then
        some (s.answered call (cancelExternalWait s.loop evidence now) fun loop =>
          .projecting (.cancellation loop.run.runId evidence))
      else
        let inputs := Dict.merge [("control", .str "cancel")] evidence
        some ({ s with loop := writeCheckpoint s.loop id state.node inputs now }.become call
          (.checkpointed state evidence id))
  | .checkpointed state evidence checkpointId =>
      some (s.answered call (transition s.loop (cancelRequest state.node evidence checkpointId) now)
        fun loop => .projecting (.cancellation loop.run.runId evidence))
  | .reopening retryPause resourceRetry entrypoint resumeReason =>
      if retryPause then
        some (s.answered call (reopenRetryablePause s.loop now) fun _ =>
          .resuming entrypoint resumeReason)
      else if resourceRetry then
        some (s.answered call (reopenResourcePause s.loop now) fun _ =>
          .resuming entrypoint resumeReason)
      else some (s.become call (.resuming entrypoint resumeReason))
  | .resuming entrypoint resumeReason =>
      some (s.become call (.resumeFound s.loop.run entrypoint resumeReason))
  | .resumeFound state entrypoint resumeReason =>
      if externallyWaiting state then
        some (s.answered call (reopenForResume s.loop now) fun loop =>
          .projecting (.resumption loop.run entrypoint resumeReason))
      else some (s.become call (.projecting (.resumption state entrypoint resumeReason)))
  | .projecting projection => some (s.become call (.runRead projection s.run))
  | .runRead projection read =>
      some ({ s with run := mergeRunUpdates read projection.runUpdates now }.become call
        (.runWritten projection))
  | .runWritten projection => some (s.become call (.runReadBack projection s.run))
  | .runReadBack projection back => some (s.become call (.goalFound projection back s.goal))
  | .goalFound projection back found =>
      some (s.become call (.goalRead projection back found s.goal))
  | .goalRead projection back found read =>
      let row := projection.goalRow back found read s.goal now
      match projection with
      | .cancellation _ _ | .scheduleCancellation _ => some ((s.setGoal row).become call .idle)
      | .resumption state _ _ => some ((s.setGoal row).become call (.driving state))
      | .outcome _ => some { (s.setGoal row).become call .idle with
          retries := if row.state.resolution = .blocked ∨ row.state.resolution = .failed
            then s.retries + 1 else s.retries }

/-- A move of a driver: what its runner does to the loop run, and how it ends. -/
def driverMove (s : EndedState) : EndedLabel → Option EndedState
  | .writesCheckpoint call id node inputs now =>
      match s.calls call with
      | .driving _ => some { s with loop := writeCheckpoint s.loop id node inputs now }
      | _ => none
  | .transitions call request now =>
      match s.calls call with
      | .driving _ =>
          match transition s.loop request now with
          | .ok loop => some ({ s with loop := loop }.become call (.driving loop.run))
          | .error error => some (s.become call (.failing (typeName error) (message error)))
      | _ => none
  | .raises call typeName message =>
      match s.calls call with
      | .driving _ => some (s.become call (.failing typeName message))
      | _ => none
  | .returns call deliverable surface checkerReport evidence =>
      match s.calls call with
      | .driving seen => some (s.become call (.projecting (.outcome
          (.result seen deliverable s.run.resultSummary surface checkerReport evidence))))
      | _ => none
  | .failsActiveRun call owner now =>
      match s.calls call with
      | .failing typeName message =>
          some (s.answered call (failActiveRun s.loop owner (failEvidence typeName message) now)
            fun loop => .projecting (.outcome (.exception loop.run.runId typeName)))
      | _ => none
  | _ => none

/-- One Goal, its Run and its loop run under all calls. -/
def endedSystem : System EndedState EndedLabel where
  step s
    | .turnCompleted call now =>
        match s.calls call with
        | .idle =>
            if s.goal.active then
              match stopConditionFacts s.goal s.retries now with
              | some facts => some (s.become call (.stopping facts))
              | none => none
            else none
        | _ => none
    | .cancelGoal call reason =>
        match s.calls call with
        | .idle =>
            -- `_active_loop_for_goal`
            if s.loop.run.terminalState = none ∨ externallyWaiting s.loop.run then
              some (s.become call (.found s.loop.run (cancelEvidence reason)))
            else if s.goal.cronSchedule ≠ "" then
              some (s.become call (.projecting (.scheduleCancellation reason)))
            else none
        | _ => none
    | .resume call retryPause resourceRetry entrypoint resumeReason =>
        match s.calls call with
        | .idle =>
            some (s.become call (.reopening retryPause resourceRetry entrypoint resumeReason))
        | _ => none
    | .drive call =>
        match s.calls call with
        | .idle | .driving _ => some (s.become call (.driving s.loop.run))
        | _ => none
    | .claim owner leaseSeconds now allowPaused =>
        (claimForExecution s.loop owner leaseSeconds now allowPaused).map fun loop =>
          { s with loop := loop }
    | .claimActive executionMode owner now updatedBefore =>
        (StateGraph.claimActiveForExecutionMode s.loop executionMode owner now updatedBefore).map
          fun loop => { s with loop := loop }
    | .renew owner leaseSeconds now =>
        (renewExecutionLease s.loop owner leaseSeconds now).map fun loop => { s with loop := loop }
    | .release owner now =>
        (releaseExecutionLease s.loop owner now).map fun loop => { s with loop := loop }
    | .advance call id now => serviceStep s call id now
    | .crash call => some (s.become call .idle)
    | label => driverMove s label

/-! ## What an ended goal promises -/

/-- The loop run is not active, and can be neither claimed nor reopened nor driven. -/
structure Spent (cell : LoopCell) : Prop where
  inactive : cell.run.terminalState ≠ none
  unclaimed : ∀ owner leaseSeconds now allowPaused,
    claimForExecution cell owner leaseSeconds now allowPaused = none
  unqueued : ∀ executionMode owner now updatedBefore,
    StateGraph.claimActiveForExecutionMode cell executionMode owner now updatedBefore = none
  unresumed : ∀ now cell', reopenForResume cell now ≠ .ok cell'
  unretried : ∀ now cell', reopenRetryablePause cell now ≠ .ok cell'
    ∧ reopenResourcePause cell now ≠ .ok cell'
  undriven : ∀ request now cell', transition cell request now ≠ .ok cell'

/-- An ended Goal has a spent loop run and an ended Run, and stays as it ended. -/
structure EndedState.EndedForGood (s : EndedState) : Prop where
  rows : s.goal.state.phase = .ended → Spent s.loop ∧ s.run.phase = .ended
  stays : ∀ resolution ∈ s.endedAs,
    s.goal.state.phase = .ended ∧ s.goal.state.resolution = resolution

/-- The state of the Goal that a projection writes. -/
def Projection.goalState (projection : Projection) (back : Run) : GoalState :=
  match projection with
  | .cancellation _ _ | .scheduleCancellation _ => ⟨.ended, .none, .rejected, .canceled⟩
  | .resumption _ _ _ => ⟨.running, .approved, .none, .none⟩
  | .outcome _ => goalStateForRun back

/-- The Goal has not ended, or not otherwise than this. -/
def EndedState.EndsAs (s : EndedState) (state : GoalState) : Prop :=
  s.goal.state.phase = .ended →
    state.phase = .ended ∧ state.resolution = s.goal.state.resolution

/-- A stop condition ends the Goal of a Run that has ended; a driver does not fail a
suspended loop run; a Run that has ended is not written as one that has not; and an
ended Goal is not written as one that ended otherwise or that has not ended. -/
def SparesEnded (s : EndedState) : EndedLabel → Prop
  | .failsActiveRun _ _ _ => s.loop.run.isSuspended = false
  | .advance call _ _ =>
      match s.calls call with
      | .stopRead _ read =>
          s.run.phase = .ended
            ∧ s.EndsAs { read.state with phase := .ended, resolution := .blocked }
      | .runRead projection _ => s.run.phase = .ended → projection.runUpdates.phase = some .ended
      | .goalRead projection back _ _ => s.EndsAs (projection.goalState back)
      | _ => True
  | _ => True

/-! ## Loop runs at a final state -/

section

variable {cell cell' : LoopCell} {now : Time}

theorem externallyWaiting_of_terminal (hfinal : cell.run.isTerminal = true) :
    externallyWaiting cell.run = false := by
  by_contra hwaiting
  rw [isTerminal_of_waiting (Bool.not_eq_false _ ▸ hwaiting)] at hfinal
  cases hfinal

theorem spent_of_terminal (hfinal : cell.run.isTerminal = true) : Spent cell := by
  obtain ⟨hstopped, -, hpaused⟩ := terminalState_of_terminal hfinal
  refine ⟨hstopped, fun owner leaseSeconds now allowPaused => ?_,
    fun mode owner now before => claimActive_terminal hfinal mode owner now before,
    fun now cell' => ?_, fun now cell' => ?_, fun request now cell' hmoved => ?_⟩
  · rw [claimForExecution, if_neg]
    rintro ⟨hstate, -⟩
    rcases of_decide_eq_true hstate with h | ⟨-, h⟩
    · exact hstopped h
    · exact hpaused h
  · rw [reopenForResume, externallyWaiting_of_terminal hfinal]
    exact fun h => by cases h
  · obtain ⟨⟨retryError, hretry⟩, resourceError, hresource⟩ := reopenRetries_refused hfinal now
    rw [hretry, hresource]
    refine ⟨fun h => ?_, fun h => ?_⟩
    · cases h
    · cases h
  · exact hstopped (transition_eq_ok.mp hmoved).1.running

theorem transition_terminal {request : TransitionRequest}
    (h : transition cell request now = .ok cell') : cell.run.isTerminal = false :=
  LoopRunState.isTerminal_of_running (transition_eq_ok.mp h).1.running

theorem reopenForResume_terminal (h : reopenForResume cell now = .ok cell') :
    cell.run.isTerminal = false := by
  by_contra hfinal
  exact (spent_of_terminal (Bool.not_eq_false _ ▸ hfinal)).unresumed now cell' h

theorem reopenRetryablePause_terminal (h : reopenRetryablePause cell now = .ok cell') :
    cell.run.isTerminal = false := by
  by_contra hfinal
  exact ((spent_of_terminal (Bool.not_eq_false _ ▸ hfinal)).unretried now cell').1 h

theorem reopenResourcePause_terminal (h : reopenResourcePause cell now = .ok cell') :
    cell.run.isTerminal = false := by
  by_contra hfinal
  exact ((spent_of_terminal (Bool.not_eq_false _ ▸ hfinal)).unretried now cell').2 h

theorem isTerminal_of_state {run run' : LoopRunState} (h : run'.terminalState = run.terminalState) :
    run'.isTerminal = run.isTerminal := by
  unfold LoopRunState.isTerminal
  rw [h]

theorem cancelExternalWait_terminal {evidence : Dict}
    (h : cancelExternalWait cell evidence now = .ok cell') : cell'.run.isTerminal = true := by
  unfold LoopRunState.isTerminal
  rw [(Control.cancelExternalWait_ok h).1]
  rfl

theorem failActiveRun_terminal {owner : String} {evidence : Dict}
    (h : failActiveRun cell owner evidence now = .ok cell') (hopen : cell.run.isSuspended = false) :
    cell'.run.isTerminal = true := by
  rcases Control.failActiveRun_ok h with ⟨hstopped, rfl⟩ | ⟨-, hfailed⟩
  · have hstop : cell'.run.isStopped = true := by
      rw [LoopRunState.isStopped_eq]
      exact Option.isSome_iff_ne_none.mpr hstopped
    unfold LoopRunState.isStopped at hstop
    rwa [hopen, Bool.or_false] at hstop
  · unfold LoopRunState.isTerminal
    rw [hfailed]
    rfl

end

/-! ## One step -/

/-- A projection that ends the Run is of a final loop run, and a resumption that has
found one final is of a final one. -/
structure Projection.Backed (projection : Projection) (loop : LoopCell) : Prop where
  ended : projection.runUpdates.phase = some .ended → loop.run.isTerminal = true
  resumed : ∀ state entrypoint reason, projection = .resumption state entrypoint reason →
    state.isTerminal = true → loop.run.isTerminal = true

/-- What a call may rely on at its place. -/
def ServiceCall.Holds (loop : LoopCell) (run : Run) : ServiceCall → Prop
  | .driving seen | .resumeFound seen _ _ => seen.isTerminal = true → loop.run.isTerminal = true
  | .projecting projection | .runRead projection _ => projection.Backed loop
  | .runWritten projection =>
      projection.Backed loop ∧ (projection.runUpdates.phase = some .ended → run.phase = .ended)
  | .runReadBack projection back | .goalFound projection back _ | .goalRead projection back _ _ =>
      projection.Backed loop ∧ ((projection.goalState back).phase = .ended → run.phase = .ended)
  | _ => True

/-- The Run ends after the loop run, and the Goal after the Run. -/
structure EndedState.Ordered (s : EndedState) : Prop where
  run : s.run.phase = .ended → s.loop.run.isTerminal = true
  goal : s.goal.state.phase = .ended → s.run.phase = .ended
  calls : ∀ call, (s.calls call).Holds s.loop s.run
  stays : ∀ resolution ∈ s.endedAs,
    s.goal.state.phase = .ended ∧ s.goal.state.resolution = resolution

section

variable {s s' : EndedState} {call : Nat} {next : ServiceCall} {loop : LoopCell} {run : Run}

theorem Projection.Backed.mono {projection : Projection} (h : projection.Backed s.loop)
    (hloop : s.loop.run.isTerminal = true → loop.run.isTerminal = true) :
    projection.Backed loop :=
  ⟨fun hended => hloop (h.ended hended),
    fun state entrypoint reason hp hseen => hloop (h.resumed state entrypoint reason hp hseen)⟩

theorem ServiceCall.Holds.mono {held : ServiceCall} (h : held.Holds s.loop s.run)
    (hloop : s.loop.run.isTerminal = true → loop.run.isTerminal = true)
    (hrun : s.run.phase = .ended → run.phase = .ended) : held.Holds loop run := by
  cases held with
  | driving seen => exact fun hseen => hloop (h hseen)
  | resumeFound seen entrypoint reason => exact fun hseen => hloop (h hseen)
  | projecting projection => exact Projection.Backed.mono h hloop
  | runRead projection read => exact Projection.Backed.mono h hloop
  | runWritten projection => exact ⟨h.1.mono hloop, fun hended => hrun (h.2 hended)⟩
  | runReadBack projection back => exact ⟨h.1.mono hloop, fun hended => hrun (h.2 hended)⟩
  | goalFound projection back found => exact ⟨h.1.mono hloop, fun hended => hrun (h.2 hended)⟩
  | goalRead projection back found read =>
      exact ⟨h.1.mono hloop, fun hended => hrun (h.2 hended)⟩
  | _ => trivial

theorem holds_update {calls : Nat → ServiceCall} (h : ∀ call, (calls call).Holds loop run)
    (hnext : next.Holds loop run) (other : Nat) :
    (Function.update calls call next other).Holds loop run := by
  by_cases hsame : other = call
  · rw [hsame, Function.update_self]
    exact hnext
  · rw [Function.update_of_ne hsame]
    exact h other

theorem EndedState.Ordered.moves (hs : s.Ordered)
    (hloop : s.loop.run.isTerminal = true → loop.run.isTerminal = true)
    (hnext : next.Holds loop s.run) : ({ s with loop := loop }.become call next).Ordered :=
  ⟨fun hended => hloop (hs.run hended), hs.goal,
    holds_update (fun other => (hs.calls other).mono hloop id) hnext, hs.stays⟩

theorem EndedState.Ordered.moves_loop (hs : s.Ordered)
    (hloop : s.loop.run.isTerminal = true → loop.run.isTerminal = true) :
    EndedState.Ordered { s with loop := loop } :=
  ⟨fun hended => hloop (hs.run hended), hs.goal, fun other => (hs.calls other).mono hloop id,
    hs.stays⟩

theorem EndedState.Ordered.becomes (hs : s.Ordered) (hnext : next.Holds s.loop s.run) :
    (s.become call next).Ordered :=
  ⟨hs.run, hs.goal, holds_update hs.calls hnext, hs.stays⟩

theorem EndedState.Ordered.answered (hs : s.Ordered) {answer : Except StoreError LoopCell}
    {next : LoopCell → ServiceCall}
    (hok : ∀ loop, answer = .ok loop → (s.loop.run.isTerminal = true → loop.run.isTerminal = true)
      ∧ (next loop).Holds loop s.run) : (s.answered call answer next).Ordered := by
  cases answer with
  | error error => exact hs.becomes trivial
  | ok loop => exact hs.moves (hok loop rfl).1 (hok loop rfl).2

theorem EndedState.Ordered.writes_run (hs : s.Ordered)
    (hended : run.phase = .ended → s.loop.run.isTerminal = true)
    (hkept : s.run.phase = .ended → run.phase = .ended) (hnext : next.Holds s.loop run) :
    ({ s with run := run }.become call next).Ordered :=
  ⟨hended, fun h => hkept (hs.goal h),
    holds_update (fun other => (hs.calls other).mono id hkept) hnext, hs.stays⟩

theorem EndedState.Ordered.writes_goal (hs : s.Ordered) {row : GoalRow}
    (hended : row.state.phase = .ended → s.run.phase = .ended) (hsame : s.EndsAs row.state)
    (hnext : next.Holds s.loop s.run) : ((s.setGoal row).become call next).Ordered := by
  refine ⟨hs.run, hended, holds_update hs.calls hnext, fun resolution hresolution => ?_⟩
  have hresolution : s.endedAs.or
      (if row.state.phase = .ended then some row.state.resolution else none)
        = some resolution := hresolution
  cases hbefore : s.endedAs with
  | some first =>
      rw [hbefore, Option.some_or] at hresolution
      obtain ⟨hphase, hfirst⟩ := hs.stays first hbefore
      obtain ⟨hstill, hagain⟩ := hsame hphase
      exact ⟨hstill, hagain.trans (hfirst.trans (Option.some.inj hresolution))⟩
  | none =>
      rw [hbefore, Option.none_or] at hresolution
      split at hresolution
      next hphase => exact ⟨hphase, Option.some.inj hresolution⟩
      next => cases hresolution

theorem goalStateForRun_ended : (goalStateForRun run).phase = .ended ↔ run.phase = .ended := by
  unfold goalStateForRun
  split
  next hsuccess => exact ⟨fun _ => hsuccess.1, fun _ => rfl⟩
  next =>
    split
    next hended => exact ⟨fun _ => hended, fun _ => rfl⟩
    next hopen =>
      refine ⟨fun h => ?_, fun hended => absurd hended hopen⟩
      split at h
      · cases h
      · split at h <;> cases h

theorem runUpdates_phase (projection : Projection) (read : Run) (now : Time) :
    projection.runUpdates.phase
      = some (mergeRunUpdates read projection.runUpdates now).phase := by
  have hsome : projection.runUpdates.phase.isSome := by
    cases projection with
    | outcome ending =>
        rcases Control.outcome_projected ending with ⟨hphase, -⟩ | ⟨-, hphase, -⟩
        · exact Option.isSome_iff_exists.mpr ⟨_, hphase⟩
        · exact Option.isSome_iff_exists.mpr ⟨_, hphase⟩
    | _ => rfl
  obtain ⟨phase, hphase⟩ := Option.isSome_iff_exists.mp hsome
  show _ = some (projection.runUpdates.phase.getD read.phase)
  rw [hphase, Option.getD_some]

theorem goalState_of_back {projection : Projection}
    (hwritten : projection.runUpdates.phase = some .ended → run.phase = .ended)
    (hended : (projection.goalState run).phase = .ended) : run.phase = .ended := by
  cases projection with
  | cancellation loopRunId evidence => exact hwritten rfl
  | scheduleCancellation reason => exact hwritten rfl
  | resumption state entrypoint reason => cases hended
  | outcome ending => exact goalStateForRun_ended.mp hended

@[simp] theorem goalRow_state {projection : Projection} {back : Run} {found read row : GoalRow}
    {now : Time} :
    (projection.goalRow back found read row now).state = projection.goalState back := by
  cases projection <;> rfl

theorem outcome_ended {ending : Outcome} (h : ending.runUpdates.phase = some .ended) :
    ∃ terminal, ending.terminal = some terminal ∧ terminal.suspended = false := by
  rcases Control.outcome_projected ending with ⟨hphase, -⟩ | ⟨-, hphase, -⟩
  · rw [h] at hphase
    cases hterminal : ending.terminal with
    | none => rw [hterminal] at hphase; cases hphase
    | some terminal =>
        refine ⟨terminal, rfl, ?_⟩
        rw [hterminal] at hphase
        cases terminal with
        | paused => cases hphase
        | waitingApproval => cases hphase
        | _ => rfl
  · rw [h] at hphase
    cases hphase

theorem result_backed {seen : LoopRunState} {deliverable : Bool} {existing surface : String}
    {checkerReport evidence : Dict} (hseen : seen.isTerminal = true → loop.run.isTerminal = true) :
    (Projection.outcome (.result seen deliverable existing surface checkerReport evidence)).Backed
      loop := by
  refine ⟨fun hended => hseen ?_, fun _ _ _ h => by cases h⟩
  obtain ⟨terminal, hterminal, hfinal⟩ := outcome_ended hended
  have hstate : seen.terminalState = some terminal := hterminal
  unfold LoopRunState.isTerminal
  rw [hstate]
  show (!terminal.suspended) = true
  rw [hfinal]
  rfl

theorem serviceStep_ordered {checkpoint : String} {now : Time} (hs : s.Ordered)
    (hspares : SparesEnded s (.advance call checkpoint now))
    (h : serviceStep s call checkpoint now = some s') : s'.Ordered := by
  have hcall := hs.calls call
  unfold serviceStep at h
  unfold SparesEnded at hspares
  cases hheld : s.calls call with
  | idle => simp only [hheld] at h; cases h
  | driving seen => simp only [hheld] at h; cases h
  | failing typeName message => simp only [hheld] at h; cases h
  | stopping facts =>
      simp only [hheld] at h
      obtain rfl := Option.some.inj h
      exact hs.becomes trivial
  | stopRead facts read =>
      simp only [hheld] at h hspares
      obtain rfl := Option.some.inj h
      exact hs.writes_goal (fun _ => hspares.1) hspares.2 trivial
  | found state evidence =>
      simp only [hheld] at h
      split at h
      · obtain rfl := Option.some.inj h
        refine hs.answered fun loop hok => ?_
        have hfinal := cancelExternalWait_terminal hok
        exact ⟨fun _ => hfinal, fun _ => hfinal, fun _ _ _ hp => by cases hp⟩
      · obtain rfl := Option.some.inj h
        exact hs.moves id trivial
  | checkpointed state evidence checkpointId =>
      simp only [hheld] at h
      obtain rfl := Option.some.inj h
      refine hs.answered fun loop hok => ?_
      have hfinal : loop.run.isTerminal = true := by
        rw [(transition_eq_ok.mp hok).2]
        rfl
      exact ⟨fun _ => hfinal, fun _ => hfinal, fun _ _ _ hp => by cases hp⟩
  | reopening retryPause resourceRetry entrypoint reason =>
      simp only [hheld] at h
      split at h
      · obtain rfl := Option.some.inj h
        refine hs.answered fun loop hok => ⟨fun hfinal => ?_, trivial⟩
        rw [reopenRetryablePause_terminal hok] at hfinal
        cases hfinal
      · split at h
        · obtain rfl := Option.some.inj h
          refine hs.answered fun loop hok => ⟨fun hfinal => ?_, trivial⟩
          rw [reopenResourcePause_terminal hok] at hfinal
          cases hfinal
        · obtain rfl := Option.some.inj h
          exact hs.becomes trivial
  | resuming entrypoint reason =>
      simp only [hheld] at h
      obtain rfl := Option.some.inj h
      exact hs.becomes (show _ → _ from id)
  | resumeFound state entrypoint reason =>
      simp only [hheld] at h
      have hresumed : ∀ {loop : LoopCell} {state : LoopRunState},
          (state.isTerminal = true → loop.run.isTerminal = true) →
            (Projection.resumption state entrypoint reason).Backed loop := by
        intro loop state hstate
        refine ⟨fun hended => (by cases hended), fun other _ _ hsame => ?_⟩
        cases hsame
        exact hstate
      split at h
      · obtain rfl := Option.some.inj h
        refine hs.answered fun loop hok => ⟨fun hfinal => ?_, hresumed id⟩
        rw [reopenForResume_terminal hok] at hfinal
        cases hfinal
      · obtain rfl := Option.some.inj h
        rw [hheld] at hcall
        exact hs.becomes (hresumed hcall)
  | projecting projection =>
      simp only [hheld] at h
      obtain rfl := Option.some.inj h
      rw [hheld] at hcall
      exact hs.becomes hcall
  | runRead projection read =>
      simp only [hheld] at h hspares
      obtain rfl := Option.some.inj h
      rw [hheld] at hcall
      have hphase := runUpdates_phase projection read now
      refine hs.writes_run (fun hended => hcall.ended (hphase.trans (congrArg some hended)))
        (fun hended => ?_) ⟨hcall, fun hended => ?_⟩
      · exact Option.some.inj (hphase.symm.trans (hspares hended))
      · exact Option.some.inj (hphase.symm.trans hended)
  | runWritten projection =>
      simp only [hheld] at h
      obtain rfl := Option.some.inj h
      rw [hheld] at hcall
      exact hs.becomes ⟨hcall.1, goalState_of_back hcall.2⟩
  | runReadBack projection back =>
      simp only [hheld] at h
      obtain rfl := Option.some.inj h
      rw [hheld] at hcall
      exact hs.becomes hcall
  | goalFound projection back found =>
      simp only [hheld] at h
      obtain rfl := Option.some.inj h
      rw [hheld] at hcall
      exact hs.becomes hcall
  | goalRead projection back found read =>
      simp only [hheld] at h hspares
      rw [hheld] at hcall
      have hwrites : ∀ {next : ServiceCall}, next.Holds s.loop s.run →
          ((s.setGoal (projection.goalRow back found read s.goal now)).become call next).Ordered :=
        fun hnext => hs.writes_goal (by rw [goalRow_state]; exact hcall.2)
          (by rw [goalRow_state]; exact hspares) hnext
      split at h
      · obtain rfl := Option.some.inj h
        exact hwrites trivial
      · obtain rfl := Option.some.inj h
        exact hwrites trivial
      · obtain rfl := Option.some.inj h
        exact hwrites (hcall.1.resumed _ _ _ rfl)
      · obtain rfl := Option.some.inj h
        obtain ⟨hrun, hgoal, hcalls, hstays⟩ := @hwrites .idle trivial
        exact ⟨hrun, hgoal, hcalls, hstays⟩

theorem driverMove_ordered {label : EndedLabel} (hs : s.Ordered) (hspares : SparesEnded s label)
    (h : driverMove s label = some s') : s'.Ordered := by
  unfold driverMove at h
  split at h
  · split at h
    · obtain rfl := Option.some.inj h
      exact hs.moves_loop id
    · cases h
  · split at h
    · split at h
      next loop hok =>
        obtain rfl := Option.some.inj h
        refine hs.moves (fun hfinal => ?_) (show _ → _ from id)
        rw [transition_terminal hok] at hfinal
        cases hfinal
      next =>
        obtain rfl := Option.some.inj h
        exact hs.becomes trivial
    · cases h
  · split at h
    · obtain rfl := Option.some.inj h
      exact hs.becomes trivial
    · cases h
  next call _ _ _ _ =>
    split at h
    next seen hdriving =>
      obtain rfl := Option.some.inj h
      have hseen := hs.calls call
      rw [hdriving] at hseen
      exact hs.becomes (result_backed hseen)
    next => cases h
  · split at h
    next =>
      obtain rfl := Option.some.inj h
      refine hs.answered fun loop hok => ?_
      have hfinal := failActiveRun_terminal hok hspares
      exact ⟨fun _ => hfinal, fun _ => hfinal, fun _ _ _ hp => by cases hp⟩
    next => cases h
  · cases h

theorem ended_step_ordered {label : EndedLabel} (hs : s.Ordered) (hspares : SparesEnded s label)
    (h : endedSystem.step s label = some s') : s'.Ordered := by
  unfold endedSystem at h
  simp only at h
  split at h
  next call now =>
    split at h
    · split at h
      · split at h
        · obtain rfl := Option.some.inj h
          exact hs.becomes trivial
        · cases h
      · cases h
    · cases h
  next call reason =>
    split at h
    · split at h
      · obtain rfl := Option.some.inj h
        exact hs.becomes trivial
      next hclosed =>
        split at h
        · obtain rfl := Option.some.inj h
          -- without an active loop run the schedule's is final
          have hfinal : s.loop.run.isTerminal = true := by
            obtain ⟨hstopped, hwaiting⟩ := not_or.mp hclosed
            unfold LoopRunState.isTerminal
            cases hstate : s.loop.run.terminalState with
            | none => exact absurd hstate hstopped
            | some terminal =>
                cases terminal with
                | paused => exact absurd (decide_eq_true (.inl hstate)) hwaiting
                | waitingApproval => exact absurd (decide_eq_true (.inr hstate)) hwaiting
                | _ => rfl
          exact hs.becomes ⟨fun _ => hfinal, fun _ _ _ hp => by cases hp⟩
        · cases h
    · cases h
  next call retryPause resourceRetry entrypoint reason =>
    split at h
    · obtain rfl := Option.some.inj h
      exact hs.becomes trivial
    · cases h
  next call =>
    split at h
    · obtain rfl := Option.some.inj h
      exact hs.becomes (show _ → _ from id)
    · obtain rfl := Option.some.inj h
      exact hs.becomes (show _ → _ from id)
    · cases h
  next owner leaseSeconds now allowPaused =>
    obtain ⟨loop, hclaim, rfl⟩ := Option.map_eq_some_iff.mp h
    have hsame := isTerminal_of_state (Control.claimForExecution_terminal hclaim)
    exact hs.moves_loop fun hfinal => hsame.trans hfinal
  next mode owner now before =>
    obtain ⟨loop, hclaim, rfl⟩ := Option.map_eq_some_iff.mp h
    refine hs.moves_loop fun hfinal => ?_
    rw [claimActive_terminal hfinal] at hclaim
    cases hclaim
  next owner leaseSeconds now =>
    obtain ⟨loop, hrenew, rfl⟩ := Option.map_eq_some_iff.mp h
    refine hs.moves_loop fun hfinal => ?_
    rw [renewExecutionLease, if_neg fun hactive =>
      (terminalState_of_terminal hfinal).1 hactive.1] at hrenew
    cases hrenew
  next owner now =>
    obtain ⟨loop, hrelease, rfl⟩ := Option.map_eq_some_iff.mp h
    rw [releaseExecutionLease] at hrelease
    split at hrelease
    · obtain rfl := Option.some.inj hrelease
      exact hs.moves_loop id
    · cases hrelease
  next call checkpoint now => exact serviceStep_ordered hs hspares h
  next call =>
    obtain rfl := Option.some.inj h
    exact hs.becomes trivial
  next => exact driverMove_ordered hs hspares h

end

theorem start_ordered {request : OpenRequest} {stateGraph : List StateTransition}
    {id runId loopRunId : String} {nextRunAt now : Time} :
    (EndedState.start request stateGraph id runId loopRunId nextRunAt now).Ordered := by
  unfold EndedState.start
  dsimp only
  split
  · exact ⟨fun _ => rfl, fun h => (by cases h), fun _ => trivial,
      fun _ h => (by cases h)⟩
  · exact ⟨fun h => (by cases h), fun h => (by cases h), fun _ => trivial,
      fun _ h => (by cases h)⟩

/-- **An ended goal executes no more.** In every run of completed turns, cancellations,
claims, resumptions and drivers on an opened goal, in which stop conditions end the Goal
of an ended Run only, no driver fails a suspended loop run, and nothing that has ended is
written as if it had not: once the Goal has ended, its loop run can be neither claimed nor
reopened nor driven, its Run has ended, and the Goal keeps its resolution. -/
theorem ended_for_good (request : OpenRequest) (stateGraph : List StateTransition)
    (id runId loopRunId : String) (nextRunAt now : Time) (labels : List EndedLabel)
    (hspares : endedSystem.Along SparesEnded
      (.start request stateGraph id runId loopRunId nextRunAt now) labels) :
    ∀ s, endedSystem.run (.start request stateGraph id runId loopRunId nextRunAt now) labels
      = some s → s.EndedForGood := by
  intro s hrun
  have hordered := endedSystem.run_preserves_along
    (fun _ _ _ hs hcond h => ended_step_ordered hs hcond h) start_ordered hspares hrun
  exact ⟨fun hended => ⟨spent_of_terminal (hordered.run (hordered.goal hended)),
    hordered.goal hended⟩, hordered.stays⟩

/-- A goal that was opened to be driven in the background. -/
def openedGoal : EndedState :=
  .start (plainRequest .durableGoal "") defaultStateGraph "goal" "run" "loop" 0 0

/-- A call of `cancel_goal`, from its first store call to its last. -/
def cancellationOf (call : Nat) (now : Time) : List EndedLabel :=
  .cancelGoal call "" :: List.replicate 8 (.advance call "cancel" now)

/-- A goal that is claimed and then cancelled has ended for good. -/
theorem ended_for_good_cancelled :
    ∃ s, endedSystem.run openedGoal (.claim "daemon" 180 1 false :: cancellationOf 0 2) = some s
      ∧ s.goal.state.phase = .ended ∧ s.EndedForGood := by
  refine ⟨_, rfl, rfl, ended_for_good (plainRequest .durableGoal "") defaultStateGraph "goal" "run"
    "loop" 0 0 (.claim "daemon" 180 1 false :: cancellationOf 0 2) ?_ _ rfl⟩
  refine System.along_cons_of_some _ trivial rfl ?_
  refine System.along_cons_of_some _ trivial rfl ?_
  refine System.along_cons_of_some _ trivial rfl ?_
  refine System.along_cons_of_some _ trivial rfl ?_
  refine System.along_cons_of_some _ trivial rfl ?_
  refine System.along_cons_of_some _ (fun _ => rfl) rfl ?_
  refine System.along_cons_of_some _ trivial rfl ?_
  refine System.along_cons_of_some _ trivial rfl ?_
  refine System.along_cons_of_some _ trivial rfl ?_
  exact System.along_cons_of_some _ (fun hended => (by cases hended)) rfl trivial

/-- A turn is completed after the timeout of the goal. -/
def stoppedByTurn : List EndedLabel :=
  [.turnCompleted 0 150, .advance 0 "" 150, .advance 0 "" 150]

/-- The goal has ended, and its loop run is active. -/
theorem stopped_goal_still_claimed :
    ¬ ∀ (request : OpenRequest) (stateGraph : List StateTransition) (id runId loopRunId : String)
      (nextRunAt now : Time) (labels : List EndedLabel) (s : EndedState),
      endedSystem.run (.start request stateGraph id runId loopRunId nextRunAt now) labels = some s →
        s.EndedForGood := by
  intro hall
  have hends : (endedSystem.run openedGoal stoppedByTurn).map
      (fun s => (s.goal.state.phase, s.loop.run.terminalState)) = some (.ended, none) := by
    decide +kernel
  obtain ⟨s, hs, hpair⟩ := Option.map_eq_some_iff.mp hends
  obtain ⟨hended, hactive⟩ := Prod.mk.inj hpair
  have hspent := ((hall _ _ _ _ _ _ _ _ s hs).rows hended).1
  exact hspent.inactive hactive

end Navi.Goals
