import Mathlib.Logic.Function.Basic
import Navi.Base.System
import Navi.Lifecycle.Projection
import Navi.Loop.Leases

/-!
# A driver and its cancellers

`run_goal_loop_state_graph` drives one loop and projects what came of it into
the Run and the Goal; any number of `cancel_loop` calls act on the same three
rows meanwhile. Every SELECT and every UPDATE is a step of its own, except where
an UPDATE is guarded by the version of the row it read: there the pair is one
step, and a version that moved in between is the label that raises.
-/

namespace Navi.Lifecycle.Control

open Navi.Base Navi.Loop
open Navi.Loop.Leases (Owner driver)

/-! ## What a stop is projected to -/

def endedUpdates (acceptance : Acceptance) (resolution : Resolution) (summary error : String) :
    RunUpdates where
  phase := some .ended
  governance := some .none
  acceptance := some acceptance
  resolution := some resolution
  planSummary := none
  resultSummary := some summary
  error := some error
  trustRuleId := none
  autonomyLevel := none

/-- The updates of a Run that goes on or is parked. -/
def openUpdates (phase : Phase) (governance : Option Governance) (resolution : Resolution)
    (summary error : String) : RunUpdates where
  phase := some phase
  governance := governance
  acceptance := some .unverified
  resolution := some resolution
  planSummary := none
  resultSummary := some summary
  error := some error
  trustRuleId := none
  autonomyLevel := none

/-- `_run_updates_for_loop`, given the summary the Run already has. -/
def runUpdatesForLoop (terminal : Option LoopTerminalState) (existing surface : String) :
    RunUpdates :=
  let summary := if existing = "" then surface else existing
  match terminal with
  | some .converged => endedUpdates .accepted .success surface ""
  | some .paused => openUpdates .paused none .blocked summary ""
  | some .waitingApproval => openUpdates .paused (some .awaitingApproval) .blocked summary ""
  | some .conflicted =>
      openUpdates .paused (some .awaitingApproval) .blocked surface "loop_conflicted"
  | some .blocked => endedUpdates .rejected .blocked surface "loop_blocked"
  | some .timedOut => endedUpdates .rejected .failed surface "loop_timed_out"
  | some .cancelled => endedUpdates .rejected .canceled surface "loop_cancelled"
  | some .superseded => endedUpdates .rejected .canceled surface "loop_superseded"
  | some .failed => endedUpdates .rejected .failed surface "loop_failed"
  | none => openUpdates .running none .blocked surface ""

/-- The phase and the resolution of a Run whose loop has this stop state. -/
def projectedTo (terminal : Option LoopTerminalState) : Phase × Resolution :=
  match terminal with
  | some .converged => (.ended, .success)
  | some .paused | some .waitingApproval | some .conflicted => (.paused, .blocked)
  | some .blocked => (.ended, .blocked)
  | some .timedOut | some .failed => (.ended, .failed)
  | some .cancelled | some .superseded => (.ended, .canceled)
  | none => (.running, .blocked)

/-- What a driver projects: the result of its run, or the exception it ended in. -/
inductive Outcome where
  | result (seen : LoopRunState) (deliverable : Bool) (existing surface : String)
      (checkerReport evidence : Dict)
  | exception (loopRunId typeName : String)

/-- `background_delivery_pending`; the flag says that a delivery is required and
that the Goal has a source and a peer. -/
def backgroundDeliveryPending (seen : LoopRunState) (deliverable : Bool) (surface : String) :
    Bool :=
  seen.terminalState = some .converged ∧ deliverable ∧ surface ≠ ""

/-- The text of `failure`. -/
def failureText (typeName : String) : String := "state_graph_exception:" ++ typeName

/-- The `run_updates` of the saga that `apply_state_graph_result` and
`fail_state_graph_execution` prepare. -/
def Outcome.runUpdates : Outcome → RunUpdates
  | .result seen deliverable existing surface _ _ =>
      if backgroundDeliveryPending seen deliverable surface then
        openUpdates .paused (some .none) .none "" ""
      else runUpdatesForLoop seen.terminalState existing surface
  | .exception _ typeName => endedUpdates .rejected .failed "" (failureText typeName)

/-- The `goal_evidence` of that saga. -/
def Outcome.goalEvidence : Outcome → Dict
  | .result seen deliverable _ surface checkerReport evidence =>
      let merged : Dict :=
        [("loop_run_id", .str seen.runId), ("loop_terminal_state", .str (terminalText seen)),
          ("checker_report", .obj checkerReport)]
      let delivery : Dict :=
        if backgroundDeliveryPending seen deliverable surface then
          [("delivery_status", .str "pending")]
        else []
      (merged.merge evidence).merge delivery
  | .exception loopRunId typeName =>
      [("state_transition", .str "state_graph_execution_failed"), ("loop_run_id", .str loopRunId),
        ("error", .str (failureText typeName))]

/-- The stop state an outcome reports. -/
def Outcome.terminal : Outcome → Option LoopTerminalState
  | .result seen _ _ _ _ _ => seen.terminalState
  | .exception _ _ => some .failed

/-! ## The two kinds of party -/

/-- Where a driver is. It projects through one saga: the Run read, written and
read back, then the Goal found by its Run, read again and written. -/
inductive DriverPc where
  | idle
  | running (seen : LoopRunState)
  | failing (typeName message : String)
  | projecting (outcome : Outcome)
  | runRead (outcome : Outcome) (run : Run)
  | runWritten (outcome : Outcome)
  | runReadBack (outcome : Outcome) (run : Run)
  | goalFound (outcome : Outcome) (run : Run) (found : Goal)
  | goalRead (outcome : Outcome) (run : Run) (found read : Goal)
  | done

/-- Where a `cancel_loop` call is; the evidence carries its reason. -/
inductive CancelPc where
  | idle
  | found (state : LoopRunState) (evidence : Dict)
  | checkpointed (state : LoopRunState) (evidence : Dict) (checkpointId : String)
  | committed (evidence : Dict)
  | runRead (evidence : Dict) (run : Run)
  | runWritten (evidence : Dict)
  | goalRead (evidence : Dict) (goal : Goal)
  | done

/-- The three rows, the driver and the cancellers. -/
structure ControlState where
  loop : LoopCell
  run : Run
  goal : Goal
  driver : DriverPc
  cancel : Nat → CancelPc

abbrev ControlState.terminal (s : ControlState) : Option LoopTerminalState :=
  s.loop.run.terminalState

def ControlState.start (loop : LoopCell) (run : Run) (goal : Goal) : ControlState :=
  ⟨loop, run, goal, .idle, fun _ => .idle⟩

/-- A step of one `cancel_loop` call. -/
inductive CancelStep where
  | getsRun (reason : String)
  | writesCheckpoint (id : String) (now : Time)
  | cancelsLoop (now : Time)
  | raises
  | readsRun
  | writesRun (now : Time)
  | readsGoal
  | writesGoal (now : Time)

/-- A step of the driver, its heartbeat included, or of one canceller. -/
inductive Label where
  | getsRun
  | claims (leaseSeconds now : Time)
  | renews (leaseSeconds now : Time)
  | writesCheckpoint (id : String) (node : LoopNode) (inputs : Dict) (now : Time)
  | transitions (request : TransitionRequest) (now : Time)
  | raises (typeName message : String)
  | returns (deliverable : Bool) (surface : String) (checkerReport evidence : Dict)
  | failsActiveRun (now : Time)
  | readsRun
  | writesRun (now : Time)
  | readsBack
  | findsGoal
  | readsGoal
  | writesGoal (now : Time)
  | cancel (i : Nat) (step : CancelStep)

/-- `update_state` as `update_for_run` calls it: columns computed from the Run,
the Goal found by its Run and the Goal read again, written over the row. -/
def writeGoal (row found read : Goal) (run : Run) (evidence : Dict) (now : Time) : Goal :=
  let computed := updateForRun read run evidence now
  { row with
    state := computed.state
    taskStatus := taskStatus computed.state (found.evidence.text "loop_kind")
    blockedReason := computed.blockedReason
    evidence := computed.evidence
    completedAt := computed.completedAt
    updatedAt := computed.updatedAt }

/-- `str(type(exc).__name__)` of a store error. -/
def typeName : StoreError → String
  | .keyError _ => "KeyError"
  | .valueError _ => "ValueError"
  | .runtimeError _ => "RuntimeError"

/-- `str(exc)`. -/
def message : StoreError → String
  | .keyError message | .valueError message | .runtimeError message => message

/-- The updates of `cancel_loop`. -/
def cancelUpdates : RunUpdates :=
  endedUpdates .rejected .canceled "loop cancelled" "loop_cancelled"

/-- `update_state` as `cancel_loop` calls it. -/
def cancelGoal (row read : Goal) (loopRunId : String) (evidence : Dict) (now : Time) : Goal :=
  let patch : Dict := [("loop_run_id", .str loopRunId)]
  { row with
    state := ⟨.ended, .none, .rejected, .canceled⟩
    taskStatus := "blocked"
    blockedReason := ""
    evidence := read.evidence.merge (patch.merge evidence)
    completedAt := now
    updatedAt := now }

/-- The transition `cancel_loop` asks for on a loop that runs. -/
def cancelRequest (node : LoopNode) (evidence : Dict) (checkpointId : String) :
    TransitionRequest where
  node := node
  terminalState := some .cancelled
  condition := "cancel_requested"
  evidence := evidence
  checkpointId := checkpointId
  leaseOwner := ""

def cancelEvidence (reason : String) : Dict :=
  [("reason", .str (if strip reason = "" then "cancel_requested" else strip reason))]

def ControlState.setCancel (s : ControlState) (i : Nat) (pc : CancelPc) : ControlState :=
  { s with cancel := Function.update s.cancel i pc }

/-- What cancelling the loop leads to: `cancel_loop` raises what the store raises. -/
def ControlState.cancelled (s : ControlState) (i : Nat) (evidence : Dict)
    (answer : Except StoreError LoopCell) : ControlState :=
  match answer with
  | .ok loop => { s with loop := loop }.setCancel i (.committed evidence)
  | .error _ => s.setCancel i .done

/-- A step of `cancel_loop`. -/
def cancelStep (s : ControlState) (i : Nat) : CancelStep → Option ControlState
  | .getsRun reason =>
      match s.cancel i with
      | .idle =>
          if s.loop.run.isTerminal then some (s.setCancel i .done)
          else some (s.setCancel i (.found s.loop.run (cancelEvidence reason)))
      | _ => none
  | .writesCheckpoint id now =>
      match s.cancel i with
      | .found state evidence =>
          if externallyWaiting state then none
          else
            let control : Dict := [("control", .str "cancel")]
            let loop := writeCheckpoint s.loop id state.node (control.merge evidence) now
            some ({ s with loop := loop }.setCancel i (.checkpointed state evidence id))
      | _ => none
  | .cancelsLoop now =>
      match s.cancel i with
      | .found state evidence =>
          if externallyWaiting state then
            some (s.cancelled i evidence (cancelExternalWait s.loop evidence now))
          else none
      | .checkpointed state evidence id =>
          some (s.cancelled i evidence
            (transition s.loop (cancelRequest state.node evidence id) now))
      | _ => none
  | .raises =>
      match s.cancel i with
      -- a loop that is already cancelled is returned without an UPDATE
      | .found state _ =>
          if externallyWaiting state ∧ s.terminal ≠ some .cancelled then
            some (s.setCancel i .done)
          else none
      | .checkpointed _ _ _ => some (s.setCancel i .done)
      | _ => none
  | .readsRun =>
      match s.cancel i with
      | .committed evidence => some (s.setCancel i (.runRead evidence s.run))
      | _ => none
  | .writesRun now =>
      match s.cancel i with
      | .runRead evidence run =>
          some ({ s with run := mergeRunUpdates run cancelUpdates now }.setCancel i
            (.runWritten evidence))
      | _ => none
  | .readsGoal =>
      match s.cancel i with
      | .runWritten evidence => some (s.setCancel i (.goalRead evidence s.goal))
      | _ => none
  | .writesGoal now =>
      match s.cancel i with
      | .goalRead evidence read =>
          let goal := cancelGoal s.goal read s.loop.run.runId evidence now
          some ({ s with goal := goal }.setCancel i .done)
      | _ => none

/-- The evidence `fail_state_graph_execution` fails the loop with. -/
def failEvidence (typeName message : String) : Dict :=
  [("reason", .str (failureText typeName)), ("error", .str message)]

/-- A step of the driver with this lease owner. -/
def driverStep (owner : Owner) (s : ControlState) : Label → Option ControlState
  | .getsRun =>
      match s.driver with
      | .idle => some { s with driver := .running s.loop.run }
      | _ => none
  | .claims leaseSeconds now =>
      match s.driver with
      | .running _ =>
          match claimForExecution s.loop owner.val leaseSeconds now false with
          | some loop => some { s with loop := loop, driver := .running loop.run }
          | none =>
              let refusal := "loop run is already claimed by another execution driver"
              some { s with driver := .failing "RuntimeError" refusal }
      | _ => none
  | .renews leaseSeconds now =>
      match s.driver with
      | .running _ =>
          some { s with
            loop := (renewExecutionLease s.loop owner.val leaseSeconds now).getD s.loop }
      | _ => none
  | .writesCheckpoint id node inputs now =>
      match s.driver with
      | .running _ => some { s with loop := writeCheckpoint s.loop id node inputs now }
      | _ => none
  | .transitions request now =>
      match s.driver with
      | .running _ =>
          -- cancelling is no move of the runner's
          if request.terminalState = some .cancelled then none
          else
            match transition s.loop request now with
            | .ok loop => some { s with loop := loop, driver := .running loop.run }
            | .error error => some { s with driver := .failing (typeName error) (message error) }
      | _ => none
  | .raises typeName message =>
      match s.driver with
      | .running _ => some { s with driver := .failing typeName message }
      | _ => none
  | .returns deliverable surface checkerReport evidence =>
      match s.driver with
      | .running seen =>
          -- `run_async` goes on while the loop is open at `PLAN`
          if seen.node = .plan ∧ seen.terminalState = none then none
          else
            let outcome :=
              Outcome.result seen deliverable s.run.resultSummary surface checkerReport evidence
            some { s with driver := .projecting outcome }
      | _ => none
  | .failsActiveRun now =>
      match s.driver with
      | .failing typeName message =>
          match failActiveRun s.loop owner.val (failEvidence typeName message) now with
          | .ok loop =>
              let outcome := Outcome.exception loop.run.runId typeName
              some { s with loop := loop, driver := .projecting outcome }
          | .error _ => some { s with driver := .done }
      | _ => none
  | .readsRun =>
      match s.driver with
      | .projecting outcome => some { s with driver := .runRead outcome s.run }
      | _ => none
  | .writesRun now =>
      match s.driver with
      | .runRead outcome run =>
          let written := mergeRunUpdates run outcome.runUpdates now
          some { s with run := written, driver := .runWritten outcome }
      | _ => none
  | .readsBack =>
      match s.driver with
      | .runWritten outcome => some { s with driver := .runReadBack outcome s.run }
      | _ => none
  | .findsGoal =>
      match s.driver with
      | .runReadBack outcome run => some { s with driver := .goalFound outcome run s.goal }
      | _ => none
  | .readsGoal =>
      match s.driver with
      | .goalFound outcome run found =>
          some { s with driver := .goalRead outcome run found s.goal }
      | _ => none
  | .writesGoal now =>
      match s.driver with
      | .goalRead outcome run found read =>
          let goal := writeGoal s.goal found read run outcome.goalEvidence now
          some { s with goal := goal, driver := .done }
      | _ => none
  | .cancel _ _ => none

/-- The driver and its cancellers, interleaved. -/
def controlSystem (owner : Owner) : System ControlState Label where
  step s
    | .cancel i step => cancelStep s i step
    | label => driverStep owner s label

/-! ## Agreement -/

/-- The Run and the Goal agree with a stop state: the Run is what the state is
projected to, or parked until the result of a converged loop is delivered, and
the Goal has the resolution of the Run. -/
def Agrees (terminal : LoopTerminalState) (run : Run) (goal : Goal) : Prop :=
  ((run.phase, run.resolution) = projectedTo (some terminal)
      ∨ terminal = .converged ∧ (run.phase, run.resolution) = (.paused, .none))
    ∧ goal.state.resolution = (goalStateForRun run).resolution

/-- What a driver is projecting, if anything. -/
def DriverPc.outcome : DriverPc → Option Outcome
  | .projecting outcome | .runRead outcome _ | .runWritten outcome | .runReadBack outcome _
  | .goalFound outcome _ _ | .goalRead outcome _ _ _ => some outcome
  | _ => none

/-- The exception a driver is projecting, if any. -/
def DriverPc.exception? (pc : DriverPc) : Option (String × String) :=
  match pc.outcome with
  | some (.exception loopRunId typeName) => some (loopRunId, typeName)
  | _ => none

theorem DriverPc.exception?_eq_some {pc : DriverPc} {loopRunId typeName : String} :
    pc.exception? = some (loopRunId, typeName)
      ↔ pc.outcome = some (.exception loopRunId typeName) := by
  unfold DriverPc.exception?
  split <;> simp_all

/-- The driver has returned or was never called. -/
def DriverPc.quiet : DriverPc → Prop
  | .idle | .done => True
  | _ => False

/-- The canceller has returned or was never called. -/
def CancelPc.quiet : CancelPc → Prop
  | .idle | .done => True
  | _ => False

def Quiet (s : ControlState) : Prop := s.driver.quiet ∧ ∀ i, (s.cancel i).quiet

/-- The terminal outcomes of the three rows agree. -/
structure OutcomesAgree (s : ControlState) : Prop where
  returned : Quiet s → ∀ terminal ∈ s.terminal, Agrees terminal s.run s.goal
  cancelled : Quiet s → s.terminal = some .cancelled →
    s.run.resolution = .canceled ∧ s.goal.state.resolution = .canceled
  converged : s.terminal = some .converged →
    ∀ outcome ∈ s.driver.outcome, outcome.runUpdates.resolution ≠ some .failed
  failed : ∀ loopRunId typeName, s.driver.outcome = some (.exception loopRunId typeName) →
    s.terminal = some .failed

/-- The canceller will still write the Run. -/
def CancelPc.willWriteRun : CancelPc → Bool
  | .found state _ => externallyWaiting state
  | .committed _ | .runRead _ _ => true
  | _ => false

/-- The canceller will still write the Goal. -/
def CancelPc.willWriteGoal : CancelPc → Bool
  | .found state _ => externallyWaiting state
  | .committed _ | .runRead _ _ | .runWritten _ | .goalRead _ _ => true
  | _ => false

/-- The exception path finds a loop that it can fail or that has failed; and a
driver writes what is no cancellation over a cancelled loop's row only where a
canceller is still to write that row. -/
def Respects (s : ControlState) : Label → Prop
  | .failsActiveRun _ => s.terminal = none ∨ s.terminal = some .failed
  | .writesRun _ =>
      s.terminal = some .cancelled → ∀ outcome ∈ s.driver.outcome,
        outcome.terminal = some .cancelled ∨ ∃ i, (s.cancel i).willWriteRun
  | .writesGoal _ =>
      s.terminal = some .cancelled → ∀ outcome run found read,
        s.driver = .goalRead outcome run found read →
          run.resolution = .canceled ∨ ∃ i, (s.cancel i).willWriteGoal
  | _ => True

/-! ## Projections -/

theorem outcome_projected (outcome : Outcome) :
    (outcome.runUpdates.phase = some (projectedTo outcome.terminal).1
        ∧ outcome.runUpdates.resolution = some (projectedTo outcome.terminal).2)
      ∨ (outcome.terminal = some .converged ∧ outcome.runUpdates.phase = some .paused
        ∧ outcome.runUpdates.resolution = some .none) := by
  cases outcome with
  | exception loopRunId typeName => exact .inl ⟨rfl, rfl⟩
  | result seen deliverable existing surface checkerReport evidence =>
      simp only [Outcome.runUpdates, Outcome.terminal]
      split
      next hpending =>
        have hconverged : seen.terminalState = some .converged := by
          simp only [backgroundDeliveryPending, decide_eq_true_eq] at hpending
          exact hpending.1
        exact .inr ⟨hconverged, rfl, rfl⟩
      next =>
        refine .inl ?_
        generalize seen.terminalState = terminal
        cases terminal with
        | none => exact ⟨rfl, rfl⟩
        | some terminal => cases terminal <;> exact ⟨rfl, rfl⟩

theorem projected_of_carried {outcome : Outcome} {run : Run}
    (hcarried : outcome.runUpdates.CarriedBy run) :
    (run.phase, run.resolution) = projectedTo outcome.terminal
      ∨ outcome.terminal = some .converged ∧ (run.phase, run.resolution) = (.paused, .none) := by
  rcases outcome_projected outcome with ⟨hphase, hresolution⟩ | ⟨hconverged, hphase, hresolution⟩
  · refine .inl ?_
    rw [hcarried.phase _ hphase, hcarried.resolution _ hresolution]
  · refine .inr ⟨hconverged, ?_⟩
    rw [hcarried.phase _ hphase, hcarried.resolution _ hresolution]

theorem ended_of_carried {outcome : Outcome} {run : Run}
    (hcarried : outcome.runUpdates.CarriedBy run) (hcanceled : run.resolution = .canceled) :
    run.phase = .ended := by
  rcases projected_of_carried hcarried with h | ⟨-, h⟩
  · unfold projectedTo at h
    split at h <;> simp_all
  · simp_all

theorem goalState_canceled {run : Run} (hended : run.phase = .ended)
    (hcanceled : run.resolution = .canceled) : (goalStateForRun run).resolution = .canceled := by
  simp [goalStateForRun, hended, hcanceled]

/-! ## The invariant -/

/-- The states a cancellation may take a loop from. -/
def Cancellable (terminal : Option LoopTerminalState) : Prop :=
  terminal = none ∨ terminal = some .paused ∨ terminal = some .waitingApproval

/-- The loop is where the driver saw it, or was cancelled since. -/
def Tracks (terminal seen : Option LoopTerminalState) : Prop :=
  terminal = seen ∨ terminal = some .cancelled ∧ Cancellable seen

/-- The rows agree, unless the loop is cancelled. -/
def Finished (terminal : Option LoopTerminalState) (run : Run) (goal : Goal) : Prop :=
  ∀ stop ∈ terminal, stop ≠ .cancelled → Agrees stop run goal

/-- A driver that has written the Run and read it as `back` since. -/
structure Written (terminal : Option LoopTerminalState) (run back : Run) (outcome : Outcome) :
    Prop where
  tracks : Tracks terminal outcome.terminal
  ended : back.resolution = .canceled → back.phase = .ended
  carried : terminal ≠ some .cancelled → outcome.runUpdates.CarriedBy back ∧ run = back

/-- What the driver's place says about the rows. -/
def DriverInv (terminal : Option LoopTerminalState) (run : Run) (goal : Goal) : DriverPc → Prop
  | .idle | .done => Finished terminal run goal
  | .running seen => Tracks terminal seen.terminalState
  | .failing _ _ => True
  | .projecting outcome | .runRead outcome _ => Tracks terminal outcome.terminal
  | .runWritten outcome => Written terminal run run outcome
  | .runReadBack outcome back | .goalFound outcome back _ | .goalRead outcome back _ _ =>
      Written terminal run back outcome

/-- A canceller that has cancelled the loop. -/
def CancelPc.hasCancelled : CancelPc → Prop
  | .committed _ | .runRead _ _ | .runWritten _ | .goalRead _ _ => True
  | _ => False

/-- The rows of a cancelled loop say so, or a canceller will write them. -/
structure CancelSettled (run : Run) (goal : Goal) (cancel : Nat → CancelPc) : Prop where
  run : (run.phase = .ended ∧ run.resolution = .canceled) ∨ ∃ i, (cancel i).willWriteRun
  goal : goal.state.resolution = .canceled ∨ ∃ i, (cancel i).willWriteGoal

/-- The invariant of the interleaving. -/
structure Inv (s : ControlState) : Prop where
  driver : DriverInv s.terminal s.run s.goal s.driver
  cancellers : ∀ i, (s.cancel i).hasCancelled → s.terminal = some .cancelled
  settled : s.terminal = some .cancelled → CancelSettled s.run s.goal s.cancel

theorem tracks_cancel {terminal seen : Option LoopTerminalState} (hopen : Cancellable terminal)
    (h : Tracks terminal seen) : Tracks (some .cancelled) seen := by
  rcases h with rfl | ⟨-, hseen⟩
  · exact .inr ⟨rfl, hopen⟩
  · exact .inr ⟨rfl, hseen⟩

theorem driverInv_cancel {terminal : Option LoopTerminalState} {run : Run} {goal : Goal}
    {pc : DriverPc} (hopen : Cancellable terminal) (h : DriverInv terminal run goal pc) :
    DriverInv (some .cancelled) run goal pc := by
  have hfinished : Finished (some .cancelled) run goal := by
    intro stop hstop hnot
    exact absurd (Option.some.inj hstop).symm hnot
  have hwritten : ∀ {back outcome}, Written terminal run back outcome →
      Written (some .cancelled) run back outcome := by
    intro back outcome hw
    exact ⟨tracks_cancel hopen hw.tracks, hw.ended, fun hnot => absurd rfl hnot⟩
  cases pc with
  | idle => exact hfinished
  | done => exact hfinished
  | failing _ _ => trivial
  | running _ => exact tracks_cancel hopen h
  | projecting _ => exact tracks_cancel hopen h
  | runRead _ _ => exact tracks_cancel hopen h
  | runWritten _ => exact hwritten h
  | runReadBack _ _ => exact hwritten h
  | goalFound _ _ _ => exact hwritten h
  | goalRead _ _ _ _ => exact hwritten h

theorem driverInv_cancelled {run run' : Run} {goal goal' : Goal} {pc : DriverPc}
    (hrun : run' = run ∨ (run'.resolution = .canceled → run'.phase = .ended))
    (h : DriverInv (some .cancelled) run goal pc) : DriverInv (some .cancelled) run' goal' pc := by
  have hfinished : Finished (some .cancelled) run' goal' := by
    intro stop hstop hnot
    exact absurd (Option.some.inj hstop).symm hnot
  have hwritten : ∀ {back outcome}, Written (some .cancelled) run back outcome →
      Written (some .cancelled) run' back outcome := by
    intro back outcome hw
    exact ⟨hw.tracks, hw.ended, fun hnot => absurd rfl hnot⟩
  cases pc with
  | idle => exact hfinished
  | done => exact hfinished
  | failing _ _ => trivial
  | running _ => exact h
  | projecting _ => exact h
  | runRead _ _ => exact h
  | runWritten outcome =>
      refine ⟨Written.tracks h, ?_, fun hnot => absurd rfl hnot⟩
      rcases hrun with rfl | hended
      · exact Written.ended h
      · exact hended
  | runReadBack _ _ => exact hwritten h
  | goalFound _ _ _ => exact hwritten h
  | goalRead _ _ _ _ => exact hwritten h

/-! ### Cancellers -/

/-- One canceller moving on keeps a promise that some canceller makes, if it
makes it still. -/
theorem exists_update {promises : CancelPc → Bool} {cancel : Nat → CancelPc} {i : Nat}
    {pc : CancelPc} (hkeeps : promises (cancel i) → promises pc)
    (h : ∃ j, promises (cancel j)) : ∃ j, promises (Function.update cancel i pc j) := by
  obtain ⟨j, hj⟩ := h
  by_cases hij : j = i
  · subst hij
    exact ⟨j, by simpa using hkeeps hj⟩
  · exact ⟨j, by simpa [hij] using hj⟩

theorem CancelSettled.update {run : Run} {goal : Goal} {cancel : Nat → CancelPc}
    (h : CancelSettled run goal cancel) {i : Nat} {pc : CancelPc}
    (hrun : (cancel i).willWriteRun → pc.willWriteRun)
    (hgoal : (cancel i).willWriteGoal → pc.willWriteGoal) :
    CancelSettled run goal (Function.update cancel i pc) :=
  ⟨h.run.imp_right (exists_update hrun), h.goal.imp_right (exists_update hgoal)⟩

theorem inv_loop {s : ControlState} (h : Inv s) (loop : LoopCell)
    (hloop : loop.run.terminalState = s.terminal) : Inv { s with loop := loop } := by
  refine ⟨?_, fun i hi => hloop.trans (h.cancellers i hi), fun ht => h.settled (hloop ▸ ht)⟩
  show DriverInv loop.run.terminalState s.run s.goal s.driver
  rw [hloop]
  exact h.driver

theorem inv_setCancel {s : ControlState} (h : Inv s) {i : Nat} {pc : CancelPc}
    (hcancelled : pc.hasCancelled → s.terminal = some .cancelled)
    (hrun : s.terminal = some .cancelled → (s.cancel i).willWriteRun → pc.willWriteRun)
    (hgoal : s.terminal = some .cancelled → (s.cancel i).willWriteGoal → pc.willWriteGoal) :
    Inv (s.setCancel i pc) := by
  refine ⟨h.driver, ?_, fun ht => (h.settled ht).update (hrun ht) (hgoal ht)⟩
  intro j hj
  by_cases hij : j = i
  · subst hij
    exact hcancelled (by simpa [ControlState.setCancel] using hj)
  · exact h.cancellers j (by simpa [ControlState.setCancel, hij] using hj)

theorem inv_committed {s : ControlState} (h : Inv s) {i : Nat} {loop : LoopCell}
    (hopen : s.terminal = some .cancelled ∨ Cancellable s.terminal)
    (hloop : loop.run.terminalState = some .cancelled) (evidence : Dict) :
    Inv ({ s with loop := loop }.setCancel i (.committed evidence)) := by
  have hwill : ∀ promises : CancelPc → Bool, promises (.committed evidence) →
      ∃ j, promises (Function.update s.cancel i (.committed evidence) j) := by
    intro promises hpromises
    exact ⟨i, by simpa using hpromises⟩
  refine ⟨?_, fun _ _ => hloop, fun _ => ⟨.inr (hwill _ rfl), .inr (hwill _ rfl)⟩⟩
  have hdriver := h.driver
  show DriverInv loop.run.terminalState s.run s.goal s.driver
  rw [hloop]
  rcases hopen with hterminal | hopen
  · rwa [hterminal] at hdriver
  · exact driverInv_cancel hopen hdriver

theorem cancelExternalWait_ok {cell cell' : LoopCell} {evidence : Dict} {now : Time}
    (h : cancelExternalWait cell evidence now = .ok cell') :
    cell'.run.terminalState = some .cancelled
      ∧ (cell.run.terminalState = some .cancelled ∨ Cancellable cell.run.terminalState) := by
  simp only [cancelExternalWait, cancelWaiting] at h
  split_ifs at h with hcancelled hwaiting
  · obtain rfl := Except.ok.inj h
    exact ⟨hcancelled, .inl hcancelled⟩
  · obtain rfl := Except.ok.inj h
    refine ⟨rfl, .inr (.inr ?_)⟩
    simpa [externallyWaiting] using hwaiting

theorem cancelExternalWait_error {cell : LoopCell} {evidence : Dict} {now : Time}
    {error : StoreError} (h : cancelExternalWait cell evidence now = .error error) :
    cell.run.terminalState ≠ some .cancelled := by
  intro hcancelled
  simp [cancelExternalWait, cancelWaiting, hcancelled] at h

theorem cancelStep_inv {s s' : ControlState} {i : Nat} {step : CancelStep} (h : Inv s)
    (hstep : cancelStep s i step = some s') : Inv s' := by
  cases step with
  | getsRun reason =>
      simp only [cancelStep] at hstep
      split at hstep
      next hpc =>
        split at hstep
        · obtain rfl := Option.some.inj hstep
          exact inv_setCancel h (by simp [CancelPc.hasCancelled])
            (by simp [hpc, CancelPc.willWriteRun]) (by simp [hpc, CancelPc.willWriteGoal])
        · obtain rfl := Option.some.inj hstep
          exact inv_setCancel h (by simp [CancelPc.hasCancelled])
            (by simp [hpc, CancelPc.willWriteRun]) (by simp [hpc, CancelPc.willWriteGoal])
      next => cases hstep
  | writesCheckpoint id now =>
      simp only [cancelStep] at hstep
      split at hstep
      next state evidence hpc =>
        split at hstep
        · cases hstep
        next hrunning =>
          obtain rfl := Option.some.inj hstep
          have hwritten := inv_loop h (writeCheckpoint s.loop id state.node
            (Dict.merge [("control", .str "cancel")] evidence) now) rfl
          exact inv_setCancel hwritten (by simp [CancelPc.hasCancelled])
            (by simp [hpc, CancelPc.willWriteRun, hrunning])
            (by simp [hpc, CancelPc.willWriteGoal, hrunning])
      next => cases hstep
  | cancelsLoop now =>
      simp only [cancelStep] at hstep
      split at hstep
      next state evidence hpc =>
        split at hstep
        next hwaiting =>
          obtain rfl := Option.some.inj hstep
          unfold ControlState.cancelled
          split
          next loop hok =>
            obtain ⟨hloop, hopen⟩ := cancelExternalWait_ok hok
            exact inv_committed h hopen hloop evidence
          next error herror =>
            have hnot := cancelExternalWait_error herror
            exact inv_setCancel h (by simp [CancelPc.hasCancelled])
              (fun hterminal => absurd hterminal hnot) (fun hterminal => absurd hterminal hnot)
        next => cases hstep
      next state evidence id hpc =>
        obtain rfl := Option.some.inj hstep
        unfold ControlState.cancelled
        split
        next loop hok =>
          obtain ⟨hpermitted, rfl⟩ := transition_eq_ok.mp hok
          exact inv_committed h (.inr (.inl hpermitted.running)) rfl evidence
        next error herror =>
          exact inv_setCancel h (by simp [CancelPc.hasCancelled])
            (by simp [hpc, CancelPc.willWriteRun]) (by simp [hpc, CancelPc.willWriteGoal])
      next => cases hstep
  | raises =>
      simp only [cancelStep] at hstep
      split at hstep
      next state evidence hpc =>
        split at hstep
        next hcollides =>
          obtain rfl := Option.some.inj hstep
          exact inv_setCancel h (by simp [CancelPc.hasCancelled])
            (fun hterminal => absurd hterminal hcollides.2)
            (fun hterminal => absurd hterminal hcollides.2)
        next => cases hstep
      next state evidence id hpc =>
        obtain rfl := Option.some.inj hstep
        exact inv_setCancel h (by simp [CancelPc.hasCancelled])
          (by simp [hpc, CancelPc.willWriteRun]) (by simp [hpc, CancelPc.willWriteGoal])
      next => cases hstep
  | readsRun =>
      simp only [cancelStep] at hstep
      split at hstep
      next evidence hpc =>
        obtain rfl := Option.some.inj hstep
        have hcancelled := h.cancellers i (by simp [hpc, CancelPc.hasCancelled])
        exact inv_setCancel h (fun _ => hcancelled) (fun _ _ => rfl) (fun _ _ => rfl)
      next => cases hstep
  | writesRun now =>
      simp only [cancelStep] at hstep
      split at hstep
      next evidence run hpc =>
        obtain rfl := Option.some.inj hstep
        have hcancelled := h.cancellers i (by simp [hpc, CancelPc.hasCancelled])
        have hdriver := h.driver
        rw [hcancelled] at hdriver
        refine ⟨?_, fun _ _ => hcancelled, fun _ => ⟨.inl ⟨rfl, rfl⟩, ?_⟩⟩
        · show DriverInv s.terminal (mergeRunUpdates run cancelUpdates now) s.goal s.driver
          rw [hcancelled]
          exact driverInv_cancelled (.inr fun _ => rfl) hdriver
        · exact (h.settled hcancelled).goal.imp_right (exists_update fun _ => rfl)
      next => cases hstep
  | readsGoal =>
      simp only [cancelStep] at hstep
      split at hstep
      next evidence hpc =>
        obtain rfl := Option.some.inj hstep
        have hcancelled := h.cancellers i (by simp [hpc, CancelPc.hasCancelled])
        exact inv_setCancel h (fun _ => hcancelled) (by simp [hpc, CancelPc.willWriteRun])
          (fun _ _ => rfl)
      next => cases hstep
  | writesGoal now =>
      simp only [cancelStep] at hstep
      split at hstep
      next evidence read hpc =>
        obtain rfl := Option.some.inj hstep
        have hcancelled := h.cancellers i (by simp [hpc, CancelPc.hasCancelled])
        have hdriver := h.driver
        have hsettled := h.settled hcancelled
        rw [hcancelled] at hdriver
        refine ⟨?_, fun _ _ => hcancelled, fun _ => ⟨?_, .inl rfl⟩⟩
        · show DriverInv s.terminal s.run _ s.driver
          rw [hcancelled]
          exact driverInv_cancelled (.inl rfl) hdriver
        · exact hsettled.run.imp_right (exists_update (by simp [hpc, CancelPc.willWriteRun]))
      next => cases hstep

/-! ### The driver -/

theorem inv_driver {s : ControlState} (h : Inv s) {loop : LoopCell} {pc : DriverPc}
    (hloop : loop.run.terminalState = s.terminal) (hpc : DriverInv s.terminal s.run s.goal pc) :
    Inv { s with loop := loop, driver := pc } := by
  refine ⟨?_, fun i hi => hloop.trans (h.cancellers i hi), fun ht => h.settled (hloop ▸ ht)⟩
  show DriverInv loop.run.terminalState s.run s.goal pc
  rwa [hloop]

theorem inv_moved {s : ControlState} (h : Inv s) (hopen : s.terminal = none) {loop : LoopCell}
    {pc : DriverPc} (hnot : loop.run.terminalState ≠ some .cancelled)
    (hpc : DriverInv loop.run.terminalState s.run s.goal pc) :
    Inv { s with loop := loop, driver := pc } := by
  refine ⟨hpc, ?_, fun ht => absurd ht hnot⟩
  intro i hi
  have hcancelled := h.cancellers i hi
  rw [hopen] at hcancelled
  cases hcancelled

theorem claimForExecution_terminal {cell cell' : LoopCell} {owner : String}
    {leaseSeconds now : Time} {allowPaused : Bool}
    (h : claimForExecution cell owner leaseSeconds now allowPaused = some cell') :
    cell'.run.terminalState = cell.run.terminalState := by
  obtain ⟨-, rfl⟩ := claimForExecution_eq_some.mp h
  rfl

theorem renewExecutionLease_terminal (cell : LoopCell) (owner : String)
    (leaseSeconds now : Time) :
    ((renewExecutionLease cell owner leaseSeconds now).getD cell).run.terminalState
      = cell.run.terminalState := by
  unfold renewExecutionLease
  split_ifs <;> rfl

theorem failActiveRun_ok {cell cell' : LoopCell} {owner : String} {evidence : Dict} {now : Time}
    (h : failActiveRun cell owner evidence now = .ok cell') :
    (cell.run.terminalState ≠ none ∧ cell' = cell)
      ∨ (cell.run.terminalState = none ∧ cell'.run.terminalState = some .failed) := by
  unfold failActiveRun at h
  split_ifs at h with hblank hstopped hlost
  · obtain rfl := Except.ok.inj h
    refine .inl ⟨?_, rfl⟩
    simpa [Option.isSome_iff_ne_none] using hstopped
  · obtain rfl := Except.ok.inj h
    exact .inr ⟨by simpa using hstopped, rfl⟩

theorem failActiveRun_error {cell : LoopCell} {owner : Owner} {evidence : Dict} {now : Time}
    {error : StoreError} (h : failActiveRun cell owner.val evidence now = .error error) :
    cell.run.terminalState = none := by
  unfold failActiveRun at h
  split_ifs at h with hblank hstopped hlost
  · exact absurd hblank owner.property
  · simpa using hstopped

theorem finished_of_open {terminal : Option LoopTerminalState} {run : Run} {goal : Goal}
    (h : terminal = none) : Finished terminal run goal := by
  intro stop hstop
  rw [h] at hstop
  cases hstop

theorem written_of_merge {terminal : Option LoopTerminalState} {outcome : Outcome} (run : Run)
    (now : Time) (htracks : Tracks terminal outcome.terminal) :
    Written terminal (mergeRunUpdates run outcome.runUpdates now)
      (mergeRunUpdates run outcome.runUpdates now) outcome := by
  have hcarried := carriedBy_mergeRunUpdates run outcome.runUpdates now
  exact ⟨htracks, ended_of_carried hcarried, fun _ => ⟨hcarried, rfl⟩⟩

/-- The Goal as a driver has just written it: the rows agree unless the loop was
cancelled. -/
theorem finished_of_written {terminal : Option LoopTerminalState} {run back : Run}
    {outcome : Outcome} (h : Written terminal run back outcome) (row found read : Goal)
    (evidence : Dict) (now : Time) :
    Finished terminal run (writeGoal row found read back evidence now) := by
  intro stop hstop hnot
  have hterminal : terminal ≠ some .cancelled := by
    rw [Option.mem_def.mp hstop]
    simpa using hnot
  obtain ⟨hcarried, rfl⟩ := h.carried hterminal
  refine ⟨?_, rfl⟩
  have hsame := h.tracks.resolve_right fun hcancelled => hterminal hcancelled.1
  have hprojected := projected_of_carried hcarried
  rw [← hsame, Option.mem_def.mp hstop] at hprojected
  exact hprojected.imp_right fun hdelivery => ⟨Option.some.inj hdelivery.1, hdelivery.2⟩

theorem driverStep_inv (owner : Owner) {s s' : ControlState} {label : Label} (h : Inv s)
    (hrespects : Respects s label) (hstep : driverStep owner s label = some s') : Inv s' := by
  have hdriver := h.driver
  cases label with
  | cancel i step => cases hstep
  | getsRun =>
      simp only [driverStep] at hstep
      split at hstep
      next hpc =>
        obtain rfl := Option.some.inj hstep
        exact inv_driver h rfl (.inl rfl)
      next => cases hstep
  | claims leaseSeconds now =>
      simp only [driverStep] at hstep
      split at hstep
      next seen hpc =>
        split at hstep
        next loop hclaimed =>
          obtain rfl := Option.some.inj hstep
          have hterminal := claimForExecution_terminal hclaimed
          exact inv_driver h hterminal (.inl hterminal.symm)
        next =>
          obtain rfl := Option.some.inj hstep
          exact inv_driver h rfl trivial
      next => cases hstep
  | renews leaseSeconds now =>
      simp only [driverStep] at hstep
      split at hstep
      next seen hpc =>
        obtain rfl := Option.some.inj hstep
        exact inv_loop h _ (renewExecutionLease_terminal s.loop owner.val leaseSeconds now)
      next => cases hstep
  | writesCheckpoint id node inputs now =>
      simp only [driverStep] at hstep
      split at hstep
      next seen hpc =>
        obtain rfl := Option.some.inj hstep
        exact inv_loop h _ rfl
      next => cases hstep
  | transitions request now =>
      simp only [driverStep] at hstep
      split at hstep
      next seen hpc =>
        split at hstep
        · cases hstep
        next hnot =>
          split at hstep
          next loop hok =>
            obtain rfl := Option.some.inj hstep
            obtain ⟨hpermitted, rfl⟩ := transition_eq_ok.mp hok
            exact inv_moved h hpermitted.running hnot (.inl rfl)
          next =>
            obtain rfl := Option.some.inj hstep
            exact inv_driver h rfl trivial
      next => cases hstep
  | raises typeName message =>
      simp only [driverStep] at hstep
      split at hstep
      next seen hpc =>
        obtain rfl := Option.some.inj hstep
        exact inv_driver h rfl trivial
      next => cases hstep
  | returns deliverable surface checkerReport evidence =>
      simp only [driverStep] at hstep
      split at hstep
      next seen hpc =>
        split at hstep
        · cases hstep
        · obtain rfl := Option.some.inj hstep
          rw [hpc] at hdriver
          exact inv_driver h rfl hdriver
      next => cases hstep
  | failsActiveRun now =>
      simp only [driverStep] at hstep
      split at hstep
      next typeName message hpc =>
        split at hstep
        next loop hok =>
          obtain rfl := Option.some.inj hstep
          rcases failActiveRun_ok hok with ⟨hstopped, rfl⟩ | ⟨hopen, hfailed⟩
          · -- the loop is returned as found, and was found failed
            exact inv_driver h rfl (.inl (hrespects.resolve_left hstopped))
          · exact inv_moved h hopen (by simp [hfailed]) (.inl hfailed)
        next error herror =>
          obtain rfl := Option.some.inj hstep
          exact inv_driver h rfl (finished_of_open (failActiveRun_error herror))
      next => cases hstep
  | readsRun =>
      simp only [driverStep] at hstep
      split at hstep
      next outcome hpc =>
        obtain rfl := Option.some.inj hstep
        rw [hpc] at hdriver
        exact inv_driver h rfl hdriver
      next => cases hstep
  | writesRun now =>
      simp only [driverStep] at hstep
      split at hstep
      next outcome run hpc =>
        obtain rfl := Option.some.inj hstep
        rw [hpc] at hdriver
        refine ⟨written_of_merge run now hdriver, h.cancellers, fun hcancelled => ⟨?_, ?_⟩⟩
        · rcases hrespects hcancelled outcome (by simp [hpc, DriverPc.outcome]) with hsame | hwill
          · have hprojected := projected_of_carried
              (carriedBy_mergeRunUpdates run outcome.runUpdates now)
            rw [hsame] at hprojected
            exact .inl (by simpa [projectedTo] using hprojected)
          · exact .inr hwill
        · exact (h.settled hcancelled).goal
      next => cases hstep
  | readsBack =>
      simp only [driverStep] at hstep
      split at hstep
      next outcome hpc =>
        obtain rfl := Option.some.inj hstep
        rw [hpc] at hdriver
        exact inv_driver h rfl hdriver
      next => cases hstep
  | findsGoal =>
      simp only [driverStep] at hstep
      split at hstep
      next outcome run hpc =>
        obtain rfl := Option.some.inj hstep
        rw [hpc] at hdriver
        exact inv_driver h rfl hdriver
      next => cases hstep
  | readsGoal =>
      simp only [driverStep] at hstep
      split at hstep
      next outcome run found hpc =>
        obtain rfl := Option.some.inj hstep
        rw [hpc] at hdriver
        exact inv_driver h rfl hdriver
      next => cases hstep
  | writesGoal now =>
      simp only [driverStep] at hstep
      split at hstep
      next outcome back found read hpc =>
        obtain rfl := Option.some.inj hstep
        rw [hpc] at hdriver
        refine ⟨finished_of_written hdriver s.goal found read outcome.goalEvidence now,
          h.cancellers, fun hcancelled => ⟨(h.settled hcancelled).run, ?_⟩⟩
        rcases hrespects hcancelled outcome back found read hpc with hcanceled | hwill
        · exact .inl (goalState_canceled (Written.ended hdriver hcanceled) hcanceled)
        · exact .inr hwill
      next => cases hstep

/-! ## Runs -/

theorem step_inv {owner : Owner} (s : ControlState) (label : Label) (s' : ControlState)
    (h : Inv s) (hrespects : Respects s label)
    (hstep : (controlSystem owner).step s label = some s') : Inv s' := by
  cases label with
  | cancel i step => exact cancelStep_inv h hstep
  | _ => exact driverStep_inv owner h hrespects hstep

theorem Quiet.settled {s : ControlState} (hquiet : Quiet s) (h : Inv s)
    (hcancelled : s.terminal = some .cancelled) :
    (s.run.phase = .ended ∧ s.run.resolution = .canceled)
      ∧ s.goal.state.resolution = .canceled := by
  have hrun : ∀ i, ¬ (s.cancel i).willWriteRun := by
    intro i hwill
    have hq := hquiet.2 i
    cases hpc : s.cancel i <;> simp_all [CancelPc.quiet, CancelPc.willWriteRun]
  have hgoal : ∀ i, ¬ (s.cancel i).willWriteGoal := by
    intro i hwill
    have hq := hquiet.2 i
    cases hpc : s.cancel i <;> simp_all [CancelPc.quiet, CancelPc.willWriteGoal]
  have hsettled := h.settled hcancelled
  refine ⟨hsettled.run.resolve_right ?_, hsettled.goal.resolve_right ?_⟩
  · rintro ⟨i, hi⟩
    exact hrun i hi
  · rintro ⟨i, hi⟩
    exact hgoal i hi

theorem tracks_outcome {s : ControlState} (h : Inv s) {outcome : Outcome}
    (houtcome : s.driver.outcome = some outcome) : Tracks s.terminal outcome.terminal := by
  have hdriver := h.driver
  cases hpc : s.driver with
  | idle => simp [hpc, DriverPc.outcome] at houtcome
  | done => simp [hpc, DriverPc.outcome] at houtcome
  | failing _ _ => simp [hpc, DriverPc.outcome] at houtcome
  | running _ => simp [hpc, DriverPc.outcome] at houtcome
  | projecting found =>
      obtain rfl : found = outcome := by simpa [hpc, DriverPc.outcome] using houtcome
      rwa [hpc] at hdriver
  | runRead found _ =>
      obtain rfl : found = outcome := by simpa [hpc, DriverPc.outcome] using houtcome
      rwa [hpc] at hdriver
  | runWritten found =>
      obtain rfl : found = outcome := by simpa [hpc, DriverPc.outcome] using houtcome
      rw [hpc] at hdriver
      exact hdriver.tracks
  | runReadBack found _ =>
      obtain rfl : found = outcome := by simpa [hpc, DriverPc.outcome] using houtcome
      rw [hpc] at hdriver
      exact hdriver.tracks
  | goalFound found _ _ =>
      obtain rfl : found = outcome := by simpa [hpc, DriverPc.outcome] using houtcome
      rw [hpc] at hdriver
      exact hdriver.tracks
  | goalRead found _ _ _ =>
      obtain rfl : found = outcome := by simpa [hpc, DriverPc.outcome] using houtcome
      rw [hpc] at hdriver
      exact hdriver.tracks

theorem outcomesAgree_of_inv {s : ControlState} (h : Inv s) : OutcomesAgree s where
  returned := by
    intro hquiet terminal hterminal
    by_cases hcancelled : terminal = .cancelled
    · subst hcancelled
      obtain ⟨⟨hphase, hresolution⟩, hgoal⟩ := hquiet.settled h hterminal
      refine ⟨.inl (by rw [hphase, hresolution]; rfl), ?_⟩
      rw [hgoal, goalState_canceled hphase hresolution]
    · have hdriver := h.driver
      have hq := hquiet.1
      cases hpc : s.driver with
      | idle =>
          rw [hpc] at hdriver
          exact hdriver terminal hterminal hcancelled
      | done =>
          rw [hpc] at hdriver
          exact hdriver terminal hterminal hcancelled
      | _ => simp [hpc, DriverPc.quiet] at hq
  cancelled := by
    intro hquiet hcancelled
    obtain ⟨⟨-, hresolution⟩, hgoal⟩ := hquiet.settled h hcancelled
    exact ⟨hresolution, hgoal⟩
  converged := by
    intro hconverged outcome houtcome hfailed
    have htracks := tracks_outcome h houtcome
    rw [hconverged] at htracks
    have hsame := htracks.resolve_right (by simp)
    rcases outcome_projected outcome with ⟨-, hresolution⟩ | ⟨-, -, hresolution⟩
    · rw [hfailed, ← hsame] at hresolution
      cases hresolution
    · rw [hfailed] at hresolution
      cases hresolution
  failed := by
    intro loopRunId typeName houtcome
    rcases tracks_outcome h houtcome with hfailed | ⟨-, hopen⟩
    · exact hfailed
    · simp [Outcome.terminal, Cancellable] at hopen

/-- In a run whose exception path finds the loop open or failed, and whose driver
leaves to the cancellers the rows of a loop that they cancelled, the terminal
outcomes of the loop, the Run and the Goal agree in every state. -/
theorem outcomes_agree (owner : Owner) (loop : LoopCell) (run : Run) (goal : Goal)
    (labels : List Label) (s : ControlState)
    (hagree : ∀ terminal ∈ loop.run.terminalState, Agrees terminal run goal)
    (hrespects : (controlSystem owner).Along Respects (.start loop run goal) labels)
    (hrun : (controlSystem owner).run (.start loop run goal) labels = some s) :
    OutcomesAgree s := by
  have hstart : Inv (.start loop run goal) := by
    refine ⟨fun stop hstop _ => hagree stop hstop, fun i hi => hi.elim, ?_⟩
    intro hcancelled
    obtain ⟨hprojected, hgoal⟩ := hagree .cancelled hcancelled
    have hrow : run.phase = .ended ∧ run.resolution = .canceled := by
      simpa [projectedTo] using hprojected
    exact ⟨.inl hrow, .inl (hgoal.trans (goalState_canceled hrow.1 hrow.2))⟩
  exact outcomesAgree_of_inv
    ((controlSystem owner).run_preserves_along step_inv hstart hrespects hrun)

def openedLoop : LoopCell := createRun defaultStateGraph "loop" "goal" .plan [] 0

/-- A loop that waits, with the Run and the Goal that say so. -/
def waitingLoop : LoopCell :=
  { openedLoop with run := { openedLoop.run with node := .pause, terminalState := some .paused } }

def waitingRun : Run := { runningRun "run" with phase := .paused, resolution := .blocked }

def waitingGoal : Goal :=
  { runningGoal "goal" "run" with state := ⟨.running, .none, .none, .blocked⟩ }

/-- A driver returns the wait and projects it while a `cancel_loop` call cancels it: the
driver writes each row before the call does. -/
def cancelledWhileProjecting : List Label :=
  [.getsRun, .cancel 0 (.getsRun ""), .returns false "" [] [], .readsRun,
    .cancel 0 (.cancelsLoop 1), .writesRun 2, .cancel 0 .readsRun, .cancel 0 (.writesRun 3),
    .readsBack, .findsGoal, .readsGoal, .cancel 0 .readsGoal, .writesGoal 4,
    .cancel 0 (.writesGoal 5)]

theorem outcomes_agree_cancelled :
    ∃ s, (controlSystem driver).run (.start waitingLoop waitingRun waitingGoal)
        cancelledWhileProjecting = some s
      ∧ s.terminal = some .cancelled ∧ OutcomesAgree s := by
  have hends : ((controlSystem driver).run (.start waitingLoop waitingRun waitingGoal)
      cancelledWhileProjecting).map ControlState.terminal = some (some .cancelled) := by
    decide +kernel
  obtain ⟨s, hrun, hterminal⟩ := Option.map_eq_some_iff.mp hends
  refine ⟨s, hrun, hterminal, ?_⟩
  refine outcomes_agree driver waitingLoop _ _ cancelledWhileProjecting s ?_ ?_ hrun
  · rintro terminal ⟨rfl⟩
    exact ⟨.inl rfl, rfl⟩
  · -- the driver writes each row while the call has still to write it
    let sys := controlSystem driver
    refine sys.along_cons_of_some trivial rfl (sys.along_cons_of_some trivial rfl ?_)
    refine sys.along_cons_of_some trivial rfl (sys.along_cons_of_some trivial rfl ?_)
    refine sys.along_cons_of_some trivial rfl ?_
    refine sys.along_cons_of_some (fun _ _ _ => .inr ⟨0, rfl⟩) rfl ?_
    refine sys.along_cons_of_some trivial rfl (sys.along_cons_of_some trivial rfl ?_)
    refine sys.along_cons_of_some trivial rfl (sys.along_cons_of_some trivial rfl ?_)
    refine sys.along_cons_of_some trivial rfl (sys.along_cons_of_some trivial rfl ?_)
    refine sys.along_cons_of_some (fun _ _ _ _ _ _ => .inr ⟨0, rfl⟩) rfl ?_
    exact sys.along_cons_of_some trivial rfl trivial

/-- One `cancel_loop` call, from its first read to its last write. -/
def cancelCall (i : Nat) (now : Time) : List Label :=
  [.cancel i (.getsRun ""), .cancel i (.writesCheckpoint "cancel" now),
    .cancel i (.cancelsLoop now), .cancel i .readsRun, .cancel i (.writesRun now),
    .cancel i .readsGoal, .cancel i (.writesGoal now)]

/-- The driver claims its loop; a `cancel_loop` call comes and goes; the driver's
next move is refused and it has projected the exception into the Run. -/
def cancelledWhileDriven : List Label :=
  [.getsRun, .claims 900 0, .writesCheckpoint "plan" .plan [] 1]
    ++ cancelCall 0 2
    ++ [.transitions ⟨.execute, none, "plan_ready", [], "plan", "driver"⟩ 3, .failsActiveRun 4,
      .readsRun, .writesRun 5]

/-- The Run of a cancelled loop can be marked failed after its cancellation. -/
theorem cancelled_projected_failed :
    ¬ ∀ (owner : Owner) (loop : LoopCell) (run : Run) (goal : Goal) (labels : List Label)
        (s : ControlState), (∀ terminal ∈ loop.run.terminalState, Agrees terminal run goal) →
      (controlSystem owner).run (.start loop run goal) labels = some s → OutcomesAgree s := by
  intro hall
  have hrun : ((controlSystem driver).run
      (.start openedLoop (runningRun "run") (runningGoal "goal" "run")) cancelledWhileDriven).map
        (fun s => (s.terminal, s.run.resolution, s.driver.exception?))
          = some (some .cancelled, .failed, some ("loop", "ValueError")) := by
    decide +kernel
  obtain ⟨s, hs, hfinal⟩ := Option.map_eq_some_iff.mp hrun
  simp only [Prod.mk.injEq] at hfinal
  obtain ⟨hcancelled, -, hexception⟩ := hfinal
  have hagree := hall _ _ _ _ _ s (by simp [openedLoop, createRun]) hs
  have hfailed := hagree.failed "loop" "ValueError" (DriverPc.exception?_eq_some.mp hexception)
  rw [hcancelled] at hfailed
  cases hfailed

end Navi.Lifecycle.Control
