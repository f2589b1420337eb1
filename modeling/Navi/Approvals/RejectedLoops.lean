import Navi.Approvals.Resolve
import Navi.Lifecycle.GoalTables
import Navi.StateGraph.History

/-!
# Rejected approvals and their loops

`resolve` decides an approval and writes its Run in one transaction, and only then
ends the loop run that was waiting for it, in another one, and the Goal in a third.
What the second transaction finds is whatever became of the loop run meanwhile.
-/

namespace Navi.Approvals

open Navi.Base Navi.Loop Navi.Lifecycle

/-- `_related_goal_loop`. -/
def relatedGoalLoop (stores : GoalStores) (runId : String) : Option (Goal × LoopCell) :=
  if runId = "" then none
  else (getByRun stores.goals runId).bind fun goal =>
    (listByGoal stores.loops goal.id).head?.map fun cell => (goal, cell)

/-- Before which write a rejection stops: its process dies there, or the database
raises. -/
inductive RejectFault where
  | decision
  | gate
  | goal
  deriving DecidableEq

/-- How a call of `resolve` ends. -/
inductive RejectEnd where
  | returned (answer : ApprovalResolution)
  | raised (error : StoreError)
  | stopped

structure Rejection where
  ended : RejectEnd
  service : ServiceState
  stores : GoalStores

/-- What `_reject_related_goal_loop` passes to `update_state`. -/
def rejectedGoal (approvalId : String) (now : Time) (goal : Goal) : Goal :=
  { goal with
    state := ⟨.ended, .rejected, .rejected, .canceled⟩
    taskStatus := "blocked"
    blockedReason := "approval_rejected"
    evidence := goal.evidence.merge
      [("approval_id", .str approvalId), ("decision", .str "reject")]
    completedAt := now
    updatedAt := now }

/-- `_reject_related_goal_loop`, on the rows it finds. -/
def rejectRelatedGoalLoop (service : ServiceState) (answer : ApprovalResolution)
    (approval : Approval) (found : GoalStores) (fault : Option RejectFault)
    (gateNow goalNow : Time) : Rejection :=
  match relatedGoalLoop found approval.runId with
  | none => ⟨.returned answer, service, found⟩
  | some (goal, cell) =>
      if fault = some .gate then ⟨.stopped, service, found⟩
      else
        let evidence : Dict :=
          [("approval_id", .str approval.id), ("decision", .str ApprovalStatus.rejected.text)]
        match onLoopRun found.loops cell.run.runId (rejectExternalGate · evidence gateNow) with
        | .error error => ⟨.raised error, service, found⟩
        | .ok loops =>
            if fault = some .goal then ⟨.stopped, service, { found with loops := loops }⟩
            else ⟨.returned answer, service,
              ⟨found.goals.update (fun row => row.id = goal.id) (rejectedGoal approval.id goalNow)
                fun _ => rfl, loops⟩⟩

/-- `resolve`, on an approval that it has found pending. `found` are the Goals and loop
runs as they are after its first transaction. -/
def resolvePending (s : ServiceState) (request : Request) (approval : Approval)
    (found : GoalStores) (fault : Option RejectFault) (now runNow gateNow goalNow : Time) :
    Rejection :=
  if fault = some .decision then ⟨.stopped, s, found⟩
  else
    let (answer, service) := resolveInTransaction s request approval now runNow
    match answer, service.approvals.get? approval.id with
    | .resolved _ .rejected _ _ _ _ _, some resolved =>
        rejectRelatedGoalLoop service answer resolved found fault gateNow goalNow
    | _, _ => ⟨.returned answer, service, found⟩

/-- The approval and its Run are ended as rejected, and the loop run is cancelled. -/
structure Rejection.EndsBoth (after : Rejection) (approval : Approval) (found : GoalStores) :
    Prop where
  decided : ∃ row, after.service.approvals.get? approval.id = some row ∧ row.status = .rejected
  runEnded : ∀ run ∈ after.service.runs.get? approval.runId,
    run.phase = .ended ∧ run.governance = .rejected ∧ run.acceptance = .rejected
      ∧ run.resolution = .canceled
  loopCancelled : ∀ goal cell, relatedGoalLoop found approval.runId = some (goal, cell) →
    ∃ cell', after.stores.loops.get? cell.run.runId = some cell'
      ∧ cell'.run.terminalState = some .cancelled

/-- A rejection ends both the Run and the loop run, or does not return and leaves
everything as it was. -/
def Rejection.Atomic (after : Rejection) (s : ServiceState) (approval : Approval)
    (found : GoalStores) : Prop :=
  after.EndsBoth approval found
    ∨ ((∀ answer, after.ended ≠ .returned answer) ∧ after.service = s ∧ after.stores = found)

/-- The loop run can be cancelled: there is none, it is cancelled already, or it waits
and the call lives to write it. Or the call stops before its decision. -/
def GateOpen (found : GoalStores) (runId : String) (fault : Option RejectFault) : Prop :=
  fault = some .decision ∨ ∀ goal cell, relatedGoalLoop found runId = some (goal, cell) →
    cell.run.terminalState = some .cancelled
      ∨ (externallyWaiting cell.run = true ∧ fault ≠ some .gate)

/-! ## The loop run -/

theorem get?_relatedGoalLoop {stores : GoalStores} {runId : String} {goal : Goal} {cell : LoopCell}
    (h : relatedGoalLoop stores runId = some (goal, cell)) :
    stores.loops.get? cell.run.runId = some cell := by
  unfold relatedGoalLoop at h
  split at h
  · cases h
  obtain ⟨found, -, hlist⟩ := Option.bind_eq_some_iff.mp h
  obtain ⟨head, hhead, hpair⟩ := Option.map_eq_some_iff.mp hlist
  obtain ⟨-, rfl⟩ := Prod.mk.inj hpair
  exact Table.get?_of_mem (mem_listByGoal.mp (List.mem_of_mem_head? hhead)).1

theorem cancelWaiting_ok {refusal : String} {cell cell' : LoopCell} {evidence : Dict} {now : Time}
    (h : cancelWaiting refusal cell evidence now = .ok cell') :
    cell'.run.terminalState = some .cancelled ∧ cell'.run.runId = cell.run.runId := by
  unfold cancelWaiting at h
  split_ifs at h with hcancelled hwaiting
  · obtain rfl := Except.ok.inj h
    exact ⟨hcancelled, rfl⟩
  · obtain rfl := Except.ok.inj h
    exact ⟨rfl, rfl⟩

theorem onLoopRun_rejectExternalGate {loops : LoopTable} {cell : LoopCell} {evidence : Dict}
    {now : Time} (hcell : loops.get? cell.run.runId = some cell) :
    (∃ loops', onLoopRun loops cell.run.runId (rejectExternalGate · evidence now) = .ok loops')
      ↔ cell.run.terminalState = some .cancelled ∨ externallyWaiting cell.run = true := by
  simp only [onLoopRun, hcell, rejectExternalGate, cancelWaiting]
  by_cases hcancelled : cell.run.terminalState = some .cancelled
  · simp [hcancelled, Except.map]
  · by_cases hwaiting : externallyWaiting cell.run = true
    · simp [hcancelled, hwaiting, Except.map]
    · simp [hcancelled, hwaiting, Except.map]

section

variable {service : ServiceState} {answer : ApprovalResolution} {approval : Approval}
  {found : GoalStores} {fault : Option RejectFault} {gateNow goalNow : Time}

@[simp] theorem rejectRelatedGoalLoop_service :
    (rejectRelatedGoalLoop service answer approval found fault gateNow goalNow).service
      = service := by
  unfold rejectRelatedGoalLoop
  split
  · rfl
  split
  · rfl
  dsimp only
  split
  · rfl
  split <;> rfl

theorem rejectRelatedGoalLoop_cancels (hlives : fault ≠ some .decision) :
    (∀ goal cell, relatedGoalLoop found approval.runId = some (goal, cell) →
      ∃ cell', (rejectRelatedGoalLoop service answer approval found fault gateNow
        goalNow).stores.loops.get? cell.run.runId = some cell'
          ∧ cell'.run.terminalState = some .cancelled)
      ↔ GateOpen found approval.runId fault := by
  cases hrelated : relatedGoalLoop found approval.runId with
  | none =>
      refine iff_of_true (fun _ _ hfound => ?_) (.inr fun _ _ hfound => ?_)
      · cases hfound
      · rw [hrelated] at hfound
        cases hfound
  | some pair =>
      obtain ⟨goal, cell⟩ := pair
      have hcell := get?_relatedGoalLoop hrelated
      have hopen : GateOpen found approval.runId fault
          ↔ cell.run.terminalState = some .cancelled
            ∨ (externallyWaiting cell.run = true ∧ fault ≠ some .gate) := by
        simp [GateOpen, hlives, hrelated]
      have hgoal : (∀ goal' cell', some (goal, cell) = some (goal', cell') →
          ∃ after, (rejectRelatedGoalLoop service answer approval found fault gateNow
            goalNow).stores.loops.get? cell'.run.runId = some after
              ∧ after.run.terminalState = some .cancelled)
          ↔ ∃ after, (rejectRelatedGoalLoop service answer approval found fault gateNow
            goalNow).stores.loops.get? cell.run.runId = some after
              ∧ after.run.terminalState = some .cancelled := by
        constructor
        · intro hall
          exact hall goal cell rfl
        · rintro hafter goal' cell' hsame
          obtain ⟨-, rfl⟩ := Prod.mk.inj (Option.some.inj hsame)
          exact hafter
      rw [hgoal, hopen, rejectRelatedGoalLoop, hrelated]
      by_cases hgate : fault = some .gate
      · simp [hgate, hcell]
      · simp only [hgate, if_false]
        have hpasses := @onLoopRun_rejectExternalGate _ _ [("approval_id", .str approval.id),
          ("decision", .str ApprovalStatus.rejected.text)] gateNow hcell
        cases hmethod : onLoopRun found.loops cell.run.runId (rejectExternalGate ·
            [("approval_id", .str approval.id), ("decision", .str ApprovalStatus.rejected.text)]
            gateNow) with
        | error error =>
            rw [hmethod] at hpasses
            have hshut := hpasses.not.mp (by rintro ⟨_, h⟩; cases h)
            simp only [not_or] at hshut
            simp [hcell, hshut]
        | ok loops =>
            obtain ⟨cell₀, cell', hcell₀, hok, hafter, -⟩ :=
              get?_onLoopRun hmethod fun _ _ h => (cancelWaiting_ok h).2
            have hwaits := hpasses.mp ⟨loops, hmethod⟩
            have hdone : ∃ after, loops.get? cell.run.runId = some after
                ∧ after.run.terminalState = some .cancelled :=
              ⟨cell', hafter, (cancelWaiting_ok hok).1⟩
            refine iff_of_true ?_ (hwaits.imp_right fun hwaiting => ⟨hwaiting, hgate⟩)
            dsimp only
            split <;> exact hdone

end

/-! ## The call -/

theorem resolveInTransaction_rejects {s : ServiceState} {request : Request} {row : Approval}
    {now runNow : Time} (hreject : request.decision = "reject")
    (hrow : s.approvals.get? row.id = some row) (hpending : row.status = .pending) :
    ∃ service, resolveInTransaction s request row now runNow
        = (.resolved row.id .rejected "resolved" .ended .rejected .rejected .canceled, service)
      ∧ service.approvals.get? row.id
        = some (row.decided .rejected "reject" request.senderId now)
      ∧ ∀ run ∈ service.runs.get? row.runId, run.phase = .ended ∧ run.governance = .rejected
        ∧ run.acceptance = .rejected ∧ run.resolution = .canceled := by
  have hstatus : statusForDecision request.decision = some .rejected := by
    rw [hreject]
    decide
  have hawaits : row.awaits row.id = true := decide_eq_true ⟨rfl, hpending⟩
  have hafter : (afterUpdate s request row .rejected now).approvals.get? row.id
      = some (row.decided .rejected "reject" request.senderId now) := by
    rw [afterUpdate, get?_leave, hrow, Option.map_some, if_pos hawaits, hreject]
  have happroves : decide (request.decision = "approve") = false := by
    rw [hreject]
    decide
  refine ⟨writeRun (afterUpdate s request row .rejected now)
      (row.decided .rejected "reject" request.senderId now) (stateMatrix false
        (row.action = sessionElevation) row.id) runNow, ?_, ?_, ?_⟩
  · unfold resolveInTransaction
    rw [hstatus]
    unfold afterUpdate at hafter
    simp only [hafter, happroves]
    rfl
  · rw [writeRun_approvals]
    exact hafter
  · intro run hrun
    unfold writeRun at hrun
    split at hrun
    next hnone =>
      rw [show row.runId = (row.decided .rejected "reject" request.senderId now).runId from rfl,
        hnone] at hrun
      cases hrun
    next =>
      have hwritten := (afterUpdate s request row .rejected now).runs.get?_update
        (fun run => run.id = row.runId)
        (mergeRunUpdates ·
          (stateMatrix false (row.action = sessionElevation) row.id).updates runNow)
        (fun _ => rfl) row.runId
      obtain ⟨before, hbefore, rfl⟩ := Option.map_eq_some_iff.mp (hwritten.symm.trans hrun)
      have hid : before.id = row.runId := (Table.get?_eq_some_iff.mp hbefore).2
      rw [if_pos (decide_eq_true hid)]
      exact ⟨rfl, rfl, rfl, rfl⟩

/-- **A rejection is atomic exactly when the gate is open.** A call of `resolve` that
rejects a pending approval ends its Run and its loop run, or changes nothing and does
not return, if and only if the loop run that it finds after its first transaction can
be cancelled and it lives to do so. -/
theorem rejection_atomic_iff {s : ServiceState} {request : Request} {row : Approval}
    (found : GoalStores) (fault : Option RejectFault) (now runNow gateNow goalNow : Time)
    (hreject : request.decision = "reject") (hrow : s.approvals.get? row.id = some row)
    (hpending : row.status = .pending) :
    (resolvePending s request row found fault now runNow gateNow goalNow).Atomic s row found
      ↔ GateOpen found row.runId fault := by
  by_cases hdecision : fault = some .decision
  · have hstopped : resolvePending s request row found fault now runNow gateNow goalNow
        = ⟨.stopped, s, found⟩ := by
      rw [resolvePending, if_pos hdecision]
    rw [hstopped]
    exact iff_of_true (.inr ⟨fun _ => RejectEnd.noConfusion, rfl, rfl⟩) (.inl hdecision)
  · obtain ⟨service, hresolved, hdecided, hruns⟩ :=
      @resolveInTransaction_rejects s request row now runNow hreject hrow hpending
    have hafter : resolvePending s request row found fault now runNow gateNow goalNow
        = rejectRelatedGoalLoop service
          (.resolved row.id .rejected "resolved" .ended .rejected .rejected .canceled)
          (row.decided .rejected "reject" request.senderId now) found fault gateNow goalNow := by
      rw [resolvePending, if_neg hdecision, hresolved]
      simp only [hdecided]
    -- the decision is committed, so the call can only be atomic by ending both
    have hchanged : service ≠ s := by
      rintro rfl
      rw [hrow] at hdecided
      have hstatus := congrArg Approval.status (Option.some.inj hdecided)
      rw [hpending] at hstatus
      cases hstatus
    have hcancels := @rejectRelatedGoalLoop_cancels service
      (.resolved row.id .rejected "resolved" .ended .rejected .rejected .canceled)
      (row.decided .rejected "reject" request.senderId now) found fault gateNow goalNow hdecision
    rw [hafter]
    constructor
    · rintro (hends | ⟨-, hsame, -⟩)
      · exact hcancels.mp hends.loopCancelled
      · rw [rejectRelatedGoalLoop_service] at hsame
        exact absurd hsame hchanged
    · intro hopen
      refine .inl ⟨?_, ?_, hcancels.mpr hopen⟩
      · rw [rejectRelatedGoalLoop_service]
        exact ⟨_, hdecided, rfl⟩
      · rw [rejectRelatedGoalLoop_service]
        exact hruns

/-! ## A loop run that was not waiting yet -/

/-- An approval of the Run of a loop, just created by the step the loop executes. -/
def requestedApproval : Approval :=
  createdApproval "approval" "run" "capability" "shell" "write" "" "" "owner" "000001" 900 10

def requestedService : ServiceState :=
  { ServiceState.start governedRuns with approvals := Table.empty.insertOrIgnore requestedApproval }

/-- The Goal of the Run, and a loop run of it in this state. -/
def goalStoresOf (cell : LoopCell) : GoalStores where
  goals := Table.empty.insertOrIgnore (runningGoal "goal" "run")
  loops := Table.empty.insertOrIgnore cell

def ownersRejection : Request := ⟨"reject", "000001", "", "", "", "owner"⟩

/-- The loop that executes the step which asks for the approval. -/
def executingLoop : LoopCell :=
  (StateGraph.play StateGraph.plainLoop [StateGraph.plainDrive [] (StateGraph.plainAnswers 1 10)]).1

theorem rejection_atomic_iff_waiting :
    requestedService.approvals.get? requestedApproval.id = some requestedApproval
      ∧ ((resolvePending requestedService ownersRejection requestedApproval
          (goalStoresOf (transitionTo executingLoop .waitingApproval [] 11)) none
          12 12 12 12).Atomic requestedService requestedApproval
          (goalStoresOf (transitionTo executingLoop .waitingApproval [] 11))
        ↔ GateOpen (goalStoresOf (transitionTo executingLoop .waitingApproval [] 11)) "run" none) :=
  ⟨rfl, rejection_atomic_iff _ none 12 12 12 12 rfl rfl rfl⟩

/-- The owner rejects the approval before the loop has come to wait for it: the call
raises, and leaves a rejected Run whose loop goes on. -/
theorem rejected_run_of_active_loop :
    ¬ (resolvePending requestedService ownersRejection requestedApproval
      (goalStoresOf executingLoop) none 12 12 12 12).Atomic requestedService requestedApproval
      (goalStoresOf executingLoop) := by
  have hrelated : (relatedGoalLoop (goalStoresOf executingLoop) "run").map (·.2.run.runId)
      = some "loop" := by decide +kernel
  have hactive : ((resolvePending requestedService ownersRejection requestedApproval
      (goalStoresOf executingLoop) none 12 12 12 12).stores.loops.get? "loop").map
        (·.run.terminalState) = some none := by decide +kernel
  have hdecided : ((resolvePending requestedService ownersRejection requestedApproval
      (goalStoresOf executingLoop) none 12 12 12 12).service.approvals.get? "approval").map
        (·.status) = some .rejected := by decide +kernel
  rintro (hends | ⟨-, hsame, -⟩)
  · obtain ⟨⟨goal, cell⟩, hpair, hid⟩ := Option.map_eq_some_iff.mp hrelated
    obtain ⟨cell', hcell', hcancelled⟩ := hends.loopCancelled goal cell hpair
    rw [show cell.run.runId = "loop" from hid] at hcell'
    rw [hcell', Option.map_some, hcancelled] at hactive
    cases hactive
  · rw [hsame] at hdecided
    cases hdecided

end Navi.Approvals
