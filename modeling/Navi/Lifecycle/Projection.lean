import Navi.Base.Dict

/-!
# Run and Goal rows

What a loop result is projected into: the Run row that `update_run` overlays
and the Goal row that `update_for_run` derives from it.
-/

namespace Navi.Lifecycle

open Navi.Base

/-- `Phase`. -/
inductive Phase where
  | pending
  | running
  | paused
  | ended
  deriving DecidableEq

/-- `Governance`. -/
inductive Governance where
  | none
  | awaitingApproval
  | approved
  | rejected
  deriving DecidableEq

/-- `Acceptance`. -/
inductive Acceptance where
  | none
  | unverified
  | accepted
  | rejected
  deriving DecidableEq

/-- `Resolution`. -/
inductive Resolution where
  | none
  | success
  | failed
  | canceled
  | blocked
  deriving DecidableEq

/-- The columns of a Run that `update_run` writes. -/
structure Run where
  id : String
  phase : Phase
  governance : Governance
  acceptance : Acceptance
  resolution : Resolution
  planSummary : String
  resultSummary : String
  error : String
  trustRuleId : String
  autonomyLevel : String
  updatedAt : Time

/-- The keyword arguments of `update_run`; `none` leaves a column alone. -/
structure RunUpdates where
  phase : Option Phase
  governance : Option Governance
  acceptance : Option Acceptance
  resolution : Option Resolution
  planSummary : Option String
  resultSummary : Option String
  error : Option String
  trustRuleId : Option String
  autonomyLevel : Option String

/-- `_merge_run_updates`. -/
def mergeRunUpdates (run : Run) (updates : RunUpdates) (now : Time) : Run where
  id := run.id
  phase := updates.phase.getD run.phase
  governance := updates.governance.getD run.governance
  acceptance := updates.acceptance.getD run.acceptance
  resolution := updates.resolution.getD run.resolution
  planSummary := updates.planSummary.getD run.planSummary
  resultSummary := updates.resultSummary.getD run.resultSummary
  error := updates.error.getD run.error
  trustRuleId := updates.trustRuleId.getD run.trustRuleId
  autonomyLevel := updates.autonomyLevel.getD run.autonomyLevel
  updatedAt := now

/-- Every column the updates name has the value they name. -/
structure RunUpdates.CarriedBy (updates : RunUpdates) (run : Run) : Prop where
  phase : ∀ v ∈ updates.phase, run.phase = v
  governance : ∀ v ∈ updates.governance, run.governance = v
  acceptance : ∀ v ∈ updates.acceptance, run.acceptance = v
  resolution : ∀ v ∈ updates.resolution, run.resolution = v
  planSummary : ∀ v ∈ updates.planSummary, run.planSummary = v
  resultSummary : ∀ v ∈ updates.resultSummary, run.resultSummary = v
  error : ∀ v ∈ updates.error, run.error = v
  trustRuleId : ∀ v ∈ updates.trustRuleId, run.trustRuleId = v
  autonomyLevel : ∀ v ∈ updates.autonomyLevel, run.autonomyLevel = v

theorem carriedBy_mergeRunUpdates (run : Run) (updates : RunUpdates) (now : Time) :
    updates.CarriedBy (mergeRunUpdates run updates now) := by
  constructor <;> intro v hv <;> simp [mergeRunUpdates, Option.mem_def.mp hv]

/-- A Run that goes on, as far as these columns tell. -/
def runningRun (id : String) : Run where
  id := id
  phase := .running
  governance := .none
  acceptance := .none
  resolution := .none
  planSummary := ""
  resultSummary := ""
  error := ""
  trustRuleId := ""
  autonomyLevel := ""
  updatedAt := 0

/-- The four state columns of a Goal. -/
structure GoalState where
  phase : Phase
  governance : Governance
  acceptance : Acceptance
  resolution : Resolution
  deriving DecidableEq

/-- `_goal_state_for_run`. -/
def goalStateForRun (run : Run) : GoalState :=
  if run.phase = .ended ∧ run.resolution = .success then ⟨.ended, .none, .accepted, .success⟩
  else if run.phase = .ended then
    ⟨.ended, .none, if run.resolution = .failed then .rejected else .none, run.resolution⟩
  else if run.governance = .awaitingApproval then ⟨.running, .awaitingApproval, .none, .none⟩
  else if run.resolution = .blocked then ⟨.running, run.governance, .none, .blocked⟩
  else ⟨.running, .approved, .none, .none⟩

/-- The columns of a Goal that a loop result is projected into. -/
structure Goal where
  id : String
  runId : String
  state : GoalState
  taskStatus : String
  blockedReason : String
  evidence : Dict
  completedAt : Time
  updatedAt : Time

/-- The text of `task_status` that a Goal state maps to. -/
def taskStatus (state : GoalState) (loopKind : String) : String :=
  if state.phase = .ended ∧ loopKind = "turn" then "archived"
  else if state.phase = .ended ∧ state.resolution = .success then "done"
  else if state.phase = .ended ∨ state.resolution = .blocked ∨ state.resolution = .failed
      ∨ state.resolution = .canceled then "blocked"
  else if state.governance = .awaitingApproval then "pending"
  else "in_progress"

/-- The texts of the phases, for the default evidence of `update_for_run`. -/
def Phase.text : Phase → String
  | .pending => "pending"
  | .running => "running"
  | .paused => "paused"
  | .ended => "ended"

/-- The texts of the governance states. -/
def Governance.text : Governance → String
  | .none => "none"
  | .awaitingApproval => "awaiting_approval"
  | .approved => "approved"
  | .rejected => "rejected"

/-- The texts of the acceptance states. -/
def Acceptance.text : Acceptance → String
  | .none => "none"
  | .unverified => "unverified"
  | .accepted => "accepted"
  | .rejected => "rejected"

def Resolution.text : Resolution → String
  | .none => "none"
  | .success => "success"
  | .failed => "failed"
  | .canceled => "canceled"
  | .blocked => "blocked"

/-- The evidence `update_for_run` records when it is given none. -/
def runEvidence (run : Run) : Dict :=
  [("run_id", .str run.id), ("run_phase", .str run.phase.text),
    ("run_governance", .str run.governance.text), ("run_acceptance", .str run.acceptance.text),
    ("run_resolution", .str run.resolution.text)]

/-- `resolution_reasons`. -/
def blockedReason (run : Run) (resolution : Resolution) : String :=
  let criticMissing : Bool := run.phase = .ended ∧ run.resolution = .success ∧ run.error = ""
  if resolution = .blocked then
    if criticMissing then "critic_gate_evidence_missing" else "run_blocked"
  else ""

/-- `update_for_run`, with the `update_state` it ends in. -/
def updateForRun (goal : Goal) (run : Run) (evidence : Dict) (now : Time) : Goal :=
  let evidence := if evidence.isEmpty then runEvidence run else evidence
  let state := goalStateForRun run
  let patch : Dict :=
    if state.resolution = .blocked ∧ run.error ≠ "" then [("run_error", .str run.error)] else []
  { goal with
    state := state
    taskStatus := taskStatus state (goal.evidence.text "loop_kind")
    blockedReason := blockedReason run state.resolution
    evidence := goal.evidence.merge (evidence.merge patch)
    completedAt := if state.phase = .ended then now else 0
    updatedAt := now }

def runningGoal (id runId : String) : Goal where
  id := id
  runId := runId
  state := ⟨.running, .approved, .none, .none⟩
  taskStatus := "in_progress"
  blockedReason := ""
  evidence := []
  completedAt := 0
  updatedAt := 0

/-- The rows carry the updates: the Run its columns, the Goal the state derived
from the Run. -/
def RunUpdates.Projected (updates : RunUpdates) (run : Run) (goal : Goal) : Prop :=
  updates.CarriedBy run ∧ goal.state = goalStateForRun run

end Navi.Lifecycle
