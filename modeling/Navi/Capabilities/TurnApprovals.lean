import Mathlib.Data.List.Sort
import Navi.Base.Table
import Navi.Lifecycle.Projection
import Navi.Loop.Approvals

/-!
# Approvals of capability calls

The rows `invoke` looks an approval up in, and the two lookups: by the governed Run,
and for a turn by the open `capability_approval` Runs of the actor.
-/

namespace Navi.Capabilities

open Navi.Base Navi.Lifecycle
open Navi.Loop (ApprovalStatus)

/-- The columns of `runs` that are read here. -/
structure ApprovalRun extends Run where
  kind : String
  source : String
  peerId : String
  senderId : String
  workspace : String

/-- The table `runs`, by `id`. -/
abbrev RunTable := Table String ApprovalRun (·.id)

/-- The columns of `approvals` that are read here. -/
structure CapabilityApproval where
  id : String
  runId : String
  action : String
  requestedTool : String
  requestedPermission : String
  argsJson : String
  status : ApprovalStatus
  createdAt : Time

/-- The table `approvals`, by `id`. -/
abbrev ApprovalTable := Table String CapabilityApproval (·.id)

/-- `APPROVAL_ACTION_CAPABILITY`. -/
def approvalActionCapability : String := "capability"

/-- `ORDER BY created_at DESC LIMIT 1`. -/
def newestApproval (approvals : List CapabilityApproval) : Option CapabilityApproval :=
  (approvals.insertionSort fun a b => b.createdAt ≤ a.createdAt).head?

/-- `approved_approval_for_run`: an empty argument is no clause. -/
def approvedApprovalForRun (approvals : List CapabilityApproval)
    (runId action requestedTool requestedPermission argsJson : String) :
    Option CapabilityApproval :=
  newestApproval (approvals.filter fun approval =>
    approval.runId = runId ∧ approval.status = .approved
      ∧ (action = "" ∨ approval.action = action)
      ∧ (requestedTool = "" ∨ approval.requestedTool = requestedTool)
      ∧ (requestedPermission = "" ∨ approval.requestedPermission = requestedPermission)
      ∧ (argsJson = "" ∨ approval.argsJson = argsJson))

/-- What an approval is looked up by: the call and its actor. -/
structure TurnRequest where
  name : String
  permission : String
  argsJson : String
  source : String
  peerId : String
  senderId : String
  workspace : String

/-- `append_actor_scope`: a value that is empty on either side does not restrict. -/
def TurnRequest.sees (request : TurnRequest) (run : ApprovalRun) : Bool :=
  (request.source = "" ∨ run.source = request.source ∨ run.source = "")
    ∧ (request.peerId = "" ∨ run.peerId = request.peerId ∨ run.peerId = "")
    ∧ (request.senderId = "" ∨ run.senderId = request.senderId ∨ run.senderId = "")
    ∧ (request.workspace = "" ∨ run.workspace = request.workspace ∨ run.workspace = "")

/-- `marker`. -/
def TurnRequest.marker (request : TurnRequest) : String :=
  "capability_approval:" ++ request.name ++ ":" ++ request.permission ++ ":" ++ request.argsJson

/-- The phase is `PENDING` or `RUNNING`. -/
def openPhase (phase : Phase) : Bool := phase = .pending ∨ phase = .running

/-- The Runs `_approved_turn_capability_approval` goes through: `list_by_phases_scoped`
with its limit. -/
def openRuns (runs : List ApprovalRun) (request : TurnRequest) : List ApprovalRun :=
  ((runs.filter fun run =>
      openPhase run.phase ∧ request.sees run ∧ run.kind = "capability_approval"
        ∧ run.planSummary = request.marker).insertionSort
    fun a b => a.updatedAt ≤ b.updatedAt).take 100

/-- The approval of one of these Runs that lets the call through. -/
def approvedForTurn (approvals : List CapabilityApproval) (request : TurnRequest)
    (runId : String) : Option CapabilityApproval :=
  approvedApprovalForRun approvals runId approvalActionCapability request.name request.permission
    request.argsJson

/-- `_approved_turn_capability_approval`. -/
def approvedTurnCapabilityApproval (runs : List ApprovalRun) (approvals : List CapabilityApproval)
    (request : TurnRequest) : Option CapabilityApproval :=
  (openRuns runs request).findSome? fun run => approvedForTurn approvals request run.id

/-- The lookup of `_approval_state_for_call`. -/
def approvedForCall (runs : List ApprovalRun) (approvals : List CapabilityApproval)
    (governedRunId : String) (request : TurnRequest) : Option CapabilityApproval :=
  if governedRunId ≠ "" then approvedForTurn approvals request governedRunId
  else approvedTurnCapabilityApproval runs approvals request

section

variable {approvals : List CapabilityApproval} {approval : CapabilityApproval}

theorem mem_of_newestApproval (h : newestApproval approvals = some approval) :
    approval ∈ approvals :=
  (List.mem_insertionSort _).mp (List.mem_of_mem_head? h)

theorem approvedForTurn_spec {request : TurnRequest} {runId : String}
    (h : approvedForTurn approvals request runId = some approval) :
    approval ∈ approvals ∧ approval.runId = runId ∧ approval.status = .approved
      ∧ (request.argsJson = "" ∨ approval.argsJson = request.argsJson) := by
  obtain ⟨hmem, hclauses⟩ := List.mem_filter.mp (mem_of_newestApproval h)
  obtain ⟨hrun, hstatus, -, -, -, hargs⟩ := of_decide_eq_true hclauses
  exact ⟨hmem, hrun, hstatus, hargs⟩

theorem approvedForCall_spec {runs : List ApprovalRun} {governedRunId : String}
    {request : TurnRequest}
    (h : approvedForCall runs approvals governedRunId request = some approval) :
    approval ∈ approvals ∧ approval.status = .approved
      ∧ (request.argsJson = "" ∨ approval.argsJson = request.argsJson) := by
  unfold approvedForCall at h
  split at h
  next =>
    obtain ⟨hmem, -, hstatus, hargs⟩ := approvedForTurn_spec h
    exact ⟨hmem, hstatus, hargs⟩
  next =>
    obtain ⟨run, -, hfound⟩ := List.exists_of_findSome?_eq_some h
    obtain ⟨hmem, -, hstatus, hargs⟩ := approvedForTurn_spec hfound
    exact ⟨hmem, hstatus, hargs⟩

end

end Navi.Capabilities
