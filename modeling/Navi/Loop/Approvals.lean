import Navi.Loop.RunStore

/-!
# Approval waits

Which approval a loop waits for, read from its evidence, and what
`reconcile_approval_waits` decides about one waiting loop.
-/

namespace Navi.Loop

open Navi.Base

inductive ApprovalStatus where
  | pending
  | approved
  | rejected
  | expired
  deriving DecidableEq

/-- `APPROVAL_STATUS_*`. -/
def ApprovalStatus.text : ApprovalStatus → String
  | .pending => "pending"
  | .approved => "approved"
  | .rejected => "rejected"
  | .expired => "expired"

/-- What the reconciliation reads of an approval. -/
structure Approval where
  id : String
  runId : String
  status : ApprovalStatus
  expiresAt : Time

/-- `expire_pending_approvals`. -/
def expirePendingApprovals (approvals : List Approval) (now : Time) : List Approval :=
  approvals.map fun approval =>
    if approval.status = .pending ∧ approval.expiresAt < now then
      { approval with status := .expired }
    else approval

/-- `_approval_for_id`. -/
def approvalForId (approvals : List Approval) (approvalId : String) : Option Approval :=
  if approvalId = "" then none
  else approvals.find? fun approval => approval.id = approvalId

/-- The approval that the facts of one container name, empty when there is none. -/
def approvalIdIn (container : Dict) : String :=
  match container.sub "facts" with
  | none => ""
  | some facts =>
      let approvalId := ((facts.sub "approval").getD []).text "id"
      if approvalId ≠ "" then approvalId
      else if facts.text "entity_type" = "approval_request" then facts.text "entity_id"
      else ""

/-- `containers`. -/
def approvalContainers (evidence : Dict) : List Dict :=
  evidence :: ([evidence.sub "capability_result", evidence.sub "executor"].filterMap id)

/-- `owned_approval_gate_id`. -/
def ownedApprovalGateId (evidence : Dict) : String :=
  (((approvalContainers evidence).map approvalIdIn).find? fun approvalId => approvalId ≠ "").getD ""

/-- The approval that a result carried in the evidence names. -/
def carriedApprovalId (evidence : Dict) : String :=
  let carried := [evidence.sub "capability_result", evidence.sub "executor"].filterMap id
  ((carried.map approvalIdIn).find? fun approvalId => approvalId ≠ "").getD ""

theorem ownedApprovalGateId_eq (evidence : Dict) :
    ownedApprovalGateId evidence = if approvalIdIn evidence ≠ "" then approvalIdIn evidence
      else carriedApprovalId evidence := by
  unfold ownedApprovalGateId approvalContainers carriedApprovalId
  by_cases hown : approvalIdIn evidence = "" <;> simp [hown]

theorem approvalIdIn_congr {d e : Dict} (h : d.get "facts" = e.get "facts") :
    approvalIdIn d = approvalIdIn e := by
  unfold approvalIdIn
  rw [Dict.sub_congr h]

theorem carriedApprovalId_congr {d e : Dict}
    (hresult : d.get "capability_result" = e.get "capability_result")
    (hexecutor : d.get "executor" = e.get "executor") :
    carriedApprovalId d = carriedApprovalId e := by
  unfold carriedApprovalId
  rw [Dict.sub_congr hresult, Dict.sub_congr hexecutor]

/-- What the reconciliation of one loop finds in the other stores: the Run of the
loop's Goal with whether it has ended, the approvals, and whether the loop is of
a kind that survives an expired approval. -/
structure ApprovalView where
  run : Option (String × Bool)
  approvals : List Approval
  resumableKind : Bool

/-- What the reconciliation does with one loop. -/
inductive WaitDecision where
  | deferred
  | valid
  | resumes (approval : Approval)
  | pauses (reason : String)
  | cancels (reason : String)

/-- The reason of a wait that its approval closes. -/
def approvalGateReason (status : ApprovalStatus) : String := "approval_gate_" ++ status.text

/-- The body of the loop of `reconcile_approval_waits`. -/
def reconcileApprovalWait (state : LoopRunState) (view : ApprovalView)
    (orphanGraceSeconds now : Time) : WaitDecision :=
  if now < state.updatedAt + max 0 orphanGraceSeconds then .deferred
  else
    match view.run with
    | none => .deferred
    | some (runId, ended) =>
        let approvals := expirePendingApprovals view.approvals now
        match approvalForId approvals (ownedApprovalGateId state.evidence) with
        | none => .cancels "approval_gate_owner_missing"
        | some approval =>
            if approval.runId ≠ runId then .cancels "approval_gate_owner_mismatch"
            else if approval.status = .pending then .valid
            else if approval.status = .approved ∧ !ended then .resumes approval
            else if approval.status = .expired ∧ view.resumableKind then
              .pauses (approvalGateReason approval.status)
            else .cancels (approvalGateReason approval.status)

theorem reconcileApprovalWait_resumes {state : LoopRunState} {view : ApprovalView}
    {orphanGraceSeconds now : Time} {approval : Approval}
    (h : reconcileApprovalWait state view orphanGraceSeconds now = .resumes approval) :
    approval.status = .approved ∧ approval.id = ownedApprovalGateId state.evidence
      ∧ approval.id ≠ "" := by
  unfold reconcileApprovalWait at h
  split at h
  · cases h
  · split at h
    · cases h
    · dsimp only at h
      split at h
      · cases h
      next found hfound =>
        split_ifs at h with _ _ happroved
        obtain rfl := WaitDecision.resumes.inj h
        unfold approvalForId at hfound
        split at hfound
        · cases hfound
        next hnamed =>
          have hid : found.id = ownedApprovalGateId state.evidence := by
            simpa using List.find?_some hfound
          exact ⟨happroved.1, hid, hid ▸ hnamed⟩

end Navi.Loop
