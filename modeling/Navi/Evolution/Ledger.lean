import Mathlib
import Navi.Approvals.Resolve
import Navi.Base.Checks
import Navi.Base.Dict
import Navi.Base.Index

/-!
# The ledger of proposals

A proposal is evaluated, claimed by the call that applies it, and settled. Every change of its
status is one guarded update; recording an evaluation is an update without a guard.
-/

namespace Navi.Evolution

open Navi.Base Navi.Base.Json Navi.Approvals Navi.Loop

inductive ProposalStatus where
  | proposed
  | applying
  | applied
  | applyFailed
  | applyUncertain
  | rolledBack
  deriving DecidableEq

def ProposalStatus.text : ProposalStatus → String
  | .proposed => "proposed"
  | .applying => "applying"
  | .applied => "applied"
  | .applyFailed => "apply_failed"
  | .applyUncertain => "apply_uncertain"
  | .rolledBack => "rolled_back"

/-- What an evaluation writes into a proposal. -/
structure Evaluation where
  result : String
  evidence : String
  approvedBy : String
  approvedAt : Time
  approvalId : String
  deriving DecidableEq

/-- The columns of `evolution_proposals` that are read here. -/
structure EvolutionProposal where
  id : String
  targetType : String
  targetId : String
  before : String
  after : String
  requiredApprovalLevel : String
  status : ProposalStatus
  appliedAt : Time
  appliedEventId : String
  evaluationResult : String
  evaluationEvidence : String
  approvedBy : String
  approvedAt : Time
  approvalId : String
  deriving DecidableEq

/-- The table `evolution_proposals`, by `id`. -/
abbrev ProposalTable := Table String EvolutionProposal (·.id)

/-- What `propose` inserts. -/
def proposedRow (id targetType targetId before after requiredApprovalLevel : String) :
    EvolutionProposal where
  id := id
  targetType := targetType
  targetId := targetId
  before := before
  after := after
  requiredApprovalLevel := requiredApprovalLevel
  status := .proposed
  appliedAt := 0
  appliedEventId := ""
  evaluationResult := ""
  evaluationEvidence := ""
  approvedBy := ""
  approvedAt := 0
  approvalId := ""

namespace EvolutionProposal

/-- The evaluation that a proposal has. -/
def evaluation (proposal : EvolutionProposal) : Evaluation :=
  ⟨proposal.evaluationResult, proposal.evaluationEvidence, proposal.approvedBy,
    proposal.approvedAt, proposal.approvalId⟩

/-- `UPDATE` of `record_proposal_evaluation`. -/
def evaluated (evaluation : Evaluation) (proposal : EvolutionProposal) : EvolutionProposal :=
  { proposal with
    evaluationResult := evaluation.result
    evaluationEvidence := evaluation.evidence
    approvedBy := evaluation.approvedBy
    approvedAt := evaluation.approvedAt
    approvalId := evaluation.approvalId }

@[simp] theorem evaluated_id (evaluation : Evaluation) (proposal : EvolutionProposal) :
    (proposal.evaluated evaluation).id = proposal.id := rfl

/-- `UPDATE` of `claim_for_apply`. -/
def claimed (proposal : EvolutionProposal) : EvolutionProposal :=
  { proposal with status := .applying }

/-- `UPDATE` of `mark_applied`. -/
def markApplied (eventId : String) (now : Time) (proposal : EvolutionProposal) :
    EvolutionProposal :=
  { proposal with status := .applied, appliedAt := now, appliedEventId := eventId }

/-- `UPDATE` of `mark_apply_failed`. -/
def markApplyFailed (proposal : EvolutionProposal) : EvolutionProposal :=
  { proposal with status := .applyFailed }

/-- `UPDATE` of `mark_apply_uncertain`. -/
def markApplyUncertain (proposal : EvolutionProposal) : EvolutionProposal :=
  { proposal with status := .applyUncertain }

/-- The last `UPDATE` of `rollback_applied_event`. -/
def markRolledBack (proposal : EvolutionProposal) : EvolutionProposal :=
  { proposal with status := .rolledBack }

end EvolutionProposal

/-! ## What may be applied -/

/-- `EVOLUTION_TARGETS`: the types and whether their permissions can expand. -/
def evolutionTargets : List (String × Bool) :=
  [("prompt_layer", false), ("skill", false), ("memory_item", false), ("memory_parameter", false),
    ("eval_case", false), ("graph_node", false)]

/-- `assert_proposal_applicable`. -/
def assertProposalApplicable (proposal : EvolutionProposal) : Except String Unit := do
  require (proposal.status = .proposed)
    ("cannot apply proposal in status: " ++ proposal.status.text)
  require (evolutionTargets.lookup proposal.targetType ≠ some true
      ∨ proposal.requiredApprovalLevel ∈ ["L3", "L4"])
    "permission-expanding proposals require L3/L4 approval level"
  require (proposal.evaluationResult = "approved")
    "proposal requires evaluation_result='approved' before it can be applied"
  require (strip proposal.evaluationEvidence ≠ "")
    "approved proposal requires evaluation_evidence before apply"
  require (strip proposal.approvalId ≠ "")
    "approved proposal requires durable approval_id before apply"

theorem of_assertProposalApplicable {proposal : EvolutionProposal}
    (h : assertProposalApplicable proposal = .ok ()) :
    proposal.status = .proposed ∧ proposal.evaluationResult = "approved" := by
  unfold assertProposalApplicable at h
  simp only [bind_eq_ok, require_eq_ok, exists_const] at h
  exact ⟨h.1, h.2.2.1⟩

/-! ## Evaluating -/

/-- The columns of `approvals` that an evaluation reads. -/
structure ApplyApproval where
  id : String
  requestedTool : String
  argsJson : String
  status : ApprovalStatus
  decision : String
  resolvedBy : String
  expiresAt : Time
  updatedAt : Time
  deriving DecidableEq

/-- The table `approvals`, by `id`. -/
abbrev ApplyApprovals := Table String ApplyApproval (·.id)

/-- What `create_approval` inserts. -/
def requestedApproval (id requestedTool argsJson : String) (expiresAt now : Time) :
    ApplyApproval where
  id := id
  requestedTool := requestedTool
  argsJson := argsJson
  status := .pending
  decision := ""
  resolvedBy := ""
  expiresAt := expiresAt
  updatedAt := now

/-- `UPDATE` of `resolve_approval`, with what `_status_for_decision` gave. -/
def ApplyApproval.resolved (status : ApprovalStatus) (decision resolvedBy : String) (now : Time)
    (approval : ApplyApproval) : ApplyApproval :=
  { approval with
    status := status, decision := decision, resolvedBy := resolvedBy, updatedAt := now }

/-- `UPDATE` of `expire_pending_approvals`. -/
def ApplyApproval.lapsed (now : Time) (approval : ApplyApproval) : ApplyApproval :=
  { approval with status := .expired, updatedAt := now }

/-- `json.loads`, `str` of a value and `str.lower`. -/
structure EvaluationReader where
  loads : String → Option Json
  str : Json → String
  lower : String → String

/-- `str(approved_args.get("proposal_id") or "")`. -/
def approvedProposal (reader : EvaluationReader) (approval : ApplyApproval) :
    Except String String :=
  match reader.loads (if approval.argsJson = "" then "\x7b\x7d" else approval.argsJson) with
  | none => .error "approved evaluation approval args_json must be valid JSON"
  | some (.obj args) =>
      .ok (((Dict.get args "proposal_id").filter Json.truthy).elim "" reader.str)
  | some _ => .error "'get'"

/-- `_approved_evolution_apply_approval`. -/
def approvedEvolutionApplyApproval (reader : EvaluationReader) (approvals : ApplyApprovals)
    (proposalId approvalId : String) : Except String ApplyApproval := do
  require (approvalId ≠ "") "approved evaluation requires approval_id"
  match approvals.get? approvalId with
  | none => .error "approved evaluation approval_id not found"
  | some approval =>
      require (approval.status = .approved ∧ approval.decision = "approve")
        "approved evaluation approval must be approved"
      require (approval.requestedTool = "evolution.apply")
        "approved evaluation approval must target evolution.apply"
      let approvedId ← approvedProposal reader approval
      require (approvedId = proposalId)
        "approved evaluation approval must reference the same proposal_id"
      require (approval.resolvedBy ≠ "") "approved evaluation approval must record resolved_by"
      return approval

/-- An approval for applying a proposal. -/
structure Approves (reader : EvaluationReader) (proposalId : String) (approval : ApplyApproval) :
    Prop where
  status : approval.status = .approved
  decision : approval.decision = "approve"
  tool : approval.requestedTool = "evolution.apply"
  names : approvedProposal reader approval = .ok proposalId

theorem of_approvedEvolutionApplyApproval {reader : EvaluationReader} {approvals : ApplyApprovals}
    {proposalId approvalId : String} {approval : ApplyApproval}
    (h : approvedEvolutionApplyApproval reader approvals proposalId approvalId = .ok approval) :
    approvals.get? approvalId = some approval ∧ Approves reader proposalId approval := by
  unfold approvedEvolutionApplyApproval at h
  obtain ⟨_, -, h⟩ := bind_eq_ok.mp h
  cases hfound : approvals.get? approvalId with
  | none =>
      rw [hfound] at h
      exact nomatch h
  | some found =>
      rw [hfound] at h
      simp only [bind_eq_ok, require_eq_ok, exists_const, pure_eq_ok] at h
      obtain ⟨⟨hstatus, hdecision⟩, htool, named, hnamed, rfl, -, rfl⟩ := h
      exact ⟨rfl, hstatus, hdecision, htool, hnamed⟩

/-- `_EVALUATION_RESULTS`, in order. -/
def evaluationResults : List String := ["approved", "pending", "rejected"]

/-- What `record_proposal_evaluation` writes, once the proposal was found. -/
def recordedEvaluation (reader : EvaluationReader) (approvals : ApplyApprovals)
    (proposalId evaluationResult evaluationEvidence approvalId : String) :
    Except String Evaluation := do
  let result := reader.lower (strip evaluationResult)
  require (result ∈ evaluationResults)
    ("evaluation_result must be one of ['approved', 'pending', 'rejected'], got '" ++ result ++ "'")
  if result = "approved" then
    require (strip evaluationEvidence ≠ "") "approved evaluation requires evaluation_evidence"
    let approval ← approvedEvolutionApplyApproval reader approvals proposalId (strip approvalId)
    return ⟨result, strip evaluationEvidence, approval.resolvedBy, approval.updatedAt,
      strip approvalId⟩
  else return ⟨result, strip evaluationEvidence, "", 0, ""⟩

/-- An evaluation that approves names an approval of its proposal. -/
def Endorsed (reader : EvaluationReader) (approvals : ApplyApprovals) (proposalId : String)
    (evaluation : Evaluation) : Prop :=
  ∃ approval, approvals.get? evaluation.approvalId = some approval
    ∧ Approves reader proposalId approval

theorem endorsed_of_recorded {reader : EvaluationReader} {approvals : ApplyApprovals}
    {proposalId evaluationResult evaluationEvidence approvalId : String} {evaluation : Evaluation}
    (h : recordedEvaluation reader approvals proposalId evaluationResult evaluationEvidence
      approvalId = .ok evaluation) (happroved : evaluation.result = "approved") :
    Endorsed reader approvals proposalId evaluation := by
  unfold recordedEvaluation at h
  obtain ⟨_, -, h⟩ := bind_eq_ok.mp h
  split at h
  next =>
    obtain ⟨_, -, h⟩ := bind_eq_ok.mp h
    obtain ⟨approval, happroval, h⟩ := bind_eq_ok.mp h
    obtain rfl := Except.ok.inj h
    obtain ⟨hfound, happroves⟩ := of_approvedEvolutionApplyApproval happroval
    exact ⟨approval, hfound, happroves⟩
  next hnot =>
    obtain rfl := Except.ok.inj h
    exact absurd happroved hnot

end Navi.Evolution
