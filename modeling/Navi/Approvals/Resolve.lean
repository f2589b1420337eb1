import Mathlib.Data.List.Sort
import Mathlib.Data.List.Count
import Mathlib.Logic.Function.Basic
import Navi.Base.System
import Navi.Base.Table
import Navi.Lifecycle.Projection
import Navi.Loop.Approvals

/-!
# Resolving an approval

`ApprovalService.resolve` by any number of callers, interleaved at its store calls
with each other, with new approvals and with sweeps of expired ones. Both tables
are in one database: the decision and the Run it is written to are one transaction,
but the approval was looked up before it.
-/

namespace Navi.Approvals

open Navi.Base Navi.Loop Navi.Lifecycle

/-- The columns of `approvals` that are read here. -/
structure Approval where
  id : String
  runId : String
  action : String
  requestedTool : String
  requestedPermission : String
  source : String
  peerId : String
  senderId : String
  status : ApprovalStatus
  code : String
  expiresAt : Time
  createdAt : Time
  updatedAt : Time
  decision : String
  resolvedBy : String

/-- The table `approvals`, by `id`. -/
abbrev ApprovalTable := Table String Approval (·.id)

/-- The table `runs`, by `id`. -/
abbrev RunTable := Table String Run (·.id)

/-- `APPROVAL_ACTION_SESSION_ELEVATION`. -/
def sessionElevation : String := "session_elevation"

/-- `_status_for_decision`. -/
def statusForDecision (decision : String) : Option ApprovalStatus :=
  if decision = "approve" then some .approved
  else if decision = "reject" then some .rejected
  else none

/-- The row `create_approval` inserts. -/
def createdApproval (id runId action requestedTool requestedPermission source peerId senderId
    code : String) (ttlSeconds : Int) (now : Time) : Approval where
  id := id
  runId := runId
  action := action
  requestedTool := requestedTool
  requestedPermission := requestedPermission
  source := source
  peerId := peerId
  senderId := senderId
  status := .pending
  code := code
  expiresAt := now + max 60 (min (if ttlSeconds = 0 then 900 else ttlSeconds) (24 * 60 * 60))
  createdAt := now
  updatedAt := now
  decision := ""
  resolvedBy := ""

/-- `status = 'pending' AND expires_at < ?`. -/
def Approval.lapsed (now : Time) (approval : Approval) : Bool :=
  approval.status = .pending ∧ approval.expiresAt < now

/-- What `expire_pending_approvals` sets. -/
def Approval.expired (now : Time) (approval : Approval) : Approval :=
  { approval with status := .expired, updatedAt := now }

@[simp] theorem Approval.expired_id (now : Time) (approval : Approval) :
    (approval.expired now).id = approval.id := rfl

/-- `id = ? AND status = 'pending'`. -/
def Approval.awaits (approvalId : String) (approval : Approval) : Bool :=
  approval.id = approvalId ∧ approval.status = .pending

/-- What `resolve_approval_in_transaction` sets. -/
def Approval.decided (status : ApprovalStatus) (decision resolvedBy : String) (now : Time)
    (approval : Approval) : Approval :=
  { approval with
    status := status, decision := decision, resolvedBy := resolvedBy, updatedAt := now }

@[simp] theorem Approval.decided_id (status : ApprovalStatus) (decision resolvedBy : String)
    (now : Time) (approval : Approval) :
    (approval.decided status decision resolvedBy now).id = approval.id := rfl

/-- The arguments of `resolve`, with `decision` stripped and in lower case. -/
structure Request where
  decision : String
  code : String
  runId : String
  source : String
  peerId : String
  senderId : String

/-- `_append_approval_filters` with the caller's context. -/
def Request.sees (request : Request) (approval : Approval) : Bool :=
  (request.senderId = "" ∨ approval.senderId = request.senderId)
    ∧ (request.peerId = "" ∨ approval.peerId = request.peerId)
    ∧ (request.source = "" ∨ approval.source = request.source)

/-- `ORDER BY created_at DESC LIMIT 1`. -/
def newest (approvals : List Approval) : Option Approval :=
  (approvals.insertionSort fun a b => b.createdAt ≤ a.createdAt).head?

/-- `pending_approval_by_code` and `pending_approval_for_run` after their sweep,
where `pendingOnly`; `approval_by_code` and `approval_for_run` otherwise. -/
def lookUp (approvals : ApprovalTable) (request : Request) (pendingOnly : Bool) :
    Option Approval :=
  newest (approvals.rows.filter fun approval =>
    (if request.code ≠ "" then approval.code = request.code else approval.runId = request.runId)
      ∧ (pendingOnly → approval.status = .pending) ∧ request.sees approval)

/-- A value of `state_matrix`, without its empty error. -/
structure Outcome where
  phase : Phase
  governance : Governance
  acceptance : Acceptance
  resolution : Resolution
  resultSummary : String
  trustRuleId : String
  status : ApprovalStatus

/-- `state_matrix`. -/
def stateMatrix (approves elevates : Bool) (resolvedId : String) : Outcome :=
  match approves, elevates with
  | true, true => ⟨.ended, .approved, .accepted, .success, "session_elevation_approved",
      "approval:" ++ resolvedId, .approved⟩
  | true, false => ⟨.pending, .approved, .none, .none,
      "approval_continuation_ready:" ++ resolvedId, "approval:" ++ resolvedId, .approved⟩
  | false, _ => ⟨.ended, .rejected, .rejected, .canceled, "approval_rejected", "", .rejected⟩

/-- What `resolve` writes to the Run of an approval. -/
def Outcome.updates (outcome : Outcome) : RunUpdates where
  phase := some outcome.phase
  governance := some outcome.governance
  acceptance := some outcome.acceptance
  resolution := some outcome.resolution
  planSummary := none
  resultSummary := some outcome.resultSummary
  error := some ""
  trustRuleId := some outcome.trustRuleId
  autonomyLevel := none

/-- `ApprovalResolution`: the reason that nothing was resolved, or the facts of the
approval and its Run. -/
inductive ApprovalResolution where
  | notResolved (reason runId approvalId : String)
  | resolved (approvalId : String) (status : ApprovalStatus) (stateTransition : String)
      (phase : Phase) (governance : Governance) (acceptance : Acceptance)
      (resolution : Resolution)

/-- Where a call of `resolve` is. -/
inductive ResolveCall where
  | idle
  | expiring (request : Request) (pendingOnly : Bool)
  | selecting (request : Request) (pendingOnly : Bool)
  | existing (request : Request) (approval : Approval)
  | resolving (request : Request) (approval : Approval)
  | returned (answer : ApprovalResolution)

/-- What is recorded of a run: an approval that leaves `pending`, and what is
written to a Run for an approval. -/
inductive Entry where
  | left (approvalId : String) (status : ApprovalStatus) (now : Time)
  | wrote (approvalId : String) (governance : Governance) (resolution : Resolution)

/-- The two tables, the callers, and (a history variable) the entries so far. -/
structure ServiceState where
  approvals : ApprovalTable
  runs : RunTable
  calls : Nat → ResolveCall
  log : List Entry

def ServiceState.start (runs : RunTable) : ServiceState := ⟨.empty, runs, fun _ => .idle, []⟩

/-- An update of pending approvals, with an entry for each. -/
def ServiceState.leave (s : ServiceState) (guard : Approval → Bool) (set : Approval → Approval)
    (hset : ∀ approval, (set approval).id = approval.id) (status : ApprovalStatus) (now : Time) :
    ServiceState :=
  { s with
    approvals := s.approvals.update guard set hset
    log := (s.approvals.rows.filter guard).map (fun row => .left row.id status now) ++ s.log }

/-- `expire_pending_approvals`. -/
def expirePending (s : ServiceState) (now : Time) : ServiceState :=
  s.leave (·.lapsed now) (·.expired now) (Approval.expired_id now) .expired now

/-- `update_run_in_transaction`, which writes nothing where there is no such Run. -/
def writeRun (s : ServiceState) (approval : Approval) (outcome : Outcome) (now : Time) :
    ServiceState :=
  match s.runs.get? approval.runId with
  | none => s
  | some _ =>
      { s with
        runs := s.runs.update (fun run => run.id = approval.runId)
          (mergeRunUpdates · outcome.updates now) (fun _ => rfl)
        log := .wrote approval.id outcome.governance outcome.resolution :: s.log }

def resolvedFacts (approval : Approval) (outcome : Outcome) : ApprovalResolution :=
  .resolved approval.id outcome.status "resolved" outcome.phase outcome.governance
    outcome.acceptance outcome.resolution

/-- The transaction of `resolve`: the guarded update, the row it leaves, and the
write to the Run. The row is not compared with the decision. -/
def resolveInTransaction (s : ServiceState) (request : Request) (approval : Approval)
    (now runNow : Time) : ApprovalResolution × ServiceState :=
  let notPending : ApprovalResolution :=
    .notResolved "approval_not_pending" approval.runId approval.id
  match statusForDecision request.decision with
  | none => (notPending, s)
  | some status =>
      let s := s.leave (·.awaits approval.id)
        (·.decided status request.decision request.senderId now)
        (Approval.decided_id status request.decision request.senderId now) status now
      match s.approvals.get? approval.id with
      | none => (notPending, s)
      | some resolved =>
          let outcome := stateMatrix (request.decision = "approve")
            (resolved.action = sessionElevation) resolved.id
          (resolvedFacts resolved outcome, writeRun s resolved outcome runNow)

/-- `_resolve_existing_decision`. -/
def resolveExistingDecision (runs : RunTable) (request : Request) (approval : Approval) :
    ApprovalResolution :=
  let expected : ApprovalStatus := if request.decision = "approve" then .approved else .rejected
  if approval.status ≠ expected then
    .notResolved (if approval.status = .expired then "approval_expired"
      else "approval_already_" ++ approval.status.text) approval.runId approval.id
  else
    match runs.get? approval.runId with
    | some run => .resolved approval.id approval.status ("already_" ++ approval.status.text)
        run.phase run.governance run.acceptance run.resolution
    | none => .resolved approval.id approval.status ("already_" ++ approval.status.text)
        .ended .none .none .none

/-- What `resolve` does before it reads the store. -/
def openCall (request : Request) : ResolveCall :=
  if statusForDecision request.decision = none then
    .returned (.notResolved "invalid_decision" "" "")
  else if request.code = "" ∧ request.runId = "" then
    .returned (.notResolved "approval_identifier_missing" request.runId "")
  else .expiring request true

def afterLookUp (request : Request) (pendingOnly : Bool) : Option Approval → ResolveCall
  | none =>
      if pendingOnly then .expiring request false
      else .returned (.notResolved
        (if request.code ≠ "" then "approval_code_not_found" else "run_has_no_approval")
        request.runId "")
  | some approval =>
      if approval.status = .pending then .resolving request approval
      else .existing request approval

/-- A new approval, a sweep, a new call of `resolve` and one store call of it. -/
inductive Label where
  | create (id runId action requestedTool requestedPermission source peerId senderId code : String)
      (ttlSeconds : Int) (now : Time)
  | expire (now : Time)
  | resolve (call : Nat) (request : Request)
  | advance (call : Nat) (now runNow : Time)

/-- `resolve` by every caller, store call by store call. -/
def resolveSystem : System ServiceState Label where
  step s
    | .create id runId action requestedTool requestedPermission source peerId senderId code
        ttlSeconds now => some { s with
          approvals := s.approvals.insertOrIgnore (createdApproval id runId action requestedTool
            requestedPermission source peerId senderId code ttlSeconds now) }
    | .expire now => some (expirePending s now)
    | .resolve call request =>
        match s.calls call with
        | .idle | .returned _ => some { s with
            calls := Function.update s.calls call (openCall request) }
        | _ => none
    | .advance call now runNow =>
        match s.calls call with
        | .idle | .returned _ => none
        | .expiring request pendingOnly =>
            let s := expirePending s now
            some { s with
              calls := Function.update s.calls call (.selecting request pendingOnly) }
        | .selecting request pendingOnly => some { s with
            calls := Function.update s.calls call
              (afterLookUp request pendingOnly (lookUp s.approvals request pendingOnly)) }
        | .existing request approval => some { s with
            calls := Function.update s.calls call
              (.returned (resolveExistingDecision s.runs request approval)) }
        | .resolving request approval =>
            let (answer, s) := resolveInTransaction s request approval now runNow
            some { s with calls := Function.update s.calls call (.returned answer) }

/-! ## What a run is to keep -/

/-- An entry of this approval leaving `pending`. -/
def Entry.leaves (approvalId : String) : Entry → Bool
  | .left id _ _ => id = approvalId
  | .wrote _ _ _ => false

/-- The row of `state_matrix` that an approval's status is for. -/
def finalOutcome (approval : Approval) : Option Outcome :=
  match approval.status with
  | .approved => some (stateMatrix true (approval.action = sessionElevation) approval.id)
  | .rejected => some (stateMatrix false (approval.action = sessionElevation) approval.id)
  | .pending | .expired => none

/-- An approval that became approved did so before it expired. -/
def ServiceState.InTime (s : ServiceState) : Prop :=
  ∀ id now, .left id .approved now ∈ s.log →
    ∃ row, s.approvals.get? id = some row ∧ now < row.expiresAt

/-- What was written to a Run for an approval is what its status stands for. -/
def ServiceState.RunsAgree (s : ServiceState) : Prop :=
  ∀ id governance resolution, .wrote id governance resolution ∈ s.log →
    ∃ row, s.approvals.get? id = some row ∧ ∃ outcome, finalOutcome row = some outcome
      ∧ outcome.governance = governance ∧ outcome.resolution = resolution

/-- Approvals have one winner: the status leaves `pending` at most once and stays
what it became then, in time; and the Runs agree with it. -/
structure ServiceState.SingleWinner (s : ServiceState) : Prop where
  once : ∀ id, s.log.countP (·.leaves id) ≤ 1
  absorbed : ∀ id status now, .left id status now ∈ s.log →
    ∃ row, s.approvals.get? id = some row ∧ row.status = status
  recorded : ∀ id row, s.approvals.get? id = some row → row.status ≠ .pending →
    ∃ now, .left id row.status now ∈ s.log
  inTime : s.InTime
  runsAgree : s.RunsAgree

/-- A transaction of `resolve` finds its approval pending, and not yet expired if it
approves it; or it finds it as it would have decided it, or no Run to write to. -/
def DecidesInTime (s : ServiceState) : Label → Prop
  | .advance call now _ =>
      match s.calls call with
      | .resolving request approval =>
          ∀ row ∈ s.approvals.get? approval.id, ∀ status ∈ statusForDecision request.decision,
            if row.status = .pending then status = .approved → now < row.expiresAt
            else row.status = status ∨ s.runs.get? row.runId = none
      | _ => True
  | _ => True

/-! ## The invariant -/

/-- The entries are those of the approvals that are not pending. -/
structure ServiceState.Recorded (s : ServiceState) : Prop where
  counted : ∀ id, s.log.countP (·.leaves id)
    = (s.approvals.get? id).elim 0 fun row => if row.status = .pending then 0 else 1
  absorbed : ∀ id status now, .left id status now ∈ s.log →
    ∃ row, s.approvals.get? id = some row ∧ row.status = status
  decided : ∀ id status now, .left id status now ∈ s.log → status ≠ .pending
  recorded : ∀ id row, s.approvals.get? id = some row → row.status ≠ .pending →
    ∃ now, .left id row.status now ∈ s.log
  wrote : ∀ id governance resolution, .wrote id governance resolution ∈ s.log →
    ∃ row, s.approvals.get? id = some row ∧ row.status ≠ .pending

theorem singleWinner_iff {s : ServiceState} (hs : s.Recorded) :
    s.SingleWinner ↔ s.InTime ∧ s.RunsAgree := by
  constructor
  · intro hwinner
    exact ⟨hwinner.inTime, hwinner.runsAgree⟩
  · rintro ⟨hinTime, hagree⟩
    refine ⟨?_, hs.absorbed, hs.recorded, hinTime, hagree⟩
    intro id
    rw [hs.counted]
    cases s.approvals.get? id with
    | none => exact Nat.zero_le 1
    | some row =>
        show ite _ _ _ ≤ 1
        split <;> omega

/-- An update of pending approvals only, which sets this status and no column that
outlives the decision. -/
structure Settles (guard : Approval → Bool) (set : Approval → Approval)
    (status : ApprovalStatus) : Prop where
  pending : ∀ row, guard row = true → row.status = .pending
  sets : ∀ row, (set row).status = status
  decided : status ≠ .pending
  action : ∀ row, (set row).action = row.action
  runId : ∀ row, (set row).runId = row.runId
  expiresAt : ∀ row, (set row).expiresAt = row.expiresAt

theorem expired_settles (now : Time) :
    Settles (·.lapsed now) (·.expired now) .expired :=
  ⟨fun _ h => (of_decide_eq_true h).1, fun _ => rfl, ApprovalStatus.noConfusion, fun _ => rfl,
    fun _ => rfl, fun _ => rfl⟩

theorem statusForDecision_ne_pending {decision : String} {status : ApprovalStatus}
    (h : statusForDecision decision = some status) : status ≠ .pending := by
  unfold statusForDecision at h
  split_ifs at h
  · obtain rfl := Option.some.inj h
    exact ApprovalStatus.noConfusion
  · obtain rfl := Option.some.inj h
    exact ApprovalStatus.noConfusion

theorem decided_settles {approvalId decision resolvedBy : String} {status : ApprovalStatus}
    {now : Time} (hstatus : statusForDecision decision = some status) :
    Settles (·.awaits approvalId) (·.decided status decision resolvedBy now) status :=
  ⟨fun _ h => (of_decide_eq_true h).2, fun _ => rfl, statusForDecision_ne_pending hstatus,
    fun _ => rfl, fun _ => rfl, fun _ => rfl⟩

section

variable {s : ServiceState} {guard : Approval → Bool} {set : Approval → Approval}
  {hset : ∀ approval, (set approval).id = approval.id} {status : ApprovalStatus} {now : Time}

theorem get?_leave (id : String) :
    (s.leave guard set hset status now).approvals.get? id
      = (s.approvals.get? id).map fun row => if guard row then set row else row :=
  s.approvals.get?_update guard set hset id

theorem get?_leave_of_decided (hsettles : Settles guard set status) {id : String} {row : Approval}
    (hrow : s.approvals.get? id = some row) (hdecided : row.status ≠ .pending) :
    (s.leave guard set hset status now).approvals.get? id = some row := by
  rw [get?_leave, hrow, Option.map_some, if_neg]
  intro hguard
  exact hdecided (hsettles.pending row hguard)

theorem mem_leave {entry : Entry} : entry ∈ (s.leave guard set hset status now).log
    ↔ (∃ row ∈ s.approvals.rows, guard row = true ∧ entry = .left row.id status now)
      ∨ entry ∈ s.log := by
  show entry ∈ (s.approvals.rows.filter guard).map _ ++ s.log ↔ _
  rw [List.mem_append, List.mem_map]
  simp only [List.mem_filter, and_assoc, eq_comm]

theorem countP_left (id : String) :
    ((s.approvals.rows.filter guard).map fun row => Entry.left row.id status now).countP
      (·.leaves id) = (s.approvals.get? id).elim 0 fun row => if guard row then 1 else 0 := by
  have hcount : ((s.approvals.rows.filter guard).map fun row => Entry.left row.id status now).countP
      (·.leaves id) = ((s.approvals.rows.filter guard).map (·.id)).count id := by
    rw [List.countP_map, List.count_eq_countP, List.countP_map]
    refine List.countP_congr fun row _ => ?_
    simp [Entry.leaves]
  have hnodup : ((s.approvals.rows.filter guard).map (·.id)).Nodup :=
    s.approvals.nodup.sublist (List.filter_sublist.map _)
  rw [hcount, hnodup.count]
  cases hrow : s.approvals.get? id with
  | none =>
      rw [if_neg]
      · rfl
      · intro hmem
        obtain ⟨row, hmatched, rfl⟩ := List.mem_map.mp hmem
        rw [Table.get?_of_mem (List.mem_filter.mp hmatched).1] at hrow
        cases hrow
  | some row =>
      obtain ⟨hmem, hid⟩ := Table.get?_eq_some_iff.mp hrow
      show _ = ite _ _ _
      by_cases hguard : guard row = true
      · rw [if_pos hguard, if_pos]
        exact List.mem_map.mpr ⟨row, List.mem_filter.mpr ⟨hmem, hguard⟩, hid⟩
      · rw [if_neg hguard, if_neg]
        intro hmatched
        obtain ⟨row', hrow', hid'⟩ := List.mem_map.mp hmatched
        obtain ⟨hmem', hguard'⟩ := List.mem_filter.mp hrow'
        obtain rfl := Table.eq_of_key hmem' hmem (hid'.trans hid.symm)
        exact hguard hguard'

theorem leave_recorded (hs : s.Recorded) (hsettles : Settles guard set status) :
    (s.leave guard set hset status now).Recorded := by
  refine ⟨?_, ?_, ?_, ?_, ?_⟩
  · intro id
    show ((_ : List Entry) ++ s.log).countP _ = _
    rw [List.countP_append, countP_left, hs.counted, get?_leave]
    cases s.approvals.get? id with
    | none => rfl
    | some row =>
        show ite _ _ _ + ite _ _ _ = ite (Approval.status (ite _ _ _) = _) _ _
        by_cases hguard : guard row = true
        · rw [if_pos hguard, if_pos hguard, if_pos (hsettles.pending row hguard), hsettles.sets,
            if_neg hsettles.decided]
        · rw [if_neg hguard, if_neg hguard, Nat.zero_add]
  · intro id found at' hmem
    rcases mem_leave.mp hmem with ⟨row, hrow, hguard, hentry⟩ | hold
    · obtain ⟨rfl, rfl, rfl⟩ := Entry.left.inj hentry
      refine ⟨set row, ?_, hsettles.sets row⟩
      rw [get?_leave, Table.get?_of_mem hrow, Option.map_some, if_pos hguard]
    · obtain ⟨row, hrow, hstatus⟩ := hs.absorbed id found at' hold
      exact ⟨row, get?_leave_of_decided hsettles hrow (hstatus ▸ hs.decided id found at' hold),
        hstatus⟩
  · intro id found at' hmem
    rcases mem_leave.mp hmem with ⟨row, -, -, hentry⟩ | hold
    · obtain ⟨-, rfl, -⟩ := Entry.left.inj hentry
      exact hsettles.decided
    · exact hs.decided id found at' hold
  · intro id row hrow hdecided
    rw [get?_leave] at hrow
    obtain ⟨row₀, hrow₀, hrow⟩ := Option.map_eq_some_iff.mp hrow
    obtain ⟨hmem, hid⟩ := Table.get?_eq_some_iff.mp hrow₀
    by_cases hguard : guard row₀ = true
    · rw [if_pos hguard] at hrow
      refine ⟨now, mem_leave.mpr (.inl ⟨row₀, hmem, hguard, ?_⟩)⟩
      rw [← hrow, hsettles.sets, hid]
    · rw [if_neg hguard] at hrow
      subst hrow
      obtain ⟨at', hentry⟩ := hs.recorded id row₀ hrow₀ hdecided
      exact ⟨at', mem_leave.mpr (.inr hentry)⟩
  · intro id governance resolution hmem
    rcases mem_leave.mp hmem with ⟨row, -, -, hentry⟩ | hold
    · cases hentry
    · obtain ⟨row, hrow, hdecided⟩ := hs.wrote id governance resolution hold
      exact ⟨row, get?_leave_of_decided hsettles hrow hdecided, hdecided⟩

theorem leave_runsAgree (hs : s.Recorded) (hagree : s.RunsAgree)
    (hsettles : Settles guard set status) : (s.leave guard set hset status now).RunsAgree := by
  intro id governance resolution hmem
  rcases mem_leave.mp hmem with ⟨row, -, -, hentry⟩ | hold
  · cases hentry
  · obtain ⟨row, hrow, houtcome⟩ := hagree id governance resolution hold
    obtain ⟨row', hrow', hdecided⟩ := hs.wrote id governance resolution hold
    obtain rfl := Option.some.inj (hrow'.symm.trans hrow)
    exact ⟨row', get?_leave_of_decided hsettles hrow' hdecided, houtcome⟩

/-- Approvals leave `pending` in time exactly when no update approves one that has
expired. -/
theorem leave_inTime_iff (hinTime : s.InTime) (hsettles : Settles guard set status) :
    (s.leave guard set hset status now).InTime
      ↔ (status = .approved →
        ∀ row ∈ s.approvals.rows, guard row = true → now < row.expiresAt) := by
  have hexpires : ∀ row, (if guard row then set row else row).expiresAt = row.expiresAt := by
    intro row
    split
    · exact hsettles.expiresAt row
    · rfl
  constructor
  · rintro hafter rfl row hrow hguard
    obtain ⟨row', hrow', hlt⟩ := hafter row.id now (mem_leave.mpr (.inl ⟨row, hrow, hguard, rfl⟩))
    rw [get?_leave, Table.get?_of_mem hrow, Option.map_some] at hrow'
    rw [← Option.some.inj hrow', hexpires] at hlt
    exact hlt
  · intro hopen id at' hmem
    rcases mem_leave.mp hmem with ⟨row, hrow, hguard, hentry⟩ | hold
    · obtain ⟨rfl, hstatus, rfl⟩ := Entry.left.inj hentry
      refine ⟨_, by rw [get?_leave, Table.get?_of_mem hrow, Option.map_some], ?_⟩
      rw [hexpires]
      exact hopen hstatus.symm row hrow hguard
    · obtain ⟨row, hrow, hlt⟩ := hinTime id at' hold
      refine ⟨_, by rw [get?_leave, hrow, Option.map_some], ?_⟩
      rw [hexpires]
      exact hlt

end

/-! ## The write to the Run -/

theorem writeRun_approvals (s : ServiceState) (approval : Approval) (outcome : Outcome)
    (now : Time) : (writeRun s approval outcome now).approvals = s.approvals := by
  unfold writeRun
  split <;> rfl

theorem writeRun_log (s : ServiceState) (approval : Approval) (outcome : Outcome) (now : Time) :
    (writeRun s approval outcome now).log
      = (s.runs.get? approval.runId).elim s.log fun _ =>
          .wrote approval.id outcome.governance outcome.resolution :: s.log := by
  unfold writeRun
  split
  next hrun => rw [hrun, Option.elim_none]
  next run hrun => rw [hrun, Option.elim_some]

theorem left_mem_writeRun {s : ServiceState} {approval : Approval} {outcome : Outcome}
    {now at' : Time} {id : String} {status : ApprovalStatus} :
    .left id status at' ∈ (writeRun s approval outcome now).log ↔ .left id status at' ∈ s.log := by
  rw [writeRun_log]
  cases s.runs.get? approval.runId with
  | none => rfl
  | some run =>
      show _ ∈ _ :: s.log ↔ _
      rw [List.mem_cons]
      simp

theorem writeRun_inTime {s : ServiceState} {approval : Approval} {outcome : Outcome} {now : Time} :
    (writeRun s approval outcome now).InTime ↔ s.InTime := by
  simp only [ServiceState.InTime, writeRun_approvals, left_mem_writeRun]

theorem writeRun_recorded {s : ServiceState} {approval : Approval} {outcome : Outcome} {now : Time}
    (hs : s.Recorded) (hrow : s.approvals.get? approval.id = some approval)
    (hdecided : approval.status ≠ .pending) : (writeRun s approval outcome now).Recorded := by
  refine ⟨?_, ?_, ?_, ?_, ?_⟩
  · intro id
    rw [writeRun_approvals, ← hs.counted id, writeRun_log]
    cases s.runs.get? approval.runId with
    | none => rfl
    | some run =>
        show (_ :: s.log).countP _ = _
        rw [List.countP_cons_of_neg]
        exact Bool.noConfusion
  · intro id status at' hmem
    rw [writeRun_approvals]
    exact hs.absorbed id status at' (left_mem_writeRun.mp hmem)
  · intro id status at' hmem
    exact hs.decided id status at' (left_mem_writeRun.mp hmem)
  · intro id row hget hne
    rw [writeRun_approvals] at hget
    obtain ⟨at', hentry⟩ := hs.recorded id row hget hne
    exact ⟨at', left_mem_writeRun.mpr hentry⟩
  · intro id governance resolution hmem
    rw [writeRun_approvals]
    rw [writeRun_log] at hmem
    cases hrun : s.runs.get? approval.runId with
    | none =>
        rw [hrun] at hmem
        exact hs.wrote id governance resolution hmem
    | some run =>
        rw [hrun] at hmem
        rcases List.mem_cons.mp hmem with hnew | hold
        · obtain ⟨rfl, -, -⟩ := Entry.wrote.inj hnew
          exact ⟨approval, hrow, hdecided⟩
        · exact hs.wrote id governance resolution hold

/-- The Runs agree exactly when there is no Run to write to, or what is written is
what the status of the approval stands for. -/
theorem writeRun_runsAgree_iff {s : ServiceState} {approval : Approval} {outcome : Outcome}
    {now : Time} (hagree : s.RunsAgree) (hrow : s.approvals.get? approval.id = some approval) :
    (writeRun s approval outcome now).RunsAgree
      ↔ s.runs.get? approval.runId = none
        ∨ ∃ final, finalOutcome approval = some final ∧ final.governance = outcome.governance
            ∧ final.resolution = outcome.resolution := by
  rw [ServiceState.RunsAgree, writeRun_approvals, writeRun_log]
  cases s.runs.get? approval.runId with
  | none => exact iff_of_true hagree (.inl rfl)
  | some run =>
      simp only [Option.elim_some, List.mem_cons, reduceCtorEq, false_or]
      constructor
      · intro hafter
        obtain ⟨row, hget, hfinal⟩ := hafter approval.id _ _ (.inl rfl)
        obtain rfl := Option.some.inj (hrow.symm.trans hget)
        exact hfinal
      · rintro hfinal id governance resolution (hnew | hold)
        · obtain ⟨rfl, rfl, rfl⟩ := Entry.wrote.inj hnew
          exact ⟨approval, hrow, hfinal⟩
        · exact hagree id governance resolution hold

/-- A decision writes what the status of the approval stands for exactly when it is
the decision that the status is of. -/
theorem agrees_iff {approval : Approval} {decision : String} {status : ApprovalStatus}
    (hstatus : statusForDecision decision = some status) :
    (∃ final, finalOutcome approval = some final
      ∧ final.governance = (stateMatrix (decision = "approve")
          (approval.action = sessionElevation) approval.id).governance
      ∧ final.resolution = (stateMatrix (decision = "approve")
          (approval.action = sessionElevation) approval.id).resolution)
      ↔ approval.status = status := by
  unfold statusForDecision at hstatus
  have happrove : decision = "approve" ∧ status = .approved
      ∨ decision ≠ "approve" ∧ status = .rejected := by
    split_ifs at hstatus with happrove hreject
    · exact .inl ⟨happrove, (Option.some.inj hstatus).symm⟩
    · exact .inr ⟨happrove, (Option.some.inj hstatus).symm⟩
  unfold finalOutcome
  rcases happrove with ⟨happrove, rfl⟩ | ⟨hreject, rfl⟩
  · cases approval.status <;> by_cases haction : approval.action = sessionElevation <;>
      simp [happrove, haction, stateMatrix]
  · cases approval.status <;> by_cases haction : approval.action = sessionElevation <;>
      simp [hreject, haction, stateMatrix]

/-! ## The transaction -/

section

variable {s : ServiceState} {request : Request} {approval : Approval} {now runNow : Time}
  {status : ApprovalStatus}

/-- The state after the guarded update of a transaction. -/
def afterUpdate (s : ServiceState) (request : Request) (approval : Approval)
    (status : ApprovalStatus) (now : Time) : ServiceState :=
  s.leave (·.awaits approval.id) (·.decided status request.decision request.senderId now)
    (Approval.decided_id status request.decision request.senderId now) status now

theorem resolveInTransaction_eq (hstatus : statusForDecision request.decision = some status) :
    (resolveInTransaction s request approval now runNow).2
      = match (afterUpdate s request approval status now).approvals.get? approval.id with
        | none => afterUpdate s request approval status now
        | some resolved => writeRun (afterUpdate s request approval status now) resolved
            (stateMatrix (request.decision = "approve") (resolved.action = sessionElevation)
              resolved.id) runNow := by
  unfold resolveInTransaction
  rw [hstatus]
  show (match (afterUpdate s request approval status now).approvals.get? approval.id with
    | none => _
    | some resolved => _ : ApprovalResolution × ServiceState).2 = _
  split <;> rfl

theorem resolveInTransaction_answer (hstatus : statusForDecision request.decision = some status)
    {resolved : Approval}
    (hafter : (afterUpdate s request approval status now).approvals.get? approval.id
      = some resolved) :
    (resolveInTransaction s request approval now runNow).1
      = resolvedFacts resolved (stateMatrix (request.decision = "approve")
          (resolved.action = sessionElevation) resolved.id) := by
  unfold resolveInTransaction
  rw [hstatus]
  show (match (afterUpdate s request approval status now).approvals.get? approval.id with
    | none => _
    | some resolved => _ : ApprovalResolution × ServiceState).1 = _
  rw [hafter]

theorem afterUpdate_row {resolved : Approval}
    (h : (afterUpdate s request approval status now).approvals.get? approval.id = some resolved) :
    ∃ row, s.approvals.get? approval.id = some row ∧ resolved.id = approval.id
      ∧ resolved.runId = row.runId ∧ resolved.action = row.action
      ∧ (row.status = .pending ∧ resolved.status = status
        ∨ row.status ≠ .pending ∧ resolved = row) := by
  have hid := (Table.get?_eq_some_iff.mp h).2
  rw [afterUpdate, get?_leave] at h
  obtain ⟨row, hrow, hresolved⟩ := Option.map_eq_some_iff.mp h
  have hrowId : row.id = approval.id := (Table.get?_eq_some_iff.mp hrow).2
  by_cases hpending : row.status = .pending
  · have hawaits : row.awaits approval.id = true := decide_eq_true ⟨hrowId, hpending⟩
    rw [if_pos hawaits] at hresolved
    subst hresolved
    exact ⟨row, hrow, hid, rfl, rfl, .inl ⟨hpending, rfl⟩⟩
  · rw [if_neg fun hguard => hpending (of_decide_eq_true hguard).2] at hresolved
    subst hresolved
    exact ⟨row, hrow, hid, rfl, rfl, .inr ⟨hpending, rfl⟩⟩

theorem resolveInTransaction_recorded (hs : s.Recorded) :
    (resolveInTransaction s request approval now runNow).2.Recorded := by
  cases hstatus : statusForDecision request.decision with
  | none =>
      rw [resolveInTransaction, hstatus]
      exact hs
  | some status =>
      have hafter : (afterUpdate s request approval status now).Recorded :=
        leave_recorded hs (decided_settles hstatus)
      rw [resolveInTransaction_eq hstatus]
      split
      · exact hafter
      next resolved hresolved =>
        obtain ⟨row, -, hid, -, -, hrow⟩ := afterUpdate_row hresolved
        refine writeRun_recorded hafter (hid ▸ hresolved) ?_
        rcases hrow with ⟨-, hset⟩ | ⟨hdecided, rfl⟩
        · rw [hset]
          exact statusForDecision_ne_pending hstatus
        · exact hdecided

/-- The update of a transaction is in time exactly when it does not approve an
approval that is pending and has expired. -/
theorem afterUpdate_inTime_iff (hinTime : s.InTime)
    (hstatus : statusForDecision request.decision = some status) :
    (afterUpdate s request approval status now).InTime
      ↔ ∀ row ∈ s.approvals.get? approval.id, row.status = .pending → status = .approved →
          now < row.expiresAt := by
  rw [afterUpdate, leave_inTime_iff hinTime (decided_settles hstatus)]
  constructor
  · intro hopen row hrow hpending happroves
    obtain ⟨hmem, hid⟩ := Table.get?_eq_some_iff.mp hrow
    exact hopen happroves row hmem (decide_eq_true ⟨hid, hpending⟩)
  · intro hopen happroves row hmem hguard
    obtain ⟨hid, hpending⟩ := of_decide_eq_true hguard
    exact hopen row (Table.get?_eq_some_iff.mpr ⟨hmem, hid⟩) hpending happroves

/-- A transaction keeps approvals in time and the Runs agreeing exactly when it finds
its approval as it may. -/
theorem resolveInTransaction_iff (hs : s.Recorded) (hinTime : s.InTime) (hagree : s.RunsAgree) :
    (resolveInTransaction s request approval now runNow).2.InTime
        ∧ (resolveInTransaction s request approval now runNow).2.RunsAgree
      ↔ ∀ row ∈ s.approvals.get? approval.id, ∀ status ∈ statusForDecision request.decision,
          if row.status = .pending then status = .approved → now < row.expiresAt
          else row.status = status ∨ s.runs.get? row.runId = none := by
  cases hstatus : statusForDecision request.decision with
  | none =>
      rw [resolveInTransaction, hstatus]
      simp [hinTime, hagree]
  | some status =>
      have hafter : (afterUpdate s request approval status now).RunsAgree :=
        leave_runsAgree hs hagree (decided_settles hstatus)
      have htime : (afterUpdate s request approval status now).InTime ↔ _ :=
        afterUpdate_inTime_iff hinTime hstatus
      rw [resolveInTransaction_eq hstatus]
      simp only [Option.mem_def, Option.some.injEq, forall_eq'] at htime ⊢
      split
      next hmissing =>
        rw [htime]
        have hnone : s.approvals.get? approval.id = none := by
          rw [afterUpdate, get?_leave] at hmissing
          exact Option.map_eq_none_iff.mp hmissing
        simp [hnone, hafter]
      next resolved hresolved =>
        obtain ⟨row, hrow, hid, hrunId, -, hfound⟩ := afterUpdate_row hresolved
        rw [writeRun_inTime, writeRun_runsAgree_iff hafter (hid ▸ hresolved), agrees_iff hstatus,
          htime, hrow, hrunId]
        simp only [Option.some.injEq, forall_eq']
        show _ ∧ (s.runs.get? row.runId = none ∨ _) ↔ _
        rcases hfound with ⟨hpending, hset⟩ | ⟨hdecided, rfl⟩
        · simp [hpending, hset]
        · simp [hdecided, or_comm]

end

/-! ## Runs of the service -/

theorem create_get? {s : ServiceState} {created : Approval} (hpending : created.status = .pending)
    {id : String} {row : Approval} (hdecided : row.status ≠ .pending) :
    (s.approvals.insertOrIgnore created).get? id = some row ↔ s.approvals.get? id = some row := by
  rw [Table.get?_insertOrIgnore]
  cases s.approvals.get? id with
  | some found => rw [Option.some_or]
  | none =>
      rw [Option.none_or]
      constructor
      · intro hrow
        split at hrow
        · obtain rfl := Option.some.inj hrow
          exact absurd hpending hdecided
        · exact hrow
      · intro hrow
        cases hrow

theorem create_recorded {s : ServiceState} (hs : s.Recorded) {created : Approval}
    (hpending : created.status = .pending) :
    ServiceState.Recorded { s with approvals := s.approvals.insertOrIgnore created } := by
  refine ⟨?_, ?_, hs.decided, ?_, ?_⟩
  · intro id
    rw [hs.counted, Table.get?_insertOrIgnore]
    cases s.approvals.get? id with
    | some row => rfl
    | none =>
        rw [Option.none_or]
        split
        · show 0 = ite _ _ _
          rw [if_pos hpending]
        · rfl
  · intro id status now hmem
    obtain ⟨row, hrow, rfl⟩ := hs.absorbed id status now hmem
    exact ⟨row, (create_get? hpending (hs.decided _ _ _ hmem)).mpr hrow, rfl⟩
  · intro id row hrow hdecided
    exact hs.recorded id row ((create_get? hpending hdecided).mp hrow) hdecided
  · intro id governance resolution hmem
    obtain ⟨row, hrow, hdecided⟩ := hs.wrote id governance resolution hmem
    exact ⟨row, (create_get? hpending hdecided).mpr hrow, hdecided⟩

theorem create_keeps {s : ServiceState} (created : Approval) (hinTime : s.InTime)
    (hagree : s.RunsAgree) :
    ServiceState.InTime { s with approvals := s.approvals.insertOrIgnore created }
      ∧ ServiceState.RunsAgree { s with approvals := s.approvals.insertOrIgnore created } := by
  constructor
  · intro id now hmem
    obtain ⟨row, hrow, hlt⟩ := hinTime id now hmem
    exact ⟨row, Table.get?_insertOrIgnore_of_some created hrow, hlt⟩
  · intro id governance resolution hmem
    obtain ⟨row, hrow, hfinal⟩ := hagree id governance resolution hmem
    exact ⟨row, Table.get?_insertOrIgnore_of_some created hrow, hfinal⟩

theorem expirePending_keeps {s : ServiceState} (hs : s.Recorded) (hinTime : s.InTime)
    (hagree : s.RunsAgree) (now : Time) :
    (expirePending s now).InTime ∧ (expirePending s now).RunsAgree := by
  refine ⟨?_, leave_runsAgree hs hagree (expired_settles now)⟩
  exact (leave_inTime_iff hinTime (expired_settles now)).mpr ApprovalStatus.noConfusion

/-- What a step does to the tables and the log: nothing, a new approval, a sweep, or
the transaction of a call. -/
theorem step_cases {s s' : ServiceState} {label : Label}
    (h : resolveSystem.step s label = some s') :
    (∃ calls, s' = { s with calls := calls } ∧ DecidesInTime s label)
      ∨ (∃ created, created.status = .pending ∧ DecidesInTime s label
          ∧ s' = { s with approvals := s.approvals.insertOrIgnore created })
      ∨ (∃ calls now, s' = { expirePending s now with calls := calls } ∧ DecidesInTime s label)
      ∨ (∃ call now runNow request approval calls, label = .advance call now runNow
          ∧ s.calls call = .resolving request approval
          ∧ s' = { (resolveInTransaction s request approval now runNow).2 with
            calls := calls }) := by
  cases label with
  | create id runId action requestedTool requestedPermission source peerId senderId code ttlSeconds
      now =>
      obtain rfl := Option.some.inj h
      exact .inr (.inl ⟨_, rfl, trivial, rfl⟩)
  | expire now =>
      obtain rfl := Option.some.inj h
      exact .inr (.inr (.inl ⟨s.calls, now, rfl, trivial⟩))
  | resolve call request =>
      simp only [resolveSystem] at h
      split at h
      · obtain rfl := Option.some.inj h
        exact .inl ⟨_, rfl, trivial⟩
      · obtain rfl := Option.some.inj h
        exact .inl ⟨_, rfl, trivial⟩
      · cases h
  | advance call now runNow =>
      simp only [resolveSystem] at h
      cases hcall : s.calls call with
      | idle =>
          rw [hcall] at h
          cases h
      | returned answer =>
          rw [hcall] at h
          cases h
      | expiring request pendingOnly =>
          rw [hcall] at h
          obtain rfl := Option.some.inj h
          exact .inr (.inr (.inl ⟨_, now, rfl, by simp [DecidesInTime, hcall]⟩))
      | selecting request pendingOnly =>
          rw [hcall] at h
          obtain rfl := Option.some.inj h
          exact .inl ⟨_, rfl, by simp [DecidesInTime, hcall]⟩
      | existing request approval =>
          rw [hcall] at h
          obtain rfl := Option.some.inj h
          exact .inl ⟨_, rfl, by simp [DecidesInTime, hcall]⟩
      | resolving request approval =>
          rw [hcall] at h
          obtain rfl := Option.some.inj h
          exact .inr (.inr (.inr ⟨call, now, runNow, request, approval, _, rfl, hcall, rfl⟩))

theorem step_recorded {s s' : ServiceState} {label : Label} (hs : s.Recorded)
    (h : resolveSystem.step s label = some s') : s'.Recorded := by
  obtain ⟨calls, rfl, -⟩ | ⟨created, hpending, -, rfl⟩ | ⟨calls, now, rfl, -⟩
    | ⟨call, now, runNow, request, approval, calls, -, -, rfl⟩ := step_cases h
  · exact ⟨hs.counted, hs.absorbed, hs.decided, hs.recorded, hs.wrote⟩
  · exact create_recorded hs hpending
  · have hafter : (expirePending s now).Recorded := leave_recorded hs (expired_settles now)
    obtain ⟨hcounted, habsorbed, hdecided, hrecorded, hwrote⟩ := hafter
    exact ⟨hcounted, habsorbed, hdecided, hrecorded, hwrote⟩
  · have hresolved : (resolveInTransaction s request approval now runNow).2.Recorded :=
      resolveInTransaction_recorded hs
    obtain ⟨hcounted, habsorbed, hdecided, hrecorded, hwrote⟩ := hresolved
    exact ⟨hcounted, habsorbed, hdecided, hrecorded, hwrote⟩

theorem step_singleWinner_iff {s s' : ServiceState} {label : Label} (hs : s.Recorded)
    (hwinner : s.SingleWinner) (h : resolveSystem.step s label = some s') :
    s'.SingleWinner ↔ DecidesInTime s label := by
  rw [singleWinner_iff (step_recorded hs h)]
  have hinTime := hwinner.inTime
  have hagree := hwinner.runsAgree
  obtain ⟨calls, rfl, hdecides⟩ | ⟨created, hpending, hdecides, rfl⟩ | ⟨calls, now, rfl, hdecides⟩
    | ⟨call, now, runNow, request, approval, calls, rfl, hcall, rfl⟩ := step_cases h
  · exact iff_of_true ⟨hinTime, hagree⟩ hdecides
  · exact iff_of_true (create_keeps created hinTime hagree) hdecides
  · exact iff_of_true (expirePending_keeps hs hinTime hagree now) hdecides
  · have hdecides : DecidesInTime s (.advance call now runNow)
        ↔ ∀ row ∈ s.approvals.get? approval.id, ∀ status ∈ statusForDecision request.decision,
          if row.status = .pending then status = .approved → now < row.expiresAt
          else row.status = status ∨ s.runs.get? row.runId = none := by
      rw [DecidesInTime, hcall]
    rw [hdecides]
    exact resolveInTransaction_iff hs hinTime hagree

theorem resolve_enabled {s : ServiceState} {label : Label} (h : ¬ DecidesInTime s label) :
    ∃ s', resolveSystem.step s label = some s' := by
  cases label with
  | advance call now runNow =>
      cases hcall : s.calls call with
      | resolving request approval => exact ⟨_, by simp only [resolveSystem, hcall]; rfl⟩
      | _ => exact absurd (by simp [DecidesInTime, hcall]) h
  | _ => exact absurd trivial h

/-- **Approvals have one winner.** In every run from no approvals, whatever the Runs,
every approval leaves `pending` at most once, is never approved at or after its
expiry, and every Run write agrees with its final status, if and only if every
transaction of `resolve` finds its approval pending and in time, or already as it
would decide it, or without a Run. -/
theorem single_winner_iff (runs : RunTable) (labels : List Label) :
    (∀ n s, resolveSystem.run (.start runs) (labels.take n) = some s → s.SingleWinner)
      ↔ resolveSystem.Along DecidesInTime (.start runs) labels := by
  have hstart : (ServiceState.start runs).Recorded := by
    refine ⟨fun _ => rfl, ?_, ?_, ?_, ?_⟩
    · intro id status now hmem
      cases hmem
    · intro id status now hmem
      cases hmem
    · intro id row hrow
      cases hrow
    · intro id governance resolution hmem
      cases hmem
  have hwinner : (ServiceState.start runs).SingleWinner := by
    refine (singleWinner_iff hstart).mpr ⟨?_, ?_⟩
    · intro id now hmem
      cases hmem
    · intro id governance resolution hmem
      cases hmem
  exact resolveSystem.run_good_iff (fun _ _ _ hs h => step_recorded hs h)
    (fun _ _ _ hs hwinner h => step_singleWinner_iff hs hwinner h)
    (fun _ _ h => resolve_enabled h) hstart hwinner labels

def governedRuns : RunTable := Table.empty.insertOrIgnore (runningRun "run")

/-- Two callers find the approval pending; one approves it and then the other
rejects it. -/
def opposedCalls : List Label :=
  [.create "approval" "run" "capability" "shell" "write" "" "" "owner" "000001" 900 0,
    .resolve 0 ⟨"approve", "000001", "", "", "", "owner"⟩,
    .resolve 1 ⟨"reject", "000001", "", "", "", "owner"⟩,
    .advance 0 1 1, .advance 0 1 1, .advance 1 1 1, .advance 1 1 1,
    .advance 0 2 2, .advance 1 3 3]

/-- The approval is approved, and its Run rejected and canceled. -/
theorem opposed_calls_disagree :
    ¬ ∀ (runs : RunTable) (labels : List Label) (s : ServiceState),
      resolveSystem.run (.start runs) labels = some s → s.SingleWinner := by
  intro hall
  have hrun : (resolveSystem.run (.start governedRuns) opposedCalls).map (fun s =>
      ((s.approvals.get? "approval").map (·.status),
        (s.runs.get? "run").map fun run => (run.governance, run.resolution),
        s.log.any fun
          | .wrote id governance resolution =>
              id = "approval" ∧ governance = .rejected ∧ resolution = .canceled
          | .left _ _ _ => false))
        = some (some .approved, some (.rejected, .canceled), true) := by
    decide +kernel
  obtain ⟨s, hs, hfinal⟩ := Option.map_eq_some_iff.mp hrun
  obtain ⟨hstatus, hrest⟩ := Prod.mk.inj hfinal
  obtain ⟨-, hlog⟩ := Prod.mk.inj hrest
  obtain ⟨entry, hentry, hwrote⟩ := List.any_eq_true.mp hlog
  cases entry with
  | left id status now => cases hwrote
  | wrote id governance resolution =>
      obtain ⟨rfl, rfl, rfl⟩ := of_decide_eq_true hwrote
      obtain ⟨row, hrow, outcome, houtcome, hgovernance, -⟩ :=
        (hall _ _ s hs).runsAgree _ _ _ hentry
      rw [hrow] at hstatus
      rw [finalOutcome, show row.status = .approved from Option.some.inj hstatus] at houtcome
      obtain rfl := Option.some.inj houtcome
      by_cases haction : row.action = sessionElevation <;>
        simp [haction, stateMatrix] at hgovernance

end Navi.Approvals
