import Navi.Base.System
import Navi.Capabilities.HandlerFailures
import Navi.Capabilities.TurnApprovals

/-!
# Single use of a turn's approval

The calls of `invoke` outside a governed Run, statement by statement: the look-up
of an approval, the execution under it and the settlement that ends its Run. The
look-up and the settlement are transactions of their own and nothing takes the
approval in between, so an approval is spent once only where no two calls hold it,
where every execution is settled, and where nobody opens its Run again.
-/

namespace Navi.Capabilities

open Navi.Base Navi.EffectJournal Navi.Lifecycle
open Navi.Loop (ApprovalStatus)

/-! ## The calls -/

/-- Where a call of `invoke` outside a governed Run is. -/
inductive TurnCall where
  | idle
  | looking (request : TurnRequest) (runIds : List String)
  | authorised (request : TurnRequest) (approvalId : String)
  | running (approvalId : String) (settled : Option CapabilityResult)
  | settling (approvalId : String) (result : CapabilityResult)
  | closing (approvalId runId : String) (result : CapabilityResult)
  | writing (approvalId : String) (run : ApprovalRun) (result : CapabilityResult)
  | suspended
  | ended

/-- The approval a call in flight was let through by. -/
def TurnCall.approvalId : TurnCall → Option String
  | .authorised _ id | .running id _ | .settling id _ | .closing id _ _ | .writing id _ _ => some id
  | .idle | .looking _ _ | .suspended | .ended => none

/-- The table `approvals`. The id of an approval is never used again, and its `run_id`
is never updated. -/
abbrev ApprovalsOf (runOf : String → String) : Type :=
  { table : ApprovalTable // ∀ approval ∈ table.rows, approval.runId = runOf approval.id }

/-- The two stores, every call, and the approvals of the executions that reached their
handler, the last one first. -/
structure TurnState (runOf : String → String) where
  runs : RunTable
  approvals : ApprovalsOf runOf
  calls : Nat → TurnCall
  spent : List String

variable {runOf : String → String}

def openState (runs : RunTable) (approvals : ApprovalsOf runOf) : TurnState runOf :=
  ⟨runs, approvals, fun _ => .idle, []⟩

/-- A statement of one call, or what anyone else does to the stores. -/
inductive TurnLabel (runOf : String → String) where
  | look (n : Nat) (request : TurnRequest)
  | query (n : Nat)
  /-- A hook or a check after the look-up refuses the call. -/
  | refuse (n : Nat)
  | start (n : Nat) (call : Invocation) (world : World call) (journalled : List Call)
  | finish (n : Nat)
  | settle (n : Nat)
  | reread (n : Nat)
  | write (n : Nat) (now : Time)
  /-- An exception, or the end of the process, ends the call where it is. -/
  | crash (n : Nat)
  | others (runs : RunTable) (approvals : ApprovalsOf runOf)

/-- The updates of `_settle_turn_capability_approval`. -/
def settlementUpdates (result : CapabilityResult) : RunUpdates where
  phase := some .ended
  governance := some .approved
  acceptance := some (if result.ok then .accepted else .rejected)
  resolution := some (if result.ok then .success else .failed)
  planSummary := none
  resultSummary := some ("approved capability completed ok="
    ++ (if result.ok then "true" else "false") ++ " action=" ++ result.action)
  error := some (if result.ok then ""
    else if result.errorReason ≠ "" then result.errorReason else "capability_failed")
  trustRuleId := none
  autonomyLevel := none

/-- A row of `runs` with the columns `update_run` writes. -/
def ApprovalRun.written (values : Run) (row : ApprovalRun) : ApprovalRun :=
  { row with toRun := { values with id := row.id } }

@[simp] theorem ApprovalRun.written_id (values : Run) (row : ApprovalRun) :
    (row.written values).id = row.id := rfl

/-- The `UPDATE` of `update_run`, with the columns merged onto the Run it has read. -/
def writeRun (runs : RunTable) (read : ApprovalRun) (updates : RunUpdates) (now : Time) :
    RunTable :=
  runs.update (fun row => row.id = read.id) (·.written (mergeRunUpdates read.toRun updates now))
    (ApprovalRun.written_id _)

/-- The result an execution is settled with, if it is. -/
def resultToSettle (call : Invocation) : Except Escape Conclusion → Option CapabilityResult
  | .ok conclusion =>
      if conclusion.settles ∧ settlementApplies call conclusion.result then some conclusion.result
      else none
  | .error _ => none

/-- The Run a settlement is going to end. -/
def settledRun (runs : RunTable) (approvals : ApprovalTable) (approvalId : String) :
    Option ApprovalRun :=
  match approvals.get? approvalId with
  | none => none
  | some approval =>
      match runs.get? approval.runId with
      | none => none
      | some run =>
          if run.kind = "capability_approval" ∧ openPhase run.phase then some run else none

instance (call : Invocation) (world : World call) (effects : EffectJournal.Table) :
    Decidable (Reached call world effects) :=
  have : Decidable (∃ id, world.auditReservation = .ok id) :=
    match h : world.auditReservation with
    | .ok id => isTrue ⟨id, rfl⟩
    | .error _ => isFalse fun ⟨_, hid⟩ => by cases hid
  inferInstanceAs (Decidable ((call.journaled = true → _ = _) ∧ _ = _ ∧ (call.audited = true → _)))

def TurnState.setCall (s : TurnState runOf) (n : Nat) (call : TurnCall) : TurnState runOf :=
  { s with calls := Function.update s.calls n call }

section

variable (s : TurnState runOf) (n : Nat) (call : TurnCall)

@[simp] theorem TurnState.setCall_runs : (s.setCall n call).runs = s.runs := rfl

@[simp] theorem TurnState.setCall_approvals : (s.setCall n call).approvals = s.approvals := rfl

@[simp] theorem TurnState.setCall_spent : (s.setCall n call).spent = s.spent := rfl

@[simp] theorem TurnState.setCall_calls_self : (s.setCall n call).calls n = call :=
  Function.update_self ..

theorem TurnState.setCall_calls_of_ne {m : Nat} (h : m ≠ n) :
    (s.setCall n call).calls m = s.calls m :=
  Function.update_of_ne h ..

@[simp] theorem TurnState.setCall_setCall (next : TurnCall) :
    (s.setCall n call).setCall n next = s.setCall n next := by
  simp [TurnState.setCall]

end

/-- The calls of turns, statement by statement. The journal a call finds is one its
calls lead to. -/
def turnSystem (runOf : String → String) : System (TurnState runOf) (TurnLabel runOf) where
  step s
    | .look n request =>
        match s.calls n with
        | .idle => some (s.setCall n (.looking request ((openRuns s.runs.rows request).map (·.id))))
        | _ => none
    | .query n =>
        match s.calls n with
        | .looking request (runId :: rest) =>
            match approvedForTurn s.approvals.val.rows request runId with
            | some approval => some (s.setCall n (.authorised request approval.id))
            | none => some (s.setCall n (.looking request rest))
        | .looking _ [] => some (s.setCall n .suspended)
        | _ => none
    | .refuse n =>
        match s.calls n with
        | .authorised _ _ => some (s.setCall n .ended)
        | _ => none
    | .start n call world journalled =>
        match s.calls n with
        | .authorised request approvalId =>
            if call.name = request.name ∧ call.approvedApprovalId = approvalId
                ∧ call.governedRunId = "" then
              let effects := journal.run emptyTable journalled
              let outcome := (executed call world effects).1
              some { s.setCall n (.running approvalId (resultToSettle call outcome)) with
                spent := if Reached call world effects then approvalId :: s.spent else s.spent }
            else none
        | _ => none
    | .finish n =>
        match s.calls n with
        | .running approvalId (some result) => some (s.setCall n (.settling approvalId result))
        | .running _ none => some (s.setCall n .ended)
        | _ => none
    | .settle n =>
        match s.calls n with
        | .settling approvalId result =>
            match settledRun s.runs s.approvals.val approvalId with
            | some run => some (s.setCall n (.closing approvalId run.id result))
            | none => some (s.setCall n .ended)
        | _ => none
    | .reread n =>
        match s.calls n with
        | .closing approvalId runId result =>
            match s.runs.get? runId with
            | some run => some (s.setCall n (.writing approvalId run result))
            | none => some (s.setCall n .ended)
        | _ => none
    | .write n now =>
        match s.calls n with
        | .writing _ run result =>
            some { s.setCall n .ended with
              runs := writeRun s.runs run (settlementUpdates result) now }
        | _ => none
    | .crash n => some (s.setCall n .ended)
    | .others runs approvals => some { s with runs := runs, approvals := approvals }

/-! ## What a run is to keep -/

/-- The approval is approved and its Run is an open `capability_approval`. -/
def Usable (runs : RunTable) (approvals : ApprovalTable) (approvalId : String) : Prop :=
  ∃ approval ∈ approvals.rows, approval.id = approvalId ∧ approval.status = .approved
    ∧ ∃ run ∈ runs.rows, run.id = approval.runId ∧ run.kind = "capability_approval"
      ∧ openPhase run.phase = true

/-- No call in flight was let through by the approval. -/
def TurnState.Free (s : TurnState runOf) (approvalId : String) : Prop :=
  ∀ n, (s.calls n).approvalId ≠ some approvalId

/-- The statements of a whole look-up, when nothing comes between them. -/
def turnLookUp (s : TurnState runOf) (n : Nat) (request : TurnRequest) : List (TurnLabel runOf) :=
  .look n request :: List.replicate ((openRuns s.runs.rows request).length + 1) (.query n)

/-- The look-up finds no approval but those that are spent and that no call in flight
holds. -/
def TurnState.AllSpent (s : TurnState runOf) (request : TurnRequest) : Prop :=
  ∀ run ∈ openRuns s.runs.rows request,
    ∀ approval ∈ approvedForTurn s.approvals.val.rows request run.id,
      approval.id ∈ s.spent ∧ s.Free approval.id

/-- An approval is spent once: no two executions reach their handler under it, and a
call that comes after its execution suspends. -/
structure TurnState.SpentOnce (s : TurnState runOf) : Prop where
  once : s.spent.Nodup
  suspends : ∀ n request, s.calls n = .idle → s.AllSpent request →
    ∃ s', (turnSystem runOf).run s (turnLookUp s n request) = some s' ∧ s'.calls n = .suspended

/-- An execution that reaches its handler is settled: the gateway takes its grant
back, the outcome of the audit is persisted, and the handler either returns what is
neither yielding nor waiting, with its journal entry completed, or raises an
`Exception` in a call that is not journaled. -/
def Settles (call : Invocation) (world : World call) : Prop :=
  world.release = none ∧ ¬ AuditFails call world ∧
    match world.handler with
    | .returned result =>
        settlementApplies call (checkedOutput call result) = true
          ∧ (call.journaled = true → world.completion = none ∧ LeaseKept call world)
    | .raised error =>
        error.isException = true ∧ call.journaled = false ∧ call.approvedApprovalId ≠ ""
          ∧ call.governedRunId = ""

/-- The approval a look-up finds has an open Run still and is in no other hand; an
execution is settled and not cut short; and nobody else opens the Run of an approval
that is spent. -/
def KeepsSingleUse (s : TurnState runOf) : TurnLabel runOf → Prop
  | .query n =>
      ∀ request runId rest, s.calls n = .looking request (runId :: rest) →
        ∀ approval ∈ approvedForTurn s.approvals.val.rows request runId,
          Usable s.runs s.approvals.val approval.id ∧ s.Free approval.id
  | .start _ call world journalled =>
      Reached call world (journal.run emptyTable journalled) → Settles call world
  | .crash n => ∀ approvalId ∈ (s.calls n).approvalId, approvalId ∉ s.spent
  | .others runs approvals =>
      ∀ approvalId ∈ s.spent, Usable runs approvals.val approvalId →
        Usable s.runs s.approvals.val approvalId
  | _ => True

/-! ## Executions that are settled -/

section

variable {call : Invocation} {world : World call} {effects : EffectJournal.Table}

theorem resultToSettle_isSome_of_ok (conclusion : Conclusion) :
    (resultToSettle call (.ok conclusion)).isSome = true
      ↔ conclusion.settles = true ∧ settlementApplies call conclusion.result = true := by
  by_cases h : conclusion.settles = true ∧ settlementApplies call conclusion.result = true
  · simp [resultToSettle, h]
  · simp only [resultToSettle, h, if_false, Option.isSome_none, Bool.false_eq_true]

theorem not_resultToSettle_error (escape : Escape) :
    ¬ (resultToSettle call (.error escape)).isSome = true := Bool.false_ne_true

theorem completed_settles_iff (result : CapabilityResult) :
    (resultToSettle call (completed call world effects result).1).isSome = true
      ↔ settlementApplies call result = true
        ∧ (call.journaled = true → world.completion = none
          ∧ (owned effects call.effectKey call.effectOwner).isSome = true) := by
  unfold completed
  by_cases hjournaled : call.journaled = true
  · rw [if_pos hjournaled]
    cases hcompletion : world.completion with
    | some error => simp [hjournaled, resultToSettle]
    | none =>
        cases howned : owned effects call.effectKey call.effectOwner with
        | none => simp [complete, howned, hjournaled, resultToSettle]
        | some row => simp [complete, howned, resultToSettle_isSome_of_ok]
  · rw [if_neg hjournaled, resultToSettle_isSome_of_ok]
    simp [hjournaled]

theorem not_settles_auditFailed (auditId : String) (result : CapabilityResult) (error : PyError) :
    ¬ (resultToSettle call (auditFailed call world effects auditId result error).1).isSome
      = true := by
  unfold auditFailed
  split
  next => exact not_resultToSettle_error _
  next =>
    rw [resultToSettle_isSome_of_ok]
    exact fun h => Bool.false_ne_true h.1

theorem concluded_settles_iff (result : CapabilityResult) :
    (resultToSettle call
        (concluded call world effects (auditLogId call world) result).1).isSome = true
      ↔ ¬ AuditFails call world ∧ settlementApplies call result = true
        ∧ (call.journaled = true → world.completion = none
          ∧ (owned effects call.effectKey call.effectOwner).isSome = true) := by
  by_cases haudit : AuditFails call world
  · obtain ⟨error, hconcluded⟩ := @concluded_of_auditFails call world effects result haudit
    rw [hconcluded]
    exact iff_of_false (not_settles_auditFailed _ _ _) fun h => h.1 haudit
  · rw [concluded_of_audited haudit, completed_settles_iff]
    simp [haudit]

theorem returned_settles_iff (hknown : Known effects) (hreached : Reached call world effects)
    {result : CapabilityResult} (hreturned : world.handler = .returned result) :
    (resultToSettle call (executed call world effects).1).isSome = true ↔ Settles call world := by
  rw [executed_of_reached hreached]
  unfold performed handled Settles
  rw [hreturned]
  cases hrelease : world.release with
  | some error => simp [resultToSettle]
  | none =>
      simp only [concluded_settles_iff, true_and]
      rw [← journal.run_append]
      refine and_congr_right fun _ => and_congr_right fun _ => forall_congr' fun hjournaled => ?_
      refine and_congr_right fun _ => ?_
      exact owned_iff_kept (known_reservedTable hknown) (holds_reservedTable hreached hjournaled)
        fun other hmem => world.strangers other (List.mem_append_left _ hmem)

theorem raised_unowned (hknown : Known effects) (hreached : Reached call world effects)
    (hjournaled : call.journaled = true) (text : String) :
    owned (journal.run (fail (journal.run (reservedTable call world effects) world.during)
      call.effectKey call.effectOwner text world.failedAt) world.completing)
      call.effectKey call.effectOwner = none := by
  have hreserved : Known (reservedTable call world effects) := known_reservedTable hknown
  have hentry := holds_or_uncertain hreserved (holds_reservedTable hreached hjournaled)
    fun other hmem => world.strangers other (List.mem_append_left _ (List.mem_append_left _ hmem))
  have hfailed := step_known (run_known hreserved world.during)
    (.fail call.effectKey call.effectOwner text world.failedAt)
  exact owned_of_uncertain (run_uncertain hfailed (uncertain_of_fail hentry) world.completing)

theorem raised_settles_iff (hknown : Known effects) (hreached : Reached call world effects)
    {error : PyError} (hraised : world.handler = .raised error) :
    (resultToSettle call (executed call world effects).1).isSome = true ↔ Settles call world := by
  rw [executed_of_reached hreached]
  unfold Settles
  rw [hraised]
  by_cases hexception : error.isException = true
  · cases hrelease : world.release with
    | some release => simp [performed, handled, hraised, hexception, hrelease, resultToSettle]
    | none =>
        by_cases hjournaled : call.journaled = true
        · -- the entry is failed first, so the completion finds it owned by nobody
          cases hfailure : world.failure with
          | some failure =>
              simp [performed, handled, hraised, hexception, hrelease, journalFail, hjournaled,
                hfailure, resultToSettle]
          | none =>
              have hunowned := raised_unowned hknown hreached hjournaled
                (error.typeName ++ ": " ++ error.text)
              simp [performed, handled, hraised, hexception, hrelease, journalFail, hjournaled,
                hfailure, checkedOutput_crashed, concluded_settles_iff, hunowned]
        · simp [performed, handled, hraised, hexception, hrelease, journalFail, hjournaled,
            checkedOutput_crashed, concluded_settles_iff, settlementApplies_crashed]
  · have hnever : ¬ (resultToSettle call (performed call world (reservedTable call world effects)
        (auditLogId call world)).1).isSome = true := by
      cases hrelease : world.release <;>
        simp [performed, handled, hraised, hexception, hrelease, resultToSettle]
    exact iff_of_false hnever fun h => hexception h.2.2.1

theorem settles_iff (hknown : Known effects) (hreached : Reached call world effects) :
    (resultToSettle call (executed call world effects).1).isSome = true ↔ Settles call world := by
  cases hhandler : world.handler with
  | returned result => exact returned_settles_iff hknown hreached hhandler
  | raised error => exact raised_settles_iff hknown hreached hhandler

end

/-! ## The invariant -/

/-- The call is going to settle its execution under the approval. -/
def TurnCall.WillSettle (runOf : String → String) (approvalId : String) : TurnCall → Prop
  | .running id settled => id = approvalId ∧ settled.isSome = true
  | .settling id _ => id = approvalId
  | .closing id runId _ => id = approvalId ∧ runId = runOf id
  | .writing id run _ => id = approvalId ∧ run.id = runOf id
  | .idle | .looking _ _ | .authorised _ _ | .suspended | .ended => False

theorem TurnCall.WillSettle.approvalId_eq {approvalId : String} {call : TurnCall}
    (h : call.WillSettle runOf approvalId) : call.approvalId = some approvalId := by
  cases call with
  | running | closing | writing => exact congrArg some h.1
  | settling => exact congrArg some h
  | idle | looking | authorised | suspended | ended => exact h.elim

/-- An approval is in one hand. The calls it lets through are before its execution, and
after that some call is going to settle it as long as it is usable. -/
structure TurnState.Guarded (s : TurnState runOf) : Prop where
  once : s.spent.Nodup
  alone : ∀ m n approvalId, (s.calls m).approvalId = some approvalId →
    (s.calls n).approvalId = some approvalId → m = n
  unspent : ∀ n request approvalId, s.calls n = .authorised request approvalId →
    approvalId ∉ s.spent
  settles : ∀ approvalId ∈ s.spent, Usable s.runs s.approvals.val approvalId →
    ∃ n, (s.calls n).WillSettle runOf approvalId

theorem guarded_openState (runs : RunTable) (approvals : ApprovalsOf runOf) :
    (openState runs approvals).Guarded where
  once := List.nodup_nil
  alone m n approvalId hm := by cases hm
  unspent n request approvalId hn := by cases hn
  settles approvalId hmem := absurd hmem List.not_mem_nil

section

variable {s : TurnState runOf} {n : Nat}

/-- A call that moves on without another approval, and gives up its settlement only
where the approval is no longer usable. -/
theorem guarded_setCall (h : s.Guarded) {call : TurnCall}
    (hid : ∀ approvalId, call.approvalId = some approvalId →
      (s.calls n).approvalId = some approvalId)
    (hauthorised : ∀ request approvalId, call ≠ .authorised request approvalId)
    (hsettles : ∀ approvalId ∈ s.spent, Usable s.runs s.approvals.val approvalId →
      (s.calls n).WillSettle runOf approvalId → call.WillSettle runOf approvalId) :
    (s.setCall n call).Guarded := by
  have hold : ∀ m approvalId, ((s.setCall n call).calls m).approvalId = some approvalId →
      (s.calls m).approvalId = some approvalId := by
    intro m approvalId hm
    rcases eq_or_ne m n with rfl | hne
    · rw [TurnState.setCall_calls_self] at hm
      exact hid approvalId hm
    · rwa [TurnState.setCall_calls_of_ne s n call hne] at hm
  refine ⟨h.once, ?_, ?_, ?_⟩
  · intro m m' approvalId hm hm'
    exact h.alone m m' approvalId (hold m approvalId hm) (hold m' approvalId hm')
  · intro m request approvalId hm
    rcases eq_or_ne m n with rfl | hne
    · rw [TurnState.setCall_calls_self] at hm
      exact absurd hm (hauthorised request approvalId)
    · rw [TurnState.setCall_calls_of_ne s n call hne] at hm
      exact h.unspent m request approvalId hm
  · intro approvalId hmem husable
    obtain ⟨m, hm⟩ := h.settles approvalId hmem husable
    refine ⟨m, ?_⟩
    rcases eq_or_ne m n with rfl | hne
    · rw [TurnState.setCall_calls_self]
      exact hsettles approvalId hmem husable hm
    · rwa [TurnState.setCall_calls_of_ne s n call hne]

theorem guarded_setCall_of_not_settling (h : s.Guarded) {call : TurnCall}
    (hid : call.approvalId = none)
    (hnever : ∀ approvalId ∈ s.spent, Usable s.runs s.approvals.val approvalId →
      ¬ (s.calls n).WillSettle runOf approvalId) :
    (s.setCall n call).Guarded := by
  refine guarded_setCall h (fun approvalId hcall => ?_) (fun request approvalId hcall => ?_)
    fun approvalId hmem husable hwill => absurd hwill (hnever approvalId hmem husable)
  · rw [hid] at hcall
    cases hcall
  · rw [hcall] at hid
    cases hid

theorem guarded_left (h : s.Guarded) {before call : TurnCall} (hcall : s.calls n = before)
    (hid : call.approvalId = none) (hnever : ∀ id, ¬ before.WillSettle runOf id) :
    (s.setCall n call).Guarded :=
  guarded_setCall_of_not_settling h hid fun id _ _ => hcall ▸ hnever id

theorem guarded_authorised (h : s.Guarded) {request : TurnRequest} {approvalId : String}
    (hlooking : (s.calls n).approvalId = none)
    (husable : Usable s.runs s.approvals.val approvalId) (hfree : s.Free approvalId) :
    (s.setCall n (.authorised request approvalId)).Guarded := by
  have hunspent : approvalId ∉ s.spent := by
    intro hmem
    obtain ⟨m, hm⟩ := h.settles approvalId hmem husable
    exact hfree m hm.approvalId_eq
  have hother : ∀ m, m ≠ n → ∀ id, (s.calls m).approvalId = some id → id ≠ approvalId := by
    rintro m - id hm rfl
    exact hfree m hm
  refine ⟨h.once, ?_, ?_, ?_⟩
  · intro m m' id hm hm'
    rcases eq_or_ne m n with rfl | hne <;> rcases eq_or_ne m' m with rfl | hne'
    · rfl
    · rw [TurnState.setCall_calls_self] at hm
      rw [TurnState.setCall_calls_of_ne s m _ hne'] at hm'
      obtain rfl : approvalId = id := Option.some.inj hm
      exact absurd rfl (hother m' hne' _ hm')
    · rfl
    · rw [TurnState.setCall_calls_of_ne s n _ hne] at hm
      rcases eq_or_ne m' n with rfl | hne''
      · rw [TurnState.setCall_calls_self] at hm'
        obtain rfl : approvalId = id := Option.some.inj hm'
        exact absurd rfl (hother m hne _ hm)
      · rw [TurnState.setCall_calls_of_ne s n _ hne''] at hm'
        exact h.alone m m' id hm hm'
  · intro m request' id hm
    rcases eq_or_ne m n with rfl | hne
    · rw [TurnState.setCall_calls_self] at hm
      obtain ⟨-, rfl⟩ := TurnCall.authorised.inj hm
      exact hunspent
    · rw [TurnState.setCall_calls_of_ne s n _ hne] at hm
      exact h.unspent m request' id hm
  · intro id hmem hid
    obtain ⟨m, hm⟩ := h.settles id hmem hid
    have hne : m ≠ n := by
      rintro rfl
      rw [hm.approvalId_eq] at hlooking
      cases hlooking
    exact ⟨m, by rwa [TurnState.setCall_calls_of_ne s n _ hne]⟩

theorem guarded_running (h : s.Guarded) {request : TurnRequest} {approvalId : String}
    (hcall : s.calls n = .authorised request approvalId) {settled : Option CapabilityResult}
    {reached : Prop} [Decidable reached] (hsettled : reached → settled.isSome = true) :
    TurnState.Guarded { s.setCall n (.running approvalId settled) with
      spent := if reached then approvalId :: s.spent else s.spent } := by
  have hunspent := h.unspent n request approvalId hcall
  have hmoved : ((s.setCall n (.running approvalId settled))).Guarded :=
    guarded_setCall h (fun id hid => by rw [hcall]; exact hid) (fun _ _ => TurnCall.noConfusion)
      fun id _ _ hwill => by rw [hcall] at hwill; exact hwill.elim
  split
  next hyes =>
    refine ⟨List.nodup_cons.mpr ⟨hunspent, h.once⟩, hmoved.alone, ?_, ?_⟩
    · intro m request' id hm hmem
      have hne : m ≠ n := by
        rintro rfl
        rw [TurnState.setCall_calls_self] at hm
        cases hm
      have hunmoved : s.calls m = .authorised request' id := by
        rwa [TurnState.setCall_calls_of_ne s n _ hne] at hm
      rcases List.mem_cons.mp hmem with rfl | hmem
      · exact hne (h.alone m n id (by rw [hunmoved]; rfl) (by rw [hcall]; rfl))
      · exact h.unspent m request' id hunmoved hmem
    · intro id hmem hid
      rcases List.mem_cons.mp hmem with rfl | hmem
      · refine ⟨n, ?_⟩
        rw [TurnState.setCall_calls_self]
        exact ⟨rfl, hsettled hyes⟩
      · exact hmoved.settles id hmem hid
  next => exact hmoved

/-! ## The settlement -/

theorem Usable.rows {runs : RunTable} {approvals : ApprovalsOf runOf} {approvalId : String}
    (h : Usable runs approvals.val approvalId) :
    ∃ approval, approvals.val.get? approvalId = some approval ∧ approval.runId = runOf approvalId
      ∧ ∃ run, runs.get? (runOf approvalId) = some run ∧ run.kind = "capability_approval"
        ∧ openPhase run.phase = true := by
  obtain ⟨approval, hmem, rfl, -, run, hrun, hid, hopen⟩ := h
  have hplaced : approval.runId = runOf approval.id := approvals.property approval hmem
  refine ⟨approval, Table.get?_of_mem hmem, hplaced, run, ?_, hopen⟩
  rw [← hplaced, ← hid]
  exact Table.get?_of_mem hrun

theorem not_usable_of_settledRun {runs : RunTable} {approvals : ApprovalsOf runOf}
    {approvalId : String} (h : settledRun runs approvals.val approvalId = none) :
    ¬ Usable runs approvals.val approvalId := by
  intro husable
  obtain ⟨approval, happroval, hplaced, run, hrun, hopen⟩ := husable.rows
  simp only [settledRun, happroval, hplaced, hrun, hopen, and_self, if_true] at h
  cases h

theorem id_of_settledRun {runs : RunTable} {approvals : ApprovalsOf runOf}
    {approvalId : String} {run : ApprovalRun}
    (h : settledRun runs approvals.val approvalId = some run) : run.id = runOf approvalId := by
  unfold settledRun at h
  split at h
  next => cases h
  next approval happroval =>
    obtain ⟨hmem, rfl⟩ := Table.get?_eq_some_iff.mp happroval
    split at h
    next => cases h
    next found hfound =>
      split at h
      next =>
        obtain rfl := Option.some.inj h
        rw [(Table.get?_eq_some_iff.mp hfound).2]
        exact approvals.property approval hmem
      next => cases h

theorem get?_writeRun (runs : RunTable) (read : ApprovalRun) (updates : RunUpdates) (now : Time)
    (id : String) :
    (writeRun runs read updates now).get? id = (runs.get? id).map fun row =>
      if row.id = read.id then row.written (mergeRunUpdates read.toRun updates now) else row := by
  have hupdate := Table.get?_update runs (fun row => row.id = read.id)
    (·.written (mergeRunUpdates read.toRun updates now)) (ApprovalRun.written_id _) id
  simp only [decide_eq_true_eq] at hupdate
  exact hupdate

theorem usable_of_writeRun {runs : RunTable} {approvals : ApprovalsOf runOf}
    {read : ApprovalRun} {result : CapabilityResult} {now : Time} {approvalId : String}
    (h : Usable (writeRun runs read (settlementUpdates result) now) approvals.val approvalId) :
    Usable runs approvals.val approvalId ∧ read.id ≠ runOf approvalId := by
  obtain ⟨approval, happroval, hplaced, run, hrun, hkind, hopen⟩ := h.rows
  rw [get?_writeRun] at hrun
  obtain ⟨row, hrow, rfl⟩ := Option.map_eq_some_iff.mp hrun
  obtain ⟨hmem, hid⟩ := Table.get?_eq_some_iff.mp hrow
  by_cases hread : row.id = read.id
  · -- the row it writes is ended
    rw [if_pos hread] at hopen
    exact absurd hopen Bool.false_ne_true
  · rw [if_neg hread] at hkind hopen
    obtain ⟨found, hfound, hfoundId, happroved, -⟩ := h
    have hsame : found = approval := by
      have hget := Table.get?_of_mem hfound
      rw [hfoundId, happroval] at hget
      exact (Option.some.inj hget).symm
    subst hsame
    have hrunId : row.id = found.runId := hid.trans hplaced.symm
    exact ⟨⟨found, hfound, hfoundId, happroved, row, hmem, hrunId, hkind, hopen⟩,
      fun hsameRun => hread (hid.trans hsameRun.symm)⟩

theorem guarded_written (h : s.Guarded) {approvalId : String} {read : ApprovalRun}
    {result : CapabilityResult} (hcall : s.calls n = .writing approvalId read result) (now : Time) :
    TurnState.Guarded { s.setCall n .ended with
      runs := writeRun s.runs read (settlementUpdates result) now } := by
  refine ⟨h.once, fun m m' id hm hm' => ?_, fun m request id hm => ?_, fun id hmem husable => ?_⟩
  · have hold : ∀ k, ((s.setCall n .ended).calls k).approvalId = some id →
        (s.calls k).approvalId = some id := by
      intro k hk
      rcases eq_or_ne k n with rfl | hne
      · rw [TurnState.setCall_calls_self] at hk
        cases hk
      · rwa [TurnState.setCall_calls_of_ne s n _ hne] at hk
    exact h.alone m m' id (hold m hm) (hold m' hm')
  · rcases eq_or_ne m n with rfl | hne
    · have hended := TurnState.setCall_calls_self s m .ended
      rw [hended] at hm
      cases hm
    · exact h.unspent m request id ((TurnState.setCall_calls_of_ne s n _ hne).symm.trans hm)
  · obtain ⟨hbefore, hother⟩ := usable_of_writeRun husable
    obtain ⟨m, hm⟩ := h.settles id hmem hbefore
    have hne : m ≠ n := by
      rintro rfl
      rw [hcall] at hm
      obtain ⟨rfl, hread⟩ := hm
      exact hother hread
    exact ⟨m, (TurnState.setCall_calls_of_ne s n TurnCall.ended hne).symm ▸ hm⟩

end

/-! ## Every step, every run -/

theorem guarded_step {s s' : TurnState runOf} {label : TurnLabel runOf} (h : s.Guarded)
    (hkeeps : KeepsSingleUse s label) (hstep : (turnSystem runOf).step s label = some s') :
    s'.Guarded := by
  cases label with
  | look n request =>
      simp only [turnSystem] at hstep
      split at hstep
      next hcall =>
        obtain rfl := Option.some.inj hstep
        exact guarded_left h hcall rfl fun _ hwill => hwill
      next => cases hstep
  | query n =>
      simp only [turnSystem] at hstep
      split at hstep
      next request runId rest hcall =>
        split at hstep
        next approval hfound =>
          obtain rfl := Option.some.inj hstep
          obtain ⟨husable, hfree⟩ := hkeeps request runId rest hcall approval hfound
          exact guarded_authorised h (by rw [hcall]; rfl) husable hfree
        next =>
          obtain rfl := Option.some.inj hstep
          exact guarded_left h hcall rfl fun _ hwill => hwill
      next request hcall =>
        obtain rfl := Option.some.inj hstep
        exact guarded_left h hcall rfl fun _ hwill => hwill
      next => cases hstep
  | refuse n =>
      simp only [turnSystem] at hstep
      split at hstep
      next request approvalId hcall =>
        obtain rfl := Option.some.inj hstep
        exact guarded_left h hcall rfl fun _ hwill => hwill
      next => cases hstep
  | start n call world journalled =>
      simp only [turnSystem] at hstep
      split at hstep
      next request approvalId hcall =>
        split at hstep
        next =>
          obtain rfl := Option.some.inj hstep
          exact guarded_running h hcall fun hreached =>
            (settles_iff (run_known known_empty journalled) hreached).mpr (hkeeps hreached)
        next => cases hstep
      next => cases hstep
  | finish n =>
      simp only [turnSystem] at hstep
      split at hstep
      next approvalId result hcall =>
        obtain rfl := Option.some.inj hstep
        refine guarded_setCall h (fun id hid => by rw [hcall]; exact hid)
          (fun _ _ => TurnCall.noConfusion) fun id _ _ hwill => ?_
        rw [hcall] at hwill
        exact hwill.1
      next approvalId hcall =>
        obtain rfl := Option.some.inj hstep
        exact guarded_left h hcall rfl fun _ hwill => Bool.false_ne_true hwill.2
      next => cases hstep
  | settle n =>
      simp only [turnSystem] at hstep
      split at hstep
      next approvalId result hcall =>
        split at hstep
        next run hrun =>
          obtain rfl := Option.some.inj hstep
          refine guarded_setCall h (fun id hid => by rw [hcall]; exact hid)
            (fun _ _ => TurnCall.noConfusion) fun id _ _ hwill => ?_
          rw [hcall] at hwill
          exact ⟨hwill, id_of_settledRun hrun⟩
        next hnone =>
          obtain rfl := Option.some.inj hstep
          refine guarded_setCall_of_not_settling h rfl fun id _ husable hwill => ?_
          rw [hcall] at hwill
          obtain rfl : approvalId = id := hwill
          exact not_usable_of_settledRun hnone husable
      next => cases hstep
  | reread n =>
      simp only [turnSystem] at hstep
      split at hstep
      next approvalId runId result hcall =>
        split at hstep
        next run hrun =>
          obtain rfl := Option.some.inj hstep
          refine guarded_setCall h (fun id hid => by rw [hcall]; exact hid)
            (fun _ _ => TurnCall.noConfusion) fun id _ _ hwill => ?_
          rw [hcall] at hwill
          exact ⟨hwill.1, (Table.get?_eq_some_iff.mp hrun).2.trans hwill.2⟩
        next hnone =>
          obtain rfl := Option.some.inj hstep
          refine guarded_setCall_of_not_settling h rfl fun id _ husable hwill => ?_
          rw [hcall] at hwill
          obtain ⟨rfl, rfl⟩ := hwill
          obtain ⟨-, -, -, run, hrun, -⟩ := husable.rows
          rw [hnone] at hrun
          cases hrun
      next => cases hstep
  | write n now =>
      simp only [turnSystem] at hstep
      split at hstep
      next approvalId run result hcall =>
        obtain rfl := Option.some.inj hstep
        exact guarded_written h hcall now
      next => cases hstep
  | crash n =>
      obtain rfl := Option.some.inj hstep
      exact guarded_setCall_of_not_settling h rfl fun id hmem _ hwill =>
        hkeeps id hwill.approvalId_eq hmem
  | others runs approvals =>
      obtain rfl := Option.some.inj hstep
      exact ⟨h.once, h.alone, h.unspent, fun id hmem husable =>
        h.settles id hmem (hkeeps id hmem husable)⟩

theorem run_queries (s : TurnState runOf) (n : Nat) {request : TurnRequest} {runIds : List String}
    (hnone : ∀ runId ∈ runIds, approvedForTurn s.approvals.val.rows request runId = none) :
    (turnSystem runOf).run (s.setCall n (.looking request runIds))
      (List.replicate (runIds.length + 1) (.query n)) = some (s.setCall n .suspended) := by
  induction runIds with
  | nil => simp [turnSystem]
  | cons runId rest ih =>
      have hstep : (turnSystem runOf).step (s.setCall n (.looking request (runId :: rest)))
          (.query n) = some (s.setCall n (.looking request rest)) := by
        simp [turnSystem, hnone runId List.mem_cons_self]
      rw [List.length_cons, List.replicate_succ, System.run_cons, hstep]
      exact ih fun id hid => hnone id (List.mem_cons_of_mem _ hid)

theorem mem_openRuns {runs : List ApprovalRun} {request : TurnRequest} {run : ApprovalRun}
    (h : run ∈ openRuns runs request) :
    run ∈ runs ∧ run.kind = "capability_approval" ∧ openPhase run.phase = true := by
  have hmem := (List.mem_insertionSort _).mp (List.mem_of_mem_take h)
  obtain ⟨hrun, hclauses⟩ := List.mem_filter.mp hmem
  obtain ⟨hopen, -, hkind, -⟩ := of_decide_eq_true hclauses
  exact ⟨hrun, hkind, hopen⟩

theorem suspends_of_guarded {s : TurnState runOf} (h : s.Guarded) {n : Nat} {request : TurnRequest}
    (hidle : s.calls n = .idle) (hspent : s.AllSpent request) :
    ∃ s', (turnSystem runOf).run s (turnLookUp s n request) = some s'
      ∧ s'.calls n = .suspended := by
  let runIds := (openRuns s.runs.rows request).map (·.id)
  have hnone : ∀ runId ∈ runIds,
      approvedForTurn s.approvals.val.rows request runId = none := by
    intro runId hid
    obtain ⟨run, hrun, rfl⟩ := List.mem_map.mp hid
    cases hfound : approvedForTurn s.approvals.val.rows request run.id with
    | none => rfl
    | some approval =>
        obtain ⟨hmem, hfree⟩ := hspent run hrun approval hfound
        obtain ⟨happroval, hrunId, hstatus, -⟩ := approvedForTurn_spec hfound
        obtain ⟨hrow, hkind, hopen⟩ := mem_openRuns hrun
        have husable : Usable s.runs s.approvals.val approval.id :=
          ⟨approval, happroval, rfl, hstatus, run, hrow, hrunId.symm, hkind, hopen⟩
        obtain ⟨m, hm⟩ := h.settles approval.id hmem husable
        exact absurd hm.approvalId_eq (hfree m)
  refine ⟨s.setCall n .suspended, ?_, TurnState.setCall_calls_self ..⟩
  have hlook : (turnSystem runOf).step s (.look n request)
      = some (s.setCall n (.looking request runIds)) := by
    simp [turnSystem, hidle, runIds]
  have hlength : (openRuns s.runs.rows request).length = runIds.length := by
    rw [List.length_map]
  rw [turnLookUp, System.run_cons, hlook, hlength]
  exact run_queries s n hnone

theorem spentOnce_of_guarded {s : TurnState runOf} (h : s.Guarded) : s.SpentOnce :=
  ⟨h.once, fun _ _ hidle hspent => suspends_of_guarded h hidle hspent⟩

/-- In every run whose look-ups, executions and other writers keep to it, an approval is
spent once in every state that is reached. -/
theorem turn_approval_spent_once {runs : RunTable} {approvals : ApprovalsOf runOf}
    {labels : List (TurnLabel runOf)}
    (hkeeps : (turnSystem runOf).Along KeepsSingleUse (openState runs approvals) labels) :
    ∀ k s, (turnSystem runOf).run (openState runs approvals) (labels.take k) = some s →
      s.SpentOnce := by
  intro k s hrun
  rw [← List.take_append_drop k labels, System.along_append] at hkeeps
  exact spentOnce_of_guarded ((turnSystem runOf).run_preserves_along
    (fun _ _ _ => guarded_step) (guarded_openState runs approvals) hkeeps.1 hrun)

/-! ## Executions under one approval -/

def sensitiveRequest : TurnRequest where
  name := "send_message"
  permission := "network"
  argsJson := "\x7b\x7d"
  source := "cli"
  peerId := "peer"
  senderId := "sender"
  workspace := "/work"

/-- The Run of its approval, which was approved. -/
def sensitiveRun : ApprovalRun where
  toRun := { runningRun "run" with
    phase := .pending
    planSummary := sensitiveRequest.marker }
  kind := "capability_approval"
  source := "cli"
  peerId := "peer"
  senderId := "sender"
  workspace := "/work"

def sensitiveApproval : CapabilityApproval where
  id := "approval"
  runId := "run"
  action := approvalActionCapability
  requestedTool := "send_message"
  requestedPermission := "network"
  argsJson := "\x7b\x7d"
  status := .approved
  createdAt := 0

def approvedState : TurnState fun _ => "run" :=
  openState ⟨[sensitiveRun], List.nodup_singleton _⟩
    ⟨⟨[sensitiveApproval], List.nodup_singleton _⟩, fun approval hmem => by
      rw [List.mem_singleton.mp hmem]
      rfl⟩

def sensitiveCall : Invocation where
  name := "send_message"
  toolCapability := false
  callHasEffect := true
  loopRunId := ""
  effectKey := ""
  effectOwner := "capability:0"
  outputSchemaErrors _ := []
  approvedApprovalId := "approval"
  governedRunId := ""

def sentResult (yieldsControl : Bool) : CapabilityResult where
  ok := true
  action := "send_message"
  message := "sent"
  runId := ""
  terminal := false
  facts := some []
  provenance := ""
  errorReason := ""
  yieldsControl := yieldsControl

/-- A world in which nothing goes wrong. -/
def sendingWorld (yieldsControl : Bool) : World sensitiveCall where
  reservedAt := 0
  decision := "allow"
  reason := "ok"
  grantFacts := []
  auditReservation := .ok "log"
  handler := .returned (sentResult yieldsControl)
  during := []
  failure := none
  failedAt := 1
  release := none
  auditCompletion := none
  auditFailure := none
  auditFailedAt := 1
  completing := []
  completion := none
  completedAt := 1
  settlement := none
  afterwards := []
  strangers _ hother := absurd hother List.not_mem_nil

/-- A turn's call, from its look-up to the end of its execution. -/
def executes (n : Nat) (yieldsControl : Bool) : List (TurnLabel fun _ => "run") :=
  [.look n sensitiveRequest, .query n, .start n sensitiveCall (sendingWorld yieldsControl) [],
    .finish n]

/-- The handler of a turn is cut short, and the turn is tried again. -/
def retriedAfterCrash : List (TurnLabel fun _ => "run") :=
  [.look 0 sensitiveRequest, .query 0, .start 0 sensitiveCall (sendingWorld false) [], .crash 0]
    ++ executes 1 false

/-- Two turns that find the approval before either has started its handler. -/
def concurrentTurns : List (TurnLabel fun _ => "run") :=
  [.look 0 sensitiveRequest, .query 0, .look 1 sensitiveRequest, .query 1,
    .start 0 sensitiveCall (sendingWorld false) [], .start 1 sensitiveCall (sendingWorld false) []]

theorem not_spentOnce_of_twice {s : TurnState runOf} {approvalId : String}
    (h : s.spent = [approvalId, approvalId]) : ¬ s.SpentOnce := by
  intro hspentOnce
  have honce := hspentOnce.once
  rw [h] at honce
  exact (List.nodup_cons.mp honce).1 List.mem_cons_self

/-- A result that yields control, a crash of the handler and a concurrent turn each let
one approval through to a second execution. -/
theorem turn_approval_spent_twice :
    (∃ s, (turnSystem _).run approvedState (executes 0 true ++ executes 1 false) = some s
        ∧ ¬ s.SpentOnce)
      ∧ (∃ s, (turnSystem _).run approvedState retriedAfterCrash = some s ∧ ¬ s.SpentOnce)
      ∧ ∃ s, (turnSystem _).run approvedState concurrentTurns = some s ∧ ¬ s.SpentOnce :=
  ⟨⟨_, rfl, not_spentOnce_of_twice rfl⟩, ⟨_, rfl, not_spentOnce_of_twice rfl⟩,
    ⟨_, rfl, not_spentOnce_of_twice rfl⟩⟩

/-- A call that settles its execution, and the same call again. -/
def settlesOnce : List (TurnLabel fun _ => "run") :=
  executes 0 false ++ [.settle 0, .reread 0, .write 0 2, .look 1 sensitiveRequest, .query 1]

theorem settlesOnce_keeps : (turnSystem _).Along KeepsSingleUse approvedState settlesOnce := by
  have hfree : (approvedState.setCall 0 (.looking sensitiveRequest ["run"])).Free "approval" := by
    intro m hm
    rcases eq_or_ne m 0 with rfl | hne
    · rw [TurnState.setCall_calls_self] at hm
      cases hm
    · rw [TurnState.setCall_calls_of_ne _ _ _ hne] at hm
      cases hm
  refine System.along_cons_of_some _ trivial rfl ?_
  refine System.along_cons_of_some _ (fun request runId rest hlooking approval hfound => ?_) rfl ?_
  · obtain ⟨rfl, hids⟩ := TurnCall.looking.inj hlooking
    obtain ⟨rfl, rfl⟩ := List.cons.inj hids
    obtain rfl := Option.some.inj hfound
    exact ⟨⟨sensitiveApproval, List.mem_cons_self, rfl, rfl, sensitiveRun, List.mem_cons_self, rfl,
      rfl, rfl⟩, hfree⟩
  refine System.along_cons_of_some _ (fun _ => ?_) rfl ?_
  · exact ⟨rfl, fun haudit => Bool.false_ne_true haudit.2, rfl,
      fun hjournaled => absurd hjournaled Bool.false_ne_true⟩
  refine System.along_cons_of_some _ trivial rfl ?_
  refine System.along_cons_of_some _ trivial rfl ?_
  refine System.along_cons_of_some _ trivial rfl ?_
  refine System.along_cons_of_some _ trivial rfl ?_
  refine System.along_cons_of_some _ trivial rfl ?_
  refine System.along_cons_of_some _ (fun request runId rest hlooking => ?_) rfl trivial
  cases (TurnCall.looking.inj hlooking).2

/-- It finds its approval spent, and suspends. -/
theorem settled_turn_spends_once :
    ∃ s, (turnSystem _).run approvedState settlesOnce = some s ∧ s.SpentOnce
      ∧ s.spent = ["approval"] ∧ s.calls 1 = .suspended :=
  ⟨_, rfl, turn_approval_spent_once settlesOnce_keeps 9 _ rfl, rfl, rfl⟩

end Navi.Capabilities
