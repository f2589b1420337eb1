import Navi.Approvals.Resolve
import Navi.Base.Index

/-!
# The code of an approval

`create_approval` draws a code, asks the store whether a pending approval has it, and
inserts. The question and the insert are two statements: `BEGIN` is implicit and
stands before the insert only, so another creator can come between. After twenty
taken draws the code is read from the clock and not asked about at all.
-/

namespace Navi.Approvals

open Navi.Base Navi.Loop Navi.Lifecycle

/-- What `create_approval` is called with, and the time it reads first. The code is
left to be generated. -/
structure Opening where
  runId : String
  action : String
  requestedTool : String
  requestedPermission : String
  source : String
  peerId : String
  senderId : String
  ttlSeconds : Int
  now : Time

/-- `f"{n:06d}"`. -/
def codeText (n : Nat) : String := String.ofList ((toString n).toList.leftpad 6 '0')

/-- Where a call of `create_approval` is. -/
inductive CreateCall where
  | idle
  | drawing (opening : Opening) (left : Nat)
  | inserting (opening : Opening) (code : String)

/-- The service and the callers of `create_approval`. -/
structure CodesState where
  service : ServiceState
  creators : Nat → CreateCall

def CodesState.start (runs : RunTable) : CodesState := ⟨.start runs, fun _ => .idle⟩

/-- `SELECT 1 FROM approvals WHERE code = ? AND status = 'pending'`. -/
def codeTaken (approvals : ApprovalTable) (code : String) : Bool :=
  approvals.rows.any fun approval => approval.code = code ∧ approval.status = .pending

/-- The row a call inserts, with the id it drew. -/
def Opening.approval (opening : Opening) (id code : String) : Approval :=
  createdApproval id opening.runId opening.action opening.requestedTool
    opening.requestedPermission opening.source opening.peerId opening.senderId code
    opening.ttlSeconds opening.now

/-- One round of the loop of `_new_approval_code`. -/
def drawn (approvals : ApprovalTable) (opening : Opening) (left : Nat) (code : String) :
    CreateCall :=
  if codeTaken approvals code then .drawing opening left else .inserting opening code

/-- A step of the service other than a new approval; or a step of a creator: its call,
a drawn code and the question whether it is taken, the clock read once the draws are
used up, and the insert. -/
inductive CodesLabel where
  | service (label : Label)
  | call (creator : Nat) (opening : Opening)
  | draw (creator : Nat) (n : Nat)
  | clock (creator : Nat) (millis : Nat)
  | insert (creator : Nat) (id : String)

def CodesState.setCreator (s : CodesState) (creator : Nat) (call : CreateCall) : CodesState :=
  { s with creators := Function.update s.creators creator call }

@[simp] theorem CodesState.setCreator_self (s : CodesState) (creator : Nat) (call : CreateCall) :
    (s.setCreator creator call).creators creator = call := Function.update_self ..

@[simp] theorem CodesState.setCreator_of_ne (s : CodesState) {creator other : Nat}
    (call : CreateCall) (h : other ≠ creator) :
    (s.setCreator creator call).creators other = s.creators other := Function.update_of_ne h ..

def CodesState.inserted (s : CodesState) (approval : Approval) : CodesState :=
  { s with service := { s.service with
      approvals := s.service.approvals.insertOrIgnore approval } }

/-- Creators, resolvers and sweeps, statement by statement. -/
def codesSystem : System CodesState CodesLabel where
  step s
    | .service (.create ..) => none
    | .service label => (resolveSystem.step s.service label).map fun service =>
        { s with service := service }
    | .call creator opening =>
        match s.creators creator with
        | .idle => some (s.setCreator creator (.drawing opening 20))
        | _ => none
    | .draw creator n =>
        match s.creators creator with
        | .drawing opening (left + 1) => some (s.setCreator creator
            (drawn s.service.approvals opening left (codeText (n % 1000000))))
        | _ => none
    | .clock creator millis =>
        match s.creators creator with
        | .drawing opening 0 => some (s.setCreator creator
            (.inserting opening (codeText (millis % 1000000))))
        | _ => none
    | .insert creator id =>
        match s.creators creator with
        | .inserting opening code =>
            some ((s.inserted (opening.approval id code)).setCreator creator .idle)
        | _ => none

/-! ## What a run is to keep -/

/-- The request to decide an approval by its code, from where it was made. -/
def Approval.request (approval : Approval) (decision : String) : Request where
  decision := decision
  code := approval.code
  runId := ""
  source := approval.source
  peerId := approval.peerId
  senderId := approval.senderId

/-- What an approval is after its own resolution, begun at `swept` and decided at
`now`: itself decided, every other one as the sweep leaves it. -/
def resolvedRow (approval : Approval) (status : ApprovalStatus) (decision : String)
    (swept now : Time) (row : Approval) : Approval :=
  if row.id = approval.id then row.decided status decision approval.senderId now
  else if row.lapsed swept then row.expired swept else row

/-- A call of `resolve` with the code of this approval, from where it was made and not
interrupted, decides this approval and no other. -/
def ServiceState.ResolvesOnly (s : ServiceState) (approval : Approval) : Prop :=
  ∀ decision status, statusForDecision decision = some status →
  ∀ call, (s.calls call = .idle ∨ ∃ answer, s.calls call = .returned answer) →
  ∀ swept looked now sweptRun lookedRun nowRun, ¬ approval.expiresAt < swept →
    ∃ s', resolveSystem.run s [.resolve call (approval.request decision),
        .advance call swept sweptRun, .advance call looked lookedRun,
        .advance call now nowRun] = some s'
      ∧ (∃ outcome, finalOutcome (approval.decided status decision approval.senderId now)
          = some outcome ∧ s'.calls call = .returned (resolvedFacts approval outcome))
      ∧ ∀ id, s'.approvals.get? id
          = (s.approvals.get? id).map (resolvedRow approval status decision swept now)

/-- Codes identify pending approvals. -/
structure ServiceState.CodesIdentify (s : ServiceState) : Prop where
  distinct : ∀ a ∈ s.approvals.rows, ∀ b ∈ s.approvals.rows,
    a.status = .pending → b.status = .pending → a.code = b.code → a = b
  resolves : ∀ a ∈ s.approvals.rows, a.status = .pending → s.ResolvesOnly a

/-- An approval is inserted only with a code that no pending approval has by then. -/
def InsertsFreeCode (s : CodesState) : CodesLabel → Prop
  | .insert creator id =>
      match s.creators creator with
      | .inserting _ code =>
          s.service.approvals.get? id = none → codeTaken s.service.approvals code = false
      | _ => True
  | _ => True

/-! ## Pending approvals under updates -/

theorem leave_pending {s : ServiceState} {guard : Approval → Bool} {set : Approval → Approval}
    {hset : ∀ approval, (set approval).id = approval.id} {status : ApprovalStatus} {now : Time}
    (hsettles : Settles guard set status) {row : Approval}
    (hrow : row ∈ (s.leave guard set hset status now).approvals.rows)
    (hpending : row.status = .pending) : row ∈ s.approvals.rows := by
  have hfound := Table.get?_of_mem hrow
  rw [get?_leave] at hfound
  obtain ⟨before, hbefore, hrowEq⟩ := Option.map_eq_some_iff.mp hfound
  cases hguard : guard before with
  | true =>
      -- the row was set, to a status that is not `pending`
      rw [hguard, if_pos rfl] at hrowEq
      rw [← hrowEq, hsettles.sets] at hpending
      exact absurd hpending hsettles.decided
  | false =>
      rw [hguard, if_neg Bool.false_ne_true] at hrowEq
      exact hrowEq ▸ (Table.get?_eq_some_iff.mp hbefore).1

theorem expirePending_pending {s : ServiceState} {now : Time} {row : Approval}
    (hrow : row ∈ (expirePending s now).approvals.rows) (hpending : row.status = .pending) :
    row ∈ s.approvals.rows :=
  leave_pending (expired_settles now) hrow hpending

theorem resolveInTransaction_pending {s : ServiceState} {request : Request}
    {approval row : Approval} {now runNow : Time}
    (hrow : row ∈ (resolveInTransaction s request approval now runNow).2.approvals.rows)
    (hpending : row.status = .pending) : row ∈ s.approvals.rows := by
  cases hstatus : statusForDecision request.decision with
  | none =>
      rw [resolveInTransaction, hstatus] at hrow
      exact hrow
  | some status =>
      have hafter : row ∈ (afterUpdate s request approval status now).approvals.rows := by
        rw [resolveInTransaction_eq hstatus] at hrow
        split at hrow
        · exact hrow
        · rwa [writeRun_approvals] at hrow
      exact leave_pending (decided_settles hstatus) hafter hpending

theorem service_pending {s s' : ServiceState} {label : Label}
    (h : resolveSystem.step s label = some s')
    (hcreate : ∀ id runId action tool permission source peerId senderId code ttl now,
      label ≠ .create id runId action tool permission source peerId senderId code ttl now)
    {row : Approval} (hrow : row ∈ s'.approvals.rows) (hpending : row.status = .pending) :
    row ∈ s.approvals.rows := by
  cases label with
  | create id runId action tool permission source peerId senderId code ttl now =>
      exact absurd rfl (hcreate _ _ _ _ _ _ _ _ _ _ _)
  | expire now =>
      obtain rfl := Option.some.inj h
      exact expirePending_pending hrow hpending
  | resolve call request =>
      simp only [resolveSystem] at h
      split at h
      · obtain rfl := Option.some.inj h
        exact hrow
      · obtain rfl := Option.some.inj h
        exact hrow
      · cases h
  | advance call now runNow =>
      simp only [resolveSystem] at h
      split at h
      · cases h
      · cases h
      · obtain rfl := Option.some.inj h
        exact expirePending_pending hrow hpending
      · obtain rfl := Option.some.inj h
        exact hrow
      · obtain rfl := Option.some.inj h
        exact hrow
      · obtain rfl := Option.some.inj h
        exact resolveInTransaction_pending hrow hpending

/-! ## Resolving by code -/

theorem newest_of_forall_eq {approvals : List Approval} {a : Approval} (ha : a ∈ approvals)
    (hall : ∀ b ∈ approvals, b = a) : newest approvals = some a := by
  unfold newest
  cases hsorted : approvals.insertionSort fun a b => b.createdAt ≤ a.createdAt with
  | nil =>
      have hmem : a ∈ approvals.insertionSort fun a b => b.createdAt ≤ a.createdAt :=
        (List.mem_insertionSort _).mpr ha
      rw [hsorted] at hmem
      cases hmem
  | cons b rest =>
      have hb : b ∈ approvals :=
        (List.mem_insertionSort _).mp (hsorted ▸ List.mem_cons_self)
      rw [List.head?_cons, hall b hb]

/-- A lookup by the code of a pending approval, from where it was made, finds it,
where no other pending approval has its code. -/
theorem lookUp_request {approvals : ApprovalTable} {a : Approval} (decision : String)
    (ha : a ∈ approvals.rows) (hpending : a.status = .pending) (hcode : a.code ≠ "")
    (hown : ∀ b ∈ approvals.rows, b.status = .pending → b.code = a.code → b = a) :
    lookUp approvals (a.request decision) true = some a := by
  refine newest_of_forall_eq ?_ ?_
  · refine List.mem_filter.mpr ⟨ha, decide_eq_true ?_⟩
    rw [if_pos (show (a.request decision).code ≠ "" from hcode)]
    exact ⟨rfl, fun _ => hpending, by simp [Request.sees, Approval.request]⟩
  · intro b hb
    obtain ⟨hbmem, hmatch⟩ := List.mem_filter.mp hb
    obtain ⟨hbcode, hbpending, -⟩ := of_decide_eq_true hmatch
    rw [if_pos (show (a.request decision).code ≠ "" from hcode)] at hbcode
    exact hown b hbmem (hbpending rfl) hbcode

theorem finalOutcome_decided {decision : String} {status : ApprovalStatus}
    (hstatus : statusForDecision decision = some status) (approval : Approval)
    (resolvedBy : String) (now : Time) :
    finalOutcome (approval.decided status decision resolvedBy now)
      = some (stateMatrix (decision = "approve") (approval.action = sessionElevation)
          approval.id) := by
  unfold statusForDecision at hstatus
  split_ifs at hstatus with happrove hreject
  · obtain rfl := Option.some.inj hstatus
    simp only [finalOutcome, Approval.decided, happrove, decide_true]
  · obtain rfl := Option.some.inj hstatus
    simp only [finalOutcome, Approval.decided, happrove, decide_false]
    rfl

section

variable {s : ServiceState} {call : Nat} {now runNow : Time}

theorem step_resolve_of_free {request : Request}
    (hfree : s.calls call = .idle ∨ ∃ answer, s.calls call = .returned answer) :
    resolveSystem.step s (.resolve call request)
      = some { s with calls := Function.update s.calls call (openCall request) } := by
  rcases hfree with hidle | ⟨answer, hreturned⟩
  · simp only [resolveSystem, hidle]
  · simp only [resolveSystem, hreturned]

theorem step_expiring {request : Request} {pendingOnly : Bool}
    (h : s.calls call = .expiring request pendingOnly) :
    resolveSystem.step s (.advance call now runNow)
      = some { expirePending s now with
          calls := Function.update s.calls call (.selecting request pendingOnly) } := by
  simp only [resolveSystem, h]
  rfl

theorem step_selecting {request : Request} {pendingOnly : Bool}
    (h : s.calls call = .selecting request pendingOnly) :
    resolveSystem.step s (.advance call now runNow)
      = some { s with
          calls := Function.update s.calls call
            (afterLookUp request pendingOnly (lookUp s.approvals request pendingOnly)) } := by
  simp only [resolveSystem, h]

theorem step_resolving {request : Request} {approval : Approval}
    (h : s.calls call = .resolving request approval) :
    resolveSystem.step s (.advance call now runNow)
      = some { (resolveInTransaction s request approval now runNow).2 with
          calls := Function.update (resolveInTransaction s request approval now runNow).2.calls call
            (.returned (resolveInTransaction s request approval now runNow).1) } := by
  simp only [resolveSystem, h]

/-- The transaction of a call whose approval is pending: the approval as decided, its
row of `state_matrix`, and no other approval changed. -/
theorem resolveInTransaction_own {request : Request} {approval : Approval} {status : ApprovalStatus}
    (hrow : s.approvals.get? approval.id = some approval) (hpending : approval.status = .pending)
    (hstatus : statusForDecision request.decision = some status) :
    (∃ outcome,
        finalOutcome (approval.decided status request.decision request.senderId now) = some outcome
        ∧ (resolveInTransaction s request approval now runNow).1 = resolvedFacts approval outcome)
      ∧ ∀ id, (resolveInTransaction s request approval now runNow).2.approvals.get? id
          = (s.approvals.get? id).map fun row => if row.awaits approval.id
              then row.decided status request.decision request.senderId now else row := by
  have hafter : (afterUpdate s request approval status now).approvals.get? approval.id
      = some (approval.decided status request.decision request.senderId now) := by
    rw [afterUpdate, get?_leave, hrow, Option.map_some,
      if_pos (show approval.awaits approval.id = true from decide_eq_true ⟨rfl, hpending⟩)]
  refine ⟨⟨_, finalOutcome_decided hstatus _ _ _,
    (resolveInTransaction_answer hstatus hafter).trans rfl⟩, fun id => ?_⟩
  rw [resolveInTransaction_eq hstatus, hafter]
  show (writeRun _ _ _ _).approvals.get? id = _
  rw [writeRun_approvals, afterUpdate, get?_leave]

end

theorem swept_then_decided {a row : Approval} {status : ApprovalStatus} {swept now : Time}
    (decision : String) (hpending : a.status = .pending) (hlive : ¬ a.expiresAt < swept)
    (hsame : row.id = a.id → row = a) :
    (if (if row.lapsed swept then row.expired swept else row).awaits a.id
        then (if row.lapsed swept then row.expired swept else row).decided status decision
          a.senderId now
        else if row.lapsed swept then row.expired swept else row)
      = resolvedRow a status decision swept now row := by
  by_cases hid : row.id = a.id
  · obtain rfl := hsame hid
    have hkept : (if row.lapsed swept then row.expired swept else row) = row :=
      if_neg fun hlapsed => hlive (of_decide_eq_true hlapsed).2
    rw [hkept, resolvedRow, if_pos rfl,
      if_pos (show row.awaits row.id = true from decide_eq_true ⟨rfl, hpending⟩)]
  · rw [resolvedRow, if_neg hid, if_neg]
    intro hawaits
    have hrowId := (of_decide_eq_true hawaits).1
    split at hrowId <;> exact hid hrowId

/-- Where the codes of pending approvals are distinct, the code of each resolves it and
no other. -/
theorem resolvesOnly_of_distinct {s : ServiceState} {a : Approval} (ha : a ∈ s.approvals.rows)
    (hpending : a.status = .pending) (hcode : a.code ≠ "")
    (hown : ∀ b ∈ s.approvals.rows, b.status = .pending → b.code = a.code → b = a) :
    s.ResolvesOnly a := by
  intro decision status hstatus call hfree swept looked now sweptRun lookedRun nowRun hlive
  -- the call opens, sweeps, looks the code up and decides
  have hopen : openCall (a.request decision) = .expiring (a.request decision) true := by
    have hvalid : statusForDecision (a.request decision).decision ≠ none := by
      rw [show (a.request decision).decision = decision from rfl, hstatus]
      exact Option.some_ne_none status
    rw [openCall, if_neg hvalid, if_neg fun hmissing => hcode hmissing.1]
  have hswept : ∀ id, (expirePending s swept).approvals.get? id
      = (s.approvals.get? id).map fun row => if row.lapsed swept then row.expired swept else row :=
    fun id => get?_leave id
  have hkept : (expirePending s swept).approvals.get? a.id = some a := by
    rw [hswept, Table.get?_of_mem ha, Option.map_some,
      if_neg fun hlapsed => hlive (of_decide_eq_true hlapsed).2]
  have hfound : lookUp (expirePending s swept).approvals (a.request decision) true = some a :=
    lookUp_request decision (Table.get?_eq_some_iff.mp hkept).1 hpending hcode
      fun b hb hbpending => hown b (expirePending_pending hb hbpending) hbpending
  let opened : ServiceState :=
    { s with calls := Function.update s.calls call (.expiring (a.request decision) true) }
  let sweeping : ServiceState := { expirePending opened swept with
    calls := Function.update opened.calls call (.selecting (a.request decision) true) }
  let found : ServiceState := { sweeping with
    calls := Function.update sweeping.calls call (.resolving (a.request decision) a) }
  have hfirst : resolveSystem.step s (.resolve call (a.request decision)) = some opened := by
    rw [step_resolve_of_free hfree, hopen]
  have hsecond : resolveSystem.step opened (.advance call swept sweptRun) = some sweeping :=
    step_expiring (Function.update_self ..)
  have hthird : resolveSystem.step sweeping (.advance call looked lookedRun) = some found := by
    rw [step_selecting (Function.update_self ..)]
    show some { sweeping with calls := Function.update sweeping.calls call (afterLookUp _ true
      (lookUp (expirePending s swept).approvals (a.request decision) true)) } = _
    rw [hfound, afterLookUp, if_pos hpending]
  let decided := resolveInTransaction found (a.request decision) a now nowRun
  have hfourth : resolveSystem.step found (.advance call now nowRun) = some { decided.2 with
      calls := Function.update decided.2.calls call (.returned decided.1) } :=
    step_resolving (Function.update_self ..)
  obtain ⟨⟨outcome, houtcome, hanswer⟩, hrows⟩ :=
    @resolveInTransaction_own found now nowRun (a.request decision) a status hkept hpending hstatus
  refine ⟨{ decided.2 with calls := Function.update decided.2.calls call (.returned decided.1) },
    ?_, ⟨outcome, houtcome, ?_⟩, fun id => ?_⟩
  · rw [System.run_cons, hfirst, Option.bind_some, System.run_cons, hsecond, Option.bind_some,
      System.run_cons, hthird, Option.bind_some, System.run_cons, hfourth, Option.bind_some,
      System.run_nil]
  · show Function.update _ _ _ _ = _
    rw [Function.update_self, hanswer]
  · show decided.2.approvals.get? id = _
    rw [hrows, show found.approvals.get? id = (expirePending s swept).approvals.get? id from rfl,
      hswept, Option.map_map]
    cases hrow : s.approvals.get? id with
    | none => rfl
    | some row =>
        obtain ⟨hmem, hkey⟩ := Table.get?_eq_some_iff.mp hrow
        have hsame : row.id = a.id → row = a := fun hid => Table.eq_of_key hmem ha hid
        rw [Option.map_some, Option.map_some, Function.comp_apply]
        exact congrArg some (swept_then_decided decision hpending hlive hsame)

/-! ## The invariant -/

theorem codeText_ne_empty (n : Nat) : codeText n ≠ "" := by
  intro hempty
  have hlength : (codeText n).length = 0 := by rw [hempty]; rfl
  rw [codeText, String.length_ofList, List.length_leftpad] at hlength
  omega

/-- No pending approval and no call that is to insert has an empty code. -/
structure CodesState.Coded (s : CodesState) : Prop where
  rows : ∀ row ∈ s.service.approvals.rows, row.status = .pending → row.code ≠ ""
  held : ∀ creator opening code, s.creators creator = .inserting opening code → code ≠ ""

/-- No two pending approvals have the same code. -/
def CodesState.CodesDistinct (s : CodesState) : Prop :=
  s.service.approvals.UniqueOn (fun approval => approval.status = .pending) (·.code)

theorem codesIdentify_iff {s : CodesState} (hs : s.Coded) :
    s.service.CodesIdentify ↔ s.CodesDistinct := by
  constructor
  · intro hidentify
    exact hidentify.distinct
  · intro hdistinct
    refine ⟨hdistinct, fun a ha hpending => ?_⟩
    refine resolvesOnly_of_distinct ha hpending (hs.rows a ha hpending) ?_
    intro b hb hbpending hcode
    exact hdistinct b hb a ha hbpending hpending hcode

theorem codeTaken_eq_false_iff {approvals : ApprovalTable} {code : String} :
    codeTaken approvals code = false
      ↔ ∀ row ∈ approvals.rows, row.status = .pending → row.code ≠ code := by
  simp only [codeTaken, List.any_eq_false, decide_eq_true_eq, not_and]
  constructor
  · intro hfree row hrow hpending hcode
    exact hfree row hrow hcode hpending
  · intro hfree row hrow hcode hpending
    exact hfree row hrow hpending hcode

/-- What a step does: a step of the service that makes no approval pending, a move of
one creator, or an insert. -/
theorem codes_step_cases {s s' : CodesState} {label : CodesLabel}
    (h : codesSystem.step s label = some s') :
    (∃ service, s' = { s with service := service } ∧ InsertsFreeCode s label
        ∧ ∀ row ∈ service.approvals.rows, row.status = .pending →
            row ∈ s.service.approvals.rows)
      ∨ (∃ creator call, s' = s.setCreator creator call ∧ InsertsFreeCode s label
          ∧ ∀ opening code, call = .inserting opening code → code ≠ "")
      ∨ (∃ creator id opening code, label = .insert creator id
          ∧ s.creators creator = .inserting opening code
          ∧ s' = (s.inserted (opening.approval id code)).setCreator creator .idle) := by
  cases label with
  | service label =>
      cases label with
      | create => cases h
      | _ =>
          simp only [codesSystem] at h
          obtain ⟨service, hservice, rfl⟩ := Option.map_eq_some_iff.mp h
          refine .inl ⟨service, rfl, trivial, fun row hrow hpending => ?_⟩
          exact service_pending hservice (by intros; exact Label.noConfusion) hrow hpending
  | call creator opening =>
      simp only [codesSystem] at h
      split at h
      · obtain rfl := Option.some.inj h
        exact .inr (.inl ⟨creator, _, rfl, trivial, fun _ _ hcall => CreateCall.noConfusion hcall⟩)
      · cases h
  | draw creator n =>
      simp only [codesSystem] at h
      split at h
      · obtain rfl := Option.some.inj h
        refine .inr (.inl ⟨creator, _, rfl, trivial, fun opening code hcall => ?_⟩)
        unfold drawn at hcall
        split at hcall
        · cases hcall
        · obtain ⟨-, rfl⟩ := CreateCall.inserting.inj hcall
          exact codeText_ne_empty _
      · cases h
  | clock creator millis =>
      simp only [codesSystem] at h
      split at h
      · obtain rfl := Option.some.inj h
        refine .inr (.inl ⟨creator, _, rfl, trivial, fun opening code hcall => ?_⟩)
        obtain ⟨-, rfl⟩ := CreateCall.inserting.inj hcall
        exact codeText_ne_empty _
      · cases h
  | insert creator id =>
      simp only [codesSystem] at h
      split at h
      next opening code hcreator =>
        obtain rfl := Option.some.inj h
        exact .inr (.inr ⟨creator, id, opening, code, rfl, hcreator, rfl⟩)
      · cases h

theorem setCreator_held {s : CodesState} {creator : Nat} {call : CreateCall}
    (hheld : ∀ creator opening code, s.creators creator = .inserting opening code → code ≠ "")
    (hcall : ∀ opening code, call = .inserting opening code → code ≠ "") :
    ∀ other opening code,
      (s.setCreator creator call).creators other = .inserting opening code → code ≠ "" := by
  intro other opening code hother
  by_cases hsame : other = creator
  · subst hsame
    rw [CodesState.setCreator_self] at hother
    exact hcall opening code hother
  · rw [CodesState.setCreator_of_ne s call hsame] at hother
    exact hheld other opening code hother

theorem codes_step_coded {s s' : CodesState} {label : CodesLabel} (hs : s.Coded)
    (h : codesSystem.step s label = some s') : s'.Coded := by
  obtain ⟨service, rfl, -, hback⟩ | ⟨creator, call, rfl, -, hcall⟩
    | ⟨creator, id, opening, code, -, hcreator, rfl⟩ := codes_step_cases h
  · exact ⟨fun row hrow hpending => hs.rows row (hback row hrow hpending) hpending, hs.held⟩
  · exact ⟨hs.rows, setCreator_held hs.held hcall⟩
  · refine ⟨fun row hrow hpending => ?_,
      setCreator_held hs.held fun _ _ hidle => CreateCall.noConfusion hidle⟩
    have hfound := Table.get?_of_mem hrow
    change (s.service.approvals.insertOrIgnore _).get? row.id = some row at hfound
    rw [Table.get?_insertOrIgnore] at hfound
    cases hold : s.service.approvals.get? row.id with
    | some before =>
        rw [hold, Option.some_or] at hfound
        obtain rfl := Option.some.inj hfound
        exact hs.rows before (Table.get?_eq_some_iff.mp hold).1 hpending
    | none =>
        rw [hold, Option.none_or] at hfound
        split at hfound
        · obtain rfl := Option.some.inj hfound
          exact hs.held creator opening code hcreator
        · cases hfound

theorem codes_step_distinct_iff {s s' : CodesState} {label : CodesLabel}
    (hdistinct : s.CodesDistinct) (h : codesSystem.step s label = some s') :
    s'.CodesDistinct ↔ InsertsFreeCode s label := by
  obtain ⟨service, rfl, hfree, hback⟩ | ⟨creator, call, rfl, hfree, -⟩
    | ⟨creator, id, opening, code, rfl, hcreator, rfl⟩ := codes_step_cases h
  · refine iff_of_true ?_ hfree
    exact hdistinct.of_back fun row hrow hpending =>
      ⟨row, hback row hrow hpending, rfl, hpending, rfl⟩
  · exact iff_of_true hdistinct hfree
  · have hcond : InsertsFreeCode s (.insert creator id)
        ↔ (s.service.approvals.get? id = none →
            codeTaken s.service.approvals code = false) := by
      rw [InsertsFreeCode, hcreator]
    rw [hcond]
    show (s.service.approvals.insertOrIgnore (opening.approval id code)).UniqueOn _ _ ↔ _
    cases hold : s.service.approvals.get? id with
    | some before =>
        -- the id is taken, and nothing is inserted
        rw [Table.insertOrIgnore_of_some (show s.service.approvals.get?
          (opening.approval id code).id = some before from hold)]
        exact iff_of_true hdistinct fun habsent => absurd habsent (Option.some_ne_none before)
    | none =>
        rw [Table.uniqueOn_insertOrIgnore_iff hdistinct (show s.service.approvals.get?
          (opening.approval id code).id = none from hold), codeTaken_eq_false_iff]
        exact ⟨fun hown _ => hown rfl, fun hown _ => hown rfl⟩

theorem insert_enabled {s : CodesState} {label : CodesLabel} (h : ¬ InsertsFreeCode s label) :
    ∃ s', codesSystem.step s label = some s' := by
  cases label with
  | insert creator id =>
      cases hcreator : s.creators creator with
      | inserting opening code => exact ⟨_, by simp only [codesSystem, hcreator]; rfl⟩
      | _ => exact absurd (by simp [InsertsFreeCode, hcreator]) h
  | _ => exact absurd trivial h

/-- **A pending approval's code resolves that approval.** In every run from no
approvals, codes identify pending approvals in every state, if and only if every
insert of a new approval finds its code free. -/
theorem codes_identify_iff (runs : RunTable) (labels : List CodesLabel) :
    (∀ n s, codesSystem.run (.start runs) (labels.take n) = some s → s.service.CodesIdentify)
      ↔ codesSystem.Along InsertsFreeCode (.start runs) labels := by
  have hcoded : (CodesState.start runs).Coded :=
    ⟨fun row hrow => absurd hrow List.not_mem_nil, fun _ _ _ hcall => CreateCall.noConfusion hcall⟩
  refine codesSystem.run_good_iff (fun _ _ _ hs h => codes_step_coded hs h) ?_
    (fun _ _ h => insert_enabled h) hcoded
    ((codesIdentify_iff hcoded).mpr Table.uniqueOn_empty) labels
  intro s label s' hs hidentify h
  rw [codesIdentify_iff (codes_step_coded hs h)]
  exact codes_step_distinct_iff ((codesIdentify_iff hs).mp hidentify) h

/-- Two creators for one chat draw the same code, and each finds it free before the
other inserts. -/
def sameDraw : List CodesLabel :=
  [.call 0 ⟨"run", "capability", "shell", "write", "chat", "peer", "owner", 900, 0⟩,
    .call 1 ⟨"other", "capability", "mail", "write", "chat", "peer", "owner", 900, 1⟩,
    .draw 0 7, .draw 1 7, .insert 0 "first", .insert 1 "second"]

/-- Both approvals are pending under the code `000007`. -/
theorem same_draw_shares_code :
    ¬ ∀ (runs : RunTable) (labels : List CodesLabel) (s : CodesState),
      codesSystem.run (.start runs) labels = some s → s.service.CodesIdentify := by
  intro hall
  have hrun : (codesSystem.run (.start governedRuns) sameDraw).map (fun s =>
      s.service.approvals.rows.map fun row => (row.id, row.status, row.code))
        = some [("first", .pending, codeText 7), ("second", .pending, codeText 7)] := by
    rfl
  obtain ⟨s, hs, hrows⟩ := Option.map_eq_some_iff.mp hrun
  have hmem : ∀ entry ∈ [("first", ApprovalStatus.pending, codeText 7),
      ("second", ApprovalStatus.pending, codeText 7)],
      ∃ row ∈ s.service.approvals.rows, (row.id, row.status, row.code) = entry := by
    rw [← hrows]
    exact fun entry hentry => List.mem_map.mp hentry
  obtain ⟨a, ha, haEq⟩ := hmem _ List.mem_cons_self
  obtain ⟨b, hb, hbEq⟩ := hmem _ (List.mem_cons_of_mem _ List.mem_cons_self)
  obtain ⟨haId, haStatus, haCode⟩ : a.id = "first" ∧ a.status = .pending ∧ a.code = codeText 7 := by
    simpa only [Prod.mk.injEq] using haEq
  obtain ⟨hbId, hbStatus, hbCode⟩ :
      b.id = "second" ∧ b.status = .pending ∧ b.code = codeText 7 := by
    simpa only [Prod.mk.injEq] using hbEq
  have hsame : a = b :=
    (hall _ _ s hs).distinct a ha b hb haStatus hbStatus (haCode.trans hbCode.symm)
  rw [hsame, hbId] at haId
  exact absurd haId (by decide)

end Navi.Approvals
