import Mathlib
import Navi.Base.System
import Navi.Evolution.Ledger

/-!
# What a proposal was claimed with

Calls check a proposal and claim it in two transactions, and what they checked may have been
evaluated again between the two and after. The evaluation that counts is the one that stands in
the row when the claim is made.
-/

namespace Navi.Evolution

open Navi.Base Navi.Approvals Navi.Loop

/-- The ledger and the approvals, the evaluations that were checked and are not written, the
proposals of the calls that have checked one and not claimed it, and the evaluation that each
proposal had when it was claimed. -/
structure ReviewState where
  proposals : ProposalTable
  approvals : ApplyApprovals
  evaluations : List (String × Evaluation)
  applies : List String
  claimedWith : String → Option Evaluation

def ReviewState.empty : ReviewState where
  proposals := .empty
  approvals := .empty
  evaluations := []
  applies := []
  claimedWith _ := none

inductive ReviewLabel where
  | propose (id targetType targetId before after requiredApprovalLevel : String)
  | requestApproval (id requestedTool argsJson : String) (expiresAt now : Time)
  | resolveApproval (approvalId decision resolvedBy : String) (now : Time)
  | expireApprovals (now : Time)
  /-- `record_proposal_evaluation` until its `UPDATE`. -/
  | checkEvaluation (proposalId evaluationResult evaluationEvidence approvalId : String)
  /-- The `UPDATE`. -/
  | writeEvaluation (index : Nat)
  /-- `apply_proposal` until the claim, where nothing raises. -/
  | checkApply (proposalId : String)
  /-- `claim_for_apply`. -/
  | claim (index : Nat)
  | markApplied (proposalId eventId : String) (now : Time)
  | markApplyFailed (proposalId : String)
  | markApplyUncertain (proposalId : String)
  | markRolledBack (proposalId : String)
  /-- A call raises, or its process dies. -/
  | stopEvaluation (index : Nat)
  | stopApply (index : Nat)

namespace ReviewState

/-- A change of one proposal's row, where its status is as the update expects. -/
def settle (s : ReviewState) (proposalId : String) (status : ProposalStatus)
    (set : EvolutionProposal → EvolutionProposal) (hset : ∀ row, (set row).id = row.id) :
    ReviewState :=
  { s with
    proposals :=
      s.proposals.update (fun row => row.id = proposalId ∧ row.status = status) set hset }

/-- `claim_for_apply`, which raises where it changes no row. -/
def claim (s : ReviewState) (index : Nat) (proposalId : String) : ReviewState :=
  let rest := { s with applies := s.applies.eraseIdx index }
  match s.proposals.get? proposalId with
  | some row =>
      if row.status = .proposed then
        { rest.settle proposalId .proposed EvolutionProposal.claimed fun _ => rfl with
          claimedWith := fun id =>
            if id = proposalId then some row.evaluation else s.claimedWith id }
      else rest
  | none => rest

end ReviewState

/-- Proposals, evaluations, approvals and applies, interleaved at their transactions. Ids are new
where they are used. -/
def reviewSystem (reader : EvaluationReader) : System ReviewState ReviewLabel where
  step s
    | .propose id targetType targetId before after level =>
        if s.proposals.get? id = none then
          some
            { s with
              proposals := s.proposals.insertOrIgnore
                (proposedRow id targetType targetId before after level) }
        else none
    | .requestApproval id tool argsJson expiresAt now =>
        if s.approvals.get? id = none then
          some
            { s with
              approvals := s.approvals.insertOrIgnore
                (requestedApproval id tool argsJson expiresAt now) }
        else none
    | .resolveApproval approvalId decision resolvedBy now =>
        (statusForDecision decision).map fun status =>
          { s with
            approvals := s.approvals.update
              (fun approval => approval.id = approvalId ∧ approval.status = .pending)
              (ApplyApproval.resolved status decision resolvedBy now) fun _ => rfl }
    | .expireApprovals now =>
        some
          { s with
            approvals := s.approvals.update
              (fun approval => approval.status = .pending ∧ approval.expiresAt < now)
              (ApplyApproval.lapsed now) fun _ => rfl }
    | .checkEvaluation proposalId result evidence approvalId =>
        (s.proposals.get? proposalId).bind fun _ =>
          (recordedEvaluation reader s.approvals proposalId result evidence
            approvalId).toOption.map fun evaluation =>
              { s with evaluations := s.evaluations ++ [(proposalId, evaluation)] }
    | .writeEvaluation index =>
        (s.evaluations[index]?).map fun entry =>
          { s with
            proposals := s.proposals.update (·.id = entry.1)
              (EvolutionProposal.evaluated entry.2) (EvolutionProposal.evaluated_id entry.2)
            evaluations := s.evaluations.eraseIdx index }
    | .checkApply proposalId =>
        (s.proposals.get? proposalId).bind fun row =>
          if assertProposalApplicable row = .ok () then
            some { s with applies := s.applies ++ [proposalId] }
          else none
    | .claim index => (s.applies[index]?).map (s.claim index)
    | .markApplied proposalId eventId now =>
        some
          (s.settle proposalId .applying (EvolutionProposal.markApplied eventId now) fun _ => rfl)
    | .markApplyFailed proposalId =>
        some (s.settle proposalId .applying EvolutionProposal.markApplyFailed fun _ => rfl)
    | .markApplyUncertain proposalId =>
        some (s.settle proposalId .applying EvolutionProposal.markApplyUncertain fun _ => rfl)
    | .markRolledBack proposalId =>
        some (s.settle proposalId .applied EvolutionProposal.markRolledBack fun _ => rfl)
    | .stopEvaluation index =>
        (s.evaluations[index]?).map fun _ =>
          { s with evaluations := s.evaluations.eraseIdx index }
    | .stopApply index =>
        (s.applies[index]?).map fun _ => { s with applies := s.applies.eraseIdx index }

/-! ## What is claimed -/

/-- A claim is of a proposal whose evaluation approves it by an approval that names it, and where
the proposal is applied its evaluation is the one that it was claimed with. -/
def ClaimsEndorsed (reader : EvaluationReader) (s : ReviewState) : Prop :=
  ∀ proposalId evaluation, s.claimedWith proposalId = some evaluation →
    (evaluation.result = "approved" ∧ Endorsed reader s.approvals proposalId evaluation)
      ∧ ∀ row, s.proposals.get? proposalId = some row → row.status = .applied →
        row.evaluation = evaluation

/-- No evaluation is written that changes a proposal which a call has checked and not claimed, or
which is claimed or applied. -/
def Undisturbed (s : ReviewState) : ReviewLabel → Prop
  | .writeEvaluation index =>
      ∀ entry ∈ s.evaluations[index]?, ∀ row ∈ s.proposals.get? entry.1,
        row.evaluation = entry.2
          ∨ entry.1 ∉ s.applies ∧ row.status ≠ .applying ∧ row.status ≠ .applied
  | _ => True

instance decidableUndisturbed (s : ReviewState) : (label : ReviewLabel) →
    Decidable (Undisturbed s label)
  | .writeEvaluation index =>
      inferInstanceAs (Decidable (∀ entry ∈ s.evaluations[index]?, ∀ row ∈ s.proposals.get? entry.1,
        row.evaluation = entry.2
          ∨ entry.1 ∉ s.applies ∧ row.status ≠ .applying ∧ row.status ≠ .applied))
  | .propose .. => inferInstanceAs (Decidable True)
  | .requestApproval .. => inferInstanceAs (Decidable True)
  | .resolveApproval .. => inferInstanceAs (Decidable True)
  | .expireApprovals _ => inferInstanceAs (Decidable True)
  | .checkEvaluation .. => inferInstanceAs (Decidable True)
  | .checkApply _ => inferInstanceAs (Decidable True)
  | .claim _ => inferInstanceAs (Decidable True)
  | .markApplied .. => inferInstanceAs (Decidable True)
  | .markApplyFailed _ => inferInstanceAs (Decidable True)
  | .markApplyUncertain _ => inferInstanceAs (Decidable True)
  | .markRolledBack _ => inferInstanceAs (Decidable True)
  | .stopEvaluation _ => inferInstanceAs (Decidable True)
  | .stopApply _ => inferInstanceAs (Decidable True)

/-! ## The invariant -/

/-- Every evaluation that approves is endorsed, what a call has checked is approved, and a proposal
that is claimed or applied has the evaluation that it was claimed with. -/
structure Reviewed (reader : EvaluationReader) (s : ReviewState) : Prop where
  rows : ∀ id row, s.proposals.get? id = some row → row.evaluation.result = "approved" →
    Endorsed reader s.approvals id row.evaluation
  written : ∀ entry ∈ s.evaluations, entry.2.result = "approved" →
    Endorsed reader s.approvals entry.1 entry.2
  checked : ∀ id ∈ s.applies, ∀ row, s.proposals.get? id = some row →
    row.evaluation.result = "approved"
  claims : ∀ id evaluation, s.claimedWith id = some evaluation →
    (evaluation.result = "approved" ∧ Endorsed reader s.approvals id evaluation)
      ∧ ∀ row, s.proposals.get? id = some row → row.status = .applying ∨ row.status = .applied →
        row.evaluation = evaluation
  known : ∀ id, id ∈ s.applies ∨ s.claimedWith id ≠ none → (s.proposals.get? id).isSome

section

variable {reader : EvaluationReader} {s s' : ReviewState} {label : ReviewLabel}

theorem reviewed_empty : Reviewed reader .empty where
  rows _ _ h := nomatch h
  written := List.forall_mem_nil _
  checked := List.forall_mem_nil _
  claims _ _ h := nomatch h
  known _ h := absurd h (by simp [ReviewState.empty])

theorem Reviewed.claimsEndorsed (h : Reviewed reader s) : ClaimsEndorsed reader s :=
  fun id evaluation hclaim => ⟨(h.claims id evaluation hclaim).1, fun row hrow happlied =>
    (h.claims id evaluation hclaim).2 row hrow (.inr happlied)⟩

theorem reviewed_approvals {approvals : ApplyApprovals} (h : Reviewed reader s)
    (hkeep : ∀ id approval, s.approvals.get? id = some approval → approval.status = .approved →
      approvals.get? id = some approval) :
    Reviewed reader { s with approvals := approvals } := by
  have hendorsed : ∀ {id evaluation}, Endorsed reader s.approvals id evaluation →
      Endorsed reader approvals id evaluation := by
    rintro id evaluation ⟨approval, hfound, happroves⟩
    exact ⟨approval, hkeep _ approval hfound happroves.status, happroves⟩
  refine ⟨?_, ?_, h.checked, ?_, h.known⟩
  · intro id row hrow hresult
    exact hendorsed (h.rows id row hrow hresult)
  · intro entry hentry hresult
    exact hendorsed (h.written entry hentry hresult)
  · intro id evaluation hclaim
    obtain ⟨⟨hresult, hendorse⟩, hrows⟩ := h.claims id evaluation hclaim
    exact ⟨⟨hresult, hendorsed hendorse⟩, hrows⟩

theorem get?_update_pending {approvals : ApplyApprovals} {guard : ApplyApproval → Bool}
    {set : ApplyApproval → ApplyApproval} {hset : ∀ a, (set a).id = a.id}
    (hguard : ∀ a, guard a = true → a.status = .pending) {id : String} {approval : ApplyApproval}
    (hfound : approvals.get? id = some approval) (happroved : approval.status = .approved) :
    (approvals.update guard set hset).get? id = some approval := by
  rw [Table.get?_update, hfound, Option.map_some, if_neg]
  intro hmeets
  exact nomatch happroved.symm.trans (hguard approval hmeets)

theorem get?_settle {proposalId : String} {status : ProposalStatus}
    {set : EvolutionProposal → EvolutionProposal} {hset : ∀ row, (set row).id = row.id}
    {id : String} {row : EvolutionProposal} :
    (s.settle proposalId status set hset).proposals.get? id = some row
      ↔ ∃ old, s.proposals.get? id = some old
        ∧ (if old.id = proposalId ∧ old.status = status then set old else old) = row := by
  unfold ReviewState.settle
  rw [Table.get?_update, Option.map_eq_some_iff]
  simp only [decide_eq_true_eq]

theorem isSome_settle {proposalId : String} {status : ProposalStatus}
    {set : EvolutionProposal → EvolutionProposal} {hset : ∀ row, (set row).id = row.id}
    {id : String} : ((s.settle proposalId status set hset).proposals.get? id).isSome
      ↔ (s.proposals.get? id).isSome := by
  unfold ReviewState.settle
  rw [Table.get?_update, Option.isSome_map]

theorem reviewed_settle {proposalId : String} {status : ProposalStatus}
    {set : EvolutionProposal → EvolutionProposal} {hset : ∀ row, (set row).id = row.id}
    (h : Reviewed reader s) (hevaluation : ∀ row, (set row).evaluation = row.evaluation)
    (hstatus : status = .applying ∨ status = .applied) :
    Reviewed reader (s.settle proposalId status set hset) := by
  have hback : ∀ {id row}, (s.settle proposalId status set hset).proposals.get? id = some row →
      ∃ old, s.proposals.get? id = some old ∧ row.evaluation = old.evaluation
        ∧ (row.status = .applying ∨ row.status = .applied →
          old.status = .applying ∨ old.status = .applied) := by
    intro id row hrow
    obtain ⟨old, hold, rfl⟩ := get?_settle.mp hrow
    refine ⟨old, hold, ?_⟩
    split
    next hguard => exact ⟨hevaluation old, fun _ => hguard.2 ▸ hstatus⟩
    next => exact ⟨rfl, fun hclaimed => hclaimed⟩
  refine ⟨?_, h.written, ?_, ?_, fun id hid => isSome_settle.mpr (h.known id hid)⟩
  · intro id row hrow hresult
    obtain ⟨old, hold, hsame, -⟩ := hback hrow
    rw [hsame] at hresult ⊢
    exact h.rows id old hold hresult
  · intro id hid row hrow
    obtain ⟨old, hold, hsame, -⟩ := hback hrow
    rw [hsame]
    exact h.checked id hid old hold
  · intro id evaluation hclaim
    refine ⟨(h.claims id evaluation hclaim).1, fun row hrow hclaimed => ?_⟩
    obtain ⟨old, hold, hsame, hwas⟩ := hback hrow
    rw [hsame]
    exact (h.claims id evaluation hclaim).2 old hold (hwas hclaimed)

theorem reviewed_stop {evaluations : List (String × Evaluation)} {applies : List String}
    (h : Reviewed reader s) (hevaluations : evaluations ⊆ s.evaluations)
    (happlies : applies ⊆ s.applies) :
    Reviewed reader { s with evaluations := evaluations, applies := applies } :=
  ⟨h.rows, fun entry hentry => h.written entry (hevaluations hentry),
    fun id hid => h.checked id (happlies hid), h.claims,
    fun id hid => h.known id (hid.imp_left fun hid => happlies hid)⟩

theorem reviewed_claim {index : Nat} {proposalId : String} (h : Reviewed reader s)
    (hcall : s.applies[index]? = some proposalId) : Reviewed reader (s.claim index proposalId) := by
  have hstop : Reviewed reader { s with applies := s.applies.eraseIdx index } :=
    reviewed_stop h (List.Subset.refl _) List.eraseIdx_subset
  unfold ReviewState.claim
  split
  next row hrow =>
    split
    next hproposed =>
      have hresult := h.checked proposalId (List.mem_of_getElem? hcall) row hrow
      have hback : ∀ {id new}, (s.settle proposalId .proposed EvolutionProposal.claimed
          fun _ => rfl).proposals.get? id = some new → ∃ old, s.proposals.get? id = some old
            ∧ new.evaluation = old.evaluation ∧ (id ≠ proposalId → new = old) := by
        intro id new hnew
        obtain ⟨old, hold, rfl⟩ := get?_settle.mp hnew
        refine ⟨old, hold, ?_, fun hother => if_neg ?_⟩
        · split <;> rfl
        · rintro ⟨hid, -⟩
          exact hother ((Table.get?_eq_some_iff.mp hold).2.symm.trans hid)
      refine ⟨?_, h.written, ?_, ?_, ?_⟩
      · intro id new hnew hnewResult
        obtain ⟨old, hold, hsame, -⟩ := hback hnew
        rw [hsame] at hnewResult ⊢
        exact h.rows id old hold hnewResult
      · intro id hid new hnew
        obtain ⟨old, hold, hsame, -⟩ := hback hnew
        rw [hsame]
        exact hstop.checked id hid old hold
      · intro id evaluation hclaim
        change (if id = proposalId then some row.evaluation else s.claimedWith id)
          = some evaluation at hclaim
        split at hclaim
        next hid =>
          subst hid
          obtain rfl := Option.some.inj hclaim
          refine ⟨⟨hresult, h.rows id row hrow hresult⟩, fun new hnew _ => ?_⟩
          obtain ⟨old, hold, hsame, -⟩ := hback hnew
          rw [hsame, Option.some.inj (hold.symm.trans hrow)]
        next hother =>
          refine ⟨(h.claims id evaluation hclaim).1, fun new hnew hclaimed => ?_⟩
          obtain ⟨old, hold, -, hsame⟩ := hback hnew
          obtain rfl := hsame hother
          exact (h.claims id evaluation hclaim).2 new hold hclaimed
      · intro id hid
        have hknown : (s.proposals.get? id).isSome := by
          by_cases hsame : id = proposalId
          · rw [hsame, hrow]
            rfl
          · refine hstop.known id (hid.imp_right fun hclaimed => ?_)
            change (if id = proposalId then some row.evaluation else s.claimedWith id) ≠ none
              at hclaimed
            rwa [if_neg hsame] at hclaimed
        exact (@isSome_settle s proposalId .proposed EvolutionProposal.claimed (fun _ => rfl)
          id).mpr hknown
    next => exact hstop
  next => exact hstop

/-- An evaluation is written into a proposal that no call has checked, and that is not claimed or
applied, or changes nothing. -/
theorem reviewed_write {index : Nat} {entry : String × Evaluation} (h : Reviewed reader s)
    (hun : Undisturbed s (.writeEvaluation index)) (hentry : s.evaluations[index]? = some entry) :
    Reviewed reader
      { s with
        proposals := s.proposals.update (·.id = entry.1) (EvolutionProposal.evaluated entry.2)
          (EvolutionProposal.evaluated_id entry.2)
        evaluations := s.evaluations.eraseIdx index } := by
  have hback : ∀ {id row}, (s.proposals.update (·.id = entry.1)
      (EvolutionProposal.evaluated entry.2) (EvolutionProposal.evaluated_id entry.2)).get? id
        = some row →
      ∃ old, s.proposals.get? id = some old ∧ row.status = old.status
        ∧ (id = entry.1 ∧ row.evaluation = entry.2 ∨ row.evaluation = old.evaluation) := by
    intro id row hrow
    rw [Table.get?_update, Option.map_eq_some_iff] at hrow
    obtain ⟨old, hold, rfl⟩ := hrow
    refine ⟨old, hold, ?_⟩
    split
    next hid =>
      have hkey : old.id = entry.1 := of_decide_eq_true hid
      exact ⟨rfl, .inl ⟨(Table.get?_eq_some_iff.mp hold).2.symm.trans hkey, rfl⟩⟩
    next => exact ⟨rfl, .inr rfl⟩
  refine ⟨?_, fun other hother => h.written other (List.mem_of_mem_eraseIdx hother), ?_, ?_, ?_⟩
  · intro id row hrow hresult
    obtain ⟨old, hold, -, ⟨hid, hnew⟩ | hsame⟩ := hback hrow
    · rw [hid, hnew]
      rw [hnew] at hresult
      exact h.written entry (List.mem_of_getElem? hentry) hresult
    · rw [hsame] at hresult ⊢
      exact h.rows id old hold hresult
  · intro id hid row hrow
    obtain ⟨old, hold, -, ⟨hkey, hnew⟩ | hsame⟩ := hback hrow
    · subst hkey
      rcases hun entry hentry old hold with hsame | ⟨hunchecked, -⟩
      · rw [hnew, ← hsame]
        exact h.checked entry.1 hid old hold
      · exact absurd hid hunchecked
    · rw [hsame]
      exact h.checked id hid old hold
  · intro id evaluation hclaim
    refine ⟨(h.claims id evaluation hclaim).1, fun row hrow hclaimed => ?_⟩
    obtain ⟨old, hold, hstatus, ⟨hkey, hnew⟩ | hsame⟩ := hback hrow
    · subst hkey
      rw [hstatus] at hclaimed
      rcases hun entry hentry old hold with hsame | ⟨-, happlying, happlied⟩
      · rw [hnew, ← hsame]
        exact (h.claims entry.1 evaluation hclaim).2 old hold hclaimed
      · exact absurd hclaimed (by simp [happlying, happlied])
    · rw [hsame]
      rw [hstatus] at hclaimed
      exact (h.claims id evaluation hclaim).2 old hold hclaimed
  · intro id hid
    rw [Table.get?_update, Option.isSome_map]
    exact h.known id hid

theorem reviewed_propose {id targetType targetId before after level : String}
    (h : Reviewed reader s) (hfresh : s.proposals.get? id = none) :
    Reviewed reader
      { s with
        proposals := s.proposals.insertOrIgnore
          (proposedRow id targetType targetId before after level) } := by
  have hback : ∀ {other row}, (s.proposals.insertOrIgnore
      (proposedRow id targetType targetId before after level)).get? other = some row →
      s.proposals.get? other = some row
        ∨ other = id ∧ row = proposedRow id targetType targetId before after level := by
    intro other row hrow
    rw [Table.get?_insertOrIgnore, Option.or_eq_some_iff] at hrow
    refine hrow.imp_right fun hnew => ?_
    obtain ⟨hid, hrow⟩ := Option.ite_none_right_eq_some.mp hnew.2
    exact ⟨hid.symm, (Option.some.inj hrow).symm⟩
  have hunknown : ¬ (id ∈ s.applies ∨ s.claimedWith id ≠ none) := by
    intro hid
    have hsome := h.known id hid
    rw [hfresh] at hsome
    exact nomatch hsome
  refine ⟨?_, h.written, ?_, ?_, ?_⟩
  · intro other row hrow hresult
    rcases hback hrow with hold | ⟨-, rfl⟩
    · exact h.rows other row hold hresult
    · exact absurd hresult (by simp [proposedRow, EvolutionProposal.evaluation])
  · intro other hother row hrow
    rcases hback hrow with hold | ⟨rfl, -⟩
    · exact h.checked other hother row hold
    · exact absurd (.inl hother) hunknown
  · intro other evaluation hclaim
    refine ⟨(h.claims other evaluation hclaim).1, fun row hrow hclaimed => ?_⟩
    rcases hback hrow with hold | ⟨rfl, -⟩
    · exact (h.claims other evaluation hclaim).2 row hold hclaimed
    · exact absurd (.inr (by rw [hclaim]; exact nofun)) hunknown
  · intro other hother
    obtain ⟨row, hrow⟩ := Option.isSome_iff_exists.mp (h.known other hother)
    rw [Table.get?_insertOrIgnore_of_some _ hrow]
    rfl

theorem reviewed_step (h : Reviewed reader s) (hun : Undisturbed s label)
    (hstep : (reviewSystem reader).step s label = some s') : Reviewed reader s' := by
  cases label with
  | propose id targetType targetId before after level =>
      obtain ⟨hfresh, hs'⟩ := Option.ite_none_right_eq_some.mp hstep
      exact Option.some.inj hs' ▸ reviewed_propose h hfresh
  | requestApproval id tool argsJson expiresAt now =>
      obtain ⟨-, hs'⟩ := Option.ite_none_right_eq_some.mp hstep
      refine Option.some.inj hs' ▸ reviewed_approvals h fun id approval hfound _ => ?_
      exact Table.get?_insertOrIgnore_of_some _ hfound
  | resolveApproval approvalId decision resolvedBy now =>
      obtain ⟨status, -, rfl⟩ := Option.map_eq_some_iff.mp hstep
      exact reviewed_approvals h fun id approval hfound happroved =>
        get?_update_pending (fun a hmeets => (of_decide_eq_true hmeets).2) hfound happroved
  | expireApprovals now =>
      obtain rfl := Option.some.inj hstep
      exact reviewed_approvals h fun id approval hfound happroved =>
        get?_update_pending (fun a hmeets => (of_decide_eq_true hmeets).1) hfound happroved
  | checkEvaluation proposalId result evidence approvalId =>
      obtain ⟨row, -, hstep⟩ := Option.bind_eq_some_iff.mp hstep
      obtain ⟨evaluation, hevaluation, rfl⟩ := Option.map_eq_some_iff.mp hstep
      refine ⟨h.rows, fun entry hentry hresult => ?_, h.checked, h.claims, h.known⟩
      rcases List.mem_append.mp hentry with hold | hnew
      · exact h.written entry hold hresult
      · obtain rfl := List.mem_singleton.mp hnew
        cases hrecorded : recordedEvaluation reader s.approvals proposalId result evidence
            approvalId with
        | error raised =>
            rw [hrecorded] at hevaluation
            exact nomatch hevaluation
        | ok recorded =>
            rw [hrecorded] at hevaluation
            obtain rfl := Option.some.inj hevaluation
            exact endorsed_of_recorded hrecorded hresult
  | writeEvaluation index =>
      obtain ⟨entry, hentry, rfl⟩ := Option.map_eq_some_iff.mp hstep
      exact reviewed_write h hun hentry
  | checkApply proposalId =>
      obtain ⟨row, hrow, hstep⟩ := Option.bind_eq_some_iff.mp hstep
      obtain ⟨happlicable, hs'⟩ := Option.ite_none_right_eq_some.mp hstep
      obtain rfl := Option.some.inj hs'
      refine ⟨h.rows, h.written, fun id hid other hother => ?_, h.claims, fun id hid => ?_⟩
      · rcases List.mem_append.mp hid with hold | hnew
        · exact h.checked id hold other hother
        · obtain rfl := List.mem_singleton.mp hnew
          obtain rfl := Option.some.inj (hrow.symm.trans hother)
          exact (of_assertProposalApplicable happlicable).2
      · rcases hid with hid | hclaimed
        · rcases List.mem_append.mp hid with hold | hnew
          · exact h.known id (.inl hold)
          · obtain rfl := List.mem_singleton.mp hnew
            exact Option.isSome_of_eq_some hrow
        · exact h.known id (.inr hclaimed)
  | claim index =>
      obtain ⟨proposalId, hcall, rfl⟩ := Option.map_eq_some_iff.mp hstep
      exact reviewed_claim h hcall
  | markApplied proposalId eventId now =>
      obtain rfl := Option.some.inj hstep
      exact reviewed_settle h (fun _ => rfl) (.inl rfl)
  | markApplyFailed proposalId =>
      obtain rfl := Option.some.inj hstep
      exact reviewed_settle h (fun _ => rfl) (.inl rfl)
  | markApplyUncertain proposalId =>
      obtain rfl := Option.some.inj hstep
      exact reviewed_settle h (fun _ => rfl) (.inl rfl)
  | markRolledBack proposalId =>
      obtain rfl := Option.some.inj hstep
      exact reviewed_settle h (fun _ => rfl) (.inr rfl)
  | stopEvaluation index =>
      obtain ⟨entry, -, rfl⟩ := Option.map_eq_some_iff.mp hstep
      exact reviewed_stop h List.eraseIdx_subset (List.Subset.refl _)
  | stopApply index =>
      obtain ⟨proposalId, -, rfl⟩ := Option.map_eq_some_iff.mp hstep
      exact reviewed_stop h (List.Subset.refl _) List.eraseIdx_subset

end

/-- In a run in which no evaluation disturbs a proposal that is being applied, every claim is
endorsed. -/
theorem claims_endorsed (reader : EvaluationReader) (labels : List ReviewLabel)
    (hun : (reviewSystem reader).Along Undisturbed .empty labels) (n : Nat) (s' : ReviewState)
    (hrun : (reviewSystem reader).run .empty (labels.take n) = some s') :
    ClaimsEndorsed reader s' := by
  rw [← List.take_append_drop n labels, System.along_append] at hun
  have hreviewed : Reviewed reader s' := (reviewSystem reader).run_preserves_along
    (fun s label s' h hun => reviewed_step h hun) reviewed_empty hun.1 hrun
  exact hreviewed.claimsEndorsed

/-! ## An evaluation that is not seen -/

/-- Reads the arguments of one approval. -/
def plainReader : EvaluationReader where
  loads text :=
    if text = "\x7b\"proposal_id\": \"p\"\x7d" then some (.obj [("proposal_id", .str "p")])
    else none
  str := Json.text
  lower := String.toLower

/-- A proposal is evaluated with an approval of it, and a call checks that it may be applied. -/
def approvedProposalRun : List ReviewLabel :=
  [.propose "p" "skill" "notes" "old" "new" "L2",
    .requestApproval "a" "evolution.apply" "\x7b\"proposal_id\": \"p\"\x7d" 900 0,
    .resolveApproval "a" "approve" "owner" 1, .checkEvaluation "p" "approved" "passed" "a",
    .writeEvaluation 0, .checkApply "p"]

def appliedRun : List ReviewLabel :=
  approvedProposalRun ++ [.claim 0, .markApplied "p" "event" 2]

/-- Its claim is endorsed. -/
theorem applied_run_claims_endorsed :
    ∃ s', (reviewSystem plainReader).run .empty (appliedRun.take 8) = some s'
      ∧ ClaimsEndorsed plainReader s' := by
  have hun : (reviewSystem plainReader).Along Undisturbed .empty appliedRun := by
    decide +kernel
  obtain ⟨s', hs'⟩ : ∃ s', (reviewSystem plainReader).run .empty (appliedRun.take 8) = some s' :=
    Option.isSome_iff_exists.mp (by decide +kernel)
  exact ⟨s', hs', claims_endorsed plainReader appliedRun hun 8 s' hs'⟩

/-- Between the check and the claim an evaluation rejects the proposal. -/
def rejectedBeforeClaim : List ReviewLabel :=
  approvedProposalRun
    ++ [.checkEvaluation "p" "rejected" "unsafe" "", .writeEvaluation 0, .claim 0,
      .markApplied "p" "event" 2]

theorem rejectedBeforeClaim_claimedWith :
    ((reviewSystem plainReader).run .empty rejectedBeforeClaim).map
      (fun s' => (s'.claimedWith "p").map (·.result)) = some (some "rejected") := by
  decide +kernel

/-- It is claimed and applied all the same. -/
theorem rejected_proposal_is_claimed :
    ¬ ∀ labels s', (reviewSystem plainReader).run .empty labels = some s' →
      ClaimsEndorsed plainReader s' := by
  intro hendorsed
  obtain ⟨s', hrun, hclaimed⟩ := Option.map_eq_some_iff.mp rejectedBeforeClaim_claimedWith
  obtain ⟨evaluation, hevaluation, hresult⟩ := Option.map_eq_some_iff.mp hclaimed
  obtain ⟨⟨happroved, -⟩, -⟩ := hendorsed rejectedBeforeClaim s' hrun "p" evaluation hevaluation
  exact absurd (hresult.symm.trans happroved) (by decide)

end Navi.Evolution
