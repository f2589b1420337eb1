import Navi.StateGraph.History

/-!
# Resuming a loop

What `process_queue_once` and `resume_goal_loop_run` do to one loop before the
runner gets it: the claim, the reopening of a paused loop, and the evidence the
call starts with. What the resume writes to the Run and the Goal is not modelled
here.
-/

namespace Navi.StateGraph

open Navi.Base Navi.Loop

/-! ## The claims of the daemon -/

/-- `DETACHED_EXECUTION_RECOVERY_GRACE_SECONDS`. -/
def detachedExecutionRecoveryGraceSeconds : Time := 90

/-- The lease `claim_active_for_execution_mode` gives when none is asked for. -/
def activeLeaseSeconds : Time := 180

/-- The lease `claim_for_execution` gives when none is asked for. -/
def defaultLeaseSeconds : Time := 120

/-- `claim_active_for_execution_mode` on one of the loops its limit leaves in;
`none` when the loop is not selected. -/
def claimActiveForExecutionMode (cell : LoopCell) (executionMode owner : String) (now : Time)
    (updatedBefore : Option Time) : Option LoopCell :=
  let stale : Bool := updatedBefore.all fun limit => cell.run.updatedAt ≤ limit
  if cell.run.terminalState = none
      ∧ cell.run.evidence.get "execution_mode" = some (.str executionMode)
      ∧ claimable cell.run owner now ∧ stale then
    some { cell with run := { cell.run with
      leaseOwner := owner
      leaseExpiresAt := now + activeLeaseSeconds
      version := cell.run.version + 1
      updatedAt := now } }
  else none

/-- One `process_queue_once`, as far as its claims go: its owner, the readings of
its clock, and the rows of the other loops. -/
structure QueueTick where
  owner : String
  background : Time
  foreground : Time
  listing : Time
  retrying : Time
  others : List LoopRunState

/-- The claims of `process_queue_once` on one loop: the loop it will resume, and
whether that is in `retryable_ids`. -/
def queueClaim (cell : LoopCell) (tick : QueueTick) : Option (LoopCell × Bool) :=
  let active := claimActiveForExecutionMode cell "background" tick.owner tick.background none
  let detached := claimActiveForExecutionMode cell "foreground" tick.owner tick.foreground
    (some (tick.foreground - detachedExecutionRecoveryGraceSeconds))
  match active.or detached with
  | some claimed => some (claimed, false)
  | none =>
      let rows := cell.run :: tick.others.filter fun row => row.runId ≠ cell.run.runId
      let candidates := listRetryablePauses rows tick.listing 10
      if candidates.any fun row => row.runId = cell.run.runId then
        (claimForExecution cell tick.owner defaultLeaseSeconds tick.retrying true).map (·, true)
      else none

/-! ## The resume -/

/-- `prior_evidence`. -/
def priorEvidence (evidence : Dict) (preservePauseEvidence : Bool) : Dict :=
  if preservePauseEvidence then
    let prior :=
      match evidence.get "capability_result", evidence.sub "executor" with
      | none, some executor => evidence.put "capability_result" (.obj executor)
      | _, _ => evidence
    match prior.sub "capability_result" with
    | none => prior
    | some capabilityResult =>
        let message := capabilityResult.text "message"
        let action := capabilityResult.text "action"
        if action = "chat" ∧ message ≠ "" then
          Dict.merge
            [("candidate_response", .str message), ("candidate_response_action", .str action)] prior
        else prior
  else []

/-- What tells one resume from another. -/
structure ResumeRequest where
  entrypoint : String
  resumeReason : String
  resourceRetry : Bool
  retryPause : Bool

/-- The resume of `process_queue_once`. -/
def queueResume (retryPause : Bool) : ResumeRequest where
  entrypoint := "system_daemon.process_queue_once"
  resumeReason := "background_execution"
  resourceRetry := false
  retryPause := retryPause

/-- The evidence the runner's call starts with. `runId` is the Run of the goal. -/
def graphEvidence (loop : LoopRunState) (runId : String) (request : ResumeRequest) : Dict :=
  let prior := priorEvidence loop.evidence (request.resourceRetry || request.retryPause)
  let evidence := prior.merge
    [("entrypoint", .str request.entrypoint), ("resumed", .bool true),
      ("resume_reason", .str request.resumeReason)]
  Dict.merge [("goal_id", .str loop.goalId), ("run_id", .str runId)] evidence

/-- The loop as the runner gets it: reopened, if it was paused. `now` and `later`
are the times of the two reopenings. -/
def reopenToResume (cell : LoopCell) (request : ResumeRequest) (now later : Time) :
    Except StoreError LoopCell := do
  let reopened ←
    if request.retryPause then reopenRetryablePause cell now
    else if request.resourceRetry then reopenResourcePause cell now
    else .ok cell
  if externallyWaiting reopened.run then reopenForResume reopened later else .ok reopened

/-! ## Running loops -/

/-- The daemon recovers loops of this kind. -/
def Recoverable (cell : LoopCell) : Prop :=
  cell.run.evidence.get "execution_mode" = some (.str "background")
    ∨ cell.run.evidence.get "execution_mode" = some (.str "foreground")

section

variable {cell claimed : LoopCell} {tick : QueueTick} {retryPause : Bool}

theorem claimActiveForExecutionMode_eq_some {executionMode owner : String} {now : Time}
    {updatedBefore : Option Time}
    (h : claimActiveForExecutionMode cell executionMode owner now updatedBefore = some claimed) :
    cell.run.evidence.get "execution_mode" = some (.str executionMode)
      ∧ claimed.run.node = cell.run.node ∧ claimed.run.terminalState = none := by
  unfold claimActiveForExecutionMode at h
  extract_lets stale at h
  split at h
  next hguard =>
    obtain rfl := Option.some.inj h
    exact ⟨hguard.2.1, rfl, hguard.1⟩
  next => cases h

theorem claimActiveForExecutionMode_isSome {executionMode : String} (owner : String) {now : Time}
    {updatedBefore : Option Time} (hrunning : cell.run.terminalState = none)
    (hmode : cell.run.evidence.get "execution_mode" = some (.str executionMode))
    (hlease : cell.run.leaseExpiresAt ≤ now)
    (hstale : ∀ limit ∈ updatedBefore, cell.run.updatedAt ≤ limit) :
    (claimActiveForExecutionMode cell executionMode owner now updatedBefore).isSome := by
  have hall : (updatedBefore.all fun limit => cell.run.updatedAt ≤ limit) = true := by
    cases updatedBefore with
    | none => rfl
    | some limit => exact decide_eq_true (hstale limit rfl)
  have hclaimable : claimable cell.run owner now = true := decide_eq_true (.inr (.inr hlease))
  simp [claimActiveForExecutionMode, hrunning, hmode, hclaimable, hall]

theorem queueClaim_of_active
    (h : (claimActiveForExecutionMode cell "background" tick.owner tick.background none).or
      (claimActiveForExecutionMode cell "foreground" tick.owner tick.foreground
        (some (tick.foreground - detachedExecutionRecoveryGraceSeconds))) = some claimed) :
    queueClaim cell tick = some (claimed, false) := by
  unfold queueClaim
  dsimp only
  rw [h]

/-- A running loop is claimed as active, so the daemon does not count it among the
retryable pauses. -/
theorem queueClaim_running (hrunning : cell.run.terminalState = none)
    (h : queueClaim cell tick = some (claimed, retryPause)) :
    retryPause = false ∧ Recoverable cell ∧ claimed.run.node = cell.run.node
      ∧ claimed.run.terminalState = none := by
  unfold queueClaim at h
  dsimp only at h
  split at h
  next found hfound =>
    obtain ⟨rfl, rfl⟩ := Prod.mk.inj (Option.some.inj h)
    rcases Option.or_eq_some_iff.mp hfound with hactive | ⟨-, hdetached⟩
    · obtain ⟨hmode, hnode, hterminal⟩ := claimActiveForExecutionMode_eq_some hactive
      exact ⟨rfl, .inl hmode, hnode, hterminal⟩
    · obtain ⟨hmode, hnode, hterminal⟩ := claimActiveForExecutionMode_eq_some hdetached
      exact ⟨rfl, .inr hmode, hnode, hterminal⟩
  next =>
    split at h
    next hlisted =>
      -- the row of this loop is the only one with its id, and it is not paused
      obtain ⟨row, hrow, hid⟩ := List.any_eq_true.mp hlisted
      obtain ⟨hmem, hpaused, -⟩ := listRetryablePauses_spec hrow
      rcases List.mem_cons.mp hmem with rfl | hother
      · rw [hrunning] at hpaused
        cases hpaused
      · exact absurd (of_decide_eq_true hid) (of_decide_eq_true (List.mem_filter.mp hother).2)
    next => cases h

theorem queueClaim_recoverable (hrunning : cell.run.terminalState = none)
    (h : Recoverable cell) (owner : String) :
    ∃ tick claimed, tick.owner = owner ∧ queueClaim cell tick = some (claimed, false) := by
  let foreground := max cell.run.leaseExpiresAt
    (cell.run.updatedAt + detachedExecutionRecoveryGraceSeconds)
  let tick : QueueTick := ⟨owner, cell.run.leaseExpiresAt, foreground, 0, 0, []⟩
  have hclaims : ((claimActiveForExecutionMode cell "background" owner tick.background none).or
      (claimActiveForExecutionMode cell "foreground" owner tick.foreground
        (some (tick.foreground - detachedExecutionRecoveryGraceSeconds)))).isSome := by
    rw [Option.isSome_or, Bool.or_eq_true]
    rcases h with hbackground | hforeground
    · exact .inl (claimActiveForExecutionMode_isSome owner hrunning hbackground (le_refl _)
        fun _ hlimit => nomatch hlimit)
    · refine .inr (claimActiveForExecutionMode_isSome owner hrunning hforeground
        (le_max_left _ _) ?_)
      intro limit hlimit
      obtain rfl := Option.some.inj hlimit
      exact le_sub_iff_add_le.mpr (le_max_right _ _)
  obtain ⟨claimed, hclaimed⟩ := Option.isSome_iff_exists.mp hclaims
  exact ⟨tick, claimed, rfl, queueClaim_of_active hclaimed⟩

theorem reopenToResume_running (hrunning : cell.run.terminalState = none) (now later : Time) :
    reopenToResume cell (queueResume false) now later = .ok cell := by
  have hwaiting : externallyWaiting cell.run = false := by simp [externallyWaiting, hrunning]
  simp [reopenToResume, queueResume, hwaiting, bind, Except.bind]

theorem graphEvidence_result (loop : LoopRunState) (runId : String) :
    (graphEvidence loop runId (queueResume false)).get "capability_result" = none := by
  simp [graphEvidence, priorEvidence, queueResume]

end

end Navi.StateGraph
