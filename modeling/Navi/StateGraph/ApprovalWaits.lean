import Navi.StateGraph.History

/-!
# Approval waits and their approvals

A waiting loop is matched to an approval by the id its evidence names. Only a
step that yields writes the id of an approval it requested; a resource escalation
and a side effect commit leave the id that was there. An approval opens the wait
that requested it, and no loop twice, in every history in which no wait begins
with the id of another.
-/

namespace Navi.StateGraph

open Navi.Base Navi.Loop

/-- The approval a stop requested, empty when it requested none. -/
def Stop.ownApprovalId : Stop → String
  | .yielded executed _ => approvalIdIn executed.toDict
  | _ => ""

/-- The approval the last parking requested. -/
def ownApprovalId (log : List Event) : String :=
  match lastParking log with
  | some (stop, _) => stop.ownApprovalId
  | none => ""

/-- The approvals whose waits the loop has left. -/
def consumed : List Event → List String
  | [] => []
  | .reopened _ run _ :: earlier =>
      if run.terminalState = some .waitingApproval then ownApprovalId earlier :: consumed earlier
      else consumed earlier
  | _ :: earlier => consumed earlier

/-- The approvals that have reopened the loop. -/
def openings : List Event → List String
  | [] => []
  | .reopened (.approvalWait approvalId _) _ _ :: earlier => approvalId :: openings earlier
  | _ :: earlier => openings earlier

/-- An approval that reopens the loop is approved, and is the one the wait
requested and the loop has not left a wait by. -/
def OpensItsOwnWait (earlier : List Event) : Event → Prop
  | .reopened (.approvalWait approvalId status) run _ =>
      run.terminalState = some .waitingApproval ∧ status = .approved
        ∧ approvalId = ownApprovalId earlier ∧ approvalId ∉ consumed earlier
  | _ => True

/-- A wait begins with an approval of its own that the loop has not left a wait by,
or with none and no approval named in the evidence. -/
def WaitsForItsOwn (earlier : List Event) : Event → Prop
  | .committed run request _ =>
      request.terminalState = some .waitingApproval →
        (ownApprovalId earlier = "" → ownedApprovalGateId run.evidence = "")
          ∧ (ownApprovalId earlier ≠ "" → ownApprovalId earlier ∉ consumed earlier)
  | _ => True

theorem openings_nodup {log : List Event} (h : Throughout OpensItsOwnWait log) :
    (openings log).Nodup ∧ openings log ⊆ consumed log := by
  induction log with
  | nil => exact ⟨List.nodup_nil, List.nil_subset _⟩
  | cons event earlier ih =>
      obtain ⟨hevent, hearlier⟩ := h
      obtain ⟨hnodup, hsubset⟩ := ih hearlier
      cases event with
      | reopened how run next =>
          have hkept : consumed earlier ⊆ consumed (.reopened how run next :: earlier) := by
            rw [consumed]
            split
            · exact List.subset_cons_self _ _
            · exact List.Subset.refl _
          cases how with
          | approvalWait approvalId status =>
              obtain ⟨hwaiting, -, hown, hfresh⟩ := hevent
              refine ⟨List.nodup_cons.mpr ⟨fun hmem => hfresh (hsubset hmem), hnodup⟩, ?_⟩
              rw [openings, consumed, if_pos hwaiting, ← hown]
              exact List.cons_subset_cons _ hsubset
          | _ => exact ⟨hnodup, List.Subset.trans hsubset hkept⟩
      | _ => exact ⟨hnodup, hsubset⟩

/-! ## What a wait's evidence names -/

theorem Clearance.noApproval {pending : Dict} (h : Clearance pending) :
    pending.get "facts" = none ∧ pending.get "capability_result" = none
      ∧ pending.get "executor" = none := by
  cases h <;> exact ⟨rfl, rfl, rfl⟩

/-- The evidence of a loop parked for approval names the approval of its stop, if
it named none before where the stop requested none. -/
theorem ownedApprovalGateId_parked {stop : Stop} {entry : LoopNode} {evidence pending : Dict}
    (hwaiting : stop.terminal = .waitingApproval) (hpending : Clearance pending)
    (hnone : stop.ownApprovalId = "" → ownedApprovalGateId evidence = "") :
    ownedApprovalGateId (evidence.merge (pending.merge (stop.evidence entry)))
      = stop.ownApprovalId := by
  obtain ⟨hfacts, hresult, hexecutor⟩ := hpending.noApproval
  have hcarried : (stop.evidence entry).get "capability_result" = none →
      (stop.evidence entry).get "executor" = none →
      carriedApprovalId (evidence.merge (pending.merge (stop.evidence entry)))
        = carriedApprovalId evidence := by
    intro hownResult hownExecutor
    apply carriedApprovalId_congr
    · rw [Dict.get_merge, Dict.get_merge, hownResult, hresult]
      rfl
    · rw [Dict.get_merge, Dict.get_merge, hownExecutor, hexecutor]
      rfl
  have hunnamed : (stop.evidence entry).get "facts" = none →
      (stop.evidence entry).get "capability_result" = none →
      (stop.evidence entry).get "executor" = none → stop.ownApprovalId = "" →
      ownedApprovalGateId (evidence.merge (pending.merge (stop.evidence entry)))
        = stop.ownApprovalId := by
    intro hownFacts hownResult hownExecutor hown
    have hsame : approvalIdIn (evidence.merge (pending.merge (stop.evidence entry)))
        = approvalIdIn evidence := by
      apply approvalIdIn_congr
      rw [Dict.get_merge, Dict.get_merge, hownFacts, hfacts]
      rfl
    rw [ownedApprovalGateId_eq, hsame, hcarried hownResult hownExecutor,
      ← ownedApprovalGateId_eq, hnone hown, hown]
  cases stop with
  | yielded executed progressSignature =>
      have hown : approvalIdIn
          (evidence.merge (pending.merge
            (Stop.evidence (.yielded executed progressSignature) entry)))
          = approvalIdIn executed.toDict := by
        apply approvalIdIn_congr
        exact Dict.get_merge_of_some (Dict.get_merge_of_some rfl)
      rw [ownedApprovalGateId_eq, hown, hcarried rfl rfl]
      show _ = approvalIdIn executed.toDict
      split
      next => rfl
      next hempty =>
        have hempty : approvalIdIn executed.toDict = "" := not_not.mp hempty
        have hnothing := hnone hempty
        rw [ownedApprovalGateId_eq] at hnothing
        rw [hempty]
        split at hnothing
        next hnamed => exact absurd hnothing hnamed
        next => exact hnothing
  | resourceGrant grant => exact hunnamed rfl rfl rfl rfl
  | sideEffectCommit result => exact hunnamed rfl rfl rfl rfl
  | lockConflict lock => cases hwaiting
  | plannerTransportRetry errorType failureFacts gate => cases hwaiting
  | checkerTransportRetry failureFacts gate executor => cases hwaiting

/-! ## The invariant -/

/-- A waiting loop's evidence names the approval of its wait, which the loop has not
left a wait by. -/
structure WaitsFit (c : Config) : Prop where
  logged : ParksAsLogged c
  waiting : c.cell.run.terminalState = some .waitingApproval →
    ownedApprovalGateId c.cell.run.evidence = ownApprovalId c.log
      ∧ (ownApprovalId c.log ≠ "" → ownApprovalId c.log ∉ consumed c.log)
  opens : Throughout OpensItsOwnWait c.log

theorem ne_waiting_of_running {run : LoopRunState} (h : run.terminalState = none) :
    run.terminalState ≠ some .waitingApproval := by
  rw [h]
  simp

theorem waitsFit_move {c c' : Config} (h : Move c c') (hc : WaitsFit c)
    (hwaits : Throughout WaitsForItsOwn c'.log) : WaitsFit c' := by
  have hlogged := parksAsLogged_step (.inl h) hc.logged
  cases h with
  | claims hclaimed =>
      obtain ⟨-, rfl⟩ := claimForExecution_eq_some.mp hclaimed
      exact ⟨hlogged, hc.waiting, hc.opens⟩
  | starts evidence hrunning =>
      exact ⟨hlogged, fun hwaiting => absurd hwaiting (ne_waiting_of_running hrunning), trivial,
        hc.opens⟩
  | leaves => exact ⟨hlogged, hc.waiting, hc.opens⟩
  | checkpoints id node now hinputs => exact ⟨hlogged, hc.waiting, hc.opens⟩
  | checkpointsPlan id now hnode => exact ⟨hlogged, hc.waiting, hc.opens⟩
  | executes hnode => exact ⟨hlogged, hc.waiting, trivial, hc.opens⟩
  | observes what => exact ⟨hlogged, hc.waiting, trivial, hc.opens⟩
  | turnsToPark hasks =>
      have hrunning := hc.logged.running Control.noConfusion
      exact ⟨hlogged, fun hwaiting => absurd hwaiting (ne_waiting_of_running hrunning), trivial,
        hc.opens⟩
  | @commits cell cell' log control control' request pending own now hsite hpending hevidence hok =>
      obtain ⟨-, rfl⟩ := transition_eq_ok.mp hok
      refine ⟨hlogged, ?_, trivial, hc.opens⟩
      intro hwaiting
      have hterminal : request.terminalState = some .waitingApproval := hwaiting
      obtain ⟨hnone, hfresh⟩ := hwaits.1 hterminal
      rw [hterminal] at hsite
      obtain ⟨stop, entry, hcontrol, hasks, -, hstop, hown⟩ := hsite.suspends rfl
      have hparking : lastParking log = some (stop, entry) :=
        hc.logged.parking stop entry hcontrol
      have hrequested : ownApprovalId log = stop.ownApprovalId := by
        rw [ownApprovalId, hparking]
      refine ⟨?_, hfresh⟩
      show ownedApprovalGateId (cell.run.evidence.merge request.evidence) = ownApprovalId log
      rw [hevidence, hown, hrequested]
      exact ownedApprovalGateId_parked hstop.symm hpending (hrequested ▸ hnone)
  | refuses hsite herror => exact ⟨hlogged, hc.waiting, trivial, hc.opens⟩

theorem waitsFit_external {c c' : Config} (h : External c c') (hc : WaitsFit c) : WaitsFit c' := by
  have hlogged := parksAsLogged_step (.inr h) hc.logged
  cases h with
  | leases owner expiresAt updatedAt version => exact ⟨hlogged, hc.waiting, hc.opens⟩
  | @reopens cell cell' log how hreopened hown =>
      refine ⟨hlogged, ?_, ?_, hc.opens⟩
      · intro hwaiting
        exact absurd hwaiting (ne_waiting_of_running hreopened.running)
      · cases how with
        | approvalWait approvalId status =>
            obtain ⟨hwaiting, happroved, hid, hnamed⟩ := hown
            obtain ⟨howned, hfresh⟩ := hc.waiting hwaiting
            have hrequested : approvalId = ownApprovalId log := hid.trans howned
            rw [hrequested] at hnamed
            exact ⟨hwaiting, happroved, hrequested, hrequested ▸ hfresh hnamed⟩
        | _ => trivial
  | pauses hok =>
      obtain ⟨-, rfl⟩ := pauseExternalWaitDurably_eq_ok.mp hok
      refine ⟨hlogged, ?_, trivial, hc.opens⟩
      intro hwaiting
      cases hwaiting
  | stops hgraph hnode hattempt hterminal =>
      refine ⟨hlogged, ?_, hc.opens⟩
      intro hwaiting
      have hexternal : externallyWaiting _ = true := decide_eq_true (.inr hwaiting)
      rw [isTerminal_of_waiting hexternal] at hterminal
      cases hterminal

theorem waitsFit_step (c c' : Config) (h : Step c c') (hc : WaitsFit c)
    (hwaits : Throughout WaitsForItsOwn c'.log) : WaitsFit c' := by
  rcases h with hmove | hexternal
  · exact waitsFit_move hmove hc hwaits
  · exact waitsFit_external hexternal hc

/-- In every history in which no wait begins with the approval of another, an
approval reopens the loop only where it is approved and the loop waits for it,
and reopens it at most once. -/
theorem approvals_open_their_own_waits {stateGraph : List StateTransition}
    {runId goalId : String} {evidence : Dict} {now : Time} {items : List Item}
    (hwaits : Throughout WaitsForItsOwn
      (play (created stateGraph runId goalId evidence now) items).2) :
    Throughout OpensItsOwnWait (play (created stateGraph runId goalId evidence now) items).2
      ∧ (openings (play (created stateGraph runId goalId evidence now) items).2).Nodup := by
  have hstart : WaitsFit
      ⟨createRun stateGraph runId goalId .plan evidence now, [], .outside⟩ := by
    refine ⟨parksAsLogged_outside, ?_, trivial⟩
    intro hwaiting
    cases hwaiting
  have hopens := (Throughout.invariant step_grows waitsFit_step (play_lives _ items) hstart
    hwaits).opens
  exact ⟨hopens, (openings_nodup hopens).1⟩

instance decidableWaitsForItsOwn (earlier : List Event) :
    (event : Event) → Decidable (WaitsForItsOwn earlier event)
  | .committed run request _ =>
      inferInstanceAs (Decidable (request.terminalState = some .waitingApproval →
        (ownApprovalId earlier = "" → ownedApprovalGateId run.evidence = "")
          ∧ (ownApprovalId earlier ≠ "" → ownApprovalId earlier ∉ consumed earlier)))
  | .started _ _ | .executing _ _ | .parking _ _ | .refused _ _ _ | .reopened _ _ _ | .observed _
  | .pausedExternally _ _ => inferInstanceAs (Decidable True)

/-- The reconciliation, once this approval is approved. -/
def approves (approvalId : String) (now : Time) : Item :=
  .reconcilesApprovalWait ⟨some ("run", false), [⟨approvalId, "run", .approved, 1000⟩], false⟩ 0
    now none

/-- A history whose step requests an approval, is approved, and goes on. -/
def approvedStep : List Item :=
  [plainDrive [] ((plainAnswers 1 20).modify 10 fun answer =>
      { answer with executed := .ok { plainExecution with
          action := "run", yieldsControl := true
          facts := [("approval", .obj [("id", .str "approval")])] } }),
    approves "approval" 30]

theorem approvals_open_their_own_waits_approved :
    Throughout OpensItsOwnWait (play plainLoop approvedStep).2
      ∧ (openings (play plainLoop approvedStep).2).Nodup :=
  approvals_open_their_own_waits (by decide +kernel)

/-- A history that goes on with a gate that escalates, and the reconciliation after
it. -/
def escalatedAfterApproval : List Item :=
  approvedStep ++ [plainDrive [] ((plainAnswers 31 20).modify 2 fun answer =>
      { answer with grant := plainGrant .escalate }),
    approves "approval" 60]

/-- The approval of the step opens the wait of the gate too. -/
theorem escalatedAfterApproval_opens_twice :
    ¬ (Throughout OpensItsOwnWait (play plainLoop escalatedAfterApproval).2
      ∧ (openings (play plainLoop escalatedAfterApproval).2).Nodup) := by
  rintro ⟨-, honce⟩
  have htwice : openings (play plainLoop escalatedAfterApproval).2 = ["approval", "approval"] := by
    decide +kernel
  rw [htwice] at honce
  simp at honce

end Navi.StateGraph
