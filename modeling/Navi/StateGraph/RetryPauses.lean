import Navi.StateGraph.History

/-!
# Retryable pauses

The sweep takes a paused loop for retryable if its evidence has a paused retry
gate or a paused resource grant. Evidence is merged and stays, so the pause the
loop is in need not be the one that wrote them. The retry opens the pause that
asked for it in every history in which no pause begins with such a rest.
-/

namespace Navi.StateGraph

open Navi.Base Navi.Loop

/-! ## Pauses -/

inductive Pause where
  | parked (stop : Stop) (entry : LoopNode)
  | external

/-- The last pause that began. A pause from outside begins one only where the
loop waited for approval. -/
def currentPause : List Event → Option Pause
  | [] => none
  | .parking run stop :: _ => some (.parked stop run.node)
  | .pausedExternally run _ :: earlier =>
      if run.terminalState = some .waitingApproval then some .external else currentPause earlier
  | _ :: earlier => currentPause earlier

/-- `_stop_for_resource_grant` with a `PAUSE` grant, or
`_pause_for_provider_transport_retry`. -/
def Stop.retries : Stop → Bool
  | .resourceGrant grant => grant.decision = .pause
  | .plannerTransportRetry _ _ _ | .checkerTransportRetry _ _ _ => true
  | .yielded _ _ | .lockConflict _ | .sideEffectCommit _ => false

/-- The paused retry gate of the evidence. -/
def pausedGate (evidence : Dict) : Option Dict :=
  (evidence.sub "retry_gate").filter fun gate => gate.text "decision" = "pause"

/-- The evidence has neither a paused retry gate nor a paused resource grant. -/
def NothingToRetry (evidence : Dict) : Prop :=
  pausedGate evidence = none ∧ isRetryableResourcePause (evidence.get "resource_grant") = false

/-- A paused retry gate of the evidence resumes at this node. -/
def GateResumesAt (entry : LoopNode) (evidence : Dict) : Prop :=
  ∀ gate ∈ pausedGate evidence, gate.text "resume_node" = entry.text

/-- The evidence a loop brings into a pause has no rest of another: none at all,
or for a resource pause no gate that resumes elsewhere. -/
def BringsNoRest (stop : Stop) (entry : LoopNode) (evidence : Dict) : Prop :=
  match stop with
  | .plannerTransportRetry _ _ _ | .checkerTransportRetry _ _ _ => True
  | .resourceGrant _ => GateResumesAt entry evidence
  | .yielded _ _ | .lockConflict _ | .sideEffectCommit _ => NothingToRetry evidence

/-- The evidence a loop brings into its current pause has no rest of another. -/
def EntersWithoutRest : Option Pause → Dict → Prop
  | some (.parked stop entry), evidence => BringsNoRest stop entry evidence
  | some .external, _ | none, _ => True

/-- Every pause begins with no rest of another in the evidence. -/
def PausesWithoutRest (earlier : List Event) : Event → Prop
  | .committed run request _ =>
      request.terminalState = some .paused →
        EntersWithoutRest (currentPause earlier) run.evidence
  | .pausedExternally run _ =>
      run.terminalState = some .waitingApproval → NothingToRetry run.evidence
  | _ => True

/-- The node the loop was parked from, where its current pause asked for a retry. -/
def retryNode (log : List Event) : Option LoopNode :=
  match currentPause log with
  | some (.parked stop entry) => if stop.retries then some entry else none
  | some .external | none => none

/-- The sweep lists the loop, and a retry reopens it, only in a pause that asked
for a retry; the retry goes on at the node the loop was parked from. -/
structure RetriesItsOwnPause (loop : Lived) : Prop where
  listed : ∀ rows now limit, loop.1.run ∈ listRetryablePauses rows now limit →
    (retryNode loop.2).isSome
  reopened : ∀ now cell', reopenRetryablePause loop.1 now = .ok cell' →
    retryNode loop.2 = some cell'.run.node

/-! ## What the sweep and the reopening read -/

theorem retryDelay_eq (run : LoopRunState) : retryDelay run = match pausedGate run.evidence with
    | some gate => some (retryAfterSeconds gate)
    | none =>
        if run.evidence.text "execution_mode" = "background"
            ∧ isRetryableResourcePause (run.evidence.get "resource_grant") then
          some (retryAfterSeconds ((run.evidence.sub "resource_grant").getD []))
        else none := rfl

theorem listed_spec {rows : List LoopRunState} {now : Time} {limit : Nat} {run : LoopRunState}
    (h : run ∈ listRetryablePauses rows now limit) :
    run.terminalState = some .paused ∧ ¬ NothingToRetry run.evidence := by
  obtain ⟨-, hpaused, hdue⟩ := listRetryablePauses_spec h
  refine ⟨hpaused, ?_⟩
  rintro ⟨hgate, hgrant⟩
  simp [retryDue, retryDelay_eq, hgate, hgrant] at hdue

/-- A reopening that goes through had something to retry, and a loop with a
paused gate resumes where the gate has it. -/
theorem reopened_spec {cell cell' : LoopCell} {now : Time}
    (h : reopenRetryablePause cell now = .ok cell') :
    cell.run.terminalState = some .paused ∧ ¬ NothingToRetry cell.run.evidence
      ∧ (∀ gate ∈ pausedGate cell.run.evidence, cell'.run.node.text = gate.text "resume_node")
      ∧ (pausedGate cell.run.evidence = none →
        cell'.run.node.text = cell.run.evidence.text "resource_resume_node") := by
  have hnode := (reopenRetryablePause_reopens h).node
  unfold reopenRetryablePause at h
  dsimp only at h
  split at h
  next hgate =>
    have hnone : pausedGate cell.run.evidence = none := by simp [pausedGate, hgate]
    simp only [resumeText, hgate] at hnode
    unfold reopenResourcePause at h
    dsimp only at h
    split at h
    · cases h
    next hpaused =>
      simp only [ne_eq, not_or, not_not] at hpaused
      refine ⟨hpaused.1, ?_, by simp [hnone], fun _ => hnode⟩
      intro hnothing
      simp [hnothing.2] at hpaused
  next gate hgate =>
    simp only [resumeText, hgate] at hnode
    split at h
    · cases h
    next hpaused =>
      split at h
      · cases h
      next hdecision =>
        have hsome : pausedGate cell.run.evidence = some gate := by
          simp [pausedGate, hgate, not_not.mp hdecision]
        refine ⟨not_not.mp hpaused, ?_, ?_, ?_⟩
        · intro hnothing
          rw [hnothing.1] at hsome
          cases hsome
        · intro other hother
          obtain rfl := Option.some.inj (hsome.symm.trans hother)
          exact hnode
        · intro hnone
          rw [hnone] at hsome
          cases hsome

/-! ## What a pause leaves in the evidence -/

/-- What there is to retry is what the pause asked for, at the node it was
entered from. -/
def Pause.Fits (pause : Pause) (evidence : Dict) : Prop :=
  match pause with
  | .external => NothingToRetry evidence
  | .parked stop entry =>
      NothingToRetry evidence ∨ stop.retries = true ∧ GateResumesAt entry evidence
        ∧ (pausedGate evidence = none →
          evidence.text "resource_resume_node" = entry.text)

theorem pausedGate_congr {d e : Dict} (h : d.get "retry_gate" = e.get "retry_gate") :
    pausedGate d = pausedGate e := by
  unfold pausedGate
  rw [Dict.sub_congr h]

/-- Evidence that agrees on the three keys of a retry. -/
structure SameRetry (d e : Dict) : Prop where
  gate : d.get "retry_gate" = e.get "retry_gate"
  grant : d.get "resource_grant" = e.get "resource_grant"
  node : d.get "resource_resume_node" = e.get "resource_resume_node"

theorem Pause.Fits.congr {pause : Pause} {d e : Dict} (h : pause.Fits d) (hsame : SameRetry e d) :
    pause.Fits e := by
  have hgate : pausedGate e = pausedGate d := pausedGate_congr hsame.gate
  have hnode := Dict.text_congr hsame.node
  unfold Pause.Fits NothingToRetry GateResumesAt at *
  rw [hgate, hsame.grant, hnode]
  exact h

/-- A transition that says nothing of a gate of its own leaves at most the paused
gate that was there. -/
theorem pausedGate_merge (evidence : Dict) {pending own : Dict} (hpending : Clearance pending)
    (hown : own.get "retry_gate" = none) :
    pausedGate (evidence.merge (pending.merge own)) = none
      ∨ pausedGate (evidence.merge (pending.merge own)) = pausedGate evidence := by
  cases hpending with
  | nothing =>
      right
      apply pausedGate_congr
      rw [Dict.get_merge, Dict.get_merge, hown]
      rfl
  | cleared history =>
      left
      have hnull : (evidence.merge (Dict.merge
          [("retry_gate", .null), ("provider_transport_retry_history", history)] own)).get
          "retry_gate" = some .null := by
        rw [Dict.get_merge, Dict.get_merge, hown]
        rfl
      simp [pausedGate, Dict.sub, hnull, Json.asDict]

theorem Clearance.grant {pending : Dict} (h : Clearance pending) :
    pending.get "resource_grant" = none := by
  cases h <;> rfl

theorem nothingToRetry_merge {evidence pending own : Dict} (h : NothingToRetry evidence)
    (hpending : Clearance pending) (hgate : own.get "retry_gate" = none)
    (hgrant : own.get "resource_grant" = none) :
    NothingToRetry (evidence.merge (pending.merge own)) := by
  refine ⟨?_, ?_⟩
  · rcases pausedGate_merge evidence hpending hgate with hnone | hsame
    · exact hnone
    · exact hsame.trans h.1
  · rw [Dict.get_merge, Dict.get_merge, hgrant, hpending.grant]
    exact h.2

theorem gateResumesAt_merge {evidence pending own : Dict} {entry : LoopNode}
    (h : GateResumesAt entry evidence) (hpending : Clearance pending)
    (hgate : own.get "retry_gate" = none) :
    GateResumesAt entry (evidence.merge (pending.merge own)) := by
  intro gate hmem
  rcases pausedGate_merge evidence hpending hgate with hnone | hsame
  · rw [hnone] at hmem
    cases hmem
  · rw [hsame] at hmem
    exact h gate hmem

theorem fits_of_gate {stop : Stop} {entry : LoopNode} {evidence pending own gate : Dict}
    (hretries : stop.retries = true) (hgate : own.get "retry_gate" = some (.obj gate))
    (hdecision : gate.text "decision" = "pause") (hnode : gate.text "resume_node" = entry.text) :
    (Pause.parked stop entry).Fits (evidence.merge (pending.merge own)) := by
  have hsub : (evidence.merge (pending.merge own)).sub "retry_gate" = some gate :=
    Dict.sub_of_get (Dict.get_merge_of_some (Dict.get_merge_of_some hgate))
  have hpaused : pausedGate (evidence.merge (pending.merge own)) = some gate := by
    simp [pausedGate, hsub, hdecision]
  refine .inr ⟨hretries, ?_, ?_⟩
  · intro other hother
    obtain rfl := Option.some.inj (hpaused.symm.trans hother)
    exact hnode
  · intro hnone
    rw [hpaused] at hnone
    cases hnone

theorem fits_of_parked {stop : Stop} {entry : LoopNode} {evidence pending : Dict}
    (hasks : stop.AsksAt entry) (hpaused : stop.terminal = .paused)
    (hpending : Clearance pending) (hbrings : BringsNoRest stop entry evidence) :
    (Pause.parked stop entry).Fits (evidence.merge (pending.merge (stop.evidence entry))) := by
  cases stop with
  | yielded executed progressSignature =>
      exact .inl (nothingToRetry_merge hbrings hpending rfl rfl)
  | lockConflict lock => exact .inl (nothingToRetry_merge hbrings hpending rfl rfl)
  | sideEffectCommit result => exact .inl (nothingToRetry_merge hbrings hpending rfl rfl)
  | plannerTransportRetry errorType failureFacts gate =>
      exact fits_of_gate rfl rfl hasks.2.1 hasks.2.2
  | checkerTransportRetry failureFacts gate executor =>
      exact fits_of_gate rfl rfl hasks.2.1 hasks.2.2
  | resourceGrant grant =>
      have hretries : Stop.retries (.resourceGrant grant) = true := by
        simp only [Stop.terminal, Stop.node] at hpaused
        by_cases hdecision : grant.decision = .pause
        · simp [Stop.retries, hdecision]
        · simp [hdecision] at hpaused
      refine .inr ⟨hretries, gateResumesAt_merge hbrings hpending rfl, fun _ => ?_⟩
      exact Dict.text_of_get (Dict.get_merge_of_some (Dict.get_merge_of_some rfl))

/-! ## The invariant -/

/-- A loop is parked for its current pause, whose evidence fits it. -/
structure PausesFit (c : Config) : Prop where
  logged : ParksAsLogged c
  parking : ∀ stop entry, c.control = .parking stop entry →
    currentPause c.log = some (.parked stop entry)
  paused : c.cell.run.terminalState = some .paused →
    ∃ pause, currentPause c.log = some pause ∧ pause.Fits c.cell.run.evidence

theorem pausesFit_of_unpaused {c : Config} (hlogged : ParksAsLogged c)
    (houtside : ∀ stop entry, c.control ≠ .parking stop entry)
    (hterminal : c.cell.run.terminalState ≠ some .paused) : PausesFit c :=
  ⟨hlogged, fun stop entry hparking => absurd hparking (houtside stop entry),
    fun hpaused => absurd hpaused hterminal⟩

theorem ne_paused_of_running {run : LoopRunState} (h : run.terminalState = none) :
    run.terminalState ≠ some .paused := by
  rw [h]
  simp

theorem pausesFit_move {c c' : Config} (h : Move c c') (hc : PausesFit c)
    (hrest : Throughout PausesWithoutRest c'.log) : PausesFit c' := by
  have hlogged := parksAsLogged_step (.inl h) hc.logged
  cases h with
  | claims hclaimed =>
      obtain ⟨-, rfl⟩ := claimForExecution_eq_some.mp hclaimed
      exact ⟨hlogged, hc.parking, hc.paused⟩
  | starts evidence hrunning =>
      exact pausesFit_of_unpaused hlogged (fun _ _ => Control.noConfusion)
        (ne_paused_of_running hrunning)
  | leaves => exact ⟨hlogged, fun _ _ hparking => Control.noConfusion hparking, hc.paused⟩
  | checkpoints id node now hinputs => exact ⟨hlogged, hc.parking, hc.paused⟩
  | checkpointsPlan id now hnode => exact ⟨hlogged, hc.parking, hc.paused⟩
  | executes hnode => exact ⟨hlogged, hc.parking, hc.paused⟩
  | observes what => exact ⟨hlogged, hc.parking, hc.paused⟩
  | turnsToPark hasks =>
      have hrunning := hc.logged.running Control.noConfusion
      refine ⟨hlogged, ?_, ?_⟩
      · intro stop entry hparking
        obtain ⟨rfl, rfl⟩ := Control.parking.inj hparking
        rfl
      · intro hpaused
        exact absurd hpaused (ne_paused_of_running hrunning)
  | @commits cell cell' log control control' request pending own now hsite hpending hevidence hok =>
      obtain ⟨-, rfl⟩ := transition_eq_ok.mp hok
      refine ⟨hlogged, fun stop entry hparking => hc.parking stop entry (hsite.parking hparking),
        ?_⟩
      intro hpaused
      have hterminal : request.terminalState = some .paused := hpaused
      rw [hterminal] at hsite
      obtain ⟨stop, entry, hcontrol, hasks, -, hstop, hown⟩ := hsite.suspends rfl
      have hcurrent : currentPause log = some (.parked stop entry) :=
        hc.parking stop entry hcontrol
      have hbrings : BringsNoRest stop entry cell.run.evidence := by
        have henters : EntersWithoutRest (currentPause log) cell.run.evidence :=
          hrest.1 hterminal
        rw [hcurrent] at henters
        exact henters
      refine ⟨.parked stop entry, hcurrent, ?_⟩
      show (Pause.parked stop entry).Fits (cell.run.evidence.merge request.evidence)
      rw [hevidence, hown]
      exact fits_of_parked hasks hstop.symm hpending hbrings
  | refuses hsite herror =>
      exact ⟨hlogged, fun _ _ hparking => Control.noConfusion hparking, hc.paused⟩

theorem pausesFit_external {c c' : Config} (h : External c c') (hc : PausesFit c)
    (hrest : Throughout PausesWithoutRest c'.log) : PausesFit c' := by
  have hlogged := parksAsLogged_step (.inr h) hc.logged
  cases h with
  | leases owner expiresAt updatedAt version => exact ⟨hlogged, hc.parking, hc.paused⟩
  | reopens how hreopened hown =>
      exact pausesFit_of_unpaused hlogged (fun _ _ => Control.noConfusion)
        (ne_paused_of_running hreopened.running)
  | @pauses cell cell' log reason now hok =>
      obtain ⟨hwaiting, rfl⟩ := pauseExternalWaitDurably_eq_ok.mp hok
      have hsame : SameRetry
          (cell.run.evidence.merge
            (externalWaitEvidence "external_wait_paused" cell.run.runId reason))
          cell.run.evidence :=
        ⟨Dict.get_merge_of_none rfl, Dict.get_merge_of_none rfl, Dict.get_merge_of_none rfl⟩
      refine ⟨hlogged, fun _ _ hparking => Control.noConfusion hparking, fun _ => ?_⟩
      by_cases happroval : cell.run.terminalState = some .waitingApproval
      · have hfits : Pause.external.Fits cell.run.evidence := hrest.1 happroval
        refine ⟨.external, ?_, hfits.congr hsame⟩
        rw [currentPause, if_pos happroval]
      · have hpaused : cell.run.terminalState = some .paused := by
          have hcases := of_decide_eq_true hwaiting
          exact hcases.resolve_right happroval
        obtain ⟨pause, hcurrent, hfits⟩ := hc.paused hpaused
        refine ⟨pause, ?_, hfits.congr hsame⟩
        rw [currentPause, if_neg happroval]
        exact hcurrent
  | stops hgraph hnode hattempt hterminal =>
      refine pausesFit_of_unpaused hlogged (fun _ _ => Control.noConfusion) ?_
      intro hpaused
      have hwaiting : externallyWaiting _ = true := decide_eq_true (.inl hpaused)
      rw [isTerminal_of_waiting hwaiting] at hterminal
      cases hterminal

theorem pausesFit_step (c c' : Config) (h : Step c c') (hc : PausesFit c)
    (hrest : Throughout PausesWithoutRest c'.log) : PausesFit c' := by
  rcases h with hmove | hexternal
  · exact pausesFit_move hmove hc hrest
  · exact pausesFit_external hexternal hc hrest

theorem PausesFit.retries {cell : LoopCell} {log : List Event} {control : Control}
    (h : PausesFit ⟨cell, log, control⟩) (hpaused : cell.run.terminalState = some .paused)
    (hsomething : ¬ NothingToRetry cell.run.evidence) :
    ∃ entry, retryNode log = some entry ∧ GateResumesAt entry cell.run.evidence
      ∧ (pausedGate cell.run.evidence = none →
        cell.run.evidence.text "resource_resume_node" = entry.text) := by
  obtain ⟨pause, hcurrent, hfits⟩ := h.paused hpaused
  have hlog : currentPause log = some pause := hcurrent
  cases pause with
  | external => exact absurd hfits hsomething
  | parked stop entry =>
      obtain ⟨hretries, hgate, hnode⟩ := hfits.resolve_left hsomething
      refine ⟨entry, ?_, hgate, hnode⟩
      rw [retryNode, hlog]
      exact if_pos hretries

theorem PausesFit.retriesItsOwnPause {cell : LoopCell} {log : List Event} {control : Control}
    (h : PausesFit ⟨cell, log, control⟩) : RetriesItsOwnPause (cell, log) := by
  constructor
  · intro rows now limit hlisted
    obtain ⟨hpaused, hsomething⟩ := listed_spec hlisted
    obtain ⟨entry, hretry, -⟩ := h.retries hpaused hsomething
    exact Option.isSome_iff_exists.mpr ⟨entry, hretry⟩
  · intro now cell' hreopened
    obtain ⟨hpaused, hsomething, hgated, hungated⟩ := reopened_spec hreopened
    obtain ⟨entry, hretry, hgate, hnode⟩ := h.retries hpaused hsomething
    have hentry : cell'.run.node.text = entry.text := by
      cases hpausedGate : pausedGate cell.run.evidence with
      | none => exact (hungated hpausedGate).trans (hnode hpausedGate)
      | some gate => exact (hgated gate hpausedGate).trans (hgate gate hpausedGate)
    have hsame : cell'.run.node = entry := LoopNode.text_injective hentry
    rw [hsame]
    exact hretry

/-- After every history whose pauses begin with no rest of another, only a pause
that asked for a retry is listed and reopened, at its own node. -/
theorem retries_open_their_own_pause {stateGraph : List StateTransition} {runId goalId : String}
    {evidence : Dict} {now : Time} {items : List Item}
    (hrest : Throughout PausesWithoutRest
      (play (created stateGraph runId goalId evidence now) items).2) :
    RetriesItsOwnPause (play (created stateGraph runId goalId evidence now) items) := by
  have hstart : PausesFit
      ⟨createRun stateGraph runId goalId .plan evidence now, [], .outside⟩ :=
    pausesFit_of_unpaused parksAsLogged_outside (fun _ _ => Control.noConfusion)
      (ne_paused_of_running rfl)
  exact (Throughout.invariant step_grows pausesFit_step (play_lives _ items) hstart
    hrest).retriesItsOwnPause

instance decidableNothingToRetry (evidence : Dict) : Decidable (NothingToRetry evidence) :=
  inferInstanceAs (Decidable (_ ∧ _))

instance decidableGateResumesAt (entry : LoopNode) (evidence : Dict) :
    Decidable (GateResumesAt entry evidence) :=
  inferInstanceAs (Decidable
    (∀ gate ∈ pausedGate evidence, gate.text "resume_node" = entry.text))

instance decidableEntersWithoutRest :
    (pause : Option Pause) → (evidence : Dict) → Decidable (EntersWithoutRest pause evidence)
  | some (.parked (.resourceGrant _) entry), evidence =>
      inferInstanceAs (Decidable (GateResumesAt entry evidence))
  | some (.parked (.yielded _ _) _), evidence | some (.parked (.lockConflict _) _), evidence
  | some (.parked (.sideEffectCommit _) _), evidence =>
      inferInstanceAs (Decidable (NothingToRetry evidence))
  | some (.parked (.plannerTransportRetry _ _ _) _), _
  | some (.parked (.checkerTransportRetry _ _ _) _), _ | some .external, _ | none, _ =>
      inferInstanceAs (Decidable True)

instance decidablePausesWithoutRest (earlier : List Event) :
    (event : Event) → Decidable (PausesWithoutRest earlier event)
  | .committed run request _ =>
      inferInstanceAs (Decidable (request.terminalState = some .paused →
        EntersWithoutRest (currentPause earlier) run.evidence))
  | .pausedExternally run _ =>
      inferInstanceAs (Decidable
        (run.terminalState = some .waitingApproval → NothingToRetry run.evidence))
  | .started _ _ | .executing _ _ | .parking _ _ | .refused _ _ _ | .reopened _ _ _
  | .observed _ =>
      inferInstanceAs (Decidable True)

/-- A history whose gate pauses the loop at `EXECUTE`. -/
def pausedAtExecute : List Item :=
  [plainDrive [] ((plainAnswers 1 20).modify 8 fun answer =>
    { answer with grant := plainGrant .pause })]

theorem retries_open_their_own_pause_paused :
    RetriesItsOwnPause (play plainLoop pausedAtExecute) :=
  retries_open_their_own_pause (by decide +kernel)

/-- A history whose loop is retried after that, and then asks the user. -/
def askedAfterRetry : List Item :=
  pausedAtExecute ++ [.reopensRetryablePause 30,
    plainDrive [("planned_capability", .obj (plainStep "read").toDict)]
      ((plainAnswers 31 20).modify 4 fun answer =>
        { answer with
          executed := .ok { plainExecution with action := "ask", yieldsControl := true } })]

/-- The loop that asks the user is reopened by a retry of the pause before. -/
theorem askedAfterRetry_reopens : ¬ RetriesItsOwnPause (play plainLoop askedAfterRetry) := by
  intro hretries
  have hopens : (reopenRetryablePause (play plainLoop askedAfterRetry).1 60).toOption.isSome := by
    decide +kernel
  have hasked : retryNode (play plainLoop askedAfterRetry).2 = none := by decide +kernel
  obtain ⟨cell', hcell⟩ := Option.isSome_iff_exists.mp hopens
  have hreopened : reopenRetryablePause (play plainLoop askedAfterRetry).1 60 = .ok cell' := by
    cases hend : reopenRetryablePause (play plainLoop askedAfterRetry).1 60 with
    | error error =>
        rw [hend] at hcell
        cases hcell
    | ok found =>
        rw [hend] at hcell
        rw [Option.some.inj hcell]
  have hnode := hretries.reopened 60 cell' hreopened
  rw [hasked] at hnode
  cases hnode

end Navi.StateGraph
