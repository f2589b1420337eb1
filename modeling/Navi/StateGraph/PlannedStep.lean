import Navi.StateGraph.History

/-!
# The planned step across suspensions

The step the executor gets is the one the attempt's `PLAN` pass persisted, in
every history in which a call that starts at `EXECUTE` finds that step again. It
looks for it in the newest `EXECUTE` checkpoint of the whole loop, which an
attempt that is parked before its own checkpoint has not written yet.
-/

namespace Navi.StateGraph

open Navi.Base Navi.Loop

/-- The step an attempt's newest `plan_ready` persisted. -/
def planOf (attempt : Nat) : List Event → Option Json
  | [] => none
  | .committed run request _ :: earlier =>
      if request.condition = "plan_ready" ∧ run.attempt = attempt then
        request.evidence.get "planned_capability"
      else planOf attempt earlier
  | _ :: earlier => planOf attempt earlier

/-- The executor gets the step its attempt planned. -/
def ExecutesItsPlan (earlier : List Event) : Event → Prop
  | .executing run step => ∀ raw ∈ planOf run.attempt earlier, raw = .obj step.toDict
  | _ => True

/-- Where a call that starts at `EXECUTE` looks for its step: the newest `EXECUTE`
checkpoint, or the evidence of the call when there is none. -/
def resumedPlan (cell : LoopCell) (evidence : Dict) : Option Json :=
  match latestCheckpoint cell .execute "planned_capability" with
  | some checkpoint => checkpoint.inputs.get "planned_capability"
  | none => evidence.get "planned_capability"

/-- A call that starts at `EXECUTE` after a `plan_ready` of its attempt finds
nothing there, or the step of the loop's evidence, which reads back as it was
written. -/
def ResumesItsPlan (earlier : List Event) : Event → Prop
  | .started cell evidence =>
      cell.run.node = .execute → (planOf cell.run.attempt earlier).isSome →
        resumedPlan cell evidence = none
          ∨ ∃ step : PlannedCapabilityStep, step.Normalised
            ∧ resumedPlan cell evidence = some (.obj step.toDict)
            ∧ cell.run.evidence.get "planned_capability" = some (.obj step.toDict)
  | _ => True

/-! ## What a call finds -/

theorem laterCheckpoint_foldl {checkpoints : List LoopCheckpoint}
    {best checkpoint : LoopCheckpoint} {P : LoopCheckpoint → Prop}
    (hbest : P best) (hall : ∀ c ∈ checkpoints, P c)
    (h : checkpoints.foldl laterCheckpoint (some best) = some checkpoint) : P checkpoint := by
  induction checkpoints generalizing best with
  | nil =>
      obtain rfl := Option.some.inj h
      exact hbest
  | cons first rest ih =>
      have hfirst := hall first List.mem_cons_self
      have hrest : ∀ c ∈ rest, P c := fun c hc => hall c (List.mem_cons_of_mem _ hc)
      rw [List.foldl_cons] at h
      by_cases hlater : best.createdAt ≤ first.createdAt
      · exact ih hfirst hrest (by simpa only [laterCheckpoint, if_pos hlater] using h)
      · exact ih hbest hrest (by simpa only [laterCheckpoint, if_neg hlater] using h)

theorem latestCheckpoint_get {cell : LoopCell} {node : LoopNode} {key : String}
    {checkpoint : LoopCheckpoint} (h : latestCheckpoint cell node key = some checkpoint) :
    (checkpoint.inputs.get key).isSome := by
  unfold latestCheckpoint at h
  generalize hfound : cell.checkpoints.filter _ = found at h
  have hall : ∀ c ∈ found, (c.inputs.get key).isSome := by
    intro c hc
    rw [← hfound] at hc
    have hmatches := (List.mem_filter.mp hc).2
    simp only [Bool.decide_and, Bool.and_eq_true, decide_eq_true_eq] at hmatches
    exact hmatches.2
  cases found with
  | nil => cases h
  | cons first rest =>
      exact laterCheckpoint_foldl (hall first List.mem_cons_self)
        (fun c hc => hall c (List.mem_cons_of_mem _ hc)) h

theorem startingStep_of_none {cell : LoopCell} {evidence : Dict}
    (h : resumedPlan cell evidence = none) : startingStep cell evidence = none := by
  unfold resumedPlan at h
  unfold startingStep plannedStepFromCheckpoint
  cases hlatest : latestCheckpoint cell .execute "planned_capability" with
  | some checkpoint =>
      have hsome := latestCheckpoint_get hlatest
      rw [hlatest] at h
      rw [show checkpoint.inputs.get "planned_capability" = none from h] at hsome
      cases hsome
  | none =>
      rw [hlatest] at h
      simp [show evidence.get "planned_capability" = none from h, plannedStepFromRaw]

theorem startingStep_of_resumed {cell : LoopCell} {evidence : Dict} {step : PlannedCapabilityStep}
    (hnode : cell.run.node = .execute) (hstep : step.Normalised)
    (h : resumedPlan cell evidence = some (.obj step.toDict)) :
    startingStep cell evidence = some step := by
  have hreads := plannedStepFromRaw_toDict hstep
  unfold resumedPlan at h
  unfold startingStep plannedStepFromCheckpoint
  rw [if_pos hnode]
  cases hlatest : latestCheckpoint cell .execute "planned_capability" with
  | some checkpoint =>
      rw [hlatest] at h
      have hcheckpoint : checkpoint.inputs.get "planned_capability" = some (.obj step.toDict) := h
      show (plannedStepFromRaw (checkpoint.inputs.get "planned_capability")).or _ = some step
      rw [hcheckpoint, hreads]
      rfl
  | none =>
      rw [hlatest] at h
      have hevidence : evidence.get "planned_capability" = some (.obj step.toDict) := h
      show Option.or none (plannedStepFromRaw (evidence.get "planned_capability")) = some step
      rw [hevidence, hreads]
      rfl

/-! ## What a transition persists -/

theorem Clearance.plan {pending : Dict} (h : Clearance pending) :
    pending.get "planned_capability" = none := by
  cases h <;> rfl

theorem Stop.evidence_plan (stop : Stop) (node : LoopNode) :
    (stop.evidence node).get "planned_capability" = none := by
  cases stop <;> rfl

theorem Stop.first_ne_planReady (stop : Stop) : stop.first ≠ "plan_ready" := by
  unfold Stop.first
  split <;> (try split) <;> simp

theorem Stop.second_ne_planReady (stop : Stop) : stop.second ≠ "plan_ready" := by
  unfold Stop.second
  split <;> (try split) <;> simp

section

variable {node node' : LoopNode} {control control' : Control}
  {terminal : Option LoopTerminalState} {condition : String} {own : Dict}

theorem Site.planReady_eq (h : Site node control node' terminal condition own control')
    (hready : condition = "plan_ready") :
    ∃ step, node = .plan ∧ node' = .execute ∧ control' = .inside (some step)
      ∧ own.get "planned_capability" = some (.obj step.toDict) := by
  cases h with
  | planReady step clearance hclearance =>
      refine ⟨step, rfl, rfl, rfl, ?_⟩
      rw [Dict.get_merge, hclearance.plan]
      rfl
  | parks hasks => exact absurd hready (Stop.first_ne_planReady _)
  | parked hasks => exact absurd hready (Stop.second_ne_planReady _)
  | _ => simp at hready

/-- Any other transition leaves the persisted step alone, and ends a call that
it leaves at `EXECUTE`. -/
theorem Site.keepsPlan (h : Site node control node' terminal condition own control')
    (hready : condition ≠ "plan_ready") :
    own.get "planned_capability" = none ∧ (node' = .execute → control' = .outside) := by
  cases h with
  | planReady step clearance hclearance => exact absurd rfl hready
  | resourceBlocked grant hnode => exact ⟨Stop.evidence_plan _ _, fun _ => rfl⟩
  | parks hasks =>
      refine ⟨Stop.evidence_plan _ _, ?_⟩
      intro hnode
      rcases Stop.node_eq _ with hpause | hescalate
      · rw [hpause] at hnode
        cases hnode
      · rw [hescalate] at hnode
        cases hnode
  | parked hasks => exact ⟨Stop.evidence_plan _ _, fun _ => rfl⟩
  | repeatedProgress signature repeated => exact ⟨rfl, fun _ => rfl⟩
  | _ => exact ⟨rfl, LoopNode.noConfusion⟩

end

/-! ## The invariant -/

/-- Plans are of attempts that have begun, the row carries the plan of its own
attempt, and a call at `EXECUTE` has it in hand. -/
structure PlanSurvives (c : Config) : Prop where
  begun : ∀ attempt raw, planOf attempt c.log = some raw → attempt ≤ c.cell.run.attempt
  persisted : c.cell.run.isTerminal = false → ∀ raw, planOf c.cell.run.attempt c.log = some raw →
    c.cell.run.evidence.get "planned_capability" = some raw
  inHand : ∀ step, c.control = .inside (some step) → c.cell.run.node = .execute →
    ∀ raw, planOf c.cell.run.attempt c.log = some raw → raw = .obj step.toDict
  executed : Throughout ExecutesItsPlan c.log

theorem planSurvives_commits {cell : LoopCell} {log : List Event} {control control' : Control}
    {request : TransitionRequest} {pending own : Dict} {now : Time}
    (hc : PlanSurvives ⟨cell, log, control⟩) (hrunning : cell.run.terminalState = none)
    (hsite : Site cell.run.node control request.node request.terminalState request.condition own
      control')
    (hpending : Clearance pending) (hevidence : request.evidence = pending.merge own) :
    PlanSurvives ⟨{ cell with run := moved cell.run request now },
      .committed cell.run request (moved cell.run request now) :: log, control'⟩ := by
  obtain ⟨hbegun, hpersisted, -, hexecuted⟩ := hc
  have hmoves := le_nextAttempt cell.run.node request.node cell.run.attempt
  have hlookup : request.evidence.get "planned_capability" = own.get "planned_capability" := by
    rw [hevidence, Dict.get_merge, hpending.plan, Option.or_none]
  by_cases hready : request.condition = "plan_ready"
  · obtain ⟨step, hplan, hexecute, hcontrol, hown⟩ := hsite.planReady_eq hready
    have hattempt : nextAttempt cell.run.node request.node cell.run.attempt = cell.run.attempt := by
      rw [hplan, hexecute]
      rfl
    have hplanned : ∀ raw, planOf cell.run.attempt
        (.committed cell.run request (moved cell.run request now) :: log) = some raw →
        raw = .obj step.toDict := by
      intro raw hraw
      rw [planOf, if_pos ⟨hready, rfl⟩, hlookup, hown] at hraw
      exact (Option.some.inj hraw).symm
    refine ⟨?_, ?_, ?_,
      trivial, hexecuted⟩
    · intro attempt raw hraw
      show attempt ≤ nextAttempt cell.run.node request.node cell.run.attempt
      rw [planOf] at hraw
      split at hraw
      next hnewest => omega
      next => exact le_trans (hbegun attempt raw hraw) hmoves
    · intro _ raw hraw
      rw [show (moved cell.run request now).attempt = cell.run.attempt from hattempt] at hraw
      rw [hplanned raw hraw]
      exact Dict.get_merge_of_some (hlookup.trans hown)
    · intro step' hstep' _ raw hraw
      rw [show (moved cell.run request now).attempt = cell.run.attempt from hattempt] at hraw
      rw [hcontrol] at hstep'
      obtain rfl := Option.some.inj (Control.inside.inj hstep')
      exact hplanned raw hraw
  · obtain ⟨hown, hleaves⟩ := hsite.keepsPlan hready
    have hplanOf : ∀ attempt, planOf attempt
        (.committed cell.run request (moved cell.run request now) :: log)
        = planOf attempt log := by
      intro attempt
      rw [planOf, if_neg fun hnewest => hready hnewest.1]
    refine ⟨?_, ?_, ?_,
      trivial, hexecuted⟩
    · intro attempt raw hraw
      rw [hplanOf] at hraw
      exact le_trans (hbegun attempt raw hraw) hmoves
    · intro _ raw hraw
      rw [hplanOf] at hraw
      -- a plan of the attempt the move begins would be from the future
      have hle : nextAttempt cell.run.node request.node cell.run.attempt ≤ cell.run.attempt :=
        hbegun _ raw hraw
      have hsame : (moved cell.run request now).attempt = cell.run.attempt :=
        le_antisymm hle hmoves
      rw [hsame] at hraw
      show (cell.run.evidence.merge request.evidence).get "planned_capability" = some raw
      rw [Dict.get_merge_of_none (hlookup.trans hown)]
      exact hpersisted (LoopRunState.isTerminal_of_running hrunning) raw hraw
    · intro step hstep hnode
      rw [hleaves hnode] at hstep
      cases hstep

theorem planSurvives_move {c c' : Config} (h : Move c c') (hc : PlanSurvives c)
    (hresumes : Throughout ResumesItsPlan c'.log) : PlanSurvives c' := by
  obtain ⟨hbegun, hpersisted, hinHand, hexecuted⟩ := hc
  cases h with
  | claims hclaimed =>
      obtain ⟨-, rfl⟩ := claimForExecution_eq_some.mp hclaimed
      exact ⟨hbegun, hpersisted, hinHand, hexecuted⟩
  | starts evidence hrunning =>
      refine ⟨hbegun, hpersisted, ?_, trivial, hexecuted⟩
      intro step hstep hnode raw hraw
      rcases hresumes.1 hnode (by rw [Option.isSome_iff_exists]; exact ⟨raw, hraw⟩) with
        hnothing | ⟨found, hnormalised, hresumed, hrow⟩
      · rw [startingStep_of_none hnothing] at hstep
        cases hstep
      · rw [startingStep_of_resumed hnode hnormalised hresumed] at hstep
        obtain rfl := Option.some.inj (Control.inside.inj hstep)
        have hraw := hpersisted (LoopRunState.isTerminal_of_running hrunning) raw hraw
        exact Option.some.inj (hraw.symm.trans hrow)
  | leaves => exact ⟨hbegun, hpersisted, fun _ hstep => Control.noConfusion hstep, hexecuted⟩
  | checkpoints id node now hinputs => exact ⟨hbegun, hpersisted, hinHand, hexecuted⟩
  | checkpointsPlan id now hnode => exact ⟨hbegun, hpersisted, hinHand, hexecuted⟩
  | executes hnode =>
      exact ⟨hbegun, hpersisted, hinHand, fun raw hraw => hinHand _ rfl hnode raw hraw, hexecuted⟩
  | observes what => exact ⟨hbegun, hpersisted, hinHand, trivial, hexecuted⟩
  | turnsToPark hasks =>
      exact ⟨hbegun, hpersisted, fun _ hstep => Control.noConfusion hstep, trivial, hexecuted⟩
  | commits hsite hpending hevidence hok =>
      obtain ⟨hpermitted, rfl⟩ := transition_eq_ok.mp hok
      exact planSurvives_commits ⟨hbegun, hpersisted, hinHand, hexecuted⟩ hpermitted.running hsite
        hpending hevidence
  | refuses hsite herror =>
      exact ⟨hbegun, hpersisted, fun _ hstep => Control.noConfusion hstep, trivial, hexecuted⟩

theorem planSurvives_external {c c' : Config} (h : External c c') (hc : PlanSurvives c) :
    PlanSurvives c' := by
  obtain ⟨hbegun, hpersisted, hinHand, hexecuted⟩ := hc
  cases h with
  | leases owner expiresAt updatedAt version => exact ⟨hbegun, hpersisted, hinHand, hexecuted⟩
  | reopens how hreopens hown =>
      refine ⟨?_, ?_,
        fun _ hstep => Control.noConfusion hstep, trivial, hexecuted⟩
      · intro attempt raw hraw
        rw [hreopens.attempt]
        exact hbegun attempt raw hraw
      · intro _ raw hraw
        rw [hreopens.attempt] at hraw
        rw [hreopens.evidence "planned_capability" (by decide) (by decide)]
        exact hpersisted (isTerminal_of_waiting hreopens.waiting) raw hraw
  | pauses hok =>
      obtain ⟨hwaiting, rfl⟩ := pauseExternalWaitDurably_eq_ok.mp hok
      refine ⟨hbegun, ?_, fun _ hstep => Control.noConfusion hstep, trivial,
        hexecuted⟩
      intro _ raw hraw
      exact (Dict.get_merge_of_none rfl).trans
        (hpersisted (isTerminal_of_waiting hwaiting) raw hraw)
  | stops hgraph hnode hattempt hterminal =>
      refine ⟨?_, ?_, fun _ hstep => Control.noConfusion hstep,
        hexecuted⟩
      · intro attempt raw hraw
        rw [hattempt]
        exact hbegun attempt raw hraw
      · intro hopen
        rw [hterminal] at hopen
        cases hopen

theorem planSurvives_step (c c' : Config) (h : Step c c') (hc : PlanSurvives c)
    (hresumes : Throughout ResumesItsPlan c'.log) : PlanSurvives c' := by
  rcases h with hmove | hexternal
  · exact planSurvives_move hmove hc hresumes
  · exact planSurvives_external hexternal hc

/-- In every history in which each call that starts at `EXECUTE` finds the step
of its attempt again, the executor gets the step that its attempt planned. -/
theorem executor_gets_its_plan {stateGraph : List StateTransition} {runId goalId : String}
    {evidence : Dict} {now : Time} {items : List Item}
    (hresumes : Throughout ResumesItsPlan
      (play (created stateGraph runId goalId evidence now) items).2) :
    Throughout ExecutesItsPlan (play (created stateGraph runId goalId evidence now) items).2 := by
  have hstart : PlanSurvives
      ⟨createRun stateGraph runId goalId .plan evidence now, [], .outside⟩ := by
    refine ⟨?_, ?_, ?_, trivial⟩
    · intro attempt raw hraw
      cases hraw
    · intro hopen raw hraw
      cases hraw
    · intro step hstep
      cases hstep
  exact (Throughout.invariant step_grows planSurvives_step (play_lives _ items) hstart
    hresumes).executed

instance decidableExecutesItsPlan (earlier : List Event) :
    (event : Event) → Decidable (ExecutesItsPlan earlier event)
  | .executing run step =>
      inferInstanceAs (Decidable (∀ raw ∈ planOf run.attempt earlier, raw = .obj step.toDict))
  | .started _ _ | .parking _ _ | .committed _ _ _ | .refused _ _ _ | .reopened _ _ _ | .observed _
  | .pausedExternally _ _ => inferInstanceAs (Decidable True)

/-- A call that starts at `EXECUTE` finds this step. -/
def ResumesStep (step : PlannedCapabilityStep) (_earlier : List Event) : Event → Bool
  | .started cell evidence =>
      cell.run.node ≠ .execute
        ∨ (resumedPlan cell evidence = some (.obj step.toDict)
          ∧ cell.run.evidence.get "planned_capability" = some (.obj step.toDict))
  | _ => true

theorem ResumesStep.resumes (step : PlannedCapabilityStep) (hstep : step.Normalised)
    {log : List Event}
    (h : Throughout (fun earlier event => ResumesStep step earlier event = true) log) :
    Throughout ResumesItsPlan log := by
  refine h.imp ?_
  intro earlier event hevent
  cases event with
  | started cell evidence =>
      intro hnode _
      simp only [ResumesStep, decide_eq_true_eq] at hevent
      rcases hevent with hother | ⟨hresumed, hrow⟩
      · exact absurd hnode hother
      · exact .inr ⟨step, hstep, hresumed, hrow⟩
  | _ => trivial

/-- A history whose loop is parked at the gate of `EXECUTE` in its first attempt,
and retried with its evidence. -/
def retriedAtExecute : List Item :=
  [plainDrive [] ((plainAnswers 1 20).modify 8 fun answer =>
      { answer with grant := plainGrant .pause }),
    .reopensRetryablePause 30,
    plainDrive [("planned_capability", .obj (plainStep "read").toDict)] (plainAnswers 31 30)]

theorem executor_gets_its_plan_retried :
    Throughout ExecutesItsPlan (play plainLoop retriedAtExecute).2 :=
  executor_gets_its_plan (ResumesStep.resumes (plainStep "read")
    ⟨by decide, by decide, by decide, by decide⟩ (by decide +kernel))

/-- A history whose first step fails, and whose loop is parked at the gate of
`EXECUTE` in its second attempt and retried with its evidence. -/
def retriedInSecondAttempt : List Item :=
  [plainDrive [] ((((plainAnswers 1 40).modify 10 fun answer =>
        { answer with executed := .ok { plainExecution with ok := false } }).modify 22 fun answer =>
        { answer with planned := .ok (plainStep "write") }).modify 26 fun answer =>
        { answer with grant := plainGrant .pause }),
    .reopensRetryablePause 50,
    plainDrive [("planned_capability", .obj (plainStep "write").toDict)] (plainAnswers 51 30)]

/-- The retried second attempt executes the step of the first. -/
theorem retriedInSecondAttempt_executes_first :
    ¬ Throughout ExecutesItsPlan (play plainLoop retriedInSecondAttempt).2 := by
  decide +kernel

end Navi.StateGraph
