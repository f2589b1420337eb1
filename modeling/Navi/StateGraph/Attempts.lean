import Navi.StateGraph.History

/-!
# Attempts

The bound on the attempts of a loop and on the planning passes of a call. Every
edge back to `PLAN` costs an attempt and is taken only while one is left, so the
attempt is what grows along every cycle of the graph.
-/

namespace Navi.StateGraph

open Navi.Base Navi.Loop

/-- A planning pass: the runner starts its phases at `PLAN`. -/
def Event.plans : Event → Bool
  | .started cell _ => cell.run.node = .plan
  | _ => false

def planningPasses (log : List Event) : Nat := log.countP Event.plans

/-- The runner's ports let the model plan again only while an attempt is left. -/
structure RecoveryPorts.Bounded (ports : RecoveryPorts) : Prop where
  contractViolation : ∀ {answer : Answer} {spec : LoopSpec} {state : LoopRunState}
    {errorType message : String} {failureFacts : Dict},
    (ports.contractViolation answer spec state errorType message failureFacts).replanAllowed = true
      → state.attempt < spec.maxAttempts
  capability : ∀ {answer : Answer} {spec : LoopSpec} {state : LoopRunState}
    {executed : ExecutedCapabilityStep},
    (ports.capability answer spec state executed).replanAllowed = true
      → state.attempt < spec.maxAttempts
  reflector : ∀ {answer : Answer} {spec : LoopSpec} {state : LoopRunState} {report : CheckerReport},
    (ports.reflector answer spec state report).replanAllowed = true
      → state.attempt < spec.maxAttempts

theorem RecoveryPorts.own_bounded (floats : Json.FloatText) :
    (RecoveryPorts.own floats).Bounded where
  contractViolation h := contractViolationRecover_replans h
  capability h := capabilityRecover_replans h
  reflector h := recoveryReflect_replans h

theorem Stop.node_ne_plan (stop : Stop) : stop.node ≠ .plan := by
  rcases stop.node_eq with hnode | hnode <;> simp [hnode]

/-! ## What holds in a call -/

section

variable {r : Runner} {a n : Nat} {source : LoopNode} {state : LoopRunState}

/-- The driver's row is the loop's, in this attempt and at this node. -/
structure Driven (a n : Nat) (source : LoopNode) (state : LoopRunState) (w : World) : Prop where
  row : w.cell.run = state
  attempt : state.attempt = a
  node : state.node = source
  passes : planningPasses w.log = n

/-- The loop is in an attempt from `a` on that the specification allows. -/
structure Within (r : Runner) (a n : Nat) (w : World) : Prop where
  lower : a ≤ w.cell.run.attempt
  upper : w.cell.run.attempt ≤ r.spec.maxAttempts
  passes : planningPasses w.log = n

/-- The call ends early, and not by the semantic checker. -/
structure Halted (r : Runner) (a n : Nat) (halt : Halt) (w : World) : Prop where
  other : halt.isCheckerCall = false
  within : Within r a n w

/-- A call returns the loop's row; if the loop is to be planned again, in a later
attempt. -/
structure Returned (r : Runner) (a n : Nat) (result : LoopRunState) (w : World) : Prop where
  within : Within r a n w
  row : w.cell.run = result
  later : result.node = .plan → result.terminalState = none → a < result.attempt

/-- A phase returned a result, or goes on with a value that meets `P`. -/
def Goes {α : Type} (r : Runner) (a n : Nat) (P : α → World → Prop) : Next α → World → Prop
  | .result result, w => Returned r a n result w
  | .goOn value, w => P value w

theorem Driven.within {w : World} (h : Driven a n source state w)
    (hbound : a ≤ r.spec.maxAttempts) : Within r a n w := by
  have hattempt : w.cell.run.attempt = a := by rw [h.row, h.attempt]
  exact ⟨hattempt.ge, by rw [hattempt]; exact hbound, h.passes⟩

theorem Driven.noted {w : World} (h : Driven a n source state w) {event : Event}
    (hevent : event.plans = false) :
    Driven a n source state { w with log := event :: w.log } := by
  refine ⟨h.row, h.attempt, h.node, ?_⟩
  have hskip : planningPasses (event :: w.log) = planningPasses w.log :=
    List.countP_cons_of_neg (by simp [hevent])
  exact hskip.trans h.passes

end

/-! ## Operations -/

section

variable {r : Runner} {a n : Nat} {source : LoopNode} {state : LoopRunState}
  (hbound : a ≤ r.spec.maxAttempts)
include hbound

theorem ask_driven : Triple (Driven a n source state) ask (fun _ => Driven a n source state)
    (Halted r a n) := by
  intro w hw
  rw [ask_eq]
  cases w.answers with
  | nil => exact ⟨rfl, hw.within hbound⟩
  | cons answer rest => exact ⟨hw.row, hw.attempt, hw.node, hw.passes⟩

theorem askPort_driven {α : Type} (port : Answer → Except String α) :
    Triple (Driven a n source state) (askPort port) (fun _ => Driven a n source state)
      (Halted r a n) := by
  refine Triple.bind (ask_driven hbound) ?_
  intro answer
  split
  · exact Triple.pure fun _ hw => hw
  · exact Triple.throw fun _ hw => ⟨rfl, hw.within hbound⟩

omit hbound in
theorem collect_driven (change : Dict → Dict) :
    Triple (Driven a n source state) (collect change) (fun _ => Driven a n source state)
      (Halted r a n) :=
  Triple.modify fun _ hw => ⟨hw.row, hw.attempt, hw.node, hw.passes⟩

omit hbound in
theorem collected_driven : Triple (Driven a n source state) collected
    (fun _ => Driven a n source state) (Halted r a n) :=
  Triple.bind (Triple.get fun _ hw => hw) fun _ => Triple.pure fun _ hw => hw

omit hbound in
theorem note_driven {event : Event} (hevent : event.plans = false) :
    Triple (Driven a n source state) (note event) (fun _ => Driven a n source state)
      (Halted r a n) :=
  Triple.modify fun _ hw => hw.noted hevent

omit hbound in
theorem observe_driven (what : Observation) :
    Triple (Driven a n source state) (observe what) (fun _ => Driven a n source state)
      (Halted r a n) :=
  note_driven rfl

theorem writeCheckpoint_driven (node : LoopNode) (inputs : Dict) :
    Triple (Driven a n source state) (writeCheckpoint node inputs)
      (fun _ => Driven a n source state) (Halted r a n) := by
  refine Triple.bind (ask_driven hbound) ?_
  intro answer
  exact Triple.bind (Triple.modify fun _ hw => ⟨hw.row, hw.attempt, hw.node, hw.passes⟩)
    fun _ => Triple.pure fun _ hw => hw

theorem checkLeaseRenewal_driven : Triple (Driven a n source state) checkLeaseRenewal
    (fun _ => Driven a n source state) (Halted r a n) := by
  refine Triple.bind (ask_driven hbound) ?_
  intro answer
  split
  · exact Triple.throw fun _ hw => ⟨rfl, hw.within hbound⟩
  · exact Triple.pure fun _ hw => hw

theorem storeTransition_driven (request : TransitionRequest) :
    Triple (Driven a n source state) (storeTransition request)
      (fun next w => Driven (nextAttempt source request.node a) n request.node next w
        ∧ next.terminalState = request.terminalState) (Halted r a n) := by
  refine Triple.bind (ask_driven hbound) ?_
  intro answer
  refine Triple.bind Triple.get_self ?_
  intro found
  split
  next cell hok =>
    refine Triple.bind (Triple.set ?_) fun _ => Triple.pure fun _ hw => hw
    intro w hw
    obtain ⟨rfl, hdriven⟩ := hw
    have hnoted := @Driven.noted _ _ _ _ _ hdriven
      (.committed found.cell.run request cell.run) rfl
    obtain ⟨rfl, rfl, rfl, hpasses⟩ := hnoted
    obtain ⟨-, rfl⟩ := transition_eq_ok.mp hok
    exact ⟨⟨rfl, rfl, rfl, hpasses⟩, rfl⟩
  next error herror =>
    refine Triple.bind (Triple.modify ?_) fun _ => Triple.throw fun _ hw => hw
    intro w hw
    exact ⟨rfl, (hw.2.noted rfl).within hbound⟩

theorem transition_driven (node : LoopNode) (condition : String)
    (terminalState : Option LoopTerminalState) (evidence : Dict) :
    Triple (Driven a n source state) (transition r state node condition terminalState evidence)
      (fun next w => Driven (nextAttempt source node a) n node next w
        ∧ next.terminalState = terminalState) (Halted r a n) := by
  refine Triple.bind (checkLeaseRenewal_driven hbound) fun _ => ?_
  refine Triple.bind (writeCheckpoint_driven hbound _ _) ?_
  intro checkpointId
  refine Triple.bind (Triple.get fun _ hw => hw) ?_
  intro found
  refine Triple.bind (storeTransition_driven hbound _) ?_
  intro next
  exact Triple.bind (Triple.modify fun _ hw => ⟨⟨hw.1.row, hw.1.attempt, hw.1.node, hw.1.passes⟩,
    hw.2⟩) fun _ => Triple.pure fun _ hw => hw

theorem transition_moves {node : LoopNode} (hnode : node ≠ .plan) (condition : String)
    (terminalState : Option LoopTerminalState) (evidence : Dict) :
    Triple (Driven a n source state) (transition r state node condition terminalState evidence)
      (fun next => Driven a n node next) (Halted r a n) := by
  have hsame : nextAttempt source node a = a := by simp [nextAttempt, hnode]
  refine (transition_driven hbound node condition terminalState evidence).weaken (fun _ h => h)
    (fun next w hw => ?_) (fun _ _ h => h)
  rw [hsame] at hw
  exact hw.1

theorem transition_leavesPlanning {node : LoopNode} (hnode : node ≠ .plan) (condition : String)
    (terminalState : Option LoopTerminalState) (evidence : Dict) :
    Triple (Driven a n source state) (transition r state node condition terminalState evidence)
      (Returned r a n) (Halted r a n) := by
  refine (transition_moves hbound hnode condition terminalState evidence).weaken (fun _ h => h)
    (fun next w hw => ?_) (fun _ _ h => h)
  refine ⟨hw.within hbound, hw.row, ?_⟩
  intro hplan
  exact absurd (hw.node.symm.trans hplan) hnode

theorem transition_stopsThere (condition : String) (terminal : LoopTerminalState)
    (evidence : Dict) :
    Triple (Driven a n source state)
      (transition r state source condition (some terminal) evidence)
      (Returned r a n) (Halted r a n) := by
  have hsame : nextAttempt source source a = a := by cases source <;> rfl
  refine (transition_driven hbound source condition (some terminal) evidence).weaken
    (fun _ h => h) (fun next w hw => ?_) (fun _ _ h => h)
  rw [hsame] at hw
  refine ⟨hw.1.within hbound, hw.1.row, ?_⟩
  intro _ hrunning
  rw [hw.2] at hrunning
  cases hrunning

omit hbound in
theorem transition_replans (hleft : a < r.spec.maxAttempts)
    (hsource : source = .reflect ∨ source = .evaluate) (condition : String) (evidence : Dict) :
    Triple (Driven a n source state) (transition r state .plan condition none evidence)
      (Returned r a n) (Halted r a n) := by
  have hnext : nextAttempt source .plan a = a + 1 := by simp [nextAttempt, hsource]
  refine (transition_driven hleft.le .plan condition none evidence).weaken
    (fun _ h => h) (fun next w hw => ?_) (fun _ _ h => h)
  rw [hnext] at hw
  have hreached := hw.1.within (r := r) (by omega)
  refine ⟨⟨?_, hreached.upper, hreached.passes⟩, hw.1.row, ?_⟩
  · have hlower := hreached.lower
    omega
  · intro _ _
    rw [hw.1.attempt]
    omega

/-! ## Phases -/

theorem park_returns (stop : Stop) :
    Triple (Driven a n source state) (park r state stop) (Returned r a n)
      (Halted r a n) := by
  refine Triple.bind (note_driven rfl) fun _ => ?_
  refine Triple.bind (transition_moves hbound stop.node_ne_plan _ _ _) ?_
  intro moved
  exact transition_leavesPlanning hbound stop.node_ne_plan _ _ _

theorem stopForResourceGrant_returns (grant : ResourceGrant) :
    Triple (Driven a n source state) (stopForResourceGrant r state grant) (Returned r a n)
      (Halted r a n) := by
  unfold stopForResourceGrant
  split
  · exact park_returns hbound _
  · refine Triple.assume (fun w hw => hw.node) ?_
    rintro rfl
    exact transition_stopsThere hbound _ _ _

omit hbound in
theorem result_goes {α : Type} {P : α → World → Prop} {pre : World → Prop}
    {program : Drive LoopRunState}
    (h : Triple pre program (Returned r a n) (Halted r a n)) :
    Triple pre (Next.result <$> program : Drive (Next α)) (Goes r a n P) (Halted r a n) :=
  Triple.map h fun _ _ hw => hw

omit hbound in
theorem pureResult_goes {α : Type} {P : α → World → Prop} (result : LoopRunState) :
    Triple (Returned r a n result) (pure (.result result) : Drive (Next α)) (Goes r a n P)
      (Halted r a n) :=
  Triple.pure fun _ hw => hw

theorem gateOrStop_goes :
    Triple (Driven a n source state) (gateOrStop r state)
      (Goes r a n fun _ => Driven a n source state) (Halted r a n) := by
  refine Triple.bind (ask_driven hbound) ?_
  intro answer
  split
  · exact Triple.pure fun _ hw => hw
  · exact Triple.bind (stopForResourceGrant_returns hbound answer.grant) fun stopped =>
      pureResult_goes stopped

variable (hports : r.recovery.Bounded)

/-! ### `PLAN` -/

include hports in
theorem plannerFailed_returns (errorType message : String) (failureFacts : Dict) :
    Triple (Driven a n .plan state) (plannerFailed r state errorType message failureFacts)
      (Returned r a n) (Halted r a n) := by
  refine Triple.assume (fun w hw => hw.attempt) ?_
  intro hattempt
  refine Triple.bind (collect_driven _) fun _ => ?_
  refine Triple.bind (ask_driven hbound) ?_
  intro answer
  refine Triple.bind collected_driven ?_
  intro evidence
  dsimp only
  split
  · exact Triple.bind (collect_driven _) fun _ => park_returns hbound _
  · refine Triple.bind (collect_driven _) fun _ => ?_
    split
    next hreplans =>
      have hleft : a < r.spec.maxAttempts := by
        rw [Bool.and_eq_true] at hreplans
        rw [← hattempt]
        exact hports.contractViolation hreplans.1
      refine Triple.bind (transition_moves hbound (by decide) _ _ _) ?_
      intro reflected
      exact transition_replans hleft (.inl rfl) _ _
    next => exact transition_stopsThere hbound _ _ _

include hports in
theorem planState_goes :
    Triple (Driven a n .plan state) (planState r state)
      (Goes r a n fun value => Driven a n .execute value.1) (Halted r a n) := by
  refine Triple.bind (gateOrStop_goes hbound) ?_
  intro next
  cases next with
  | result stopped => exact pureResult_goes stopped
  | goOn _ =>
      refine Triple.bind (writeCheckpoint_driven hbound _ _) fun _ => ?_
      refine Triple.bind (ask_driven hbound) ?_
      intro answer
      dsimp only
      split
      next grant _ =>
        exact Triple.bind (stopForResourceGrant_returns hbound grant) fun stopped =>
          pureResult_goes stopped
      next errorType message failureFacts _ =>
        exact Triple.bind (plannerFailed_returns hbound hports errorType message failureFacts)
          fun stopped => pureResult_goes stopped
      next message _ => exact Triple.throw fun _ hw => ⟨rfl, hw.within hbound⟩
      next plannedStep _ =>
        refine Triple.bind (observe_driven _) fun _ => ?_
        refine Triple.bind (collect_driven _) fun _ => ?_
        refine Triple.bind collected_driven ?_
        intro evidence
        exact Triple.bind (transition_moves hbound (by decide) _ _ _) fun planned =>
          Triple.pure fun _ hw => hw

/-! ### `EXECUTE` -/

theorem missingPlan_returns :
    Triple (Driven a n source state) (missingPlan r state) (Returned r a n)
      (Halted r a n) :=
  Triple.bind (transition_moves hbound (by decide) _ _ _) fun _ =>
    transition_leavesPlanning hbound (by decide) _ _ _

include hports in
theorem capabilityFailed_returns (executed : ExecutedCapabilityStep) (progressSignature : String) :
    Triple (Driven a n source state) (capabilityFailed r state executed progressSignature)
      (Returned r a n) (Halted r a n) := by
  refine Triple.bind (transition_moves hbound (by decide) _ _ _) ?_
  intro reflected
  refine Triple.assume (fun w hw => hw.attempt) ?_
  intro hattempt
  refine Triple.bind (ask_driven hbound) ?_
  intro answer
  refine Triple.bind (collect_driven _) fun _ => ?_
  split
  next hreplans =>
    have hleft : a < r.spec.maxAttempts := by
      rw [← hattempt]
      exact hports.capability hreplans
    exact transition_replans hleft (.inl rfl) _ _
  next => exact transition_leavesPlanning hbound (by decide) _ _ _

include hports in
theorem settleExecution_goes (plannedStep : PlannedCapabilityStep)
    (executed : ExecutedCapabilityStep) (progressSignature : String) :
    Triple (Driven a n source state)
      (settleExecution r state plannedStep executed progressSignature)
      (Goes r a n fun next => Driven a n .evaluate next) (Halted r a n) := by
  refine Triple.bind collected_driven ?_
  intro evidence
  refine Triple.bind (collect_driven _) fun _ => ?_
  split
  · exact result_goes (transition_leavesPlanning hbound (by decide) _ _ _)
  · split
    · exact result_goes (park_returns hbound _)
    · split
      · exact result_goes (capabilityFailed_returns hbound hports executed progressSignature)
      · exact Triple.map (transition_moves hbound (by decide) _ _ _) fun _ _ hw => hw

include hports in
theorem executeState_goes (planned : Option PlannedCapabilityStep) :
    Triple (Driven a n source state) (executeState r state planned)
      (Goes r a n fun next => Driven a n .evaluate next) (Halted r a n) := by
  refine Triple.bind (gateOrStop_goes hbound) ?_
  intro next
  cases next with
  | result stopped => exact pureResult_goes stopped
  | goOn _ =>
      cases planned with
      | none => exact result_goes (missingPlan_returns hbound)
      | some step =>
          refine Triple.bind (writeCheckpoint_driven hbound _ _) fun _ => ?_
          refine Triple.bind (note_driven rfl) fun _ => ?_
          refine Triple.bind (askPort_driven hbound _) ?_
          intro executed
          exact Triple.bind (collect_driven _) fun _ =>
            settleExecution_goes hbound hports step executed _

/-! ### `EVALUATE` -/

theorem acquireWorkspaceLock_goes (key : String) :
    Triple (Driven a n source state) (acquireWorkspaceLock r state key)
      (Goes r a n fun _ => Driven a n source state) (Halted r a n) := by
  unfold acquireWorkspaceLock
  split
  · refine Triple.bind (askPort_driven hbound _) ?_
    intro lock
    refine Triple.bind (collect_driven _) fun _ => ?_
    split
    · exact Triple.pure fun _ hw => hw
    · exact result_goes (park_returns hbound _)
  · exact Triple.pure fun _ hw => hw

theorem runCommands_goes (steps : List VerificationStep) :
    Triple (Driven a n source state) (runCommands r state steps)
      (Goes r a n fun _ => Driven a n source state) (Halted r a n) := by
  induction steps with
  | nil => exact Triple.pure fun _ hw => hw
  | cons step rest ih =>
      unfold runCommands
      split
      · exact ih
      · refine Triple.bind (gateOrStop_goes hbound) ?_
        intro gate
        cases gate with
        | result stopped => exact pureResult_goes stopped
        | goOn _ =>
            refine Triple.bind (writeCheckpoint_driven hbound _ _) fun _ => ?_
            refine Triple.bind (acquireWorkspaceLock_goes hbound "workspace_lock") ?_
            intro lock
            cases lock with
            | result stopped => exact pureResult_goes stopped
            | goOn _ =>
                refine Triple.bind (askPort_driven hbound _) ?_
                intro result
                refine Triple.bind (observe_driven _) fun _ => ?_
                exact Triple.bind (collect_driven _) fun _ => ih

theorem commitSideEffects_driven : Triple (Driven a n source state) commitSideEffects
    (fun _ => Driven a n source state) (Halted r a n) := by
  refine Triple.bind collected_driven ?_
  intro evidence
  split
  · exact Triple.pure fun _ hw => hw
  · refine Triple.bind (askPort_driven hbound _) ?_
    intro result
    refine Triple.bind (observe_driven _) fun _ => ?_
    exact Triple.bind (collect_driven _) fun _ => Triple.pure fun _ hw => hw

theorem compensateSideEffects_driven : Triple (Driven a n source state) compensateSideEffects
    (fun _ => Driven a n source state) (Halted r a n) := by
  refine Triple.bind collected_driven ?_
  intro evidence
  split
  · exact Triple.pure fun _ hw => hw
  · exact Triple.bind (askPort_driven hbound _) fun result => collect_driven _

include hports in
theorem reflectState_returns (report : CheckerReport) :
    Triple (Driven a n source state) (reflectState r state report) (Returned r a n)
      (Halted r a n) := by
  refine Triple.bind (compensateSideEffects_driven hbound) fun _ => ?_
  refine Triple.bind (transition_moves hbound (by decide) _ _ _) ?_
  intro reflected
  refine Triple.assume (fun w hw => hw.attempt) ?_
  intro hattempt
  refine Triple.bind (ask_driven hbound) ?_
  intro answer
  refine Triple.bind (collect_driven _) fun _ => ?_
  split
  next hreplans =>
    have hleft : a < r.spec.maxAttempts := by
      rw [← hattempt]
      exact hports.reflector hreplans
    exact transition_replans hleft (.inl rfl) _ _
  next =>
    split
    · exact transition_leavesPlanning hbound (by decide) _ _ _
    · exact transition_leavesPlanning hbound (by decide) _ _ _

theorem mergeShadow_goes :
    Triple (Driven a n source state) (mergeShadow r state)
      (Goes r a n fun _ => Driven a n source state) (Halted r a n) := by
  unfold mergeShadow
  split
  · refine Triple.bind (acquireWorkspaceLock_goes hbound "merge_workspace_lock") ?_
    intro lock
    cases lock with
    | result stopped => exact pureResult_goes stopped
    | goOn _ =>
        refine Triple.bind (askPort_driven hbound _) ?_
        intro merged
        refine Triple.bind (observe_driven _) fun _ => ?_
        refine Triple.bind (collect_driven _) fun _ => ?_
        split
        · exact Triple.bind (compensateSideEffects_driven hbound) fun _ =>
            result_goes (transition_leavesPlanning hbound (by decide) _ _ _)
        · exact Triple.pure fun _ hw => hw
  · exact Triple.pure fun _ hw => hw

theorem convergeState_returns (report : CheckerReport) :
    Triple (Driven a n source state) (convergeState r state report) (Returned r a n)
      (Halted r a n) := by
  refine Triple.bind (commitSideEffects_driven hbound) ?_
  intro result
  split
  · exact park_returns hbound _
  · exact transition_leavesPlanning hbound (by decide) _ _ _

theorem acceptedState_returns (report : CheckerReport) :
    Triple (Driven a n .evaluate state) (acceptedState r state report) (Returned r a n)
      (Halted r a n) := by
  refine Triple.assume (fun w hw => hw.attempt) ?_
  intro hattempt
  refine Triple.bind (collect_driven _) fun _ => ?_
  refine Triple.bind collected_driven ?_
  intro evidence
  dsimp only
  split
  next hsurface =>
    -- the guard of `continue_iteration` is the port's, written out
    have hleft : a < r.spec.maxAttempts := by
      rw [Bool.and_eq_true, decide_eq_true_eq] at hsurface
      rw [← hattempt]
      exact hsurface.2
    exact Triple.bind (collect_driven _) fun _ => transition_replans hleft (.inr rfl) _ _
  next =>
    refine Triple.bind (mergeShadow_goes hbound) ?_
    intro merged
    cases merged with
    | result stopped => exact Triple.pure fun _ hw => hw
    | goOn _ => exact convergeState_returns hbound report

/-- A call of the semantic checker that fails leaves the driver at `EVALUATE`. -/
def HaltedEvaluating (r : Runner) (a n : Nat) (state : LoopRunState) : Halt → World → Prop
  | .raised (.semanticCheckerCall _ _), w => Driven a n .evaluate state w
  | halt, w => Halted r a n halt w

omit hbound in
theorem Halted.evaluating {w : World} {halt : Halt} (h : Halted r a n halt w) :
    HaltedEvaluating r a n state halt w := by
  unfold HaltedEvaluating
  split
  next => cases h.other
  next => exact h

omit hbound in
theorem evaluating_halts {α : Type} {pre : World → Prop} {program : Drive α}
    {post : α → World → Prop} (h : Triple pre program post (Halted r a n)) :
    Triple pre program post (HaltedEvaluating r a n state) :=
  h.weaken (fun _ hw => hw) (fun _ _ hw => hw) (fun _ _ hw => hw.evaluating)

theorem assessSteps_driven (capabilityResult : Dict) (steps : List VerificationStep) :
    Triple (Driven a n .evaluate state) (assessSteps r state capabilityResult steps)
      (fun _ => Driven a n .evaluate state) (HaltedEvaluating r a n state) := by
  induction steps with
  | nil => exact Triple.pure fun _ hw => hw
  | cons step rest ih =>
      unfold assessSteps
      split
      · exact ih
      · split
        · refine Triple.bind (evaluating_halts (observe_driven _)) fun _ => ?_
          exact Triple.bind (evaluating_halts (collect_driven _)) fun _ => ih
        · refine Triple.bind (evaluating_halts (ask_driven hbound)) ?_
          intro answer
          split
          · exact Triple.throw fun _ hw => hw
          · refine Triple.bind (evaluating_halts (observe_driven _)) fun _ => ?_
            exact Triple.bind (evaluating_halts (collect_driven _)) fun _ => ih

theorem populateSemanticCheckerEvidence_driven :
    Triple (Driven a n .evaluate state) (populateSemanticCheckerEvidence r state)
      (fun _ => Driven a n .evaluate state) (HaltedEvaluating r a n state) := by
  refine Triple.bind (evaluating_halts collected_driven) ?_
  intro evidence
  dsimp only
  split
  · exact Triple.pure fun _ hw => hw
  next capabilityResult _ =>
    exact assessSteps_driven hbound capabilityResult r.spec.verificationLadder

include hports in
theorem judgeState_returns :
    Triple (Driven a n .evaluate state) (judgeState r state) (Returned r a n)
      (HaltedEvaluating r a n state) := by
  refine Triple.bind (populateSemanticCheckerEvidence_driven hbound) fun _ =>
    evaluating_halts ?_
  refine Triple.bind (collect_driven _) fun _ => ?_
  have hpending : Triple (Driven a n .evaluate state)
      (modify fun world : World =>
        let clearance := providerTransportRetryClearanceEvidence world.collected
        { world with pending := world.pending.merge clearance } : Drive PUnit)
      (fun _ => Driven a n .evaluate state) (Halted r a n) :=
    Triple.modify fun _ hw => ⟨hw.row, hw.attempt, hw.node, hw.passes⟩
  refine Triple.bind hpending fun _ => ?_
  refine Triple.bind collected_driven ?_
  intro evidence
  refine Triple.bind (askPort_driven hbound _) ?_
  intro report
  refine Triple.bind (observe_driven _) fun _ => ?_
  split
  · exact acceptedState_returns hbound report
  · split
    · exact Triple.bind (compensateSideEffects_driven hbound) fun _ =>
        transition_leavesPlanning hbound (by decide) _ _ _
    · exact reflectState_returns hbound hports report

include hports in
theorem evaluateState_returns :
    Triple (Driven a n .evaluate state) (evaluateState r state) (Returned r a n)
      (HaltedEvaluating r a n state) := by
  refine Triple.bind (evaluating_halts (observe_driven _)) fun _ => ?_
  refine Triple.bind (evaluating_halts (gateOrStop_goes hbound)) ?_
  intro gate
  cases gate with
  | result stopped => exact Triple.pure fun _ hw => hw
  | goOn _ =>
      refine Triple.bind (evaluating_halts (runCommands_goes hbound _)) ?_
      intro commands
      cases commands with
      | result stopped => exact Triple.pure fun _ hw => hw
      | goOn _ => exact judgeState_returns hbound hports

theorem checkerCallFailed_returns (failureFacts : Dict) (cause : String) :
    Triple (Driven a n source state) (checkerCallFailed r state failureFacts cause)
      (Returned r a n) (Halted r a n) := by
  refine Triple.bind collected_driven ?_
  intro evidence
  split
  · exact Triple.throw fun _ hw => ⟨rfl, hw.within hbound⟩
  · split
    · exact Triple.bind (collect_driven _) fun _ => park_returns hbound _
    · refine Triple.bind (collect_driven _) fun _ => ?_
      exact Triple.bind (transition_moves hbound (by decide) _ _ _) fun reflected =>
        transition_leavesPlanning hbound (by decide) _ _ _

include hports in
theorem evaluateOrRetry_returns :
    Triple (Driven a n .evaluate state) (evaluateOrRetry r state) (Returned r a n)
      (Halted r a n) := by
  refine Triple.tryCatch (evaluateState_returns hbound hports) ?_
  intro halt
  split
  next failureFacts cause => exact checkerCallFailed_returns hbound failureFacts cause
  next hother =>
    refine Triple.throw ?_
    intro w hw
    unfold HaltedEvaluating at hw
    split at hw
    next failureFacts cause => exact absurd rfl (hother failureFacts cause)
    next => exact hw

/-! ## Calls -/

theorem createShadow_driven : Triple (Driven a n source state) (createShadow r)
    (fun _ => Driven a n source state) (Halted r a n) := by
  unfold createShadow
  split
  · exact Triple.bind (askPort_driven hbound _) fun _ => collect_driven _
  · exact Triple.pure fun _ hw => hw

include hports in
theorem planPhase_goes (planned : Option PlannedCapabilityStep) :
    Triple (Driven a n source state) (planPhase r state planned)
      (Goes r a n fun value w => ∃ node ≠ LoopNode.plan, Driven a n node value.1 w)
      (Halted r a n) := by
  unfold planPhase
  refine Triple.assume (fun w hw => hw.node) ?_
  rintro rfl
  split
  next hplan =>
    rw [hplan]
    refine Triple.bind (planState_goes hbound hports) ?_
    intro next
    cases next with
    | result stopped => exact pureResult_goes stopped
    | goOn value => exact Triple.pure fun _ hw => ⟨.execute, by decide, hw⟩
  next hplan => exact Triple.pure fun _ hw => ⟨_, hplan, hw⟩

include hports in
theorem evaluatePhase_returns (hsource : source ≠ .plan) :
    Triple (Driven a n source state) (evaluatePhase r state) (Returned r a n)
      (Halted r a n) := by
  unfold evaluatePhase
  refine Triple.assume (fun w hw => hw.node) ?_
  rintro rfl
  split
  next hevaluate =>
    rw [hevaluate]
    exact evaluateOrRetry_returns hbound hports
  next =>
    refine Triple.pure ?_
    intro w hw
    exact ⟨hw.within hbound, hw.row, fun hplan => absurd hplan hsource⟩

include hports in
theorem actPhases_returns (hsource : source ≠ .plan) (planned : Option PlannedCapabilityStep) :
    Triple (Driven a n source state) (actPhases r state planned) (Returned r a n)
      (Halted r a n) := by
  unfold actPhases
  refine Triple.assume (fun w hw => hw.node) ?_
  rintro rfl
  split
  · refine Triple.bind (executeState_goes hbound hports planned) ?_
    intro next
    cases next with
    | result stopped => exact Triple.pure fun _ hw => hw
    | goOn next => exact evaluatePhase_returns hbound hports (by decide)
  · exact evaluatePhase_returns hbound hports hsource

end

section

variable {r : Runner} {a n : Nat}

/-- Between two calls of `_run_async_impl`. -/
structure Resting (a n : Nat) (w : World) : Prop where
  attempt : w.cell.run.attempt = a
  passes : planningPasses w.log = n

/-- The call returned, after one planning pass at most. -/
def ReturnedOnce (r : Runner) (a n : Nat) (result : LoopRunState) (w : World) : Prop :=
  ∃ passes ≤ n + 1, Returned r a passes result w

/-- The call ended early, after one planning pass at most. -/
def HaltedOnce (r : Runner) (a n : Nat) (_halt : Halt) (w : World) : Prop :=
  ∃ passes ≤ n + 1, Within r a passes w

theorem Resting.halted {w : World} (h : Resting a n w) (hbound : a ≤ r.spec.maxAttempts)
    (halt : Halt) : HaltedOnce r a n halt w :=
  ⟨n, n.le_succ, h.attempt.ge, by rw [h.attempt]; exact hbound, h.passes⟩

variable (hbound : a ≤ r.spec.maxAttempts)
include hbound

theorem ask_resting : Triple (Resting a n) ask (fun _ => Resting a n) (HaltedOnce r a n) := by
  intro w hw
  rw [ask_eq]
  cases w.answers with
  | nil => exact hw.halted hbound _
  | cons answer rest => exact ⟨hw.attempt, hw.passes⟩

theorem claimOnce_resting : Triple (Resting a n) (claimOnce r) (fun _ => Resting a n)
    (HaltedOnce r a n) := by
  refine Triple.bind (Triple.get fun _ hw => hw) fun _ => ?_
  split
  · exact Triple.pure fun _ hw => hw
  · refine Triple.bind (ask_resting hbound) ?_
    intro answer
    refine Triple.bind Triple.get_self ?_
    intro found
    split
    · exact Triple.throw fun _ hw => hw.2.halted hbound _
    next cell hclaimed =>
      refine Triple.set ?_
      intro w hw
      obtain ⟨rfl, hattempt, hpasses⟩ := hw
      obtain ⟨-, rfl⟩ := claimForExecution_eq_some.mp hclaimed
      exact ⟨hattempt, hpasses⟩

theorem runPhases_returns_once (hports : r.recovery.Bounded) (evidence : Dict) :
    Triple (Resting a n) (runPhases r evidence) (ReturnedOnce r a n) (HaltedOnce r a n) := by
  refine Triple.bind Triple.get_self ?_
  intro found
  let started : Event := .started found.cell evidence
  let passes := n + if started.plans then 1 else 0
  have hstarts : Triple (fun w => found = w ∧ Resting a n w) (note started)
      (fun _ => Driven a passes found.cell.run.node found.cell.run) (Halted r a passes) := by
    refine Triple.modify ?_
    intro w hw
    obtain ⟨rfl, hattempt, hpasses⟩ := hw
    refine ⟨rfl, hattempt, rfl, ?_⟩
    have hcount : planningPasses (started :: found.log)
        = planningPasses found.log + if started.plans then 1 else 0 := List.countP_cons
    rw [hcount, hpasses]
  have honce : passes ≤ n + 1 := by
    have hone : (if started.plans then 1 else 0) ≤ 1 := by split <;> omega
    omega
  refine @Triple.weaken World Halt LoopRunState _ (fun w => found = w ∧ Resting a n w) _
    (Returned r a passes) _ (Halted r a passes) _ ?_ (fun _ h => h)
    (fun _ _ h => ⟨passes, honce, h⟩) (fun _ _ h => ⟨passes, honce, h.within⟩)
  refine Triple.bind hstarts fun _ => ?_
  refine Triple.bind (collect_driven _) fun _ => ?_
  refine Triple.bind (createShadow_driven hbound) fun _ => ?_
  refine Triple.bind (planPhase_goes hbound hports _) ?_
  intro next
  cases next with
  | result stopped => exact Triple.pure fun _ hw => hw
  | goOn value =>
      intro w hw
      obtain ⟨node, hnode, hdriven⟩ := hw
      exact actPhases_returns hbound hports hnode value.2 w hdriven

theorem runAsyncImpl_returns_once (hports : r.recovery.Bounded) (evidence : Dict) :
    Triple (Resting a n) (runAsyncImpl r evidence) (ReturnedOnce r a n) (HaltedOnce r a n) := by
  unfold runAsyncImpl
  split
  · exact Triple.throw fun _ hw => hw.halted hbound _
  · refine Triple.bind (ask_resting hbound) fun _ => ?_
    refine Triple.bind Triple.get_self ?_
    intro found
    split
    next hstopped =>
      have hkept : Triple (fun w => found = w ∧ Resting a n w) (collect fun _ => evidence)
          (fun _ w => w.cell = found.cell ∧ Resting a n w) (HaltedOnce r a n) := by
        refine Triple.modify ?_
        rintro w ⟨rfl, hw⟩
        exact ⟨rfl, hw.attempt, hw.passes⟩
      refine Triple.bind hkept fun _ => Triple.pure ?_
      rintro w ⟨hcell, hw⟩
      refine ⟨n, n.le_succ, ⟨hw.attempt.ge, by rw [hw.attempt]; exact hbound, hw.passes⟩,
        by rw [hcell], ?_⟩
      intro _ hrunning
      simp [hrunning] at hstopped
    next =>
      refine Triple.bind (Triple.weaken (claimOnce_resting hbound) (fun _ hw => hw.2)
        (fun _ _ h => h) (fun _ _ h => h)) fun _ => runPhases_returns_once hbound hports evidence

end

/-! ## The loop of calls -/

section

variable {r : Runner} {m : Nat}

/-- The loop is within its attempts, and has made no more than `m` passes. -/
structure Spent (r : Runner) (m : Nat) (w : World) : Prop where
  lower : 1 ≤ w.cell.run.attempt
  upper : w.cell.run.attempt ≤ r.spec.maxAttempts
  passes : planningPasses w.log ≤ m

/-- It has passes left to make: one for this attempt and one for each later one. -/
structure Funded (r : Runner) (m : Nat) (w : World) : Prop where
  lower : 1 ≤ w.cell.run.attempt
  upper : w.cell.run.attempt ≤ r.spec.maxAttempts
  passes : planningPasses w.log + (r.spec.maxAttempts + 1 - w.cell.run.attempt) ≤ m

theorem Funded.spent {w : World} (h : Funded r m w) : Spent r m w := by
  refine ⟨h.lower, h.upper, ?_⟩
  have hpasses := h.passes
  omega

theorem ReturnedOnce.funded {a n : Nat} {result : LoopRunState} {w : World}
    (h : ReturnedOnce r a n result w) (hfunds : n + (r.spec.maxAttempts + 1 - a) ≤ m)
    (hplan : result.node = .plan) (hrunning : result.terminalState = none) : Funded r m w := by
  obtain ⟨passes, honce, hreturned⟩ := h
  have hlater := hreturned.later hplan hrunning
  rw [← hreturned.row] at hlater
  have hupper := hreturned.within.upper
  refine ⟨by omega, hupper, ?_⟩
  rw [hreturned.within.passes]
  omega

theorem runAsyncImpl_spends (hports : r.recovery.Bounded) (evidence : Dict) :
    Triple (Funded r m) (runAsyncImpl r evidence)
      (fun result w => Spent r m w
        ∧ (result.node = .plan → result.terminalState = none → Funded r m w))
      (fun _ => Spent r m) := by
  refine Triple.of_each ?_
  intro w hw
  have hfunds := hw.passes
  have hupper := hw.upper
  have hspent : ∀ passes ≤ planningPasses w.log + 1, ∀ w',
      Within r w.cell.run.attempt passes w' → Spent r m w' := by
    intro passes honce w' hwithin
    refine ⟨hw.lower.trans hwithin.lower, hwithin.upper, ?_⟩
    rw [hwithin.passes]
    omega
  refine (runAsyncImpl_returns_once (n := planningPasses w.log) hw.upper hports
    evidence).weaken ?_ ?_ ?_
  · rintro _ rfl
    exact ⟨rfl, rfl⟩
  · intro result w' hreturned
    refine ⟨?_, hreturned.funded hfunds⟩
    obtain ⟨passes, honce, hkept⟩ := hreturned
    exact hspent passes honce w' hkept.within
  · rintro halt w' ⟨passes, honce, hwithin⟩
    exact hspent passes honce w' hwithin

theorem checkLeaseRenewal_keeps {φ ψ : World → Prop}
    (hanswers : ∀ w rest, φ w → φ { w with answers := rest }) (hstop : ∀ w, φ w → ψ w) :
    Triple φ checkLeaseRenewal (fun _ => φ) (fun _ => ψ) := by
  have hask : Triple φ ask (fun _ => φ) (fun _ => ψ) := by
    intro w hw
    rw [ask_eq]
    cases w.answers with
    | nil => exact hstop w hw
    | cons answer rest => exact hanswers w rest hw
  refine Triple.bind hask ?_
  intro answer
  split
  · exact Triple.throw fun w hw => hstop w hw
  · exact Triple.pure fun _ hw => hw

theorem runLoop_spends (hports : r.recovery.Bounded) (calls : Nat) (evidence : Dict) :
    Triple (Funded r m) (runLoop r calls evidence) (fun _ => Spent r m) (fun _ => Spent r m) := by
  induction calls generalizing evidence with
  | zero => exact Triple.throw fun _ hw => hw.spent
  | succ calls ih =>
      refine Triple.bind (runAsyncImpl_spends hports evidence) ?_
      intro state
      refine Triple.bind (checkLeaseRenewal_keeps ?_ fun _ hw => hw.1) fun _ => ?_
      · rintro w rest ⟨⟨hlower, hupper, hpasses⟩, hfunded⟩
        refine ⟨⟨hlower, hupper, hpasses⟩, ?_⟩
        intro hplan hrunning
        exact ⟨hlower, hupper, (hfunded hplan hrunning).passes⟩
      · split
        · exact Triple.pure fun _ hw => hw.1
        next hgoesOn =>
          rw [not_or, not_not, LoopRunState.isStopped_eq] at hgoesOn
          have hrunning : state.terminalState = none := by simpa using hgoesOn.2
          have hcollected : Triple (Funded r m) collected (fun _ => Funded r m)
              (fun _ => Spent r m) :=
            Triple.bind (Triple.get fun _ hw => hw) fun _ => Triple.pure fun _ hw => hw
          refine (Triple.bind hcollected ih).weaken (fun w hw => ?_) (fun _ _ h => h)
            (fun _ _ h => h)
          exact hw.2 hgoesOn.1 hrunning

theorem runLoop_ends (hports : r.recovery.Bounded) {calls calls' : Nat} {w : World}
    (hupper : w.cell.run.attempt ≤ r.spec.maxAttempts) (evidence : Dict)
    (hcalls : r.spec.maxAttempts + 1 ≤ w.cell.run.attempt + calls)
    (hcalls' : r.spec.maxAttempts + 1 ≤ w.cell.run.attempt + calls') :
    runLoop r calls evidence w = runLoop r calls' evidence w := by
  induction calls generalizing calls' evidence w with
  | zero => omega
  | succ calls ih =>
      cases calls' with
      | zero => omega
      | succ calls' =>
          have hcall := runAsyncImpl_returns_once (n := planningPasses w.log) hupper hports evidence
            w ⟨rfl, rfl⟩
          simp only [runLoop, bind, EStateM.bind]
          cases hfirst : runAsyncImpl r evidence w with
          | error halt w' => rfl
          | ok state w' =>
              rw [hfirst] at hcall
              obtain ⟨passes, -, hreturned⟩ := hcall
              have hrow : Triple (fun x => x.cell = w'.cell) checkLeaseRenewal
                  (fun _ x => x.cell = w'.cell) (fun _ _ => True) :=
                checkLeaseRenewal_keeps (fun _ _ h => h) fun _ _ => trivial
              have hchecked := hrow w' rfl
              dsimp only
              cases hlease : checkLeaseRenewal w' with
              | error halt w'' => rfl
              | ok _ w'' =>
                  rw [hlease] at hchecked
                  dsimp only
                  split
                  · rfl
                  next hgoesOn =>
                    rw [not_or, not_not, LoopRunState.isStopped_eq] at hgoesOn
                    have hlater := hreturned.later hgoesOn.1 (by simpa using hgoesOn.2)
                    have hattempt : w''.cell.run.attempt = state.attempt := by
                      rw [hchecked, hreturned.row]
                    have hupper' := hreturned.within.upper
                    rw [hreturned.row] at hupper'
                    exact ih (by omega) _ (by omega) (by omega)

end

/-! ## Histories -/

/-- `RetryPolicy.validate`, as `create_run` calls it. -/
def retryPolicyError (spec : LoopSpec) : Option String :=
  if spec.maxAttempts < 1 then some "RetryPolicy.max_attempts must be at least 1" else none

/-- The runner drives a loop of this specification, with its own recovery ports. -/
structure Runner.Recovers (r : Runner) (spec : LoopSpec) : Prop where
  spec : r.spec = spec
  ports : ∃ floats, r.recovery = .own floats

theorem Runner.Recovers.bounded {r : Runner} {spec : LoopSpec} (h : r.Recovers spec) :
    r.recovery.Bounded := by
  obtain ⟨floats, hports⟩ := h.ports
  rw [hports]
  exact RecoveryPorts.own_bounded floats

/-- Every drive of the history is by such a runner. -/
def DrivenUnder (spec : LoopSpec) (items : List Item) : Prop :=
  ∀ r calls evidence answers, Item.drives r calls evidence answers ∈ items → r.Recovers spec

/-- The attempts of a loop that was created and may be driven. -/
def Allowed (spec : LoopSpec) (s : Lived) : Prop :=
  1 ≤ s.1.run.attempt ∧ s.1.run.attempt ≤ spec.maxAttempts

section

variable {s : Lived}

theorem Lived.after_attempt {answer : Except StoreError LoopCell} {events : LoopCell → List Event}
    (h : ∀ cell, answer = .ok cell → cell.run.attempt = s.1.run.attempt) :
    (s.after answer events).1.run.attempt = s.1.run.attempt := by
  unfold Lived.after
  split
  next cell => exact h cell rfl
  next => rfl

theorem Lived.reopen_attempt {how : Reopening} {now : Time} :
    (s.reopen how now).1.run.attempt = s.1.run.attempt :=
  Lived.after_attempt fun _ hok => (reopen_reopens hok).attempt

theorem Lived.pause_attempt {reason : String} {now : Time} :
    (s.pause reason now).1.run.attempt = s.1.run.attempt := by
  refine Lived.after_attempt ?_
  intro cell hok
  obtain ⟨-, rfl⟩ := pauseExternalWaitDurably_eq_ok.mp hok
  rfl

theorem cancelWaiting_attempt {refusal : String} {evidence : Dict} {now : Time}
    {cell cell' : LoopCell} (h : cancelWaiting refusal cell evidence now = .ok cell') :
    cell'.run.attempt = cell.run.attempt := by
  unfold cancelWaiting at h
  split_ifs at h
  · obtain rfl := Except.ok.inj h
    rfl
  · obtain rfl := Except.ok.inj h
    rfl

theorem cancelLoop_attempt {checkpointId reason : String} {now : Time} {cell cell' : LoopCell}
    (h : cancelLoop cell checkpointId reason now = .ok cell') :
    cell'.run.attempt = cell.run.attempt := by
  unfold cancelLoop at h
  dsimp only at h
  split_ifs at h
  · obtain rfl := Except.ok.inj h
    rfl
  · exact cancelWaiting_attempt h
  · obtain ⟨-, rfl⟩ := transition_eq_ok.mp h
    have hsame : ∀ node attempt, nextAttempt node node attempt = attempt := by
      intro node attempt
      cases node <;> rfl
    exact hsame _ _

theorem completeExternalDelivery_attempt {success : Bool} {evidence : Dict} {now : Time}
    {cell cell' : LoopCell} (h : completeExternalDelivery cell success evidence now = .ok cell') :
    cell'.run.attempt = cell.run.attempt := by
  unfold completeExternalDelivery at h
  extract_lets target action at h
  split_ifs at h
  · obtain rfl := Except.ok.inj h
    rfl
  · obtain rfl := Except.ok.inj h
    rfl

theorem failActiveRun_attempt {leaseOwner : String} {evidence : Dict} {now : Time}
    {cell cell' : LoopCell} (h : failActiveRun cell leaseOwner evidence now = .ok cell') :
    cell'.run.attempt = cell.run.attempt := by
  unfold failActiveRun at h
  split_ifs at h
  · obtain rfl := Except.ok.inj h
    rfl
  · obtain rfl := Except.ok.inj h
    rfl

theorem Lived.reconcile_attempt {view : ApprovalView} {orphanGraceSeconds now : Time}
    {recordedReason : Option String} :
    (s.reconcile view orphanGraceSeconds now recordedReason).1.run.attempt = s.1.run.attempt := by
  unfold Lived.reconcile
  split
  · split
    · rfl
    · rfl
    · exact Lived.reopen_attempt
    · exact Lived.pause_attempt
    · exact Lived.after_attempt fun _ hok => cancelWaiting_attempt hok
  · rfl

theorem Item.apply_attempt {item : Item}
    (h : ∀ r calls evidence answers, item ≠ .drives r calls evidence answers) :
    (item.apply s).1.run.attempt = s.1.run.attempt := by
  cases item with
  | drives r calls evidence answers => exact absurd rfl (h r calls evidence answers)
  | failsActiveRun leaseOwner evidence now =>
      exact Lived.after_attempt fun _ hok => failActiveRun_attempt hok
  | claims owner leaseSeconds now allowPaused =>
      simp only [Item.apply, claimForExecution]
      split <;> rfl
  | renews owner leaseSeconds now =>
      simp only [Item.apply, renewExecutionLease]
      split <;> rfl
  | releases owner now =>
      simp only [Item.apply, releaseExecutionLease]
      split <;> rfl
  | reopensForResume now => exact Lived.reopen_attempt
  | reopensResourcePause now => exact Lived.reopen_attempt
  | reopensRetryablePause now => exact Lived.reopen_attempt
  | reconcilesApprovalWait view orphanGraceSeconds now recordedReason =>
      exact Lived.reconcile_attempt
  | pausesExternalWait reason now => exact Lived.pause_attempt
  | cancelsExternalWait reason now =>
      exact Lived.after_attempt fun _ hok => cancelWaiting_attempt hok
  | rejectsExternalGate evidence now =>
      exact Lived.after_attempt fun _ hok => cancelWaiting_attempt hok
  | completesExternalDelivery success evidence now =>
      exact Lived.after_attempt fun _ hok => completeExternalDelivery_attempt hok
  | cancelsLoop checkpointId reason now =>
      exact Lived.after_attempt fun _ hok => cancelLoop_attempt hok

variable {spec : LoopSpec}

/-- A drive, on a loop that may be driven: it stays within its attempts and makes at
most one planning pass for each. -/
theorem runAsync_spends {r : Runner} (hr : r.Recovers spec) (hs : Allowed spec s) (calls : Nat)
    (evidence : Dict) (answers : List Answer) :
    Allowed spec (runAsync r s.1 s.2 calls evidence answers)
      ∧ planningPasses (runAsync r s.1 s.2 calls evidence answers).2
        ≤ planningPasses s.2 + spec.maxAttempts := by
  obtain ⟨hlower, hupper⟩ := hs
  have hstart : Funded r (planningPasses s.2 + spec.maxAttempts) (startWorld s.1 s.2 answers) := by
    refine ⟨hlower, by rw [hr.spec]; exact hupper, ?_⟩
    rw [hr.spec]
    change planningPasses s.2 + (spec.maxAttempts + 1 - s.1.run.attempt) ≤ _
    omega
  have hrun := runLoop_spends hr.bounded calls evidence (startWorld s.1 s.2 answers) hstart
  unfold runAsync
  cases hend : runLoop r calls evidence (startWorld s.1 s.2 answers) with
  | ok state w =>
      rw [hend] at hrun
      exact ⟨⟨hrun.lower, by rw [← hr.spec]; exact hrun.upper⟩, hrun.passes⟩
  | error halt w =>
      rw [hend] at hrun
      exact ⟨⟨hrun.lower, by rw [← hr.spec]; exact hrun.upper⟩, hrun.passes⟩

theorem Item.apply_allowed {item : Item}
    (hr : ∀ r calls evidence answers, item = .drives r calls evidence answers → r.Recovers spec)
    (hs : Allowed spec s) : Allowed spec (item.apply s) := by
  by_cases hdrives : ∃ r calls evidence answers, item = .drives r calls evidence answers
  · obtain ⟨r, calls, evidence, answers, rfl⟩ := hdrives
    exact (runAsync_spends (hr r calls evidence answers rfl) hs calls evidence answers).1
  · simp only [not_exists] at hdrives
    have hsame := Item.apply_attempt (s := s) hdrives
    unfold Allowed
    rw [hsame]
    exact hs

theorem play_allowed {items : List Item} (hitems : DrivenUnder spec items)
    (hs : Allowed spec s) : Allowed spec (play s items) := by
  induction items generalizing s with
  | nil => exact hs
  | cons item rest ih =>
      have hrest : DrivenUnder spec rest := fun r calls evidence answers hmem =>
        hitems r calls evidence answers (List.mem_cons_of_mem _ hmem)
      refine ih hrest (Item.apply_allowed ?_ hs)
      rintro r calls evidence answers rfl
      exact hitems r calls evidence answers List.mem_cons_self

/-- Every loop stays within the attempts of its specification, and a call makes at most
as many planning passes: calls of `_run_async_impl` beyond that number are not made. -/
theorem attempts_bounded {cell : LoopCell} {items : List Item} (hnew : cell.run.attempt = 1)
    (hvalid : retryPolicyError spec = none) (hitems : DrivenUnder spec items) :
    (play (cell, []) items).1.run.attempt ≤ spec.maxAttempts
      ∧ ∀ r : Runner, r.Recovers spec → ∀ evidence answers,
        (∀ calls,
          planningPasses (runAsync r (play (cell, []) items).1 (play (cell, []) items).2 calls
            evidence answers).2 ≤ planningPasses (play (cell, []) items).2 + spec.maxAttempts)
        ∧ ∀ calls ≥ spec.maxAttempts,
          runLoop r calls evidence (startWorld (play (cell, []) items).1 (play (cell, []) items).2
              answers)
            = runLoop r spec.maxAttempts evidence
              (startWorld (play (cell, []) items).1 (play (cell, []) items).2 answers) := by
  have hpositive : 1 ≤ spec.maxAttempts := by
    unfold retryPolicyError at hvalid
    split at hvalid
    · cases hvalid
    · omega
  have hcreated : Allowed spec (cell, []) := ⟨hnew.ge, by rw [hnew]; exact hpositive⟩
  have hlived : Allowed spec (play (cell, []) items) := play_allowed hitems hcreated
  refine ⟨hlived.2, ?_⟩
  intro r hr evidence answers
  refine ⟨fun calls => (runAsync_spends hr hlived calls evidence answers).2, ?_⟩
  intro calls hcalls
  obtain ⟨hlower, hupper⟩ := hlived
  refine runLoop_ends hr.bounded (by rw [hr.spec]; exact hupper) evidence ?_ ?_
  · rw [hr.spec]
    change spec.maxAttempts + 1 ≤ (play (cell, []) items).1.run.attempt + calls
    omega
  · rw [hr.spec]
    change spec.maxAttempts + 1 ≤ (play (cell, []) items).1.run.attempt + spec.maxAttempts
    omega

end

/-- The plain runner with its own recovery ports. -/
def ownRunner : Runner := { plainRunner with recovery := .own Json.fractionText }

/-- A checker that rejects each attempt. -/
def rejectsEachAttempt : List Item :=
  [.drives ownRunner 8 [] ((plainAnswers 1 80).map fun answer =>
    { answer with report := .ok ⟨false, false, false, "", [], []⟩ })]

theorem ownRunner_recovers : ownRunner.Recovers plainRunner.spec := ⟨rfl, _, rfl⟩

/-- Three attempts are allowed, and all three are made. -/
theorem attempts_bounded_rejected :
    DrivenUnder plainRunner.spec rejectsEachAttempt
      ∧ (play (plainLoop.1, []) rejectsEachAttempt).1.run.attempt ≤ plainRunner.spec.maxAttempts
      ∧ (play (plainLoop.1, []) rejectsEachAttempt).1.run.attempt = 3 := by
  have hdriven : DrivenUnder plainRunner.spec rejectsEachAttempt := by
    intro r calls evidence answers hmem
    obtain ⟨rfl, -⟩ := Item.drives.inj (List.mem_singleton.mp hmem)
    exact ownRunner_recovers
  exact ⟨hdriven, (attempts_bounded rfl rfl hdriven).1, by decide +kernel⟩

end Navi.StateGraph
