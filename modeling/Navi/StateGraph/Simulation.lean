import Navi.StateGraph.Moves

/-!
# Every run of the runner is a path of moves

One triple for each function of the runner, in the order of `Runner`. A function
that goes on keeps the local `state` equal to the loop's row; one that returns a
result leaves the call.
-/

namespace Navi.StateGraph

open Navi.Base Navi.Loop

/-- The runner has moved from `origin` to where it is. -/
def Reaches (origin : Config) (control : Control) (w : World) : Prop :=
  Relation.ReflTransGen Move origin ⟨w.cell, w.log, control⟩ ∧ Clearance w.pending

/-- It has, and its local `state` is the loop's row, at this node. -/
structure At (origin : Config) (control : Control) (node : LoopNode) (state : LoopRunState)
    (w : World) : Prop where
  reaches : Reaches origin control w
  row : w.cell.run = state
  node : state.node = node

/-- The semantic checker's call failed. -/
def Halt.isCheckerCall : Halt → Bool
  | .raised (.semanticCheckerCall _ _) => true
  | _ => false

/-- A run that ends early, other than by the semantic checker, ends on a path of
moves. -/
def Ended (origin : Config) (halt : Halt) (w : World) : Prop :=
  halt.isCheckerCall = false
    ∧ ∃ control, Relation.ReflTransGen Move origin ⟨w.cell, w.log, control⟩

/-- A phase either returned a result, or goes on with a value that meets `P`. -/
def NextIs {α : Type} (origin : Config) (P : α → World → Prop) : Next α → World → Prop
  | .result _, w => Reaches origin .outside w
  | .goOn value, w => P value w

/-- An evaluation that ends early, by a failed call of the semantic checker or
otherwise. -/
def EndedEvaluating (origin : Config) (control : Control) (state : LoopRunState) :
    Halt → World → Prop
  | .raised (.semanticCheckerCall _ _), w => At origin control .evaluate state w
  | halt, w => Ended origin halt w

section

variable {origin : Config} {control control' : Control} {source : LoopNode} {state : LoopRunState}
  {p : Option PlannedCapabilityStep}

theorem clearance_merge {pending clearance : Dict} (h : Clearance pending)
    (h' : Clearance clearance) : Clearance (pending.merge clearance) := by
  cases h with
  | nothing =>
      cases h' with
      | nothing => exact .nothing
      | cleared history => exact .cleared history
  | cleared _ =>
      cases h' with
      | nothing => exact .cleared _
      | cleared history => exact .cleared history

theorem Reaches.ended {w : World} (h : Reaches origin control w) {halt : Halt}
    (hother : halt.isCheckerCall = false) : Ended origin halt w := ⟨hother, control, h.1⟩

theorem Reaches.leave {w : World} (h : Reaches origin control w) : Reaches origin .outside w :=
  ⟨h.1.tail .leaves, h.2⟩

/-! ## Operations -/

theorem ask_eq (w : World) : ask w = match w.answers with
    | [] => .error .died w
    | answer :: rest => .ok answer { w with answers := rest } := by
  cases h : w.answers <;> simp only [ask, bind, EStateM.bind, get, getThe, MonadStateOf.get,
    EStateM.get, h] <;> rfl

theorem ask_reaches : Triple (Reaches origin .outside) ask (fun _ => Reaches origin .outside)
    (Ended origin) := by
  intro w hw
  rw [ask_eq]
  cases w.answers with
  | nil => exact hw.ended rfl
  | cons answer rest => exact hw

theorem ask_at : Triple (At origin control source state) ask
    (fun _ => At origin control source state) (Ended origin) := by
  intro w hw
  rw [ask_eq]
  cases w.answers with
  | nil => exact hw.reaches.ended rfl
  | cons answer rest => exact ⟨hw.reaches, hw.row, hw.node⟩

theorem askPort_at {α : Type} (port : Answer → Except String α) :
    Triple (At origin control source state) (askPort port)
      (fun _ => At origin control source state) (Ended origin) := by
  refine Triple.bind ask_at ?_
  intro answer
  split
  · exact Triple.pure fun _ hw => hw
  · exact Triple.throw fun _ hw => hw.reaches.ended rfl

theorem get_at : Triple (At origin control source state) get
    (fun found w => found = w ∧ At origin control source state w) (Ended origin) :=
  Triple.get fun _ hw => ⟨rfl, hw⟩

theorem observe_at (what : Observation) :
    Triple (At origin control source state) (observe what)
      (fun _ => At origin control source state) (Ended origin) :=
  Triple.modify fun _ hw =>
    ⟨⟨hw.reaches.1.tail (.observes what), hw.reaches.2⟩, hw.row, hw.node⟩

theorem collect_at (change : Dict → Dict) :
    Triple (At origin control source state) (collect change)
      (fun _ => At origin control source state) (Ended origin) :=
  Triple.modify fun _ hw => ⟨hw.reaches, hw.row, hw.node⟩

theorem collected_at : Triple (At origin control source state) collected
    (fun _ => At origin control source state) (Ended origin) :=
  Triple.bind (Triple.get fun _ hw => hw) fun _ => Triple.pure fun _ hw => hw

theorem writeCheckpoint_at (node : LoopNode) {inputs : Dict}
    (h : inputs.get "planned_capability" = none) :
    Triple (At origin control source state) (writeCheckpoint node inputs)
      (fun _ => At origin control source state) (Ended origin) := by
  refine Triple.bind ask_at ?_
  intro answer
  refine Triple.bind (Triple.modify ?_) fun _ => Triple.pure fun _ hw => hw
  intro w hw
  exact ⟨⟨hw.reaches.1.tail (.checkpoints _ node _ h), hw.reaches.2⟩, hw.row, hw.node⟩

theorem checkpointPlan_at {step : PlannedCapabilityStep} :
    Triple (At origin (.inside (some step)) .execute state)
      (writeCheckpoint .execute [("planned_capability", .obj step.toDict)])
      (fun _ => At origin (.inside (some step)) .execute state) (Ended origin) := by
  refine Triple.bind ask_at ?_
  intro answer
  refine Triple.bind (Triple.modify ?_) fun _ => Triple.pure fun _ hw => hw
  intro w hw
  obtain ⟨hreaches, rfl, hnode⟩ := hw
  exact ⟨⟨hreaches.1.tail (.checkpointsPlan _ _ hnode), hreaches.2⟩, rfl, hnode⟩

theorem checkLeaseRenewal_at : Triple (At origin control source state) checkLeaseRenewal
    (fun _ => At origin control source state) (Ended origin) := by
  refine Triple.bind ask_at ?_
  intro answer
  split
  · exact Triple.throw fun _ hw => hw.reaches.ended rfl
  · exact Triple.pure fun _ hw => hw

theorem storeTransition_at {request : TransitionRequest} {own pending : Dict}
    (hsite : Site source control request.node request.terminalState request.condition own control')
    (hpending : Clearance pending) (hevidence : request.evidence = pending.merge own) :
    Triple (At origin control source state) (storeTransition request)
      (fun next => At origin control' request.node next) (Ended origin) := by
  refine Triple.bind ask_at ?_
  intro answer
  refine Triple.bind get_at ?_
  intro found
  split
  next cell hok =>
    refine Triple.bind (Triple.set ?_) fun _ => Triple.pure fun _ hw => hw
    intro w hw
    obtain ⟨rfl, hreaches, rfl, rfl⟩ := hw
    have hmoves := hreaches.1.tail (.commits hsite hpending hevidence hok)
    obtain ⟨-, rfl⟩ := transition_eq_ok.mp hok
    exact ⟨⟨hmoves, hreaches.2⟩, rfl, rfl⟩
  next error herror =>
    refine Triple.bind (Triple.modify ?_) fun _ => Triple.throw fun _ hw => hw
    intro w hw
    obtain ⟨rfl, hreaches, rfl, rfl⟩ := hw
    exact ⟨rfl, .outside, hreaches.1.tail (.refuses hsite herror)⟩

theorem transition_at (r : Runner) {node : LoopNode} {terminalState : Option LoopTerminalState}
    {condition : String} {evidence : Dict}
    (hsite : Site source control node terminalState condition evidence control') :
    Triple (At origin control source state)
      (transition r state node condition terminalState evidence)
      (fun next => At origin control' node next) (Ended origin) := by
  refine Triple.bind checkLeaseRenewal_at fun _ => ?_
  refine Triple.bind (writeCheckpoint_at state.node rfl) ?_
  intro id
  refine Triple.bind get_at ?_
  intro found
  have hpending : ∀ w, found = w ∧ At origin control source state w →
      Clearance found.pending := by
    rintro w ⟨rfl, hw⟩
    exact hw.reaches.2
  refine Triple.assume hpending ?_
  intro hpending
  refine Triple.bind (Triple.weaken (storeTransition_at hsite hpending ?_) (fun _ hw => hw.2)
    (fun _ _ h => h) (fun _ _ h => h)) fun next => ?_
  · rfl
  refine Triple.bind (Triple.modify ?_) fun _ => Triple.pure fun _ hw => hw
  intro w hw
  exact ⟨⟨hw.reaches.1, .nothing⟩, hw.row, hw.node⟩

theorem transition_leaves (r : Runner) {node : LoopNode}
    {terminalState : Option LoopTerminalState} {condition : String} {evidence : Dict}
    (hsite : Site source control node terminalState condition evidence control') :
    Triple (At origin control source state)
      (transition r state node condition terminalState evidence)
      (fun _ => Reaches origin .outside) (Ended origin) :=
  (transition_at r hsite).weaken (fun _ hw => hw) (fun _ _ hw => hw.reaches.leave)
    (fun _ _ h => h)

/-! ## Parking -/

theorem park_leaves (r : Runner) {stop : Stop} (hasks : stop.AsksAt source) :
    Triple (At origin (.inside p) source state) (park r state stop)
      (fun _ => Reaches origin .outside) (Ended origin) := by
  refine Triple.assume (fun w hw => hw.node) ?_
  intro hnode
  subst hnode
  have hturn : Triple (At origin (.inside p) state.node state) (note (.parking state stop))
      (fun _ => At origin (.parking stop state.node) state.node state) (Ended origin) := by
    refine Triple.modify ?_
    intro w hw
    obtain ⟨hreaches, rfl, hnode⟩ := hw
    exact ⟨⟨hreaches.1.tail (.turnsToPark hasks), hreaches.2⟩, rfl, hnode⟩
  refine Triple.bind hturn fun _ => ?_
  refine Triple.bind (transition_at r (.parks hasks)) ?_
  intro moved
  exact transition_leaves r (.parked hasks)

/-- The nodes at which the runner asks the gateway. -/
def Gated (node : LoopNode) : Prop := node = .plan ∨ node = .execute ∨ node = .evaluate

theorem stopForResourceGrant_leaves (r : Runner) (grant : ResourceGrant) (hgated : Gated source) :
    Triple (At origin (.inside p) source state) (stopForResourceGrant r state grant)
      (fun _ => Reaches origin .outside) (Ended origin) := by
  unfold stopForResourceGrant
  split
  next hdecision => exact park_leaves r ⟨hgated, hdecision⟩
  next =>
    refine Triple.assume (fun w hw => hw.node) ?_
    intro hnode
    subst hnode
    exact transition_leaves r (.resourceBlocked grant hgated)

theorem gateOrStop_next (r : Runner) (hgated : Gated source) :
    Triple (At origin (.inside p) source state) (gateOrStop r state)
      (NextIs origin fun _ => At origin (.inside p) source state) (Ended origin) := by
  refine Triple.bind ask_at ?_
  intro answer
  split
  · exact Triple.pure fun _ hw => hw
  · exact Triple.bind (stopForResourceGrant_leaves r answer.grant hgated) fun _ =>
      Triple.pure fun _ hw => hw

theorem result_next {α : Type} {P : α → World → Prop} {pre : World → Prop}
    {program : Drive LoopRunState}
    (h : Triple pre program (fun _ => Reaches origin .outside) (Ended origin)) :
    Triple pre (Next.result <$> program : Drive (Next α)) (NextIs origin P) (Ended origin) :=
  Triple.map h fun _ _ hw => hw

theorem pureResult_next {α : Type} {P : α → World → Prop} (result : LoopRunState) :
    Triple (Reaches origin .outside) (pure (.result result) : Drive (Next α)) (NextIs origin P)
      (Ended origin) :=
  Triple.pure fun _ hw => hw

/-! ## `PLAN` -/

theorem plannerFailed_leaves (r : Runner) (errorType message : String) (failureFacts : Dict) :
    Triple (At origin (.inside p) .plan state)
      (plannerFailed r state errorType message failureFacts)
      (fun _ => Reaches origin .outside) (Ended origin) := by
  refine Triple.assume (fun w hw => hw.node) ?_
  intro hnode
  refine Triple.bind (collect_at _) fun _ => ?_
  refine Triple.bind ask_at ?_
  intro answer
  refine Triple.bind collected_at ?_
  intro evidence
  dsimp only
  split
  next gate hgate =>
    have hnext : nextProviderTransportRetryGate r.transportRetries failureFacts evidence "planner"
        .plan = some gate := by
      split at hgate
      · exact hgate
      · cases hgate
    exact Triple.bind (collect_at _) fun _ =>
      park_leaves r ⟨rfl, nextProviderTransportRetryGate_spec hnext⟩
  next =>
    refine Triple.bind (collect_at _) fun _ => ?_
    split
    · exact Triple.bind (transition_at r (.plannerFailed errorType message)) fun reflected =>
        transition_leaves r (.newRoute _)
    · exact transition_leaves r (.plannerGivenUp errorType message _)

theorem planState_next (r : Runner) :
    Triple (At origin (.inside p) .plan state) (planState r state)
      (NextIs origin fun value => At origin (.inside (some value.2)) .execute value.1)
      (Ended origin) := by
  refine Triple.bind (gateOrStop_next r (.inl rfl)) ?_
  intro next
  cases next with
  | result stopped => exact pureResult_next stopped
  | goOn _ =>
      refine Triple.bind (writeCheckpoint_at .plan rfl) fun _ => ?_
      refine Triple.bind ask_at ?_
      intro answer
      dsimp only
      split
      next grant _ =>
        exact Triple.bind (stopForResourceGrant_leaves r grant (.inl rfl)) fun stopped =>
          pureResult_next stopped
      next errorType message failureFacts _ =>
        exact Triple.bind (plannerFailed_leaves r errorType message failureFacts)
          fun stopped => pureResult_next stopped
      next message _ => exact Triple.throw fun _ hw => hw.reaches.ended rfl
      next plannedStep _ =>
        refine Triple.bind (observe_at _) fun _ => ?_
        refine Triple.bind (collect_at _) fun _ => ?_
        refine Triple.bind collected_at ?_
        intro evidence
        exact Triple.bind
          (transition_at r (.planReady plannedStep _ (clearance_evidence evidence)))
          fun planned => Triple.pure fun _ hw => hw

/-! ## `EXECUTE` -/

theorem missingPlan_leaves (r : Runner) :
    Triple (At origin (.inside none) .execute state) (missingPlan r state)
      (fun _ => Reaches origin .outside) (Ended origin) :=
  Triple.bind (transition_at r .missingPlan) fun _ => transition_leaves r .resumeMissingPlan

theorem capabilityFailed_leaves (r : Runner) {step : PlannedCapabilityStep}
    (executed : ExecutedCapabilityStep) (progressSignature : String) :
    Triple (At origin (.inside (some step)) .execute state)
      (capabilityFailed r state executed progressSignature)
      (fun _ => Reaches origin .outside) (Ended origin) := by
  refine Triple.bind (transition_at r (.capabilityFailed executed progressSignature))
    ?_
  intro reflected
  refine Triple.bind ask_at ?_
  intro answer
  refine Triple.bind (collect_at _) fun _ => ?_
  split
  · exact transition_leaves r (.newRoute _)
  · exact transition_leaves r (.noRoute _)

theorem settleExecution_next (r : Runner) (step : PlannedCapabilityStep)
    (executed : ExecutedCapabilityStep) (progressSignature : String) :
    Triple (At origin (.inside (some step)) .execute state)
      (settleExecution r state step executed progressSignature)
      (NextIs origin fun next => At origin (.inside (some step)) .evaluate next)
      (Ended origin) := by
  refine Triple.bind collected_at ?_
  intro evidence
  refine Triple.bind (collect_at _) fun _ => ?_
  split
  · exact result_next (transition_leaves r (.repeatedProgress progressSignature _))
  · split
    next hyields => exact result_next (park_leaves r ⟨rfl, hyields⟩)
    next =>
      split
      · exact result_next (capabilityFailed_leaves r executed progressSignature)
      · exact Triple.map (transition_at r (.sideEffectRecorded executed progressSignature))
          fun _ _ hw => hw

theorem executeStep_next (r : Runner) (step : PlannedCapabilityStep) :
    Triple (At origin (.inside (some step)) .execute state) (executeStep r state step)
      (NextIs origin fun next => At origin (.inside (some step)) .evaluate next)
      (Ended origin) := by
  refine Triple.bind checkpointPlan_at fun _ => ?_
  have hexecutes : Triple (At origin (.inside (some step)) .execute state)
      (note (.executing state step))
      (fun _ => At origin (.inside (some step)) .execute state) (Ended origin) := by
    refine Triple.modify ?_
    intro w hw
    obtain ⟨hreaches, rfl, hnode⟩ := hw
    exact ⟨⟨hreaches.1.tail (.executes hnode), hreaches.2⟩, rfl, hnode⟩
  refine Triple.bind hexecutes fun _ => ?_
  refine Triple.bind (askPort_at _) ?_
  intro executed
  refine Triple.bind (collect_at _) fun _ => ?_
  exact settleExecution_next r step executed _

theorem executeState_next (r : Runner) (planned : Option PlannedCapabilityStep) :
    Triple (At origin (.inside planned) .execute state) (executeState r state planned)
      (NextIs origin fun next => At origin (.inside planned) .evaluate next) (Ended origin) := by
  refine Triple.bind (gateOrStop_next r (.inr (.inl rfl))) ?_
  intro next
  cases next with
  | result stopped => exact pureResult_next stopped
  | goOn _ =>
      cases planned with
      | none => exact result_next (missingPlan_leaves r)
      | some step => exact executeStep_next r step

/-! ## `EVALUATE` -/

theorem acquireWorkspaceLock_next (r : Runner) (key : String) :
    Triple (At origin (.inside p) .evaluate state) (acquireWorkspaceLock r state key)
      (NextIs origin fun _ => At origin (.inside p) .evaluate state) (Ended origin) := by
  unfold acquireWorkspaceLock
  split
  · refine Triple.bind (askPort_at _) ?_
    intro lock
    refine Triple.bind (collect_at _) fun _ => ?_
    split
    · exact Triple.pure fun _ hw => hw
    · exact result_next (park_leaves r rfl)
  · exact Triple.pure fun _ hw => hw

theorem runCommands_next (r : Runner) (steps : List VerificationStep) :
    Triple (At origin (.inside p) .evaluate state) (runCommands r state steps)
      (NextIs origin fun _ => At origin (.inside p) .evaluate state) (Ended origin) := by
  induction steps with
  | nil => exact Triple.pure fun _ hw => hw
  | cons step rest ih =>
      unfold runCommands
      split
      · exact ih
      · refine Triple.bind (gateOrStop_next r (.inr (.inr rfl))) ?_
        intro gate
        cases gate with
        | result stopped => exact pureResult_next stopped
        | goOn _ =>
            refine Triple.bind (writeCheckpoint_at .evaluate rfl) fun _ => ?_
            refine Triple.bind (acquireWorkspaceLock_next r "workspace_lock") ?_
            intro lock
            cases lock with
            | result stopped => exact pureResult_next stopped
            | goOn _ =>
                refine Triple.bind (askPort_at _) ?_
                intro result
                refine Triple.bind (observe_at _) fun _ => ?_
                exact Triple.bind (collect_at _) fun _ => ih

theorem Ended.evaluating {w : World} {halt : Halt} (h : Ended origin halt w) :
    EndedEvaluating origin control state halt w := by
  unfold EndedEvaluating
  split
  next => cases h.1
  next => exact h

theorem evaluating {α : Type} {pre : World → Prop} {program : Drive α}
    {post : α → World → Prop} (h : Triple pre program post (Ended origin)) :
    Triple pre program post (EndedEvaluating origin control state) :=
  h.weaken (fun _ hw => hw) (fun _ _ hw => hw) (fun _ _ hw => hw.evaluating)

theorem commitSideEffects_at : Triple (At origin (.inside p) source state) commitSideEffects
    (fun _ => At origin (.inside p) source state) (Ended origin) := by
  refine Triple.bind collected_at ?_
  intro evidence
  split
  · exact Triple.pure fun _ hw => hw
  · refine Triple.bind (askPort_at _) ?_
    intro result
    refine Triple.bind (observe_at _) fun _ => ?_
    exact Triple.bind (collect_at _) fun _ => Triple.pure fun _ hw => hw

theorem compensateSideEffects_at : Triple (At origin (.inside p) source state)
    compensateSideEffects (fun _ => At origin (.inside p) source state) (Ended origin) := by
  refine Triple.bind collected_at ?_
  intro evidence
  split
  · exact Triple.pure fun _ hw => hw
  · refine Triple.bind (askPort_at _) fun result => collect_at _

theorem reflectState_leaves (r : Runner) (report : CheckerReport) :
    Triple (At origin (.inside p) .evaluate state) (reflectState r state report)
      (fun _ => Reaches origin .outside) (Ended origin) := by
  refine Triple.bind compensateSideEffects_at fun _ => ?_
  refine Triple.bind (transition_at r (.checkerFailed report)) ?_
  intro reflected
  refine Triple.bind ask_at ?_
  intro answer
  refine Triple.bind (collect_at _) fun _ => ?_
  split
  · exact transition_leaves r (.newRoute _)
  · split
    · exact transition_leaves r (.noRoute _)
    · exact transition_leaves r (.rejected _)

theorem mergeShadow_next (r : Runner) :
    Triple (At origin (.inside p) .evaluate state) (mergeShadow r state)
      (NextIs origin fun _ => At origin (.inside p) .evaluate state) (Ended origin) := by
  unfold mergeShadow
  split
  · refine Triple.bind (acquireWorkspaceLock_next r "merge_workspace_lock") ?_
    intro lock
    cases lock with
    | result stopped => exact pureResult_next stopped
    | goOn _ =>
        refine Triple.bind (askPort_at _) ?_
        intro merged
        refine Triple.bind (observe_at _) fun _ => ?_
        refine Triple.bind (collect_at _) fun _ => ?_
        split
        · exact Triple.bind compensateSideEffects_at fun _ =>
            result_next (transition_leaves r (.mergeConflict merged))
        · exact Triple.pure fun _ hw => hw
  · exact Triple.pure fun _ hw => hw

theorem convergeState_leaves (r : Runner) (report : CheckerReport) :
    Triple (At origin (.inside p) .evaluate state) (convergeState r state report)
      (fun _ => Reaches origin .outside) (Ended origin) := by
  refine Triple.bind commitSideEffects_at ?_
  intro result
  split
  · exact park_leaves r rfl
  · exact transition_leaves r (.checkerPassed report)

theorem acceptedState_leaves (r : Runner) (report : CheckerReport) :
    Triple (At origin (.inside p) .evaluate state) (acceptedState r state report)
      (fun _ => Reaches origin .outside) (Ended origin) := by
  refine Triple.bind (collect_at _) fun _ => ?_
  refine Triple.bind collected_at ?_
  intro evidence
  dsimp only
  split
  · exact Triple.bind (collect_at _) fun _ => transition_leaves r (.continueIteration _)
  · refine Triple.bind (mergeShadow_next r) ?_
    intro merged
    cases merged with
    | result stopped => exact Triple.pure fun _ hw => hw
    | goOn _ => exact convergeState_leaves r report

theorem assessSteps_at (r : Runner) (capabilityResult : Dict) (steps : List VerificationStep) :
    Triple (At origin control .evaluate state) (assessSteps r state capabilityResult steps)
      (fun _ => At origin control .evaluate state) (EndedEvaluating origin control state) := by
  induction steps with
  | nil => exact Triple.pure fun _ hw => hw
  | cons step rest ih =>
      unfold assessSteps
      split
      · exact ih
      · split
        · refine Triple.bind (evaluating (observe_at _)) fun _ => ?_
          exact Triple.bind (evaluating (collect_at _)) fun _ => ih
        · refine Triple.bind (evaluating ask_at) ?_
          intro answer
          split
          · exact Triple.throw fun _ hw => hw
          · refine Triple.bind (evaluating (observe_at _)) fun _ => ?_
            exact Triple.bind (evaluating (collect_at _)) fun _ => ih

theorem populateSemanticCheckerEvidence_at (r : Runner) :
    Triple (At origin control .evaluate state) (populateSemanticCheckerEvidence r state)
      (fun _ => At origin control .evaluate state) (EndedEvaluating origin control state) := by
  refine Triple.bind (evaluating collected_at) ?_
  intro evidence
  dsimp only
  split
  · exact Triple.pure fun _ hw => hw
  next capabilityResult _ => exact assessSteps_at r capabilityResult r.spec.verificationLadder

theorem judgeState_leaves (r : Runner) :
    Triple (At origin (.inside p) .evaluate state) (judgeState r state)
      (fun _ => Reaches origin .outside) (EndedEvaluating origin (.inside p) state) := by
  refine Triple.bind (populateSemanticCheckerEvidence_at r) fun _ => evaluating ?_
  refine Triple.bind (collect_at _) fun _ => ?_
  have hpending : Triple (At origin (.inside p) .evaluate state)
      (modify fun world : World =>
        let clearance := providerTransportRetryClearanceEvidence world.collected
        { world with pending := world.pending.merge clearance } : Drive PUnit)
      (fun _ => At origin (.inside p) .evaluate state) (Ended origin) := by
    refine Triple.modify ?_
    intro w hw
    exact ⟨⟨hw.reaches.1, clearance_merge hw.reaches.2 (clearance_evidence w.collected)⟩, hw.row,
      hw.node⟩
  refine Triple.bind hpending fun _ => ?_
  refine Triple.bind collected_at ?_
  intro evidence
  refine Triple.bind (askPort_at _) ?_
  intro report
  refine Triple.bind (observe_at _) fun _ => ?_
  split
  · exact acceptedState_leaves r report
  · split
    · exact Triple.bind compensateSideEffects_at fun _ => transition_leaves r (.hardTimeout report)
    · exact reflectState_leaves r report

theorem evaluateState_leaves (r : Runner) :
    Triple (At origin (.inside p) .evaluate state) (evaluateState r state)
      (fun _ => Reaches origin .outside) (EndedEvaluating origin (.inside p) state) := by
  refine Triple.bind (evaluating (observe_at _)) fun _ => ?_
  refine Triple.bind (evaluating (gateOrStop_next r (.inr (.inr rfl)))) ?_
  intro gate
  cases gate with
  | result stopped => exact Triple.pure fun _ hw => hw
  | goOn _ =>
      refine Triple.bind (evaluating (runCommands_next r r.spec.verificationLadder))
        ?_
      intro commands
      cases commands with
      | result stopped => exact Triple.pure fun _ hw => hw
      | goOn _ => exact judgeState_leaves r

theorem checkerCallFailed_leaves (r : Runner) (failureFacts : Dict) (cause : String) :
    Triple (At origin (.inside p) .evaluate state) (checkerCallFailed r state failureFacts cause)
      (fun _ => Reaches origin .outside) (Ended origin) := by
  refine Triple.bind collected_at ?_
  intro evidence
  split
  · exact Triple.throw fun _ hw => hw.reaches.ended rfl
  · split
    next gate hgate =>
      exact Triple.bind (collect_at _) fun _ =>
        park_leaves r ⟨rfl, nextProviderTransportRetryGate_spec hgate⟩
    next =>
      refine Triple.bind (collect_at _) fun _ => ?_
      exact Triple.bind (transition_at r (.checkerCallFailed failureFacts _ _)) fun reflected =>
        transition_leaves r (.checkerCallRejected failureFacts _ _)

theorem evaluateOrRetry_leaves (r : Runner) :
    Triple (At origin (.inside p) .evaluate state) (evaluateOrRetry r state)
      (fun _ => Reaches origin .outside) (Ended origin) := by
  refine Triple.tryCatch (evaluateState_leaves r) ?_
  intro halt
  split
  next failureFacts cause => exact checkerCallFailed_leaves r failureFacts cause
  next hother =>
    refine Triple.throw ?_
    intro w hw
    unfold EndedEvaluating at hw
    split at hw
    next failureFacts cause => exact absurd rfl (hother failureFacts cause)
    next => exact hw

/-! ## The runner's loop -/

/-- It has, and the loop is not stopped. -/
def Running (origin : Config) (w : World) : Prop :=
  Reaches origin .outside w ∧ w.cell.run.terminalState = none

theorem claimOnce_running (r : Runner) : Triple (Running origin) (claimOnce r)
    (fun _ => Running origin) (Ended origin) := by
  have hget : Triple (Running origin) get (fun found w => found = w ∧ Running origin w)
      (Ended origin) := Triple.get fun _ hw => ⟨rfl, hw⟩
  have hask : Triple (Running origin) ask (fun _ => Running origin) (Ended origin) := by
    intro w hw
    rw [ask_eq]
    cases w.answers with
    | nil => exact hw.1.ended rfl
    | cons answer rest => exact hw
  refine Triple.bind (Triple.get fun _ hw => hw) fun _ => ?_
  split
  · exact Triple.pure fun _ hw => hw
  · refine Triple.bind hask ?_
    intro answer
    refine Triple.bind hget ?_
    intro found
    split
    · exact Triple.throw fun _ hw => hw.2.1.ended rfl
    next cell hclaimed =>
      refine Triple.set ?_
      intro w hw
      obtain ⟨rfl, hreaches, hrunning⟩ := hw
      refine ⟨⟨hreaches.1.tail (.claims hclaimed), hreaches.2⟩, ?_⟩
      obtain ⟨-, rfl⟩ := claimForExecution_eq_some.mp hclaimed
      exact hrunning

theorem createShadow_at (r : Runner) : Triple (At origin control source state) (createShadow r)
    (fun _ => At origin control source state) (Ended origin) := by
  unfold createShadow
  split
  · exact Triple.bind (askPort_at _) fun _ => collect_at _
  · exact Triple.pure fun _ hw => hw

theorem planPhase_next (r : Runner) :
    Triple (At origin (.inside p) source state) (planPhase r state p)
      (NextIs origin fun value => At origin (.inside value.2) value.1.node value.1)
      (Ended origin) := by
  unfold planPhase
  refine Triple.assume (fun w hw => hw.node) ?_
  intro hnode
  subst hnode
  split
  next hplan =>
    rw [hplan]
    refine Triple.bind (planState_next r) ?_
    intro next
    cases next with
    | result stopped => exact pureResult_next stopped
    | goOn value =>
        refine Triple.pure ?_
        intro w hw
        exact ⟨hw.reaches, hw.row, rfl⟩
  next => exact Triple.pure fun _ hw => hw

theorem evaluatePhase_leaves (r : Runner) :
    Triple (At origin (.inside p) source state) (evaluatePhase r state)
      (fun _ => Reaches origin .outside) (Ended origin) := by
  unfold evaluatePhase
  refine Triple.assume (fun w hw => hw.node) ?_
  intro hnode
  subst hnode
  split
  next hevaluate =>
    rw [hevaluate]
    exact evaluateOrRetry_leaves r
  next => exact Triple.pure fun _ hw => hw.reaches.leave

theorem actPhases_leaves (r : Runner) :
    Triple (At origin (.inside p) source state) (actPhases r state p)
      (fun _ => Reaches origin .outside) (Ended origin) := by
  unfold actPhases
  refine Triple.assume (fun w hw => hw.node) ?_
  intro hnode
  subst hnode
  split
  next hexecute =>
    rw [hexecute]
    refine Triple.bind (executeState_next r p) ?_
    intro next
    cases next with
    | result stopped => exact Triple.pure fun _ hw => hw
    | goOn next => exact evaluatePhase_leaves r
  next => exact evaluatePhase_leaves r

theorem runPhases_leaves (r : Runner) (evidence : Dict) :
    Triple (Running origin) (runPhases r evidence) (fun _ => Reaches origin .outside)
      (Ended origin) := by
  have hget : Triple (Running origin) get (fun found w => found = w ∧ Running origin w)
      (Ended origin) := Triple.get fun _ hw => ⟨rfl, hw⟩
  refine Triple.bind hget ?_
  intro found
  have hstarts : Triple (fun w => found = w ∧ Running origin w)
      (note (.started found.cell evidence))
      (fun _ => At origin (.inside (startingStep found.cell evidence)) found.cell.run.node
        found.cell.run) (Ended origin) := by
    refine Triple.modify ?_
    intro w hw
    obtain ⟨rfl, hreaches, hrunning⟩ := hw
    exact ⟨⟨hreaches.1.tail (.starts evidence hrunning), hreaches.2⟩, rfl, rfl⟩
  refine Triple.bind hstarts fun _ => ?_
  refine Triple.bind (collect_at _) fun _ => ?_
  refine Triple.bind (createShadow_at r) fun _ => ?_
  refine Triple.bind (planPhase_next r) ?_
  intro next
  cases next with
  | result stopped => exact Triple.pure fun _ hw => hw
  | goOn value => exact actPhases_leaves r

theorem runAsyncImpl_leaves (r : Runner) (evidence : Dict) :
    Triple (Reaches origin .outside) (runAsyncImpl r evidence)
      (fun _ => Reaches origin .outside) (Ended origin) := by
  unfold runAsyncImpl
  split
  · exact Triple.throw fun _ hw => hw.ended rfl
  · refine Triple.bind ask_reaches fun _ => ?_
    have hget : Triple (Reaches origin .outside) get
        (fun found w => found = w ∧ Reaches origin .outside w) (Ended origin) :=
      Triple.get fun _ hw => ⟨rfl, hw⟩
    refine Triple.bind hget ?_
    intro found
    split
    · refine Triple.bind (Triple.modify fun _ hw => hw.2) fun _ => Triple.pure fun _ hw => hw
    next hrunning =>
      have hclaim : Triple (fun w => found = w ∧ Reaches origin .outside w) (claimOnce r)
          (fun _ => Running origin) (Ended origin) := by
        refine (claimOnce_running r).weaken (fun w hw => ?_) (fun _ _ h => h) (fun _ _ h => h)
        obtain ⟨rfl, hreaches⟩ := hw
        exact ⟨hreaches, by simpa using hrunning⟩
      exact Triple.bind hclaim fun _ => runPhases_leaves r evidence

theorem runLoop_leaves (r : Runner) (calls : Nat) (evidence : Dict) :
    Triple (Reaches origin .outside) (runLoop r calls evidence)
      (fun _ => Reaches origin .outside) (Ended origin) := by
  have hcheck : Triple (Reaches origin .outside) checkLeaseRenewal
      (fun _ => Reaches origin .outside) (Ended origin) := by
    refine Triple.bind ask_reaches ?_
    intro answer
    split
    · exact Triple.throw fun _ hw => hw.ended rfl
    · exact Triple.pure fun _ hw => hw
  have hcollected : Triple (Reaches origin .outside) collected
      (fun _ => Reaches origin .outside) (Ended origin) :=
    Triple.bind (Triple.get fun _ hw => hw) fun _ => Triple.pure fun _ hw => hw
  induction calls generalizing evidence with
  | zero => exact Triple.throw fun _ hw => hw.ended rfl
  | succ calls ih =>
      refine Triple.bind (runAsyncImpl_leaves r evidence) ?_
      intro state
      refine Triple.bind hcheck fun _ => ?_
      split
      · exact Triple.pure fun _ hw => hw
      · exact Triple.bind hcollected fun evidence => ih evidence

end

theorem runAsync_moves (r : Runner) (cell : LoopCell) (log : List Event) (calls : Nat)
    (evidence : Dict) (answers : List Answer) :
    ∃ control, Relation.ReflTransGen Move ⟨cell, log, .outside⟩
      ⟨(runAsync r cell log calls evidence answers).1,
        (runAsync r cell log calls evidence answers).2, control⟩ := by
  have hstart : Reaches ⟨cell, log, .outside⟩ .outside (startWorld cell log answers) :=
    ⟨.refl, .nothing⟩
  have hrun := runLoop_leaves r calls evidence (startWorld cell log answers) hstart
  unfold runAsync
  cases hend : runLoop r calls evidence (startWorld cell log answers) with
  | ok state world =>
      rw [hend] at hrun
      exact ⟨.outside, hrun.1⟩
  | error halt world =>
      rw [hend] at hrun
      exact hrun.2

end Navi.StateGraph
