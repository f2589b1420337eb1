import Navi.StateGraph.CrashedEvaluation

/-!
# Merges into the real workspace

An evaluation that was accepted merges the shadow workspace, commits the staged side
effects and moves the loop to `CONVERGED`: three operations, of which only the last
looks at the lease. The calls are cut before the merge, whose first state holds the
row that the driver has claimed.
-/

namespace Navi.StateGraph

open Navi.Base Navi.Loop

/-! ## Calls up to their merge -/

/-- The branch of `_evaluate_state` on an accepted report, up to the merge. -/
def acceptedToMerge (r : Runner) (state : LoopRunState) (report : CheckerReport) :
    Drive (Next CheckerReport) := do
  collect acceptResponse
  let evidence ← collected
  let isTerminal := ((evidence.sub "capability_result").getD []).flag "terminal"
  if surfaceResponseRequired r.spec r.plannerSpecs && !hasSurfaceResult evidence
      && !isTerminal && state.attempt < r.spec.maxAttempts then
    collect fun evidence => evidence.put "surface_response" (.obj surfaceResponse)
    Next.result <$> transition r state .plan "continue_iteration" none
      [("reason", .str "verified_facts_require_user_facing_result"),
        ("attempt", .int state.attempt)]
  else if r.spec.workspaceMode = .shadow then
    match ← acquireWorkspaceLock r state "merge_workspace_lock" with
    | .result stopped => return .result stopped
    | .goOn _ => return .goOn report
  else Next.result <$> convergeState r state report

def mergeAndConverge (r : Runner) (state : LoopRunState) (report : CheckerReport) :
    Drive LoopRunState := do
  let merged ← askPort (·.merged)
  observe (.merged merged)
  collect fun evidence => evidence.put "merge_result" (.obj merged.toDict)
  if merged.status = .conflicted then
    compensateSideEffects
    transition r state .evaluate "merge_conflict" (some .conflicted) merged.toDict
  else convergeState r state report

/-- What an evaluation does with what its part before the merge hands over. -/
def mergeNext (r : Runner) (state : LoopRunState) : Next CheckerReport → Drive LoopRunState
  | .result result => return result
  | .goOn report => mergeAndConverge r state report

/-- `_evaluate_state`, from the semantic check to the merge. -/
def judgeToMerge (r : Runner) (state : LoopRunState) : Drive (Next CheckerReport) := do
  populateSemanticCheckerEvidence r state
  collect fun evidence => clearProviderTransportRetryGate evidence "checker"
  modify fun world =>
    { world with
      pending := world.pending.merge (providerTransportRetryClearanceEvidence world.collected) }
  let evidence ← collected
  let report ← askPort fun answer => r.checker answer r.spec evidence
  observe (.judged report)
  if report.accepted then
    acceptedToMerge r state report
  else if report.timedOut then
    compensateSideEffects
    Next.result <$> transition r state .evaluate "hard_timeout" (some .timedOut) report.toDict
  else
    Next.result <$> reflectState r state report

/-- `_evaluate_state`, up to the merge. -/
def evaluateToMerge (r : Runner) (state : LoopRunState) : Drive (Next CheckerReport) := do
  observe (.evaluating state)
  match ← gateOrStop r state with
  | .result stopped => return .result stopped
  | .goOn _ =>
      match ← runCommands r state r.spec.verificationLadder with
      | .result stopped => return .result stopped
      | .goOn _ => judgeToMerge r state

/-- `_run_async_impl` at `EVALUATE`, up to the merge. -/
def evaluateOrRetryToMerge (r : Runner) (state : LoopRunState) : Drive (Next CheckerReport) :=
  tryCatch (evaluateToMerge r state) fun halt =>
    match halt with
    | .raised (.semanticCheckerCall failureFacts cause) =>
        Next.result <$> checkerCallFailed r state failureFacts cause
    | halt => throw halt

/-- A call of `_run_async_impl`, up to its merge. -/
def callToMerge (r : Runner) (evidence : Dict) : Drive (Next (LoopRunState × CheckerReport)) := do
  match ← callToEvaluation r evidence with
  | .result result => return .result result
  | .goOn state =>
      if state.node = .evaluate then
        match ← evaluateOrRetryToMerge r state with
        | .result result => return .result result
        | .goOn report => return .goOn (state, report)
      else return .result state

/-- What a call does with what its part before the merge hands over. -/
def mergeNextCall (r : Runner) : Next (LoopRunState × CheckerReport) → Drive LoopRunState
  | .result result => return result
  | .goOn (state, report) => mergeAndConverge r state report

section

variable {state : LoopRunState}

theorem result_bind {α : Type} (program : Drive LoopRunState) (rest : Next α → Drive LoopRunState)
    (hresult : ∀ result, rest (.result result) = pure result) :
    (Next.result <$> program) >>= rest = program := by
  rw [bind_map_left]
  simp only [hresult, bind_pure]

theorem acceptedState_eq (r : Runner) (state : LoopRunState) (report : CheckerReport) :
    acceptedState r state report = acceptedToMerge r state report >>= mergeNext r state := by
  unfold acceptedState acceptedToMerge
  simp only [bind_assoc]
  congr 1
  funext _
  congr 1
  funext evidence
  split
  · rw [bind_assoc]
    congr 1
    funext _
    exact (result_bind _ _ fun _ => rfl).symm
  · unfold mergeShadow
    split
    · simp only [bind_assoc]
      congr 1
      funext lock
      cases lock with
      | result stopped => rfl
      | goOn _ =>
          rw [pure_bind]
          simp only [bind_assoc, mergeNext, mergeAndConverge]
          congr 1
          funext merged
          congr 1
          funext _
          congr 1
          funext _
          split
          · simp only [bind_assoc]
            congr 1
            funext _
            exact result_bind _ _ fun _ => rfl
          · rfl
    · rw [pure_bind]
      exact (result_bind _ _ fun _ => rfl).symm

theorem judgeState_eq (r : Runner) (state : LoopRunState) :
    judgeState r state = judgeToMerge r state >>= mergeNext r state := by
  unfold judgeState judgeToMerge
  simp only [bind_assoc]
  congr 1
  funext _
  congr 1
  funext _
  congr 1
  funext _
  congr 1
  funext evidence
  congr 1
  funext report
  congr 1
  funext _
  split
  · exact acceptedState_eq r state report
  · split
    · simp only [bind_assoc]
      congr 1
      funext _
      exact (result_bind _ _ fun _ => rfl).symm
    · exact (result_bind _ _ fun _ => rfl).symm

theorem evaluateState_eq (r : Runner) (state : LoopRunState) :
    evaluateState r state = evaluateToMerge r state >>= mergeNext r state := by
  unfold evaluateState evaluateToMerge
  simp only [bind_assoc]
  congr 1
  funext _
  congr 1
  funext gate
  cases gate with
  | result stopped => rfl
  | goOn _ =>
      simp only [bind_assoc]
      congr 1
      funext commands
      cases commands with
      | result stopped => rfl
      | goOn _ => exact judgeState_eq r state

/-- The program does not stop by a failed call of the semantic checker. -/
def NoCheckerCall {α : Type} (program : Drive α) : Prop :=
  Triple (fun _ => True) program (fun _ _ => True) fun halt _ => halt.isCheckerCall = false

theorem NoCheckerCall.bind {α β : Type} {program : Drive α} {rest : α → Drive β}
    (h : NoCheckerCall program) (hrest : ∀ a, NoCheckerCall (rest a)) :
    NoCheckerCall (program >>= rest) := Triple.bind h hrest

theorem noCheckerCall_pure {α : Type} (a : α) : NoCheckerCall (pure a : Drive α) :=
  Triple.pure fun _ _ => trivial

theorem noCheckerCall_modify (f : World → World) : NoCheckerCall (modify f : Drive Unit) :=
  Triple.modify fun _ _ => trivial

theorem noCheckerCall_ask : NoCheckerCall ask := by
  intro w _
  rw [ask_eq]
  cases w.answers with
  | nil => rfl
  | cons answer rest => trivial

theorem noCheckerCall_askPort {α : Type} (port : Answer → Except String α) :
    NoCheckerCall (askPort port) := by
  refine noCheckerCall_ask.bind fun answer => ?_
  split
  · exact noCheckerCall_pure _
  · exact Triple.throw fun _ _ => rfl

theorem noCheckerCall_transition (r : Runner) (node : LoopNode) (condition : String)
    (terminalState : Option LoopTerminalState) (evidence : Dict) :
    NoCheckerCall (transition r state node condition terminalState evidence) := by
  have hget : NoCheckerCall (get : Drive World) := Triple.get fun _ _ => trivial
  have hcheck : NoCheckerCall checkLeaseRenewal := by
    refine noCheckerCall_ask.bind fun answer => ?_
    split
    · exact Triple.throw fun _ _ => rfl
    · exact noCheckerCall_pure _
  have hstore (request : TransitionRequest) : NoCheckerCall (storeTransition request) := by
    refine noCheckerCall_ask.bind fun answer => hget.bind fun found => ?_
    split
    · exact NoCheckerCall.bind (Triple.set fun _ _ => trivial) fun _ => noCheckerCall_pure _
    · exact (noCheckerCall_modify _).bind fun _ => Triple.throw fun _ _ => rfl
  refine hcheck.bind fun _ => NoCheckerCall.bind ?_ fun id => hget.bind fun found => ?_
  · exact noCheckerCall_ask.bind fun answer => (noCheckerCall_modify _).bind fun _ =>
      noCheckerCall_pure _
  · exact (hstore _).bind fun next => (noCheckerCall_modify _).bind fun _ => noCheckerCall_pure _

theorem noCheckerCall_collected : NoCheckerCall collected :=
  NoCheckerCall.bind (Triple.get fun _ _ => trivial) fun _ => noCheckerCall_pure _

theorem noCheckerCall_mergeNext (r : Runner) (next : Next CheckerReport) :
    NoCheckerCall (mergeNext r state next) := by
  have hcompensate : NoCheckerCall compensateSideEffects := by
    refine noCheckerCall_collected.bind fun evidence => ?_
    split
    · exact noCheckerCall_pure _
    · exact (noCheckerCall_askPort _).bind fun _ => noCheckerCall_modify _
  have hcommit : NoCheckerCall commitSideEffects := by
    refine noCheckerCall_collected.bind fun evidence => ?_
    split
    · exact noCheckerCall_pure _
    · exact (noCheckerCall_askPort _).bind fun _ => (noCheckerCall_modify _).bind fun _ =>
        (noCheckerCall_modify _).bind fun _ => noCheckerCall_pure _
  cases next with
  | result result => exact noCheckerCall_pure _
  | goOn report =>
      refine (noCheckerCall_askPort _).bind fun merged => (noCheckerCall_modify _).bind fun _ =>
        (noCheckerCall_modify _).bind fun _ => ?_
      split
      · exact hcompensate.bind fun _ => noCheckerCall_transition r _ _ _ _
      · refine hcommit.bind fun committed => ?_
        split
        · exact (noCheckerCall_modify _).bind fun _ =>
            (noCheckerCall_transition r _ _ _ _).bind fun _ => noCheckerCall_transition r _ _ _ _
        · exact noCheckerCall_transition r _ _ _ _

theorem evaluateOrRetry_eq (r : Runner) (state : LoopRunState) :
    evaluateOrRetry r state = evaluateOrRetryToMerge r state >>= mergeNext r state := by
  funext w
  unfold evaluateOrRetry evaluateOrRetryToMerge
  rw [evaluateState_eq]
  simp only [tryCatch, tryCatchThe, MonadExceptOf.tryCatch, EStateM.tryCatch, bind, EStateM.bind,
    EStateM.Backtrackable.restore, EStateM.dummyRestore]
  cases hrun : evaluateToMerge r state w with
  | ok next w₁ =>
      dsimp only
      have hnever : NoCheckerCall (mergeNext r state next) := noCheckerCall_mergeNext r next
      have hend := hnever w₁ trivial
      cases hnext : mergeNext r state next w₁ with
      | ok result w₂ => rfl
      | error halt w₂ =>
          rw [hnext] at hend
          dsimp only
          split
          next => cases hend
          next => rfl
  | error halt w₁ =>
      cases halt with
      | died => rfl
      | raised error =>
          cases error with
          | store error => rfl
          | other message => rfl
          | semanticCheckerCall failureFacts cause =>
              exact (congrFun (result_bind (checkerCallFailed r state failureFacts cause)
                (mergeNext r state) fun _ => rfl) w₁).symm

theorem runAsyncImpl_eq_merge (r : Runner) (evidence : Dict) :
    runAsyncImpl r evidence = callToMerge r evidence >>= mergeNextCall r := by
  rw [runAsyncImpl_eq]
  unfold callToMerge
  rw [bind_assoc]
  congr 1
  funext next
  cases next with
  | result result => rfl
  | goOn state =>
      show evaluatePhase r state = _
      unfold evaluatePhase
      dsimp only
      split
      · rw [evaluateOrRetry_eq, bind_assoc]
        congr 1
        funext next
        cases next with
        | result result => rfl
        | goOn report => rfl
      · rfl

end

/-! ## Drives up to their merge -/

/-- A drive of `run_async` gets to the merge of one of its calls, in the world
`before`. -/
inductive MergesIn (r : Runner) : Nat → Dict → World → LoopRunState → CheckerReport → World →
    Prop where
  | now {calls : Nat} {evidence : Dict} {start before : World} {state : LoopRunState}
      {report : CheckerReport}
      (h : callToMerge r evidence start = .ok (.goOn (state, report)) before) :
      MergesIn r (calls + 1) evidence start state report before
  | later {calls : Nat} {evidence : Dict} {start ended checked before : World}
      {ending state : LoopRunState} {report : CheckerReport}
      (hcall : runAsyncImpl r evidence start = .ok ending ended)
      (hcheck : checkLeaseRenewal ended = .ok () checked)
      (hnext : ¬ (ending.node ≠ .plan ∨ ending.isStopped))
      (h : MergesIn r calls checked.collected checked state report before) :
      MergesIn r (calls + 1) evidence start state report before

section

variable {origin : Config} {state : LoopRunState} {source : LoopNode}
  {p : Option PlannedCapabilityStep} {r : Runner} {evidence : Dict}

/-- A phase goes on with the loop's row, at its node. -/
def GoesOnAt (origin : Config) : Next LoopRunState → World → Prop :=
  NextIs origin fun next w => ∃ p, At origin (.inside p) next.node next w

theorem executePhase_next (r : Runner) :
    Triple (At origin (.inside p) source state) (executePhase r state p) (GoesOnAt origin)
      (Ended origin) := by
  unfold executePhase
  refine Triple.assume (fun w hw => hw.node) ?_
  intro hnode
  subst hnode
  split
  next hexecute =>
    rw [hexecute]
    refine (executeState_next r p).weaken (fun _ hw => hw) ?_ (fun _ _ h => h)
    intro next w hw
    cases next with
    | result stopped => exact hw
    | goOn next => exact ⟨p, hw.reaches, hw.row, rfl⟩
  next => exact Triple.pure fun _ hw => ⟨p, hw⟩

theorem phasesToEvaluation_next (r : Runner) (evidence : Dict) :
    Triple (Running origin) (phasesToEvaluation r evidence) (GoesOnAt origin) (Ended origin) := by
  refine Triple.get_bind (fun _ hw => hw.2) ?_
  intro found hrunning
  have hstarts : Triple (fun w => found = w ∧ Running origin w)
      (note (.started found.cell evidence))
      (fun _ => At origin (.inside (startingStep found.cell evidence)) found.cell.run.node
        found.cell.run) (Ended origin) := by
    refine Triple.modify ?_
    rintro w ⟨rfl, hreaches, hrunning⟩
    exact ⟨⟨hreaches.1.tail (.starts evidence hrunning), hreaches.2⟩, rfl, rfl⟩
  refine Triple.bind hstarts fun _ => ?_
  refine Triple.bind (collect_at _) fun _ => ?_
  refine Triple.bind (createShadow_at r) fun _ => ?_
  refine Triple.bind (planPhase_next r) ?_
  intro next
  cases next with
  | result stopped => exact Triple.pure fun _ hw => hw
  | goOn value => exact executePhase_next r

theorem callToEvaluation_next (r : Runner) (evidence : Dict) :
    Triple (Reaches origin .outside) (callToEvaluation r evidence) (GoesOnAt origin)
      (Ended origin) := by
  unfold callToEvaluation
  split
  · exact Triple.throw fun _ hw => hw.ended rfl
  · refine Triple.bind ask_reaches fun _ => ?_
    refine Triple.bind Triple.get_self ?_
    intro found
    split
    · exact Triple.bind (Triple.modify fun _ hw => hw.2) fun _ => Triple.pure fun _ hw => hw
    next hrunning =>
      have hclaim : Triple (fun w => found = w ∧ Reaches origin .outside w) (claimOnce r)
          (fun _ => Running origin) (Ended origin) := by
        refine (claimOnce_running r).weaken ?_ (fun _ _ h => h) (fun _ _ h => h)
        rintro w ⟨rfl, hreaches⟩
        exact ⟨hreaches, by simpa using hrunning⟩
      exact Triple.bind hclaim fun _ => phasesToEvaluation_next r evidence

theorem acceptedToMerge_next (r : Runner) (report : CheckerReport) :
    Triple (At origin (.inside p) .evaluate state) (acceptedToMerge r state report)
      (NextIs origin fun _ => At origin (.inside p) .evaluate state) (Ended origin) := by
  refine Triple.bind (collect_at _) fun _ => Triple.bind collected_at fun evidence => ?_
  dsimp only
  split
  · exact Triple.bind (collect_at _) fun _ =>
      result_next (transition_leaves r (.continueIteration _))
  · split
    · refine Triple.bind (acquireWorkspaceLock_next r "merge_workspace_lock") fun lock => ?_
      cases lock with
      | result stopped => exact pureResult_next stopped
      | goOn _ => exact Triple.pure fun _ hw => hw
    · exact result_next (convergeState_leaves r report)

theorem judgeToMerge_next (r : Runner) :
    Triple (At origin (.inside p) .evaluate state) (judgeToMerge r state)
      (NextIs origin fun _ => At origin (.inside p) .evaluate state)
      (EndedEvaluating origin (.inside p) state) := by
  refine Triple.bind (populateSemanticCheckerEvidence_at r) fun _ => evaluating ?_
  refine Triple.bind (collect_at _) fun _ => ?_
  have hpending : Triple (At origin (.inside p) .evaluate state)
      (modify fun world : World =>
        let clearance := providerTransportRetryClearanceEvidence world.collected
        { world with pending := world.pending.merge clearance } : Drive PUnit)
      (fun _ => At origin (.inside p) .evaluate state) (Ended origin) := by
    refine Triple.modify ?_
    intro w hw
    exact ⟨⟨hw.reaches.1, clearance_merge hw.reaches.2 (clearance_evidence w.collected)⟩, hw.row,
      hw.node⟩
  refine Triple.bind hpending fun _ => Triple.bind collected_at fun evidence => ?_
  refine Triple.bind (askPort_at _) fun report => Triple.bind (observe_at _) fun _ => ?_
  split
  · exact acceptedToMerge_next r report
  · split
    · exact Triple.bind compensateSideEffects_at fun _ =>
        result_next (transition_leaves r (.hardTimeout report))
    · exact result_next (reflectState_leaves r report)

theorem evaluateToMerge_next (r : Runner) :
    Triple (At origin (.inside p) .evaluate state) (evaluateToMerge r state)
      (NextIs origin fun _ => At origin (.inside p) .evaluate state)
      (EndedEvaluating origin (.inside p) state) := by
  refine Triple.bind (evaluating (observe_at _)) fun _ => ?_
  refine Triple.bind (evaluating (gateOrStop_next r (.inr (.inr rfl)))) fun gate => ?_
  cases gate with
  | result stopped => exact Triple.pure fun _ hw => hw
  | goOn _ =>
      refine Triple.bind (evaluating (runCommands_next r r.spec.verificationLadder))
        fun commands => ?_
      cases commands with
      | result stopped => exact Triple.pure fun _ hw => hw
      | goOn _ => exact judgeToMerge_next r

theorem evaluateOrRetryToMerge_next (r : Runner) :
    Triple (At origin (.inside p) .evaluate state) (evaluateOrRetryToMerge r state)
      (NextIs origin fun _ => At origin (.inside p) .evaluate state) (Ended origin) := by
  refine Triple.tryCatch (evaluateToMerge_next r) fun halt => ?_
  split
  next failureFacts cause => exact result_next (checkerCallFailed_leaves r failureFacts cause)
  next hother =>
    refine Triple.throw fun w hw => ?_
    unfold EndedEvaluating at hw
    split at hw
    next failureFacts cause => exact absurd rfl (hother failureFacts cause)
    next => exact hw

theorem callToMerge_next (r : Runner) (evidence : Dict) :
    Triple (Reaches origin .outside) (callToMerge r evidence)
      (NextIs origin fun value w => ∃ p, At origin (.inside p) .evaluate value.1 w)
      (Ended origin) := by
  refine Triple.bind (callToEvaluation_next r evidence) fun next => ?_
  cases next with
  | result result => exact Triple.pure fun _ hw => hw
  | goOn state =>
      refine Triple.of_each ?_
      rintro w ⟨p, hat⟩
      dsimp only
      split
      next hevaluate =>
        rw [hevaluate] at hat
        have hevaluates : Triple (fun w' => w' = w) (evaluateOrRetryToMerge r state)
            (NextIs origin fun _ => At origin (.inside p) .evaluate state) (Ended origin) := by
          refine (evaluateOrRetryToMerge_next r).weaken ?_ (fun _ _ h => h) (fun _ _ h => h)
          rintro _ rfl
          exact hat
        refine Triple.bind hevaluates fun next => ?_
        cases next with
        | result result => exact Triple.pure fun _ hw => hw
        | goOn report => exact Triple.pure fun _ hw => ⟨p, hw⟩
      next =>
        refine Triple.pure ?_
        rintro _ rfl
        exact hat.reaches.leave

theorem MergesIn.reaches {calls : Nat} {start before : World} {report : CheckerReport}
    (h : MergesIn r calls evidence start state report before)
    (hstart : Reaches origin .outside start) :
    ∃ p, At origin (.inside p) .evaluate state before := by
  induction h with
  | @now _ evidence _ _ _ _ h =>
      have hmerges := callToMerge_next r evidence _ hstart
      rw [h] at hmerges
      exact hmerges
  | @later _ evidence _ _ _ _ _ _ _ hcall hcheck hnext h ih =>
      refine ih ?_
      have hended := runAsyncImpl_leaves r evidence _ hstart
      rw [hcall] at hended
      have hrows : OnRows fun w => Reaches origin .outside w := fun _ _ _ hw => hw
      have hchecked := hrows.checkLeaseRenewal _ hended
      rw [hcheck] at hchecked
      exact hchecked

end

end Navi.StateGraph
