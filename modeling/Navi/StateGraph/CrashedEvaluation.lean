import Navi.StateGraph.Resume
import Navi.StateGraph.ResumedCalls

/-!
# What a recovered evaluation sees

The executed result is in the evidence the call has collected, under
`capability_result`. A process that dies at `EVALUATE` loses it, and the daemon
resumes a running loop with no evidence of its own. The calls are cut before
`evaluateOrRetry`, whose first state holds what the evaluation sees.
-/

namespace Navi.StateGraph

open Navi.Base Navi.Loop

/-! ## Calls up to their evaluation -/

/-- The phase `EXECUTE`, when the loop is there. -/
def executePhase (r : Runner) (state : LoopRunState) (planned : Option PlannedCapabilityStep) :
    Drive (Next LoopRunState) :=
  if state.node = .execute then executeState r state planned else return .goOn state

/-- The phases before `EVALUATE`. -/
def phasesToEvaluation (r : Runner) (evidence : Dict) : Drive (Next LoopRunState) := do
  let world ← get
  note (.started world.cell evidence)
  collect fun _ => evidence
  createShadow r
  match ← planPhase r world.cell.run (startingStep world.cell evidence) with
  | .result result => return .result result
  | .goOn (state, planned) => executePhase r state planned

/-- A call of `_run_async_impl` up to its evaluation. -/
def callToEvaluation (r : Runner) (evidence : Dict) : Drive (Next LoopRunState) := do
  match r.specError with
  | some error => raise (.other error)
  | none =>
      let _ ← ask
      let world ← get
      if world.cell.run.isStopped then
        collect fun _ => evidence
        return .result world.cell.run
      else
        claimOnce r
        phasesToEvaluation r evidence

/-- What a phase before `EVALUATE` hands over. -/
def evaluateNext (r : Runner) : Next LoopRunState → Drive LoopRunState
  | .result result => return result
  | .goOn state => evaluatePhase r state

theorem actPhases_eq (r : Runner) (state : LoopRunState)
    (planned : Option PlannedCapabilityStep) :
    actPhases r state planned = executePhase r state planned >>= evaluateNext r := by
  unfold actPhases executePhase
  split
  · rfl
  · rw [pure_bind]
    rfl

theorem runPhases_eq (r : Runner) (evidence : Dict) :
    runPhases r evidence = phasesToEvaluation r evidence >>= evaluateNext r := by
  simp only [runPhases, phasesToEvaluation, bind_assoc]
  congr 1
  funext world
  congr 1
  funext _
  congr 1
  funext _
  congr 1
  funext _
  congr 1
  funext next
  cases next with
  | result result => exact (pure_bind _ _).symm
  | goOn value => exact actPhases_eq r value.1 value.2

theorem runAsyncImpl_eq (r : Runner) (evidence : Dict) :
    runAsyncImpl r evidence = callToEvaluation r evidence >>= evaluateNext r := by
  unfold runAsyncImpl callToEvaluation
  cases r.specError with
  | some error => rfl
  | none =>
      simp only [bind_assoc]
      congr 1
      funext _
      congr 1
      funext world
      split
      · simp only [bind_assoc, pure_bind]
        rfl
      · rw [bind_assoc, runPhases_eq]

/-! ## Crashes and recoveries -/

/-- A call that would enter its evaluation in the world `entry`, and a process
that dies after some of its operations, with the loop still running at
`EVALUATE`. -/
structure Interrupted (r : Runner) (evidence : Dict) (start : World) (state : LoopRunState)
    (entry crash : World) : Prop where
  enters : callToEvaluation r evidence start = .ok (.goOn state) entry
  evaluates : state.node = .evaluate
  dies : ∃ performed, runAsyncImpl r evidence
    { start with answers := start.answers.take performed } = .error .died crash
  node : crash.cell.run.node = .evaluate
  running : crash.cell.run.terminalState = none

/-- The daemon claims the loop and resumes it in a call of the runner's that
enters its evaluation in the world `entry`. -/
inductive RecoversTo (r : Runner) (cell : LoopCell) (entry : World) : Prop where
  | resumed (r' : Runner) (tick : QueueTick) (claimed resumed : LoopCell) (retryPause : Bool)
      (runId : String) (now later : Time) (answers : List Answer) (state : LoopRunState)
      (hspec : r'.spec = r.spec) (herror : r'.specError = r.specError)
      (howner : r'.executionOwner = tick.owner)
      (hclaim : queueClaim cell tick = some (claimed, retryPause))
      (hreopen : reopenToResume claimed (queueResume retryPause) now later = .ok resumed)
      (henters : callToEvaluation r'
        (graphEvidence claimed.run runId (queueResume retryPause))
        (startWorld resumed [] answers) = .ok (.goOn state) entry)
      (hnode : state.node = .evaluate)

/-- Every evaluation that recovery gets to sees the `capability_result` that the
interrupted one would have seen. -/
def KeepsResult (r : Runner) (crash : LoopCell) (entry : World) : Prop :=
  ∀ recovered, RecoversTo r crash recovered →
    recovered.collected.get "capability_result" = entry.collected.get "capability_result"

/-! ## The collected evidence -/

/-- An executed result is in the collected evidence. -/
def HasResult (w : World) : Prop := (w.collected.get "capability_result").isSome

section

variable {state : LoopRunState}

theorem ask_collected (φ : Dict → Prop) :
    Triple (fun w => φ w.collected) ask (fun _ w => φ w.collected) (fun _ _ => True) := by
  intro w hw
  rw [ask_eq]
  cases w.answers with
  | nil => trivial
  | cons answer rest => exact hw

theorem askPort_collected {α : Type} (φ : Dict → Prop) (port : Answer → Except String α) :
    Triple (fun w => φ w.collected) (askPort port) (fun _ w => φ w.collected)
      (fun _ _ => True) := by
  refine Triple.bind (ask_collected φ) ?_
  intro answer
  split
  · exact Triple.pure fun _ hw => hw
  · exact Triple.throw fun _ _ => trivial

theorem transition_collected (φ : Dict → Prop) (r : Runner) {node : LoopNode}
    {condition : String} {terminalState : Option LoopTerminalState} {evidence : Dict} :
    Triple (fun w => φ w.collected) (transition r state node condition terminalState evidence)
      (fun _ w => φ w.collected) (fun _ _ => True) := by
  have hcheck : Triple (fun w => φ w.collected) checkLeaseRenewal (fun _ w => φ w.collected)
      (fun _ _ => True) := by
    refine Triple.bind (ask_collected φ) ?_
    intro answer
    split
    · exact Triple.throw fun _ _ => trivial
    · exact Triple.pure fun _ hw => hw
  have hcheckpoint (inputs : Dict) : Triple (fun w => φ w.collected)
      (writeCheckpoint state.node inputs) (fun _ w => φ w.collected) (fun _ _ => True) :=
    Triple.bind (ask_collected φ) fun _ => Triple.bind (Triple.modify fun _ hw => hw) fun _ =>
      Triple.pure fun _ hw => hw
  have hstore (request : TransitionRequest) : Triple (fun w => φ w.collected)
      (storeTransition request) (fun _ w => φ w.collected) (fun _ _ => True) := by
    refine Triple.bind (ask_collected φ) fun answer => ?_
    refine Triple.bind Triple.get_self fun found => ?_
    split
    · refine Triple.bind (Triple.set ?_) fun _ => Triple.pure fun _ hw => hw
      rintro w ⟨rfl, hw⟩
      exact hw
    · exact Triple.bind (anything _) fun _ => Triple.throw fun _ _ => trivial
  refine Triple.bind hcheck fun _ => Triple.bind (hcheckpoint _) fun _ => ?_
  refine Triple.bind Triple.get_self fun found => ?_
  refine Triple.bind ((hstore _).weaken (fun _ hw => hw.2) (fun _ _ h => h) fun _ _ h => h)
    fun next => ?_
  exact Triple.bind (Triple.modify fun _ hw => hw) fun _ => Triple.pure fun _ hw => hw

/-- A phase that goes on does so with an executed result. -/
def GoesOnWithResult : Next LoopRunState → World → Prop
  | .result _, _ => True
  | .goOn _, w => HasResult w

theorem result_goesOn {program : Drive LoopRunState} {pre : World → Prop} :
    Triple pre (Next.result <$> program : Drive (Next LoopRunState)) GoesOnWithResult
      (fun _ _ => True) :=
  Triple.map (anything program) fun _ _ _ => trivial

theorem settleExecution_result (r : Runner) (plannedStep : PlannedCapabilityStep)
    (executed : ExecutedCapabilityStep) (progressSignature : String) :
    Triple HasResult (settleExecution r state plannedStep executed progressSignature)
      GoesOnWithResult (fun _ _ => True) := by
  have hcollects (warned : Bool) (facts : Dict) : Triple HasResult
      (collect fun evidence => if warned then evidence.put "loop_gate" (.obj facts) else evidence)
      (fun _ => HasResult) (fun _ _ => True) := by
    refine Triple.modify ?_
    intro w hw
    cases warned with
    | false => exact hw
    | true => simpa [HasResult] using hw
  have hreads : Triple HasResult collected (fun _ => HasResult) (fun _ _ => True) :=
    Triple.bind (Triple.get fun _ hw => hw) fun _ => Triple.pure fun _ hw => hw
  refine Triple.bind hreads fun evidence => Triple.bind (hcollects _ _) fun _ => ?_
  split
  · exact result_goesOn
  · split
    · exact result_goesOn
    · split
      · exact result_goesOn
      · exact Triple.map
          (transition_collected (fun evidence => (evidence.get "capability_result").isSome) r)
          fun _ _ hw => hw

theorem executeState_result (r : Runner) (planned : Option PlannedCapabilityStep) :
    Triple (fun _ => True) (executeState r state planned) GoesOnWithResult (fun _ _ => True) := by
  refine Triple.bind (anything _) fun gate => ?_
  cases gate with
  | result stopped => exact Triple.pure fun _ _ => trivial
  | goOn _ =>
      cases planned with
      | none => exact result_goesOn
      | some plannedStep =>
          refine Triple.bind (anything _) fun _ => Triple.bind (anything _) fun _ => ?_
          refine Triple.bind (anything _) fun executed => ?_
          have hcollects (signature : String) : Triple (fun _ => True)
              (collect (executedEvidence state plannedStep executed signature))
              (fun _ => HasResult) (fun _ _ => True) :=
            Triple.modify fun w _ => by simp [HasResult, executedEvidence_result]
          exact Triple.bind (hcollects _) fun _ => settleExecution_result r _ _ _

end

/-! ## What an evaluation is entered with -/

/-- The result that a call was given. -/
def SameResult (evidence collected : Dict) : Prop :=
  collected.get "capability_result" = evidence.get "capability_result"

/-- An evaluation that is entered from a call at `node` with `evidence`: one that
starts at `EVALUATE` has the result of its evidence, another has executed one. -/
def EntersWith (node : LoopNode) (evidence : Dict) : Next LoopRunState → World → Prop
  | .result _, _ => True
  | .goOn state, w => state.node = .evaluate →
      (node = .evaluate ∧ SameResult evidence w.collected) ∨ (node ≠ .evaluate ∧ HasResult w)

section

variable {r : Runner} {node : LoopNode} {evidence : Dict}

theorem createShadow_result :
    Triple (fun w => SameResult evidence w.collected) (createShadow r)
      (fun _ w => SameResult evidence w.collected) (fun _ _ => True) := by
  unfold createShadow
  split
  · refine Triple.bind (askPort_collected (SameResult evidence) _) fun _ => Triple.modify ?_
    intro w hw
    simpa [SameResult] using hw
  · exact Triple.pure fun _ hw => hw

theorem executePhase_enters {state : LoopRunState} (planned : Option PlannedCapabilityStep) :
    Triple (fun w => SameResult evidence w.collected)
      (executePhase r state planned) (EntersWith state.node evidence) (fun _ _ => True) := by
  unfold executePhase
  split
  next hexecute =>
    refine (executeState_result r planned).weaken (fun _ _ => trivial) ?_ fun _ _ h => h
    intro next w hw
    cases next with
    | result result => trivial
    | goOn next => exact fun _ => .inr ⟨by simp [hexecute], hw⟩
  next => exact Triple.pure fun _ hw hnode => .inl ⟨hnode, hw⟩

theorem phasesToEvaluation_enters :
    Triple (fun w => w.cell.run.node = node) (phasesToEvaluation r evidence)
      (EntersWith node evidence) (fun _ _ => True) := by
  refine Triple.get_bind (fun _ hw => hw) ?_
  intro found hnode
  refine Triple.bind (anything _) fun _ => ?_
  have hcollects : Triple (fun _ => True) (collect fun _ => evidence)
      (fun _ w => SameResult evidence w.collected) (fun _ _ => True) :=
    Triple.modify fun _ _ => rfl
  refine Triple.bind hcollects fun _ => Triple.bind createShadow_result fun _ => ?_
  unfold planPhase
  split
  next hplan =>
    rw [bind_assoc]
    refine Triple.bind ((planState_advances r).weaken (fun _ _ => trivial) (fun _ _ h => h)
      fun _ _ h => h) fun next => ?_
    cases next with
    | result result => exact Triple.pure fun _ _ => trivial
    | goOn value =>
        refine Triple.assume (fun _ hexecute => hexecute) ?_
        intro hexecute
        rw [pure_bind]
        show Triple _ (executePhase r value.1 (some value.2)) _ _
        rw [executePhase, if_pos hexecute]
        refine (executeState_result r _).weaken (fun _ _ => trivial) ?_ fun _ _ h => h
        intro next w hw
        cases next with
        | result result => trivial
        | goOn next => exact fun _ => .inr ⟨by simp [← hnode, hplan], hw⟩
  next =>
    rw [pure_bind]
    subst hnode
    exact executePhase_enters _

theorem callToEvaluation_enters (r : Runner) (evidence : Dict) :
    Triple (fun w => w.cell.run.node = node) (callToEvaluation r evidence)
      (EntersWith node evidence) (fun _ _ => True) := by
  have hrows : OnRows fun w => w.cell.run.node = node := fun _ _ _ hw => hw
  unfold callToEvaluation
  split
  · exact Triple.throw fun _ _ => trivial
  · refine Triple.bind hrows.ask fun _ => ?_
    refine Triple.get_bind (fun _ hw => hw) ?_
    intro found hnode
    split
    · exact Triple.bind (anything _) fun _ => Triple.pure fun _ _ => trivial
    next hrunning =>
      have hrunning : found.cell.run.terminalState = none := by simpa using hrunning
      have hclaims : Triple (fun w => found = w ∧ w.cell.run.node = node) (claimOnce r)
          (fun _ w => w.cell.run.node = node) (fun _ _ => True) := by
        refine (claimOnce_runsAt (Q := fun current _ => current = node) r).weaken (fun w hw => ?_)
          (fun _ _ hw => hw.2) fun _ _ h => h
        obtain ⟨rfl, -⟩ := hw
        exact ⟨hrunning, hnode⟩
      exact Triple.bind hclaims fun _ => phasesToEvaluation_enters

end

/-- A call enters its evaluation with the result of its evidence, if it starts
there, and else with one that it executed. -/
theorem Interrupted.entersWith {r : Runner} {evidence : Dict} {start entry crash : World}
    {state : LoopRunState} (h : Interrupted r evidence start state entry crash) :
    (start.cell.run.node = .evaluate ∧ SameResult evidence entry.collected)
      ∨ (start.cell.run.node ≠ .evaluate ∧ HasResult entry) := by
  have henters := callToEvaluation_enters r evidence start rfl
  rw [h.enters] at henters
  exact henters h.evaluates

theorem RecoversTo.recoverable {r : Runner} {cell : LoopCell} {entry : World}
    (h : RecoversTo r cell entry) (hrunning : cell.run.terminalState = none) :
    Recoverable cell := by
  obtain ⟨_, _, _, _, _, _, _, _, _, _, -, -, -, hclaim, -⟩ := h
  exact (queueClaim_running hrunning hclaim).2.1

theorem RecoversTo.noResult {r : Runner} {cell : LoopCell} {entry : World}
    (h : RecoversTo r cell entry) (hnode : cell.run.node = .evaluate)
    (hrunning : cell.run.terminalState = none) :
    entry.collected.get "capability_result" = none := by
  obtain ⟨r', tick, claimed, resumed, retryPause, runId, now, later, answers, state, -, -, -,
    hclaim, hreopen, henters, hevaluate⟩ := h
  obtain ⟨rfl, -, hclaimedNode, hclaimedRunning⟩ := queueClaim_running hrunning hclaim
  rw [reopenToResume_running hclaimedRunning] at hreopen
  obtain rfl := Except.ok.inj hreopen
  have hstarts := callToEvaluation_enters r'
    (graphEvidence claimed.run runId (queueResume false)) (startWorld claimed [] answers)
    (hclaimedNode.trans hnode)
  rw [henters] at hstarts
  rcases hstarts hevaluate with ⟨-, hsame⟩ | ⟨hother, -⟩
  · exact hsame.trans (graphEvidence_result claimed.run runId)
  · exact absurd rfl hother

/-! ## A recovery that nothing keeps from its evaluation -/

theorem phasesToEvaluation_returns {r : Runner} {cell : LoopCell} (evidence : Dict)
    (hnode : cell.run.node = .evaluate) :
    Triple (fun w => w.cell.run.node = cell.run.node ∧ Stocked cell 1 w)
      (phasesToEvaluation r evidence) (fun next _ => ∃ state, next = .goOn state
        ∧ state.node = .evaluate) (fun _ _ => False) := by
  refine Triple.get_bind (fun w hw => hw.1.trans hnode) ?_
  intro found hfound
  have hall : OnRows fun _ => True := fun _ _ _ hw => hw
  have hstarts : Triple (fun w => found = w ∧ w.cell.run.node = cell.run.node ∧ Stocked cell 1 w)
      (note (.started found.cell evidence)) (fun _ w => True ∧ Stocked cell 1 w)
      (fun _ _ => False) := Triple.modify fun _ hw => ⟨trivial, hw.2.2⟩
  have hcollects : Triple (fun w => True ∧ Stocked cell 1 w) (collect fun _ => evidence)
      (fun _ w => True ∧ Stocked cell 1 w) (fun _ _ => False) := Triple.modify fun _ hw => hw
  refine Triple.bind hstarts fun _ => Triple.bind hcollects fun _ => ?_
  refine Triple.bind (createShadow_returns hall) fun _ => ?_
  rw [planPhase, if_neg (by simp [hfound]), pure_bind]
  show Triple _ (executePhase r found.cell.run _) _ _
  rw [executePhase, if_neg (by simp [hfound])]
  exact Triple.pure fun _ _ => ⟨_, rfl, hfound⟩

theorem callToEvaluation_returns {r : Runner} {cell : LoopCell} (evidence : Dict)
    (hspec : r.specError = none) (hrunning : cell.run.terminalState = none)
    (hnode : cell.run.node = .evaluate) :
    Triple (fun w => (w.cell = cell ∧ w.leaseClaimed = false) ∧ Stocked cell 3 w)
      (callToEvaluation r evidence) (fun next _ => ∃ state, next = .goOn state
        ∧ state.node = .evaluate) (fun _ _ => False) := by
  have hrows : OnRows fun w => w.cell = cell ∧ w.leaseClaimed = false := fun _ _ _ hw => hw
  simp only [callToEvaluation, hspec]
  refine Triple.bind (ask_returns hrows) fun _ => ?_
  refine Triple.get_bind (fun w hw => hw.2.1.1) ?_
  intro found hcell
  have hstopped : found.cell.run.isStopped = false := by simp [hcell, hrunning]
  rw [hstopped, if_neg Bool.false_ne_true]
  exact Triple.bind ((claimOnce_returns hrunning).weaken (fun _ hw => hw.2.2) (fun _ _ h => h)
    fun _ _ h => h) fun _ => phasesToEvaluation_returns evidence hnode

theorem recovers {r : Runner} {cell : LoopCell} (hspec : r.specError = none)
    (hrunning : cell.run.terminalState = none) (hnode : cell.run.node = .evaluate)
    (hrecoverable : Recoverable cell) : ∃ entry, RecoversTo r cell entry := by
  obtain ⟨tick, claimed, howner, hclaim⟩ := queueClaim_recoverable hrunning hrecoverable
    r.executionOwner
  obtain ⟨-, -, hclaimedNode, hclaimedRunning⟩ := queueClaim_running hrunning hclaim
  let evidence := graphEvidence claimed.run "run" (queueResume false)
  let answers := List.replicate 3 (freeAnswer claimed)
  have hcall := callToEvaluation_returns evidence hspec hclaimedRunning
    (hclaimedNode.trans hnode) (startWorld claimed [] answers)
    ⟨⟨rfl, rfl⟩, Nat.le_refl 3, fun _ hmem => List.eq_of_mem_replicate hmem⟩
  cases hend : callToEvaluation r evidence (startWorld claimed [] answers) with
  | ok next entry =>
      rw [hend] at hcall
      obtain ⟨state, rfl, hevaluate⟩ := hcall
      exact ⟨entry, .resumed r tick claimed claimed false "run" 0 0 answers state rfl rfl
        howner.symm hclaim (reopenToResume_running hclaimedRunning 0 0) hend hevaluate⟩
  | error halt entry =>
      rw [hend] at hcall
      exact hcall.elim

/-! ## The result that is lost -/

theorem Interrupted.specError {r : Runner} {evidence : Dict} {start entry crash : World}
    {state : LoopRunState} (h : Interrupted r evidence start state entry crash) :
    r.specError = none := by
  cases hspec : r.specError with
  | none => rfl
  | some error =>
      have hraises : callToEvaluation r evidence = raise (.other error) := by
        simp only [callToEvaluation, hspec]
      have henters := h.enters
      rw [hraises] at henters
      cases henters

theorem Interrupted.losesResult {r : Runner} {evidence : Dict} {start entry crash : World}
    {state : LoopRunState} (h : Interrupted r evidence start state entry crash)
    (hrecoverable : Recoverable crash.cell)
    (hresult : entry.collected.get "capability_result" ≠ none) :
    ¬ KeepsResult r crash.cell entry := by
  intro hkeeps
  obtain ⟨recovered, hrecovers⟩ := recovers h.specError h.running h.node hrecoverable
  have hnone := hrecovers.noResult h.node h.running
  exact hresult ((hkeeps recovered hrecovers).symm.trans hnone)

/-- Recovery keeps the result of an interrupted evaluation exactly when there was
none, since the call started at `EVALUATE` with evidence that has none, or when
the daemon does not recover the loop at all. -/
theorem keeps_result_iff {r : Runner} {evidence : Dict} {start entry crash : World}
    {state : LoopRunState} (h : Interrupted r evidence start state entry crash) :
    KeepsResult r crash.cell entry
      ↔ (start.cell.run.node = .evaluate ∧ evidence.get "capability_result" = none)
        ∨ ¬ Recoverable crash.cell := by
  constructor
  · intro hkeeps
    by_contra hneither
    obtain ⟨hstart, hrecoverable⟩ := not_or.mp hneither
    refine h.losesResult (not_not.mp hrecoverable) ?_ hkeeps
    rcases h.entersWith with ⟨hnode, hsame⟩ | ⟨-, hresult⟩
    · exact fun hnone => hstart ⟨hnode, hsame.symm.trans hnone⟩
    · exact Option.isSome_iff_ne_none.mp hresult
  · rintro (⟨hnode, hnone⟩ | hunrecoverable) recovered hrecovers
    · rcases h.entersWith with ⟨-, hsame⟩ | ⟨hother, -⟩
      · rw [hrecovers.noResult h.node h.running, hsame, hnone]
      · exact absurd hnode hother
    · exact absurd (hrecovers.recoverable h.running) hunrecoverable

/-! ## Two crashes -/

/-- The evaluation that a call enters, with its first world. -/
def entryOf : EStateM.Result Halt World (Next LoopRunState) → Option (LoopRunState × World)
  | .ok (.goOn state) entry => some (state, entry)
  | _ => none

/-- The world in which a process died. -/
def crashOf {α : Type} : EStateM.Result Halt World α → Option World
  | .error .died crash => some crash
  | _ => none

theorem entryOf_eq_some {result : EStateM.Result Halt World (Next LoopRunState)}
    {state : LoopRunState} {entry : World} (h : entryOf result = some (state, entry)) :
    result = .ok (.goOn state) entry := by
  unfold entryOf at h
  split at h
  · obtain ⟨rfl, rfl⟩ := Prod.mk.inj (Option.some.inj h)
    rfl
  · cases h

theorem crashOf_eq_some {α : Type} {result : EStateM.Result Halt World α} {crash : World}
    (h : crashOf result = some crash) : result = .error .died crash := by
  unfold crashOf at h
  split at h
  · obtain rfl := Option.some.inj h
    rfl
  · cases h

theorem interrupted_of_runs {r : Runner} {evidence : Dict} {start : World} (performed : Nat)
    (hentry : (entryOf (callToEvaluation r evidence start)).any fun entered =>
      entered.1.node = .evaluate)
    (hcrash : (crashOf (runAsyncImpl r evidence
      { start with answers := start.answers.take performed })).any fun crash =>
        crash.cell.run.node = .evaluate ∧ crash.cell.run.terminalState = none
          ∧ crash.cell.run.evidence.get "execution_mode" = some (.str "background")) :
    ∃ state entry crash, Interrupted r evidence start state entry crash
      ∧ Recoverable crash.cell := by
  obtain ⟨⟨state, entry⟩, hentered, hevaluate⟩ := (Option.any_eq_true _ _).mp hentry
  obtain ⟨crash, hcrashed, hopen⟩ := (Option.any_eq_true _ _).mp hcrash
  obtain ⟨hnode, hrunning, hmode⟩ := of_decide_eq_true hopen
  refine ⟨state, entry, crash, ⟨entryOf_eq_some hentered, of_decide_eq_true hevaluate, ?_, hnode,
    hrunning⟩, .inl hmode⟩
  exact ⟨performed, crashOf_eq_some hcrashed⟩

/-- The loop that a process leaves which dies while it evaluates an executed step. -/
def diedEvaluating : Lived := play plainLoop [plainDrive [] (plainAnswers 1 16)]

/-- The evidence of a resume by the daemon. -/
def resumedEvidence : Dict := graphEvidence diedEvaluating.1.run "run" (queueResume false)

/-- A recovery that dies in its evaluation too has no result to lose. -/
theorem keeps_result_twice : ∃ crash entry, KeepsResult plainRunner crash entry := by
  have hinterrupted : ∃ state entry crash, Interrupted plainRunner resumedEvidence
      (startWorld diedEvaluating.1 [] (plainAnswers 2000 12)) state entry crash
        ∧ Recoverable crash.cell :=
    interrupted_of_runs 4 (by decide +kernel) (by decide +kernel)
  obtain ⟨state, entry, crash, hinterrupted, -⟩ := hinterrupted
  have hnode : diedEvaluating.1.run.node = .evaluate := by decide +kernel
  exact ⟨crash.cell, entry, (keeps_result_iff hinterrupted).mpr
    (.inl ⟨hnode, graphEvidence_result diedEvaluating.1.run "run"⟩)⟩

/-- The process that dies while it evaluates the step it executed loses the result. -/
theorem diedEvaluating_losesResult :
    ∃ state entry crash, Interrupted plainRunner []
        (startWorld plainLoop.1 [] (plainAnswers 1 20)) state entry crash
      ∧ ¬ KeepsResult plainRunner crash.cell entry := by
  have hinterrupted : ∃ state entry crash, Interrupted plainRunner []
      (startWorld plainLoop.1 [] (plainAnswers 1 20)) state entry crash ∧ Recoverable crash.cell :=
    interrupted_of_runs 16 (by decide +kernel) (by decide +kernel)
  obtain ⟨state, entry, crash, hinterrupted, hrecoverable⟩ := hinterrupted
  refine ⟨state, entry, crash, hinterrupted, hinterrupted.losesResult hrecoverable ?_⟩
  rcases hinterrupted.entersWith with ⟨hnode, -⟩ | ⟨-, hresult⟩
  · cases hnode
  · exact Option.isSome_iff_ne_none.mp hresult

end Navi.StateGraph
