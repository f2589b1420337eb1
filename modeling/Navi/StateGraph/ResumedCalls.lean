import Navi.StateGraph.History

/-!
# What a resumed call does

A call of `run_async` on a loop that runs. From `PLAN`, `EXECUTE` and `EVALUATE`
every path of the runner that returns ends with a transition, and one that goes
on ends at the node of the next phase. From the other nodes no phase is entered:
the call claims the lease and returns what it found.
-/

namespace Navi.StateGraph

open Navi.Base Navi.Loop

def Committed (log : List Event) : Prop :=
  ∃ run request next, Event.committed run request next ∈ log

theorem Committed.mono {log log' : List Event} (h : Committed log) (hsuffix : log <:+ log') :
    Committed log' := by
  obtain ⟨run, request, next, hmem⟩ := h
  exact ⟨run, request, next, hsuffix.subset hmem⟩

/-- Every call of `run_async` on the loop that returns has performed a
transition. -/
def ResumesOrRaises (r : Runner) (cell : LoopCell) : Prop :=
  ∀ calls evidence answers state world,
    runLoop r calls evidence (startWorld cell [] answers) = .ok state world → Committed world.log

/-- The nodes that a phase of the runner starts at. -/
def Dispatched (node : LoopNode) : Prop :=
  node = .plan ∨ node = .execute ∨ node = .evaluate

/-! ## Paths that end with a transition -/

/-- The program returns only after a transition. -/
def Advances {α : Type} (program : Drive α) : Prop :=
  Triple (fun _ => True) program (fun _ w => Committed w.log) (fun _ _ => True)

/-- The program returns a result only after a transition, or goes on with a value
that meets `P`. -/
def AdvancesOr {α : Type} (P : α → Prop) (program : Drive (Next α)) : Prop :=
  Triple (fun _ => True) program
    (fun next w => match next with
      | .result _ => Committed w.log
      | .goOn value => P value)
    (fun _ _ => True)

section

variable {α β : Type} {P : α → Prop} {state : LoopRunState}

theorem anything {pre : World → Prop} (program : Drive α) :
    Triple pre program (fun _ _ => True) (fun _ _ => True) := by
  intro w _
  cases program w <;> trivial

theorem Advances.after {program : Drive α} {rest : α → Drive β} (h : ∀ a, Advances (rest a)) :
    Advances (program >>= rest) :=
  Triple.bind (anything program) h

theorem AdvancesOr.after {Q : β → Prop} {program : Drive α} {rest : α → Drive (Next β)}
    (h : ∀ a, AdvancesOr Q (rest a)) : AdvancesOr Q (program >>= rest) :=
  Triple.bind (anything program) h

theorem advances_throw (halt : Halt) : Advances (throw halt : Drive α) :=
  Triple.throw fun _ _ => trivial

theorem advancesOr_throw (halt : Halt) : AdvancesOr P (throw halt : Drive (Next α)) :=
  Triple.throw fun _ _ => trivial

theorem advancesOr_goOn {value : α} (h : P value) : AdvancesOr P (pure (.goOn value)) :=
  Triple.pure fun _ _ => h

theorem Advances.result {program : Drive LoopRunState} (h : Advances program) :
    AdvancesOr P (Next.result <$> program : Drive (Next α)) :=
  Triple.map h fun _ _ hw => hw

theorem AdvancesOr.bind {program : Drive (Next α)} {rest : Next α → Drive LoopRunState}
    (h : AdvancesOr P program) (hresult : ∀ result, rest (.result result) = pure result)
    (hrest : ∀ value, P value → Advances (rest (.goOn value))) : Advances (program >>= rest) := by
  refine Triple.bind h ?_
  intro next
  cases next with
  | result result =>
      rw [hresult]
      exact Triple.pure fun _ hw => hw
  | goOn value => exact Triple.assume (fun _ hvalue => hvalue) fun hvalue =>
      (hrest value hvalue).weaken (fun _ _ => trivial) (fun _ _ h => h) (fun _ _ h => h)

theorem AdvancesOr.next {Q : β → Prop} {program : Drive (Next α)}
    {rest : Next α → Drive (Next β)} (h : AdvancesOr P program)
    (hresult : ∀ result, rest (.result result) = pure (.result result))
    (hrest : ∀ value, P value → AdvancesOr Q (rest (.goOn value))) :
    AdvancesOr Q (program >>= rest) := by
  refine Triple.bind h ?_
  intro next
  cases next with
  | result result =>
      rw [hresult]
      exact Triple.pure fun _ hw => hw
  | goOn value => exact Triple.assume (fun _ hvalue => hvalue) fun hvalue =>
      (hrest value hvalue).weaken (fun _ _ => trivial) (fun _ _ h => h) (fun _ _ h => h)

/-! ## The runner's functions -/

theorem storeTransition_commits (request : TransitionRequest) :
    Triple (fun _ => True) (storeTransition request)
      (fun next w => Committed w.log ∧ next.node = request.node) (fun _ _ => True) := by
  refine Triple.bind (anything ask) ?_
  intro answer
  refine Triple.bind (anything get) ?_
  intro found
  split
  next cell hok =>
    refine Triple.bind (Triple.set fun _ _ => ?_) fun _ => Triple.pure fun _ hw => hw
    obtain ⟨-, rfl⟩ := transition_eq_ok.mp hok
    exact ⟨⟨_, _, _, List.mem_cons_self⟩, rfl⟩
  next error _ =>
    exact Triple.bind (anything _) fun _ => Triple.throw fun _ _ => trivial

theorem transition_commits (r : Runner) (node : LoopNode) (condition : String)
    (terminalState : Option LoopTerminalState) (evidence : Dict) :
    Triple (fun _ => True) (transition r state node condition terminalState evidence)
      (fun next w => Committed w.log ∧ next.node = node) (fun _ _ => True) := by
  refine Triple.bind (anything _) fun _ => ?_
  refine Triple.bind (anything _) fun _ => ?_
  refine Triple.bind (anything _) fun _ => ?_
  refine Triple.bind (storeTransition_commits _) fun next => ?_
  exact Triple.bind (Triple.modify fun _ hw => hw) fun _ => Triple.pure fun _ hw => hw

theorem transition_advances (r : Runner) {node : LoopNode} {condition : String}
    {terminalState : Option LoopTerminalState} {evidence : Dict} :
    Advances (transition r state node condition terminalState evidence) :=
  (transition_commits r node condition terminalState evidence).weaken (fun _ h => h)
    (fun _ _ hw => hw.1) (fun _ _ h => h)

theorem transition_goesOn (r : Runner) {node : LoopNode} {condition : String}
    {terminalState : Option LoopTerminalState} {evidence : Dict} {value : LoopRunState → α}
    (h : ∀ next, next.node = node → P (value next)) :
    AdvancesOr P ((fun next => .goOn (value next)) <$>
      transition r state node condition terminalState evidence) :=
  Triple.map (transition_commits r node condition terminalState evidence)
    fun next _ hw => h next hw.2

theorem park_advances (r : Runner) (stop : Stop) : Advances (park r state stop) :=
  .after fun _ => .after fun _ => transition_advances r

theorem stopForResourceGrant_advances (r : Runner) (grant : ResourceGrant) :
    Advances (stopForResourceGrant r state grant) := by
  unfold stopForResourceGrant
  split
  · exact park_advances r _
  · exact transition_advances r

theorem gateOrStop_advances (r : Runner) : AdvancesOr (fun _ => True) (gateOrStop r state) := by
  refine .after ?_
  intro answer
  split
  · exact advancesOr_goOn trivial
  · exact (stopForResourceGrant_advances r _).result

theorem plannerFailed_advances (r : Runner) (errorType message : String) (failureFacts : Dict) :
    Advances (plannerFailed r state errorType message failureFacts) := by
  refine .after fun _ => .after fun answer => .after fun evidence => ?_
  dsimp only
  split
  · exact .after fun _ => park_advances r _
  · refine .after fun _ => ?_
    split
    · exact .after fun _ => transition_advances r
    · exact transition_advances r

theorem planState_advances (r : Runner) :
    AdvancesOr (fun value => value.1.node = .execute) (planState r state) := by
  refine (gateOrStop_advances r).next (fun _ => rfl) ?_
  intro _ _
  refine .after fun _ => .after fun answer => ?_
  dsimp only
  split
  · exact (stopForResourceGrant_advances r _).result
  · exact (plannerFailed_advances r _ _ _).result
  · exact advancesOr_throw _
  · refine .after fun _ => ?_
    exact .after fun _ => .after fun _ => transition_goesOn r fun _ hnode => hnode

theorem missingPlan_advances (r : Runner) : Advances (missingPlan r state) :=
  .after fun _ => transition_advances r

theorem capabilityFailed_advances (r : Runner) (executed : ExecutedCapabilityStep)
    (progressSignature : String) :
    Advances (capabilityFailed r state executed progressSignature) := by
  refine .after fun _ => .after fun answer => .after fun _ => ?_
  split
  · exact transition_advances r
  · exact transition_advances r

theorem settleExecution_advances (r : Runner) (plannedStep : PlannedCapabilityStep)
    (executed : ExecutedCapabilityStep) (progressSignature : String) :
    AdvancesOr (fun next => next.node = .evaluate)
      (settleExecution r state plannedStep executed progressSignature) := by
  refine .after fun evidence => .after fun _ => ?_
  split
  · exact (transition_advances r).result
  · split
    · exact (park_advances r _).result
    · split
      · exact (capabilityFailed_advances r _ _).result
      · exact transition_goesOn r fun _ hnode => hnode

theorem executeState_advances (r : Runner) (planned : Option PlannedCapabilityStep) :
    AdvancesOr (fun next => next.node = .evaluate) (executeState r state planned) := by
  refine (gateOrStop_advances r).next (fun _ => rfl) ?_
  intro _ _
  cases planned with
  | none => exact (missingPlan_advances r).result
  | some plannedStep =>
      exact .after fun _ => .after fun _ => .after fun _ => .after fun _ =>
        settleExecution_advances r _ _ _

theorem acquireWorkspaceLock_advances (r : Runner) (key : String) :
    AdvancesOr (fun _ => True) (acquireWorkspaceLock r state key) := by
  unfold acquireWorkspaceLock
  split
  · refine .after fun lock => .after fun _ => ?_
    split
    · exact advancesOr_goOn trivial
    · exact (park_advances r _).result
  · exact advancesOr_goOn trivial

theorem runCommands_advances (r : Runner) (steps : List VerificationStep) :
    AdvancesOr (fun _ => True) (runCommands r state steps) := by
  induction steps with
  | nil => exact advancesOr_goOn trivial
  | cons step rest ih =>
      unfold runCommands
      split
      · exact ih
      · refine (gateOrStop_advances r).next (fun _ => rfl) fun _ _ => .after fun _ => ?_
        exact (acquireWorkspaceLock_advances r _).next (fun _ => rfl) fun _ _ =>
          .after fun _ => .after fun _ => .after fun _ => ih

theorem mergeShadow_advances (r : Runner) : AdvancesOr (fun _ => True) (mergeShadow r state) := by
  unfold mergeShadow
  split
  · refine (acquireWorkspaceLock_advances r _).next (fun _ => rfl) ?_
    intro _ _
    refine .after fun merged => .after fun _ => .after fun _ => ?_
    split
    · exact .after fun _ => (transition_advances r).result
    · exact advancesOr_goOn trivial
  · exact advancesOr_goOn trivial

theorem convergeState_advances (r : Runner) (report : CheckerReport) :
    Advances (convergeState r state report) := by
  refine .after ?_
  intro result
  split
  · exact park_advances r _
  · exact transition_advances r

theorem acceptedState_advances (r : Runner) (report : CheckerReport) :
    Advances (acceptedState r state report) := by
  refine .after fun _ => .after fun evidence => ?_
  dsimp only
  split
  · exact .after fun _ => transition_advances r
  · exact (mergeShadow_advances r).bind (fun _ => rfl) fun _ _ => convergeState_advances r report

theorem reflectState_advances (r : Runner) (report : CheckerReport) :
    Advances (reflectState r state report) := by
  refine .after fun _ => .after fun _ => .after fun answer => .after fun _ => ?_
  split
  · exact transition_advances r
  · split
    · exact transition_advances r
    · exact transition_advances r

theorem judgeState_advances (r : Runner) : Advances (judgeState r state) := by
  refine .after fun _ => .after fun _ => .after fun _ => .after fun evidence => ?_
  refine .after fun report => .after fun _ => ?_
  split
  · exact acceptedState_advances r report
  · split
    · exact .after fun _ => transition_advances r
    · exact reflectState_advances r report

theorem evaluateState_advances (r : Runner) : Advances (evaluateState r state) :=
  .after fun _ => (gateOrStop_advances r).bind (fun _ => rfl) fun _ _ =>
    (runCommands_advances r r.spec.verificationLadder).bind (fun _ => rfl) fun _ _ =>
      judgeState_advances r

theorem checkerCallFailed_advances (r : Runner) (failureFacts : Dict) (cause : String) :
    Advances (checkerCallFailed r state failureFacts cause) := by
  refine .after fun evidence => ?_
  split
  · exact advances_throw _
  · split
    · exact .after fun _ => park_advances r _
    · exact .after fun _ => .after fun _ => transition_advances r

theorem evaluateOrRetry_advances (r : Runner) : Advances (evaluateOrRetry r state) := by
  refine Triple.tryCatch (evaluateState_advances r) ?_
  intro halt
  split
  · exact checkerCallFailed_advances r _ _
  · exact advances_throw _

theorem evaluatePhase_advances (r : Runner) (h : state.node = .evaluate) :
    Advances (evaluatePhase r state) := by
  rw [evaluatePhase, if_pos h]
  exact evaluateOrRetry_advances r

theorem actPhases_advances (r : Runner) (planned : Option PlannedCapabilityStep)
    (h : state.node = .execute ∨ state.node = .evaluate) :
    Advances (actPhases r state planned) := by
  unfold actPhases
  split
  · exact (executeState_advances r planned).bind (fun _ => rfl) fun _ hnode =>
      evaluatePhase_advances r hnode
  next hexecute => exact evaluatePhase_advances r (h.resolve_left hexecute)

theorem planPhase_advances (r : Runner) (planned : Option PlannedCapabilityStep)
    (h : Dispatched state.node) :
    AdvancesOr (fun value => value.1.node = .execute ∨ value.1.node = .evaluate)
      (planPhase r state planned) := by
  unfold planPhase
  split
  · refine (planState_advances r).next (fun _ => rfl) ?_
    rintro ⟨next, plannedStep⟩ hnode
    exact advancesOr_goOn (.inl hnode)
  next hplan => exact advancesOr_goOn (h.resolve_left hplan)

/-! ## Calls -/

/-- An assertion that does not read the answers or the collected evidence. -/
def OnRows (φ : World → Prop) : Prop :=
  ∀ w answers evidence, φ w → φ { w with answers := answers, collected := evidence }

section

variable {φ : World → Prop}

theorem OnRows.ask (h : OnRows φ) : Triple φ ask (fun _ => φ) (fun _ _ => True) := by
  intro w hw
  rw [ask_eq]
  cases w.answers with
  | nil => trivial
  | cons answer rest => exact h w rest w.collected hw

theorem OnRows.askPort (h : OnRows φ) {β : Type} (port : Answer → Except String β) :
    Triple φ (askPort port) (fun _ => φ) (fun _ _ => True) := by
  refine Triple.bind h.ask ?_
  intro answer
  split
  · exact Triple.pure fun _ hw => hw
  · exact Triple.throw fun _ _ => trivial

theorem OnRows.collect (h : OnRows φ) (change : Dict → Dict) :
    Triple φ (collect change) (fun _ => φ) (fun _ _ => True) :=
  Triple.modify fun w hw => h w w.answers (change w.collected) hw

theorem OnRows.collected (_ : OnRows φ) :
    Triple φ collected (fun _ => φ) (fun _ _ => True) :=
  Triple.bind (Triple.get fun _ hw => hw) fun _ => Triple.pure fun _ hw => hw

theorem OnRows.checkLeaseRenewal (h : OnRows φ) :
    Triple φ checkLeaseRenewal (fun _ => φ) (fun _ _ => True) := by
  refine Triple.bind h.ask ?_
  intro answer
  split
  · exact Triple.throw fun _ _ => trivial
  · exact Triple.pure fun _ hw => hw

end

/-- The loop runs, at a node and with a log that meet `Q`. -/
def RunsAt (Q : LoopNode → List Event → Prop) (w : World) : Prop :=
  w.cell.run.terminalState = none ∧ Q w.cell.run.node w.log

/-- A phase of the runner starts at its node. -/
def RunsDispatched : World → Prop := RunsAt fun node _ => Dispatched node

variable {Q : LoopNode → List Event → Prop}

theorem runsAt_onRows : OnRows (RunsAt Q) := fun _ _ _ hw => hw

theorem claimOnce_runsAt (r : Runner) :
    Triple (RunsAt Q) (claimOnce r) (fun _ => RunsAt Q) (fun _ _ => True) := by
  refine Triple.bind (Triple.get fun _ hw => hw) fun _ => ?_
  split
  · exact Triple.pure fun _ hw => hw
  · refine Triple.bind runsAt_onRows.ask ?_
    intro answer
    refine Triple.bind Triple.get_self ?_
    intro found
    split
    · exact Triple.throw fun _ _ => trivial
    next cell hclaimed =>
      refine Triple.set ?_
      rintro w ⟨rfl, hw⟩
      obtain ⟨-, rfl⟩ := claimForExecution_eq_some.mp hclaimed
      exact hw

theorem runPhases_advances (r : Runner) (evidence : Dict) :
    Triple (RunsDispatched) (runPhases r evidence)
      (fun _ w => Committed w.log) (fun _ _ => True) := by
  refine Triple.get_bind (fun w hw => hw.2) ?_
  intro found hnode
  have hadvances : ∀ program : Drive LoopRunState, Advances program →
      Triple (fun w => found = w ∧ RunsDispatched w) program (fun _ w => Committed w.log)
        (fun _ _ => True) :=
    fun _ h => h.weaken (fun _ _ => trivial) (fun _ _ h => h) (fun _ _ h => h)
  refine hadvances _ (.after fun _ => .after fun _ => .after fun _ => ?_)
  exact (planPhase_advances r _ hnode).bind (fun _ => rfl) fun value hnext =>
    actPhases_advances r value.2 hnext

theorem runAsyncImpl_advances (r : Runner) (evidence : Dict) :
    Triple (RunsDispatched) (runAsyncImpl r evidence)
      (fun _ w => Committed w.log) (fun _ _ => True) := by
  unfold runAsyncImpl
  split
  · exact Triple.throw fun _ _ => trivial
  · refine Triple.bind runsAt_onRows.ask fun _ => ?_
    refine Triple.get_bind (fun w hw => hw.1) ?_
    intro found hrunning
    split
    next hstopped => simp [hrunning] at hstopped
    next =>
      refine Triple.bind ((claimOnce_runsAt r).weaken (fun w hw => ?_) (fun _ _ h => h)
        (fun _ _ h => h)) fun _ => runPhases_advances r evidence
      obtain ⟨rfl, hw⟩ := hw
      exact hw

theorem runAsyncImpl_clears (r : Runner) (evidence : Dict) :
    Triple (fun w => Clearance w.pending) (runAsyncImpl r evidence)
      (fun _ w => Clearance w.pending) (fun _ _ => True) := by
  intro w hw
  have hrun := runAsyncImpl_leaves r evidence w
    (⟨.refl, hw⟩ : Reaches ⟨w.cell, w.log, .outside⟩ .outside w)
  cases hend : runAsyncImpl r evidence w with
  | ok state w' =>
      rw [hend] at hrun
      exact hrun.2
  | error halt w' => trivial

theorem moves_suffix {c c' : Config} (h : Relation.ReflTransGen Move c c') :
    c.log <:+ c'.log := by
  induction h with
  | refl => exact List.suffix_refl _
  | tail _ hmove ih => exact ih.trans (step_grows _ _ (.inl hmove))

theorem runLoop_keepsCommits (r : Runner) (calls : Nat) (evidence : Dict) :
    Triple (fun w => Committed w.log ∧ Clearance w.pending) (runLoop r calls evidence)
      (fun _ w => Committed w.log) (fun _ _ => True) := by
  rintro w ⟨hcommitted, hpending⟩
  have hrun := runLoop_leaves r calls evidence w
    (⟨.refl, hpending⟩ : Reaches ⟨w.cell, w.log, .outside⟩ .outside w)
  cases hend : runLoop r calls evidence w with
  | ok state w' =>
      rw [hend] at hrun
      exact hcommitted.mono (moves_suffix hrun.1)
  | error halt w' => trivial

theorem runLoop_advances (r : Runner) (calls : Nat) (evidence : Dict) :
    Triple (fun w => RunsDispatched w ∧ Clearance w.pending) (runLoop r calls evidence)
      (fun _ w => Committed w.log) (fun _ _ => True) := by
  cases calls with
  | zero => exact Triple.throw fun _ _ => trivial
  | succ calls =>
      have hcall : Triple (fun w => RunsDispatched w ∧ Clearance w.pending)
          (runAsyncImpl r evidence) (fun _ w => Committed w.log ∧ Clearance w.pending)
          (fun _ _ => True) := by
        have hadvances : Triple (fun w => RunsDispatched w ∧ Clearance w.pending)
            (runAsyncImpl r evidence) (fun _ w => Committed w.log) (fun _ _ => True) :=
          (runAsyncImpl_advances r evidence).weaken (fun _ hw => hw.1) (fun _ _ h => h)
            fun _ _ h => h
        have hclears : Triple (fun w => RunsDispatched w ∧ Clearance w.pending)
            (runAsyncImpl r evidence) (fun _ w => Clearance w.pending) (fun _ _ => True) :=
          (runAsyncImpl_clears r evidence).weaken (fun _ hw => hw.2) (fun _ _ h => h)
            fun _ _ h => h
        exact (hadvances.and hclears).weaken (fun _ h => h) (fun _ _ h => h) fun _ _ _ => trivial
      refine Triple.bind hcall ?_
      intro state
      have hrows : OnRows fun w => Committed w.log ∧ Clearance w.pending := fun _ _ _ hw => hw
      refine Triple.bind hrows.checkLeaseRenewal fun _ => ?_
      split
      · exact Triple.pure fun _ hw => hw.1
      · exact Triple.bind hrows.collected fun evidence => runLoop_keepsCommits r calls evidence

/-! ## Nodes without a phase -/

/-- The loop runs at this node, and no transition was performed. -/
def Idle (node : LoopNode) : World → Prop :=
  RunsAt fun current log => current = node ∧ ¬ Committed log

def ReturnsIdle (node : LoopNode) (state : LoopRunState) (w : World) : Prop :=
  Idle node w ∧ state.node = node ∧ state.terminalState = none

variable {node : LoopNode}

theorem createShadow_keeps {φ : World → Prop} (h : OnRows φ) (r : Runner) :
    Triple φ (createShadow r) (fun _ => φ) (fun _ _ => True) := by
  unfold createShadow
  split
  · exact Triple.bind (h.askPort _) fun _ => h.collect _
  · exact Triple.pure fun _ hw => hw

theorem note_idle {cell : LoopCell} {evidence : Dict} :
    Triple (Idle node) (note (.started cell evidence)) (fun _ => Idle node) (fun _ _ => True) := by
  refine Triple.modify ?_
  rintro w ⟨hrunning, hnode, hnone⟩
  refine ⟨hrunning, hnode, ?_⟩
  rintro ⟨run, request, next, hmem⟩
  rcases List.mem_cons.mp hmem with hstarted | hmem
  · cases hstarted
  · exact hnone ⟨run, request, next, hmem⟩

theorem planPhase_undispatched {r : Runner} {state : LoopRunState}
    {planned : Option PlannedCapabilityStep} (h : ¬ Dispatched state.node) :
    planPhase r state planned = pure (.goOn (state, planned)) := by
  rw [planPhase, if_neg fun hplan => h (.inl hplan)]

theorem actPhases_undispatched {r : Runner} {state : LoopRunState}
    {planned : Option PlannedCapabilityStep} (h : ¬ Dispatched state.node) :
    actPhases r state planned = pure state := by
  rw [actPhases, if_neg fun hexecute => h (.inr (.inl hexecute)), evaluatePhase,
    if_neg fun hevaluate => h (.inr (.inr hevaluate))]

theorem runPhases_idle (r : Runner) (evidence : Dict) (h : ¬ Dispatched node) :
    Triple (Idle node) (runPhases r evidence) (ReturnsIdle node) (fun _ _ => True) := by
  refine Triple.get_bind (fun w hw => (⟨hw.2.1, hw.1⟩ :
    w.cell.run.node = node ∧ w.cell.run.terminalState = none)) ?_
  rintro found ⟨rfl, hrunning⟩
  refine Triple.bind (note_idle.weaken (fun _ hw => hw.2) (fun _ _ h => h) fun _ _ h => h)
    fun _ => ?_
  refine Triple.bind (runsAt_onRows.collect _) fun _ => ?_
  refine Triple.bind (createShadow_keeps runsAt_onRows r) fun _ => ?_
  rw [planPhase_undispatched h, pure_bind]
  dsimp only
  rw [actPhases_undispatched h]
  exact Triple.pure fun w hw => ⟨hw, rfl, hrunning⟩

theorem runAsyncImpl_idle (r : Runner) (evidence : Dict) (h : ¬ Dispatched node) :
    Triple (Idle node) (runAsyncImpl r evidence) (ReturnsIdle node) (fun _ _ => True) := by
  unfold runAsyncImpl
  split
  · exact Triple.throw fun _ _ => trivial
  · refine Triple.bind runsAt_onRows.ask fun _ => ?_
    refine Triple.get_bind (fun w hw => hw.1) ?_
    intro found hrunning
    split
    next hstopped => simp [hrunning] at hstopped
    next =>
      refine Triple.bind ((claimOnce_runsAt r).weaken (fun w hw => ?_) (fun _ _ h => h)
        (fun _ _ h => h)) fun _ => runPhases_idle r evidence h
      exact hw.2

theorem runLoop_idle (r : Runner) (calls : Nat) (evidence : Dict) (h : ¬ Dispatched node) :
    Triple (Idle node) (runLoop r calls evidence) (ReturnsIdle node) (fun _ _ => True) := by
  cases calls with
  | zero => exact Triple.throw fun _ _ => trivial
  | succ calls =>
      refine Triple.bind (runAsyncImpl_idle r evidence h) ?_
      intro state
      have hrows : OnRows (ReturnsIdle node state) := fun _ _ _ hw => hw
      refine Triple.bind hrows.checkLeaseRenewal fun _ => ?_
      split
      · exact Triple.pure fun _ hw => hw
      next hplan =>
        refine Triple.assume ?_ False.elim
        rintro w ⟨-, rfl, -⟩
        exact hplan (.inl fun hnode => h (.inl hnode))

end

/-! ## A call that nothing keeps from returning -/

/-- The lease is free, and nothing fails. -/
def freeAnswer (cell : LoopCell) : Answer :=
  { plainAnswer 0 with now := cell.run.leaseExpiresAt }

/-- At least `n` such answers are left, and no others. -/
def Stocked (cell : LoopCell) (n : Nat) (w : World) : Prop :=
  n ≤ w.answers.length ∧ ∀ answer ∈ w.answers, answer = freeAnswer cell

section

variable {cell : LoopCell} {φ : World → Prop} {n : Nat} {r : Runner}

theorem ask_returns (h : OnRows φ) : Triple (fun w => φ w ∧ Stocked cell (n + 1) w) ask
    (fun answer w => answer = freeAnswer cell ∧ φ w ∧ Stocked cell n w) (fun _ _ => False) := by
  rintro w ⟨hw, hlength, hfree⟩
  rw [ask_eq]
  cases hanswers : w.answers with
  | nil => simp [hanswers] at hlength
  | cons answer rest =>
      rw [hanswers] at hlength hfree
      refine ⟨hfree answer List.mem_cons_self, h w rest w.collected hw, ?_, ?_⟩
      · exact Nat.le_of_succ_le_succ hlength
      · exact fun later hmem => hfree later (List.mem_cons_of_mem answer hmem)

theorem checkLeaseRenewal_returns (h : OnRows φ) :
    Triple (fun w => φ w ∧ Stocked cell (n + 1) w) checkLeaseRenewal (fun _ => φ)
      (fun _ _ => False) := by
  refine Triple.bind (ask_returns h) ?_
  intro answer
  refine Triple.assume (fun _ hw => hw.1) ?_
  rintro rfl
  exact Triple.pure fun _ hw => hw.2.1

theorem claimOnce_returns (hrunning : cell.run.terminalState = none) :
    Triple (fun w => (w.cell = cell ∧ w.leaseClaimed = false) ∧ Stocked cell (n + 1) w)
      (claimOnce r) (fun _ w => w.cell.run.node = cell.run.node ∧ Stocked cell n w)
      (fun _ _ => False) := by
  have hclaimed : ∃ claimed, claimForExecution cell r.executionOwner
      (executionLeaseSeconds r.spec) (freeAnswer cell).now false = some claimed
        ∧ claimed.run.node = cell.run.node := by
    refine ⟨_, claimForExecution_eq_some.mpr ⟨⟨?_, ?_⟩, rfl⟩, rfl⟩
    · simp [claimableState, hrunning]
    · simp [claimable, freeAnswer]
  obtain ⟨claimed, hclaim, hnode⟩ := hclaimed
  refine Triple.get_bind (fun w hw => hw.1.2) ?_
  intro found hunclaimed
  rw [hunclaimed, if_neg Bool.false_ne_true]
  have hrows : OnRows fun w => w.cell = cell ∧ w.leaseClaimed = false := fun _ _ _ hw => hw
  refine Triple.bind ((ask_returns hrows).weaken (fun _ hw => hw.2) (fun _ _ h => h)
    fun _ _ h => h) ?_
  intro answer
  refine Triple.assume (fun _ hw => hw.1) ?_
  rintro rfl
  refine Triple.get_bind (fun w hw => hw.2.1.1) ?_
  intro found hcell
  rw [hcell, hclaim]
  refine Triple.set ?_
  rintro w ⟨rfl, -, -, hstocked⟩
  exact ⟨hnode, hstocked⟩

theorem createShadow_returns (h : OnRows φ) :
    Triple (fun w => φ w ∧ Stocked cell (n + 1) w) (createShadow r)
      (fun _ w => φ w ∧ Stocked cell n w) (fun _ _ => False) := by
  unfold createShadow
  split
  · have hport : Triple (fun w => φ w ∧ Stocked cell (n + 1) w) (askPort (·.shadow))
        (fun _ w => φ w ∧ Stocked cell n w) (fun _ _ => False) := by
      refine Triple.bind (ask_returns h) ?_
      intro answer
      refine Triple.assume (fun _ hw => hw.1) ?_
      rintro rfl
      exact Triple.pure fun _ hw => hw.2
    exact Triple.bind hport fun _ => Triple.modify fun w hw => ⟨h w w.answers _ hw.1, hw.2⟩
  · exact Triple.pure fun _ hw => ⟨hw.1, Nat.le_of_succ_le hw.2.1, hw.2.2⟩

end

theorem runPhases_returns {r : Runner} {cell : LoopCell} (h : ¬ Dispatched cell.run.node) :
    Triple (fun w => w.cell.run.node = cell.run.node ∧ Stocked cell 2 w) (runPhases r [])
      (fun state w => state.node = cell.run.node ∧ Stocked cell 1 w) (fun _ _ => False) := by
  refine Triple.get_bind (fun w hw => hw.1) ?_
  intro found hnode
  rw [← hnode] at h
  have hall : OnRows fun _ => True := fun _ _ _ hw => hw
  have hstarts : Triple (fun w => found = w ∧ w.cell.run.node = cell.run.node ∧ Stocked cell 2 w)
      (note (.started found.cell [])) (fun _ w => True ∧ Stocked cell 2 w) (fun _ _ => False) :=
    Triple.modify fun _ hw => ⟨trivial, hw.2.2⟩
  refine Triple.bind hstarts fun _ => ?_
  have hcollects : Triple (fun w => True ∧ Stocked cell 2 w) (collect fun _ => [])
      (fun _ w => True ∧ Stocked cell 2 w) (fun _ _ => False) := Triple.modify fun _ hw => hw
  refine Triple.bind hcollects fun _ => ?_
  refine Triple.bind (createShadow_returns hall) fun _ => ?_
  rw [planPhase_undispatched h, pure_bind]
  dsimp only
  rw [actPhases_undispatched h]
  exact Triple.pure fun w hw => ⟨hnode, hw.2⟩

theorem runAsyncImpl_returns {r : Runner} {cell : LoopCell} (hspec : r.specError = none)
    (hrunning : cell.run.terminalState = none) (h : ¬ Dispatched cell.run.node) :
    Triple (fun w => (w.cell = cell ∧ w.leaseClaimed = false) ∧ Stocked cell 4 w)
      (runAsyncImpl r []) (fun state w => state.node = cell.run.node ∧ Stocked cell 1 w)
      (fun _ _ => False) := by
  have hrows : OnRows fun w => w.cell = cell ∧ w.leaseClaimed = false := fun _ _ _ hw => hw
  simp only [runAsyncImpl, hspec]
  refine Triple.bind (ask_returns hrows) fun _ => ?_
  refine Triple.get_bind (fun w hw => hw.2.1.1) ?_
  intro found hcell
  have hstopped : found.cell.run.isStopped = false := by simp [hcell, hrunning]
  rw [hstopped, if_neg Bool.false_ne_true]
  refine Triple.bind ((claimOnce_returns hrunning).weaken (fun _ hw => hw.2.2) (fun _ _ h => h)
    fun _ _ h => h) fun _ => runPhases_returns h

theorem undispatched_returns {r : Runner} {cell : LoopCell} (hspec : r.specError = none)
    (hrunning : cell.run.terminalState = none) (h : ¬ Dispatched cell.run.node) :
    ∃ answers state world, runLoop r 1 [] (startWorld cell [] answers) = .ok state world := by
  have hloop : Triple (fun w => (w.cell = cell ∧ w.leaseClaimed = false) ∧ Stocked cell 4 w)
      (runLoop r 1 []) (fun _ _ => True) (fun _ _ => False) := by
    refine Triple.bind (runAsyncImpl_returns hspec hrunning h) ?_
    intro state
    have hrows : OnRows fun _ => state.node = cell.run.node := fun _ _ _ hw => hw
    refine Triple.bind (checkLeaseRenewal_returns hrows) fun _ => ?_
    refine Triple.assume (fun _ hw => hw) ?_
    intro hnode
    rw [if_pos (.inl fun hplan => h (.inl (hnode ▸ hplan)))]
    exact Triple.pure fun _ _ => trivial
  let answers := List.replicate 4 (freeAnswer cell)
  have hrun := hloop (startWorld cell [] answers)
    ⟨⟨rfl, rfl⟩, Nat.le_refl 4, fun _ hmem => List.eq_of_mem_replicate hmem⟩
  cases hend : runLoop r 1 [] (startWorld cell [] answers) with
  | ok state world => exact ⟨answers, state, world, hend⟩
  | error halt world =>
      rw [hend] at hrun
      exact hrun.elim

theorem undispatched_not_resumes {r : Runner} {cell : LoopCell} (hspec : r.specError = none)
    (hrunning : cell.run.terminalState = none) (h : ¬ Dispatched cell.run.node) :
    ¬ ResumesOrRaises r cell := by
  intro hresumes
  obtain ⟨answers, state, world, hreturns⟩ := undispatched_returns hspec hrunning h
  have hidle := runLoop_idle r 1 [] h (startWorld cell [] answers)
    ⟨hrunning, rfl, by simp [Committed, startWorld]⟩
  rw [hreturns] at hidle
  obtain ⟨⟨-, -, huncommitted⟩, -⟩ := hidle
  exact huncommitted (hresumes _ _ _ _ _ hreturns)

/-- Every call that returns on a running loop has performed a transition exactly
when the loop is at a node of a phase, or the spec is not valid. -/
theorem resumes_or_raises_iff {r : Runner} {cell : LoopCell}
    (hrunning : cell.run.terminalState = none) :
    ResumesOrRaises r cell ↔ Dispatched cell.run.node ∨ r.specError.isSome := by
  constructor
  · intro hresumes
    by_contra hneither
    obtain ⟨hnode, hspec⟩ := not_or.mp hneither
    exact undispatched_not_resumes (Option.not_isSome_iff_eq_none.mp hspec) hrunning hnode hresumes
  · rintro (hnode | hspec) calls evidence answers state world hreturns
    · have hadvances := runLoop_advances r calls evidence (startWorld cell [] answers)
        ⟨⟨hrunning, hnode⟩, .nothing⟩
      rw [hreturns] at hadvances
      exact hadvances
    · obtain ⟨error, herror⟩ := Option.isSome_iff_exists.mp hspec
      cases calls with
      | zero => cases hreturns
      | succ calls =>
          have hraises : runAsyncImpl r evidence = raise (.other error) := by
            simp only [runAsyncImpl, herror]
          simp only [runLoop, hraises] at hreturns
          cases hreturns

theorem resumes_or_raises_created : ResumesOrRaises plainRunner plainLoop.1 :=
  (resumes_or_raises_iff rfl).mpr (.inl (.inl rfl))

/-- A history whose process dies between the two transitions of a pause. -/
def diedWhilePausing : List Item :=
  [plainDrive [] ((plainAnswers 1 12).modify 8 fun answer =>
    { answer with grant := plainGrant .pause })]

/-- It leaves a running loop at `PAUSE`, which a call may return as it is. -/
theorem diedWhilePausing_stays :
    (play plainLoop diedWhilePausing).1.run.terminalState = none
      ∧ ¬ ResumesOrRaises plainRunner (play plainLoop diedWhilePausing).1 := by
  have hrunning : (play plainLoop diedWhilePausing).1.run.terminalState = none := by
    decide +kernel
  have hnode : (play plainLoop diedWhilePausing).1.run.node = .pause := by decide +kernel
  refine ⟨hrunning, undispatched_not_resumes rfl hrunning ?_⟩
  rw [hnode]
  simp [Dispatched]

end Navi.StateGraph
