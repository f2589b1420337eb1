import Navi.StateGraph.Publication

/-!
# After the merge

What stands between the merge and `CONVERGED`: the commit of the staged side effects,
and the three operations of the transition, the last of which looks at the lease. A
drive that merged and does not get through them leaves the real workspace changed and
the loop where it was, or parked for an approval.
-/

namespace Navi.StateGraph

open Navi.Base Navi.Loop

/-! ## Transitions and how they end -/

/-- The loop's row when a program has ended, however it ended. -/
def endRun {α : Type} : EStateM.Result Halt World α → LoopRunState
  | .ok _ w | .error _ w => w.cell.run

/-- The loop with the checkpoint of a transition. -/
def checkpointed (state : LoopRunState) (node : LoopNode) (condition : String)
    (terminalState : Option LoopTerminalState) (w : World) (checkpoint : Answer) : LoopCell :=
  Loop.writeCheckpoint w.cell checkpoint.checkpointId state.node
    [("target_node", .str node.text), ("condition", .str condition),
      ("terminal_state", .str (terminalStateText terminalState))] checkpoint.now

/-- What a transition asks of the store. -/
def requested (r : Runner) (node : LoopNode) (condition : String)
    (terminalState : Option LoopTerminalState) (evidence : Dict) (w : World)
    (checkpoint : Answer) : TransitionRequest where
  node := node
  terminalState := terminalState
  condition := condition
  evidence := w.pending.merge evidence
  checkpointId := checkpoint.checkpointId
  leaseOwner := r.executionOwner

section

variable {r : Runner} {state : LoopRunState} {w : World}

theorem storeTransition_ends (request : TransitionRequest) {move : Answer} {later : List Answer}
    (h : w.answers = move :: later) :
    (∃ cell w', Loop.transition w.cell request move.now = .ok cell
        ∧ storeTransition request w = .ok cell.run w' ∧ w'.cell = cell)
      ∨ ∃ error halt w', Loop.transition w.cell request move.now = .error error
        ∧ storeTransition request w = .error halt w' ∧ w'.cell = w.cell := by
  simp only [storeTransition, bind, EStateM.bind, ask_eq, h, get, getThe, MonadStateOf.get,
    EStateM.get]
  cases htransition : Loop.transition w.cell request move.now with
  | ok cell => exact .inl ⟨cell, _, rfl, rfl, rfl⟩
  | error error => exact .inr ⟨error, _, _, rfl, rfl, rfl⟩

/-- The process lives through the three operations of a transition, and the store
answers the last of them. -/
def Moves (r : Runner) (state : LoopRunState) (node : LoopNode) (condition : String)
    (terminalState : Option LoopTerminalState) (evidence : Dict) (w : World)
    (answer : Except StoreError LoopCell) : Prop :=
  ∃ renewal checkpoint move later, w.answers = renewal :: checkpoint :: move :: later
    ∧ renewal.leaseRenewalError = false
    ∧ Loop.transition (checkpointed state node condition terminalState w checkpoint)
        (requested r node condition terminalState evidence w checkpoint) move.now = answer

theorem Moves.unique {node : LoopNode} {condition : String}
    {terminalState : Option LoopTerminalState} {evidence : Dict}
    {answer answer' : Except StoreError LoopCell}
    (h : Moves r state node condition terminalState evidence w answer)
    (h' : Moves r state node condition terminalState evidence w answer') : answer = answer' := by
  obtain ⟨renewal, checkpoint, move, later, hanswers, -, hanswer⟩ := h
  obtain ⟨renewal', checkpoint', move', later', hanswers', -, hanswer'⟩ := h'
  rw [hanswers] at hanswers'
  simp only [List.cons.injEq] at hanswers'
  obtain ⟨rfl, rfl, rfl, rfl⟩ := hanswers'
  rw [← hanswer, ← hanswer']

theorem transition_ends (r : Runner) (state : LoopRunState) (node : LoopNode)
    (condition : String) (terminalState : Option LoopTerminalState) (evidence : Dict) (w : World) :
    (∃ cell w', Moves r state node condition terminalState evidence w (.ok cell)
        ∧ transition r state node condition terminalState evidence w = .ok cell.run w'
        ∧ w'.cell = cell)
      ∨ (∀ cell, ¬ Moves r state node condition terminalState evidence w (.ok cell))
        ∧ ∃ halt w', transition r state node condition terminalState evidence w = .error halt w'
          ∧ w'.cell.run = w.cell.run := by
  simp only [transition, checkLeaseRenewal, bind, EStateM.bind, ask_eq]
  cases h : w.answers with
  | nil =>
      refine .inr ⟨?_, _, _, rfl, rfl⟩
      rintro cell ⟨_, _, _, _, hanswers, -⟩
      simp [h] at hanswers
  | cons renewal rest =>
      dsimp only
      by_cases hrenewal : renewal.leaseRenewalError = true
      · rw [if_pos hrenewal]
        refine .inr ⟨?_, _, _, rfl, rfl⟩
        rintro cell ⟨_, _, _, _, hanswers, hrenewed, -⟩
        rw [h] at hanswers
        obtain ⟨rfl, -⟩ := List.cons.inj hanswers
        rw [hrenewal] at hrenewed
        cases hrenewed
      · rw [if_neg hrenewal]
        have hrenewed : renewal.leaseRenewalError = false := by simpa using hrenewal
        cases rest with
        | nil =>
            refine .inr ⟨?_, _, _, rfl, rfl⟩
            rintro cell ⟨_, _, _, _, hanswers, -⟩
            simp [h] at hanswers
        | cons checkpoint rest =>
            cases rest with
            | nil =>
                refine .inr ⟨?_, _, _, rfl, rfl⟩
                rintro cell ⟨_, _, _, _, hanswers, -⟩
                simp [h] at hanswers
            | cons move later =>
                have hmoves : ∀ answer, Loop.transition
                    (checkpointed state node condition terminalState w checkpoint)
                    (requested r node condition terminalState evidence w checkpoint) move.now
                      = answer → Moves r state node condition terminalState evidence w answer :=
                  fun answer hanswer =>
                    ⟨renewal, checkpoint, move, later, h, hrenewed, hanswer⟩
                have hanswers : ({ w with
                    cell := checkpointed state node condition terminalState w checkpoint
                    answers := move :: later } : World).answers = move :: later := rfl
                rcases storeTransition_ends
                  (requested r node condition terminalState evidence w checkpoint) hanswers with
                  ⟨cell, w', hok, hrun, hcell⟩ | ⟨error, halt, w', herror, hrun, hcell⟩
                · refine .inl ⟨cell, { w' with pending := [] }, hmoves _ hok, ?_, hcell⟩
                  simp only [writeCheckpoint, bind, EStateM.bind, ask_eq, modify, modifyGet,
                    MonadStateOf.modifyGet, EStateM.modifyGet, get, getThe, MonadStateOf.get,
                    EStateM.get, pure, EStateM.pure]
                  unfold requested checkpointed at hrun
                  rw [hrun]
                · refine .inr ⟨fun cell hcell' => ?_, halt, w', ?_, ?_⟩
                  · cases hcell'.unique (hmoves _ herror)
                  · simp only [writeCheckpoint, bind, EStateM.bind, ask_eq, modify, modifyGet,
                      MonadStateOf.modifyGet, EStateM.modifyGet, get, getThe, MonadStateOf.get,
                      EStateM.get, pure, EStateM.pure]
                    unfold requested checkpointed at hrun
                    rw [hrun]
                  · rw [hcell]
                    rfl

/-- The operations of the transition to `CONVERGED`, when it goes through: the
heartbeat has not failed, and the driver holds the lease when it moves the loop. -/
structure Converges (r : Runner) (cell : LoopCell) (renewal checkpoint move : Answer) : Prop where
  renewed : renewal.leaseRenewalError = false
  named : strip checkpoint.checkpointId ≠ ""
  edge : transitionAllowed cell.stateGraph .evaluate (.terminal .converged) "checker_passed" = true
  owner : cell.run.leaseOwner = r.executionOwner
  leased : move.now < cell.run.leaseExpiresAt

theorem moves_converged_iff (state : LoopRunState) (evidence : Dict)
    (howner : r.executionOwner ≠ "")
    (hnode : w.cell.run.node = .evaluate) (hrunning : w.cell.run.terminalState = none) :
    (∃ cell, Moves r state .evaluate "checker_passed" (some .converged) evidence w (.ok cell))
      ↔ ∃ renewal checkpoint move later, w.answers = renewal :: checkpoint :: move :: later
        ∧ Converges r w.cell renewal checkpoint move := by
  constructor
  · rintro ⟨cell, renewal, checkpoint, move, later, hanswers, hrenewed, hok⟩
    obtain ⟨hpermitted, -⟩ := transition_eq_ok.mp hok
    obtain ⟨howns, hleased⟩ := hpermitted.leased howner
    refine ⟨renewal, checkpoint, move, later, hanswers, hrenewed, hpermitted.named, ?_, howns,
      hleased⟩
    have hedge := hpermitted.edge
    rw [show (checkpointed state .evaluate "checker_passed" (some .converged) w checkpoint).run.node
      = .evaluate from hnode] at hedge
    exact hedge
  · rintro ⟨renewal, checkpoint, move, later, hanswers, hconverges⟩
    refine ⟨_, renewal, checkpoint, move, later, hanswers, hconverges.renewed,
      transition_eq_ok.mpr ⟨⟨?_, hrunning, ?_, fun _ => ⟨hconverges.owner, hconverges.leased⟩,
        hconverges.named⟩, rfl⟩⟩
    · exact ⟨_, List.mem_append_right _ (List.mem_singleton_self _), rfl⟩
    · show transitionAllowed w.cell.stateGraph w.cell.run.node (.terminal .converged)
        "checker_passed" = true
      rw [hnode]
      exact hconverges.edge

theorem transition_converges_iff {evidence : Dict} (howner : r.executionOwner ≠ "")
    (hnode : w.cell.run.node = .evaluate) (hrunning : w.cell.run.terminalState = none) :
    (endRun (transition r state .evaluate "checker_passed" (some .converged) evidence
        w)).terminalState = some .converged
      ↔ ∃ renewal checkpoint move later, w.answers = renewal :: checkpoint :: move :: later
        ∧ Converges r w.cell renewal checkpoint move := by
  rw [← moves_converged_iff state evidence howner hnode hrunning]
  rcases transition_ends r state .evaluate "checker_passed" (some .converged) evidence w with
    ⟨cell, w', hmoves, hrun, hcell⟩ | ⟨hnot, halt, w', hrun, hsame⟩
  · refine iff_of_true ?_ ⟨cell, hmoves⟩
    rw [hrun]
    show w'.cell.run.terminalState = some .converged
    obtain ⟨_, _, _, _, -, -, hok⟩ := hmoves
    obtain ⟨-, rfl⟩ := transition_eq_ok.mp hok
    rw [hcell]
    rfl
  · refine iff_of_false ?_ fun ⟨cell, hmoves⟩ => hnot cell hmoves
    rw [hrun]
    show w'.cell.run.terminalState ≠ some .converged
    rw [hsame, hrunning]
    exact Option.some_ne_none _ |>.symm

/-- A program that ends with the loop elsewhere than at `CONVERGED`. -/
def Unconverged {α : Type} (program : Drive α) : Prop :=
  Triple (fun w => w.cell.run.terminalState ≠ some .converged) program
    (fun _ w => w.cell.run.terminalState ≠ some .converged)
    (fun _ w => w.cell.run.terminalState ≠ some .converged)

theorem transition_unconverged (r : Runner) (state : LoopRunState) (node : LoopNode)
    (condition : String) {terminalState : Option LoopTerminalState} (evidence : Dict)
    (h : terminalState ≠ some .converged) :
    Unconverged (transition r state node condition terminalState evidence) := by
  intro w hw
  rcases transition_ends r state node condition terminalState evidence w with
    ⟨cell, w', hmoves, hrun, hcell⟩ | ⟨-, halt, w', hrun, hsame⟩
  · rw [hrun]
    obtain ⟨_, _, _, _, -, -, hok⟩ := hmoves
    obtain ⟨-, rfl⟩ := transition_eq_ok.mp hok
    show w'.cell.run.terminalState ≠ some .converged
    rw [hcell]
    exact h
  · rw [hrun]
    show w'.cell.run.terminalState ≠ some .converged
    rwa [hsame]

theorem park_unconverged (r : Runner) (state : LoopRunState) (stop : Stop) :
    Unconverged (park r state stop) := by
  have hnote : Unconverged (note (.parking state stop)) := Triple.modify fun _ hw => hw
  have hterminal : some stop.terminal ≠ some LoopTerminalState.converged := by
    unfold Stop.terminal
    split <;> simp
  exact Triple.bind hnote fun _ =>
    Triple.bind (transition_unconverged r state _ _ _ (Option.some_ne_none _).symm) fun moved =>
      transition_unconverged r moved _ _ _ hterminal

theorem endRun_unconverged {α : Type} {program : Drive α} (h : Unconverged program)
    (hrunning : w.cell.run.terminalState = none) :
    (endRun (program w)).terminalState ≠ some .converged := by
  have hend := h w (by simp [hrunning])
  cases hrun : program w with
  | ok a w' =>
      rw [hrun] at hend
      exact hend
  | error halt w' =>
      rw [hrun] at hend
      exact hend

/-! ## From the merge to the transition -/

/-- There are no staged side effects, or the gateway commits them. -/
def SideEffectsCommitted (staged : Dict) (answers left : List Answer) : Prop :=
  if staged.isEmpty then answers = left
  else ∃ answer result, answers = answer :: left ∧ answer.sideEffect = .ok result
    ∧ result.ok = true

/-- The operations that are left converge the loop. -/
def GoesThrough (r : Runner) (cell : LoopCell) (staged : Dict) (answers : List Answer) : Prop :=
  ∃ renewal checkpoint move later,
    SideEffectsCommitted staged answers (renewal :: checkpoint :: move :: later)
      ∧ Converges r cell renewal checkpoint move

theorem convergeState_converges_iff {report : CheckerReport} (howner : r.executionOwner ≠ "")
    (hnode : w.cell.run.node = .evaluate) (hrunning : w.cell.run.terminalState = none) :
    (endRun (convergeState r state report w)).terminalState = some .converged
      ↔ GoesThrough r w.cell (sideEffectFromCollectedEvidence w.collected) w.answers := by
  have hstays : w.cell.run.terminalState ≠ some .converged := by simp [hrunning]
  unfold GoesThrough SideEffectsCommitted
  by_cases hstaged : (sideEffectFromCollectedEvidence w.collected).isEmpty
  · have hcommit : commitSideEffects w = .ok none w := by
      simp only [commitSideEffects, collected, bind, EStateM.bind, get, getThe, MonadStateOf.get,
        EStateM.get, pure, EStateM.pure, if_pos hstaged]
    simp only [if_pos hstaged, convergeState, bind, EStateM.bind, hcommit, Option.filter_none]
    exact transition_converges_iff howner hnode hrunning
  · have hcommit : commitSideEffects w = (do
        let result ← askPort (·.sideEffect)
        observe (.sideEffectsCommitted result)
        collect fun evidence => evidence.put "side_effect_commit_result" (.obj result.toDict)
        return some result : Drive (Option SideEffectSagaResult)) w := by
      simp only [commitSideEffects, collected, bind, EStateM.bind, get, getThe, MonadStateOf.get,
        EStateM.get, pure, EStateM.pure, if_neg hstaged]
    simp only [askPort, bind, EStateM.bind, ask_eq] at hcommit
    simp only [if_neg hstaged, convergeState, bind, EStateM.bind]
    cases hanswers : w.answers with
    | nil =>
        rw [hanswers] at hcommit
        rw [hcommit]
        exact iff_of_false hstays (by simp)
    | cons answer rest =>
        rw [hanswers] at hcommit
        dsimp only at hcommit
        cases hanswer : answer.sideEffect with
        | error error =>
            rw [hanswer] at hcommit
            rw [hcommit]
            refine iff_of_false hstays ?_
            rintro ⟨_, _, _, _, ⟨answer', result, hhead, hresult, -⟩, -⟩
            obtain ⟨rfl, -⟩ := List.cons.inj hhead
            rw [hanswer] at hresult
            cases hresult
        | ok result =>
            let committed : World := { w with
              answers := rest
              log := .observed (.sideEffectsCommitted result) :: w.log
              collected := w.collected.put "side_effect_commit_result" (.obj result.toDict) }
            rw [hanswer] at hcommit
            have hcommitted : commitSideEffects w = .ok (some result) committed := hcommit
            rw [hcommitted]
            dsimp only
            cases hok : result.ok with
            | true =>
                have hnone : ((some result).filter fun result : SideEffectSagaResult =>
                    !result.ok) = none := by simp [hok]
                rw [hnone]
                refine (transition_converges_iff (w := committed) howner hnode hrunning).trans ?_
                constructor
                · rintro ⟨renewal, checkpoint, move, later, hrest, hconverges⟩
                  exact ⟨renewal, checkpoint, move, later,
                    ⟨answer, result, by rw [← hrest], hanswer, hok⟩, hconverges⟩
                · rintro ⟨renewal, checkpoint, move, later, ⟨_, _, hhead, -, -⟩, hconverges⟩
                  exact ⟨renewal, checkpoint, move, later, (List.cons.inj hhead).2, hconverges⟩
            | false =>
                have hsome : ((some result).filter fun result : SideEffectSagaResult =>
                    !result.ok) = some result := by simp [hok]
                rw [hsome]
                refine iff_of_false (endRun_unconverged (park_unconverged r state _) hrunning) ?_
                rintro ⟨_, _, _, _, ⟨_, result', hhead, hresult, hok'⟩, -⟩
                obtain ⟨rfl, -⟩ := List.cons.inj hhead
                rw [hanswer] at hresult
                cases hresult
                rw [hok] at hok'
                cases hok'

def World.afterMerge (w : World) (merged : MergeResult) (rest : List Answer) : World :=
  { w with
    answers := rest
    log := .observed (.merged merged) :: w.log
    collected := w.collected.put "merge_result" (.obj merged.toDict) }

theorem mergeAndConverge_eq {report : CheckerReport} {answer : Answer} {rest : List Answer}
    {merged : MergeResult} (hanswers : w.answers = answer :: rest)
    (hmerged : answer.merged = .ok merged) (hgoes : merged.status ≠ .conflicted) :
    mergeAndConverge r state report w
      = convergeState r state report (w.afterMerge merged rest) := by
  simp only [mergeAndConverge, askPort, bind, EStateM.bind, ask_eq, hanswers, hmerged]
  show (if merged.status = .conflicted then _ else convergeState r state report)
    (w.afterMerge merged rest) = _
  rw [if_neg hgoes]

theorem mergeAndConverge_converges_iff {report : CheckerReport} {answer : Answer}
    {rest : List Answer} {merged : MergeResult} (howner : r.executionOwner ≠ "")
    (hnode : w.cell.run.node = .evaluate) (hrunning : w.cell.run.terminalState = none)
    (hanswers : w.answers = answer :: rest) (hmerged : answer.merged = .ok merged)
    (hgoes : merged.status ≠ .conflicted) :
    (endRun (mergeAndConverge r state report w)).terminalState = some .converged
      ↔ GoesThrough r w.cell (sideEffectFromCollectedEvidence w.collected) rest := by
  have hstaged : sideEffectFromCollectedEvidence (w.afterMerge merged rest).collected
      = sideEffectFromCollectedEvidence w.collected := by
    unfold sideEffectFromCollectedEvidence
    have hresult : (w.afterMerge merged rest).collected.get "capability_result"
        = w.collected.get "capability_result" := by
      simp [World.afterMerge]
    rw [Dict.sub_congr hresult]
  rw [mergeAndConverge_eq hanswers hmerged hgoes, ← hstaged]
  exact convergeState_converges_iff howner hnode hrunning

theorem mergeAndConverge_raised {report : CheckerReport}
    (h : ∀ answer ∈ w.answers.head?, ∀ merged, answer.merged ≠ .ok merged) :
    (endRun (mergeAndConverge r state report w)) = w.cell.run := by
  simp only [mergeAndConverge, askPort, bind, EStateM.bind, ask_eq]
  cases hanswers : w.answers with
  | nil => rfl
  | cons answer rest =>
      cases hmerged : answer.merged with
      | error error =>
          dsimp only
          rw [hmerged]
          rfl
      | ok merged => exact absurd hmerged (h answer (by rw [hanswers]; rfl) merged)

/-! ## Loops that are still open -/

def Open (run : LoopRunState) : Prop :=
  run.terminalState = none ∨ externallyWaiting run = true

def OpenOrConverged (run : LoopRunState) : Prop :=
  Open run ∨ run.terminalState = some .converged

/-- A program that stops the loop nowhere else than at `CONVERGED`. -/
def StaysOpen {α : Type} (program : Drive α) : Prop :=
  Triple (fun w => OpenOrConverged w.cell.run) program (fun _ w => OpenOrConverged w.cell.run)
    (fun _ w => OpenOrConverged w.cell.run)

theorem StaysOpen.bind {α β : Type} {program : Drive α} {rest : α → Drive β}
    (h : StaysOpen program) (hrest : ∀ a, StaysOpen (rest a)) : StaysOpen (program >>= rest) :=
  Triple.bind h hrest

theorem staysOpen_pure {α : Type} (a : α) : StaysOpen (pure a : Drive α) :=
  Triple.pure fun _ hw => hw

theorem transition_staysOpen (r : Runner) (state : LoopRunState) (node : LoopNode)
    (condition : String) {terminalState : Option LoopTerminalState} (evidence : Dict)
    (h : ∀ run : LoopRunState, run.terminalState = terminalState → OpenOrConverged run) :
    StaysOpen (transition r state node condition terminalState evidence) := by
  intro w hw
  rcases transition_ends r state node condition terminalState evidence w with
    ⟨cell, w', hmoves, hrun, hcell⟩ | ⟨-, halt, w', hrun, hsame⟩
  · rw [hrun]
    obtain ⟨_, _, _, _, -, -, hok⟩ := hmoves
    obtain ⟨-, rfl⟩ := transition_eq_ok.mp hok
    refine h w'.cell.run ?_
    rw [hcell]
    rfl
  · rw [hrun]
    show OpenOrConverged w'.cell.run
    rwa [hsame]

theorem park_staysOpen (r : Runner) (state : LoopRunState) (stop : Stop) :
    StaysOpen (park r state stop) := by
  have hnote : StaysOpen (note (.parking state stop)) := Triple.modify fun _ hw => hw
  refine hnote.bind fun _ => StaysOpen.bind ?_ fun moved => ?_
  · exact transition_staysOpen r state _ _ _ fun run hrun => .inl (.inl hrun)
  · refine transition_staysOpen r moved _ _ _ fun run hrun => .inl (.inr ?_)
    unfold Stop.terminal at hrun
    split at hrun <;> simp [externallyWaiting, hrun]

theorem convergeState_staysOpen (r : Runner) (state : LoopRunState) (report : CheckerReport) :
    StaysOpen (convergeState r state report) := by
  have hask : StaysOpen ask := by
    intro w hw
    rw [ask_eq]
    cases w.answers with
    | nil => exact hw
    | cons answer rest => exact hw
  have hcommit : StaysOpen commitSideEffects := by
    have hcollected : StaysOpen collected :=
      StaysOpen.bind (Triple.get fun _ hw => hw) fun _ => staysOpen_pure _
    refine hcollected.bind fun evidence => ?_
    split
    · exact staysOpen_pure _
    · refine StaysOpen.bind (hask.bind fun answer => ?_) fun result => ?_
      · split
        · exact staysOpen_pure _
        · exact Triple.throw fun _ hw => hw
      · refine StaysOpen.bind (Triple.modify fun _ hw => hw) fun _ => ?_
        exact StaysOpen.bind (Triple.modify fun _ hw => hw) fun _ => staysOpen_pure _
  refine hcommit.bind fun committed => ?_
  split
  · exact park_staysOpen r state _
  · exact transition_staysOpen r state _ _ _ fun run hrun => .inr hrun

theorem endRun_of_staysOpen {α : Type} {program : Drive α} (h : StaysOpen program)
    (hw : OpenOrConverged w.cell.run) : OpenOrConverged (endRun (program w)) := by
  have hend := h w hw
  cases hrun : program w with
  | ok a w' =>
      rw [hrun] at hend
      exact hend
  | error halt w' =>
      rw [hrun] at hend
      exact hend

/-! ## The end of a drive that merged -/

/-- The program returns a loop that is not at `PLAN`. -/
def LeavesPlan (program : Drive LoopRunState) : Prop :=
  Triple (fun _ => True) program (fun state _ => state.node ≠ .plan) (fun _ _ => True)

theorem transition_leavesPlan (r : Runner) (state : LoopRunState) {node : LoopNode}
    (condition : String) (terminalState : Option LoopTerminalState) (evidence : Dict)
    (h : node ≠ .plan) :
    LeavesPlan (transition r state node condition terminalState evidence) := by
  intro w _
  rcases transition_ends r state node condition terminalState evidence w with
    ⟨cell, w', hmoves, hrun, -⟩ | ⟨-, halt, w', hrun, -⟩
  · rw [hrun]
    obtain ⟨_, _, _, _, -, -, hok⟩ := hmoves
    obtain ⟨-, rfl⟩ := transition_eq_ok.mp hok
    exact h
  · rw [hrun]
    trivial

theorem mergeAndConverge_leavesPlan (r : Runner) (state : LoopRunState) (report : CheckerReport) :
    LeavesPlan (mergeAndConverge r state report) := by
  have hstop (stop : Stop) : stop.node ≠ .plan := by
    rcases stop.node_eq with h | h <;> simp [h]
  have hevaluate : LoopNode.evaluate ≠ .plan := LoopNode.noConfusion
  refine Triple.bind (anything _) fun merged => Triple.bind (anything _) fun _ => ?_
  refine Triple.bind (anything _) fun _ => ?_
  split
  · exact Triple.bind (anything _) fun _ => transition_leavesPlan r state _ _ _ hevaluate
  · refine Triple.bind (anything _) fun committed => ?_
    split
    · exact Triple.bind (anything _) fun _ => Triple.bind (anything _) fun moved =>
        transition_leavesPlan r moved _ _ _ (hstop _)
    · exact transition_leavesPlan r state _ _ _ hevaluate

theorem checkLeaseRenewal_row (w : World) : endRun (checkLeaseRenewal w) = w.cell.run := by
  simp only [checkLeaseRenewal, bind, EStateM.bind, ask_eq]
  cases w.answers with
  | nil => rfl
  | cons answer rest =>
      dsimp only
      split <;> rfl

theorem MergesIn.ends {calls : Nat} {evidence : Dict} {start before : World}
    {report : CheckerReport} (h : MergesIn r calls evidence start state report before) :
    endRun (runLoop r calls evidence start) = endRun (mergeAndConverge r state report before) := by
  induction h with
  | @now calls evidence start before state report h =>
      have hcall : runAsyncImpl r evidence start = mergeAndConverge r state report before := by
        rw [runAsyncImpl_eq_merge]
        simp only [bind, EStateM.bind, h]
        rfl
      have hleaves := mergeAndConverge_leavesPlan r state report before trivial
      rw [runLoop]
      simp only [bind, EStateM.bind, hcall]
      cases hend : mergeAndConverge r state report before with
      | error halt w' => rfl
      | ok ending w' =>
          rw [hend] at hleaves
          dsimp only
          have hrow := checkLeaseRenewal_row w'
          cases hcheck : checkLeaseRenewal w' with
          | error halt w'' =>
              rw [hcheck] at hrow
              exact hrow
          | ok _ w'' =>
              rw [hcheck] at hrow
              dsimp only
              rw [if_pos (.inl hleaves)]
              exact hrow
  | later hcall hcheck hnext h ih =>
      rw [runLoop]
      simp only [bind, EStateM.bind, hcall, hcheck, if_neg hnext]
      exact ih

end

/-! ## A converged loop -/

/-- The loop is at `CONVERGED`. -/
def Converged (s : Lived) : Prop := s.1.run.terminalState = some .converged

section

variable {s : Lived}

theorem Converged.after {answer : Except StoreError LoopCell} {events : LoopCell → List Event}
    (h : Converged s)
    (hanswer : ∀ cell, answer = .ok cell → cell.run.terminalState = some .converged) :
    Converged (s.after answer events) := by
  unfold Lived.after
  split
  next cell => exact hanswer cell rfl
  next => exact h

theorem Converged.notWaiting (h : Converged s) : externallyWaiting s.1.run = false := by
  unfold Converged at h
  simp [externallyWaiting, h]

theorem runLoop_converged (r : Runner) (calls : Nat) (evidence : Dict) :
    Triple (fun w => w.cell.run.terminalState = some .converged) (runLoop r calls evidence)
      (fun _ w => w.cell.run.terminalState = some .converged)
      (fun _ w => w.cell.run.terminalState = some .converged) := by
  have hask : Triple (fun w => w.cell.run.terminalState = some .converged) ask
      (fun _ w => w.cell.run.terminalState = some .converged)
      (fun _ w => w.cell.run.terminalState = some .converged) := by
    intro w hw
    rw [ask_eq]
    cases w.answers with
    | nil => exact hw
    | cons answer rest => exact hw
  have hcall : Triple (fun w => w.cell.run.terminalState = some .converged)
      (runAsyncImpl r evidence)
      (fun state w => state.isStopped = true ∧ w.cell.run.terminalState = some .converged)
      (fun _ w => w.cell.run.terminalState = some .converged) := by
    unfold runAsyncImpl
    split
    · exact Triple.throw fun _ hw => hw
    · refine Triple.bind hask fun _ => Triple.get_bind (fun _ hw => hw) fun found hfound => ?_
      have hstopped : found.cell.run.isStopped = true := by simp [hfound]
      rw [if_pos hstopped]
      have hcollects : Triple
          (fun w => found = w ∧ w.cell.run.terminalState = some .converged)
          (collect fun _ => evidence) (fun _ w => w.cell.run.terminalState = some .converged)
          (fun _ w => w.cell.run.terminalState = some .converged) := Triple.modify fun _ hw => hw.2
      exact Triple.bind hcollects fun _ => Triple.pure fun w hw => ⟨hstopped, hw⟩
  cases calls with
  | zero => exact Triple.throw fun _ hw => hw
  | succ calls =>
      refine Triple.bind hcall fun state => Triple.assume (fun w hw => hw.1) fun hstopped => ?_
      have hcheck : Triple (fun w => state.isStopped = true
          ∧ w.cell.run.terminalState = some .converged) checkLeaseRenewal
          (fun _ w => w.cell.run.terminalState = some .converged)
          (fun _ w => w.cell.run.terminalState = some .converged) := by
        refine Triple.bind (hask.weaken (fun _ hw => hw.2) (fun _ _ h => h) fun _ _ h => h)
          fun answer => ?_
        split
        · exact Triple.throw fun _ hw => hw
        · exact Triple.pure fun _ hw => hw
      refine Triple.bind hcheck fun _ => ?_
      rw [if_pos (.inr hstopped)]
      exact Triple.pure fun _ hw => hw

theorem Converged.apply (h : Converged s) (item : Item) : Converged (item.apply s) := by
  have hwaiting := h.notWaiting
  have hcancel (refusal : String) (evidence : Dict) (now : Time) (cell : LoopCell) :
      cancelWaiting refusal s.1 evidence now = .ok cell →
        cell.run.terminalState = some .converged := by
    intro hok
    unfold Converged at h
    simp [cancelWaiting, h, hwaiting] at hok
  have hreopen (how : Reopening) (now : Time) : Converged (s.reopen how now) := by
    refine h.after fun cell hok => ?_
    have hreopens := (reopen_reopens hok).waiting
    rw [hwaiting] at hreopens
    cases hreopens
  have hpause (reason : String) (now : Time) : Converged (s.pause reason now) := by
    refine h.after fun cell hok => ?_
    have hpauses := (pauseExternalWaitDurably_eq_ok.mp hok).1
    rw [hwaiting] at hpauses
    cases hpauses
  cases item with
  | drives r calls evidence answers =>
      have hend := runLoop_converged r calls evidence (startWorld s.1 s.2 answers) h
      show (runAsync r s.1 s.2 calls evidence answers).1.run.terminalState = some .converged
      unfold runAsync
      split at hend
      next hrun =>
        rw [hrun]
        exact hend
      next hrun =>
        rw [hrun]
        exact hend
  | failsActiveRun leaseOwner evidence now =>
      refine h.after fun cell hok => ?_
      have hstopped : s.1.run.isStopped = true := by
        unfold Converged at h
        simp [h]
      unfold failActiveRun at hok
      rw [if_pos hstopped] at hok
      split at hok
      · cases hok
      · cases hok
        exact h
  | claims owner leaseSeconds now allowPaused =>
      have hnone : claimForExecution s.1 owner leaseSeconds now allowPaused = none := by
        unfold Converged at h
        simp [claimForExecution, claimableState, h]
      simp only [Item.apply, hnone]
      exact h
  | renews owner leaseSeconds now =>
      simp only [Item.apply, renewExecutionLease]
      split <;> exact h
  | releases owner now =>
      simp only [Item.apply, releaseExecutionLease]
      split <;> exact h
  | reopensForResume now => exact hreopen _ now
  | reopensResourcePause now => exact hreopen _ now
  | reopensRetryablePause now => exact hreopen _ now
  | reconcilesApprovalWait view orphanGraceSeconds now recordedReason =>
      have hnot : s.1.run.terminalState ≠ some .waitingApproval := by
        unfold Converged at h
        simp [h]
      simp only [Item.apply, Lived.reconcile, if_neg hnot]
      exact h
  | pausesExternalWait reason now => exact hpause reason now
  | cancelsExternalWait reason now => exact h.after fun cell hok => hcancel _ _ _ cell hok
  | rejectsExternalGate evidence now => exact h.after fun cell hok => hcancel _ _ _ cell hok
  | completesExternalDelivery success evidence now =>
      refine h.after fun cell hok => ?_
      unfold Converged at h
      unfold completeExternalDelivery at hok
      extract_lets target action at hok
      split at hok
      · cases hok
        exact h
      · split at hok
        next hpaused =>
          rw [h] at hpaused
          cases hpaused.1
        next => cases hok
  | cancelsLoop checkpointId reason now =>
      refine h.after fun cell hok => ?_
      have hterminal : s.1.run.isTerminal = true := by
        unfold Converged at h
        simp [LoopRunState.isTerminal, h, LoopTerminalState.suspended]
      unfold cancelLoop at hok
      rw [if_pos hterminal] at hok
      cases hok
      exact h

theorem Converged.play (h : Converged s) (items : List Item) : Converged (play s items) := by
  induction items generalizing s with
  | nil => exact h
  | cons item rest ih => exact ih (h.apply item)

theorem runLoop_quiet (r : Runner) (calls : Nat) (evidence : Dict) (log : List Event) :
    Triple (fun w => w.cell.run.terminalState = some .converged ∧ w.log = log)
      (runLoop r calls evidence) (fun _ w => w.log = log) (fun _ w => w.log = log) := by
  have hask : Triple (fun w => w.cell.run.terminalState = some .converged ∧ w.log = log) ask
      (fun _ w => w.cell.run.terminalState = some .converged ∧ w.log = log)
      (fun _ w => w.log = log) := by
    intro w hw
    rw [ask_eq]
    cases w.answers with
    | nil => exact hw.2
    | cons answer rest => exact hw
  have hcall : Triple (fun w => w.cell.run.terminalState = some .converged ∧ w.log = log)
      (runAsyncImpl r evidence)
      (fun state w => state.isStopped = true
        ∧ w.cell.run.terminalState = some .converged ∧ w.log = log)
      (fun _ w => w.log = log) := by
    unfold runAsyncImpl
    split
    · exact Triple.throw fun _ hw => hw.2
    · refine Triple.bind hask fun _ => Triple.get_bind (fun _ hw => hw) fun found hfound => ?_
      have hstopped : found.cell.run.isStopped = true := by simp [hfound.1]
      rw [if_pos hstopped]
      have hcollects : Triple
          (fun w => found = w ∧ w.cell.run.terminalState = some .converged ∧ w.log = log)
          (collect fun _ => evidence)
          (fun _ w => w.cell.run.terminalState = some .converged ∧ w.log = log)
          (fun _ w => w.log = log) := Triple.modify fun _ hw => hw.2
      exact Triple.bind hcollects fun _ => Triple.pure fun w hw => ⟨hstopped, hw⟩
  cases calls with
  | zero => exact Triple.throw fun _ hw => hw.2
  | succ calls =>
      refine Triple.bind hcall fun state => Triple.assume (fun w hw => hw.1) fun hstopped => ?_
      have hcheck : Triple (fun w => state.isStopped = true
          ∧ w.cell.run.terminalState = some .converged ∧ w.log = log) checkLeaseRenewal
          (fun _ w => w.log = log) (fun _ w => w.log = log) := by
        refine Triple.bind (hask.weaken (fun _ hw => hw.2) (fun _ _ h => h) fun _ _ h => h)
          fun answer => ?_
        split
        · exact Triple.throw fun _ hw => hw.2
        · exact Triple.pure fun _ hw => hw.2
      refine Triple.bind hcheck fun _ => ?_
      rw [if_pos (.inr hstopped)]
      exact Triple.pure fun _ hw => hw

theorem after_log {answer : Except StoreError LoopCell} {events : LoopCell → List Event}
    (h : ∀ cell, answer = .ok cell → events cell = []) : (s.after answer events).2 = s.2 := by
  unfold Lived.after
  split
  next cell =>
    show events cell ++ s.2 = s.2
    rw [h cell rfl, List.nil_append]
  next => rfl

theorem Converged.quiet (h : Converged s) (item : Item) : (item.apply s).2 = s.2 := by
  have hwaiting := h.notWaiting
  have hreopen (how : Reopening) (now : Time) : (s.reopen how now).2 = s.2 := by
    refine after_log fun cell hok => ?_
    have hreopens := (reopen_reopens hok).waiting
    rw [hwaiting] at hreopens
    cases hreopens
  have hpause (reason : String) (now : Time) : (s.pause reason now).2 = s.2 := by
    refine after_log fun cell hok => ?_
    have hpauses := (pauseExternalWaitDurably_eq_ok.mp hok).1
    rw [hwaiting] at hpauses
    cases hpauses
  cases item with
  | drives r calls evidence answers =>
      have hend := runLoop_quiet r calls evidence s.2 (startWorld s.1 s.2 answers) ⟨h, rfl⟩
      show (runAsync r s.1 s.2 calls evidence answers).2 = s.2
      unfold runAsync
      split at hend
      next hrun =>
        rw [hrun]
        exact hend
      next hrun =>
        rw [hrun]
        exact hend
  | reconcilesApprovalWait view orphanGraceSeconds now recordedReason =>
      have hnot : s.1.run.terminalState ≠ some .waitingApproval := by
        unfold Converged at h
        simp [h]
      simp only [Item.apply, Lived.reconcile, if_neg hnot]
  | reopensForResume now => exact hreopen _ now
  | reopensResourcePause now => exact hreopen _ now
  | reopensRetryablePause now => exact hreopen _ now
  | pausesExternalWait reason now => exact hpause reason now
  | claims owner leaseSeconds now allowPaused => rfl
  | renews owner leaseSeconds now => rfl
  | releases owner now => rfl
  | failsActiveRun leaseOwner evidence now => exact after_log fun _ _ => rfl
  | cancelsExternalWait reason now => exact after_log fun _ _ => rfl
  | rejectsExternalGate evidence now => exact after_log fun _ _ => rfl
  | completesExternalDelivery success evidence now => exact after_log fun _ _ => rfl
  | cancelsLoop checkpointId reason now => exact after_log fun _ _ => rfl

/-- **Convergence is final.** Once a loop has converged it stays so, and nothing is planned,
executed, merged, committed, reopened or paused for it any more: however it is driven, resumed,
paused, cancelled or delivered later, the log stays as it was. -/
theorem converged_final (h : Converged s) (items : List Item) :
    Converged (play s items) ∧ (play s items).2 = s.2 := by
  refine ⟨h.play items, ?_⟩
  induction items generalizing s with
  | nil => rfl
  | cons item rest ih => exact (ih (h.apply item)).trans (h.quiet item)

/-- A loop at `CONVERGED`. -/
def convergedLoop : Lived :=
  ({ plainLoop.1 with run := { plainLoop.1.run with terminalState := some .converged } }, [])

theorem converged_final_again :
    (play convergedLoop [plainDrive [] (plainAnswers 1 8), .reopensForResume 60]).2 = [] :=
  have hconverged : Converged convergedLoop := rfl
  (converged_final hconverged _).2

end

end Navi.StateGraph
