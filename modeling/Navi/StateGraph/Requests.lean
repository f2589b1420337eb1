import Navi.StateGraph.History

/-!
# The transitions the runner asks for

Every transition the runner asks for is an edge of `default_state_graph`, except
the one of a call that is at `EXECUTE` with no planned step in hand.
-/

namespace Navi.StateGraph

open Navi.Base Navi.Loop

/-- The transition asked for is an edge, and is not refused for being none. -/
def RequestsAnEdge (_earlier : List Event) : Event → Prop
  | .committed run request _ =>
      transitionAllowed defaultStateGraph run.node request.target request.condition = true
  | .refused run request error =>
      transitionAllowed defaultStateGraph run.node request.target request.condition = true
        ∧ error ≠ notAllowed
  | _ => True

/-- A call that starts at `EXECUTE` finds a planned step in the loop's newest
`EXECUTE` checkpoint or in its evidence. -/
def FindsAPlannedStep (_earlier : List Event) : Event → Prop
  | .started cell evidence => cell.run.node = .execute → (startingStep cell evidence).isSome
  | _ => True

section

variable {node node' : LoopNode} {control control' : Control}
  {terminal : Option LoopTerminalState} {condition : String} {own : Dict}

theorem Stop.parks_edge {stop : Stop} {entry : LoopNode} (hasks : stop.AsksAt entry) :
    transitionAllowed defaultStateGraph entry (.node stop.node) stop.first = true := by
  cases stop with
  | yielded executed progressSignature =>
      obtain rfl := hasks.1
      simp only [Stop.node, Stop.first]
      split <;> rfl
  | resourceGrant grant =>
      obtain ⟨hentry, -⟩ := hasks
      simp only [Stop.node, Stop.first]
      rcases hentry with rfl | rfl | rfl <;> split <;> rfl
  | lockConflict lock =>
      obtain rfl := hasks
      rfl
  | plannerTransportRetry errorType failureFacts gate =>
      obtain rfl := hasks.1
      rfl
  | checkerTransportRetry failureFacts gate executor =>
      obtain rfl := hasks.1
      rfl
  | sideEffectCommit result =>
      obtain rfl := hasks
      rfl

theorem Stop.parked_edge (stop : Stop) :
    transitionAllowed defaultStateGraph stop.node (.terminal stop.terminal) stop.second
      = true := by
  cases stop with
  | yielded executed progressSignature =>
      simp only [Stop.terminal, Stop.node, Stop.second]
      split <;> rfl
  | resourceGrant grant =>
      simp only [Stop.terminal, Stop.node, Stop.second]
      split <;> rfl
  | _ => rfl

theorem Site.edge {request : TransitionRequest}
    (h : Site node control request.node request.terminalState request.condition own control')
    (hplanned : control = .inside none → node ≠ .execute) :
    transitionAllowed defaultStateGraph node request.target request.condition = true := by
  obtain ⟨node', terminal, condition, evidence, checkpointId, leaseOwner⟩ := request
  cases h with
  | missingPlan => exact absurd rfl (hplanned rfl)
  | resourceBlocked grant hnode => rcases hnode with rfl | rfl | rfl <;> rfl
  | parks hasks => exact Stop.parks_edge hasks
  | parked hasks => exact Stop.parked_edge _
  | _ => rfl

theorem Site.plans (h : Site node control node' terminal condition own control')
    (hnone : control' = .inside none) : node' ≠ .execute := by
  cases h <;> first
    | exact LoopNode.noConfusion
    | cases hnone

end

theorem transition_edge {cell : LoopCell} {request : TransitionRequest} {now : Time}
    {error : StoreError}
    (hedge : transitionAllowed cell.stateGraph cell.run.node request.target request.condition
      = true)
    (h : Loop.transition cell request now = .error error) : error ≠ notAllowed := by
  rintro rfl
  simp only [Loop.transition, transitionRead, LoopRunState.transition, hedge] at h
  split_ifs at h <;> simp_all [Except.bind, Except.map, notAllowed, transitionWrite]

/-- The loop has the default graph, a call at `EXECUTE` has a step in hand, and
the log's requests are edges. -/
structure AsksForEdges (c : Config) : Prop where
  graph : c.cell.stateGraph = defaultStateGraph
  planned : c.control = .inside none → c.cell.run.node ≠ .execute
  requests : Throughout RequestsAnEdge c.log

theorem asksForEdges_step (c c' : Config) (h : Step c c') (hc : AsksForEdges c)
    (hfinds : Throughout FindsAPlannedStep c'.log) : AsksForEdges c' := by
  obtain ⟨hgraph, hplanned, hrequests⟩ := hc
  rcases h with hmove | hexternal
  · cases hmove with
    | claims hclaimed =>
        obtain ⟨-, rfl⟩ := claimForExecution_eq_some.mp hclaimed
        exact ⟨hgraph, Control.noConfusion, hrequests⟩
    | starts evidence hrunning =>
        refine ⟨hgraph, ?_, trivial, hrequests⟩
        intro hnone hnode
        have hsome := hfinds.1 hnode
        rw [Control.inside.inj hnone] at hsome
        cases hsome
    | leaves => exact ⟨hgraph, Control.noConfusion, hrequests⟩
    | checkpoints id node now hinputs => exact ⟨hgraph, hplanned, hrequests⟩
    | checkpointsPlan id now hnode => exact ⟨hgraph, hplanned, hrequests⟩
    | executes hnode => exact ⟨hgraph, hplanned, trivial, hrequests⟩
    | observes what => exact ⟨hgraph, hplanned, trivial, hrequests⟩
    | turnsToPark hasks => exact ⟨hgraph, Control.noConfusion, trivial, hrequests⟩
    | commits hsite hpending hevidence hok =>
        obtain ⟨-, rfl⟩ := transition_eq_ok.mp hok
        exact ⟨hgraph, hsite.plans, hsite.edge hplanned, hrequests⟩
    | refuses hsite herror =>
        have hedge := hsite.edge hplanned
        exact ⟨hgraph, Control.noConfusion,
          ⟨hedge, transition_edge (by rw [hgraph]; exact hedge) herror⟩, hrequests⟩
  · cases hexternal with
    | leases owner expiresAt updatedAt version => exact ⟨hgraph, Control.noConfusion, hrequests⟩
    | reopens how h hown =>
        exact ⟨h.graph.trans hgraph, Control.noConfusion, trivial, hrequests⟩
    | pauses hok =>
        obtain ⟨-, rfl⟩ := pauseExternalWaitDurably_eq_ok.mp hok
        exact ⟨hgraph, Control.noConfusion, trivial, hrequests⟩
    | stops hsame hnode hattempt hterminal =>
        exact ⟨hsame.trans hgraph, Control.noConfusion, hrequests⟩

/-- In every history in which each call that starts at `EXECUTE` finds a planned
step, every transition the runner asks for is an edge. -/
theorem requests_are_edges {runId goalId : String} {evidence : Dict} {now : Time}
    {items : List Item}
    (hfinds : Throughout FindsAPlannedStep
      (play (created defaultStateGraph runId goalId evidence now) items).2) :
    Throughout RequestsAnEdge
      (play (created defaultStateGraph runId goalId evidence now) items).2 := by
  have hstart : AsksForEdges
      ⟨createRun defaultStateGraph runId goalId .plan evidence now, [], .outside⟩ :=
    ⟨rfl, Control.noConfusion, trivial⟩
  exact (Throughout.invariant step_grows asksForEdges_step (play_lives _ items) hstart
    hfinds).requests

instance decidableRequestsAnEdge (earlier : List Event) :
    (event : Event) → Decidable (RequestsAnEdge earlier event)
  | .committed run request _ =>
      inferInstanceAs (Decidable
        (transitionAllowed defaultStateGraph run.node request.target request.condition = true))
  | .refused run request error =>
      inferInstanceAs (Decidable
        (transitionAllowed defaultStateGraph run.node request.target request.condition = true
          ∧ error ≠ notAllowed))
  | .started _ _ | .executing _ _ | .parking _ _ | .reopened _ _ _ | .pausedExternally _ _
  | .observed _ =>
      inferInstanceAs (Decidable True)

instance decidableFindsAPlannedStep (earlier : List Event) :
    (event : Event) → Decidable (FindsAPlannedStep earlier event)
  | .started cell evidence =>
      inferInstanceAs (Decidable
        (cell.run.node = .execute → (startingStep cell evidence).isSome = true))
  | .committed _ _ _ | .refused _ _ _ | .executing _ _ | .parking _ _ | .reopened _ _ _
  | .observed _ | .pausedExternally _ _ => inferInstanceAs (Decidable True)

/-- A history whose step yields for an approval and is resumed. -/
def resumedStep : List Item :=
  [plainDrive [] ((plainAnswers 1 20).modify 10 fun answer =>
      { answer with
        executed := .ok { plainExecution with action := "run", yieldsControl := true } }),
    .reopensForResume 30, plainDrive [] (plainAnswers 31 30)]

theorem requests_are_edges_resumed :
    Throughout RequestsAnEdge (play plainLoop resumedStep).2 :=
  requests_are_edges (by decide +kernel)

/-- A history that parks the loop at `PLAN`, whose gate escalates, and resumes it. -/
def resumedFromPlan : List Item :=
  [plainDrive [] ((plainAnswers 1 20).modify 2 fun answer =>
      { answer with grant := plainGrant .escalate }),
    .reopensForResume 30, plainDrive [] (plainAnswers 31 30)]

/-- A loop that is resumed with nothing planned asks for a transition that is no
edge. -/
theorem resumedFromPlan_asks_for_no_edge :
    ¬ Throughout RequestsAnEdge (play plainLoop resumedFromPlan).2 := by
  decide +kernel

end Navi.StateGraph
