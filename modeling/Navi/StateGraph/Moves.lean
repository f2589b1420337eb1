import Mathlib.Logic.Relation
import Navi.StateGraph.Runner

/-!
# What the runner can do to a loop

An abstract machine over the loop's rows and the log. Its control says only
where the driver is: outside a call, inside one with a planned step in hand, or
parking the loop. `Site` lists the transitions the runner asks for; `Move` lists
everything it does. `Simulation` shows that every run of the runner is a path of
this machine, and each safety law is proved by cases on a move.
-/

namespace Navi.StateGraph

open Navi.Base Navi.Loop

inductive Control where
  | outside
  | inside (planned : Option PlannedCapabilityStep)
  | parking (stop : Stop) (entry : LoopNode)

/-- The nodes a loop is parked from for each reason, and what a reason carries. -/
def Stop.AsksAt : Stop → LoopNode → Prop
  | .yielded executed _, node => node = .execute ∧ executed.yieldsControl = true
  | .resourceGrant grant, node =>
      (node = .plan ∨ node = .execute ∨ node = .evaluate)
        ∧ (grant.decision = .pause ∨ grant.decision = .escalate)
  | .lockConflict _, node => node = .evaluate
  | .plannerTransportRetry _ _ gate, node =>
      node = .plan ∧ gate.text "decision" = "pause" ∧ gate.text "resume_node" = node.text
  | .checkerTransportRetry _ gate _, node =>
      node = .evaluate ∧ gate.text "decision" = "pause" ∧ gate.text "resume_node" = node.text
  | .sideEffectCommit _, node => node = .evaluate

theorem Stop.node_eq (stop : Stop) : stop.node = .pause ∨ stop.node = .escalate := by
  unfold Stop.node
  split
  · split
    · exact .inl rfl
    · exact .inr rfl
  · split
    · exact .inl rfl
    · exact .inr rfl
  · exact .inl rfl
  · exact .inl rfl
  · exact .inl rfl
  · exact .inr rfl

/-- The transitions the runner asks for: from a node and a control, to a node or
a stop under a condition, with evidence of its own, and the control after. -/
inductive Site : LoopNode → Control → LoopNode → Option LoopTerminalState → String → Dict →
    Control → Prop where
  | planReady {p : Option PlannedCapabilityStep} (step : PlannedCapabilityStep) (clearance : Dict)
      (hclearance : Clearance clearance) :
      Site .plan (.inside p) .execute none "plan_ready"
        (Dict.merge [("planned_capability", .obj step.toDict)] clearance) (.inside (some step))
  | plannerFailed {p : Option PlannedCapabilityStep} (errorType message : String) :
      Site .plan (.inside p) .reflect none "planner_failed"
        [("error_type", .str errorType), ("error", .str message)] (.inside p)
  | plannerGivenUp {p : Option PlannedCapabilityStep} (errorType message : String)
      (decision : ReflectionDecision) :
      Site .plan (.inside p) .plan (some .failed) "planner_failed"
        (Dict.merge [("error_type", .str errorType), ("error", .str message)]
          [("reflection", .obj decision.toDict)]) .outside
  | newRoute {p : Option PlannedCapabilityStep} (decision : ReflectionDecision) :
      Site .reflect (.inside p) .plan none "new_route_available" decision.toDict (.inside p)
  | noRoute {p : Option PlannedCapabilityStep} (decision : ReflectionDecision) :
      Site .reflect (.inside p) .reflect (some .blocked) "no_route_available" decision.toDict
        .outside
  | rejected {p : Option PlannedCapabilityStep} (decision : ReflectionDecision) :
      Site .reflect (.inside p) .reflect (some .failed) "checker_rejected" decision.toDict
        .outside
  | missingPlan :
      Site .execute (.inside none) .reflect none "missing_planned_capability"
        [("reason", .str "execute_without_planned_capability")] (.inside none)
  | resumeMissingPlan {p : Option PlannedCapabilityStep} :
      Site .reflect (.inside p) .reflect (some .failed) "checker_rejected"
        [("reason", .str "state_graph_resume_missing_plan")] .outside
  | repeatedProgress {step : PlannedCapabilityStep} (signature : String) (repeated : Nat) :
      Site .execute (.inside (some step)) .execute (some .blocked) "repeated_progress_signature"
        ((loopGate signature repeated).merge [("tool", .str step.tool)]) .outside
  | capabilityFailed {step : PlannedCapabilityStep} (executed : ExecutedCapabilityStep)
      (signature : String) :
      Site .execute (.inside (some step)) .reflect none "capability_failed"
        (executed.toDict.merge [("progress_signature", .str signature)]) (.inside (some step))
  | sideEffectRecorded {step : PlannedCapabilityStep} (executed : ExecutedCapabilityStep)
      (signature : String) :
      Site .execute (.inside (some step)) .evaluate none "side_effect_recorded"
        [("executor", .obj executed.toDict), ("progress_signature", .str signature)]
        (.inside (some step))
  | checkerFailed {p : Option PlannedCapabilityStep} (report : CheckerReport) :
      Site .evaluate (.inside p) .reflect none "checker_failed" report.toDict (.inside p)
  | checkerCallFailed {p : Option PlannedCapabilityStep} (facts : Dict) (retried exhausted : Bool) :
      Site .evaluate (.inside p) .reflect none "checker_failed"
        [("checker_provider_failure", .obj facts), ("automatic_model_retry", .bool false),
          ("durable_transport_retry", .bool retried),
          ("transport_retry_exhausted", .bool exhausted)] (.inside p)
  | checkerCallRejected {p : Option PlannedCapabilityStep} (facts : Dict)
      (retried exhausted : Bool) :
      Site .reflect (.inside p) .reflect (some .failed) "checker_rejected"
        [("checker_provider_failure", .obj facts), ("automatic_model_retry", .bool false),
          ("durable_transport_retry", .bool retried),
          ("transport_retry_exhausted", .bool exhausted)] .outside
  | continueIteration {p : Option PlannedCapabilityStep} (attempt : Nat) :
      Site .evaluate (.inside p) .plan none "continue_iteration"
        [("reason", .str "verified_facts_require_user_facing_result"), ("attempt", .int attempt)]
        (.inside p)
  | mergeConflict {p : Option PlannedCapabilityStep} (merged : MergeResult) :
      Site .evaluate (.inside p) .evaluate (some .conflicted) "merge_conflict" merged.toDict
        .outside
  | checkerPassed {p : Option PlannedCapabilityStep} (report : CheckerReport) :
      Site .evaluate (.inside p) .evaluate (some .converged) "checker_passed"
        (report.toDict.merge convergedEvidence) .outside
  | hardTimeout {p : Option PlannedCapabilityStep} (report : CheckerReport) :
      Site .evaluate (.inside p) .evaluate (some .timedOut) "hard_timeout" report.toDict
        .outside
  | resourceBlocked {p : Option PlannedCapabilityStep} {node : LoopNode} (grant : ResourceGrant)
      (hnode : node = .plan ∨ node = .execute ∨ node = .evaluate) :
      Site node (.inside p) node (some .blocked) "resource_blocked"
        ((Stop.resourceGrant grant).evidence node) .outside
  | parks {stop : Stop} {entry : LoopNode} (hasks : stop.AsksAt entry) :
      Site entry (.parking stop entry) stop.node none stop.first (stop.evidence entry)
        (.parking stop entry)
  | parked {stop : Stop} {entry : LoopNode} (hasks : stop.AsksAt entry) :
      Site stop.node (.parking stop entry) stop.node (some stop.terminal) stop.second
        (stop.evidence entry) .outside

section

variable {node node' : LoopNode} {control control' : Control}
  {terminal : Option LoopTerminalState} {condition : String} {own : Dict}

theorem Site.running (h : Site node control node' terminal condition own control')
    (hinside : control' ≠ .outside) : terminal = none := by
  cases h <;> first
    | rfl
    | exact absurd rfl hinside

theorem Site.parking (h : Site node control node' terminal condition own control') {stop : Stop}
    {entry : LoopNode} (hparking : control' = .parking stop entry) :
    control = .parking stop entry := by
  cases h <;> first
    | exact hparking
    | cases hparking

theorem Site.suspends {t : LoopTerminalState}
    (h : Site node control node' (some t) condition own control')
    (hsuspended : t.suspended = true) :
    ∃ stop entry, control = .parking stop entry ∧ stop.AsksAt entry ∧ node' = stop.node
      ∧ t = stop.terminal ∧ own = stop.evidence entry := by
  cases h with
  | parked hasks => exact ⟨_, _, rfl, hasks, rfl, rfl, rfl⟩
  | _ => cases hsuspended

end

/-- The loop's rows, the log and the driver's control. -/
structure Config where
  cell : LoopCell
  log : List Event
  control : Control

inductive Move : Config → Config → Prop where
  | claims {cell cell' : LoopCell} {log : List Event} {owner : String} {leaseSeconds now : Time}
      (h : claimForExecution cell owner leaseSeconds now false = some cell') :
      Move ⟨cell, log, .outside⟩ ⟨cell', log, .outside⟩
  | starts {cell : LoopCell} {log : List Event} (evidence : Dict)
      (hrunning : cell.run.terminalState = none) :
      Move ⟨cell, log, .outside⟩
        ⟨cell, .started cell evidence :: log, .inside (startingStep cell evidence)⟩
  | leaves {cell : LoopCell} {log : List Event} {control : Control} :
      Move ⟨cell, log, control⟩ ⟨cell, log, .outside⟩
  | checkpoints {cell : LoopCell} {log : List Event} {control : Control} (id : String)
      (node : LoopNode) {inputs : Dict} (now : Time)
      (h : inputs.get "planned_capability" = none) :
      Move ⟨cell, log, control⟩ ⟨Loop.writeCheckpoint cell id node inputs now, log, control⟩
  | checkpointsPlan {cell : LoopCell} {log : List Event} {step : PlannedCapabilityStep}
      (id : String) (now : Time) (hnode : cell.run.node = .execute) :
      Move ⟨cell, log, .inside (some step)⟩
        ⟨Loop.writeCheckpoint cell id .execute [("planned_capability", .obj step.toDict)] now, log,
          .inside (some step)⟩
  | executes {cell : LoopCell} {log : List Event} {step : PlannedCapabilityStep}
      (hnode : cell.run.node = .execute) :
      Move ⟨cell, log, .inside (some step)⟩
        ⟨cell, .executing cell.run step :: log, .inside (some step)⟩
  | observes {cell : LoopCell} {log : List Event} {control : Control} (what : Observation) :
      Move ⟨cell, log, control⟩ ⟨cell, .observed what :: log, control⟩
  | turnsToPark {cell : LoopCell} {log : List Event} {p : Option PlannedCapabilityStep}
      {stop : Stop} (hasks : stop.AsksAt cell.run.node) :
      Move ⟨cell, log, .inside p⟩
        ⟨cell, .parking cell.run stop :: log, .parking stop cell.run.node⟩
  | commits {cell cell' : LoopCell} {log : List Event} {control control' : Control}
      {request : TransitionRequest} {pending own : Dict} {now : Time}
      (hsite : Site cell.run.node control request.node request.terminalState request.condition own
        control')
      (hpending : Clearance pending) (hevidence : request.evidence = pending.merge own)
      (h : Loop.transition cell request now = .ok cell') :
      Move ⟨cell, log, control⟩ ⟨cell', .committed cell.run request cell'.run :: log, control'⟩
  | refuses {cell : LoopCell} {log : List Event} {control control' : Control}
      {request : TransitionRequest} {own : Dict} {now : Time} {error : StoreError}
      (hsite : Site cell.run.node control request.node request.terminalState request.condition own
        control')
      (h : Loop.transition cell request now = .error error) :
      Move ⟨cell, log, control⟩ ⟨cell, .refused cell.run request error :: log, .outside⟩

end Navi.StateGraph
