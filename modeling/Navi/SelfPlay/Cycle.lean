import Mathlib
import Navi.Base.System
import Navi.SelfPlay.Parameters

/-!
# Autonomous cycles of self-play

A cycle perturbs parameters by a step from the value in force, runs a trial of every candidate and
promotes those that pass. The evaluation checks and the regression gate come to what they come to.
-/

namespace Navi.SelfPlay

open Navi.Base Navi.Memory

/-- `ShadowTrialSpec`: a value for a parameter, or a text for a prompt layer. -/
inductive ShadowTrialSpec where
  | parameter (targetId : String) (baseline candidate : Rat)
  | promptLayer (targetId content : String)
  deriving DecidableEq

/-- `_is_behavioral_eval_case`. -/
def isBehavioralEvalCase (caseId : String) : Bool := !"runtime.".toList.isPrefixOf caseId.toList

/-- `_eval_cases_for_parameter`. -/
def evalCasesForParameter (targetId : String) : List String :=
  if isMemoryParameter targetId then ["memory.regression.gate", "runtime.parameter.valid"]
  else ["runtime.parameter.valid"]

/-! ## Perturbations -/

def allDynamicParameters : List String :=
  (systemDynamicParameters.map Prod.fst ++ parameterExplorationBounds.map Prod.fst).dedup

/-- The order of `(-count, name)`. -/
def AttributedFirst (counts : String → Nat) (a b : String) : Prop :=
  counts b < counts a ∨ counts a = counts b ∧ a ≤ b

instance decidableAttributedFirst (counts : String → Nat) :
    DecidableRel (AttributedFirst counts) := fun a b =>
  inferInstanceAs (Decidable (counts b < counts a ∨ counts a = counts b ∧ a ≤ b))

/-- `ordered_targets`. -/
def orderedTargets (counts : String → Nat) : List String :=
  allDynamicParameters.insertionSort (AttributedFirst counts)

/-- `candidate_up`. -/
def candidateUp (targetId : String) (current : Rat) : Rat :=
  let bounds := getParameterBounds targetId current
  roundTo 4 (min bounds.2.1 (current + bounds.2.2))

/-- `candidate_down`. -/
def candidateDown (targetId : String) (current : Rat) : Rat :=
  let bounds := getParameterBounds targetId current
  roundTo 4 (max bounds.1 (current - bounds.2.2))

/-- A spec of this candidate, if it is another value. -/
def withCandidate (targetId : String) (current candidate : Rat) (specs : List ShadowTrialSpec) :
    List ShadowTrialSpec :=
  if candidate ≠ current then specs ++ [.parameter targetId current candidate] else specs

/-- The loop of `generate_parameter_perturbations` over the targets. -/
def perturb (readAt : String → Time) (limit : Int) :
    List String → Registry → List ShadowTrialSpec → Registry × List ShadowTrialSpec
  | [], r, specs => (r, specs)
  | targetId :: targets, r, specs =>
      if limit ≤ specs.length then (r, specs)
      else
        let r := r.sync systemEngine (readAt targetId)
        let current := r.cached systemEngine targetId none
        let specs := withCandidate targetId current (candidateUp targetId current) specs
        if limit ≤ specs.length then (r, specs)
        else perturb readAt limit targets r
          (withCandidate targetId current (candidateDown targetId current) specs)

/-! ## Trials -/

/-- What the evaluation cases check of a candidate, and whether the regression gate blocks it; none
where it raises. -/
structure TrialOutcome where
  checks : String → List Bool
  gateBlocked : Option Bool

/-- `passed`: there are checks, and all of them passed. -/
def TrialOutcome.passed (outcome : TrialOutcome) (cases : List String) : Bool :=
  let allChecks := cases.flatMap outcome.checks
  !allChecks.isEmpty && allChecks.all (·)

/-- A candidate of this parameter is promoted. -/
def TrialOutcome.promoted (outcome : TrialOutcome) (targetId : String) (autoPromote : Bool) :
    Bool :=
  outcome.passed (evalCasesForParameter targetId) && autoPromote
    && (evalCasesForParameter targetId).any isBehavioralEvalCase
    && (!isMemoryParameter targetId || outcome.gateBlocked = some false)

/-- The score or the gate of a trial reads its threshold. -/
def TrialOutcome.readsThreshold (outcome : TrialOutcome) (targetId : String) (autoPromote : Bool) :
    Bool :=
  let cases := evalCasesForParameter targetId
  outcome.passed cases
    && (!((cases.filter isBehavioralEvalCase).flatMap outcome.checks).isEmpty
      || autoPromote && isMemoryParameter targetId)

/-- `execute_shadow_trial`, as far as it reads and changes parameters. -/
def executeShadowTrial (r : Registry) (spec : ShadowTrialSpec) (outcome : TrialOutcome)
    (autoPromote useEma : Bool) (now : Time) (trialId : String) : Registry :=
  match spec with
  | .promptLayer _ _ => r
  | .parameter targetId _ candidate =>
      let r := if outcome.readsThreshold targetId autoPromote then r.sync systemEngine now else r
      if outcome.promoted targetId autoPromote then
        if useEma then
          (r.applyEma systemEngine targetId candidate none none
            ("self_play_promoted_ema:" ++ trialId) now).1
        else r.set systemEngine targetId candidate ("self_play_promoted:" ++ trialId) [] now
      else r

/-- What a cycle is called with, what it finds, and what its trials come to. -/
structure CycleCall where
  maxTrials : Int
  autoPromote : Bool
  useEma : Bool
  /-- How often each parameter was attributed. -/
  counts : String → Nat
  /-- When each parameter is read. -/
  readAt : String → Time
  /-- The specs of prompt layers. -/
  prompts : List (String × String)
  outcome : Nat → ShadowTrialSpec → TrialOutcome
  trialAt : Nat → Time
  trialId : Nat → String

/-- `specs[:n]`. -/
def sliceTo {α : Type} (n : Int) (specs : List α) : List α :=
  if 0 ≤ n then specs.take n.toNat else specs.take (specs.length - (-n).toNat)

/-- The specs of a cycle, and the registry that has read for them. -/
def cycleSpecs (r : Registry) (call : CycleCall) : Registry × List ShadowTrialSpec :=
  let limit := max 1 (call.maxTrials - 2)
  let result := perturb call.readAt limit (orderedTargets call.counts) r []
  (result.1, sliceTo call.maxTrials (result.2.take limit.toNat
    ++ call.prompts.map fun prompt => .promptLayer prompt.1 prompt.2))

theorem cycleSpecs_eq {r : Registry} {call : CycleCall} {result : Registry × List ShadowTrialSpec}
    (h : perturb call.readAt (max 1 (call.maxTrials - 2)) (orderedTargets call.counts) r []
      = result) :
    cycleSpecs r call = (result.1, sliceTo call.maxTrials
      (result.2.take (max 1 (call.maxTrials - 2)).toNat
        ++ call.prompts.map fun prompt => .promptLayer prompt.1 prompt.2)) := by
  subst h
  rfl

/-- The trials of a cycle from this one on. -/
def runTrials (call : CycleCall) : Nat → Registry → List ShadowTrialSpec → Registry
  | _, r, [] => r
  | n, r, spec :: specs =>
      runTrials call (n + 1) (executeShadowTrial r spec (call.outcome n spec) call.autoPromote
        call.useEma (call.trialAt n) (call.trialId n)) specs

/-- `run_autonomous_cycle`. -/
def runAutonomousCycle (r : Registry) (call : CycleCall) : Registry :=
  let planned := cycleSpecs r call
  runTrials call 0 planned.1 planned.2

theorem runAutonomousCycle_eq {r : Registry} {call : CycleCall}
    {planned : Registry × List ShadowTrialSpec} (h : cycleSpecs r call = planned) :
    runAutonomousCycle r call = runTrials call 0 planned.1 planned.2 := by
  subst h
  rfl

/-! ## Runs -/

/-- The stored parameters, and the registries of the arenas over them. -/
structure Arenas where
  parameters : Table String Parameter (·.name)
  arenas : List Registry

inductive ArenaLabel where
  /-- A new arena. -/
  | create
  | cycle (arena : Nat) (call : CycleCall)

namespace Arenas

/-- The stored parameters before the first arena. -/
def start (parameters : Table String Parameter (·.name)) : Arenas := ⟨parameters, []⟩

/-- The value that is stored of a parameter, or its default. -/
def value (s : Arenas) (name : String) : Rat :=
  ((s.parameters.get? name).map (·.value)).getD ((systemEngine.default? name).getD 0)

/-- The registry of an arena, over the parameters as they are stored. -/
def arena? (s : Arenas) (arena : Nat) : Option Registry :=
  (s.arenas[arena]?).map fun r => { r with parameters := s.parameters }

/-- The state after a cycle of an arena. -/
def after (s : Arenas) (arena : Nat) (r : Registry) : Arenas :=
  ⟨r.parameters, s.arenas.set arena r⟩

end Arenas

/-- The cycles of any arenas, one after the other. -/
def arenaSystem : System Arenas ArenaLabel where
  step s
    | .create => some { s with arenas := s.arenas ++ [.fresh] }
    | .cycle arena call =>
        (s.arena? arena).map fun r => s.after arena (runAutonomousCycle r call)

end Navi.SelfPlay
