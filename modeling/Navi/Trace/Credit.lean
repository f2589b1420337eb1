import Navi.Base.JsonText
import Navi.Base.System
import Navi.Memory.Items
import Navi.Trace.Evaluation

/-!
# The credit of a trace

`evaluate_trace` records its evaluation and then credits what the trace used: the memory
items that its planner calls name, each at the discount of its latest use, and the retry
parameter where the provider did not answer. What goes wrong on the way is swallowed, so that
any number of its writes may have been done.
-/

namespace Navi.Trace

open Navi.Base Navi.Memory

/-- What the engine rests on: the texts of floats, `str`, `float` and `int` of a value,
`round(x, n)` and `f"{x:.nf}"`. -/
structure CreditEngine where
  floats : Json.FloatText
  str : Json → String
  toFloat : Json → Option Rat
  toFloat_float : ∀ x, toFloat (.float x) = some x
  toInt : Json → Option Int
  toInt_int : ∀ n, toInt (.int n) = some n
  rounded : Nat → Rat → Rat
  fixed : Nat → Rat → String

/-- The texts of `TraceOutcome`. -/
def TraceOutcome.text : TraceOutcome → String
  | .success => "success"
  | .degraded => "degraded"
  | .failure => "failure"
  | .unknown => "unknown"

/-! ## The reward -/

/-- `_FAILURE_DOMAIN_SEVERITY.get(failure_domain, 0.5)`. -/
def failureDomainSeverity : TraceFailureDomain → Rat
  | .safeguardPolicy => 1
  | .loopNoProgress => 80 / 100
  | .plannerOrParser => 70 / 100
  | .checkerBlocked => 60 / 100
  | .misunderstanding => 60 / 100
  | .capabilityFailure => 50 / 100
  | .runtime => 40 / 100
  | .providerNoResponse => 30 / 100
  | .none => 0
  | .missingCompletionCheck | .traceMissing => 50 / 100

/-- `compute_terminal_reward`. -/
def computeTerminalReward (s : MemoryTables) (draft : TraceEvaluationDraft) : Rat :=
  match draft.outcome with
  | .success => s.parameter "reward_success" 1
  | .degraded => s.parameter "reward_degraded" (20 / 100)
  | .failure | .unknown =>
      -1 * s.parameter ("severity_" ++ draft.failureDomain.text)
        (failureDomainSeverity draft.failureDomain)

/-- `evidence.get(key)` where it is not `None`. -/
def evidenceValue (evidence : Dict) (key : String) : Option Json :=
  (evidence.get key).bind fun value => if value = .null then none else some value

/-- The reward of an evaluated trace; none where `float` raises. -/
def creditReward (engine : CreditEngine) (s : MemoryTables) (evaluated : Evaluated) : Option Rat :=
  match evidenceValue evaluated.2 "custom_reward", evidenceValue evaluated.2 "reward" with
  | some custom, _ => engine.toFloat custom
  | none, some reward => engine.toFloat reward
  | none, none => some (computeTerminalReward s evaluated.1)

/-! ## The used memories -/

/-- `"used_memory_ids" in output_json`. -/
def mentionsMemories (engine : CreditEngine) (event : TraceEvent) : Bool :=
  "used_memory_ids".toList <:+: (Json.dumps engine.floats [' '] (.obj event.output)).toList

/-- The events whose memories are credited. -/
def syscallEvents (engine : CreditEngine) (events : List TraceEvent) : List TraceEvent :=
  let syscalls := events.filter (·.phase = "planner.syscall")
  if syscalls = [] then events.filter (mentionsMemories engine) else syscalls

/-- The ids that an event says it used. -/
def usedMemoryIds (engine : CreditEngine) (event : TraceEvent) : List String :=
  match event.output.get "used_memory_ids" with
  | some (.arr items) => (items.map fun item => strip (engine.str item)).filter (· ≠ "")
  | _ => []

abbrev Discounts := Table String (String × Rat) Prod.fst

/-- `memory_discounts[m] = max(memory_discounts.get(m, 0.0), step_discount)`. -/
def raiseDiscount (stepDiscount : Rat) (discounts : Discounts) (itemId : String) : Discounts :=
  discounts.upsert
    (itemId, max (((discounts.get? itemId).map (·.2)).getD 0) stepDiscount)

/-- `memory_discounts`. -/
def memoryDiscounts (engine : CreditEngine) (events : List TraceEvent) (gamma : Rat) :
    Discounts :=
  let syscalls := syscallEvents engine events
  syscalls.zipIdx.foldl (fun discounts step =>
    (usedMemoryIds engine step.1).foldl
      (raiseDiscount (engine.rounded 4 (gamma ^ (syscalls.length - 1 - step.2)))) discounts) .empty

/-- The delta of a memory that is credited at a discount. -/
def memoryDelta (engine : CreditEngine) (s : MemoryTables) (reward discount : Rat) : Rat :=
  if reward < 0 then
    engine.rounded 4 (-1 * s.parameter "confidence_reduction_delta" (10 / 100) * |reward|
      * discount)
  else engine.rounded 4 (s.parameter "ltp_boost_delta" (5 / 100) * (reward * discount))

/-- The row that `apply_credit_delta` stores. -/
def creditedItem (engine : CreditEngine) (s : MemoryTables) (current : MemoryItem) (delta : Rat)
    (reason : String) (now : Time) : MemoryItem :=
  let confidence := engine.rounded 4 (max 0 (min 1 (current.confidence + delta)))
  let isStale := confidence < s.parameter "decay_stale_threshold" (20 / 100) ∧ delta < 0
  { current with
    status := if isStale ∧ current.status ∈ ["active", "proposed"] then "stale"
      else current.status
    confidence := confidence
    metadata := (((current.metadata.put "last_credit_delta" (.float (engine.rounded 4 delta))).put
      "last_credit_reason" (.str (strip reason))).put "last_credit_at" (.float now)).put
        "last_credit_provenance" (.str "causal_credit")
    updatedAt := .float now }

/-- `apply_credit_delta` of an item that is there. -/
def applyCreditDelta (engine : CreditEngine) (s : MemoryTables) (itemId : String) (delta : Rat)
    (reason : String) (now : Time) : Except String MemoryTables :=
  match s.items.get? itemId with
  | none => .ok s
  | some current => s.storeItem (creditedItem engine s current delta reason now)

/-! ## The retry parameter -/

/-- The parameter that is adjusted where the provider did not answer. -/
def retryParameter : String := "provider_retry_after_seconds"

/-- The metadata that a gradient step leaves. -/
def gradientMetadata (engine : CreditEngine) (metadata : Dict) (current momentum : Rat)
    (step : Int) (delta : Rat) (reason : String) : Dict :=
  let metadata := (((metadata.put "momentum" (.float (engine.rounded 6 momentum))).put
    "step" (.int step)).put "last_gradient" (.float (engine.rounded 6 2))).put
      "last_delta" (.float (engine.rounded 6 delta))
  let metadata := if (metadata.get "previous_value").isSome then metadata
    else metadata.put "previous_value" (.float current)
  metadata.put "reason" (.str reason)

/-- The row that `apply_gradient` sets for the retry parameter, at a gradient of 2 and a rate of
1 within 5 and 60; none where it raises. -/
def retryGradient (engine : CreditEngine) (s : MemoryTables) (traceId : String) (now : Time) :
    Option Parameter := do
  let current := s.parameter retryParameter 15
  let metadata : Dict := ((s.parameters.get? retryParameter).map (·.metadata)).getD []
  let beta := s.parameter "parameter_momentum_beta" (90 / 100)
  let oldMomentum ← (metadata.get "momentum").elim (some 0) engine.toFloat
  let oldStep ← (metadata.get "step").elim (some 0) engine.toInt
  let step := oldStep + 1
  -- Python raises where zero is raised to a negative power
  if beta = 0 ∧ step < 0 then none
  else
    let momentum := beta * oldMomentum + (1 - beta) * 2
    let correction := 1 - beta ^ step
    let delta := if 0 < correction then momentum / correction else momentum
    some
      { name := retryParameter
        value := max 5 (min 60 (engine.rounded 4 (current + delta)))
        updatedAt := now
        metadata := gradientMetadata engine metadata current momentum step delta
          ("backprop:provider_congestion from trace " ++ traceId) }

/-! ## The writes of an evaluation -/

/-- A row of `trace_evaluations`. -/
structure RecordedEvaluation where
  traceId : String
  draft : TraceEvaluationDraft
  evidence : Dict
  createdAt : Time
  deriving DecidableEq

/-- A row of `causal_credit_attributions`. -/
structure Attribution where
  traceId : String
  nodeType : String
  targetId : String
  draft : TraceEvaluationDraft
  reward : Rat
  deltaApplied : Rat
  deriving DecidableEq

/-- A write of `evaluate_trace`. -/
inductive CreditWrite where
  | record (evaluation : RecordedEvaluation)
  | seed (parameter : Parameter)
  | memory (itemId : String) (delta : Rat) (reason : String)
  | attributeMemory (attribution : Attribution)
  | adjust (parameter : Parameter)
  | recordAttribution (attribution : Attribution)

/-- What an evaluation reads and writes; `events` are those of each trace, as they are
listed. -/
structure CreditState where
  events : String → List TraceEvent
  memory : MemoryTables
  evaluations : Table String RecordedEvaluation (·.traceId)
  attributions : List Attribution

def CreditState.write (engine : CreditEngine) (now : Time) (s : CreditState) :
    CreditWrite → CreditState
  | .record evaluation => { s with evaluations := s.evaluations.upsert evaluation }
  | .seed parameter => { s with memory := s.memory.setParameterIfAbsent parameter }
  | .memory itemId delta reason =>
      -- what is stored is not refused, so that nothing is raised here
      { s with
        memory := (applyCreditDelta engine s.memory itemId delta reason now).toOption.getD
          s.memory }
  | .attributeMemory attribution =>
      if (s.memory.items.get? attribution.targetId).isSome then
        { s with attributions := s.attributions ++ [attribution] }
      else s
  | .adjust parameter => { s with memory := s.memory.setParameter parameter }
  | .recordAttribution attribution => { s with attributions := s.attributions ++ [attribution] }

def seedWrites (now : Time) : List CreditWrite :=
  systemDynamicParameters.map fun entry => .seed (seededParameter entry now)

/-- The tables with the defaults seeded. -/
def seeded (s : MemoryTables) (now : Time) : MemoryTables :=
  systemDynamicParameters.foldl (fun s entry =>
    s.setParameterIfAbsent (seededParameter entry now)) s

/-- The names of tools, each once and in order. -/
def toolNames (events : List TraceEvent) : List String :=
  ((events.map fun event => strip event.tool).filter (· ≠ "")).dedup.insertionSort (· ≤ ·)

section

variable (engine : CreditEngine) (traceId : String) (draft : TraceEvaluationDraft) (reward : Rat)

/-- An attribution of the whole reward. -/
def wholeReward (nodeType targetId : String) : CreditWrite :=
  .recordAttribution ⟨traceId, nodeType, targetId, draft, reward, reward⟩

def memoryWrites (s : MemoryTables) (entry : String × Rat) : List CreditWrite :=
  let delta := memoryDelta engine s reward entry.2
  [.memory entry.1 delta ("credit_attribution:" ++ draft.outcome.text ++ ":"
      ++ draft.failureDomain.text ++ ":gamma_" ++ engine.fixed 2 entry.2),
    .attributeMemory ⟨traceId, "memory", entry.1, draft, reward * entry.2, delta⟩]

/-- The attributions after the memories and the retry parameter. -/
def laterWrites (events : List TraceEvent) : List CreditWrite :=
  let write := wholeReward traceId draft reward
  (if draft.failureDomain ∈ [.plannerOrParser, .checkerBlocked, .misunderstanding,
      .loopNoProgress] then [write "prompt_layer" "instructions"] else [])
    ++ (if draft.failureDomain = .capabilityFailure then
        (toolNames (events.filter (!·.ok))).map (write "tool") else [])
    ++ (if draft.failureDomain = .loopNoProgress then
        [write "prompt_layer" "instructions",
          write "dynamic_parameter" "loop_max_attempts_turn"] else [])
    ++ (if draft.failureDomain = .safeguardPolicy then
        [write "prompt_layer" "instructions",
          write "dynamic_parameter" "safeguards_entropy_threshold"] else [])
    ++ (if draft.outcome = .success then
        (toolNames (events.filter fun event =>
          event.ok = true ∧ event.phase = "capability.result")).map (write "tool") else [])

/-- The writes for the retry parameter, and those after it; none of them where the gradient
raises. -/
def retryWrites (s : MemoryTables) (events : List TraceEvent) (now : Time) : List CreditWrite :=
  let later := laterWrites traceId draft reward events
  if draft.failureDomain = .providerNoResponse then
    match retryGradient engine s traceId now with
    | none => []
    | some parameter =>
        .adjust parameter :: .recordAttribution ⟨traceId, "dynamic_parameter", retryParameter,
          draft, reward,
          engine.rounded 4 (parameter.value - s.parameter retryParameter 15)⟩ :: later
  else later

end

/-- The writes of `backprop_trace`. -/
def backpropWrites (engine : CreditEngine) (s : MemoryTables) (traceId : String)
    (evaluated : Evaluated) (events : List TraceEvent) (now : Time) : List CreditWrite :=
  let s := seeded s now
  match creditReward engine s evaluated with
  | none => []
  | some reward =>
      let discounts :=
        memoryDiscounts engine events (s.parameter "temporal_discount_factor" (85 / 100))
      (discounts.rows.insertionSort fun a b => a.1 ≤ b.1).flatMap
          (memoryWrites engine traceId evaluated.1 reward s)
        ++ retryWrites engine traceId evaluated.1 reward s events now

/-- The writes of `evaluate_trace`. -/
def evaluateWrites (engine : CreditEngine) (s : CreditState) (traceId : String) (now : Time) :
    List CreditWrite :=
  let evaluated := evaluateTrace (s.events traceId)
  let events := (s.events traceId).take eventLimit
  .record ⟨traceId, evaluated.1, evaluated.2, now⟩
    :: if events = [] then []
      else seedWrites now ++ backpropWrites engine s.memory traceId evaluated events now

/-! ## Runs -/

/-- What receives credit: an item whose confidence is changed, a parameter that is adjusted,
and a node that a reward is recorded of. -/
inductive CreditTarget where
  | memory (itemId : String)
  | parameter (name : String)
  | attributed (nodeType targetId : String)
  deriving DecidableEq

/-- What a write credits of the memory items and the dynamic parameters. -/
def CreditState.credit (s : CreditState) : CreditWrite → List CreditTarget
  | .memory itemId _ _ => if (s.memory.items.get? itemId).isSome then [.memory itemId] else []
  | .adjust parameter => [.parameter parameter.name]
  | .attributeMemory attribution =>
      if (s.memory.items.get? attribution.targetId).isSome then
        [.attributed attribution.nodeType attribution.targetId]
      else []
  | .recordAttribution attribution =>
      -- prompt layers and tools are neither
      if attribution.nodeType = "dynamic_parameter" then
        [.attributed attribution.nodeType attribution.targetId]
      else []
  | .record _ | .seed _ => []

/-- The state after the writes, and what they credited. -/
def CreditState.perform (engine : CreditEngine) (now : Time) :
    CreditState → List CreditWrite → CreditState × List CreditTarget
  | s, [] => (s, [])
  | s, write :: rest =>
      let done := perform engine now (s.write engine now write) rest
      (done.1, s.credit write ++ done.2)

/-- A call of `evaluate_trace`; where it fails, after how many of its writes. -/
structure EvaluateCall where
  traceId : String
  now : Time
  fails : Option Nat

def EvaluateCall.done (call : EvaluateCall) (writes : List CreditWrite) : List CreditWrite :=
  call.fails.elim writes writes.take

/-- The calls of `evaluate_trace`, and what each credited. -/
def creditMachine (engine : CreditEngine) :
    Machine CreditState EvaluateCall (List CreditTarget) where
  step s call := s.perform engine call.now
    (call.done (evaluateWrites engine s call.traceId call.now))

end Navi.Trace
