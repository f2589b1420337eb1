import Navi.Base.Limits
import Navi.Goals.Opening

/-!
# Child policy

`agent.control` with `operation=spawn`: the child's specification is made of the request
and of the parent's, the context's and the system's limits.
-/

namespace Navi.Goals

open Navi.Base Navi.Lifecycle

/-! ## The limits of the system -/

def maxActiveChildren : Int := 3
def maxChildTimeoutSeconds : Int := 900
def maxChildTokenBudget : Int := 50000
def maxChildCallBudget : Int := 12
def maxChildCostBudget : Rat := 2
def maxChildQps : Int := 5

/-- `_CHILD_REPORT_CAPABILITY`. -/
def childReportCapability : String := "agent.report"

/-- `_BLOCKED_CHILD_CLASSES`. -/
def blockedChildClasses : List String :=
  ["agent", "approval", "connector", "conversation", "evolution", "goal", "session"]

/-- The arguments of a spawn, as `_arg_text`, `_string_tuple`, `int` and `float` read them;
a number is `none` where it does not convert, `context_facts` where it is null. An infinite
`cost_budget` stands as any number above all limits, one that is no number as any below. -/
structure SpawnArgs where
  objective : String
  acceptanceCriteria : List String
  allowedCapabilities : List String
  parentGoalId : String
  timeoutSeconds : Option Int
  tokenBudget : Option Int
  callBudget : Option Int
  costBudget : Option Rat
  qpsLimit : Option Int
  contextFacts : Option Json

/-! ## The parent -/

/-- `_require_same_identity`. -/
def requireSameIdentity (goal : GoalRow) (context : CapabilityContext) : Except Raised Unit := do
  let differ (label expected actual : String) : Except Raised Unit :=
    require (expected = "" ∨ actual = "" ∨ expected = actual)
      (.permissionDenied ("agent goal " ++ label ++ " identity does not match caller."))
  differ "source" goal.source context.source
  differ "peer" goal.peerId context.peerId
  differ "sender" goal.senderId context.senderId

/-- `_parent_for_actor`. -/
def parentForActor (s : PolicyStores) (parentGoalId : String) (context : CapabilityContext) :
    Except Raised GoalRow := do
  require (context.goalId = "" ∨ ∀ actor ∈ s.goals.get? context.goalId, actor.parentGoalId = "")
    (.permissionDenied "Child agents may report to their parent but cannot manage agents.")
  require (orText parentGoalId context.goalId ≠ "")
    (.schemaMismatch "agent capability requires parent_goal_id.")
  match s.goals.get? (orText parentGoalId context.goalId) with
  | none => .error (.notFound "parent goal not found.")
  | some parent => do
      require (parent.parentGoalId = "")
        (.permissionDenied "Recursive agent delegation is disabled.")
      requireSameIdentity parent context
      return parent

/-! ## The envelope -/

/-- Whether a capability can be a child's, whoever asks. -/
def ToolSpec.childEligible (tool : ToolSpec) : Prop :=
  tool.delegationAllowed = true ∧ tool.capabilityClass ∉ blockedChildClasses
    ∧ ¬ (tool.mutates = true ∧ tool.permissionPolicy = "static")
    ∧ (tool.permission = .read ∨ tool.permission = .network)

instance (tool : ToolSpec) : Decidable tool.childEligible :=
  inferInstanceAs (Decidable (_ ∧ _ ∧ _ ∧ _))

/-- The names that are eligible for a child of this parent in this context. -/
def eligibleNames (registry : Registry) (parentSpec : LoopPolicy) (context : CapabilityContext) :
    List String :=
  (registry.rows.filter fun tool =>
    tool.childEligible ∧ parentSpec.allows tool.name ∧ context.allows tool.name).map (·.name)

/-- `_child_capability_envelope`. -/
def childCapabilityEnvelope (requested : List String) (parentSpec : LoopPolicy)
    (registry : Option Registry) (context : CapabilityContext) : Except Raised (List String) :=
  match registry with
  | none => .error (.schemaMismatch
      "agent.control(operation=spawn) requires an explicit capability registry.")
  | some registry =>
      let outside := sortedSet
        (requested.filter fun name => name ∉ eligibleNames registry parentSpec context)
      if outside = [] then .ok (sortedSet (childReportCapability :: requested))
      else .error (.schemaMismatch
        ("agent.control(operation=spawn) capabilities are outside the child policy envelope: "
          ++ ", ".intercalate outside))

/-! ## The limits -/

/-- `int()` of a float. -/
def truncate (x : Rat) : Int := x.num.tdiv x.den

/-- `_bounded_positive_int`. -/
def boundedPositiveInt (value : Option Int) (default upper : Int) : Int :=
  max 1 (min (value.getD default) upper)

/-- `_parent_remaining_timeout_seconds`. -/
def parentRemainingTimeoutSeconds (parent : GoalRow) (now : Time) : Int :=
  if parent.timeout ≤ 0 then maxChildTimeoutSeconds
  else max 1 (truncate (parent.createdAt + parent.timeout - now))

/-- `timeout_seconds` of a spawn. -/
def childTimeoutSeconds (args : SpawnArgs) (parent : GoalRow) (now : Time) : Int :=
  boundedPositiveInt args.timeoutSeconds 600
    (min maxChildTimeoutSeconds (parentRemainingTimeoutSeconds parent now))

/-- `_intersect_budget`. -/
def intersectBudget (value : Option Int) (default systemLimit parentLimit : Int) : Int :=
  intersect (boundedPositiveInt value default systemLimit) parentLimit

/-- `_intersect_float_budget`. -/
def intersectFloatBudget (value : Option Rat) (default systemLimit parentLimit : Rat) : Rat :=
  intersect (max (1 / 100) (min (value.getD default) systemLimit)) parentLimit

/-! ## The spawn -/

def childConstraints : List String :=
  ["Return findings to the parent only through agent.report.",
    "Do not contact the user or request user input.",
    "Do not spawn, control, or message other agents.",
    "Do not execute mutating, approval, connector, or response capabilities."]

/-- The `OpenGoalRequest` of a spawn. -/
def childRequest (args : SpawnArgs) (parent : GoalRow) (parentSpec : LoopPolicy)
    (allowed : List String) (now : Time) : PolicyRequest where
  objective := args.objective
  workspace := parent.workspace
  loopKind := .durableGoal
  source := parent.source
  peerId := parent.peerId
  senderId := parent.senderId
  sessionId := parent.sessionId
  verifies := false
  timeoutSeconds := childTimeoutSeconds args parent now
  executionMode := "background"
  cronSchedule := ""
  parentGoalId := parent.id
  triggerFacts := [("type", .str "agent_delegation"), ("parent_goal_id", .str parent.id),
    ("context_facts", .obj ((args.contextFacts.bind Json.asDict).getD []))]
  childActiveLimit := maxActiveChildren
  scope := ["delegated-by:" ++ parent.id, "repo:" ++ parent.workspace]
  constraints := childConstraints
  acceptanceCriteria := args.acceptanceCriteria
  -- whatever the context's ceiling is
  permissionCeiling := some .prepare
  allowedCapabilities := allowed
  verificationCommand := ""
  tokenBudget := intersectBudget args.tokenBudget 20000 maxChildTokenBudget
    parentSpec.budget.tokenBudget
  callBudget := intersectBudget args.callBudget 8 maxChildCallBudget parentSpec.budget.callBudget
  costBudget := intersectFloatBudget args.costBudget 1 maxChildCostBudget
    parentSpec.budget.costBudget
  qpsLimit := intersectBudget args.qpsLimit maxChildQps maxChildQps parentSpec.budget.qpsLimit
  maxConcurrent := 1
  allowDuplicateSchedule := false

/-- What a spawn checks before it opens the child, and the request it makes. -/
def prepareSpawn (registry : Option Registry) (s : PolicyStores) (context : CapabilityContext)
    (args : SpawnArgs) (now : Time) : Except Raised PolicyRequest := do
  require (args.objective ≠ "")
    (.schemaMismatch "agent.control(operation=spawn) requires objective.")
  require (args.acceptanceCriteria ≠ [])
    (.schemaMismatch "agent.control(operation=spawn) requires acceptance_criteria.")
  require (args.allowedCapabilities ≠ [])
    (.schemaMismatch "agent.control(operation=spawn) requires explicit allowed_capabilities.")
  let parent ← parentForActor s args.parentGoalId context
  require ((s.goals.rowcount (·.activeChildOf parent.id) : Int) < maxActiveChildren)
    (.conflict (childLimitMessage maxActiveChildren))
  let parentSpec ← goalLoopSpec s parent.id
  let allowed ← childCapabilityEnvelope args.allowedCapabilities parentSpec registry context
  require (.prepare ≤ parentSpec.permissionCeiling)
    (.permissionDenied
      "Parent goal permission ceiling does not authorize child-agent lifecycle state.")
  require (∀ facts ∈ args.contextFacts, facts.asDict.isSome)
    (.schemaMismatch "agent.control(operation=spawn) context_facts must be an object.")
  return childRequest args parent parentSpec allowed now

/-- `AgentSpawnCapability.invoke`; `now` is read for the parent's remaining time. -/
def spawn (cron : Cron) (registry : Option Registry) (s : PolicyStores)
    (context : CapabilityContext) (args : SpawnArgs) (now : Time) (draws : Draws) :
    Except Raised Opened × PolicyStores :=
  match prepareSpawn registry s context args now with
  | .error raised => (.error raised, s)
  | .ok request => openGoal cron s request draws

/-! ## The envelopes -/

/-- The policy of a child, in its row and its specification, is inside what the parent, the
calling context and the system allow. -/
structure WithinEnvelopes (registry : Registry) (context : CapabilityContext) (parent : GoalRow)
    (parentSpec : LoopPolicy) (child : GoalRow) (spec : LoopPolicy) : Prop where
  capabilities : ∀ name, spec.allows name → name = childReportCapability
    ∨ parentSpec.allows name ∧ context.allows name
      ∧ ∃ tool ∈ registry.rows, tool.name = name ∧ tool.childEligible
  ceiling : spec.permissionCeiling ≤ context.permissionCeiling
  parentCeiling : spec.permissionCeiling ≤ parentSpec.permissionCeiling
  tokens : limitOf spec.budget.tokenBudget ≤ limitOf maxChildTokenBudget
    ∧ limitOf spec.budget.tokenBudget ≤ limitOf parentSpec.budget.tokenBudget
  calls : limitOf spec.budget.callBudget ≤ limitOf maxChildCallBudget
    ∧ limitOf spec.budget.callBudget ≤ limitOf parentSpec.budget.callBudget
  cost : limitOf spec.budget.costBudget ≤ limitOf maxChildCostBudget
    ∧ limitOf spec.budget.costBudget ≤ limitOf parentSpec.budget.costBudget
  qps : limitOf spec.budget.qpsLimit ≤ limitOf maxChildQps
    ∧ limitOf spec.budget.qpsLimit ≤ limitOf parentSpec.budget.qpsLimit
  concurrency : spec.budget.maxConcurrent = 1
    ∧ spec.budget.maxConcurrent ≤ parentSpec.budget.maxConcurrent
  timeout : limitOf child.timeout ≤ limitOf (maxChildTimeoutSeconds : Rat)
    ∧ limitOf child.timeout ≤ limitOf parent.timeout

/-- The seconds asked for, the seconds of the system or the seconds the parent has left
are within the parent's timeout, which is at least one second. -/
def TimeoutFits (args : SpawnArgs) (parent : GoalRow) (now : Time) : Prop :=
  parent.timeout ≤ 0 ∨ 1 ≤ parent.timeout
    ∧ (((args.timeoutSeconds.getD 600 : Int) : Rat) ≤ parent.timeout
      ∨ (maxChildTimeoutSeconds : Rat) ≤ parent.timeout
      ∨ ((truncate (parent.createdAt + parent.timeout - now) : Int) : Rat) ≤ parent.timeout)

section

variable {registry : Registry} {context : CapabilityContext} {parentSpec : LoopPolicy}

theorem mem_eligibleNames {name : String} :
    name ∈ eligibleNames registry parentSpec context
      ↔ parentSpec.allows name ∧ context.allows name
        ∧ ∃ tool ∈ registry.rows, tool.name = name ∧ tool.childEligible := by
  simp only [eligibleNames, List.mem_map, List.mem_filter, decide_eq_true_eq]
  constructor
  · rintro ⟨tool, ⟨hmem, heligible, hparent, hcontext⟩, rfl⟩
    exact ⟨hparent, hcontext, tool, hmem, rfl, heligible⟩
  · rintro ⟨hparent, hcontext, tool, hmem, rfl, heligible⟩
    exact ⟨tool, ⟨hmem, heligible, hparent, hcontext⟩, rfl⟩

theorem childCapabilityEnvelope_eq_ok {requested allowed : List String}
    {found : Option Registry}
    (h : childCapabilityEnvelope requested parentSpec found context = .ok allowed) :
    ∃ registry, found = some registry
      ∧ (∀ name ∈ requested, name ∈ eligibleNames registry parentSpec context)
      ∧ allowed = sortedSet (childReportCapability :: requested) := by
  unfold childCapabilityEnvelope at h
  cases found with
  | none => cases h
  | some registry =>
      dsimp only at h
      split at h
      next houtside =>
        obtain rfl := Except.ok.inj h
        refine ⟨registry, rfl, fun name hname => ?_, rfl⟩
        by_contra hnot
        have hmem : name ∈ sortedSet
            (requested.filter fun name => name ∉ eligibleNames registry parentSpec context) := by
          simp [hname, hnot]
        rw [houtside] at hmem
        cases hmem
      next => cases h

theorem exists_unregistered (registry : Registry) :
    ∃ name, name ≠ childReportCapability ∧ ∀ tool ∈ registry.rows, tool.name ≠ name := by
  have hinfinite : Infinite String := Infinite.of_injective String.ofList fun a b h => by
    simpa using congrArg String.toList h
  obtain ⟨name, hname⟩ :=
    Infinite.exists_notMem_finset (childReportCapability :: registry.rows.map (·.name)).toFinset
  simp only [List.toFinset_cons, Finset.mem_insert, List.mem_toFinset, List.mem_map, not_or,
    not_exists, not_and] at hname
  exact ⟨name, hname.1, fun tool htool heq => hname.2 tool htool heq⟩

/-- The granted names are within the parent's and the context's, unless the wildcard was
asked for and there is a capability of that name. -/
theorem allows_within_iff {requested : List String} {spec : LoopPolicy}
    (hspec : spec.allowedCapabilities = sortedSet (childReportCapability :: requested))
    (heligible : ∀ name ∈ requested, name ∈ eligibleNames registry parentSpec context) :
    (∀ name, spec.allows name → name = childReportCapability
      ∨ parentSpec.allows name ∧ context.allows name
        ∧ ∃ tool ∈ registry.rows, tool.name = name ∧ tool.childEligible)
      ↔ "*" ∉ requested := by
  have hallows : ∀ name, spec.allows name
      ↔ "*" ∈ requested ∨ name = childReportCapability ∨ name ∈ requested := fun name => by
    have hstar : "*" ≠ childReportCapability := by decide
    simp [LoopPolicy.allows, hspec, hstar]
  constructor
  · intro h hstar
    obtain ⟨name, hreport, hname⟩ := exists_unregistered registry
    rcases h name ((hallows name).mpr (.inl hstar)) with heq | ⟨-, -, tool, htool, heq, -⟩
    · exact hreport heq
    · exact hname tool htool heq
  · intro hstar name hname
    rcases (hallows name).mp hname with hwild | hreport | hmem
    · exact absurd hwild hstar
    · exact .inl hreport
    · exact .inr (mem_eligibleNames.mp (heligible name hmem))

end

/-! ## The limits of a child -/

theorem one_le_boundedPositiveInt (value : Option Int) (default upper : Int) :
    1 ≤ boundedPositiveInt value default upper := le_max_left _ _

theorem boundedPositiveInt_le {value : Option Int} {default upper : Int} (h : 1 ≤ upper) :
    boundedPositiveInt value default upper ≤ upper := max_le h (min_le_right _ _)

theorem intersectBudget_within {value : Option Int} {default systemLimit parentLimit : Int}
    (h : 1 ≤ systemLimit) :
    0 < intersectBudget value default systemLimit parentLimit
      ∧ limitOf (intersectBudget value default systemLimit parentLimit) ≤ limitOf systemLimit
      ∧ limitOf (intersectBudget value default systemLimit parentLimit)
        ≤ limitOf parentLimit := by
  have hpos : 0 < boundedPositiveInt value default systemLimit :=
    Int.lt_of_lt_of_le Int.zero_lt_one (one_le_boundedPositiveInt value default systemLimit)
  exact ⟨intersect_pos hpos, limitOf_intersect_le hpos (boundedPositiveInt_le h)⟩

theorem intersectFloatBudget_within {value : Option Rat} {default systemLimit parentLimit : Rat}
    (h : 1 / 100 ≤ systemLimit) :
    0 < intersectFloatBudget value default systemLimit parentLimit
      ∧ limitOf (intersectFloatBudget value default systemLimit parentLimit)
        ≤ limitOf systemLimit
      ∧ limitOf (intersectFloatBudget value default systemLimit parentLimit)
        ≤ limitOf parentLimit := by
  have hpos : 0 < max (1 / 100) (min (value.getD default) systemLimit) :=
    lt_of_lt_of_le (by norm_num) (le_max_left _ _)
  exact ⟨intersect_pos hpos, limitOf_intersect_le hpos (max_le h (min_le_right _ _))⟩

theorem parentRemainingTimeoutSeconds_of_pos {parent : GoalRow} (h : 0 < parent.timeout)
    (now : Time) : parentRemainingTimeoutSeconds parent now
      = max 1 (truncate (parent.createdAt + parent.timeout - now)) := if_neg (not_le.mpr h)

/-- The timeout of a child is one second, or the least of what is asked for, the system's
and the parent's rest. -/
theorem childTimeoutSeconds_le_iff {args : SpawnArgs} {parent : GoalRow} {now : Time}
    (hparent : 0 < parent.timeout) :
    ((childTimeoutSeconds args parent now : Int) : Rat) ≤ parent.timeout
      ↔ TimeoutFits args parent now := by
  simp only [childTimeoutSeconds, boundedPositiveInt,
    parentRemainingTimeoutSeconds_of_pos hparent, TimeoutFits, not_le.mpr hparent, false_or,
    Int.cast_max, Int.cast_min, Int.cast_one, max_le_iff, min_le_iff]
  refine and_congr_right fun hone => ?_
  simp only [hone, true_and]

theorem childTimeoutSeconds_le_max (args : SpawnArgs) (parent : GoalRow) (now : Time) :
    childTimeoutSeconds args parent now ≤ maxChildTimeoutSeconds :=
  max_le (by decide) ((min_le_right _ _).trans (min_le_left _ _))

theorem childTimeout_within {args : SpawnArgs} {parent : GoalRow} {now timeout : Time}
    (h : timeout = max 1 ((childTimeoutSeconds args parent now : Int) : Rat)) :
    limitOf timeout ≤ limitOf (maxChildTimeoutSeconds : Rat)
      ∧ (limitOf timeout ≤ limitOf parent.timeout ↔ TimeoutFits args parent now) := by
  have hone : (1 : Rat) ≤ ((childTimeoutSeconds args parent now : Int) : Rat) := by
    exact_mod_cast one_le_boundedPositiveInt _ _ _
  obtain rfl : timeout = ((childTimeoutSeconds args parent now : Int) : Rat) :=
    h.trans (max_eq_right hone)
  have hpos : (0 : Rat) < ((childTimeoutSeconds args parent now : Int) : Rat) :=
    lt_of_lt_of_le one_pos hone
  constructor
  · rw [limitOf_le_limitOf_iff hpos]
    intro _
    exact_mod_cast childTimeoutSeconds_le_max args parent now
  · rw [limitOf_le_limitOf_iff hpos]
    by_cases hparent : 0 < parent.timeout
    · rw [← childTimeoutSeconds_le_iff hparent]
      exact ⟨fun hle => hle hparent, fun hle _ => hle⟩
    · exact ⟨fun _ => .inl (not_lt.mp hparent), fun _ hpos => absurd hpos hparent⟩

/-! ## Spawns -/

section

variable {cron : Cron} {registry : Option Registry} {s s' : PolicyStores}
  {context : CapabilityContext} {args : SpawnArgs} {now : Time} {draws : Draws}

theorem prepareSpawn_eq_ok {request : PolicyRequest}
    (h : prepareSpawn registry s context args now = .ok request) :
    ∃ parent parentSpec specs, parentForActor s args.parentGoalId context = .ok parent
      ∧ goalLoopSpec s parent.id = .ok parentSpec ∧ registry = some specs
      ∧ (∀ name ∈ args.allowedCapabilities, name ∈ eligibleNames specs parentSpec context)
      ∧ .prepare ≤ parentSpec.permissionCeiling
      ∧ request = childRequest args parent parentSpec
        (sortedSet (childReportCapability :: args.allowedCapabilities)) now := by
  simp only [prepareSpawn, bind_eq_ok, require_eq_ok, pure_eq_ok] at h
  obtain ⟨-, -, -, -, -, -, parent, hparent, -, -, parentSpec, hspec, allowed, hallowed, -,
    hceiling, -, -, rfl⟩ := h
  obtain ⟨specs, hregistry, heligible, rfl⟩ := childCapabilityEnvelope_eq_ok hallowed
  exact ⟨parent, parentSpec, specs, hparent, hspec, hregistry, heligible, hceiling, rfl⟩

theorem openGoal_eq_ok {request : PolicyRequest} {opened : Opened}
    (hkind : request.loopKind ≠ .scheduled)
    (h : openGoal cron s request draws = (.ok opened, s')) :
    ∃ nextRunAt spec, loopSpecForGoal (request.row draws.goalId draws.runId nextRunAt draws.now)
        request draws.specId = .ok spec
      ∧ s'.goals.get? opened.goalId
        = some (request.row draws.goalId draws.runId nextRunAt draws.now)
      ∧ s'.specs.get? opened.specId = some spec := by
  have hcheck : checkSchedule cron s request = .ok .nothing := if_pos hkind
  unfold openGoal at h
  rw [hcheck] at h
  dsimp only at h
  split at h
  next => cases congrArg Prod.fst h
  next run hrun =>
    obtain ⟨goal, spec, hgoal, hspec, hgoalId, hspecId, hsaved, hrow⟩ := openRows_eq_ok h
    obtain ⟨-, nextRunAt, rfl⟩ := createGoal_eq_ok hgoal
    rw [hgoalId, hspecId]
    exact ⟨nextRunAt, spec, hspec, hrow hkind, hsaved⟩

theorem childRequest_budget (parent : GoalRow) (parentSpec : LoopPolicy) (allowed : List String) :
    ((childRequest args parent parentSpec allowed now).budget.tokenBudget
        = intersectBudget args.tokenBudget 20000 maxChildTokenBudget parentSpec.budget.tokenBudget
      ∧ (childRequest args parent parentSpec allowed now).budget.callBudget
        = intersectBudget args.callBudget 8 maxChildCallBudget parentSpec.budget.callBudget)
      ∧ (childRequest args parent parentSpec allowed now).budget.costBudget
        = intersectFloatBudget args.costBudget 1 maxChildCostBudget parentSpec.budget.costBudget
      ∧ (childRequest args parent parentSpec allowed now).budget.qpsLimit
        = intersectBudget args.qpsLimit maxChildQps maxChildQps parentSpec.budget.qpsLimit
      ∧ (childRequest args parent parentSpec allowed now).budget.maxConcurrent = 1 :=
  ⟨⟨max_eq_right (intersectBudget_within (by decide)).1.le,
      max_eq_right (intersectBudget_within (by decide)).1.le⟩,
    max_eq_right (intersectFloatBudget_within (by norm_num [maxChildCostBudget])).1.le,
    max_eq_right (intersectBudget_within (by decide)).1.le, rfl⟩

/-- A spawned child is inside its envelopes exactly if the context's own ceiling is no less
than the one that every child gets, the wildcard is not asked for by name, and its timeout
fits the parent's. -/
theorem spawn_within_iff {child : Opened}
    (h : spawn cron registry s context args now draws = (.ok child, s')) :
    ∃ specs parent parentSpec row spec, registry = some specs
      ∧ parentForActor s args.parentGoalId context = .ok parent
      ∧ goalLoopSpec s parent.id = .ok parentSpec
      ∧ s'.goals.get? child.goalId = some row ∧ row.parentGoalId = parent.id
      ∧ s'.specs.get? child.specId = some spec
      ∧ (WithinEnvelopes specs context parent parentSpec row spec
        ↔ .prepare ≤ context.permissionCeiling ∧ "*" ∉ args.allowedCapabilities
          ∧ TimeoutFits args parent now) := by
  unfold spawn at h
  split at h
  next => cases congrArg Prod.fst h
  next request hrequest =>
    obtain ⟨parent, parentSpec, specs, hparent, hparentSpec, hregistry, heligible, hceiling, rfl⟩ :=
      prepareSpawn_eq_ok hrequest
    obtain ⟨nextRunAt, spec, hspec, hrow, hsaved⟩ :=
      openGoal_eq_ok (show LoopKind.durableGoal ≠ .scheduled by decide) h
    obtain ⟨-, -, -, -, -, hspecCeiling, hspecAllowed, -, -, hspecBudget⟩ :=
      loopSpecForGoal_eq_ok hspec
    obtain ⟨⟨htokens, hcalls⟩, hcost, hqps, hconcurrent⟩ :=
      @childRequest_budget args now parent parentSpec
        (sortedSet (childReportCapability :: args.allowedCapabilities))
    rw [← hspecBudget] at htokens hcalls hcost hqps hconcurrent
    have hnames : spec.allowedCapabilities
        = sortedSet (childReportCapability :: args.allowedCapabilities) := by
      refine hspecAllowed.trans (if_neg fun hnil => ?_)
      have hreport : childReportCapability
          ∈ sortedSet (childReportCapability :: args.allowedCapabilities) :=
        mem_sortedSet.mpr List.mem_cons_self
      rw [show sortedSet _ = [] from hnil] at hreport
      cases hreport
    obtain ⟨hsystem, htimeout⟩ := @childTimeout_within args parent now _ rfl
    refine ⟨specs, parent, parentSpec, _, spec, hregistry, hparent, hparentSpec, hrow, rfl, hsaved,
      ?_⟩
    constructor
    · intro hwithin
      refine ⟨?_, (allows_within_iff hnames heligible).mp hwithin.capabilities,
        htimeout.mp hwithin.timeout.2⟩
      have hle := hwithin.ceiling
      rw [hspecCeiling] at hle
      exact hle
    · rintro ⟨hcaller, hstar, hfits⟩
      exact
        { capabilities := (allows_within_iff hnames heligible).mpr hstar
          ceiling := by rw [hspecCeiling]; exact hcaller
          parentCeiling := by rw [hspecCeiling]; exact hceiling
          tokens := by rw [htokens]; exact (intersectBudget_within (by decide)).2
          calls := by rw [hcalls]; exact (intersectBudget_within (by decide)).2
          cost := by
            rw [hcost]
            exact (intersectFloatBudget_within (by norm_num [maxChildCostBudget])).2
          qps := by rw [hqps]; exact (intersectBudget_within (by decide)).2
          concurrency := ⟨hconcurrent, hconcurrent.trans_le parentSpec.budget.one_le_maxConcurrent⟩
          timeout := ⟨hsystem, htimeout.mpr hfits⟩ }

end

/-- The tables with one goal, opened by `plainRequest`. -/
def oneGoal (loopKind : LoopKind) (cronSchedule : String) : PolicyStores where
  goals := Table.empty.insertOrIgnore ((plainRequest loopKind cronSchedule).row "goal" "run" 0 0)
  runs := Table.empty.insertOrIgnore (openedRun "run" 0)
  specs := Table.empty.insertOrIgnore (plainSpec .write)
  loopRuns := Table.empty.insertOrIgnore ⟨"loop", "goal", "spec", 0⟩

/-- A call on behalf of that goal, under a ceiling. -/
def callOf (permissionCeiling : Permission) : CapabilityContext where
  goalId := "goal"
  source := "chat"
  peerId := "peer"
  senderId := "owner"
  sessionId := "session"
  workspace := "/workspace"
  permissionCeiling := permissionCeiling
  allowedTools := none

/-- A capability that reads the network. -/
def webSearch : ToolSpec where
  name := "web.search"
  capabilityClass := "search"
  mutates := false
  permission := .network
  permissionPolicy := "static"
  delegationAllowed := true

def searchRegistry : Registry := Table.empty.insertOrIgnore webSearch

/-- A spawn that leaves all limits to the defaults. -/
def searchArgs : SpawnArgs where
  objective := "find the opening hours"
  acceptanceCriteria := ["the hours are known"]
  allowedCapabilities := ["web.search"]
  parentGoalId := ""
  timeoutSeconds := none
  tokenBudget := none
  callBudget := none
  costBudget := none
  qpsLimit := none
  contextFacts := none

/-- A call outside of which nothing fails. -/
def plainDraws : Draws := ⟨"new-run", "new-goal", "new-spec", "new-loop", 10, fun _ => none⟩

/-- A schedule that is due each minute. -/
def minutely : Cron := ⟨fun _ => true, fun _ now => some (now + 60)⟩

/-- The spawn of `searchArgs`. -/
def searchSpawn (permissionCeiling : Permission) : Except Raised Opened × PolicyStores :=
  spawn minutely (some searchRegistry) (oneGoal .durableGoal "") (callOf permissionCeiling)
    searchArgs 10 plainDraws

theorem searchSpawn_opens (permissionCeiling : Permission) :
    (searchSpawn permissionCeiling).1 = .ok ⟨"new-goal", "new-spec", "opened"⟩ := by
  rfl

/-- A spawn by a caller that may write, under the defaults. -/
theorem spawn_within_iff_search :
    ∃ specs parent parentSpec row spec, some searchRegistry = some specs
      ∧ parentForActor (oneGoal .durableGoal "") "" (callOf .write) = .ok parent
      ∧ goalLoopSpec (oneGoal .durableGoal "") parent.id = .ok parentSpec
      ∧ (searchSpawn .write).2.goals.get? "new-goal" = some row ∧ row.parentGoalId = parent.id
      ∧ (searchSpawn .write).2.specs.get? "new-spec" = some spec
      ∧ (WithinEnvelopes specs (callOf .write) parent parentSpec row spec
        ↔ .prepare ≤ (callOf .write).permissionCeiling ∧ "*" ∉ searchArgs.allowedCapabilities
          ∧ TimeoutFits searchArgs parent 10) :=
  spawn_within_iff (show searchSpawn .write = (.ok ⟨"new-goal", "new-spec", "opened"⟩, _) from
    Prod.ext (searchSpawn_opens .write) rfl)

/-- Approved by the user, a caller that may not prepare gets a child that may. -/
theorem child_above_caller :
    (searchSpawn .network).1 = .ok ⟨"new-goal", "new-spec", "opened"⟩
      ∧ ∃ row spec, (searchSpawn .network).2.goals.get? "new-goal" = some row
        ∧ (searchSpawn .network).2.specs.get? "new-spec" = some spec
        ∧ ∀ parent parentSpec,
          ¬ WithinEnvelopes searchRegistry (callOf .network) parent parentSpec row spec := by
  refine ⟨searchSpawn_opens .network, _, _, rfl, rfl, fun parent parentSpec h => ?_⟩
  have hle : Permission.prepare ≤ .network := h.ceiling
  exact absurd hle (by decide)

end Navi.Goals
