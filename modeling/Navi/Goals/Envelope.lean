import Navi.Goals.Updating

/-!
# The permission envelope of a goal

`goal.open` and `goal.update`: the ceiling and the capabilities that the caller's context
leaves a goal, and what is stored where the call returns or fails.
-/

namespace Navi.Goals

open Navi.Base Navi.Lifecycle

/-! ## The policy of a call -/

/-- Whether a tool of static permission needs at most this ceiling. -/
def ToolSpec.fits (ceiling : Permission) (tool : ToolSpec) : Prop :=
  tool.permissionPolicy = "static" → tool.permission ≤ ceiling

instance (ceiling : Permission) (tool : ToolSpec) : Decidable (tool.fits ceiling) :=
  inferInstanceAs (Decidable (_ → _))

/-- `visible` of `_effective_allowed_capabilities`, before the context's tools: those of the
registry that fit or, without a registry, the context's. -/
def visibleNames (registry : Option Registry) (context : CapabilityContext)
    (ceiling : Permission) : Except Raised (List String) :=
  match registry, context.allowedTools with
  | some registry, _ => .ok ((registry.rows.filter (·.fits ceiling)).map (·.name))
  | none, some names => .ok names
  | none, none => .error (.schemaMismatch "goal.open requires an explicit capability registry")

/-- `_effective_allowed_capabilities`. -/
def effectiveAllowedCapabilities (requested : List String) (context : CapabilityContext)
    (registry : Option Registry) (ceiling : Permission) : Except Raised (List String) := do
  let names ← visibleNames registry context ceiling
  let visible := names.filter (context.allows ·)
  let unknown := sortedSet (requested.filter fun name => name ∉ visible ∧ name ≠ "*")
  require (unknown = []) (.schemaMismatch
    ("goal capabilities are outside the current policy envelope: " ++ ", ".intercalate unknown))
  let granted := visible.filter fun name => requested = [] ∨ "*" ∈ requested ∨ name ∈ requested
  require (granted ≠ [])
    (.schemaMismatch "goal.open has no capabilities in the current policy envelope")
  return sortedSet granted

/-- An error of the service as the capability raises it. -/
def Raised.asCapability : Raised → Raised
  | .valueError message => .schemaMismatch message
  | .keyError message => .notFound message
  | raised => raised

/-- `_goal_permission_ceiling`, of the text that is asked for or the permission in its
place. -/
def goalPermissionCeiling (value : String) (default : Permission) (context : CapabilityContext) :
    Except Raised Permission := do
  let ceiling ← (normalizePermission value default).mapError Raised.asCapability
  require (ceiling ≤ context.permissionCeiling)
    (.permissionDenied "goal permission ceiling exceeds the caller policy envelope.")
  return ceiling

/-! ## goal.open -/

/-- The arguments of `goal.open`, as `_string_tuple` and the readers of numbers leave them. -/
structure GoalOpenArgs where
  objective : String
  workspace : String
  loopKind : LoopKind
  permissionCeiling : String
  allowedCapabilities : List String
  scope : List String
  constraints : List String
  acceptanceCriteria : List String
  verificationCommand : String
  timeoutSeconds : Int
  tokenBudget : Int
  callBudget : Int
  costBudget : Rat
  qpsLimit : Int
  maxConcurrent : Int
  autoStart : Bool
  cronSchedule : String
  parentGoalId : String
  allowDuplicateSchedule : Bool

/-- Whether `goal.open` runs the graph of the goal; `runs` says whether it has a runtime. -/
def GoalOpenArgs.runsGraph (args : GoalOpenArgs) (runs : Bool) : Bool :=
  args.autoStart ∧ runs ∧ args.loopKind ≠ .scheduled

/-- The execution mode that `open_goal` reads. -/
def GoalOpenArgs.executionMode (args : GoalOpenArgs) (runs : Bool) : String :=
  if args.runsGraph runs then "foreground"
  else if args.loopKind = .scheduled then "scheduled"
  else if args.autoStart then "background" else "manual"

/-- The `OpenGoalRequest` of `goal.open`. -/
def GoalOpenArgs.request (args : GoalOpenArgs) (context : CapabilityContext) (runs : Bool)
    (workspace : String) (ceiling : Permission) (allowed : List String) : PolicyRequest where
  objective := strip args.objective
  workspace := workspace
  loopKind := args.loopKind
  source := context.source
  peerId := context.peerId
  senderId := context.senderId
  sessionId := context.sessionId
  verifies := strip args.verificationCommand ≠ ""
  timeoutSeconds := args.timeoutSeconds
  executionMode := args.executionMode runs
  cronSchedule := strip args.cronSchedule
  parentGoalId := strip args.parentGoalId
  triggerFacts := []
  childActiveLimit := 0
  scope := args.scope
  constraints := args.constraints
  acceptanceCriteria := args.acceptanceCriteria
  permissionCeiling := some ceiling
  allowedCapabilities := allowed
  verificationCommand := strip args.verificationCommand
  tokenBudget := args.tokenBudget
  callBudget := args.callBudget
  costBudget := args.costBudget
  qpsLimit := args.qpsLimit
  maxConcurrent := args.maxConcurrent
  allowDuplicateSchedule := args.allowDuplicateSchedule

/-- What `goal.open` checks before it opens the goal, and the request it makes. -/
def prepareOpen (workspaces : Workspaces) (registry : Option Registry) (runs : Bool)
    (context : CapabilityContext) (args : GoalOpenArgs) : Except Raised PolicyRequest := do
  require (strip args.objective ≠ "") (.schemaMismatch "goal.open requires objective.")
  let workspace := orText (strip args.workspace) (orText context.workspace workspaces.projectDir)
  require (context.workspace = "" ∨ workspaces.match workspace context.workspace = true)
    (.permissionDenied "goal workspace does not match caller.")
  let ceiling ← goalPermissionCeiling (strip args.permissionCeiling) context.permissionCeiling
    context
  let allowed ← effectiveAllowedCapabilities args.allowedCapabilities context registry ceiling
  return args.request context runs
    (if args.loopKind = .scheduled then workspaces.durable workspace else workspace) ceiling allowed

/-- What `goal.open` makes of an `open_goal`; `graph` is what running the graph of the goal
raises. What the graph writes is left out. -/
def GoalOpenArgs.afterOpening (args : GoalOpenArgs) (runs : Bool) (graph : Option String) :
    Except Raised Opened × PolicyStores → Except Raised Opened × PolicyStores
  | (.error raised, s') => (.error raised.asCapability, s')
  | (.ok opened, s') =>
      match graph with
      | some type => if args.runsGraph runs then (.error (.other type), s') else (.ok opened, s')
      | none => (.ok opened, s')

/-- `GoalOpenCapability.invoke`. -/
def goalOpen (cron : Cron) (workspaces : Workspaces) (registry : Option Registry) (runs : Bool)
    (s : PolicyStores) (context : CapabilityContext) (args : GoalOpenArgs) (draws : Draws)
    (graph : Option String) : Except Raised Opened × PolicyStores :=
  match prepareOpen workspaces registry runs context args with
  | .error raised => (.error raised, s)
  | .ok request => args.afterOpening runs graph (openGoal cron s request draws)

/-! ## goal.update -/

/-- `run_matches_context`. -/
def runMatchesContext (workspaces : Workspaces) (goal : GoalRow) (context : CapabilityContext) :
    Bool :=
  (goal.senderId = "" ∨ context.senderId = "" ∨ goal.senderId = context.senderId)
    ∧ (goal.peerId = "" ∨ context.peerId = "" ∨ goal.peerId = context.peerId)
    ∧ (goal.source = "" ∨ context.source = "" ∨ goal.source = context.source)
    ∧ workspaces.match goal.workspace context.workspace

/-- `_require_goal_scope` of a goal id, and the goal. -/
def requireGoalScope (workspaces : Workspaces) (s : PolicyStores) (goalId : String)
    (context : CapabilityContext) : Except Raised GoalRow :=
  match s.goals.get? goalId with
  | none => .error (.notFound "goal not found")
  | some goal => do
      require (runMatchesContext workspaces goal context = true)
        (.permissionDenied "goal identity does not match caller.")
      require (workspaces.match goal.workspace context.workspace = true)
        (.permissionDenied "goal workspace does not match caller.")
      return goal

/-- `goal_loop_spec`, as the capability raises its errors. -/
def previousSpec (s : PolicyStores) (goalId : String) : Except Raised LoopPolicy :=
  (goalLoopSpec s goalId).mapError Raised.asCapability

/-- What `goal.update` checks before it updates the goal, and the request it makes: the
arguments with the ceiling and the capabilities that the context leaves. -/
def prepareUpdate (workspaces : Workspaces) (registry : Option Registry) (s : PolicyStores)
    (context : CapabilityContext) (args : UpdateRequest) : Except Raised UpdateRequest := do
  require (strip args.goalId ≠ "") (.schemaMismatch "goal.update requires goal_id.")
  let _ ← requireGoalScope workspaces s (strip args.goalId) context
  let previous ← previousSpec s (strip args.goalId)
  let ceiling ← goalPermissionCeiling (strip args.permissionCeiling) previous.permissionCeiling
    context
  require (args.allowedCapabilities ≠ some [])
    (.schemaMismatch "goal.update allowed_capabilities must be non-empty when provided.")
  let allowed ← effectiveAllowedCapabilities
    (args.allowedCapabilities.getD previous.allowedCapabilities) context registry ceiling
  return { args with permissionCeiling := ceiling.text, allowedCapabilities := some allowed }

/-- `GoalUpdateCapability.invoke`. -/
def goalUpdate (cron : Cron) (workspaces : Workspaces) (registry : Option Registry)
    (s : PolicyStores) (context : CapabilityContext) (args : UpdateRequest)
    (draws : UpdateDraws) : Except Raised Opened × PolicyStores :=
  match prepareUpdate workspaces registry s context args with
  | .error raised => (.error raised, s)
  | .ok request =>
      match updateGoal cron s request draws with
      | (.error raised, s') => (.error raised.asCapability, s')
      | (.ok opened, s') => (.ok opened, s')

/-! ## The envelope -/

/-- The registry of a call, where there is one. -/
def registryOf (tools : Registry) (available : Bool) : Option Registry :=
  if available then some tools else none

/-- The capabilities a caller sees under a ceiling. -/
def Visible (tools : Registry) (available : Bool) (context : CapabilityContext)
    (ceiling : Permission) (name : String) : Prop :=
  context.allows name ∧ (available = true → ∃ tool ∈ tools.rows, tool.name = name)
    ∧ (available = false → ∃ names ∈ context.allowedTools, name ∈ names)
    ∧ ∀ tool ∈ tools.rows, tool.name = name → tool.fits ceiling

/-- A specification is inside the envelope of the caller and of what it requested. -/
structure Within (tools : Registry) (available : Bool) (context : CapabilityContext)
    (requested : List String) (spec : LoopPolicy) : Prop where
  ceiling : spec.permissionCeiling ≤ context.permissionCeiling
  nonempty : spec.allowedCapabilities ≠ []
  allowed : ∀ name ∈ spec.allowedCapabilities, context.allows name
  asked : requested ≠ [] → "*" ∉ requested → ∀ name ∈ spec.allowedCapabilities,
    name ∈ requested
  all : requested = [] ∨ "*" ∈ requested → ∀ name, name ∈ spec.allowedCapabilities
    ↔ Visible tools available context spec.permissionCeiling name
  statics : ∀ name ∈ spec.allowedCapabilities, ∀ tool ∈ tools.rows, tool.name = name →
    tool.fits spec.permissionCeiling

/-- A call of one of the two capabilities. -/
inductive GoalCall where
  | opens (args : GoalOpenArgs) (draws : Draws) (graph : Option String)
  | updates (args : UpdateRequest) (draws : UpdateDraws)

/-- What the call returns and leaves. -/
def GoalCall.invoke (cron : Cron) (workspaces : Workspaces) (registry : Option Registry)
    (runs : Bool) (s : PolicyStores) (context : CapabilityContext) :
    GoalCall → Except Raised Opened × PolicyStores
  | .opens args draws graph => goalOpen cron workspaces registry runs s context args draws graph
  | .updates args draws => goalUpdate cron workspaces registry s context args draws

/-- The capabilities that the call asks for: an update that gives none keeps those before. -/
def GoalCall.requested (s : PolicyStores) : GoalCall → List String
  | .opens args _ _ => args.allowedCapabilities
  | .updates args _ => match args.allowedCapabilities, goalLoopSpec s (strip args.goalId) with
      | some names, _ => names
      | none, .ok previous => previous.allowedCapabilities
      | none, .error _ => []

/-- A result is a specification inside the envelope, or a failure that leaves the goals, the
Runs and the specifications as they were. -/
def ClosedResult (tools : Registry) (available : Bool) (s : PolicyStores)
    (context : CapabilityContext) (requested : List String) :
    Except Raised Opened × PolicyStores → Prop
  | (.ok opened, s') => ∃ spec, s'.specs.get? opened.specId = some spec
      ∧ Within tools available context requested spec
  | (.error _, s') => s'.goals = s.goals ∧ s'.runs = s.runs ∧ s'.specs = s.specs

def EnvelopeClosed (cron : Cron) (workspaces : Workspaces) (tools : Registry) (available : Bool)
    (runs : Bool) (s : PolicyStores) (context : CapabilityContext) (call : GoalCall) : Prop :=
  ClosedResult tools available s context (call.requested s)
    (call.invoke cron workspaces (registryOf tools available) runs s context)

/-! ### The capabilities -/

/-- There is a registry, or the tools that are granted fit the ceiling anyway. -/
def StaticsFit (tools : Registry) (available : Bool) (ceiling : Permission)
    (allowed : List String) : Prop :=
  available = true ∨ ∀ tool ∈ tools.rows, tool.name ∈ allowed → tool.fits ceiling

section

variable {tools : Registry} {available : Bool} {context : CapabilityContext}
  {ceiling : Permission} {requested allowed names : List String}

theorem mem_visibleNames (h : visibleNames (registryOf tools available) context ceiling = .ok names)
    {name : String} : name ∈ names
      ↔ (available = true → ∃ tool ∈ tools.rows, tool.name = name ∧ tool.fits ceiling)
        ∧ (available = false → ∃ allowedNames ∈ context.allowedTools, name ∈ allowedNames) := by
  cases available with
  | true =>
      obtain rfl := Except.ok.inj h
      simp [List.mem_map, List.mem_filter, and_comm, and_left_comm]
  | false =>
      unfold visibleNames registryOf at h
      cases htools : context.allowedTools with
      | none =>
          rw [htools] at h
          cases h
      | some allowedNames =>
          rw [htools] at h
          obtain rfl := Except.ok.inj h
          simp

theorem effectiveAllowedCapabilities_eq_ok
    (h : effectiveAllowedCapabilities requested context (registryOf tools available) ceiling
      = .ok allowed) :
    ∃ names, visibleNames (registryOf tools available) context ceiling = .ok names
      ∧ (∀ name, name ∈ allowed ↔ name ∈ names ∧ context.allows name
        ∧ (requested = [] ∨ "*" ∈ requested ∨ name ∈ requested))
      ∧ allowed ≠ [] := by
  simp only [effectiveAllowedCapabilities, bind_eq_ok, require_eq_ok, pure_eq_ok] at h
  obtain ⟨names, hnames, -, -, -, hgranted, rfl⟩ := h
  refine ⟨names, hnames, fun name => ?_, fun hempty => hgranted ?_⟩
  · simp only [mem_sortedSet, List.mem_filter, decide_eq_true_eq, and_assoc]
  · refine List.eq_nil_iff_forall_not_mem.mpr fun name hname => ?_
    have hmem := mem_sortedSet.mpr hname
    rw [hempty] at hmem
    cases hmem

/-- A specification of what is granted is inside the envelope exactly if there is a registry
or the tools fit. -/
theorem within_iff {spec : LoopPolicy} (hceiling : ceiling ≤ context.permissionCeiling)
    (h : effectiveAllowedCapabilities requested context (registryOf tools available) ceiling
      = .ok allowed)
    (hspecCeiling : spec.permissionCeiling = ceiling)
    (hspecAllowed : spec.allowedCapabilities = allowed) :
    Within tools available context requested spec
      ↔ StaticsFit tools available ceiling allowed := by
  obtain ⟨names, hnames, hallowed, hne⟩ := effectiveAllowedCapabilities_eq_ok h
  subst hspecCeiling hspecAllowed
  constructor
  · intro hwithin
    exact .inr fun tool htool hname => hwithin.statics tool.name hname tool htool rfl
  · intro hfit
    have hstatics : ∀ name ∈ spec.allowedCapabilities, ∀ tool ∈ tools.rows, tool.name = name →
        tool.fits spec.permissionCeiling := by
      rintro name hname tool htool rfl
      rcases hfit with havailable | hfits
      · obtain ⟨other, hother, hsame, hotherFits⟩ :=
          ((mem_visibleNames hnames).mp ((hallowed _).mp hname).1).1 havailable
        rw [Table.eq_of_key htool hother hsame.symm]
        exact hotherFits
      · exact hfits tool htool hname
    refine ⟨hceiling, hne, fun name hname => ((hallowed name).mp hname).2.1,
      fun hsome hstar name hname => ?_, fun hall name => ?_, hstatics⟩
    · rcases ((hallowed name).mp hname).2.2 with hempty | hwild | hmem
      · exact absurd hempty hsome
      · exact absurd hwild hstar
      · exact hmem
    · constructor
      · intro hname
        obtain ⟨hvisible, hallows, -⟩ := (hallowed name).mp hname
        obtain ⟨hregistered, hlisted⟩ := (mem_visibleNames hnames).mp hvisible
        refine ⟨hallows, fun havailable => ?_, hlisted, hstatics name hname⟩
        obtain ⟨tool, htool, hsame, -⟩ := hregistered havailable
        exact ⟨tool, htool, hsame⟩
      · rintro ⟨hallows, hregistered, hlisted, hfits⟩
        refine (hallowed name).mpr ⟨(mem_visibleNames hnames).mpr ⟨fun havailable => ?_, hlisted⟩,
          hallows, hall.imp_right .inl⟩
        obtain ⟨tool, htool, hsame⟩ := hregistered havailable
        exact ⟨tool, htool, hsame, hfits tool htool hsame⟩

end

/-! ### Openings -/

/-- Nothing after the Run of an opening fails: there is a next run of its schedule, the ids
that are drawn are free, and no store and no tool gateway fails. -/
structure Opens (cron : Cron) (s : PolicyStores) (request : PolicyRequest) (draws : Draws) :
    Prop where
  nextRun : request.cronSchedule ≠ "" → (cron.next request.cronSchedule draws.now).isSome
  goalId : s.goals.get? draws.goalId = none
  loopRunId : s.loopRuns.get? draws.loopRunId = none
  goalStage : draws.fails .creatingGoal = none
  specStage : draws.fails .buildingSpec = none
  loopStage : draws.fails .creatingLoop = none
  registration : request.loopKind = .scheduled →
    draws.fails .updatingRun = none ∧ draws.fails .updatingGoal = none

section

variable {cron : Cron} {s s' : PolicyStores} {run : Run} {request : PolicyRequest} {draws : Draws}

theorem Draws.check_eq_ok {stage : OpenStage} {u : Unit} :
    draws.check stage = .ok u ↔ draws.fails stage = none := by
  unfold Draws.check
  cases draws.fails stage with
  | none => exact ⟨fun _ => rfl, fun _ => rfl⟩
  | some type =>
      constructor
      · intro h
        cases h
      · intro h
        cases h

theorem firstRunAt_ok_iff {cronSchedule : String} {now : Time} :
    (∃ nextRunAt, firstRunAt cron cronSchedule now = .ok nextRunAt)
      ↔ (cronSchedule ≠ "" → (cron.next cronSchedule now).isSome) := by
  unfold firstRunAt
  split
  next hempty => exact ⟨fun _ hne => absurd hempty hne, fun _ => ⟨0, rfl⟩⟩
  next hne =>
    cases cron.next cronSchedule now with
    | some nextRunAt => exact ⟨fun _ _ => rfl, fun _ => ⟨nextRunAt, rfl⟩⟩
    | none =>
        constructor
        · rintro ⟨nextRunAt, h⟩
          cases h
        · intro h
          cases h hne

theorem openRows_ok_iff (hlimit : request.childActiveLimit = 0)
    (hobjective : strip request.objective ≠ "") :
    (∃ opened s', openRows cron s run request draws = (.ok opened, s'))
      ↔ Opens cron s request draws := by
  have hadmits : refuses s.goals request.toOpenRequest = false := by
    simp [refuses, OpenRequest.admits, hlimit]
  have hcreate : (∃ goal, createGoal cron s request.toOpenRequest draws = .ok goal)
      ↔ (request.cronSchedule ≠ "" → (cron.next request.cronSchedule draws.now).isSome)
        ∧ draws.fails .creatingGoal = none ∧ s.goals.get? draws.goalId = none := by
    rw [← firstRunAt_ok_iff]
    simp only [createGoal, bind_eq_ok, require_eq_ok, pure_eq_ok, Draws.check_eq_ok,
      Option.isNone_iff_eq_none]
    constructor
    · rintro ⟨goal, nextRunAt, hnext, -, hstage, -, hfree, -, -, -⟩
      exact ⟨⟨nextRunAt, hnext⟩, hstage, hfree⟩
    · rintro ⟨⟨nextRunAt, hnext⟩, hstage, hfree⟩
      exact ⟨_, nextRunAt, hnext, (), hstage, (), hfree, (), hadmits, rfl⟩
  have hcreateLoop : ∀ goal, createGoal cron s request.toOpenRequest draws = .ok goal →
      ((∃ spec, createLoop (s.withGoal goal) goal request draws = .ok spec)
        ↔ draws.fails .buildingSpec = none ∧ draws.fails .creatingLoop = none
          ∧ s.loopRuns.get? draws.loopRunId = none) := by
    intro goal hgoal
    have hbuilt : ∃ spec, loopSpecForGoal goal request draws.specId = .ok spec := by
      obtain ⟨-, nextRunAt, rfl⟩ := createGoal_eq_ok hgoal
      unfold loopSpecForGoal
      rw [dif_neg (show ¬ strip (request.row draws.goalId draws.runId nextRunAt
        draws.now).objective = "" from hobjective)]
      exact ⟨_, rfl⟩
    obtain ⟨built, hbuilt⟩ := hbuilt
    simp only [createLoop, bind_eq_ok, require_eq_ok, pure_eq_ok, Draws.check_eq_ok,
      Option.isNone_iff_eq_none]
    constructor
    · rintro ⟨spec, -, hbuilding, found, -, -, hcreating, -, hfree, -⟩
      exact ⟨hbuilding, hcreating, hfree⟩
    · rintro ⟨hbuilding, hcreating, hfree⟩
      exact ⟨built, (), hbuilding, built, hbuilt, (), hcreating, (), hfree, rfl⟩
  unfold openRows
  constructor
  · rintro ⟨opened, s', h⟩
    split at h
    next => cases congrArg Prod.fst h
    next goal hgoal =>
      obtain ⟨hnext, hgoalStage, hgoalId⟩ := hcreate.mp ⟨goal, hgoal⟩
      dsimp only at h
      split at h
      next => cases congrArg Prod.fst h
      next spec hspec =>
        obtain ⟨hspecStage, hloopStage, hloopRunId⟩ := (hcreateLoop goal hgoal).mp ⟨spec, hspec⟩
        refine ⟨hnext, hgoalId, hloopRunId, hgoalStage, hspecStage, hloopStage, fun hkind => ?_⟩
        rw [if_neg (not_not.mpr hkind)] at h
        split at h
        next => cases congrArg Prod.fst h
        next hrunCheck =>
          split at h
          next => cases congrArg Prod.fst h
          next hgoalCheck =>
            exact ⟨Draws.check_eq_ok.mp hrunCheck, Draws.check_eq_ok.mp hgoalCheck⟩
  · intro h
    obtain ⟨goal, hgoal⟩ := hcreate.mpr ⟨h.nextRun, h.goalStage, h.goalId⟩
    obtain ⟨spec, hspec⟩ := (hcreateLoop goal hgoal).mpr ⟨h.specStage, h.loopStage, h.loopRunId⟩
    simp only [hgoal, hspec]
    by_cases hkind : request.loopKind = .scheduled
    · obtain ⟨hrunStage, hgoalStage⟩ := h.registration hkind
      have hrunCheck : draws.check .updatingRun = .ok () := Draws.check_eq_ok.mpr hrunStage
      have hgoalCheck : draws.check .updatingGoal = .ok () := Draws.check_eq_ok.mpr hgoalStage
      rw [if_neg (not_not.mpr hkind), hrunCheck, hgoalCheck]
      exact ⟨_, _, rfl⟩
    · rw [if_pos hkind]
      exact ⟨_, _, rfl⟩

theorem openRows_keeps_run {result : Except Raised Opened}
    (hrun : (s.runs.get? run.id).isSome)
    (h : openRows cron s run request draws = (result, s')) : (s'.runs.get? run.id).isSome := by
  have hset : ∀ (t : PolicyStores) updates, (t.runs.get? run.id).isSome →
      ((setRun t.runs run updates draws.now).get? run.id).isSome := by
    intro t updates hthere
    rw [setRun, Table.get?_replace, Option.isSome_map]
    exact hthere
  have hcompensated : ∀ (t : PolicyStores) goal raised, (t.runs.get? run.id).isSome →
      ((t.compensated run goal raised draws).runs.get? run.id).isSome := by
    intro t goal raised hthere
    unfold PolicyStores.compensated
    split
    · exact hthere
    · cases goal <;> exact hset t _ hthere
  unfold openRows at h
  split at h
  next =>
    obtain rfl := congrArg Prod.snd h
    exact hcompensated s _ _ hrun
  next =>
    dsimp only at h
    split at h
    next =>
      obtain rfl := congrArg Prod.snd h
      exact hcompensated _ _ _ hrun
    next =>
      split at h
      next =>
        obtain rfl := congrArg Prod.snd h
        exact hrun
      next =>
        split at h
        next =>
          obtain rfl := congrArg Prod.snd h
          exact hcompensated _ _ _ hrun
        next =>
          split at h
          next =>
            obtain rfl := congrArg Prod.snd h
            exact hcompensated _ _ _ (hset _ _ hrun)
          next =>
            obtain rfl := congrArg Prod.snd h
            exact hset _ _ hrun

theorem beforeRun_eq_ok (h : beforeRun s draws = .ok run) :
    s.runs.get? run.id = none ∧ ((s.runs.insertOrIgnore run).get? run.id).isSome := by
  simp only [beforeRun, bind_eq_ok, require_eq_ok, pure_eq_ok] at h
  obtain ⟨-, -, -, -, -, hfree, rfl⟩ := h
  have hnone : s.runs.get? (openedRun draws.runId draws.now).id = none :=
    Option.isNone_iff_eq_none.mp hfree
  refine ⟨hnone, ?_⟩
  rw [Table.get?_insertOrIgnore, hnone, if_pos rfl]
  rfl

end

/-! ### The calls -/

/-- What `goal.open` finds: a stored specification that is inside the envelope, or a way to
open a goal without a failure, of its graph included. -/
def OpenSettles (cron : Cron) (workspaces : Workspaces) (tools : Registry) (available : Bool)
    (runs : Bool) (s : PolicyStores) (context : CapabilityContext) (args : GoalOpenArgs)
    (draws : Draws) (graph : Option String) : Prop :=
  ∀ request, prepareOpen workspaces (registryOf tools available) runs context args = .ok request →
    (∀ opened, checkSchedule cron s request = .ok (.existing opened) →
        ∃ spec, s.specs.get? opened.specId = some spec
          ∧ Within tools available context args.allowedCapabilities spec)
      ∧ (checkSchedule cron s request = .ok .nothing → (∃ run, beforeRun s draws = .ok run) →
        Opens cron s request draws ∧ (args.runsGraph runs = true → graph = none)
          ∧ StaticsFit tools available (request.permissionCeiling.getD .write)
            request.allowedCapabilities)

/-- What `goal.update` finds: the specification can be built again, or the goal row is
written as it was. -/
def UpdateFits (cron : Cron) (workspaces : Workspaces) (tools : Registry) (available : Bool)
    (s : PolicyStores) (context : CapabilityContext) (args : UpdateRequest)
    (draws : UpdateDraws) : Prop :=
  ∀ request, prepareUpdate workspaces (registryOf tools available) s context args = .ok request →
    ∀ found, findTemplate cron s request draws.now = .ok found →
      (Completes s request found draws ∧ ∀ ceiling, request.ceiling found.spec = .ok ceiling →
          StaticsFit tools available ceiling (request.allowedCapabilities.getD []))
        ∨ ¬ Completes s request found draws ∧ found.updated draws.now = found.goal

def EnvelopeSettles (cron : Cron) (workspaces : Workspaces) (tools : Registry) (available : Bool)
    (runs : Bool) (s : PolicyStores) (context : CapabilityContext) : GoalCall → Prop
  | .opens args draws graph =>
      OpenSettles cron workspaces tools available runs s context args draws graph
  | .updates args draws => UpdateFits cron workspaces tools available s context args draws

section

variable {cron : Cron} {workspaces : Workspaces} {tools : Registry} {available runs : Bool}
  {s : PolicyStores} {context : CapabilityContext}

theorem goalPermissionCeiling_le {value : String} {default ceiling : Permission}
    (h : goalPermissionCeiling value default context = .ok ceiling) :
    ceiling ≤ context.permissionCeiling := by
  simp only [goalPermissionCeiling, bind_eq_ok, require_eq_ok, pure_eq_ok] at h
  obtain ⟨found, -, -, hle, rfl⟩ := h
  exact hle

theorem prepareOpen_eq_ok {registry : Option Registry} {args : GoalOpenArgs}
    {request : PolicyRequest}
    (h : prepareOpen workspaces registry runs context args = .ok request) :
    ∃ workspace ceiling allowed, request = args.request context runs workspace ceiling allowed
      ∧ ceiling ≤ context.permissionCeiling
      ∧ effectiveAllowedCapabilities args.allowedCapabilities context registry ceiling
        = .ok allowed
      ∧ strip args.objective ≠ "" := by
  simp only [prepareOpen, bind_eq_ok, require_eq_ok, pure_eq_ok] at h
  obtain ⟨-, hobjective, -, -, ceiling, hceiling, allowed, hallowed, rfl⟩ := h
  exact ⟨_, ceiling, allowed, rfl, goalPermissionCeiling_le hceiling, hallowed, hobjective⟩

theorem scheduled_of_existing {request : PolicyRequest} {opened : Opened}
    (h : checkSchedule cron s request = .ok (.existing opened)) :
    request.loopKind = .scheduled := by
  by_contra hkind
  rw [checkSchedule, if_pos hkind] at h
  cases Except.ok.inj h

theorem opens_withRun_iff {runs' : Table String Run (·.id)} {request : PolicyRequest}
    {draws : Draws} :
    Opens cron { s with runs := runs' } request draws ↔ Opens cron s request draws :=
  ⟨fun h => ⟨h.nextRun, h.goalId, h.loopRunId, h.goalStage, h.specStage, h.loopStage,
    h.registration⟩, fun h => ⟨h.nextRun, h.goalId, h.loopRunId, h.goalStage, h.specStage,
    h.loopStage, h.registration⟩⟩

/-- The specification of an opening that returns is inside the envelope exactly if the
granted tools fit. -/
theorem opened_within_iff {args : GoalOpenArgs} {workspace : String} {ceiling : Permission}
    {allowed : List String} {run : Run} {draws : Draws} {opened : Opened} {s' : PolicyStores}
    (hceiling : ceiling ≤ context.permissionCeiling)
    (hallowed : effectiveAllowedCapabilities args.allowedCapabilities context
      (registryOf tools available) ceiling = .ok allowed)
    (h : openRows cron s run (args.request context runs workspace ceiling allowed) draws
      = (.ok opened, s')) :
    (∃ spec, s'.specs.get? opened.specId = some spec
        ∧ Within tools available context args.allowedCapabilities spec)
      ↔ StaticsFit tools available ceiling allowed := by
  obtain ⟨goal, spec, -, hbuilt, -, hspecId, hsaved, -⟩ := openRows_eq_ok h
  obtain ⟨-, -, -, -, -, hspecCeiling, hspecAllowed, -⟩ := loopSpecForGoal_eq_ok hbuilt
  have hne : allowed ≠ [] := (effectiveAllowedCapabilities_eq_ok hallowed).choose_spec.2.2
  have hexact : spec.allowedCapabilities = allowed := hspecAllowed.trans (if_neg hne)
  rw [hspecId, hsaved, ← within_iff hceiling hallowed hspecCeiling hexact]
  simp only [Option.some.injEq, exists_eq_left']

theorem openRows_closed_iff {args : GoalOpenArgs} {workspace : String} {ceiling : Permission}
    {allowed : List String} {run : Run} {draws : Draws} {graph : Option String}
    (hbefore : beforeRun s draws = .ok run) (hobjective : strip args.objective ≠ "")
    (hceiling : ceiling ≤ context.permissionCeiling)
    (hallowed : effectiveAllowedCapabilities args.allowedCapabilities context
      (registryOf tools available) ceiling = .ok allowed) :
    ClosedResult tools available s context args.allowedCapabilities
        (args.afterOpening runs graph (openRows cron { s with runs := s.runs.insertOrIgnore run }
          run (args.request context runs workspace ceiling allowed) draws))
      ↔ Opens cron s (args.request context runs workspace ceiling allowed) draws
        ∧ (args.runsGraph runs = true → graph = none)
        ∧ StaticsFit tools available ceiling allowed := by
  obtain ⟨hnew, hthere⟩ := beforeRun_eq_ok hbefore
  have hopens := @openRows_ok_iff cron { s with runs := s.runs.insertOrIgnore run } run
    (args.request context runs workspace ceiling allowed) draws rfl
    (by rw [show (args.request context runs workspace ceiling allowed).objective
      = strip args.objective from rfl, strip_strip]; exact hobjective)
  rw [opens_withRun_iff] at hopens
  rw [← hopens]
  cases hrows : openRows cron { s with runs := s.runs.insertOrIgnore run } run
    (args.request context runs workspace ceiling allowed) draws with
  | mk result s' =>
      -- the Run that was inserted stays, whatever fails
      have hchanged : s'.runs ≠ s.runs := by
        intro hsame
        have hkept := openRows_keeps_run hthere hrows
        rw [hsame, hnew] at hkept
        cases hkept
      cases result with
      | error raised =>
          refine iff_of_false (fun hclosed => hchanged hclosed.2.1) ?_
          rintro ⟨⟨opened, s'', h⟩, -⟩
          cases congrArg Prod.fst h
      | ok opened =>
          have hwithin := opened_within_iff hceiling hallowed hrows
          have hopened : ∃ opened' s'', ((Except.ok opened : Except Raised Opened), s')
              = (.ok opened', s'') := ⟨opened, s', rfl⟩
          rw [← hwithin]
          cases graph with
          | none => exact ⟨fun h => ⟨hopened, fun _ => rfl, h⟩, fun h => h.2.2⟩
          | some type =>
              by_cases hgraph : args.runsGraph runs = true
              · unfold GoalOpenArgs.afterOpening
                dsimp only
                rw [if_pos hgraph]
                refine iff_of_false (fun hclosed => hchanged hclosed.2.1) ?_
                rintro ⟨-, hnone, -⟩
                cases hnone hgraph
              · unfold GoalOpenArgs.afterOpening
                dsimp only
                rw [if_neg hgraph]
                exact ⟨fun h => ⟨hopened, fun hruns => absurd hruns hgraph, h⟩, fun h => h.2.2⟩

theorem open_closed_iff {args : GoalOpenArgs} {draws : Draws} {graph : Option String} :
    EnvelopeClosed cron workspaces tools available runs s context (.opens args draws graph)
      ↔ OpenSettles cron workspaces tools available runs s context args draws graph := by
  unfold EnvelopeClosed OpenSettles
  simp only [GoalCall.invoke, GoalCall.requested, goalOpen]
  cases hprepare : prepareOpen workspaces (registryOf tools available) runs context args with
  | error raised => exact iff_of_true ⟨rfl, rfl, rfl⟩ fun request h => by cases h
  | ok request =>
      obtain ⟨workspace, ceiling, allowed, rfl, hceiling, hallowed, hobjective⟩ :=
        prepareOpen_eq_ok hprepare
      simp only [Except.ok.injEq, forall_eq', openGoal]
      cases hcheck : checkSchedule cron s
          (args.request context runs workspace ceiling allowed) with
      | error raised =>
          refine iff_of_true ⟨rfl, rfl, rfl⟩ ⟨fun opened h => ?_, fun h => ?_⟩
          · cases h
          · cases h
      | ok foundGoal =>
          cases foundGoal with
          | existing opened =>
              have hkind : args.loopKind = .scheduled := scheduled_of_existing hcheck
              have hgraph : args.runsGraph runs = false := by
                simp [GoalOpenArgs.runsGraph, hkind]
              have hresult : args.afterOpening runs graph (.ok opened, s) = (.ok opened, s) := by
                unfold GoalOpenArgs.afterOpening
                cases graph <;> simp [hgraph]
              dsimp only
              rw [hresult]
              constructor
              · intro hclosed
                refine ⟨fun opened' h => ?_, fun h => ?_⟩
                · obtain rfl := Found.existing.inj (Except.ok.inj h)
                  exact hclosed
                · cases Except.ok.inj h
              · intro h
                exact h.1 opened rfl
          | nothing =>
              cases hbefore : beforeRun s draws with
              | error raised =>
                  refine iff_of_true ⟨rfl, rfl, rfl⟩ ⟨fun opened h => ?_, fun _ hrun => ?_⟩
                  · cases Except.ok.inj h
                  · obtain ⟨run, hrun⟩ := hrun
                    cases hrun
              | ok run =>
                  refine (openRows_closed_iff hbefore hobjective hceiling hallowed).trans ?_
                  constructor
                  · intro hopens
                    refine ⟨fun opened h => ?_, fun _ _ => hopens⟩
                    cases Except.ok.inj h
                  · intro h
                    exact h.2 rfl ⟨run, rfl⟩

theorem normalizePermission_text (permission default : Permission) :
    normalizePermission permission.text default = .ok permission := by
  cases permission <;> rfl

theorem Permission.text_ne (permission : Permission) : permission.text ≠ "" := by
  cases permission <;> decide

theorem mapError_eq_ok {α : Type} {x : Except Raised α} {f : Raised → Raised} {a : α} :
    x.mapError f = .ok a ↔ x = .ok a := by
  cases x with
  | error raised =>
      constructor
      · intro h
        cases h
      · intro h
        cases h
  | ok a' => exact Iff.rfl

theorem prepareUpdate_eq_ok {registry : Option Registry} {args request : UpdateRequest}
    (h : prepareUpdate workspaces registry s context args = .ok request) :
    ∃ previous ceiling allowed, goalLoopSpec s (strip args.goalId) = .ok previous
      ∧ request = { args with
        permissionCeiling := ceiling.text
        allowedCapabilities := some allowed }
      ∧ ceiling ≤ context.permissionCeiling
      ∧ effectiveAllowedCapabilities (args.allowedCapabilities.getD previous.allowedCapabilities)
        context registry ceiling = .ok allowed := by
  simp only [prepareUpdate, bind_eq_ok, require_eq_ok, pure_eq_ok] at h
  obtain ⟨-, -, -, -, previous, hprevious, ceiling, hceiling, -, -, allowed, hallowed, rfl⟩ := h
  exact ⟨previous, ceiling, allowed, mapError_eq_ok.mp hprevious, rfl,
    goalPermissionCeiling_le hceiling, hallowed⟩

theorem update_closed_iff {args : UpdateRequest} {draws : UpdateDraws} :
    EnvelopeClosed cron workspaces tools available runs s context (.updates args draws)
      ↔ UpdateFits cron workspaces tools available s context args draws := by
  unfold EnvelopeClosed UpdateFits
  simp only [GoalCall.invoke, goalUpdate]
  cases hprepare : prepareUpdate workspaces (registryOf tools available) s context args with
  | error raised => exact iff_of_true ⟨rfl, rfl, rfl⟩ fun request h => by cases h
  | ok request =>
      obtain ⟨previous, ceiling, allowed, hprevious, hrequest, hceiling, hallowed⟩ :=
        prepareUpdate_eq_ok hprepare
      have hrequested : (GoalCall.updates args draws).requested s
          = args.allowedCapabilities.getD previous.allowedCapabilities := by
        simp only [GoalCall.requested, hprevious]
        cases args.allowedCapabilities <;> rfl
      have hceilingOf : ∀ spec : LoopPolicy, request.ceiling spec = .ok ceiling := by
        intro spec
        rw [hrequest, UpdateRequest.ceiling, if_neg ceiling.text_ne]
        exact normalizePermission_text ceiling .read
      rw [hrequested]
      simp only [Except.ok.injEq, forall_eq', updateGoal]
      cases hfound : findTemplate cron s request draws.now with
      | error raised => exact iff_of_true ⟨rfl, rfl, rfl⟩ fun found h => by cases h
      | ok found =>
          have hrebuild : rebuildSpec (s.withTemplate found draws.now) request found draws
              = rebuildSpec s request found draws := rfl
          simp only [Except.ok.injEq, forall_eq', hrebuild, ← rebuildSpec_ok_iff hfound,
            hceilingOf]
          cases hspec : rebuildSpec s request found draws with
          | error raised =>
              have hnone : ¬ ∃ spec, Except.error raised = Except.ok (α := LoopPolicy) spec := by
                rintro ⟨spec, h⟩
                cases h
              rw [← withTemplate_eq_self_iff hfound]
              constructor
              · rintro ⟨hgoals, -, -⟩
                have hwritten : writeTemplate s.goals found.update found.goal draws.now = s.goals :=
                  hgoals
                refine .inr ⟨hnone, ?_⟩
                unfold PolicyStores.withTemplate
                rw [hwritten]
              · rintro (⟨hsome, -⟩ | ⟨-, hsame⟩)
                · exact absurd hsome hnone
                · exact ⟨congrArg PolicyStores.goals hsame, rfl, rfl⟩
          | ok spec =>
              obtain ⟨-, -, ceiling', hceiling', hbuilt⟩ := rebuildSpec_eq_ok hspec
              rw [hceilingOf] at hceiling'
              obtain rfl := Except.ok.inj hceiling'
              obtain ⟨-, -, -, -, -, hspecCeiling, hspecAllowed, -⟩ := loopSpecForGoal_eq_ok hbuilt
              have hne : allowed ≠ [] :=
                (effectiveAllowedCapabilities_eq_ok hallowed).choose_spec.2.2
              have hexact : spec.allowedCapabilities = allowed := by
                rw [hspecAllowed, hrequest]
                exact if_neg hne
              have hwithin := within_iff hceiling hallowed hspecCeiling hexact
              have hsaved : ((s.withTemplate found draws.now).withSpec spec).specs.get? spec.id
                  = some spec := get?_saveSpec_self s.specs spec
              have hgranted : request.allowedCapabilities.getD [] = allowed := by
                rw [hrequest]
                rfl
              constructor
              · rintro ⟨spec', hspec', hinside⟩
                rw [hsaved] at hspec'
                obtain rfl := Option.some.inj hspec'
                refine .inl ⟨⟨spec, rfl⟩, ?_⟩
                rw [hgranted]
                exact hwithin.mp hinside
              · rintro (⟨-, hfits⟩ | ⟨hnone, -⟩)
                · refine ⟨spec, hsaved, hwithin.mpr ?_⟩
                  rw [← hgranted]
                  exact hfits
                · exact absurd ⟨spec, rfl⟩ hnone

end

/-- **A closed envelope.** A `goal.open` or a `goal.update` returns with a specification
inside the caller's envelope or fails without a trace if and only if the schedule that it
finds is inside, nothing fails after its first write, and there is a registry or the granted
tools fit the ceiling anyway. -/
theorem envelope_closed_iff (cron : Cron) (workspaces : Workspaces) (tools : Registry)
    (available runs : Bool) (s : PolicyStores) (context : CapabilityContext) (call : GoalCall) :
    EnvelopeClosed cron workspaces tools available runs s context call
      ↔ EnvelopeSettles cron workspaces tools available runs s context call := by
  cases call with
  | opens args draws graph => exact open_closed_iff
  | updates args draws => exact update_closed_iff

/-- A reader's context, and a tool that reads. -/
def readerContext : CapabilityContext :=
  ⟨"", "chat", "peer", "owner", "session", "/workspace", .read, none⟩

def readerTools : Registry :=
  Table.empty.insertOrIgnore ⟨"web.search", "search", false, .read, "static", true⟩

/-- The arguments of a schedule that a reader opens. -/
def readerArgs : GoalOpenArgs where
  objective := "water the plants"
  workspace := ""
  loopKind := .scheduled
  permissionCeiling := ""
  allowedCapabilities := []
  scope := []
  constraints := []
  acceptanceCriteria := []
  verificationCommand := ""
  timeoutSeconds := 120
  tokenBudget := 0
  callBudget := 0
  costBudget := 0
  qpsLimit := 0
  maxConcurrent := 1
  autoStart := true
  cronSchedule := "0 9 * * *"
  parentGoalId := ""
  allowDuplicateSchedule := false

def plainWorkspaces : Workspaces := ⟨"/workspace", id, id⟩

/-- Ids that are free, and no failure. -/
def readerDraws : Draws := ⟨"run'", "goal'", "spec'", "loop'", 5, fun _ => none⟩

/-- The schedule is there already, with a higher ceiling and the wildcard, and the reader
gets it. -/
theorem envelope_escaped :
    goalOpen everyMinute plainWorkspaces (some readerTools) true registeredSchedule.toPolicyStores
        readerContext readerArgs readerDraws none
        = (.ok ⟨"goal", "spec", "existing"⟩, registeredSchedule.toPolicyStores)
      ∧ ¬ EnvelopeClosed everyMinute plainWorkspaces readerTools true true
        registeredSchedule.toPolicyStores readerContext (.opens readerArgs readerDraws none) := by
  have hexisting : goalOpen everyMinute plainWorkspaces (some readerTools) true
      registeredSchedule.toPolicyStores readerContext readerArgs readerDraws none
      = (.ok ⟨"goal", "spec", "existing"⟩, registeredSchedule.toPolicyStores) := by
    rfl
  refine ⟨hexisting, fun hclosed => ?_⟩
  change ClosedResult readerTools true registeredSchedule.toPolicyStores readerContext []
    (goalOpen everyMinute plainWorkspaces (some readerTools) true
      registeredSchedule.toPolicyStores readerContext readerArgs readerDraws none) at hclosed
  rw [hexisting] at hclosed
  obtain ⟨spec, hspec, hinside⟩ := hclosed
  have hwrite : spec.permissionCeiling = .write := by
    have hstored := congrArg (Option.map LoopPolicy.permissionCeiling) hspec
    exact (Option.some.inj hstored).symm
  have hle := hinside.ceiling
  rw [hwrite] at hle
  exact absurd hle (by decide)

end Navi.Goals
