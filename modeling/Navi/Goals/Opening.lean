import Navi.Base.Checks
import Navi.Goals.Policy

/-!
# Opening a goal with a policy

`open_goal` for one caller, with every table it writes: the Run, the goal, the
specification and the loop run, and what is compensated where a later one fails.
-/

namespace Navi.Goals

open Navi.Base Navi.Lifecycle

/-- `OpenGoalRequest`, with the policy that it asks for; `none` is an empty
`permission_ceiling`. -/
structure PolicyRequest extends OpenRequest where
  scope : List String
  constraints : List String
  acceptanceCriteria : List String
  permissionCeiling : Option Permission
  allowedCapabilities : List String
  verificationCommand : String
  tokenBudget : Int
  callBudget : Int
  costBudget : Rat
  qpsLimit : Int
  maxConcurrent : Int
  allowDuplicateSchedule : Bool

/-- `value or default` of two tuples. -/
def orList (value default : List String) : List String := if value = [] then default else value

theorem orList_ne {value : List String} {first : String} {rest : List String} :
    orList value (first :: rest) ≠ [] := by
  unfold orList
  split
  · exact List.cons_ne_nil _ _
  · assumption

/-- The `BudgetPolicy` of `_loop_spec_for_goal`. -/
def PolicyRequest.budget (request : PolicyRequest) : BudgetPolicy where
  tokenBudget := max 0 request.tokenBudget
  callBudget := max 0 request.callBudget
  costBudget := max 0 request.costBudget
  qpsLimit := max 0 request.qpsLimit
  maxConcurrent := max 1 request.maxConcurrent
  tokenBudget_nonneg := le_max_left _ _
  callBudget_nonneg := le_max_left _ _
  costBudget_nonneg := le_max_left _ _
  qpsLimit_nonneg := le_max_left _ _
  one_le_maxConcurrent := le_max_left _ _

/-- `_loop_spec_for_goal`, with the id drawn for the specification. -/
def loopSpecForGoal (goal : GoalRow) (request : PolicyRequest) (id : String) :
    Except Raised LoopPolicy :=
  if hobjective : strip goal.objective = "" then
    .error (.valueError "GoalSpec.objective is required")
  else .ok
    { id := id
      goalId := goal.id
      objective := goal.objective
      scope := orList request.scope ["repo:" ++ request.workspace]
      constraints := request.constraints
      acceptanceCriteria := request.acceptanceCriteria
      permissionCeiling := request.permissionCeiling.getD .write
      allowedCapabilities := orList request.allowedCapabilities ["*"]
      verificationCommand := strip request.verificationCommand
      timeout := max 1 request.timeoutSeconds
      budget := request.budget
      objective_ne := hobjective
      scope_ne := orList_ne
      allowedCapabilities_ne := orList_ne }

/-- The steps of opening a goal that can fail outside of the tables. -/
inductive OpenStage where
  | resolvingWorkspace
  | creatingRun
  | creatingGoal
  | buildingSpec
  | creatingLoop
  | updatingRun
  | updatingGoal
  | compensating

/-- What a call draws: its ids, its time (its clock readings as one), and the type of the
error at each step that fails outside of the tables. -/
structure Draws where
  runId : String
  goalId : String
  specId : String
  loopRunId : String
  now : Time
  fails : OpenStage → Option String

/-- A `LoopControlServiceResult`, by the ids of its parts. -/
structure Opened where
  goalId : String
  specId : String
  stateTransition : String

/-- `_save_spec_in_transaction`. -/
def saveSpec (specs : Table String LoopPolicy (·.id)) (spec : LoopPolicy) :
    Table String LoopPolicy (·.id) :=
  (specs.replace spec).insertOrIgnore spec

@[simp] theorem get?_saveSpec_self (specs : Table String LoopPolicy (·.id)) (spec : LoopPolicy) :
    (saveSpec specs spec).get? spec.id = some spec := by
  rw [saveSpec, Table.get?_insertOrIgnore, Table.get?_replace]
  cases specs.get? spec.id <;> simp

/-! ## The schedule -/

/-- What `open_goal` finds before it writes. -/
inductive Found where
  | existing (opened : Opened)
  | nothing

/-- The existing goal that `open_goal` returns for a schedule, where its Run and its loop
run are there. -/
def existingOpening (s : PolicyStores) (request : OpenRequest) : Option (Except Raised Opened) :=
  match findActiveCronGoal s.goals request with
  | none => none
  | some goal =>
      match s.runs.get? goal.runId, latestLoopRun s goal.id with
      | some _, some loop =>
          some ((specOf s loop.loopSpecId).map fun spec => ⟨goal.id, spec.id, "existing"⟩)
      | _, _ => none

/-- The checks of `open_goal` on a scheduled goal. -/
def checkSchedule (cron : Cron) (s : PolicyStores) (request : PolicyRequest) :
    Except Raised Found :=
  if request.loopKind ≠ .scheduled then .ok .nothing
  else if request.cronSchedule = "" then
    .error (.valueError "scheduled goal requires cron_schedule")
  else if cron.validates request.cronSchedule = false then
    .error (.valueError "Cron expression must have 5 fields")
  else match existingOpening s request.toOpenRequest with
    | some existing => existing.map .existing
    | none =>
        match findActiveCronGoalBySchedule s.goals request.slot "" with
        | some _ =>
            if request.allowDuplicateSchedule then .ok .nothing
            else .error (.conflict
              "active scheduled goal already exists for this actor and cron_schedule.")
        | none => .ok .nothing

/-! ## The rows -/

/-- `next_run_at` of a new goal. -/
def firstRunAt (cron : Cron) (cronSchedule : String) (now : Time) : Except Raised Time :=
  if cronSchedule = "" then .ok 0
  else match cron.next cronSchedule now with
    | some nextRunAt => .ok nextRunAt
    | none => .error (.valueError ("Cron expression has no run in the next year: " ++ cronSchedule))

/-- The error of a step outside of the tables. -/
def Draws.check (draws : Draws) (stage : OpenStage) : Except Raised Unit :=
  match draws.fails stage with
  | some type => .error (.other type)
  | none => .ok ()

/-- The text of a `ChildAdmissionConflict`. -/
def childLimitMessage (limit : Int) : String :=
  "agent.control(operation=spawn) allows at most " ++ toString limit
    ++ " active children per parent."

/-- `create` of the goal. -/
def createGoal (cron : Cron) (s : PolicyStores) (request : OpenRequest) (draws : Draws) :
    Except Raised GoalRow := do
  let nextRunAt ← firstRunAt cron request.cronSchedule draws.now
  draws.check .creatingGoal
  require ((s.goals.get? draws.goalId).isNone) (.other "IntegrityError")
  require (refuses s.goals request = false) (.conflict (childLimitMessage request.childActiveLimit))
  return request.row draws.goalId draws.runId nextRunAt draws.now

/-- The specification of a new goal, up to the transaction of `create_run`. -/
def createLoop (s : PolicyStores) (goal : GoalRow) (request : PolicyRequest) (draws : Draws) :
    Except Raised LoopPolicy := do
  draws.check .buildingSpec
  let spec ← loopSpecForGoal goal request draws.specId
  draws.check .creatingLoop
  require ((s.loopRuns.get? draws.loopRunId).isNone) (.other "IntegrityError")
  return spec

/-- `update_run` of `_setup_scheduled`. -/
def registeredRun : RunUpdates where
  phase := some .ended
  governance := some .none
  acceptance := some .accepted
  resolution := some .success
  planSummary := none
  resultSummary := some "schedule registered"
  error := some ""
  trustRuleId := none
  autonomyLevel := none

def PolicyStores.withGoal (s : PolicyStores) (goal : GoalRow) : PolicyStores :=
  { s with goals := s.goals.insertOrIgnore goal }

/-- The tables with the specification and the loop run. -/
def PolicyStores.withLoop (s : PolicyStores) (spec : LoopPolicy) (draws : Draws) : PolicyStores :=
  { s with
    specs := saveSpec s.specs spec
    loopRuns := s.loopRuns.insertOrIgnore ⟨draws.loopRunId, spec.goalId, spec.id, draws.now⟩ }

/-- The tables with the update of the Run of a registered schedule. -/
def PolicyStores.withRegisteredRun (s : PolicyStores) (run : Run) (now : Time) : PolicyStores :=
  { s with runs := setRun s.runs run registeredRun now }

/-- The tables with the update of a registered goal. -/
def PolicyStores.withRegisteredGoal (s : PolicyStores) (goal : GoalRow) (now : Time) :
    PolicyStores :=
  { s with
    goals := writeState s.goals (registeredUpdate goal.cronSchedule goal.nextRunAt) goal now }

/-- `_compensate_open_failure`, with the goal where `create` has returned it. -/
def PolicyStores.compensated (s : PolicyStores) (run : Run) (goal : Option GoalRow)
    (raised : Raised) (draws : Draws) : PolicyStores :=
  match draws.fails .compensating with
  | some _ => s
  | none =>
      let s := { s with runs := setRun s.runs run (failedOpening raised.type) draws.now }
      match goal with
      | some goal =>
          { s with goals := writeState s.goals (compensatedUpdate raised.type) goal draws.now }
      | none => s

/-- What `open_goal` does once it has the Run. -/
def openRows (cron : Cron) (s : PolicyStores) (run : Run) (request : PolicyRequest)
    (draws : Draws) : Except Raised Opened × PolicyStores :=
  match createGoal cron s request.toOpenRequest draws with
  | .error raised => (.error raised, s.compensated run none raised draws)
  | .ok goal =>
      let s := s.withGoal goal
      match createLoop s goal request draws with
      | .error raised => (.error raised, s.compensated run (some goal) raised draws)
      | .ok spec =>
          let s := s.withLoop spec draws
          if request.loopKind ≠ .scheduled then (.ok ⟨goal.id, spec.id, "opened"⟩, s)
          else match draws.check .updatingRun with
            | .error raised => (.error raised, s.compensated run (some goal) raised draws)
            | .ok () =>
                let s := s.withRegisteredRun run draws.now
                match draws.check .updatingGoal with
                | .error raised => (.error raised, s.compensated run (some goal) raised draws)
                | .ok () =>
                    (.ok ⟨goal.id, spec.id, "scheduled"⟩, s.withRegisteredGoal goal draws.now)

/-- What `open_goal` does before its Run is there. -/
def beforeRun (s : PolicyStores) (draws : Draws) : Except Raised Run := do
  draws.check .resolvingWorkspace
  draws.check .creatingRun
  require ((s.runs.get? draws.runId).isNone) (.other "IntegrityError")
  return openedRun draws.runId draws.now

/-- `open_goal`, of a request with its objective. -/
def openGoal (cron : Cron) (s : PolicyStores) (request : PolicyRequest) (draws : Draws) :
    Except Raised Opened × PolicyStores :=
  match checkSchedule cron s request with
  | .error raised => (.error raised, s)
  | .ok (.existing opened) => (.ok opened, s)
  | .ok .nothing =>
      match beforeRun s draws with
      | .error raised => (.error raised, s)
      | .ok run => openRows cron { s with runs := s.runs.insertOrIgnore run } run request draws

/-! ## What a returned call leaves -/

section

variable {cron : Cron} {s s' : PolicyStores} {run : Run} {request : PolicyRequest} {draws : Draws}
  {goal : GoalRow} {spec : LoopPolicy} {opened : Opened}

theorem createGoal_eq_ok (h : createGoal cron s request.toOpenRequest draws = .ok goal) :
    s.goals.get? goal.id = none
      ∧ ∃ nextRunAt, goal = request.row draws.goalId draws.runId nextRunAt draws.now := by
  simp only [createGoal, bind_eq_ok, require_eq_ok, pure_eq_ok] at h
  obtain ⟨nextRunAt, -, -, -, -, hfree, -, -, rfl⟩ := h
  exact ⟨Option.isNone_iff_eq_none.mp hfree, nextRunAt, rfl⟩

theorem createLoop_eq_ok (h : createLoop s goal request draws = .ok spec) :
    loopSpecForGoal goal request draws.specId = .ok spec := by
  simp only [createLoop, bind_eq_ok, require_eq_ok, pure_eq_ok] at h
  obtain ⟨-, -, found, hfound, -, -, -, -, rfl⟩ := h
  exact hfound

theorem loopSpecForGoal_eq_ok {id : String} (h : loopSpecForGoal goal request id = .ok spec) :
    spec.id = id ∧ spec.objective = goal.objective
      ∧ spec.scope = orList request.scope ["repo:" ++ request.workspace]
      ∧ spec.constraints = request.constraints
      ∧ spec.acceptanceCriteria = request.acceptanceCriteria
      ∧ spec.permissionCeiling = request.permissionCeiling.getD .write
      ∧ spec.allowedCapabilities = orList request.allowedCapabilities ["*"]
      ∧ spec.verificationCommand = strip request.verificationCommand
      ∧ spec.timeout = ((max 1 request.timeoutSeconds : Int) : Rat)
      ∧ spec.budget = request.budget := by
  unfold loopSpecForGoal at h
  split at h
  next => cases h
  next =>
    obtain rfl := Except.ok.inj h
    exact ⟨rfl, rfl, rfl, rfl, rfl, rfl, rfl, rfl, by simp, rfl⟩

theorem get?_withGoal (hfree : s.goals.get? goal.id = none) :
    (s.withGoal goal).goals.get? goal.id = some goal := by
  change (s.goals.insertOrIgnore goal).get? goal.id = some goal
  rw [Table.get?_insertOrIgnore, hfree, if_pos rfl, Option.none_or]

theorem openRows_eq_ok (h : openRows cron s run request draws = (.ok opened, s')) :
    ∃ goal spec, createGoal cron s request.toOpenRequest draws = .ok goal
      ∧ loopSpecForGoal goal request draws.specId = .ok spec
      ∧ opened.goalId = goal.id ∧ opened.specId = spec.id
      ∧ s'.specs.get? spec.id = some spec
      ∧ (request.loopKind ≠ .scheduled → s'.goals.get? goal.id = some goal) := by
  unfold openRows at h
  split at h
  next => cases congrArg Prod.fst h
  next goal hgoal =>
    have hrow := get?_withGoal (createGoal_eq_ok hgoal).1
    dsimp only at h
    split at h
    next => cases congrArg Prod.fst h
    next spec hspec =>
      have hmade := createLoop_eq_ok hspec
      have hsaved : ((s.withGoal goal).withLoop spec draws).specs.get? spec.id = some spec :=
        get?_saveSpec_self _ spec
      split at h
      next hkind =>
        obtain ⟨hopened, rfl⟩ := Prod.mk.inj h
        obtain rfl := Except.ok.inj hopened
        exact ⟨goal, spec, hgoal, hmade, rfl, rfl, hsaved, fun _ => hrow⟩
      next hkind =>
        split at h
        next => cases congrArg Prod.fst h
        next =>
          split at h
          next => cases congrArg Prod.fst h
          next =>
            obtain ⟨hopened, rfl⟩ := Prod.mk.inj h
            obtain rfl := Except.ok.inj hopened
            exact ⟨goal, spec, hgoal, hmade, rfl, rfl, hsaved, fun hne => absurd hne hkind⟩

end

/-! Without budgets, each of them is zero. -/

theorem plainBudget_nonneg : (0 : Int) ≤ 0 := le_rfl

theorem plainCost_nonneg : (0 : Rat) ≤ 0 := le_rfl

theorem plainConcurrent_pos : (1 : Int) ≤ 1 := le_rfl

theorem plainObjective_ne : "water the plants" ≠ "" := by decide +kernel

theorem plainScope_ne : ["repo:/workspace"] ≠ [] := List.cons_ne_nil _ _

theorem plainCapabilities_ne : ["*"] ≠ [] := List.cons_ne_nil _ _

/-- A specification of the goal of `plainRequest`, under a ceiling and without budgets. -/
def plainSpec (permissionCeiling : Permission) : LoopPolicy where
  id := "spec"
  goalId := "goal"
  objective := "water the plants"
  scope := ["repo:/workspace"]
  constraints := []
  acceptanceCriteria := []
  permissionCeiling := permissionCeiling
  allowedCapabilities := ["*"]
  verificationCommand := ""
  timeout := 120
  budget :=
    { tokenBudget := 0
      callBudget := 0
      costBudget := 0
      qpsLimit := 0
      maxConcurrent := 1
      tokenBudget_nonneg := plainBudget_nonneg
      callBudget_nonneg := plainBudget_nonneg
      costBudget_nonneg := plainCost_nonneg
      qpsLimit_nonneg := plainBudget_nonneg
      one_le_maxConcurrent := plainConcurrent_pos }
  objective_ne := plainObjective_ne
  scope_ne := plainScope_ne
  allowedCapabilities_ne := plainCapabilities_ne

end Navi.Goals
