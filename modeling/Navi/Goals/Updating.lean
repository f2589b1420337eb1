import Navi.Goals.Opening

/-!
# Updating a scheduled goal

`update_goal` for one caller: the goal row is written before the specification is built
again, and what fails in between is not compensated.
-/

namespace Navi.Goals

open Navi.Base Navi.Lifecycle

/-! ## The request -/

/-- `UpdateGoalRequest`. -/
structure UpdateRequest where
  goalId : String
  objective : String
  cronSchedule : String
  scope : Option (List String)
  constraints : Option (List String)
  acceptanceCriteria : Option (List String)
  permissionCeiling : String
  allowedCapabilities : Option (List String)
  verificationCommand : Option String
  timeoutSeconds : Int
  tokenBudget : Int
  callBudget : Int
  costBudget : Rat
  qpsLimit : Int
  maxConcurrent : Int
  allowDuplicateSchedule : Bool

/-- The texts of `PERMISSION_ORDER`. -/
def Permission.text : Permission → String
  | .read => "read"
  | .network => "network"
  | .prepare => "prepare"
  | .write => "write"

/-- `str.lower` of a character that has an ASCII letter as its lower case. -/
def lowerLetter (c : Char) : Char := if c.toNat = 0x212A then 'k' else c.toLower

/-- `normalize_permission`. -/
def normalizePermission (value : String) (default : Permission) : Except Raised Permission :=
  let permission := String.ofList ((strip value).toList.map lowerLetter)
  if permission = "" then .ok default
  else match [Permission.read, .network, .prepare, .write].find? (·.text = permission) with
    | some known => .ok known
    | none => .error (.valueError ("unsupported permission: " ++ value))

/-- What `templateUpdate` reads of a request. -/
def UpdateRequest.reschedule (request : UpdateRequest) : RescheduleRequest where
  goalId := strip request.goalId
  objective := strip request.objective
  cronSchedule := strip request.cronSchedule

/-- `request.value` where it is positive, or not negative. -/
def orKept {α : Type} (asked : Prop) [Decidable asked] (value kept : α) : α :=
  if asked then value else kept

/-- `_timeout_seconds_from_spec`. -/
def LoopPolicy.timeoutSeconds (spec : LoopPolicy) : Int :=
  max 1 (if 0 < spec.timeout then spec.timeout.floor else 120)

/-- The `OpenGoalRequest` that `update_goal` makes of its request and of the specification
before, with the ceiling that was normalised. -/
def UpdateRequest.asOpening (request : UpdateRequest) (goal : GoalRow) (previous : LoopPolicy)
    (permissionCeiling : Permission) : PolicyRequest where
  objective := goal.objective
  workspace := goal.workspace
  loopKind := .scheduled
  source := goal.source
  peerId := goal.peerId
  senderId := goal.senderId
  sessionId := goal.sessionId
  verifies := request.verificationCommand.getD previous.verificationCommand ≠ ""
  timeoutSeconds := orKept (0 < request.timeoutSeconds) request.timeoutSeconds
    previous.timeoutSeconds
  executionMode := "scheduled"
  cronSchedule := goal.cronSchedule
  parentGoalId := ""
  triggerFacts := []
  childActiveLimit := 0
  scope := request.scope.getD previous.scope
  constraints := request.constraints.getD previous.constraints
  acceptanceCriteria := request.acceptanceCriteria.getD previous.acceptanceCriteria
  permissionCeiling := some permissionCeiling
  allowedCapabilities := request.allowedCapabilities.getD previous.allowedCapabilities
  verificationCommand := request.verificationCommand.getD previous.verificationCommand
  tokenBudget := orKept (0 ≤ request.tokenBudget) request.tokenBudget previous.budget.tokenBudget
  callBudget := orKept (0 ≤ request.callBudget) request.callBudget previous.budget.callBudget
  costBudget := orKept (0 ≤ request.costBudget) request.costBudget previous.budget.costBudget
  qpsLimit := orKept (0 ≤ request.qpsLimit) request.qpsLimit previous.budget.qpsLimit
  maxConcurrent := orKept (0 < request.maxConcurrent) request.maxConcurrent
    previous.budget.maxConcurrent
  allowDuplicateSchedule := false

/-! ## The call -/

/-- What `update_goal` has before it writes. -/
structure FoundTemplate where
  goal : GoalRow
  loop : LoopRow
  spec : LoopPolicy
  update : TemplateUpdate

/-- `update_goal`, up to `update_scheduled_template`. -/
def findTemplate (cron : Cron) (s : PolicyStores) (request : UpdateRequest) (now : Time) :
    Except Raised FoundTemplate := do
  require (strip request.goalId ≠ "") (.valueError "UpdateGoalRequest.goal_id is required")
  match s.goals.get? (strip request.goalId) with
  | none => .error (.keyError ("goal not found: " ++ strip request.goalId))
  | some goal => do
      require (goal.active = true)
        (.valueError ("terminal goal cannot be updated: " ++ goal.id))
      require (goal.cronSchedule ≠ "")
        (.valueError "goal.update currently supports scheduled recurring goals")
      match latestLoopRun s goal.id with
      | none => .error (.valueError ("scheduled goal has no registration loop: " ++ goal.id))
      | some loop => do
          let spec ← specOf s loop.loopSpecId
          require (cron.validates (request.reschedule.slot goal).cronSchedule = true)
            (.valueError "Cron expression must have 5 fields")
          require (request.allowDuplicateSchedule = true
              ∨ findActiveCronGoalBySchedule s.goals (request.reschedule.slot goal) goal.id = none)
            (.conflict
              "another active scheduled goal already exists for this actor and cron_schedule.")
          match templateUpdate cron request.reschedule goal now with
          | none => .error (.valueError "Cron expression has no run in the next year")
          | some update => return ⟨goal, loop, spec, update⟩

/-- The steps after the write of the goal row that can fail outside of the tables. -/
inductive UpdateStage where
  | recordingEvent
  | readingRun
  | buildingSpec
  | savingSpec

/-- The time of a call, and the type of the error at each step that fails. -/
structure UpdateDraws where
  now : Time
  fails : UpdateStage → Option String

/-- The error of a step outside of the tables. -/
def UpdateDraws.check (draws : UpdateDraws) (stage : UpdateStage) : Except Raised Unit :=
  match draws.fails stage with
  | some type => .error (.other type)
  | none => .ok ()

/-- The goal as `update_scheduled_template` leaves it. -/
def FoundTemplate.updated (found : FoundTemplate) (now : Time) : GoalRow :=
  updateScheduledTemplate found.update found.goal found.goal now

/-- `permission_ceiling` of the request or of the specification before. -/
def UpdateRequest.ceiling (request : UpdateRequest) (previous : LoopPolicy) :
    Except Raised Permission :=
  if request.permissionCeiling = "" then .ok previous.permissionCeiling
  else normalizePermission request.permissionCeiling .read

/-- The specification that `update_goal` saves. -/
def rebuildSpec (s : PolicyStores) (request : UpdateRequest) (found : FoundTemplate)
    (draws : UpdateDraws) : Except Raised LoopPolicy := do
  draws.check .recordingEvent
  draws.check .readingRun
  require ((s.runs.get? found.goal.runId).isSome)
    (.keyError ("run not found for goal: " ++ found.goal.runId))
  let ceiling ← request.ceiling found.spec
  let spec ← loopSpecForGoal (found.updated draws.now)
    (request.asOpening (found.updated draws.now) found.spec ceiling) found.loop.loopSpecId
  draws.check .buildingSpec
  draws.check .savingSpec
  return spec

/-- The tables with the goal row as it was found written anew. -/
def PolicyStores.withTemplate (s : PolicyStores) (found : FoundTemplate) (now : Time) :
    PolicyStores :=
  { s with goals := writeTemplate s.goals found.update found.goal now }

/-- The tables after `save_spec`. -/
def PolicyStores.withSpec (s : PolicyStores) (spec : LoopPolicy) : PolicyStores :=
  { s with specs := saveSpec s.specs spec }

/-- `update_goal`. -/
def updateGoal (cron : Cron) (s : PolicyStores) (request : UpdateRequest) (draws : UpdateDraws) :
    Except Raised Opened × PolicyStores :=
  match findTemplate cron s request draws.now with
  | .error raised => (.error raised, s)
  | .ok found =>
      let written := s.withTemplate found draws.now
      match rebuildSpec written request found draws with
      | .error raised => (.error raised, written)
      | .ok spec => (.ok ⟨found.goal.id, spec.id, "updated"⟩, written.withSpec spec)

/-! ## The metadata -/

/-- What the metadata of a specification has of the request it was opened with, and no
`UpdateGoalRequest` has. -/
structure SpecContext where
  triggerFacts : Dict
  taskContext : Dict

/-- `_task_context_for_request` of a request to update a goal. -/
def templateTaskContext (goal : GoalRow) : Dict :=
  [("lineage", .obj [("id", .str (orText goal.parentGoalId goal.id)), ("kind", .str "goal"),
      ("current_goal_id", .str goal.id), ("parent_goal_id", .str goal.parentGoalId)]),
    ("progress", .obj [("scope", .str "goal"), ("sequence_number", .int 0),
      ("authority", .str "current_goal"), ("authoritative_prior_items", .arr []),
      ("authoritative_prior_item_count", .int 0), ("ambient_history_authoritative", .bool false)]),
    ("delivery", .obj [("stage", .str "not_applicable"),
      ("transport_receipt_available", .bool false)])]

/-- The tables, and the metadata of each specification. -/
structure TemplateStores extends PolicyStores where
  contexts : String → SpecContext

/-- The metadata after a specification of this goal is saved. -/
def savedContexts (contexts : String → SpecContext) (specId : String) (goal : Option GoalRow) :
    String → SpecContext :=
  match goal with
  | some goal => Function.update contexts specId ⟨[], templateTaskContext goal⟩
  | none => contexts

/-- `update_goal`, with the metadata that it saves. -/
def updateTemplate (cron : Cron) (s : TemplateStores) (request : UpdateRequest)
    (draws : UpdateDraws) : Except Raised Opened × TemplateStores :=
  match updateGoal cron s.toPolicyStores request draws with
  | (.error raised, s') => (.error raised, ⟨s', s.contexts⟩)
  | (.ok opened, s') => (.ok opened,
      ⟨s', savedContexts s.contexts opened.specId (s'.goals.get? opened.goalId)⟩)

/-! ## All or nothing -/

/-- The values after an update are those requested, and those before where none is: texts
without their surrounding blanks, a permission in its normal form, and `next_run_at` the
next time of an expression that is new. -/
structure Carried (cron : Cron) (request : UpdateRequest) (now : Time) (goal goal' : GoalRow)
    (spec spec' : LoopPolicy) (context context' : SpecContext) : Prop where
  goalObjective : goal'.objective = orText (strip request.objective) goal.objective
  cronSchedule : goal'.cronSchedule = orText (strip request.cronSchedule) goal.cronSchedule
  nextRunAt : if goal'.cronSchedule = goal.cronSchedule then goal'.nextRunAt = goal.nextRunAt
    else cron.next goal'.cronSchedule now = some goal'.nextRunAt
  goalRest : goal' = { goal with
    objective := goal'.objective
    cronSchedule := goal'.cronSchedule
    nextRunAt := goal'.nextRunAt
    evidence := goal'.evidence
    updatedAt := now }
  objective : spec'.objective = orText (strip request.objective) spec.objective
  scope : spec'.scope = request.scope.getD spec.scope
  constraints : spec'.constraints = request.constraints.getD spec.constraints
  acceptanceCriteria : spec'.acceptanceCriteria
    = request.acceptanceCriteria.getD spec.acceptanceCriteria
  permissionCeiling : request.ceiling spec = .ok spec'.permissionCeiling
  allowedCapabilities : spec'.allowedCapabilities
    = request.allowedCapabilities.getD spec.allowedCapabilities
  verificationCommand : spec'.verificationCommand
    = (request.verificationCommand.map strip).getD spec.verificationCommand
  timeout : spec'.timeout
    = orKept (0 < request.timeoutSeconds) (request.timeoutSeconds : Rat) spec.timeout
  tokenBudget : spec'.budget.tokenBudget
    = orKept (0 ≤ request.tokenBudget) request.tokenBudget spec.budget.tokenBudget
  callBudget : spec'.budget.callBudget
    = orKept (0 ≤ request.callBudget) request.callBudget spec.budget.callBudget
  costBudget : spec'.budget.costBudget
    = orKept (0 ≤ request.costBudget) request.costBudget spec.budget.costBudget
  qpsLimit : spec'.budget.qpsLimit
    = orKept (0 ≤ request.qpsLimit) request.qpsLimit spec.budget.qpsLimit
  maxConcurrent : spec'.budget.maxConcurrent
    = orKept (0 < request.maxConcurrent) request.maxConcurrent spec.budget.maxConcurrent
  context : context' = context

/-- A call returns and carries its request, or it raises and leaves everything as it was. -/
def AllOrNothing (cron : Cron) (s : TemplateStores) (request : UpdateRequest)
    (draws : UpdateDraws) : Prop :=
  match updateTemplate cron s request draws with
  | (.error _, s') => s' = s
  | (.ok opened, s') => opened.goalId = strip request.goalId
      ∧ ∃ goal goal' spec spec', s.goals.get? opened.goalId = some goal
        ∧ s'.goals.get? opened.goalId = some goal'
        ∧ goalLoopSpec s.toPolicyStores opened.goalId = .ok spec
        ∧ goalLoopSpec s'.toPolicyStores opened.goalId = .ok spec'
        ∧ Carried cron request draws.now goal goal' spec spec' (s.contexts opened.specId)
          (s'.contexts opened.specId)

/-- Nothing after the write of the goal row fails: no store and no tool gateway, the Run is
there, the permission that is asked for is known, and the objective is not blank. -/
structure Completes (s : PolicyStores) (request : UpdateRequest) (found : FoundTemplate)
    (draws : UpdateDraws) : Prop where
  stages : ∀ stage, draws.fails stage = none
  run : (s.runs.get? found.goal.runId).isSome
  permission : ∃ ceiling, request.ceiling found.spec = .ok ceiling
  objective : strip (orText (strip request.objective) found.goal.objective) ≠ ""

/-- What the specification is built from can be carried and kept: a scope and capabilities
that are asked for are not empty, the objective that is kept is the goal's, the command and
the timeout that are kept are as `_loop_spec_for_goal` makes them, and the goal was opened
without trigger facts and without a task context. -/
structure Keeps (request : UpdateRequest) (found : FoundTemplate) (context : SpecContext) :
    Prop where
  scope : request.scope ≠ some []
  allowedCapabilities : request.allowedCapabilities ≠ some []
  objective : strip request.objective = "" → found.spec.objective = found.goal.objective
  verificationCommand : request.verificationCommand = none →
    strip found.spec.verificationCommand = found.spec.verificationCommand
  timeout : ¬ 0 < request.timeoutSeconds →
    ((found.spec.timeoutSeconds : Int) : Rat) = found.spec.timeout
  context : context = ⟨[], templateTaskContext found.goal⟩

section

variable {cron : Cron} {s : PolicyStores} {request : UpdateRequest} {found : FoundTemplate}
  {draws : UpdateDraws} {now : Time}

theorem findTemplate_eq_ok (h : findTemplate cron s request now = .ok found) :
    s.goals.get? (strip request.goalId) = some found.goal
      ∧ latestLoopRun s found.goal.id = some found.loop
      ∧ specOf s found.loop.loopSpecId = .ok found.spec
      ∧ templateUpdate cron request.reschedule found.goal now = some found.update := by
  simp only [findTemplate, bind_eq_ok, require_eq_ok] at h
  obtain ⟨-, -, h⟩ := h
  split at h
  next => cases h
  next goal hgoal =>
    simp only [bind_eq_ok, require_eq_ok] at h
    obtain ⟨-, -, -, -, h⟩ := h
    split at h
    next => cases h
    next loop hloop =>
      simp only [bind_eq_ok, require_eq_ok] at h
      obtain ⟨spec, hspec, -, -, -, -, h⟩ := h
      split at h
      next => cases h
      next update hupdate =>
        obtain rfl := Except.ok.inj h
        exact ⟨hgoal, hloop, hspec, hupdate⟩

theorem templateUpdate_eq_some {request : RescheduleRequest} {goal : GoalRow}
    {update : TemplateUpdate} (h : templateUpdate cron request goal now = some update) :
    update.objective = orText request.objective goal.objective
      ∧ update.cronSchedule = orText request.cronSchedule goal.cronSchedule
      ∧ if update.cronSchedule = goal.cronSchedule then update.nextRunAt = goal.nextRunAt
        else cron.next update.cronSchedule now = some update.nextRunAt := by
  obtain ⟨nextRunAt, hnext, rfl⟩ := Option.map_eq_some_iff.mp h
  refine ⟨rfl, rfl, ?_⟩
  dsimp only
  split
  next hsame =>
    rw [if_pos hsame] at hnext
    exact (Option.some.inj hnext).symm
  next hdiffers =>
    rw [if_neg hdiffers] at hnext
    exact hnext

theorem check_eq_ok {stage : UpdateStage} {u : Unit} :
    draws.check stage = .ok u ↔ draws.fails stage = none := by
  unfold UpdateDraws.check
  cases draws.fails stage with
  | none => exact ⟨fun _ => rfl, fun _ => rfl⟩
  | some type =>
      constructor
      · intro h
        cases h
      · intro h
        cases h

theorem found_objective (hfound : findTemplate cron s request draws.now = .ok found) :
    (found.updated draws.now).objective
      = orText (strip request.objective) found.goal.objective := by
  obtain ⟨-, -, -, hupdate⟩ := findTemplate_eq_ok hfound
  exact (templateUpdate_eq_some hupdate).1

theorem rebuildSpec_eq_ok {spec : LoopPolicy} (h : rebuildSpec s request found draws = .ok spec) :
    (∀ stage, draws.fails stage = none) ∧ (s.runs.get? found.goal.runId).isSome
      ∧ ∃ ceiling, request.ceiling found.spec = .ok ceiling
        ∧ loopSpecForGoal (found.updated draws.now)
          (request.asOpening (found.updated draws.now) found.spec ceiling) found.loop.loopSpecId
            = .ok spec := by
  simp only [rebuildSpec, bind_eq_ok, require_eq_ok, check_eq_ok, pure_eq_ok] at h
  obtain ⟨_, hrecording, _, hreading, -, hrun, ceiling, hceiling, built, hbuilt, _, hbuilding, _,
    hsaving, rfl⟩ := h
  refine ⟨fun stage => ?_, hrun, ceiling, hceiling, hbuilt⟩
  cases stage with
  | recordingEvent => exact hrecording
  | readingRun => exact hreading
  | buildingSpec => exact hbuilding
  | savingSpec => exact hsaving

theorem rebuildSpec_ok_iff (hfound : findTemplate cron s request draws.now = .ok found) :
    (∃ spec, rebuildSpec s request found draws = .ok spec) ↔ Completes s request found draws := by
  have hobjective := found_objective hfound
  constructor
  · rintro ⟨spec, h⟩
    obtain ⟨hstages, hrun, ceiling, hceiling, hbuilt⟩ := rebuildSpec_eq_ok h
    refine ⟨hstages, hrun, ⟨ceiling, hceiling⟩, fun hblank => ?_⟩
    rw [loopSpecForGoal, dif_pos (by rw [hobjective, hblank])] at hbuilt
    cases hbuilt
  · rintro ⟨hstages, hrun, ⟨ceiling, hceiling⟩, hnonblank⟩
    have hbuilt : ∃ spec, loopSpecForGoal (found.updated draws.now)
        (request.asOpening (found.updated draws.now) found.spec ceiling) found.loop.loopSpecId
          = .ok spec := by
      rw [loopSpecForGoal, dif_neg (by rw [hobjective]; exact hnonblank)]
      exact ⟨_, rfl⟩
    obtain ⟨spec, hspec⟩ := hbuilt
    refine ⟨spec, ?_⟩
    simp only [rebuildSpec, bind_eq_ok, require_eq_ok, check_eq_ok, pure_eq_ok]
    exact ⟨(), hstages _, (), hstages _, (), hrun, ceiling, hceiling, spec, hspec, (), hstages _,
      (), hstages _, rfl⟩

theorem writeTemplate_eq_self_iff {goals : GoalRows} {update : TemplateUpdate} {goal : GoalRow}
    (hgoal : goals.get? goal.id = some goal) :
    writeTemplate goals update goal now = goals
      ↔ updateScheduledTemplate update goal goal now = goal := by
  constructor
  · intro h
    have hafter : (writeTemplate goals update goal now).get? goal.id
        = some (updateScheduledTemplate update goal goal now) := by
      rw [writeTemplate, setGoal, Table.get?_update, hgoal]
      simp
    rw [h, hgoal] at hafter
    exact (Option.some.inj hafter).symm
  · intro h
    have hrows : Table.updateRows (fun row : GoalRow => row.id = goal.id)
        (updateScheduledTemplate update goal · now) goals.rows = goals.rows := by
      refine (List.map_congr_left fun row hrow => ?_).trans (List.map_id goals.rows)
      split
      next hid =>
        have hsame : row = goal := by
          have hfound := Table.get?_of_mem hrow
          rw [of_decide_eq_true hid, hgoal] at hfound
          exact (Option.some.inj hfound).symm
        rw [hsame]
        exact h
      next => rfl
    obtain ⟨rows, hnodup⟩ := goals
    simp only [writeTemplate, setGoal, Table.update, Table.mk.injEq]
    exact hrows

/-! ### The values -/

theorem orList_eq_iff {value : List String} {first : String} {rest : List String} :
    orList value (first :: rest) = value ↔ value ≠ [] := by
  unfold orList
  split
  next h =>
    constructor
    · intro heq
      rw [← heq]
      exact List.cons_ne_nil _ _
    · intro hne
      exact absurd h hne
  next h => exact ⟨fun _ => h, fun _ => rfl⟩

theorem getD_ne_nil_iff {asked : Option (List String)} {kept : List String} (h : kept ≠ []) :
    asked.getD kept ≠ [] ↔ asked ≠ some [] := by
  cases asked with
  | none => simp [h]
  | some value => simp

theorem max_orKept {α : Type} [LinearOrder α] {asked : Prop} [Decidable asked] {low value kept : α}
    (hvalue : asked → low ≤ value) (hkept : low ≤ kept) :
    max low (orKept asked value kept) = orKept asked value kept := by
  unfold orKept
  split
  next hasked => exact max_eq_right (hvalue hasked)
  next => exact max_eq_right hkept

theorem orText_eq_iff {value default default' : String} :
    orText value default = orText value default' ↔ (value = "" → default' = default) := by
  unfold orText
  split
  next h => exact ⟨fun heq _ => heq.symm, fun heq => (heq h).symm⟩
  next h => exact ⟨fun _ hempty => absurd hempty h, fun _ => rfl⟩

theorem strip_getD_iff {asked : Option String} {kept : String} :
    strip (asked.getD kept) = (asked.map strip).getD kept ↔ (asked = none → strip kept = kept) := by
  cases asked with
  | none => exact ⟨fun h _ => h, fun h => h rfl⟩
  | some value => exact ⟨fun _ hnone => absurd hnone (Option.some_ne_none value), fun _ => rfl⟩

theorem timeout_iff {seconds : Int} {spec : LoopPolicy} :
    ((max 1 (orKept (0 < seconds) seconds spec.timeoutSeconds) : Int) : Rat)
        = orKept (0 < seconds) (seconds : Rat) spec.timeout
      ↔ (¬ 0 < seconds → ((spec.timeoutSeconds : Int) : Rat) = spec.timeout) := by
  have hseconds : max 1 (orKept (0 < seconds) seconds spec.timeoutSeconds)
      = orKept (0 < seconds) seconds spec.timeoutSeconds :=
    max_orKept (fun hasked => hasked) (le_max_left _ _)
  rw [hseconds]
  unfold orKept
  split
  next h => exact ⟨fun _ hnot => absurd h hnot, fun _ => rfl⟩
  next h => exact ⟨fun heq _ => heq, fun heq => heq h⟩

theorem built_kept {goal : GoalRow} {opening : PolicyRequest} {id : String} {spec : LoopPolicy}
    (h : loopSpecForGoal goal opening id = .ok spec) :
    strip spec.verificationCommand = spec.verificationCommand
      ∧ ((spec.timeoutSeconds : Int) : Rat) = spec.timeout := by
  obtain ⟨-, -, -, -, -, -, -, hcommand, htimeout, -⟩ := loopSpecForGoal_eq_ok h
  have hone : 1 ≤ max 1 opening.timeoutSeconds := le_max_left _ _
  have hpos : (0 : Rat) < ((max 1 opening.timeoutSeconds : Int) : Rat) :=
    Int.cast_pos.mpr (Int.lt_of_lt_of_le Int.zero_lt_one hone)
  refine ⟨by rw [hcommand, strip_strip], ?_⟩
  unfold LoopPolicy.timeoutSeconds
  rw [htimeout, if_pos hpos, Rat.floor_intCast, max_eq_right hone]

theorem carried_iff (hfound : findTemplate cron s request draws.now = .ok found)
    {spec : LoopPolicy} (hspec : rebuildSpec s request found draws = .ok spec)
    {context : SpecContext} :
    Carried cron request draws.now found.goal (found.updated draws.now) found.spec spec context
        ⟨[], templateTaskContext (found.updated draws.now)⟩
      ↔ Keeps request found context := by
  obtain ⟨-, -, -, hupdate⟩ := findTemplate_eq_ok hfound
  obtain ⟨hgoalObjective, hcron, hnext⟩ := templateUpdate_eq_some hupdate
  obtain ⟨-, -, ceiling, hceiling, hbuilt⟩ := rebuildSpec_eq_ok hspec
  obtain ⟨-, hobjective, hscope, hconstraints, hcriteria, hpermission, hallowed, hcommand, htimeout,
    hbudget⟩ := loopSpecForGoal_eq_ok hbuilt
  have hscopeIff : spec.scope = request.scope.getD found.spec.scope
      ↔ request.scope ≠ some [] := by
    rw [hscope]
    exact orList_eq_iff.trans (getD_ne_nil_iff found.spec.scope_ne)
  have hallowedIff : spec.allowedCapabilities
      = request.allowedCapabilities.getD found.spec.allowedCapabilities
      ↔ request.allowedCapabilities ≠ some [] := by
    rw [hallowed]
    exact orList_eq_iff.trans (getD_ne_nil_iff found.spec.allowedCapabilities_ne)
  have hobjectiveIff : spec.objective = orText (strip request.objective) found.spec.objective
      ↔ (strip request.objective = "" → found.spec.objective = found.goal.objective) := by
    rw [hobjective, found_objective hfound]
    exact orText_eq_iff
  have hcommandIff : spec.verificationCommand
      = (request.verificationCommand.map strip).getD found.spec.verificationCommand
      ↔ (request.verificationCommand = none →
        strip found.spec.verificationCommand = found.spec.verificationCommand) := by
    rw [hcommand]
    exact strip_getD_iff
  have htimeoutIff : spec.timeout
      = orKept (0 < request.timeoutSeconds) (request.timeoutSeconds : Rat) found.spec.timeout
      ↔ (¬ 0 < request.timeoutSeconds →
        ((found.spec.timeoutSeconds : Int) : Rat) = found.spec.timeout) := by
    rw [htimeout]
    exact timeout_iff
  constructor
  · intro h
    exact ⟨hscopeIff.mp h.scope, hallowedIff.mp h.allowedCapabilities, hobjectiveIff.mp h.objective,
      hcommandIff.mp h.verificationCommand, htimeoutIff.mp h.timeout, h.context.symm⟩
  · intro h
    refine ⟨hgoalObjective, hcron, hnext, rfl, hobjectiveIff.mpr h.objective,
      hscopeIff.mpr h.scope, hconstraints, hcriteria, ?_, hallowedIff.mpr h.allowedCapabilities,
      hcommandIff.mpr h.verificationCommand, htimeoutIff.mpr h.timeout, ?_, ?_, ?_, ?_, ?_,
      h.context.symm⟩
    · rw [hceiling, hpermission]
      rfl
    · rw [hbudget]
      exact max_orKept (fun hasked => hasked) found.spec.budget.tokenBudget_nonneg
    · rw [hbudget]
      exact max_orKept (fun hasked => hasked) found.spec.budget.callBudget_nonneg
    · rw [hbudget]
      exact max_orKept (fun hasked => hasked) found.spec.budget.costBudget_nonneg
    · rw [hbudget]
      exact max_orKept (fun hasked => hasked) found.spec.budget.qpsLimit_nonneg
    · rw [hbudget]
      exact max_orKept (fun hasked => hasked) found.spec.budget.one_le_maxConcurrent

/-! ### The tables after a call -/

theorem get?_withTemplate (hfound : findTemplate cron s request now = .ok found) :
    (s.withTemplate found now).goals.get? found.goal.id = some (found.updated now) := by
  obtain ⟨hgoal, -⟩ := findTemplate_eq_ok hfound
  have hid := (Table.get?_eq_some_iff.mp hgoal).2
  unfold PolicyStores.withTemplate writeTemplate
  rw [setGoal, Table.get?_update, hid, hgoal]
  simp [FoundTemplate.updated, hid]

theorem withTemplate_eq_self_iff (hfound : findTemplate cron s request now = .ok found) :
    s.withTemplate found now = s ↔ found.updated now = found.goal := by
  obtain ⟨hgoal, -⟩ := findTemplate_eq_ok hfound
  have hself : s.goals.get? found.goal.id = some found.goal := by
    rw [(Table.get?_eq_some_iff.mp hgoal).2]
    exact hgoal
  refine Iff.trans ?_ (writeTemplate_eq_self_iff hself)
  constructor
  · intro h
    exact congrArg PolicyStores.goals h
  · intro h
    unfold PolicyStores.withTemplate
    rw [h]

theorem goalLoopSpec_eq {spec : LoopPolicy} (hgoal : (s.goals.get? found.goal.id).isSome)
    (hloop : latestLoopRun s found.goal.id = some found.loop)
    (hspec : s.specs.get? found.loop.loopSpecId = some spec) :
    goalLoopSpec s found.goal.id = .ok spec := by
  obtain ⟨goal, hgoal⟩ := Option.isSome_iff_exists.mp hgoal
  unfold goalLoopSpec
  simp only [hgoal, hloop, specOf, hspec]

theorem get?_of_specOf {specId : String} {spec : LoopPolicy} (h : specOf s specId = .ok spec) :
    s.specs.get? specId = some spec := by
  unfold specOf at h
  split at h
  next found hfound =>
    obtain rfl := Except.ok.inj h
    exact hfound
  next => cases h

end

/-- A call that finds its template either completes and keeps what it should, or it writes
the goal row as it was. -/
def UpdateSettles (cron : Cron) (s : TemplateStores) (request : UpdateRequest)
    (draws : UpdateDraws) : Prop :=
  ∀ found, findTemplate cron s.toPolicyStores request draws.now = .ok found →
    Completes s.toPolicyStores request found draws
        ∧ Keeps request found (s.contexts found.loop.loopSpecId)
      ∨ ¬ Completes s.toPolicyStores request found draws
        ∧ found.updated draws.now = found.goal

/-- **All or nothing.** A call of `update_goal` carries its request or changes nothing if and
only if, where it gets to the write of the goal row, nothing fails after it and the
specification can be built again without a loss, or the write changes nothing. -/
theorem update_all_or_nothing_iff (cron : Cron) (s : TemplateStores) (request : UpdateRequest)
    (draws : UpdateDraws) :
    AllOrNothing cron s request draws ↔ UpdateSettles cron s request draws := by
  unfold AllOrNothing updateTemplate updateGoal UpdateSettles
  cases hfound : findTemplate cron s.toPolicyStores request draws.now with
  | error raised => exact iff_of_true rfl fun found h => by cases h
  | ok found =>
      have hrebuild : rebuildSpec (s.withTemplate found draws.now) request found draws
          = rebuildSpec s.toPolicyStores request found draws := rfl
      simp only [Except.ok.injEq, forall_eq', hrebuild, ← rebuildSpec_ok_iff hfound]
      cases hspec : rebuildSpec s.toPolicyStores request found draws with
      | error raised =>
          -- the goal row is written and nothing takes it back
          simp only [reduceCtorEq, exists_false, false_and, not_false_iff, true_and, false_or]
          refine Iff.trans ?_ (withTemplate_eq_self_iff hfound)
          constructor
          · intro h
            exact congrArg TemplateStores.toPolicyStores h
          · intro h
            rw [h]
      | ok spec =>
          simp only [Except.ok.injEq, exists_eq', true_and, not_true, false_and, or_false]
          obtain ⟨hgoal, hloop, hspecOf, -⟩ := findTemplate_eq_ok hfound
          have hid : found.goal.id = strip request.goalId := (Table.get?_eq_some_iff.mp hgoal).2
          obtain ⟨-, -, ceiling, -, hbuilt⟩ := rebuildSpec_eq_ok hspec
          have hspecId : spec.id = found.loop.loopSpecId := (loopSpecForGoal_eq_ok hbuilt).1
          have hafter : ((s.withTemplate found draws.now).withSpec spec).goals.get? found.goal.id
              = some (found.updated draws.now) := get?_withTemplate hfound
          have hspecAfter : goalLoopSpec ((s.withTemplate found draws.now).withSpec spec)
              found.goal.id = .ok spec :=
            goalLoopSpec_eq (by rw [hafter]; rfl) hloop
              (by rw [← hspecId]; exact get?_saveSpec_self s.specs spec)
          have hspecBefore : goalLoopSpec s.toPolicyStores found.goal.id = .ok found.spec :=
            goalLoopSpec_eq (by rw [hid, hgoal]; rfl) hloop (get?_of_specOf hspecOf)
          have hcontext : savedContexts s.contexts spec.id
              (((s.withTemplate found draws.now).withSpec spec).goals.get? found.goal.id) spec.id
                = ⟨[], templateTaskContext (found.updated draws.now)⟩ := by
            rw [hafter]
            exact Function.update_self _ _ _
          rw [← hspecId, ← carried_iff hfound hspec]
          constructor
          · rintro ⟨-, goal, goal', before, after, hgoalBefore, hgoalAfter, hbefore, hafterSpec,
              hcarried⟩
            rw [hid, hgoal] at hgoalBefore
            rw [hafter] at hgoalAfter
            rw [hspecBefore] at hbefore
            rw [hspecAfter] at hafterSpec
            obtain rfl := Option.some.inj hgoalBefore
            obtain rfl := Option.some.inj hgoalAfter
            obtain rfl := Except.ok.inj hbefore
            obtain rfl := Except.ok.inj hafterSpec
            rw [hcontext] at hcarried
            exact hcarried
          · intro hcarried
            refine ⟨hid, found.goal, _, found.spec, spec, ?_, hafter, hspecBefore, hspecAfter, ?_⟩
            · rw [hid]
              exact hgoal
            · rw [hcontext]
              exact hcarried

/-- A schedule that was opened for a chat's owner, with its Run and its specification. -/
def registeredSchedule : TemplateStores where
  goals := Table.empty.insertOrIgnore
    ((plainRequest .scheduled "0 9 * * *").row "goal" "run" 60 0)
  runs := Table.empty.insertOrIgnore (openedRun "run" 0)
  specs := Table.empty.insertOrIgnore (plainSpec .write)
  loopRuns := Table.empty.insertOrIgnore ⟨"loop", "goal", "spec", 0⟩
  contexts := fun _ => ⟨[], []⟩

/-- A new objective, with a permission that is not in the order. -/
def unknownCeiling : UpdateRequest where
  goalId := "goal"
  objective := "water the garden"
  cronSchedule := ""
  scope := none
  constraints := none
  acceptanceCriteria := none
  permissionCeiling := "admin"
  allowedCapabilities := none
  verificationCommand := none
  timeoutSeconds := 0
  tokenBudget := -1
  callBudget := -1
  costBudget := -1
  qpsLimit := -1
  maxConcurrent := 0
  allowDuplicateSchedule := false

def halfUpdated : TemplateStores :=
  (updateTemplate everyMinute registeredSchedule unknownCeiling ⟨5, fun _ => none⟩).2

/-- The call raises, with the new objective in the goal row and the old one in the
specification. -/
theorem update_half_done :
    updateTemplate everyMinute registeredSchedule unknownCeiling ⟨5, fun _ => none⟩
        = (.error (.valueError "unsupported permission: admin"), halfUpdated)
      ∧ (halfUpdated.goals.get? "goal").map (·.objective) = some "water the garden"
      ∧ (halfUpdated.specs.get? "spec").map (·.objective) = some "water the plants"
      ∧ ¬ AllOrNothing everyMinute registeredSchedule unknownCeiling ⟨5, fun _ => none⟩ := by
  have hraised : updateTemplate everyMinute registeredSchedule unknownCeiling ⟨5, fun _ => none⟩
      = (.error (.valueError "unsupported permission: admin"), halfUpdated) := rfl
  have hwritten : (halfUpdated.goals.get? "goal").map (·.objective) = some "water the garden" := by
    decide +kernel
  refine ⟨hraised, hwritten, by decide +kernel, fun hboth => ?_⟩
  unfold AllOrNothing at hboth
  rw [hraised] at hboth
  have hkept : halfUpdated = registeredSchedule := hboth
  rw [hkept] at hwritten
  exact absurd hwritten (by decide +kernel)

end Navi.Goals
