import Mathlib
import Navi.Base.Table
import Navi.Lifecycle.Projection

/-!
# Goal rows

The table `goals` with all the columns that its store reads or writes, and the methods
of the store that write a row they have read. Such a method is given the row it read
and the row it finds: the `UPDATE` leaves the columns that it does not name as it finds
them.
-/

namespace Navi.Goals

open Navi.Base Navi.Lifecycle

/-- `Goal`, without `stop_condition`, which nothing reads. -/
structure GoalRow extends Goal where
  objective : String
  source : String
  peerId : String
  senderId : String
  sessionId : String
  workspace : String
  traceId : String
  timeout : Time
  maxRetries : Int
  createdAt : Time
  parentGoalId : String
  cronSchedule : String
  nextRunAt : Time

/-- The table `goals`, by `id`. -/
abbrev GoalRows := Table String GoalRow (·.id)

def GoalRow.active (row : GoalRow) : Bool := row.state.phase ≠ .ended

/-- `UPDATE goals SET ... WHERE id = ?`. -/
def setGoal (goals : GoalRows) (id : String) (set : GoalRow → GoalRow)
    (hset : ∀ row, (set row).id = row.id) : GoalRows :=
  goals.update (fun row => row.id = id) set hset

/-- `value or default` of two texts. -/
def orText (value default : String) : String := if value = "" then default else value

/-- The arguments of `attach_trace`. -/
structure TraceUpdate where
  traceId : String
  sessionId : String
  evidence : Dict

/-- `attach_trace`. -/
def attachTrace (update : TraceUpdate) (read found : GoalRow) (now : Time) : GoalRow :=
  { found with
    traceId := orText update.traceId read.traceId
    sessionId := orText update.sessionId read.sessionId
    evidence := read.evidence.merge update.evidence
    updatedAt := now }

/-- The arguments of `update_state`; `none`, and an empty `task_status`, leave a column
alone. -/
structure StateUpdate where
  phase : Option Phase
  governance : Option Governance
  acceptance : Option Acceptance
  resolution : Option Resolution
  taskStatus : String
  blockedReason : String
  evidence : Dict

/-- The four state columns that `update_state` sets. -/
def StateUpdate.state (update : StateUpdate) (read : GoalState) : GoalState where
  phase := update.phase.getD read.phase
  governance := update.governance.getD read.governance
  acceptance := update.acceptance.getD read.acceptance
  resolution := update.resolution.getD read.resolution

/-- `update_state`. -/
def updateState (update : StateUpdate) (read found : GoalRow) (now : Time) : GoalRow :=
  { found with
    state := update.state read.state
    taskStatus := orText update.taskStatus read.taskStatus
    blockedReason := update.blockedReason
    evidence := read.evidence.merge update.evidence
    updatedAt := now
    completedAt := if (update.state read.state).phase = .ended then now else 0 }

@[simp] theorem updateState_parentGoalId (update : StateUpdate) (read found : GoalRow)
    (now : Time) : (updateState update read found now).parentGoalId = found.parentGoalId := rfl

@[simp] theorem updateState_id (update : StateUpdate) (read found : GoalRow) (now : Time) :
    (updateState update read found now).id = found.id := rfl

/-- The table after the write of an `update_state` that has read this row. -/
def writeState (goals : GoalRows) (update : StateUpdate) (read : GoalRow) (now : Time) : GoalRows :=
  setGoal goals read.id (updateState update read · now) (updateState_id update read · now)

/-- The arguments of `update_scheduled_template`. -/
structure TemplateUpdate where
  objective : String
  cronSchedule : String
  nextRunAt : Time
  evidence : Dict

/-- `update_scheduled_template`. -/
def updateScheduledTemplate (update : TemplateUpdate) (read found : GoalRow) (now : Time) :
    GoalRow :=
  { found with
    objective := update.objective
    cronSchedule := update.cronSchedule
    nextRunAt := update.nextRunAt
    evidence := read.evidence.merge update.evidence
    updatedAt := now }

@[simp] theorem updateScheduledTemplate_id (update : TemplateUpdate) (read found : GoalRow)
    (now : Time) : (updateScheduledTemplate update read found now).id = found.id := rfl

/-- The table after the write of an `update_scheduled_template` that has read this row. -/
def writeTemplate (goals : GoalRows) (update : TemplateUpdate) (read : GoalRow) (now : Time) :
    GoalRows :=
  setGoal goals read.id (updateScheduledTemplate update read · now)
    (updateScheduledTemplate_id update read · now)

/-- `update_cron_run`, and the row that `record_cron_failure` leaves. -/
def updateCronRun (nextRunAt : Time) (found : GoalRow) (now : Time) : GoalRow :=
  { found with nextRunAt := nextRunAt, updatedAt := now }

@[simp] theorem updateCronRun_id (nextRunAt : Time) (found : GoalRow) (now : Time) :
    (updateCronRun nextRunAt found now).id = found.id := rfl

/-- The table after an `update_cron_run`. -/
def writeCronRun (goals : GoalRows) (id : String) (nextRunAt now : Time) : GoalRows :=
  setGoal goals id (updateCronRun nextRunAt · now) (updateCronRun_id nextRunAt · now)

/-- What `block_invalid_cron_schedule` records. -/
def invalidCronEvidence (scheduledFor : Time) (cronSchedule errorType error : String) : Dict :=
  [("scheduled_for", .float scheduledFor), ("cron_schedule", .str cronSchedule),
    ("error_type", .str errorType), ("error", .str error),
    ("state_transition", .str "schedule_blocked")]

/-- `block_invalid_cron_schedule`. -/
def blockInvalidCronSchedule (scheduledFor : Time) (errorType error : String)
    (read found : GoalRow) (now : Time) : GoalRow :=
  { found with
    state := { found.state with phase := .ended, resolution := .blocked }
    taskStatus := "blocked"
    blockedReason := "invalid_cron_schedule"
    nextRunAt := 0
    evidence := read.evidence.merge
      (invalidCronEvidence scheduledFor read.cronSchedule errorType error)
    updatedAt := now
    completedAt := now }

@[simp] theorem blockInvalidCronSchedule_id (scheduledFor : Time) (errorType error : String)
    (read found : GoalRow) (now : Time) :
    (blockInvalidCronSchedule scheduledFor errorType error read found now).id = found.id := rfl

/-- The table after a `block_invalid_cron_schedule` that has read this row. -/
def writeBlocked (goals : GoalRows) (scheduledFor : Time) (errorType error : String)
    (read : GoalRow) (now : Time) : GoalRows :=
  setGoal goals read.id (blockInvalidCronSchedule scheduledFor errorType error read · now)
    (blockInvalidCronSchedule_id scheduledFor errorType error read · now)

/-- `validate_cron`, and `next_cron_time` where it finds a time within a year. They are
given, since the second reads the local time zone. -/
structure Cron where
  validates : String → Bool
  next : String → Time → Option Time

/-- The texts of `evidence` that `open_goal` writes for a schedule it has registered. -/
def registrationEvidence (cronSchedule : String) (nextRunAt : Time) : Dict :=
  [("state_transition", .str "schedule_registered"), ("cron_schedule", .str cronSchedule),
    ("next_run_at", .float nextRunAt)]

/-- The `update_state` of `_setup_scheduled`. -/
def registeredUpdate (cronSchedule : String) (nextRunAt : Time) : StateUpdate where
  phase := some .running
  governance := some .approved
  acceptance := some .accepted
  resolution := some .none
  taskStatus := "scheduled"
  blockedReason := ""
  evidence := registrationEvidence cronSchedule nextRunAt

/-- The `update_state` of `_compensate_open_failure`, by way of `update_for_run` with
the failed Run. -/
def compensatedUpdate (error : String) : StateUpdate where
  phase := some .ended
  governance := some .none
  acceptance := some .rejected
  resolution := some .failed
  taskStatus := "blocked"
  blockedReason := ""
  evidence := [("state_transition", .str "open_compensated"),
    ("error", .str ("loop_open_failed:" ++ error))]

/-- `_loop_kind`, where it does not raise. -/
inductive LoopKind where
  | turn
  | control
  | durableGoal
  | scheduled
  deriving DecidableEq

def LoopKind.text : LoopKind → String
  | .turn => "turn"
  | .control => "control"
  | .durableGoal => "durable_goal"
  | .scheduled => "scheduled"

/-- `OpenGoalRequest`, as far as it reaches the row: the texts stripped, the kind and the
mode read. -/
structure OpenRequest where
  objective : String
  workspace : String
  loopKind : LoopKind
  source : String
  peerId : String
  senderId : String
  sessionId : String
  verifies : Bool
  timeoutSeconds : Int
  executionMode : String
  cronSchedule : String
  parentGoalId : String
  triggerFacts : Dict
  childActiveLimit : Int

/-- The evidence that `open_goal` gives to `create`. -/
def OpenRequest.evidence (request : OpenRequest) (runId : String) : Dict :=
  [("route", .str "unified_loop"), ("loop_kind", .str request.loopKind.text),
    ("execution_mode", .str request.executionMode), ("run_id", .str runId),
    ("trigger_facts", .obj request.triggerFacts),
    ("verification_command_declared", .bool request.verifies)]

/-- The row that `open_goal` has `create` insert. -/
def OpenRequest.row (request : OpenRequest) (id runId : String) (nextRunAt now : Time) :
    GoalRow where
  id := id
  runId := runId
  state := ⟨.running, .approved, .none, .none⟩
  taskStatus := if request.loopKind = .scheduled then "scheduled" else "in_progress"
  blockedReason := ""
  evidence := request.evidence runId
  completedAt := 0
  updatedAt := now
  objective := request.objective
  source := request.source
  peerId := request.peerId
  senderId := request.senderId
  sessionId := request.sessionId
  workspace := request.workspace
  traceId := ""
  timeout := max 1 request.timeoutSeconds
  maxRetries := 1
  createdAt := now
  parentGoalId := request.parentGoalId
  cronSchedule := request.cronSchedule
  nextRunAt := nextRunAt

/-- A request of a chat's owner for a goal of this kind. -/
def plainRequest (loopKind : LoopKind) (cronSchedule : String) : OpenRequest where
  objective := "water the plants"
  workspace := "/workspace"
  loopKind := loopKind
  source := "chat"
  peerId := "peer"
  senderId := "owner"
  sessionId := "session"
  verifies := false
  timeoutSeconds := 120
  executionMode := if loopKind = .scheduled then "scheduled" else "background"
  cronSchedule := cronSchedule
  parentGoalId := ""
  triggerFacts := []
  childActiveLimit := 0

/-! ## The rows of a written table -/

theorem get?_setGoal {goals : GoalRows} {target : String} {set : GoalRow → GoalRow}
    {hset : ∀ row, (set row).id = row.id} (id : String) :
    (setGoal goals target set hset).get? id
      = (goals.get? id).map fun row => if row.id = target then set row else row := by
  have hfound := goals.get?_update (fun row => row.id = target) set hset id
  simp only [decide_eq_true_eq] at hfound
  exact hfound

theorem get?_setGoal_self {goals : GoalRows} {id : String} {set : GoalRow → GoalRow}
    {hset : ∀ row, (set row).id = row.id} {row : GoalRow} (hrow : goals.get? id = some row) :
    (setGoal goals id set hset).get? id = some (set row) := by
  rw [get?_setGoal, hrow, Option.map_some, if_pos (Table.get?_eq_some_iff.mp hrow).2]

theorem get?_setGoal_of_ne {goals : GoalRows} {target id : String} {set : GoalRow → GoalRow}
    {hset : ∀ row, (set row).id = row.id} {row : GoalRow} (hne : id ≠ target)
    (hrow : goals.get? id = some row) : (setGoal goals target set hset).get? id = some row := by
  have hid : row.id ≠ target := fun h => hne ((Table.get?_eq_some_iff.mp hrow).2.symm.trans h)
  rw [get?_setGoal, hrow, Option.map_some, if_neg hid]

section

variable {goals : GoalRows} {update : StateUpdate} {read : GoalRow} {now : Time}

theorem get?_writeState (id : String) : (writeState goals update read now).get? id
    = (goals.get? id).map fun row =>
        if row.id = read.id then updateState update read row now else row :=
  get?_setGoal id

theorem get?_writeState_self {found : GoalRow} (hfound : goals.get? read.id = some found) :
    (writeState goals update read now).get? read.id = some (updateState update read found now) :=
  get?_setGoal_self hfound

theorem get?_writeState_of_ne {id : String} {row : GoalRow} (hne : id ≠ read.id)
    (hrow : goals.get? id = some row) : (writeState goals update read now).get? id = some row :=
  @get?_setGoal_of_ne _ _ _ _ (updateState_id update read · now) _ hne hrow

theorem writeState_isSome {id : String} :
    ((writeState goals update read now).get? id).isSome = (goals.get? id).isSome := by
  rw [get?_writeState, Option.isSome_map]

theorem mem_writeState {row' : GoalRow} (h : row' ∈ (writeState goals update read now).rows) :
    ∃ row ∈ goals.rows, row'.runId = row.runId := by
  obtain ⟨row, hrow, rfl⟩ := List.mem_map.mp h
  refine ⟨row, hrow, ?_⟩
  split <;> rfl

theorem mem_writeState_of_mem {row : GoalRow} (h : row ∈ goals.rows) :
    ∃ row' ∈ (writeState goals update read now).rows, row'.runId = row.runId := by
  refine ⟨_, List.mem_map_of_mem h, ?_⟩
  split <;> rfl

end

end Navi.Goals
