import Navi.Base.Unguarded
import Navi.Goals.Rows

/-!
# Evidence under concurrent updates

`attach_trace`, `update_state` and `update_scheduled_template` of one goal, and
`update_run` of one Run, with their reads and writes in any order.
-/

namespace Navi.Goals

open Navi.Base Navi.Lifecycle

/-- The columns of a goal that a call can ask to change. `updated_at` and
`completed_at` are derived and no call's argument. -/
inductive GoalColumn where
  | phase
  | governance
  | acceptance
  | resolution
  | taskStatus
  | blockedReason
  | traceId
  | sessionId
  | objective
  | cronSchedule
  | nextRunAt

@[reducible] def GoalColumn.Value : GoalColumn → Type
  | .phase => Phase
  | .governance => Governance
  | .acceptance => Acceptance
  | .resolution => Resolution
  | .nextRunAt => Time
  | .taskStatus | .blockedReason | .traceId | .sessionId | .objective | .cronSchedule => String

def GoalRow.column (row : GoalRow) : (c : GoalColumn) → c.Value
  | .phase => row.state.phase
  | .governance => row.state.governance
  | .acceptance => row.state.acceptance
  | .resolution => row.state.resolution
  | .taskStatus => row.taskStatus
  | .blockedReason => row.blockedReason
  | .traceId => row.traceId
  | .sessionId => row.sessionId
  | .objective => row.objective
  | .cronSchedule => row.cronSchedule
  | .nextRunAt => row.nextRunAt

/-- The operations on a goal that read it and then write it. -/
inductive GoalOp where
  | attachTrace (update : TraceUpdate)
  | updateState (update : StateUpdate)
  | updateScheduledTemplate (update : TemplateUpdate)

/-- The row after the write of an operation. -/
def GoalOp.write : GoalOp → (read found : GoalRow) → Time → GoalRow
  | .attachTrace update => Goals.attachTrace update
  | .updateState update => Goals.updateState update
  | .updateScheduledTemplate update => Goals.updateScheduledTemplate update

/-- The evidence an operation is called with. -/
def GoalOp.evidence : GoalOp → Dict
  | .attachTrace update => update.evidence
  | .updateState update => update.evidence
  | .updateScheduledTemplate update => update.evidence

/-- A text that is asked for, where it is not empty. -/
def askedText (text : String) : Option String := if text = "" then none else some text

/-- The value an operation asks for in a column. -/
def GoalOp.asked : GoalOp → (c : GoalColumn) → Option c.Value
  | .attachTrace update, .traceId => askedText update.traceId
  | .attachTrace update, .sessionId => askedText update.sessionId
  | .updateState update, .phase => update.phase
  | .updateState update, .governance => update.governance
  | .updateState update, .acceptance => update.acceptance
  | .updateState update, .resolution => update.resolution
  | .updateState update, .taskStatus => askedText update.taskStatus
  | .updateState update, .blockedReason => some update.blockedReason
  | .updateScheduledTemplate update, .objective => some update.objective
  | .updateScheduledTemplate update, .cronSchedule => some update.cronSchedule
  | .updateScheduledTemplate update, .nextRunAt => some update.nextRunAt
  | _, _ => none

/-- The columns that are in the `SET` of an operation. -/
def GoalOp.sets : GoalOp → GoalColumn → Bool
  | .attachTrace _, .traceId | .attachTrace _, .sessionId => true
  | .attachTrace _, _ => false
  | .updateState _, .phase | .updateState _, .governance | .updateState _, .acceptance
  | .updateState _, .resolution | .updateState _, .taskStatus
  | .updateState _, .blockedReason => true
  | .updateState _, _ => false
  | .updateScheduledTemplate _, .objective | .updateScheduledTemplate _, .cronSchedule
  | .updateScheduledTemplate _, .nextRunAt => true
  | .updateScheduledTemplate _, _ => false

theorem orText_eq (value default : String) :
    orText value default = (askedText value).getD default := by
  unfold orText askedText
  split <;> rfl

def goalStore : RowStore GoalRow GoalOp GoalColumn String Json GoalColumn.Value where
  write := GoalOp.write
  column := GoalRow.column
  asked := GoalOp.asked
  writesBack := GoalOp.sets
  binding row k := row.evidence.get k
  gives op k := op.evidence.get k
  merges _ := true
  column_write op read found now c := by
    cases op <;> cases c <;>
      first
      | rfl
      | exact orText_eq _ _
  binding_write op read found now k := by
    cases op <;> exact Dict.get_merge _ _ _
  merges_of_gives _ _ _ _ := rfl

/-- The columns of a Run that `update_run` writes. -/
inductive RunColumn where
  | phase
  | governance
  | acceptance
  | resolution
  | planSummary
  | resultSummary
  | error
  | trustRuleId
  | autonomyLevel

@[reducible] def RunColumn.Value : RunColumn → Type
  | .phase => Phase
  | .governance => Governance
  | .acceptance => Acceptance
  | .resolution => Resolution
  | .planSummary | .resultSummary | .error | .trustRuleId | .autonomyLevel => String

def runColumn (run : Run) : (c : RunColumn) → c.Value
  | .phase => run.phase
  | .governance => run.governance
  | .acceptance => run.acceptance
  | .resolution => run.resolution
  | .planSummary => run.planSummary
  | .resultSummary => run.resultSummary
  | .error => run.error
  | .trustRuleId => run.trustRuleId
  | .autonomyLevel => run.autonomyLevel

/-- The value `update_run` is asked for in a column. -/
def runAsked (updates : RunUpdates) : (c : RunColumn) → Option c.Value
  | .phase => updates.phase
  | .governance => updates.governance
  | .acceptance => updates.acceptance
  | .resolution => updates.resolution
  | .planSummary => updates.planSummary
  | .resultSummary => updates.resultSummary
  | .error => updates.error
  | .trustRuleId => updates.trustRuleId
  | .autonomyLevel => updates.autonomyLevel

/-- The store of one Run, which has no evidence. Its `UPDATE` sets all of these
columns, so nothing but the id is left of the row it finds. -/
def runStore : RowStore Run RunUpdates RunColumn String Json RunColumn.Value where
  write updates read _ now := mergeRunUpdates read updates now
  column := runColumn
  asked := runAsked
  writesBack _ _ := true
  binding _ _ := none
  gives _ _ := none
  merges _ := false
  column_write updates read found now c := by cases c <;> rfl
  binding_write _ _ _ _ _ := rfl
  merges_of_gives _ _ _ h := absurd h.symm (Option.some_ne_none _)

/-- An update that only records evidence reads the goal before a cancellation is
written and writes it after. -/
def recordedAcrossCancel : List (RowLabel GoalOp) :=
  [.read 0 (.updateState ⟨none, none, none, none, "", "", [("verifier", .str "passed")]⟩),
    .read 1 (.updateState ⟨some .ended, some .none, some .rejected, some .canceled, "blocked",
      "loop_cancelled", [("cancelled_by", .str "owner")]⟩),
    .write 1 1, .write 0 2]

end Navi.Goals
