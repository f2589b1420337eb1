import Mathlib.Data.List.Sort
import Navi.Base.Table
import Navi.Lifecycle.Projection
import Navi.Loop.RunStore

/-!
# Goals and their loop runs

The tables `goals` and `loop_runs`, where a service finds the Goal of a Run and
the loop runs of a Goal.
-/

namespace Navi.Lifecycle

open Navi.Base Navi.Loop

/-- The table `goals`, by `id`. -/
abbrev GoalTable := Table String Goal (·.id)

/-- The table `loop_runs`, by `id`. -/
abbrev LoopTable := Table String LoopCell (·.run.runId)

/-- The two tables. They are in different stores. -/
structure GoalStores where
  goals : GoalTable
  loops : LoopTable

/-- `get_by_run`. -/
def getByRun (goals : GoalTable) (runId : String) : Option Goal :=
  ((goals.rows.filter fun goal => goal.runId = runId).insertionSort
    fun a b => b.updatedAt ≤ a.updatedAt).head?

/-- `list_by_goal`, without its limit. -/
def listByGoal (loops : LoopTable) (goalId : String) : List LoopCell :=
  (loops.rows.filter fun cell => cell.run.goalId = goalId).insertionSort
    fun a b => b.run.updatedAt ≤ a.run.updatedAt

/-- A method of the loop run store on the loop run with this id. -/
def onLoopRun (loops : LoopTable) (runId : String)
    (method : LoopCell → Except StoreError LoopCell) : Except StoreError LoopTable :=
  match loops.get? runId with
  | none => .error (.keyError ("loop run not found: " ++ runId))
  | some cell => (method cell).map loops.replace

theorem mem_of_getByRun {goals : GoalTable} {runId : String} {goal : Goal}
    (h : getByRun goals runId = some goal) : goal ∈ goals.rows ∧ goal.runId = runId := by
  have hmem := (List.mem_insertionSort _).mp (List.mem_of_mem_head? h)
  obtain ⟨hrow, hrunId⟩ := List.mem_filter.mp hmem
  exact ⟨hrow, of_decide_eq_true hrunId⟩

theorem getByRun_isSome {goals : GoalTable} {runId : String}
    (h : ∃ goal ∈ goals.rows, goal.runId = runId) : ∃ goal, getByRun goals runId = some goal := by
  obtain ⟨goal, hrow, hrunId⟩ := h
  refine Option.isSome_iff_exists.mp (List.isSome_head?.mpr fun hnil => ?_)
  have hmem : goal ∈ (goals.rows.filter fun goal => goal.runId = runId).insertionSort
      fun a b => b.updatedAt ≤ a.updatedAt :=
    (List.mem_insertionSort _).mpr (List.mem_filter.mpr ⟨hrow, decide_eq_true hrunId⟩)
  rw [hnil] at hmem
  cases hmem

theorem mem_listByGoal {loops : LoopTable} {goalId : String} {cell : LoopCell} :
    cell ∈ listByGoal loops goalId ↔ cell ∈ loops.rows ∧ cell.run.goalId = goalId := by
  rw [listByGoal, List.mem_insertionSort, List.mem_filter, decide_eq_true_eq]

theorem get?_onLoopRun {loops loops' : LoopTable} {runId : String}
    {method : LoopCell → Except StoreError LoopCell} (h : onLoopRun loops runId method = .ok loops')
    (hkeeps : ∀ cell cell', method cell = .ok cell' → cell'.run.runId = cell.run.runId) :
    ∃ cell cell', loops.get? runId = some cell ∧ method cell = .ok cell'
      ∧ loops'.get? runId = some cell'
      ∧ ∀ other, other ≠ runId → loops'.get? other = loops.get? other := by
  unfold onLoopRun at h
  split at h
  · cases h
  next cell hcell =>
    cases hmethod : method cell with
    | error error => rw [hmethod] at h; cases h
    | ok cell' =>
        rw [hmethod] at h
        obtain rfl := Except.ok.inj h
        have hid : cell'.run.runId = runId :=
          (hkeeps cell cell' hmethod).trans (Table.get?_eq_some_iff.mp hcell).2
        refine ⟨cell, cell', hcell, hmethod, ?_, fun other hother => ?_⟩
        · rw [Table.get?_replace, hcell, Option.map_some, if_pos hid]
        · rw [Table.get?_replace]
          have hne : cell'.run.runId ≠ other := fun h => hother (h.symm.trans hid)
          simp only [hne, if_false, Option.map_id']

end Navi.Lifecycle
