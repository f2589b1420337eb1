import Mathlib
import Navi.Base.Selection
import Navi.Goals.Rows

/-!
# The occurrences that `goal.state` shows

With a parent its children are cut at the limit and then filtered by scope. Without one the
children in scope are cut at two hundred by their last update, and then filtered by the window.
-/

namespace Navi.Goals

open Navi.Base

/-- The orders in which the queries list goals, where goals of one time may be in any. -/
structure GoalOrder where
  latestUpdated : List GoalRow → List GoalRow
  latestUpdated_perm : ∀ rows, (latestUpdated rows).Perm rows
  latestUpdated_sorted : ∀ rows, (latestUpdated rows).Pairwise fun a b => b.updatedAt ≤ a.updatedAt
  newestFirst : List GoalRow → List GoalRow
  newestFirst_perm : ∀ rows, (newestFirst rows).Perm rows
  newestFirst_sorted : ∀ rows, (newestFirst rows).Pairwise fun a b => b.createdAt ≤ a.createdAt

/-- The caller and the arguments, as they are parsed; no parent and a bound of zero are none. -/
structure OccurrenceQuery where
  source : String
  peerId : String
  senderId : String
  workspace : String
  parentGoalId : String
  createdAfter : Time
  createdBefore : Time
  limit : Int
  createdAfter_nonneg : 0 ≤ createdAfter
  createdBefore_nonneg : 0 ≤ createdBefore
  limit_pos : 1 ≤ limit
  limit_le : limit ≤ 200

namespace OccurrenceQuery

variable (q : OccurrenceQuery)

/-- The columns of the scope with the values of the caller. -/
def columns (row : GoalRow) : List (String × String) :=
  [(row.source, q.source), (row.peerId, q.peerId), (row.senderId, q.senderId),
    (row.workspace, q.workspace)]

/-- `append_actor_scope`. -/
def inScope (row : GoalRow) : Bool :=
  (q.columns row).all fun column => column.2 = "" || (column.1 = column.2 || column.1 = "")

/-- `_goal_matches_context`. -/
def matchesContext (row : GoalRow) : Bool :=
  (q.columns row).all fun column => column.2 = "" || column.1 = column.2

/-- The clauses of `list_children` on the creation time. -/
def windowClauses (row : GoalRow) : Bool :=
  (q.createdAfter ≤ 0 || q.createdAfter ≤ row.createdAt)
    && (q.createdBefore ≤ 0 || row.createdAt ≤ q.createdBefore)

def inWindow (row : GoalRow) : Bool :=
  (q.createdAfter = 0 || q.createdAfter ≤ row.createdAt)
    && (q.createdBefore = 0 || row.createdAt ≤ q.createdBefore)

/-- A child, of the parent where one is given. -/
def child (row : GoalRow) : Bool :=
  if q.parentGoalId = "" then row.parentGoalId ≠ "" else row.parentGoalId = q.parentGoalId

end OccurrenceQuery

/-- `list_children` with `newest`, in the order of its query. -/
def newestChildren (order : GoalOrder) (goals : GoalRows) (q : OccurrenceQuery) : List GoalRow :=
  order.newestFirst (goals.rows.filter fun row =>
    row.parentGoalId = q.parentGoalId && q.windowClauses row)

/-- `list_children` with `newest`. -/
def listChildren (order : GoalOrder) (goals : GoalRows) (q : OccurrenceQuery) : List GoalRow :=
  (sqlLimit (max 1 q.limit) (newestChildren order goals q)).reverse

/-- The query of `list_scoped` for children. -/
def scopedChildren (order : GoalOrder) (goals : GoalRows) (q : OccurrenceQuery) : List GoalRow :=
  order.latestUpdated (goals.rows.filter fun row => q.inScope row && row.parentGoalId ≠ "")

/-- `list_scoped` for children, with the limit of the view. -/
def listScoped (order : GoalOrder) (goals : GoalRows) (q : OccurrenceQuery) : List GoalRow :=
  sqlLimit (max 1 200) (scopedChildren order goals q)

/-- `_goals_for_view` of `occurrences`. -/
def goalsForView (order : GoalOrder) (goals : GoalRows) (q : OccurrenceQuery) : List GoalRow :=
  if q.parentGoalId ≠ "" then (listChildren order goals q).filter q.matchesContext
  else ((listScoped order goals q).filter q.inWindow).take q.limit.toNat

/-! ## What is claimed -/

/-- The child goals in scope that were created in the window. -/
def occurrencesOf (goals : GoalRows) (q : OccurrenceQuery) : List GoalRow :=
  goals.rows.filter fun row => q.child row && (q.inScope row && q.inWindow row)

/-- The view shows as many of them as the limit leaves, and the newest. -/
def ShowsNewest (order : GoalOrder) (goals : GoalRows) (q : OccurrenceQuery) : Prop :=
  Foremost GoalRow.createdAt q.limit (occurrencesOf goals q) (goalsForView order goals q)

/-- With a parent: all of its newest children in the window, up to the limit, have the very scope
of the caller, or every child in scope and window is among these and has it. Without: the children
in scope and window that were updated last, up to the limit, are among the two hundred children in
scope that were, and none of them is older than a child in scope and window after them. -/
def NewestShown (order : GoalOrder) (goals : GoalRows) (q : OccurrenceQuery) : Prop :=
  if q.parentGoalId ≠ "" then
    (∀ row ∈ sqlLimit q.limit (newestChildren order goals q), q.matchesContext row)
      ∨ (∀ row ∈ sqlLimit q.limit (newestChildren order goals q),
          q.inScope row → q.matchesContext row)
        ∧ ∀ row ∈ cutOff q.limit (newestChildren order goals q), ¬ q.inScope row
  else
    (∀ row ∈ sqlLimit q.limit ((scopedChildren order goals q).filter q.inWindow),
        row ∈ sqlLimit 200 (scopedChildren order goals q))
      ∧ ∀ row ∈ sqlLimit q.limit ((scopedChildren order goals q).filter q.inWindow),
          ∀ other ∈ cutOff q.limit ((scopedChildren order goals q).filter q.inWindow),
            other.createdAt ≤ row.createdAt

section

variable {order : GoalOrder} {goals : GoalRows} {q : OccurrenceQuery} {row : GoalRow}

theorem windowClauses_eq (q : OccurrenceQuery) (row : GoalRow) :
    q.windowClauses row = q.inWindow row := by
  have hafter := q.createdAfter_nonneg
  have hbefore := q.createdBefore_nonneg
  have hafter' : decide (q.createdAfter ≤ 0) = decide (q.createdAfter = 0) :=
    decide_eq_decide.mpr ⟨fun h => le_antisymm h hafter, fun h => h.le⟩
  have hbefore' : decide (q.createdBefore ≤ 0) = decide (q.createdBefore = 0) :=
    decide_eq_decide.mpr ⟨fun h => le_antisymm h hbefore, fun h => h.le⟩
  unfold OccurrenceQuery.windowClauses OccurrenceQuery.inWindow
  rw [hafter', hbefore']

theorem inScope_of_matchesContext (h : q.matchesContext row = true) : q.inScope row = true := by
  unfold OccurrenceQuery.matchesContext at h
  unfold OccurrenceQuery.inScope
  rw [List.all_eq_true] at h ⊢
  intro column hcolumn
  have hcolumn := h column hcolumn
  simp only [Bool.or_eq_true, decide_eq_true_eq] at hcolumn ⊢
  exact hcolumn.imp_right .inl

theorem newestChildren_filter (hparent : q.parentGoalId ≠ "") :
    ((newestChildren order goals q).filter q.inScope).Perm (occurrencesOf goals q) := by
  have hrows : (goals.rows.filter fun row =>
      row.parentGoalId = q.parentGoalId && q.windowClauses row).filter q.inScope
        = occurrencesOf goals q := by
    rw [List.filter_filter]
    refine List.filter_congr fun row _ => ?_
    rw [OccurrenceQuery.child, if_neg hparent, windowClauses_eq]
    cases decide (row.parentGoalId = q.parentGoalId) <;> cases q.inScope row <;> rfl
  exact ((order.newestFirst_perm _).filter q.inScope).trans (.of_eq hrows)

theorem scopedChildren_filter (hparent : q.parentGoalId = "") :
    ((scopedChildren order goals q).filter q.inWindow).Perm (occurrencesOf goals q) := by
  have hrows : (goals.rows.filter fun row => q.inScope row && row.parentGoalId ≠ "").filter
      q.inWindow = occurrencesOf goals q := by
    rw [List.filter_filter]
    refine List.filter_congr fun row _ => ?_
    rw [OccurrenceQuery.child, if_pos hparent]
    cases decide (row.parentGoalId ≠ "") <;> cases q.inScope row <;> cases q.inWindow row <;> rfl
  exact ((order.latestUpdated_perm _).filter q.inWindow).trans (.of_eq hrows)

theorem nodup_scopedChildren : (scopedChildren order goals q).Nodup :=
  (order.latestUpdated_perm _).nodup_iff.mpr ((List.Nodup.of_map _ goals.nodup).filter _)

theorem showsNewest_child_iff (hparent : q.parentGoalId ≠ "") :
    ShowsNewest order goals q ↔ NewestShown order goals q := by
  have hlimit : max 1 q.limit = q.limit := max_eq_right q.limit_pos
  have hperm := @newestChildren_filter order goals q hparent
  have hview : (goalsForView order goals q).Perm
      ((sqlLimit q.limit (newestChildren order goals q)).filter q.matchesContext) := by
    rw [goalsForView, if_pos hparent, listChildren, hlimit, List.filter_reverse]
    exact List.reverse_perm _
  have hpicked : ShowsNewest order goals q
      ↔ Foremost GoalRow.createdAt q.limit ((newestChildren order goals q).filter q.inScope)
          ((sqlLimit q.limit (newestChildren order goals q)).filter q.matchesContext) :=
    ⟨fun h => (h.of_picked hview).of_perm hperm.symm,
      fun h => (h.of_perm hperm).of_picked hview.symm⟩
  rw [hpicked, NewestShown, if_pos hparent]
  exact foremost_filter_of_imp_iff (fun _ => inScope_of_matchesContext)
    (order.newestFirst_sorted _)

theorem showsNewest_all_iff (hparent : q.parentGoalId = "") :
    ShowsNewest order goals q ↔ NewestShown order goals q := by
  have hpos := q.limit_pos
  have hperm := @scopedChildren_filter order goals q hparent
  have htake : ∀ rows : List GoalRow, rows.take q.limit.toNat = sqlLimit q.limit rows := by
    intro rows
    rw [sqlLimit, if_neg (by omega)]
  -- the view is the start of what would be shown without the cut at two hundred
  have hsplit : (sqlLimit 200 (scopedChildren order goals q)).filter q.inWindow
      ++ (cutOff 200 (scopedChildren order goals q)).filter q.inWindow
        = (scopedChildren order goals q).filter q.inWindow := by
    rw [← List.filter_append, sqlLimit_append_cutOff]
  have hview : goalsForView order goals q
      = sqlLimit q.limit ((sqlLimit 200 (scopedChildren order goals q)).filter q.inWindow) := by
    rw [goalsForView, if_neg (by simpa using hparent), listScoped, htake]
    rfl
  have hnodup := (@nodup_scopedChildren order goals q).filter (q.inWindow ·)
  unfold ShowsNewest
  rw [NewestShown, if_neg (by simpa using hparent), hview]
  constructor
  · intro h
    have hforemost := h.of_perm hperm.symm
    have hwhole : sqlLimit q.limit ((sqlLimit 200 (scopedChildren order goals q)).filter q.inWindow)
        = sqlLimit q.limit ((scopedChildren order goals q).filter q.inWindow) := by
      have hlength := hforemost.length_eq
      rw [← length_sqlLimit, ← htake, ← htake, ← hsplit] at hlength
      rw [← htake, ← htake, ← hsplit]
      exact take_append_of_length hlength
    refine ⟨fun row hrow => ?_, fun row hrow other hother => ?_⟩
    · rw [← hwhole, ← htake] at hrow
      exact List.mem_of_mem_filter (List.mem_of_mem_take hrow)
    · rw [hwhole] at hforemost
      exact foremost_sqlLimit_iff.mp hforemost row hrow other hother
  · rintro ⟨hlisted, holder⟩
    have hwhole : sqlLimit q.limit ((sqlLimit 200 (scopedChildren order goals q)).filter q.inWindow)
        = sqlLimit q.limit ((scopedChildren order goals q).filter q.inWindow) := by
      rw [← htake, ← hsplit] at hlisted
      rw [← hsplit] at hnodup
      rw [← htake, ← htake, ← hsplit]
      refine (take_append_of_mem hnodup fun row hrow => ?_).symm
      have hmem : row ∈ (scopedChildren order goals q).filter q.inWindow :=
        hsplit ▸ List.mem_of_mem_take hrow
      exact List.mem_filter.mpr ⟨hlisted row hrow, (List.mem_filter.mp hmem).2⟩
    rw [hwhole]
    exact (foremost_sqlLimit_iff.mpr holder).of_perm hperm

/-- **Occurrences in their window.** The view of the occurrences shows as many of the child goals
in scope and window as the limit leaves, and the newest of them, exactly where neither a child of
another scope nor one that was updated later takes the place of a newer one. -/
theorem showsNewest_iff (order : GoalOrder) (goals : GoalRows) (q : OccurrenceQuery) :
    ShowsNewest order goals q ↔ NewestShown order goals q := by
  by_cases hparent : q.parentGoalId = ""
  · exact showsNewest_all_iff hparent
  · exact showsNewest_child_iff hparent

end

/-! ## A child of another actor, and one that was updated late -/

def insertedOrder : GoalOrder where
  latestUpdated rows := rows.insertionSort fun a b => b.updatedAt ≤ a.updatedAt
  latestUpdated_perm rows := List.perm_insertionSort _ rows
  latestUpdated_sorted rows := by
    have : Std.Total fun a b : GoalRow => b.updatedAt ≤ a.updatedAt := ⟨fun a b => le_total _ _⟩
    have : IsTrans GoalRow fun a b => b.updatedAt ≤ a.updatedAt := ⟨fun a b c h h' => h'.trans h⟩
    exact List.pairwise_insertionSort _ rows
  newestFirst rows := rows.insertionSort fun a b => b.createdAt ≤ a.createdAt
  newestFirst_perm rows := List.perm_insertionSort _ rows
  newestFirst_sorted rows := by
    have : Std.Total fun a b : GoalRow => b.createdAt ≤ a.createdAt := ⟨fun a b => le_total _ _⟩
    have : IsTrans GoalRow fun a b => b.createdAt ≤ a.createdAt := ⟨fun a b c h h' => h'.trans h⟩
    exact List.pairwise_insertionSort _ rows

def givenOccurrence (id source : String) (createdAt updatedAt : Time) : GoalRow where
  id := id
  runId := ""
  state := ⟨.ended, .none, .none, .success⟩
  taskStatus := "done"
  blockedReason := ""
  evidence := []
  completedAt := updatedAt
  updatedAt := updatedAt
  objective := "check"
  source := source
  peerId := ""
  senderId := ""
  sessionId := ""
  workspace := ""
  traceId := ""
  timeout := 0
  maxRetries := 0
  createdAt := createdAt
  parentGoalId := "schedule"
  cronSchedule := ""
  nextRunAt := 0

/-- One occurrence of a caller in no window. -/
def oneOccurrence (parentGoalId : String) : OccurrenceQuery where
  source := "cli"
  peerId := ""
  senderId := ""
  workspace := ""
  parentGoalId := parentGoalId
  createdAfter := 0
  createdBefore := 0
  limit := 1
  createdAfter_nonneg := le_rfl
  createdBefore_nonneg := le_rfl
  limit_pos := le_rfl
  limit_le := by decide

/-- An older occurrence of the caller and a newer one of another actor. -/
def foreignOccurrence : GoalRows :=
  ⟨[givenOccurrence "old" "cli" 1 1, givenOccurrence "new" "weixin" 2 2], by decide⟩

/-- Two occurrences of the caller, of which the older was updated last. -/
def lateOccurrence : GoalRows :=
  ⟨[givenOccurrence "old" "cli" 1 3, givenOccurrence "new" "cli" 2 2], by decide⟩

/-- Of the parent nothing is shown, and of all the older occurrence. -/
theorem foreignOccurrence_showsNewest_not :
    ¬ ShowsNewest insertedOrder foreignOccurrence (oneOccurrence "schedule")
      ∧ (goalsForView insertedOrder foreignOccurrence (oneOccurrence "schedule")).map (·.id) = []
      ∧ ¬ ShowsNewest insertedOrder lateOccurrence (oneOccurrence "")
      ∧ (goalsForView insertedOrder lateOccurrence (oneOccurrence "")).map (·.id) = ["old"] := by
  have hnone : (goalsForView insertedOrder foreignOccurrence (oneOccurrence "schedule")).map (·.id)
      = [] := by decide +kernel
  have hone : (occurrencesOf foreignOccurrence (oneOccurrence "schedule")).map (·.id)
      = ["old"] := by
    decide +kernel
  refine ⟨fun h => ?_, hnone, fun h => ?_, by decide +kernel⟩
  · have hlength := Foremost.length_eq h
    have hshown := congrArg List.length hnone
    have hm := congrArg List.length hone
    rw [List.length_map] at hshown hm
    rw [hshown, hm] at hlength
    revert hlength
    decide
  · have hcondition := (showsNewest_all_iff rfl).mp h
    rw [NewestShown, if_neg (by decide)] at hcondition
    have holder := hcondition.2
    revert holder
    decide +kernel

end Navi.Goals
