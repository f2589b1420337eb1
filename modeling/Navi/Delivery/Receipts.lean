import Navi.Base.System
import Navi.Lifecycle.Control
import Navi.Lifecycle.GoalTables

/-!
# Receipts and the loops they settle

`record_delivery` and `record_delivery_failure`. A receipt names the Run that its
message was for and the delivery it belongs to. It closes the loop run whose id is
the delivery's, and every loop run of the Run's Goal that is paused for a delivery,
in the order of their ids; the first one that refuses ends the call. The event log
is left out, and one reading of the clock stands for the call.
-/

namespace Navi.Delivery

open Navi.Base Navi.Loop Navi.Lifecycle
open Navi.Lifecycle.Control (endedUpdates)

/-- The tables `goals`, `loop_runs` and `runs`. -/
structure DeliveryStores extends GoalStores where
  runs : Table String Run (·.id)

/-- `update_run`, and `update_for_run` where there was such a Run. -/
def projectRun (s : DeliveryStores) (runId : String) (updates : Run → RunUpdates)
    (evidence : Dict) (now : Time) : DeliveryStores :=
  match s.runs.get? runId with
  | none => s
  | some run =>
      let updated := mergeRunUpdates run (updates run) now
      let s := { s with runs := s.runs.replace updated }
      match getByRun s.goals run.id with
      | none => s
      | some goal => { s with goals := s.goals.replace (updateForRun goal updated evidence now) }

/-! ## The loops -/

/-- The state a receipt or a failure ends a loop run in. -/
def deliveryTarget (success : Bool) : LoopTerminalState := if success then .converged else .failed

/-- The loop run is paused for a delivery. -/
def deliveryPaused (cell : LoopCell) : Bool :=
  cell.run.terminalState = some .paused ∧ cell.run.evidence.text "action" = "connector_outbound"

/-- `_settle_delivery_envelope_goal`. -/
def settleDeliveryEnvelopeGoal (s : DeliveryStores) (goalId : String) (success : Bool)
    (evidence : Dict) (now : Time) : DeliveryStores :=
  match s.goals.get? goalId with
  | none => s
  | some goal =>
      if goal.runId = "" then s
      else
        let envelope : Dict := evidence.merge
          [("transport_envelope_goal_id", .str goalId),
            ("origin_goal_id", .str (evidence.text "goal_id"))]
        let error := evidence.text "error"
        projectRun s goal.runId (fun run =>
          if success then endedUpdates .accepted .success run.resultSummary ""
          else endedUpdates .rejected .failed "" (if error = "" then "delivery failed" else error))
          envelope now

/-- What follows the completion of a loop run: its own Goal is settled too, where it
only carried the message of another one. -/
def afterCompletion (s : DeliveryStores) (goalId : String) (completed : LoopCell) (success : Bool)
    (evidence : Dict) (now : Time) : DeliveryStores :=
  let s := { s with loops := s.loops.replace completed }
  if completed.run.goalId ≠ goalId then
    settleDeliveryEnvelopeGoal s completed.run.goalId success evidence now
  else s

/-- The loop of `_complete_delivery_loops`; what it raises, and what it has written. -/
def completeEach (goalId : String) (success : Bool) (evidence : Dict) (now : Time) :
    List String → DeliveryStores → Option StoreError × DeliveryStores
  | [], s => (none, s)
  | id :: rest, s =>
      match s.loops.get? id with
      | none => completeEach goalId success evidence now rest s
      | some cell =>
          match completeExternalDelivery cell success evidence now with
          | .error error => (some error, s)
          | .ok completed =>
              completeEach goalId success evidence now rest
                (afterCompletion s goalId completed success evidence now)

/-- `sorted(candidate_ids)`. -/
def candidateIds (loops : LoopTable) (goalId deliveryId : String) : List String :=
  let paused := (listByGoal loops goalId).filter deliveryPaused
  let named := if deliveryId = "" then [] else [deliveryId]
  (named ++ paused.map (·.run.runId)).dedup.insertionSort (· ≤ ·)

/-- `_complete_delivery_loops`. -/
def completeDeliveryLoops (s : DeliveryStores) (goalId deliveryId : String) (success : Bool)
    (evidence : Dict) (now : Time) : Option StoreError × DeliveryStores :=
  completeEach goalId success evidence now (candidateIds s.loops goalId deliveryId) s

/-! ## The two reports -/

/-- What a connector reports about a delivery, and what it makes of the Run. -/
structure Report where
  runId : String
  deliveryId : String
  success : Bool
  evidence : String → Dict
  updates : Run → RunUpdates

/-- What the two methods share; what the call raises, and what it leaves. -/
def settleReport (s : DeliveryStores) (report : Report) (now : Time) :
    Option StoreError × DeliveryStores :=
  match getByRun s.goals report.runId with
  | none => (none, s)
  | some goal =>
      let evidence := report.evidence goal.id
      let completed := completeDeliveryLoops s goal.id report.deliveryId report.success evidence now
      match completed.1 with
      | some error => (some error, completed.2)
      | none => (none, projectRun completed.2 report.runId report.updates evidence now)

/-- The arguments of `record_delivery` that are kept. -/
structure Receipt where
  runId : String
  channel : String
  textPreview : String
  textLength : Int
  mediaCount : Int
  deliveryId : String
  sentAt : Option Time

/-- What `record_delivery` reports. -/
def Receipt.report (receipt : Receipt) (now : Time) : Report where
  runId := receipt.runId
  deliveryId := receipt.deliveryId
  success := true
  evidence goalId :=
    [("state_transition", .str "delivered"), ("channel", .str receipt.channel),
      ("sent_at", .float (receipt.sentAt.getD now)), ("recorded_at", .float now),
      ("text_preview", .str receipt.textPreview), ("text_length", .int (max 0 receipt.textLength)),
      ("media_count", .int (max 0 receipt.mediaCount)), ("goal_id", .str goalId),
      ("run_id", .str receipt.runId), ("delivery_id", .str receipt.deliveryId)]
  updates run := endedUpdates .accepted .success
    (if run.resultSummary = "" then receipt.textPreview else run.resultSummary) ""

/-- `record_delivery`. -/
def recordDelivery (s : DeliveryStores) (receipt : Receipt) (now : Time) :
    Option StoreError × DeliveryStores :=
  settleReport s (receipt.report now) now

/-- `_delivery_error_reason`. -/
def deliveryErrorReason (error : String) : String :=
  let head := strip (String.ofList (error.toList.takeWhile (· ≠ ':')))
  if "connector_".toList.isPrefixOf head.toList then head
  else if error = "" then ""
  else "connector_delivery_failed"

/-- The arguments of `record_delivery_failure` that are kept. -/
structure FailedDelivery where
  runId : String
  channel : String
  error : String
  errorReason : String
  deliveryId : String

/-- What `record_delivery_failure` reports. -/
def FailedDelivery.report (failure : FailedDelivery) (now : Time) : Report where
  runId := failure.runId
  deliveryId := failure.deliveryId
  success := false
  evidence goalId :=
    [("state_transition", .str "delivery_failed"), ("channel", .str failure.channel),
      ("recorded_at", .float now), ("error", .str failure.error),
      ("error_reason", .str (if failure.errorReason = "" then deliveryErrorReason failure.error
        else failure.errorReason)), ("delivery_id", .str failure.deliveryId),
      ("goal_id", .str goalId), ("run_id", .str failure.runId)]
  updates _ := endedUpdates .rejected .failed "" failure.error

/-- `record_delivery_failure`. -/
def recordDeliveryFailure (s : DeliveryStores) (failure : FailedDelivery) (now : Time) :
    Option StoreError × DeliveryStores :=
  settleReport s (failure.report now) now

/-! ## What the loop completes -/

/-- `complete_external_delivery` goes through: the loop run is paused for a delivery,
or ended as it would be. -/
def acceptsReport (success : Bool) (cell : LoopCell) : Bool :=
  cell.run.terminalState = some (deliveryTarget success) ∨ deliveryPaused cell

/-- There is such a loop run, and it refuses the report. -/
def refuses (loops : LoopTable) (success : Bool) (id : String) : Bool :=
  (loops.get? id).any fun cell => !acceptsReport success cell

/-- What `complete_external_delivery` makes of a loop run that accepts it. -/
def completedDelivery (success : Bool) (evidence : Dict) (now : Time) (cell : LoopCell) :
    LoopCell :=
  if deliveryPaused cell then transitionTo cell (deliveryTarget success) evidence now else cell

@[simp] theorem completedDelivery_runId (success : Bool) (evidence : Dict) (now : Time)
    (cell : LoopCell) :
    (completedDelivery success evidence now cell).run.runId = cell.run.runId := by
  unfold completedDelivery
  split <;> rfl

theorem completeExternalDelivery_eq {success : Bool} {cell : LoopCell} {evidence : Dict}
    {now : Time} (h : acceptsReport success cell = true) :
    completeExternalDelivery cell success evidence now
      = .ok (completedDelivery success evidence now cell) := by
  have hpaused : cell.run.terminalState = some (deliveryTarget success) →
      deliveryPaused cell = false := by
    intro hended
    cases success <;> simp_all [deliveryPaused, deliveryTarget]
  unfold completeExternalDelivery completedDelivery
  by_cases hended : cell.run.terminalState = some (deliveryTarget success)
  · rw [hpaused hended]
    exact if_pos hended
  · have hwaits : deliveryPaused cell = true := by simpa [acceptsReport, hended] using h
    rw [if_pos hwaits]
    exact (if_neg hended).trans (if_pos (of_decide_eq_true hwaits))

theorem completeExternalDelivery_error {success : Bool} {cell : LoopCell} (evidence : Dict)
    (now : Time) (h : acceptsReport success cell = false) :
    ∃ error, completeExternalDelivery cell success evidence now = .error error := by
  simp only [acceptsReport, deliveryPaused, decide_eq_true_eq, decide_eq_false_iff_not,
    not_or] at h
  unfold completeExternalDelivery
  have hended := h.1
  unfold deliveryTarget at hended
  simp [hended, h.2]

@[simp] theorem projectRun_loops (s : DeliveryStores) (runId : String) (updates : Run → RunUpdates)
    (evidence : Dict) (now : Time) : (projectRun s runId updates evidence now).loops = s.loops := by
  unfold projectRun
  split
  · rfl
  dsimp only
  split <;> rfl

@[simp] theorem settleDeliveryEnvelopeGoal_loops (s : DeliveryStores) (goalId : String)
    (success : Bool) (evidence : Dict) (now : Time) :
    (settleDeliveryEnvelopeGoal s goalId success evidence now).loops = s.loops := by
  unfold settleDeliveryEnvelopeGoal
  split
  · rfl
  split
  · rfl
  · exact projectRun_loops ..

@[simp] theorem afterCompletion_loops (s : DeliveryStores) (goalId : String) (completed : LoopCell)
    (success : Bool) (evidence : Dict) (now : Time) :
    (afterCompletion s goalId completed success evidence now).loops
      = s.loops.replace completed := by
  unfold afterCompletion
  dsimp only
  split
  · exact settleDeliveryEnvelopeGoal_loops ..
  · rfl

section

variable {goalId : String} {success : Bool} {evidence : Dict} {now : Time}

theorem get?_completed {s : DeliveryStores} {head : String} {cell : LoopCell}
    (hcell : s.loops.get? head = some cell) (id : String) :
    (s.loops.replace (completedDelivery success evidence now cell)).get? id
      = if id = head then some (completedDelivery success evidence now cell)
        else s.loops.get? id := by
  have hid : (completedDelivery success evidence now cell).run.runId = head := by
    rw [completedDelivery_runId]
    exact (Table.get?_eq_some_iff.mp hcell).2
  rw [Table.get?_replace, hid]
  by_cases hsame : id = head
  · subst hsame
    simp [hcell]
  · simp [hsame, Ne.symm hsame]

/-- The loop completes, in the order of the ids, what comes before the first loop run
that refuses, and raises if one does. -/
theorem completeEach_spec {ids : List String} (hsorted : ids.Pairwise (· < ·))
    (s : DeliveryStores) :
    ((completeEach goalId success evidence now ids s).1 = none
        ↔ ∀ id ∈ ids, refuses s.loops success id = false)
      ∧ ∀ id, (completeEach goalId success evidence now ids s).2.loops.get? id
        = if id ∈ ids ∧ ∀ other ∈ ids, refuses s.loops success other = true → id < other then
            (s.loops.get? id).map (completedDelivery success evidence now)
          else s.loops.get? id := by
  induction ids generalizing s with
  | nil => simp [completeEach]
  | cons head rest ih =>
      obtain ⟨hhead, hrest⟩ := List.pairwise_cons.mp hsorted
      have hnotin : head ∉ rest := fun hmem => lt_irrefl head (hhead head hmem)
      by_cases hrefuses : refuses s.loops success head = true
      · -- nothing is completed: no id of the list comes before its head
        have hstops : ∃ error, completeEach goalId success evidence now (head :: rest) s
            = (some error, s) := by
          cases hcell : s.loops.get? head with
          | none => simp [refuses, hcell] at hrefuses
          | some cell =>
              have hshut : acceptsReport success cell = false := by
                simpa [refuses, hcell] using hrefuses
              obtain ⟨error, herror⟩ := completeExternalDelivery_error evidence now hshut
              exact ⟨error, by simp only [completeEach, hcell, herror]⟩
        obtain ⟨error, heq⟩ := hstops
        rw [heq]
        refine ⟨iff_of_false (Option.some_ne_none error) fun hall => ?_, fun id => ?_⟩
        · have hopen := hall head List.mem_cons_self
          rw [hrefuses] at hopen
          cases hopen
        · rw [if_neg]
          rintro ⟨hmem, hbefore⟩
          have hlt := hbefore head List.mem_cons_self hrefuses
          rcases List.mem_cons.mp hmem with rfl | hmem
          · exact lt_irrefl _ hlt
          · exact lt_asymm hlt (hhead id hmem)
      · -- the head is completed, or is not there; the rest is as it was
        have hstep : ∃ s' : DeliveryStores,
            completeEach goalId success evidence now (head :: rest) s
              = completeEach goalId success evidence now rest s'
            ∧ s'.loops.get? head
              = (s.loops.get? head).map (completedDelivery success evidence now)
            ∧ ∀ id, id ≠ head → s'.loops.get? id = s.loops.get? id := by
          cases hcell : s.loops.get? head with
          | none => exact ⟨s, by simp only [completeEach, hcell], hcell, fun _ _ => rfl⟩
          | some cell =>
              have haccepts : acceptsReport success cell = true := by
                simpa [refuses, hcell] using hrefuses
              refine ⟨afterCompletion s goalId (completedDelivery success evidence now cell) success
                evidence now, ?_, ?_, fun id hid => ?_⟩
              · simp only [completeEach, hcell, completeExternalDelivery_eq haccepts]
              · rw [afterCompletion_loops, get?_completed hcell, if_pos rfl, Option.map_some]
              · rw [afterCompletion_loops, get?_completed hcell, if_neg hid]
        obtain ⟨s', heq, hfirst, hothers⟩ := hstep
        have hsame : ∀ id ∈ rest, refuses s'.loops success id = refuses s.loops success id := by
          intro id hmem
          rw [refuses, refuses, hothers id fun h => hnotin (h ▸ hmem)]
        obtain ⟨hraises, hloops⟩ := ih hrest s'
        rw [heq]
        constructor
        · rw [hraises, List.forall_mem_cons]
          refine ⟨fun hall => ⟨by simpa using hrefuses, fun id hmem => ?_⟩, fun hall id hmem => ?_⟩
          · rw [← hsame id hmem]
            exact hall id hmem
          · rw [hsame id hmem]
            exact hall.2 id hmem
        · intro id
          rw [hloops id]
          by_cases hid : id = head
          · subst hid
            have hbefore : ∀ other ∈ id :: rest, refuses s.loops success other = true →
                id < other := by
              intro other hmem hother
              rcases List.mem_cons.mp hmem with rfl | hmem
              · exact absurd hother hrefuses
              · exact hhead other hmem
            rw [if_neg fun h => hnotin h.1, if_pos ⟨List.mem_cons_self, hbefore⟩, hfirst]
          · have hcond : (id ∈ rest ∧ ∀ other ∈ rest, refuses s'.loops success other = true →
                  id < other)
                ↔ id ∈ head :: rest ∧ ∀ other ∈ head :: rest,
                  refuses s.loops success other = true → id < other := by
              rw [List.mem_cons, or_iff_right hid, List.forall_mem_cons]
              refine and_congr_right fun _ => ?_
              constructor
              · intro hall
                refine ⟨fun hother => absurd hother hrefuses, fun other hmem hother => ?_⟩
                exact hall other hmem ((hsame other hmem).trans hother)
              · rintro ⟨-, hall⟩ other hmem hother
                exact hall other hmem ((hsame other hmem).symm.trans hother)
            rw [hothers id hid]
            simp only [hcond]

end

end Navi.Delivery
