import Navi.Delivery.Receipts

/-!
# Deliveries and the loops that own them

Several loop runs of one Goal can be paused for a delivery at once, each for its own.
A receipt for one of them closes them all.
-/

namespace Navi.Delivery

open Navi.Base Navi.Loop Navi.Lifecycle

/-- The loop runs whose terminal state is another one afterwards. -/
def changedLoops (before after : LoopTable) : List String :=
  (before.rows.filter fun cell =>
    (after.get? cell.run.runId).map (·.run.terminalState) ≠ some cell.run.terminalState).map
      (·.run.runId)

/-- A report on a delivery, or whatever else writes the three tables. -/
inductive SettleLabel where
  | delivered (receipt : Receipt) (now : Time)
  | failed (failure : FailedDelivery) (now : Time)
  | others (stores : DeliveryStores)

/-- The report of a label, with its reading of the clock. -/
def SettleLabel.report : SettleLabel → Option (Report × Time)
  | .delivered receipt now => some (receipt.report now, now)
  | .failed failure now => some (failure.report now, now)
  | .others _ => none

/-- The stores, and (a history variable) the loop runs that the reports have ended, each
with the delivery that the report was about. -/
structure SettleHistory where
  stores : DeliveryStores
  ended : List (String × String)

def SettleHistory.settled (h : SettleHistory) (report : Report)
    (after : Option StoreError × DeliveryStores) : SettleHistory where
  stores := after.2
  ended := (changedLoops h.stores.loops after.2.loops).map (fun id => (report.deliveryId, id))
    ++ h.ended

/-- Receipts and failures in any order. -/
def settleSystem : System SettleHistory SettleLabel where
  step h
    | .delivered receipt now =>
        some (h.settled (receipt.report now) (recordDelivery h.stores receipt now))
    | .failed failure now =>
        some (h.settled (failure.report now) (recordDeliveryFailure h.stores failure now))
    | .others stores => some { h with stores := stores }

/-- The loop runs a report closes: those paused for a delivery that belong to the Goal or
have the delivery's id, and come before the loop run of that id if it refuses. -/
def Closes (s : DeliveryStores) (report : Report) (id : String) : Prop :=
  ∃ goal, getByRun s.goals report.runId = some goal ∧ ∃ cell, s.loops.get? id = some cell
    ∧ deliveryPaused cell = true
    ∧ (cell.run.goalId = goal.id ∨ (report.deliveryId ≠ "" ∧ id = report.deliveryId))
    ∧ (report.deliveryId ≠ "" → refuses s.loops report.success report.deliveryId = true →
      id < report.deliveryId)

section

/- The delivery that carries the message of a loop run. -/
variable (owner : String → String)

/-- Each loop run was ended by a report on its own delivery. -/
def SettleHistory.OnlyOwn (h : SettleHistory) : Prop :=
  ∀ deliveryId id, (deliveryId, id) ∈ h.ended → owner id = deliveryId

/-- The loop runs that a report finds to close are all paused for its delivery. -/
def FindsOnlyOwn (h : SettleHistory) (label : SettleLabel) : Prop :=
  ∀ report now, label.report = some (report, now) → ∀ id, Closes h.stores report id →
    owner id = report.deliveryId

end

/-! ## One report -/

section

variable {loops : LoopTable} {goalId deliveryId : String}

theorem mem_candidateIds {id : String} : id ∈ candidateIds loops goalId deliveryId
    ↔ (deliveryId ≠ "" ∧ id = deliveryId) ∨ ∃ cell, loops.get? id = some cell
      ∧ cell.run.goalId = goalId ∧ deliveryPaused cell = true := by
  unfold candidateIds
  rw [List.mem_insertionSort, List.mem_dedup, List.mem_append]
  refine or_congr ?_ ?_
  · by_cases hnamed : deliveryId = ""
    · simp [hnamed]
    · simp [hnamed]
  · rw [List.mem_map]
    constructor
    · rintro ⟨cell, hcell, rfl⟩
      obtain ⟨hlisted, hpaused⟩ := List.mem_filter.mp hcell
      obtain ⟨hrow, hgoal⟩ := mem_listByGoal.mp hlisted
      exact ⟨cell, Table.get?_of_mem hrow, hgoal, hpaused⟩
    · rintro ⟨cell, hcell, hgoal, hpaused⟩
      obtain ⟨hrow, hid⟩ := Table.get?_eq_some_iff.mp hcell
      exact ⟨cell, List.mem_filter.mpr ⟨mem_listByGoal.mpr ⟨hrow, hgoal⟩, hpaused⟩, hid⟩

theorem candidateIds_sorted (loops : LoopTable) (goalId deliveryId : String) :
    (candidateIds loops goalId deliveryId).Pairwise (· < ·) := by
  have hle : (candidateIds loops goalId deliveryId).Pairwise (· ≤ ·) :=
    List.pairwise_insertionSort (· ≤ ·) _
  have hne : (candidateIds loops goalId deliveryId).Nodup :=
    (List.perm_insertionSort (· ≤ ·) _).nodup_iff.mpr (List.nodup_dedup _)
  exact (hle.and hne).imp fun h => lt_of_le_of_ne h.1 h.2

theorem refusing_candidate {success : Bool} {id : String}
    (hmem : id ∈ candidateIds loops goalId deliveryId)
    (hrefuses : refuses loops success id = true) :
    deliveryId ≠ "" ∧ id = deliveryId := by
  rcases mem_candidateIds.mp hmem with hnamed | ⟨cell, hcell, -, hpaused⟩
  · exact hnamed
  · simp [refuses, hcell, acceptsReport, hpaused] at hrefuses

end

theorem changed_of_mem {before after : LoopTable} {id : String} :
    id ∈ changedLoops before after ↔ ∃ cell, before.get? id = some cell
      ∧ (after.get? id).map (·.run.terminalState) ≠ some cell.run.terminalState := by
  unfold changedLoops
  rw [List.mem_map]
  constructor
  · rintro ⟨cell, hcell, rfl⟩
    obtain ⟨hrow, hdiffers⟩ := List.mem_filter.mp hcell
    exact ⟨cell, Table.get?_of_mem hrow, of_decide_eq_true hdiffers⟩
  · rintro ⟨cell, hcell, hdiffers⟩
    obtain ⟨hrow, rfl⟩ := Table.get?_eq_some_iff.mp hcell
    exact ⟨cell, List.mem_filter.mpr ⟨hrow, decide_eq_true hdiffers⟩, rfl⟩

theorem completedDelivery_changes (success : Bool) (evidence : Dict) (now : Time)
    (cell : LoopCell) :
    (completedDelivery success evidence now cell).run.terminalState ≠ cell.run.terminalState
      ↔ deliveryPaused cell = true := by
  unfold completedDelivery
  by_cases hpaused : deliveryPaused cell = true
  · have hstate : cell.run.terminalState = some .paused := (of_decide_eq_true hpaused).1
    rw [if_pos hpaused, hstate]
    cases success <;> simp [hpaused, transitionTo, deliveryTarget]
  · simp [hpaused]

theorem settleReport_loops (s : DeliveryStores) (report : Report) (now : Time) :
    (settleReport s report now).2.loops = (getByRun s.goals report.runId).elim s.loops fun goal =>
      (completeDeliveryLoops s goal.id report.deliveryId report.success (report.evidence goal.id)
        now).2.loops := by
  unfold settleReport
  cases hgoal : getByRun s.goals report.runId with
  | none => rfl
  | some goal =>
      dsimp only
      split
      · rfl
      · exact projectRun_loops ..

theorem settleReport_changes (s : DeliveryStores) (report : Report) (now : Time) (id : String) :
    id ∈ changedLoops s.loops (settleReport s report now).2.loops ↔ Closes s report id := by
  rw [changed_of_mem, settleReport_loops]
  cases hgoal : getByRun s.goals report.runId with
  | none =>
      refine iff_of_false ?_ ?_
      · rintro ⟨cell, hcell, hdiffers⟩
        exact hdiffers (by rw [Option.elim_none, hcell, Option.map_some])
      · rintro ⟨goal, hfound, -⟩
        rw [hgoal] at hfound
        cases hfound
  | some goal =>
      have hsorted := candidateIds_sorted s.loops goal.id report.deliveryId
      have hloops := (@completeEach_spec goal.id report.success (report.evidence goal.id) now _
        hsorted s).2 id
      have hbefore : (∀ other ∈ candidateIds s.loops goal.id report.deliveryId,
            refuses s.loops report.success other = true → id < other)
          ↔ (report.deliveryId ≠ "" → refuses s.loops report.success report.deliveryId = true →
            id < report.deliveryId) := by
        constructor
        · intro hall hnamed hrefuses
          exact hall _ (mem_candidateIds.mpr (.inl ⟨hnamed, rfl⟩)) hrefuses
        · intro hown other hmem hrefuses
          obtain ⟨hnamed, rfl⟩ := refusing_candidate hmem hrefuses
          exact hown hnamed hrefuses
      simp only [Option.elim_some, completeDeliveryLoops, hloops, hbefore]
      constructor
      · rintro ⟨cell, hcell, hdiffers⟩
        split at hdiffers
        next hreached =>
          rw [hcell, Option.map_some, Option.map_some] at hdiffers
          have hpaused := (completedDelivery_changes _ _ _ cell).mp
            fun hsame => hdiffers (congrArg some hsame)
          refine ⟨goal, hgoal, cell, hcell, hpaused, ?_, hreached.2⟩
          rcases mem_candidateIds.mp hreached.1 with hnamed | ⟨cell', hcell', hgoalId, -⟩
          · exact .inr hnamed
          · obtain rfl := Option.some.inj (hcell.symm.trans hcell')
            exact .inl hgoalId
        next => exact absurd (by rw [hcell, Option.map_some]) hdiffers
      · rintro ⟨goal', hgoal', cell, hcell, hpaused, howned, hown⟩
        obtain rfl := Option.some.inj (hgoal.symm.trans hgoal')
        have hmem : id ∈ candidateIds s.loops goal.id report.deliveryId :=
          mem_candidateIds.mpr (howned.symm.imp_right fun hgoalId =>
            ⟨cell, hcell, hgoalId, hpaused⟩)
        refine ⟨cell, hcell, ?_⟩
        rw [if_pos ⟨hmem, hown⟩, hcell, Option.map_some, Option.map_some]
        exact fun hsame =>
          (completedDelivery_changes _ _ _ cell).mpr hpaused (Option.some.inj hsame)

theorem settled_onlyOwn_iff {owner : String → String} {h : SettleHistory} (hown : h.OnlyOwn owner)
    (report : Report) (now : Time) :
    (h.settled report (settleReport h.stores report now)).OnlyOwn owner
      ↔ ∀ id, Closes h.stores report id → owner id = report.deliveryId := by
  constructor
  · intro hafter id hcloses
    refine hafter report.deliveryId id (List.mem_append_left _ ?_)
    exact List.mem_map.mpr ⟨id, (settleReport_changes h.stores report now id).mpr hcloses, rfl⟩
  · intro hfinds deliveryId id hmem
    rcases List.mem_append.mp hmem with hnew | hold
    · obtain ⟨changed, hchanged, hpair⟩ := List.mem_map.mp hnew
      obtain ⟨rfl, rfl⟩ := Prod.mk.inj hpair
      exact hfinds changed ((settleReport_changes h.stores report now changed).mp hchanged)
    · exact hown deliveryId id hold

theorem step_onlyOwn_iff {owner : String → String} {h h' : SettleHistory} {label : SettleLabel}
    (hown : h.OnlyOwn owner) (hstep : settleSystem.step h label = some h') :
    h'.OnlyOwn owner ↔ FindsOnlyOwn owner h label := by
  have hreport : ∀ report now, label.report = some (report, now) →
      (FindsOnlyOwn owner h label ↔ ∀ id, Closes h.stores report id →
        owner id = report.deliveryId) := by
    intro report now hlabel
    constructor
    · intro hfinds
      exact hfinds report now hlabel
    · intro hfinds report' now' hlabel'
      obtain ⟨rfl, -⟩ := Prod.mk.inj (Option.some.inj (hlabel.symm.trans hlabel'))
      exact hfinds
  cases label with
  | delivered receipt now =>
      obtain rfl := Option.some.inj hstep
      rw [hreport (receipt.report now) now rfl]
      exact settled_onlyOwn_iff hown (receipt.report now) now
  | failed failure now =>
      obtain rfl := Option.some.inj hstep
      rw [hreport (failure.report now) now rfl]
      exact settled_onlyOwn_iff hown (failure.report now) now
  | others stores =>
      obtain rfl := Option.some.inj hstep
      refine iff_of_true hown ?_
      intro report now hlabel
      cases hlabel

/-! ## Whole runs -/

/-- **A receipt settles its own loop.** In every run of receipts and failures, from any
stores and with anything else written between them, each loop run is ended by reports on
its own delivery only, if and only if every report finds no other loop run of its Goal
paused for a delivery (that it would reach before it is refused). -/
theorem receipts_settle_own_iff (owner : String → String) (stores : DeliveryStores)
    (labels : List SettleLabel) :
    (∀ n h, settleSystem.run ⟨stores, []⟩ (labels.take n) = some h → h.OnlyOwn owner)
      ↔ settleSystem.Along (FindsOnlyOwn owner) ⟨stores, []⟩ labels := by
  have hstart : SettleHistory.OnlyOwn owner ⟨stores, []⟩ :=
    fun _ _ hmem => absurd hmem List.not_mem_nil
  exact settleSystem.run_good_iff (fun _ _ _ _ _ => trivial)
    (fun _ _ _ _ hown hstep => step_onlyOwn_iff hown hstep)
    (fun h label _ => by cases label <;> exact ⟨_, rfl⟩) trivial hstart labels

/-! ## Two deliveries of one Goal -/

/-- A loop run that is paused for its delivery. -/
def pausedForDelivery (runId goalId : String) : LoopCell :=
  transitionTo (createRun defaultStateGraph runId goalId .pause
    [("action", .str "connector_outbound")] 0) .paused [] 1

def twoDeliveries : DeliveryStores where
  goals := Table.empty.insertOrIgnore (runningGoal "goal" "run")
  loops := (Table.empty.insertOrIgnore (pausedForDelivery "first" "goal")).insertOrIgnore
    (pausedForDelivery "second" "goal")
  runs := Table.empty.insertOrIgnore (runningRun "run")

def firstReceipt : Receipt := ⟨"run", "feishu", "done", 4, 0, "first", none⟩

/-- It ends the second one too. -/
theorem receipt_settles_another_loop :
    ¬ ∀ (stores : DeliveryStores) (labels : List SettleLabel) (h : SettleHistory),
      settleSystem.run ⟨stores, []⟩ labels = some h → h.OnlyOwn id := by
  intro hall
  have hrun : (settleSystem.run ⟨twoDeliveries, []⟩ [.delivered firstReceipt 2]).map
      (fun h => decide (("first", "second") ∈ h.ended)) = some true := by decide +kernel
  obtain ⟨h, hh, hended⟩ := Option.map_eq_some_iff.mp hrun
  have howner := hall twoDeliveries [.delivered firstReceipt 2] h hh "first" "second"
    (of_decide_eq_true hended)
  exact absurd howner (by decide)

end Navi.Delivery
