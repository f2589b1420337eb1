import Navi.Delivery.Outbox
import Navi.Delivery.OwnLoops

/-!
# The projection of delivered batches

`_project_completed_delivery_batches`: each batch of the channel that is fully sent and
not yet projected is reported to `record_delivery` under its own id, and then marked. A
batch whose report raises is not marked, and is listed again in the next pass.
-/

namespace Navi.Delivery

open Navi.Base Navi.Loop Navi.Lifecycle
open Navi.Lifecycle.Control (endedUpdates)

/-! ## The batches -/

/-- A reading of `time.time()`, which is after the epoch. -/
abbrev Reading := { now : Time // 0 < now }

/-- What the projection reads of a `DeliveryItem`; `mediaCount` is that of its receipt.
`projected_at` is zero until a reading of the clock is written to it. -/
structure BatchItem where
  id : String
  batchId : String
  channel : String
  runId : String
  goalId : String
  kind : String
  body : String
  status : DeliveryStatus
  mediaCount : Int
  projectedAt : Time
  projectedAt_nonneg : 0 ≤ projectedAt
  createdAt : Time
  sentAt : Time

/-- The table `delivery_outbox`, by `id`. -/
abbrev BatchTable := Table String BatchItem (·.id)

/-- `ORDER BY batch_id ASC, created_at ASC`. -/
def BatchItem.before (a b : BatchItem) : Prop :=
  a.batchId < b.batchId ∨ (a.batchId = b.batchId ∧ a.createdAt ≤ b.createdAt)

instance : DecidableRel BatchItem.before := fun a b =>
  inferInstanceAs (Decidable (a.batchId < b.batchId ∨ _))

def channelRows (outbox : BatchTable) (channel : String) : List BatchItem :=
  (outbox.rows.filter fun item => item.channel = channel).insertionSort BatchItem.before

def batchItems (outbox : BatchTable) (channel batchId : String) : List BatchItem :=
  (channelRows outbox channel).filter fun item => item.batchId = batchId

/-- Every item of the batch is sent, and none projected. -/
def completeUnprojected (outbox : BatchTable) (channel batchId : String) : Bool :=
  (batchItems outbox channel batchId).all fun item => item.status = .sent ∧ ¬ 0 < item.projectedAt

/-- The ids of the batches that are complete and not projected. -/
def completeIds (outbox : BatchTable) (channel : String) : List String :=
  (((channelRows outbox channel).map (·.batchId)).dedup).filter (completeUnprojected outbox channel)

/-- `complete_unprojected_batches`. -/
def completeUnprojectedBatches (outbox : BatchTable) (channel : String) (limit : Nat) :
    List (String × List BatchItem) :=
  ((completeIds outbox channel).take (max 1 limit)).map fun batchId =>
    (batchId, batchItems outbox channel batchId)

/-- `mark_batch_projected`. -/
def markBatchProjected (outbox : BatchTable) (batchId : String) (now : Reading) : BatchTable :=
  outbox.update (fun item => item.batchId = batchId ∧ item.projectedAt = 0)
    (fun item => { item with projectedAt := now.1, projectedAt_nonneg := le_of_lt now.2 })
    fun _ => rfl

/-! ## The projection -/

/-- The outbox, with the stores that a receipt settles. -/
structure ProjectionStores where
  outbox : BatchTable
  stores : DeliveryStores

/-- What is passed to `record_delivery` for a batch. -/
def batchReceipt (channel batchId : String) (anchor : BatchItem) (items : List BatchItem) :
    Receipt :=
  let text := ((items.find? fun item => item.kind = "text").map (·.body)).getD ""
  { runId := anchor.runId
    channel := channel
    textPreview := String.ofList (text.toList.take 200)
    textLength := text.length
    mediaCount := (items.map (·.mediaCount)).sum
    deliveryId := batchId
    sentAt := some ((items.map (·.sentAt)).foldl max anchor.sentAt) }

/-- The item is of a Goal, and of a Run, and the Goal is there. -/
def belongsToGoal (stores : DeliveryStores) (item : BatchItem) : Bool :=
  item.goalId ≠ "" ∧ item.runId ≠ "" ∧ (stores.goals.get? item.goalId).isSome

/-- The body of the loop of `_project_completed_delivery_batches`; what it raises. -/
def projectBatch (channel : String) (s : ProjectionStores) (batch : String × List BatchItem)
    (now : Reading) : Option StoreError × ProjectionStores :=
  match batch.2 with
  | [] => (none, s)
  | anchor :: _ =>
      let marked := markBatchProjected s.outbox batch.1 now
      if belongsToGoal s.stores anchor then
        let recorded := recordDelivery s.stores (batchReceipt channel batch.1 anchor batch.2) now.1
        match recorded.1 with
        | some error => (some error, { s with stores := recorded.2 })
        | none => (none, ⟨marked, recorded.2⟩)
      else (none, { s with outbox := marked })

/-- One batch after the other. Each raise is recorded as an event. -/
def projectEach (channel : String) (now : Reading) :
    List (String × List BatchItem) → ProjectionStores → List StoreError × ProjectionStores
  | [], s => ([], s)
  | batch :: rest, s =>
      let projected := projectBatch channel s batch now
      let others := projectEach channel now rest projected.2
      (projected.1.toList ++ others.1, others.2)

/-- `_project_completed_delivery_batches`. -/
def projectCompletedDeliveryBatches (channel : String) (s : ProjectionStores) (now : Reading) :
    List StoreError × ProjectionStores :=
  projectEach channel now (completeUnprojectedBatches s.outbox channel 100) s

/-- One pass after the other, each at its reading of the clock. -/
def projectionPasses (channel : String) : List Reading → ProjectionStores →
    List StoreError × ProjectionStores
  | [], s => ([], s)
  | now :: rest, s =>
      let pass := projectCompletedDeliveryBatches channel s now
      let others := projectionPasses channel rest pass.2
      (pass.1 ++ others.1, others.2)

/-! ## What the passes are to do -/

/-- The state of a Goal whose Run succeeded. -/
def succeededGoal : GoalState := ⟨.ended, .none, .accepted, .success⟩

def RunSucceeded (run : Run) : Prop :=
  run.phase = .ended ∧ run.acceptance = .accepted ∧ run.resolution = .success

def BatchProjected (outbox : BatchTable) (channel batchId : String) : Prop :=
  ∀ item ∈ outbox.rows, item.channel = channel → item.batchId = batchId → 0 < item.projectedAt

section

/- The delivery that carries the message of a loop run. -/
variable (owner : String → String)

/-- The Run of a delivered batch, its Goal and the loop runs it carried agree. -/
structure Agree (stores : DeliveryStores) (batchId runId : String) : Prop where
  run : ∃ run, stores.runs.get? runId = some run ∧ RunSucceeded run
  goal : ∀ goal ∈ stores.goals.rows, goal.runId = runId → goal.state = succeededGoal
  loop : ∀ cell ∈ stores.loops.rows, owner cell.run.runId = batchId →
    cell.run.terminalState = some .converged

/-- What a number of passes makes of the batches that were complete: none of them
raises; no Goal that was canceled has become a success; each batch that is projected
agrees with its Run, its Goal and its loop runs; and with enough passes, at a hundred
batches a pass, all of them are. -/
structure ReceiptsSettle (channel : String) (s : ProjectionStores) (readings : List Reading) :
    Prop where
  calm : (projectionPasses channel readings s).1 = []
  kept : ∀ id goal goal', s.stores.goals.get? id = some goal → goal.state.resolution = .canceled →
    (projectionPasses channel readings s).2.stores.goals.get? id = some goal' →
      goal'.state.resolution ≠ .success
  agree : ∀ batchId ∈ completeIds s.outbox channel,
    BatchProjected (projectionPasses channel readings s).2.outbox channel batchId →
      ∀ anchor ∈ (batchItems s.outbox channel batchId).head?, belongsToGoal s.stores anchor = true →
        Agree owner (projectionPasses channel readings s).2.stores batchId anchor.runId
  settled : (completeIds s.outbox channel).length ≤ 100 * readings.length →
    ∀ batchId ∈ completeIds s.outbox channel,
      BatchProjected (projectionPasses channel readings s).2.outbox channel batchId

def NotCanceled (stores : DeliveryStores) (runId : String) : Prop :=
  ∀ goal ∈ stores.goals.rows, goal.runId = runId → goal.state.resolution ≠ .canceled

/-- A delivered batch that `record_delivery` can settle: its Run is there, with one Goal,
which is not canceled; its own loop run, if there is one, has converged or is paused for
a delivery, and no Goal of that loop run's Run is canceled; and the loop runs that it
carried have converged, or are paused for a delivery and are that loop run or of the
Run's Goal. -/
structure Settleable (stores : DeliveryStores) (batchId : String) (anchor : BatchItem) : Prop where
  run : (stores.runs.get? anchor.runId).isSome
  goal : ∃ goal ∈ stores.goals.rows, goal.runId = anchor.runId
  alone : ∀ goal ∈ stores.goals.rows, ∀ other ∈ stores.goals.rows, goal.runId = anchor.runId →
    other.runId = anchor.runId → goal.id = other.id
  live : NotCanceled stores anchor.runId
  own : batchId ≠ "" → refuses stores.loops true batchId = false
  envelope : ∀ cell ∈ stores.loops.get? batchId, ∀ goal ∈ stores.goals.get? cell.run.goalId,
    NotCanceled stores goal.runId
  carried : ∀ cell ∈ stores.loops.rows, owner cell.run.runId = batchId →
    cell.run.terminalState = some .converged ∨ (deliveryPaused cell = true ∧
      ((batchId ≠ "" ∧ cell.run.runId = batchId)
        ∨ ∃ goal ∈ stores.goals.rows, goal.runId = anchor.runId ∧ cell.run.goalId = goal.id))

/-- Every batch of a Goal that the passes will list can be settled. -/
def AllSettleable (channel : String) (s : ProjectionStores) : Prop :=
  ∀ batchId ∈ completeIds s.outbox channel,
    ∀ anchor ∈ (batchItems s.outbox channel batchId).head?,
      belongsToGoal s.stores anchor = true → Settleable owner s.stores batchId anchor

end

/-! ## Progress -/

/-- A Goal stays, or becomes a success that it could become. -/
def GoalStep (goal goal' : Goal) : Prop :=
  goal' = goal ∨ (goal'.id = goal.id ∧ goal'.runId = goal.runId ∧ goal'.state = succeededGoal
    ∧ goal.state.resolution ≠ .canceled)

def RunStep (run run' : Run) : Prop := run' = run ∨ RunSucceeded run'

/-- A loop run stays, or converges from its pause for a delivery. -/
def LoopStep (cell cell' : LoopCell) : Prop :=
  cell' = cell ∨ (deliveryPaused cell = true ∧ cell'.run.runId = cell.run.runId
    ∧ cell'.run.goalId = cell.run.goalId ∧ cell'.run.terminalState = some .converged)

theorem GoalStep.trans {a b c : Goal} (hab : GoalStep a b) (hbc : GoalStep b c) : GoalStep a c := by
  rcases hab with rfl | ⟨hid, hrun, hstate, hlive⟩
  · exact hbc
  rcases hbc with rfl | ⟨hid', hrun', hstate', -⟩
  · exact .inr ⟨hid, hrun, hstate, hlive⟩
  · exact .inr ⟨hid'.trans hid, hrun'.trans hrun, hstate', hlive⟩

theorem RunStep.trans {a b c : Run} (hab : RunStep a b) (hbc : RunStep b c) : RunStep a c := by
  rcases hbc with rfl | hsucceeded
  · exact hab
  · exact .inr hsucceeded

theorem not_deliveryPaused_of_converged {cell : LoopCell}
    (h : cell.run.terminalState = some .converged) : deliveryPaused cell = false := by
  simp [deliveryPaused, h]

theorem LoopStep.trans {a b c : LoopCell} (hab : LoopStep a b) (hbc : LoopStep b c) :
    LoopStep a c := by
  rcases hab with rfl | ⟨hpaused, hid, hgoal, hstate⟩
  · exact hbc
  rcases hbc with rfl | ⟨hpaused', -, -, -⟩
  · exact .inr ⟨hpaused, hid, hgoal, hstate⟩
  · rw [not_deliveryPaused_of_converged hstate] at hpaused'
    cases hpaused'

/-- Every row of the three tables has made such a step. -/
structure Progress (s s' : DeliveryStores) : Prop where
  goals : Table.Related GoalStep s.goals s'.goals
  runs : Table.Related RunStep s.runs s'.runs
  loops : Table.Related LoopStep s.loops s'.loops

theorem Progress.refl (s : DeliveryStores) : Progress s s :=
  ⟨.refl (fun _ => .inl rfl) _, .refl (fun _ => .inl rfl) _, .refl (fun _ => .inl rfl) _⟩

theorem Progress.trans {a b c : DeliveryStores} (hab : Progress a b) (hbc : Progress b c) :
    Progress a c :=
  ⟨hab.goals.trans (fun _ _ _ => GoalStep.trans) hbc.goals,
    hab.runs.trans (fun _ _ _ => RunStep.trans) hbc.runs,
    hab.loops.trans (fun _ _ _ => LoopStep.trans) hbc.loops⟩

section

variable {s s' : DeliveryStores} {runId : String}

theorem Progress.goalBefore (h : Progress s s') {goal' : Goal} (hmem : goal' ∈ s'.goals.rows) :
    ∃ goal ∈ s.goals.rows, goal.id = goal'.id ∧ goal.runId = goal'.runId ∧ GoalStep goal goal' := by
  obtain ⟨goal, hgoal, hstep⟩ := h.goals.before (Table.get?_of_mem hmem)
  obtain ⟨hrow, hid⟩ := Table.get?_eq_some_iff.mp hgoal
  refine ⟨goal, hrow, hid, ?_, hstep⟩
  rcases hstep with rfl | ⟨-, hrun, -⟩
  · rfl
  · exact hrun.symm

theorem Progress.notCanceled (h : Progress s s') (hlive : NotCanceled s runId) :
    NotCanceled s' runId := by
  intro goal' hmem hrunId
  obtain ⟨goal, hrow, -, hrun, hstep⟩ := h.goalBefore hmem
  rcases hstep with rfl | ⟨-, -, hstate, -⟩
  · exact hlive goal' hrow hrunId
  · rw [hstate]
    exact Resolution.noConfusion

theorem Progress.loopBefore (h : Progress s s') {cell' : LoopCell} (hmem : cell' ∈ s'.loops.rows) :
    ∃ cell ∈ s.loops.rows, cell.run.runId = cell'.run.runId ∧ cell.run.goalId = cell'.run.goalId
      ∧ LoopStep cell cell' := by
  obtain ⟨cell, hcell, hstep⟩ := h.loops.before (Table.get?_of_mem hmem)
  obtain ⟨hrow, hid⟩ := Table.get?_eq_some_iff.mp hcell
  refine ⟨cell, hrow, hid, ?_, hstep⟩
  rcases hstep with rfl | ⟨-, -, hgoal, -⟩
  · rfl
  · exact hgoal.symm

theorem Progress.belongsToGoal (h : Progress s s') (item : BatchItem) :
    belongsToGoal s' item = belongsToGoal s item := by
  have hsome : (s'.goals.get? item.goalId).isSome = (s.goals.get? item.goalId).isSome := by
    cases hgoal : s.goals.get? item.goalId with
    | some goal =>
        obtain ⟨goal', hgoal', -⟩ := h.goals.after hgoal
        rw [hgoal']
        rfl
    | none =>
        cases hgoal' : s'.goals.get? item.goalId with
        | none => rfl
        | some goal' =>
            obtain ⟨goal, hfound, -⟩ := h.goals.before hgoal'
            rw [hgoal] at hfound
            cases hfound
  simp only [Delivery.belongsToGoal, hsome]

theorem Progress.refuses (h : Progress s s') (id : String)
    (hopen : refuses s.loops true id = false) :
    refuses s'.loops true id = false := by
  cases hcell' : s'.loops.get? id with
  | none => simp [Delivery.refuses, hcell']
  | some cell' =>
      obtain ⟨cell, hcell, hstep⟩ := h.loops.before hcell'
      have haccepts : acceptsReport true cell = true := by
        simpa [Delivery.refuses, hcell] using hopen
      rcases hstep with rfl | ⟨-, -, -, hstate⟩
      · simpa [Delivery.refuses, hcell'] using haccepts
      · simp [Delivery.refuses, hcell', acceptsReport, deliveryTarget, hstate]

end

section

variable {owner : String → String} {s s' : DeliveryStores} {batchId runId : String}

theorem Progress.agree (h : Progress s s') (hagree : Agree owner s batchId runId) :
    Agree owner s' batchId runId := by
  refine ⟨?_, fun goal' hmem hrunId => ?_, fun cell' hmem hcarried => ?_⟩
  · obtain ⟨run, hrun, hsucceeded⟩ := hagree.run
    obtain ⟨run', hrun', hstep⟩ := h.runs.after hrun
    rcases hstep with rfl | hsucceeded'
    · exact ⟨run', hrun', hsucceeded⟩
    · exact ⟨run', hrun', hsucceeded'⟩
  · obtain ⟨goal, hrow, -, hrun, hstep⟩ := h.goalBefore hmem
    rcases hstep with rfl | ⟨-, -, hstate, -⟩
    · exact hagree.goal goal' hrow hrunId
    · exact hstate
  · obtain ⟨cell, hrow, hid, -, hstep⟩ := h.loopBefore hmem
    rcases hstep with rfl | ⟨-, -, -, hstate⟩
    · exact hagree.loop cell' hrow hcarried
    · exact hstate

theorem Progress.settleable (h : Progress s s') {anchor : BatchItem}
    (hopen : Settleable owner s batchId anchor) : Settleable owner s' batchId anchor := by
  obtain ⟨hrun, ⟨goal, hgoal, hgoalRun⟩, halone, hlive, hown, henvelope, hcarried⟩ := hopen
  refine ⟨?_, ?_, ?_, h.notCanceled hlive, fun hnamed => h.refuses batchId (hown hnamed), ?_, ?_⟩
  · obtain ⟨run, hfound⟩ := Option.isSome_iff_exists.mp hrun
    obtain ⟨run', hrun', -⟩ := h.runs.after hfound
    rw [hrun']
    rfl
  · obtain ⟨goal', hgoal', hstep⟩ := h.goals.after (Table.get?_of_mem hgoal)
    refine ⟨goal', (Table.get?_eq_some_iff.mp hgoal').1, ?_⟩
    rcases hstep with rfl | ⟨-, hsame, -⟩
    · exact hgoalRun
    · exact hsame.trans hgoalRun
  · intro first hfirst second hsecond hfirstRun hsecondRun
    obtain ⟨first₀, hrow, hid, hrunId, -⟩ := h.goalBefore hfirst
    obtain ⟨second₀, hrow', hid', hrunId', -⟩ := h.goalBefore hsecond
    have hsame := halone first₀ hrow second₀ hrow' (hrunId.trans hfirstRun)
      (hrunId'.trans hsecondRun)
    rw [← hid, ← hid', hsame]
  · intro cell' hcell' goal' hgoal'
    obtain ⟨cell, hcell, hcellStep⟩ := h.loops.before hcell'
    have hgoalId : cell.run.goalId = cell'.run.goalId := by
      rcases hcellStep with rfl | ⟨-, -, hsame, -⟩
      · rfl
      · exact hsame.symm
    obtain ⟨goal, hfound, hgoalStep⟩ := h.goals.before hgoal'
    have hrunId : goal.runId = goal'.runId := by
      rcases hgoalStep with rfl | ⟨-, hsame, -⟩
      · rfl
      · exact hsame.symm
    rw [← hrunId]
    exact h.notCanceled (henvelope cell hcell goal (hgoalId ▸ hfound))
  · intro cell' hmem hcarries
    obtain ⟨cell, hrow, hid, hgoalId, hstep⟩ := h.loopBefore hmem
    rcases hstep with rfl | ⟨-, -, -, hstate⟩
    · refine (hcarried cell' hrow hcarries).imp_right fun ⟨hpaused, hof⟩ => ⟨hpaused, ?_⟩
      refine hof.imp_right ?_
      rintro ⟨of, hofRow, hofRun, hofGoal⟩
      obtain ⟨of', hof', hofStep⟩ := h.goals.after (Table.get?_of_mem hofRow)
      refine ⟨of', (Table.get?_eq_some_iff.mp hof').1, ?_, ?_⟩
      · rcases hofStep with rfl | ⟨-, hsame, -⟩
        · exact hofRun
        · exact hsame.trans hofRun
      · rw [hofGoal]
        exact ((Table.get?_eq_some_iff.mp hof').2).symm
    · exact .inl hstate

end

/-! ## One receipt -/

theorem succeeded_of_updates {run : Run} {updates : RunUpdates} {summary : String} {now : Time}
    (h : updates = endedUpdates .accepted .success summary "") :
    RunSucceeded (mergeRunUpdates run updates now)
      ∧ goalStateForRun (mergeRunUpdates run updates now) = succeededGoal := by
  subst h
  exact ⟨⟨rfl, rfl, rfl⟩, rfl⟩

section

variable {s : DeliveryStores} {runId : String} {updates : Run → RunUpdates} {evidence : Dict}
  {now : Time}

theorem projectRun_progress
    (hsuccess : ∀ run, ∃ summary, updates run = endedUpdates .accepted .success summary "")
    (hlive : NotCanceled s runId) : Progress s (projectRun s runId updates evidence now) := by
  unfold projectRun
  split
  · exact .refl s
  next run hrun =>
    have hid : run.id = runId := (Table.get?_eq_some_iff.mp hrun).2
    obtain ⟨summary, hupdates⟩ := hsuccess run
    obtain ⟨hsucceeded, hstate⟩ := @succeeded_of_updates run _ summary now hupdates
    have hruns : Table.Related RunStep s.runs
        (s.runs.replace (mergeRunUpdates run (updates run) now)) :=
      Table.related_replace (fun _ => .inl rfl)
        (show s.runs.get? run.id = some run from hid ▸ hrun) (.inr hsucceeded)
    dsimp only
    split
    · exact ⟨.refl (fun _ => .inl rfl) _, hruns, .refl (fun _ => .inl rfl) _⟩
    next goal hgoal =>
      obtain ⟨hrow, hgoalRun⟩ := mem_of_getByRun hgoal
      have hstep : GoalStep goal
          (updateForRun goal (mergeRunUpdates run (updates run) now) evidence now) :=
        .inr ⟨rfl, rfl, hstate, hlive goal hrow (hgoalRun.trans hid)⟩
      have hgoals : Table.Related GoalStep s.goals (s.goals.replace
          (updateForRun goal (mergeRunUpdates run (updates run) now) evidence now)) :=
        Table.related_replace (fun _ => .inl rfl)
          (show s.goals.get? goal.id = some goal from Table.get?_of_mem hrow) hstep
      exact ⟨hgoals, hruns, .refl (fun _ => .inl rfl) _⟩

theorem projectRun_succeeds
    (hsuccess : ∀ run, ∃ summary, updates run = endedUpdates .accepted .success summary "")
    (hrun : (s.runs.get? runId).isSome) (hgoal : ∃ goal ∈ s.goals.rows, goal.runId = runId) :
    (∃ run, (projectRun s runId updates evidence now).runs.get? runId = some run
        ∧ RunSucceeded run)
      ∧ ∃ goal ∈ (projectRun s runId updates evidence now).goals.rows, goal.runId = runId
        ∧ goal.state = succeededGoal := by
  obtain ⟨run, hfound⟩ := Option.isSome_iff_exists.mp hrun
  have hid : run.id = runId := (Table.get?_eq_some_iff.mp hfound).2
  obtain ⟨summary, hupdates⟩ := hsuccess run
  obtain ⟨hsucceeded, hstate⟩ := @succeeded_of_updates run _ summary now hupdates
  obtain ⟨goal, hgoalFound⟩ := getByRun_isSome (hid ▸ hgoal)
  obtain ⟨hrow, hgoalRun⟩ := mem_of_getByRun hgoalFound
  have hprojected : projectRun s runId updates evidence now = { s with
      runs := s.runs.replace (mergeRunUpdates run (updates run) now)
      goals := s.goals.replace
        (updateForRun goal (mergeRunUpdates run (updates run) now) evidence now) } := by
    unfold projectRun
    rw [hfound]
    simp only [hgoalFound]
  rw [hprojected]
  constructor
  · refine ⟨mergeRunUpdates run (updates run) now, ?_, hsucceeded⟩
    rw [Table.get?_replace, hfound, Option.map_some]
    exact congrArg some (if_pos hid)
  · refine ⟨updateForRun goal (mergeRunUpdates run (updates run) now) evidence now, ?_,
      hgoalRun.trans hid, hstate⟩
    refine (Table.get?_eq_some_iff (k := goal.id)).mp ?_ |>.1
    rw [Table.get?_replace, Table.get?_of_mem hrow, Option.map_some]
    exact congrArg some (if_pos rfl)

theorem settleDeliveryEnvelopeGoal_progress {goalId : String}
    (hlive : ∀ goal ∈ s.goals.get? goalId, NotCanceled s goal.runId) :
    Progress s (settleDeliveryEnvelopeGoal s goalId true evidence now) := by
  unfold settleDeliveryEnvelopeGoal
  split
  · exact .refl s
  next goal hgoal =>
    split
    · exact .refl s
    · exact projectRun_progress (fun run => ⟨run.resultSummary, rfl⟩) (hlive goal hgoal)

theorem afterCompletion_progress {goalId head : String} {cell : LoopCell}
    (hcell : s.loops.get? head = some cell)
    (hlive : cell.run.goalId ≠ goalId →
      ∀ goal ∈ s.goals.get? cell.run.goalId, NotCanceled s goal.runId) :
    Progress s (afterCompletion s goalId (completedDelivery true evidence now cell) true evidence
      now) := by
  have hstep : LoopStep cell (completedDelivery true evidence now cell) := by
    unfold completedDelivery
    by_cases hpaused : deliveryPaused cell = true
    · rw [if_pos hpaused]
      exact .inr ⟨hpaused, rfl, rfl, rfl⟩
    · rw [if_neg hpaused]
      exact .inl rfl
  have hid : (completedDelivery true evidence now cell).run.runId = head := by
    rw [completedDelivery_runId]
    exact (Table.get?_eq_some_iff.mp hcell).2
  have hgoalId : (completedDelivery true evidence now cell).run.goalId = cell.run.goalId := by
    unfold completedDelivery
    split <;> rfl
  have hloops : Progress s { s with
      loops := s.loops.replace (completedDelivery true evidence now cell) } :=
    ⟨.refl (fun _ => .inl rfl) _, .refl (fun _ => .inl rfl) _,
      Table.related_replace (fun _ => .inl rfl) (hid ▸ hcell) hstep⟩
  unfold afterCompletion
  dsimp only
  split
  next hother =>
    rw [hgoalId] at hother
    refine hloops.trans (settleDeliveryEnvelopeGoal_progress fun goal hgoal => ?_)
    rw [hgoalId] at hgoal
    exact hloops.notCanceled (hlive hother goal hgoal)
  next => exact hloops

theorem completeEach_progress {goalId : String} {ids : List String}
    (hlive : ∀ id ∈ ids, ∀ cell ∈ s.loops.get? id, cell.run.goalId ≠ goalId →
      ∀ goal ∈ s.goals.get? cell.run.goalId, NotCanceled s goal.runId) :
    Progress s (completeEach goalId true evidence now ids s).2 := by
  induction ids generalizing s with
  | nil => exact .refl s
  | cons head rest ih =>
      unfold completeEach
      cases hcell : s.loops.get? head with
      | none => exact ih fun id hmem => hlive id (List.mem_cons_of_mem head hmem)
      | some cell =>
          dsimp only
          by_cases haccepts : acceptsReport true cell = true
          · rw [completeExternalDelivery_eq haccepts]
            dsimp only
            have hfirst := @afterCompletion_progress s evidence now goalId head cell hcell
              (hlive head List.mem_cons_self cell hcell)
            refine hfirst.trans (ih fun id hmem cell' hcell' hother goal' hgoal' => ?_)
            obtain ⟨before, hbefore, hcellStep⟩ := hfirst.loops.before hcell'
            have hgoalId : cell'.run.goalId = before.run.goalId := by
              rcases hcellStep with rfl | ⟨-, -, hsame, -⟩
              · rfl
              · exact hsame
            rw [hgoalId] at hother hgoal'
            obtain ⟨goal, hgoal, hgoalStep⟩ := hfirst.goals.before hgoal'
            have hrunId : goal'.runId = goal.runId := by
              rcases hgoalStep with rfl | ⟨-, hsame, -⟩
              · rfl
              · exact hsame
            rw [hrunId]
            exact hfirst.notCanceled
              (hlive id (List.mem_cons_of_mem head hmem) before hbefore hother goal hgoal)
          · obtain ⟨error, herror⟩ := completeExternalDelivery_error evidence now
              (Bool.not_eq_true _ ▸ haccepts)
            rw [herror]
            exact .refl s

end

theorem recordDelivery_settles {owner : String → String} {s : DeliveryStores} {anchor : BatchItem}
    {receipt : Receipt} (h : Settleable owner s receipt.deliveryId anchor)
    (hrunId : receipt.runId = anchor.runId) (now : Time) :
    (recordDelivery s receipt now).1 = none
      ∧ Progress s (recordDelivery s receipt now).2
      ∧ Agree owner (recordDelivery s receipt now).2 receipt.deliveryId anchor.runId := by
  obtain ⟨goal, hgoal⟩ := getByRun_isSome h.goal
  obtain ⟨hgoalRow, hgoalRun⟩ := mem_of_getByRun hgoal
  have hsorted := candidateIds_sorted s.loops goal.id receipt.deliveryId
  obtain ⟨hraises, hloops⟩ := @completeEach_spec goal.id true
    ((receipt.report now).evidence goal.id) now _ hsorted s
  have hopen : ∀ id ∈ candidateIds s.loops goal.id receipt.deliveryId,
      refuses s.loops true id = false := by
    intro id hmem
    by_contra hrefuses
    obtain ⟨hnamed, rfl⟩ := refusing_candidate hmem (Bool.not_eq_false _ ▸ hrefuses)
    exact hrefuses (h.own hnamed)
  have hcompleted : Progress s (completeDeliveryLoops s goal.id receipt.deliveryId true
      ((receipt.report now).evidence goal.id) now).2 := by
    refine completeEach_progress fun id hmem cell hcell hother found hfound => ?_
    rcases mem_candidateIds.mp hmem with ⟨-, rfl⟩ | ⟨cell', hcell', hsame, -⟩
    · exact h.envelope cell hcell found hfound
    · obtain rfl := Option.some.inj (hcell.symm.trans hcell')
      exact absurd hsame hother
  have hsuccess : ∀ run, ∃ summary, (receipt.report now).updates run
      = endedUpdates .accepted .success summary "" := fun run => ⟨_, rfl⟩
  have hrecorded : recordDelivery s receipt now
      = (none, projectRun (completeDeliveryLoops s goal.id receipt.deliveryId true
          ((receipt.report now).evidence goal.id) now).2 anchor.runId (receipt.report now).updates
          ((receipt.report now).evidence goal.id) now) := by
    have hnone : (completeDeliveryLoops s goal.id receipt.deliveryId true
        ((receipt.report now).evidence goal.id) now).1 = none := hraises.mpr hopen
    have hreported : (receipt.report now).runId = anchor.runId := hrunId
    unfold recordDelivery settleReport
    rw [hreported, hgoal]
    dsimp only
    rw [show (receipt.report now).deliveryId = receipt.deliveryId from rfl,
      show (receipt.report now).success = true from rfl, hnone]
  have hafter := hcompleted.settleable h
  have hprojected := @projectRun_progress _ _ _ ((receipt.report now).evidence goal.id) now
    hsuccess hafter.live
  obtain ⟨hrun, hgoalAfter⟩ := @projectRun_succeeds _ _ _
    ((receipt.report now).evidence goal.id) now hsuccess hafter.run hafter.goal
  have hwhole := hcompleted.trans hprojected
  rw [hrecorded]
  refine ⟨rfl, hwhole, hrun, fun goal' hmem hrunId' => ?_, fun cell' hmem hcarried => ?_⟩
  · -- the Run has one Goal, so it is the one that was written
    obtain ⟨written, hrow, hwrittenRun, hstate⟩ := hgoalAfter
    have hids := (hwhole.settleable h).alone goal' hmem written hrow hrunId' hwrittenRun
    rw [Table.eq_of_key hmem hrow hids]
    exact hstate
  · rw [projectRun_loops] at hmem
    have hcell' := Table.get?_of_mem hmem
    rw [completeDeliveryLoops, hloops] at hcell'
    split at hcell'
    next =>
      obtain ⟨cell, hcell, rfl⟩ := Option.map_eq_some_iff.mp hcell'
      obtain ⟨hrow, -⟩ := Table.get?_eq_some_iff.mp hcell
      rw [completedDelivery_runId] at hcarried
      rcases h.carried cell hrow hcarried with hconverged | ⟨hpaused, -⟩
      · rw [completedDelivery, not_deliveryPaused_of_converged hconverged]
        exact hconverged
      · rw [completedDelivery, if_pos hpaused]
        rfl
    next hunreached =>
      obtain ⟨hrow, -⟩ := Table.get?_eq_some_iff.mp hcell'
      rcases h.carried cell' hrow hcarried with hconverged | ⟨hpaused, hof⟩
      · exact hconverged
      · refine absurd ⟨?_, fun other hother hrefuses => ?_⟩ hunreached
        · refine mem_candidateIds.mpr ?_
          rcases hof with hown | ⟨of, hofRow, hofRun, hofGoal⟩
          · exact .inl hown
          · have hsame : of.id = goal.id :=
              h.alone of hofRow goal hgoalRow hofRun hgoalRun
            exact .inr ⟨cell', hcell', hofGoal.trans hsame, hpaused⟩
        · rw [hopen other hother] at hrefuses
          cases hrefuses

/-! ## Marked batches -/

/-- What the mark of a batch does to an item. -/
def markItem (batchId : String) (now : Reading) (item : BatchItem) : BatchItem :=
  if item.batchId = batchId ∧ item.projectedAt = 0 then
    { item with projectedAt := now.1, projectedAt_nonneg := le_of_lt now.2 }
  else item

section

variable {outbox : BatchTable} {channel batchId : String} {now : Reading}

@[simp] theorem markItem_batchId (item : BatchItem) :
    (markItem batchId now item).batchId = item.batchId := by
  unfold markItem
  split <;> rfl

@[simp] theorem markItem_channel (item : BatchItem) :
    (markItem batchId now item).channel = item.channel := by
  unfold markItem
  split <;> rfl

@[simp] theorem markItem_createdAt (item : BatchItem) :
    (markItem batchId now item).createdAt = item.createdAt := by
  unfold markItem
  split <;> rfl

theorem markItem_of_ne {item : BatchItem} (h : item.batchId ≠ batchId) :
    markItem batchId now item = item := if_neg fun hguard => h hguard.1

theorem markItem_projectedAt (item : BatchItem) :
    (item.batchId = batchId → 0 < (markItem batchId now item).projectedAt)
      ∧ (0 < item.projectedAt → 0 < (markItem batchId now item).projectedAt) := by
  unfold markItem
  by_cases hzero : item.projectedAt = 0
  · refine ⟨fun hbatch => ?_, fun hprojected => absurd hzero (ne_of_gt hprojected)⟩
    rw [if_pos ⟨hbatch, hzero⟩]
    exact now.2
  · have hprojected : 0 < item.projectedAt :=
      lt_of_le_of_ne item.projectedAt_nonneg (Ne.symm hzero)
    rw [if_neg fun hguard => hzero hguard.2]
    exact ⟨fun _ => hprojected, fun _ => hprojected⟩

theorem markBatchProjected_rows :
    (markBatchProjected outbox batchId now).rows = outbox.rows.map (markItem batchId now) := by
  refine List.map_congr_left fun item _ => ?_
  simp only [markItem, decide_eq_true_eq]

theorem channelRows_mark : channelRows (markBatchProjected outbox batchId now) channel
    = (channelRows outbox channel).map (markItem batchId now) := by
  unfold channelRows
  rw [markBatchProjected_rows, List.filter_map,
    List.map_insertionSort BatchItem.before BatchItem.before]
  · simp only [Function.comp_def, markItem_channel]
  · intro a _ b _
    simp only [BatchItem.before, markItem_batchId, markItem_createdAt]

theorem batchItems_mark (other : String) :
    batchItems (markBatchProjected outbox batchId now) channel other
      = (batchItems outbox channel other).map (markItem batchId now) := by
  unfold batchItems
  rw [channelRows_mark, List.filter_map]
  simp only [Function.comp_def, markItem_batchId]

theorem batchItems_mark_of_ne {other : String} (hother : other ≠ batchId) :
    batchItems (markBatchProjected outbox batchId now) channel other
      = batchItems outbox channel other := by
  rw [batchItems_mark]
  refine (List.map_congr_left fun item hmem => ?_).trans (List.map_id _)
  have hbatch : item.batchId = other := of_decide_eq_true (List.mem_filter.mp hmem).2
  exact markItem_of_ne (hbatch.trans_ne hother)

theorem batchItems_ne_nil {other : String}
    (hmem : other ∈ ((channelRows outbox channel).map (·.batchId)).dedup) :
    batchItems outbox channel other ≠ [] := by
  obtain ⟨item, hitem, rfl⟩ := List.mem_map.mp (List.mem_dedup.mp hmem)
  exact List.ne_nil_of_mem (List.mem_filter.mpr ⟨hitem, decide_eq_true rfl⟩)

theorem completeIds_mark : completeIds (markBatchProjected outbox batchId now) channel
    = (completeIds outbox channel).filter (· ≠ batchId) := by
  unfold completeIds
  have hids : (channelRows (markBatchProjected outbox batchId now) channel).map (·.batchId)
      = (channelRows outbox channel).map (·.batchId) := by
    rw [channelRows_mark, List.map_map]
    exact List.map_congr_left fun item _ => markItem_batchId item
  rw [hids, List.filter_filter]
  refine List.filter_congr fun other hmem => ?_
  by_cases hother : other = batchId
  · subst hother
    obtain ⟨item, hitem⟩ := List.exists_mem_of_ne_nil _ (batchItems_ne_nil hmem)
    have hbatch : item.batchId = other := of_decide_eq_true (List.mem_filter.mp hitem).2
    have hlisted : completeUnprojected (markBatchProjected outbox other now) channel other
        = false := by
      unfold completeUnprojected
      rw [batchItems_mark, List.all_eq_false]
      refine ⟨markItem other now item, List.mem_map.mpr ⟨item, hitem, rfl⟩, ?_⟩
      simp only [decide_eq_true_eq, not_and, not_not]
      exact fun _ => (markItem_projectedAt item).1 hbatch
    simp [hlisted]
  · simp only [completeUnprojected, batchItems_mark_of_ne hother, ne_eq, hother, not_false_eq_true,
      decide_true, Bool.true_and]

theorem completeIds_nodup (outbox : BatchTable) (channel : String) :
    (completeIds outbox channel).Nodup := (List.nodup_dedup _).filter _

theorem BatchProjected.mark {other : String} (h : BatchProjected outbox channel other) :
    BatchProjected (markBatchProjected outbox batchId now) channel other := by
  intro item' hmem hchannel hbatch
  rw [markBatchProjected_rows] at hmem
  obtain ⟨item, hrow, rfl⟩ := List.mem_map.mp hmem
  rw [markItem_channel] at hchannel
  rw [markItem_batchId] at hbatch
  exact (markItem_projectedAt item).2 (h item hrow hchannel hbatch)

theorem batchProjected_mark :
    BatchProjected (markBatchProjected outbox batchId now) channel batchId := by
  intro item' hmem _ hbatch
  rw [markBatchProjected_rows] at hmem
  obtain ⟨item, -, rfl⟩ := List.mem_map.mp hmem
  rw [markItem_batchId] at hbatch
  exact (markItem_projectedAt item).1 hbatch

def markAll (outbox : BatchTable) (ids : List String) (now : Reading) : BatchTable :=
  ids.foldl (fun outbox batchId => markBatchProjected outbox batchId now) outbox

theorem markAll_spec (ids : List String) (outbox : BatchTable) :
    completeIds (markAll outbox ids now) channel
        = (completeIds outbox channel).filter (· ∉ ids)
      ∧ (∀ other, other ∉ ids →
        batchItems (markAll outbox ids now) channel other = batchItems outbox channel other)
      ∧ (∀ other, BatchProjected outbox channel other →
        BatchProjected (markAll outbox ids now) channel other)
      ∧ ∀ other ∈ ids, BatchProjected (markAll outbox ids now) channel other := by
  induction ids generalizing outbox with
  | nil => simp [markAll]
  | cons head rest ih =>
      obtain ⟨hlisted, hitems, hkeeps, hmarks⟩ := ih (markBatchProjected outbox head now)
      refine ⟨?_, fun other hother => ?_, fun other hprojected => hkeeps other hprojected.mark,
        fun other hmem => ?_⟩
      · rw [markAll, List.foldl_cons, ← markAll, hlisted, completeIds_mark, List.filter_filter]
        refine List.filter_congr fun other _ => ?_
        simp only [List.mem_cons, not_or, ne_eq, Bool.decide_and, Bool.and_comm]
      · obtain ⟨hhead, hrest⟩ := not_or.mp (List.mem_cons.not.mp hother)
        rw [markAll, List.foldl_cons, ← markAll, hitems other hrest, batchItems_mark_of_ne hhead]
      · rcases List.mem_cons.mp hmem with rfl | hmem
        · exact hkeeps other batchProjected_mark
        · exact hmarks other hmem

end

/-! ## One pass -/

section

variable {owner : String → String} {channel : String} {s : ProjectionStores}

theorem projectBatch_settles {batchId : String} {anchor : BatchItem} {items : List BatchItem}
    (hopen : belongsToGoal s.stores anchor = true → Settleable owner s.stores batchId anchor)
    (now : Reading) :
    (projectBatch channel s (batchId, anchor :: items) now).1 = none
      ∧ Progress s.stores (projectBatch channel s (batchId, anchor :: items) now).2.stores
      ∧ (projectBatch channel s (batchId, anchor :: items) now).2.outbox
        = markBatchProjected s.outbox batchId now
      ∧ (belongsToGoal s.stores anchor = true →
        Agree owner (projectBatch channel s (batchId, anchor :: items) now).2.stores batchId
          anchor.runId) := by
  unfold projectBatch
  by_cases hbelongs : belongsToGoal s.stores anchor = true
  · obtain ⟨hreturns, hprogress, hagree⟩ := @recordDelivery_settles _ _ _
      (batchReceipt channel batchId anchor (anchor :: items)) (hopen hbelongs) rfl now.1
    simp only [hbelongs, if_true, hreturns]
    exact ⟨trivial, hprogress, trivial, fun _ => hagree⟩
  · simp only [hbelongs]
    exact ⟨rfl, .refl s.stores, rfl, fun hfalse => absurd hfalse Bool.false_ne_true⟩

/-- The items of a batch, its first one the anchor, which can be settled. -/
def BatchOpen (owner : String → String) (stores : DeliveryStores)
    (batch : String × List BatchItem) : Prop :=
  ∃ anchor items, batch.2 = anchor :: items
    ∧ (belongsToGoal stores anchor = true → Settleable owner stores batch.1 anchor)

theorem projectEach_settles {batches : List (String × List BatchItem)}
    (hopen : ∀ batch ∈ batches, BatchOpen owner s.stores batch) (now : Reading) :
    (projectEach channel now batches s).1 = []
      ∧ Progress s.stores (projectEach channel now batches s).2.stores
      ∧ (projectEach channel now batches s).2.outbox
        = markAll s.outbox (batches.map (·.1)) now
      ∧ ∀ batch ∈ batches, ∀ anchor ∈ batch.2.head?, belongsToGoal s.stores anchor = true →
        Agree owner (projectEach channel now batches s).2.stores batch.1 anchor.runId := by
  induction batches generalizing s with
  | nil => exact ⟨rfl, .refl s.stores, rfl, fun _ hmem => absurd hmem List.not_mem_nil⟩
  | cons batch rest ih =>
      obtain ⟨batchId, listed⟩ := batch
      obtain ⟨anchor, items, hitems, hsettleable⟩ := hopen (batchId, listed) List.mem_cons_self
      obtain rfl : listed = anchor :: items := hitems
      obtain ⟨hreturns, hprogress, houtbox, hagree⟩ :=
        @projectBatch_settles owner channel s batchId anchor items hsettleable now
      have hrest : ∀ batch ∈ rest, BatchOpen owner
          (projectBatch channel s (batchId, anchor :: items) now).2.stores batch := by
        intro batch hmem
        obtain ⟨first, others, hbatch, hfirst⟩ := hopen batch (List.mem_cons_of_mem _ hmem)
        refine ⟨first, others, hbatch, fun hbelongs => hprogress.settleable (hfirst ?_)⟩
        rw [← hprogress.belongsToGoal]
        exact hbelongs
      obtain ⟨hcalm, hprogress', houtbox', hagree'⟩ := ih hrest
      unfold projectEach
      dsimp only
      refine ⟨?_, hprogress.trans hprogress', ?_, fun other hmem first hfirst hbelongs => ?_⟩
      · rw [hreturns, hcalm]
        rfl
      · rw [houtbox', houtbox]
        rfl
      · rcases List.mem_cons.mp hmem with rfl | hmem
        · obtain rfl := Option.some.inj hfirst
          exact hprogress'.agree (hagree hbelongs)
        · refine hagree' other hmem first hfirst ?_
          rw [hprogress.belongsToGoal]
          exact hbelongs

/-- The ids of the batches that a pass lists. -/
def listedIds (channel : String) (s : ProjectionStores) : List String :=
  (completeIds s.outbox channel).take 100

/-- What a pass does when every batch can be settled: it raises nothing, settles and marks
the batches it lists, and leaves the rest to the passes after it. -/
structure Passed (owner : String → String) (channel : String) (s s' : ProjectionStores) :
    Prop where
  progress : Progress s.stores s'.stores
  left : completeIds s'.outbox channel = (completeIds s.outbox channel).drop 100
  items : ∀ batchId, batchId ∉ listedIds channel s →
    batchItems s'.outbox channel batchId = batchItems s.outbox channel batchId
  keeps : ∀ batchId, BatchProjected s.outbox channel batchId →
    BatchProjected s'.outbox channel batchId
  marks : ∀ batchId ∈ listedIds channel s, BatchProjected s'.outbox channel batchId
  agree : ∀ batchId ∈ listedIds channel s, ∀ anchor ∈ (batchItems s.outbox channel batchId).head?,
    belongsToGoal s.stores anchor = true → Agree owner s'.stores batchId anchor.runId

theorem filter_not_mem_take {l : List String} (hnodup : l.Nodup) (n : Nat) :
    l.filter (· ∉ l.take n) = l.drop n := by
  have hsplit : (l.take n ++ l.drop n).Nodup := by rwa [List.take_append_drop]
  have hdisjoint := List.disjoint_of_nodup_append hsplit
  conv_lhs => rw [← List.take_append_drop n l]
  rw [List.filter_append, List.take_append_drop, List.filter_eq_nil_iff.mpr, List.nil_append,
    List.filter_eq_self.mpr]
  · intro id hmem
    exact decide_eq_true fun htaken => hdisjoint htaken hmem
  · intro id hmem
    simpa using hmem

theorem anchor_of_listed {batchId : String} (hmem : batchId ∈ completeIds s.outbox channel) :
    ∃ anchor items, batchItems s.outbox channel batchId = anchor :: items := by
  have hne := batchItems_ne_nil (List.mem_filter.mp hmem).1
  exact List.exists_cons_of_ne_nil hne

theorem projectCompletedDeliveryBatches_passes (hopen : AllSettleable owner channel s)
    (now : Reading) :
    (projectCompletedDeliveryBatches channel s now).1 = []
      ∧ Passed owner channel s (projectCompletedDeliveryBatches channel s now).2 := by
  have hbatches : ∀ batch ∈ completeUnprojectedBatches s.outbox channel 100,
      BatchOpen owner s.stores batch := by
    intro batch hmem
    obtain ⟨batchId, hlisted, rfl⟩ := List.mem_map.mp hmem
    have hcomplete := List.mem_of_mem_take hlisted
    obtain ⟨anchor, items, hitems⟩ := anchor_of_listed hcomplete
    refine ⟨anchor, items, hitems, hopen batchId hcomplete anchor ?_⟩
    rw [hitems]
    rfl
  have hids : (completeUnprojectedBatches s.outbox channel 100).map (·.1)
      = listedIds channel s := by
    unfold completeUnprojectedBatches listedIds
    rw [List.map_map]
    exact List.map_id _
  obtain ⟨hcalm, hprogress, houtbox, hagree⟩ := projectEach_settles hbatches now
  rw [hids] at houtbox
  obtain ⟨hlisted, hitems, hkeeps, hmarks⟩ :=
    @markAll_spec channel now (listedIds channel s) s.outbox
  refine ⟨hcalm, hprogress, ?_, ?_, ?_, ?_, fun batchId hmem anchor hanchor hbelongs => ?_⟩
  · unfold projectCompletedDeliveryBatches
    rw [houtbox, hlisted]
    exact filter_not_mem_take (completeIds_nodup s.outbox channel) 100
  · unfold projectCompletedDeliveryBatches
    rw [houtbox]
    exact hitems
  · unfold projectCompletedDeliveryBatches
    rw [houtbox]
    exact hkeeps
  · unfold projectCompletedDeliveryBatches
    rw [houtbox]
    exact hmarks
  · exact hagree (batchId, batchItems s.outbox channel batchId)
      (List.mem_map.mpr ⟨batchId, hmem, rfl⟩) anchor hanchor hbelongs

end

/-! ## Any number of passes -/

section

variable {owner : String → String} {channel : String} {s s' : ProjectionStores}

theorem Passed.unlisted (h : Passed owner channel s s') {batchId : String}
    (hmem : batchId ∈ completeIds s'.outbox channel) :
    batchId ∈ completeIds s.outbox channel ∧ batchId ∉ listedIds channel s := by
  rw [h.left] at hmem
  have hnodup := completeIds_nodup s.outbox channel
  rw [← List.take_append_drop 100 (completeIds s.outbox channel)] at hnodup
  exact ⟨List.mem_of_mem_drop hmem,
    fun hlisted => List.disjoint_of_nodup_append hnodup hlisted hmem⟩

theorem Passed.settleable (h : Passed owner channel s s') (hopen : AllSettleable owner channel s) :
    AllSettleable owner channel s' := by
  intro batchId hmem anchor hanchor hbelongs
  obtain ⟨hcomplete, hunlisted⟩ := h.unlisted hmem
  rw [h.items batchId hunlisted] at hanchor
  rw [h.progress.belongsToGoal] at hbelongs
  exact h.progress.settleable (hopen batchId hcomplete anchor hanchor hbelongs)

theorem listed_or_left (h : Passed owner channel s s') {batchId : String}
    (hmem : batchId ∈ completeIds s.outbox channel) :
    batchId ∈ listedIds channel s ∨ batchId ∈ completeIds s'.outbox channel := by
  rw [h.left, ← List.mem_append]
  rwa [listedIds, List.take_append_drop]

theorem not_projected_of_complete {batchId : String}
    (hmem : batchId ∈ completeIds s.outbox channel) :
    ¬ BatchProjected s.outbox channel batchId := by
  intro hprojected
  obtain ⟨anchor, items, hitems⟩ := anchor_of_listed hmem
  have hanchor : anchor ∈ batchItems s.outbox channel batchId := by
    rw [hitems]
    exact List.mem_cons_self
  have hunprojected := List.all_eq_true.mp (List.mem_filter.mp hmem).2 anchor hanchor
  obtain ⟨hrow, hbatch⟩ := List.mem_filter.mp hanchor
  obtain ⟨hrow, hchannel⟩ := List.mem_filter.mp ((List.mem_insertionSort _).mp hrow)
  exact (of_decide_eq_true hunprojected).2
    (hprojected anchor hrow (of_decide_eq_true hchannel) (of_decide_eq_true hbatch))

theorem projectionPasses_progress (hopen : AllSettleable owner channel s)
    (readings : List Reading) :
    (projectionPasses channel readings s).1 = []
      ∧ Progress s.stores (projectionPasses channel readings s).2.stores
      ∧ ∀ batchId, BatchProjected s.outbox channel batchId →
        BatchProjected (projectionPasses channel readings s).2.outbox channel batchId := by
  induction readings generalizing s with
  | nil => exact ⟨rfl, .refl s.stores, fun _ hprojected => hprojected⟩
  | cons now rest ih =>
      obtain ⟨hcalm, hpassed⟩ := projectCompletedDeliveryBatches_passes hopen now
      obtain ⟨hcalm', hprogress', hkeeps'⟩ := ih (hpassed.settleable hopen)
      unfold projectionPasses
      refine ⟨?_, hpassed.progress.trans hprogress',
        fun batchId hprojected => hkeeps' batchId (hpassed.keeps batchId hprojected)⟩
      dsimp only
      rw [hcalm, hcalm']
      rfl

theorem Progress.canceled {s s' : DeliveryStores} (h : Progress s s') {id : String}
    {goal goal' : Goal} (hgoal : s.goals.get? id = some goal)
    (hcanceled : goal.state.resolution = .canceled) (hgoal' : s'.goals.get? id = some goal') :
    goal' = goal := by
  obtain ⟨found, hfound, hstep⟩ := h.goals.after hgoal
  obtain rfl := Option.some.inj (hgoal'.symm.trans hfound)
  rcases hstep with hsame | ⟨-, -, -, hlive⟩
  · exact hsame
  · exact absurd hcanceled hlive

theorem projectionPasses_agree (hopen : AllSettleable owner channel s) (readings : List Reading)
    {batchId : String} (hmem : batchId ∈ completeIds s.outbox channel)
    (hprojected : BatchProjected (projectionPasses channel readings s).2.outbox channel batchId)
    {anchor : BatchItem} (hanchor : anchor ∈ (batchItems s.outbox channel batchId).head?)
    (hbelongs : belongsToGoal s.stores anchor = true) :
    Agree owner (projectionPasses channel readings s).2.stores batchId anchor.runId := by
  induction readings generalizing s with
  | nil => exact absurd hprojected (not_projected_of_complete hmem)
  | cons now rest ih =>
      obtain ⟨-, hpassed⟩ := projectCompletedDeliveryBatches_passes hopen now
      have hopen' := hpassed.settleable hopen
      by_cases hlisted : batchId ∈ listedIds channel s
      · obtain ⟨-, hprogress', -⟩ := projectionPasses_progress hopen' rest
        exact hprogress'.agree (hpassed.agree batchId hlisted anchor hanchor hbelongs)
      · have hleft := (listed_or_left hpassed hmem).resolve_left hlisted
        refine ih hopen' hleft hprojected ?_ ?_
        · rw [hpassed.items batchId hlisted]
          exact hanchor
        · rw [hpassed.progress.belongsToGoal]
          exact hbelongs

theorem projectionPasses_settles (hopen : AllSettleable owner channel s) (readings : List Reading)
    (hlength : (completeIds s.outbox channel).length ≤ 100 * readings.length) {batchId : String}
    (hmem : batchId ∈ completeIds s.outbox channel) :
    BatchProjected (projectionPasses channel readings s).2.outbox channel batchId := by
  induction readings generalizing s with
  | nil =>
      have hnone : completeIds s.outbox channel = [] := by simpa using hlength
      rw [hnone] at hmem
      cases hmem
  | cons now rest ih =>
      obtain ⟨-, hpassed⟩ := projectCompletedDeliveryBatches_passes hopen now
      have hopen' := hpassed.settleable hopen
      rcases listed_or_left hpassed hmem with hlisted | hleft
      · obtain ⟨-, -, hkeeps'⟩ := projectionPasses_progress hopen' rest
        exact hkeeps' batchId (hpassed.marks batchId hlisted)
      · refine ih hopen' ?_ hleft
        rw [hpassed.left, List.length_drop]
        rw [List.length_cons] at hlength
        omega

/-- **Delivery receipts settle.** Where every delivered batch of a Goal can be settled,
any number of passes settles the batches it reaches, and enough passes settle them all. -/
theorem receipts_settle (owner : String → String) (channel : String) (s : ProjectionStores)
    (hopen : AllSettleable owner channel s) (readings : List Reading) :
    ReceiptsSettle owner channel s readings := by
  obtain ⟨hcalm, hprogress, -⟩ := projectionPasses_progress hopen readings
  refine ⟨hcalm, fun id goal goal' hgoal hcanceled hgoal' => ?_,
    fun batchId hmem hprojected anchor hanchor hbelongs =>
      projectionPasses_agree hopen readings hmem hprojected hanchor hbelongs,
    fun hlength batchId hmem => projectionPasses_settles hopen readings hlength hmem⟩
  rw [hprogress.canceled hgoal hcanceled hgoal', hcanceled]
  exact Resolution.noConfusion

end

/-! ## One delivered message -/

theorem sentItem_projected : (0 : Rat) ≤ 0 := le_refl 0

def sentItem : BatchItem where
  id := "loop:text"
  batchId := "loop"
  channel := "feishu"
  runId := "run"
  goalId := "goal"
  kind := "text"
  body := "done"
  status := .sent
  mediaCount := 0
  projectedAt := 0
  projectedAt_nonneg := sentItem_projected
  createdAt := 1
  sentAt := 2

/-- Its batch, with the Goal and the Run in these states and the loop run in this one. -/
def sentFor (cell : LoopCell) (goal : Goal) (run : Run) : ProjectionStores where
  outbox := Table.empty.insertOrIgnore sentItem
  stores :=
    { goals := Table.empty.insertOrIgnore goal
      loops := Table.empty.insertOrIgnore cell
      runs := Table.empty.insertOrIgnore run }

/-- The loop run is paused for the delivery. -/
def sentWhilePaused : ProjectionStores :=
  sentFor (pausedForDelivery "loop" "goal") (runningGoal "goal" "run") (runningRun "run")

/-- What `cancel_loop` makes of the three rows while the message is on its way. -/
def sentAfterCancel : ProjectionStores :=
  let run := mergeRunUpdates (runningRun "run") Control.cancelUpdates 1
  let goal := runningGoal "goal" "run"
  sentFor (transitionTo (pausedForDelivery "loop" "goal") .cancelled [] 1)
    (Control.cancelGoal goal goal "loop" [] 1) run

theorem receipts_settle_paused : AllSettleable id "feishu" sentWhilePaused
    ∧ ReceiptsSettle id "feishu" sentWhilePaused [⟨3, by decide⟩] := by
  have hgoals : ∀ goal ∈ sentWhilePaused.stores.goals.rows, goal = runningGoal "goal" "run" :=
    fun goal hmem => List.mem_singleton.mp hmem
  have hlive : ∀ runId, NotCanceled sentWhilePaused.stores runId := by
    intro runId goal hmem _
    rw [hgoals goal hmem]
    exact Resolution.noConfusion
  have hopen : AllSettleable id "feishu" sentWhilePaused := by
    intro batchId hmem anchor hanchor _
    obtain rfl : batchId = "loop" := List.mem_singleton.mp hmem
    obtain rfl : sentItem = anchor := Option.some.inj hanchor
    refine ⟨rfl, ⟨_, List.mem_singleton_self _, rfl⟩, fun goal hgoal other hother _ _ => ?_,
      hlive _, fun _ => rfl, fun _ _ _ _ => hlive _, fun cell hcell _ => ?_⟩
    · rw [hgoals goal hgoal, hgoals other hother]
    · obtain rfl : cell = pausedForDelivery "loop" "goal" := List.mem_singleton.mp hcell
      exact .inr ⟨rfl, .inl ⟨by decide, rfl⟩⟩
  exact ⟨hopen, receipts_settle id "feishu" sentWhilePaused hopen [⟨3, by decide⟩]⟩

theorem pass_afterCancel (now : Reading) :
    (projectCompletedDeliveryBatches "feishu" sentAfterCancel now).2 = sentAfterCancel := by
  rfl

/-- The batch of a loop that was canceled meanwhile is never projected. -/
theorem receipt_after_cancel :
    (∀ readings, ¬ BatchProjected (projectionPasses "feishu" readings sentAfterCancel).2.outbox
      "feishu" "loop")
    ∧ ¬ ∀ (s : ProjectionStores) (readings : List Reading),
      ReceiptsSettle id "feishu" s readings := by
  have hstays : ∀ readings, (projectionPasses "feishu" readings sentAfterCancel).2
      = sentAfterCancel := by
    intro readings
    induction readings with
    | nil => rfl
    | cons now rest ih =>
        unfold projectionPasses
        dsimp only
        rw [pass_afterCancel]
        exact ih
  have hcomplete : completeIds sentAfterCancel.outbox "feishu" = ["loop"] := by decide +kernel
  have hunprojected : ∀ readings,
      ¬ BatchProjected (projectionPasses "feishu" readings sentAfterCancel).2.outbox "feishu"
        "loop" := by
    intro readings
    rw [hstays]
    exact not_projected_of_complete (hcomplete ▸ List.mem_singleton_self "loop")
  refine ⟨hunprojected, fun hall => ?_⟩
  have hsettled := (hall sentAfterCancel [⟨3, by decide⟩]).settled
  rw [hcomplete] at hsettled
  exact hunprojected _ (hsettled (by decide) "loop" (List.mem_singleton_self "loop"))

end Navi.Delivery
