import Navi.Lifecycle.Results

/-!
# Results after a crash

What the start-up of the daemon and one pass of its queue do to the rows of one
run. `reconcile_completed_capability_approvals` acts on Runs without a loop and is
left out, and so is what a reconciled approval wait projects to its Run.
-/

namespace Navi.Lifecycle

open Navi.Base Navi.Loop
open Navi.StateGraph (Lived QueueTick graphEvidence plainRunner queueClaim queueResume runLoop
  startWorld)

/-! ## The start-up -/

/-- What `recover_open_orphans` reads of the rows besides the stores. -/
structure OpenAges where
  runKind : String
  runCreatedAt : Time
  goalCreatedAt : Time
  loopCreatedAt : Time

/-- The `update_run` of an orphan. -/
def failOrphanRun (run : Run) (error : String) (now : Time) : Run :=
  mergeRunUpdates run
    (projectedUpdates .ended (some .none) .rejected .failed "cross_store_open_recovered" error) now

/-- `recover_open_orphans`, on the rows of one run. -/
def recoverOpenOrphans (s : ResultStores) (ages : OpenAges) (now : Time) : ResultStores :=
  let cutoff := now - 60
  let run :=
    if "loop:".toList.isPrefixOf ages.runKind.toList ∧ s.run.id ≠ s.goal.runId
        ∧ s.run.phase ≠ .ended ∧ ages.runCreatedAt ≤ cutoff then
      failOrphanRun s.run "goal projection missing after loop creation grace period" now
    else s.run
  let goalOrphaned := s.goal.id ≠ s.loop.run.goalId ∧ s.goal.state.phase ≠ .ended
    ∧ ages.goalCreatedAt ≤ cutoff
  let missing := "loop run missing after creation grace period"
  let candidate :=
    if goalOrphaned ∧ s.goal.runId = run.id ∧ run.phase ≠ .ended then
      failOrphanRun run missing now
    else run
  let goal :=
    if goalOrphaned then
      { s.goal with
        state := ⟨.ended, .none, .rejected, .failed⟩
        taskStatus := "archived"
        blockedReason := missing
        evidence := s.goal.evidence.merge [("recovery", .str "cross_store_open_orphan")]
        completedAt := now
        updatedAt := now }
    else s.goal
  let loop :=
    if s.loop.run.goalId ≠ s.goal.id ∧ s.loop.run.terminalState = none
        ∧ ages.loopCreatedAt ≤ cutoff then
      { s.loop with run := { s.loop.run with
        terminalState := some .failed
        evidence := [("recovery", .str "cross_store_open_orphan"),
          ("reason", .str "goal missing after creation grace period")]
        version := s.loop.run.version + 1
        leaseOwner := ""
        leaseExpiresAt := 0
        updatedAt := now } }
    else s.loop
  { s with run := candidate, goal := goal, loop := loop }

/-- The row of a loop whose lease is taken back. -/
def takeLeaseBack (cell : LoopCell) (now : Time) : LoopCell :=
  { cell with run := { cell.run with
    leaseOwner := ""
    leaseExpiresAt := 0
    updatedAt := now
    version := cell.run.version + 1 } }

/-- `release_execution_leases_for_owners`. -/
def releaseExecutionLeasesForOwners (cell : LoopCell) (owners : List String) (now : Time) :
    LoopCell :=
  if cell.run.terminalState = none ∧ cell.run.leaseOwner ≠ "" ∧ cell.run.leaseOwner ∈ owners then
    takeLeaseBack cell now
  else cell

/-- `release_expired_execution_leases`. -/
def releaseExpiredExecutionLeases (cell : LoopCell) (now : Time) : LoopCell :=
  if cell.run.terminalState = none ∧ cell.run.leaseOwner ≠ "" ∧ 0 < cell.run.leaseExpiresAt
      ∧ cell.run.leaseExpiresAt ≤ now then
    takeLeaseBack cell now
  else cell

/-- What a recovery finds: the ages of the rows, the approvals, the lease owners
whose process is gone, and the readings of the clock. -/
structure Recovery where
  ages : OpenAges
  approvals : ApprovalView
  unavailableOwners : List String
  tick : QueueTick
  world : ResumeWorld
  sweeping : Time
  orphaning : Time
  reconciling : Time

/-- `_reconcile_approval_waits` and `_reconcile_loop_execution`. -/
def reconcileLoop (cell : LoopCell) (recovery : Recovery) : LoopCell :=
  let waited := (Lived.reconcile (cell, []) recovery.approvals 60 recovery.reconciling none).1
  let released :=
    releaseExecutionLeasesForOwners waited recovery.unavailableOwners recovery.reconciling
  releaseExpiredExecutionLeases released recovery.reconciling

/-- `SystemDaemon.__init__`. -/
def startUp (s : ResultStores) (recovery : Recovery) : ResultStores :=
  let swept := recoverPending s.toStores 100 (fun _ => none) recovery.sweeping
  let s := recoverOpenOrphans { s with toStores := swept.1 } recovery.ages recovery.orphaning
  { s with loop := reconcileLoop s.loop recovery }

/-- `process_queue_once`. -/
def processQueueOnce (s : ResultStores) (recovery : Recovery) : ResultStores :=
  let s := { s with loop := reconcileLoop s.loop recovery }
  match queueClaim s.loop recovery.tick with
  | none => s
  | some (claimed, retryPause) =>
      processCandidate { s with loop := claimed } recovery.tick.owner retryPause recovery.world none

/-- A start-up and one pass of the queue. -/
def recover (s : ResultStores) (recovery : Recovery) : ResultStores :=
  processQueueOnce (startUp s recovery) recovery

/-! ## What the recovery does with a loop at a final state -/

/-- The Run is the Goal's, and the Goal is the loop's. -/
def Linked (s : ResultStores) : Prop := s.run.id = s.goal.runId ∧ s.goal.id = s.loop.run.goalId

section

variable {cell : LoopCell}

theorem terminalState_of_terminal (hterminal : cell.run.isTerminal = true) :
    cell.run.terminalState ≠ none ∧ cell.run.terminalState ≠ some .waitingApproval
      ∧ cell.run.terminalState ≠ some .paused := by
  unfold LoopRunState.isTerminal at hterminal
  refine ⟨?_, ?_, ?_⟩ <;> intro hstate <;> simp [hstate, LoopTerminalState.suspended] at hterminal

theorem reconcileLoop_terminal (hterminal : cell.run.isTerminal = true) (recovery : Recovery) :
    reconcileLoop cell recovery = cell := by
  obtain ⟨hstopped, hwaiting, -⟩ := terminalState_of_terminal hterminal
  simp [reconcileLoop, Lived.reconcile, releaseExecutionLeasesForOwners,
    releaseExpiredExecutionLeases, hstopped, hwaiting]

theorem claimActive_terminal (hterminal : cell.run.isTerminal = true) (mode owner : String)
    (now : Time) (updatedBefore : Option Time) :
    StateGraph.claimActiveForExecutionMode cell mode owner now updatedBefore = none := by
  simp [StateGraph.claimActiveForExecutionMode, (terminalState_of_terminal hterminal).1]

theorem queueClaim_terminal (hterminal : cell.run.isTerminal = true) (tick : QueueTick) :
    queueClaim cell tick = none := by
  unfold queueClaim
  dsimp only
  rw [claimActive_terminal hterminal, claimActive_terminal hterminal, Option.none_or]
  dsimp only
  rw [if_neg]
  intro hlisted
  -- the row of this loop is the only one with its id, and it is not paused
  obtain ⟨row, hrow, hid⟩ := List.any_eq_true.mp hlisted
  obtain ⟨hmem, hpaused, -⟩ := listRetryablePauses_spec hrow
  rcases List.mem_cons.mp hmem with rfl | hother
  · exact (terminalState_of_terminal hterminal).2.2 hpaused
  · exact absurd (of_decide_eq_true hid) (of_decide_eq_true (List.mem_filter.mp hother).2)

theorem recoverOpenOrphans_linked {s : ResultStores} (hlinked : Linked s) (ages : OpenAges)
    (now : Time) : recoverOpenOrphans s ages now = s := by
  obtain ⟨hrun, hgoal⟩ := hlinked
  simp [recoverOpenOrphans, hrun, hgoal]

end

/-! ## What a sweep does with the rows -/

/-- What a sweep keeps of the rows of a finished loop, whatever it applies. -/
structure KeepsRows (s s' : Stores) : Prop where
  runId : s'.run.id = s.run.id
  goalId : s'.goal.id = s.goal.id
  goalRun : s'.goal.runId = s.goal.runId
  loop : s'.loop = s.loop

theorem KeepsRows.refl (s : Stores) : KeepsRows s s := ⟨rfl, rfl, rfl, rfl⟩

theorem KeepsRows.trans {s₁ s₂ s₃ : Stores} (h : KeepsRows s₁ s₂) (h' : KeepsRows s₂ s₃) :
    KeepsRows s₁ s₃ :=
  ⟨h'.runId.trans h.runId, h'.goalId.trans h.goalId, h'.goalRun.trans h.goalRun,
    h'.loop.trans h.loop⟩

section

variable {s : Stores} {saga : LifecycleSaga} {fault : Option Fault} {now : Time}

theorem applyLoopTransition_terminal {loop loop' : LoopCell}
    (hterminal : loop.run.isTerminal = true) {loopTransition : Option LoopTransition}
    (h : applyLoopTransition loop loopTransition now = .ok loop') : loop' = loop := by
  have hwaiting : externallyWaiting loop.run = false := by
    obtain ⟨-, hwaiting, hpaused⟩ := terminalState_of_terminal hterminal
    simp [externallyWaiting, hwaiting, hpaused]
  unfold applyLoopTransition at h
  split at h
  · exact (Except.ok.inj h).symm
  · simp only [cancelExternalWait, cancelWaiting, hwaiting] at h
    split at h
    · exact (Except.ok.inj h).symm
    · simp at h
  · simp [pauseExternalWait, hwaiting] at h

theorem applyToGoal_keepsRows (s : Stores) (saga : LifecycleSaga) (fault : Option Fault)
    (now : Time) : KeepsRows s (applyToGoal s saga fault now).1 := by
  unfold applyToGoal
  split
  · exact ⟨rfl, rfl, rfl, rfl⟩
  · exact .refl s
  · dsimp only
    split
    · exact ⟨rfl, rfl, rfl, rfl⟩
    · exact ⟨rfl, rfl, rfl, rfl⟩
    · split
      · exact ⟨rfl, rfl, rfl, rfl⟩
      · split <;> exact ⟨rfl, rfl, rfl, rfl⟩

theorem apply_keepsRows (hterminal : s.loop.run.isTerminal = true) :
    KeepsRows s (apply s saga fault now).1 := by
  unfold apply
  split
  · exact ⟨rfl, rfl, rfl, rfl⟩
  · exact .refl s
  · split
    · exact ⟨rfl, rfl, rfl, rfl⟩
    next loop hloop =>
      obtain rfl := applyLoopTransition_terminal hterminal hloop
      unfold applyToRun
      split
      · exact ⟨rfl, rfl, rfl, rfl⟩
      · exact .refl s
      · split
        · exact ⟨rfl, rfl, rfl, rfl⟩
        · have hmerged : KeepsRows s { s with run := mergeRunUpdates s.run saga.runUpdates now } :=
            ⟨rfl, rfl, rfl, rfl⟩
          exact hmerged.trans (applyToGoal_keepsRows _ saga fault now)

theorem apply_otherRun (hother : saga.runId ≠ s.run.id) :
    (apply s saga fault now).1.run = s.run ∧ (apply s saga fault now).1.goal = s.goal := by
  unfold apply
  split
  · exact ⟨rfl, rfl⟩
  · exact ⟨rfl, rfl⟩
  · split
    · exact ⟨rfl, rfl⟩
    · unfold applyToRun
      split
      · exact ⟨rfl, rfl⟩
      · exact ⟨rfl, rfl⟩
      · rw [if_pos (Ne.symm hother)]
        exact ⟨rfl, rfl⟩

theorem apply_result (hrun : s.run.id = saga.runId) (hgoal : s.goal.id = saga.goalId)
    (htransition : saga.loopTransition = none) :
    (apply s saga none now).2 = .completed
      ∧ saga.runUpdates.Projected (apply s saga none now).1.run (apply s saga none now).1.goal
      ∧ (apply s saga none now).1.sagas = (markCompleted s saga.operationKey now).sagas := by
  let run := mergeRunUpdates s.run saga.runUpdates now
  let goal := updateForRun s.goal run saga.goalEvidence now
  have hid : goal.id = saga.goalId := hgoal
  have happly : apply s saga none now
      = (markCompleted { s with run := run, goal := goal } saga.operationKey now, .completed) := by
    simp [apply, htransition, applyLoopTransition, applyToRun, applyToGoal, hrun, hid, run, goal]
  rw [happly]
  exact ⟨rfl, ⟨carriedBy_mergeRunUpdates s.run saga.runUpdates now, rfl⟩, rfl⟩

theorem recoverEach_cons (now : Time) (s : Stores) (saga : LifecycleSaga)
    (rest : List LifecycleSaga) (hlives : (apply s saga none now).2 ≠ .died) :
    (recoverEach now s (saga :: rest) fun _ => none).1
      = (recoverEach now (apply s saga none now).1 rest fun _ => none).1 := by
  rw [recoverEach]
  split
  next heq => rw [heq]
  next heq => rw [heq]
  next heq => exact absurd (by rw [heq]) hlives

theorem apply_lives (s : Stores) (saga : LifecycleSaga) (now : Time) :
    (apply s saga none now).2 ≠ .died := by
  unfold apply
  split
  · simp [raised]
  next h => cases h
  · split
    · simp [raised]
    · unfold applyToRun
      split
      · simp [raised]
      next h => cases h
      · split
        · simp [raised]
        · unfold applyToGoal
          dsimp only
          split
          · simp [raised]
          · simp

theorem recoverEach_keepsRows {rows : List LifecycleSaga} :
    ∀ {s : Stores}, s.loop.run.isTerminal = true →
      KeepsRows s (recoverEach now s rows fun _ => none).1 := by
  induction rows with
  | nil => exact fun {s} _ => .refl s
  | cons saga rest ih =>
      intro s hterminal
      rw [recoverEach_cons now s saga rest (apply_lives s saga now)]
      have hstep : KeepsRows s (apply s saga none now).1 := apply_keepsRows hterminal
      exact hstep.trans (ih (by rw [hstep.loop]; exact hterminal))

theorem recoverEach_otherRuns {rows : List LifecycleSaga} :
    ∀ {s : Stores}, s.loop.run.isTerminal = true → (∀ row ∈ rows, row.runId ≠ s.run.id) →
      (recoverEach now s rows fun _ => none).1.run = s.run
        ∧ (recoverEach now s rows fun _ => none).1.goal = s.goal := by
  induction rows with
  | nil => exact fun _ _ => ⟨rfl, rfl⟩
  | cons saga rest ih =>
      intro s hterminal hothers
      rw [recoverEach_cons now s saga rest (apply_lives s saga now)]
      have hkeeps : KeepsRows s (apply s saga none now).1 := apply_keepsRows hterminal
      have hsame : (apply s saga none now).1.run = s.run
          ∧ (apply s saga none now).1.goal = s.goal :=
        apply_otherRun (hothers saga List.mem_cons_self)
      have hrest := ih (by rw [hkeeps.loop]; exact hterminal) (fun row hrow => by
        rw [hkeeps.runId]
        exact hothers row (List.mem_cons_of_mem _ hrow))
      exact ⟨hrest.1.trans hsame.1, hrest.2.trans hsame.2⟩

theorem recoverEach_last {rows : List LifecycleSaga} :
    ∀ {s : Stores}, s.loop.run.isTerminal = true → s.run.id = saga.runId →
      s.goal.id = saga.goalId → saga.loopTransition = none →
      saga.runUpdates.Projected (recoverEach now s (rows ++ [saga]) fun _ => none).1.run
        (recoverEach now s (rows ++ [saga]) fun _ => none).1.goal := by
  induction rows with
  | nil =>
      intro s _ hrun hgoal htransition
      rw [List.nil_append, recoverEach_cons now s saga [] (apply_lives s saga now)]
      exact (apply_result hrun hgoal htransition).2.1
  | cons row rest ih =>
      intro s hterminal hrun hgoal htransition
      rw [List.cons_append, recoverEach_cons now s row _ (apply_lives s row now)]
      have hkeeps : KeepsRows s (apply s row none now).1 := apply_keepsRows hterminal
      exact ih (by rw [hkeeps.loop]; exact hterminal) (hkeeps.runId.trans hrun)
        (hkeeps.goalId.trans hgoal) htransition

end

/-! ## The rows a sweep selects -/

theorem mem_batch {sagas : SagaTable} {limit : Nat} {row : LifecycleSaga}
    (h : row ∈ batch sagas limit) : row ∈ sagas.rows ∧ row.status ≠ .completed := by
  have hsorted := (List.mem_insertionSort _).mp (List.mem_of_mem_take h)
  obtain ⟨hrow, hopen⟩ := List.mem_filter.mp hsorted
  exact ⟨hrow, of_decide_eq_true hopen⟩

section

variable {α : Type*} {r : α → α → Prop} [DecidableRel r]

theorem orderedInsert_append_last {a x : α} (hlast : r a x) (l : List α) :
    (l ++ [x]).orderedInsert r a = l.orderedInsert r a ++ [x] := by
  induction l with
  | nil => simp [hlast]
  | cons b l ih =>
      rw [List.cons_append, List.orderedInsert_cons, List.orderedInsert_cons]
      split
      · rfl
      · rw [ih, List.cons_append]

theorem insertionSort_append_last {x : α} {l : List α} (hlast : ∀ a ∈ l, r a x) :
    (l ++ [x]).insertionSort r = l.insertionSort r ++ [x] := by
  induction l with
  | nil => rfl
  | cons a l ih =>
      rw [List.cons_append, List.insertionSort_cons, List.insertionSort_cons,
        ih fun b hb => hlast b (List.mem_cons_of_mem _ hb),
        orderedInsert_append_last (hlast a List.mem_cons_self)]

end

/-- No other saga of the Run is unfinished. -/
def Settled (s : Stores) : Prop :=
  ∀ row ∈ s.sagas.rows, row.status ≠ .completed → row.runId ≠ s.run.id

/-- A sweep has room for one more saga, and would come to it last. -/
def Sweepable (s : Stores) (now : Time) : Prop :=
  (s.sagas.rows.filter fun row => row.status ≠ .completed).length < 100
    ∧ ∀ row ∈ s.sagas.rows, row.status ≠ .completed → row.updatedAt ≤ now

section

variable {s : Stores} {saga : LifecycleSaga} {now : Time}

theorem prepare_rows (hfresh : s.sagas.get? saga.operationKey = none) :
    (prepare s saga).sagas.rows = s.sagas.rows ++ [saga] := by
  have hfree : saga.operationKey ∉ s.sagas.rows.map (·.operationKey) := by
    intro htaken
    obtain ⟨row, hrow, hkey⟩ := List.mem_map.mp htaken
    rw [← hkey, Table.get?_of_mem hrow] at hfresh
    cases hfresh
  simp [prepare, Table.insertOrIgnore, hfree]

theorem prepare_get (hfresh : s.sagas.get? saga.operationKey = none) :
    (prepare s saga).sagas.get? saga.operationKey = some saga := by
  simp [prepare, Table.get?_insertOrIgnore, hfresh]

theorem batch_prepared (hsweep : Sweepable s now) (hpending : saga.status = .pending)
    (hupdated : saga.updatedAt = now) (hfresh : s.sagas.get? saga.operationKey = none) :
    ∃ rows, batch (prepare s saga).sagas 100 = rows ++ [saga] := by
  obtain ⟨hroom, hbefore⟩ := hsweep
  let unfinished := s.sagas.rows.filter fun row => row.status ≠ .completed
  let sorted := unfinished.insertionSort fun a b => a.updatedAt ≤ b.updatedAt
  have hopen : (s.sagas.rows ++ [saga]).filter (fun row => row.status ≠ .completed)
      = unfinished ++ [saga] := by
    simp [unfinished, List.filter_append, hpending]
  have hlast : ∀ row ∈ unfinished, row.updatedAt ≤ saga.updatedAt := by
    intro row hrow
    obtain ⟨hmem, hstatus⟩ := List.mem_filter.mp hrow
    rw [hupdated]
    exact hbefore row hmem (of_decide_eq_true hstatus)
  have hlength : (sorted ++ [saga]).length ≤ 100 := by
    rw [List.length_append, List.length_insertionSort, List.length_singleton]
    exact hroom
  refine ⟨sorted, ?_⟩
  rw [batch, prepare_rows hfresh, hopen, insertionSort_append_last hlast]
  exact List.take_of_length_le hlength

theorem batch_completed (hsettled : Settled s) (hkey : s.sagas.get? saga.operationKey = none)
    {table : SagaTable}
    (htable : table = (markCompleted (prepare s saga) saga.operationKey now).sagas) :
    ∀ row ∈ batch table 100, row.runId ≠ s.run.id := by
  subst htable
  intro row hrow
  obtain ⟨hmem, hopen⟩ := mem_batch hrow
  simp only [markCompleted, Table.update, Table.updateRows, prepare_rows hkey, List.mem_map]
    at hmem
  obtain ⟨old, hold, rfl⟩ := hmem
  split at hopen
  next => simp [LifecycleSaga.asCompleted] at hopen
  next hother =>
    rw [if_neg hother]
    rcases List.mem_append.mp hold with hold | hold
    · exact hsettled old hold hopen
    · obtain rfl := List.mem_singleton.mp hold
      simp at hother

theorem apply_dies (hrun : s.run.id = saga.runId) (hgoal : s.goal.id = saga.goalId)
    (htransition : saga.loopTransition = none) (step : ApplyStep) :
    (apply s saga (some (.dies step)) now).2 = .died
      ∧ (apply s saga (some (.dies step)) now).1.sagas = s.sagas := by
  have hid : ∀ run, (updateForRun s.goal run saga.goalEvidence now).id = saga.goalId :=
    fun _ => hgoal
  cases step <;>
    simp [apply, htransition, applyLoopTransition, applyToRun, applyToGoal, hrun, hid]

end

/-! ## The recovery of a finished loop -/

theorem recover_eq {s : ResultStores} (hterminal : s.loop.run.isTerminal = true)
    (hlinked : Linked s) (recovery : Recovery) :
    recover s recovery = { s with toStores :=
      (recoverPending s.toStores 100 (fun _ => none) recovery.sweeping).1 } := by
  have hkeeps : KeepsRows s.toStores
      (recoverPending s.toStores 100 (fun _ => none) recovery.sweeping).1 :=
    recoverEach_keepsRows hterminal
  let swept : ResultStores := { s with toStores :=
    (recoverPending s.toStores 100 (fun _ => none) recovery.sweeping).1 }
  have hswept : swept.loop.run.isTerminal = true := by
    rw [hkeeps.loop]
    exact hterminal
  have hlinks : Linked swept := by
    refine ⟨hkeeps.runId.trans (hlinked.1.trans hkeeps.goalRun.symm), ?_⟩
    rw [hkeeps.loop]
    exact hkeeps.goalId.trans hlinked.2
  have hstart : startUp s recovery = swept := by
    unfold startUp
    dsimp only
    rw [recoverOpenOrphans_linked hlinks, reconcileLoop_terminal hswept]
  rw [recover, hstart, processQueueOnce]
  dsimp only
  rw [reconcileLoop_terminal hswept, queueClaim_terminal hswept]

/-! ## The crash -/

/-- Where the process dies after the terminal transition of a loop. -/
inductive CrashPoint where
  | beforeSaga
  | inApply (step : ApplyStep)
  | beforeEnqueue
  | afterwards

/-- The crash, as a fault of `apply_state_graph_result`. -/
def CrashPoint.fault : CrashPoint → Option ResultFault
  | .beforeSaga => some .prepare
  | .inApply step => some (.apply (.dies step))
  | .beforeEnqueue => some .enqueue
  | .afterwards => none

/-- A background loop has just come to this final state, and nothing of it has been
projected. A run id has no blanks at its ends. -/
structure JustStopped (s : ResultStores) (result : GraphResult) : Prop where
  terminal : s.loop.run.isTerminal = true
  result : result.runState = s.loop.run
  background : s.loop.run.evidence.text "execution_mode" = "background"
  running : s.run.phase = .running
  linked : Linked s
  runId : strip s.run.id = s.run.id
  fresh : s.sagas.get? (resultKey s.loop.run) = none

/-- The result is one for a connector: it converged, with a message for a peer. -/
def ConnectorResult (s : ResultStores) (result : GraphResult)
    (persistResultDelivery : Option Bool) : Prop :=
  result.runState.terminalState = some .converged ∧ surfaceMessage result ≠ "" ∧ s.source ≠ ""
    ∧ s.peerId ≠ "" ∧ persistResultDelivery ≠ some false

def resultUpdates (s : ResultStores) (result : GraphResult) (persistResultDelivery : Option Bool) :
    RunUpdates :=
  if backgroundDeliveryPending s result persistResultDelivery then deliveryPendingUpdates
  else runUpdatesForLoop s.run.resultSummary result

/-- The outbox has one item of the Run, with this body. -/
def EnqueuedOnce (s : ResultStores) (body : String) : Prop :=
  ∃ item, (s.outbox.rows.filter fun item => item.runId = s.run.id) = [item] ∧ item.body = body

/-- The Run and the Goal agree with the final state, and the result of a connector
is in the outbox once. -/
def ResultRecovered (s : ResultStores) (result : GraphResult) (persistResultDelivery : Option Bool)
    (s' : ResultStores) : Prop :=
  (resultUpdates s result persistResultDelivery).Projected s'.run s'.goal
    ∧ (ConnectorResult s result persistResultDelivery → EnqueuedOnce s' (surfaceMessage result))

/-- The outbox takes the result of this Run. -/
def CanEnqueue (s : ResultStores) : Prop :=
  (∀ item ∈ s.outbox.rows, item.runId ≠ s.run.id) ∧ strip s.source ≠ "" ∧ strip s.peerId ≠ ""
    ∧ s.outbox.get? (stableBatchId ("goal:" ++ s.run.id) ++ ":text") = none

/-- The crashes a result survives: its saga is there, nothing is replayed over it,
and a message that has to be in the outbox is there already. -/
def Survives (s : ResultStores) (result : GraphResult) (persistResultDelivery : Option Bool)
    (now : Time) : CrashPoint → Prop
  | .beforeSaga => False
  | .inApply _ =>
      (ConnectorResult s result persistResultDelivery → EnqueuedOnce s (surfaceMessage result))
        ∧ Sweepable s.toStores now
  | .beforeEnqueue =>
      (ConnectorResult s result persistResultDelivery → EnqueuedOnce s (surfaceMessage result))
        ∧ Settled s.toStores
  | .afterwards =>
      (ConnectorResult s result persistResultDelivery →
          EnqueuedOnce s (surfaceMessage result) ∨ CanEnqueue s)
        ∧ Settled s.toStores

section

variable {s : ResultStores} {result : GraphResult} {persistResultDelivery : Option Bool}
  {evidence : Dict} {now : Time}

theorem pending_iff (hstopped : JustStopped s result) :
    backgroundDeliveryPending s result persistResultDelivery = true
      ↔ ConnectorResult s result persistResultDelivery := by
  have hbackground : result.runState.evidence.text "execution_mode" = "background" := by
    rw [hstopped.result]
    exact hstopped.background
  cases persistResultDelivery with
  | none =>
      simp only [backgroundDeliveryPending, ConnectorResult, hbackground, Option.getD_none,
        decide_eq_true_eq]
      constructor
      · rintro ⟨h₁, -, h₂, h₃, h₄⟩
        exact ⟨h₁, h₂, h₃, h₄, by simp⟩
      · rintro ⟨h₁, h₂, h₃, h₄, -⟩
        exact ⟨h₁, trivial, h₂, h₃, h₄⟩
  | some persist =>
      simp only [backgroundDeliveryPending, ConnectorResult, Option.getD_some, decide_eq_true_eq,
        ne_eq, Option.some.injEq, Bool.not_eq_false]
      constructor
      · rintro ⟨h₁, h₂, h₃, h₄, h₅⟩
        exact ⟨h₁, h₃, h₄, h₅, h₂⟩
      · rintro ⟨h₁, h₂, h₃, h₄, h₅⟩
        exact ⟨h₁, h₅, h₂, h₃, h₄⟩

theorem resultUpdates_phase (hstopped : JustStopped s result)
    {run : Run} (hcarried : (resultUpdates s result persistResultDelivery).CarriedBy run) :
    run.phase ≠ .running := by
  have hterminal : result.runState.isTerminal = true := by
    rw [hstopped.result]
    exact hstopped.terminal
  intro hrunning
  have hphase : ∃ phase, (resultUpdates s result persistResultDelivery).phase = some phase
      ∧ phase ≠ .running := by
    unfold resultUpdates
    split
    · exact ⟨.paused, rfl, by decide⟩
    · unfold LoopRunState.isTerminal at hterminal
      unfold runUpdatesForLoop
      extract_lets message kept
      split
      all_goals first
        | exact ⟨_, rfl, by decide⟩
        | simp_all
  obtain ⟨phase, hphase, hother⟩ := hphase
  exact hother ((hcarried.phase phase hphase).symm.trans hrunning)

abbrev sagaOf (s : ResultStores) (result : GraphResult) (evidence : Dict)
    (persistResultDelivery : Option Bool) (now : Time) : LifecycleSaga :=
  resultSaga s result evidence (backgroundDeliveryPending s result persistResultDelivery) now

theorem sagaOf_updates : (sagaOf s result evidence persistResultDelivery now).runUpdates
    = resultUpdates s result persistResultDelivery := by
  unfold sagaOf resultSaga resultUpdates
  rfl

theorem sagaOf_fresh (hstopped : JustStopped s result) :
    s.sagas.get? (sagaOf s result evidence persistResultDelivery now).operationKey = none := by
  have hkey : (sagaOf s result evidence persistResultDelivery now).operationKey
      = resultKey result.runState := rfl
  rw [hkey, hstopped.result]
  exact hstopped.fresh

/-- The rows after the saga was prepared and applied, up to this fault. -/
abbrev settledRows (s : ResultStores) (result : GraphResult) (evidence : Dict)
    (persistResultDelivery : Option Bool) (fault : Option Fault) (now : Time) : Stores × Applied :=
  let saga := sagaOf s result evidence persistResultDelivery now
  apply (prepare s.toStores saga) saga fault now

theorem prepareAndApply_eq (hstopped : JustStopped s result) (evidence : Dict)
    (persistResultDelivery : Option Bool) (fault : Option Fault) (now : Time) :
    prepareAndApply s.toStores (sagaOf s result evidence persistResultDelivery now) fault now
      = settledRows s result evidence persistResultDelivery fault now := by
  unfold prepareAndApply
  dsimp only
  rw [prepare_get (sagaOf_fresh hstopped)]

theorem recordResult_rows (s : ResultStores) (body : String) (now : Time) :
    ((recordResultDeliveryOutbox s body now).getD s).toStores = s.toStores := by
  unfold recordResultDeliveryOutbox
  split
  · rfl
  · dsimp only
    split
    · rfl
    · split
      · split <;> rfl
      · rfl

theorem crash_inApply (hstopped : JustStopped s result) (step : ApplyStep) :
    applyStateGraphResult s result evidence persistResultDelivery
        (CrashPoint.inApply step).fault now
      = { s with toStores :=
          (settledRows s result evidence persistResultDelivery (some (.dies step)) now).1 } := by
  have hrows :=
    prepareAndApply_eq hstopped evidence persistResultDelivery (some (.dies step)) now
  have hdied : (settledRows s result evidence persistResultDelivery (some (.dies step)) now).2
      = .died := (apply_dies rfl rfl rfl step).1
  simp only [applyStateGraphResult, CrashPoint.fault, ResultFault.applying, hrows, hdied]

theorem settledRows_completed (s : ResultStores) (result : GraphResult) (evidence : Dict)
    (persistResultDelivery : Option Bool) (now : Time) :
    (settledRows s result evidence persistResultDelivery none now).2 = .completed
      ∧ (resultUpdates s result persistResultDelivery).Projected
          (settledRows s result evidence persistResultDelivery none now).1.run
          (settledRows s result evidence persistResultDelivery none now).1.goal
      ∧ (settledRows s result evidence persistResultDelivery none now).1.sagas
          = (markCompleted (prepare s.toStores
              (sagaOf s result evidence persistResultDelivery now))
              (sagaOf s result evidence persistResultDelivery now).operationKey now).sagas := by
  rw [← sagaOf_updates]
  exact apply_result rfl rfl rfl

theorem crash_beforeEnqueue (hstopped : JustStopped s result) :
    applyStateGraphResult s result evidence persistResultDelivery
        CrashPoint.beforeEnqueue.fault now
      = { s with toStores :=
          (settledRows s result evidence persistResultDelivery none now).1 } := by
  have hrows := prepareAndApply_eq hstopped evidence persistResultDelivery none now
  have hdone := (settledRows_completed s result evidence persistResultDelivery now).1
  simp only [applyStateGraphResult, CrashPoint.fault, ResultFault.applying, hrows, hdone]

theorem crash_afterwards (hstopped : JustStopped s result) :
    applyStateGraphResult s result evidence persistResultDelivery CrashPoint.afterwards.fault now
      = (let applied : ResultStores := { s with toStores :=
          (settledRows s result evidence persistResultDelivery none now).1 }
        if backgroundDeliveryPending s result persistResultDelivery then
          (recordResultDeliveryOutbox applied (surfaceMessage result) now).getD applied
        else applied) := by
  have hrows := prepareAndApply_eq hstopped evidence persistResultDelivery none now
  have hdone := (settledRows_completed s result evidence persistResultDelivery now).1
  simp only [applyStateGraphResult, CrashPoint.fault, ResultFault.applying, hrows, hdone]

/-! ## The outbox after the crash -/

theorem recordResult_outbox (s : ResultStores) (body : String) (now : Time) :
    CanEnqueue s ∧ ((recordResultDeliveryOutbox s body now).getD s).outbox
        = s.outbox.insertOrIgnore (resultItem s body now)
      ∨ ¬ CanEnqueue s ∧ ((recordResultDeliveryOutbox s body now).getD s).outbox = s.outbox := by
  have hchannel : (resultItem s body now).channel = strip s.source := by
    unfold resultItem
    dsimp only
    split
    next hblank => rw [hblank]
    next => exact strip_strip s.source
  unfold recordResultDeliveryOutbox
  split
  next htaken =>
    obtain ⟨item, hitem, hrun⟩ := List.any_eq_true.mp htaken
    exact .inr ⟨fun hcan => hcan.1 item hitem (of_decide_eq_true hrun), rfl⟩
  next hfree =>
    dsimp only
    rw [hchannel]
    split
    next hblank =>
      refine .inr ⟨fun hcan => ?_, rfl⟩
      rcases hblank with hblank | hblank
      · exact hcan.2.1 hblank
      · exact hcan.2.2.1 hblank
    next hnamed =>
      have hids : (resultItem s body now).id = stableBatchId ("goal:" ++ s.run.id) ++ ":text" := rfl
      rw [hids]
      split
      next found hfound =>
        refine .inr ⟨fun hcan => ?_, ?_⟩
        · rw [hcan.2.2.2] at hfound
          cases hfound
        · split <;> rfl
      next hnone =>
        refine .inl ⟨⟨?_, fun h => hnamed (.inl h), fun h => hnamed (.inr h), hnone⟩, rfl⟩
        intro item hitem hrun
        exact hfree (List.any_eq_true.mpr ⟨item, hitem, decide_eq_true hrun⟩)

theorem enqueuedOnce_inserted (hcan : CanEnqueue s) (hrun : strip s.run.id = s.run.id)
    {s' : ResultStores} (hid : s'.run.id = s.run.id)
    (houtbox : s'.outbox = s.outbox.insertOrIgnore (resultItem s (surfaceMessage result) now)) :
    EnqueuedOnce s' (surfaceMessage result) := by
  obtain ⟨hothers, -, -, hfree⟩ := hcan
  let item := resultItem s (surfaceMessage result) now
  have hkey : item.id ∉ s.outbox.rows.map (·.id) := by
    intro htaken
    obtain ⟨row, hrow, hsame⟩ := List.mem_map.mp htaken
    have hget := Table.get?_of_mem hrow
    rw [hsame] at hget
    rw [show item.id = stableBatchId ("goal:" ++ s.run.id) ++ ":text" from rfl, hfree] at hget
    cases hget
  have hrows : s'.outbox.rows = s.outbox.rows ++ [item] := by
    rw [houtbox, Table.insertOrIgnore, dif_neg hkey]
  have hnone : (s.outbox.rows.filter fun item => item.runId = s.run.id) = [] := by
    rw [List.filter_eq_nil_iff]
    intro row hrow
    simpa using hothers row hrow
  refine ⟨item, ?_, strip_strip _⟩
  rw [hid, hrows, List.filter_append, hnone, List.nil_append]
  have hitem : item.runId = s.run.id := hrun
  simp [hitem]

theorem EnqueuedOnce.congr {s₁ s₂ : ResultStores} (houtbox : s₂.outbox = s₁.outbox)
    (hrun : s₂.run.id = s₁.run.id) (body : String) :
    EnqueuedOnce s₂ body ↔ EnqueuedOnce s₁ body := by
  unfold EnqueuedOnce
  rw [houtbox, hrun]

end

/-! ## The recovery after each crash -/

section

variable {s : ResultStores} {result : GraphResult} {persistResultDelivery : Option Bool}
  {evidence : Dict} {now : Time}

/-- The rows after a crash, and after the sweep that follows. -/
structure Swept (s crashed : ResultStores) (recovery : Recovery) : Prop where
  keeps : KeepsRows s.toStores crashed.toStores
  recovered : recover crashed recovery = { crashed with toStores :=
    (recoverPending crashed.toStores 100 (fun _ => none) recovery.sweeping).1 }

theorem swept_of_keeps (hstopped : JustStopped s result) {crashed : ResultStores}
    (hkeeps : KeepsRows s.toStores crashed.toStores) (recovery : Recovery) :
    Swept s crashed recovery := by
  have hterminal : crashed.loop.run.isTerminal = true := by
    rw [hkeeps.loop]
    exact hstopped.terminal
  have hlinked : Linked crashed := by
    refine ⟨hkeeps.runId.trans (hstopped.linked.1.trans hkeeps.goalRun.symm), ?_⟩
    rw [hkeeps.loop]
    exact hkeeps.goalId.trans hstopped.linked.2
  exact ⟨hkeeps, recover_eq hterminal hlinked recovery⟩

theorem settledRows_keeps (hstopped : JustStopped s result) (fault : Option Fault) :
    KeepsRows s.toStores (settledRows s result evidence persistResultDelivery fault now).1 := by
  have hprepared : KeepsRows s.toStores
      (prepare s.toStores (sagaOf s result evidence persistResultDelivery now)) :=
    ⟨rfl, rfl, rfl, rfl⟩
  exact hprepared.trans (apply_keepsRows hstopped.terminal)

theorem recovered_runId {crashed : ResultStores} {recovery : Recovery}
    (hstopped : JustStopped s result) (hswept : Swept s crashed recovery) :
    (recover crashed recovery).run.id = s.run.id
      ∧ (recover crashed recovery).outbox = crashed.outbox := by
  have hterminal : crashed.loop.run.isTerminal = true := by
    rw [hswept.keeps.loop]
    exact hstopped.terminal
  have hsweep : KeepsRows crashed.toStores
      (recoverPending crashed.toStores 100 (fun _ => none) recovery.sweeping).1 :=
    recoverEach_keepsRows hterminal
  rw [hswept.recovered]
  exact ⟨hsweep.runId.trans hswept.keeps.runId, rfl⟩

theorem recovered_same {crashed : ResultStores} {recovery : Recovery}
    (hstopped : JustStopped s result) (hswept : Swept s crashed recovery)
    (hothers : ∀ row ∈ batch crashed.sagas 100, row.runId ≠ s.run.id) :
    (recover crashed recovery).run = crashed.run
      ∧ (recover crashed recovery).goal = crashed.goal := by
  have hterminal : crashed.loop.run.isTerminal = true := by
    rw [hswept.keeps.loop]
    exact hstopped.terminal
  rw [hswept.recovered]
  refine recoverEach_otherRuns hterminal ?_
  rw [hswept.keeps.runId]
  exact hothers

theorem recover_beforeSaga (hstopped : JustStopped s result) (hsettled : Settled s.toStores)
    (recovery : Recovery) :
    ¬ ResultRecovered s result persistResultDelivery
      (recover (applyStateGraphResult s result evidence persistResultDelivery
        CrashPoint.beforeSaga.fault now) recovery) := by
  rintro ⟨⟨hcarried, -⟩, -⟩
  have hcrashed : applyStateGraphResult s result evidence persistResultDelivery
      CrashPoint.beforeSaga.fault now = s := rfl
  rw [hcrashed] at hcarried
  have hswept := swept_of_keeps hstopped (.refl s.toStores) recovery
  have hothers : ∀ row ∈ batch s.sagas 100, row.runId ≠ s.run.id := fun row hrow =>
    hsettled row (mem_batch hrow).1 (mem_batch hrow).2
  rw [(recovered_same hstopped hswept hothers).1] at hcarried
  exact resultUpdates_phase hstopped hcarried hstopped.running

theorem recover_inApply (hstopped : JustStopped s result) (hsweep : Sweepable s.toStores now)
    (step : ApplyStep) (recovery : Recovery) :
    let s' := recover (applyStateGraphResult s result evidence persistResultDelivery
      (CrashPoint.inApply step).fault now) recovery
    (resultUpdates s result persistResultDelivery).Projected s'.run s'.goal
      ∧ s'.run.id = s.run.id ∧ s'.outbox = s.outbox := by
  intro s'
  let saga := sagaOf s result evidence persistResultDelivery now
  let crashed : ResultStores := { s with toStores :=
    (settledRows s result evidence persistResultDelivery (some (.dies step)) now).1 }
  have hcrashed : s' = recover crashed recovery := by
    simp only [s', crash_inApply hstopped]
    rfl
  have hkeeps : KeepsRows s.toStores crashed.toStores := settledRows_keeps hstopped _
  have hswept := swept_of_keeps hstopped hkeeps recovery
  have htable : crashed.sagas = (prepare s.toStores saga).sagas :=
    (apply_dies rfl rfl rfl step).2
  have hfresh : s.sagas.get? saga.operationKey = none := sagaOf_fresh hstopped
  obtain ⟨rows, hrows⟩ := batch_prepared hsweep rfl rfl hfresh
  have hterminal : crashed.loop.run.isTerminal = true := by
    rw [hkeeps.loop]
    exact hstopped.terminal
  have hids := recovered_runId hstopped hswept
  rw [hcrashed]
  refine ⟨?_, hids⟩
  rw [hswept.recovered, recoverPending, htable, hrows, ← sagaOf_updates]
  exact recoverEach_last hterminal hkeeps.runId hkeeps.goalId rfl

theorem recover_applied (hstopped : JustStopped s result) (hsettled : Settled s.toStores)
    {crashed : ResultStores}
    (hrows : crashed.toStores = (settledRows s result evidence persistResultDelivery none now).1)
    (recovery : Recovery) :
    let s' := recover crashed recovery
    (resultUpdates s result persistResultDelivery).Projected s'.run s'.goal
      ∧ s'.run.id = s.run.id ∧ s'.outbox = crashed.outbox := by
  intro s'
  obtain ⟨-, hprojected, htable⟩ :=
    settledRows_completed s result evidence persistResultDelivery now
  have hkeeps : KeepsRows s.toStores crashed.toStores := by
    rw [hrows]
    exact settledRows_keeps hstopped none
  have hswept := swept_of_keeps hstopped hkeeps recovery
  have hothers : ∀ row ∈ batch crashed.sagas 100, row.runId ≠ s.run.id := by
    rw [hrows]
    exact batch_completed hsettled (sagaOf_fresh hstopped) htable
  obtain ⟨hrun, hgoal⟩ := recovered_same hstopped hswept hothers
  refine ⟨?_, recovered_runId hstopped hswept⟩
  simp only [s', hrun, hgoal, hrows]
  exact hprojected

theorem crash_afterwards_rows (hstopped : JustStopped s result) :
    (applyStateGraphResult s result evidence persistResultDelivery CrashPoint.afterwards.fault
        now).toStores
      = (settledRows s result evidence persistResultDelivery none now).1 := by
  rw [crash_afterwards hstopped]
  dsimp only
  split
  · rw [recordResult_rows]
  · rfl

theorem crash_afterwards_enqueued (hstopped : JustStopped s result)
    (hconnector : ConnectorResult s result persistResultDelivery) :
    EnqueuedOnce (applyStateGraphResult s result evidence persistResultDelivery
        CrashPoint.afterwards.fault now) (surfaceMessage result)
      ↔ EnqueuedOnce s (surfaceMessage result) ∨ CanEnqueue s := by
  let applied : ResultStores := { s with toStores :=
    (settledRows s result evidence persistResultDelivery none now).1 }
  let enqueued := (recordResultDeliveryOutbox applied (surfaceMessage result) now).getD applied
  have hcrashed : applyStateGraphResult s result evidence persistResultDelivery
      CrashPoint.afterwards.fault now = enqueued := by
    rw [crash_afterwards hstopped]
    exact if_pos ((pending_iff hstopped).mpr hconnector)
  have hid : applied.run.id = s.run.id := (settledRows_keeps hstopped none).runId
  have hid' : enqueued.run.id = applied.run.id := by
    have hrows : enqueued.toStores = applied.toStores := recordResult_rows _ _ _
    exact congrArg (fun rows => rows.run.id) hrows
  have hcan : CanEnqueue applied ↔ CanEnqueue s := by
    unfold CanEnqueue
    rw [hid]
  have hsame : applied.outbox = s.outbox := rfl
  have hbefore : EnqueuedOnce applied (surfaceMessage result)
      ↔ EnqueuedOnce s (surfaceMessage result) := EnqueuedOnce.congr hsame hid _
  rw [hcrashed]
  rcases recordResult_outbox applied (surfaceMessage result) now with
    ⟨htakes, houtbox⟩ | ⟨hrefuses, houtbox⟩
  · refine iff_of_true ?_ (.inr (hcan.mp htakes))
    exact enqueuedOnce_inserted htakes (by rw [hid]; exact hstopped.runId) hid' houtbox
  · rw [EnqueuedOnce.congr houtbox hid', hbefore]
    exact (or_iff_left fun htakes => hrefuses (hcan.mpr htakes)).symm

end

/-- A result recovers from the crashes it survives, and from no others when no other
saga of its Run is unfinished and the sweep has room for its own. -/
theorem result_recovered_iff (s : ResultStores) (result : GraphResult)
    (persistResultDelivery : Option Bool) (evidence : Dict) (now : Time) (point : CrashPoint)
    (recovery : Recovery) (hstopped : JustStopped s result) :
    let s' := recover (applyStateGraphResult s result evidence persistResultDelivery point.fault
      now) recovery
    (Survives s result persistResultDelivery now point →
        ResultRecovered s result persistResultDelivery s')
      ∧ (Settled s.toStores → Sweepable s.toStores now →
        ResultRecovered s result persistResultDelivery s' →
          Survives s result persistResultDelivery now point) := by
  intro s'
  cases point with
  | beforeSaga =>
      refine ⟨False.elim, fun hsettled _ hrecovered => ?_⟩
      exact recover_beforeSaga hstopped hsettled recovery hrecovered
  | inApply step =>
      constructor
      · rintro ⟨hmessage, hsweep⟩
        obtain ⟨hprojected, hrun, houtbox⟩ := recover_inApply hstopped hsweep step recovery
        exact ⟨hprojected, fun hconnector =>
          (EnqueuedOnce.congr houtbox hrun _).mpr (hmessage hconnector)⟩
      · rintro - hsweep ⟨-, hmessage⟩
        obtain ⟨-, hrun, houtbox⟩ := recover_inApply hstopped hsweep step recovery
        exact ⟨fun hconnector =>
          (EnqueuedOnce.congr houtbox hrun _).mp (hmessage hconnector), hsweep⟩
  | beforeEnqueue =>
      let crashed := applyStateGraphResult s result evidence persistResultDelivery
        CrashPoint.beforeEnqueue.fault now
      have hcrashed : crashed = { s with toStores :=
          (settledRows s result evidence persistResultDelivery none now).1 } :=
        crash_beforeEnqueue hstopped
      have hrows : crashed.toStores
          = (settledRows s result evidence persistResultDelivery none now).1 := by rw [hcrashed]
      have hsame : crashed.outbox = s.outbox := by rw [hcrashed]
      constructor
      · rintro ⟨hmessage, hsettled⟩
        obtain ⟨hprojected, hrun, houtbox⟩ := recover_applied hstopped hsettled hrows recovery
        exact ⟨hprojected, fun hconnector =>
          (EnqueuedOnce.congr (houtbox.trans hsame) hrun _).mpr (hmessage hconnector)⟩
      · rintro hsettled - ⟨-, hmessage⟩
        obtain ⟨-, hrun, houtbox⟩ := recover_applied hstopped hsettled hrows recovery
        exact ⟨fun hconnector =>
          (EnqueuedOnce.congr (houtbox.trans hsame) hrun _).mp (hmessage hconnector), hsettled⟩
  | afterwards =>
      let crashed := applyStateGraphResult s result evidence persistResultDelivery
        CrashPoint.afterwards.fault now
      have hrows : crashed.toStores
          = (settledRows s result evidence persistResultDelivery none now).1 :=
        crash_afterwards_rows hstopped
      have hid : crashed.run.id = s.run.id := by
        rw [hrows]
        exact (settledRows_keeps hstopped none).runId
      constructor
      · rintro ⟨hmessage, hsettled⟩
        obtain ⟨hprojected, hrun, houtbox⟩ := recover_applied hstopped hsettled hrows recovery
        refine ⟨hprojected, fun hconnector => ?_⟩
        rw [EnqueuedOnce.congr houtbox (hrun.trans hid.symm),
          crash_afterwards_enqueued hstopped hconnector]
        exact hmessage hconnector
      · rintro hsettled - ⟨-, hmessage⟩
        obtain ⟨-, hrun, houtbox⟩ := recover_applied hstopped hsettled hrows recovery
        refine ⟨fun hconnector => ?_, hsettled⟩
        rw [← crash_afterwards_enqueued hstopped hconnector,
          ← EnqueuedOnce.congr houtbox (hrun.trans hid.symm)]
        exact hmessage hconnector

/-! ## A plain loop that converged -/

/-- The plain loop at its final state, with what the runner had collected. -/
def plainConverged : Option (ResultStores × Dict) := do
  let s ← claimCandidate plainStores (plainTick "daemon-1" 1)
  let world := plainWorld "daemon-1" 2 40
  let s := { s with
    run := startRun s.run world.starting
    goal := startGoal s.goal s.loop.run.runId (queueResume false) world.starting }
  let runner := { plainRunner with executionOwner := "daemon-1" }
  let evidence := graphEvidence s.loop.run s.run.id (queueResume false)
  match runLoop runner world.calls evidence (startWorld s.loop [] world.answers) with
  | .ok _ ended => some ({ s with loop := ended.cell }, ended.collected)
  | .error _ _ => none

def plainResult (p : ResultStores × Dict) : GraphResult := ⟨p.1.loop.run, p.2, []⟩

/-- A recovery with nothing else to do. -/
def plainRecovery : Recovery where
  ages := ⟨"loop:durable_goal", 0, 0, 0⟩
  approvals := ⟨none, [], false⟩
  unavailableOwners := ["daemon-1"]
  tick := plainTick "daemon-2" 500
  world := plainWorld "daemon-2" 501 40
  sweeping := 400
  orphaning := 401
  reconciling := 402

theorem plainConverged_justStopped : ∃ p ∈ plainConverged, JustStopped p.1 (plainResult p)
    ∧ ConnectorResult p.1 (plainResult p) none ∧ p.1.sagas.rows = [] ∧ p.1.outbox.rows = [] := by
  have hrun : plainConverged.map (fun p =>
      ([p.1.loop.run.evidence.text "execution_mode", p.1.run.id, p.1.goal.runId, p.1.goal.id,
          p.1.loop.run.goalId, surfaceMessage (plainResult p), p.1.source, p.1.peerId],
        p.1.loop.run.terminalState, p.1.run.phase, p.1.sagas.rows.length, p.1.outbox.rows.length))
      = some (["background", "run", "run", "goal", "goal", "done", "feishu", "peer"],
          some .converged, .running, 0, 0) := by
    decide +kernel
  obtain ⟨p, hp, hfacts⟩ := Option.map_eq_some_iff.mp hrun
  simp only [Prod.mk.injEq, List.cons.injEq, and_true, List.length_eq_zero_iff] at hfacts
  obtain ⟨⟨hmode, hrunId, hgoalRun, hgoalId, hloopGoal, hmessage, hsource, hpeer⟩, hconverged,
    hrunning, hsagas, houtbox⟩ := hfacts
  refine ⟨p, hp, ?_, ?_, hsagas, houtbox⟩
  · refine ⟨?_, rfl, hmode, hrunning,
      ⟨by rw [hrunId, hgoalRun], by rw [hgoalId, hloopGoal]⟩, ?_, ?_⟩
    · simp [LoopRunState.isTerminal, hconverged, LoopTerminalState.suspended]
    · rw [hrunId]
      decide
    · simp [Table.get?, hsagas]
  · exact ⟨hconverged, by simp [hmessage], by simp [hsource], by simp [hpeer], by simp⟩

/-- A crash before the saga leaves the Run of a converged loop running, and one
before the outbox leaves its message unsent. -/
theorem results_lost : ∃ p ∈ plainConverged, JustStopped p.1 (plainResult p)
    ∧ ConnectorResult p.1 (plainResult p) none
    ∧ ¬ ResultRecovered p.1 (plainResult p) none
        (recover (applyStateGraphResult p.1 (plainResult p) [] none CrashPoint.beforeSaga.fault 42)
          plainRecovery)
    ∧ ¬ ResultRecovered p.1 (plainResult p) none
        (recover (applyStateGraphResult p.1 (plainResult p) [] none
          CrashPoint.beforeEnqueue.fault 42) plainRecovery) := by
  have hlost : plainConverged.map (fun p =>
      ((recover (applyStateGraphResult p.1 (plainResult p) [] none
          CrashPoint.beforeSaga.fault 42) plainRecovery).run.phase,
        (recover (applyStateGraphResult p.1 (plainResult p) [] none
          CrashPoint.beforeEnqueue.fault 42) plainRecovery).outbox.rows.length))
      = some (.running, 0) := by
    decide +kernel
  obtain ⟨p, hp, hstopped, hconnector, -, -⟩ := plainConverged_justStopped
  rw [Option.mem_def.mp hp, Option.map_some, Option.some.injEq, Prod.mk.injEq] at hlost
  refine ⟨p, hp, hstopped, hconnector, ?_, ?_⟩
  · rintro ⟨⟨hcarried, -⟩, -⟩
    exact resultUpdates_phase hstopped hcarried hlost.1
  · rintro ⟨-, hmessage⟩
    obtain ⟨item, hitem, -⟩ := hmessage hconnector
    rw [List.length_eq_zero_iff.mp hlost.2] at hitem
    cases hitem

/-- The plain result survives a crash after everything. -/
theorem result_recovered_plain : ∃ p ∈ plainConverged,
    ResultRecovered p.1 (plainResult p) none
      (recover (applyStateGraphResult p.1 (plainResult p) [] none CrashPoint.afterwards.fault 42)
        plainRecovery) := by
  obtain ⟨p, hp, hstopped, hconnector, hsagas, houtbox⟩ := plainConverged_justStopped
  have hcan : CanEnqueue p.1 := by
    have hids : plainConverged.map (fun p => (p.1.source, p.1.peerId))
        = some ("feishu", "peer") := by
      decide +kernel
    rw [Option.mem_def.mp hp, Option.map_some, Option.some.injEq, Prod.mk.injEq] at hids
    refine ⟨by simp [houtbox], ?_, ?_, by simp [Table.get?, houtbox]⟩
    · rw [hids.1]
      decide
    · rw [hids.2]
      decide
  have hsettled : Settled p.1.toStores := by
    intro row hrow
    rw [hsagas] at hrow
    exact absurd hrow List.not_mem_nil
  refine ⟨p, hp, ?_⟩
  exact (result_recovered_iff p.1 (plainResult p) none [] 42 .afterwards plainRecovery
    hstopped).1 ⟨fun _ => .inr hcan, hsettled⟩

end Navi.Lifecycle
