import Mathlib.Data.List.Sort
import Mathlib.Algebra.Order.Ring.Rat
import Navi.Base.System
import Navi.Base.Table
import Navi.Lifecycle.Projection
import Navi.Loop.RunStore

/-!
# Lifecycle sagas

`LifecycleSagaStore`: a loop result is prepared as one durable row and applied
to the Run and the Goal afterwards; a recovery sweep applies again whatever did
not complete, in the order of `updated_at`. A row does not say which version of
the loop it projects, and `apply` does not look.
-/

namespace Navi.Lifecycle

open Navi.Base Navi.Loop

/-- The `status` column. -/
inductive SagaStatus where
  | pending
  | failed
  | completed
  deriving DecidableEq

/-- The kinds of loop transition a saga may carry. -/
inductive LoopTransitionKind where
  | externalWaitCancel
  | externalWaitPause
  deriving DecidableEq

/-- The `loop_transition` of a payload, for the loop of this run. -/
structure LoopTransition where
  kind : LoopTransitionKind
  evidence : Dict

/-- A row of `lifecycle_sagas`, with its payload decoded. -/
structure LifecycleSaga where
  operationKey : String
  runId : String
  goalId : String
  runUpdates : RunUpdates
  goalEvidence : Dict
  loopTransition : Option LoopTransition
  status : SagaStatus
  attempts : Nat
  lastError : String
  createdAt : Time
  updatedAt : Time
  completedAt : Time

/-- The table. `operation_key` is unique and stands for the random `id`. -/
abbrev SagaTable := Table String LifecycleSaga (·.operationKey)

/-- The stores a saga touches, restricted to one run. -/
structure Stores where
  sagas : SagaTable
  run : Run
  goal : Goal
  loop : LoopCell

/-- The steps of `apply` at which it may fail. -/
inductive ApplyStep where
  | loopTransition
  | updateRun
  | updateGoal
  | recordGoalEvent
  | markCompleted
  deriving DecidableEq

/-- What goes wrong in one `apply`, if anything: a step raises, or the process
dies before it. -/
inductive Fault where
  | raises (step : ApplyStep) (error : String)
  | dies (step : ApplyStep)

/-- How one `apply` ended. -/
inductive Applied where
  | completed
  | raised
  | died
  deriving DecidableEq

/-- What `prepare` inserts for a new key. -/
def newSaga (operationKey runId goalId : String) (runUpdates : RunUpdates) (goalEvidence : Dict)
    (loopTransition : Option LoopTransition) (now : Time) : LifecycleSaga where
  operationKey := operationKey
  runId := runId
  goalId := goalId
  runUpdates := runUpdates
  goalEvidence := goalEvidence
  loopTransition := loopTransition
  status := .pending
  attempts := 0
  lastError := ""
  createdAt := now
  updatedAt := now
  completedAt := 0

/-- `prepare`: `ON CONFLICT(operation_key) DO NOTHING`. -/
def prepare (s : Stores) (saga : LifecycleSaga) : Stores :=
  { s with sagas := s.sagas.insertOrIgnore saga }

/-- What `_mark_failed` sets. -/
def LifecycleSaga.asFailed (error : String) (now : Time) (saga : LifecycleSaga) : LifecycleSaga :=
  { saga with
    status := .failed, attempts := saga.attempts + 1, lastError := error, updatedAt := now }

@[simp] theorem LifecycleSaga.asFailed_key (error : String) (now : Time) (saga : LifecycleSaga) :
    (saga.asFailed error now).operationKey = saga.operationKey := rfl

/-- What `_mark_completed` sets. -/
def LifecycleSaga.asCompleted (now : Time) (saga : LifecycleSaga) : LifecycleSaga :=
  { saga with
    status := .completed, attempts := saga.attempts + 1, lastError := "", updatedAt := now,
    completedAt := now }

@[simp] theorem LifecycleSaga.asCompleted_key (now : Time) (saga : LifecycleSaga) :
    (saga.asCompleted now).operationKey = saga.operationKey := rfl

/-- `_mark_failed`. -/
def markFailed (s : Stores) (key error : String) (now : Time) : Stores :=
  let sagas := s.sagas.update (fun row => row.operationKey = key) (·.asFailed error now)
    (LifecycleSaga.asFailed_key error now)
  { s with sagas := sagas }

/-- `_mark_completed`. -/
def markCompleted (s : Stores) (key : String) (now : Time) : Stores :=
  let sagas := s.sagas.update (fun row => row.operationKey = key) (·.asCompleted now)
    (LifecycleSaga.asCompleted_key now)
  { s with sagas := sagas }

def errorText : StoreError → String
  | .keyError message => "KeyError: " ++ message
  | .valueError message => "ValueError: " ++ message
  | .runtimeError message => "RuntimeError: " ++ message

/-- `_apply_loop_transition`. -/
def applyLoopTransition (loop : LoopCell) (loopTransition : Option LoopTransition) (now : Time) :
    Except StoreError LoopCell :=
  match loopTransition with
  | none => .ok loop
  | some ⟨.externalWaitCancel, evidence⟩ => cancelExternalWait loop evidence now
  | some ⟨.externalWaitPause, evidence⟩ => pauseExternalWait loop evidence now

/-- How an `apply` that raised at a step before `_mark_completed` ends. -/
def raised (s : Stores) (saga : LifecycleSaga) (error : String) (now : Time) : Stores × Applied :=
  (markFailed s saga.operationKey error now, .raised)

/-- `apply`, from the projection of the Goal on. -/
def applyToGoal (s : Stores) (saga : LifecycleSaga) (fault : Option Fault) (now : Time) :
    Stores × Applied :=
  match fault with
  | some (.raises .updateGoal error) => raised s saga error now
  | some (.dies .updateGoal) => (s, .died)
  | _ =>
      let s := { s with goal := updateForRun s.goal s.run saga.goalEvidence now }
      match fault with
      | some (.raises .recordGoalEvent error) => raised s saga error now
      | some (.dies .recordGoalEvent) => (s, .died)
      | _ =>
          if s.goal.id ≠ saga.goalId then
            raised s saga ("KeyError: 'goal not found for run: " ++ saga.runId ++ "'") now
          else
            match fault with
            -- the row is marked outside the `try`, so a raise here leaves its status alone
            | some (.raises .markCompleted _) => (s, .raised)
            | some (.dies .markCompleted) => (s, .died)
            | _ => (markCompleted s saga.operationKey now, .completed)

/-- `apply`, from the projection of the Run on. -/
def applyToRun (s : Stores) (saga : LifecycleSaga) (fault : Option Fault) (now : Time) :
    Stores × Applied :=
  match fault with
  | some (.raises .updateRun error) => raised s saga error now
  | some (.dies .updateRun) => (s, .died)
  | _ =>
      if s.run.id ≠ saga.runId then
        raised s saga ("KeyError: 'run not found: " ++ saga.runId ++ "'") now
      else
        applyToGoal { s with run := mergeRunUpdates s.run saga.runUpdates now } saga fault now

/-- `apply`. -/
def apply (s : Stores) (saga : LifecycleSaga) (fault : Option Fault) (now : Time) :
    Stores × Applied :=
  match fault with
  | some (.raises .loopTransition error) => raised s saga error now
  | some (.dies .loopTransition) => (s, .died)
  | _ =>
      match applyLoopTransition s.loop saga.loopTransition now with
      | .error error => raised s saga (errorText error) now
      | .ok loop => applyToRun { s with loop := loop } saga fault now

/-- The rows a recovery sweep selects. -/
def batch (sagas : SagaTable) (limit : Nat) : List LifecycleSaga :=
  ((sagas.rows.filter fun row => row.status ≠ .completed).insertionSort
    fun a b => a.updatedAt ≤ b.updatedAt).take (max 1 limit)

/-- The loop of `recover_pending` over its rows, the `i`-th with fault `faults i`,
and whether every `apply` succeeded. A death ends the sweep. -/
def recoverEach (now : Time) : Stores → List LifecycleSaga → (Nat → Option Fault) → Stores × Bool
  | s, [], _ => (s, true)
  | s, saga :: rest, faults =>
      match apply s saga (faults 0) now with
      | (s, .completed) => recoverEach now s rest fun i => faults (i + 1)
      | (s, .raised) => ((recoverEach now s rest fun i => faults (i + 1)).1, false)
      | (s, .died) => (s, false)

/-- `recover_pending`. -/
def recoverPending (s : Stores) (limit : Nat) (faults : Nat → Option Fault) (now : Time) :
    Stores × Bool :=
  recoverEach now s (batch s.sagas limit) faults

/-- A call on the saga store, or some other writer moving the loop. -/
inductive Label where
  | prepare (operationKey runId goalId : String) (runUpdates : RunUpdates) (goalEvidence : Dict)
      (loopTransition : Option LoopTransition) (now : Time)
  | apply (operationKey : String) (fault : Option Fault) (now : Time)
  | recover (limit : Nat) (faults : Nat → Option Fault) (now : Time)
  | loopMoves (loop : LoopCell)

/-- The calls on the saga store of one run. A prepared saga object has the
payload of its row. -/
def sagaSystem : System Stores Label where
  step s
    | .prepare operationKey runId goalId runUpdates goalEvidence loopTransition now =>
        some (prepare s
          (newSaga operationKey runId goalId runUpdates goalEvidence loopTransition now))
    | .apply operationKey fault now =>
        (s.sagas.get? operationKey).map fun saga => (apply s saga fault now).1
    | .recover limit faults now => some (recoverPending s limit faults now).1
    | .loopMoves loop => some { s with loop := loop }

def latest (sagas : SagaTable) : Option LifecycleSaga := sagas.rows.getLast?

/-- Nothing is replayed over the most recently prepared saga: once it has
completed, no other saga is applied and a sweep finds nothing to do; until then,
a sweep ends with it. -/
def KeepsLatest (s : Stores) : Label → Prop
  | .apply operationKey _ _ =>
      ∀ saga ∈ latest s.sagas, saga.operationKey = operationKey ∨ saga.status ≠ .completed
  | .recover limit _ _ =>
      ∀ saga ∈ latest s.sagas,
        if saga.status = .completed then batch s.sagas limit = []
        else (batch s.sagas limit).getLast? = some saga
  | _ => True

/-- After a sweep in which every `apply` succeeded, the Run and the Goal carry
the updates of the most recently prepared saga. -/
def SweepProjects (s : Stores) : Label → Prop
  | .recover limit faults now =>
      (recoverPending s limit faults now).2 = true →
        ∀ saga ∈ latest (recoverPending s limit faults now).1.sagas,
          saga.runUpdates.Projected (recoverPending s limit faults now).1.run
            (recoverPending s limit faults now).1.goal
  | _ => True

/-! ## What one `apply` does -/

theorem goalState_mergeRunUpdates {run : Run} {updates : RunUpdates}
    (h : updates.CarriedBy run) (now : Time) :
    goalStateForRun (mergeRunUpdates run updates now) = goalStateForRun run := by
  have hphase : updates.phase.getD run.phase = run.phase := by
    cases hv : updates.phase with
    | none => rfl
    | some v => exact (h.phase v hv).symm
  have hgovernance : updates.governance.getD run.governance = run.governance := by
    cases hv : updates.governance with
    | none => rfl
    | some v => exact (h.governance v hv).symm
  have hresolution : updates.resolution.getD run.resolution = run.resolution := by
    cases hv : updates.resolution with
    | none => rfl
    | some v => exact (h.resolution v hv).symm
  simp only [goalStateForRun, mergeRunUpdates, hphase, hgovernance, hresolution]

/-- The Run and the Goal after some of the steps of an `apply`: untouched, or
the Run overlaid and the Goal perhaps derived from it. -/
def PartlyProjected (s : Stores) (saga : LifecycleSaga) (now : Time) (s' : Stores) : Prop :=
  (s'.run = s.run ∧ s'.goal = s.goal)
    ∨ (s'.run = mergeRunUpdates s.run saga.runUpdates now
      ∧ (s'.goal = s.goal ∨ s'.goal.state = goalStateForRun s'.run))

/-- All that `apply` can do: project in part and mark the row failed or leave
it, or project in full and mark it completed. -/
inductive ApplyFacts (s : Stores) (saga : LifecycleSaga) (now : Time) :
    Stores × Applied → Prop where
  | failed {s' : Stores} {applied : Applied} (error : String)
      (hrows : PartlyProjected s saga now s')
      (htable : s'.sagas = (markFailed s saga.operationKey error now).sagas)
      (hended : applied ≠ .completed) : ApplyFacts s saga now (s', applied)
  | stopped {s' : Stores} {applied : Applied} (hrows : PartlyProjected s saga now s')
      (htable : s'.sagas = s.sagas) (hended : applied ≠ .completed) :
      ApplyFacts s saga now (s', applied)
  | completed {s' : Stores} (hrun : s'.run = mergeRunUpdates s.run saga.runUpdates now)
      (hgoal : s'.goal.state = goalStateForRun s'.run)
      (htable : s'.sagas = (markCompleted s saga.operationKey now).sagas) :
      ApplyFacts s saga now (s', .completed)

theorem raised_facts {s s₁ : Stores} {saga : LifecycleSaga} {now : Time} (error : String)
    (hrows : PartlyProjected s saga now s₁) (htable : s₁.sagas = s.sagas) :
    ApplyFacts s saga now (raised s₁ saga error now) := by
  refine ApplyFacts.failed error ?_ ?_ (by simp)
  · exact hrows
  · simp only [markFailed, htable]

theorem applyToGoal_facts {s s₁ : Stores} {saga : LifecycleSaga} {now : Time}
    (hrun : s₁.run = mergeRunUpdates s.run saga.runUpdates now) (hgoal : s₁.goal = s.goal)
    (htable : s₁.sagas = s.sagas) (fault : Option Fault) :
    ApplyFacts s saga now (applyToGoal s₁ saga fault now) := by
  have hbefore : PartlyProjected s saga now s₁ := .inr ⟨hrun, .inl hgoal⟩
  have hafter : PartlyProjected s saga now
      { s₁ with goal := updateForRun s₁.goal s₁.run saga.goalEvidence now } :=
    .inr ⟨hrun, .inr rfl⟩
  unfold applyToGoal
  split
  · exact raised_facts _ hbefore htable
  · exact .stopped hbefore htable (by simp)
  · dsimp only
    split
    · exact raised_facts _ hafter htable
    · exact .stopped hafter htable (by simp)
    · split
      · exact raised_facts _ hafter htable
      · split
        · exact .stopped hafter htable (by simp)
        · exact .stopped hafter htable (by simp)
        · exact .completed hrun rfl (by simp only [markCompleted, htable])

theorem apply_facts (s : Stores) (saga : LifecycleSaga) (fault : Option Fault) (now : Time) :
    ApplyFacts s saga now (apply s saga fault now) := by
  have hbefore : ∀ loop, PartlyProjected s saga now { s with loop := loop } :=
    fun _ => .inl ⟨rfl, rfl⟩
  unfold apply
  split
  · exact raised_facts _ (hbefore s.loop) rfl
  · exact .stopped (hbefore s.loop) rfl (by simp)
  · split
    · exact raised_facts _ (hbefore s.loop) rfl
    next loop _ =>
      unfold applyToRun
      split
      · exact raised_facts _ (hbefore loop) rfl
      · exact .stopped (hbefore loop) rfl (by simp)
      · split
        · exact raised_facts _ (hbefore loop) rfl
        · have hrun : ({ s with loop := loop, run := mergeRunUpdates s.run saga.runUpdates now }
              : Stores).run = mergeRunUpdates s.run saga.runUpdates now := rfl
          exact applyToGoal_facts hrun rfl rfl fault

/-! ## What a run of calls keeps -/

/-- If the most recently prepared saga has completed, the Run and the Goal carry
its updates. -/
def LatestCarried (s : Stores) : Prop :=
  ∀ saga ∈ latest s.sagas, saga.status = .completed → saga.runUpdates.Projected s.run s.goal

/-- The most recently prepared saga is this one, up to its status columns. -/
def IsLatest (key : String) (updates : RunUpdates) (s : Stores) : Prop :=
  ∃ saga ∈ latest s.sagas, saga.operationKey = key ∧ saga.runUpdates = updates

theorem latest_update (sagas : SagaTable) (guard : LifecycleSaga → Bool)
    (set : LifecycleSaga → LifecycleSaga)
    (hset : ∀ saga, (set saga).operationKey = saga.operationKey) :
    latest (sagas.update guard set hset)
      = (latest sagas).map fun saga => if guard saga then set saga else saga := by
  simp [latest, Table.update, Table.updateRows, List.getLast?_map]

theorem latest_markFailed (s : Stores) (key error : String) (now : Time) :
    latest (markFailed s key error now).sagas
      = (latest s.sagas).map fun saga =>
          if saga.operationKey = key then saga.asFailed error now else saga := by
  simp [markFailed, latest_update]

theorem latest_markCompleted (s : Stores) (key : String) (now : Time) :
    latest (markCompleted s key now).sagas
      = (latest s.sagas).map fun saga =>
          if saga.operationKey = key then saga.asCompleted now else saga := by
  simp [markCompleted, latest_update]

theorem projected_partly {s s' : Stores} {saga : LifecycleSaga} {now : Time}
    (h : saga.runUpdates.Projected s.run s.goal) (hrows : PartlyProjected s saga now s') :
    saga.runUpdates.Projected s'.run s'.goal := by
  rcases hrows with ⟨hrun, hgoal⟩ | ⟨hrun, hgoal⟩
  · rwa [hrun, hgoal]
  · have hcarried : saga.runUpdates.CarriedBy s'.run := by
      rw [hrun]
      exact carriedBy_mergeRunUpdates s.run saga.runUpdates now
    refine ⟨hcarried, ?_⟩
    rcases hgoal with hgoal | hgoal
    · rw [hgoal, h.2, hrun, goalState_mergeRunUpdates h.1 now]
    · exact hgoal

theorem apply_latest {s s' : Stores} {saga : LifecycleSaga} {now : Time} {applied : Applied}
    (hfacts : ApplyFacts s saga now (s', applied)) (hcarried : LatestCarried s)
    (hlatest : IsLatest saga.operationKey saga.runUpdates s) : LatestCarried s' := by
  obtain ⟨row, hrow, hkey, hupdates⟩ := hlatest
  intro row' hrow' hdone
  cases hfacts with
  | failed error hrows htable hended =>
      rw [htable, latest_markFailed, Option.mem_def.mp hrow, Option.map_some, if_pos hkey] at hrow'
      obtain rfl := Option.some.inj hrow'
      simp [LifecycleSaga.asFailed] at hdone
  | stopped hrows htable hended =>
      rw [htable, Option.mem_def.mp hrow] at hrow'
      obtain rfl := Option.some.inj hrow'
      rw [hupdates]
      exact projected_partly (hupdates ▸ hcarried row hrow hdone) hrows
  | completed hrun hgoal htable =>
      rw [htable, latest_markCompleted, Option.mem_def.mp hrow, Option.map_some, if_pos hkey]
        at hrow'
      obtain rfl := Option.some.inj hrow'
      refine ⟨?_, hgoal⟩
      simp only [LifecycleSaga.asCompleted, hupdates, hrun]
      exact carriedBy_mergeRunUpdates s.run saga.runUpdates now

theorem apply_other {s s' : Stores} {saga : LifecycleSaga} {now : Time} {applied : Applied}
    (hfacts : ApplyFacts s saga now (s', applied)) {row : LifecycleSaga}
    (hrow : row ∈ latest s.sagas) (hother : row.operationKey ≠ saga.operationKey) :
    row ∈ latest s'.sagas := by
  cases hfacts with
  | failed error hrows htable hended =>
      rw [htable, latest_markFailed, Option.mem_def.mp hrow]
      simp [hother]
  | stopped hrows htable hended =>
      rw [htable]
      exact hrow
  | completed hrun hgoal htable =>
      rw [htable, latest_markCompleted, Option.mem_def.mp hrow]
      simp [hother]

theorem prepare_carried {s : Stores} {saga : LifecycleSaga} (hcarried : LatestCarried s)
    (hpending : saga.status = .pending) : LatestCarried (prepare s saga) := by
  intro row hrow hdone
  simp only [prepare, latest, Table.insertOrIgnore] at hrow
  split at hrow
  · exact hcarried row hrow hdone
  · obtain rfl : saga = row := by simpa using hrow
    rw [hpending] at hdone
    cases hdone

theorem carried_of_open {s : Stores} {row : LifecycleSaga} (hrow : row ∈ latest s.sagas)
    (hopen : row.status ≠ .completed) : LatestCarried s := by
  intro row' hrow' hdone
  obtain rfl : row = row' := Option.mem_unique hrow hrow'
  exact absurd hdone hopen

/-- What a sweep owes at its end: the most recently prepared saga is carried if
it completed, and carried anyway if every `apply` succeeded. -/
def SweptWell (swept : Stores × Bool) : Prop :=
  LatestCarried swept.1
    ∧ (swept.2 = true →
        ∀ saga ∈ latest swept.1.sagas, saga.runUpdates.Projected swept.1.run swept.1.goal)

theorem sweptWell_of_failed {s : Stores} (hcarried : LatestCarried s) : SweptWell (s, false) :=
  ⟨hcarried, by simp⟩

theorem sweptWell_last {s s' : Stores} {saga row : LifecycleSaga} {now : Time} {applied : Applied}
    (hfacts : ApplyFacts s saga now (s', applied)) (hrow : row ∈ latest s.sagas)
    (hkey : row.operationKey = saga.operationKey) (hupdates : row.runUpdates = saga.runUpdates)
    (hopen : row.status ≠ .completed) : SweptWell (s', applied = .completed) := by
  have hcarried : LatestCarried s' :=
    apply_latest hfacts (carried_of_open hrow hopen) ⟨row, hrow, hkey, hupdates⟩
  refine ⟨hcarried, ?_⟩
  intro hdone row' hrow'
  cases hfacts with
  | failed error hrows htable hended => exact absurd (by simpa using hdone) hended
  | stopped hrows htable hended => exact absurd (by simpa using hdone) hended
  | completed hrun hgoal htable =>
      refine hcarried row' hrow' ?_
      rw [htable, latest_markCompleted, Option.mem_def.mp hrow, Option.map_some, if_pos hkey]
        at hrow'
      obtain rfl := Option.some.inj hrow'
      rfl

theorem recoverEach_latest {now : Time} {rows : List LifecycleSaga} {last row : LifecycleSaga}
    (hlast : rows.getLast? = some last) (hnodup : (rows.map (·.operationKey)).Nodup)
    (hkey : row.operationKey = last.operationKey) (hupdates : row.runUpdates = last.runUpdates)
    (hopen : row.status ≠ .completed) {s : Stores} (hrow : row ∈ latest s.sagas)
    (faults : Nat → Option Fault) : SweptWell (recoverEach now s rows faults) := by
  -- by induction on the rows; the row to come stays the table's last and open until its turn
  induction rows generalizing s faults with
  | nil => cases hlast
  | cons saga rest ih =>
      have hfacts := apply_facts s saga (faults 0) now
      unfold recoverEach
      cases rest with
      | nil =>
          obtain rfl : saga = last := by simpa using hlast
          split
          next s' heq =>
            rw [heq] at hfacts
            exact sweptWell_last hfacts hrow hkey hupdates hopen
          next s' heq =>
            rw [heq] at hfacts
            exact sweptWell_last hfacts hrow hkey hupdates hopen
          next s' heq =>
            rw [heq] at hfacts
            exact sweptWell_last hfacts hrow hkey hupdates hopen
      | cons next rest =>
          have hlast' : (next :: rest).getLast? = some last := by simpa using hlast
          rw [List.map_cons, List.nodup_cons] at hnodup
          have hother : row.operationKey ≠ saga.operationKey := by
            intro hsame
            refine hnodup.1 ?_
            rw [← hsame, hkey]
            exact List.mem_map_of_mem (List.mem_of_getLast? hlast')
          split
          next s' heq =>
            rw [heq] at hfacts
            exact ih hlast' hnodup.2 (apply_other hfacts hrow hother) _
          next s' heq =>
            rw [heq] at hfacts
            exact sweptWell_of_failed
              (ih hlast' hnodup.2 (apply_other hfacts hrow hother) _).1
          next s' heq =>
            rw [heq] at hfacts
            exact sweptWell_of_failed (carried_of_open (apply_other hfacts hrow hother) hopen)

theorem batch_nodup (sagas : SagaTable) (limit : Nat) :
    ((batch sagas limit).map (·.operationKey)).Nodup := by
  have hfilter := (List.filter_sublist (l := sagas.rows)
    (p := fun row => row.status ≠ .completed)).map (·.operationKey)
  have hsorted := (List.perm_insertionSort (fun a b : LifecycleSaga => a.updatedAt ≤ b.updatedAt)
    (sagas.rows.filter fun row => row.status ≠ .completed)).map (·.operationKey)
  have htake := (List.take_sublist (max 1 limit) ((sagas.rows.filter fun row =>
    row.status ≠ .completed).insertionSort fun a b => a.updatedAt ≤ b.updatedAt)).map
      (·.operationKey)
  exact htake.nodup (hsorted.nodup_iff.mpr (hfilter.nodup sagas.nodup))

theorem recoverPending_sweptWell {s : Stores} {limit : Nat} {faults : Nat → Option Fault}
    {now : Time} (hcarried : LatestCarried s) (hkeeps : KeepsLatest s (.recover limit faults now)) :
    SweptWell (recoverPending s limit faults now) := by
  unfold recoverPending
  cases hrow : latest s.sagas with
  | none =>
      have hempty : s.sagas.rows = [] := by simpa [latest] using hrow
      have hbatch : batch s.sagas limit = [] := by simp [batch, hempty]
      rw [hbatch]
      exact ⟨hcarried, fun _ saga hsaga => by simp [recoverEach, hrow] at hsaga⟩
  | some row =>
      have hcond := hkeeps row hrow
      split at hcond
      next hdone =>
        rw [hcond]
        refine ⟨hcarried, ?_⟩
        intro _ saga hsaga
        obtain rfl : row = saga := Option.mem_unique (Option.mem_def.mpr hrow) hsaga
        exact hcarried row hrow hdone
      next hopen =>
        exact recoverEach_latest hcond (batch_nodup s.sagas limit) rfl rfl hopen hrow faults

theorem step_carried (s : Stores) (label : Label) (s' : Stores) (hcarried : LatestCarried s)
    (hkeeps : KeepsLatest s label) (hstep : sagaSystem.step s label = some s') :
    LatestCarried s' := by
  cases label with
  | prepare operationKey runId goalId runUpdates goalEvidence loopTransition now =>
      obtain rfl := Option.some.inj hstep
      exact prepare_carried hcarried rfl
  | loopMoves loop =>
      obtain rfl := Option.some.inj hstep
      exact hcarried
  | recover limit faults now =>
      obtain rfl := Option.some.inj hstep
      exact (recoverPending_sweptWell hcarried hkeeps).1
  | apply operationKey fault now =>
      obtain ⟨saga, hsaga, rfl⟩ := Option.map_eq_some_iff.mp hstep
      obtain ⟨hmem, rfl⟩ := Table.get?_eq_some_iff.mp hsaga
      have hfacts :
          ApplyFacts s saga now ((apply s saga fault now).1, (apply s saga fault now).2) :=
        apply_facts s saga fault now
      cases hrow : latest s.sagas with
      | none =>
          have hempty : s.sagas.rows = [] := by simpa [latest] using hrow
          rw [hempty] at hmem
          cases hmem
      | some row =>
          by_cases hkey : row.operationKey = saga.operationKey
          · have hrowMem : row ∈ s.sagas.rows := List.mem_of_getLast? hrow
            obtain rfl := Table.eq_of_key hrowMem hmem hkey
            exact apply_latest hfacts hcarried ⟨row, hrow, rfl, rfl⟩
          · have hopen := (hkeeps row hrow).resolve_left hkey
            exact carried_of_open (apply_other hfacts hrow hkey) hopen

/-- Keyword arguments that move only the phase and the resolution. -/
def phaseUpdates (phase : Phase) (resolution : Resolution) : RunUpdates where
  phase := some phase
  governance := none
  acceptance := none
  resolution := some resolution
  planSummary := none
  resultSummary := none
  error := none
  trustRuleId := none
  autonomyLevel := none

/-- The stores of a running loop, before its first saga. -/
def runningStores : Stores where
  sagas := Table.empty
  run := runningRun "run"
  goal := runningGoal "goal" "run"
  loop := createRun defaultStateGraph "loop" "goal" .plan [] 0

/-- A paused projection fails half way, and is swept together with a later one. -/
def sweptOnce : List Label :=
  [.prepare "loop-result:loop:3" "run" "goal" (phaseUpdates .paused .none) [] none 1,
    .apply "loop-result:loop:3" (some (.raises .updateGoal "disk I/O error")) 2,
    .prepare "loop-result:loop:6" "run" "goal" (phaseUpdates .ended .success) [] none 3,
    .recover 100 (fun _ => none) 4]

/-- The loop pauses, the projection of the pause fails, the loop then converges
and that projection completes. -/
def pausedThenConverged : List Label :=
  [.prepare "loop-result:loop:3" "run" "goal" (phaseUpdates .paused .none) [] none 1,
    .apply "loop-result:loop:3" (some (.raises .updateGoal "disk I/O error")) 2,
    .prepare "loop-result:loop:6" "run" "goal" (phaseUpdates .ended .success) [] none 3,
    .apply "loop-result:loop:6" none 4]

end Navi.Lifecycle
