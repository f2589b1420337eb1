import Navi.Lifecycle.Saga
import Navi.StateGraph.History

/-!
# Sagas of external waits

The saga of a cancelled or paused wait names the loop and not the wait: its key
is the loop's, so a later wait finds the row of an earlier one, and a sweep
applies whatever row did not complete to whatever the loop is doing. The waits of
a loop are numbered here, and each row carries the number of the wait it was last
prepared for. The numbers are not in the source.
-/

namespace Navi.Lifecycle

open Navi.Base Navi.Loop
open Navi.StateGraph (Item Lived externalWaitEvidence)

/-! ## The sagas -/

/-- `reason.strip() or default`. -/
def reasonOr (default reason : String) : String :=
  if strip reason = "" then default else strip reason

/-- The saga of `cancel_external_wait_durably`. -/
def cancelWaitSaga (loopRunId runId goalId reason : String) (now : Time) : LifecycleSaga :=
  let reason := reasonOr "external_wait_cancelled" reason
  let evidence := externalWaitEvidence "external_wait_cancelled" loopRunId reason
  newSaga ("external_wait_cancel:" ++ loopRunId) runId goalId
    { phase := some .ended, governance := some .none, acceptance := some .rejected
      resolution := some .canceled, planSummary := none
      resultSummary := some "external wait cancelled", error := some reason
      trustRuleId := none, autonomyLevel := none }
    evidence (some ⟨.externalWaitCancel, evidence⟩) now

/-- The saga of `pause_external_wait_durably`. -/
def pauseWaitSaga (loopRunId runId goalId reason : String) (now : Time) : LifecycleSaga :=
  let reason := reasonOr "external_wait_paused" reason
  let evidence := externalWaitEvidence "external_wait_paused" loopRunId reason
  newSaga ("external_wait_pause:" ++ loopRunId) runId goalId
    { phase := some .paused, governance := some .none, acceptance := some .unverified
      resolution := some .none, planSummary := none
      resultSummary := some "external wait paused (approval expired)", error := some reason
      trustRuleId := none, autonomyLevel := none }
    evidence (some ⟨.externalWaitPause, evidence⟩) now

def externalWaitSaga (kind : LoopTransitionKind) (loopRunId runId goalId reason : String)
    (now : Time) : LifecycleSaga :=
  match kind with
  | .externalWaitCancel => cancelWaitSaga loopRunId runId goalId reason now
  | .externalWaitPause => pauseWaitSaga loopRunId runId goalId reason now

/-- The loop states in which a call goes on to prepare its saga. -/
def decides (kind : LoopTransitionKind) (run : LoopRunState) : Bool :=
  match kind with
  | .externalWaitCancel => externallyWaiting run
  | .externalWaitPause => run.terminalState = some .waitingApproval

/-! ## The parties -/

/-- A process that prepares or applies sagas. It holds rows by their keys, since
the columns it reads are never changed. -/
inductive Applier where
  | idle
  | decided (kind : LoopTransitionKind) (runId goalId reason : String) (wait : Nat)
  | applying (key : String) (rest : List String)
  | projecting (key : String) (rest : List String)

/-- The rows that a process has yet to be done with. -/
def Applier.keys : Applier → List String
  | .idle | .decided _ _ _ _ _ => []
  | .applying key rest | .projecting key rest => key :: rest

def Applier.next : List String → Applier
  | [] => .idle
  | key :: rest => .applying key rest

/-- The loop, the saga rows, the number of the loop's last wait, the wait each row
was last prepared for, and the processes. -/
structure WaitState where
  life : Lived
  sagas : SagaTable
  wait : Nat
  preparedFor : String → Nat
  appliers : Nat → Applier

/-- A loop that nobody waited for yet. -/
def WaitState.start (life : Lived) : WaitState := ⟨life, .empty, 0, fun _ => 0, fun _ => .idle⟩

def WaitState.become (s : WaitState) (process : Nat) (applier : Applier) : WaitState :=
  { s with appliers := Function.update s.appliers process applier }

@[simp] theorem become_self (s : WaitState) (process : Nat) (applier : Applier) :
    (s.become process applier).appliers process = applier := by
  simp [WaitState.become]

@[simp] theorem become_other (s : WaitState) {process other : Nat} (applier : Applier)
    (h : other ≠ process) : (s.become process applier).appliers other = s.appliers other := by
  simp [WaitState.become, h]

/-- One step of a process, a saga of another kind, or anything else that happens
to the loop. -/
inductive WaitLabel where
  | happens (item : Item)
  | prepareOther (saga : LifecycleSaga)
  | decide (process : Nat) (kind : LoopTransitionKind) (runId goalId reason : String)
  | prepare (process : Nat) (now : Time)
  | sweep (process : Nat) (limit : Nat)
  | loopTransition (process : Nat) (now : Time)
  | fail (process : Nat) (error : String) (now : Time)
  | complete (process : Nat) (now : Time)
  | skip (process : Nat)
  | die (process : Nat)

def beginsToWait (before after : LoopRunState) : Bool :=
  !externallyWaiting before && externallyWaiting after

/-- `_mark_failed`, on the table alone. -/
def SagaTable.markFailed (sagas : SagaTable) (key error : String) (now : Time) : SagaTable :=
  sagas.update (fun row => row.operationKey = key) (·.asFailed error now)
    (LifecycleSaga.asFailed_key error now)

/-- `_mark_completed`, on the table alone. -/
def SagaTable.markCompleted (sagas : SagaTable) (key : String) (now : Time) : SagaTable :=
  sagas.update (fun row => row.operationKey = key) (·.asCompleted now)
    (LifecycleSaga.asCompleted_key now)

/-- A process fails on its row and goes on with the next. -/
def WaitState.failed (s : WaitState) (process : Nat) (key : String) (rest : List String)
    (error : String) (now : Time) : WaitState :=
  { s with sagas := SagaTable.markFailed s.sagas key error now }.become process (.next rest)

/-- Calls and sweeps on the saga store, one transaction at a time, among whatever
else happens to the loop. -/
def waitSystem : System WaitState WaitLabel where
  step s
    | .happens item =>
        let life := item.apply s.life
        some { s with
          life := life
          wait := if beginsToWait s.life.1.run life.1.run then s.wait + 1 else s.wait }
    | .prepareOther saga =>
        if saga.loopTransition = none then
          some { s with sagas := s.sagas.insertOrIgnore saga }
        else none
    | .decide process kind runId goalId reason =>
        match s.appliers process with
        | .idle =>
            if decides kind s.life.1.run then
              some (s.become process (.decided kind runId goalId reason s.wait))
            else none
        | _ => none
    | .prepare process now =>
        match s.appliers process with
        | .decided kind runId goalId reason wait =>
            let saga := externalWaitSaga kind s.life.1.run.runId runId goalId reason now
            some ({ s with
              sagas := s.sagas.insertOrIgnore saga
              preparedFor := Function.update s.preparedFor saga.operationKey wait }.become process
                (.applying saga.operationKey []))
        | _ => none
    | .sweep process limit =>
        match s.appliers process with
        | .idle => some (s.become process (.next ((batch s.sagas limit).map (·.operationKey))))
        | _ => none
    | .loopTransition process now =>
        match s.appliers process with
        | .applying key rest =>
            (s.sagas.get? key).map fun saga =>
              match applyLoopTransition s.life.1 saga.loopTransition now with
              | .ok cell =>
                  { s with life := (cell, s.life.2) }.become process (.projecting key rest)
              | .error error => s.failed process key rest (errorText error) now
        | _ => none
    | .fail process error now =>
        match s.appliers process with
        | .applying key rest | .projecting key rest => some (s.failed process key rest error now)
        | _ => none
    | .complete process now =>
        match s.appliers process with
        | .projecting key rest =>
            some ({ s with sagas := SagaTable.markCompleted s.sagas key now }.become process
              (.next rest))
        | _ => none
    | .skip process =>
        match s.appliers process with
        | .projecting _ rest => some (s.become process (.next rest))
        | _ => none
    | .die process => some (s.become process .idle)

/-! ## The law and its condition -/

/-- The row is one of an external wait, and its wait is the loop's last one. -/
def WaitState.Current (s : WaitState) (key : String) : Prop :=
  ∀ saga ∈ s.sagas.get? key, saga.loopTransition ≠ none → s.preparedFor key = s.wait

/-- Where a saga is applied to a waiting loop, it is one of this wait. -/
def EndsItsOwnWait (s : WaitState) : WaitLabel → Prop
  | .loopTransition process _ =>
      match s.appliers process with
      | .applying key _ => externallyWaiting s.life.1.run = true → s.Current key
      | _ => True
  | _ => True

/-- No saga of an external wait is unfinished, by its row or in a process. -/
structure WaitState.Settled (s : WaitState) : Prop where
  rows : ∀ saga ∈ s.sagas.rows, saga.loopTransition ≠ none → saga.status = .completed
  decided : ∀ process kind runId goalId reason wait,
    s.appliers process ≠ .decided kind runId goalId reason wait
  held : ∀ process, ∀ key ∈ (s.appliers process).keys, ∀ saga ∈ s.sagas.get? key,
    saga.loopTransition = none

/-- The loop begins to wait only where no saga of an external wait is unfinished. -/
def WaitsSettled (s : WaitState) : WaitLabel → Prop
  | .happens item => beginsToWait s.life.1.run (item.apply s.life).1.run = true → s.Settled
  | _ => True

/-! ## The invariant -/

/-- Whatever is unfinished is of the loop's last wait. -/
structure Tracked (s : WaitState) : Prop where
  rows : ∀ key, ∀ saga ∈ s.sagas.get? key, saga.loopTransition ≠ none →
    saga.status ≠ .completed → s.preparedFor key = s.wait
  decided : ∀ process kind runId goalId reason wait,
    s.appliers process = .decided kind runId goalId reason wait → wait = s.wait
  held : ∀ process, ∀ key ∈ (s.appliers process).keys, s.Current key

section

variable {s : WaitState} {process : Nat}

@[simp] theorem keys_next (rest : List String) : (Applier.next rest).keys = rest := by
  cases rest <;> rfl

theorem next_ne_decided {rest : List String} {kind : LoopTransitionKind}
    {runId goalId reason : String} {wait : Nat} :
    Applier.next rest ≠ .decided kind runId goalId reason wait := by
  cases rest <;> exact Applier.noConfusion

theorem tracked_start (life : Lived) : Tracked (.start life) where
  rows := fun _ _ hsaga => nomatch hsaga
  decided := fun _ _ _ _ _ _ h => nomatch h
  held := fun _ _ hkey => nomatch hkey

theorem Tracked.become (h : Tracked s) {applier : Applier}
    (hdecided : ∀ kind runId goalId reason wait,
      applier = .decided kind runId goalId reason wait → wait = s.wait)
    (hkeys : ∀ key ∈ applier.keys, s.Current key) : Tracked (s.become process applier) where
  rows := h.rows
  decided := by
    intro other kind runId goalId reason wait hother
    by_cases hsame : other = process
    · subst hsame
      rw [become_self] at hother
      exact hdecided kind runId goalId reason wait hother
    · rw [become_other s applier hsame] at hother
      exact h.decided other kind runId goalId reason wait hother
  held := by
    intro other key hkey
    by_cases hsame : other = process
    · subst hsame
      rw [become_self] at hkey
      exact hkeys key hkey
    · rw [become_other s applier hsame] at hkey
      exact h.held other key hkey

theorem Tracked.next (h : Tracked s) {rest : List String} (hkeys : ∀ key ∈ rest, s.Current key) :
    Tracked (s.become process (.next rest)) :=
  h.become (fun _ _ _ _ _ hdecided => absurd hdecided next_ne_decided) (by simpa using hkeys)

theorem get?_marked {sagas : SagaTable} {key other : String}
    (set : LifecycleSaga → LifecycleSaga)
    (hset : ∀ saga, (set saga).operationKey = saga.operationKey)
    (hkeeps : ∀ saga, (set saga).loopTransition = saga.loopTransition) {saga' : LifecycleSaga}
    (h : saga' ∈ (sagas.update (fun row => row.operationKey = key) set hset).get? other) :
    ∃ saga ∈ sagas.get? other, saga.loopTransition = saga'.loopTransition
      ∧ (other ≠ key → saga = saga') := by
  rw [Table.get?_update] at h
  obtain ⟨saga, hsaga, rfl⟩ := Option.mem_map.mp h
  refine ⟨saga, hsaga, ?_, ?_⟩
  · split
    · exact (hkeeps saga).symm
    · rfl
  · intro hother
    have hkey : saga.operationKey ≠ key := by
      rwa [(Table.get?_eq_some_iff.mp hsaga).2]
    simp [hkey]

theorem Tracked.mark (h : Tracked s) {key : String} (hcurrent : s.Current key)
    (set : LifecycleSaga → LifecycleSaga)
    (hset : ∀ saga, (set saga).operationKey = saga.operationKey)
    (hkeeps : ∀ saga, (set saga).loopTransition = saga.loopTransition) :
    Tracked { s with sagas := s.sagas.update (fun row => row.operationKey = key) set hset }
      ∧ ∀ other, s.Current other → WaitState.Current
          { s with sagas := s.sagas.update (fun row => row.operationKey = key) set hset }
          other := by
  have hstays : ∀ other, s.Current other → WaitState.Current
      { s with sagas := s.sagas.update (fun row => row.operationKey = key) set hset } other := by
    intro other hother saga' hsaga' hexternal
    obtain ⟨saga, hsaga, htransition, -⟩ := get?_marked set hset hkeeps hsaga'
    exact hother saga hsaga (htransition ▸ hexternal)
  refine ⟨⟨?_, h.decided, fun process other hheld => hstays other (h.held process other hheld)⟩,
    hstays⟩
  intro other saga' hsaga' hexternal hopen
  obtain ⟨saga, hsaga, htransition, hsame⟩ := get?_marked set hset hkeeps hsaga'
  by_cases hother : other = key
  · subst hother
    exact hcurrent saga hsaga (htransition ▸ hexternal)
  · obtain rfl := hsame hother
    exact h.rows other saga hsaga hexternal hopen

theorem Tracked.failed (h : Tracked s) {key : String} {rest : List String}
    (hheld : ∀ held ∈ key :: rest, s.Current held) (error : String) (now : Time) :
    Tracked (s.failed process key rest error now) := by
  obtain ⟨hmarked, hstays⟩ := h.mark (hheld key List.mem_cons_self) (·.asFailed error now)
    (LifecycleSaga.asFailed_key error now) fun _ => rfl
  exact hmarked.next fun held hmem => hstays held (hheld held (List.mem_cons_of_mem key hmem))

theorem Tracked.happens (h : Tracked s) {life : Lived}
    (hsettled : beginsToWait s.life.1.run life.1.run = true → s.Settled) :
    Tracked { s with
      life := life
      wait := if beginsToWait s.life.1.run life.1.run then s.wait + 1 else s.wait } := by
  split
  next hbegins =>
    obtain ⟨hrows, hdecided, hheld⟩ := hsettled hbegins
    refine ⟨?_, ?_, ?_⟩
    · intro key saga hsaga hexternal hopen
      exact absurd (hrows saga (Table.get?_eq_some_iff.mp hsaga).1 hexternal) hopen
    · intro process kind runId goalId reason wait hprocess
      exact absurd hprocess (hdecided process kind runId goalId reason wait)
    · intro process key hkey saga hsaga hexternal
      exact absurd (hheld process key hkey saga hsaga) hexternal
  next => exact ⟨h.rows, h.decided, h.held⟩

theorem Tracked.prepareOther (h : Tracked s) {new : LifecycleSaga}
    (hother : new.loopTransition = none) :
    Tracked { s with sagas := s.sagas.insertOrIgnore new } := by
  have hold : ∀ key, ∀ saga ∈ (s.sagas.insertOrIgnore new).get? key,
      saga.loopTransition ≠ none → saga ∈ s.sagas.get? key := by
    intro key saga hsaga hexternal
    rw [Table.get?_insertOrIgnore] at hsaga
    rcases Option.or_eq_some_iff.mp hsaga with hsaga | ⟨-, hnew⟩
    · exact hsaga
    · split at hnew
      · obtain rfl := Option.some.inj hnew
        exact absurd hother hexternal
      · cases hnew
  refine ⟨?_, h.decided, ?_⟩
  · intro key saga hsaga hexternal hopen
    exact h.rows key saga (hold key saga hsaga hexternal) hexternal hopen
  · intro process key hkey saga hsaga hexternal
    exact h.held process key hkey saga (hold key saga hsaga hexternal) hexternal

theorem Tracked.prepare (h : Tracked s) (new : LifecycleSaga) :
    Tracked { s with
      sagas := s.sagas.insertOrIgnore new
      preparedFor := Function.update s.preparedFor new.operationKey s.wait } := by
  have hold : ∀ key, key ≠ new.operationKey →
      (s.sagas.insertOrIgnore new).get? key = s.sagas.get? key := by
    intro key hkey
    rw [Table.get?_insertOrIgnore, if_neg (Ne.symm hkey), Option.or_none]
  refine ⟨?_, h.decided, ?_⟩
  · intro key saga hsaga hexternal hopen
    by_cases hkey : key = new.operationKey
    · subst hkey
      exact Function.update_self ..
    · rw [hold key hkey] at hsaga
      show Function.update s.preparedFor new.operationKey s.wait key = s.wait
      rw [Function.update_of_ne hkey]
      exact h.rows key saga hsaga hexternal hopen
  · intro process key hheld saga hsaga hexternal
    by_cases hkey : key = new.operationKey
    · subst hkey
      exact Function.update_self ..
    · have hsaga : saga ∈ s.sagas.get? key := hold key hkey ▸ hsaga
      show Function.update s.preparedFor new.operationKey s.wait key = s.wait
      rw [Function.update_of_ne hkey]
      exact h.held process key hheld saga hsaga hexternal

theorem Tracked.batch_current (h : Tracked s) {limit : Nat} :
    ∀ key ∈ (batch s.sagas limit).map (·.operationKey), s.Current key := by
  intro key hkey saga hsaga hexternal
  obtain ⟨row, hrow, rfl⟩ := List.mem_map.mp hkey
  have hmem := (List.mem_insertionSort _).mp (List.mem_of_mem_take hrow)
  obtain ⟨hmem, hopen⟩ := List.mem_filter.mp hmem
  obtain rfl : row = saga :=
    Option.some.inj ((Table.get?_of_mem hmem).symm.trans hsaga)
  exact h.rows row.operationKey row hsaga hexternal (of_decide_eq_true hopen)

theorem tracked_step (s : WaitState) (label : WaitLabel) (s' : WaitState) (h : Tracked s)
    (hsettled : WaitsSettled s label) (hstep : waitSystem.step s label = some s') :
    Tracked s' := by
  cases label with
  | happens item =>
      obtain rfl := Option.some.inj hstep
      exact h.happens hsettled
  | prepareOther saga =>
      simp only [waitSystem] at hstep
      split at hstep
      next hother =>
        obtain rfl := Option.some.inj hstep
        exact h.prepareOther hother
      next => cases hstep
  | decide process kind runId goalId reason =>
      simp only [waitSystem] at hstep
      split at hstep
      · split at hstep
        · obtain rfl := Option.some.inj hstep
          refine h.become ?_ fun _ hkey => absurd hkey List.not_mem_nil
          intro _ _ _ _ wait hdecided
          exact ((Applier.decided.inj hdecided).2.2.2.2).symm
        · cases hstep
      · cases hstep
  | prepare process now =>
      simp only [waitSystem] at hstep
      split at hstep
      next kind runId goalId reason wait hdecided =>
        obtain rfl := Option.some.inj hstep
        obtain rfl := h.decided process kind runId goalId reason wait hdecided
        have hprepared := h.prepare
          (externalWaitSaga kind s.life.1.run.runId runId goalId reason now)
        refine hprepared.become (fun _ _ _ _ _ => Applier.noConfusion) ?_
        intro key hkey saga hsaga hexternal
        obtain rfl := List.mem_singleton.mp hkey
        exact Function.update_self ..
      next => cases hstep
  | sweep process limit =>
      simp only [waitSystem] at hstep
      split at hstep
      · obtain rfl := Option.some.inj hstep
        exact h.next h.batch_current
      · cases hstep
  | loopTransition process now =>
      simp only [waitSystem] at hstep
      split at hstep
      next key rest happlying =>
        have hheld : ∀ held ∈ key :: rest, s.Current held := by
          intro held hmem
          refine h.held process held ?_
          rw [happlying]
          exact hmem
        obtain ⟨saga, hsaga, rfl⟩ := Option.map_eq_some_iff.mp hstep
        split
        next cell _ =>
          have hmoved : Tracked { s with life := (cell, s.life.2) } :=
            ⟨h.rows, h.decided, h.held⟩
          exact hmoved.become (fun _ _ _ _ _ => Applier.noConfusion) hheld
        next error _ => exact h.failed hheld (errorText error) now
      next => cases hstep
  | fail process error now =>
      simp only [waitSystem] at hstep
      split at hstep
      next key rest hprocess =>
        obtain rfl := Option.some.inj hstep
        exact h.failed (fun held hmem => h.held process held (hprocess ▸ hmem)) error now
      next key rest hprocess =>
        obtain rfl := Option.some.inj hstep
        exact h.failed (fun held hmem => h.held process held (hprocess ▸ hmem)) error now
      next => cases hstep
  | complete process now =>
      simp only [waitSystem] at hstep
      split at hstep
      next key rest hprocess =>
        obtain rfl := Option.some.inj hstep
        have hheld : ∀ held ∈ key :: rest, s.Current held :=
          fun held hmem => h.held process held (hprocess ▸ hmem)
        obtain ⟨hmarked, hstays⟩ := h.mark (hheld key List.mem_cons_self) (·.asCompleted now)
          (LifecycleSaga.asCompleted_key now) fun _ => rfl
        exact hmarked.next fun held hmem =>
          hstays held (hheld held (List.mem_cons_of_mem key hmem))
      next => cases hstep
  | skip process =>
      simp only [waitSystem] at hstep
      split at hstep
      next key rest hprocess =>
        obtain rfl := Option.some.inj hstep
        exact h.next fun held hmem =>
          h.held process held (hprocess ▸ List.mem_cons_of_mem key hmem)
      next => cases hstep
  | die process =>
      obtain rfl := Option.some.inj hstep
      exact h.become (fun _ _ _ _ _ => Applier.noConfusion) fun _ hkey =>
        absurd hkey List.not_mem_nil

theorem tracked_ends (s : WaitState) (label : WaitLabel) (h : Tracked s) :
    EndsItsOwnWait s label := by
  cases label with
  | loopTransition process now =>
      unfold EndsItsOwnWait
      dsimp only
      split
      next key rest happlying =>
        intro _
        exact h.held process key (happlying ▸ List.mem_cons_self)
      next => trivial
  | _ => trivial

end

/-- In every run whose waits begin with no unfinished saga of an external wait,
every saga that is applied to a waiting loop is one of that wait. -/
theorem sagas_end_their_own_wait {life : Lived} {labels : List WaitLabel}
    (hsettled : waitSystem.Along WaitsSettled (.start life) labels) :
    waitSystem.Along EndsItsOwnWait (.start life) labels :=
  waitSystem.along_of_invariant tracked_step (fun s label h _ => tracked_ends s label h)
    (tracked_start life) hsettled

/-- A drive of the plain runner that the gate pauses at this operation. -/
def pausingDrive (start operation : Nat) : Item :=
  StateGraph.plainDrive [] ((StateGraph.plainAnswers start 20).modify operation fun answer =>
    { answer with grant := StateGraph.plainGrant .pause })

/-- The second wait of a loop is cancelled by its saga, which a sweep applies since the
process that prepared it died. -/
def cancelledWait : List WaitLabel :=
  [.happens (pausingDrive 1 8), .happens (.reopensForResume 40), .happens (pausingDrive 50 2),
    .decide 0 .externalWaitCancel "run" "goal" "", .prepare 0 80, .die 0, .sweep 1 100,
    .loopTransition 1 90, .complete 1 91]

theorem settled_of_none {s : WaitState} (hrows : s.sagas = .empty)
    (happliers : s.appliers = fun _ => .idle) : s.Settled where
  rows _ hrow := by
    rw [hrows] at hrow
    exact absurd hrow List.not_mem_nil
  decided _ _ _ _ _ _ h := by
    rw [happliers] at h
    cases h
  held _ _ hkey := by
    rw [happliers] at hkey
    exact absurd hkey List.not_mem_nil

theorem cancelledWait_ends :
    waitSystem.Along EndsItsOwnWait (.start StateGraph.plainLoop) cancelledWait := by
  -- the waits begin before any saga is prepared
  refine sagas_end_their_own_wait ⟨fun _ => settled_of_none rfl rfl, fun s₁ hs₁ => ?_⟩
  obtain rfl := Option.some.inj hs₁
  refine ⟨fun _ => settled_of_none rfl rfl, fun s₂ hs₂ => ?_⟩
  obtain rfl := Option.some.inj hs₂
  exact ⟨fun _ => settled_of_none rfl rfl, fun _ _ => ⟨trivial, fun _ _ => ⟨trivial,
    fun _ _ => ⟨trivial, fun _ _ => ⟨trivial, fun _ _ => ⟨trivial, fun _ _ => ⟨trivial,
      fun _ _ => trivial⟩⟩⟩⟩⟩⟩⟩

instance decidableCurrent (s : WaitState) (key : String) : Decidable (s.Current key) :=
  inferInstanceAs (Decidable (∀ saga ∈ s.sagas.get? key,
    saga.loopTransition ≠ none → s.preparedFor key = s.wait))

instance decidableEndsItsOwnWait (s : WaitState) : (label : WaitLabel) →
    Decidable (EndsItsOwnWait s label)
  | .loopTransition process _ =>
      match h : s.appliers process with
      | .applying key _ =>
          decidable_of_iff (externallyWaiting s.life.1.run = true → s.Current key)
            (by simp [EndsItsOwnWait, h])
      | .idle | .decided _ _ _ _ _ | .projecting _ _ => .isTrue (by simp [EndsItsOwnWait, h])
  | .happens _ | .prepareOther _ | .decide _ _ _ _ _ | .prepare _ _ | .sweep _ _ | .fail _ _ _
  | .complete _ _ | .skip _ | .die _ => inferInstanceAs (Decidable True)

/-- A call dies before it cancels the wait; the loop is resumed and waits again. -/
def interruptedCancel : List WaitLabel :=
  [.happens (pausingDrive 1 8), .decide 0 .externalWaitCancel "run" "goal" "", .prepare 0 30,
    .die 0, .happens (.reopensForResume 40), .happens (pausingDrive 50 2), .sweep 1 100,
    .loopTransition 1 90]

/-- The sweep cancels the later wait. -/
theorem interruptedCancel_endsLaterWait :
    ¬ waitSystem.Along EndsItsOwnWait (.start StateGraph.plainLoop) interruptedCancel := by
  decide +kernel

end Navi.Lifecycle
