import Navi.Lifecycle.Results

/-!
# Resumes that come late

`process_queue_once` resumes the loops it claimed one after another, and so may
resume a loop that another driver has finished in the meantime. The resume writes
its Run and its Goal before the runner looks at the loop.
-/

namespace Navi.Lifecycle

open Navi.Base Navi.Loop
open Navi.StateGraph (ResumeRequest QueueTick queueClaim queueResume reopenToResume)

/-- A resume of the loop: of a caller, or of the daemon that had claimed it. -/
inductive LateResume where
  | resume (request : ResumeRequest) (world : ResumeWorld)
  | candidate (owner : String) (retryPause : Bool) (world : ResumeWorld)

def LateResume.request : LateResume → ResumeRequest
  | .resume request _ => request
  | .candidate _ retryPause _ => queueResume retryPause

def LateResume.world : LateResume → ResumeWorld
  | .resume _ world | .candidate _ _ world => world

/-- Resumes in any number and order, each with the point it stops at. -/
def lateMachine : Machine ResultStores (LateResume × Option ResumeFault) Unit where
  step s
    | (.resume request world, fault) => (resumeGoalLoopRun s request world fault, ())
    | (.candidate owner retryPause world, fault) =>
        (processCandidate s owner retryPause world fault, ())

/-- The loop is at a final state, and the Run carries a projection of it. -/
def Finished (s : ResultStores) : Prop := s.loop.run.isTerminal = true ∧ s.run.phase ≠ .running

/-- The phases and the resolutions are those of before. -/
def KeepsOutcome (s s' : ResultStores) : Prop :=
  s'.run.phase = s.run.phase ∧ s'.run.resolution = s.run.resolution
    ∧ s'.goal.state.phase = s.goal.state.phase ∧ s'.goal.state.resolution = s.goal.state.resolution

/-- The resume raises before it writes to the Run: it asks for the retry of a
pause, or a row, the spec or the workspace is missing. -/
def RaisesFirst (s : ResultStores) (call : LateResume) : Prop :=
  s.goal.id ≠ s.loop.run.goalId ∨ call.request.retryPause ∨ call.request.resourceRetry
    ∨ call.world.runner.toBool = false ∨ call.world.workspace.toBool = false
    ∨ s.goal.runId = "" ∨ s.run.id ≠ s.goal.runId

/-! ## The projections of a final state -/

/-! ## A resume of a finished loop -/

section

variable {s : ResultStores} {request : ResumeRequest} {world : ResumeWorld}

theorem reopenRetries_refused {cell : LoopCell} (hterminal : cell.run.isTerminal = true)
    (now : Time) :
    (∃ error, reopenRetryablePause cell now = .error error)
      ∧ ∃ error, reopenResourcePause cell now = .error error := by
  have hpaused : cell.run.terminalState ≠ some .paused := by
    intro h
    simp [LoopRunState.isTerminal, h, LoopTerminalState.suspended] at hterminal
  have hresource : ∃ error, reopenResourcePause cell now = .error error := by
    simp [reopenResourcePause, hpaused]
  refine ⟨?_, hresource⟩
  unfold reopenRetryablePause
  extract_lets current
  split
  next => exact hresource
  next => exact ⟨_, if_pos hpaused⟩

/-- A loop at a final state is not reopened: a retry raises, and without one the
loop is handed on as it is. -/
theorem reopenToResume_terminal {cell : LoopCell} (hterminal : cell.run.isTerminal = true)
    (request : ResumeRequest) (now later : Time) :
    (request.retryPause ∨ request.resourceRetry)
        ∧ (∃ error, reopenToResume cell request now later = .error error)
      ∨ (request.retryPause = false ∧ request.resourceRetry = false)
        ∧ reopenToResume cell request now later = .ok cell := by
  obtain ⟨⟨retryError, hretry⟩, resourceError, hresource⟩ := reopenRetries_refused hterminal now
  have hwaiting : externallyWaiting cell.run = false := by
    by_contra h
    rw [isTerminal_of_waiting (by simpa using h)] at hterminal
    cases hterminal
  cases hpause : request.retryPause with
  | true =>
      refine .inl ⟨.inl rfl, retryError, ?_⟩
      simp [reopenToResume, hpause, hretry, bind, Except.bind]
  | false =>
      cases hrequest : request.resourceRetry with
      | true =>
          refine .inl ⟨.inr rfl, resourceError, ?_⟩
          simp [reopenToResume, hpause, hrequest, hresource, bind, Except.bind]
      | false =>
          refine .inr ⟨⟨rfl, rfl⟩, ?_⟩
          simp [reopenToResume, hpause, hrequest, hwaiting, bind, Except.bind]

theorem resumeGoalLoopRun_raising (hterminal : s.loop.run.isTerminal = true)
    (hraises : RaisesFirst s (.resume request world)) (fault : Option ResumeFault) :
    resumeGoalLoopRun s request world fault = s := by
  unfold resumeGoalLoopRun
  split
  next => rfl
  next hgoal =>
    dsimp only
    rcases reopenToResume_terminal hterminal request world.reopening world.resuming with
      ⟨-, error, hreopen⟩ | ⟨⟨hpause, hresource⟩, hreopen⟩
    · rw [hreopen]
    · rw [hreopen]
      dsimp only
      simp only [RaisesFirst, LateResume.request, LateResume.world, hpause, hresource] at hraises
      cases hrunner : world.runner with
      | error _ => rfl
      | ok runner =>
          cases hworkspace : world.workspace with
          | error _ => rfl
          | ok _ =>
              dsimp only
              rw [if_pos]
              rw [hrunner, hworkspace] at hraises
              simpa [Except.toBool, not_not.mp hgoal] using hraises

theorem resumeGoalLoopRun_starting (hterminal : s.loop.run.isTerminal = true)
    (hstarts : ¬ RaisesFirst s (.resume request world)) :
    (resumeGoalLoopRun s request world (some .updateGoal)).run.phase = .running := by
  simp only [RaisesFirst, LateResume.request, LateResume.world, not_or, not_not, ne_eq,
    Bool.not_eq_true, Bool.not_eq_false] at hstarts
  obtain ⟨hgoal, hpause, hresource, hrunner, hworkspace, hrunId, hrun⟩ := hstarts
  have hreopen : reopenToResume s.loop request world.reopening world.resuming = .ok s.loop := by
    rcases reopenToResume_terminal hterminal request world.reopening world.resuming with
      ⟨hretry, -⟩ | ⟨-, hreopen⟩
    · simp [hpause, hresource] at hretry
    · exact hreopen
  obtain ⟨runner, hrunner⟩ : ∃ runner, world.runner = .ok runner := by
    cases h : world.runner with
    | error _ => simp [h, Except.toBool] at hrunner
    | ok runner => exact ⟨runner, rfl⟩
  obtain ⟨found, hworkspace⟩ : ∃ found, world.workspace = .ok found := by
    cases h : world.workspace with
    | error _ => simp [h, Except.toBool] at hworkspace
    | ok found => exact ⟨found, rfl⟩
  unfold resumeGoalLoopRun
  rw [if_neg (not_not.mpr hgoal)]
  dsimp only
  rw [hreopen, hrunner, hworkspace]
  dsimp only
  rw [if_neg (by simp [hrunId, hrun])]
  rfl

/-- The Run and the Goal of a finished loop after a late resume that raises first:
it may release the lease, and changes nothing else. -/
structure Untouched (s s' : ResultStores) : Prop where
  run : s'.run = s.run
  goal : s'.goal = s.goal
  goalId : s'.loop.run.goalId = s.loop.run.goalId
  terminal : s'.loop.run.terminalState = s.loop.run.terminalState

theorem Untouched.refl (s : ResultStores) : Untouched s s := ⟨rfl, rfl, rfl, rfl⟩

theorem Untouched.trans {s₁ s₂ s₃ : ResultStores} (h : Untouched s₁ s₂) (h' : Untouched s₂ s₃) :
    Untouched s₁ s₃ :=
  ⟨h'.run.trans h.run, h'.goal.trans h.goal, h'.goalId.trans h.goalId,
    h'.terminal.trans h.terminal⟩

theorem Untouched.keepsOutcome {s s' : ResultStores} (h : Untouched s s') : KeepsOutcome s s' := by
  unfold KeepsOutcome
  rw [h.run, h.goal]
  exact ⟨rfl, rfl, rfl, rfl⟩

theorem Untouched.isTerminal {s s' : ResultStores} (h : Untouched s s') :
    s'.loop.run.isTerminal = s.loop.run.isTerminal := by
  unfold LoopRunState.isTerminal
  rw [h.terminal]

theorem Untouched.raisesFirst {s s' : ResultStores} (h : Untouched s s') (call : LateResume) :
    RaisesFirst s' call ↔ RaisesFirst s call := by
  unfold RaisesFirst
  rw [h.run, h.goal, h.goalId]

theorem step_untouched (hterminal : s.loop.run.isTerminal = true) {call : LateResume}
    (hraises : RaisesFirst s call) (fault : Option ResumeFault) :
    Untouched s (lateMachine.step s (call, fault)).1 := by
  cases call with
  | resume request world =>
      have hsame := resumeGoalLoopRun_raising hterminal hraises fault
      simp only [lateMachine, hsame]
      exact .refl s
  | candidate owner retryPause world =>
      simp only [lateMachine, processCandidate]
      split
      next =>
        -- the Goal is gone, so the daemon gives the lease back
        unfold releaseExecutionLease
        split
        · exact ⟨rfl, rfl, rfl, rfl⟩
        · exact .refl s
      next =>
        rw [resumeGoalLoopRun_raising hterminal hraises fault]
        exact .refl s

theorem step_starting (hterminal : s.loop.run.isTerminal = true) {call : LateResume}
    (hstarts : ¬ RaisesFirst s call) :
    (lateMachine.step s (call, some .updateGoal)).1.run.phase = .running := by
  cases call with
  | resume request world => exact resumeGoalLoopRun_starting hterminal hstarts
  | candidate owner retryPause world =>
      have hgoal : s.goal.id = s.loop.run.goalId := not_not.mp fun h => hstarts (.inl h)
      simp only [lateMachine, processCandidate, hgoal, ne_eq, not_true_eq_false, if_false]
      exact resumeGoalLoopRun_starting hterminal hstarts

end

/-- Late resumes leave the outcome of a finished loop alone, whatever their number
and order and wherever each one stops, if and only if each of them raises first. -/
theorem outcome_kept_iff (s : ResultStores) (hfinished : Finished s) (calls : Set LateResume) :
    (∀ steps : List (LateResume × Option ResumeFault), (∀ step ∈ steps, step.1 ∈ calls) →
        KeepsOutcome s (lateMachine.run s steps))
      ↔ ∀ call ∈ calls, RaisesFirst s call := by
  obtain ⟨hterminal, hphase⟩ := hfinished
  constructor
  · intro hkeeps call hcall
    by_contra hstarts
    have hkept := hkeeps [(call, some .updateGoal)] (by simpa using hcall)
    have hrunning := step_starting hterminal hstarts
    rw [Machine.run_cons, Machine.run_nil] at hkept
    exact hphase (hkept.1.symm.trans hrunning)
  · intro hraises steps hsteps
    suffices huntouched : Untouched s (lateMachine.run s steps) from huntouched.keepsOutcome
    -- from every state so far untouched, by induction on the steps that are left
    suffices h : ∀ s', Untouched s s' → Untouched s (lateMachine.run s' steps) from
      h s (.refl s)
    induction steps with
    | nil => exact fun s' hs' => hs'
    | cons step steps ih =>
        intro s' hs'
        obtain ⟨call, fault⟩ := step
        have hcall : RaisesFirst s' call :=
          (hs'.raisesFirst call).mpr (hraises call (hsteps _ List.mem_cons_self))
        have hterminal' : s'.loop.run.isTerminal = true := hs'.isTerminal.trans hterminal
        refine ih (fun step hstep => hsteps step (List.mem_cons_of_mem _ hstep)) _ ?_
        exact hs'.trans (step_untouched hterminal' hcall fault)

/-- One daemon claims the loop, and its lease ends; another claims it, converges and
delivers the result. -/
def deliveredMeanwhile : Option ResultStores := do
  let s ← claimCandidate plainStores (plainTick "daemon-1" 1)
  let s ← claimCandidate s (plainTick "daemon-2" 200)
  let s := processCandidate s "daemon-2" false (plainWorld "daemon-2" 201 40) none
  return recordDelivery s [] "done" 300

/-- The first daemon comes to its candidate, and the Run waits for a delivery again. -/
theorem delivered_run_reopened :
    ∃ s ∈ deliveredMeanwhile, Finished s ∧ s.run.phase = .ended ∧ s.run.resolution = .success
      ∧ (processCandidate s "daemon-1" false (plainWorld "daemon-1" 301 40) none).run.phase
          = .paused
      ∧ ¬ KeepsOutcome s
          (processCandidate s "daemon-1" false (plainWorld "daemon-1" 301 40) none) := by
  have hrun : deliveredMeanwhile.map (fun s =>
      (s.loop.run.isTerminal, s.run.phase, s.run.resolution,
        (processCandidate s "daemon-1" false (plainWorld "daemon-1" 301 40) none).run.phase))
        = some (true, .ended, .success, .paused) := by
    decide +kernel
  obtain ⟨s, hs, hphases⟩ := Option.map_eq_some_iff.mp hrun
  simp only [Prod.mk.injEq] at hphases
  obtain ⟨hterminal, hended, hsuccess, hpaused⟩ := hphases
  refine ⟨s, hs, ⟨hterminal, by rw [hended]; decide⟩, hended, hsuccess, hpaused, ?_⟩
  intro hkept
  have hphase := hkept.1
  rw [hpaused, hended] at hphase
  cases hphase

/-- A retry that comes late leaves the delivered Run alone. -/
theorem outcome_kept_late :
    ∃ s ∈ deliveredMeanwhile, KeepsOutcome s (lateMachine.run s
      [(.candidate "daemon-1" true (plainWorld "daemon-1" 301 40), none)]) := by
  have hrun : deliveredMeanwhile.map (fun s => (s.loop.run.isTerminal, s.run.phase))
      = some (true, .ended) := by
    decide +kernel
  obtain ⟨s, hs, hfinal⟩ := Option.map_eq_some_iff.mp hrun
  obtain ⟨hterminal, hended⟩ := Prod.mk.inj hfinal
  have hfinished : Finished s := ⟨hterminal, by rw [hended]; decide⟩
  have hraises : ∀ call ∈ ({.candidate "daemon-1" true (plainWorld "daemon-1" 301 40)} :
      Set LateResume), RaisesFirst s call := by
    rintro call rfl
    exact .inr (.inl rfl)
  exact ⟨s, hs, (outcome_kept_iff s hfinished _).mpr hraises _ (by simp)⟩

end Navi.Lifecycle
