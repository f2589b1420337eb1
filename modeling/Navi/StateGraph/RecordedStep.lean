import Navi.StateGraph.History

/-!
# Recorded steps

Once `side_effect_recorded` of an attempt has committed, the executor is not
called for that attempt again, exactly when every loop that was parked from
`EVALUATE` is reopened there. `reopen_for_resume` reopens at `EXECUTE` always, and
a retry reopens where the evidence has it, which need not be of this pause.
-/

namespace Navi.StateGraph

open Navi.Base Navi.Loop

/-- The attempt's `side_effect_recorded` has committed. -/
def recorded (attempt : Nat) : List Event → Bool
  | [] => false
  | .committed run request _ :: earlier =>
      (request.condition = "side_effect_recorded" ∧ run.attempt = attempt)
        ∨ recorded attempt earlier
  | _ :: earlier => recorded attempt earlier

/-- The node the loop was last parked from. -/
def parkedFrom (log : List Event) : Option LoopNode := (lastParking log).map Prod.snd

/-- The executor is not called for a recorded attempt, and a loop that was parked
from `EVALUATE` goes on there. -/
def ExecutesOnce (earlier : List Event) : Event → Prop
  | .executing run _ => recorded run.attempt earlier = false
  | .reopened _ _ next => parkedFrom earlier = some .evaluate → next.node = .evaluate
  | _ => True

/-- A loop that was parked from `EVALUATE` is reopened by an operation that reads
`EVALUATE` in its evidence. -/
def ReopensAtEvaluate (earlier : List Event) : Event → Prop
  | .reopened how run _ => parkedFrom earlier = some .evaluate → resumeText how run = "evaluate"
  | _ => True

theorem Stop.AsksAt.node_eq {stop : Stop} {entry : LoopNode} (h : stop.AsksAt entry) :
    entry = .plan ∨ entry = .execute ∨ entry = .evaluate := by
  cases stop with
  | yielded executed progressSignature => exact .inr (.inl h.1)
  | resourceGrant grant => exact h.1
  | lockConflict lock => exact .inr (.inr h)
  | plannerTransportRetry errorType failureFacts gate => exact .inl h.1
  | checkerTransportRetry failureFacts gate executor => exact .inr (.inr h.1)
  | sideEffectCommit result => exact .inr (.inr h)

section

variable {node node' : LoopNode} {control control' : Control}
  {terminal : Option LoopTerminalState} {condition : String} {own : Dict}

theorem Stop.first_ne_recorded (stop : Stop) : stop.first ≠ "side_effect_recorded" := by
  unfold Stop.first
  split <;> (try split) <;> simp

theorem Stop.second_ne_recorded (stop : Stop) : stop.second ≠ "side_effect_recorded" := by
  unfold Stop.second
  split <;> (try split) <;> simp

theorem Site.records (h : Site node control node' terminal condition own control')
    (hrecords : condition = "side_effect_recorded") :
    node = .execute ∧ node' = .evaluate ∧ terminal = none
      ∧ ∀ stop entry, control' ≠ .parking stop entry := by
  cases h with
  | sideEffectRecorded executed signature => exact ⟨rfl, rfl, rfl, fun _ _ => Control.noConfusion⟩
  | parks hasks => exact absurd hrecords (Stop.first_ne_recorded _)
  | parked hasks => exact absurd hrecords (Stop.second_ne_recorded _)
  | _ => simp at hrecords

theorem Site.begins (h : Site node control node' terminal condition own control')
    (hnode : node' = .plan ∨ node' = .execute) (attempt : Nat) :
    nextAttempt node node' attempt = attempt + 1 ∨ node = .plan ∨ node = .execute := by
  cases h with
  | resourceBlocked grant hgated => exact .inr hnode
  | parks hasks =>
      rcases Stop.node_eq _ with hstop | hstop <;> rw [hstop] at hnode <;> simp at hnode
  | parked hasks =>
      rcases Stop.node_eq _ with hstop | hstop <;> rw [hstop] at hnode <;> simp at hnode
  | newRoute decision => exact .inl rfl
  | continueIteration next => exact .inl rfl
  | planReady step clearance hclearance => exact .inr (.inl rfl)
  | plannerGivenUp errorType message decision => exact .inr (.inl rfl)
  | repeatedProgress signature repeated => exact .inr (.inr rfl)
  | _ => simp at hnode

end

/-! ## The invariant -/

/-- Recorded attempts have begun; while the current one is recorded, the loop is
past `EXECUTE`, and if it is parked or being parked, it is so from `EVALUATE`. -/
structure PastExecution (c : Config) : Prop where
  begun : ∀ attempt, recorded attempt c.log = true → attempt ≤ c.cell.run.attempt
  past : recorded c.cell.run.attempt c.log = true →
    c.cell.run.node ≠ .plan ∧ c.cell.run.node ≠ .execute
  parked : recorded c.cell.run.attempt c.log = true →
    (∃ stop entry, c.control = .parking stop entry) ∨ externallyWaiting c.cell.run = true →
      parkedFrom c.log = some .evaluate
  once : Throughout ExecutesOnce c.log

theorem waiting_of_outside {run : LoopRunState} {control : Control}
    (houtside : ∀ stop entry, control ≠ .parking stop entry)
    (h : (∃ stop entry, control = .parking stop entry) ∨ externallyWaiting run = true) :
    externallyWaiting run = true := by
  rcases h with ⟨stop, entry, hparking⟩ | hwaiting
  · exact absurd hparking (houtside stop entry)
  · exact hwaiting

theorem pastExecution_commits {cell : LoopCell} {log : List Event} {control control' : Control}
    {request : TransitionRequest} {own : Dict} {now : Time}
    (hc : PastExecution ⟨cell, log, control⟩)
    (hsite : Site cell.run.node control request.node request.terminalState request.condition own
      control') :
    PastExecution ⟨{ cell with run := moved cell.run request now },
      .committed cell.run request (moved cell.run request now) :: log, control'⟩ := by
  obtain ⟨hbegun, hpast, hparked, honce⟩ := hc
  have hmoves := le_nextAttempt cell.run.node request.node cell.run.attempt
  have hnext : (moved cell.run request now).attempt
      = nextAttempt cell.run.node request.node cell.run.attempt := rfl
  by_cases hrecords : request.condition = "side_effect_recorded"
  · obtain ⟨hexecute, hevaluate, hterminal, houtside⟩ := hsite.records hrecords
    have hsame : (moved cell.run request now).attempt = cell.run.attempt := by
      rw [hnext, hexecute, hevaluate]
      rfl
    refine ⟨?_, fun _ => ?_, ?_, trivial, honce⟩
    · intro attempt hattempt
      show attempt ≤ (moved cell.run request now).attempt
      rw [hsame]
      simp only [recorded, Bool.decide_or, Bool.or_eq_true, decide_eq_true_eq] at hattempt
      rcases hattempt with ⟨-, rfl⟩ | hattempt
      · exact le_refl _
      · exact hbegun attempt (by simpa using hattempt)
    · show request.node ≠ .plan ∧ request.node ≠ .execute
      rw [hevaluate]
      exact ⟨LoopNode.noConfusion, LoopNode.noConfusion⟩
    · intro _ hwaits
      have hwaiting := waiting_of_outside houtside hwaits
      rw [externallyWaiting_of_running hterminal] at hwaiting
      cases hwaiting
  · have hrecorded : ∀ attempt, recorded attempt
        (.committed cell.run request (moved cell.run request now) :: log)
        = recorded attempt log := by
      intro attempt
      simp [recorded, hrecords]
    -- a record of the attempt the move begins would be from the future
    have hsame : recorded (moved cell.run request now).attempt log = true →
        (moved cell.run request now).attempt = cell.run.attempt := by
      intro hattempt
      exact le_antisymm (hbegun _ hattempt) (hnext ▸ hmoves)
    refine ⟨?_, ?_, ?_, trivial,
      honce⟩
    · intro attempt hattempt
      rw [hrecorded] at hattempt
      exact le_trans (hbegun attempt hattempt) hmoves
    · intro hattempt
      rw [hrecorded] at hattempt
      have hattemptSame := hsame hattempt
      rw [hattemptSame] at hattempt
      obtain ⟨hplan, hexecute⟩ := hpast hattempt
      rw [← not_or]
      intro hnode
      rcases hsite.begins hnode cell.run.attempt with hbegins | hnode | hnode
      · rw [← hnext, hattemptSame] at hbegins
        omega
      · exact hplan hnode
      · exact hexecute hnode
    · intro hattempt hwaits
      rw [hrecorded] at hattempt
      rw [hsame hattempt] at hattempt
      refine hparked hattempt (.inl ?_)
      rcases hwaits with ⟨stop, entry, hparking⟩ | hwaiting
      · exact ⟨stop, entry, hsite.parking hparking⟩
      · have hterminal : request.terminalState = some .paused
            ∨ request.terminalState = some .waitingApproval := of_decide_eq_true hwaiting
        rcases hterminal with hterminal | hterminal
        · rw [hterminal] at hsite
          obtain ⟨stop, entry, hcontrol, -⟩ := hsite.suspends rfl
          exact ⟨stop, entry, hcontrol⟩
        · rw [hterminal] at hsite
          obtain ⟨stop, entry, hcontrol, -⟩ := hsite.suspends rfl
          exact ⟨stop, entry, hcontrol⟩

theorem pastExecution_move {c c' : Config} (h : Move c c') (hc : PastExecution c) :
    PastExecution c' := by
  obtain ⟨hbegun, hpast, hparked, honce⟩ := hc
  cases h with
  | claims hclaimed =>
      obtain ⟨-, rfl⟩ := claimForExecution_eq_some.mp hclaimed
      exact ⟨hbegun, hpast, hparked, honce⟩
  | starts evidence hrunning =>
      refine ⟨hbegun, hpast, ?_, trivial, honce⟩
      intro _ hwaits
      have hwaiting := waiting_of_outside (fun _ _ => Control.noConfusion) hwaits
      rw [externallyWaiting_of_running hrunning] at hwaiting
      cases hwaiting
  | leaves =>
      refine ⟨hbegun, hpast, ?_, honce⟩
      intro hattempt hwaits
      exact hparked hattempt (.inr (waiting_of_outside (fun _ _ => Control.noConfusion) hwaits))
  | checkpoints id node now hinputs => exact ⟨hbegun, hpast, hparked, honce⟩
  | checkpointsPlan id now hnode => exact ⟨hbegun, hpast, hparked, honce⟩
  | executes hnode =>
      refine ⟨hbegun, hpast, hparked, ?_, honce⟩
      show recorded _ _ = false
      rw [Bool.eq_false_iff]
      intro hrecorded
      exact (hpast hrecorded).2 hnode
  | observes what => exact ⟨hbegun, hpast, hparked, trivial, honce⟩
  | turnsToPark hasks =>
      refine ⟨hbegun, hpast, ?_, trivial, honce⟩
      intro hattempt _
      obtain ⟨hplan, hexecute⟩ := hpast hattempt
      rcases hasks.node_eq with hnode | hnode | hnode
      · exact absurd hnode hplan
      · exact absurd hnode hexecute
      · exact congrArg some hnode
  | commits hsite hpending hevidence hok =>
      obtain ⟨-, rfl⟩ := transition_eq_ok.mp hok
      exact pastExecution_commits ⟨hbegun, hpast, hparked, honce⟩ hsite
  | refuses hsite herror =>
      refine ⟨hbegun, hpast, ?_, trivial, honce⟩
      intro hattempt hwaits
      exact hparked hattempt (.inr (waiting_of_outside (fun _ _ => Control.noConfusion) hwaits))

theorem pastExecution_external {c c' : Config} (h : External c c') (hc : PastExecution c)
    (hreopens : Throughout ReopensAtEvaluate c'.log) : PastExecution c' := by
  obtain ⟨hbegun, hpast, hparked, honce⟩ := hc
  cases h with
  | leases owner expiresAt updatedAt version => exact ⟨hbegun, hpast, hparked, honce⟩
  | @reopens cell cell' log how hreopened hown =>
      have hreads : parkedFrom log = some .evaluate → resumeText how cell.run = "evaluate" :=
        hreopens.1
      have hnode : parkedFrom log = some .evaluate → cell'.run.node = .evaluate := by
        intro hfrom
        exact LoopNode.text_injective (hreopened.node.trans (hreads hfrom))
      refine ⟨?_, ?_, ?_, hnode, honce⟩
      · intro attempt hattempt
        rw [hreopened.attempt]
        exact hbegun attempt hattempt
      · intro hattempt
        rw [hreopened.attempt] at hattempt
        rw [hnode (hparked hattempt (.inr hreopened.waiting))]
        exact ⟨LoopNode.noConfusion, LoopNode.noConfusion⟩
      · intro _ hwaits
        have hwaiting := waiting_of_outside (fun _ _ => Control.noConfusion) hwaits
        rw [externallyWaiting_of_running hreopened.running] at hwaiting
        cases hwaiting
  | pauses hok =>
      obtain ⟨hwaiting, rfl⟩ := pauseExternalWaitDurably_eq_ok.mp hok
      exact ⟨hbegun, hpast, fun hattempt _ => hparked hattempt (.inr hwaiting), trivial, honce⟩
  | stops hgraph hnode hattempt hterminal =>
      refine ⟨?_, ?_, ?_, honce⟩
      · intro attempt hrecorded
        rw [hattempt]
        exact hbegun attempt hrecorded
      · intro hrecorded
        rw [hattempt] at hrecorded
        rw [hnode]
        exact hpast hrecorded
      · intro _ hwaits
        have hwaiting := waiting_of_outside (fun _ _ => Control.noConfusion) hwaits
        rw [isTerminal_of_waiting hwaiting] at hterminal
        cases hterminal

theorem pastExecution_step (c c' : Config) (h : Step c c') (hc : PastExecution c)
    (hreopens : Throughout ReopensAtEvaluate c'.log) : PastExecution c' := by
  rcases h with hmove | hexternal
  · exact pastExecution_move hmove hc
  · exact pastExecution_external hexternal hc hreopens

/-! ## Where a reopening leads -/

/-- A loop is reopened where the operation reads it is to be. -/
def ReopensWhereRead (_earlier : List Event) : Event → Prop
  | .reopened how run next => next.node.text = resumeText how run
  | _ => True

theorem reopensWhereRead_step (c c' : Config) (h : Step c c')
    (hc : Throughout ReopensWhereRead c.log) : Throughout ReopensWhereRead c'.log := by
  rcases h with hmove | hexternal
  · cases hmove <;> first
      | exact hc
      | exact ⟨trivial, hc⟩
  · cases hexternal with
    | reopens how hreopened hown => exact ⟨hreopened.node, hc⟩
    | pauses hok => exact ⟨trivial, hc⟩
    | leases owner expiresAt updatedAt version => exact hc
    | stops hgraph hnode hattempt hterminal => exact hc

/-- In a history, the executor is called for no recorded attempt and loops parked
from `EVALUATE` go on there, exactly when each of these is reopened by an
operation that reads `EVALUATE` in its evidence. -/
theorem executes_once_iff {stateGraph : List StateTransition} {runId goalId : String}
    {evidence : Dict} {now : Time} {items : List Item} :
    Throughout ExecutesOnce (play (created stateGraph runId goalId evidence now) items).2
      ↔ Throughout ReopensAtEvaluate
        (play (created stateGraph runId goalId evidence now) items).2 := by
  have hlives := play_lives (created stateGraph runId goalId evidence now) items
  constructor
  · intro honce
    have hread := Throughout.invariant (P := fun _ _ => True) step_grows
      (fun c c' h hc _ => reopensWhereRead_step c c' h hc) hlives trivial
      (honce.imp fun _ _ _ => trivial)
    refine (honce.and hread).imp ?_
    intro earlier event hevent
    cases event with
    | reopened how run next =>
        intro hfrom
        rw [← hevent.2, hevent.1 hfrom]
        rfl
    | _ => trivial
  · intro hreopens
    have hstart : PastExecution
        ⟨createRun stateGraph runId goalId .plan evidence now, [], .outside⟩ := by
      refine ⟨?_, ?_, ?_, trivial⟩
      · intro attempt hattempt
        cases hattempt
      · intro hattempt
        cases hattempt
      · intro hattempt
        cases hattempt
    exact (Throughout.invariant step_grows pastExecution_step hlives hstart hreopens).once

instance decidableExecutesOnce (earlier : List Event) :
    (event : Event) → Decidable (ExecutesOnce earlier event)
  | .executing run _ => inferInstanceAs (Decidable (recorded run.attempt earlier = false))
  | .reopened _ _ next =>
      inferInstanceAs (Decidable (parkedFrom earlier = some .evaluate → next.node = .evaluate))
  | .started _ _ | .parking _ _ | .committed _ _ _ | .refused _ _ _ | .pausedExternally _ _
  | .observed _ =>
      inferInstanceAs (Decidable True)

/-- A history whose gate escalates at `EVALUATE`, and whose loop is resumed. -/
def resumedFromEvaluate : List Item :=
  [plainDrive [] ((plainAnswers 1 40).modify 14 fun answer =>
      { answer with grant := plainGrant .escalate }),
    .reopensForResume 50, plainDrive [] (plainAnswers 51 30)]

/-- The resumed loop executes the step it had recorded. -/
theorem resumedFromEvaluate_executes_twice :
    ¬ Throughout ExecutesOnce (play plainLoop resumedFromEvaluate).2 := by
  decide +kernel

end Navi.StateGraph
