import Navi.Base.History
import Navi.Lifecycle.Control
import Navi.StateGraph.Simulation

/-!
# Histories of a loop

Everything that happens to one loop, in the order in which it happens: drives of
the runner, each of which may die at any of its operations, and the calls of the
daemon, the control service and the approval reconciliation between them. A
history is a list of items; `play` runs it on the loop's rows and the log.
`play_steps` shows every history to be a path of `Step`, over which the safety
laws of the loop are proved.
-/

namespace Navi.StateGraph

open Navi.Base Navi.Loop
open Navi.Lifecycle.Control (cancelEvidence cancelRequest)

/-! ## What happens to a loop -/

/-- One thing that happens to a loop. A saga that is replayed carries the reason
it was first prepared with. -/
inductive Item where
  | drives (r : Runner) (calls : Nat) (evidence : Dict) (answers : List Answer)
  | failsActiveRun (leaseOwner : String) (evidence : Dict) (now : Time)
  | claims (owner : String) (leaseSeconds now : Time) (allowPaused : Bool)
  | renews (owner : String) (leaseSeconds now : Time)
  | releases (owner : String) (now : Time)
  | reopensForResume (now : Time)
  | reopensResourcePause (now : Time)
  | reopensRetryablePause (now : Time)
  | reconcilesApprovalWait (view : ApprovalView) (orphanGraceSeconds now : Time)
      (recordedReason : Option String)
  | pausesExternalWait (reason : String) (now : Time)
  | cancelsExternalWait (reason : String) (now : Time)
  | rejectsExternalGate (evidence : Dict) (now : Time)
  | completesExternalDelivery (success : Bool) (evidence : Dict) (now : Time)
  | cancelsLoop (checkpointId reason : String) (now : Time)

/-- The evidence of `cancel_external_wait_durably` and
`pause_external_wait_durably`. -/
def externalWaitEvidence (stateTransition runId reason : String) : Dict :=
  [("state_transition", .str stateTransition), ("loop_run_id", .str runId),
    ("reason", .str reason)]

/-- What the saga of `pause_external_wait_durably` does to the loop's row, each
time it is applied. -/
def pauseExternalWaitDurably (cell : LoopCell) (reason : String) (now : Time) :
    Except StoreError LoopCell :=
  pauseExternalWait cell (externalWaitEvidence "external_wait_paused" cell.run.runId reason) now

/-- What the saga of `cancel_external_wait_durably` does to it. -/
def cancelExternalWaitDurably (cell : LoopCell) (reason : String) (now : Time) :
    Except StoreError LoopCell :=
  cancelExternalWait cell
    (externalWaitEvidence "external_wait_cancelled" cell.run.runId reason) now

/-- What `cancel_loop` does to it. -/
def cancelLoop (cell : LoopCell) (checkpointId reason : String) (now : Time) :
    Except StoreError LoopCell :=
  let evidence := cancelEvidence reason
  if cell.run.isTerminal then .ok cell
  else if externallyWaiting cell.run then cancelExternalWait cell evidence now
  else
    let control : Dict := [("control", .str "cancel")]
    let cell := Loop.writeCheckpoint cell checkpointId cell.run.node (control.merge evidence) now
    Loop.transition cell (cancelRequest cell.run.node evidence checkpointId) now

/-- The operation that reopens a loop. -/
def reopen (how : Reopening) (cell : LoopCell) (now : Time) : Except StoreError LoopCell :=
  match how with
  | .forResume | .approvalWait _ _ => reopenForResume cell now
  | .resourcePause => reopenResourcePause cell now
  | .retryablePause => reopenRetryablePause cell now

abbrev Lived := LoopCell × List Event

/-- An operation that is refused leaves the loop as it was. -/
def Lived.after (s : Lived) (answer : Except StoreError LoopCell)
    (events : LoopCell → List Event) : Lived :=
  match answer with
  | .ok cell => (cell, events cell ++ s.2)
  | .error _ => s

def Lived.reopen (s : Lived) (how : Reopening) (now : Time) : Lived :=
  s.after (StateGraph.reopen how s.1 now) fun cell => [.reopened how s.1.run cell.run]

/-- A pause from outside, with its event. -/
def Lived.pause (s : Lived) (reason : String) (now : Time) : Lived :=
  s.after (pauseExternalWaitDurably s.1 reason now) fun cell =>
    [.pausedExternally s.1.run cell.run]

/-- The reconciliation of the loop's approval wait, if it is at one. -/
def Lived.reconcile (s : Lived) (view : ApprovalView) (orphanGraceSeconds now : Time)
    (recordedReason : Option String) : Lived :=
  if s.1.run.terminalState = some .waitingApproval then
    match reconcileApprovalWait s.1.run view orphanGraceSeconds now with
    | .deferred | .valid => s
    | .resumes approval => s.reopen (.approvalWait approval.id approval.status) now
    | .pauses reason => s.pause (recordedReason.getD reason) now
    | .cancels reason =>
        s.after (cancelExternalWaitDurably s.1 (recordedReason.getD reason) now) fun _ => []
  else s

def Item.apply (item : Item) (s : Lived) : Lived :=
  let silent (answer : Except StoreError LoopCell) : Lived := s.after answer fun _ => []
  match item with
  | .drives r calls evidence answers => runAsync r s.1 s.2 calls evidence answers
  | .failsActiveRun leaseOwner evidence now => silent (failActiveRun s.1 leaseOwner evidence now)
  | .claims owner leaseSeconds now allowPaused =>
      ((claimForExecution s.1 owner leaseSeconds now allowPaused).getD s.1, s.2)
  | .renews owner leaseSeconds now =>
      ((renewExecutionLease s.1 owner leaseSeconds now).getD s.1, s.2)
  | .releases owner now => ((releaseExecutionLease s.1 owner now).getD s.1, s.2)
  | .reopensForResume now => s.reopen .forResume now
  | .reopensResourcePause now => s.reopen .resourcePause now
  | .reopensRetryablePause now => s.reopen .retryablePause now
  | .reconcilesApprovalWait view orphanGraceSeconds now recordedReason =>
      s.reconcile view orphanGraceSeconds now recordedReason
  | .pausesExternalWait reason now => s.pause reason now
  | .cancelsExternalWait reason now => silent (cancelExternalWaitDurably s.1 reason now)
  | .rejectsExternalGate evidence now => silent (rejectExternalGate s.1 evidence now)
  | .completesExternalDelivery success evidence now =>
      silent (completeExternalDelivery s.1 success evidence now)
  | .cancelsLoop checkpointId reason now => silent (cancelLoop s.1 checkpointId reason now)

def play : Lived → List Item → Lived := List.foldl fun s item => item.apply s

/-- A loop as `create_run` leaves it, at `PLAN`. -/
def created (stateGraph : List StateTransition) (runId goalId : String) (evidence : Dict)
    (now : Time) : Lived :=
  (createRun stateGraph runId goalId .plan evidence now, [])

/-! ## Steps -/

/-- The node a reopening goes to, as text, read from the row it reopens. -/
def resumeText (how : Reopening) (run : LoopRunState) : String :=
  match how with
  | .forResume | .approvalWait _ _ => "execute"
  | .resourcePause => run.evidence.text "resource_resume_node"
  | .retryablePause =>
      match run.evidence.sub "retry_gate" with
      | some gate => gate.text "resume_node"
      | none => run.evidence.text "resource_resume_node"

structure Reopens (how : Reopening) (cell cell' : LoopCell) : Prop where
  graph : cell'.stateGraph = cell.stateGraph
  checkpoints : cell'.checkpoints = cell.checkpoints
  waiting : externallyWaiting cell.run = true
  running : cell'.run.terminalState = none
  attempt : cell'.run.attempt = cell.run.attempt
  node : cell'.run.node.text = resumeText how cell.run
  evidence : ∀ key, key ≠ "resource_retry" → key ≠ "durable_retry" →
    cell'.run.evidence.get key = cell.run.evidence.get key

/-- An approval reopens the loop that waits for approval with its id in evidence. -/
def ByItsApproval (how : Reopening) (run : LoopRunState) : Prop :=
  match how with
  | .approvalWait approvalId status =>
      run.terminalState = some .waitingApproval ∧ status = .approved
        ∧ approvalId = ownedApprovalGateId run.evidence ∧ approvalId ≠ ""
  | _ => True

theorem pauseExternalWaitDurably_eq_ok {cell cell' : LoopCell} {reason : String} {now : Time} :
    pauseExternalWaitDurably cell reason now = .ok cell'
      ↔ externallyWaiting cell.run = true ∧ cell' = transitionTo cell .paused
          (externalWaitEvidence "external_wait_paused" cell.run.runId reason) now := by
  unfold pauseExternalWaitDurably pauseExternalWait
  split
  next hwaiting => simp [hwaiting, eq_comm]
  next hrunning => simp [hrunning]

/-- One thing that happens to a loop outside the runner. -/
inductive External : Config → Config → Prop where
  | leases {cell : LoopCell} {log : List Event} (owner : String) (expiresAt updatedAt : Time)
      (version : Nat) :
      External ⟨cell, log, .outside⟩
        ⟨{ cell with run := { cell.run with
            leaseOwner := owner, leaseExpiresAt := expiresAt, updatedAt := updatedAt
            version := version } }, log, .outside⟩
  | reopens {cell cell' : LoopCell} {log : List Event} (how : Reopening)
      (h : Reopens how cell cell') (hown : ByItsApproval how cell.run) :
      External ⟨cell, log, .outside⟩ ⟨cell', .reopened how cell.run cell'.run :: log, .outside⟩
  | pauses {cell cell' : LoopCell} {log : List Event} {reason : String} {now : Time}
      (h : pauseExternalWaitDurably cell reason now = .ok cell') :
      External ⟨cell, log, .outside⟩
        ⟨cell', .pausedExternally cell.run cell'.run :: log, .outside⟩
  | stops {cell cell' : LoopCell} {log : List Event}
      (hgraph : cell'.stateGraph = cell.stateGraph) (hnode : cell'.run.node = cell.run.node)
      (hattempt : cell'.run.attempt = cell.run.attempt) (hterminal : cell'.run.isTerminal = true) :
      External ⟨cell, log, .outside⟩ ⟨cell', log, .outside⟩

/-- One thing that happens to a loop. -/
def Step (c c' : Config) : Prop := Move c c' ∨ External c c'

theorem step_grows (c c' : Config) (h : Step c c') : c.log <:+ c'.log := by
  rcases h with hmove | hexternal
  · cases hmove <;> first
      | exact List.suffix_refl _
      | exact List.suffix_cons _ _
  · cases hexternal <;> first
      | exact List.suffix_refl _
      | exact List.suffix_cons _ _

/-! ## Every history is a path of steps -/

theorem resumeNode?_text {raw : String} {node : LoopNode} (h : resumeNode? raw = some node) :
    node.text = raw := by
  unfold resumeNode? at h
  split_ifs at h with hplan hexecute hevaluate
  · obtain rfl := Option.some.inj h
    exact hplan.symm
  · obtain rfl := Option.some.inj h
    exact hexecute.symm
  · obtain rfl := Option.some.inj h
    exact hevaluate.symm

theorem reopenForResume_reopens {how : Reopening} {cell cell' : LoopCell} {now : Time}
    (hexecute : ∀ run, resumeText how run = "execute")
    (h : reopenForResume cell now = .ok cell') : Reopens how cell cell' := by
  unfold reopenForResume at h
  split at h
  next hwaiting =>
    obtain rfl := Except.ok.inj h
    exact ⟨rfl, rfl, hwaiting, rfl, rfl, (hexecute _).symm, fun _ _ _ => rfl⟩
  next => cases h

theorem reopenedAt_reopens {how : Reopening} {cell : LoopCell} {node : LoopNode} {key : String}
    {facts : Dict} {now : Time} (hpaused : cell.run.terminalState = some .paused)
    (hnode : node.text = resumeText how cell.run)
    (hkey : key = "resource_retry" ∨ key = "durable_retry") :
    Reopens how cell { cell with run := reopenedAt cell.run node key facts now } := by
  refine ⟨rfl, rfl, by simp [externallyWaiting, hpaused], rfl, rfl, hnode, ?_⟩
  intro other hresource hdurable
  apply Dict.get_merge_of_none
  rcases hkey with rfl | rfl
  · simp [Ne.symm hresource]
  · simp [Ne.symm hdurable]

theorem reopenResourcePause_reopens {how : Reopening} {cell cell' : LoopCell} {now : Time}
    (hresume : resumeText how cell.run = cell.run.evidence.text "resource_resume_node")
    (h : reopenResourcePause cell now = .ok cell') : Reopens how cell cell' := by
  unfold reopenResourcePause at h
  dsimp only at h
  split at h
  · cases h
  next hpaused =>
    simp only [ne_eq, not_or, not_not] at hpaused
    split at h
    · cases h
    next node hnode =>
      obtain rfl := Except.ok.inj h
      exact reopenedAt_reopens hpaused.1 ((resumeNode?_text hnode).trans hresume.symm) (.inl rfl)

theorem reopenRetryablePause_reopens {cell cell' : LoopCell} {now : Time}
    (h : reopenRetryablePause cell now = .ok cell') : Reopens .retryablePause cell cell' := by
  unfold reopenRetryablePause at h
  dsimp only at h
  split at h
  next hgate => exact reopenResourcePause_reopens (by simp [resumeText, hgate]) h
  next gate hgate =>
    have hresume : resumeText .retryablePause cell.run = gate.text "resume_node" := by
      simp [resumeText, hgate]
    split at h
    · cases h
    next hpaused =>
      split at h
      · cases h
      · split at h
        · cases h
        next node hnode =>
          obtain rfl := Except.ok.inj h
          exact reopenedAt_reopens (not_not.mp hpaused)
            ((resumeNode?_text hnode).trans hresume.symm) (.inr rfl)

theorem reopen_reopens {how : Reopening} {cell cell' : LoopCell} {now : Time}
    (h : reopen how cell now = .ok cell') : Reopens how cell cell' := by
  cases how with
  | forResume => exact reopenForResume_reopens (fun _ => rfl) h
  | resourcePause => exact reopenResourcePause_reopens rfl h
  | retryablePause => exact reopenRetryablePause_reopens h
  | approvalWait approvalId status => exact reopenForResume_reopens (fun _ => rfl) h

/-- A path of steps from one life of the loop to another. -/
def Lives (s s' : Lived) : Prop :=
  Relation.ReflTransGen Step ⟨s.1, s.2, .outside⟩ ⟨s'.1, s'.2, .outside⟩

theorem Lived.after_lives {s : Lived} {answer : Except StoreError LoopCell}
    {events : LoopCell → List Event}
    (h : ∀ cell, answer = .ok cell → Lives s (cell, events cell ++ s.2)) :
    Lives s (s.after answer events) := by
  unfold Lived.after
  split
  next cell => exact h cell rfl
  next => exact .refl

theorem Lived.reopen_lives {s : Lived} {how : Reopening} {now : Time}
    (hown : ByItsApproval how s.1.run) : Lives s (s.reopen how now) :=
  Lived.after_lives fun _ hok => .single (.inr (.reopens how (reopen_reopens hok) hown))

theorem Lived.pause_lives {s : Lived} {reason : String} {now : Time} :
    Lives s (s.pause reason now) :=
  Lived.after_lives fun _ hok => .single (.inr (.pauses hok))

theorem stops_lives {cell cell' : LoopCell} {log : List Event}
    (hgraph : cell'.stateGraph = cell.stateGraph) (hnode : cell'.run.node = cell.run.node)
    (hattempt : cell'.run.attempt = cell.run.attempt) (hterminal : cell'.run.isTerminal = true) :
    Lives (cell, log) (cell', log) :=
  .single (.inr (.stops hgraph hnode hattempt hterminal))

theorem transitionTo_lives {cell : LoopCell} {log : List Event} {target : LoopTerminalState}
    {evidence : Dict} {now : Time} (h : target.suspended = false) :
    Lives (cell, log) (transitionTo cell target evidence now, log) :=
  stops_lives rfl rfl rfl (show (!target.suspended) = true by simp [h])

theorem cancelWaiting_lives {s : Lived} {refusal : String} {evidence : Dict} {now : Time}
    {cell : LoopCell} (h : cancelWaiting refusal s.1 evidence now = .ok cell) :
    Lives s (cell, s.2) := by
  unfold cancelWaiting at h
  split_ifs at h
  · obtain rfl := Except.ok.inj h
    exact .refl
  · obtain rfl := Except.ok.inj h
    exact transitionTo_lives rfl

theorem cancelLoop_lives {s : Lived} {checkpointId reason : String} {now : Time} {cell : LoopCell}
    (h : cancelLoop s.1 checkpointId reason now = .ok cell) : Lives s (cell, s.2) := by
  unfold cancelLoop at h
  dsimp only at h
  split_ifs at h
  · obtain rfl := Except.ok.inj h
    exact .refl
  · exact cancelWaiting_lives h
  · obtain ⟨-, rfl⟩ := transition_eq_ok.mp h
    have hattempt : nextAttempt s.1.run.node s.1.run.node s.1.run.attempt = s.1.run.attempt := by
      unfold nextAttempt
      split
      next hmoves =>
        obtain ⟨hsource, hplan⟩ := hmoves
        rw [hplan] at hsource
        rcases hsource with hsource | hsource <;> cases hsource
      next => rfl
    exact stops_lives rfl rfl hattempt rfl

theorem completeExternalDelivery_lives {s : Lived} {success : Bool} {evidence : Dict} {now : Time}
    {cell : LoopCell} (h : completeExternalDelivery s.1 success evidence now = .ok cell) :
    Lives s (cell, s.2) := by
  unfold completeExternalDelivery at h
  extract_lets target action at h
  have htarget : target.suspended = false := by cases success <;> rfl
  split at h
  · obtain rfl := Except.ok.inj h
    exact .refl
  · split at h
    · obtain rfl := Except.ok.inj h
      exact transitionTo_lives htarget
    · cases h

theorem failActiveRun_lives {s : Lived} {leaseOwner : String} {evidence : Dict} {now : Time}
    {cell : LoopCell} (h : failActiveRun s.1 leaseOwner evidence now = .ok cell) :
    Lives s (cell, s.2) := by
  unfold failActiveRun at h
  split_ifs at h
  · obtain rfl := Except.ok.inj h
    exact .refl
  · obtain rfl := Except.ok.inj h
    exact transitionTo_lives rfl

theorem Lived.reconcile_lives {s : Lived} {view : ApprovalView} {orphanGraceSeconds now : Time}
    {recordedReason : Option String} :
    Lives s (s.reconcile view orphanGraceSeconds now recordedReason) := by
  unfold Lived.reconcile
  split
  next hwaiting =>
    split
    · exact .refl
    · exact .refl
    next approval hresumes =>
      obtain ⟨happroved, hid, hnamed⟩ := reconcileApprovalWait_resumes hresumes
      exact Lived.reopen_lives ⟨hwaiting, happroved, hid, hnamed⟩
    next reason _ => exact Lived.pause_lives
    next reason _ => exact Lived.after_lives fun _ hok => cancelWaiting_lives hok
  next => exact .refl

theorem runAsync_lives (r : Runner) (s : Lived) (calls : Nat) (evidence : Dict)
    (answers : List Answer) : Lives s (runAsync r s.1 s.2 calls evidence answers) := by
  obtain ⟨control, hmoves⟩ := runAsync_moves r s.1 s.2 calls evidence answers
  exact Relation.ReflTransGen.mono (fun _ _ h => .inl h) _ _ (hmoves.tail .leaves)

theorem Item.apply_lives (item : Item) (s : Lived) : Lives s (item.apply s) := by
  cases item with
  | drives r calls evidence answers => exact runAsync_lives r s calls evidence answers
  | failsActiveRun leaseOwner evidence now =>
      exact Lived.after_lives fun _ hok => failActiveRun_lives hok
  | claims owner leaseSeconds now allowPaused =>
      simp only [Item.apply, claimForExecution]
      split
      · exact .single (.inr (.leases _ _ _ _))
      · exact .refl
  | renews owner leaseSeconds now =>
      simp only [Item.apply, renewExecutionLease]
      split
      · exact .single (.inr (.leases s.1.run.leaseOwner _ _ s.1.run.version))
      · exact .refl
  | releases owner now =>
      simp only [Item.apply, releaseExecutionLease]
      split
      · exact .single (.inr (.leases _ _ _ _))
      · exact .refl
  | reopensForResume now => exact Lived.reopen_lives trivial
  | reopensResourcePause now => exact Lived.reopen_lives trivial
  | reopensRetryablePause now => exact Lived.reopen_lives trivial
  | reconcilesApprovalWait view orphanGraceSeconds now recordedReason =>
      exact Lived.reconcile_lives
  | pausesExternalWait reason now => exact Lived.pause_lives
  | cancelsExternalWait reason now => exact Lived.after_lives fun _ hok => cancelWaiting_lives hok
  | rejectsExternalGate evidence now =>
      exact Lived.after_lives fun _ hok => cancelWaiting_lives hok
  | completesExternalDelivery success evidence now =>
      exact Lived.after_lives fun _ hok => completeExternalDelivery_lives hok
  | cancelsLoop checkpointId reason now =>
      exact Lived.after_lives fun _ hok => cancelLoop_lives hok

theorem play_lives (s : Lived) (items : List Item) : Lives s (play s items) := by
  induction items generalizing s with
  | nil => exact .refl
  | cons item rest ih => exact (item.apply_lives s).trans (ih (item.apply s))

/-- **The runner refines the abstract machine.** Whatever happens to a loop, driven by runners that
may die at any operation and reopened, paused, claimed and cancelled between the drives, is a path
of the machine's steps from the rows it started with to those it leaves, and no event that was
logged is lost. -/
theorem play_refines (s : Lived) (items : List Item) :
    Relation.ReflTransGen Step ⟨s.1, s.2, .outside⟩ ⟨(play s items).1, (play s items).2, .outside⟩
      ∧ s.2 <:+ (play s items).2 := by
  have hpath := play_lives s items
  refine ⟨hpath, ?_⟩
  have hgrows : ∀ c, Relation.ReflTransGen Step ⟨s.1, s.2, .outside⟩ c → s.2 <:+ c.log := by
    intro c hc
    induction hc with
    | refl => exact List.suffix_refl _
    | tail _ hstep ih => exact ih.trans (step_grows _ _ hstep)
  exact hgrows _ hpath

/-! ## Parked loops -/

/-- The last parking of a loop, with the node it was parked from. -/
def lastParking : List Event → Option (Stop × LoopNode)
  | [] => none
  | .parking run stop :: _ => some (stop, run.node)
  | _ :: earlier => lastParking earlier

/-- A call is inside a loop that runs, and parks it as the log has it. -/
structure ParksAsLogged (c : Config) : Prop where
  running : c.control ≠ .outside → c.cell.run.terminalState = none
  parking : ∀ stop entry, c.control = .parking stop entry → lastParking c.log = some (stop, entry)

theorem parksAsLogged_outside {cell : LoopCell} {log : List Event} :
    ParksAsLogged ⟨cell, log, .outside⟩ := by
  constructor
  · intro hinside
    exact absurd rfl hinside
  · intro stop entry hparking
    cases hparking

theorem parksAsLogged_step {c c' : Config} (h : Step c c') (hc : ParksAsLogged c) :
    ParksAsLogged c' := by
  rcases h with hmove | hexternal
  · cases hmove with
    | claims _ => exact parksAsLogged_outside
    | leaves => exact parksAsLogged_outside
    | refuses _ _ => exact parksAsLogged_outside
    | starts evidence hrunning =>
        refine ⟨fun _ => hrunning, ?_⟩
        intro stop entry hparking
        cases hparking
    | checkpoints id node now hinputs => exact ⟨hc.running, hc.parking⟩
    | checkpointsPlan id now hnode => exact ⟨hc.running, hc.parking⟩
    | executes hnode => exact ⟨hc.running, hc.parking⟩
    | observes what => exact ⟨hc.running, hc.parking⟩
    | turnsToPark hasks =>
        refine ⟨fun _ => hc.running Control.noConfusion, ?_⟩
        intro stop entry hparking
        obtain ⟨rfl, rfl⟩ := Control.parking.inj hparking
        rfl
    | commits hsite hpending hevidence hok =>
        obtain ⟨-, rfl⟩ := transition_eq_ok.mp hok
        refine ⟨fun hinside => hsite.running hinside, ?_⟩
        intro stop entry hparking
        exact hc.parking stop entry (hsite.parking hparking)
  · cases hexternal <;> exact parksAsLogged_outside

/-! ## A plain world -/

/-- A runner with one check by the semantic checker, and no policies. -/
def plainRunner : Runner where
  spec :=
    { goalId := "goal", metadata := [], stateGraph := defaultStateGraph
      allowedCapabilities := ["*"]
      verificationLadder := [⟨.llmChecker, "check", "", "", 60, true⟩]
      workspaceMode := .readOnly, requireLocks := false, maxAttempts := 3
      discardShadowOnFailure := false }
  specError := none
  executionOwner := "driver"
  plannerSpecs := []
  hasSemanticChecker := false
  progressSignature := fun step _ => step.tool

/-- A planned step with nothing but a tool. -/
def plainStep (tool : String) : PlannedCapabilityStep :=
  ⟨tool, [], "read", "", [], [], []⟩

def plainExecution : ExecutedCapabilityStep :=
  ⟨true, "read", [], "", "", false, false, false, false⟩

def plainGrant (decision : ResourceDecision) : ResourceGrant := ⟨decision, "", [], 0, "grant"⟩

/-- An operation that finds nothing in its way, at a time of its own. -/
def plainAnswer (n : Nat) : Answer where
  now := n
  checkpointId := "checkpoint-" ++ toString n
  leaseRenewalError := false
  grant := plainGrant .allow
  planned := .ok (plainStep "read")
  executed := .ok plainExecution
  decision := ⟨true, "", []⟩
  assessed := .ok ⟨true, ""⟩
  report := .ok ⟨true, false, false, "", [], []⟩
  lock := .ok ⟨true, [], []⟩
  shadow := .ok []
  harness := .ok []
  merged := .ok ⟨.clean, [], ""⟩
  sideEffect := .ok ⟨"", true, "", "", "", "", "", "", ""⟩

/-- Operations with nothing in their way, from one time on. -/
def plainAnswers (start count : Nat) : List Answer := (List.range' start count).map plainAnswer

def plainDrive (evidence : Dict) (answers : List Answer) : Item :=
  .drives plainRunner 8 evidence answers

/-- The background loop the plain runner drives. -/
def plainLoop : Lived :=
  created defaultStateGraph "loop" "goal" [("execution_mode", .str "background")] 0

end Navi.StateGraph
