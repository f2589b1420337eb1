import Navi.StateGraph.Checker
import Navi.StateGraph.History

/-!
# Convergence is earned

The log of a loop whose drivers judge by the verification ladder. A driver's transition to
`CONVERGED` follows an evaluation that nothing interrupted, in which every command of the ladder
ran and the required ones passed, the semantic checks accepted what was executed, the shadow
workspace merged without a conflict, and the staged side effects were committed.
-/

namespace Navi.StateGraph.Earning

open Navi.Base Navi.Loop

/-! ## What convergence takes -/

/-- The keys that an evaluation writes for itself, and the one of the result it is about. -/
def reservedKeys : List String :=
  ["capability_result", "retry_gate", "provider_transport_retry_history", "workspace_lock"]

/-- A runner with the deterministic checker, whose steps have evidence keys of their own. The last
semantic check is also written under `semantic_checker_result`, so a step with that key is the only
one. -/
structure ByLadder (r : Runner) : Prop where
  checker : r.checker = deterministicChecker r.specError
  own : ∀ step ∈ r.spec.verificationLadder, ∀ other ∈ r.spec.verificationLadder,
    step.key = other.key → step = other
  free : ∀ step ∈ r.spec.verificationLadder, step.key ∉ reservedKeys
  semantic : ∀ step ∈ r.spec.verificationLadder, step.key = "semantic_checker_result" →
    ∀ other ∈ r.spec.verificationLadder, other.kind = .llmChecker → other = step

/-- What was observed of an evaluation that accepted this evidence. -/
structure Accepted (r : Runner) (evidence : Dict) (recent : List Event) : Prop where
  judged : ∃ report, .observed (.judged report) ∈ recent ∧ report.accepted = true
  commands : ∀ step ∈ r.spec.verificationLadder, stepRunsCommand step = true →
    ∃ result, .observed (.ranCommand step result) ∈ recent
      ∧ (step.required = true → commandPassed result = true)
  checks : r.hasSemanticChecker = true →
    ∀ result, evidence.sub "capability_result" = some result →
    ∀ step ∈ r.spec.verificationLadder, step.kind = .llmChecker →
      (∃ decision, .observed (.checked step result decision) ∈ recent
        ∧ (step.required = true → decision.passed = true))
      ∨ .observed (.completed step result) ∈ recent ∧ objectiveEvidence r.spec result = true

/-- And of the merge of a shadow workspace. -/
structure Merged (r : Runner) (evidence : Dict) (recent : List Event) : Prop
    extends Accepted r evidence recent where
  merge : r.spec.workspaceMode = .shadow →
    ∃ merged, .observed (.merged merged) ∈ recent ∧ merged.status ≠ .conflicted

/-- What was observed of an evaluation that may converge. -/
structure Evaluation (r : Runner) (evidence : Dict) (recent : List Event) : Prop
    extends Merged r evidence recent where
  effects : (sideEffectFromCollectedEvidence evidence).isEmpty = false →
    ∃ result, .observed (.sideEffectsCommitted result) ∈ recent ∧ result.ok = true

/-- The `capability_result` that a driver goes by, as the log tells it: the one its call started
with, or that of the step which the call has executed since. -/
def loggedResult : List Event → Option Json
  | [] => none
  | .started _ evidence :: _ => evidence.get "capability_result"
  | .committed _ request _ :: earlier =>
      if request.condition = "side_effect_recorded" then request.evidence.get "executor"
      else loggedResult earlier
  | _ :: earlier => loggedResult earlier

/-- The log ends with the observations of an evaluation, of evidence with the result that the log
tells. -/
def EndsWith (evidence : Dict) (evaluation : List Event → Prop) (log : List Event) : Prop :=
  ∃ recent run earlier, log = recent ++ .observed (.evaluating run) :: earlier
    ∧ (∀ event ∈ recent, ∃ what, event = .observed what)
    ∧ evidence.get "capability_result" = loggedResult earlier ∧ evaluation recent

/-- A driver's merge follows an evaluation of its own that accepted, its commit of side effects one
that has merged as well, and its transition to `CONVERGED` one that did all of it. -/
def ConvergesEarned (drivers : Runner → Prop) (earlier : List Event) : Event → Prop
  | .observed (.merged _) =>
      ∃ r evidence, drivers r ∧ EndsWith evidence (Accepted r evidence) earlier
  | .observed (.sideEffectsCommitted _) =>
      ∃ r evidence, drivers r ∧ EndsWith evidence (Merged r evidence) earlier
  | .committed _ request _ => request.terminalState = some .converged →
      ∃ r evidence, drivers r ∧ EndsWith evidence (Evaluation r evidence) earlier
  | _ => True

/-! ## Programs that keep the log honest -/

/-- What is known of the collected evidence and of the log. -/
abbrev Known := Dict → List Event → Prop

/-- The log is honest, and this is known. -/
def Holds (drivers : Runner → Prop) (known : Known) (w : World) : Prop :=
  Throughout (ConvergesEarned drivers) w.log ∧ known w.collected w.log

/-- From what is known on, the program ends with `post`, or leaves an honest log. -/
def Leads {α : Type} (drivers : Runner → Prop) (known : Known) (program : Drive α)
    (post : α → Known) : Prop :=
  Triple (Holds drivers known) program (fun a => Holds drivers (post a))
    (fun _ => Holds drivers fun _ _ => True)

/-- The program leaves an honest log. -/
abbrev Keeps {α : Type} (drivers : Runner → Prop) (program : Drive α) : Prop :=
  Leads drivers (fun _ _ => True) program fun _ _ _ => True

section

variable {α β : Type} {drivers : Runner → Prop} {known known' : Known} {post : α → Known}
  {program : Drive α} {state : LoopRunState} {r : Runner}

theorem Holds.imp {w : World} (h : Holds drivers known w)
    (himp : ∀ evidence log, known evidence log → known' evidence log) : Holds drivers known' w :=
  ⟨h.1, himp _ _ h.2⟩

theorem Leads.bind {middle : α → Known} {rest : α → Drive β} {post : β → Known}
    (h : Leads drivers known program middle)
    (hrest : ∀ a, Leads drivers (middle a) (rest a) post) :
    Leads drivers known (program >>= rest) post := Triple.bind h hrest

theorem Leads.imp (h : Leads drivers known' program post)
    (himp : ∀ evidence log, known evidence log → known' evidence log) :
    Leads drivers known program post :=
  h.weaken (fun _ hw => hw.imp himp) (fun _ _ hw => hw) fun _ _ hw => hw

theorem Leads.ends {post' : α → Known} (h : Leads drivers known program post)
    (himp : ∀ a evidence log, post a evidence log → post' a evidence log) :
    Leads drivers known program post' :=
  h.weaken (fun _ hw => hw) (fun a _ hw => hw.imp (himp a)) fun _ _ hw => hw

theorem leads_pure {a : α} (h : ∀ evidence log, known evidence log → post a evidence log) :
    Leads drivers known (pure a) post := Triple.pure fun _ hw => hw.imp h

theorem leads_raise (error : Err) : Leads drivers known (raise error : Drive α) post :=
  Triple.throw fun _ hw => hw.imp fun _ _ _ => trivial

theorem leads_ask : Leads drivers known ask fun _ => known := by
  intro w hw
  rw [ask_eq]
  cases w.answers with
  | nil => exact hw.imp fun _ _ _ => trivial
  | cons answer rest => exact hw

theorem Leads.askPort {port : Answer → Except String α} {rest : α → Drive β} {post : β → Known}
    (hrest : ∀ value, (∃ answer, port answer = .ok value) → Leads drivers known (rest value) post) :
    Leads drivers known (askPort port >>= rest) post := by
  have hport : Leads drivers known (Navi.StateGraph.askPort port) fun value evidence log =>
      (∃ answer, port answer = .ok value) ∧ known evidence log := by
    refine leads_ask.bind fun answer => ?_
    split
    next value hvalue => exact leads_pure fun _ _ h => ⟨⟨answer, hvalue⟩, h⟩
    next => exact leads_raise _
  exact hport.bind fun value => Triple.assume (fun _ hw => hw.2.1) fun hvalue =>
    (hrest value hvalue).imp fun _ _ h => h.2

theorem leads_note (event : Event) (h : ∀ evidence log, known evidence log →
      ConvergesEarned drivers log event ∧ known' evidence (event :: log)) :
    Leads drivers known (note event) fun _ => known' :=
  Triple.modify fun _ hw => ⟨⟨(h _ _ hw.2).1, hw.1⟩, (h _ _ hw.2).2⟩

theorem leads_collect (change : Dict → Dict)
    (h : ∀ evidence log, known evidence log → known' (change evidence) log) :
    Leads drivers known (collect change) fun _ => known' :=
  Triple.modify fun _ hw => ⟨hw.1, h _ _ hw.2⟩

theorem leads_collected : Leads drivers known collected fun evidence found log =>
    found = evidence ∧ known found log := by
  refine Triple.bind Triple.get_self fun found => Triple.pure ?_
  rintro w ⟨rfl, hw⟩
  exact ⟨hw.1, rfl, hw.2⟩

theorem leads_writeCheckpoint (node : LoopNode) (inputs : Dict) :
    Leads drivers known (writeCheckpoint node inputs) fun _ => known :=
  leads_ask.bind fun _ => Triple.bind (Triple.modify fun _ hw => hw) fun _ =>
    leads_pure fun _ _ h => h

theorem leads_checkLeaseRenewal : Leads drivers known checkLeaseRenewal fun _ => known := by
  refine leads_ask.bind fun answer => ?_
  split
  · exact leads_raise _
  · exact leads_pure fun _ _ h => h

theorem keeps_pure (a : α) : Keeps drivers (pure a : Drive α) := leads_pure fun _ _ h => h

theorem Leads.keeps (h : Leads drivers (fun _ _ => True) program post) : Keeps drivers program :=
  h.ends fun _ _ _ _ => trivial

theorem Keeps.leads (h : Keeps drivers program) : Leads drivers known program fun _ _ _ => True :=
  h.imp fun _ _ _ => trivial

theorem keeps_note (event : Event)
    (h : ∀ log, ConvergesEarned drivers log event := by exact fun _ => trivial) :
    Keeps drivers (note event) := leads_note _ fun _ log _ => ⟨h log, trivial⟩

theorem keeps_collect (change : Dict → Dict) : Keeps drivers (collect change) :=
  leads_collect _ fun _ _ h => h

theorem keeps_collected : Keeps drivers collected := leads_collected.keeps

/-- The log entitles the loop to a stop state. -/
def Entitles (drivers : Runner → Prop) (terminalState : Option LoopTerminalState)
    (log : List Event) : Prop :=
  terminalState = some .converged →
    ∃ r evidence, drivers r ∧ EndsWith evidence (Evaluation r evidence) log

theorem leads_storeTransition {request : TransitionRequest}
    (h : ∀ evidence log, known evidence log → Entitles drivers request.terminalState log)
    (hnext : ∀ evidence log run next, known evidence log →
      known' evidence (.committed run request next :: log)) :
    Leads drivers known (storeTransition request) fun _ => known' := by
  refine leads_ask.bind fun answer => Triple.get_bind (fun _ hw => hw) fun found hfound => ?_
  split
  · exact Triple.bind (Triple.set fun _ _ =>
      ⟨⟨h _ _ hfound.2, hfound.1⟩, hnext _ _ _ _ hfound.2⟩) fun _ => leads_pure fun _ _ h => h
  next error _ =>
    have hrefused : Leads drivers (fun _ _ => True) (do
        note (.refused found.cell.run request error)
        raise (.store error) : Drive LoopRunState) fun _ => known' :=
      (keeps_note _).bind fun _ => leads_raise _
    exact hrefused.weaken (fun _ hw => ⟨hw.2.1, trivial⟩) (fun _ _ hw => hw) fun _ _ hw => hw

theorem leads_transition_logged (node : LoopNode) (condition : String)
    {terminalState : Option LoopTerminalState} (evidence : Dict)
    (h : ∀ evidence log, known evidence log → Entitles drivers terminalState log)
    (hnext : ∀ found log run request next, known found log → request.condition = condition →
      (∃ pending : Dict, request.evidence = pending.merge evidence) →
      known' found (.committed run request next :: log)) :
    Leads drivers known (transition r state node condition terminalState evidence)
      fun _ => known' := by
  refine leads_checkLeaseRenewal.bind fun _ => (leads_writeCheckpoint _ _).bind fun id =>
    Triple.get_bind (fun _ hw => hw) fun world _ => ?_
  have hstore : Leads drivers known (do
      let transitioned ← storeTransition
        { node := node, terminalState := terminalState, condition := condition
          evidence := world.pending.merge evidence, checkpointId := id
          leaseOwner := r.executionOwner }
      modify fun world => { world with pending := [] }
      return transitioned : Drive LoopRunState) fun _ => known' :=
    (leads_storeTransition h fun _ _ _ _ hknown => hnext _ _ _ _ _ hknown rfl ⟨_, rfl⟩).bind
      fun moved => Triple.bind (Triple.modify fun _ hw => hw) fun _ => leads_pure fun _ _ h => h
  exact hstore.weaken (fun _ hw => hw.2) (fun _ _ hw => hw) fun _ _ hw => hw

theorem leads_transition (node : LoopNode) (condition : String)
    {terminalState : Option LoopTerminalState} (evidence : Dict)
    (h : ∀ evidence log, known evidence log → Entitles drivers terminalState log) :
    Leads drivers known (transition r state node condition terminalState evidence)
      fun _ _ _ => True :=
  leads_transition_logged node condition evidence h fun _ _ _ _ _ _ _ _ => trivial

/-- An operation that may end the call is followed by what is known where it has not. -/
def Onward (known : Known) : Next α → Known
  | .result _ => fun _ _ => True
  | .goOn _ => known

theorem Leads.next {program : Drive (Next α)} {rest : Next α → Drive β} {post : β → Known}
    (h : Leads drivers known program (Onward known'))
    (hstopped : ∀ stopped, Leads drivers (fun _ _ => True) (rest (.result stopped)) post)
    (hrest : ∀ a, Leads drivers known' (rest (.goOn a)) post) :
    Leads drivers known (program >>= rest) post := by
  refine h.bind fun next => ?_
  cases next with
  | result stopped => exact hstopped stopped
  | goOn a => exact hrest a

theorem Leads.onward {program : Drive (Next α)} {known'' : Known}
    (h : Leads drivers known program (Onward known'))
    (himp : ∀ evidence log, known' evidence log → known'' evidence log) :
    Leads drivers known program (Onward known'') := by
  refine h.ends fun next evidence log h => ?_
  cases next with
  | result stopped => exact h
  | goOn a => exact himp _ _ h

theorem leads_stopped {stopped : LoopRunState} :
    Leads drivers (fun _ _ => True) (pure (.result stopped) : Drive (Next α)) (Onward known) :=
  leads_pure fun _ _ h => h

theorem Keeps.stops {program : Drive LoopRunState} (h : Keeps drivers program) :
    Leads drivers known (Next.result <$> program : Drive (Next α)) (Onward known') :=
  Triple.map h.leads fun _ _ hw => hw

/-! ### Planning and executing -/

/-! The stop states that no evaluation earns. -/

instance none_unearned : Fact ((none : Option LoopTerminalState) ≠ some .converged) :=
  ⟨(Option.some_ne_none _).symm⟩

instance blocked_unearned : Fact (some LoopTerminalState.blocked ≠ some .converged) := ⟨by simp⟩

instance failed_unearned : Fact (some LoopTerminalState.failed ≠ some .converged) := ⟨by simp⟩

instance conflicted_unearned : Fact (some LoopTerminalState.conflicted ≠ some .converged) :=
  ⟨by simp⟩

instance timedOut_unearned : Fact (some LoopTerminalState.timedOut ≠ some .converged) := ⟨by simp⟩

instance parked_unearned (stop : Stop) : Fact (some stop.terminal ≠ some .converged) := by
  constructor
  unfold Stop.terminal
  split <;> simp

theorem keeps_transition (r : Runner) (node : LoopNode) (condition : String)
    {terminalState : Option LoopTerminalState} [h : Fact (terminalState ≠ some .converged)]
    (evidence : Dict) : Keeps drivers (transition r state node condition terminalState evidence) :=
  leads_transition _ _ _ fun _ _ _ hconverged => absurd hconverged h.out

theorem keeps_park (r : Runner) (stop : Stop) : Keeps drivers (park r state stop) :=
  (keeps_note _).bind fun _ => (keeps_transition r _ _ _).bind fun _ => keeps_transition r _ _ _

theorem keeps_stopForResourceGrant (r : Runner) (grant : ResourceGrant) :
    Keeps drivers (stopForResourceGrant r state grant) := by
  unfold stopForResourceGrant
  split
  · exact keeps_park r _
  · exact keeps_transition r _ _ _

theorem leads_gateOrStop : Leads drivers known (gateOrStop r state) (Onward known) := by
  refine leads_ask.bind fun answer => ?_
  split
  · exact leads_pure fun _ _ h => h
  · exact (keeps_stopForResourceGrant r _).stops

theorem keeps_plannerFailed (r : Runner) (errorType message : String) (failureFacts : Dict) :
    Keeps drivers (plannerFailed r state errorType message failureFacts) := by
  refine (keeps_collect _).bind fun _ => leads_ask.bind fun answer =>
    keeps_collected.bind fun evidence => ?_
  dsimp only
  split
  · exact (keeps_collect _).bind fun _ => keeps_park r _
  · refine (keeps_collect _).bind fun _ => ?_
    split
    · exact (keeps_transition r _ _ _).bind fun _ => keeps_transition r _ _ _
    · exact keeps_transition r _ _ _

/-- The collected result is the one that the log tells. -/
def Told : Known := fun evidence log => evidence.get "capability_result" = loggedResult log

theorem told_transition (node : LoopNode) {condition : String}
    (hcondition : condition ≠ "side_effect_recorded") (evidence : Dict) :
    Leads drivers Told (transition r state node condition none evidence) fun _ => Told := by
  refine leads_transition_logged _ _ _ (fun _ _ _ hconverged => nomatch hconverged) ?_
  rintro found log run request next htold rfl -
  show _ = if _ then _ else _
  rw [if_neg hcondition]
  exact htold

theorem told_collect (change : Dict → Dict)
    (h : ∀ found, (change found).get "capability_result" = found.get "capability_result") :
    Leads drivers Told (collect change) fun _ => Told :=
  leads_collect _ fun found _ htold => (h found).trans htold

theorem get_clearProviderTransportRetryGate {key : String} (evidence : Dict) (role : String)
    (hgate : "retry_gate" ≠ key) (hhistory : "provider_transport_retry_history" ≠ key) :
    (clearProviderTransportRetryGate evidence role).get key = evidence.get key := by
  unfold clearProviderTransportRetryGate
  split
  · rfl
  · rw [Dict.get_put, if_neg hgate, Dict.get_put, if_neg hhistory]

theorem told_planState (r : Runner) :
    Leads drivers Told (planState r state) (Onward Told) := by
  refine leads_gateOrStop.next (fun _ => leads_stopped) fun _ =>
    (leads_writeCheckpoint _ _).bind fun _ => leads_ask.bind fun answer => ?_
  dsimp only
  split
  · exact (keeps_stopForResourceGrant r _).leads.bind fun _ => leads_stopped
  · exact (keeps_plannerFailed r _ _ _).leads.bind fun _ => leads_stopped
  · exact leads_raise _
  next plannedStep _ =>
    have hobserve : Leads drivers Told (observe (.planned plannedStep)) fun _ => Told :=
      leads_note _ fun _ _ htold => ⟨trivial, htold⟩
    refine hobserve.bind fun _ => (told_collect _ fun found => ?_).bind fun _ =>
      leads_collected.bind fun evidence => ?_
    · rw [get_clearProviderTransportRetryGate _ _ (by decide) (by decide), Dict.get_put,
        if_neg (by decide)]
    · refine (Leads.imp (told_transition _ (by decide) _) ?_).bind fun _ =>
        leads_pure fun _ _ h => h
      rintro found log ⟨rfl, htold⟩
      exact htold

theorem keeps_capabilityFailed (r : Runner) (executed : ExecutedCapabilityStep)
    (progressSignature : String) :
    Keeps drivers (capabilityFailed r state executed progressSignature) := by
  refine (keeps_transition r _ _ _).bind fun reflected => leads_ask.bind fun answer =>
    (keeps_collect _).bind fun _ => ?_
  split
  · exact keeps_transition r _ _ _
  · exact keeps_transition r _ _ _

def Executed (executed : ExecutedCapabilityStep) : Known := fun found _ =>
  found.get "capability_result" = some (.obj executed.toDict)

theorem told_recordsExecution (executed : ExecutedCapabilityStep) (progressSignature : String) :
    Leads drivers (Executed executed)
      (transition r state .evaluate "side_effect_recorded" none
        [("executor", .obj executed.toDict), ("progress_signature", .str progressSignature)])
      fun _ => Told := by
  refine leads_transition_logged _ _ _ (fun _ _ _ hconverged => nomatch hconverged) ?_
  rintro found log run request next hfound hcondition ⟨pending, hevidence⟩
  show _ = if _ then _ else _
  rw [if_pos hcondition, hevidence, hfound, Dict.get_merge_of_some rfl]

theorem told_settleExecution (r : Runner) (step : PlannedCapabilityStep)
    (executed : ExecutedCapabilityStep) (progressSignature : String) :
    Leads drivers (Executed executed)
      (settleExecution r state step executed progressSignature) (Onward Told) := by
  refine leads_collected.bind fun evidence => ?_
  have hgate (warned : Bool) (gate : Dict) : Leads drivers
      (fun found _ => found = evidence ∧ Executed executed found ([] : List Event))
      (collect fun found => if warned then found.put "loop_gate" (.obj gate) else found)
      fun _ => Executed executed := by
    refine leads_collect _ ?_
    rintro found log ⟨rfl, hfound⟩
    cases warned with
    | false => exact hfound
    | true => exact (Dict.get_put _ _ _ _).trans hfound
  refine (hgate _ _).bind fun _ => ?_
  split
  · exact (keeps_transition r _ _ _).stops
  · split
    · exact (keeps_park r _).stops
    · split
      · exact (keeps_capabilityFailed r _ _).stops
      · exact Triple.map (told_recordsExecution executed progressSignature) fun _ _ hw => hw

theorem told_executeState (r : Runner) (planned : Option PlannedCapabilityStep) :
    Leads drivers Told (executeState r state planned) (Onward Told) := by
  refine leads_gateOrStop.next (fun _ => leads_stopped) fun _ => ?_
  cases planned with
  | none =>
      exact Keeps.stops ((keeps_transition r _ _ _).bind fun _ => keeps_transition r _ _ _)
  | some step =>
      refine (leads_writeCheckpoint _ _).bind fun _ => (keeps_note _).leads.bind fun _ =>
        .askPort fun executed _ => ?_
      have hcollect (signature : String) : Leads drivers (fun _ _ => True)
          (collect (executedEvidence state step executed signature))
          fun _ => Executed executed :=
        leads_collect _ fun evidence _ _ => executedEvidence_result _ _ _ _ evidence
      exact (hcollect _).bind fun _ => told_settleExecution r _ _ _

/-! ## An evaluation -/

/-- An evaluation has begun, of which nothing but observations was logged. -/
def Since (seen : Known) : Known := fun evidence log => EndsWith evidence (seen evidence) log

variable {seen seen' : Known}

theorem EndsWith.imp {evidence evidence' : Dict} {evaluation evaluation' : List Event → Prop}
    {log : List Event} (h : EndsWith evidence evaluation log)
    (hresult : evidence'.get "capability_result" = evidence.get "capability_result")
    (himp : ∀ recent, evaluation recent → evaluation' recent) :
    EndsWith evidence' evaluation' log := by
  obtain ⟨recent, run, earlier, hlog, honly, htold, hseen⟩ := h
  exact ⟨recent, run, earlier, hlog, honly, hresult.trans htold, himp _ hseen⟩

theorem since_imp (himp : ∀ evidence recent, seen evidence recent → seen' evidence recent)
    (evidence : Dict) (log : List Event) (h : Since seen evidence log) :
    Since seen' evidence log := h.imp rfl (himp evidence)

theorem leads_observe (what : Observation)
    (h : ∀ evidence recent, seen evidence recent → seen' evidence (.observed what :: recent))
    (hearned : ∀ evidence log, Since seen evidence log →
      ConvergesEarned drivers log (.observed what)) :
    Leads drivers (Since seen) (observe what) fun _ => Since seen' := by
  refine leads_note _ fun evidence log hsince => ⟨hearned evidence log hsince, ?_⟩
  obtain ⟨recent, run, earlier, hlog, honly, htold, hseen⟩ := hsince
  refine ⟨.observed what :: recent, run, earlier, ?_, ?_, htold, h _ _ hseen⟩
  · rw [hlog, List.cons_append]
  · exact List.forall_mem_cons.mpr ⟨⟨what, rfl⟩, honly⟩

theorem leads_change (change : Dict → Dict)
    (hresult : ∀ evidence : Dict,
      (change evidence).get "capability_result" = evidence.get "capability_result")
    (h : ∀ evidence recent, seen evidence recent → seen' (change evidence) recent) :
    Leads drivers (Since seen) (collect change) fun _ => Since seen' :=
  leads_collect _ fun evidence _ hsince => hsince.imp (hresult evidence) (h evidence)

theorem leads_found : Leads drivers (Since seen) collected fun evidence => Since fun found recent =>
    found = evidence ∧ seen found recent := by
  refine leads_collected.ends ?_
  rintro _ _ _ ⟨rfl, hsince⟩
  exact hsince.imp rfl fun _ hseen => ⟨rfl, hseen⟩

theorem leads_acquireWorkspaceLock {key : String} (hkey : key ≠ "capability_result")
    (h : ∀ evidence recent value, seen evidence recent → seen (evidence.put key value) recent) :
    Leads drivers (Since seen) (acquireWorkspaceLock r state key) (Onward (Since seen)) := by
  unfold acquireWorkspaceLock
  split
  · refine .askPort fun lock _ => (leads_change _ (fun evidence => by simp [hkey])
      fun _ _ hseen => h _ _ _ hseen).bind fun _ => ?_
    split
    · exact leads_pure fun _ _ h => h
    · exact (keeps_park r _).stops
  · exact leads_pure fun _ _ h => h

/-! ### The steps of the ladder -/

/-- The semantic check of a step: the checker answered, or the result stands for itself. -/
def Assessed (r : Runner) (evidence : Dict) (recent : List Event) (step : VerificationStep) :
    Prop :=
  ∃ result, evidence.get "capability_result" = some (.obj result) ∧
    ((∃ decision, ∃ facts : Dict, .observed (.checked step result decision) ∈ recent
        ∧ evidence.get step.key = some (.obj facts)
        ∧ facts.get "passed" = some (.bool decision.passed))
      ∨ .observed (.completed step result) ∈ recent ∧ objectiveEvidence r.spec result = true)

/-- A step has its facts in the evidence: of its command, or of its check. -/
def Settled (r : Runner) (evidence : Dict) (recent : List Event) (step : VerificationStep) :
    Prop :=
  stepRunsCommand step = true ∧ (∃ result, .observed (.ranCommand step result) ∈ recent
      ∧ evidence.get step.key = some (.obj result))
    ∨ step.kind = .llmChecker ∧ Assessed r evidence recent step

/-- So have all of these steps, which are steps of the ladder, and the result is known. -/
structure Settles (r : Runner) (about : Option Json → Prop) (done : VerificationStep → Prop)
    (evidence : Dict) (recent : List Event) : Prop where
  about : about (evidence.get "capability_result")
  settled : ∀ step, done step →
    step ∈ r.spec.verificationLadder ∧ Settled r evidence recent step

section

variable {evidence evidence' : Dict} {recent recent' : List Event} {step : VerificationStep}
  {about : Option Json → Prop} {done done' : VerificationStep → Prop}

theorem Settled.stays (h : Settled r evidence recent step)
    (hkey : evidence'.get step.key = evidence.get step.key)
    (hresult : evidence'.get "capability_result" = evidence.get "capability_result")
    (hrecent : ∀ event ∈ recent, event ∈ recent') : Settled r evidence' recent' step := by
  rcases h with ⟨hruns, result, hmem, hget⟩ | ⟨hkind, result, habout, hassessed⟩
  · exact .inl ⟨hruns, result, hrecent _ hmem, hkey.trans hget⟩
  · refine .inr ⟨hkind, result, hresult.trans habout, ?_⟩
    rcases hassessed with ⟨decision, facts, hmem, hget, hpassed⟩ | ⟨hmem, hobjective⟩
    · exact .inl ⟨decision, facts, hrecent _ hmem, hkey.trans hget, hpassed⟩
    · exact .inr ⟨hrecent _ hmem, hobjective⟩

theorem ByLadder.key_ne (hr : ByLadder r) (hstep : step ∈ r.spec.verificationLadder)
    {key : String} (hkey : key ∈ reservedKeys) : key ≠ step.key :=
  fun h => hr.free step hstep (h ▸ hkey)

theorem Settles.cons (h : Settles r about done evidence recent) (event : Event) :
    Settles r about done evidence (event :: recent) :=
  ⟨h.about, fun s hs => ⟨(h.settled s hs).1, (h.settled s hs).2.stays rfl rfl fun _ =>
    List.mem_cons_of_mem _⟩⟩

theorem Settles.fewer (h : Settles r about done evidence recent)
    (hdone : ∀ s, done' s → done s) : Settles r about done' evidence recent :=
  ⟨h.about, fun s hs => h.settled s (hdone s hs)⟩

theorem Settles.skip {wanted : VerificationStep → Prop} {rest : List VerificationStep}
    (hnot : ¬ wanted step)
    (h : Settles r about (fun s => done s ∨ s ∈ rest ∧ wanted s) evidence recent) :
    Settles r about (fun s => done s ∨ s ∈ step :: rest ∧ wanted s) evidence recent := by
  refine h.fewer fun s hs => ?_
  rcases hs with hs | ⟨hs, hwanted⟩
  · exact .inl hs
  · rcases List.mem_cons.mp hs with rfl | hs
    · exact absurd hwanted hnot
    · exact .inr ⟨hs, hwanted⟩

theorem Settles.first {wanted : VerificationStep → Prop} {rest : List VerificationStep}
    (h : Settles r about (fun s => (done s ∨ s = step) ∨ s ∈ rest ∧ wanted s) evidence recent) :
    Settles r about (fun s => done s ∨ s ∈ step :: rest ∧ wanted s) evidence recent := by
  refine h.fewer fun s hs => ?_
  rcases hs with hs | ⟨hs, hwanted⟩
  · exact .inl (.inl hs)
  · rcases List.mem_cons.mp hs with rfl | hs
    · exact .inl (.inr rfl)
    · exact .inr ⟨hs, hwanted⟩

theorem Settles.agree (h : Settles r about done evidence recent)
    (hresult : evidence'.get "capability_result" = evidence.get "capability_result")
    (hkeys : ∀ s ∈ r.spec.verificationLadder, evidence'.get s.key = evidence.get s.key) :
    Settles r about done evidence' recent := by
  refine ⟨hresult ▸ h.about, fun s hs => ?_⟩
  obtain ⟨hladder, hsettled⟩ := h.settled s hs
  exact ⟨hladder, hsettled.stays (hkeys s hladder) hresult fun _ hmem => hmem⟩

theorem Settles.putReserved (h : Settles r about done evidence recent) (hr : ByLadder r)
    {key : String} (hkey : key ∈ reservedKeys) (hother : key ≠ "capability_result")
    (value : Json) : Settles r about done (evidence.put key value) recent :=
  h.agree (by rw [Dict.get_put, if_neg hother]) fun _ hs => by
    rw [Dict.get_put, if_neg (hr.key_ne hs hkey)]

theorem Settles.put (h : Settles r about done evidence recent) (hr : ByLadder r)
    (hstep : step ∈ r.spec.verificationLadder) {facts : Json} {event : Event}
    (hnew : about ((evidence.put step.key facts).get "capability_result") →
      Settled r (evidence.put step.key facts) (event :: recent) step) :
    Settles r about (fun s => done s ∨ s = step) (evidence.put step.key facts)
      (event :: recent) := by
  have hresult : (evidence.put step.key facts).get "capability_result"
      = evidence.get "capability_result" := by
    rw [Dict.get_put, if_neg (hr.key_ne hstep (by decide)).symm]
  have habout := hresult ▸ h.about
  refine ⟨habout, fun s hs => ?_⟩
  by_cases hs' : s = step
  · obtain rfl := hs'
    exact ⟨hstep, hnew habout⟩
  · obtain ⟨hladder, hsettled⟩ := h.settled s (hs.resolve_right hs')
    have hkey : step.key ≠ s.key := fun hkey => hs' (hr.own s hladder step hstep hkey.symm)
    refine ⟨hladder, hsettled.stays ?_ hresult fun _ => List.mem_cons_of_mem _⟩
    rw [Dict.get_put, if_neg hkey]

theorem leads_settle (hr : ByLadder r) (hstep : step ∈ r.spec.verificationLadder)
    {what : Observation} {facts : Dict} {change : Dict → Dict}
    (hearned : ∀ log, ConvergesEarned drivers log (.observed what))
    (hnew : ∀ (evidence : Dict) recent, evidence.get step.key = some (.obj facts) →
      about (evidence.get "capability_result") →
      Settled r evidence (.observed what :: recent) step)
    (hresult : ∀ evidence : Dict,
      (change evidence).get "capability_result" = evidence.get "capability_result")
    (hchange : ∀ evidence recent, Settles r about (fun s => done s ∨ s = step)
        (evidence.put step.key (.obj facts)) recent →
      Settles r about (fun s => done s ∨ s = step) (change evidence) recent)
    {rest : Drive α}
    (hrest : Leads drivers (Since (Settles r about fun s => done s ∨ s = step)) rest post) :
    Leads drivers (Since (Settles r about done)) (do observe what; collect change; rest) post := by
  have hobserve : Leads drivers (Since (Settles r about done)) (observe what) fun _ =>
      Since fun evidence recent => Settles r about (fun s => done s ∨ s = step)
        (evidence.put step.key (.obj facts)) recent :=
    leads_observe what (fun evidence recent h => h.put hr hstep (hnew _ recent (by simp)))
      fun _ log _ => hearned log
  exact hobserve.bind fun _ => (leads_change change hresult hchange).bind fun _ => hrest

end

section

variable {about : Option Json → Prop} {done : VerificationStep → Prop}

theorem leads_runCommands (hr : ByLadder r) (steps : List VerificationStep)
    (hsteps : ∀ step ∈ steps, step ∈ r.spec.verificationLadder) :
    Leads drivers (Since (Settles r about done)) (runCommands r state steps) (Onward (Since
      (Settles r about fun s => done s ∨ s ∈ steps ∧ stepRunsCommand s = true))) := by
  induction steps generalizing done with
  | nil => exact leads_pure (since_imp fun _ _ h => h.fewer (by simp))
  | cons step rest ih =>
      obtain ⟨hstep, hrest⟩ := List.forall_mem_cons.mp hsteps
      rw [runCommands]
      split
      next hnot =>
        have hnot : ¬ stepRunsCommand step = true := by simpa using hnot
        exact (ih hrest).onward (since_imp fun _ _ h => h.skip hnot)
      next hruns =>
        refine leads_gateOrStop.next (fun _ => leads_stopped) fun _ =>
          (leads_writeCheckpoint _ _).bind fun _ =>
            (leads_acquireWorkspaceLock (by decide) fun _ _ value h =>
              h.putReserved hr (by decide) (by decide) value).next (fun _ => leads_stopped)
              fun _ => .askPort fun result _ => ?_
        refine leads_settle hr hstep ?_ (fun _ _ hget _ => .inl ⟨by simpa using hruns, result,
          List.mem_cons_self, hget⟩) (fun _ => ?_) (fun _ _ h => h) ?_
        · exact fun _ => trivial
        · rw [Dict.get_put, if_neg (hr.key_ne hstep (by decide)).symm]
        · exact (ih hrest).onward (since_imp fun _ _ h => h.first)

theorem leads_assessSteps (hr : ByLadder r) {result : Dict} (steps : List VerificationStep)
    (hsteps : ∀ step ∈ steps, step ∈ r.spec.verificationLadder) :
    Leads drivers (Since (Settles r (· = some (.obj result)) done))
      (assessSteps r state result steps) fun _ => Since (Settles r (· = some (.obj result))
        fun s => done s ∨ s ∈ steps ∧ s.kind = .llmChecker) := by
  induction steps generalizing done with
  | nil => exact leads_pure (since_imp fun _ _ h => h.fewer (by simp))
  | cons step rest ih =>
      obtain ⟨hstep, hrest⟩ := List.forall_mem_cons.mp hsteps
      -- once the step is assessed, the rest is
      have hassessed {what : Observation} {facts : Dict} (hkind : step.kind = .llmChecker)
          (hearned : ∀ log, ConvergesEarned drivers log (.observed what))
          (hnew : ∀ (evidence : Dict) recent, evidence.get step.key = some (.obj facts) →
            evidence.get "capability_result" = some (.obj result) →
            Settled r evidence (.observed what :: recent) step) :
          Leads drivers (Since (Settles r (· = some (.obj result)) done))
            (do
              observe what
              collect fun evidence =>
                (evidence.put step.key (.obj facts)).put "semantic_checker_result" (.obj facts)
              assessSteps r state result rest)
            fun _ => Since (Settles r (· = some (.obj result))
              fun s => done s ∨ s ∈ step :: rest ∧ s.kind = .llmChecker) := by
        have hchange (evidence : Dict) (s : VerificationStep)
            (hs : s ∈ r.spec.verificationLadder) :
            ((evidence.put step.key (.obj facts)).put "semantic_checker_result" (.obj facts)).get
              s.key = (evidence.put step.key (.obj facts)).get s.key := by
          by_cases hkey : "semantic_checker_result" = s.key
          · obtain rfl := hr.semantic s hs hkey.symm step hstep hkind
            rw [Dict.get_put, if_pos hkey, Dict.get_put, if_pos rfl]
          · rw [Dict.get_put, if_neg hkey]
        have hresult (evidence : Dict) :
            ((evidence.put step.key (.obj facts)).put "semantic_checker_result" (.obj facts)).get
              "capability_result" = (evidence.put step.key (.obj facts)).get "capability_result" :=
          by rw [Dict.get_put, if_neg (by decide)]
        exact leads_settle hr hstep hearned hnew (fun evidence => (hresult evidence).trans
            (by rw [Dict.get_put, if_neg (hr.key_ne hstep (by decide)).symm]))
          (fun evidence _ h => h.agree (hresult evidence) (hchange evidence))
          ((ih hrest).ends fun _ => since_imp fun _ _ h => h.first)
      rw [assessSteps]
      split
      next hkind => exact (ih hrest).ends fun _ => since_imp fun _ _ h => h.skip hkind
      next hkind =>
        rw [not_not] at hkind
        split
        next hobjective =>
          exact hassessed hkind (fun _ => trivial) fun evidence _ _ hresult =>
            .inr ⟨hkind, result, hresult, .inr ⟨List.mem_cons_self, hobjective⟩⟩
        next =>
          refine leads_ask.bind fun answer => ?_
          split
          · exact leads_raise _
          next decision _ =>
            exact hassessed hkind (fun _ => trivial) fun evidence _ hget hresult =>
              .inr ⟨hkind, result, hresult,
                .inl ⟨decision, _, List.mem_cons_self, hget, rfl⟩⟩

/-- The steps that have their facts when the checker is asked: the commands, and the semantic
checks where there is somebody to make them and a result to make them of. -/
def Due (r : Runner) (result : Option Dict) (step : VerificationStep) : Prop :=
  step ∈ r.spec.verificationLadder ∧ (stepRunsCommand step = true
    ∨ r.hasSemanticChecker = true ∧ result.isSome = true ∧ step.kind = .llmChecker)

def Examined (r : Runner) : Known := fun evidence recent =>
  Settles r (fun _ => True) (Due r (evidence.sub "capability_result")) evidence recent

theorem leads_populate (hr : ByLadder r) :
    Leads drivers (Since (Settles r (fun _ => True) fun s => s ∈ r.spec.verificationLadder
        ∧ stepRunsCommand s = true))
      (populateSemanticCheckerEvidence r state) fun _ => Since (Examined r) := by
  refine leads_found.bind fun evidence => ?_
  dsimp only
  split
  next hnone =>
    refine leads_pure (since_imp ?_)
    rintro _ recent ⟨rfl, h⟩
    refine h.fewer fun s hs => ⟨hs.1, hs.2.resolve_right ?_⟩
    rintro ⟨hchecker, hresult, -⟩
    rw [if_pos hchecker] at hnone
    rw [hnone] at hresult
    cases hresult
  next result hsome =>
    have hresult : evidence.get "capability_result" = some (.obj result) := by
      split at hsome
      · obtain ⟨value, hvalue, hdict⟩ := Option.bind_eq_some_iff.mp hsome
        rwa [Json.asDict_eq_some.mp hdict] at hvalue
      · cases hsome
    have hassess : Leads drivers (Since (Settles r (· = some (.obj result)) fun s =>
        s ∈ r.spec.verificationLadder ∧ stepRunsCommand s = true))
        (assessSteps r state result r.spec.verificationLadder) fun _ => Since (Examined r) := by
      refine (leads_assessSteps hr _ fun _ hs => hs).ends fun _ => since_imp fun _ _ h => ?_
      refine ⟨trivial, fun s hs => h.settled s ?_⟩
      rcases hs.2 with hruns | ⟨-, -, hkind⟩
      · exact .inl ⟨hs.1, hruns⟩
      · exact .inr ⟨hs.1, hkind⟩
    refine hassess.imp (since_imp ?_)
    rintro _ recent ⟨rfl, h⟩
    exact ⟨hresult, h.settled⟩

end

/-! ### The report -/

theorem examined_clear (hr : ByLadder r) {evidence : Dict} {recent : List Event} {role : String}
    (h : Examined r evidence recent) :
    Examined r (clearProviderTransportRetryGate evidence role) recent := by
  have hresult := @get_clearProviderTransportRetryGate "capability_result" evidence role
    (by decide) (by decide)
  unfold Examined
  rw [Dict.sub_congr hresult]
  exact h.agree hresult fun s hs =>
    get_clearProviderTransportRetryGate _ _ (hr.key_ne hs (by decide)) (hr.key_ne hs (by decide))

theorem accepted_of_examined (hr : ByLadder r) {answer : Answer} {evidence : Dict}
    {report : CheckerReport} {recent : List Event} (h : Examined r evidence recent)
    (hreport : r.checker answer r.spec evidence = .ok report) (haccepted : report.accepted = true)
    (hmem : .observed (.judged report) ∈ recent) : Accepted r evidence recent := by
  have hpasses : ∀ step ∈ r.spec.verificationLadder, step.required = true →
      (evaluateStep evidence step).passed = true := by
    rw [hr.checker] at hreport
    unfold deterministicChecker at hreport
    split at hreport
    · cases hreport
    · cases hreport
      exact evaluateLadder_accepted.mp haccepted
  have hruns_kind {step : VerificationStep} (hkind : step.kind = .llmChecker) :
      stepRunsCommand step ≠ true := by simp [stepRunsCommand, hkind]
  refine ⟨⟨report, hmem, haccepted⟩, fun step hstep hruns => ?_, fun hchecker result hresult step
    hstep hkind => ?_⟩
  · rcases (h.settled step ⟨hstep, .inl hruns⟩).2 with ⟨-, result, hran, hget⟩ | ⟨hkind, -⟩
    · exact ⟨result, hran, fun hrequired =>
        evaluateStep_command hruns hget ▸ hpasses step hstep hrequired⟩
    · exact absurd hruns (hruns_kind hkind)
  · rcases (h.settled step ⟨hstep, .inr ⟨hchecker, by simp [hresult], hkind⟩⟩).2 with
      ⟨hruns, -⟩ | ⟨-, other, habout, hassessed⟩
    · exact absurd hruns (hruns_kind hkind)
    · obtain rfl : other = result :=
        Option.some.inj ((Dict.sub_of_get habout).symm.trans hresult)
      rcases hassessed with ⟨decision, facts, hchecked, hget, hpassed⟩ | hcompleted
      · exact .inl ⟨decision, hchecked, fun hrequired =>
          evaluateStep_semantic hkind hget hpassed ▸ hpasses step hstep hrequired⟩
      · exact .inr hcompleted

/-! ### The end -/

/-- This was seen, and what is collected is about the same result. -/
def Concluding (seen : List Event → Prop) (evidence : Dict) : Known := fun found recent =>
  found.get "capability_result" = evidence.get "capability_result" ∧ seen recent

section

variable {evidence : Dict} {recent : List Event}

theorem Accepted.cons (h : Accepted r evidence recent) (event : Event) :
    Accepted r evidence (event :: recent) := by
  obtain ⟨report, hreport, haccepted⟩ := h.judged
  refine ⟨⟨report, List.mem_cons_of_mem _ hreport, haccepted⟩, fun step hstep hruns => ?_,
    fun hchecker result hresult step hstep hkind => ?_⟩
  · obtain ⟨result, hran, hpassed⟩ := h.commands step hstep hruns
    exact ⟨result, List.mem_cons_of_mem _ hran, hpassed⟩
  · rcases h.checks hchecker result hresult step hstep hkind with
      ⟨decision, hchecked, hpassed⟩ | ⟨hcompleted, hobjective⟩
    · exact .inl ⟨decision, List.mem_cons_of_mem _ hchecked, hpassed⟩
    · exact .inr ⟨List.mem_cons_of_mem _ hcompleted, hobjective⟩

theorem Merged.cons (h : Merged r evidence recent) (event : Event) :
    Merged r evidence (event :: recent) := by
  refine ⟨h.toAccepted.cons event, fun hshadow => ?_⟩
  obtain ⟨merged, hmerged, hclean⟩ := h.merge hshadow
  exact ⟨merged, List.mem_cons_of_mem _ hmerged, hclean⟩

theorem ends_of_concluding {seen seen' : List Event → Prop} {found : Dict} {log : List Event}
    (h : Since (Concluding seen evidence) found log)
    (himp : ∀ recent, seen recent → seen' recent) : EndsWith evidence seen' log := by
  obtain ⟨recent, run, earlier, hlog, honly, htold, hresult, hseen⟩ := h
  exact ⟨recent, run, earlier, hlog, honly, hresult.symm.trans htold, himp recent hseen⟩

theorem leads_concluding {seen : List Event → Prop} (change : Dict → Dict)
    (h : ∀ found, (change found).get "capability_result" = found.get "capability_result") :
    Leads drivers (Since (Concluding seen evidence)) (collect change)
      fun _ => Since (Concluding seen evidence) :=
  leads_change _ h fun found _ hseen => ⟨(h found).trans hseen.1, hseen.2⟩

theorem keeps_compensateSideEffects : Keeps drivers compensateSideEffects := by
  refine keeps_collected.bind fun evidence => ?_
  split
  · exact keeps_pure _
  · exact .askPort fun _ _ => keeps_collect _

theorem keeps_reflectState (report : CheckerReport) :
    Keeps drivers (reflectState r state report) := by
  refine keeps_compensateSideEffects.bind fun _ => (keeps_transition r _ _ _).bind fun reflected =>
    leads_ask.bind fun answer => (keeps_collect _).bind fun _ => ?_
  split
  · exact keeps_transition r _ _ _
  · split
    · exact keeps_transition r _ _ _
    · exact keeps_transition r _ _ _

theorem leads_mergeShadow (hr : drivers r) :
    Leads drivers (Since (Concluding (Accepted r evidence) evidence)) (mergeShadow r state)
      (Onward (Since (Concluding (Merged r evidence) evidence))) := by
  unfold mergeShadow
  split
  next hshadow =>
    refine (leads_acquireWorkspaceLock (by decide) fun _ _ _ h =>
      ⟨by simpa using h.1, h.2⟩).next
      (fun _ => leads_stopped) fun _ => .askPort fun merged _ => ?_
    have hobserve : Leads drivers (Since (Concluding (Accepted r evidence) evidence))
        (observe (.merged merged)) fun _ => Since (Concluding (fun recent =>
          Accepted r evidence recent ∧ .observed (.merged merged) ∈ recent) evidence) :=
      leads_observe _ (fun _ _ h => ⟨h.1, h.2.cons _, List.mem_cons_self⟩)
        fun _ _ hsince => ⟨r, evidence, hr, ends_of_concluding hsince fun _ h => h⟩
    refine hobserve.bind fun _ => (leads_concluding _ fun _ => by simp).bind fun _ => ?_
    split
    · exact keeps_compensateSideEffects.leads.bind fun _ => (keeps_transition r _ _ _).stops
    next hclean =>
      exact leads_pure (since_imp fun _ _ h => ⟨h.1, h.2.1, fun _ => ⟨merged, h.2.2, hclean⟩⟩)
  next hnot =>
    exact leads_pure (since_imp fun _ _ h => ⟨h.1, h.2, fun hshadow => absurd hshadow hnot⟩)

theorem leads_commitSideEffects (hr : drivers r) :
    Leads drivers (Since (Concluding (Merged r evidence) evidence)) commitSideEffects
      fun committed => Since (Concluding (fun recent =>
        (committed.filter fun result => !result.ok) = none → Evaluation r evidence recent)
          evidence) := by
  refine leads_found.bind fun found => ?_
  split
  next hempty =>
    refine leads_pure (since_imp ?_)
    rintro _ recent ⟨rfl, habout, h⟩
    refine ⟨habout, fun _ => ⟨h, fun hsome => ?_⟩⟩
    unfold sideEffectFromCollectedEvidence at hsome hempty
    rw [Dict.sub_congr habout] at hempty
    rw [hempty] at hsome
    cases hsome
  next =>
    refine .askPort fun result _ => ?_
    have hobserve : Leads drivers (Since (Concluding (Merged r evidence) evidence))
        (observe (.sideEffectsCommitted result)) fun _ => Since (Concluding (fun recent =>
          (.observed (.sideEffectsCommitted result) ∈ recent) ∧ Merged r evidence recent)
            evidence) :=
      leads_observe _ (fun _ _ h => ⟨h.1, List.mem_cons_self, h.2.cons _⟩)
        fun _ _ hsince => ⟨r, evidence, hr, ends_of_concluding hsince fun _ h => h⟩
    refine (hobserve.imp (since_imp fun _ _ h => h.2)).bind fun _ =>
      (leads_concluding _ fun _ => by simp).bind fun _ => leads_pure (since_imp fun _ _ h => ?_)
    exact ⟨h.1, fun hnone => ⟨h.2.2, fun _ => ⟨result, h.2.1, by simpa using hnone⟩⟩⟩

theorem leads_convergeState (hr : drivers r) (report : CheckerReport) :
    Leads drivers (Since (Concluding (Merged r evidence) evidence))
      (convergeState r state report) fun _ _ _ => True := by
  refine (leads_commitSideEffects hr).bind fun committed => ?_
  split
  · exact (keeps_park r _).leads
  next hnone =>
    refine leads_transition _ _ _ ?_
    intro _ _ hsince _
    exact ⟨r, evidence, hr, ends_of_concluding hsince fun _ h => h hnone⟩

theorem leads_acceptedState (hr : drivers r) (report : CheckerReport) :
    Leads drivers (Since fun found recent => found = evidence ∧ Accepted r evidence recent)
      (acceptedState r state report) fun _ _ _ => True := by
  have hresponse (found : Dict) : (acceptResponse found).get "capability_result"
      = found.get "capability_result" := by
    unfold acceptResponse
    dsimp only
    split <;> simp
  have hcollect : Leads drivers (Since (Concluding (Accepted r evidence) evidence))
      (collect acceptResponse) fun _ => Since (Concluding (Accepted r evidence) evidence) :=
    leads_concluding _ hresponse
  refine (hcollect.imp (since_imp ?_)).bind fun _ => leads_collected.bind fun found => ?_
  · rintro _ recent ⟨rfl, haccepted⟩
    exact ⟨rfl, haccepted⟩
  dsimp only
  split
  · exact (keeps_collect _).leads.bind fun _ => keeps_transition r _ _ _
  · exact ((leads_mergeShadow hr).imp fun _ _ h => h.2).next (fun _ => keeps_pure _)
      fun _ => leads_convergeState hr report

theorem leads_judgeState (hr : drivers r) (hladder : ByLadder r) :
    Leads drivers (Since (Settles r (fun _ => True) fun s => s ∈ r.spec.verificationLadder
      ∧ stepRunsCommand s = true)) (judgeState r state) fun _ _ _ => True := by
  have hclear : Leads drivers (Since (Examined r))
      (collect fun evidence => clearProviderTransportRetryGate evidence "checker")
      fun _ => Since (Examined r) := leads_change _
    (fun _ => get_clearProviderTransportRetryGate _ _ (by decide) (by decide))
    fun _ _ h => examined_clear hladder h
  refine (leads_populate hladder).bind fun _ => hclear.bind fun _ => ?_
  refine Triple.bind (Triple.modify fun _ hw => hw) fun _ => leads_found.bind fun evidence =>
    .askPort fun report hreport => ?_
  obtain ⟨answer, hreport⟩ := hreport
  have hobserve : Leads drivers (Since fun found recent => found = evidence
        ∧ Examined r found recent)
      (observe (.judged report)) fun _ => Since fun found recent => found = evidence
        ∧ (report.accepted = true → Accepted r evidence recent) := by
    refine leads_observe _ ?_ fun _ _ _ => trivial
    rintro found recent ⟨rfl, h⟩
    have hexamined : Examined r found (.observed (.judged report) :: recent) := h.cons _
    exact ⟨rfl, fun haccepted =>
      accepted_of_examined hladder hexamined hreport haccepted List.mem_cons_self⟩
  refine hobserve.bind fun _ => ?_
  split
  next haccepted =>
    exact (leads_acceptedState hr report).imp (since_imp fun _ _ h => ⟨h.1, h.2 haccepted⟩)
  next =>
    split
    · exact keeps_compensateSideEffects.leads.bind fun _ => keeps_transition r _ _ _
    · exact (keeps_reflectState report).leads

theorem leads_evaluateState (hr : drivers r) (hladder : ByLadder r) :
    Leads drivers Told (evaluateState r state) fun _ _ _ => True := by
  have hstart : Leads drivers Told (observe (.evaluating state)) fun _ =>
      Since (Settles r (fun _ => True) fun _ => False) :=
    leads_note _ fun _ log htold => ⟨trivial, [], state, log, rfl, by simp, htold, trivial, by simp⟩
  refine hstart.bind fun _ => leads_gateOrStop.next (fun _ => keeps_pure _)
    fun _ => (leads_runCommands hladder _ fun _ hs => hs).next (fun _ => keeps_pure _) fun _ =>
      (leads_judgeState hr hladder).imp (since_imp fun _ _ h => h.fewer fun _ hs => .inr hs)

end

/-! ## Calls and histories -/

theorem keeps_checkerCallFailed (failureFacts : Dict) (cause : String) :
    Keeps drivers (checkerCallFailed r state failureFacts cause) := by
  refine keeps_collected.bind fun evidence => ?_
  dsimp only
  split
  · exact leads_raise _
  · split
    · exact (keeps_collect _).bind fun _ => keeps_park r _
    · exact (keeps_collect _).bind fun _ => (keeps_transition r _ _ _).bind fun _ =>
        keeps_transition r _ _ _

theorem leads_evaluatePhase (hr : drivers r) (hladder : ByLadder r) :
    Leads drivers Told (evaluatePhase r state) fun _ _ _ => True := by
  unfold evaluatePhase
  split
  · refine Triple.tryCatch (leads_evaluateState hr hladder) fun halt => ?_
    split
    · exact keeps_checkerCallFailed _ _
    · exact Triple.throw fun _ hw => hw
  · exact leads_pure fun _ _ _ => trivial

theorem keeps_claimOnce : Keeps drivers (claimOnce r) := by
  refine Triple.get_bind (fun _ hw => hw) fun world _ => ?_
  split
  · exact Triple.pure fun _ hw => hw.2
  · refine Triple.bind (leads_ask.weaken (fun _ hw => hw.2) (fun _ _ hw => hw) fun _ _ hw => hw)
      fun answer => Triple.get_bind (fun _ hw => hw) fun found hfound => ?_
    split
    · exact Triple.throw fun _ hw => hw.2
    · exact Triple.set fun _ _ => hfound

theorem told_createShadow : Leads drivers Told (createShadow r) fun _ => Told := by
  unfold createShadow
  split
  · exact .askPort fun _ _ => told_collect _ fun found => by simp
  · exact leads_pure fun _ _ h => h

theorem told_planPhase (planned : Option PlannedCapabilityStep) :
    Leads drivers Told (planPhase r state planned) (Onward Told) := by
  unfold planPhase
  split
  · exact (told_planState r).next (fun _ => leads_stopped) fun _ => leads_pure fun _ _ h => h
  · exact leads_pure fun _ _ h => h

theorem leads_actPhases (hr : drivers r) (hladder : ByLadder r)
    (planned : Option PlannedCapabilityStep) :
    Leads drivers Told (actPhases r state planned) fun _ _ _ => True := by
  unfold actPhases
  split
  · exact (told_executeState r _).next (fun _ => keeps_pure _)
      fun _ => leads_evaluatePhase hr hladder
  · exact leads_evaluatePhase hr hladder

theorem keeps_runPhases (hr : drivers r) (hladder : ByLadder r) (evidence : Dict) :
    Keeps drivers (runPhases r evidence) := by
  refine Triple.get_bind (fun _ hw => hw) fun world hworld => ?_
  have hstart : Triple (fun w => world = w ∧ Holds drivers (fun _ _ => True) w)
      (note (.started world.cell evidence))
      (fun _ => Holds drivers fun _ log => evidence.get "capability_result" = loggedResult log)
      (fun _ => Holds drivers fun _ _ => True) :=
    (leads_note (.started world.cell evidence) fun _ _ _ => ⟨trivial, rfl⟩).weaken
      (fun _ hw => hw.2) (fun _ _ hw => hw) fun _ _ hw => hw
  have hcollect : Leads drivers
      (fun _ log => evidence.get "capability_result" = loggedResult log)
      (collect fun _ => evidence) fun _ => Told := leads_collect _ fun _ _ h => h
  exact hstart.bind fun _ => hcollect.bind fun _ => told_createShadow.bind fun _ =>
    (told_planPhase _).next (fun _ => keeps_pure _) fun _ => leads_actPhases hr hladder _

theorem keeps_runAsyncImpl (hr : drivers r) (hladder : ByLadder r) (evidence : Dict) :
    Keeps drivers (runAsyncImpl r evidence) := by
  unfold runAsyncImpl
  split
  · exact leads_raise _
  · refine leads_ask.bind fun _ => Leads.bind (Triple.get fun _ hw => hw) fun world => ?_
    split
    · exact (keeps_collect _).bind fun _ => keeps_pure _
    · exact keeps_claimOnce.bind fun _ => keeps_runPhases hr hladder evidence

theorem keeps_runLoop (hr : drivers r) (hladder : ByLadder r) (calls : Nat) (evidence : Dict) :
    Keeps drivers (runLoop r calls evidence) := by
  induction calls generalizing evidence with
  | zero => exact Triple.throw fun _ hw => hw
  | succ calls ih =>
      refine (keeps_runAsyncImpl hr hladder evidence).bind fun result =>
        leads_checkLeaseRenewal.bind fun _ => ?_
      split
      · exact keeps_pure _
      · exact keeps_collected.bind fun evidence => ih evidence

end

/-- The drives of a history are by these drivers. -/
def DrivenBy (drivers : Runner → Prop) (items : List Item) : Prop :=
  ∀ item ∈ items, ∀ r calls evidence answers,
    item = .drives r calls evidence answers → drivers r

/-- A log whose transitions are earned. -/
def Earned (drivers : Runner → Prop) (s : Lived) : Prop := Throughout (ConvergesEarned drivers) s.2

section

variable {drivers : Runner → Prop} {s : Lived}

theorem Earned.after (h : Earned drivers s) {answer : Except StoreError LoopCell}
    {events : LoopCell → List Event}
    (hevents : ∀ cell, Earned drivers (cell, events cell ++ s.2)) :
    Earned drivers (s.after answer events) := by
  unfold Lived.after
  split
  next cell => exact hevents cell
  next => exact h

theorem Earned.reopen (h : Earned drivers s) (how : Reopening) (now : Time) :
    Earned drivers (s.reopen how now) := h.after fun _ => ⟨trivial, h⟩

theorem Earned.pause (h : Earned drivers s) (reason : String) (now : Time) :
    Earned drivers (s.pause reason now) := h.after fun _ => ⟨trivial, h⟩

theorem Earned.apply (h : Earned drivers s) (hladders : ∀ r, drivers r → ByLadder r) (item : Item)
    (hdrives : ∀ r calls evidence answers, item = .drives r calls evidence answers → drivers r) :
    Earned drivers (item.apply s) := by
  cases item with
  | drives r calls evidence answers =>
      have hr := hdrives r calls evidence answers rfl
      have hend := keeps_runLoop hr (hladders r hr) calls evidence
        (startWorld s.1 s.2 answers) ⟨h, trivial⟩
      show Earned drivers (runAsync r s.1 s.2 calls evidence answers)
      unfold runAsync
      split at hend
      next hrun =>
        rw [hrun]
        exact hend.1
      next hrun =>
        rw [hrun]
        exact hend.1
  | reopensForResume now => exact h.reopen _ now
  | reopensResourcePause now => exact h.reopen _ now
  | reopensRetryablePause now => exact h.reopen _ now
  | pausesExternalWait reason now => exact h.pause reason now
  | reconcilesApprovalWait view orphanGraceSeconds now recordedReason =>
      show Earned drivers (s.reconcile view orphanGraceSeconds now recordedReason)
      unfold Lived.reconcile
      split
      · split
        · exact h
        · exact h
        · exact h.reopen _ now
        · exact h.pause _ now
        · exact h.after fun _ => h
      · exact h
  | claims owner leaseSeconds now allowPaused => exact h
  | renews owner leaseSeconds now => exact h
  | releases owner now => exact h
  | failsActiveRun leaseOwner evidence now => exact h.after fun _ => h
  | cancelsExternalWait reason now => exact h.after fun _ => h
  | rejectsExternalGate evidence now => exact h.after fun _ => h
  | completesExternalDelivery success evidence now => exact h.after fun _ => h
  | cancelsLoop checkpointId reason now => exact h.after fun _ => h

/-- A runner with the ladder of a goal without a verification command. -/
def ladderRunner : Runner :=
  { plainRunner with
    spec := { plainRunner.spec with verificationLadder :=
      [⟨.llmChecker, "objective_check", "", "semantic_checker_result", 60, true⟩] }
    hasSemanticChecker := true
    checker := deterministicChecker none }

/-- A drive of it in which nothing is in the way. -/
def ladderDrive : Item := .drives ladderRunner 8 [] (plainAnswers 1 24)

end

end Navi.StateGraph.Earning
