import Navi.Trace.Evaluation

/-!
# What an evaluation has of the last decision

The classifiers are asked in a fixed order, each about all decisions of the trace, so that
a wait that was answered long ago is found before the decision that ended the trace. What
each rule answers is said once, and from it when the evaluation follows the last decision.
-/

namespace Navi.Trace

open Navi.Base

/-! ## What is claimed of an evaluation -/

/-- The last loop decision of a trace. -/
def lastDecision (recorded : List TraceEvent) : Option LoopDecisionSummary :=
  (loopDecisions recorded).getLast?.map Prod.fst

/-- A decision that waits, for this reason. Waits are recorded as blocked, or as a step on
the way there. -/
def LoopDecisionSummary.Waits (reason : String) (summary : LoopDecisionSummary) : Prop :=
  summary.reason = reason ∧ summary.decision ≠ "failed" ∧ summary.decision ≠ "converged"

/-- A decision that failed, or one that is blocked and no wait. -/
def LoopDecisionSummary.Ends (summary : LoopDecisionSummary) : Prop :=
  summary.decision = "failed"
    ∨ summary.decision = "blocked" ∧ summary.reason ≠ "approval_required"
      ∧ summary.reason ≠ "external_pause"

/-- The evaluation reports that a gate is pending. -/
def PendingGate (evaluated : Evaluated) : Prop :=
  evaluated.2.get "pending_external_gate" = some (.bool true)

/-- The evaluation reports that an action is pending. -/
def PendingAction (evaluated : Evaluated) : Prop :=
  evaluated.2.get "pending_external_action" = some (.bool true)

/-- An evaluation follows the last decision: where that ends, it is no success and nothing is
pending; where that has converged, nothing is pending; and what is pending is the wait that
was decided last. -/
structure FollowsLastDecision (last : Option LoopDecisionSummary) (evaluated : Evaluated) :
    Prop where
  ended : ∀ decision ∈ last, decision.Ends →
    evaluated.1.outcome ≠ .success ∧ ¬ PendingGate evaluated ∧ ¬ PendingAction evaluated
  converged : ∀ decision ∈ last, decision.decision = "converged" →
    ¬ PendingGate evaluated ∧ ¬ PendingAction evaluated
  gate : PendingGate evaluated → ∃ decision ∈ last, decision.Waits "approval_required"
  action : PendingAction evaluated → ∃ decision ∈ last, decision.Waits "external_pause"

/-! ## What the events of a trace come to -/

/-- No entity was mutated twice and no decision failed. -/
def Undisputed (events : List TraceEvent) : Prop :=
  duplicateRefs events = [] ∧ ∀ item ∈ loopDecisions events, item.1.decision ≠ "failed"

/-- Some decision waits for an approval, and it is more than a question to the user. -/
def CountsAsGate (events : List TraceEvent) : Prop :=
  Undisputed events
    ∧ (∃ item ∈ loopDecisions events, item.1.reason = "approval_required")
    ∧ (containsApprovalRequest events = true ∨ containsUserAsk events = false)

/-- No decision waits for an approval and some decision is an external pause. -/
def CountsAsAction (events : List TraceEvent) : Prop :=
  Undisputed events
    ∧ (∀ item ∈ loopDecisions events, item.1.reason ≠ "approval_required")
    ∧ ∃ item ∈ loopDecisions events, item.1.reason = "external_pause"

/-- The newest decision that has converged. -/
def newestConverged (events : List TraceEvent) : Option DecisionItem :=
  (loopDecisions events).reverse.find? (·.1.decision = "converged")

/-- Nothing waits, nothing is blocked and no event failed, and the newest decision that has
converged has no issue or, where none has, the planner has answered. -/
def CountsAsCompleted (events : List TraceEvent) : Prop :=
  Undisputed events
    ∧ (∀ item ∈ loopDecisions events, item.1.reason ≠ "approval_required"
      ∧ item.1.reason ≠ "external_pause" ∧ item.1.decision ≠ "blocked")
    ∧ firstFailure events = none
    ∧ ((∃ item ∈ newestConverged events, item.1.hasIssue = false)
      ∨ newestConverged events = none ∧ startedWithoutResult events = false ∧ events ≠ [])

/-! ## What a rule answers -/

/-- The evidence reports what was reported before of pending gates and actions. -/
def Quiet (evidence evidence' : Dict) : Prop :=
  evidence'.get "pending_external_gate" = evidence.get "pending_external_gate"
    ∧ evidence'.get "pending_external_action" = evidence.get "pending_external_action"

/-- What a classifier answers of the newest decision that it answers of. -/
def newest (classifier : DecisionItem → List TraceEvent → Dict → Option Evaluated)
    (events : List TraceEvent) (evidence : Dict) : Option Evaluated :=
  (loopDecisions events).reverse.findSome? fun item => classifier item events evidence

section

variable {item : DecisionItem} {events : List TraceEvent} {evidence : Dict} {answer : Evaluated}
  {classifier : DecisionItem → List TraceEvent → Dict → Option Evaluated}

theorem Quiet.refl (evidence : Dict) : Quiet evidence evidence := ⟨rfl, rfl⟩

theorem Quiet.trans {a b c : Dict} (hab : Quiet a b) (hbc : Quiet b c) : Quiet a c :=
  ⟨hbc.1.trans hab.1, hbc.2.trans hab.2⟩

theorem quiet_put {key : String} {value : Json} (hgate : key ≠ "pending_external_gate")
    (haction : key ≠ "pending_external_action") : Quiet evidence (evidence.put key value) := by
  constructor
  · rw [Dict.get_put, if_neg hgate]
  · rw [Dict.get_put, if_neg haction]

theorem quiet_evaluation {evidence' : Dict} (h : Quiet evidence evidence')
    (outcome : TraceOutcome) (domain : TraceFailureDomain) (rule : String) :
    Quiet evidence (evaluation outcome domain evidence' rule).2 :=
  h.trans (quiet_put (by decide) (by decide))

theorem newest_eq_none_iff :
    newest classifier events evidence = none
      ↔ ∀ item ∈ loopDecisions events, classifier item events evidence = none := by
  unfold newest
  rw [List.findSome?_eq_none_iff]
  exact ⟨fun h item hitem => h item (List.mem_reverse.mpr hitem),
    fun h item hitem => h item (List.mem_reverse.mp hitem)⟩

theorem newest_eq_some (h : newest classifier events evidence = some answer) :
    ∃ item ∈ loopDecisions events, classifier item events evidence = some answer := by
  obtain ⟨item, hitem, hanswer⟩ := List.exists_of_findSome?_eq_some h
  exact ⟨item, List.mem_reverse.mp hitem, hanswer⟩

theorem failedLoopDecisionRule_none_iff :
    failedLoopDecisionRule item events evidence = none ↔ item.1.decision ≠ "failed" := by
  unfold failedLoopDecisionRule
  by_cases hfailed : item.1.decision = "failed"
  · rw [if_neg (not_not_intro hfailed)]
    refine iff_of_false ?_ (not_not_intro hfailed)
    dsimp only
    split <;> exact Option.some_ne_none _
  · exact iff_of_true (if_pos hfailed) hfailed

theorem failedLoopDecisionRule_some
    (h : failedLoopDecisionRule item events evidence = some answer) :
    answer.1.outcome = .failure ∧ Quiet evidence answer.2 := by
  unfold failedLoopDecisionRule at h
  split at h
  · cases h
  · dsimp only at h
    split at h
    · obtain rfl := Option.some.inj h
      exact ⟨rfl, quiet_evaluation (quiet_put (by decide) (by decide)) _ _ _⟩
    · obtain rfl := Option.some.inj h
      exact ⟨rfl, quiet_evaluation (Quiet.refl _) _ _ _⟩

theorem blockedLoopDecisionRule_none_iff :
    blockedLoopDecisionRule item events evidence = none ↔ item.1.decision ≠ "blocked" := by
  unfold blockedLoopDecisionRule
  split
  next h => exact iff_of_false (Option.some_ne_none _) (not_not_intro h)
  next h => exact iff_of_true rfl h

theorem blockedLoopDecisionRule_some
    (h : blockedLoopDecisionRule item events evidence = some answer) :
    answer.1.outcome = .failure ∧ Quiet evidence answer.2 := by
  unfold blockedLoopDecisionRule at h
  split at h
  · obtain rfl := Option.some.inj h
    exact ⟨rfl, quiet_evaluation (Quiet.refl _) _ _ _⟩
  · cases h

theorem waitingApprovalLoopDecisionRule_none_iff :
    waitingApprovalLoopDecisionRule item events evidence = none
      ↔ item.1.reason ≠ "approval_required" := by
  unfold waitingApprovalLoopDecisionRule
  by_cases hwaits : item.1.reason = "approval_required"
  · rw [if_neg (not_not_intro hwaits)]
    refine iff_of_false ?_ (not_not_intro hwaits)
    split <;> exact Option.some_ne_none _
  · exact iff_of_true (if_pos hwaits) hwaits

theorem waitingApprovalLoopDecisionRule_some
    (h : waitingApprovalLoopDecisionRule item events evidence = some answer) :
    (containsApprovalRequest events = true ∨ containsUserAsk events = false)
        ∧ answer.1.outcome = .success ∧ PendingGate answer
        ∧ answer.2.get "pending_external_action" = evidence.get "pending_external_action"
      ∨ ¬ (containsApprovalRequest events = true ∨ containsUserAsk events = false)
        ∧ answer.1.outcome = .degraded ∧ Quiet evidence answer.2 := by
  unfold waitingApprovalLoopDecisionRule at h
  split at h
  · cases h
  · split at h
    next hask =>
      obtain rfl := Option.some.inj h
      refine Or.inr ⟨?_, rfl, quiet_evaluation (quiet_put (by decide) (by decide)) _ _ _⟩
      rintro (hrequest | hnone)
      · exact hask.1 hrequest
      · rw [hask.2] at hnone
        cases hnone
    next hask =>
      obtain rfl := Option.some.inj h
      refine Or.inl ⟨?_, rfl, ?_, ?_⟩
      · by_cases hrequest : containsApprovalRequest events = true
        · exact Or.inl hrequest
        · exact Or.inr (Bool.eq_false_iff.mpr fun hasks => hask ⟨hrequest, hasks⟩)
      · simp [PendingGate, evaluation]
      · simp [evaluation]

theorem externalPauseLoopDecisionRule_none_iff :
    externalPauseLoopDecisionRule item events evidence = none
      ↔ item.1.reason ≠ "external_pause" := by
  unfold externalPauseLoopDecisionRule
  split
  next h => exact iff_of_true rfl h
  next h => exact iff_of_false (Option.some_ne_none _) h

theorem externalPauseLoopDecisionRule_some
    (h : externalPauseLoopDecisionRule item events evidence = some answer) :
    answer.1.outcome = .success ∧ PendingAction answer
      ∧ answer.2.get "pending_external_gate" = evidence.get "pending_external_gate" := by
  unfold externalPauseLoopDecisionRule at h
  split at h
  · cases h
  · obtain rfl := Option.some.inj h
    refine ⟨rfl, ?_, ?_⟩
    · simp [PendingAction, evaluation]
    · simp [evaluation]

theorem convergedLoopDecisionRule_some
    (h : convergedLoopDecisionRule item events evidence = some answer) :
    item.1.decision = "converged" ∧ Quiet evidence answer.2
      ∧ (answer.1.outcome = .success ↔ item.1.hasIssue = false)
      ∧ (answer.1.outcome = .success → firstFailure events = none) := by
  unfold convergedLoopDecisionRule at h
  split at h
  · cases h
  next hconverged =>
    split at h
    · cases h
    next hhidden =>
      split at h
      next hissue =>
        obtain rfl := Option.some.inj h
        refine ⟨not_not.mp hconverged, quiet_evaluation (Quiet.refl _) _ _ _,
          iff_of_true rfl hissue, fun _ => ?_⟩
        exact Option.not_isSome_iff_eq_none.mp fun hsome => hhidden ⟨hsome, hissue⟩
      next hissue =>
        obtain rfl := Option.some.inj h
        refine ⟨not_not.mp hconverged, quiet_evaluation (Quiet.refl _) _ _ _,
          iff_of_false ?_ hissue, fun hsuccess => ?_⟩
        · intro hsuccess
          cases hsuccess
        · cases hsuccess

theorem convergedLoopDecisionRule_isSome (hnone : firstFailure events = none) :
    (convergedLoopDecisionRule item events evidence).isSome
      = decide (item.1.decision = "converged") := by
  unfold convergedLoopDecisionRule
  by_cases hconverged : item.1.decision = "converged"
  · rw [if_neg (not_not_intro hconverged), hnone, if_neg fun h => absurd h.1 Bool.false_ne_true]
    rw [decide_eq_true hconverged]
    split <;> rfl
  · rw [if_pos hconverged, decide_eq_false hconverged]
    rfl

theorem findSome?_eq_find?_bind {α β : Type} {f : α → Option β} {p : α → Bool}
    (h : ∀ a, (f a).isSome = p a) (l : List α) : l.findSome? f = (l.find? p).bind f := by
  induction l with
  | nil => rfl
  | cons a rest ih =>
      rw [List.findSome?_cons, List.find?_cons, ← h a]
      cases hanswer : f a with
      | none => exact ih
      | some b => exact hanswer.symm

theorem newest_converged (hnone : firstFailure events = none) :
    newest convergedLoopDecisionRule events evidence
      = (newestConverged events).bind fun item =>
          convergedLoopDecisionRule item events evidence :=
  findSome?_eq_find?_bind (fun _ => convergedLoopDecisionRule_isSome hnone) _

/-! ## The rules after the decisions -/

/-- The rules that are asked where no loop decision answers. -/
def laterRules : List (List TraceEvent → Dict → Option Evaluated) :=
  [plannerFailureRule, safeguardFailureRule, capabilityFailureRule, checkerFailureRule,
    runtimeFailureRule, plannerNoResponseRule, missingTraceRule]

/-- An answer that is no success and reports no wait. -/
def Unsuccessful (evidence : Dict) (answer : Evaluated) : Prop :=
  answer.1.outcome ≠ .success ∧ Quiet evidence answer.2

theorem unsuccessful_evaluation {evidence' : Dict} (h : Quiet evidence evidence')
    {outcome : TraceOutcome} (houtcome : outcome ≠ .success) (domain : TraceFailureDomain)
    (rule : String) : Unsuccessful evidence (evaluation outcome domain evidence' rule) :=
  ⟨houtcome, quiet_evaluation h _ _ _⟩

theorem quiet_firstFailure (failure : TraceEvent) :
    Quiet evidence (firstFailureEvidence failure evidence) :=
  (quiet_put (by decide) (by decide)).trans (quiet_put (by decide) (by decide))

theorem recoveredOr_unsuccessful {failure : TraceEvent} {domain : TraceFailureDomain}
    {evidence' : Dict} {recovered failed : String} (h : Quiet evidence evidence') :
    Unsuccessful evidence (recoveredOr events failure domain evidence' recovered failed) := by
  unfold recoveredOr
  split
  next recovery _ =>
    refine unsuccessful_evaluation (h.trans ?_) (by decide) _ _
    exact (quiet_put (by decide) (by decide)).trans (quiet_put (by decide) (by decide))
  next => exact unsuccessful_evaluation h (by decide) _ _

theorem plannerFailureRule_some (h : plannerFailureRule events evidence = some answer) :
    Unsuccessful evidence answer := by
  unfold plannerFailureRule at h
  split at h
  · cases h
  next failure _ =>
    split at h
    · obtain rfl := Option.some.inj h
      exact recoveredOr_unsuccessful (quiet_firstFailure failure)
    · cases h

theorem firstFailureRule_some {phase rule : String} {domain : TraceFailureDomain}
    {predicate : TraceEvent → Bool}
    (h : firstFailureRule phase domain rule predicate events evidence = some answer) :
    Unsuccessful evidence answer := by
  unfold firstFailureRule at h
  split at h
  · cases h
  next failure _ =>
    split at h
    · obtain rfl := Option.some.inj h
      exact unsuccessful_evaluation (quiet_firstFailure failure) (by decide) _ _
    · cases h

theorem capabilityFailureRule_some (h : capabilityFailureRule events evidence = some answer) :
    Unsuccessful evidence answer := by
  unfold capabilityFailureRule at h
  split at h
  · cases h
  next failure _ =>
    split at h
    · split at h
      · obtain rfl := Option.some.inj h
        exact recoveredOr_unsuccessful (quiet_firstFailure failure)
      · obtain rfl := Option.some.inj h
        exact recoveredOr_unsuccessful (quiet_firstFailure failure)
    · cases h

theorem quiet_recoveryPlan {evidence' : Dict} (h : Quiet evidence evidence')
    (plan : Option TraceEvent) : Quiet evidence (recoveryPlanEvidence plan evidence') := by
  unfold recoveryPlanEvidence
  have hrecorded : Quiet evidence (evidence'.put "recovery_plan_recorded" (.bool plan.isSome)) :=
    h.trans (quiet_put (by decide) (by decide))
  cases plan with
  | none => exact hrecorded
  | some event =>
      dsimp only
      split
      · exact (hrecorded.trans (quiet_put (by decide) (by decide))).trans
          (quiet_put (by decide) (by decide))
      · exact hrecorded.trans (quiet_put (by decide) (by decide))

theorem checkerFailureRule_some (h : checkerFailureRule events evidence = some answer) :
    Unsuccessful evidence answer := by
  unfold checkerFailureRule at h
  split at h
  · cases h
  next failure _ =>
    split at h
    · obtain rfl := Option.some.inj h
      exact unsuccessful_evaluation (quiet_recoveryPlan (quiet_firstFailure failure) _)
        (by decide) _ _
    · cases h

theorem runtimeFailureRule_some (h : runtimeFailureRule events evidence = some answer) :
    Unsuccessful evidence answer := by
  obtain ⟨failure, -, rfl⟩ := Option.map_eq_some_iff.mp h
  exact unsuccessful_evaluation (quiet_firstFailure failure) (by decide) _ _

theorem plannerNoResponseRule_some (h : plannerNoResponseRule events evidence = some answer) :
    Unsuccessful evidence answer := by
  unfold plannerNoResponseRule at h
  split at h
  · obtain rfl := Option.some.inj h
    exact unsuccessful_evaluation (quiet_put (by decide) (by decide)) (by decide) _ _
  · cases h

theorem missingTraceRule_some (h : missingTraceRule events evidence = some answer) :
    Unsuccessful evidence answer := by
  unfold missingTraceRule at h
  split at h
  · obtain rfl := Option.some.inj h
    exact unsuccessful_evaluation (Quiet.refl _) (by decide) _ _
  · cases h

theorem laterRules_some
    (h : (laterRules.findSome? fun rule => rule events evidence) = some answer) :
    Unsuccessful evidence answer := by
  obtain ⟨rule, hrule, hanswer⟩ := List.exists_of_findSome?_eq_some h
  simp only [laterRules, List.mem_cons, List.not_mem_nil, or_false] at hrule
  rcases hrule with rfl | rfl | rfl | rfl | rfl | rfl | rfl
  · exact plannerFailureRule_some hanswer
  · exact firstFailureRule_some hanswer
  · exact capabilityFailureRule_some hanswer
  · exact checkerFailureRule_some hanswer
  · exact runtimeFailureRule_some hanswer
  · exact plannerNoResponseRule_some hanswer
  · exact missingTraceRule_some hanswer

/-- They answer where an event failed, where the planner was called and has not answered, and
of a trace without events. -/
theorem laterRules_none_iff :
    (laterRules.findSome? fun rule => rule events evidence) = none
      ↔ firstFailure events = none ∧ startedWithoutResult events = false ∧ events ≠ [] := by
  rw [List.findSome?_eq_none_iff]
  constructor
  · intro h
    have hruntime := h runtimeFailureRule (by simp [laterRules])
    have hresponse := h plannerNoResponseRule (by simp [laterRules])
    have hmissing := h missingTraceRule (by simp [laterRules])
    refine ⟨Option.map_eq_none_iff.mp hruntime, ?_, ?_⟩
    · unfold plannerNoResponseRule at hresponse
      split at hresponse
      · cases hresponse
      next hanswered => exact Bool.eq_false_iff.mpr hanswered
    · unfold missingTraceRule at hmissing
      split at hmissing
      · cases hmissing
      next hevents => exact hevents
  · rintro ⟨hfailure, hresponse, hevents⟩ rule hrule
    simp only [laterRules, List.mem_cons, List.not_mem_nil, or_false] at hrule
    rcases hrule with rfl | rfl | rfl | rfl | rfl | rfl | rfl
    · simp only [plannerFailureRule, hfailure]
    · simp only [safeguardFailureRule, firstFailureRule, hfailure]
    · simp only [capabilityFailureRule, hfailure]
    · simp only [checkerFailureRule, hfailure]
    · simp only [runtimeFailureRule, hfailure, Option.map_none]
    · exact if_neg (by rw [hresponse]; exact Bool.false_ne_true)
    · exact if_neg hevents

/-! ## What the rules come to -/

def Silent (evidence : Dict) : Prop :=
  evidence.get "pending_external_gate" = none ∧ evidence.get "pending_external_action" = none

theorem silent_base (events : List TraceEvent) : Silent (baseTraceEvidence events) := by
  unfold baseTraceEvidence
  constructor <;> dsimp only <;> split <;> split <;> rfl

/-- An evaluation is what the events come to. -/
structure ComesTo (events : List TraceEvent) (evaluated : Evaluated) : Prop where
  gate : PendingGate evaluated ↔ CountsAsGate events
  action : PendingAction evaluated ↔ CountsAsAction events
  success : evaluated.1.outcome = .success
    ↔ CountsAsGate events ∨ CountsAsAction events ∨ CountsAsCompleted events

theorem Quiet.not_gate (h : Quiet evidence answer.2) (hsilent : Silent evidence) :
    ¬ PendingGate answer := by
  unfold PendingGate
  rw [h.1, hsilent.1]
  exact (Option.some_ne_none _).symm

theorem Quiet.not_action (h : Quiet evidence answer.2) (hsilent : Silent evidence) :
    ¬ PendingAction answer := by
  unfold PendingAction
  rw [h.2, hsilent.2]
  exact (Option.some_ne_none _).symm

theorem ComesTo.of_quiet (h : Quiet evidence answer.2) (hsilent : Silent evidence)
    (hgate : ¬ CountsAsGate events) (haction : ¬ CountsAsAction events)
    (hsuccess : answer.1.outcome = .success ↔ CountsAsCompleted events) :
    ComesTo events answer := by
  refine ⟨iff_of_false (h.not_gate hsilent) hgate, iff_of_false (h.not_action hsilent) haction, ?_⟩
  rw [hsuccess]
  exact ⟨fun hcompleted => Or.inr (Or.inr hcompleted),
    fun hany => (hany.resolve_left hgate).resolve_left haction⟩

theorem evaluateTraceWithRules_eq (events : List TraceEvent) (evidence : Dict) :
    evaluateTraceWithRules events evidence
      = ((((((duplicateEntityMutationRule events evidence).or
          (newest failedLoopDecisionRule events evidence)).or
          (newest waitingApprovalLoopDecisionRule events evidence)).or
          (newest externalPauseLoopDecisionRule events evidence)).or
          (newest blockedLoopDecisionRule events evidence)).or
          ((newest convergedLoopDecisionRule events evidence).or
            (laterRules.findSome? fun rule => rule events evidence))).getD
        (evaluation .success .none evidence "no_failed_or_degraded_rule") := by
  have hdecisions : loopDecisionRule events evidence
      = ((((newest failedLoopDecisionRule events evidence).or
          (newest waitingApprovalLoopDecisionRule events evidence)).or
          (newest externalPauseLoopDecisionRule events evidence)).or
          (newest blockedLoopDecisionRule events evidence)).or
          (newest convergedLoopDecisionRule events evidence) := by
    show (loopDecisionEvaluationRules.findSome? fun classifier =>
      newest classifier events evidence) = _
    simp only [loopDecisionEvaluationRules, List.findSome?_cons, List.findSome?_nil]
    cases newest failedLoopDecisionRule events evidence <;>
      cases newest waitingApprovalLoopDecisionRule events evidence <;>
      cases newest externalPauseLoopDecisionRule events evidence <;>
      cases newest blockedLoopDecisionRule events evidence <;>
      cases newest convergedLoopDecisionRule events evidence <;> rfl
  have hrules : traceEvaluationRules
      = duplicateEntityMutationRule :: loopDecisionRule :: laterRules := rfl
  unfold evaluateTraceWithRules
  rw [hrules, List.findSome?_cons, List.findSome?_cons, hdecisions]
  cases duplicateEntityMutationRule events evidence with
  | some answer => rfl
  | none =>
      simp only [Option.none_or, Option.or_assoc]
      cases newest failedLoopDecisionRule events evidence <;>
        cases newest waitingApprovalLoopDecisionRule events evidence <;>
        cases newest externalPauseLoopDecisionRule events evidence <;>
        cases newest blockedLoopDecisionRule events evidence <;>
        cases newest convergedLoopDecisionRule events evidence <;> rfl

/-! ### One answer after another -/

theorem not_none_of_newest {none_iff : DecisionItem → Prop}
    (hiff : ∀ item, classifier item events evidence = none ↔ none_iff item)
    (h : newest classifier events evidence = some answer) :
    ∃ item ∈ loopDecisions events,
      classifier item events evidence = some answer ∧ ¬ none_iff item := by
  obtain ⟨item, hitem, hanswer⟩ := newest_eq_some h
  refine ⟨item, hitem, hanswer, fun hnone => ?_⟩
  rw [(hiff item).mpr hnone] at hanswer
  cases hanswer

theorem comesTo_of_duplicate (hsilent : Silent evidence)
    (h : duplicateEntityMutationRule events evidence = some answer) : ComesTo events answer := by
  unfold duplicateEntityMutationRule at h
  split at h
  · cases h
  next hrefs =>
    obtain rfl := Option.some.inj h
    have hdisputed : ¬ Undisputed events := fun h => hrefs h.1
    exact ComesTo.of_quiet (quiet_evaluation (quiet_put (by decide) (by decide)) _ _ _) hsilent
      (fun h => hdisputed h.1) (fun h => hdisputed h.1)
      (iff_of_false (by simp [evaluation]) fun h => hdisputed h.1)

theorem comesTo_of_failed (hsilent : Silent evidence)
    (h : newest failedLoopDecisionRule events evidence = some answer) :
    ComesTo events answer := by
  obtain ⟨item, hitem, hanswer, hfailed⟩ :=
    not_none_of_newest (fun _ => failedLoopDecisionRule_none_iff) h
  obtain ⟨houtcome, hquiet⟩ := failedLoopDecisionRule_some hanswer
  have hdisputed : ¬ Undisputed events := fun h => hfailed (h.2 item hitem)
  refine ComesTo.of_quiet hquiet hsilent (fun h => hdisputed h.1) (fun h => hdisputed h.1)
    (iff_of_false ?_ fun h => hdisputed h.1)
  rw [houtcome]
  decide

theorem comesTo_of_waiting (hsilent : Silent evidence) (hundisputed : Undisputed events)
    (h : newest waitingApprovalLoopDecisionRule events evidence = some answer) :
    ComesTo events answer := by
  obtain ⟨item, hitem, hanswer, hwaits⟩ :=
    not_none_of_newest (fun _ => waitingApprovalLoopDecisionRule_none_iff) h
  have hwaits : item.1.reason = "approval_required" := not_not.mp hwaits
  have haction : ¬ CountsAsAction events := fun h => h.2.1 item hitem hwaits
  have hcompleted : ¬ CountsAsCompleted events := fun h => (h.2.1 item hitem).1 hwaits
  rcases waitingApprovalLoopDecisionRule_some hanswer with
    ⟨hgate, houtcome, hpending, hother⟩ | ⟨hask, houtcome, hquiet⟩
  · have hcounts : CountsAsGate events := ⟨hundisputed, ⟨item, hitem, hwaits⟩, hgate⟩
    refine ⟨iff_of_true hpending hcounts, iff_of_false ?_ haction,
      iff_of_true houtcome (Or.inl hcounts)⟩
    unfold PendingAction
    rw [hother, hsilent.2]
    exact (Option.some_ne_none _).symm
  · refine ComesTo.of_quiet hquiet hsilent (fun h => hask h.2.2) haction
      (iff_of_false ?_ hcompleted)
    rw [houtcome]
    decide

theorem comesTo_of_paused (hsilent : Silent evidence) (hundisputed : Undisputed events)
    (hwaiting : ∀ item ∈ loopDecisions events, item.1.reason ≠ "approval_required")
    (h : newest externalPauseLoopDecisionRule events evidence = some answer) :
    ComesTo events answer := by
  obtain ⟨item, hitem, hanswer, hpauses⟩ :=
    not_none_of_newest (fun _ => externalPauseLoopDecisionRule_none_iff) h
  have hpauses : item.1.reason = "external_pause" := not_not.mp hpauses
  obtain ⟨houtcome, hpending, hother⟩ := externalPauseLoopDecisionRule_some hanswer
  have hgate : ¬ CountsAsGate events := by
    rintro ⟨-, ⟨waits, hmem, hreason⟩, -⟩
    exact hwaiting waits hmem hreason
  have hcounts : CountsAsAction events := ⟨hundisputed, hwaiting, item, hitem, hpauses⟩
  refine ⟨iff_of_false ?_ hgate, iff_of_true hpending hcounts,
    iff_of_true houtcome (Or.inr (Or.inl hcounts))⟩
  unfold PendingGate
  rw [hother, hsilent.1]
  exact (Option.some_ne_none _).symm

theorem comesTo_of_blocked (hsilent : Silent evidence) (hgate : ¬ CountsAsGate events)
    (haction : ¬ CountsAsAction events)
    (h : newest blockedLoopDecisionRule events evidence = some answer) :
    ComesTo events answer := by
  obtain ⟨item, hitem, hanswer, hblocked⟩ :=
    not_none_of_newest (fun _ => blockedLoopDecisionRule_none_iff) h
  obtain ⟨houtcome, hquiet⟩ := blockedLoopDecisionRule_some hanswer
  refine ComesTo.of_quiet hquiet hsilent hgate haction
    (iff_of_false ?_ fun h => hblocked (h.2.1 item hitem).2.2)
  rw [houtcome]
  decide

/-- Nothing failed, waits or is blocked: what has converged decides, and after it the rules
that are left. -/
theorem comesTo_of_rest (hsilent : Silent evidence) (hundisputed : Undisputed events)
    (hrest : ∀ item ∈ loopDecisions events, item.1.reason ≠ "approval_required"
      ∧ item.1.reason ≠ "external_pause" ∧ item.1.decision ≠ "blocked") :
    ComesTo events (((newest convergedLoopDecisionRule events evidence).or
      (laterRules.findSome? fun rule => rule events evidence)).getD
        (evaluation .success .none evidence "no_failed_or_degraded_rule")) := by
  have hgate : ¬ CountsAsGate events := by
    rintro ⟨-, ⟨item, hitem, hreason⟩, -⟩
    exact (hrest item hitem).1 hreason
  have haction : ¬ CountsAsAction events := by
    rintro ⟨-, -, item, hitem, hreason⟩
    exact (hrest item hitem).2.1 hreason
  cases hconverged : newest convergedLoopDecisionRule events evidence with
  | some answer =>
      obtain ⟨item, -, hanswer⟩ := newest_eq_some hconverged
      obtain ⟨-, hquiet, -, hfailure⟩ := convergedLoopDecisionRule_some hanswer
      refine ComesTo.of_quiet hquiet hsilent hgate haction ⟨fun hsuccess => ?_, ?_⟩
      · have hnone := hfailure hsuccess
        rw [newest_converged hnone] at hconverged
        obtain ⟨last, hlast, hfound⟩ := Option.bind_eq_some_iff.mp hconverged
        have hissue := (convergedLoopDecisionRule_some hfound).2.2.1.mp hsuccess
        exact ⟨hundisputed, hrest, hnone, Or.inl ⟨last, hlast, hissue⟩⟩
      · rintro ⟨-, -, hnone, hlast | ⟨hlast, -⟩⟩
        · obtain ⟨last, hlast, hissue⟩ := hlast
          rw [newest_converged hnone, hlast] at hconverged
          exact (convergedLoopDecisionRule_some hconverged).2.2.1.mpr hissue
        · rw [newest_converged hnone, hlast] at hconverged
          cases hconverged
  | none =>
      rw [Option.none_or]
      have hnever : firstFailure events = none → newestConverged events = none := by
        intro hnone
        rw [newest_converged hnone] at hconverged
        cases hlast : newestConverged events with
        | none => rfl
        | some last =>
            have hdecided : last.1.decision = "converged" := by
              simpa using List.find?_some hlast
            have hsome : (convergedLoopDecisionRule last events evidence).isSome = _ :=
              convergedLoopDecisionRule_isSome hnone
            rw [hlast, Option.bind_some] at hconverged
            rw [hconverged, decide_eq_true hdecided] at hsome
            cases hsome
      cases hlater : laterRules.findSome? fun rule => rule events evidence with
      | some answer =>
          obtain ⟨houtcome, hquiet⟩ := laterRules_some hlater
          refine ComesTo.of_quiet hquiet hsilent hgate haction (iff_of_false houtcome ?_)
          rintro ⟨-, -, hnone, ⟨last, hlast, -⟩ | ⟨-, hresponse, hevents⟩⟩
          · rw [hnever hnone] at hlast
            cases hlast
          · rw [laterRules_none_iff.mpr ⟨hnone, hresponse, hevents⟩] at hlater
            cases hlater
      | none =>
          obtain ⟨hnone, hresponse, hevents⟩ := laterRules_none_iff.mp hlater
          refine ComesTo.of_quiet (quiet_evaluation (Quiet.refl _) _ _ _) hsilent hgate haction
            (iff_of_true rfl ?_)
          exact ⟨hundisputed, hrest, hnone, Or.inr ⟨hnever hnone, hresponse, hevents⟩⟩

/-- **What an evaluation comes to.** It reports a pending gate, a pending action or a success
exactly where the events count as that. -/
theorem evaluateTraceWithRules_comesTo (events : List TraceEvent) {evidence : Dict}
    (hsilent : Silent evidence) : ComesTo events (evaluateTraceWithRules events evidence) := by
  rw [evaluateTraceWithRules_eq]
  cases hduplicate : duplicateEntityMutationRule events evidence with
  | some answer => exact comesTo_of_duplicate hsilent hduplicate
  | none =>
  cases hfailed : newest failedLoopDecisionRule events evidence with
  | some answer => exact comesTo_of_failed hsilent hfailed
  | none =>
  have hundisputed : Undisputed events := by
    refine ⟨?_, fun item hitem =>
      failedLoopDecisionRule_none_iff.mp (newest_eq_none_iff.mp hfailed item hitem)⟩
    unfold duplicateEntityMutationRule at hduplicate
    split at hduplicate
    next h => exact h
    next => cases hduplicate
  cases hwaiting : newest waitingApprovalLoopDecisionRule events evidence with
  | some answer => exact comesTo_of_waiting hsilent hundisputed hwaiting
  | none =>
  have hwaits : ∀ item ∈ loopDecisions events, item.1.reason ≠ "approval_required" :=
    fun item hitem =>
      waitingApprovalLoopDecisionRule_none_iff.mp (newest_eq_none_iff.mp hwaiting item hitem)
  cases hpaused : newest externalPauseLoopDecisionRule events evidence with
  | some answer => exact comesTo_of_paused hsilent hundisputed hwaits hpaused
  | none =>
  have hpauses : ∀ item ∈ loopDecisions events, item.1.reason ≠ "external_pause" :=
    fun item hitem =>
      externalPauseLoopDecisionRule_none_iff.mp (newest_eq_none_iff.mp hpaused item hitem)
  cases hblocked : newest blockedLoopDecisionRule events evidence with
  | some answer =>
      refine comesTo_of_blocked hsilent ?_ ?_ hblocked
      · rintro ⟨-, ⟨item, hitem, hreason⟩, -⟩
        exact hwaits item hitem hreason
      · rintro ⟨-, -, item, hitem, hreason⟩
        exact hpauses item hitem hreason
  | none =>
  have hblocks : ∀ item ∈ loopDecisions events, item.1.decision ≠ "blocked" :=
    fun item hitem =>
      blockedLoopDecisionRule_none_iff.mp (newest_eq_none_iff.mp hblocked item hitem)
  exact comesTo_of_rest hsilent hundisputed fun item hitem =>
    ⟨hwaits item hitem, hpauses item hitem, hblocks item hitem⟩

end

/-! ## Following the last decision -/

/-- What is pending by the events that are evaluated is the last decision of all, and they do
not complete before a last decision that ends the trace. -/
structure LastDecisionStands (last : Option LoopDecisionSummary) (events : List TraceEvent) :
    Prop where
  gate : CountsAsGate events → ∃ decision ∈ last, decision.Waits "approval_required"
  action : CountsAsAction events → ∃ decision ∈ last, decision.Waits "external_pause"
  completed : CountsAsCompleted events → ∀ decision ∈ last, ¬ decision.Ends

theorem LoopDecisionSummary.Waits.not_ends {summary : LoopDecisionSummary} {reason : String}
    (h : summary.Waits reason) (hreason : reason ∈ ["approval_required", "external_pause"]) :
    ¬ summary.Ends := by
  obtain ⟨rfl, hfailed, -⟩ := h
  rintro (hends | ⟨-, happroval, hpause⟩)
  · exact hfailed hends
  · simp only [List.mem_cons, List.not_mem_nil, or_false] at hreason
    exact hreason.elim happroval hpause

/-- **When an evaluation follows the last decision.** The evaluation of a trace follows its
last loop decision if and only if, of the events that are evaluated, a wait that counts is
the last decision and a trace that counts as completed has no other end. -/
theorem follows_last_decision_iff (recorded : List TraceEvent) :
    FollowsLastDecision (lastDecision recorded) (evaluateTrace recorded)
      ↔ LastDecisionStands (lastDecision recorded) (recorded.take eventLimit) := by
  have hcomes : ComesTo (recorded.take eventLimit) (evaluateTrace recorded) :=
    evaluateTraceWithRules_comesTo _ (silent_base _)
  constructor
  · intro h
    refine ⟨fun hgate => h.gate (hcomes.gate.mpr hgate),
      fun haction => h.action (hcomes.action.mpr haction),
      fun hcompleted decision hlast hends => ?_⟩
    exact (h.ended decision hlast hends).1 (hcomes.success.mpr (Or.inr (Or.inr hcompleted)))
  · intro h
    -- a wait that is reported is the last decision, which does not end or converge
    have hwaiting : ∀ decision ∈ lastDecision recorded,
        (PendingGate (evaluateTrace recorded) → decision.Waits "approval_required")
          ∧ (PendingAction (evaluateTrace recorded) → decision.Waits "external_pause") := by
      intro decision hlast
      constructor
      · intro hpending
        obtain ⟨found, hfound, hwaits⟩ := h.gate (hcomes.gate.mp hpending)
        obtain rfl := Option.mem_unique hlast hfound
        exact hwaits
      · intro hpending
        obtain ⟨found, hfound, hwaits⟩ := h.action (hcomes.action.mp hpending)
        obtain rfl := Option.mem_unique hlast hfound
        exact hwaits
    refine ⟨fun decision hlast hends => ?_, fun decision hlast hconverged => ?_,
      fun hpending => h.gate (hcomes.gate.mp hpending),
      fun hpending => h.action (hcomes.action.mp hpending)⟩
    · obtain ⟨hgate, haction⟩ := hwaiting decision hlast
      have hnoGate : ¬ PendingGate (evaluateTrace recorded) := fun hpending =>
        (hgate hpending).not_ends (by decide) hends
      have hnoAction : ¬ PendingAction (evaluateTrace recorded) := fun hpending =>
        (haction hpending).not_ends (by decide) hends
      refine ⟨fun hsuccess => ?_, hnoGate, hnoAction⟩
      rcases hcomes.success.mp hsuccess with hcounts | hcounts | hcounts
      · exact hnoGate (hcomes.gate.mpr hcounts)
      · exact hnoAction (hcomes.action.mpr hcounts)
      · exact h.completed hcounts decision hlast hends
    · obtain ⟨hgate, haction⟩ := hwaiting decision hlast
      exact ⟨fun hpending => (hgate hpending).2.2 hconverged,
        fun hpending => (haction hpending).2.2 hconverged⟩

/-- A loop waits for an approval, and after it the checker blocks the loop. -/
def answeredWait : List TraceEvent :=
  [⟨"1", "loop", "loop.decision", "shell.run", "runtime", false,
      [("decision", .str "blocked"), ("reason", .str "approval_required"),
        ("failure_domain", .str "safeguard_policy")], "blocked: approval_required"⟩,
    ⟨"2", "loop", "loop.decision", "", "runtime", false,
      [("decision", .str "blocked"), ("reason", .str "completion_checker_blocked"),
        ("failure_domain", .str "checker_blocked")], "blocked: completion_checker_blocked"⟩]

/-- The trace is reported as waiting for the approval. -/
theorem answered_wait_pending :
    PendingGate (evaluateTrace answeredWait)
      ∧ (evaluateTrace answeredWait).1.outcome = .success
      ∧ ¬ FollowsLastDecision (lastDecision answeredWait) (evaluateTrace answeredWait) := by
  have hsuccess : (evaluateTrace answeredWait).1.outcome = .success := by decide +kernel
  refine ⟨?_, hsuccess, fun hfollows => ?_⟩
  · unfold PendingGate
    decide +kernel
  · obtain ⟨decision, hlast, hdecision, hreason⟩ : ∃ decision, lastDecision answeredWait
        = some decision ∧ decision.decision = "blocked"
          ∧ decision.reason = "completion_checker_blocked" := by
      refine ⟨_, rfl, ?_, ?_⟩
      · decide +kernel
      · decide +kernel
    refine (hfollows.ended decision hlast (Or.inr ⟨hdecision, ?_, ?_⟩)).1 hsuccess
    · rw [hreason]
      decide
    · rw [hreason]
      decide

end Navi.Trace
