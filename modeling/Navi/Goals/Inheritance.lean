import Navi.Base.Index
import Navi.Base.System
import Navi.Goals.Occurrences
import Navi.Goals.Updating

/-!
# What an occurrence has of its template

Goals are opened and updated, and occurrences of schedules are opened from the template:
the specification that the schedule's loop run names. What the template says is flattened
to a request and built up again.
-/

namespace Navi.Goals

open Navi.Base Navi.Lifecycle

/-! ## Opening an occurrence -/

/-- The specification that `open_scheduled_occurrence` reads. -/
def templateOf (s : PolicyStores) (goal : GoalRow) : Except Raised LoopPolicy :=
  match latestLoopRun s goal.id with
  | none => .error (.valueError "scheduled goal has no loop specification")
  | some loop => specOf s loop.loopSpecId

/-- The `OpenGoalRequest` of `open_scheduled_occurrence`. -/
def occurrencePolicy (goals : GoalRows) (goal : GoalRow) (template : LoopPolicy) (now : Time) :
    PolicyRequest where
  toOpenRequest := occurrenceRequest goals goal (strip template.verificationCommand ≠ "") now
  scope := template.scope
  constraints := template.constraints
  acceptanceCriteria := template.acceptanceCriteria
  permissionCeiling := some template.permissionCeiling
  allowedCapabilities := template.allowedCapabilities
  verificationCommand := template.verificationCommand
  tokenBudget := template.budget.tokenBudget
  callBudget := template.budget.callBudget
  costBudget := template.budget.costBudget
  qpsLimit := template.budget.qpsLimit
  maxConcurrent := template.budget.maxConcurrent
  allowDuplicateSchedule := false

/-- `open_scheduled_occurrence` of the goal as its caller has read it. -/
def openScheduledOccurrence (cron : Cron) (s : PolicyStores) (goal : GoalRow) (draws : Draws) :
    Except Raised Opened × PolicyStores :=
  if goal.cronSchedule = "" then
    (.error (.valueError "scheduled occurrence requires a cron goal"), s)
  else match templateOf s goal with
    | .error raised => (.error raised, s)
    | .ok template => openGoal cron s (occurrencePolicy s.goals goal template draws.now) draws

/-- The specification has what the template says. -/
structure Inherits (template spec : LoopPolicy) : Prop where
  objective : spec.objective = template.objective
  scope : spec.scope = template.scope
  constraints : spec.constraints = template.constraints
  acceptanceCriteria : spec.acceptanceCriteria = template.acceptanceCriteria
  permissionCeiling : spec.permissionCeiling = template.permissionCeiling
  allowedCapabilities : spec.allowedCapabilities = template.allowedCapabilities
  verificationCommand : spec.verificationCommand = template.verificationCommand
  timeout : template.verificationCommand ≠ "" → spec.timeout = template.timeout
  budget : spec.budget = template.budget

/-- The goal that is handed over has the template's objective, and the template's command,
if it has one, may run for as long as a request allows that says nothing about it. -/
def HandsOn (template : LoopPolicy) (goal : GoalRow) : Prop :=
  goal.objective = template.objective
    ∧ (template.verificationCommand ≠ "" → template.timeout = 120)

instance (template : LoopPolicy) (goal : GoalRow) : Decidable (HandsOn template goal) :=
  inferInstanceAs (Decidable (_ ∧ _))

/-! ## The steps of a run -/

/-- Goals are opened and updated, occurrences are opened of goals read at any time, goals,
Runs and loop runs are written by anyone, and specifications are deleted. -/
inductive PolicyLabel where
  | openGoal (request : PolicyRequest) (draws : Draws)
  | updateGoal (request : UpdateRequest) (draws : UpdateDraws)
  | openOccurrence (goal : GoalRow) (draws : Draws)
  | write (goals : GoalRows) (runs : Table String Run (·.id))
      (loopRuns : Table String LoopRow (·.runId))
  | deleteSpecs (guard : LoopPolicy → Bool)

def policySystem (cron : Cron) : System PolicyStores PolicyLabel where
  step s
    | .openGoal request draws => some (openGoal cron s request draws).2
    | .updateGoal request draws => some (updateGoal cron s request draws).2
    | .openOccurrence goal draws => some (openScheduledOccurrence cron s goal draws).2
    | .write goals runs loopRuns =>
        some { s with goals := goals, runs := runs, loopRuns := loopRuns }
    | .deleteSpecs guard => some { s with specs := s.specs.delete guard }

def PolicyStores.start : PolicyStores := ⟨.empty, .empty, .empty, .empty⟩

/-- An occurrence that is opened has what its template says. -/
def OccurrenceInherits (cron : Cron) (s : PolicyStores) : PolicyLabel → Prop
  | .openOccurrence goal draws => ∀ template opened s', templateOf s goal = .ok template →
      openScheduledOccurrence cron s goal draws = (.ok opened, s') →
        ∃ spec, s'.specs.get? opened.specId = some spec ∧ Inherits template spec
  | _ => True

/-- An occurrence that is opened is opened of a goal and a template that can be handed on. -/
def OccurrenceHandsOn (cron : Cron) (s : PolicyStores) : PolicyLabel → Prop
  | .openOccurrence goal draws => ∀ template opened s', templateOf s goal = .ok template →
      openScheduledOccurrence cron s goal draws = (.ok opened, s') → HandsOn template goal
  | _ => True

/-! ## Specifications that were built -/

/-- The commands of all specifications are stripped. -/
def PolicyStores.Stripped (s : PolicyStores) : Prop :=
  ∀ spec ∈ s.specs.rows, strip spec.verificationCommand = spec.verificationCommand

section

variable {cron : Cron} {s s' : PolicyStores} {run : Run} {request : PolicyRequest} {draws : Draws}
  {goal : GoalRow} {spec template : LoopPolicy} {opened : Opened} {raised : Raised}

theorem mem_saveSpec {specs : Table String LoopPolicy (·.id)} {row : LoopPolicy}
    (h : row ∈ (saveSpec specs spec).rows) : row = spec ∨ row ∈ specs.rows := by
  have hget := Table.get?_of_mem h
  rw [saveSpec, Table.get?_insertOrIgnore, Table.get?_replace] at hget
  cases hfound : specs.get? row.id with
  | none =>
      rw [hfound] at hget
      split at hget
      · exact Or.inl (Option.some.inj hget).symm
      · cases hget
  | some old =>
      rw [hfound] at hget
      simp only [Option.map_some, Option.some_or, Option.some.injEq] at hget
      split at hget
      · exact Or.inl hget.symm
      · exact Or.inr (hget ▸ (Table.get?_eq_some_iff.mp hfound).1)

theorem saveSpec_stripped {specs : Table String LoopPolicy (·.id)} {id : String}
    (hs : ∀ row ∈ specs.rows, strip row.verificationCommand = row.verificationCommand)
    (hbuilt : loopSpecForGoal goal request id = .ok spec) :
    ∀ row ∈ (saveSpec specs spec).rows,
      strip row.verificationCommand = row.verificationCommand := by
  intro row hrow
  rcases mem_saveSpec hrow with rfl | hold
  · exact (built_kept hbuilt).1
  · exact hs row hold

@[simp] theorem compensated_specs (goal : Option GoalRow) :
    (s.compensated run goal raised draws).specs = s.specs := by
  unfold PolicyStores.compensated
  split
  · rfl
  · cases goal <;> rfl

theorem openRows_stripped (hs : s.Stripped) : (openRows cron s run request draws).2.Stripped := by
  unfold openRows
  split
  next =>
    show ∀ spec ∈ (s.compensated run none _ draws).specs.rows, _
    rw [compensated_specs]
    exact hs
  next goal _ =>
    dsimp only
    split
    next =>
      show ∀ spec ∈ ((s.withGoal goal).compensated run (some goal) _ draws).specs.rows, _
      rw [compensated_specs]
      exact hs
    next spec hspec =>
      have hsaved : ∀ row ∈ (saveSpec s.specs spec).rows,
          strip row.verificationCommand = row.verificationCommand :=
        saveSpec_stripped hs (createLoop_eq_ok hspec)
      split
      · exact hsaved
      · split
        · show ∀ row ∈ (PolicyStores.compensated _ run (some goal) _ draws).specs.rows, _
          rw [compensated_specs]
          exact hsaved
        · split
          · show ∀ row ∈ (PolicyStores.compensated _ run (some goal) _ draws).specs.rows, _
            rw [compensated_specs]
            exact hsaved
          · exact hsaved

theorem openGoal_stripped (hs : s.Stripped) : (openGoal cron s request draws).2.Stripped := by
  unfold openGoal
  split
  · exact hs
  · exact hs
  · split
    · exact hs
    · exact openRows_stripped hs

theorem openScheduledOccurrence_stripped (hs : s.Stripped) :
    (openScheduledOccurrence cron s goal draws).2.Stripped := by
  unfold openScheduledOccurrence
  split
  · exact hs
  · split
    · exact hs
    · exact openGoal_stripped hs

theorem updateGoal_stripped {request : UpdateRequest} {draws : UpdateDraws} (hs : s.Stripped) :
    (updateGoal cron s request draws).2.Stripped := by
  unfold updateGoal
  split
  next => exact hs
  next found _ =>
    dsimp only
    split
    next => exact hs
    next spec hspec =>
      obtain ⟨-, -, ceiling, -, hbuilt⟩ := rebuildSpec_eq_ok hspec
      exact saveSpec_stripped hs hbuilt

theorem policy_stripped (cron : Cron) (s : PolicyStores) (label : PolicyLabel) (s' : PolicyStores)
    (hs : s.Stripped) (hstep : (policySystem cron).step s label = some s') : s'.Stripped := by
  cases label with
  | openGoal request draws =>
      obtain rfl := Option.some.inj hstep
      exact openGoal_stripped hs
  | updateGoal request draws =>
      obtain rfl := Option.some.inj hstep
      exact updateGoal_stripped hs
  | openOccurrence goal draws =>
      obtain rfl := Option.some.inj hstep
      exact openScheduledOccurrence_stripped hs
  | write goals runs loopRuns =>
      obtain rfl := Option.some.inj hstep
      exact hs
  | deleteSpecs guard =>
      obtain rfl := Option.some.inj hstep
      exact fun spec hspec => hs spec (Table.mem_delete.mp hspec).1

theorem start_stripped : PolicyStores.start.Stripped := fun _ hspec => absurd hspec List.not_mem_nil

/-! ## What is handed on -/

theorem orList_of_ne {value default : List String} (h : value ≠ []) :
    orList value default = value := if_neg h

theorem occurrencePolicy_budget (goals : GoalRows) (now : Time) :
    (occurrencePolicy goals goal template now).budget = template.budget := by
  rcases hbudget : template.budget with
    ⟨token, call, cost, qps, concurrent, htoken, hcall, hcost, hqps, hconcurrent⟩
  simp only [PolicyRequest.budget, occurrencePolicy, hbudget, max_eq_right htoken,
    max_eq_right hcall, max_eq_right hcost, max_eq_right hqps, max_eq_right hconcurrent]

theorem templateOf_mem (h : templateOf s goal = .ok template) : template ∈ s.specs.rows := by
  unfold templateOf at h
  split at h
  · cases h
  · exact (Table.get?_eq_some_iff.mp (get?_of_specOf h)).1

theorem openScheduledOccurrence_eq_ok (htemplate : templateOf s goal = .ok template)
    (h : openScheduledOccurrence cron s goal draws = (.ok opened, s')) :
    ∃ row spec, row.objective = goal.objective
      ∧ loopSpecForGoal row (occurrencePolicy s.goals goal template draws.now) draws.specId
        = .ok spec
      ∧ s'.specs.get? opened.specId = some spec := by
  unfold openScheduledOccurrence at h
  split at h
  · cases congrArg Prod.fst h
  · rw [htemplate] at h
    dsimp only [openGoal] at h
    have hcheck : checkSchedule cron s (occurrencePolicy s.goals goal template draws.now)
        = .ok .nothing := by
      unfold checkSchedule
      rw [if_pos]
      intro hkind
      cases hkind
    rw [hcheck] at h
    dsimp only at h
    split at h
    · cases congrArg Prod.fst h
    · obtain ⟨row, spec, hrow, hspec, -, hspecId, hsaved, -⟩ := openRows_eq_ok h
      obtain ⟨-, nextRunAt, rfl⟩ := createGoal_eq_ok hrow
      refine ⟨OpenRequest.row _ draws.goalId draws.runId nextRunAt draws.now, spec, rfl, hspec, ?_⟩
      rw [hspecId]
      exact hsaved

/-- An occurrence has what its template says exactly where the objective and the timeout
can be handed on. -/
theorem inherits_iff {row : GoalRow} {goals : GoalRows} {now : Time} {id : String}
    (hstripped : strip template.verificationCommand = template.verificationCommand)
    (hrow : row.objective = goal.objective)
    (hspec : loopSpecForGoal row (occurrencePolicy goals goal template now) id = .ok spec) :
    Inherits template spec ↔ HandsOn template goal := by
  obtain ⟨-, hobjective, hscope, hconstraints, hcriteria, hceiling, hallowed, hcommand, htimeout,
    hbudget⟩ := loopSpecForGoal_eq_ok hspec
  have hseconds : spec.timeout = 120 := by
    rw [htimeout]
    show ((max 1 120 : Int) : Rat) = 120
    norm_num
  have hcommand : spec.verificationCommand = template.verificationCommand :=
    hcommand.trans hstripped
  constructor
  · intro h
    refine ⟨?_, fun hcommand => ?_⟩
    · rw [← hrow, ← hobjective, h.objective]
    · rw [← h.timeout hcommand, hseconds]
  · rintro ⟨hsame, hdefault⟩
    refine ⟨?_, ?_, hconstraints, hcriteria, hceiling, ?_, hcommand, fun hcommand => ?_, ?_⟩
    · rw [hobjective, hrow, hsame]
    · exact hscope.trans (orList_of_ne template.scope_ne)
    · exact hallowed.trans (orList_of_ne template.allowedCapabilities_ne)
    · rw [hseconds, hdefault hcommand]
    · exact hbudget.trans (occurrencePolicy_budget goals now)

theorem occurrenceInherits_iff (hs : s.Stripped) (label : PolicyLabel) :
    OccurrenceInherits cron s label ↔ OccurrenceHandsOn cron s label := by
  cases label with
  | openOccurrence goal draws =>
      constructor
      · intro h template opened s' htemplate hopened
        obtain ⟨spec, hspec, hinherits⟩ := h template opened s' htemplate hopened
        obtain ⟨row, built, hrow, hbuilt, hsaved⟩ :=
          openScheduledOccurrence_eq_ok htemplate hopened
        obtain rfl := Option.some.inj (hspec.symm.trans hsaved)
        exact (inherits_iff (hs template (templateOf_mem htemplate)) hrow hbuilt).mp hinherits
      · intro h template opened s' htemplate hopened
        obtain ⟨row, spec, hrow, hbuilt, hsaved⟩ :=
          openScheduledOccurrence_eq_ok htemplate hopened
        exact ⟨spec, hsaved, (inherits_iff (hs template (templateOf_mem htemplate)) hrow hbuilt).mpr
          (h template opened s' htemplate hopened)⟩
  | openGoal | updateGoal | write | deleteSpecs => exact Iff.rfl

end

/-- **What occurrences inherit.** In every run of openings, updates, occurrences and other
writes, every occurrence that is opened has what its template says if and only if every
one is opened of a goal with the template's objective and of a template whose command, if
it has one, has the timeout of a request that says nothing about it. -/
theorem occurrences_inherit_iff (cron : Cron) (labels : List PolicyLabel) :
    (policySystem cron).Along (OccurrenceInherits cron) .start labels
      ↔ (policySystem cron).Along (OccurrenceHandsOn cron) .start labels := by
  constructor
  · exact (policySystem cron).along_of_invariant
      (fun s label s' hs _ hstep => policy_stripped cron s label s' hs hstep)
      (fun s label hs h => (occurrenceInherits_iff hs label).mp h) start_stripped
  · exact (policySystem cron).along_of_invariant
      (fun s label s' hs _ hstep => policy_stripped cron s label s' hs hstep)
      (fun s label hs h => (occurrenceInherits_iff hs label).mpr h) start_stripped

/-- A schedule whose command may run for five minutes. -/
def longCheck : PolicyRequest where
  toOpenRequest :=
    { plainRequest .scheduled "0 9 * * *" with verifies := true, timeoutSeconds := 300 }
  scope := []
  constraints := []
  acceptanceCriteria := []
  permissionCeiling := none
  allowedCapabilities := []
  verificationCommand := "make"
  tokenBudget := 0
  callBudget := 0
  costBudget := 0
  qpsLimit := 0
  maxConcurrent := 1
  allowDuplicateSchedule := false

def longChecked : PolicyStores :=
  (openGoal everyMinute .start longCheck ⟨"run", "goal", "spec", "loop", 0, fun _ => none⟩).2

/-- The schedule as a daemon reads it. -/
def longGoal : GoalRow := longCheck.row "goal" "run" 60 0

def occurrenceDraws : Draws := ⟨"run2", "goal2", "spec2", "loop2", 60, fun _ => none⟩

/-- The occurrence's command may run for two minutes only. -/
theorem occurrence_drops_timeout :
    ¬ (policySystem everyMinute).Along (OccurrenceInherits everyMinute) .start
        [.openGoal longCheck ⟨"run", "goal", "spec", "loop", 0, fun _ => none⟩,
          .openOccurrence longGoal occurrenceDraws] := by
  intro hall
  have hsecond := (hall.2 longChecked rfl).1
  obtain ⟨template, htemplate, hcommand, htimeout⟩ : ∃ template,
      templateOf longChecked longGoal = .ok template ∧ template.verificationCommand ≠ ""
        ∧ template.timeout ≠ 120 := by
    refine ⟨_, rfl, ?_, ?_⟩
    · decide +kernel
    · decide +kernel
  obtain ⟨opened, s', hopened⟩ : ∃ opened s', openScheduledOccurrence everyMinute longChecked
      longGoal occurrenceDraws = (.ok opened, s') := ⟨_, _, rfl⟩
  have hstripped : longChecked.Stripped := openGoal_stripped start_stripped
  have hhands := (occurrenceInherits_iff hstripped _).mp hsecond
    template opened s' htemplate hopened
  exact htimeout (hhands.2 hcommand)

end Navi.Goals
