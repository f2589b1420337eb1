import Navi.Approvals.Resolve
import Navi.Lifecycle.Control

/-!
# Approvals of ended Runs

`cancel_loop`, a failed execution and a delivery receipt end a Run and leave its
pending approvals where they are. `resolve` writes the Run of an approval whatever
has become of the Run.
-/

namespace Navi.Approvals

open Navi.Base Navi.Lifecycle
open Navi.Lifecycle.Control (cancelUpdates endedUpdates)

/-- What ends a Run, other than an approval: `cancel_loop`, `fail_state_graph_execution`
and the two settlements of a delivery. -/
inductive Ending where
  | cancelled
  | failed (failure : String)
  | delivered (textPreview : String)
  | undelivered (error : String)

def Ending.updates (run : Run) : Ending → RunUpdates
  | .cancelled => cancelUpdates
  | .failed failure => endedUpdates .rejected .failed "" failure
  | .delivered textPreview =>
      endedUpdates .accepted .success
        (if run.resultSummary = "" then textPreview else run.resultSummary) ""
  | .undelivered error => endedUpdates .rejected .failed "" error

/-- A step of the approvals, or the write that ends a Run. -/
inductive RunLabel where
  | approval (label : Label)
  | ends (runId : String) (ending : Ending) (now : Time)

/-- The two tables with the callers of `resolve`, and (a history variable) each Run
that an approval step found, with what the step made of it. -/
structure RunHistory where
  service : ServiceState
  met : List (Run × Run)

/-- The Runs of a table, each with what has become of it. -/
def runPairs (before after : RunTable) : List (Run × Run) :=
  before.rows.filterMap fun run => (after.get? run.id).map fun run' => (run, run')

/-- Approvals and the endings of Runs, in any order. -/
def runSystem : System RunHistory RunLabel where
  step h
    | .approval label => (resolveSystem.step h.service label).map fun service =>
        ⟨service, runPairs h.service.runs service.runs ++ h.met⟩
    | .ends runId ending now => some { h with
        service := { h.service with
          runs := h.service.runs.update (fun run => run.id = runId)
            (fun run => mergeRunUpdates run (ending.updates run) now) fun _ => rfl } }

/-- No approval has changed the phase or the resolution of a Run that it found ended. -/
def RunHistory.EndedStay (h : RunHistory) : Prop :=
  ∀ run run', (run, run') ∈ h.met → run.phase = .ended →
    run'.phase = .ended ∧ run'.resolution = run.resolution

/-- A transaction of `resolve` finds the Run of its approval not ended, or ended as the
decision would end it. -/
def FindsRunOpen (h : RunHistory) : RunLabel → Prop
  | .approval (.advance call _ _) =>
      match h.service.calls call with
      | .resolving request approval =>
          ∀ row ∈ h.service.approvals.get? approval.id, statusForDecision request.decision ≠ none →
            ∀ run ∈ h.service.runs.get? row.runId, run.phase = .ended →
              let outcome := stateMatrix (request.decision = "approve")
                (row.action = sessionElevation) row.id
              outcome.phase = .ended ∧ outcome.resolution = run.resolution
      | _ => True
  | _ => True

/-! ## One step -/

theorem mem_runPairs {before after : RunTable} {run run' : Run} :
    (run, run') ∈ runPairs before after
      ↔ before.get? run.id = some run ∧ after.get? run.id = some run' := by
  unfold runPairs
  rw [List.mem_filterMap]
  constructor
  · rintro ⟨found, hfound, hpair⟩
    obtain ⟨found', hafter, hsame⟩ := Option.map_eq_some_iff.mp hpair
    obtain ⟨rfl, rfl⟩ := Prod.mk.inj hsame
    exact ⟨Table.get?_of_mem hfound, hafter⟩
  · rintro ⟨hbefore, hafter⟩
    exact ⟨run, (Table.get?_eq_some_iff.mp hbefore).1, by rw [hafter, Option.map_some]⟩

theorem get?_written (runs : RunTable) (runId : String) (updates : RunUpdates) (now : Time)
    (id : String) :
    (runs.update (fun run => run.id = runId) (mergeRunUpdates · updates now) fun _ => rfl).get? id
      = (runs.get? id).map fun run =>
          if run.id = runId then mergeRunUpdates run updates now else run := by
  have hupdate := runs.get?_update (fun run => run.id = runId) (mergeRunUpdates · updates now)
    (fun _ => rfl) id
  simpa using hupdate

theorem runs_of_other {s s' : ServiceState} {label : Label}
    (h : resolveSystem.step s label = some s')
    (hother : ∀ call now runNow request approval, label = .advance call now runNow →
      s.calls call ≠ .resolving request approval) :
    s'.runs = s.runs ∧ ∀ met, FindsRunOpen ⟨s, met⟩ (.approval label) := by
  refine ⟨?_, fun met => ?_⟩
  · obtain ⟨calls, rfl, -⟩ | ⟨created, -, -, rfl⟩ | ⟨calls, now, rfl, -⟩
      | ⟨call, now, runNow, request, approval, calls, hlabel, hcall, -⟩ := step_cases h
    · rfl
    · rfl
    · rfl
    · exact absurd hcall (hother call now runNow request approval hlabel)
  · cases label with
    | advance call now runNow =>
        cases hcall : s.calls call with
        | resolving request approval =>
            exact absurd hcall (hother call now runNow request approval rfl)
        | _ => simp [FindsRunOpen, hcall]
    | _ => trivial

/-- What a transaction of `resolve` writes: nothing, or its decision to the Run of its
approval. -/
theorem runs_of_resolve (s : ServiceState) (request : Request) (approval : Approval)
    (now runNow : Time) :
    ((resolveInTransaction s request approval now runNow).2.runs = s.runs
        ∧ ∀ row ∈ s.approvals.get? approval.id, statusForDecision request.decision ≠ none →
          s.runs.get? row.runId = none)
      ∨ ∃ row, s.approvals.get? approval.id = some row
          ∧ statusForDecision request.decision ≠ none
          ∧ (resolveInTransaction s request approval now runNow).2.runs
            = s.runs.update (fun run => run.id = row.runId)
              (mergeRunUpdates · (stateMatrix (request.decision = "approve")
                (row.action = sessionElevation) row.id).updates runNow) (fun _ => rfl) := by
  cases hstatus : statusForDecision request.decision with
  | none =>
      refine .inl ⟨?_, fun _ _ hsome => absurd rfl hsome⟩
      rw [resolveInTransaction, hstatus]
  | some status =>
      rw [resolveInTransaction_eq hstatus]
      split
      next hnone =>
        refine .inl ⟨rfl, fun row hrow _ => ?_⟩
        rw [afterUpdate, get?_leave, Option.mem_def.mp hrow] at hnone
        cases hnone
      next resolved hresolved =>
        obtain ⟨row, hrow, hid, hrunId, haction, -⟩ := afterUpdate_row hresolved
        have hrowId : row.id = approval.id := (Table.get?_eq_some_iff.mp hrow).2
        unfold writeRun
        split
        next hnone =>
          refine .inl ⟨rfl, fun row' hrow' _ => ?_⟩
          obtain rfl := Option.some.inj (hrow.symm.trans hrow')
          rw [← hrunId]
          exact hnone
        next run hrun =>
          refine .inr ⟨row, hrow, Option.some_ne_none status, ?_⟩
          rw [hrunId, haction, hid, ← hrowId]
          rfl

/-- A step of the approvals changes no ended Run exactly when it finds the Run of its
approval open. -/
theorem step_endedStay_iff {h h' : RunHistory} {label : RunLabel} (hstay : h.EndedStay)
    (hstep : runSystem.step h label = some h') : h'.EndedStay ↔ FindsRunOpen h label := by
  cases label with
  | ends runId ending now =>
      obtain rfl := Option.some.inj hstep
      exact iff_of_true hstay trivial
  | approval label =>
      obtain ⟨service, hservice, rfl⟩ := Option.map_eq_some_iff.mp hstep
      have hnew : RunHistory.EndedStay ⟨service, runPairs h.service.runs service.runs ++ h.met⟩
          ↔ ∀ run run', h.service.runs.get? run.id = some run →
            service.runs.get? run.id = some run' → run.phase = .ended →
              run'.phase = .ended ∧ run'.resolution = run.resolution := by
        constructor
        · intro hafter run run' hrun hrun' hended
          exact hafter run run' (List.mem_append_left _ (mem_runPairs.mpr ⟨hrun, hrun'⟩)) hended
        · intro hpairs run run' hmem hended
          rcases List.mem_append.mp hmem with hpair | hold
          · obtain ⟨hrun, hrun'⟩ := mem_runPairs.mp hpair
            exact hpairs run run' hrun hrun' hended
          · exact hstay run run' hold hended
      rw [hnew]
      by_cases hresolving : ∃ call now runNow request approval, label = .advance call now runNow
          ∧ h.service.calls call = .resolving request approval
      · obtain ⟨call, now, runNow, request, approval, rfl, hcall⟩ := hresolving
        have hruns : service.runs
            = (resolveInTransaction h.service request approval now runNow).2.runs := by
          simp only [resolveSystem, hcall] at hservice
          obtain rfl := Option.some.inj hservice
          rfl
        simp only [FindsRunOpen, hcall]
        rw [hruns]
        rcases runs_of_resolve h.service request approval now runNow with
          ⟨hsame, hnone⟩ | ⟨row, hrow, hstatus, hwritten⟩
        · refine iff_of_true ?_ ?_
          · intro run run' hrun hrun' hended
            rw [hsame, hrun] at hrun'
            obtain rfl := Option.some.inj hrun'
            exact ⟨hended, rfl⟩
          · intro row hrow hstatus run hrun
            rw [hnone row hrow hstatus] at hrun
            cases hrun
        · rw [hwritten]
          constructor
          · intro hkeeps row' hrow' _ run hrun hended
            obtain rfl := Option.some.inj (hrow.symm.trans hrow')
            have hid : run.id = row.runId := (Table.get?_eq_some_iff.mp hrun).2
            rw [← hid] at hrun
            have hwrites := hkeeps run (mergeRunUpdates run
              (stateMatrix (request.decision = "approve") (row.action = sessionElevation)
                row.id).updates runNow) hrun
            rw [get?_written, Option.mem_def.mp hrun, Option.map_some, if_pos hid] at hwrites
            exact hwrites rfl hended
          · intro hopen run run' hrun hrun' hended
            rw [get?_written, hrun] at hrun'
            obtain rfl := Option.some.inj hrun'
            dsimp only
            by_cases hid : run.id = row.runId
            · rw [if_pos hid]
              exact hopen row hrow hstatus run (hid ▸ hrun) hended
            · rw [if_neg hid]
              exact ⟨hended, rfl⟩
      · obtain ⟨hsame, hfinds⟩ := runs_of_other hservice
          fun call now runNow request approval hlabel hcall =>
            hresolving ⟨call, now, runNow, request, approval, hlabel, hcall⟩
        refine iff_of_true ?_ (hfinds h.met)
        intro run run' hrun hrun' hended
        rw [hsame, hrun] at hrun'
        obtain rfl := Option.some.inj hrun'
        exact ⟨hended, rfl⟩

theorem resolve_finds {h : RunHistory} {label : RunLabel} (hfails : ¬ FindsRunOpen h label) :
    ∃ h', runSystem.step h label = some h' := by
  cases label with
  | ends runId ending now => exact absurd trivial hfails
  | approval label =>
      cases label with
      | advance call now runNow =>
          cases hcall : h.service.calls call with
          | resolving request approval =>
              exact ⟨_, by simp only [runSystem, resolveSystem, hcall]; rfl⟩
          | _ => exact absurd (by simp [FindsRunOpen, hcall]) hfails
      | _ => exact absurd trivial hfails

/-! ## Whole runs -/

/-- **Approvals leave ended Runs alone.** In every run from no approvals, whatever the
Runs, and whatever ends them, no approval changes the phase or the resolution of an
ended Run, if and only if every transaction of `resolve` finds the Run of its approval
not ended, or ended as its decision would end it. -/
theorem ended_runs_stay_iff (runs : RunTable) (labels : List RunLabel) :
    (∀ n h, runSystem.run ⟨.start runs, []⟩ (labels.take n) = some h → h.EndedStay)
      ↔ runSystem.Along FindsRunOpen ⟨.start runs, []⟩ labels := by
  have hstart : RunHistory.EndedStay ⟨.start runs, []⟩ := fun _ _ hmem =>
    absurd hmem List.not_mem_nil
  exact runSystem.run_good_iff (fun _ _ _ _ _ => trivial)
    (fun _ _ _ _ hstay hstep => step_endedStay_iff hstay hstep)
    (fun _ _ hfails => resolve_finds hfails) trivial hstart labels

/-- A Run waits for an approval, is cancelled, and its approval is approved. -/
def approvedAfterCancel : List RunLabel :=
  [.approval (.create "approval" "run" "capability" "shell" "write" "" "" "owner" "000001" 900 0),
    .ends "run" .cancelled 1,
    .approval (.resolve 0 ⟨"approve", "000001", "", "", "", "owner"⟩),
    .approval (.advance 0 2 2), .approval (.advance 0 2 2), .approval (.advance 0 2 2)]

/-- The cancelled Run is pending again. -/
theorem cancelled_run_reopened :
    (runSystem.run ⟨.start governedRuns, []⟩ (approvedAfterCancel.take 5)).map (fun h =>
        (h.service.runs.get? "run").map fun run => (run.phase, run.resolution))
      = some (some (.ended, .canceled))
    ∧ (runSystem.run ⟨.start governedRuns, []⟩ approvedAfterCancel).map (fun h =>
        (h.service.runs.get? "run").map fun run => (run.phase, run.resolution))
      = some (some (.pending, .none))
    ∧ ¬ ∀ (runs : RunTable) (labels : List RunLabel) (h : RunHistory),
      runSystem.run ⟨.start runs, []⟩ labels = some h → h.EndedStay := by
  have hrun : (runSystem.run ⟨.start governedRuns, []⟩ approvedAfterCancel).map (fun h =>
      h.met.any fun pair => pair.1.phase = .ended ∧ pair.2.phase = .pending) = some true := by
    decide +kernel
  refine ⟨by decide +kernel, by decide +kernel, fun hall => ?_⟩
  obtain ⟨h, hh, hmet⟩ := Option.map_eq_some_iff.mp hrun
  obtain ⟨⟨run, run'⟩, hmem, hphases⟩ := List.any_eq_true.mp hmet
  obtain ⟨hended, hpending⟩ := of_decide_eq_true hphases
  have hstays := (hall _ _ h hh run run' hmem hended).1
  rw [hpending] at hstays
  cases hstays

end Navi.Approvals
