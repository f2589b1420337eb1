import Navi.StateGraph.Convergence
import Navi.Workspaces.Merge

/-!
# Publications

A merge that changed the real workspace, in the history of its loop: which driver made
it, and what becomes of the loop. The merge comes before the commit of the side effects
and before the transition, and nothing takes it back, so the loop is sure to end at
`CONVERGED` just when the drive itself gets there.
-/

namespace Navi.StateGraph

open Navi.Base Navi.Loop
open Navi.Workspaces (Call Merged agentChanged applyChanged backupRealFiles_spec conflictPaths
  mergeBack mergeBack_applied mergeBack_conflicted mergeBack_failed mergeBack_unsaved posix
  writeConflicts_eq_ok_iff)

/-! ## What a merge leaves -/

/-- The workspace when a merge has ended, however it ended. -/
def workspaceAfter {α : Type} : EStateM.Result Workspaces.MergeError FileTree α → FileTree
  | .ok _ real | .error _ real => real

/-- What `merge_run` answers, and what it leaves in the real workspace. The shadow's row
and its artifacts come after the merge and may raise as well. A process that dies in
the loop which applies the changes leaves them where the loop was. -/
inductive MergeRun (call : Call) (baseline shadow real : FileTree) :
    Option (Except String MergeResult) → FileTree → Prop where
  | returned {merged : Merged} {left : FileTree} (artifactPath : String)
      (h : mergeBack call baseline shadow real = .ok merged left) :
      MergeRun call baseline shadow real
        (some (.ok ⟨merged.status, merged.conflicts.map fun p => String.ofList (posix p),
          artifactPath⟩)) left
  | raised (error : String) :
      MergeRun call baseline shadow real (some (.error error))
        (workspaceAfter (mergeBack call baseline shadow real))
  | died (h : conflictPaths call.sha256 baseline shadow real = []) :
      MergeRun call baseline shadow real none
        (workspaceAfter (applyChanged call shadow real
          (agentChanged call.sha256 baseline shadow real) false real))

/-- A merge that returns without a conflict, or one that found a conflict and changed
nothing. -/
theorem mergeBack_status {call : Call} {baseline shadow real left : FileTree} {merged : Merged}
    (h : mergeBack call baseline shadow real = .ok merged left) :
    merged.status ≠ .conflicted ∨ left = real := by
  by_cases hconflicts : conflictPaths call.sha256 baseline shadow real = []
  · refine .inl ?_
    rcases backupRealFiles_spec call baseline shadow real with
      ⟨-, saved, hsaved, -⟩ | ⟨-, e, hsaved⟩
    · cases happlied : applyChanged call shadow real
        (agentChanged call.sha256 baseline shadow real) false real with
      | ok applied now =>
          rw [mergeBack_applied hconflicts hsaved happlied] at h
          cases h
          dsimp only
          split <;> simp
      | error e now =>
          rw [mergeBack_failed hconflicts hsaved happlied] at h
          split at h <;> cases h
    · rw [mergeBack_unsaved hconflicts hsaved] at h
      cases h
  · rw [mergeBack_conflicted hconflicts] at h
    simp only [bind, EStateM.bind] at h
    split at h
    next u t hrun =>
      obtain ⟨rfl, -⟩ := (writeConflicts_eq_ok_iff _ _ _).mp hrun
      cases h
      exact .inr rfl
    next => cases h

theorem MergeRun.noConflict {call : Call} {baseline shadow real left : FileTree}
    {result : MergeResult} (h : MergeRun call baseline shadow real (some (.ok result)) left)
    (hchanged : left ≠ real) : result.status ≠ .conflicted := by
  cases h with
  | returned artifactPath h => exact (mergeBack_status h).resolve_right hchanged

/-! ## Publications in a history -/

/-- A merge that changed the real workspace: the history before its drive, the drive up
to the merge, and the trees of the merge. -/
structure Publication (s : Lived) where
  earlier : List Item
  r : Runner
  calls : Nat
  evidence : Dict
  answers : List Answer
  state : LoopRunState
  report : CheckerReport
  before : World
  call : Call
  baseline : FileTree
  shadow : FileTree
  real : FileTree
  left : FileTree
  merges : MergesIn r calls evidence
    (startWorld (play s earlier).1 (play s earlier).2 answers) state report before
  merged : MergeRun call baseline shadow real (before.answers.head?.map Answer.merged) left
  changed : left ≠ real

namespace Publication

variable {s : Lived}

/-- The history up to the end of the drive. -/
def through (p : Publication s) : List Item :=
  p.earlier ++ [.drives p.r p.calls p.evidence p.answers]

/-- The driver holds the lease when it merges, and the lease has not expired. -/
def UnderLease (p : Publication s) : Prop :=
  p.r.executionOwner ≠ "" ∧ p.before.cell.run.leaseOwner = p.r.executionOwner
    ∧ ∀ merge ∈ p.before.answers.head?, merge.now < p.before.cell.run.leaseExpiresAt

/-- However the history goes on, the loop ends nowhere else than at `CONVERGED`. -/
def EndsConverged (p : Publication s) : Prop :=
  ∀ later, (play s (p.through ++ later)).1.run.isTerminal = true →
    Converged (play s (p.through ++ later))

/-- The merge returns to a driver that holds the lease then, and what is left of the
drive converges the loop. -/
def Completes (p : Publication s) : Prop :=
  (∃ merge merged, p.before.answers.head? = some merge ∧ merge.merged = .ok merged
      ∧ merge.now < p.before.cell.run.leaseExpiresAt)
    ∧ p.r.executionOwner ≠ ""
    ∧ GoesThrough p.r p.before.cell (sideEffectFromCollectedEvidence p.before.collected)
      p.before.answers.tail

end Publication

/-! ## Loops that can still end -/

/-- A loop that is open can still be ended elsewhere: whoever drives it fails, or its
wait is cancelled. -/
theorem Open.ends {s : Lived} (h : Open s.1.run) :
    ∃ later, (play s later).1.run.isTerminal = true ∧ ¬ Converged (play s later) := by
  rcases h with hrunning | hwaiting
  · let now := s.1.run.leaseExpiresAt
    refine ⟨[.claims "driver" 1 now false, .failsActiveRun "driver" [] now], ?_⟩
    let claimed : LoopCell := { s.1 with run := { s.1.run with
      leaseOwner := "driver"
      leaseExpiresAt := now + max 1 1
      version := s.1.run.version + 1
      updatedAt := now } }
    have hclaim : claimForExecution s.1 "driver" 1 now false = some claimed := by
      refine claimForExecution_eq_some.mpr ⟨⟨?_, ?_⟩, rfl⟩
      · simp [claimableState, hrunning]
      · simp [claimable, now]
    have hfail : failActiveRun claimed "driver" [] now
        = .ok (transitionTo claimed .failed [] now) := by
      have hgoes : claimed.run.terminalState = none := hrunning
      have hleased : ¬ (claimed.run.leaseOwner ≠ "driver" ∨ claimed.run.leaseExpiresAt ≤ now) := by
        simp [claimed]
      unfold failActiveRun
      rw [if_neg (by decide), if_neg (by simp [hgoes]), if_neg hleased]
    have hplay : play s [.claims "driver" 1 now false, .failsActiveRun "driver" [] now]
        = Lived.after ((claimForExecution s.1 "driver" 1 now false).getD s.1, s.2)
          (failActiveRun ((claimForExecution s.1 "driver" 1 now false).getD s.1) "driver" [] now)
          fun _ => [] := rfl
    rw [hplay, hclaim, Option.getD_some, hfail]
    refine ⟨rfl, fun hconverged => ?_⟩
    cases hconverged
  · refine ⟨[.cancelsExternalWait "" 0], ?_⟩
    have hcancel : cancelExternalWaitDurably s.1 "" 0 = .ok (transitionTo s.1 .cancelled
        (externalWaitEvidence "external_wait_cancelled" s.1.run.runId "") 0) := by
      have hnot : s.1.run.terminalState ≠ some .cancelled := by
        intro hcancelled
        simp [externallyWaiting, hcancelled] at hwaiting
      simp only [cancelExternalWaitDurably, cancelExternalWait, cancelWaiting, if_neg hnot,
        if_pos hwaiting]
    have hplay : play s [.cancelsExternalWait "" 0]
        = s.after (cancelExternalWaitDurably s.1 "" 0) fun _ => [] := rfl
    rw [hplay, hcancel]
    refine ⟨rfl, fun hconverged => ?_⟩
    cases hconverged

/-! ## What a publication leads to -/

namespace Publication

variable {s : Lived}

theorem played (p : Publication s) :
    (play s p.through).1.run = endRun (mergeAndConverge p.r p.state p.report p.before) := by
  have hplay : play s p.through = runAsync p.r (play s p.earlier).1 (play s p.earlier).2 p.calls
      p.evidence p.answers := by
    unfold through play
    rw [List.foldl_append]
    rfl
  have hends := p.merges.ends
  rw [hplay, ← hends]
  unfold runAsync endRun
  split
  next hrun => rw [hrun]
  next hrun => rw [hrun]

theorem found (p : Publication s) :
    p.before.cell.run.node = .evaluate ∧ p.before.cell.run.terminalState = none := by
  let origin : Config := ⟨(play s p.earlier).1, (play s p.earlier).2, .outside⟩
  have hstart : Reaches origin .outside
      (startWorld (play s p.earlier).1 (play s p.earlier).2 p.answers) := ⟨.refl, .nothing⟩
  obtain ⟨step, hat⟩ := p.merges.reaches hstart
  have hparks : ParksAsLogged ⟨p.before.cell, p.before.log, .inside step⟩ := by
    have hpath := hat.reaches.1
    generalize (⟨p.before.cell, p.before.log, .inside step⟩ : Config) = c at hpath ⊢
    induction hpath with
    | refl => exact parksAsLogged_outside
    | tail _ hmove ih => exact parksAsLogged_step (.inl hmove) ih
  refine ⟨?_, hparks.running Control.noConfusion⟩
  rw [hat.row]
  exact hat.node

theorem endsConverged_of (p : Publication s) (h : Converged (play s p.through)) :
    p.EndsConverged := by
  intro later _
  have hafter := h.play later
  unfold play at hafter ⊢
  rwa [List.foldl_append]

theorem not_endsConverged_of_open (p : Publication s) (h : Open (play s p.through).1.run) :
    ¬ p.EndsConverged := by
  intro hends
  obtain ⟨later, hterminal, hnot⟩ := h.ends
  have happend : play s (p.through ++ later) = play (play s p.through) later := by
    unfold play
    rw [List.foldl_append]
  have hconverged := hends later
  rw [happend] at hconverged
  exact hnot (hconverged hterminal)

end Publication

/-- A driver that holds its lease made the publication, and its loop is sure to end at
`CONVERGED`, exactly when the merge returned within the lease and the drive gets through
the commit and the transition that come after it. -/
theorem published_converges_iff {s : Lived} (p : Publication s) :
    (p.UnderLease ∧ p.EndsConverged) ↔ p.Completes := by
  obtain ⟨hnode, hrunning⟩ := p.found
  by_cases hreturned : ∃ merge merged, p.before.answers.head? = some merge
      ∧ merge.merged = .ok merged
  · obtain ⟨merge, merged, hhead, hmerged⟩ := hreturned
    have hanswers : p.before.answers = merge :: p.before.answers.tail := by
      cases h : p.before.answers with
      | nil =>
          rw [h] at hhead
          cases hhead
      | cons answer rest =>
          rw [h] at hhead
          rw [Option.some.inj hhead]
          rfl
    have hgoes : merged.status ≠ .conflicted := by
      have hrun := p.merged
      rw [hhead, Option.map_some, hmerged] at hrun
      exact hrun.noConflict p.changed
    constructor
    · rintro ⟨⟨hnamed, -, hleased⟩, hends⟩
      refine ⟨⟨merge, merged, hhead, hmerged, hleased merge hhead⟩, hnamed, ?_⟩
      rw [← mergeAndConverge_converges_iff hnamed hnode hrunning hanswers hmerged hgoes,
        ← p.played]
      by_contra hnot
      -- a drive that goes on from the merge ends open, if not converged
      have hopen : OpenOrConverged (play s p.through).1.run := by
        rw [p.played, mergeAndConverge_eq hanswers hmerged hgoes]
        exact endRun_of_staysOpen (convergeState_staysOpen p.r p.state p.report)
          (.inl (.inl hrunning))
      exact p.not_endsConverged_of_open (hopen.resolve_right hnot) hends
    · rintro ⟨⟨merge', merged', hhead', -, hleased⟩, hnamed, hthrough⟩
      obtain rfl : merge = merge' := Option.some.inj (hhead.symm.trans hhead')
      have howns : p.before.cell.run.leaseOwner = p.r.executionOwner := by
        obtain ⟨_, _, _, _, -, hconverges⟩ := hthrough
        exact hconverges.owner
      refine ⟨⟨hnamed, howns, fun merge' hmerge' => ?_⟩, p.endsConverged_of ?_⟩
      · obtain rfl : merge = merge' := Option.some.inj (hhead.symm.trans hmerge')
        exact hleased
      · show (play s p.through).1.run.terminalState = some .converged
        rw [p.played]
        exact (mergeAndConverge_converges_iff hnamed hnode hrunning hanswers hmerged hgoes).mpr
          hthrough
  · -- the merge raised, or the process died in it: the loop keeps the row it had
    have hrow : (play s p.through).1.run = p.before.cell.run := by
      rw [p.played]
      refine mergeAndConverge_raised fun merge hmerge merged hmerged => ?_
      exact hreturned ⟨merge, merged, hmerge, hmerged⟩
    have hopen : Open (play s p.through).1.run := by
      rw [hrow]
      exact .inl hrunning
    refine iff_of_false (fun h => p.not_endsConverged_of_open hopen h.2) ?_
    rintro ⟨⟨merge, merged, hhead, hmerged, -⟩, -⟩
    exact hreturned ⟨merge, merged, hhead, hmerged⟩

/-! ## A drive that merges -/

def mergeOf : EStateM.Result Halt World (Next (LoopRunState × CheckerReport)) →
    Option (LoopRunState × CheckerReport × World)
  | .ok (.goOn (state, report)) before => some (state, report, before)
  | _ => none

theorem mergeOf_eq_some {result : EStateM.Result Halt World (Next (LoopRunState × CheckerReport))}
    {state : LoopRunState} {report : CheckerReport} {before : World}
    (h : mergeOf result = some (state, report, before)) :
    result = .ok (.goOn (state, report)) before := by
  unfold mergeOf at h
  split at h
  · obtain ⟨rfl, hrest⟩ := Prod.mk.inj (Option.some.inj h)
    obtain ⟨rfl, rfl⟩ := Prod.mk.inj hrest
    rfl
  · cases h

/-- The plain runner, with a shadow workspace. -/
def shadowRunner : Runner :=
  { plainRunner with spec := { plainRunner.spec with workspaceMode := .shadow } }

/-- The next operation is a merge that returns without a conflict. -/
def mergesCleanly (before : World) : Bool :=
  match before.answers.head?.map Answer.merged with
  | some (.ok merged) =>
      decide (merged.status = .clean ∧ merged.conflicts = [] ∧ merged.artifactPath = "")
  | _ => false

/-- The merge went well and left this content at the path. -/
def cleanWith (p : Path) (content : Content) :
    EStateM.Result Workspaces.MergeError FileTree Merged → Bool
  | .ok merged left => decide (merged = ⟨.clean, []⟩ ∧ left.content p = some content)
  | .error _ _ => false

theorem left_of_clean {p : Path} {content : Content}
    {result : EStateM.Result Workspaces.MergeError FileTree Merged}
    (h : cleanWith p content result = true) :
    ∃ left, result = .ok ⟨.clean, []⟩ left ∧ left.content p = some content := by
  cases result with
  | ok merged left =>
      obtain ⟨rfl, hcontent⟩ := of_decide_eq_true h
      exact ⟨left, rfl, hcontent⟩
  | error e left => cases h

theorem editedTree_clean : cleanWith ["d", "a"] (.file [50])
    (mergeBack Workspaces.plainCall Workspaces.directoryTree Workspaces.editedTree
      Workspaces.directoryTree) = true := by
  decide +kernel

theorem editedTree_merges : ∃ left,
    MergeRun Workspaces.plainCall Workspaces.directoryTree Workspaces.editedTree
      Workspaces.directoryTree (some (.ok ⟨.clean, [], ""⟩)) left
    ∧ left ≠ Workspaces.directoryTree := by
  obtain ⟨left, hmerge, hcontent⟩ := left_of_clean editedTree_clean
  refine ⟨left, .returned "" hmerge, ?_⟩
  rintro rfl
  have hbefore : Workspaces.directoryTree.content ["d", "a"] = some (.file [49]) := by
    decide +kernel
  rw [hbefore] at hcontent
  cases hcontent

theorem publishes (answers : List Answer) (check : World → Bool)
    (hrun : (mergeOf (callToMerge shadowRunner [] (startWorld plainLoop.1 plainLoop.2
      answers))).any fun merge => mergesCleanly merge.2.2 && check merge.2.2) :
    ∃ p : Publication plainLoop, p.through = [.drives shadowRunner 8 [] answers]
      ∧ p.r = shadowRunner ∧ check p.before = true := by
  obtain ⟨⟨state, report, before⟩, hmerge, hboth⟩ := (Option.any_eq_true _ _).mp hrun
  obtain ⟨hclean, hcheck⟩ := Bool.and_eq_true_iff.mp hboth
  have hanswered : before.answers.head?.map Answer.merged = some (.ok ⟨.clean, [], ""⟩) := by
    unfold mergesCleanly at hclean
    split at hclean
    next merged hhead =>
      obtain ⟨status, conflicts, artifactPath⟩ := merged
      obtain ⟨rfl, rfl, rfl⟩ := of_decide_eq_true hclean
      exact hhead
    next => cases hclean
  obtain ⟨left, hmerged, hchanged⟩ := editedTree_merges
  exact ⟨{
    earlier := []
    r := shadowRunner
    calls := 8
    evidence := []
    answers := answers
    state := state
    report := report
    before := before
    call := Workspaces.plainCall
    baseline := Workspaces.directoryTree
    shadow := Workspaces.editedTree
    real := Workspaces.directoryTree
    left := left
    merges := .now (mergeOf_eq_some hmerge)
    merged := hanswered ▸ hmerged
    changed := hchanged }, rfl, rfl, hcheck⟩

/-- What comes after the merge goes through, and nothing is staged. -/
def goesThroughPlainly (before : World) : Bool :=
  match before.answers with
  | merge :: renewal :: checkpoint :: move :: _ =>
      (match merge.merged with
        | .ok _ => true
        | .error _ => false)
      && decide ((sideEffectFromCollectedEvidence before.collected).isEmpty = true
        ∧ merge.now < before.cell.run.leaseExpiresAt
        ∧ renewal.leaseRenewalError = false ∧ strip checkpoint.checkpointId ≠ ""
        ∧ transitionAllowed before.cell.stateGraph .evaluate (.terminal .converged)
          "checker_passed" = true
        ∧ before.cell.run.leaseOwner = "driver" ∧ move.now < before.cell.run.leaseExpiresAt)
  | _ => false

/-- A drive that lives on is sure to converge its loop. -/
theorem published_converges_iff_plain :
    ∃ p : Publication plainLoop, p.UnderLease ∧ p.EndsConverged := by
  obtain ⟨p, -, hr, hplain⟩ := publishes (plainAnswers 1 24) goesThroughPlainly (by decide +kernel)
  refine ⟨p, (published_converges_iff p).mpr ?_⟩
  unfold goesThroughPlainly at hplain
  split at hplain
  next merge renewal checkpoint move later hanswers =>
    obtain ⟨hmerged, hrest⟩ := Bool.and_eq_true_iff.mp hplain
    obtain ⟨hstaged, hleased, hrenewed, hnamed, hedge, howner, hmove⟩ := of_decide_eq_true hrest
    split at hmerged
    next merged hok =>
      have hdriver : p.r.executionOwner = "driver" := by
        rw [hr]
        rfl
      refine ⟨⟨merge, merged, by rw [hanswers]; rfl, hok, hleased⟩, ?_, ?_⟩
      · rw [hdriver]
        decide
      · refine ⟨renewal, checkpoint, move, later, ?_, hrenewed, hnamed, hedge, ?_, hmove⟩
        · unfold SideEffectsCommitted
          rw [if_pos hstaged, hanswers]
          rfl
        · rw [howner, hdriver]
    next => cases hmerged
  next => cases hplain

/-- An operation of a drive whose evaluation is rejected for good. -/
def rejectingAnswer (n : Nat) : Answer :=
  { plainAnswer n with
    report := .ok ⟨false, false, false, "", [], []⟩
    decision := ⟨false, "", []⟩ }

/-- Two drives published the edited file. The process of the first dies right after its
merge, and the recovery of the loop ends at `FAILED`. The lease of the second had
expired when it merged. -/
theorem crash_after_merge_fails :
    (∃ p : Publication plainLoop, p.UnderLease ∧ ∃ later,
        (play plainLoop (p.through ++ later)).1.run.terminalState = some .failed)
      ∧ ∃ p : Publication plainLoop, p.r.executionOwner ≠ "" ∧ ¬ p.UnderLease := by
  constructor
  · obtain ⟨p, hthrough, hr, hleased⟩ := publishes (plainAnswers 1 18)
      (fun before => decide (before.cell.run.leaseOwner = "driver"
        ∧ ∀ merge ∈ before.answers.head?, merge.now < before.cell.run.leaseExpiresAt))
      (by decide +kernel)
    obtain ⟨howner, hexpiry⟩ := of_decide_eq_true hleased
    have hdriver : p.r.executionOwner = "driver" := by
      rw [hr]
      rfl
    refine ⟨p, ⟨?_, howner.trans hdriver.symm, hexpiry⟩,
      [.drives shadowRunner 8 [] ((List.range' 5000 20).map rejectingAnswer)], ?_⟩
    · rw [hdriver]
      decide
    · rw [hthrough]
      decide +kernel
  · obtain ⟨p, -, hr, hexpired⟩ := publishes (plainAnswers 1 17 ++ plainAnswers 5000 10)
      (fun before => decide (∃ merge ∈ before.answers.head?,
        before.cell.run.leaseExpiresAt ≤ merge.now)) (by decide +kernel)
    obtain ⟨merge, hhead, hexpiry⟩ := of_decide_eq_true hexpired
    refine ⟨p, ?_, fun hleased => ?_⟩
    · rw [hr]
      decide
    · exact absurd (hleased.2.2 merge hhead) (not_lt.mpr hexpiry)

end Navi.StateGraph
