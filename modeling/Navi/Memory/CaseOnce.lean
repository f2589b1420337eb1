import Mathlib
import Navi.Memory.ConsolidationBounds

/-!
# The case of a converged goal

A converged goal is queued once while its row is there: the row is keyed by the goal. The case
item and the end of the job are written one after the other, and completed rows are pruned. A
case is written once where no job whose case is written is claimed or queued again, and no worker
that has lost its claim writes one.
-/

namespace Navi.Memory

open Navi.Base JobQueue

/-! ## The cases of a goal -/

/-- The cases that were created for a goal. -/
def JobQueue.casesOf (s : JobQueue) (goalId : String) : List CreatedCase :=
  s.cases.filter (·.goalId = goalId)

/-- A job that writes the case of a goal. -/
def Job.isCaseOf (goalId : String) (job : Job) : Prop :=
  job.source = goalConvergence ∧ caseGoal job.sessionId = goalId

instance (goalId : String) (job : Job) : Decidable (job.isCaseOf goalId) :=
  inferInstanceAs (Decidable (_ ∧ _))

/-- A goal is not queued again when its case is written and its row is gone, no job whose case is
written is active with a lease that has expired when jobs are claimed, and a worker that writes
the case still has its claim. -/
def CaseKept (goalId : String) (s : JobQueue) : JobLabel → Prop
  | .enqueue _ sessionId _ source _ _ _ => source = goalConvergence → caseGoal sessionId ≠ goalId
  | .enqueueCase _ goal _ _ _ =>
      goal = goalId → s.queued (caseSession goalId) (caseRun goalId) = true ∨ s.casesOf goalId = []
  | .claim _ _ _ now =>
      ∀ row ∈ s.jobs.rows, row.isCaseOf goalId → row.status = .active → row.leaseExpiresAt ≤ now →
        s.casesOf goalId = []
  | .addCase index _ =>
      ∀ held ∈ s.held[index]?, held.job.isCaseOf goalId → ∃ row ∈ s.jobs.rows, held.owns row
  | _ => True

instance (goalId : String) (s : JobQueue) : (label : JobLabel) → Decidable (CaseKept goalId s label)
  | .enqueue .. => inferInstanceAs (Decidable (_ → _))
  | .enqueueCase .. => inferInstanceAs (Decidable (_ → _))
  | .claim .. => inferInstanceAs (Decidable (∀ row ∈ s.jobs.rows, _))
  | .addCase index _ => inferInstanceAs (Decidable (∀ held ∈ s.held[index]?, _))
  | .finish .. => inferInstanceAs (Decidable True)
  | .fail _ => inferInstanceAs (Decidable True)
  | .retry .. => inferInstanceAs (Decidable True)
  | .prune .. => inferInstanceAs (Decidable True)

theorem caseGoal_caseSession (goalId : String) : caseGoal (caseSession goalId) = goalId := by
  unfold caseGoal caseSession
  rw [String.toList_append]
  simp

/-! ## The invariant -/

/-- A goal has at most one case and one job, which is the only one of its session and run. A
pending job has no owner and no case, and where there is a case the worker that has the claim has
written it.
Claims are told apart by job and owner, and a worker knows the source and the session of its
job. -/
structure CaseOnce (goalId : String) (s : JobQueue) : Prop where
  one : (s.casesOf goalId).length ≤ 1
  named : ∀ row ∈ s.jobs.rows, row.isCaseOf goalId →
    row.sessionId = caseSession goalId ∧ row.runId = caseRun goalId
  single : ∀ row ∈ s.jobs.rows, ∀ row' ∈ s.jobs.rows, row.isCaseOf goalId →
    row'.isCaseOf goalId → row.id = row'.id
  waiting : ∀ row ∈ s.jobs.rows, row.isCaseOf goalId → row.status = .pending →
    row.owner = "" ∧ s.casesOf goalId = []
  alive : ∀ row ∈ s.jobs.rows, row.isCaseOf goalId →
    row.status ≠ .deadLetter ∧ row.status ≠ .failed
  owners : ∀ held ∈ s.held, held.job.owner ≠ ""
  agrees : ∀ held ∈ s.held, ∀ row ∈ s.jobs.rows, held.owns row →
    row.source = held.job.source ∧ row.sessionId = held.job.sessionId
  distinct : (s.held.map fun held => (held.job.id, held.job.owner)).Nodup
  written : ∀ row ∈ s.jobs.rows, row.isCaseOf goalId → s.casesOf goalId ≠ [] →
    ∀ held ∈ s.held, held.owns row → held.added = true

section

variable {engine : QueueEngine} {s s' : JobQueue} {label : JobLabel} {goalId : String}

theorem caseOnce_empty : CaseOnce goalId .empty where
  one := Nat.zero_le 1
  named := List.forall_mem_nil _
  single := List.forall_mem_nil _
  waiting := List.forall_mem_nil _
  alive := List.forall_mem_nil _
  owners := List.forall_mem_nil _
  agrees := List.forall_mem_nil _
  distinct := List.nodup_nil
  written := List.forall_mem_nil _

/-- A step that writes no case and puts no worker keeps the invariant where every row is an old
one, up to what the invariant does not read, or has no owner. -/
theorem caseOnce_of (h : CaseOnce goalId s) (hcases : s'.cases = s.cases)
    (hheld : s'.held.Sublist s.held)
    (hrows : ∀ row ∈ s'.jobs.rows, ∃ old ∈ s.jobs.rows, old.id = row.id
      ∧ old.source = row.source ∧ old.sessionId = row.sessionId ∧ old.runId = row.runId
      ∧ (row.owner = old.owner ∨ row.owner = "")
      ∧ (old.isCaseOf goalId → row.status = old.status ∨ row.status = .completed)) :
    CaseOnce goalId s' := by
  have hsame : s'.casesOf goalId = s.casesOf goalId := by
    unfold JobQueue.casesOf
    rw [hcases]
  have hof : ∀ {old row : Job}, old.source = row.source → old.sessionId = row.sessionId →
      row.isCaseOf goalId → old.isCaseOf goalId := by
    rintro old row hsource hsession ⟨h1, h2⟩
    exact ⟨hsource.trans h1, by rw [hsession, h2]⟩
  have howns : ∀ {old row : Job} {held : HeldJob}, held ∈ s'.held → old.id = row.id →
      (row.owner = old.owner ∨ row.owner = "") → held.owns row → held.owns old := by
    rintro old row held hmem hid (howner | hnone) ⟨h1, h2⟩
    · exact ⟨hid.trans h1, howner.symm.trans h2⟩
    · exact absurd (h2.symm.trans hnone) (h.owners held (hheld.subset hmem))
  refine ⟨hsame ▸ h.one, ?_, ?_, ?_, ?_, fun held hmem => h.owners held (hheld.subset hmem), ?_,
    h.distinct.sublist (hheld.map _), ?_⟩
  · intro row hrow hcase
    obtain ⟨old, hold, -, hsource, hsession, hrun, -, -⟩ := hrows row hrow
    rw [← hsession, ← hrun]
    exact h.named old hold (hof hsource hsession hcase)
  · intro row hrow row' hrow' hcase hcase'
    obtain ⟨old, hold, hid, hsource, hsession, -⟩ := hrows row hrow
    obtain ⟨old', hold', hid', hsource', hsession', -⟩ := hrows row' hrow'
    rw [← hid, ← hid']
    exact h.single old hold old' hold' (hof hsource hsession hcase) (hof hsource' hsession' hcase')
  · intro row hrow hcase hpending
    obtain ⟨old, hold, -, hsource, hsession, -, howner, hstatus⟩ := hrows row hrow
    have hcase' := hof hsource hsession hcase
    rw [hsame]
    rcases hstatus hcase' with hkept | hdone
    · obtain ⟨hnone, hempty⟩ := h.waiting old hold hcase' (hkept.symm.trans hpending)
      exact ⟨howner.elim (fun howner => howner.trans hnone) id, hempty⟩
    · exact nomatch hpending.symm.trans hdone
  · intro row hrow hcase
    obtain ⟨old, hold, -, hsource, hsession, -, -, hstatus⟩ := hrows row hrow
    have hcase' := hof hsource hsession hcase
    rcases hstatus hcase' with hkept | hdone
    · rw [hkept]
      exact h.alive old hold hcase'
    · rw [hdone]
      exact ⟨nofun, nofun⟩
  · intro held hmem row hrow hrowns
    obtain ⟨old, hold, hid, hsource, hsession, -, howner, -⟩ := hrows row hrow
    rw [← hsource, ← hsession]
    exact h.agrees held (hheld.subset hmem) old hold (howns hmem hid howner hrowns)
  · intro row hrow hcase hwritten held hmem hrowns
    obtain ⟨old, hold, hid, hsource, hsession, -, howner, -⟩ := hrows row hrow
    rw [hsame] at hwritten
    exact h.written old hold (hof hsource hsession hcase) hwritten held (hheld.subset hmem)
      (howns hmem hid howner hrowns)

theorem caseOnce_enqueue {jobId sessionId runId source peerId senderId : String} {now : Time}
    (h : CaseOnce goalId s) (hfresh : s.Fresh jobId)
    (hcase : source = goalConvergence → caseGoal sessionId = goalId →
      (sessionId = caseSession goalId ∧ runId = caseRun goalId)
        ∧ (s.queued sessionId runId = true ∨ s.casesOf goalId = [])) :
    CaseOnce goalId (s.enqueue jobId sessionId runId source peerId senderId now) := by
  by_cases hqueued : s.queued sessionId runId = true
  · unfold JobQueue.enqueue
    rw [if_pos hqueued]
    exact h
  have hcases : (s.enqueue jobId sessionId runId source peerId senderId now).casesOf goalId
      = s.casesOf goalId := by
    unfold JobQueue.enqueue
    rw [if_neg hqueued]
    rfl
  have hheld : (s.enqueue jobId sessionId runId source peerId senderId now).held = s.held := by
    unfold JobQueue.enqueue
    rw [if_neg hqueued]
  -- an earlier job of the goal would have its session and its run
  have honly : source = goalConvergence → caseGoal sessionId = goalId →
      ∀ old ∈ s.jobs.rows, ¬ old.isCaseOf goalId := by
    intro hsource hgoal old hold hisCase
    obtain ⟨⟨hsession, hrun⟩, -⟩ := hcase hsource hgoal
    obtain ⟨hsession', hrun'⟩ := h.named old hold hisCase
    refine hqueued (List.any_eq_true.mpr ⟨old, hold, decide_eq_true ⟨?_, ?_⟩⟩)
    · rw [hsession', hsession]
    · rw [hrun', hrun]
  refine ⟨hcases ▸ h.one, ?_, ?_, ?_, ?_, hheld ▸ h.owners, ?_, hheld ▸ h.distinct, ?_⟩
  · intro row hrow hisCase
    rcases mem_enqueue_rows hfresh.1 hrow with hold | ⟨-, rfl⟩
    · exact h.named row hold hisCase
    · exact (hcase hisCase.1 hisCase.2).1
  · intro row hrow row' hrow' hisCase hisCase'
    rcases mem_enqueue_rows hfresh.1 hrow with hold | ⟨-, rfl⟩
    · rcases mem_enqueue_rows hfresh.1 hrow' with hold' | ⟨-, rfl⟩
      · exact h.single row hold row' hold' hisCase hisCase'
      · exact absurd hisCase (honly hisCase'.1 hisCase'.2 row hold)
    · rcases mem_enqueue_rows hfresh.1 hrow' with hold' | ⟨-, rfl⟩
      · exact absurd hisCase' (honly hisCase.1 hisCase.2 row' hold')
      · rfl
  · intro row hrow hisCase hpending
    rw [hcases]
    rcases mem_enqueue_rows hfresh.1 hrow with hold | ⟨-, rfl⟩
    · exact h.waiting row hold hisCase hpending
    · refine ⟨rfl, (hcase hisCase.1 hisCase.2).2.resolve_left hqueued⟩
  · intro row hrow hisCase
    rcases mem_enqueue_rows hfresh.1 hrow with hold | ⟨-, rfl⟩
    · exact h.alive row hold hisCase
    · exact ⟨nofun, nofun⟩
  · intro held hmem row hrow howns
    rw [hheld] at hmem
    rcases mem_enqueue_rows hfresh.1 hrow with hold | ⟨-, rfl⟩
    · exact h.agrees held hmem row hold howns
    · exact absurd howns.1.symm (hfresh.2 held hmem)
  · intro row hrow hisCase hwritten held hmem howns
    rw [hheld] at hmem
    rw [hcases] at hwritten
    rcases mem_enqueue_rows hfresh.1 hrow with hold | ⟨-, rfl⟩
    · exact h.written row hold hisCase hwritten held hmem howns
    · exact absurd howns.1.symm (hfresh.2 held hmem)

/-- A row after a claim: an old one that is now the new owner's, or one that was not selected. -/
theorem of_mem_claim_rows {owner : String} {limit : Int} {lease : Rat} {now : Time} {row : Job}
    (h : CaseOnce goalId s) (hrow : row ∈ (s.claim engine owner limit lease now).jobs.rows) :
    ∃ old ∈ s.jobs.rows, old.id = row.id ∧ old.source = row.source
      ∧ old.sessionId = row.sessionId ∧ old.runId = row.runId
      ∧ (row.id ∈ selected engine (normalizeFailed s.jobs now) limit now
          ∧ row.owner = owner ∧ row.status = .active
        ∨ row.id ∉ selected engine (normalizeFailed s.jobs now) limit now
          ∧ (row.owner = old.owner ∨ row.owner = "")
          ∧ (old.isCaseOf goalId → row.status = old.status)) := by
  obtain ⟨old, hold, rfl⟩ := mem_claim_rows.mp hrow
  have hnormal : (normalizedRow now old).source = old.source
      ∧ (normalizedRow now old).sessionId = old.sessionId
      ∧ (normalizedRow now old).runId = old.runId
      ∧ ((normalizedRow now old).owner = old.owner ∨ (normalizedRow now old).owner = "") := by
    unfold normalizedRow
    split
    · exact ⟨rfl, rfl, rfl, .inr rfl⟩
    · exact ⟨rfl, rfl, rfl, .inl rfl⟩
  obtain ⟨hsource, hsession, hrun, howner⟩ := hnormal
  refine ⟨old, hold, ?_⟩
  split
  next hid =>
    refine ⟨(normalizedRow_id now old).symm, hsource.symm, hsession.symm, hrun.symm, .inl ⟨?_, rfl,
      rfl⟩⟩
    show (normalizedRow now old).id ∈ _
    rwa [normalizedRow_id]
  next hid =>
    refine ⟨(normalizedRow_id now old).symm, hsource.symm, hsession.symm, hrun.symm,
      .inr ⟨?_, howner, fun hisCase => ?_⟩⟩
    · rwa [normalizedRow_id]
    · rw [normalizedRow_of_not_failed (h.alive old hold hisCase).2]

theorem no_case_of_selected {owner : String} {limit : Int} {lease : Rat} {now : Time} {old : Job}
    (h : CaseOnce goalId s) (hkept : CaseKept goalId s (.claim owner limit lease now))
    (hold : old ∈ s.jobs.rows) (hisCase : old.isCaseOf goalId)
    (hid : old.id ∈ selected engine (normalizeFailed s.jobs now) limit now) :
    s.casesOf goalId = [] := by
  obtain ⟨old', hold', hsame, hclaimable⟩ := claimable_of_mem_selected hid
  obtain rfl := Table.eq_of_key hold' hold hsame
  rw [normalizedRow_of_not_failed (h.alive old' hold hisCase).2] at hclaimable
  rcases of_decide_eq_true hclaimable with hpending | ⟨hactive, hexpired⟩
  · exact (h.waiting old' hold hisCase hpending).2
  · exact hkept old' hold hisCase hactive hexpired

theorem distinct_claim {owner : String} {limit : Int} {lease : Rat} {now : Time}
    (h : (s.held.map fun held => (held.job.id, held.job.owner)).Nodup)
    (hnew : ∀ held ∈ s.held, held.job.owner ≠ owner)
    (hrows : ∀ row ∈ (s.claim engine owner limit lease now).jobs.rows,
      row.id ∈ selected engine (normalizeFailed s.jobs now) limit now → row.owner = owner) :
    ((s.claim engine owner limit lease now).held.map
      fun held => (held.job.id, held.job.owner)).Nodup := by
  unfold JobQueue.claim
  dsimp only
  rw [List.map_append, List.map_map]
  refine List.Nodup.append h (List.Nodup.of_map Prod.fst ?_) ?_
  · rw [List.map_map]
    exact List.Nodup.sublist (List.filter_sublist.map _)
      (s.claim engine owner limit lease now).jobs.nodup
  · intro mark hold hmark
    obtain ⟨held, hheld, rfl⟩ := List.mem_map.mp hold
    obtain ⟨row, hrow, hsame⟩ := List.mem_map.mp hmark
    obtain ⟨hmem, hid⟩ := List.mem_filter.mp hrow
    have howner := hrows row hmem (of_decide_eq_true hid)
    exact hnew held hheld ((congrArg Prod.snd hsame).symm.trans howner)

theorem caseOnce_claim {owner : String} {limit : Int} {lease : Rat} {now : Time}
    (h : CaseOnce goalId s) (hkept : CaseKept goalId s (.claim owner limit lease now))
    (hnew : ∀ held ∈ s.held, held.job.owner ≠ owner) (hne : owner ≠ "") :
    CaseOnce goalId (s.claim engine owner limit lease now) := by
  have hrows : ∀ row ∈ (s.claim engine owner limit lease now).jobs.rows, _ :=
    fun row hrow => of_mem_claim_rows h hrow
  have hcases : (s.claim engine owner limit lease now).casesOf goalId = s.casesOf goalId := rfl
  have hof : ∀ {old row : Job}, old.source = row.source → old.sessionId = row.sessionId →
      row.isCaseOf goalId → old.isCaseOf goalId := by
    rintro old row hsource hsession ⟨h1, h2⟩
    exact ⟨hsource.trans h1, by rw [hsession, h2]⟩
  -- who held a row before holds the old row that it comes from, which was not selected
  have howned : ∀ held ∈ s.held, ∀ {old row : Job}, old.id = row.id → held.owns row →
      (row.id ∈ selected engine (normalizeFailed s.jobs now) limit now
          ∧ row.owner = owner ∧ row.status = .active
        ∨ row.id ∉ selected engine (normalizeFailed s.jobs now) limit now
          ∧ (row.owner = old.owner ∨ row.owner = "")
          ∧ (old.isCaseOf goalId → row.status = old.status)) → held.owns old := by
    rintro held hmem old row hid ⟨h1, h2⟩ (⟨-, howner, -⟩ | ⟨-, howner | hnone, -⟩)
    · exact absurd (h2.symm.trans howner) (hnew held hmem)
    · exact ⟨hid.trans h1, howner.symm.trans h2⟩
    · exact absurd (h2.symm.trans hnone) (h.owners held hmem)
  have hselected : ∀ row ∈ (s.claim engine owner limit lease now).jobs.rows,
      row.id ∈ selected engine (normalizeFailed s.jobs now) limit now → row.owner = owner := by
    intro row hrow hid
    obtain ⟨old, -, -, -, -, -, ⟨-, howner, -⟩ | ⟨hnot, -⟩⟩ := hrows row hrow
    · exact howner
    · exact absurd hid hnot
  refine ⟨h.one, ?_, ?_, ?_, ?_, ?_, ?_, distinct_claim h.distinct hnew hselected, ?_⟩
  · intro row hrow hisCase
    obtain ⟨old, hold, -, hsource, hsession, hrun, -⟩ := hrows row hrow
    rw [← hsession, ← hrun]
    exact h.named old hold (hof hsource hsession hisCase)
  · intro row hrow row' hrow' hisCase hisCase'
    obtain ⟨old, hold, hid, hsource, hsession, -⟩ := hrows row hrow
    obtain ⟨old', hold', hid', hsource', hsession', -⟩ := hrows row' hrow'
    rw [← hid, ← hid']
    exact h.single old hold old' hold' (hof hsource hsession hisCase)
      (hof hsource' hsession' hisCase')
  · intro row hrow hisCase hpending
    obtain ⟨old, hold, -, hsource, hsession, -, hhow⟩ := hrows row hrow
    have hisCase' := hof hsource hsession hisCase
    rcases hhow with ⟨-, -, hactive⟩ | ⟨-, howner, hstatus⟩
    · exact nomatch hpending.symm.trans hactive
    · obtain ⟨hnone, hempty⟩ := h.waiting old hold hisCase' ((hstatus hisCase').symm.trans hpending)
      exact ⟨howner.elim (fun howner => howner.trans hnone) id, hempty⟩
  · intro row hrow hisCase
    obtain ⟨old, hold, -, hsource, hsession, -, hhow⟩ := hrows row hrow
    have hisCase' := hof hsource hsession hisCase
    rcases hhow with ⟨-, -, hactive⟩ | ⟨-, -, hstatus⟩
    · rw [hactive]
      exact ⟨nofun, nofun⟩
    · rw [hstatus hisCase']
      exact h.alive old hold hisCase'
  · intro held hmem
    rcases mem_claim_held.mp hmem with hold | ⟨new, hrow, hid, rfl⟩
    · exact h.owners held hold
    · show new.owner ≠ ""
      rw [hselected new hrow hid]
      exact hne
  · intro held hmem row hrow howns
    rcases mem_claim_held.mp hmem with hold | ⟨new, hnewrow, hid, rfl⟩
    · obtain ⟨old, holdrow, hsame, hsource, hsession, -, hhow⟩ := hrows row hrow
      rw [← hsource, ← hsession]
      exact h.agrees held hold old holdrow (howned held hold hsame howns hhow)
    · obtain rfl := Table.eq_of_key hrow hnewrow howns.1
      exact ⟨rfl, rfl⟩
  · intro row hrow hisCase hwritten held hmem howns
    obtain ⟨old, holdrow, hsame, hsource, hsession, -, hhow⟩ := hrows row hrow
    have hisCase' := hof hsource hsession hisCase
    rcases mem_claim_held.mp hmem with hold | ⟨new, -, hid, rfl⟩
    · exact h.written old holdrow hisCase' hwritten held hold
        (howned held hold hsame howns hhow)
    · -- a job that was selected has no case
      have hidrow : old.id ∈ selected engine (normalizeFailed s.jobs now) limit now := by
        rw [hsame, howns.1]
        exact hid
      exact absurd (no_case_of_selected h hkept holdrow hisCase' hidrow) hwritten

theorem map_set_same {α β : Type} {f : α → β} {xs : List α} {index : Nat} {x y : α}
    (hx : xs[index]? = some x) (hf : f y = f x) : (xs.set index y).map f = xs.map f := by
  obtain ⟨hlt, rfl⟩ := List.getElem?_eq_some_iff.mp hx
  refine List.ext_getElem (by simp) fun i hi hi' => ?_
  rw [List.getElem_map, List.getElem_map, List.getElem_set]
  split
  next hsame =>
    subst hsame
    exact hf
  next => rfl

theorem caseOnce_addCase {index : Nat} {content : String} {held : HeldJob}
    (h : CaseOnce goalId s) (hkept : CaseKept goalId s (.addCase index content))
    (hheld : s.held[index]? = some held) (hsource : held.job.source = goalConvergence)
    (hadded : held.added = false) :
    CaseOnce goalId
      { s with
        cases := s.cases ++ [⟨caseGoal held.job.sessionId, held.job.id, content⟩]
        held := s.held.set index { held with added := true } } := by
  have hmem := List.mem_of_getElem? hheld
  have hback : ∀ other ∈ s.held.set index { held with added := true },
      ∃ old ∈ s.held, old.job = other.job := by
    intro other hother
    rcases List.mem_or_eq_of_mem_set hother with hold | rfl
    · exact ⟨other, hold, rfl⟩
    · exact ⟨held, hmem, rfl⟩
  have hmarks : (s.held.set index { held with added := true }).map
      (fun held => (held.job.id, held.job.owner))
        = s.held.map fun held => (held.job.id, held.job.owner) := by
    exact map_set_same hheld rfl
  have howners : ∀ other ∈ s.held.set index { held with added := true }, other.job.owner ≠ "" := by
    intro other hother
    obtain ⟨old, hold, hjob⟩ := hback other hother
    exact hjob ▸ h.owners old hold
  have hagrees : ∀ other ∈ s.held.set index { held with added := true }, ∀ row ∈ s.jobs.rows,
      other.owns row → row.source = other.job.source ∧ row.sessionId = other.job.sessionId := by
    intro other hother row hrow howns
    obtain ⟨old, hold, hjob⟩ := hback other hother
    have howns' : old.owns row := ⟨howns.1.trans (by rw [hjob]), howns.2.trans (by rw [hjob])⟩
    exact hjob ▸ h.agrees old hold row hrow howns'
  by_cases hgoal : caseGoal held.job.sessionId = goalId
  · obtain ⟨row, hrow, howns⟩ := hkept held hheld ⟨hsource, hgoal⟩
    obtain ⟨hrowSource, hrowSession⟩ := h.agrees held hmem row hrow howns
    have hisCase : row.isCaseOf goalId := ⟨hrowSource.trans hsource, by rw [hrowSession, hgoal]⟩
    have hnone : s.casesOf goalId = [] := by
      by_contra hwritten
      rw [h.written row hrow hisCase hwritten held hmem howns] at hadded
      exact nomatch hadded
    have honly : ∀ other ∈ s.jobs.rows, other.isCaseOf goalId → other = row :=
      fun other hother hcase => Table.eq_of_key hother hrow
        (h.single other hother row hrow hcase hisCase)
    refine ⟨?_, h.named, h.single, ?_, h.alive, howners, hagrees, hmarks ▸ h.distinct, ?_⟩
    · show (List.filter _ (s.cases ++ _)).length ≤ 1
      unfold JobQueue.casesOf at hnone
      rw [List.filter_append, hnone]
      exact (List.length_filter_le _ _).trans (le_refl _)
    · intro other hother hcase hpending
      obtain rfl := honly other hother hcase
      exact absurd (howns.2.symm.trans (h.waiting other hother hcase hpending).1)
        (h.owners held hmem)
    · intro other hother hcase _ holder hholder hholds
      obtain rfl := honly other hother hcase
      obtain ⟨i, hi⟩ := List.mem_iff_getElem?.mp hholder
      by_cases hsame : index = i
      · subst hsame
        rw [List.getElem?_set_self (List.getElem?_eq_some_iff.mp hheld).1] at hi
        exact Option.some.inj hi ▸ rfl
      · -- no other worker has the claim of this one
        rw [List.getElem?_set_ne hsame] at hi
        have hlength : index < (s.held.map fun held => (held.job.id, held.job.owner)).length := by
          rw [List.length_map]
          exact (List.getElem?_eq_some_iff.mp hheld).1
        have hmark : (s.held.map fun held => (held.job.id, held.job.owner))[index]?
            = (s.held.map fun held => (held.job.id, held.job.owner))[i]? := by
          rw [List.getElem?_map, List.getElem?_map, hheld, hi, Option.map_some, Option.map_some,
            ← howns.1, ← howns.2, hholds.1, hholds.2]
        exact absurd ((List.getElem?_inj hlength h.distinct).mp hmark) hsame
  · have hcases : ∀ cases : List CreatedCase,
        (cases ++ [CreatedCase.mk (caseGoal held.job.sessionId) held.job.id content]).filter
            (·.goalId = goalId)
          = cases.filter (·.goalId = goalId) := by
      intro cases
      rw [List.filter_append]
      refine List.append_right_eq_self.mpr (List.filter_eq_nil_iff.mpr fun new hnew => ?_)
      obtain rfl := List.mem_singleton.mp hnew
      exact fun hsame => hgoal (of_decide_eq_true hsame)
    refine ⟨?_, h.named, h.single, ?_, h.alive, howners, hagrees, hmarks ▸ h.distinct, ?_⟩
    · show (List.filter _ (s.cases ++ _)).length ≤ 1
      rw [hcases]
      exact h.one
    · intro row hrow hisCase hpending
      refine ⟨(h.waiting row hrow hisCase hpending).1, ?_⟩
      show List.filter _ (s.cases ++ _) = []
      rw [hcases]
      exact (h.waiting row hrow hisCase hpending).2
    · intro row hrow hisCase hwritten other hother howns
      have hwritten' : s.casesOf goalId ≠ [] := by
        intro hempty
        refine hwritten ?_
        show List.filter _ (s.cases ++ _) = []
        rw [hcases]
        exact hempty
      rcases List.mem_or_eq_of_mem_set hother with hold | rfl
      · exact h.written row hrow hisCase hwritten' other hold howns
      · rfl

theorem caseOnce_step (h : CaseOnce goalId s) (hkept : CaseKept goalId s label)
    (hstep : (jobSystem engine).step s label = some s') : CaseOnce goalId s' := by
  cases label with
  | enqueue jobId sessionId runId source peerId senderId now =>
      obtain ⟨hfresh, rfl⟩ := of_enqueue_step hstep
      exact caseOnce_enqueue h hfresh fun hsource hgoal => absurd hgoal (hkept hsource)
  | enqueueCase jobId goal peerId senderId now =>
      obtain ⟨hfresh, rfl⟩ := of_enqueueCase_step hstep
      refine caseOnce_enqueue h hfresh fun _ hgoal => ?_
      rw [caseGoal_caseSession] at hgoal
      subst hgoal
      exact ⟨⟨rfl, rfl⟩, hkept rfl⟩
  | claim owner limit lease now =>
      obtain ⟨⟨hne, hnew, -⟩, rfl⟩ := of_claim_step hstep
      exact caseOnce_claim h hkept hnew hne
  | addCase index content =>
      obtain ⟨held, hheld, ⟨hsource, hadded, -⟩, rfl⟩ := of_addCase_step hstep
      exact caseOnce_addCase h hkept hheld hsource hadded
  | finish index error now =>
      obtain ⟨held, hheld, hcaught, rfl⟩ := of_finish_step hstep
      have hmem := List.mem_of_getElem? hheld
      refine caseOnce_of h rfl (List.eraseIdx_sublist _ _) fun row hrow => ?_
      obtain ⟨old, hold, rfl⟩ := mem_finish_rows.mp hrow
      refine ⟨old, hold, ?_⟩
      split
      next howns =>
        refine ⟨rfl, rfl, rfl, rfl, .inr rfl, fun hisCase => .inr ?_⟩
        -- what goes wrong with a goal is not caught
        cases error with
        | none => rfl
        | some text =>
            obtain ⟨hsource, -⟩ := h.agrees held hmem old hold howns
            exact absurd ⟨hsource.symm.trans hisCase.1, rfl⟩ hcaught
      next => exact ⟨rfl, rfl, rfl, rfl, .inl rfl, fun _ => .inl rfl⟩
  | fail index =>
      obtain ⟨held, -, rfl⟩ := of_fail_step hstep
      exact caseOnce_of h rfl (List.eraseIdx_sublist _ _) fun row hrow =>
        ⟨row, hrow, rfl, rfl, rfl, rfl, .inl rfl, fun _ => .inl rfl⟩
  | retry jobIds now =>
      obtain rfl := Option.some.inj hstep
      refine caseOnce_of h rfl (List.Sublist.refl _) fun row hrow => ?_
      obtain ⟨old, hold, rfl⟩ := mem_retry_rows.mp hrow
      refine ⟨old, hold, ?_⟩
      split
      next hdead =>
        exact ⟨rfl, rfl, rfl, rfl, .inr rfl,
          fun hisCase => absurd hdead.2 (h.alive old hold hisCase).1⟩
      next => exact ⟨rfl, rfl, rfl, rfl, .inl rfl, fun _ => .inl rfl⟩
  | prune retention now =>
      obtain rfl := Option.some.inj hstep
      exact caseOnce_of h rfl (List.Sublist.refl _) fun row hrow =>
        ⟨row, (Table.mem_delete.mp hrow).1, rfl, rfl, rfl, rfl, .inl rfl, fun _ => .inl rfl⟩

end

/-- In a run whose steps keep the case of a goal, at most one case is created for it. -/
theorem case_created_once (engine : QueueEngine) (goalId : String) (labels : List JobLabel)
    (hkept : (jobSystem engine).Along (CaseKept goalId) .empty labels) (n : Nat) (s' : JobQueue)
    (hrun : (jobSystem engine).run .empty (labels.take n) = some s') :
    (s'.casesOf goalId).length ≤ 1 := by
  rw [← List.take_append_drop n labels, System.along_append] at hkept
  have honce : CaseOnce goalId s' := (jobSystem engine).run_preserves_along
    (fun s label s' h hkept => caseOnce_step h hkept) caseOnce_empty hkept.1 hrun
  exact honce.one

/-- A goal whose convergence is replayed before and after its case is written. -/
def replayedGoal : List JobLabel :=
  [.enqueueCase "job" "goal" "peer" "sender" 0, .claim "w" 10 300 0, .addCase 0 "case",
    .enqueueCase "job2" "goal" "peer" "sender" 1, .finish 0 none 2, .claim "v" 10 300 3]

/-- Its case is written once. -/
theorem replayed_goal_case_created_once :
    (((jobSystem oldestJobs).run .empty (replayedGoal.take 6)).map
      fun s' => decide ((s'.casesOf "goal").length ≤ 1)) = some true := by
  have hkept : (jobSystem oldestJobs).Along (CaseKept "goal") .empty replayedGoal := by
    decide +kernel
  obtain ⟨s', hs'⟩ : ∃ s', (jobSystem oldestJobs).run .empty (replayedGoal.take 6) = some s' :=
    ⟨_, rfl⟩
  rw [hs', Option.map_some, decide_eq_true (case_created_once oldestJobs "goal" replayedGoal hkept 6
    s' hs')]

/-! ## Goals with two cases -/

/-- The worker dies after it has written the case, and the job is claimed again when the lease
has expired. -/
def crashedAfterCase : List JobLabel :=
  [.enqueueCase "job" "goal" "peer" "sender" 0, .claim "w" 10 300 0, .addCase 0 "case", .fail 0,
    .claim "v" 10 300 300, .addCase 0 "case"]

/-- The lease expires while the model answers, and two workers write the case. -/
def expiredDuringAnswer : List JobLabel :=
  [.enqueueCase "job" "goal" "peer" "sender" 0, .claim "w" 10 300 0, .claim "v" 10 300 300,
    .addCase 1 "case", .addCase 0 "case"]

/-- The completed job is pruned, and the convergence is replayed. -/
def prunedThenReplayed : List JobLabel :=
  [.enqueueCase "job" "goal" "peer" "sender" 0, .claim "w" 10 300 0, .addCase 0 "case",
    .finish 0 none 1, .prune 10 20, .enqueueCase "job2" "goal" "peer" "sender" 20,
    .claim "v" 10 300 20, .addCase 0 "case"]

theorem two_cases_written :
    ([crashedAfterCase, expiredDuringAnswer, prunedThenReplayed].map fun labels =>
      ((jobSystem oldestJobs).run .empty labels).map fun s' => (s'.casesOf "goal").length)
        = [some 2, some 2, some 2] := by
  decide +kernel

/-- A goal can have two cases. -/
theorem converged_goal_has_two_cases :
    ¬ ∀ labels goalId s', (jobSystem oldestJobs).run .empty labels = some s' →
      (s'.casesOf goalId).length ≤ 1 := by
  intro honce
  have hruns := two_cases_written
  simp only [List.map_cons, List.cons.injEq, Option.map_eq_some_iff] at hruns
  obtain ⟨⟨s', hrun, htwo⟩, -⟩ := hruns
  have hle := honce crashedAfterCase "goal" s' hrun
  omega

end Navi.Memory
