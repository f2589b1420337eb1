import Mathlib
import Navi.Memory.Consolidation

/-!
# When consolidation jobs are exhausted

A claim is finished by its owner, and a worker that has lost its claim finishes nothing. What is
not finished is claimed again when the lease has expired, and nothing counts how often. Where
every claim is finished in time, every job is claimed once and then ended.
-/

namespace Navi.Memory

open Navi.Base JobQueue

/-! ## What is claimed -/

/-- A worker whose job has been claimed since leaves it as it is. -/
def SupersededSilent (engine : QueueEngine) (s : JobQueue) (label : JobLabel) : Prop :=
  ∀ index error now, label = .finish index error now →
    ∀ held row, s.held[index]? = some held → s.jobs.get? held.job.id = some row →
      row.attempts ≠ held.job.attempts →
        ∀ s' ∈ (jobSystem engine).step s label, s'.jobs.get? held.job.id = some row

/-- A job is claimed at most so often from when it was queued or last retried and, when no worker
is at it, it has ended if it was claimed. -/
structure Exhausted (bound : Nat) (id : String) (s : JobQueue) : Prop where
  claims : s.claims id ≤ bound
  ended : (∀ held ∈ s.held, held.job.id ≠ id) → ∀ row ∈ s.jobs.rows, row.id = id →
    s.claims id ≠ 0 → row.status = .completed ∨ row.status = .deadLetter

/-- The worker has the claim of this row. -/
def HeldJob.owns (held : HeldJob) (row : Job) : Prop :=
  row.id = held.job.id ∧ row.owner = held.job.owner

instance (held : HeldJob) (row : Job) : Decidable (held.owns row) :=
  inferInstanceAs (Decidable (_ ∧ _))

/-- No worker that has the claim of a job dies or raises, and its lease has not expired when jobs
are claimed. -/
def FinishedInTime (id : String) (s : JobQueue) : JobLabel → Prop
  | .claim _ _ _ now =>
      ∀ held ∈ s.held, ∀ row ∈ s.jobs.rows, row.id = id → held.owns row → now < row.leaseExpiresAt
  | .fail index => ∀ held ∈ s.held[index]?, ∀ row ∈ s.jobs.rows, row.id = id → ¬ held.owns row
  | _ => True

/-! ## What the steps do to the rows -/

section

variable {engine : QueueEngine} {s s' : JobQueue} {label : JobLabel} {row : Job}

theorem mem_update_rows {t : Table String Job (·.id)} {guard : Job → Bool} {set : Job → Job}
    {hset : ∀ r, (set r).id = r.id} :
    row ∈ (t.update guard set hset).rows
      ↔ ∃ old ∈ t.rows, (if guard old then set old else old) = row :=
  List.mem_map

/-- The row of a failed job after it is normalized. -/
def normalizedRow (now : Time) (job : Job) : Job :=
  if job.status = .failed then
    { job with status := .deadLetter, owner := "", leaseExpiresAt := 0, updatedAt := now }
  else job

theorem normalizedRow_id (now : Time) (job : Job) : (normalizedRow now job).id = job.id := by
  unfold normalizedRow
  split <;> rfl

theorem mem_normalizeFailed {now : Time} :
    row ∈ (normalizeFailed s.jobs now).rows ↔ ∃ old ∈ s.jobs.rows, normalizedRow now old = row := by
  refine mem_update_rows.trans (exists_congr fun old => and_congr_right fun _ => ?_)
  unfold normalizedRow
  simp only [decide_eq_true_eq]

theorem claimable_of_mem_selected {limit : Int} {now : Time} {id : String}
    (h : id ∈ selected engine (normalizeFailed s.jobs now) limit now) :
    ∃ old ∈ s.jobs.rows, old.id = id ∧ claimable now (normalizedRow now old) = true := by
  obtain ⟨job, hjob, rfl⟩ := List.mem_map.mp h
  have hfiltered := (engine.oldestFirst_perm _).mem_iff.mp (List.mem_of_mem_take hjob)
  obtain ⟨hmem, hclaimable⟩ := List.mem_filter.mp hfiltered
  obtain ⟨old, hold, rfl⟩ := mem_normalizeFailed.mp hmem
  exact ⟨old, hold, (normalizedRow_id now old).symm, hclaimable⟩

theorem mem_claim_rows {owner : String} {limit : Int} {lease : Rat} {now : Time} :
    row ∈ (s.claim engine owner limit lease now).jobs.rows
      ↔ ∃ old ∈ s.jobs.rows,
        (if old.id ∈ selected engine (normalizeFailed s.jobs now) limit now
          then claimedRow owner lease now (normalizedRow now old) else normalizedRow now old)
            = row := by
  refine (@mem_update_rows row (normalizeFailed s.jobs now)
    (fun job => job.id ∈ selected engine (normalizeFailed s.jobs now) limit now)
    (claimedRow owner lease now) fun _ => rfl).trans ?_
  constructor
  · rintro ⟨mid, hmid, hrow⟩
    obtain ⟨old, hold, rfl⟩ := mem_normalizeFailed.mp hmid
    refine ⟨old, hold, ?_⟩
    rw [normalizedRow_id] at hrow
    simpa using hrow
  · rintro ⟨old, hold, hrow⟩
    refine ⟨normalizedRow now old, mem_normalizeFailed.mpr ⟨old, hold, rfl⟩, ?_⟩
    rw [normalizedRow_id]
    simpa using hrow

theorem mem_claim_held {owner : String} {limit : Int} {lease : Rat} {now : Time} {held : HeldJob} :
    held ∈ (s.claim engine owner limit lease now).held
      ↔ held ∈ s.held ∨ ∃ row ∈ (s.claim engine owner limit lease now).jobs.rows,
        row.id ∈ selected engine (normalizeFailed s.jobs now) limit now ∧ held = ⟨row, false⟩ := by
  unfold JobQueue.claim
  dsimp only
  rw [List.mem_append, List.mem_map]
  simp only [List.mem_filter, decide_eq_true_eq]
  constructor
  · rintro (h | ⟨row, ⟨hrow, hid⟩, rfl⟩)
    · exact .inl h
    · exact .inr ⟨row, hrow, hid, rfl⟩
  · rintro (h | ⟨row, hrow, hid, rfl⟩)
    · exact .inl h
    · exact .inr ⟨row, ⟨hrow, hid⟩, rfl⟩

theorem normalizedRow_of_not_failed {now : Time} {job : Job} (h : job.status ≠ .failed) :
    normalizedRow now job = job := if_neg h

theorem mem_enqueue_rows {jobId sessionId runId source peerId senderId : String} {now : Time}
    (hfresh : s.jobs.get? jobId = none)
    (h : row ∈ (s.enqueue jobId sessionId runId source peerId senderId now).jobs.rows) :
    row ∈ s.jobs.rows ∨ s.queued sessionId runId = false
      ∧ row = ⟨jobId, sessionId, runId, source, peerId, senderId, .pending, "", 0, 0, "", now,
        now⟩ := by
  unfold JobQueue.enqueue at h
  split at h
  next => exact .inl h
  next hnot =>
    rcases (Table.mem_insertOrIgnore hfresh).mp h with hold | hnew
    · exact .inl hold
    · exact .inr ⟨by simpa using hnot, hnew⟩

theorem mem_eraseIdx_or {α : Type} {xs : List α} {index : Nat} {x : α} (h : x ∈ xs) :
    x ∈ xs.eraseIdx index ∨ xs[index]? = some x := by
  obtain ⟨i, hi⟩ := List.mem_iff_getElem?.mp h
  by_cases hsame : i = index
  · subst hsame
    exact .inr hi
  · exact .inl (List.mem_eraseIdx_iff_getElem?.mpr ⟨i, hsame, hi⟩)

/-! ## The steps -/

section

variable {jobId sessionId runId goalId source peerId senderId owner content : String}
  {error : Option String} {limit : Int} {lease : Rat} {now : Time} {index : Nat}

theorem of_enqueue_step (h : (jobSystem engine).step s
      (.enqueue jobId sessionId runId source peerId senderId now) = some s') :
    s.Fresh jobId ∧ s' = s.enqueue jobId sessionId runId source peerId senderId now := by
  obtain ⟨hfresh, hs'⟩ := Option.ite_none_right_eq_some.mp h
  exact ⟨hfresh, (Option.some.inj hs').symm⟩

theorem of_enqueueCase_step
    (h : (jobSystem engine).step s (.enqueueCase jobId goalId peerId senderId now) = some s') :
    s.Fresh jobId ∧ s' = s.enqueue jobId (caseSession goalId) (caseRun goalId) goalConvergence
      peerId senderId now := by
  obtain ⟨hfresh, hs'⟩ := Option.ite_none_right_eq_some.mp h
  exact ⟨hfresh, (Option.some.inj hs').symm⟩

theorem of_claim_step (h : (jobSystem engine).step s (.claim owner limit lease now) = some s') :
    (owner ≠ "" ∧ (∀ held ∈ s.held, held.job.owner ≠ owner)
        ∧ ∀ job ∈ s.jobs.rows, job.owner ≠ owner)
      ∧ s' = s.claim engine owner limit lease now := by
  obtain ⟨hfresh, hs'⟩ := Option.ite_none_right_eq_some.mp h
  exact ⟨hfresh, (Option.some.inj hs').symm⟩

theorem of_addCase_step (h : (jobSystem engine).step s (.addCase index content) = some s') :
    ∃ held, s.held[index]? = some held
      ∧ (held.job.source = goalConvergence ∧ held.added = false ∧ content ≠ "")
      ∧ s' =
        { s with
          cases := s.cases ++ [⟨caseGoal held.job.sessionId, held.job.id, content⟩]
          held := s.held.set index { held with added := true } } := by
  obtain ⟨held, hheld, hrest⟩ := Option.bind_eq_some_iff.mp h
  obtain ⟨hguard, hs'⟩ := Option.ite_none_right_eq_some.mp hrest
  exact ⟨held, hheld, hguard, (Option.some.inj hs').symm⟩

theorem of_finish_step (h : (jobSystem engine).step s (.finish index error now) = some s') :
    ∃ held, s.held[index]? = some held
      ∧ ¬ (held.job.source = goalConvergence ∧ error.isSome)
      ∧ s' =
        { s with
          jobs := finishConsolidationJob s.jobs held.job (outcomeStatus error) (error.getD "") now
          held := s.held.eraseIdx index } := by
  obtain ⟨held, hheld, hrest⟩ := Option.bind_eq_some_iff.mp h
  obtain ⟨hguard, hs'⟩ := Option.ite_none_left_eq_some.mp hrest
  exact ⟨held, hheld, hguard, (Option.some.inj hs').symm⟩

theorem of_fail_step (h : (jobSystem engine).step s (.fail index) = some s') :
    ∃ held, s.held[index]? = some held ∧ s' = { s with held := s.held.eraseIdx index } := by
  obtain ⟨held, hheld, rfl⟩ := Option.map_eq_some_iff.mp h
  exact ⟨held, hheld, rfl⟩

end

theorem mem_finish_rows {job : Job} {status : JobStatus} {error : String} {now : Time} :
    row ∈ (finishConsolidationJob s.jobs job status error now).rows
      ↔ ∃ old ∈ s.jobs.rows, (if old.id = job.id ∧ old.owner = job.owner
        then finishedRow status error now old else old) = row := by
  refine (@mem_update_rows row s.jobs (fun row => row.id = job.id ∧ row.owner = job.owner)
    (finishedRow status error now) fun _ => rfl).trans ?_
  simp only [decide_eq_true_eq]

theorem get?_finish {jobs : Table String Job (·.id)} {job : Job} {status : JobStatus}
    {error : String} {now : Time} {id : String} :
    (finishConsolidationJob jobs job status error now).get? id = (jobs.get? id).map fun row =>
      if row.id = job.id ∧ row.owner = job.owner then finishedRow status error now row else row :=
  (Table.get?_update jobs (fun row => row.id = job.id ∧ row.owner = job.owner)
    (finishedRow status error now) (fun _ => rfl) id).trans (by simp only [decide_eq_true_eq])

theorem mem_retry_rows {jobIds : List String} {now : Time} :
    row ∈ (s.retryConsolidationJobs jobIds now).jobs.rows
      ↔ ∃ old ∈ s.jobs.rows, (if old.id ∈ jobIds ∧ old.status = .deadLetter
        then { old with
          status := .pending, owner := "", leaseExpiresAt := 0, error := "", updatedAt := now }
        else old) = row := by
  refine (@mem_update_rows row s.jobs (fun job => job.id ∈ jobIds ∧ job.status = .deadLetter)
    (fun job =>
      { job with
        status := .pending, owner := "", leaseExpiresAt := 0, error := "", updatedAt := now })
    fun _ => rfl).trans ?_
  simp only [decide_eq_true_eq]

/-! ## A worker that has lost its claim -/

/-- A worker whose claim a row names is at the attempt that the row counts. -/
def Attempted (s : JobQueue) : Prop :=
  ∀ held ∈ s.held, held.job.owner ≠ ""
    ∧ ∀ row ∈ s.jobs.rows, held.owns row → row.attempts = held.job.attempts

theorem attempted_of (h : Attempted s)
    (hheld : ∀ held ∈ s'.held, ∃ old ∈ s.held, old.job = held.job)
    (hrows : ∀ row ∈ s'.jobs.rows, row.owner = "" ∨ ∃ old ∈ s.jobs.rows,
      old.id = row.id ∧ old.owner = row.owner ∧ old.attempts = row.attempts) :
    Attempted s' := by
  intro held hmem
  obtain ⟨old, hold, hjob⟩ := hheld held hmem
  obtain ⟨howner, hattempts⟩ := h old hold
  rw [hjob] at howner
  refine ⟨howner, fun row hrow howns => ?_⟩
  rcases hrows row hrow with hnone | ⟨row', hrow', hid, hsame, hcount⟩
  · exact absurd (howns.2.symm.trans hnone) howner
  · rw [← hcount, ← hjob]
    exact hattempts row' hrow' ⟨by rw [hid, howns.1, hjob], by rw [hsame, howns.2, hjob]⟩

theorem attempted_claim {owner : String} {limit : Int} {lease : Rat} {now : Time}
    (h : Attempted s) (hne : owner ≠ "") (hnew : ∀ held ∈ s.held, held.job.owner ≠ owner) :
    Attempted (s.claim engine owner limit lease now) := by
  intro held hmem
  rcases mem_claim_held.mp hmem with hold | ⟨new, hnewrow, hid, rfl⟩
  · refine ⟨(h held hold).1, fun row hrow howns => ?_⟩
    obtain ⟨old, holdrow, rfl⟩ := mem_claim_rows.mp hrow
    split at howns
    · -- the row is now the new owner's
      exact absurd howns.2.symm (hnew held hold)
    · rename_i hnot
      rw [if_neg hnot]
      unfold normalizedRow at howns ⊢
      split at howns
      · exact absurd howns.2.symm (h held hold).1
      · rename_i hfailed
        rw [if_neg hfailed]
        exact (h held hold).2 old holdrow howns
  · obtain ⟨old, hold, hnewis⟩ := mem_claim_rows.mp hnewrow
    have hidold : old.id = new.id := by
      rw [← hnewis]
      split
      · exact (normalizedRow_id now old).symm
      · exact (normalizedRow_id now old).symm
    rw [if_pos (hidold ▸ hid)] at hnewis
    refine ⟨by rw [← hnewis]; exact hne, fun row hrow howns => ?_⟩
    rw [Table.eq_of_key hrow hnewrow howns.1]

theorem attempted_step (h : Attempted s) (hstep : (jobSystem engine).step s label = some s') :
    Attempted s' := by
  have henqueue : ∀ {jobId sessionId runId source peerId senderId : String} {now : Time},
      s.Fresh jobId →
        Attempted (s.enqueue jobId sessionId runId source peerId senderId now) := by
    intro jobId sessionId runId source peerId senderId now hfresh
    refine attempted_of h ?_ fun row hrow => ?_
    · intro held hheld
      unfold JobQueue.enqueue at hheld
      split at hheld
      · exact ⟨held, hheld, rfl⟩
      · exact ⟨held, hheld, rfl⟩
    · rcases mem_enqueue_rows hfresh.1 hrow with hold | ⟨-, rfl⟩
      · exact .inr ⟨row, hold, rfl, rfl, rfl⟩
      · exact .inl rfl
  cases label with
  | enqueue jobId sessionId runId source peerId senderId now =>
      obtain ⟨hfresh, rfl⟩ := of_enqueue_step hstep
      exact henqueue hfresh
  | enqueueCase jobId goalId peerId senderId now =>
      obtain ⟨hfresh, rfl⟩ := of_enqueueCase_step hstep
      exact henqueue hfresh
  | claim owner limit lease now =>
      obtain ⟨⟨hne, hnew, -⟩, rfl⟩ := of_claim_step hstep
      exact attempted_claim h hne hnew
  | addCase index content =>
      obtain ⟨held, hheld, -, rfl⟩ := of_addCase_step hstep
      refine attempted_of h (fun other hother => ?_) fun row hrow =>
        .inr ⟨row, hrow, rfl, rfl, rfl⟩
      rcases List.mem_or_eq_of_mem_set hother with hold | rfl
      · exact ⟨other, hold, rfl⟩
      · exact ⟨held, List.mem_of_getElem? hheld, rfl⟩
  | finish index error now =>
      obtain ⟨held, -, -, rfl⟩ := of_finish_step hstep
      refine attempted_of h (fun other hother => ⟨other, List.mem_of_mem_eraseIdx hother, rfl⟩)
        fun row hrow => ?_
      obtain ⟨old, hold, rfl⟩ := mem_finish_rows.mp hrow
      split
      · exact .inl rfl
      · exact .inr ⟨old, hold, rfl, rfl, rfl⟩
  | fail index =>
      obtain ⟨held, -, rfl⟩ := of_fail_step hstep
      exact attempted_of h (fun other hother => ⟨other, List.mem_of_mem_eraseIdx hother, rfl⟩)
        fun row hrow => .inr ⟨row, hrow, rfl, rfl, rfl⟩
  | retry jobIds now =>
      obtain rfl := Option.some.inj hstep
      refine attempted_of h (fun other hother => ⟨other, hother, rfl⟩) fun row hrow => ?_
      obtain ⟨old, hold, rfl⟩ := mem_retry_rows.mp hrow
      split
      · exact .inl rfl
      · exact .inr ⟨old, hold, rfl, rfl, rfl⟩
  | prune retention now =>
      obtain rfl := Option.some.inj hstep
      exact attempted_of h (fun other hother => ⟨other, hother, rfl⟩) fun row hrow =>
        .inr ⟨row, (Table.mem_delete.mp hrow).1, rfl, rfl, rfl⟩

theorem Attempted.silent (h : Attempted s) : SupersededSilent engine s label := by
  rintro index error now rfl held row hheld hrow hattempts s' hs'
  obtain ⟨held', hheld', -, rfl⟩ := of_finish_step hs'
  obtain rfl := Option.some.inj (hheld.symm.trans hheld')
  obtain ⟨hmem, hid⟩ := Table.get?_eq_some_iff.mp hrow
  show (finishConsolidationJob s.jobs held.job _ _ _).get? held.job.id = some row
  rw [get?_finish, hrow, Option.map_some, if_neg]
  intro howns
  exact hattempts ((h held (List.mem_of_getElem? hheld)).2 row hmem howns)

/-! ## Claims that are finished in time -/

/-- The row of a job has not failed, was not claimed while it is pending, has its worker while it
is active, and was not claimed twice. -/
structure InTime (id : String) (s : JobQueue) : Prop where
  notFailed : ∀ row ∈ s.jobs.rows, row.id = id → row.status ≠ .failed
  pending : ∀ row ∈ s.jobs.rows, row.id = id → row.status = .pending → s.claims id = 0
  active : ∀ row ∈ s.jobs.rows, row.id = id → row.status = .active →
    ∃ held ∈ s.held, held.owns row
  claims : s.claims id ≤ 1

variable {id : String}

theorem inTime_empty : InTime id .empty where
  notFailed := List.forall_mem_nil _
  pending := List.forall_mem_nil _
  active := List.forall_mem_nil _
  claims := Nat.zero_le 1

theorem inTime_enqueue {jobId sessionId runId source peerId senderId : String} {now : Time}
    (h : InTime id s) (hfresh : s.Fresh jobId) :
    InTime id (s.enqueue jobId sessionId runId source peerId senderId now) := by
  by_cases hqueued : s.queued sessionId runId = true
  · unfold JobQueue.enqueue
    rw [if_pos hqueued]
    exact h
  have hclaims : (s.enqueue jobId sessionId runId source peerId senderId now).claims
      = fun id => if id = jobId then 0 else s.claims id := by
    unfold JobQueue.enqueue
    rw [if_neg hqueued]
  have hheld : (s.enqueue jobId sessionId runId source peerId senderId now).held = s.held := by
    unfold JobQueue.enqueue
    rw [if_neg hqueued]
  constructor
  · intro row hrow hid
    rcases mem_enqueue_rows hfresh.1 hrow with hold | ⟨-, rfl⟩
    · exact h.notFailed row hold hid
    · exact nofun
  · intro row hrow hid hpending
    rw [hclaims]
    rcases mem_enqueue_rows hfresh.1 hrow with hold | ⟨-, rfl⟩
    · show (if id = jobId then 0 else s.claims id) = 0
      rw [h.pending row hold hid hpending, ite_self]
    · exact if_pos hid.symm
  · intro row hrow hid hactive
    rw [hheld]
    rcases mem_enqueue_rows hfresh.1 hrow with hold | ⟨-, rfl⟩
    · exact h.active row hold hid hactive
    · exact nomatch hactive
  · rw [hclaims]
    show (if id = jobId then 0 else s.claims id) ≤ 1
    split
    · exact Nat.zero_le 1
    · exact h.claims

theorem pending_of_selected {owner : String} {limit : Int} {lease : Rat} {now : Time}
    (h : InTime id s) (hin : FinishedInTime id s (.claim owner limit lease now))
    (hid : id ∈ selected engine (normalizeFailed s.jobs now) limit now) :
    ∃ old ∈ s.jobs.rows, old.id = id ∧ old.status = .pending := by
  obtain ⟨old, hold, hidold, hclaimable⟩ := claimable_of_mem_selected hid
  rw [normalizedRow_of_not_failed (h.notFailed old hold hidold)] at hclaimable
  rcases of_decide_eq_true hclaimable with hpending | ⟨hactive, hexpired⟩
  · exact ⟨old, hold, hidold, hpending⟩
  · -- its worker would still have the lease
    obtain ⟨held, hheld, howns⟩ := h.active old hold hidold hactive
    exact absurd hexpired (not_le.mpr (hin held hheld old hold hidold howns))

theorem inTime_claim {owner : String} {limit : Int} {lease : Rat} {now : Time} (h : InTime id s)
    (hin : FinishedInTime id s (.claim owner limit lease now)) :
    InTime id (s.claim engine owner limit lease now) := by
  have hrows : ∀ row ∈ (s.claim engine owner limit lease now).jobs.rows, row.id = id →
      (row ∈ s.jobs.rows ∧ id ∉ selected engine (normalizeFailed s.jobs now) limit now)
        ∨ id ∈ selected engine (normalizeFailed s.jobs now) limit now
          ∧ row.status = .active := by
    intro row hrow hid
    obtain ⟨old, hold, rfl⟩ := mem_claim_rows.mp hrow
    have hidold : old.id = id := by
      rw [← hid]
      split
      · exact (normalizedRow_id now old).symm
      · exact (normalizedRow_id now old).symm
    rw [normalizedRow_of_not_failed (h.notFailed old hold hidold), hidold]
    split
    · exact .inr ⟨‹_›, rfl⟩
    · exact .inl ⟨hold, ‹_›⟩
  have hclaims : (s.claim engine owner limit lease now).claims id
      = if id ∈ selected engine (normalizeFailed s.jobs now) limit now then s.claims id + 1
        else s.claims id := rfl
  constructor
  · intro row hrow hid
    rcases hrows row hrow hid with ⟨hold, -⟩ | ⟨-, hactive⟩
    · exact h.notFailed row hold hid
    · rw [hactive]
      exact nofun
  · intro row hrow hid hpending
    rcases hrows row hrow hid with ⟨hold, hnot⟩ | ⟨-, hactive⟩
    · rw [hclaims, if_neg hnot]
      exact h.pending row hold hid hpending
    · rw [hactive] at hpending
      exact nomatch hpending
  · intro row hrow hid hactive
    rcases hrows row hrow hid with ⟨hold, -⟩ | ⟨hsel, -⟩
    · obtain ⟨held, hheld, howns⟩ := h.active row hold hid hactive
      exact ⟨held, mem_claim_held.mpr (.inl hheld), howns⟩
    · rw [← hid] at hsel
      exact ⟨⟨row, false⟩, mem_claim_held.mpr (.inr ⟨row, hrow, hsel, rfl⟩), rfl, rfl⟩
  · rw [hclaims]
    split
    next hid =>
      obtain ⟨old, hold, hidold, hpending⟩ := pending_of_selected h hin hid
      rw [h.pending old hold hidold hpending]
    next => exact h.claims

theorem inTime_finish {held : HeldJob} {index : Nat} {error : Option String} {now : Time}
    (h : InTime id s) (hheld : s.held[index]? = some held) :
    InTime id
      { s with
        jobs := finishConsolidationJob s.jobs held.job (outcomeStatus error) (error.getD "") now
        held := s.held.eraseIdx index } := by
  have hended : outcomeStatus error = .completed ∨ outcomeStatus error = .deadLetter := by
    cases error with
    | none => exact .inl rfl
    | some text => exact .inr rfl
  have hrows : ∀ row ∈ (finishConsolidationJob s.jobs held.job (outcomeStatus error)
      (error.getD "") now).rows, (row ∈ s.jobs.rows ∧ ¬ held.owns row)
        ∨ row.status = .completed ∨ row.status = .deadLetter := by
    intro row hrow
    obtain ⟨old, hold, rfl⟩ := mem_finish_rows.mp hrow
    split
    · exact .inr hended
    · exact .inl ⟨hold, ‹_›⟩
  constructor
  · intro row hrow hid
    rcases hrows row hrow with ⟨hold, -⟩ | hend | hend
    · exact h.notFailed row hold hid
    · simp [hend]
    · simp [hend]
  · intro row hrow hid hpending
    rcases hrows row hrow with ⟨hold, -⟩ | hend | hend
    · exact h.pending row hold hid hpending
    · exact nomatch hend.symm.trans hpending
    · exact nomatch hend.symm.trans hpending
  · intro row hrow hid hactive
    rcases hrows row hrow with ⟨hold, hnot⟩ | hend | hend
    · obtain ⟨other, hother, howns⟩ := h.active row hold hid hactive
      rcases @mem_eraseIdx_or HeldJob s.held index other hother with hkept | hsame
      · exact ⟨other, hkept, howns⟩
      · obtain rfl := Option.some.inj (hheld.symm.trans hsame)
        exact absurd howns hnot
    · exact nomatch hend.symm.trans hactive
    · exact nomatch hend.symm.trans hactive
  · exact h.claims

theorem inTime_retry {jobIds : List String} {now : Time} (h : InTime id s) :
    InTime id (s.retryConsolidationJobs jobIds now) := by
  have hrows : ∀ row ∈ (s.retryConsolidationJobs jobIds now).jobs.rows,
      row ∈ s.jobs.rows ∨ row.status = .pending ∧ ∃ old ∈ s.jobs.rows,
        old.id = row.id ∧ row.id ∈ jobIds ∧ old.status = .deadLetter := by
    intro row hrow
    obtain ⟨old, hold, rfl⟩ := mem_retry_rows.mp hrow
    split
    next hguard => exact .inr ⟨rfl, old, hold, rfl, hguard⟩
    next => exact .inl hold
  have hclaims : (s.retryConsolidationJobs jobIds now).claims id = 0
      ∨ (s.retryConsolidationJobs jobIds now).claims id = s.claims id := by
    unfold retryConsolidationJobs
    dsimp only
    split
    · exact .inl rfl
    · exact .inr rfl
  constructor
  · intro row hrow hid
    rcases hrows row hrow with hold | ⟨hpending, -⟩
    · exact h.notFailed row hold hid
    · simp [hpending]
  · intro row hrow hid hpending
    rcases hrows row hrow with hold | ⟨-, old, hold, hidold, hin, hdead⟩
    · rcases hclaims with hzero | hsame
      · exact hzero
      · rw [hsame]
        exact h.pending row hold hid hpending
    · rw [hid] at hidold hin
      exact if_pos (List.any_eq_true.mpr ⟨old, hold, decide_eq_true ⟨hidold, hin, hdead⟩⟩)
  · intro row hrow hid hactive
    rcases hrows row hrow with hold | ⟨hpending, -⟩
    · exact h.active row hold hid hactive
    · exact nomatch hpending.symm.trans hactive
  · rcases hclaims with hzero | hsame
    · rw [hzero]
      exact Nat.zero_le 1
    · rw [hsame]
      exact h.claims

theorem inTime_step (h : InTime id s) (hin : FinishedInTime id s label)
    (hstep : (jobSystem engine).step s label = some s') : InTime id s' := by
  cases label with
  | enqueue jobId sessionId runId source peerId senderId now =>
      obtain ⟨hfresh, rfl⟩ := of_enqueue_step hstep
      exact inTime_enqueue h hfresh
  | enqueueCase jobId goalId peerId senderId now =>
      obtain ⟨hfresh, rfl⟩ := of_enqueueCase_step hstep
      exact inTime_enqueue h hfresh
  | claim owner limit lease now =>
      obtain ⟨-, rfl⟩ := of_claim_step hstep
      exact inTime_claim h hin
  | addCase index content =>
      obtain ⟨held, hheld, -, rfl⟩ := of_addCase_step hstep
      refine ⟨h.notFailed, h.pending, fun row hrow hid hactive => ?_, h.claims⟩
      obtain ⟨other, hother, howns⟩ := h.active row hrow hid hactive
      obtain ⟨i, hi⟩ := List.mem_iff_getElem?.mp hother
      by_cases hsame : index = i
      · subst hsame
        obtain rfl := Option.some.inj (hheld.symm.trans hi)
        refine ⟨{ held with added := true }, ?_, howns⟩
        exact List.mem_set (List.getElem?_eq_some_iff.mp hheld).1 _
      · refine ⟨other, List.mem_iff_getElem?.mpr ⟨i, ?_⟩, howns⟩
        rw [← hi]
        exact List.getElem?_set_ne hsame
  | finish index error now =>
      obtain ⟨held, hheld, -, rfl⟩ := of_finish_step hstep
      exact inTime_finish h hheld
  | fail index =>
      obtain ⟨held, hheld, rfl⟩ := of_fail_step hstep
      refine ⟨h.notFailed, h.pending, fun row hrow hid hactive => ?_, h.claims⟩
      obtain ⟨other, hother, howns⟩ := h.active row hrow hid hactive
      rcases @mem_eraseIdx_or HeldJob s.held index other hother with hkept | hsame
      · exact ⟨other, hkept, howns⟩
      · exact absurd howns (hin other hsame row hrow hid)
  | retry jobIds now =>
      obtain rfl := Option.some.inj hstep
      exact inTime_retry h
  | prune retention now =>
      obtain rfl := Option.some.inj hstep
      have hback : ∀ row ∈ (s.pruneConsolidationHistory retention now).jobs.rows,
          row ∈ s.jobs.rows := fun row hrow => (Table.mem_delete.mp hrow).1
      exact ⟨fun row hrow => h.notFailed row (hback row hrow),
        fun row hrow => h.pending row (hback row hrow),
        fun row hrow => h.active row (hback row hrow), h.claims⟩

theorem InTime.exhausted (h : InTime id s) : Exhausted 1 id s where
  claims := h.claims
  ended hnone row hrow hid hclaimed := by
    cases hstatus : row.status with
    | pending => exact absurd (h.pending row hrow hid hstatus) hclaimed
    | active =>
        obtain ⟨held, hheld, howns⟩ := h.active row hrow hid hstatus
        exact absurd (howns.1.symm.trans hid) (hnone held hheld)
    | completed => exact .inl rfl
    | deadLetter => exact .inr rfl
    | failed => exact absurd hstatus (h.notFailed row hrow hid)

end

theorem superseded_silent (engine : QueueEngine) (labels : List JobLabel) :
    (jobSystem engine).Along (SupersededSilent engine) .empty labels := by
  have hstart : Attempted JobQueue.empty := fun held hheld => absurd hheld List.not_mem_nil
  have hany : ∀ (labels : List JobLabel) (s : JobQueue),
      (jobSystem engine).Along (fun _ _ => True) s labels := by
    intro labels
    induction labels with
    | nil => intro s; trivial
    | cons label labels ih => intro s; exact ⟨trivial, fun s' _ => ih s'⟩
  exact (jobSystem engine).along_of_invariant (fun s label s' h _ => attempted_step h)
    (fun s label h _ => h.silent) hstart (hany labels .empty)

/-- A worker that has lost its claim finishes nothing, and a job whose claims are all finished in
time is claimed once and has then ended. -/
theorem consolidation_exhausted (engine : QueueEngine) (labels : List JobLabel) :
    (jobSystem engine).Along (SupersededSilent engine) .empty labels
      ∧ ∀ id, (jobSystem engine).Along (FinishedInTime id) .empty labels →
        ∀ n s', (jobSystem engine).run .empty (labels.take n) = some s' → Exhausted 1 id s' := by
  refine ⟨superseded_silent engine labels, fun id halong n s' hrun => ?_⟩
  rw [← List.take_append_drop n labels, System.along_append] at halong
  have hinTime : InTime id s' := (jobSystem engine).run_preserves_along
    (fun s label s' h hin => inTime_step h hin) inTime_empty halong.1 hrun
  exact hinTime.exhausted

/-! ## A goal whose case is never written -/

/-- A job whose worker has raised is claimed again when the lease has expired, and can raise
again. -/
theorem reclaimed {engine : QueueEngine} {s : JobQueue} {row : Job} (hrows : s.jobs.rows = [row])
    (hheld : s.held = []) (hactive : row.status = .active) :
    ∃ s' row', (jobSystem engine).run s
        [.claim (row.owner ++ "w") 1 300 row.leaseExpiresAt, .fail 0] = some s'
      ∧ s'.jobs.rows = [row'] ∧ s'.held = [] ∧ row'.status = .active ∧ row'.id = row.id
      ∧ s'.claims row.id = s.claims row.id + 1 := by
  have hne : row.owner ≠ row.owner ++ "w" := by
    intro hsame
    have hlength := congrArg String.length hsame
    rw [String.length_append] at hlength
    exact absurd hlength (Nat.ne_of_lt (Nat.lt_succ_self _))
  have howner : row.owner ++ "w" ≠ "" := by
    intro hempty
    have hlength := congrArg String.length hempty
    rw [String.length_append] at hlength
    exact absurd hlength (Nat.succ_ne_zero _)
  have hnormal : (normalizeFailed s.jobs row.leaseExpiresAt).rows = [row] := by
    show (s.jobs.rows).map _ = [row]
    rw [hrows]
    simp [hactive]
  have hselected : selected engine (normalizeFailed s.jobs row.leaseExpiresAt) 1
      row.leaseExpiresAt = [row.id] := by
    unfold selected
    rw [hnormal]
    have hclaimable : claimable row.leaseExpiresAt row = true :=
      decide_eq_true (.inr ⟨hactive, le_refl _⟩)
    rw [List.filter_cons_of_pos hclaimable, List.filter_nil,
      List.perm_singleton.mp (engine.oldestFirst_perm [row])]
    rfl
  have hclaimed : (s.claim engine (row.owner ++ "w") 1 300 row.leaseExpiresAt).jobs.rows
      = [claimedRow (row.owner ++ "w") 300 row.leaseExpiresAt row] := by
    show ((normalizeFailed s.jobs row.leaseExpiresAt).rows).map _ = _
    rw [hnormal, hselected]
    simp
  have hclaims : (s.claim engine (row.owner ++ "w") 1 300 row.leaseExpiresAt).claims row.id
      = s.claims row.id + 1 := by
    show (if row.id ∈ selected engine _ 1 row.leaseExpiresAt then _ else _) = _
    rw [hselected, if_pos (List.mem_singleton_self _)]
  have hworker : (s.claim engine (row.owner ++ "w") 1 300 row.leaseExpiresAt).held
      = [⟨claimedRow (row.owner ++ "w") 300 row.leaseExpiresAt row, false⟩] := by
    show s.held ++ ((s.claim engine (row.owner ++ "w") 1 300 row.leaseExpiresAt).jobs.rows.filter
      fun job => job.id ∈ selected engine _ 1 row.leaseExpiresAt).map _ = _
    rw [hheld, hclaimed, hselected]
    simp [claimedRow]
  have hfresh : row.owner ++ "w" ≠ "" ∧ (∀ held ∈ s.held, held.job.owner ≠ row.owner ++ "w")
      ∧ ∀ job ∈ s.jobs.rows, job.owner ≠ row.owner ++ "w" := by
    rw [hrows, hheld]
    exact ⟨howner, List.forall_mem_nil _, List.forall_mem_singleton.mpr hne⟩
  refine ⟨{ s.claim engine (row.owner ++ "w") 1 300 row.leaseExpiresAt with held := [] }, _, ?_,
    hclaimed, rfl, rfl, rfl, hclaims⟩
  have hclaim : (jobSystem engine).step s (.claim (row.owner ++ "w") 1 300 row.leaseExpiresAt)
      = some (s.claim engine (row.owner ++ "w") 1 300 row.leaseExpiresAt) := if_pos hfresh
  have hfail : (jobSystem engine).step (s.claim engine (row.owner ++ "w") 1 300 row.leaseExpiresAt)
      (.fail 0)
      = some { s.claim engine (row.owner ++ "w") 1 300 row.leaseExpiresAt with held := [] } := by
    show Option.map _ ((s.claim engine _ 1 300 row.leaseExpiresAt).held[0]?) = _
    rw [hworker]
    rfl
  rw [System.run_cons, hclaim, Option.bind_some, System.run_cons, hfail]
  rfl

theorem reclaimed_often {engine : QueueEngine} {row : Job} (count : Nat) :
    ∀ s : JobQueue, s.jobs.rows = [row] → s.held = [] → row.status = .active →
      ∃ labels s', (jobSystem engine).run s labels = some s'
        ∧ s'.claims row.id = s.claims row.id + count := by
  induction count generalizing row with
  | zero => exact fun s _ _ _ => ⟨[], s, rfl, rfl⟩
  | succ count ih =>
      intro s hrows hheld hactive
      obtain ⟨mid, row', hmid, hrows', hheld', hactive', hid, hclaims⟩ :=
        @reclaimed engine s row hrows hheld hactive
      obtain ⟨labels, s', hrun, hcount⟩ := ih mid hrows' hheld' hactive'
      refine ⟨[.claim (row.owner ++ "w") 1 300 row.leaseExpiresAt, .fail 0] ++ labels, s', ?_, ?_⟩
      · rw [System.run_append, hmid]
        exact hrun
      · rw [← hid, hcount, hid, hclaims]
        omega

/-- Jobs in the order of their last change. -/
def oldestJobs : QueueEngine where
  oldestFirst jobs := jobs.insertionSort fun a b => a.updatedAt ≤ b.updatedAt
  oldestFirst_perm jobs := List.perm_insertionSort _ jobs
  oldestFirst_sorted jobs := List.pairwise_insertionSort _ jobs

/-- A converged goal is queued, and its worker raises. -/
def raisingGoal : List JobLabel :=
  [.enqueueCase "job" "goal" "peer" "sender" 0, .claim "w" 10 300 0, .fail 0]

/-- Its job, which is active until its lease has expired. -/
def raisedJob : Job :=
  ⟨"job", "case_precipitation:goal", "case:goal", "goal_convergence", "peer", "sender", .active,
    "w", 300, 1, "", 0, 0⟩

theorem raisingGoal_active :
    ∃ s', (jobSystem oldestJobs).run .empty raisingGoal = some s'
      ∧ s'.jobs.rows = [raisedJob] ∧ s'.held = [] := by
  exact ⟨_, rfl, by decide +kernel, by decide +kernel⟩

/-- No number of claims exhausts a job. -/
theorem raising_goal_is_reclaimed :
    ¬ ∃ bound, ∀ labels s' id, (jobSystem oldestJobs).run .empty labels = some s' →
      s'.claims id ≤ bound := by
  rintro ⟨bound, hbound⟩
  obtain ⟨mid, hmid, hrows, hheld⟩ := raisingGoal_active
  obtain ⟨labels, s', hrun, hclaims⟩ :=
    @reclaimed_often oldestJobs raisedJob (bound + 1) mid hrows hheld rfl
  have hle := hbound (raisingGoal ++ labels) s' raisedJob.id (by
    rw [System.run_append, hmid]
    exact hrun)
  omega

end Navi.Memory
