import Mathlib
import Navi.Base.Dict
import Navi.Base.Index
import Navi.Base.System

/-!
# Consolidation jobs

Jobs wait in a table, are claimed for a lease, and are finished by the owner of the claim. A
worker holds the rows that it claimed, and consolidates each of them. A conversation that cannot
be consolidated goes to the dead letters; a converged goal whose case cannot be written raises,
and its job stays active until the lease has expired.
-/

namespace Navi.Memory

open Navi.Base

inductive JobStatus where
  | pending
  | active
  | completed
  | deadLetter
  | failed
  deriving DecidableEq

/-- `MemoryConsolidationJob`, a row of `memory_consolidation_jobs`. -/
structure Job where
  id : String
  sessionId : String
  runId : String
  source : String
  peerId : String
  senderId : String
  status : JobStatus
  owner : String
  leaseExpiresAt : Time
  attempts : Nat
  error : String
  createdAt : Time
  updatedAt : Time
  deriving DecidableEq

/-- A job that a worker has claimed, as its row was then; whether its case is written. -/
structure HeldJob where
  job : Job
  added : Bool
  deriving DecidableEq

structure CreatedCase where
  goalId : String
  jobId : String
  content : String
  deriving DecidableEq

/-- The table of the jobs, what the workers hold, the cases that were created and, of each job,
how often it was claimed since it was queued or last retried. -/
structure JobQueue where
  jobs : Table String Job (·.id)
  held : List HeldJob
  cases : List CreatedCase
  claims : String → Nat

def JobQueue.empty : JobQueue where
  jobs := .empty
  held := []
  cases := []
  claims _ := 0

/-- The order in which a claim selects, where jobs of one time may be in any. -/
structure QueueEngine where
  oldestFirst : List Job → List Job
  oldestFirst_perm : ∀ jobs, (oldestFirst jobs).Perm jobs
  oldestFirst_sorted : ∀ jobs, (oldestFirst jobs).Pairwise fun a b => a.updatedAt ≤ b.updatedAt

namespace JobQueue

/-! ## Enqueueing -/

/-- `ON CONFLICT(session_id, run_id)`. -/
def queued (s : JobQueue) (sessionId runId : String) : Bool :=
  s.jobs.rows.any fun job => job.sessionId = sessionId ∧ job.runId = runId

/-- `enqueue_consolidation`, under an id that is new. -/
def enqueue (s : JobQueue) (jobId sessionId runId source peerId senderId : String) (now : Time) :
    JobQueue :=
  if s.queued sessionId runId then s
  else
    { s with
      jobs := s.jobs.insertOrIgnore ⟨jobId, sessionId, runId, source, peerId, senderId, .pending,
        "", 0, 0, "", now, now⟩
      claims := fun id => if id = jobId then 0 else s.claims id }

/-- The source of the jobs of converged goals. -/
def goalConvergence : String := "goal_convergence"

/-- The session and the run of a goal's job. -/
def caseSession (goalId : String) : String := "case_precipitation:" ++ goalId

def caseRun (goalId : String) : String := "case:" ++ goalId

/-- `enqueue_case_precipitation`; the source that it is given is not used. -/
def enqueueCasePrecipitation (s : JobQueue) (jobId goalId peerId senderId : String) (now : Time) :
    JobQueue :=
  s.enqueue jobId (caseSession goalId) (caseRun goalId) goalConvergence peerId senderId now

/-- `job.session_id.split(":", 1)[-1]`. -/
def caseGoal (sessionId : String) : String :=
  match sessionId.toList.dropWhile (· ≠ ':') with
  | [] => sessionId
  | _ :: rest => String.ofList rest

/-! ## Claiming -/

/-- What failed in an earlier version is a dead letter. -/
def normalizeFailed (jobs : Table String Job (·.id)) (now : Time) : Table String Job (·.id) :=
  jobs.update (·.status = .failed)
    (fun job =>
      { job with status := .deadLetter, owner := "", leaseExpiresAt := 0, updatedAt := now })
    fun _ => rfl

def claimable (now : Time) (job : Job) : Bool :=
  job.status = .pending ∨ job.status = .active ∧ job.leaseExpiresAt ≤ now

/-- The ids of the jobs that a claim selects. -/
def selected (engine : QueueEngine) (jobs : Table String Job (·.id)) (limit : Int) (now : Time) :
    List String :=
  ((engine.oldestFirst (jobs.rows.filter (claimable now))).take (max 1 limit).toNat).map (·.id)

/-- The row of a job that is claimed. -/
def claimedRow (owner : String) (lease : Rat) (now : Time) (job : Job) : Job :=
  { job with
    status := .active
    owner := owner
    leaseExpiresAt := now + lease
    attempts := job.attempts + 1
    error := ""
    updatedAt := now }

/-- `claim_consolidation_jobs`; the worker holds what it is returned. -/
def claim (engine : QueueEngine) (s : JobQueue) (owner : String) (limit : Int) (lease : Rat)
    (now : Time) : JobQueue :=
  let jobs := normalizeFailed s.jobs now
  let ids := selected engine jobs limit now
  let after := jobs.update (fun job => job.id ∈ ids) (claimedRow owner lease now) fun _ => rfl
  { s with
    jobs := after
    held := s.held ++ (after.rows.filter fun job => job.id ∈ ids).map fun job => ⟨job, false⟩
    claims := fun id => if id ∈ ids then s.claims id + 1 else s.claims id }

/-! ## Finishing -/

/-- The row of a job that is finished. -/
def finishedRow (status : JobStatus) (error : String) (now : Time) (job : Job) : Job :=
  { job with
    status := status, owner := "", leaseExpiresAt := 0, error := error, updatedAt := now }

/-- `_finish_consolidation_job`. -/
def finishConsolidationJob (jobs : Table String Job (·.id)) (job : Job) (status : JobStatus)
    (error : String) (now : Time) : Table String Job (·.id) :=
  jobs.update (fun row => row.id = job.id ∧ row.owner = job.owner) (finishedRow status error now)
    fun _ => rfl

/-- What a call of `consolidate_job` comes to, where it finishes its job: the error of a
conversation that is not consolidated. -/
def outcomeStatus : Option String → JobStatus
  | none => .completed
  | some _ => .deadLetter

/-! ## Retries and pruning -/

/-- `retry_consolidation_jobs` for ids and a reason that are given. -/
def retryConsolidationJobs (s : JobQueue) (jobIds : List String) (now : Time) : JobQueue :=
  { s with
    jobs := s.jobs.update (fun job => job.id ∈ jobIds ∧ job.status = .deadLetter)
      (fun job =>
        { job with
          status := .pending, owner := "", leaseExpiresAt := 0, error := "", updatedAt := now })
      fun _ => rfl
    claims := fun id =>
      if s.jobs.rows.any fun job => job.id = id ∧ id ∈ jobIds ∧ job.status = .deadLetter then 0
      else s.claims id }

/-- `prune_consolidation_history`. -/
def pruneConsolidationHistory (s : JobQueue) (retention : Rat) (now : Time) : JobQueue :=
  { s with
    jobs := s.jobs.delete fun job => job.status = .completed ∧ job.updatedAt < now - retention }

end JobQueue

inductive JobLabel where
  | enqueue (jobId sessionId runId source peerId senderId : String) (now : Time)
  | enqueueCase (jobId goalId peerId senderId : String) (now : Time)
  | claim (owner : String) (limit : Int) (lease : Rat) (now : Time)
  /-- A worker has the answer to a converged goal and adds its case. -/
  | addCase (index : Nat) (content : String)
  /-- A worker finishes a job, with the error where it is a dead letter. -/
  | finish (index : Nat) (error : Option String) (now : Time)
  /-- A worker dies, or its call raises without finishing the job. -/
  | fail (index : Nat)
  | retry (jobIds : List String) (now : Time)
  | prune (retention : Rat) (now : Time)

namespace JobQueue

/-- An id that no job has and no worker holds. -/
def Fresh (s : JobQueue) (jobId : String) : Prop :=
  s.jobs.get? jobId = none ∧ ∀ held ∈ s.held, held.job.id ≠ jobId

instance (s : JobQueue) (jobId : String) : Decidable (s.Fresh jobId) := by
  unfold Fresh
  infer_instance

end JobQueue

/-- The jobs and their workers. Ids of jobs and owners of claims are drawn at random, and are new
where they are used. -/
def jobSystem (engine : QueueEngine) : System JobQueue JobLabel where
  step s
    | .enqueue jobId sessionId runId source peerId senderId now =>
        if s.Fresh jobId then
          some (s.enqueue jobId sessionId runId source peerId senderId now)
        else none
    | .enqueueCase jobId goalId peerId senderId now =>
        if s.Fresh jobId then some (s.enqueueCasePrecipitation jobId goalId peerId senderId now)
        else none
    | .claim owner limit lease now =>
        if owner ≠ "" ∧ (∀ held ∈ s.held, held.job.owner ≠ owner)
            ∧ ∀ job ∈ s.jobs.rows, job.owner ≠ owner then
          some (s.claim engine owner limit lease now)
        else none
    | .addCase index content =>
        (s.held[index]?).bind fun held =>
          -- no content ends the call without an item
          if held.job.source = JobQueue.goalConvergence ∧ held.added = false ∧ content ≠ "" then
            some
              { s with
                cases := s.cases ++ [⟨JobQueue.caseGoal held.job.sessionId, held.job.id, content⟩]
                held := s.held.set index { held with added := true } }
          else none
    | .finish index error now =>
        (s.held[index]?).bind fun held =>
          -- what goes wrong with a converged goal is not caught
          if held.job.source = JobQueue.goalConvergence ∧ error.isSome then none
          else
            some
              { s with
                jobs := JobQueue.finishConsolidationJob s.jobs held.job
                  (JobQueue.outcomeStatus error) (error.getD "") now
                held := s.held.eraseIdx index }
    | .fail index =>
        (s.held[index]?).map fun _ => { s with held := s.held.eraseIdx index }
    | .retry jobIds now => some (s.retryConsolidationJobs jobIds now)
    | .prune retention now => some (s.pruneConsolidationHistory retention now)

end Navi.Memory
