import Mathlib.Data.List.Sort
import NewsCraft.Jobs.Types
import NewsCraft.Publishing.Models

/-!
# The job repository

`JobRepository` as functions on the tables it reads and writes. Each method is one
transaction that locks a row, checks it and writes it back, or raises. What it writes to the
row is a function on `WorkflowJob` of its own.

The audit events and the rows of other domains that follow a job's fate are not part of the
model, except the publish rows, which decide whether an expired lease needs review.
-/

namespace NewsCraft.Jobs

open Lib Publishing

structure JobsDb where
  jobs : Table WorkflowJob
  publishing : Table PublishRecord
  globalPause : Bool

/-- The exceptions a repository method raises; each rolls its transaction back. -/
inductive JobError where
  | invalidTransition (jobId : UUID) (action : String) (status : Option JobStatus)
  | capabilityUnavailable (jobType : String)
  | valueError (message : String)
  | typeError (message : String)
  | integrityError (constraint : String)
  deriving DecidableEq

/-- `_invalid`: the transition `action` is not open to the job as it is. -/
def invalid (jobId : UUID) (action : String) (job : Option WorkflowJob) : JobError :=
  .invalidTransition jobId action (job.map WorkflowJob.status)

/-! ## The columns each transition writes -/

namespace WorkflowJob

/-- `_clear_lease`. -/
def clearLease (job : WorkflowJob) : WorkflowJob :=
  { job with leaseOwner := none, leaseExpiresAt := none, heartbeatAt := none }

/-- `_has_active_lease`. -/
def hasActiveLease (job : WorkflowJob) (workerId : String) (now : Datetime) : Bool :=
  job.status = .running && job.leaseOwner = some workerId && match job.leaseExpiresAt with
      | none => false
      | some expiresAt => decide (expiresAt > now)

def claimed (job : WorkflowJob) (workerId : String) (leaseSeconds : Int)
    (observedAt : Datetime) : WorkflowJob :=
  { job with
    status := .running
    attemptCount := job.attemptCount + 1
    leaseOwner := some workerId
    leaseExpiresAt := some (observedAt + timedeltaSeconds leaseSeconds)
    heartbeatAt := some observedAt
    startedAt := some observedAt
    finishedAt := none
    progress := 0
    progressMessage := none
    errorClass := none
    errorCode := none
    errorMessage := none }

def heartbeat (R : Redaction) (job : WorkflowJob) (leaseSeconds : Int) (progress : Option Int)
    (progressMessage : Option String) (observedAt : Datetime) : WorkflowJob :=
  { job with
    heartbeatAt := some observedAt
    leaseExpiresAt := some (observedAt + timedeltaSeconds leaseSeconds)
    progress := progress.getD job.progress
    progressMessage := (progressMessage.map R.redactText).or job.progressMessage }

def progressed (R : Redaction) (job : WorkflowJob) (progress : Int)
    (progressMessage : Option String) : WorkflowJob :=
  { job with
    progress := max 0 (min 100 progress)
    progressMessage := (progressMessage.map R.redactText).or job.progressMessage }

def checkpointed (R : Redaction) (job : WorkflowJob) (payload result : Option Json) :
    WorkflowJob :=
  { job with
    payload := payload.getD job.payload
    result := (result.map R.redactSecrets).getD job.result }

def finished (R : Redaction) (job : WorkflowJob) (result : Json) (observedAt : Datetime) :
    WorkflowJob :=
  clearLease { job with
      status := .succeeded
      result := R.redactSecrets result
      progress := 100
      finishedAt := some observedAt }

def failed (R : Redaction) (job : WorkflowJob) (errorClass : JobErrorClass)
    (errorCode errorMessage : String) (retryAt : Option Datetime) (observedAt : Datetime) :
    WorkflowJob :=
  let job :=
    clearLease { job with
        errorClass := some errorClass
        errorCode := some (R.redactText errorCode)
        errorMessage := some (R.redactText errorMessage) }
  if errorClass = .retryable ∧ job.attemptCount < job.maxAttempts then
    { job with
      status := .queued
      scheduledFor := some (retryAt.getD observedAt)
      finishedAt := none }
  else if errorClass = .needsReview then
    { job with status := .needsReview, finishedAt := some observedAt }
  else
    { job with status := .failed, finishedAt := some observedAt }

def retried (job : WorkflowJob) (observedAt : Datetime) : WorkflowJob :=
  clearLease { job with
      status := .queued
      scheduledFor := some observedAt
      finishedAt := none
      startedAt := none
      progress := 0
      progressMessage := none
      errorClass := none
      errorCode := none
      errorMessage := none }

def cancelled (job : WorkflowJob) (observedAt : Datetime) : WorkflowJob :=
  { job with status := .cancelled, finishedAt := some observedAt }

/-- What the sweep writes to a job whose lease ran out. -/
def leaseExpired (job : WorkflowJob) (requiresReview : Bool) (observedAt : Datetime) :
    WorkflowJob :=
  clearLease <| if requiresReview then
      { job with
        finishedAt := some observedAt
        status := .needsReview
        errorClass := some .needsReview
        errorCode := some "telegram_publish_ambiguous"
        errorMessage := some "Telegram publish outcome is ambiguous after worker interruption" }
    else if job.attemptCount ≥ job.maxAttempts then
      { job with
        finishedAt := some observedAt
        status := .failed
        errorClass := some .retryable
        errorCode := some "worker_lease_expired"
        errorMessage := some "Worker lease expired after the final configured attempt" }
    else
      { job with status := .queued, scheduledFor := some observedAt }

end WorkflowJob

namespace JobsDb

def write (db : JobsDb) (job : WorkflowJob) : JobsDb := { db with jobs := db.jobs.put job }

/-! ## Enqueue -/

/-- The arguments of `enqueue_job`. -/
structure EnqueueJob where
  jobType : String
  payload : Json
  idempotencyKey : String
  origin : JobOrigin
  priority : Int := 0
  scheduledFor : Option Datetime := none
  maxAttempts : Int := 3
  pauseSensitive : Bool := true
  automationRunId : Option UUID := none
  automationNodeRunId : Option UUID := none

/-- The row an enqueue inserts, server defaults included. -/
def EnqueueJob.row (R : Redaction) (args : EnqueueJob) (id : UUID) (now : Datetime) :
    WorkflowJob where
  id := id
  jobType := args.jobType
  status := .queued
  payload := R.redactJobPayload args.jobType args.payload
  result := Json.empty
  priority := args.priority
  idempotencyKey := args.idempotencyKey
  origin := args.origin
  automationRunId := args.automationRunId
  automationNodeRunId := args.automationNodeRunId
  pauseSensitive := args.pauseSensitive
  scheduledFor := some (args.scheduledFor.getD now)
  attemptCount := 0
  maxAttempts := args.maxAttempts
  leaseOwner := none
  leaseExpiresAt := none
  heartbeatAt := none
  progress := 0
  progressMessage := none
  errorClass := none
  errorCode := none
  errorMessage := none
  startedAt := none
  finishedAt := none
  createdAt := now

/-- `get_by_idempotency_key`. -/
def getByIdempotencyKey (db : JobsDb) (idempotencyKey : String) : Option WorkflowJob :=
  db.jobs.rows.find? fun job => job.idempotencyKey = idempotencyKey

/-- `_existing_job_result`: the row that owns the key, its missing schedule filled in. -/
def existingJobResult (db : JobsDb) (idempotencyKey : String) (effectiveScheduledFor : Datetime) :
    Option (WorkflowJob × JobsDb) :=
  match db.getByIdempotencyKey idempotencyKey with
  | none => none
  | some job =>
    if job.scheduledFor = none then
      let job := { job with scheduledFor := some effectiveScheduledFor }
      some (job, db.write job)
    else
      some (job, db)

/-- `enqueue_job`; `available` is the verdict of the API capability gate. -/
def enqueueJob (R : Redaction) (db : JobsDb) (args : EnqueueJob) (available : Bool) (id : UUID)
    (now : Datetime) : Except JobError ((WorkflowJob × Bool) × JobsDb) :=
  match db.existingJobResult args.idempotencyKey (args.scheduledFor.getD now) with
  | some (job, db') => .ok ((job, false), db')
  | none =>
    if !available then
      .error (.capabilityUnavailable args.jobType)
    else if (db.jobs.lookup id).isSome then
      .error (.integrityError "workflow_jobs_pkey")
    else
      let job := args.row R id now
      .ok ((job, true), { db with jobs := db.jobs.insert job })

/-! ## Claim -/

/-- The predicates of `_claim_statement`. -/
def claimable (db : JobsDb) (allowedJobTypes : Option (List String)) (now : Datetime)
    (job : WorkflowJob) : Bool :=
  job.status = .queued && (match job.scheduledFor with
      | none => true
      | some due => decide (due ≤ now))
    && (match allowedJobTypes with
      | none => true
      | some types => types.contains job.jobType)
    && (!db.globalPause || (job.origin = .manual && !job.pauseSensitive))

/-- `scheduled_for ASC NULLS FIRST`, strictly. -/
def scheduledBefore : Option Datetime → Option Datetime → Bool
  | none, none => false
  | none, some _ => true
  | some _, none => false
  | some a, some b => decide (a < b)

/-- The order of `_claim_statement`: by priority, then due time, then age. -/
def claimsBefore (a b : WorkflowJob) : Prop :=
  a.priority > b.priority ∨ a.priority = b.priority ∧
    (scheduledBefore a.scheduledFor b.scheduledFor = true
      ∨ scheduledBefore b.scheduledFor a.scheduledFor = false ∧ a.createdAt ≤ b.createdAt)

instance : DecidableRel claimsBefore := fun a b => by unfold claimsBefore; infer_instance

/-- The row `_claim_statement` selects. Rows in `locked` are held by another
transaction and skipped. -/
def claimCandidate (db : JobsDb) (allowedJobTypes : Option (List String)) (locked : List UUID)
    (now : Datetime) : Option WorkflowJob :=
  ((db.jobs.rows.filter fun job =>
      db.claimable allowedJobTypes now job && !locked.contains job.id).insertionSort
    claimsBefore).head?

/-- `claim_next_job`. -/
def claimNextJob (db : JobsDb) (workerId : String) (leaseSeconds : Int)
    (allowedJobTypes : Option (List String)) (locked : List UUID) (now : Datetime) :
    Option WorkflowJob × JobsDb :=
  if allowedJobTypes = some [] then
    (none, db)
  else
    match db.claimCandidate allowedJobTypes locked now with
    | none => (none, db)
    | some job =>
      let job := job.claimed workerId leaseSeconds now
      (some job, db.write job)

/-! ## Operations of the lease owner -/

/-- The row under `jobId` if `workerId` holds an unexpired lease on it. -/
def ownedJob (db : JobsDb) (jobId : UUID) (workerId : String) (now : Datetime) :
    Option WorkflowJob :=
  match db.jobs.lookup jobId with
  | none => none
  | some job => if job.hasActiveLease workerId now then some job else none

/-- `heartbeat_job`. A progress outside 0..100 violates `ck_workflow_jobs_progress`. -/
def heartbeatJob (R : Redaction) (db : JobsDb) (jobId : UUID) (workerId : String)
    (leaseSeconds : Int) (progress : Option Int) (progressMessage : Option String)
    (now : Datetime) : Except JobError (Bool × JobsDb) :=
  match db.ownedJob jobId workerId now with
  | none => .ok (false, db)
  | some job =>
    let job := job.heartbeat R leaseSeconds progress progressMessage now
    if job.progress < 0 ∨ job.progress > 100 then
      .error (.integrityError "ck_workflow_jobs_progress")
    else
      .ok (true, db.write job)

/-- `update_progress`. -/
def updateProgress (R : Redaction) (db : JobsDb) (jobId : UUID) (workerId : String)
    (progress : Int) (progressMessage : Option String) (now : Datetime) : Bool × JobsDb :=
  match db.ownedJob jobId workerId now with
  | none => (false, db)
  | some job => (true, db.write (job.progressed R progress progressMessage))

/-- `checkpoint_job`. -/
def checkpointJob (R : Redaction) (db : JobsDb) (jobId : UUID) (workerId : String)
    (payload result : Option Json) (now : Datetime) : Except JobError JobsDb :=
  if payload = none ∧ result = none then
    .error (.valueError "a job checkpoint requires payload or result")
  else
    match db.ownedJob jobId workerId now with
    | none => .error (invalid jobId "checkpoint" (db.jobs.lookup jobId))
    | some job =>
      if ∃ p, payload = some p ∧ R.redactJobPayload job.jobType p ≠ p then
        .error (.valueError "job checkpoint payload contains a secret value")
      else if ∃ r, result = some r ∧ (R.redactSecrets r).isObj = false then
        .error (.typeError "job checkpoint result must be a mapping")
      else
        .ok (db.write (job.checkpointed R payload result))

/-- `finish_job`. -/
def finishJob (R : Redaction) (db : JobsDb) (jobId : UUID) (workerId : String) (result : Json)
    (now : Datetime) : Except JobError (WorkflowJob × JobsDb) :=
  match db.ownedJob jobId workerId now with
  | none => .error (invalid jobId "finish" (db.jobs.lookup jobId))
  | some job =>
    if (R.redactSecrets result).isObj = false then
      .error (.typeError "job result must remain a dictionary")
    else
      let job := job.finished R result now
      .ok (job, db.write job)

/-- `fail_job`. -/
def failJob (R : Redaction) (db : JobsDb) (jobId : UUID) (workerId : String)
    (errorClass : JobErrorClass) (errorCode errorMessage : String) (retryAt : Option Datetime)
    (now : Datetime) : Except JobError (WorkflowJob × JobsDb) :=
  match db.ownedJob jobId workerId now with
  | none => .error (invalid jobId "fail" (db.jobs.lookup jobId))
  | some job =>
    let job := job.failed R errorClass errorCode errorMessage retryAt now
    .ok (job, db.write job)

/-! ## Operator actions -/

/-- `retry_job`. -/
def retryJob (db : JobsDb) (jobId : UUID) (available : Bool) (now : Datetime) :
    Except JobError (WorkflowJob × JobsDb) :=
  match db.jobs.lookup jobId with
  | none => .error (invalid jobId "retry" none)
  | some job =>
    if job.status ≠ .failed ∧ job.status ≠ .needsReview then
      .error (invalid jobId "retry" (some job))
    else if !available then
      .error (.capabilityUnavailable job.jobType)
    else
      let job := job.retried now
      .ok (job, db.write job)

/-- `cancel_job`. -/
def cancelJob (db : JobsDb) (jobId : UUID) (now : Datetime) :
    Except JobError (WorkflowJob × JobsDb) :=
  match db.jobs.lookup jobId with
  | none => .error (invalid jobId "cancel" none)
  | some job =>
    if job.status ≠ .queued then
      .error (invalid jobId "cancel" (some job))
    else
      let job := job.cancelled now
      .ok (job, db.write job)

/-! ## The lease sweep -/

/-- A send under way when its worker was interrupted has an unknown outcome. -/
def markAmbiguous (observedAt : Datetime) (receipt : PublishOperationReceipt) :
    PublishOperationReceipt :=
  if receipt.status = .dispatching then
    { receipt with status := .ambiguous, ambiguousAt := some observedAt }
  else
    receipt

theorem markAmbiguous_key (observedAt : Datetime) (receipt : PublishOperationReceipt) :
    Keyed.key (markAmbiguous observedAt receipt) = Keyed.key receipt := by
  rw [markAmbiguous]
  split <;> rfl

/-- `_sync_expired_publish_ambiguity`; the flag says that a send was under way. -/
def syncExpiredPublishAmbiguity (record : PublishRecord) (observedAt : Datetime) :
    Bool × PublishRecord :=
  if record.receipts.rows.any fun receipt => receipt.status = .dispatching then
    let record := { record with
      receipts := record.receipts.map (markAmbiguous observedAt) (markAmbiguous_key observedAt)
      job := { record.job with status := .reconciliationRequired } }
    (true, record.closeRunningPublishAttempts .needsReview "needs_review"
      "telegram_publish_ambiguous"
      "Telegram publish outcome is ambiguous after worker interruption" observedAt)
  else
    (false, record)

/-- `_sync_terminal_expired_lease_dependents` on one publish job. -/
def syncTerminalExpiredPublish (record : PublishRecord) (observedAt : Datetime) : PublishRecord :=
  let record := record.closeRunningPublishAttempts .failed "retryable"
    "telegram_publish_attempt_interrupted"
    "Telegram publish attempt ended when its worker lease expired" observedAt
  match record.job.status with
  | .queued | .scheduled | .dispatching =>
    { record with job := { record.job with status := .attention } }
  | .succeeded | .attention | .reconciliationRequired => record

def publishJobsOf (db : JobsDb) (jobId : UUID) : List PublishRecord :=
  db.publishing.rows.filter fun record => record.job.workflowJobId = some jobId

/-- The ids `requeue_expired_leases` reads before it locks anything. -/
def expiredCandidates (db : JobsDb) (observedAt : Datetime) : List UUID :=
  (db.jobs.rows.filter fun job =>
    job.status = .running && match job.leaseExpiresAt with
      | none => false
      | some expiresAt => decide (expiresAt ≤ observedAt)).map WorkflowJob.id

/-- One round of the loop of `requeue_expired_leases`; `none` when the row needs nothing. -/
def requeueCandidate (db : JobsDb) (jobId : UUID) (observedAt : Datetime) : Option JobsDb :=
  match db.jobs.lookup jobId with
  | none => none
  | some job =>
    match job.leaseExpiresAt with
    | none => none
    | some expiresAt =>
      if job.status ≠ .running ∨ expiresAt > observedAt then
        none
      else
        let publishJobs := db.publishJobsOf jobId
        let requiresReview := publishJobs.any fun record =>
          (syncExpiredPublishAmbiguity record observedAt).1
        let exhausted := job.attemptCount ≥ job.maxAttempts
        let publishing :=
          if requiresReview then
            publishJobs.foldl
              (fun rows record => rows.put (syncExpiredPublishAmbiguity record observedAt).2)
              db.publishing
          else if exhausted then
            publishJobs.foldl
              (fun rows record => rows.put (syncTerminalExpiredPublish record observedAt))
              db.publishing
          else
            db.publishing
        some { db with
          jobs := db.jobs.put (job.leaseExpired requiresReview observedAt)
          publishing := publishing }

/-- One round of the loop, counting the jobs it processed. -/
def requeueRound (observedAt : Datetime) (acc : Nat × JobsDb) (jobId : UUID) : Nat × JobsDb :=
  match acc.2.requeueCandidate jobId observedAt with
  | none => acc
  | some db => (acc.1 + 1, db)

/-- `requeue_expired_leases` over the candidates it read. -/
def requeueExpiredLeases (db : JobsDb) (candidates : List UUID) (observedAt : Datetime) :
    Nat × JobsDb :=
  candidates.foldl (requeueRound observedAt) (0, db)

end JobsDb

end NewsCraft.Jobs
