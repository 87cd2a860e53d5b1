import NewsCraft.Core.Basic
import NewsCraft.Core.Json
import NewsCraft.Lib.Table

/-!
# Workflow jobs and their executions

The row of `workflow_jobs` and the immutable snapshot of it a worker hands to a handler.
`JobExecution.fromJob` is the only door between the two: a claimed row it refuses is failed
as `job_execution_invalid` without its handler ever running.
-/

namespace NewsCraft.Jobs

inductive JobStatus where
  | queued
  | running
  | succeeded
  | failed
  | needsReview
  | cancelled
  deriving DecidableEq

namespace JobStatus

def terminal : JobStatus → Bool
  | queued | running => false
  | succeeded | failed | needsReview | cancelled => true

end JobStatus

inductive JobErrorClass where
  | retryable
  | needsReview
  | permanent
  deriving DecidableEq

inductive HandlerError where
  | retryable (code message : String) (retryAt : Option Datetime)
  | needsReview (code message : String)
  | permanent (code message : String)
  deriving DecidableEq

inductive JobOrigin where
  | manual
  | scheduler
  | automation
  | retry
  deriving DecidableEq

/-- A row of `workflow_jobs`. -/
structure WorkflowJob where
  id : UUID
  jobType : String
  status : JobStatus
  payload : Json
  result : Json
  priority : Int
  idempotencyKey : String
  origin : JobOrigin
  automationRunId : Option UUID
  automationNodeRunId : Option UUID
  pauseSensitive : Bool
  scheduledFor : Option Datetime
  attemptCount : Int
  maxAttempts : Int
  leaseOwner : Option String
  leaseExpiresAt : Option Datetime
  heartbeatAt : Option Datetime
  progress : Int
  progressMessage : Option String
  errorClass : Option JobErrorClass
  errorCode : Option String
  errorMessage : Option String
  startedAt : Option Datetime
  finishedAt : Option Datetime
  createdAt : Datetime
  deriving DecidableEq

instance : Lib.Keyed WorkflowJob UUID := ⟨WorkflowJob.id⟩

/-- The redaction rules of the job layer, which leases and attempts do not depend on. -/
structure Redaction where
  redactSecrets : Json → Json
  redactText : String → String
  restoreExemptSecrets : String → Json → Json → Json

def Redaction.identity : Redaction := ⟨id, id, fun _ _ sanitized => sanitized⟩

/-- `_redact_job_payload`. -/
def Redaction.redactJobPayload (R : Redaction) (jobType : String) (payload : Json) : Json :=
  let sanitized := R.redactSecrets payload
  if sanitized.isObj then R.restoreExemptSecrets jobType payload sanitized else Json.empty

/-- An immutable, session-independent snapshot passed to a job handler. -/
structure JobExecution where
  id : UUID
  jobType : String
  payload : Json
  attemptCount : Int
  maxAttempts : Int
  origin : JobOrigin
  leaseOwner : String
  createdAt : Datetime
  scheduledFor : Option Datetime
  priority : Int
  pauseSensitive : Bool
  automationRunId : Option UUID
  automationNodeRunId : Option UUID

namespace JobExecution

/-- `_reject_secret_payload`. -/
def rejectSecretPayload (R : Redaction) (jobType : String) (payload : Json) : Except PyError Unit :=
  let sanitized := R.redactSecrets payload
  let sanitized :=
    if sanitized.isObj then R.restoreExemptSecrets jobType payload sanitized else sanitized
  if sanitized ≠ payload then
    .error (.valueError "job execution payload contains a secret value")
  else
    .ok ()

def snapshot (job : WorkflowJob) : JobExecution where
  id := job.id
  jobType := job.jobType
  payload := job.payload
  attemptCount := job.attemptCount
  maxAttempts := job.maxAttempts
  origin := job.origin
  leaseOwner := job.leaseOwner.getD ""
  createdAt := job.createdAt
  scheduledFor := job.scheduledFor
  priority := job.priority
  pauseSensitive := job.pauseSensitive
  automationRunId := job.automationRunId
  automationNodeRunId := job.automationNodeRunId

/-- `JobExecution.from_job`, with the checks of `__post_init__` a typed row can fail, in order. -/
def fromJob (R : Redaction) (job : WorkflowJob) : Except PyError JobExecution :=
  if isBlank job.jobType then
    .error (.valueError "job execution type must be non-empty")
  else if job.attemptCount ≤ 0 then
    .error (.valueError "job execution attempt count must be positive")
  else if job.maxAttempts ≤ 0 then
    .error (.valueError "job execution max attempts must be positive")
  else if job.attemptCount > job.maxAttempts then
    .error (.valueError "job execution attempt count exceeds max attempts")
  else if isBlank (job.leaseOwner.getD "") then
    .error (.valueError "job execution lease owner must be non-empty")
  else if !job.payload.isObj then
    .error (.typeError "job execution payload must be a mapping")
  else
    match rejectSecretPayload R job.jobType job.payload with
    | .error error => .error error
    | .ok () => .ok (snapshot job)

end JobExecution

end NewsCraft.Jobs
