import NewsCraft.Core.Basic
import NewsCraft.Core.Json
import NewsCraft.Lib.Table

/-!
# Publish jobs, operation receipts and publications

A publish job delivers one approved revision to one destination as a fixed sequence of
Telegram operations. The receipts are the only memory of what was sent: a worker may die
between the call and the commit that records it. `PublishRecord` is the rows of one job,
which are always read together.
-/

namespace NewsCraft.Publishing

inductive ReceiptStatus where
  | pending
  | dispatching
  | succeeded
  | ambiguous
  | failed
  deriving DecidableEq

inductive PublishJobStatus where
  | queued
  | scheduled
  | dispatching
  | succeeded
  | attention
  | reconciliationRequired
  deriving DecidableEq

inductive PublishAttemptStatus where
  | running
  | succeeded
  | failed
  | needsReview
  deriving DecidableEq

structure TelegramPublishOperation where
  index : Nat
  key : String
  method : String
  requestHash : String

/-- The secret-free plan of one approved revision. Operations are numbered by
their position. -/
structure TelegramPublishPlan where
  payloadHash : String
  operations : List TelegramPublishOperation
  indexed : operations.map TelegramPublishOperation.index = List.range operations.length

/-- A row of `publish_jobs`. -/
structure PublishJob where
  id : UUID
  workflowJobId : Option UUID
  destinationId : UUID
  platformVariantRevisionId : UUID
  status : PublishJobStatus
  idempotencyKey : String
  payloadHash : String
  scheduledFor : Option Datetime

/-- A row of `publish_operation_receipts`; `updatedAt` is the time of the claim. -/
structure PublishOperationReceipt where
  operationIndex : Nat
  operationKey : String
  method : String
  requestHash : String
  status : ReceiptStatus
  attemptCount : Nat
  remoteMessageIds : List Int
  nextAttemptAt : Option Datetime
  ambiguousAt : Option Datetime
  completedAt : Option Datetime
  updatedAt : Datetime

/-- A row of `publish_attempts`. -/
structure PublishAttempt where
  attemptNumber : Nat
  payloadHash : String
  status : PublishAttemptStatus
  errorClass : Option String
  errorCode : Option String
  errorMessage : Option String
  startedAt : Datetime
  finishedAt : Option Datetime

/-- A row of `publications`. -/
structure Publication where
  destinationId : UUID
  platformVariantRevisionId : UUID
  remoteMessageIds : List Int
  permalink : Option String
  payloadHash : String
  publishedAt : Datetime
  reconciliationStatus : String

instance : Lib.Keyed PublishOperationReceipt Nat := ⟨PublishOperationReceipt.operationIndex⟩

/-- A publish job with its rows; the receipts are keyed by operation index. -/
structure PublishRecord where
  job : PublishJob
  receipts : Lib.Table PublishOperationReceipt
  attempts : List PublishAttempt
  publication : Option Publication

instance : Lib.Keyed PublishRecord UUID := ⟨fun record => record.job.id⟩

namespace PublishRecord

/-- Close every running attempt of the job the same way. -/
def closeRunningPublishAttempts (record : PublishRecord) (status : PublishAttemptStatus)
    (errorClass errorCode errorMessage : String) (finishedAt : Datetime) : PublishRecord :=
  { record with
    attempts := record.attempts.map fun attempt =>
      if attempt.status = .running then
        { attempt with
          status := status
          errorClass := some errorClass
          errorCode := some errorCode
          errorMessage := some errorMessage
          finishedAt := some finishedAt }
      else
        attempt }

end PublishRecord

end NewsCraft.Publishing
