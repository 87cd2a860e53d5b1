import Mathlib.Data.List.Sort
import NewsCraft.Jobs.Types
import NewsCraft.Publishing.Models

/-!
# Publishing one job

`publish_telegram` as the transactions and calls it is made of. One run prepares a context,
then takes the operations in order: claim the receipt in a transaction, call Telegram
outside of any, record the outcome in another. When every receipt has succeeded it creates
the publication.

What a transaction reads outside the publish rows (the revision, the route, the evidence,
the controls) only decides whether it goes ahead, so it is an argument.
-/

namespace NewsCraft.Publishing

open Lib Jobs

/-! ## Failures of a send -/

/-- What a send, or the preparation of one, can raise. -/
inductive PublicationError where
  | rateLimited (retryAfter : Int)
  | retryableBeforeDispatch
  | permanent
  | ambiguous
  /-- Any other exception. -/
  | other
  deriving DecidableEq

inductive PublicationFailureKind where
  | retry
  | reconcile
  | terminal
  deriving DecidableEq

structure PublicationFailureDecision where
  kind : PublicationFailureKind
  retryDelaySeconds : Option Int := none

/-- Only an error that proves nothing was sent is retried; an unknown one is
reconciled by an operator. -/
def classifyPublicationFailure : PublicationError → PublicationFailureDecision
  | .rateLimited retryAfter => ⟨.retry, some retryAfter⟩
  | .retryableBeforeDispatch => ⟨.retry, some 30⟩
  | .permanent => ⟨.terminal, none⟩
  | .ambiguous | .other => ⟨.reconcile, none⟩

def reconciliationRequired (receiptStatus : ReceiptStatus) (dispatchStale : Bool) : Bool :=
  receiptStatus = .ambiguous || (receiptStatus = .dispatching && dispatchStale)

/-! ## Plans and receipts -/

/-- `PublishValidationError`. -/
structure PublishValidationError where
  code : String
  message : String

def orderedReceipts (receipts : Table PublishOperationReceipt) : List PublishOperationReceipt :=
  receipts.rows.insertionSort fun a b => a.operationIndex ≤ b.operationIndex

def operationIdentity (operation : TelegramPublishOperation) : Nat × String × String × String :=
  (operation.index, operation.key, operation.method, operation.requestHash)

def receiptIdentity (receipt : PublishOperationReceipt) : Nat × String × String × String :=
  (receipt.operationIndex, receipt.operationKey, receipt.method, receipt.requestHash)

/-- The receipts stand for exactly the operations of the plan. -/
def validateReceiptPlan (receipts : Table PublishOperationReceipt)
    (operations : List TelegramPublishOperation) : Except PublishValidationError Unit :=
  if (orderedReceipts receipts).map receiptIdentity ≠ operations.map operationIdentity then
    .error ⟨"publish_plan_drift", "Publish operation plan drifted after receipt creation"⟩
  else
    .ok ()

/-- One round of the loop of `ordered_receipt_remote_ids`. -/
def appendRemoteId (remoteIds : List Int) (messageId : Int) :
    Except PublishValidationError (List Int) :=
  if messageId ≤ 0 then
    .error ⟨"remote_message_id_invalid", "Remote message IDs are invalid"⟩
  else if messageId ∈ remoteIds then
    .error ⟨"remote_message_id_duplicate", "Remote message IDs must be unique"⟩
  else
    .ok (remoteIds ++ [messageId])

/-- The message ids of all receipts, in operation order. -/
def orderedReceiptRemoteIds (receipts : Table PublishOperationReceipt) :
    Except PublishValidationError (List Int) :=
  match ((orderedReceipts receipts).flatMap PublishOperationReceipt.remoteMessageIds).foldlM
      appendRemoteId [] with
  | .error error => .error error
  | .ok [] => .error ⟨"remote_message_ids_missing", "Remote message IDs are missing"⟩
  | .ok remoteIds => .ok remoteIds

/-! ## Preparing a context -/

/-- `_PublishContext`: what one attempt carries from its preparation on. -/
structure PublishContext where
  destinationId : UUID
  revisionId : UUID
  targetRef : String
  plan : TelegramPublishPlan
  attemptNumber : Nat

/-- What `load_context` reads outside the publish rows: the plan, the target, and the first check
that fails, if one does. -/
structure PublishInputs where
  plan : TelegramPublishPlan
  targetRef : String
  refusal : Option HandlerError

/-- What `load_context` returns: a context to publish from, or why there is
nothing to send now. -/
inductive Prepared where
  | context (context : PublishContext)
  | idempotent (publication : Publication)
  | reconciliationRequired
  | inProgress (retryAt : Datetime)
  | notDue (retryAt : Datetime)

/-- The receipt `load_context` creates for an operation. -/
def freshReceipt (observedAt : Datetime) (operation : TelegramPublishOperation) :
    PublishOperationReceipt where
  operationIndex := operation.index
  operationKey := operation.key
  method := operation.method
  requestHash := operation.requestHash
  status := .pending
  attemptCount := 0
  remoteMessageIds := []
  nextAttemptAt := none
  ambiguousAt := none
  completedAt := none
  updatedAt := observedAt

theorem freshReceipts_nodup (plan : TelegramPublishPlan) (observedAt : Datetime) :
    ((plan.operations.map (freshReceipt observedAt)).map Keyed.key).Nodup := by
  have hkeys : (plan.operations.map (freshReceipt observedAt)).map Keyed.key
      = List.range plan.operations.length := by
    rw [← plan.indexed, List.map_map]
    rfl
  rw [hkeys]
  exact List.nodup_range

/-- The receipts of a plan nothing of which was sent yet. -/
def freshReceipts (plan : TelegramPublishPlan) (observedAt : Datetime) :
    Table PublishOperationReceipt :=
  ⟨plan.operations.map (freshReceipt observedAt), freshReceipts_nodup plan observedAt⟩

namespace PublishRecord

/-- `_load_publish_plan_receipts`: create the receipts on the first run, hold
every later plan to them. -/
def loadPublishPlanReceipts (record : PublishRecord) (plan : TelegramPublishPlan)
    (observedAt : Datetime) : Except HandlerError PublishRecord :=
  let receipts :=
    if record.receipts.rows = [] then freshReceipts plan observedAt else record.receipts
  match validateReceiptPlan receipts plan.operations with
  | .error error => .error (.needsReview error.code error.message)
  | .ok () =>
    .ok { record with
      receipts := receipts
      job := { record.job with payloadHash := plan.payloadHash } }

/-- `_dispatching_receipt_result`: a claim older than five minutes has an unknown outcome. -/
def dispatchingReceiptResult (record : PublishRecord) (dispatching : PublishOperationReceipt)
    (observedAt : Datetime) : Prepared × PublishRecord :=
  let stale := decide (dispatching.updatedAt < observedAt - timedeltaMinutes 5)
  if reconciliationRequired dispatching.status stale then
    let receipt := { dispatching with status := .ambiguous, ambiguousAt := some observedAt }
    let record := { record with
      receipts := record.receipts.put receipt
      job := { record.job with status := .reconciliationRequired } }
    (.reconciliationRequired, record.closeRunningPublishAttempts .needsReview "needs_review"
      "telegram_publish_ambiguous"
      "Telegram publish outcome is ambiguous after worker interruption" observedAt)
  else
    (.inProgress (dispatching.updatedAt + timedeltaMinutes 5), record)

/-- `_publish_receipt_short_circuit`. -/
def publishReceiptShortCircuit (record : PublishRecord) (observedAt : Datetime) :
    Option Prepared × PublishRecord :=
  let receipts := orderedReceipts record.receipts
  match receipts.find? fun receipt => reconciliationRequired receipt.status false with
  | some _ =>
    (some .reconciliationRequired,
      { record with job := { record.job with status := .reconciliationRequired } })
  | none =>
    match receipts.find? fun receipt => receipt.status = .dispatching with
    | some dispatching =>
      let (prepared, record) := record.dispatchingReceiptResult dispatching observedAt
      (some prepared, record)
    | none =>
      let firstIncomplete := receipts.find? fun receipt => receipt.status ≠ .succeeded
      match firstIncomplete.bind PublishOperationReceipt.nextAttemptAt with
      | some retryAt =>
        if retryAt > observedAt then (some (.notDue retryAt), record) else (none, record)
      | none =>
        if receipts ≠ [] ∧ firstIncomplete = none then
          (none, record.closeRunningPublishAttempts .failed "retryable"
            "telegram_publish_attempt_interrupted"
            "Prior Telegram publish attempt was interrupted after durable receipt" observedAt)
        else
          (none, record)

/-- `_create_publish_attempt`. -/
def createPublishAttempt (record : PublishRecord) (plan : TelegramPublishPlan)
    (observedAt : Datetime) : Nat × PublishRecord :=
  let attemptNumber := (record.attempts.map PublishAttempt.attemptNumber).foldl max 0 + 1
  let attempt : PublishAttempt := {
    attemptNumber := attemptNumber
    payloadHash := plan.payloadHash
    status := .running
    errorClass := none
    errorCode := none
    errorMessage := none
    startedAt := observedAt
    finishedAt := none }
  (attemptNumber, { record with attempts := record.attempts ++ [attempt] })

/-- The existing publication still is the one the job intends. -/
def publicationMatches (record : PublishRecord) (publication : Publication) : Bool :=
  publication.reconciliationStatus = "confirmed"
    && publication.destinationId = record.job.destinationId
    && publication.platformVariantRevisionId = record.job.platformVariantRevisionId
    && publication.payloadHash = record.job.payloadHash

/-- `load_context`, one transaction. -/
def loadContext (record : PublishRecord) (inputs : PublishInputs) (observedAt : Datetime) :
    Except HandlerError (Prepared × PublishRecord) :=
  match record.publication with
  | some publication =>
    if record.publicationMatches publication then
      .ok (.idempotent publication, record)
    else
      .error (.needsReview "telegram_publication_drift"
        "Existing publication does not match the publish intent")
  | none =>
    match inputs.refusal with
    | some error => .error error
    | none =>
      match record.loadPublishPlanReceipts inputs.plan observedAt with
      | .error error => .error error
      | .ok record =>
        match record.publishReceiptShortCircuit observedAt with
        | (some prepared, record) => .ok (prepared, record)
        | (none, record) =>
          let (attemptNumber, record) := record.createPublishAttempt inputs.plan observedAt
          let context : PublishContext := {
            destinationId := record.job.destinationId
            revisionId := record.job.platformVariantRevisionId
            targetRef := inputs.targetRef
            plan := inputs.plan
            attemptNumber := attemptNumber }
          .ok (.context context, record)

/-- `_mark_publish_blocked`: the transaction after a context that could not be
prepared. -/
def markPublishBlocked (record : PublishRecord) : PublishRecord :=
  { record with job := { record.job with status := .attention } }

/-! ## Claiming an operation -/

/-- Rewrite the attempt of a context while it runs. -/
def finishClaimAttempt (record : PublishRecord) (context : PublishContext)
    (status : PublishAttemptStatus) (errorClass errorCode errorMessage : String)
    (finishedAt : Datetime) : PublishRecord :=
  { record with
    attempts := record.attempts.map fun attempt =>
      if attempt.attemptNumber = context.attemptNumber ∧ attempt.status = .running then
        { attempt with
          status := status
          errorClass := some errorClass
          errorCode := some errorCode
          errorMessage := some errorMessage
          finishedAt := some finishedAt }
      else
        attempt }

end PublishRecord

/-- What claiming one operation's receipt decided, once its transaction closed. -/
structure ClaimOutcome where
  alreadySucceeded : Bool := false
  claimedAttemptCount : Nat := 0
  retryAt : Option Datetime := none
  competingClaim : Bool := false
  claimError : Option HandlerError := none

namespace PublishRecord

/-- The tail of `_apply_claim_state`: the receipt is free, and now ours. -/
def claimReceipt (record : PublishRecord) (receipt : PublishOperationReceipt)
    (claimTime : Datetime) : ClaimOutcome × PublishRecord :=
  let receipt := { receipt with
    status := .dispatching
    attemptCount := receipt.attemptCount + 1
    nextAttemptAt := none
    updatedAt := claimTime }
  ({ claimedAttemptCount := receipt.attemptCount }, { record with
      receipts := record.receipts.put receipt
      job := { record.job with status := .dispatching } })

/-- `_apply_claim_state`; `claimError` is what revalidating the context raised. -/
def applyClaimState (record : PublishRecord) (context : PublishContext)
    (receipt : PublishOperationReceipt) (claimTime : Datetime)
    (claimError : Option (String × String)) : ClaimOutcome × PublishRecord :=
  match claimError with
  | some (code, message) =>
    let record := { record with job := { record.job with status := .attention } }
    ({ claimError := some (.needsReview code message) },
      record.finishClaimAttempt context .needsReview "needs_review" code message claimTime)
  | none =>
    match receipt.status with
    | .succeeded => ({ alreadySucceeded := true }, record)
    | .dispatching =>
      ({ retryAt := some (receipt.updatedAt + timedeltaMinutes 5), competingClaim := true },
        record.finishClaimAttempt context .failed "retryable" "telegram_publish_in_progress"
          "Another Telegram publish claim is in progress" claimTime)
    | .ambiguous | .failed =>
      let status := if receipt.status = .ambiguous then PublishJobStatus.reconciliationRequired
        else .attention
      let record := { record with job := { record.job with status := status } }
      ({ claimError := some (.needsReview "telegram_publish_receipt_not_sendable"
          "Telegram publish receipt requires attention") },
        record.finishClaimAttempt context .needsReview "needs_review"
          "telegram_publish_receipt_not_sendable"
          "Telegram publish receipt requires attention" claimTime)
    | .pending =>
      match receipt.nextAttemptAt with
      | some due =>
        if due > claimTime then
          ({ retryAt := some due }, record)
        else
          record.claimReceipt receipt claimTime
      | none => record.claimReceipt receipt claimTime

/-- `_claim_operation`, one transaction. -/
def claimOperation (record : PublishRecord) (context : PublishContext)
    (operation : TelegramPublishOperation) (claimTime : Datetime)
    (claimError : Option (String × String)) :
    Except HandlerError (ClaimOutcome × PublishRecord) :=
  match record.receipts.lookup operation.index with
  | none =>
    .error (.needsReview "telegram_publish_receipt_missing" "Telegram publish receipt is missing")
  | some receipt => .ok (record.applyClaimState context receipt claimTime claimError)

/-- `_release_claim_for_retry`. -/
def releaseClaimForRetry (record : PublishRecord) (context : PublishContext) (retryAt : Datetime)
    (competingClaim : Bool) (finishedAt : Datetime) : PublishRecord :=
  let record := record.finishClaimAttempt context .failed "retryable" "telegram_publish_not_due"
    "Telegram publish retry is not due" finishedAt
  if competingClaim then
    record
  else
    { record with job := { record.job with status := .queued, scheduledFor := some retryAt } }

/-! ## Recording the outcome of a send -/

def attemptOf (record : PublishRecord) (context : PublishContext) : Option PublishAttempt :=
  record.attempts.find? fun attempt => attempt.attemptNumber = context.attemptNumber

def closeAttempt (record : PublishRecord) (context : PublishContext)
    (status : PublishAttemptStatus) (errorClass errorCode errorMessage : String)
    (finishedAt : Datetime) : PublishRecord :=
  { record with
    attempts := record.attempts.map fun attempt =>
      if attempt.attemptNumber = context.attemptNumber then
        { attempt with
          status := status
          errorClass := some errorClass
          errorCode := some errorCode
          errorMessage := some errorMessage
          finishedAt := some finishedAt }
      else
        attempt }

/-- The error both recorders raise when somebody else took the claim over. -/
def claimSuperseded : HandlerError :=
  .needsReview "telegram_publish_claim_superseded" "Telegram publish claim was superseded"

/-- `_record_failure`: nothing happens unless the receipt is still dispatched under this claim. -/
def recordFailure (record : PublishRecord) (context : PublishContext)
    (operation : TelegramPublishOperation) (claimedAttemptCount : Nat) (error : PublicationError)
    (observedAt : Datetime) : HandlerError × PublishRecord :=
  match record.receipts.lookup operation.index, record.attemptOf context with
  | some receipt, some _ =>
    if receipt.status ≠ .dispatching ∨ receipt.attemptCount ≠ claimedAttemptCount then
      (claimSuperseded, record)
    else
      let decision := classifyPublicationFailure error
      match decision.kind with
      | .retry =>
        let retryAt := observedAt + timedeltaSeconds (decision.retryDelaySeconds.getD 0)
        let (code, message) := match error with
          | .rateLimited _ => ("telegram_rate_limited", "Telegram rate limit exceeded")
          | _ => ("telegram_connect_failed", "Telegram connection failed before dispatch")
        let record := { record with
          receipts := record.receipts.put
            { receipt with status := .pending, nextAttemptAt := some retryAt }
          job := { record.job with status := .queued, scheduledFor := some retryAt } }
        (.retryable code message (some retryAt),
          record.closeAttempt context .failed "retryable" code message observedAt)
      | .reconcile =>
        let record := { record with
          receipts := record.receipts.put
            { receipt with status := .ambiguous, ambiguousAt := some observedAt }
          job := { record.job with status := .reconciliationRequired } }
        (.needsReview "telegram_publish_ambiguous" "Telegram publish outcome is ambiguous",
          record.closeAttempt context .needsReview "needs_review" "telegram_publish_ambiguous"
            "Telegram publish outcome is ambiguous" observedAt)
      | .terminal =>
        let record := { record with
          receipts := record.receipts.put { receipt with status := .failed }
          job := { record.job with status := .attention } }
        (.permanent "telegram_publish_permanent" "Telegram publish operation failed permanently",
          record.closeAttempt context .failed "permanent" "telegram_publish_permanent"
            "Telegram publish operation failed permanently" observedAt)
  | _, _ => (claimSuperseded, record)

/-- `_persist_operation_receipt`, one transaction. -/
def persistOperationReceipt (record : PublishRecord) (operation : TelegramPublishOperation)
    (claimedAttemptCount : Nat) (remoteMessageIds : List Int) (completedAt : Datetime) :
    Except HandlerError PublishRecord :=
  match record.receipts.lookup operation.index with
  | none => .error claimSuperseded
  | some receipt =>
    if receipt.status ≠ .dispatching ∨ receipt.attemptCount ≠ claimedAttemptCount then
      .error claimSuperseded
    else
      .ok { record with
        receipts := record.receipts.put { receipt with
          status := .succeeded
          remoteMessageIds := remoteMessageIds
          completedAt := some completedAt } }

/-! ## Finalizing -/

/-- What `_finalize_publication` can raise. -/
inductive FinalizeError where
  | handler (error : HandlerError)
  | validation (error : PublishValidationError)
  | integrityError

/-- `_finalize_publication`; `conflict` says that another job's publication holds the revision. -/
def finalizePublication (permalink : String → List Int → Option String) (record : PublishRecord)
    (context : PublishContext) (conflict : Bool) (publishedAt : Datetime) :
    Except FinalizeError (Publication × PublishRecord) :=
  if (record.attemptOf context).isNone
      ∨ ∃ receipt ∈ record.receipts.rows, receipt.status ≠ .succeeded then
    .error (.handler (.needsReview "telegram_publish_incomplete"
      "Telegram publish operation set is incomplete"))
  else
    match orderedReceiptRemoteIds record.receipts with
    | .error error => .error (.validation error)
    | .ok remoteIds =>
      if record.publication = none ∧ conflict then
        .error .integrityError
      else
        let publication := record.publication.getD {
          destinationId := context.destinationId
          platformVariantRevisionId := context.revisionId
          remoteMessageIds := remoteIds
          permalink := permalink context.targetRef remoteIds
          payloadHash := context.plan.payloadHash
          publishedAt := publishedAt
          reconciliationStatus := "confirmed" }
        if publication.destinationId ≠ context.destinationId
            ∨ publication.platformVariantRevisionId ≠ context.revisionId
            ∨ publication.payloadHash ≠ context.plan.payloadHash
            ∨ publication.remoteMessageIds ≠ remoteIds
            ∨ publication.reconciliationStatus ≠ "confirmed" then
          .error (.handler (.needsReview "telegram_publication_drift"
            "Existing publication does not match the completed operation receipts"))
        else
          .ok (publication, { record with
            publication := some publication
            job := { record.job with status := .succeeded }
            attempts := record.attempts.map fun attempt =>
              if attempt.attemptNumber = context.attemptNumber then
                { attempt with status := .succeeded, finishedAt := some publishedAt }
              else
                attempt })

end PublishRecord

end NewsCraft.Publishing
