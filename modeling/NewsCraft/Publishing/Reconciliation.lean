import NewsCraft.Publishing.Publication

/-!
# Operator reconciliation

A send whose outcome nobody knows leaves an ambiguous receipt, and only an operator may say
what became of it. `reconcile` is the API route, one transaction. A confirmed send completes
the job; a send that did not happen puts the operation back to pending.

An event stands for a decision. It names the ambiguity it answers by operation key, claim
count and time of ambiguity, which tells a replayed request from a stale one.
-/

namespace NewsCraft.Publishing

open Lib Jobs

inductive ReconcileOutcome where
  | published
  | notPublished
  deriving DecidableEq

structure TelegramReconcileIn where
  outcome : ReconcileOutcome
  remoteMessageIds : List Int
  permalink : Option String
  operatorNote : Option String

/-- `_reconciliation_generation`. -/
structure ReconciliationGeneration where
  operationKey : String
  attemptCount : Nat
  ambiguousAt : Option Datetime

/-- A `telegram.publish.reconciled_*` event of the job. -/
structure ReconciliationEvent where
  decisionHash : String
  outcome : ReconcileOutcome
  generation : ReconciliationGeneration
  requeuedWorkflowJobId : Option UUID

structure HttpError where
  statusCode : Nat
  detail : String

inductive ReconcileResult where
  | published (publication : Publication)
  | requeued (workflowJobId : UUID)

/-- The permalink of a publication and the canonical hash of a decision. -/
structure PublishEnv where
  permalink : String → List Int → Option String
  decisionHash : TelegramReconcileIn → String

/-- What the route reads outside the publish rows. -/
structure ReconcileInputs where
  targetRef : String
  /-- The destination still exists and is a Telegram one. -/
  destinationFound : Bool
  /-- The publishing capability is available. -/
  available : Bool
  /-- The workflow job `enqueue_job` returns. -/
  requeuedJobId : UUID
  /-- Another job's publication holds the destination and revision. -/
  conflict : Bool

def reconciliationGeneration (receipt : PublishOperationReceipt) : ReconciliationGeneration :=
  ⟨receipt.operationKey, receipt.attemptCount, receipt.ambiguousAt⟩

/-- `_event_matches_reconciliation_generation`. -/
def eventMatchesReconciliationGeneration (event : ReconciliationEvent)
    (receipts : List PublishOperationReceipt) : Bool :=
  match receipts.find? fun receipt => receipt.operationKey = event.generation.operationKey with
  | none => false
  | some receipt =>
    if receipt.attemptCount ≠ event.generation.attemptCount then
      false
    else
      match receipt.ambiguousAt with
      | some ambiguousAt => event.generation.ambiguousAt = some ambiguousAt
      | none => true

/-- `validate_reconciliation`: the one ambiguous receipt, if the outcome may be
recorded for it. -/
def validateReconciliation (receipts : List PublishOperationReceipt) (outcome : ReconcileOutcome)
    (remoteMessageIds : List Int) : Except PublishValidationError PublishOperationReceipt :=
  match receipts.filter fun receipt => receipt.status = .ambiguous with
  | [ambiguous] =>
    match outcome with
    | .published =>
      if receipts.any fun receipt =>
          receipt.status ≠ .succeeded && receipt.status ≠ .ambiguous then
        .error ⟨"reconciliation_incomplete", "Pending operations cannot be reconciled as published"⟩
      else if remoteMessageIds = [] ∨ ∃ id ∈ remoteMessageIds, id ≤ 0 then
        .error ⟨"reconciliation_remote_ids_invalid", "Verified remote message IDs are required"⟩
      else
        .ok ambiguous
    | .notPublished =>
      if receipts.any fun receipt => receipt.status ≠ .succeeded && receipt.status ≠ .pending
          && receipt.status ≠ .ambiguous then
        .error ⟨"reconciliation_incomplete",
          "Unsafe operation states cannot be reconciled as not published"⟩
      else if remoteMessageIds ≠ [] then
        .error ⟨"reconciliation_remote_ids_forbidden",
          "Not-published outcome cannot include remote IDs"⟩
      else
        .ok ambiguous
  | _ => .error ⟨"reconciliation_not_ambiguous", "Exactly one ambiguous operation is required"⟩

/-- `validate_reconciled_remote_ids`. -/
def validateReconciledRemoteIds (receipt : PublishOperationReceipt) (remoteMessageIds : List Int) :
    Except HttpError Unit :=
  if ¬ remoteMessageIds.Nodup then
    .error ⟨422, "Remote message IDs must be unique"⟩
  else if receipt.method = "sendMediaGroup" then
    if remoteMessageIds.length < 2 then
      .error ⟨422, "A media group requires at least two remote message IDs"⟩
    else
      .ok ()
  else if remoteMessageIds.length ≠ 1 then
    .error ⟨422, "This Telegram operation requires exactly one remote message ID"⟩
  else
    .ok ()

namespace PublishRecord

/-- `_requeue_not_published`: the operation was not sent, so it may be claimed again. -/
def requeueNotPublished (record : PublishRecord) (ambiguous : PublishOperationReceipt)
    (inputs : ReconcileInputs) (observedAt : Datetime) : PublishRecord :=
  { record with
    receipts := record.receipts.put { ambiguous with
      status := .pending
      remoteMessageIds := []
      nextAttemptAt := none
      ambiguousAt := none
      completedAt := none
      updatedAt := observedAt }
    job := { record.job with
      status := .queued
      scheduledFor := some observedAt
      workflowJobId := some inputs.requeuedJobId } }

/-- The receipt of an operation the operator saw delivered. -/
def confirmedReceipt (ambiguous : PublishOperationReceipt) (remoteMessageIds : List Int)
    (observedAt : Datetime) : PublishOperationReceipt :=
  { ambiguous with
    status := .succeeded
    remoteMessageIds := remoteMessageIds
    nextAttemptAt := none
    completedAt := some observedAt
    updatedAt := observedAt }

/-- `_confirm_published`. -/
def confirmPublished (E : PublishEnv) (record : PublishRecord) (body : TelegramReconcileIn)
    (ambiguous : PublishOperationReceipt) (inputs : ReconcileInputs) (observedAt : Datetime) :
    Except HttpError (Publication × PublishRecord) :=
  match validateReconciledRemoteIds ambiguous body.remoteMessageIds with
  | .error error => .error error
  | .ok () =>
    let receipts :=
      record.receipts.put (confirmedReceipt ambiguous body.remoteMessageIds observedAt)
    match orderedReceiptRemoteIds receipts with
    | .error error => .error ⟨422, error.message⟩
    | .ok remoteIds =>
      let permalink := body.permalink.or (E.permalink inputs.targetRef remoteIds)
      let job := { record.job with status := .succeeded, scheduledFor := none }
      match record.publication with
      | none =>
        if inputs.conflict then
          .error ⟨500, "Internal Server Error"⟩
        else
          let publication : Publication := {
            destinationId := record.job.destinationId
            platformVariantRevisionId := record.job.platformVariantRevisionId
            remoteMessageIds := remoteIds
            permalink := permalink
            payloadHash := record.job.payloadHash
            publishedAt := observedAt
            reconciliationStatus := "confirmed" }
          .ok (publication,
            { record with receipts := receipts, job := job, publication := some publication })
      | some existing =>
        if existing.destinationId ≠ record.job.destinationId
            ∨ existing.platformVariantRevisionId ≠ record.job.platformVariantRevisionId
            ∨ existing.payloadHash ≠ record.job.payloadHash
            ∨ existing.remoteMessageIds ≠ remoteIds
            ∨ existing.permalink ≠ permalink
            ∨ existing.reconciliationStatus ≠ "confirmed" then
          .error ⟨409, "Telegram publication conflicts with reconciliation"⟩
        else
          .ok (existing, { record with receipts := receipts, job := job })

/-- `_replay_reconciliation_decision`: the answer the recorded decision was given. -/
def replayReconciliationDecision (record : PublishRecord) (event : ReconciliationEvent) :
    Except HttpError ReconcileResult :=
  match event.outcome, record.publication, event.requeuedWorkflowJobId with
  | .published, some publication, _ => .ok (.published publication)
  | .notPublished, _, some workflowJobId => .ok (.requeued workflowJobId)
  | _, _, _ => .error ⟨409, "Prior reconciliation result is unavailable"⟩

/-- `reconcile_telegram_publish_job`, one transaction. `events` are the job's
reconciliation events, newest first. -/
def reconcile (E : PublishEnv) (record : PublishRecord) (events : List ReconciliationEvent)
    (body : TelegramReconcileIn) (inputs : ReconcileInputs) (observedAt : Datetime) :
    Except HttpError (ReconcileResult × PublishRecord × List ReconciliationEvent) :=
  let receipts := orderedReceipts record.receipts
  let decisionHash := E.decisionHash body
  if !inputs.destinationFound then
    .error ⟨404, "Telegram publish job not found"⟩
  else if body.outcome = .notPublished ∧ !inputs.available then
    .error ⟨503, "job_capability_unavailable"⟩
  else
    match events.find? fun event => eventMatchesReconciliationGeneration event receipts with
    | some event =>
      if event.decisionHash ≠ decisionHash then
        .error ⟨409, "Conflicting reconciliation decision"⟩
      else
        match record.replayReconciliationDecision event with
        | .error error => .error error
        | .ok result => .ok (result, record, events)
    | none =>
      if events.any fun event => event.decisionHash = decisionHash then
        .error ⟨409, "Stale reconciliation decision"⟩
      else
        match validateReconciliation receipts body.outcome body.remoteMessageIds with
        | .error error => .error ⟨409, error.message⟩
        | .ok ambiguous =>
          let generation := reconciliationGeneration ambiguous
          match body.outcome with
          | .notPublished =>
            let event : ReconciliationEvent :=
              ⟨decisionHash, .notPublished, generation, some inputs.requeuedJobId⟩
            .ok (.requeued inputs.requeuedJobId,
              record.requeueNotPublished ambiguous inputs observedAt, event :: events)
          | .published =>
            match record.confirmPublished E body ambiguous inputs observedAt with
            | .error error => .error error
            | .ok (publication, record) =>
              let event : ReconciliationEvent :=
                ⟨decisionHash, .published, generation, none⟩
              .ok (.published publication, record, event :: events)

end PublishRecord

end NewsCraft.Publishing
