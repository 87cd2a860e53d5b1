import Mathlib.Logic.Function.Basic
import NewsCraft.Jobs.System

/-!
# Publish intents

Two kinds of publish job may exist for a reviewed revision, an immediate and a scheduled
one. A session is one transaction of the three entry points that create them: lock the
variant and load the revision, select the job under its own key, select the one under the
other kind's key, then insert, enqueue and commit. Others commit in between, but rewrite
nothing that identifies a job; rows selected `FOR UPDATE` stay locked to the end.

Checks that read other tables only decide whether a session goes on: their verdicts are
arguments of the steps.
-/

namespace NewsCraft.Publishing

open Lib Jobs

/-! ## Keys -/

/-- `immediate_publish_intent_key`. -/
def immediatePublishIntentKey (destinationId revisionId : UUID) (contentHash : String) : String :=
  "telegram-publish:" ++ uuidStr destinationId ++ ":" ++ uuidStr revisionId ++ ":" ++ contentHash

/-- `reviewed_schedule_intent_key`. -/
def reviewedScheduleIntentKey (destinationId revisionId : UUID) (contentHash : String) : String :=
  "telegram-publish-schedule:" ++ uuidStr destinationId ++ ":" ++ uuidStr revisionId ++ ":"
    ++ contentHash

/-! ## Tables -/

/-- What identifies a row of `platform_variant_revisions` and its content; none of
it is ever rewritten. -/
structure PlatformVariantRevision where
  id : UUID
  platformVariantId : UUID
  contentHash : String
  deriving DecidableEq

instance : Keyed PlatformVariantRevision UUID := ⟨PlatformVariantRevision.id⟩

/-- The columns of a publish job that are never rewritten. -/
structure PublishIntent where
  id : UUID
  destinationId : UUID
  revisionId : UUID
  idempotencyKey : String
  deriving DecidableEq

def PublishRecord.intent (record : PublishRecord) : PublishIntent :=
  ⟨record.job.id, record.job.destinationId, record.job.platformVariantRevisionId,
    record.job.idempotencyKey⟩

def publishJobByKey (db : JobsDb) (idempotencyKey : String) : Option PublishRecord :=
  db.publishing.rows.find? fun record => record.job.idempotencyKey = idempotencyKey

structure IntentTables where
  db : JobsDb
  revisions : Table PlatformVariantRevision

/-! ## Requests -/

/-- One of the three ways to ask for a publication. -/
inductive IntentRequest where
  /-- The automation writes `revision`, which the policy approves. -/
  | approve (revision : PlatformVariantRevision) (destinationId : UUID)
  | publish (revisionId : UUID) (contentHash : String) (destinationId : UUID)
  | schedule (revisionId : UUID) (contentHash : String) (destinationId : UUID)
      (scheduledFor : Datetime)

def IntentRequest.destinationId : IntentRequest → UUID
  | .approve _ destinationId | .publish _ _ destinationId | .schedule _ _ destinationId _ =>
    destinationId

def IntentRequest.immediate : IntentRequest → Bool
  | .approve _ _ | .publish _ _ _ => true
  | .schedule _ _ _ _ => false

/-- The key a request looks up first, and would create. -/
def IntentRequest.ownKey (request : IntentRequest) (revision : PlatformVariantRevision) : String :=
  if request.immediate then
    immediatePublishIntentKey request.destinationId revision.id revision.contentHash
  else
    reviewedScheduleIntentKey request.destinationId revision.id revision.contentHash

def IntentRequest.otherKey (request : IntentRequest) (revision : PlatformVariantRevision) :
    String :=
  if request.immediate then
    reviewedScheduleIntentKey request.destinationId revision.id revision.contentHash
  else
    immediatePublishIntentKey request.destinationId revision.id revision.contentHash

/-- The revision a request is about, with the content the operator saw. -/
def IntentTables.target (tables : IntentTables) : IntentRequest → Option PlatformVariantRevision
  | .approve revision _ => some revision
  | .publish revisionId contentHash _ | .schedule revisionId contentHash _ _ =>
    match tables.revisions.lookup revisionId with
    | none => none
    | some revision => if revision.contentHash = contentHash then some revision else none

/-- What a session's last transaction step can raise. -/
inductive IntentError where
  | handler (error : HandlerError)
  /-- `ReviewedTelegramDraftError`. -/
  | reviewedDraft (message : String) (statusCode : Nat)
  /-- `ReviewedTelegramScheduleError`. -/
  | reviewedSchedule (code message : String) (statusCode : Nat)
  | job (error : JobError)
  | integrityError (constraint : String)

/-- What a session's last step is given: ids, clock readings, and the verdicts of checks. -/
structure IntentInputs where
  publishJobId : UUID
  workflowJobId : UUID
  available : Bool
  insertedAt : Datetime
  now : Datetime
  enqueuedAt : Datetime
  routeRefusal : Option IntentError
  destinationRefusal : Option IntentError

/-! ## Writing an intent -/

/-- Insert a publish job, or find the row that has its key; the flag says which. -/
def insertIntent (db : JobsDb) (job : PublishJob) :
    Except IntentError ((PublishRecord × Bool) × JobsDb) :=
  if (publishJobByKey db job.idempotencyKey).isSome ∨ (db.publishing.lookup job.id).isSome then
    match publishJobByKey db job.idempotencyKey with
    | some record => .ok ((record, false), db)
    | none => .error (.integrityError "publish_jobs_pkey")
  else
    let record : PublishRecord := ⟨job, Table.empty, [], none⟩
    .ok ((record, true), { db with publishing := db.publishing.insert record })

/-- The publish job of an intent, before its workflow job is known. -/
def intentRow (request : IntentRequest) (revision : PlatformVariantRevision) (id : UUID) :
    PublishJob where
  id := id
  workflowJobId := none
  destinationId := request.destinationId
  platformVariantRevisionId := revision.id
  status := match request with
    | .schedule _ _ _ _ => .scheduled
    | .approve _ _ | .publish _ _ _ => .queued
  idempotencyKey := request.ownKey revision
  payloadHash := revision.contentHash
  scheduledFor := match request with
    | .schedule _ _ _ scheduledFor => some scheduledFor
    | .approve _ _ | .publish _ _ _ => none

def intentJob (request : IntentRequest) (revision : PlatformVariantRevision)
    (record : PublishRecord) : JobsDb.EnqueueJob where
  jobType := "telegram.publish"
  payload := .obj [("publish_job_id", .str (uuidStr record.job.id))]
  idempotencyKey := request.ownKey revision
  origin := match request with
    | .schedule _ _ _ _ => .manual
    | .approve _ _ | .publish _ _ _ => .automation
  scheduledFor := match request with
    | .schedule _ _ _ scheduledFor => some scheduledFor
    | .approve _ _ | .publish _ _ _ => none
  pauseSensitive := true

/-- Link a publish job to the workflow job that drives it. -/
def linkWorkflowJob (db : JobsDb) (record : PublishRecord) (job : WorkflowJob) :
    PublishRecord × JobsDb :=
  let record := { record with job := { record.job with workflowJobId := some job.id } }
  (record, { db with publishing := db.publishing.put record })

/-- `enqueue_telegram_publish_intent`, from the rows it selected to its commit. -/
def enqueueTelegramPublishIntent (R : Redaction) (db : JobsDb) (request : IntentRequest)
    (revision : PlatformVariantRevision) (own other : Option PublishRecord)
    (inputs : IntentInputs) : Except IntentError (PublishRecord × JobsDb) :=
  let found : Except IntentError ((PublishRecord × Bool) × JobsDb) :=
    match own, other with
    | some record, _ => .ok ((record, false), db)
    | none, some _ =>
      .error (.handler (.needsReview "telegram_publish_already_scheduled"
        "Telegram revision already has a reviewed publish schedule"))
    | none, none => insertIntent db (intentRow request revision inputs.publishJobId)
  match found with
  | .error error => .error error
  | .ok ((record, _), db) =>
    match db.enqueueJob R (intentJob request revision record) inputs.available
        inputs.workflowJobId inputs.now with
    | .error error => .error (.job error)
    | .ok ((job, _), db) => .ok (linkWorkflowJob db record job)

/-- `publish_reviewed_draft` turns the refusal to publish a scheduled revision into
one of its own. -/
def publishReviewedDraftError : IntentError → IntentError
  | .handler (.needsReview code message) =>
    if code = "telegram_publish_already_scheduled" then
      .reviewedDraft "Telegram draft is already scheduled for publication" 409
    else
      .handler (.needsReview code message)
  | error => error

/-- A `telegram_schedule_*` refusal. -/
def scheduleError (code message : String) : IntentError := .reviewedSchedule code message 409

/-- `_validate_schedule_replay`: the rows are exactly those this request would
have made. -/
def validateScheduleReplay (record : PublishRecord) (job : WorkflowJob) (request : IntentRequest)
    (revision : PlatformVariantRevision) (scheduledFor : Datetime) : Except IntentError Unit :=
  if record.publication.isSome then
    .error (scheduleError "telegram_schedule_already_published"
      "Telegram revision is already published")
  else if record.job.destinationId ≠ request.destinationId
      ∨ record.job.platformVariantRevisionId ≠ revision.id
      ∨ record.job.idempotencyKey ≠ request.ownKey revision
      ∨ record.job.workflowJobId ≠ some job.id
      ∨ record.job.status ≠ .scheduled
      ∨ record.job.scheduledFor ≠ some scheduledFor then
    .error (scheduleError "telegram_schedule_conflict"
      "Existing Telegram publish intent conflicts with this schedule")
  else if job.jobType ≠ "telegram.publish" ∨ job.idempotencyKey ≠ request.ownKey revision
      ∨ job.status ≠ .queued
      ∨ job.origin ≠ .manual
      ∨ job.pauseSensitive ≠ true
      ∨ job.scheduledFor ≠ some scheduledFor
      ∨ job.payload ≠ .obj [("publish_job_id", .str (uuidStr record.job.id))] then
    .error (scheduleError "telegram_schedule_workflow_drift"
      "Existing Telegram workflow drift conflicts with this schedule")
  else
    .ok ()

/-- The publish job of a schedule: the one under its key, or a new one. -/
def scheduledIntent (db : JobsDb) (request : IntentRequest) (revision : PlatformVariantRevision)
    (scheduledFor : Datetime) (own other : Option PublishRecord) (inputs : IntentInputs) :
    Except IntentError ((PublishRecord × Bool) × JobsDb) :=
  match own, other with
  | some record, _ => .ok ((record, false), db)
  | none, some _ =>
    .error (scheduleError "telegram_publish_already_queued"
      "Telegram revision is already queued for immediate publication")
  | none, none =>
    if scheduledFor ≤ inputs.insertedAt then
      .error (scheduleError "telegram_schedule_not_future"
        "scheduled_for must be strictly in the future")
    else
      insertIntent db (intentRow request revision inputs.publishJobId)

/-- `schedule_reviewed_telegram`, from the rows it selected to its commit. -/
def scheduleReviewedTelegram (R : Redaction) (db : JobsDb) (request : IntentRequest)
    (revision : PlatformVariantRevision) (scheduledFor : Datetime)
    (own other : Option PublishRecord) (inputs : IntentInputs) :
    Except IntentError (PublishRecord × JobsDb) :=
  match inputs.routeRefusal with
  | some error => .error error
  | none =>
    match scheduledIntent db request revision scheduledFor own other inputs with
    | .error error => .error error
    | .ok ((record, created), db) =>
      match inputs.destinationRefusal, created,
          db.getByIdempotencyKey (request.ownKey revision) with
      | some error, _, _ => .error error
      | none, true, some _ | none, false, none =>
        .error (scheduleError "telegram_schedule_durable_drift"
          "Existing Telegram durable rows conflict with this schedule")
      | none, false, some job =>
        match validateScheduleReplay record job request revision scheduledFor with
        | .error error => .error error
        | .ok () => .ok (record, db)
      | none, true, none =>
        match db.enqueueJob R (intentJob request revision record) inputs.available
            inputs.workflowJobId inputs.now with
        | .error error => .error (.job error)
        | .ok ((_, false), _) =>
          .error (scheduleError "telegram_schedule_concurrent_drift"
            "Telegram workflow already exists without a matching publish intent")
        | .ok ((job, true), db) =>
          if scheduledFor ≤ inputs.enqueuedAt then
            .error (scheduleError "telegram_schedule_not_future"
              "scheduled_for must be strictly in the future")
          else
            .ok (linkWorkflowJob db record job)

/-- The last step of a session: what it writes and commits, and the publish job it
answers with. -/
def IntentTables.finish (R : Redaction) (tables : IntentTables) (request : IntentRequest)
    (revision : PlatformVariantRevision) (own other : Option PublishRecord)
    (inputs : IntentInputs) : Except IntentError (PublishRecord × IntentTables) :=
  match request with
  | .approve _ _ =>
    if (tables.revisions.lookup revision.id).isSome then
      .error (.integrityError "platform_variant_revisions_pkey")
    else
      match enqueueTelegramPublishIntent R tables.db request revision own other inputs with
      | .error error => .error error
      | .ok (record, db) => .ok (record, ⟨db, tables.revisions.insert revision⟩)
  | .publish _ _ _ =>
    match inputs.destinationRefusal with
    | some error => .error error
    | none =>
      match enqueueTelegramPublishIntent R tables.db request revision own other inputs with
      | .error error => .error (publishReviewedDraftError error)
      | .ok (record, db) => .ok (record, { tables with db := db })
  | .schedule _ _ _ scheduledFor =>
    match scheduleReviewedTelegram R tables.db request revision scheduledFor own other inputs with
    | .error error => .error error
    | .ok (record, db) => .ok (record, { tables with db := db })

/-! ## Sessions -/

inductive IntentPhase where
  | idle
  | locked (request : IntentRequest) (revision : PlatformVariantRevision)
  | foundOwn (request : IntentRequest) (revision : PlatformVariantRevision)
      (own : Option PublishRecord)
  | foundBoth (request : IntentRequest) (revision : PlatformVariantRevision)
      (own other : Option PublishRecord)

/-- The committed rows, the row locks, and the open sessions. -/
structure IntentWorld where
  tables : IntentTables
  variantLock : UUID → Option Nat
  publishJobLock : UUID → Option Nat
  sessions : Nat → IntentPhase

inductive IntentEvent where
  | lock (session : Nat) (request : IntentRequest) (refusal : Option IntentError)
  | findOwn (session : Nat)
  | findOther (session : Nat)
  | finish (session : Nat) (inputs : IntentInputs)
  /-- The session raises, or its process dies. -/
  | rollback (session : Nat)
  /-- Generation and manual edits write revisions too. -/
  | addRevision (revision : PlatformVariantRevision)
  /-- A call of the job repository. -/
  | jobs (op : Op)
  /-- A worker, a sweep, a cancellation or an operator rewrites a publish job. -/
  | rewrite (record : PublishRecord)

namespace IntentWorld

def setSession (w : IntentWorld) (session : Nat) (phase : IntentPhase) : IntentWorld :=
  { w with sessions := Function.update w.sessions session phase }

def close (w : IntentWorld) (session : Nat) : IntentWorld :=
  { w.setSession session .idle with
    variantLock := fun id => if w.variantLock id = some session then none else w.variantLock id
    publishJobLock := fun id =>
      if w.publishJobLock id = some session then none else w.publishJobLock id }

def free (w : IntentWorld) (session : Nat) (record : PublishRecord) : Bool :=
  w.publishJobLock record.job.id = none || w.publishJobLock record.job.id = some session

/-- Select a publish job `FOR UPDATE`; `none` while somebody else has it locked. -/
def selectForUpdate (w : IntentWorld) (session : Nat) (idempotencyKey : String) :
    Option (Option PublishRecord × IntentWorld) :=
  match publishJobByKey w.tables.db idempotencyKey with
  | none => some (none, w)
  | some record =>
    if w.free session record then
      some (some record, { w with
        publishJobLock := Function.update w.publishJobLock record.job.id (some session) })
    else
      none

/-- The state after one step; a step that is not possible, or has to wait, changes
nothing. -/
def step (R : Redaction) (w : IntentWorld) : IntentEvent → IntentWorld
  | .lock session request refusal =>
    match w.sessions session, w.tables.target request, refusal with
    | .idle, some revision, none =>
      if (w.variantLock revision.platformVariantId).isSome then
        w
      else
        { w.setSession session (.locked request revision) with
          variantLock :=
            Function.update w.variantLock revision.platformVariantId (some session) }
    | _, _, _ => w
  | .findOwn session =>
    match w.sessions session with
    | .locked request revision =>
      match w.selectForUpdate session (request.ownKey revision) with
      | none => w
      | some (own, w) => w.setSession session (.foundOwn request revision own)
    | _ => w
  | .findOther session =>
    match w.sessions session with
    | .foundOwn request revision own =>
      -- the immediate paths look for a schedule only when they found nothing
      if request.immediate ∧ own.isSome then
        w.setSession session (.foundBoth request revision own none)
      else
        match w.selectForUpdate session (request.otherKey revision) with
        | none => w
        | some (other, w) => w.setSession session (.foundBoth request revision own other)
    | _ => w
  | .finish session inputs =>
    match w.sessions session with
    | .foundBoth request revision own other =>
      match w.tables.finish R request revision own other inputs with
      | .error _ => w.close session
      | .ok (_, tables) => { w.close session with tables := tables }
    | _ => w
  | .rollback session => w.close session
  | .addRevision revision =>
    { w with tables := { w.tables with revisions := w.tables.revisions.insert revision } }
  | .jobs op =>
    { w with tables := { w.tables with
        db := { w.tables.db with jobs := ((World.mk w.tables.db [] []).step R op).db.jobs } } }
  | .rewrite record =>
    match w.tables.db.publishing.lookup record.job.id with
    | none => w
    | some old =>
      if record.intent = old.intent ∧ w.publishJobLock record.job.id = none then
        { w with tables := { w.tables with
            db := { w.tables.db with publishing := w.tables.db.publishing.put record } } }
      else
        w

def empty : IntentWorld :=
  ⟨⟨World.empty.db, Table.empty⟩, fun _ => none, fun _ => none, fun _ => .idle⟩

def run (R : Redaction) (events : List IntentEvent) : IntentWorld := events.foldl (step R) empty

end IntentWorld

/-- Every interleaving of the sessions with each other and with everything that
rewrites jobs. -/
def intentSystem (R : Redaction) : System IntentWorld IntentEvent where
  init w := w = .empty
  step w event w' := w' = w.step R event

theorem IntentWorld.run_reachable (R : Redaction) (events : List IntentEvent) :
    (intentSystem R).Reachable (run R events) :=
  System.reachable_foldl (S := intentSystem R) (fun _ _ => rfl) (.init rfl) events

end NewsCraft.Publishing
