import NewsCraft.Core.UuidText
import NewsCraft.Jobs.QueueKeys
import NewsCraft.Lib.Dict
import NewsCraft.Lib.WriteBack

/-!
# Continuous ingestion of a source collection

The scheduler makes the job of a subscription's next cycle and points the subscription at
it; the handler makes the ingest run of the cycle, ingests, and lets the subscription go on;
an operator can stop it in between.

All load the row with `SELECT … FOR UPDATE`, but a session that has loaded it before goes on
with its copy, and writes back the columns in which that changed.
-/

namespace NewsCraft.SourceCollections

open Lib Jobs

/-! ## Rows -/

inductive SubscriptionStatus where
  | starting
  | running
  | stopping
  | stopped
  | error
  deriving DecidableEq

/-- `CONTINUOUS_SUBSCRIPTION_ACTIVE_STATUSES`. -/
def SubscriptionStatus.active : SubscriptionStatus → Bool
  | .starting | .running | .stopping => true
  | .stopped | .error => false

/-- A row of `source_collection_ingestion_subscriptions`. -/
structure Subscription where
  id : UUID
  sourceCollectionId : Option UUID
  status : SubscriptionStatus
  intervalMinutes : Int
  idempotencyKey : String
  startedAt : Option Datetime
  stoppedAt : Option Datetime
  lastCycleAt : Option Datetime
  nextCycleAt : Option Datetime
  lastSuccessAt : Option Datetime
  cycleCount : Int
  lastCycleStatus : Option String
  lastError : Option String
  currentCycleJobId : Option UUID
  currentCycleRunId : Option UUID

inductive IngestRunStatus where
  | queued
  | running
  | succeeded
  | partialSuccess
  | failed

def IngestRunStatus.active : IngestRunStatus → Bool
  | .queued | .running => true
  | .succeeded | .partialSuccess | .failed => false

/-- A row of `ingest_runs`, as far as collections go. -/
structure IngestRun where
  id : UUID
  startedAt : Datetime
  status : IngestRunStatus
  sourceCollectionId : Option UUID
  continuousSubscriptionId : Option UUID
  continuousCycleNumber : Option Int

/-- A later run comes first in `order_by(started_at.desc(), id.desc())`. -/
def IngestRun.later (a b : IngestRun) : Bool :=
  b.startedAt < a.startedAt ∨ (b.startedAt = a.startedAt ∧ b.id.int.toNat < a.id.int.toNat)

instance : Keyed Subscription UUID := ⟨Subscription.id⟩
instance : Keyed IngestRun UUID := ⟨IngestRun.id⟩

/-! ## Copies -/

/-- The row after a session wrote back what it changed in its copy. -/
def Subscription.flush (loaded changed row : Subscription) : Subscription :=
  { row with
    status := written loaded.status changed.status row.status
    startedAt := written loaded.startedAt changed.startedAt row.startedAt
    stoppedAt := written loaded.stoppedAt changed.stoppedAt row.stoppedAt
    lastCycleAt := written loaded.lastCycleAt changed.lastCycleAt row.lastCycleAt
    nextCycleAt := written loaded.nextCycleAt changed.nextCycleAt row.nextCycleAt
    lastSuccessAt := written loaded.lastSuccessAt changed.lastSuccessAt row.lastSuccessAt
    cycleCount := written loaded.cycleCount changed.cycleCount row.cycleCount
    lastCycleStatus := written loaded.lastCycleStatus changed.lastCycleStatus row.lastCycleStatus
    lastError := written loaded.lastError changed.lastError row.lastError
    currentCycleJobId := written loaded.currentCycleJobId changed.currentCycleJobId
      row.currentCycleJobId
    currentCycleRunId := written loaded.currentCycleRunId changed.currentCycleRunId
      row.currentCycleRunId }

/-! ## Stopping -/

namespace Subscription

/-- `_mark_stopped`. -/
def markStopped (subscription : Subscription) (observedAt : Datetime) (reason : Option String) :
    Subscription :=
  { subscription with
    status := .stopped
    stoppedAt := some observedAt
    nextCycleAt := none
    lastError := reason.or subscription.lastError }

/-- `_stop_one`: the subscription, and whether the job of its cycle is cancelled. -/
def stopOne (subscription : Subscription) (jobs : JobsDb) (observedAt : Datetime)
    (reason : Option String) : Except JobError (Subscription × JobsDb) :=
  let stopped := markStopped
    { subscription with
      currentCycleJobId := none
      currentCycleRunId := none } observedAt reason
  match subscription.currentCycleJobId.bind jobs.jobs.lookup with
  | none => .ok (stopped, jobs)
  | some job =>
    if job.status = .running then
      .ok ({ subscription with
        status := .stopping
        nextCycleAt := none
        lastError := reason.or subscription.lastError }, jobs)
    else if job.status = .queued then
      (jobs.cancelJob job.id observedAt).map fun cancelled => (stopped, cancelled.2)
    else
      .ok (stopped, jobs)

/-! ## The handler's updates -/

/-- `_stop_without_cycle`. -/
def stopWithoutCycle (subscription : Subscription) (observedAt : Datetime)
    (lastCycleStatus : String) (error : Option String) : Subscription :=
  { subscription with
    status := .stopped
    stoppedAt := some observedAt
    nextCycleAt := none
    currentCycleJobId := none
    currentCycleRunId := none
    lastCycleStatus := some lastCycleStatus
    lastError := error.or subscription.lastError }

/-- `observed_at + timedelta(minutes=subscription.interval_minutes)`. -/
def cycleAfter (subscription : Subscription) (observedAt : Datetime) : Datetime :=
  observedAt + timedeltaMinutes subscription.intervalMinutes

/-- `_defer_cycle`. -/
def deferCycle (subscription : Subscription) (observedAt : Datetime) (status : String) :
    Subscription :=
  { subscription with
    status := .running
    cycleCount := subscription.cycleCount + 1
    lastCycleAt := some observedAt
    lastCycleStatus := some status
    nextCycleAt := some (subscription.cycleAfter observedAt)
    currentCycleJobId := none
    currentCycleRunId := none }

/-- `_finish_cycle`. -/
def finishCycle (subscription : Subscription) (cycleNumber : Int) (observedAt : Datetime)
    (status : String) (successful : Bool) (error : Option String) : Subscription :=
  let subscription :=
    { subscription with
      cycleCount := max subscription.cycleCount cycleNumber
      lastCycleAt := some observedAt
      lastCycleStatus := some status
      lastSuccessAt := if successful then some observedAt else subscription.lastSuccessAt
      currentCycleJobId := none
      currentCycleRunId := none
      lastError := if error.isSome then error else if successful then none else subscription.lastError }
  match subscription.status with
  | .stopping =>
    { subscription with
      status := .stopped
      stoppedAt := some observedAt
      nextCycleAt := none }
  | .starting | .running =>
    { subscription with
      status := .running
      nextCycleAt := some (subscription.cycleAfter observedAt) }
  | .stopped | .error => subscription

end Subscription

/-! ## Sessions -/

/-- What a handler carries from its first transaction to its last. -/
structure CycleWork where
  cycleNumber : Int
  runId : UUID

/-- A session that has loaded a subscription: `copy` is the row as it has it. -/
structure Session where
  id : UUID
  copy : Subscription
  job : Option JobExecution
  work : Option CycleWork

instance : Keyed Session UUID := ⟨Session.id⟩

/-- The tables, the open sessions, and the jobs the subscriptions were let go of. -/
structure CycleDb where
  world : World
  subscriptions : Table Subscription
  runs : Table IngestRun
  sessions : Table Session
  /-- The jobs whose handler, or a stop, took the pointer to them away. -/
  released : List UUID

/-- What the tables leave open. `int` is Python's, `none` where it raises. -/
structure CycleEnv where
  redaction : Redaction
  int : Json → Option Int

def cycleJobType : String := "ingest.collection.continuous_cycle"

def cycleKey (subscriptionId : UUID) (cycleNumber : Int) : String :=
  "continuous-source-collection-cycle:" ++ uuidStr subscriptionId ++ ":" ++ toString cycleNumber

def cyclePayload (subscriptionId : UUID) (cycleNumber : Int) : Json :=
  .obj [("subscription_id", .str (uuidStr subscriptionId)), ("cycle_number", .int cycleNumber)]

namespace CycleDb

variable (E : CycleEnv) (db : CycleDb)

/-- The job a row stops pointing at is let go of. -/
def letGo (row row' : Subscription) (released : List UUID) : List UUID :=
  match row.currentCycleJobId with
  | none => released
  | some jobId => if row'.currentCycleJobId = some jobId then released else jobId :: released

/-- A session writes its copy of a subscription back. -/
def writeBack (loaded changed row : Subscription) : CycleDb :=
  let row' := Subscription.flush loaded changed row
  { db with
    subscriptions := db.subscriptions.put row'
    released := letGo row row' db.released }

/-! ## Requests -/

/-- The arguments of `start_subscription`. -/
structure StartRequest where
  id : UUID
  collectionId : UUID
  idempotencyKey : String
  intervalMinutes : Int
  /-- `session.scalar(select(SourceCollection)…)` finds the collection. -/
  collectionFound : Bool
  now : Datetime

/-- How a request or a handler's transaction is refused. -/
inductive CycleStop where
  | valueError
  | lookupError
  | conflict (code : String)
  | job (error : JobError)
  | exception (name : String)

/-- `start_subscription`. -/
def startSubscription (request : StartRequest) : Except CycleStop CycleDb :=
  if ¬ (1 ≤ request.intervalMinutes ∧ request.intervalMinutes ≤ 1440) then
    .error .valueError
  else if request.collectionFound = false then
    .error .lookupError
  else
    match db.subscriptions.rows.find? fun row => row.idempotencyKey = request.idempotencyKey with
    | some existing =>
      if existing.sourceCollectionId ≠ some request.collectionId then
        .error (.conflict "continuous_ingestion_idempotency_key_reused")
      else
        .ok db
    | none =>
      if db.subscriptions.rows.any fun row =>
          row.sourceCollectionId = some request.collectionId && row.status.active then
        .error (.conflict "continuous_ingestion_already_running")
      else if db.runs.rows.any fun run =>
          run.sourceCollectionId = some request.collectionId && run.status.active then
        .error (.conflict "collection_ingest_already_running")
      else if (db.subscriptions.lookup request.id).isSome then
        .error (.exception "IntegrityError")
      else
        .ok { db with
          subscriptions := db.subscriptions.insert
            { id := request.id
              sourceCollectionId := some request.collectionId
              status := .starting
              intervalMinutes := request.intervalMinutes
              idempotencyKey := request.idempotencyKey
              startedAt := some request.now
              stoppedAt := none
              lastCycleAt := none
              nextCycleAt := some request.now
              lastSuccessAt := none
              cycleCount := 0
              lastCycleStatus := none
              lastError := none
              currentCycleJobId := none
              currentCycleRunId := none } }

/-- `stop_subscription`, in a session that may have loaded the subscription before. -/
def stopSubscription (copy : Option Subscription) (subscriptionId : UUID) (now : Datetime)
    (reason : Option String) : Except CycleStop CycleDb :=
  match db.subscriptions.lookup subscriptionId with
  | none => .error .lookupError
  | some row =>
    let loaded := copy.getD row
    if loaded.status = .stopped ∨ loaded.status = .error then
      .ok db
    else
      match loaded.stopOne db.world.db now reason with
      | .error error => .error (.job error)
      | .ok (changed, jobs) =>
        .ok { db.writeBack loaded changed row with
          world := { db.world with db := jobs } }

/-! ## The scheduler -/

/-- `build_due_continuous_subscription_statement`. -/
def due (row : Subscription) (now : Datetime) : Bool :=
  row.status.active && row.nextCycleAt.any fun next => next ≤ now

/-- `_cycle_number_from_job`. -/
def cycleNumberFromJob (job : WorkflowJob) (fallback : Int) : Int :=
  match E.int ((job.payload.get? "cycle_number").getD (.int fallback)) with
  | none => fallback
  | some value => max 1 value

/-- `str((current_job.result or {}).get("status") or "succeeded")`. -/
def resultStatus (job : WorkflowJob) : String :=
  match job.result.get? "status" with
  | some (.str status) => if status = "" then "succeeded" else status
  | _ => "succeeded"

def cycleFailed (row : Subscription) (job : WorkflowJob) (now : Datetime) : Subscription :=
  { row with
    status := .error
    stoppedAt := some now
    nextCycleAt := none
    lastError := some (match job.errorMessage with
      | some message => if message = "" then "Continuous ingestion cycle did not complete." else message
      | none => "Continuous ingestion cycle did not complete.")
    currentCycleJobId := none
    currentCycleRunId := none }

/-- The cycle succeeded, and its handler did not say so. -/
def cycleSucceeded (row : Subscription) (job : WorkflowJob) (now : Datetime) : Subscription :=
  let status := resultStatus job
  { row with
    cycleCount := max row.cycleCount (cycleNumberFromJob E job (row.cycleCount + 1))
    lastCycleAt := some now
    lastCycleStatus := some status
    lastSuccessAt := if status = "succeeded" then some now else row.lastSuccessAt
    lastError := if status = "succeeded" then none else row.lastError
    currentCycleJobId := none
    currentCycleRunId := none
    status := .running
    nextCycleAt := some (row.cycleAfter now) }

def enqueueCycle (row : Subscription) (jobId : UUID) (now : Datetime) : Except JobError CycleDb :=
  let cycleNumber := row.cycleCount + 1
  match db.world.db.enqueueJob E.redaction
      { jobType := cycleJobType
        payload := cyclePayload row.id cycleNumber
        idempotencyKey := cycleKey row.id cycleNumber
        origin := .scheduler
        priority := 5
        scheduledFor := some (row.nextCycleAt.getD now)
        pauseSensitive := false } true jobId now with
  | .error error => .error error
  | .ok ((job, _), jobs) =>
    let row' :=
      { row with
        currentCycleJobId := some job.id
        status := .running
        startedAt := some (row.startedAt.getD now) }
    .ok { db with
      world := { db.world with db := jobs }
      subscriptions := db.subscriptions.put row'
      released := letGo row row' db.released }

/-- One round of `_schedule_continuous_cycles`, on a row its statement locked. -/
def scheduleContinuousCycle (subscriptionId jobId : UUID) (now : Datetime) :
    Except JobError CycleDb :=
  match db.subscriptions.lookup subscriptionId with
  | none => .ok db
  | some row =>
    if due row now = false then
      .ok db
    else
      match row.currentCycleJobId.bind db.world.db.jobs.lookup with
      | none =>
        db.enqueueCycle E { row with currentCycleJobId := none, currentCycleRunId := none }
          jobId now
      | some job =>
        match job.status with
        | .queued | .running => .ok db
        | .failed | .needsReview | .cancelled =>
          .ok { db with
            subscriptions := db.subscriptions.put (cycleFailed row job now)
            released := letGo row (cycleFailed row job now) db.released }
        | .succeeded =>
          .ok { db with
            subscriptions := db.subscriptions.put (cycleSucceeded E row job now)
            released := letGo row (cycleSucceeded E row job now) db.released }

/-! ## The handler -/

/-- The subscription and the number of the cycle a payload names. -/
def cycleOf (E : CycleEnv) (payload : Json) : Option (UUID × Int) :=
  match payload.get? "subscription_id" with
  | some (.str subscriptionId) =>
    (parseUuid subscriptionId).bind fun subscriptionId =>
      ((payload.get? "cycle_number").bind fun value =>
        match value with
        | .int _ | .bool _ | .float _ | .str _ => E.int value
        | .null | .arr _ | .obj _ => none).bind fun cycleNumber =>
          if cycleNumber < 1 then none else some (subscriptionId, cycleNumber)
  | _ => none

/-- What the first transaction of a handler finds beside the tables. -/
structure Entry where
  now : Datetime
  /-- `get_collection` finds the collection of the copy. -/
  collectionFound : Bool
  /-- `collection_source_count`, and again after the snapshot found no member. -/
  sourceCount : Nat
  recount : Nat
  /-- The members `create_collection_ingest_snapshot` finds. -/
  memberCount : Nat
  runId : UUID

/-- What the first transaction of a handler comes to. -/
inductive EntryAction where
  /-- The handler returns without a write. -/
  | leave
  /-- The handler writes the subscription and returns. -/
  | last (changed : Subscription)
  /-- The run of the cycle is there, or was made. -/
  | work (run : IngestRun) (runs : Table IngestRun)

def runOfCycle (subscriptionId : UUID) (cycleNumber : Int) : Option IngestRun :=
  (db.runs.rows.filter fun run => run.continuousSubscriptionId = some subscriptionId
      ∧ run.continuousCycleNumber = some cycleNumber).foldl
    (fun latest run =>
      match latest with
      | none => some run
      | some latest => if run.later latest then some run else some latest)
    none

/-- The run of the cycle that the payload names. -/
def runOfPayload (db : CycleDb) (payload : Json) : Option IngestRun :=
  match payload.get? "ingest_run_id" with
  | some (.str runId) => (parseUuid runId).bind db.runs.lookup
  | _ => none

/-- The run of a cycle that has none yet; a second active run breaks a unique index. -/
def makeRun (copy : Subscription) (collectionId : UUID) (cycleNumber : Int) (entry : Entry) :
    Except CycleStop EntryAction :=
  let waiting := copy.finishCycle cycleNumber entry.now "waiting_for_sources" false none
  if entry.sourceCount = 0 then
    .ok (.last waiting)
  else if entry.memberCount = 0 then
    if entry.recount = 0 then .ok (.last waiting)
    else .error (.exception "continuous_snapshot_failed")
  else if (db.runs.lookup entry.runId).isSome then
    .error (.exception "IntegrityError")
  else if db.runs.rows.any fun run =>
      run.sourceCollectionId = some collectionId && run.status.active then
    .error (.exception "IntegrityError")
  else
    let run :=
      { id := entry.runId
        startedAt := entry.now
        status := .queued
        sourceCollectionId := some collectionId
        continuousSubscriptionId := some copy.id
        continuousCycleNumber := some cycleNumber }
    .ok (.work run (db.runs.insert run))

/-- The decision where the copy of the subscription goes on. -/
def cycleRun (copy : Subscription) (payload : Json) (cycleNumber : Int) (entry : Entry) :
    Except CycleStop EntryAction :=
  let deleted := copy.stopWithoutCycle entry.now "collection_deleted"
    (some "Source Collection was deleted.")
  match copy.sourceCollectionId with
  | none => .ok (.last deleted)
  | some collectionId =>
    if entry.collectionFound = false then
      .ok (.last deleted)
    else if db.runs.rows.any fun run => run.sourceCollectionId = some collectionId
        && run.status.active && run.continuousSubscriptionId ≠ some copy.id then
      .ok (.last (copy.deferCycle entry.now "waiting_for_collection"))
    else
      match (db.runOfPayload payload).or (db.runOfCycle copy.id cycleNumber) with
      | some run => .ok (.work run db.runs)
      | none => db.makeRun copy collectionId cycleNumber entry

/-- The decision of the first transaction, on the copy of the subscription. -/
def enterCycle (copy : Subscription) (payload : Json) (cycleNumber : Int) (entry : Entry) :
    Except CycleStop EntryAction :=
  if copy.cycleCount ≥ cycleNumber ∧ copy.currentCycleJobId = none then
    .ok .leave
  else
    match copy.status with
    | .stopping => .ok (.last (copy.stopWithoutCycle entry.now "stopped" none))
    | .stopped | .error => .ok .leave
    | .starting | .running => db.cycleRun copy payload cycleNumber entry

def checkpointPayload (payload : Json) (cycleNumber : Int) (runId : UUID) : Json :=
  match payload with
  | .obj fields =>
    .obj (Dict.put (Dict.put fields "ingest_run_id" (.str (uuidStr runId)))
      "cycle_number" (.int cycleNumber))
  | payload => payload

def close (sessionId : UUID) : CycleDb := { db with sessions := db.sessions.erase sessionId }

/-- The handler `handle_source_collection_continuous_cycle` begins: it loads its subscription
without a lock. -/
def begin (sessionId : UUID) (job : JobExecution) : Except CycleStop CycleDb :=
  match cycleOf E job.payload with
  | none => .error (.exception "PermanentJobError")
  | some (subscriptionId, _) =>
    match db.subscriptions.lookup subscriptionId with
    | none => .ok db
    | some row =>
      .ok { db with
        sessions := db.sessions.insert
          { id := sessionId
            copy := row
            job := some job
            work := none } }

/-- The first transaction of the handler, up to its commit. -/
def enter (session : Session) (job : JobExecution) (entry : Entry) : Except CycleStop CycleDb :=
  match cycleOf E job.payload, db.subscriptions.lookup session.copy.id with
  | some (_, cycleNumber), some row =>
    match db.enterCycle session.copy job.payload cycleNumber entry with
    | .error stop => .error stop
    | .ok .leave => .ok (db.close session.id)
    | .ok (.last changed) => .ok ((db.writeBack session.copy changed row).close session.id)
    | .ok (.work run runs) =>
      let changed := { session.copy with currentCycleRunId := some run.id }
      match db.world.db.checkpointJob E.redaction job.id job.leaseOwner
          (some (checkpointPayload job.payload cycleNumber run.id)) none entry.now with
      | .error error => .error (.job error)
      | .ok jobs =>
        .ok { db.writeBack session.copy changed row with
          world := { db.world with db := jobs }
          runs := runs
          sessions := db.sessions.put
            { session with
              copy := changed
              work := some ⟨cycleNumber, run.id⟩ } }
  | _, _ => .ok (db.close session.id)

/-- The subscription as the last transaction of the handler leaves its copy. -/
def completed (copy : Subscription) (work : CycleWork) (failed : Bool) (now : Datetime) :
    Subscription :=
  copy.finishCycle work.cycleNumber now (if failed then "partial" else "succeeded") (!failed)
    (if failed then some "One or more sources failed." else none)

/-- The last transaction of the handler, once the run was ingested. -/
def complete (session : Session) (work : CycleWork) (failed : Bool) (now : Datetime) : CycleDb :=
  match db.subscriptions.lookup session.copy.id with
  | none => db.close session.id
  | some row =>
    (db.writeBack session.copy (completed session.copy work failed now) row).close session.id

end CycleDb

end NewsCraft.SourceCollections
