import NewsCraft.Jobs.RowWrites
import NewsCraft.SourceCollections.Continuous

/-!
# The parties of a subscription

Workers run the handlers of cycle jobs, the scheduler makes the jobs, requests start and
stop subscriptions, and any of them may die between two transactions. An event is one
committed transaction, or a read that a session keeps a copy of.

Each transaction has one lemma that says what it can do to the subscription, the sessions,
the runs and the queue. The invariants are proved from these.
-/

namespace NewsCraft.SourceCollections

open Lib Jobs

namespace CycleDb

variable (E : CycleEnv) (db : CycleDb)

/-! ## Histories -/

/-- One committed transaction, or a read, of one of the parties. -/
inductive CycleEvent where
  /-- A worker, an operator or the lease sweep calls the job repository. -/
  | job (op : Op)
  /-- The ingestion, or another trigger, writes a run. -/
  | ingest (run : IngestRun)
  | start (request : StartRequest)
  /-- A request loads the subscription before it stops it. -/
  | load (sessionId subscriptionId : UUID)
  | stop (sessionId : Option UUID) (subscriptionId : UUID) (now : Datetime) (reason : Option String)
  | tick (subscriptionId jobId : UUID) (now : Datetime)
  | begin (sessionId : UUID) (job : JobExecution)
  | enter (sessionId : UUID) (entry : Entry)
  | complete (sessionId : UUID) (failed : Bool) (now : Datetime)
  /-- A worker dies, an exception ends a handler, or a request is over. -/
  | close (sessionId : UUID)

/-- A transaction that raises leaves the tables alone. -/
def commitOr {ε : Type} (result : Except ε CycleDb) : CycleDb :=
  match result with
  | .ok db' => db'
  | .error _ => db

/-- The copy a request has of the subscription it stops. -/
def copyOf (sessionId : Option UUID) (subscriptionId : UUID) : Option Subscription :=
  ((sessionId.bind db.sessions.lookup).map Session.copy).filter fun copy =>
    copy.id = subscriptionId

def next : CycleEvent → CycleDb
  | .job op => { db with world := db.world.step E.redaction op }
  | .ingest run =>
    match db.runs.lookup run.id with
    | none =>
      if run.status.active && db.runs.rows.any fun other => run.sourceCollectionId.isSome
          && other.sourceCollectionId = run.sourceCollectionId && other.status.active then
        db
      else
        { db with
          runs := db.runs.insert
            { run with
              continuousSubscriptionId := none
              continuousCycleNumber := none } }
    | some before =>
      { db with
        runs := db.runs.put
          { run with
            continuousSubscriptionId := before.continuousSubscriptionId
            continuousCycleNumber := before.continuousCycleNumber } }
  | .start request => db.commitOr (db.startSubscription request)
  | .load sessionId subscriptionId =>
    match db.subscriptions.lookup subscriptionId with
    | none => db
    | some row => { db with sessions := db.sessions.insert ⟨sessionId, row, none, none⟩ }
  | .stop sessionId subscriptionId now reason =>
    db.commitOr (db.stopSubscription (db.copyOf sessionId subscriptionId) subscriptionId now reason)
  | .tick subscriptionId jobId now => db.commitOr (db.scheduleContinuousCycle E subscriptionId jobId now)
  | .begin sessionId job => db.commitOr (db.begin E sessionId job)
  | .enter sessionId entry =>
    match db.sessions.lookup sessionId with
    | some ⟨_, copy, some job, none⟩ =>
      (db.close sessionId).commitOr (db.enter E ⟨sessionId, copy, some job, none⟩ job entry)
    | _ => db
  | .complete sessionId failed now =>
    match db.sessions.lookup sessionId with
    | some ⟨_, copy, job, some work⟩ =>
      db.complete ⟨sessionId, copy, job, some work⟩ work failed now
    | _ => db
  | .close sessionId => db.close sessionId

def empty : CycleDb := ⟨World.empty, Table.empty, Table.empty, Table.empty, []⟩

/-- The key is one of a cycle of the subscription. -/
def CycleKey (subscriptionId : UUID) (key : String) : Prop :=
  ∃ cycleNumber, key = cycleKey subscriptionId cycleNumber

/-- Nobody but the scheduler enqueues under the key of a cycle, and a handler runs on a lease
that was granted. -/
def Allowed (db : CycleDb) : CycleEvent → Prop
  | .job (.enqueue args _ _ _) => ∀ subscriptionId, ¬ CycleKey subscriptionId args.idempotencyKey
  | .begin _ execution =>
    ⟨execution.id, execution.attemptCount, execution.leaseOwner⟩ ∈ db.world.grants
  | _ => True

end CycleDb

/-- Subscriptions, the scheduler, handlers and requests, in every order. -/
def cycleSystem (E : CycleEnv) : System CycleDb CycleDb.CycleEvent where
  init db := db = CycleDb.empty
  step db event db' := db.Allowed event ∧ db' = db.next E event

/-! ## Columns -/

namespace Subscription

@[simp] theorem flush_status (loaded changed row : Subscription) : (flush loaded changed row).status
    = written loaded.status changed.status row.status := rfl

@[simp] theorem flush_nextCycleAt (loaded changed row : Subscription) :
    (flush loaded changed row).nextCycleAt
      = written loaded.nextCycleAt changed.nextCycleAt row.nextCycleAt := rfl

/-- What `_stop_one` does to its copy. -/
structure Stopping (loaded changed : Subscription) : Prop where
  id : changed.id = loaded.id
  nextCycleAt : changed.nextCycleAt = none
  status : changed.status = .stopping ∨ changed.status = .stopped
  cycleCount : changed.cycleCount = loaded.cycleCount

theorem stopOne_ok {subscription changed : Subscription} {jobs jobs' : JobsDb} {now : Datetime}
    {reason : Option String} (h : subscription.stopOne jobs now reason = .ok (changed, jobs')) :
    Stopping subscription changed
      ∧ (jobs' = jobs ∨ ∃ jobId job, jobs.cancelJob jobId now = .ok (job, jobs')) := by
  unfold stopOne at h
  cases hjob : subscription.currentCycleJobId.bind jobs.jobs.lookup with
  | none =>
    rw [hjob] at h
    cases h
    exact ⟨⟨rfl, rfl, Or.inr rfl, rfl⟩, .inl rfl⟩
  | some job =>
    rw [hjob] at h
    dsimp only at h
    by_cases hrunning : job.status = .running
    · rw [if_pos hrunning] at h
      cases h
      exact ⟨⟨rfl, rfl, Or.inl rfl, rfl⟩, .inl rfl⟩
    rw [if_neg hrunning] at h
    by_cases hqueued : job.status = .queued
    · rw [if_pos hqueued] at h
      cases hcancel : jobs.cancelJob job.id now with
      | error error =>
        rw [hcancel] at h
        cases h
      | ok cancelled =>
        rw [hcancel] at h
        cases h
        exact ⟨⟨rfl, rfl, Or.inr rfl, rfl⟩, .inr ⟨job.id, cancelled.1, hcancel⟩⟩
    · rw [if_neg hqueued] at h
      cases h
      exact ⟨⟨rfl, rfl, Or.inr rfl, rfl⟩, .inl rfl⟩

end Subscription

/-! ## The transactions -/

namespace CycleDb

variable {E : CycleEnv} {db db' : CycleDb}

variable {changed row : Subscription}

theorem writeBack_lookup_self {loaded : Subscription}
    (h : db.subscriptions.lookup row.id = some row) :
    (db.writeBack loaded changed row).subscriptions.lookup row.id
      = some (Subscription.flush loaded changed row) :=
  Table.lookup_put_self (r := Subscription.flush loaded changed row) h

variable {id : UUID}

theorem writeBack_lookup_of_ne {loaded : Subscription} (h : id ≠ row.id) :
    (db.writeBack loaded changed row).subscriptions.lookup id = db.subscriptions.lookup id :=
  Table.lookup_put_of_ne (r := Subscription.flush loaded changed row) h

variable {now : Datetime}

theorem stopSubscription_ok {copy : Option Subscription} {reason : Option String}
    (h : db.stopSubscription copy id now reason = .ok db') :
    ∃ row, db.subscriptions.lookup id = some row
      ∧ (((copy.getD row).status = .stopped ∨ (copy.getD row).status = .error) ∧ db' = db
        ∨ ∃ changed jobs, ¬ ((copy.getD row).status = .stopped ∨ (copy.getD row).status = .error)
          ∧ (copy.getD row).stopOne db.world.db now reason = .ok (changed, jobs)
          ∧ db' = { db.writeBack (copy.getD row) changed row with
              world := { db.world with db := jobs } }) := by
  unfold stopSubscription at h
  cases hrow : db.subscriptions.lookup id with
  | none =>
    rw [hrow] at h
    cases h
  | some row =>
    rw [hrow] at h
    dsimp only at h
    refine ⟨row, rfl, ?_⟩
    by_cases hended : (copy.getD row).status = .stopped ∨ (copy.getD row).status = .error
    · rw [if_pos hended] at h
      cases h
      exact .inl ⟨hended, rfl⟩
    · rw [if_neg hended] at h
      cases hstop : (copy.getD row).stopOne db.world.db now reason with
      | error error =>
        rw [hstop] at h
        cases h
      | ok result =>
        rw [hstop] at h
        cases h
        exact .inr ⟨result.1, result.2, hended, rfl, rfl⟩

theorem startSubscription_ok {request : StartRequest} (h : db.startSubscription request = .ok db') :
    db' = db ∨ ∃ row, db.subscriptions.lookup row.id = none ∧ row.status = .starting
      ∧ row.nextCycleAt.isSome ∧ row.currentCycleJobId = none
      ∧ db' = { db with subscriptions := db.subscriptions.insert row } := by
  unfold startSubscription at h
  by_cases hinterval : ¬ (1 ≤ request.intervalMinutes ∧ request.intervalMinutes ≤ 1440)
  · rw [if_pos hinterval] at h
    cases h
  rw [if_neg hinterval] at h
  by_cases hcollection : request.collectionFound = false
  · rw [if_pos hcollection] at h
    cases h
  rw [if_neg hcollection] at h
  cases hexisting : db.subscriptions.rows.find? fun row =>
      row.idempotencyKey = request.idempotencyKey with
  | some existing =>
    rw [hexisting] at h
    dsimp only at h
    split_ifs at h
    cases h
    exact .inl rfl
  | none =>
    rw [hexisting] at h
    split_ifs at h with hactive hrun hid
    cases h
    refine .inr ⟨_, ?_, rfl, rfl, rfl, rfl⟩
    simpa using hid

def cycleArgs (row : Subscription) (now : Datetime) : JobsDb.EnqueueJob where
  jobType := cycleJobType
  payload := cyclePayload row.id (row.cycleCount + 1)
  idempotencyKey := cycleKey row.id (row.cycleCount + 1)
  origin := .scheduler
  priority := 5
  scheduledFor := some (row.nextCycleAt.getD now)
  pauseSensitive := false

/-- The row once the job of its next cycle is there. -/
def cycleStarted (row : Subscription) (jobId : UUID) (now : Datetime) : Subscription :=
  { row with
    currentCycleJobId := some jobId
    status := .running
    startedAt := some (row.startedAt.getD now) }

variable {jobId : UUID}

theorem enqueueCycle_eq {job : WorkflowJob} {created : Bool} {jobs : JobsDb}
    (h : db.world.db.enqueueJob E.redaction (cycleArgs row now) true jobId now = .ok ((job,
      created), jobs)) :
    db.enqueueCycle E row jobId now
      = .ok { db with
          world := { db.world with db := jobs }
          subscriptions := db.subscriptions.put (cycleStarted row job.id now)
          released := letGo row (cycleStarted row job.id now) db.released } := by
  have hok : db.world.db.enqueueJob E.redaction
      { jobType := cycleJobType
        payload := cyclePayload row.id (row.cycleCount + 1)
        idempotencyKey := cycleKey row.id (row.cycleCount + 1)
        origin := .scheduler
        priority := 5
        scheduledFor := some (row.nextCycleAt.getD now)
        pauseSensitive := false } true jobId now = .ok ((job, created), jobs) := h
  unfold enqueueCycle
  dsimp only
  rw [hok]
  rfl

/-- What a round of the scheduler does to a subscription that is due. -/
inductive Round (E : CycleEnv) (db : CycleDb) (row : Subscription) (jobId : UUID) (now : Datetime) :
    CycleDb → Prop
  | waits (job : WorkflowJob) : row.currentCycleJobId.bind db.world.db.jobs.lookup = some job →
      job.status = .queued ∨ job.status = .running → Round E db row jobId now db
  | failed (job : WorkflowJob) : row.currentCycleJobId.bind db.world.db.jobs.lookup = some job →
      job.status.terminal = true →
      Round E db row jobId now
        { db with
          subscriptions := db.subscriptions.put (cycleFailed row job now)
          released := letGo row (cycleFailed row job now) db.released }
  | succeeded (job : WorkflowJob) : row.currentCycleJobId.bind db.world.db.jobs.lookup = some job →
      job.status.terminal = true →
      Round E db row jobId now
        { db with
          subscriptions := db.subscriptions.put (cycleSucceeded E row job now)
          released := letGo row (cycleSucceeded E row job now) db.released }
  | enqueued (db' : CycleDb) : row.currentCycleJobId.bind db.world.db.jobs.lookup = none →
      db.enqueueCycle E { row with currentCycleJobId := none, currentCycleRunId := none } jobId now
        = .ok db' → Round E db row jobId now db'

theorem scheduleContinuousCycle_ok (h : db.scheduleContinuousCycle E id jobId now = .ok db') :
    db' = db ∨ ∃ row, db.subscriptions.lookup id = some row ∧ due row now = true
      ∧ Round E db row jobId now db' := by
  unfold scheduleContinuousCycle at h
  cases hrow : db.subscriptions.lookup id with
  | none =>
    rw [hrow] at h
    cases h
    exact .inl rfl
  | some row =>
    rw [hrow] at h
    dsimp only at h
    by_cases hdue : due row now = false
    · rw [if_pos hdue] at h
      cases h
      exact .inl rfl
    rw [if_neg hdue] at h
    refine .inr ⟨row, rfl, Bool.eq_true_of_not_eq_false hdue, ?_⟩
    cases hjob : row.currentCycleJobId.bind db.world.db.jobs.lookup with
    | none =>
      rw [hjob] at h
      exact .enqueued db' hjob h
    | some job =>
      rw [hjob] at h
      dsimp only at h
      cases hstatus : job.status with
      | queued =>
        rw [hstatus] at h
        cases h
        exact .waits job hjob (.inl hstatus)
      | running =>
        rw [hstatus] at h
        cases h
        exact .waits job hjob (.inr hstatus)
      | succeeded =>
        rw [hstatus] at h
        cases h
        exact .succeeded job hjob (by rw [hstatus]; rfl)
      | failed | needsReview | cancelled =>
        rw [hstatus] at h
        cases h
        exact .failed job hjob (by rw [hstatus]; rfl)

/-- A handler's first transaction stops the subscription, or counts a cycle. -/
inductive Leaves (copy : Subscription) (cycleNumber : Int) : Subscription → Prop
  | stops (now : Datetime) (status : String) (error : Option String) :
      Leaves copy cycleNumber (copy.stopWithoutCycle now status error)
  | defers (now : Datetime) (status : String) : copy.status = .starting ∨ copy.status = .running →
      Leaves copy cycleNumber (copy.deferCycle now status)
  | finishes (now : Datetime) (status : String) (successful : Bool) (error : Option String) :
      copy.status = .starting ∨ copy.status = .running →
      Leaves copy cycleNumber (copy.finishCycle cycleNumber now status successful error)

/-- The run a handler goes on with: it is there, or it is new, the first of its cycle. -/
def RunMade (db : CycleDb) (copy : Subscription) (cycleNumber : Int) (runs : Table IngestRun) : Prop :=
  runs = db.runs ∨ ∃ run, db.runs.lookup run.id = none ∧ db.runOfCycle copy.id cycleNumber = none
    ∧ run.continuousSubscriptionId = some copy.id ∧ run.continuousCycleNumber = some cycleNumber
    ∧ runs = db.runs.insert run

/-- What the first transaction of a handler can decide. -/
inductive Decides (db : CycleDb) (copy : Subscription) (cycleNumber : Int) : EntryAction → Prop
  | leave : Decides db copy cycleNumber .leave
  | last {changed : Subscription} : Leaves copy cycleNumber changed →
      Decides db copy cycleNumber (.last changed)
  | work {run : IngestRun} {runs : Table IngestRun} : RunMade db copy cycleNumber runs →
      Decides db copy cycleNumber (.work run runs)

variable {copy : Subscription} {payload : Json} {cycleNumber : Int} {entry : Entry}

theorem cycleRun_ok {action : EntryAction}
    (hstatus : copy.status = .starting ∨ copy.status = .running)
    (h : db.cycleRun copy payload cycleNumber entry = .ok action) :
    Decides db copy cycleNumber action := by
  unfold cycleRun at h
  cases hcollection : copy.sourceCollectionId with
  | none =>
    rw [hcollection] at h
    cases h
    exact .last (.stops _ _ _)
  | some collectionId =>
    rw [hcollection] at h
    dsimp only at h
    split_ifs at h with hfound hbusy
    · cases h
      exact .last (.stops _ _ _)
    · cases h
      exact .last (.defers _ _ hstatus)
    · cases hrun : (db.runOfPayload payload).or (db.runOfCycle copy.id cycleNumber) with
      | some run =>
        rw [hrun] at h
        cases h
        exact .work (.inl rfl)
      | none =>
        rw [hrun] at h
        unfold makeRun at h
        split_ifs at h with hsources hmembers hrecount hid hactive
        · cases h
          exact .last (.finishes _ _ _ _ hstatus)
        · cases h
          exact .last (.finishes _ _ _ _ hstatus)
        · cases h
          refine .work (.inr ⟨_, ?_, (Option.or_eq_none_iff.mp hrun).2, rfl, rfl, rfl⟩)
          simpa using hid

theorem enterCycle_ok {action : EntryAction}
    (h : db.enterCycle copy payload cycleNumber entry = .ok action) :
    Decides db copy cycleNumber action := by
  unfold enterCycle at h
  split_ifs at h with hcompleted
  · cases h
    exact .leave
  · cases hstatus : copy.status with
    | stopping =>
      rw [hstatus] at h
      cases h
      exact .last (.stops _ _ _)
    | stopped | error =>
      rw [hstatus] at h
      cases h
      exact .leave
    | starting =>
      rw [hstatus] at h
      exact cycleRun_ok (.inl hstatus) h
    | running =>
      rw [hstatus] at h
      exact cycleRun_ok (.inr hstatus) h

theorem enterCycle_stopping (hstatus : copy.status = .stopping)
    (h : db.enterCycle copy payload cycleNumber entry = .ok (.last changed)) :
    changed.nextCycleAt = none := by
  unfold enterCycle at h
  split_ifs at h with hcompleted
  · cases h
  rw [hstatus] at h
  cases h
  rfl

/-- What the first transaction of a handler leaves. -/
inductive Entered (E : CycleEnv) (db : CycleDb) (session : Session) (job : JobExecution)
    (entry : Entry) : CycleDb → Prop
  | leave : Entered E db session job entry (db.close session.id)
  | last {row changed : Subscription} {cycle : UUID × Int} :
      cycleOf E job.payload = some cycle →
      db.subscriptions.lookup session.copy.id = some row →
      db.enterCycle session.copy job.payload cycle.2 entry = .ok (.last changed) →
      Entered E db session job entry ((db.writeBack session.copy changed row).close session.id)
  | work {row : Subscription} {cycleNumber : Int} {runId : UUID} {runs : Table IngestRun}
      {payload : Json} {now : Datetime} {jobs : JobsDb} :
      db.subscriptions.lookup session.copy.id = some row →
      RunMade db session.copy cycleNumber runs →
      db.world.db.checkpointJob E.redaction job.id job.leaseOwner (some payload) none now = .ok jobs →
      Entered E db session job entry
        { db.writeBack session.copy { session.copy with currentCycleRunId := some runId } row with
          world := { db.world with db := jobs }
          runs := runs
          sessions := db.sessions.put
            { session with
              copy := { session.copy with currentCycleRunId := some runId }
              work := some ⟨cycleNumber, runId⟩ } }

theorem enter_ok {session : Session} {job : JobExecution}
    (h : db.enter E session job entry = .ok db') : Entered E db session job entry db' := by
  unfold enter at h
  cases hcycle : cycleOf E job.payload with
  | none =>
    rw [hcycle] at h
    cases h
    exact .leave
  | some cycle =>
    rw [hcycle] at h
    cases hrow : db.subscriptions.lookup session.copy.id with
    | none =>
      rw [hrow] at h
      cases h
      exact .leave
    | some row =>
      rw [hrow] at h
      dsimp only at h
      cases haction : db.enterCycle session.copy job.payload cycle.2 entry with
      | error stop =>
        rw [haction] at h
        cases h
      | ok action =>
        rw [haction] at h
        cases enterCycle_ok haction with
        | leave =>
          cases h
          exact .leave
        | last hleaves =>
          cases h
          exact .last hcycle hrow haction
        | @work run runs hmade =>
          dsimp only at h
          cases hcheckpoint : db.world.db.checkpointJob E.redaction job.id job.leaseOwner
              (some (checkpointPayload job.payload cycle.2 run.id)) none entry.now with
          | error error =>
            rw [hcheckpoint] at h
            cases h
          | ok jobs =>
            rw [hcheckpoint] at h
            cases h
            exact .work hrow hmade hcheckpoint

/-! ## A first cycle -/

/-- Payloads hold no secrets, and numbers are written as numbers. -/
def sampleEnv : CycleEnv where
  redaction := Redaction.identity
  int value :=
    match value with
    | .int n => some n
    | _ => none

def sampleRequest : StartRequest where
  id := 5
  collectionId := 7
  idempotencyKey := "start"
  intervalMinutes := 60
  collectionFound := true
  now := 0

def started : CycleDb := empty.next sampleEnv (.start sampleRequest)

def ticked : CycleDb := started.next sampleEnv (.tick 5 11 0)

def claimed : CycleDb := ticked.next sampleEnv (.job (.claim "worker" 60 none [] 0))

def sampleExecution : JobExecution where
  id := 11
  jobType := cycleJobType
  payload := cyclePayload 5 1
  attemptCount := 1
  maxAttempts := 3
  origin := .scheduler
  leaseOwner := "worker"
  createdAt := 0
  scheduledFor := some 0
  priority := 5
  pauseSensitive := false
  automationRunId := none
  automationNodeRunId := none

def begun : CycleDb := claimed.next sampleEnv (.begin 21 sampleExecution)

def sampleEntry : Entry where
  now := 0
  collectionFound := true
  sourceCount := 1
  recount := 1
  memberCount := 1
  runId := 31

def entered : CycleDb := begun.next sampleEnv (.enter 21 sampleEntry)

/-- The subscription while its first cycle runs. -/
def firstRow : Subscription where
  id := 5
  sourceCollectionId := some 7
  status := .running
  intervalMinutes := 60
  idempotencyKey := "start"
  startedAt := some 0
  stoppedAt := none
  lastCycleAt := none
  nextCycleAt := some 0
  lastSuccessAt := none
  cycleCount := 0
  lastCycleStatus := none
  lastError := none
  currentCycleJobId := some 11
  currentCycleRunId := none

theorem claimed_grants : claimed.world.grants = [⟨11, 1, "worker"⟩] := rfl

theorem cycleOf_cyclePayload (id : UUID) {n : Int} (h : 1 ≤ n) :
    cycleOf sampleEnv (cyclePayload id n) = some (id, n) := by
  change (parseUuid (uuidStr id)).bind (fun subscriptionId =>
    if n < 1 then none else some (subscriptionId, n)) = _
  rw [parseUuid_uuidStr, Option.bind_some, if_neg (by omega)]

def sampleSession : Session := ⟨21, firstRow, some sampleExecution, none⟩

theorem begun_eq : begun = { claimed with sessions := claimed.sessions.insert sampleSession } := by
  change claimed.commitOr (claimed.begin sampleEnv 21 sampleExecution) = _
  have hcycle : cycleOf sampleEnv sampleExecution.payload = some (5, 1) :=
    cycleOf_cyclePayload 5 (by decide)
  have hrow : claimed.subscriptions.lookup 5 = some firstRow := rfl
  unfold CycleDb.begin
  rw [hcycle]
  dsimp only
  rw [hrow]
  rfl

theorem checkpointJob_of_owned {R : Redaction} {jobs : JobsDb} {workerId : String}
    {job : WorkflowJob} (payload : Json) (howned : jobs.ownedJob jobId workerId now = some job)
    (hkeeps : R.redactJobPayload job.jobType payload = payload) :
    jobs.checkpointJob R jobId workerId (some payload) none now
      = .ok (jobs.write (job.checkpointed R (some payload) none)) := by
  have hsafe : ¬ ∃ p, some payload = some p ∧ R.redactJobPayload job.jobType p ≠ p := by
    rintro ⟨p, hp, hne⟩
    cases hp
    exact hne hkeeps
  have hresult : ¬ ∃ r, (none : Option Json) = some r ∧ (R.redactSecrets r).isObj = false := by
    rintro ⟨r, hr, -⟩
    cases hr
  unfold JobsDb.checkpointJob
  rw [if_neg (by rintro ⟨h, -⟩; cases h), howned]
  dsimp only
  rw [if_neg hsafe, if_neg hresult]

theorem claimed_jobs : ∃ job, claimed.world.db.jobs.rows = [job]
    ∧ claimed.world.db.ownedJob 11 "worker" 0 = some job ∧ job.id = 11
    ∧ job.status = .running ∧ job.idempotencyKey = cycleKey 5 1 :=
  ⟨_, rfl, rfl, rfl, rfl, rfl⟩

def runningRow : Subscription := { firstRow with currentCycleRunId := some 31 }

theorem entered_spec : entered.subscriptions.lookup 5 = some runningRow
    ∧ entered.sessions.lookup 21 = some ⟨21, runningRow, some sampleExecution, some ⟨1, 31⟩⟩
    ∧ ∃ job, entered.world.db.jobs.rows = [job] ∧ job.id = 11 ∧ job.status = .running
      ∧ job.idempotencyKey = cycleKey 5 1 := by
  obtain ⟨job, hrows, howned, hid, hstatus, hkey⟩ := claimed_jobs
  have hcheckpoint := checkpointJob_of_owned (R := sampleEnv.redaction)
    (checkpointPayload sampleExecution.payload 1 31) howned rfl
  have hcycle : cycleOf sampleEnv sampleExecution.payload = some (5, 1) :=
    cycleOf_cyclePayload 5 (by decide)
  have hrow : begun.subscriptions.lookup sampleSession.copy.id = some firstRow := by
    rw [begun_eq]
    rfl
  obtain ⟨run, runs, hrun, haction⟩ : ∃ run runs, run.id = 31
      ∧ begun.enterCycle sampleSession.copy sampleExecution.payload 1 sampleEntry
        = .ok (.work run runs) := by
    rw [begun_eq]
    exact ⟨_, _, rfl, rfl⟩
  have henter : entered = (begun.close 21).commitOr
      (begun.enter sampleEnv sampleSession sampleExecution sampleEntry) := by
    have hsession : begun.sessions.lookup 21 = some sampleSession := by
      rw [begun_eq]
      rfl
    unfold entered next
    dsimp only
    rw [hsession]
    rfl
  have hworld : begun.world = claimed.world := by rw [begun_eq]
  have hsessions : begun.sessions = claimed.sessions.insert sampleSession := by rw [begun_eq]
  have hsubscriptions : begun.subscriptions = claimed.subscriptions := by rw [begun_eq]
  rw [henter]
  unfold enter
  rw [hcycle, hrow]
  dsimp only
  rw [haction]
  dsimp only
  rw [hrun, hworld]
  have hcheckpoint : claimed.world.db.checkpointJob sampleEnv.redaction sampleExecution.id
      sampleExecution.leaseOwner
      (some (checkpointPayload sampleExecution.payload 1 31)) none sampleEntry.now = _ := hcheckpoint
  rw [hcheckpoint]
  refine ⟨?_, ?_, job.checkpointed sampleEnv.redaction
    (some (checkpointPayload sampleExecution.payload 1 31)) none, ?_, hid, hstatus, hkey⟩
  · change (begun.subscriptions.put _).lookup 5 = _
    rw [hsubscriptions]
    rfl
  · change (begun.sessions.put _).lookup 21 = _
    rw [hsessions]
    rfl
  · have hput : ∀ (jobs : Table WorkflowJob) (row : WorkflowJob), jobs.rows = [job] →
        job.id = row.id → (jobs.put row).rows = [row] := by
      intro jobs row hjobs hrowId
      change jobs.rows.map _ = _
      rw [hjobs, List.map_singleton]
      exact congrArg (fun r => [r]) (if_pos hrowId)
    exact hput _ _ hrows rfl

theorem entered_reachable : (cycleSystem sampleEnv).Reachable entered := by
  have hticked : (cycleSystem sampleEnv).Reachable ticked :=
    .tail (e := .tick 5 11 0) (.tail (e := .start sampleRequest) (.init rfl) ⟨trivial, rfl⟩)
      ⟨trivial, rfl⟩
  have hclaimed : (cycleSystem sampleEnv).Reachable claimed :=
    hticked.tail (e := .job (.claim "worker" 60 none [] 0)) ⟨trivial, rfl⟩
  have hgranted : claimed.Allowed (.begin 21 sampleExecution) := by
    change _ ∈ claimed.world.grants
    rw [claimed_grants]
    exact List.mem_cons_self
  exact (hclaimed.tail (e := .begin 21 sampleExecution) ⟨hgranted, rfl⟩).tail
    (e := .enter 21 sampleEntry) ⟨trivial, rfl⟩

end CycleDb

end NewsCraft.SourceCollections
