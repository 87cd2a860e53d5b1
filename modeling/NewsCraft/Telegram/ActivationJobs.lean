import NewsCraft.Telegram.RouteFence

/-!
# The jobs of an activation

An activation puts a job on the queue, and each job of the initialization that does not come
to the end leaves another: a deferral while the route is held, a continuation otherwise. The
queue keeps one job for a key, whatever has become of it; the key is made from the instant
of the activation, the first job of a chain of deferrals, or the state to go on from.

A step is one request, one move of a job in the queue, or one reading or transaction of one
run of a job; a run may go on after its lease has expired.
-/

namespace NewsCraft.Telegram.ActivationJobs

open Lib Jobs Telegram.RouteFence

/-! ## Keys and jobs -/

/-- What a continuation goes on from; its key has a digest of it. -/
inductive Continuation where
  | activationScan (snapshotToken : Option SnapshotToken) (pageToken : Option PageToken)
      (lastScannedId : Int)
  | forward (state : ForwardState) (lastScannedId : Int)
  | catchUpCycle (cursor : Int)
  deriving DecidableEq

/-- The idempotency keys of the route's initialization, as what they are made from. -/
inductive InitKey where
  | activation (requestedAt : String)
  | deferred (rootJobId sequence : Nat)
  | continuation (requestedAt : String) (state : Continuation)
  deriving DecidableEq

/-- A `telegram.route.initialize` job of the route. -/
structure InitJob where
  key : InitKey
  activationRequestedAt : String
  deferRootJobId : Option Nat
  deferSequence : Nat
  status : JobStatus
  deriving DecidableEq

def InitJob.alive (job : InitJob) : Prop := job.status = .queued ∨ job.status = .running

instance (job : InitJob) : Decidable job.alive := inferInstanceAs (Decidable (_ ∨ _))

/-- `enqueue_job`: one job for a key, whatever its status. -/
def enqueue (jobs : List InitJob) (job : InitJob) : List InitJob :=
  if jobs.any fun other => other.key = job.key then jobs else jobs ++ [job]

/-- What workers, lease sweeps and operators make of a job's status. -/
def moves : JobStatus → JobStatus → Bool
  | .queued, .running | .queued, .cancelled => true
  | .running, .succeeded | .running, .failed | .running, .needsReview | .running, .queued => true
  | .failed, .queued | .needsReview, .queued => true
  | _, _ => false

/-! ## Runs of jobs -/

/-- What a run has read before its first transaction. -/
structure InitSession where
  copy : RouteRow
  /-- What it has of the global control, if that was there when it was loaded. -/
  control : Option Bool
  requestedRaw : String
  expectedStatus : String
  deriving DecidableEq

inductive RunPhase where
  | claimed
  /-- It has seen the pause and leaves a deferral next. -/
  | holding
  | working (session : InitSession)
  deriving DecidableEq

structure InitRun where
  id : Nat
  jobId : Nat
  phase : RunPhase

instance : Keyed InitRun Nat := ⟨InitRun.id⟩

structure ActivationWorld where
  row : RouteRow
  globalPause : Option Bool
  /-- Jobs are numbered as they are created. -/
  jobs : List InitJob
  runs : Table InitRun

inductive ActivationEvent where
  | activate (now : String)
  | pause (now : Datetime)
  | resume
  | control (globalPause : Bool)
  | move (jobId : Nat) (status : JobStatus)
  /-- A worker claims the job. -/
  | claim (jobId runId : Nat)
  | load (runId : Nat)
  | hold (runId : Nat)
  /-- A transaction of the run; `lastScannedId` is the last id a forward step scanned. -/
  | write (runId : Nat) (write : RouteWrite) (lastScannedId : Int)
  /-- The run raises, or its worker dies. -/
  | drop (runId : Nat)

/-! ## Transactions -/

/-- What a transaction of a run commits; the handler returns with it if there is no session
to go on with. -/
structure Transaction where
  row : RouteRow
  jobs : List InitJob
  session : Option InitSession

/-- The key of the next link of a job's chain of deferrals. -/
def deferKey (jobId : Nat) (job : InitJob) : InitKey :=
  .deferred (job.deferRootJobId.getD jobId) (job.deferSequence + 1)

/-- `_defer_route_job`. -/
def deferRouteJob (jobs : List InitJob) (jobId : Nat) (job : InitJob) :
    Except HandlerError (List InitJob) :=
  if maxDeferSequence < job.deferSequence + 1 then
    .error (.needsReview "telegram_route_deferral_exhausted"
      "Telegram route deferred 720 times without running; resume the route or clear the pause")
  else
    .ok (enqueue jobs
      ⟨deferKey jobId job, job.activationRequestedAt, some (job.deferRootJobId.getD jobId),
        job.deferSequence + 1, .queued⟩)

/-- The state the continuation of a write goes on from, if it leaves one. -/
def continuationOf (copy : RouteRow) (lastScannedId : Int) : RouteWrite → Option Continuation
  | .activationScan _ snapshotToken pageToken _ lastScanned =>
    some (.activationScan snapshotToken pageToken lastScanned)
  | .forwardProgress state => some (.forward state lastScannedId)
  | .catchUpCycle => some (.catchUpCycle (copy.route.cursorState.lastMessageId.getD 0))
  | .capture .. | .activationBoundary .. | .clearForward | .finalize _ | .finishPoll _ => none

/-- `_enqueue_continuation`. -/
def enqueueContinuation (jobs : List InitJob) (requestedRaw : String) (state : Continuation) :
    List InitJob :=
  enqueue jobs ⟨.continuation requestedRaw state, requestedRaw, none, 0, .queued⟩

namespace ActivationWorld

variable (C : String → Option Datetime) (w : ActivationWorld)

/-- What `_lock_route_and_control` has of the global control: a row that is not in the session
yet is loaded. -/
def controlOf (session : InitSession) : Bool := (session.control.or w.globalPause).getD false

/-- The check under the lock, against the session's copy of the route. -/
def checked (session : InitSession) (write : RouteWrite) : Except HandlerError (Option String) :=
  validateLockedRoute session.copy.route (w.controlOf session)
    (write.requiredStatus .initializeRoute session.expectedStatus) (some session.requestedRaw)

def holdTransaction (jobId : Nat) (job : InitJob) : Except HandlerError Transaction :=
  match deferRouteJob w.jobs jobId job with
  | .error e => .error e
  | .ok jobs => .ok ⟨w.row, jobs, none⟩

/-- A write of an initialization, with what it leaves on the queue. -/
def writeTransaction (jobId : Nat) (job : InitJob) (session : InitSession) (write : RouteWrite)
    (lastScannedId : Int) : Except HandlerError Transaction :=
  match w.checked session write with
  | .error e => .error e
  | .ok (some _) => w.holdTransaction jobId job
  | .ok none =>
    let changed := write.apply session.copy .initializeRoute
    let row := w.row.flushed session.copy changed
    match continuationOf session.copy lastScannedId write with
    | some state => .ok ⟨row, enqueueContinuation w.jobs session.requestedRaw state, none⟩
    | none =>
      match write with
      | .finalize _ => .ok ⟨row, w.jobs, none⟩
      | _ => .ok ⟨row, w.jobs, some { session with copy := changed }⟩

/-- The transaction a step is, with the run and the job it is of. -/
def transaction : ActivationEvent → Option (InitRun × Except HandlerError Transaction)
  | .hold runId =>
    match w.runs.lookup runId with
    | none => none
    | some run =>
      match run.phase, w.jobs[run.jobId]? with
      | .holding, some job => some (run, w.holdTransaction run.jobId job)
      | _, _ => none
  | .write runId write lastScannedId =>
    match w.runs.lookup runId with
    | none => none
    | some run =>
      match run.phase, w.jobs[run.jobId]? with
      | .working session, some job =>
        if write.of .initializeRoute then
          some (run, w.writeTransaction run.jobId job session write lastScannedId)
        else
          none
      | _, _ => none
  | _ => none

def committed (run : InitRun) (result : Except HandlerError Transaction) : ActivationWorld :=
  match result with
  | .error _ => { w with runs := w.runs.erase run.id }
  | .ok transaction =>
    { w with
      row := transaction.row
      jobs := transaction.jobs
      runs :=
        match transaction.session with
        | none => w.runs.erase run.id
        | some session => w.runs.put { run with phase := .working session } }

/-! ## Steps -/

/-- `replaying_initialization`. -/
def replaying : Bool :=
  w.row.route.enabled ∧ w.row.route.cursorState.status = some "initializing"
    ∧ w.row.activation.isSome

/-- The instant an activation request stands for: that of the one it replays, or now. -/
def requestedAt (now : String) : String :=
  if w.replaying then w.row.activation.getD now else now

/-- `activate_route`. -/
def activated (now : String) : ActivationWorld :=
  let requestedAt := w.requestedAt now
  { w with
    row :=
      if w.replaying then
        w.row
      else
        { route :=
            { w.row.route with
              enabled := true
              pausedAt := none
              cursorState := ⟨some "initializing", some requestedAt, none, [], none⟩ }
          initialization := .cleared }
    jobs := enqueue w.jobs ⟨.activation requestedAt, requestedAt, none, 0, .queued⟩ }

local instance : LawfulBEq (Option String) := inferInstance

/-- `_defer_if_paused` and `_initialization_state`, up to the first transaction. -/
def loaded (run : InitRun) (job : InitJob) : ActivationWorld :=
  if w.globalPause.getD false ∨ w.row.route.pausedAt.isSome then
    { w with runs := w.runs.put { run with phase := .holding } }
  else
    match w.row.activation with
    | none => { w with runs := w.runs.erase run.id }
    | some requestedRaw =>
      match C requestedRaw, C job.activationRequestedAt with
      | some requestedAt, some payloadAt =>
        if requestedAt = payloadAt
            ∧ w.row.route.cursorState.status ∈ [some "initializing", some "catching_up"] then
          { w with
            runs := w.runs.put { run with
                phase := .working ⟨w.row, w.globalPause, requestedRaw,
                  w.row.route.cursorState.status.getD ""⟩ } }
        else
          { w with runs := w.runs.erase run.id }
      | _, _ => { w with runs := w.runs.erase run.id }

def next : ActivationEvent → ActivationWorld
  | .activate now => w.activated now
  | .pause now =>
    { w with row := { w.row with route := { w.row.route with pausedAt := some now } } }
  | .resume => { w with row := { w.row with route := { w.row.route with pausedAt := none } } }
  | .control globalPause => { w with globalPause := some globalPause }
  | .move jobId status =>
    match w.jobs[jobId]? with
    | none => w
    | some job =>
      if moves job.status status then
        { w with jobs := w.jobs.set jobId { job with status := status } }
      else
        w
  | .claim jobId runId =>
    match w.jobs[jobId]? with
    | none => w
    | some job =>
      if job.status = .queued then
        { w with
          jobs := w.jobs.set jobId { job with status := .running }
          runs := w.runs.insert ⟨runId, jobId, .claimed⟩ }
      else
        w
  | .load runId =>
    match w.runs.lookup runId with
    | none => w
    | some run =>
      match run.phase, w.jobs[run.jobId]? with
      | .claimed, some job => w.loaded C run job
      | _, _ => w
  | .hold runId =>
    match w.transaction (.hold runId) with
    | none => w
    | some (run, result) => w.committed run result
  | .write runId write lastScannedId =>
    match w.transaction (.write runId write lastScannedId) with
    | none => w
    | some (run, result) => w.committed run result
  | .drop runId => { w with runs := w.runs.erase runId }

/-! ## What is promised -/

def Going : Prop :=
  w.row.route.cursorState.status = some "initializing"
    ∨ w.row.route.cursorState.status = some "catching_up"

end ActivationWorld

/-- A job of the activation, other than the one that ends, is queued or running. -/
def Alive (jobs : List InitJob) (ending : Option Nat) (requestedAt : String) : Prop :=
  ∃ id job, jobs[id]? = some job ∧ ending ≠ some id ∧ job.activationRequestedAt = requestedAt
    ∧ job.alive

namespace ActivationWorld

variable (C : String → Option Datetime) (w : ActivationWorld)

/-- The route is ready, or a job of its stored activation is queued or running. -/
def Attended (ending : Option Nat) : Prop :=
  w.row.route.cursorState.status = some "ready"
    ∨ ∃ requestedAt, w.row.activation = some requestedAt ∧ Alive w.jobs ending requestedAt

def returns (event : ActivationEvent) : Option Nat :=
  match w.transaction event with
  | some (run, .ok ⟨_, _, none⟩) => some run.jobId
  | _ => none

/-- An accepted activation is attended to, and so is a route when a job of it returns. -/
def Keeps (event : ActivationEvent) : Prop :=
  match event with
  | .activate _ => (w.next C event).Attended none
  | _ => ∀ jobId ∈ w.returns event, (w.next C event).Going →
      (w.next C event).Attended (some jobId)

/-! ## When it is kept -/

/-- The key is unused and made for the stored activation, or another job of that is queued or
running as it is. -/
def Served (ending : Option Nat) (key : InitKey) (requestedAt : String) (stored : Option String) :
    Prop :=
  (stored = some requestedAt ∧ ∀ job ∈ w.jobs, job.key ≠ key)
    ∨ ∃ activation, stored = some activation ∧ Alive w.jobs ending activation

/-- A deferral finds its key unused, or is not needed. -/
def HoldServed (jobId : Nat) (job : InitJob) : Prop :=
  job.deferSequence + 1 ≤ maxDeferSequence → w.Going →
    w.Served (some jobId) (deferKey jobId job) job.activationRequestedAt w.row.activation

/-- The write changes the session's copy of the cursor, and so overwrites that of the row. -/
def Overwrites (session : InitSession) (write : RouteWrite) : Prop :=
  let changed := write.apply session.copy .initializeRoute
  (changed.route.cursorState, changed.initialization)
    ≠ (session.copy.route.cursorState, session.copy.initialization)

instance (session : InitSession) (write : RouteWrite) : Decidable (Overwrites session write) :=
  inferInstanceAs (Decidable (_ ≠ _))

/-- A continuation finds its key unused, or is not needed. -/
def ContinuationServed (jobId : Nat) (session : InitSession) (write : RouteWrite)
    (state : Continuation) : Prop :=
  let key := InitKey.continuation session.requestedRaw state
  if Overwrites session write then
    w.Served (some jobId) key session.requestedRaw (some session.requestedRaw)
  else
    w.Going → w.Served (some jobId) key session.requestedRaw w.row.activation

def Meets : ActivationEvent → Prop
  | .activate now =>
    w.Served none (.activation (w.requestedAt now)) (w.requestedAt now) (some (w.requestedAt now))
  | .hold runId =>
    ∀ run ∈ w.runs.lookup runId, run.phase = .holding → ∀ job ∈ w.jobs[run.jobId]?,
      w.HoldServed run.jobId job
  | .write runId write lastScannedId =>
    ∀ run ∈ w.runs.lookup runId, ∀ session, run.phase = .working session →
      ∀ job ∈ w.jobs[run.jobId]?, write.of .initializeRoute = true →
        (∀ reason, w.checked session write = .ok (some reason) → w.HoldServed run.jobId job)
          ∧ (w.checked session write = .ok none →
            ∀ state ∈ continuationOf session.copy lastScannedId write,
              w.ContinuationServed run.jobId session write state)
  | _ => True

end ActivationWorld

def activationSystem (C : String → Option Datetime) : System ActivationWorld ActivationEvent where
  init w := w.row.Created ∧ w.jobs = [] ∧ w.runs.rows = []
  step w event w' := w' = w.next C event

end NewsCraft.Telegram.ActivationJobs
