import NewsCraft.Jobs.Types
import NewsCraft.Lib.Transition

/-!
# How dispatches become revisions

A captured post waits in a dispatch. A job of the dispatch has it researched or generated,
and makes a revision of the result; each transaction of its handler is a step, as is the end
of the job. A research job of a story serves every dispatch that asked for it, and enqueues
a job for each when it is done.

A handler is an execution of its job's attempt. It goes on when the lease is over, and may
raise what it does not know; workers die at any point.
-/

namespace NewsCraft.Telegram.DispatchFlow

open Lib Jobs

/-! ## Rows -/

inductive DispatchStatus where
  | captured
  | filtered
  | researching
  | generating
  | retryable
  | needsReview
  | failed
  | approved
  | pendingReview
  deriving DecidableEq

def DispatchStatus.waiting : DispatchStatus → Bool
  | captured | researching | generating | retryable => true
  | _ => false

/-- A platform variant, which the unique keys of its content pack and of itself name. -/
structure PlatformVariant where
  storyRevisionId : UUID
  brandProfileId : UUID
  deriving DecidableEq

structure PlatformVariantRevision where
  id : UUID
  variant : PlatformVariant
  parentRevisionId : Option UUID
  deriving DecidableEq

inductive RunStatus where
  | running
  | completed
  | failed
  deriving DecidableEq

/-- What the idempotency keys of the jobs are made of. -/
inductive JobKey where
  | process (dispatchId : UUID)
  | afterResearch (dispatchId resultRevisionId : UUID)
  | research (request : String)
  deriving DecidableEq

def JobKey.dispatch : JobKey → Option UUID
  | .process dispatchId => some dispatchId
  | .afterResearch dispatchId _ => some dispatchId
  | .research _ => none

/-- The generation run of a dispatch, with the job, its attempt and the execution that own it. -/
structure GenerationRun where
  status : RunStatus
  activeWorkflowJob : JobKey
  activeWorkflowAttempt : Nat
  active : UUID
  deriving DecidableEq

/-- A row of `automation_dispatches`, with its story, its run and its revision. -/
structure Dispatch where
  id : UUID
  routeId : UUID
  storyId : UUID
  storyRevisionId : UUID
  creationSequence : Nat
  status : DispatchStatus
  generation : Option GenerationRun
  variantRevision : Option PlatformVariantRevision
  deriving DecidableEq

instance : Keyed Dispatch UUID := ⟨Dispatch.id⟩

/-- A job; one of research has its continuations, and the result of its run. -/
structure FlowJob where
  key : JobKey
  status : JobStatus
  attemptCount : Nat
  maxAttempts : Nat
  continuations : List UUID
  result : Option UUID

instance : Keyed FlowJob JobKey := ⟨FlowJob.key⟩

def FlowJob.live (job : FlowJob) : Bool := job.status = .queued ∨ job.status = .running

/-- The job is for the dispatch, or carries its continuation. -/
def FlowJob.serves (job : FlowJob) (dispatchId : UUID) : Bool :=
  job.key.dispatch = some dispatchId ∨ dispatchId ∈ job.continuations

def FlowJob.queued (key : JobKey) (maxAttempts : Nat) (continuations : List UUID) : FlowJob :=
  ⟨key, .queued, 0, maxAttempts, continuations, none⟩

inductive Stage where
  | begun
  /-- The provider is called. -/
  | generating
  /-- The output is durable. -/
  | generated
  /-- Nothing earlier is waited for, and this is what the revision will be attached to. -/
  | checked (parent : Option PlatformVariantRevision) (variant : PlatformVariant)
      (storyRevisionId : UUID)
  /-- The handler raises; `none` is an error that is not classified. -/
  | raised (error : Option JobErrorClass)
  /-- The dispatch has the error. -/
  | reported (error : JobErrorClass)
  | done
  deriving DecidableEq

def Stage.working : Stage → Bool
  | .begun | .generating | .generated | .checked _ _ _ => true
  | _ => false

def Stage.classified : Stage → Bool
  | .raised (some _) => true
  | _ => false

/-- The error is out of the handler of a process job. -/
def Stage.failing : Stage → Bool
  | .raised none | .reported _ => true
  | _ => false

structure Execution where
  id : UUID
  key : JobKey
  attempt : Nat
  stage : Stage

instance : Keyed Execution UUID := ⟨Execution.id⟩

/-- A revision that a job made, and the dispatch it was for. -/
structure Created where
  revision : PlatformVariantRevision
  routeId : UUID
  storyId : UUID
  creationSequence : Nat

structure FlowWorld where
  dispatches : Table Dispatch
  jobs : Table FlowJob
  executions : Table Execution
  /-- What was made of the dispatches, the newest first. -/
  created : List Created

inductive FlowEvent where
  | capture (dispatch : Dispatch) (maxAttempts : Nat)
  | claim (key : JobKey) (id : UUID)
  | requestResearch (id : UUID) (request : String)
  | prepare (id : UUID)
  /-- The output of an earlier attempt is there. -/
  | resume (id : UUID)
  /-- The handler finds that there is nothing to do for it. -/
  | shortCircuit (id : UUID)
  | generated (id : UUID)
  /-- `_persist_generation_failure`. -/
  | generationFailed (id : UUID) (error : Option JobErrorClass)
  /-- The reads of `_persist_revision_and_publish` before its locks, and the brand of the route. -/
  | check (id : UUID) (brandProfileId : UUID)
  | persist (id : UUID) (revisionId : UUID) (approved : Bool)
  /-- A transaction of the handler is rolled back. -/
  | raise (id : UUID) (error : Option JobErrorClass)
  /-- The second transaction of a failure. -/
  | report (id : UUID)
  | researched (id : UUID) (resultRevisionId : UUID)
  /-- `_record_failure`. -/
  | researchFailed (id : UUID) (error : JobErrorClass)
  | finish (id : UUID)
  | fail (id : UUID)
  /-- The worker dies. -/
  | vanish (id : UUID)
  /-- The lease is over. -/
  | expire (key : JobKey)
  /-- A claimed job cannot be materialized. -/
  | reject (key : JobKey)
  | cancel (key : JobKey)
  | retry (key : JobKey)

/-! ## Queries -/

namespace FlowWorld

variable (w : FlowWorld)

def sameLineage (d d' : Dispatch) : Bool := d.routeId = d'.routeId ∧ d.storyId = d'.storyId

/-- What `_wait_for_earlier_revision` selects. -/
def earlierWaiting (d : Dispatch) : Bool :=
  w.dispatches.rows.any fun earlier =>
    sameLineage earlier d ∧ earlier.creationSequence < d.creationSequence
      ∧ earlier.variantRevision = none ∧ earlier.status.waiting = true

/-- The later of the dispatches that have a revision. -/
def laterRevised (d : Dispatch) (found : Option Dispatch) : Option Dispatch :=
  match d.variantRevision with
  | none => found
  | some _ =>
    match found with
    | none => some d
    | some other => if other.creationSequence < d.creationSequence then some d else some other

/-- The last of some dispatches that has a revision. -/
def lastRevised (dispatches : List Dispatch) : Option Dispatch := dispatches.foldr laterRevised none

/-- `_route_parent_revision`. -/
def routeParentRevision (d : Dispatch) : Option PlatformVariantRevision :=
  (lastRevised (w.dispatches.rows.filter fun earlier =>
    sameLineage earlier d ∧ earlier.creationSequence < d.creationSequence)).bind
      Dispatch.variantRevision

/-- `_content_pack_and_variant`. -/
def variantFor (brandProfileId : UUID) (d : Dispatch) (parent : Option PlatformVariantRevision) :
    PlatformVariant :=
  match parent with
  | some parent => parent.variant
  | none => ⟨d.storyRevisionId, brandProfileId⟩

/-- `_validate_refreshed_parent`. -/
def validRefreshedParent (refreshed parent : Option PlatformVariantRevision)
    (variant : PlatformVariant) : Bool :=
  match refreshed with
  | some refreshed => refreshed.variant = variant
  | none => parent = none

/-- What `_persist_revision_and_publish` validates under its locks. -/
def validLocked (execution : Execution) (d : Dispatch) : Bool :=
  match execution.stage with
  | .checked parent variant storyRevisionId =>
    storyRevisionId = d.storyRevisionId
      ∧ validRefreshedParent (w.routeParentRevision d) parent variant = true
  | _ => false

/-- The dispatch of an execution of a process job. -/
def dispatchOf (execution : Execution) : Option Dispatch :=
  execution.key.dispatch.bind w.dispatches.lookup

/-! ## Updates -/

def onDispatches (ids : List UUID) (f : Dispatch → Dispatch) (hf : ∀ d, (f d).id = d.id) :
    Table Dispatch :=
  w.dispatches.map (fun d => if d.id ∈ ids then f d else d) fun d => by
    show (if d.id ∈ ids then f d else d).id = d.id
    split
    · exact hf d
    · rfl

def onJob (key : JobKey) (f : FlowJob → FlowJob) (hf : ∀ job, (f job).key = job.key) :
    Table FlowJob :=
  w.jobs.map (fun job => if job.key = key then f job else job) fun job => by
    show (if job.key = key then f job else job).key = job.key
    split
    · exact hf job
    · rfl

def jobStatus (key : JobKey) (status : JobStatus) : Table FlowJob :=
  w.onJob key (fun job => { job with status := status }) fun _ => rfl

def stage (execution : Execution) (stage : Stage) : Table Execution :=
  w.executions.put { execution with stage := stage }

end FlowWorld

def statusOf : JobErrorClass → DispatchStatus
  | .needsReview => .needsReview
  | .retryable => .retryable
  | .permanent => .failed

/-- The status that `_record_generation_failure` leaves. -/
def generationFailureStatus : Option JobErrorClass → DispatchStatus
  | some .needsReview => .needsReview
  | _ => .failed

/-- The status of a job after `fail_job`. -/
def FlowJob.failedStatus (job : FlowJob) (error : JobErrorClass) : JobStatus :=
  if error = .retryable ∧ job.attemptCount < job.maxAttempts then .queued
  else if error = .needsReview then .needsReview
  else .failed

/-- The class that the worker gives what a handler raised. -/
def workerClass : Stage → JobErrorClass
  | .reported error => error
  | .raised (some error) => error
  | _ => .retryable

/-- A dispatch without a revision has the status. -/
def Dispatch.unlessRevised (d : Dispatch) (status : DispatchStatus) : Dispatch :=
  if d.variantRevision = none then { d with status := status } else d

/-- `_sync_terminal_expired_lease_dependents`. -/
def Dispatch.expired (key : JobKey) (d : Dispatch) : Dispatch :=
  let generation := d.generation.map fun run =>
    if run.activeWorkflowJob = key ∧ run.status = .running then { run with status := .failed }
    else run
  match d.status with
  | .captured | .retryable | .generating => { d with status := .failed, generation := generation }
  | .researching => { d with status := .needsReview, generation := generation }
  | _ => { d with generation := generation }

def FlowJob.dispatchIds (job : FlowJob) : List UUID := job.key.dispatch.toList ++ job.continuations

theorem Dispatch.unlessRevised_id (d : Dispatch) (status : DispatchStatus) :
    (d.unlessRevised status).id = d.id := by
  unfold Dispatch.unlessRevised
  split <;> rfl

theorem Dispatch.expired_id (key : JobKey) (d : Dispatch) : (d.expired key).id = d.id := by
  unfold Dispatch.expired
  cases d.status <;> rfl

/-! ## Steps -/

namespace FlowWorld

variable (w : FlowWorld)

def withExecution (id : UUID) (f : Execution → FlowWorld) : FlowWorld :=
  match w.executions.lookup id with
  | none => w
  | some execution => f execution

def withDispatch (id : UUID) (f : Execution → Dispatch → FlowWorld) : FlowWorld :=
  w.withExecution id fun execution =>
    match w.dispatchOf execution with
    | none => w
    | some d => f execution d

def withJob (id : UUID) (f : Execution → FlowJob → FlowWorld) : FlowWorld :=
  w.withExecution id fun execution =>
    match w.jobs.lookup execution.key with
    | none => w
    | some job => f execution job

/-- A request that finds the research done is handed its result at once. -/
def handedOver (job : FlowJob) (dispatchId : UUID) : Option UUID :=
  if dispatchId ∈ job.continuations then none else job.result

/-- `_request_auto_research`, where the request is enqueued. -/
def requestResearch (execution : Execution) (d : Dispatch) (request : String) : FlowWorld :=
  match w.jobs.lookup (.research request) with
  | none =>
    { w with
      dispatches :=
        w.onDispatches [d.id] (fun d => { d with status := .researching }) fun _ => rfl
      jobs := w.jobs.insert (.queued (.research request) 3 [d.id])
      executions := w.stage execution .done }
  | some job =>
    let subscribed := w.onJob job.key (fun job =>
        { job with
          continuations :=
            if d.id ∈ job.continuations then job.continuations else job.continuations ++ [d.id] })
      fun _ => rfl
    match handedOver job d.id with
    | none =>
      { w with
        dispatches :=
          w.onDispatches [d.id] (fun d => { d with status := .researching }) fun _ => rfl
        jobs := subscribed
        executions := w.stage execution .done }
    | some result =>
      { w with
        dispatches :=
          w.onDispatches [d.id]
            (fun d => { d with status := .researching, storyRevisionId := result }) fun _ => rfl
        jobs := subscribed.insert (.queued (.afterResearch d.id result) 3 [])
        executions := w.stage execution .done }

/-- `_create_generation_attempt`. -/
def prepare (execution : Execution) (d : Dispatch) : FlowWorld :=
  { w with
    dispatches :=
      w.onDispatches [d.id] (fun d =>
          { d with
            status := .generating
            generation := some ⟨.running, execution.key, execution.attempt, execution.id⟩ })
        fun _ => rfl
    executions := w.stage execution .generating }

def withRun (d : Dispatch) (status : RunStatus) : Dispatch :=
  { d with generation := d.generation.map fun run => { run with status := status } }

/-- `_persist_generation_success`. -/
def generated (execution : Execution) (d : Dispatch) : FlowWorld :=
  { w with
    dispatches := w.onDispatches [d.id] (fun d => withRun d .completed) fun _ => rfl
    executions := w.stage execution .generated }

/-- `_record_generation_failure`. -/
def generationFailed (execution : Execution) (d : Dispatch) (error : Option JobErrorClass) :
    FlowWorld :=
  { w with
    dispatches :=
      w.onDispatches [d.id]
        (fun d => { withRun d .failed with status := generationFailureStatus error }) fun _ => rfl
    executions := w.stage execution (.raised error) }

def persisted (execution : Execution) (d : Dispatch) (revision : PlatformVariantRevision)
    (approved : Bool) : FlowWorld :=
  { w with
    dispatches :=
      w.onDispatches [d.id] (fun d =>
          { d with
            variantRevision := some revision
            status := if approved then .approved else .pendingReview })
        fun _ => rfl
    executions := w.stage execution .done
    created := ⟨revision, d.routeId, d.storyId, d.creationSequence⟩ :: w.created }

def fanOut (jobs : Table FlowJob) (result : UUID) : List UUID → Table FlowJob
  | [] => jobs
  | dispatchId :: rest =>
    fanOut (jobs.insert (.queued (.afterResearch dispatchId result) 3 [])) result rest

/-- The end of a research, with its continuations. -/
def researched (execution : Execution) (job : FlowJob) (result : UUID) : FlowWorld :=
  { w with
    dispatches :=
      w.onDispatches job.continuations
        (fun d => { d with status := .captured, storyRevisionId := result }) fun _ => rfl
    jobs :=
      fanOut (w.onJob job.key (fun job => { job with result := some result }) fun _ => rfl) result
        job.continuations
    executions := w.stage execution .done }

def next : FlowEvent → FlowWorld
  | .capture d maxAttempts =>
    { w with
      dispatches := w.dispatches.insert d
      jobs :=
        if d.status = .captured then w.jobs.insert (.queued (.process d.id) maxAttempts [])
        else w.jobs }
  | .claim key id =>
    match w.jobs.lookup key with
    | none => w
    | some job =>
      { w with
        jobs :=
          w.onJob key (fun job =>
              { job with status := .running, attemptCount := job.attemptCount + 1 }) fun _ => rfl
        executions := w.executions.insert ⟨id, key, job.attemptCount + 1, .begun⟩ }
  | .requestResearch id request => w.withDispatch id fun execution d =>
    w.requestResearch execution d request
  | .prepare id => w.withDispatch id w.prepare
  | .resume id => w.withExecution id fun execution =>
    { w with executions := w.stage execution .generated }
  | .shortCircuit id => w.withExecution id fun execution =>
    { w with executions := w.stage execution .done }
  | .generated id => w.withDispatch id w.generated
  | .generationFailed id error => w.withDispatch id fun execution d =>
    w.generationFailed execution d error
  | .check id brandProfileId => w.withDispatch id fun execution d =>
    let parent := w.routeParentRevision d
    { w with
      executions := w.stage execution (.checked parent (variantFor brandProfileId d parent)
        d.storyRevisionId) }
  | .persist id revisionId approved => w.withDispatch id fun execution d =>
    match execution.stage with
    | .checked _ variant _ =>
      w.persisted execution d
        ⟨revisionId, variant, (w.routeParentRevision d).map PlatformVariantRevision.id⟩ approved
    | _ => w
  | .raise id error => w.withExecution id fun execution =>
    { w with executions := w.stage execution (.raised error) }
  | .report id => w.withDispatch id fun execution d =>
    { w with
      dispatches :=
        w.onDispatches [d.id] (fun d => d.unlessRevised (statusOf (workerClass execution.stage)))
          fun d => d.unlessRevised_id _
      executions := w.stage execution (.reported (workerClass execution.stage)) }
  | .researched id result => w.withJob id fun execution job => w.researched execution job result
  | .researchFailed id error => w.withJob id fun execution job =>
    { w with
      dispatches :=
        w.onDispatches job.continuations (fun d => d.unlessRevised .needsReview)
          fun d => d.unlessRevised_id _
      executions := w.stage execution (.reported error) }
  | .finish id => w.withExecution id fun execution =>
    { w with
      jobs := w.jobStatus execution.key .succeeded
      executions := w.executions.erase id }
  | .fail id => w.withJob id fun execution job =>
    { w with
      jobs := w.jobStatus execution.key (job.failedStatus (workerClass execution.stage))
      executions := w.executions.erase id }
  | .vanish id => { w with executions := w.executions.erase id }
  | .expire key =>
    match w.jobs.lookup key with
    | none => w
    | some job =>
      if job.attemptCount < job.maxAttempts then
        { w with jobs := w.jobStatus key .queued }
      else
        { w with
          dispatches :=
            w.onDispatches job.dispatchIds (Dispatch.expired key) (Dispatch.expired_id key)
          jobs := w.jobStatus key .failed }
  | .reject key => { w with jobs := w.jobStatus key .failed }
  | .cancel key => { w with jobs := w.jobStatus key .cancelled }
  | .retry key => { w with jobs := w.jobStatus key .queued }

/-! ## What can happen -/

/-- The execution is of the attempt that its job is at. -/
def Holds (execution : Execution) : Prop :=
  ∃ job ∈ w.jobs.lookup execution.key, job.status = .running ∧ job.attemptCount = execution.attempt

/-- The execution of a process job is at a stage, its dispatch without a revision. -/
def At (id : UUID) (p : Execution → Dispatch → Prop) : Prop :=
  ∃ execution ∈ w.executions.lookup id, ∃ d ∈ w.dispatchOf execution,
    d.variantRevision = none ∧ p execution d

def owned (execution : Execution) (d : Dispatch) : Bool :=
  d.generation.any fun run => run.active = execution.id

/-- Another owns what the execution came for, or it is done. -/
def Superseded (execution : Execution) : Prop :=
  (∃ d ∈ w.dispatchOf execution, d.variantRevision.isSome
    ∨ execution.stage = .begun ∧ (∃ run ∈ d.generation,
      run.status = .running ∧ run.activeWorkflowAttempt = execution.attempt)
    ∨ execution.stage = .generating ∧ owned execution d = false)
  ∨ execution.key.dispatch = none ∧ execution.stage = .begun ∧ ∃ job ∈ w.jobs.lookup execution.key,
      job.result.isSome ∨ job.attemptCount ≠ execution.attempt

/-- The execution of a research job whose research is still to be done. -/
def Researching (id : UUID) : Prop :=
  ∃ execution ∈ w.executions.lookup id, execution.key.dispatch = none ∧ execution.stage = .begun
    ∧ ∃ job ∈ w.jobs.lookup execution.key, job.result = none ∧ job.attemptCount = execution.attempt

def Enabled : FlowEvent → Prop
  | .capture d _ =>
    w.dispatches.lookup d.id = none ∧ w.jobs.lookup (.process d.id) = none
      ∧ (∀ earlier ∈ w.dispatches.rows, earlier.creationSequence < d.creationSequence)
      ∧ (d.status = .captured ∨ d.status = .filtered) ∧ d.variantRevision = none
      ∧ d.generation = none
  | .claim key id =>
    w.executions.lookup id = none ∧ ∃ job ∈ w.jobs.lookup key, job.status = .queued
  | .requestResearch id _ => w.At id fun execution _ => execution.stage = .begun
  | .prepare id => w.At id fun execution _ => execution.stage = .begun
  | .resume id => w.At id fun execution d => execution.stage = .begun
      ∧ ∃ run ∈ d.generation, run.status = .completed
  | .shortCircuit id => ∃ execution ∈ w.executions.lookup id, w.Superseded execution
  | .generated id => w.At id fun execution d =>
    execution.stage = .generating ∧ owned execution d = true
  | .generationFailed id _ => w.At id fun execution d =>
    execution.stage = .generating ∧ owned execution d = true
  | .check id _ => w.At id fun execution d => execution.stage = .generated
      ∧ (∃ run ∈ d.generation, run.status = .completed) ∧ w.earlierWaiting d = false
  | .persist id _ _ => w.At id fun execution d => w.validLocked execution d = true
  | .raise id error => ∃ execution ∈ w.executions.lookup id,
      execution.stage.working = true ∨ execution.stage.classified = true ∧ error = none
  | .report id => ∃ execution ∈ w.executions.lookup id,
      (w.dispatchOf execution).isSome = true ∧ execution.stage.classified = true
  | .researched id result => w.Researching id ∧ ∀ job ∈ w.jobs.rows, job.result ≠ some result
  | .researchFailed id _ => w.Researching id
  | .finish id => ∃ execution ∈ w.executions.lookup id, execution.stage = .done ∧ w.Holds execution
  | .fail id => ∃ execution ∈ w.executions.lookup id, w.Holds execution
      ∧ (execution.stage.failing = true
        ∨ execution.key.dispatch = none ∧ execution.stage.classified = true)
  | .vanish id => (w.executions.lookup id).isSome
  | .expire key => ∃ job ∈ w.jobs.lookup key, job.status = .running
  | .reject key => ∃ job ∈ w.jobs.lookup key, job.status = .running
      ∧ ∀ execution ∈ w.executions.rows, execution.key = key → execution.attempt ≠ job.attemptCount
  | .cancel key => ∃ job ∈ w.jobs.lookup key, job.status = .queued
  | .retry key => ∃ job ∈ w.jobs.lookup key, job.status = .failed ∨ job.status = .needsReview

/-! ## Rules -/

variable {w}

theorem sameLineage_iff {d d' : Dispatch} :
    sameLineage d d' = true ↔ d.routeId = d'.routeId ∧ d.storyId = d'.storyId := by
  rw [sameLineage, decide_eq_true_iff]

variable {id : UUID}

theorem serves_iff {job : FlowJob} :
    job.serves id = true ↔ job.key.dispatch = some id ∨ id ∈ job.continuations := by
  rw [FlowJob.serves, decide_eq_true_iff]

variable {P : FlowWorld → Prop}

theorem withExecution_rule {f : Execution → FlowWorld} (hsame : P w)
    (hstep : ∀ execution, w.executions.lookup id = some execution → P (f execution)) :
    P (w.withExecution id f) := by
  unfold withExecution
  split
  · exact hsame
  · exact hstep _ (by assumption)

theorem withDispatch_rule {f : Execution → Dispatch → FlowWorld} (hsame : P w)
    (hstep : ∀ execution d, w.executions.lookup id = some execution → w.dispatchOf execution = some
      d → P (f execution d)) : P (w.withDispatch id f) := by
  refine withExecution_rule hsame fun execution hexecution => ?_
  cases hd : w.dispatchOf execution with
  | none => exact hsame
  | some d => exact hstep execution d hexecution hd

theorem withJob_rule {f : Execution → FlowJob → FlowWorld} (hsame : P w)
    (hstep : ∀ execution job, w.executions.lookup id = some execution → w.jobs.lookup execution.key
      = some job → P (f execution job)) : P (w.withJob id f) := by
  refine withExecution_rule hsame fun execution hexecution => ?_
  cases hjob : w.jobs.lookup execution.key with
  | none => exact hsame
  | some job => exact hstep execution job hexecution hjob

theorem dispatchOf_eq {execution : Execution} {d : Dispatch} (h : w.dispatchOf execution = some d) :
    execution.key.dispatch = some d.id ∧ d ∈ w.dispatches.rows := by
  obtain ⟨dispatchId, hkey, hd⟩ := Option.bind_eq_some_iff.mp h
  refine ⟨?_, Table.mem_of_lookup hd⟩
  rw [hkey, ← Table.key_of_lookup hd]
  rfl

theorem requestResearch_executions (execution : Execution) (d : Dispatch) (request : String) :
    (w.requestResearch execution d request).executions = w.stage execution .done := by
  unfold requestResearch
  split
  · rfl
  split <;> rfl

theorem eq_of_serves_queued {key : JobKey} {dispatchId : UUID} {maxAttempts : Nat}
    (hkey : key.dispatch = some dispatchId)
    (h : (FlowJob.queued key maxAttempts []).serves id = true) : id = dispatchId := by
  rcases serves_iff.mp h with hdispatch | hcontinuation
  · exact Option.some.inj (hdispatch.symm.trans hkey)
  · cases hcontinuation

theorem all_fanOut {P : FlowJob → Prop} {result : UUID} {ids : List UUID} {jobs : Table FlowJob}
    (hjobs : Table.All P jobs) (hnew : ∀ id ∈ ids, P (.queued (.afterResearch id result) 3 [])) :
    Table.All P (fanOut jobs result ids) := by
  induction ids generalizing jobs with
  | nil => exact hjobs
  | cons id rest ih =>
    refine ih (hjobs.insert (hnew id List.mem_cons_self)) fun id' hid' => ?_
    exact hnew id' (List.mem_cons_of_mem _ hid')

/-! ## Decisions -/

variable (w)

instance (execution : Execution) : Decidable (w.Holds execution) :=
  inferInstanceAs (Decidable (∃ job ∈ w.jobs.lookup execution.key,
    job.status = .running ∧ job.attemptCount = execution.attempt))

instance (id : UUID) (p : Execution → Dispatch → Prop) [∀ execution d, Decidable (p execution d)] :
    Decidable (w.At id p) :=
  inferInstanceAs (Decidable (∃ execution ∈ w.executions.lookup id, ∃ d ∈ w.dispatchOf execution,
    d.variantRevision = none ∧ p execution d))

instance (execution : Execution) : Decidable (w.Superseded execution) :=
  inferInstanceAs (Decidable (_ ∨ _))

instance (id : UUID) : Decidable (w.Researching id) :=
  inferInstanceAs (Decidable (∃ execution ∈ w.executions.lookup id, execution.key.dispatch = none
    ∧ execution.stage = .begun ∧ ∃ job ∈ w.jobs.lookup execution.key,
      job.result = none ∧ job.attemptCount = execution.attempt))

instance (event : FlowEvent) : Decidable (w.Enabled event) := by
  cases event <;> (dsimp only [Enabled]; infer_instance)

end FlowWorld

/-- The dispatches with their jobs, in every history. -/
def flowSystem : System FlowWorld FlowEvent where
  init w := w = ⟨.empty, .empty, .empty, []⟩
  step w event w' := w.Enabled event ∧ w' = w.next event

end NewsCraft.Telegram.DispatchFlow
