import Mathlib.Logic.Relation
import NewsCraft.Jobs.Repository
import NewsCraft.Lib.Lease

/-!
# Sequences of repository operations

Each call of the job repository is one transaction, so a history is a sequence of `Op`s with
arbitrary arguments and clock readings. A call that raises leaves the tables alone.

Two ghost logs remember what the tables forget: `grants` lists every lease a claim handed
out and `ends` every lease that was completed or swept, named by job and attempt.

`step_run` says once what an operation can do: a sequence of row writes, each one of the ten
in `RowStep`. Every invariant of the job table is proved against that list.
-/

namespace NewsCraft.Jobs

open Lib Publishing List Table

inductive Op where
  | enqueue (args : JobsDb.EnqueueJob) (available : Bool) (id : UUID) (now : Datetime)
  | claim (workerId : String) (leaseSeconds : Int) (allowedJobTypes : Option (List String))
      (locked : List UUID) (now : Datetime)
  | heartbeat (jobId : UUID) (workerId : String) (leaseSeconds : Int) (progress : Option Int)
      (progressMessage : Option String) (now : Datetime)
  | updateProgress (jobId : UUID) (workerId : String) (progress : Int)
      (progressMessage : Option String) (now : Datetime)
  | checkpoint (jobId : UUID) (workerId : String) (payload result : Option Json) (now : Datetime)
  | finish (jobId : UUID) (workerId : String) (result : Json) (now : Datetime)
  | fail (jobId : UUID) (workerId : String) (errorClass : JobErrorClass)
      (errorCode errorMessage : String) (retryAt : Option Datetime) (now : Datetime)
  | retry (jobId : UUID) (available : Bool) (now : Datetime)
  | cancel (jobId : UUID) (now : Datetime)
  | requeue (candidates : List UUID) (now : Datetime)
  /-- The tables the repository only reads or follows are rewritten by their owners. -/
  | environment (publishing : Table PublishRecord) (globalPause : Bool)

/-- Who an operation claims to be, for the operations only a lease owner may do. -/
structure Actor where
  jobId : UUID
  workerId : String
  now : Datetime

def Op.actor : Op → Option Actor
  | .heartbeat jobId workerId _ _ _ now => some ⟨jobId, workerId, now⟩
  | .updateProgress jobId workerId _ _ now => some ⟨jobId, workerId, now⟩
  | .checkpoint jobId workerId _ _ now => some ⟨jobId, workerId, now⟩
  | .finish jobId workerId _ now => some ⟨jobId, workerId, now⟩
  | .fail jobId workerId _ _ _ _ now => some ⟨jobId, workerId, now⟩
  | .enqueue .. | .claim .. | .retry .. | .cancel .. | .requeue .. | .environment .. => none

structure Grant where
  jobId : UUID
  attempt : Int
  workerId : String
  deriving DecidableEq

structure LeaseEnd where
  jobId : UUID
  attempt : Int
  how : Lease.End

/-- The tables, with the ghost history of the leases. -/
structure World where
  db : JobsDb
  grants : List Grant
  ends : List LeaseEnd

namespace World

def requeueOne (w : World) (jobId : UUID) (now : Datetime) : World :=
  match w.db.jobs.lookup jobId, w.db.requeueCandidate jobId now with
  | some job, some db' =>
    { w with db := db', ends := ⟨jobId, job.attemptCount, .expired⟩ :: w.ends }
  | _, _ => w

def step (R : Redaction) (w : World) : Op → World
  | .enqueue args available id now =>
    match w.db.enqueueJob R args available id now with
    | .ok (_, db') => { w with db := db' }
    | .error _ => w
  | .claim workerId leaseSeconds allowedJobTypes locked now =>
    match w.db.claimNextJob workerId leaseSeconds allowedJobTypes locked now with
    | (none, db') => { w with db := db' }
    | (some job, db') =>
      { w with db := db', grants := ⟨job.id, job.attemptCount, workerId⟩ :: w.grants }
  | .heartbeat jobId workerId leaseSeconds progress progressMessage now =>
    match w.db.heartbeatJob R jobId workerId leaseSeconds progress progressMessage now with
    | .ok (_, db') => { w with db := db' }
    | .error _ => w
  | .updateProgress jobId workerId progress progressMessage now =>
    { w with db := (w.db.updateProgress R jobId workerId progress progressMessage now).2 }
  | .checkpoint jobId workerId payload result now =>
    match w.db.checkpointJob R jobId workerId payload result now with
    | .ok db' => { w with db := db' }
    | .error _ => w
  | .finish jobId workerId result now =>
    match w.db.finishJob R jobId workerId result now with
    | .ok (job, db') =>
      { w with db := db', ends := ⟨jobId, job.attemptCount, .completed⟩ :: w.ends }
    | .error _ => w
  | .fail jobId workerId errorClass errorCode errorMessage retryAt now =>
    match w.db.failJob R jobId workerId errorClass errorCode errorMessage retryAt now with
    | .ok (job, db') =>
      { w with db := db', ends := ⟨jobId, job.attemptCount, .completed⟩ :: w.ends }
    | .error _ => w
  | .retry jobId available now =>
    match w.db.retryJob jobId available now with
    | .ok (_, db') => { w with db := db' }
    | .error _ => w
  | .cancel jobId now =>
    match w.db.cancelJob jobId now with
    | .ok (_, db') => { w with db := db' }
    | .error _ => w
  | .requeue candidates now => candidates.foldl (fun w jobId => w.requeueOne jobId now) w
  | .environment publishing globalPause =>
    { w with db := { w.db with publishing := publishing, globalPause := globalPause } }

end World

/-- The job table under every sequence of operations, from a table without jobs. -/
def jobSystem (R : Redaction) : System World Op where
  init w := w.db.jobs = Table.empty ∧ w.grants = [] ∧ w.ends = []
  step w op w' := w' = w.step R op

namespace World

def empty : World := ⟨⟨Table.empty, Table.empty, false⟩, [], []⟩

def run (R : Redaction) (ops : List Op) : World := ops.foldl (step R) empty

theorem run_reachable (R : Redaction) (ops : List Op) : (jobSystem R).Reachable (run R ops) :=
  System.reachable_foldl (S := jobSystem R) (fun _ _ => rfl) (.init ⟨rfl, rfl, rfl⟩) ops

end World

/-! ## What an operation can do to a row -/

inductive Note where
  | nothing
  | granted (workerId : String)
  | ended (how : Lease.End)

/-- The writes the repository makes to a job row, each under its guard. Only
`retry` reopens a job that ended. -/
inductive RowStep (R : Redaction) (op : Op) (job : WorkflowJob) : WorkflowJob → Note → Prop
  | scheduled (due : Datetime) :
      RowStep R op job { job with scheduledFor := some due } .nothing
  | claimed (workerId : String) (leaseSeconds : Int) (now : Datetime) : job.status = .queued →
      RowStep R op job (job.claimed workerId leaseSeconds now) (.granted workerId)
  | heartbeat (workerId : String) (leaseSeconds : Int) (progress : Option Int)
      (progressMessage : Option String) (now : Datetime) :
      job.hasActiveLease workerId now = true →
      RowStep R op job (job.heartbeat R leaseSeconds progress progressMessage now) .nothing
  | progressed (workerId : String) (progress : Int) (progressMessage : Option String)
      (now : Datetime) : job.hasActiveLease workerId now = true →
      RowStep R op job (job.progressed R progress progressMessage) .nothing
  | checkpointed (workerId : String) (payload result : Option Json) (now : Datetime) :
      job.hasActiveLease workerId now = true →
      RowStep R op job (job.checkpointed R payload result) .nothing
  | finished (workerId : String) (result : Json) (now : Datetime) :
      job.hasActiveLease workerId now = true →
      RowStep R op job (job.finished R result now) (.ended .completed)
  | failed (workerId : String) (errorClass : JobErrorClass) (errorCode errorMessage : String)
      (retryAt : Option Datetime) (now : Datetime) : job.hasActiveLease workerId now = true →
      RowStep R op job (job.failed R errorClass errorCode errorMessage retryAt now) (.ended .completed)
  | retried (available : Bool) (now : Datetime) : op = .retry job.id available now →
      job.status = .failed ∨ job.status = .needsReview →
      RowStep R op job (job.retried now) .nothing
  | cancelled (now : Datetime) : job.status = .queued →
      RowStep R op job (job.cancelled now) .nothing
  | leaseExpired (requiresReview : Bool) (expiresAt now : Datetime) : job.status = .running →
      job.leaseExpiresAt = some expiresAt → expiresAt ≤ now →
      RowStep R op job (job.leaseExpired requiresReview now) (.ended .expired)

namespace World

def record (w : World) (job : WorkflowJob) : Note → World
  | .nothing => w
  | .granted workerId => { w with grants := ⟨job.id, job.attemptCount, workerId⟩ :: w.grants }
  | .ended how => { w with ends := ⟨job.id, job.attemptCount, how⟩ :: w.ends }

/-- Write one job row back, along with the publish rows that follow it. -/
def writeRow (w : World) (publishing : Table PublishRecord) (job : WorkflowJob) (note : Note) :
    World :=
  record { w with db := { w.db with jobs := w.db.jobs.put job, publishing := publishing } } job note

@[simp] theorem writeRow_jobs {w : World} {publishing : Table PublishRecord} {job : WorkflowJob}
    {note : Note} : (w.writeRow publishing job note).db.jobs = w.db.jobs.put job := by
  cases note <;> rfl

/-- The atomic effects an operation is made of. Only `enqueue` adds a row. -/
inductive Effect (R : Redaction) (op : Op) (w : World) : World → Prop
  | environment (publishing : Table PublishRecord) (globalPause : Bool) :
      Effect R op w
        { w with db := { w.db with publishing := publishing, globalPause := globalPause } }
  | insert (args : JobsDb.EnqueueJob) (available : Bool) (id : UUID) (now : Datetime) :
      op = .enqueue args available id now → w.db.jobs.lookup id = none →
      Effect R op w { w with db := { w.db with jobs := w.db.jobs.insert (args.row R id now) } }
  | write {job job' : WorkflowJob} {note : Note} (publishing : Table PublishRecord) :
      w.db.jobs.lookup job.id = some job → RowStep R op job job' note →
      Effect R op w (w.writeRow publishing job' note)

end World

/-! ## Each method, once -/

variable {db : JobsDb} {jobId : UUID} {workerId : String} {now : Datetime} {job : WorkflowJob}

theorem ownedJob_eq_some (h : db.ownedJob jobId workerId now = some job) :
    db.jobs.lookup jobId = some job ∧ job.hasActiveLease workerId now = true := by
  rw [JobsDb.ownedJob] at h
  cases hl : db.jobs.lookup jobId with
  | none => simp [hl] at h
  | some found =>
    rw [hl] at h
    dsimp only at h
    split at h
    · rename_i hactive
      cases h
      exact ⟨rfl, hactive⟩
    · exact absurd h (by simp)

theorem lookup_id (h : db.jobs.lookup jobId = some job) : job.id = jobId :=
  key_of_lookup h

variable {errorClass : JobErrorClass} {errorCode errorMessage : String} {retryAt : Option Datetime}

@[simp] theorem failed_id {R : Redaction} :
    (job.failed R errorClass errorCode errorMessage retryAt now).id = job.id := by
  rw [WorkflowJob.failed]
  split
  · rfl
  · split <;> rfl

@[simp] theorem failed_attemptCount {R : Redaction} :
    (job.failed R errorClass errorCode errorMessage retryAt now).attemptCount
      = job.attemptCount := by
  rw [WorkflowJob.failed]
  split
  · rfl
  · split <;> rfl

@[simp] theorem leaseExpired_id {review : Bool} : (job.leaseExpired review now).id = job.id := by
  rw [WorkflowJob.leaseExpired, WorkflowJob.clearLease]
  split
  · rfl
  · split <;> rfl

@[simp] theorem leaseExpired_attemptCount {review : Bool} :
    (job.leaseExpired review now).attemptCount = job.attemptCount := by
  rw [WorkflowJob.leaseExpired, WorkflowJob.clearLease]
  split
  · rfl
  · split <;> rfl

variable {job' : WorkflowJob}

theorem RowStep.id_eq {R : Redaction} {op : Op} {note : Note} (h : RowStep R op job job' note) :
    job'.id = job.id := by
  cases h with
  | failed => exact failed_id
  | leaseExpired => exact leaseExpired_id
  | _ => rfl

variable {allowed : Option (List String)}

theorem claimCandidate_mem {locked : List UUID}
    (h : db.claimCandidate allowed locked now = some job) :
    job ∈ db.jobs.rows ∧ db.claimable allowed now job = true := by
  rw [JobsDb.claimCandidate] at h
  have hmem := mem_of_mem_head? (Option.mem_def.mpr h)
  rw [mem_insertionSort, mem_filter, Bool.and_eq_true] at hmem
  exact ⟨hmem.1, hmem.2.1⟩

theorem claimable_queued (h : db.claimable allowed now job = true) : job.status = .queued := by
  unfold JobsDb.claimable at h
  simp only [Bool.and_eq_true, decide_eq_true_eq] at h
  exact h.1.1.1

variable {db' : JobsDb}

theorem claimNextJob_cases {leaseSeconds : Int} {locked : List UUID} {claim : Option WorkflowJob}
    (h : db.claimNextJob workerId leaseSeconds allowed locked now = (claim, db')) :
    (claim = none ∧ db' = db) ∨ ∃ job, db.jobs.lookup job.id = some job ∧ job.status = .queued
        ∧ claim = some (job.claimed workerId leaseSeconds now)
        ∧ db' = db.write (job.claimed workerId leaseSeconds now) := by
  rw [JobsDb.claimNextJob] at h
  split at h
  · cases h
    exact .inl ⟨rfl, rfl⟩
  · cases hc : db.claimCandidate allowed locked now with
    | none =>
      rw [hc] at h
      cases h
      exact .inl ⟨rfl, rfl⟩
    | some job =>
      rw [hc] at h
      cases h
      obtain ⟨hmem, hclaim⟩ := claimCandidate_mem hc
      exact .inr ⟨job, lookup_of_mem hmem, claimable_queued hclaim, rfl, rfl⟩

theorem enqueueJob_cases {R : Redaction} {args : JobsDb.EnqueueJob} {available : Bool} {id : UUID}
    {result : WorkflowJob × Bool} (h : db.enqueueJob R args available id now = .ok (result, db')) :
    db' = db ∨ (∃ job due, db.jobs.lookup job.id = some job
          ∧ db' = db.write { job with scheduledFor := some due })
      ∨ (db.jobs.lookup id = none
          ∧ db' = { db with jobs := db.jobs.insert (args.row R id now) }) := by
  rw [JobsDb.enqueueJob, JobsDb.existingJobResult] at h
  cases hk : db.getByIdempotencyKey args.idempotencyKey with
  | some job =>
    rw [hk] at h
    have hmem : job ∈ db.jobs.rows := mem_of_find?_eq_some hk
    dsimp only at h
    by_cases hdue : job.scheduledFor = none
    · rw [if_pos hdue] at h
      cases h
      exact .inr (.inl ⟨job, _, lookup_of_mem hmem, rfl⟩)
    · rw [if_neg hdue] at h
      cases h
      exact .inl rfl
  | none =>
    rw [hk] at h
    dsimp only at h
    split at h
    · cases h
    split at h
    · cases h
    rename_i hfresh
    cases h
    exact .inr (.inr ⟨by simpa using hfresh, rfl⟩)

theorem heartbeatJob_cases {R : Redaction} {leaseSeconds : Int} {progress : Option Int}
    {message : Option String} {b : Bool}
    (h : db.heartbeatJob R jobId workerId leaseSeconds progress message now = .ok (b, db')) :
    db' = db ∨ ∃ job, db.ownedJob jobId workerId now = some job
      ∧ db' = db.write (job.heartbeat R leaseSeconds progress message now) := by
  rw [JobsDb.heartbeatJob] at h
  cases ho : db.ownedJob jobId workerId now with
  | none =>
    rw [ho] at h
    cases h
    exact .inl rfl
  | some job =>
    rw [ho] at h
    dsimp only at h
    split at h
    · cases h
    cases h
    exact .inr ⟨job, rfl, rfl⟩

theorem updateProgress_cases {R : Redaction} {progress : Int} {message : Option String} {b : Bool}
    (h : db.updateProgress R jobId workerId progress message now = (b, db')) :
    db' = db ∨ ∃ job, db.ownedJob jobId workerId now = some job
      ∧ db' = db.write (job.progressed R progress message) := by
  rw [JobsDb.updateProgress] at h
  cases ho : db.ownedJob jobId workerId now with
  | none =>
    rw [ho] at h
    cases h
    exact .inl rfl
  | some job =>
    rw [ho] at h
    cases h
    exact .inr ⟨job, rfl, rfl⟩

theorem checkpointJob_ok {R : Redaction} {payload result : Option Json}
    (h : db.checkpointJob R jobId workerId payload result now = .ok db') :
    ∃ job, db.ownedJob jobId workerId now = some job
      ∧ db' = db.write (job.checkpointed R payload result) := by
  rw [JobsDb.checkpointJob] at h
  split at h
  · cases h
  cases ho : db.ownedJob jobId workerId now with
  | none =>
    rw [ho] at h
    cases h
  | some job =>
    rw [ho] at h
    dsimp only at h
    split at h
    · cases h
    split at h
    · cases h
    cases h
    exact ⟨job, rfl, rfl⟩

theorem finishJob_ok {R : Redaction} {result : Json}
    (h : db.finishJob R jobId workerId result now = .ok (job', db')) :
    ∃ job, db.ownedJob jobId workerId now = some job ∧ job' = job.finished R result now
      ∧ db' = db.write job' := by
  rw [JobsDb.finishJob] at h
  cases ho : db.ownedJob jobId workerId now with
  | none =>
    rw [ho] at h
    cases h
  | some job =>
    rw [ho] at h
    dsimp only at h
    split at h
    · cases h
    cases h
    exact ⟨job, rfl, rfl, rfl⟩

theorem failJob_ok {R : Redaction}
    (h : db.failJob R jobId workerId errorClass errorCode errorMessage retryAt now = .ok (job',
      db')) : ∃ job, db.ownedJob jobId workerId now = some job
      ∧ job' = job.failed R errorClass errorCode errorMessage retryAt now
      ∧ db' = db.write job' := by
  rw [JobsDb.failJob] at h
  cases ho : db.ownedJob jobId workerId now with
  | none =>
    rw [ho] at h
    cases h
  | some job =>
    rw [ho] at h
    cases h
    exact ⟨job, rfl, rfl, rfl⟩

theorem retryJob_ok {available : Bool} (h : db.retryJob jobId available now = .ok (job', db')) :
    ∃ job, db.jobs.lookup jobId = some job ∧ (job.status = .failed ∨ job.status = .needsReview)
      ∧ job' = job.retried now ∧ db' = db.write job' := by
  rw [JobsDb.retryJob] at h
  cases hl : db.jobs.lookup jobId with
  | none =>
    rw [hl] at h
    cases h
  | some job =>
    rw [hl] at h
    dsimp only at h
    by_cases hst : job.status ≠ .failed ∧ job.status ≠ .needsReview
    · rw [if_pos hst] at h
      cases h
    · rw [if_neg hst] at h
      have hst' : job.status = .failed ∨ job.status = .needsReview := by
        by_contra hno
        exact hst ⟨fun h => hno (.inl h), fun h => hno (.inr h)⟩
      split at h
      · cases h
      cases h
      exact ⟨job, rfl, hst', rfl, rfl⟩

theorem cancelJob_ok (h : db.cancelJob jobId now = .ok (job', db')) :
    ∃ job, db.jobs.lookup jobId = some job ∧ job.status = .queued ∧ job' = job.cancelled now
      ∧ db' = db.write job' := by
  rw [JobsDb.cancelJob] at h
  cases hl : db.jobs.lookup jobId with
  | none =>
    rw [hl] at h
    cases h
  | some job =>
    rw [hl] at h
    dsimp only at h
    by_cases hst : job.status ≠ .queued
    · rw [if_pos hst] at h
      cases h
    · rw [if_neg hst] at h
      cases h
      exact ⟨job, rfl, not_not.mp hst, rfl, rfl⟩

theorem requeueCandidate_cases (h : db.requeueCandidate jobId now = some db') :
    ∃ job expiresAt requiresReview publishing, db.jobs.lookup jobId = some job
      ∧ job.status = .running ∧ job.leaseExpiresAt = some expiresAt ∧ expiresAt ≤ now
      ∧ db' = { db with
          jobs := db.jobs.put (job.leaseExpired requiresReview now), publishing := publishing } := by
  rw [JobsDb.requeueCandidate] at h
  cases hl : db.jobs.lookup jobId with
  | none => simp [hl] at h
  | some job =>
    rw [hl] at h
    dsimp only at h
    cases he : job.leaseExpiresAt with
    | none => simp [he] at h
    | some expiresAt =>
      rw [he] at h
      dsimp only at h
      by_cases hc : job.status ≠ .running ∨ expiresAt > now
      · rw [if_pos hc] at h
        cases h
      · rw [if_neg hc] at h
        cases h
        have hrun : job.status = .running := by
          by_contra hne
          exact hc (.inl hne)
        have hle : expiresAt ≤ now := Int.not_lt.mp fun hgt => hc (.inr hgt)
        exact ⟨job, expiresAt, _, _, rfl, hrun, he, hle, rfl⟩

namespace World

variable {R : Redaction}

open Relation

theorem Effect.writeRow {w : World} {op : Op} {jobId : UUID} {job job' : WorkflowJob} {note : Note}
    (hl : w.db.jobs.lookup jobId = some job) (hs : RowStep R op job job' note) :
    Effect R op w (w.writeRow w.db.publishing job' note) := by
  obtain rfl := lookup_id hl
  exact Effect.write w.db.publishing hl hs

theorem requeueOne_effect (w : World) (op : Op) (jobId : UUID) (now : Datetime) :
    ReflTransGen (Effect R op) w (w.requeueOne jobId now) := by
  rw [requeueOne]
  cases hr : w.db.requeueCandidate jobId now with
  | none =>
    cases w.db.jobs.lookup jobId with
    | none | some _ => exact .refl
  | some db' =>
    obtain ⟨job, expiresAt, review, publishing, hl, hrun, he, hle, rfl⟩ :=
      requeueCandidate_cases hr
    rw [hl]
    have hs : RowStep R op job (job.leaseExpired review now) (.ended .expired) :=
      .leaseExpired review expiresAt now hrun he hle
    have heff : Effect R op w
        (w.writeRow publishing (job.leaseExpired review now) (.ended .expired)) :=
      .write publishing (by rw [lookup_id hl]; exact hl) hs
    rw [writeRow, record, leaseExpired_id, leaseExpired_attemptCount, lookup_id hl] at heff
    exact .single heff

/-- **Every operation is a sequence of guarded row writes.** -/
theorem step_run (w : World) (op : Op) : ReflTransGen (Effect R op) w (w.step R op) := by
  cases op with
  | enqueue args available id now =>
    rw [step]
    cases he : w.db.enqueueJob R args available id now with
    | error _ => exact .refl
    | ok result =>
      obtain ⟨result, db'⟩ := result
      rcases enqueueJob_cases he with rfl | ⟨job, due, hl, rfl⟩ | ⟨hfresh, rfl⟩
      · exact .refl
      · exact .single (Effect.writeRow hl (.scheduled due))
      · exact .single (Effect.insert args available id now rfl hfresh)
  | claim workerId leaseSeconds allowed locked now =>
    rw [step]
    cases hc : w.db.claimNextJob workerId leaseSeconds allowed locked now with
    | mk claim db' =>
      rcases claimNextJob_cases hc with ⟨rfl, rfl⟩ | ⟨job, hl, hq, rfl, rfl⟩
      · exact .refl
      · exact .single (Effect.writeRow hl (.claimed workerId leaseSeconds now hq))
  | heartbeat jobId workerId leaseSeconds progress message now =>
    rw [step]
    cases he : w.db.heartbeatJob R jobId workerId leaseSeconds progress message now with
    | error _ => exact .refl
    | ok result =>
      obtain ⟨b, db'⟩ := result
      rcases heartbeatJob_cases he with rfl | ⟨job, ho, rfl⟩
      · exact .refl
      obtain ⟨hl, ha⟩ := ownedJob_eq_some ho
      exact .single (Effect.writeRow hl (.heartbeat workerId leaseSeconds progress message now ha))
  | updateProgress jobId workerId progress message now =>
    rw [step]
    cases hp : w.db.updateProgress R jobId workerId progress message now with
    | mk b db' =>
      rcases updateProgress_cases hp with rfl | ⟨job, ho, rfl⟩
      · exact .refl
      obtain ⟨hl, ha⟩ := ownedJob_eq_some ho
      exact .single (Effect.writeRow hl (.progressed workerId progress message now ha))
  | checkpoint jobId workerId payload result now =>
    rw [step]
    cases he : w.db.checkpointJob R jobId workerId payload result now with
    | error _ => exact .refl
    | ok db' =>
      obtain ⟨job, ho, rfl⟩ := checkpointJob_ok he
      obtain ⟨hl, ha⟩ := ownedJob_eq_some ho
      exact .single (Effect.writeRow hl (.checkpointed workerId payload result now ha))
  | finish jobId workerId result now =>
    rw [step]
    cases he : w.db.finishJob R jobId workerId result now with
    | error _ => exact .refl
    | ok outcome =>
      obtain ⟨job', db'⟩ := outcome
      obtain ⟨job, ho, rfl, rfl⟩ := finishJob_ok he
      obtain ⟨hl, ha⟩ := ownedJob_eq_some ho
      have hs : RowStep R (.finish jobId workerId result now) job (job.finished R result now)
          (.ended .completed) :=
        .finished workerId result now ha
      have heff := Effect.writeRow hl hs
      rw [writeRow, record, hs.id_eq, lookup_id hl] at heff
      exact .single heff
  | fail jobId workerId errorClass errorCode errorMessage retryAt now =>
    rw [step]
    cases he : w.db.failJob R jobId workerId errorClass errorCode errorMessage retryAt now with
    | error _ => exact .refl
    | ok outcome =>
      obtain ⟨job', db'⟩ := outcome
      obtain ⟨job, ho, rfl, rfl⟩ := failJob_ok he
      obtain ⟨hl, ha⟩ := ownedJob_eq_some ho
      have hs : RowStep R (.fail jobId workerId errorClass errorCode errorMessage retryAt now) job
          (job.failed R errorClass errorCode errorMessage retryAt now) (.ended .completed) :=
        .failed workerId errorClass errorCode errorMessage retryAt now ha
      have heff := Effect.writeRow hl hs
      rw [writeRow, record, hs.id_eq, lookup_id hl] at heff
      exact .single heff
  | retry jobId available now =>
    rw [step]
    cases he : w.db.retryJob jobId available now with
    | error _ => exact .refl
    | ok outcome =>
      obtain ⟨job', db'⟩ := outcome
      obtain ⟨job, hl, hst, rfl, rfl⟩ := retryJob_ok he
      exact .single (Effect.writeRow hl (.retried available now (by rw [lookup_id hl]) hst))
  | cancel jobId now =>
    rw [step]
    cases he : w.db.cancelJob jobId now with
    | error _ => exact .refl
    | ok outcome =>
      obtain ⟨job', db'⟩ := outcome
      obtain ⟨job, hl, hq, rfl, rfl⟩ := cancelJob_ok he
      exact .single (Effect.writeRow hl (.cancelled now hq))
  | requeue candidates now =>
    rw [step]
    generalize Op.requeue candidates now = op
    induction candidates generalizing w with
    | nil => exact .refl
    | cons jobId rest ih => exact (requeueOne_effect w op jobId now).trans (ih _)
  | environment publishing globalPause =>
    exact .single (Effect.environment publishing globalPause)

theorem step_preserves {P : World → Prop} {op : Op} (heff : ∀ w w', P w → Effect R op w w' → P w')
    {w : World} (h : P w) : P (w.step R op) := by
  suffices hrun : ∀ w', ReflTransGen (Effect R op) w w' → P w' from hrun _ (step_run w op)
  intro w' hrun
  induction hrun with
  | refl => exact h
  | tail _ hst ih => exact heff _ _ ih hst

end World

end NewsCraft.Jobs
