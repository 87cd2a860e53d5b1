import NewsCraft.Jobs.System

/-!
# Attempts of a job

The attempt counter is raised at the claim, compared at a failure and at a lease expiry, and
left alone when an operator reopens a job. `JobExecution.fromJob` refuses a row whose
counter exceeds its maximum, and the worker then fails the job for good.

So a job that used all its attempts and is retried can be claimed but not run.
`retry_exhausted` is that run, and `claimed_executable` says it is the only way.
-/

namespace NewsCraft.Jobs

open Lib Publishing

variable {R : Redaction} {op : Op}

/-! ## Claiming an execution -/

/-- A claimed row no execution could be made from. -/
structure InvalidClaim where
  jobId : UUID
  jobType : String
  attemptCount : Int

/-- `_claim_execution`: claim a job and take its snapshot, in one transaction. -/
def claimExecution (R : Redaction) (db : JobsDb) (workerId : String) (leaseSeconds : Int)
    (jobTypes : List String) (locked : List UUID) (now : Datetime) :
    Option (Except InvalidClaim JobExecution) × JobsDb :=
  match db.claimNextJob workerId leaseSeconds (some jobTypes) locked now with
  | (none, db) => (none, db)
  | (some job, db) =>
    let invalidClaim : InvalidClaim := ⟨job.id, job.jobType, job.attemptCount⟩
    match JobExecution.fromJob R job with
    | .error _ => (some (.error invalidClaim), db)
    | .ok execution =>
      if execution.leaseOwner ≠ workerId then
        (some (.error invalidClaim), db)
      else
        (some (.ok execution), db)

/-- `_fail_invalid_claim`: the job is failed without its handler having run. -/
def failInvalidClaim (R : Redaction) (db : JobsDb) (claim : InvalidClaim) (workerId : String)
    (now : Datetime) : Except JobError (WorkflowJob × JobsDb) :=
  db.failJob R claim.jobId workerId .permanent "job_execution_invalid"
    "Claimed job could not be materialized safely" none now

/-- What `fromJob` asks of a row apart from its attempt counters. -/
structure SnapshotAccepted (R : Redaction) (job : WorkflowJob) : Prop where
  jobType : isBlank job.jobType = false
  leaseOwner : isBlank (job.leaseOwner.getD "") = false
  payload : job.payload.isObj = true
  secrets : JobExecution.rejectSecretPayload R job.jobType job.payload = .ok ()

/-- `fromJob` accepts a row exactly when its counters are in range and the rest
of it is well formed. -/
theorem fromJob_ok_iff {job : WorkflowJob} :
    (∃ execution, JobExecution.fromJob R job = .ok execution)
      ↔ (1 ≤ job.attemptCount ∧ job.attemptCount ≤ job.maxAttempts) ∧ SnapshotAccepted R job := by
  constructor
  · rintro ⟨execution, h⟩
    unfold JobExecution.fromJob at h
    by_cases htype : isBlank job.jobType = true
    · simp [htype] at h
    by_cases hattempt : job.attemptCount ≤ 0
    · simp [htype, hattempt] at h
    by_cases hmax : job.maxAttempts ≤ 0
    · simp [htype, hattempt, hmax] at h
    by_cases hexceeds : job.attemptCount > job.maxAttempts
    · simp [htype, hattempt, hmax, hexceeds] at h
    by_cases howner : isBlank (job.leaseOwner.getD "") = true
    · simp [htype, hattempt, hmax, hexceeds, howner] at h
    by_cases hpayload : job.payload.isObj = true
    · cases hsecret : JobExecution.rejectSecretPayload R job.jobType job.payload with
      | error e => simp [htype, hattempt, hmax, hexceeds, howner, hpayload, hsecret] at h
      | ok u =>
        exact ⟨⟨by omega, by omega⟩,
          ⟨by simpa using htype, by simpa using howner, hpayload, hsecret⟩⟩
    · simp [htype, hattempt, hmax, hexceeds, howner, hpayload] at h
  · rintro ⟨⟨hpos, hle⟩, hs⟩
    have hattempt : ¬ job.attemptCount ≤ 0 := by omega
    have hmax : ¬ job.maxAttempts ≤ 0 := by omega
    have hexceeds : ¬ job.attemptCount > job.maxAttempts := by omega
    refine ⟨JobExecution.snapshot job, ?_⟩
    unfold JobExecution.fromJob
    simp only [hs.jobType, hs.leaseOwner, hs.payload, hs.secrets, hattempt, hmax, hexceeds, if_false,
      Bool.false_eq_true, Bool.not_true]

theorem fromJob_eq {job : WorkflowJob} {execution : JobExecution}
    (h : JobExecution.fromJob R job = .ok execution) : execution = JobExecution.snapshot job := by
  unfold JobExecution.fromJob at h
  repeat' split at h
  all_goals cases h
  rfl

/-! ## The bound along a run -/

/-- A job's counter is in range, and a queued job has an attempt left. -/
structure AttemptsInRange (job : WorkflowJob) : Prop where
  nonneg : 0 ≤ job.attemptCount
  le_max : job.attemptCount ≤ job.maxAttempts
  max_pos : 1 ≤ job.maxAttempts
  queued : job.status = .queued → job.attemptCount < job.maxAttempts

/-- A job is enqueued with at least one attempt, and reopened only while it has one left. -/
def AttemptsRespected (w : World) : Op → Prop
  | .enqueue args _ _ _ => 1 ≤ args.maxAttempts
  | .retry jobId _ _ =>
    ∀ job, w.db.jobs.lookup jobId = some job → job.attemptCount < job.maxAttempts
  | _ => True

theorem attemptsInRange_step {job job' : WorkflowJob} {note : Note} (h : AttemptsInRange job)
    (hop : ∀ jobId available now, op ≠ .retry jobId available now)
    (hs : RowStep R op job job' note) : AttemptsInRange job' := by
  obtain ⟨hnonneg, hle, hpos, hqueued⟩ := h
  cases hs with
  | claimed workerId leaseSeconds now hq =>
    have hlt := hqueued hq
    refine ⟨?_, ?_, hpos, by simp [WorkflowJob.claimed]⟩
    · show 0 ≤ job.attemptCount + 1
      omega
    · show job.attemptCount + 1 ≤ job.maxAttempts
      omega
  | finished => exact ⟨hnonneg, hle, hpos, by simp [WorkflowJob.finished, WorkflowJob.clearLease]⟩
  | failed =>
    unfold WorkflowJob.failed
    dsimp only
    split
    · -- Only a failure that leaves an attempt puts the job back in the queue.
      rename_i hretry
      exact ⟨hnonneg, hle, hpos, fun _ => hretry.2⟩
    · split <;> exact ⟨hnonneg, hle, hpos, by simp⟩
  | retried available now hop' => exact absurd hop' (hop _ _ _)
  | cancelled => exact ⟨hnonneg, hle, hpos, by simp [WorkflowJob.cancelled]⟩
  | leaseExpired review expiresAt now =>
    unfold WorkflowJob.leaseExpired WorkflowJob.clearLease
    split
    · exact ⟨hnonneg, hle, hpos, by simp⟩
    split
    · exact ⟨hnonneg, hle, hpos, by simp⟩
    rename_i hleft
    exact ⟨hnonneg, hle, hpos, fun _ => by show job.attemptCount < job.maxAttempts; omega⟩
  | _ => exact ⟨hnonneg, hle, hpos, hqueued⟩

theorem attemptsInRange_effect {w w' : World} (h : w.db.jobs.All AttemptsInRange)
    (hop : ∀ jobId available now, op ≠ .retry jobId available now)
    (henqueue : ∀ args available id now, op = .enqueue args available id now → 1 ≤ args.maxAttempts)
    (he : World.Effect R op w w') : w'.db.jobs.All AttemptsInRange := by
  cases he with
  | environment => exact h
  | insert args available id now hop' =>
    have hpos := henqueue args available id now hop'
    refine h.insert ⟨Int.le_refl _, ?_, hpos, fun _ => ?_⟩
    · show (0 : Int) ≤ args.maxAttempts
      omega
    · show (0 : Int) < args.maxAttempts
      omega
  | @write job job' note publishing hl hs =>
    rw [World.writeRow_jobs]
    exact h.put (attemptsInRange_step (h.lookup hl) hop hs)

theorem attemptsInRange_retry {w : World} (h : w.db.jobs.All AttemptsInRange) {jobId : UUID}
    {available : Bool} {now : Datetime} (hok : AttemptsRespected w (.retry jobId available now)) :
    (w.step R (.retry jobId available now)).db.jobs.All AttemptsInRange := by
  rw [World.step]
  cases he : w.db.retryJob jobId available now with
  | error _ => exact h
  | ok outcome =>
    obtain ⟨job', db'⟩ := outcome
    obtain ⟨job, hl, _, rfl, rfl⟩ := retryJob_ok he
    have hlt := hok job hl
    obtain ⟨hnonneg, hle, hpos, _⟩ := h.lookup hl
    exact h.put ⟨hnonneg, hle, hpos, fun _ => hlt⟩

theorem attemptsInRange_reachable {w : World}
    (h : ((jobSystem R).restrict AttemptsRespected).Reachable w) :
    w.db.jobs.All AttemptsInRange := by
  refine System.invariant (P := fun w => w.db.jobs.All AttemptsInRange) ?_ ?_ h
  · rintro w ⟨hjobs, _, _⟩
    rw [hjobs]
    exact Table.all_empty
  · rintro w op w' _ hi ⟨hok, rfl⟩
    by_cases hretry : ∃ jobId available now, op = .retry jobId available now
    · obtain ⟨jobId, available, now, rfl⟩ := hretry
      exact attemptsInRange_retry hi hok
    · refine World.step_preserves (P := fun w => w.db.jobs.All AttemptsInRange) ?_ hi
      intro w₁ w₂ h₁ heff
      refine attemptsInRange_effect h₁ ?_ ?_ heff
      · intro jobId available now heq
        exact hretry ⟨jobId, available, now, heq⟩
      · rintro args available id now rfl
        exact hok

/-! ## Every claimed job can run -/

/-- Whatever is claimed next has its attempt counter in range. -/
def ClaimsExecutable (R : Redaction) (db : JobsDb) : Prop :=
  ∀ workerId leaseSeconds jobTypes locked now job db',
    db.claimNextJob workerId leaseSeconds (some jobTypes) locked now = (some job, db') →
    (1 ≤ job.attemptCount ∧ job.attemptCount ≤ job.maxAttempts)
      ∧ (SnapshotAccepted R job → ∃ execution,
          claimExecution R db workerId leaseSeconds jobTypes locked now
            = (some (.ok execution), db'))

theorem claimExecution_ok {db db' : JobsDb} {workerId : String} {leaseSeconds : Int}
    {jobTypes : List String} {locked : List UUID} {now : Datetime} {job : WorkflowJob}
    (hc : db.claimNextJob workerId leaseSeconds (some jobTypes) locked now = (some job, db'))
    (hf : JobExecution.fromJob R job = .ok (JobExecution.snapshot job)) :
    claimExecution R db workerId leaseSeconds jobTypes locked now
      = (some (.ok (JobExecution.snapshot job)), db') := by
  have howner : job.leaseOwner = some workerId := by
    rcases claimNextJob_cases hc with ⟨hnone, _⟩ | ⟨row, _, _, hsome, _⟩
    · cases hnone
    cases hsome
    rfl
  rw [claimExecution, hc]
  simp [hf, JobExecution.snapshot, howner]

/--
**Every claimable job is executable** in a run that respects the bound: a claim
returns a job on its first to last permitted attempt, and the worker goes on to
its handler unless something other than the counter is wrong with the row.
-/
theorem claimed_executable {w : World}
    (h : ((jobSystem R).restrict AttemptsRespected).Reachable w) : ClaimsExecutable R w.db := by
  have hall := attemptsInRange_reachable h
  intro workerId leaseSeconds jobTypes locked now job db' hc
  have hrange : 1 ≤ job.attemptCount ∧ job.attemptCount ≤ job.maxAttempts := by
    rcases claimNextJob_cases hc with ⟨hnone, _⟩ | ⟨row, hl, hq, hsome, _⟩
    · cases hnone
    cases hsome
    obtain ⟨hnonneg, hle, hpos, hqueued⟩ := hall.lookup hl
    have hlt := hqueued hq
    constructor
    · show 1 ≤ row.attemptCount + 1
      omega
    · show row.attemptCount + 1 ≤ row.maxAttempts
      omega
  refine ⟨hrange, fun hs => ⟨JobExecution.snapshot job, claimExecution_ok hc ?_⟩⟩
  obtain ⟨execution, hok⟩ := fromJob_ok_iff.mpr ⟨hrange, hs⟩
  rw [hok, fromJob_eq hok]

/-- The arguments of an enqueue with `maxAttempts` attempts. -/
def enqueueWith (maxAttempts : Int) : JobsDb.EnqueueJob where
  jobType := "icon.discover"
  payload := Json.empty
  idempotencyKey := "source.icon.discover:1"
  origin := .scheduler
  maxAttempts := maxAttempts

/-- Two attempts, the first of which was lost to an expired lease. -/
theorem claimed_executable_requeued : ClaimsExecutable .identity (World.run .identity
        [ .enqueue (enqueueWith 2) true 1 0, .claim "worker" 10 none [] 0,
          .requeue [1] 10000000 ]).db := by
  have h0 : ((jobSystem .identity).restrict AttemptsRespected).Reachable World.empty :=
    .init ⟨rfl, rfl, rfl⟩
  have h1 := h0.tail (e := Op.enqueue (enqueueWith 2) true 1 0) ⟨show (1 : Int) ≤ 2 by decide, rfl⟩
  have h2 := h1.tail (e := Op.claim "worker" 10 none [] 0) ⟨trivial, rfl⟩
  have h3 := h2.tail (e := Op.requeue [1] 10000000) ⟨trivial, rfl⟩
  exact claimed_executable h3

/-- An operator reopens a job whose single attempt was lost to an expired lease. -/
def retryExhausted : World :=
  World.run .identity [ .enqueue (enqueueWith 1) true 1 0, .claim "worker" 10 none [] 0,
      .requeue [1] 10000000, .retry 1 true 11000000 ]

/-- The reopened job is claimed for attempt 2 of 1, which no execution accepts. -/
theorem retry_exhausted_not_executable :
    ¬ ∀ w, (jobSystem .identity).Reachable w → ClaimsExecutable .identity w.db := by
  intro h
  have hclaim := h retryExhausted (World.run_reachable _ _) "operator-retry-worker" 10
    ["icon.discover"] [] 11000000 _ _ rfl
  exact absurd hclaim.1.2 (by decide)

end NewsCraft.Jobs
