import NewsCraft.Jobs.System

/-!
# The job lease state machine

Ten transitions write the four lease columns of a job row. `LeaseFields` ties them to the
status, and `leaseView` reads a row as a resource of the protocol in `Lib.Lease`: owner and
expiry are who holds it, the attempt counter is its epoch. Each row write is one step of
that protocol, so its guarantee is one about jobs.

Owners are worker ids: a worker that comes back under the id of a dead one and claims the
job again is the owner of the new lease.
-/

namespace NewsCraft.Jobs

open Lib Publishing Table List

variable {R : Redaction} {op : Op}

/-! ## The lease columns follow the status -/

/-- The lease columns are set exactly while the job runs, `finished_at` exactly
once it is over. -/
structure LeaseFields (job : WorkflowJob) : Prop where
  owner : job.status = .running ↔ job.leaseOwner.isSome = true
  expires : job.status = .running ↔ job.leaseExpiresAt.isSome = true
  heartbeat : job.status = .running ↔ job.heartbeatAt.isSome = true
  finished : job.finishedAt.isSome = true ↔ job.status.terminal = true

variable {job : WorkflowJob} {now : Datetime}

theorem hasActiveLease_iff {workerId : String} : job.hasActiveLease workerId now = true
      ↔ job.status = .running ∧ job.leaseOwner = some workerId
        ∧ ∃ expiresAt, job.leaseExpiresAt = some expiresAt ∧ now < expiresAt := by
  unfold WorkflowJob.hasActiveLease
  cases job.leaseExpiresAt with
  | none => simp
  | some expiresAt => simp [and_assoc]

theorem leaseFields_row (args : JobsDb.EnqueueJob) (id : UUID) (now : Datetime) :
    LeaseFields (args.row R id now) := by
  constructor <;> simp [JobsDb.EnqueueJob.row, JobStatus.terminal]

theorem leaseFields_idle (hrun : job.status ≠ .running) (ho : job.leaseOwner = none)
    (he : job.leaseExpiresAt = none) (hh : job.heartbeatAt = none)
    (hfin : job.finishedAt.isSome = true ↔ job.status.terminal = true) : LeaseFields job := by
  constructor <;> simp [ho, he, hh, hrun, hfin]

theorem leaseFields_failed {errorClass : JobErrorClass} {errorCode errorMessage : String}
    {retryAt : Option Datetime} :
    LeaseFields (job.failed R errorClass errorCode errorMessage retryAt now) := by
  unfold WorkflowJob.failed
  dsimp only
  split
  · exact leaseFields_idle (by simp) rfl rfl rfl (by simp [JobStatus.terminal])
  split
  · exact leaseFields_idle (by simp) rfl rfl rfl (by simp [JobStatus.terminal])
  · exact leaseFields_idle (by simp) rfl rfl rfl (by simp [JobStatus.terminal])

theorem leaseFields_leaseExpired (h : LeaseFields job) (hrun : job.status = .running)
    {review : Bool} : LeaseFields (job.leaseExpired review now) := by
  have hfin : ¬ job.finishedAt.isSome = true := by
    rw [h.finished, hrun]
    simp [JobStatus.terminal]
  unfold WorkflowJob.leaseExpired WorkflowJob.clearLease
  split
  · exact leaseFields_idle (by simp) rfl rfl rfl (by simp [JobStatus.terminal])
  split
  · exact leaseFields_idle (by simp) rfl rfl rfl (by simp [JobStatus.terminal])
  · exact leaseFields_idle (by simp) rfl rfl rfl (by simpa [JobStatus.terminal] using hfin)

variable {job' : WorkflowJob} {note : Note}

theorem leaseFields_step (h : LeaseFields job) (hs : RowStep R op job job' note) :
    LeaseFields job' := by
  cases hs with
  | scheduled _ | progressed | checkpointed => exact ⟨h.owner, h.expires, h.heartbeat, h.finished⟩
  | claimed => constructor <;> simp [WorkflowJob.claimed, JobStatus.terminal]
  | heartbeat workerId leaseSeconds progress message now ha =>
    have hrun := (hasActiveLease_iff.mp ha).1
    refine ⟨h.owner, ?_, ?_, h.finished⟩
    · simp [WorkflowJob.heartbeat, hrun]
    · simp [WorkflowJob.heartbeat, hrun]
  | finished workerId result now =>
    exact leaseFields_idle (by simp [WorkflowJob.finished, WorkflowJob.clearLease]) rfl rfl rfl
      (by simp [WorkflowJob.finished, WorkflowJob.clearLease, JobStatus.terminal])
  | failed => exact leaseFields_failed
  | retried available now _ hst =>
    exact leaseFields_idle (by simp [WorkflowJob.retried, WorkflowJob.clearLease]) rfl rfl rfl
      (by simp [WorkflowJob.retried, WorkflowJob.clearLease, JobStatus.terminal])
  | cancelled now hq =>
    have howner := h.owner
    have hexpires := h.expires
    have hheartbeat := h.heartbeat
    rw [hq] at howner hexpires hheartbeat
    constructor <;> simp_all [WorkflowJob.cancelled, JobStatus.terminal]
  | leaseExpired review expiresAt now hrun => exact leaseFields_leaseExpired h hrun

/-! ## A job row is a leased resource -/

/-- Who holds the job, as the lease columns say. -/
def leasePhase (job : WorkflowJob) : Lease.Phase String Datetime :=
  match job.leaseOwner, job.leaseExpiresAt with
  | some owner, some expiresAt => .held owner expiresAt
  | _, _ => if job.status.terminal then .closed else .available

theorem leasePhase_held {owner : String} {expiresAt : Datetime} (ho : job.leaseOwner = some owner)
    (he : job.leaseExpiresAt = some expiresAt) : leasePhase job = .held owner expiresAt := by
  simp [leasePhase, ho, he]

theorem leasePhase_idle (h : LeaseFields job) (hrun : job.status ≠ .running) :
    leasePhase job = if job.status.terminal then .closed else .available := by
  have hnone : job.leaseOwner = none := by
    cases ho : job.leaseOwner with
    | none => rfl
    | some owner => exact absurd (h.owner.mpr (by simp [ho])) hrun
  simp [leasePhase, hnone]

theorem leasePhase_not_held (h : LeaseFields job) (hrun : job.status ≠ .running) (owner : String)
    (deadline : Datetime) : leasePhase job ≠ .held owner deadline := by
  rw [leasePhase_idle h hrun]
  split <;> simp

/-- The ends a row write adds to its job's list. -/
def Note.ends (attempt : Int) : Note → List (Int × Lease.End) → List (Int × Lease.End)
  | .ended how, ends => (attempt, how) :: ends
  | .nothing, ends | .granted _, ends => ends

/-- **A row write is a step of the lease protocol**, or invisible to it. -/
theorem RowStep.lease (h : LeaseFields job) (hs : RowStep R op job job' note)
    (ends : List (Int × Lease.End)) : Lease.Step ⟨leasePhase job, job.attemptCount, ends⟩
        ⟨leasePhase job', job'.attemptCount, note.ends job'.attemptCount ends⟩
      ∨ (⟨leasePhase job', job'.attemptCount, note.ends job'.attemptCount ends⟩
          : Lease.State String Datetime) = ⟨leasePhase job, job.attemptCount, ends⟩ := by
  have h' := leaseFields_step h hs
  cases hs with
  | scheduled _ | progressed | checkpointed => exact .inr rfl
  | claimed workerId leaseSeconds now hq =>
    left
    have hidle := leasePhase_idle h (by rw [hq]; simp)
    rw [hq] at hidle
    rw [hidle]
    exact Lease.Step.grant workerId _
  | heartbeat workerId leaseSeconds progress message now ha =>
    obtain ⟨_, ho, expiresAt, he, hlt⟩ := hasActiveLease_iff.mp ha
    left
    have hheld : leasePhase (job.heartbeat R leaseSeconds progress message now)
        = .held workerId (now + timedeltaSeconds leaseSeconds) := leasePhase_held ho rfl
    rw [leasePhase_held ho he, hheld]
    exact Lease.Step.renew now _ hlt
  | finished workerId result now ha =>
    obtain ⟨_, ho, expiresAt, he, hlt⟩ := hasActiveLease_iff.mp ha
    left
    rw [leasePhase_held ho he]
    exact Lease.Step.complete now _ hlt (leasePhase_not_held h' (by simp [WorkflowJob.finished,
      WorkflowJob.clearLease]))
  | failed workerId errorClass errorCode errorMessage retryAt now ha =>
    obtain ⟨_, ho, expiresAt, he, hlt⟩ := hasActiveLease_iff.mp ha
    left
    rw [leasePhase_held ho he, failed_attemptCount]
    refine Lease.Step.complete now _ hlt (leasePhase_not_held h' ?_)
    unfold WorkflowJob.failed
    dsimp only
    split
    · simp
    · split <;> simp
  | retried available now _ hst =>
    left
    have hrun : job.status ≠ .running := by
      rcases hst with hst | hst <;> rw [hst] <;> simp
    exact Lease.Step.toggle (leasePhase_not_held h hrun)
      (leasePhase_not_held h' (by simp [WorkflowJob.retried, WorkflowJob.clearLease]))
  | cancelled now hq =>
    left
    exact Lease.Step.toggle (leasePhase_not_held h (by rw [hq]; simp))
      (leasePhase_not_held h' (by simp [WorkflowJob.cancelled]))
  | leaseExpired review expiresAt now hrun he hle =>
    left
    obtain ⟨owner, ho⟩ := Option.isSome_iff_exists.mp (h.owner.mp hrun)
    rw [leasePhase_held ho he, leaseExpired_attemptCount]
    refine Lease.Step.expire now _ hle (leasePhase_not_held h' ?_)
    unfold WorkflowJob.leaseExpired WorkflowJob.clearLease
    split
    · simp
    · split <;> simp

/-! ## The job table refines the protocol -/

def endsOf (ends : List LeaseEnd) (jobId : UUID) : List (Int × Lease.End) :=
  ends.filterMap fun e => if e.jobId = jobId then some (e.attempt, e.how) else none

/-- A job as a leased resource. A job that does not exist yet has never been held. -/
def leaseView (w : World) (jobId : UUID) : Lease.State String Datetime :=
  match w.db.jobs.lookup jobId with
  | none => ⟨.available, 0, endsOf w.ends jobId⟩
  | some job => ⟨leasePhase job, job.attemptCount, endsOf w.ends jobId⟩

variable {w : World} {jobId : UUID}

theorem leaseView_of_lookup (h : w.db.jobs.lookup jobId = some job) :
    leaseView w jobId = ⟨leasePhase job, job.attemptCount, endsOf w.ends jobId⟩ := by
  rw [leaseView, h]

variable {w' : World}

theorem leaseView_congr (hl : w'.db.jobs.lookup jobId = w.db.jobs.lookup jobId)
    (he : endsOf w'.ends jobId = endsOf w.ends jobId) : leaseView w' jobId = leaseView w jobId := by
  rw [leaseView, leaseView, hl, he]

theorem endsOf_writeRow_self (w : World) (publishing : Table PublishRecord) (job : WorkflowJob)
    (note : Note) : endsOf (w.writeRow publishing job note).ends job.id
      = note.ends job.attemptCount (endsOf w.ends job.id) := by
  cases note with
  | nothing | granted _ => rfl
  | ended how => simp [World.writeRow, World.record, endsOf, Note.ends]

theorem endsOf_writeRow_other {publishing : Table PublishRecord} (h : job.id ≠ jobId) :
    endsOf (w.writeRow publishing job note).ends jobId = endsOf w.ends jobId := by
  cases note with
  | nothing | granted _ => rfl
  | ended how => simp [World.writeRow, World.record, endsOf, h]

theorem lookup_put_row {db : JobsDb} (hl : db.jobs.lookup job.id = some job)
    (hs : RowStep R op job job' note) : (db.jobs.put job').lookup job.id = some job' := by
  have hkey : Keyed.key job' = job.id := hs.id_eq
  rw [← hkey] at hl ⊢
  exact lookup_put_self hl

/-- Lease columns are in step with the status, and every job is a state of the lease protocol. -/
structure LeaseInv (w : World) : Prop where
  fields : w.db.jobs.All LeaseFields
  refines : ∀ jobId, (Lease.system String Datetime).Reachable (leaseView w jobId)

theorem leaseView_insert {args : JobsDb.EnqueueJob} {id : UUID}
    (hfresh : w.db.jobs.lookup id = none) (jobId : UUID) :
    leaseView { w with db := { w.db with jobs := w.db.jobs.insert (args.row R id now) } } jobId
      = leaseView w jobId := by
  have hnew := lookup_insert (t := w.db.jobs) (r := args.row R id now) hfresh
  by_cases hid : jobId = id
  · subst hid
    have hl : (w.db.jobs.insert (args.row R jobId now)).lookup jobId
        = some (args.row R jobId now) := hnew.1
    rw [leaseView_of_lookup hl, leaseView, hfresh]
    rfl
  · exact leaseView_congr (hnew.2 jobId hid) rfl

theorem leaseInv_effect (h : LeaseInv w) (he : World.Effect R op w w') : LeaseInv w' := by
  cases he with
  | environment publishing globalPause => exact ⟨h.fields, h.refines⟩
  | insert args available id now _ hfresh =>
    refine ⟨h.fields.insert (leaseFields_row args id now), fun jobId => ?_⟩
    rw [leaseView_insert hfresh]
    exact h.refines jobId
  | @write job job' note publishing hl hs =>
    have hfields := h.fields.lookup hl
    refine ⟨?_, fun jobId => ?_⟩
    · rw [World.writeRow_jobs]
      exact h.fields.put (leaseFields_step hfields hs)
    · by_cases hid : jobId = job.id
      · -- The row written: its protocol state moves by at most one step.
        subst hid
        have hold := h.refines job.id
        rw [leaseView_of_lookup hl] at hold
        have hends := endsOf_writeRow_self w publishing job' note
        rw [hs.id_eq] at hends
        rw [leaseView_of_lookup (by rw [World.writeRow_jobs]; exact lookup_put_row hl hs), hends]
        rcases hs.lease hfields (endsOf w.ends job.id) with hstep | hsame
        · exact hold.tail (e := ()) hstep
        rw [← hsame] at hold
        exact hold
      · -- Another row: neither the table nor the log says anything new about it.
        have hne : job'.id ≠ jobId := by
          rw [hs.id_eq]
          exact Ne.symm hid
        have hlookup : (w.writeRow publishing job' note).db.jobs.lookup jobId
            = w.db.jobs.lookup jobId := by
          rw [World.writeRow_jobs]
          exact lookup_put_of_ne (Ne.symm hne)
        rw [leaseView_congr hlookup (endsOf_writeRow_other hne)]
        exact h.refines jobId

theorem leaseInv_reachable (h : (jobSystem R).Reachable w) : LeaseInv w := by
  refine System.invariant (P := LeaseInv) ?_ ?_ h
  · rintro w ⟨hjobs, hgrants, hends⟩
    refine ⟨?_, fun jobId => ?_⟩
    · rw [hjobs]
      exact all_empty
    · refine .init ?_
      rw [leaseView, hjobs, endsOf, hends]
      rfl
  · rintro w op w' _ hi rfl
    exact World.step_preserves (fun _ _ => leaseInv_effect) hi

/-! ## Who was given which lease -/

theorem RowStep.owner (hs : RowStep R op job job' note) :
    (∃ workerId, note = .granted workerId ∧ job'.attemptCount = job.attemptCount + 1
        ∧ job'.leaseOwner = some workerId)
      ∨ ((∀ workerId, note ≠ .granted workerId) ∧ job'.attemptCount = job.attemptCount
        ∧ (job'.leaseOwner = none ∨ job'.leaseOwner = job.leaseOwner)) := by
  cases hs with
  | claimed workerId => exact .inl ⟨workerId, rfl, rfl, rfl⟩
  | failed =>
    refine .inr ⟨by simp, failed_attemptCount, Or.inl ?_⟩
    unfold WorkflowJob.failed
    dsimp only
    split
    · rfl
    · split <;> rfl
  | leaseExpired => exact .inr ⟨by simp, leaseExpired_attemptCount, Or.inl rfl⟩
  | finished | retried => exact .inr ⟨by simp, rfl, Or.inl rfl⟩
  | _ => exact .inr ⟨by simp, rfl, Or.inr rfl⟩

/-- The grant log lists every attempt once, and the owner of a row is in it. -/
structure GrantInv (w : World) : Prop where
  granted : ∀ job ∈ w.db.jobs.rows, ∀ workerId, job.leaseOwner = some workerId →
    ⟨job.id, job.attemptCount, workerId⟩ ∈ w.grants
  bounded : ∀ g ∈ w.grants, ∃ job, w.db.jobs.lookup g.jobId = some job
    ∧ g.attempt ≤ job.attemptCount
  unique : (w.grants.map fun g => (g.jobId, g.attempt)).Nodup

theorem writeRow_grants {publishing : Table PublishRecord}
    (h : ∀ workerId, note ≠ .granted workerId) :
    (w.writeRow publishing job note).grants = w.grants := by
  cases note with
  | granted workerId => exact absurd rfl (h workerId)
  | nothing | ended _ => rfl

theorem bounded_put (h : GrantInv w) (hl : w.db.jobs.lookup job.id = some job)
    (hs : RowStep R op job job' note) (hle : job.attemptCount ≤ job'.attemptCount) {g : Grant}
    (hg : g ∈ w.grants) :
    ∃ row, (w.db.jobs.put job').lookup g.jobId = some row ∧ g.attempt ≤ row.attemptCount := by
  obtain ⟨row, hrow, hbound⟩ := h.bounded g hg
  by_cases hid : g.jobId = job.id
  · rw [hid] at hrow ⊢
    rw [hl] at hrow
    cases hrow
    exact ⟨job', lookup_put_row hl hs, hbound.trans hle⟩
  · refine ⟨row, ?_, hbound⟩
    rw [← hrow]
    exact lookup_put_of_ne (by rw [show Keyed.key job' = job.id from hs.id_eq]; exact hid)

theorem grantInv_effect (h : GrantInv w) (he : World.Effect R op w w') : GrantInv w' := by
  cases he with
  | environment publishing globalPause => exact ⟨h.granted, h.bounded, h.unique⟩
  | insert args available id now _ hfresh =>
    have hnew := lookup_insert (t := w.db.jobs) (r := args.row R id now) hfresh
    refine ⟨?_, ?_, h.unique⟩
    · intro job hjob workerId howner
      rcases mem_insert hjob with rfl | hjob
      · exact absurd howner (by simp [JobsDb.EnqueueJob.row])
      · exact h.granted job hjob workerId howner
    · intro g hg
      obtain ⟨job, hl, hle⟩ := h.bounded g hg
      refine ⟨job, ?_, hle⟩
      rw [← hl]
      refine hnew.2 g.jobId fun hid => ?_
      rw [hid, show w.db.jobs.lookup (Keyed.key (args.row R id now)) = none from hfresh] at hl
      exact absurd hl (by simp)
  | @write job job' note publishing hl hs =>
    have hid := hs.id_eq
    rcases hs.owner with ⟨workerId, rfl, hcount, howner⟩ | ⟨hnote, hcount, howner⟩
    · -- A claim: the attempt is new, so its grant is too.
      refine ⟨?_, ?_, ?_⟩
      · intro row hrow x hx
        rw [World.writeRow_jobs] at hrow
        rcases mem_put hrow with ⟨rfl, _⟩ | ⟨hrow, _⟩
        · rw [howner] at hx
          cases hx
          exact mem_cons_self
        · exact mem_cons_of_mem _ (h.granted row hrow x hx)
      · intro g hg
        rw [World.writeRow_jobs]
        rcases mem_cons.mp hg with rfl | hg
        · exact ⟨job', by rw [hid]; exact lookup_put_row hl hs, Int.le_refl _⟩
        · exact bounded_put h hl hs (by omega) hg
      · show (((⟨job'.id, job'.attemptCount, workerId⟩ : Grant) :: w.grants).map _).Nodup
        rw [map_cons, nodup_cons]
        refine ⟨fun hmem => ?_, h.unique⟩
        obtain ⟨g, hg, heq⟩ := mem_map.mp hmem
        obtain ⟨row, hrow, hle⟩ := h.bounded g hg
        obtain ⟨hjob, hattempt⟩ := Prod.mk.inj heq
        dsimp only at hjob hattempt
        rw [hjob, hid, hl] at hrow
        cases hrow
        omega
    · refine ⟨?_, ?_, ?_⟩
      · intro row hrow x hx
        rw [World.writeRow_jobs] at hrow
        rw [writeRow_grants hnote]
        rcases mem_put hrow with ⟨rfl, _⟩ | ⟨hrow, _⟩
        · rcases howner with hnone | hsame
          · rw [hnone] at hx
            exact absurd hx (by simp)
          · rw [hid, hcount]
            exact h.granted job (mem_of_lookup hl) x (hsame ▸ hx)
        · exact h.granted row hrow x hx
      · intro g hg
        rw [World.writeRow_jobs]
        rw [writeRow_grants hnote] at hg
        exact bounded_put h hl hs (by omega) hg
      · rw [writeRow_grants hnote]
        exact h.unique

theorem grantInv_reachable (h : (jobSystem R).Reachable w) : GrantInv w := by
  refine System.invariant (P := GrantInv) ?_ ?_ h
  · rintro w ⟨hjobs, hgrants, hends⟩
    refine ⟨?_, ?_, ?_⟩
    · rw [hjobs]
      exact fun job hjob => absurd hjob not_mem_nil
    · rw [hgrants]
      exact fun g hg => absurd hg not_mem_nil
    · rw [hgrants]
      exact nodup_nil
  · rintro w op w' _ hi rfl
    exact World.step_preserves (fun _ _ => grantInv_effect) hi

/-! ## Fencing -/

/-- An owner's operation does nothing, unless the current lease is the caller's and unexpired. -/
theorem step_fenced {op : Op} {actor : Actor} (hactor : op.actor = some actor) :
    w.step R op = w ∨ ∃ job, w.db.jobs.lookup actor.jobId = some job
      ∧ job.hasActiveLease actor.workerId actor.now = true := by
  cases ho : w.db.ownedJob actor.jobId actor.workerId actor.now with
  | some job => exact .inr ⟨job, ownedJob_eq_some ho⟩
  | none =>
    left
    cases op with
    | enqueue | claim | retry | cancel | requeue | environment =>
      exact absurd hactor (by simp [Op.actor])
    | heartbeat | updateProgress | finish | fail =>
      cases hactor
      simp only at ho
      simp [World.step, JobsDb.heartbeatJob, JobsDb.updateProgress, JobsDb.finishJob,
        JobsDb.failJob, ho]
    | checkpoint =>
      cases hactor
      simp only at ho
      rw [World.step, JobsDb.checkpointJob, ho]
      split <;> rename_i heq <;> split at heq <;> simp_all

theorem mem_endsOf {attempt : Int} {how : Lease.End} (h : ⟨jobId, attempt, how⟩ ∈ w.ends) :
    (attempt, how) ∈ (leaseView w jobId).ends := by
  have hends : (leaseView w jobId).ends = endsOf w.ends jobId := by
    rw [leaseView]
    split <;> rfl
  rw [hends]
  exact mem_filterMap.mpr ⟨_, h, by simp⟩

/-- A job whose first lease ran out and was granted again, to another worker. -/
def takeover : World :=
  World.run .identity
    [ .enqueue { jobType := "telegram.publish", payload := Json.empty, idempotencyKey := "k",
                 origin := .manual } true 1 0,
      .claim "worker-a" 10 none [] 0,
      .requeue [1] 10000000,
      .claim "worker-b" 10 none [] 10000000 ]

namespace WorkflowJob

def identity (job : WorkflowJob) : String × String × Int × JobOrigin × Int × Datetime :=
  (job.jobType, job.idempotencyKey, job.priority, job.origin, job.maxAttempts, job.createdAt)

/-- What no call changes in a job that succeeded or was cancelled. -/
def outcome (job : WorkflowJob) : JobStatus × Int × Json × Option Datetime :=
  (job.status, job.attemptCount, job.result, job.finishedAt)

/-- One row of a job comes before another of it. -/
structure Precedes (job job' : WorkflowJob) : Prop where
  identity : job'.identity = job.identity
  attempts : job.attemptCount ≤ job'.attemptCount
  settled : job.status = .succeeded ∨ job.status = .cancelled → job'.outcome = job.outcome

theorem Precedes.trans {job'' : WorkflowJob} (h : job.Precedes job') (h' : job'.Precedes job'') :
    job.Precedes job'' := by
  refine ⟨h'.identity.trans h.identity, Int.le_trans h.attempts h'.attempts, ?_⟩
  intro hsettled
  have hsame := h.settled hsettled
  have hstatus : job'.status = job.status := congrArg Prod.fst hsame
  exact (h'.settled (by rw [hstatus]; exact hsettled)).trans hsame

theorem identity_failed {errorClass : JobErrorClass} {errorCode errorMessage : String}
    {retryAt : Option Datetime} {now : Datetime} :
    (job.failed R errorClass errorCode errorMessage retryAt now).identity = job.identity := by
  unfold failed
  dsimp only
  split
  · rfl
  · split <;> rfl

theorem identity_leaseExpired {review : Bool} {now : Datetime} :
    (job.leaseExpired review now).identity = job.identity := by
  unfold leaseExpired
  split
  · rfl
  · split <;> rfl

theorem Precedes.of_open (hidentity : job'.identity = job.identity)
    (hattempts : job.attemptCount ≤ job'.attemptCount)
    (hopen : ¬ (job.status = .succeeded ∨ job.status = .cancelled)) : job.Precedes job' :=
  ⟨hidentity, hattempts, fun hsettled => absurd hsettled hopen⟩

end WorkflowJob

theorem RowStep.precedes (hs : RowStep R op job job' note) : job.Precedes job' := by
  cases hs with
  | scheduled due => exact ⟨rfl, Int.le_refl _, fun _ => rfl⟩
  | claimed workerId leaseSeconds now hqueued =>
    have hmore : job.attemptCount ≤ job.attemptCount + 1 := by omega
    exact .of_open rfl hmore (by simp [hqueued])
  | cancelled now hqueued => exact .of_open rfl (Int.le_refl _) (by simp [hqueued])
  | heartbeat _ _ _ _ _ hactive | progressed _ _ _ _ hactive | checkpointed _ _ _ _ hactive
  | finished _ _ _ hactive =>
    exact .of_open rfl (Int.le_refl _) (by simp [(hasActiveLease_iff.mp hactive).1])
  | failed _ _ _ _ _ _ hactive =>
    exact .of_open WorkflowJob.identity_failed (Int.le_of_eq failed_attemptCount.symm)
      (by simp [(hasActiveLease_iff.mp hactive).1])
  | leaseExpired _ _ _ hrunning =>
    exact .of_open WorkflowJob.identity_leaseExpired (Int.le_of_eq leaseExpired_attemptCount.symm)
      (by simp [hrunning])
  | retried available now _ hstatus =>
    refine .of_open rfl (Int.le_refl _) ?_
    rcases hstatus with hfailed | hreview
    · simp [hfailed]
    · simp [hreview]

/-- **A job stays the job it is**, through every sequence of calls: it is not lost, its
attempts only grow, and what succeeded or was cancelled is final. -/
theorem job_history {ops : List Op} (hrun : (jobSystem R).Run w ops w')
    (hl : w.db.jobs.lookup jobId = some job) :
    ∃ later, w'.db.jobs.lookup jobId = some later ∧ job.Precedes later := by
  obtain rfl : job.id = jobId := lookup_id hl
  refine hrun.preserves (P := fun w => Continues WorkflowJob.Precedes job w.db.jobs) ?_
    ⟨job, hl, rfl, Int.le_refl _, fun _ => rfl⟩
  intro s op s' h hs
  rw [hs]
  refine World.step_preserves (P := fun w => Continues WorkflowJob.Precedes job w.db.jobs)
    (fun v v' hv he => ?_) h
  cases he with
  | environment publishing globalPause => exact hv
  | insert args available id now _ hfresh => exact Continues.insert hv
  | @write old new note publishing hold hs =>
    rw [World.writeRow_jobs]
    exact Continues.put hv hold hs.id_eq fun hprecedes => hprecedes.trans hs.precedes

def finishedJob : World := takeover.step .identity (.finish 1 "worker-b" Json.empty 11000000)

theorem job_history_retry : ∃ later, (finishedJob.step .identity (.retry 1 true
      12000000)).db.jobs.lookup 1 = some later ∧ later.attemptCount = 2
    ∧ later.status = .succeeded := by
  obtain ⟨job, hl, hattempts, hst⟩ : ∃ job, finishedJob.db.jobs.lookup 1 = some job
      ∧ job.attemptCount = 2 ∧ job.status = .succeeded := ⟨_, rfl, rfl, rfl⟩
  have hstep : (jobSystem .identity).step finishedJob (.retry 1 true 12000000) _ := rfl
  obtain ⟨later, hlater, hprecedes⟩ := job_history (.single hstep) hl
  have hsame := hprecedes.settled (.inl hst)
  exact ⟨later, hlater, (congrArg (fun outcome => outcome.2.1) hsame).trans hattempts,
    (congrArg Prod.fst hsame).trans hst⟩

end NewsCraft.Jobs
