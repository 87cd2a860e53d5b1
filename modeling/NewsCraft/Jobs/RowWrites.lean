import NewsCraft.Jobs.System

/-!
# What one call does to one row

`RowWrite` pairs every call of the repository with the write it can make to a job row, under
the call's own arguments and guards. `step_row` reads any call back that way: a row that is
there afterwards was there before, as it was or after one such write, or an enqueue inserted
it.
-/

namespace NewsCraft.Jobs

open Lib Publishing Table

variable {R : Redaction}

inductive RowWrite (R : Redaction) : Op → WorkflowJob → WorkflowJob → Prop
  | scheduled {job : WorkflowJob} (args : JobsDb.EnqueueJob) (available : Bool) (id : UUID)
      (now due : Datetime) :
      RowWrite R (.enqueue args available id now) job { job with scheduledFor := some due }
  | claimed {job : WorkflowJob} (workerId : String) (leaseSeconds : Int)
      (allowed : Option (List String)) (locked : List UUID) (now : Datetime) :
      job.status = .queued →
      RowWrite R (.claim workerId leaseSeconds allowed locked now) job
        (job.claimed workerId leaseSeconds now)
  | heartbeat {job : WorkflowJob} (workerId : String) (leaseSeconds : Int)
      (progress : Option Int) (message : Option String) (now : Datetime) :
      job.hasActiveLease workerId now = true →
      RowWrite R (.heartbeat job.id workerId leaseSeconds progress message now) job
        (job.heartbeat R leaseSeconds progress message now)
  | progressed {job : WorkflowJob} (workerId : String) (progress : Int)
      (message : Option String) (now : Datetime) : job.hasActiveLease workerId now = true →
      RowWrite R (.updateProgress job.id workerId progress message now) job
        (job.progressed R progress message)
  | checkpointed {job : WorkflowJob} (workerId : String) (payload result : Option Json)
      (now : Datetime) : job.hasActiveLease workerId now = true →
      RowWrite R (.checkpoint job.id workerId payload result now) job
        (job.checkpointed R payload result)
  | finished {job : WorkflowJob} (workerId : String) (result : Json) (now : Datetime) :
      job.hasActiveLease workerId now = true →
      RowWrite R (.finish job.id workerId result now) job (job.finished R result now)
  | failed {job : WorkflowJob} (workerId : String) (errorClass : JobErrorClass)
      (errorCode errorMessage : String) (retryAt : Option Datetime) (now : Datetime) :
      job.hasActiveLease workerId now = true →
      RowWrite R (.fail job.id workerId errorClass errorCode errorMessage retryAt now) job
        (job.failed R errorClass errorCode errorMessage retryAt now)
  | retried {job : WorkflowJob} (available : Bool) (now : Datetime) :
      job.status = .failed ∨ job.status = .needsReview →
      RowWrite R (.retry job.id available now) job (job.retried now)
  | cancelled {job : WorkflowJob} (now : Datetime) : job.status = .queued →
      RowWrite R (.cancel job.id now) job (job.cancelled now)
  | leaseExpired {job : WorkflowJob} (candidates : List UUID) (now : Datetime)
      (requiresReview : Bool) (expiresAt : Datetime) : job.status = .running →
      job.leaseExpiresAt = some expiresAt → expiresAt ≤ now →
      RowWrite R (.requeue candidates now) job (job.leaseExpired requiresReview now)

variable {op : Op} {job job' : WorkflowJob}

theorem RowWrite.id_eq (h : RowWrite R op job job') : job'.id = job.id := by
  cases h with
  | failed => exact failed_id
  | leaseExpired => exact leaseExpired_id
  | _ => rfl

theorem RowWrite.jobType_eq (h : RowWrite R op job job') : job'.jobType = job.jobType := by
  cases h with
  | failed =>
    rw [WorkflowJob.failed]
    split
    · rfl
    · split <;> rfl
  | leaseExpired =>
    rw [WorkflowJob.leaseExpired, WorkflowJob.clearLease]
    split
    · rfl
    · split <;> rfl
  | _ => rfl

/-- A row after a call: as it was, or after one write. -/
def RowAfter (R : Redaction) (op : Op) (job job' : WorkflowJob) : Prop :=
  job' = job ∨ RowWrite R op job job'

/-- What a call leaves under `id`. -/
def StepRow (R : Redaction) (op : Op) (db : JobsDb) (id : UUID) (job' : WorkflowJob) : Prop :=
  (∃ job, db.jobs.lookup id = some job ∧ RowAfter R op job job') ∨ db.jobs.lookup id = none
      ∧ ∃ args available now, op = .enqueue args available id now ∧ job' = args.row R id now

theorem StepRow.same {db : JobsDb} {id : UUID} (h : db.jobs.lookup id = some job) :
    StepRow R op db id job :=
  Or.inl ⟨job, h, Or.inl rfl⟩

theorem StepRow.write {db : JobsDb} {jobId id : UUID} {row : WorkflowJob}
    (hl : db.jobs.lookup jobId = some job) (hw : RowWrite R op job job')
    (h : (db.write job').jobs.lookup id = some row) : StepRow R op db id row := by
  have hid : job'.id = jobId := hw.id_eq.trans (lookup_id hl)
  by_cases hsame : id = jobId
  · subst hsame
    have hself : (db.write job').jobs.lookup id = some job' := by
      rw [← hid] at hl ⊢
      exact lookup_put_self hl
    rw [hself] at h
    cases h
    exact .inl ⟨job, hl, Or.inr hw⟩
  · have hother : (db.write job').jobs.lookup id = db.jobs.lookup id := by
      refine lookup_put_of_ne ?_
      show id ≠ job'.id
      rw [hid]
      exact hsame
    rw [hother] at h
    exact .same h

namespace World

variable {id : UUID} {now : Datetime} {row : WorkflowJob}

theorem requeueOne_row (candidates : List UUID) {w : World} {jobId : UUID}
    (h : (w.requeueOne jobId now).db.jobs.lookup id = some row) :
    StepRow R (.requeue candidates now) w.db id row := by
  rw [requeueOne] at h
  cases hr : w.db.requeueCandidate jobId now with
  | none =>
    rw [hr] at h
    cases hl : w.db.jobs.lookup jobId <;> rw [hl] at h <;> exact .same h
  | some db' =>
    obtain ⟨job, expiresAt, review, publishing, hl, hrun, he, hle, rfl⟩ :=
      requeueCandidate_cases hr
    rw [hr, hl] at h
    have hw : RowWrite R (.requeue candidates now) job (job.leaseExpired review now) :=
      .leaseExpired candidates now review expiresAt hrun he hle
    exact StepRow.write hl hw h

theorem leaseExpired_status {job : WorkflowJob} {review : Bool} :
    (job.leaseExpired review now).status ≠ .running := by
  rw [WorkflowJob.leaseExpired, WorkflowJob.clearLease]
  split
  · simp
  · split <;> simp

theorem requeue_row (w : World) {candidates rest : List UUID}
    (h : (rest.foldl (fun w jobId => w.requeueOne jobId now) w).db.jobs.lookup id = some row) :
    StepRow R (.requeue candidates now) w.db id row := by
  induction rest generalizing w with
  | nil => exact .same h
  | cons jobId rest ih =>
    rw [List.foldl_cons] at h
    rcases ih (w.requeueOne jobId now) h with ⟨mid, hmid, hafter⟩ | ⟨_, _, _, _, hop, _⟩
    · rcases requeueOne_row (R := R) candidates hmid with
        ⟨job, hl, hfirst⟩ | ⟨_, _, _, _, hop, _⟩
      · refine .inl ⟨job, hl, ?_⟩
        rcases hfirst with rfl | hwrite
        · exact hafter
        -- the row stopped running in this round, so no later round writes it
        have hstopped : mid.status ≠ .running := by
          cases hwrite with
          | leaseExpired => exact leaseExpired_status
        rcases hafter with rfl | hagain
        · exact .inr hwrite
        cases hagain with
        | leaseExpired _ _ _ _ hrun => exact absurd hrun hstopped
      · cases hop
    · cases hop

/-- **A row after a call is the row before it, at most one write further.** -/
theorem step_row {w : World} {op : Op} (h : (w.step R op).db.jobs.lookup id = some row) :
    StepRow R op w.db id row := by
  cases op with
  | enqueue args available fresh now =>
    rw [step] at h
    cases he : w.db.enqueueJob R args available fresh now with
    | error _ => rw [he] at h; exact .same h
    | ok result =>
      rw [he] at h
      obtain ⟨result, db'⟩ := result
      rcases enqueueJob_cases he with rfl | ⟨job, due, hl, rfl⟩ | ⟨hfresh, rfl⟩
      · exact .same h
      · exact StepRow.write hl (.scheduled args available fresh now due) h
      by_cases hsame : id = fresh
      · subst hsame
        have hself := (lookup_insert (t := w.db.jobs) (r := args.row R id now) hfresh).1
        have heq : row = args.row R id now := by
          have hboth : some row = some (args.row R id now) := h.symm.trans hself
          exact Option.some.inj hboth
        exact .inr ⟨hfresh, args, available, now, rfl, heq⟩
      · have hother := (lookup_insert (t := w.db.jobs) (r := args.row R fresh now)
          hfresh).2 id hsame
        exact .same (hother.symm.trans h)
  | claim workerId leaseSeconds allowed locked now =>
    rw [step] at h
    cases hc : w.db.claimNextJob workerId leaseSeconds allowed locked now with
    | mk claim db' =>
      rw [hc] at h
      rcases claimNextJob_cases hc with ⟨rfl, rfl⟩ | ⟨job, hl, hq, rfl, rfl⟩
      · exact .same h
      · exact StepRow.write hl (.claimed workerId leaseSeconds allowed locked now hq) h
  | heartbeat jobId workerId leaseSeconds progress message now =>
    rw [step] at h
    cases he : w.db.heartbeatJob R jobId workerId leaseSeconds progress message now with
    | error _ => rw [he] at h; exact .same h
    | ok result =>
      rw [he] at h
      obtain ⟨b, db'⟩ := result
      rcases heartbeatJob_cases he with rfl | ⟨job, ho, rfl⟩
      · exact .same h
      obtain ⟨hl, ha⟩ := ownedJob_eq_some ho
      obtain rfl := lookup_id hl
      exact StepRow.write hl (.heartbeat workerId leaseSeconds progress message now ha) h
  | updateProgress jobId workerId progress message now =>
    rw [step] at h
    cases hp : w.db.updateProgress R jobId workerId progress message now with
    | mk b db' =>
      rw [hp] at h
      rcases updateProgress_cases hp with rfl | ⟨job, ho, rfl⟩
      · exact .same h
      obtain ⟨hl, ha⟩ := ownedJob_eq_some ho
      obtain rfl := lookup_id hl
      exact StepRow.write hl (.progressed workerId progress message now ha) h
  | checkpoint jobId workerId payload result now =>
    rw [step] at h
    cases he : w.db.checkpointJob R jobId workerId payload result now with
    | error _ => rw [he] at h; exact .same h
    | ok db' =>
      rw [he] at h
      obtain ⟨job, ho, rfl⟩ := checkpointJob_ok he
      obtain ⟨hl, ha⟩ := ownedJob_eq_some ho
      obtain rfl := lookup_id hl
      exact StepRow.write hl (.checkpointed workerId payload result now ha) h
  | finish jobId workerId result now =>
    rw [step] at h
    cases he : w.db.finishJob R jobId workerId result now with
    | error _ => rw [he] at h; exact .same h
    | ok outcome =>
      rw [he] at h
      obtain ⟨job', db'⟩ := outcome
      obtain ⟨job, ho, rfl, rfl⟩ := finishJob_ok he
      obtain ⟨hl, ha⟩ := ownedJob_eq_some ho
      obtain rfl := lookup_id hl
      exact StepRow.write hl (.finished workerId result now ha) h
  | fail jobId workerId errorClass errorCode errorMessage retryAt now =>
    rw [step] at h
    cases he : w.db.failJob R jobId workerId errorClass errorCode errorMessage retryAt now with
    | error _ => rw [he] at h; exact .same h
    | ok outcome =>
      rw [he] at h
      obtain ⟨job', db'⟩ := outcome
      obtain ⟨job, ho, rfl, rfl⟩ := failJob_ok he
      obtain ⟨hl, ha⟩ := ownedJob_eq_some ho
      obtain rfl := lookup_id hl
      exact StepRow.write hl (.failed workerId errorClass errorCode errorMessage retryAt now ha) h
  | retry jobId available now =>
    rw [step] at h
    cases he : w.db.retryJob jobId available now with
    | error _ => rw [he] at h; exact .same h
    | ok outcome =>
      rw [he] at h
      obtain ⟨job', db'⟩ := outcome
      obtain ⟨job, hl, hst, rfl, rfl⟩ := retryJob_ok he
      obtain rfl := lookup_id hl
      exact StepRow.write hl (.retried available now hst) h
  | cancel jobId now =>
    rw [step] at h
    cases he : w.db.cancelJob jobId now with
    | error _ => rw [he] at h; exact .same h
    | ok outcome =>
      rw [he] at h
      obtain ⟨job', db'⟩ := outcome
      obtain ⟨job, hl, hq, rfl, rfl⟩ := cancelJob_ok he
      obtain rfl := lookup_id hl
      exact StepRow.write hl (.cancelled now hq) h
  | requeue candidates now => exact requeue_row w h
  | environment publishing globalPause => exact .same h

/-! ## Rows do not disappear -/

end World

end NewsCraft.Jobs
