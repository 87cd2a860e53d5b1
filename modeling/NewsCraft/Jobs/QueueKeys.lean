import Mathlib.Data.List.Find
import NewsCraft.Jobs.System

/-!
# Keys and live jobs

An idempotency key, once a job has it, has that one job for good. And a job that is queued
or running stays so until one of the few operations that end jobs ends it.
-/

namespace NewsCraft.Jobs

open Lib Publishing Table List

variable {R : Redaction}

/-! ## Keys -/

namespace JobsDb

def keys (db : JobsDb) : List String := db.jobs.rows.map WorkflowJob.idempotencyKey

variable {db : JobsDb} {key : String}

theorem mem_keys : key ∈ db.keys ↔ ∃ job ∈ db.jobs.rows, job.idempotencyKey = key := by
  rw [keys, mem_map]

theorem getByIdempotencyKey_eq_none (h : db.getByIdempotencyKey key = none) : key ∉ db.keys := by
  rw [mem_keys]
  rintro ⟨job, hjob, hkey⟩
  have hno := find?_eq_none.mp h job hjob
  exact hno (decide_eq_true hkey)

variable {job : WorkflowJob}

theorem keys_write {job' : WorkflowJob} (hl : db.jobs.lookup job.id = some job)
    (hid : job'.id = job.id) (hkey : job'.idempotencyKey = job.idempotencyKey) :
    (db.write job').keys = db.keys :=
  map_put (mem_of_lookup hl) hid hkey

theorem keys_insert (hl : db.jobs.lookup job.id = none) :
    ({ db with jobs := db.jobs.insert job } : JobsDb).keys = job.idempotencyKey :: db.keys := by
  rw [keys, rows_insert hl, map_cons]
  rfl

theorem job_unique (h : db.keys.Nodup) {job' : WorkflowJob} (hjob : job ∈ db.jobs.rows)
    (hjob' : job' ∈ db.jobs.rows) (hkey : job'.idempotencyKey = job.idempotencyKey) : job' = job :=
  inj_on_of_nodup_map h hjob' hjob hkey

variable {db' : JobsDb} {args : EnqueueJob} {available created : Bool} {id : UUID} {now : Datetime}

theorem enqueueJob_spec (h : db.enqueueJob R args available id now = .ok ((job, created), db')) :
    db'.publishing = db.publishing ∧ ((created = false ∧ args.idempotencyKey ∈ db.keys
          ∧ (db' = db ∨ ∃ row due, db.jobs.lookup row.id = some row
              ∧ db' = db.write { row with scheduledFor := some due }))
        ∨ (created = true ∧ args.idempotencyKey ∉ db.keys ∧ db.jobs.lookup id = none
          ∧ job = args.row R id now ∧ db' = { db with jobs := db.jobs.insert job })) := by
  unfold enqueueJob existingJobResult at h
  cases hfind : db.getByIdempotencyKey args.idempotencyKey with
  | some row =>
    have hrow : row ∈ db.jobs.rows := mem_of_find?_eq_some hfind
    have hkey : row.idempotencyKey = args.idempotencyKey := by
      simpa using find?_some hfind
    have hused : args.idempotencyKey ∈ db.keys := mem_keys.mpr ⟨row, hrow, hkey⟩
    by_cases hdue : row.scheduledFor = none
    · simp only [hfind, if_pos hdue] at h
      cases h
      exact ⟨rfl, Or.inl ⟨rfl, hused, Or.inr ⟨row, _, lookup_of_mem hrow, rfl⟩⟩⟩
    · simp only [hfind, if_neg hdue] at h
      cases h
      exact ⟨rfl, Or.inl ⟨rfl, hused, Or.inl rfl⟩⟩
  | none =>
    simp only [hfind] at h
    split_ifs at h with hopen htaken
    · cases h
      have hfree : db.jobs.lookup id = none := by simpa using htaken
      exact ⟨rfl, Or.inr ⟨rfl, getByIdempotencyKey_eq_none hfind, hfree, rfl, rfl⟩⟩

/-! ### Looking a key up -/

theorem key_of_getByIdempotencyKey (h : db.getByIdempotencyKey key = some job) :
    job.idempotencyKey = key := by
  simpa using find?_some h

theorem lookup_of_getByIdempotencyKey (h : db.getByIdempotencyKey key = some job) :
    db.jobs.lookup job.id = some job :=
  lookup_of_mem (mem_of_find?_eq_some h)

variable {row : WorkflowJob}

theorem getByIdempotencyKey_write (hl : db.jobs.lookup job.id = some row)
    (hkey : job.idempotencyKey = row.idempotencyKey) (key : String) :
    (db.write job).getByIdempotencyKey key
      = (db.getByIdempotencyKey key).map fun found => if found.id = job.id then job else found := by
  have hrow := lookup_eq_some_iff.mp hl
  change ((db.jobs.rows.map fun found => if found.id = job.id then job else found).find? _) = _
  rw [find?_map]
  refine congrArg _ (find?_congr ?_)
  intro found hfound
  by_cases hid : found.id = job.id
  · have hsame : found = row := row_unique hfound hrow.1 (hid.trans hrow.2.symm)
    rw [Function.comp, if_pos hid, hkey, hsame]
  · rw [Function.comp, if_neg hid]

theorem getByIdempotencyKey_write_of_ne (hl : db.jobs.lookup job.id = some row)
    (hkey : job.idempotencyKey = row.idempotencyKey) (hne : key ≠ job.idempotencyKey) :
    (db.write job).getByIdempotencyKey key = db.getByIdempotencyKey key := by
  rw [getByIdempotencyKey_write hl hkey]
  cases hfind : db.getByIdempotencyKey key with
  | none => rfl
  | some found =>
    have hfound := lookup_of_getByIdempotencyKey hfind
    rw [Option.map_some, if_neg]
    intro hid
    rw [hid, hl, Option.some.injEq] at hfound
    have hfoundKey := key_of_getByIdempotencyKey hfind
    rw [← hfound] at hfoundKey
    exact hne (hfoundKey.symm.trans hkey.symm)

theorem getByIdempotencyKey_write_self (hfind : db.getByIdempotencyKey key = some row)
    (hid : job.id = row.id) (hkey : job.idempotencyKey = row.idempotencyKey) :
    (db.write job).getByIdempotencyKey key = some job := by
  have hl := lookup_of_getByIdempotencyKey hfind
  rw [← hid] at hl
  rw [getByIdempotencyKey_write hl hkey, hfind, Option.map_some, if_pos hid.symm]

theorem getByIdempotencyKey_insert (hl : db.jobs.lookup job.id = none) (key : String) :
    ({ db with jobs := db.jobs.insert job } : JobsDb).getByIdempotencyKey key
      = if job.idempotencyKey = key then some job else db.getByIdempotencyKey key := by
  have hrows := rows_insert hl
  change (db.jobs.insert job).rows.find? _ = _
  rw [hrows]
  by_cases hkey : job.idempotencyKey = key
  · rw [if_pos hkey, find?_cons_of_pos (by simpa using hkey)]
  rw [if_neg hkey, find?_cons_of_neg (by simpa using hkey)]
  rfl

theorem enqueueJob_getByIdempotencyKey
    (h : db.enqueueJob R args available id now = .ok ((job, created), db')) :
    db'.getByIdempotencyKey args.idempotencyKey = some job ∧ (∀ key, key ≠ args.idempotencyKey →
          db'.getByIdempotencyKey key = db.getByIdempotencyKey key)
      ∧ ((created = false ∧ ∃ row due, db.getByIdempotencyKey args.idempotencyKey = some row
            ∧ job = { row with scheduledFor := due })
          ∨ (created = true ∧ db.getByIdempotencyKey args.idempotencyKey = none
            ∧ job = args.row R id now)) := by
  unfold enqueueJob existingJobResult at h
  cases hfind : db.getByIdempotencyKey args.idempotencyKey with
  | some row =>
    have hl := lookup_of_getByIdempotencyKey hfind
    have hkey := key_of_getByIdempotencyKey hfind
    by_cases hdue : row.scheduledFor = none
    · simp only [hfind, if_pos hdue] at h
      cases h
      refine ⟨getByIdempotencyKey_write_self hfind rfl rfl, ?_, Or.inl ⟨rfl, row, _, rfl, rfl⟩⟩
      intro key hne
      rw [← hkey] at hne
      have hlWritten : db.jobs.lookup
          ({ row with scheduledFor := some (args.scheduledFor.getD now) } : WorkflowJob).id
            = some row := hl
      exact getByIdempotencyKey_write_of_ne hlWritten rfl hne
    · simp only [hfind, if_neg hdue] at h
      cases h
      exact ⟨hfind, fun _ _ => rfl, Or.inl ⟨rfl, job, job.scheduledFor, rfl, rfl⟩⟩
  | none =>
    simp only [hfind] at h
    split_ifs at h with hopen htaken
    · cases h
      have hfree : db.jobs.lookup id = none := by simpa using htaken
      have hinserted : db.jobs.lookup (args.row R id now).id = none := hfree
      refine ⟨?_, ?_, Or.inr ⟨rfl, rfl, rfl⟩⟩
      · exact (getByIdempotencyKey_insert hinserted _).trans (if_pos rfl)
      intro key hne
      exact (getByIdempotencyKey_insert hinserted key).trans (if_neg fun hsame => hne hsame.symm)

theorem enqueueJob_isOk (args : EnqueueJob) (now : Datetime) (hfree : db.jobs.lookup id = none) :
    ∃ job created db', db.enqueueJob R args true id now = .ok ((job, created), db') := by
  unfold enqueueJob
  cases db.existingJobResult args.idempotencyKey (args.scheduledFor.getD now) with
  | some result => exact ⟨result.1, false, result.2, rfl⟩
  | none =>
    refine ⟨args.row R id now, true, { db with jobs := db.jobs.insert (args.row R id now) }, ?_⟩
    simp [hfree]

theorem enqueueJob_lookup_none
    (h : db.enqueueJob R args available id now = .ok ((job, created), db')) {other : UUID}
    (hother : db.jobs.lookup other = none) (hne : other ≠ id) : db'.jobs.lookup other = none := by
  rcases (enqueueJob_spec h).2 with ⟨-, -, rfl | ⟨row, due, hl, rfl⟩⟩ | ⟨-, -, hfree, rfl, rfl⟩
  · exact hother
  · have hsome := isSome_lookup_put db.jobs { row with scheduledFor := some due } other
    rw [hother, Option.isSome_none, Option.isSome_eq_false_iff, Option.isNone_iff_eq_none] at hsome
    exact hsome
  · exact ((lookup_insert (r := args.row R id now) hfree).2 other hne).trans hother

theorem enqueueJob_keys (h : db.enqueueJob R args available id now = .ok ((job, created), db')) :
    (created = false ∧ args.idempotencyKey ∈ db.keys ∧ db'.keys = db.keys)
      ∨ (created = true ∧ args.idempotencyKey ∉ db.keys
        ∧ db'.keys = args.idempotencyKey :: db.keys) := by
  rcases (enqueueJob_spec h).2 with ⟨hfalse, hused, hsame⟩ | ⟨htrue, hnew, hfree, rfl, rfl⟩
  · refine .inl ⟨hfalse, hused, ?_⟩
    rcases hsame with rfl | ⟨row, due, hl, rfl⟩
    · rfl
    · exact keys_write hl rfl rfl
  · exact .inr ⟨htrue, hnew, keys_insert hfree⟩

end JobsDb

theorem RowStep.key_eq {op : Op} {job job' : WorkflowJob} {note : Note}
    (h : RowStep R op job job' note) : job'.idempotencyKey = job.idempotencyKey := by
  cases h with
  | failed =>
    rw [WorkflowJob.failed]
    split_ifs <;> rfl
  | leaseExpired =>
    rw [WorkflowJob.leaseExpired, WorkflowJob.clearLease]
    split_ifs <;> rfl
  | _ => rfl

namespace World

theorem step_keys_eq {op : Op} (hop : ∀ args available id now, op ≠ .enqueue args available id now)
    (w : World) : (w.step R op).db.keys = w.db.keys := by
  refine step_preserves (P := fun w' => w'.db.keys = w.db.keys) ?_ rfl
  intro v v' hv heff
  cases heff with
  | environment publishing globalPause => exact hv
  | insert args available id now heq => exact absurd heq (hop args available id now)
  | @write job job' note publishing hl hs =>
    rw [← hv, JobsDb.keys, writeRow_jobs]
    exact map_put (mem_of_lookup hl) hs.id_eq hs.key_eq

theorem step_keys (w : World) (op : Op) : (w.step R op).db.keys = w.db.keys
      ∨ ∃ args available id now, op = .enqueue args available id now
        ∧ args.idempotencyKey ∉ w.db.keys
        ∧ (w.step R op).db.keys = args.idempotencyKey :: w.db.keys := by
  by_cases hop : ∃ args available id now, op = .enqueue args available id now
  · obtain ⟨args, available, id, now, rfl⟩ := hop
    rw [step]
    cases he : w.db.enqueueJob R args available id now with
    | error _ => exact .inl rfl
    | ok result =>
      obtain ⟨⟨job, created⟩, db'⟩ := result
      rcases JobsDb.enqueueJob_keys he with ⟨-, -, hsame⟩ | ⟨-, hnew, hcons⟩
      · exact .inl hsame
      · exact .inr ⟨args, available, id, now, rfl, hnew, hcons⟩
  · refine .inl (step_keys_eq (fun args available id now heq => hop ?_) w)
    exact ⟨args, available, id, now, heq⟩

variable {w w' : World} {key : String} {job : WorkflowJob}

theorem step_answers (op : Op) (h : w.db.getByIdempotencyKey key = some job) :
    ∃ later, (w.step R op).db.getByIdempotencyKey key = some later ∧ later.id = job.id := by
  by_cases hop : ∃ args available id now, op = .enqueue args available id now
  · obtain ⟨args, available, id, now, rfl⟩ := hop
    rw [step]
    cases he : w.db.enqueueJob R args available id now with
    | error _ => exact ⟨job, h, rfl⟩
    | ok result =>
      obtain ⟨⟨found, created⟩, db'⟩ := result
      obtain ⟨hself, hother, hcases⟩ := JobsDb.enqueueJob_getByIdempotencyKey he
      by_cases hkey : key = args.idempotencyKey
      · subst hkey
        rcases hcases with ⟨-, row, due, hrow, rfl⟩ | ⟨-, hnone, -⟩
        · rw [h, Option.some.injEq] at hrow
          exact ⟨_, hself, hrow ▸ rfl⟩
        · rw [h] at hnone
          cases hnone
      · exact ⟨job, (hother key hkey).trans h, rfl⟩
  · refine step_preserves (P := fun v => ∃ later, v.db.getByIdempotencyKey key = some later
      ∧ later.id = job.id) ?_ ⟨job, h, rfl⟩
    rintro v v' ⟨later, hlater, hid⟩ heff
    cases heff with
    | environment publishing globalPause => exact ⟨later, hlater, hid⟩
    | insert args available id now heq => exact absurd ⟨args, available, id, now, heq⟩ hop
    | @write old new note publishing hl hs =>
      have hwritten : (v.writeRow publishing new note).db.getByIdempotencyKey key
          = (v.db.write new).getByIdempotencyKey key := by
        rw [JobsDb.getByIdempotencyKey, writeRow_jobs]
        rfl
      have hold : v.db.jobs.lookup new.id = some old := hs.id_eq ▸ hl
      rw [hwritten, JobsDb.getByIdempotencyKey_write hold hs.key_eq, hlater]
      by_cases hsame : later.id = new.id
      · exact ⟨new, by rw [Option.map_some, if_pos hsame], hsame.symm.trans hid⟩
      · exact ⟨later, by rw [Option.map_some, if_neg hsame], hid⟩

end World

/-- **A key answers with the one job it was given to**, whatever calls come in between:
enqueueing under it again, whatever the rest of the request and the gate say, succeeds with
that job, adds none, and touches no other. -/
theorem enqueue_idempotent {w w' : World} {ops : List Op} {job : WorkflowJob}
    {args : JobsDb.EnqueueJob} (hrun : (jobSystem R).Run w ops w')
    (hused : w.db.getByIdempotencyKey args.idempotencyKey = some job) (available : Bool)
    (id : UUID) (now : Datetime) :
    ∃ found db', w'.db.enqueueJob R args available id now = .ok ((found, false), db')
      ∧ found.id = job.id ∧ db'.keys = w'.db.keys
      ∧ ∀ other, other ≠ job.id → db'.jobs.lookup other = w'.db.jobs.lookup other := by
  obtain ⟨later, hlater, hid⟩ : ∃ later,
      w'.db.getByIdempotencyKey args.idempotencyKey = some later ∧ later.id = job.id := by
    refine hrun.preserves (P := fun v => ∃ later,
      v.db.getByIdempotencyKey args.idempotencyKey = some later ∧ later.id = job.id) ?_
      ⟨job, hused, rfl⟩
    rintro v op _ ⟨later, hlater, hid⟩ rfl
    obtain ⟨next, hnext, hsame⟩ := World.step_answers op hlater
    exact ⟨next, hnext, hsame.trans hid⟩
  have hl := JobsDb.lookup_of_getByIdempotencyKey hlater
  unfold JobsDb.enqueueJob JobsDb.existingJobResult
  rw [hlater]
  by_cases hdue : later.scheduledFor = none
  · -- the job had no time yet and gets one
    simp only [if_pos hdue]
    refine ⟨_, _, rfl, hid, JobsDb.keys_write hl rfl rfl, fun other hother => ?_⟩
    exact lookup_put_of_ne (hid ▸ hother)
  · simp only [if_neg hdue]
    exact ⟨later, w'.db, rfl, hid, rfl, fun _ _ => rfl⟩

/-- A publish job that was cancelled, and another request under its key. -/
def cancelledJob : World :=
  World.run .identity
    [.enqueue ⟨"telegram.publish", Json.empty, "k", .manual, 0, none, 3, true, none, none⟩ true 1 0,
      .cancel 1 5]

def reusedKey : JobsDb.EnqueueJob :=
  ⟨"source.check", Json.empty, "k", .scheduler, 0, none, 3, true, none, none⟩

theorem enqueue_idempotent_cancelled : ∃ found db',
    (cancelledJob.step .identity (.cancel 1 6)).db.enqueueJob .identity reusedKey false 2 9
      = .ok ((found, false), db') ∧ found.id = 1 := by
  have hstep : (jobSystem .identity).step cancelledJob (.cancel 1 6) _ := rfl
  have hused : cancelledJob.db.getByIdempotencyKey reusedKey.idempotencyKey = some _ := rfl
  obtain ⟨found, db', hok, hid, -⟩ := enqueue_idempotent (.single hstep) hused false 2 9
  exact ⟨found, db', hok, hid⟩

/-! ## Live jobs -/

namespace JobsDb

def Live (db : JobsDb) (jobId : UUID) : Prop :=
  ∃ job, db.jobs.lookup jobId = some job ∧ job.status.terminal = false

instance (db : JobsDb) (jobId : UUID) : Decidable (db.Live jobId) :=
  decidable_of_iff ((db.jobs.lookup jobId).any fun job => job.status.terminal = false) (by
    rw [Live]
    cases db.jobs.lookup jobId <;> simp)

variable {db : JobsDb} {jobId : UUID} {job : WorkflowJob}

theorem Live.write (h : db.Live jobId) (hlive : job.id = jobId → job.status.terminal = false) :
    (db.write job).Live jobId := by
  obtain ⟨old, hl, hold⟩ := h
  by_cases hid : job.id = jobId
  · subst hid
    exact ⟨job, lookup_put_self (r := job) hl, hlive rfl⟩
  · exact ⟨old, (lookup_put_of_ne (Ne.symm hid)).trans hl, hold⟩

theorem Live.insert (h : db.Live jobId) (job : WorkflowJob) :
    ({ db with jobs := db.jobs.insert job } : JobsDb).Live jobId := by
  obtain ⟨old, hl, hold⟩ := h
  exact ⟨old, lookup_insert_of_some hl, hold⟩

theorem Live.enqueueJob {db' : JobsDb} (h : db.Live jobId) {args : EnqueueJob} {available : Bool}
    {id : UUID} {now : Datetime} {created : Bool}
    (he : db.enqueueJob R args available id now = .ok ((job, created), db')) : db'.Live jobId := by
  rcases (enqueueJob_spec he).2 with ⟨-, -, rfl | ⟨row, due, hl, rfl⟩⟩ | ⟨-, -, -, rfl, rfl⟩
  · exact h
  · refine h.write ?_
    intro hid
    obtain ⟨job, hjob, hlive⟩ := h
    obtain rfl : job = row := Option.some.inj (hjob.symm.trans (hid ▸ hl))
    exact hlive
  · exact h.insert _

theorem live_of_created {db' : JobsDb} {args : EnqueueJob} {available : Bool} {id : UUID}
    {now : Datetime} (he : db.enqueueJob R args available id now = .ok ((job, true), db')) :
    db'.Live job.id := by
  rcases (enqueueJob_spec he).2 with ⟨hfalse, -⟩ | ⟨-, -, hfree, rfl, rfl⟩
  · cases hfalse
  · exact ⟨args.row R id now, (lookup_insert (r := args.row R id now) hfree).1, rfl⟩

/-- The job's lease has run out, and the sweep will not put it back in the queue. -/
def SweepEnds (db : JobsDb) (jobId : UUID) (now : Datetime) : Prop :=
  ∃ job expiresAt, db.jobs.lookup jobId = some job ∧ job.status = .running
    ∧ job.leaseExpiresAt = some expiresAt ∧ expiresAt ≤ now
    ∧ (job.maxAttempts ≤ job.attemptCount
      ∨ ∃ record ∈ db.publishing.rows, record.job.workflowJobId = some jobId)

/-- The operation ends the job: it finishes, fails for good, is cancelled, or is
swept after its last attempt. -/
def Ends (R : Redaction) (db : JobsDb) : Op → UUID → Prop
  | .finish jobId workerId result now, id =>
    jobId = id ∧ (db.ownedJob jobId workerId now).isSome ∧ (R.redactSecrets result).isObj = true
  | .fail jobId workerId errorClass _ _ _ now, id =>
    jobId = id ∧ ∃ job, db.ownedJob jobId workerId now = some job
      ∧ ¬ (errorClass = .retryable ∧ job.attemptCount < job.maxAttempts)
  | .cancel jobId _, id =>
    jobId = id ∧ ∃ job, db.jobs.lookup jobId = some job ∧ job.status = .queued
  | .requeue candidates now, id => id ∈ candidates ∧ db.SweepEnds id now
  | _, _ => False

end JobsDb

/-! ## The sweep -/

namespace JobsDb

theorem workflowJobId_sync {record : PublishRecord} {now : Datetime} :
    (syncExpiredPublishAmbiguity record now).2.job.workflowJobId = record.job.workflowJobId := by
  unfold syncExpiredPublishAmbiguity PublishRecord.closeRunningPublishAttempts
  split_ifs <;> rfl

theorem workflowJobId_terminal {record : PublishRecord} {now : Datetime} :
    (syncTerminalExpiredPublish record now).job.workflowJobId = record.job.workflowJobId := by
  unfold syncTerminalExpiredPublish PublishRecord.closeRunningPublishAttempts
  simp only
  split <;> rfl

theorem foldl_put_workflowJobId {f : PublishRecord → PublishRecord} {jobId other : UUID}
    (hne : other ≠ jobId) (hf : ∀ record, (f record).job.workflowJobId = record.job.workflowJobId)
    (records : List PublishRecord)
    (hrecords : ∀ record ∈ records, record.job.workflowJobId = some other)
    {rows : Table PublishRecord} (h : rows.All fun record => record.job.workflowJobId ≠ some jobId) :
    (records.foldl (fun rows record => rows.put (f record)) rows).All
      fun record => record.job.workflowJobId ≠ some jobId := by
  induction records generalizing rows with
  | nil => exact h
  | cons record records ih =>
    refine ih (fun r hr => hrecords r (mem_cons_of_mem _ hr)) (h.put ?_)
    rw [hf, hrecords record mem_cons_self]
    intro heq
    exact hne (Option.some.inj heq)

end JobsDb

namespace World

/-- A job the sweep will not end: it was put back in the queue already, or it is as
the sweep found it. -/
structure Spared (w : World) (jobId : UUID) (now : Datetime) : Prop where
  job : ∃ job, w.db.jobs.lookup jobId = some job ∧ job.status.terminal = false
    ∧ (job.status = .queued ∨ (∀ expiresAt, job.leaseExpiresAt = some expiresAt → now < expiresAt)
      ∨ job.attemptCount < job.maxAttempts
        ∧ w.db.publishing.All fun record => record.job.workflowJobId ≠ some jobId)

variable {jobId : UUID} {now : Datetime}

theorem requeueCandidate_publishing {db db' : JobsDb} {other : UUID} (hne : other ≠ jobId)
    (hr : db.requeueCandidate other now = some db')
    (h : db.publishing.All fun record => record.job.workflowJobId ≠ some jobId) :
    db'.publishing.All fun record => record.job.workflowJobId ≠ some jobId := by
  rw [JobsDb.requeueCandidate] at hr
  cases hl : db.jobs.lookup other with
  | none => simp [hl] at hr
  | some job =>
    simp only [hl] at hr
    cases he : job.leaseExpiresAt with
    | none => simp [he] at hr
    | some expiresAt =>
      simp only [he] at hr
      have hof : ∀ record ∈ db.publishJobsOf other, record.job.workflowJobId = some other := by
        intro record hrecord
        simpa using (mem_filter.mp hrecord).2
      by_cases hidle : job.status ≠ .running ∨ expiresAt > now
      · rw [if_pos hidle] at hr
        cases hr
      · rw [if_neg hidle] at hr
        cases hr
        simp only
        split_ifs
        · exact JobsDb.foldl_put_workflowJobId hne
            (fun _ => JobsDb.workflowJobId_sync) _ hof h
        · exact JobsDb.foldl_put_workflowJobId hne
            (fun _ => JobsDb.workflowJobId_terminal) _ hof h
        · exact h

theorem requeueOne_db (w : World) (jobId : UUID) (now : Datetime) :
    (w.requeueOne jobId now).db = (w.db.requeueCandidate jobId now).getD w.db := by
  rw [requeueOne]
  cases hr : w.db.requeueCandidate jobId now with
  | none => cases w.db.jobs.lookup jobId <;> rfl
  | some db' =>
    obtain ⟨job, _, _, _, hl, _⟩ := requeueCandidate_cases hr
    rw [hl]
    rfl

variable {w : World}

theorem spared_requeueOne {other : UUID} (h : w.Spared jobId now) :
    (w.requeueOne other now).Spared jobId now := by
  obtain ⟨job, hl, hlive, hwhy⟩ := h.job
  have hdb := requeueOne_db w other now
  cases hr : w.db.requeueCandidate other now with
  | none =>
    rw [hr, Option.getD_none] at hdb
    exact ⟨by rw [hdb]; exact ⟨job, hl, hlive, hwhy⟩⟩
  | some db' =>
    rw [hr, Option.getD_some] at hdb
    obtain ⟨row, expiresAt, review, publishing, hrow, hrun, he, hle, rfl⟩ :=
      requeueCandidate_cases hr
    have hid := lookup_id hrow
    by_cases hother : other = jobId
    · -- the job's own round: its lease ran out, and it has attempts left
      subst hother
      rw [hl] at hrow
      cases hrow
      rcases hwhy with hqueued | hfresh | ⟨hleft, hpublish⟩
      · rw [hqueued] at hrun
        cases hrun
      · exact absurd (hfresh expiresAt he) (Int.not_lt.mpr hle)
      have hnone : w.db.publishJobsOf other = [] := by
        rw [JobsDb.publishJobsOf, filter_eq_nil_iff]
        intro record hrecord hof
        exact hpublish record hrecord (by simpa using hof)
      have hmore : ¬ job.attemptCount ≥ job.maxAttempts := by omega
      have hlater : ¬ expiresAt > now := Int.not_lt.mpr hle
      simp only [JobsDb.requeueCandidate, hl, he, hrun, hlater, hnone, any_nil,
        ne_eq, not_true_eq_false, or_self, if_false, Option.some.injEq] at hr
      have hjobs : (w.requeueOne other now).db.jobs = w.db.jobs.put (job.leaseExpired false now) := by
        rw [hdb, ← hr]
      refine ⟨job.leaseExpired false now, ?_, ?_, Or.inl ?_⟩
      · have hsame : (job.leaseExpired false now).id = job.id := leaseExpired_id
        rw [hjobs, ← hid, ← hsame]
        refine lookup_put_self (y := job) ?_
        show w.db.jobs.lookup (job.leaseExpired false now).id = some job
        rw [leaseExpired_id, hid]
        exact hl
      · simp [WorkflowJob.leaseExpired, WorkflowJob.clearLease, hmore, JobStatus.terminal]
      · simp [WorkflowJob.leaseExpired, WorkflowJob.clearLease, hmore]
    · have hkeep : (w.db.jobs.put (row.leaseExpired review now)).lookup jobId
          = w.db.jobs.lookup jobId := by
        refine lookup_put_of_ne ?_
        show jobId ≠ (row.leaseExpired review now).id
        rw [leaseExpired_id, hid]
        exact Ne.symm hother
      refine ⟨job, ?_, hlive, ?_⟩
      · rw [hdb]
        exact hkeep.trans hl
      · rcases hwhy with hqueued | hfresh | ⟨hleft, hpublish⟩
        · exact .inl hqueued
        · exact .inr (.inl hfresh)
        refine .inr (.inr ⟨hleft, ?_⟩)
        rw [hdb]
        exact requeueCandidate_publishing hother hr hpublish

theorem live_requeue {candidates : List UUID} (hlive : w.db.Live jobId)
    (hends : ¬ (jobId ∈ candidates ∧ w.db.SweepEnds jobId now)) :
    (w.step R (.requeue candidates now)).db.Live jobId := by
  rw [step]
  by_cases hmem : jobId ∈ candidates
  · have hspared : w.Spared jobId now := by
      obtain ⟨job, hl, hjob⟩ := hlive
      refine ⟨job, hl, hjob, ?_⟩
      by_contra hno
      rw [not_or, not_or] at hno
      obtain ⟨hqueued, hexpired, hmore⟩ := hno
      have hrun : job.status = .running := by
        cases hstatus : job.status <;> simp_all [JobStatus.terminal]
      simp only [not_forall, not_lt] at hexpired
      obtain ⟨expiresAt, he, hle⟩ := hexpired
      refine hends ⟨hmem, job, expiresAt, hl, hrun, he, hle, ?_⟩
      by_contra hneither
      rw [not_or] at hneither
      refine hmore ⟨by omega, fun record hrecord hof => hneither.2 ⟨record, hrecord, hof⟩⟩
    have hrun : ∀ (ids : List UUID) (v : World), v.Spared jobId now →
        (ids.foldl (fun w jobId => w.requeueOne jobId now) v).Spared jobId now := by
      intro ids
      induction ids with
      | nil => exact fun v hv => hv
      | cons id ids ih => exact fun v hv => ih _ (spared_requeueOne hv)
    obtain ⟨job, hl, hjob, -⟩ := (hrun candidates w hspared).job
    exact ⟨job, hl, hjob⟩
  · -- a job that is not a candidate is never locked
    have hrun : ∀ (ids : List UUID) (v : World), jobId ∉ ids →
        (ids.foldl (fun w jobId => w.requeueOne jobId now) v).db.jobs.lookup jobId
          = v.db.jobs.lookup jobId := by
      intro ids
      induction ids with
      | nil => exact fun v _ => rfl
      | cons id ids ih =>
        intro v hids
        rw [mem_cons, not_or] at hids
        rw [foldl_cons, ih _ hids.2, requeueOne_db]
        cases hr : v.db.requeueCandidate id now with
        | none => rfl
        | some db' =>
          obtain ⟨row, _, review, publishing, hrow, -, -, -, rfl⟩ := requeueCandidate_cases hr
          refine lookup_put_of_ne ?_
          show jobId ≠ (row.leaseExpired review now).id
          rw [leaseExpired_id, lookup_id hrow]
          exact hids.1
    obtain ⟨job, hl, hjob⟩ := hlive
    exact ⟨job, (hrun candidates w hmem).trans hl, hjob⟩

theorem live_owned {db : JobsDb} {owned : UUID} {workerId : String} {job job' : WorkflowJob}
    (hlive : db.Live jobId) (ho : db.ownedJob owned workerId now = some job)
    (hstatus : owned = jobId → job.status = .running → job'.status.terminal = false)
    (hid : job'.id = job.id) : (db.write job').Live jobId := by
  obtain ⟨hl, hactive⟩ := ownedJob_eq_some ho
  refine hlive.write fun heq => ?_
  have hrun : job.status = .running := by
    unfold WorkflowJob.hasActiveLease at hactive
    simp only [Bool.and_eq_true, decide_eq_true_eq] at hactive
    exact hactive.1.1
  refine hstatus ?_ hrun
  rw [← lookup_id hl, ← hid, heq]

/-- **A live job stays live until an operation ends it.** -/
theorem step_live {op : Op} (hlive : w.db.Live jobId) (hends : ¬ w.db.Ends R op jobId) :
    (w.step R op).db.Live jobId := by
  cases op with
  | enqueue args available id now =>
    rw [step]
    cases he : w.db.enqueueJob R args available id now with
    | error _ => exact hlive
    | ok result => exact hlive.enqueueJob he
  | claim workerId leaseSeconds allowed locked now =>
    rw [step]
    cases hc : w.db.claimNextJob workerId leaseSeconds allowed locked now with
    | mk claim db' =>
      rcases claimNextJob_cases hc with ⟨rfl, rfl⟩ | ⟨job, hl, hq, rfl, rfl⟩
      · exact hlive
      · exact hlive.write fun _ => rfl
  | heartbeat owned workerId leaseSeconds progress message now =>
    rw [step]
    cases he : w.db.heartbeatJob R owned workerId leaseSeconds progress message now with
    | error _ => exact hlive
    | ok result =>
      obtain ⟨b, db'⟩ := result
      rcases heartbeatJob_cases he with rfl | ⟨job, ho, rfl⟩
      · exact hlive
      refine live_owned hlive ho (fun _ hrun => ?_) rfl
      show job.status.terminal = false
      rw [hrun]
      rfl
  | updateProgress owned workerId progress message now =>
    rw [step]
    cases hp : w.db.updateProgress R owned workerId progress message now with
    | mk b db' =>
      rcases updateProgress_cases hp with rfl | ⟨job, ho, rfl⟩
      · exact hlive
      refine live_owned hlive ho (fun _ hrun => ?_) rfl
      show job.status.terminal = false
      rw [hrun]
      rfl
  | checkpoint owned workerId payload result now =>
    rw [step]
    cases he : w.db.checkpointJob R owned workerId payload result now with
    | error _ => exact hlive
    | ok db' =>
      obtain ⟨job, ho, rfl⟩ := checkpointJob_ok he
      refine live_owned hlive ho (fun _ hrun => ?_) rfl
      show job.status.terminal = false
      rw [hrun]
      rfl
  | finish owned workerId result now =>
    rw [step]
    cases he : w.db.finishJob R owned workerId result now with
    | error _ => exact hlive
    | ok outcome =>
      obtain ⟨job', db'⟩ := outcome
      have hobj : (R.redactSecrets result).isObj = true := by
        rw [JobsDb.finishJob] at he
        cases ho : w.db.ownedJob owned workerId now with
        | none => simp [ho] at he
        | some job =>
          simp only [ho] at he
          by_contra hno
          rw [if_pos (Bool.eq_false_iff.mpr hno)] at he
          cases he
      obtain ⟨job, ho, rfl, rfl⟩ := finishJob_ok he
      refine live_owned hlive ho (fun heq _ => ?_) rfl
      exact absurd ⟨heq, by rw [ho]; rfl, hobj⟩ hends
  | fail owned workerId errorClass errorCode errorMessage retryAt now =>
    rw [step]
    cases he : w.db.failJob R owned workerId errorClass errorCode errorMessage retryAt now with
    | error _ => exact hlive
    | ok outcome =>
      obtain ⟨job', db'⟩ := outcome
      obtain ⟨job, ho, rfl, rfl⟩ := failJob_ok he
      refine live_owned hlive ho (fun heq _ => ?_) failed_id
      have hagain : errorClass = .retryable ∧ job.attemptCount < job.maxAttempts := by
        by_contra hno
        exact hends ⟨heq, job, ho, hno⟩
      simp [WorkflowJob.failed, WorkflowJob.clearLease, hagain.1, hagain.2, JobStatus.terminal]
  | retry owned available now =>
    rw [step]
    cases he : w.db.retryJob owned available now with
    | error _ => exact hlive
    | ok outcome =>
      obtain ⟨job', db'⟩ := outcome
      obtain ⟨job, hl, hst, rfl, rfl⟩ := retryJob_ok he
      exact hlive.write fun _ => rfl
  | cancel owned now =>
    rw [step]
    cases he : w.db.cancelJob owned now with
    | error _ => exact hlive
    | ok outcome =>
      obtain ⟨job', db'⟩ := outcome
      obtain ⟨job, hl, hq, rfl, rfl⟩ := cancelJob_ok he
      refine hlive.write fun heq => ?_
      have howned : owned = jobId := (lookup_id hl).symm.trans heq
      exact absurd ⟨howned, job, hl, hq⟩ hends
  | requeue candidates now => exact live_requeue hlive hends
  | environment publishing globalPause => exact hlive

end World

end NewsCraft.Jobs
