import NewsCraft.Publishing.Intents

/-!
# One publish intent for a revision

Two publish jobs of one kind share a unique idempotency key. Two of different kinds are kept
apart by the variant lock: a session that holds it sees every intent its revision has, and
nobody else can add one before it commits. The invariant is about `intents`, the publish
jobs without the columns that are rewritten, and `jobKeys`.
-/

namespace NewsCraft.Publishing

open Lib Jobs List Table Option

variable {R : Redaction} {db db' : JobsDb} {tables tables' : IntentTables} {w w' : IntentWorld}
  {request : IntentRequest} {revision : PlatformVariantRevision}
  {own other : Option PublishRecord} {inputs : IntentInputs}

/-! ## Keys -/

variable {d d' r r' : UUID} {h h' : String}

theorem intentKey_injective {start : String}
    (heq : start ++ uuidStr d ++ ":" ++ uuidStr r ++ ":" ++ h = start ++ uuidStr d' ++ ":" ++
      uuidStr r' ++ ":" ++ h') : d = d' ∧ r = r' ∧ h = h' := by
  have hchars := congrArg String.toList heq
  simp only [String.toList_append, append_assoc] at hchars
  have hrest := append_cancel_left hchars
  obtain ⟨hd, hrest⟩ := append_inj hrest (by rw [length_uuidStr, length_uuidStr])
  have hrest := append_cancel_left hrest
  obtain ⟨hr, hrest⟩ := append_inj hrest (by rw [length_uuidStr, length_uuidStr])
  have hh := append_cancel_left hrest
  exact ⟨uuidStr_injective (String.toList_injective hd),
    uuidStr_injective (String.toList_injective hr), String.toList_injective hh⟩

theorem immediateKey_injective
    (heq : immediatePublishIntentKey d r h = immediatePublishIntentKey d' r' h') :
    d = d' ∧ r = r' ∧ h = h' :=
  intentKey_injective heq

theorem scheduleKey_injective
    (heq : reviewedScheduleIntentKey d r h = reviewedScheduleIntentKey d' r' h') :
    d = d' ∧ r = r' ∧ h = h' :=
  intentKey_injective heq

theorem publish_ne_schedule (rest rest' : String) :
    "telegram-publish:" ++ rest ≠ "telegram-publish-schedule:" ++ rest' := by
  intro heq
  have hchars := congrArg String.toList heq
  simp at hchars

theorem immediateKey_ne_scheduleKey (d d' r r' : UUID) (h h' : String) :
    immediatePublishIntentKey d r h ≠ reviewedScheduleIntentKey d' r' h' := by
  intro heq
  unfold immediatePublishIntentKey reviewedScheduleIntentKey at heq
  simp only [String.append_assoc] at heq
  exact publish_ne_schedule _ _ heq

/-- A key a request may use for a revision, of either kind. -/
def KeyOf (key : String) (destinationId : UUID) (revision : PlatformVariantRevision) : Prop :=
  key = immediatePublishIntentKey destinationId revision.id revision.contentHash
    ∨ key = reviewedScheduleIntentKey destinationId revision.id revision.contentHash

theorem keyOf_iff (key : String) : KeyOf key request.destinationId revision
    ↔ key = request.ownKey revision ∨ key = request.otherKey revision := by
  rw [KeyOf, IntentRequest.ownKey, IntentRequest.otherKey]
  cases request.immediate with
  | true => rfl
  | false => exact or_comm

variable {key : String}

theorem KeyOf.unique {revision' : PlatformVariantRevision} (h : KeyOf key d revision)
    (h' : KeyOf key d' revision') : d = d' ∧ revision.id = revision'.id := by
  rcases h with h | h <;> rcases h' with h' | h'
  · have heq := immediateKey_injective (h.symm.trans h')
    exact ⟨heq.1, heq.2.1⟩
  · exact absurd (h.symm.trans h') (immediateKey_ne_scheduleKey _ _ _ _ _ _)
  · exact absurd (h'.symm.trans h) (immediateKey_ne_scheduleKey _ _ _ _ _ _)
  have heq := scheduleKey_injective (h.symm.trans h')
  exact ⟨heq.1, heq.2.1⟩

/-! ## What identifies the rows -/

/-- The publish jobs without the columns that are rewritten. -/
def intents (db : JobsDb) : List PublishIntent := db.publishing.rows.map PublishRecord.intent

def jobKeys (db : JobsDb) : List String := db.jobs.rows.map WorkflowJob.idempotencyKey

def jobIds (db : JobsDb) : List UUID := db.jobs.rows.map WorkflowJob.id

theorem publishJobByKey_intent (db : JobsDb) (key : String) :
    (publishJobByKey db key).map PublishRecord.intent
      = (intents db).find? fun intent => intent.idempotencyKey = key := by
  rw [intents, find?_map]
  rfl

variable {record : PublishRecord}

theorem intent_of_byKey (h : publishJobByKey db key = some record) :
    record.intent ∈ intents db ∧ record.intent.idempotencyKey = key := by
  have hkey : record.job.idempotencyKey = key := by simpa using find?_some h
  exact ⟨mem_map_of_mem (mem_of_find?_eq_some h), hkey⟩

theorem byKey_eq_none :
    publishJobByKey db key = none ↔ ∀ intent ∈ intents db, intent.idempotencyKey ≠ key := by
  rw [publishJobByKey, find?_eq_none, intents]
  simp [PublishRecord.intent]

theorem intents_put (h : record.intent ∈ intents db) :
    intents { db with publishing := db.publishing.put record } = intents db := by
  obtain ⟨old, hold, hid⟩ := mem_map.mp h
  exact map_put hold (congrArg PublishIntent.id hid.symm) hid.symm

theorem intents_insert (h : db.publishing.lookup record.job.id = none) :
    intents { db with publishing := db.publishing.insert record }
      = record.intent :: intents db := by
  have hfree : Keyed.key record ∉ db.publishing.rows.map Keyed.key := by
    intro hmem
    obtain ⟨old, hold, hkey⟩ := mem_map.mp hmem
    have hl := lookup_of_mem hold
    rw [hkey] at hl
    rw [show db.publishing.lookup (Keyed.key record) = none from h] at hl
    cases hl
  rw [intents, Table.insert, dif_neg hfree]
  rfl

/-! ## Workflow jobs keep their keys -/

theorem key_mem_iff : key ∈ jobKeys db ↔ (db.getByIdempotencyKey key).isSome := by
  rw [JobsDb.getByIdempotencyKey, find?_isSome, jobKeys]
  simp

variable {job : WorkflowJob}

theorem jobs_write (job' : WorkflowJob) (hl : db.jobs.lookup job.id = some job)
    (hid : job'.id = job.id) (hkey : job'.idempotencyKey = job.idempotencyKey) :
    jobKeys { db with jobs := db.jobs.put job' } = jobKeys db
      ∧ jobIds { db with jobs := db.jobs.put job' } = jobIds db :=
  ⟨map_put (mem_of_lookup hl) hid hkey, map_put (mem_of_lookup hl) hid hid⟩

variable {id : UUID}

theorem enqueueJob_jobs {args : JobsDb.EnqueueJob} {available : Bool} {now : Datetime}
    {result : WorkflowJob × Bool} (h : db.enqueueJob R args available id now = .ok (result, db')) :
    db'.publishing = db.publishing ∧ args.idempotencyKey ∈ jobKeys db'
      ∧ (∀ key ∈ jobKeys db, key ∈ jobKeys db')
      ∧ (args.idempotencyKey ∈ jobKeys db → jobIds db' = jobIds db) := by
  rw [JobsDb.enqueueJob, JobsDb.existingJobResult] at h
  cases hk : db.getByIdempotencyKey args.idempotencyKey with
  | some job =>
    have hmem : args.idempotencyKey ∈ jobKeys db := key_mem_iff.mpr (by rw [hk]; rfl)
    rw [hk] at h
    dsimp only at h
    by_cases hdue : job.scheduledFor = none
    · rw [if_pos hdue] at h
      cases h
      have hl := lookup_of_mem (mem_of_find?_eq_some hk)
      obtain ⟨hkeys, hids⟩ := jobs_write { job with
        scheduledFor := some (args.scheduledFor.getD now) } hl rfl rfl
      refine ⟨rfl, ?_, ?_, fun _ => hids⟩
      · exact hkeys ▸ hmem
      intro key hkey
      exact hkeys ▸ hkey
    · rw [if_neg hdue] at h
      cases h
      exact ⟨rfl, hmem, fun _ hkey => hkey, fun _ => rfl⟩
  | none =>
    have hnot : args.idempotencyKey ∉ jobKeys db := by
      rw [key_mem_iff, hk]
      simp
    rw [hk] at h
    dsimp only at h
    split at h
    · cases h
    split at h
    · cases h
    rename_i hid
    cases h
    have hnone : db.jobs.lookup id = none := by simpa using hid
    have hnew := mem_of_lookup (lookup_insert (r := args.row R id now) hnone).1
    refine ⟨rfl, mem_map_of_mem hnew, ?_, fun hmem => absurd hmem hnot⟩
    intro key hkey
    obtain ⟨job, hjob, rfl⟩ := mem_map.mp hkey
    exact mem_map_of_mem (mem_insert_of_mem hjob)

theorem rowStep_key {op : Op} {job' : WorkflowJob} {note : Note} (h : RowStep R op job job' note) :
    job'.idempotencyKey = job.idempotencyKey := by
  cases h with
  | failed =>
    rw [WorkflowJob.failed]
    split
    · rfl
    · split <;> rfl
  | leaseExpired =>
    rw [WorkflowJob.leaseExpired, WorkflowJob.clearLease]
    split
    · rfl
    · split <;> rfl
  | _ => rfl

theorem jobKeys_step (op : Op) (h : key ∈ jobKeys db) :
    key ∈ jobKeys ((World.mk db [] []).step R op).db := by
  refine World.step_preserves (P := fun w => key ∈ jobKeys w.db) ?_ h
  intro w w' hkey heff
  cases heff with
  | environment publishing globalPause => exact hkey
  | insert args available id now _ _ =>
    obtain ⟨job, hjob, rfl⟩ := mem_map.mp hkey
    exact mem_map_of_mem (mem_insert_of_mem hjob)
  | write publishing hl hstep =>
    have hkeys := (jobs_write _ hl hstep.id_eq (rowStep_key hstep)).1
    rw [jobKeys, World.writeRow_jobs]
    rw [jobKeys] at hkeys
    rw [show (w.db.jobs.put _).rows.map WorkflowJob.idempotencyKey = _ from hkeys]
    exact hkey

/-! ## The last step of a session -/

/-- A session that commits answers with the publish job that was there, or made the only one. -/
inductive Finished (tables : IntentTables) (request : IntentRequest)
    (revision : PlatformVariantRevision) (own other : Option PublishRecord) :
    PublishRecord → JobsDb → Prop
  | replayed (found record : PublishRecord) (db : JobsDb) :
      own = some found ∨ publishJobByKey tables.db (request.ownKey revision) = some found →
      record.intent = found.intent →
      intents db = intents tables.db →
      (∀ key ∈ jobKeys tables.db, key ∈ jobKeys db) →
      (request.ownKey revision ∈ jobKeys tables.db → jobIds db = jobIds tables.db) →
      Finished tables request revision own other record db
  | created (record : PublishRecord) (db : JobsDb) :
      own = none → other = none →
      record.intent = ⟨record.job.id, request.destinationId, revision.id, request.ownKey revision⟩ →
      (∀ intent ∈ intents tables.db, intent.id ≠ record.job.id) →
      intents db = record.intent :: intents tables.db →
      request.ownKey revision ∈ jobKeys db →
      (∀ key ∈ jobKeys tables.db, key ∈ jobKeys db) →
      Finished tables request revision own other record db

variable {created : Bool}

theorem insertIntent_ok {job : PublishJob} (h : insertIntent db job = .ok ((record, created), db'))
    :
    (created = false ∧ publishJobByKey db job.idempotencyKey = some record ∧ db' = db)
      ∨ (created = true ∧ record = ⟨job, Table.empty, [], none⟩ ∧ db.publishing.lookup job.id = none
        ∧ db' = { db with publishing := db.publishing.insert record }) := by
  rw [insertIntent] at h
  split at h
  · split at h
    · rename_i found hfound
      cases h
      exact .inl ⟨rfl, hfound, rfl⟩
    · cases h
  · rename_i hfree
    cases h
    have hid : db.publishing.lookup job.id = none := by
      cases hl : db.publishing.lookup job.id with
      | none => rfl
      | some old => exact absurd (.inr (by rw [hl]; rfl)) hfree
    exact .inr ⟨rfl, rfl, hid, rfl⟩

theorem intents_created (hrecord : record = ⟨intentRow request revision id, Table.empty, [], none⟩)
    (hid : db.publishing.lookup id = none) :
    record.intent = ⟨record.job.id, request.destinationId, revision.id, request.ownKey revision⟩
      ∧ (∀ intent ∈ intents db, intent.id ≠ record.job.id)
      ∧ intents { db with publishing := db.publishing.insert record }
          = record.intent :: intents db := by
  subst hrecord
  refine ⟨rfl, ?_, intents_insert hid⟩
  intro intent hmem heq
  obtain ⟨old, hold, rfl⟩ := mem_map.mp hmem
  have hl := lookup_of_mem hold
  rw [show Keyed.key old = id from heq, hid] at hl
  cases hl

theorem enqueue_link {available : Bool} {now : Datetime} (hmem : record.intent ∈ intents db)
    (h : db.enqueueJob R (intentJob request revision record) available id now = .ok ((job, created),
      db')) : (linkWorkflowJob db' record job).1.intent = record.intent
      ∧ intents (linkWorkflowJob db' record job).2 = intents db
      ∧ request.ownKey revision ∈ jobKeys (linkWorkflowJob db' record job).2
      ∧ (∀ key ∈ jobKeys db, key ∈ jobKeys (linkWorkflowJob db' record job).2)
      ∧ (request.ownKey revision ∈ jobKeys db →
          jobIds (linkWorkflowJob db' record job).2 = jobIds db) := by
  obtain ⟨hpub, hkey, hkeys, hids⟩ := enqueueJob_jobs h
  have hsame : intents db' = intents db := by rw [intents, hpub, intents]
  have hlinked : (linkWorkflowJob db' record job).1.intent ∈ intents db' := by
    rw [hsame]
    exact hmem
  exact ⟨rfl, (intents_put hlinked).trans hsame, hkey, hkeys, hids⟩

theorem enqueueTelegramPublishIntent_ok
    (hown : ∀ found, own = some found → found.intent ∈ intents tables.db)
    (h : enqueueTelegramPublishIntent R tables.db request revision own other inputs = .ok (record,
      db')) : Finished tables request revision own other record db' := by
  unfold enqueueTelegramPublishIntent at h
  dsimp only at h
  split at h
  · cases h
  rename_i found created db₁ hfound
  split at h
  · cases h
  rename_i job madeJob db₂ henqueue
  have hr := Except.ok.inj h
  have hrecord : record = (linkWorkflowJob db₂ found job).1 := (congrArg Prod.fst hr).symm
  have hdb : db' = (linkWorkflowJob db₂ found job).2 := (congrArg Prod.snd hr).symm
  subst hrecord hdb
  split at hfound
  · -- there was one under the own key
    rename_i existing _
    cases hfound
    obtain ⟨hid, hints, _, hkeys, hids⟩ := enqueue_link (hown found rfl) henqueue
    exact .replayed found _ _ (.inl rfl) hid hints hkeys hids
  · cases hfound
  rcases insertIntent_ok hfound with ⟨_, hbyKey, rfl⟩ | ⟨_, hnew, hid, rfl⟩
  · obtain ⟨hid, hints, _, hkeys, hids⟩ :=
      enqueue_link (intent_of_byKey hbyKey).1 henqueue
    exact .replayed found _ _ (.inr hbyKey) hid hints hkeys hids
  · obtain ⟨hintent, hfresh, hints⟩ := intents_created hnew hid
    have hmem : found.intent ∈ intents
        { tables.db with publishing := tables.db.publishing.insert found } := by
      rw [hints]
      exact mem_cons_self
    obtain ⟨hid', hints', hkey, hkeys, _⟩ := enqueue_link hmem henqueue
    exact .created _ _ rfl rfl hintent hfresh (hints'.trans hints) hkey hkeys

theorem scheduledIntent_ok {scheduledFor : Datetime}
    (h : scheduledIntent db request revision scheduledFor own other inputs = .ok ((record, created),
      db')) :
    (created = false ∧ db' = db
        ∧ (own = some record ∨ publishJobByKey db (request.ownKey revision) = some record))
      ∨ (created = true ∧ own = none ∧ other = none
        ∧ record = ⟨intentRow request revision inputs.publishJobId, Table.empty, [], none⟩
        ∧ db.publishing.lookup inputs.publishJobId = none
        ∧ db' = { db with publishing := db.publishing.insert record }) := by
  unfold scheduledIntent at h
  split at h
  · cases h
    exact .inl ⟨rfl, rfl, Or.inl rfl⟩
  · cases h
  split at h
  · cases h
  rcases insertIntent_ok h with ⟨hcreated, hbyKey, hdb⟩ | ⟨hcreated, hnew, hid, hdb⟩
  · exact .inl ⟨hcreated, hdb, Or.inr hbyKey⟩
  · exact .inr ⟨hcreated, rfl, rfl, hnew, hid, hdb⟩

theorem scheduleReviewedTelegram_ok {scheduledFor : Datetime}
    (h : scheduleReviewedTelegram R tables.db request revision scheduledFor own other inputs = .ok
      (record, db')) : Finished tables request revision own other record db' := by
  unfold scheduleReviewedTelegram at h
  split at h
  · cases h
  split at h
  · cases h
  rename_i found created db₁ hintent
  split at h
  · cases h
  · cases h
  · cases h
  · -- an exact replay of the schedule that is there
    split at h
    · cases h
    cases h
    rcases scheduledIntent_ok hintent with ⟨_, rfl, hfound⟩ | ⟨hcreated, _⟩
    · exact .replayed record record _ hfound rfl rfl (fun _ hkey => hkey) (fun _ => rfl)
    · cases hcreated
  · split at h
    · cases h
    · cases h
    rename_i job db₂ henqueue
    split at h
    · cases h
    have hr := Except.ok.inj h
    have hrecord : record = (linkWorkflowJob db₂ found job).1 :=
      (congrArg Prod.fst hr).symm
    have hdb : db' = (linkWorkflowJob db₂ found job).2 := (congrArg Prod.snd hr).symm
    subst hrecord hdb
    rcases scheduledIntent_ok hintent with ⟨hcreated, _⟩ | ⟨_, rfl, rfl, hnew, hid, rfl⟩
    · cases hcreated
    obtain ⟨hintent', hfresh, hints⟩ := intents_created hnew hid
    have hmem : found.intent ∈ intents
        { tables.db with publishing := tables.db.publishing.insert found } := by
      rw [hints]
      exact mem_cons_self
    obtain ⟨hid', hints', hkey, hkeys, _⟩ := enqueue_link hmem henqueue
    exact .created _ _ rfl rfl hintent' hfresh (hints'.trans hints) hkey hkeys

/-- The automation's own revision must not exist yet; the other requests write none. -/
def revisionsAfter (tables : IntentTables) (request : IntentRequest)
    (revision : PlatformVariantRevision) : Table PlatformVariantRevision :=
  match request with
  | .approve _ _ => tables.revisions.insert revision
  | .publish _ _ _ | .schedule _ _ _ _ => tables.revisions

/-- A session of the automation whose revision somebody else has written by now:
it can only fail. -/
def Doomed (tables : IntentTables) (request : IntentRequest)
    (revision : PlatformVariantRevision) : Prop :=
  match request with
  | .approve _ _ => (tables.revisions.lookup revision.id).isSome = true
  | .publish _ _ _ | .schedule _ _ _ _ => False

theorem finish_ok
    (hown : ¬ Doomed tables request revision → ∀ found, own = some found → found.intent ∈ intents
      tables.db) (h : tables.finish R request revision own other inputs = .ok (record, tables')) :
    ¬ Doomed tables request revision ∧ Finished tables request revision own other record tables'.db
      ∧ tables'.revisions = revisionsAfter tables request revision := by
  unfold IntentTables.finish at h
  cases request with
  | approve written destinationId =>
    dsimp only at h
    split at h
    · cases h
    rename_i hlive
    split at h
    · cases h
    rename_i hintent
    cases h
    exact ⟨hlive, enqueueTelegramPublishIntent_ok (hown hlive) hintent, rfl⟩
  | publish revisionId contentHash destinationId =>
    dsimp only at h
    split at h
    · cases h
    split at h
    · cases h
    rename_i hintent
    cases h
    exact ⟨id, enqueueTelegramPublishIntent_ok (hown id) hintent, rfl⟩
  | schedule revisionId contentHash destinationId scheduledFor =>
    dsimp only at h
    split at h
    · cases h
    rename_i hintent
    cases h
    exact ⟨id, scheduleReviewedTelegram_ok hintent, rfl⟩

/-! ## The invariant -/

/-- What a session read is still what it would read. -/
def Sees (db : JobsDb) (key : String) (found : Option PublishRecord) : Prop :=
  found.map PublishRecord.intent = (publishJobByKey db key).map PublishRecord.intent

variable {found : Option PublishRecord}

theorem sees_congr (hints : intents db' = intents db) (h : Sees db key found) :
    Sees db' key found := by
  rw [Sees, publishJobByKey_intent, hints, ← publishJobByKey_intent]
  exact h

/-- The revision a session works on is committed, unless it is the automation's own. -/
def Known (tables : IntentTables) (request : IntentRequest)
    (revision : PlatformVariantRevision) : Prop :=
  match request with
  | .approve _ _ => True
  | .publish _ _ _ | .schedule _ _ _ _ => tables.revisions.lookup revision.id = some revision

/-- A session holds the lock of its revision's variant. -/
structure SessionSound (w : IntentWorld) (session : Nat) (request : IntentRequest)
    (revision : PlatformVariantRevision) : Prop where
  lock : w.variantLock revision.platformVariantId = some session
  known : Known w.tables request revision

/-- What a session knows at each point, as long as it can still commit. -/
def PhaseSound (w : IntentWorld) (session : Nat) : IntentPhase → Prop
  | .idle => True
  | .locked request revision => SessionSound w session request revision
  | .foundOwn request revision own =>
    SessionSound w session request revision
      ∧ (¬ Doomed w.tables request revision → Sees w.tables.db (request.ownKey revision) own)
  | .foundBoth request revision own other =>
    SessionSound w session request revision
      ∧ (¬ Doomed w.tables request revision → Sees w.tables.db (request.ownKey revision) own
        ∧ (own.isSome = true ∨ Sees w.tables.db (request.otherKey revision) other))

/-- Every publish job has a key of its revision, a workflow job and a pair of its own. -/
structure IntentInv (w : IntentWorld) : Prop where
  keyed : ∀ intent ∈ intents w.tables.db, ∃ revision,
    w.tables.revisions.lookup intent.revisionId = some revision
      ∧ KeyOf intent.idempotencyKey intent.destinationId revision
  unique : ∀ intent ∈ intents w.tables.db, ∀ intent' ∈ intents w.tables.db,
    intent.destinationId = intent'.destinationId → intent.revisionId = intent'.revisionId →
    intent = intent'
  driven : ∀ intent ∈ intents w.tables.db, intent.idempotencyKey ∈ jobKeys w.tables.db
  sessions : ∀ session, PhaseSound w session (w.sessions session)

def RevisionsKept (tables tables' : IntentTables) : Prop :=
  ∀ id revision, tables.revisions.lookup id = some revision →
    tables'.revisions.lookup id = some revision

theorem RevisionsKept.known (h : RevisionsKept tables tables')
    (hk : Known tables request revision) : Known tables' request revision := by
  cases request with
  | approve written destinationId => exact trivial
  | publish _ _ _ | schedule _ _ _ _ => exact h _ _ hk

theorem RevisionsKept.live (h : RevisionsKept tables tables')
    (hlive : ¬ Doomed tables' request revision) : ¬ Doomed tables request revision := by
  cases request with
  | approve written destinationId =>
    intro hsome
    obtain ⟨found, hl⟩ := isSome_iff_exists.mp hsome
    refine hlive ?_
    show (tables'.revisions.lookup revision.id).isSome = true
    rw [h _ _ hl]
    rfl
  | publish _ _ _ | schedule _ _ _ _ => exact hlive

variable {session : Nat}

theorem PhaseSound.mono {phase : IntentPhase} (h : PhaseSound w session phase)
    (hlock : ∀ variant, w.variantLock variant = some session → w'.variantLock variant = some
      session) (hrevisions : RevisionsKept w.tables w'.tables)
    (hsees : ∀ request revision key found, SessionSound w session request revision → ¬ Doomed
      w'.tables request revision → KeyOf key request.destinationId revision → Sees w.tables.db key
      found → Sees w'.tables.db key found) : PhaseSound w' session phase := by
  have hbase : ∀ request revision, SessionSound w session request revision →
      SessionSound w' session request revision := by
    intro request revision hs
    exact ⟨hlock _ hs.lock, hrevisions.known hs.known⟩
  cases phase with
  | idle => exact trivial
  | locked request revision => exact hbase _ _ h
  | foundOwn request revision own =>
    refine ⟨hbase _ _ h.1, ?_⟩
    intro hlive
    have hown := h.2 (hrevisions.live hlive)
    exact hsees _ _ _ _ h.1 hlive ((keyOf_iff _).mpr (.inl rfl)) hown
  | foundBoth request revision own other =>
    refine ⟨hbase _ _ h.1, ?_⟩
    intro hlive
    obtain ⟨hown, hother⟩ := h.2 (hrevisions.live hlive)
    refine ⟨hsees _ _ _ _ h.1 hlive ((keyOf_iff _).mpr (.inl rfl)) hown, ?_⟩
    rcases hother with hsome | hother
    · exact .inl hsome
    · exact .inr (hsees _ _ _ _ h.1 hlive ((keyOf_iff _).mpr (.inr rfl)) hother)

/-! ## Steps that commit nothing -/

theorem setSession_self (w : IntentWorld) (session : Nat) (phase : IntentPhase) :
    (w.setSession session phase).sessions session = phase := by
  simp [IntentWorld.setSession]

theorem setSession_of_ne (w : IntentWorld) {other : Nat} (phase : IntentPhase) (h : other ≠ session)
    : (w.setSession session phase).sessions other = w.sessions other := by
  simp [IntentWorld.setSession, h]

theorem IntentInv.moved (h : IntentInv w) (session : Nat) (htables : w'.tables = w.tables)
    (hlock : ∀ other variant, other ≠ session → w.variantLock variant = some other →
      w'.variantLock variant = some other)
    (hothers : ∀ other, other ≠ session → w'.sessions other = w.sessions other)
    (hself : PhaseSound w' session (w'.sessions session)) : IntentInv w' := by
  refine ⟨?_, ?_, ?_, ?_⟩
  · rw [htables]
    exact h.keyed
  · rw [htables]
    exact h.unique
  · rw [htables]
    exact h.driven
  · intro other
    by_cases hother : other = session
    · rw [hother]
      exact hself
    · rw [hothers other hother]
      refine (h.sessions other).mono (hlock other · hother) ?_ ?_
      · rw [htables]
        exact fun _ _ hl => hl
      · intro request revision key found _ _ _ hsees
        rw [htables]
        exact hsees

theorem IntentInv.close (h : IntentInv w) (session : Nat) : IntentInv (w.close session) := by
  refine h.moved session rfl ?_ ?_ ?_
  · intro other variant hother hlock
    have hne : w.variantLock variant ≠ some session := by
      rw [hlock]
      intro heq
      exact hother (Option.some.inj heq)
    show (if w.variantLock variant = some session then none else w.variantLock variant) = _
    rw [if_neg hne]
    exact hlock
  · intro other hother
    exact setSession_of_ne w .idle hother
  · rw [show (w.close session).sessions session = .idle from setSession_self w session .idle]
    exact trivial

theorem selectForUpdate_ok (h : w.selectForUpdate session key = some (found, w')) :
    found = publishJobByKey w.tables.db key ∧ w'.tables = w.tables
      ∧ w'.variantLock = w.variantLock ∧ w'.sessions = w.sessions := by
  rw [IntentWorld.selectForUpdate] at h
  split at h
  · rename_i hnone
    cases h
    exact ⟨hnone.symm, rfl, rfl, rfl⟩
  · rename_i record hsome
    split at h
    · cases h
      exact ⟨hsome.symm, rfl, rfl, rfl⟩
    · cases h

theorem IntentInv.read (h : IntentInv w) {phase : IntentPhase} (htables : w'.tables = w.tables)
    (hlock : w'.variantLock = w.variantLock) (hsessions : w'.sessions = w.sessions)
    (hphase : PhaseSound w session phase) : IntentInv (w'.setSession session phase) := by
  refine h.moved session htables ?_ ?_ ?_
  · intro other variant _ hl
    rw [show (w'.setSession session phase).variantLock = w.variantLock from hlock]
    exact hl
  · intro other hother
    rw [setSession_of_ne w' phase hother, hsessions]
  · rw [setSession_self]
    refine hphase.mono ?_ ?_ ?_
    · intro variant hl
      rw [show (w'.setSession session phase).variantLock = w.variantLock from hlock]
      exact hl
    · rw [show (w'.setSession session phase).tables = w.tables from htables]
      exact fun _ _ hl => hl
    · intro request revision key found _ _ _ hsees
      rw [show (w'.setSession session phase).tables = w.tables from htables]
      exact hsees

theorem target_known (h : tables.target request = some revision) :
    Known tables request revision := by
  cases request with
  | approve written destinationId => exact trivial
  | publish revisionId _ _ | schedule revisionId _ _ _ =>
    rw [IntentTables.target] at h
    split at h
    · cases h
    rename_i found hl
    split at h
    · cases h
      have hid : revision.id = revisionId := key_of_lookup hl
      rw [Known, hid]
      exact hl
    · cases h

theorem IntentInv.locked (h : IntentInv w) (htarget : w.tables.target request = some revision)
    (hfree : w.variantLock revision.platformVariantId = none) :
    IntentInv { w.setSession session (.locked request revision) with
      variantLock := Function.update w.variantLock revision.platformVariantId (some session) } := by
  refine h.moved session rfl ?_ ?_ ?_
  · intro other variant _ hl
    have hne : variant ≠ revision.platformVariantId := by
      intro heq
      rw [heq, hfree] at hl
      cases hl
    show Function.update w.variantLock revision.platformVariantId (some session) variant = _
    rw [Function.update_of_ne hne]
    exact hl
  · intro other hother
    exact setSession_of_ne w _ hother
  · show PhaseSound _ session ((w.setSession session (.locked request revision)).sessions session)
    rw [setSession_self]
    refine ⟨?_, target_known htarget⟩
    exact Function.update_self _ _ _

theorem IntentInv.kept (h : IntentInv w) {tables : IntentTables}
    (hints : intents tables.db = intents w.tables.db)
    (hkeys : ∀ key ∈ jobKeys w.tables.db, key ∈ jobKeys tables.db)
    (hrevisions : RevisionsKept w.tables tables) : IntentInv { w with tables := tables } := by
  refine ⟨?_, ?_, ?_, ?_⟩
  · intro intent hmem
    rw [show intents ({ w with tables := tables } : IntentWorld).tables.db = _ from hints] at hmem
    obtain ⟨revision, hl, hkey⟩ := h.keyed intent hmem
    exact ⟨revision, hrevisions _ _ hl, hkey⟩
  · show ∀ intent ∈ intents tables.db, ∀ intent' ∈ intents tables.db, _
    rw [hints]
    exact h.unique
  · intro intent hmem
    rw [show intents ({ w with tables := tables } : IntentWorld).tables.db = _ from hints] at hmem
    exact hkeys _ (h.driven intent hmem)
  · intro session
    refine (h.sessions session).mono (fun _ hl => hl) hrevisions ?_
    intro request revision key found _ _ _ hsees
    exact sees_congr hints hsees

/-! ## A session that commits -/

theorem revisionsAfter_kept (tables : IntentTables) (request : IntentRequest)
    (revision : PlatformVariantRevision)
    (h : tables'.revisions = revisionsAfter tables request revision) :
    RevisionsKept tables tables' := by
  intro id found hl
  rw [h]
  cases request with
  | approve written destinationId => exact lookup_insert_of_some hl
  | publish _ _ _ | schedule _ _ _ _ => exact hl

theorem revisionsAfter_lookup (hlive : ¬ Doomed tables request revision)
    (hk : Known tables request revision)
    (h : tables'.revisions = revisionsAfter tables request revision) :
    tables'.revisions.lookup revision.id = some revision := by
  rw [h]
  cases request with
  | approve written destinationId =>
    have hnone : tables.revisions.lookup revision.id = none := by
      cases hl : tables.revisions.lookup revision.id with
      | none => rfl
      | some found =>
        refine absurd ?_ hlive
        show (tables.revisions.lookup revision.id).isSome = true
        rw [hl]
        rfl
    exact (lookup_insert hnone).1
  | publish _ _ _ | schedule _ _ _ _ => exact hk

theorem revisions_differ {session' : Nat} {request' : IntentRequest}
    {revision' : PlatformVariantRevision} (hne : session' ≠ session)
    (hs : SessionSound w session request revision)
    (hs' : SessionSound w session' request' revision') (hlive : ¬ Doomed w.tables request revision)
    (hafter : tables'.revisions = revisionsAfter w.tables request revision)
    (hlive' : ¬ Doomed tables' request' revision') : revision'.id ≠ revision.id := by
  intro hid
  have hthere := revisionsAfter_lookup hlive hs.known hafter
  rw [← hid] at hthere
  -- a second writer of the same revision is doomed, so the other session found it committed
  have hl' : w.tables.revisions.lookup revision'.id = some revision' := by
    cases request' with
    | approve written destinationId =>
      refine absurd ?_ hlive'
      show (tables'.revisions.lookup revision'.id).isSome = true
      rw [hthere]
      rfl
    | publish _ _ _ | schedule _ _ _ _ => exact hs'.known
  have heq : revision' = revision := by
    have hkept := revisionsAfter_kept w.tables request revision hafter _ _ hl'
    rw [hthere] at hkept
    exact (Option.some.inj hkept).symm
  have hlock := hs'.lock
  rw [heq, hs.lock] at hlock
  exact hne (Option.some.inj hlock).symm

theorem no_intent (h : IntentInv w) (hs : SessionSound w session request revision)
    (hlive : ¬ Doomed w.tables request revision)
    (hown : publishJobByKey w.tables.db (request.ownKey revision) = none)
    (hother : publishJobByKey w.tables.db (request.otherKey revision) = none)
    {intent : PublishIntent} (hmem : intent ∈ intents w.tables.db)
    (hdestination : intent.destinationId = request.destinationId) :
    intent.revisionId ≠ revision.id := by
  intro hid
  obtain ⟨found, hl, hkey⟩ := h.keyed intent hmem
  rw [hid] at hl
  have heq : found = revision := by
    cases request with
    | approve written destinationId =>
      refine absurd ?_ hlive
      show (w.tables.revisions.lookup revision.id).isSome = true
      rw [hl]
      rfl
    | publish _ _ _ | schedule _ _ _ _ =>
      have hk : w.tables.revisions.lookup revision.id = some revision := hs.known
      rw [hl] at hk
      exact Option.some.inj hk
  rw [heq, hdestination, keyOf_iff] at hkey
  rcases hkey with hkey | hkey
  · exact byKey_eq_none.mp hown intent hmem hkey
  · exact byKey_eq_none.mp hother intent hmem hkey

theorem Sees.intent {found : PublishRecord} (h : Sees db key (some found)) :
    found.intent ∈ intents db ∧ found.intent.idempotencyKey = key := by
  obtain ⟨seen, hseen, hid⟩ := map_eq_some_iff.mp (Eq.symm h)
  rw [← hid]
  exact intent_of_byKey hseen

theorem sees_none (h : Sees db key found) (hnone : found = none) :
    publishJobByKey db key = none := by
  rw [Sees, hnone] at h
  exact map_eq_none_iff.mp h.symm

theorem sees_cons {intent : PublishIntent} (hints : intents db' = intent :: intents db)
    (hne : intent.idempotencyKey ≠ key) (h : Sees db key found) : Sees db' key found := by
  rw [Sees, publishJobByKey_intent] at h ⊢
  rw [hints, find?_cons_of_neg (by simpa using hne)]
  exact h

theorem IntentInv.committed (h : IntentInv w) {tables : IntentTables}
    (hphase : w.sessions session = .foundBoth request revision own other)
    (hfinish : w.tables.finish R request revision own other inputs = .ok (record, tables)) :
    IntentInv { w.close session with tables := tables } := by
  have hsound := h.sessions session
  rw [hphase] at hsound
  obtain ⟨hs, hsees⟩ := hsound
  have hseen : ¬ Doomed w.tables request revision →
      ∀ found, own = some found → found.intent ∈ intents w.tables.db := by
    intro hlive found hfound
    have hown := (hsees hlive).1
    rw [hfound] at hown
    exact hown.intent.1
  obtain ⟨hlive, hfinished, hafter⟩ := finish_ok hseen hfinish
  have hkept := revisionsAfter_kept w.tables request revision hafter
  obtain ⟨hown, hother⟩ := hsees hlive
  cases hfinished with
  | replayed found _ _ _ _ hints hkeys _ => exact (h.close session).kept hints hkeys hkept
  | created _ _ hownNone hotherNone hintent _ hints hkey hkeys =>
    have hownNone' := sees_none hown hownNone
    have hotherNone' : publishJobByKey w.tables.db (request.otherKey revision) = none := by
      rcases hother with hsome | hother
      · rw [hownNone] at hsome
        cases hsome
      · exact sees_none hother hotherNone
    have hnew : ∀ intent ∈ intents w.tables.db, intent.destinationId = request.destinationId →
        intent.revisionId ≠ revision.id := fun intent hmem =>
      no_intent h hs hlive hownNone' hotherNone' hmem
    have hdestination : record.intent.destinationId = request.destinationId := by rw [hintent]
    have hrevision : record.intent.revisionId = revision.id := by rw [hintent]
    have hownKey : record.intent.idempotencyKey = request.ownKey revision := by rw [hintent]
    refine ⟨?_, ?_, ?_, ?_⟩
    · intro intent hmem
      rw [show intents _ = _ from hints] at hmem
      rcases mem_cons.mp hmem with rfl | hmem
      · refine ⟨revision, ?_, ?_⟩
        · rw [hrevision]
          exact revisionsAfter_lookup hlive hs.known hafter
        · rw [hdestination, hownKey]
          exact (keyOf_iff _).mpr (.inl rfl)
      · obtain ⟨found, hl, hk⟩ := h.keyed intent hmem
        exact ⟨found, hkept _ _ hl, hk⟩
    · intro intent hmem intent' hmem' hd hr
      rw [show intents _ = _ from hints] at hmem hmem'
      rcases mem_cons.mp hmem with rfl | hmem
      · rcases mem_cons.mp hmem' with rfl | hmem'
        · rfl
        · exact absurd (hr.symm.trans hrevision) (hnew _ hmem' (hd.symm.trans hdestination))
      · rcases mem_cons.mp hmem' with rfl | hmem'
        · exact absurd (hr.trans hrevision) (hnew _ hmem (hd.trans hdestination))
        · exact h.unique intent hmem intent' hmem' hd hr
    · intro intent hmem
      rw [show intents _ = _ from hints] at hmem
      rcases mem_cons.mp hmem with rfl | hmem
      · rw [hownKey]
        exact hkey
      · exact hkeys _ (h.driven intent hmem)
    · intro session'
      by_cases hother' : session' = session
      · rw [hother']
        show PhaseSound _ session ((w.setSession session .idle).sessions session)
        rw [setSession_self]
        exact trivial
      · have hclosed := (h.close session).sessions session'
        refine hclosed.mono (fun _ hl => hl) hkept ?_
        intro request' revision' key found hs' hlive' hkeyOf hsees'
        refine sees_cons hints ?_ hsees'
        intro heq
        -- the other session is about another revision, so its keys are others
        have hs'' : SessionSound w session' request' revision' := by
          refine ⟨?_, hs'.known⟩
          have hl := hs'.lock
          rw [IntentWorld.close] at hl
          dsimp only at hl
          split at hl
          · cases hl
          · exact hl
        have hdiffer := revisions_differ hother' hs hs'' hlive hafter hlive'
        have hkeyOf' : KeyOf key request.destinationId revision := by
          rw [← heq, hownKey]
          exact (keyOf_iff _).mpr (.inl rfl)
        exact hdiffer (hkeyOf.unique hkeyOf').2

/-! ## Every reachable state -/

theorem intentInv_empty : IntentInv .empty := by
  refine ⟨?_, ?_, ?_, fun _ => trivial⟩
  · nofun
  · nofun
  · nofun

theorem intentInv_step (h : IntentInv w) (event : IntentEvent) : IntentInv (w.step R event) := by
  cases event with
  | lock session request refusal =>
    unfold IntentWorld.step
    dsimp only
    split
    · rename_i revision _ htarget
      split
      · exact h
      rename_i hfree
      refine h.locked htarget ?_
      simpa using hfree
    · exact h
  | findOwn session =>
    rw [IntentWorld.step]
    split
    · rename_i request revision hphase
      split
      · exact h
      rename_i own w' hselect
      obtain ⟨hown, htables, hlock, hsessions⟩ := selectForUpdate_ok hselect
      have hs := h.sessions session
      rw [hphase] at hs
      refine h.read htables hlock hsessions ⟨hs, ?_⟩
      intro _
      rw [hown]
      rfl
    · exact h
  | findOther session =>
    rw [IntentWorld.step]
    split
    · rename_i request revision own hphase
      have hs := h.sessions session
      rw [hphase] at hs
      split
      · rename_i hfound
        refine h.read rfl rfl rfl ⟨hs.1, ?_⟩
        intro hlive
        exact ⟨hs.2 hlive, Or.inl hfound.2⟩
      · split
        · exact h
        rename_i other w' hselect
        obtain ⟨hother, htables, hlock, hsessions⟩ := selectForUpdate_ok hselect
        refine h.read htables hlock hsessions ⟨hs.1, ?_⟩
        intro hlive
        refine ⟨hs.2 hlive, Or.inr ?_⟩
        rw [hother]
        rfl
    · exact h
  | finish session inputs =>
    rw [IntentWorld.step]
    split
    · rename_i request revision own other hphase
      split
      · exact h.close session
      rename_i record tables hfinish
      exact h.committed hphase hfinish
    · exact h
  | rollback session => exact h.close session
  | addRevision revision =>
    refine h.kept rfl (fun _ hkey => hkey) ?_
    intro id found hl
    exact lookup_insert_of_some hl
  | jobs op =>
    refine h.kept rfl ?_ (fun _ _ hl => hl)
    intro key hkey
    exact jobKeys_step op hkey
  | rewrite record =>
    rw [IntentWorld.step]
    split
    · exact h
    rename_i old hl
    split
    · rename_i hguard
      refine h.kept ?_ (fun _ hkey => hkey) (fun _ _ hl => hl)
      refine intents_put ?_
      rw [hguard.1]
      exact mem_map_of_mem (mem_of_lookup hl)
    · exact h

theorem intentInv_reachable (h : (intentSystem R).Reachable w) : IntentInv w := by
  refine System.invariant (P := IntentInv) ?_ ?_ h
  · intro s hs
    rw [hs]
    exact intentInv_empty
  · intro s event s' _ hi hst
    rw [hst]
    exact intentInv_step hi event

/-- The publish job stands for this destination, revision and content. -/
def IntentFor (tables : IntentTables) (record : PublishRecord) (destinationId revisionId : UUID)
    (contentHash : String) : Prop :=
  record.job.destinationId = destinationId ∧ record.job.platformVariantRevisionId = revisionId
    ∧ (tables.revisions.lookup revisionId).map PlatformVariantRevision.contentHash
        = some contentHash

def reviewedRevision : PlatformVariantRevision := ⟨3, 5, "c"⟩

def openInputs (publishJobId workflowJobId : UUID) : IntentInputs :=
  ⟨publishJobId, workflowJobId, true, 0, 0, 0, none, none⟩

/-- An operator publishes the revision; another asks for `request` after that. -/
def publishThen (request : IntentRequest) : IntentWorld :=
  IntentWorld.run .identity [ .addRevision reviewedRevision,
      .lock 0 (.publish 3 "c" 2) none, .findOwn 0, .findOther 0, .finish 0 (openInputs 10 20),
      .lock 1 request none, .findOwn 1, .findOther 1 ]

def queuedRecord : PublishRecord :=
  ⟨{ intentRow (.publish 3 "c" 2) reviewedRevision 10 with workflowJobId := some 20 },
    Table.empty, [], none⟩

end NewsCraft.Publishing
