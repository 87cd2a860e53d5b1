import NewsCraft.Generation.Revisions

/-!
# One variant under its writers

Operators, generation jobs and regeneration workers work on one platform variant while
leases are claimed, renewed and lost. Every transaction locks the variant first, so at most
one is in flight. It reads the clock, locks the jobs its fence check looks at and plans its
write; it commits later, or never. Any job call goes through that leaves the locked rows
alone.

All parties read one clock. A reading is taken before the lock is waited for:
`now ≤ s.clock` is all that is known of it.
-/

namespace NewsCraft.Generation

open Lib Jobs

/-- The redaction of the job layer and the digest of a canonical document. -/
structure GenerationServices where
  R : Redaction
  sha256Canonical : Json → String

/-! ## Transactions -/

/-- The `checkpoint_execution` that closes the transaction of a generated revision. -/
structure Checkpoint where
  jobId : UUID
  workerId : String
  result : Json

/-- `_pack_job_result`, the results generation jobs store. -/
def packJobResult (packId : UUID) (platforms : List String) (revisions : List (UUID × UUID)) :
    Json :=
  let revision := fun ids : UUID × UUID =>
    [("variant_id", Json.str (uuidStr ids.1)), ("revision_id", Json.str (uuidStr ids.2))]
  let result :=
    [("content_pack_id", Json.str (uuidStr packId)),
      ("platforms", Json.arr (platforms.map Json.str)),
      ("revisions", Json.arr (revisions.map fun ids => .obj (revision ids)))]
  match revisions with
  | [only] => .obj (result ++ revision only)
  | _ => .obj result

/-- What a provider authored for the variant, with the checkpoint that goes with it. -/
structure Generated where
  attemptId : UUID
  material : Option PlatformVariantRevision → Except WriteError Material
  checkpoint : Checkpoint

/-- A transaction on the variant, by what it is asked to do. `id` is the id its revision
would get. -/
inductive Request where
  | editVariant (request : EditVariantRequest)
      (material : PlatformVariantRevision → Except WriteError Material) (id : UUID)
  | editManualPlatformVariant (request : ManualPlatformEditRequest)
      (material : Except WriteError Material) (id : UUID)
  | packGeneration (generated : Generated) (id : UUID)
  | regeneration (regeneration : RegenerationContext) (owner : Option RegenerationFenceOwner)
      (generated : Generated) (id : UUID)
  | dispatchRegeneration (platform : Platform) (baseRevisionId : UUID)
      (baseContentHash : String) (workflowJobId : UUID) (workflowAttempt : Int)
      (leaseOwner : Option String)
  | clearFence (owner : RegenerationFenceOwner)

/-- The fence a request writes its revision under. -/
def Request.owner : Request → Option RegenerationFenceOwner
  | .regeneration _ owner _ _ => owner
  | .editVariant .. | .editManualPlatformVariant .. | .packGeneration ..
  | .dispatchRegeneration .. | .clearFence .. => none

inductive Plan where
  | revision (row : PlatformVariantRevision) (checkpoint : Option Checkpoint)
  | jobRow (row : WorkflowJob)
  | nothing

/-- The transaction that holds the variant's row lock. -/
structure Transaction where
  request : Request
  observedAt : Datetime
  locked : List WorkflowJob
  plan : Plan

structure VariantState where
  variant : PlatformVariant
  revisions : Table PlatformVariantRevision
  jobs : World
  clock : Datetime
  inFlight : Option Transaction

namespace VariantState

/-- Lock the variant and run the request up to its commit. -/
def begin (S : GenerationServices) (s : VariantState) (request : Request) (now : Datetime) :
    Except WriteError Transaction :=
  let jobs := s.jobs.db.jobs
  let locked := lockedRegenerationJobs jobs s.variant.id none
  match request with
  | .editVariant edit material id =>
    (editVariant S.sha256Canonical s.variant jobs s.revisions edit material id now).map
      fun row => ⟨request, now, locked, .revision row none⟩
  | .editManualPlatformVariant edit material id =>
    (editManualPlatformVariant S.sha256Canonical s.variant jobs s.revisions edit material id
      now).map fun row => ⟨request, now, locked, .revision row none⟩
  | .packGeneration generated id =>
    (persistNewArtifact S.sha256Canonical s.variant jobs s.revisions none none
      generated.attemptId generated.material id now).map
      fun row => ⟨request, now, locked, .revision row (some generated.checkpoint)⟩
  | .regeneration regeneration owner generated id =>
    (persistNewArtifact S.sha256Canonical s.variant jobs s.revisions (some regeneration) owner
      generated.attemptId generated.material id now).map
      fun row => ⟨request, now, locked, .revision row (some generated.checkpoint)⟩
  | .dispatchRegeneration platform baseRevisionId baseContentHash workflowJobId workflowAttempt
      leaseOwner =>
      (requireExactRegenerationDispatch s.variant jobs s.revisions platform baseRevisionId
        baseContentHash workflowJobId workflowAttempt leaseOwner now).map fun row =>
        ⟨request, now, lockedRegenerationJobs jobs s.variant.id (some workflowJobId), .jobRow row⟩
  | .clearFence owner =>
    let locked := lockedRegenerationJobs jobs s.variant.id (some owner.workflowJobId)
    match clearRegenerationFence jobs s.variant.id owner with
    | none => .ok ⟨request, now, locked, .nothing⟩
    | some row => .ok ⟨request, now, locked, .jobRow row⟩

/-- Whether the row violates a unique constraint of the revisions. -/
def revisionTaken (s : VariantState) (row : PlatformVariantRevision) : Bool :=
  s.revisions.rows.any fun revision =>
    revision.id = row.id || revision.revisionNumber = row.revisionNumber

/-- Commit the planned write; a constraint or a lost lease rolls it back. -/
def commit (S : GenerationServices) (s : VariantState) (plan : Plan) (now : Datetime) :
    VariantState :=
  match plan with
  | .nothing => { s with inFlight := none }
  | .jobRow row => { s with inFlight := none, jobs := { s.jobs with db := s.jobs.db.write row } }
  | .revision row checkpoint =>
    if s.revisionTaken row then
      { s with inFlight := none }
    else
      match checkpoint with
      | none => { s with inFlight := none, revisions := s.revisions.insert row }
      | some checkpoint =>
        match s.jobs.db.checkpointJob S.R checkpoint.jobId checkpoint.workerId none
          (some checkpoint.result) now with
        | .error _ => { s with inFlight := none }
        | .ok db' =>
          { s with
            inFlight := none
            revisions := s.revisions.insert row
            jobs := { s.jobs with db := db' } }

end VariantState

/-! ## Steps -/

inductive VariantEvent where
  | begin (request : Request) (now : Datetime)
  | commit (now : Datetime)
  /-- The transaction raises or its process dies. -/
  | abort
  | job (op : Op)
  | tick (now : Datetime)

def readingOf : Op → Option Datetime
  | .enqueue _ _ _ now | .claim _ _ _ _ now | .heartbeat _ _ _ _ _ now
  | .updateProgress _ _ _ _ now | .checkpoint _ _ _ _ now | .finish _ _ _ now
  | .fail _ _ _ _ _ _ now | .retry _ _ now | .cancel _ now | .requeue _ now => some now
  | .environment .. => none

/-- A stored result has no entry under the fence's key. -/
def NoFenceIn (R : Redaction) (result : Json) : Prop :=
  (R.redactSecrets result).get? regenerationFenceResultKey = none

/-- The results generation handlers report are `_pack_job_result`s, which have no such
entry. -/
theorem packJobResult_noFence (packId : UUID) (platforms : List String)
    (revisions : List (UUID × UUID)) :
    NoFenceIn Redaction.identity (packJobResult packId platforms revisions) := by
  rcases revisions with _ | ⟨only, _ | ⟨second, rest⟩⟩ <;>
    simp [NoFenceIn, Redaction.identity, packJobResult, Json.get?, regenerationFenceResultKey]

/-- What a job call stores as the result of a regeneration job comes from its handler. -/
def StoresNoFence (R : Redaction) (job : WorkflowJob) : Op → Prop
  | .checkpoint jobId _ _ (some result) _ | .finish jobId _ result _ =>
    jobId = job.id → job.jobType = regenerateJobType → NoFenceIn R result
  | _ => True

/-- The same for the checkpoint inside a request. -/
def Request.StoresNoFence (R : Redaction) : Request → Prop
  | .packGeneration generated _ | .regeneration _ _ generated _ =>
    NoFenceIn R generated.checkpoint.result
  | .editVariant .. | .editManualPlatformVariant .. | .dispatchRegeneration ..
  | .clearFence .. => True

structure JobCall (S : GenerationServices) (s : VariantState) (op : Op) : Prop where
  reading : ∀ now, readingOf op = some now → now ≤ s.clock
  stores : ∀ job ∈ s.jobs.db.jobs.rows, StoresNoFence S.R job op
  /-- The rows the transaction in flight has locked are waited for. -/
  unlocked : ∀ txn, s.inFlight = some txn → ∀ row ∈ txn.locked,
    (s.jobs.step S.R op).db.jobs.lookup row.id = some row

def Enabled (S : GenerationServices) (s : VariantState) : VariantEvent → Prop
  | .begin request now => s.inFlight = none ∧ now ≤ s.clock ∧ request.StoresNoFence S.R
  | .commit now => s.inFlight.isSome = true ∧ now ≤ s.clock
  | .abort => True
  | .job op => JobCall S s op
  | .tick now => s.clock ≤ now

def VariantState.next (S : GenerationServices) (s : VariantState) : VariantEvent → VariantState
  | .begin request now =>
    match s.begin S request now with
    | .ok txn => { s with inFlight := some txn }
    | .error _ => s
  | .commit now =>
    match s.inFlight with
    | some txn => s.commit S txn.plan now
    | none => s
  | .abort => { s with inFlight := none }
  | .job op => { s with jobs := s.jobs.step S.R op }
  | .tick now => { s with clock := now }

/-- One variant and the jobs around it, from before its first revision. -/
def variantSystem (S : GenerationServices) : System VariantState VariantEvent where
  init s := s.revisions = Table.empty ∧ s.jobs.db.jobs = Table.empty ∧ s.inFlight = none
  step s e s' := Enabled S s e ∧ s' = s.next S e

theorem reachable_of_along {S : GenerationServices} {ok : VariantState → VariantEvent → Prop}
    {s : VariantState} (hinit : (variantSystem S).init s) {events : List VariantEvent}
    (h : System.Along (fun s e => ok s e ∧ Enabled S s e) (VariantState.next S) s events) :
    ((variantSystem S).restrict ok).Reachable (events.foldl (VariantState.next S) s) := by
  have hstep : ∀ s e, ok s e ∧ Enabled S s e →
      ((variantSystem S).restrict ok).step s e (s.next S e) :=
    fun s e h => ⟨h.1, h.2, rfl⟩
  exact System.reachable_along hstep (.init hinit) h

theorem jobCall_idle {S : GenerationServices} {s : VariantState} {op : Op}
    (hidle : s.inFlight.isNone = true) (hreading : ∀ now, readingOf op = some now → now ≤ s.clock)
    (hstores : ∀ job, StoresNoFence S.R job op) : JobCall S s op where
  reading := hreading
  stores := fun job _ => hstores job
  unlocked := by
    intro txn htxn
    rw [htxn] at hidle
    cases hidle

/-! ## What a transaction plans -/

variable {S : GenerationServices} {s : VariantState} {request : Request} {txn : Transaction}
  {now : Datetime}

/-- How a planned revision relates to the revisions there are. -/
inductive PlannedRevision (s : VariantState) (now : Datetime) :
    Request → PlatformVariantRevision → Option Checkpoint → Prop
  | edit {edit : EditVariantRequest}
      {material : PlatformVariantRevision → Except WriteError Material} {id : UUID}
      {row : PlatformVariantRevision} :
      requireRevisionWriteAllowed s.jobs.db.jobs s.variant.id none none none now = .ok () →
      (∃ parent, s.revisions.lookup edit.baseRevisionId = some parent) →
      row.parentRevisionId = some edit.baseRevisionId →
      row.revisionNumber = maxRevisionNumber s.revisions + 1 →
      PlannedRevision s now (.editVariant edit material id) row none
  | manual {edit : ManualPlatformEditRequest} {material : Except WriteError Material} {id : UUID}
      {row current : PlatformVariantRevision} :
      requireRevisionWriteAllowed s.jobs.db.jobs s.variant.id none none none now = .ok () →
      currentRevision s.revisions = some current → row.parentRevisionId = some current.id →
      row.revisionNumber = current.revisionNumber + 1 →
      PlannedRevision s now (.editManualPlatformVariant edit material id) row none
  | pack {generated : Generated} {id : UUID} {row : PlatformVariantRevision} :
      requireRevisionWriteAllowed s.jobs.db.jobs s.variant.id none none none now = .ok () →
      row.parentRevisionId = (currentRevision s.revisions).map PlatformVariantRevision.id →
      row.revisionNumber
        = ((currentRevision s.revisions).map PlatformVariantRevision.revisionNumber).getD 0 + 1 →
      PlannedRevision s now (.packGeneration generated id) row (some generated.checkpoint)
  | regenerated {regeneration : RegenerationContext} {owner : RegenerationFenceOwner}
      {generated : Generated} {id : UUID} {row base : PlatformVariantRevision} :
      requireRevisionWriteAllowed s.jobs.db.jobs s.variant.id (some owner) (some base.id)
        (some base.contentHash) now = .ok () →
      currentRevision s.revisions = some base → row.parentRevisionId = some base.id →
      row.revisionNumber = base.revisionNumber + 1 →
      PlannedRevision s now (.regeneration regeneration (some owner) generated id) row
        (some generated.checkpoint)

theorem except_map_ok {ε α β : Type} {x : Except ε α} {f : α → β} {b : β}
    (h : x.map f = .ok b) : ∃ a, x = .ok a ∧ f a = b := by
  cases x with
  | error e => cases h
  | ok a =>
    cases h
    exact ⟨a, rfl, rfl⟩

/-- **What a transaction that began is about to write.** -/
theorem begin_ok (h : s.begin S request now = .ok txn) :
    txn.request = request ∧ txn.observedAt = now
      ∧ ((∃ row checkpoint, txn.plan = .revision row checkpoint
            ∧ txn.locked = lockedRegenerationJobs s.jobs.db.jobs s.variant.id none
            ∧ PlannedRevision s now request row checkpoint)
        ∨ (∃ platform baseRevisionId baseContentHash workflowJobId workflowAttempt leaseOwner row,
            request = .dispatchRegeneration platform baseRevisionId baseContentHash workflowJobId
              workflowAttempt leaseOwner
            ∧ txn.plan = .jobRow row
            ∧ txn.locked = lockedRegenerationJobs s.jobs.db.jobs s.variant.id (some workflowJobId)
            ∧ requireExactRegenerationDispatch s.variant s.jobs.db.jobs s.revisions platform
              baseRevisionId baseContentHash workflowJobId workflowAttempt leaseOwner now = .ok row)
        ∨ (∃ owner, request = .clearFence owner
            ∧ txn.locked = lockedRegenerationJobs s.jobs.db.jobs s.variant.id
              (some owner.workflowJobId)
            ∧ (txn.plan = .nothing ∨ ∃ row, txn.plan = .jobRow row
                ∧ clearRegenerationFence s.jobs.db.jobs s.variant.id owner = some row))) := by
  cases request with
  | editVariant edit material id =>
    obtain ⟨row, hrow, rfl⟩ := except_map_ok h
    obtain ⟨hallowed, -, hparent, hbase, hnumber⟩ := editVariant_ok hrow
    exact ⟨rfl, rfl, Or.inl ⟨row, none, rfl, rfl, .edit hallowed hbase hparent hnumber⟩⟩
  | editManualPlatformVariant edit material id =>
    obtain ⟨row, hrow, rfl⟩ := except_map_ok h
    obtain ⟨hallowed, -, current, hcurrent, hparent, hnumber⟩ :=
      editManualPlatformVariant_ok hrow
    exact ⟨rfl, rfl, Or.inl ⟨row, none, rfl, rfl, .manual hallowed hcurrent hparent hnumber⟩⟩
  | packGeneration generated id =>
    obtain ⟨row, hrow, rfl⟩ := except_map_ok h
    obtain ⟨hwrite, -, hparent, hnumber⟩ := persistNewArtifact_ok hrow
    exact ⟨rfl, rfl, Or.inl ⟨row, some generated.checkpoint, rfl, rfl,
      .pack (requireVariantWrite_none hwrite) hparent hnumber⟩⟩
  | regeneration regeneration owner generated id =>
    obtain ⟨row, hrow, rfl⟩ := except_map_ok h
    obtain ⟨hwrite, -, hparent, hnumber⟩ := persistNewArtifact_ok hrow
    obtain ⟨base, token, hbase, hid, hhash, rfl, hallowed⟩ := requireVariantWrite_some hwrite
    rw [hbase] at hparent hnumber
    rw [← hid, ← hhash] at hallowed
    exact ⟨rfl, rfl, Or.inl ⟨row, some generated.checkpoint, rfl, rfl,
      .regenerated hallowed hbase hparent hnumber⟩⟩
  | dispatchRegeneration platform baseRevisionId baseContentHash workflowJobId workflowAttempt
      leaseOwner =>
      obtain ⟨row, hrow, rfl⟩ := except_map_ok h
      exact ⟨rfl, rfl, Or.inr (.inl ⟨platform, baseRevisionId, baseContentHash, workflowJobId,
        workflowAttempt, leaseOwner, row, rfl, rfl, rfl, hrow⟩)⟩
  | clearFence owner =>
    unfold VariantState.begin at h
    dsimp only at h
    cases hc : clearRegenerationFence s.jobs.db.jobs s.variant.id owner with
    | none =>
      rw [hc] at h
      cases h
      exact ⟨rfl, rfl, Or.inr (.inr ⟨owner, rfl, rfl, Or.inl rfl⟩)⟩
    | some row =>
      rw [hc] at h
      cases h
      exact ⟨rfl, rfl, Or.inr (.inr ⟨owner, rfl, rfl, Or.inr ⟨row, rfl, hc⟩⟩)⟩

/-- **What a commit does**: nothing, one job row, or one revision with its checkpoint. -/
theorem commit_cases (S : GenerationServices) (s : VariantState) (plan : Plan) (now : Datetime) :
    s.commit S plan now = { s with inFlight := none }
      ∨ (∃ row, plan = .jobRow row ∧ s.commit S plan now
          = { s with inFlight := none, jobs := { s.jobs with db := s.jobs.db.write row } })
      ∨ ∃ row checkpoint db', plan = .revision row checkpoint ∧ s.revisionTaken row = false
          ∧ (db' = s.jobs.db ∨ ∃ c, checkpoint = some c
            ∧ s.jobs.db.checkpointJob S.R c.jobId c.workerId none (some c.result) now = .ok db')
          ∧ s.commit S plan now = { s with
                inFlight := none
                revisions := s.revisions.insert row
                jobs := { s.jobs with db := db' } } := by
  cases plan with
  | nothing => exact .inl rfl
  | jobRow row => exact .inr (.inl ⟨row, rfl, rfl⟩)
  | revision row checkpoint =>
    unfold VariantState.commit
    dsimp only
    by_cases htaken : s.revisionTaken row = true
    · rw [if_pos htaken]
      exact .inl rfl
    · rw [if_neg htaken]
      have hfree : s.revisionTaken row = false := by simpa using htaken
      cases checkpoint with
      | none =>
        exact .inr (.inr ⟨row, none, s.jobs.db, rfl, hfree, Or.inl rfl, rfl⟩)
      | some c =>
        dsimp only
        cases hc : s.jobs.db.checkpointJob S.R c.jobId c.workerId none (some c.result) now with
        | error _ => exact .inl rfl
        | ok db' =>
          exact .inr (.inr ⟨row, some c, db', rfl, hfree, Or.inr ⟨c, rfl, hc⟩, rfl⟩)

/-! ## New revisions -/

variable {s' : VariantState} {e : VariantEvent} {row : PlatformVariantRevision}

theorem rows_insert (hfree : s.revisionTaken row = false) :
    (s.revisions.insert row).rows = row :: s.revisions.rows := by
  have hkey : Keyed.key row ∉ s.revisions.rows.map Keyed.key := by
    intro hmem
    obtain ⟨revision, hrevision, hid⟩ := List.mem_map.mp hmem
    have hid : revision.id = row.id := hid
    have hno := List.any_eq_false.mp hfree revision hrevision
    simp [hid] at hno
  rw [Table.insert, dif_neg hkey]

theorem added_revision (hstep : (variantSystem S).step s e s')
    (hnew : row ∈ s'.revisions.rows) (hold : row ∉ s.revisions.rows) :
    ∃ now txn checkpoint, e = .commit now ∧ s.inFlight = some txn
      ∧ txn.plan = .revision row checkpoint := by
  obtain ⟨hopen, rfl⟩ := hstep
  cases e with
  | begin request now =>
    rw [VariantState.next] at hnew
    cases hb : s.begin S request now with
    | error _ | ok _ => rw [hb] at hnew; exact absurd hnew hold
  | commit now =>
    obtain ⟨txn, htxn⟩ := Option.isSome_iff_exists.mp hopen.1
    rw [VariantState.next, htxn] at hnew
    dsimp only at hnew
    rcases commit_cases S s txn.plan now with hc | ⟨_, -, hc⟩
      | ⟨planned, checkpoint, db', hplan, hfree, -, hc⟩
    · rw [hc] at hnew
      exact absurd hnew hold
    · rw [hc] at hnew
      exact absurd hnew hold
    · rw [hc] at hnew
      have hmem : row ∈ (s.revisions.insert planned).rows := hnew
      rw [rows_insert hfree] at hmem
      rcases List.mem_cons.mp hmem with rfl | hmem
      · exact ⟨now, txn, checkpoint, rfl, htxn, hplan⟩
      · exact absurd hmem hold
  | abort => exact absurd hnew hold
  | job op => exact absurd hnew hold
  | tick now => exact absurd hnew hold

end NewsCraft.Generation
