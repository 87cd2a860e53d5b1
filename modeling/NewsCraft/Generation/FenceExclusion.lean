import NewsCraft.Generation.RevisionChain
import NewsCraft.Jobs.Leases

/-!
# The fence keeps others out

A writer checks the fences once, under the variant's lock, and commits later. What it found
stays true: a fence it saw lapsed belongs to a row it has locked, and one it did not see to
a job whose next claim is under a higher attempt. So while a fence is live no revision but
its owner's is committed, on the fence's base.

Two live fences take a lease that comes back after it ran out: a heartbeat whose clock
reading is from before the expiry and its write from after it.
-/

namespace NewsCraft.Generation

open Lib Jobs List Table Option

def VariantState.regenerationJobs (s : VariantState) : List WorkflowJob :=
  s.jobs.db.jobs.rows.filter fun job => job.jobType = regenerateJobType

def VariantState.AtMostOneLive (s : VariantState) : Prop :=
  ∀ x ∈ s.regenerationJobs, ∀ y ∈ s.regenerationJobs,
    (liveFenceOf s.variant.id s.clock x).isSome = true →
    (liveFenceOf s.variant.id s.clock y).isSome = true → x = y

/-- A heartbeat renews its job's lease before the lease has run out. -/
def RenewsInTime (s : VariantState) : VariantEvent → Prop
  | .job (.heartbeat jobId _ _ _ _ _) =>
    ∀ job expiresAt, s.jobs.db.jobs.lookup jobId = some job → job.status = .running →
      job.leaseExpiresAt = some expiresAt → s.clock < expiresAt
  | _ => True

variable {S : GenerationServices} {R : Redaction} {op : Op} {s s' : VariantState}
  {e : VariantEvent} {job job' : WorkflowJob} {fence : RegenerationFence} {variantId : UUID}
  {now : Datetime} {jobs : Table WorkflowJob}

theorem mem_regenerationJobs : job ∈ s.regenerationJobs
    ↔ job ∈ s.jobs.db.jobs.rows ∧ job.jobType = regenerateJobType := by
  rw [VariantState.regenerationJobs, mem_filter, decide_eq_true_eq]

/-! ## A row write and the fence in the row -/

theorem result_failed {errorClass : JobErrorClass} {errorCode errorMessage : String}
    {retryAt : Option Datetime} :
    (job.failed R errorClass errorCode errorMessage retryAt now).result = job.result := by
  rw [WorkflowJob.failed]
  split
  · rfl
  · split <;> rfl

theorem result_leaseExpired {review : Bool} : (job.leaseExpired review now).result = job.result := by
  rw [WorkflowJob.leaseExpired, WorkflowJob.clearLease]
  split
  · rfl
  · split <;> rfl

theorem rawFence_write (h : RowWrite R op job job') (htype : job.jobType = regenerateJobType)
    (hstores : StoresNoFence R job op) : rawFence job' = rawFence job ∨ rawFence job' = none := by
  cases h with
  | scheduled | claimed | heartbeat | progressed | retried | cancelled => exact .inl rfl
  | checkpointed workerId payload result now ha =>
    cases result with
    | none => exact .inl rfl
    | some result => exact .inr (hstores rfl htype)
  | finished workerId result now ha => exact .inr (hstores rfl htype)
  | failed => exact .inl (congrArg (Json.get? · _) result_failed)
  | leaseExpired => exact .inl (congrArg (Json.get? · _) result_leaseExpired)

theorem attemptCount_write (h : RowWrite R op job job') : job.attemptCount ≤ job'.attemptCount := by
  cases h with
  | claimed =>
    show job.attemptCount ≤ job.attemptCount + 1
    omega
  | failed => exact Int.le_of_eq failed_attemptCount.symm
  | leaseExpired => exact Int.le_of_eq leaseExpired_attemptCount.symm
  | _ => exact Int.le_refl _

theorem fenceRecord_of_none (h : rawFence job = none) : FenceRecord job := ⟨fun _ => .inl h⟩

theorem FenceRecord.write (h : FenceRecord job) (hw : RowWrite R op job job')
    (hstores : StoresNoFence R job op) : FenceRecord job' := by
  refine ⟨fun htype => ?_⟩
  have htype : job.jobType = regenerateJobType := hw.jobType_eq.symm.trans htype
  rcases rawFence_write hw htype hstores with hsame | hnone
  · rcases h.recorded htype with hempty | ⟨fence, hraw, hid, hhash, hle⟩
    · exact .inl (hsame.trans hempty)
    exact .inr ⟨fence, hsame.trans hraw, hid.trans hw.id_eq.symm, hhash,
      Int.le_trans hle (attemptCount_write hw)⟩
  · exact .inl hnone

theorem fence_before (h : FenceRecord job) (hw : RowWrite R op job job')
    (htype : job.jobType = regenerateJobType) (hstores : StoresNoFence R job op)
    (hf : fenceFromJob job' = some fence) : fenceFromJob job = some fence := by
  have htype' : job'.jobType = regenerateJobType := hw.jobType_eq.trans htype
  obtain ⟨hraw, hid, hhash, -⟩ := (h.write hw hstores).raw_of_fence htype' hf
  rcases rawFence_write hw htype hstores with hsame | hnone
  · exact fenceFromJob_of_raw (hsame.symm.trans hraw) (hid.trans hw.id_eq) hhash
  rw [hnone] at hraw
  cases hraw

theorem live_before (h : FenceRecord job) (hw : RowWrite R op job job')
    (htype : job.jobType = regenerateJobType) (hstores : StoresNoFence R job op)
    (hlive : liveFenceOf variantId now job' = some fence) :
    liveFenceOf variantId now job = some fence
      ∨ ∃ workerId leaseSeconds progress message reading expiresAt,
        op = .heartbeat job.id workerId leaseSeconds progress message reading
        ∧ job.status = .running ∧ job.leaseExpiresAt = some expiresAt ∧ expiresAt ≤ now := by
  obtain ⟨hf', hv, hl⟩ := liveFenceOf_eq_some.mp hlive
  have hf := fence_before h hw htype hstores hf'
  obtain ⟨-, -, -, hle⟩ := h.raw_of_fence htype hf
  obtain ⟨hrun, hattempt, howner, expiresAt, he, hlt⟩ := isLive_iff.mp hl
  have hsame : job.status = .running → job.attemptCount = fence.owner.workflowAttempt →
      job.leaseOwner = some fence.owner.leaseOwner → job.leaseExpiresAt = some expiresAt →
      liveFenceOf variantId now job = some fence := by
    intro h1 h2 h3 h4
    exact liveFenceOf_eq_some.mpr ⟨hf, hv, isLive_iff.mpr ⟨h1, h2, h3, expiresAt, h4, hlt⟩⟩
  cases hw with
  | scheduled | progressed | checkpointed => exact .inl (hsame hrun hattempt howner he)
  | claimed =>
    -- the new attempt is above every recorded one
    have hnext : job.attemptCount + 1 = fence.owner.workflowAttempt := hattempt
    omega
  | heartbeat workerId leaseSeconds progress message reading ha =>
    obtain ⟨hrunning, -, expired, hexpired, -⟩ := hasActiveLease_iff.mp ha
    rcases Int.lt_or_le now expired with hfresh | hstale
    · exact .inl (liveFenceOf_eq_some.mpr
        ⟨hf, hv, isLive_iff.mpr ⟨hrunning, hattempt, howner, expired, hexpired, hfresh⟩⟩)
    · exact .inr ⟨workerId, leaseSeconds, progress, message, reading, expired, rfl, hrunning,
        hexpired, hstale⟩
  | finished | retried | cancelled => cases hrun
  | failed workerId errorClass errorCode errorMessage retryAt reading ha =>
    have hstop : (job.failed R errorClass errorCode errorMessage retryAt reading).status
        ≠ .running := by
      rw [WorkflowJob.failed]
      split
      · simp
      · split <;> simp
    exact absurd hrun hstop
  | leaseExpired => exact absurd hrun World.leaseExpired_status

/-! ## Fences that stay lapsed -/

/-- No fence of the job for the variant is under the attempt it runs. -/
def Spent (variantId : UUID) (job : WorkflowJob) : Prop :=
  ∀ fence, fenceFromJob job = some fence → fence.variantId = variantId →
    ¬ (job.status = .running ∧ job.leaseExpiresAt.isSome = true
      ∧ job.attemptCount = fence.owner.workflowAttempt)

theorem Spent.not_live (h : Spent variantId job) : liveFenceOf variantId now job = none := by
  cases hl : liveFenceOf variantId now job with
  | none => rfl
  | some fence =>
    obtain ⟨hf, hv, hlive⟩ := liveFenceOf_eq_some.mp hl
    obtain ⟨hrun, hattempt, -, expiresAt, he, -⟩ := isLive_iff.mp hlive
    exact absurd ⟨hrun, by rw [he]; rfl, hattempt⟩ (h fence hf hv)

theorem spent_of_none (h : rawFence job = none) : Spent variantId job := by
  intro fence hf
  rw [fenceFromJob_of_none h] at hf
  cases hf

/-- **A spent fence never comes back to life**: only a claim makes the job run again,
and that is under another attempt. -/
theorem Spent.write (h : Spent variantId job) (hrecord : FenceRecord job)
    (hw : RowWrite R op job job') (htype : job.jobType = regenerateJobType)
    (hstores : StoresNoFence R job op) : Spent variantId job' := by
  intro fence hf' hv ⟨hrun, hlease, hattempt⟩
  have hf := fence_before hrecord hw htype hstores hf'
  obtain ⟨-, -, -, hle⟩ := hrecord.raw_of_fence htype hf
  have hno := h fence hf hv
  cases hw with
  | scheduled | progressed | checkpointed => exact hno ⟨hrun, hlease, hattempt⟩
  | claimed =>
    have hnext : job.attemptCount + 1 = fence.owner.workflowAttempt := hattempt
    omega
  | heartbeat workerId leaseSeconds progress message reading ha =>
    obtain ⟨hrunning, -, expired, hexpired, -⟩ := hasActiveLease_iff.mp ha
    exact hno ⟨hrunning, by rw [hexpired]; rfl, hattempt⟩
  | finished | retried | cancelled => cases hrun
  | failed workerId errorClass errorCode errorMessage retryAt reading ha =>
    have hstop : (job.failed R errorClass errorCode errorMessage retryAt reading).leaseExpiresAt
        = none := by
      rw [WorkflowJob.failed]
      split
      · rfl
      · split <;> rfl
    rw [hstop] at hlease
    cases hlease
  | leaseExpired => exact absurd hrun World.leaseExpired_status

theorem spent_of_not_locked (hmem : job ∈ jobs.rows) (hrecord : FenceRecord job)
    (htype : job.jobType = regenerateJobType) {ownerJobId : Option UUID}
    (hno : job ∉ lockedRegenerationJobs jobs variantId ownerJobId) : Spent variantId job := by
  rintro fence hf rfl ⟨hrun, hlease, -⟩
  obtain ⟨hraw, -, -, -⟩ := hrecord.raw_of_fence htype hf
  refine hno (mem_filter.mpr ⟨hmem, ?_⟩)
  simp [htype, hrun, hlease, storedFenceNames_of_raw hraw]

/-! ## What acquiring and clearing write -/

/-- **An acquired fence**: the owner's row with the fence in it, while no other locked
job has a live one. -/
theorem acquire_ok {baseRevisionId : UUID} {baseContentHash : String} {workflowJobId : UUID}
    {workflowAttempt : Int} {leaseOwner : Option String} {row : WorkflowJob}
    (hrecords : jobs.All FenceRecord)
    (h : acquireRegenerationFence jobs variantId baseRevisionId baseContentHash workflowJobId
      workflowAttempt leaseOwner now = .ok row) : FenceRecord row
      ∧ (∃ old ∈ lockedRegenerationJobs jobs variantId (some workflowJobId), row.id = old.id)
      ∧ ∀ job ∈ lockedRegenerationJobs jobs variantId (some workflowJobId), job.id ≠ row.id →
        liveFenceOf variantId now job = none := by
  unfold acquireRegenerationFence at h
  cases leaseOwner with
  | none => cases h
  | some leaseOwner =>
    dsimp only at h
    split at h
    · cases h
    rename_i hvalid
    simp only [not_or] at hvalid
    cases hfind : (lockedRegenerationJobs jobs variantId (some workflowJobId)).find?
        fun job => job.id = workflowJobId with
    | none => rw [hfind] at h; cases h
    | some owner =>
      rw [hfind] at h
      dsimp only at h
      have hmem := mem_of_find?_eq_some hfind
      have hid : owner.id = workflowJobId := by simpa using find?_some hfind
      split at h
      · cases h
      rename_i hlive
      rw [Bool.not_eq_true, Bool.not_eq_false'] at hlive
      split at h
      · cases h
      rename_i hconflict
      cases h
      have hhash : isSha256 baseContentHash = true := by simpa using hvalid.2.2
      have hattempt := (isLive_iff.mp hlive).2.1
      refine ⟨⟨fun _ => .inr ⟨_, get?_resultWithFence _ _, hid.symm, hhash,
        Int.le_of_eq hattempt.symm⟩⟩, ⟨owner, hmem, rfl⟩, ?_⟩
      intro job hjob hne
      have hnone := findSome?_eq_none_iff.mp hconflict job hjob
      obtain ⟨hrow, hkind⟩ := mem_filter.mp hjob
      have htype : job.jobType = regenerateJobType := by
        simp only [Bool.and_eq_true, decide_eq_true_eq] at hkind
        exact hkind.1.1.1
      cases hl : liveFenceOf variantId now job with
      | none => rfl
      | some held =>
        exfalso
        have hown := ((hrecords job hrow).raw_of_fence htype
          (liveFenceOf_eq_some.mp hl).1).2.1
        have hother : held.owner ≠ ⟨workflowJobId, workflowAttempt, leaseOwner⟩ := by
          intro heq
          rw [heq] at hown
          exact hne (hown.symm.trans hid.symm)
        unfold acquireConflict at hnone
        rw [(hrecords job hrow).not_malformed htype] at hnone
        rw [hl] at hnone
        simp [hother] at hnone

/-- **A cleared fence**: the owner's row without one. -/
theorem clear_some {owner : RegenerationFenceOwner} {row : WorkflowJob}
    (h : clearRegenerationFence jobs variantId owner = some row) : rawFence row = none
      ∧ ∃ old ∈ lockedRegenerationJobs jobs variantId (some owner.workflowJobId),
        row.id = old.id := by
  obtain ⟨old, hold, hrow⟩ := exists_of_findSome?_eq_some h
  cases hf : fenceFromJob old with
  | none => rw [hf] at hrow; cases hrow
  | some fence =>
    rw [hf] at hrow
    dsimp only at hrow
    split at hrow
    · cases hrow
    cases hrow
    exact ⟨get?_publicJobResult old.result, old, hold, rfl⟩

theorem dispatch_ok {variant : PlatformVariant} {revisions : Table PlatformVariantRevision}
    {platform : Platform} {baseRevisionId : UUID} {baseContentHash : String}
    {workflowJobId : UUID} {workflowAttempt : Int} {leaseOwner : Option String} {row : WorkflowJob}
    (h : requireExactRegenerationDispatch variant jobs revisions platform baseRevisionId
      baseContentHash workflowJobId workflowAttempt leaseOwner now = .ok row) :
    acquireRegenerationFence jobs variant.id baseRevisionId baseContentHash workflowJobId
      workflowAttempt leaseOwner now = .ok row := by
  unfold requireExactRegenerationDispatch at h
  split at h
  · cases h
  cases hc : currentRevision revisions with
  | none => rw [hc] at h; cases h
  | some current =>
    rw [hc] at h
    dsimp only at h
    split at h
    · cases h
    cases ha : acquireRegenerationFence jobs variant.id baseRevisionId baseContentHash
      workflowJobId workflowAttempt leaseOwner now with
    | error _ => rw [ha] at h; cases h
    | ok found =>
      rw [ha] at h
      cases h
      rfl

/-! ## What the transaction in flight relies on -/

variable {txn : Transaction} {row : PlatformVariantRevision} {checkpoint : Option Checkpoint}
  {request : Request}

/-- The check passed the job by: its fence is spent, or it is locked and was not live. -/
def Passed (variantId : UUID) (txn : Transaction) (job : WorkflowJob) : Prop :=
  Spent variantId job
    ∨ job ∈ txn.locked ∧ liveFenceOf variantId txn.observedAt job = none

theorem Passed.not_live (h : Passed variantId txn job) (hobserved : txn.observedAt ≤ now) :
    liveFenceOf variantId now job = none := by
  rcases h with hspent | ⟨-, hnone⟩
  · exact hspent.not_live
  cases hl : liveFenceOf variantId now job with
  | none => rfl
  | some fence =>
    rw [liveFenceOf_mono hobserved hl] at hnone
    cases hnone

/-- The job holds a fence whose base is the current revision and the parent. -/
def OwnFence (s : VariantState) (txn : Transaction) (row : PlatformVariantRevision)
    (job : WorkflowJob) : Prop :=
  job ∈ txn.locked ∧ ∃ fence base, txn.request.owner = some fence.owner
    ∧ fenceFromJob job = some fence ∧ fence.variantId = s.variant.id
    ∧ currentRevision s.revisions = some base ∧ base.id = fence.baseRevisionId
    ∧ base.contentHash = fence.baseContentHash ∧ row.parentRevisionId = some base.id

/-- What the transaction in flight knows of the jobs. -/
structure InFlightInv (S : GenerationServices) (s : VariantState) (txn : Transaction) : Prop where
  locked : ∀ job ∈ txn.locked, s.jobs.db.jobs.lookup job.id = some job
  observed : txn.observedAt ≤ s.clock
  revision : ∀ row checkpoint, txn.plan = .revision row checkpoint →
    ∀ job ∈ s.regenerationJobs, Passed s.variant.id txn job ∨ OwnFence s txn row job
  base : ∀ row checkpoint owner, txn.plan = .revision row checkpoint →
    txn.request.owner = some owner → ∃ job ∈ s.regenerationJobs, OwnFence s txn row job
  stores : ∀ row c, txn.plan = .revision row (some c) → NoFenceIn S.R c.result
  jobRow : ∀ row, txn.plan = .jobRow row → FenceRecord row
    ∧ (rawFence row = none
      ∨ ∀ job ∈ s.regenerationJobs, job.id ≠ row.id → Passed s.variant.id txn job)

structure FenceInv (S : GenerationServices) (s : VariantState) : Prop where
  records : s.jobs.db.jobs.All FenceRecord
  flight : ∀ txn, s.inFlight = some txn → InFlightInv S s txn

theorem FenceInv.record (h : FenceInv S s) (hjob : job ∈ s.regenerationJobs) : FenceRecord job :=
  h.records job (mem_regenerationJobs.mp hjob).1

/-! ## A transaction begins -/

theorem passed_of_allowed (hrecords : s.jobs.db.jobs.All FenceRecord)
    (hlocked : txn.locked = lockedRegenerationJobs s.jobs.db.jobs s.variant.id none)
    (hallowed : requireRevisionWriteAllowed s.jobs.db.jobs s.variant.id none none none
      txn.observedAt = .ok ()) (hjob : job ∈ s.regenerationJobs) : Passed s.variant.id txn job := by
  obtain ⟨hmem, htype⟩ := mem_regenerationJobs.mp hjob
  by_cases hin : job ∈ txn.locked
  · rw [hlocked] at hin
    exact .inr ⟨hlocked ▸ hin, requireRevisionWriteAllowed_none hallowed job hin⟩
  · rw [hlocked] at hin
    exact .inl (spent_of_not_locked hmem (hrecords job hmem) htype hin)

theorem own_of_allowed (hrecords : s.jobs.db.jobs.All FenceRecord)
    (hlocked : txn.locked = lockedRegenerationJobs s.jobs.db.jobs s.variant.id none)
    {owner : RegenerationFenceOwner} {base : PlatformVariantRevision}
    (howner : txn.request.owner = some owner)
    (hallowed : requireRevisionWriteAllowed s.jobs.db.jobs s.variant.id (some owner)
      (some base.id) (some base.contentHash) txn.observedAt = .ok ())
    (hcurrent : currentRevision s.revisions = some base)
    (hparent : row.parentRevisionId = some base.id) :
    (∀ job ∈ s.regenerationJobs, Passed s.variant.id txn job ∨ OwnFence s txn row job)
      ∧ ∃ job ∈ s.regenerationJobs, OwnFence s txn row job := by
  obtain ⟨fence, hlive, rfl, hbase, hhash⟩ := requireRevisionWriteAllowed_some hallowed
  have hown : ∀ job ∈ txn.locked, ∀ found,
      liveFenceOf s.variant.id txn.observedAt job = some found → OwnFence s txn row job := by
    intro job hjob found hfound
    have hmem : found ∈ (lockedRegenerationJobs s.jobs.db.jobs s.variant.id none).filterMap
        (liveFenceOf s.variant.id txn.observedAt) :=
      mem_filterMap.mpr ⟨job, hlocked ▸ hjob, hfound⟩
    rw [hlive, mem_singleton] at hmem
    subst hmem
    obtain ⟨hf, hv, -⟩ := liveFenceOf_eq_some.mp hfound
    exact ⟨hjob, found, base, howner, hf, hv, hcurrent, hbase.symm, hhash.symm, hparent⟩
  constructor
  · intro job hjob
    obtain ⟨hmem, htype⟩ := mem_regenerationJobs.mp hjob
    by_cases hin : job ∈ txn.locked
    · cases hl : liveFenceOf s.variant.id txn.observedAt job with
      | none => exact .inl (.inr ⟨hin, hl⟩)
      | some found => exact .inr (hown job hin found hl)
    · rw [hlocked] at hin
      exact .inl (.inl (spent_of_not_locked hmem (hrecords job hmem) htype hin))
  · have hmem : fence ∈ (lockedRegenerationJobs s.jobs.db.jobs s.variant.id none).filterMap
        (liveFenceOf s.variant.id txn.observedAt) := by
      rw [hlive]
      exact mem_singleton_self fence
    obtain ⟨job, hjob, hfound⟩ := mem_filterMap.mp hmem
    obtain ⟨hrow, hkind⟩ := mem_filter.mp hjob
    have htype : job.jobType = regenerateJobType := by
      simp only [Bool.and_eq_true, decide_eq_true_eq] at hkind
      exact hkind.1.1.1
    exact ⟨job, mem_regenerationJobs.mpr ⟨hrow, htype⟩, hown job (hlocked ▸ hjob) fence hfound⟩

theorem locked_lookup {ownerJobId : Option UUID}
    (h : job ∈ lockedRegenerationJobs jobs variantId ownerJobId) : jobs.lookup job.id = some job :=
  lookup_of_mem (mem_filter.mp h).1

theorem PlannedRevision.allowed (h : PlannedRevision s now request row checkpoint) :
    (request.owner = none
        ∧ requireRevisionWriteAllowed s.jobs.db.jobs s.variant.id none none none now = .ok ())
      ∨ ∃ owner base, request.owner = some owner
        ∧ requireRevisionWriteAllowed s.jobs.db.jobs s.variant.id (some owner) (some base.id)
          (some base.contentHash) now = .ok ()
        ∧ currentRevision s.revisions = some base ∧ row.parentRevisionId = some base.id := by
  cases h with
  | edit hallowed | manual hallowed | pack hallowed => exact .inl ⟨rfl, hallowed⟩
  | regenerated hallowed hcurrent hparent hnumber =>
    exact .inr ⟨_, _, rfl, hallowed, hcurrent, hparent⟩

theorem PlannedRevision.stores {c : Checkpoint} (h : PlannedRevision s now request row (some c))
    (hstores : request.StoresNoFence R) : NoFenceIn R c.result := by
  cases h with
  | pack | regenerated => exact hstores

/-- **What a transaction found when it began.** -/
theorem inFlightInv_begin (hrecords : s.jobs.db.jobs.All FenceRecord)
    (h : s.begin S request now = .ok txn) (hnow : now ≤ s.clock)
    (hstores : request.StoresNoFence S.R) : InFlightInv S s txn := by
  obtain ⟨hrequest, rfl, hplans⟩ := begin_ok h
  rcases hplans with ⟨row, checkpoint, hplan, hlocked, hplanned⟩
    | ⟨_, _, _, workflowJobId, _, _, row, -, hplan, hlocked, hdispatch⟩
    | ⟨owner, -, hlocked, hplan⟩
  · have hfound : (∀ job ∈ s.regenerationJobs,
          Passed s.variant.id txn job ∨ OwnFence s txn row job)
        ∧ ∀ owner, txn.request.owner = some owner →
          ∃ job ∈ s.regenerationJobs, OwnFence s txn row job := by
      rw [hrequest]
      rcases hplanned.allowed with ⟨hnone, hallowed⟩ | ⟨owner, base, howner, hallowed, hcurrent,
        hparent⟩
      · refine ⟨fun job hjob => .inl (passed_of_allowed hrecords hlocked hallowed hjob), ?_⟩
        intro owner howner
        rw [hnone] at howner
        cases howner
      · rw [← hrequest] at howner
        obtain ⟨hall, hown⟩ := own_of_allowed hrecords hlocked howner hallowed hcurrent hparent
        exact ⟨hall, fun _ _ => hown⟩
    refine
      { locked := fun job hjob => locked_lookup (hlocked ▸ hjob)
        observed := hnow
        revision := ?_
        base := ?_
        stores := ?_
        jobRow := ?_ }
    · intro row' checkpoint' hsame
      rw [hplan] at hsame
      cases hsame
      exact hfound.1
    · intro row' checkpoint' owner hsame howner
      rw [hplan] at hsame
      cases hsame
      exact hfound.2 owner howner
    · intro row' c hsame
      rw [hplan] at hsame
      cases hsame
      exact hplanned.stores hstores
    · intro row' hsame
      rw [hplan] at hsame
      cases hsame
  · obtain ⟨hrecord, -, hothers⟩ := acquire_ok hrecords (dispatch_ok hdispatch)
    refine
      { locked := fun job hjob => locked_lookup (hlocked ▸ hjob)
        observed := hnow
        revision := by intro row' _ hsame; rw [hplan] at hsame; cases hsame
        base := by intro row' _ _ hsame; rw [hplan] at hsame; cases hsame
        stores := by intro row' _ hsame; rw [hplan] at hsame; cases hsame
        jobRow := ?_ }
    intro row' hsame
    rw [hplan] at hsame
    cases hsame
    refine ⟨hrecord, Or.inr fun job hjob hne => ?_⟩
    obtain ⟨hmem, htype⟩ := mem_regenerationJobs.mp hjob
    by_cases hin : job ∈ txn.locked
    · exact .inr ⟨hin, hothers job (hlocked ▸ hin) hne⟩
    rw [hlocked] at hin
    exact .inl (spent_of_not_locked hmem (hrecords job hmem) htype hin)
  · refine
      { locked := fun job hjob => locked_lookup (hlocked ▸ hjob)
        observed := hnow
        revision := ?_
        base := ?_
        stores := ?_
        jobRow := ?_ }
    · intro row' _ hsame
      rcases hplan with hplan | ⟨row, hplan, -⟩ <;> rw [hplan] at hsame <;> cases hsame
    · intro row' _ _ hsame
      rcases hplan with hplan | ⟨row, hplan, -⟩ <;> rw [hplan] at hsame <;> cases hsame
    · intro row' _ hsame
      rcases hplan with hplan | ⟨row, hplan, -⟩ <;> rw [hplan] at hsame <;> cases hsame
    · intro row' hsame
      rcases hplan with hplan | ⟨row, hplan, hclear⟩
      · rw [hplan] at hsame
        cases hsame
      · rw [hplan] at hsame
        cases hsame
        have hnone := (clear_some hclear).1
        exact ⟨fenceRecord_of_none hnone, Or.inl hnone⟩

/-! ## Job calls go by -/

theorem regenerationJob_before {s' : VariantState} (hcall : JobCall S s op)
    (hs : s'.jobs = s.jobs.step S.R op) (hjob : job' ∈ s'.regenerationJobs) : rawFence job' = none
      ∨ ∃ job ∈ s.regenerationJobs, job'.id = job.id ∧ RowAfter S.R op job job'
        ∧ StoresNoFence S.R job op := by
  obtain ⟨hmem, htype⟩ := mem_regenerationJobs.mp hjob
  rw [hs] at hmem
  rcases World.step_row (lookup_of_mem hmem) with ⟨job, hl, hafter⟩
    | ⟨-, args, available, at', -, hrow⟩
  · have hold := mem_of_lookup hl
    refine .inr ⟨job, mem_regenerationJobs.mpr ⟨hold, ?_⟩, (lookup_id hl).symm, hafter,
      hcall.stores job hold⟩
    rcases hafter with rfl | hwrite
    · exact htype
    · exact hwrite.jobType_eq.symm.trans htype
  · left
    rw [hrow]
    rfl

theorem fenceInv_job (h : FenceInv S s) (hcall : JobCall S s op) :
    FenceInv S (s.next S (.job op)) := by
  have hlookup : ∀ txn, s.inFlight = some txn → ∀ job ∈ s.regenerationJobs, job ∈ txn.locked →
      ∀ job' ∈ (s.next S (.job op)).regenerationJobs, job'.id = job.id → job' = job := by
    intro txn htxn job _ hin job' hjob' hid
    have hkept := hcall.unlocked txn htxn job hin
    have hnew := lookup_of_mem (mem_regenerationJobs.mp hjob').1
    have hboth : some job' = some job := by
      rw [← hkept, ← hid]
      exact hnew.symm
    exact Option.some.inj hboth
  have hpassed : ∀ txn, s.inFlight = some txn →
      ∀ job' ∈ (s.next S (.job op)).regenerationJobs, ∀ job ∈ s.regenerationJobs,
      job'.id = job.id → RowAfter S.R op job job' → StoresNoFence S.R job op →
      Passed s.variant.id txn job → Passed s.variant.id txn job' := by
    intro txn htxn job' hjob' job hjob hid hafter hstores hp
    rcases hafter with rfl | hwrite
    · exact hp
    rcases hp with hspent | ⟨hin, hnone⟩
    · exact .inl (hspent.write (h.record hjob) hwrite (mem_regenerationJobs.mp hjob).2 hstores)
    rw [hlookup txn htxn job hjob hin job' hjob' hid]
    exact .inr ⟨hin, hnone⟩
  refine ⟨?_, fun txn htxn => ?_⟩
  · intro job' hmem
    rcases World.step_row (lookup_of_mem hmem) with ⟨job, hl, hafter⟩
      | ⟨-, args, available, at', -, hrow⟩
    · have hold := mem_of_lookup hl
      rcases hafter with rfl | hwrite
      · exact h.records job' hold
      · exact (h.records job hold).write hwrite (hcall.stores job hold)
    · rw [hrow]
      exact fenceRecord_of_none rfl
  · have hflight := h.flight txn htxn
    refine
      { locked := hcall.unlocked txn htxn
        observed := hflight.observed
        revision := ?_
        base := ?_
        stores := hflight.stores
        jobRow := ?_ }
    · intro row checkpoint hplan job' hjob'
      rcases regenerationJob_before hcall rfl hjob' with hnone | ⟨job, hjob, hid, hafter, hstores⟩
      · exact .inl (.inl (spent_of_none hnone))
      rcases hflight.revision row checkpoint hplan job hjob with hp | hown
      · exact .inl (hpassed txn htxn job' hjob' job hjob hid hafter hstores hp)
      rw [hlookup txn htxn job hjob hown.1 job' hjob' hid]
      exact .inr hown
    · intro row checkpoint owner hplan howner
      obtain ⟨job, hjob, hown⟩ := hflight.base row checkpoint owner hplan howner
      have hkept := mem_of_lookup (hcall.unlocked txn htxn job hown.1)
      exact ⟨job, mem_regenerationJobs.mpr ⟨hkept, (mem_regenerationJobs.mp hjob).2⟩, hown⟩
    · intro row hplan
      obtain ⟨hrecord, hnone | hothers⟩ := hflight.jobRow row hplan
      · exact ⟨hrecord, Or.inl hnone⟩
      refine ⟨hrecord, Or.inr fun job' hjob' hne => ?_⟩
      rcases regenerationJob_before hcall rfl hjob' with hnone | ⟨job, hjob, hid, hafter, hstores⟩
      · exact .inl (spent_of_none hnone)
      exact hpassed txn htxn job' hjob' job hjob hid hafter hstores
        (hothers job hjob (hid ▸ hne))

/-! ## Commits -/

theorem commit_jobs (h : InFlightInv S s txn) (now : Datetime) :
    (s.commit S txn.plan now).jobs.db.jobs = s.jobs.db.jobs ∨ (∃ row, txn.plan = .jobRow row
        ∧ (s.commit S txn.plan now).jobs.db.jobs = s.jobs.db.jobs.put row)
      ∨ ∃ (job : WorkflowJob) (c : Checkpoint), s.jobs.db.jobs.lookup job.id = some job
        ∧ NoFenceIn S.R c.result
        ∧ RowWrite S.R (.checkpoint job.id c.workerId none (some c.result) now) job
          (job.checkpointed S.R none (some c.result)) ∧ (s.commit S txn.plan now).jobs.db.jobs
          = s.jobs.db.jobs.put (job.checkpointed S.R none (some c.result)) := by
  rcases commit_cases S s txn.plan now with hc | ⟨row, hplan, hc⟩
    | ⟨row, checkpoint, db', hplan, -, hdb, hc⟩
  · rw [hc]
    exact .inl rfl
  · rw [hc]
    exact .inr (.inl ⟨row, hplan, rfl⟩)
  · rw [hc]
    rcases hdb with rfl | ⟨c, rfl, hcheck⟩
    · exact .inl rfl
    obtain ⟨job, howned, rfl⟩ := checkpointJob_ok hcheck
    obtain ⟨hl, ha⟩ := ownedJob_eq_some howned
    have hid := lookup_id hl
    have hl' : s.jobs.db.jobs.lookup job.id = some job := by rw [hid]; exact hl
    exact .inr (.inr ⟨job, c, hl', h.stores row c hplan,
      .checkpointed c.workerId none (some c.result) now ha, rfl⟩)

theorem commit_idle (S : GenerationServices) (s : VariantState) (plan : Plan) (now : Datetime) :
    (s.commit S plan now).inFlight = none := by
  rcases commit_cases S s plan now with hc | ⟨_, -, hc⟩ | ⟨_, _, _, -, -, -, hc⟩ <;> rw [hc]

theorem commit_frame (S : GenerationServices) (s : VariantState) (plan : Plan) (now : Datetime) :
    (s.commit S plan now).variant = s.variant ∧ (s.commit S plan now).clock = s.clock := by
  rcases commit_cases S s plan now with hc | ⟨_, -, hc⟩ | ⟨_, _, _, -, -, -, hc⟩ <;> rw [hc] <;>
    exact ⟨rfl, rfl⟩

theorem fenceInv_idle (hrecords : s.jobs.db.jobs.All FenceRecord) (hidle : s.inFlight = none) :
    FenceInv S s := by
  refine ⟨hrecords, fun txn htxn => ?_⟩
  rw [hidle] at htxn
  cases htxn

theorem fenceInv_step (h : FenceInv S s) (hstep : (variantSystem S).step s e s') :
    FenceInv S s' := by
  obtain ⟨hopen, rfl⟩ := hstep
  cases e with
  | begin request now =>
    rw [VariantState.next]
    cases hb : s.begin S request now with
    | error _ => exact h
    | ok txn =>
      have hinv := inFlightInv_begin h.records hb hopen.2.1 hopen.2.2
      refine ⟨h.records, fun other hother => ?_⟩
      cases hother
      exact ⟨hinv.locked, hinv.observed, hinv.revision, hinv.base, hinv.stores, hinv.jobRow⟩
  | commit now =>
    obtain ⟨txn, htxn⟩ := isSome_iff_exists.mp hopen.1
    have hflight := h.flight txn htxn
    have hnext : s.next S (.commit now) = s.commit S txn.plan now := by
      rw [VariantState.next, htxn]
    rw [hnext]
    refine fenceInv_idle ?_ (commit_idle S s txn.plan now)
    rcases commit_jobs hflight now with hc | ⟨row, hplan, hc⟩
      | ⟨job, c, hl, hnone, hwrite, hc⟩
    · rw [hc]
      exact h.records
    · rw [hc]
      exact h.records.put (hflight.jobRow row hplan).1
    · rw [hc]
      exact h.records.put ((h.records.lookup hl).write hwrite fun _ _ => hnone)
  | abort => exact fenceInv_idle h.records rfl
  | job op => exact fenceInv_job h hopen
  | tick now =>
    refine ⟨h.records, fun txn htxn => ?_⟩
    have hflight := h.flight txn htxn
    exact ⟨hflight.locked, Int.le_trans hflight.observed hopen, hflight.revision, hflight.base,
      hflight.stores, hflight.jobRow⟩

theorem fenceInv_reachable (h : (variantSystem S).Reachable s) : FenceInv S s := by
  refine System.invariant (P := FenceInv S) ?_ ?_ h
  · rintro s ⟨-, hjobs, hflight⟩
    refine fenceInv_idle ?_ hflight
    rw [hjobs]
    exact all_empty
  · intro s e s' _ hinv hstep
    exact fenceInv_step hinv hstep

/-! ## At most one live fence -/

theorem atMostOne_of_before (h : s.AtMostOneLive) (hbefore : ∀ x' ∈ s'.regenerationJobs,
      (liveFenceOf s'.variant.id s'.clock x').isSome = true → ∃ x ∈ s.regenerationJobs,
        x.id = x'.id ∧ (liveFenceOf s.variant.id s.clock x).isSome = true) : s'.AtMostOneLive := by
  intro x' hx' y' hy' hxlive hylive
  obtain ⟨x, hx, hxid, hxl⟩ := hbefore x' hx' hxlive
  obtain ⟨y, hy, hyid, hyl⟩ := hbefore y' hy' hylive
  have hsame : x = y := h x hx y hy hxl hyl
  have hid : x'.id = y'.id := by rw [← hxid, ← hyid, hsame]
  exact row_unique (mem_regenerationJobs.mp hx').1 (mem_regenerationJobs.mp hy').1 hid

theorem atMostOne_commit (hinv : FenceInv S s) (h : s.AtMostOneLive)
    (htxn : s.inFlight = some txn) : (s.commit S txn.plan now).AtMostOneLive := by
  have hflight := hinv.flight txn htxn
  obtain ⟨hvariant, hclock⟩ := commit_frame S s txn.plan now
  rcases commit_jobs hflight now with hc | ⟨row, hplan, hc⟩
    | ⟨job, c, hl, hnone, hwrite, hc⟩
  · refine atMostOne_of_before h fun x hx hlive => ⟨x, ?_, rfl, ?_⟩
    · rw [VariantState.regenerationJobs, hc] at hx
      exact hx
    · rw [hvariant, hclock] at hlive
      exact hlive
  · obtain ⟨-, hnone | hothers⟩ := hflight.jobRow row hplan
    · -- the fence was cleared
      refine atMostOne_of_before h fun x hx hlive => ?_
      rw [hvariant, hclock] at hlive
      obtain ⟨hmem, htype⟩ := mem_regenerationJobs.mp hx
      rw [hc] at hmem
      rcases mem_put hmem with ⟨rfl, -⟩ | ⟨hold, -⟩
      · rw [(spent_of_none hnone).not_live] at hlive
        cases hlive
      · exact ⟨x, mem_regenerationJobs.mpr ⟨hold, htype⟩, rfl, hlive⟩
    · -- the fence was acquired: every other job's was passed by
      intro x hx y hy hxlive hylive
      rw [hvariant, hclock] at hxlive hylive
      obtain ⟨hxmem, hxtype⟩ := mem_regenerationJobs.mp hx
      obtain ⟨hymem, hytype⟩ := mem_regenerationJobs.mp hy
      rw [hc] at hxmem hymem
      have hother : ∀ z, z ∈ s.jobs.db.jobs.rows → z.jobType = regenerateJobType →
          z.id ≠ row.id → liveFenceOf s.variant.id s.clock z = none := by
        intro z hz htype hne
        exact (hothers z (mem_regenerationJobs.mpr ⟨hz, htype⟩) hne).not_live hflight.observed
      rcases mem_put hxmem with ⟨rfl, -⟩ | ⟨hxold, hxne⟩
      · rcases mem_put hymem with ⟨rfl, -⟩ | ⟨hyold, hyne⟩
        · rfl
        rw [hother y hyold hytype hyne] at hylive
        cases hylive
      · rw [hother x hxold hxtype hxne] at hxlive
        cases hxlive
  · refine atMostOne_of_before h fun x hx hlive => ?_
    rw [hvariant, hclock] at hlive
    obtain ⟨hmem, htype⟩ := mem_regenerationJobs.mp hx
    rw [hc] at hmem
    rcases mem_put hmem with ⟨rfl, -⟩ | ⟨hold, -⟩
    · have hraw : rawFence (job.checkpointed S.R none (some c.result)) = none := hnone
      rw [(spent_of_none hraw).not_live] at hlive
      cases hlive
    · exact ⟨x, mem_regenerationJobs.mpr ⟨hold, htype⟩, rfl, hlive⟩

theorem atMostOne_step (hinv : FenceInv S s) (h : s.AtMostOneLive) (hrenews : RenewsInTime s e)
    (hstep : (variantSystem S).step s e s') : s'.AtMostOneLive := by
  obtain ⟨hopen, rfl⟩ := hstep
  cases e with
  | begin request now =>
    rw [VariantState.next]
    cases s.begin S request now <;> exact h
  | commit now =>
    obtain ⟨txn, htxn⟩ := isSome_iff_exists.mp hopen.1
    have hnext : s.next S (.commit now) = s.commit S txn.plan now := by
      rw [VariantState.next, htxn]
    rw [hnext]
    exact atMostOne_commit hinv h htxn
  | abort => exact h
  | job op =>
    refine atMostOne_of_before h fun x' hx' hlive => ?_
    rcases regenerationJob_before hopen rfl hx' with hnone | ⟨x, hx, hid, hafter, hstores⟩
    · rw [(spent_of_none hnone).not_live] at hlive
      cases hlive
    · refine ⟨x, hx, hid.symm, ?_⟩
      rcases hafter with rfl | hwrite
      · exact hlive
      obtain ⟨fence, hfence⟩ := isSome_iff_exists.mp hlive
      rcases live_before (hinv.record hx) hwrite (mem_regenerationJobs.mp hx).2 hstores hfence
        with hbefore | ⟨_, _, _, _, _, expiresAt, rfl, hrun, he, hexpired⟩
      · exact isSome_iff_exists.mpr ⟨fence, hbefore⟩
      have hl := lookup_of_mem (mem_regenerationJobs.mp hx).1
      have hfresh := hrenews x expiresAt hl hrun he
      exact absurd hfresh (Int.not_lt.mpr hexpired)
  | tick now =>
    refine atMostOne_of_before h fun x hx hlive => ⟨x, hx, rfl, ?_⟩
    obtain ⟨fence, hfence⟩ := isSome_iff_exists.mp hlive
    exact isSome_iff_exists.mpr ⟨fence, liveFenceOf_mono hopen hfence⟩

theorem atMostOne_reachable (h : ((variantSystem S).restrict RenewsInTime).Reachable s) :
    s.AtMostOneLive := by
  refine System.invariant (P := VariantState.AtMostOneLive) ?_ ?_ h
  · rintro s ⟨-, hjobs, -⟩ x hx
    have hmem := (mem_regenerationJobs.mp hx).1
    rw [hjobs] at hmem
    cases hmem
  · rintro s e s' hreach hone ⟨hrenews, hstep⟩
    exact atMostOne_step (fenceInv_reachable hreach.of_restrict) hone hrenews hstep

/-! ## Exclusion -/

/-- While a fence is live no revision is committed but its owner's, and a revision
committed under a fence is the child of the fence's base. -/
structure FencedCommit (s : VariantState) (row : PlatformVariantRevision) : Prop where
  owner : ∀ job ∈ s.regenerationJobs, ∀ fence,
    liveFenceOf s.variant.id s.clock job = some fence →
    ∃ txn, s.inFlight = some txn ∧ txn.request.owner = some fence.owner
  base : ∀ txn owner, s.inFlight = some txn → txn.request.owner = some owner →
    ∃ job ∈ s.regenerationJobs, ∃ fence base, fenceFromJob job = some fence
      ∧ fence.owner = owner ∧ fence.variantId = s.variant.id
      ∧ currentRevision s.revisions = some base ∧ base.id = fence.baseRevisionId
      ∧ base.contentHash = fence.baseContentHash ∧ row.parentRevisionId = some base.id

theorem fencedCommit_of_inv (hinv : FenceInv S s) (htxn : s.inFlight = some txn)
    (hplan : txn.plan = .revision row checkpoint) : FencedCommit s row := by
  have hflight := hinv.flight txn htxn
  constructor
  · intro job hjob fence hlive
    rcases hflight.revision row checkpoint hplan job hjob with hp | ⟨-, found, base, howner, hf, -⟩
    · rw [hp.not_live hflight.observed] at hlive
      cases hlive
    · have hsame : some found = some fence := hf.symm.trans (liveFenceOf_eq_some.mp hlive).1
      cases hsame
      exact ⟨txn, htxn, howner⟩
  · intro other owner hother howner
    rw [htxn] at hother
    cases hother
    obtain ⟨job, hjob, -, fence, base, hown, hf, hv, hcurrent, hid, hhash, hparent⟩ :=
      hflight.base row checkpoint owner hplan howner
    rw [howner] at hown
    exact ⟨job, hjob, fence, base, hf, (Option.some.inj hown).symm, hv, hcurrent, hid, hhash,
      hparent⟩

/-- **The regeneration fence excludes other writers.** At most one fence is live in
every run whose heartbeats are in time; in every run at all, a revision is committed
only by the owner of a live fence, and under a fence only on its base. -/
theorem regeneration_fence_excludes (S : GenerationServices) :
    (∀ s, ((variantSystem S).restrict RenewsInTime).Reachable s → s.AtMostOneLive)
      ∧ ∀ s, (variantSystem S).Reachable s → ∀ e s' row, (variantSystem S).step s e s' →
        row ∈ s'.revisions.rows → row ∉ s.revisions.rows → FencedCommit s row := by
  refine ⟨fun s h => atMostOne_reachable h, ?_⟩
  intro s hreach e s' row hstep hnew hold
  obtain ⟨now, txn, checkpoint, -, htxn, hplan⟩ := added_revision hstep hnew hold
  exact fencedCommit_of_inv (fenceInv_reachable hreach) htxn hplan

/-! ## A lease that comes back -/

/-- A regeneration of revision 101 is enqueued, claimed for 100 seconds and dispatched. -/
def reserve (jobId : UUID) (workerId : String) (now : Datetime) : List VariantEvent :=
  [.job (.enqueue ⟨"content_pack.regenerate", .empty, "regenerate:" ++ workerId, .manual, 0, none,
      3, true, none, none⟩ true jobId now),
    .job (.claim workerId 100 none [] now),
    .begin (.dispatchRegeneration .telegram 101
      "7d4810a786edd0752b2d52792ed6cc00c3d0002e0bdebe200ed7114fd0ebed6b" jobId 1 (some workerId))
      now,
    .commit now]

/-- The regeneration of job 11 comes back with its text. -/
def persistChild : List VariantEvent :=
  [.begin (.regeneration
      ⟨1, 101, "7d4810a786edd0752b2d52792ed6cc00c3d0002e0bdebe200ed7114fd0ebed6b"⟩
      (some ⟨11, 1, "a"⟩)
      ⟨21, fun _ => .ok (bodyMaterial "First edit"),
        ⟨11, "a", packJobResult 30 ["telegram"] [(1, 102)]⟩⟩ 102) 0]

/-- The steps of a reservation are open while the lock is free and the clock stands at
the reading. -/
theorem reserve_open {jobId : UUID} {workerId : String} (hclock : s.clock = now)
    (hidle : s.inFlight = none)
    (hbegun : ((reserve jobId workerId now).take 3).foldl (VariantState.next editServices) s
      |>.inFlight.isSome) : System.Along (fun s e => RenewsInTime s e ∧ Enabled editServices s e)
      (VariantState.next editServices) s (reserve jobId workerId now) := by
  have hfree : s.inFlight.isNone = true := by rw [hidle]; rfl
  have hreading : ∀ t, some now = some t → t ≤ s.clock := by
    intro t ht
    cases ht
    exact Int.le_of_eq hclock.symm
  have hlast : (((reserve jobId workerId now).take 3).foldl
      (VariantState.next editServices) s).clock = s.clock := by
    simp only [reserve, take_succ_cons, take_zero, foldl_cons, foldl_nil]
    rw [VariantState.next]
    split <;> rfl
  refine ⟨⟨trivial, jobCall_idle hfree hreading fun _ => trivial⟩,
    ⟨trivial, jobCall_idle hfree hreading fun _ => trivial⟩,
    ⟨trivial, hidle, Int.le_of_eq hclock.symm, trivial⟩,
    ⟨trivial, hbegun, ?_⟩, trivial⟩
  exact Int.le_of_eq (hclock.symm.trans hlast.symm)

theorem commit_next (S : GenerationServices) (s : VariantState) (now : Datetime) :
    (s.next S (.commit now)).inFlight = none ∧ (s.next S (.commit now)).clock = s.clock := by
  rw [VariantState.next]
  cases htxn : s.inFlight with
  | none => exact ⟨htxn, rfl⟩
  | some txn => exact ⟨commit_idle S s txn.plan now, (commit_frame S s txn.plan now).2⟩

theorem reserve_end (jobId : UUID) (workerId : String) (now : Datetime) (s : VariantState) :
    ((reserve jobId workerId now).foldl (VariantState.next editServices) s).inFlight = none
      ∧ ((reserve jobId workerId now).foldl (VariantState.next editServices) s).clock
        = s.clock := by
  obtain ⟨hidle, hclock⟩ := commit_next editServices
    (((reserve jobId workerId now).take 3).foldl (VariantState.next editServices) s) now
  refine ⟨hidle, hclock.trans ?_⟩
  simp only [reserve, take_succ_cons, take_zero, foldl_cons, foldl_nil]
  rw [VariantState.next]
  split <;> rfl

theorem generateFirst_renews : System.Along
    (fun s e => RenewsInTime s e ∧ Enabled editServices s e) (VariantState.next editServices)
    freshVariant generateFirst :=
  let h := generateFirst_open
  ⟨⟨trivial, h.1.2⟩, ⟨trivial, h.2.1.2⟩, ⟨trivial, h.2.2.1.2⟩, ⟨trivial, h.2.2.2.1.2⟩, trivial⟩

/-- The variant with its first revision and job 11's fence. -/
def reserved : VariantState :=
  (reserve 11 "a" 0).foldl (VariantState.next editServices) (afterEvents generateFirst)

theorem reserved_run : reserved = afterEvents (generateFirst ++ reserve 11 "a" 0) :=
  foldl_append.symm

theorem reserved_open : System.Along
    (fun s e => RenewsInTime s e ∧ Enabled editServices s e) (VariantState.next editServices)
    freshVariant (generateFirst ++ reserve 11 "a" 0) := by
  have hfirst := commit_next editServices (afterEvents (generateFirst.take 3)) 0
  exact generateFirst_renews.append
    (reserve_open (hfirst.2.trans (by decide +kernel)) hfirst.1 (by decide +kernel))

theorem reserved_frame : reserved.inFlight = none ∧ reserved.clock = 0 := by
  have hfirst := commit_next editServices (afterEvents (generateFirst.take 3)) 0
  obtain ⟨hidle, hclock⟩ := reserve_end 11 "a" 0 (afterEvents generateFirst)
  exact ⟨hidle, hclock.trans (hfirst.2.trans (by decide +kernel))⟩

theorem regeneration_fence_excludes_reserved : reserved.AtMostOneLive
      ∧ ∃ row, FencedCommit (persistChild.foldl (VariantState.next editServices) reserved) row := by
  have hreach : ((variantSystem editServices).restrict RenewsInTime).Reachable reserved :=
    reserved_run ▸ reachable_of_along ⟨rfl, rfl, rfl⟩ reserved_open
  refine ⟨(regeneration_fence_excludes editServices).1 _ hreach, ?_⟩
  let s := persistChild.foldl (VariantState.next editServices) reserved
  obtain ⟨hidle, hclock⟩ := reserved_frame
  have hbegin : (variantSystem editServices).step reserved persistChild[0] s :=
    ⟨⟨hidle, Int.le_of_eq hclock.symm, packJobResult_noFence 30 ["telegram"] [(1, 102)]⟩, rfl⟩
  have hrun : s.inFlight.isSome = true ∧ 0 ≤ s.clock
      ∧ ∃ row ∈ (s.next editServices (.commit 0)).revisions.rows, row ∉ s.revisions.rows := by
    decide +kernel
  obtain ⟨hbegun, hlate, row, hmem, hold⟩ := hrun
  exact ⟨row, (regeneration_fence_excludes editServices).2 s (hreach.of_restrict.tail hbegin)
    (.commit 0) _ row ⟨⟨hbegun, hlate⟩, rfl⟩ hmem hold⟩

/-- The lease of job 11 runs out after 100 seconds, and a second later job 12 reserves
the variant. A heartbeat of job 11 that read the clock at 99 seconds comes last. -/
def takenOver : VariantState :=
  (reserve 12 "b" 101000000).foldl (VariantState.next editServices)
    (reserved.next editServices (.tick 101000000))

def staleHeartbeat : VariantEvent := .job (.heartbeat 11 "a" 300 none none 99000000)

theorem takenOver_reachable : (variantSystem editServices).Reachable takenOver := by
  have hreach : (variantSystem editServices).Reachable reserved :=
    (reserved_run ▸ reachable_of_along ⟨rfl, rfl, rfl⟩ reserved_open :
      ((variantSystem editServices).restrict RenewsInTime).Reachable reserved).of_restrict
  have htick : (variantSystem editServices).step reserved (.tick 101000000)
      (reserved.next editServices (.tick 101000000)) := by
    refine ⟨?_, rfl⟩
    show reserved.clock ≤ 101000000
    rw [reserved_frame.2]
    decide
  have hopen : System.Along (fun s e => RenewsInTime s e ∧ Enabled editServices s e)
      (VariantState.next editServices) (reserved.next editServices (.tick 101000000))
      (reserve 12 "b" 101000000) :=
    reserve_open rfl reserved_frame.1 (by decide +kernel)
  exact System.reachable_along (S := variantSystem editServices) (f := VariantState.next editServices)
    (fun s e h => ⟨h.2, rfl⟩) (hreach.tail htick) hopen

/-- A heartbeat that acts on an old reading of the clock revives a fence after another
worker has acquired one. -/
theorem two_live_fences :
    ¬ ∀ (S : GenerationServices) (s : VariantState), (variantSystem S).Reachable s →
      s.AtMostOneLive ∧ ∀ e s' row, (variantSystem S).step s e s' →
        row ∈ s'.revisions.rows → row ∉ s.revisions.rows → FencedCommit s row := by
  intro hall
  let last := takenOver.next editServices staleHeartbeat
  obtain ⟨hidle, hclock⟩ := reserve_end 12 "b" 101000000
    (reserved.next editServices (.tick 101000000))
  have hlast : (variantSystem editServices).step takenOver staleHeartbeat last := by
    refine ⟨jobCall_idle (isNone_iff_eq_none.mpr hidle) ?_ fun _ => trivial, rfl⟩
    intro now h
    cases h
    have hnow : takenOver.clock = 101000000 := hclock
    rw [hnow]
    decide
  have hlive : last.regenerationJobs.map
      (fun job => (job.id, (liveFenceOf last.variant.id last.clock job).isSome))
        = [(12, true), (11, true)] := by decide +kernel
  obtain ⟨x, rest, hx, hxid, hrest⟩ := map_eq_cons_iff.mp hlive
  obtain ⟨y, rest', rfl, hyid, -⟩ := map_eq_cons_iff.mp hrest
  obtain ⟨hxid, hxlive⟩ := Prod.mk.inj hxid
  obtain ⟨hyid, hylive⟩ := Prod.mk.inj hyid
  have hone := (hall editServices _ (takenOver_reachable.tail hlast)).1
  have hsame := hone x (by rw [hx]; exact mem_cons_self) y
    (by rw [hx]; exact mem_cons_of_mem x mem_cons_self) hxlive hylive
  rw [hsame, hyid] at hxid
  exact absurd hxid (by decide)

end NewsCraft.Generation
