import NewsCraft.Core.UuidText
import NewsCraft.Jobs.RowWrites
import NewsCraft.Lib.Dict

/-!
# The regeneration fence

A worker that regenerates a variant reserves it by an entry in its job's `result` that names
the variant, the base revision with its content hash and the worker's lease. The fence is
live while the job runs under that very lease, so it needs no clean-up.

The variant's row lock, under which every caller runs, belongs to the system in
`Generation.VariantSystem`.
-/

namespace NewsCraft.Generation

open Lib Jobs

def regenerationFenceResultKey : String := "_regeneration_fence"

def regenerateJobType : String := "content_pack.regenerate"

/-- A live regeneration lease owns the right to advance a variant. -/
structure RegenerationFenceConflict where
  message : String
  deriving DecidableEq

structure RegenerationFenceOwner where
  workflowJobId : UUID
  workflowAttempt : Int
  leaseOwner : String
  deriving DecidableEq

structure RegenerationFence where
  variantId : UUID
  baseRevisionId : UUID
  baseContentHash : String
  owner : RegenerationFenceOwner

/-- `re.fullmatch(r"[0-9a-f]{64}", text)`. -/
def isSha256 (text : String) : Bool :=
  text.toList.length = 64
    && text.toList.all fun c => (48 ≤ c.toNat && c.toNat ≤ 57) || (97 ≤ c.toNat && c.toNat ≤ 102)

/-! ## The entry in the job's result -/

/-- `str(value)` of a scalar. The text of a container is no identifier, digest or
worker name. -/
def scalarText : Json → Option String
  | .str s => some s
  | .int n => some (toString n)
  | .float text => some text
  | .bool b => some (if b then "True" else "False")
  | .null => some "None"
  | .arr _ | .obj _ => none

/-- `int(value)` of what can stand for an attempt number. -/
def scalarInt : Json → Option Int
  | .int n => some n
  | .bool b => some (if b then 1 else 0)
  | .str s => s.toInt?
  | .float _ | .null | .arr _ | .obj _ => none

/-- The entry `acquire_regeneration_fence` writes. -/
def fenceJson (fence : RegenerationFence) : Json :=
  .obj [("variant_id", .str (uuidStr fence.variantId)),
      ("base_revision_id", .str (uuidStr fence.baseRevisionId)),
      ("base_content_hash", .str fence.baseContentHash),
      ("workflow_job_id", .str (uuidStr fence.owner.workflowJobId)),
      ("workflow_attempt", .int fence.owner.workflowAttempt),
      ("lease_owner", .str fence.owner.leaseOwner)]

/-- The fields of an entry; `none` where one is missing or unreadable. -/
def readFence (raw : Json) : Option RegenerationFence := do
  let variantId ← (raw.get? "variant_id").bind scalarText >>= parseUuid
  let baseRevisionId ← (raw.get? "base_revision_id").bind scalarText >>= parseUuid
  let baseContentHash ← (raw.get? "base_content_hash").bind scalarText
  let workflowJobId ← (raw.get? "workflow_job_id").bind scalarText >>= parseUuid
  let workflowAttempt ← (raw.get? "workflow_attempt").bind scalarInt
  let leaseOwner ← (raw.get? "lease_owner").bind scalarText
  some ⟨variantId, baseRevisionId, baseContentHash, ⟨workflowJobId, workflowAttempt, leaseOwner⟩⟩

/-- `dict(job.result or {}).get(REGENERATION_FENCE_RESULT_KEY)`. -/
def rawFence (job : WorkflowJob) : Option Json := job.result.get? regenerationFenceResultKey

/-- `_fence_from_job`. -/
def fenceFromJob (job : WorkflowJob) : Option RegenerationFence :=
  match (rawFence job).filter Json.isObj with
  | none => none
  | some raw =>
    match readFence raw with
    | none => none
    | some fence =>
      if isSha256 fence.baseContentHash && fence.owner.workflowJobId = job.id then some fence
      else none

/-- `public_job_result`. -/
def publicJobResult : Json → Json
  | .obj fields => .obj (fields.filter fun field => field.1 ≠ regenerationFenceResultKey)
  | _ => Json.empty

/-- `{**dict(result or {}), REGENERATION_FENCE_RESULT_KEY: fence}`. -/
def resultWithFence (result : Json) (fence : RegenerationFence) : Json :=
  match result with
  | .obj fields => .obj (Dict.put fields regenerationFenceResultKey (fenceJson fence))
  | _ => .obj [(regenerationFenceResultKey, fenceJson fence)]

/-! ## Liveness -/

/-- `_is_live`. -/
def isLive (job : WorkflowJob) (fence : RegenerationFence) (now : Datetime) : Bool :=
  job.status = .running && job.attemptCount = fence.owner.workflowAttempt
    && job.leaseOwner = some fence.owner.leaseOwner
    && match job.leaseExpiresAt with
      | none => false
      | some expiresAt => decide (expiresAt > now)

/-- `_has_live_lease`. -/
def hasLiveLease (job : WorkflowJob) (now : Datetime) : Bool :=
  job.status = .running && decide (job.attemptCount > 0) && (match job.leaseOwner with
      | none => false
      | some owner => !isBlank owner)
    && match job.leaseExpiresAt with
      | none => false
      | some expiresAt => decide (expiresAt > now)

/-- `_raw_fence_targets_variant`. -/
def rawFenceTargetsVariant (job : WorkflowJob) (variantId : UUID) : Bool :=
  match (rawFence job).filter Json.isObj with
  | none => false
  | some raw =>
    match ((raw.get? "variant_id").getD .null |> scalarText).bind parseUuid with
    | none => false
    | some found => found = variantId

/-- `func.lower(result['_regeneration_fence']['variant_id'].astext) == str(variant_id)`.
Only a string has the text of an identifier. -/
def storedFenceNames (variantId : UUID) (job : WorkflowJob) : Bool :=
  match (rawFence job).bind fun raw => raw.get? "variant_id" with
  | some (.str text) => String.ofList (text.toList.map Char.toLower) = uuidStr variantId
  | _ => false

/-- `_locked_regeneration_jobs`: the running regeneration jobs whose stored fence names
the variant, and the owner's job. They are locked in the order of their ids, so that two
transactions lock them in one order; what is read from them does not depend on it. -/
def lockedRegenerationJobs (jobs : Table WorkflowJob) (variantId : UUID)
    (ownerJobId : Option UUID) : List WorkflowJob :=
  jobs.rows.filter fun job =>
    job.jobType = regenerateJobType && job.status = .running && job.leaseExpiresAt.isSome
      && (ownerJobId = some job.id || storedFenceNames variantId job)

/-- An unreadable fence for the variant under a live lease, which fails closed. -/
def malformedLive (variantId : UUID) (now : Datetime) (job : WorkflowJob) : Bool :=
  (fenceFromJob job).isNone && rawFenceTargetsVariant job variantId && hasLiveLease job now

/-- The fence of the job, if it is one for the variant and live. -/
def liveFenceOf (variantId : UUID) (now : Datetime) (job : WorkflowJob) :
    Option RegenerationFence :=
  (fenceFromJob job).filter fun fence => fence.variantId = variantId && isLive job fence now

/-! ## Acquire, require, clear -/

/-- What a job in the way of an acquisition raises. -/
def acquireConflict (fence : RegenerationFence) (now : Datetime) (job : WorkflowJob) :
    Option RegenerationFenceConflict :=
  if malformedLive fence.variantId now job then
    some ⟨"Live regeneration fence is invalid"⟩
  else
    match liveFenceOf fence.variantId now job with
    | none => none
    | some held =>
      if held.owner ≠ fence.owner ∨ held.baseRevisionId ≠ fence.baseRevisionId
          ∨ held.baseContentHash ≠ fence.baseContentHash then
        some ⟨"Variant regeneration is already in progress"⟩
      else
        none

/-- `acquire_regeneration_fence`: the owner's row with the fence in its result. -/
def acquireRegenerationFence (jobs : Table WorkflowJob) (variantId baseRevisionId : UUID)
    (baseContentHash : String) (workflowJobId : UUID) (workflowAttempt : Int)
    (leaseOwner : Option String) (now : Datetime) :
    Except RegenerationFenceConflict WorkflowJob :=
  match leaseOwner with
  | none => .error ⟨"Regeneration fence owner or base is invalid"⟩
  | some leaseOwner =>
    if workflowAttempt ≤ 0 ∨ isBlank leaseOwner ∨ !isSha256 baseContentHash then
      .error ⟨"Regeneration fence owner or base is invalid"⟩
    else
      let locked := lockedRegenerationJobs jobs variantId (some workflowJobId)
      match locked.find? fun job => job.id = workflowJobId with
      | none => .error ⟨"Regeneration worker lease is no longer active"⟩
      | some ownerJob =>
        let fence : RegenerationFence :=
          ⟨variantId, baseRevisionId, baseContentHash, ⟨workflowJobId, workflowAttempt, leaseOwner⟩⟩
        if !isLive ownerJob fence now then
          .error ⟨"Regeneration worker lease is no longer active"⟩
        else
          match locked.findSome? (acquireConflict fence now) with
          | some conflict => .error conflict
          | none => .ok { ownerJob with result := resultWithFence ownerJob.result fence }

/-- `require_revision_write_allowed`. -/
def requireRevisionWriteAllowed (jobs : Table WorkflowJob) (variantId : UUID)
    (owner : Option RegenerationFenceOwner) (expectedBaseRevisionId : Option UUID)
    (expectedBaseContentHash : Option String) (now : Datetime) :
    Except RegenerationFenceConflict Unit :=
  let locked := lockedRegenerationJobs jobs variantId none
  if locked.any (malformedLive variantId now) then
    .error ⟨"Live regeneration fence is invalid"⟩
  else
    let live := locked.filterMap (liveFenceOf variantId now)
    match owner, live with
    | none, [] => .ok ()
    | none, _ :: _ => .error ⟨"Variant regeneration is in progress"⟩
    | some owner, [fence] =>
      if fence.owner ≠ owner ∨ some fence.baseRevisionId ≠ expectedBaseRevisionId
          ∨ some fence.baseContentHash ≠ expectedBaseContentHash then
        .error ⟨"Regeneration fence ownership was lost"⟩
      else
        .ok ()
    | some _, _ => .error ⟨"Regeneration fence ownership was lost"⟩

/-- `clear_regeneration_fence`: the row the owner's fence is removed from. -/
def clearRegenerationFence (jobs : Table WorkflowJob) (variantId : UUID)
    (owner : RegenerationFenceOwner) : Option WorkflowJob :=
  (lockedRegenerationJobs jobs variantId (some owner.workflowJobId)).findSome? fun job =>
    match fenceFromJob job with
    | none => none
    | some fence =>
      if fence.variantId ≠ variantId ∨ fence.owner ≠ owner then none
      else some { job with result := publicJobResult job.result }

/-! ## Reading back what was written -/

theorem get?_put (fields : List (String × Json)) (key : String) (value : Json) :
    (Json.obj (Dict.put fields key value)).get? key = some value := by
  induction fields with
  | nil => simp [Dict.put, Json.get?]
  | cons field fields ih =>
    rw [Dict.put]
    by_cases hkey : field.1 = key
    · rw [if_pos hkey]
      simp [Json.get?]
    · rw [if_neg hkey, Json.get?, List.find?_cons_of_neg (by simp [hkey])]
      exact ih

theorem get?_publicJobResult (result : Json) :
    (publicJobResult result).get? regenerationFenceResultKey = none := by
  cases result with
  | obj fields => simp [publicJobResult, Json.get?, List.find?_eq_none]
  | _ => rfl

theorem get?_resultWithFence (result : Json) (fence : RegenerationFence) :
    (resultWithFence result fence).get? regenerationFenceResultKey = some (fenceJson fence) := by
  cases result with
  | obj fields => exact get?_put fields _ _
  | _ => simp [resultWithFence, Json.get?]

/-- **An acquired fence is read back as it was written.** -/
theorem readFence_fenceJson (fence : RegenerationFence) :
    readFence (fenceJson fence) = some fence := by
  simp [readFence, fenceJson, Json.get?, scalarText, scalarInt, parseUuid_uuidStr]

theorem toLower_uuidChar {c : Char} (h : UuidChar c) : c.toLower = c := by
  rcases h with rfl | ⟨n, hn, rfl⟩
  · decide
  have hall : ∀ i < 16, (hexDigit i).toLower = hexDigit i := by decide
  exact hall n hn

theorem toLower_uuidStr (id : UUID) :
    String.ofList ((uuidStr id).toList.map Char.toLower) = uuidStr id := by
  have hmap : (uuidStr id).toList.map Char.toLower = (uuidStr id).toList :=
    Dict.map_eq_self_iff.mpr fun c hc => toLower_uuidChar (uuidChar_of_mem hc)
  rw [hmap, String.ofList_toList]

/-! ## The fences a job table holds -/

/-- Under the fence's key a job has nothing, or a fence of its own under an attempt it reached. -/
structure FenceRecord (job : WorkflowJob) : Prop where
  recorded : job.jobType = regenerateJobType → rawFence job = none
    ∨ ∃ fence, rawFence job = some (fenceJson fence) ∧ fence.owner.workflowJobId = job.id
      ∧ isSha256 fence.baseContentHash = true ∧ fence.owner.workflowAttempt ≤ job.attemptCount

variable {job : WorkflowJob} {fence : RegenerationFence} {variantId : UUID} {now : Datetime}

theorem fenceFromJob_of_raw (h : rawFence job = some (fenceJson fence))
    (hid : fence.owner.workflowJobId = job.id) (hhash : isSha256 fence.baseContentHash = true) :
    fenceFromJob job = some fence := by
  have hobj : (rawFence job).filter Json.isObj = some (fenceJson fence) := by
    rw [h]
    rfl
  rw [fenceFromJob, hobj]
  simp [readFence_fenceJson, hid, hhash]

theorem fenceFromJob_of_none (h : rawFence job = none) : fenceFromJob job = none := by
  rw [fenceFromJob, h]
  rfl

theorem FenceRecord.raw_of_fence (h : FenceRecord job) (htype : job.jobType = regenerateJobType)
    (hf : fenceFromJob job = some fence) :
    rawFence job = some (fenceJson fence) ∧ fence.owner.workflowJobId = job.id
      ∧ isSha256 fence.baseContentHash = true ∧ fence.owner.workflowAttempt ≤ job.attemptCount := by
  rcases h.recorded htype with hnone | ⟨found, hraw, hid, hhash, hle⟩
  · rw [fenceFromJob_of_none hnone] at hf
    cases hf
  · rw [fenceFromJob_of_raw hraw hid hhash] at hf
    cases hf
    exact ⟨hraw, hid, hhash, hle⟩

theorem FenceRecord.not_malformed (h : FenceRecord job) (htype : job.jobType = regenerateJobType) :
    malformedLive variantId now job = false := by
  rcases h.recorded htype with hnone | ⟨found, hraw, hid, hhash, -⟩
  · rw [malformedLive, rawFenceTargetsVariant, hnone]
    simp
  · rw [malformedLive, fenceFromJob_of_raw hraw hid hhash]
    rfl

theorem storedFenceNames_of_raw (h : rawFence job = some (fenceJson fence)) :
    storedFenceNames fence.variantId job = true := by
  have hvariant : (rawFence job).bind (fun raw => raw.get? "variant_id")
      = some (.str (uuidStr fence.variantId)) := by
    rw [h]
    rfl
  rw [storedFenceNames, hvariant]
  exact decide_eq_true (toLower_uuidStr fence.variantId)

/-! ## Liveness, step by step -/

theorem isLive_iff : isLive job fence now = true
    ↔ job.status = .running ∧ job.attemptCount = fence.owner.workflowAttempt
      ∧ job.leaseOwner = some fence.owner.leaseOwner
      ∧ ∃ expiresAt, job.leaseExpiresAt = some expiresAt ∧ now < expiresAt := by
  unfold isLive
  cases job.leaseExpiresAt with
  | none => simp
  | some expiresAt => simp [and_assoc]

theorem liveFenceOf_eq_some : liveFenceOf variantId now job = some fence
    ↔ fenceFromJob job = some fence ∧ fence.variantId = variantId
      ∧ isLive job fence now = true := by
  rw [liveFenceOf, Option.filter_eq_some_iff]
  simp

theorem liveFenceOf_mono {earlier : Datetime} (hle : earlier ≤ now)
    (h : liveFenceOf variantId now job = some fence) :
    liveFenceOf variantId earlier job = some fence := by
  obtain ⟨hf, hv, hlive⟩ := liveFenceOf_eq_some.mp h
  obtain ⟨hrun, hattempt, howner, expiresAt, he, hlt⟩ := isLive_iff.mp hlive
  have hlt' : earlier < expiresAt := Int.lt_of_le_of_lt hle hlt
  exact liveFenceOf_eq_some.mpr
    ⟨hf, hv, isLive_iff.mpr ⟨hrun, hattempt, howner, expiresAt, he, hlt'⟩⟩

end NewsCraft.Generation
