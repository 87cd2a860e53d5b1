import Mathlib.Data.List.MinMax
import NewsCraft.Generation.RevisionFence

/-!
# Revisions of a platform variant

A revision is written by an operator's Telegram edit, an edit of another platform, a pack
generation or a regeneration. Each runs under the variant's row lock, asks the fence for
leave, looks for its parent in its own way and builds a child of it.

What the checks of evidence and media and the assembly of the text come to is the request's
`material`.
-/

namespace NewsCraft.Generation

open Lib Jobs

inductive Platform where
  | telegram
  | instagram
  | x
  | blog
  deriving DecidableEq

inductive VariantApprovalState where
  | draft
  | pendingReview
  | approved
  | rejected
  deriving DecidableEq

structure PlatformVariant where
  id : UUID
  platform : Platform

/-- A row of `platform_variant_revisions`. -/
structure PlatformVariantRevision where
  id : UUID
  platformVariantId : UUID
  parentRevisionId : Option UUID
  generationAttemptId : Option UUID
  revisionNumber : Nat
  content : Json
  contentHash : String
  evidenceMap : Json
  validationResults : Json
  approvalState : VariantApprovalState
  approvalNote : Option String
  createdBy : String
  deriving DecidableEq

instance : Keyed PlatformVariantRevision UUID := ⟨PlatformVariantRevision.id⟩

inductive WriteError where
  | revisionConflict (message : String)
  | invalidGenerationRequest (message : String)
  | needsReview (code message : String)
  | retryable (code message : String)
  | fenceConflict (conflict : RegenerationFenceConflict)

/-- The content of a revision once its evidence and media have been checked. -/
structure Material where
  content : Json
  evidenceMap : Json
  validationResults : Json

/-- The revision with the highest number, which is unique. -/
def currentRevision (revisions : Table PlatformVariantRevision) : Option PlatformVariantRevision :=
  revisions.rows.argmax PlatformVariantRevision.revisionNumber

/-- `coalesce(max(revision_number), 0)`. -/
def maxRevisionNumber (revisions : Table PlatformVariantRevision) : Nat :=
  revisions.rows.foldr (fun revision number => max revision.revisionNumber number) 0

/-- `sha256_canonical({"content": content, "evidence_map": evidence_map})`. -/
def Material.contentHash (sha256Canonical : Json → String) (material : Material) : String :=
  sha256Canonical (.obj [("content", material.content), ("evidence_map", material.evidenceMap)])

/-! ## Operator edits -/

structure EditVariantRequest where
  baseRevisionId : UUID
  baseContentHash : String
  content : Json
  mediaAssetIds : List UUID
  editNote : String

/-- `edit_variant`. The parent is the row the request names, whatever the current revision is. -/
def editVariant (sha256Canonical : Json → String) (variant : PlatformVariant)
    (jobs : Table WorkflowJob) (revisions : Table PlatformVariantRevision)
    (request : EditVariantRequest)
    (material : PlatformVariantRevision → Except WriteError Material) (id : UUID)
    (now : Datetime) : Except WriteError PlatformVariantRevision :=
  if variant.platform ≠ .telegram then
    .error (.revisionConflict "platform conflicts with Telegram edit")
  else
    match requireRevisionWriteAllowed jobs variant.id none none none now with
    | .error _ => .error (.revisionConflict "variant regeneration is in progress")
    | .ok () =>
      match revisions.lookup request.baseRevisionId with
      | none => .error (.revisionConflict "base revision not found")
      | some parent =>
        if parent.contentHash ≠ request.baseContentHash then
          .error (.revisionConflict "content hash changed")
        else
          match material parent with
          | .error error => .error error
          | .ok material => .ok
              { id := id
                platformVariantId := variant.id
                parentRevisionId := some parent.id
                generationAttemptId := none
                revisionNumber := maxRevisionNumber revisions + 1
                content := material.content
                contentHash := material.contentHash sha256Canonical
                evidenceMap := material.evidenceMap
                validationResults := material.validationResults
                approvalState := .pendingReview
                approvalNote := some request.editNote
                createdBy := "operator" }

structure ManualPlatformEditRequest where
  baseRevisionId : UUID
  baseContentHash : String
  platform : Platform
  content : Json
  evidenceMap : Json
  editNote : String

/-- `edit_manual_platform_variant`. -/
def editManualPlatformVariant (sha256Canonical : Json → String) (variant : PlatformVariant)
    (jobs : Table WorkflowJob) (revisions : Table PlatformVariantRevision)
    (request : ManualPlatformEditRequest) (material : Except WriteError Material) (id : UUID)
    (now : Datetime) : Except WriteError PlatformVariantRevision :=
  if request.platform ≠ variant.platform then
    .error (.revisionConflict "platform conflicts with target variant")
  else
    match requireRevisionWriteAllowed jobs variant.id none none none now with
    | .error _ => .error (.revisionConflict "variant regeneration is in progress")
    | .ok () =>
      match currentRevision revisions with
      | none => .error (.revisionConflict "base revision is stale")
      | some current =>
        if current.id ≠ request.baseRevisionId ∨ current.contentHash ≠ request.baseContentHash then
          .error (.revisionConflict "base revision is stale")
        else
          match material with
          | .error error => .error error
          | .ok material => .ok
              { id := id
                platformVariantId := variant.id
                parentRevisionId := some current.id
                generationAttemptId := none
                revisionNumber := current.revisionNumber + 1
                content := material.content
                contentHash := material.contentHash sha256Canonical
                evidenceMap := material.evidenceMap
                validationResults := material.validationResults
                approvalState := .pendingReview
                approvalNote := some request.editNote
                createdBy := "operator" }

/-! ## Generation -/

/-- The base a regeneration was asked for, from its job's payload. -/
structure RegenerationContext where
  variantId : UUID
  baseRevisionId : UUID
  baseContentHash : String

/-- `_revision_parent`. -/
def revisionParent (revisions : Table PlatformVariantRevision) (attemptId : UUID) :
    Except WriteError (Option PlatformVariantRevision) :=
  if revisions.rows.any fun revision => revision.generationAttemptId = some attemptId then
    .error (.needsReview "generation_checkpoint_invalid"
      "Generation revision exists without a durable checkpoint")
  else
    .ok (currentRevision revisions)

/-- `_require_variant_write`. `owner` is the fence the worker acquired in this attempt. -/
def requireVariantWrite (variant : PlatformVariant) (jobs : Table WorkflowJob)
    (regeneration : Option RegenerationContext) (owner : Option RegenerationFenceOwner)
    (parent : Option PlatformVariantRevision) (now : Datetime) : Except WriteError Unit :=
  match regeneration with
  | none =>
    match requireRevisionWriteAllowed jobs variant.id none none none now with
    | .ok () => .ok ()
    | .error _ => .error (.retryable "generation_regeneration_in_progress"
        "Variant regeneration is in progress")
  | some regeneration =>
    if variant.id = regeneration.variantId
        ∧ parent.map PlatformVariantRevision.id = some regeneration.baseRevisionId
        ∧ parent.map PlatformVariantRevision.contentHash = some regeneration.baseContentHash then
      match owner with
      | none => .error (.retryable "generation_regeneration_fence_unavailable"
          "Regeneration fence ownership is unavailable")
      | some owner =>
        match requireRevisionWriteAllowed jobs variant.id (some owner)
          (some regeneration.baseRevisionId) (some regeneration.baseContentHash) now with
        | .ok () => .ok ()
        | .error _ => .error (.retryable "generation_regeneration_fence_lost"
            "Regeneration fence ownership was lost")
    else
      .error (.needsReview "generation_regeneration_base_stale"
        "Regeneration base revision changed during generation")

/-- `_persist_new_artifact`, up to the commit: the child of the current revision. -/
def persistNewArtifact (sha256Canonical : Json → String) (variant : PlatformVariant)
    (jobs : Table WorkflowJob) (revisions : Table PlatformVariantRevision)
    (regeneration : Option RegenerationContext) (owner : Option RegenerationFenceOwner)
    (attemptId : UUID)
    (material : Option PlatformVariantRevision → Except WriteError Material) (id : UUID)
    (now : Datetime) : Except WriteError PlatformVariantRevision :=
  match revisionParent revisions attemptId with
  | .error error => .error error
  | .ok parent =>
    match requireVariantWrite variant jobs regeneration owner parent now with
    | .error error => .error error
    | .ok () =>
      match material parent with
      | .error error => .error error
      | .ok material => .ok
          { id := id
            platformVariantId := variant.id
            parentRevisionId := parent.map PlatformVariantRevision.id
            generationAttemptId := some attemptId
            revisionNumber :=
              (parent.map PlatformVariantRevision.revisionNumber).getD 0 + 1
            content := material.content
            contentHash := material.contentHash sha256Canonical
            evidenceMap := material.evidenceMap
            validationResults := material.validationResults
            approvalState := .pendingReview
            approvalNote := none
            createdBy := "generation" }

/-- `_require_exact_regeneration_dispatch`, without the prompt it also checks. -/
def requireExactRegenerationDispatch (variant : PlatformVariant) (jobs : Table WorkflowJob)
    (revisions : Table PlatformVariantRevision) (platform : Platform)
    (baseRevisionId : UUID) (baseContentHash : String) (workflowJobId : UUID)
    (workflowAttempt : Int) (leaseOwner : Option String) (now : Datetime) :
    Except WriteError WorkflowJob :=
  let stale := WriteError.needsReview "generation_regeneration_base_stale"
    "Regeneration base revision is no longer current"
  if variant.platform ≠ platform then
    .error stale
  else
    match currentRevision revisions with
    | none => .error stale
    | some current =>
      if current.id ≠ baseRevisionId ∨ current.contentHash ≠ baseContentHash then
        .error stale
      else
        match acquireRegenerationFence jobs variant.id baseRevisionId baseContentHash
          workflowJobId workflowAttempt leaseOwner now with
        | .error _ => .error (.retryable "generation_regeneration_fence_unavailable"
            "Regeneration variant is reserved by another live worker")
        | .ok row => .ok row

/-! ## Who may write -/

variable {sha256Canonical : Json → String} {variant : PlatformVariant}
  {jobs : Table WorkflowJob} {revisions : Table PlatformVariantRevision}
  {row : PlatformVariantRevision} {id : UUID} {now : Datetime}

theorem requireRevisionWriteAllowed_none {variantId : UUID}
    (h : requireRevisionWriteAllowed jobs variantId none none none now = .ok ()) :
    ∀ job ∈ lockedRegenerationJobs jobs variantId none, liveFenceOf variantId now job = none := by
  unfold requireRevisionWriteAllowed at h
  dsimp only at h
  split at h
  · cases h
  intro job hjob
  cases hlive : (lockedRegenerationJobs jobs variantId none).filterMap
      (liveFenceOf variantId now) with
  | nil =>
    exact List.filterMap_eq_nil_iff.mp hlive job hjob
  | cons fence rest =>
    rw [hlive] at h
    cases h

theorem requireRevisionWriteAllowed_some {variantId : UUID} {owner : RegenerationFenceOwner}
    {baseRevisionId : UUID} {baseContentHash : String}
    (h : requireRevisionWriteAllowed jobs variantId (some owner) (some baseRevisionId)
      (some baseContentHash) now = .ok ()) :
    ∃ fence, (lockedRegenerationJobs jobs variantId none).filterMap (liveFenceOf variantId now)
        = [fence] ∧ fence.owner = owner ∧ fence.baseRevisionId = baseRevisionId
      ∧ fence.baseContentHash = baseContentHash := by
  unfold requireRevisionWriteAllowed at h
  dsimp only at h
  split at h
  · cases h
  cases hlive : (lockedRegenerationJobs jobs variantId none).filterMap
      (liveFenceOf variantId now) with
  | nil =>
    rw [hlive] at h
    cases h
  | cons fence rest =>
    cases rest with
    | cons other rest =>
      rw [hlive] at h
      cases h
    | nil =>
      rw [hlive] at h
      dsimp only at h
      split at h
      · cases h
      rename_i hsame
      simp only [not_or, not_not, Option.some.injEq] at hsame
      exact ⟨fence, rfl, hsame.1, hsame.2.1, hsame.2.2⟩

/-! ## What each path writes -/

theorem editVariant_ok {request : EditVariantRequest}
    {material : PlatformVariantRevision → Except WriteError Material}
    (h : editVariant sha256Canonical variant jobs revisions request material id now = .ok row) :
    requireRevisionWriteAllowed jobs variant.id none none none now = .ok () ∧ row.id = id
      ∧ row.parentRevisionId = some request.baseRevisionId
      ∧ (∃ parent, revisions.lookup request.baseRevisionId = some parent)
      ∧ row.revisionNumber = maxRevisionNumber revisions + 1 := by
  unfold editVariant at h
  split at h
  · cases h
  cases ha : requireRevisionWriteAllowed jobs variant.id none none none now with
  | error _ => rw [ha] at h; cases h
  | ok _ =>
    rw [ha] at h
    cases hp : revisions.lookup request.baseRevisionId with
    | none => rw [hp] at h; cases h
    | some parent =>
      rw [hp] at h
      dsimp only at h
      split at h
      · cases h
      cases hm : material parent with
      | error _ => rw [hm] at h; cases h
      | ok found =>
        rw [hm] at h
        cases h
        have hid : parent.id = request.baseRevisionId := Table.key_of_lookup hp
        exact ⟨rfl, rfl, congrArg some hid, ⟨parent, rfl⟩, rfl⟩

theorem editManualPlatformVariant_ok {request : ManualPlatformEditRequest}
    {material : Except WriteError Material}
    (h : editManualPlatformVariant sha256Canonical variant jobs revisions request material id now
      = .ok row) : requireRevisionWriteAllowed jobs variant.id none none none now = .ok ()
      ∧ row.id = id ∧ ∃ current, currentRevision revisions = some current
        ∧ row.parentRevisionId = some current.id
        ∧ row.revisionNumber = current.revisionNumber + 1 := by
  unfold editManualPlatformVariant at h
  split at h
  · cases h
  cases ha : requireRevisionWriteAllowed jobs variant.id none none none now with
  | error _ => rw [ha] at h; cases h
  | ok _ =>
    rw [ha] at h
    cases hc : currentRevision revisions with
    | none => rw [hc] at h; cases h
    | some current =>
      rw [hc] at h
      dsimp only at h
      split at h
      · cases h
      cases material with
      | error _ => cases h
      | ok found =>
        cases h
        exact ⟨rfl, rfl, current, rfl, rfl, rfl⟩

variable {owner : Option RegenerationFenceOwner}

theorem persistNewArtifact_ok {regeneration : Option RegenerationContext} {attemptId : UUID}
    {material : Option PlatformVariantRevision → Except WriteError Material}
    (h : persistNewArtifact sha256Canonical variant jobs revisions regeneration owner attemptId
      material id now = .ok row) :
    requireVariantWrite variant jobs regeneration owner (currentRevision revisions) now = .ok ()
      ∧ row.id = id
      ∧ row.parentRevisionId = (currentRevision revisions).map PlatformVariantRevision.id
      ∧ row.revisionNumber
        = ((currentRevision revisions).map PlatformVariantRevision.revisionNumber).getD 0 + 1 := by
  unfold persistNewArtifact revisionParent at h
  split at h
  · cases h
  rename_i parent hparent
  split at hparent
  · cases hparent
  cases hparent
  cases hw : requireVariantWrite variant jobs regeneration owner (currentRevision revisions)
      now with
  | error _ => rw [hw] at h; cases h
  | ok _ =>
    rw [hw] at h
    cases hm : material (currentRevision revisions) with
    | error _ => rw [hm] at h; cases h
    | ok found =>
      rw [hm] at h
      cases h
      exact ⟨rfl, rfl, rfl, rfl⟩

theorem requireVariantWrite_none {parent : Option PlatformVariantRevision}
    (h : requireVariantWrite variant jobs none owner parent now = .ok ()) :
    requireRevisionWriteAllowed jobs variant.id none none none now = .ok () := by
  unfold requireVariantWrite at h
  cases ha : requireRevisionWriteAllowed jobs variant.id none none none now with
  | error _ => simp [ha] at h
  | ok _ => rfl

theorem requireVariantWrite_some {regeneration : RegenerationContext}
    {parent : Option PlatformVariantRevision}
    (h : requireVariantWrite variant jobs (some regeneration) owner parent now = .ok ()) :
    ∃ base token, parent = some base ∧ base.id = regeneration.baseRevisionId
      ∧ base.contentHash = regeneration.baseContentHash ∧ owner = some token
      ∧ requireRevisionWriteAllowed jobs variant.id (some token)
        (some regeneration.baseRevisionId) (some regeneration.baseContentHash) now = .ok () := by
  unfold requireVariantWrite at h
  dsimp only at h
  split at h
  · rename_i hbase
    obtain ⟨-, hid, hhash⟩ := hbase
    cases parent with
    | none => cases hid
    | some base =>
      cases owner with
      | none => cases h
      | some token =>
        dsimp only at h
        cases ha : requireRevisionWriteAllowed jobs variant.id (some token)
            (some regeneration.baseRevisionId) (some regeneration.baseContentHash) now with
        | error _ => rw [ha] at h; cases h
        | ok _ =>
          exact ⟨base, token, rfl, Option.some.inj hid, Option.some.inj hhash, rfl, ha⟩
  · cases h

end NewsCraft.Generation
