import Mathlib.Data.List.Sort
import NewsCraft.Generation.Revisions

/-!
# The status of a content pack

A pack is ready when the current revision of each of its variants is approved. A decision on
a revision computes the status again, under the lock of the pack, and generation sets it
back to draft, under the same lock. The operator's edits lock the variant only.

Generation and the edits are one step each. A decision is a session: it locks and decides
its revision, waits for the pack, reads the variants one after the other and commits.
-/

namespace NewsCraft.Generation.PackStatus

open Lib

/-! ## Tables -/

inductive ContentPackState where
  | draft
  | ready
  deriving DecidableEq

structure ContentPack where
  id : UUID
  storyRevisionId : UUID
  brandProfileId : UUID
  status : ContentPackState
  deriving DecidableEq

structure PlatformVariant where
  id : UUID
  contentPackId : UUID
  platform : Platform
  deriving DecidableEq

structure PlatformVariantRevision where
  id : UUID
  platformVariantId : UUID
  revisionNumber : Nat
  approvalState : VariantApprovalState
  deriving DecidableEq

instance : Keyed ContentPack UUID := ⟨ContentPack.id⟩
instance : Keyed PlatformVariant UUID := ⟨PlatformVariant.id⟩
instance : Keyed PlatformVariantRevision UUID := ⟨PlatformVariantRevision.id⟩

structure PackDb where
  packs : Table ContentPack
  variants : Table PlatformVariant
  revisions : Table PlatformVariantRevision

def decideRow (id : UUID) (state : VariantApprovalState) (row : PlatformVariantRevision) :
    PlatformVariantRevision :=
  if row.id = id then { row with approvalState := state } else row

theorem key_decideRow (id : UUID) (state : VariantApprovalState) (row : PlatformVariantRevision) :
    Keyed.key (decideRow id state row) = Keyed.key row := by
  unfold decideRow
  split <;> rfl

namespace PackDb

variable (db : PackDb)

def revisionsOf (variantId : UUID) : List PlatformVariantRevision :=
  db.revisions.rows.filter fun row => row.platformVariantId = variantId

def current (variantId : UUID) : Option PlatformVariantRevision :=
  (db.revisionsOf variantId).argmax PlatformVariantRevision.revisionNumber

/-- `coalesce(max(revision_number), 0)`. -/
def maxNumber (variantId : UUID) : Nat :=
  (db.revisionsOf variantId).foldr (fun row number => max row.revisionNumber number) 0

/-- The variants of a pack, `order_by(PlatformVariant.id)`. -/
def variantsOf (packId : UUID) : List UUID :=
  ((db.variants.rows.filter fun variant => variant.contentPackId = packId).map
    PlatformVariant.id).insertionSort fun first second => first.int.toNat ≤ second.int.toNat

/-- The rows as a session sees them that decided a revision. -/
def decided (id : UUID) (state : VariantApprovalState) : PackDb :=
  { db with revisions := db.revisions.map (decideRow id state) (key_decideRow id state) }

def append (variantId revisionId : UUID) (revisionNumber : Nat) : PackDb :=
  { db with
    revisions := db.revisions.insert ⟨revisionId, variantId, revisionNumber, .pendingReview⟩ }

end PackDb

/-! ## Decisions -/

/-- How far a decision is. `copy` is the pack's status as the session has loaded it. -/
inductive DecisionPhase where
  /-- The revision is locked and pending. -/
  | locked (copy : Option ContentPackState)
  /-- The revision is decided. -/
  | decided (copy : Option ContentPackState)
  /-- The pack is locked: the variants, those that are still to be read, and the states read. -/
  | refreshing (copy : ContentPackState) (packId : UUID) (variants remaining : List UUID)
      (currentStates : List VariantApprovalState)

/-- A session of `approve_revision` or of `reject_revision`. -/
structure Decision where
  id : UUID
  revisionId : UUID
  approves : Bool
  phase : DecisionPhase

instance : Keyed Decision UUID := ⟨Decision.id⟩

def Decision.target (decision : Decision) : VariantApprovalState :=
  if decision.approves = true then .approved else .rejected

def Decision.view (decision : Decision) (db : PackDb) : PackDb :=
  db.decided decision.revisionId decision.target

def Decision.holds (decision : Decision) (packId : UUID) : Bool :=
  match decision.phase with
  | .refreshing _ held _ _ _ => held = packId
  | _ => false

/-- Each variant that was read has a current revision, and it is approved. -/
def allApproved (variants remaining : List UUID) (currentStates : List VariantApprovalState) :
    Bool :=
  currentStates.length + remaining.length = variants.length
    ∧ currentStates.all fun state => state = .approved

/-- The target of `_refresh_pack_status`. -/
def refreshTarget (variants : List UUID) (currentStates : List VariantApprovalState) :
    ContentPackState :=
  if variants ≠ [] ∧ allApproved variants [] currentStates = true then .ready else .draft

structure PackWorld where
  db : PackDb
  decisions : Table Decision

inductive PackEvent where
  /-- A generated revision is persisted; a regeneration names its variant and its base. -/
  | generate (storyRevisionId brandProfileId : UUID) (platform : Platform)
      (regeneration : Option (UUID × UUID)) (packId variantId revisionId : UUID)
  | editVariant (variantId baseRevisionId revisionId : UUID)
  | editManualPlatformVariant (variantId baseRevisionId revisionId : UUID)
  /-- A decision locks its revision. -/
  | begin (id revisionId : UUID) (approves : Bool)
  /-- An approval loads the pack to check the revision, and the session may keep it. -/
  | load (id : UUID) (keeps : Bool)
  | decide (id : UUID)
  | lock (id : UUID)
  /-- The next variant is read. -/
  | read (id : UUID)
  | commit (id : UUID)
  | rollback (id : UUID)

namespace PackWorld

variable (w : PackWorld)

def revisionHeld (revisionId : UUID) : Bool :=
  w.decisions.rows.any fun decision => decision.revisionId = revisionId

def packHeld (packId : UUID) : Bool := w.decisions.rows.any fun decision => decision.holds packId

def close (id : UUID) : PackWorld := { w with decisions := w.decisions.erase id }

def put (decision : Decision) : PackWorld := { w with decisions := w.decisions.put decision }

/-! ## Generation -/

/-- `_draft_pack`: the pack, made or set back to draft. -/
def draftPack (storyRevisionId brandProfileId packId : UUID) : Option (PackDb × UUID) :=
  let found := w.db.packs.rows.find? fun pack =>
    pack.storyRevisionId = storyRevisionId ∧ pack.brandProfileId = brandProfileId
  match found with
  | none =>
    if (w.db.packs.lookup packId).isSome then
      none
    else
      some ({ w.db with
        packs := w.db.packs.insert ⟨packId, storyRevisionId, brandProfileId, .draft⟩ }, packId)
  | some pack =>
    if w.packHeld pack.id = true then
      none
    else
      some ({ w.db with packs := w.db.packs.put { pack with status := .draft } }, pack.id)

end PackWorld

/-- `_platform_variant`: the variant of the pack, made when it is not there. -/
def PackDb.platformVariant (db : PackDb) (packId : UUID) (platform : Platform) (variantId : UUID) :
    Option (PackDb × UUID) :=
  let found := db.variants.rows.find? fun variant =>
    variant.contentPackId = packId ∧ variant.platform = platform
  match found with
  | none =>
    if (db.variants.lookup variantId).isSome then
      none
    else
      some ({ db with variants := db.variants.insert ⟨variantId, packId, platform⟩ }, variantId)
  | some variant => some (db, variant.id)

namespace PackWorld

variable (w : PackWorld)

/-- A regeneration is of this variant, and its base is the parent. -/
def regenerates (regeneration : Option (UUID × UUID)) (variantId : UUID)
    (parent : Option PlatformVariantRevision) : Bool :=
  match regeneration with
  | none => true
  | some (regenerated, base) =>
    regenerated = variantId ∧ parent.map PlatformVariantRevision.id = some base

/-- The new revision of `_persist_new_artifact` in the drafted pack. -/
def persistRevision (drafted : PackDb) (variantId : UUID) (regeneration : Option (UUID × UUID))
    (revisionId : UUID) : Option PackDb :=
  let parent := drafted.current variantId
  if parent.any fun row => w.revisionHeld row.id then
    none
  else if regenerates regeneration variantId parent = false then
    none
  else if (drafted.revisions.lookup revisionId).isSome then
    none
  else
    some (drafted.append variantId revisionId
      ((parent.map PlatformVariantRevision.revisionNumber).getD 0 + 1))

/-- `_persist_new_artifact`; nothing is left of it where a lock is held or a check fails. -/
def generate (storyRevisionId brandProfileId : UUID) (platform : Platform)
    (regeneration : Option (UUID × UUID)) (packId variantId revisionId : UUID) : Option PackDb :=
  (w.draftPack storyRevisionId brandProfileId packId).bind fun drafted =>
    (drafted.1.platformVariant drafted.2 platform variantId).bind fun variant =>
      w.persistRevision variant.1 variant.2 regeneration revisionId

/-! ## Edits -/

/-- `edit_variant`: the parent is the row the request names. -/
def editVariant (variantId baseRevisionId revisionId : UUID) : Option PackDb :=
  match w.db.variants.lookup variantId, w.db.revisions.lookup baseRevisionId with
  | some _, some parent =>
    if parent.platformVariantId ≠ variantId ∨ w.revisionHeld parent.id = true then
      none
    else if (w.db.revisions.lookup revisionId).isSome then
      none
    else
      some (w.db.append variantId revisionId (w.db.maxNumber variantId + 1))
  | _, _ => none

/-- `edit_manual_platform_variant`: the base is the current revision. -/
def editManualPlatformVariant (variantId baseRevisionId revisionId : UUID) : Option PackDb :=
  match w.db.variants.lookup variantId, w.db.current variantId with
  | some _, some current =>
    if current.id ≠ baseRevisionId ∨ w.revisionHeld current.id = true then
      none
    else if (w.db.revisions.lookup revisionId).isSome then
      none
    else
      some (w.db.append variantId revisionId (current.revisionNumber + 1))
  | _, _ => none

def commits (outcome : Option PackDb) : PackWorld :=
  match outcome with
  | none => w
  | some db => { w with db := db }

/-! ## The steps of a decision -/

def begin (id revisionId : UUID) (approves : Bool) : PackWorld :=
  match w.db.revisions.lookup revisionId with
  | none => w
  | some revision =>
    if revision.approvalState ≠ .pendingReview ∨ w.revisionHeld revisionId = true then
      w
    else
      { w with
        decisions := w.decisions.insert ⟨id, revisionId, approves, .locked none⟩ }

/-- The pack of the revision a decision is about; foreign keys keep the variant and the pack. -/
def packOf (decision : Decision) : Option ContentPack :=
  match w.db.revisions.lookup decision.revisionId with
  | none => none
  | some revision =>
    match w.db.variants.lookup revision.platformVariantId with
    | none => none
    | some variant => w.db.packs.lookup variant.contentPackId

/-- `_pack_story_revision`: the pack is loaded, unless the session has it. -/
def load (decision : Decision) (copy : Option ContentPackState) (keeps : Bool) : PackWorld :=
  match w.packOf decision with
  | none => w.close decision.id
  | some pack =>
    if keeps = true then
      w.put { decision with phase := .locked (some (copy.getD pack.status)) }
    else
      w

/-- `_require_current_revision`, of an approval. -/
def isCurrent (decision : Decision) : Bool :=
  match w.db.revisions.lookup decision.revisionId with
  | none => false
  | some revision =>
    (w.db.current revision.platformVariantId).map PlatformVariantRevision.id = some revision.id

def decide (decision : Decision) (copy : Option ContentPackState) : PackWorld :=
  if decision.approves = true ∧ w.isCurrent decision = false then
    w.close decision.id
  else
    w.put { decision with phase := .decided copy }

/-- The pack is locked and its variants are selected. -/
def lock (decision : Decision) (copy : Option ContentPackState) : PackWorld :=
  match w.packOf decision with
  | none => w.close decision.id
  | some pack =>
    if w.packHeld pack.id = true then
      w
    else
      let variants := w.db.variantsOf pack.id
      w.put { decision with
        phase := .refreshing (copy.getD pack.status) pack.id variants variants [] }

/-- The state of the current revision of a variant, as the session sees it. -/
def currentState (decision : Decision) (variantId : UUID) : Option VariantApprovalState :=
  ((decision.view w.db).current variantId).map PlatformVariantRevision.approvalState

/-- The status is written when the copy differs from the target. -/
def refreshed (copy : ContentPackState) (packId : UUID) (target : ContentPackState) :
    Table ContentPack :=
  match w.db.packs.lookup packId with
  | none => w.db.packs
  | some pack =>
    if copy ≠ target then w.db.packs.put { pack with status := target } else w.db.packs

/-- A decision commits its revision and the status. -/
def commit (decision : Decision) (copy : ContentPackState) (packId : UUID)
    (variants : List UUID) (currentStates : List VariantApprovalState) : PackWorld where
  db := { decision.view w.db with
    packs := w.refreshed copy packId (refreshTarget variants currentStates) }
  decisions := w.decisions.erase decision.id

def decisionStep (decision : Decision) : PackEvent → PackWorld
  | .load _ keeps =>
    match decision.phase with
    | .locked copy => if decision.approves = true then w.load decision copy keeps else w
    | _ => w
  | .decide _ =>
    match decision.phase with
    | .locked copy => w.decide decision copy
    | _ => w
  | .lock _ =>
    match decision.phase with
    | .decided copy => w.lock decision copy
    | _ => w
  | .read _ =>
    match decision.phase with
    | .refreshing copy packId variants (variantId :: remaining) currentStates =>
      w.put { decision with
        phase := .refreshing copy packId variants remaining
          (currentStates ++ (w.currentState decision variantId).toList) }
    | _ => w
  | .commit _ =>
    match decision.phase with
    | .refreshing copy packId variants [] currentStates =>
      w.commit decision copy packId variants currentStates
    | _ => w
  | .rollback _ => w.close decision.id
  | _ => w

def stepOf (id : UUID) (event : PackEvent) : PackWorld :=
  match w.decisions.lookup id with
  | none => w
  | some decision => w.decisionStep decision event

def next : PackEvent → PackWorld
  | .generate storyRevisionId brandProfileId platform regeneration packId variantId revisionId =>
    w.commits (w.generate storyRevisionId brandProfileId platform regeneration packId variantId
      revisionId)
  | .editVariant variantId baseRevisionId revisionId =>
    w.commits (w.editVariant variantId baseRevisionId revisionId)
  | .editManualPlatformVariant variantId baseRevisionId revisionId =>
    w.commits (w.editManualPlatformVariant variantId baseRevisionId revisionId)
  | .begin id revisionId approves => w.begin id revisionId approves
  | .load id keeps => w.stepOf id (.load id keeps)
  | .decide id => w.stepOf id (.decide id)
  | .lock id => w.stepOf id (.lock id)
  | .read id => w.stepOf id (.read id)
  | .commit id => w.stepOf id (.commit id)
  | .rollback id => w.stepOf id (.rollback id)

def empty : PackWorld := ⟨⟨Table.empty, Table.empty, Table.empty⟩, Table.empty⟩

end PackWorld

/-- The writers of packs and of their revisions, in every interleaving. -/
def packStatusSystem : System PackWorld PackEvent where
  init w := w = PackWorld.empty
  step w event w' := w' = w.next event

end NewsCraft.Generation.PackStatus
