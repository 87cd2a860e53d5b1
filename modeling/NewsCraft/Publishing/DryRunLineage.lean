import NewsCraft.Generation.Revisions
import NewsCraft.Publishing.Renderer
import NewsCraft.Telegram.Capture

/-!
# The revisions of dry runs

A dry run captures one post of a route for itself, under a key of its own. Its post is worked
up like any other: its revision is edited, regenerated, approved and asked to be published.
What keeps it from the channel is the mark in its content, which three writers hand down and
three entry points and the worker look at.

Rows are numbered as they are inserted and none is removed. A step is one committed
transaction or one call of `client.execute`; what a transaction takes from outside these
rows is an argument, and one that something else stops does not happen.
-/

namespace NewsCraft.Publishing.DryRuns

open Generation Lib NewsCraft.Telegram
open Renderer (MediaPolicy TelegramButton)

/-! ## Rows -/

/-- A post of a channel, as the adapters number them. -/
inductive ChannelPost where
  | message (anchorMessageId : Int)
  | album (groupedId : Int)

/-- The `source_key` of an envelope. -/
def ChannelPost.sourceKey (channelRef : String) : ChannelPost → String
  | .album groupedId => channelRef ++ (":album:" ++ toString groupedId)
  | .message anchorMessageId => channelRef ++ (":message:" ++ toString anchorMessageId)

inductive PublishingPolicy where
  | autoPublish
  | reviewRequired
  deriving DecidableEq

/-- The columns of a route and its source that are never rewritten. -/
structure RouteConfig where
  channelRef : String
  brandProfileId : UUID
  destinationId : UUID
  mediaPolicy : MediaPolicy
  publishingPolicy : PublishingPolicy

/-- A row of `automation_dispatches`; its place is its `creation_sequence`. -/
structure Dispatch where
  routeId : Nat
  sourceKey : String
  dispatchKind : DispatchKind
  sourceItemId : UUID
  storyRevisionId : Nat
  variantRevisionId : Option Nat
  deriving DecidableEq

structure ContentPack where
  storyRevisionId : Nat
  brandProfileId : UUID
  deriving DecidableEq

structure VariantRow where
  contentPackId : Nat
  platform : Platform
  deriving DecidableEq

inductive TextDirection where
  | ltr
  | rtl
  deriving DecidableEq

/-- `TelegramVariantContent`. -/
structure TelegramContent where
  body : String
  buttons : List TelegramButton
  sourceItemId : Option UUID
  sourceUrl : Option String
  mediaPolicy : MediaPolicy
  mediaAssetIds : List UUID
  direction : TextDirection
  dryRun : Bool
  deriving DecidableEq

/-- The content of a revision: a Telegram text, or the payload of another platform. -/
inductive RevisionContent where
  | telegram (content : TelegramContent)
  | manual (payload : Json)

/-- `bool((revision.content or {}).get("dry_run"))`. -/
def RevisionContent.dryRun : RevisionContent → Bool
  | .telegram content => content.dryRun
  | .manual _ => false

/-- A `RevisionGate`, without its reason. -/
structure RevisionGate where
  gate : String
  ok : Bool

/-- A row of `platform_variant_revisions`. -/
structure RevisionRow where
  platformVariantId : Nat
  parentRevisionId : Option Nat
  revisionNumber : Nat
  content : RevisionContent
  contentHash : String
  evidenceMap : List Json
  validationResults : List RevisionGate
  approvalState : VariantApprovalState

/-- `validate_approvable_revision`, for rows that read back. -/
def RevisionRow.approvable (row : RevisionRow) : Bool :=
  !row.evidenceMap.isEmpty && !row.validationResults.isEmpty
    && row.validationResults.all RevisionGate.ok

inductive IntentKind where
  | immediate
  | scheduled
  deriving DecidableEq

/-- A row of `publish_jobs`, with what its idempotency key is made of. -/
structure PublishRow where
  kind : IntentKind
  destinationId : UUID
  revisionId : Nat
  contentHash : String
  deriving DecidableEq

/-- The rows the revisions of Telegram routes hang together by. A story revision is
kept as the story it is of. -/
structure LineageStore where
  stories : Nat
  storyRevisions : List Nat
  dispatches : List Dispatch
  packs : List ContentPack
  variants : List VariantRow
  revisions : List RevisionRow
  publishJobs : List PublishRow

/-- The routes, and the digest of a revision's content and evidence map. -/
structure LineageEnv where
  route : Nat → RouteConfig
  contentHash : RevisionContent → List Json → String

inductive LineageError where
  | pyError (error : PyError)
  | revisionConflict (message : String)
  | needsReview (code : String)
  | permanent (code : String)
  | retryable (code : String)
  | reviewedDraft (message : String)
  | reviewedSchedule (code : String)

namespace LineageStore

/-- The first row with a property, by its number. -/
def numberOf {ρ : Type} (rows : List ρ) (matching : ρ → Bool) : Option Nat :=
  rows.findIdx? matching

def dispatchOf (store : LineageStore) (routeId : Nat) (sourceKey : String) : Option Dispatch :=
  store.dispatches.find? fun dispatch => dispatch.routeId = routeId ∧ dispatch.sourceKey = sourceKey

def storyOf (store : LineageStore) (dispatch : Dispatch) : Option Nat :=
  store.storyRevisions[dispatch.storyRevisionId]?

/-- The revision a variant stands at, by its number: the one with the highest
`revision_number`. -/
def currentRevision (store : LineageStore) (variantId : Nat) : Option Nat :=
  ((List.range store.revisions.length).filter fun id =>
    store.revisions[id]?.map RevisionRow.platformVariantId = some variantId).argmax fun id =>
      (store.revisions[id]?.map RevisionRow.revisionNumber).getD 0

/-- `coalesce(max(revision_number), 0)`. -/
def maxRevisionNumber (store : LineageStore) (variantId : Nat) : Nat :=
  (store.revisions.filter fun revision => revision.platformVariantId = variantId).foldr
    (fun revision number => max revision.revisionNumber number) 0

/-! ## Captures and research -/

def insertDispatch (store : LineageStore) (routeId : Nat) (sourceKey : String)
    (dispatchKind : DispatchKind) (sourceItemId : UUID) (storyId : Nat) : LineageStore :=
  { store with
    storyRevisions := store.storyRevisions ++ [storyId]
    dispatches := store.dispatches
      ++ [⟨routeId, sourceKey, dispatchKind, sourceItemId, store.storyRevisions.length, none⟩] }

/-- `capture_and_enqueue`: an edit goes to the story of the post it edits, everything else
starts a story. -/
def captureAndEnqueue (E : LineageEnv) (store : LineageStore) (routeId : Nat) (post : ChannelPost)
    (sourceFingerprint : String) (dispatchKind : DispatchKind) (dryRunJobId : Option UUID)
    (sourceItemId : UUID) : Except LineageError LineageStore :=
  let envelopeKey := post.sourceKey (E.route routeId).channelRef
  match dispatchSourceKey envelopeKey sourceFingerprint dispatchKind dryRunJobId with
  | .error e => .error (.pyError e)
  | .ok sourceKey =>
    match store.dispatchOf routeId sourceKey with
    | some _ => .ok store
    | none =>
      if dispatchKind = .sourceEdit then
        match (store.dispatchOf routeId envelopeKey).bind store.storyOf with
        | none =>
          .error (.pyError (.valueError
            "source edit capture requires an existing source revision"))
        | some storyId =>
          .ok (store.insertDispatch routeId sourceKey dispatchKind sourceItemId storyId)
      else
        .ok
          { store.insertDispatch routeId sourceKey dispatchKind sourceItemId store.stories with
            stories := store.stories + 1 }

/-- Another revision of a story, by research or by the writing of its canonical text. -/
def addStoryRevision (store : LineageStore) (storyId : Nat) : LineageStore :=
  if storyId < store.stories then
    { store with storyRevisions := store.storyRevisions ++ [storyId] }
  else
    store

/-- A dispatch takes over the result of research, which is of its own story. -/
def adoptStoryRevision (store : LineageStore) (dispatchId storyRevisionId : Nat) : LineageStore :=
  match store.dispatches[dispatchId]? with
  | none => store
  | some dispatch =>
    if store.storyRevisions[storyRevisionId]?.isSome
        ∧ store.storyRevisions[storyRevisionId]? = store.storyOf dispatch then
      { store with
        dispatches := store.dispatches.set dispatchId
          { dispatch with storyRevisionId := storyRevisionId } }
    else
      store

/-! ## Packs and variants -/

/-- The pack of a story revision and a brand, which may be new. -/
def draftPack (store : LineageStore) (storyRevisionId : Nat) (brandProfileId : UUID) :
    Nat × LineageStore :=
  match numberOf store.packs fun pack => pack = ⟨storyRevisionId, brandProfileId⟩ with
  | some packId => (packId, store)
  | none =>
    (store.packs.length,
      { store with packs := store.packs ++ [⟨storyRevisionId, brandProfileId⟩] })

/-- The variant of a pack for a platform, which may be new. -/
def platformVariant (store : LineageStore) (packId : Nat) (platform : Platform) :
    Nat × LineageStore :=
  match numberOf store.variants fun variant => variant = ⟨packId, platform⟩ with
  | some variantId => (variantId, store)
  | none =>
    (store.variants.length, { store with variants := store.variants ++ [⟨packId, platform⟩] })

def insertRevision (store : LineageStore) (row : RevisionRow) : LineageStore :=
  { store with revisions := store.revisions ++ [row] }

/-! ## Publish intents -/

/-- A publish job under its idempotency key, once. -/
def insertIntent (store : LineageStore) (row : PublishRow) : LineageStore :=
  if row ∈ store.publishJobs then store
  else { store with publishJobs := store.publishJobs ++ [row] }

/-- `enqueue_telegram_publish_intent`. -/
def enqueueTelegramPublishIntent (store : LineageStore) (destinationId : UUID) (revisionId : Nat)
    (revision : RevisionRow) : Except LineageError LineageStore :=
  if !revision.approvable then
    .error (.needsReview "telegram_revision_validation_invalid")
  else if ⟨.immediate, destinationId, revisionId, revision.contentHash⟩ ∉ store.publishJobs
      ∧ ⟨.scheduled, destinationId, revisionId, revision.contentHash⟩ ∈ store.publishJobs then
    .error (.needsReview "telegram_publish_already_scheduled")
  else
    .ok (store.insertIntent ⟨.immediate, destinationId, revisionId, revision.contentHash⟩)

end LineageStore

/-! ## The policies of an automation -/

structure AutoPublishDecision where
  allowed : Bool
  reason : Option String

/-- What the controls, the route and the destination are at when a revision is written. -/
structure AutoPublishGates where
  globalPause : Bool
  globalDryRun : Bool
  routePaused : Bool
  destinationEnabled : Bool
  destinationHealth : String
  validationOk : Bool
  evidenceReady : Bool
  mediaReady : Bool

/-- `evaluate_auto_publish`: the first gate that blocks. -/
def evaluateAutoPublish (gates : AutoPublishGates) : AutoPublishDecision :=
  let blocked := [(gates.globalPause, "global_pause"),
    (gates.globalDryRun, "global_dry_run"),
    (gates.routePaused, "route_paused"),
    (!gates.destinationEnabled, "destination_disabled"),
    (gates.destinationHealth ≠ "healthy", "destination_unhealthy"),
    (!gates.validationOk, "variant_invalid"),
    (!gates.evidenceReady, "evidence_invalid"),
    (!gates.mediaReady, "media_not_ready")]
  match blocked.find? Prod.fst with
  | some (_, reason) => ⟨false, some reason⟩
  | none => ⟨true, none⟩

structure ReviewDecision where
  approved : Bool
  note : Option String

/-- `evaluate_review_policy`. -/
def evaluateReviewPolicy (publishingPolicy : PublishingPolicy) (explicitForceReview : Bool)
    (dispatchKind : DispatchKind) (mediaPolicy : MediaPolicy) (autoPublish : AutoPublishDecision) :
    ReviewDecision :=
  let forceReview : Bool :=
    explicitForceReview ∨ dispatchKind = .sourceEdit ∨ dispatchKind = .dryRun
      ∨ mediaPolicy = .replaceManually
  if publishingPolicy = .autoPublish ∧ autoPublish.allowed ∧ !forceReview then
    ⟨true, none⟩
  else
    ⟨false, if forceReview then some "forced_review"
      else some (autoPublish.reason.getD "review_required")⟩

/-! ## Writers -/

/-- What a dispatch's revision is made of and what it is written under. -/
structure DispatchInputs where
  body : String
  buttons : List TelegramButton
  sourceUrl : Option String
  mediaAssetIds : List UUID
  direction : TextDirection
  evidenceMap : List Json
  forceReview : Bool
  globalPause : Bool
  globalDryRun : Bool
  routePaused : Bool
  destinationEnabled : Bool
  destinationHealth : String
  mediaReady : Bool

/-- The payloads operators write by hand; none of them is Telegram's. -/
inductive ManualPlatform where
  | instagram
  | x
  | blog

def ManualPlatform.platform : ManualPlatform → Platform
  | .instagram => .instagram
  | .x => .x
  | .blog => .blog

inductive Authored where
  | telegram (body : String) (buttons : List TelegramButton) (defaultDirection : TextDirection)
  | manual (platform : ManualPlatform) (payload : Json)

def Authored.platform : Authored → Platform
  | .telegram .. => .telegram
  | .manual platform _ => platform.platform

structure RegenerationBase where
  variantId : Nat
  baseRevisionId : Nat
  baseContentHash : String

/-- `assemble_telegram_variant`. -/
def assembleTelegramVariant (body : String) (buttons : List TelegramButton)
    (trustedParent : Option TelegramContent) (defaultDirection : TextDirection) :
    TelegramContent where
  body := body
  buttons := buttons
  sourceItemId := trustedParent.bind TelegramContent.sourceItemId
  sourceUrl := trustedParent.bind TelegramContent.sourceUrl
  mediaPolicy := (trustedParent.map TelegramContent.mediaPolicy).getD .omit
  mediaAssetIds := (trustedParent.map TelegramContent.mediaAssetIds).getD []
  direction := (trustedParent.map TelegramContent.direction).getD defaultDirection
  dryRun := (trustedParent.map TelegramContent.dryRun).getD false

/-- `_materialize_revision`. -/
def materializeRevision (authored : Authored) (parent : Option RevisionRow) :
    Except LineageError RevisionContent :=
  match authored with
  | .manual _ payload => .ok (.manual payload)
  | .telegram body buttons defaultDirection =>
    match parent.map RevisionRow.content with
    | none => .ok (.telegram (assembleTelegramVariant body buttons none defaultDirection))
    | some (.telegram content) =>
      .ok (.telegram (assembleTelegramVariant body buttons (some content) defaultDirection))
    | some (.manual _) => .error (.needsReview "generation_telegram_parent_invalid")

namespace LineageStore

/-- `_route_parent_revision`: the revision of the last dispatch before this one that the
route has for the story. -/
def routeParentRevision (store : LineageStore) (dispatchId : Nat) (dispatch : Dispatch) :
    Option Nat :=
  ((store.dispatches.take dispatchId).reverse.find? fun earlier =>
    earlier.routeId = dispatch.routeId ∧ earlier.variantRevisionId.isSome
      ∧ store.storyOf earlier = store.storyOf dispatch).bind Dispatch.variantRevisionId

/-- `_content_pack_and_variant`: the variant of the parent, or that of the story revision. -/
def contentPackAndVariant (store : LineageStore) (route : RouteConfig) (dispatch : Dispatch)
    (parentId : Option Nat) : Except LineageError (Nat × LineageStore) :=
  match parentId with
  | some parentId =>
    match store.revisions[parentId]? with
    | none => .error (.needsReview "telegram_lineage_invalid")
    | some parent => .ok (parent.platformVariantId, store)
  | none =>
    let (packId, store) := store.draftPack dispatch.storyRevisionId route.brandProfileId
    .ok (store.platformVariant packId .telegram)

/-- `_build_revision_artifacts` and the row `_create_dispatch_revision` makes of them. -/
def dispatchRevision (E : LineageEnv) (store : LineageStore) (dispatch : Dispatch)
    (inputs : DispatchInputs) (variantId : Nat) (parentId : Option Nat)
    (review : ReviewDecision) : RevisionRow :=
  let route := E.route dispatch.routeId
  let content := RevisionContent.telegram
    { body := inputs.body
      buttons := inputs.buttons
      sourceItemId := some dispatch.sourceItemId
      sourceUrl := inputs.sourceUrl
      mediaPolicy := route.mediaPolicy
      mediaAssetIds := if route.mediaPolicy = .preserve then inputs.mediaAssetIds else []
      direction := inputs.direction
      dryRun := dispatch.dispatchKind = .dryRun }
  { platformVariantId := variantId
    parentRevisionId := parentId
    revisionNumber := store.maxRevisionNumber variantId + 1
    content := content
    contentHash := E.contentHash content inputs.evidenceMap
    evidenceMap := inputs.evidenceMap
    validationResults :=
      [⟨"telegram_schema", true⟩, ⟨"evidence", true⟩, ⟨"media", inputs.mediaReady⟩]
    approvalState := if review.approved then .approved else .pendingReview }

/-- `_persist_revision_and_publish`. -/
def persistRevisionAndPublish (E : LineageEnv) (store : LineageStore) (dispatchId : Nat)
    (inputs : DispatchInputs) : Except LineageError LineageStore :=
  match store.dispatches[dispatchId]? with
  | none => .error (.permanent "telegram_dispatch_missing")
  | some dispatch =>
    if dispatch.variantRevisionId.isSome then
      .ok store
    else
      let route := E.route dispatch.routeId
      let parentId := store.routeParentRevision dispatchId dispatch
      match store.contentPackAndVariant route dispatch parentId with
      | .error e => .error e
      | .ok (variantId, store) =>
        let gate := evaluateAutoPublish
          ⟨inputs.globalPause, inputs.globalDryRun, inputs.routePaused,
            inputs.destinationEnabled, inputs.destinationHealth, true, true,
            inputs.mediaReady⟩
        let review := evaluateReviewPolicy route.publishingPolicy inputs.forceReview
          dispatch.dispatchKind route.mediaPolicy gate
        let row := store.dispatchRevision E dispatch inputs variantId parentId review
        let revisionId := store.revisions.length
        let store :=
          { store.insertRevision row with
            dispatches := store.dispatches.set dispatchId
              { dispatch with variantRevisionId := some revisionId } }
        if review.approved then
          store.enqueueTelegramPublishIntent route.destinationId revisionId row
        else
          .ok store

/-- `edit_variant`: the base is the row the operator names, which need not be current. -/
def editVariant (E : LineageEnv) (store : LineageStore) (variantId baseRevisionId : Nat)
    (baseContentHash body : String) (buttons : List TelegramButton) (mediaAssetIds : List UUID) :
    Except LineageError LineageStore :=
  if store.variants[variantId]?.map VariantRow.platform ≠ some .telegram then
    .error (.revisionConflict "platform conflicts with Telegram edit")
  else
    match store.revisions[baseRevisionId]? with
    | none => .error (.revisionConflict "base revision not found")
    | some parent =>
      if parent.platformVariantId ≠ variantId then
        .error (.revisionConflict "base revision not found")
      else if parent.contentHash ≠ baseContentHash then
        .error (.revisionConflict "content hash changed")
      else
        match parent.content with
        | .manual _ => .error (.pyError (.valueError "TelegramVariantContent"))
        | .telegram parentContent =>
          let content := RevisionContent.telegram
            { parentContent with
              body := body
              buttons := buttons
              mediaAssetIds := mediaAssetIds }
          .ok (store.insertRevision
            { platformVariantId := variantId
              parentRevisionId := some baseRevisionId
              revisionNumber := store.maxRevisionNumber variantId + 1
              content := content
              contentHash := E.contentHash content parent.evidenceMap
              evidenceMap := parent.evidenceMap
              validationResults := [⟨"telegram_schema", true⟩]
              approvalState := .pendingReview })

/-- `edit_manual_platform_variant`. -/
def editManualPlatformVariant (E : LineageEnv) (store : LineageStore)
    (variantId baseRevisionId : Nat) (baseContentHash : String) (platform : ManualPlatform)
    (payload : Json) (evidenceMap : List Json) (validationResults : List RevisionGate) :
    Except LineageError LineageStore :=
  if store.variants[variantId]?.map VariantRow.platform ≠ some platform.platform then
    .error (.revisionConflict "platform conflicts with target variant")
  else
    match (store.currentRevision variantId).bind fun id => store.revisions[id]? with
    | none => .error (.revisionConflict "base revision is stale")
    | some current =>
      if store.currentRevision variantId ≠ some baseRevisionId
          ∨ current.contentHash ≠ baseContentHash then
        .error (.revisionConflict "base revision is stale")
      else
        .ok (store.insertRevision
          { platformVariantId := variantId
            parentRevisionId := some baseRevisionId
            revisionNumber := current.revisionNumber + 1
            content := .manual payload
            contentHash := E.contentHash (.manual payload) evidenceMap
            evidenceMap := evidenceMap
            validationResults := validationResults
            approvalState := .pendingReview })

/-- `_persist_new_artifact`, of a pack generation or a regeneration: the child of the
current revision, if the variant has one. -/
def persistNewArtifact (E : LineageEnv) (store : LineageStore) (storyRevisionId : Nat)
    (brandProfileId : UUID) (authored : Authored) (evidenceMap : List Json)
    (validationResults : List RevisionGate) (regeneration : Option RegenerationBase) :
    Except LineageError LineageStore :=
  if store.storyRevisions.length ≤ storyRevisionId then
    .error (.permanent "generation_story_revision_missing")
  else
    let (packId, store) := store.draftPack storyRevisionId brandProfileId
    let (variantId, store) := store.platformVariant packId authored.platform
    let parentId := store.currentRevision variantId
    let parent := parentId.bind fun id => store.revisions[id]?
    if regeneration.any fun base => variantId ≠ base.variantId
        ∨ parentId ≠ some base.baseRevisionId
        ∨ parent.map RevisionRow.contentHash ≠ some base.baseContentHash then
      .error (.needsReview "generation_regeneration_base_stale")
    else
      match materializeRevision authored parent with
      | .error e => .error e
      | .ok content =>
        .ok (store.insertRevision
          { platformVariantId := variantId
            parentRevisionId := parentId
            revisionNumber := (parent.map RevisionRow.revisionNumber).getD 0 + 1
            content := content
            contentHash := E.contentHash content evidenceMap
            evidenceMap := evidenceMap
            validationResults := validationResults
            approvalState := .pendingReview })

/-! ## Decisions of operators -/

/-- `approve_revision` and `reject_revision`. -/
def decideRevision (E : LineageEnv) (store : LineageStore) (revisionId : Nat)
    (expectedContentHash : String) (approve : Bool) : Except LineageError LineageStore :=
  match store.revisions[revisionId]? with
  | none => .error (.revisionConflict "revision not found")
  | some revision =>
    if revision.contentHash ≠ expectedContentHash then
      .error (.revisionConflict "content hash changed")
    else if revision.approvalState ≠ .pendingReview then
      .error (.revisionConflict "revision is not pending review")
    else if approve
        ∧ revision.contentHash ≠ E.contentHash revision.content revision.evidenceMap then
      .error (.revisionConflict "stored revision content hash is invalid")
    else if approve ∧ !revision.approvable then
      .error (.revisionConflict "Revision has a failed validation gate")
    else if approve ∧ store.currentRevision revision.platformVariantId ≠ some revisionId then
      .error (.revisionConflict "revision is not current")
    else
      .ok { store with
        revisions := store.revisions.set revisionId
          { revision with approvalState := if approve then .approved else .rejected } }

/-- `revision_dispatch`: up the ancestry to the dispatch that wrote a revision of it. -/
def walkAncestry (store : LineageStore) (variantId : Nat) :
    Nat → List Nat → Option Nat → Option Nat
  | 0, _, _ => none
  | _ + 1, _, none => none
  | fuel + 1, seen, some id =>
    if id ∈ seen then
      none
    else
      match store.revisions[id]? with
      | none => none
      | some current =>
        if current.platformVariantId ≠ variantId then
          none
        else
          match (List.range store.dispatches.length).reverse.find? fun dispatchId =>
              store.dispatches[dispatchId]?.bind Dispatch.variantRevisionId = some id with
          | some dispatchId => some dispatchId
          | none => walkAncestry store variantId fuel (id :: seen) current.parentRevisionId

/-- The ancestry has as many revisions as there are, at most. -/
def revisionDispatch (store : LineageStore) (revisionId : Nat) (revision : RevisionRow) :
    Option Nat :=
  if store.variants[revision.platformVariantId]?.map VariantRow.platform ≠ some .telegram then
    none
  else
    store.walkAncestry revision.platformVariantId (store.revisions.length + 1) [] (some revisionId)

/-- `require_revision_transition`. -/
def requireRevisionTransition (revision : RevisionRow) (contentHash : String) :
    Except LineageError Unit :=
  if revision.contentHash ≠ contentHash then
    .error (.reviewedDraft "Draft content changed")
  else if revision.approvalState ≠ .approved then
    .error (.reviewedDraft "Draft cannot publish from its current state")
  else if !revision.approvable then
    .error (.reviewedDraft "Revision has a failed validation gate")
  else if revision.content.dryRun then
    .error (.reviewedDraft "Dry-run drafts cannot be published")
  else
    .ok ()

/-- `publish_reviewed_draft`. -/
def publishReviewedDraft (E : LineageEnv) (store : LineageStore) (revisionId : Nat)
    (contentHash : String) : Except LineageError LineageStore :=
  match store.revisions[revisionId]? with
  | none => .error (.reviewedDraft "Telegram draft not found")
  | some revision =>
    if store.variants[revision.platformVariantId]?.map VariantRow.platform ≠ some .telegram then
      .error (.reviewedDraft "Telegram draft not found")
    else if store.currentRevision revision.platformVariantId ≠ some revisionId then
      .error (.reviewedDraft "Telegram draft revision is not current")
    else
      match requireRevisionTransition revision contentHash with
      | .error e => .error e
      | .ok () =>
        match (store.revisionDispatch revisionId revision).bind fun id =>
            store.dispatches[id]? with
        | none => .error (.reviewedDraft "Telegram draft has no route provenance")
        | some dispatch =>
          store.enqueueTelegramPublishIntent (E.route dispatch.routeId).destinationId
            revisionId revision

/-- `schedule_reviewed_telegram`, for a time to come. -/
def scheduleReviewedTelegram (E : LineageEnv) (store : LineageStore) (revisionId : Nat)
    (contentHash : String) (destinationId : UUID) : Except LineageError LineageStore :=
  match store.revisions[revisionId]? with
  | none => .error (.reviewedSchedule "telegram_revision_missing")
  | some revision =>
    if store.variants[revision.platformVariantId]?.map VariantRow.platform ≠ some .telegram then
      .error (.reviewedSchedule "telegram_revision_lineage_invalid")
    else if store.currentRevision revision.platformVariantId ≠ some revisionId then
      .error (.reviewedSchedule "telegram_revision_not_current")
    else if revision.approvalState ≠ .approved then
      .error (.reviewedSchedule "telegram_revision_not_approved")
    else if contentHash ≠ revision.contentHash then
      .error (.reviewedSchedule "telegram_revision_changed")
    else if !revision.approvable then
      .error (.reviewedSchedule "telegram_revision_schema_invalid")
    else if revision.content.dryRun then
      .error (.reviewedSchedule "telegram_revision_dry_run")
    else if E.contentHash revision.content revision.evidenceMap ≠ revision.contentHash then
      .error (.reviewedSchedule "telegram_revision_hash_drift")
    else
      match (store.revisionDispatch revisionId revision).bind fun id =>
          store.dispatches[id]? with
      | none => .error (.reviewedSchedule "telegram_route_provenance_missing")
      | some dispatch =>
        if (E.route dispatch.routeId).destinationId ≠ destinationId then
          .error (.reviewedSchedule "telegram_route_destination_mismatch")
        else if ⟨.scheduled, destinationId, revisionId, revision.contentHash⟩
              ∉ store.publishJobs
            ∧ ⟨.immediate, destinationId, revisionId, revision.contentHash⟩
              ∈ store.publishJobs then
          .error (.reviewedSchedule "telegram_publish_already_queued")
        else
          .ok (store.insertIntent
            ⟨.scheduled, destinationId, revisionId, revision.contentHash⟩)

end LineageStore

/-! ## The worker -/

/-- The rows a worker checks besides those of the lineage, as it finds them. -/
structure PublishControls where
  globalPause : Bool
  dryRun : Bool
  routeEnabled : Bool
  routePaused : Bool
  destinationId : UUID
  destinationPlatform : String
  destinationEnabled : Bool
  healthStatus : String
  secretRef : String
  proxyProfileId : Option UUID
  targetRef : String

/-- `_PublishContext`, without its plan. -/
structure PublishContext where
  publishJobId : Nat
  revisionId : Nat
  dispatchId : Nat
  secretRef : String
  proxyProfileId : Option UUID
  targetRef : String
  deriving DecidableEq

/-- Nothing pauses the route or keeps the destination. -/
def PublishControls.open (controls : PublishControls) : Bool :=
  controls.routeEnabled && !controls.routePaused && !controls.globalPause && !controls.dryRun
    && decide (controls.destinationPlatform = "telegram") && controls.destinationEnabled
    && decide (controls.healthStatus = "healthy")

namespace LineageStore

/-- `_load_publish_revision`. -/
def loadPublishRevision (E : LineageEnv) (store : LineageStore) (revision : RevisionRow) :
    Except LineageError TelegramContent :=
  if store.variants[revision.platformVariantId]?.map VariantRow.platform ≠ some .telegram then
    .error (.permanent "telegram_publish_context_missing")
  else
    match revision.content with
    | .manual _ => .error (.needsReview "telegram_revision_invalid")
    | .telegram content =>
      if revision.approvalState ≠ .approved ∨ content.dryRun then
        .error (.needsReview "telegram_revision_not_publishable")
      else if E.contentHash revision.content revision.evidenceMap ≠ revision.contentHash then
        .error (.needsReview "telegram_revision_hash_drift")
      else
        .ok content

/-- `load_context`, as far as these rows go. -/
def loadContext (E : LineageEnv) (store : LineageStore) (publishJobId : Nat)
    (controls : PublishControls) : Except LineageError PublishContext :=
  match store.publishJobs[publishJobId]? with
  | none => .error (.permanent "telegram_publish_job_missing")
  | some publishJob =>
    match store.revisions[publishJob.revisionId]? with
    | none => .error (.permanent "telegram_publish_context_missing")
    | some revision =>
      match store.loadPublishRevision E revision with
      | .error e => .error e
      | .ok _ =>
        match store.revisionDispatch publishJob.revisionId revision with
        | none => .error (.needsReview "telegram_route_provenance_missing")
        | some dispatchId =>
          match store.dispatches[dispatchId]? with
          | none => .error (.needsReview "telegram_route_provenance_missing")
          | some dispatch =>
            if (E.route dispatch.routeId).destinationId ≠ controls.destinationId
                ∨ publishJob.destinationId ≠ controls.destinationId then
              .error (.needsReview "telegram_publish_route_drift")
            else if !controls.open then
              .error (.needsReview "telegram_publish_gate_blocked")
            else
              .ok ⟨publishJobId, publishJob.revisionId, dispatchId, controls.secretRef,
                controls.proxyProfileId, controls.targetRef⟩

/-- `_validate_claim_controls`. -/
def validateClaimControls (E : LineageEnv) (store : LineageStore) (context : PublishContext)
    (controls : PublishControls) : Except LineageError Unit :=
  match store.revisions[context.revisionId]?, store.publishJobs[context.publishJobId]?,
      store.dispatches[context.dispatchId]? with
  | some revision, some publishJob, some dispatch =>
    match revision.content with
    | .manual _ => .error (.needsReview "telegram_revision_invalid")
    | .telegram content =>
      if revision.approvalState ≠ .approved ∨ content.dryRun
          ∨ E.contentHash revision.content revision.evidenceMap ≠ revision.contentHash
          ∨ (E.route dispatch.routeId).destinationId ≠ controls.destinationId
          ∨ !controls.open
          ∨ controls.secretRef ≠ context.secretRef
          ∨ controls.proxyProfileId ≠ context.proxyProfileId
          ∨ controls.targetRef ≠ context.targetRef
          ∨ publishJob.revisionId ≠ context.revisionId
          ∨ publishJob.destinationId ≠ controls.destinationId then
        .error (.needsReview "telegram_publish_context_drift")
      else if content.sourceItemId ≠ some dispatch.sourceItemId then
        .error (.needsReview "telegram_publish_source_drift")
      else
        .ok ()
  | _, _, _ => .error (.needsReview "telegram_publish_context_drift")

end LineageStore

/-! ## Runs -/

/-- Where a worker is in `publish_telegram`. -/
inductive WorkerPhase where
  | idle
  | prepared (context : PublishContext)
  /-- An operation is claimed; `client.execute` comes next. -/
  | claimed (context : PublishContext)

/-- The rows, the workers, and the revisions `client.execute` was called for, in order. -/
structure LineageWorld where
  store : LineageStore
  workers : Nat → WorkerPhase
  calls : List Nat

inductive LineageEvent where
  | capture (routeId : Nat) (post : ChannelPost) (sourceFingerprint : String)
      (dispatchKind : DispatchKind) (dryRunJobId : Option UUID) (sourceItemId : UUID)
  | research (storyId : Nat)
  | adopt (dispatchId storyRevisionId : Nat)
  | process (dispatchId : Nat) (inputs : DispatchInputs)
  | editVariant (variantId baseRevisionId : Nat) (baseContentHash body : String)
      (buttons : List TelegramButton) (mediaAssetIds : List UUID)
  | editManualPlatformVariant (variantId baseRevisionId : Nat) (baseContentHash : String)
      (platform : ManualPlatform) (payload : Json) (evidenceMap : List Json)
      (validationResults : List RevisionGate)
  | generate (storyRevisionId : Nat) (brandProfileId : UUID) (authored : Authored)
      (evidenceMap : List Json) (validationResults : List RevisionGate)
      (regeneration : Option RegenerationBase)
  | decide (revisionId : Nat) (expectedContentHash : String) (approve : Bool)
  | publish (revisionId : Nat) (contentHash : String)
  | schedule (revisionId : Nat) (contentHash : String) (destinationId : UUID)
  | prepare (worker publishJobId : Nat) (controls : PublishControls)
  | claim (worker : Nat) (controls : PublishControls)
  | execute (worker : Nat)
  /-- The worker is done, raises or dies. -/
  | leave (worker : Nat)

namespace LineageWorld

def setWorker (w : LineageWorld) (worker : Nat) (phase : WorkerPhase) : LineageWorld :=
  { w with workers := Function.update w.workers worker phase }

/-- A transaction that is stopped leaves the rows as they were. -/
def commit (w : LineageWorld) (result : Except LineageError LineageStore) : LineageWorld :=
  match result with
  | .ok store => { w with store := store }
  | .error _ => w

def step (E : LineageEnv) (w : LineageWorld) : LineageEvent → LineageWorld
  | .capture routeId post sourceFingerprint dispatchKind dryRunJobId sourceItemId =>
    w.commit (w.store.captureAndEnqueue E routeId post sourceFingerprint dispatchKind
      dryRunJobId sourceItemId)
  | .research storyId => { w with store := w.store.addStoryRevision storyId }
  | .adopt dispatchId storyRevisionId =>
    { w with store := w.store.adoptStoryRevision dispatchId storyRevisionId }
  | .process dispatchId inputs => w.commit (w.store.persistRevisionAndPublish E dispatchId inputs)
  | .editVariant variantId baseRevisionId baseContentHash body buttons mediaAssetIds =>
    w.commit (w.store.editVariant E variantId baseRevisionId baseContentHash body buttons
      mediaAssetIds)
  | .editManualPlatformVariant variantId baseRevisionId baseContentHash platform payload
      evidenceMap validationResults =>
      w.commit (w.store.editManualPlatformVariant E variantId baseRevisionId baseContentHash
        platform payload evidenceMap validationResults)
  | .generate storyRevisionId brandProfileId authored evidenceMap validationResults
      regeneration =>
      w.commit (w.store.persistNewArtifact E storyRevisionId brandProfileId authored evidenceMap
        validationResults regeneration)
  | .decide revisionId expectedContentHash approve =>
    w.commit (w.store.decideRevision E revisionId expectedContentHash approve)
  | .publish revisionId contentHash =>
    w.commit (w.store.publishReviewedDraft E revisionId contentHash)
  | .schedule revisionId contentHash destinationId =>
    w.commit (w.store.scheduleReviewedTelegram E revisionId contentHash destinationId)
  | .prepare worker publishJobId controls =>
    match w.workers worker, w.store.loadContext E publishJobId controls with
    | .idle, .ok context => w.setWorker worker (.prepared context)
    | _, _ => w
  | .claim worker controls =>
    match w.workers worker with
    | .prepared context =>
      match w.store.validateClaimControls E context controls with
      | .ok () => w.setWorker worker (.claimed context)
      | .error _ => w.setWorker worker .idle
    | _ => w
  | .execute worker =>
    match w.workers worker with
    | .claimed context =>
      -- The next operation of the plan is claimed anew.
      { w.setWorker worker (.prepared context) with calls := w.calls ++ [context.revisionId] }
    | _ => w
  | .leave worker => w.setWorker worker .idle

def start : LineageWorld :=
  ⟨⟨0, [], [], [], [], [], []⟩, fun _ => .idle, []⟩

end LineageWorld

def lineageSystem (E : LineageEnv) : System LineageWorld LineageEvent where
  init w := w = .start
  step w event w' := w' = w.step E event

/-- A revision was made from another, over any number of others. -/
def LineageStore.Descends (store : LineageStore) : Nat → Nat → Prop :=
  Relation.ReflTransGen fun parent child =>
    ∃ row, store.revisions[child]? = some row ∧ row.parentRevisionId = some parent

end NewsCraft.Publishing.DryRuns
