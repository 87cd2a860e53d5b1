import NewsCraft.Core.RedactAgain
import NewsCraft.Generation.Revisions

/-!
# The checkpoint of a platform's stage

A stage of a pack calls the provider, stores the output with its run, builds a revision of
it and writes into the stored output where the revision is. A job that runs again reads the
output back, builds the revision once more and compares. What is stored is redacted, each
time it is written.

A schema stands for the pydantic model of a platform and for the checks of evidence and
media. One worker runs the job at a time, and everything else adds revisions of its own or
decides the ones there are.
-/

namespace NewsCraft.Generation.Checkpoint

open Lib Redact

/-! ## Rows -/

structure ValidationIssue where
  code : String
  message : String
  isError : Bool

/-- An item of `validation_results`. -/
structure Gate where
  gate : String
  ok : Bool
  reason : Option String
  deriving DecidableEq

/-- `revision_gates_from_issues`. -/
def revisionGatesFromIssues (issues : List ValidationIssue) : List Gate :=
  if issues.isEmpty then
    [⟨"platform_schema", true, none⟩]
  else
    issues.map fun issue => ⟨issue.code, !issue.isError, some issue.message⟩

structure ContentPack where
  id : UUID
  storyRevisionId : UUID
  brandProfileId : UUID

structure PlatformVariant where
  id : UUID
  contentPackId : UUID
  platform : Platform

structure PlatformVariantRevision where
  id : UUID
  platformVariantId : UUID
  parentRevisionId : Option UUID
  generationAttemptId : Option UUID
  revisionNumber : Nat
  content : Json
  contentHash : String
  evidenceMap : Json
  validationResults : List Gate
  approvalState : VariantApprovalState

instance : Keyed ContentPack UUID := ⟨ContentPack.id⟩
instance : Keyed PlatformVariant UUID := ⟨PlatformVariant.id⟩
instance : Keyed PlatformVariantRevision UUID := ⟨PlatformVariantRevision.id⟩

structure PackTables where
  packs : Table ContentPack
  variants : Table PlatformVariant
  revisions : Table PlatformVariantRevision

/-- A run that succeeded: its output, and the attempt that did. -/
structure GenerationRun where
  outputPayload : List (String × Json)
  attemptId : UUID

/-! ## Stages -/

inductive StageStop where
  | outputInvalid
  | citationIntegrity
  | transitionInvalid
  | checkpointInvalid
  | telegramParentInvalid
  | mediaIntegrity
  | regenerationBaseStale
  deriving DecidableEq

def StageStop.code : StageStop → String
  | .outputInvalid => "generation_output_invalid"
  | .citationIntegrity => "citation_integrity"
  | .transitionInvalid => "state_transition_invalid"
  | .checkpointInvalid => "generation_checkpoint_invalid"
  | .telegramParentInvalid => "generation_telegram_parent_invalid"
  | .mediaIntegrity => "media_integrity"
  | .regenerationBaseStale => "generation_regeneration_base_stale"

def platformName : Platform → String
  | .telegram => "telegram"
  | .instagram => "instagram"
  | .x => "x"
  | .blog => "blog"

/-- What a stage is given, and what it does with an output `α` that its schema accepts. -/
structure PlatformStage (α : Type) where
  text : PythonText
  url : PythonUrl
  sha256Canonical : Json → String
  platform : Platform
  storyRevisionId : UUID
  brandProfileId : UUID
  regeneration : Option RegenerationContext
  /-- The citations of the story, which a Telegram revision has for its evidence. -/
  storyCitations : Json
  validateOutput : Json → Except StageStop α
  modelDump : α → Json
  orderedDistinctCitations : α → Json
  validatePlatformPayload : α → List ValidationIssue
  validateCitations : α → Json → Bool
  validatePayloadMediaAssignments : α → Bool
  /-- The Telegram content with what it takes of its parent; `none` where it is invalid. -/
  assembleTelegramVariant : α → Option Json → Option Json
  /-- The issues of a Telegram content; `none` where it does not validate. -/
  validateTelegramPayload : Json → Option (List ValidationIssue)

variable {α : Type} (S : PlatformStage α)

/-- `_redacted_dict`. -/
def redactedDict (fields : List (String × Json)) : List (String × Json) :=
  match redactSecrets S.text (redactString S.text S.url []) 0 (.obj fields) with
  | .obj redacted => redacted
  | _ => []

structure Material where
  content : Json
  evidenceMap : Json
  validationResults : List Gate

/-- `_assemble_telegram_revision`, and whether it has errors. -/
def assembleTelegramRevision (authored : α) (parent : Option PlatformVariantRevision) :
    Option (Material × Bool) :=
  (S.assembleTelegramVariant authored (parent.map PlatformVariantRevision.content)).bind
    fun content => (S.validateTelegramPayload content).map fun issues =>
      (⟨content, S.storyCitations, revisionGatesFromIssues issues⟩,
        issues.any ValidationIssue.isError)

/-- `revision_material`, of the platforms other than Telegram. -/
def revisionMaterial (authored : α) : Material × Bool :=
  let issues := S.validatePlatformPayload authored
  (⟨S.modelDump authored, S.orderedDistinctCitations authored, revisionGatesFromIssues issues⟩,
    issues.any ValidationIssue.isError)

/-- What an authored output comes to on the platform. -/
def expectedMaterial (authored : α) (parent : Option PlatformVariantRevision) :
    Option (Material × Bool) :=
  if S.platform = .telegram then assembleTelegramRevision S authored parent
  else some (revisionMaterial S authored)

/-- `_materialize_revision`. -/
def materializeRevision (authored : α) (parent : Option PlatformVariantRevision) :
    Except StageStop (Material × Bool) :=
  if S.platform ≠ .telegram ∧ S.validatePayloadMediaAssignments authored = false then
    .error .mediaIntegrity
  else
    match expectedMaterial S authored parent with
    | none => .error .telegramParentInvalid
    | some material => .ok material

/-! ## The first pass -/

namespace PackTables

variable (tables : PackTables)

def current (variantId : UUID) : Option PlatformVariantRevision :=
  (tables.revisions.rows.filter fun row => row.platformVariantId = variantId).argmax
    PlatformVariantRevision.revisionNumber

/-- `_draft_pack`, as far as its rows go. -/
def draftPack (packId : UUID) : PackTables × ContentPack :=
  let found := tables.packs.rows.find? fun pack =>
    pack.storyRevisionId = S.storyRevisionId ∧ pack.brandProfileId = S.brandProfileId
  match found with
  | some pack => (tables, pack)
  | none =>
    let pack : ContentPack := ⟨packId, S.storyRevisionId, S.brandProfileId⟩
    ({ tables with packs := tables.packs.insert pack }, pack)

/-- `_platform_variant`. -/
def platformVariant (packId variantId : UUID) : PackTables × PlatformVariant :=
  let found := tables.variants.rows.find? fun variant =>
    variant.contentPackId = packId ∧ variant.platform = S.platform
  match found with
  | some variant => (tables, variant)
  | none =>
    let variant : PlatformVariant := ⟨variantId, packId, S.platform⟩
    ({ tables with variants := tables.variants.insert variant }, variant)

/-- `_revision_parent`: no revision is of the attempt yet. -/
def revisionParent (variantId attemptId : UUID) :
    Except StageStop (Option PlatformVariantRevision) :=
  if tables.revisions.rows.any fun row => row.generationAttemptId = some attemptId then
    .error .checkpointInvalid
  else
    .ok (tables.current variantId)

end PackTables

/-- `_require_variant_write`: a regeneration writes on its base. -/
def requireVariantWrite (variantId : UUID) (parent : Option PlatformVariantRevision) :
    Except StageStop Unit :=
  match S.regeneration with
  | none => .ok ()
  | some regeneration =>
    if variantId = regeneration.variantId
        ∧ parent.any fun row => row.id = regeneration.baseRevisionId
          ∧ row.contentHash = regeneration.baseContentHash then
      .ok ()
    else
      .error .regenerationBaseStale

/-- `sha256_canonical({"content": content, "evidence_map": evidence_map})`. -/
def contentHash (content evidenceMap : Json) : String :=
  S.sha256Canonical (.obj [("content", content), ("evidence_map", evidenceMap)])

/-- The revision `_persist_new_artifact` adds. -/
def newRevision (variantId revisionId attemptId : UUID) (parent : Option PlatformVariantRevision)
    (material : Material) : PlatformVariantRevision where
  id := revisionId
  platformVariantId := variantId
  parentRevisionId := parent.map PlatformVariantRevision.id
  generationAttemptId := some attemptId
  revisionNumber := (parent.map PlatformVariantRevision.revisionNumber).getD 0 + 1
  content := material.content
  contentHash := contentHash S material.content material.evidenceMap
  evidenceMap := material.evidenceMap
  validationResults := material.validationResults
  approvalState := .pendingReview

/-- `_artifact`. -/
def artifactOf (packId variantId revisionId : UUID) : Json :=
  .obj [("content_pack_id", .str (uuidStr packId)), ("variant_id", .str (uuidStr variantId)),
    ("revision_id", .str (uuidStr revisionId)), ("platform", .str (platformName S.platform))]

/-- What a first pass leaves: the tables, the pack, the revision and whether it has errors. -/
structure Persisted where
  tables : PackTables
  packId : UUID
  revision : PlatformVariantRevision
  hasErrors : Bool

/-- `_persist_new_artifact`; the ids are those of the rows it makes. -/
def persistNewArtifact (tables : PackTables) (authored : α) (attemptId : UUID)
    (packId variantId revisionId : UUID) : Except StageStop Persisted :=
  let drafted := tables.draftPack S packId
  let written := drafted.1.platformVariant S drafted.2.id variantId
  match written.1.revisionParent written.2.id attemptId with
  | .error stop => .error stop
  | .ok parent =>
    match requireVariantWrite S written.2.id parent with
    | .error stop => .error stop
    | .ok () =>
      match materializeRevision S authored parent with
      | .error stop => .error stop
      | .ok (material, hasErrors) =>
        let revision :=
          newRevision S written.2.id revisionId attemptId parent material
        .ok ⟨{ written.1 with revisions := written.1.revisions.insert revision },
          drafted.2.id, revision, hasErrors⟩

/-! ## The second pass -/

/-- `str(value)`, of the values that can be read as an identifier. -/
def pythonStr : Json → Option String
  | .str text => some text
  | .int n => some (toString n)
  | .null | .bool _ | .float _ | .arr _ | .obj _ => none

/-- `_durable_artifact`. -/
def durableArtifact (output : List (String × Json)) :
    Except StageStop (Option (List (String × Json))) :=
  match (Json.obj output).get? "_artifact" with
  | none => .ok none
  | some .null => .ok none
  | some (.obj artifact) =>
    if ["content_pack_id", "variant_id", "revision_id"].all fun name =>
        ((Json.obj artifact).get? name).isSome then
      .ok (some artifact)
    else
      .error .checkpointInvalid
  | some _ => .error .checkpointInvalid

/-- `str(artifact[name])`. -/
def artifactText (artifact : List (String × Json)) (name : String) : Option String :=
  ((Json.obj artifact).get? name).bind pythonStr

/-- `_checkpoint_ids`. -/
def checkpointId (artifact : List (String × Json)) (name : String) : Option UUID :=
  (artifactText artifact name).bind parseUuid

/-- `_checkpoint_parent`. -/
def checkpointParent (tables : PackTables) (revision : PlatformVariantRevision) :
    Except StageStop (Option PlatformVariantRevision) :=
  if S.platform ≠ .telegram ∧ S.regeneration = none then
    .ok none
  else
    let parent := revision.parentRevisionId.bind tables.revisions.lookup
    if revision.parentRevisionId.isSome ∧ parent.all (fun row =>
        row.platformVariantId ≠ revision.platformVariantId) then
      .error .checkpointInvalid
    else if S.regeneration.any fun regeneration =>
        revision.parentRevisionId ≠ some regeneration.baseRevisionId
          ∨ parent.all (fun row => row.contentHash ≠ regeneration.baseContentHash) then
      .error .checkpointInvalid
    else
      .ok parent

/-- `_require_checkpoint_linkage`. -/
def checkpointLinked (artifact : List (String × Json)) (pack : ContentPack)
    (variant : PlatformVariant) (revision : PlatformVariantRevision) (attemptId : UUID)
    (expected : Material) : Bool :=
  (Json.obj artifact).get? "platform" = some (.str (platformName S.platform))
    ∧ variant.platform = S.platform
    ∧ revision.platformVariantId = variant.id
    ∧ variant.contentPackId = pack.id
    ∧ pack.storyRevisionId = S.storyRevisionId
    ∧ pack.brandProfileId = S.brandProfileId
    ∧ revision.generationAttemptId = some attemptId
    ∧ revision.content = expected.content
    ∧ revision.evidenceMap = expected.evidenceMap
    ∧ revision.validationResults = expected.validationResults
    ∧ revision.contentHash = contentHash S revision.content revision.evidenceMap

/-- `_checkpoint_rows`. -/
def checkpointRows (tables : PackTables) (artifact : List (String × Json)) :
    Option (ContentPack × PlatformVariant × PlatformVariantRevision) :=
  match checkpointId artifact "content_pack_id", checkpointId artifact "variant_id",
      checkpointId artifact "revision_id" with
  | some packId, some variantId, some revisionId =>
    match tables.packs.lookup packId, tables.variants.lookup variantId,
        tables.revisions.lookup revisionId with
    | some pack, some variant, some revision => some (pack, variant, revision)
    | _, _, _ => none
  | _, _, _ => none

/-- The checks of evidence and media that come after the linkage. -/
def requireCheckpointSources (authored : α) (evidenceMap : Json) (gates : List Gate) :
    Except StageStop Bool :=
  if gates.isEmpty then
    .error .checkpointInvalid
  else if S.validateCitations authored evidenceMap = false then
    .error .citationIntegrity
  else if S.platform ≠ .telegram ∧ S.validatePayloadMediaAssignments authored = false then
    .error .mediaIntegrity
  else
    .ok (gates.any fun gate => !gate.ok)

/-- `artifact_requires_review`. -/
def artifactRequiresReview (tables : PackTables) (attemptId : UUID) (authored : α)
    (artifact : List (String × Json)) : Except StageStop Bool :=
  match checkpointRows tables artifact with
  | none => .error .checkpointInvalid
  | some (pack, variant, revision) =>
    match checkpointParent S tables revision with
    | .error stop => .error stop
    | .ok parent =>
      match expectedMaterial S authored parent with
      | none => .error .checkpointInvalid
      | some (expected, _) =>
        if checkpointLinked S artifact pack variant revision attemptId expected = true then
          requireCheckpointSources S authored expected.evidenceMap revision.validationResults
        else
          .error .checkpointInvalid

/-! ## The job -/

inductive Outcome where
  | completed (variantId revisionId : String) (hasErrors : Bool)
  | stopped (stop : StageStop)

structure StageWorld (α : Type) where
  run : Option GenerationRun
  tables : PackTables
  /-- The authored output that the worker has in hand. -/
  hand : Option α
  outcomes : List Outcome

inductive StageEvent where
  /-- A worker invokes the stage; the output and the attempt are those of a call, if it makes
  one. -/
  | invoke (output : List (String × Json)) (attemptId : UUID)
  /-- The revision is persisted, or compared with what was. -/
  | finish (packId variantId revisionId : UUID)
  | crash
  /-- Something else changes the tables. -/
  | other (tables : PackTables)

def readBack (output : List (String × Json)) : Json :=
  .obj (output.filter fun field => field.1 ≠ "_artifact")

namespace StageWorld

variable (w : StageWorld α)

def ends (outcome : Outcome) : StageWorld α :=
  { w with
    hand := none
    outcomes := w.outcomes ++ [outcome] }

/-- `invoke`: a run that succeeded is reused, and without one the provider is called. -/
def invoke (output : List (String × Json)) (attemptId : UUID) : StageWorld α :=
  match w.run with
  | some run =>
    if run.outputPayload.isEmpty then
      w.ends (.stopped .transitionInvalid)
    else
      match S.validateOutput (readBack run.outputPayload) with
      | .error stop => w.ends (.stopped stop)
      | .ok authored => { w with hand := some authored }
  | none =>
    match S.validateOutput (.obj output) with
    | .error stop => w.ends (.stopped stop)
    | .ok authored =>
      { w with
        run := some ⟨redactedDict S output, attemptId⟩
        hand := some authored }

/-- `_reuse_artifact`. -/
def reuseArtifact (run : GenerationRun) (authored : α) (artifact : List (String × Json)) :
    StageWorld α :=
  match artifactRequiresReview S w.tables run.attemptId authored artifact with
  | .error stop => w.ends (.stopped stop)
  | .ok hasErrors =>
    w.ends (.completed ((artifactText artifact "variant_id").getD "")
      ((artifactText artifact "revision_id").getD "") hasErrors)

def persisted (run : GenerationRun) (result : Persisted) : StageWorld α where
  run := some { run with
    outputPayload := redactedDict S (putField run.outputPayload "_artifact"
      (artifactOf S result.packId result.revision.platformVariantId result.revision.id)) }
  tables := result.tables
  hand := none
  outcomes := w.outcomes ++ [.completed (uuidStr result.revision.platformVariantId)
    (uuidStr result.revision.id) result.hasErrors]

def idsTaken (packId variantId revisionId : UUID) : Bool :=
  (w.tables.packs.lookup packId).isSome || (w.tables.variants.lookup variantId).isSome
    || (w.tables.revisions.lookup revisionId).isSome

/-- `_process_platform`, once the output is there. -/
def finish (packId variantId revisionId : UUID) : StageWorld α :=
  match w.hand, w.run with
  | some authored, some run =>
    match durableArtifact run.outputPayload with
    | .error stop => w.ends (.stopped stop)
    | .ok (some artifact) => w.reuseArtifact S run authored artifact
    | .ok none =>
      match persistNewArtifact S w.tables authored run.attemptId packId variantId
          revisionId with
      | .error stop => w.ends (.stopped stop)
      | .ok result =>
        if w.idsTaken packId variantId revisionId = true then { w with hand := none }
        else w.persisted S run result
  | _, _ => w

def next : StageEvent → StageWorld α
  | .invoke output attemptId => w.invoke S output attemptId
  | .finish packId variantId revisionId => w.finish S packId variantId revisionId
  | .crash => { w with hand := none }
  | .other tables => { w with tables := tables }

/-- What else goes on keeps the rows: a revision is decided, and new ones are not of this
attempt. -/
structure KeepsRows (attemptId : Option UUID) (before after : PackTables) : Prop where
  packs : ∀ id pack, before.packs.lookup id = some pack → after.packs.lookup id = some pack
  variants : ∀ id variant, before.variants.lookup id = some variant →
    after.variants.lookup id = some variant
  revisions : ∀ id revision, before.revisions.lookup id = some revision →
    ∃ state, after.revisions.lookup id = some { revision with approvalState := state }
  added : ∀ revision ∈ after.revisions.rows, revision.generationAttemptId.isSome →
    revision.generationAttemptId = attemptId → (before.revisions.lookup revision.id).isSome

/-- A new attempt has no revisions, and what else goes on keeps the rows. -/
def Open : StageEvent → Prop
  | .invoke _ attemptId => w.run = none → ∀ row ∈ w.tables.revisions.rows,
      row.generationAttemptId ≠ some attemptId
  | .other tables => KeepsRows (w.run.map GenerationRun.attemptId) w.tables tables
  | .finish _ _ _ => True
  | .crash => True

end StageWorld

/-- A job at one stage, in every history of its executions. -/
def stageSystem : System (StageWorld α) StageEvent where
  init w := w.run = none ∧ w.hand = none
  step w event w' := w.Open event ∧ w' = w.next S event

end NewsCraft.Generation.Checkpoint
