import NewsCraft.Lib.Loop
import NewsCraft.Retention.Planning

/-!
# The database phase of a retention run

`execute_db_phase` is one transaction. It proves that the run's snapshot is the one its
token was made of, locks the tables protection depends on, collects the listed records
again, and scrubs or expires each whose digest is still the listed one.

The loop works from the candidates collected before it started, so what it does to one
record does not make another look changed.
-/

namespace NewsCraft.Retention

open Lib Jobs

/-! ## The columns each removal writes -/

def RawPayload.scrubbed (row : RawPayload) : RawPayload :=
  { row with
    requestUrl := rawPayloadScrubbedUrl
    finalUrl := none
    headers := Json.empty
    contentType := none
    rawText := none
    parserWarnings := .arr [] }

def SourceItem.scrubbed (item : SourceItem) : SourceItem :=
  { item with
    titleRaw := none
    externalIdRaw := none
    sourceUrl := none
    canonicalUrlCandidate := none
    summaryRaw := none
    contentHtmlRaw := none
    contentTextRaw := none
    authorRaw := none
    publishedRaw := none
    parserMeta := Json.empty }

def scrubbedJob (row : WorkflowJob) : WorkflowJob :=
  { row with
    payload := Json.empty
    result := Json.empty
    errorClass := none
    errorCode := none
    errorMessage := none
    progressMessage := none }

def WorkflowEvent.scrubbed (event : WorkflowEvent) : WorkflowEvent :=
  { event with eventData := Json.empty }

def ResearchAttempt.scrubbed (row : ResearchAttempt) : ResearchAttempt :=
  { row with
    queries := .arr []
    usage := Json.empty
    errorClass := none
    errorCode := none
    errorMessage := none }

def GenerationAttempt.scrubbed (row : GenerationAttempt) : GenerationAttempt :=
  { row with
    promptSnapshot := Json.empty
    responsePayload := Json.empty
    usage := Json.empty
    validationErrors := .arr []
    errorClass := none
    errorCode := none
    errorMessage := none }

def GenerationRun.scrubbed (run : GenerationRun) : GenerationRun :=
  { run with
    requestPayload := Json.empty
    outputPayload := Json.empty
    errorClass := none
    errorCode := none
    errorMessage := none }

def PublishAttempt.scrubbed (row : PublishAttempt) : PublishAttempt :=
  { row with
    sanitizedPayload := Json.empty
    remoteResponse := Json.empty
    errorClass := none
    errorCode := none
    errorMessage := none }

/-- An expired media row; the server sets `updated_at` on every update. -/
def MediaAsset.expired (media : MediaAsset) (observedAt : Datetime) : MediaAsset :=
  { media with
    storagePath := none
    fetchStatus := "expired"
    rawMetadata := .obj
      [("retention", .obj [("state", .str "expired"), ("expired_at", .str (isoformat observedAt))])]
    updatedAt := observedAt }

def expiredExport (row : WorkflowJob) (reading : ExportReading) (observedAt : Datetime) :
    WorkflowJob :=
  { row with
    result := .obj [("export_id", .str (uuidStr row.id)),
        ("content_pack_id", .str (uuidStr reading.contentPackId)), ("state", .str "expired"),
        ("expired_at", .str (isoformat observedAt))] }

/-- Scrub the rows that belong to a record, and keep the others. -/
def SourceItem.scrubbedWith (payloadId : UUID) (item : SourceItem) : SourceItem :=
  if item.rawPayloadId = some payloadId then item.scrubbed else item

def WorkflowEvent.scrubbedWith (jobId : UUID) (event : WorkflowEvent) : WorkflowEvent :=
  if event.workflowJobId = some jobId then event.scrubbed else event

theorem SourceItem.key_scrubbedWith (payloadId : UUID) (item : SourceItem) :
    Keyed.key (item.scrubbedWith payloadId) = Keyed.key item := by
  rw [scrubbedWith]
  split <;> rfl

theorem WorkflowEvent.key_scrubbedWith (jobId : UUID) (event : WorkflowEvent) :
    Keyed.key (event.scrubbedWith jobId) = Keyed.key event := by
  rw [scrubbedWith]
  split <;> rfl

namespace RetentionDb

variable (db : RetentionDb)

/-- `_scrub_raw_payload`. -/
def scrubRawPayload (recordId : UUID) : RetentionDb :=
  match db.rawPayloads.lookup recordId with
  | none => db
  | some row =>
    { db with
      rawPayloads := db.rawPayloads.put row.scrubbed
      sourceItems := db.sourceItems.map (SourceItem.scrubbedWith recordId)
        (SourceItem.key_scrubbedWith recordId) }

/-- `_scrub_workflow_job`. -/
def scrubWorkflowJob (recordId : UUID) : RetentionDb :=
  match db.jobs.lookup recordId with
  | none => db
  | some row =>
    { db with
      jobs := db.jobs.put (scrubbedJob row)
      events := db.events.map (WorkflowEvent.scrubbedWith recordId)
        (WorkflowEvent.key_scrubbedWith recordId) }

/-- `_scrub_attempt`; `none` when it raises. -/
def scrubAttempt (recordType : RetentionRecordType) (recordId : UUID) : Option RetentionDb :=
  match recordType with
  | .researchAttempt =>
    match db.researchAttempts.lookup recordId with
    | none => some db
    | some row => some { db with researchAttempts := db.researchAttempts.put row.scrubbed }
  | .generationAttempt =>
    match db.generationAttempts.lookup recordId with
    | none => some db
    | some row =>
      some { db with
        generationAttempts := db.generationAttempts.put row.scrubbed
        generationRuns :=
          match db.generationRuns.lookup row.generationRunId with
          | none => db.generationRuns
          | some run => db.generationRuns.put run.scrubbed }
  | .publishAttempt =>
    match db.publishAttempts.lookup recordId with
    | none => some db
    | some row => some { db with publishAttempts := db.publishAttempts.put row.scrubbed }
  | .rawPayload | .workflowJob | .mediaAsset => none

end RetentionDb

/-! ## The loop -/

/-- What the loop is given: the records as collected under lock, and what follows from them. -/
structure ExecutionContext where
  surroundings : Surroundings
  current : List RetentionCandidate
  classification : RetentionDb.MediaClaimClassification
  unchangedMediaIds : List UUID
  invalidGenerationRunIds : List UUID
  observedAt : Datetime

namespace ExecutionContext

variable (C : ExecutionContext)

/-- `current.get(identity)`, of the dictionary the collected candidates make. -/
def currentOf (identity : CandidateIdentity) : Option RetentionCandidate :=
  C.current.reverse.find? fun candidate => candidate.identity = identity

def unchanged (candidate : RetentionCandidate) : Bool :=
  match C.currentOf candidate.identity with
  | none => false
  | some current => current.stateHash = candidate.stateHash

/-- `canonical_path in invalid_canonical_paths`. -/
def invalidCanonicalPath (path : String) : Bool :=
  C.classification.canonicalPaths.any fun (id, claimed) =>
    claimed = path && (C.classification.unclassifiable || !C.unchangedMediaIds.contains id)

end ExecutionContext

structure Execution where
  db : RetentionDb
  counts : RetentionExecutionCounts
  errors : List RetentionRunError
  intents : List RetentionCleanupIntent

namespace Execution

variable (C : ExecutionContext) (e : Execution)

def skip (category : RetentionCategory) : Execution :=
  { e with counts := e.counts.increment .skipped category }

def report (candidate : RetentionCandidate) (code message : String) : Execution :=
  { e with errors := e.errors ++ [⟨"database", some candidate.identity, code, message⟩] }

def reportUnsafeMedia (candidate : RetentionCandidate) : Execution :=
  e.report candidate "unsafe_media_path" "Media storage identity is outside the owned root or unsafe"

def scrubbed (db : RetentionDb) (category : RetentionCategory) : Execution :=
  { e with db := db, counts := e.counts.increment .scrubbed category }

/-- A candidate that changed, or is no longer one. -/
def executeChanged (candidate : RetentionCandidate) : Execution :=
  let unsafeMedia := candidate.recordType = .mediaAsset ∧ C.currentOf candidate.identity = none
    ∧ ∃ path ∈ (e.db.media.lookup candidate.recordId).bind MediaAsset.storagePath,
      C.surroundings.mediaRelativePath path = none
  if unsafeMedia then
    (e.reportUnsafeMedia candidate).skip candidate.category
  else
    e.skip candidate.category

def executeMedia (candidate : RetentionCandidate) : Execution :=
  match e.db.media.lookup candidate.recordId with
  | none => e.skip candidate.category
  | some media =>
    if media.storagePath.isNone then
      e.skip candidate.category
    else
      match C.classification.pathOf media.id with
      | none => (e.reportUnsafeMedia candidate).skip candidate.category
      | some path =>
        if C.invalidCanonicalPath path then
          e.skip candidate.category
        else
          { e with
            db := { e.db with media := e.db.media.put (media.expired C.observedAt) }
            counts := e.counts.increment .expired candidate.category
            intents := e.intents ++ [⟨.unreferencedMedia, candidate.recordId, .deleteFile, path⟩] }

/-- An unchanged export; `none` when its artifact no longer validates. -/
def executeExport (candidate : RetentionCandidate) : Option Execution :=
  match e.db.jobs.lookup candidate.recordId with
  | none => some (e.skip candidate.category)
  | some row =>
    match C.surroundings.exportRelativePath row.id with
    | none =>
      some ((e.report candidate "unsafe_export_path"
        "Export storage identity is outside the owned root or unsafe").skip candidate.category)
    | some path =>
      match C.surroundings.readExport row with
      | none => none
      | some reading =>
        some { e with
          db := { e.db with jobs := e.db.jobs.put (expiredExport row reading C.observedAt) }
          counts := e.counts.increment .expired candidate.category
          intents := e.intents ++ [⟨.exportArtifact, row.id, .deleteTree, path⟩] }

/-- An unchanged record of any other kind; `none` when the category does not scrub. -/
def executeScrub (candidate : RetentionCandidate) : Option Execution :=
  match candidate.category with
  | .rawPayload =>
    some (e.scrubbed (e.db.scrubRawPayload candidate.recordId) candidate.category)
  | .completedJob =>
    some (e.scrubbed (e.db.scrubWorkflowJob candidate.recordId) candidate.category)
  | .attemptMetadata =>
    (e.db.scrubAttempt candidate.recordType candidate.recordId).map fun db =>
      e.scrubbed db candidate.category
  | .exportArtifact | .unreferencedMedia => none

/-- A generation attempt whose run has a changed sibling, or that is gone. -/
def siblingChanged (candidate : RetentionCandidate) : Bool :=
  candidate.recordType = .generationAttempt
    && match e.db.generationAttempts.lookup candidate.recordId with
      | none => true
      | some attempt => C.invalidGenerationRunIds.contains attempt.generationRunId

/-- One round of the loop of `execute_db_phase`; `none` when it raises. -/
def executeCandidate (e : Execution) (candidate : RetentionCandidate) : Option Execution :=
  if !C.unchanged candidate then
    some (executeChanged C e candidate)
  else if siblingChanged C e candidate then
    some (e.skip candidate.category)
  else if candidate.recordType = .mediaAsset then
    some (executeMedia C e candidate)
  else if candidate.category = .exportArtifact then
    executeExport C e candidate
  else
    executeScrub e candidate

end Execution

namespace RetentionDb

variable (S : Surroundings) (db : RetentionDb)

/-! ## The phase -/

/-- `_revalidate`, and the classifications that follow from it. -/
def executionContext (run : RetentionRun) (candidates : List RetentionCandidate)
    (now observedAt : Datetime) : ExecutionContext :=
  let current := db.collectCandidates S run.policySnapshot now
    (some (candidates.map RetentionCandidate.identity))
  let bare : ExecutionContext :=
    { surroundings := S
      current := current
      classification := classifiedMediaClaims S db.storedMedia
      unchangedMediaIds := []
      invalidGenerationRunIds := []
      observedAt := observedAt }
  { bare with
    unchangedMediaIds := (candidates.filter fun candidate =>
      candidate.recordType = .mediaAsset && bare.unchanged candidate).map
        RetentionCandidate.recordId
    invalidGenerationRunIds := (candidates.filter fun candidate =>
      candidate.recordType = .generationAttempt && !bare.unchanged candidate).filterMap
        fun candidate => (db.generationAttempts.lookup candidate.recordId).map
          GenerationAttempt.generationRunId }

/-- `_fail_run`. -/
def failRun (run : RetentionRun) (code message : String) (observedAt : Datetime) : RetentionDb :=
  { db with runs := db.runs.put { run with
      status := .failed
      finishedAt := some observedAt
      errorSnapshot := run.errorSnapshot ++ [⟨"database", none, code, message⟩] } }

/-- `_executable_candidates`, with the tables a failed run leaves behind. -/
def executableCandidates (run : RetentionRun) (previewToken : String) (observedAt : Datetime) :
    Except (RetentionError × RetentionDb) (List RetentionCandidate) :=
  match snapshotCandidates run with
  | none =>
    .error (.conflict "persisted retention candidate snapshot is invalid",
      db.failRun run "retention_snapshot_invalid"
        "The persisted retention candidate snapshot is invalid" observedAt)
  | some candidates =>
    if buildPreviewToken S.digest run.policySnapshot candidates run.schemaRevision
        ≠ previewToken then
      .error (.conflict "preview token does not match its server snapshot",
        db.failRun run "retention_snapshot_token_invalid"
          "The persisted retention preview no longer matches its token" observedAt)
    else
      .ok candidates

/-- `_execution_plan`. -/
def executionPlan (run : RetentionRun) : RetentionExecutionPlan :=
  ⟨run.id, run.previewToken, run.cleanupIntentSnapshot, run.counts⟩

/-- The loop of `execute_db_phase` over the listed candidates. -/
def executeCandidates (run : RetentionRun) (candidates : List RetentionCandidate)
    (now observedAt : Datetime) : Option Execution :=
  candidates.foldlM
    (Execution.executeCandidate (db.executionContext S run candidates now observedAt))
    ⟨db, run.counts, run.errorSnapshot, []⟩

/-- The run once its candidates have been executed. -/
def executedRun (run : RetentionRun) (e : Execution) (observedAt : Datetime) : RetentionRun :=
  { run with
    status := .running
    startedAt := some (run.startedAt.getD observedAt)
    cleanupIntentSnapshot := e.intents
    counts := e.counts.copy .skipped .databaseSkipped
    errorSnapshot := e.errors }

/-- `execute_db_phase`: its outcome, and the tables it leaves. `now` and `observedAt` are
two readings of the clock. -/
def executeDbPhase (runId : UUID) (previewToken : String) (now observedAt : Datetime) :
    Except RetentionError RetentionExecutionPlan × RetentionDb :=
  match db.runs.lookup runId with
  | none => (.error (.notFound ("retention run " ++ uuidStr runId ++ " was not found")), db)
  | some run =>
    if run.previewToken ≠ previewToken then
      (.error (.conflict "preview token does not match the retention run"), db)
    else if run.schemaRevision ≠ retentionSchemaRevision then
      (.error (.conflict "preview schema revision is no longer executable"),
        db.failRun run "retention_schema_changed"
          "The retention preview schema is no longer executable" observedAt)
    else if run.status = .running ∨ run.status = .succeeded ∨ run.status = .partially then
      (.ok (executionPlan run), db)
    else if run.status ≠ .queued then
      (.error (.conflict
        ("retention run cannot execute from status '" ++ run.status.text ++ "'")), db)
    else
      match db.executableCandidates S run previewToken observedAt with
      | .error (error, db) => (.error error, db)
      | .ok candidates =>
        match db.executeCandidates S run candidates now observedAt with
        | none => (.error .unexpected, db)
        | some e =>
          let run := executedRun run e observedAt
          (.ok (executionPlan run), { e.db with runs := e.db.runs.put run })

end RetentionDb

end NewsCraft.Retention
