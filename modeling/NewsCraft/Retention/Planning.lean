import NewsCraft.Retention.Contracts

/-!
# What retention may remove

`collect_candidates` reads the records that are old enough and that nothing protects, and
takes the digest of the state of each. The state of a raw payload includes its source items,
that of a job its events and that of a generation attempt its run: they are removed together.

The tables that only protect records (publications, publish jobs, story evidence, platform
variants, research runs) are not part of the model: what they protect is an argument, and so
is what the file system says.
-/

namespace NewsCraft.Retention

open Lib Jobs List

/-! ## Rows -/

structure RawPayload where
  id : UUID
  requestUrl : String
  finalUrl : Option String
  httpStatus : Option Int
  headers : Json
  contentType : Option String
  bodySha256 : Option String
  rawText : Option String
  parserWarnings : Json
  capturedAt : Datetime

structure SourceItem where
  id : UUID
  rawPayloadId : Option UUID
  externalIdRaw : Option String
  sourceUrl : Option String
  canonicalUrlCandidate : Option String
  titleRaw : Option String
  summaryRaw : Option String
  contentHtmlRaw : Option String
  contentTextRaw : Option String
  authorRaw : Option String
  publishedRaw : Option String
  parserMeta : Json
  deriving DecidableEq

structure WorkflowEvent where
  id : UUID
  workflowJobId : Option UUID
  eventType : String
  eventData : Json

structure ResearchAttempt where
  id : UUID
  researchRunId : UUID
  status : String
  queries : Json
  usage : Json
  errorClass : Option String
  errorCode : Option String
  errorMessage : Option String
  finishedAt : Option Datetime

structure GenerationAttempt where
  id : UUID
  generationRunId : UUID
  status : String
  promptSnapshot : Json
  responsePayload : Json
  usage : Json
  validationErrors : Json
  errorClass : Option String
  errorCode : Option String
  errorMessage : Option String
  finishedAt : Option Datetime

structure GenerationRun where
  id : UUID
  storyRevisionId : Option UUID
  status : String
  requestPayload : Json
  outputPayload : Json
  errorClass : Option String
  errorCode : Option String
  errorMessage : Option String
  finishedAt : Option Datetime

structure PublishAttempt where
  id : UUID
  publishJobId : UUID
  status : String
  httpStatus : Option Int
  sanitizedPayload : Json
  remoteResponse : Json
  errorClass : Option String
  errorCode : Option String
  errorMessage : Option String
  finishedAt : Option Datetime

structure MediaAsset where
  id : UUID
  storagePath : Option String
  fetchStatus : String
  byteLength : Option Int
  checksumSha256 : Option String
  rawMetadata : Json
  createdAt : Datetime
  updatedAt : Datetime

instance : Keyed RetentionRun UUID := ⟨RetentionRun.id⟩
instance : Keyed RawPayload UUID := ⟨RawPayload.id⟩
instance : Keyed SourceItem UUID := ⟨SourceItem.id⟩
instance : Keyed WorkflowEvent UUID := ⟨WorkflowEvent.id⟩
instance : Keyed ResearchAttempt UUID := ⟨ResearchAttempt.id⟩
instance : Keyed GenerationAttempt UUID := ⟨GenerationAttempt.id⟩
instance : Keyed GenerationRun UUID := ⟨GenerationRun.id⟩
instance : Keyed PublishAttempt UUID := ⟨PublishAttempt.id⟩
instance : Keyed MediaAsset UUID := ⟨MediaAsset.id⟩

structure RetentionDb where
  runs : Table RetentionRun
  rawPayloads : Table RawPayload
  sourceItems : Table SourceItem
  jobs : Table WorkflowJob
  events : Table WorkflowEvent
  researchAttempts : Table ResearchAttempt
  generationAttempts : Table GenerationAttempt
  generationRuns : Table GenerationRun
  publishAttempts : Table PublishAttempt
  media : Table MediaAsset

/-- What an export's row says, once its artifact and its payload have been validated
and found to agree. -/
structure ExportReading where
  contentPackId : UUID
  byteLength : Int

/-- What retention is told about everything it does not write. -/
structure Surroundings where
  /-- `state_hash`, and the length of the canonical text it is taken of. -/
  digest : Json → String
  jsonByteLength : Json → Int
  /-- Payloads whose items are evidence of a story. -/
  protectedRawPayloadIds : List UUID
  /-- Jobs that drive a publish job. -/
  publishingJobIds : List UUID
  /-- Jobs whose events mention a published revision. -/
  publicationReferencingJobIds : List UUID
  /-- Research runs that succeeded and whose result went into no story revision. -/
  disposableResearchRunIds : List UUID
  /-- Generation attempts a platform variant revision came from. -/
  referencedGenerationAttemptIds : List UUID
  /-- Publish jobs with a publication, a receipt pending or ambiguous, or another
  status than succeeded. -/
  protectedPublishJobIds : List UUID
  referencedMediaIds : List UUID
  readExport : WorkflowJob → Option ExportReading
  /-- `media_claim_identity`, `media_relative_path` and `export_relative_path`; `none`
  where they raise `UnsafeStoragePath`. -/
  mediaClaimIdentity : String → Option String
  mediaRelativePath : String → Option String
  exportRelativePath : UUID → Option String

/-! ## States -/

def rawPayloadScrubbedUrl : String := "retention:scrubbed"

def byId {ρ : Type} [Keyed ρ UUID] (rows : List ρ) : List ρ :=
  rows.insertionSort fun a b => (Keyed.key a : UUID).int.toNat ≤ (Keyed.key b : UUID).int.toNat

namespace RetentionDb

variable (db : RetentionDb)

def itemsOf (payloadId : UUID) : List SourceItem :=
  byId (db.sourceItems.rows.filter fun item => item.rawPayloadId = some payloadId)

def itemState (item : SourceItem) : Json :=
  .obj
    [("id", .str (uuidStr item.id)), ("external_id_raw", .ofText item.externalIdRaw),
      ("source_url", .ofText item.sourceUrl),
      ("canonical_url_candidate", .ofText item.canonicalUrlCandidate),
      ("title_raw", .ofText item.titleRaw), ("summary_raw", .ofText item.summaryRaw),
      ("content_html_raw", .ofText item.contentHtmlRaw),
      ("content_text_raw", .ofText item.contentTextRaw), ("author_raw", .ofText item.authorRaw),
      ("published_raw", .ofText item.publishedRaw), ("parser_meta", item.parserMeta)]

/-- `_raw_state`. -/
def rawState (row : RawPayload) : Json :=
  .obj
    [("request_url", .str row.requestUrl), ("final_url", .ofText row.finalUrl),
      ("http_status", .ofInt row.httpStatus), ("headers", row.headers),
      ("content_type", .ofText row.contentType), ("body_sha256", .ofText row.bodySha256),
      ("raw_text", .ofText row.rawText), ("parser_warnings", row.parserWarnings),
      ("captured_at", .ofTime (some row.capturedAt)),
      ("source_items", .arr ((db.itemsOf row.id).map itemState))]

def statusText : JobStatus → String
  | .queued => "queued"
  | .running => "running"
  | .succeeded => "succeeded"
  | .failed => "failed"
  | .needsReview => "needs_review"
  | .cancelled => "cancelled"

def errorClassText : JobErrorClass → String
  | .retryable => "retryable"
  | .needsReview => "needs_review"
  | .permanent => "permanent"

def eventsOf (jobId : UUID) : List WorkflowEvent :=
  byId (db.events.rows.filter fun event => event.workflowJobId = some jobId)

def eventState (event : WorkflowEvent) : Json :=
  .obj
    [("id", .str (uuidStr event.id)), ("event_type", .str event.eventType),
      ("event_data", event.eventData)]

/-- `_job_state`. -/
def jobState (row : WorkflowJob) : Json :=
  .obj
    [("status", .str (statusText row.status)), ("payload", row.payload), ("result", row.result),
      ("error_class", .ofText (row.errorClass.map errorClassText)),
      ("error_code", .ofText row.errorCode), ("error_message", .ofText row.errorMessage),
      ("progress_message", .ofText row.progressMessage), ("finished_at", .ofTime row.finishedAt),
      ("events", .arr ((db.eventsOf row.id).map eventState))]

/-- `_research_attempt_state`. -/
def researchAttemptState (row : ResearchAttempt) : Json :=
  .obj
    [("queries", row.queries), ("usage", row.usage), ("status", .str row.status),
      ("error_class", .ofText row.errorClass), ("error_code", .ofText row.errorCode),
      ("error_message", .ofText row.errorMessage), ("finished_at", .ofTime row.finishedAt)]

def generationRunState (run : GenerationRun) : Json :=
  .obj
    [("status", .str run.status), ("request_payload", run.requestPayload),
      ("output_payload", run.outputPayload), ("error_class", .ofText run.errorClass),
      ("error_code", .ofText run.errorCode), ("error_message", .ofText run.errorMessage),
      ("finished_at", .ofTime run.finishedAt)]

/-- `_generation_attempt_state`. -/
def generationAttemptState (row : GenerationAttempt) : Json :=
  .obj
    [("prompt_snapshot", row.promptSnapshot), ("response_payload", row.responsePayload),
      ("usage", row.usage), ("validation_errors", row.validationErrors),
      ("status", .str row.status), ("error_class", .ofText row.errorClass),
      ("error_code", .ofText row.errorCode), ("error_message", .ofText row.errorMessage),
      ("finished_at", .ofTime row.finishedAt),
      ("generation_run",
        match db.generationRuns.lookup row.generationRunId with
        | none => .null
        | some run => generationRunState run)]

/-- `_publish_attempt_state`. -/
def publishAttemptState (row : PublishAttempt) : Json :=
  .obj
    [("sanitized_payload", row.sanitizedPayload), ("remote_response", row.remoteResponse),
      ("status", .str row.status), ("http_status", .ofInt row.httpStatus),
      ("error_class", .ofText row.errorClass), ("error_code", .ofText row.errorCode),
      ("error_message", .ofText row.errorMessage), ("finished_at", .ofTime row.finishedAt)]

def exportState (row : WorkflowJob) : Json :=
  .obj
    [("status", .str (statusText row.status)), ("created_at", .ofTime (some row.createdAt)),
      ("finished_at", .ofTime row.finishedAt), ("payload", row.payload), ("result", row.result)]

/-- `_media_state`. -/
def mediaState (row : MediaAsset) : Json :=
  .obj
    [("storage_path", .ofText row.storagePath), ("fetch_status", .str row.fetchStatus),
      ("byte_length", .ofInt row.byteLength), ("checksum_sha256", .ofText row.checksumSha256),
      ("raw_metadata", row.rawMetadata), ("updated_at", .ofTime (some row.updatedAt))]

/-- The state of the record a candidate names, as its collector would read it now. -/
def stateOf : CandidateIdentity → Option Json
  | ⟨.rawPayload, .rawPayload, id⟩ => (db.rawPayloads.lookup id).map db.rawState
  | ⟨.completedJob, .workflowJob, id⟩ => (db.jobs.lookup id).map db.jobState
  | ⟨.attemptMetadata, .researchAttempt, id⟩ =>
    (db.researchAttempts.lookup id).map researchAttemptState
  | ⟨.attemptMetadata, .generationAttempt, id⟩ =>
    (db.generationAttempts.lookup id).map db.generationAttemptState
  | ⟨.attemptMetadata, .publishAttempt, id⟩ =>
    (db.publishAttempts.lookup id).map publishAttemptState
  | ⟨.exportArtifact, .workflowJob, id⟩ => (db.jobs.lookup id).map exportState
  | ⟨.unreferencedMedia, .mediaAsset, id⟩ => (db.media.lookup id).map mediaState
  | _ => none

/-! ## Collectors -/

variable (S : Surroundings) (policy : RetentionPolicyInput) (now : Datetime)

/-- `finished_at < cutoff`, which no missing time satisfies. -/
def before (time : Option Datetime) (cutoff : Datetime) : Bool :=
  match time with
  | none => false
  | some time => decide (time < cutoff)

def hasText (text : Option String) : Bool := text.getD "" ≠ ""

def itemHasData (item : SourceItem) : Bool :=
  hasText item.titleRaw || hasText item.externalIdRaw || hasText item.sourceUrl
    || hasText item.canonicalUrlCandidate || hasText item.summaryRaw
    || hasText item.contentHtmlRaw || hasText item.contentTextRaw || hasText item.authorRaw
    || hasText item.publishedRaw || item.parserMeta.truthy

/-- Whether `_raw_payload_candidates` keeps a row. -/
def rawPayloadEligible (row : RawPayload) : Bool :=
  decide (row.capturedAt < now - timedeltaDays policy.rawPayloadDays)
    && !S.protectedRawPayloadIds.contains row.id
    && !(row.requestUrl = rawPayloadScrubbedUrl && row.finalUrl.isNone
      && row.headers = Json.empty && row.contentType.isNone && row.rawText.isNone
      && row.parserWarnings = .arr [] && (db.itemsOf row.id).all fun item => !itemHasData item)

/-- Whether `_completed_job_candidates` keeps a row. -/
def completedJobEligible (row : WorkflowJob) : Bool :=
  before row.finishedAt (now - timedeltaDays policy.completedJobDays)
    && (row.status = .succeeded || row.status = .cancelled)
    && row.jobType ≠ "build_export" && row.jobType ≠ "execute_retention"
    && !S.publishingJobIds.contains row.id
    && !(db.runs.rows.any fun run => run.workflowJobId = some row.id)
    && !S.publicationReferencingJobIds.contains row.id
    && (row.payload.truthy || row.result.truthy || row.errorClass.isSome || hasText row.errorCode
      || hasText row.errorMessage || hasText row.progressMessage
      || (db.eventsOf row.id).any fun event => event.eventData.truthy)

/-- Whether `_research_attempt_candidates` keeps a row. -/
def researchAttemptEligible (row : ResearchAttempt) : Bool :=
  let cutoff := now - timedeltaDays policy.attemptMetadataDays
  before row.finishedAt cutoff && row.status = "succeeded"
    && S.disposableResearchRunIds.contains row.researchRunId
    && !(db.researchAttempts.rows.any fun sibling =>
      sibling.researchRunId = row.researchRunId
        && (!before sibling.finishedAt cutoff || sibling.status ≠ "succeeded"))
    && (row.queries.truthy || row.usage.truthy || hasText row.errorClass || hasText row.errorCode
      || hasText row.errorMessage)

def generationSucceeded (status : String) : Bool := status = "succeeded" || status = "completed"

/-- Whether `_generation_attempt_candidates` keeps a row. -/
def generationAttemptEligible (row : GenerationAttempt) : Bool :=
  let cutoff := now - timedeltaDays policy.attemptMetadataDays
  before row.finishedAt cutoff && generationSucceeded row.status
    && !(db.generationAttempts.rows.any fun sibling =>
      sibling.generationRunId = row.generationRunId
        && (S.referencedGenerationAttemptIds.contains sibling.id
          || !before sibling.finishedAt cutoff || !generationSucceeded sibling.status))
    && !(db.generationRuns.rows.any fun run =>
      run.id = row.generationRunId
        && (!generationSucceeded run.status || run.storyRevisionId.isSome
          || !before run.finishedAt cutoff))
    && (row.promptSnapshot.truthy || row.responsePayload.truthy || row.usage.truthy
      || row.validationErrors.truthy || hasText row.errorClass || hasText row.errorCode
      || hasText row.errorMessage)

/-- Whether `_publish_attempt_candidates` keeps a row. -/
def publishAttemptEligible (row : PublishAttempt) : Bool :=
  let cutoff := now - timedeltaDays policy.attemptMetadataDays
  before row.finishedAt cutoff && row.status = "succeeded"
    && !S.protectedPublishJobIds.contains row.publishJobId
    && !(db.publishAttempts.rows.any fun sibling =>
      sibling.publishJobId = row.publishJobId
        && (!before sibling.finishedAt cutoff || sibling.status ≠ "succeeded"))
    && (row.sanitizedPayload.truthy || row.remoteResponse.truthy || hasText row.errorClass
      || hasText row.errorCode || hasText row.errorMessage)

/-- Whether `_export_artifact_candidates` keeps a row. -/
def exportEligible (row : WorkflowJob) : Bool :=
  row.jobType = "build_export" && row.status = .succeeded
    && before row.finishedAt (now - timedeltaDays policy.exportArtifactDays)
    && (S.readExport row).isSome

/-- `MediaClaimClassification`. -/
structure MediaClaimClassification where
  canonicalPaths : List (UUID × String)
  deletionAuthorized : List UUID
  unclassifiable : Bool

def MediaClaimClassification.pathOf (classification : MediaClaimClassification) (id : UUID) :
    Option String :=
  (classification.canonicalPaths.find? fun entry => entry.1 = id).map Prod.snd

/-- The media rows that have a file, with its stored path. -/
def storedMedia : List (UUID × String) :=
  db.media.rows.filterMap fun row => row.storagePath.map fun path => (row.id, path)

/-- `_classified_media_claims`. -/
def classifiedMediaClaims (stored : List (UUID × String)) : MediaClaimClassification where
  canonicalPaths := stored.filterMap fun (id, path) =>
    (S.mediaClaimIdentity path).map fun identity => (id, identity)
  deletionAuthorized := stored.filterMap fun (id, path) =>
    match S.mediaClaimIdentity path, S.mediaRelativePath path with
    | some claim, some strict => if strict = claim then some id else none
    | _, _ => none
  unclassifiable := stored.any fun (_, path) => (S.mediaClaimIdentity path).isNone

/-- The conditions on a media row before its path is looked at. -/
def mediaDisposable (row : MediaAsset) : Bool :=
  decide (row.createdAt < now - timedeltaDays policy.unreferencedMediaDays)
    && row.storagePath.isSome && row.fetchStatus ≠ "expired"
    && !S.referencedMediaIds.contains row.id

/-- Whether `_unreferenced_media_candidates` keeps a row. -/
def mediaEligible (row : MediaAsset) : Bool :=
  let classification := classifiedMediaClaims S db.storedMedia
  let authorized (id : UUID) : Bool :=
    !classification.unclassifiable && classification.deletionAuthorized.contains id
  let blocked (path : String) : Bool :=
    db.media.rows.any fun other =>
      other.storagePath.isSome && (!mediaDisposable S policy now other || !authorized other.id)
        && classification.pathOf other.id = some path
  mediaDisposable S policy now row && authorized row.id
    && match classification.pathOf row.id with
      | none => false
      | some path => !blocked path

/-- The rows of a table that are asked for and eligible, as candidates. -/
def collect {ρ : Type} [Keyed ρ UUID] (table : Table ρ) (category : RetentionCategory)
    (recordType : RetentionRecordType) (operation : RetentionOperation)
    (only : Option (List CandidateIdentity)) (eligible : ρ → Bool) (occurredAt : ρ → Datetime)
    (byteLength : ρ → Option Int) (state : ρ → Json) : List RetentionCandidate :=
  (table.rows.filter fun row =>
      eligible row && match only with
        | none => true
        | some identities => identities.contains ⟨category, recordType, Keyed.key row⟩).map
    fun row =>
      { category := category
        recordType := recordType
        recordId := Keyed.key row
        operation := operation
        occurredAt := occurredAt row
        byteLength := byteLength row
        stateHash := S.digest (state row) }

/-- `collect_candidates`. -/
def collectCandidates (only : Option (List CandidateIdentity)) : List RetentionCandidate :=
  RetentionCandidate.sorted
    (collect S db.rawPayloads .rawPayload .rawPayload .scrub only
        (db.rawPayloadEligible S policy now) RawPayload.capturedAt
        (fun row => some (S.jsonByteLength (db.rawState row))) db.rawState
      ++ collect S db.jobs .completedJob .workflowJob .scrub only
        (db.completedJobEligible S policy now) (fun row => row.finishedAt.getD 0)
        (fun row => some (S.jsonByteLength (db.jobState row))) db.jobState
      ++ collect S db.researchAttempts .attemptMetadata .researchAttempt .scrub only
        (db.researchAttemptEligible S policy now) (fun row => row.finishedAt.getD 0)
        (fun row => some (S.jsonByteLength (researchAttemptState row))) researchAttemptState
      ++ collect S db.generationAttempts .attemptMetadata .generationAttempt .scrub only
        (db.generationAttemptEligible S policy now) (fun row => row.finishedAt.getD 0)
        (fun _ => none) db.generationAttemptState
      ++ collect S db.publishAttempts .attemptMetadata .publishAttempt .scrub only
        (db.publishAttemptEligible S policy now) (fun row => row.finishedAt.getD 0)
        (fun row => some (S.jsonByteLength (publishAttemptState row))) publishAttemptState
      ++ collect S db.jobs .exportArtifact .workflowJob .expire only
        (exportEligible S policy now) (fun row => row.finishedAt.getD 0)
        (fun row => (S.readExport row).map ExportReading.byteLength) exportState
      ++ collect S db.media .unreferencedMedia .mediaAsset .expire only
        (db.mediaEligible S policy now) MediaAsset.createdAt MediaAsset.byteLength mediaState)

/-! ## A candidate's digest is of the state its record is in -/

variable {db S policy now}

theorem mem_collect {ρ : Type} [Keyed ρ UUID] {table : Table ρ} {category : RetentionCategory}
    {recordType : RetentionRecordType} {operation : RetentionOperation}
    {only : Option (List CandidateIdentity)} {eligible : ρ → Bool} {occurredAt : ρ → Datetime}
    {byteLength : ρ → Option Int} {state : ρ → Json} {candidate : RetentionCandidate}
    (h : candidate ∈ collect S table category recordType operation only eligible occurredAt
      byteLength state) : ∃ row, table.lookup candidate.recordId = some row
      ∧ candidate.identity = ⟨category, recordType, candidate.recordId⟩
      ∧ candidate.stateHash = S.digest (state row) := by
  obtain ⟨row, hrow, rfl⟩ := mem_map.mp h
  exact ⟨row, Table.lookup_of_mem (mem_filter.mp hrow).1, rfl, rfl⟩

/-- **What `collect_candidates` returns carries the digest of the record's state.** -/
theorem stateHash_of_collected {only : Option (List CandidateIdentity)}
    {candidate : RetentionCandidate} (h : candidate ∈ db.collectCandidates S policy now only) :
    (db.stateOf candidate.identity).map S.digest = some candidate.stateHash := by
  rw [collectCandidates, RetentionCandidate.sorted, mem_insertionSort] at h
  simp only [mem_append] at h
  rcases h with (((((h | h) | h) | h) | h) | h) | h
  all_goals
    obtain ⟨row, hl, hid, hhash⟩ := mem_collect h
    rw [hid, hhash]
    simp only [stateOf, hl, Option.map_some]

end RetentionDb

end NewsCraft.Retention
