import Mathlib.Data.List.Sort
import NewsCraft.Core.Isoformat
import NewsCraft.Jobs.Types

/-!
# Retention contracts

A retention run carries what its preview listed: each candidate names a record and the
digest of its state. The token of the preview is a digest too, of the policy and the
candidates. The digest of a document and the length of its text are arguments.
-/

namespace NewsCraft

/-- `timedelta(days=n)`. -/
def timedeltaDays (n : Int) : Int := timedeltaSeconds (n * 86400)

namespace Json

def ofText : Option String → Json
  | none => .null
  | some text => .str text

def ofInt : Option Int → Json
  | none => .null
  | some n => .int n

def ofTime : Option Datetime → Json
  | none => .null
  | some time => .str (isoformat time)

end Json

namespace Retention

inductive RetentionCategory where
  | rawPayload
  | completedJob
  | attemptMetadata
  | exportArtifact
  | unreferencedMedia
  deriving DecidableEq

def RetentionCategory.text : RetentionCategory → String
  | .rawPayload => "raw_payload"
  | .completedJob => "completed_job"
  | .attemptMetadata => "attempt_metadata"
  | .exportArtifact => "export_artifact"
  | .unreferencedMedia => "unreferenced_media"

inductive RetentionRecordType where
  | rawPayload
  | workflowJob
  | researchAttempt
  | generationAttempt
  | publishAttempt
  | mediaAsset
  deriving DecidableEq

def RetentionRecordType.text : RetentionRecordType → String
  | .rawPayload => "raw_payload"
  | .workflowJob => "workflow_job"
  | .researchAttempt => "research_attempt"
  | .generationAttempt => "generation_attempt"
  | .publishAttempt => "publish_attempt"
  | .mediaAsset => "media_asset"

inductive RetentionOperation where
  | scrub
  | expire

def RetentionOperation.text : RetentionOperation → String
  | .scrub => "scrub"
  | .expire => "expire"

structure RetentionPolicyInput where
  rawPayloadDays : Int := 30
  completedJobDays : Int := 90
  attemptMetadataDays : Int := 90
  exportArtifactDays : Int := 14
  unreferencedMediaDays : Int := 30

def RetentionPolicyInput.dump (policy : RetentionPolicyInput) : Json :=
  .obj [("raw_payload_days", .int policy.rawPayloadDays),
      ("completed_job_days", .int policy.completedJobDays),
      ("attempt_metadata_days", .int policy.attemptMetadataDays),
      ("export_artifact_days", .int policy.exportArtifactDays),
      ("unreferenced_media_days", .int policy.unreferencedMediaDays)]

/-- A candidate's stable identity across the preview and the execution. -/
structure CandidateIdentity where
  category : RetentionCategory
  recordType : RetentionRecordType
  recordId : UUID
  deriving DecidableEq

structure RetentionCandidate where
  category : RetentionCategory
  recordType : RetentionRecordType
  recordId : UUID
  operation : RetentionOperation
  occurredAt : Datetime
  byteLength : Option Int
  stateHash : String

namespace RetentionCandidate

def identity (candidate : RetentionCandidate) : CandidateIdentity :=
  ⟨candidate.category, candidate.recordType, candidate.recordId⟩

/-- `validate_record_type`. -/
def validRecordType (candidate : RetentionCandidate) : Bool :=
  match candidate.category with
  | .rawPayload => candidate.recordType = .rawPayload
  | .completedJob => candidate.recordType = .workflowJob
  | .attemptMetadata =>
    candidate.recordType = .researchAttempt || candidate.recordType = .generationAttempt
      || candidate.recordType = .publishAttempt
  | .exportArtifact => candidate.recordType = .workflowJob
  | .unreferencedMedia => candidate.recordType = .mediaAsset

/-- What `model_validate` checks of a stored candidate besides the types of its fields. -/
def valid (candidate : RetentionCandidate) : Bool :=
  candidate.validRecordType && (match candidate.byteLength with
      | none => true
      | some n => decide (0 ≤ n))
    && candidate.stateHash.toList.length = 64
    && candidate.stateHash.toList.all fun c => ('0' ≤ c && c ≤ '9') || ('a' ≤ c && c ≤ 'f')

/-- `_candidate_sort_key`. -/
def sortKey (candidate : RetentionCandidate) : List String :=
  [candidate.category.text, candidate.recordType.text, uuidStr candidate.recordId,
    candidate.operation.text]

def keyBefore : List String → List String → Bool
  | [], _ => true
  | _ :: _, [] => false
  | a :: as, b :: bs => a < b || (a = b && keyBefore as bs)

/-- `sorted(candidates, key=_candidate_sort_key)`. -/
def sorted (candidates : List RetentionCandidate) : List RetentionCandidate :=
  candidates.insertionSort fun a b => keyBefore a.sortKey b.sortKey = true

/-- The part of a candidate the token is made of. -/
def tokenEntry (candidate : RetentionCandidate) : Json :=
  .obj [("category", .str candidate.category.text), ("operation", .str candidate.operation.text),
      ("record_id", .str (uuidStr candidate.recordId)),
      ("record_type", .str candidate.recordType.text), ("state_hash", .str candidate.stateHash)]

end RetentionCandidate

/-- `build_preview_token`. -/
def buildPreviewToken (digest : Json → String) (policy : RetentionPolicyInput)
    (candidates : List RetentionCandidate) (schemaRevision : String) : String :=
  digest (.obj
    [("candidates", .arr ((RetentionCandidate.sorted candidates).map RetentionCandidate.tokenEntry)),
      ("policy", policy.dump), ("schema_revision", .str schemaRevision)])

inductive CleanupOperation where
  | deleteTree
  | deleteFile
  deriving DecidableEq

structure RetentionCleanupIntent where
  category : RetentionCategory
  recordId : UUID
  operation : CleanupOperation
  relativePath : String

inductive RetentionExecutionPhase where
  | scrubbed
  | expired
  | skipped
  | databaseSkipped
  | filesystemSkipped
  | filesystemDeleted
  deriving DecidableEq

/-- The counters of an execution, one for each phase and category. -/
abbrev RetentionExecutionCounts := RetentionExecutionPhase → RetentionCategory → Nat

def RetentionExecutionCounts.zero : RetentionExecutionCounts := fun _ _ => 0

/-- `increment`. -/
def RetentionExecutionCounts.increment (counts : RetentionExecutionCounts)
    (phase : RetentionExecutionPhase) (category : RetentionCategory) : RetentionExecutionCounts :=
  fun p c => if p = phase ∧ c = category then counts p c + 1 else counts p c

/-- Make the counters of one phase those of another. -/
def RetentionExecutionCounts.copy (counts : RetentionExecutionCounts)
    (source target : RetentionExecutionPhase) : RetentionExecutionCounts :=
  fun p c => if p = target then counts source c else counts p c

inductive RetentionStatus where
  | previewed
  | queued
  | running
  | succeeded
  | partially
  | failed
  | expired
  deriving DecidableEq

def RetentionStatus.text : RetentionStatus → String
  | .previewed => "previewed"
  | .queued => "queued"
  | .running => "running"
  | .succeeded => "succeeded"
  | .partially => "partial"
  | .failed => "failed"
  | .expired => "expired"

def retentionSchemaRevision : String := "0009_operational_retention"

/-- An entry of `error_snapshot`. Errors of the whole run name no record. -/
structure RetentionRunError where
  phase : String
  record : Option CandidateIdentity
  code : String
  message : String

/-- A row of `retention_runs`. -/
structure RetentionRun where
  id : UUID
  workflowJobId : Option UUID
  status : RetentionStatus
  previewToken : String
  schemaRevision : String
  policySnapshot : RetentionPolicyInput
  candidateSnapshot : List RetentionCandidate
  cleanupIntentSnapshot : List RetentionCleanupIntent
  counts : RetentionExecutionCounts
  errorSnapshot : List RetentionRunError
  startedAt : Option Datetime
  finishedAt : Option Datetime

/-- `snapshot_candidates`; `none` when the snapshot is invalid. -/
def snapshotCandidates (run : RetentionRun) : Option (List RetentionCandidate) :=
  if run.candidateSnapshot.all RetentionCandidate.valid then
    some (RetentionCandidate.sorted run.candidateSnapshot)
  else
    none

inductive RetentionError where
  | conflict (message : String)
  | notFound (message : String)
  /-- What else the loop over the candidates may raise. -/
  | unexpected

structure RetentionExecutionPlan where
  runId : UUID
  previewToken : String
  cleanupIntents : List RetentionCleanupIntent
  counts : RetentionExecutionCounts

theorem mem_snapshotCandidates {run : RetentionRun} {candidates : List RetentionCandidate}
    (h : snapshotCandidates run = some candidates) {candidate : RetentionCandidate} :
    candidate ∈ candidates ↔ candidate ∈ run.candidateSnapshot := by
  rw [snapshotCandidates] at h
  split_ifs at h
  cases h
  exact List.mem_insertionSort _

end Retention

end NewsCraft
