import NewsCraft.Ingestion.Media
import NewsCraft.Retention.Database

/-!
# The filesystem phase of a retention run

`finish_filesystem_phase` deletes what the database phase expired. Under a table lock it
reads which media rows are referenced again and which paths stored rows claim, commits, and
works through the cleanup intents, skipping those whose media is wanted again. A second
transaction writes the outcome; a run with failed deletions stays `partial`.

A file is named by its canonical path below the root that owns it.
-/

namespace NewsCraft.Retention

open Lib Ingestion

/-! ## Paths and files -/

/-- `PurePosixPath(path).parts`, of a relative path. -/
def posixParts (path : String) : List (List Char) :=
  (path.toList.splitOn '/').filter fun part => part ≠ [] ∧ part ≠ ['.']

/-- The path without empty and `.` components. -/
def canonicalPath (path : String) : String :=
  String.ofList (['/'].intercalate (posixParts path))

def unsafeRelative (path : String) : Bool :=
  path = "" || path.toList.head? = some '/' || (posixParts path).contains ['.', '.']
    || path.toList.contains '\\'

/-- The files below the two roots retention deletes from. -/
structure OwnedFiles where
  media : List String
  exports : List String

def below (directory file : String) : Bool := (directory ++ "/").isPrefixOf file

/-- `_delete_relative_owned`; `none` when it raises `UnsafeStoragePath`. -/
def deleteRelativeOwned (files : List String) (relativePath : String) (directory : Bool) :
    Option (List String) :=
  let name := canonicalPath relativePath
  if unsafeRelative relativePath then
    none
  else if files.contains name then
    if directory then none else some (files.filter fun file => file ≠ name)
  else if files.any (below name) then
    if directory then some (files.filter fun file => !below name file) else none
  else
    some files

/-- Delete what an intent names from the root that owns it. -/
def OwnedFiles.deleteOwned (files : OwnedFiles) (intent : RetentionCleanupIntent) :
    Option OwnedFiles :=
  let directory := decide (intent.operation = .deleteTree)
  if intent.category = .exportArtifact then
    (deleteRelativeOwned files.exports intent.relativePath directory).map fun exports =>
      { files with exports := exports }
  else
    (deleteRelativeOwned files.media intent.relativePath directory).map fun media =>
      { files with media := media }

/-! ## The check -/

/-- `snapshot_intents`; `none` when the snapshot is invalid. -/
def snapshotIntents (run : RetentionRun) : Option (List RetentionCleanupIntent) :=
  if run.cleanupIntentSnapshot.all fun intent =>
      intent.category = .exportArtifact || intent.category = .unreferencedMedia then
    some run.cleanupIntentSnapshot
  else
    none

/-- `reset`. -/
def RetentionExecutionCounts.reset (counts : RetentionExecutionCounts)
    (phase : RetentionExecutionPhase) : RetentionExecutionCounts :=
  fun p c => if p = phase then 0 else counts p c

/-- What the first transaction learned of the media. -/
structure FilesystemCheck where
  reclaimedMediaPaths : List String
  reclaimedMediaIds : List UUID
  unclassifiableMediaClaim : Bool

/-- `_claimed_media_identities`. -/
def claimedMediaIdentities (claimIdentity : String → Option String) (storedPaths : List String) :
    List String × Bool :=
  (storedPaths.filterMap claimIdentity, storedPaths.any fun path => (claimIdentity path).isNone)

structure FilesystemCleanup where
  intents : List RetentionCleanupIntent
  check : FilesystemCheck
  seen : List (RetentionCategory × String)
  rest : List RetentionCleanupIntent
  counts : RetentionExecutionCounts
  errors : List RetentionRunError

/-- Whether any intent is about media: only then are tables locked and read. -/
def cleansMedia (intents : List RetentionCleanupIntent) : Bool :=
  intents.any fun intent => intent.category = .unreferencedMedia

/-- The first transaction of `finish_filesystem_phase`; `none` when the run is done. -/
def startFilesystemPhase (claimIdentity : String → Option String) (run : RetentionRun)
    (assets : Table LiveMediaAsset) (referencedMediaIds : List UUID) :
    Except RetentionError (Option FilesystemCleanup) :=
  if run.status = .succeeded then
    .ok none
  else if run.status ≠ .running ∧ run.status ≠ .partially then
    .error (.conflict
      ("retention filesystem cleanup cannot run from status '" ++ run.status.text ++ "'"))
  else
    match snapshotIntents run with
    | none => .error (.conflict "persisted retention cleanup snapshot is invalid")
    | some intents =>
      let stored := if cleansMedia intents then assets.rows.filterMap fun row => row.storagePath
        else []
      let (paths, unclassifiable) := claimedMediaIdentities claimIdentity stored
      .ok (some
        { intents := intents
          check :=
            { reclaimedMediaPaths := paths
              reclaimedMediaIds := if cleansMedia intents then referencedMediaIds else []
              unclassifiableMediaClaim := unclassifiable }
          seen := []
          rest := intents
          counts := ((run.counts.reset .filesystemDeleted).reset .filesystemSkipped).copy
            .databaseSkipped .skipped
          errors := run.errorSnapshot.filter fun error => error.phase ≠ "filesystem" })

namespace FilesystemCleanup

variable (cleanup : FilesystemCleanup)

/-- The media an intent names is wanted again, or nobody can tell. -/
def spared (intent : RetentionCleanupIntent) : Bool :=
  intent.category = .unreferencedMedia
    && (cleanup.check.unclassifiableMediaClaim
      || cleanup.intents.any (fun other =>
        other.category = .unreferencedMedia && other.relativePath = intent.relativePath
          && cleanup.check.reclaimedMediaIds.contains other.recordId)
      || cleanup.check.reclaimedMediaPaths.contains intent.relativePath)

def isSeen (intent : RetentionCleanupIntent) : Bool :=
  cleanup.seen.contains (intent.category, intent.relativePath)

/-- The media files the phase is still going to delete. -/
def condemned : List String :=
  (cleanup.rest.filter fun intent =>
    intent.category ≠ .exportArtifact && !cleanup.isSeen intent && !cleanup.spared intent).map
      RetentionCleanupIntent.relativePath

def failed (intent : RetentionCleanupIntent) : RetentionRunError where
  phase := "filesystem"
  record := some ⟨intent.category,
    if intent.category = .exportArtifact then .workflowJob else .mediaAsset, intent.recordId⟩
  code := "unsafe_or_failed_cleanup"
  message := "Persisted cleanup identity could not be removed safely"

/-- One round of the loop over the intents; a deletion may fail for any reason. -/
def next (files : OwnedFiles) (fails : Bool) : Option (FilesystemCleanup × OwnedFiles) :=
  match cleanup.rest with
  | [] => none
  | intent :: rest =>
    if cleanup.isSeen intent then
      some ({ cleanup with rest := rest }, files)
    else
      let seen := (intent.category, intent.relativePath) :: cleanup.seen
      if cleanup.spared intent then
        some ({ cleanup with
          rest := rest
          seen := seen
          counts := (cleanup.counts.increment .filesystemSkipped intent.category).increment
            .skipped intent.category }, files)
      else
        match if fails then none else files.deleteOwned intent with
        | none =>
          some ({ cleanup with
            rest := rest
            seen := seen
            errors := cleanup.errors ++ [failed intent] }, files)
        | some files =>
          some ({ cleanup with
            rest := rest
            seen := seen
            counts := cleanup.counts.increment .filesystemDeleted intent.category }, files)

def finishedRun (run : RetentionRun) (now : Datetime) : RetentionRun :=
  { run with
    counts := cleanup.counts
    errorSnapshot := cleanup.errors
    status := if cleanup.errors.any fun error => error.phase = "filesystem" then .partially
      else .succeeded
    finishedAt := some now }

end FilesystemCleanup

/-! ## What the intents say -/

/-- Media intents name one file by its canonical path. -/
def RetentionCleanupIntent.Exact (intent : RetentionCleanupIntent) : Prop :=
  intent.category ≠ .exportArtifact →
    intent.operation = .deleteFile ∧ canonicalPath intent.relativePath = intent.relativePath

end NewsCraft.Retention
