import NewsCraft.Lib.Transition
import NewsCraft.Retention.Filesystem

/-!
# Captures beside the filesystem phase

A capture takes a writer's lock on the media tables, puts its files into the store and
commits rows that claim them. The filesystem phase takes the lock that conflicts with it,
but gives it up before it deletes anything.

One step is what no other party can see half of: looking for a file, linking it into place,
one deletion, one committed transaction.
-/

namespace NewsCraft.Retention

open Lib Ingestion Telegram

/-- What the two parties rely on and do not change. -/
structure MediaSetting where
  /-- The hexadecimal SHA-256. -/
  sha256 : List UInt8 → String
  /-- `media_claim_identity`; `none` where it raises `UnsafeStoragePath`. -/
  claimIdentity : String → Option String
  quality : MediaCandidate → Json
  store : TelegramMediaStore

/-- A capture transaction between taking its lock and its end. -/
structure MediaCapture where
  id : Nat
  pending : List MaterializedTelegramMedia
  writing : Option (MaterializedTelegramMedia × StoredTelegramMedia)
  stored : List (MaterializedTelegramMedia × StoredTelegramMedia)

structure MediaState where
  assets : Table LiveMediaAsset
  files : OwnedFiles
  captures : List MediaCapture
  run : RetentionRun
  cleanup : Option FilesystemCleanup

inductive MediaEvent where
  | beginCapture (id : Nat) (media : List MaterializedTelegramMedia)
  | probe (id : Nat)
  | write (id : Nat)
  | commit (id : Nat) (fresh : Nat → UUID) (now : Datetime)
  | rollback (id : Nat)
  | check (referencedMediaIds : List UUID)
  | clean (fails : Bool)
  | finish (now : Datetime)
  | crash

namespace MediaSetting

variable (W : MediaSetting)

/-- `hash_value`. -/
def hashValue (value : String) : String := W.sha256 value.toUTF8.data.toList

/-- The media candidates of `_parsed_item`. -/
def mediaCandidates (stored : List (MaterializedTelegramMedia × StoredTelegramMedia)) :
    List MediaCandidate :=
  stored.map fun (materialized, stored) =>
    { normalizedUrl := "telegram-media:" ++ W.hashValue materialized.reference.key
      storagePath := some stored.path
      checksumSha256 := some stored.checksumSha256
      byteLength := some stored.byteLength
      fetchStatus := "downloaded" }

/-- Where the next file of a capture goes, and the file's name below the media root;
`none` when `persist` raises. -/
def nextTarget (media : MaterializedTelegramMedia) : Option (StoredTelegramMedia × String) :=
  match W.store.target W.sha256 media with
  | none => none
  | some stored => (W.claimIdentity stored.path).map fun file => (stored, file)

end MediaSetting

namespace MediaState

variable (W : MediaSetting) (s : MediaState)

def captureOf (id : Nat) : Option MediaCapture := s.captures.find? fun capture => capture.id = id

def setCapture (capture : MediaCapture) : MediaState :=
  { s with captures := capture :: s.captures.filter fun other => other.id ≠ capture.id }

def endCapture (id : Nat) : MediaState :=
  { s with captures := s.captures.filter fun other => other.id ≠ id }

/-- The media files the phase at work is still going to delete. -/
def condemned : List String :=
  match s.cleanup with
  | none => []
  | some cleanup => cleanup.condemned

/-- `path.exists()` and, when it does not, the decision to write. -/
def probe (id : Nat) : Option MediaState :=
  match s.captureOf id with
  | none => none
  | some capture =>
    match capture.writing, capture.pending with
    | none, media :: rest =>
      (W.nextTarget media).map fun (stored, file) =>
        if s.files.media.contains file then
          s.setCapture { capture with
            pending := rest
            stored := capture.stored ++ [(media, stored)] }
        else
          s.setCapture { capture with pending := rest, writing := some (media, stored) }
    | _, _ => none

/-- `_atomic_write`: a file somebody else has linked into place meanwhile is kept. -/
def write (id : Nat) : Option MediaState :=
  match s.captureOf id with
  | none => none
  | some capture =>
    match capture.writing with
    | none => none
    | some (media, stored) =>
      (W.claimIdentity stored.path).map fun file =>
        { s.setCapture { capture with
            writing := none
            stored := capture.stored ++ [(media, stored)] } with
          files := { s.files with
            media := if s.files.media.contains file then s.files.media
              else file :: s.files.media } }

/-- Upsert the rows of what has been stored, and commit. -/
def commit (id : Nat) (fresh : Nat → UUID) (now : Datetime) : Option MediaState :=
  match s.captureOf id with
  | none => none
  | some capture =>
    if capture.writing = none ∧ capture.pending = [] then
      some { s.endCapture id with
        assets := upsertMediaAssets W.quality W.hashValue s.assets
          (W.mediaCandidates capture.stored) fresh now }
    else
      none

def check (referencedMediaIds : List UUID) : Option MediaState :=
  if s.cleanup.isSome then
    none
  else
    match startFilesystemPhase W.claimIdentity s.run s.assets referencedMediaIds with
    | .ok (some cleanup) =>
      if cleansMedia cleanup.intents ∧ s.captures ≠ [] then
        none
      else
        some { s with cleanup := some cleanup }
    | _ => none

def clean (fails : Bool) : Option MediaState :=
  match s.cleanup with
  | none => none
  | some cleanup =>
    (cleanup.next s.files fails).map fun (cleanup, files) =>
      { s with cleanup := some cleanup, files := files }

def finish (now : Datetime) : Option MediaState :=
  match s.cleanup with
  | none => none
  | some cleanup =>
    if cleanup.rest = [] then
      some { s with run := cleanup.finishedRun s.run now, cleanup := none }
    else
      none

/-- One step; `none` where the party cannot take it. -/
def step : MediaEvent → Option MediaState
  | .beginCapture id media =>
    if s.captures.any fun capture => capture.id = id then
      none
    else
      some (s.setCapture
        { id := id
          pending := media.insertionSort fun a b => a.position ≤ b.position
          writing := none
          stored := [] })
  | .probe id => s.probe W id
  | .write id => s.write W id
  | .commit id fresh now => s.commit W id fresh now
  | .rollback id => some (s.endCapture id)
  | .check referencedMediaIds => s.check W referencedMediaIds
  | .clean fails => s.clean fails
  | .finish now => s.finish now
  | .crash => some { s with cleanup := none }

def Claims (file : String) : Prop :=
  ∃ asset ∈ s.assets.rows, asset.storagePath.bind W.claimIdentity = some file

instance (file : String) : Decidable (s.Claims W file) :=
  inferInstanceAs (Decidable (∃ _ ∈ _, _))

/-- Nothing is at work, every claimed file is there, and the intents are the database
phase's. -/
structure Quiet : Prop where
  claimed : ∀ file, s.Claims W file → file ∈ s.files.media
  captures : s.captures = []
  cleanup : s.cleanup = none
  intents : ∀ intent ∈ s.run.cleanupIntentSnapshot, intent.Exact

end MediaState

/-- Captures and the filesystem phase of one run, in any order. -/
def mediaSystem (W : MediaSetting) : System MediaState MediaEvent where
  init := fun s => s.Quiet W
  step := fun s e s' => s.step W e = some s'

/-- The step is not a capture turning to a file that is still going to be deleted. -/
def MediaState.Fenced (W : MediaSetting) (s : MediaState) : MediaEvent → Prop
  | .probe id =>
    ∀ capture ∈ s.captureOf id, ∀ media ∈ capture.pending.head?,
      ∀ target ∈ W.nextTarget media, target.2 ∉ s.condemned
  | _ => True

instance (W : MediaSetting) (s : MediaState) (e : MediaEvent) : Decidable (s.Fenced W e) :=
  match e with
  | .probe _ => inferInstanceAs (Decidable (∀ _ ∈ _, ∀ _ ∈ _, ∀ _ ∈ _, _))
  | .beginCapture .. | .write _ | .commit .. | .rollback _ | .check _ | .clean _ | .finish _
  | .crash => isTrue trivial

end NewsCraft.Retention
