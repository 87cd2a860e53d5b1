import NewsCraft.Telegram.Contracts

/-!
# Captured media files

Media are stored under the checksum of their bytes, so two captures of the same
bytes use one file and the second does not write it.
-/

namespace NewsCraft.Telegram

/-- A media file fetched to a staging directory. -/
structure MaterializedTelegramMedia where
  reference : TelegramMediaReference
  position : Int
  fileName : Option String
  content : List UInt8
  mimeType : String

def TelegramMediaKind.text : TelegramMediaKind → String
  | .photo => "photo"
  | .video => "video"
  | .document => "document"

structure StoredTelegramMedia where
  path : String
  byteLength : Nat
  checksumSha256 : String
  mimeType : String
  kind : TelegramMediaKind

structure TelegramMediaStore where
  root : String
  maxPhotoBytes : Nat
  maxFileBytes : Nat

def allowedExtensions : List String :=
  [".jpg", ".png", ".gif", ".webp", ".mp4", ".mov", ".pdf", ".doc", ".docx", ".zip", ".bin"]

def mimeExtensions : List (String × String) :=
  [("image/jpeg", ".jpg"), ("image/png", ".png"), ("image/gif", ".gif"), ("image/webp", ".webp"),
    ("video/mp4", ".mp4"), ("video/quicktime", ".mov"), ("application/pdf", ".pdf"),
    ("application/msword", ".doc"),
    ("application/vnd.openxmlformats-officedocument.wordprocessingml.document", ".docx"),
    ("application/zip", ".zip")]

/-- `Path(name).suffix`: from the last dot of the last component on, unless only dots
stand before it. -/
def pathSuffix (name : String) : String :=
  let components := (name.toList.splitOn '/').filter fun part => part ≠ [] ∧ part ≠ ['.']
  let stem := components.getLastD []
  let suffix := '.' :: (stem.reverse.takeWhile (· ≠ '.')).reverse
  let before := stem.take (stem.length - suffix.length)
  if '.' ∈ stem ∧ before.any (· ≠ '.') then String.ofList suffix else ""

/-- `str.lower`, as far as it yields ASCII, which it does for the Kelvin sign too. -/
def asciiLower (text : String) : String :=
  String.ofList (text.toList.map fun c => if c = '\u212a' then 'k' else c.toLower)

/-- `safe_extension`. -/
def safeExtension (mimeType : String) (fileName : Option String) : String :=
  let suffix := asciiLower (pathSuffix (fileName.getD ""))
  let suffix := if suffix = ".jpeg" then ".jpg" else suffix
  match mimeExtensions.lookup (asciiLower mimeType) with
  | some expected => expected
  | none => if suffix ∈ allowedExtensions then suffix else ".bin"

/-- `a / b`. -/
def joinPath (a b : String) : String := if a.endsWith "/" then a ++ b else a ++ "/" ++ b

namespace TelegramMediaStore

variable (sha256 : List UInt8 → String) (store : TelegramMediaStore)

/-- Where `persist` puts a file and what it returns; `none` when the file is too large. -/
def target (media : MaterializedTelegramMedia) : Option StoredTelegramMedia :=
  let limit := if media.reference.kind = .photo then store.maxPhotoBytes else store.maxFileBytes
  if media.content.length > limit then
    none
  else
    let checksum := sha256 media.content
    let extension := safeExtension media.mimeType media.fileName
    some
      { path := joinPath (joinPath store.root (String.ofList (checksum.toList.take 2)))
          (checksum ++ extension)
        byteLength := media.content.length
        checksumSha256 := checksum
        mimeType := media.mimeType
        kind := media.reference.kind }

end TelegramMediaStore

example : safeExtension "application/octet-stream" (some "report.tar.JPEG") = ".jpg" := by
  decide +kernel

end NewsCraft.Telegram
