import NewsCraft.Core.SecretKeys
import NewsCraft.Lib.Checked
import NewsCraft.Lib.Slices
import NewsCraft.Telegram.Media

/-!
# How a revision becomes a plan

`build_publish_plan` renders an approved revision as a row of Bot API calls. One media file
goes alone, several in groups of ten with a remainder of one alone; the body is the caption
of the first call when it is short enough and a message of its own otherwise, and since a
group takes no buttons they take the body with them.

Only the fields that are rendered are kept. The files, the hash and the texts of
`json.dumps` are parameters.
-/

namespace NewsCraft.Publishing.Renderer

open Lib NewsCraft.Telegram
open Checked (require orStop)

def captionLimit : Nat := 1024
def groupLimit : Nat := 10

/-- `_MEDIA_TYPES`. -/
def mediaTypes : List (String × TelegramMediaKind) :=
  [("image", .photo), ("photo", .photo), ("video", .video), ("document", .document)]

inductive TelegramMethod where
  | sendMessage
  | sendPhoto
  | sendVideo
  | sendDocument
  | sendMediaGroup

def TelegramMethod.text : TelegramMethod → String
  | .sendMessage => "sendMessage"
  | .sendPhoto => "sendPhoto"
  | .sendVideo => "sendVideo"
  | .sendDocument => "sendDocument"
  | .sendMediaGroup => "sendMediaGroup"

/-- `_SINGLE_METHODS`. -/
def singleMethod : TelegramMediaKind → TelegramMethod
  | .photo => .sendPhoto
  | .video => .sendVideo
  | .document => .sendDocument

structure UploadFormat where
  kind : TelegramMediaKind
  mimeType : String
  suffixes : List String
  extension : String

/-- `_UPLOAD_FORMATS`. -/
def uploadFormats : List UploadFormat :=
  [⟨.photo, "image/jpeg", [".jpg", ".jpeg"], ".jpg"⟩,
    ⟨.photo, "image/png", [".png"], ".png"⟩,
    ⟨.photo, "image/gif", [".gif"], ".gif"⟩,
    ⟨.photo, "image/webp", [".webp"], ".webp"⟩,
    ⟨.video, "video/mp4", [".mp4"], ".mp4"⟩,
    ⟨.video, "video/quicktime", [".mov"], ".mov"⟩,
    ⟨.document, "application/pdf", [".pdf"], ".pdf"⟩,
    ⟨.document, "application/msword", [".doc"], ".doc"⟩,
    ⟨.document, "application/vnd.openxmlformats-officedocument.wordprocessingml.document",
      [".docx"], ".docx"⟩,
    ⟨.document, "application/zip", [".zip"], ".zip"⟩,
    ⟨.document, "application/octet-stream", [".bin"], ".bin"⟩]

/-- `TelegramPublishNeedsReview`. -/
structure TelegramPublishNeedsReview where
  message : String

inductive MediaPolicy where
  | preserve
  | omit
  | replaceManually
  deriving DecidableEq

structure TelegramButton where
  text : String
  url : String
  deriving DecidableEq

/-- The rendered fields of `TelegramVariantContent`, within the limits of its schema. -/
structure TelegramVariantContent where
  body : String
  buttons : List TelegramButton
  mediaPolicy : MediaPolicy
  mediaAssetIds : List UUID
  body_bounds : 1 ≤ body.length ∧ body.length ≤ 4096
  buttons_le : buttons.length ≤ 8

def parseMode : String := "HTML"

/-- A row of `media_assets`. -/
structure MediaAsset where
  id : UUID
  kind : String
  storagePath : Option String
  fetchStatus : String
  checksumSha256 : Option String
  mimeType : Option String

structure PlatformRevision where
  id : UUID
  content : TelegramVariantContent

structure PublishDestination where
  id : UUID
  targetRef : String

inductive StoredFile where
  | notRegular
  | unreadable
  | bytes (content : List UInt8)
  deriving DecidableEq

def lowerHex (c : Char) : Bool := ('0' ≤ c && c ≤ '9') || ('a' ≤ c && c ≤ 'f')

/-- `[0-9a-f]{64}`. -/
def HexDigest (text : String) : Prop :=
  text.toList.length = 64 ∧ text.toList.all lowerHex = true

instance (text : String) : Decidable (HexDigest text) := inferInstanceAs (Decidable (_ ∧ _))

structure RenderEnv where
  text : PythonText
  /-- `hashlib.sha256(...).hexdigest()`. -/
  sha256 : List UInt8 → String
  /-- `json.dumps` without blanks, as UTF-8. -/
  dumps : Json → List UInt8
  storedFile : String → StoredFile
  sha256_hex : ∀ bytes, HexDigest (sha256 bytes)

structure TelegramUploadMetadata where
  attachName : String
  filename : String
  mimeType : String
  mediaType : TelegramMediaKind
  checksumSha256 : String

structure TelegramPublishOperation where
  index : Nat
  key : String
  method : TelegramMethod
  fields : Json
  filePaths : List String
  requestHash : String
  uploads : List TelegramUploadMetadata

structure TelegramPublishPlan where
  destinationId : UUID
  revisionId : UUID
  payloadHash : String
  operations : List TelegramPublishOperation

namespace RenderEnv

variable (E : RenderEnv)

/-- `str.casefold`. -/
def casefold (text : String) : String := String.ofList (text.toList.flatMap E.text.casefold)

/-- `_canonical_hash`. -/
def canonicalHash (value : Json) : String := E.sha256 (E.dumps value.sortKeys)

end RenderEnv

/-- `text.removeprefix(start)`. -/
def removePrefix (start text : String) : String :=
  if start.toList.isPrefixOf text.toList then String.ofList (text.toList.drop start.length) else text

def indexText (index : Nat) : String := String.ofList (Nat.toDigits 10 index)

/-! ## Media -/

/-- `by_id.get(media_id)`: of two rows with one id the later is kept. -/
def byId (media : List MediaAsset) (id : UUID) : Option MediaAsset :=
  (media.filter fun item => item.id = id).getLast?

/-- `_ordered_media`. -/
def orderedMedia (content : TelegramVariantContent) (media : List MediaAsset) :
    Except TelegramPublishNeedsReview (List MediaAsset) :=
  let ids := media.map MediaAsset.id
  if ids.Nodup ∧ content.mediaAssetIds.Nodup ∧ ids.length = content.mediaAssetIds.length
      ∧ (∀ id ∈ ids, id ∈ content.mediaAssetIds) ∧ ∀ id ∈ content.mediaAssetIds, id ∈ ids then
    .ok (content.mediaAssetIds.filterMap (byId media))
  else
    .error ⟨"revision media assets are missing or mismatched"⟩

structure MediaDescriptor where
  kind : TelegramMediaKind
  media : String
  checksumSha256 : String
  mimeType : String
  filename : String

abbrev MediaFile := MediaDescriptor × String

/-- `_UPLOAD_FORMATS.get((kind, mime_type))`, if it lists the suffix of the file. -/
def uploadFormat (kind : TelegramMediaKind) (mimeType suffix : String) : Option UploadFormat :=
  (uploadFormats.find? fun format => format.kind = kind ∧ format.mimeType = mimeType).filter
    fun format => suffix ∈ format.suffixes

def attachRef (index : Nat) : String := "attach://file" ++ indexText index

def uploadName (index : Nat) (suffix : String) : String := "upload-" ++ indexText index ++ suffix

variable (E : RenderEnv)

/-- `item.mime_type` as a text. -/
def mimeTypeOf (item : MediaAsset) : String := E.casefold (item.mimeType.getD "None")

/-- `_media_descriptor`. -/
def mediaDescriptor (item : MediaAsset) (attachIndex : Nat) :
    Except TelegramPublishNeedsReview MediaFile := do
  let kind ← orStop (mediaTypes.lookup (asciiLower item.kind))
    ⟨"unsupported media kind: " ++ item.kind⟩
  let path ← orStop (item.storagePath.filter fun path => path ≠ "")
    ⟨"media asset has no local storage path"⟩
  require (item.fetchStatus = "downloaded") ⟨"media asset is not downloaded"⟩
  let expected ← orStop item.checksumSha256 ⟨"media asset has no verified checksum"⟩
  require (E.storedFile path ≠ .notRegular) ⟨"media asset is not a readable regular file"⟩
  let format ← orStop (uploadFormat kind (mimeTypeOf E item) (E.casefold (pathSuffix path)))
    ⟨"media MIME, kind, and storage extension do not agree"⟩
  let content ← orStop (match E.storedFile path with | .bytes content => some content | _ => none)
    ⟨"media asset is not readable"⟩
  require (expected = E.sha256 content) ⟨"media asset checksum mismatch"⟩
  .ok
    ({ kind := kind
       media := attachRef attachIndex
       checksumSha256 := E.sha256 content
       mimeType := mimeTypeOf E item
       filename := uploadName attachIndex format.extension },
      path)

/-- The descriptors of the media, numbered from `index` on. -/
def mediaDescriptors (index : Nat) :
    List MediaAsset → Except TelegramPublishNeedsReview (List MediaFile)
  | [] => .ok []
  | item :: rest => do
      let file ← mediaDescriptor E item index
      let files ← mediaDescriptors (index + 1) rest
      .ok (file :: files)

/-! ## Calls -/

/-- `_buttons`, as the field it goes to. -/
def markupField (content : TelegramVariantContent) : List (String × Json) :=
  if content.buttons = [] then
    []
  else
    [("reply_markup", .obj [("inline_keyboard", .arr (content.buttons.map fun button =>
      .arr [.obj [("text", .str button.text), ("url", .str button.url)]]))])]

/-- `_message_fields`. -/
def messageFields (content : TelegramVariantContent) (targetRef : String) : Json :=
  .obj ([("chat_id", .str targetRef), ("text", .str content.body), ("parse_mode", .str parseMode)]
    ++ markupField content)

/-- `_single_media_fields`. -/
def singleMediaFields (content : TelegramVariantContent) (targetRef : String)
    (descriptor : MediaDescriptor) (caption : Bool) : Json :=
  .obj ([("chat_id", .str targetRef), (descriptor.kind.text, .str descriptor.media),
      ("parse_mode", .str parseMode)]
    ++ if caption then ("caption", .str content.body) :: markupField content else [])

structure Rendered where
  method : TelegramMethod
  fields : Json
  files : List MediaFile

def messageCall (content : TelegramVariantContent) (targetRef : String) : Rendered :=
  ⟨.sendMessage, messageFields content targetRef, []⟩

def singleCall (content : TelegramVariantContent) (targetRef : String) (caption : Bool)
    (file : MediaFile) : Rendered :=
  ⟨singleMethod file.1.kind, singleMediaFields content targetRef file.1 caption, [file]⟩

/-- An item of a group; the body is the caption of the first one. -/
def groupItem (content : TelegramVariantContent) (caption : Bool) (offset : Nat)
    (file : MediaFile) : Json :=
  .obj ([("type", .str file.1.kind.text), ("media", .str file.1.media)]
    ++ if caption ∧ offset = 0 then
        [("caption", .str content.body), ("parse_mode", .str parseMode)]
      else [])

def groupCallFields (content : TelegramVariantContent) (targetRef : String) (caption : Bool)
    (group : List MediaFile) : Json :=
  .obj [("chat_id", .str targetRef), ("media", .arr (group.zipIdx.map fun entry =>
    groupItem content caption entry.2 entry.1))]

/-- The files of a group are attached under their places in it. -/
def attachFrom (offset : Nat) : List MediaFile → List MediaFile
  | [] => []
  | (descriptor, path) :: rest =>
    ({ descriptor with
        media := attachRef offset
        filename := uploadName offset (pathSuffix descriptor.filename) }, path)
      :: attachFrom (offset + 1) rest

/-- One call for the slice of the files that begins at `start`. -/
def sliceCall (content : TelegramVariantContent) (targetRef : String) (caption : Bool)
    (slice : Nat × List MediaFile) : Rendered :=
  match attachFrom 0 slice.2 with
  | [file] => singleCall content targetRef (caption && slice.1 = 0) file
  | group =>
    ⟨.sendMediaGroup, groupCallFields content targetRef (caption && slice.1 = 0) group, group⟩

/-- `use_caption`. -/
def useCaption (content : TelegramVariantContent) : Bool := content.body.length ≤ captionLimit

/-- `force_message`. -/
def forceMessage (content : TelegramVariantContent) (files : List MediaFile) : Bool :=
  1 < files.length && content.buttons ≠ []

def mediaCalls (content : TelegramVariantContent) (targetRef : String) (files : List MediaFile) :
    List Rendered :=
  match files with
  | [file] => [singleCall content targetRef (useCaption content) file]
  | files =>
    (slices groupLimit files).map
      (sliceCall content targetRef (useCaption content && !forceMessage content files))

def Mixed (files : List MediaFile) : Prop :=
  (∃ file ∈ files, file.1.kind = .document) ∧ ∃ file ∈ files, file.1.kind ≠ .document

instance (files : List MediaFile) : Decidable (Mixed files) :=
  inferInstanceAs (Decidable (_ ∧ _))

/-- `_render_media`. -/
def renderMedia (content : TelegramVariantContent) (ordered : List MediaAsset)
    (targetRef : String) : Except TelegramPublishNeedsReview (List Rendered) := do
  let files ← mediaDescriptors E 0 ordered
  require (¬ Mixed files) ⟨"mixed documents and photo/video media require review"⟩
  .ok (mediaCalls content targetRef files
    ++ if !useCaption content || forceMessage content files then [messageCall content targetRef]
      else [])

/-! ## The plan -/

def fileHash (file : MediaFile) : Json :=
  .obj [("attach", .str file.1.media), ("filename", .str file.1.filename),
    ("kind", .str file.1.kind.text), ("mime_type", .str file.1.mimeType),
    ("sha256", .str file.1.checksumSha256)]

def upload (file : MediaFile) : TelegramUploadMetadata where
  attachName := removePrefix "attach://" file.1.media
  filename := file.1.filename
  mimeType := file.1.mimeType
  mediaType := file.1.kind
  checksumSha256 := file.1.checksumSha256

/-- `_operation`. -/
def operation (index : Nat) (call : Rendered) : TelegramPublishOperation :=
  let requestHash := E.canonicalHash (.obj [("method", .str call.method.text),
    ("fields", call.fields), ("files", .arr (call.files.map fileHash))])
  { index := index
    key := "telegram:" ++ indexText index ++ ":" ++ String.ofList (requestHash.toList.take 24)
    method := call.method
    fields := call.fields
    filePaths := call.files.map Prod.snd
    requestHash := requestHash
    uploads := call.files.map upload }

def operationsFrom (index : Nat) : List Rendered → List TelegramPublishOperation
  | [] => []
  | call :: rest => operation E index call :: operationsFrom (index + 1) rest

/-- `validate_renderability_policy` and the calls of the content. -/
def renderContent (content : TelegramVariantContent) (media : List MediaAsset)
    (targetRef : String) : Except TelegramPublishNeedsReview (List Rendered) := do
  require (content.mediaPolicy ≠ .replaceManually)
    ⟨"replace_manually revisions cannot be rendered"⟩
  if content.mediaPolicy = .omit ∨ content.mediaAssetIds = [] then
    .ok [messageCall content targetRef]
  else
    (orderedMedia content media) >>= fun ordered => renderMedia E content ordered targetRef

def planHash (revision : PlatformRevision) (destination : PublishDestination)
    (operations : List TelegramPublishOperation) : String :=
  E.canonicalHash (.obj [("destination_id", .str (uuidStr destination.id)),
    ("revision_id", .str (uuidStr revision.id)),
    ("operations", .arr (operations.map fun operation =>
      .obj [("index", .int operation.index), ("key", .str operation.key),
        ("request_hash", .str operation.requestHash)]))])

/-- `build_publish_plan`. -/
def buildPublishPlan (revision : PlatformRevision) (media : List MediaAsset)
    (destination : PublishDestination) :
    Except TelegramPublishNeedsReview TelegramPublishPlan := do
  let rendered ← renderContent E revision.content media destination.targetRef
  let operations := operationsFrom E 0 rendered
  .ok ⟨destination.id, revision.id, planHash E revision destination operations, operations⟩

end NewsCraft.Publishing.Renderer
