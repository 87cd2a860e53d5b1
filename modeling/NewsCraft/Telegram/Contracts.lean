import NewsCraft.Core.Basic
import NewsCraft.Core.Json

/-!
# Telegram sources

What a source adapter is asked for and what it answers. A token is the base64
text of a small JSON object and decoding it gives the object back, so a token is
kept here as the object.
-/

namespace NewsCraft.Telegram

inductive TelegramMediaKind where
  | photo
  | video
  | document
  deriving DecidableEq

def TelegramMediaKind.value : TelegramMediaKind → String
  | photo => "photo"
  | video => "video"
  | document => "document"

structure TelegramMediaReference where
  key : String
  kind : TelegramMediaKind
  deriving DecidableEq

/-- A single message, or an album as one logical post. -/
structure TelegramEnvelope where
  sourceKey : String
  peerId : String
  anchorMessageId : Int
  messageIds : List Int
  text : String
  html : Option String
  entities : List Json
  publishedAt : Datetime
  media : List TelegramMediaReference
  deriving DecidableEq

structure SnapshotToken where
  head : Int
  deriving DecidableEq

structure PageToken where
  before : Int
  snapshot : Int
  pendingGroupIds : List Int
  deriving DecidableEq

instance : LawfulBEq (Option PageToken) := inferInstance

structure TelegramFetchRequest where
  afterId : Option Int
  beforeId : Option Int
  limit : Nat
  since : Option Datetime
  snapshotToken : Option SnapshotToken
  pageToken : Option PageToken

structure TelegramFetchResult where
  envelopes : List TelegramEnvelope
  snapshotToken : SnapshotToken
  nextPageToken : Option PageToken
  complete : Bool

/-- `telegram_envelope_fingerprint`, with the digest of a document (SHA-256 of
its text with sorted keys) left to the caller. -/
def telegramEnvelopeFingerprint (digest : Json → String) (envelope : TelegramEnvelope) : String :=
  digest <| .obj [("peer_id", .str envelope.peerId),
     ("message_ids", .arr (envelope.messageIds.map Json.int)),
     ("text", .str envelope.text),
     ("html", match envelope.html with
       | none => .null
       | some html => .str html),
     ("entities", .arr envelope.entities),
     ("media", .arr (envelope.media.map fun item =>
       .obj [("key", .str item.key), ("kind", .str item.kind.value)]))]

/-! ## The order of a batch -/

/-- `_coordinate(a) <= _coordinate(b)`. -/
def coordinateLe (a b : TelegramEnvelope) : Prop :=
  a.publishedAt < b.publishedAt
    ∨ a.publishedAt = b.publishedAt ∧ a.anchorMessageId ≤ b.anchorMessageId

instance : DecidableRel coordinateLe := fun _ _ => inferInstanceAs (Decidable (_ ∨ _))

theorem coordinateLe_total (a b : TelegramEnvelope) : coordinateLe a b ∨ coordinateLe b a := by
  rcases Int.lt_trichotomy a.publishedAt b.publishedAt with h | h | h
  · exact .inl (.inl h)
  · rcases Int.le_total a.anchorMessageId b.anchorMessageId with h' | h'
    · exact .inl (.inr ⟨h, h'⟩)
    · exact .inr (.inr ⟨h.symm, h'⟩)
  · exact .inr (.inl h)

theorem coordinateLe_trans (a b c : TelegramEnvelope) (hab : coordinateLe a b)
    (hbc : coordinateLe b c) : coordinateLe a c := by
  rcases hab with hab | ⟨hab, hab'⟩
  · rcases hbc with hbc | ⟨hbc, _⟩
    · exact .inl (Int.lt_trans hab hbc)
    · exact .inl (hbc ▸ hab)
  · rcases hbc with hbc | ⟨hbc, hbc'⟩
    · exact .inl (hab ▸ hbc)
    · exact .inr ⟨hab.trans hbc, Int.le_trans hab' hbc'⟩

end NewsCraft.Telegram
