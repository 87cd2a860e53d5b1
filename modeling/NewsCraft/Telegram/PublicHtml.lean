import Mathlib
import NewsCraft.Telegram.ActivationScan

/-!
# The public page of a channel

The adapter without credentials reads `t.me/s/<channel>`, twenty posts at a time: the newest
there are, or those before a message id. What it pins of a snapshot is only what it filters.
-/

namespace NewsCraft.Telegram.PublicHtml

open Jobs

def transportPageSize : Nat := 20

/-- What the page shows while the channel is as given, the newest post first. -/
def page (channel : List TelegramEnvelope) (before : Option Int) : List TelegramEnvelope :=
  (channel.filter fun post => ∀ id ∈ before, post.anchorMessageId < id).take transportPageSize

/-- `_within_bounds`. -/
def WithinBounds (request : TelegramFetchRequest) (envelope : TelegramEnvelope) : Prop :=
  (∀ afterId ∈ request.afterId, afterId < envelope.anchorMessageId)
    ∧ (∀ beforeId ∈ request.beforeId, envelope.anchorMessageId < beforeId)
    ∧ ∀ since ∈ request.since, since ≤ envelope.publishedAt

instance (request : TelegramFetchRequest) : DecidablePred (WithinBounds request) :=
  fun _ => inferInstanceAs (Decidable (_ ∧ _ ∧ _))

/-- `_boundary_proven`. -/
def boundaryProven (envelopes : List TelegramEnvelope) (request : TelegramFetchRequest) : Bool :=
  match request.afterId, request.since with
  | some afterId, _ => envelopes.any fun item => item.anchorMessageId ≤ afterId
  | none, some since => envelopes.any fun item => item.publishedAt < since
  | none, none => false

/-- `_snapshot_head`. -/
def snapshotHead (token : Option SnapshotToken) (envelopes : List TelegramEnvelope) : Int :=
  match token with
  | some token => token.head
  | none => (envelopes.map TelegramEnvelope.anchorMessageId).max?.getD 0

/-- `PublicHtmlTelegramAdapter.fetch`. The error is that of `min` on nothing. -/
def fetch (channel : List TelegramEnvelope) : TelegramFetch := fun request =>
  let before := (request.pageToken.map PageToken.before).or request.beforeId
  let rawEnvelopes := page channel before
  let head := snapshotHead request.snapshotToken rawEnvelopes
  let pinned := rawEnvelopes.filter fun item => item.anchorMessageId ≤ head
  let filtered := pinned.filter fun item => WithinBounds request item
  let selected := ((latestFirst filtered).take request.limit).insertionSort coordinateLe
  let hasBufferedEnvelopes := selected.length < filtered.length
  let remoteExhausted := rawEnvelopes.length < transportPageSize
  let complete : Bool :=
    (remoteExhausted ∨ boundaryProven pinned request) ∧ ¬ hasBufferedEnvelopes
  let result (nextPageToken : Option PageToken) : TelegramFetchResult :=
    ⟨selected, ⟨head⟩, nextPageToken, complete⟩
  if complete ∨ rawEnvelopes = [] then
    .ok (result none)
  else
    let cursorEnvelopes := if selected = [] then pinned else selected
    match (cursorEnvelopes.flatMap TelegramEnvelope.messageIds).min? with
    | none => .error (.permanent "ValueError" "min() iterable argument is empty")
    | some beforeNext => .ok (result (some ⟨beforeNext, head, []⟩))

end NewsCraft.Telegram.PublicHtml
