import NewsCraft.Jobs.Types
import NewsCraft.Telegram.Contracts

/-!
# Looking for the activation boundary

`_scan_activation_pages` pages backwards from the head of the channel until a page has a
post from before the second of the request: the highest such post is the predecessor. The
posts in front of it are kept for as long as the job lasts; a scan that outgrows its job
leaves its tokens and drops them. The loop is here one page at a time.
-/

namespace NewsCraft.Telegram

open Jobs

/-- `sorted(envelopes, key=_coordinate, reverse=True)`. -/
def latestFirst (envelopes : List TelegramEnvelope) : List TelegramEnvelope :=
  envelopes.insertionSort fun a b => coordinateLe b a

/-- `(item.published_at, item.anchor_message_id) > (boundary, 0)`. -/
def FromBoundary (boundary : Datetime) (envelope : TelegramEnvelope) : Prop :=
  boundary < envelope.publishedAt ∨ envelope.publishedAt = boundary ∧ 0 < envelope.anchorMessageId

instance (boundary : Datetime) : DecidablePred (FromBoundary boundary) :=
  fun _ => inferInstanceAs (Decidable (_ ∨ _))

structure ActivationPageDecision where
  newer : List TelegramEnvelope
  predecessorId : Option Int
  boundaryProven : Bool

/-- `classify_activation_page`. -/
def classifyActivationPage (envelopes : List TelegramEnvelope) (boundary : Datetime)
    (complete : Bool) : ActivationPageDecision :=
  let ordered := latestFirst envelopes
  let newer := ordered.filter fun item => FromBoundary boundary item
  let predecessors := (ordered.filter fun item => ¬ FromBoundary boundary item).map
    TelegramEnvelope.anchorMessageId
  match predecessors.max? with
  | some predecessor => ⟨newer, some predecessor, true⟩
  | none => if complete then ⟨newer, some 0, true⟩ else ⟨newer, none, false⟩

structure ActivationScan where
  snapshotToken : Option SnapshotToken
  pageToken : Option PageToken
  seenPageTokens : List (Option PageToken)
  lastScanned : Int
  envelopes : List TelegramEnvelope
  deriving DecidableEq

inductive ScanOutcome where
  | proven (predecessor : Option Int) (envelopes : List TelegramEnvelope)
  | unproven (scan : ActivationScan)

abbrev TelegramFetch := TelegramFetchRequest → Except HandlerError TelegramFetchResult

/-- `_activation_page_progress`. -/
def activationPageProgress (ordered : List TelegramEnvelope) (lastScanned : Int) :
    Except HandlerError Int :=
  match (ordered.map TelegramEnvelope.anchorMessageId).min? with
  | none => .ok lastScanned
  | some pageMinimum =>
    if lastScanned ≠ 0 ∧ lastScanned ≤ pageMinimum then
      .error (.retryable "telegram_activation_envelope_no_progress"
        "Telegram activation pages made no unique progress" none)
    else
      .ok pageMinimum

/-- `_next_activation_page_token`. -/
def nextActivationPageToken (result : TelegramFetchResult) (currentPageToken : Option PageToken)
    (seenPageTokens : List (Option PageToken)) (ordered : List TelegramEnvelope) :
    Except HandlerError PageToken :=
  if ordered = [] then
    .error (.retryable "telegram_activation_page_no_progress"
      "Telegram activation page made no progress" none)
  else
    match result.nextPageToken with
    | none =>
      .error (.retryable "telegram_activation_page_incomplete"
        "Telegram source did not provide a complete activation page" none)
    | some nextPageToken =>
      if some nextPageToken = currentPageToken ∨ some nextPageToken ∈ seenPageTokens then
        .error (.retryable "telegram_activation_token_repeated"
          "Telegram activation repeated a page token" none)
      else
        .ok nextPageToken

namespace ActivationScan

variable (scan : ActivationScan)

def request : TelegramFetchRequest where
  afterId := none
  beforeId := none
  limit := 100
  since := none
  snapshotToken := scan.snapshotToken
  pageToken := scan.pageToken

def read (boundary : Datetime) (result : TelegramFetchResult) : Except HandlerError ScanOutcome :=
  if scan.snapshotToken.isSome ∧ some result.snapshotToken ≠ scan.snapshotToken then
    .error (.retryable "telegram_activation_snapshot_changed"
      "Telegram activation snapshot changed during pagination" none)
  else
    let seenPageTokens := scan.seenPageTokens ++ [scan.pageToken]
    let ordered := latestFirst result.envelopes
    match activationPageProgress ordered scan.lastScanned with
    | .error error => .error error
    | .ok lastScanned =>
      let decision := classifyActivationPage ordered boundary result.complete
      let envelopes := scan.envelopes ++ decision.newer
      if decision.boundaryProven then
        .ok (.proven decision.predecessorId envelopes)
      else
        match nextActivationPageToken result scan.pageToken seenPageTokens ordered with
        | .error error => .error error
        | .ok pageToken =>
          .ok (.unproven
            ⟨some result.snapshotToken, some pageToken, seenPageTokens, lastScanned, envelopes⟩)

/-- One turn of the loop of `_scan_activation_pages`. -/
def page (fetch : TelegramFetch) (boundary : Datetime) : Except HandlerError ScanOutcome :=
  if scan.pageToken ∈ scan.seenPageTokens then
    .error (.retryable "telegram_activation_token_repeated"
      "Telegram activation repeated a page token" none)
  else
    match fetch scan.request with
    | .error error => .error error
    | .ok result => scan.read boundary result

end ActivationScan

end NewsCraft.Telegram
