import NewsCraft.Telegram.ActivationScan
import NewsCraft.Telegram.Capture

/-!
# Catching up from a cursor

`_fetch_forward_step` reads what is above a message id, backwards from a head that is
pinned. A scan that outgrows its job leaves its tokens only: its pages are fetched once
more, the oldest first. The loops are here one page at a time.
-/

namespace NewsCraft.Telegram

open Jobs

/-- `sorted(envelopes.values(), key=_coordinate)`, the last value under each source key. -/
def coordinateOrder (envelopes : List TelegramEnvelope) : List TelegramEnvelope :=
  let bySourceKey := envelopes.foldl
    (fun found item => setKey item.sourceKey item found) ([] : List (String × TelegramEnvelope))
  (bySourceKey.map Prod.snd).insertionSort coordinateLe

/-- `_ForwardStep`. -/
structure ForwardStep where
  envelopes : List TelegramEnvelope
  state : Option ForwardState
  complete : Bool
  lastScannedId : Int
  deriving DecidableEq

inductive ForwardLoop where
  /-- The pages `pageTokens` are still to be fetched again by this job, and `remaining` by later
  ones. -/
  | replay (snapshotToken : Option SnapshotToken) (pageTokens remaining : List (Option PageToken))
      (pages : List (List TelegramEnvelope)) (seenSourceKeys : List String)
      (lastScannedId lastCapturedId : Int)
  /-- This job may still scan `budget` pages. -/
  | scan (budget : Nat) (snapshotToken : Option SnapshotToken) (nextPageToken : Option PageToken)
      (priorTokens scannedTokens : List (Option PageToken))
      (scannedPages : List (List TelegramEnvelope)) (lastScannedId : Int)
  deriving DecidableEq

inductive ForwardOutcome where
  | done (step : ForwardStep)
  | more (loop : ForwardLoop)

def forwardTokenRepeated (message : String) : HandlerError :=
  .retryable "telegram_forward_token_repeated" message none

/-- A step begins from the state an earlier job left, if any. -/
def forwardStart (afterId : Int) (pageBudget : Nat) (savedState : Option ForwardState) :
    Except HandlerError ForwardLoop :=
  match savedState with
  | none => .ok (.scan pageBudget none none [] [] [] 0)
  | some state =>
    if state.baseAfterId ≠ afterId then
      .error (.permanent "telegram_forward_state_invalid"
        "Telegram forward continuation cursor changed")
    else
      match state with
      | .capture _ snapshotToken pageTokens lastScannedId lastCapturedId =>
        if ¬ pageTokens.Nodup then
          .error (forwardTokenRepeated "Telegram forward continuation repeated a page token")
        else
          .ok (.replay snapshotToken (pageTokens.take pageBudget) (pageTokens.drop pageBudget)
            [] [] lastScannedId lastCapturedId)
      | .scan _ snapshotToken nextPageToken priorTokens lastScannedId =>
        if ¬ priorTokens.Nodup then
          .error (forwardTokenRepeated "Telegram forward continuation repeated a page token")
        else if nextPageToken ∈ priorTokens then
          .error (forwardTokenRepeated "Telegram forward continuation reused a page token")
        else
          .ok (.scan pageBudget snapshotToken nextPageToken priorTokens [] [] lastScannedId)

/-- What is asked for above `afterId`. -/
def forwardRequest (afterId : Int) (snapshotToken : Option SnapshotToken)
    (pageToken : Option PageToken) : TelegramFetchRequest where
  afterId := some afterId
  beforeId := none
  limit := 100
  since := none
  snapshotToken := snapshotToken
  pageToken := pageToken

/-! ## Fetching pages again -/

def replayDone (afterId : Int) (snapshotToken : Option SnapshotToken)
    (remaining : List (Option PageToken)) (pages : List (List TelegramEnvelope))
    (lastScannedId lastCapturedId : Int) : ForwardStep :=
  let ordered := coordinateOrder pages.flatten
  { envelopes := ordered
    state :=
      if remaining = [] then none
      else some (.capture afterId snapshotToken remaining lastScannedId lastCapturedId)
    complete := remaining = []
    lastScannedId := (ordered.map TelegramEnvelope.anchorMessageId).max?.getD lastScannedId }

def replayRead (snapshotToken : Option SnapshotToken) (pageTokens remaining : List (Option PageToken))
    (pages : List (List TelegramEnvelope)) (seenSourceKeys : List String)
    (lastScannedId lastCapturedId : Int) (result : TelegramFetchResult) :
    Except HandlerError ForwardLoop :=
  if some result.snapshotToken ≠ snapshotToken then
    .error (.retryable "telegram_forward_snapshot_changed"
      "Telegram forward snapshot changed during capture replay" none)
  else
    let pageKeys := result.envelopes.map TelegramEnvelope.sourceKey
    let anchors := result.envelopes.map TelegramEnvelope.anchorMessageId
    match anchors.min?, anchors.max? with
    | some pageMinimum, some pageMaximum =>
      if ∃ key ∈ pageKeys, key ∈ seenSourceKeys then
        .error (.retryable "telegram_forward_capture_no_progress"
          "Telegram forward capture replay made no unique progress" none)
      else if pageMinimum ≤ lastCapturedId then
        .error (.retryable "telegram_forward_capture_order_invalid"
          "Telegram forward capture replay did not advance" none)
      else
        .ok (.replay snapshotToken pageTokens remaining (pages ++ [result.envelopes])
          (seenSourceKeys ++ pageKeys) lastScannedId pageMaximum)
    | _, _ =>
      .error (.retryable "telegram_forward_capture_no_progress"
        "Telegram forward capture replay made no unique progress" none)

/-! ## Scanning pages -/

def scanDone (afterId : Int) (snapshotToken : Option SnapshotToken)
    (nextPageToken : Option PageToken) (priorTokens scannedTokens : List (Option PageToken))
    (lastScannedId : Int) : ForwardStep where
  envelopes := []
  state := some (.scan afterId snapshotToken nextPageToken (priorTokens ++ scannedTokens)
    lastScannedId)
  complete := false
  lastScannedId := lastScannedId

def scanComplete (afterId : Int) (snapshotToken : SnapshotToken)
    (priorTokens : List (Option PageToken)) (scannedPages : List (List TelegramEnvelope))
    (lastScannedId : Int) : ForwardStep :=
  let envelopes := coordinateOrder scannedPages.reverse.flatten
  { envelopes := envelopes
    state :=
      if priorTokens = [] then none
      else some (.capture afterId (some snapshotToken) priorTokens.reverse lastScannedId
        ((envelopes.map TelegramEnvelope.anchorMessageId).max?.getD afterId))
    complete := priorTokens = []
    lastScannedId := lastScannedId }

def forwardPageProgress (envelopes : List TelegramEnvelope) (lastScannedId : Int) :
    Except HandlerError Int :=
  match (envelopes.map TelegramEnvelope.anchorMessageId).min? with
  | none => .ok lastScannedId
  | some pageMinimum =>
    if lastScannedId ≠ 0 ∧ lastScannedId ≤ pageMinimum then
      .error (.retryable "telegram_forward_envelope_no_progress"
        "Telegram forward pages made no unique envelope progress" none)
    else
      .ok (if lastScannedId ≠ 0 then min lastScannedId pageMinimum else pageMinimum)

/-- The token of the page that follows one that is not the last. -/
def nextForwardPageToken (result : TelegramFetchResult) (currentToken : Option PageToken)
    (tokens : List (Option PageToken)) : Except HandlerError PageToken :=
  match result.envelopes, result.nextPageToken with
  | _ :: _, some nextPageToken =>
    if some nextPageToken = currentToken ∨ some nextPageToken ∈ tokens then
      .error (forwardTokenRepeated "Telegram forward pagination repeated a page token")
    else
      .ok nextPageToken
  | _, _ =>
    .error (.retryable "telegram_forward_page_incomplete"
      "Telegram source did not provide a progressing forward page" none)

def scanRead (afterId : Int) (budget : Nat) (snapshotToken : Option SnapshotToken)
    (currentToken : Option PageToken) (priorTokens scannedTokens : List (Option PageToken))
    (scannedPages : List (List TelegramEnvelope)) (lastScannedId : Int)
    (result : TelegramFetchResult) : Except HandlerError ForwardOutcome :=
  if snapshotToken.isSome ∧ some result.snapshotToken ≠ snapshotToken then
    .error (.retryable "telegram_forward_snapshot_changed"
      "Telegram forward snapshot changed during pagination" none)
  else
    let scannedTokens := scannedTokens ++ [currentToken]
    let scannedPages := scannedPages ++ [result.envelopes]
    match forwardPageProgress result.envelopes lastScannedId with
    | .error error => .error error
    | .ok lastScannedId =>
      if result.complete then
        .ok (.done (scanComplete afterId result.snapshotToken priorTokens scannedPages
          lastScannedId))
      else
        match nextForwardPageToken result currentToken (priorTokens ++ scannedTokens) with
        | .error error => .error error
        | .ok nextPageToken =>
          .ok (.more (.scan budget (some result.snapshotToken) (some nextPageToken) priorTokens
            scannedTokens scannedPages lastScannedId))

/-! ## One turn -/

/-- The page the loop asks for next, if it asks for one. -/
def ForwardLoop.request (afterId : Int) : ForwardLoop → Option TelegramFetchRequest
  | .replay _ [] .. => none
  | .replay snapshotToken (pageToken :: _) .. =>
    some (forwardRequest afterId snapshotToken pageToken)
  | .scan 0 .. => none
  | .scan (_ + 1) snapshotToken nextPageToken .. =>
    some (forwardRequest afterId snapshotToken nextPageToken)

def ForwardLoop.read (afterId : Int) (result : TelegramFetchResult) :
    ForwardLoop → Except HandlerError ForwardOutcome
  | .replay snapshotToken (_ :: pageTokens) remaining pages seenSourceKeys lastScannedId
      lastCapturedId =>
      (replayRead snapshotToken pageTokens remaining pages seenSourceKeys lastScannedId
        lastCapturedId result).map .more
  | .scan (budget + 1) snapshotToken nextPageToken priorTokens scannedTokens scannedPages
      lastScannedId =>
      scanRead afterId budget snapshotToken nextPageToken priorTokens scannedTokens scannedPages
        lastScannedId result
  | loop => .ok (.more loop)

/-- What the step comes to when the loop asks for no page. -/
def ForwardLoop.finished (afterId : Int) : ForwardLoop → ForwardStep
  | .replay snapshotToken _ remaining pages _ lastScannedId lastCapturedId =>
    replayDone afterId snapshotToken remaining pages lastScannedId lastCapturedId
  | .scan _ snapshotToken nextPageToken priorTokens scannedTokens _ lastScannedId =>
    scanDone afterId snapshotToken nextPageToken priorTokens scannedTokens lastScannedId

def ForwardLoop.page (fetch : TelegramFetch) (afterId : Int) (loop : ForwardLoop) :
    Except HandlerError ForwardOutcome :=
  match loop.request afterId with
  | none => .ok (.done (loop.finished afterId))
  | some request =>
    match fetch request with
    | .error error => .error error
    | .ok result => loop.read afterId result

end NewsCraft.Telegram
