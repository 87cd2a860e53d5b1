import NewsCraft.Jobs.Types
import NewsCraft.Lib.Watermark
import NewsCraft.Telegram.Contracts

/-!
# Capturing an envelope

One capture is one transaction that locks and checks the route: either it is deferred
because something is paused, or the envelope's dispatch is written (unless it is there) and
the cursor moves.

What the capture writes besides the route, its dispatches and their jobs is not read back by
the polling code and is left out; that it may fail is an argument.
-/

namespace NewsCraft.Telegram

open Lib Jobs

inductive DispatchKind where
  | live
  | backfill
  | dryRun
  | sourceEdit
  deriving DecidableEq

/-- `cursor_state["poll_forward"]`: how far a poll that outgrew its job has come. -/
inductive ForwardState where
  | scan (baseAfterId : Int) (snapshotToken : Option SnapshotToken)
      (nextPageToken : Option PageToken) (pageTokens : List (Option PageToken))
      (lastScannedId : Int)
  | capture (baseAfterId : Int) (snapshotToken : Option SnapshotToken)
      (pageTokens : List (Option PageToken)) (lastScannedId lastCapturedId : Int)
  deriving DecidableEq

def ForwardState.baseAfterId : ForwardState → Int
  | .scan baseAfterId .. => baseAfterId
  | .capture baseAfterId .. => baseAfterId

/-- `cursor_state` of a route. The keys of `recentFingerprints` are printed integers. -/
structure CursorState where
  status : Option String
  activationRequestedAt : Option String
  lastMessageId : Option Int
  recentFingerprints : List (Int × String)
  pollForward : Option ForwardState
  deriving DecidableEq

structure AutomationRoute where
  id : UUID
  enabled : Bool
  pausedAt : Option Datetime
  pollIntervalSeconds : Int
  cursorState : CursorState
  lastPolledAt : Option Datetime
  nextPollAt : Option Datetime
  deriving DecidableEq

/-- A row of `automation_dispatches`, with the envelope it was made from. -/
structure AutomationDispatch where
  sourceKey : String
  sourceFingerprint : String
  dispatchKind : DispatchKind
  envelope : TelegramEnvelope

/-! ## The cursor -/

/-- `advance_poll_cursor`. -/
def advancePollCursor (current : Option Int) (messageIds : List Int) : Option Int :=
  match messageIds.max? with
  | none => current
  | some highest =>
    match current with
    | none => some highest
    | some current => some (max current highest)

theorem advancePollCursor_eq (current : Option Int) (messageIds : List Int) :
    advancePollCursor current messageIds = Watermark.advance current messageIds := by
  unfold advancePollCursor Watermark.advance
  cases messageIds.max? with
  | none => rfl
  | some highest => cases current <;> rfl

/-- `d[key] = value` on a dictionary in insertion order. -/
def setKey {κ β : Type} [DecidableEq κ] (key : κ) (value : β) : List (κ × β) → List (κ × β)
  | [] => [(key, value)]
  | (k, v) :: rest => if k = key then (key, value) :: rest else (k, v) :: setKey key value rest

/-- The fifty fingerprints of the highest anchors. -/
def retainRecent (recent : List (Int × String)) : List (Int × String) :=
  (recent.insertionSort fun a b => b.1 ≤ a.1).take 50

/-- `_update_cursor`. -/
def updateCursor (state : CursorState) (envelope : TelegramEnvelope) (sourceFingerprint : String)
    (dispatchKind : DispatchKind) : CursorState :=
  let recent := retainRecent
    (setKey envelope.anchorMessageId sourceFingerprint state.recentFingerprints)
  match dispatchKind with
  | .backfill | .dryRun => state
  | .sourceEdit => { state with recentFingerprints := recent }
  | .live =>
    { state with
      recentFingerprints := recent
      lastMessageId := advancePollCursor state.lastMessageId envelope.messageIds }

/-! ## The capture repository -/

inductive RouteJob where
  /-- `telegram.route.process` of the dispatch with this source key. -/
  | process (sourceKey : String) (forceReview : Bool)
  /-- The link `sequence` of a chain of deferrals. -/
  | deferred (rootJobId : UUID) (sequence : Nat) (scheduledFor : Datetime)
  /-- A continuation of a forward poll. -/
  | forward (state : ForwardState)
  deriving DecidableEq

/-- A route with what its handlers read and write. -/
structure RouteStore where
  route : AutomationRoute
  globalPause : Bool
  dispatches : List AutomationDispatch
  jobs : List RouteJob

/-- `_dispatch_source_key`. -/
def dispatchSourceKey (sourceKey sourceFingerprint : String) (dispatchKind : DispatchKind)
    (dryRunJobId : Option UUID) : Except PyError String :=
  match dispatchKind with
  | .dryRun =>
    match dryRunJobId with
    | none => .error (.valueError "dry_run_job_id is required for a dry-run capture")
    | some dryRunJobId => .ok ("dry:" ++ uuidStr dryRunJobId ++ ":" ++ sourceKey)
  | .sourceEdit => .ok (sourceKey ++ ":edit:" ++ sourceFingerprint)
  | .live | .backfill => .ok sourceKey

namespace RouteStore

/-- The dispatch of the route under a source key, which its unique constraint makes one. -/
def dispatchOf (store : RouteStore) (sourceKey : String) : Option AutomationDispatch :=
  store.dispatches.find? fun dispatch => dispatch.sourceKey = sourceKey

def withCursor (store : RouteStore) (cursorState : CursorState) : RouteStore :=
  { store with route := { store.route with cursorState := cursorState } }

/-- Put a job on the queue; the queue keeps one job per idempotency key. -/
def enqueue (store : RouteStore) (job : RouteJob) : RouteStore :=
  if job ∈ store.jobs then store else { store with jobs := store.jobs ++ [job] }

/-- `capture_and_enqueue`; `stored` says whether the writes outside the model succeed. -/
def captureAndEnqueue (digest : Json → String) (store : RouteStore) (envelope : TelegramEnvelope)
    (dispatchKind : DispatchKind) (dryRunJobId : Option UUID) (enqueueProcess forceReview : Bool)
    (stored : Bool) : Except PyError RouteStore :=
  let sourceFingerprint := telegramEnvelopeFingerprint digest envelope
  match dispatchSourceKey envelope.sourceKey sourceFingerprint dispatchKind dryRunJobId with
  | .error e => .error e
  | .ok sourceKey =>
    let cursorState :=
      updateCursor store.route.cursorState envelope sourceFingerprint dispatchKind
    match store.dispatchOf sourceKey with
    | some _ => .ok (store.withCursor cursorState)
    | none =>
      if dispatchKind = .sourceEdit ∧ store.dispatchOf envelope.sourceKey = none then
        .error (.valueError "source edit capture requires an existing source revision")
      else if !stored then
        .error (.valueError "capture failed")
      else
        let dispatch : AutomationDispatch :=
          ⟨sourceKey, sourceFingerprint, dispatchKind, envelope⟩
        let store := { store with dispatches := store.dispatches ++ [dispatch] }
        let store :=
          if enqueueProcess then store.enqueue (.process sourceKey forceReview) else store
        .ok (store.withCursor cursorState)

end RouteStore

/-! ## One capture transaction -/

def maxDeferSequence : Nat := 720

/-- The poll job a worker runs, with its place in a chain of deferrals. -/
structure RouteJobExecution where
  id : UUID
  deferRootJobId : Option UUID
  deferSequence : Nat

inductive RouteError where
  | handler (error : HandlerError)
  | other (error : PyError)

/-- `_validate_locked_route`: the reason the route is held, if it is. -/
def validateLockedRoute (route : AutomationRoute) (globalPause : Bool) (requiredStatus : String)
    (activationRequestedAt : Option String) : Except HandlerError (Option String) :=
  if activationRequestedAt.isSome
      ∧ route.cursorState.activationRequestedAt ≠ activationRequestedAt then
    .error (.permanent "activation_changed" "Telegram route activation changed during initialization")
  else if !route.enabled then
    .error (.permanent "route_disabled" "Telegram route is disabled")
  else if route.cursorState.status ≠ some requiredStatus then
    .error (.permanent "route_state_changed" "Telegram route state changed before capture")
  else if globalPause then
    .ok (some "global_pause")
  else if route.pausedAt.isSome then
    .ok (some "route_pause")
  else
    .ok none

namespace RouteStore

/-- `_defer_route_job`. -/
def deferRouteJob (store : RouteStore) (job : RouteJobExecution) (scheduledFor : Datetime) :
    Except HandlerError RouteStore :=
  let rootJobId := job.deferRootJobId.getD job.id
  let nextSequence := job.deferSequence + 1
  if maxDeferSequence < nextSequence then
    .error (.needsReview "telegram_route_deferral_exhausted"
      "Telegram route deferred 720 times without running; resume the route or clear the pause")
  else
    .ok (store.enqueue (.deferred rootJobId nextSequence scheduledFor))

end RouteStore

/-- How a capture's transaction ended when it committed. -/
inductive CaptureOutcome where
  | captured
  | deferred (reason : String)

/-- The arguments every capture of one job shares. -/
structure CaptureContext where
  digest : Json → String
  job : RouteJobExecution
  expectedActivation : Option String

/-- `_capture` once the media is staged: one transaction. -/
def RouteStore.capture (C : CaptureContext) (store : RouteStore) (envelope : TelegramEnvelope)
    (dispatchKind : DispatchKind) (enqueueProcess forceReview : Bool) (deferredUntil : Datetime)
    (stored : Bool) : Except RouteError (CaptureOutcome × RouteStore) :=
  match validateLockedRoute store.route store.globalPause "ready" C.expectedActivation with
  | .error e => .error (.handler e)
  | .ok (some reason) =>
    match store.deferRouteJob C.job deferredUntil with
    | .error e => .error (.handler e)
    | .ok store => .ok (.deferred reason, store)
  | .ok none =>
    match store.captureAndEnqueue C.digest envelope dispatchKind none enqueueProcess forceReview
        stored with
    | .error e => .error (.other e)
    | .ok store => .ok (.captured, store)

/-! ## The captures of a poll -/

/-- What one capture meets: the media, the route by then, the clock, the filter, the writes. -/
structure CaptureInputs where
  staged : Bool
  enabled : Bool
  pausedAt : Option Datetime
  globalPause : Bool
  status : Option String
  activationRequestedAt : Option String
  accepted : Bool
  deferredUntil : Datetime
  stored : Bool

/-- The store as operators have left it when the capture locks the route. -/
def RouteStore.observe (store : RouteStore) (inputs : CaptureInputs) : RouteStore :=
  { store with
    globalPause := inputs.globalPause
    route :=
      { store.route with
        enabled := inputs.enabled
        pausedAt := inputs.pausedAt
        cursorState :=
          { store.route.cursorState with
            status := inputs.status
            activationRequestedAt := inputs.activationRequestedAt } } }

/-- `_capture_poll_envelopes` over `envelopes`, with one `CaptureInputs` for each capture: the
envelopes left uncaptured when it stops, and the rows committed by then. It stops at the first
capture that raises or is deferred, and where the inputs end, which is where the worker dies. -/
def capturePollEnvelopes (C : CaptureContext) :
    List CaptureInputs → List TelegramEnvelope → RouteStore → List TelegramEnvelope × RouteStore
  | _, [], store => ([], store)
  | [], envelopes, store => (envelopes, store)
  | inputs :: later, envelope :: envelopes, store =>
    let observed := store.observe inputs
    if !inputs.staged then
      (envelope :: envelopes, observed)
    else
      match observed.capture C envelope .live inputs.accepted false inputs.deferredUntil
          inputs.stored with
      | .error _ => (envelope :: envelopes, observed)
      | .ok (.deferred _, store) => (envelope :: envelopes, store)
      | .ok (.captured, store) => capturePollEnvelopes C later envelopes store

end NewsCraft.Telegram
