import NewsCraft.Telegram.RoutePolicy

/-!
# Three loops of live captures

A poll captures what is new, and an initialization what is above its boundary and then what
came while it scanned. The poll asks the content filter and the quiet hours first; the other
two leave the arguments at their defaults, so their captures are processed at once.

The jobs here have the key of a dispatch, and only a capture enqueues one.
-/

namespace NewsCraft.Telegram.LiveCaptures

open Lib Jobs Option

inductive DispatchStatus where
  | captured
  | filtered
  deriving DecidableEq

/-- A row of `automation_dispatches`. -/
structure Dispatch where
  sourceKey : String
  sourceFingerprint : String
  sourceMessageIds : List Int
  status : DispatchStatus

/-- A `telegram.route.process` job, by the dispatch its idempotency key names. -/
structure ProcessJob where
  sourceKey : String
  scheduledFor : Datetime
  maxAttempts : Int
  deriving DecidableEq

/-- `telegram.source.captured`, as far as the policy goes. -/
structure CapturedEvent where
  sourceKey : String
  filterReason : Option String

structure LiveStore where
  route : AutomationRoute
  globalPause : Bool
  dispatches : List Dispatch
  jobs : List ProcessJob
  events : List CapturedEvent
  owned : ∀ job ∈ jobs, ∃ dispatch ∈ dispatches, dispatch.sourceKey = job.sourceKey

structure RoutePolicy where
  contentFilters : ContentFilters
  quietHours : Option QuietHours
  maxAttempts : Option Int

/-- The arguments of a capture that the policy bears on. -/
structure CaptureArguments where
  enqueueProcess : Bool
  scheduledFor : Option Datetime
  filterReason : Option String

/-- The defaults of `_capture`. -/
def defaultArguments : CaptureArguments := ⟨true, none, none⟩

variable (E : PolicyEnv)

/-- The arguments of `_capture_poll_envelopes`. -/
def pollArguments (policy : RoutePolicy) (envelope : TelegramEnvelope) (observedAt : Datetime) :
    Except PyError CaptureArguments := do
  let decision := evaluateContentFilter E envelope.text (envelope.media ≠ []) policy.contentFilters
  let allowedAt ← nextAllowedAt E observedAt policy.quietHours
  .ok ⟨decision.accepted, if observedAt < allowedAt then some allowedAt else none, decision.reason⟩

inductive LiveLoop where
  | initial
  | catchUp
  | poll
  deriving DecidableEq

def LiveLoop.requiredStatus : LiveLoop → String
  | .initial => "catching_up"
  | .catchUp => "catching_up"
  | .poll => "ready"

def LiveLoop.arguments (loop : LiveLoop) (policy : RoutePolicy) (envelope : TelegramEnvelope)
    (observedAt : Datetime) : Except PyError CaptureArguments :=
  match loop with
  | .initial => .ok defaultArguments
  | .catchUp => .ok defaultArguments
  | .poll => pollArguments E policy envelope observedAt

/-! ## One capture -/

/-- What a capture meets: its media, two readings of the clock, the route, the writes. -/
structure LiveInputs where
  staged : Bool
  observedAt : Datetime
  writtenAt : Datetime
  enabled : Bool
  pausedAt : Option Datetime
  globalPause : Bool
  status : Option String
  activationRequestedAt : Option String
  stored : Bool
  clock : observedAt ≤ writtenAt

namespace LiveStore

/-- The store as operators have left it when the capture locks the route. -/
def observe (store : LiveStore) (inputs : LiveInputs) : LiveStore :=
  { store with
    globalPause := inputs.globalPause
    route :=
      { store.route with
        enabled := inputs.enabled
        pausedAt := inputs.pausedAt
        cursorState :=
          { store.route.cursorState with
            status := inputs.status
            activationRequestedAt := inputs.activationRequestedAt } } }

def dispatchOf (store : LiveStore) (sourceKey : String) : Option Dispatch :=
  store.dispatches.find? fun dispatch => dispatch.sourceKey = sourceKey

def withCursor (store : LiveStore) (cursorState : CursorState) : LiveStore :=
  { store with route := { store.route with cursorState := cursorState } }

/-- The dispatch of a post, and its job where it is processed. -/
def insertDispatch (store : LiveStore) (dispatch : Dispatch) (job : Option ProcessJob)
    (filterReason : Option String)
    (howned : ∀ other ∈ job, other.sourceKey = dispatch.sourceKey) : LiveStore where
  route := store.route
  globalPause := store.globalPause
  dispatches := store.dispatches ++ [dispatch]
  jobs := store.jobs ++ job.toList
  events := store.events ++ [⟨dispatch.sourceKey, filterReason⟩]
  owned := by
    intro other hother
    rcases List.mem_append.mp hother with hother | hother
    · obtain ⟨owner, howner, hkey⟩ := store.owned other hother
      exact ⟨owner, List.mem_append_left _ howner, hkey⟩
    · exact ⟨dispatch, by simp, (howned other (mem_toList.mp hother)).symm⟩

end LiveStore

/-- The job `enqueue_job` writes for the dispatch, due when written if it has no schedule. -/
def processJob (policy : RoutePolicy) (arguments : CaptureArguments) (sourceKey : String)
    (writtenAt : Datetime) : Option ProcessJob :=
  if arguments.enqueueProcess then
    some ⟨sourceKey, arguments.scheduledFor.getD writtenAt, policy.maxAttempts.getD 3⟩
  else
    none

theorem sourceKey_of_processJob {policy : RoutePolicy} {arguments : CaptureArguments}
    {sourceKey : String} {writtenAt : Datetime} :
    ∀ job ∈ processJob policy arguments sourceKey writtenAt, job.sourceKey = sourceKey := by
  intro job hjob
  rw [processJob] at hjob
  split at hjob
  · rw [mem_some_iff] at hjob
    rw [← hjob]
  · exact absurd hjob (not_mem_none job)

def dispatchFor (digest : Json → String) (envelope : TelegramEnvelope) (enqueueProcess : Bool) :
    Dispatch where
  sourceKey := envelope.sourceKey
  sourceFingerprint := telegramEnvelopeFingerprint digest envelope
  sourceMessageIds := envelope.messageIds
  status := if enqueueProcess then .captured else .filtered

/-- `capture_and_enqueue` of a live post. -/
def captureAndEnqueue (digest : Json → String) (policy : RoutePolicy)
    (arguments : CaptureArguments) (envelope : TelegramEnvelope) (inputs : LiveInputs)
    (store : LiveStore) : Except PyError LiveStore :=
  let cursorState := updateCursor store.route.cursorState envelope
    (telegramEnvelopeFingerprint digest envelope) .live
  match store.dispatchOf envelope.sourceKey with
  | some _ => .ok (store.withCursor cursorState)
  | none =>
    if !inputs.stored then
      .error (.valueError "capture failed")
    else
      .ok ((store.insertDispatch (dispatchFor digest envelope arguments.enqueueProcess)
        (processJob policy arguments envelope.sourceKey inputs.writtenAt)
        arguments.filterReason sourceKey_of_processJob).withCursor cursorState)

/-- The arguments every capture of one job shares. -/
structure LiveContext where
  digest : Json → String
  policy : RoutePolicy
  expectedActivation : Option String

/-- `_capture` once the media is staged, when it neither raises nor is deferred. -/
def capture (C : LiveContext) (loop : LiveLoop) (arguments : CaptureArguments)
    (envelope : TelegramEnvelope) (inputs : LiveInputs) (store : LiveStore) : Option LiveStore :=
  match validateLockedRoute store.route store.globalPause loop.requiredStatus
      C.expectedActivation with
  | .ok none => (captureAndEnqueue C.digest C.policy arguments envelope inputs store).toOption
  | _ => none

/-! ## The loops -/

/-- A capture that went through: the post, what it met, and the rows around it. -/
structure MadeCapture where
  envelope : TelegramEnvelope
  inputs : LiveInputs
  before : LiveStore
  after : LiveStore

/-- A loop over `envelopes`; it stops where one raises or is deferred, or the inputs end. -/
def captureEnvelopes (C : LiveContext) (loop : LiveLoop) :
    List LiveInputs → List TelegramEnvelope → LiveStore → List MadeCapture × LiveStore
  | _, [], store => ([], store)
  | [], _, store => ([], store)
  | inputs :: later, envelope :: envelopes, store =>
    let observed := store.observe inputs
    match loop.arguments E C.policy envelope inputs.observedAt with
    | .error _ => ([], observed)
    | .ok arguments =>
      if !inputs.staged then
        ([], observed)
      else
        match capture C loop arguments envelope inputs observed with
        | none => ([], observed)
        | some after =>
          let rest := captureEnvelopes C loop later envelopes after
          (⟨envelope, inputs, observed, after⟩ :: rest.1, rest.2)

/-- `{item.source_key: item for item in envelopes}`. -/
def uniqueBySourceKey (envelopes : List TelegramEnvelope) : List TelegramEnvelope :=
  (envelopes.foldl (fun unique envelope => setKey envelope.sourceKey envelope unique) []).map
    Prod.snd

/-- `_capture_initial_envelopes`. -/
def captureInitialEnvelopes (C : LiveContext) (inputs : List LiveInputs)
    (envelopes : List TelegramEnvelope) (store : LiveStore) : List MadeCapture × LiveStore :=
  captureEnvelopes E C .initial inputs ((uniqueBySourceKey envelopes).insertionSort coordinateLe)
    store

/-- `_capture_catch_up_envelopes`. -/
def captureCatchUpEnvelopes (C : LiveContext) (inputs : List LiveInputs)
    (envelopes : List TelegramEnvelope) (store : LiveStore) : List MadeCapture × LiveStore :=
  captureEnvelopes E C .catchUp inputs envelopes store

/-- `_capture_poll_envelopes`. -/
def capturePollEnvelopes (C : LiveContext) (inputs : List LiveInputs)
    (envelopes : List TelegramEnvelope) (store : LiveStore) : List MadeCapture × LiveStore :=
  captureEnvelopes E C .poll inputs envelopes store

def LiveLoop.run (loop : LiveLoop) (C : LiveContext) (inputs : List LiveInputs)
    (envelopes : List TelegramEnvelope) (store : LiveStore) : List MadeCapture × LiveStore :=
  match loop with
  | .initial => captureInitialEnvelopes E C inputs envelopes store
  | .catchUp => captureCatchUpEnvelopes E C inputs envelopes store
  | .poll => capturePollEnvelopes E C inputs envelopes store

end NewsCraft.Telegram.LiveCaptures
