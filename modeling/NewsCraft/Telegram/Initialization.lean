import Mathlib
import NewsCraft.Telegram.ForwardStep
import NewsCraft.Telegram.RouteFence

/-!
# Initializing a route

`initialize_route` looks for the boundary, writes it down, captures the posts in front of
it, and catches up from the predecessor until a fetch finds nothing more. It stops after a
budget of pages and leaves a continuation; it may be held, fail or die at any point, and
another job goes on from what `cursor_state` has by then.

A step is one page fetched or one transaction. Posts come to the channel in between.
-/

namespace NewsCraft.Telegram.Initialization

open Lib Jobs Telegram.RouteFence

structure InitConfig where
  /-- `dependencies.page_budget`. -/
  pageBudget : Nat
  /-- The digest under a fingerprint. -/
  digest : Json → String
  /-- `datetime.fromisoformat`, of a text with its `Z` spelled out. -/
  fromisoformat : String → Option Datetime
  /-- The adapter's answer while the channel is as given, the newest post first. -/
  fetch : List TelegramEnvelope → TelegramFetch

/-- `requested_at.replace(microsecond=0)`. -/
def wholeSecond (instant : Datetime) : Datetime := instant / 1000000 * 1000000

/-! ## A job -/

inductive InitStage where
  /-- It may still scan `pages` pages. -/
  | scanning (pages : Nat) (scan : ActivationScan)
  /-- The boundary is proven and not written yet. -/
  | proven (predecessor : Option Int) (envelopes : List TelegramEnvelope)
  | initialCaptures (envelopes : List TelegramEnvelope)
  /-- It may still begin `cycles` rounds of catching up. -/
  | catchUp (cycles : Nat)
  | forward (cycles : Nat) (saved : Option ForwardState) (baseCursor : Int) (loop : ForwardLoop)
  | captures (cycles : Nat) (saved : Option ForwardState) (step : ForwardStep)
      (envelopes : List TelegramEnvelope)
  | clearing (cycles : Nat)
  | finalizing

/-- A job that runs, with its session's copy of the route. -/
structure InitRun where
  id : UUID
  copy : RouteRow
  /-- What the session has of the global control, if that was there when it was loaded. -/
  control : Option Bool
  requestedRaw : String
  boundary : Datetime
  expectedStatus : String
  stage : InitStage

instance : Keyed InitRun UUID := ⟨InitRun.id⟩

/-! ## The world -/

structure InitWorld where
  row : RouteRow
  globalPause : Option Bool
  /-- The posts of the channel, the newest first. -/
  channel : List TelegramEnvelope
  dispatches : List AutomationDispatch
  runs : Table InitRun
  /-- The channel as the last page of a catch-up was fetched from it. -/
  lastSeen : List TelegramEnvelope

inductive InitEvent where
  /-- A post is published, an album with all its messages. -/
  | arrive (post : TelegramEnvelope)
  | activate (requestedAt : String)
  | pause (now : Datetime)
  | resume
  | control (globalPause : Bool)
  /-- A worker takes up a job of the initialization. -/
  | start (id : UUID) (payloadActivation : Option Datetime)
  /-- The job comes to its next page or transaction. -/
  | advance (id : UUID) (now : Datetime)
  /-- The worker dies, or the job fails outside the code here. -/
  | stop (id : UUID)

namespace InitWorld

variable (C : InitConfig) (w : InitWorld)

/-- The second of the activation request, once there was one. -/
def boundary : Option Datetime :=
  (w.row.activation.bind C.fromisoformat).map wholeSecond

/-- The dispatch of the route under a source key, which its unique constraint makes one. -/
def dispatchOf (sourceKey : String) : Option AutomationDispatch :=
  w.dispatches.find? fun dispatch => dispatch.sourceKey = sourceKey

def activated (requestedAt : String) : InitWorld :=
  { w with
    row :=
      { route :=
          { w.row.route with
            enabled := true
            pausedAt := none
            cursorState := ⟨some "initializing", some requestedAt, none, [], none⟩ }
        initialization := .cleared } }

/-! ### Beginning -/

def savedScan (state : InitializationState) : ActivationScan where
  snapshotToken := state.activationSnapshotToken
  pageToken := state.activationPageToken
  seenPageTokens := state.activationSeenPageTokens
  lastScanned := state.activationLastScannedId.getD 0
  envelopes := []

/-- `_initialization_state` and what comes before it. -/
def initializationState (payloadActivation : Option Datetime) : Option (String × Datetime × String) :=
  if w.globalPause.getD false ∨ w.row.route.pausedAt.isSome then
    none
  else
    match w.row.activation with
    | none => none
    | some requestedRaw =>
      match C.fromisoformat requestedRaw with
      | none => none
      | some requestedAt =>
        if payloadActivation.isSome ∧ payloadActivation ≠ some requestedAt then
          none
        else
          match w.row.route.cursorState.status with
          | some "initializing" => some (requestedRaw, requestedAt, "initializing")
          | some "catching_up" => some (requestedRaw, requestedAt, "catching_up")
          | _ => none

/-- Where the job takes up: at the scan, or behind the boundary when that is written. -/
def firstStage : InitStage :=
  match w.row.initialization.activationMessageId with
  | none => .scanning C.pageBudget (savedScan w.row.initialization)
  | some _ => .catchUp C.pageBudget

def started (id : UUID) (requestedRaw : String) (requestedAt : Datetime) (expectedStatus : String) :
    InitRun where
  id := id
  copy := w.row
  control := w.globalPause
  requestedRaw := requestedRaw
  boundary := wholeSecond requestedAt
  expectedStatus := expectedStatus
  stage := w.firstStage C

/-! ### Going on -/

def ended (run : InitRun) : InitWorld := { w with runs := w.runs.erase run.id }

def proceed (run : InitRun) (stage : InitStage) : InitWorld :=
  { w with runs := w.runs.put { run with stage := stage } }

/-- What `_lock_route_and_control` has of the global control: a row that is not in the session
yet is loaded. -/
def controlOf (run : InitRun) : Bool := (run.control.or w.globalPause).getD false

/-- A transaction of the job; one the check does not let through ends the job. -/
def commit (run : InitRun) (write : RouteWrite) (dispatches : List AutomationDispatch)
    (after : Option InitStage) : InitWorld :=
  match validateLockedRoute run.copy.route (w.controlOf run)
      (write.requiredStatus .initializeRoute run.expectedStatus) (some run.requestedRaw) with
  | .ok none =>
    let changed := write.apply run.copy .initializeRoute
    { w with
      row := w.row.flushed run.copy changed
      dispatches := dispatches
      runs :=
        match after with
        | none => w.runs.erase run.id
        | some stage => w.runs.put { run with copy := changed, stage := stage } }
  | _ => w.ended run

def write (run : InitRun) (write : RouteWrite) (after : Option InitStage) : InitWorld :=
  w.commit run write w.dispatches after

/-- The dispatches with that of an envelope, unless there is one. -/
def dispatched (envelope : TelegramEnvelope) : List AutomationDispatch :=
  match w.dispatchOf envelope.sourceKey with
  | some _ => w.dispatches
  | none =>
    w.dispatches ++ [⟨envelope.sourceKey, telegramEnvelopeFingerprint C.digest envelope, .live,
      envelope⟩]

def capture (run : InitRun) (envelope : TelegramEnvelope) (after : InitStage) : InitWorld :=
  w.commit run (.capture envelope (telegramEnvelopeFingerprint C.digest envelope) .live)
    (w.dispatched C envelope) (some after)

/-- The next round of catching up: from the state an earlier job left, if any, and otherwise
from the cursor. -/
def beginForward (copy : RouteRow) (cycles : Nat) : Except HandlerError InitStage :=
  let cursor := copy.route.cursorState.lastMessageId.getD 0
  let saved := copy.initialization.initializationForward
  let baseCursor := (saved.map ForwardState.baseAfterId).getD cursor
  (forwardStart baseCursor C.pageBudget saved).map (.forward cycles saved baseCursor)

/-- What the job does once the envelopes of a step are captured. -/
def afterCaptures (run : InitRun) (cycles : Nat) (saved : Option ForwardState) (step : ForwardStep) :
    InitWorld :=
  match step.state with
  | some state => w.write run (.forwardProgress state) none
  | none =>
    if step.envelopes = [] then
      w.proceed run .finalizing
    else if saved.isSome then
      w.proceed run (.clearing cycles)
    else
      w.proceed run (.catchUp cycles)

def scanPage (run : InitRun) (pages : Nat) (scan : ActivationScan) : InitWorld :=
  match scan.page (C.fetch w.channel) run.boundary with
  | .error _ => w.ended run
  | .ok (.proven predecessor envelopes) => w.proceed run (.proven predecessor envelopes)
  | .ok (.unproven scan) => w.proceed run (.scanning pages scan)

def forwardPage (run : InitRun) (cycles : Nat) (saved : Option ForwardState) (baseCursor : Int)
    (loop : ForwardLoop) : InitWorld :=
  let seen := if (loop.request baseCursor).isSome then { w with lastSeen := w.channel } else w
  match loop.page (C.fetch w.channel) baseCursor with
  | .error _ => seen.ended run
  | .ok (.done step) => seen.proceed run (.captures cycles saved step step.envelopes)
  | .ok (.more loop) => seen.proceed run (.forward cycles saved baseCursor loop)

def advance (run : InitRun) (now : Datetime) : InitWorld :=
  match run.stage with
  | .scanning 0 scan =>
    -- `_persist_activation_scan`: the envelopes are not kept.
    w.write run (.activationScan run.boundary scan.snapshotToken scan.pageToken
      scan.seenPageTokens scan.lastScanned) none
  | .scanning (pages + 1) scan => w.scanPage C run pages scan
  | .proven predecessor envelopes =>
    w.write run (.activationBoundary run.boundary predecessor)
      (some (.initialCaptures (coordinateOrder envelopes)))
  | .initialCaptures [] => w.proceed run (.catchUp C.pageBudget)
  | .initialCaptures (envelope :: envelopes) =>
    w.capture C run envelope (.initialCaptures envelopes)
  | .catchUp 0 => w.write run .catchUpCycle none
  | .catchUp (cycles + 1) =>
    match beginForward C run.copy cycles with
    | .error _ => w.ended run
    | .ok stage => w.proceed run stage
  | .forward cycles saved baseCursor loop => w.forwardPage C run cycles saved baseCursor loop
  | .captures cycles saved step [] => w.afterCaptures run cycles saved step
  | .captures cycles saved step (envelope :: envelopes) =>
    w.capture C run envelope (.captures cycles saved step envelopes)
  | .clearing cycles => w.write run .clearForward (some (.catchUp cycles))
  | .finalizing => w.write run (.finalize now) none

/-! ### Steps -/

def next : InitEvent → InitWorld
  | .arrive post => { w with channel := post :: w.channel }
  | .activate requestedAt => w.activated requestedAt
  | .pause now =>
    { w with row := { w.row with route := { w.row.route with pausedAt := some now } } }
  | .resume => { w with row := { w.row with route := { w.row.route with pausedAt := none } } }
  | .control globalPause => { w with globalPause := some globalPause }
  | .start id payloadActivation =>
    match w.initializationState C payloadActivation with
    | none => w
    | some (requestedRaw, requestedAt, expectedStatus) =>
      { w with
        runs := w.runs.insert (w.started C id requestedRaw requestedAt expectedStatus) }
  | .advance id now =>
    match w.runs.lookup id with
    | none => w
    | some run => w.advance C run now
  | .stop id => { w with runs := w.runs.erase id }

/-- A post of its own ids and key, dated in the order of ids, and after a requested activation. -/
structure Publishable (post : TelegramEnvelope) : Prop where
  anchor : post.messageIds.max? = some post.anchorMessageId
  positive : ∀ id ∈ post.messageIds, 0 < id
  fresh : ∀ other ∈ w.channel, other.sourceKey ≠ post.sourceKey
    ∧ ∀ id ∈ other.messageIds, id ∉ post.messageIds
  dates : ∀ other ∈ w.channel, ∀ id ∈ post.messageIds.min?, ∀ first ∈ other.messageIds.min?,
    if first < id then other.publishedAt ≤ post.publishedAt
    else post.publishedAt ≤ other.publishedAt
  published : ∀ boundary ∈ w.boundary C, boundary ≤ post.publishedAt

/-- What can happen. The route is activated once. -/
def Enabled : InitEvent → Prop
  | .arrive post => w.Publishable C post
  | .activate _ => w.row.activation = none
  | .start id _ => w.runs.lookup id = none
  | _ => True

instance (post : TelegramEnvelope) : Decidable (w.Publishable C post) :=
  decidable_of_iff
    ((post.messageIds.max? = some post.anchorMessageId ∧ ∀ id ∈ post.messageIds, 0 < id)
      ∧ (∀ other ∈ w.channel, other.sourceKey ≠ post.sourceKey
        ∧ ∀ id ∈ other.messageIds, id ∉ post.messageIds)
      ∧ (∀ other ∈ w.channel, ∀ id ∈ post.messageIds.min?, ∀ first ∈ other.messageIds.min?,
        if first < id then other.publishedAt ≤ post.publishedAt
        else post.publishedAt ≤ other.publishedAt)
      ∧ ∀ boundary ∈ w.boundary C, boundary ≤ post.publishedAt)
    ⟨fun h => ⟨h.1.1, h.1.2, h.2.1, h.2.2.1, h.2.2.2⟩,
      fun h => ⟨⟨h.anchor, h.positive⟩, h.fresh, h.dates, h.published⟩⟩

instance (event : InitEvent) : Decidable (w.Enabled C event) := by
  cases event <;> (dsimp only [Enabled]; infer_instance)

def captured : List TelegramEnvelope :=
  (w.dispatches.filter fun dispatch => dispatch.dispatchKind = .live).map
    AutomationDispatch.envelope

end InitWorld

/-- A route with its channel and the jobs of its initialization, in every order. -/
def initSystem (C : InitConfig) : System InitWorld InitEvent where
  init w := w.row.Created ∧ w.channel = [] ∧ w.dispatches = [] ∧ w.runs.rows = [] ∧ w.lastSeen = []
  step w event w' := w.Enabled C event ∧ w' = w.next C event

end NewsCraft.Telegram.Initialization
