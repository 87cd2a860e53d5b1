import NewsCraft.Lib.Transition
import NewsCraft.Lib.WriteBack
import NewsCraft.Telegram.Capture

/-!
# Route jobs and requests about their route

A job of a route loads the route, commits, talks to the network, and then writes in
transactions that each lock the row and check it once more. The session does not load the
row again: what is checked, and what the written cursor is made of, is its copy. A column is
written where the copy of it changed.

Operators pause, resume, disable and activate the route in between. A held job is put on the
queue once more.
-/

namespace NewsCraft.Telegram.RouteFence

open Lib

/-! ## The row -/

/-- The entries of `cursor_state` that only an initialization has. -/
structure InitializationState where
  activationBoundaryAt : Option Datetime
  activationMessageId : Option Int
  activationSnapshotToken : Option SnapshotToken
  activationPageToken : Option PageToken
  activationSeenPageTokens : List (Option PageToken)
  activationLastScannedId : Option Int
  initializationForward : Option ForwardState
  initializedAt : Option Datetime
  deriving DecidableEq

/-- A row of `automation_routes`, its `cursor_state` in two parts. -/
structure RouteRow where
  route : AutomationRoute
  initialization : InitializationState
  deriving DecidableEq

def RouteRow.activation (row : RouteRow) : Option String :=
  row.route.cursorState.activationRequestedAt

def InitializationState.cleared : InitializationState :=
  ⟨none, none, none, none, [], none, none, none⟩

structure RouteRow.Created (row : RouteRow) : Prop where
  enabled : row.route.enabled = false
  pausedAt : row.route.pausedAt = none
  cursorState : row.route.cursorState = ⟨some "not_initialized", none, none, [], none⟩
  initialization : row.initialization = .cleared

/-! ## What a job writes -/

inductive RouteJobType where
  | initializeRoute
  | poll
  | backfill
  | dryRun
  deriving DecidableEq

/-- The transactions of a job after its network calls. -/
inductive RouteWrite where
  | capture (envelope : TelegramEnvelope) (sourceFingerprint : String) (kind : DispatchKind)
  /-- `_persist_activation_scan`, with a continuation. -/
  | activationScan (boundary : Datetime) (snapshotToken : Option SnapshotToken)
      (pageToken : Option PageToken) (seenPageTokens : List (Option PageToken)) (lastScanned : Int)
  /-- `_persist_activation_boundary`. -/
  | activationBoundary (boundary : Datetime) (predecessor : Option Int)
  /-- `_persist_forward_progress`, with a continuation. -/
  | forwardProgress (state : ForwardState)
  /-- `_clear_initialization_forward`. -/
  | clearForward
  /-- `_enqueue_catch_up_cycle`, only a continuation. -/
  | catchUpCycle
  /-- `_finalize_initialization`. -/
  | finalize (now : Datetime)
  /-- `_finish_poll`. -/
  | finishPoll (now : Datetime)
  deriving DecidableEq

def RouteWrite.of : RouteWrite → RouteJobType → Bool
  | .capture _ _ .live, type => type = .initializeRoute ∨ type = .poll
  | .capture _ _ .sourceEdit, type => type = .poll
  | .capture _ _ .backfill, type => type = .backfill
  | .capture _ _ .dryRun, type => type = .dryRun
  | .forwardProgress _, type => type = .initializeRoute ∨ type = .poll
  | .finishPoll _, type => type = .poll
  | _, type => type = .initializeRoute

/-- The status a write requires, `expected` being the one an initialization began with. -/
def RouteWrite.requiredStatus (type : RouteJobType) (expected : String) : RouteWrite → String
  | .activationScan .. | .activationBoundary .. => expected
  | _ => if type = .initializeRoute then "catching_up" else "ready"

def RouteRow.withCursor (row : RouteRow) (cursorState : CursorState) : RouteRow :=
  { row with route := { row.route with cursorState := cursorState } }

/-- What a write makes of the session's copy of the row. -/
def RouteWrite.apply (row : RouteRow) (type : RouteJobType) : RouteWrite → RouteRow
  | .capture envelope sourceFingerprint kind =>
    row.withCursor (updateCursor row.route.cursorState envelope sourceFingerprint kind)
  | .activationScan boundary snapshotToken pageToken seenPageTokens lastScanned =>
    { row.withCursor { row.route.cursorState with status := some "catching_up" } with
      initialization :=
        { row.initialization with
          activationBoundaryAt := some boundary
          activationSnapshotToken := snapshotToken
          activationPageToken := pageToken
          activationSeenPageTokens := seenPageTokens
          activationLastScannedId := some lastScanned } }
  | .activationBoundary boundary predecessor =>
    { row.withCursor { row.route.cursorState with
          status := some "catching_up"
          lastMessageId := some (predecessor.getD 0) } with
      initialization :=
        { row.initialization with
          activationBoundaryAt := some boundary
          activationMessageId := some (predecessor.getD 0)
          activationSnapshotToken := none
          activationPageToken := none
          activationSeenPageTokens := []
          activationLastScannedId := none } }
  | .forwardProgress state =>
    if type = .initializeRoute then
      { row with
        initialization := { row.initialization with initializationForward := some state } }
    else
      row.withCursor { row.route.cursorState with pollForward := some state }
  | .clearForward =>
    { row with initialization := { row.initialization with initializationForward := none } }
  | .catchUpCycle => row
  | .finalize now =>
    { route :=
        { row.route with
          cursorState := { row.route.cursorState with status := some "ready" }
          nextPollAt := some now }
      initialization :=
        { row.initialization with
          initializationForward := none
          initializedAt := some now } }
  | .finishPoll now =>
    { row with
      route :=
        { row.route with
          cursorState := { row.route.cursorState with pollForward := none }
          lastPolledAt := some now
          nextPollAt := some (now + timedeltaSeconds row.route.pollIntervalSeconds) } }

/-- The flush: `cursor_state` is one column. -/
def RouteRow.flushed (row copy changed : RouteRow) : RouteRow :=
  let cursor :=
    written (copy.route.cursorState, copy.initialization)
      (changed.route.cursorState, changed.initialization)
      (row.route.cursorState, row.initialization)
  { route :=
      { row.route with
        cursorState := cursor.1
        lastPolledAt :=
          written copy.route.lastPolledAt changed.route.lastPolledAt row.route.lastPolledAt
        nextPollAt := written copy.route.nextPollAt changed.route.nextPollAt row.route.nextPollAt }
    initialization := cursor.2 }

/-! ## The world -/

structure RouteSession where
  id : UUID
  type : RouteJobType
  /-- What the session has of the route. -/
  copy : RouteRow
  /-- What it has of the global control, if that was there when it was loaded. -/
  control : Option Bool
  expectedActivation : Option String
  expectedStatus : String

instance : Keyed RouteSession UUID := ⟨RouteSession.id⟩

/-- A write of a job that was committed, with the row as it was then. -/
structure RouteCommit where
  session : UUID
  activation : Option String
  write : RouteWrite
  row : RouteRow

structure RouteWorld where
  row : RouteRow
  globalPause : Option Bool
  sessions : Table RouteSession
  /-- The activations that were committed, the newest first. -/
  activations : List String
  commits : List RouteCommit

inductive RouteEvent where
  | activate (requestedAt : String)
  | pause (now : Datetime)
  | resume
  /-- Nothing in the backend does so yet; the check reads `enabled` all the same. -/
  | disable
  | control (globalPause : Bool)
  | load (id : UUID) (type : RouteJobType) (payloadActivation : Option String)
  | write (id : UUID) (write : RouteWrite)
  /-- The job ends, in whatever way. -/
  | close (id : UUID)

namespace RouteWorld

variable (w : RouteWorld)

/-- `replaying_initialization`. -/
def replaying : Bool :=
  w.row.route.enabled ∧ w.row.route.cursorState.status = some "initializing"
    ∧ w.row.activation.isSome

/-- `activate_route`. -/
def activated (requestedAt : String) : RouteWorld :=
  if w.replaying then
    w
  else
    { w with
      row :=
        { route :=
            { w.row.route with
              enabled := true
              pausedAt := none
              cursorState := ⟨some "initializing", some requestedAt, none, [], none⟩ }
          initialization := .cleared }
      activations := requestedAt :: w.activations }

/-- A job goes on from what it has loaded; otherwise it is held, ends or fails. -/
def Loadable (type : RouteJobType) (payloadActivation : Option String) : Prop :=
  w.globalPause.getD false = false ∧ w.row.route.pausedAt = none ∧ if type = .initializeRoute then
        w.row.activation.isSome ∧ (payloadActivation = none ∨ payloadActivation = w.row.activation)
          ∧ w.row.route.cursorState.status ∈ [some "initializing", some "catching_up"]
      else
        w.row.route.enabled ∧ w.row.route.cursorState.status = some "ready"
          ∧ (type = .dryRun ∨ w.row.route.cursorState.lastMessageId.isSome)

instance (type : RouteJobType) (payloadActivation : Option String) :
    Decidable (w.Loadable type payloadActivation) :=
  inferInstanceAs (Decidable (_ ∧ _ ∧ if type = .initializeRoute then _ else _))

def loaded (id : UUID) (type : RouteJobType) : RouteSession where
  id := id
  type := type
  copy := w.row
  control := w.globalPause
  expectedActivation := w.row.activation
  expectedStatus := w.row.route.cursorState.status.getD ""

/-- What `_lock_route_and_control` has of the global control: a row that is not in the session
yet is loaded. -/
def controlOf (session : RouteSession) : Bool :=
  (session.control.or w.globalPause).getD false

/-- The check under the lock lets the write through. -/
def Passes (session : RouteSession) (write : RouteWrite) : Prop :=
  validateLockedRoute session.copy.route (w.controlOf session)
    (write.requiredStatus session.type session.expectedStatus) session.expectedActivation = .ok none

instance (session : RouteSession) (write : RouteWrite) : Decidable (w.Passes session write) :=
  inferInstanceAs (Decidable (_ = _))

def committed (session : RouteSession) (write : RouteWrite) : RouteWorld :=
  let changed := write.apply session.copy session.type
  { w with
    row := w.row.flushed session.copy changed
    sessions := w.sessions.put { session with copy := changed }
    commits := ⟨session.id, session.expectedActivation, write, w.row⟩ :: w.commits }

def next : RouteEvent → RouteWorld
  | .activate requestedAt => w.activated requestedAt
  | .pause now =>
    { w with row := { w.row with route := { w.row.route with pausedAt := some now } } }
  | .resume => { w with row := { w.row with route := { w.row.route with pausedAt := none } } }
  | .disable => { w with row := { w.row with route := { w.row.route with enabled := false } } }
  | .control globalPause => { w with globalPause := some globalPause }
  | .load id type _ => { w with sessions := w.sessions.insert (w.loaded id type) }
  | .write id write =>
    match w.sessions.lookup id with
    | none => w
    | some session => w.committed session write
  | .close id => { w with sessions := w.sessions.erase id }

/-- What can happen. A write that the check does not let through is no step. -/
def Enabled : RouteEvent → Prop
  | .load id type payloadActivation =>
    w.sessions.lookup id = none ∧ w.Loadable type payloadActivation
  | .write id write =>
    ∃ session ∈ w.sessions.lookup id, write.of session.type = true ∧ w.Passes session write
  | _ => True

instance (event : RouteEvent) : Decidable (w.Enabled event) :=
  match event with
  | .load id type payloadActivation =>
    inferInstanceAs (Decidable (w.sessions.lookup id = none ∧ w.Loadable type payloadActivation))
  | .write id write =>
    inferInstanceAs (Decidable (∃ session ∈ w.sessions.lookup id,
      write.of session.type = true ∧ w.Passes session write))
  | .activate _ => inferInstanceAs (Decidable True)
  | .pause _ => inferInstanceAs (Decidable True)
  | .resume => inferInstanceAs (Decidable True)
  | .disable => inferInstanceAs (Decidable True)
  | .control _ => inferInstanceAs (Decidable True)
  | .close _ => inferInstanceAs (Decidable True)

end RouteWorld

/-- A route with its jobs and the requests about it, in every order. -/
def routeSystem : System RouteWorld RouteEvent where
  init w := w.row.Created ∧ w.sessions.rows = [] ∧ w.activations = [] ∧ w.commits = []
  step w event w' := w.Enabled event ∧ w' = w.next event

end NewsCraft.Telegram.RouteFence
