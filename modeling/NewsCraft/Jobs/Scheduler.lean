import NewsCraft.Core.Isoformat
import NewsCraft.Jobs.System
import NewsCraft.Lib.Loop
import NewsCraft.Lib.WallClock
import NewsCraft.Telegram.Capture

/-!
# The scheduler

A tick is one transaction. It sweeps expired leases, reconciles the schedules of the
sources, and unless automation is paused enqueues a poll for every due route and a job for
every due schedule. Due rows are locked before the loops, rows that are locked are skipped,
and a tick that raises or crashes leaves the tables alone.

An enqueue names its slot in the idempotency key. Continuous subscriptions and source icons
have keys of their own and are not part of the model. Between ticks, workers, operators,
poll handlers and the API write the same tables.
-/

namespace NewsCraft.Jobs

open Lib Telegram

/-! ## Rows -/

/-- `schedule_kind`, a text column. -/
inductive ScheduleKind where
  | daily
  | interval
  | unsupported (text : String)
  deriving DecidableEq

/-- A row of `workflow_schedules`, but for its display name. -/
structure WorkflowSchedule where
  id : UUID
  scheduleKey : String
  sourceId : Option UUID
  jobType : String
  payload : Json
  scheduleKind : ScheduleKind
  timezone : String
  localTime : Option String
  intervalMinutes : Option Int
  nextRunAt : Option Datetime
  enabled : Bool
  pauseSensitive : Bool
  lastEnqueuedAt : Option Datetime
  createdAt : Datetime

/-- What the scheduler reads and writes of a row of `sources`. -/
structure Source where
  id : UUID
  name : String
  active : Bool
  disabledReason : Option String
  fetchIntervalMinutes : Int
  lastFetchAt : Option Datetime
  nextFetchAt : Option Datetime

/-- `source.active and not source.disabled_reason`. -/
def Source.collected (source : Source) : Bool :=
  source.active && (source.disabledReason.getD "" = "")

instance : Keyed WorkflowSchedule UUID := ⟨WorkflowSchedule.id⟩
instance : Keyed Source UUID := ⟨Source.id⟩
instance : Keyed AutomationRoute UUID := ⟨AutomationRoute.id⟩

/-- Ghost record of a poll job and the route its payload names. -/
structure RoutePoll where
  jobId : UUID
  routeId : UUID

structure Slot where
  scheduleId : UUID
  dueTime : Datetime
  nextRunAt : Datetime
  created : Bool
  deriving DecidableEq

/-- The tables of the scheduler, with its ghost history. -/
structure SchedulerDb where
  world : World
  routes : Table AutomationRoute
  schedules : Table WorkflowSchedule
  sources : Table Source
  polls : List RoutePoll
  slots : List Slot

/-! ## Idempotency keys -/

def pollKey (routeId : UUID) (dueTime : Datetime) : String :=
  "telegram-route-poll:" ++ uuidStr routeId ++ ":" ++ isoformat dueTime

def slotKey (scheduleId : UUID) (dueTime : Datetime) : String :=
  "schedule:" ++ uuidStr scheduleId ++ ":" ++ isoformat dueTime

def forwardKey (routeId : UUID) (digest : String) : String :=
  "telegram-route-poll-forward:" ++ uuidStr routeId ++ ":" ++ digest

def deferredKey (routeId rootJobId : UUID) (sequence : Nat) : String :=
  "telegram-route-deferred:" ++ uuidStr routeId ++ ":" ++ uuidStr rootJobId ++ ":"
    ++ String.ofList (Nat.toDigits 10 sequence)

def TickKey (key : String) : Prop :=
  "telegram-route-poll:".toList <+: key.toList ∨ "schedule:".toList <+: key.toList

instance (key : String) : Decidable (TickKey key) := by unfold TickKey; infer_instance

/-! ## Clocks -/

/-- `ZoneInfo(name)`, where the time zone database has the name. -/
abbrev ZoneInfo := String → Option WallClock.Zone

def decimalDigit (c : Char) : Option Int :=
  if '0' ≤ c ∧ c ≤ '9' then some (c.toNat - '0'.toNat : Int) else none

/-- `_parse_local_time`: a time of day in zero-padded `HH:MM`. -/
def parseLocalTime (value : String) : Option Int :=
  match value.toList.map decimalDigit, value.toList[2]? with
  | [some h, some h', none, some m, some m'], some ':' =>
    if h * 10 + h' < 24 ∧ m * 10 + m' < 60 then
      some (((h * 10 + h') * 60 + (m * 10 + m')) * 60 * WallClock.second)
    else
      none
  | _, _ => none

/-- `_next_daily_run`; `none` when it raises. -/
def nextDailyRun (zoneInfo : ZoneInfo) (after : Datetime) (timezone localTime : String) :
    Option Datetime :=
  match zoneInfo timezone, parseLocalTime localTime with
  | some zone, some timeOfDay => some (WallClock.nextDaily zone timeOfDay after)
  | _, _ => none

/-- The settings of a scheduler, which its constructor has read. -/
structure SchedulerService (zoneInfo : ZoneInfo) where
  schedulerTimezone : String
  dailyCollectionTime : String
  timezone_ok : (zoneInfo schedulerTimezone).isSome
  daily_time_ok : (parseLocalTime dailyCollectionTime).isSome

/-- What one tick meets: the instance, the clock, the locked rows, the available routes, new ids. -/
structure Tick (zoneInfo : ZoneInfo) where
  service : SchedulerService zoneInfo
  now : Datetime
  locked : List UUID
  available : List UUID
  newJobId : String → UUID
  newScheduleId : UUID → UUID

structure SchedulerTickResult where
  expiredLeases : Nat
  reconciled : Nat
  enqueued : Nat
  deduplicated : Nat
  invalid : Nat
  paused : Bool

/-! ## Schedules -/

/-- The verdict of `_valid_schedule`. -/
def validSchedule (zoneInfo : ZoneInfo) (schedule : WorkflowSchedule) : Bool :=
  (zoneInfo schedule.timezone).isSome && match schedule.scheduleKind with
      | .daily =>
        match schedule.localTime with
        | none => false
        | some localTime => (parseLocalTime localTime).isSome
      | .interval =>
        match schedule.intervalMinutes with
        | none => false
        | some minutes => decide (0 < minutes)
      | .unsupported _ => false

/-- `_advance_schedule`; `none` when it raises. -/
def advanceSchedule (zoneInfo : ZoneInfo) (schedule : WorkflowSchedule) (dueTime : Datetime) :
    Option Datetime :=
  match schedule.scheduleKind with
  | .daily =>
    nextDailyRun zoneInfo (dueTime + 1) schedule.timezone (schedule.localTime.getD "")
  | .interval | .unsupported _ =>
    schedule.intervalMinutes.map fun minutes => dueTime + timedeltaMinutes minutes

def sourceKey (source : Source) : String := "source:" ++ uuidStr source.id

def collectPayload (source : Source) : Json :=
  .obj [("source_ids", .arr [.str (uuidStr source.id)]), ("platforms", .null)]

section

variable {zoneInfo : ZoneInfo} (service : SchedulerService zoneInfo)

/-- `_new_source_schedule`; `none` when it raises. -/
def newSourceSchedule (source : Source) (now : Datetime) (id : UUID) : Option WorkflowSchedule :=
  let daily := source.fetchIntervalMinutes = 1440
  let schedule : WorkflowSchedule :=
    { id := id
      scheduleKey := sourceKey source
      sourceId := some source.id
      jobType := "ingest.collect"
      payload := collectPayload source
      scheduleKind := if daily then .daily else .interval
      timezone := service.schedulerTimezone
      localTime := if daily then some service.dailyCollectionTime else none
      intervalMinutes := if daily then none else some source.fetchIntervalMinutes
      nextRunAt := none
      enabled := source.collected
      pauseSensitive := true
      lastEnqueuedAt := none
      createdAt := now }
  if !source.collected then
    some schedule
  else if daily then
    (nextDailyRun zoneInfo now service.schedulerTimezone service.dailyCollectionTime).map
      fun nextRun => { schedule with nextRunAt := some nextRun }
  else
    some { schedule with
      nextRunAt := some
        (max now (source.lastFetchAt.getD now) + timedeltaMinutes source.fetchIntervalMinutes) }

/-- `_refresh_source_schedule`; `none` when it raises. -/
def refreshSourceSchedule (schedule : WorkflowSchedule) (source : Source) (now : Datetime) :
    Option WorkflowSchedule :=
  if source.fetchIntervalMinutes = 1440 then
    let configChanged := schedule.scheduleKind ≠ .daily
      ∨ schedule.timezone ≠ service.schedulerTimezone
      ∨ schedule.localTime ≠ some service.dailyCollectionTime
      ∨ schedule.intervalMinutes ≠ none
    let schedule := { schedule with
      enabled := true
      scheduleKind := .daily
      timezone := service.schedulerTimezone
      localTime := some service.dailyCollectionTime
      intervalMinutes := none
      payload := collectPayload source }
    if configChanged ∨ schedule.nextRunAt = none then
      (nextDailyRun zoneInfo now service.schedulerTimezone service.dailyCollectionTime).map
        fun nextRun => { schedule with nextRunAt := some nextRun }
    else
      some schedule
  else
    let configChanged := schedule.scheduleKind ≠ .interval
      ∨ schedule.timezone ≠ service.schedulerTimezone
      ∨ schedule.localTime ≠ none
      ∨ schedule.intervalMinutes ≠ some source.fetchIntervalMinutes
    let schedule := { schedule with
      enabled := true
      scheduleKind := .interval
      timezone := service.schedulerTimezone
      localTime := none
      intervalMinutes := some source.fetchIntervalMinutes
      payload := collectPayload source }
    let delay := timedeltaMinutes source.fetchIntervalMinutes
    match schedule.nextRunAt, source.lastFetchAt with
    | some nextRun, some lastFetch =>
      if configChanged then
        some { schedule with nextRunAt := some (max now lastFetch + delay) }
      else
        some { schedule with nextRunAt := some (max nextRun (lastFetch + delay)) }
    | some _, none =>
      if configChanged then
        some { schedule with nextRunAt := some (now + delay) }
      else
        some schedule
    | none, lastFetch =>
      some { schedule with nextRunAt := some (max now (lastFetch.getD now) + delay) }

end

namespace SchedulerDb

variable {zoneInfo : ZoneInfo} (R : Redaction) (db : SchedulerDb)

/-! ## Enqueueing -/

/-- `enqueue_job` in a session without the API capability gate; `none` when it raises. -/
def enqueueJob (args : JobsDb.EnqueueJob) (id : UUID) (now : Datetime) :
    Option ((WorkflowJob × Bool) × SchedulerDb) :=
  match db.world.db.enqueueJob R args true id now with
  | .error _ => none
  | .ok (result, jobs) => some (result, { db with world := { db.world with db := jobs } })

/-- Enqueue a poll of a route, and remember which route it is of. -/
def enqueuePoll (routeId : UUID) (args : JobsDb.EnqueueJob) (id : UUID) (now : Datetime) :
    Option (Bool × SchedulerDb) :=
  match db.enqueueJob R args id now with
  | none => none
  | some ((job, created), db) =>
    if created then
      some (true, { db with polls := ⟨job.id, routeId⟩ :: db.polls })
    else
      some (false, db)

/-! ## The stages of a tick -/

variable (t : Tick zoneInfo)

/-- The expired jobs the sweep of a tick gets the lock of. -/
def sweepCandidates : List UUID :=
  (db.world.db.expiredCandidates t.now).filter fun id => !t.locked.contains id

/-- The tables after `requeue_expired_leases`. -/
def swept : SchedulerDb :=
  { db with world := db.world.step R (.requeue (db.sweepCandidates t) t.now) }

/-- `_get_schedule`. -/
def getSchedule (scheduleKey : String) : Option WorkflowSchedule :=
  db.schedules.rows.find? fun schedule => schedule.scheduleKey = scheduleKey

/-- Write a schedule back, and the next fetch of its source. -/
def writeSchedule (schedule : WorkflowSchedule) (source : Source) (nextFetchAt : Option Datetime) :
    SchedulerDb :=
  { db with
    schedules := db.schedules.put schedule
    sources := db.sources.put { source with nextFetchAt := nextFetchAt } }

/-- One round of `_reconcile_sources`, counting invalid schedules. -/
def reconcileSource (acc : SchedulerDb × Nat) (source : Source) : Option (SchedulerDb × Nat) :=
  let (db, invalid) := acc
  match db.getSchedule (sourceKey source) with
  | none =>
    match newSourceSchedule t.service source t.now (t.newScheduleId source.id) with
    | none => none
    | some schedule =>
      if (db.schedules.lookup schedule.id).isSome then
        none
      else
        some ({ db with
          schedules := db.schedules.insert schedule
          sources := db.sources.put { source with nextFetchAt := schedule.nextRunAt } },
          invalid)
  | some schedule =>
    if !source.collected then
      some (db.writeSchedule { schedule with enabled := false } source none, invalid)
    else if !validSchedule zoneInfo schedule then
      some (db.writeSchedule { schedule with enabled := false } source none, invalid + 1)
    else
      match refreshSourceSchedule t.service schedule source t.now with
      | none => none
      | some schedule => some (db.writeSchedule schedule source schedule.nextRunAt, invalid)

/-- `_list_sources`. -/
def listSources : List Source := db.sources.rows.insertionSort fun a b => a.name ≤ b.name

/-- `_reconcile_sources`. -/
def reconcileSources : Option (SchedulerDb × Nat) :=
  db.listSources.foldlM (reconcileSource t) (db, 0)

/-- `_lock_due_routes`. -/
def lockDueRoutes : List AutomationRoute :=
  (db.routes.rows.filter fun route =>
      route.enabled && route.pausedAt.isNone && (match route.nextPollAt with
          | none => false
          | some due => decide (due ≤ t.now))
        && route.cursorState.status = some "ready" && !t.locked.contains route.id).insertionSort
    fun a b => a.nextPollAt.getD 0 ≤ b.nextPollAt.getD 0

/-- The counters `enqueued` and `deduplicated`. -/
def count (counts : Nat × Nat) (created : Bool) : Nat × Nat :=
  if created then (counts.1 + 1, counts.2) else (counts.1, counts.2 + 1)

def pollArgs (routeId : UUID) (dueTime : Datetime) : JobsDb.EnqueueJob where
  jobType := "telegram.route.poll"
  payload := .obj [("route_id", .str (uuidStr routeId))]
  idempotencyKey := pollKey routeId dueTime
  origin := .scheduler
  scheduledFor := some dueTime
  priority := 10
  pauseSensitive := true

def enqueueRoute (acc : SchedulerDb × Nat × Nat) (route : AutomationRoute) :
    Option (SchedulerDb × Nat × Nat) :=
  if !t.available.contains route.id then
    some acc
  else
    match route.nextPollAt with
    | none => some acc
    | some dueTime =>
      match acc.1.enqueuePoll R route.id (pollArgs route.id dueTime)
          (t.newJobId (pollKey route.id dueTime)) t.now with
      | none => none
      | some (created, db) => some (db, count acc.2 created)

/-- `_lock_due_schedules`. -/
def lockDueSchedules : List WorkflowSchedule :=
  (db.schedules.rows.filter fun schedule =>
      schedule.enabled && (match schedule.nextRunAt with
          | none => false
          | some due => decide (due ≤ t.now))
        && !t.locked.contains schedule.id).insertionSort
    fun a b => a.nextRunAt.getD 0 < b.nextRunAt.getD 0
      ∨ a.nextRunAt.getD 0 = b.nextRunAt.getD 0 ∧ a.createdAt ≤ b.createdAt

def scheduleArgs (schedule : WorkflowSchedule) (dueTime : Datetime) : JobsDb.EnqueueJob where
  jobType := schedule.jobType
  payload := schedule.payload
  idempotencyKey := slotKey schedule.id dueTime
  origin := .scheduler
  scheduledFor := some dueTime
  pauseSensitive := schedule.pauseSensitive

/-- A schedule whose slot has been enqueued, its source kept in step. -/
def advanceTo (schedule : WorkflowSchedule) (dueTime nextRunAt : Datetime) (created : Bool) :
    SchedulerDb :=
  { db with
    schedules := db.schedules.put
      { schedule with lastEnqueuedAt := some dueTime, nextRunAt := some nextRunAt }
    sources :=
      match schedule.sourceId.bind db.sources.lookup with
      | none => db.sources
      | some source => db.sources.put { source with nextFetchAt := some nextRunAt }
    slots := ⟨schedule.id, dueTime, nextRunAt, created⟩ :: db.slots }

/-- One round of the loop over due schedules, counting invalid schedules too. -/
def enqueueSchedule (acc : SchedulerDb × (Nat × Nat) × Nat) (schedule : WorkflowSchedule) :
    Option (SchedulerDb × (Nat × Nat) × Nat) :=
  let (db, counts, invalid) := acc
  if !validSchedule zoneInfo schedule then
    some ({ db with schedules := db.schedules.put { schedule with enabled := false } }, counts,
      invalid + 1)
  else
    match schedule.nextRunAt with
    | none => some acc
    | some dueTime =>
      match db.enqueueJob R (scheduleArgs schedule dueTime)
          (t.newJobId (slotKey schedule.id dueTime)) t.now with
      | none => none
      | some ((_, created), db) =>
        match advanceSchedule zoneInfo schedule dueTime with
        | none => none
        | some nextRunAt =>
          some (db.advanceTo schedule dueTime nextRunAt created, count counts created, invalid)

def prepared : Option (SchedulerDb × Nat) := (db.swept R t).reconcileSources t

/-- `tick`; `none` when it raises, which rolls it back. -/
def tick : Option (SchedulerTickResult × SchedulerDb) := do
  let expired := (db.world.db.requeueExpiredLeases (db.sweepCandidates t) t.now).1
  let reconciled := db.sources.rows.length
  let (db, invalid) ← db.prepared R t
  if db.world.db.globalPause then
    some (⟨expired, reconciled, 0, 0, invalid, true⟩, db)
  else
    let (db, counts) ← (db.lockDueRoutes t).foldlM (enqueueRoute R t) (db, (0, 0))
    let (db, counts, invalid) ←
      (db.lockDueSchedules t).foldlM (enqueueSchedule R t) (db, counts, invalid)
    some (⟨expired, reconciled, counts.1, counts.2, invalid, false⟩, db)

/-! ## What happens between ticks -/

/-- `_finish_poll`, where `_lock_validate_or_defer` lets it through. -/
def finishPoll (routeId : UUID) (expectedActivation : Option String) (now : Datetime) :
    SchedulerDb :=
  match db.routes.lookup routeId with
  | none => db
  | some route =>
    match validateLockedRoute route db.world.db.globalPause "ready" expectedActivation with
    | .error _ => db
    | .ok (some _) => db
    | .ok none =>
      { db with routes := db.routes.put { route with
          cursorState := { route.cursorState with pollForward := none }
          lastPolledAt := some now
          nextPollAt := some (now + timedeltaSeconds route.pollIntervalSeconds) } }

/-- `_finalize_initialization`, where `_lock_validate_or_defer` lets it through. -/
def finalizeInitialization (routeId : UUID) (requestedRaw : String) (now : Datetime) :
    SchedulerDb :=
  match db.routes.lookup routeId with
  | none => db
  | some route =>
    match validateLockedRoute route db.world.db.globalPause "catching_up" (some requestedRaw) with
    | .error _ => db
    | .ok (some _) => db
    | .ok none =>
      { db with routes := db.routes.put { route with
          cursorState := { route.cursorState with status := some "ready" }
          nextPollAt := some now } }

/-- A poll enqueues the poll that goes on from it: `_enqueue_forward_continuation` and
`_defer_route_job`. -/
def enqueueLater (routeId : UUID) (payload : Json) (key : String) (scheduledFor : Option Datetime)
    (id : UUID) (now : Datetime) : SchedulerDb :=
  match db.enqueuePoll R routeId
      { jobType := "telegram.route.poll", payload := payload, idempotencyKey := key,
        origin := .automation, scheduledFor := scheduledFor } id now with
  | none => db
  | some (_, db) => db

/-- The fields of a route the API edits: activation, pause and resume among them. -/
structure RouteSettings where
  enabled : Bool
  pausedAt : Option Datetime
  pollIntervalSeconds : Int
  cursorState : CursorState

def editRoute (routeId : UUID) (edit : RouteSettings) : SchedulerDb :=
  match db.routes.lookup routeId with
  | none => db
  | some route =>
    { db with routes := db.routes.put { route with
        enabled := edit.enabled
        pausedAt := edit.pausedAt
        pollIntervalSeconds := edit.pollIntervalSeconds
        cursorState := edit.cursorState } }

/-- The configuration of a schedule node, validated by the registry. -/
structure ScheduleConfig where
  daily : Bool
  timezone : String
  localTime : Option String
  intervalMinutes : Option Int

/-- `_next_schedule_run`; `none` when it raises. -/
def nextScheduleRun (zoneInfo : ZoneInfo) (config : ScheduleConfig) (now : Datetime) :
    Option Datetime :=
  if !config.daily then
    some (now + timedeltaMinutes (config.intervalMinutes.getD 0))
  else
    nextDailyRun zoneInfo now config.timezone (config.localTime.getD "None")

/-- `materialize_runtime_projection` of an automation that runs on a schedule. -/
def materializeSchedule (zoneInfo : ZoneInfo) (automationId versionId : UUID)
    (config : ScheduleConfig) (id : UUID) (now : Datetime) : SchedulerDb :=
  match nextScheduleRun zoneInfo config now with
  | none => db
  | some nextRun =>
    let key := "automation:" ++ uuidStr automationId
    let write (schedule : WorkflowSchedule) : WorkflowSchedule :=
      { schedule with
        jobType := "automation.run.start"
        payload := .obj [("automation_id", .str (uuidStr automationId)),
            ("automation_version_id", .str (uuidStr versionId))]
        scheduleKind := if config.daily then .daily else .interval
        timezone := config.timezone
        localTime := config.localTime
        intervalMinutes := config.intervalMinutes
        nextRunAt := some nextRun
        enabled := true
        pauseSensitive := true }
    match db.getSchedule key with
    | some schedule => { db with schedules := db.schedules.put (write schedule) }
    | none =>
      { db with schedules := db.schedules.insert (write
          { id := id, scheduleKey := key, sourceId := none, jobType := "", payload := .null,
            scheduleKind := .daily, timezone := "", localTime := none, intervalMinutes := none,
            nextRunAt := none, enabled := true, pauseSensitive := true,
            lastEnqueuedAt := none, createdAt := now }) }

/-- An automation's schedule is paused with it, resumed or archived. -/
def setScheduleEnabled (scheduleId : UUID) (enabled : Bool) : SchedulerDb :=
  match db.schedules.lookup scheduleId with
  | none => db
  | some schedule => { db with schedules := db.schedules.put { schedule with enabled := enabled } }

end SchedulerDb

/-! ## The system -/

inductive SchedulerEvent (zoneInfo : ZoneInfo) where
  | tick (t : Tick zoneInfo)
  /-- A tick that crashed at any point before its commit. -/
  | crashedTick (t : Tick zoneInfo)
  | job (op : Op)
  | finishPoll (routeId : UUID) (expectedActivation : Option String) (now : Datetime)
  | finalizeInitialization (routeId : UUID) (requestedRaw : String) (now : Datetime)
  | continuePoll (routeId : UUID) (digest : String) (payload : Json) (id : UUID) (now : Datetime)
  | deferPoll (routeId rootJobId : UUID) (sequence : Nat) (payload : Json)
      (scheduledFor : Datetime) (id : UUID) (now : Datetime)
  | createRoute (route : AutomationRoute)
  | editRoute (routeId : UUID) (edit : SchedulerDb.RouteSettings)
  | editSources (sources : Table Source)
  | materializeSchedule (automationId versionId : UUID) (config : SchedulerDb.ScheduleConfig)
      (id : UUID) (now : Datetime)
  | setScheduleEnabled (scheduleId : UUID) (enabled : Bool)

/-- The callers of the repository build keys of their own, and a new route has not
been polled. -/
def SchedulerEvent.Allowed {zoneInfo : ZoneInfo} : SchedulerEvent zoneInfo → Prop
  | .job (.enqueue args _ _ _) => ¬ TickKey args.idempotencyKey
  | .createRoute route => route.nextPollAt = none
  | _ => True

namespace SchedulerDb

variable {zoneInfo : ZoneInfo} (R : Redaction)

def next (db : SchedulerDb) : SchedulerEvent zoneInfo → SchedulerDb
  | .tick t =>
    match db.tick R t with
    | none => db
    | some (_, db') => db'
  | .crashedTick _ => db
  | .job op => { db with world := db.world.step R op }
  | .finishPoll routeId expectedActivation now => db.finishPoll routeId expectedActivation now
  | .finalizeInitialization routeId requestedRaw now =>
    db.finalizeInitialization routeId requestedRaw now
  | .continuePoll routeId digest payload id now =>
    db.enqueueLater R routeId payload (forwardKey routeId digest) none id now
  | .deferPoll routeId rootJobId sequence payload scheduledFor id now =>
    db.enqueueLater R routeId payload (deferredKey routeId rootJobId sequence)
      (some scheduledFor) id now
  | .createRoute route => { db with routes := db.routes.insert route }
  | .editRoute routeId edit => db.editRoute routeId edit
  | .editSources sources => { db with sources := sources }
  | .materializeSchedule automationId versionId config id now =>
    db.materializeSchedule zoneInfo automationId versionId config id now
  | .setScheduleEnabled scheduleId enabled => db.setScheduleEnabled scheduleId enabled

def empty : SchedulerDb := ⟨World.empty, Table.empty, Table.empty, Table.empty, [], []⟩

end SchedulerDb

/-- Ticks of any number of schedulers, and everything that happens between them. -/
def schedulerSystem (R : Redaction) (zoneInfo : ZoneInfo) :
    System SchedulerDb (SchedulerEvent zoneInfo) where
  init db := db = SchedulerDb.empty
  step db e db' := e.Allowed ∧ db' = db.next R e

end NewsCraft.Jobs
