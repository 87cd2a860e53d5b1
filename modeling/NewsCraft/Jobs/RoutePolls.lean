import NewsCraft.Jobs.SchedulerStages

/-!
# Polls of a due route

A tick that observes a due route enqueues its poll under a key made from the route's
`next_poll_at`. When the key is taken it adds nothing, so the route is polled only if the
job that took the key, or one that goes on from it, is still queued or running.

`next_poll_at` moves when a poll or an initialization completes. A poll that ends otherwise
leaves the slot with its key taken and no job; `Strands` names the steps that do this.
-/

namespace NewsCraft.Jobs

open Lib Telegram List Table

variable {zoneInfo : ZoneInfo} {R : Redaction}

namespace SchedulerDb

/-! ## Steps that leave a route without a poll -/

/-- The slot the route is due at has had its poll enqueued. -/
def SlotUsed (db : SchedulerDb) (route : AutomationRoute) : Prop :=
  ∃ dueTime, route.nextPollAt = some dueTime ∧ pollKey route.id dueTime ∈ db.world.db.keys

/-- Every live poll of a route whose slot is used is among the jobs that end. -/
def EndsLastPoll (db : SchedulerDb) (ends : UUID → Prop) : Prop :=
  ∃ route ∈ db.routes.rows, db.SlotUsed route ∧ db.LivePoll route.id
    ∧ ∀ poll ∈ db.polls, poll.routeId = route.id → db.world.db.Live poll.jobId → ends poll.jobId

/-- The route would become due at a slot whose poll was enqueued before, with no poll
of it live. -/
def MovesToUsedSlot (db : SchedulerDb) (routeId : UUID) (status : String)
    (activation : Option String) (dueTime : AutomationRoute → Datetime) : Prop :=
  ∃ route, db.routes.lookup routeId = some route
    ∧ validateLockedRoute route db.world.db.globalPause status activation = .ok none
    ∧ pollKey routeId (dueTime route) ∈ db.world.db.keys ∧ ¬ db.LivePoll routeId

/-- The step leaves some route with its slot used and without a live poll. -/
def Strands (R : Redaction) (db : SchedulerDb) : SchedulerEvent zoneInfo → Prop
  | .tick t => db.EndsLastPoll
      (db.world.db.Ends R (.requeue (db.sweepCandidates t) t.now))
  | .job op => db.EndsLastPoll (db.world.db.Ends R op)
  | .finishPoll routeId expectedActivation now =>
    db.MovesToUsedSlot routeId "ready" expectedActivation
      fun route => now + timedeltaSeconds route.pollIntervalSeconds
  | .finalizeInitialization routeId requestedRaw now =>
    db.MovesToUsedSlot routeId "catching_up" (some requestedRaw) fun _ => now
  | _ => False

/-! ## The invariant -/

def PollsLive (db : SchedulerDb) : Prop :=
  ∀ route ∈ db.routes.rows, db.SlotUsed route → db.LivePoll route.id

variable {db db' : SchedulerDb}

theorem PollsLive.of_keys (h : db.PollsLive) (hroutes : db'.routes = db.routes)
    (hkeys : ∀ route ∈ db.routes.rows, ∀ dueTime, pollKey route.id dueTime ∈ db'.world.db.keys →
      pollKey route.id dueTime ∈ db.world.db.keys ∨ db'.LivePoll route.id)
    (hlive : ∀ route ∈ db.routes.rows, db.SlotUsed route → db.LivePoll route.id →
      db'.LivePoll route.id) : db'.PollsLive := by
  intro route hroute hused
  rw [hroutes] at hroute
  obtain ⟨dueTime, hnext, hkey⟩ := hused
  rcases hkeys route hroute dueTime hkey with hold | hnew
  · have hslot : db.SlotUsed route := ⟨dueTime, hnext, hold⟩
    exact hlive route hroute hslot (h route hroute hslot)
  · exact hnew

theorem PollsLive.job (h : db.PollsLive) {op : Op}
    (hkeys : ∀ id dueTime, pollKey id dueTime ∈ (db.world.step R op).db.keys →
      pollKey id dueTime ∈ db.world.db.keys)
    (hends : ¬ db.EndsLastPoll (db.world.db.Ends R op)) :
    ({ db with world := db.world.step R op } : SchedulerDb).PollsLive := by
  refine h.of_keys rfl (fun route _ dueTime hkey => .inl (hkeys route.id dueTime hkey)) ?_
  intro route hroute hused hlive
  by_contra hno
  refine hends ⟨route, hroute, hused, hlive, ?_⟩
  intro poll hpoll hof hjob
  by_contra hstays
  exact hno ⟨poll, hpoll, hof, World.step_live hjob hstays⟩

variable {routeId id : UUID} {now : Datetime}

theorem PollsLive.enqueuePoll (h : db.PollsLive) {args : JobsDb.EnqueueJob} {created : Bool}
    (he : db.enqueuePoll R routeId args id now = some (created, db'))
    (hown : ∀ other dueTime, pollKey other dueTime = args.idempotencyKey → other = routeId) :
    db'.PollsLive := by
  obtain ⟨hrows, hkeys, hlive⟩ := enqueuePoll_spec he
  refine h.of_keys hrows.routes ?_ (fun route _ _ hpoll => hlive route.id hpoll)
  intro route _ dueTime hkey
  rcases hkeys with ⟨-, hsame⟩ | ⟨-, hcons, hpoll⟩
  · exact .inl (hsame ▸ hkey)
  rw [hcons, mem_cons] at hkey
  rcases hkey with hthis | hold
  · rw [hown route.id dueTime hthis]
    exact .inr hpoll
  · exact .inl hold

/-! ## The stages of a tick -/

variable {t : Tick zoneInfo}

theorem PollsLive.swept (h : db.PollsLive)
    (hends : ¬ db.EndsLastPoll (db.world.db.Ends R (.requeue (db.sweepCandidates t) t.now))) :
    (db.swept R t).PollsLive := by
  refine h.job (R := R) ?_ hends
  intro id dueTime hkey
  have hsame : (db.swept R t).world.db.keys = db.world.db.keys := swept_keys
  exact hsame ▸ hkey

theorem livePoll_congr (hsame : SameQueue db db') : db'.LivePoll routeId ↔ db.LivePoll routeId := by
  rw [LivePoll, LivePoll, hsame.polls, hsame.world]

theorem PollsLive.congr (h : db.PollsLive) (hsame : SameQueue db db') : db'.PollsLive := by
  refine h.of_keys hsame.routes (fun route _ dueTime hkey => .inl ?_) ?_
  · rw [hsame.world] at hkey
    exact hkey
  · intro route _ _ hlive
    exact (livePoll_congr hsame).mpr hlive

variable {counts counts' : Nat × Nat} {route : AutomationRoute}

theorem PollsLive.enqueueRoute (h : db.PollsLive)
    (hround : enqueueRoute R t (db, counts) route = some (db', counts')) :
    db'.PollsLive ∧ db'.routes = db.routes ∧ ∀ other, db.LivePoll other → db'.LivePoll other := by
  rcases enqueueRoute_cases hround with ⟨rfl, -⟩ | ⟨dueTime, created, -, -, he⟩
  · exact ⟨h, rfl, fun _ hlive => hlive⟩
  obtain ⟨hrows, -, hlive⟩ := enqueuePoll_spec he
  refine ⟨h.enqueuePoll he ?_, hrows.routes, hlive⟩
  intro other due heq
  exact (pollKey_injective heq).1

/-- The round of an available route leaves it a live poll: a new one, or the one that
keeps its slot used. -/
theorem livePoll_enqueueRoute (h : db.PollsLive) (hroute : route ∈ db.routes.rows)
    (havail : route.id ∈ t.available) (hdue : route.nextPollAt ≠ none)
    (hround : SchedulerDb.enqueueRoute R t (db, counts) route = some (db', counts')) :
    db'.LivePoll route.id := by
  rcases enqueueRoute_cases hround with ⟨-, hskip⟩ | ⟨dueTime, created, -, hnext, he⟩
  · rcases hskip with hno | hnone
    · exact absurd havail hno
    · exact absurd hnone hdue
  · obtain ⟨-, hkeys, hlive⟩ := enqueuePoll_spec he
    rcases hkeys with ⟨hused, -⟩ | ⟨-, -, hpoll⟩
    · exact hlive _ (h route hroute ⟨dueTime, hnext, hused⟩)
    · exact hpoll

theorem PollsLive.enqueueSchedule {invalid invalid' : Nat} {schedule : WorkflowSchedule}
    (h : db.PollsLive)
    (hround : enqueueSchedule R t (db, counts, invalid) schedule = some (db', counts', invalid')) :
    db'.PollsLive ∧ ∀ other, db.LivePoll other → db'.LivePoll other := by
  rcases enqueueSchedule_cases hround with ⟨-, rfl⟩ | ⟨rfl, -⟩
    | ⟨dueTime, nextRunAt, job, created, queued, -, -, he, -, rfl⟩
  · exact ⟨h.congr ⟨rfl, rfl, rfl, rfl⟩, fun other hlive => hlive⟩
  · exact ⟨h, fun _ hlive => hlive⟩
  obtain ⟨hrows, hpolls, hkeys, hlive⟩ := enqueueJob_spec he
  have hkeep : ∀ other, db.LivePoll other →
      (queued.advanceTo schedule dueTime nextRunAt created).LivePoll other := by
    rintro other ⟨poll, hpoll, hof, hjob⟩
    exact ⟨poll, hpolls ▸ hpoll, hof, hlive _ hjob⟩
  refine ⟨h.of_keys hrows.routes ?_ (fun route _ _ hpoll => hkeep route.id hpoll), hkeep⟩
  intro route _ due hkey
  have hkey : pollKey route.id due ∈ queued.world.db.keys := hkey
  rcases hkeys with ⟨-, -, hsame⟩ | ⟨-, -, hcons, -⟩
  · exact .inl (hsame ▸ hkey)
  rw [hcons, mem_cons] at hkey
  rcases hkey with hslot | hold
  · exact absurd hslot pollKey_ne_slotKey
  · exact .inl hold

theorem lockDueRoutes_mem (h : route ∈ db.lockDueRoutes t) :
    route ∈ db.routes.rows ∧ route.nextPollAt ≠ none := by
  unfold lockDueRoutes at h
  rw [mem_insertionSort, mem_filter] at h
  refine ⟨h.1, fun hnone => ?_⟩
  simp [hnone] at h

/-- The sweep and the reconciliation leave the routes alone, so the loop sees those the
tick started with. -/
theorem lockDueRoutes_prepared {invalid : Nat} (h : db.prepared R t = some (db', invalid)) :
    db'.lockDueRoutes t = db.lockDueRoutes t := by
  have hroutes : db'.routes = db.routes := (prepared_sameQueue h).routes
  rw [lockDueRoutes, lockDueRoutes, hroutes]

theorem PollsLive.tick {result : SchedulerTickResult} (h : db.PollsLive)
    (hends : ¬ db.EndsLastPoll (db.world.db.Ends R (.requeue (db.sweepCandidates t) t.now)))
    (htick : db.tick R t = some (result, db')) :
    db'.PollsLive ∧ (result.paused = false → ∀ route ∈ db.lockDueRoutes t,
      route.id ∈ t.available → db'.LivePoll route.id) := by
  obtain ⟨prep, invalid, hprep, hrest⟩ := tick_cases htick
  have hstart : prep.PollsLive := (h.swept hends).congr (prepared_sameQueue hprep)
  rcases hrest with ⟨hpaused, rfl⟩ | ⟨-, polled, counts, counts', invalid', hroutes, hschedules⟩
  · refine ⟨hstart, fun hno => ?_⟩
    rw [hpaused] at hno
    cases hno
  · -- the loop over routes, one round a route
    have hround : ∀ (acc : SchedulerDb × Nat × Nat) route acc', route ∈ prep.lockDueRoutes t →
        (acc.1.PollsLive ∧ acc.1.routes = prep.routes) →
        SchedulerDb.enqueueRoute R t acc route = some acc' →
        acc'.1.PollsLive ∧ acc'.1.routes = prep.routes := by
      rintro ⟨b, n⟩ route ⟨b', n'⟩ - ⟨hb, hsame⟩ hstep
      obtain ⟨hkeep, hsame', -⟩ := hb.enqueueRoute hstep
      exact ⟨hkeep, hsame'.trans hsame⟩
    have hpolled := foldlM_preserves hround ⟨hstart, rfl⟩ hroutes
    have heach : ∀ route ∈ prep.lockDueRoutes t, route.id ∈ t.available →
        polled.LivePoll route.id := by
      refine foldlM_each (Q := fun route (acc : SchedulerDb × Nat × Nat) =>
        route.id ∈ t.available → acc.1.LivePoll route.id) hround ?_ ?_ ⟨hstart, rfl⟩ hroutes
      · rintro ⟨b, n⟩ route ⟨b', n'⟩ hmem ⟨hb, hsame⟩ hstep havail
        obtain ⟨hrow, hdue⟩ := lockDueRoutes_mem hmem
        have hrow' : route ∈ b.routes.rows := by
          rw [hsame]
          exact hrow
        exact livePoll_enqueueRoute hb hrow' havail hdue hstep
      · rintro ⟨b, n⟩ other ⟨b', n'⟩ route - ⟨hb, -⟩ hlive hstep havail
        exact (hb.enqueueRoute hstep).2.2 _ (hlive havail)
    -- the loop over schedules keeps all of it
    have hfinal : db'.PollsLive ∧ ∀ other, polled.LivePoll other → db'.LivePoll other := by
      refine foldlM_preserves (P := fun acc : SchedulerDb × (Nat × Nat) × Nat =>
        acc.1.PollsLive ∧ ∀ other, polled.LivePoll other → acc.1.LivePoll other) ?_
        ⟨hpolled.1, fun _ hlive => hlive⟩ hschedules
      rintro ⟨b, n, m⟩ schedule ⟨b', n', m'⟩ - ⟨hb, hlive⟩ hstep
      obtain ⟨hkeep, hmore⟩ := hb.enqueueSchedule hstep
      exact ⟨hkeep, fun other hother => hmore other (hlive other hother)⟩
    refine ⟨hfinal.1, fun _ route hmem havail => hfinal.2 _ (heach route ?_ havail)⟩
    rw [lockDueRoutes_prepared hprep]
    exact hmem

/-! ## Steps between ticks -/

/-- Writing a route back keeps the invariant when the row written has a live poll for
the slot it moves to. -/
theorem PollsLive.putRoute (h : db.PollsLive) (hused : db.SlotUsed route → db.LivePoll route.id) :
    ({ db with routes := db.routes.put route } : SchedulerDb).PollsLive := by
  intro other hother hslot
  have hslot : db.SlotUsed other := hslot
  rcases mem_put hother with ⟨rfl, -⟩ | ⟨hold, -⟩
  · exact hused hslot
  · exact h other hold hslot

theorem PollsLive.finishPoll (h : db.PollsLive) {expectedActivation : Option String}
    (hmoves : ¬ db.MovesToUsedSlot routeId "ready" expectedActivation fun route => now +
      timedeltaSeconds route.pollIntervalSeconds) :
    (db.finishPoll routeId expectedActivation now).PollsLive := by
  unfold SchedulerDb.finishPoll
  cases hl : db.routes.lookup routeId with
  | none => exact h
  | some route =>
    have hid : route.id = routeId := key_of_lookup hl
    simp only
    cases hv : validateLockedRoute route db.world.db.globalPause "ready" expectedActivation with
    | error _ => exact h
    | ok reason =>
      cases reason with
      | some _ => exact h
      | none =>
        refine h.putRoute ?_
        rintro ⟨dueTime, hnext, hkey⟩
        cases hnext
        have hkey : pollKey route.id (now + timedeltaSeconds route.pollIntervalSeconds)
            ∈ db.world.db.keys := hkey
        by_contra hno
        exact hmoves ⟨route, hl, hv, hid ▸ hkey, hid ▸ hno⟩

theorem PollsLive.finalizeInitialization (h : db.PollsLive) {requestedRaw : String}
    (hmoves : ¬ db.MovesToUsedSlot routeId "catching_up" (some requestedRaw) fun _ => now) :
    (db.finalizeInitialization routeId requestedRaw now).PollsLive := by
  unfold SchedulerDb.finalizeInitialization
  cases hl : db.routes.lookup routeId with
  | none => exact h
  | some route =>
    have hid : route.id = routeId := key_of_lookup hl
    simp only
    cases hv : validateLockedRoute route db.world.db.globalPause "catching_up"
        (some requestedRaw) with
    | error _ => exact h
    | ok reason =>
      cases reason with
      | some _ => exact h
      | none =>
        refine h.putRoute ?_
        rintro ⟨dueTime, hnext, hkey⟩
        cases hnext
        have hkey : pollKey route.id now ∈ db.world.db.keys := hkey
        by_contra hno
        exact hmoves ⟨route, hl, hv, hid ▸ hkey, hid ▸ hno⟩

theorem PollsLive.enqueueLater (h : db.PollsLive) {payload : Json} {key : String}
    {scheduledFor : Option Datetime} (hkey : ¬ TickKey key) :
    (db.enqueueLater R routeId payload key scheduledFor id now).PollsLive := by
  unfold SchedulerDb.enqueueLater
  split
  · exact h
  rename_i created db' he
  refine h.enqueuePoll he ?_
  intro other dueTime heq
  exact absurd heq.symm (ne_pollKey hkey other dueTime)

theorem PollsLive.editRoute (h : db.PollsLive) {edit : RouteSettings} :
    (db.editRoute routeId edit).PollsLive := by
  unfold SchedulerDb.editRoute
  cases hl : db.routes.lookup routeId with
  | none => exact h
  | some route =>
    refine h.putRoute ?_
    intro hslot
    have hslot : db.SlotUsed route := hslot
    exact h route (mem_of_lookup hl) hslot

theorem PollsLive.createRoute (h : db.PollsLive) (hnew : route.nextPollAt = none) :
    ({ db with routes := db.routes.insert route } : SchedulerDb).PollsLive := by
  intro other hother hslot
  have hslot : db.SlotUsed other := hslot
  rcases mem_insert hother with rfl | hold
  · obtain ⟨dueTime, hnext, -⟩ := hslot
    rw [hnew] at hnext
    cases hnext
  · exact h other hold hslot

theorem materializeSchedule_sameQueue {automationId versionId : UUID} {config : ScheduleConfig} :
    SameQueue db (db.materializeSchedule zoneInfo automationId versionId config id now) := by
  unfold SchedulerDb.materializeSchedule
  cases nextScheduleRun zoneInfo config now with
  | none => exact ⟨rfl, rfl, rfl, rfl⟩
  | some nextRun =>
    simp only
    cases db.getSchedule ("automation:" ++ uuidStr automationId) with
    | none | some _ => exact ⟨rfl, rfl, rfl, rfl⟩

/-- **A step that strands no route keeps every used slot polled.** -/
theorem PollsLive.next (h : db.PollsLive) {e : SchedulerEvent zoneInfo} (hallowed : e.Allowed)
    (hstrands : ¬ db.Strands R e) : (db.next R e).PollsLive := by
  cases e with
  | tick t =>
    rw [SchedulerDb.next]
    cases htick : db.tick R t with
    | none => exact h
    | some outcome => exact (h.tick hstrands htick).1
  | crashedTick t => exact h
  | job op =>
    refine h.job ?_ hstrands
    intro id dueTime hkey
    rcases World.step_keys (R := R) db.world op with hsame | ⟨args, _, _, _, rfl, -, hcons⟩
    · exact hsame ▸ hkey
    rw [hcons, mem_cons] at hkey
    rcases hkey with hthis | hold
    · exact absurd hthis.symm (ne_pollKey hallowed id dueTime)
    · exact hold
  | finishPoll routeId expectedActivation now => exact h.finishPoll hstrands
  | finalizeInitialization routeId requestedRaw now => exact h.finalizeInitialization hstrands
  | continuePoll routeId digest payload id now =>
    exact h.enqueueLater (not_tickKey_forwardKey routeId digest)
  | deferPoll routeId rootJobId sequence payload scheduledFor id now =>
    exact h.enqueueLater (not_tickKey_deferredKey routeId rootJobId sequence)
  | createRoute route => exact h.createRoute hallowed
  | editRoute routeId edit => exact h.editRoute
  | editSources sources => exact h.congr ⟨rfl, rfl, rfl, rfl⟩
  | materializeSchedule automationId versionId config id now =>
    exact h.congr materializeSchedule_sameQueue
  | setScheduleEnabled scheduleId enabled =>
    refine h.congr ?_
    rw [SchedulerDb.next, SchedulerDb.setScheduleEnabled]
    cases db.schedules.lookup scheduleId <;> exact ⟨rfl, rfl, rfl, rfl⟩

/-! ## Runs -/

/-- The runs none of whose steps strands a route. -/
def unstranded (R : Redaction) (zoneInfo : ZoneInfo) : System SchedulerDb (SchedulerEvent zoneInfo) :=
  (schedulerSystem R zoneInfo).restrict fun db e => ¬ db.Strands R e

theorem pollsLive_reachable (h : (unstranded R zoneInfo).Reachable db) : db.PollsLive := by
  refine System.invariant (P := PollsLive) ?_ ?_ h
  · rintro _ rfl route hroute -
    cases hroute
  · rintro db e _ - hlive ⟨hstrands, hallowed, rfl⟩
    exact hlive.next hallowed hstrands

/-- Every committed tick that is not paused leaves every available due route a live poll. -/
def DueRoutesPolled (R : Redaction) (db : SchedulerDb) (t : Tick zoneInfo) : Prop :=
  ∀ result db', db.tick R t = some (result, db') → result.paused = false →
    ∀ route ∈ db.lockDueRoutes t, route.id ∈ t.available → db'.LivePoll route.id

/--
**A due route gets a live poll**, at every tick of a run in which no step ends the
last poll of a used slot or moves a route to one.
-/
theorem due_routes_polled (h : (unstranded R zoneInfo).Reachable db) {t : Tick zoneInfo}
    (hstrands : ¬ db.Strands R (.tick t)) : DueRoutesPolled R db t :=
  fun _ _ htick => ((pollsLive_reachable h).tick hstrands htick).2

/-! ## A route and its polls -/

/-- A route is created, activated and initialized, and its first poll enqueued and claimed. -/
def firstPoll : List (SchedulerEvent tehran) :=
  [ .createRoute
      { id := 5, enabled := false, pausedAt := none, pollIntervalSeconds := 300,
        cursorState := ⟨none, none, none, [], none⟩, lastPolledAt := none, nextPollAt := none },
    .editRoute 5 ⟨true, none, 300, ⟨some "catching_up", some "t", none, [], none⟩⟩,
    .finalizeInitialization 5 "t" 0,
    .tick (tickAt 0 7),
    .job (.claim "worker" 60 none [] 1) ]

def firstPolled : SchedulerDb := firstPoll.foldl (next .identity) empty

/-- The poll fails for good, and the next tick finds its key taken. -/
def failedPoll : SchedulerDb :=
  next .identity firstPolled
    (.job (.fail 7 "worker" .permanent "route_missing" "Telegram route was not found" none 2)
      : SchedulerEvent tehran)

theorem due_route_not_polled : ¬ ∀ db, (schedulerSystem .identity tehran).Reachable db →
      ∀ t : Tick tehran, DueRoutesPolled .identity db t := by
  intro h
  have hfirst : (schedulerSystem .identity tehran).Reachable firstPolled := by
    refine reachable_of_events ?_
    intro e he
    simp only [firstPoll, mem_cons, not_mem_nil, or_false] at he
    rcases he with rfl | rfl | rfl | rfl | rfl <;> trivial
  have hfailed : (schedulerSystem .identity tehran).Reachable failedPoll :=
    hfirst.tail (e := .job (.fail 7 "worker" .permanent "route_missing"
      "Telegram route was not found" none 2)) ⟨trivial, rfl⟩
  have hrun : (failedPoll.tick .identity (tickAt 3 8)).map
      (fun outcome => (outcome.1.paused, decide (outcome.2.LivePoll 5))) = some (false, false) := by
    decide +kernel
  have hdue : ∃ route ∈ failedPoll.lockDueRoutes (tickAt 3 8), route.id = 5 := by decide +kernel
  obtain ⟨⟨result, db'⟩, htick, hoff⟩ := Option.map_eq_some_iff.mp hrun
  simp only [Prod.mk.injEq, decide_eq_false_iff_not] at hoff
  obtain ⟨route, hroute, hid⟩ := hdue
  have hlive := h failedPoll hfailed (tickAt 3 8) result db' htick hoff.1 route hroute (by
    rw [hid]
    decide)
  rw [hid] at hlive
  exact hoff.2 hlive

/-- No slot is used, so no operation can end the last poll of one. -/
def NoSlotUsed (db : SchedulerDb) : Bool :=
  db.routes.rows.all fun route =>
    match route.nextPollAt with
    | none => true
    | some dueTime => !db.world.db.keys.contains (pollKey route.id dueTime)

theorem not_endsLastPoll_of_unused {ends : UUID → Prop} (h : db.NoSlotUsed = true) :
    ¬ db.EndsLastPoll ends := by
  rintro ⟨route, hroute, ⟨dueTime, hnext, hkey⟩, -⟩
  have hthis := all_eq_true.mp h route hroute
  simp only [hnext, Bool.not_eq_true', contains_eq_mem, decide_eq_false_iff_not] at hthis
  exact hthis hkey

/-- The first poll completes, and the route is due again five minutes later. -/
def completedPoll : SchedulerDb :=
  let db := next .identity firstPolled
    (.finishPoll 5 (some "t") 2000000 : SchedulerEvent tehran)
  next .identity db (.job (.finish 7 "worker" Json.empty 3000000) : SchedulerEvent tehran)

theorem due_routes_polled_again : DueRoutesPolled .identity completedPoll (tickAt 302000000 8) := by
  have hstart : (unstranded .identity tehran).Reachable empty := .init rfl
  have hcreate := hstart.tail (e := firstPoll[0]) ⟨id, rfl, rfl⟩
  have hedit := hcreate.tail (e := firstPoll[1]) ⟨id, trivial, rfl⟩
  have hinit := hedit.tail (e := firstPoll[2])
    ⟨by rintro ⟨route, -, -, hkey, -⟩; exact absurd hkey not_mem_nil, trivial, rfl⟩
  have htick := hinit.tail (e := firstPoll[3])
    ⟨not_endsLastPoll_of_unused (by decide +kernel), trivial, rfl⟩
  -- a claim ends no job
  have hclaim := htick.tail (e := firstPoll[4])
    ⟨by rintro ⟨route, -, -, ⟨poll, hpoll, hof, hlive⟩, hall⟩; exact hall poll hpoll hof hlive,
      trivial, rfl⟩
  have hmoved := hclaim.tail (e := (.finishPoll 5 (some "t") 2000000 : SchedulerEvent tehran))
    ⟨by rintro ⟨route, hl, -, -, hno⟩; exact hno (by decide +kernel), trivial, rfl⟩
  have hdone := hmoved.tail
    (e := (.job (.finish 7 "worker" Json.empty 3000000) : SchedulerEvent tehran))
    ⟨not_endsLastPoll_of_unused (by decide +kernel), trivial, rfl⟩
  exact due_routes_polled hdone (not_endsLastPoll_of_unused (by decide +kernel))

end SchedulerDb

end NewsCraft.Jobs
