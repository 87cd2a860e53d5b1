import NewsCraft.Jobs.QueueKeys
import NewsCraft.Jobs.Scheduler

/-!
# The stages of a tick

The keys of the scheduler tell its slots apart from each other and from every
other key, and each stage of a tick touches its own tables only: the sweep the
jobs, the reconciliation the schedules and the sources, the enqueues the queue.
-/

namespace NewsCraft.Jobs

open Lib Telegram List Option

/-! ## Keys -/

variable {id id' : UUID} {due due' : Datetime}

theorem pollKey_injective (h : pollKey id due = pollKey id' due') : id = id' ∧ due = due' := by
  obtain ⟨hid, htext⟩ := printedKey_injective h
  exact ⟨hid, isoformat_injective htext⟩

theorem slotKey_injective (h : slotKey id due = slotKey id' due') : id = id' ∧ due = due' := by
  obtain ⟨hid, htext⟩ := printedKey_injective h
  exact ⟨hid, isoformat_injective htext⟩

theorem prefix_pollKey (id : UUID) (due : Datetime) :
    "telegram-route-poll:".toList <+: (pollKey id due).toList := by
  unfold pollKey
  rw [String.toList_append, String.toList_append, String.toList_append]
  refine ⟨(uuidStr id).toList ++ (":".toList ++ (isoformat due).toList), ?_⟩
  simp only [append_assoc]

theorem prefix_slotKey (id : UUID) (due : Datetime) :
    "schedule:".toList <+: (slotKey id due).toList := by
  unfold slotKey
  rw [String.toList_append, String.toList_append, String.toList_append]
  refine ⟨(uuidStr id).toList ++ (":".toList ++ (isoformat due).toList), ?_⟩
  simp only [append_assoc]

theorem not_prefix_append {p start rest : List Char} (hlen : p.length ≤ start.length)
    (h : ¬ p <+: start) : ¬ p <+: start ++ rest := by
  intro hp
  exact h (prefix_of_prefix_length_le hp (prefix_append start rest) hlen)

theorem pollKey_ne_slotKey : pollKey id due ≠ slotKey id' due' := by
  intro h
  have hpoll := prefix_pollKey id due
  have hslot := prefix_slotKey id' due'
  rw [h] at hpoll
  have hstart := prefix_of_prefix_length_le hslot hpoll (by simp)
  simp at hstart

theorem not_tickKey_append {start rest : String}
    (hpoll : "telegram-route-poll:".toList.length ≤ start.toList.length
      ∧ ¬ "telegram-route-poll:".toList <+: start.toList)
    (hslot : "schedule:".toList.length ≤ start.toList.length
      ∧ ¬ "schedule:".toList <+: start.toList) : ¬ TickKey (start ++ rest) := by
  rintro (h | h)
  · rw [String.toList_append] at h
    exact not_prefix_append hpoll.1 hpoll.2 h
  · rw [String.toList_append] at h
    exact not_prefix_append hslot.1 hslot.2 h

theorem not_tickKey_forwardKey (routeId : UUID) (digest : String) :
    ¬ TickKey (forwardKey routeId digest) := by
  unfold forwardKey
  rw [String.append_assoc, String.append_assoc]
  exact not_tickKey_append ⟨by simp, by simp⟩ ⟨by simp, by simp⟩

theorem not_tickKey_deferredKey (routeId rootJobId : UUID) (sequence : Nat) :
    ¬ TickKey (deferredKey routeId rootJobId sequence) := by
  unfold deferredKey
  rw [String.append_assoc, String.append_assoc, String.append_assoc, String.append_assoc]
  exact not_tickKey_append ⟨by simp, by simp⟩ ⟨by simp, by simp⟩

theorem ne_pollKey {key : String} (h : ¬ TickKey key) (id : UUID) (due : Datetime) :
    key ≠ pollKey id due := by
  rintro rfl
  exact h (.inl (prefix_pollKey id due))

theorem ne_slotKey {key : String} (h : ¬ TickKey key) (id : UUID) (due : Datetime) :
    key ≠ slotKey id due := by
  rintro rfl
  exact h (.inr (prefix_slotKey id due))

namespace SchedulerDb

variable {zoneInfo : ZoneInfo} {R : Redaction} {db db' : SchedulerDb}

/-! ## Enqueueing -/

/-- The two databases differ in their jobs alone. -/
structure SameRows (db db' : SchedulerDb) : Prop where
  routes : db'.routes = db.routes
  schedules : db'.schedules = db.schedules
  sources : db'.sources = db.sources
  slots : db'.slots = db.slots

theorem enqueueJob_spec {args : JobsDb.EnqueueJob} {id : UUID} {now : Datetime}
    {job : WorkflowJob} {created : Bool}
    (h : db.enqueueJob R args id now = some ((job, created), db')) :
    SameRows db db' ∧ db'.polls = db.polls
      ∧ ((created = false ∧ args.idempotencyKey ∈ db.world.db.keys
          ∧ db'.world.db.keys = db.world.db.keys)
        ∨ (created = true ∧ args.idempotencyKey ∉ db.world.db.keys
          ∧ db'.world.db.keys = args.idempotencyKey :: db.world.db.keys ∧ db'.world.db.Live job.id))
      ∧ ∀ jobId, db.world.db.Live jobId → db'.world.db.Live jobId := by
  rw [enqueueJob] at h
  cases he : db.world.db.enqueueJob R args true id now with
  | error _ => simp [he] at h
  | ok result =>
    obtain ⟨⟨row, flag⟩, jobs⟩ := result
    simp only [he, Option.some.injEq, Prod.mk.injEq] at h
    obtain ⟨⟨rfl, rfl⟩, rfl⟩ := h
    refine ⟨⟨rfl, rfl, rfl, rfl⟩, rfl, ?_, fun jobId hlive => hlive.enqueueJob he⟩
    rcases JobsDb.enqueueJob_keys he with ⟨rfl, hused, hsame⟩ | ⟨rfl, hnew, hcons⟩
    · exact .inl ⟨rfl, hused, hsame⟩
    · exact .inr ⟨rfl, hnew, hcons, JobsDb.live_of_created he⟩

/-- Some poll of the route is queued or running. -/
def LivePoll (db : SchedulerDb) (routeId : UUID) : Prop :=
  ∃ poll ∈ db.polls, poll.routeId = routeId ∧ db.world.db.Live poll.jobId

instance (routeId : UUID) : Decidable (db.LivePoll routeId) := by
  unfold LivePoll
  infer_instance

theorem enqueuePoll_spec {routeId : UUID} {args : JobsDb.EnqueueJob} {id : UUID} {now : Datetime}
    {created : Bool} (h : db.enqueuePoll R routeId args id now = some (created, db')) :
    SameRows db db'
      ∧ ((args.idempotencyKey ∈ db.world.db.keys ∧ db'.world.db.keys = db.world.db.keys)
        ∨ (args.idempotencyKey ∉ db.world.db.keys
          ∧ db'.world.db.keys = args.idempotencyKey :: db.world.db.keys ∧ db'.LivePoll routeId))
      ∧ ∀ other, db.LivePoll other → db'.LivePoll other := by
  rw [enqueuePoll] at h
  cases he : db.enqueueJob R args id now with
  | none => simp [he] at h
  | some result =>
    obtain ⟨⟨job, flag⟩, db₁⟩ := result
    obtain ⟨hrows, hpolls, hkeys, hlive⟩ := enqueueJob_spec he
    have hkeep : ∀ other, db.LivePoll other → db₁.LivePoll other := by
      rintro other ⟨poll, hpoll, hof, hl⟩
      exact ⟨poll, hpolls ▸ hpoll, hof, hlive _ hl⟩
    cases flag with
    | false =>
      simp only [he, Bool.false_eq_true, if_false, Option.some.injEq, Prod.mk.injEq] at h
      obtain ⟨rfl, rfl⟩ := h
      rcases hkeys with ⟨-, hused, hsame⟩ | ⟨htrue, -⟩
      · exact ⟨hrows, Or.inl ⟨hused, hsame⟩, hkeep⟩
      · cases htrue
    | true =>
      simp only [he, if_true, Option.some.injEq, Prod.mk.injEq] at h
      obtain ⟨rfl, rfl⟩ := h
      rcases hkeys with ⟨hfalse, -⟩ | ⟨-, hnew, hcons, hjob⟩
      · cases hfalse
      refine ⟨⟨hrows.routes, hrows.schedules, hrows.sources, hrows.slots⟩,
        Or.inr ⟨hnew, hcons, ⟨job.id, routeId⟩, mem_cons_self, rfl, hjob⟩, ?_⟩
      rintro other hother
      obtain ⟨poll, hpoll, hof, hl⟩ := hkeep other hother
      exact ⟨poll, mem_cons_of_mem _ hpoll, hof, hl⟩

/-! ## Reconciliation -/

/-- The two databases differ in their schedules and sources alone. -/
structure SameQueue (db db' : SchedulerDb) : Prop where
  world : db'.world = db.world
  routes : db'.routes = db.routes
  polls : db'.polls = db.polls
  slots : db'.slots = db.slots

theorem SameQueue.trans {db'' : SchedulerDb} (h : SameQueue db db') (h' : SameQueue db' db'') :
    SameQueue db db'' :=
  ⟨h'.world.trans h.world, h'.routes.trans h.routes, h'.polls.trans h.polls, h'.slots.trans h.slots⟩

variable {t : Tick zoneInfo}

theorem reconcileSource_cases {n n' : Nat} {source : Source}
    (h : reconcileSource t (db, n) source = some (db', n')) :
    SameQueue db db'
      ∧ ((∃ schedule, newSourceSchedule t.service source t.now (t.newScheduleId source.id)
            = some schedule ∧ db'.schedules = db.schedules.insert schedule)
        ∨ ∃ schedule ∈ db.schedules.rows,
            db'.schedules = db.schedules.put { schedule with enabled := false }
              ∨ ∃ refreshed, refreshSourceSchedule t.service schedule source t.now
                  = some refreshed ∧ db'.schedules = db.schedules.put refreshed) := by
  unfold reconcileSource at h
  simp only at h
  cases hfind : db.getSchedule (sourceKey source) with
  | none =>
    simp only [hfind] at h
    cases hnew : newSourceSchedule t.service source t.now (t.newScheduleId source.id) with
    | none => simp [hnew] at h
    | some schedule =>
      simp only [hnew] at h
      split_ifs at h
      cases h
      exact ⟨⟨rfl, rfl, rfl, rfl⟩, .inl ⟨schedule, rfl, rfl⟩⟩
  | some schedule =>
    have hrow : schedule ∈ db.schedules.rows := mem_of_find?_eq_some hfind
    simp only [hfind] at h
    split_ifs at h with hoff hinvalid
    · cases h
      exact ⟨⟨rfl, rfl, rfl, rfl⟩, .inr ⟨schedule, hrow, Or.inl rfl⟩⟩
    · cases h
      exact ⟨⟨rfl, rfl, rfl, rfl⟩, .inr ⟨schedule, hrow, Or.inl rfl⟩⟩
    · cases href : refreshSourceSchedule t.service schedule source t.now with
      | none => simp [href] at h
      | some refreshed =>
        simp only [href] at h
        cases h
        exact ⟨⟨rfl, rfl, rfl, rfl⟩, .inr ⟨schedule, hrow, Or.inr ⟨refreshed, href, rfl⟩⟩⟩

variable {invalid : Nat}

theorem reconcileSources_sameQueue (h : db.reconcileSources t = some (db', invalid)) :
    SameQueue db db' := by
  refine foldlM_preserves (P := fun acc : SchedulerDb × Nat => SameQueue db acc.1) ?_
    ⟨rfl, rfl, rfl, rfl⟩ h
  rintro ⟨db₁, n⟩ source ⟨db₂, n'⟩ - hsame hround
  exact hsame.trans (reconcileSource_cases hround).1

/-! ## The whole tick -/

theorem tick_cases {result : SchedulerTickResult} (h : db.tick R t = some (result, db')) :
    ∃ prep invalid, db.prepared R t = some (prep, invalid) ∧ ((result.paused = true ∧ db' = prep)
        ∨ (result.paused = false ∧ ∃ polled counts counts' invalid',
          (prep.lockDueRoutes t).foldlM (enqueueRoute R t) (prep, (0, 0)) = some (polled, counts)
          ∧ (polled.lockDueSchedules t).foldlM (enqueueSchedule R t) (polled, counts, invalid)
            = some (db', counts', invalid'))) := by
  unfold tick at h
  simp only [bind_eq_bind, bind_eq_some_iff] at h
  obtain ⟨⟨prep, invalid⟩, hprep, h⟩ := h
  refine ⟨prep, invalid, hprep, ?_⟩
  by_cases hpaused : prep.world.db.globalPause = true
  · simp only [hpaused, if_true, Option.some.injEq, Prod.mk.injEq] at h
    obtain ⟨rfl, rfl⟩ := h
    exact .inl ⟨rfl, rfl⟩
  · rw [if_neg hpaused] at h
    simp only [bind_eq_some_iff, Option.some.injEq, Prod.mk.injEq] at h
    obtain ⟨⟨polled, counts⟩, hroutes, ⟨final, counts', invalid'⟩, hschedules, rfl, rfl⟩ := h
    exact .inr ⟨rfl, polled, counts, counts', invalid', hroutes, hschedules⟩

theorem prepared_sameQueue (h : db.prepared R t = some (db', invalid)) :
    SameQueue (db.swept R t) db' :=
  reconcileSources_sameQueue h

@[simp] theorem swept_keys : (db.swept R t).world.db.keys = db.world.db.keys :=
  World.step_keys_eq (fun _ _ _ _ heq => by cases heq) db.world

theorem enqueueRoute_cases {counts counts' : Nat × Nat} {route : AutomationRoute}
    (h : enqueueRoute R t (db, counts) route = some (db', counts')) :
    (db' = db ∧ (route.id ∉ t.available ∨ route.nextPollAt = none))
      ∨ ∃ dueTime created, route.id ∈ t.available ∧ route.nextPollAt = some dueTime
        ∧ db.enqueuePoll R route.id (pollArgs route.id dueTime)
          (t.newJobId (pollKey route.id dueTime)) t.now = some (created, db') := by
  unfold enqueueRoute at h
  by_cases havail : route.id ∈ t.available
  · rw [if_neg (by simpa using havail)] at h
    cases hnext : route.nextPollAt with
    | none =>
      simp only [hnext, Option.some.injEq, Prod.mk.injEq] at h
      exact .inl ⟨h.1.symm, Or.inr rfl⟩
    | some dueTime =>
      simp only [hnext] at h
      cases he : db.enqueuePoll R route.id (pollArgs route.id dueTime)
          (t.newJobId (pollKey route.id dueTime)) t.now with
      | none => simp [he] at h
      | some outcome =>
        obtain ⟨created, db₁⟩ := outcome
        simp only [he, Option.some.injEq, Prod.mk.injEq] at h
        obtain ⟨rfl, -⟩ := h
        exact .inr ⟨dueTime, created, havail, rfl, he⟩
  · rw [if_pos (by simpa using havail), Option.some.injEq, Prod.mk.injEq] at h
    exact .inl ⟨h.1.symm, Or.inl havail⟩

theorem enqueueSchedule_cases {counts counts' : Nat × Nat} {invalid' : Nat}
    {schedule : WorkflowSchedule}
    (h : enqueueSchedule R t (db, counts, invalid) schedule = some (db', counts', invalid')) :
    (validSchedule zoneInfo schedule = false
        ∧ db' = { db with schedules := db.schedules.put { schedule with enabled := false } })
      ∨ (db' = db ∧ schedule.nextRunAt = none)
      ∨ ∃ dueTime nextRunAt job created queued, validSchedule zoneInfo schedule = true
        ∧ schedule.nextRunAt = some dueTime
        ∧ db.enqueueJob R (scheduleArgs schedule dueTime)
          (t.newJobId (slotKey schedule.id dueTime)) t.now = some ((job, created), queued)
        ∧ advanceSchedule zoneInfo schedule dueTime = some nextRunAt
        ∧ db' = queued.advanceTo schedule dueTime nextRunAt created := by
  unfold enqueueSchedule at h
  simp only at h
  cases hvalid : validSchedule zoneInfo schedule with
  | false =>
    simp only [hvalid, Bool.not_false, if_true, Option.some.injEq, Prod.mk.injEq] at h
    exact .inl ⟨rfl, h.1.symm⟩
  | true =>
    simp only [hvalid, Bool.not_true, Bool.false_eq_true, if_false] at h
    cases hnext : schedule.nextRunAt with
    | none =>
      simp only [hnext, Option.some.injEq, Prod.mk.injEq] at h
      exact .inr (.inl ⟨h.1.symm, rfl⟩)
    | some dueTime =>
      simp only [hnext] at h
      cases he : db.enqueueJob R (scheduleArgs schedule dueTime)
          (t.newJobId (slotKey schedule.id dueTime)) t.now with
      | none => simp [he] at h
      | some outcome =>
        obtain ⟨⟨job, created⟩, queued⟩ := outcome
        simp only [he] at h
        cases hadv : advanceSchedule zoneInfo schedule dueTime with
        | none => simp [hadv] at h
        | some nextRunAt =>
          simp only [hadv, Option.some.injEq, Prod.mk.injEq] at h
          exact .inr (.inr ⟨dueTime, nextRunAt, job, created, queued, rfl, rfl, he, hadv, h.1.symm⟩)

/-! ## Runs -/

theorem reachable_of_events {es : List (SchedulerEvent zoneInfo)} (h : ∀ e ∈ es, e.Allowed) :
    (schedulerSystem R zoneInfo).Reachable (es.foldl (next R) empty) :=
  System.reachable_foldl_of (S := schedulerSystem R zoneInfo) (fun _ _ hallowed => ⟨hallowed, rfl⟩)
    (.init rfl) h

/-! ## A scheduler in Tehran -/

/-- Tehran, half an hour off the full hours, and no other zone. -/
def tehran : ZoneInfo := fun name =>
  if name = "Asia/Tehran" then
    some (WallClock.Zone.fixed (12600 * WallClock.second) (by decide) (by decide))
  else
    none

def tickAt (now : Datetime) (newJobId : UUID) : Tick tehran where
  service := ⟨"Asia/Tehran", "07:30", by decide +kernel, by decide +kernel⟩
  now := now
  locked := []
  available := [5]
  newJobId := fun _ => newJobId
  newScheduleId := fun _ => 1

end SchedulerDb

end NewsCraft.Jobs
