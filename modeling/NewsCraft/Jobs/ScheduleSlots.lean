import NewsCraft.Jobs.SchedulerStages

/-!
# Slots of a schedule

A slot is a time the schedule was due at. Enqueueing it and moving `next_run_at` on are one
transaction, and the slot is part of the job's key, so whoever observes it, however often
ticks crash, and even where `next_run_at` is set back, the queue holds one job for it.

`next_run_at` moves on because the next occurrence of a time of day is later, and an
interval is positive.
-/

namespace NewsCraft.Jobs

open Lib Telegram List Table Option

variable {zoneInfo : ZoneInfo} {R : Redaction}

/-! ## Clocks -/

theorem decimalDigit_bounds {c : Char} {n : Int} (h : decimalDigit c = some n) : 0 ≤ n ∧ n ≤ 9 := by
  unfold decimalDigit at h
  split_ifs at h with hc
  cases h
  obtain ⟨hlo, hhi⟩ := hc
  have hlo' : 48 ≤ c.toNat := hlo
  have hhi' : c.toNat ≤ 57 := hhi
  have hzero : '0'.toNat = 48 := rfl
  rw [hzero]
  omega

theorem parseLocalTime_bounds {value : String} {timeOfDay : Int}
    (h : parseLocalTime value = some timeOfDay) :
    (0 ≤ timeOfDay ∧ timeOfDay < WallClock.day) ∧ timeOfDay % WallClock.second = 0 := by
  unfold parseLocalTime at h
  split at h
  · rename_i hour hour' minute minute' hdigits hcolon
    have hall : ∀ n, some n ∈ value.toList.map decimalDigit → 0 ≤ n ∧ n ≤ 9 := by
      intro n hn
      obtain ⟨c, -, hc⟩ := mem_map.mp hn
      exact decimalDigit_bounds hc
    rw [hdigits] at hall
    have hh := hall hour (by simp)
    have hh' := hall hour' (by simp)
    have hm := hall minute (by simp)
    have hm' := hall minute' (by simp)
    split_ifs at h with hrange
    cases h
    simp only [WallClock.day, WallClock.second]
    omega
  · cases h

/-- The schedule is due at its time of day, if it is a daily one. -/
def WellTimed (zoneInfo : ZoneInfo) (schedule : WorkflowSchedule) : Prop :=
  schedule.scheduleKind = .daily → ∀ zone timeOfDay next, zoneInfo schedule.timezone = some zone →
    parseLocalTime (schedule.localTime.getD "") = some timeOfDay →
    schedule.nextRunAt = some next → WallClock.IsDaily zone timeOfDay next

theorem isDaily_nextDailyRun {after next : Datetime} {timezone localTime : String}
    (h : nextDailyRun zoneInfo after timezone localTime = some next) {zone : WallClock.Zone}
    {timeOfDay : Int} (hzone : zoneInfo timezone = some zone)
    (htime : parseLocalTime localTime = some timeOfDay) : WallClock.IsDaily zone timeOfDay next := by
  simp only [nextDailyRun, hzone, htime, Option.some.injEq] at h
  rw [← h]
  exact WallClock.isDaily_nextDaily zone timeOfDay after

variable {schedule : WorkflowSchedule}

theorem lt_advanceSchedule {dueTime next : Datetime} (htimed : WellTimed zoneInfo schedule)
    (hvalid : validSchedule zoneInfo schedule = true) (hdue : schedule.nextRunAt = some dueTime)
    (h : advanceSchedule zoneInfo schedule dueTime = some next) : dueTime < next := by
  unfold validSchedule at hvalid
  unfold advanceSchedule at h
  cases hkind : schedule.scheduleKind with
  | daily =>
    simp only [hkind, nextDailyRun] at h
    cases hzone : zoneInfo schedule.timezone with
    | none => simp [hzone] at h
    | some zone =>
      cases htime : parseLocalTime (schedule.localTime.getD "") with
      | none => simp [hzone, htime] at h
      | some timeOfDay =>
        simp only [hzone, htime, Option.some.injEq] at h
        obtain ⟨hday, hwhole⟩ := parseLocalTime_bounds htime
        rw [← h]
        exact WallClock.lt_nextDaily hday hwhole
          (htimed hkind zone timeOfDay dueTime hzone htime hdue)
  | interval =>
    cases hminutes : schedule.intervalMinutes with
    | none => simp [hkind, hminutes] at hvalid
    | some minutes =>
      simp only [hkind, hminutes, Bool.and_eq_true, decide_eq_true_eq] at hvalid
      simp only [hkind, hminutes, map_some, Option.some.injEq] at h
      have hpos := hvalid.2
      show @LT.lt Int _ dueTime next
      rw [← h]
      simp only [timedeltaMinutes, timedeltaSeconds]
      omega
  | unsupported text => simp [hkind] at hvalid

/-! ## Writers of a schedule keep it well timed -/

theorem WellTimed.enabled (h : WellTimed zoneInfo schedule) (enabled : Bool) :
    WellTimed zoneInfo { schedule with enabled := enabled } := h

theorem wellTimed_of_not_daily (h : schedule.scheduleKind ≠ .daily) :
    WellTimed zoneInfo schedule := by
  intro hdaily
  exact absurd hdaily h

theorem wellTimed_of_nextDailyRun (after : Datetime)
    (h : ∀ next, schedule.nextRunAt = some next → nextDailyRun zoneInfo after schedule.timezone
      (schedule.localTime.getD "") = some next) : WellTimed zoneInfo schedule := by
  intro _ zone timeOfDay next hzone htime hnext
  exact isDaily_nextDailyRun (h next hnext) hzone htime

theorem wellTimed_newSourceSchedule {service : SchedulerService zoneInfo} {source : Source}
    {now : Datetime} {id : UUID} (h : newSourceSchedule service source now id = some schedule) :
    WellTimed zoneInfo schedule := by
  unfold newSourceSchedule at h
  by_cases hdaily : source.fetchIntervalMinutes = 1440
  · simp only [hdaily, if_true] at h
    split_ifs at h with hoff
    · cases h
      intro _ zone timeOfDay next _ _ hnext
      cases hnext
    · obtain ⟨next, hnext, rfl⟩ := map_eq_some_iff.mp h
      refine wellTimed_of_nextDailyRun now ?_
      intro next' hsame
      cases hsame
      exact hnext
  · simp only [hdaily, if_false] at h
    split_ifs at h
    · cases h
      exact wellTimed_of_not_daily (by simp)
    · cases h
      exact wellTimed_of_not_daily (by simp)

theorem wellTimed_refreshSourceSchedule {service : SchedulerService zoneInfo} {source : Source}
    {now : Datetime} {refreshed : WorkflowSchedule} (htimed : WellTimed zoneInfo schedule)
    (h : refreshSourceSchedule service schedule source now = some refreshed) :
    WellTimed zoneInfo refreshed := by
  unfold refreshSourceSchedule at h
  by_cases hdaily : source.fetchIntervalMinutes = 1440
  · rw [if_pos hdaily] at h
    simp only at h
    split_ifs at h with hchanged
    · obtain ⟨next, hnext, rfl⟩ := map_eq_some_iff.mp h
      refine wellTimed_of_nextDailyRun now ?_
      intro next' hsame
      cases hsame
      exact hnext
    · -- the configuration is what it was, and so is the slot
      cases h
      simp only [not_or, ne_eq, not_not] at hchanged
      obtain ⟨⟨hkind, hzone, htime, -⟩, -⟩ := hchanged
      intro _ zone timeOfDay next hz ht hnext
      refine htimed hkind zone timeOfDay next ?_ ?_ hnext
      · rw [hzone]
        exact hz
      · rw [htime]
        exact ht
  · rw [if_neg hdaily] at h
    simp only at h
    have hkind : refreshed.scheduleKind = .interval := by
      cases hnext : schedule.nextRunAt with
      | none =>
        simp only [hnext] at h
        cases h
        rfl
      | some next =>
        cases hfetch : source.lastFetchAt with
        | none | some _ =>
          simp only [hnext, hfetch] at h
          split_ifs at h <;> cases h <;> rfl
    refine wellTimed_of_not_daily ?_
    rw [hkind]
    simp

theorem wellTimed_advance {dueTime next : Datetime}
    (h : advanceSchedule zoneInfo schedule dueTime = some next) :
    WellTimed zoneInfo
      { schedule with lastEnqueuedAt := some dueTime, nextRunAt := some next } := by
  intro hdaily zone timeOfDay next' hzone htime hnext
  cases hnext
  have hkind : schedule.scheduleKind = .daily := hdaily
  simp only [advanceSchedule, hkind] at h
  exact isDaily_nextDailyRun h hzone htime

namespace SchedulerDb

variable {db db' : SchedulerDb}

/-! ## The invariant -/

/-- How often a tick inserted a job for the slot. -/
def createdFor (db : SchedulerDb) (scheduleId : UUID) (dueTime : Datetime) : Nat :=
  db.slots.countP fun slot => slot.scheduleId = scheduleId ∧ slot.dueTime = dueTime ∧ slot.created

/-- The keys of the queue and the history of the slots agree. -/
structure SlotsInv (zoneInfo : ZoneInfo) (db : SchedulerDb) : Prop where
  keysNodup : db.world.db.keys.Nodup
  wellTimed : db.schedules.All (WellTimed zoneInfo)
  enqueued : ∀ slot ∈ db.slots, slotKey slot.scheduleId slot.dueTime ∈ db.world.db.keys
  created : ∀ scheduleId dueTime, db.createdFor scheduleId dueTime
    = if slotKey scheduleId dueTime ∈ db.world.db.keys then 1 else 0
  advances : ∀ slot ∈ db.slots, slot.dueTime < slot.nextRunAt

theorem SlotsInv.of_keys (h : SlotsInv zoneInfo db) (hslots : db'.slots = db.slots)
    (htimed : db'.schedules.All (WellTimed zoneInfo))
    (hkeys : db'.world.db.keys = db.world.db.keys ∨ ∃ key, key ∉ db.world.db.keys
      ∧ (∀ scheduleId dueTime, key ≠ slotKey scheduleId dueTime)
      ∧ db'.world.db.keys = key :: db.world.db.keys) : SlotsInv zoneInfo db' := by
  have hsame : ∀ scheduleId dueTime, slotKey scheduleId dueTime ∈ db'.world.db.keys
      ↔ slotKey scheduleId dueTime ∈ db.world.db.keys := by
    intro scheduleId dueTime
    rcases hkeys with heq | ⟨key, -, hno, hcons⟩
    · rw [heq]
    rw [hcons, mem_cons]
    constructor
    · rintro (hthis | hold)
      · exact absurd hthis.symm (hno scheduleId dueTime)
      · exact hold
    · exact .inr
  refine ⟨?_, htimed, ?_, ?_, ?_⟩
  · rcases hkeys with heq | ⟨key, hnew, -, hcons⟩
    · rw [heq]
      exact h.keysNodup
    · rw [hcons]
      exact nodup_cons.mpr ⟨hnew, h.keysNodup⟩
  · intro slot hslot
    rw [hslots] at hslot
    exact (hsame _ _).mpr (h.enqueued slot hslot)
  · intro scheduleId dueTime
    have hcount : db'.createdFor scheduleId dueTime = db.createdFor scheduleId dueTime := by
      rw [createdFor, createdFor, hslots]
    rw [hcount, h.created, if_congr (hsame scheduleId dueTime) rfl rfl]
  · intro slot hslot
    rw [hslots] at hslot
    exact h.advances slot hslot

variable {id : UUID} {now : Datetime}

theorem SlotsInv.enqueuePoll (h : SlotsInv zoneInfo db) {routeId : UUID} {args : JobsDb.EnqueueJob}
    {created : Bool} (he : db.enqueuePoll R routeId args id now = some (created, db'))
    (hkey : ∀ scheduleId dueTime, args.idempotencyKey ≠ slotKey scheduleId dueTime) :
    SlotsInv zoneInfo db' := by
  obtain ⟨hrows, hkeys, -⟩ := enqueuePoll_spec he
  refine h.of_keys hrows.slots ?_ ?_
  · rw [hrows.schedules]
    exact h.wellTimed
  · rcases hkeys with ⟨-, hsame⟩ | ⟨hnew, hcons, -⟩
    · exact .inl hsame
    · exact .inr ⟨_, hnew, hkey, hcons⟩

/-! ## The stages of a tick -/

variable {t : Tick zoneInfo}

theorem SlotsInv.swept (h : SlotsInv zoneInfo db) : SlotsInv zoneInfo (db.swept R t) :=
  h.of_keys rfl h.wellTimed (.inl swept_keys)

theorem SlotsInv.reconcileSource {n n' : Nat} {source : Source} (h : SlotsInv zoneInfo db)
    (hround : reconcileSource t (db, n) source = some (db', n')) : SlotsInv zoneInfo db' := by
  obtain ⟨hsame, hschedules⟩ := reconcileSource_cases hround
  refine h.of_keys hsame.slots ?_ (.inl (by rw [hsame.world]))
  rcases hschedules with ⟨schedule, hnew, heq⟩ | ⟨schedule, hrow, heq | ⟨refreshed, href, heq⟩⟩
  · rw [heq]
    exact h.wellTimed.insert (wellTimed_newSourceSchedule hnew)
  · rw [heq]
    exact h.wellTimed.put ((h.wellTimed schedule hrow).enabled false)
  · rw [heq]
    exact h.wellTimed.put (wellTimed_refreshSourceSchedule (h.wellTimed schedule hrow) href)

variable {invalid : Nat}

theorem SlotsInv.prepared (h : SlotsInv zoneInfo db) (hprep : db.prepared R t = some (db', invalid))
    : SlotsInv zoneInfo db' := by
  refine foldlM_preserves (P := fun acc : SchedulerDb × Nat => SlotsInv zoneInfo acc.1) ?_
    h.swept hprep
  rintro ⟨b, n⟩ source ⟨b', n'⟩ - hb hround
  exact hb.reconcileSource hround

variable {counts counts' : Nat × Nat}

theorem SlotsInv.enqueueRoute {route : AutomationRoute} (h : SlotsInv zoneInfo db)
    (hround : SchedulerDb.enqueueRoute R t (db, counts) route = some (db', counts')) :
    SlotsInv zoneInfo db' ∧ db'.schedules = db.schedules := by
  rcases enqueueRoute_cases hround with ⟨rfl, -⟩ | ⟨dueTime, created, -, -, he⟩
  · exact ⟨h, rfl⟩
  refine ⟨h.enqueuePoll he ?_, (enqueuePoll_spec he).1.schedules⟩
  intro scheduleId due heq
  exact pollKey_ne_slotKey heq

theorem SlotsInv.advanceTo {queued : SchedulerDb} {schedule : WorkflowSchedule}
    {dueTime nextRunAt : Datetime} {job : WorkflowJob} {created : Bool} {id : UUID}
    {now : Datetime} (h : SlotsInv zoneInfo db)
    (he : db.enqueueJob R (scheduleArgs schedule dueTime) id now = some ((job, created), queued))
    (htimed : WellTimed zoneInfo
      { schedule with lastEnqueuedAt := some dueTime, nextRunAt := some nextRunAt })
    (hlater : dueTime < nextRunAt) :
    SlotsInv zoneInfo (queued.advanceTo schedule dueTime nextRunAt created) := by
  obtain ⟨hrows, -, hkeys, -⟩ := enqueueJob_spec he
  have hkeys : (created = false ∧ slotKey schedule.id dueTime ∈ db.world.db.keys
        ∧ queued.world.db.keys = db.world.db.keys)
      ∨ (created = true ∧ slotKey schedule.id dueTime ∉ db.world.db.keys
        ∧ queued.world.db.keys = slotKey schedule.id dueTime :: db.world.db.keys) := by
    rcases hkeys with hused | ⟨htrue, hnew, hcons, -⟩
    · exact .inl hused
    · exact .inr ⟨htrue, hnew, hcons⟩
  have hslots : (queued.advanceTo schedule dueTime nextRunAt created).slots
      = ⟨schedule.id, dueTime, nextRunAt, created⟩ :: db.slots := by
    rw [← hrows.slots]
    rfl
  have hmono : ∀ key ∈ db.world.db.keys, key ∈ queued.world.db.keys := by
    intro key hkey
    rcases hkeys with ⟨-, -, hsame⟩ | ⟨-, -, hcons⟩
    · rw [hsame]
      exact hkey
    · rw [hcons]
      exact mem_cons_of_mem _ hkey
  have hthis : slotKey schedule.id dueTime ∈ queued.world.db.keys := by
    rcases hkeys with ⟨-, hused, hsame⟩ | ⟨-, -, hcons⟩
    · exact hmono _ hused
    rw [hcons]
    exact mem_cons_self
  refine ⟨?_, ?_, ?_, ?_, ?_⟩
  · show queued.world.db.keys.Nodup
    rcases hkeys with ⟨-, -, hsame⟩ | ⟨-, hnew, hcons⟩
    · rw [hsame]
      exact h.keysNodup
    · rw [hcons]
      exact nodup_cons.mpr ⟨hnew, h.keysNodup⟩
  · have hall : queued.schedules.All (WellTimed zoneInfo) := by
      rw [hrows.schedules]
      exact h.wellTimed
    exact hall.put htimed
  · intro slot hslot
    rw [hslots, mem_cons] at hslot
    rcases hslot with rfl | hold
    · exact hthis
    · exact hmono _ (h.enqueued slot hold)
  · intro scheduleId due
    show (queued.advanceTo schedule dueTime nextRunAt created).slots.countP _
      = if slotKey scheduleId due ∈ queued.world.db.keys then 1 else 0
    rw [hslots, countP_cons]
    have hold : db.slots.countP (fun slot => slot.scheduleId = scheduleId ∧ slot.dueTime = due
        ∧ slot.created) = if slotKey scheduleId due ∈ db.world.db.keys then 1 else 0 :=
      h.created scheduleId due
    rw [hold]
    by_cases hslot : schedule.id = scheduleId ∧ dueTime = due
    · obtain ⟨rfl, rfl⟩ := hslot
      rw [if_pos hthis]
      rcases hkeys with ⟨rfl, hused, -⟩ | ⟨rfl, hnew, -⟩
      · simp [hused]
      · simp [hnew]
    · -- another slot: its key is another one, and the new entry does not count
      have hother : slotKey scheduleId due ∈ queued.world.db.keys
          ↔ slotKey scheduleId due ∈ db.world.db.keys := by
        rcases hkeys with ⟨-, -, hsame⟩ | ⟨-, -, hcons⟩
        · rw [hsame]
        rw [hcons, mem_cons]
        constructor
        · rintro (heq | hmem)
          · obtain ⟨hid, hdue⟩ := slotKey_injective heq
            exact absurd ⟨hid.symm, hdue.symm⟩ hslot
          · exact hmem
        · exact .inr
      have hentry : ¬ (schedule.id = scheduleId ∧ dueTime = due ∧ created = true) := by
        rintro ⟨hid, hdue, -⟩
        exact hslot ⟨hid, hdue⟩
      rw [if_congr hother rfl rfl]
      simp [hentry]
  · intro slot hslot
    rw [hslots, mem_cons] at hslot
    rcases hslot with rfl | hold
    · exact hlater
    · exact h.advances slot hold

/-- The slot the schedule was due at has been enqueued, and the schedule is due at the
one after it. -/
def SlotDone (schedule : WorkflowSchedule) (db : SchedulerDb) : Prop :=
  ∃ slot ∈ db.slots, slot.scheduleId = schedule.id ∧ schedule.nextRunAt = some slot.dueTime
    ∧ slot.dueTime < slot.nextRunAt
    ∧ ∃ row, db.schedules.lookup schedule.id = some row ∧ row.nextRunAt = some slot.nextRunAt

/-- What the loop over the schedules keeps: the invariant, and the rows it has locked. -/
structure LoopInv (zoneInfo : ZoneInfo) (locked : List WorkflowSchedule) (db : SchedulerDb) :
    Prop where
  inv : SlotsInv zoneInfo db
  present : ∀ schedule ∈ locked, (db.schedules.lookup schedule.id).isSome

variable {locked : List WorkflowSchedule}

variable {invalid' : Nat} {schedule : WorkflowSchedule}

theorem LoopInv.enqueueSchedule (h : LoopInv zoneInfo locked db)
    (htimed : WellTimed zoneInfo schedule)
    (hround : SchedulerDb.enqueueSchedule R t (db, counts, invalid) schedule = some (db', counts',
      invalid')) : LoopInv zoneInfo locked db' := by
  rcases enqueueSchedule_cases hround with ⟨-, rfl⟩ | ⟨rfl, -⟩
    | ⟨dueTime, nextRunAt, job, created, queued, hvalid, hdue, he, hadv, rfl⟩
  · refine ⟨h.inv.of_keys rfl (h.inv.wellTimed.put (htimed.enabled false)) (.inl rfl), ?_⟩
    intro other hother
    have hsome := h.present other hother
    rw [← isSome_lookup_put db.schedules { schedule with enabled := false }] at hsome
    exact hsome
  · exact h
  refine ⟨h.inv.advanceTo he (wellTimed_advance hadv)
    (lt_advanceSchedule htimed hvalid hdue hadv), ?_⟩
  intro other hother
  have hsome := h.present other hother
  rw [← (enqueueJob_spec he).1.schedules, ← isSome_lookup_put queued.schedules
    { schedule with lastEnqueuedAt := some dueTime, nextRunAt := some nextRunAt }] at hsome
  exact hsome

theorem slotDone_enqueueSchedule (h : LoopInv zoneInfo locked db) (hmem : schedule ∈ locked)
    (htimed : WellTimed zoneInfo schedule) (hvalid : validSchedule zoneInfo schedule = true)
    (hnext : schedule.nextRunAt ≠ none)
    (hround : SchedulerDb.enqueueSchedule R t (db, counts, invalid) schedule = some (db', counts',
      invalid')) : SlotDone schedule db' := by
  rcases enqueueSchedule_cases hround with ⟨hinvalid, -⟩ | ⟨-, hnone⟩
    | ⟨dueTime, nextRunAt, job, created, queued, -, hdue, he, hadv, rfl⟩
  · rw [hvalid] at hinvalid
    cases hinvalid
  · exact absurd hnone hnext
  refine ⟨⟨schedule.id, dueTime, nextRunAt, created⟩, mem_cons_self, rfl, hdue,
    lt_advanceSchedule htimed hvalid hdue hadv, ?_⟩
  obtain ⟨row, hrow⟩ := isSome_iff_exists.mp (h.present schedule hmem)
  rw [← (enqueueJob_spec he).1.schedules] at hrow
  refine ⟨{ schedule with lastEnqueuedAt := some dueTime, nextRunAt := some nextRunAt }, ?_, rfl⟩
  exact lookup_put_self (r := { schedule with
    lastEnqueuedAt := some dueTime, nextRunAt := some nextRunAt }) hrow

theorem SlotDone.enqueueSchedule {other : WorkflowSchedule} (hdone : SlotDone schedule db)
    (hvalid : validSchedule zoneInfo schedule = true)
    (hunique : other.id = schedule.id → other = schedule) (h : LoopInv zoneInfo locked db)
    (hmem : other ∈ locked) (htimed : WellTimed zoneInfo other)
    (hround : SchedulerDb.enqueueSchedule R t (db, counts, invalid) other = some (db', counts',
      invalid')) : SlotDone schedule db' := by
  by_cases hid : other.id = schedule.id
  · obtain rfl := hunique hid
    obtain ⟨slot, -, -, hdue, -⟩ := hdone
    exact slotDone_enqueueSchedule h hmem htimed hvalid (by rw [hdue]; simp) hround
  · obtain ⟨slot, hslot, hof, hdue, hlater, row, hrow, hnext⟩ := hdone
    rcases enqueueSchedule_cases hround with ⟨-, rfl⟩ | ⟨rfl, -⟩
      | ⟨dueTime, nextRunAt, job, created, queued, -, -, he, -, rfl⟩
    · refine ⟨slot, hslot, hof, hdue, hlater, row, ?_, hnext⟩
      exact (lookup_put_of_ne (r := { other with enabled := false }) (Ne.symm hid)).trans hrow
    · exact ⟨slot, hslot, hof, hdue, hlater, row, hrow, hnext⟩
    obtain ⟨hrows, -⟩ := enqueueJob_spec he
    refine ⟨slot, ?_, hof, hdue, hlater, row, ?_, hnext⟩
    · refine mem_cons_of_mem _ ?_
      rw [hrows.slots]
      exact hslot
    · refine (lookup_put_of_ne (r := { other with
        lastEnqueuedAt := some dueTime, nextRunAt := some nextRunAt }) (Ne.symm hid)).trans ?_
      rw [hrows.schedules]
      exact hrow

theorem lockDueSchedules_mem (h : schedule ∈ db.lockDueSchedules t) :
    schedule ∈ db.schedules.rows ∧ schedule.nextRunAt ≠ none := by
  unfold lockDueSchedules at h
  rw [mem_insertionSort, mem_filter] at h
  refine ⟨h.1, fun hnone => ?_⟩
  simp [hnone] at h

theorem SlotsInv.tick {result : SchedulerTickResult} (h : SlotsInv zoneInfo db)
    (htick : db.tick R t = some (result, db')) :
    SlotsInv zoneInfo db' ∧ (result.paused = false → ∀ prep invalid,
      db.prepared R t = some (prep, invalid) → ∀ schedule ∈ prep.lockDueSchedules t,
        validSchedule zoneInfo schedule = true → SlotDone schedule db') := by
  obtain ⟨prep, invalid, hprep, hrest⟩ := tick_cases htick
  have hstart := h.prepared hprep
  rcases hrest with ⟨hpaused, rfl⟩ | ⟨-, polled, counts, counts', invalid', hroutes, hschedules⟩
  · refine ⟨hstart, fun hno => ?_⟩
    rw [hpaused] at hno
    cases hno
  · -- the loop over routes leaves the schedules alone
    have hpolled : SlotsInv zoneInfo polled ∧ polled.schedules = prep.schedules := by
      refine foldlM_preserves (P := fun acc : SchedulerDb × Nat × Nat =>
        SlotsInv zoneInfo acc.1 ∧ acc.1.schedules = prep.schedules) ?_ ⟨hstart, rfl⟩ hroutes
      rintro ⟨b, n⟩ route ⟨b', n'⟩ - ⟨hb, hsame⟩ hround
      obtain ⟨hkeep, hsame'⟩ := hb.enqueueRoute hround
      exact ⟨hkeep, hsame'.trans hsame⟩
    obtain ⟨hpolled, hsame⟩ := hpolled
    -- the loop over schedules, one round a schedule
    have hrow : ∀ schedule ∈ polled.lockDueSchedules t, schedule ∈ polled.schedules.rows :=
      fun schedule hmem => (lockDueSchedules_mem hmem).1
    have htimed : ∀ schedule ∈ polled.lockDueSchedules t, WellTimed zoneInfo schedule :=
      fun schedule hmem => hpolled.wellTimed schedule (hrow schedule hmem)
    have hloop : LoopInv zoneInfo (polled.lockDueSchedules t) polled := by
      refine ⟨hpolled, fun schedule hmem => ?_⟩
      have hl : polled.schedules.lookup schedule.id = some schedule :=
        lookup_of_mem (hrow schedule hmem)
      rw [hl]
      rfl
    have hround : ∀ (acc : SchedulerDb × (Nat × Nat) × Nat) schedule acc',
        schedule ∈ polled.lockDueSchedules t →
        LoopInv zoneInfo (polled.lockDueSchedules t) acc.1 →
        SchedulerDb.enqueueSchedule R t acc schedule = some acc' →
        LoopInv zoneInfo (polled.lockDueSchedules t) acc'.1 := by
      rintro ⟨b, n, m⟩ schedule ⟨b', n', m'⟩ hmem hb hstep
      exact hb.enqueueSchedule (htimed schedule hmem) hstep
    refine ⟨(foldlM_preserves hround hloop hschedules).inv, ?_⟩
    rintro - prep' invalid'' hprep' schedule hmem hvalid
    rw [hprep] at hprep'
    cases hprep'
    have hmem' : schedule ∈ polled.lockDueSchedules t := by
      rw [lockDueSchedules, hsame]
      exact hmem
    refine foldlM_each (Q := fun schedule (acc : SchedulerDb × (Nat × Nat) × Nat) =>
      validSchedule zoneInfo schedule = true → schedule ∈ polled.lockDueSchedules t →
        SlotDone schedule acc.1) hround ?_ ?_ hloop hschedules schedule hmem' hvalid hmem'
    · rintro ⟨b, n, m⟩ s ⟨b', n', m'⟩ hs hb hstep hok -
      exact slotDone_enqueueSchedule hb hs (htimed s hs) hok (lockDueSchedules_mem hs).2 hstep
    · rintro ⟨b, n, m⟩ other ⟨b', n', m'⟩ s hother hb hdone hstep hok hs
      refine (hdone hok hs).enqueueSchedule hok ?_ hb hother (htimed other hother) hstep
      intro hid
      exact row_unique (hrow other hother) (hrow s hs) hid

/-! ## Steps between ticks -/

theorem SlotsInv.enqueueLater (h : SlotsInv zoneInfo db) {routeId : UUID} {payload : Json}
    {key : String} {scheduledFor : Option Datetime} (hkey : ¬ TickKey key) :
    SlotsInv zoneInfo (db.enqueueLater R routeId payload key scheduledFor id now) := by
  unfold SchedulerDb.enqueueLater
  split
  · exact h
  rename_i created db' he
  exact h.enqueuePoll he fun scheduleId dueTime => ne_slotKey hkey scheduleId dueTime

theorem SlotsInv.congr (h : SlotsInv zoneInfo db) (hslots : db'.slots = db.slots)
    (hworld : db'.world = db.world) (hschedules : db'.schedules = db.schedules) :
    SlotsInv zoneInfo db' := by
  refine h.of_keys hslots ?_ (.inl (by rw [hworld]))
  rw [hschedules]
  exact h.wellTimed

theorem SlotsInv.materializeSchedule (h : SlotsInv zoneInfo db) {automationId versionId : UUID}
    {config : ScheduleConfig} :
    SlotsInv zoneInfo (db.materializeSchedule zoneInfo automationId versionId config id now) := by
  unfold SchedulerDb.materializeSchedule
  cases hnext : nextScheduleRun zoneInfo config now with
  | none => exact h
  | some nextRun =>
    -- whatever row the projection writes to, it sets the slot by the new configuration
    have htimed : ∀ schedule : WorkflowSchedule,
        schedule.scheduleKind = (if config.daily then .daily else .interval) →
        schedule.timezone = config.timezone → schedule.localTime = config.localTime →
        schedule.nextRunAt = some nextRun → WellTimed zoneInfo schedule := by
      intro schedule hkind hzone htime hrun
      unfold nextScheduleRun at hnext
      cases hdaily : config.daily with
      | false =>
        refine wellTimed_of_not_daily ?_
        rw [hkind, hdaily]
        simp
      | true =>
        simp only [hdaily, Bool.not_true, Bool.false_eq_true, if_false] at hnext
        intro _ zone timeOfDay next hz ht hsame
        rw [hrun] at hsame
        cases hsame
        rw [hzone] at hz
        cases hlocal : config.localTime with
        | none =>
          have hempty : parseLocalTime "" = none := by decide +kernel
          rw [htime, hlocal, getD_none, hempty] at ht
          cases ht
        | some localTime =>
          rw [hlocal] at hnext
          rw [htime, hlocal] at ht
          exact isDaily_nextDailyRun hnext hz ht
    simp only
    cases db.getSchedule ("automation:" ++ uuidStr automationId) with
    | none =>
      refine h.of_keys rfl ?_ (.inl rfl)
      exact h.wellTimed.insert (htimed _ rfl rfl rfl rfl)
    | some schedule =>
      refine h.of_keys rfl ?_ (.inl rfl)
      exact h.wellTimed.put (htimed _ rfl rfl rfl rfl)

/-- **Every step keeps the slots and the queue in agreement.** -/
theorem SlotsInv.next (h : SlotsInv zoneInfo db) {e : SchedulerEvent zoneInfo}
    (hallowed : e.Allowed) : SlotsInv zoneInfo (db.next R e) := by
  cases e with
  | tick t =>
    rw [SchedulerDb.next]
    cases htick : db.tick R t with
    | none => exact h
    | some outcome => exact (h.tick htick).1
  | crashedTick t => exact h
  | job op =>
    refine h.of_keys rfl h.wellTimed ?_
    rcases World.step_keys (R := R) db.world op with hsame | ⟨args, _, _, _, rfl, hnew, hcons⟩
    · exact .inl hsame
    · exact .inr ⟨_, hnew, fun id dueTime => ne_slotKey hallowed id dueTime, hcons⟩
  | finishPoll routeId expectedActivation now =>
    rw [SchedulerDb.next, SchedulerDb.finishPoll]
    cases db.routes.lookup routeId with
    | none => exact h
    | some route =>
      simp only
      cases validateLockedRoute route db.world.db.globalPause "ready" expectedActivation with
      | error _ => exact h
      | ok reason =>
        cases reason with
        | some _ => exact h
        | none => exact h.congr rfl rfl rfl
  | finalizeInitialization routeId requestedRaw now =>
    rw [SchedulerDb.next, SchedulerDb.finalizeInitialization]
    cases db.routes.lookup routeId with
    | none => exact h
    | some route =>
      simp only
      cases validateLockedRoute route db.world.db.globalPause "catching_up" (some requestedRaw) with
      | error _ => exact h
      | ok reason =>
        cases reason with
        | some _ => exact h
        | none => exact h.congr rfl rfl rfl
  | continuePoll routeId digest payload id now =>
    exact h.enqueueLater (not_tickKey_forwardKey routeId digest)
  | deferPoll routeId rootJobId sequence payload scheduledFor id now =>
    exact h.enqueueLater (not_tickKey_deferredKey routeId rootJobId sequence)
  | createRoute _ | editSources _ => exact h.congr rfl rfl rfl
  | editRoute routeId edit =>
    rw [SchedulerDb.next, SchedulerDb.editRoute]
    cases db.routes.lookup routeId with
    | none => exact h
    | some route => exact h.congr rfl rfl rfl
  | materializeSchedule automationId versionId config id now => exact h.materializeSchedule
  | setScheduleEnabled scheduleId enabled =>
    rw [SchedulerDb.next, SchedulerDb.setScheduleEnabled]
    cases hl : db.schedules.lookup scheduleId with
    | none => exact h
    | some schedule =>
      refine h.of_keys rfl ?_ (.inl rfl)
      exact h.wellTimed.put ((h.wellTimed.lookup hl).enabled enabled)

theorem slotsInv_reachable (h : (schedulerSystem R zoneInfo).Reachable db) :
    SlotsInv zoneInfo db := by
  refine System.invariant (P := SlotsInv zoneInfo) ?_ ?_ h
  · rintro _ rfl
    refine ⟨nodup_nil, all_empty, ?_, ?_, ?_⟩
    · nofun
    · intro scheduleId dueTime
      rfl
    · nofun
  · rintro db e _ - hinv ⟨hallowed, rfl⟩
    exact hinv.next hallowed

/-! ## The result -/

/-- Every slot a tick ever enqueued has one job, inserted once, and moved the schedule on. -/
structure SlotsOnce (db : SchedulerDb) : Prop where
  inserted : ∀ slot ∈ db.slots, db.createdFor slot.scheduleId slot.dueTime = 1
  job : ∀ slot ∈ db.slots, ∃ job ∈ db.world.db.jobs.rows,
    job.idempotencyKey = slotKey slot.scheduleId slot.dueTime ∧ ∀ other ∈ db.world.db.jobs.rows,
        other.idempotencyKey = slotKey slot.scheduleId slot.dueTime → other = job
  advances : ∀ slot ∈ db.slots, slot.dueTime < slot.nextRunAt

/-- Every committed tick that is not paused enqueues due slots, and moves their schedules on. -/
def DueSlotsEnqueued (R : Redaction) (db : SchedulerDb) (t : Tick zoneInfo) : Prop :=
  ∀ result db', db.tick R t = some (result, db') → result.paused = false →
    ∀ prep invalid, db.prepared R t = some (prep, invalid) →
      ∀ schedule ∈ prep.lockDueSchedules t, validSchedule zoneInfo schedule = true →
        SlotDone schedule db'

/--
**Schedule slots exactly once.** In every state reached by ticks of any number of
instances at any times, crashed ones among them, and whatever happens between:
every slot enqueued so far has exactly one job, which was inserted once, and
moved `next_run_at` to a later time; and the next tick does the same for every
valid schedule it observes as due.
-/
theorem schedule_slots_once (h : (schedulerSystem R zoneInfo).Reachable db) :
    SlotsOnce db ∧ ∀ t : Tick zoneInfo, DueSlotsEnqueued R db t := by
  have hinv := slotsInv_reachable h
  refine ⟨⟨?_, ?_, hinv.advances⟩, fun t result db' htick => (hinv.tick htick).2⟩
  · intro slot hslot
    rw [hinv.created, if_pos (hinv.enqueued slot hslot)]
  · intro slot hslot
    obtain ⟨job, hjob, hkey⟩ := JobsDb.mem_keys.mp (hinv.enqueued slot hslot)
    refine ⟨job, hjob, hkey, fun other hother hsame => ?_⟩
    exact JobsDb.job_unique hinv.keysNodup hjob hother (hsame.trans hkey.symm)

/-- A daily source gets its schedule at one tick and its first slot at another. -/
def dailyCollection : List (SchedulerEvent tehran) :=
  [ .editSources ⟨[⟨3, "Agency", true, none, 1440, none, none⟩], nodup_singleton _⟩,
    .tick (tickAt 0 7), .crashedTick (tickAt 14400000000 8), .tick (tickAt 14400000000 9) ]

def collectedDaily : SchedulerDb := dailyCollection.foldl (next .identity) empty

theorem schedule_slots_once_daily :
    collectedDaily.slots = [⟨1, 14400000000, 100800000000, true⟩] ∧ SlotsOnce collectedDaily
      ∧ ∀ t : Tick tehran, DueSlotsEnqueued .identity collectedDaily t := by
  refine ⟨by decide +kernel, schedule_slots_once (reachable_of_events ?_)⟩
  intro e he
  simp only [dailyCollection, mem_cons, not_mem_nil, or_false] at he
  rcases he with rfl | rfl | rfl | rfl <;> trivial

end SchedulerDb

end NewsCraft.Jobs
