import NewsCraft.Lib.WallClock

/-!
# Clocks that are put forward and back

A zone gives the offset of its wall clock at every instant, with any changes at all. A wall
time the clock shows is read as the first instant that shows it, and one a change skips with
the offset before the change: its image.

By some instant the clock has `Passed` a wall time when it has shown it, or when the image
is over. That is not the same as comparing readings of the clock.
-/

namespace NewsCraft.Lib.CivilTime

open WallClock (day)

structure Zone where
  offsetAt : Int → Int
  instantOf : Int → Int
  shown : ∀ t, instantOf (t + offsetAt t) ≤ t
    ∧ instantOf (t + offsetAt t) + offsetAt (instantOf (t + offsetAt t)) = t + offsetAt t
  skipped : ∀ wall, (∀ t, t + offsetAt t ≠ wall) →
    ∃ change, change - 1 + offsetAt (change - 1) < wall ∧ wall < change + offsetAt change
  image : ∀ wall change, (∀ t, t + offsetAt t ≠ wall) →
    change - 1 + offsetAt (change - 1) < wall → wall < change + offsetAt change →
      instantOf wall = wall - offsetAt (change - 1)

namespace Zone

/-- What the wall clock shows at an instant. -/
def wallAt (zone : Zone) (t : Int) : Int := t + zone.offsetAt t

/-- The calendar day of an instant. -/
def dateAt (zone : Zone) (t : Int) : Int := zone.wallAt t / day

/-- The change is the one that skips the wall time. -/
structure Skips (zone : Zone) (change wall : Int) : Prop where
  never : ∀ t, zone.wallAt t ≠ wall
  before : zone.wallAt (change - 1) < wall
  after : wall < zone.wallAt change

/-- The wall time is past: the clock has shown it, or its image is over. -/
def Passed (zone : Zone) (wall after : Int) : Prop :=
  (∃ t, t ≤ after ∧ zone.wallAt t = wall)
    ∨ ∃ change, zone.Skips change wall ∧ wall - zone.offsetAt (change - 1) ≤ after

/-- The instant shows the wall time, or is its image. -/
def ReadsAs (zone : Zone) (wall t : Int) : Prop :=
  zone.wallAt t = wall ∨ ∃ change, zone.Skips change wall ∧ t = wall - zone.offsetAt (change - 1)

variable (zone : Zone)

theorem instantOf_of_skips {change wall : Int} (h : zone.Skips change wall) :
    zone.instantOf wall = wall - zone.offsetAt (change - 1) :=
  zone.image wall change h.never h.before h.after

theorem skips_of_never {wall : Int} (h : ∀ t, zone.wallAt t ≠ wall) :
    ∃ change, zone.Skips change wall := by
  obtain ⟨change, hbefore, hafter⟩ := zone.skipped wall h
  exact ⟨change, h, hbefore, hafter⟩

theorem readsAs_instantOf (wall : Int) : zone.ReadsAs wall (zone.instantOf wall) := by
  by_cases hshown : ∃ t, zone.wallAt t = wall
  · obtain ⟨t, rfl⟩ := hshown
    exact .inl (zone.shown t).2
  · simp only [not_exists] at hshown
    obtain ⟨change, hskips⟩ := zone.skips_of_never hshown
    exact .inr ⟨change, hskips, zone.instantOf_of_skips hskips⟩

theorem passed_iff (wall after : Int) : zone.Passed wall after ↔ zone.instantOf wall ≤ after := by
  constructor
  · intro h
    rcases h with hshown | hskipped
    · obtain ⟨t, hle, rfl⟩ := hshown
      have hfirst := (zone.shown t).1
      simp only [wallAt]
      omega
    · obtain ⟨change, hskips, hle⟩ := hskipped
      rw [zone.instantOf_of_skips hskips]
      exact hle
  · intro h
    rcases zone.readsAs_instantOf wall with hshows | himage
    · exact .inl ⟨_, h, hshows⟩
    obtain ⟨change, hskips, heq⟩ := himage
    exact .inr ⟨change, hskips, by omega⟩

/-! ## Once a day -/

variable (timeOfDay after : Int)

/-- The instant of a time of day on a date. -/
def occurrence (date : Int) : Int := zone.instantOf (date * day + timeOfDay)

/-- The next instant at which a daily event is due: it is later, shows the time of day or is its
image, and the event is over on every day from that of `after` on. -/
def IsNextDaily (t : Int) : Prop :=
  after < t ∧ ∃ date, zone.dateAt after ≤ date ∧ t = zone.occurrence timeOfDay date
    ∧ zone.ReadsAs (date * day + timeOfDay) t
    ∧ ∀ earlier, zone.dateAt after ≤ earlier → earlier < date →
        zone.occurrence timeOfDay earlier ≤ after

/-- The first wall time at this time of day that is later than the clock reads, as
the instant it is read as. -/
def nextDaily : Int :=
  let candidate := zone.dateAt after * day + timeOfDay
  zone.instantOf (if candidate ≤ zone.wallAt after then candidate + day else candidate)

/-- The clock tells which of today's and tomorrow's time of day are past. -/
def Tells : Prop :=
  let today := zone.dateAt after * day + timeOfDay
  if today ≤ zone.wallAt after then
    (zone.Passed today after ∨ zone.instantOf today = zone.instantOf (today + day))
      ∧ ¬ zone.Passed (today + day) after
  else
    ¬ zone.Passed today after

theorem occurrence_succ (date : Int) :
    zone.occurrence timeOfDay (date + 1) = zone.instantOf (date * day + timeOfDay + day) := by
  rw [occurrence]
  congr 1
  rw [Int.add_mul]
  omega

/-- A date's occurrence is the next if none is left before it. -/
theorem isNextDaily_of_date {date : Int} (hlater : after < zone.occurrence timeOfDay date)
    (hdate : zone.dateAt after ≤ date)
    (hover : ∀ earlier, zone.dateAt after ≤ earlier → earlier < date →
      zone.occurrence timeOfDay earlier ≤ after) :
    zone.IsNextDaily timeOfDay after (zone.occurrence timeOfDay date) :=
  ⟨hlater, date, hdate, rfl, zone.readsAs_instantOf _, hover⟩

/-- The next wall time is the next occurrence exactly when the clock tells what is past. -/
theorem isNextDaily_nextDaily_iff :
    zone.IsNextDaily timeOfDay after (zone.nextDaily timeOfDay after)
      ↔ zone.Tells timeOfDay after := by
  have hsucc := zone.occurrence_succ timeOfDay (zone.dateAt after)
  by_cases hreads : zone.dateAt after * day + timeOfDay ≤ zone.wallAt after
  · simp only [nextDaily, Tells, if_pos hreads, zone.passed_iff, Int.not_le]
    rw [← hsucc]
    constructor
    · intro h
      obtain ⟨hlater, date, hdate, heq, -, hover⟩ := h
      refine ⟨?_, hlater⟩
      by_cases htoday : zone.dateAt after < date
      · exact .inl (hover _ (Int.le_refl _) htoday)
      -- the two days share their occurrence
      have hsame : date = zone.dateAt after := by omega
      exact .inr (by rw [heq, hsame]; rfl)
    · intro h
      obtain ⟨hpast, hlater⟩ := h
      rcases hpast with hpast | hsame
      · refine zone.isNextDaily_of_date timeOfDay after hlater (by omega) ?_
        intro earlier hfrom hbefore
        have htoday : earlier = zone.dateAt after := by omega
        rw [htoday]
        exact hpast
      · rw [← hsame] at hlater ⊢
        refine zone.isNextDaily_of_date timeOfDay after hlater (Int.le_refl _) ?_
        intro earlier hfrom hbefore
        omega
  · simp only [nextDaily, Tells, if_neg hreads, zone.passed_iff, Int.not_le]
    constructor
    · intro h
      exact h.1
    · intro hlater
      refine zone.isNextDaily_of_date timeOfDay after hlater (Int.le_refl _) ?_
      intro earlier hfrom hbefore
      omega

/-! ## Zones -/

/-- A zone that changes its clock once, at any instant and by any amount. -/
def once (c : WallClock.Change) : Zone where
  offsetAt := c.offsetAt
  instantOf := c.instantOf
  shown := by
    intro t
    simp only [WallClock.Change.offsetAt, WallClock.Change.instantOf]
    split_ifs <;> omega
  skipped := by
    intro wall hnever
    have hlate := hnever (wall - c.after)
    have hearly := hnever (wall - c.before)
    refine ⟨c.instant, ?_⟩
    simp only [WallClock.Change.offsetAt] at *
    split_ifs at * <;> omega
  image := by
    intro wall change hnever hbefore hafter
    have hlate := hnever (wall - c.after)
    have hearly := hnever (wall - c.before)
    simp only [WallClock.Change.offsetAt, WallClock.Change.instantOf] at *
    split_ifs at * <;> omega

theorem offsetAt_bounds (clock : WallClock.Zone) (t : Int) :
    -day < clock.offsetAt t ∧ clock.offsetAt t < day := by
  obtain ⟨c, hc, hoffset, -⟩ := clock.nearby t
  rw [hoffset t (by simp only [day, WallClock.second]; omega)
    (by simp only [day, WallClock.second]; omega), WallClock.Change.offsetAt]
  split
  · exact hc.before_lt
  · exact hc.after_lt

/-- A zone whose changes are days apart. -/
def ofWallClock (clock : WallClock.Zone) : Zone where
  offsetAt := clock.offsetAt
  instantOf := clock.instantOf
  shown := by
    intro t
    obtain ⟨c, hc, hoffset, hinstant⟩ := clock.nearby t
    obtain ⟨hbefore, hafter, -⟩ := hc
    have hwall := offsetAt_bounds clock t
    have honce := (once c).shown t
    have hreads : -day < c.instantOf (t + c.offsetAt t) - (t + c.offsetAt t)
        ∧ c.instantOf (t + c.offsetAt t) - (t + c.offsetAt t) < day := by
      rw [WallClock.Change.instantOf]
      split <;> omega
    rw [hoffset t (by omega) (by omega)] at hwall ⊢
    rw [hinstant _ (by omega) (by omega), hoffset _ (by omega) (by omega)]
    exact honce
  skipped := by
    intro wall hnever
    obtain ⟨c, hc, hoffset, -⟩ := clock.nearby wall
    obtain ⟨hbefore, hafter, -⟩ := hc
    have hlate := hnever (wall - c.after)
    have hearly := hnever (wall - c.before)
    rw [hoffset _ (by omega) (by omega), WallClock.Change.offsetAt] at hlate hearly
    have hnear : wall - c.after < c.instant ∧ c.instant ≤ wall - c.before := by
      split_ifs at hlate hearly <;> omega
    refine ⟨c.instant, ?_⟩
    rw [hoffset (c.instant - 1) (by omega) (by omega), hoffset c.instant (by omega) (by omega)]
    simp only [WallClock.Change.offsetAt]
    split_ifs <;> omega
  image := by
    intro wall change hnever hbefore hafter
    have hprevious := offsetAt_bounds clock (change - 1)
    have hchange := offsetAt_bounds clock change
    obtain ⟨c, hc, hoffset, hinstant⟩ := clock.nearby wall
    have hlate := hnever (wall - c.after)
    have hearly := hnever (wall - c.before)
    obtain ⟨hbounds, hbounds', -⟩ := hc
    have hwindow : wall - 4 * day ≤ change - 1 ∧ change ≤ wall + 4 * day := by omega
    rw [hoffset _ (by omega) (by omega)] at hlate hearly hbefore hafter
    rw [hinstant wall (by omega) (by omega), hoffset (change - 1) (by omega) (by omega)]
    simp only [WallClock.Change.offsetAt, WallClock.Change.instantOf] at *
    split_ifs at * <;> omega

theorem nextDaily_ofWallClock (clock : WallClock.Zone) (timeOfDay after : Int) :
    (ofWallClock clock).nextDaily timeOfDay after = WallClock.nextDaily clock timeOfDay after :=
  rfl

end Zone

end NewsCraft.Lib.CivilTime
