import Mathlib.Tactic.Common

/-!
# Wall clocks

Instants and wall times are microseconds, and a zone gives the offset of the wall clock at
every instant. A wall time the clock shows twice is its earlier instant, and one it skips is
taken with the offset before the change; still each occurrence of a daily event is later
than the one before.
-/

namespace NewsCraft.Lib.WallClock

def second : Int := 1000000

def day : Int := 86400 * second

/-- A change of the offset. -/
structure Change where
  instant : Int
  before : Int
  after : Int

namespace Change

def offsetAt (c : Change) (t : Int) : Int := if t < c.instant then c.before else c.after

def instantOf (c : Change) (wall : Int) : Int :=
  wall - if wall < c.instant + max c.before c.after then c.before else c.after

/-- Offsets are shorter than a day, and clocks change at whole seconds. -/
structure Sensible (c : Change) : Prop where
  before_lt : -day < c.before ∧ c.before < day
  after_lt : -day < c.after ∧ c.after < day
  whole : c.instant % second = 0 ∧ c.before % second = 0 ∧ c.after % second = 0

end Change

/-- A time zone, whose clock changes at most once within days of an instant. -/
structure Zone where
  offsetAt : Int → Int
  instantOf : Int → Int
  nearby : ∀ t, ∃ c : Change, c.Sensible
    ∧ (∀ s, t - 4 * day ≤ s → s ≤ t + 4 * day → offsetAt s = c.offsetAt s)
    ∧ ∀ wall, t - 4 * day ≤ wall → wall ≤ t + 4 * day → instantOf wall = c.instantOf wall

/-- A zone that never changes its clock. -/
def Zone.fixed (offset : Int) (hday : -day < offset ∧ offset < day) (hwhole : offset % second = 0) :
    Zone where
  offsetAt := fun _ => offset
  instantOf := fun wall => wall - offset
  nearby := fun t => by
    refine ⟨⟨0, offset, offset⟩, ⟨hday, hday, ⟨rfl, hwhole, hwhole⟩⟩, fun s _ _ => ?_,
      fun wall _ _ => ?_⟩
    · simp [Change.offsetAt]
    · simp [Change.instantOf]

/-- A zone that changes its clock once. -/
def Zone.once (c : Change) (h : c.Sensible) : Zone where
  offsetAt := c.offsetAt
  instantOf := c.instantOf
  nearby := fun _ => ⟨c, h, fun _ _ _ => rfl, fun _ _ _ => rfl⟩

variable (zone : Zone) (timeOfDay : Int)

/-- The first wall time at this time of day that is later than the clock at an instant. -/
def nextWall (after : Int) : Int :=
  let wall := after + zone.offsetAt after
  let candidate := wall / day * day + timeOfDay
  if candidate ≤ wall then candidate + day else candidate

def nextDaily (after : Int) : Int := zone.instantOf (nextWall zone timeOfDay after)

/-- The instant is that of the time of day on some date. -/
def IsDaily (t : Int) : Prop := ∃ date : Int, t = zone.instantOf (date * day + timeOfDay)

theorem isDaily_nextDaily (after : Int) : IsDaily zone timeOfDay (nextDaily zone timeOfDay after) := by
  rw [nextDaily, nextWall]
  split
  · refine ⟨(after + zone.offsetAt after) / day + 1, ?_⟩
    congr 1
    rw [Int.add_mul]
    omega
  · exact ⟨_, rfl⟩

variable {zone timeOfDay}

/-- The next wall time is later than the clock, by no more than a day. -/
theorem nextWall_bounds (zone : Zone) (hday : 0 ≤ timeOfDay ∧ timeOfDay < day) (after : Int) :
    after + zone.offsetAt after < nextWall zone timeOfDay after
      ∧ nextWall zone timeOfDay after ≤ after + zone.offsetAt after + day
      ∧ nextWall zone timeOfDay after % day = timeOfDay := by
  unfold nextWall
  simp only [day, second] at *
  split_ifs <;> omega

/-- Around one change of the clock: a later wall time at the same time of the day is
a later instant. -/
theorem Change.instantOf_lt {c : Change} (h : c.Sensible) {wall next : Int}
    (hwhole : wall % second = 0) (hnext : next % day = wall % day)
    (hlater : c.instantOf wall + 1 + c.offsetAt (c.instantOf wall + 1) < next) :
    c.instantOf wall < c.instantOf next := by
  obtain ⟨hbefore, hafter, hinstant, hwholeBefore, hwholeAfter⟩ := h
  simp only [Change.offsetAt, Change.instantOf, day, second] at *
  rcases Int.le_total c.before c.after with hle | hle
  · -- the clock is put forward, and skips the wall times between
    rw [Int.max_eq_right hle] at *
    split_ifs at * <;> omega
  · -- the clock is put back, and shows the wall times between twice
    rw [Int.max_eq_left hle] at *
    split_ifs at * <;> omega

/-- **The next occurrence of a daily event is later**, whatever the clock does between. -/
theorem lt_nextDaily (hday : 0 ≤ timeOfDay ∧ timeOfDay < day) (hwhole : timeOfDay % second = 0)
    {t : Int} (h : IsDaily zone timeOfDay t) : t < nextDaily zone timeOfDay (t + 1) := by
  obtain ⟨date, rfl⟩ := h
  obtain ⟨c, hc, hoffset, hinstant⟩ := zone.nearby (date * day + timeOfDay)
  have hslot : zone.instantOf (date * day + timeOfDay) = c.instantOf (date * day + timeOfDay) :=
    hinstant _ (by simp only [day, second]; omega) (by simp only [day, second]; omega)
  rw [nextDaily, hslot]
  have hnear : date * day + timeOfDay - day < c.instantOf (date * day + timeOfDay)
      ∧ c.instantOf (date * day + timeOfDay) < date * day + timeOfDay + day := by
    obtain ⟨hbefore, hafter, -⟩ := hc
    rw [Change.instantOf]
    split <;> omega
  generalize hwall : date * day + timeOfDay = wall at *
  have hgrid : wall % day = timeOfDay ∧ wall % second = 0 := by
    simp only [day, second] at *
    omega
  have hclock : zone.offsetAt (c.instantOf wall + 1) = c.offsetAt (c.instantOf wall + 1) :=
    hoffset _ (by simp only [day, second] at *; omega) (by simp only [day, second] at *; omega)
  have hsmall : -day < c.offsetAt (c.instantOf wall + 1)
      ∧ c.offsetAt (c.instantOf wall + 1) < day := by
    rw [Change.offsetAt]
    split
    · exact hc.before_lt
    · exact hc.after_lt
  obtain ⟨hlater, hclose, hsame⟩ :=
    nextWall_bounds zone hday (c.instantOf wall + 1)
  rw [hclock] at hlater hclose
  have hread : zone.instantOf (nextWall zone timeOfDay (c.instantOf wall + 1))
      = c.instantOf (nextWall zone timeOfDay (c.instantOf wall + 1)) :=
    hinstant _ (by simp only [day, second] at *; omega) (by simp only [day, second] at *; omega)
  rw [hread]
  exact Change.instantOf_lt hc hgrid.2 (hsame.trans hgrid.1.symm) hlater

end NewsCraft.Lib.WallClock
