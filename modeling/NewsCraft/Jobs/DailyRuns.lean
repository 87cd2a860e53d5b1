import NewsCraft.Jobs.ScheduleSlots
import NewsCraft.Lib.CivilTime

/-!
# The next run of a daily schedule

`_next_daily_run` compares the time of day with the wall clock's reading, and only then
turns the wall time it picked into an instant. In the hour the clock shows twice the run may
be one that is over, and in the hour after the clock was put forward the run of that day may
be left out.
-/

namespace NewsCraft.Jobs.DailyRuns

open Lib

/-- `_next_daily_run`, in zones that change their clocks in any way; `none` when it raises. -/
def nextDailyRun (zones : String → Option CivilTime.Zone) (after : Datetime)
    (timezone localTime : String) : Option Datetime :=
  match zones timezone, parseLocalTime localTime with
  | some zone, some timeOfDay => some (zone.nextDaily timeOfDay after)
  | _, _ => none

theorem nextDailyRun_ofWallClock (zoneInfo : ZoneInfo) (after : Datetime)
    (timezone localTime : String) :
    nextDailyRun (fun name => (zoneInfo name).map CivilTime.Zone.ofWallClock) after timezone
        localTime = Jobs.nextDailyRun zoneInfo after timezone localTime := by
  unfold nextDailyRun Jobs.nextDailyRun
  cases hzone : zoneInfo timezone with
  | none => simp [hzone]
  | some clock =>
    cases parseLocalTime localTime with
    | none => simp [hzone]
    | some timeOfDay => simp [hzone, CivilTime.Zone.nextDaily_ofWallClock]

/-- **The run computed is the next one exactly when the clock tells which runs are
past.** -/
theorem nextDailyRun_isNext_iff {zones : String → Option CivilTime.Zone} {timezone : String}
    {zone : CivilTime.Zone} (hzone : zones timezone = some zone) {localTime : String}
    {timeOfDay : Int} (htime : parseLocalTime localTime = some timeOfDay) (after : Datetime) :
    ∃ next, nextDailyRun zones after timezone localTime = some next
      ∧ (zone.IsNextDaily timeOfDay after next ↔ zone.Tells timeOfDay after) := by
  refine ⟨zone.nextDaily timeOfDay after, ?_, zone.isNextDaily_nextDaily_iff timeOfDay after⟩
  rw [nextDailyRun, hzone, htime]

/-! ## Two days a year -/

def seconds (n : Int) : Datetime := n * WallClock.second

/-- A zone that puts its clock back by an hour, at three in the morning. -/
def putBack : CivilTime.Zone := .once ⟨seconds 1761440400, seconds 7200, seconds 3600⟩

/-- A zone that puts its clock forward by an hour, at two in the morning. -/
def putForward : CivilTime.Zone := .once ⟨seconds 1743296400, seconds 3600, seconds 7200⟩

def changing : String → Option CivilTime.Zone
  | "put-back" => some putBack
  | "put-forward" => some putForward
  | _ => none

/-- Hours before the clock is put back. -/
theorem nextDailyRun_isNext_putBack :
    ∃ next, nextDailyRun changing (seconds 1761400000) "put-back" "02:30" = some next
      ∧ (putBack.IsNextDaily (seconds 9000) (seconds 1761400000) next
        ↔ putBack.Tells (seconds 9000) (seconds 1761400000)) :=
  nextDailyRun_isNext_iff rfl (by decide) (seconds 1761400000)

/-- Ten minutes into the second showing of the hour, half past two is read as an instant
forty minutes ago. Ten minutes after the clock was put forward, the run at half past two
is twenty minutes away, and the one of tomorrow is taken. -/
theorem nextDailyRun_misled :
    nextDailyRun changing (seconds 1761441000) "put-back" "02:30" = some (seconds 1761438600)
      ∧ ¬ putBack.IsNextDaily (seconds 9000) (seconds 1761441000) (seconds 1761438600)
      ∧ nextDailyRun changing (seconds 1743297000) "put-forward" "02:30" = some (seconds 1743381000)
      ∧ ¬ putForward.IsNextDaily (seconds 9000) (seconds 1743297000) (seconds 1743381000) := by
  refine ⟨by decide, ?_, by decide, ?_⟩
  · intro h
    exact absurd h.1 (by decide)
  · intro h
    obtain ⟨-, date, hdate, heq, -, hover⟩ := h
    have htoday := hover _ (Int.le_refl _)
    by_cases hlater : putForward.dateAt (seconds 1743297000) < date
    · exact absurd (htoday hlater) (by decide)
    have hsame : date = putForward.dateAt (seconds 1743297000) := by omega
    rw [hsame] at heq
    exact absurd heq (by decide)

end NewsCraft.Jobs.DailyRuns
