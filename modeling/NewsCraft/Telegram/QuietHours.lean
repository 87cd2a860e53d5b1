import NewsCraft.Jobs.DailyRuns
import NewsCraft.Telegram.RoutePolicy

/-!
# When the quiet hours are over

`next_allowed_at` puts an instant within the quiet hours off until the wall time at which
they end, read as `datetime.combine` reads it: the first instant that shows it, or its
image where the clock skips it. In a zone that changes its clock that may be an instant
that is over, or one within the quiet hours again.
-/

namespace NewsCraft.Telegram.QuietHours

open Lib
open Lib.WallClock (day)

/-- The time of day a clock shows at an instant. -/
def timeAt (zone : CivilTime.Zone) (t : Int) : Int := zone.wallAt t % day

/-- The time of day lies within the quiet hours; they may go past midnight. -/
def Quiet (start finish time : Int) : Prop :=
  if start < finish then start ≤ time ∧ time < finish else start ≤ time ∨ time < finish

instance (start finish time : Int) : Decidable (Quiet start finish time) := by
  unfold Quiet
  infer_instance

variable (zone : CivilTime.Zone) (start finish now : Int)

/-- The next wall time at which the quiet hours end, by what the clock shows now. -/
def endWall : Int :=
  zone.dateAt now * day + finish + if timeAt zone now < finish then 0 else day

/-- How much a change that skips a wall time has put the clock forward by its image. -/
def shift (change wall : Int) : Int :=
  zone.offsetAt (wall - zone.offsetAt (change - 1)) - zone.offsetAt (change - 1)

/-- The end is still to come, and a change that skips it does not lead into the quiet hours. -/
structure EndComes : Prop where
  pending : ∀ earlier, earlier < now → ¬ zone.Passed (endWall zone finish now) earlier
  clear : ∀ change, zone.Skips change (endWall zone finish now) →
    ¬ Quiet start finish ((finish + shift zone change (endWall zone finish now)) % day)

/-! ## The wall time put off to -/

theorem endWall_of_lt (h : timeAt zone now < finish) :
    endWall zone finish now = zone.dateAt now * day + finish := by
  rw [endWall, if_pos h, Int.add_zero]

theorem endWall_of_le (h : finish ≤ timeAt zone now) :
    endWall zone finish now = zone.dateAt now * day + finish + day := by
  rw [endWall, if_neg (Int.not_lt.mpr h)]

theorem quietUntil_eq : quietUntil zone start finish now
      = if Quiet start finish (timeAt zone now) then
          some (zone.instantOf (endWall zone finish now))
        else none := by
  have hsucc := zone.occurrence_succ finish (zone.dateAt now)
  have htoday := endWall_of_lt zone finish now
  have htomorrow := endWall_of_le zone finish now
  simp only [timeAt] at htoday htomorrow
  simp only [quietUntil, Quiet, timeAt]
  by_cases horder : start < finish
  · simp only [if_pos horder]
    by_cases hinside : start ≤ zone.wallAt now % day ∧ zone.wallAt now % day < finish
    · simp only [if_pos hinside, htoday hinside.2, CivilTime.Zone.occurrence]
    · simp only [if_neg hinside]
  · simp only [if_neg horder]
    by_cases hlate : start ≤ zone.wallAt now % day
    · have hmorning : finish ≤ zone.wallAt now % day := by omega
      simp only [hlate, true_or, if_true, htomorrow hmorning, hsucc]
    · by_cases hmorning : zone.wallAt now % day < finish
      · simp only [hlate, hmorning, false_or, if_true, if_false, htoday hmorning,
          CivilTime.Zone.occurrence]
      · simp only [hlate, hmorning, false_or, if_false]

theorem not_quiet_finish (hdiffer : start ≠ finish) : ¬ Quiet start finish finish := by
  unfold Quiet
  split <;> omega

variable {finish}

theorem endWall_emod (hfinish : 0 ≤ finish ∧ finish < day) :
    endWall zone finish now % day = finish := by
  have hsplit := Int.emod_eq_of_lt hfinish.1 hfinish.2
  unfold endWall
  split
  · rw [Int.add_zero, Int.mul_add_emod_self_right, hsplit]
  · rw [Int.add_emod_right, Int.mul_add_emod_self_right, hsplit]

theorem timeAt_of_shows (hfinish : 0 ≤ finish ∧ finish < day) {t : Int}
    (h : zone.wallAt t = endWall zone finish now) : timeAt zone t = finish := by
  rw [timeAt, h, endWall_emod zone now hfinish]

theorem timeAt_image (hfinish : 0 ≤ finish ∧ finish < day) (change : Int) :
    timeAt zone (endWall zone finish now - zone.offsetAt (change - 1))
      = (finish + shift zone change (endWall zone finish now)) % day := by
  have hwall : zone.wallAt (endWall zone finish now - zone.offsetAt (change - 1))
      = endWall zone finish now + shift zone change (endWall zone finish now) := by
    simp only [CivilTime.Zone.wallAt, shift]
    omega
  rw [timeAt, hwall, Int.add_emod, endWall_emod zone now hfinish, Int.add_emod_emod]

variable (finish)

theorem now_le_iff (wall : Int) :
    now ≤ zone.instantOf wall ↔ ∀ earlier, earlier < now → ¬ zone.Passed wall earlier := by
  constructor
  · intro hle earlier hbefore hpassed
    have hread := (zone.passed_iff wall earlier).mp hpassed
    omega
  · intro hpending
    by_cases hle : now ≤ zone.instantOf wall
    · exact hle
    · exact absurd ((zone.passed_iff wall _).mpr (Int.le_refl _)) (hpending _ (by omega))

variable {finish}

theorem not_quiet_iff (hfinish : 0 ≤ finish ∧ finish < day) (hdiffer : start ≠ finish) :
    ¬ Quiet start finish (timeAt zone (zone.instantOf (endWall zone finish now)))
      ↔ ∀ change, zone.Skips change (endWall zone finish now) →
          ¬ Quiet start finish ((finish + shift zone change (endWall zone finish now)) % day) := by
  constructor
  · intro hout change hskips
    rw [zone.instantOf_of_skips hskips, timeAt_image zone now hfinish] at hout
    exact hout
  · intro hclear
    rcases zone.readsAs_instantOf (endWall zone finish now) with hshows | himage
    · rw [timeAt_of_shows zone now hfinish hshows]
      exact not_quiet_finish start finish hdiffer
    · obtain ⟨change, hskips, heq⟩ := himage
      rw [heq, timeAt_image zone now hfinish]
      exact hclear change hskips

/-- The end of the quiet hours comes exactly if the instant it is read as is out of them
and not over. -/
theorem endComes_iff (hfinish : 0 ≤ finish ∧ finish < day) (hdiffer : start ≠ finish) :
    EndComes zone start finish now ↔ now ≤ zone.instantOf (endWall zone finish now)
        ∧ ¬ Quiet start finish (timeAt zone (zone.instantOf (endWall zone finish now))) := by
  rw [now_le_iff, not_quiet_iff zone start now hfinish hdiffer]
  exact ⟨fun h => ⟨h.pending, h.clear⟩, fun h => ⟨h.1, h.2⟩⟩

/-! ## Where it is put off to -/

theorem clock_bounds {value : String} {time : Int} (h : clock value = .ok time) :
    0 ≤ time ∧ time < day := by
  unfold clock at h
  cases hparsed : Jobs.parseLocalTime value with
  | none => simp [hparsed] at h
  | some parsed =>
    simp only [hparsed, Except.ok.injEq] at h
    subst h
    exact (Jobs.parseLocalTime_bounds hparsed).1

theorem nextAllowedAt_eq {E : PolicyEnv} {hours : Telegram.QuietHours} {zone : CivilTime.Zone}
    (hzone : E.zones (hours.timezone.getD "Asia/Tehran") = some zone) {start finish : Int}
    (hstart : clock hours.start = .ok start) (hfinish : clock hours.finish = .ok finish)
    (hdiffer : start ≠ finish) (now : Datetime) :
    nextAllowedAt E now (some hours) = .ok (if Quiet start finish (timeAt zone now) then
          zone.instantOf (endWall zone finish now) else now) := by
  simp only [nextAllowedAt, hzone, allowedIn, hstart, hfinish, bind, Except.bind, if_neg hdiffer,
    quietUntil_eq]
  split <;> rfl

/-- **An instant is put off to one that is no earlier and out of the quiet hours exactly
if their end comes, or it lies in none.** -/
theorem nextAllowedAt_out_iff {E : PolicyEnv} {hours : Telegram.QuietHours} {zone : CivilTime.Zone}
    (hzone : E.zones (hours.timezone.getD "Asia/Tehran") = some zone) {start finish : Int}
    (hstart : clock hours.start = .ok start) (hfinish : clock hours.finish = .ok finish)
    (hdiffer : start ≠ finish) (now : Datetime) :
    (∃ allowed, nextAllowedAt E now (some hours) = .ok allowed ∧ now ≤ allowed
        ∧ ¬ Quiet start finish (timeAt zone allowed))
      ↔ (Quiet start finish (timeAt zone now) → EndComes zone start finish now) := by
  rw [nextAllowedAt_eq hzone hstart hfinish hdiffer,
    endComes_iff zone start now (clock_bounds hfinish) hdiffer]
  constructor
  · intro h hquiet
    obtain ⟨allowed, heq, hle, hout⟩ := h
    rw [if_pos hquiet, Except.ok.injEq] at heq
    subst heq
    exact ⟨hle, hout⟩
  · intro hcomes
    by_cases hquiet : Quiet start finish (timeAt zone now)
    · rw [if_pos hquiet]
      exact ⟨_, rfl, hcomes hquiet⟩
    · rw [if_neg hquiet]
      exact ⟨_, rfl, Int.le_refl now, hquiet⟩

/-! ## Two days a year -/

open Jobs.DailyRuns (seconds putBack putForward changing)

def changingEnv : PolicyEnv where
  text := .ascii
  nfkc := id
  zones := changing

/-- Late in the evening, the hours end the next morning. -/
theorem evening_out : (∃ allowed, nextAllowedAt changingEnv (seconds 1761600000)
          (some ⟨some "put-back", "21:00", "07:00"⟩) = .ok allowed
        ∧ seconds 1761600000 ≤ allowed
        ∧ ¬ Quiet (seconds 75600) (seconds 25200) (timeAt putBack allowed))
      ↔ (Quiet (seconds 75600) (seconds 25200) (timeAt putBack (seconds 1761600000)) →
          EndComes putBack (seconds 75600) (seconds 25200) (seconds 1761600000)) :=
  nextAllowedAt_out_iff rfl (by decide +kernel) (by decide +kernel) (by decide) (seconds 1761600000)

/-- Quiet hours that are over in the second showing of an hour, or lead on into the next. -/
theorem changing_not_out : (∃ allowed, nextAllowedAt changingEnv (seconds 1761441000)
          (some ⟨some "put-back", "23:00", "02:30"⟩) = .ok allowed
        ∧ allowed < seconds 1761441000)
      ∧ ∃ allowed, nextAllowedAt changingEnv (seconds 1743294600)
            (some ⟨some "put-forward", "03:00", "02:30"⟩) = .ok allowed
          ∧ seconds 1743294600 ≤ allowed
          ∧ Quiet (seconds 10800) (seconds 9000) (timeAt putForward allowed) := by
  refine ⟨⟨seconds 1761438600, by decide +kernel, by decide⟩, ⟨seconds 1743298200, ?_⟩⟩
  exact ⟨by decide +kernel, by decide, by decide +kernel⟩

end NewsCraft.Telegram.QuietHours
