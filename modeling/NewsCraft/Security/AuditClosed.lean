import Mathlib.Data.List.Perm.Subperm
import NewsCraft.Security.Audit

/-!
# When the trail closes

A sweep adds its rows without a lock. So the trail closes in every history in which a
request that is answered is answered within the grace period, no sweep looks at a row that
another one is about to close, and a lost row is old enough to be among the first. Without
each of them it does not.
-/

namespace NewsCraft.Security

open Lib List Table Option

variable {w : AuditWorld} {limit : Nat} {key : UUID}

/-! ## Candidates -/

variable {candidate : UUID × SecurityAuditEvent}

theorem mem_candidates {batch : List SecurityAuditEvent} (h : candidate ∈ candidates batch) :
    candidate.2 ∈ batch ∧ candidate.2.correlation = some candidate.1 := by
  rcases Dict.mem_of_mem_build h with hnil | hmem
  · cases hnil
  obtain ⟨event, hevent, heq⟩ := mem_filterMap.mp hmem
  obtain ⟨key, hkey, heq⟩ := map_eq_some_iff.mp heq
  rw [← heq]
  exact ⟨hevent, hkey⟩

theorem mem_keys_candidates {batch : List SecurityAuditEvent} {event : SecurityAuditEvent}
    (hevent : event ∈ batch) (hkey : event.correlation = some key) :
    key ∈ (candidates batch).map Prod.fst := by
  refine Dict.mem_keys_build.mpr (.inr (mem_map.mpr ⟨(key, event), ?_, rfl⟩))
  refine mem_filterMap.mpr ⟨event, hevent, ?_⟩
  rw [hkey, map_some]

theorem candidates_distinct (batch : List SecurityAuditEvent) : Dict.Distinct (candidates batch) :=
  Dict.distinct_nil.build _

theorem Sweep.mem_pending {sweep : Sweep} (h : candidate ∈ sweep.pending) :
    candidate ∈ candidates sweep.batch := by
  unfold Sweep.pending at h
  cases hclosed : sweep.closed with
  | none =>
    rw [hclosed] at h
    cases h
  | some closed =>
    rw [hclosed] at h
    exact mem_of_mem_filter h

theorem Sweep.pending_nodup (sweep : Sweep) : (sweep.pending.map Prod.fst).Nodup := by
  unfold Sweep.pending
  cases sweep.closed with
  | none => exact nodup_nil
  | some closed =>
    exact (candidates_distinct sweep.batch).sublist (filter_sublist.map Prod.fst)

theorem pending_checked {sweep : Sweep}
    (h : candidate ∈ Sweep.pending { sweep with closed := some (closedKeys w.rows sweep.batch) }) :
    candidate ∈ candidates sweep.batch ∧ ¬w.Closed candidate.1 := by
  have hmem := Sweep.mem_pending h
  refine ⟨hmem, ?_⟩
  intro hclosed
  have hnot := of_decide_eq_true (mem_filter.mp h).2
  refine hnot (mem_filter.mpr ⟨mem_map_of_mem hmem, ?_⟩)
  exact any_eq_true.mpr hclosed

/-! ## The rows a sweep adds -/

theorem isTerminal_closingRow {newId : UUID → UUID} {now : Datetime} :
    isTerminal key (closingRow newId now candidate.1 candidate.2) = true ↔ candidate.1 = key := by
  simp [isTerminal, closingRow]

theorem terminal_closing_le {pending : List (UUID × SecurityAuditEvent)}
    (h : (pending.map Prod.fst).Nodup) (newId : UUID → UUID) (now : Datetime) (key : UUID) :
    ((pending.map fun candidate => closingRow newId now candidate.1 candidate.2).filter
      (isTerminal key)).length ≤ 1 := by
  rw [List.filter_map, List.length_map]
  have hcount : (pending.filter fun candidate => candidate.1 = key).length
      = (pending.map Prod.fst).count key := by
    rw [List.count, countP_map, countP_eq_length_filter]
    congr 1
  have hsame : (pending.filter (isTerminal key ∘ fun candidate =>
      closingRow newId now candidate.1 candidate.2))
      = pending.filter fun candidate => candidate.1 = key := by
    refine filter_congr ?_
    intro candidate _
    rw [Function.comp_apply, Bool.eq_iff_iff, isTerminal_closingRow, decide_eq_true_iff]
  rw [hsame, hcount]
  exact nodup_iff_count_le_one.mp h key

theorem terminal_closing_of_not_mem {pending : List (UUID × SecurityAuditEvent)}
    (h : key ∉ pending.map Prod.fst) (newId : UUID → UUID) (now : Datetime) :
    (pending.map fun candidate => closingRow newId now candidate.1 candidate.2).filter
      (isTerminal key) = [] := by
  refine filter_eq_nil_iff.mpr ?_
  intro event hevent hterminal
  obtain ⟨candidate, hcandidate, heq⟩ := mem_map.mp hevent
  rw [← heq, isTerminal_closingRow] at hterminal
  exact h (mem_map.mpr ⟨candidate, hcandidate, hterminal⟩)

/-! ## What is required -/

namespace AuditWorld

def terminal (w : AuditWorld) (key : UUID) : List SecurityAuditEvent :=
  w.rows.filter (isTerminal key)

/-- Each mutation has one outcome at most, and a sweep closes something of what was lost. -/
structure TrailCloses (w : AuditWorld) : Prop where
  once : ∀ key, (w.terminal key).length ≤ 1
  progress : ∀ lost ∈ w.finished, lost ≠ [] → ∃ key ∈ lost, w.Closed key

def HasOutcome (w : AuditWorld) (event : SecurityAuditEvent) : Prop :=
  ∃ key, event.correlation = some key ∧ w.Closed key

instance (w : AuditWorld) (event : SecurityAuditEvent) : Decidable (w.HasOutcome event) :=
  match h : event.correlation with
  | none => isFalse fun ⟨_, hkey, _⟩ => by
      rw [h] at hkey
      cases hkey
  | some key =>
    decidable_of_iff (w.Closed key)
      ⟨fun hclosed => ⟨key, h, hclosed⟩, fun ⟨_, hkey, hclosed⟩ => by
        rw [h] at hkey
        exact Option.some.inj hkey ▸ hclosed⟩

/-- The rows in range that a sweep may select before this one for nothing. -/
def ahead (w : AuditWorld) (event : SecurityAuditEvent) : List SecurityAuditEvent :=
  w.rows.filter fun other =>
    inRange w.now other ∧ w.HasOutcome other ∧ other.createdAt ≤ event.createdAt

/-- An answer in time, a look at rows nobody is about to close, a selection with a lost row. -/
def InTime (w : AuditWorld) (limit : Nat) : AuditStep → Prop
  | .respond _ correlation _ _ =>
    ∃ event ∈ w.rows, event.outcome = .attempted ∧ event.correlation = some correlation
      ∧ w.now - staleAttemptGrace ≤ event.createdAt
  | .select _ _ =>
    w.lost ≠ [] → ∃ event ∈ w.rows, inRange w.now event = true ∧ ¬w.HasOutcome event
      ∧ (w.ahead event).length < limit
  | .check process =>
    ∀ sweep, w.sweeps.lookup process = some sweep →
      ∀ other ∈ w.sweeps.rows, other.process ≠ process →
        ∀ candidate ∈ other.pending, candidate.1 ∉ (candidates sweep.batch).map Prod.fst
  | _ => True

/-! ## Closing -/

theorem closed_iff_terminal : w.Closed key ↔ w.terminal key ≠ [] := by
  rw [terminal, Ne, filter_eq_nil_iff]
  constructor
  · rintro ⟨event, hevent, hterminal⟩ hnone
    exact hnone event hevent hterminal
  · intro h
    by_contra hnot
    exact h fun event hevent hterminal => hnot ⟨event, hevent, hterminal⟩

theorem Closed.known (h : w.Closed key) : w.Known key := by
  obtain ⟨event, hevent, hterminal⟩ := h
  rw [isTerminal, decide_eq_true_iff] at hterminal
  exact ⟨event, hevent, hterminal.1⟩

/-- What follows when a history keeps to the steps that are in time. -/
structure TrailInv (w : AuditWorld) : Prop where
  closes : w.TrailCloses
  /-- A correlation id is drawn for one request. -/
  unique : ∀ event ∈ w.rows, ∀ event' ∈ w.rows, event.outcome = .attempted →
    event'.outcome = .attempted → event.correlation = event'.correlation →
    event.correlation.isSome → event = event'
  /-- A sweep closes what waits for an answer only after the grace period. -/
  waiting : ∀ key ∈ w.inFlight, w.Closed key → ∀ event ∈ w.rows, event.outcome = .attempted →
    event.correlation = some key → event.createdAt < w.now - staleAttemptGrace
  selected : ∀ sweep ∈ w.sweeps.rows, sweep.moment ≤ w.now
    ∧ ∀ event ∈ sweep.batch, event ∈ w.rows ∧ inRange sweep.moment event = true
  /-- Every sweep that can close something lost has it. -/
  found : ∀ sweep ∈ w.sweeps.rows, sweep.lost ≠ [] →
    ∃ event ∈ sweep.batch, ∃ key ∈ sweep.lost, event.correlation = some key
  looked : ∀ sweep ∈ w.sweeps.rows, ∀ closed, sweep.closed = some closed →
    ∀ key ∈ closed, w.Closed key
  pending : ∀ sweep ∈ w.sweeps.rows, ∀ candidate ∈ sweep.pending, ¬w.Closed candidate.1
  /-- No two sweeps are about to close one key. -/
  apart : ∀ sweep ∈ w.sweeps.rows, ∀ other ∈ w.sweeps.rows, sweep.process ≠ other.process →
    ∀ candidate ∈ sweep.pending, candidate.1 ∉ other.pending.map Prod.fst

theorem trailInv_init (h : (auditSystem limit).init w) : TrailInv w := by
  obtain ⟨hrows, hinFlight, hsweeps, hfinished⟩ := h
  refine ⟨⟨?_, ?_⟩, ?_, ?_, ?_, ?_, ?_, ?_, ?_⟩
  · intro key
    rw [terminal, hrows, filter_nil]
    exact Nat.zero_le 1
  · intro lost hlost
    rw [hfinished] at hlost
    cases hlost
  · intro event hevent
    rw [hrows] at hevent
    cases hevent
  · intro key hkey
    rw [hinFlight] at hkey
    cases hkey
  all_goals
    intro sweep hsweep
    rw [hsweeps] at hsweep
    cases hsweep

/-! ## Steps that add rows -/

variable {event : SecurityAuditEvent}

theorem inRange_iff {moment : Datetime} : inRange moment event = true ↔ event.outcome = .attempted
      ∧ event.createdAt < moment - staleAttemptGrace
      ∧ moment - staleAttemptWindow ≤ event.createdAt ∧ event.correlation.isSome := by
  rw [inRange, decide_eq_true_iff]

variable {sweep : Sweep}

theorem TrailInv.pending_attempted (h : TrailInv w) (hsweep : sweep ∈ w.sweeps.rows)
    {candidate : UUID × SecurityAuditEvent} (hcandidate : candidate ∈ sweep.pending) :
    candidate.2 ∈ w.rows ∧ candidate.2.outcome = .attempted
      ∧ candidate.2.correlation = some candidate.1
      ∧ candidate.2.createdAt < w.now - staleAttemptGrace := by
  obtain ⟨hbatch, hkey⟩ := mem_candidates (Sweep.mem_pending hcandidate)
  obtain ⟨hmoment, hselected⟩ := h.selected sweep hsweep
  obtain ⟨hmem, hrange⟩ := hselected _ hbatch
  obtain ⟨hattempted, hold, -, -⟩ := inRange_iff.mp hrange
  exact ⟨hmem, hattempted, hkey, Int.lt_of_lt_of_le hold (Int.sub_le_sub_right hmoment _)⟩

theorem Closed.mono {w' : AuditWorld} (hrows : ∀ event ∈ w.rows, event ∈ w'.rows)
    (h : w.Closed key) : w'.Closed key := by
  obtain ⟨event, hevent, hterminal⟩ := h
  exact ⟨event, hrows event hevent, hterminal⟩

theorem isTerminal_iff :
    isTerminal key event = true ↔ event.correlation = some key ∧ event.outcome ≠ .attempted := by
  rw [isTerminal, decide_eq_true_iff]

def added (w : AuditWorld) (event : SecurityAuditEvent) (inFlight : List UUID) : AuditWorld :=
  { w with rows := event :: w.rows, inFlight := inFlight }

variable {inFlight : List UUID}

theorem closed_added :
    (w.added event inFlight).Closed key ↔ isTerminal key event = true ∨ w.Closed key := by
  constructor
  · rintro ⟨found, hfound, hterminal⟩
    rcases mem_cons.mp hfound with heq | hfound
    · exact .inl (heq ▸ hterminal)
    · exact .inr ⟨found, hfound, hterminal⟩
  · rintro (hterminal | ⟨found, hfound, hterminal⟩)
    · exact ⟨event, mem_cons_self, hterminal⟩
    · exact ⟨found, mem_cons_of_mem _ hfound, hterminal⟩

theorem selected_added (h : TrailInv w) :
    ∀ sweep ∈ (w.added event inFlight).sweeps.rows, sweep.moment ≤ (w.added event inFlight).now
      ∧ ∀ found ∈ sweep.batch,
        found ∈ (w.added event inFlight).rows ∧ inRange sweep.moment found = true := by
  intro sweep hsweep
  obtain ⟨hmoment, hselected⟩ := h.selected sweep hsweep
  refine ⟨hmoment, ?_⟩
  intro found hfound
  obtain ⟨hmem, hrange⟩ := hselected found hfound
  exact ⟨mem_cons_of_mem _ hmem, hrange⟩

theorem TrailInv.attempt (h : TrailInv w) {correlation : UUID} (hevent : event.outcome = .attempted)
    (hkey : event.correlation = some correlation) (hfresh : ¬w.Known correlation) :
    TrailInv (w.added event (correlation :: w.inFlight)) := by
  have hclosed : ∀ key, (w.added event (correlation :: w.inFlight)).Closed key ↔ w.Closed key := by
    intro key
    rw [closed_added, isTerminal_iff]
    constructor
    · rintro (⟨-, hne⟩ | hclosed)
      · exact absurd hevent hne
      · exact hclosed
    · exact .inr
  have hother : ∀ found ∈ w.rows, found.correlation ≠ some correlation := by
    intro found hfound heq
    exact hfresh ⟨found, hfound, heq⟩
  refine ⟨⟨?_, ?_⟩, ?_, ?_, selected_added h, h.found, ?_, ?_, h.apart⟩
  · intro key
    have hnot : ¬isTerminal key event = true := by
      rw [isTerminal_iff]
      exact fun hterminal => hterminal.2 hevent
    show ((event :: w.rows).filter _).length ≤ 1
    rw [filter_cons_of_neg hnot]
    exact h.closes.once key
  · intro lost hlost hne
    obtain ⟨key, hkey, hthere⟩ := h.closes.progress lost hlost hne
    exact ⟨key, hkey, (hclosed key).mpr hthere⟩
  · intro found hfound found' hfound' hattempted hattempted' heq hsome
    rcases mem_cons.mp hfound with hnew | hold
    · rcases mem_cons.mp hfound' with hnew' | hold'
      · exact hnew.trans hnew'.symm
      rw [hnew, hkey] at heq
      exact absurd heq.symm (hother found' hold')
    · rcases mem_cons.mp hfound' with hnew' | hold'
      · rw [hnew', hkey] at heq
        exact absurd heq (hother found hold)
      · exact h.unique found hold found' hold' hattempted hattempted' heq hsome
  · intro key hmem hthere found hfound hattempted hcorrelation
    rw [hclosed] at hthere
    have hne : key ≠ correlation := by
      intro heq
      exact hfresh (heq ▸ hthere.known)
    have hmem : key ∈ w.inFlight := (mem_cons.mp hmem).resolve_left hne
    rcases mem_cons.mp hfound with rfl | hfound
    · exact absurd (Option.some.inj (hcorrelation.symm.trans hkey)) hne
    · exact h.waiting key hmem hthere found hfound hattempted hcorrelation
  · intro sweep hsweep closed hlooked key hkey
    exact (hclosed key).mpr (h.looked sweep hsweep closed hlooked key hkey)
  · intro sweep hsweep candidate hcandidate
    rw [hclosed]
    exact h.pending sweep hsweep candidate hcandidate

theorem TrailInv.outcome (h : TrailInv w) (correlation : UUID)
    (hevent : isTerminal correlation event = true) (hopen : ¬w.Closed correlation)
    (hpending : ∀ sweep ∈ w.sweeps.rows, ∀ candidate ∈ sweep.pending, candidate.1 ≠ correlation)
    (hflight : ∀ key ∈ inFlight, key ∈ w.inFlight)
    (hwait : ∀ found ∈ w.rows, found.correlation = some correlation → correlation ∉ inFlight) :
    TrailInv (w.added event inFlight) := by
  obtain ⟨hkey, hanswer⟩ := isTerminal_iff.mp hevent
  have hclosed : ∀ key, (w.added event inFlight).Closed key ↔ key = correlation ∨ w.Closed key := by
    intro key
    rw [closed_added, isTerminal_iff]
    constructor
    · rintro (⟨heq, -⟩ | hclosed)
      · exact .inl (Option.some.inj (heq.symm.trans hkey))
      · exact .inr hclosed
    · rintro (rfl | hclosed)
      · exact .inl ⟨hkey, hanswer⟩
      · exact .inr hclosed
  refine ⟨⟨?_, ?_⟩, ?_, ?_, selected_added h, h.found, ?_, ?_, h.apart⟩
  · intro key
    show ((event :: w.rows).filter _).length ≤ 1
    by_cases hsame : key = correlation
    · have hnone : w.rows.filter (isTerminal key) = [] := by
        by_contra hne
        exact hopen (hsame ▸ closed_iff_terminal.mpr hne)
      rw [filter_cons_of_pos (hsame ▸ hevent), hnone]
      exact Nat.le_refl 1
    · have hnot : ¬isTerminal key event = true := by
        rw [isTerminal_iff]
        intro hterminal
        exact hsame (Option.some.inj (hterminal.1.symm.trans hkey))
      rw [filter_cons_of_neg hnot]
      exact h.closes.once key
  · intro lost hlost hne
    obtain ⟨key, hkey, hthere⟩ := h.closes.progress lost hlost hne
    exact ⟨key, hkey, (hclosed key).mpr (.inr hthere)⟩
  · intro found hfound found' hfound' hattempted hattempted' heq hsome
    rcases mem_cons.mp hfound with rfl | hfound
    · exact absurd hattempted hanswer
    rcases mem_cons.mp hfound' with rfl | hfound'
    · exact absurd hattempted' hanswer
    · exact h.unique found hfound found' hfound' hattempted hattempted' heq hsome
  · intro key hmem hthere found hfound hattempted hcorrelation
    rcases mem_cons.mp hfound with rfl | hfound
    · exact absurd hattempted hanswer
    rcases (hclosed key).mp hthere with rfl | hthere
    · exact absurd hmem (hwait found hfound hcorrelation)
    · exact h.waiting key (hflight key hmem) hthere found hfound hattempted hcorrelation
  · intro sweep hsweep closed hlooked key hkey
    exact (hclosed key).mpr (.inr (h.looked sweep hsweep closed hlooked key hkey))
  · intro sweep hsweep candidate hcandidate hthere
    rcases (hclosed _).mp hthere with heq | hthere
    · exact hpending sweep hsweep candidate hcandidate heq
    · exact h.pending sweep hsweep candidate hcandidate hthere

/-! ## What a selection has -/

theorem mem_lost (hevent : event ∈ w.rows) (hrange : inRange w.now event = true)
    (hopen : ¬w.HasOutcome event) : ∃ key ∈ w.lost, event.correlation = some key := by
  obtain ⟨-, -, -, hsome⟩ := inRange_iff.mp hrange
  obtain ⟨key, hkey⟩ := isSome_iff_exists.mp hsome
  refine ⟨key, mem_filter.mpr ⟨?_, ?_⟩, hkey⟩
  · exact mem_filterMap.mpr ⟨event, mem_filter.mpr ⟨hevent, hrange⟩, hkey⟩
  · exact decide_eq_true fun hclosed => hopen ⟨key, hkey, hclosed⟩

theorem selected_lost {batch : List SecurityAuditEvent} (hbatch : Selected w.rows w.now limit batch)
    (hevent : event ∈ w.rows) (hrange : inRange w.now event = true) (hopen : ¬w.HasOutcome event)
    (hahead : (w.ahead event).length < limit) : ∃ found ∈ batch, ¬w.HasOutcome found := by
  by_cases hmem : event ∈ batch
  · exact ⟨event, hmem, hopen⟩
  by_contra hnone
  have hahead' : batch ⊆ w.ahead event := by
    intro found hfound
    obtain ⟨hrow, hfoundRange⟩ := hbatch.inRange found hfound
    have houtcome : w.HasOutcome found := by
      by_contra hnot
      exact hnone ⟨found, hfound, hnot⟩
    have holdest := hbatch.oldest found hfound event hevent hrange hmem
    exact mem_filter.mpr ⟨hrow, decide_eq_true ⟨hfoundRange, houtcome, holdest⟩⟩
  have hfew := (hbatch.nodup.subperm hahead').length_le
  -- fewer than the limit are all there are, and the lost row is one of these
  have hall : batch ⊆ w.rows.filter (inRange w.now) := by
    intro found hfound
    exact mem_filter.mpr (hbatch.inRange found hfound)
  have hsize := hbatch.size
  have hperm := (hbatch.nodup.subperm hall).perm_of_length_le (by omega)
  exact hmem (hperm.mem_iff.mpr (mem_filter.mpr ⟨hevent, hrange⟩))

/-! ## Steps of a sweep -/

theorem TrailInv.tick (h : TrailInv w) {now : Datetime} (hnow : w.now ≤ now) :
    TrailInv { w with now := now } := by
  refine ⟨⟨h.closes.once, h.closes.progress⟩, h.unique, ?_, ?_, h.found, h.looked, h.pending,
    h.apart⟩
  · intro key hkey hclosed event hevent hattempted hcorrelation
    have hold := h.waiting key hkey hclosed event hevent hattempted hcorrelation
    exact Int.lt_of_lt_of_le hold (Int.sub_le_sub_right hnow _)
  · intro sweep hsweep
    obtain ⟨hmoment, hselected⟩ := h.selected sweep hsweep
    exact ⟨Int.le_trans hmoment hnow, hselected⟩

theorem TrailInv.fewer (h : TrailInv w) (hsub : ∀ key ∈ inFlight, key ∈ w.inFlight) :
    TrailInv { w with inFlight := inFlight } := by
  refine ⟨⟨h.closes.once, h.closes.progress⟩, h.unique, ?_, h.selected, h.found, h.looked,
    h.pending, h.apart⟩
  intro key hkey
  exact h.waiting key (hsub key hkey)

theorem TrailInv.erase (h : TrailInv w) (process : Nat) :
    TrailInv { w with sweeps := w.sweeps.erase process } := by
  have hsub : ∀ sweep ∈ (w.sweeps.erase process).rows, sweep ∈ w.sweeps.rows := by
    intro sweep hsweep
    exact (mem_erase.mp hsweep).1
  refine ⟨⟨h.closes.once, h.closes.progress⟩, h.unique, h.waiting, ?_, ?_, ?_, ?_, ?_⟩
  · intro sweep hsweep
    exact h.selected sweep (hsub sweep hsweep)
  · intro sweep hsweep
    exact h.found sweep (hsub sweep hsweep)
  · intro sweep hsweep
    exact h.looked sweep (hsub sweep hsweep)
  · intro sweep hsweep
    exact h.pending sweep (hsub sweep hsweep)
  · intro sweep hsweep other hother
    exact h.apart sweep (hsub sweep hsweep) other (hsub other hother)

theorem TrailInv.select (h : TrailInv w) {process : Nat} {batch : List SecurityAuditEvent}
    (hbatch : Selected w.rows w.now limit batch)
    (hintime : w.InTime limit (.select process batch)) :
    TrailInv (w.next (.select process batch)) := by
  have hpending : Sweep.pending ⟨process, w.now, batch, none, w.lost⟩ = [] := rfl
  refine ⟨⟨h.closes.once, h.closes.progress⟩, h.unique, h.waiting, ?_, ?_, ?_, ?_, ?_⟩
  · intro sweep hsweep
    rcases mem_insert hsweep with rfl | hsweep
    · exact ⟨Int.le_refl _, hbatch.inRange⟩
    · exact h.selected sweep hsweep
  · intro sweep hsweep hlost
    rcases mem_insert hsweep with rfl | hsweep
    · obtain ⟨event, hevent, hrange, hopen, hahead⟩ := hintime hlost
      obtain ⟨found, hfound, hnot⟩ := selected_lost hbatch hevent hrange hopen hahead
      obtain ⟨hrow, hfoundRange⟩ := hbatch.inRange found hfound
      obtain ⟨key, hkey, hcorrelation⟩ := mem_lost hrow hfoundRange hnot
      exact ⟨found, hfound, key, hkey, hcorrelation⟩
    · exact h.found sweep hsweep hlost
  · intro sweep hsweep closed hlooked
    rcases mem_insert hsweep with rfl | hsweep
    · cases hlooked
    · exact h.looked sweep hsweep closed hlooked
  · intro sweep hsweep candidate hcandidate
    rcases mem_insert hsweep with rfl | hsweep
    · rw [hpending] at hcandidate
      cases hcandidate
    · exact h.pending sweep hsweep candidate hcandidate
  · intro sweep hsweep other hother hne candidate hcandidate hmem
    rcases mem_insert hsweep with rfl | hsweep
    · rw [hpending] at hcandidate
      cases hcandidate
    · rcases mem_insert hother with rfl | hother
      · rw [hpending] at hmem
        cases hmem
      · exact h.apart sweep hsweep other hother hne candidate hcandidate hmem

theorem TrailInv.check (h : TrailInv w) (hsweep : w.sweeps.lookup sweep.process = some sweep)
    (hintime : w.InTime limit (.check sweep.process)) :
    TrailInv { w with
      sweeps := w.sweeps.put { sweep with closed := some (closedKeys w.rows sweep.batch) } } := by
  have hrow := mem_of_lookup hsweep
  have hclear := hintime sweep hsweep
  refine ⟨⟨h.closes.once, h.closes.progress⟩, h.unique, h.waiting, ?_, ?_, ?_, ?_, ?_⟩
  · intro found hfound
    rcases mem_put hfound with ⟨rfl, -⟩ | ⟨hfound, -⟩
    · exact h.selected sweep hrow
    · exact h.selected found hfound
  · intro found hfound
    rcases mem_put hfound with ⟨rfl, -⟩ | ⟨hfound, -⟩
    · exact h.found sweep hrow
    · exact h.found found hfound
  · intro found hfound closed hlooked key hkey
    rcases mem_put hfound with ⟨rfl, -⟩ | ⟨hfound, -⟩
    · cases hlooked
      exact any_eq_true.mp (mem_filter.mp hkey).2
    · exact h.looked found hfound closed hlooked key hkey
  · intro found hfound candidate hcandidate
    rcases mem_put hfound with ⟨rfl, -⟩ | ⟨hfound, -⟩
    · exact (pending_checked hcandidate).2
    · exact h.pending found hfound candidate hcandidate
  · intro found hfound other hother hne candidate hcandidate hmem
    rcases mem_put hfound with ⟨rfl, -⟩ | ⟨hfound, hfoundNe⟩
    · rcases mem_put hother with ⟨rfl, -⟩ | ⟨hother, hotherNe⟩
      · exact hne rfl
      -- what another sweep is about to close is not among what this one selected
      obtain ⟨candidate', hcandidate', heq⟩ := mem_map.mp hmem
      refine hclear other hother hotherNe candidate' hcandidate' ?_
      rw [heq]
      exact mem_map_of_mem (pending_checked hcandidate).1
    · rcases mem_put hother with ⟨rfl, -⟩ | ⟨hother, hotherNe⟩
      · obtain ⟨candidate', hcandidate', heq⟩ := mem_map.mp hmem
        refine hclear found hfound hfoundNe candidate hcandidate ?_
        rw [← heq]
        exact mem_map_of_mem (pending_checked hcandidate').1
      · exact h.apart found hfound other hother hne candidate hcandidate hmem

def swept (w : AuditWorld) (sweep : Sweep) (newId : UUID → UUID) : AuditWorld :=
  { w with
    rows := sweep.pending.map (fun candidate =>
      closingRow newId w.now candidate.1 candidate.2) ++ w.rows
    sweeps := w.sweeps.erase sweep.process
    finished := sweep.lost :: w.finished }

variable {newId : UUID → UUID}

theorem closed_swept :
    (w.swept sweep newId).Closed key ↔ key ∈ sweep.pending.map Prod.fst ∨ w.Closed key := by
  constructor
  · rintro ⟨event, hevent, hterminal⟩
    rcases mem_append.mp hevent with hnew | hold
    · obtain ⟨candidate, hcandidate, heq⟩ := mem_map.mp hnew
      rw [← heq, isTerminal_closingRow] at hterminal
      exact .inl (mem_map.mpr ⟨candidate, hcandidate, hterminal⟩)
    · exact .inr ⟨event, hold, hterminal⟩
  · rintro (hmem | hclosed)
    · obtain ⟨candidate, hcandidate, heq⟩ := mem_map.mp hmem
      refine ⟨closingRow newId w.now candidate.1 candidate.2, ?_, isTerminal_closingRow.mpr heq⟩
      exact mem_append_left _ (mem_map.mpr ⟨candidate, hcandidate, rfl⟩)
    · exact hclosed.mono fun event hevent => mem_append_right _ hevent

theorem candidate_swept (h : TrailInv w) (hsweep : sweep ∈ w.sweeps.rows)
    (hlooked : sweep.closed.isSome) (hkey : key ∈ (candidates sweep.batch).map Prod.fst) :
    (w.swept sweep newId).Closed key := by
  obtain ⟨closed, hclosed⟩ := isSome_iff_exists.mp hlooked
  obtain ⟨candidate, hcandidate, heq⟩ := mem_map.mp hkey
  rw [closed_swept]
  by_cases hmem : key ∈ closed
  · exact .inr (h.looked sweep hsweep closed hclosed key hmem)
  refine .inl (mem_map.mpr ⟨candidate, ?_, heq⟩)
  unfold Sweep.pending
  rw [hclosed]
  exact mem_filter.mpr ⟨hcandidate, decide_eq_true (heq ▸ hmem)⟩

theorem once_swept (h : TrailInv w) (hsweep : sweep ∈ w.sweeps.rows) (key : UUID) :
    ((w.swept sweep newId).terminal key).length ≤ 1 := by
  show ((_ ++ w.rows).filter _).length ≤ 1
  rw [filter_append, length_append]
  by_cases hmem : key ∈ sweep.pending.map Prod.fst
  · have hone := terminal_closing_le sweep.pending_nodup newId w.now key
    obtain ⟨candidate, hcandidate, heq⟩ := mem_map.mp hmem
    have hnone : w.rows.filter (isTerminal key) = [] := by
      by_contra hne
      exact h.pending sweep hsweep candidate hcandidate (heq ▸ closed_iff_terminal.mpr hne)
    rw [hnone, length_nil]
    omega
  · rw [terminal_closing_of_not_mem hmem, length_nil, Nat.zero_add]
    exact h.closes.once key

theorem TrailInv.commit (h : TrailInv w) (hsweep : sweep ∈ w.sweeps.rows)
    (hlooked : sweep.closed.isSome) (newId : UUID → UUID) : TrailInv (w.swept sweep newId) := by
  have hattempted : ∀ event ∈ (w.swept sweep newId).rows, event.outcome = .attempted →
      event ∈ w.rows := by
    intro event hevent houtcome
    rcases mem_append.mp hevent with hnew | hold
    · obtain ⟨candidate, -, heq⟩ := mem_map.mp hnew
      rw [← heq] at houtcome
      cases houtcome
    · exact hold
  have hsub : ∀ other ∈ (w.swept sweep newId).sweeps.rows,
      other ∈ w.sweeps.rows ∧ other.process ≠ sweep.process := by
    intro other hother
    exact mem_erase.mp hother
  refine ⟨⟨once_swept h hsweep, ?_⟩, ?_, ?_, ?_, ?_, ?_, ?_, ?_⟩
  · intro lost hlost hne
    rcases mem_cons.mp hlost with rfl | hlost
    · obtain ⟨event, hevent, key, hkey, hcorrelation⟩ := h.found sweep hsweep hne
      exact ⟨key, hkey, candidate_swept h hsweep hlooked (mem_keys_candidates hevent hcorrelation)⟩
    · obtain ⟨key, hkey, hclosed⟩ := h.closes.progress lost hlost hne
      exact ⟨key, hkey, closed_swept.mpr (.inr hclosed)⟩
  · intro event hevent event' hevent' houtcome houtcome'
    exact h.unique event (hattempted event hevent houtcome) event'
      (hattempted event' hevent' houtcome') houtcome houtcome'
  · intro key hkey hclosed event hevent houtcome hcorrelation
    have hevent := hattempted event hevent houtcome
    rcases closed_swept.mp hclosed with hpending | hclosed
    · -- it is the row that the sweep selected, which was old enough then
      obtain ⟨candidate, hcandidate, heq⟩ := mem_map.mp hpending
      obtain ⟨hrow, hfirst, hsame, hold⟩ := h.pending_attempted hsweep hcandidate
      rw [heq] at hsame
      have hevents := h.unique event hevent candidate.2 hrow houtcome hfirst
        (hcorrelation.trans hsame.symm) (isSome_of_eq_some hcorrelation)
      rw [hevents]
      exact hold
    · exact h.waiting key hkey hclosed event hevent houtcome hcorrelation
  · intro other hother
    obtain ⟨hmoment, hselected⟩ := h.selected other (hsub other hother).1
    refine ⟨hmoment, ?_⟩
    intro event hevent
    obtain ⟨hrow, hrange⟩ := hselected event hevent
    exact ⟨mem_append_right _ hrow, hrange⟩
  · intro other hother
    exact h.found other (hsub other hother).1
  · intro other hother closed hclosed key hkey
    exact closed_swept.mpr (.inr (h.looked other (hsub other hother).1 closed hclosed key hkey))
  · intro other hother candidate hcandidate hclosed
    obtain ⟨hother, hne⟩ := hsub other hother
    rcases closed_swept.mp hclosed with hmem | hclosed
    · exact h.apart other hother sweep hsweep hne candidate hcandidate hmem
    · exact h.pending other hother candidate hcandidate hclosed
  · intro other hother other' hother'
    exact h.apart other (hsub other hother).1 other' (hsub other' hother').1

/-! ## Every history -/

theorem TrailInv.next (h : TrailInv w) {event : AuditStep} (henabled : w.Enabled limit event)
    (hintime : w.InTime limit event) : TrailInv (w.next event) := by
  cases event with
  | tick now => exact h.tick henabled
  | reject id correlation subject reasonCode =>
    refine h.outcome correlation (isTerminal_iff.mpr ⟨rfl, ?_⟩) ?_ ?_ ?_ ?_
    · nofun
    · exact fun hclosed => henabled hclosed.known
    · intro sweep hsweep candidate hcandidate heq
      obtain ⟨hrow, -, hkey, -⟩ := h.pending_attempted hsweep hcandidate
      exact henabled ⟨candidate.2, hrow, heq ▸ hkey⟩
    · exact fun key hkey => hkey
    intro found hfound hkey
    exact absurd ⟨found, hfound, hkey⟩ henabled
  | attempt id correlation subject => exact h.attempt rfl rfl henabled
  | respond id correlation subject succeeded =>
    obtain ⟨event, hevent, hattempted, hkey, hrecent⟩ := hintime
    refine h.outcome correlation (isTerminal_iff.mpr ⟨rfl, ?_⟩) ?_ ?_ ?_ ?_
    · cases succeeded
      · nofun
      · nofun
    · intro hclosed
      have hold := h.waiting correlation henabled hclosed event hevent hattempted hkey
      exact Int.not_lt.mpr hrecent hold
    · intro sweep hsweep candidate hcandidate heq
      obtain ⟨hrow, hfirst, hsame, hold⟩ := h.pending_attempted hsweep hcandidate
      have hevents := h.unique event hevent candidate.2 hrow hattempted hfirst
        (hkey.trans (heq ▸ hsame.symm)) (isSome_of_eq_some hkey)
      rw [← hevents] at hold
      exact Int.not_lt.mpr hrecent hold
    · intro key hmem
      exact mem_of_mem_filter hmem
    · intro found hfound hcorrelation hmem
      exact of_decide_eq_true (mem_filter.mp hmem).2 rfl
  | abandon correlation => exact h.fewer fun key hkey => mem_of_mem_filter hkey
  | select process batch => exact h.select henabled.2 hintime
  | check process =>
    obtain ⟨sweep, hsweep, -⟩ := henabled
    obtain rfl : sweep.process = process := key_of_lookup hsweep
    simp only [AuditWorld.next, hsweep]
    exact h.check hsweep hintime
  | commit process newId =>
    obtain ⟨sweep, hsweep, hlooked⟩ := henabled
    obtain rfl : sweep.process = process := key_of_lookup hsweep
    simp only [AuditWorld.next, hsweep]
    exact h.commit (mem_of_lookup hsweep) hlooked newId
  | fail process => exact h.erase process

instance (w : AuditWorld) (limit : Nat) (event : AuditStep) : Decidable (w.InTime limit event) :=
  match event with
  | .respond _ correlation _ _ =>
    inferInstanceAs (Decidable (∃ event ∈ w.rows, event.outcome = .attempted
      ∧ event.correlation = some correlation ∧ w.now - staleAttemptGrace ≤ event.createdAt))
  | .select _ _ =>
    inferInstanceAs (Decidable (w.lost ≠ [] → ∃ event ∈ w.rows, inRange w.now event = true
      ∧ ¬w.HasOutcome event ∧ (w.ahead event).length < limit))
  | .check process =>
    inferInstanceAs (Decidable (∀ sweep ∈ w.sweeps.lookup process,
      ∀ other ∈ w.sweeps.rows, other.process ≠ process →
        ∀ candidate ∈ other.pending, candidate.1 ∉ (candidates sweep.batch).map Prod.fst))
  | .tick _ => inferInstanceAs (Decidable True)
  | .reject _ _ _ _ => inferInstanceAs (Decidable True)
  | .attempt _ _ _ => inferInstanceAs (Decidable True)
  | .abandon _ => inferInstanceAs (Decidable True)
  | .commit _ _ => inferInstanceAs (Decidable True)
  | .fail _ => inferInstanceAs (Decidable True)

theorem trailInv_reachable
    (hreach : ((auditSystem limit).restrict fun w => w.InTime limit).Reachable w) : TrailInv w := by
  induction hreach with
  | init hinit => exact trailInv_init (show (auditSystem limit).init _ from hinit)
  | tail _ hstep ih =>
    obtain ⟨hintime, henabled, hnext⟩ := hstep
    rw [hnext]
    exact ih.next henabled hintime

/-- **Where every step is in time, the trail closes.** -/
theorem trail_closes (hreach : ((auditSystem limit).restrict fun w => w.InTime limit).Reachable w) :
    w.TrailCloses :=
  (trailInv_reachable hreach).closes

/-! ## Runs -/

def start : AuditWorld := ⟨0, [], [], .empty, []⟩

def someone : AuditSubject := ⟨"", "", none, "", "", none, none⟩

def attemptAt (now : Datetime) (id correlation : UUID) : SecurityAuditEvent :=
  ⟨id, someone, .attempted, none, some correlation, none, now⟩

def sweepOf (batch : List SecurityAuditEvent) : List AuditStep :=
  [.select 0 batch, .check 0, .commit 0 id]

theorem start_init (limit : Nat) : (auditSystem limit).init start := ⟨rfl, rfl, rfl, rfl⟩

theorem lost_outcome_closed :
    ∃ w, ((auditSystem staleAttemptBatch).restrict fun w => w.InTime staleAttemptBatch).Reachable w
      ∧ w.finished = [[1]] ∧ w.Closed 1 ∧ w.TrailCloses := by
  let events : List AuditStep :=
    [.attempt 11 1 someone, .abandon 1, .tick (timedeltaSeconds 3601)]
      ++ sweepOf [attemptAt 0 11 1]
  have hsteps : System.Along (fun w event =>
      w.InTime staleAttemptBatch event ∧ w.Enabled staleAttemptBatch event)
      next start events := by decide +kernel
  have hstep : ∀ w event,
      (w.InTime staleAttemptBatch event ∧ w.Enabled staleAttemptBatch event) →
        ((auditSystem staleAttemptBatch).restrict fun w => w.InTime staleAttemptBatch).step w event
          (w.next event) := fun _ _ hok => ⟨hok.1, hok.2, rfl⟩
  have hreach := System.reachable_along hstep (.init (start_init staleAttemptBatch)) hsteps
  exact ⟨_, hreach, by decide +kernel, by decide +kernel, trail_closes hreach⟩

/-- The steps of mutations that are answered at once. -/
def answered (count : Nat) : List AuditStep :=
  (List.range count).flatMap fun n =>
    [.attempt ⟨n⟩ ⟨n⟩ someone, .respond ⟨count + n⟩ ⟨n⟩ someone true]

/-- A slow request is closed twice, and one lost behind many answered ones stays lost. -/
theorem trail_stays_open :
    (∃ w, (auditSystem staleAttemptBatch).Reachable w ∧ 1 < (w.terminal 1).length)
      ∧ ∃ w, (auditSystem staleAttemptBatch).Reachable w
        ∧ w.finished = [[100]] ∧ ¬w.Closed 100 := by
  have hstep : ∀ w event, w.Enabled staleAttemptBatch event →
      (auditSystem staleAttemptBatch).step w event (w.next event) := fun _ _ hok => ⟨hok, rfl⟩
  constructor
  · let events : List AuditStep :=
      [.attempt 11 1 someone, .tick (timedeltaSeconds 3601)]
        ++ sweepOf [attemptAt 0 11 1] ++ [.respond 12 1 someone true]
    have hsteps : System.Along (fun w event => w.Enabled staleAttemptBatch event) next start
        events := by decide +kernel
    have hreach := System.reachable_along hstep (.init (start_init staleAttemptBatch)) hsteps
    exact ⟨_, hreach, by decide +kernel⟩
  · let events : List AuditStep :=
      answered 50
        ++ [.tick 1, .attempt 200 100 someone, .abandon 100, .tick (timedeltaSeconds 3602)]
        ++ sweepOf ((List.range 50).map fun n => attemptAt 0 ⟨n⟩ ⟨n⟩)
    have hsteps : System.Along (fun w event => w.Enabled staleAttemptBatch event) next start
        events := by decide +kernel
    have hreach := System.reachable_along hstep (.init (start_init staleAttemptBatch)) hsteps
    exact ⟨_, hreach, by decide +kernel⟩

end AuditWorld

end NewsCraft.Security
