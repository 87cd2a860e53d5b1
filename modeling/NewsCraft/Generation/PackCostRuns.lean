import NewsCraft.Generation.PackCostBound

/-!
# Every history of a pack

A call that is over either fails, and what it recorded is spilled, or succeeds, and what it
recorded is the cost of the next place. What is spilled is the cost of one call: the next is
not started under the condition the budget needs.
-/

namespace NewsCraft.Generation.PackCost

open Lib Table List

namespace PackWorld

variable {E : PackEnv} {most : Rat} {w : PackWorld} {costs : List Rat} {spill : Rat}

/-! ## The attempt in hand -/

variable {execution : Execution} {key : StageKey} {attemptId : UUID}

theorem CostInv.in_hand (h : CostInv E most w costs spill) {run : GenerationRun}
    {attempt : GenerationAttempt} (hmem : execution ∈ w.executions.rows)
    (hphase : Phase.attempt execution.phase = some (key, attemptId))
    (hrun : w.runs.lookup key = some run) (hattempt : w.attempts.lookup attemptId = some attempt)
    (hactive : run.active = attemptId) :
    attempt.run = key ∧ attempt.status = .running ∧ attempt.costUsd = 0
      ∧ key.place = costs.length ∧ execution.place = costs.length := by
  obtain ⟨hplace, -, found, hfound, hof, hstatus⟩ :=
    (h.executions execution hmem).attempt key attemptId hphase
  rw [hattempt] at hfound
  cases hfound
  have hrunning := hstatus run hrun hactive
  have hrow := mem_of_lookup hattempt
  obtain ⟨hcost, -⟩ := h.attempts.running attempt hrow hrunning
  obtain ⟨-, -, -, -, hlast⟩ := h.running_run hrow hrunning
  rw [hof] at hlast
  exact ⟨hof, hrunning, hcost, hlast, hplace ▸ hlast⟩

theorem CostInv.none_running (h : CostInv E most w costs spill) {before : GenerationAttempt}
    (after : GenerationAttempt) (hlookup : w.attempts.lookup after.id = some before) (hrunning : before.status = .running)
    (hover : after.status ≠ .running) :
    ∀ attempt ∈ (w.attempts.put after).rows, attempt.status ≠ .running := by
  intro attempt hmem hstatus
  have hbefore := mem_of_lookup hlookup
  have hkey : before.id = after.id := key_of_lookup hlookup
  rcases mem_put hmem with ⟨heq, -⟩ | ⟨hold, hne⟩
  · rw [heq] at hstatus
    exact hover hstatus
  · exact hne ((h.running_unique hold hbefore hstatus hrunning).trans hkey)

theorem ExecutionInv.frame {before : GenerationRun} (h : ExecutionInv w costs execution)
    (more : List Rat) (executions : Table Execution) (after : GenerationRun)
    (attempt : GenerationAttempt) (hrun : w.runs.lookup after.key = some before)
    (hactive : after.active = attempt.id)
    (hother : ∀ key, Phase.attempt execution.phase ≠ some (key, attempt.id)) :
    ExecutionInv ⟨w.runs.put after, w.attempts.put attempt, executions, w.packages, w.started⟩
      (costs ++ more) execution where
  place := by
    have hle := h.place
    rw [length_append]
    omega
  carried := by
    rw [take_append_of_le_length h.place]
    exact h.carried
  job := h.job
  attempt := by
    intro key attemptId hphase
    obtain ⟨hplace, hjob, found, hfound, hof, hstatus⟩ := h.attempt key attemptId hphase
    have hne : attemptId ≠ attempt.id := by
      intro heq
      rw [heq] at hphase
      exact hother key hphase
    refine ⟨hplace, hjob, found, ?_, hof, ?_⟩
    · exact (lookup_put_of_ne hne).trans hfound
    · intro run hlookup hown
      by_cases hsame : key = after.key
      · subst hsame
        have hself := (lookup_put_self (r := after) hrun).symm.trans hlookup
        cases hself
        exact absurd (hown.symm.trans hactive) hne
      · exact hstatus run ((lookup_put_of_ne hsame).symm.trans hlookup) hown
  returned := by
    intro key cost hphase
    obtain ⟨hplace, hcost⟩ := h.returned key cost hphase
    refine ⟨hplace, ?_⟩
    rw [getElem?_append_left]
    · exact hcost
    · exact (List.getElem?_eq_some_iff.mp hcost).1

theorem artifact_put {runs : Table GenerationRun} {before after found : GenerationRun}
    (hlookup : runs.lookup after.key = some before) (hkeep : after.artifact = before.artifact)
    (hfound : found ∈ runs.rows) (hzero : found.key.place = 0) (hartifact : found.artifact = true) :
    ∃ run ∈ (runs.put after).rows, run.key.place = 0 ∧ run.artifact = true := by
  have hbefore := mem_of_lookup hlookup
  have hkey : before.key = after.key := key_of_lookup hlookup
  by_cases hsame : found.key = after.key
  · have heq : found = before := row_unique hfound hbefore (hsame.trans hkey.symm)
    refine ⟨after, mem_put_self hfound hsame, hsame ▸ hzero, ?_⟩
    rw [hkeep, ← heq]
    exact hartifact
  · exact ⟨found, mem_put_of_ne hfound hsame, hzero, hartifact⟩

/-! ## A call that failed -/

theorem CostInv.persistFailure (h : CostInv E most w costs spill) {cost : Option Rat}
    (hmem : execution ∈ w.executions.rows)
    (hphase : Phase.attempt execution.phase = some (key, attemptId))
    (hcalled : cost = none ∨ execution.phase = .called key attemptId) :
    ∃ spill', CostInv E most ((w.persistFailure key attemptId cost).close execution.id) costs
      spill' := by
  unfold PackWorld.persistFailure
  cases hrun : w.runs.lookup key with
  | none => exact ⟨spill, h.close _⟩
  | some run =>
    cases hattempt : w.attempts.lookup attemptId with
    | none => exact ⟨spill, h.close _⟩
    | some attempt =>
      dsimp only
      by_cases hactive : run.active ≠ attemptId
      · rw [if_pos hactive]
        exact ⟨spill, h.close _⟩
      rw [if_neg hactive]
      rw [not_not] at hactive
      obtain ⟨hof, hrunning, hfree, hlast, -⟩ := h.in_hand hmem hphase hrun hattempt hactive
      have hattemptMem := mem_of_lookup hattempt
      have hattemptId : attempt.id = attemptId := key_of_lookup hattempt
      have hrunKey : run.key = key := key_of_lookup hrun
      -- What is written of the run and of the attempt.
      let endedRun : GenerationRun := { run with status := .failed }
      let failed : GenerationAttempt :=
        { attempt with
          status := .failed
          costUsd := cost.getD attempt.costUsd }
      have hoverLookup : w.runs.lookup endedRun.key = some run := by
        rw [hrunKey]
        exact hrun
      have hfailedLookup : w.attempts.lookup failed.id = some attempt := by
        rw [hattemptId]
        exact hattempt
      have hquiet := h.none_running failed hfailedLookup hrunning (by
        intro hstatus
        cases hstatus)
      have hspill : spill ≠ 0 → failed.costUsd = 0 := by
        intro hne
        rcases hcalled with hnone | hcall
        · change cost.getD attempt.costUsd = 0
          rw [hnone]
          exact hfree
        · exact absurd hrunning
            (h.quiet hne execution hmem key attemptId hcall attempt hattempt)
      refine ⟨spill + failed.costUsd, ?_, h.within, ?_, ?_, h.started, ?_, ⟨?_, ?_⟩, ?_, ?_, ?_⟩
      · have hsum := costSum_put hfailedLookup
        change costSum ((w.attempts.put failed).rows.map _) = _
        rw [hsum, hfree]
        change w.recorded - 0 + _ = _
        rw [h.recorded]
        ring
      · -- Either this call cost something, or what was spilled before stays.
        intro hne
        by_cases hzero : spill = 0
        · refine ⟨failed, mem_put_self hattemptMem rfl, rfl, ?_⟩
          rw [hzero, zero_add]
        · obtain ⟨other, hother, hfailed, hcost⟩ := h.spilled hzero
          refine ⟨other, mem_put_of_ne hother ?_, hfailed, ?_⟩
          · intro hsame
            have heq : other = attempt := row_unique hother hattemptMem hsame
            rw [heq, hrunning] at hfailed
            cases hfailed
          · rw [hcost, hspill hzero, add_zero]
      · intro _ row _ key' id _ found hfound
        exact hquiet found (mem_of_lookup hfound)
      · refine h.runs.put hoverLookup ?_
        constructor
        · nofun
        · intro hlt
          have hlt' : run.key.place < costs.length := hlt
          rw [hrunKey, hlast] at hlt'
          exact absurd hlt' (Nat.lt_irrefl _)
      · intro row hrow hstatus
        exact absurd hstatus (hquiet row hrow)
      · intro row hrow hstatus
        rcases mem_put hrow with ⟨heq, -⟩ | ⟨hold, -⟩
        · rw [heq] at hstatus
          cases hstatus
        · exact h.attempts.succeeded row hold hstatus
      · intro row hrow
        obtain ⟨hold, hne⟩ := mem_erase.mp hrow
        have hother : ∀ key', Phase.attempt row.phase ≠ some (key', failed.id) := by
          intro key' hheld
          have hheld' : Phase.attempt row.phase = some (key', attemptId) := by
            rw [hheld]
            exact congrArg (fun id => some (key', id)) hattemptId
          exact hne (h.holders row hold execution hmem key' key attemptId hheld' hphase)
        have hframe := (h.executions row hold).frame [] (w.executions.erase execution.id) endedRun
          failed hoverLookup (hactive.trans hattemptId.symm) hother
        rw [append_nil] at hframe
        exact hframe
      · intro row hrow other hother key' key'' id hheld hheld'
        exact h.holders row (mem_erase.mp hrow).1 other (mem_erase.mp hother).1
          key' key'' id hheld hheld'
      · rcases h.packages with hnone | ⟨first, hone, hfirst, found, hfound, hzero, hartifact⟩
        · exact .inl hnone
        · exact .inr ⟨first, hone, hfirst,
            artifact_put hoverLookup rfl hfound hzero hartifact⟩

/-! ## A call that succeeded -/

theorem CostInv.persistSuccess (h : CostInv E most w costs spill) {cost : Rat}
    (hmem : execution ∈ w.executions.rows) (hphase : execution.phase = .called key attemptId)
    (hcost : execution.carried + cost ≤ most) :
    ∃ costs', CostInv E most (w.persistSuccess execution key attemptId cost) costs' spill := by
  have hheld : Phase.attempt execution.phase = some (key, attemptId) := by
    rw [hphase]
    rfl
  have hexecution := h.executions execution hmem
  unfold PackWorld.persistSuccess
  cases hrun : w.runs.lookup key with
  | none => exact ⟨costs, h.close _⟩
  | some run =>
    cases hattempt : w.attempts.lookup attemptId with
    | none => exact ⟨costs, h.close _⟩
    | some attempt =>
      dsimp only
      by_cases hstop : run.active ≠ attemptId ∨ attempt.status ≠ .running
      · rw [if_pos hstop]
        exact ⟨costs, h.close _⟩
      rw [if_neg hstop]
      rw [not_or, not_not, not_not] at hstop
      obtain ⟨hactive, -⟩ := hstop
      obtain ⟨hof, hrunning, hfree, hlast, hplace⟩ :=
        h.in_hand hmem hheld hrun hattempt hactive
      have hattemptMem := mem_of_lookup hattempt
      have hattemptId : attempt.id = attemptId := key_of_lookup hattempt
      have hrunKey : run.key = key := key_of_lookup hrun
      have hkeyPlace : key.place = execution.place := hlast.trans hplace.symm
      -- The call was started, and its attempt runs, so nothing was spilled.
      have hzero : spill = 0 := by
        by_contra hne
        exact h.quiet hne execution hmem key attemptId hphase attempt hattempt hrunning
      have hcarried : execution.carried = costSum costs := by
        rw [hexecution.carried, hplace, take_length]
      let endedRun : GenerationRun := { run with status := .succeeded }
      let done : GenerationAttempt :=
        { attempt with
          status := .succeeded
          costUsd := cost }
      have hoverLookup : w.runs.lookup endedRun.key = some run := by
        rw [hrunKey]
        exact hrun
      have hdoneLookup : w.attempts.lookup done.id = some attempt := by
        rw [hattemptId]
        exact hattempt
      have hquiet := h.none_running done hdoneLookup hrunning (by
        intro hstatus
        cases hstatus)
      have hnew : (costs ++ [cost])[execution.place]? = some cost := by
        rw [hplace]
        exact getElem?_concat_length
      have hkept : ∀ (place : Nat) (found : Rat), costs[place]? = some found →
          (costs ++ [cost])[place]? = some found := by
        intro place found hfound
        rw [getElem?_append_left]
        · exact hfound
        · exact (List.getElem?_eq_some_iff.mp hfound).1
      have hjob : execution.job = none → execution.place = 0 := by
        intro hnone
        have hrunMem := mem_of_lookup hrun
        have hrunJob := h.runs.job run hrunMem
        obtain ⟨-, hsame, -⟩ := hexecution.attempt key attemptId hheld
        rw [hrunKey, hsame, hnone, hkeyPlace] at hrunJob
        by_contra hne
        rw [if_neg hne] at hrunJob
        cases hrunJob
      have hbefore : execution.carried = costSum ((costs ++ [cost]).take execution.place) := by
        rw [take_append_of_le_length hexecution.place]
        exact hexecution.carried
      let next : PackWorld :=
        { w with
          runs := w.runs.put endedRun
          attempts := w.attempts.put done
          executions := w.executions.put (returned execution key cost) }
      obtain ⟨hreturned, hnone, hid⟩ :=
        returned_inv (w := next) hbefore hexecution.job hnew hkeyPlace hjob
      refine ⟨costs ++ [cost], ?_, ?_, ?_, ?_, h.started, ?_, ⟨?_, ?_⟩, ?_, ?_, ?_⟩
      · have hsum := costSum_put hdoneLookup
        change costSum ((w.attempts.put done).rows.map _) = _
        rw [hsum, hfree, costSum_append]
        change w.recorded - 0 + cost = _
        rw [h.recorded]
        simp only [costSum]
        ring
      · rw [costSum_append, ← hcarried]
        simpa [costSum] using hcost
      · intro hne
        exact absurd hzero hne
      · intro hne
        exact absurd hzero hne
      · rw [length_append]
        exact h.runs.finish hoverLookup (by rw [← hlast, ← hrunKey]) rfl
      · intro row hrow hstatus
        exact absurd hstatus (hquiet row hrow)
      · intro row hrow hstatus
        rcases mem_put hrow with ⟨heq, -⟩ | ⟨hold, -⟩
        · rw [heq]
          rw [hof, hkeyPlace]
          exact hnew
        · exact hkept _ _ (h.attempts.succeeded row hold hstatus)
      · intro row hrow
        rcases mem_put hrow with ⟨heq, -⟩ | ⟨hold, hne⟩
        · rw [heq]
          exact hreturned
        · have hne' : row.id ≠ execution.id := fun heq => hne (heq.trans hid.symm)
          have hother : ∀ key', Phase.attempt row.phase ≠ some (key', done.id) := by
            intro key' hrowHeld
            have hrowHeld' : Phase.attempt row.phase = some (key', attemptId) := by
              rw [hrowHeld]
              exact congrArg (fun id => some (key', id)) hattemptId
            exact hne' (h.holders row hold execution hmem key' key attemptId hrowHeld' hheld)
          exact (h.executions row hold).frame [cost]
            (w.executions.put (returned execution key cost)) endedRun done hoverLookup
            (hactive.trans hattemptId.symm) hother
      · intro row hrow other hother key' key'' id hrowHeld hotherHeld
        have hold : ∀ found ∈ (w.executions.put (returned execution key cost)).rows,
            Phase.attempt found.phase ≠ none → found ∈ w.executions.rows := by
          intro found hfound hsome
          rcases mem_put hfound with ⟨heq, -⟩ | ⟨hold, -⟩
          · rw [heq, hnone] at hsome
            exact absurd rfl hsome
          · exact hold
        exact h.holders row (hold row hrow (by rw [hrowHeld]; exact Option.some_ne_none _))
          other (hold other hother (by rw [hotherHeld]; exact Option.some_ne_none _)) key'
          key'' id hrowHeld hotherHeld
      · rcases h.packages with hempty | ⟨first, hone, hfirst, found, hfound, hplace₀, hartifact⟩
        · exact .inl hempty
        · exact .inr ⟨first, hone, hkept 0 first hfirst,
            artifact_put hoverLookup rfl hfound hplace₀ hartifact⟩

/-! ## Calls and answers -/

theorem CostInv.call (h : CostInv E most w costs spill) (hmem : execution ∈ w.executions.rows)
    (hphase : execution.phase = .started key attemptId)
    (hfree : ∀ attempt ∈ w.attempts.rows, attempt.status = .failed → attempt.costUsd = 0) :
    CostInv E most { w.put { execution with phase := .called key attemptId } with
      started := w.started ++ [w.recorded] } costs spill := by
  have hzero : spill = 0 := by
    by_contra hne
    obtain ⟨attempt, hattempt, hfailed, hcost⟩ := h.spilled hne
    rw [hfree attempt hattempt hfailed] at hcost
    exact hne hcost.symm
  have hexecution := h.executions execution hmem
  have hput : CostInv E most (w.put { execution with phase := .called key attemptId }) costs
      spill := by
    refine h.withExecutions ?_ ?_ ?_
    · intro row hrow
      rcases mem_put hrow with ⟨heq, -⟩ | ⟨hold, -⟩
      · rw [heq]
        refine ⟨hexecution.place, hexecution.carried, hexecution.job, ?_, ?_⟩
        · intro key' id hheld
          cases hheld
          exact hexecution.attempt key attemptId (by rw [hphase]; rfl)
        · nofun
      · exact h.executions row hold
    · intro row hrow key' id hheld
      rcases mem_put hrow with ⟨heq, -⟩ | ⟨hold, -⟩
      · rw [heq] at hheld ⊢
        cases hheld
        exact ⟨execution, hmem, rfl, by rw [hphase]; rfl⟩
      · exact ⟨row, hold, rfl, hheld⟩
    · intro hne
      exact absurd hzero hne
  have hwithin : w.recorded ≤ most := by
    rw [h.recorded, hzero, add_zero]
    exact h.within
  refine ⟨hput.recorded, hput.within, hput.spilled, hput.quiet, ?_, hput.runs,
    ⟨hput.attempts.running, hput.attempts.succeeded⟩, ?_, hput.holders, hput.packages⟩
  · intro total htotal
    rcases mem_append.mp htotal with hold | hlast
    · exact h.started total hold
    · rw [mem_singleton.mp hlast]
      exact hwithin
  · intro row hrow
    have hrowInv := hput.executions row hrow
    exact ⟨hrowInv.place, hrowInv.carried, hrowInv.job, hrowInv.attempt, hrowInv.returned⟩

theorem checkResult_within {carried effective : Rat} {usage : ProviderUsage} {accepted : Bool}
    (hmost : E.resolved.maxPackCostUsd = some most)
    (h : checkResult E carried usage accepted = .ok effective) :
    normalizeProviderUsage usage E.resolved = .ok effective ∧ carried + effective ≤ most
      ∧ accepted = true := by
  unfold checkResult at h
  cases hcost : normalizeProviderUsage usage E.resolved with
  | error stop =>
    rw [hcost] at h
    cases h
  | ok found =>
    rw [hcost, hmost] at h
    dsimp only at h
    split_ifs at h with hover haccepted
    cases h
    exact ⟨rfl, by simpa using hover, haccepted⟩

theorem CostInv.answered (h : CostInv E most w costs spill) {answer : ProviderAnswer}
    (hmost : E.resolved.maxPackCostUsd = some most) (hmem : execution ∈ w.executions.rows)
    (hphase : execution.phase = .called key attemptId)
    (hstored : ∀ usage, answer = .result usage true → ∀ effective, normalizeProviderUsage usage
      E.resolved = .ok effective → E.stored effective ≤ effective) :
    ∃ costs' spill', CostInv E most (w.answered E execution key attemptId answer) costs'
      spill' := by
  have hheld : Phase.attempt execution.phase = some (key, attemptId) := by
    rw [hphase]
    rfl
  cases answer with
  | failed => exact ⟨costs, h.persistFailure hmem hheld (.inl rfl)⟩
  | result usage accepted =>
    unfold PackWorld.answered
    dsimp only
    cases hcheck : checkResult E execution.carried usage accepted with
    | error stop => exact ⟨costs, h.persistFailure hmem hheld (.inr hphase)⟩
    | ok effective =>
      obtain ⟨heffective, hwithin, rfl⟩ := checkResult_within hmost hcheck
      have hle := hstored usage rfl effective heffective
      have hfits : execution.carried + E.stored effective ≤ most := by linarith
      obtain ⟨costs', hcosts⟩ := h.persistSuccess hmem hphase hfits
      exact ⟨costs', spill, hcosts⟩

theorem CostInv.persistCanonical (h : CostInv E most w costs spill) {cost : Rat}
    (hmem : execution ∈ w.executions.rows) (hphase : execution.phase = .returned key cost) :
    CostInv E most (w.persistCanonical execution key cost) costs spill := by
  obtain ⟨hplace, hcost⟩ := (h.executions execution hmem).returned key cost hphase
  unfold PackWorld.persistCanonical
  cases hrun : w.runs.lookup key with
  | none => exact h.close _
  | some run =>
    dsimp only
    split_ifs with hstored
    · exact h.close _
    have hrunMem := mem_of_lookup hrun
    have hrunKey : run.key = key := key_of_lookup hrun
    -- The run is the only one of the canonical story, so no package job was enqueued yet.
    have hnone : w.packages = [] := by
      rcases h.packages with hempty | ⟨first, -, -, found, hfound, hzero, hartifact⟩
      · exact hempty
      · have hsame := h.runs.one found hfound run hrunMem (by rw [hzero, hrunKey, hplace])
        have heq : found = run := row_unique hfound hrunMem hsame
        rw [heq] at hartifact
        exact absurd hartifact hstored
    let stored : GenerationRun := { run with artifact := true }
    have hlookup : w.runs.lookup stored.key = some run := by
      rw [hrunKey]
      exact hrun
    have hclose := h.close execution.id
    refine ⟨hclose.recorded, h.within, hclose.spilled, hclose.quiet, h.started, ?_, ⟨?_, ?_⟩, ?_,
      hclose.holders, ?_⟩
    · exact h.runs.put hlookup (h.runs.status run hrunMem)
    · intro attempt hattempt hrunning
      obtain ⟨hfree, found, hfound, hstatus, hactive⟩ :=
        h.attempts.running attempt hattempt hrunning
      refine ⟨hfree, ?_⟩
      by_cases hsame : attempt.run = stored.key
      · rw [hsame] at hfound ⊢
        rw [hlookup] at hfound
        cases hfound
        exact ⟨stored, lookup_put_self hlookup, hstatus, hactive⟩
      · exact ⟨found, (lookup_put_of_ne hsame).trans hfound, hstatus, hactive⟩
    · exact h.attempts.succeeded
    · intro row hrow
      have hrowInv := hclose.executions row hrow
      refine ⟨hrowInv.place, hrowInv.carried, hrowInv.job, ?_, hrowInv.returned⟩
      intro key' id hheld
      obtain ⟨hat, hof, found, hfound, hfoundRun, hfoundActive⟩ := hrowInv.attempt key' id hheld
      refine ⟨hat, hof, found, hfound, hfoundRun, ?_⟩
      intro other hother hactive
      by_cases hsame : key' = stored.key
      · subst hsame
        have hself := (lookup_put_self (r := stored) hlookup).symm.trans hother
        cases hself
        exact hfoundActive run hlookup hactive
      · exact hfoundActive other ((lookup_put_of_ne hsame).symm.trans hother) hactive
    · refine .inr ⟨cost, ?_, hcost, stored, ?_, ?_, rfl⟩
      · change w.packages ++ [cost] = [cost]
        rw [hnone]
        rfl
      · exact mem_of_lookup (lookup_put_self hlookup)
      · change run.key.place = 0
        rw [hrunKey, hplace]

/-! ## Every history -/

theorem CostInv.next (h : CostInv E most w costs spill)
    (hmost : E.resolved.maxPackCostUsd = some most) {event : PackEvent}
    (hok : Accounted E w event) :
    ∃ costs' spill', CostInv E most (w.next E event) costs' spill' := by
  have hkeep : ∃ costs' spill', CostInv E most w costs' spill' := ⟨costs, spill, h⟩
  cases event with
  | begin id job workflowAttempt => exact ⟨costs, spill, h.beginAt id job workflowAttempt⟩
  | crash id => exact ⟨costs, spill, h.close id⟩
  | stage id inputHash usable attemptId =>
    unfold PackWorld.next
    dsimp only
    cases hlookup : w.executions.lookup id with
    | none => exact hkeep
    | some execution =>
      dsimp only
      split_ifs with hready
      · exact ⟨costs, spill, h.invoke (mem_of_lookup hlookup) hready.2
          (hok execution hlookup)⟩
      · exact hkeep
  | refuse id =>
    unfold PackWorld.next
    dsimp only
    cases hlookup : w.executions.lookup id with
    | none => exact hkeep
    | some execution =>
      have hmem := mem_of_lookup hlookup
      have hid : execution.id = id := key_of_lookup hlookup
      dsimp only
      cases hphase : execution.phase with
      | started key attemptId =>
        rw [← hid]
        exact ⟨costs, h.persistFailure hmem (by rw [hphase]; rfl) (.inl rfl)⟩
      | _ => exact hkeep
  | call id =>
    unfold PackWorld.next
    dsimp only
    cases hlookup : w.executions.lookup id with
    | none => exact hkeep
    | some execution =>
      dsimp only
      cases hphase : execution.phase with
      | started key attemptId =>
        exact ⟨costs, spill, h.call (mem_of_lookup hlookup) hphase hok⟩
      | _ => exact hkeep
  | answer id answer =>
    unfold PackWorld.next
    dsimp only
    cases hlookup : w.executions.lookup id with
    | none => exact hkeep
    | some execution =>
      dsimp only
      cases hphase : execution.phase with
      | called key attemptId =>
        refine h.answered hmost (mem_of_lookup hlookup) hphase ?_
        intro usage hanswer
        subst hanswer
        exact hok
      | _ => exact hkeep
  | persist id =>
    unfold PackWorld.next
    dsimp only
    cases hlookup : w.executions.lookup id with
    | none => exact hkeep
    | some execution =>
      dsimp only
      cases hphase : execution.phase with
      | returned key cost =>
        exact ⟨costs, spill, h.persistCanonical (mem_of_lookup hlookup) hphase⟩
      | _ => exact hkeep

theorem costInv_reachable (hmost : E.resolved.maxPackCostUsd = some most)
    (h : ((packSystem E).restrict (Accounted E)).Reachable w) :
    ∃ costs spill, CostInv E most w costs spill := by
  induction h with
  | init hinit =>
    have hempty : _ = PackWorld.empty := hinit
    rw [hempty]
    exact ⟨[], 0, costInv_empty (E.resolved.budgetPositive most hmost).le⟩
  | tail _ hstep ih =>
    obtain ⟨costs, spill, hcosts⟩ := ih
    obtain ⟨hok, hnext⟩ := hstep
    have hnext' : _ = PackWorld.next E _ _ := hnext
    rw [hnext']
    exact hcosts.next hmost hok

/-- Each call was started within the budget, so all together exceed it by one call at most. -/
def WithinBudget (E : PackEnv) (w : PackWorld) : Prop :=
  ∀ most ∈ E.resolved.maxPackCostUsd, (∀ total ∈ w.started, total ≤ most)
      ∧ (w.recorded ≤ most ∨ ∃ attempt ∈ w.attempts.rows, w.recorded ≤ most + attempt.costUsd)

/-- **The budget of a pack binds every history in which failed calls cost nothing.** -/
theorem within_budget (h : ((packSystem E).restrict (Accounted E)).Reachable w) :
    WithinBudget E w := by
  intro most hmost
  obtain ⟨costs, spill, hcosts⟩ := costInv_reachable hmost h
  refine ⟨hcosts.started, ?_⟩
  rw [hcosts.recorded]
  have hwithin := hcosts.within
  by_cases hzero : spill = 0
  · left
    rw [hzero, add_zero]
    exact hwithin
  · right
    obtain ⟨attempt, hattempt, -, hcost⟩ := hcosts.spilled hzero
    refine ⟨attempt, hattempt, ?_⟩
    rw [hcost]
    linarith

/-! ## One pack -/

/-- A pack of one platform with a budget of two. -/
def twoDollarPack : PackEnv where
  resolved :=
    { maxOutputTokens := none
      maxPackCostUsd := some 2
      pricing := none
      budgetPositive := by
        intro most hmost
        cases hmost
        norm_num }
  platforms := 1
  stored := id

/-- A worker begins the canonical job and calls for its story. -/
def callCanonical (id : UUID) (workflowAttempt : Nat) (attemptId : UUID) : List PackEvent :=
  [.begin id none workflowAttempt, .stage id "input" false attemptId, .call id]

def costing (dollars : Rat) : ProviderAnswer := .result ⟨some dollars, some 10, some 10⟩ true

theorem canonical_story_within_budget :
    ∃ w, ((packSystem twoDollarPack).restrict (Accounted twoDollarPack)).Reachable w
      ∧ w.started = [0] ∧ w.recorded = 1 ∧ WithinBudget twoDollarPack w := by
  have hreach : ((packSystem twoDollarPack).restrict (Accounted twoDollarPack)).Reachable
      ((callCanonical 1 1 11 ++ [PackEvent.answer 1 (costing 1)]).foldl
        (PackWorld.next twoDollarPack) PackWorld.empty) := by
    have hstep : ∀ w event, Accounted twoDollarPack w event →
        ((packSystem twoDollarPack).restrict (Accounted twoDollarPack)).step w event
          (w.next twoDollarPack event) := fun _ _ hok => ⟨hok, rfl⟩
    refine System.reachable_along hstep (.init rfl) ?_
    refine ⟨trivial, ?_, ?_, ?_, trivial⟩
    · nofun
    · intro attempt hattempt hfailed
      rcases mem_cons.mp hattempt with rfl | hnone
      · cases hfailed
      · cases hnone
    · intro effective _
      exact le_refl effective
  exact ⟨_, hreach, by decide +kernel, by decide +kernel, within_budget hreach⟩

/-- A call that cost three fails on the budget; an operator retries the job, and it calls again. -/
theorem failed_call_is_not_counted :
    ∃ w, (packSystem twoDollarPack).Reachable w ∧ ¬ WithinBudget twoDollarPack w := by
  let w := (callCanonical 1 1 11 ++ .answer 1 (costing 3) :: callCanonical 2 2 12).foldl
    (PackWorld.next twoDollarPack) PackWorld.empty
  have hstarted : w.started = [0, 3] := by decide +kernel
  refine ⟨w, System.reachable_foldl (fun _ _ => rfl) (.init rfl) _, ?_⟩
  intro h
  have hthree := (h 2 rfl).1 3 (by rw [hstarted]; exact mem_cons_of_mem _ mem_cons_self)
  norm_num at hthree

end PackWorld

end NewsCraft.Generation.PackCost
