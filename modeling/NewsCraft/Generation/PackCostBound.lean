import Mathlib.Algebra.Order.Ring.Rat
import Mathlib.Tactic.Linarith
import Mathlib.Tactic.Ring
import NewsCraft.Generation.PackCost

/-!
# The budget of a pack, when failed calls cost nothing

The budget is compared with what a job carries, after the call: what the stages it went
through recorded, and nothing of the attempts that failed. So a call can be started when
what was recorded is above the budget, when a call that cost something failed.

Where no failed call recorded a cost, what a job carries is all that was recorded.
-/

namespace NewsCraft.Generation.PackCost

open Lib Table List

/-! ## Sums -/

theorem costSum_append (costs more : List Rat) :
    costSum (costs ++ more) = costSum costs + costSum more := by
  induction costs with
  | nil => simp [costSum]
  | cons cost rest ih =>
    rw [cons_append, costSum, costSum, ih]
    ring

theorem replace_of_not_mem {rows : List GenerationAttempt} {after : GenerationAttempt}
    (h : after.id ∉ rows.map GenerationAttempt.id) :
    (rows.map fun row => if row.id = after.id then after else row) = rows := by
  induction rows with
  | nil => rfl
  | cons first rest ih =>
    rw [map_cons, mem_cons, not_or] at h
    rw [map_cons, if_neg (fun heq => h.1 heq.symm), ih h.2]

theorem costSum_put {attempts : Table GenerationAttempt} {before after : GenerationAttempt}
    (h : attempts.lookup after.id = some before) :
    costSum ((attempts.put after).rows.map GenerationAttempt.costUsd)
      = costSum (attempts.rows.map GenerationAttempt.costUsd) - before.costUsd + after.costUsd := by
  have hmem := mem_of_lookup h
  have hkey : before.id = after.id := key_of_lookup h
  obtain ⟨rows, hnodup⟩ := attempts
  change (rows.map GenerationAttempt.id).Nodup at hnodup
  change costSum ((rows.map fun row => if row.id = after.id then after else row).map _)
    = costSum (rows.map _) - _ + _
  clear h
  induction rows with
  | nil => cases hmem
  | cons first rest ih =>
    rw [map_cons, nodup_cons] at hnodup
    rw [map_cons, map_cons, map_cons, costSum, costSum]
    rcases mem_cons.mp hmem with rfl | hrest
    · rw [hkey] at hnodup
      rw [if_pos hkey, replace_of_not_mem hnodup.1]
      ring
    · have hne : first.id ≠ after.id := by
        intro heq
        rw [heq, ← hkey] at hnodup
        exact hnodup.1 (mem_map_of_mem hrest)
      rw [if_neg hne, ih hnodup.2 hrest]
      ring

/-! ## When the budget holds -/

namespace PackWorld

/-- A call starts while no failed call has recorded a cost, a stage keeps its input, and no cost
is recorded above what was compared. -/
def Accounted (E : PackEnv) (w : PackWorld) : PackEvent → Prop
  | .call _ => ∀ attempt ∈ w.attempts.rows, attempt.status = .failed → attempt.costUsd = 0
  | .stage id inputHash _ _ => ∀ execution, w.executions.lookup id = some execution →
      ∀ run ∈ w.runs.rows, run.key.job = execution.job → run.key.place = execution.place →
        run.key.inputHash = inputHash
  | .answer _ (.result usage true) => ∀ effective,
      normalizeProviderUsage usage E.resolved = .ok effective → E.stored effective ≤ effective
  | _ => True

/-! ## The invariant -/

/-- The runs when the stages at the first places have succeeded. -/
structure RunsInv (runs : Table GenerationRun) (done : Nat) : Prop where
  place : ∀ run ∈ runs.rows, run.key.place ≤ done
  job : ∀ run ∈ runs.rows, run.key.job = if run.key.place = 0 then none else some 0
  one : ∀ run ∈ runs.rows, ∀ other ∈ runs.rows, run.key.place = other.key.place →
    run.key = other.key
  reached : ∀ place < done, ∃ run ∈ runs.rows, run.key.place = place
  status : ∀ run ∈ runs.rows, run.status = .succeeded ↔ run.key.place < done

/-- An attempt that runs is the active one, and one that succeeded recorded its place's cost. -/
structure AttemptsInv (w : PackWorld) (costs : List Rat) : Prop where
  running : ∀ attempt ∈ w.attempts.rows, attempt.status = .running →
    attempt.costUsd = 0 ∧ ∃ run, w.runs.lookup attempt.run = some run
      ∧ run.status = .running ∧ run.active = attempt.id
  succeeded : ∀ attempt ∈ w.attempts.rows, attempt.status = .succeeded →
    costs[attempt.run.place]? = some attempt.costUsd

def Phase.attempt : Phase → Option (StageKey × UUID)
  | .started key attemptId => some (key, attemptId)
  | .called key attemptId => some (key, attemptId)
  | _ => none

/-- An execution carries the costs of the places before its own. -/
structure ExecutionInv (w : PackWorld) (costs : List Rat) (execution : Execution) : Prop where
  place : execution.place ≤ costs.length
  carried : execution.carried = costSum (costs.take execution.place)
  job : ∀ package, execution.job = some package → package = 0
  attempt : ∀ key attemptId, Phase.attempt execution.phase = some (key, attemptId) →
    key.place = execution.place ∧ key.job = execution.job
      ∧ ∃ attempt, w.attempts.lookup attemptId = some attempt ∧ attempt.run = key
      ∧ ∀ run, w.runs.lookup key = some run → run.active = attemptId → attempt.status = .running
  returned : ∀ key cost, execution.phase = .returned key cost →
    key.place = 0 ∧ costs[0]? = some cost

/-- What was recorded is what succeeded, and at most one failed call, after which none runs. -/
structure CostInv (E : PackEnv) (most : Rat) (w : PackWorld) (costs : List Rat) (spill : Rat) :
    Prop where
  recorded : w.recorded = costSum costs + spill
  within : costSum costs ≤ most
  spilled : spill ≠ 0 → ∃ attempt ∈ w.attempts.rows, attempt.status = .failed
    ∧ attempt.costUsd = spill
  quiet : spill ≠ 0 → ∀ execution ∈ w.executions.rows, ∀ key attemptId,
    execution.phase = .called key attemptId →
      ∀ attempt, w.attempts.lookup attemptId = some attempt → attempt.status ≠ .running
  started : ∀ total ∈ w.started, total ≤ most
  runs : RunsInv w.runs costs.length
  attempts : AttemptsInv w costs
  executions : ∀ execution ∈ w.executions.rows, ExecutionInv w costs execution
  holders : ∀ execution ∈ w.executions.rows, ∀ other ∈ w.executions.rows, ∀ key key' attemptId,
    Phase.attempt execution.phase = some (key, attemptId) →
      Phase.attempt other.phase = some (key', attemptId) → execution.id = other.id
  packages : w.packages = [] ∨ ∃ cost, w.packages = [cost] ∧ costs[0]? = some cost
    ∧ ∃ run ∈ w.runs.rows, run.key.place = 0 ∧ run.artifact = true

variable {E : PackEnv} {most : Rat} {w : PackWorld} {costs : List Rat} {spill : Rat}

theorem costInv_empty (h : 0 ≤ most) : CostInv E most PackWorld.empty [] 0 where
  recorded := (add_zero (costSum [])).symm
  within := h
  spilled hne := absurd rfl hne
  quiet hne := absurd rfl hne
  started := nofun
  runs := ⟨nofun, nofun, nofun, nofun, nofun⟩
  attempts := ⟨nofun, nofun⟩
  executions := nofun
  holders := nofun
  packages := .inl rfl

/-! ## Executions come and go -/

theorem CostInv.withExecutions (h : CostInv E most w costs spill) {executions : Table Execution}
    (hsound : ∀ execution ∈ executions.rows, ExecutionInv w costs execution)
    (hheld : ∀ execution ∈ executions.rows, ∀ key attemptId,
      Phase.attempt execution.phase = some (key, attemptId) →
        ∃ other ∈ w.executions.rows, other.id = execution.id
          ∧ Phase.attempt other.phase = some (key, attemptId))
    (hcalled : spill ≠ 0 → ∀ execution ∈ executions.rows, ∀ key attemptId,
      execution.phase = .called key attemptId →
        ∃ other ∈ w.executions.rows, other.phase = .called key attemptId) :
    CostInv E most { w with executions } costs spill where
  recorded := h.recorded
  within := h.within
  spilled := h.spilled
  quiet := by
    intro hne execution hmem key attemptId hphase
    obtain ⟨other, hother, hsame⟩ := hcalled hne execution hmem key attemptId hphase
    exact h.quiet hne other hother key attemptId hsame
  started := h.started
  runs := h.runs
  attempts := ⟨h.attempts.running, h.attempts.succeeded⟩
  executions := by
    intro execution hmem
    have hexecution := hsound execution hmem
    exact ⟨hexecution.place, hexecution.carried, hexecution.job, hexecution.attempt,
      hexecution.returned⟩
  holders := by
    intro execution hmem other hmem' key key' attemptId hphase hphase'
    obtain ⟨first, hfirst, hid, hsame⟩ := hheld execution hmem key attemptId hphase
    obtain ⟨second, hsecond, hid', hsame'⟩ := hheld other hmem' key' attemptId hphase'
    rw [← hid, ← hid']
    exact h.holders first hfirst second hsecond key key' attemptId hsame hsame'
  packages := h.packages

theorem CostInv.close (h : CostInv E most w costs spill) (id : UUID) :
    CostInv E most (w.close id) costs spill := by
  refine h.withExecutions ?_ ?_ ?_
  · intro execution hmem
    exact h.executions execution (mem_erase.mp hmem).1
  · intro execution hmem key attemptId hphase
    exact ⟨execution, (mem_erase.mp hmem).1, rfl, hphase⟩
  · intro _ execution hmem key attemptId hphase
    exact ⟨execution, (mem_erase.mp hmem).1, hphase⟩

variable {execution : Execution}

theorem CostInv.withExecution (h : CostInv E most w costs spill) {executions : Table Execution}
    (hrows : ∀ row ∈ executions.rows, row = execution ∨ row ∈ w.executions.rows)
    (hsound : ExecutionInv w costs execution) (hfree : Phase.attempt execution.phase = none) :
    CostInv E most { w with executions } costs spill := by
  refine h.withExecutions ?_ ?_ ?_
  · intro row hmem
    rcases hrows row hmem with rfl | hold
    · exact hsound
    · exact h.executions row hold
  · intro row hmem key attemptId hphase
    rcases hrows row hmem with rfl | hold
    · rw [hfree] at hphase
      cases hphase
    · exact ⟨row, hold, rfl, hphase⟩
  · intro _ row hmem key attemptId hphase
    rcases hrows row hmem with rfl | hold
    · rw [hphase] at hfree
      cases hfree
    · exact ⟨row, hold, hphase⟩

theorem CostInv.put (h : CostInv E most w costs spill) (hsound : ExecutionInv w costs execution)
    (hfree : Phase.attempt execution.phase = none) :
    CostInv E most (w.put execution) costs spill :=
  h.withExecution (fun _ hmem => (mem_put hmem).imp And.left And.left) hsound hfree

theorem CostInv.insert (h : CostInv E most w costs spill) (hsound : ExecutionInv w costs execution)
    (hfree : Phase.attempt execution.phase = none) :
    CostInv E most { w with executions := w.executions.insert execution } costs spill :=
  h.withExecution (fun _ hmem => mem_insert hmem) hsound hfree

theorem CostInv.beginAt (h : CostInv E most w costs spill) (id : UUID) (job : Option Nat)
    (workflowAttempt : Nat) : CostInv E most (w.beginAt id job workflowAttempt) costs spill := by
  unfold PackWorld.beginAt
  cases job with
  | none =>
    exact h.insert ⟨Nat.zero_le _, rfl, nofun, nofun, nofun⟩ rfl
  | some package =>
    dsimp only
    cases hpackage : w.packages[package]? with
    | none => exact h
    | some cost =>
      -- The only package job has the canonical story's cost in its payload.
      rcases h.packages with hnone | ⟨first, hone, hfirst, -⟩
      · rw [hnone] at hpackage
        cases hpackage
      · rw [hone] at hpackage
        obtain ⟨hlt, hcost⟩ := List.getElem?_eq_some_iff.mp hpackage
        obtain rfl : package = 0 := by
          simp only [length_singleton] at hlt
          omega
        obtain rfl : first = cost := hcost
        obtain ⟨rest, hrest⟩ : ∃ rest, costs = first :: rest := by
          cases costs with
          | nil => cases hfirst
          | cons head rest =>
            cases hfirst
            exact ⟨rest, rfl⟩
        refine h.insert ⟨?_, ?_, ?_, nofun, nofun⟩ rfl
        · rw [hrest, length_cons]
          exact Nat.le_add_left 1 _
        · rw [hrest]
          simp [costSum]
        · intro package' hjob
          exact (Option.some.inj hjob).symm

/-! ## A stage that is reused -/

theorem costSum_take_succ {place : Nat} {cost : Rat} (h : costs[place]? = some cost) :
    costSum (costs.take (place + 1)) = costSum (costs.take place) + cost := by
  rw [take_add_one, costSum_append, h]
  simp [costSum]

variable {key : StageKey}

theorem returned_inv {cost : Rat}
    (hbefore : execution.carried = costSum (costs.take execution.place))
    (hpackage : ∀ package, execution.job = some package → package = 0)
    (hcost : costs[execution.place]? = some cost) (hplace : key.place = execution.place)
    (hjob : execution.job = none → execution.place = 0) :
    ExecutionInv w costs (returned execution key cost)
      ∧ Phase.attempt (returned execution key cost).phase = none
      ∧ (returned execution key cost).id = execution.id := by
  have hlt : execution.place < costs.length := (List.getElem?_eq_some_iff.mp hcost).1
  have hcarried : execution.carried + cost = costSum (costs.take (execution.place + 1)) := by
    rw [costSum_take_succ hcost, hbefore]
  unfold returned
  cases hcase : execution.job with
  | none =>
    refine ⟨⟨hlt, hcarried, nofun, nofun, ?_⟩, rfl, rfl⟩
    intro key' cost' hphase
    cases hphase
    have hzero := hjob hcase
    rw [hzero] at hcost
    exact ⟨hplace.trans hzero, hcost⟩
  | some package =>
    refine ⟨⟨hlt, hcarried, ?_, nofun, nofun⟩, rfl, rfl⟩
    intro package' hsame
    exact hpackage package' (hcase.trans hsame)

theorem completed_spec {attempt : GenerationAttempt} (h : w.completed key = some attempt) :
    attempt ∈ w.attempts.rows ∧ attempt.run = key ∧ attempt.status = .succeeded := by
  have hpick : ∀ (rows : List GenerationAttempt) (best : Option GenerationAttempt),
      rows.foldl laterSucceeded best = some attempt →
        best = some attempt ∨ attempt ∈ rows ∧ attempt.status = .succeeded := by
    intro rows
    induction rows with
    | nil => exact fun best hbest => .inl hbest
    | cons first rest ih =>
      intro best hbest
      rcases ih _ hbest with hfirst | ⟨hrest, hstatus⟩
      · unfold laterSucceeded at hfirst
        split_ifs at hfirst with hfailed hlater
        · exact .inl hfirst
        · exact .inl hfirst
        cases hfirst
        exact .inr ⟨mem_cons_self, not_not.mp hfailed⟩
      · exact .inr ⟨mem_cons_of_mem _ hrest, hstatus⟩
  rcases hpick _ none h with hnone | ⟨hmem, hstatus⟩
  · cases hnone
  obtain ⟨hrow, hrun⟩ := mem_filter.mp hmem
  exact ⟨hrow, by simpa using hrun, hstatus⟩

theorem CostInv.reuse (h : CostInv E most w costs spill) {usable : Bool}
    (hmem : execution ∈ w.executions.rows) (hplace : key.place = execution.place)
    (hjob : execution.job = none → execution.place = 0) :
    CostInv E most (w.reuse execution key usable) costs spill := by
  unfold PackWorld.reuse
  cases hcompleted : w.completed key with
  | none => exact h.close _
  | some attempt =>
    split_ifs
    · obtain ⟨hrow, hrun, hstatus⟩ := completed_spec hcompleted
      have hcost := h.attempts.succeeded attempt hrow hstatus
      rw [hrun, hplace] at hcost
      have hexecution := h.executions execution hmem
      obtain ⟨hsound, hfree, -⟩ :=
        returned_inv (w := w) hexecution.carried hexecution.job hcost hplace hjob
      exact h.put hsound hfree
    · exact h.close _

/-! ## A stage that is started -/

/-- The run of an attempt that runs is at the first place that is not done, and is the only one
there. -/
theorem CostInv.running_run (h : CostInv E most w costs spill) {attempt : GenerationAttempt}
    (hmem : attempt ∈ w.attempts.rows) (hrunning : attempt.status = .running) :
    ∃ run, w.runs.lookup attempt.run = some run ∧ run.status = .running
      ∧ run.active = attempt.id ∧ attempt.run.place = costs.length := by
  obtain ⟨-, run, hlookup, hstatus, hactive⟩ := h.attempts.running attempt hmem hrunning
  have hrow := mem_of_lookup hlookup
  have hkey : run.key = attempt.run := key_of_lookup hlookup
  have hle := h.runs.place run hrow
  have hopen : ¬ run.key.place < costs.length := by
    intro hlt
    have hsucceeded := (h.runs.status run hrow).mpr hlt
    rw [hstatus] at hsucceeded
    cases hsucceeded
  refine ⟨run, hlookup, hstatus, hactive, ?_⟩
  rw [← hkey]
  omega

theorem CostInv.running_unique (h : CostInv E most w costs spill) {first second : GenerationAttempt}
    (hfirst : first ∈ w.attempts.rows) (hsecond : second ∈ w.attempts.rows)
    (hrunning : first.status = .running) (hrunning' : second.status = .running) :
    first.id = second.id := by
  obtain ⟨run, hlookup, -, hactive, hplace⟩ := h.running_run hfirst hrunning
  obtain ⟨run', hlookup', -, hactive', hplace'⟩ := h.running_run hsecond hrunning'
  have hkey : run.key = first.run := key_of_lookup hlookup
  have hkey' : run'.key = second.run := key_of_lookup hlookup'
  have hsame : run.key = run'.key := by
    refine h.runs.one run (mem_of_lookup hlookup) run' (mem_of_lookup hlookup') ?_
    rw [hkey, hkey', hplace, hplace']
  have hrun : run = run' := row_unique (mem_of_lookup hlookup) (mem_of_lookup hlookup') hsame
  rw [← hactive, ← hactive', hrun]

variable {runs : Table GenerationRun} {done : Nat}

theorem RunsInv.start (h : RunsInv runs done) {fresh run : GenerationRun}
    (hkey : fresh.key = run.key) (hplace : run.key.place = done)
    (hjob : run.key.job = if run.key.place = 0 then none else some 0)
    (hone : ∀ other ∈ runs.rows, other.key.place = done → other.key = run.key)
    (hstatus : run.status ≠ .succeeded) : RunsInv ((runs.insert fresh).put run) done := by
  have hrows : ∀ row ∈ ((runs.insert fresh).put run).rows,
      row = run ∨ row ∈ runs.rows ∧ row.key ≠ run.key := by
    intro row hmem
    rcases mem_put hmem with ⟨heq, -⟩ | ⟨hinserted, hne⟩
    · exact .inl heq
    rcases mem_insert hinserted with rfl | hold
    · exact absurd hkey hne
    · exact .inr ⟨hold, hne⟩
  refine ⟨?_, ?_, ?_, ?_, ?_⟩
  · intro row hmem
    rcases hrows row hmem with heq | ⟨hold, -⟩
    · rw [heq, hplace]
    · exact h.place row hold
  · intro row hmem
    rcases hrows row hmem with heq | ⟨hold, -⟩
    · rw [heq]
      exact hjob
    · exact h.job row hold
  · intro row hmem other hmem' hsame
    rcases hrows row hmem with heq | ⟨hold, hne⟩
    · rcases hrows other hmem' with heq' | ⟨hold', hne'⟩
      · rw [heq, heq']
      rw [heq, hplace] at hsame
      rw [heq]
      exact (hone other hold' hsame.symm).symm
    · rcases hrows other hmem' with heq' | ⟨hold', hne'⟩
      · rw [heq', hplace] at hsame
        rw [heq']
        exact hone row hold hsame
      · exact h.one row hold other hold' hsame
  · intro place hlt
    obtain ⟨row, hold, hrow⟩ := h.reached place hlt
    refine ⟨row, mem_put_of_ne (mem_insert_of_mem hold) ?_, hrow⟩
    intro hsame
    have hsame' : row.key = run.key := hsame
    rw [← hrow, hsame', hplace] at hlt
    exact Nat.lt_irrefl _ hlt
  · intro row hmem
    rcases hrows row hmem with heq | ⟨hold, -⟩
    · rw [heq, hplace]
      constructor
      · intro hsucceeded
        exact absurd hsucceeded hstatus
      · intro hlt
        exact absurd hlt (Nat.lt_irrefl _)
    · exact h.status row hold

theorem lookup_upsert (runs : Table GenerationRun) {fresh run : GenerationRun}
    (hkey : fresh.key = run.key) : ((runs.insert fresh).put run).lookup run.key = some run
      ∧ ∀ key, key ≠ run.key → ((runs.insert fresh).put run).lookup key = runs.lookup key := by
  cases hlookup : runs.lookup fresh.key with
  | none =>
    obtain ⟨hself, hrest⟩ := lookup_insert (r := fresh) hlookup
    have hself' : (runs.insert fresh).lookup run.key = some fresh := by
      rw [← hkey]
      exact hself
    refine ⟨lookup_put_self (r := run) hself', ?_⟩
    intro key hne
    refine (lookup_put_of_ne hne).trans (hrest key ?_)
    intro heq
    exact hne (heq.trans hkey)
  | some found =>
    have hsame : runs.insert fresh = runs := by
      refine dif_pos ?_
      have hfound : found.key = fresh.key := key_of_lookup hlookup
      change fresh.key ∈ _
      rw [← hfound]
      exact mem_map_of_mem (mem_of_lookup hlookup)
    rw [hsame]
    rw [hkey] at hlookup
    exact ⟨lookup_put_self (r := run) hlookup, fun key hne => lookup_put_of_ne hne⟩

theorem costUsd_interrupted (key : StageKey) (attempt : GenerationAttempt) :
    (interrupted key attempt).costUsd = attempt.costUsd := by
  unfold interrupted
  split <;> rfl

theorem interrupted_run (key : StageKey) (attempt : GenerationAttempt) :
    (interrupted key attempt).run = attempt.run := by
  unfold interrupted
  split <;> rfl

theorem interrupted_running {attempt : GenerationAttempt}
    (h : (interrupted key attempt).status = .running) :
    interrupted key attempt = attempt ∧ attempt.status = .running ∧ attempt.run ≠ key := by
  unfold interrupted at h ⊢
  split_ifs at h ⊢ with hown
  refine ⟨rfl, h, ?_⟩
  intro hrun
  exact hown ⟨hrun, h⟩

theorem interrupted_of_not_running {attempt : GenerationAttempt} (h : attempt.status ≠ .running) :
    interrupted key attempt = attempt := by
  exact if_neg fun hown => h hown.2

variable {attemptId : UUID}

theorem lookup_startAttempt (execution : Execution) (key : StageKey)
    (hfree : w.attempts.lookup attemptId = none) :
    (w.startAttempt execution key attemptId).attempts.rows
        = w.newAttempt key attemptId :: w.attempts.rows.map (interrupted key)
      ∧ (w.startAttempt execution key attemptId).attempts.lookup attemptId
        = some (w.newAttempt key attemptId)
      ∧ ∀ id, id ≠ attemptId → (w.startAttempt execution key attemptId).attempts.lookup id
        = (w.attempts.lookup id).map (interrupted key) := by
  have hfree' : (w.attempts.map (interrupted key) (key_interrupted key)).lookup
      (w.newAttempt key attemptId).id = none := by
    rw [lookup_map]
    change (w.attempts.lookup attemptId).map _ = none
    rw [hfree]
    rfl
  have hinsert := lookup_insert (r := w.newAttempt key attemptId) hfree'
  refine ⟨rows_insert hfree', hinsert.1, ?_⟩
  intro id hid
  refine (hinsert.2 id hid).trans ?_
  rw [lookup_map]

theorem job_of_hasStage (hjob : ∀ package, execution.job = some package → package = 0)
    (hstage : hasStage E execution.job execution.place = true) :
    execution.job = if execution.place = 0 then none else some 0 := by
  unfold hasStage at hstage
  cases hcase : execution.job with
  | none =>
    rw [hcase] at hstage
    have hzero : execution.place = 0 := by simpa using hstage
    rw [if_pos hzero]
  | some package =>
    rw [hcase] at hstage
    have hpos : 1 ≤ execution.place ∧ execution.place ≤ E.platforms := by simpa using hstage
    rw [if_neg (by omega), hjob package hcase]

theorem CostInv.held_ne (h : CostInv E most w costs spill)
    (hfree : w.attempts.lookup attemptId = none) (hmem : execution ∈ w.executions.rows) {id : UUID}
    (hphase : Phase.attempt execution.phase = some (key, id)) : id ≠ attemptId := by
  obtain ⟨-, -, found, hfound, -⟩ := (h.executions execution hmem).attempt key id hphase
  intro heq
  rw [heq, hfree] at hfound
  cases hfound

/-- A stage is started at the first place that is not done, under a key no other run there has. -/
theorem CostInv.startAttempt (h : CostInv E most w costs spill) {inputHash : String}
    (hmem : execution ∈ w.executions.rows)
    (hstage : hasStage E execution.job execution.place = true)
    (hplace : execution.place = costs.length)
    (hone : ∀ run ∈ w.runs.rows, run.key.place = execution.place → run.key = ⟨execution.job,
      execution.place, inputHash⟩) (hfree : w.attempts.lookup attemptId = none) : CostInv E most
      (w.startAttempt execution ⟨execution.job, execution.place, inputHash⟩ attemptId) costs
      spill := by
  generalize hkey : (⟨execution.job, execution.place, inputHash⟩ : StageKey) = key at hone ⊢
  have hkeyPlace : key.place = execution.place := by rw [← hkey]
  have hkeyJob : key.job = execution.job := by rw [← hkey]
  obtain ⟨hrows, hnew, hold⟩ := lookup_startAttempt execution key hfree
  have hexecution := h.executions execution hmem
  have hjob : key.job = if key.place = 0 then none else some 0 := by
    rw [hkeyPlace, hkeyJob]
    exact job_of_hasStage hexecution.job hstage
  -- The run of the stage, made or resumed, and what it is looked up as.
  let fresh : GenerationRun := (w.runs.lookup key).getD ⟨key, .running, 0, attemptId, false⟩
  let run : GenerationRun :=
    { fresh with
      status := .running
      workflowAttempt := execution.workflowAttempt
      active := attemptId }
  have hfreshKey : fresh.key = key := by
    change ((w.runs.lookup key).getD _).key = key
    cases hlookup : w.runs.lookup key with
    | none => rfl
    | some found => exact key_of_lookup hlookup
  have hrunsTable : (w.startAttempt execution key attemptId).runs = (w.runs.insert fresh).put run :=
    rfl
  have hsameKey : fresh.key = run.key := rfl
  obtain ⟨hself, hrest⟩ := lookup_upsert w.runs hsameKey
  rw [hfreshKey] at hself hrest
  have hrun : (w.startAttempt execution key attemptId).runs.lookup key = some run := hself
  have hother : ∀ other, other ≠ key →
      (w.startAttempt execution key attemptId).runs.lookup other = w.runs.lookup other := hrest
  refine ⟨?_, h.within, ?_, ?_, h.started, ?_, ⟨?_, ?_⟩, ?_, ?_, ?_⟩
  · -- A new attempt costs nothing, and an interrupted one keeps its cost.
    have hmap : (w.attempts.rows.map (interrupted key)).map GenerationAttempt.costUsd
        = w.attempts.rows.map GenerationAttempt.costUsd := by
      rw [map_map]
      exact map_congr_left fun attempt _ => costUsd_interrupted key attempt
    unfold PackWorld.recorded
    rw [hrows, map_cons, costSum, hmap]
    change (0 : Rat) + w.recorded = _
    rw [zero_add, h.recorded]
  · intro hne
    obtain ⟨attempt, hattempt, hfailed, hcost⟩ := h.spilled hne
    have hsame : interrupted key attempt = attempt := by
      refine interrupted_of_not_running ?_
      rw [hfailed]
      decide
    refine ⟨attempt, ?_, hfailed, hcost⟩
    rw [hrows]
    exact mem_cons_of_mem _ (mem_map.mpr ⟨attempt, hattempt, hsame⟩)
  · intro hne row hrow key' id hphase attempt hlookup
    rcases mem_put hrow with ⟨heq, -⟩ | ⟨hrow', -⟩
    · rw [heq] at hphase
      cases hphase
    · have hheld : Phase.attempt row.phase = some (key', id) := by rw [hphase]; rfl
      obtain ⟨-, -, found, hfound, -⟩ := (h.executions row hrow').attempt key' id hheld
      rw [hold id (h.held_ne hfree hrow' hheld), hfound] at hlookup
      have hsame : interrupted key found = attempt := Option.some.inj hlookup
      intro hrunning
      rw [← hsame] at hrunning
      exact h.quiet hne row hrow' key' id hphase found hfound (interrupted_running hrunning).2.1
  · rw [hrunsTable]
    refine h.runs.start rfl ?_ ?_ ?_ ?_
    · rw [hfreshKey, hkeyPlace, hplace]
    · rw [hfreshKey]
      exact hjob
    · intro other hmemOther hotherPlace
      rw [hfreshKey]
      exact hone other hmemOther (hotherPlace.trans hplace.symm)
    · nofun
  · intro attempt hattempt hrunning
    rw [hrows] at hattempt
    rcases mem_cons.mp hattempt with heq | hmap
    · rw [heq]
      exact ⟨rfl, run, hrun, rfl, rfl⟩
    · obtain ⟨before, hbefore, heq⟩ := mem_map.mp hmap
      rw [← heq] at hrunning
      obtain ⟨hsame, hwas, hne⟩ := interrupted_running hrunning
      rw [← heq, hsame]
      obtain ⟨hcost, found, hfound, hstatus, hactive⟩ := h.attempts.running before hbefore hwas
      exact ⟨hcost, found, (hother _ hne).trans hfound, hstatus, hactive⟩
  · intro attempt hattempt hsucceeded
    rw [hrows] at hattempt
    rcases mem_cons.mp hattempt with heq | hmap
    · rw [heq] at hsucceeded
      cases hsucceeded
    · obtain ⟨before, hbefore, heq⟩ := mem_map.mp hmap
      have hwas : before.status = .succeeded := by
        rw [← heq] at hsucceeded
        unfold interrupted at hsucceeded
        split_ifs at hsucceeded
        exact hsucceeded
      rw [← heq, interrupted_run, costUsd_interrupted]
      exact h.attempts.succeeded before hbefore hwas
  · intro row hrow
    rcases mem_put hrow with ⟨heq, -⟩ | ⟨hrow', -⟩
    · rw [heq]
      refine ⟨hexecution.place, hexecution.carried, hexecution.job, ?_, nofun⟩
      intro key' id hphase
      cases hphase
      exact ⟨hkeyPlace, hkeyJob, _, hnew, rfl, fun _ _ _ => rfl⟩
    · have hrowInv := h.executions row hrow'
      refine ⟨hrowInv.place, hrowInv.carried, hrowInv.job, ?_, hrowInv.returned⟩
      intro key' id hphase
      obtain ⟨hat, hof, found, hfound, hfoundRun, hfoundActive⟩ := hrowInv.attempt key' id hphase
      have hid := h.held_ne hfree hrow' hphase
      refine ⟨hat, hof, interrupted key found, ?_, ?_, ?_⟩
      · rw [hold id hid, hfound]
        rfl
      · rw [interrupted_run, hfoundRun]
      intro run' hrun' hactive
      by_cases hsame : key' = key
      · rw [hsame, hrun] at hrun'
        cases hrun'
        exact absurd hactive.symm hid
      · rw [hother key' hsame] at hrun'
        have hrunning := hfoundActive run' hrun' hactive
        unfold interrupted
        rw [if_neg]
        · exact hrunning
        intro hown
        exact hsame (hfoundRun.symm.trans hown.1)
  · intro row hrow other hrow' key' key'' id hphase hphase'
    rcases mem_put hrow with ⟨heq, -⟩ | ⟨hold₁, -⟩ <;>
      rcases mem_put hrow' with ⟨heq', -⟩ | ⟨hold₂, -⟩
    · rw [heq, heq']
    · rw [heq] at hphase
      cases hphase
      exact absurd rfl (h.held_ne hfree hold₂ hphase')
    · rw [heq'] at hphase'
      cases hphase'
      exact absurd rfl (h.held_ne hfree hold₁ hphase)
    · exact h.holders row hold₁ other hold₂ key' key'' id hphase hphase'
  · rcases h.packages with hnone | ⟨cost, hpackages, hcost, found, hfound, hzero, hartifact⟩
    · exact .inl hnone
    refine .inr ⟨cost, hpackages, hcost, ?_⟩
    by_cases hsame : found.key = key
    · have hlookup : w.runs.lookup key = some found := by
        rw [← hsame]
        exact lookup_of_mem hfound
      refine ⟨run, mem_of_lookup hrun, ?_, ?_⟩
      · rw [hfreshKey, ← hsame]
        exact hzero
      · change ((w.runs.lookup key).getD _).artifact = true
        rw [hlookup]
        exact hartifact
    · refine ⟨found, ?_, hzero, hartifact⟩
      refine mem_of_lookup (k := found.key) ?_
      rw [hother _ hsame]
      exact lookup_of_mem hfound

theorem CostInv.invoke (h : CostInv E most w costs spill) {inputHash : String} {usable : Bool}
    (hmem : execution ∈ w.executions.rows)
    (hstage : hasStage E execution.job execution.place = true)
    (hinput : ∀ run ∈ w.runs.rows, run.key.job = execution.job → run.key.place = execution.place →
      run.key.inputHash = inputHash) :
    CostInv E most (w.invoke execution inputHash usable attemptId) costs spill := by
  have hexecution := h.executions execution hmem
  -- The runs at the place are of the job, and so under the key.
  have hkeys : ∀ run ∈ w.runs.rows, run.key.place = execution.place →
      run.key = ⟨execution.job, execution.place, inputHash⟩ := by
    intro run hrun hplace
    have hjob := h.runs.job run hrun
    rw [hplace] at hjob
    have hsame : run.key.job = execution.job :=
      hjob.trans (job_of_hasStage hexecution.job hstage).symm
    have hhash := hinput run hrun hsame hplace
    cases hkey : run.key
    rw [hkey] at hsame hplace hhash
    subst hsame hplace hhash
    rfl
  have hjobZero : execution.job = none → execution.place = 0 := by
    intro hnone
    unfold hasStage at hstage
    rw [hnone] at hstage
    simpa using hstage
  unfold PackWorld.invoke
  dsimp only
  cases hlookup : w.runs.lookup ⟨execution.job, execution.place, inputHash⟩ with
  | none =>
    split_ifs with htaken
    · exact h.close _
    refine h.startAttempt hmem hstage ?_ hkeys (by simpa using htaken)
    -- A place that is done has a run, and it would have been found.
    by_contra hne
    have hle := hexecution.place
    obtain ⟨run, hrun, hplace⟩ := h.runs.reached execution.place (by omega)
    have hfound := lookup_of_mem hrun
    have hkey : Keyed.key run = ⟨execution.job, execution.place, inputHash⟩ :=
      hkeys run hrun hplace
    rw [hkey, hlookup] at hfound
    cases hfound
  | some run =>
    dsimp only
    have hrun := mem_of_lookup hlookup
    have hkey : run.key = ⟨execution.job, execution.place, inputHash⟩ :=
      key_of_lookup hlookup
    split_ifs with hsucceeded hrunning htaken
    · exact h.reuse hmem rfl hjobZero
    · exact h.close _
    · exact h.close _
    refine h.startAttempt hmem hstage ?_ hkeys (by simpa using htaken)
    have hle := hexecution.place
    have hopen : ¬ run.key.place < costs.length := fun hlt =>
      hsucceeded ((h.runs.status run hrun).mpr hlt)
    rw [hkey] at hopen
    have hopen' : ¬ execution.place < costs.length := hopen
    omega

/-! ## An attempt that is over -/

theorem old_of_mem_put {before after row : GenerationRun}
    (hlookup : runs.lookup after.key = some before) (hrow : row ∈ (runs.put after).rows) :
    ∃ old ∈ runs.rows, old.key = row.key := by
  have hkey : before.key = after.key := key_of_lookup hlookup
  rcases mem_put hrow with ⟨heq, -⟩ | ⟨hold, -⟩
  · exact ⟨before, mem_of_lookup hlookup, heq ▸ hkey⟩
  · exact ⟨row, hold, rfl⟩

theorem RunsInv.write (h : RunsInv runs done) {before after : GenerationRun} {next : Nat}
    (hlookup : runs.lookup after.key = some before) (hnext : done ≤ next)
    (hreached : ∀ place < next, ∃ run ∈ (runs.put after).rows, run.key.place = place)
    (hstatus : ∀ run ∈ (runs.put after).rows, run.status = .succeeded ↔ run.key.place < next) :
    RunsInv (runs.put after) next := by
  refine ⟨?_, ?_, ?_, hreached, hstatus⟩
  · intro row hrow
    obtain ⟨old, hold, hsame⟩ := old_of_mem_put hlookup hrow
    rw [← hsame]
    exact (h.place old hold).trans hnext
  · intro row hrow
    obtain ⟨old, hold, hsame⟩ := old_of_mem_put hlookup hrow
    rw [← hsame]
    exact h.job old hold
  · intro row hrow other hother hplace
    obtain ⟨old, hold, hsame⟩ := old_of_mem_put hlookup hrow
    obtain ⟨old', hold', hsame'⟩ := old_of_mem_put hlookup hother
    rw [← hsame, ← hsame'] at hplace ⊢
    exact h.one old hold old' hold' hplace

theorem RunsInv.put (h : RunsInv runs done) {before after : GenerationRun}
    (hlookup : runs.lookup after.key = some before)
    (hstatus : after.status = .succeeded ↔ after.key.place < done) :
    RunsInv (runs.put after) done := by
  refine h.write hlookup le_rfl ?_ ?_
  · intro place hlt
    obtain ⟨row, hrow, hplace⟩ := h.reached place hlt
    by_cases hsame : row.key = after.key
    · exact ⟨after, mem_put_self hrow hsame, hsame ▸ hplace⟩
    · exact ⟨row, mem_put_of_ne hrow hsame, hplace⟩
  · intro row hrow
    rcases mem_put hrow with ⟨heq, -⟩ | ⟨hold, -⟩
    · rw [heq]
      exact hstatus
    · exact h.status row hold

theorem RunsInv.finish (h : RunsInv runs done) {before after : GenerationRun}
    (hlookup : runs.lookup after.key = some before) (hplace : after.key.place = done)
    (hstatus : after.status = .succeeded) : RunsInv (runs.put after) (done + 1) := by
  have hmem := mem_of_lookup hlookup
  have hkey : before.key = after.key := key_of_lookup hlookup
  refine h.write hlookup (Nat.le_succ done) ?_ ?_
  · intro place hlt
    by_cases hlast : place = done
    · exact ⟨after, mem_put_self hmem hkey, hplace.trans hlast.symm⟩
    obtain ⟨row, hrow, hrowPlace⟩ := h.reached place (by omega)
    refine ⟨row, mem_put_of_ne hrow ?_, hrowPlace⟩
    intro hsame
    have hsame' : row.key = after.key := hsame
    rw [hsame', hplace] at hrowPlace
    exact hlast hrowPlace.symm
  · intro row hrow
    rcases mem_put hrow with ⟨heq, -⟩ | ⟨hold, hne⟩
    · rw [heq, hstatus, hplace]
      simp
    · have hother : row.key.place ≠ done := by
        intro hsame
        refine hne (h.one row hold before hmem ?_ |>.trans hkey)
        rw [hsame, hkey, hplace]
      rw [h.status row hold]
      omega

end PackWorld

end NewsCraft.Generation.PackCost
