import NewsCraft.Telegram.DispatchFlow

/-!
# The jobs of the dispatches and their executions

A job of a dispatch carries no continuations and has no result, a job after research is
there because the research handed its result over, and no attempt is executed twice.
-/

namespace NewsCraft.Telegram.DispatchFlow

open Lib Jobs Table List

def Execution.claimed (execution : Execution) : JobKey × Nat := (execution.key, execution.attempt)

theorem Execution.claimed_eq_iff {e e' : Execution} :
    e.claimed = e'.claimed ↔ e.key = e'.key ∧ e.attempt = e'.attempt := by
  simp only [Execution.claimed, Prod.mk.injEq]

namespace FlowWorld

variable {w w' : FlowWorld}

/-- What holds of the jobs and their executions in every history. -/
structure JobsInv (jobs : Table FlowJob) (executions : Table Execution) : Prop where
  attempts : ∀ e ∈ executions.rows, ∃ job ∈ jobs.rows, job.key = e.key
    ∧ e.attempt ≤ job.attemptCount
  unique : (executions.rows.map Execution.claimed).Nodup
  process : ∀ job ∈ jobs.rows, job.key.dispatch ≠ none → job.continuations = [] ∧ job.result = none
  handed : ∀ job ∈ jobs.rows, ∀ dispatchId result, job.key = .afterResearch dispatchId result →
    ∃ research ∈ jobs.rows, research.result = some result ∧ dispatchId ∈ research.continuations
  results : ∀ job ∈ jobs.rows, ∀ job' ∈ jobs.rows, job.result ≠ none →
    job.result = job'.result → job = job'

variable {jobs jobs' : Table FlowJob} {executions executions' : Table Execution}

theorem JobsInv.eq_of_claimed (h : JobsInv jobs executions) {e e' : Execution}
    (he : e ∈ executions.rows) (he' : e' ∈ executions.rows) (hkey : e.key = e'.key)
    (hattempt : e.attempt = e'.attempt) : e = e' :=
  inj_on_of_nodup_map h.unique he he' (Execution.claimed_eq_iff.mpr ⟨hkey, hattempt⟩)

theorem JobsInv.fewer (h : JobsInv jobs executions)
    (hsub : (executions'.rows.map Execution.claimed).Sublist
      (executions.rows.map Execution.claimed)) : JobsInv jobs executions' := by
  refine ⟨fun e he => ?_, h.unique.sublist hsub, h.process, h.handed, h.results⟩
  have hclaimed := hsub.subset (mem_map_of_mem (f := Execution.claimed) he)
  obtain ⟨old, hold, heq⟩ := mem_map.mp hclaimed
  obtain ⟨hkey, hattempt⟩ := Execution.claimed_eq_iff.mp heq
  rw [← hkey, ← hattempt]
  exact h.attempts old hold

theorem JobsInv.rewritten (h : JobsInv jobs executions) {key : JobKey} {f : FlowJob → FlowJob}
    (hrows : jobs'.rows = jobs.rows.map fun job => if job.key = key then f job else job)
    (hkey : ∀ job, (f job).key = job.key)
    (hattempt : ∀ job, job.attemptCount ≤ (f job).attemptCount)
    (hsub : ∀ job, job.continuations ⊆ (f job).continuations)
    (hprocess : key.dispatch ≠ none → ∀ job,
      (f job).continuations = job.continuations ∧ (f job).result = job.result)
    (hresult : ∀ job ∈ jobs.rows, job.key = key → (f job).result = job.result
      ∨ job.result = none ∧ ∀ other ∈ jobs.rows, other.result ≠ (f job).result) :
    JobsInv jobs' executions := by
  have hmem : ∀ job', job' ∈ jobs'.rows ↔ ∃ job ∈ jobs.rows,
      (job.key = key ∧ job' = f job) ∨ (job.key ≠ key ∧ job' = job) := by
    intro job'
    rw [hrows, mem_map]
    constructor
    · intro ⟨job, hjob, heq⟩
      by_cases hk : job.key = key
      · rw [if_pos hk] at heq
        exact ⟨job, hjob, .inl ⟨hk, heq.symm⟩⟩
      · rw [if_neg hk] at heq
        exact ⟨job, hjob, .inr ⟨hk, heq.symm⟩⟩
    · intro ⟨job, hjob, hcase⟩
      rcases hcase with ⟨hk, heq⟩ | ⟨hk, heq⟩
      · exact ⟨job, hjob, by rw [if_pos hk, heq]⟩
      · exact ⟨job, hjob, by rw [if_neg hk, heq]⟩
  -- what a later row shares with the one it comes from
  have hforth : ∀ job ∈ jobs.rows, ∃ job' ∈ jobs'.rows, job'.key = job.key
      ∧ job.attemptCount ≤ job'.attemptCount ∧ job.continuations ⊆ job'.continuations
      ∧ (job.result ≠ none → job'.result = job.result) := by
    intro job hjob
    by_cases hk : job.key = key
    · refine ⟨f job, (hmem _).mpr ⟨job, hjob, .inl ⟨hk, rfl⟩⟩, hkey job, hattempt job, hsub job, ?_⟩
      intro hsome
      rcases hresult job hjob hk with hold | ⟨hnone, -⟩
      · exact hold
      · exact absurd hnone hsome
    · exact ⟨job, (hmem _).mpr ⟨job, hjob, .inr ⟨hk, rfl⟩⟩, rfl, Nat.le_refl _, fun _ h => h,
        fun _ => rfl⟩
  refine ⟨?_, h.unique, ?_, ?_, ?_⟩
  · intro e he
    obtain ⟨job, hjob, hjobKey, hle⟩ := h.attempts e he
    obtain ⟨job', hjob', hkey', hcount, -⟩ := hforth job hjob
    exact ⟨job', hjob', hkey'.trans hjobKey, by omega⟩
  · intro job' hjob' hdispatch
    obtain ⟨job, hjob, hcase⟩ := (hmem job').mp hjob'
    rcases hcase with ⟨hk, heq⟩ | ⟨-, heq⟩
    · rw [heq, hkey] at hdispatch
      obtain ⟨hcontinuations, hres⟩ := hprocess (by rw [← hk]; exact hdispatch) job
      rw [heq, hcontinuations, hres]
      exact h.process job hjob hdispatch
    · rw [heq] at hdispatch ⊢
      exact h.process job hjob hdispatch
  · intro job' hjob' dispatchId result hkey'
    have hold : ∃ job ∈ jobs.rows, job.key = job'.key := by
      obtain ⟨job, hjob, hcase⟩ := (hmem job').mp hjob'
      rcases hcase with ⟨-, heq⟩ | ⟨-, heq⟩
      · exact ⟨job, hjob, by rw [heq, hkey]⟩
      · exact ⟨job, hjob, by rw [heq]⟩
    obtain ⟨job, hjob, hjobKey⟩ := hold
    obtain ⟨research, hresearch, hres, hcontinuation⟩ :=
      h.handed job hjob dispatchId result (hjobKey.trans hkey')
    obtain ⟨research', hresearch', -, -, hsub', hres'⟩ := hforth research hresearch
    exact ⟨research', hresearch', (hres' (by rw [hres]; exact nofun)).trans hres,
      hsub' hcontinuation⟩
  · intro job₁ hjob₁ job₂ hjob₂ hsome heq
    -- a result is that of the row it comes from, or one that no row had
    have hfrom : ∀ job' ∈ jobs'.rows, ∃ job ∈ jobs.rows, job'.key = job.key
        ∧ (job'.result = job.result
          ∨ job.key = key ∧ ∀ other ∈ jobs.rows, other.result ≠ job'.result) := by
      intro job' hjob'
      obtain ⟨job, hjob, hcase⟩ := (hmem job').mp hjob'
      rcases hcase with ⟨hk, heq'⟩ | ⟨-, heq'⟩
      · rw [heq']
        rcases hresult job hjob hk with hold | ⟨-, hfresh⟩
        · exact ⟨job, hjob, hkey job, .inl hold⟩
        · exact ⟨job, hjob, hkey job, .inr ⟨hk, hfresh⟩⟩
      · exact ⟨job, hjob, by rw [heq'], .inl (by rw [heq'])⟩
    obtain ⟨old₁, hold₁, hkey₁, hres₁⟩ := hfrom job₁ hjob₁
    obtain ⟨old₂, hold₂, hkey₂, hres₂⟩ := hfrom job₂ hjob₂
    refine row_unique hjob₁ hjob₂ ?_
    show job₁.key = job₂.key
    rcases hres₁ with hres₁ | ⟨hk₁, hfresh₁⟩
    · rcases hres₂ with hres₂ | ⟨-, hfresh₂⟩
      · have hsame := h.results old₁ hold₁ old₂ hold₂ (by rw [← hres₁]; exact hsome)
          (by rw [← hres₁, ← hres₂, heq])
        rw [hkey₁, hkey₂, hsame]
      · exact absurd (hres₁.symm.trans heq) (hfresh₂ old₁ hold₁)
    · rcases hres₂ with hres₂ | ⟨hk₂, -⟩
      · exact absurd (heq.trans hres₂).symm (hfresh₁ old₂ hold₂)
      · rw [hkey₁, hkey₂, hk₁, hk₂]

theorem JobsInv.insert (h : JobsInv jobs executions) {job : FlowJob} (hresult : job.result = none)
    (hprocess : job.key.dispatch ≠ none → job.continuations = [])
    (hhanded : ∀ dispatchId result, job.key = .afterResearch dispatchId result →
      ∃ research ∈ jobs.rows, research.result = some result ∧ dispatchId ∈ research.continuations) :
    JobsInv (jobs.insert job) executions := by
  refine ⟨?_, h.unique, ?_, ?_, ?_⟩
  · intro e he
    obtain ⟨old, hold, hkey⟩ := h.attempts e he
    exact ⟨old, mem_insert_of_mem hold, hkey⟩
  · intro job' hjob' hdispatch
    rcases mem_insert hjob' with heq | hold
    · rw [heq] at hdispatch ⊢
      exact ⟨hprocess hdispatch, hresult⟩
    · exact h.process job' hold hdispatch
  · intro job' hjob' dispatchId result hkey
    have hresearch : ∃ research ∈ jobs.rows, research.result = some result
        ∧ dispatchId ∈ research.continuations := by
      rcases mem_insert hjob' with heq | hold
      · rw [heq] at hkey
        exact hhanded dispatchId result hkey
      · exact h.handed job' hold dispatchId result hkey
    obtain ⟨research, hmem, hfound⟩ := hresearch
    exact ⟨research, mem_insert_of_mem hmem, hfound⟩
  · intro job₁ hjob₁ job₂ hjob₂ hsome heq
    rcases mem_insert hjob₁ with heq₁ | hold₁
    · rw [heq₁] at hsome
      exact absurd hresult hsome
    · rcases mem_insert hjob₂ with heq₂ | hold₂
      · rw [heq₂, hresult] at heq
        exact absurd heq hsome
      · exact h.results job₁ hold₁ job₂ hold₂ hsome heq

theorem JobsInv.fanOut (h : JobsInv jobs executions) {result : UUID} {ids : List UUID}
    (hresearch : ∀ id ∈ ids, ∃ research ∈ jobs.rows, research.result = some result
      ∧ id ∈ research.continuations) : JobsInv (fanOut jobs result ids) executions := by
  induction ids generalizing jobs with
  | nil => exact h
  | cons id rest ih =>
    refine ih (h.insert rfl (fun _ => rfl) fun dispatchId result' hkey => ?_) fun id' hid' => ?_
    · cases hkey
      exact hresearch id mem_cons_self
    · obtain ⟨research, hmem, hfound⟩ := hresearch id' (mem_cons_of_mem _ hid')
      exact ⟨research, mem_insert_of_mem hmem, hfound⟩

/-! ## Steps -/

variable {id : UUID} {execution : Execution}

theorem claimed_stage (hexecution : w.executions.lookup id = some execution) (stage : Stage) :
    ((w.stage execution stage).rows.map Execution.claimed).Sublist
      (w.executions.rows.map Execution.claimed) := by
  have hmap : (w.stage execution stage).rows.map Execution.claimed
      = w.executions.rows.map Execution.claimed :=
    map_put (mem_of_lookup hexecution) rfl rfl
  rw [hmap]

theorem claimed_erase (id : UUID) : ((w.executions.erase id).rows.map Execution.claimed).Sublist
      (w.executions.rows.map Execution.claimed) :=
  filter_sublist.map _

def Jobs (w : FlowWorld) : Prop := JobsInv w.jobs w.executions

theorem Jobs.staged (h : w.Jobs) (hexecution : w.executions.lookup id = some execution)
    (stage : Stage) : JobsInv w.jobs (w.stage execution stage) :=
  h.fewer (claimed_stage hexecution stage)

theorem JobsInv.status (h : JobsInv w.jobs executions) (key : JobKey) (status : JobStatus) :
    JobsInv (w.jobStatus key status) executions :=
  h.rewritten rfl (fun _ => rfl) (fun _ => Nat.le_refl _) (fun _ _ hmem => hmem)
    (fun _ _ => ⟨rfl, rfl⟩) fun _ _ _ => .inl rfl

theorem Jobs.claim (h : w.Jobs) {key : JobKey} (henabled : w.Enabled (.claim key id)) :
    (w.next (.claim key id)).Jobs := by
  obtain ⟨hfree, job, hjob, -⟩ := henabled
  have hlookup : w.jobs.lookup key = some job := hjob
  have hkey : job.key = key := key_of_lookup hlookup
  simp only [next, hlookup]
  have hrewritten : JobsInv (w.onJob key
      (fun job => { job with status := .running, attemptCount := job.attemptCount + 1 })
      fun _ => rfl) w.executions :=
    h.rewritten rfl (fun _ => rfl) (fun _ => Nat.le_succ _) (fun _ _ hmem => hmem)
      (fun _ _ => ⟨rfl, rfl⟩) fun _ _ _ => .inl rfl
  have hrows : (w.executions.insert ⟨id, key, job.attemptCount + 1, .begun⟩).rows
      = ⟨id, key, job.attemptCount + 1, .begun⟩ :: w.executions.rows := rows_insert hfree
  refine ⟨?_, ?_, hrewritten.process, hrewritten.handed, hrewritten.results⟩
  · intro e he
    rcases mem_insert he with heq | hold
    · refine ⟨_, mem_map.mpr ⟨job, mem_of_lookup hlookup, if_pos hkey⟩, ?_⟩
      rw [heq]
      exact ⟨hkey, Nat.le_refl _⟩
    · exact hrewritten.attempts e hold
  · show ((w.executions.insert _).rows.map Execution.claimed).Nodup
    rw [hrows, map_cons, nodup_cons]
    refine ⟨fun hmem => ?_, h.unique⟩
    -- the attempts before are no later than the one the job was at
    obtain ⟨old, hold, heq⟩ := mem_map.mp hmem
    obtain ⟨hkeyOld, hattempt⟩ := Execution.claimed_eq_iff.mp heq
    obtain ⟨job', hjob', hkey', hle⟩ := h.attempts old hold
    have hsame : job' = job :=
      row_unique hjob' (mem_of_lookup hlookup) (hkey'.trans (hkeyOld.trans hkey.symm))
    rw [hsame] at hle
    dsimp only at hattempt
    omega

theorem Jobs.requestResearch (h : w.Jobs) (hexecution : w.executions.lookup id = some execution)
    (d : Dispatch) (request : String) : (w.requestResearch execution d request).Jobs := by
  have hstaged := h.staged hexecution .done
  unfold FlowWorld.requestResearch
  split
  · exact hstaged.insert rfl (fun hne => absurd rfl hne) fun _ _ hkey => by cases hkey
  rename_i job hjob
  have hkey : job.key = .research request := key_of_lookup hjob
  have hsubscribed : JobsInv (w.onJob job.key (fun job =>
      { job with
        continuations :=
          if d.id ∈ job.continuations then job.continuations else job.continuations ++ [d.id] })
      fun _ => rfl) (w.stage execution .done) := by
    refine hstaged.rewritten rfl (fun _ => rfl) (fun _ => Nat.le_refl _) (fun job id hmem => ?_)
      (fun hne => ?_) fun _ _ _ => .inl rfl
    · dsimp only
      split
      · exact hmem
      · exact mem_append_left _ hmem
    · rw [hkey] at hne
      exact absurd rfl hne
  split
  · exact hsubscribed
  rename_i result hhanded
  refine hsubscribed.insert rfl (fun _ => rfl) fun dispatchId result' hkey' => ?_
  cases hkey'
  unfold handedOver at hhanded
  split at hhanded
  · cases hhanded
  rename_i hnot
  refine ⟨_, mem_map.mpr ⟨job, mem_of_lookup hjob, if_pos rfl⟩, hhanded, ?_⟩
  show d.id ∈ if d.id ∈ job.continuations then _ else _
  rw [if_neg hnot]
  exact mem_append_right _ mem_cons_self

theorem Jobs.researched (h : w.Jobs) {result : UUID} {job : FlowJob}
    (henabled : w.Enabled (.researched id result))
    (hexecution : w.executions.lookup id = some execution)
    (hjob : w.jobs.lookup execution.key = some job) : (w.researched execution job result).Jobs := by
  obtain ⟨⟨found, hfound, hdispatch, -, found', hfound', hnone, -⟩, hfresh⟩ := henabled
  obtain rfl : execution = found := Option.some.inj (hexecution.symm.trans hfound)
  obtain rfl : job = found' := Option.some.inj (hjob.symm.trans hfound')
  have hkey : job.key = execution.key := key_of_lookup hjob
  have hrewritten : JobsInv (w.onJob job.key (fun job => { job with result := some result })
      fun _ => rfl) (w.stage execution .done) := by
    refine (h.staged hexecution .done).rewritten rfl (fun _ => rfl) (fun _ => Nat.le_refl _)
      (fun _ _ hmem => hmem) (fun hne => ?_) fun other hother hk => .inr ⟨?_, hfresh⟩
    · rw [hkey] at hne
      exact absurd hdispatch hne
    · rw [row_unique hother (mem_of_lookup hjob) hk]
      exact hnone
  refine hrewritten.fanOut fun dispatchId hmem => ?_
  exact ⟨_, mem_map.mpr ⟨job, mem_of_lookup hjob, if_pos rfl⟩, rfl, hmem⟩

theorem Jobs.next (h : w.Jobs) {event : FlowEvent} (henabled : w.Enabled event) :
    (w.next event).Jobs := by
  cases event with
  | capture d n =>
    show JobsInv (if d.status = .captured then _ else _) w.executions
    split
    · exact JobsInv.insert h rfl (fun _ => rfl) fun _ _ hkey => by cases hkey
    · exact h
  | claim key id => exact h.claim henabled
  | requestResearch id request =>
    exact withDispatch_rule h fun _ d hexecution _ => h.requestResearch hexecution d request
  | researched id result =>
    exact withJob_rule h fun _ _ hexecution hjob => h.researched henabled hexecution hjob
  | prepare _ | generated _ | report _ =>
    exact withDispatch_rule h fun _ _ hexecution _ => h.staged hexecution _
  | resume _ | shortCircuit _ | raise _ _ =>
    exact withExecution_rule h fun _ hexecution => h.staged hexecution _
  | generationFailed _ _ | check _ _ =>
    exact withDispatch_rule h fun _ _ hexecution _ => h.staged hexecution _
  | persist id revisionId approved =>
    refine withDispatch_rule h fun _ _ hexecution _ => ?_
    split
    · exact h.staged hexecution _
    · exact h
  | researchFailed id error => exact withJob_rule h fun _ _ hexecution _ => h.staged hexecution _
  | finish id =>
    exact withExecution_rule h fun execution _ =>
      (h.fewer (claimed_erase id)).status execution.key .succeeded
  | fail id =>
    exact withJob_rule h fun execution _ _ _ =>
      (h.fewer (claimed_erase id)).status execution.key _
  | vanish id => exact h.fewer (claimed_erase id)
  | expire key =>
    simp only [FlowWorld.next]
    split
    · exact h
    split
    · exact JobsInv.status h key .queued
    · exact JobsInv.status h key .failed
  | reject key => exact JobsInv.status h key .failed
  | cancel key => exact JobsInv.status h key .cancelled
  | retry key => exact JobsInv.status h key .queued

theorem jobs_reachable (hreach : flowSystem.Reachable w) : w.Jobs := by
  induction hreach with
  | init hinit =>
    rw [hinit]
    refine ⟨?_, nodup_nil, ?_, ?_, ?_⟩
    · nofun
    · nofun
    · nofun
    · nofun
  | tail _ hstep ih =>
    obtain ⟨henabled, hnext⟩ := hstep
    rw [hnext]
    exact ih.next henabled

end FlowWorld

end NewsCraft.Telegram.DispatchFlow
