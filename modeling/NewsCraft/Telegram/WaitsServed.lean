import NewsCraft.Telegram.DispatchWaits

/-!
# Waiting dispatches and their jobs, step by step

Each step keeps a job for every waiting dispatch where it is tended; the steps that are not
asked to be are the revisions, the classified errors, the ends of research and the sweep.
-/

namespace NewsCraft.Telegram.DispatchFlow

open Lib Jobs Table List

namespace FlowWorld

variable {w : FlowWorld} {id : UUID} {execution : Execution} {d : Dispatch} {job : FlowJob}

/-! ## Captures and claims -/

theorem WaitInv.capture (h : WaitInv w) {maxAttempts : Nat}
    (henabled : w.Enabled (.capture d maxAttempts)) :
    WaitInv (w.next (.capture d maxAttempts)) := by
  have hjobs := h.jobs.next henabled
  obtain ⟨hfree, hfreeJob, -, hstatus, hnone, -⟩ := henabled
  have hrows : (w.dispatches.insert d).rows = d :: w.dispatches.rows := rows_insert hfree
  have hold : ∀ job ∈ w.jobs.rows, job ∈ (w.next (.capture d maxAttempts)).jobs.rows := by
    intro job hjob
    show job ∈ (if d.status = .captured then _ else w.jobs : Table FlowJob).rows
    split
    · exact mem_insert_of_mem hjob
    · exact hjob
  refine ⟨hjobs, fun d' hd' hwaiting => ?_⟩
  have hd' : d' ∈ (w.dispatches.insert d).rows := hd'
  rw [hrows] at hd'
  rcases mem_cons.mp hd' with rfl | hmem
  · refine ⟨hnone, .queued (.process d'.id) maxAttempts [], ?_, ⟨rfl, .inl rfl⟩,
      serves_iff.mpr (.inl rfl)⟩
    have hcaptured : d'.status = .captured := by
      rcases hstatus with hcaptured | hfiltered
      · exact hcaptured
      rw [hfiltered] at hwaiting
      cases hwaiting
    show _ ∈ (if d'.status = .captured then w.jobs.insert _ else w.jobs : Table FlowJob).rows
    rw [if_pos hcaptured, rows_insert hfreeJob]
    exact mem_cons_self
  · obtain ⟨hnone', hcovered⟩ := h.waits d' hmem hwaiting
    exact ⟨hnone', hcovered.kept hold fun e he => .inl he⟩

variable {key : JobKey}

theorem WaitInv.claim (h : WaitInv w) (henabled : w.Enabled (.claim key id)) :
    WaitInv (w.next (.claim key id)) := by
  have hjobs := h.jobs.next henabled
  obtain ⟨-, job, hjob, -⟩ := henabled
  have hlookup : w.jobs.lookup key = some job := hjob
  have hjobKey : job.key = key := key_of_lookup hlookup
  refine h.rest hjobs (by simp only [FlowWorld.next, hlookup]) fun d _ _ hcovered => ?_
  simp only [FlowWorld.next, hlookup]
  obtain ⟨job', hjob', hpending, hserves⟩ := hcovered
  by_cases hkey : job'.key = key
  · -- the attempt is new, and its only execution has just begun
    have hsame : job' = job :=
      row_unique hjob' (mem_of_lookup hlookup) (hkey.trans hjobKey.symm)
    refine ⟨_, mem_map.mpr ⟨job', hjob', if_pos hkey⟩, ⟨hpending.1, .inr ⟨rfl, ?_⟩⟩, hserves⟩
    intro e he heKey heAttempt
    rcases mem_insert he with heq | hold
    · rw [heq]
      rfl
    · obtain ⟨owner, howner, hownerKey, hle⟩ := h.jobs.attempts e hold
      have hsame' : owner = job' := row_unique howner hjob' (hownerKey.trans heKey)
      rw [hsame'] at hle
      dsimp only at heAttempt
      omega
  · refine ⟨job', mem_map.mpr ⟨job', hjob', if_neg hkey⟩, hpending.kept ?_, hserves⟩
    intro e he heKey _
    rcases mem_insert he with heq | hold
    · rw [heq] at heKey
      exact absurd heKey.symm hkey
    · exact .inl hold

/-! ## Handlers -/

variable {stage : Stage}

theorem WaitInv.goesOn (h : WaitInv w) {w' : FlowWorld} (hjobs : w'.Jobs)
    (hd : d ∈ w.dispatches.rows) {f : Dispatch → Dispatch}
    (hrows : w'.dispatches.rows = w.dispatches.rows.map fun e => if e.id ∈ [d.id] then f e else e)
    (hid : ∀ e, (f e).id = e.id) (hsame : w'.jobs = w.jobs)
    (hexecutions : w'.executions = w.stage execution stage) (hstage : stage.settled = false)
    (hin : (f d).status.waiting = true → (f d).variantRevision = none ∧ Covered w.jobs w.executions
      d.id) : WaitInv w' := by
  refine h.on hjobs hrows hid (fun e he hmem hwaiting => ?_) fun e he _ hwaiting => ?_
  · have heq : e = d := row_unique he hd (mem_singleton.mp hmem)
    rw [heq] at hwaiting ⊢
    obtain ⟨hnone, hcovered⟩ := hin hwaiting
    rw [hsame, hexecutions]
    exact ⟨hnone, hcovered.staged hstage⟩
  · rw [hsame, hexecutions]
    exact (h.waits e he hwaiting).2.staged hstage

theorem WaitInv.ends (h : WaitInv w) {w' : FlowWorld} (hjobs : w'.Jobs)
    (hdispatch : w.dispatchOf execution = some d) {f : Dispatch → Dispatch}
    (hrows : w'.dispatches.rows = w.dispatches.rows.map fun e => if e.id ∈ [d.id] then f e else e)
    (hid : ∀ e, (f e).id = e.id) (hsame : w'.jobs = w.jobs)
    (hexecutions : w'.executions = w.stage execution stage) (hin : (f d).status.waiting = false) :
    WaitInv w' := by
  obtain ⟨hkey, hd⟩ := dispatchOf_eq hdispatch
  refine h.on hjobs hrows hid (fun e he hmem hwaiting => ?_) fun e he hmem hwaiting => ?_
  · have heq : e = d := row_unique he hd (mem_singleton.mp hmem)
    rw [heq, hin] at hwaiting
    cases hwaiting
  · rw [hsame, hexecutions]
    have hne : e.id ≠ d.id := fun heq => hmem (mem_singleton.mpr heq)
    exact ((h.waits e he hwaiting).2.but_own h.jobs hkey hne).staged

theorem WaitInv.staged (h : WaitInv w) (hexecution : w.executions.lookup id = some execution)
    (hstage : stage.settled = false) : WaitInv { w with executions := w.stage execution stage } :=
  h.rest (h.jobs.staged hexecution stage) rfl fun _ _ _ hcovered => hcovered.staged hstage

theorem WaitInv.prepare (h : WaitInv w) (henabled : w.Enabled (.prepare id))
    (htended : w.Tended (.prepare id)) : WaitInv (w.next (.prepare id)) := by
  have hjobs := h.jobs.next henabled
  obtain ⟨execution, hexecution, d, hd, hnone, hstage⟩ := henabled
  have hlookup : w.executions.lookup id = some execution := hexecution
  have hdispatch : w.dispatchOf execution = some d := hd
  have hcovered : Covered w.jobs w.executions d.id :=
    (htended execution hexecution d hd).covered h.jobs hlookup hdispatch (by rw [hstage]; rfl)
  simp only [FlowWorld.next, withDispatch, withExecution, hlookup, hdispatch] at hjobs ⊢
  exact h.goesOn hjobs (dispatchOf_eq hdispatch).2 rfl (fun _ => rfl) rfl rfl rfl
    fun _ => ⟨hnone, hcovered⟩

theorem WaitInv.generated (h : WaitInv w) (henabled : w.Enabled (.generated id)) :
    WaitInv (w.next (.generated id)) := by
  have hjobs := h.jobs.next henabled
  obtain ⟨execution, hexecution, d, hd, hnone, -⟩ := henabled
  have hlookup : w.executions.lookup id = some execution := hexecution
  have hdispatch : w.dispatchOf execution = some d := hd
  have hmem := (dispatchOf_eq hdispatch).2
  simp only [FlowWorld.next, withDispatch, withExecution, hlookup, hdispatch] at hjobs ⊢
  exact h.goesOn hjobs hmem rfl (fun _ => rfl) rfl rfl rfl
    fun hwaiting => ⟨hnone, (h.waits d hmem hwaiting).2⟩

theorem generationFailureStatus_waiting (error : Option JobErrorClass) :
    (generationFailureStatus error).waiting = false := by
  unfold generationFailureStatus
  split <;> rfl

theorem WaitInv.generationFailed (h : WaitInv w) {error : Option JobErrorClass}
    (henabled : w.Enabled (.generationFailed id error)) :
    WaitInv (w.next (.generationFailed id error)) := by
  have hjobs := h.jobs.next henabled
  obtain ⟨execution, hexecution, d, hd, -⟩ := henabled
  have hlookup : w.executions.lookup id = some execution := hexecution
  have hdispatch : w.dispatchOf execution = some d := hd
  simp only [FlowWorld.next, withDispatch, withExecution, hlookup, hdispatch] at hjobs ⊢
  refine h.goesOn hjobs (dispatchOf_eq hdispatch).2 rfl (fun _ => rfl) rfl rfl rfl fun hwaiting => ?_
  rw [generationFailureStatus_waiting] at hwaiting
  cases hwaiting

theorem WaitInv.persist (h : WaitInv w) {revisionId : UUID} {approved : Bool}
    (henabled : w.Enabled (.persist id revisionId approved)) :
    WaitInv (w.next (.persist id revisionId approved)) := by
  have hjobs := h.jobs.next henabled
  obtain ⟨execution, hexecution, d, hd, -, hvalid⟩ := henabled
  have hlookup : w.executions.lookup id = some execution := hexecution
  have hdispatch : w.dispatchOf execution = some d := hd
  simp only [FlowWorld.next, withDispatch, withExecution, hlookup, hdispatch] at hjobs ⊢
  split
  · rename_i parent variant storyRevisionId hstage
    rw [hstage] at hjobs
    refine h.ends hjobs hdispatch rfl (fun _ => rfl) rfl rfl ?_
    split <;> rfl
  · exact h

theorem unlessRevised_waiting {status : DispatchStatus}
    (hrevised : d.variantRevision ≠ none → d.status.waiting = false)
    (h : (d.unlessRevised status).status.waiting = true) :
    d.variantRevision = none ∧ status.waiting = true := by
  unfold Dispatch.unlessRevised at h
  by_cases hnone : d.variantRevision = none
  · rw [if_pos hnone] at h
    exact ⟨hnone, h⟩
  · rw [if_neg hnone, hrevised hnone] at h
    cases h

theorem WaitInv.revised (h : WaitInv w) (hd : d ∈ w.dispatches.rows)
    (hsome : d.variantRevision ≠ none) : d.status.waiting = false := by
  cases hwaiting : d.status.waiting with
  | false => rfl
  | true => exact absurd (h.waits d hd hwaiting).1 hsome

theorem WaitInv.report (h : WaitInv w) (henabled : w.Enabled (.report id))
    (htended : w.Tended (.report id)) : WaitInv (w.next (.report id)) := by
  have hjobs := h.jobs.next henabled
  obtain ⟨execution, hexecution, hsome, hclassified⟩ := henabled
  obtain ⟨d, hdispatch⟩ := Option.isSome_iff_exists.mp hsome
  have hlookup : w.executions.lookup id = some execution := hexecution
  have hmem := (dispatchOf_eq hdispatch).2
  simp only [FlowWorld.next, withDispatch, withExecution, hlookup, hdispatch] at hjobs ⊢
  have hid : ∀ e : Dispatch, (e.unlessRevised (statusOf (workerClass execution.stage))).id = e.id :=
    fun e => e.unlessRevised_id _
  by_cases hclass : workerClass execution.stage = .retryable
  · -- the job goes on, if it is still the execution's
    refine h.goesOn hjobs hmem rfl hid rfl rfl (by rw [hclass]; rfl) fun hwaiting => ?_
    have hnone := (unlessRevised_waiting (h.revised hmem) hwaiting).1
    have hrevision : (d.unlessRevised (statusOf (workerClass execution.stage))).variantRevision
        = none := by
      rw [Dispatch.unlessRevised, if_pos hnone]
      exact hnone
    refine ⟨hrevision, (htended execution hexecution d hdispatch hclass).covered h.jobs hlookup
      hdispatch ?_⟩
    cases hstage : execution.stage with
    | raised error => rfl
    | _ =>
      rw [hstage] at hclassified
      cases hclassified
  · refine h.ends hjobs hdispatch rfl hid rfl rfl ?_
    cases hwaiting : (d.unlessRevised (statusOf (workerClass execution.stage))).status.waiting with
    | false => rfl
    | true =>
      have hstatus := (unlessRevised_waiting (h.revised hmem) hwaiting).2
      cases hcase : workerClass execution.stage with
      | retryable => exact absurd hcase hclass
      | needsReview | permanent =>
        rw [hcase] at hstatus
        cases hstatus

theorem WaitInv.shortCircuit (h : WaitInv w) (henabled : w.Enabled (.shortCircuit id))
    (htended : w.Tended (.shortCircuit id)) : WaitInv (w.next (.shortCircuit id)) := by
  have hjobs := h.jobs.next henabled
  obtain ⟨execution, hexecution, hsuperseded⟩ := henabled
  have hlookup : w.executions.lookup id = some execution := hexecution
  simp only [FlowWorld.next, withExecution, hlookup] at hjobs ⊢
  refine h.rest hjobs rfl fun d hd hwaiting hcovered => ?_
  by_cases hholds : w.Holds execution
  · by_cases hkey : execution.key.dispatch = none
    · -- the research of the job is done, so it covers nothing
      refine (hcovered.but fun job hjob hjobKey hpending _ => ?_).staged
      obtain ⟨job', hjob', -, hattempt⟩ := hholds
      have hsame : w.jobs.lookup execution.key = some job := by
        rw [← hjobKey]
        exact lookup_of_mem hjob
      rcases hsuperseded with ⟨d', hd', -⟩ | ⟨-, -, job'', hjob'', hresult⟩
      · have hdispatch := (dispatchOf_eq hd').1
        rw [hkey] at hdispatch
        cases hdispatch
      · have hsame' : job' = job := Option.some.inj (Eq.trans (Eq.symm hjob') hsame)
        have hsame'' : job'' = job := Option.some.inj (Eq.trans (Eq.symm hjob'') hsame)
        rw [hsame'] at hattempt
        rw [hsame'', hpending.1] at hresult
        rcases hresult with hsome | hne
        · cases hsome
        · exact hne hattempt
    · exact ((htended execution hexecution hkey hholds).but hd hwaiting hcovered).staged
  · -- the job has gone on to another attempt
    obtain ⟨job, hjob, ⟨hresult, hstatus⟩, hserves⟩ := hcovered
    refine ⟨job, hjob, ⟨hresult, ?_⟩, hserves⟩
    rcases hstatus with hqueued | ⟨hrunning, hunsettled⟩
    · exact .inl hqueued
    refine .inr ⟨hrunning, fun e he heKey heAttempt => ?_⟩
    rcases mem_stage he with heq | hold
    · rw [heq] at heKey heAttempt
      refine absurd ⟨job, ?_, hrunning, heAttempt.symm⟩ hholds
      rw [heKey]
      exact lookup_of_mem hjob
    · exact hunsettled e hold heKey heAttempt

/-! ## Research -/

variable {request : String} {result dispatchId : UUID}

/-- The key of a result that is handed over is new: only its research hands it over, to those that
have asked. -/
theorem afterResearch_free (h : w.Jobs) (hjob : w.jobs.lookup (.research request) = some job)
    (hhanded : handedOver job dispatchId = some result) :
    w.jobs.lookup (.afterResearch dispatchId result) = none := by
  unfold handedOver at hhanded
  split at hhanded
  · cases hhanded
  rename_i hnot
  cases hlookup : w.jobs.lookup (.afterResearch dispatchId result) with
  | none => rfl
  | some after =>
    obtain ⟨research, hresearch, hresult, hmem⟩ :=
      h.handed after (mem_of_lookup hlookup) dispatchId result (key_of_lookup hlookup)
    have hsame := h.results research hresearch job (mem_of_lookup hjob)
      (by rw [hresult]; exact nofun) (hresult.trans hhanded.symm)
    rw [hsame] at hmem
    exact absurd hmem hnot

theorem mem_subscribed {other : FlowJob} (hother : other ∈ w.jobs.rows)
    (hserves : other.serves id = true) :
    ∃ other' ∈ (w.onJob (.research request) (fun job =>
        { job with
          continuations :=
            if dispatchId ∈ job.continuations then job.continuations
            else job.continuations ++ [dispatchId] }) fun _ => rfl).rows,
      other'.key = other.key ∧ other'.result = other.result ∧ other'.status = other.status
        ∧ other'.attemptCount = other.attemptCount ∧ other'.serves id = true := by
  by_cases hkey : other.key = .research request
  · refine ⟨_, mem_map.mpr ⟨other, hother, if_pos hkey⟩, rfl, rfl, rfl, rfl, ?_⟩
    rcases serves_iff.mp hserves with hdispatch | hmem
    · exact serves_iff.mpr (.inl hdispatch)
    refine serves_iff.mpr (.inr ?_)
    dsimp only
    split
    · exact hmem
    · exact mem_append_left _ hmem
  · exact ⟨other, mem_map.mpr ⟨other, hother, if_neg hkey⟩, rfl, rfl, rfl, rfl, hserves⟩

theorem Pending.like {executions : Table Execution} {job' : FlowJob} (h : Pending executions job)
    (hkey : job'.key = job.key) (hresult : job'.result = job.result)
    (hstatus : job'.status = job.status) (hattempt : job'.attemptCount = job.attemptCount) :
    Pending executions job' := by
  unfold Pending
  rw [hkey, hresult, hstatus, hattempt]
  exact h

theorem Pending.staged (h : Pending w.executions job) (hkey : job.key ≠ execution.key) :
    Pending (w.stage execution stage) job := by
  refine h.kept fun e he heKey _ => ?_
  rcases mem_stage he with heq | hold
  · rw [heq] at heKey
    exact absurd heKey.symm hkey
  · exact .inl hold

theorem WaitInv.requestResearch (h : WaitInv w) (henabled : w.Enabled (.requestResearch id request))
    (htended : w.Tended (.requestResearch id request)) :
    WaitInv (w.next (.requestResearch id request)) := by
  have hjobs := h.jobs.next henabled
  obtain ⟨execution, hexecution, d, hd, hnone, -⟩ := henabled
  have hlookup : w.executions.lookup id = some execution := hexecution
  have hdispatch : w.dispatchOf execution = some d := hd
  obtain ⟨hkey, hmem⟩ := dispatchOf_eq hdispatch
  simp only [FlowWorld.next, withDispatch, withExecution, hlookup, hdispatch] at hjobs ⊢
  have hresearchKey : ∀ job : FlowJob, job.key = .research request → job.key ≠ execution.key := by
    intro job hjobKey heq
    rw [← heq, hjobKey] at hkey
    cases hkey
  -- the other dispatches keep their jobs, with what these carry
  have hothers : ∀ jobs' : Table FlowJob,
      (∀ other ∈ w.jobs.rows, ∀ dispatchId, other.serves dispatchId = true →
        ∃ other' ∈ jobs'.rows, other'.key = other.key ∧ other'.result = other.result
          ∧ other'.status = other.status ∧ other'.attemptCount = other.attemptCount
          ∧ other'.serves dispatchId = true) →
      ∀ e ∈ w.dispatches.rows, e.id ∉ [d.id] → e.status.waiting = true →
        Covered jobs' (w.stage execution .done) e.id := by
    intro jobs' hkept e he hne hwaiting
    have hne' : e.id ≠ d.id := fun heq => hne (mem_singleton.mpr heq)
    obtain ⟨other, hother, hotherKey, hpending, hserves⟩ :=
      (h.waits e he hwaiting).2.but_own h.jobs hkey hne'
    obtain ⟨other', hother', hkey', hresult, hstatus, hattempt, hserves'⟩ :=
      hkept other hother e.id hserves
    exact ⟨other', hother', (hpending.staged hotherKey).like hkey' hresult hstatus hattempt,
      hserves'⟩
  have hown : ∀ e ∈ w.dispatches.rows, e.id ∈ [d.id] → e = d := fun e he hmem' =>
    row_unique he hmem (mem_singleton.mp hmem')
  have hself : ∀ jobs : Table FlowJob, ∀ job ∈ jobs.rows, ∀ dispatchId,
      job.serves dispatchId = true → ∃ job' ∈ jobs.rows, job'.key = job.key
        ∧ job'.result = job.result ∧ job'.status = job.status
        ∧ job'.attemptCount = job.attemptCount ∧ job'.serves dispatchId = true :=
    fun _ job hjob _ hserves => ⟨job, hjob, rfl, rfl, rfl, rfl, hserves⟩
  cases hfound : w.jobs.lookup (.research request) with
  | none =>
    simp only [FlowWorld.requestResearch, hfound] at hjobs ⊢
    refine h.on hjobs rfl (fun _ => rfl) (fun e he hin _ => ?_) (hothers _ ?_)
    · rw [hown e he hin]
      refine ⟨hnone, .queued (.research request) 3 [d.id], ?_, ⟨rfl, .inl rfl⟩,
        serves_iff.mpr (.inr mem_cons_self)⟩
      rw [rows_insert hfound]
      exact mem_cons_self
    · intro other hother dispatchId hserves
      exact hself _ other (mem_insert_of_mem hother) dispatchId hserves
  | some job =>
    have hjobKey : job.key = .research request := key_of_lookup hfound
    cases hhanded : handedOver job d.id with
    | none =>
      simp only [FlowWorld.requestResearch, hfound, hhanded, hjobKey] at hjobs ⊢
      refine h.on hjobs rfl (fun _ => rfl) (fun e he hin _ => ?_) (hothers _ ?_)
      · rw [hown e he hin]
        have hpending := htended execution hexecution d hd job hfound hhanded
        refine ⟨hnone, _, mem_map.mpr ⟨job, mem_of_lookup hfound, if_pos hjobKey⟩,
          (hpending.staged (hresearchKey job hjobKey)).like rfl rfl rfl rfl, ?_⟩
        refine serves_iff.mpr (.inr ?_)
        dsimp only
        split
        · assumption
        · exact mem_append_right _ mem_cons_self
      · exact fun other hother dispatchId hserves => mem_subscribed hother hserves
    | some result =>
      have hfree := afterResearch_free h.jobs hfound hhanded
      simp only [FlowWorld.requestResearch, hfound, hhanded, hjobKey] at hjobs ⊢
      have hfree' : (w.onJob (.research request) (fun job =>
          { job with
            continuations :=
              if d.id ∈ job.continuations then job.continuations
              else job.continuations ++ [d.id] }) fun _ => rfl).lookup
          (.afterResearch d.id result) = none := by
        rw [onJob, lookup_map, hfree]
        rfl
      refine h.on hjobs rfl (fun _ => rfl) (fun e he hin _ => ?_) (hothers _ ?_)
      · rw [hown e he hin]
        refine ⟨hnone, .queued (.afterResearch d.id result) 3 [], ?_, ⟨rfl, .inl rfl⟩,
          serves_iff.mpr (.inl rfl)⟩
        rw [rows_insert hfree']
        exact mem_cons_self
      · intro other hother dispatchId hserves
        obtain ⟨other', hother', hlike⟩ := mem_subscribed hother hserves
        exact ⟨other', mem_insert_of_mem hother', hlike⟩

theorem mem_fanOut_of_mem {jobs : Table FlowJob} {ids : List UUID} (h : job ∈ jobs.rows) :
    job ∈ (fanOut jobs result ids).rows := by
  induction ids generalizing jobs with
  | nil => exact h
  | cons first rest ih => exact ih (mem_insert_of_mem h)

theorem mem_fanOut {jobs : Table FlowJob} {ids : List UUID}
    (hfree : jobs.lookup (.afterResearch dispatchId result) = none) (hmem : dispatchId ∈ ids) :
    .queued (.afterResearch dispatchId result) 3 [] ∈ (fanOut jobs result ids).rows := by
  induction ids generalizing jobs with
  | nil => cases hmem
  | cons first rest ih =>
    by_cases hfirst : dispatchId = first
    · subst hfirst
      have hinsert : FlowJob.queued (.afterResearch dispatchId result) 3 []
          ∈ (jobs.insert (.queued (.afterResearch dispatchId result) 3 [])).rows := by
        rw [rows_insert hfree]
        exact mem_cons_self
      rw [fanOut]
      exact mem_fanOut_of_mem hinsert
    · have hrest : dispatchId ∈ rest := by
        rcases mem_cons.mp hmem with heq | hrest
        · exact absurd heq hfirst
        · exact hrest
      refine ih ?_ hrest
      cases hlookup : (jobs.insert (.queued (.afterResearch first result) 3 [])).lookup
          (.afterResearch dispatchId result) with
      | none => rfl
      | some found =>
        exfalso
        have hkey : found.key = .afterResearch dispatchId result := key_of_lookup hlookup
        rcases mem_insert (mem_of_lookup hlookup) with heq | hold
        · rw [heq] at hkey
          injection hkey with hid
          exact hfirst hid.symm
        · have hsome : jobs.lookup found.key = some found := lookup_of_mem hold
          rw [hkey, hfree] at hsome
          cases hsome

theorem WaitInv.but_research (h : WaitInv w) (hfound : w.jobs.lookup key = some job)
    (hdispatch : key.dispatch = none) (hd : d ∈ w.dispatches.rows)
    (hwaiting : d.status.waiting = true) (hout : d.id ∉ job.continuations) :
    CoveredBut w.jobs w.executions key d.id := by
  have hkey : job.key = key := key_of_lookup hfound
  refine (h.waits d hd hwaiting).2.but fun other hother hotherKey _ hserves => ?_
  have hsame : other = job :=
    row_unique hother (mem_of_lookup hfound) (hotherKey.trans hkey.symm)
  rw [hsame] at hserves
  rcases serves_iff.mp hserves with hown | hcontinuation
  · rw [hkey, hdispatch] at hown
    cases hown
  · exact hout hcontinuation

theorem WaitInv.researched (h : WaitInv w) (henabled : w.Enabled (.researched id result))
    (htended : w.Tended (.researched id result)) : WaitInv (w.next (.researched id result)) := by
  have hjobs := h.jobs.next henabled
  obtain ⟨⟨execution, hexecution, hdispatch, -, job, hjob, -⟩, hfresh⟩ := henabled
  have hlookup : w.executions.lookup id = some execution := hexecution
  have hfound : w.jobs.lookup execution.key = some job := hjob
  have hkey : job.key = execution.key := key_of_lookup hfound
  simp only [FlowWorld.next, withJob, withExecution, hlookup, hfound] at hjobs ⊢
  have hfree : ∀ dispatchId : UUID,
      (w.onJob job.key (fun job => { job with result := some result }) fun _ => rfl).lookup
        (.afterResearch dispatchId result) = none := by
    intro dispatchId
    cases hafter : w.jobs.lookup (.afterResearch dispatchId result) with
    | none =>
      rw [onJob, lookup_map, hafter]
      rfl
    | some after =>
      obtain ⟨research, hresearch, hresult, -⟩ :=
        h.jobs.handed after (mem_of_lookup hafter) dispatchId result (key_of_lookup hafter)
      exact absurd hresult (hfresh research hresearch)
  refine h.on hjobs rfl (fun _ => rfl) (fun e he hin _ => ?_) fun e he hout hwaiting => ?_
  · refine ⟨htended execution hexecution job hjob e he hin, _, mem_fanOut (hfree e.id) hin,
      ⟨rfl, .inl rfl⟩, serves_iff.mpr (.inl rfl)⟩
  · obtain ⟨other, hother, hotherKey, hpending, hserves⟩ :=
      h.but_research hfound hdispatch he hwaiting hout
    refine ⟨other, mem_fanOut_of_mem ?_, hpending.staged hotherKey, hserves⟩
    exact mem_map.mpr ⟨other, hother, if_neg (by rw [hkey]; exact hotherKey)⟩

theorem WaitInv.researchFailed (h : WaitInv w) {error : JobErrorClass}
    (henabled : w.Enabled (.researchFailed id error)) :
    WaitInv (w.next (.researchFailed id error)) := by
  have hjobs := h.jobs.next henabled
  obtain ⟨execution, hexecution, hdispatch, -, job, hjob, -⟩ := henabled
  have hlookup : w.executions.lookup id = some execution := hexecution
  have hfound : w.jobs.lookup execution.key = some job := hjob
  simp only [FlowWorld.next, withJob, withExecution, hlookup, hfound] at hjobs ⊢
  refine h.on hjobs rfl (fun e => e.unlessRevised_id _) (fun e he _ hwaiting => ?_)
    fun e he hout hwaiting => ?_
  · -- what the research was for is to be reviewed
    have hstatus := (unlessRevised_waiting (h.revised he) hwaiting).2
    cases hstatus
  · exact (h.but_research hfound hdispatch he hwaiting hout).staged

/-! ## The ends of jobs -/

theorem mem_of_mem_erase {e : Execution} (h : e ∈ (w.executions.erase id).rows) :
    e ∈ w.executions.rows :=
  (mem_erase.mp h).1

theorem WaitInv.finish (h : WaitInv w) (henabled : w.Enabled (.finish id)) :
    WaitInv (w.next (.finish id)) := by
  have hjobs := h.jobs.next henabled
  obtain ⟨execution, hexecution, hstage, hholds⟩ := henabled
  have hlookup : w.executions.lookup id = some execution := hexecution
  simp only [FlowWorld.next, withExecution, hlookup] at hjobs ⊢
  refine h.rest hjobs rfl fun _ _ _ hcovered => ?_
  have hsettled : execution.stage.settled = true := by
    rw [hstage]
    rfl
  exact (hcovered.but_settled hlookup hholds hsettled).ended .succeeded fun _ => mem_of_mem_erase

theorem WaitInv.fail (h : WaitInv w) (henabled : w.Enabled (.fail id))
    (htended : w.Tended (.fail id)) : WaitInv (w.next (.fail id)) := by
  have hjobs := h.jobs.next henabled
  obtain ⟨execution, hexecution, hholds, -⟩ := henabled
  have ⟨job, hjob, _⟩ := hholds
  have hlookup : w.executions.lookup id = some execution := hexecution
  have hfound : w.jobs.lookup execution.key = some job := hjob
  simp only [FlowWorld.next, withJob, withExecution, hlookup, hfound] at hjobs ⊢
  refine h.rest hjobs rfl fun d hd hwaiting hcovered => ?_
  rcases htended execution hexecution job hjob with hqueued | hsettled | hneedless
  · rw [hqueued]
    exact hcovered.requeued fun _ => mem_of_mem_erase
  · exact (hcovered.but_settled hlookup hholds hsettled).ended _ fun _ => mem_of_mem_erase
  · exact (hneedless.but hd hwaiting hcovered).ended _ fun _ => mem_of_mem_erase

theorem WaitInv.vanish (h : WaitInv w) (henabled : w.Enabled (.vanish id)) :
    WaitInv (w.next (.vanish id)) := by
  refine h.rest (h.jobs.next henabled) rfl fun _ _ _ hcovered => ?_
  exact hcovered.kept (fun _ hjob => hjob) fun e he => .inl (mem_of_mem_erase he)

theorem expired_waiting (key : JobKey) (d : Dispatch) : (d.expired key).status.waiting = false := by
  unfold Dispatch.expired
  cases hstatus : d.status <;> rfl

theorem WaitInv.expire (h : WaitInv w) (henabled : w.Enabled (.expire key)) :
    WaitInv (w.next (.expire key)) := by
  have hjobs := h.jobs.next henabled
  obtain ⟨job, hjob, -⟩ := henabled
  have hfound : w.jobs.lookup key = some job := hjob
  have hkey : job.key = key := key_of_lookup hfound
  simp only [FlowWorld.next, hfound] at hjobs ⊢
  split
  · rename_i hleft
    rw [if_pos hleft] at hjobs
    exact h.rest hjobs rfl fun _ _ _ hcovered => hcovered.requeued fun _ he => he
  · rename_i hleft
    rw [if_neg hleft] at hjobs
    refine h.on hjobs rfl (Dispatch.expired_id key) (fun e _ _ hwaiting => ?_)
      fun e he hout hwaiting => ?_
    · rw [expired_waiting] at hwaiting
      cases hwaiting
    · refine ((h.waits e he hwaiting).2.but fun other hother hotherKey _ hserves => ?_).ended
        .failed fun _ he => he
      have hsame : other = job :=
        row_unique hother (mem_of_lookup hfound) (hotherKey.trans hkey.symm)
      rw [hsame] at hserves
      refine hout (mem_append.mpr ?_)
      rcases serves_iff.mp hserves with hown | hcontinuation
      · exact .inl (Option.mem_toList.mpr hown)
      · exact .inr hcontinuation

theorem WaitInv.over (h : WaitInv w) (status : JobStatus) (hneedless : w.Needless key) :
    WaitInv { w with jobs := w.jobStatus key status } :=
  h.rest (JobsInv.status h.jobs key status) rfl fun _ hd hwaiting hcovered =>
    (hneedless.but hd hwaiting hcovered).ended status fun _ he => he

theorem WaitInv.retry (h : WaitInv w) (henabled : w.Enabled (.retry key)) :
    WaitInv (w.next (.retry key)) :=
  h.rest (h.jobs.next henabled) rfl fun _ _ _ hcovered => hcovered.requeued fun _ he => he

/-! ## Every step -/

theorem WaitInv.next (h : WaitInv w) {event : FlowEvent} (henabled : w.Enabled event)
    (htended : w.Tended event) : WaitInv (w.next event) := by
  cases event with
  | capture d n => exact h.capture henabled
  | claim key id => exact h.claim henabled
  | requestResearch id request => exact h.requestResearch henabled htended
  | prepare id => exact h.prepare henabled htended
  | resume _ | raise _ _ => exact withExecution_rule h fun _ hexecution => h.staged hexecution rfl
  | shortCircuit id => exact h.shortCircuit henabled htended
  | generated id => exact h.generated henabled
  | generationFailed id error => exact h.generationFailed henabled
  | check id brandProfileId =>
    exact withDispatch_rule h fun _ _ hexecution _ => h.staged hexecution rfl
  | persist id revisionId approved => exact h.persist henabled
  | report id => exact h.report henabled htended
  | researched id result => exact h.researched henabled htended
  | researchFailed id error => exact h.researchFailed henabled
  | finish id => exact h.finish henabled
  | fail id => exact h.fail henabled htended
  | vanish id => exact h.vanish henabled
  | expire key => exact h.expire henabled
  | reject key => exact h.over .failed htended
  | cancel key => exact h.over .cancelled htended
  | retry key => exact h.retry henabled

theorem WaitInv.served (h : WaitInv w) : w.Served := by
  intro d hd hwaiting
  obtain ⟨-, job, hjob, ⟨-, hstatus⟩, hserves⟩ := h.waits d hd hwaiting
  refine ⟨job, hjob, ?_, hserves⟩
  rw [FlowJob.live, decide_eq_true_iff]
  rcases hstatus with hqueued | ⟨hrunning, -⟩
  · exact .inl hqueued
  · exact .inr hrunning

instance (executions : Table Execution) (job : FlowJob) : Decidable (Pending executions job) :=
  inferInstanceAs (Decidable (job.result = none ∧ (job.status = .queued ∨ job.status = .running
    ∧ ∀ e ∈ executions.rows, e.key = job.key → e.attempt = job.attemptCount →
      e.stage.settled = false)))

instance (jobs : Table FlowJob) (executions : Table Execution) (id : UUID) :
    Decidable (Covered jobs executions id) :=
  inferInstanceAs (Decidable (∃ job ∈ jobs.rows, _ ∧ _))

instance (jobs : Table FlowJob) (executions : Table Execution) (key : JobKey) (id : UUID) :
    Decidable (CoveredBut jobs executions key id) :=
  inferInstanceAs (Decidable (∃ job ∈ jobs.rows, _ ∧ _ ∧ _))

instance (key : JobKey) : Decidable (w.Needless key) :=
  inferInstanceAs (Decidable (∀ d ∈ w.dispatches.rows, d.status.waiting = true →
    (∃ job ∈ w.jobs.lookup key, job.serves d.id = true) → CoveredBut w.jobs w.executions key d.id))

instance (execution : Execution) (d : Dispatch) : Decidable (w.Tends execution d) :=
  inferInstanceAs (Decidable (_ ∨ _))

instance (event : FlowEvent) : Decidable (w.Tended event) := by
  apply FlowEvent.casesOn (motive := fun event => Decidable (w.Tended event)) event <;>
    (intros; dsimp only [Tended]; infer_instance)

instance : Decidable w.Served :=
  inferInstanceAs (Decidable (∀ d ∈ w.dispatches.rows, d.status.waiting = true →
    ∃ job ∈ w.jobs.rows, job.live = true ∧ job.serves d.id = true))

def noDispatches : FlowWorld := ⟨.empty, .empty, .empty, []⟩

def captured (id : UUID) (creationSequence : Nat) : Dispatch :=
  ⟨id, 5, 6, 11, creationSequence, .captured, none, none⟩

/-- A dispatch asks for research, and its job is over. -/
def asks (id : UUID) (creationSequence : Nat) (execution : UUID) : List FlowEvent :=
  [.capture (captured id creationSequence) 1, .claim (.process id) execution, .requestResearch execution "story",
    .finish execution]

end FlowWorld

end NewsCraft.Telegram.DispatchFlow
