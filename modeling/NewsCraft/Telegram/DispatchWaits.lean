import Mathlib
import NewsCraft.Telegram.DispatchJobs

/-!
# When waiting dispatches have a job

The statuses a later edit waits for are written by handlers, by research and by the sweep of
leases, and jobs end in more ways than that. Where the other ends come only to dispatches
that do not wait or that another job covers, and research is asked of a job that is still to
do it, every waiting dispatch has a job.
-/

namespace NewsCraft.Telegram.DispatchFlow

open Lib Jobs Table List

/-- The handler is at an end after which its job is over. -/
def Stage.settled : Stage → Bool
  | .done => true
  | .reported error => error ≠ .retryable
  | _ => false

namespace FlowWorld

/-- The job is still to do its work: no research of it is done, and no handler at its end. -/
def Pending (executions : Table Execution) (job : FlowJob) : Prop :=
  job.result = none ∧ (job.status = .queued ∨ job.status = .running
    ∧ ∀ e ∈ executions.rows, e.key = job.key → e.attempt = job.attemptCount →
      e.stage.settled = false)

/-- A job of the dispatch is still to do its work. -/
def Covered (jobs : Table FlowJob) (executions : Table Execution) (id : UUID) : Prop :=
  ∃ job ∈ jobs.rows, Pending executions job ∧ job.serves id = true

def CoveredBut (jobs : Table FlowJob) (executions : Table Execution) (key : JobKey) (id : UUID) :
    Prop :=
  ∃ job ∈ jobs.rows, job.key ≠ key ∧ Pending executions job ∧ job.serves id = true

variable {jobs jobs' : Table FlowJob} {executions executions' : Table Execution} {key : JobKey}
  {id : UUID}

theorem Covered.but (h : Covered jobs executions id)
    (hnot : ∀ job ∈ jobs.rows, job.key = key → Pending executions job → job.serves id = true →
      False) : CoveredBut jobs executions key id := by
  obtain ⟨job, hjob, hpending, hserves⟩ := h
  exact ⟨job, hjob, fun hkey => hnot job hjob hkey hpending hserves, hpending, hserves⟩

theorem Pending.kept {job : FlowJob} (h : Pending executions job)
    (hexecutions : ∀ e ∈ executions'.rows, e.key = job.key → e.attempt = job.attemptCount →
      e ∈ executions.rows ∨ e.stage.settled = false) : Pending executions' job := by
  obtain ⟨hresult, hstatus⟩ := h
  refine ⟨hresult, ?_⟩
  rcases hstatus with hqueued | ⟨hrunning, hunsettled⟩
  · exact .inl hqueued
  refine .inr ⟨hrunning, fun e he hkey hattempt => ?_⟩
  rcases hexecutions e he hkey hattempt with hold | hnew
  · exact hunsettled e hold hkey hattempt
  · exact hnew

theorem CoveredBut.next (h : CoveredBut jobs executions key id)
    (hjobs : ∀ job ∈ jobs.rows, job.key ≠ key → job ∈ jobs'.rows)
    (hexecutions : ∀ e ∈ executions'.rows, e.key ≠ key → e ∈ executions.rows) :
    Covered jobs' executions' id := by
  obtain ⟨job, hjob, hkey, hpending, hserves⟩ := h
  refine ⟨job, hjobs job hjob hkey, hpending.kept fun e he heq _ => ?_, hserves⟩
  exact .inl (hexecutions e he (by rw [heq]; exact hkey))

theorem Covered.kept (h : Covered jobs executions id) (hjobs : ∀ job ∈ jobs.rows, job ∈ jobs'.rows)
    (hexecutions : ∀ e ∈ executions'.rows, e ∈ executions.rows ∨ e.stage.settled = false) :
    Covered jobs' executions' id := by
  obtain ⟨job, hjob, hpending, hserves⟩ := h
  exact ⟨job, hjobs job hjob, hpending.kept fun e he _ _ => hexecutions e he, hserves⟩

variable {w w' : FlowWorld}

/-! ## What is required -/

/-- Every waiting dispatch has a queued or running job. -/
def Served (w : FlowWorld) : Prop :=
  ∀ d ∈ w.dispatches.rows, d.status.waiting = true →
    ∃ job ∈ w.jobs.rows, job.live = true ∧ job.serves d.id = true

/-- The waiting dispatches of the job have another. -/
def Needless (w : FlowWorld) (key : JobKey) : Prop :=
  ∀ d ∈ w.dispatches.rows, d.status.waiting = true →
    (∃ job ∈ w.jobs.lookup key, job.serves d.id = true) → CoveredBut w.jobs w.executions key d.id

/-- A handler writes a waiting status while it has its job, or another job covers the dispatch. -/
def Tends (w : FlowWorld) (execution : Execution) (d : Dispatch) : Prop :=
  w.Holds execution ∨ Covered w.jobs w.executions d.id

/-- No waiting dispatch is left by its last job. -/
def Tended (w : FlowWorld) : FlowEvent → Prop
  | .prepare id => ∀ execution ∈ w.executions.lookup id, ∀ d ∈ w.dispatchOf execution,
      w.Tends execution d
  | .report id => ∀ execution ∈ w.executions.lookup id, ∀ d ∈ w.dispatchOf execution,
      workerClass execution.stage = .retryable → w.Tends execution d
  | .requestResearch id request => ∀ execution ∈ w.executions.lookup id,
      ∀ d ∈ w.dispatchOf execution, ∀ job ∈ w.jobs.lookup (.research request),
        handedOver job d.id = none → Pending w.executions job
  | .shortCircuit id => ∀ execution ∈ w.executions.lookup id, execution.key.dispatch ≠ none →
      w.Holds execution → w.Needless execution.key
  | .researched id _ => ∀ execution ∈ w.executions.lookup id,
      ∀ job ∈ w.jobs.lookup execution.key, ∀ d ∈ w.dispatches.rows, d.id ∈ job.continuations →
        d.variantRevision = none
  | .fail id => ∀ execution ∈ w.executions.lookup id, ∀ job ∈ w.jobs.lookup execution.key,
      job.failedStatus (workerClass execution.stage) = .queued ∨ execution.stage.settled = true
        ∨ w.Needless execution.key
  | .reject key => w.Needless key
  | .cancel key => w.Needless key
  | _ => True

/-- What holds in every history in which every step is tended. -/
structure WaitInv (w : FlowWorld) : Prop where
  jobs : w.Jobs
  waits : ∀ d ∈ w.dispatches.rows, d.status.waiting = true →
    d.variantRevision = none ∧ Covered w.jobs w.executions d.id

/-! ## Dispatches -/

theorem WaitInv.on (h : WaitInv w) (hjobs : w'.Jobs) {ids : List UUID} {f : Dispatch → Dispatch}
    (hrows : w'.dispatches.rows = w.dispatches.rows.map fun d => if d.id ∈ ids then f d else d)
    (hid : ∀ d, (f d).id = d.id)
    (hin : ∀ d ∈ w.dispatches.rows, d.id ∈ ids → (f d).status.waiting = true →
      (f d).variantRevision = none ∧ Covered w'.jobs w'.executions d.id)
    (hout : ∀ d ∈ w.dispatches.rows, d.id ∉ ids → d.status.waiting = true →
      Covered w'.jobs w'.executions d.id) : WaitInv w' := by
  refine ⟨hjobs, fun d' hd' hwaiting => ?_⟩
  rw [hrows] at hd'
  obtain ⟨d, hd, heq⟩ := mem_map.mp hd'
  by_cases hmem : d.id ∈ ids
  · rw [if_pos hmem] at heq
    rw [← heq] at hwaiting ⊢
    rw [hid]
    exact hin d hd hmem hwaiting
  · rw [if_neg hmem] at heq
    rw [← heq] at hwaiting ⊢
    exact ⟨(h.waits d hd hwaiting).1, hout d hd hmem hwaiting⟩

theorem WaitInv.rest (h : WaitInv w) (hjobs : w'.Jobs)
    (hrows : w'.dispatches.rows = w.dispatches.rows)
    (hcovered : ∀ d ∈ w.dispatches.rows, d.status.waiting = true →
      Covered w.jobs w.executions d.id → Covered w'.jobs w'.executions d.id) : WaitInv w' := by
  refine ⟨hjobs, fun d hd hwaiting => ?_⟩
  rw [hrows] at hd
  obtain ⟨hnone, hcov⟩ := h.waits d hd hwaiting
  exact ⟨hnone, hcovered d hd hwaiting hcov⟩

/-! ## Executions and jobs -/

variable {execution : Execution} {stage : Stage}

theorem mem_stage {e : Execution} (h : e ∈ (w.stage execution stage).rows) :
    e = { execution with stage := stage } ∨ e ∈ w.executions.rows := by
  rcases mem_put h with ⟨heq, -⟩ | ⟨hold, -⟩
  · exact .inl heq
  · exact .inr hold

theorem Covered.staged (hstage : stage.settled = false) (h : Covered w.jobs w.executions id) :
    Covered w.jobs (w.stage execution stage) id := by
  refine h.kept (fun _ hjob => hjob) fun e he => ?_
  rcases mem_stage he with heq | hold
  · rw [heq]
    exact .inr hstage
  · exact .inl hold

theorem CoveredBut.staged (h : CoveredBut w.jobs w.executions execution.key id) :
    Covered w.jobs (w.stage execution stage) id := by
  refine h.next (fun _ hjob _ => hjob) fun e he hkey => ?_
  rcases mem_stage he with heq | hold
  · rw [heq] at hkey
    exact absurd rfl hkey
  · exact hold

variable {dispatchId : UUID}

theorem eq_of_serves (h : w.Jobs) {job : FlowJob} (hjob : job ∈ w.jobs.rows)
    (hkey : job.key.dispatch = some dispatchId) (hserves : job.serves id = true) :
    id = dispatchId := by
  rcases serves_iff.mp hserves with hdispatch | hcontinuation
  · exact Option.some.inj (hdispatch.symm.trans hkey)
  rw [(h.process job hjob (by rw [hkey]; exact nofun)).1] at hcontinuation
  cases hcontinuation

theorem Covered.but_own (h : w.Jobs) (hkey : execution.key.dispatch = some dispatchId)
    (hne : id ≠ dispatchId) (hcovered : Covered w.jobs w.executions id) :
    CoveredBut w.jobs w.executions execution.key id :=
  hcovered.but fun job hjob hjobKey _ hserves =>
    hne (eq_of_serves h hjob (by rw [hjobKey]; exact hkey) hserves)

variable {d : Dispatch}

theorem covered_of_holds (h : w.Jobs) (hexecution : w.executions.lookup id = some execution)
    (hd : w.dispatchOf execution = some d) (hholds : w.Holds execution)
    (hstage : execution.stage.settled = false) : Covered w.jobs w.executions d.id := by
  obtain ⟨job, hjob, hrunning, hattempt⟩ := hholds
  have hlookup : w.jobs.lookup execution.key = some job := hjob
  have hkey : job.key = execution.key := key_of_lookup hlookup
  have hmem := mem_of_lookup hlookup
  have hdispatch := (dispatchOf_eq hd).1
  refine ⟨job, hmem, ⟨?_, .inr ⟨hrunning, fun e he heKey heAttempt => ?_⟩⟩, ?_⟩
  · exact (h.process job hmem (by rw [hkey, hdispatch]; exact nofun)).2
  · rw [h.eq_of_claimed he (mem_of_lookup hexecution) (heKey.trans hkey)
      (heAttempt.trans hattempt)]
    exact hstage
  · exact serves_iff.mpr (.inl (by rw [hkey]; exact hdispatch))

theorem Tends.covered (h : w.Jobs) (hexecution : w.executions.lookup id = some execution)
    (hd : w.dispatchOf execution = some d) (hstage : execution.stage.settled = false)
    (htends : w.Tends execution d) : Covered w.jobs w.executions d.id := by
  rcases htends with hholds | hcovered
  · exact covered_of_holds h hexecution hd hholds hstage
  · exact hcovered

theorem CoveredBut.ended (h : CoveredBut w.jobs w.executions key id) (status : JobStatus)
    (hexecutions : ∀ e ∈ executions'.rows, e ∈ w.executions.rows) :
    Covered (w.jobStatus key status) executions' id := by
  refine h.next (fun job hjob hkey => ?_) fun e he _ => hexecutions e he
  exact mem_map.mpr ⟨job, hjob, if_neg hkey⟩

theorem Covered.requeued (h : Covered w.jobs w.executions id)
    (hexecutions : ∀ e ∈ executions'.rows, e ∈ w.executions.rows) :
    Covered (w.jobStatus key .queued) executions' id := by
  obtain ⟨job, hjob, hpending, hserves⟩ := h
  by_cases hkey : job.key = key
  · refine ⟨{ job with status := .queued }, mem_map.mpr ⟨job, hjob, if_pos hkey⟩, ?_, hserves⟩
    exact ⟨hpending.1, .inl rfl⟩
  · refine ⟨job, mem_map.mpr ⟨job, hjob, if_neg hkey⟩, hpending.kept ?_, hserves⟩
    exact fun e he _ _ => .inl (hexecutions e he)

theorem Covered.but_settled (hexecution : w.executions.lookup id = some execution)
    (hholds : w.Holds execution) (hsettled : execution.stage.settled = true)
    (h : Covered w.jobs w.executions dispatchId) :
    CoveredBut w.jobs w.executions execution.key dispatchId := by
  obtain ⟨job, hjob, hrunning, hattempt⟩ := hholds
  have hlookup : w.jobs.lookup execution.key = some job := hjob
  have hjobKey : job.key = execution.key := key_of_lookup hlookup
  refine h.but fun job' hjob' hkey hpending _ => ?_
  have hsame : job' = job :=
    row_unique hjob' (mem_of_lookup hlookup) (hkey.trans hjobKey.symm)
  rw [hsame] at hpending
  rcases hpending.2 with hqueued | ⟨-, hunsettled⟩
  · rw [hrunning] at hqueued
    cases hqueued
  · have hstage := hunsettled execution (mem_of_lookup hexecution) hjobKey.symm hattempt.symm
    rw [hsettled] at hstage
    cases hstage

theorem Needless.but (hneedless : w.Needless key) (hd : d ∈ w.dispatches.rows)
    (hwaiting : d.status.waiting = true) (h : Covered w.jobs w.executions d.id) :
    CoveredBut w.jobs w.executions key d.id := by
  by_cases hserved : ∃ job ∈ w.jobs.lookup key, job.serves d.id = true
  · exact hneedless d hd hwaiting hserved
  refine h.but fun job hjob hkey _ hserves => hserved ⟨job, ?_, hserves⟩
  rw [← hkey]
  exact lookup_of_mem hjob

end FlowWorld

end NewsCraft.Telegram.DispatchFlow
