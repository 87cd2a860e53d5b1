import Mathlib
import NewsCraft.Telegram.DispatchFlow

/-!
# When revisions follow the dispatches

A dispatch waits while an earlier one of its route and story is in a waiting status. Where
every earlier dispatch that something is still done for is in one at the check, and no job
is retried for a dispatch that a later one has passed, revisions come in the order of the
dispatches, on one variant, each attached to the one before it.
-/

namespace NewsCraft.Telegram.DispatchFlow

open Lib Jobs Table List

/-! ## What a dispatch keeps -/

/-- What no step but the making of its revision changes. -/
def Dispatch.identity (d : Dispatch) : UUID × UUID × UUID × Nat × Option PlatformVariantRevision :=
  (d.id, d.routeId, d.storyId, d.creationSequence, d.variantRevision)

theorem Dispatch.identity_eq_iff {d d' : Dispatch} :
    d.identity = d'.identity ↔ d.id = d'.id ∧ d.routeId = d'.routeId ∧ d.storyId = d'.storyId
      ∧ d.creationSequence = d'.creationSequence ∧ d.variantRevision = d'.variantRevision := by
  simp only [Dispatch.identity, Prod.mk.injEq]

@[simp] theorem Dispatch.identity_unlessRevised (d : Dispatch) (status : DispatchStatus) :
    (d.unlessRevised status).identity = d.identity := by
  unfold Dispatch.unlessRevised
  split <;> rfl

@[simp] theorem Dispatch.identity_expired (key : JobKey) (d : Dispatch) :
    (d.expired key).identity = d.identity := by
  unfold Dispatch.expired
  cases d.status <;> rfl

namespace FlowWorld

variable {w w' : FlowWorld}

/-- The same dispatches, whatever has become of them. -/
def SameDispatches (w w' : FlowWorld) : Prop :=
  w'.dispatches.rows.map Dispatch.identity = w.dispatches.rows.map Dispatch.identity
    ∧ w'.created = w.created

theorem SameDispatches.refl : SameDispatches w w := ⟨rfl, rfl⟩

theorem SameDispatches.on {ids : List UUID} {f : Dispatch → Dispatch}
    (hrows : w'.dispatches.rows = w.dispatches.rows.map fun d => if d.id ∈ ids then f d else d)
    (hf : ∀ d, (f d).identity = d.identity) (hcreated : w'.created = w.created) :
    SameDispatches w w' := by
  refine ⟨?_, hcreated⟩
  rw [hrows, map_map]
  refine map_congr_left fun d _ => ?_
  show Dispatch.identity (if d.id ∈ ids then f d else d) = d.identity
  split
  · exact hf d
  · rfl

theorem SameDispatches.symm (h : SameDispatches w w') : SameDispatches w' w :=
  ⟨h.1.symm, h.2.symm⟩

theorem SameDispatches.exists_of_mem (h : SameDispatches w w') {d' : Dispatch}
    (hd : d' ∈ w'.dispatches.rows) : ∃ d ∈ w.dispatches.rows, d.identity = d'.identity := by
  have hmem := mem_map_of_mem (f := Dispatch.identity) hd
  rw [h.1] at hmem
  exact mem_map.mp hmem

theorem requestResearch_same (execution : Execution) (d : Dispatch) (request : String) :
    SameDispatches w (w.requestResearch execution d request) := by
  unfold requestResearch
  split
  · exact .on rfl (fun _ => rfl) rfl
  split
  · exact .on rfl (fun _ => rfl) rfl
  · exact .on rfl (fun _ => rfl) rfl

theorem next_same {event : FlowEvent} (hcapture : ∀ d n, event ≠ .capture d n)
    (hpersist : ∀ id revisionId approved, event ≠ .persist id revisionId approved) :
    SameDispatches w (w.next event) := by
  cases event with
  | capture d n => exact absurd rfl (hcapture d n)
  | persist id revisionId approved => exact absurd rfl (hpersist id revisionId approved)
  | claim key id =>
    simp only [next]
    split
    · exact .refl
    · exact ⟨rfl, rfl⟩
  | requestResearch id request =>
    exact withDispatch_rule SameDispatches.refl fun execution d _ _ => requestResearch_same execution d request
  | prepare _ | generated _ | generationFailed _ _ =>
    exact withDispatch_rule SameDispatches.refl fun _ _ _ _ => .on rfl (fun _ => rfl) rfl
  | resume _ | shortCircuit _ | raise _ _ | finish _ =>
    exact withExecution_rule SameDispatches.refl fun _ _ => ⟨rfl, rfl⟩
  | check id brandProfileId => exact withDispatch_rule SameDispatches.refl fun _ _ _ _ => ⟨rfl, rfl⟩
  | report id =>
    exact withDispatch_rule SameDispatches.refl fun _ _ _ _ =>
      .on rfl (fun d => d.identity_unlessRevised _) rfl
  | researched id result =>
    exact withJob_rule SameDispatches.refl fun _ _ _ _ => .on rfl (fun _ => rfl) rfl
  | researchFailed id error =>
    exact withJob_rule SameDispatches.refl fun _ _ _ _ =>
      .on rfl (fun d => d.identity_unlessRevised _) rfl
  | fail id => exact withJob_rule SameDispatches.refl fun _ _ _ _ => ⟨rfl, rfl⟩
  | vanish id => exact .refl
  | expire key =>
    simp only [next]
    split
    · exact .refl
    split
    · exact ⟨rfl, rfl⟩
    · exact .on rfl (Dispatch.identity_expired key) rfl
  | reject _ | cancel _ | retry _ => exact ⟨rfl, rfl⟩

/-! ## Live dispatches -/

/-- The job is for the dispatch, or carries its continuation. -/
def Serves (w : FlowWorld) (key : JobKey) (id : UUID) : Prop :=
  key.dispatch = some id ∨ ∃ job ∈ w.jobs.lookup key, id ∈ job.continuations

def Running (w : FlowWorld) (key : JobKey) : Prop :=
  (∃ job ∈ w.jobs.lookup key, job.live = true)
    ∨ ∃ execution ∈ w.executions.rows, execution.key = key

/-- Something can still be done for the dispatch. -/
def Live (w : FlowWorld) (id : UUID) : Prop :=
  (∃ job ∈ w.jobs.rows, w.Running job.key ∧ w.Serves job.key id)
    ∨ ∃ execution ∈ w.executions.rows, w.Serves execution.key id

/-- Nothing more can be done for the earlier dispatches without a revision. -/
def Clear (w : FlowWorld) (d : Dispatch) : Prop :=
  ∀ earlier ∈ w.dispatches.rows, sameLineage earlier d = true →
    earlier.creationSequence < d.creationSequence → earlier.variantRevision = none →
      ¬ w.Live earlier.id

/-- What the check has seen of the dispatches earlier than an execution's own. -/
def Stage.isChecked : Stage → Bool
  | .checked _ _ _ => true
  | _ => false

/-- A later dispatch neither has a revision nor is past its check. -/
def Unpassed (w : FlowWorld) (d : Dispatch) : Prop :=
  ∀ later ∈ w.dispatches.rows, sameLineage d later = true →
    d.creationSequence < later.creationSequence → later.variantRevision = none
      ∧ ∀ execution ∈ w.executions.rows, execution.key.dispatch = some later.id →
        Stage.isChecked execution.stage = false

/-- Every earlier live dispatch is in a waiting status at a check, and retries come in time. -/
def InTurn (w : FlowWorld) : FlowEvent → Prop
  | .check id _ => ∀ execution ∈ w.executions.lookup id, ∀ d ∈ w.dispatchOf execution,
      ∀ earlier ∈ w.dispatches.rows, sameLineage earlier d = true →
        earlier.creationSequence < d.creationSequence → earlier.variantRevision = none →
          w.Live earlier.id → earlier.status.waiting = true
  | .retry key => ∀ d ∈ w.dispatches.rows, w.Serves key d.id → d.variantRevision = none →
      w.Unpassed d
  | _ => True

variable {id : UUID}

theorem live_iff : w.Live id ↔ ∃ key, w.Running key ∧ w.Serves key id := by
  constructor
  · rintro (⟨job, -, hrunning, hserves⟩ | ⟨execution, hexecution, hserves⟩)
    · exact ⟨job.key, hrunning, hserves⟩
    · exact ⟨execution.key, .inr ⟨execution, hexecution, rfl⟩, hserves⟩
  · intro ⟨key, hrunning, hserves⟩
    rcases hrunning with ⟨job, hjob, hlive⟩ | ⟨execution, hexecution, rfl⟩
    · have hlookup : w.jobs.lookup key = some job := hjob
      obtain rfl : job.key = key := key_of_lookup hlookup
      exact .inl ⟨job, mem_of_lookup hlookup, .inl ⟨job, hjob, hlive⟩, hserves⟩
    · exact .inr ⟨execution, hexecution, hserves⟩

variable {execution : Execution}

theorem running_of_mem (h : execution ∈ w.executions.rows) : w.Running execution.key :=
  .inr ⟨execution, h, rfl⟩

variable {key : JobKey}

theorem running_of_status {status : JobStatus} (h : ∃ job ∈ w.jobs.lookup key, job.status = status)
    (hlive : status = .queued ∨ status = .running) : w.Running key := by
  obtain ⟨job, hjob, hstatus⟩ := h
  refine .inl ⟨job, hjob, ?_⟩
  rw [FlowJob.live, decide_eq_true_iff, hstatus]
  exact hlive

theorem running_of_holds (h : w.Holds execution) : w.Running execution.key := by
  obtain ⟨job, hjob, hstatus, -⟩ := h
  exact running_of_status ⟨job, hjob, hstatus⟩ (.inr rfl)

variable {d : Dispatch}

theorem live_of_dispatchOf (hexecution : execution ∈ w.executions.rows)
    (hd : w.dispatchOf execution = some d) : w.Live d.id :=
  .inr ⟨execution, hexecution, .inl (dispatchOf_eq hd).1⟩

/-! ## What a step adds -/

/-- What a job of the next state can do for a dispatch could be done before. -/
def JobWithin (w : FlowWorld) (id : UUID) (job : FlowJob) : Prop :=
  job.serves id = true → w.Live id ∨ w.Serves job.key id ∧ (job.live = true → w.Running job.key)

/-- An execution of the next state could be run before, and passed its check there or now. -/
def ExecutionWithin (w : FlowWorld) (execution : Execution) : Prop :=
  w.Running execution.key ∧ (Stage.isChecked execution.stage = true → execution ∈ w.executions.rows
      ∨ ∃ d ∈ w.dispatches.rows, execution.key.dispatch = some d.id ∧ w.Clear d)

/-- A step adds nothing that can be done for the dispatch. -/
structure Within (w : FlowWorld) (id : UUID) (w' : FlowWorld) : Prop where
  jobs : Table.All (w.JobWithin id) w'.jobs
  executions : Table.All w.ExecutionWithin w'.executions

theorem Within.live (hwithin : Within w id w') (h : w'.Live id) : w.Live id := by
  obtain ⟨key, hrunning, hserves⟩ := live_iff.mp h
  -- the job that carries the continuation may be dead, and only its execution be left
  have hserved : w.Live id ∨ w.Serves key id := by
    rcases hserves with hdispatch | ⟨job, hjob, hcontinuation⟩
    · exact .inr (.inl hdispatch)
    have hlookup : w'.jobs.lookup key = some job := hjob
    obtain rfl : job.key = key := key_of_lookup hlookup
    rcases hwithin.jobs.lookup hlookup (serves_iff.mpr (.inr hcontinuation)) with hlive | hold
    · exact .inl hlive
    · exact .inr hold.1
  rcases hserved with hlive | hbefore
  · exact hlive
  rcases hrunning with ⟨job, hjob, hlive⟩ | ⟨execution, hexecution, rfl⟩
  · have hlookup : w'.jobs.lookup key = some job := hjob
    obtain rfl : job.key = key := key_of_lookup hlookup
    have hjobServes : job.serves id = true := by
      rcases hserves with hdispatch | ⟨other, hother, hcontinuation⟩
      · exact serves_iff.mpr (.inl hdispatch)
      have hsame : job = other := Option.some.inj (hlookup.symm.trans hother)
      rw [hsame]
      exact serves_iff.mpr (.inr hcontinuation)
    rcases hwithin.jobs.lookup hlookup hjobServes with hlive' | hold
    · exact hlive'
    · exact live_iff.mpr ⟨job.key, hold.2 hlive, hbefore⟩
  · exact live_iff.mpr ⟨execution.key, (hwithin.executions execution hexecution).1, hbefore⟩

theorem jobWithin_of_mem {job : FlowJob} (h : job ∈ w.jobs.rows) : w.JobWithin id job := by
  have hlookup : w.jobs.lookup job.key = some job := lookup_of_mem h
  intro hserves
  refine .inr ⟨?_, fun hlive => .inl ⟨job, hlookup, hlive⟩⟩
  rcases serves_iff.mp hserves with hdispatch | hcontinuation
  · exact .inl hdispatch
  · exact .inr ⟨job, hlookup, hcontinuation⟩

theorem jobWithin_self : Table.All (w.JobWithin id) w.jobs := fun _ h =>
  jobWithin_of_mem h

theorem jobWithin_of_live {job : FlowJob} (h : job.serves id = true → w.Live id) :
    w.JobWithin id job :=
  fun hserves => .inl (h hserves)

theorem jobWithin_onJob {jobs : Table FlowJob} {f : FlowJob → FlowJob}
    (hrows : jobs.rows = w.jobs.rows.map fun job => if job.key = key then f job else job)
    (hf : ∀ job, (f job).key = job.key)
    (hcontinuations : ∀ job, id ∈ (f job).continuations → id ∈ job.continuations ∨ w.Live id)
    (hlive : ∀ job, w.jobs.lookup key = some job → w.Serves key id → (f job).live = true → w.Running
      key) : Table.All (w.JobWithin id) jobs := by
  intro job' hjob'
  rw [hrows] at hjob'
  obtain ⟨job, hjob, heq⟩ := mem_map.mp hjob'
  by_cases hkey : job.key = key
  · rw [if_pos hkey] at heq
    subst heq
    have hlookup : w.jobs.lookup job.key = some job := lookup_of_mem hjob
    intro hserves
    have hbefore : w.Live id ∨ w.Serves job.key id := by
      rcases serves_iff.mp hserves with hdispatch | hcontinuation
      · rw [hf] at hdispatch
        exact .inr (.inl hdispatch)
      · rcases hcontinuations job hcontinuation with hold | hnew
        · exact .inr (.inr ⟨job, hlookup, hold⟩)
        · exact .inl hnew
    rcases hbefore with hbefore | hbefore
    · exact .inl hbefore
    rw [hkey] at hlookup hbefore
    have hkey' : (f job).key = key := (hf job).trans hkey
    rw [hkey']
    exact .inr ⟨hbefore, hlive job hlookup hbefore⟩
  · rw [if_neg hkey] at heq
    subst heq
    exact jobWithin_of_mem hjob

theorem jobWithin_jobStatus {status : JobStatus}
    (h : w.Serves key id → status = .queued ∨ status = .running → w.Running key) :
    Table.All (w.JobWithin id) (w.jobStatus key status) := by
  refine jobWithin_onJob rfl (fun _ => rfl) (fun _ hmem => .inl hmem) fun job _ hserves hlive => ?_
  rw [FlowJob.live, decide_eq_true_iff] at hlive
  exact h hserves hlive

theorem requestResearch_jobs (hlive : w.Live d.id) (request : String) :
    Table.All (w.JobWithin id) (w.requestResearch execution d request).jobs := by
  have hsubscribed : ∀ key : JobKey, Table.All (w.JobWithin id) (w.onJob key (fun job =>
        { job with
          continuations :=
            if d.id ∈ job.continuations then job.continuations else job.continuations ++ [d.id] })
        fun _ => rfl) := by
    intro key
    refine jobWithin_onJob rfl (fun _ => rfl) (fun job hid => ?_) fun job hjob _ hrun =>
      .inl ⟨job, hjob, hrun⟩
    split at hid
    · exact .inl hid
    rcases mem_append.mp hid with hid | hid
    · exact .inl hid
    rw [mem_singleton.mp hid]
    exact .inr hlive
  unfold requestResearch
  split
  · refine jobWithin_self.insert (jobWithin_of_live fun hserves => ?_)
    rcases serves_iff.mp hserves with hdispatch | hcontinuation
    · cases hdispatch
    rw [mem_singleton.mp hcontinuation]
    exact hlive
  · rename_i job hjob
    split
    · exact hsubscribed job.key
    refine (hsubscribed job.key).insert (jobWithin_of_live fun hserves => ?_)
    rw [eq_of_serves_queued rfl hserves]
    exact hlive

theorem executionWithin_of_mem (h : execution ∈ w.executions.rows) : w.ExecutionWithin execution :=
  ⟨running_of_mem h, fun _ => .inl h⟩

theorem executionWithin_self : Table.All w.ExecutionWithin w.executions := fun _ h =>
  executionWithin_of_mem h

theorem executionWithin_stage (hexecution : w.executions.lookup id = some execution) {stage : Stage}
    (hstage : Stage.isChecked stage = false) :
    Table.All w.ExecutionWithin (w.stage execution stage) := by
  have hrunning := running_of_mem (mem_of_lookup hexecution)
  refine executionWithin_self.put ⟨hrunning, fun hchecked => ?_⟩
  rw [hstage] at hchecked
  cases hchecked

theorem executionWithin_erase (id : UUID) :
    Table.All w.ExecutionWithin (w.executions.erase id) := by
  intro execution hexecution
  exact executionWithin_of_mem (mem_erase.mp hexecution).1

theorem Within.refl : Within w id w := ⟨jobWithin_self, executionWithin_self⟩

theorem clear_of_check {brandProfileId : UUID} (henabled : w.Enabled (.check id brandProfileId))
    (hturn : w.InTurn (.check id brandProfileId))
    (hexecution : w.executions.lookup id = some execution) (hd : w.dispatchOf execution = some d) :
    w.Clear d := by
  obtain ⟨found, hfound, d', hd', -, -, -, hwaiting⟩ := henabled
  obtain rfl : execution = found := Option.some.inj (hexecution.symm.trans hfound)
  obtain rfl : d = d' := Option.some.inj (hd.symm.trans hd')
  intro earlier hearlier hlineage hsequence hnone hlive
  have hstatus := hturn execution hexecution d hd earlier hearlier hlineage hsequence hnone hlive
  rw [earlierWaiting, any_eq_false] at hwaiting
  refine hwaiting earlier hearlier ?_
  rw [decide_eq_true_iff]
  exact ⟨hlineage, hsequence, hnone, hstatus⟩

/-- **Only a capture and a retry give a dispatch something to be done.** -/
theorem next_within {event : FlowEvent} (henabled : w.Enabled event) (hturn : w.InTurn event)
    (hcapture : ∀ d n, event = .capture d n → id ≠ d.id)
    (hretry : ∀ key, event = .retry key → ¬ w.Serves key id) : Within w id (w.next event) := by
  cases event with
  | capture d n =>
    refine ⟨?_, executionWithin_self⟩
    simp only [next]
    split
    · refine jobWithin_self.insert (jobWithin_of_live fun hserves => ?_)
      exact absurd (eq_of_serves_queued rfl hserves) (hcapture d n rfl)
    · exact jobWithin_self
  | retry key =>
    exact ⟨jobWithin_jobStatus fun hserves => absurd hserves (hretry key rfl), executionWithin_self⟩
  | claim key id' =>
    obtain ⟨-, job, hjob, hstatus⟩ := henabled
    have hrunning : w.Running key := running_of_status ⟨job, hjob, hstatus⟩ (.inl rfl)
    have hlookup : w.jobs.lookup key = some job := hjob
    simp only [next, hlookup]
    refine ⟨jobWithin_onJob rfl (fun _ => rfl) (fun _ h => .inl h) fun _ _ _ _ => hrunning, ?_⟩
    exact executionWithin_self.insert ⟨hrunning, fun hchecked => by cases hchecked⟩
  | requestResearch id' request =>
    refine withDispatch_rule Within.refl fun execution d hexecution hd => ?_
    have hlive := live_of_dispatchOf (mem_of_lookup hexecution) hd
    refine ⟨requestResearch_jobs hlive request, ?_⟩
    rw [requestResearch_executions]
    exact executionWithin_stage hexecution rfl
  | resume _ | shortCircuit _ | raise _ _ =>
    exact withExecution_rule Within.refl fun _ hexecution =>
      ⟨jobWithin_self, executionWithin_stage hexecution rfl⟩
  | check id' brandProfileId =>
    refine withDispatch_rule Within.refl fun execution d hexecution hd => ⟨jobWithin_self, ?_⟩
    have hrunning := running_of_mem (mem_of_lookup hexecution)
    have hclear := clear_of_check henabled hturn hexecution hd
    have hkey := dispatchOf_eq hd
    exact executionWithin_self.put ⟨hrunning, fun _ => .inr ⟨d, hkey.2, hkey.1, hclear⟩⟩
  | persist id' revisionId approved =>
    refine withDispatch_rule Within.refl fun _ _ hexecution _ => ?_
    split
    · exact ⟨jobWithin_self, executionWithin_stage hexecution rfl⟩
    · exact .refl
  | researched id' result =>
    refine withJob_rule Within.refl fun execution job hexecution hjob => ⟨?_, ?_⟩
    · refine all_fanOut (jobWithin_onJob rfl (fun _ => rfl) (fun _ h => .inl h) ?_) ?_
      · exact fun job hjob _ hlive => .inl ⟨job, hjob, hlive⟩
      -- the finished research was still the execution's, and carried the continuation
      refine fun dispatchId hdispatch => jobWithin_of_live fun hserves => ?_
      rw [eq_of_serves_queued rfl hserves]
      exact .inr ⟨execution, mem_of_lookup hexecution, .inr ⟨job, hjob, hdispatch⟩⟩
    · exact executionWithin_stage hexecution rfl
  | researchFailed id' error =>
    exact withJob_rule Within.refl fun _ _ hexecution _ =>
      ⟨jobWithin_self, executionWithin_stage hexecution rfl⟩
  | finish id' =>
    refine withExecution_rule Within.refl fun execution _ => ⟨?_, executionWithin_erase id'⟩
    exact jobWithin_jobStatus (by simp)
  | fail id' =>
    obtain ⟨execution, hexecution, hholds, -⟩ := henabled
    refine withJob_rule Within.refl fun found job hfound _ => ⟨?_, executionWithin_erase id'⟩
    have hsame : found = execution := Option.some.inj (hfound.symm.trans hexecution)
    rw [hsame]
    exact jobWithin_jobStatus fun _ _ => running_of_holds hholds
  | vanish id' => exact ⟨jobWithin_self, executionWithin_erase id'⟩
  | expire key =>
    have hrunning : w.Running key := running_of_status henabled (.inr rfl)
    simp only [next]
    split
    · exact .refl
    split
    · exact ⟨jobWithin_jobStatus fun _ _ => hrunning, executionWithin_self⟩
    · exact ⟨jobWithin_jobStatus fun _ _ => hrunning, executionWithin_self⟩
  | reject _ | cancel _ => exact ⟨jobWithin_jobStatus (by simp), executionWithin_self⟩
  | _ =>
    exact withDispatch_rule Within.refl fun _ _ hexecution _ =>
      ⟨jobWithin_self, executionWithin_stage hexecution rfl⟩

end FlowWorld

end NewsCraft.Telegram.DispatchFlow
