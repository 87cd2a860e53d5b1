import NewsCraft.Telegram.ActivationJobs
import NewsCraft.Telegram.RouteFenced

/-!
# When an accepted activation is alive

A request or a job that leaves a job on the queue leaves nothing where the key is in use:
the job that has the key may be over, or the very one that ends. A replayed activation whose
job failed is such a case, and so is a deferral under another activation than the stored one.

A step keeps what is promised of it exactly when its key is unused and made for the stored
activation, or another job of that is queued or running; and so does a whole history.
-/

namespace NewsCraft.Telegram.ActivationJobs

open Lib Jobs Telegram.RouteFence List

variable {C : String → Option Datetime} {w : ActivationWorld} {jobs : List InitJob} {job : InitJob}
  {jobId : Nat} {ending : Option Nat} {requestedAt : String}

/-! ## The queue -/

theorem enqueue_of_used (h : ∃ other ∈ jobs, other.key = job.key) : enqueue jobs job = jobs := by
  refine if_pos ?_
  obtain ⟨other, hmem, hkey⟩ := h
  exact any_eq_true.mpr ⟨other, hmem, decide_eq_true hkey⟩

theorem enqueue_of_unused (h : ∀ other ∈ jobs, other.key ≠ job.key) :
    enqueue jobs job = jobs ++ [job] := by
  refine if_neg ?_
  intro hused
  obtain ⟨other, hmem, hkey⟩ := any_eq_true.mp hused
  exact h other hmem (of_decide_eq_true hkey)

theorem alive_append (hending : ∀ id, ending = some id → id < jobs.length) :
    Alive (jobs ++ [job]) ending requestedAt
      ↔ Alive jobs ending requestedAt ∨ job.activationRequestedAt = requestedAt ∧ job.alive := by
  constructor
  · rintro ⟨id, other, hid, hother, hactivation, halive⟩
    by_cases hlt : id < jobs.length
    · rw [getElem?_append_left hlt] at hid
      exact .inl ⟨id, other, hid, hother, hactivation, halive⟩
    · have hmem := mem_of_getElem? hid
      rw [getElem?_append_right (by omega)] at hid
      rw [mem_singleton.mp (mem_of_getElem? hid)] at hactivation halive
      exact .inr ⟨hactivation, halive⟩
  · rintro (⟨id, other, hid, hother, hactivation, halive⟩ | ⟨hactivation, halive⟩)
    · have hlt := (List.getElem?_eq_some_iff.mp hid).1
      refine ⟨id, other, ?_, hother, hactivation, halive⟩
      rw [getElem?_append_left hlt, hid]
    · refine ⟨jobs.length, job, getElem?_concat_length, ?_, hactivation, halive⟩
      intro heq
      have hlt := hending _ heq
      omega

theorem alive_enqueue (hending : ∀ id, ending = some id → id < jobs.length)
    (hqueued : job.status = .queued) :
    Alive (enqueue jobs job) ending requestedAt ↔ Alive jobs ending requestedAt
      ∨ job.activationRequestedAt = requestedAt ∧ ∀ other ∈ jobs, other.key ≠ job.key := by
  by_cases hused : ∃ other ∈ jobs, other.key = job.key
  · rw [enqueue_of_used hused]
    constructor
    · intro halive
      exact .inl halive
    · rintro (halive | ⟨-, hunused⟩)
      · exact halive
      obtain ⟨other, hmem, hkey⟩ := hused
      exact absurd hkey (hunused other hmem)
  · have hunused : ∀ other ∈ jobs, other.key ≠ job.key := by
      intro other hmem hkey
      exact hused ⟨other, hmem, hkey⟩
    rw [enqueue_of_unused hunused, alive_append hending]
    constructor
    · intro halive
      exact halive.imp_right fun hnew => ⟨hnew.1, hunused⟩
    · intro halive
      exact halive.imp_right fun hnew => ⟨hnew.1, Or.inl hqueued⟩

namespace ActivationWorld

theorem served_iff {stored : Option String} (hending : ∀ id, ending = some id → id < w.jobs.length)
    (hqueued : job.status = .queued) :
    (∃ activation, stored = some activation ∧ Alive (enqueue w.jobs job) ending activation)
      ↔ w.Served ending job.key job.activationRequestedAt stored := by
  constructor
  · rintro ⟨activation, hstored, halive⟩
    rcases (alive_enqueue hending hqueued).mp halive with halive | ⟨hactivation, hunused⟩
    · exact .inr ⟨activation, hstored, halive⟩
    refine .inl ⟨?_, hunused⟩
    rw [hstored, hactivation]
  · rintro (⟨hstored, hunused⟩ | ⟨activation, hstored, halive⟩)
    · exact ⟨_, hstored, (alive_enqueue hending hqueued).mpr (.inr ⟨rfl, hunused⟩)⟩
    · exact ⟨activation, hstored, (alive_enqueue hending hqueued).mpr (.inl halive)⟩

theorem Going.attended_iff (h : w.Going) : w.Attended ending
    ↔ ∃ activation, w.row.activation = some activation ∧ Alive w.jobs ending activation := by
  have hnot : w.row.route.cursorState.status ≠ some "ready" := by
    intro hready
    rcases h with hgoing | hgoing
    · exact absurd (Option.some.inj (hready.symm.trans hgoing)) (by decide)
    · exact absurd (Option.some.inj (hready.symm.trans hgoing)) (by decide)
  constructor
  · intro hattended
    exact hattended.resolve_left hnot
  · intro halive
    exact .inr halive

/-! ## Requests -/

theorem activated_row (now : String) :
    (w.activated now).row.route.cursorState.status = some "initializing"
      ∧ (w.activated now).row.activation = some (w.requestedAt now) := by
  unfold activated requestedAt
  by_cases hreplaying : w.replaying = true
  · have hstate : w.row.route.enabled = true
        ∧ w.row.route.cursorState.status = some "initializing"
        ∧ w.row.activation.isSome = true := by simpa [replaying] using hreplaying
    obtain ⟨-, hstatus, hactivation⟩ := hstate
    obtain ⟨activation, hactivation⟩ := Option.isSome_iff_exists.mp hactivation
    simp only [hreplaying, if_true, hstatus, hactivation, Option.getD_some, and_self]
  · simp only [hreplaying]
    exact ⟨rfl, rfl⟩

theorem activate_keeps_iff (now : String) :
    w.Keeps C (.activate now) ↔ w.Meets (.activate now) := by
  obtain ⟨hstatus, hactivation⟩ := activated_row (w := w) now
  have hgoing : (w.activated now).Going := Or.inl hstatus
  refine hgoing.attended_iff.trans ?_
  rw [hactivation]
  have hnone : ∀ id : Nat, none = some id → id < w.jobs.length := by
    intro id hid
    cases hid
  exact served_iff hnone rfl

/-! ## Deferrals -/

theorem holdTransaction_iff (hjob : w.jobs[jobId]? = some job) (run : InitRun) :
    (∀ transaction, w.holdTransaction jobId job = .ok transaction →
        (w.committed run (.ok transaction)).Going →
        (w.committed run (.ok transaction)).Attended (some jobId)) ↔ w.HoldServed jobId job := by
  have hending : ∀ id, some jobId = some id → id < w.jobs.length := by
    intro id hid
    rw [← Option.some.inj hid]
    exact (List.getElem?_eq_some_iff.mp hjob).1
  unfold holdTransaction deferRouteJob HoldServed
  by_cases hseq : maxDeferSequence < job.deferSequence + 1
  · rw [if_pos hseq]
    constructor
    · intro _ hle
      omega
    · intro _ transaction htransaction
      cases htransaction
  · rw [if_neg hseq]
    let deferred : InitJob := ⟨deferKey jobId job, job.activationRequestedAt,
      some (job.deferRootJobId.getD jobId), job.deferSequence + 1, .queued⟩
    let after := w.committed run (.ok ⟨w.row, enqueue w.jobs deferred, none⟩)
    have hserved : (∃ activation, after.row.activation = some activation
          ∧ Alive after.jobs (some jobId) activation)
        ↔ w.Served (some jobId) (deferKey jobId job) job.activationRequestedAt w.row.activation :=
      served_iff hending rfl
    constructor
    · intro hkept _ hgoing
      have hafter : after.Going := hgoing
      exact hserved.mp (hafter.attended_iff.mp (hkept _ rfl hafter))
    · intro hheld transaction htransaction hgoing
      obtain rfl := Except.ok.inj htransaction
      have hafter : after.Going := hgoing
      exact hafter.attended_iff.mpr (hserved.mpr (hheld (by omega) hgoing))

/-! ## Writes -/

variable {session : InitSession} {write : RouteWrite}

theorem checked_ok (h : w.checked session write = .ok none) :
    session.copy.activation = some session.requestedRaw ∧ session.copy.route.cursorState.status
        = some (write.requiredStatus .initializeRoute session.expectedStatus) := by
  unfold checked validateLockedRoute at h
  split at h
  · cases h
  rename_i hactivation
  split at h
  · cases h
  split at h
  · cases h
  rename_i hstatus
  refine ⟨?_, not_not.mp hstatus⟩
  rw [not_and, not_not] at hactivation
  exact hactivation rfl

theorem flushed_cases (session : InitSession) (write : RouteWrite) :
    let changed := write.apply session.copy .initializeRoute
    let row := w.row.flushed session.copy changed
    if Overwrites session write then
      row.activation = session.copy.activation
        ∧ row.route.cursorState.status = changed.route.cursorState.status
    else
      row.activation = w.row.activation
        ∧ row.route.cursorState.status = w.row.route.cursorState.status := by
  intro changed row
  by_cases hover : Overwrites session write
  · rw [if_pos hover]
    have hcursor := written_of_ne hover (w.row.route.cursorState, w.row.initialization)
    have hactivation : row.activation = changed.activation := by
      simp only [row, changed, RouteRow.flushed, RouteRow.activation, hcursor]
    refine ⟨hactivation.trans (activation_apply session.copy .initializeRoute write), ?_⟩
    simp only [row, changed, RouteRow.flushed, hcursor]
  · rw [if_neg hover]
    have hsame := not_not.mp hover
    simp only [row, changed, RouteRow.flushed, RouteRow.activation, hsame, written_same, and_self]

variable {lastScannedId : Int}

theorem status_of_continuation {state : Continuation}
    (hchecked : w.checked session write = .ok none)
    (h : continuationOf session.copy lastScannedId write = some state) :
    (write.apply session.copy .initializeRoute).route.cursorState.status = some "catching_up"
      ∨ ¬ Overwrites session write := by
  obtain ⟨-, hstatus⟩ := checked_ok hchecked
  cases write with
  | activationScan boundary snapshotToken pageToken seenPageTokens lastScanned => exact .inl rfl
  | forwardProgress forward => exact .inl hstatus
  | catchUpCycle =>
    refine .inr ?_
    intro hover
    exact hover rfl
  | _ => cases h

theorem continuation_iff (hjob : w.jobs[jobId]? = some job) {state : Continuation} (run : InitRun)
    (hchecked : w.checked session write = .ok none)
    (hstate : continuationOf session.copy lastScannedId write = some state) :
    let row := w.row.flushed session.copy (write.apply session.copy .initializeRoute)
    let after := w.committed run
      (.ok ⟨row, enqueueContinuation w.jobs session.requestedRaw state, none⟩)
    (after.Going → after.Attended (some jobId))
      ↔ w.ContinuationServed jobId session write state := by
  intro row after
  have hending : ∀ id, some jobId = some id → id < w.jobs.length := by
    intro id hid
    rw [← Option.some.inj hid]
    exact (List.getElem?_eq_some_iff.mp hjob).1
  have hserved : (∃ activation, row.activation = some activation
        ∧ Alive after.jobs (some jobId) activation)
      ↔ w.Served (some jobId) (.continuation session.requestedRaw state) session.requestedRaw
        row.activation :=
    served_iff hending rfl
  have hcases := flushed_cases (w := w) session write
  unfold ContinuationServed
  by_cases hover : Overwrites session write
  · rw [if_pos hover] at hcases ⊢
    obtain ⟨hactivation, hstatus⟩ := hcases
    have hcatching := (status_of_continuation hchecked hstate).resolve_right (not_not.mpr hover)
    have hgoing : after.Going := Or.inr (hstatus.trans hcatching)
    rw [← (checked_ok hchecked).1, ← hactivation]
    constructor
    · intro hkept
      exact hserved.mp (hgoing.attended_iff.mp (hkept hgoing))
    · intro hmeets _
      exact hgoing.attended_iff.mpr (hserved.mpr hmeets)
  · rw [if_neg hover] at hcases ⊢
    obtain ⟨hactivation, hstatus⟩ := hcases
    have hsame : after.Going ↔ w.Going := by
      show (row.route.cursorState.status = _ ∨ row.route.cursorState.status = _) ↔ _
      rw [hstatus]
      exact Iff.rfl
    rw [← hactivation]
    constructor
    · intro hkept hgoing
      have hafter := hsame.mpr hgoing
      exact hserved.mp (hafter.attended_iff.mp (hkept hafter))
    · intro hmeets hafter
      exact hafter.attended_iff.mpr (hserved.mpr (hmeets (hsame.mp hafter)))

theorem finalize_ready {now : Datetime} (hchecked : w.checked session (.finalize now) = .ok none) :
    (w.row.flushed session.copy
      (RouteWrite.apply session.copy .initializeRoute (.finalize now))).route.cursorState.status
      = some "ready" := by
  have hstatus := (checked_ok hchecked).2
  have hover : Overwrites session (.finalize now) := by
    intro heq
    have hready := congrArg (fun cursor => cursor.1.status) heq
    have hcopy : session.copy.route.cursorState.status = some "ready" := hready.symm
    have hrequired : some "catching_up" = some "ready" := hstatus.symm.trans hcopy
    exact absurd (Option.some.inj hrequired) (by decide)
  have hcases := flushed_cases (w := w) session (.finalize now)
  rw [if_pos hover] at hcases
  exact hcases.2

/-- What a transaction that returns leaves is kept. -/
def TransactionKept (w : ActivationWorld) (run : InitRun) (jobId : Nat)
    (result : Except HandlerError Transaction) : Prop :=
  ∀ row jobs, result = .ok ⟨row, jobs, none⟩ → (w.committed run (.ok ⟨row, jobs, none⟩)).Going →
    (w.committed run (.ok ⟨row, jobs, none⟩)).Attended (some jobId)

theorem holdTransaction_kept_iff (hjob : w.jobs[jobId]? = some job) (run : InitRun) :
    TransactionKept w run jobId (w.holdTransaction jobId job) ↔ w.HoldServed jobId job := by
  rw [← holdTransaction_iff hjob run]
  constructor
  · intro hkept transaction htransaction
    have hnone : transaction.session = none := by
      unfold holdTransaction at htransaction
      split at htransaction
      · cases htransaction
      obtain rfl := Except.ok.inj htransaction
      rfl
    obtain ⟨row, jobs, session⟩ := transaction
    obtain rfl : session = none := hnone
    exact hkept row jobs htransaction
  · intro hkept row jobs hresult
    exact hkept _ hresult

theorem writeTransaction_kept_iff (hjob : w.jobs[jobId]? = some job) (run : InitRun) :
    TransactionKept w run jobId (w.writeTransaction jobId job session write lastScannedId)
      ↔ (∀ reason, w.checked session write = .ok (some reason) → w.HoldServed jobId job)
        ∧ (w.checked session write = .ok none →
          ∀ state ∈ continuationOf session.copy lastScannedId write,
            w.ContinuationServed jobId session write state) := by
  unfold writeTransaction
  cases hchecked : w.checked session write with
  | error e =>
    constructor
    · intro _
      exact ⟨fun _ h => (by cases h), fun h => (by cases h)⟩
    · intro _ row jobs hresult
      cases hresult
  | ok held =>
    cases held with
    | some reason =>
      refine (holdTransaction_kept_iff hjob run).trans ?_
      constructor
      · intro hheld
        exact ⟨fun _ _ => hheld, fun h => (by cases h)⟩
      · intro hmeets
        exact hmeets.1 reason rfl
    | none =>
      cases hstate : continuationOf session.copy lastScannedId write with
      | some state =>
        have hiff := continuation_iff hjob run hchecked hstate
        constructor
        · intro hkept
          refine ⟨fun _ h => (by cases h), ?_⟩
          intro _ other hother
          obtain rfl := Option.some.inj hother
          exact hiff.mp (hkept _ _ rfl)
        · intro hmeets row jobs hresult
          obtain ⟨rfl, rfl, -⟩ := Transaction.mk.inj (Except.ok.inj hresult)
          exact hiff.mpr (hmeets.2 rfl state rfl)
      | none =>
        -- Only the last write of all returns without a continuation.
        constructor
        · intro _
          exact ⟨fun _ h => (by cases h), fun _ _ hother => (by cases hother)⟩
        · intro _ row jobs hresult hgoing
          cases write with
          | finalize now =>
            obtain ⟨rfl, rfl, -⟩ := Transaction.mk.inj (Except.ok.inj hresult)
            exact .inl (finalize_ready hchecked)
          | activationScan boundary snapshotToken pageToken seenPageTokens lastScanned =>
            cases hstate
          | forwardProgress _ | catchUpCycle => cases hstate
          | _ => cases hresult

/-! ## Histories -/

theorem keeps_of_transaction {event : ActivationEvent} {run : InitRun}
    {result : Except HandlerError Transaction} (h : w.transaction event = some (run, result))
    (hnext : w.next C event = w.committed run result) :
    (∀ jobId ∈ w.returns event, (w.next C event).Going → (w.next C event).Attended (some jobId))
      ↔ TransactionKept w run run.jobId result := by
  unfold returns TransactionKept
  rw [h, hnext]
  cases result with
  | error e =>
    constructor
    · intro _ row jobs hresult
      cases hresult
    · intro _ jobId hjob
      cases hjob
  | ok transaction =>
    obtain ⟨row, jobs, session⟩ := transaction
    cases session with
    | some session =>
      constructor
      · intro _ row' jobs' hresult
        cases hresult
      · intro _ jobId hjob
        cases hjob
    | none =>
      constructor
      · intro hkept row' jobs' hresult
        obtain ⟨rfl, rfl, -⟩ := Transaction.mk.inj (Except.ok.inj hresult)
        exact hkept run.jobId rfl
      · intro hkept jobId hjob
        obtain rfl := Option.some.inj hjob
        exact hkept row jobs rfl

theorem keeps_of_no_transaction {event : ActivationEvent} (h : w.transaction event = none) :
    ∀ jobId ∈ w.returns event, (w.next C event).Going → (w.next C event).Attended (some jobId) := by
  intro jobId hjob
  unfold returns at hjob
  rw [h] at hjob
  cases hjob

theorem hold_keeps_iff (runId : Nat) : w.Keeps C (.hold runId) ↔ w.Meets (.hold runId) := by
  cases hrun : w.runs.lookup runId with
  | none =>
    have hnone : w.transaction (.hold runId) = none := by simp [transaction, hrun]
    exact ⟨fun _ run hmem => (by rw [hrun] at hmem; cases hmem),
      fun _ => keeps_of_no_transaction hnone⟩
  | some run =>
    by_cases hphase : run.phase = .holding
    · cases hjob : w.jobs[run.jobId]? with
      | none =>
        have hnone : w.transaction (.hold runId) = none := by
          simp [transaction, hrun, hphase, hjob]
        constructor
        · intro _ other hother _ job hmem
          rw [hrun] at hother
          obtain rfl := Option.some.inj hother
          rw [hjob] at hmem
          cases hmem
        · intro _
          exact keeps_of_no_transaction hnone
      | some job =>
        have hsome : w.transaction (.hold runId) = some (run, w.holdTransaction run.jobId job) := by
          simp [transaction, hrun, hphase, hjob]
        have hnext : w.next C (.hold runId)
            = w.committed run (w.holdTransaction run.jobId job) := by
          simp only [next, hsome]
        refine (keeps_of_transaction hsome hnext).trans
          ((holdTransaction_kept_iff hjob run).trans ?_)
        constructor
        · intro hheld other hother _ job' hmem
          rw [hrun] at hother
          obtain rfl := Option.some.inj hother
          rw [hjob] at hmem
          obtain rfl := Option.some.inj hmem
          exact hheld
        · intro hmeets
          exact hmeets run hrun hphase job hjob
    · have hnone : w.transaction (.hold runId) = none := by
        cases hp : run.phase with
        | holding => exact absurd hp hphase
        | claimed | working _ => simp [transaction, hrun, hp]
      constructor
      · intro _ other hother hholding
        rw [hrun] at hother
        obtain rfl := Option.some.inj hother
        exact absurd hholding hphase
      · intro _
        exact keeps_of_no_transaction hnone

theorem write_keeps_iff (runId : Nat) (write : RouteWrite) (lastScannedId : Int) :
    w.Keeps C (.write runId write lastScannedId) ↔ w.Meets (.write runId write lastScannedId) := by
  have hno : w.transaction (.write runId write lastScannedId) = none →
      (∀ run ∈ w.runs.lookup runId, ∀ session, run.phase = .working session →
        ∀ job ∈ w.jobs[run.jobId]?, write.of .initializeRoute = true → False) →
      (w.Keeps C (.write runId write lastScannedId)
        ↔ w.Meets (.write runId write lastScannedId)) := by
    intro hnone hvacuous
    refine ⟨?_, fun _ => keeps_of_no_transaction hnone⟩
    intro _ run hrun session hphase job hjob hof
    exact absurd (hvacuous run hrun session hphase job hjob hof) not_false
  cases hrun : w.runs.lookup runId with
  | none =>
    refine hno (by simp [transaction, hrun]) ?_
    intro run hmem
    rw [hrun] at hmem
    cases hmem
  | some run =>
    cases hphase : run.phase with
    | claimed | holding =>
      refine hno (by simp [transaction, hrun, hphase]) ?_
      intro other hother session hworking
      rw [hrun] at hother
      obtain rfl := Option.some.inj hother
      rw [hphase] at hworking
      cases hworking
    | working session =>
      cases hjob : w.jobs[run.jobId]? with
      | none =>
        refine hno (by simp [transaction, hrun, hphase, hjob]) ?_
        intro other hother _ _ job hmem
        rw [hrun] at hother
        obtain rfl := Option.some.inj hother
        rw [hjob] at hmem
        cases hmem
      | some job =>
        by_cases hof : write.of .initializeRoute = true
        · have hsome : w.transaction (.write runId write lastScannedId)
              = some (run, w.writeTransaction run.jobId job session write lastScannedId) := by
            simp [transaction, hrun, hphase, hjob, hof]
          have hnext : w.next C (.write runId write lastScannedId) = w.committed run
              (w.writeTransaction run.jobId job session write lastScannedId) := by
            simp only [next, hsome]
          refine (keeps_of_transaction hsome hnext).trans
            ((writeTransaction_kept_iff hjob run).trans ?_)
          constructor
          · intro hkept other hother session' hworking job' hmem _
            rw [hrun] at hother
            obtain rfl := Option.some.inj hother
            rw [hphase] at hworking
            obtain rfl := RunPhase.working.inj hworking
            rw [hjob] at hmem
            obtain rfl := Option.some.inj hmem
            exact hkept
          · intro hmeets
            exact hmeets run hrun session hphase job hjob hof
        · refine hno (by simp [transaction, hrun, hphase, hjob, hof]) ?_
          intro _ _ _ _ _ _ hyes
          exact hof hyes

theorem keeps_iff_meets (event : ActivationEvent) : w.Keeps C event ↔ w.Meets event := by
  cases event with
  | activate now => exact activate_keeps_iff now
  | hold runId => exact hold_keeps_iff runId
  | write runId write lastScannedId => exact write_keeps_iff runId write lastScannedId
  | _ => exact ⟨fun _ => trivial, fun _ => keeps_of_no_transaction rfl⟩

/-- **An accepted activation is alive where its keys are unused.** A history attends to every
activation it accepts, and leaves no route on its way unattended, exactly when each of its
steps meets the condition. -/
theorem history_keeps_iff (C : String → Option Datetime) (w : ActivationWorld)
    (events : List ActivationEvent) :
    System.Along (fun w event => w.Keeps C event) (fun w event => w.next C event) w events
      ↔ System.Along (fun w event => w.Meets event) (fun w event => w.next C event) w events :=
  ⟨System.Along.mono fun _ event h => (keeps_iff_meets event).mp h,
    System.Along.mono fun _ event h => (keeps_iff_meets event).mpr h⟩

/-! ## An activation after a failure -/

def created : ActivationWorld :=
  ⟨⟨⟨7, false, none, 60, ⟨some "not_initialized", none, none, [], none⟩, none, none⟩, .cleared⟩,
    none, [], Table.empty⟩

/-- The job of an activation fails for good, and the operator activates the route again. -/
def activatedAgain : List ActivationEvent :=
  [.activate "2026-01-01T00:00:00+00:00", .claim 0 0, .drop 0, .move 0 .failed,
    .activate "2026-01-02T00:00:00+00:00"]

theorem activatedAgain_unattended : (activationSystem fun _ => none).init created
      ∧ ¬ System.Along (fun w event => w.Keeps (fun _ => none) event)
        (fun w event => w.next (fun _ => none) event) created activatedAgain := by
  refine ⟨⟨⟨rfl, rfl, rfl, rfl⟩, rfl, rfl⟩, ?_⟩
  intro hkept
  have hlast := hkept.2.2.2.2.1
  rcases hlast with hready | ⟨requestedAt, -, id, job, hid, -, -, halive⟩
  · exact absurd hready (by decide)
  -- The replay finds the key of the job that failed.
  have hjobs : (activatedAgain.foldl (fun w event => w.next (fun _ => none) event) created).jobs
      = [⟨.activation "2026-01-01T00:00:00+00:00", "2026-01-01T00:00:00+00:00", none, 0,
        .failed⟩] := by decide +kernel
  have hmem : job ∈ (activatedAgain.foldl (fun w event => w.next (fun _ => none) event)
      created).jobs := mem_of_getElem? hid
  rw [hjobs, mem_singleton] at hmem
  rw [hmem] at halive
  exact absurd halive (by decide)

end ActivationWorld

end NewsCraft.Telegram.ActivationJobs
