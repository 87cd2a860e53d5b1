import NewsCraft.Telegram.LiveCaptures

/-!
# Which live captures follow the policy

A capture follows the policy of its route when the post is processed exactly if the content
filter lets it through, and not before the quiet hours are over. `writes_of` says what each
loop writes for a post.
-/

namespace NewsCraft.Telegram.LiveCaptures

open Lib Jobs Option List

variable (E : PolicyEnv)

def MadeCapture.MakesDispatch (made : MadeCapture) : Prop :=
  made.before.dispatchOf made.envelope.sourceKey = none

/-- What `evaluate_content_filter` says of the post. -/
def MadeCapture.decision (policy : RoutePolicy) (made : MadeCapture) : ContentFilterDecision :=
  evaluateContentFilter E made.envelope.text (made.envelope.media ≠ []) policy.contentFilters

/-- The instant is not before the end of the quiet hours around the capture. -/
def MadeCapture.AllowedBy (policy : RoutePolicy) (made : MadeCapture) (instant : Datetime) :
    Prop :=
  ∀ allowed, nextAllowedAt E made.inputs.observedAt policy.quietHours = .ok allowed →
    allowed ≤ instant

structure MadeCapture.FollowsPolicy (policy : RoutePolicy) (made : MadeCapture) : Prop where
  enqueued : (∃ job ∈ made.after.jobs, job.sourceKey = made.envelope.sourceKey)
    ↔ (made.decision E policy).accepted = true
  rejected : (made.decision E policy).accepted = false →
    ∃ dispatch ∈ made.after.dispatches, dispatch.sourceKey = made.envelope.sourceKey
      ∧ dispatch.status = .filtered
  scheduled : ∀ job ∈ made.after.jobs, job.sourceKey = made.envelope.sourceKey →
    made.AllowedBy E policy job.scheduledFor

/-! ## What a capture writes -/

variable {store : LiveStore} {sourceKey : String}

theorem LiveStore.no_job_of_dispatchOf (h : store.dispatchOf sourceKey = none) :
    ∀ job ∈ store.jobs, job.sourceKey ≠ sourceKey := by
  intro job hjob hkey
  obtain ⟨dispatch, hdispatch, howner⟩ := store.owned job hjob
  rw [dispatchOf, find?_eq_none] at h
  exact h dispatch hdispatch (by simp [howner, hkey])

variable {policy : RoutePolicy} {arguments : CaptureArguments} {envelope : TelegramEnvelope}

theorem captureAndEnqueue_ok {digest : Json → String} {inputs : LiveInputs} {after : LiveStore}
    (hnew : store.dispatchOf envelope.sourceKey = none)
    (h : captureAndEnqueue digest policy arguments envelope inputs store = .ok after) :
    after.dispatches = store.dispatches ++ [dispatchFor digest envelope arguments.enqueueProcess]
      ∧ after.jobs = store.jobs
        ++ (processJob policy arguments envelope.sourceKey inputs.writtenAt).toList := by
  simp only [captureAndEnqueue, hnew] at h
  split at h
  · cases h
  simp only [Except.ok.injEq] at h
  rw [← h]
  exact ⟨rfl, rfl⟩

variable {C : LiveContext} {loop : LiveLoop}

theorem capture_eq_some {inputs : LiveInputs} {after : LiveStore}
    (h : capture C loop arguments envelope inputs store = some after) :
    captureAndEnqueue C.digest C.policy arguments envelope inputs store = .ok after := by
  rw [capture] at h
  split at h
  · revert h
    cases captureAndEnqueue C.digest C.policy arguments envelope inputs store with
    | error _ | ok _ => simp [Except.toOption]
  · cases h

variable {E}

variable {made : MadeCapture}

theorem captured_of_mem :
    ∀ {inputs : List LiveInputs} {envelopes : List TelegramEnvelope} {store : LiveStore},
      made ∈ (captureEnvelopes E C loop inputs envelopes store).1 →
        ∃ arguments, loop.arguments E C.policy made.envelope made.inputs.observedAt = .ok arguments
          ∧ captureAndEnqueue C.digest C.policy arguments made.envelope made.inputs made.before
            = .ok made.after := by
  intro inputs envelopes
  induction envelopes generalizing inputs with
  | nil =>
    intro store h
    cases inputs <;> simp [captureEnvelopes] at h
  | cons envelope envelopes ih =>
    intro store h
    cases inputs with
    | nil => simp [captureEnvelopes] at h
    | cons first later =>
      simp only [captureEnvelopes] at h
      split at h
      · simp at h
      rename_i arguments harguments
      split at h
      · simp at h
      split at h
      · simp at h
      rename_i after hafter
      rcases mem_cons.mp h with rfl | hlater
      · exact ⟨arguments, harguments, capture_eq_some hafter⟩
      · exact ih hlater

theorem captured_of_mem_run {inputs : List LiveInputs} {envelopes : List TelegramEnvelope}
    (h : made ∈ (loop.run E C inputs envelopes store).1) :
    ∃ arguments, loop.arguments E C.policy made.envelope made.inputs.observedAt = .ok arguments
      ∧ captureAndEnqueue C.digest C.policy arguments made.envelope made.inputs made.before
        = .ok made.after := by
  cases loop with
  | initial | catchUp | poll => exact captured_of_mem h

/-- The rows of a post once its dispatch is made: the dispatch, and the job where the
arguments say so. -/
theorem writes_of (hnew : made.MakesDispatch)
    (h : captureAndEnqueue C.digest C.policy arguments made.envelope made.inputs made.before = .ok
      made.after) : (∀ job, job ∈ made.after.jobs ∧ job.sourceKey = made.envelope.sourceKey
        ↔ job ∈ processJob C.policy arguments made.envelope.sourceKey made.inputs.writtenAt)
      ∧ dispatchFor C.digest made.envelope arguments.enqueueProcess ∈ made.after.dispatches := by
  obtain ⟨hdispatches, hjobs⟩ := captureAndEnqueue_ok hnew h
  refine ⟨?_, by simp [hdispatches]⟩
  intro job
  rw [hjobs, mem_append, mem_toList]
  constructor
  · intro hjob
    rcases hjob.1 with hold | hmade
    · exact absurd hjob.2 (LiveStore.no_job_of_dispatchOf hnew job hold)
    · exact hmade
  · intro hjob
    exact ⟨.inr hjob, sourceKey_of_processJob job hjob⟩

variable {writtenAt : Datetime}

theorem processJob_of_enqueue (h : arguments.enqueueProcess = true) :
    processJob policy arguments sourceKey writtenAt
      = some ⟨sourceKey, arguments.scheduledFor.getD writtenAt, policy.maxAttempts.getD 3⟩ := by
  rw [processJob, if_pos h]

theorem processJob_of_not_enqueue (h : arguments.enqueueProcess = false) :
    processJob policy arguments sourceKey writtenAt = none := by
  simp [processJob, h]

theorem followsPolicy_iff (hnew : made.MakesDispatch)
    (h : captureAndEnqueue C.digest C.policy arguments made.envelope made.inputs made.before = .ok
      made.after) : made.FollowsPolicy E C.policy
      ↔ arguments.enqueueProcess = (made.decision E C.policy).accepted
        ∧ (arguments.enqueueProcess = true →
          made.AllowedBy E C.policy (arguments.scheduledFor.getD made.inputs.writtenAt)) := by
  obtain ⟨hjobs, hdispatch⟩ := writes_of hnew h
  have hsome : (∃ job ∈ made.after.jobs, job.sourceKey = made.envelope.sourceKey)
      ↔ arguments.enqueueProcess = true := by
    constructor
    · intro hjob
      obtain ⟨job, hmem, hkey⟩ := hjob
      by_contra hnone
      have hmade := (hjobs job).mp ⟨hmem, hkey⟩
      rw [processJob_of_not_enqueue (by simpa using hnone)] at hmade
      exact not_mem_none job hmade
    · intro henqueue
      have hmade := (hjobs _).mpr (processJob_of_enqueue henqueue)
      exact ⟨_, hmade.1, hmade.2⟩
  constructor
  · intro hfollows
    have hsame := hsome.symm.trans hfollows.enqueued
    refine ⟨Bool.eq_iff_iff.mpr hsame, ?_⟩
    intro henqueue
    have hmade := (hjobs _).mpr (processJob_of_enqueue henqueue)
    exact hfollows.scheduled _ hmade.1 hmade.2
  · intro hargs
    refine ⟨hsome.trans (Bool.eq_iff_iff.mp hargs.1), ?_, ?_⟩
    · intro hrejected
      refine ⟨_, hdispatch, rfl, ?_⟩
      rw [dispatchFor, hargs.1, hrejected]
      rfl
    · intro job hmem hkey
      have hmade := (hjobs job).mp ⟨hmem, hkey⟩
      by_cases henqueue : arguments.enqueueProcess = true
      · rw [processJob_of_enqueue henqueue, mem_some_iff] at hmade
        rw [← hmade]
        exact hargs.2 henqueue
      · rw [processJob_of_not_enqueue (by simpa using henqueue)] at hmade
        exact absurd hmade (not_mem_none job)

/-! ## The arguments of the loops -/

theorem pollArguments_ok {observedAt : Datetime}
    (h : pollArguments E policy envelope observedAt = .ok arguments) :
    ∃ allowedAt, nextAllowedAt E observedAt policy.quietHours = .ok allowedAt
      ∧ arguments.enqueueProcess = (evaluateContentFilter E envelope.text (envelope.media ≠ [])
          policy.contentFilters).accepted
      ∧ arguments.scheduledFor = if observedAt < allowedAt then some allowedAt else none := by
  unfold pollArguments at h
  cases hallowed : nextAllowedAt E observedAt policy.quietHours with
  | error e =>
    rw [hallowed] at h
    cases h
  | ok allowedAt =>
    rw [hallowed] at h
    cases h
    exact ⟨allowedAt, rfl, rfl, rfl⟩

theorem le_scheduledFor {observedAt allowedAt : Datetime} (h : observedAt ≤ writtenAt) :
    allowedAt ≤ (if observedAt < allowedAt then some allowedAt else none).getD writtenAt := by
  by_cases hquiet : observedAt < allowedAt
  · rw [if_pos hquiet, getD_some]
  rw [if_neg hquiet, getD_none]
  exact Int.le_trans (Int.not_lt.mp hquiet) h

theorem arguments_of_ne_poll (h : loop ≠ .poll) (policy : RoutePolicy) (envelope : TelegramEnvelope)
    (observedAt : Datetime) :
    loop.arguments E policy envelope observedAt = .ok defaultArguments := by
  cases loop with
  | initial | catchUp => rfl
  | poll => exact absurd rfl h

/-- **A live capture follows the policy of its route exactly when the poll makes it, or the
policy would have let the post through just then.** The captures of an initialization are
processed at once, whatever the filters and the quiet hours say. -/
theorem capture_followsPolicy_iff (C : LiveContext) (loop : LiveLoop) (inputs : List LiveInputs)
    (envelopes : List TelegramEnvelope) (store : LiveStore) (made : MadeCapture)
    (hmade : made ∈ (loop.run E C inputs envelopes store).1) (hnew : made.MakesDispatch) :
    made.FollowsPolicy E C.policy ↔ loop = .poll ∨ ((made.decision E C.policy).accepted = true
        ∧ made.AllowedBy E C.policy made.inputs.writtenAt) := by
  obtain ⟨arguments, harguments, hwrites⟩ := captured_of_mem_run hmade
  rw [followsPolicy_iff hnew hwrites]
  by_cases hpoll : loop = .poll
  · -- the poll has read its arguments off the policy
    refine iff_of_true ?_ (.inl hpoll)
    subst hpoll
    obtain ⟨allowedAt, hallowed, haccepted, hscheduled⟩ := pollArguments_ok harguments
    refine ⟨haccepted, ?_⟩
    intro _ allowed heq
    rw [hallowed, Except.ok.injEq] at heq
    rw [hscheduled, ← heq]
    exact le_scheduledFor made.inputs.clock
  · rw [arguments_of_ne_poll hpoll, Except.ok.injEq] at harguments
    subst harguments
    rw [or_iff_right hpoll]
    refine and_congr eq_comm ?_
    constructor
    · intro h
      exact h rfl
    · intro h _
      exact h

/-! ## A post that the policy of its route excludes -/

def excludingEnv : PolicyEnv where
  text := .ascii
  nfkc := id
  zones := fun _ => none

/-- A policy that excludes a term and has no quiet hours. -/
def excludingPolicy : RoutePolicy where
  contentFilters := ⟨some ["casino"], none, none, none⟩
  quietHours := none
  maxAttempts := none

def excludingContext : LiveContext := ⟨fun _ => "0", excludingPolicy, some "t0"⟩

def initializingStore : LiveStore where
  route :=
    { id := 1, enabled := true, pausedAt := none, pollIntervalSeconds := 60
      cursorState := ⟨some "catching_up", some "t0", none, [], none⟩
      lastPolledAt := none, nextPollAt := none }
  globalPause := false
  dispatches := []
  jobs := []
  events := []
  owned := by simp

def undisturbed : LiveInputs where
  staged := true
  observedAt := 10
  writtenAt := 11
  enabled := true
  pausedAt := none
  globalPause := false
  status := some "catching_up"
  activationRequestedAt := some "t0"
  stored := true
  clock := by decide

def textPost (text : String) : TelegramEnvelope := ⟨"7", "1", 7, [7], text, none, [], 5, []⟩

/-- The captures of an initialization that finds one post above its boundary. -/
def initialCaptures (text : String) : List MadeCapture :=
  (LiveLoop.initial.run excludingEnv excludingContext [undisturbed] [textPost text]
    initializingStore).1

/-- A post without the term follows the policy. -/
theorem initialCaptures_follows :
    ∃ made ∈ initialCaptures "news", made.FollowsPolicy excludingEnv excludingPolicy := by
  have hsome : (initialCaptures "news").any (fun made =>
      made.before.dispatchOf made.envelope.sourceKey = none
        && (made.decision excludingEnv excludingPolicy).accepted) = true := by
    decide +kernel
  obtain ⟨made, hmade, hdecided⟩ := any_eq_true.mp hsome
  rw [Bool.and_eq_true, decide_eq_true_eq] at hdecided
  refine ⟨made, hmade, ?_⟩
  refine (capture_followsPolicy_iff excludingContext .initial [undisturbed] [textPost "news"]
    initializingStore made hmade hdecided.1).mpr (.inr ⟨hdecided.2, ?_⟩)
  intro allowed hallowed
  cases hallowed
  exact made.inputs.clock

/-- A post with the excluded term is captured all the same, and is to be processed. -/
theorem initialCaptures_misses : ∃ made ∈ initialCaptures "Casino night", made.MakesDispatch
      ∧ made.decision excludingEnv excludingPolicy = ⟨false, some "excluded_term:casino"⟩
      ∧ made.after.jobs = [⟨"7", 11, 3⟩]
      ∧ made.after.dispatches.map Dispatch.status = [.captured]
      ∧ ¬ made.FollowsPolicy excludingEnv excludingPolicy := by
  have hsome : (initialCaptures "Casino night").any (fun made =>
      decide (made.before.dispatchOf made.envelope.sourceKey = none
        ∧ made.decision excludingEnv excludingPolicy = ⟨false, some "excluded_term:casino"⟩
        ∧ made.after.jobs = [⟨"7", 11, 3⟩]
        ∧ made.after.dispatches.map Dispatch.status = [.captured]
        ∧ made.envelope.sourceKey = "7")) = true := by
    decide +kernel
  obtain ⟨made, hmade, hdecided⟩ := any_eq_true.mp hsome
  obtain ⟨hnew, hdecision, hjobs, hstatuses, hkey⟩ := of_decide_eq_true hdecided
  refine ⟨made, hmade, hnew, hdecision, hjobs, hstatuses, ?_⟩
  intro hfollows
  have haccepted := hfollows.enqueued.mp ⟨⟨"7", 11, 3⟩, by simp [hjobs], hkey.symm⟩
  rw [hdecision] at haccepted
  cases haccepted

end NewsCraft.Telegram.LiveCaptures
