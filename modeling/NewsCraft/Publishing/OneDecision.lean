import Mathlib.Data.List.Induction
import NewsCraft.Publishing.Receipts

/-!
# One decision for each ambiguity

A request is answered from the decision recorded for the claim its receipt is in, if there
is one. Nothing but another claim, which has a higher attempt count, rewrites a settled
receipt, so a decision found is the only one of its generation, and stale from the next
claim on.

The receipts of a job have distinct keys; a run here is one whose plans do too.
-/

namespace NewsCraft.Publishing

open Lib Jobs List Table

variable {E : PublishEnv} {w w' : PublishWorld} {body : TelegramReconcileIn}
  {inputs : ReconcileInputs} {observedAt : Datetime} {result : ReconcileResult}
  {record record' : PublishRecord} {events events' : List ReconciliationEvent}
  {event : ReconciliationEvent}

def DistinctKeys : PublishEvent → Prop
  | .prepare _ inputs _ => (inputs.plan.operations.map TelegramPublishOperation.key).Nodup
  | _ => True

/-- The runs of a publish job whose plans name their operations apart. -/
def keyedSystem (E : PublishEnv) (job : PublishJob) : System PublishWorld PublishEvent :=
  (publishSystem E job).restrict fun _ event => DistinctKeys event

/-! ## Settled receipts -/

/-- The receipt was claimed again, or is as the decision left it. -/
structure Settled (event : ReconciliationEvent) (receipt : PublishOperationReceipt) : Prop where
  key : receipt.operationKey = event.generation.operationKey
  count : event.generation.attemptCount < receipt.attemptCount
    ∨ receipt.attemptCount = event.generation.attemptCount
      ∧ (receipt.status = .pending ∧ receipt.ambiguousAt = none
        ∨ receipt.status = .succeeded ∧ receipt.ambiguousAt = event.generation.ambiguousAt)

variable {receipt : PublishOperationReceipt}

theorem Settled.le (h : Settled event receipt) :
    event.generation.attemptCount ≤ receipt.attemptCount := by
  rcases h.count with hlt | ⟨heq, _⟩
  · omega
  · omega

theorem Settled.step {receipt' : PublishOperationReceipt} (h : Settled event receipt)
    (hstep : ReceiptStep receipt receipt') : Settled event receipt' := by
  have hkey : receipt'.operationKey = receipt.operationKey :=
    congrArg (fun identity => identity.2.1) hstep.identity
  refine ⟨hkey.trans h.key, ?_⟩
  -- a write that is no claim starts from a status no settled receipt has
  have hother : receipt.status ≠ .pending → receipt.status ≠ .succeeded →
      event.generation.attemptCount < receipt.attemptCount := by
    intro hpending hsucceeded
    rcases h.count with hlt | ⟨_, ⟨hst, _⟩ | ⟨hst, _⟩⟩
    · exact hlt
    · exact absurd hst hpending
    · exact absurd hst hsucceeded
  cases hstep with
  | claimed claimTime _ =>
    have hle := h.le
    left
    dsimp only
    omega
  | freed _ hst | lost _ hst | refused hst | reopened _ hst =>
    exact .inl (hother (by rw [hst]; decide) (by rw [hst]; decide))
  | delivered _ _ hst | confirmed _ _ hst =>
    exact .inl (hother (by rw [hst]; decide) (by rw [hst]; decide))

/-- The receipt was claimed again after the decision. -/
structure Superseded (event : ReconciliationEvent) (receipt : PublishOperationReceipt) : Prop where
  key : receipt.operationKey = event.generation.operationKey
  count : event.generation.attemptCount < receipt.attemptCount

theorem Superseded.step {receipt' : PublishOperationReceipt} (h : Superseded event receipt)
    (hstep : ReceiptStep receipt receipt') : Superseded event receipt' := by
  have hkey : receipt'.operationKey = receipt.operationKey :=
    congrArg (fun identity => identity.2.1) hstep.identity
  refine ⟨hkey.trans h.key, ?_⟩
  have hlt := h.count
  cases hstep with
  | claimed => dsimp only; omega
  | _ => exact hlt

/-- **What every write to a receipt keeps, every step keeps** of some receipt. -/
theorem exists_change {P : PublishOperationReceipt → Prop} {ready : Nat → Prop}
    {receipts receipts' : Table PublishOperationReceipt}
    (hP : ∀ receipt receipt', ReceiptStep receipt receipt' → P receipt → P receipt')
    (h : ReceiptsChange ready receipts receipts') (hex : ∃ receipt ∈ receipts.rows, P receipt) :
    ∃ receipt ∈ receipts'.rows, P receipt := by
  obtain ⟨receipt, hmem, hreceipt⟩ := hex
  cases h with
  | same => exact ⟨receipt, hmem, hreceipt⟩
  | created plan observedAt hnil =>
    rw [hnil] at hmem
    cases hmem
  | @wrote old new hl hstep _ =>
    by_cases hkey : receipt.operationIndex = new.operationIndex
    · have hold : receipt = old :=
        row_unique hmem (mem_of_lookup hl) (hkey.trans hstep.key)
      exact ⟨new, mem_put_self hmem hkey, hP old new hstep (hold ▸ hreceipt)⟩
    · exact ⟨receipt, mem_put_of_ne hmem hkey, hreceipt⟩
  | swept observedAt =>
    refine ⟨_, mem_map_of_mem hmem, ?_⟩
    by_cases hst : receipt.status = .dispatching
    · have hmark : JobsDb.markAmbiguous observedAt receipt
          = { receipt with status := .ambiguous, ambiguousAt := some observedAt } := by
        unfold JobsDb.markAmbiguous
        rw [if_pos hst]
      rw [hmark]
      exact hP receipt _ (.lost observedAt hst) hreceipt
    · rw [markAmbiguous_of_ne hst]
      exact hreceipt

/-! ## Matching -/

def operationKeys (record : PublishRecord) : List String :=
  record.receipts.rows.map PublishOperationReceipt.operationKey

/-- The receipt the decision is about has not been claimed again. -/
def Current (record : PublishRecord) (generation : ReconciliationGeneration) : Prop :=
  ∃ receipt ∈ record.receipts.rows, receipt.operationKey = generation.operationKey
    ∧ receipt.attemptCount = generation.attemptCount

theorem find_receipt (hkeys : (operationKeys record).Nodup) (hmem : receipt ∈ record.receipts.rows)
    {key : String} (hkey : receipt.operationKey = key) :
    ((orderedReceipts record.receipts).find? fun r => r.operationKey = key) = some receipt := by
  cases hfind : (orderedReceipts record.receipts).find? fun r => r.operationKey = key with
  | none =>
    rw [find?_eq_none] at hfind
    exact absurd (decide_eq_true hkey) (hfind receipt (mem_orderedReceipts.mpr hmem))
  | some found =>
    have hfound := mem_orderedReceipts.mp (mem_of_find?_eq_some hfind)
    have hfoundKey := find?_some hfind
    rw [decide_eq_true_eq] at hfoundKey
    rw [inj_on_of_nodup_map hkeys hfound hmem (hfoundKey.trans hkey.symm)]

theorem matches_iff_current (hkeys : (operationKeys record).Nodup)
    (hsettled : ∃ receipt ∈ record.receipts.rows, Settled event receipt) :
    eventMatchesReconciliationGeneration event (orderedReceipts record.receipts) = true
      ↔ Current record event.generation := by
  obtain ⟨receipt, hmem, hset⟩ := hsettled
  unfold eventMatchesReconciliationGeneration
  rw [find_receipt hkeys hmem hset.key]
  dsimp only
  have hcurrent : Current record event.generation
      ↔ receipt.attemptCount = event.generation.attemptCount := by
    constructor
    · rintro ⟨other, hother, hkey, hcount⟩
      rw [← inj_on_of_nodup_map hkeys hother hmem (hkey.trans hset.key.symm)]
      exact hcount
    · intro hcount
      exact ⟨receipt, hmem, hset.key, hcount⟩
  rw [hcurrent]
  by_cases hcount : receipt.attemptCount = event.generation.attemptCount
  · rw [if_neg (not_not.mpr hcount)]
    rcases hset.count with hlt | ⟨_, ⟨_, hnone⟩ | ⟨_, hsame⟩⟩
    · omega
    · rw [hnone]
      simp [hcount]
    · cases hambiguous : receipt.ambiguousAt with
      | none => simp [hcount]
      | some ambiguousAt =>
        rw [hambiguous] at hsame
        simp [hcount, ← hsame]
  · rw [if_pos hcount]
    simp [hcount]

/-! ## What a request does -/

def Answers (event : ReconciliationEvent) (publication : Option Publication) :
    ReconcileResult → Prop
  | .published p => event.outcome = .published ∧ publication = some p
  | .requeued workflowJobId =>
    event.outcome = .notPublished ∧ event.requeuedWorkflowJobId = some workflowJobId

theorem replay_of_answers (h : Answers event record.publication result) :
    record.replayReconciliationDecision event = .ok result := by
  unfold PublishRecord.replayReconciliationDecision
  cases result with
  | published p =>
    obtain ⟨houtcome, hpublication⟩ := h
    rw [houtcome, hpublication]
  | requeued workflowJobId =>
    obtain ⟨houtcome, hrequeued⟩ := h
    rw [houtcome, hrequeued]

/-- A decision that takes effect on a job's rows. -/
structure Decided (E : PublishEnv) (record : PublishRecord) (events : List ReconciliationEvent)
    (body : TelegramReconcileIn) (result : ReconcileResult) (record' : PublishRecord)
    (event : ReconciliationEvent) : Prop where
  unmatched : ∀ earlier ∈ events,
    eventMatchesReconciliationGeneration earlier (orderedReceipts record.receipts) = false
  unknown : ∀ earlier ∈ events, earlier.decisionHash ≠ E.decisionHash body
  hash : event.decisionHash = E.decisionHash body
  settles : ∃ receipt receipt',
    record.receipts.lookup receipt.operationIndex = some receipt ∧ receipt.status = .ambiguous
      ∧ event.generation = reconciliationGeneration receipt ∧ ReceiptStep receipt receipt'
      ∧ record'.receipts = record.receipts.put receipt' ∧ Settled event receipt'
  answer : Answers event record'.publication result
  publication : ∀ p, record.publication = some p → record'.publication = some p

theorem confirmPublished_keeps {ambiguous : PublishOperationReceipt} {publication p : Publication}
    (h : record.confirmPublished E body ambiguous inputs observedAt = .ok (publication, record'))
    (hp : record.publication = some p) : record'.publication = some p := by
  rw [PublishRecord.confirmPublished] at h
  split at h
  · cases h
  dsimp only at h
  split at h
  · cases h
  rw [hp] at h
  dsimp only at h
  split at h
  · cases h
  cases h
  rfl

/-- **An accepted request is a replay or a decision.** -/
theorem reconcile_cases
    (h : record.reconcile E events body inputs observedAt = .ok (result, record', events')) :
    (record' = record ∧ events' = events
        ∧ ∃ event ∈ events, event.decisionHash = E.decisionHash body
          ∧ eventMatchesReconciliationGeneration event (orderedReceipts record.receipts) = true
          ∧ record.replayReconciliationDecision event = .ok result)
      ∨ ∃ event, events' = event :: events ∧ Decided E record events body result record' event := by
  rw [PublishRecord.reconcile] at h
  split at h
  · cases h
  split at h
  · cases h
  split at h
  · rename_i event hfind
    split at h
    · cases h
    rename_i hhash
    split at h
    · cases h
    rename_i answer hreplay
    cases h
    have hmatch := find?_some hfind
    exact .inl ⟨rfl, rfl, event, mem_of_find?_eq_some hfind, not_not.mp hhash, hmatch, hreplay⟩
  rename_i hnone
  split at h
  · cases h
  rename_i hunknown
  split at h
  · cases h
  rename_i ambiguous hvalid
  obtain ⟨hmem, hst, _⟩ := validateReconciliation_ok hvalid
  have hl := lookup_self_of_mem (mem_orderedReceipts.mp hmem)
  have hunmatched : ∀ earlier ∈ events,
      eventMatchesReconciliationGeneration earlier (orderedReceipts record.receipts) = false := by
    intro earlier hearlier
    rw [find?_eq_none] at hnone
    exact (Bool.not_eq_true _).mp (hnone earlier hearlier)
  have hhashes : ∀ earlier ∈ events, earlier.decisionHash ≠ E.decisionHash body := by
    intro earlier hearlier hsame
    exact hunknown (any_eq_true.mpr ⟨earlier, hearlier, decide_eq_true hsame⟩)
  right
  split at h
  · cases h
    exact ⟨_, rfl, hunmatched, hhashes, rfl,
      ⟨ambiguous, _, hl, hst, rfl, .reopened observedAt hst, rfl,
        ⟨rfl, Or.inr ⟨rfl, Or.inl ⟨rfl, rfl⟩⟩⟩⟩, ⟨rfl, rfl⟩, fun p hp => hp⟩
  · split at h
    · cases h
    rename_i publication after hconfirm
    cases h
    obtain ⟨hreceipts, hpub, _⟩ := confirmPublished_ok hconfirm
    exact ⟨_, rfl, hunmatched, hhashes, rfl,
      ⟨ambiguous, _, hl, hst, rfl, .confirmed body.remoteMessageIds observedAt hst, hreceipts,
        ⟨rfl, Or.inr ⟨rfl, Or.inr ⟨rfl, rfl⟩⟩⟩⟩, ⟨rfl, hpub⟩,
      fun p hp => confirmPublished_keeps hconfirm hp⟩

/-! ## What a step keeps -/

/-- A record whose publication, once there, is the one that was there. -/
def KeepsPublication (record record' : PublishRecord) : Prop :=
  ∀ p, record.publication = some p → record'.publication = some p

theorem keeps_of_eq (h : record'.publication = record.publication) :
    KeepsPublication record record' :=
  fun _ hp => h.trans hp

theorem finalizePublication_keeps {permalink : String → List Int → Option String}
    {context : PublishContext} {conflict : Bool} {publishedAt : Datetime}
    {publication : Publication}
    (h : record.finalizePublication permalink context conflict publishedAt
      = .ok (publication, record')) : KeepsPublication record record' := by
  intro p hp
  rw [PublishRecord.finalizePublication] at h
  split at h
  · cases h
  split at h
  · cases h
  split at h
  · cases h
  dsimp only at h
  split at h
  · cases h
  cases h
  rw [hp]
  rfl

/-- **A publication is never replaced.** -/
theorem step_keepsPublication (E : PublishEnv) (w : PublishWorld) (event : PublishEvent) :
    KeepsPublication w.record (w.step E event).record := by
  cases event with
  | prepare worker inputs observedAt =>
    rw [PublishWorld.step]
    split
    · split
      · exact keeps_of_eq rfl
      · exact keeps_of_eq (loadContext_ok ‹_›).1
      · exact keeps_of_eq (loadContext_ok ‹_›).1
    · exact keeps_of_eq rfl
  | claim worker claimTime claimError =>
    rw [PublishWorld.step]
    split
    · rename_i context position _
      split
      · exact keeps_of_eq rfl
      split
      · exact keeps_of_eq rfl
      · exact keeps_of_eq (claimOperation_ok position ‹_›).1
    · exact keeps_of_eq rfl
  | release worker finishedAt =>
    rw [PublishWorld.step]
    split
    · exact keeps_of_eq releaseClaimForRetry_publication
    · exact keeps_of_eq rfl
  | fault _ _ | startCall _ | endCall _ _ =>
    rw [PublishWorld.step]
    split <;> exact keeps_of_eq rfl
  | recordFailure worker observedAt =>
    rw [PublishWorld.step]
    split
    · rename_i context operation attemptCount error _
      exact keeps_of_eq
        (recordFailure_cases w.record context operation attemptCount error observedAt).1
    · exact keeps_of_eq rfl
  | persist worker completedAt =>
    rw [PublishWorld.step]
    split
    · split
      · exact keeps_of_eq rfl
      · exact keeps_of_eq (persistOperationReceipt_ok ‹_›).1
    · exact keeps_of_eq rfl
  | finalize worker conflict publishedAt =>
    rw [PublishWorld.step]
    split
    · split
      · split
        · exact keeps_of_eq rfl
        · exact finalizePublication_keeps ‹_›
      · exact keeps_of_eq rfl
    · exact keeps_of_eq rfl
  | crash worker => exact keeps_of_eq rfl
  | leaseExpired exhausted observedAt =>
    exact keeps_of_eq (sweepExpired_publication exhausted observedAt)
  | reconcile body inputs observedAt =>
    rw [PublishWorld.step]
    split
    · exact keeps_of_eq rfl
    rename_i hok
    rcases reconcile_cases hok with ⟨hrecord, _⟩ | ⟨event, _, hdecided⟩
    · rw [hrecord]
      exact keeps_of_eq rfl
    · exact hdecided.publication

theorem step_events (E : PublishEnv) (w : PublishWorld) (event : PublishEvent) :
    (w.step E event).events = w.events
      ∨ ∃ body inputs observedAt result decision, event = .reconcile body inputs observedAt
        ∧ (w.step E event).events = decision :: w.events
        ∧ Decided E w.record w.events body result (w.step E event).record decision := by
  cases event with
  | reconcile body inputs observedAt =>
    rw [PublishWorld.step]
    split
    · exact .inl rfl
    rename_i result record' events' hok
    rcases reconcile_cases hok with ⟨_, hevents, _⟩ | ⟨decision, hevents, hdecided⟩
    · exact .inl hevents
    · exact .inr ⟨body, inputs, observedAt, result, decision, rfl, hevents, hdecided⟩
  | prepare _ _ _ | persist _ _ =>
    left
    rw [PublishWorld.step]
    split
    · split <;> rfl
    · rfl
  | claim worker claimTime claimError =>
    left
    rw [PublishWorld.step]
    split
    · split
      · rfl
      · split <;> rfl
    · rfl
  | finalize worker conflict publishedAt =>
    left
    rw [PublishWorld.step]
    split
    · split
      · split <;> rfl
      · rfl
    · rfl
  | crash _ | leaseExpired _ _ => exact .inl rfl
  | _ =>
    left
    rw [PublishWorld.step]
    split <;> rfl

/-! ## Keys -/

theorem lookup_of_rows_nil {receipts : Table PublishOperationReceipt} (h : receipts.rows = [])
    (index : Nat) : receipts.lookup index = none := by
  rw [Table.lookup, h]
  rfl

theorem loadContext_creates {prepared : Prepared} {publishInputs : PublishInputs}
    (hnil : record.receipts.rows = [])
    (h : record.loadContext publishInputs observedAt = .ok (prepared, record')) :
    record'.receipts.rows = []
      ∨ operationKeys record' = publishInputs.plan.operations.map TelegramPublishOperation.key := by
  rw [PublishRecord.loadContext] at h
  split at h
  · split at h
    · cases h
      exact .inl hnil
    · cases h
  split at h
  · cases h
  split at h
  · cases h
  rename_i loaded hload
  obtain ⟨hfresh, _, _⟩ := loadPublishPlanReceipts_ok hload
  rw [if_pos hnil] at hfresh
  have hkeys : operationKeys loaded
      = publishInputs.plan.operations.map TelegramPublishOperation.key := by
    rw [operationKeys, hfresh, freshReceipts, map_map]
    rfl
  obtain ⟨_, _, hreceipts⟩ := publishReceiptShortCircuit_cases loaded observedAt
  have hsame : (loaded.publishReceiptShortCircuit observedAt).2.receipts = loaded.receipts := by
    rcases hreceipts with hsame | ⟨_, dispatching, hmem, hst, _⟩
    · exact hsame
    rw [hfresh] at hmem
    rw [(fresh_of_mem hmem).1] at hst
    cases hst
  right
  split at h
  · rename_i heq
    rw [heq] at hsame
    cases h
    rw [operationKeys, hsame]
    exact hkeys
  · rename_i heq
    rw [heq] at hsame
    cases h
    rw [← hkeys, operationKeys, operationKeys, ← hsame]

/-- **Receipts are created by a preparation, from its plan.** -/
theorem step_creates (E : PublishEnv) (w : PublishWorld) (event : PublishEvent)
    (hnil : w.record.receipts.rows = []) : (w.step E event).record.receipts.rows = []
      ∨ ∃ worker publishInputs observedAt, event = .prepare worker publishInputs observedAt
        ∧ operationKeys (w.step E event).record
          = publishInputs.plan.operations.map TelegramPublishOperation.key := by
  have hnone := lookup_of_rows_nil hnil
  cases event with
  | prepare worker publishInputs observedAt =>
    rw [PublishWorld.step]
    split
    · split
      · exact .inl hnil
      · rename_i hload
        rcases loadContext_creates hnil hload with hrows | hkeys
        · exact .inl hrows
        · exact .inr ⟨worker, publishInputs, observedAt, rfl, hkeys⟩
      · rename_i hload
        rcases loadContext_creates hnil hload with hrows | hkeys
        · exact .inl hrows
        · exact .inr ⟨worker, publishInputs, observedAt, rfl, hkeys⟩
    · exact .inl hnil
  | claim worker claimTime claimError =>
    left
    rw [PublishWorld.step]
    split
    · split
      · exact hnil
      rename_i operation _
      rw [PublishRecord.claimOperation, hnone operation.index]
      exact hnil
    · exact hnil
  | release worker finishedAt =>
    left
    rw [PublishWorld.step]
    split
    · rw [commit_record, releaseClaimForRetry_receipts]
      exact hnil
    · exact hnil
  | recordFailure worker observedAt =>
    left
    rw [PublishWorld.step]
    split
    · rename_i context operation attemptCount error _
      rw [commit_record]
      obtain ⟨_, hrecorded⟩ := recordFailure_cases w.record context operation attemptCount error
        observedAt
      generalize (w.record.recordFailure context operation attemptCount error observedAt).2.receipts
        = receipts at hrecorded ⊢
      cases hrecorded with
      | superseded => exact hnil
      | freed _ _ _ _ | lost _ _ _ | refused _ _ => exact map_eq_nil_iff.mpr hnil
    · exact hnil
  | persist worker completedAt =>
    left
    rw [PublishWorld.step]
    split
    · rename_i context operation attemptCount ids _
      rw [PublishRecord.persistOperationReceipt, hnone operation.index]
      exact hnil
    · exact hnil
  | finalize worker conflict publishedAt =>
    left
    rw [PublishWorld.step]
    split
    · split
      · split
        · exact hnil
        rename_i hfinal
        rw [commit_record, (finalizePublication_ok hfinal).1]
        exact hnil
      · exact hnil
    · exact hnil
  | leaseExpired exhausted observedAt =>
    left
    change (w.record.sweepExpired exhausted observedAt).receipts.rows = []
    rw [sweepExpired_receipts]
    exact map_eq_nil_iff.mpr hnil
  | reconcile body inputs observedAt =>
    left
    rw [PublishWorld.step]
    split
    · exact hnil
    rename_i hok
    rcases reconcile_cases hok with ⟨hrecord, _⟩ | ⟨decision, _, hdecided⟩
    · rw [hrecord]
      exact hnil
    · obtain ⟨receipt, _, hl, _⟩ := hdecided.settles
      rw [hnone] at hl
      cases hl
  | fault worker error =>
    left
    rw [PublishWorld.step]
    split <;> exact hnil
  | startCall worker =>
    left
    rw [PublishWorld.step]
    split <;> exact hnil
  | endCall worker outcome =>
    left
    rw [PublishWorld.step]
    split <;> exact hnil
  | crash worker => exact .inl hnil

theorem step_keys (E : PublishEnv) (w : PublishWorld) (event : PublishEvent)
    (hdistinct : DistinctKeys event) (hkeys : (operationKeys w.record).Nodup) :
    (operationKeys (w.step E event).record).Nodup := by
  by_cases hnil : w.record.receipts.rows = []
  · rcases step_creates E w event hnil with hrows | ⟨worker, publishInputs, observedAt, rfl, hnew⟩
    · rw [operationKeys, hrows]
      exact nodup_nil
    · rw [hnew]
      exact hdistinct
  · have hidentity := (publishStep_step E w event).receiptsChange.identity hnil
    have hsame := congrArg (List.map fun identity => identity.2.1) hidentity
    rw [map_map, map_map] at hsame
    change operationKeys (w.step E event).record = operationKeys w.record at hsame
    rw [hsame]
    exact hkeys

/-! ## The invariant -/

def decidedClaim (event : ReconciliationEvent) : String × Nat :=
  (event.generation.operationKey, event.generation.attemptCount)

/-- Every decision has settled its receipt, and no two share a claim. -/
structure DecisionInv (w : PublishWorld) : Prop where
  keys : (operationKeys w.record).Nodup
  settled : ∀ event ∈ w.events, ∃ receipt ∈ w.record.receipts.rows, Settled event receipt
  older : ∀ event ∈ w.events.tail, ∃ receipt ∈ w.record.receipts.rows, Superseded event receipt
  claims : (w.events.map decidedClaim).Nodup
  hashes : (w.events.map ReconciliationEvent.decisionHash).Nodup

theorem decisionInv_start (job : PublishJob) : DecisionInv (PublishWorld.start job) where
  keys := nodup_nil
  settled _ hmem := absurd hmem not_mem_nil
  older _ hmem := absurd hmem not_mem_nil
  claims := nodup_nil
  hashes := nodup_nil

theorem Decided.supersedes (hinv : DecisionInv w)
    (h : Decided E w.record w.events body result record' event) {earlier : ReconciliationEvent}
    (hmem : earlier ∈ w.events) :
    ∃ receipt ∈ w.record.receipts.rows, Superseded earlier receipt := by
  obtain ⟨receipt, hreceipt, hsettled⟩ := hinv.settled earlier hmem
  refine ⟨receipt, hreceipt, hsettled.key, ?_⟩
  rcases hsettled.count with hlt | ⟨heq, _⟩
  · exact hlt
  have hcurrent : Current w.record earlier.generation :=
    ⟨receipt, hreceipt, hsettled.key, heq⟩
  have hmatch := (matches_iff_current hinv.keys (hinv.settled earlier hmem)).mpr hcurrent
  rw [h.unmatched earlier hmem] at hmatch
  cases hmatch

theorem Decided.new_claim (hinv : DecisionInv w)
    (h : Decided E w.record w.events body result record' event) :
    decidedClaim event ∉ w.events.map decidedClaim := by
  intro hmem
  obtain ⟨earlier, hearlier, hclaim⟩ := mem_map.mp hmem
  rw [decidedClaim, decidedClaim, Prod.mk.injEq] at hclaim
  obtain ⟨receipt, _, hl, _, hgeneration, _⟩ := h.settles
  obtain ⟨other, hother, hkey, hlt⟩ := h.supersedes hinv hearlier
  rw [hgeneration] at hclaim
  have hsame : other = receipt :=
    inj_on_of_nodup_map hinv.keys hother (mem_of_lookup hl) (hkey.trans hclaim.1)
  have hcount : earlier.generation.attemptCount = receipt.attemptCount := hclaim.2
  rw [hsame] at hlt
  omega

theorem decisionInv_step (event : PublishEvent) (hdistinct : DistinctKeys event)
    (hinv : DecisionInv w) : DecisionInv (w.step E event) := by
  have hchange := (publishStep_step E w event).receiptsChange
  have hold : ∀ e ∈ w.events, ∃ receipt ∈ (w.step E event).record.receipts.rows,
      Settled e receipt := by
    intro e he
    exact exists_change (fun _ _ hstep h => h.step hstep) hchange (hinv.settled e he)
  have hsuperseded : ∀ e, (∃ receipt ∈ w.record.receipts.rows, Superseded e receipt) →
      ∃ receipt ∈ (w.step E event).record.receipts.rows, Superseded e receipt := by
    intro e he
    exact exists_change (fun _ _ hstep h => h.step hstep) hchange he
  have hkeys := step_keys E w event hdistinct hinv.keys
  rcases step_events E w event with hsame | ⟨body, inputs, t, result, decision, _, hnew, hdecided⟩
  · refine ⟨hkeys, ?_, ?_, ?_, ?_⟩
    · rw [hsame]
      exact hold
    · rw [hsame]
      exact fun e he => hsuperseded e (hinv.older e he)
    · rw [hsame]
      exact hinv.claims
    · rw [hsame]
      exact hinv.hashes
  · refine ⟨hkeys, ?_, ?_, ?_, ?_⟩
    · rw [hnew]
      intro e he
      rcases mem_cons.mp he with rfl | he
      · obtain ⟨receipt, receipt', hl, _, _, hstep, hreceipts, hsettled⟩ := hdecided.settles
        refine ⟨receipt', ?_, hsettled⟩
        rw [hreceipts]
        exact mem_put_self (mem_of_lookup hl) hstep.key.symm
      · exact hold e he
    · rw [hnew]
      exact fun e he => hsuperseded e (hdecided.supersedes hinv he)
    · rw [hnew, map_cons]
      exact nodup_cons.mpr ⟨hdecided.new_claim hinv, hinv.claims⟩
    · rw [hnew, map_cons]
      refine nodup_cons.mpr ⟨fun hmem => ?_, hinv.hashes⟩
      obtain ⟨earlier, hearlier, hhash⟩ := mem_map.mp hmem
      exact hdecided.unknown earlier hearlier (hhash.trans hdecided.hash)

variable {job : PublishJob}

theorem decisionInv_reachable (h : (keyedSystem E job).Reachable w) : DecisionInv w := by
  refine System.invariant (fun s hs => ?_) (fun s event s' _ hinv hstep => ?_) h
  · rw [hs]
    exact decisionInv_start job
  · obtain ⟨hdistinct, hstep⟩ := hstep
    rw [hstep]
    exact decisionInv_step event hdistinct hinv

/-! ## What a recorded decision answers -/

/-- While the claim is current the same decision gets the recorded result and another is refused;
once the receipt is claimed again the same decision is refused too. -/
structure Governs (E : PublishEnv) (w : PublishWorld) (event : ReconciliationEvent)
    (result : ReconcileResult) : Prop where
  replayed : Current w.record event.generation → ∀ body inputs observedAt,
    E.decisionHash body = event.decisionHash → inputs.destinationFound = true →
    (body.outcome = .notPublished → inputs.available = true) →
    w.record.reconcile E w.events body inputs observedAt = .ok (result, w.record, w.events)
  conflicting : Current w.record event.generation → ∀ body inputs observedAt,
    E.decisionHash body ≠ event.decisionHash →
    ∃ error, w.record.reconcile E w.events body inputs observedAt = .error error
  stale : ¬ Current w.record event.generation → ∀ body inputs observedAt,
    E.decisionHash body = event.decisionHash →
    ∃ error, w.record.reconcile E w.events body inputs observedAt = .error error

theorem DecisionInv.not_current (hinv : DecisionInv w) (hmem : event ∈ w.events.tail) :
    ¬ Current w.record event.generation := by
  rintro ⟨receipt, hreceipt, hkey, hcount⟩
  obtain ⟨other, hother, hotherKey, hlt⟩ := hinv.older event hmem
  rw [inj_on_of_nodup_map hinv.keys hother hreceipt (hotherKey.trans hkey.symm), hcount] at hlt
  omega

theorem DecisionInv.found (hinv : DecisionInv w) (hmem : event ∈ w.events)
    (hcurrent : Current w.record event.generation) : (w.events.find? fun e =>
      eventMatchesReconciliationGeneration e (orderedReceipts w.record.receipts)) = some event := by
  have hmatches := (matches_iff_current hinv.keys (hinv.settled event hmem)).mpr hcurrent
  cases hevents : w.events with
  | nil =>
    rw [hevents] at hmem
    cases hmem
  | cons latest earlier =>
    have htail : event ∉ earlier := by
      intro htail
      refine hinv.not_current ?_ hcurrent
      rw [hevents]
      exact htail
    rw [hevents] at hmem
    rcases mem_cons.mp hmem with rfl | hmem
    · exact find?_cons_of_pos hmatches
    · exact absurd hmem htail

/-- **A recorded decision governs its generation**, whatever happened since. -/
theorem DecisionInv.governs (hinv : DecisionInv w) (hmem : event ∈ w.events)
    (hanswer : Answers event w.record.publication result) : Governs E w event result := by
  refine ⟨fun hcurrent body inputs observedAt hhash hfound havailable => ?_,
    fun hcurrent body inputs observedAt hhash => ?_,
    fun hcurrent body inputs observedAt hhash => ?_⟩
  · have hunavailable : ¬ (body.outcome = .notPublished ∧ (!inputs.available) = true) := by
      rintro ⟨houtcome, hnot⟩
      rw [havailable houtcome] at hnot
      cases hnot
    unfold PublishRecord.reconcile
    rw [hfound, if_neg (by decide), if_neg hunavailable, hinv.found hmem hcurrent]
    dsimp only
    rw [if_neg (not_not.mpr hhash.symm), replay_of_answers hanswer]
  · cases hreconcile : w.record.reconcile E w.events body inputs observedAt with
    | error error => exact ⟨error, rfl⟩
    | ok value =>
      obtain ⟨answer, record', events'⟩ := value
      exfalso
      have hfind := hinv.found hmem hcurrent
      rcases reconcile_cases hreconcile with
        ⟨_, _, found, hfoundMem, hfoundHash, hfoundMatches, _⟩ | ⟨decision, _, hdecided⟩
      · have hfoundCurrent :=
          (matches_iff_current hinv.keys (hinv.settled found hfoundMem)).mp hfoundMatches
        have hfindFound := hinv.found hfoundMem hfoundCurrent
        rw [hfind, Option.some.injEq] at hfindFound
        rw [hfindFound] at hhash
        exact hhash hfoundHash.symm
      · have hmatches := (matches_iff_current hinv.keys (hinv.settled event hmem)).mpr hcurrent
        rw [hdecided.unmatched event hmem] at hmatches
        cases hmatches
  · cases hreconcile : w.record.reconcile E w.events body inputs observedAt with
    | error error => exact ⟨error, rfl⟩
    | ok value =>
      obtain ⟨answer, record', events'⟩ := value
      exfalso
      rcases reconcile_cases hreconcile with
        ⟨_, _, found, hfoundMem, hfoundHash, hfoundMatches, _⟩ | ⟨decision, _, hdecided⟩
      · have hsame : found = event :=
          inj_on_of_nodup_map hinv.hashes hfoundMem hmem (hfoundHash.trans hhash)
        rw [hsame] at hfoundMatches
        exact hcurrent ((matches_iff_current hinv.keys (hinv.settled event hmem)).mp hfoundMatches)
      · exact hdecided.unknown event hmem hhash.symm

/-! ## Runs after a decision -/

/-- The decision is recorded and still has its answer. -/
def Standing (event : ReconciliationEvent) (result : ReconcileResult) (w : PublishWorld) : Prop :=
  event ∈ w.events ∧ Answers event w.record.publication result

theorem standing_step (step : PublishEvent) (h : Standing event result w) :
    Standing event result (w.step E step) := by
  obtain ⟨hmem, hanswer⟩ := h
  constructor
  · rcases step_events E w step with hsame | ⟨_, _, _, _, decision, _, hnew, _⟩
    · rw [hsame]
      exact hmem
    · rw [hnew]
      exact mem_cons_of_mem _ hmem
  · cases result with
    | published p => exact ⟨hanswer.1, step_keepsPublication E w step p hanswer.2⟩
    | requeued id => exact hanswer

theorem standing_run {steps : List PublishEvent} (h : (keyedSystem E job).Run w steps w')
    (hstanding : Standing event result w) : Standing event result w' :=
  h.preserves (fun s step s' hs hstep => by
      rw [hstep.2]
      exact standing_step step hs)
    hstanding

/-- **One decision for each ambiguity.** No two recorded decisions answer one generation. A
request that is accepted either replays, and changes nothing, or records a new decision for
the generation that is ambiguous now, with a hash no earlier decision has; from then on the
same decision gets the recorded result and another is refused while the generation is
current, and the same decision is refused once the receipt was claimed again. -/
theorem one_decision_per_generation {job : PublishJob} (h : (keyedSystem E job).Reachable w) :
    (w.events.map ReconciliationEvent.generation).Nodup
      ∧ ∀ body inputs observedAt result record' events',
        w.record.reconcile E w.events body inputs observedAt = .ok (result, record', events') →
          (record' = w.record ∧ events' = w.events) ∨ ∃ event, events' = event :: w.events
              ∧ event.decisionHash = E.decisionHash body
              ∧ (∃ receipt ∈ w.record.receipts.rows, receipt.status = .ambiguous
                ∧ event.generation = reconciliationGeneration receipt)
              ∧ (∀ earlier ∈ w.events, earlier.generation ≠ event.generation
                ∧ earlier.decisionHash ≠ event.decisionHash) ∧ ∀ steps w',
                (keyedSystem E job).Run (w.step E (.reconcile body inputs observedAt)) steps w' →
                  Governs E w' event result := by
  have hinv := decisionInv_reachable h
  refine ⟨?_, fun body inputs observedAt result record' events' hok => ?_⟩
  · refine List.Nodup.of_map (fun g => (g.operationKey, g.attemptCount)) ?_
    rw [map_map]
    exact hinv.claims
  · rcases reconcile_cases hok with ⟨hrecord, hevents, _⟩ | ⟨event, hevents, hdecided⟩
    · exact .inl ⟨hrecord, hevents⟩
    refine .inr ⟨event, hevents, hdecided.hash, ?_, fun earlier hearlier => ⟨?_, ?_⟩, ?_⟩
    · obtain ⟨receipt, _, hl, hst, hgeneration, _⟩ := hdecided.settles
      exact ⟨receipt, mem_of_lookup hl, hst, hgeneration⟩
    · intro hsame
      refine hdecided.new_claim hinv (mem_map.mpr ⟨earlier, hearlier, ?_⟩)
      rw [decidedClaim, decidedClaim, hsame]
    · rw [hdecided.hash]
      exact hdecided.unknown earlier hearlier
    · intro steps w' hrun
      have hnext : w.step E (.reconcile body inputs observedAt)
          = { w with record := record', events := events' } := by
        rw [PublishWorld.step, hok]
      have hreach : (keyedSystem E job).Reachable (w.step E (.reconcile body inputs observedAt)) :=
        h.tail (e := .reconcile body inputs observedAt) ⟨trivial, rfl⟩
      have hstanding : Standing event result (w.step E (.reconcile body inputs observedAt)) := by
        rw [hnext, hevents]
        exact ⟨mem_cons_self, hdecided.answer⟩
      obtain ⟨hmem, hanswer⟩ := standing_run hrun hstanding
      exact (decisionInv_reachable (hrun.reachable hreach)).governs hmem hanswer

/-! ## A send that is lost twice -/

def oneOperation : TelegramPublishPlan where
  payloadHash := "p"
  operations := [⟨0, "telegram:0:h0", "sendMessage", "h0"⟩]
  indexed := rfl

def notedEnv : PublishEnv where
  permalink _ _ := none
  decisionHash body := body.operatorNote.getD ""

/-- A worker prepares, claims and calls, and the outcome of the call is lost. -/
def lostAttempt (start : Datetime) : List PublishEvent :=
  [.prepare 0 ⟨oneOperation, "@channel", none⟩ start, .claim 0 start none, .startCall 0,
    .endCall 0 (.failure .ambiguous), .recordFailure 0 (start + 1)]

def absent : TelegramReconcileIn := ⟨.notPublished, [], none, some "not in the channel"⟩

def present : TelegramReconcileIn := ⟨.published, [5], none, some "message 5 is there"⟩

def operatorInputs : ReconcileInputs := ⟨"@channel", true, true, 7, false⟩

theorem keyed_run_reachable {steps : List PublishEvent} (h : ∀ event ∈ steps, DistinctKeys event) :
    (keyedSystem E job).Reachable (PublishWorld.run E job steps) := by
  induction steps using List.reverseRecOn with
  | nil => exact .init rfl
  | append_singleton steps event ih =>
    unfold PublishWorld.run
    rw [foldl_append]
    refine (ih fun e he => h e (mem_append_left _ he)).tail (e := event) ⟨?_, rfl⟩
    exact h event (mem_append_right _ (mem_singleton_self event))

theorem lostAttempt_distinct (start : Datetime) : ∀ event ∈ lostAttempt start, DistinctKeys event := by
  intro event hmem
  unfold lostAttempt at hmem
  simp only [mem_cons, not_mem_nil, or_false] at hmem
  rcases hmem with rfl | rfl | rfl | rfl | rfl
  · exact nodup_singleton _
  · exact trivial
  · exact trivial
  · exact trivial
  · exact trivial

theorem one_decision_per_generation_lost : ∃ event result, ∀ steps w',
      (keyedSystem notedEnv queuedJob).Run
        (PublishWorld.step notedEnv (PublishWorld.run notedEnv queuedJob (lostAttempt 0))
          (.reconcile absent operatorInputs 2)) steps w' → Governs notedEnv w' event result := by
  have hreach : (keyedSystem notedEnv queuedJob).Reachable
      (PublishWorld.run notedEnv queuedJob (lostAttempt 0)) :=
    keyed_run_reachable (lostAttempt_distinct 0)
  rcases (one_decision_per_generation hreach).2 absent operatorInputs 2 _ _ _ rfl with
    ⟨_, hsame⟩ | ⟨event, _, _, _, _, hgoverns⟩
  · exact absurd (congrArg List.length hsame) (by decide)
  · exact ⟨event, _, hgoverns⟩

/-- The send was lost, found absent and tried again, and lost again. -/
def lostTwice : PublishWorld :=
  PublishWorld.run notedEnv queuedJob
    (lostAttempt 0 ++ [.reconcile absent operatorInputs 2] ++ lostAttempt 10)

/-- The first generation's decision is refused now, and the one refused then takes effect. -/
theorem decision_carried_over : PublishRecord.reconcile notedEnv
        (PublishWorld.run notedEnv queuedJob
          (lostAttempt 0 ++ [.reconcile absent operatorInputs 2])).record
        (PublishWorld.run notedEnv queuedJob
          (lostAttempt 0 ++ [.reconcile absent operatorInputs 2])).events
        present operatorInputs 3 = .error ⟨409, "Conflicting reconciliation decision"⟩
      ∧ lostTwice.record.reconcile notedEnv lostTwice.events absent operatorInputs 20
        = .error ⟨409, "Stale reconciliation decision"⟩
      ∧ (lostTwice.step notedEnv (.reconcile present operatorInputs 20)).events.map
          (fun event => (event.decisionHash, event.generation.attemptCount))
        = [("message 5 is there", 2), ("not in the channel", 1)] :=
  ⟨rfl, rfl, rfl⟩

end NewsCraft.Publishing
