import NewsCraft.Publishing.System

/-!
# What a step does to the receipts

Seven transactions write receipts. Whatever they do is a `ReceiptsChange`: nothing, the
creation of all receipts, one receipt taking one `ReceiptStep`, or the sweep over all of
them. `PublishStep` collects what a step of the system can do, and later modules reason by
cases on it and do not unfold a transaction again.
-/

namespace NewsCraft.Publishing

open Lib Jobs List Table

variable {E : PublishEnv} {record record' : PublishRecord} {context : PublishContext}
  {operation : TelegramPublishOperation} {w : PublishWorld}

/-! ## Rewriting one receipt -/

/-- The ways one receipt is rewritten. None starts from `succeeded` or `failed`. -/
inductive ReceiptStep (receipt : PublishOperationReceipt) : PublishOperationReceipt → Prop
  | claimed (claimTime : Datetime) : receipt.status = .pending →
      ReceiptStep receipt { receipt with
        status := .dispatching
        attemptCount := receipt.attemptCount + 1
        nextAttemptAt := none
        updatedAt := claimTime }
  | freed (retryAt : Datetime) : receipt.status = .dispatching →
      ReceiptStep receipt { receipt with status := .pending, nextAttemptAt := some retryAt }
  | lost (observedAt : Datetime) : receipt.status = .dispatching →
      ReceiptStep receipt { receipt with status := .ambiguous, ambiguousAt := some observedAt }
  | refused : receipt.status = .dispatching → ReceiptStep receipt { receipt with status := .failed }
  | delivered (remoteMessageIds : List Int) (completedAt : Datetime) :
      receipt.status = .dispatching →
      ReceiptStep receipt { receipt with
        status := .succeeded
        remoteMessageIds := remoteMessageIds
        completedAt := some completedAt }
  | confirmed (remoteMessageIds : List Int) (observedAt : Datetime) : receipt.status = .ambiguous →
      ReceiptStep receipt (PublishRecord.confirmedReceipt receipt remoteMessageIds observedAt)
  | reopened (observedAt : Datetime) : receipt.status = .ambiguous →
      ReceiptStep receipt { receipt with
        status := .pending
        remoteMessageIds := []
        nextAttemptAt := none
        ambiguousAt := none
        completedAt := none
        updatedAt := observedAt }

variable {receipt receipt' : PublishOperationReceipt}

theorem ReceiptStep.identity (h : ReceiptStep receipt receipt') :
    receiptIdentity receipt' = receiptIdentity receipt := by
  cases h <;> rfl

theorem ReceiptStep.key (h : ReceiptStep receipt receipt') :
    receipt'.operationIndex = receipt.operationIndex :=
  congrArg Prod.fst h.identity

theorem ReceiptStep.not_succeeded (h : ReceiptStep receipt receipt') :
    receipt.status ≠ .succeeded := by
  intro hs
  cases h <;> simp_all

/-! ## Rewriting the receipts of a job -/

/-- What one step may do; a pending receipt is written when its operation is `ready`. -/
inductive ReceiptsChange (ready : Nat → Prop) (receipts : Table PublishOperationReceipt) :
    Table PublishOperationReceipt → Prop
  | same : ReceiptsChange ready receipts receipts
  | created (plan : TelegramPublishPlan) (observedAt : Datetime) : receipts.rows = [] →
      ReceiptsChange ready receipts (freshReceipts plan observedAt)
  | wrote {receipt receipt' : PublishOperationReceipt} :
      receipts.lookup receipt.operationIndex = some receipt → ReceiptStep receipt receipt' →
      (receipt.status = .pending → ready receipt.operationIndex) →
      ReceiptsChange ready receipts (receipts.put receipt')
  | swept (observedAt : Datetime) : ReceiptsChange ready receipts
      (receipts.map (JobsDb.markAmbiguous observedAt) (JobsDb.markAmbiguous_key observedAt))

variable {observedAt : Datetime}

theorem markAmbiguous_of_ne (h : receipt.status ≠ .dispatching) :
    JobsDb.markAmbiguous observedAt receipt = receipt := by
  rw [JobsDb.markAmbiguous, if_neg h]

theorem markAmbiguous_identity (observedAt : Datetime) (receipt : PublishOperationReceipt) :
    receiptIdentity (JobsDb.markAmbiguous observedAt receipt) = receiptIdentity receipt := by
  rw [JobsDb.markAmbiguous]
  split <;> rfl

variable {receipts : Table PublishOperationReceipt}

theorem lookup_self_of_mem (h : receipt ∈ receipts.rows) :
    receipts.lookup receipt.operationIndex = some receipt :=
  lookup_of_mem h

theorem index_of_lookup {index : Nat} (h : receipts.lookup index = some receipt) :
    receipt.operationIndex = index :=
  key_of_lookup h

/-! ## The receipts in operation order -/

/-- The receipts are stored in operation order, one for each operation. -/
def Indexed (receipts : Table PublishOperationReceipt) : Prop :=
  receipts.rows.map PublishOperationReceipt.operationIndex = List.range receipts.rows.length

theorem orderedReceipts_eq (h : Indexed receipts) : orderedReceipts receipts = receipts.rows := by
  refine List.Pairwise.insertionSort_eq ?_
  have hsorted : (receipts.rows.map PublishOperationReceipt.operationIndex).Pairwise (· ≤ ·) := by
    rw [h]
    exact pairwise_le_range
  exact pairwise_map.mp hsorted

theorem mem_orderedReceipts : receipt ∈ orderedReceipts receipts ↔ receipt ∈ receipts.rows :=
  mem_insertionSort _

theorem freshReceipts_indexed (plan : TelegramPublishPlan) (observedAt : Datetime) :
    Indexed (freshReceipts plan observedAt) := by
  have hmap : (plan.operations.map (freshReceipt observedAt)).map
      PublishOperationReceipt.operationIndex = List.range plan.operations.length := by
    rw [← plan.indexed, map_map]
    rfl
  rw [Indexed, freshReceipts, hmap, length_map]

variable {plan : TelegramPublishPlan}

theorem fresh_of_mem (h : receipt ∈ (freshReceipts plan observedAt).rows) :
    receipt.status = .pending ∧ receipt.attemptCount = 0 := by
  obtain ⟨operation, _, rfl⟩ := mem_map.mp h
  exact ⟨rfl, rfl⟩

theorem map_identity_put (hl : receipts.lookup receipt.operationIndex = some receipt)
    (hid : receiptIdentity receipt' = receiptIdentity receipt) :
    (receipts.put receipt').rows.map receiptIdentity = receipts.rows.map receiptIdentity := by
  have hkey : receipt'.operationIndex = receipt.operationIndex := congrArg Prod.fst hid
  exact map_put (mem_of_lookup hl) hkey hid

theorem map_identity_swept (receipts : Table PublishOperationReceipt) (observedAt : Datetime) :
    (receipts.map (JobsDb.markAmbiguous observedAt)
      (JobsDb.markAmbiguous_key observedAt)).rows.map receiptIdentity
      = receipts.rows.map receiptIdentity := by
  rw [Table.map, map_map]
  exact map_congr_left fun x _ => markAmbiguous_identity observedAt x

variable {ready : Nat → Prop} {receipts' : Table PublishOperationReceipt}

theorem ReceiptsChange.identity (h : ReceiptsChange ready receipts receipts')
    (hne : receipts.rows ≠ []) :
    receipts'.rows.map receiptIdentity = receipts.rows.map receiptIdentity := by
  cases h with
  | same => rfl
  | created plan observedAt hnil => exact absurd hnil hne
  | wrote hl hstep _ => exact map_identity_put hl hstep.identity
  | swept observedAt => exact map_identity_swept receipts observedAt

theorem indexed_congr (h : receipts'.rows.map receiptIdentity = receipts.rows.map receiptIdentity)
    (hi : Indexed receipts) : Indexed receipts' := by
  have hmap := congrArg (List.map Prod.fst) h
  have hlen := congrArg List.length h
  simp only [map_map, length_map] at hmap hlen
  have hindex : receipts'.rows.map PublishOperationReceipt.operationIndex
      = receipts.rows.map PublishOperationReceipt.operationIndex := hmap
  rw [Indexed, hindex, hlen]
  exact hi

theorem ReceiptsChange.indexed (h : ReceiptsChange ready receipts receipts') (hi : Indexed receipts)
    : Indexed receipts' := by
  cases h with
  | same => exact hi
  | created plan observedAt _ => exact freshReceipts_indexed plan observedAt
  | wrote hl hstep _ => exact indexed_congr (map_identity_put hl hstep.identity) hi
  | swept observedAt => exact indexed_congr (map_identity_swept receipts observedAt) hi

/-- **A succeeded receipt is final.** -/
theorem ReceiptsChange.keeps_succeeded (h : ReceiptsChange ready receipts receipts')
    (hm : receipt ∈ receipts.rows) (hs : receipt.status = .succeeded) :
    receipt ∈ receipts'.rows := by
  cases h with
  | same => exact hm
  | created plan observedAt hnil =>
    rw [hnil] at hm
    cases hm
  | @wrote old new hl hstep _ =>
    refine mem_put_of_ne hm ?_
    intro hkey
    have hkeys : Keyed.key receipt = Keyed.key old := hkey.trans hstep.key
    have heq : receipt = old := row_unique hm (mem_of_lookup hl) hkeys
    rw [heq] at hs
    exact hstep.not_succeeded hs
  | swept observedAt =>
    refine mem_map.mpr ⟨receipt, hm, markAmbiguous_of_ne ?_⟩
    rw [hs]
    simp

/-! ## Preparing -/

theorem validateReceiptPlan_ok {operations : List TelegramPublishOperation}
    (h : validateReceiptPlan receipts operations = .ok ()) :
    (orderedReceipts receipts).map receiptIdentity = operations.map operationIdentity := by
  by_cases hsame : (orderedReceipts receipts).map receiptIdentity = operations.map operationIdentity
  · exact hsame
  rw [validateReceiptPlan, if_pos hsame] at h
  cases h

theorem loadPublishPlanReceipts_ok
    (h : record.loadPublishPlanReceipts plan observedAt = .ok record') :
    record'.receipts
        = (if record.receipts.rows = [] then freshReceipts plan observedAt else record.receipts)
      ∧ record'.publication = record.publication
      ∧ (orderedReceipts record'.receipts).map receiptIdentity
          = plan.operations.map operationIdentity := by
  rw [PublishRecord.loadPublishPlanReceipts] at h
  split at h
  · cases h
  rename_i hvalid
  cases h
  exact ⟨rfl, rfl, validateReceiptPlan_ok hvalid⟩

theorem dispatchingReceiptResult_cases (record : PublishRecord)
    (dispatching : PublishOperationReceipt) (observedAt : Datetime) :
    (record.dispatchingReceiptResult dispatching observedAt).2.publication = record.publication
      ∧ ((record.dispatchingReceiptResult dispatching observedAt).2.receipts = record.receipts
        ∨ (record.dispatchingReceiptResult dispatching observedAt).2.receipts = record.receipts.put
                { dispatching with status := .ambiguous, ambiguousAt := some observedAt })
      ∧ ∀ c, (record.dispatchingReceiptResult dispatching observedAt).1 ≠ .context c := by
  rw [PublishRecord.dispatchingReceiptResult]
  split
  · refine ⟨rfl, Or.inr rfl, ?_⟩
    intro c hc
    cases hc
  · refine ⟨rfl, Or.inl rfl, ?_⟩
    intro c hc
    cases hc

theorem publishReceiptShortCircuit_cases (record : PublishRecord) (observedAt : Datetime) :
    (record.publishReceiptShortCircuit observedAt).2.publication = record.publication
      ∧ (∀ c, (record.publishReceiptShortCircuit observedAt).1 ≠ some (.context c))
      ∧ ((record.publishReceiptShortCircuit observedAt).2.receipts = record.receipts
        ∨ ((record.publishReceiptShortCircuit observedAt).1 ≠ none
          ∧ ∃ dispatching ∈ record.receipts.rows, dispatching.status = .dispatching
            ∧ (record.publishReceiptShortCircuit observedAt).2.receipts = record.receipts.put
                    { dispatching with status := .ambiguous, ambiguousAt := some observedAt })) := by
  rw [PublishRecord.publishReceiptShortCircuit]
  dsimp only
  split
  · exact ⟨rfl, by simp, Or.inl rfl⟩
  split
  · rename_i dispatching hfind
    have hmem : dispatching ∈ record.receipts.rows :=
      mem_orderedReceipts.mp (mem_of_find?_eq_some hfind)
    have hst : dispatching.status = .dispatching := by simpa using find?_some hfind
    obtain ⟨hpub, hrec, hctx⟩ := dispatchingReceiptResult_cases record dispatching observedAt
    refine ⟨hpub, ?_, ?_⟩
    · intro c hc
      exact hctx c (Option.some.inj hc)
    · rcases hrec with hrec | hrec
      · exact .inl hrec
      · exact .inr ⟨by simp, dispatching, hmem, hst, hrec⟩
  · split
    · split
      · exact ⟨rfl, by simp, Or.inl rfl⟩
      · exact ⟨rfl, by simp, Or.inl rfl⟩
    · split
      · exact ⟨rfl, by simp, Or.inl rfl⟩
      · exact ⟨rfl, by simp, Or.inl rfl⟩

/-- What `load_context` does to the receipts. -/
inductive Loaded (receipts : Table PublishOperationReceipt) : Table PublishOperationReceipt → Prop
  | same : Loaded receipts receipts
  | created (plan : TelegramPublishPlan) (observedAt : Datetime) : receipts.rows = [] →
      Loaded receipts (freshReceipts plan observedAt)
  | lost (dispatching : PublishOperationReceipt) (observedAt : Datetime) :
      receipts.lookup dispatching.operationIndex = some dispatching →
      dispatching.status = .dispatching →
      Loaded receipts (receipts.put
        { dispatching with status := .ambiguous, ambiguousAt := some observedAt })

theorem loadContext_ok {inputs : PublishInputs} {prepared : Prepared}
    (h : record.loadContext inputs observedAt = .ok (prepared, record')) :
    record'.publication = record.publication ∧ Loaded record.receipts record'.receipts
      ∧ ∀ c, prepared = .context c → (orderedReceipts record'.receipts).map receiptIdentity
            = c.plan.operations.map operationIdentity := by
  rw [PublishRecord.loadContext] at h
  split at h
  · split at h
    · cases h
      refine ⟨rfl, .same, ?_⟩
      intro c hc
      cases hc
    · cases h
  · split at h
    · cases h
    split at h
    · cases h
    rename_i loaded hload
    obtain ⟨hreceipts, hpub, hplan⟩ := loadPublishPlanReceipts_ok hload
    obtain ⟨hpub', hctx, hcases⟩ :=
      publishReceiptShortCircuit_cases loaded observedAt
    split at h
    · -- the receipts stop the attempt here
      rename_i found after hshort
      rw [hshort] at hpub' hctx hcases
      cases h
      refine ⟨hpub'.trans hpub, ?_, ?_⟩
      · rcases hcases with hsame | ⟨_, dispatching, hmem, hst, hput⟩
        · rw [hsame, hreceipts]
          split
          · exact .created _ _ ‹_›
          · exact .same
        · rw [hput]
          rw [hreceipts] at hmem ⊢
          split at hmem
          · -- receipts just created are pending
            rw [(fresh_of_mem hmem).1] at hst
            cases hst
          · rename_i hne
            rw [if_neg hne]
            exact .lost dispatching observedAt (lookup_self_of_mem hmem) hst
      · intro c hc
        exact absurd (congrArg some hc) (hctx c)
    · rename_i after hshort
      rw [hshort] at hpub' hcases
      have hsame : after.receipts = loaded.receipts := by
        rcases hcases with hsame | ⟨hnone, _⟩
        · exact hsame
        · exact absurd rfl hnone
      cases h
      refine ⟨hpub'.trans hpub, ?_, ?_⟩
      · show Loaded record.receipts after.receipts
        rw [hsame, hreceipts]
        split
        · exact .created _ _ ‹_›
        · exact .same
      · intro c hc
        cases hc
        show (orderedReceipts after.receipts).map receiptIdentity = _
        rw [hsame]
        exact hplan

/-! ## Claiming -/

/-- What `_claim_operation` does to the receipts, and where it leaves its worker. -/
inductive ClaimResult (receipts : Table PublishOperationReceipt) (context : PublishContext)
    (position : Nat) (operation : TelegramPublishOperation) :
    Table PublishOperationReceipt → Phase → Prop
  | gaveUp : ClaimResult receipts context position operation receipts .idle
  | notDue (retryAt : Datetime) (competingClaim : Bool) :
      ClaimResult receipts context position operation receipts
        (.notDue context retryAt competingClaim)
  | done (receipt : PublishOperationReceipt) :
      receipts.lookup operation.index = some receipt → receipt.status = .succeeded →
      ClaimResult receipts context position operation receipts (.prepared context (position + 1))
  | claimed (receipt : PublishOperationReceipt) (claimTime : Datetime) :
      receipts.lookup operation.index = some receipt → receipt.status = .pending →
      ClaimResult receipts context position operation (receipts.put { receipt with
          status := .dispatching
          attemptCount := receipt.attemptCount + 1
          nextAttemptAt := none
          updatedAt := claimTime })
        (.claimed context operation (receipt.attemptCount + 1))

theorem claimOperation_ok (position : Nat) {claimTime : Datetime}
    {claimError : Option (String × String)} {outcome : ClaimOutcome}
    (h : record.claimOperation context operation claimTime claimError = .ok (outcome, record')) :
    record'.publication = record.publication
      ∧ ClaimResult record.receipts context position operation record'.receipts
          (afterClaim context position operation outcome) := by
  rw [PublishRecord.claimOperation] at h
  split at h
  · cases h
  rename_i receipt hl
  have hr := Except.ok.inj h
  cases claimError with
  | some error =>
    rw [PublishRecord.applyClaimState] at hr
    cases hr
    exact ⟨rfl, .gaveUp⟩
  | none =>
    rw [PublishRecord.applyClaimState] at hr
    split at hr
    · cases hr
      exact ⟨rfl, .done receipt hl ‹_›⟩
    · cases hr
      exact ⟨rfl, .notDue _ _⟩
    · cases hr
      exact ⟨rfl, .gaveUp⟩
    · cases hr
      exact ⟨rfl, .gaveUp⟩
    · split at hr
      · split at hr
        · cases hr
          exact ⟨rfl, .notDue _ _⟩
        · cases hr
          exact ⟨rfl, .claimed receipt claimTime hl ‹_›⟩
      · cases hr
        exact ⟨rfl, .claimed receipt claimTime hl ‹_›⟩

theorem releaseClaimForRetry_receipts {retryAt : Datetime} {competingClaim : Bool} :
    (record.releaseClaimForRetry context retryAt competingClaim finishedAt).receipts
      = record.receipts := by
  rw [PublishRecord.releaseClaimForRetry]
  split <;> rfl

theorem releaseClaimForRetry_publication {retryAt : Datetime} {competingClaim : Bool} :
    (record.releaseClaimForRetry context retryAt competingClaim finishedAt).publication
      = record.publication := by
  rw [PublishRecord.releaseClaimForRetry]
  split <;> rfl

/-! ## Recording an outcome -/

/-- The receipt is still dispatched under the claim numbered `attemptCount`. -/
structure Held (receipts : Table PublishOperationReceipt) (operation : TelegramPublishOperation)
    (attemptCount : Nat) (receipt : PublishOperationReceipt) : Prop where
  found : receipts.lookup operation.index = some receipt
  dispatching : receipt.status = .dispatching
  count : receipt.attemptCount = attemptCount

/-- What `_record_failure` does to the receipts. -/
inductive FailureRecorded (receipts : Table PublishOperationReceipt)
    (operation : TelegramPublishOperation) (attemptCount : Nat) (error : PublicationError) :
    Table PublishOperationReceipt → Prop
  | superseded : FailureRecorded receipts operation attemptCount error receipts
  | freed (receipt : PublishOperationReceipt) (retryAt : Datetime) :
      Held receipts operation attemptCount receipt →
      (classifyPublicationFailure error).kind = .retry →
      FailureRecorded receipts operation attemptCount error
        (receipts.put { receipt with status := .pending, nextAttemptAt := some retryAt })
  | lost (receipt : PublishOperationReceipt) (observedAt : Datetime) :
      Held receipts operation attemptCount receipt →
      FailureRecorded receipts operation attemptCount error
        (receipts.put { receipt with status := .ambiguous, ambiguousAt := some observedAt })
  | refused (receipt : PublishOperationReceipt) :
      Held receipts operation attemptCount receipt →
      FailureRecorded receipts operation attemptCount error
        (receipts.put { receipt with status := .failed })

theorem recordFailure_cases (record : PublishRecord) (context : PublishContext)
    (operation : TelegramPublishOperation) (attemptCount : Nat) (error : PublicationError)
    (observedAt : Datetime) :
    (record.recordFailure context operation attemptCount error observedAt).2.publication
        = record.publication ∧ FailureRecorded record.receipts operation attemptCount error
          (record.recordFailure context operation attemptCount error observedAt).2.receipts := by
  unfold PublishRecord.recordFailure
  split
  · rename_i receipt _ hl _
    split
    · exact ⟨rfl, .superseded⟩
    rename_i hheld
    have hst : receipt.status = .dispatching := Decidable.not_not.mp fun hne => hheld (.inl hne)
    have hcount : receipt.attemptCount = attemptCount :=
      Decidable.not_not.mp fun hne => hheld (.inr hne)
    have hheld : Held record.receipts operation attemptCount receipt := ⟨hl, hst, hcount⟩
    cases error with
    | rateLimited _ | retryableBeforeDispatch => exact ⟨rfl, .freed receipt _ hheld rfl⟩
    | permanent => exact ⟨rfl, .refused receipt hheld⟩
    | ambiguous | other => exact ⟨rfl, .lost receipt observedAt hheld⟩
  · exact ⟨rfl, .superseded⟩

theorem persistOperationReceipt_ok {attemptCount : Nat} {remoteMessageIds : List Int}
    {completedAt : Datetime}
    (h : record.persistOperationReceipt operation attemptCount remoteMessageIds completedAt
      = .ok record') :
    record'.publication = record.publication
      ∧ ∃ receipt, Held record.receipts operation attemptCount receipt
        ∧ record'.receipts = record.receipts.put { receipt with
            status := .succeeded
            remoteMessageIds := remoteMessageIds
            completedAt := some completedAt } := by
  rw [PublishRecord.persistOperationReceipt] at h
  split at h
  · cases h
  rename_i receipt hl
  split at h
  · cases h
  rename_i hheld
  cases h
  have hst : receipt.status = .dispatching := Decidable.not_not.mp fun hne => hheld (.inl hne)
  have hcount : receipt.attemptCount = attemptCount :=
    Decidable.not_not.mp fun hne => hheld (.inr hne)
  exact ⟨rfl, receipt, ⟨hl, hst, hcount⟩, rfl⟩

/-! ## Finalizing, sweeping, reconciling -/

/-- The rows say the whole plan was delivered, under these message ids. -/
structure Delivered (receipts : Table PublishOperationReceipt) (remoteMessageIds : List Int) :
    Prop where
  succeeded : ∀ receipt ∈ receipts.rows, receipt.status = .succeeded
  ordered : orderedReceiptRemoteIds receipts = .ok remoteMessageIds

theorem finalizePublication_ok {permalink : String → List Int → Option String} {conflict : Bool}
    {publishedAt : Datetime} {publication : Publication}
    (h : record.finalizePublication permalink context conflict publishedAt
      = .ok (publication, record')) : record'.receipts = record.receipts
      ∧ record'.publication = some publication
      ∧ Delivered record.receipts publication.remoteMessageIds := by
  rw [PublishRecord.finalizePublication] at h
  split at h
  · cases h
  rename_i hcomplete
  have hall : ∀ receipt ∈ record.receipts.rows, receipt.status = .succeeded := by
    intro receipt hm
    exact Decidable.not_not.mp fun hne => hcomplete (.inr ⟨receipt, hm, hne⟩)
  split at h
  · cases h
  rename_i remoteIds hids
  split at h
  · cases h
  dsimp only at h
  split at h
  · cases h
  rename_i hmatch
  cases h
  have hsame : (record.publication.getD {
      destinationId := context.destinationId
      platformVariantRevisionId := context.revisionId
      remoteMessageIds := remoteIds
      permalink := permalink context.targetRef remoteIds
      payloadHash := context.plan.payloadHash
      publishedAt := publishedAt
      reconciliationStatus := "confirmed" }).remoteMessageIds = remoteIds :=
    Decidable.not_not.mp fun hne => hmatch (.inr (.inr (.inr (.inl hne))))
  refine ⟨rfl, rfl, hall, ?_⟩
  rw [hsame]
  exact hids

theorem sweepExpired_publication (exhausted : Bool) (observedAt : Datetime) :
    (record.sweepExpired exhausted observedAt).publication = record.publication := by
  rw [PublishRecord.sweepExpired, JobsDb.syncExpiredPublishAmbiguity]
  split
  · rename_i heq
    split at heq <;> cases heq
    rfl
  · rename_i heq
    split at heq <;> cases heq
    split
    · rw [JobsDb.syncTerminalExpiredPublish]
      split <;> rfl
    · rfl

theorem sweepExpired_receipts (exhausted : Bool) (observedAt : Datetime) :
    (record.sweepExpired exhausted observedAt).receipts
      = record.receipts.map (JobsDb.markAmbiguous observedAt)
          (JobsDb.markAmbiguous_key observedAt) := by
  rw [PublishRecord.sweepExpired, JobsDb.syncExpiredPublishAmbiguity]
  split
  · rename_i heq
    split at heq <;> cases heq
    rfl
  · rename_i heq
    split at heq <;> cases heq
    rename_i hnone
    have hid : ∀ receipt ∈ record.receipts.rows,
        JobsDb.markAmbiguous observedAt receipt = receipt := by
      intro receipt hm
      refine markAmbiguous_of_ne ?_
      intro hst
      exact hnone (any_eq_true.mpr ⟨receipt, hm, decide_eq_true hst⟩)
    have hmap : record.receipts.map (JobsDb.markAmbiguous observedAt)
        (JobsDb.markAmbiguous_key observedAt) = record.receipts := by
      rw [Table.map, Table.mk.injEq]
      exact (map_congr_left hid).trans (map_id _)
    rw [hmap]
    split
    · rw [JobsDb.syncTerminalExpiredPublish]
      split <;> rfl
    · rfl

/-- What a reconciliation request that is accepted does. -/
inductive Reconciled (record : PublishRecord) (events : List ReconciliationEvent) :
    PublishRecord → List ReconciliationEvent → Prop
  | replayed : Reconciled record events record events
  | reopened (ambiguous : PublishOperationReceipt) (inputs : ReconcileInputs)
      (observedAt : Datetime) (event : ReconciliationEvent) :
      record.receipts.lookup ambiguous.operationIndex = some ambiguous →
      ambiguous.status = .ambiguous → event.outcome = .notPublished →
      Reconciled record events (record.requeueNotPublished ambiguous inputs observedAt)
        (event :: events)
  | confirmed (ambiguous : PublishOperationReceipt) (remoteMessageIds : List Int)
      (observedAt : Datetime) (event : ReconciliationEvent) (after : PublishRecord)
      (publication : Publication) :
      record.receipts.lookup ambiguous.operationIndex = some ambiguous →
      ambiguous.status = .ambiguous → event.outcome = .published →
      after.receipts = record.receipts.put
        (PublishRecord.confirmedReceipt ambiguous remoteMessageIds observedAt) →
      after.publication = some publication →
      Delivered after.receipts publication.remoteMessageIds →
      Reconciled record events after (event :: events)

theorem validateReconciliation_ok {receipts : List PublishOperationReceipt}
    {outcome : ReconcileOutcome} {remoteMessageIds : List Int} {ambiguous : PublishOperationReceipt}
    (h : validateReconciliation receipts outcome remoteMessageIds = .ok ambiguous) :
    ambiguous ∈ receipts ∧ ambiguous.status = .ambiguous ∧ (outcome = .published →
          ∀ receipt ∈ receipts, receipt.status = .succeeded ∨ receipt = ambiguous) := by
  rw [validateReconciliation] at h
  split at h
  · rename_i found hfound
    have hmem : found ∈ receipts.filter fun receipt => receipt.status = .ambiguous := by
      rw [hfound]
      exact mem_singleton_self found
    obtain ⟨hmem, hst⟩ := mem_filter.mp hmem
    have hst : found.status = .ambiguous := by simpa using hst
    split at h
    · split at h
      · cases h
      rename_i hothers
      split at h
      · cases h
      cases h
      refine ⟨hmem, hst, ?_⟩
      intro _ receipt hr
      by_cases hsucc : receipt.status = .succeeded
      · exact .inl hsucc
      have hamb : receipt.status = .ambiguous := by
        refine Decidable.not_not.mp fun hne => hothers ?_
        exact any_eq_true.mpr ⟨receipt, hr, by simp [hsucc, hne]⟩
      have hin : receipt ∈ receipts.filter fun receipt => receipt.status = .ambiguous :=
        mem_filter.mpr ⟨hr, decide_eq_true hamb⟩
      rw [hfound] at hin
      exact .inr (mem_singleton.mp hin)
    · split at h
      · cases h
      split at h
      · cases h
      cases h
      refine ⟨hmem, hst, ?_⟩
      intro hpub
      cases hpub
  · cases h

theorem confirmPublished_ok {body : TelegramReconcileIn} {ambiguous : PublishOperationReceipt}
    {inputs : ReconcileInputs} {publication : Publication}
    (h : record.confirmPublished E body ambiguous inputs observedAt = .ok (publication, record')) :
    record'.receipts = record.receipts.put
        (PublishRecord.confirmedReceipt ambiguous body.remoteMessageIds observedAt)
      ∧ record'.publication = some publication
      ∧ orderedReceiptRemoteIds record'.receipts = .ok publication.remoteMessageIds := by
  rw [PublishRecord.confirmPublished] at h
  split at h
  · cases h
  dsimp only at h
  split at h
  · cases h
  rename_i remoteIds hids
  split at h
  · split at h
    · cases h
    cases h
    exact ⟨rfl, rfl, hids⟩
  · rename_i existing hexisting
    split at h
    · cases h
    rename_i hmatch
    have hsame : existing.remoteMessageIds = remoteIds :=
      Decidable.not_not.mp fun hne => hmatch (.inr (.inr (.inr (.inl hne))))
    cases h
    refine ⟨rfl, hexisting, ?_⟩
    rw [hsame]
    exact hids

theorem reconcile_ok {events events' : List ReconciliationEvent} {body : TelegramReconcileIn}
    {inputs : ReconcileInputs} {result : ReconcileResult}
    (h : record.reconcile E events body inputs observedAt = .ok (result, record', events')) :
    Reconciled record events record' events' := by
  rw [PublishRecord.reconcile] at h
  split at h
  · cases h
  split at h
  · cases h
  split at h
  · split at h
    · cases h
    split at h
    · cases h
    cases h
    exact .replayed
  · split at h
    · cases h
    split at h
    · cases h
    rename_i ambiguous hvalid
    obtain ⟨hmem, hst, hothers⟩ := validateReconciliation_ok hvalid
    have hmem := mem_orderedReceipts.mp hmem
    have hl := lookup_self_of_mem hmem
    split at h
    · cases h
      exact .reopened ambiguous inputs observedAt _ hl hst rfl
    · rename_i houtcome
      split at h
      · cases h
      rename_i publication after hconfirm
      cases h
      obtain ⟨hreceipts, hpub, hids⟩ := confirmPublished_ok hconfirm
      refine .confirmed ambiguous body.remoteMessageIds observedAt _ _ publication hl hst
        rfl hreceipts hpub ⟨?_, hids⟩
      intro receipt hr
      rw [hreceipts] at hr
      rcases mem_put hr with ⟨rfl, _⟩ | ⟨hr, hkey⟩
      · rfl
      rcases hothers houtcome receipt (mem_orderedReceipts.mpr hr) with hsucc | rfl
      · exact hsucc
      · exact absurd rfl hkey

/-! ## A step of the system -/

@[simp] theorem commit_record (record : PublishRecord) (worker : Nat) (phase : Phase) :
    (w.commit record worker phase).record = record := rfl

theorem setWorker_workers_self (worker : Nat) (phase : Phase) :
    (w.setWorker worker phase).workers worker = phase := by
  simp [PublishWorld.setWorker]

theorem setWorker_workers_of_ne {worker other : Nat} {phase : Phase} (h : other ≠ worker) :
    (w.setWorker worker phase).workers other = w.workers other := by
  simp [PublishWorld.setWorker, h]

theorem operation_index {position : Nat} (h : plan.operations[position]? = some operation) :
    operation.index = position := by
  have hmap : (plan.operations.map TelegramPublishOperation.index)[position]?
      = some operation.index := by
    rw [getElem?_map, h]
    rfl
  rw [plan.indexed] at hmap
  obtain ⟨hlt, heq⟩ := List.getElem?_eq_some_iff.mp hmap
  rw [getElem_range] at heq
  exact heq.symm

/-- The phase after `client.execute` returned. -/
def afterCall (context : PublishContext) (operation : TelegramPublishOperation)
    (attemptCount : Nat) : SendOutcome → Phase
  | .success remoteMessageIds => .sent context operation attemptCount remoteMessageIds
  | .failure error => .failed context operation attemptCount error

/-- What a step can do, with the point its worker had to be at. -/
inductive PublishStep (w : PublishWorld) : PublishWorld → Prop
  | stuck : PublishStep w w
  /-- A worker dies, gives up or waits for another attempt. -/
  | left (worker : Nat) (record : PublishRecord) :
      record.receipts = w.record.receipts → record.publication = w.record.publication →
      PublishStep w (w.commit record worker .idle)
  | loaded (worker : Nat) (record : PublishRecord) :
      w.workers worker = .idle → Loaded w.record.receipts record.receipts →
      record.publication = w.record.publication → PublishStep w (w.commit record worker .idle)
  | prepared (worker : Nat) (record : PublishRecord) (context : PublishContext) :
      w.workers worker = .idle → Loaded w.record.receipts record.receipts →
      record.publication = w.record.publication →
      (orderedReceipts record.receipts).map receiptIdentity
        = context.plan.operations.map operationIdentity →
      PublishStep w (w.commit record worker (.prepared context 0))
  | claim (worker : Nat) (record : PublishRecord) (context : PublishContext) (position : Nat)
      (operation : TelegramPublishOperation) (phase : Phase) :
      w.workers worker = .prepared context position → operation.index = position →
      ClaimResult w.record.receipts context position operation record.receipts phase →
      record.publication = w.record.publication → PublishStep w (w.commit record worker phase)
  | fault (worker : Nat) (context : PublishContext) (operation : TelegramPublishOperation)
      (attemptCount : Nat) (error : PublicationError) :
      w.workers worker = .claimed context operation attemptCount →
      PublishStep w (w.setWorker worker (.failed context operation attemptCount error))
  | lateFault (worker : Nat) (context : PublishContext) (operation : TelegramPublishOperation)
      (attemptCount : Nat) (remoteMessageIds : List Int) :
      w.workers worker = .sent context operation attemptCount remoteMessageIds →
      PublishStep w (w.setWorker worker (.failed context operation attemptCount .other))
  | startCall (worker : Nat) (context : PublishContext) (operation : TelegramPublishOperation)
      (attemptCount : Nat) : w.workers worker = .claimed context operation attemptCount →
      PublishStep w
        { w.setWorker worker (.sending context operation attemptCount w.calls.length) with
          calls := w.calls ++ [⟨operation.index, none⟩] }
  | endCall (worker : Nat) (context : PublishContext) (operation : TelegramPublishOperation)
      (attemptCount call : Nat) (outcome : SendOutcome) :
      w.workers worker = .sending context operation attemptCount call →
      PublishStep w { w.setWorker worker (afterCall context operation attemptCount outcome) with
          calls := w.calls.set call ⟨operation.index, some outcome⟩ }
  | recordFailure (worker : Nat) (record : PublishRecord) (context : PublishContext)
      (operation : TelegramPublishOperation) (attemptCount : Nat) (error : PublicationError) :
      w.workers worker = .failed context operation attemptCount error →
      FailureRecorded w.record.receipts operation attemptCount error record.receipts →
      record.publication = w.record.publication → PublishStep w (w.commit record worker .idle)
  | persist (worker : Nat) (record : PublishRecord) (context : PublishContext)
      (operation : TelegramPublishOperation) (attemptCount : Nat) (remoteMessageIds : List Int)
      (receipt : PublishOperationReceipt) (completedAt : Datetime) :
      w.workers worker = .sent context operation attemptCount remoteMessageIds →
      Held w.record.receipts operation attemptCount receipt →
      record.receipts = w.record.receipts.put { receipt with
        status := .succeeded
        remoteMessageIds := remoteMessageIds
        completedAt := some completedAt } →
      record.publication = w.record.publication →
      PublishStep w (w.commit record worker (.prepared context (operation.index + 1)))
  | finalize (worker : Nat) (record : PublishRecord) (context : PublishContext) (position : Nat)
      (publication : Publication) :
      w.workers worker = .prepared context position → record.receipts = w.record.receipts →
      record.publication = some publication →
      Delivered w.record.receipts publication.remoteMessageIds →
      PublishStep w (w.commit record worker .idle)
  | sweep (record : PublishRecord) (observedAt : Datetime) :
      record.receipts = w.record.receipts.map (JobsDb.markAmbiguous observedAt)
        (JobsDb.markAmbiguous_key observedAt) →
      record.publication = w.record.publication → PublishStep w { w with record := record }
  | reconcile (record : PublishRecord) (events : List ReconciliationEvent) :
      Reconciled w.record w.events record events →
      PublishStep w { w with record := record, events := events }

/-- **Every step does one of these.** -/
theorem publishStep_step (E : PublishEnv) (w : PublishWorld) (event : PublishEvent) :
    PublishStep w (w.step E event) := by
  cases event with
  | prepare worker inputs observedAt =>
    rw [PublishWorld.step]
    split
    · rename_i hphase
      split
      · exact .left worker w.record.markPublishBlocked rfl rfl
      · rename_i context record hload
        obtain ⟨hpub, hloaded, hplan⟩ := loadContext_ok hload
        exact .prepared worker record context hphase hloaded hpub (hplan context rfl)
      · rename_i prepared record _ hload
        obtain ⟨hpub, hloaded, _⟩ := loadContext_ok hload
        exact .loaded worker record hphase hloaded hpub
    · exact .stuck
  | claim worker claimTime claimError =>
    rw [PublishWorld.step]
    split
    · rename_i context position hphase
      split
      · exact .stuck
      rename_i operation hop
      split
      · exact .left worker w.record rfl rfl
      rename_i outcome record hclaim
      obtain ⟨hpub, hresult⟩ := claimOperation_ok position hclaim
      exact .claim worker record context position operation _ hphase (operation_index hop)
        hresult hpub
    · exact .stuck
  | release worker finishedAt =>
    rw [PublishWorld.step]
    split
    · exact .left worker _ releaseClaimForRetry_receipts releaseClaimForRetry_publication
    · exact .stuck
  | fault worker error =>
    rw [PublishWorld.step]
    split
    · exact .fault worker _ _ _ error ‹_›
    · exact .lateFault worker _ _ _ _ ‹_›
    · exact .stuck
  | startCall worker =>
    rw [PublishWorld.step]
    split
    · exact .startCall worker _ _ _ ‹_›
    · exact .stuck
  | endCall worker outcome =>
    rw [PublishWorld.step]
    split
    · rename_i context operation attemptCount call hphase
      have h := PublishStep.endCall worker context operation attemptCount call outcome hphase
      cases outcome <;> exact h
    · exact .stuck
  | recordFailure worker observedAt =>
    rw [PublishWorld.step]
    split
    · rename_i context operation attemptCount error hphase
      obtain ⟨hpub, hrecorded⟩ := recordFailure_cases w.record context operation attemptCount error
        observedAt
      exact .recordFailure worker _ context operation attemptCount error hphase hrecorded hpub
    · exact .stuck
  | persist worker completedAt =>
    rw [PublishWorld.step]
    split
    · rename_i context operation attemptCount remoteMessageIds hphase
      split
      · exact .left worker w.record rfl rfl
      rename_i record hpersist
      obtain ⟨hpub, receipt, hheld, hreceipts⟩ := persistOperationReceipt_ok hpersist
      exact .persist worker record context operation attemptCount remoteMessageIds receipt
        completedAt hphase hheld hreceipts hpub
    · exact .stuck
  | finalize worker conflict publishedAt =>
    rw [PublishWorld.step]
    split
    · rename_i context position hphase
      split
      · split
        · exact .left worker w.record rfl rfl
        rename_i publication record hfinal
        obtain ⟨hreceipts, hpub, hdelivered⟩ := finalizePublication_ok hfinal
        exact .finalize worker record context position publication hphase hreceipts hpub hdelivered
      · exact .stuck
    · exact .stuck
  | crash worker => exact .left worker w.record rfl rfl
  | leaseExpired exhausted observedAt =>
    exact .sweep _ observedAt (sweepExpired_receipts exhausted observedAt)
      (sweepExpired_publication exhausted observedAt)
  | reconcile body inputs observedAt =>
    rw [PublishWorld.step]
    split
    · exact .stuck
    · exact .reconcile _ _ (reconcile_ok ‹_›)

/-! ## What that means for the receipts -/

/-- Some worker is about to claim the operation numbered `index`. -/
def Ready (w : PublishWorld) (index : Nat) : Prop :=
  ∃ worker context, w.workers worker = .prepared context index

theorem Loaded.receiptsChange (h : Loaded receipts receipts') :
    ReceiptsChange ready receipts receipts' := by
  cases h with
  | same => exact .same
  | created plan observedAt hnil => exact .created plan observedAt hnil
  | lost dispatching observedAt hl hst =>
    refine .wrote hl (.lost observedAt hst) ?_
    intro hpending
    rw [hst] at hpending
    cases hpending

theorem ReceiptsChange.of_step {index : Nat} (hl : receipts.lookup index = some receipt)
    (hstep : ReceiptStep receipt receipt')
    (hst : receipt.status = .dispatching ∨ receipt.status = .ambiguous) :
    ReceiptsChange ready receipts (receipts.put receipt') := by
  rw [← index_of_lookup hl] at hl
  refine .wrote hl hstep ?_
  intro hpending
  rw [hpending] at hst
  rcases hst with hst | hst <;> cases hst

theorem ClaimResult.receiptsChange {position : Nat} {phase : Phase}
    (h : ClaimResult receipts context position operation receipts' phase)
    (hready : ready operation.index) : ReceiptsChange ready receipts receipts' := by
  cases h with
  | gaveUp | notDue | done => exact .same
  | claimed receipt claimTime hl hst =>
    rw [← index_of_lookup hl] at hready
    exact .wrote (lookup_self_of_mem (mem_of_lookup hl)) (.claimed claimTime hst) fun _ => hready

theorem FailureRecorded.receiptsChange {attemptCount : Nat} {error : PublicationError}
    (h : FailureRecorded receipts operation attemptCount error receipts') :
    ReceiptsChange ready receipts receipts' := by
  cases h with
  | superseded => exact .same
  | freed receipt retryAt hheld _ =>
    exact .of_step hheld.found (.freed retryAt hheld.dispatching) (.inl hheld.dispatching)
  | lost receipt observedAt hheld =>
    exact .of_step hheld.found (.lost observedAt hheld.dispatching) (.inl hheld.dispatching)
  | refused receipt hheld =>
    exact .of_step hheld.found (.refused hheld.dispatching) (.inl hheld.dispatching)

theorem Reconciled.receiptsChange {events events' : List ReconciliationEvent}
    (h : Reconciled record events record' events') :
    ReceiptsChange ready record.receipts record'.receipts := by
  cases h with
  | replayed => exact .same
  | reopened ambiguous inputs observedAt event hl hst =>
    exact .of_step hl (.reopened observedAt hst) (.inr hst)
  | confirmed ambiguous remoteMessageIds observedAt event _ publication hl hst _ hreceipts =>
    rw [hreceipts]
    exact .of_step hl (.confirmed remoteMessageIds observedAt hst) (.inr hst)

/-- **Every step makes one `ReceiptsChange`.** -/
theorem PublishStep.receiptsChange {w' : PublishWorld} (h : PublishStep w w') :
    ReceiptsChange (Ready w) w.record.receipts w'.record.receipts := by
  cases h with
  | stuck | fault | lateFault | startCall | endCall => exact .same
  | left _ _ hreceipts _ | finalize _ _ _ _ _ _ hreceipts _ _ =>
    rw [commit_record, hreceipts]
    exact .same
  | loaded _ _ _ hloaded _ | prepared _ _ _ _ hloaded _ _ => exact hloaded.receiptsChange
  | claim worker record context position operation phase hphase hindex hresult _ =>
    refine hresult.receiptsChange ?_
    rw [hindex]
    exact ⟨worker, context, hphase⟩
  | recordFailure worker record context operation attemptCount error _ hrecorded _ =>
    exact hrecorded.receiptsChange
  | persist worker record context operation attemptCount remoteMessageIds receipt completedAt
      _ hheld hreceipts _ =>
      rw [commit_record, hreceipts]
      exact .of_step hheld.found (.delivered remoteMessageIds completedAt hheld.dispatching)
        (.inl hheld.dispatching)
  | sweep record observedAt hreceipts _ =>
    rw [hreceipts]
    exact .swept observedAt
  | reconcile record events hreconciled => exact hreconciled.receiptsChange

theorem PublishStep.publication {w' : PublishWorld} (h : PublishStep w w') :
    w'.record.publication = w.record.publication
      ∨ ∃ publication, w'.record.publication = some publication
          ∧ Delivered w'.record.receipts publication.remoteMessageIds := by
  cases h with
  | stuck => exact .inl rfl
  | left worker record _ hpub => exact .inl hpub
  | loaded worker record _ _ hpub => exact .inl hpub
  | prepared worker record context _ _ hpub _ => exact .inl hpub
  | claim worker record context position operation phase _ _ _ hpub => exact .inl hpub
  | fault => exact .inl rfl
  | lateFault => exact .inl rfl
  | startCall => exact .inl rfl
  | endCall => exact .inl rfl
  | recordFailure worker record context operation attemptCount error _ _ hpub => exact .inl hpub
  | persist worker record context operation attemptCount remoteMessageIds receipt completedAt
      _ _ _ hpub => exact .inl hpub
  | finalize worker record context position publication _ hreceipts hpub hdelivered =>
    refine .inr ⟨publication, hpub, ?_⟩
    rw [commit_record, hreceipts]
    exact hdelivered
  | sweep record observedAt _ hpub => exact .inl hpub
  | reconcile record events hreconciled =>
    cases hreconciled with
    | replayed | reopened => exact .inl rfl
    | confirmed _ _ _ _ _ publication _ _ _ _ hpub hdelivered =>
      exact .inr ⟨publication, hpub, hdelivered⟩

end NewsCraft.Publishing
