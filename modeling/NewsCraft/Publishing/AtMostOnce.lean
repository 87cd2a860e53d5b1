import NewsCraft.Lib.Dispatch
import NewsCraft.Publishing.Receipts

/-!
# A message is sent at most once

Seen from one operation, the publish loop is the protocol of `Lib.Dispatch`: the receipt is
the slot, the worker that claimed it the holder, and the calls that may have reached the
channel are what is counted. `slotView_step` matches every step by steps of the protocol.

The one step it has no match for is an operator who reopens an ambiguous receipt: whoever
sent the message may still have sent it. The runs in question are those without one.
-/

namespace NewsCraft.Publishing

open Lib Jobs List Table

variable {E : PublishEnv} {w w' : PublishWorld} {index : Nat} {s : Dispatch.Slot}
  {receipts receipts' : Table PublishOperationReceipt}

/-! ## One operation as a slot -/

/-- What the protocol sees of a receipt's status. -/
def ReceiptStatus.slot : ReceiptStatus → Dispatch.Status
  | .pending => .free
  | .dispatching => .claimed
  | .succeeded | .ambiguous | .failed => .closed

/-- What the protocol sees of a receipt, or of there being none yet. -/
def slotStatus : Option PublishOperationReceipt → Dispatch.Status
  | none => .free
  | some receipt => receipt.status.slot

variable {receipt : PublishOperationReceipt}

theorem slotStatus_of {receipt? : Option PublishOperationReceipt} {status : ReceiptStatus}
    (hl : receipt? = some receipt) (hst : receipt.status = status) :
    slotStatus receipt? = status.slot := by
  rw [hl, slotStatus, hst]

/-- The calls for an operation that may have reached the channel. -/
def maybeReached (index : Nat) (calls : List SendCall) : Nat :=
  calls.countP fun call => call.operation = index && call.mayHaveReached

/-- The operation a worker has claimed and is not through with. -/
def Phase.working : Phase → Option Nat
  | .idle | .prepared _ _ | .notDue _ _ _ => none
  | .claimed _ operation _ | .sending _ operation _ _ | .failed _ operation _ _
  | .sent _ operation _ _ => some operation.index

/-- A worker at `phase` holds a claim and has come to `stage` with it. -/
inductive Holds (attemptCount : Nat) : Phase → Dispatch.Stage → Prop
  | claimed (context : PublishContext) (operation : TelegramPublishOperation) :
      Holds attemptCount (.claimed context operation attemptCount) .ready
  | sending (context : PublishContext) (operation : TelegramPublishOperation) (call : Nat) :
      Holds attemptCount (.sending context operation attemptCount call) .calling
  | sent (context : PublishContext) (operation : TelegramPublishOperation)
      (remoteMessageIds : List Int) :
      Holds attemptCount (.sent context operation attemptCount remoteMessageIds) .answered
  | failed (context : PublishContext) (operation : TelegramPublishOperation)
      (error : PublicationError) (stage : Dispatch.Stage) :
      ((classifyPublicationFailure error).kind ≠ .reconcile → stage = .ready ∨ stage = .rejected) →
      Holds attemptCount (.failed context operation attemptCount error) stage

/-- The slot of operation `index`, as it stands in a world. -/
structure SlotView (index : Nat) (w : PublishWorld) (s : Dispatch.Slot) : Prop where
  status : s.status = slotStatus (w.record.receipts.lookup index)
  maybe : s.maybe = maybeReached index w.calls
  nobody : s.holder = none → ∀ worker, (w.workers worker).working ≠ some index
  somebody : ∀ stage, s.holder = some stage → s.status ≠ .free ∧ ∃ worker receipt,
    (w.workers worker).working = some index
      ∧ (∀ other, (w.workers other).working = some index → other = worker)
      ∧ w.record.receipts.lookup index = some receipt
      ∧ Holds receipt.attemptCount (w.workers worker) stage

/-- Some steps of the protocol lead from `s` to a view of `w`. -/
def Matched (index : Nat) (w : PublishWorld) (s : Dispatch.Slot) : Prop :=
  ∃ steps s', Dispatch.system.Run s steps s' ∧ SlotView index w s'

theorem SlotView.matched (h : SlotView index w s) : Matched index w s :=
  ⟨[], s, .nil s, h⟩

theorem SlotView.matched_step {s' : Dispatch.Slot} (h : SlotView index w s')
    (hs : Dispatch.Step s s') : Matched index w s :=
  ⟨[()], s', .single hs, h⟩

theorem Matched.trans (h : Matched index w s)
    (h' : ∀ s', SlotView index w s' → Matched index w' s') : Matched index w' s := by
  obtain ⟨steps, s', hrun, hview⟩ := h
  obtain ⟨steps', s'', hrun', hview'⟩ := h' s' hview
  exact ⟨steps ++ steps', s'', hrun.append hrun', hview'⟩

variable {worker : Nat}

theorem SlotView.holder (h : SlotView index w s) (hw : (w.workers worker).working = some index) :
    ∃ stage receipt, s.holder = some stage ∧ s.status ≠ .free
      ∧ (∀ other, (w.workers other).working = some index → other = worker)
      ∧ w.record.receipts.lookup index = some receipt
      ∧ Holds receipt.attemptCount (w.workers worker) stage := by
  cases hholder : s.holder with
  | none => exact absurd hw (h.nobody hholder worker)
  | some stage =>
    obtain ⟨hfree, holder, receipt, _, hunique, hl, hholds⟩ := h.somebody stage hholder
    obtain rfl := hunique worker hw
    exact ⟨stage, receipt, rfl, hfree, hunique, hl, hholds⟩

theorem SlotView.holder_of_free (h : SlotView index w s) (hfree : s.status = .free) :
    s.holder = none := by
  cases hholder : s.holder with
  | none => rfl
  | some stage => exact absurd hfree (h.somebody stage hholder).1

/-! ## What happens to the receipt -/

def SameSlot (index : Nat) (receipts receipts' : Table PublishOperationReceipt) : Prop :=
  slotStatus (receipts'.lookup index) = slotStatus (receipts.lookup index)
    ∧ ∀ receipt, receipts.lookup index = some receipt →
        ∃ receipt', receipts'.lookup index = some receipt'
          ∧ receipt'.attemptCount = receipt.attemptCount

def Closes (index : Nat) (receipts receipts' : Table PublishOperationReceipt) : Prop :=
  ∃ receipt receipt', receipts.lookup index = some receipt ∧ receipt.status = .dispatching
    ∧ receipts'.lookup index = some receipt' ∧ slotStatus (some receipt') = .closed
    ∧ receipt'.attemptCount = receipt.attemptCount

theorem sameSlot_refl : SameSlot index receipts receipts :=
  ⟨rfl, fun receipt hl => ⟨receipt, hl, rfl⟩⟩

theorem sameSlot_put_of_ne (hne : index ≠ receipt.operationIndex) :
    SameSlot index receipts (receipts.put receipt) := by
  have hl : (receipts.put receipt).lookup index = receipts.lookup index :=
    lookup_put_of_ne hne
  rw [SameSlot, hl]
  exact sameSlot_refl

theorem lookup_put {receipt' : PublishOperationReceipt} (hl : receipts.lookup index = some receipt)
    (hkey : receipt'.operationIndex = receipt.operationIndex) :
    (receipts.put receipt').lookup index = some receipt' := by
  obtain rfl : index = receipt'.operationIndex := (hkey.trans (index_of_lookup hl)).symm
  exact lookup_put_self hl

theorem put_closes {receipt' : PublishOperationReceipt} {at_ : Nat}
    (hl : receipts.lookup at_ = some receipt) (hst : receipt.status = .dispatching)
    (hkey : receipt'.operationIndex = receipt.operationIndex)
    (hclosed : slotStatus (some receipt') = .closed)
    (hcount : receipt'.attemptCount = receipt.attemptCount) :
    SameSlot index receipts (receipts.put receipt') ∨ Closes index receipts (receipts.put receipt') := by
  by_cases hindex : index = at_
  · subst hindex
    exact .inr ⟨receipt, receipt', hl, hst, lookup_put hl hkey, hclosed, hcount⟩
  · refine .inl (sameSlot_put_of_ne ?_)
    rw [hkey, index_of_lookup hl]
    exact hindex

theorem Loaded.slot (h : Loaded receipts receipts') :
    SameSlot index receipts receipts' ∨ Closes index receipts receipts' := by
  cases h with
  | same => exact .inl sameSlot_refl
  | created plan observedAt hnil =>
    -- no receipt and a pending one are both free
    have hnone : receipts.lookup index = none := by
      rw [Table.lookup, hnil]
      rfl
    left
    refine ⟨?_, ?_⟩
    · rw [hnone]
      cases hl : (freshReceipts plan observedAt).lookup index with
      | none => rfl
      | some receipt =>
        exact slotStatus_of rfl (fresh_of_mem (mem_of_lookup hl)).1
    · intro receipt hl
      rw [hnone] at hl
      cases hl
  | lost dispatching observedAt hl hst => exact put_closes hl hst rfl rfl rfl

theorem swept_slot (observedAt : Datetime) :
    SameSlot index receipts (receipts.map (JobsDb.markAmbiguous observedAt)
        (JobsDb.markAmbiguous_key observedAt))
      ∨ Closes index receipts (receipts.map (JobsDb.markAmbiguous observedAt)
        (JobsDb.markAmbiguous_key observedAt)) := by
  rw [SameSlot, Closes, lookup_map]
  cases hl : receipts.lookup index with
  | none =>
    left
    refine ⟨rfl, ?_⟩
    intro receipt hr
    cases hr
  | some receipt =>
    by_cases hst : receipt.status = .dispatching
    · right
      refine ⟨receipt, _, rfl, hst, rfl, ?_, ?_⟩
      · rw [JobsDb.markAmbiguous, if_pos hst]
        rfl
      · rw [JobsDb.markAmbiguous, if_pos hst]
    · left
      rw [Option.map_some, markAmbiguous_of_ne hst]
      exact ⟨rfl, fun r hr => ⟨r, hr, rfl⟩⟩

variable {record : PublishRecord}

theorem SlotView.sameSlot (h : SlotView index w s)
    (hsame : SameSlot index w.record.receipts record.receipts) :
    SlotView index { w with record := record } s := by
  refine ⟨h.status.trans hsame.1.symm, h.maybe, h.nobody, ?_⟩
  intro stage hstage
  obtain ⟨hfree, worker, receipt, hw, hunique, hl, hholds⟩ := h.somebody stage hstage
  obtain ⟨receipt', hl', hcount⟩ := hsame.2 receipt hl
  refine ⟨hfree, worker, receipt', hw, hunique, hl', ?_⟩
  rw [hcount]
  exact hholds

theorem SlotView.closes (h : SlotView index w s)
    (hc : Closes index w.record.receipts record.receipts) :
    Matched index { w with record := record } s := by
  obtain ⟨receipt, receipt', hl, hst, hl', hclosed, hcount⟩ := hc
  have hstatus : s.status = .claimed := h.status.trans (slotStatus_of hl hst)
  obtain ⟨status, holder, maybe⟩ := s
  subst hstatus
  have hview : SlotView index { w with record := record } ⟨.closed, holder, maybe⟩ := by
    refine ⟨?_, h.maybe, h.nobody, ?_⟩
    · rw [← hclosed]
      exact congrArg slotStatus hl'.symm
    · intro stage hstage
      obtain ⟨_, worker, old, hw, hunique, hold, hholds⟩ := h.somebody stage hstage
      rw [hl] at hold
      cases hold
      refine ⟨by simp, worker, receipt', hw, hunique, hl', ?_⟩
      rw [hcount]
      exact hholds
  exact hview.matched_step .close

theorem SlotView.written (h : SlotView index w s)
    (hc : SameSlot index w.record.receipts record.receipts ∨ Closes index w.record.receipts
      record.receipts) : Matched index { w with record := record } s := by
  rcases hc with hsame | hcloses
  · exact (h.sameSlot hsame).matched
  · exact h.closes hcloses

/-! ## What happens to the workers -/

variable {phase : Phase}

theorem working_setWorker {other : Nat}
    (h : ((w.setWorker worker phase).workers other).working = some index) :
    (other = worker ∧ phase.working = some index)
      ∨ (other ≠ worker ∧ (w.workers other).working = some index) := by
  by_cases hother : other = worker
  · subst hother
    rw [setWorker_workers_self] at h
    exact .inl ⟨rfl, h⟩
  · rw [setWorker_workers_of_ne hother] at h
    exact .inr ⟨hother, h⟩

theorem SlotView.unnoticed (h : SlotView index w s)
    (hbefore : (w.workers worker).working ≠ some index) (hafter : phase.working ≠ some index) :
    SlotView index (w.setWorker worker phase) s := by
  refine ⟨h.status, h.maybe, ?_, ?_⟩
  · intro hnobody other hother
    rcases working_setWorker hother with ⟨_, hphase⟩ | ⟨_, hother⟩
    · exact hafter hphase
    · exact h.nobody hnobody other hother
  · intro stage hstage
    obtain ⟨hfree, holder, receipt, hw, hunique, hl, hholds⟩ := h.somebody stage hstage
    have hne : holder ≠ worker := by
      intro heq
      rw [heq] at hw
      exact hbefore hw
    have hsame : (w.setWorker worker phase).workers holder = w.workers holder :=
      setWorker_workers_of_ne hne
    refine ⟨hfree, holder, receipt, ?_, ?_, hl, ?_⟩
    · rw [hsame]
      exact hw
    · intro other hother
      rcases working_setWorker hother with ⟨_, hphase⟩ | ⟨_, hother⟩
      · exact absurd hphase hafter
      · exact hunique other hother
    · rw [hsame]
      exact hholds

theorem SlotView.vacated (h : SlotView index w s) (record : PublishRecord)
    (hbefore : (w.workers worker).working = some index) (hafter : phase.working ≠ some index) :
    SlotView index (w.commit record worker phase)
      ⟨slotStatus (record.receipts.lookup index), none, s.maybe⟩ := by
  obtain ⟨_, _, _, _, hunique, _, _⟩ := h.holder hbefore
  refine ⟨rfl, h.maybe, ?_, ?_⟩
  · intro _ other hother
    rcases working_setWorker hother with ⟨_, hphase⟩ | ⟨hne, hother⟩
    · exact hafter hphase
    · exact hne (hunique other hother)
  · nofun

theorem SlotView.departs (h : SlotView index w s) (hafter : phase.working ≠ some index) :
    Matched index (w.setWorker worker phase) s := by
  by_cases hbefore : (w.workers worker).working = some index
  · obtain ⟨stage, _, hholder, hfree, _⟩ := h.holder hbefore
    have hview : SlotView index (w.setWorker worker phase) ⟨_, none, s.maybe⟩ :=
      h.vacated w.record hbefore hafter
    rw [← h.status] at hview
    obtain ⟨status, holder, maybe⟩ := s
    subst hholder
    exact hview.matched_step (.leave hfree)
  · exact (h.unnoticed hbefore hafter).matched

theorem SlotView.commit (h : SlotView index w s)
    (hc : SameSlot index w.record.receipts record.receipts ∨ Closes index w.record.receipts
      record.receipts) (hafter : phase.working ≠ some index) :
    Matched index (w.commit record worker phase) s :=
  (h.written hc).trans fun _ h' => h'.departs hafter

theorem SlotView.advances {stage stage' : Dispatch.Stage} (h : SlotView index w s)
    (calls : List SendCall) (hholder : s.holder = some stage)
    (hbefore : (w.workers worker).working = some index) (hafter : phase.working = some index)
    (hl : w.record.receipts.lookup index = some receipt)
    (hholds : Holds receipt.attemptCount phase stage') :
    SlotView index { w.setWorker worker phase with calls := calls }
      ⟨s.status, some stage', maybeReached index calls⟩ := by
  obtain ⟨hfree, holder, _, hw, hunique, _, _⟩ := h.somebody stage hholder
  obtain rfl := hunique worker hbefore
  refine ⟨h.status, rfl, ?_, ?_⟩
  · nofun
  · intro other hother
    cases hother
    refine ⟨hfree, worker, receipt, ?_, ?_, hl, ?_⟩
    · show ((w.setWorker worker phase).workers worker).working = some index
      rw [setWorker_workers_self]
      exact hafter
    · intro other hother
      rcases working_setWorker hother with ⟨heq, _⟩ | ⟨_, hother⟩
      · exact heq
      · exact hunique other hother
    · show Holds receipt.attemptCount ((w.setWorker worker phase).workers worker) stage'
      rw [setWorker_workers_self]
      exact hholds

/-! ## Calls under way -/

/-- The number of the call a worker waits for, and its operation. -/
def Phase.underWay : Phase → Option (Nat × Nat)
  | .sending _ operation _ call => some (call, operation.index)
  | .idle | .prepared _ _ | .notDue _ _ _ | .claimed _ _ _ | .failed _ _ _ _ | .sent _ _ _ _ =>
    none

/-- A call somebody waits for has no outcome, and nobody else waits for it. -/
structure CallsOpen (w : PublishWorld) : Prop where
  pending : ∀ worker call operation, (w.workers worker).underWay = some (call, operation) →
    w.calls[call]? = some ⟨operation, none⟩
  distinct : ∀ worker other call operation operation',
    (w.workers worker).underWay = some (call, operation) →
    (w.workers other).underWay = some (call, operation') → other = worker

theorem underWay_setWorker {other : Nat} {call : Nat × Nat}
    (h : ((w.setWorker worker phase).workers other).underWay = some call) :
    (other = worker ∧ phase.underWay = some call)
      ∨ (other ≠ worker ∧ (w.workers other).underWay = some call) := by
  by_cases hother : other = worker
  · subst hother
    rw [setWorker_workers_self] at h
    exact .inl ⟨rfl, h⟩
  · rw [setWorker_workers_of_ne hother] at h
    exact .inr ⟨hother, h⟩

variable {calls : List SendCall}

theorem CallsOpen.setWorker (h : CallsOpen w) (worker : Nat) (hphase : phase.underWay = none)
    (hcalls : ∀ other call operation, other ≠ worker → (w.workers other).underWay = some (call,
      operation) → calls[call]? = w.calls[call]?) :
    CallsOpen { w.setWorker worker phase with calls := calls } := by
  refine ⟨?_, ?_⟩
  · intro other call operation hother
    rcases underWay_setWorker hother with ⟨_, hself⟩ | ⟨hne, hother⟩
    · rw [hphase] at hself
      cases hself
    · show calls[call]? = some ⟨operation, none⟩
      rw [hcalls other call operation hne hother]
      exact h.pending other call operation hother
  · intro other other' call operation operation' hother hother'
    rcases underWay_setWorker hother with ⟨_, hself⟩ | ⟨_, hother⟩
    · rw [hphase] at hself
      cases hself
    · rcases underWay_setWorker hother' with ⟨_, hself⟩ | ⟨_, hother'⟩
      · rw [hphase] at hself
        cases hself
      · exact h.distinct other other' call operation operation' hother hother'

theorem CallsOpen.commit (h : CallsOpen w) (hphase : phase.underWay = none) :
    CallsOpen (w.commit record worker phase) := by
  have hmoved := h.setWorker worker hphase fun _ _ _ _ _ => rfl
  exact ⟨hmoved.pending, hmoved.distinct⟩

variable {context : PublishContext} {operation : TelegramPublishOperation}

theorem ClaimResult.underWay {position : Nat}
    (h : ClaimResult receipts context position operation receipts' phase) :
    phase.underWay = none := by
  cases h <;> rfl

theorem callsOpen_step (h : CallsOpen w) (hs : PublishStep w w') : CallsOpen w' := by
  cases hs with
  | stuck => exact h
  | claim worker record context position operation phase _ _ hresult _ =>
    exact h.commit hresult.underWay
  | startCall worker context operation attemptCount hphase =>
    -- the new call has a number no other worker waits for
    have hfresh : ∀ other call operation',
        (w.workers other).underWay = some (call, operation') → call < w.calls.length := by
      intro other call operation' hother
      exact (List.getElem?_eq_some_iff.mp (h.pending other call operation' hother)).1
    refine ⟨?_, ?_⟩
    · intro other call operation' hother
      rcases underWay_setWorker hother with ⟨_, hself⟩ | ⟨_, hother⟩
      · cases hself
        exact getElem?_concat_length
      · show (w.calls ++ [_])[call]? = _
        rw [getElem?_append_left (hfresh other call operation' hother)]
        exact h.pending other call operation' hother
    · intro other other' call operation' operation'' hother hother'
      rcases underWay_setWorker hother with ⟨heq, hself⟩ | ⟨_, hother⟩
      · rcases underWay_setWorker hother' with ⟨heq', _⟩ | ⟨_, hother'⟩
        · rw [heq, heq']
        cases hself
        have := hfresh other' _ _ hother'
        omega
      · rcases underWay_setWorker hother' with ⟨_, hself⟩ | ⟨_, hother'⟩
        · cases hself
          have := hfresh other _ _ hother
          omega
        · exact h.distinct other other' call operation' operation'' hother hother'
  | endCall worker context operation attemptCount call outcome hphase =>
    refine h.setWorker worker ?_ ?_
    · cases outcome <;> rfl
    intro other call' operation' hne hother
    refine getElem?_set_ne ?_
    intro heq
    subst heq
    have hself : (w.workers worker).underWay = some (call, operation.index) := by
      rw [hphase]
      rfl
    exact hne (h.distinct worker other call _ _ hself hother)
  | sweep _ _ _ _ | reconcile _ _ _ => exact ⟨h.pending, h.distinct⟩
  | _ => exact h.commit rfl

theorem callsOpen_reachable {job : PublishJob} (h : (publishSystem E job).Reachable w) :
    CallsOpen w := by
  refine System.invariant (P := CallsOpen) ?_ ?_ h
  · intro s hs
    rw [hs]
    refine ⟨?_, ?_⟩
    · nofun
    · nofun
  · intro s event s' _ hi hst
    rw [hst]
    exact callsOpen_step hi (publishStep_step E s event)

/-! ## Counting calls -/

theorem maybeReached_append (index : Nat) (calls : List SendCall) (operation : Nat) :
    maybeReached index (calls ++ [⟨operation, none⟩])
      = maybeReached index calls + if operation = index then 1 else 0 := by
  rw [maybeReached, countP_append, countP_singleton]
  simp [maybeReached, SendCall.mayHaveReached]

theorem maybeReached_set {call operation : Nat} (outcome : SendOutcome) (index : Nat)
    (h : calls[call]? = some ⟨operation, none⟩) :
    maybeReached index calls = maybeReached index (calls.set call ⟨operation, some outcome⟩)
        + if operation = index ∧ (SendCall.mk operation (some outcome)).mayHaveReached = false
          then 1 else 0 := by
  obtain ⟨hlt, hcall⟩ := List.getElem?_eq_some_iff.mp h
  have hset : maybeReached index (calls.set call ⟨operation, some outcome⟩) = _ :=
    countP_set hlt
  rw [hcall] at hset
  by_cases hindex : operation = index
  · -- the call was counted while it was under way
    have hpos : 0 < maybeReached index calls := by
      refine countP_pos_iff.mpr ⟨_, mem_of_getElem? h, ?_⟩
      simp [hindex, SendCall.mayHaveReached]
    have hopen : (SendCall.mk operation none).mayHaveReached = true := rfl
    rw [maybeReached] at hpos
    cases hreached : (SendCall.mk operation (some outcome)).mayHaveReached with
    | true | false =>
      rw [hset, maybeReached]
      simp only [hindex] at hreached hopen ⊢
      simp only [hreached, hopen, decide_true, Bool.and_self, if_true]
      simp
      omega
  · rw [hset]
    simp [hindex, maybeReached]

/-! ## The simulation -/

theorem working_of (hphase : w.workers worker = phase) (hworking : phase.working = some index) :
    (w.workers worker).working = some index := by
  rw [hphase]
  exact hworking

theorem not_working_of (hphase : w.workers worker = phase) (hworking : phase.working ≠ some index) :
    (w.workers worker).working ≠ some index := by
  rw [hphase]
  exact hworking

theorem SlotView.recount (h : SlotView index w s)
    (hcalls : maybeReached index calls = maybeReached index w.calls) :
    SlotView index { w with calls := calls } s :=
  ⟨h.status, h.maybe.trans hcalls.symm, h.nobody, h.somebody⟩

theorem SlotView.claims {worker : Nat} {record : PublishRecord} {context : PublishContext}
    {operation : TelegramPublishOperation} {receipt : PublishOperationReceipt}
    {claimTime : Datetime} (h : SlotView index w s)
    (hl : w.record.receipts.lookup operation.index = some receipt)
    (hst : receipt.status = .pending)
    (hreceipts : record.receipts = w.record.receipts.put { receipt with
      status := .dispatching
      attemptCount := receipt.attemptCount + 1
      nextAttemptAt := none
      updatedAt := claimTime })
    (hbefore : (w.workers worker).working ≠ some index) :
    Matched index
      (w.commit record worker (.claimed context operation (receipt.attemptCount + 1))) s := by
  by_cases hindex : operation.index = index
  · have hfree : s.status = .free := by
      rw [hindex] at hl
      exact h.status.trans (slotStatus_of hl hst)
    have hnone := h.holder_of_free hfree
    have hnobody := h.nobody hnone
    have hl' : record.receipts.lookup index = some { receipt with
        status := .dispatching
        attemptCount := receipt.attemptCount + 1
        nextAttemptAt := none
        updatedAt := claimTime } := by
      rw [hreceipts, ← hindex]
      exact lookup_put hl rfl
    have hview : SlotView index
        (w.commit record worker (.claimed context operation (receipt.attemptCount + 1)))
        ⟨.claimed, some .ready, s.maybe⟩ := by
      refine ⟨(slotStatus_of hl' rfl).symm, h.maybe, ?_, ?_⟩
      · nofun
      · intro stage hstage
        cases hstage
        have hself : (w.commit record worker
            (.claimed context operation (receipt.attemptCount + 1))).workers worker
            = .claimed context operation (receipt.attemptCount + 1) :=
          setWorker_workers_self worker _
        refine ⟨by simp, worker, _, working_of hself (congrArg some hindex), ?_, hl', ?_⟩
        · intro other hother
          rcases working_setWorker hother with ⟨heq, _⟩ | ⟨_, hother⟩
          · exact heq
          · exact absurd hother (hnobody other)
        · rw [hself]
          exact .claimed context operation
    obtain ⟨status, holder, maybe⟩ := s
    subst hfree hnone
    exact hview.matched_step .claim
  · have hsame : SameSlot index w.record.receipts record.receipts := by
      rw [hreceipts]
      refine sameSlot_put_of_ne ?_
      intro heq
      exact hindex ((index_of_lookup hl).symm.trans heq.symm)
    have hafter : (Phase.claimed context operation (receipt.attemptCount + 1)).working
        ≠ some index := by
      intro heq
      exact hindex (Option.some.inj heq)
    exact ((h.sameSlot hsame).unnoticed hbefore hafter).matched

theorem SlotView.moves {operation : Nat} (h : SlotView index w s)
    (hbefore : (w.workers worker).working = some operation)
    (hafter : phase.working = some operation)
    (hholds : ∀ attemptCount stage, Holds attemptCount (w.workers worker) stage → Holds attemptCount
      phase stage) : SlotView index (w.setWorker worker phase) s := by
  by_cases hindex : operation = index
  · subst hindex
    obtain ⟨stage, receipt, hholder, _, _, hl, hold⟩ := h.holder hbefore
    have hview := h.advances w.calls hholder hbefore hafter hl (hholds _ _ hold)
    rw [← h.maybe, ← hholder] at hview
    exact hview
  · have hne : some operation ≠ some index := by
      intro heq
      exact hindex (Option.some.inj heq)
    exact h.unnoticed (by rw [hbefore]; exact hne) (by rw [hafter]; exact hne)

variable {attemptCount : Nat}

theorem SlotView.startsCall (h : SlotView index w s)
    (hphase : w.workers worker = .claimed context operation attemptCount) :
    Matched index { w.setWorker worker (.sending context operation attemptCount w.calls.length) with
        calls := w.calls ++ [⟨operation.index, none⟩] } s := by
  have hcount := maybeReached_append index w.calls operation.index
  by_cases hindex : operation.index = index
  · have hbefore := working_of hphase (congrArg some hindex)
    obtain ⟨stage, receipt, hholder, _, _, hl, hholds⟩ := h.holder hbefore
    rw [hphase] at hholds
    cases hholds
    have hafter : (Phase.sending context operation receipt.attemptCount w.calls.length).working
        = some index := congrArg some hindex
    have hview := h.advances (w.calls ++ [⟨operation.index, none⟩]) hholder hbefore hafter hl
      (.sending context operation w.calls.length)
    rw [hcount, if_pos hindex, ← h.maybe] at hview
    obtain ⟨status, holder, maybe⟩ := s
    subst hholder
    exact hview.matched_step .call
  · rw [if_neg hindex, Nat.add_zero] at hcount
    have hne : some operation.index ≠ some index := by
      intro heq
      exact hindex (Option.some.inj heq)
    have hunnoticed : SlotView index
        (w.setWorker worker (.sending context operation attemptCount w.calls.length)) s :=
      h.unnoticed (not_working_of hphase hne) hne
    exact (hunnoticed.recount hcount).matched

theorem holds_afterCall (context : PublishContext) (operation : TelegramPublishOperation)
    (attemptCount : Nat) (outcome : SendOutcome) :
    ∃ stage, Holds attemptCount (afterCall context operation attemptCount outcome) stage
      ∧ ((stage = .answered ∧ (SendCall.mk operation.index (some outcome)).mayHaveReached = true)
        ∨ (stage = .rejected
          ∧ (SendCall.mk operation.index (some outcome)).mayHaveReached = false)) := by
  cases outcome with
  | success remoteMessageIds =>
    exact ⟨.answered, .sent context operation remoteMessageIds, Or.inl ⟨rfl, rfl⟩⟩
  | failure error =>
    by_cases hkind : (classifyPublicationFailure error).kind = .reconcile
    · exact ⟨.answered, .failed context operation error _ fun hne => absurd hkind hne,
        Or.inl ⟨rfl, decide_eq_true hkind⟩⟩
    · exact ⟨.rejected, .failed context operation error _ fun _ => .inr rfl,
        Or.inr ⟨rfl, decide_eq_false hkind⟩⟩

theorem SlotView.endsCall {call : Nat} {outcome : SendOutcome} (h : SlotView index w s)
    (hphase : w.workers worker = .sending context operation attemptCount call)
    (hcall : w.calls[call]? = some ⟨operation.index, none⟩) :
    Matched index { w.setWorker worker (afterCall context operation attemptCount outcome) with
        calls := w.calls.set call ⟨operation.index, some outcome⟩ } s := by
  have hcount := maybeReached_set outcome index hcall
  have hworking : (afterCall context operation attemptCount outcome).working
      = some operation.index := by
    cases outcome <;> rfl
  by_cases hindex : operation.index = index
  · rw [hindex] at hworking
    have hbefore := working_of hphase (congrArg some hindex)
    obtain ⟨stage, receipt, hholder, _, _, hl, hholds⟩ := h.holder hbefore
    rw [hphase] at hholds
    cases hholds
    obtain ⟨stage', hholds', hstage⟩ :=
      holds_afterCall context operation receipt.attemptCount outcome
    have hview := h.advances (w.calls.set call ⟨operation.index, some outcome⟩) hholder hbefore
      hworking hl hholds'
    have hmaybe := h.maybe
    obtain ⟨status, holder, maybe⟩ := s
    subst hholder hmaybe
    rcases hstage with ⟨rfl, hreached⟩ | ⟨rfl, hreached⟩
    · rw [if_neg (by simp [hreached]), Nat.add_zero] at hcount
      rw [← hcount] at hview
      exact hview.matched_step .answer
    · rw [if_pos ⟨hindex, hreached⟩] at hcount
      rw [hcount]
      exact hview.matched_step .reject
  · rw [if_neg (fun hand => hindex hand.1), Nat.add_zero] at hcount
    have hne : some operation.index ≠ some index := by
      intro heq
      exact hindex (Option.some.inj heq)
    have hunnoticed := h.unnoticed (not_working_of hphase hne) (by rw [hworking]; exact hne)
    exact (hunnoticed.recount hcount.symm).matched

theorem SlotView.recordsFailure {error : PublicationError} (h : SlotView index w s)
    (hphase : w.workers worker = .failed context operation attemptCount error)
    (hrecorded : FailureRecorded w.record.receipts operation attemptCount error record.receipts) :
    Matched index (w.commit record worker .idle) s := by
  have hidle : Phase.idle.working ≠ some index := by
    intro heq
    cases heq
  generalize hreceipts : record.receipts = receipts' at hrecorded
  cases hrecorded with
  | superseded =>
    refine h.commit (.inl ?_) hidle
    rw [hreceipts]
    exact sameSlot_refl
  | freed receipt retryAt hheld hkind =>
    by_cases hindex : operation.index = index
    · have hbefore := working_of hphase (congrArg some hindex)
      obtain ⟨stage, receipt', hholder, _, _, _, hholds⟩ := h.holder hbefore
      have hfound := hheld.found
      rw [hindex] at hfound
      have hstatus : s.status = .claimed :=
        h.status.trans (slotStatus_of hfound hheld.dispatching)
      have hfreed : record.receipts.lookup index
          = some { receipt with status := .pending, nextAttemptAt := some retryAt } := by
        rw [hreceipts]
        exact lookup_put hfound rfl
      have hview := h.vacated record hbefore hidle
      rw [slotStatus_of hfreed rfl] at hview
      rw [hphase] at hholds
      obtain ⟨status, holder, maybe⟩ := s
      subst hholder hstatus
      cases hholds with
      | failed _ _ _ _ hstage =>
        refine hview.matched_step (.release (hstage ?_))
        rw [hkind]
        simp
    · refine h.commit (.inl ?_) hidle
      rw [hreceipts]
      refine sameSlot_put_of_ne ?_
      intro heq
      exact hindex ((index_of_lookup hheld.found).symm.trans heq.symm)
  | lost _ _ hheld | refused _ hheld =>
    refine h.commit ?_ hidle
    rw [hreceipts]
    exact put_closes hheld.found hheld.dispatching rfl rfl rfl

theorem confirmed_slot {ambiguous : PublishOperationReceipt} {remoteMessageIds : List Int}
    {observedAt : Datetime} (hl : receipts.lookup ambiguous.operationIndex = some ambiguous)
    (hst : ambiguous.status = .ambiguous) : SameSlot index receipts (receipts.put
      (PublishRecord.confirmedReceipt ambiguous remoteMessageIds observedAt)) := by
  by_cases hindex : index = ambiguous.operationIndex
  · subst hindex
    have hl' : (receipts.put (PublishRecord.confirmedReceipt ambiguous remoteMessageIds
        observedAt)).lookup ambiguous.operationIndex = some _ := lookup_put hl rfl
    refine ⟨?_, ?_⟩
    · rw [hl', slotStatus_of hl hst]
      rfl
    · intro receipt hr
      rw [hl] at hr
      cases hr
      exact ⟨_, hl', rfl⟩
  · exact sameSlot_put_of_ne hindex

/-- No operator has recorded that an ambiguous message was not sent. -/
def NoneReopened (w : PublishWorld) : Prop :=
  ∀ event ∈ w.events, event.outcome ≠ .notPublished

/-- **Every step is matched by steps of the protocol**, unless it reopens a receipt. -/
theorem slotView_step (hcalls : CallsOpen w) (h : SlotView index w s) (hs : PublishStep w w')
    (hno : NoneReopened w') : Matched index w' s := by
  have hidle : Phase.idle.working ≠ some index := by
    intro heq
    cases heq
  cases hs with
  | stuck => exact h.matched
  | left worker record hreceipts _ =>
    refine h.commit (.inl ?_) hidle
    rw [hreceipts]
    exact sameSlot_refl
  | loaded worker record _ hloaded _ => exact h.commit hloaded.slot hidle
  | prepared worker record context _ hloaded _ _ =>
    refine h.commit hloaded.slot ?_
    intro heq
    cases heq
  | claim worker record context position operation phase hphase _ hresult _ =>
    have hbefore : (w.workers worker).working ≠ some index := by
      rw [hphase]
      intro heq
      cases heq
    generalize hreceipts : record.receipts = receipts' at hresult
    cases hresult with
    | claimed receipt claimTime hl hst => exact h.claims hl hst hreceipts hbefore
    | gaveUp =>
      refine h.commit (.inl ?_) hidle
      rw [hreceipts]
      exact sameSlot_refl
    | notDue _ _ | done _ _ _ =>
      refine h.commit (.inl ?_) ?_
      · rw [hreceipts]
        exact sameSlot_refl
      · nofun
  | fault worker context operation attemptCount error hphase =>
    refine (h.moves (working_of hphase rfl) rfl ?_).matched
    intro count stage hholds
    rw [hphase] at hholds
    cases hholds
    exact .failed context operation error _ fun _ => .inl rfl
  | lateFault worker context operation attemptCount remoteMessageIds hphase =>
    refine (h.moves (working_of hphase rfl) rfl ?_).matched
    intro count stage hholds
    rw [hphase] at hholds
    cases hholds
    exact .failed context operation .other _ fun hne => absurd rfl hne
  | startCall worker context operation attemptCount hphase => exact h.startsCall hphase
  | endCall worker context operation attemptCount call outcome hphase =>
    refine h.endsCall hphase (hcalls.pending worker call operation.index ?_)
    rw [hphase]
    rfl
  | recordFailure worker record context operation attemptCount error hphase hrecorded _ =>
    exact h.recordsFailure hphase hrecorded
  | persist worker record context operation attemptCount remoteMessageIds receipt completedAt
      _ hheld hreceipts _ =>
      refine h.commit ?_ ?_
      · rw [hreceipts]
        exact put_closes hheld.found hheld.dispatching rfl rfl rfl
      · nofun
  | finalize worker record context position publication _ hreceipts _ _ =>
    refine h.commit (.inl ?_) hidle
    rw [hreceipts]
    exact sameSlot_refl
  | sweep record observedAt hreceipts _ =>
    refine h.written ?_
    rw [hreceipts]
    exact swept_slot observedAt
  | reconcile record events hreconciled =>
    have hsame : SameSlot index w.record.receipts record.receipts := by
      cases hreconciled with
      | replayed => exact sameSlot_refl
      | reopened ambiguous inputs observedAt event _ _ houtcome =>
        exact absurd houtcome (hno event mem_cons_self)
      | confirmed ambiguous remoteMessageIds observedAt event after publication hl hst _
          hreceipts _ _ =>
          rw [hreceipts]
          exact confirmed_slot hl hst
    have hview := h.sameSlot hsame
    exact SlotView.matched ⟨hview.status, hview.maybe, hview.nobody, hview.somebody⟩

theorem PublishStep.events (hs : PublishStep w w') : ∃ new, w'.events = new ++ w.events := by
  cases hs with
  | reconcile record events hreconciled =>
    cases hreconciled with
    | replayed => exact ⟨[], rfl⟩
    | reopened _ _ _ event _ _ _ | confirmed _ _ _ event _ _ _ _ _ _ _ _ => exact ⟨[event], rfl⟩
  | _ => exact ⟨[], rfl⟩

/-- The runs in which no operator reopens a receipt. -/
def unreopened (E : PublishEnv) (job : PublishJob) : System PublishWorld PublishEvent :=
  (publishSystem E job).restrict fun w event => NoneReopened (w.step E event)

theorem unreopened_reachable {job : PublishJob} (h : (publishSystem E job).Reachable w)
    (hno : NoneReopened w) : (unreopened E job).Reachable w := by
  induction h with
  | init h0 => exact .init h0
  | @tail before after event _ hst ih =>
    obtain rfl : after = before.step E event := hst
    obtain ⟨new, hevents⟩ := (publishStep_step E before event).events
    refine (ih ?_).tail (e := event) ⟨hno, rfl⟩
    intro old hold
    refine hno old ?_
    rw [hevents]
    exact mem_append_right new hold

/-- **The publish loop refines the protocol**, for each of its operations. -/
theorem slotView_simulation (E : PublishEnv) (job : PublishJob) (index : Nat) :
    System.Simulation (unreopened E job) Dispatch.system (SlotView index) := by
  refine ⟨?_, ?_⟩
  · intro w hw
    obtain rfl : w = .start job := hw
    refine ⟨.fresh, rfl, rfl, rfl, ?_, ?_⟩
    · nofun
    · nofun
  · intro w event w' s hr hview hst
    obtain rfl : w' = w.step E event := hst.2
    exact slotView_step (callsOpen_reachable hr.of_restrict) hview (publishStep_step E w event)
      hst.1

/-- **At most one call for an operation may have reached the channel**, in every
run in which no operator records that a message was not published. -/
theorem send_at_most_once {job : PublishJob} (h : (publishSystem E job).Reachable w)
    (hno : NoneReopened w) (index : Nat) : maybeReached index w.calls ≤ 1 := by
  obtain ⟨s, hs, hview⟩ :=
    (slotView_simulation E job index).reachable (unreopened_reachable h hno)
  rw [← hview.maybe]
  exact Dispatch.maybe_le_one hs

/-- The first call is refused for now, the second never returns, and another
worker finds its claim stale. -/
def staleClaim : PublishWorld :=
  PublishWorld.run ⟨fun _ _ => none, fun _ => ""⟩ queuedJob
    [ .prepare 0 ⟨twoOperations, "@channel", none⟩ 0, .claim 0 0 none, .startCall 0,
      .endCall 0 (.failure (.rateLimited 5)), .recordFailure 0 0,
      .prepare 1 ⟨twoOperations, "@channel", none⟩ 6000000, .claim 1 6000000 none, .startCall 1,
      .prepare 0 ⟨twoOperations, "@channel", none⟩ 400000000 ]

theorem send_at_most_once_stale :
    staleClaim.calls.length = 2 ∧ maybeReached 0 staleClaim.calls ≤ 1 :=
  ⟨rfl, send_at_most_once (PublishWorld.run_reachable _ queuedJob _)
    (fun _ hevent => absurd hevent not_mem_nil) 0⟩

end NewsCraft.Publishing
