import NewsCraft.Publishing.AtMostOnce
import NewsCraft.Publishing.OneDecision
import NewsCraft.Publishing.Prefix

/-!
# What stands behind a receipt

A receipt that says its message was delivered has a call behind it which Telegram
answered with these message ids, or an operator's confirmation. A call is only made
once everything before it was delivered, however long its worker was held up.
-/

namespace NewsCraft.Publishing

open Lib Jobs List Table

variable {E : PublishEnv} {w w' : PublishWorld} {receipt : PublishOperationReceipt}
  {receipts receipts' : Table PublishOperationReceipt} {index worker : Nat} {phase : Phase}

theorem seen_setWorker {α : Type} (see : Phase → Option α) {a : α} {other : Nat}
    (h : see ((w.setWorker worker phase).workers other) = some a) :
    see phase = some a ∨ see (w.workers other) = some a := by
  by_cases hother : other = worker
  · rw [hother, setWorker_workers_self] at h
    exact .inl h
  · rw [setWorker_workers_of_ne hother] at h
    exact .inr h

/-! ## Calls -/

theorem PublishStep.keeps_answered (hs : PublishStep w w') (hcalls : CallsOpen w)
    {call : SendCall} (hmem : call ∈ w.calls) (hanswered : call.outcome ≠ none) :
    call ∈ w'.calls := by
  cases hs with
  | startCall => exact mem_append_left _ hmem
  | endCall worker context operation attemptCount number outcome hphase =>
    have hopen := hcalls.pending worker number operation.index (by rw [hphase]; rfl)
    obtain ⟨i, hi⟩ := mem_iff_getElem?.mp hmem
    have hne : number ≠ i := by
      intro heq
      rw [heq, hi] at hopen
      cases hopen
      exact hanswered rfl
    exact mem_of_getElem? ((getElem?_set_ne hne).trans hi)
  | _ => exact hmem

def Phase.answer : Phase → Option (Nat × List Int)
  | .sent _ operation _ remoteMessageIds => some (operation.index, remoteMessageIds)
  | .idle | .prepared _ _ | .notDue _ _ _ | .claimed _ _ _ | .sending _ _ _ _
  | .failed _ _ _ _ => none

/-- What a worker is about to persist is what its call was answered with. -/
def AnswersKept (w : PublishWorld) : Prop :=
  ∀ worker operation remoteMessageIds,
    (w.workers worker).answer = some (operation, remoteMessageIds) →
    ⟨operation, some (.success remoteMessageIds)⟩ ∈ w.calls

theorem AnswersKept.step (h : AnswersKept w) (hcalls : CallsOpen w) (hs : PublishStep w w') :
    AnswersKept w' := by
  intro other operation remoteMessageIds hanswer
  have hold : (w.workers other).answer = some (operation, remoteMessageIds) →
      ⟨operation, some (.success remoteMessageIds)⟩ ∈ w'.calls := by
    intro hbefore
    exact hs.keeps_answered hcalls (h other operation remoteMessageIds hbefore) (by simp)
  cases hs with
  | stuck | sweep | reconcile => exact hold hanswer
  | claim worker record context position operation' phase hphase hindex hresult _ =>
    rcases seen_setWorker Phase.answer hanswer with hnew | hother
    · generalize record.receipts = receipts' at hresult
      cases hresult <;> cases hnew
    · exact hold hother
  | endCall worker context operation' attemptCount number outcome hphase =>
    rcases seen_setWorker Phase.answer hanswer with hnew | hother
    · cases outcome with
      | failure => cases hnew
      | success =>
        cases hnew
        have hopen := hcalls.pending worker number operation'.index (by rw [hphase]; rfl)
        exact mem_set (List.getElem?_eq_some_iff.mp hopen).1 _
    · exact hold hother
  | _ =>
    rcases seen_setWorker Phase.answer hanswer with hnew | hother
    · cases hnew
    · exact hold hother

/-! ## What was delivered before -/

/-- Everything before an operation was delivered. -/
def Past (receipts : Table PublishOperationReceipt) (index : Nat) : Prop :=
  ∀ earlier < index, ∃ receipt ∈ receipts.rows,
    receipt.operationIndex = earlier ∧ receipt.status = .succeeded

theorem Past.step (h : Past w.record.receipts index) (hs : PublishStep w w') :
    Past w'.record.receipts index := by
  intro earlier hlt
  obtain ⟨receipt, hm, hindex, hst⟩ := h earlier hlt
  exact ⟨receipt, hs.receiptsChange.keeps_succeeded hm hst, hindex, hst⟩

theorem BelowDone.past (h : BelowDone receipts index) (hi : Indexed receipts)
    (hl : receipts.lookup index = some receipt) : Past receipts index := by
  have hrange : ∀ i, i ∈ receipts.rows.map PublishOperationReceipt.operationIndex
      ↔ i < receipts.rows.length := by
    intro i
    rw [hi, mem_range]
  have hroom : index < receipts.rows.length :=
    (hrange index).mp (index_of_lookup hl ▸ mem_map_of_mem (mem_of_lookup hl))
  intro earlier hlt
  obtain ⟨before, hm, hindex⟩ := mem_map.mp ((hrange earlier).mpr (by omega))
  exact ⟨before, hm, hindex, h.below before hm (by omega)⟩

theorem PublishStep.working (hs : PublishStep w w') {other : Nat}
    (h : (w'.workers other).working = some index) :
    (∃ before, (w.workers before).working = some index)
      ∨ ∃ before context receipt, w.workers before = .prepared context index
        ∧ w.record.receipts.lookup index = some receipt := by
  cases hs with
  | stuck | sweep | reconcile => exact .inl ⟨other, h⟩
  | claim worker record context position operation phase hphase hindex hresult _ =>
    rcases seen_setWorker Phase.working h with hnew | hother
    · generalize record.receipts = receipts' at hresult
      cases hresult with
      | gaveUp | notDue | done => cases hnew
      | claimed receipt _ hl =>
        cases hnew
        rw [← hindex] at hphase
        exact .inr ⟨worker, context, receipt, hphase, hl⟩
    · exact .inl ⟨other, hother⟩
  | fault worker _ _ _ _ hphase | lateFault worker _ _ _ _ hphase
  | startCall worker _ _ _ hphase =>
    rcases seen_setWorker Phase.working h with hnew | hother
    · exact .inl ⟨worker, working_of hphase hnew⟩
    · exact .inl ⟨other, hother⟩
  | endCall worker context operation attemptCount call outcome hphase =>
    rcases seen_setWorker Phase.working h with hnew | hother
    · refine .inl ⟨worker, working_of hphase ?_⟩
      cases outcome <;> exact hnew
    · exact .inl ⟨other, hother⟩
  | _ =>
    rcases seen_setWorker Phase.working h with hnew | hother
    · cases hnew
    · exact .inl ⟨other, hother⟩

theorem PublishStep.called (hs : PublishStep w w') {call : SendCall} (h : call ∈ w'.calls) :
    (∃ earlier ∈ w.calls, earlier.operation = call.operation)
      ∨ ∃ worker, (w.workers worker).working = some call.operation := by
  cases hs with
  | startCall worker context operation attemptCount hphase =>
    rcases mem_append.mp h with hold | hnew
    · exact .inl ⟨call, hold, rfl⟩
    · rw [mem_singleton.mp hnew]
      exact .inr ⟨worker, working_of hphase rfl⟩
  | endCall worker context operation attemptCount number outcome hphase =>
    rcases mem_or_eq_of_mem_set h with hold | hnew
    · exact .inl ⟨call, hold, rfl⟩
    · rw [hnew]
      exact .inr ⟨worker, working_of hphase rfl⟩
  | _ => exact .inl ⟨call, h, rfl⟩

/-! ## What vouches for a receipt -/

/-- Telegram answered a call with the receipt's message ids, or an operator confirmed it. -/
inductive Vouched (w : PublishWorld) (receipt : PublishOperationReceipt) : Prop
  | answered : ⟨receipt.operationIndex, some (.success receipt.remoteMessageIds)⟩ ∈ w.calls →
      Vouched w receipt
  | confirmed (event : ReconciliationEvent) : event ∈ w.events → event.outcome = .published →
      event.generation.operationKey = receipt.operationKey → Vouched w receipt

theorem Vouched.step (h : Vouched w receipt) (hcalls : CallsOpen w) (hs : PublishStep w w') :
    Vouched w' receipt := by
  cases h with
  | answered hmem => exact .answered (hs.keeps_answered hcalls hmem (by simp))
  | confirmed event hmem houtcome hkey =>
    obtain ⟨new, hevents⟩ := hs.events
    refine .confirmed event ?_ houtcome hkey
    rw [hevents]
    exact mem_append_right new hmem

theorem succeeded_put {new : PublishOperationReceipt} (hm : receipt ∈ (receipts.put new).rows)
    (hst : receipt.status = .succeeded) (hnew : new.status ≠ .succeeded) :
    receipt ∈ receipts.rows := by
  rcases mem_put hm with ⟨rfl, _⟩ | ⟨hold, _⟩
  · exact absurd hst hnew
  · exact hold

theorem Loaded.succeeded (h : Loaded receipts receipts') (hm : receipt ∈ receipts'.rows)
    (hst : receipt.status = .succeeded) : receipt ∈ receipts.rows := by
  cases h with
  | same => exact hm
  | created plan observedAt hnil =>
    rw [(fresh_of_mem hm).1] at hst
    cases hst
  | lost dispatching observedAt hl hdispatching => exact succeeded_put hm hst (by simp)

theorem PublishStep.succeeded (hs : PublishStep w w') (hm : receipt ∈ w'.record.receipts.rows)
    (hst : receipt.status = .succeeded) : receipt ∈ w.record.receipts.rows
      ∨ (∃ worker, (w.workers worker).answer
          = some (receipt.operationIndex, receipt.remoteMessageIds))
      ∨ ∃ event, w'.events = event :: w.events ∧ event.outcome = .published := by
  cases hs with
  | stuck | fault | lateFault | startCall | endCall => exact .inl hm
  | left _ _ hreceipts _ | finalize _ _ _ _ _ _ hreceipts _ _ =>
    rw [commit_record, hreceipts] at hm
    exact .inl hm
  | loaded _ _ _ hloaded _ | prepared _ _ _ _ hloaded _ _ => exact .inl (hloaded.succeeded hm hst)
  | claim worker record context position operation phase _ _ hresult _ =>
    rw [commit_record] at hm
    generalize record.receipts = receipts' at hresult hm
    cases hresult with
    | gaveUp | notDue | done => exact .inl hm
    | claimed => exact .inl (succeeded_put hm hst (by simp))
  | recordFailure worker record context operation attemptCount error _ hrecorded _ =>
    rw [commit_record] at hm
    generalize record.receipts = receipts' at hrecorded hm
    cases hrecorded with
    | superseded => exact .inl hm
    | freed | lost | refused => exact .inl (succeeded_put hm hst (by simp))
  | persist worker record context operation attemptCount remoteMessageIds held completedAt hphase
      hheld hreceipts _ =>
    rw [commit_record, hreceipts] at hm
    rcases mem_put hm with ⟨rfl, _⟩ | ⟨hold, _⟩
    · refine .inr (.inl ⟨worker, ?_⟩)
      rw [hphase]
      show some (operation.index, remoteMessageIds) = some (held.operationIndex, remoteMessageIds)
      rw [index_of_lookup hheld.found]
    · exact .inl hold
  | sweep record observedAt hreceipts _ =>
    rw [hreceipts] at hm
    obtain ⟨old, hold, rfl⟩ := mem_map.mp hm
    by_cases hdispatching : old.status = .dispatching
    · rw [JobsDb.markAmbiguous, if_pos hdispatching] at hst
      cases hst
    · rw [markAmbiguous_of_ne hdispatching]
      exact .inl hold
  | reconcile record events hreconciled =>
    cases hreconciled with
    | replayed => exact .inl hm
    | reopened ambiguous inputs observedAt event => exact .inl (succeeded_put hm hst (by simp))
    | confirmed ambiguous remoteMessageIds observedAt event _ _ _ _ houtcome =>
      exact .inr (.inr ⟨event, rfl, houtcome⟩)

theorem vouched_step (hcalls : CallsOpen w) (hanswers : AnswersKept w)
    (h : ∀ receipt ∈ w.record.receipts.rows, receipt.status = .succeeded → Vouched w receipt)
    (step : PublishEvent) : ∀ receipt ∈ (w.step E step).record.receipts.rows,
      receipt.status = .succeeded → Vouched (w.step E step) receipt := by
  intro receipt hm hst
  have hs := publishStep_step E w step
  rcases hs.succeeded hm hst with hold | ⟨worker, hanswer⟩ | ⟨event, hevents, houtcome⟩
  · exact (h receipt hold hst).step hcalls hs
  · exact (Vouched.answered (hanswers worker _ _ hanswer)).step hcalls hs
  -- the decision is about the receipt it settles
  rcases step_events E w step with hsame | ⟨_, _, _, _, decision, _, hnew, hdecided⟩
  · rw [hsame] at hevents
    exact absurd hevents.symm (cons_ne_self event _)
  rw [hevents] at hnew
  cases hnew
  obtain ⟨ambiguous, settled, _, _, hgeneration, hstep, hreceipts, _⟩ := hdecided.settles
  rw [hreceipts] at hm
  rcases mem_put hm with ⟨rfl, _⟩ | ⟨hold, _⟩
  · refine .confirmed event ?_ houtcome ?_
    · rw [hevents]
      exact mem_cons_self
    · rw [hgeneration]
      exact (congrArg (fun identity => identity.2.1) hstep.identity).symm
  · exact (h receipt hold hst).step hcalls hs

/-! ## Every reachable state -/

variable {job : PublishJob}

theorem past_reachable (h : (publishSystem E job).Reachable w) :
    (∀ worker index, (w.workers worker).working = some index → Past w.record.receipts index)
      ∧ ∀ call ∈ w.calls, Past w.record.receipts call.operation := by
  induction h with
  | init h0 =>
    rw [h0]
    refine ⟨?_, ?_⟩
    · nofun
    · nofun
  | @tail s s' step hr hst ih =>
    obtain rfl : s' = s.step E step := hst
    have hs := publishStep_step E s step
    have hinv := publishInv_reachable hr
    refine ⟨?_, ?_⟩
    · intro worker index hworking
      refine Past.step ?_ hs
      rcases hs.working hworking with ⟨before, hbefore⟩ | ⟨before, context, receipt, hphase, hl⟩
      · exact ih.1 before index hbefore
      · refine ((hinv.sound before).position index ?_).past hinv.indexed hl
        rw [hphase]
        rfl
    · intro call hcall
      refine Past.step ?_ hs
      rcases hs.called hcall with ⟨earlier, hmem, hoperation⟩ | ⟨worker, hworking⟩
      · rw [← hoperation]
        exact ih.2 earlier hmem
      · exact ih.1 worker call.operation hworking

theorem vouched_reachable (h : (publishSystem E job).Reachable w) :
    AnswersKept w ∧ ∀ receipt ∈ w.record.receipts.rows, receipt.status = .succeeded →
      Vouched w receipt := by
  induction h with
  | init h0 =>
    rw [h0]
    refine ⟨?_, ?_⟩
    · nofun
    · nofun
  | @tail s s' step hr hst ih =>
    obtain rfl : s' = s.step E step := hst
    have hcalls := callsOpen_reachable hr
    exact ⟨ih.1.step hcalls (publishStep_step E s step), vouched_step hcalls ih.1 ih.2 step⟩

/-- **A call is only made once everything before it was delivered**, also by a worker that
lost its claim long ago. -/
theorem call_after_deliveries (h : (publishSystem E job).Reachable w) :
    ∀ call ∈ w.calls, ∀ earlier < call.operation, ∃ receipt ∈ w.record.receipts.rows,
      receipt.operationIndex = earlier ∧ receipt.status = .succeeded :=
  (past_reachable h).2

theorem call_after_deliveries_album : albumUnderWay.calls.map SendCall.operation = [0, 1]
    ∧ ∃ receipt ∈ albumUnderWay.record.receipts.rows,
      receipt.operationIndex = 0 ∧ receipt.status = .succeeded :=
  ⟨rfl, call_after_deliveries (PublishWorld.run_reachable _ queuedJob _) ⟨1, none⟩
    (mem_cons_of_mem _ mem_cons_self) 0 (by decide)⟩

/-- **What a receipt says was delivered, Telegram answered or an operator confirmed**, and
the messages of a publication are those of such receipts. -/
theorem deliveries_vouched (h : (publishSystem E job).Reachable w) :
    (∀ receipt ∈ w.record.receipts.rows, receipt.status = .succeeded → Vouched w receipt)
      ∧ ∀ publication, w.record.publication = some publication →
        ∀ id ∈ publication.remoteMessageIds, ∃ receipt ∈ w.record.receipts.rows,
          id ∈ receipt.remoteMessageIds ∧ Vouched w receipt := by
  have hvouched := (vouched_reachable h).2
  refine ⟨hvouched, ?_⟩
  intro publication hp id hid
  have hdelivered := (publishInv_reachable h).published publication hp
  rw [(orderedReceiptRemoteIds_ok hdelivered.ordered).1] at hid
  obtain ⟨receipt, hm, hin⟩ := mem_flatMap.mp hid
  have hm := mem_orderedReceipts.mp hm
  exact ⟨receipt, hm, hin, hvouched receipt hm (hdelivered.succeeded receipt hm)⟩

theorem deliveries_vouched_album :
    albumUnderWay.record.receipts.rows.map PublishOperationReceipt.remoteMessageIds = [[10], []]
      ∧ ∀ receipt ∈ albumUnderWay.record.receipts.rows, receipt.status = .succeeded →
        Vouched albumUnderWay receipt :=
  ⟨rfl, (deliveries_vouched (PublishWorld.run_reachable _ queuedJob _)).1⟩

end NewsCraft.Publishing
