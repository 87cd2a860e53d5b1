import NewsCraft.Publishing.AtMostOnce
import NewsCraft.Publishing.OneDecision
import NewsCraft.Publishing.Prefix

/-!
# Confirming an ambiguous send

A `published` request about an ambiguous message completes the whole job, so it is taken
only once every other operation was delivered.

No worker claims a confirmed operation again. The call of a worker that had claimed it
before and was held up since is the one that may follow, and only where an operator has
reopened a receipt in between.
-/

namespace NewsCraft.Publishing

open Lib Jobs List Table

variable {E : PublishEnv} {w w' : PublishWorld} {index : Nat} {record record' : PublishRecord}
  {events events' : List ReconciliationEvent} {event : ReconciliationEvent}
  {receipt receipt' : PublishOperationReceipt} {ids : List Int}

/-- Every other operation of the job was delivered. -/
def OthersSucceeded (record : PublishRecord) (index : Nat) : Prop :=
  ∀ receipt ∈ record.receipts.rows, receipt.operationIndex ≠ index → receipt.status = .succeeded

instance (record : PublishRecord) (index : Nat) : Decidable (OthersSucceeded record index) :=
  inferInstanceAs (Decidable (∀ receipt ∈ record.receipts.rows,
    receipt.operationIndex ≠ index → receipt.status = .succeeded))

/-- The message ids of the job, with `ids` for the operation `index`. -/
def PublishRecord.messageIds (record : PublishRecord) (index : Nat) (ids : List Int) : List Int :=
  (orderedReceipts record.receipts).flatMap fun receipt =>
    if receipt.operationIndex = index then ids else receipt.remoteMessageIds

/-- Message ids as Telegram gives them: numbers from one on, of which no two messages of a
channel share one, several for an album and one for anything else. -/
structure TelegramIds (record : PublishRecord) (receipt : PublishOperationReceipt)
    (ids : List Int) : Prop where
  positive : ∀ id ∈ record.messageIds receipt.operationIndex ids, 0 < id
  distinct : (record.messageIds receipt.operationIndex ids).Nodup
  number : if receipt.method = "sendMediaGroup" then 2 ≤ ids.length else ids.length = 1

/-- No two decisions with different outcomes have the same hash. -/
def TellsOutcomes (E : PublishEnv) : Prop :=
  ∀ body body', E.decisionHash body = E.decisionHash body' → body.outcome = body'.outcome

/-! ## What the recorded decisions say -/

/-- The receipt was put back by the decision, and perhaps claimed again since. -/
structure Reopened (event : ReconciliationEvent) (receipt : PublishOperationReceipt) : Prop where
  key : receipt.operationKey = event.generation.operationKey
  count : event.generation.attemptCount ≤ receipt.attemptCount
  pending : receipt.attemptCount = event.generation.attemptCount → receipt.status = .pending

theorem Reopened.step (h : Reopened event receipt) (hstep : ReceiptStep receipt receipt') :
    Reopened event receipt' := by
  have hkey : receipt'.operationKey = receipt.operationKey :=
    congrArg (fun identity => identity.2.1) hstep.identity
  have hcount := h.count
  -- only a claim starts from a pending receipt, and it counts one more
  have hlater : receipt.status ≠ .pending →
      receipt.attemptCount ≠ event.generation.attemptCount := by
    intro hst heq
    exact hst (h.pending heq)
  refine ⟨hkey.trans h.key, ?_, ?_⟩
  · cases hstep with
    | claimed => dsimp only; omega
    | _ => exact hcount
  · intro heq
    cases hstep with
    | claimed =>
      dsimp only at heq
      omega
    | freed _ hst | lost _ hst | refused hst | delivered _ _ hst | confirmed _ _ hst
    | reopened _ hst => exact absurd heq (hlater (by simp [hst]))

/-- A confirmation has left the publication, and the other decision a receipt to claim. -/
structure Recorded (E : PublishEnv) (record : PublishRecord) (event : ReconciliationEvent) :
    Prop where
  hash : ∃ body, event.outcome = body.outcome ∧ event.decisionHash = E.decisionHash body
  done : event.outcome = .published → record.publication.isSome
  reopened : event.outcome = .notPublished → ∃ receipt ∈ record.receipts.rows,
    Reopened event receipt

variable {body : TelegramReconcileIn} {inputs : ReconcileInputs} {observedAt : Datetime}
  {result : ReconcileResult}

theorem reconcile_recorded
    (h : record.reconcile E events body inputs observedAt = .ok (result, record', events')) :
    events' = events ∨ ∃ event, events' = event :: events ∧ Recorded E record' event := by
  rw [PublishRecord.reconcile] at h
  split at h
  · cases h
  split at h
  · cases h
  split at h
  · split at h
    · cases h
    split at h
    · cases h
    cases h
    exact .inl rfl
  split at h
  · cases h
  split at h
  · cases h
  rename_i ambiguous hvalid
  obtain ⟨hmem, hst, _⟩ := validateReconciliation_ok hvalid
  right
  split at h
  · rename_i houtcome
    cases h
    refine ⟨_, rfl, ⟨body, houtcome.symm, rfl⟩, ?_, ?_⟩
    · intro hother
      cases hother
    · intro _
      refine ⟨_, mem_put_self (mem_orderedReceipts.mp hmem) rfl, rfl, Nat.le_refl _, ?_⟩
      intro _
      rfl
  · rename_i houtcome
    split at h
    · cases h
    rename_i publication after hconfirm
    cases h
    refine ⟨_, rfl, ⟨body, houtcome.symm, rfl⟩, ?_, ?_⟩
    · intro _
      rw [(confirmPublished_ok hconfirm).2.1]
      rfl
    · intro hother
      cases hother

theorem recorded_step (step : PublishEvent) (h : ∀ event ∈ w.events, Recorded E w.record event) :
    ∀ event ∈ (w.step E step).events, Recorded E (w.step E step).record event := by
  have hold : ∀ event ∈ w.events, Recorded E (w.step E step).record event := by
    intro event hmem
    obtain ⟨hhash, hdone, hreopened⟩ := h event hmem
    refine ⟨hhash, ?_, ?_⟩
    · intro houtcome
      obtain ⟨publication, hpublication⟩ := Option.isSome_iff_exists.mp (hdone houtcome)
      rw [step_keepsPublication E w step publication hpublication]
      rfl
    · intro houtcome
      exact exists_change (fun _ _ hstep hreopened => hreopened.step hstep)
        (publishStep_step E w step).receiptsChange (hreopened houtcome)
  intro event hmem
  rcases step_events E w step with hsame | ⟨body, inputs, observedAt, _, _, rfl, _⟩
  · rw [hsame] at hmem
    exact hold event hmem
  · rw [PublishWorld.step] at hmem hold ⊢
    split at hmem
    · exact h event hmem
    rename_i hok
    rcases reconcile_recorded hok with hsame | ⟨decision, hnew, hrecorded⟩
    · rw [hok] at hold
      rw [hsame] at hmem
      exact hold event hmem
    · rw [hok] at hold
      rw [hnew] at hmem
      rcases mem_cons.mp hmem with rfl | hmem
      · exact hrecorded
      · exact hold event hmem

variable {job : PublishJob}

theorem recorded_reachable (h : (publishSystem E job).Reachable w) :
    ∀ event ∈ w.events, Recorded E w.record event := by
  refine System.invariant (P := fun w => ∀ event ∈ w.events, Recorded E w.record event) ?_ ?_ h
  · intro s hs event hmem
    rw [hs] at hmem
    cases hmem
  · intro s step s' _ hrecorded hst
    rw [hst]
    exact recorded_step step hrecorded

/-! ## A request that is refused -/

theorem publication_eq_none (hinv : PublishInv w)
    (hrow : w.record.receipts.lookup index = some receipt) (hst : receipt.status = .ambiguous) :
    w.record.publication = none := by
  cases hpublication : w.record.publication with
  | none => rfl
  | some publication =>
    have hsucceeded := (hinv.published publication hpublication).succeeded receipt
      (mem_of_lookup hrow)
    rw [hst] at hsucceeded
    cases hsucceeded

theorem notPublished_of_ambiguous (hinv : PublishInv w)
    (hrecorded : ∀ event ∈ w.events, Recorded E w.record event)
    (hrow : w.record.receipts.lookup index = some receipt) (hst : receipt.status = .ambiguous) :
    ∀ event ∈ w.events, event.outcome = .notPublished := by
  intro event hmem
  cases houtcome : event.outcome with
  | notPublished => rfl
  | published =>
    have hdone := (hrecorded event hmem).done houtcome
    rw [publication_eq_none hinv hrow hst] at hdone
    cases hdone

theorem validated_of_accepted
    (h : record.reconcile E events body inputs observedAt = .ok (result, record', events')) :
    (∃ event ∈ events, event.decisionHash = E.decisionHash body)
      ∨ ∃ ambiguous, validateReconciliation (orderedReceipts record.receipts) body.outcome
          body.remoteMessageIds = .ok ambiguous := by
  rcases reconcile_cases h with ⟨_, _, event, hmem, hhash, _⟩ | ⟨event, hnew, hdecided⟩
  · exact .inl ⟨event, hmem, hhash⟩
  right
  cases hvalid : validateReconciliation (orderedReceipts record.receipts) body.outcome
      body.remoteMessageIds with
  | ok ambiguous => exact ⟨ambiguous, rfl⟩
  | error error =>
    have hnone : events.find? (fun event =>
        eventMatchesReconciliationGeneration event (orderedReceipts record.receipts)) = none := by
      rw [find?_eq_none]
      intro earlier hearlier
      simp [hdecided.unmatched earlier hearlier]
    rw [PublishRecord.reconcile, hnone, hvalid] at h
    dsimp only at h
    split at h
    · cases h
    split at h
    · cases h
    split at h
    · cases h
    · cases h

theorem othersSucceeded_of_accepted (htells : TellsOutcomes E) (hinv : PublishInv w)
    (hrecorded : ∀ event ∈ w.events, Recorded E w.record event)
    (hrow : w.record.receipts.lookup index = some receipt) (hst : receipt.status = .ambiguous)
    (hbody : body.outcome = .published)
    (h : w.record.reconcile E w.events body inputs observedAt = .ok (result, record', events')) :
    OthersSucceeded w.record index := by
  rcases validated_of_accepted h with ⟨event, hmem, hhash⟩ | ⟨ambiguous, hvalid⟩
  · -- it would repeat a confirmation
    obtain ⟨body', houtcome, hhash'⟩ := (hrecorded event hmem).hash
    have hsame := htells body' body (hhash'.symm.trans hhash)
    rw [notPublished_of_ambiguous hinv hrecorded hrow hst event hmem, hsame, hbody] at houtcome
    cases houtcome
  · obtain ⟨_, _, hothers⟩ := validateReconciliation_ok hvalid
    have hall := hothers hbody
    have hsame : receipt = ambiguous := by
      rcases hall receipt (mem_orderedReceipts.mpr (mem_of_lookup hrow)) with hsucc | hsame
      · rw [hst] at hsucc
        cases hsucc
      · exact hsame
    intro other hother hne
    rcases hall other (mem_orderedReceipts.mpr hother) with hsucc | hother
    · exact hsucc
    · exact absurd (index_of_lookup (hsame ▸ hrow)) (hother ▸ hne)

/-! ## A request that is accepted -/

theorem unmatched_of_reopened (hkeys : (operationKeys record).Nodup)
    (hmem : receipt ∈ record.receipts.rows) (hreopened : Reopened event receipt)
    (hst : receipt.status ≠ .pending) :
    eventMatchesReconciliationGeneration event (orderedReceipts record.receipts) = false := by
  have hcount : receipt.attemptCount ≠ event.generation.attemptCount := by
    intro heq
    exact hst (hreopened.pending heq)
  unfold eventMatchesReconciliationGeneration
  rw [find_receipt hkeys hmem hreopened.key]
  dsimp only
  rw [if_pos hcount]

theorem validateReconciliation_published {receipts : List PublishOperationReceipt}
    (hnodup : receipts.Nodup) (hmem : receipt ∈ receipts) (hst : receipt.status = .ambiguous)
    (hothers : ∀ other ∈ receipts, other.status = .succeeded ∨ other = receipt)
    (hne : ids ≠ []) (hpositive : ∀ id ∈ ids, 0 < id) :
    validateReconciliation receipts .published ids = .ok receipt := by
  have hfilter : receipts.filter (fun other => other.status = .ambiguous) = [receipt] := by
    rw [← perm_singleton]
    refine (perm_ext_iff_of_nodup (hnodup.filter _) (nodup_singleton _)).mpr ?_
    intro other
    rw [mem_filter, mem_singleton, decide_eq_true_eq]
    constructor
    · intro hother
      rcases hothers other hother.1 with hsucc | hsame
      · rw [hother.2] at hsucc
        cases hsucc
      · exact hsame
    · intro hsame
      rw [hsame]
      exact ⟨hmem, hst⟩
  have hnone : (receipts.any fun other =>
      other.status ≠ .succeeded && other.status ≠ .ambiguous) = false := by
    rw [any_eq_false]
    intro other hother
    rcases hothers other hother with hsucc | hsame
    · simp [hsucc]
    · simp [hsame, hst]
  have hids : ¬ (ids = [] ∨ ∃ id ∈ ids, id ≤ 0) := by
    intro hbad
    rcases hbad with hnil | ⟨id, hid, hle⟩
    · exact hne hnil
    have hpos := hpositive id hid
    omega
  unfold validateReconciliation
  rw [hfilter]
  dsimp only
  rw [hnone, if_neg Bool.false_ne_true, if_neg hids]

theorem foldlM_appendRemoteId_ok {acc : List Int} (hnodup : (acc ++ ids).Nodup)
    (hpositive : ∀ id ∈ ids, 0 < id) : ids.foldlM appendRemoteId acc = .ok (acc ++ ids) := by
  induction ids generalizing acc with
  | nil =>
    rw [append_nil]
    rfl
  | cons id rest ih =>
    have hpos := hpositive id mem_cons_self
    have hnew : id ∉ acc := by
      intro hmem
      exact (nodup_append.mp hnodup).2.2 id hmem id mem_cons_self rfl
    rw [append_cons] at hnodup ⊢
    rw [foldlM_cons, appendRemoteId, if_neg (by omega), if_neg hnew]
    exact ih hnodup fun other hother => hpositive other (mem_cons_of_mem _ hother)

theorem flatMap_confirmed (hindexed : Indexed record.receipts)
    (hrow : record.receipts.lookup index = some receipt) (observedAt : Datetime) :
    (orderedReceipts (record.receipts.put
        (PublishRecord.confirmedReceipt receipt ids observedAt))).flatMap
          PublishOperationReceipt.remoteMessageIds = record.messageIds index ids := by
  have hindex := index_of_lookup hrow
  have hself : record.receipts.lookup receipt.operationIndex = some receipt := by
    rw [hindex]
    exact hrow
  have hindexed' : Indexed (record.receipts.put
      (PublishRecord.confirmedReceipt receipt ids observedAt)) :=
    indexed_congr (map_identity_put hself rfl) hindexed
  rw [PublishRecord.messageIds, orderedReceipts_eq hindexed, orderedReceipts_eq hindexed',
    Table.put, flatMap_map]
  refine flatMap_congr ?_
  intro other _
  have hkey : (Keyed.key other = Keyed.key (PublishRecord.confirmedReceipt receipt ids observedAt))
      ↔ other.operationIndex = index := by
    rw [← hindex]
    rfl
  by_cases hother : other.operationIndex = index
  · rw [if_pos (hkey.mpr hother), if_pos hother]
    rfl
  · rw [if_neg (mt hkey.mp hother), if_neg hother]

theorem TelegramIds.ne_nil (h : TelegramIds record receipt ids) : ids ≠ [] := by
  intro hnil
  have hnumber := h.number
  rw [hnil] at hnumber
  split at hnumber
  · simp at hnumber
  · simp at hnumber

theorem mem_messageIds (hrow : record.receipts.lookup index = some receipt) {id : Int}
    (hid : id ∈ ids) : id ∈ record.messageIds index ids := by
  refine mem_flatMap.mpr ⟨receipt, mem_orderedReceipts.mpr (mem_of_lookup hrow), ?_⟩
  rw [if_pos (index_of_lookup hrow)]
  exact hid

theorem sublist_messageIds (hrow : record.receipts.lookup index = some receipt) :
    ids.Sublist (record.messageIds index ids) := by
  obtain ⟨before, after, hsplit⟩ :=
    append_of_mem (mem_orderedReceipts.mpr (mem_of_lookup hrow))
  rw [PublishRecord.messageIds, hsplit, flatMap_append, flatMap_cons, if_pos (index_of_lookup hrow)]
  exact (sublist_append_left ids _).trans (sublist_append_right _ _)

theorem validateReconciledRemoteIds_ok (h : TelegramIds record receipt ids)
    (hnodup : ids.Nodup) : validateReconciledRemoteIds receipt ids = .ok () := by
  have hnumber := h.number
  unfold validateReconciledRemoteIds
  rw [if_neg (not_not_intro hnodup)]
  by_cases hgroup : receipt.method = "sendMediaGroup"
  · rw [if_pos hgroup] at hnumber
    rw [if_pos hgroup, if_neg (by omega)]
  · rw [if_neg hgroup] at hnumber
    rw [if_neg hgroup, if_neg (not_not_intro hnumber)]

theorem confirmPublished_of (hindexed : Indexed record.receipts)
    (hrow : record.receipts.lookup receipt.operationIndex = some receipt)
    (hids : TelegramIds record receipt ids) (hnone : record.publication = none)
    (hconflict : inputs.conflict = false) (permalink : Option String) (operatorNote : Option String)
    (observedAt : Datetime) : ∃ publication record',
      record.confirmPublished E ⟨.published, ids, permalink, operatorNote⟩ receipt inputs observedAt
          = .ok (publication, record') ∧ record'.receipts
          = record.receipts.put (PublishRecord.confirmedReceipt receipt ids observedAt)
        ∧ record'.job.status = .succeeded := by
  have hall : _ = record.messageIds receipt.operationIndex ids :=
    flatMap_confirmed hindexed hrow observedAt
  have hne : record.messageIds receipt.operationIndex ids ≠ [] := by
    intro hnil
    obtain ⟨id, hid⟩ := exists_mem_of_ne_nil ids hids.ne_nil
    have hmem := mem_messageIds hrow hid
    rw [hnil] at hmem
    exact not_mem_nil hmem
  have hremote : orderedReceiptRemoteIds (record.receipts.put
      (PublishRecord.confirmedReceipt receipt ids observedAt))
        = .ok (record.messageIds receipt.operationIndex ids) := by
    rw [orderedReceiptRemoteIds, hall, foldlM_appendRemoteId_ok (by simpa using hids.distinct)
      hids.positive, nil_append]
    cases hlist : record.messageIds receipt.operationIndex ids with
    | nil => exact absurd hlist hne
    | cons => rfl
  have hvalid := validateReconciledRemoteIds_ok hids
    (hids.distinct.sublist (sublist_messageIds hrow))
  unfold PublishRecord.confirmPublished
  dsimp only
  rw [hvalid, hremote]
  rw [hnone, hconflict]
  exact ⟨_, _, rfl, rfl, rfl⟩

/-- **A confirmation that completes the job is accepted.** -/
theorem reconcile_published_of (htells : TellsOutcomes E) (h : (keyedSystem E job).Reachable w)
    (hrow : w.record.receipts.lookup index = some receipt) (hst : receipt.status = .ambiguous)
    (hothers : OthersSucceeded w.record index) (hids : TelegramIds w.record receipt ids)
    (hfound : inputs.destinationFound = true) (hconflict : inputs.conflict = false)
    (permalink operatorNote : Option String) (observedAt : Datetime) : ∃ result record' events',
      w.record.reconcile E w.events ⟨.published, ids, permalink, operatorNote⟩ inputs observedAt
          = .ok (result, record', events') ∧ record'.receipts
          = w.record.receipts.put (PublishRecord.confirmedReceipt receipt ids observedAt)
        ∧ record'.job.status = .succeeded := by
  have hreach : (publishSystem E job).Reachable w := h.of_restrict
  have hinv := publishInv_reachable hreach
  have hrecorded := recorded_reachable hreach
  have hkeys := (decisionInv_reachable h).keys
  have hnot := notPublished_of_ambiguous hinv hrecorded hrow hst
  have hindex := index_of_lookup hrow
  have hself : w.record.receipts.lookup receipt.operationIndex = some receipt := by
    rw [hindex]
    exact hrow
  have hothers' : ∀ other ∈ w.record.receipts.rows,
      other.status = .succeeded ∨ other = receipt := by
    intro other hother
    by_cases heq : other.operationIndex = index
    · exact .inr (row_unique hother (mem_of_lookup hrow) (heq.trans hindex.symm))
    · exact .inl (hothers other hother heq)
  -- every recorded decision was superseded by a later claim
  have hunmatched : w.events.find? (fun event =>
      eventMatchesReconciliationGeneration event (orderedReceipts w.record.receipts)) = none := by
    rw [find?_eq_none]
    intro event hmem
    obtain ⟨other, hother, hreopened⟩ := (hrecorded event hmem).reopened (hnot event hmem)
    have hpending : other.status ≠ .pending := by
      rcases hothers' other hother with hsucc | hsame
      · simp [hsucc]
      · simp [hsame, hst]
    simp [unmatched_of_reopened hkeys hother hreopened hpending]
  have hunknown : (w.events.any fun event => event.decisionHash
      = E.decisionHash ⟨.published, ids, permalink, operatorNote⟩) = false := by
    rw [any_eq_false]
    intro event hmem
    obtain ⟨body', houtcome, hhash⟩ := (hrecorded event hmem).hash
    rw [decide_eq_true_eq]
    intro hsame
    have htold := htells _ _ (hhash.symm.trans hsame)
    rw [← houtcome, hnot event hmem] at htold
    cases htold
  have hnodup : w.record.receipts.rows.Nodup := List.Nodup.of_map _ w.record.receipts.nodup
  have hvalid : validateReconciliation (orderedReceipts w.record.receipts) .published ids
      = .ok receipt := by
    rw [orderedReceipts_eq hinv.indexed]
    refine validateReconciliation_published hnodup (mem_of_lookup hrow) hst hothers' hids.ne_nil ?_
    intro id hid
    exact hids.positive id (mem_messageIds hself hid)
  obtain ⟨publication, record', hconfirmed, hreceipts, hjob⟩ :=
    confirmPublished_of (E := E) hinv.indexed hself hids (publication_eq_none hinv hrow hst) hconflict
      permalink operatorNote observedAt
  refine ⟨.published publication, record',
    ⟨E.decisionHash ⟨.published, ids, permalink, operatorNote⟩, .published,
      reconciliationGeneration receipt, none⟩ :: w.events, ?_, hreceipts, hjob⟩
  unfold PublishRecord.reconcile
  dsimp only
  rw [hfound, hunmatched, hunknown, hvalid]
  simp only [hconfirmed, Bool.not_true, Bool.false_eq_true, if_false, reduceCtorEq, false_and]

/-! ## After the confirmation -/

def callsFor (index : Nat) (calls : List SendCall) : Nat :=
  calls.countP fun call => call.operation = index

/-- The operation a worker has claimed and not made its call for. -/
def Phase.aboutToSend : Phase → Option Nat
  | .claimed _ operation _ => some operation.index
  | .idle | .prepared _ _ | .notDue _ _ _ | .sending _ _ _ _ | .failed _ _ _ _ | .sent _ _ _ _ =>
    none

/-- No worker is about to make a call for the operation. -/
def Unclaimed (w : PublishWorld) (index : Nat) : Prop :=
  ∀ worker, (w.workers worker).aboutToSend ≠ some index

theorem Unclaimed.setWorker (h : Unclaimed w index) {worker : Nat} {phase : Phase}
    (hphase : phase.aboutToSend ≠ some index) : Unclaimed (w.setWorker worker phase) index := by
  intro other
  by_cases hother : other = worker
  · subst hother
    rw [setWorker_workers_self]
    exact hphase
  · rw [setWorker_workers_of_ne hother]
    exact h other

theorem callsFor_append {calls : List SendCall} {operation : Nat} (hne : operation ≠ index) :
    callsFor index (calls ++ [⟨operation, none⟩]) = callsFor index calls := by
  rw [callsFor, countP_append, countP_singleton]
  simp [callsFor, hne]

theorem callsFor_set {calls : List SendCall} {call operation : Nat} (outcome : SendOutcome)
    (h : calls[call]? = some ⟨operation, none⟩) :
    callsFor index (calls.set call ⟨operation, some outcome⟩) = callsFor index calls := by
  obtain ⟨hlt, hcall⟩ := List.getElem?_eq_some_iff.mp h
  rw [callsFor, callsFor, countP_set hlt, hcall]
  by_cases hindex : operation = index
  · have hpos : 0 < calls.countP fun call => call.operation = index := by
      refine countP_pos_iff.mpr ⟨_, mem_of_getElem? h, ?_⟩
      simp [hindex]
    simp only [hindex, decide_true, if_true]
    omega
  · simp [hindex]

/-- The operation is delivered for good, and `sent` calls were made for it. -/
structure Over (index : Nat) (receipt : PublishOperationReceipt) (sent : Nat) (w : PublishWorld) :
    Prop where
  found : w.record.receipts.lookup index = some receipt
  succeeded : receipt.status = .succeeded
  unclaimed : Unclaimed w index
  calls : callsFor index w.calls = sent

theorem over_step {sent : Nat} (hcalls : CallsOpen w) (h : Over index receipt sent w)
    (hs : PublishStep w w') : Over index receipt sent w' := by
  have hfound : w'.record.receipts.lookup index = some receipt := by
    have hmem := hs.receiptsChange.keeps_succeeded (mem_of_lookup h.found) h.succeeded
    rw [← index_of_lookup h.found]
    exact lookup_self_of_mem hmem
  refine ⟨hfound, h.succeeded, ?_, ?_⟩
  · have hidle : Phase.idle.aboutToSend ≠ some index := by
      intro heq
      cases heq
    cases hs with
    | stuck => exact h.unclaimed
    | left => exact h.unclaimed.setWorker hidle
    | loaded => exact h.unclaimed.setWorker hidle
    | prepared => exact h.unclaimed.setWorker nofun
    | claim worker record context position operation phase _ _ hresult _ =>
      refine h.unclaimed.setWorker ?_
      generalize record.receipts = receipts' at hresult
      cases hresult with
      | gaveUp => exact hidle
      | notDue | done => exact nofun
      | claimed claimedReceipt _ hl hst =>
        intro heq
        cases heq
        rw [h.found, Option.some.injEq] at hl
        rw [← hl, h.succeeded] at hst
        cases hst
    | fault => exact h.unclaimed.setWorker nofun
    | lateFault => exact h.unclaimed.setWorker nofun
    | startCall => exact h.unclaimed.setWorker nofun
    | endCall worker context operation attemptCount call outcome _ =>
      refine h.unclaimed.setWorker ?_
      cases outcome <;> exact nofun
    | recordFailure => exact h.unclaimed.setWorker hidle
    | persist => exact h.unclaimed.setWorker nofun
    | finalize => exact h.unclaimed.setWorker hidle
    | sweep => exact h.unclaimed
    | reconcile => exact h.unclaimed
  · cases hs with
    | startCall worker context operation attemptCount hphase =>
      have hne : operation.index ≠ index := by
        intro heq
        refine h.unclaimed worker ?_
        rw [hphase, Phase.aboutToSend, heq]
      exact (callsFor_append hne).trans h.calls
    | endCall worker context operation attemptCount call outcome hphase =>
      refine (callsFor_set outcome (hcalls.pending worker call operation.index ?_)).trans h.calls
      rw [hphase]
      rfl
    | _ => exact h.calls

theorem over_run {sent : Nat} {steps : List PublishEvent}
    (hreach : (publishSystem E job).Reachable w) (h : Over index receipt sent w)
    (hrun : (keyedSystem E job).Run w steps w') : Over index receipt sent w' := by
  have hboth : CallsOpen w' ∧ Over index receipt sent w' := by
    refine hrun.preserves (P := fun w => CallsOpen w ∧ Over index receipt sent w) ?_
      ⟨callsOpen_reachable hreach, h⟩
    intro s step s' hs hstep
    rw [hstep.2]
    exact ⟨callsOpen_step hs.1 (publishStep_step E s step),
      over_step hs.1 hs.2 (publishStep_step E s step)⟩
  exact hboth.2

/-- Where nobody reopened a receipt, nobody is about to send a message that may be delivered. -/
theorem unclaimed_of_delivered (h : (publishSystem E job).Reachable w) (hno : NoneReopened w)
    (hdelivered : 1 ≤ maybeReached index w.calls) : Unclaimed w index := by
  obtain ⟨s, hs, hview⟩ :=
    (slotView_simulation E job index).reachable (unreopened_reachable h hno)
  intro worker hclaimed
  have hworking : (w.workers worker).working = some index := by
    revert hclaimed
    cases w.workers worker <;> simp [Phase.aboutToSend, Phase.working]
  obtain ⟨stage, held, hstage, _, _, _, hholds⟩ := hview.holder hworking
  have hready : stage = .ready := by
    generalize w.workers worker = phase at hholds hclaimed
    cases hholds with
    | claimed => rfl
    | _ => cases hclaimed
  have hzero := (Dispatch.inv_reachable hs).none_made stage hstage (.inl hready)
  rw [hview.maybe] at hzero
  omega

/-- **A delivered message can be confirmed exactly when it was the last to be sent.** While
another operation is to come, every confirmation is refused. After that, each one with the
ids of the message is accepted: it marks the operation as succeeded and ends the job, and
the operation is not sent again, unless a worker was about to, which none is in a run where
no receipt was reopened. -/
theorem ambiguous_confirmable {job : PublishJob} (htells : TellsOutcomes E)
    (h : (keyedSystem E job).Reachable w)
    (hrow : w.record.receipts.lookup index = some receipt) (hst : receipt.status = .ambiguous) :
    (∀ body inputs observedAt result record' events', body.outcome = .published →
        w.record.reconcile E w.events body inputs observedAt = .ok (result, record', events') →
          OthersSucceeded w.record index) ∧ (OthersSucceeded w.record index →
        ∀ ids permalink operatorNote inputs observedAt, TelegramIds w.record receipt ids →
          inputs.destinationFound = true → inputs.conflict = false → ∃ result record' events',
            w.record.reconcile E w.events ⟨.published, ids, permalink, operatorNote⟩ inputs
                observedAt = .ok (result, record', events') ∧ record'.receipts.lookup index
                = some (PublishRecord.confirmedReceipt receipt ids observedAt)
              ∧ record'.job.status = .succeeded
              ∧ (Unclaimed w index ∨ NoneReopened w ∧ 1 ≤ maybeReached index w.calls → ∀ steps w',
                  (keyedSystem E job).Run (w.step E (.reconcile
                      ⟨.published, ids, permalink, operatorNote⟩ inputs observedAt)) steps w' →
                    w'.record.receipts.lookup index
                        = some (PublishRecord.confirmedReceipt receipt ids observedAt)
                      ∧ callsFor index w'.calls = callsFor index w.calls)) := by
  have hreach : (publishSystem E job).Reachable w := h.of_restrict
  constructor
  · intro body inputs observedAt result record' events' hbody hok
    exact othersSucceeded_of_accepted htells (publishInv_reachable hreach)
      (recorded_reachable hreach) hrow hst hbody hok
  · intro hothers ids permalink operatorNote inputs observedAt hids hfound hconflict
    obtain ⟨result, record', events', hok, hreceipts, hjob⟩ :=
      reconcile_published_of htells h hrow hst hothers hids hfound hconflict permalink
        operatorNote observedAt
    have hlookup : record'.receipts.lookup index
        = some (PublishRecord.confirmedReceipt receipt ids observedAt) := by
      have hindex := index_of_lookup hrow
      rw [hreceipts, ← hindex]
      refine lookup_put_self (y := receipt) ?_
      rw [← hindex] at hrow
      exact hrow
    refine ⟨result, record', events', hok, hlookup, hjob, ?_⟩
    intro hquiet steps w' hrun
    have hunclaimed : Unclaimed w index := by
      rcases hquiet with hunclaimed | ⟨hno, hdelivered⟩
      · exact hunclaimed
      · exact unclaimed_of_delivered hreach hno hdelivered
    have hnext : w.step E (.reconcile ⟨.published, ids, permalink, operatorNote⟩ inputs observedAt)
        = { w with record := record', events := events' } := by
      rw [PublishWorld.step, hok]
    have hafter : Over index (PublishRecord.confirmedReceipt receipt ids observedAt)
        (callsFor index w.calls) (w.step E (.reconcile
          ⟨.published, ids, permalink, operatorNote⟩ inputs observedAt)) := by
      rw [hnext]
      exact ⟨hlookup, rfl, hunclaimed, rfl⟩
    have hover := over_run (hreach.tail rfl) hafter hrun
    exact ⟨hover.found, hover.calls⟩

/-! ## A message that was delivered before the album after it -/

/-- Decisions are told apart by their outcomes and notes. -/
def outcomeEnv : PublishEnv where
  permalink _ _ := none
  decisionHash body :=
    (match body.outcome with
      | .published => "published:"
      | .notPublished => "not_published:") ++ body.operatorNote.getD ""

theorem tellsOutcomes_outcomeEnv : TellsOutcomes outcomeEnv := by
  intro body body' h
  have hlists := congrArg String.toList h
  rw [outcomeEnv] at hlists
  cases houtcome : body.outcome <;> cases houtcome' : body'.outcome
  · rfl
  · simp [houtcome, houtcome'] at hlists
  · simp [houtcome, houtcome'] at hlists
  · rfl

/-- The only message of a post is lost, and confirmed with the id it has. -/
theorem present_confirmed : ∃ result record' events', PublishRecord.reconcile outcomeEnv
          (PublishWorld.run outcomeEnv queuedJob (lostAttempt 0)).record
          (PublishWorld.run outcomeEnv queuedJob (lostAttempt 0)).events present operatorInputs 2
        = .ok (result, record', events') ∧ record'.job.status = .succeeded := by
  have hreach : (keyedSystem outcomeEnv queuedJob).Reachable
      (PublishWorld.run outcomeEnv queuedJob (lostAttempt 0)) :=
    keyed_run_reachable (lostAttempt_distinct 0)
  have hrow : (PublishWorld.run outcomeEnv queuedJob (lostAttempt 0)).record.receipts.lookup 0
      = some ⟨0, "telegram:0:h0", "sendMessage", "h0", .ambiguous, 1, [], none, some 1, none, 0⟩ :=
    rfl
  obtain ⟨result, record', events', hok, _, hjob, _⟩ :=
    (ambiguous_confirmable tellsOutcomes_outcomeEnv hreach hrow rfl).2 (by decide)
      [5] none (some "message 5 is there") operatorInputs 2
      ⟨by decide, by decide, by decide⟩ rfl rfl
  exact ⟨result, record', events', hok, hjob⟩

/-- The text is lost on its way, with the album still to come. -/
def textLost : PublishWorld :=
  PublishWorld.run outcomeEnv queuedJob
    [ .prepare 0 ⟨twoOperations, "@channel", none⟩ 0, .claim 0 0 none, .startCall 0,
      .endCall 0 (.failure .ambiguous), .recordFailure 0 1 ]

/-- A claim is found expired and put back, and the call of the next worker is lost. -/
def heldUp : PublishWorld :=
  PublishWorld.run outcomeEnv queuedJob
    [ .prepare 0 ⟨oneOperation, "@channel", none⟩ 0, .claim 0 0 none, .leaseExpired false 1,
      .reconcile absent operatorInputs 2,
      .prepare 1 ⟨oneOperation, "@channel", none⟩ 3, .claim 1 3 none, .startCall 1,
      .endCall 1 (.failure .ambiguous), .recordFailure 1 4 ]

/-- The text may well have been delivered, but no request says so while the album is
pending. And a message that is confirmed may be sent again by a worker held up since
before it was put back. -/
theorem textLost_refused : (publishSystem outcomeEnv queuedJob).Reachable textLost
      ∧ textLost.record.receipts.rows.map PublishOperationReceipt.status = [.ambiguous, .pending]
      ∧ maybeReached 0 textLost.calls = 1
      ∧ (∀ body inputs observedAt result record' events', body.outcome = .published →
        textLost.record.reconcile outcomeEnv textLost.events body inputs observedAt
          ≠ .ok (result, record', events')) ∧ (publishSystem outcomeEnv queuedJob).Reachable heldUp
      ∧ (heldUp.step outcomeEnv (.reconcile present operatorInputs 5)).record.job.status
        = .succeeded ∧ callsFor 0 heldUp.calls = 1
      ∧ callsFor 0 ((heldUp.step outcomeEnv (.reconcile present operatorInputs 5)).step outcomeEnv
        (.startCall 0)).calls = 2 := by
  have hreach : (publishSystem outcomeEnv queuedJob).Reachable textLost :=
    PublishWorld.run_reachable outcomeEnv queuedJob _
  refine ⟨hreach, rfl, rfl, ?_, PublishWorld.run_reachable outcomeEnv queuedJob _, rfl, rfl, rfl⟩
  intro body inputs observedAt result record' events' hbody hok
  have hrow : textLost.record.receipts.lookup 0
      = some ⟨0, "text", "sendMessage", "h0", .ambiguous, 1, [], none, some 1, none, 0⟩ := rfl
  have hothers := othersSucceeded_of_accepted tellsOutcomes_outcomeEnv
    (publishInv_reachable hreach) (recorded_reachable hreach) hrow rfl hbody hok
  exact absurd hothers (by decide)

end NewsCraft.Publishing
