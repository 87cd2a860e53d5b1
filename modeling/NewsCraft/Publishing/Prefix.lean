import NewsCraft.Publishing.Receipts

/-!
# Receipts form a prefix

At any time the receipts are a run of succeeded ones, at most one that is being worked on,
and the rest untouched. `Prefixed` states that for pairs, the form every write preserves:
whatever is rewritten has only succeeded receipts before it.

Nobody looks back below the position he carries through his attempt. `BelowDone` is what it
promises, whatever the others do meanwhile, since succeeded receipts are final.
-/

namespace NewsCraft.Publishing

open Lib Jobs List Table

variable {E : PublishEnv} {w w' : PublishWorld} {ready : Nat → Prop}
  {receipts receipts' : Table PublishOperationReceipt} {remoteMessageIds : List Int}

theorem markAmbiguous_index (observedAt : Datetime) (receipt : PublishOperationReceipt) :
    (JobsDb.markAmbiguous observedAt receipt).operationIndex = receipt.operationIndex :=
  JobsDb.markAmbiguous_key observedAt receipt

/-! ## Below a position -/

/-- Every operation before `index` was delivered. -/
structure BelowDone (receipts : Table PublishOperationReceipt) (index : Nat) : Prop where
  exist : index = 0 ∨ receipts.rows ≠ []
  below : ∀ receipt ∈ receipts.rows, receipt.operationIndex < index → receipt.status = .succeeded

theorem belowDone_zero : BelowDone receipts 0 := by
  refine ⟨.inl rfl, ?_⟩
  intro receipt _ hlt
  omega

theorem BelowDone.change {index : Nat} (h : BelowDone receipts index)
    (hc : ReceiptsChange ready receipts receipts') : BelowDone receipts' index := by
  cases hc with
  | same => exact h
  | created plan observedAt hnil =>
    rcases h.exist with hzero | hne
    · rw [hzero]
      exact belowDone_zero
    · exact absurd hnil hne
  | @wrote old new hl hstep hready =>
    refine ⟨?_, ?_⟩
    · rcases h.exist with hzero | hne
      · exact .inl hzero
      right
      intro hnil
      exact hne (map_eq_nil_iff.mp hnil)
    · intro receipt hm hlt
      rcases mem_put hm with ⟨rfl, _⟩ | ⟨hm, _⟩
      · rw [hstep.key] at hlt
        exact absurd (h.below old (mem_of_lookup hl) hlt) hstep.not_succeeded
      · exact h.below receipt hm hlt
  | swept observedAt =>
    refine ⟨?_, ?_⟩
    · rcases h.exist with hzero | hne
      · exact .inl hzero
      right
      intro hnil
      exact hne (map_eq_nil_iff.mp hnil)
    · intro receipt hm hlt
      obtain ⟨old, hold, rfl⟩ := mem_map.mp hm
      rw [markAmbiguous_index] at hlt
      have hs := h.below old hold hlt
      rw [markAmbiguous_of_ne (by rw [hs]; simp)]
      exact hs

variable {receipt : PublishOperationReceipt}

theorem BelowDone.succ {index : Nat} (h : BelowDone receipts index) (hm : receipt ∈ receipts.rows)
    (hindex : receipt.operationIndex = index) (hs : receipt.status = .succeeded) :
    BelowDone receipts (index + 1) := by
  refine ⟨.inr (ne_nil_of_mem hm), ?_⟩
  intro other hother hlt
  by_cases hkey : other.operationIndex = receipt.operationIndex
  · rw [row_unique hother hm hkey]
    exact hs
  · exact h.below other hother (by omega)

/-! ## The prefix -/

/-- Past a receipt that has not succeeded nothing was touched. -/
def Prefixed (receipts : Table PublishOperationReceipt) : Prop :=
  ∀ receipt ∈ receipts.rows, ∀ later ∈ receipts.rows,
    receipt.operationIndex < later.operationIndex → receipt.status ≠ .succeeded →
    later.status = .pending ∧ later.attemptCount = 0

theorem Prefixed.below (h : Prefixed receipts)
    (hready : ∀ index, ready index → BelowDone receipts index) {earlier : PublishOperationReceipt}
    (hm : receipt ∈ receipts.rows) (hr : receipt.status = .pending → ready receipt.operationIndex)
    (he : earlier ∈ receipts.rows) (hlt : earlier.operationIndex < receipt.operationIndex) :
    earlier.status = .succeeded := by
  by_cases hst : receipt.status = .pending
  · exact (hready _ (hr hst)).below earlier he hlt
  · exact Decidable.not_not.mp fun hne => hst (h earlier he receipt hm hlt hne).1

theorem Prefixed.change (h : Prefixed receipts)
    (hready : ∀ index, ready index → BelowDone receipts index)
    (hc : ReceiptsChange ready receipts receipts') : Prefixed receipts' := by
  cases hc with
  | same => exact h
  | created plan observedAt hnil =>
    intro receipt _ later hlater _ _
    exact fresh_of_mem hlater
  | @wrote old new hl hstep hr =>
    have hold := mem_of_lookup hl
    intro receipt hm later hlater hlt hne
    rcases mem_put hm with ⟨rfl, _⟩ | ⟨hm', hkey⟩
    · -- the receipt written comes first
      rcases mem_put hlater with ⟨rfl, _⟩ | ⟨hlater, _⟩
      · omega
      rw [hstep.key] at hlt
      exact h old hold later hlater hlt hstep.not_succeeded
    · rcases mem_put hlater with ⟨rfl, _⟩ | ⟨hlater, _⟩
      · -- the receipt written comes last
        rw [hstep.key] at hlt
        exact absurd (h.below hready hold hr hm' hlt) hne
      · exact h receipt hm' later hlater hlt hne
  | swept observedAt =>
    intro receipt hm later hlater hlt hne
    obtain ⟨old, hold, rfl⟩ := mem_map.mp hm
    obtain ⟨old', hold', rfl⟩ := mem_map.mp hlater
    rw [markAmbiguous_index, markAmbiguous_index] at hlt
    have hne' : old.status ≠ .succeeded := by
      intro hs
      rw [markAmbiguous_of_ne (by rw [hs]; simp)] at hne
      exact hne hs
    have hpending := h old hold old' hold' hlt hne'
    rw [markAmbiguous_of_ne (by rw [hpending.1]; simp)]
    exact hpending

/-- The receipt the prefix ends at: everything before it succeeded, everything
after it is untouched. -/
theorem Prefixed.exists_index (h : Prefixed receipts) (hi : Indexed receipts) :
    ∃ k, ∀ receipt ∈ receipts.rows, (receipt.operationIndex < k → receipt.status = .succeeded)
        ∧ (k < receipt.operationIndex → receipt.status = .pending ∧ receipt.attemptCount = 0) := by
  classical
  by_cases hopen : ∃ k, ∃ receipt ∈ receipts.rows,
      receipt.operationIndex = k ∧ receipt.status ≠ .succeeded
  · -- the first receipt that has not succeeded
    obtain ⟨first, hfirst, hindex, hne⟩ := Nat.find_spec hopen
    refine ⟨Nat.find hopen, ?_⟩
    intro receipt hm
    refine ⟨?_, ?_⟩
    · intro hlt
      have hmin := Nat.find_min hopen hlt
      exact Decidable.not_not.mp fun hs => hmin ⟨receipt, hm, rfl, hs⟩
    · intro hlt
      rw [← hindex] at hlt
      exact h first hfirst receipt hm hlt hne
  · -- everything has succeeded
    have hall : ∀ receipt ∈ receipts.rows, receipt.status = .succeeded := by
      intro receipt hm
      exact Decidable.not_not.mp fun hs => hopen ⟨_, receipt, hm, rfl, hs⟩
    refine ⟨receipts.rows.length, ?_⟩
    intro receipt hm
    have hindex : receipt.operationIndex ∈ List.range receipts.rows.length := by
      rw [← hi]
      exact mem_map_of_mem hm
    have hlt := mem_range.mp hindex
    refine ⟨fun _ => hall receipt hm, ?_⟩
    intro hgt
    omega

/-! ## Publications -/

theorem foldlM_appendRemoteId {ids acc out : List Int}
    (h : ids.foldlM appendRemoteId acc = .ok out) : out = acc ++ ids := by
  induction ids generalizing acc with
  | nil =>
    cases h
    exact (append_nil _).symm
  | cons id rest ih =>
    rw [foldlM_cons, appendRemoteId] at h
    split at h
    · cases h
    split at h
    · cases h
    have := ih h
    rw [this, append_assoc]
    rfl

theorem orderedReceiptRemoteIds_ok (h : orderedReceiptRemoteIds receipts = .ok remoteMessageIds) :
    remoteMessageIds = (orderedReceipts receipts).flatMap PublishOperationReceipt.remoteMessageIds
      ∧ receipts.rows ≠ [] := by
  rw [orderedReceiptRemoteIds] at h
  split at h
  · cases h
  · cases h
  rename_i ids hne hfold
  cases h
  have hids := foldlM_appendRemoteId hfold
  rw [nil_append] at hids
  refine ⟨hids, ?_⟩
  intro hnil
  refine hne ?_
  rw [hids, orderedReceipts, hnil]
  rfl

theorem Delivered.change (h : Delivered receipts remoteMessageIds)
    (hc : ReceiptsChange ready receipts receipts') : Delivered receipts' remoteMessageIds := by
  cases hc with
  | same => exact h
  | created plan observedAt hnil => exact absurd hnil (orderedReceiptRemoteIds_ok h.ordered).2
  | wrote hl hstep _ => exact absurd (h.succeeded _ (mem_of_lookup hl)) hstep.not_succeeded
  | swept observedAt =>
    have hrows : receipts.map (JobsDb.markAmbiguous observedAt)
        (JobsDb.markAmbiguous_key observedAt) = receipts := by
      rw [Table.map, Table.mk.injEq]
      refine (map_congr_left fun receipt hm => ?_).trans (map_id _)
      exact markAmbiguous_of_ne (by rw [h.succeeded receipt hm]; simp)
    rw [hrows]
    exact h

/-! ## Workers -/

def Phase.context : Phase → Option PublishContext
  | .idle => none
  | .prepared context _ | .notDue context _ _ | .claimed context _ _ | .sending context _ _ _
  | .failed context _ _ _ | .sent context _ _ _ => some context

def Phase.position : Phase → Option Nat
  | .idle | .notDue _ _ _ => none
  | .prepared _ position => some position
  | .claimed _ operation _ | .sending _ operation _ _ | .failed _ operation _ _
  | .sent _ operation _ _ => some operation.index

/-- The receipts stand for the operations of `plan`. -/
def Follows (receipts : Table PublishOperationReceipt) (plan : TelegramPublishPlan) : Prop :=
  plan.operations ≠ [] → receipts.rows.map receiptIdentity = plan.operations.map operationIdentity

theorem Follows.change {plan : TelegramPublishPlan} (h : Follows receipts plan)
    (hc : ReceiptsChange ready receipts receipts') : Follows receipts' plan := by
  intro hne
  have hids := h hne
  have hrows : receipts.rows ≠ [] := by
    intro hnil
    rw [hnil] at hids
    exact hne (map_eq_nil_iff.mp hids.symm)
  rw [hc.identity hrows]
  exact hids

structure Phase.Sound (phase : Phase) (receipts : Table PublishOperationReceipt) : Prop where
  position : ∀ index, phase.position = some index → BelowDone receipts index
  plan : ∀ context, phase.context = some context → Follows receipts context.plan

variable {phase : Phase}

theorem Phase.Sound.change (h : phase.Sound receipts) (hc : ReceiptsChange ready receipts receipts')
    : phase.Sound receipts' := by
  refine ⟨?_, ?_⟩
  · intro index hp
    exact (h.position index hp).change hc
  · intro context hp
    exact (h.plan context hp).change hc

theorem sound_idle : Phase.idle.Sound receipts := by
  refine ⟨?_, ?_⟩
  · nofun
  · nofun

theorem Phase.Sound.keep {phase' : Phase} (h : phase.Sound receipts)
    (hposition : phase'.position = phase.position) (hcontext : phase'.context = phase.context) :
    phase'.Sound receipts := by
  refine ⟨?_, ?_⟩
  · intro index hp
    exact h.position index (hposition.symm.trans hp)
  · intro context hp
    exact h.plan context (hcontext.symm.trans hp)

theorem sound_commit {record : PublishRecord} {worker : Nat}
    (h : ∀ other, (w.workers other).Sound w.record.receipts)
    (hc : ReceiptsChange ready w.record.receipts record.receipts)
    (hphase : phase.Sound record.receipts) (other : Nat) :
    ((w.commit record worker phase).workers other).Sound record.receipts := by
  by_cases hother : other = worker
  · rw [hother, show (w.commit record worker phase).workers worker = phase from
      setWorker_workers_self worker phase]
    exact hphase
  · rw [show (w.commit record worker phase).workers other = w.workers other from
      setWorker_workers_of_ne hother]
    exact (h other).change hc

theorem ClaimResult.sound {context : PublishContext} {position : Nat}
    {operation : TelegramPublishOperation}
    (h : ClaimResult receipts context position operation receipts' phase)
    (hindex : operation.index = position) (hs : (Phase.prepared context position).Sound receipts)
    (hc : ReceiptsChange ready receipts receipts') : phase.Sound receipts' := by
  have hs' := hs.change hc
  cases h with
  | gaveUp => exact sound_idle
  | notDue retryAt competingClaim =>
    refine ⟨?_, hs'.plan⟩
    intro index hp
    cases hp
  | done receipt hl hst =>
    refine ⟨?_, hs'.plan⟩
    intro index hp
    cases hp
    have hkey := (index_of_lookup hl).trans hindex
    exact (hs.position position rfl).succ (mem_of_lookup hl) hkey hst
  | claimed receipt claimTime hl hst =>
    refine hs'.keep ?_ rfl
    exact congrArg some hindex

theorem sound_step (hi : Indexed w.record.receipts)
    (h : ∀ worker, (w.workers worker).Sound w.record.receipts) (hs : PublishStep w w') :
    ∀ worker, (w'.workers worker).Sound w'.record.receipts := by
  have hc := hs.receiptsChange
  cases hs with
  | stuck => exact h
  | left _ _ _ _ | loaded _ _ _ _ _ | recordFailure _ _ _ _ _ _ _ _ _
  | finalize _ _ _ _ _ _ _ _ _ => exact sound_commit h hc sound_idle
  | prepared worker record context _ _ _ hplan =>
    have hi' : Indexed record.receipts := hc.indexed hi
    rw [orderedReceipts_eq hi'] at hplan
    refine sound_commit h hc ⟨?_, ?_⟩
    · intro index hp
      cases hp
      exact belowDone_zero
    · intro c hp
      cases hp
      intro _
      exact hplan
  | claim worker record context position operation phase hphase hindex hresult _ =>
    have hsound := h worker
    rw [hphase] at hsound
    exact sound_commit h hc (hresult.sound hindex hsound hc)
  | fault worker _ _ _ _ hphase | lateFault worker _ _ _ _ hphase
  | startCall worker _ _ _ hphase =>
    have hsound := h worker
    rw [hphase] at hsound
    exact sound_commit h hc (hsound.keep rfl rfl)
  | endCall worker context operation attemptCount call outcome hphase =>
    have hsound := h worker
    rw [hphase] at hsound
    refine sound_commit h hc ?_
    cases outcome <;> exact hsound.keep rfl rfl
  | persist worker record context operation attemptCount remoteMessageIds receipt completedAt
      hphase hheld hreceipts _ =>
      have hsound := (h worker).change hc
      rw [hphase] at hsound
      refine sound_commit h hc ⟨?_, hsound.plan⟩
      intro index hp
      cases hp
      -- the receipt just written is the one at the worker's position
      have hkey : receipt.operationIndex = operation.index := index_of_lookup hheld.found
      have hnew : { receipt with
          status := .succeeded
          remoteMessageIds := remoteMessageIds
          completedAt := some completedAt } ∈ record.receipts.rows := by
        rw [hreceipts]
        exact mem_put_self (mem_of_lookup hheld.found) rfl
      exact (hsound.position operation.index rfl).succ hnew hkey rfl
  | sweep _ _ _ _ | reconcile _ _ _ =>
    intro worker
    exact (h worker).change hc

/-! ## Every reachable state -/

/-- What every state of a publish job's run satisfies. -/
structure PublishInv (w : PublishWorld) : Prop where
  indexed : Indexed w.record.receipts
  prefixed : Prefixed w.record.receipts
  sound : ∀ worker, (w.workers worker).Sound w.record.receipts
  published : ∀ publication, w.record.publication = some publication →
    Delivered w.record.receipts publication.remoteMessageIds

theorem publishInv_start (job : PublishJob) : PublishInv (.start job) := by
  refine ⟨rfl, ?_, fun _ => sound_idle, ?_⟩
  · nofun
  · nofun

theorem publishInv_step (h : PublishInv w) (hs : PublishStep w w') : PublishInv w' := by
  have hc := hs.receiptsChange
  have hready : ∀ index, Ready w index → BelowDone w.record.receipts index := by
    intro index hr
    obtain ⟨worker, context, hphase⟩ := hr
    refine (h.sound worker).position index ?_
    rw [hphase]
    rfl
  refine ⟨hc.indexed h.indexed, h.prefixed.change hready hc, sound_step h.indexed h.sound hs, ?_⟩
  intro publication hp
  rcases hs.publication with hsame | ⟨publication', hp', hdelivered⟩
  · rw [hsame] at hp
    exact (h.published publication hp).change hc
  · rw [hp'] at hp
    cases hp
    exact hdelivered

theorem publishInv_reachable {job : PublishJob} (h : (publishSystem E job).Reachable w) :
    PublishInv w := by
  refine System.invariant (P := PublishInv) ?_ ?_ h
  · intro s hs
    rw [hs]
    exact publishInv_start job
  · intro s event s' _ hi hst
    rw [hst]
    exact publishInv_step hi (publishStep_step E s event)

theorem succeeded_run {job : PublishJob} {events : List PublishEvent}
    (hrun : (publishSystem E job).Run w events w') (hm : receipt ∈ w.record.receipts.rows)
    (hst : receipt.status = .succeeded) : receipt ∈ w'.record.receipts.rows := by
  refine hrun.preserves (P := fun w => receipt ∈ w.record.receipts.rows) ?_ hm
  intro s event s' hm hs
  rw [hs]
  exact (publishStep_step E s event).receiptsChange.keeps_succeeded hm hst

/-- **The receipts are a prefix of successes**, of the plan every worker follows,
and what succeeded stays as it is. A publication carries the message ids of all
of them, in operation order. -/
theorem receipts_in_order {job : PublishJob} (h : (publishSystem E job).Reachable w) :
    Indexed w.record.receipts ∧ (∀ worker context, (w.workers worker).context = some context →
          Follows w.record.receipts context.plan) ∧ (∃ k, ∀ receipt ∈ w.record.receipts.rows,
          (receipt.operationIndex < k → receipt.status = .succeeded)
            ∧ (k < receipt.operationIndex → receipt.status = .pending ∧ receipt.attemptCount = 0))
      ∧ (∀ events w', (publishSystem E job).Run w events w' →
          ∀ receipt ∈ w.record.receipts.rows, receipt.status = .succeeded →
            receipt ∈ w'.record.receipts.rows)
      ∧ ∀ publication, w.record.publication = some publication → w.record.receipts.rows ≠ []
            ∧ (∀ receipt ∈ w.record.receipts.rows, receipt.status = .succeeded)
            ∧ publication.remoteMessageIds = (orderedReceipts w.record.receipts).flatMap
                PublishOperationReceipt.remoteMessageIds := by
  have hinv := publishInv_reachable h
  refine ⟨hinv.indexed, ?_, hinv.prefixed.exists_index hinv.indexed, ?_, ?_⟩
  · intro worker context hcontext
    exact (hinv.sound worker).plan context hcontext
  · intro events w' hrun receipt hm hst
    exact succeeded_run hrun hm hst
  · intro publication hp
    have hdelivered := hinv.published publication hp
    obtain ⟨hids, hne⟩ := orderedReceiptRemoteIds_ok hdelivered.ordered
    exact ⟨hne, hdelivered.succeeded, hids⟩

/-- The text was delivered and the album is on its way. -/
def albumUnderWay : PublishWorld :=
  PublishWorld.run ⟨fun _ _ => none, fun _ => ""⟩ queuedJob
    [ .prepare 0 ⟨twoOperations, "@channel", none⟩ 0, .claim 0 1 none, .startCall 0,
      .endCall 0 (.success [10]), .persist 0 2, .claim 0 3 none, .startCall 0 ]

theorem receipts_in_order_album :
    albumUnderWay.record.receipts.rows.map PublishOperationReceipt.status
        = [.succeeded, .dispatching] ∧ ∃ k, ∀ receipt ∈ albumUnderWay.record.receipts.rows,
          (receipt.operationIndex < k → receipt.status = .succeeded) ∧ (k < receipt.operationIndex →
                receipt.status = .pending ∧ receipt.attemptCount = 0) :=
  ⟨rfl, (receipts_in_order (PublishWorld.run_reachable _ queuedJob _)).2.2.1⟩

end NewsCraft.Publishing
