import NewsCraft.Telegram.Capture

/-!
# Capture order against the cursor

A poll captures a batch by date and then by anchor, while the cursor is the highest message
id captured and the next poll asks for ids above it. A poll that stops early loses nothing
exactly when the two orders agree. Dates and ids need not, and an album is dated by its
oldest message and numbered by its newest.
-/

namespace NewsCraft.Telegram

open Lib List

/-- `sorted(envelopes, key=_coordinate)`. -/
def captureOrder (envelopes : List TelegramEnvelope) : List TelegramEnvelope :=
  envelopes.insertionSort coordinateLe

/-- The stored cursor is below the envelope's highest message id. -/
def CursorBelow (store : RouteStore) (envelope : TelegramEnvelope) : Prop :=
  ∃ id ∈ envelope.messageIds, ∀ cursor ∈ store.route.cursorState.lastMessageId, cursor < id

instance (store : RouteStore) (envelope : TelegramEnvelope) :
    Decidable (CursorBelow store envelope) :=
  inferInstanceAs (Decidable (∃ _ ∈ _, _))

/-- Every message of `a` is below the highest message of `b`. -/
def EndsBelow (a b : TelegramEnvelope) : Prop :=
  ∃ id ∈ b.messageIds, ∀ seen ∈ a.messageIds, seen < id

/-- Wherever the captures of the batch stop, the next poll still returns every
envelope left. -/
def CrashSafe (C : CaptureContext) (store : RouteStore) (batch : List TelegramEnvelope) : Prop :=
  ∀ inputs, ∀ envelope ∈ (capturePollEnvelopes C inputs (captureOrder batch) store).1,
    CursorBelow (capturePollEnvelopes C inputs (captureOrder batch) store).2 envelope

variable {C : CaptureContext} {store store' : RouteStore} {envelope : TelegramEnvelope}

/-! ## What one capture does to the cursor -/

@[simp]
theorem route_enqueue (store : RouteStore) (job : RouteJob) :
    (store.enqueue job).route = store.route := by
  unfold RouteStore.enqueue
  split
  · rfl
  · rfl

theorem captureAndEnqueue_live {digest : Json → String} {enqueueProcess forceReview stored : Bool}
    (h : store.captureAndEnqueue digest envelope .live none enqueueProcess forceReview stored
      = .ok store') : store'.route.cursorState.lastMessageId
      = Watermark.advance store.route.cursorState.lastMessageId envelope.messageIds := by
  rw [← advancePollCursor_eq]
  unfold RouteStore.captureAndEnqueue dispatchSourceKey at h
  dsimp only at h
  split at h
  · simp only [Except.ok.injEq] at h
    rw [← h]
    rfl
  · simp only [reduceCtorEq, false_and, if_false] at h
    split at h
    · simp at h
    simp only [Except.ok.injEq] at h
    rw [← h]
    rfl

theorem capture_cases {dispatchKind : DispatchKind} {enqueueProcess forceReview stored : Bool}
    {deferredUntil : Datetime} {outcome : CaptureOutcome}
    (h : store.capture C envelope dispatchKind enqueueProcess forceReview deferredUntil stored
      = .ok (outcome, store')) :
    (∃ reason, outcome = .deferred reason ∧ store'.route = store.route) ∨
    (outcome = .captured ∧ store.captureAndEnqueue C.digest envelope dispatchKind none
      enqueueProcess forceReview stored = .ok store') := by
  unfold RouteStore.capture at h
  split at h
  · cases h
  · rename_i reason _
    unfold RouteStore.deferRouteJob at h
    dsimp only at h
    split at h
    · cases h
    rename_i heq
    split at heq
    · cases heq
    rw [Except.ok.injEq] at heq
    rw [Except.ok.injEq, Prod.mk.injEq] at h
    obtain ⟨rfl, rfl⟩ := h
    left
    refine ⟨reason, rfl, ?_⟩
    rw [← heq, route_enqueue]
  · split at h
    · cases h
    rename_i heq
    rw [Except.ok.injEq, Prod.mk.injEq] at h
    obtain ⟨rfl, rfl⟩ := h
    exact .inr ⟨rfl, heq⟩

/-! ## What the captures of a poll do to it -/

theorem capturePollEnvelopes_split (inputs : List CaptureInputs)
    (envelopes : List TelegramEnvelope) (store : RouteStore) :
    ∃ taken, envelopes = taken ++ (capturePollEnvelopes C inputs envelopes store).1
      ∧ (capturePollEnvelopes C inputs envelopes store).2.route.cursorState.lastMessageId
        = Watermark.after TelegramEnvelope.messageIds store.route.cursorState.lastMessageId taken := by
  induction envelopes generalizing inputs store with
  | nil =>
    unfold capturePollEnvelopes
    exact ⟨[], rfl, rfl⟩
  | cons envelope envelopes ih =>
    cases inputs with
    | nil => exact ⟨[], rfl, rfl⟩
    | cons first later =>
      unfold capturePollEnvelopes
      dsimp only
      split
      · exact ⟨[], rfl, rfl⟩
      split
      · exact ⟨[], rfl, rfl⟩
      · rename_i heq
        refine ⟨[], rfl, ?_⟩
        rcases capture_cases heq with ⟨_, _, hroute⟩ | ⟨hcaptured, _⟩
        · rw [hroute]
          rfl
        · cases hcaptured
      · rename_i next heq
        rcases capture_cases heq with ⟨_, hdeferred, _⟩ | ⟨_, hcapture⟩
        · cases hdeferred
        obtain ⟨taken, hsplit, hcursor⟩ := ih later next
        refine ⟨envelope :: taken, by rw [cons_append, ← hsplit], ?_⟩
        rw [hcursor, captureAndEnqueue_live hcapture]
        rfl

def unhindered (C : CaptureContext) : CaptureInputs where
  staged := true
  enabled := true
  pausedAt := none
  globalPause := false
  status := some "ready"
  activationRequestedAt := C.expectedActivation
  accepted := true
  deferredUntil := 0
  stored := true

theorem capture_unhindered (store : RouteStore) (envelope : TelegramEnvelope) :
    ∃ next, (store.observe (unhindered C)).capture C envelope .live true false 0 true
      = .ok (.captured, next) := by
  have hvalid : validateLockedRoute (store.observe (unhindered C)).route
      (store.observe (unhindered C)).globalPause "ready" C.expectedActivation = .ok none := by
    simp [validateLockedRoute, RouteStore.observe, unhindered]
  unfold RouteStore.capture
  rw [hvalid]
  unfold RouteStore.captureAndEnqueue dispatchSourceKey
  dsimp only
  cases (store.observe (unhindered C)).dispatchOf envelope.sourceKey with
  | some _ | none => exact ⟨_, rfl⟩

theorem capturePollEnvelopes_captured {inputs : CaptureInputs} {later : List CaptureInputs}
    {envelopes : List TelegramEnvelope} (hstaged : inputs.staged = true)
    (h : (store.observe inputs).capture C envelope .live inputs.accepted false inputs.deferredUntil
      inputs.stored = .ok (.captured, store')) :
    capturePollEnvelopes C (inputs :: later) (envelope :: envelopes) store
      = capturePollEnvelopes C later envelopes store' := by
  rw [capturePollEnvelopes]
  simp only [hstaged, Bool.not_true, Bool.false_eq_true, if_false, h]

theorem capturePollEnvelopes_crash (taken rest : List TelegramEnvelope) (store : RouteStore) :
    (capturePollEnvelopes C (taken.map fun _ => unhindered C) (taken ++ rest) store).1 = rest := by
  induction taken generalizing store with
  | nil => cases rest <;> rfl
  | cons envelope taken ih =>
    obtain ⟨next, hnext⟩ := capture_unhindered (C := C) store envelope
    rw [map_cons, cons_append, capturePollEnvelopes_captured rfl hnext]
    exact ih next

theorem crashSafe_iff_resumable (batch : List TelegramEnvelope) :
    CrashSafe C store batch ↔ Watermark.Resumable TelegramEnvelope.messageIds
      store.route.cursorState.lastMessageId (captureOrder batch) := by
  constructor
  · intro h taken rest heq envelope hmem
    have hsplit := capturePollEnvelopes_split (C := C) (taken.map fun _ => unhindered C)
      (captureOrder batch) store
    have hrest := capturePollEnvelopes_crash (C := C) taken rest store
    have hsafe := h (taken.map fun _ => unhindered C) envelope
    rw [← heq] at hrest
    rw [hrest] at hsplit hsafe
    obtain ⟨taken', heq', hcursor⟩ := hsplit
    have htaken : taken = taken' := append_cancel_right (heq.symm.trans heq')
    rw [← htaken] at hcursor
    have hbelow := hsafe hmem
    unfold CursorBelow at hbelow
    rw [hcursor] at hbelow
    exact hbelow
  · intro h inputs envelope hmem
    obtain ⟨taken, heq, hcursor⟩ :=
      capturePollEnvelopes_split (C := C) inputs (captureOrder batch) store
    unfold CursorBelow
    rw [hcursor]
    exact h taken _ heq envelope hmem

/--
**A poll may stop anywhere exactly when coordinates and message ids agree.**

Every envelope left is returned by the next poll, wherever the captures of the
batch stop, if and only if the cursor is below every envelope to begin with and
of any two envelopes the one with the lower coordinate (the first of the two in
the batch when the coordinates are equal) ends below the other.
-/
theorem crash_safe_iff (C : CaptureContext) (store : RouteStore) (batch : List TelegramEnvelope) :
    CrashSafe C store batch ↔ (∀ envelope ∈ batch, CursorBelow store envelope)
      ∧ batch.Pairwise fun a b => if coordinateLe a b then EndsBelow a b else EndsBelow b a := by
  rw [crashSafe_iff_resumable, Watermark.resumable_iff]
  refine and_congr ?_ ?_
  · refine forall_congr' fun envelope => ?_
    rw [captureOrder, mem_insertionSort]
    exact Iff.rfl
  · exact Watermark.pairwise_insertionSort_iff coordinateLe_total coordinateLe_trans

def readyAtFive : RouteStore where
  route :=
    { id := 1
      enabled := true
      pausedAt := none
      pollIntervalSeconds := 300
      cursorState := ⟨some "ready", none, some 5, [], none⟩
      lastPolledAt := none
      nextPollAt := none }
  globalPause := false
  dispatches := []
  jobs := []

/-- The album of the messages 10 and 14, dated by message 10. -/
def albumTenFourteen : TelegramEnvelope :=
  ⟨"c:album:7", "c", 14, [10, 14], "album", none, [], 100, []⟩

/-- Message 12, sent between the two messages of the album. -/
def messageTwelve : TelegramEnvelope :=
  ⟨"c:message:12", "c", 12, [12], "text", none, [], 101, []⟩

def plainCapture : CaptureContext := ⟨fun _ => "", ⟨1, none, 0⟩, none⟩

/-- When the worker dies after the album, message 12 is left behind a cursor at 14. -/
theorem crash_after_album_loses :
    (∀ envelope ∈ [albumTenFourteen, messageTwelve], CursorBelow readyAtFive envelope)
      ∧ ¬ CrashSafe plainCapture readyAtFive [albumTenFourteen, messageTwelve] := by
  refine ⟨by decide, fun h => ?_⟩
  have hleft : messageTwelve ∈ (capturePollEnvelopes plainCapture [unhindered plainCapture]
      (captureOrder [albumTenFourteen, messageTwelve]) readyAtFive).1 := by decide
  have hlost : ¬ CursorBelow (capturePollEnvelopes plainCapture [unhindered plainCapture]
      (captureOrder [albumTenFourteen, messageTwelve]) readyAtFive).2 messageTwelve := by decide
  exact hlost (h [unhindered plainCapture] messageTwelve hleft)

end NewsCraft.Telegram
