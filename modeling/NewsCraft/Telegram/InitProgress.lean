import NewsCraft.Telegram.CatchUpSound
import NewsCraft.Telegram.Initialization

/-!
# How far an initialization has come

What the route's row, its channel and its dispatches say between two steps. While the
boundary is looked for nothing is captured. Afterwards everything from the boundary up to the
cursor is captured and nothing else, and what a job still has to capture has no gaps.
-/

namespace NewsCraft.Telegram.Initialization

open Lib Jobs Telegram.RouteFence List
open TelegramEnvelope (anchorMessageId)

/-- What the progress of an initialization depends on. -/
structure RouteProgress where
  cursorState : CursorState
  initialization : InitializationState
  channel : List TelegramEnvelope
  dispatches : List AutomationDispatch
  lastSeen : List TelegramEnvelope

def InitWorld.progress (w : InitWorld) : RouteProgress :=
  ⟨w.row.route.cursorState, w.row.initialization, w.channel, w.dispatches, w.lastSeen⟩

namespace RouteProgress

structure Searching (p : RouteProgress) (boundary : Datetime) : Prop where
  unknown : p.initialization.activationMessageId = none
  forward : p.initialization.initializationForward = none
  dispatches : p.dispatches = []
  scan : ScanInv p.channel boundary (InitWorld.savedScan p.initialization)

/-- The boundary is written, and what is between it and the cursor is captured. -/
structure CaughtUp (p : RouteProgress) (boundary : Datetime) (predecessor mark : Int) : Prop where
  known : p.initialization.activationMessageId = some predecessor
  cursor : p.cursorState.lastMessageId = some mark
  cut : Cut p.channel boundary predecessor
  le : predecessor ≤ mark
  within : Within p.channel mark
  covered : Backlog.Covered anchorMessageId p.channel
    (fun post => ∃ dispatch ∈ p.dispatches, dispatch.envelope = post) predecessor mark
  live : ∀ dispatch ∈ p.dispatches, dispatch.dispatchKind = .live
    ∧ dispatch.sourceKey = dispatch.envelope.sourceKey ∧ dispatch.envelope ∈ p.channel
    ∧ predecessor < dispatch.envelope.anchorMessageId
  keys : (p.dispatches.map AutomationDispatch.sourceKey).Nodup
  forward : ∀ state ∈ p.initialization.initializationForward,
    state.Sound p.channel predecessor mark []

/-- The last page of a catch-up had nothing above the cursor. -/
structure Settled (p : RouteProgress) (mark : Int) : Prop where
  seen : ∀ post ∈ p.lastSeen, post ∈ p.channel ∧ post.anchorMessageId ≤ mark
  dispatches : ∀ dispatch ∈ p.dispatches, dispatch.envelope ∈ p.lastSeen

structure Pending (p : RouteProgress) (predecessor mark : Int) (envelopes : List TelegramEnvelope) :
    Prop where
  kept : ∀ post ∈ envelopes, post ∈ p.channel ∧ predecessor < post.anchorMessageId
  sorted : envelopes.Pairwise fun a b => a.anchorMessageId ≤ b.anchorMessageId
  gapless : Backlog.Gapless anchorMessageId p.channel mark envelopes

structure Sound (p : RouteProgress) (boundary : Datetime) : Prop where
  phase : p.Searching boundary ∨ ∃ predecessor mark, p.CaughtUp boundary predecessor mark
  ready : p.cursorState.status = some "ready" →
    ∃ predecessor mark, p.CaughtUp boundary predecessor mark ∧ p.Settled mark

end RouteProgress

def InitStage.Sound (p : RouteProgress) (boundary : Datetime) : InitStage → Prop
  | .scanning _ scan => p.Searching boundary ∧ ScanInv p.channel boundary scan
  | .proven predecessor envelopes =>
    p.Searching boundary ∧ Proven p.channel boundary (predecessor.getD 0) envelopes
  | .initialCaptures envelopes =>
    ∃ predecessor mark, p.CaughtUp boundary predecessor mark ∧ p.Pending predecessor mark envelopes
  | .catchUp _ => ∃ predecessor mark, p.CaughtUp boundary predecessor mark
  | .forward _ saved baseCursor loop =>
    ∃ predecessor mark, p.CaughtUp boundary predecessor mark
      ∧ saved = p.initialization.initializationForward
      ∧ predecessor ≤ baseCursor ∧ baseCursor ≤ mark ∧ loop.Sound p.channel mark baseCursor
  | .captures _ saved step envelopes =>
    ∃ predecessor mark, p.CaughtUp boundary predecessor mark
      ∧ saved = p.initialization.initializationForward
      ∧ p.Pending predecessor mark envelopes
      ∧ (∀ state ∈ step.state, state.Sound p.channel predecessor mark envelopes)
      ∧ (step.envelopes = [] → envelopes = [])
      ∧ (step.state = none → step.envelopes = [] → p.Settled mark)
  | .clearing _ => ∃ predecessor mark, p.CaughtUp boundary predecessor mark
  | .finalizing => ∃ predecessor mark, p.CaughtUp boundary predecessor mark ∧ p.Settled mark

variable {p : RouteProgress} {boundary : Datetime} {predecessor mark : Int}

/-! ## Ready -/

namespace RouteProgress

theorem CaughtUp.fromBoundary (h : p.CaughtUp boundary predecessor mark) {post : TelegramEnvelope}
    (hpost : post ∈ p.channel) :
    boundary ≤ post.publishedAt ↔ predecessor < post.anchorMessageId := by
  have hsplit := h.cut.split post hpost
  constructor
  · intro hdate
    exact Int.not_le.mp fun hle => absurd (hsplit.mp hle) (Int.not_lt.mpr hdate)
  · intro hlt
    exact Int.not_lt.mp fun hdate => absurd (hsplit.mpr hdate) (Int.not_le.mpr hlt)

theorem CaughtUp.captured (h : p.CaughtUp boundary predecessor mark) (hsettled : p.Settled mark)
    (post : TelegramEnvelope) : (∃ dispatch ∈ p.dispatches, dispatch.envelope = post)
      ↔ post ∈ p.lastSeen ∧ boundary ≤ post.publishedAt := by
  constructor
  · intro ⟨dispatch, hdispatch, heq⟩
    obtain ⟨-, -, hchannel, hlt⟩ := h.live dispatch hdispatch
    rw [← heq]
    exact ⟨hsettled.dispatches dispatch hdispatch, (h.fromBoundary hchannel).mpr hlt⟩
  · intro ⟨hseen, hdate⟩
    obtain ⟨hchannel, hle⟩ := hsettled.seen post hseen
    exact h.covered post hchannel ((h.fromBoundary hchannel).mp hdate) hle

/-! ## A capture -/

theorem Settled.of_channel (h : p.CaughtUp boundary predecessor mark)
    (hseen : p.lastSeen = p.channel) (htop : ∀ post ∈ p.channel, post.anchorMessageId ≤ mark) :
    p.Settled mark := by
  refine ⟨fun post hpost => ?_, fun dispatch hdispatch => ?_⟩
  · rw [hseen] at hpost
    exact ⟨hpost, htop post hpost⟩
  · rw [hseen]
    exact (h.live dispatch hdispatch).2.2.1

end RouteProgress

theorem lastMessageId_updateCursor {state : CursorState} {envelope : TelegramEnvelope}
    {fingerprint : String} (hcursor : state.lastMessageId = some mark)
    (hanchor : envelope.messageIds.max? = some envelope.anchorMessageId) :
    (updateCursor state envelope fingerprint .live).lastMessageId
      = some (max mark envelope.anchorMessageId) := by
  rw [updateCursor]
  rw [advancePollCursor, hanchor, hcursor]

/-- The dispatches after a capture: one for the envelope was there, or is added. -/
def Dispatched (dispatches dispatches' : List AutomationDispatch) (envelope : TelegramEnvelope) :
    Prop :=
  (dispatches' = dispatches ∧ ∃ dispatch ∈ dispatches, dispatch.sourceKey = envelope.sourceKey)
    ∨ ∃ fingerprint, dispatches' = dispatches ++ [⟨envelope.sourceKey, fingerprint, .live, envelope⟩]
      ∧ ∀ dispatch ∈ dispatches, dispatch.sourceKey ≠ envelope.sourceKey

theorem dispatched_dispatched (C : InitConfig) (w : InitWorld) (envelope : TelegramEnvelope) :
    Dispatched w.dispatches (w.dispatched C envelope) envelope := by
  rw [InitWorld.dispatched]
  cases hfind : w.dispatchOf envelope.sourceKey with
  | some dispatch =>
    exact .inl ⟨rfl, dispatch, mem_of_find?_eq_some hfind, by
      simpa using find?_some hfind⟩
  | none =>
    refine .inr ⟨_, rfl, fun dispatch hdispatch => ?_⟩
    simpa using find?_eq_none.mp hfind dispatch hdispatch

namespace RouteProgress

section Capture

variable {envelope : TelegramEnvelope} {pending : List TelegramEnvelope}
  {dispatches : List AutomationDispatch} {fingerprint : String}
  (htimeline : Timeline p.channel) (h : p.CaughtUp boundary predecessor mark)
  (hpending : p.Pending predecessor mark (envelope :: pending))
  (hdispatched : Dispatched p.dispatches dispatches envelope)

include htimeline h hpending hdispatched

theorem dispatched_of_capture {post : TelegramEnvelope}
    (hpost : (∃ dispatch ∈ p.dispatches, dispatch.envelope = post) ∨ post = envelope) :
    ∃ dispatch ∈ dispatches, dispatch.envelope = post := by
  have henvelope := (hpending.kept envelope mem_cons_self).1
  rcases hdispatched with ⟨heq, dispatch, hdispatch, hkey⟩ | ⟨fingerprint, heq, hfresh⟩
  · rw [heq]
    rcases hpost with hold | hnew
    · exact hold
    obtain ⟨-, hsource, hchannel, -⟩ := h.live dispatch hdispatch
    refine ⟨dispatch, hdispatch, ?_⟩
    rw [hnew]
    exact htimeline.keys _ hchannel envelope henvelope (hsource.symm.trans hkey)
  · rw [heq]
    rcases hpost with ⟨dispatch, hdispatch, hold⟩ | hnew
    · exact ⟨dispatch, mem_append_left _ hdispatch, hold⟩
    · exact ⟨_, mem_append_right _ (mem_singleton.mpr rfl), hnew.symm⟩

/-- **A capture of the lowest envelope keeps everything up to the cursor captured.** -/
theorem CaughtUp.capture : CaughtUp { p with
        cursorState := updateCursor p.cursorState envelope fingerprint .live
        dispatches := dispatches }
      boundary predecessor (max mark envelope.anchorMessageId) where
  known := h.known
  cursor := by
    refine lastMessageId_updateCursor h.cursor ?_
    exact htimeline.anchor envelope (hpending.kept envelope mem_cons_self).1
  cut := h.cut
  le := Int.le_trans h.le (Int.le_max_left _ _)
  within := by
    have henvelope := (hpending.kept envelope mem_cons_self).1
    rcases h.within with hzero | ⟨post, hpost, hle⟩
    · by_cases hpos : mark ≤ envelope.anchorMessageId
      · exact .inr ⟨envelope, henvelope, Int.max_le.mpr ⟨hpos, le_refl _⟩⟩
      · exact .inl (Int.max_le.mpr ⟨hzero, by omega⟩)
    · rcases Int.le_total post.anchorMessageId envelope.anchorMessageId with hlow | hhigh
      · exact .inr ⟨envelope, henvelope, Int.max_le.mpr ⟨Int.le_trans hle hlow, le_refl _⟩⟩
      · exact .inr ⟨post, hpost, Int.max_le.mpr ⟨hle, hhigh⟩⟩
  covered := by
    have henvelope := (hpending.kept envelope mem_cons_self).1
    have hcovered := h.covered.take hpending.gapless (pairwise_cons.mp hpending.sorted).1
      fun x hx heq => htimeline.distinct x hx envelope henvelope heq
    intro post hpost hcut hle
    exact dispatched_of_capture htimeline h hpending hdispatched (hcovered post hpost hcut hle)
  live dispatch hdispatch := by
    rcases hdispatched with ⟨heq, -⟩ | ⟨fingerprint, heq, -⟩
    · rw [show dispatches = p.dispatches from heq] at hdispatch
      exact h.live dispatch hdispatch
    · rw [show dispatches = _ from heq] at hdispatch
      rcases mem_append.mp hdispatch with hold | hnew
      · exact h.live dispatch hold
      rw [mem_singleton.mp hnew]
      exact ⟨rfl, rfl, hpending.kept envelope mem_cons_self⟩
  keys := by
    rcases hdispatched with ⟨heq, -⟩ | ⟨fingerprint, heq, hfresh⟩
    · rw [show dispatches = p.dispatches from heq]
      exact h.keys
    · rw [show dispatches = _ from heq, map_append, nodup_append]
      refine ⟨h.keys, nodup_singleton _, fun key hkey key' hkey' heq' => ?_⟩
      obtain ⟨dispatch, hdispatch, hkeyEq⟩ := mem_map.mp hkey
      rw [map_singleton, mem_singleton] at hkey'
      exact hfresh dispatch hdispatch (hkeyEq.trans (heq'.trans hkey'))
  forward state hstate := (h.forward state hstate).mono (Int.le_max_left _ _)

omit htimeline h hdispatched in
theorem Pending.capture : Pending { p with
        cursorState := updateCursor p.cursorState envelope fingerprint .live
        dispatches := dispatches }
      predecessor (max mark envelope.anchorMessageId) pending where
  kept post hpost := hpending.kept post (mem_cons_of_mem _ hpost)
  sorted := (pairwise_cons.mp hpending.sorted).2
  gapless := hpending.gapless.take

end Capture

/-! ## Arrivals -/

section Arrive

variable {post : TelegramEnvelope} (harrives : Arrives p.channel boundary post)

include harrives

theorem Searching.arrive (h : p.Searching boundary) :
    Searching { p with channel := post :: p.channel } boundary where
  unknown := h.unknown
  forward := h.forward
  dispatches := h.dispatches
  scan := h.scan.arrive harrives

theorem CaughtUp.arrive (h : p.CaughtUp boundary predecessor mark) :
    CaughtUp { p with channel := post :: p.channel } boundary predecessor mark where
  known := h.known
  cursor := h.cursor
  cut := h.cut.arrive harrives
  le := h.le
  within := h.within.mono
  covered := h.covered.arrive (h.within.lt harrives.positive harrives.above)
  live dispatch hdispatch := by
    obtain ⟨hkind, hkey, hchannel, hlt⟩ := h.live dispatch hdispatch
    exact ⟨hkind, hkey, mem_cons_of_mem _ hchannel, hlt⟩
  keys := h.keys
  forward state hstate := (h.forward state hstate).arrive harrives

theorem Pending.arrive {envelopes : List TelegramEnvelope}
    (h : p.Pending predecessor mark envelopes) :
    Pending { p with channel := post :: p.channel } predecessor mark envelopes where
  kept other hother := (h.kept other hother).imp_left (mem_cons_of_mem _)
  sorted := h.sorted
  gapless := h.gapless.arrive fun other hother => harrives.above other (h.kept other hother).1

omit harrives in
theorem Settled.arrive (h : p.Settled mark) :
    Settled { p with channel := post :: p.channel } mark where
  seen other hother := (h.seen other hother).imp_left (mem_cons_of_mem _)
  dispatches := h.dispatches

theorem Sound.arrive (h : p.Sound boundary) :
    Sound { p with channel := post :: p.channel } boundary where
  phase := by
    rcases h.phase with hsearching | ⟨predecessor, mark, hcaught⟩
    · exact .inl (hsearching.arrive harrives)
    · exact .inr ⟨predecessor, mark, hcaught.arrive harrives⟩
  ready hready := by
    obtain ⟨predecessor, mark, hcaught, hsettled⟩ := h.ready hready
    exact ⟨predecessor, mark, hcaught.arrive harrives, hsettled.arrive⟩

end Arrive

end RouteProgress

theorem InitStage.Sound.arrive {stage : InitStage} {post : TelegramEnvelope}
    (harrives : Arrives p.channel boundary post) (h : stage.Sound p boundary) :
    stage.Sound { p with channel := post :: p.channel } boundary := by
  cases stage with
  | scanning _ _ | proven _ _ => exact ⟨h.1.arrive harrives, h.2.arrive harrives⟩
  | initialCaptures envelopes =>
    obtain ⟨predecessor, mark, hcaught, hpending⟩ := h
    exact ⟨predecessor, mark, hcaught.arrive harrives, hpending.arrive harrives⟩
  | catchUp _ | clearing _ =>
    obtain ⟨predecessor, mark, hcaught⟩ := h
    exact ⟨predecessor, mark, hcaught.arrive harrives⟩
  | forward cycles saved baseCursor loop =>
    obtain ⟨predecessor, mark, hcaught, hsaved, hcut, hbase, hloop⟩ := h
    exact ⟨predecessor, mark, hcaught.arrive harrives, hsaved, hcut, hbase,
      hloop.arrive harrives hcaught.within⟩
  | captures cycles saved step envelopes =>
    obtain ⟨predecessor, mark, hcaught, hsaved, hpending, hstate, hempty, hsettled⟩ := h
    exact ⟨predecessor, mark, hcaught.arrive harrives, hsaved, hpending.arrive harrives,
      fun state hmem => (hstate state hmem).arrive harrives, hempty,
      fun hnone hnil => (hsettled hnone hnil).arrive⟩
  | finalizing =>
    obtain ⟨predecessor, mark, hcaught, hsettled⟩ := h
    exact ⟨predecessor, mark, hcaught.arrive harrives, hsettled.arrive⟩

end NewsCraft.Telegram.Initialization
