import NewsCraft.Telegram.InitProgress
import NewsCraft.Telegram.PublicHtml
import NewsCraft.Telegram.RouteFenced

/-!
# What an initialization captures

Where posts follow each other, jobs do not overlap and pages are honest, a route that is ready
has captured exactly what its last page could see from the second of the request on. A
channel whose public page has moved on by the time it is fetched again has not.
-/

namespace NewsCraft.Telegram.Initialization

open Lib Jobs Telegram.RouteFence List Table Option
open TelegramEnvelope (anchorMessageId)

/-! ## What is required -/

def Answers (answer : Except HandlerError TelegramFetchResult) (P : TelegramFetchResult → Prop) :
    Prop :=
  ∀ result, answer = .ok result → P result

instance (answer : Except HandlerError TelegramFetchResult) (P : TelegramFetchResult → Prop)
    [DecidablePred P] : Decidable (Answers answer P) :=
  match answer with
  | .error _ => isTrue fun _ h => by cases h
  | .ok result =>
    decidable_of_iff (P result) ⟨fun h _ heq => Except.ok.inj heq ▸ h, fun h => h result rfl⟩

namespace InitWorld

def Honest (C : InitConfig) (w : InitWorld) (run : InitRun) : Prop :=
  match run.stage with
  | .scanning (_ + 1) scan =>
    Answers (C.fetch w.channel scan.request) (HonestPage w.channel scan.request)
  | .forward _ _ baseCursor loop =>
    ∀ request ∈ loop.request baseCursor,
      Answers (C.fetch w.channel request) fun result => loop.Honest w.channel request result
  | _ => True

instance (C : InitConfig) (w : InitWorld) (run : InitRun) : Decidable (w.Honest C run) := by
  unfold Honest
  split <;> infer_instance

/-- A post comes after those there are, one job runs at a time, and the pages are honest. -/
def Orderly (C : InitConfig) (w : InitWorld) : InitEvent → Prop
  | .arrive post => ∀ other ∈ w.channel, ∀ id ∈ other.messageIds, ∀ new ∈ post.messageIds, id < new
  | .start _ _ => w.runs.rows = []
  | .advance id _ => ∀ run ∈ w.runs.lookup id, w.Honest C run
  | _ => True

instance (C : InitConfig) (w : InitWorld) (event : InitEvent) : Decidable (w.Orderly C event) := by
  apply InitEvent.casesOn (motive := fun event => Decidable (w.Orderly C event)) event <;>
    (intros; dsimp only [Orderly]; infer_instance)

/-- The posts captured as live are those the last page could see from the boundary on, each of
them once. -/
def CapturedExactly (C : InitConfig) (w : InitWorld) : Prop :=
  w.captured.Nodup ∧ ∃ boundary, w.boundary C = some boundary
    ∧ ∀ post, post ∈ w.captured ↔ post ∈ w.lastSeen ∧ boundary ≤ post.publishedAt

end InitWorld

/-! ## The invariant -/

/-- The session's copy has the cursor of the row. -/
def CopyOf (row copy : RouteRow) : Prop :=
  copy.route.cursorState = row.route.cursorState ∧ copy.initialization = row.initialization

structure InitInv (C : InitConfig) (w : InitWorld) : Prop where
  timeline : Timeline w.channel
  idle : w.boundary C = none → w.runs.rows = [] ∧ w.dispatches = []
    ∧ w.row.initialization = .cleared ∧ w.row.route.cursorState.status ≠ some "ready"
  sound : ∀ boundary ∈ w.boundary C, w.progress.Sound boundary
  single : ∀ run ∈ w.runs.rows, ∀ other ∈ w.runs.rows, run = other
  working : ∀ run ∈ w.runs.rows, w.row.route.cursorState.status ≠ some "ready"
  runs : ∀ run ∈ w.runs.rows, w.boundary C = some run.boundary ∧ CopyOf w.row run.copy
    ∧ run.stage.Sound w.progress run.boundary

variable {C : InitConfig} {w : InitWorld} {run : InitRun}

theorem copyOf_flushed {row copy changed : RouteRow} (h : CopyOf row copy) :
    CopyOf (row.flushed copy changed) changed := by
  have hwritten := written_cases (copy.route.cursorState, copy.initialization)
    (changed.route.cursorState, changed.initialization)
    (row.route.cursorState, row.initialization)
  unfold CopyOf RouteRow.flushed
  rcases hwritten with ⟨hsame, hpair⟩ | ⟨hnew, -⟩
  · rw [hsame]
    obtain ⟨hcursor, hinit⟩ := Prod.mk.inj hpair
    exact ⟨hcursor.trans h.1, hinit.trans h.2⟩
  · rw [hnew]
    exact ⟨rfl, rfl⟩

/-! ## Steps of a job -/

def stepped (w : InitWorld) (run : InitRun) (copy : RouteRow)
    (dispatches : List AutomationDispatch) (after : Option InitStage) : InitWorld :=
  { w with
    row := w.row.flushed run.copy copy
    dispatches := dispatches
    runs :=
      match after with
      | none => w.runs.erase run.id
      | some stage => w.runs.put { run with copy := copy, stage := stage } }

theorem validateLockedRoute_status {route : AutomationRoute} {globalPause : Bool}
    {required : String} {activation : Option String}
    (h : validateLockedRoute route globalPause required activation = .ok none) :
    route.cursorState.status = some required := by
  unfold validateLockedRoute at h
  split at h
  · cases h
  split at h
  · cases h
  split at h
  · cases h
  rename_i hstatus
  exact by_contra hstatus

theorem commit_cases (w : InitWorld) (run : InitRun) (write : RouteWrite)
    (dispatches : List AutomationDispatch) (after : Option InitStage) :
    w.commit run write dispatches after = w.ended run ∨ run.copy.route.cursorState.status
          = some (write.requiredStatus .initializeRoute run.expectedStatus)
        ∧ w.commit run write dispatches after
          = stepped w run (write.apply run.copy .initializeRoute) dispatches after := by
  unfold InitWorld.commit
  split
  · rename_i hpasses
    exact .inr ⟨validateLockedRoute_status hpasses, rfl⟩
  · exact .inl rfl

structure Stepped (C : InitConfig) (w : InitWorld) (run : InitRun) (copy : RouteRow)
    (dispatches : List AutomationDispatch) (after : Option InitStage) : Prop where
  activation : copy.activation = run.copy.activation
  sound : RouteProgress.Sound
    ⟨copy.route.cursorState, copy.initialization, w.channel, dispatches, w.lastSeen⟩ run.boundary
  stage : ∀ stage ∈ after, copy.route.cursorState.status ≠ some "ready"
    ∧ stage.Sound ⟨copy.route.cursorState, copy.initialization, w.channel, dispatches, w.lastSeen⟩
      run.boundary

namespace InitInv

variable (h : InitInv C w)

include h

theorem erased (id : UUID) : InitInv C { w with runs := w.runs.erase id } where
  timeline := h.timeline
  idle hnone := by
    obtain ⟨hruns, hrest⟩ := h.idle hnone
    refine ⟨eq_nil_iff_forall_not_mem.mpr fun other hother => ?_, hrest⟩
    have hmem := (mem_erase.mp hother).1
    rw [hruns] at hmem
    exact not_mem_nil hmem
  sound := h.sound
  single run hrun other hother :=
    h.single run (mem_erase.mp hrun).1 other (mem_erase.mp hother).1
  working run hrun := h.working run (mem_erase.mp hrun).1
  runs run hrun := h.runs run (mem_erase.mp hrun).1

theorem ended (run : InitRun) : InitInv C (w.ended run) := h.erased run.id

variable {copy : RouteRow} {dispatches : List AutomationDispatch} {after : Option InitStage}

theorem mem_stepped (hrun : run ∈ w.runs.rows) {other : InitRun}
    (hother : other ∈ (stepped w run copy dispatches after).runs.rows) :
    ∃ stage, after = some stage ∧ other = { run with copy := copy, stage := stage } := by
  cases after with
  | none =>
    obtain ⟨hmem, hne⟩ := mem_erase.mp hother
    exact absurd (congrArg InitRun.id (h.single other hmem run hrun)) hne
  | some stage =>
    rcases mem_put hother with ⟨heq, -⟩ | ⟨hmem, hne⟩
    · exact ⟨stage, rfl, heq⟩
    · exact absurd (congrArg InitRun.id (h.single other hmem run hrun)) hne

theorem stepped (hrun : run ∈ w.runs.rows) (hstepped : Stepped C w run copy dispatches after) :
    InitInv C (stepped w run copy dispatches after) := by
  obtain ⟨hboundary, hcopy, -⟩ := h.runs run hrun
  have hflushed : CopyOf (w.row.flushed run.copy copy) copy := copyOf_flushed hcopy
  have hactivation : (w.row.flushed run.copy copy).activation = w.row.activation := by
    rw [RouteRow.activation, ← hflushed.1]
    exact hstepped.activation.trans (congrArg CursorState.activationRequestedAt hcopy.1)
  have hsame : (Initialization.stepped w run copy dispatches after).boundary C = some run.boundary := by
    rw [InitWorld.boundary]
    exact (congrArg (fun activation : Option String =>
      (activation.bind C.fromisoformat).map wholeSecond) hactivation).trans hboundary
  have hprogress : (Initialization.stepped w run copy dispatches after).progress
      = ⟨copy.route.cursorState, copy.initialization, w.channel, dispatches, w.lastSeen⟩ := by
    rw [InitWorld.progress]
    exact congrArg₂ (RouteProgress.mk · · w.channel dispatches w.lastSeen) hflushed.1.symm
      hflushed.2.symm
  refine ⟨h.timeline, fun hnone => ?_, fun boundary hmem => ?_, fun first hfirst other hother => ?_,
    fun other hother => ?_, fun other hother => ?_⟩
  · rw [hsame] at hnone
    cases hnone
  · rw [hsame] at hmem
    rw [hprogress, ← Option.some.inj hmem]
    exact hstepped.sound
  · obtain ⟨stage, hstage, heq⟩ := h.mem_stepped hrun hfirst
    obtain ⟨stage', hstage', heq'⟩ := h.mem_stepped hrun hother
    rw [hstage] at hstage'
    rw [heq, heq', Option.some.inj hstage']
  · obtain ⟨stage, hstage, -⟩ := h.mem_stepped hrun hother
    obtain ⟨hstatus, -⟩ := hstepped.stage stage hstage
    have hcursor : (Initialization.stepped w run copy dispatches after).row.route.cursorState
        = copy.route.cursorState := hflushed.1.symm
    rw [hcursor]
    exact hstatus
  · obtain ⟨stage, hstage, heq⟩ := h.mem_stepped hrun hother
    obtain ⟨-, hsound⟩ := hstepped.stage stage hstage
    rw [heq, hsame, hprogress]
    exact ⟨rfl, hflushed, hsound⟩

theorem proceed (hrun : run ∈ w.runs.rows) {stage : InitStage}
    (hstage : stage.Sound w.progress run.boundary) : InitInv C (w.proceed run stage) := by
  obtain ⟨hboundary, hcopy, -⟩ := h.runs run hrun
  have hmem : ∀ other ∈ (w.proceed run stage).runs.rows, other = { run with stage := stage } := by
    intro other hother
    rcases mem_put hother with ⟨heq, -⟩ | ⟨hmem, hne⟩
    · exact heq
    · exact absurd (congrArg InitRun.id (h.single other hmem run hrun)) hne
  refine ⟨h.timeline, fun hnone => ?_, h.sound, fun first hfirst other hother => ?_,
    fun other _ => h.working run hrun, fun other hother => ?_⟩
  · have hnone' : w.boundary C = none := hnone
    rw [hboundary] at hnone'
    cases hnone'
  · rw [hmem first hfirst, hmem other hother]
  rw [hmem other hother]
  exact ⟨hboundary, hcopy, hstage⟩

theorem commit (hrun : run ∈ w.runs.rows) {write : RouteWrite}
    (hpasses : run.copy.route.cursorState.status = some (write.requiredStatus .initializeRoute
      run.expectedStatus) → RouteProgress.Sound ⟨(write.apply run.copy
      .initializeRoute).route.cursorState, (write.apply run.copy .initializeRoute).initialization,
      w.channel, dispatches, w.lastSeen⟩ run.boundary ∧ ∀ stage ∈ after, (write.apply run.copy
      .initializeRoute).route.cursorState.status ≠ some "ready" ∧ stage.Sound ⟨(write.apply run.copy
      .initializeRoute).route.cursorState, (write.apply run.copy .initializeRoute).initialization,
      w.channel, dispatches, w.lastSeen⟩ run.boundary) :
    InitInv C (w.commit run write dispatches after) := by
  rcases commit_cases w run write dispatches after with hended | ⟨hstatus, hcommit⟩
  · rw [hended]
    exact h.ended run
  · obtain ⟨hsound, hstage⟩ := hpasses hstatus
    rw [hcommit]
    exact h.stepped hrun ⟨activation_apply _ _ _, hsound, hstage⟩

/-! ### Looking for the boundary -/

theorem persistScan (hrun : run ∈ w.runs.rows) {pages : Nat} {scan : ActivationScan}
    (hstage : run.stage = .scanning pages scan) :
    InitInv C (w.write run (.activationScan run.boundary scan.snapshotToken scan.pageToken
      scan.seenPageTokens scan.lastScanned) none) := by
  obtain ⟨-, ⟨-, hinit⟩, hsound⟩ := h.runs run hrun
  rw [hstage] at hsound
  obtain ⟨hsearching, hscan⟩ := hsound
  refine h.commit hrun fun _ => ⟨⟨.inl ⟨?_, ?_, hsearching.dispatches, hscan.dropped⟩,
    fun hready => ?_⟩, fun _ hafter => (by cases hafter)⟩
  · exact (congrArg InitializationState.activationMessageId hinit).trans hsearching.unknown
  · exact (congrArg InitializationState.initializationForward hinit).trans hsearching.forward
  have hstatus : some "catching_up" = some "ready" := hready
  exact absurd hstatus (by decide)

theorem scanPage (hrun : run ∈ w.runs.rows) {pages : Nat} {scan : ActivationScan}
    (hstage : run.stage = .scanning (pages + 1) scan)
    (hhonest : Answers (C.fetch w.channel scan.request) (HonestPage w.channel scan.request)) :
    InitInv C (w.scanPage C run pages scan) := by
  obtain ⟨-, -, hsound⟩ := h.runs run hrun
  rw [hstage] at hsound
  obtain ⟨hsearching, hscan⟩ := hsound
  unfold InitWorld.scanPage
  split
  · exact h.ended run
  · rename_i predecessor envelopes hpage
    exact h.proceed hrun ⟨hsearching, ActivationScan.page_sound h.timeline hscan hhonest hpage⟩
  · rename_i next hpage
    exact h.proceed hrun ⟨hsearching, ActivationScan.page_sound h.timeline hscan hhonest hpage⟩

theorem persistBoundary (hrun : run ∈ w.runs.rows) {predecessor : Option Int}
    {envelopes : List TelegramEnvelope} (hstage : run.stage = .proven predecessor envelopes) :
    InitInv C (w.write run (.activationBoundary run.boundary predecessor)
      (some (.initialCaptures (coordinateOrder envelopes)))) := by
  obtain ⟨-, ⟨-, hinit⟩, hsound⟩ := h.runs run hrun
  rw [hstage] at hsound
  obtain ⟨hsearching, hproven⟩ := hsound
  have hcatching : some "catching_up" ≠ some "ready" := by decide
  refine h.commit hrun fun _ => ?_
  have hcaught : RouteProgress.CaughtUp
      ⟨((RouteWrite.activationBoundary run.boundary predecessor).apply run.copy
          .initializeRoute).route.cursorState,
        ((RouteWrite.activationBoundary run.boundary predecessor).apply run.copy
          .initializeRoute).initialization, w.channel, w.dispatches, w.lastSeen⟩
      run.boundary (predecessor.getD 0) (predecessor.getD 0) := by
    have hnone : w.dispatches = [] := hsearching.dispatches
    refine ⟨rfl, rfl, hproven.cut, le_refl _, hproven.cut.within, fun post _ hlow hhigh => ?_,
      fun dispatch hdispatch => ?_, ?_, fun state hstate => ?_⟩
    · exact absurd hhigh (Int.not_le.mpr hlow)
    · rw [show w.dispatches = [] from hnone] at hdispatch
      cases hdispatch
    · dsimp only
      rw [hnone]
      exact nodup_nil
    · have hforward : run.copy.initialization.initializationForward = some state := hstate
      rw [hinit, show w.row.initialization.initializationForward = none from hsearching.forward]
        at hforward
      cases hforward
  have hmem : ∀ {x}, x ∈ coordinateOrder envelopes ↔ x ∈ envelopes :=
    h.timeline.mem_coordinateOrder fun post hpost => (hproven.kept post hpost).1
  refine ⟨⟨.inr ⟨_, _, hcaught⟩, fun hready => absurd hready hcatching⟩, fun stage hafter => ?_⟩
  rw [← Option.some.inj hafter]
  refine ⟨hcatching, _, _, hcaught, fun post hpost => ?_,
    h.timeline.pairwise_coordinateOrder fun post hpost => (hproven.kept post hpost).1,
    fun y hy x hx hlt => (hproven.gapless y (hmem.mp hy) x hx hlt).imp_right hmem.mpr⟩
  obtain ⟨hpost, hdate⟩ := hproven.kept post (hmem.mp hpost)
  exact ⟨hpost, (hcaught.fromBoundary hpost).mp hdate⟩

/-! ### Capturing -/

theorem capture (hrun : run ∈ w.runs.rows) {predecessor mark : Int} {envelope : TelegramEnvelope}
    {pending : List TelegramEnvelope} {after : InitStage}
    (hcaught : w.progress.CaughtUp run.boundary predecessor mark)
    (hpending : w.progress.Pending predecessor mark (envelope :: pending))
    (hafter : ∀ cursorState dispatches, RouteProgress.CaughtUp
        { w.progress with cursorState := cursorState, dispatches := dispatches }
        run.boundary predecessor (max mark envelope.anchorMessageId) →
      RouteProgress.Pending { w.progress with cursorState := cursorState, dispatches := dispatches }
        predecessor (max mark envelope.anchorMessageId) pending →
      after.Sound { w.progress with cursorState := cursorState, dispatches := dispatches }
        run.boundary) :
    InitInv C (w.capture C run envelope after) := by
  obtain ⟨-, ⟨hcursor, hinit⟩, -⟩ := h.runs run hrun
  refine h.commit hrun fun hstatus => ?_
  have hcopy : ((RouteWrite.capture envelope (telegramEnvelopeFingerprint C.digest envelope)
      .live).apply run.copy .initializeRoute).route.cursorState
      = updateCursor w.row.route.cursorState envelope
        (telegramEnvelopeFingerprint C.digest envelope) .live :=
    congrArg (updateCursor · envelope (telegramEnvelopeFingerprint C.digest envelope) .live) hcursor
  have hsame : ((RouteWrite.capture envelope (telegramEnvelopeFingerprint C.digest envelope)
      .live).apply run.copy .initializeRoute).initialization = w.row.initialization := hinit
  have hcatching : (updateCursor w.row.route.cursorState envelope
      (telegramEnvelopeFingerprint C.digest envelope) .live).status ≠ some "ready" := by
    have hrow : w.row.route.cursorState.status = some "catching_up" := by
      rw [← hcursor]
      exact hstatus
    rw [show (updateCursor w.row.route.cursorState envelope
      (telegramEnvelopeFingerprint C.digest envelope) .live).status
        = w.row.route.cursorState.status from rfl, hrow]
    decide
  rw [hcopy, hsame]
  have hcaught' : RouteProgress.CaughtUp { w.progress with
        cursorState := updateCursor w.progress.cursorState envelope
          (telegramEnvelopeFingerprint C.digest envelope) .live
        dispatches := w.dispatched C envelope }
      run.boundary predecessor (max mark envelope.anchorMessageId) :=
    hcaught.capture h.timeline hpending (dispatched_dispatched C w envelope)
  have hpending' : RouteProgress.Pending { w.progress with
        cursorState := updateCursor w.progress.cursorState envelope
          (telegramEnvelopeFingerprint C.digest envelope) .live
        dispatches := w.dispatched C envelope }
      predecessor (max mark envelope.anchorMessageId) pending := hpending.capture
  refine ⟨⟨.inr ⟨_, _, hcaught'⟩, fun hready => absurd hready hcatching⟩, fun stage hstage => ?_⟩
  rw [← Option.some.inj hstage]
  exact ⟨hcatching, hafter _ _ hcaught' hpending'⟩

theorem initialCapture (hrun : run ∈ w.runs.rows) {envelope : TelegramEnvelope}
    {envelopes : List TelegramEnvelope} (hstage : run.stage = .initialCaptures (envelope :: envelopes)) :
    InitInv C (w.capture C run envelope (.initialCaptures envelopes)) := by
  obtain ⟨-, -, hsound⟩ := h.runs run hrun
  rw [hstage] at hsound
  obtain ⟨predecessor, mark, hcaught, hpending⟩ := hsound
  exact h.capture hrun hcaught hpending fun _ _ hcaught' hpending' =>
    ⟨predecessor, _, hcaught', hpending'⟩

theorem catchUpCapture (hrun : run ∈ w.runs.rows) {cycles : Nat} {saved : Option ForwardState}
    {step : ForwardStep} {envelope : TelegramEnvelope} {envelopes : List TelegramEnvelope}
    (hstage : run.stage = .captures cycles saved step (envelope :: envelopes)) :
    InitInv C (w.capture C run envelope (.captures cycles saved step envelopes)) := by
  obtain ⟨-, -, hsound⟩ := h.runs run hrun
  rw [hstage] at hsound
  obtain ⟨predecessor, mark, hcaught, hsaved, hpending, hstate, hempty, -⟩ := hsound
  have hsome : step.envelopes ≠ [] := fun hnil => cons_ne_nil _ _ (hempty hnil)
  exact h.capture hrun hcaught hpending fun _ _ hcaught' hpending' =>
    ⟨predecessor, _, hcaught', hsaved, hpending', fun state hmem => (hstate state hmem).take,
      fun hnil => absurd hnil hsome, fun _ hnil => absurd hnil hsome⟩

/-! ### Catching up -/

theorem catchUpCycle (hrun : run ∈ w.runs.rows) : InitInv C (w.write run .catchUpCycle none) := by
  obtain ⟨hboundary, ⟨hcursor, hinit⟩, -⟩ := h.runs run hrun
  refine h.commit hrun fun _ => ⟨?_, fun _ hafter => (by cases hafter)⟩
  have hsame : (⟨run.copy.route.cursorState, run.copy.initialization, w.channel, w.dispatches,
      w.lastSeen⟩ : RouteProgress) = w.progress := by
    rw [hcursor, hinit]
    rfl
  exact hsame ▸ h.sound run.boundary hboundary

variable {cycles : Nat}

theorem beginForward (hrun : run ∈ w.runs.rows) {stage : InitStage}
    (hstage : run.stage = .catchUp (cycles + 1))
    (hok : Initialization.InitWorld.beginForward C run.copy cycles = .ok stage) :
    InitInv C (w.proceed run stage) := by
  obtain ⟨-, ⟨hcursor, hinit⟩, hsound⟩ := h.runs run hrun
  rw [hstage] at hsound
  obtain ⟨predecessor, mark, hcaught⟩ := hsound
  have hmark : run.copy.route.cursorState.lastMessageId = some mark :=
    (congrArg CursorState.lastMessageId hcursor).trans hcaught.cursor
  unfold Initialization.InitWorld.beginForward at hok
  rw [hmark, hinit, getD_some] at hok
  dsimp only at hok
  cases hstart : forwardStart
      ((w.row.initialization.initializationForward.map ForwardState.baseAfterId).getD mark)
      C.pageBudget w.row.initialization.initializationForward with
  | error error =>
    rw [hstart] at hok
    cases hok
  | ok loop =>
    rw [hstart] at hok
    cases hok
    have hbase : predecessor
        ≤ (w.row.initialization.initializationForward.map ForwardState.baseAfterId).getD mark
        ∧ (w.row.initialization.initializationForward.map ForwardState.baseAfterId).getD mark
          ≤ mark := by
      cases hforward : w.row.initialization.initializationForward with
      | none => exact ⟨hcaught.le, le_refl _⟩
      | some state =>
        have hstate := hcaught.forward state hforward
        cases state with
        | scan _ _ _ _ _ | capture _ _ _ _ _ =>
          exact ⟨hstate.1, hstate.2.1⟩
    exact h.proceed hrun ⟨predecessor, mark, hcaught, rfl, hbase.1, hbase.2,
      forwardStart_sound hcaught.forward hstart⟩

variable {saved : Option ForwardState}

theorem seen (hrun : run ∈ w.runs.rows) {baseCursor : Int} {loop : ForwardLoop}
    (hstage : run.stage = .forward cycles saved baseCursor loop) :
    InitInv C { w with lastSeen := w.channel } := by
  obtain ⟨hboundary, hcopy, hsound⟩ := h.runs run hrun
  have hworking := h.working run hrun
  have hcaught' : ∀ {predecessor mark : Int}, w.progress.CaughtUp run.boundary predecessor mark →
      RouteProgress.CaughtUp { w.progress with lastSeen := w.channel } run.boundary predecessor
        mark :=
    fun hcaught => ⟨hcaught.known, hcaught.cursor, hcaught.cut, hcaught.le, hcaught.within,
      hcaught.covered, hcaught.live, hcaught.keys, hcaught.forward⟩
  rw [hstage] at hsound
  obtain ⟨predecessor, mark, hcaught, hforward⟩ := hsound
  refine ⟨h.timeline, fun hnone => ?_, fun boundary hmem => ?_, h.single, h.working,
    fun other hother => ?_⟩
  · have hnone' : w.boundary C = none := hnone
    rw [hboundary] at hnone'
    cases hnone'
  · have hmem' : w.boundary C = some boundary := hmem
    rw [hboundary] at hmem'
    rw [← Option.some.inj hmem']
    exact ⟨.inr ⟨predecessor, mark, hcaught' hcaught⟩, fun hready => absurd hready hworking⟩
  · rw [h.single other hother run hrun]
    refine ⟨hboundary, hcopy, ?_⟩
    rw [hstage]
    exact ⟨predecessor, mark, hcaught' hcaught, hforward⟩

theorem forwardPage (hrun : run ∈ w.runs.rows) {baseCursor : Int} {loop : ForwardLoop}
    (hstage : run.stage = .forward cycles saved baseCursor loop)
    (hhonest : ∀ request ∈ loop.request baseCursor, Answers (C.fetch w.channel request) fun result
      => loop.Honest w.channel request result) :
    InitInv C (w.forwardPage C run cycles saved baseCursor loop) := by
  -- What a page sees is the channel it is read from.
  have hseen : ∃ lastSeen, InitInv C { w with lastSeen := lastSeen }
      ∧ ((loop.request baseCursor).isSome = true → lastSeen = w.channel)
      ∧ (if (loop.request baseCursor).isSome then { w with lastSeen := w.channel } else w)
        = { w with lastSeen := lastSeen } := by
    by_cases hrequest : (loop.request baseCursor).isSome = true
    · exact ⟨w.channel, h.seen hrun hstage, fun _ => rfl, if_pos hrequest⟩
    · exact ⟨w.lastSeen, h, fun hsome => absurd hsome hrequest, if_neg hrequest⟩
  obtain ⟨lastSeen, hinv, hchannel, heq⟩ := hseen
  obtain ⟨-, -, hsound⟩ := hinv.runs run hrun
  rw [hstage] at hsound
  obtain ⟨predecessor, mark, hcaught, hsaved, hcut, hbase, hloop⟩ := hsound
  unfold InitWorld.forwardPage
  rw [heq]
  split
  · exact hinv.ended run
  · rename_i step hpage
    have hstep : StepSound w.channel predecessor mark step :=
      ForwardLoop.page_sound h.timeline hbase hloop hhonest hcut hpage
    refine hinv.proceed hrun ⟨predecessor, mark, hcaught, hsaved,
      ⟨hstep.kept, hstep.sorted, hstep.gapless⟩, hstep.state, fun hnil => hnil,
      fun hnone hnil => ?_⟩
    obtain ⟨hsome, htop⟩ := ForwardLoop.page_seen h.timeline hbase hloop hhonest hpage hnone hnil
    exact RouteProgress.Settled.of_channel hcaught (hchannel hsome) htop
  · rename_i next hpage
    have hnext : next.Sound w.channel mark baseCursor :=
      ForwardLoop.page_sound h.timeline hbase hloop hhonest hcut hpage
    exact hinv.proceed hrun ⟨predecessor, mark, hcaught, hsaved, hcut, hbase, hnext⟩

omit h in
/-- The state a job leaves, or none: nothing else of the progress is in the forward state. -/
theorem withForward {forward : Option ForwardState} {predecessor mark : Int}
    (hcaught : w.progress.CaughtUp run.boundary predecessor mark) (hcopy : CopyOf w.row copy)
    (hforward : ∀ state ∈ forward, state.Sound w.channel predecessor mark []) :
    RouteProgress.CaughtUp ⟨copy.route.cursorState,
        { copy.initialization with initializationForward := forward }, w.channel, w.dispatches,
        w.lastSeen⟩ run.boundary predecessor mark :=
  ⟨(congrArg InitializationState.activationMessageId hcopy.2).trans hcaught.known,
    (congrArg CursorState.lastMessageId hcopy.1).trans hcaught.cursor, hcaught.cut, hcaught.le,
    hcaught.within, hcaught.covered, hcaught.live, hcaught.keys, hforward⟩

theorem afterCaptures (hrun : run ∈ w.runs.rows) {step : ForwardStep}
    (hstage : run.stage = .captures cycles saved step []) :
    InitInv C (w.afterCaptures run cycles saved step) := by
  obtain ⟨-, hcopy, hsound⟩ := h.runs run hrun
  have hworking := h.working run hrun
  rw [hstage] at hsound
  obtain ⟨predecessor, mark, hcaught, -, -, hstate, -, hsettled⟩ := hsound
  unfold InitWorld.afterCaptures
  split
  · rename_i state hsome
    have hleft : RouteProgress.CaughtUp ⟨run.copy.route.cursorState,
          { run.copy.initialization with initializationForward := some state }, w.channel,
          w.dispatches, w.lastSeen⟩ run.boundary predecessor mark := by
      refine withForward hcaught hcopy fun left hleft => ?_
      rw [← Option.some.inj hleft]
      exact hstate state hsome
    have hstatus : run.copy.route.cursorState.status ≠ some "ready" := by
      rw [hcopy.1]
      exact hworking
    exact h.commit hrun fun _ =>
      ⟨⟨.inr ⟨predecessor, mark, hleft⟩, fun hready => absurd hready hstatus⟩,
        fun _ hafter => (by cases hafter)⟩
  · rename_i hnone
    split
    · rename_i hnil
      exact h.proceed hrun ⟨predecessor, mark, hcaught, hsettled hnone hnil⟩
    · split
      · exact h.proceed hrun ⟨predecessor, mark, hcaught⟩
      · exact h.proceed hrun ⟨predecessor, mark, hcaught⟩

theorem clearForward (hrun : run ∈ w.runs.rows) (hstage : run.stage = .clearing cycles) :
    InitInv C (w.write run .clearForward (some (.catchUp cycles))) := by
  obtain ⟨-, hcopy, hsound⟩ := h.runs run hrun
  have hworking := h.working run hrun
  rw [hstage] at hsound
  obtain ⟨predecessor, mark, hcaught⟩ := hsound
  have hcleared : RouteProgress.CaughtUp
      ⟨run.copy.route.cursorState, { run.copy.initialization with initializationForward := none },
        w.channel, w.dispatches, w.lastSeen⟩ run.boundary predecessor mark :=
    withForward hcaught hcopy fun _ hnone => (by cases hnone)
  have hstatus : run.copy.route.cursorState.status ≠ some "ready" := by
    rw [hcopy.1]
    exact hworking
  refine h.commit hrun fun _ =>
    ⟨⟨.inr ⟨predecessor, mark, hcleared⟩, fun hready => absurd hready hstatus⟩, fun stage hafter => ?_⟩
  rw [← Option.some.inj hafter]
  exact ⟨hstatus, predecessor, mark, hcleared⟩

theorem finalize (hrun : run ∈ w.runs.rows) (hstage : run.stage = .finalizing) (now : Datetime) :
    InitInv C (w.write run (.finalize now) none) := by
  obtain ⟨-, hcopy, hsound⟩ := h.runs run hrun
  rw [hstage] at hsound
  obtain ⟨predecessor, mark, hcaught, hsettled⟩ := hsound
  refine h.commit hrun fun _ => ⟨?_, fun _ hafter => (by cases hafter)⟩
  have hfinal : RouteProgress.CaughtUp
      ⟨((RouteWrite.finalize now).apply run.copy .initializeRoute).route.cursorState,
        ((RouteWrite.finalize now).apply run.copy .initializeRoute).initialization, w.channel,
        w.dispatches, w.lastSeen⟩ run.boundary predecessor mark :=
    ⟨(congrArg InitializationState.activationMessageId hcopy.2).trans hcaught.known,
      (congrArg CursorState.lastMessageId hcopy.1).trans hcaught.cursor, hcaught.cut, hcaught.le,
      hcaught.within, hcaught.covered, hcaught.live, hcaught.keys, fun _ hnone => (by cases hnone)⟩
  exact ⟨.inr ⟨predecessor, mark, hfinal⟩,
    fun _ => ⟨predecessor, mark, hfinal, hsettled.seen, hsettled.dispatches⟩⟩

/-- **One step of a job keeps the invariant where its pages are honest.** -/
theorem advance (hrun : run ∈ w.runs.rows) (hhonest : w.Honest C run) (now : Datetime) :
    InitInv C (w.advance C run now) := by
  unfold InitWorld.Honest at hhonest
  unfold InitWorld.advance
  split
  · rename_i scan hstage
    exact h.persistScan hrun hstage
  · rename_i pages scan hstage
    rw [hstage] at hhonest
    exact h.scanPage hrun hstage hhonest
  · rename_i predecessor envelopes hstage
    exact h.persistBoundary hrun hstage
  · rename_i hstage
    obtain ⟨-, -, hsound⟩ := h.runs run hrun
    rw [hstage] at hsound
    obtain ⟨predecessor, mark, hcaught, -⟩ := hsound
    exact h.proceed hrun ⟨predecessor, mark, hcaught⟩
  · rename_i envelope envelopes hstage
    exact h.initialCapture hrun hstage
  · exact h.catchUpCycle hrun
  · rename_i cycles hstage
    split
    · exact h.ended run
    rename_i stage hok
    exact h.beginForward hrun hstage hok
  · rename_i cycles saved baseCursor loop hstage
    rw [hstage] at hhonest
    exact h.forwardPage hrun hstage hhonest
  · rename_i cycles saved step hstage
    exact h.afterCaptures hrun hstage
  · rename_i cycles saved step envelope envelopes hstage
    exact h.catchUpCapture hrun hstage
  · rename_i cycles hstage
    exact h.clearForward hrun hstage
  · rename_i hstage
    exact h.finalize hrun hstage now

end InitInv

/-! ## Everything else that happens -/

section Arrive

variable {post : TelegramEnvelope} (htimeline : Timeline w.channel) (hpost : w.Publishable C post)
  (horder : ∀ other ∈ w.channel, ∀ id ∈ other.messageIds, ∀ new ∈ post.messageIds, id < new)

include htimeline hpost horder

theorem above_of_orderly : ∀ other ∈ w.channel, other.anchorMessageId < post.anchorMessageId :=
  fun other hother => horder other hother _ (max?_mem (htimeline.anchor other hother)) _
    (max?_mem hpost.anchor)

theorem timeline_arrive : Timeline (post :: w.channel) := by
  have habove := above_of_orderly htimeline hpost horder
  have hdates : ∀ other ∈ w.channel, other.publishedAt ≤ post.publishedAt := by
    intro other hother
    cases hid : post.messageIds.min? with
    | none =>
      have hmem := max?_mem hpost.anchor
      rw [min?_eq_none_iff.mp hid] at hmem
      cases hmem
    | some id =>
      cases hfirst : other.messageIds.min? with
      | none =>
        have hmem := max?_mem (htimeline.anchor other hother)
        rw [min?_eq_none_iff.mp hfirst] at hmem
        cases hmem
      | some first =>
        have hlt := horder other hother first (min?_mem hfirst) id (min?_mem hid)
        have hdate := hpost.dates other hother id hid first hfirst
        rw [if_pos hlt] at hdate
        exact hdate
  refine ⟨fun other hother => ?_, fun other hother => ?_, fun first hfirst second hsecond hlt => ?_,
    fun first hfirst second hsecond heq => ?_, fun first hfirst second hsecond heq => ?_⟩
  · rcases mem_cons.mp hother with heq | hother
    · rw [heq]
      exact hpost.anchor
    · exact htimeline.anchor other hother
  · rcases mem_cons.mp hother with heq | hother
    · rw [heq]
      exact hpost.positive _ (max?_mem hpost.anchor)
    · exact htimeline.positive other hother
  · rcases mem_cons.mp hfirst with hnew | hfirst
    · rcases mem_cons.mp hsecond with hnew' | hsecond
      · rw [hnew, hnew'] at hlt
        exact absurd hlt (Int.lt_irrefl _)
      · rw [hnew] at hlt
        exact absurd hlt (Int.not_lt.mpr (Int.le_of_lt (habove second hsecond)))
    · rcases mem_cons.mp hsecond with hnew' | hsecond
      · rw [hnew']
        exact hdates first hfirst
      · exact htimeline.dates first hfirst second hsecond hlt
  · rcases mem_cons.mp hfirst with hnew | hfirst
    · rcases mem_cons.mp hsecond with hnew' | hsecond
      · rw [hnew, hnew']
      rw [hnew] at heq
      have hlt := habove second hsecond
      omega
    · rcases mem_cons.mp hsecond with hnew' | hsecond
      · rw [hnew'] at heq
        have hlt := habove first hfirst
        omega
      · exact htimeline.distinct first hfirst second hsecond heq
  · rcases mem_cons.mp hfirst with hnew | hfirst
    · rcases mem_cons.mp hsecond with hnew' | hsecond
      · rw [hnew, hnew']
      rw [hnew] at heq
      exact absurd heq.symm (hpost.fresh second hsecond).1
    · rcases mem_cons.mp hsecond with hnew' | hsecond
      · rw [hnew'] at heq
        exact absurd heq (hpost.fresh first hfirst).1
      · exact htimeline.keys first hfirst second hsecond heq

end Arrive

namespace InitInv

variable (h : InitInv C w)

include h

theorem arrive {post : TelegramEnvelope} (hpost : w.Publishable C post)
    (horder : ∀ other ∈ w.channel, ∀ id ∈ other.messageIds, ∀ new ∈ post.messageIds, id < new) :
    InitInv C { w with channel := post :: w.channel } := by
  have harrives : ∀ boundary, w.boundary C = some boundary → Arrives w.channel boundary post :=
    fun boundary hboundary => ⟨hpost.positive _ (max?_mem hpost.anchor),
      above_of_orderly h.timeline hpost horder, hpost.published boundary hboundary⟩
  refine ⟨timeline_arrive h.timeline hpost horder, h.idle, fun boundary hboundary => ?_, h.single,
    h.working, fun run hrun => ?_⟩
  · exact (h.sound boundary hboundary).arrive (harrives boundary hboundary)
  obtain ⟨hboundary, hcopy, hsound⟩ := h.runs run hrun
  exact ⟨hboundary, hcopy, hsound.arrive (harrives run.boundary hboundary)⟩

theorem activate (henabled : w.row.activation = none) (requestedAt : String) :
    InitInv C (w.activated requestedAt) := by
  have hnone : w.boundary C = none := by
    rw [InitWorld.boundary, henabled]
    rfl
  obtain ⟨hruns, hdispatches, -, -⟩ := h.idle hnone
  have hnoRun : ∀ run, run ∉ (w.activated requestedAt).runs.rows := by
    intro run hrun
    have hrun' : run ∈ w.runs.rows := hrun
    rw [hruns] at hrun'
    exact absurd hrun' not_mem_nil
  have hstatus : some "initializing" ≠ some "ready" := by decide
  refine ⟨h.timeline, fun _ => ⟨hruns, hdispatches, rfl, hstatus⟩, fun boundary _ => ?_,
    fun run hrun => absurd hrun (hnoRun run), fun run hrun => absurd hrun (hnoRun run),
    fun run hrun => absurd hrun (hnoRun run)⟩
  exact ⟨.inl ⟨rfl, rfl, hdispatches, ScanInv.new⟩, fun hready => absurd hready hstatus⟩

theorem request (row : RouteRow) (hcursor : row.route.cursorState = w.row.route.cursorState)
    (hinit : row.initialization = w.row.initialization) (globalPause : Option Bool) :
    InitInv C { w with row := row, globalPause := globalPause } := by
  have hboundary : InitWorld.boundary C { w with row := row, globalPause := globalPause }
      = w.boundary C := by
    unfold InitWorld.boundary RouteRow.activation
    rw [hcursor]
  have hprogress : InitWorld.progress { w with row := row, globalPause := globalPause }
      = w.progress := by
    unfold InitWorld.progress
    rw [hcursor, hinit]
  refine ⟨h.timeline, fun hnone => ?_, fun boundary hmem => ?_, h.single, fun run hrun => ?_,
    fun run hrun => ?_⟩
  · rw [hboundary] at hnone
    obtain ⟨hruns, hdispatches, hcleared, hstatus⟩ := h.idle hnone
    exact ⟨hruns, hdispatches, hinit.trans hcleared, hcursor ▸ hstatus⟩
  · rw [hboundary] at hmem
    rw [hprogress]
    exact h.sound boundary hmem
  · exact hcursor ▸ h.working run hrun
  obtain ⟨hsome, hcopy, hsound⟩ := h.runs run hrun
  rw [hboundary, hprogress]
  exact ⟨hsome, ⟨hcopy.1.trans hcursor.symm, hcopy.2.trans hinit.symm⟩, hsound⟩

end InitInv

theorem initializationState_some {payloadActivation : Option Datetime} {requestedRaw : String}
    {requestedAt : Datetime} {expectedStatus : String}
    (h : w.initializationState C payloadActivation
      = some (requestedRaw, requestedAt, expectedStatus)) :
    w.boundary C = some (wholeSecond requestedAt)
      ∧ w.row.route.cursorState.status ≠ some "ready" := by
  unfold InitWorld.initializationState at h
  split at h
  · cases h
  split at h
  · cases h
  rename_i raw hraw
  split at h
  · cases h
  rename_i instant hinstant
  split at h
  · cases h
  have hboundary : w.boundary C = some (wholeSecond instant) := by
    rw [InitWorld.boundary, hraw, bind_some, hinstant, map_some]
  split at h
  · rename_i hstatus
    cases h
    exact ⟨hboundary, by rw [hstatus]; decide⟩
  · rename_i hstatus
    cases h
    exact ⟨hboundary, by rw [hstatus]; decide⟩
  · cases h

namespace InitInv

variable (h : InitInv C w)

include h

theorem start (hidle : w.runs.rows = []) (id : UUID) (payloadActivation : Option Datetime) :
    InitInv C (w.next C (.start id payloadActivation)) := by
  simp only [InitWorld.next]
  split
  · exact h
  rename_i requestedRaw requestedAt expectedStatus hstate
  obtain ⟨hboundary, hstatus⟩ := initializationState_some hstate
  have hmem : ∀ other ∈ (w.runs.insert
      (w.started C id requestedRaw requestedAt expectedStatus)).rows,
      other = w.started C id requestedRaw requestedAt expectedStatus := by
    intro other hother
    rcases mem_insert hother with heq | hold
    · exact heq
    rw [hidle] at hold
    cases hold
  refine ⟨h.timeline, fun hnone => ?_, h.sound, fun first hfirst other hother => ?_,
    fun _ _ => hstatus, fun other hother => ?_⟩
  · have hnone' : w.boundary C = none := hnone
    rw [hboundary] at hnone'
    cases hnone'
  · rw [hmem first hfirst, hmem other hother]
  rw [hmem other hother]
  refine ⟨hboundary, ⟨rfl, rfl⟩, ?_⟩
  have hphase := (h.sound _ hboundary).phase
  change (w.firstStage C).Sound w.progress (wholeSecond requestedAt)
  unfold InitWorld.firstStage
  split
  · rename_i hknown
    rcases hphase with hsearching | ⟨predecessor, mark, hcaught⟩
    · exact ⟨hsearching, hsearching.scan⟩
    have hsome : w.row.initialization.activationMessageId = some predecessor := hcaught.known
    rw [hknown] at hsome
    cases hsome
  · rename_i hknown
    rcases hphase with hsearching | hcaught
    · have hnone : w.row.initialization.activationMessageId = none := hsearching.unknown
      rw [hknown] at hnone
      cases hnone
    · exact hcaught

/-- **Every orderly step keeps the invariant.** -/
theorem next {event : InitEvent} (horderly : w.Orderly C event) (henabled : w.Enabled C event) :
    InitInv C (w.next C event) := by
  cases event with
  | arrive post => exact h.arrive henabled horderly
  | activate requestedAt => exact h.activate henabled requestedAt
  | pause now =>
    exact h.request { w.row with route := { w.row.route with pausedAt := some now } } rfl rfl
      w.globalPause
  | resume =>
    exact h.request { w.row with route := { w.row.route with pausedAt := none } } rfl rfl
      w.globalPause
  | control globalPause => exact h.request w.row rfl rfl (some globalPause)
  | start id payloadActivation => exact h.start horderly id payloadActivation
  | advance id now =>
    simp only [InitWorld.next]
    split
    · exact h
    rename_i run hlookup
    exact h.advance (mem_of_lookup hlookup) (horderly run hlookup) now
  | stop id =>
    exact h.erased id

end InitInv

/-! ## The result -/

theorem InitInv.init (h : (initSystem C).init w) : InitInv C w := by
  obtain ⟨hcreated, hchannel, hdispatches, hruns, -⟩ := h
  have hnoPost : ∀ post, post ∉ w.channel := by
    intro post hpost
    rw [hchannel] at hpost
    cases hpost
  have hnoRun : ∀ run, run ∉ w.runs.rows := by
    intro run hrun
    rw [hruns] at hrun
    cases hrun
  have hnone : w.boundary C = none := by
    rw [InitWorld.boundary, RouteRow.activation, hcreated.cursorState]
    rfl
  refine ⟨⟨fun post hpost => absurd hpost (hnoPost post), fun post hpost => absurd hpost (hnoPost post),
    fun post hpost => absurd hpost (hnoPost post), fun post hpost => absurd hpost (hnoPost post),
    fun post hpost => absurd hpost (hnoPost post)⟩,
    fun _ => ⟨hruns, hdispatches, hcreated.initialization, ?_⟩, fun boundary hmem => ?_,
    fun run hrun => absurd hrun (hnoRun run), fun run hrun => absurd hrun (hnoRun run),
    fun run hrun => absurd hrun (hnoRun run)⟩
  · rw [hcreated.cursorState]
    decide
  · rw [hnone] at hmem
    cases hmem

theorem initInv_reachable (h : ((initSystem C).restrict (InitWorld.Orderly C)).Reachable w) :
    InitInv C w := by
  induction h with
  | init hinit => exact InitInv.init hinit
  | tail _ hstep ih =>
    obtain ⟨horderly, henabled, rfl⟩ := hstep
    exact ih.next horderly henabled

/--
**A ready route has captured exactly from the second of its activation.**

Where every post comes after those there are, jobs do not overlap and pages are honest:
whatever the budget, wherever jobs stop, and whatever is published in between, a route that
becomes ready has captured, each post once, what its last page could see from then on.
-/
theorem captured_from_boundary (C : InitConfig) (w : InitWorld)
    (h : ((initSystem C).restrict (InitWorld.Orderly C)).Reachable w)
    (hready : w.row.route.cursorState.status = some "ready") : w.CapturedExactly C := by
  have hinv := initInv_reachable h
  cases hboundary : w.boundary C with
  | none => exact absurd hready (hinv.idle hboundary).2.2.2
  | some boundary =>
    obtain ⟨predecessor, mark, hcaught, hsettled⟩ := (hinv.sound boundary hboundary).ready hready
    have hlive : ∀ dispatch ∈ w.dispatches, dispatch.dispatchKind = .live :=
      fun dispatch hdispatch => (hcaught.live dispatch hdispatch).1
    have hall : w.captured = w.dispatches.map AutomationDispatch.envelope := by
      rw [InitWorld.captured, filter_eq_self.mpr]
      intro dispatch hdispatch
      exact decide_eq_true (hlive dispatch hdispatch)
    refine ⟨?_, boundary, hboundary, fun post => ?_⟩
    · rw [hall]
      -- Two dispatches of one envelope would have one source key.
      have hkeys : (w.dispatches.map AutomationDispatch.sourceKey).Nodup := hcaught.keys
      refine List.Nodup.of_map TelegramEnvelope.sourceKey ?_
      rw [List.map_map, List.map_congr_left (g := AutomationDispatch.sourceKey)]
      · exact hkeys
      intro dispatch hdispatch
      exact (hcaught.live dispatch hdispatch).2.1.symm
    · rw [hall, List.mem_map]
      exact hcaught.captured hsettled post

/-! ## A public channel -/

def requestedRaw : String := "2026-07-11T09:00:00.817231+00:00"

/-- A route over the public page, with jobs of one page. -/
def publicConfig : InitConfig where
  pageBudget := 1
  digest := fun _ => ""
  fromisoformat := fun raw => if raw = requestedRaw then some 1783760400817231 else none
  fetch := PublicHtml.fetch

/-- The message `id`, so many seconds after the boundary. -/
def publicPost (key : String) (id second : Int) : TelegramEnvelope :=
  ⟨key, "newscraft", id, [id], "", none, [], 1783760400000000 + second * 1000000, []⟩

def createdRoute : InitWorld where
  row :=
    { route :=
        { id := 1
          enabled := false
          pausedAt := none
          pollIntervalSeconds := 300
          cursorState := ⟨some "not_initialized", none, none, [], none⟩
          lastPolledAt := none
          nextPollAt := none }
      initialization := .cleared }
  globalPause := none
  channel := []
  dispatches := []
  runs := .empty
  lastSeen := []

theorem createdRoute_init (C : InitConfig) : (initSystem C).init createdRoute :=
  ⟨⟨rfl, rfl, rfl, rfl⟩, rfl, rfl, rfl, rfl⟩

def initJob (steps : Nat) : List InitEvent :=
  .start 1 none :: List.replicate steps (.advance 1 1783760500000000)

/-- A worker dies once the boundary is written, and a post comes while the next one runs. -/
def crashedRun : List InitEvent :=
  [.arrive (publicPost "1" 1 (-1)), .activate requestedRaw, .arrive (publicPost "2" 2 0)]
    ++ initJob 2 ++ [.stop 1] ++ initJob 3 ++ [.arrive (publicPost "3" 3 1)]
    ++ List.replicate 2 (.advance 1 1783760500000000) ++ initJob 5 ++ initJob 4

/-- Both posts from the boundary on are captured. -/
theorem crashed_captured :
    ∃ w, ((initSystem publicConfig).restrict (InitWorld.Orderly publicConfig)).Reachable w
      ∧ w.captured = [publicPost "2" 2 0, publicPost "3" 3 1]
      ∧ w.CapturedExactly publicConfig := by
  have hstep : ∀ w event,
      InitWorld.Orderly publicConfig w event ∧ InitWorld.Enabled publicConfig w event →
        ((initSystem publicConfig).restrict (InitWorld.Orderly publicConfig)).step w event
          (InitWorld.next publicConfig w event) :=
    fun _ _ hok => ⟨hok.1, hok.2, rfl⟩
  have hsteps : System.Along
      (fun w event => InitWorld.Orderly publicConfig w event ∧ InitWorld.Enabled publicConfig w event)
      (InitWorld.next publicConfig) createdRoute crashedRun := by decide +kernel
  have hreachable : ((initSystem publicConfig).restrict (InitWorld.Orderly publicConfig)).Reachable
        (crashedRun.foldl (InitWorld.next publicConfig) createdRoute) :=
    System.reachable_along hstep (.init (createdRoute_init publicConfig)) hsteps
  refine ⟨_, hreachable, by decide +kernel,
    captured_from_boundary publicConfig _ hreachable (by decide +kernel)⟩

def burst : List TelegramEnvelope :=
  [publicPost "2" 2 2, publicPost "3" 3 3, publicPost "4" 4 4, publicPost "5" 5 5,
    publicPost "6" 6 6, publicPost "7" 7 7, publicPost "8" 8 8, publicPost "9" 9 9,
    publicPost "10" 10 10, publicPost "11" 11 11, publicPost "12" 12 12, publicPost "13" 13 13,
    publicPost "14" 14 14, publicPost "15" 15 15, publicPost "16" 16 16, publicPost "17" 17 17,
    publicPost "18" 18 18, publicPost "19" 19 19, publicPost "20" 20 20, publicPost "21" 21 21,
    publicPost "22" 22 22]

/-- Its first page has the posts from 3 on. By the time that is fetched again one more post has
come, and it begins at 4. -/
def burstRun : List InitEvent :=
  [.arrive (publicPost "1" 1 (-1)), .activate requestedRaw] ++ initJob 3 ++ burst.map .arrive
    ++ List.replicate 5 (.advance 1 1783760500000000) ++ [.arrive (publicPost "23" 23 23)]
    ++ initJob 6 ++ initJob 30 ++ initJob 6 ++ initJob 5

/-- The route is ready, the last page saw the post 3, and it was never captured. -/
theorem burst_loses_post : ∃ w, (initSystem publicConfig).Reachable w
      ∧ w.row.route.cursorState.status = some "ready"
      ∧ publicPost "3" 3 3 ∈ w.lastSeen ∧ publicPost "3" 3 3 ∉ w.captured
      ∧ ¬ w.CapturedExactly publicConfig := by
  have hstep : ∀ w event, InitWorld.Enabled publicConfig w event →
      (initSystem publicConfig).step w event (InitWorld.next publicConfig w event) :=
    fun _ _ henabled => ⟨henabled, rfl⟩
  have hsteps : System.Along (InitWorld.Enabled publicConfig) (InitWorld.next publicConfig)
      createdRoute burstRun := by decide +kernel
  have hreachable : (initSystem publicConfig).Reachable
      (burstRun.foldl (InitWorld.next publicConfig) createdRoute) :=
    System.reachable_along hstep (.init (createdRoute_init publicConfig)) hsteps
  have hend : (burstRun.foldl (InitWorld.next publicConfig) createdRoute).row.route.cursorState.status
        = some "ready"
      ∧ (burstRun.foldl (InitWorld.next publicConfig) createdRoute).boundary publicConfig
        = some 1783760400000000
      ∧ publicPost "3" 3 3 ∈ (burstRun.foldl (InitWorld.next publicConfig) createdRoute).lastSeen
      ∧ publicPost "3" 3 3
        ∉ (burstRun.foldl (InitWorld.next publicConfig) createdRoute).captured := by decide +kernel
  obtain ⟨hready, hboundary, hseen, hlost⟩ := hend
  refine ⟨_, hreachable, hready, hseen, hlost, fun hexact => ?_⟩
  obtain ⟨-, boundary, hsome, hiff⟩ := hexact
  rw [hboundary] at hsome
  rw [← Option.some.inj hsome] at hiff
  exact hlost ((hiff _).mpr ⟨hseen, by decide⟩)

end NewsCraft.Telegram.Initialization
