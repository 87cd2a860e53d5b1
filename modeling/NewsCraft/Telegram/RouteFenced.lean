import NewsCraft.Telegram.RouteFence

/-!
# When route changes fence jobs

Where the session's copy agrees with the row on what is checked, a write finds the route
enabled, unpaused and in the job's own activation, and the cursor stays the newest
activation's. Otherwise a write that the check lets through is one it was there to stop.
-/

namespace NewsCraft.Telegram.RouteFence

open Lib Table

variable {w : RouteWorld}

/-! ## The check -/

theorem validateLockedRoute_ok {route : AutomationRoute} {globalPause : Bool} {required : String}
    {activation : Option String}
    (h : validateLockedRoute route globalPause required activation = .ok none) :
    route.enabled = true ∧ route.pausedAt = none := by
  unfold validateLockedRoute at h
  split at h
  · cases h
  split at h
  · cases h
  split at h
  · cases h
  split at h
  · cases h
  split at h
  · cases h
  rename_i henabled _ _ hpaused
  refine ⟨by simpa using henabled, ?_⟩
  exact Option.not_isSome_iff_eq_none.mp hpaused

theorem activation_apply (row : RouteRow) (type : RouteJobType) (write : RouteWrite) :
    (write.apply row type).activation = row.activation := by
  cases write with
  | capture envelope sourceFingerprint kind => cases kind <;> rfl
  | forwardProgress state =>
    rw [RouteWrite.apply]
    by_cases htype : type = .initializeRoute
    · rw [if_pos htype]
      rfl
    · rw [if_neg htype]
      rfl
  | _ => rfl

theorem activation_flushed {row copy changed : RouteRow}
    (hchanged : changed.activation = copy.activation) (hcopy : copy.activation = row.activation) :
    (row.flushed copy changed).activation = row.activation := by
  have hwritten := written_cases (copy.route.cursorState, copy.initialization)
    (changed.route.cursorState, changed.initialization)
    (row.route.cursorState, row.initialization)
  unfold RouteRow.flushed RouteRow.activation
  rcases hwritten with ⟨hsame, -⟩ | ⟨hnew, -⟩
  · rw [hsame]
  rw [hnew]
  exact hchanged.trans hcopy

/-! ## What is required -/

namespace RouteWorld

/-- Every write found the route enabled, unpaused and in the job's activation. -/
structure Fenced (w : RouteWorld) : Prop where
  commits : ∀ commit ∈ w.commits, commit.row.route.enabled = true
    ∧ commit.row.route.pausedAt = none ∧ commit.row.activation = commit.activation
  cursor : w.row.activation = w.activations.head?

/-- What the check reads of the route is in the copy as it is in the row. -/
def Agrees (w : RouteWorld) (session : RouteSession) : Prop :=
  session.copy.route.enabled = w.row.route.enabled
    ∧ session.copy.route.pausedAt = w.row.route.pausedAt
    ∧ session.copy.activation = w.row.activation

/-- A write is made on a copy that agrees with the row. -/
def Current (w : RouteWorld) : RouteEvent → Prop
  | .write id _ => ∀ session ∈ w.sessions.lookup id, w.Agrees session
  | _ => True

instance (w : RouteWorld) (session : RouteSession) : Decidable (w.Agrees session) :=
  inferInstanceAs (Decidable (_ ∧ _ ∧ _))

instance (w : RouteWorld) (event : RouteEvent) : Decidable (w.Current event) :=
  match event with
  | .write id _ => inferInstanceAs (Decidable (∀ session ∈ w.sessions.lookup id, w.Agrees session))
  | .activate _ => inferInstanceAs (Decidable True)
  | .pause _ => inferInstanceAs (Decidable True)
  | .resume => inferInstanceAs (Decidable True)
  | .disable => inferInstanceAs (Decidable True)
  | .control _ => inferInstanceAs (Decidable True)
  | .load _ _ _ => inferInstanceAs (Decidable True)
  | .close _ => inferInstanceAs (Decidable True)

/-- What holds in every history of writes on copies that agree. -/
structure FenceInv (w : RouteWorld) : Prop where
  fenced : w.Fenced
  sessions : ∀ session ∈ w.sessions.rows, session.copy.activation = session.expectedActivation

theorem fenced_iff_agrees {session : RouteSession} {write : RouteWrite}
    (hpasses : w.Passes session write)
    (hsession : session.copy.activation = session.expectedActivation) :
    (w.row.route.enabled = true ∧ w.row.route.pausedAt = none
      ∧ w.row.activation = session.expectedActivation) ↔ w.Agrees session := by
  obtain ⟨henabled, hpaused⟩ := validateLockedRoute_ok hpasses
  rw [Agrees, henabled, hpaused, hsession]
  constructor
  · rintro ⟨hrow, hrowPaused, hactivation⟩
    exact ⟨hrow.symm, hrowPaused.symm, hactivation.symm⟩
  · rintro ⟨hrow, hrowPaused, hactivation⟩
    exact ⟨hrow.symm, hrowPaused.symm, hactivation.symm⟩

theorem FenceInv.request (h : FenceInv w) (row : RouteRow)
    (hrow : row.activation = w.row.activation) (globalPause : Option Bool) :
    FenceInv { w with row := row, globalPause := globalPause } :=
  ⟨⟨h.fenced.commits, hrow.trans h.fenced.cursor⟩, h.sessions⟩

theorem FenceInv.activated (h : FenceInv w) (requestedAt : String) :
    FenceInv (w.activated requestedAt) := by
  unfold RouteWorld.activated
  split
  · exact h
  · exact ⟨⟨h.fenced.commits, rfl⟩, h.sessions⟩

theorem FenceInv.load (h : FenceInv w) (id : UUID) (type : RouteJobType) :
    FenceInv { w with sessions := w.sessions.insert (w.loaded id type) } := by
  refine ⟨⟨h.fenced.commits, h.fenced.cursor⟩, ?_⟩
  intro session hsession
  rcases mem_insert hsession with heq | hsession
  · rw [heq]
    rfl
  · exact h.sessions session hsession

theorem FenceInv.close (h : FenceInv w) (id : UUID) :
    FenceInv { w with sessions := w.sessions.erase id } := by
  refine ⟨⟨h.fenced.commits, h.fenced.cursor⟩, ?_⟩
  intro session hsession
  exact h.sessions session (mem_erase.mp hsession).1

theorem FenceInv.committed (h : FenceInv w) {session : RouteSession} {write : RouteWrite}
    (hsession : session ∈ w.sessions.rows) (hpasses : w.Passes session write)
    (hagrees : w.Agrees session) : FenceInv (w.committed session write) := by
  have hexpected := h.sessions session hsession
  have hchanged := activation_apply session.copy session.type write
  refine ⟨⟨?_, ?_⟩, ?_⟩
  · intro commit hcommit
    rcases List.mem_cons.mp hcommit with heq | hcommit
    · rw [heq]
      exact (fenced_iff_agrees hpasses hexpected).mpr hagrees
    · exact h.fenced.commits commit hcommit
  · exact (activation_flushed hchanged hagrees.2.2).trans h.fenced.cursor
  intro found hfound
  rcases mem_put hfound with ⟨heq, -⟩ | ⟨hfound, -⟩
  · rw [heq]
    exact hchanged.trans hexpected
  · exact h.sessions found hfound

theorem FenceInv.next (h : FenceInv w) {event : RouteEvent} (henabled : w.Enabled event)
    (hcurrent : w.Current event) : FenceInv (w.next event) := by
  cases event with
  | activate requestedAt => exact h.activated requestedAt
  | pause now => exact h.request (w.next (.pause now)).row rfl w.globalPause
  | resume => exact h.request (w.next .resume).row rfl w.globalPause
  | disable => exact h.request (w.next .disable).row rfl w.globalPause
  | control globalPause => exact h.request w.row rfl (some globalPause)
  | load id type payloadActivation => exact h.load id type
  | close id => exact h.close id
  | write id write =>
    obtain ⟨session, hsession, -, hpasses⟩ := henabled
    have hagrees := hcurrent session hsession
    have hlookup : w.sessions.lookup id = some session := hsession
    simp only [RouteWorld.next, hlookup]
    exact h.committed (mem_of_lookup hlookup) hpasses hagrees

theorem fenceInv_init (h : routeSystem.init w) : FenceInv w := by
  obtain ⟨hrow, hsessions, hactivations, hcommits⟩ := h
  refine ⟨⟨?_, ?_⟩, ?_⟩
  · rw [hcommits]
    intro commit hcommit
    cases hcommit
  · rw [hactivations, RouteRow.activation, hrow.cursorState, List.head?_nil]
  rw [hsessions]
  intro session hsession
  cases hsession

theorem fenceInv_reachable (hreach : (routeSystem.restrict Current).Reachable w) : FenceInv w := by
  induction hreach with
  | init hinit => exact fenceInv_init hinit
  | tail _ hstep ih =>
    obtain ⟨hcurrent, henabled, hnext⟩ := hstep
    rw [hnext]
    exact ih.next henabled hcurrent

/-- **Where jobs write on copies that agree with the route, its changes fence them.** -/
theorem route_changes_fence (hreach : (routeSystem.restrict Current).Reachable w) : w.Fenced :=
  (fenceInv_reachable hreach).fenced

/-! ## Runs -/

def created : RouteWorld where
  row :=
    { route := ⟨1, false, none, 60, ⟨some "not_initialized", none, none, [], none⟩, none, none⟩
      initialization := .cleared }
  globalPause := none
  sessions := .empty
  activations := []
  commits := []

theorem created_init : routeSystem.init created :=
  ⟨⟨rfl, rfl, rfl, rfl⟩, rfl, rfl, rfl⟩

/-- A route whose channel is empty is activated and initialized. -/
def madeReady : List RouteEvent :=
  [.activate "first", .load 11 .initializeRoute (some "first"),
    .write 11 (.activationBoundary 0 none), .write 11 (.finalize 1), .close 11]

def post : TelegramEnvelope := ⟨"1", "", 1, [1], "", none, [], 2, []⟩

def polling : List RouteEvent := madeReady ++ [.load 12 .poll none]

theorem poll_fenced :
    ∃ w, (routeSystem.restrict Current).Reachable w ∧ w.commits.length = 4 ∧ w.Fenced := by
  let events := polling ++ [.write 12 (.capture post "" .live), .write 12 (.finishPoll 3), .pause 4]
  have hsteps : System.Along (fun w event => w.Current event ∧ w.Enabled event) next created
      events := by decide +kernel
  have hstep : ∀ w event, (w.Current event ∧ w.Enabled event) →
      (routeSystem.restrict Current).step w event (w.next event) :=
    fun _ _ hok => ⟨hok.1, hok.2, rfl⟩
  have hreach := System.reachable_along hstep (.init created_init) hsteps
  exact ⟨_, hreach, by decide +kernel, route_changes_fence hreach⟩

/-- A poll captures after the pause, and writes its own cursor back after an activation. -/
theorem poll_passes_fence :
    (∃ w, routeSystem.Reachable w ∧ ∃ commit ∈ w.commits, commit.row.route.pausedAt ≠ none)
      ∧ ∃ w, routeSystem.Reachable w ∧ w.activations.head? = some "second"
        ∧ w.row.activation = some "first" := by
  have hstep : ∀ w event, w.Enabled event → routeSystem.step w event (w.next event) :=
    fun _ _ hok => ⟨hok, rfl⟩
  constructor
  · have hsteps : System.Along Enabled next created
        (polling ++ [.pause 3, .write 12 (.capture post "" .live)]) := by decide +kernel
    exact ⟨_, System.reachable_along hstep (.init created_init) hsteps, by decide +kernel⟩
  · have hsteps : System.Along Enabled next created
        (polling ++ [.activate "second", .write 12 (.capture post "" .live)]) := by decide +kernel
    exact ⟨_, System.reachable_along hstep (.init created_init) hsteps, by decide +kernel⟩

end RouteWorld

end NewsCraft.Telegram.RouteFence
