import NewsCraft.SourceCollections.CycleSystem

/-!
# A subscription that was told to stop

A stop leaves a subscription that no tick finds due. A handler that read the row before does
not know of it: its last update says when the next cycle is, and leaves the status alone
because its copy of that did not change, so the scheduler starts the subscription again.
Where no handler renews a subscription from such a copy, a stop is kept.
-/

namespace NewsCraft.SourceCollections

open Lib Jobs Table List Option

namespace Subscription

/-! ## Rows that are not due again -/

def Halted (row : Subscription) : Prop :=
  row.status = .stopped ∨ row.status = .error ∨ (row.status = .stopping ∧ row.nextCycleAt = none)

def Going (row : Subscription) : Prop :=
  (row.status = .starting ∨ row.status = .running) ∧ row.nextCycleAt.isSome

variable {row : Subscription}

theorem not_due_of_halted (h : row.Halted) (now : Datetime) : CycleDb.due row now = false := by
  unfold CycleDb.due
  rcases h with hstatus | hstatus | ⟨hstatus, hnext⟩
  · rw [hstatus]
    rfl
  · rw [hstatus]
    rfl
  · rw [hnext, any_none, Bool.and_false]

theorem going_of_due (hrow : row.Halted ∨ row.Going) {now : Datetime}
    (hdue : CycleDb.due row now = true) : row.Going := by
  rcases hrow with hhalted | hgoing
  · rw [not_due_of_halted hhalted] at hdue
    cases hdue
  · exact hgoing

theorem Halted.of_eq {row' : Subscription} (h : row.Halted) (hstatus : row'.status = row.status)
    (hnext : row'.nextCycleAt = row.nextCycleAt) : row'.Halted := by
  unfold Halted
  rw [hstatus, hnext]
  exact h

theorem Going.of_eq {row' : Subscription} (h : row.Going) (hstatus : row'.status = row.status)
    (hnext : row'.nextCycleAt = row.nextCycleAt) : row'.Going := by
  unfold Going
  rw [hstatus, hnext]
  exact h

/-! ## What is written over a row -/

/-- The copy knows of a stop only if the row does. -/
structure Behind (copy row : Subscription) : Prop where
  known : copy.Halted ∨ copy.Going
  halted : copy.Halted → row.Halted

theorem behind_refl (h : row.Halted ∨ row.Going) : Behind row row :=
  ⟨h, fun hhalted => hhalted⟩

variable {copy : Subscription}

theorem Going.not_ended (h : copy.Going) :
    copy.status ≠ .stopping ∧ copy.status ≠ .stopped ∧ copy.status ≠ .error := by
  rcases h.1 with hstatus | hstatus
  · rw [hstatus]
    decide
  · rw [hstatus]
    decide

theorem halted_of_stop {changed : Subscription} (h : Behind copy row)
    (hnext : changed.nextCycleAt = none)
    (hstatus : changed.status = .stopped ∨ changed.status = .stopping ∧ ¬ (copy.status = .stopped ∨
      copy.status = .error)) : (flush copy changed row).Halted := by
  have hnone : row.nextCycleAt = none → (flush copy changed row).nextCycleAt = none := by
    intro hrow
    rcases written_cases copy.nextCycleAt changed.nextCycleAt row.nextCycleAt with
      ⟨hsame, -⟩ | ⟨hnew, -⟩
    · exact hsame.trans hrow
    · exact hnew.trans hnext
  rcases written_cases copy.status changed.status row.status with ⟨hsame, hloaded⟩ | ⟨hnew, hne⟩
  · -- The copy was stopping or stopped already, and so the row was told to stop.
    have hcopy : copy.Halted := by
      rcases h.known with hhalted | hgoing
      · exact hhalted
      obtain ⟨hstopping, hstopped, -⟩ := hgoing.not_ended
      rcases hstatus with hc | ⟨hc, -⟩
      · exact absurd (hloaded.symm.trans hc) hstopped
      · exact absurd (hloaded.symm.trans hc) hstopping
    rcases h.halted hcopy with hrow | hrow | ⟨hrow, hrowNext⟩
    · exact .inl (hsame.trans hrow)
    · exact .inr (.inl (hsame.trans hrow))
    · exact .inr (.inr ⟨hsame.trans hrow, hnone hrowNext⟩)
  · rcases hstatus with hc | ⟨hc, hended⟩
    · exact .inl (hnew.trans hc)
    have hgoing : copy.Going := by
      rcases h.known with (hhalted | hhalted | ⟨hhalted, -⟩) | hgoing
      · exact absurd (.inl hhalted) hended
      · exact absurd (.inr hhalted) hended
      · exact absurd (hc.trans hhalted.symm) hne
      · exact hgoing
    have hwritten : changed.nextCycleAt ≠ copy.nextCycleAt := by
      intro heq
      have hsome := hgoing.2
      rw [← heq, hnext] at hsome
      cases hsome
    refine .inr (.inr ⟨hnew.trans hc, ?_⟩)
    exact (written_of_ne hwritten row.nextCycleAt).trans hnext

def Renewable (copy row : Subscription) : Prop :=
  row.status ≠ .stopping ∧ (copy.status = .starting → row.status.active = true)

theorem renewed_of_renewable {changed : Subscription} (hrow : row.Halted ∨ row.Going)
    (h : Renewable copy row) (hcopy : copy.status = .starting ∨ copy.status = .running)
    (hstatus : changed.status = .running) (hnext : changed.nextCycleAt.isSome) :
    ((flush copy changed row).Halted ∨ (flush copy changed row).Going)
      ∧ (row.Halted → (flush copy changed row).Halted) := by
  rcases hrow with hhalted | hgoing
  · have hended : (flush copy changed row).Halted := by
      have hstays : row.status.active = false → (flush copy changed row).status = row.status := by
        intro hinactive
        rcases hcopy with hstarting | hrunning
        · rw [h.2 hstarting] at hinactive
          cases hinactive
        · rw [flush_status, hrunning, hstatus, written_same]
      rcases hhalted with hc | hc | ⟨hc, -⟩
      · exact .inl ((hstays (by rw [hc]; rfl)).trans hc)
      · exact .inr (.inl ((hstays (by rw [hc]; rfl)).trans hc))
      · exact absurd hc h.1
    exact ⟨.inl hended, fun _ => hended⟩
  · refine ⟨.inr ⟨?_, ?_⟩, ?_⟩
    · rcases written_cases copy.status changed.status row.status with ⟨hsame, -⟩ | ⟨hnew, -⟩
      · rw [flush_status, hsame]
        exact hgoing.1
      · exact .inr (hnew.trans hstatus)
    · rcases written_cases copy.nextCycleAt changed.nextCycleAt row.nextCycleAt with
        ⟨hsame, -⟩ | ⟨hnew, -⟩
      · rw [flush_nextCycleAt, hsame]
        exact hgoing.2
      · rw [flush_nextCycleAt, hnew]
        exact hnext
    · intro hhalted
      obtain ⟨hstopping, hstopped, herror⟩ := hgoing.not_ended
      rcases hhalted with hc | hc | ⟨hc, -⟩
      · exact absurd hc hstopped
      · exact absurd hc herror
      · exact absurd hc hstopping

theorem finishCycle_renews (h : copy.status = .starting ∨ copy.status = .running)
    (cycleNumber : Int) (now : Datetime) (status : String) (successful : Bool)
    (error : Option String) :
    (copy.finishCycle cycleNumber now status successful error).status = .running
      ∧ (copy.finishCycle cycleNumber now status successful error).nextCycleAt.isSome := by
  unfold finishCycle
  rcases h with hstatus | hstatus
  · rw [hstatus]
    exact ⟨rfl, rfl⟩
  · rw [hstatus]
    exact ⟨rfl, rfl⟩

theorem finishCycle_stops (h : copy.status = .stopping) (cycleNumber : Int) (now : Datetime)
    (status : String) (successful : Bool) (error : Option String) :
    (copy.finishCycle cycleNumber now status successful error).status = .stopped
      ∧ (copy.finishCycle cycleNumber now status successful error).nextCycleAt = none := by
  unfold finishCycle
  rw [h]
  exact ⟨rfl, rfl⟩

theorem finishCycle_ended (h : copy.status = .stopped ∨ copy.status = .error) (cycleNumber : Int)
    (now : Datetime) (status : String) (successful : Bool) (error : Option String) :
    (copy.finishCycle cycleNumber now status successful error).status = copy.status
      ∧ (copy.finishCycle cycleNumber now status successful error).nextCycleAt = copy.nextCycleAt := by
  unfold finishCycle
  rcases h with hstatus | hstatus
  · rw [hstatus]
    exact ⟨rfl, rfl⟩
  · rw [hstatus]
    exact ⟨rfl, rfl⟩

end Subscription

namespace CycleDb

open Subscription

/-! ## The condition -/

/-- No handler says when the next cycle is from a copy that a stop overtook. -/
def KeepsStop (E : CycleEnv) (id : UUID) (db : CycleDb) : CycleEvent → Prop
  | .enter sessionId entry =>
    ∀ session job cycle changed row, db.sessions.lookup sessionId = some session →
      session.copy.id = id → session.job = some job → cycleOf E job.payload = some cycle →
      db.enterCycle session.copy job.payload cycle.2 entry = .ok (.last changed) →
      changed.nextCycleAt.isSome → db.subscriptions.lookup id = some row →
      Renewable session.copy row
  | .complete sessionId _ _ =>
    ∀ session row, db.sessions.lookup sessionId = some session → session.copy.id = id →
      db.subscriptions.lookup id = some row → Renewable session.copy row
  | _ => True

/-! ## The invariant -/

def HaltedAt (id : UUID) (db : CycleDb) : Prop :=
  ∃ row, db.subscriptions.lookup id = some row ∧ row.Halted

/-- The row has a next cycle to come or was told to stop, and no copy is ahead of it. -/
structure InStep (id : UUID) (db : CycleDb) : Prop where
  row : ∀ row, db.subscriptions.lookup id = some row → row.Halted ∨ row.Going
  copies : ∀ session ∈ db.sessions.rows, session.copy.id = id →
    ∃ row, db.subscriptions.lookup id = some row ∧ Behind session.copy row

variable {E : CycleEnv} {id : UUID} {db db' : CycleDb}

/-- A step keeps the invariant, and a stop where there was one. -/
def KeptBy (id : UUID) (db db' : CycleDb) : Prop :=
  InStep id db' ∧ (HaltedAt id db → HaltedAt id db')

variable {row : Subscription}

theorem InStep.write (h : InStep id db) {row' : Subscription}
    (hrow : db.subscriptions.lookup id = some row) (hrow' : db'.subscriptions.lookup id = some row')
    (hknown : row'.Halted ∨ row'.Going) (hhalted : row.Halted → row'.Halted)
    (hsessions : ∀ session ∈ db'.sessions.rows, session.copy.id = id → ∃ old ∈ db.sessions.rows,
      old.copy.id = id ∧ session.copy.status = old.copy.status ∧ session.copy.nextCycleAt =
      old.copy.nextCycleAt) : KeptBy id db db' := by
  refine ⟨⟨?_, ?_⟩, ?_⟩
  · intro other hother
    rw [hrow', Option.some.injEq] at hother
    subst hother
    exact hknown
  · intro session hmem hid
    obtain ⟨old, hold, holdId, hstatus, hnext⟩ := hsessions session hmem hid
    obtain ⟨current, hcurrent, hbehind⟩ := h.copies old hold holdId
    rw [hrow, Option.some.injEq] at hcurrent
    subst hcurrent
    refine ⟨row', hrow', ?_, ?_⟩
    · rcases hbehind.known with hknown | hknown
      · exact .inl (hknown.of_eq hstatus hnext)
      · exact .inr (hknown.of_eq hstatus hnext)
    · intro hcopy
      exact hhalted (hbehind.halted (hcopy.of_eq hstatus.symm hnext.symm))
  · rintro ⟨old, hold, hhold⟩
    rw [hrow, Option.some.injEq] at hold
    subst hold
    exact ⟨row', hrow', hhalted hhold⟩

theorem InStep.same (h : InStep id db)
    (hrow : db'.subscriptions.lookup id = db.subscriptions.lookup id)
    (hsessions : ∀ session ∈ db'.sessions.rows, session.copy.id = id → session ∈ db.sessions.rows) :
    KeptBy id db db' := by
  unfold KeptBy HaltedAt
  rw [hrow]
  refine ⟨⟨?_, ?_⟩, fun hhalted => hhalted⟩
  · rw [hrow]
    exact h.row
  · rw [hrow]
    intro session hmem hid
    exact h.copies session (hsessions session hmem hid) hid

variable {changed : Subscription}

theorem InStep.writeBack_other (h : InStep id db) {copy : Subscription} (hne : id ≠ row.id)
    (hrow : db'.subscriptions = (db.writeBack copy changed row).subscriptions)
    (hsessions : ∀ session ∈ db'.sessions.rows, session.copy.id = id → session ∈ db.sessions.rows) :
    KeptBy id db db' :=
  h.same (by rw [hrow, writeBack_lookup_of_ne hne]) hsessions

variable {session : Session}

theorem mem_close {sessionId : UUID} (h : session ∈ (db.close sessionId).sessions.rows) :
    session ∈ db.sessions.rows :=
  (mem_erase.mp h).1

/-! ## The steps -/

theorem InStep.loaded (h : InStep id db) (session : Session)
    (hrow : db.subscriptions.lookup session.copy.id = some session.copy) :
    KeptBy id db { db with sessions := db.sessions.insert session } := by
  refine ⟨⟨h.row, ?_⟩, fun hhalted => hhalted⟩
  intro other hmem hid
  rcases mem_insert hmem with rfl | hold
  · rw [hid] at hrow
    exact ⟨other.copy, hrow, behind_refl (h.row _ hrow)⟩
  · exact h.copies other hold hid

variable {now : Datetime}

theorem InStep.stop (h : InStep id db) {sessionId : Option UUID} {subscriptionId : UUID}
    {reason : Option String}
    (hok : db.stopSubscription (db.copyOf sessionId subscriptionId) subscriptionId now reason = .ok
      db') : KeptBy id db db' ∧ (subscriptionId = id → HaltedAt id db') := by
  obtain ⟨row, hrow, hcases⟩ := stopSubscription_ok hok
  have hrowId : row.id = subscriptionId := key_of_lookup hrow
  -- The copy is one of a session, or the row itself.
  have hbehind : subscriptionId = id → Behind ((db.copyOf sessionId subscriptionId).getD row) row := by
    rintro rfl
    cases hcopy : db.copyOf sessionId subscriptionId with
    | none => exact behind_refl (h.row row hrow)
    | some copy =>
      obtain ⟨hsome, hid⟩ := filter_eq_some_iff.mp hcopy
      obtain ⟨session, hsession, rfl⟩ := map_eq_some_iff.mp hsome
      obtain ⟨sessionId', -, hlookup⟩ := bind_eq_some_iff.mp hsession
      obtain ⟨current, hcurrent, hbehind⟩ :=
        h.copies session (mem_of_lookup hlookup) (of_decide_eq_true hid)
      rw [hrow, Option.some.injEq] at hcurrent
      subst hcurrent
      exact hbehind
  generalize (db.copyOf sessionId subscriptionId).getD row = copy at hbehind hcases
  rcases hcases with ⟨hended, rfl⟩ | ⟨changed, jobs, hnot, hstop, rfl⟩
  · refine ⟨⟨h, fun hhalted => hhalted⟩, ?_⟩
    rintro rfl
    have hcopy : copy.Halted := by
      rcases hended with hc | hc
      · exact .inl hc
      · exact .inr (.inl hc)
    exact ⟨row, hrow, (hbehind rfl).halted hcopy⟩
  · have hstopping := (stopOne_ok hstop).1
    by_cases hid : subscriptionId = id
    · have hhalted : (flush copy changed row).Halted := by
        refine halted_of_stop (hbehind hid) hstopping.nextCycleAt ?_
        rcases hstopping.status with hc | hc
        · exact .inr ⟨hc, hnot⟩
        · exact .inl hc
      rw [hid] at hrow
      have hwritten : (db.writeBack copy changed row).subscriptions.lookup id
          = some (flush copy changed row) := by
        rw [← hid, ← hrowId] at hrow ⊢
        exact writeBack_lookup_self hrow
      refine ⟨?_, fun _ => ⟨_, hwritten, hhalted⟩⟩
      exact h.write hrow hwritten (.inl hhalted) (fun _ => hhalted)
        fun session hmem hsession => ⟨session, hmem, hsession, rfl, rfl⟩
    · refine ⟨?_, fun heq => absurd heq hid⟩
      exact h.writeBack_other (by rw [hrowId]; exact Ne.symm hid) rfl fun session hmem _ => hmem

theorem InStep.tick (h : InStep id db) {subscriptionId jobId : UUID}
    (hok : db.scheduleContinuousCycle E subscriptionId jobId now = .ok db') : KeptBy id db db' := by
  rcases scheduleContinuousCycle_ok hok with rfl | ⟨row, hrow, hdue, hround⟩
  · exact ⟨h, fun hhalted => hhalted⟩
  have hrowId : row.id = subscriptionId := key_of_lookup hrow
  -- A write to the row of another subscription, or to one that was not told to stop.
  have hput : ∀ row', row'.id = row.id → db'.subscriptions = db.subscriptions.put row' →
      db'.sessions = db.sessions → (row.Going → row'.Halted ∨ row'.Going) →
      KeptBy id db db' := by
    intro row' hid' hput hsessions hknown
    by_cases hid : subscriptionId = id
    · rw [hid] at hrow
      have hgoing := going_of_due (h.row row hrow) hdue
      have hlookup : db'.subscriptions.lookup id = some row' := by
        have hkey : Keyed.key row' = id := hid'.trans (hrowId.trans hid)
        rw [hput, ← hkey]
        exact lookup_put_self (r := row') (hkey ▸ hrow)
      refine h.write hrow hlookup (hknown hgoing) ?_ ?_
      · intro hhalted
        rw [not_due_of_halted hhalted] at hdue
        cases hdue
      · rw [hsessions]
        exact fun session hmem hsession => ⟨session, hmem, hsession, rfl, rfl⟩
    · refine h.same ?_ ?_
      · rw [hput]
        exact lookup_put_of_ne (r := row') fun heq => hid (by
          rw [← hrowId, ← hid']
          exact heq.symm)
      · rw [hsessions]
        exact fun session hmem _ => hmem
  cases hround with
  | waits job hjob hstatus => exact ⟨h, fun hhalted => hhalted⟩
  | failed job hjob hended =>
    exact hput (cycleFailed row job now) rfl rfl rfl fun _ => .inl (.inr (.inl rfl))
  | succeeded job hjob hended =>
    exact hput (cycleSucceeded E row job now) rfl rfl rfl fun _ => .inr ⟨.inr rfl, rfl⟩
  | enqueued _ hjob henqueue =>
    unfold enqueueCycle at henqueue
    dsimp only at henqueue
    split at henqueue
    · cases henqueue
    cases henqueue
    refine hput _ ?_ rfl rfl ?_
    · rfl
    · exact fun hgoing => .inr ⟨.inr rfl, hgoing.2⟩

theorem InStep.closes (h : InStep id db) (hsession : session ∈ db.sessions.rows)
    (hrow : db.subscriptions.lookup session.copy.id = some row)
    (hwrite : session.copy.id = id → (row.Halted ∨ row.Going) → Behind session.copy row → ((flush
      session.copy changed row).Halted ∨ (flush session.copy changed row).Going) ∧ (row.Halted →
      (flush session.copy changed row).Halted)) :
    KeptBy id db ((db.writeBack session.copy changed row).close session.id) := by
  have hrowId : row.id = session.copy.id := key_of_lookup hrow
  by_cases hid : session.copy.id = id
  · obtain ⟨current, hcurrent, hbehind⟩ := h.copies session hsession hid
    rw [hid] at hrow hrowId
    rw [hrow, Option.some.injEq] at hcurrent
    subst hcurrent
    obtain ⟨hknown, hhalted⟩ := hwrite hid (h.row row hrow) hbehind
    have hwritten : ((db.writeBack session.copy changed row).close session.id).subscriptions.lookup id
        = some (flush session.copy changed row) := by
      rw [← hrowId] at hrow ⊢
      exact writeBack_lookup_self hrow
    exact h.write hrow hwritten hknown hhalted
      fun other hmem hother => ⟨other, mem_close hmem, hother, rfl, rfl⟩
  · exact h.writeBack_other (by rw [hrowId]; exact Ne.symm hid) rfl fun other hmem _ => mem_close hmem

/-- A handler that returns from its first transaction stops the subscription, or renews it. -/
theorem InStep.leaves (h : InStep id db) {cycleNumber : Int} (hsession : session ∈ db.sessions.rows)
    (hrow : db.subscriptions.lookup session.copy.id = some row)
    (hleaves : Leaves session.copy cycleNumber changed)
    (hrenew : session.copy.id = id → changed.nextCycleAt.isSome → Renewable session.copy row) :
    KeptBy id db ((db.writeBack session.copy changed row).close session.id) := by
  refine h.closes hsession hrow ?_
  intro hid hknown hbehind
  cases hleaves with
  | stops now status error =>
    have hhalted : (flush session.copy (session.copy.stopWithoutCycle now status error) row).Halted :=
      halted_of_stop hbehind rfl (.inl rfl)
    exact ⟨.inl hhalted, fun _ => hhalted⟩
  | defers now status hcopy => exact renewed_of_renewable hknown (hrenew hid rfl) hcopy rfl rfl
  | finishes now status successful error hcopy =>
    obtain ⟨hstatus, hnext⟩ := finishCycle_renews hcopy cycleNumber now status successful error
    exact renewed_of_renewable hknown (hrenew hid hnext) hcopy hstatus hnext

theorem InStep.entered (h : InStep id db) (session : Session) {job : JobExecution} {entry : Entry}
    (hsession : session ∈ db.sessions.rows) (hentered : Entered E db session job entry db')
    (hrenew : ∀ cycle changed row, session.copy.id = id → cycleOf E job.payload = some cycle →
      db.enterCycle session.copy job.payload cycle.2 entry = .ok (.last changed) →
      changed.nextCycleAt.isSome → db.subscriptions.lookup id = some row →
      Renewable session.copy row) : KeptBy id db db' := by
  cases hentered with
  | leave => exact h.same rfl fun other hmem _ => mem_close hmem
  | last hcycle hrow haction =>
    cases enterCycle_ok haction with
    | last hleaves =>
      refine h.leaves hsession hrow hleaves ?_
      intro hid hnext
      exact hrenew _ _ _ hid hcycle haction hnext (hid ▸ hrow)
  | @work row cycleNumber runId runs payload now jobs hrow hmade hcheckpoint =>
    have hrowId : row.id = session.copy.id := key_of_lookup hrow
    have hsessions : ∀ other ∈ (db.sessions.put { session with
          copy := { session.copy with currentCycleRunId := some runId }
          work := some ⟨cycleNumber, runId⟩ }).rows, other.copy.id = id →
        ∃ old ∈ db.sessions.rows, old.copy.id = id ∧ other.copy.status = old.copy.status
          ∧ other.copy.nextCycleAt = old.copy.nextCycleAt := by
      intro other hmem hother
      rcases mem_put hmem with ⟨rfl, -⟩ | ⟨hold, -⟩
      · exact ⟨session, hsession, hother, rfl, rfl⟩
      · exact ⟨other, hold, hother, rfl, rfl⟩
    by_cases hid : session.copy.id = id
    · rw [hid] at hrow hrowId
      have hwritten : (db.writeBack session.copy
          { session.copy with currentCycleRunId := some runId } row).subscriptions.lookup id
          = some (flush session.copy { session.copy with currentCycleRunId := some runId } row) := by
        rw [← hrowId] at hrow ⊢
        exact writeBack_lookup_self hrow
      have hstatus : (flush session.copy
          { session.copy with currentCycleRunId := some runId } row).status = row.status :=
        written_same _ _
      have hnext : (flush session.copy
          { session.copy with currentCycleRunId := some runId } row).nextCycleAt = row.nextCycleAt :=
        written_same _ _
      refine h.write hrow hwritten ?_ (fun hhalted => hhalted.of_eq hstatus hnext) hsessions
      rcases h.row row hrow with hhalted | hgoing
      · exact .inl (hhalted.of_eq hstatus hnext)
      · exact .inr (hgoing.of_eq hstatus hnext)
    · refine h.writeBack_other (by rw [hrowId]; exact Ne.symm hid) rfl ?_
      intro other hmem hother
      rcases mem_put hmem with ⟨rfl, -⟩ | ⟨hold, -⟩
      · exact absurd hother hid
      · exact hold

theorem InStep.completed (h : InStep id db) (session : Session) {work : CycleWork} {failed : Bool}
    (hsession : session ∈ db.sessions.rows)
    (hrenew : ∀ row, session.copy.id = id → db.subscriptions.lookup id = some row → Renewable
      session.copy row) : KeptBy id db (db.complete session work failed now) := by
  unfold CycleDb.complete
  cases hrow : db.subscriptions.lookup session.copy.id with
  | none => exact h.same rfl fun other hmem _ => mem_close hmem
  | some row =>
    refine h.closes hsession hrow ?_
    intro hid hknown hbehind
    have hrenewable := hrenew row hid (hid ▸ hrow)
    have hrenews : session.copy.status = .starting ∨ session.copy.status = .running →
        ((flush session.copy (CycleDb.completed session.copy work failed now) row).Halted
          ∨ (flush session.copy (CycleDb.completed session.copy work failed now) row).Going)
        ∧ (row.Halted
          → (flush session.copy (CycleDb.completed session.copy work failed now) row).Halted) := by
      intro hcopy
      obtain ⟨hstatus, hnext⟩ := finishCycle_renews hcopy work.cycleNumber now _ _ _
      exact renewed_of_renewable hknown hrenewable hcopy hstatus hnext
    have hends : session.copy.status = .stopped ∨ session.copy.status = .error →
        (flush session.copy (CycleDb.completed session.copy work failed now) row).Halted := by
      intro hcopy
      obtain ⟨hstatus, hnext⟩ := finishCycle_ended hcopy work.cycleNumber now
        (if failed then "partial" else "succeeded") (!failed)
        (if failed then some "One or more sources failed." else none)
      have hhalted : row.Halted := by
        refine hbehind.halted ?_
        rcases hcopy with hc | hc
        · exact .inl hc
        · exact .inr (.inl hc)
      refine hhalted.of_eq ?_ ?_
      · rw [flush_status, CycleDb.completed, hstatus, written_same]
      · rw [flush_nextCycleAt, CycleDb.completed, hnext, written_same]
    cases hcopy : session.copy.status with
    | starting => exact hrenews (.inl hcopy)
    | running => exact hrenews (.inr hcopy)
    | stopping =>
      obtain ⟨hstatus, hnext⟩ := finishCycle_stops hcopy work.cycleNumber now
        (if failed then "partial" else "succeeded") (!failed)
        (if failed then some "One or more sources failed." else none)
      have hhalted : (flush session.copy (CycleDb.completed session.copy work failed now) row).Halted :=
        halted_of_stop hbehind hnext (.inl hstatus)
      exact ⟨.inl hhalted, fun _ => hhalted⟩
    | stopped => exact ⟨.inl (hends (.inl hcopy)), fun _ => hends (.inl hcopy)⟩
    | error => exact ⟨.inl (hends (.inr hcopy)), fun _ => hends (.inr hcopy)⟩

theorem InStep.start (h : InStep id db) {request : StartRequest}
    (hok : db.startSubscription request = .ok db') : KeptBy id db db' := by
  rcases startSubscription_ok hok with rfl | ⟨row, hnone, hstatus, hnext, -, rfl⟩
  · exact ⟨h, fun hhalted => hhalted⟩
  have hinsert := lookup_insert (r := row) hnone
  by_cases hid : id = row.id
  · subst hid
    refine ⟨⟨?_, ?_⟩, ?_⟩
    · intro other hother
      rw [show (db.subscriptions.insert row).lookup row.id = some row from hinsert.1,
        Option.some.injEq] at hother
      subst hother
      exact .inr ⟨.inl hstatus, hnext⟩
    · intro session hmem hsession
      obtain ⟨old, hold, -⟩ := h.copies session hmem hsession
      rw [hnone] at hold
      cases hold
    · rintro ⟨old, hold, -⟩
      rw [hnone] at hold
      cases hold
  · exact h.same (hinsert.2 id hid) fun session hmem _ => hmem

/-- **Every step keeps copies behind the row, and a stop in it.** -/
theorem inStep_next (h : InStep id db) (event : CycleEvent) (hkeeps : KeepsStop E id db event) :
    KeptBy id db (db.next E event) := by
  have hsame : KeptBy id db db := ⟨h, fun hhalted => hhalted⟩
  cases event with
  | job op => exact h.same rfl fun session hmem _ => hmem
  | ingest run =>
    refine h.same ?_ ?_
    · unfold next
      dsimp only
      split
      · split_ifs <;> rfl
      · rfl
    · unfold next
      dsimp only
      split
      · split_ifs <;> exact fun session hmem _ => hmem
      · exact fun session hmem _ => hmem
  | start request =>
    change KeptBy id db (db.commitOr (db.startSubscription request))
    cases hok : db.startSubscription request with
    | error stop => exact hsame
    | ok db' => exact h.start hok
  | load sessionId subscriptionId =>
    unfold next
    dsimp only
    cases hrow : db.subscriptions.lookup subscriptionId with
    | none => exact hsame
    | some row =>
      have hrowId : row.id = subscriptionId := key_of_lookup hrow
      exact h.loaded ⟨sessionId, row, none, none⟩ (hrowId ▸ hrow)
  | stop sessionId subscriptionId now reason =>
    change KeptBy id db (db.commitOr (db.stopSubscription _ _ _ _))
    cases hok : db.stopSubscription (db.copyOf sessionId subscriptionId) subscriptionId now reason with
    | error stop => exact hsame
    | ok db' => exact (h.stop hok).1
  | tick subscriptionId jobId now =>
    change KeptBy id db (db.commitOr (db.scheduleContinuousCycle E _ _ _))
    cases hok : db.scheduleContinuousCycle E subscriptionId jobId now with
    | error error => exact hsame
    | ok db' => exact h.tick hok
  | begin sessionId job =>
    change KeptBy id db (db.commitOr (db.begin E sessionId job))
    unfold CycleDb.begin
    cases hcycle : cycleOf E job.payload with
    | none => exact hsame
    | some cycle =>
      dsimp only
      cases hrow : db.subscriptions.lookup cycle.1 with
      | none => exact hsame
      | some row =>
        have hrowId : row.id = cycle.1 := key_of_lookup hrow
        exact h.loaded ⟨sessionId, row, some job, none⟩ (hrowId ▸ hrow)
  | enter sessionId entry =>
    unfold next
    dsimp only
    cases hsession : db.sessions.lookup sessionId with
    | none => exact hsame
    | some session =>
      obtain ⟨otherId, copy, job, work⟩ := session
      obtain rfl : otherId = sessionId := key_of_lookup hsession
      cases job with
      | none => exact hsame
      | some job =>
        cases work with
        | some work => exact hsame
        | none =>
          dsimp only
          cases hok : db.enter E ⟨otherId, copy, some job, none⟩ job entry with
          | error stop => exact h.same rfl fun session hmem _ => mem_close hmem
          | ok db' =>
            refine h.entered ⟨otherId, copy, some job, none⟩
              (mem_of_lookup hsession) (enter_ok hok) ?_
            intro cycle changed row hid hcycle haction hnext hrow
            exact hkeeps _ job cycle changed row hsession hid rfl hcycle haction hnext hrow
  | complete sessionId failed now =>
    unfold next
    dsimp only
    cases hsession : db.sessions.lookup sessionId with
    | none => exact hsame
    | some session =>
      obtain ⟨otherId, copy, job, work⟩ := session
      obtain rfl : otherId = sessionId := key_of_lookup hsession
      cases work with
      | none => exact hsame
      | some work =>
        refine h.completed ⟨otherId, copy, job, some work⟩ (mem_of_lookup hsession) ?_
        intro row hid hrow
        exact hkeeps _ row hsession hid hrow
  | close sessionId => exact h.same rfl fun session hmem _ => mem_close hmem

theorem inStep_empty : InStep id CycleDb.empty := by
  refine ⟨?_, fun session hmem => absurd hmem not_mem_nil⟩
  intro row hrow
  cases hrow

/-- Once a stop has committed, no later tick enqueues a cycle of the subscription. -/
def StopIsKept (S : System CycleDb CycleEvent) (E : CycleEnv) (id : UUID) : Prop :=
  ∀ db db' sessionId now reason, S.Reachable db →
    db.stopSubscription (db.copyOf sessionId id) id now reason = .ok db' →
    ∀ events later, S.Run db' events later →
      ∀ jobId at_, (later.next E (.tick id jobId at_)).world.db.jobs = later.world.db.jobs

/-- **A stop is kept as long as no handler renews the subscription from a copy of before it.** -/
theorem stop_is_kept (E : CycleEnv) (id : UUID) :
    StopIsKept ((cycleSystem E).restrict (KeepsStop E id)) E id := by
  intro db db' sessionId now reason hreach hstop events later hrun jobId at_
  have hinv : InStep id db := by
    refine System.invariant ?_ ?_ hreach
    · intro s hs
      rw [hs]
      exact inStep_empty
    · intro s event s' _ hs hstep
      rw [hstep.2.2]
      exact (inStep_next hs event hstep.1).1
  obtain ⟨⟨hinv', -⟩, hhalted⟩ := hinv.stop hstop
  have hlater : InStep id later ∧ HaltedAt id later := by
    refine hrun.preserves (P := fun db => InStep id db ∧ HaltedAt id db) ?_ ⟨hinv', hhalted rfl⟩
    intro s event s' hs hstep
    rw [hstep.2.2]
    obtain ⟨hnext, hkept⟩ := inStep_next hs.1 event hstep.1
    exact ⟨hnext, hkept hs.2⟩
  obtain ⟨row, hrow, hrowHalted⟩ := hlater.2
  have hok : later.scheduleContinuousCycle E id jobId at_ = .ok later := by
    unfold scheduleContinuousCycle
    rw [hrow]
    dsimp only
    rw [if_pos (not_due_of_halted hrowHalted at_)]
  change (later.commitOr (later.scheduleContinuousCycle E id jobId at_)).world.db.jobs = _
  rw [hok]
  rfl

/-! ## A stop that is lost -/

def askedRow : Subscription :=
  { runningRow with
    status := .stopping
    nextCycleAt := none }

/-- The same once the cycle's handler said when the next one is. -/
def renewedRow : Subscription :=
  { askedRow with
    cycleCount := 1
    lastCycleAt := some 2
    lastCycleStatus := some "succeeded"
    lastSuccessAt := some 2
    nextCycleAt := some (2 + timedeltaMinutes 60)
    currentCycleJobId := none
    currentCycleRunId := none }

theorem enqueued_after {db : CycleDb} {job : WorkflowJob}
    (hrow : db.subscriptions.lookup 5 = some renewedRow) (hjobs : db.world.db.jobs.rows = [job])
    (hid : job.id = 11) (hkey : job.idempotencyKey = cycleKey 5 1) :
    (db.next sampleEnv (.tick 5 12 (2 + timedeltaMinutes 60))).world.db.jobs
      ≠ db.world.db.jobs := by
  intro hsame
  change (db.commitOr (db.scheduleContinuousCycle sampleEnv 5 12 (2 + timedeltaMinutes 60))).world.db.jobs = _ at hsame
  unfold scheduleContinuousCycle at hsame
  rw [hrow] at hsame
  dsimp only at hsame
  rw [if_neg (by decide)] at hsame
  change (db.commitOr (db.enqueueCycle sampleEnv renewedRow 12 _)).world.db.jobs = _ at hsame
  have hne : job.idempotencyKey ≠ cycleKey 5 2 := by
    rw [hkey]
    intro heq
    exact absurd (printedKey_injective heq).2 (by decide)
  have hnone : db.world.db.jobs.lookup 12 = none := by
    unfold Table.lookup
    rw [hjobs]
    refine find?_eq_none.mpr ?_
    intro other hother
    rw [mem_singleton.mp hother]
    change ¬ decide (job.id = 12) = true
    rw [hid]
    decide
  obtain ⟨made, created, jobs, hok⟩ := JobsDb.enqueueJob_isOk (R := sampleEnv.redaction)
    (cycleArgs renewedRow (2 + timedeltaMinutes 60)) (2 + timedeltaMinutes 60) hnone
  rw [enqueueCycle_eq hok] at hsame
  rcases (JobsDb.enqueueJob_spec hok).2 with ⟨-, hused, -⟩ | ⟨-, -, -, rfl, rfl⟩
  · obtain ⟨other, hother, hotherKey⟩ := JobsDb.mem_keys.mp hused
    rw [hjobs] at hother
    rw [mem_singleton.mp hother] at hotherKey
    exact hne hotherKey
  · have hrows : _ :: db.world.db.jobs.rows = db.world.db.jobs.rows :=
      (rows_insert hnone).symm.trans (congrArg Table.rows hsame)
    exact absurd (congrArg List.length hrows) (by rw [length_cons]; omega)

/-- **A stop of a running cycle is lost.** The handler of the cycle has its copy from before the
stop; what it writes last makes the subscription due again. -/
theorem stop_of_a_running_cycle_is_lost : ¬ ∀ E id, StopIsKept (cycleSystem E) E id := by
  intro h
  obtain ⟨hrow, hsession, job, hjobs, hid, hstatus, hkey⟩ := entered_spec
  have hlookup : entered.world.db.jobs.lookup 11 = some job := by
    rw [← hid]
    refine lookup_of_mem ?_
    rw [hjobs]
    exact mem_singleton_self job
  have hstop : entered.stopSubscription (entered.copyOf none 5) 5 1 none
      = .ok { entered.writeBack runningRow askedRow runningRow with
          world := { entered.world with db := entered.world.db } } := by
    have hone : runningRow.stopOne entered.world.db 1 none = .ok (askedRow, entered.world.db) := by
      have hbind : runningRow.currentCycleJobId.bind entered.world.db.jobs.lookup = some job := hlookup
      unfold stopOne
      rw [hbind]
      dsimp only
      rw [if_pos hstatus]
      rfl
    have hcopy : entered.copyOf none 5 = none := rfl
    unfold stopSubscription
    rw [hrow, hcopy]
    dsimp only [getD_none]
    rw [if_neg (by decide), hone]
  generalize hasked : ({ entered.writeBack runningRow askedRow runningRow with
    world := { entered.world with db := entered.world.db } } : CycleDb) = asked at hstop
  have haskedRow : asked.subscriptions.lookup 5 = some askedRow := by
    rw [← hasked]
    exact writeBack_lookup_self (show entered.subscriptions.lookup runningRow.id = _ from hrow)
  have hasked21 : asked.sessions.lookup 21
      = some ⟨21, runningRow, some sampleExecution, some ⟨1, 31⟩⟩ := by
    rw [← hasked]
    exact hsession
  have haskedJobs : asked.world.db.jobs.rows = [job] := by
    rw [← hasked]
    exact hjobs
  have hnext : asked.next sampleEnv (.complete 21 false 2)
      = asked.complete ⟨21, runningRow, some sampleExecution, some ⟨1, 31⟩⟩ ⟨1, 31⟩ false 2 := by
    unfold next
    dsimp only
    rw [hasked21]
  have hdone : asked.complete ⟨21, runningRow, some sampleExecution, some ⟨1, 31⟩⟩ ⟨1, 31⟩ false 2
      = (asked.writeBack runningRow (completed runningRow ⟨1, 31⟩ false 2) askedRow).close 21 := by
    have haskedRow' : asked.subscriptions.lookup runningRow.id = some askedRow := haskedRow
    unfold complete
    rw [haskedRow']
  have hrun : (cycleSystem sampleEnv).Run asked [.complete 21 false 2]
      (asked.next sampleEnv (.complete 21 false 2)) :=
    .single ⟨trivial, rfl⟩
  have hkept := h sampleEnv 5 entered asked none 1 none entered_reachable hstop _ _ hrun 12
    (2 + timedeltaMinutes 60)
  refine enqueued_after ?_ ?_ hid hkey hkept
  · rw [hnext, hdone]
    exact writeBack_lookup_self (show asked.subscriptions.lookup askedRow.id = _ from haskedRow)
  · rw [hnext, hdone]
    exact haskedJobs

/-! ## A stop its handler sees -/

/-- A stop that finds the job of the first cycle running, before its handler has begun. -/
def stopAsked : CycleDb := claimed.next sampleEnv (.stop none 5 1 none)

/-- The handler loads the subscription and enters. -/
def stopSeen : List CycleEvent := [.begin 21 sampleExecution, .enter 21 sampleEntry]

theorem stopAsked_begun : stopAsked.next sampleEnv (.begin 21 sampleExecution) = { stopAsked with
        sessions := stopAsked.sessions.insert
          ⟨21, { firstRow with status := .stopping, nextCycleAt := none }, some sampleExecution, none⟩ } := by
  change stopAsked.commitOr (stopAsked.begin sampleEnv 21 sampleExecution) = _
  have hcycle : cycleOf sampleEnv sampleExecution.payload = some (5, 1) :=
    cycleOf_cyclePayload 5 (by decide)
  have hrow : stopAsked.subscriptions.lookup 5
      = some { firstRow with status := .stopping, nextCycleAt := none } := rfl
  unfold CycleDb.begin
  rw [hcycle]
  dsimp only
  rw [hrow]
  rfl

/-- The handler stops the subscription, and no later tick starts it again. -/
theorem stop_is_kept_by_its_handler :
    claimed.stopSubscription (claimed.copyOf none 5) 5 1 none = .ok stopAsked
      ∧ ∀ jobId now, ((stopSeen.foldl (next sampleEnv) stopAsked).next sampleEnv
          (.tick 5 jobId now)).world.db.jobs
        = (stopSeen.foldl (next sampleEnv) stopAsked).world.db.jobs := by
  have hclaimed : ((cycleSystem sampleEnv).restrict (KeepsStop sampleEnv 5)).Reachable claimed :=
    .tail (e := .job (.claim "worker" 60 none [] 0)) (.tail (e := .tick 5 11 0)
        (.tail (e := .start sampleRequest) (.init rfl) ⟨trivial, trivial, rfl⟩)
        ⟨trivial, trivial, rfl⟩)
      ⟨trivial, trivial, rfl⟩
  have hgranted : stopAsked.Allowed (.begin 21 sampleExecution) := by
    change _ ∈ claimed.world.grants
    rw [claimed_grants]
    exact mem_cons_self
  have hkeeps : KeepsStop sampleEnv 5 (stopAsked.next sampleEnv (.begin 21 sampleExecution))
      (.enter 21 sampleEntry) := by
    intro session job cycle changed row hsession hid hjob hcycle haction hnext hrow
    rw [stopAsked_begun] at hsession
    cases hsession
    rw [enterCycle_stopping rfl haction] at hnext
    cases hnext
  have hrun : ((cycleSystem sampleEnv).restrict (KeepsStop sampleEnv 5)).Run stopAsked stopSeen
      (stopSeen.foldl (next sampleEnv) stopAsked) :=
    .cons ⟨trivial, hgranted, rfl⟩ (.single ⟨hkeeps, trivial, rfl⟩)
  exact ⟨rfl, stop_is_kept sampleEnv 5 claimed stopAsked none 1 none hclaimed rfl _ _ hrun⟩

end CycleDb

end NewsCraft.SourceCollections
