import NewsCraft.Automations.ScheduledRuns

/-!
# The loop over the selected revisions

The request for a revision's content pack is the same in every slot that selects its story,
so its job may be in the hands of an earlier run. A revision with nothing in its way gets
its run, one that has its run is passed over, and at any other the loop stops. No revision
changes what another reads.
-/

namespace NewsCraft.Automations

open Lib Lib.Checked Jobs Generation List Option

/-- The job ids an execution draws for the request of a revision. -/
def SlotExecution.drawn (slot : SlotExecution) (revision : StoryRevision) : List UUID :=
  [(slot.request revision.storyId).jobId, (slot.request revision.storyId).boundJobId]

namespace RunsDb

/-! ## The selection -/

theorem runKey_injective {jobId id id' : UUID} (h : runKey jobId id = runKey jobId id') :
    id = id' :=
  uuidStr_injective (printedKey_injective h).2

theorem latestRevision_spec {db : RunsDb} {storyId : UUID} {revision : StoryRevision}
    (h : db.latestRevision storyId = some revision) :
    revision.storyId = storyId ∧ revision ∈ db.revisions.rows := by
  have hpicked : db.latestRevision storyId = none
      ∨ ∃ row ∈ db.revisions.rows.filter fun row => row.storyId = storyId,
        db.latestRevision storyId = some row := by
    apply foldl_picks
    intro best row
    cases best with
    | none => exact .inl rfl
    | some best =>
      dsimp only
      split_ifs
      · exact .inl rfl
      · exact .inr rfl
  rcases hpicked with hnone | ⟨row, hrow, hfound⟩
  · rw [hnone] at h
    cases h
  · rw [hfound, Option.some.injEq] at h
    subst h
    have hmem := mem_filter.mp hrow
    exact ⟨by simpa using hmem.2, hmem.1⟩

theorem selectRevisions_stories {db : RunsDb} {selectedIds : List UUID} (h : selectedIds.Nodup) :
    (db.selectRevisions selectedIds).Pairwise fun a b => a.storyId ≠ b.storyId := by
  refine List.Pairwise.filterMap _ ?_ h
  intro id id' hne revision hrevision revision' hrevision'
  rw [(latestRevision_spec hrevision).1, (latestRevision_spec hrevision').1]
  exact hne

/-! ## What is in the way of a revision -/

section

variable (E : ServiceEnv) (db : RunsDb) (slot : SlotExecution) (plan : SlotPlan)
  (revision : StoryRevision)

/-- The revision has a run of the slot's job already. -/
def HasRun : Prop := (db.runByKey (runKey slot.job.id revision.id)).isSome

/-- The job its request would be answered with, where it is there. -/
def answeringJob : Option WorkflowJob :=
  (packMode E plan).bind fun mode =>
    answeredBy (packDigest E) db.world.db (packRequest slot mode revision)

def Owned : Prop :=
  ∃ job run, db.answeringJob E slot plan revision = some job
    ∧ job.automationRunId = some run ∧ run ≠ slot.runId revision.id

def Requestable : Prop :=
  ∃ mode, packMode E plan = some mode ∧ (packRequest slot mode revision).Accepted

structure Startable : Prop where
  hasRun : ¬ db.HasRun slot revision
  requestable : Requestable E slot plan revision
  owned : ¬ db.Owned E slot plan revision

/-- The run is one the slot made for the revision, with the job that answers the request. -/
structure MadeFor (db' : RunsDb) (triggered : TriggeredRun) : Prop where
  startable : db.Startable E slot plan revision
  mem : triggered ∈ db'.runs.rows
  key : triggered.idempotencyKey = runKey slot.job.id revision.id
  id : triggered.run.id = slot.runId revision.id
  ofJob : triggered.OfJob slot.job.id
  root : ∃ mode payload job, packMode E plan = some mode
    ∧ (packRequest slot mode revision).payload = some payload
    ∧ db'.world.db.getByIdempotencyKey (answerKey (packDigest E) db.world.db
        (packRequest slot mode revision) payload) = some job
    ∧ triggered.rootWorkflowJobId = some job.id
    ∧ job.automationRunId = some (slot.runId revision.id)
    ∧ job.status = ((db.answeringJob E slot plan revision).map WorkflowJob.status).getD .queued

end

/-- The ids an execution draws for its revisions are new. -/
structure FreshIds (db : RunsDb) (slot : SlotExecution) (revisions : List StoryRevision) : Prop where
  run : ∀ revision ∈ revisions, db.runs.lookup (slot.runId revision.id) = none
  job : ∀ revision ∈ revisions, ∀ id ∈ slot.drawn revision, db.world.db.jobs.lookup id = none
  bound : ∀ revision ∈ revisions,
    (slot.request revision.storyId).boundJobId ≠ (slot.request revision.storyId).jobId
  distinct : revisions.Pairwise fun a b =>
    slot.runId a.id ≠ slot.runId b.id ∧ ∀ id ∈ slot.drawn b, id ∉ slot.drawn a

/-! ## One revision -/

section

variable {E : ServiceEnv} {R : Redaction} {db : RunsDb} {slot : SlotExecution} {plan : SlotPlan}
  {revision : StoryRevision} {runIds : List UUID}

def setting (db : RunsDb) :
    Table Automation × Table AutomationVersion × Table StoryRevision × Bool × Bool :=
  (db.automations, db.versions, db.revisions, db.dryRun, db.world.db.globalPause)

structure StartsRun (E : ServiceEnv) (db : RunsDb) (slot : SlotExecution) (plan : SlotPlan)
    (revision : StoryRevision) (db' : RunsDb) (triggered : TriggeredRun) : Prop where
  rows : db'.runs.rows = triggered :: db.runs.rows
  made : db.MadeFor E slot plan revision db' triggered
  frame : ∀ key, ¬ StoryKey revision.storyId key →
    db'.world.db.getByIdempotencyKey key = db.world.db.getByIdempotencyKey key
  adds : AddsOnly (slot.drawn revision) db.world.db db'.world.db
  setting : db'.setting = db.setting

theorem answeringJob_eq {mode : String} {payload : Json} (hmode : packMode E plan = some mode)
    (hpayload : (packRequest slot mode revision).payload = some payload) :
    db.answeringJob E slot plan revision
      = db.world.db.getByIdempotencyKey (answerKey (packDigest E) db.world.db
          (packRequest slot mode revision) payload) := by
  unfold answeringJob answeredBy
  rw [hmode, bind_some, hpayload, bind_some]

theorem startRevision_hasRun (plan : SlotPlan) (runIds : List UUID) (h : db.HasRun slot revision) :
    ∃ runId, startRevision E R slot plan (db, runIds) revision = .ok (db, runIds ++ [runId]) := by
  obtain ⟨existing, hfind⟩ := isSome_iff_exists.mp h
  refine ⟨existing.run.id, ?_⟩
  unfold startRevision
  dsimp only
  rw [hfind]

theorem startRevision_startable (runIds : List UUID) (h : db.Startable E slot plan revision)
    (hrun : db.runs.lookup (slot.runId revision.id) = none)
    (hjobs : ∀ id ∈ slot.drawn revision, db.world.db.jobs.lookup id = none)
    (hbound : (slot.request revision.storyId).boundJobId ≠ (slot.request revision.storyId).jobId) :
    ∃ db' triggered, startRevision E R slot plan (db, runIds) revision
        = .ok (db', runIds ++ [slot.runId revision.id])
      ∧ StartsRun E db slot plan revision db' triggered := by
  obtain ⟨mode, hmode, haccepted⟩ := h.requestable
  obtain ⟨payload, job, jobs, hpayload, hok, hanswered, hadds⟩ :=
    requestContentPack_answered (R := R) (packDigest E) haccepted
      (hjobs _ mem_cons_self) (hjobs _ (mem_cons_of_mem _ mem_cons_self)) hbound
  have hlookup := JobsDb.lookup_of_getByIdempotencyKey hanswered.found
  have hbefore : db.answeringJob E slot plan revision = _ := answeringJob_eq hmode hpayload
  have hfree : ¬ (job.automationRunId.isSome
      ∧ job.automationRunId ≠ some (slot.runId revision.id)) := by
    rintro ⟨hsome, hother⟩
    cases hold : db.answeringJob E slot plan revision with
    | none =>
      rw [hbefore] at hold
      rw [(hanswered.new hold).2] at hsome
      cases hsome
    | some old =>
      have hkept := hanswered.before old (hbefore ▸ hold)
      obtain ⟨run, howner⟩ := isSome_iff_exists.mp hsome
      refine h.owned ⟨old, run, hold, ?_, ?_⟩
      · rw [← hkept.2.2, howner]
      rintro rfl
      exact hother howner
  let target := targetStage plan job
  let owned := { job with
    automationRunId := some (slot.runId revision.id)
    automationNodeRunId := some (slot.nodeRunId (slot.runId revision.id) target.nodeId) }
  let triggered := db.newRun slot plan revision target job.id
  have hnone : db.runByKey (runKey slot.job.id revision.id) = none := by
    simpa [HasRun] using h.hasRun
  have hrows : (db.runs.insert triggered).rows = triggered :: db.runs.rows :=
    Table.rows_insert hrun
  refine ⟨db.adoptChild slot plan revision jobs job, triggered, ?_, hrows, ⟨h, ?_, rfl, rfl, rfl,
    mode, payload, owned, hmode, hpayload, ?_, rfl, rfl, ?_⟩, ?_, ?_, ?_⟩
  · unfold startRevision
    dsimp only
    rw [hnone]
    rw [if_neg (by rw [hrun]; exact Bool.false_ne_true), hmode]
    dsimp only
    rw [hok]
    dsimp only
    rw [hlookup]
    dsimp only
    rw [if_neg hfree]
  · change triggered ∈ (db.runs.insert triggered).rows
    rw [hrows]
    exact mem_cons_self
  · exact JobsDb.getByIdempotencyKey_write_self hanswered.found rfl rfl
  · change job.status = _
    cases hold : db.answeringJob E slot plan revision with
    | none => exact (hanswered.new (hbefore ▸ hold)).1
    | some old => exact (hanswered.before old (hbefore ▸ hold)).2.1
  · intro key hstory
    have hne : key ≠ owned.idempotencyKey := by
      rintro rfl
      refine hstory ?_
      rw [JobsDb.key_of_getByIdempotencyKey hanswered.found]
      exact storyKey_answerKey (packDigest E)
    have hlookup' : jobs.jobs.lookup owned.id = some job := hlookup
    have hwrite := JobsDb.getByIdempotencyKey_write_of_ne hlookup' rfl hne
    exact hwrite.trans (hanswered.frame key hstory)
  · exact hadds.trans (addsOnly_write owned)
  have hpaused : (jobs.write owned).globalPause = db.world.db.globalPause := hanswered.paused
  unfold setting adoptChild
  rw [hpaused]

theorem startRevision_stopped (runIds : List UUID) (hrun : ¬ db.HasRun slot revision)
    (hstart : ¬ db.Startable E slot plan revision)
    (hfresh : db.runs.lookup (slot.runId revision.id) = none)
    (hjobs : ∀ id ∈ slot.drawn revision, db.world.db.jobs.lookup id = none)
    (hbound : (slot.request revision.storyId).boundJobId ≠ (slot.request revision.storyId).jobId) :
    ∃ stop, startRevision E R slot plan (db, runIds) revision = .error stop := by
  have hnone : db.runByKey (runKey slot.job.id revision.id) = none := by
    simpa [HasRun] using hrun
  unfold startRevision
  dsimp only
  rw [hnone]
  rw [if_neg (by rw [hfresh]; exact Bool.false_ne_true)]
  cases hmode : packMode E plan with
  | none => exact ⟨_, rfl⟩
  | some mode =>
    dsimp only
    by_cases haccepted : (packRequest slot mode revision).Accepted
    · obtain ⟨payload, job, jobs, hpayload, hok, hanswered, -⟩ :=
        requestContentPack_answered (R := R) (packDigest E) haccepted
          (hjobs _ mem_cons_self) (hjobs _ (mem_cons_of_mem _ mem_cons_self)) hbound
      have howned : db.Owned E slot plan revision := by
        by_contra hnot
        exact hstart ⟨hrun, ⟨mode, hmode, haccepted⟩, hnot⟩
      obtain ⟨old, run, hold, howner, hne⟩ := howned
      rw [answeringJob_eq hmode hpayload] at hold
      have hkept := (hanswered.before old hold).2.2.trans howner
      rw [hok]
      dsimp only
      rw [JobsDb.lookup_of_getByIdempotencyKey hanswered.found]
      dsimp only
      rw [if_pos]
      · exact ⟨_, rfl⟩
      rw [hkept]
      exact ⟨rfl, fun heq => hne (Option.some.inj heq)⟩
    · rw [requestContentPack_refused (packDigest E) haccepted]
      exact ⟨_, rfl⟩

end

/-! ## Another revision -/

section

variable {E : ServiceEnv} {R : Redaction} {db db' : RunsDb} {slot : SlotExecution} {plan : SlotPlan}
  {revision other : StoryRevision}

theorem answerKey_congr {sha256 : Json → String} {jobs jobs' : JobsDb} (request : PackRequest)
    (h : ∀ key, StoryKey request.storyId key →
      jobs'.getByIdempotencyKey key = jobs.getByIdempotencyKey key) (payload : Json) :
    answerKey sha256 jobs' request payload = answerKey sha256 jobs request payload := by
  unfold answerKey
  cases request.research with
  | finished suffix updated boundTo =>
    dsimp only
    rw [h _ (storyKey_researchKey _ _)]
  | requested _ _ _ _ | rejected | completeWithoutResearch => rfl

/-- What a revision reads is the same in both states. -/
structure Unaffected (db : RunsDb) (slot : SlotExecution) (other : StoryRevision) (db' : RunsDb) :
    Prop where
  hasRun : db'.HasRun slot other ↔ db.HasRun slot other
  keys : ∀ key, StoryKey other.storyId key →
    db'.world.db.getByIdempotencyKey key = db.world.db.getByIdempotencyKey key

theorem Unaffected.answerKey (h : Unaffected db slot other db') (mode : String) (payload : Json) :
    Generation.answerKey (packDigest E) db'.world.db (packRequest slot mode other) payload
      = Generation.answerKey (packDigest E) db.world.db (packRequest slot mode other) payload :=
  answerKey_congr (packRequest slot mode other) h.keys payload

theorem Unaffected.answeringJob (h : Unaffected db slot other db') :
    db'.answeringJob E slot plan other = db.answeringJob E slot plan other := by
  cases hmode : packMode E plan with
  | none =>
    unfold RunsDb.answeringJob
    rw [hmode]
    rfl
  | some mode =>
    cases hpayload : (packRequest slot mode other).payload with
    | none =>
      unfold RunsDb.answeringJob answeredBy
      rw [hmode, bind_some, bind_some, hpayload]
      rfl
    | some payload =>
      rw [answeringJob_eq hmode hpayload, answeringJob_eq hmode hpayload, h.answerKey]
      have hstory : StoryKey other.storyId (Generation.answerKey (packDigest E) db.world.db
          (packRequest slot mode other) payload) := storyKey_answerKey _
      exact h.keys _ hstory

theorem Unaffected.owned (h : Unaffected db slot other db') :
    db'.Owned E slot plan other ↔ db.Owned E slot plan other := by
  unfold Owned
  rw [h.answeringJob]

theorem Unaffected.startable (h : Unaffected db slot other db') :
    db'.Startable E slot plan other ↔ db.Startable E slot plan other := by
  constructor
  · intro hs
    exact ⟨fun hrun => hs.hasRun (h.hasRun.mpr hrun), hs.requestable,
      fun howned => hs.owned (h.owned.mpr howned)⟩
  · intro hs
    exact ⟨fun hrun => hs.hasRun (h.hasRun.mp hrun), hs.requestable,
      fun howned => hs.owned (h.owned.mp howned)⟩

variable {triggered : TriggeredRun}

theorem StartsRun.unaffected (h : StartsRun E db slot plan revision db' triggered)
    (hstory : revision.storyId ≠ other.storyId) (hid : revision.id ≠ other.id) :
    Unaffected db slot other db' := by
  constructor
  · have hne : triggered.idempotencyKey ≠ runKey slot.job.id other.id := by
      rw [h.made.key]
      exact fun heq => hid (runKey_injective heq)
    unfold HasRun runByKey
    rw [h.rows, find?_cons_of_neg (by simpa using hne)]
  · intro key hkey
    exact h.frame key fun hmine => hstory (hmine.story_eq hkey)

theorem MadeFor.of_unaffected {db₁ : RunsDb} (h : db₁.MadeFor E slot plan other db' triggered)
    (hsame : Unaffected db slot other db₁) : db.MadeFor E slot plan other db' triggered := by
  obtain ⟨mode, payload, job, hmode, hpayload, hfound, hroot, howner, hstatus⟩ := h.root
  refine ⟨hsame.startable.mp h.startable, h.mem, h.key, h.id, h.ofJob,
    mode, payload, job, hmode, hpayload, ?_, hroot, howner, ?_⟩
  · rw [← hsame.answerKey]
    exact hfound
  · rw [← hsame.answeringJob]
    exact hstatus

theorem MadeFor.kept {db₂ : RunsDb} (h : db.MadeFor E slot plan revision db' triggered)
    (hrows : ∀ row ∈ db'.runs.rows, row ∈ db₂.runs.rows)
    (hkeys : ∀ key, StoryKey revision.storyId key → db₂.world.db.getByIdempotencyKey key =
      db'.world.db.getByIdempotencyKey key) : db.MadeFor E slot plan revision db₂ triggered := by
  obtain ⟨mode, payload, job, hmode, hpayload, hfound, hrest⟩ := h.root
  refine ⟨h.startable, hrows _ h.mem, h.key, h.id, h.ofJob,
    mode, payload, job, hmode, hpayload, ?_, hrest⟩
  have hstory : StoryKey revision.storyId (Generation.answerKey (packDigest E) db.world.db
      (packRequest slot mode revision) payload) := storyKey_answerKey _
  rw [hkeys _ hstory]
  exact hfound

theorem FreshIds.rest {rest : List StoryRevision} (h : db.FreshIds slot (revision :: rest))
    (hstep : StartsRun E db slot plan revision db' triggered) : db'.FreshIds slot rest := by
  have hdistinct := pairwise_cons.mp h.distinct
  refine ⟨?_, ?_, fun r hr => h.bound r (mem_cons_of_mem _ hr), hdistinct.2⟩
  · intro r hr
    have hold := h.run r (mem_cons_of_mem _ hr)
    unfold Table.lookup
    rw [hstep.rows, find?_cons_of_neg]
    · exact hold
    have hne := (hdistinct.1 r hr).1
    change ¬ decide (triggered.run.id = _) = true
    rw [hstep.made.id]
    simpa using hne
  · intro r hr id hid
    exact hstep.adds id (h.job r (mem_cons_of_mem _ hr) id hid) ((hdistinct.1 r hr).2 id hid)

end

/-! ## The loop -/

/-- The tables after the loop over the revisions. -/
structure Served (E : ServiceEnv) (db : RunsDb) (slot : SlotExecution) (plan : SlotPlan)
    (revisions : List StoryRevision) (db' : RunsDb) : Prop where
  kept : ∀ triggered ∈ db.runs.rows, triggered ∈ db'.runs.rows
  new : ∀ triggered ∈ db'.runs.rows, triggered ∈ db.runs.rows
    ∨ ∃ revision ∈ revisions, db.MadeFor E slot plan revision db' triggered
  made : ∀ revision ∈ revisions, db.Startable E slot plan revision →
    ∃ triggered, db.MadeFor E slot plan revision db' triggered
  frame : ∀ key, (∀ revision ∈ revisions, ¬ StoryKey revision.storyId key) →
    db'.world.db.getByIdempotencyKey key = db.world.db.getByIdempotencyKey key
  adds : AddsOnly (revisions.flatMap slot.drawn) db.world.db db'.world.db
  setting : db'.setting = db.setting

section

variable {E : ServiceEnv} {R : Redaction} {db db' : RunsDb} {slot : SlotExecution} {plan : SlotPlan}
  {revision : StoryRevision} {revisions : List StoryRevision}

def Apart (revisions : List StoryRevision) : Prop :=
  revisions.Pairwise fun a b => a.storyId ≠ b.storyId ∧ a.id ≠ b.id

theorem Served.skip (h : Served E db slot plan revisions db') (hrun : db.HasRun slot revision) :
    Served E db slot plan (revision :: revisions) db' := by
  refine ⟨h.kept, ?_, ?_, ?_, ?_, h.setting⟩
  · intro triggered hmem
    rcases h.new triggered hmem with hold | ⟨r, hr, hmade⟩
    · exact .inl hold
    · exact .inr ⟨r, mem_cons_of_mem _ hr, hmade⟩
  · intro r hr hstart
    rcases mem_cons.mp hr with rfl | hr
    · exact absurd hrun hstart.hasRun
    · exact h.made r hr hstart
  · intro key hkey
    exact h.frame key fun r hr => hkey r (mem_cons_of_mem _ hr)
  · exact h.adds.mono (subset_append_right _ _)

theorem Served.start {db₁ : RunsDb} {triggered : TriggeredRun} (hapart : Apart (revision :: revisions))
    (hstep : StartsRun E db slot plan revision db₁ triggered)
    (h : Served E db₁ slot plan revisions db') :
    Served E db slot plan (revision :: revisions) db' := by
  have happarts := pairwise_cons.mp hapart
  have hsame : ∀ other ∈ revisions, Unaffected db slot other db₁ := fun other hother =>
    hstep.unaffected (happarts.1 other hother).1 (happarts.1 other hother).2
  have hfirst : db.MadeFor E slot plan revision db' triggered := by
    refine hstep.made.kept h.kept ?_
    intro key hkey
    refine h.frame key ?_
    intro other hother hmine
    exact (happarts.1 other hother).1 (hkey.story_eq hmine)
  refine ⟨?_, ?_, ?_, ?_, hstep.adds.trans h.adds, h.setting.trans hstep.setting⟩
  · intro row hrow
    refine h.kept row ?_
    rw [hstep.rows]
    exact mem_cons_of_mem _ hrow
  · intro row hrow
    rcases h.new row hrow with hold | ⟨other, hother, hmade⟩
    · rw [hstep.rows] at hold
      rcases mem_cons.mp hold with rfl | hold
      · exact .inr ⟨revision, mem_cons_self, hfirst⟩
      · exact .inl hold
    · exact .inr ⟨other, mem_cons_of_mem _ hother, hmade.of_unaffected (hsame other hother)⟩
  · intro other hother hstart
    rcases mem_cons.mp hother with rfl | hother
    · exact ⟨triggered, hfirst⟩
    obtain ⟨row, hmade⟩ := h.made other hother ((hsame other hother).startable.mpr hstart)
    exact ⟨row, hmade.of_unaffected (hsame other hother)⟩
  · intro key hkey
    rw [h.frame key fun other hother => hkey other (mem_cons_of_mem _ hother),
      hstep.frame key (hkey revision mem_cons_self)]

/-- **The loop serves every revision, or stops at one it can neither start nor pass over.** -/
theorem startRevisions_cases (R : Redaction) (plan : SlotPlan) (hapart : Apart revisions)
    (hfresh : db.FreshIds slot revisions) (runIds : List UUID) :
    (∃ db' runIds', revisions.foldlM (startRevision E R slot plan) (db, runIds) = .ok (db', runIds')
        ∧ (∀ revision ∈ revisions, db.HasRun slot revision ∨ db.Startable E slot plan revision)
        ∧ Served E db slot plan revisions db')
      ∨ (∃ stop, revisions.foldlM (startRevision E R slot plan) (db, runIds) = .error stop)
        ∧ ∃ revision ∈ revisions,
          ¬ db.HasRun slot revision ∧ ¬ db.Startable E slot plan revision := by
  induction revisions generalizing db runIds with
  | nil =>
    refine .inl ⟨db, runIds, rfl, fun r hr => absurd hr not_mem_nil,
      fun _ hrow => hrow, fun _ hrow => .inl hrow, fun r hr => absurd hr not_mem_nil,
      fun _ _ => rfl, fun _ hnone _ => hnone, rfl⟩
  | cons revision rest ih =>
    have happarts := pairwise_cons.mp hapart
    by_cases hrun : db.HasRun slot revision
    · obtain ⟨runId, hok⟩ := startRevision_hasRun (E := E) (R := R) plan runIds hrun
      have hrest : db.FreshIds slot rest :=
        ⟨fun r hr => hfresh.run r (mem_cons_of_mem _ hr),
          fun r hr => hfresh.job r (mem_cons_of_mem _ hr),
          fun r hr => hfresh.bound r (mem_cons_of_mem _ hr),
          (pairwise_cons.mp hfresh.distinct).2⟩
      rw [foldlM_cons, hok]
      rcases ih happarts.2 hrest (runIds ++ [runId]) with
        ⟨db', runIds', hfold, hall, hserved⟩ | ⟨⟨stop, hfold⟩, r, hr, hway⟩
      · refine .inl ⟨db', runIds', hfold, ?_, hserved.skip hrun⟩
        intro r hr
        rcases mem_cons.mp hr with rfl | hr
        · exact .inl hrun
        · exact hall r hr
      · exact .inr ⟨⟨stop, hfold⟩, r, mem_cons_of_mem _ hr, hway⟩
    · have hfirst : ∀ {P : StoryRevision → Prop}, (∀ r ∈ revision :: rest, P r) → P revision :=
        fun h => h revision mem_cons_self
      by_cases hstart : db.Startable E slot plan revision
      · obtain ⟨db₁, triggered, hok, hstep⟩ := startRevision_startable (R := R) runIds hstart
          (hfirst hfresh.run) (hfirst hfresh.job) (hfirst hfresh.bound)
        have hsame : ∀ other ∈ rest, Unaffected db slot other db₁ := fun other hother =>
          hstep.unaffected (happarts.1 other hother).1 (happarts.1 other hother).2
        rw [foldlM_cons, hok]
        rcases ih happarts.2 (hfresh.rest hstep) (runIds ++ [slot.runId revision.id]) with
          ⟨db', runIds', hfold, hall, hserved⟩ | ⟨⟨stop, hfold⟩, r, hr, hno, hnot⟩
        · refine .inl ⟨db', runIds', hfold, ?_, Served.start hapart hstep hserved⟩
          intro r hr
          rcases mem_cons.mp hr with rfl | hr
          · exact .inr hstart
          rcases hall r hr with hthere | hcan
          · exact .inl ((hsame r hr).hasRun.mp hthere)
          · exact .inr ((hsame r hr).startable.mp hcan)
        · refine .inr ⟨⟨stop, hfold⟩, r, mem_cons_of_mem _ hr, ?_, ?_⟩
          · exact fun hthere => hno ((hsame r hr).hasRun.mpr hthere)
          · exact fun hcan => hnot ((hsame r hr).startable.mpr hcan)
      · obtain ⟨stop, hstop⟩ := startRevision_stopped (R := R) runIds hrun hstart
          (hfirst hfresh.run) (hfirst hfresh.job) (hfirst hfresh.bound)
        refine .inr ⟨⟨stop, ?_⟩, revision, mem_cons_self, hrun, hstart⟩
        rw [foldlM_cons, hstop]
        rfl

theorem startRevisions_hasRun (h : ∀ revision ∈ revisions, db.HasRun slot revision)
    {runIds : List UUID} {acc : RunsDb × List UUID}
    (hok : revisions.foldlM (startRevision E R slot plan) (db, runIds) = .ok acc) : acc.1 = db := by
  induction revisions generalizing runIds with
  | nil =>
    cases hok
    rfl
  | cons revision rest ih =>
    obtain ⟨runId, hskip⟩ := startRevision_hasRun (E := E) (R := R) plan runIds
      (h revision mem_cons_self)
    rw [foldlM_cons, hskip] at hok
    exact ih (fun r hr => h r (mem_cons_of_mem _ hr)) hok

end

end RunsDb

end NewsCraft.Automations
