import NewsCraft.Automations.LifecycleAgreement
import NewsCraft.Automations.SelectionLoop

/-!
# Which selected revisions get a run

Where the loop over the revisions stops, the slot takes back the runs of all of them. So a
slot covers its selection when nothing in it is in the way, or nothing is left to cover. One
story that an earlier slot wrote up keeps every other from its run.
-/

namespace NewsCraft.Automations

open Lib Lib.Checked Jobs Generation List Table Option

namespace RunsDb

/-! ## The slot -/

section

variable {E : ServiceEnv} {R : Redaction} {db db' : RunsDb} {slot : SlotExecution} {plan : SlotPlan}
  {revisions : List StoryRevision}

theorem handle_inr (h : db.prepareSlot E slot = .ok (.inr (plan, revisions))) :
    db.handle E R slot = (revisions.foldlM (startRevision E R slot plan) (db, [])).map fun result =>
      (if result.2 = [] then .emptySelection else .started result.2, result.1) := by
  unfold handle
  rw [h, Except.map.eq_def]
  rfl

theorem next_slot_eq (h : ∀ plan revisions, db.prepareSlot E slot ≠ .ok (.inr (plan, revisions))) :
    db.next E R (.slot slot) = db := by
  change commit db (db.handle E R slot) = db
  unfold handle
  cases hprepare : db.prepareSlot E slot with
  | error stop => rfl
  | ok prepared =>
    cases prepared with
    | inl outcome => rfl
    | inr found => exact absurd hprepare (h found.1 found.2)

theorem prepareSlot_inr (h : db.prepareSlot E slot = .ok (.inr (plan, revisions))) :
    revisions = db.selectRevisions slot.selectedIds
      ∧ ∀ triggered ∈ db.runs.rows, ¬ triggered.OfJob slot.job.id := by
  unfold prepareSlot at h
  cases hpayload : scheduledAutomationPayload slot.job.payload with
  | none =>
    rw [hpayload] at h
    cases h
  | some ids =>
    rw [hpayload] at h
    dsimp only at h
    cases hautomation : db.automations.lookup ids.1 with
    | none =>
      rw [hautomation] at h
      cases h
    | some automation =>
      rw [hautomation] at h
      dsimp only at h
      by_cases hactive : automation.lifecycle ≠ .active
      · rw [if_pos hactive] at h
        cases h
      rw [if_neg hactive] at h
      by_cases hpause : db.world.db.globalPause
      · rw [if_pos hpause] at h
        cases h
      rw [if_neg hpause] at h
      by_cases hstale : automation.activeVersionId ≠ some ids.2
      · rw [if_pos hstale] at h
        cases h
      rw [if_neg hstale] at h
      cases hversion : db.versions.lookup ids.2 with
      | none =>
        rw [hversion] at h
        cases h
      | some version =>
        rw [hversion] at h
        cases hruns : db.runs.rows.filter fun triggered => triggered.OfJob slot.job.id with
        | cons first rest =>
          rw [hruns] at h
          cases h
        | nil =>
          rw [hruns] at h
          refine ⟨?_, fun triggered hmem hjob => ?_⟩
          · dsimp only at h
            split at h
            · cases h
            split at h
            · split at h
              · cases h
              split_ifs at h
              cases h
              rfl
            · cases h
          · have hno := filter_eq_nil_iff.mp hruns triggered hmem
            exact hno (decide_eq_true hjob)

theorem selectRevisions_apart (h : slot.selectedIds.Nodup) :
    Apart (db.selectRevisions slot.selectedIds) := by
  have hrows : ∀ r ∈ db.selectRevisions slot.selectedIds, r ∈ db.revisions.rows := by
    intro r hr
    obtain ⟨id, -, hlatest⟩ := mem_filterMap.mp hr
    exact (latestRevision_spec hlatest).2
  refine List.Pairwise.imp_of_mem ?_ (selectRevisions_stories h)
  intro a b ha hb hstory
  refine ⟨hstory, fun hid => hstory ?_⟩
  rw [row_unique (hrows a ha) (hrows b hb) hid]

/-- The revision has a run that was not there, and its job is queued and the run's. -/
def Covered (db : RunsDb) (slot : SlotExecution) (db' : RunsDb) (revision : StoryRevision) : Prop :=
  ∃ triggered ∈ db'.runs.rows, triggered.idempotencyKey = runKey slot.job.id revision.id
    ∧ db.runs.lookup triggered.run.id = none
    ∧ ∃ job, triggered.rootWorkflowJobId = some job.id ∧ db'.world.db.jobs.lookup job.id = some job
      ∧ job.status = .queued ∧ job.automationRunId = some triggered.run.id

/-- Every selected revision that is not owned by another run gets a run with a queued job. -/
def Covers (E : ServiceEnv) (R : Redaction) (db : RunsDb) (slot : SlotExecution) : Prop :=
  ∀ plan revisions, db.prepareSlot E slot = .ok (.inr (plan, revisions)) →
    ∀ revision ∈ revisions, ¬ db.Owned E slot plan revision →
      db.Covered slot (db.next E R (.slot slot)) revision

/-- Nothing is in the way of any revision, or all of them are owned. -/
def Unobstructed (E : ServiceEnv) (db : RunsDb) (slot : SlotExecution) : Prop :=
  ∀ plan revisions, db.prepareSlot E slot = .ok (.inr (plan, revisions)) →
    (∀ revision ∈ revisions, db.Owned E slot plan revision) ∨ ∀ revision ∈ revisions,
        (db.HasRun slot revision ∧ db.Owned E slot plan revision)
          ∨ (db.Startable E slot plan revision
            ∧ ∀ job, db.answeringJob E slot plan revision = some job → job.status = .queued)

theorem MadeFor.covered {revision : StoryRevision} {triggered : TriggeredRun}
    (h : db.MadeFor E slot plan revision db' triggered)
    (hfresh : db.runs.lookup (slot.runId revision.id) = none)
    (hqueued : ∀ job, db.answeringJob E slot plan revision = some job → job.status = .queued) :
    db.Covered slot db' revision := by
  obtain ⟨mode, payload, job, -, -, hfound, hroot, howner, hstatus⟩ := h.root
  refine ⟨triggered, h.mem, h.key, ?_, job, hroot, JobsDb.lookup_of_getByIdempotencyKey hfound, ?_, ?_⟩
  · rw [h.id]
    exact hfresh
  · rw [hstatus]
    cases hold : db.answeringJob E slot plan revision with
    | none => rfl
    | some old => exact hqueued old hold
  · rw [h.id]
    exact howner

/-- Where the loop ends, a revision is covered exactly if it got its run and a job that is
queued. -/
theorem Served.covered_iff {revision : StoryRevision} (h : Served E db slot plan revisions db')
    (hapart : Apart revisions) (hfresh : db.FreshIds slot revisions) (hmem : revision ∈ revisions) :
    db.Covered slot db' revision ↔ db.Startable E slot plan revision
      ∧ ∀ job, db.answeringJob E slot plan revision = some job → job.status = .queued := by
  constructor
  · rintro ⟨triggered, hrow, hkey, hnew, job, hroot, hjob, hqueued, -⟩
    rcases h.new triggered hrow with hold | ⟨other, hother, hmade⟩
    · have hthere := lookup_of_mem hold
      change db.runs.lookup triggered.run.id = _ at hthere
      rw [hnew] at hthere
      cases hthere
    · have hid : other.id = revision.id := runKey_injective (hmade.key.symm.trans hkey)
      have hids : (revisions.map StoryRevision.id).Nodup :=
        pairwise_map.mpr (hapart.imp fun hapart => hapart.2)
      obtain rfl : other = revision := inj_on_of_nodup_map hids hother hmem hid
      refine ⟨hmade.startable, fun old hold => ?_⟩
      obtain ⟨mode, payload, answer, -, -, hfound, hanswer, -, hstatus⟩ := hmade.root
      have hlookup := JobsDb.lookup_of_getByIdempotencyKey hfound
      rw [hroot, Option.some.injEq] at hanswer
      rw [← hanswer, hjob, Option.some.injEq] at hlookup
      rw [hold, ← hlookup, hqueued] at hstatus
      exact hstatus.symm
  · rintro ⟨hstart, hqueued⟩
    obtain ⟨triggered, hmade⟩ := h.made revision hmem hstart
    exact hmade.covered (hfresh.run revision hmem) hqueued

theorem covers_iff (R : Redaction) (hfresh : db.FreshIds slot (db.selectRevisions slot.selectedIds)) :
    Covers E R db slot ↔ Unobstructed E db slot := by
  refine forall_congr' fun plan => forall_congr' fun revisions => forall_congr' fun hprepare => ?_
  have hselected := (prepareSlot_inr hprepare).1
  rw [← hselected] at hfresh
  have hapart : Apart revisions := by
    rw [hselected]
    exact selectRevisions_apart slot.distinct
  change (∀ revision ∈ revisions, _ → db.Covered slot (commit db (db.handle E R slot)) revision) ↔ _
  rw [handle_inr hprepare]
  rcases startRevisions_cases (E := E) R plan hapart hfresh [] with
    ⟨db', runIds, hfold, hall, hserved⟩ | ⟨⟨stop, hfold⟩, stuck, hstuck, hno, hnot⟩
  · rw [hfold]
    constructor
    · intro hcovers
      refine .inr fun revision hmem => ?_
      by_cases howned : db.Owned E slot plan revision
      · rcases hall revision hmem with hrun | hstart
        · exact .inl ⟨hrun, howned⟩
        · exact absurd howned hstart.owned
      · exact .inr ((hserved.covered_iff hapart hfresh hmem).mp (hcovers revision hmem howned))
    · intro hfree revision hmem howned
      rcases hfree with hall | hfree
      · exact absurd (hall revision hmem) howned
      rcases hfree revision hmem with ⟨-, hother⟩ | hstart
      · exact absurd hother howned
      · exact (hserved.covered_iff hapart hfresh hmem).mpr hstart
  · rw [hfold]
    -- The transaction is rolled back: there is no new run.
    have hnone : ∀ revision, ¬ db.Covered slot db revision := by
      rintro revision ⟨triggered, hrow, -, hnew, -⟩
      have hthere := lookup_of_mem hrow
      change db.runs.lookup triggered.run.id = _ at hthere
      rw [hnew] at hthere
      cases hthere
    constructor
    · intro hcovers
      refine .inl fun revision hmem => ?_
      by_contra howned
      exact hnone revision (hcovers revision hmem howned)
    · intro hfree revision hmem howned
      rcases hfree with hall | hfree
      · exact absurd (hall revision hmem) howned
      rcases hfree stuck hstuck with ⟨hrun, -⟩ | ⟨hstart, -⟩
      · exact absurd hrun hno
      · exact absurd hstart hnot

/-! ## Replays -/

def HasRunOf (db : RunsDb) (jobId : UUID) : Prop :=
  ∃ triggered ∈ db.runs.rows, triggered.OfJob jobId

theorem startRevision_kept {revision : StoryRevision} {acc acc' : RunsDb × List UUID}
    (h : startRevision E R slot plan acc revision = .ok acc') :
    ∀ triggered ∈ acc.1.runs.rows, triggered ∈ acc'.1.runs.rows := by
  intro triggered hmem
  unfold startRevision at h
  dsimp only at h
  split at h
  · cases h
    exact hmem
  · split_ifs at h
    split at h
    · cases h
    split at h
    · cases h
    · cases h
    split at h
    · cases h
    split_ifs at h
    cases h
    exact mem_insert_of_mem hmem

theorem next_slot_of_hasRunOf (R : Redaction) (h : db.HasRunOf slot.job.id) :
    db.next E R (.slot slot) = db := by
  refine next_slot_eq ?_
  intro plan revisions hprepare
  obtain ⟨triggered, hmem, hjob⟩ := h
  exact (prepareSlot_inr hprepare).2 triggered hmem hjob

theorem hasRunOf_next {jobId : UUID} (h : db.HasRunOf jobId) (event : HistoryEvent) :
    (db.next E R event).HasRunOf jobId := by
  obtain ⟨triggered, hmem, hjob⟩ := h
  cases event with
  | slot slot =>
    refine ⟨triggered, ?_, hjob⟩
    rcases commit_cases db (db.handle E R slot) with hsame | ⟨outcome, hok⟩
    · change triggered ∈ (commit db (db.handle E R slot)).runs.rows
      rw [hsame]
      exact hmem
    · change triggered ∈ (commit db (db.handle E R slot)).runs.rows
      generalize commit db (db.handle E R slot) = db' at hok
      cases hprepare : db.prepareSlot E slot with
      | error stop =>
        unfold handle at hok
        rw [hprepare] at hok
        cases hok
      | ok prepared =>
        cases prepared with
        | inl outcome =>
          unfold handle at hok
          rw [hprepare] at hok
          cases hok
          exact hmem
        | inr found =>
          have hhandle : db.handle E R slot = _ := handle_inr hprepare
          rw [hhandle] at hok
          cases hfold : found.2.foldlM (startRevision E R slot found.1) (db, []) with
          | error stop =>
            rw [hfold] at hok
            cases hok
          | ok acc =>
            rw [hfold] at hok
            cases hok
            exact foldlM_ok (P := fun acc => triggered ∈ acc.1.runs.rows)
              (fun _ _ _ hrow hstep => startRevision_kept hstep triggered hrow) hmem hfold
  | job _ | edit _ _ _ _ => exact ⟨triggered, hmem, hjob⟩
  | startRun other jobs => exact ⟨triggered, mem_insert_of_mem hmem, hjob⟩
  | project other =>
    cases hlookup : db.runs.lookup other.run.id with
    | none =>
      refine ⟨triggered, ?_, hjob⟩
      unfold next
      dsimp only
      rw [hlookup]
      exact hmem
    | some before =>
      unfold next
      dsimp only
      rw [hlookup]
      have hbefore := lookup_eq_some_iff.mp hlookup
      by_cases hid : triggered.run.id = other.run.id
      · obtain rfl : triggered = before :=
          row_unique hmem hbefore.1 (hid.trans hbefore.2.symm)
        exact ⟨_, mem_put_self hmem hid, hjob⟩
      · exact ⟨triggered, mem_put_of_ne hmem hid, hjob⟩

theorem hasRunOf_of_written (hfresh : db.FreshIds slot (db.selectRevisions slot.selectedIds))
    (hwritten : db.next E R (.slot slot) ≠ db) :
    (db.next E R (.slot slot)).HasRunOf slot.job.id := by
  by_cases hprepare : ∃ plan revisions, db.prepareSlot E slot = .ok (.inr (plan, revisions))
  · obtain ⟨plan, revisions, hprepare⟩ := hprepare
    rw [← (prepareSlot_inr hprepare).1] at hfresh
    have hapart : Apart revisions := by
      rw [(prepareSlot_inr hprepare).1]
      exact selectRevisions_apart slot.distinct
    have hnext : db.next E R (.slot slot) = commit db (db.handle E R slot) := rfl
    rw [handle_inr hprepare] at hnext
    rcases startRevisions_cases (E := E) R plan hapart hfresh [] with
      ⟨db', runIds, hfold, hall, hserved⟩ | ⟨⟨stop, hfold⟩, -⟩
    · rw [hfold] at hnext
      by_cases hstart : ∃ revision ∈ revisions, db.Startable E slot plan revision
      · obtain ⟨revision, hmem, hstart⟩ := hstart
        obtain ⟨triggered, hmade⟩ := hserved.made revision hmem hstart
        rw [hnext]
        exact ⟨triggered, hmade.mem, hmade.ofJob⟩
      · -- Every revision is passed over, so the loop leaves the tables alone.
        have hrun : ∀ revision ∈ revisions, db.HasRun slot revision := by
          intro revision hmem
          rcases hall revision hmem with hrun | hnot
          · exact hrun
          · exact absurd ⟨revision, hmem, hnot⟩ hstart
        exact absurd (hnext.trans (startRevisions_hasRun hrun hfold)) hwritten
    · rw [hfold] at hnext
      exact absurd hnext hwritten
  · refine absurd (next_slot_eq fun plan revisions hok => ?_) hwritten
    exact hprepare ⟨plan, revisions, hok⟩

end

/-- The hourly workflow, active, with two stories. -/
def hourlyRuns : RunsDb :=
  RunsDb.empty.next sampleEnv Redaction.identity (.edit hourlyDb.automations hourlyDb.versions
      ((Table.empty.insert ⟨32, 42, 1⟩).insert ⟨31, 41, 1⟩) false)

/-- A slot of the workflow, with the ids it draws. -/
def hourlySlot (jobId : UUID) (selectedIds : List UUID) (distinct : selectedIds.Nodup)
    (draw : Nat → UUID) : SlotExecution where
  job :=
    { id := jobId
      jobType := "automation.schedule"
      payload := .obj [("automation_id", .str (uuidStr 1)), ("automation_version_id", .str (uuidStr 11))]
      attemptCount := 1
      maxAttempts := 3
      origin := .automation
      leaseOwner := "worker"
      createdAt := 0
      scheduledFor := none
      priority := 0
      pauseSensitive := true
      automationRunId := none
      automationNodeRunId := none }
  now := 0
  selectedIds := selectedIds
  distinct := distinct
  selectionRaises := false
  prompts := none
  request storyId :=
    { storyId := storyId
      researchMode := "off"
      payload := some (.str (uuidStr storyId))
      research := .rejected
      boundPayload := .null
      jobId := draw (if storyId = 41 then 0 else 1)
      boundJobId := draw (if storyId = 41 then 2 else 3)
      now := 0 }
  runId revisionId := draw (if revisionId = 31 then 4 else 5)
  nodeRunId runId _ := runId

structure HourlyState (db : RunsDb) (jobId : UUID) : Prop where
  setting : db.setting = hourlyRuns.setting
  unused : ∀ triggered ∈ db.runs.rows, ¬ triggered.OfJob jobId

def hourlyGeneration : List (String × Json) :=
  ((hourlyDrafts.nodes.find? fun node => node.id = "n3").map WorkflowNode.config).getD []

theorem editorialProfile_isSome :
    (configUuid sampleEnv hourlyGeneration "editorial_profile_id").isSome := by
  decide +kernel

theorem providerProfile_isSome :
    (configUuid sampleEnv hourlyGeneration "provider_profile_id").isSome := by
  decide +kernel

theorem scheduledAutomationPayload_uuidStr (automationId versionId : UUID) :
    scheduledAutomationPayload (.obj [("automation_id", .str (uuidStr automationId)),
      ("automation_version_id", .str (uuidStr versionId))]) = some (automationId, versionId) := by
  change (parseUuid (uuidStr automationId)).bind (fun automationId =>
    (parseUuid (uuidStr versionId)).map fun versionId => (automationId, versionId)) = _
  rw [parseUuid_uuidStr, parseUuid_uuidStr]
  rfl

theorem prepareSlot_hourly {db : RunsDb} {jobId : UUID} (h : HourlyState db jobId)
    (selectedIds : List UUID) (distinct : selectedIds.Nodup) (draw : Nat → UUID) :
    ∃ plan, db.prepareSlot sampleEnv (hourlySlot jobId selectedIds distinct draw)
        = .ok (.inr (plan, hourlyRuns.selectRevisions selectedIds))
      ∧ packMode sampleEnv plan = some "off" := by
  have hsetting := h.setting
  simp only [RunsDb.setting, Prod.mk.injEq] at hsetting
  obtain ⟨hautomations, hversions, hrevisions, -, hpause⟩ := hsetting
  have hpayload : scheduledAutomationPayload (hourlySlot jobId selectedIds distinct draw).job.payload
      = some (1, 11) := scheduledAutomationPayload_uuidStr 1 11
  have hruns : db.runs.rows.filter (fun triggered => triggered.OfJob
      (hourlySlot jobId selectedIds distinct draw).job.id) = [] := by
    refine filter_eq_nil_iff.mpr ?_
    intro triggered hmem hjob
    exact h.unused triggered hmem (of_decide_eq_true hjob)
  have hverified : sampleEnv.verifiedPlan hourlyVersion = .ok hourlyPlan :=
    verifiedPlan_of_compiles hourlyDrafts_compiles readGraph_hourlyDrafts rfl readPlan_hourlyPlan
  have hselected : db.selectRevisions selectedIds = hourlyRuns.selectRevisions selectedIds := by
    unfold selectRevisions latestRevision
    rw [hrevisions]
  obtain ⟨automation, hautomation, hactive, hversion⟩ : ∃ automation,
      hourlyRuns.automations.lookup 1 = some automation ∧ automation.lifecycle = .active
        ∧ automation.activeVersionId = some 11 := ⟨_, rfl, rfl, rfl⟩
  obtain ⟨trigger, htrigger⟩ : ∃ trigger, DefinitionDb.stage hourlyPlan "schedule" = some trigger :=
    ⟨_, rfl⟩
  obtain ⟨selection, hselection⟩ :
      ∃ selection, DefinitionDb.stage hourlyPlan "select_content" = some selection := ⟨_, rfl⟩
  obtain ⟨generation, hgeneration, hconfig⟩ : ∃ generation,
      DefinitionDb.stage hourlyPlan "generate_content_pack" = some generation
        ∧ generation.config = hourlyGeneration := ⟨_, rfl, rfl⟩
  have hlookup : hourlyRuns.versions.lookup 11 = some hourlyVersion := rfl
  have hrunning : ¬ db.world.db.globalPause = true := by
    rw [hpause]
    exact Bool.false_ne_true
  refine ⟨⟨automation, hourlyVersion, hourlyPlan, trigger, selection, generation, none⟩, ?_, ?_⟩
  · unfold prepareSlot
    rw [hpayload]
    dsimp only
    rw [hautomations, hautomation]
    dsimp only
    rw [if_neg (not_not.mpr hactive), if_neg hrunning, if_neg (not_not.mpr hversion), hversions,
      hlookup]
    rw [hruns]
    dsimp only
    rw [hverified]
    dsimp only
    rw [htrigger, hselection, hgeneration]
    change Except.ok (Sum.inr (_, db.selectRevisions selectedIds)) = _
    rw [hselected]
    rfl
  · obtain ⟨editorial, heditorial⟩ := isSome_iff_exists.mp editorialProfile_isSome
    obtain ⟨provider, hprovider⟩ := isSome_iff_exists.mp providerProfile_isSome
    unfold packMode
    rw [hconfig, heditorial, hprovider]
    rfl

def storyOne : StoryRevision := ⟨31, 41, 1⟩

def storyTwo : StoryRevision := ⟨32, 42, 1⟩

def firstSlot : SlotExecution := hourlySlot 51 [41] (by decide) fun n => ⟨BitVec.ofNat 128 (100 + n)⟩

def secondSlot : SlotExecution :=
  hourlySlot 52 [41, 42] (by decide) fun n => ⟨BitVec.ofNat 128 (200 + n)⟩

theorem hourlyState_first : HourlyState hourlyRuns firstSlot.job.id :=
  ⟨rfl, fun _ hmem => absurd hmem not_mem_nil⟩

theorem selectRevisions_first : hourlyRuns.selectRevisions [41] = [storyOne] := by
  decide

theorem selectRevisions_second : hourlyRuns.selectRevisions [41, 42] = [storyOne, storyTwo] := by
  decide

theorem freshIds_first : hourlyRuns.FreshIds firstSlot [storyOne] := by
  refine ⟨fun _ _ => rfl, fun _ _ _ _ => rfl, ?_, pairwise_singleton _ _⟩
  intro revision hmem
  rw [mem_singleton] at hmem
  subst hmem
  decide

theorem answeringJob_hourly {db : RunsDb} {plan : SlotPlan} (hmode : packMode sampleEnv plan = some "off")
    (jobId : UUID) (selectedIds : List UUID) (distinct : selectedIds.Nodup) (draw : Nat → UUID)
    (revision : StoryRevision) :
    db.answeringJob sampleEnv (hourlySlot jobId selectedIds distinct draw) plan revision
      = db.world.db.getByIdempotencyKey (contentPackKey revision.storyId
          (packDigest sampleEnv (.str (uuidStr revision.storyId)))) :=
  answeringJob_eq hmode rfl

theorem startable_first {plan : SlotPlan} (hmode : packMode sampleEnv plan = some "off") :
    hourlyRuns.Startable sampleEnv firstSlot plan storyOne := by
  refine ⟨Bool.false_ne_true, ⟨"off", hmode, rfl, ?_⟩, ?_⟩
  · intro hauto
    exact absurd hauto (by decide)
  · rintro ⟨job, run, hjob, -⟩
    rw [firstSlot, answeringJob_hourly hmode] at hjob
    cases hjob

/-- The tables when the second slot is executed. -/
def afterFirst : RunsDb := hourlyRuns.next sampleEnv Redaction.identity (.slot firstSlot)

theorem afterFirst_served : ∃ plan, packMode sampleEnv plan = some "off"
    ∧ Served sampleEnv hourlyRuns firstSlot plan [storyOne] afterFirst := by
  obtain ⟨plan, hprepare, hmode⟩ := prepareSlot_hourly hourlyState_first [41] (by decide)
    fun n => ⟨BitVec.ofNat 128 (100 + n)⟩
  have hprepare : hourlyRuns.prepareSlot sampleEnv firstSlot = .ok (.inr (plan, [storyOne])) := by
    rw [← selectRevisions_first]
    exact hprepare
  refine ⟨plan, hmode, ?_⟩
  have hnext : afterFirst = commit hourlyRuns (hourlyRuns.handle sampleEnv Redaction.identity firstSlot) :=
    rfl
  rw [handle_inr hprepare] at hnext
  rcases startRevisions_cases (E := sampleEnv) Redaction.identity plan
      (pairwise_singleton _ storyOne) freshIds_first [] with
    ⟨db', runIds, hfold, -, hserved⟩ | ⟨-, stuck, hstuck, -, hnot⟩
  · rw [hfold] at hnext
    rw [hnext]
    exact hserved
  · rw [mem_singleton] at hstuck
    subst hstuck
    exact absurd (startable_first hmode) hnot

theorem afterFirst_runs {triggered : TriggeredRun} (h : triggered ∈ afterFirst.runs.rows) :
    triggered.idempotencyKey = runKey 51 31 ∧ triggered.run.id = firstSlot.runId 31
      ∧ triggered.OfJob 51 := by
  obtain ⟨plan, -, hserved⟩ := afterFirst_served
  rcases hserved.new triggered h with hold | ⟨revision, hmem, hmade⟩
  · cases hold
  rw [mem_singleton] at hmem
  subst hmem
  exact ⟨hmade.key, hmade.id, hmade.ofJob⟩

theorem hourlyState_second : HourlyState afterFirst secondSlot.job.id := by
  obtain ⟨plan, -, hserved⟩ := afterFirst_served
  refine ⟨hserved.setting, ?_⟩
  intro triggered hmem hjob
  have hfirst := (afterFirst_runs hmem).2.2
  unfold TriggeredRun.OfJob at hjob hfirst
  rw [hfirst, Option.some.injEq, Json.str.injEq] at hjob
  have hids := uuidStr_injective hjob
  revert hids
  decide

theorem freshIds_second : afterFirst.FreshIds secondSlot [storyOne, storyTwo] := by
  obtain ⟨plan, -, hserved⟩ := afterFirst_served
  have hdrawn : ∀ revision ∈ [storyOne, storyTwo], ∀ id ∈ secondSlot.drawn revision,
      id ∉ [storyOne].flatMap firstSlot.drawn := by decide
  have hruns : ∀ revision ∈ [storyOne, storyTwo], secondSlot.runId revision.id ≠ firstSlot.runId 31 := by
    decide
  refine ⟨?_, ?_, by decide, by decide⟩
  · intro revision hmem
    rw [Table.lookup, find?_eq_none]
    intro triggered hrow hid
    refine hruns revision hmem ?_
    rw [← (afterFirst_runs hrow).2.1]
    exact (of_decide_eq_true hid).symm
  · intro revision hmem id hid
    exact hserved.adds id rfl (hdrawn revision hmem id hid)

end RunsDb

end NewsCraft.Automations
