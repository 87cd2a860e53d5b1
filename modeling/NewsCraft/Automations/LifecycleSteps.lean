import NewsCraft.Automations.Lifecycle

/-!
# What a lifecycle request does

A request that went through leaves the tables as one of a few writes would. The
schedule table is written under one key, and no two schedules share a key.
-/

namespace NewsCraft.Automations

open Lib Lib.Checked Jobs Table List

theorem automationKey_injective {id id' : UUID} (h : automationKey id = automationKey id') :
    id = id' := by
  have hlist := congrArg String.toList h
  rw [automationKey, automationKey, String.toList_append, String.toList_append] at hlist
  exact uuidStr_injective (String.toList_injective (append_cancel_left hlist))

/-- The payload names the automation and the version. -/
def NamesVersion (payload : Json) (automationId versionId : UUID) : Prop :=
  payload.get? "automation_id" = some (.str (uuidStr automationId))
    ∧ payload.get? "automation_version_id" = some (.str (uuidStr versionId))

theorem namesVersion_payload (automationId versionId : UUID) : NamesVersion (.obj
        [("automation_id", .str (uuidStr automationId)),
          ("automation_version_id", .str (uuidStr versionId))])
      automationId versionId := by
  simp [NamesVersion, Json.get?]

/-! ## The rows of the schedule table -/

/-- The constraint `uq_workflow_schedules_schedule_key`. -/
def KeysUnique (scheduler : SchedulerDb) : Prop :=
  ∀ row ∈ scheduler.schedules.rows, ∀ row' ∈ scheduler.schedules.rows,
    row.scheduleKey = row'.scheduleKey → row = row'

/-- The rows under other keys stay; one under this key is as `P` says. -/
structure Rewritten (key : String) (P : WorkflowSchedule → Prop) (old new : SchedulerDb) : Prop where
  unique : KeysUnique new
  mem : ∀ row ∈ new.schedules.rows,
    (row ∈ old.schedules.rows ∧ row.scheduleKey ≠ key) ∨ (row.scheduleKey = key ∧ P row)

variable {scheduler : SchedulerDb}

theorem Rewritten.refl (hunique : KeysUnique scheduler) (key : String) :
    Rewritten key (fun row => row ∈ scheduler.schedules.rows) scheduler scheduler := by
  refine ⟨hunique, ?_⟩
  intro row hrow
  by_cases hkey : row.scheduleKey = key
  · exact .inr ⟨hkey, hrow⟩
  · exact .inl ⟨hrow, hkey⟩

variable {key : String} {row : WorkflowSchedule}

theorem mem_of_getSchedule (h : scheduler.getSchedule key = some row) :
    row ∈ scheduler.schedules.rows ∧ row.scheduleKey = key := by
  refine ⟨mem_of_find?_eq_some h, ?_⟩
  simpa using find?_some h

theorem ne_of_getSchedule_eq_none (h : scheduler.getSchedule key = none)
    (hrow : row ∈ scheduler.schedules.rows) : row.scheduleKey ≠ key := by
  rw [SchedulerDb.getSchedule, find?_eq_none] at h
  simpa using h row hrow

theorem Rewritten.of_row {P : WorkflowSchedule → Prop} {old new : SchedulerDb}
    (hunique : KeysUnique old)
    (hrow : ∃ written : WorkflowSchedule, (∀ row ∈ new.schedules.rows, (row ∈ old.schedules.rows ∧
      row.scheduleKey ≠ key) ∨ row = written) ∧ written.scheduleKey = key ∧ P written) :
    Rewritten key P old new := by
  obtain ⟨written, hmem, hwritten⟩ := hrow
  refine ⟨?_, ?_⟩
  · intro row hrow row' hrow' hkey
    rcases hmem row hrow with ⟨hold, hne⟩ | rfl
    · rcases hmem row' hrow' with ⟨hold', -⟩ | rfl
      · exact hunique row hold row' hold' hkey
      · exact absurd (hkey.trans hwritten.1) hne
    · rcases hmem row' hrow' with ⟨-, hne'⟩ | rfl
      · exact absurd (hkey.symm.trans hwritten.1) hne'
      · rfl
  · intro row hrow
    rcases hmem row hrow with hold | rfl
    · exact .inl hold
    · exact .inr hwritten

theorem enableSchedule_of_none {db : DefinitionDb} {automationId : UUID} {enabled : Bool}
    (h : db.scheduler.getSchedule (automationKey automationId) = none) :
    db.enableSchedule automationId enabled = db.scheduler := by
  unfold DefinitionDb.enableSchedule
  rw [h]

theorem enableSchedule_of_some {db : DefinitionDb} {automationId : UUID} {enabled : Bool}
    {schedule : WorkflowSchedule}
    (h : db.scheduler.getSchedule (automationKey automationId) = some schedule) :
    (db.enableSchedule automationId enabled).schedules
      = db.scheduler.schedules.put { schedule with enabled := enabled } := by
  have hlookup : db.scheduler.schedules.lookup schedule.id = some schedule :=
    lookup_of_mem (mem_of_getSchedule h).1
  unfold DefinitionDb.enableSchedule
  rw [h]
  dsimp only
  unfold SchedulerDb.setScheduleEnabled
  rw [hlookup]

theorem enableSchedule_rewritten {db : DefinitionDb} (hunique : KeysUnique db.scheduler)
    (automationId : UUID) (enabled : Bool) : Rewritten (automationKey automationId)
      (fun row => row.enabled = enabled ∧ ∃ before ∈ db.scheduler.schedules.rows,
        before.scheduleKey = automationKey automationId ∧ row.payload = before.payload)
      db.scheduler (db.enableSchedule automationId enabled) := by
  cases hfind : db.scheduler.getSchedule (automationKey automationId) with
  | none =>
    rw [enableSchedule_of_none hfind]
    refine ⟨hunique, ?_⟩
    intro row hrow
    exact .inl ⟨hrow, ne_of_getSchedule_eq_none hfind hrow⟩
  | some schedule =>
    obtain ⟨hmem, hkey⟩ := mem_of_getSchedule hfind
    refine Rewritten.of_row hunique ⟨{ schedule with enabled := enabled }, ?_, hkey, rfl,
      schedule, hmem, hkey, rfl⟩
    intro row hrow
    rw [enableSchedule_of_some hfind] at hrow
    rcases mem_put hrow with ⟨hwritten, -⟩ | ⟨hold, hid⟩
    · exact .inr hwritten
    refine .inl ⟨hold, ?_⟩
    intro hsame
    rw [hunique row hold schedule hmem (hsame.trans hkey.symm)] at hid
    exact hid rfl

theorem enableSchedule_mem {db : DefinitionDb} {automationId : UUID}
    (hunique : KeysUnique db.scheduler) (hrow : row ∈ db.scheduler.schedules.rows)
    (hkey : row.scheduleKey = automationKey automationId) (enabled : Bool) :
    { row with enabled := enabled } ∈ (db.enableSchedule automationId enabled).schedules.rows := by
  cases hfind : db.scheduler.getSchedule (automationKey automationId) with
  | none => exact absurd hkey (ne_of_getSchedule_eq_none hfind hrow)
  | some schedule =>
    obtain ⟨hmem, hkey'⟩ := mem_of_getSchedule hfind
    have hsame : row = schedule := hunique row hrow schedule hmem (hkey.trans hkey'.symm)
    rw [enableSchedule_of_some hfind, hsame]
    exact mem_put_self hmem rfl

theorem materializeSchedule_rewritten {zoneInfo : ZoneInfo}
    {automationId versionId scheduleId : UUID} {config : SchedulerDb.ScheduleConfig}
    {now nextRun : Datetime} (hunique : KeysUnique scheduler)
    (hnext : SchedulerDb.nextScheduleRun zoneInfo config now = some nextRun) :
    Rewritten (automationKey automationId)
      (fun row => NamesVersion row.payload automationId versionId) scheduler
      (scheduler.materializeSchedule zoneInfo automationId versionId config scheduleId now) := by
  unfold SchedulerDb.materializeSchedule
  rw [hnext]
  dsimp only
  cases hfind : scheduler.getSchedule ("automation:" ++ uuidStr automationId) with
  | some schedule =>
    obtain ⟨hmem, hkey⟩ := mem_of_getSchedule hfind
    apply Rewritten.of_row hunique
    constructor
    refine And.intro ?_ (And.intro ?_ ?_)
    · intro row hrow
      rcases mem_put hrow with ⟨hwritten, -⟩ | ⟨hold, hid⟩
      · exact .inr hwritten
      refine .inl ⟨hold, ?_⟩
      intro hsame
      rw [hunique row hold schedule hmem (hsame.trans hkey.symm)] at hid
      exact hid rfl
    · exact hkey
    · exact namesVersion_payload automationId versionId
  | none =>
    apply Rewritten.of_row hunique
    constructor
    refine And.intro ?_ (And.intro ?_ ?_)
    · intro row hrow
      rcases mem_insert hrow with hwritten | hold
      · exact .inr hwritten
      · exact .inl ⟨hold, ne_of_getSchedule_eq_none hfind hold⟩
    · rfl
    · exact namesVersion_payload automationId versionId

/-! ## What a request that went through did -/

section Requests

variable {E : ServiceEnv} {db db' : DefinitionDb} {automationId versionId : UUID}
  {expectedRevision : Int} {idempotencyKey : String} {graph : WorkflowGraphV1}

variable {automation out : Automation}

theorem flush_ok (h : db.flush automation = .ok (out, db')) :
    (automation.lifecycle = .archived ↔ automation.archivedAt.isSome)
      ∧ db' = { db with automations := db.automations.put automation } := by
  rw [DefinitionDb.flush] at h
  simp only [bind_ok_iff, require_ok_iff] at h
  obtain ⟨-, hstate, heq⟩ := h
  cases heq
  exact ⟨hstate, rfl⟩

variable {version : AutomationVersion}

theorem newVersion_id {versionNumber : Nat}
    (h : DefinitionDb.newVersion E automationId graph versionNumber idempotencyKey versionId = .ok
      version) : version.id = versionId := by
  rw [DefinitionDb.newVersion] at h
  simp only [bind_ok_iff] at h
  obtain ⟨plan, -, heq⟩ := h
  cases heq
  rfl

theorem createAutomation_ok {name : String}
    (h : DefinitionDb.createAutomation E db name graph idempotencyKey automationId versionId = .ok
      (out, db')) :
    db' = db ∨ ∃ version, db.automations.lookup out.id = none
      ∧ out.lifecycle = .inactive ∧ out.activeVersionId = none ∧ out.archivedAt = none
      ∧ db' = { db with
          automations := db.automations.insert out
          versions := db.versions.insert version } := by
  unfold DefinitionDb.createAutomation at h
  split at h
  · simp only [bind_ok_iff, require_ok_iff] at h
    obtain ⟨-, -, heq⟩ := h
    cases heq
    exact .inl rfl
  · simp only [bind_ok_iff, require_ok_iff] at h
    obtain ⟨-, -, version, -, -, hfree, -, -, heq⟩ := h
    cases heq
    exact .inr ⟨version, hfree, rfl, rfl, rfl, rfl⟩

theorem createVersion_ok {out : AutomationVersion}
    (h : DefinitionDb.createVersion E db automationId expectedRevision graph idempotencyKey
      versionId = .ok (out, db')) :
    db' = db ∨ ∃ automation, db.automations.lookup automationId = some automation
      ∧ (automation.lifecycle = .archived ↔ automation.archivedAt.isSome)
      ∧ db' = { db with
          automations := db.automations.put { automation with
              draftVersionId := some out.id
              revision := automation.revision + 1 }
          versions := db.versions.insert out } := by
  unfold DefinitionDb.createVersion at h
  rw [bind_ok_iff] at h
  obtain ⟨automation, hautomation, h⟩ := h
  rw [DefinitionDb.automationForUpdate, orStop_ok_iff] at hautomation
  split at h
  · simp only [bind_ok_iff, require_ok_iff] at h
    obtain ⟨-, -, heq⟩ := h
    cases heq
    exact .inl rfl
  · simp only [bind_ok_iff, require_ok_iff] at h
    obtain ⟨-, -, -, -, -, -, version, -, -, -, ⟨row, flushed⟩, hflush, heq⟩ := h
    obtain ⟨hstate, hdb⟩ := flush_ok hflush
    cases heq
    exact .inr ⟨automation, hautomation, hstate, hdb⟩

theorem restoreVersion_ok {versionNumber : Nat} {out : AutomationVersion}
    (h : DefinitionDb.restoreVersion E db automationId versionNumber expectedRevision
      idempotencyKey versionId = .ok (out, db')) :
    ∃ graph, DefinitionDb.createVersion E db automationId expectedRevision graph idempotencyKey
      versionId = .ok (out, db') := by
  rw [DefinitionDb.restoreVersion] at h
  simp only [bind_ok_iff] at h
  obtain ⟨-, -, graph, -, h⟩ := h
  exact ⟨graph, h⟩

variable {now : Datetime}

theorem archive_ok {activeRun routeEnabled : Bool}
    (h : db.archive automationId expectedRevision activeRun routeEnabled now = .ok (out, db')) :
    ∃ automation, db.automations.lookup automationId = some automation ∧ db' = { db with
          automations := db.automations.put { automation with
              lifecycle := .archived
              archivedAt := some now
              revision := automation.revision + 1 }
          scheduler := db.enableSchedule automationId false } := by
  rw [DefinitionDb.archive] at h
  simp only [bind_ok_iff, require_ok_iff] at h
  obtain ⟨automation, hautomation, -, -, -, -, -, -, -, -, hflush⟩ := h
  rw [DefinitionDb.automationForUpdate, orStop_ok_iff] at hautomation
  exact ⟨automation, hautomation, (flush_ok hflush).2⟩

theorem pause_ok (h : db.pause automationId expectedRevision = .ok (out, db')) :
    ∃ automation, db.automations.lookup automationId = some automation
      ∧ automation.archivedAt.isSome = false
      ∧ db' = { db with
          automations := db.automations.put { automation with
              lifecycle := .paused
              revision := automation.revision + 1 }
          scheduler := db.enableSchedule automationId false } := by
  rw [DefinitionDb.pause] at h
  simp only [bind_ok_iff, require_ok_iff] at h
  obtain ⟨automation, hautomation, -, -, -, -, hflush⟩ := h
  rw [DefinitionDb.automationForUpdate, orStop_ok_iff] at hautomation
  obtain ⟨hstate, hdb⟩ := flush_ok hflush
  refine ⟨automation, hautomation, ?_, hdb⟩
  simpa using hstate

theorem resume_ok {refusal : Option DefinitionError}
    (h : db.resume automationId expectedRevision refusal = .ok (out, db')) :
    ∃ automation, db.automations.lookup automationId = some automation
      ∧ automation.revision = expectedRevision ∧ automation.lifecycle = .paused ∧ refusal = none
      ∧ automation.archivedAt.isSome = false
      ∧ db' = { db with
          automations := db.automations.put { automation with
              lifecycle := if automation.activeVersionId.isSome then .active else .inactive
              revision := automation.revision + 1 }
          scheduler :=
            if automation.activeVersionId.isSome then db.enableSchedule automationId true
            else db.scheduler } := by
  rw [DefinitionDb.resume] at h
  simp only [bind_ok_iff, require_ok_iff, refuse_ok_iff] at h
  obtain ⟨automation, hautomation, _, hrevision, -, hpaused, -, hrefusal, hflush⟩ := h
  rw [DefinitionDb.automationForUpdate, orStop_ok_iff] at hautomation
  rw [DefinitionDb.checkRevision, require_ok_iff] at hrevision
  obtain ⟨hstate, hdb⟩ := flush_ok hflush
  refine ⟨automation, hautomation, hrevision, hpaused, Option.map_eq_none_iff.mp hrefusal, ?_, ?_⟩
  · cases hactive : automation.activeVersionId.isSome with
    | true | false => simpa [hactive] using hstate
  · cases hactive : automation.activeVersionId.isSome with
    | true | false => simpa [hactive] using hdb

variable {plan : CompiledWorkflowPlan}

theorem verifiedPlan_of_compiles (hcompile : compileGraph E.definitions E.turns graph = .ok plan)
    (hgraph : E.readGraph version.graph = some graph) (hdump : version.compiledPlan = plan.dump)
    (hread : E.readPlan plan.dump = some plan) : E.verifiedPlan version = .ok plan := by
  have hversion : plan.dump.get? "compiler_version" = some (.str compilerVersion) := by
    obtain ⟨_, _, _, _, _, rfl⟩ := compileGraph_ok_iff.mp hcompile
    rfl
  have hverified : verifyCompiledPlan E.definitions E.readPlan E.turns graph version.compiledPlan
      = .ok plan := by
    unfold verifyCompiledPlan
    rw [hdump, hversion, if_neg (by decide), hread, hcompile]
    dsimp only
    rw [if_neg (by simp)]
  refine bind_ok_iff.mpr ⟨graph, orStop_ok_iff.mpr hgraph, ?_⟩
  rw [hverified]
  rfl

theorem newVersion_of_compiles (hnodes : graph.nodes ≠ [])
    (hcompile : compileGraph E.definitions E.turns graph = .ok plan) (automationId versionId : UUID)
    (versionNumber : Nat) (idempotencyKey : String) :
    DefinitionDb.newVersion E automationId graph versionNumber idempotencyKey versionId = .ok
        { id := versionId
          automationId := automationId
          version := versionNumber
          graph := canonicalGraphData graph
          graphHash := graphSha256 E.definitions graph
          compiledPlan := plan.dump
          idempotencyKey := some idempotencyKey } := by
  refine bind_ok_iff.mpr ⟨plan.dump, ?_, rfl⟩
  unfold DefinitionDb.compiledPlan
  rw [if_neg hnodes, hcompile]

theorem draftToActivate_of_valid (hdraft : automation.draftVersionId = some version.id)
    (hlookup : db.versions.lookup version.id = some version)
    (hnumber : db.versionByNumber automation.id version.version = .ok version)
    (hgraph : E.readGraph version.graph = some graph)
    (hfindings : graphFindings E.definitions graph = []) (hplan : E.verifiedPlan version = .ok plan)
    : DefinitionDb.draftToActivate E db automation [] = .ok (version, plan) := by
  refine bind_ok_iff.mpr ⟨version.id, orStop_ok_iff.mpr hdraft, ?_⟩
  refine bind_ok_iff.mpr ⟨version, orStop_ok_iff.mpr hlookup, ?_⟩
  refine bind_ok_iff.mpr ⟨_, bind_ok_iff.mpr ⟨version, hnumber,
    bind_ok_iff.mpr ⟨graph, orStop_ok_iff.mpr hgraph, rfl⟩⟩, ?_⟩
  refine bind_ok_iff.mpr ⟨(), require_ok_iff.mpr ?_, bind_ok_iff.mpr ⟨plan, hplan, rfl⟩⟩
  simp [validateGraph, hfindings]

theorem requireSaveable_of_findings (hfindings : graphFindings E.definitions graph = []) :
    DefinitionDb.requireSaveable E graph = .ok () := by
  unfold DefinitionDb.requireSaveable
  have hnone : (validateGraph E.definitions graph).findings = [] := hfindings
  rw [hnone]
  by_cases hnodes : graph.nodes = []
  · rw [if_pos hnodes]
  rw [if_neg hnodes]
  rfl

variable {findings : List ValidationFinding}

theorem draftToActivate_ok
    (h : DefinitionDb.draftToActivate E db automation findings = .ok (version, plan)) :
    db.versions.lookup version.id = some version ∧ E.verifiedPlan version = .ok plan := by
  rw [DefinitionDb.draftToActivate] at h
  simp only [bind_ok_iff, require_ok_iff, orStop_ok_iff] at h
  obtain ⟨draftVersionId, -, version', hversion, -, -, -, -, plan', hplan, heq⟩ := h
  cases heq
  have hid : version.id = draftVersionId := key_of_lookup hversion
  rw [hid]
  exact ⟨hversion, hplan⟩

variable {prompts : Option DefinitionError} {scheduleId : UUID}

theorem activate_ok
    (h : DefinitionDb.activate E db automationId expectedRevision idempotencyKey findings prompts
      scheduleId now = .ok (out, db')) :
    db' = db ∨ ∃ automation version plan scheduler,
      db.automations.lookup automationId = some automation
      ∧ automation.revision = expectedRevision
      ∧ ¬ DefinitionDb.Activated automation idempotencyKey
      ∧ DefinitionDb.draftToActivate E db automation findings = .ok (version, plan)
      ∧ DefinitionDb.materializeRuntimeProjection E db automation version plan prompts scheduleId
          now = .ok scheduler
      ∧ automation.archivedAt.isSome = false
      ∧ db' = { db with
          automations := db.automations.put { automation with
              activeVersionId := some version.id
              lifecycle := .active
              activationIdempotencyKey := some idempotencyKey
              revision := automation.revision + 1 }
          scheduler := scheduler } := by
  unfold DefinitionDb.activate at h
  rw [bind_ok_iff] at h
  obtain ⟨automation, hautomation, h⟩ := h
  rw [DefinitionDb.automationForUpdate, orStop_ok_iff] at hautomation
  by_cases hreplay : DefinitionDb.Activated automation idempotencyKey
  · rw [if_pos hreplay] at h
    cases h
    exact .inl rfl
  · rw [if_neg hreplay] at h
    simp only [bind_ok_iff] at h
    obtain ⟨_, hrevision, ⟨version, plan⟩, hdraft, scheduler, hscheduler, hflush⟩ := h
    rw [DefinitionDb.checkRevision, require_ok_iff] at hrevision
    obtain ⟨hstate, hdb⟩ := flush_ok hflush
    refine .inr ⟨automation, version, plan, scheduler, hautomation, hrevision, hreplay, hdraft,
      hscheduler, ?_, hdb⟩
    simpa using hstate

theorem materializeRuntimeProjection_of_ne (h : plan.triggerKind ≠ .schedule) :
    DefinitionDb.materializeRuntimeProjection E db automation version plan prompts scheduleId now
      = .ok db.scheduler := by
  rw [DefinitionDb.materializeRuntimeProjection, if_neg h]

theorem materializeRuntimeProjection_rewritten {scheduler : SchedulerDb}
    (hunique : KeysUnique db.scheduler) (hschedule : plan.triggerKind = .schedule)
    (h : DefinitionDb.materializeRuntimeProjection E db automation version plan prompts scheduleId
      now = .ok scheduler) : Rewritten (automationKey automation.id)
      (fun row => NamesVersion row.payload automation.id version.id) db.scheduler scheduler := by
  rw [DefinitionDb.materializeRuntimeProjection, if_pos hschedule] at h
  split at h
  · simp only [bind_ok_iff, require_ok_iff, refuse_ok_iff, orStop_ok_iff] at h
    obtain ⟨-, -, config, -, nextRun, hnext, -, -, heq⟩ := h
    cases heq
    exact materializeSchedule_rewritten hunique hnext
  · cases h

theorem lookup_put_automation {automation' : Automation}
    (hlookup : db.automations.lookup automationId = some automation)
    (hid : automation'.id = automation.id) :
    (db.automations.put automation').lookup automationId = some automation' := by
  have hkey : automation'.id = automationId := hid.trans (key_of_lookup hlookup)
  rw [← hkey] at hlookup ⊢
  exact lookup_put_self hlookup

theorem flush_of_state (h : automation.lifecycle = .archived ↔ automation.archivedAt.isSome) :
    db.flush automation
      = .ok (automation, { db with automations := db.automations.put automation }) :=
  bind_ok_iff.mpr ⟨(), require_ok_iff.mpr h, rfl⟩

theorem activate_of_ne (hlookup : db.automations.lookup automationId = some automation)
    (hrevision : automation.revision = expectedRevision)
    (hreplay : ¬ DefinitionDb.Activated automation idempotencyKey)
    (hdraft : DefinitionDb.draftToActivate E db automation findings = .ok (version, plan))
    (hkind : plan.triggerKind ≠ .schedule) (hunarchived : automation.archivedAt.isSome = false)
    (prompts : Option DefinitionError) (scheduleId : UUID) (now : Datetime) :
    ∃ automation', automation'.id = automation.id ∧ automation'.activeVersionId = some version.id
      ∧ DefinitionDb.activate E db automationId expectedRevision idempotencyKey findings prompts
          scheduleId now
        = .ok (automation', { db with automations := db.automations.put automation' }) := by
  refine ⟨{ automation with
      activeVersionId := some version.id
      lifecycle := .active
      activationIdempotencyKey := some idempotencyKey
      revision := automation.revision + 1 }, rfl, rfl, ?_⟩
  refine bind_ok_iff.mpr ⟨automation, orStop_ok_iff.mpr hlookup, ?_⟩
  rw [if_neg hreplay]
  refine bind_ok_iff.mpr ⟨(), require_ok_iff.mpr hrevision, ?_⟩
  refine bind_ok_iff.mpr ⟨(version, plan), hdraft, ?_⟩
  refine bind_ok_iff.mpr ⟨db.scheduler, materializeRuntimeProjection_of_ne hkind, ?_⟩
  exact flush_of_state (by simp [hunarchived])

theorem resume_of_paused (hlookup : db.automations.lookup automationId = some automation)
    (hrevision : automation.revision = expectedRevision) (hpaused : automation.lifecycle = .paused)
    (hactive : automation.activeVersionId = some versionId)
    (hunarchived : automation.archivedAt.isSome = false) :
    ∃ automation', automation'.id = automation.id ∧ automation'.activeVersionId = some versionId
      ∧ db.resume automationId expectedRevision none = .ok (automation', { db with
            automations := db.automations.put automation'
            scheduler := db.enableSchedule automationId true }) := by
  refine ⟨{ automation with
      lifecycle := .active
      revision := automation.revision + 1 }, rfl, hactive, ?_⟩
  refine bind_ok_iff.mpr ⟨automation, orStop_ok_iff.mpr hlookup, ?_⟩
  refine bind_ok_iff.mpr ⟨(), require_ok_iff.mpr hrevision, ?_⟩
  refine bind_ok_iff.mpr ⟨(), require_ok_iff.mpr hpaused, ?_⟩
  refine bind_ok_iff.mpr ⟨(), refuse_ok_iff.mpr rfl, ?_⟩
  simp only [hactive, Option.isSome_some, if_true]
  exact flush_of_state (by simp [hunarchived])

end Requests

end NewsCraft.Automations
