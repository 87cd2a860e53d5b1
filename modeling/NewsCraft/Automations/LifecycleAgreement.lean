import NewsCraft.Automations.LifecycleSteps

/-!
# An automation and its schedule

An enabled schedule should say that its automation is active, and which version is. But an
activation of a version with another trigger returns before it looks at the schedule, and
`resume` enables whatever row there is, so the agreement holds on the runs that do neither
while a row stands in the way, and is lost by every request that does.
-/

namespace NewsCraft.Automations

open Lib Lib.Checked Jobs Table Option List

/-! ## Agreement -/

/-- The automation is active, and the payload names its active version, which has a schedule. -/
def RunsVersion (E : ServiceEnv) (db : DefinitionDb) (automationId : UUID) (payload : Json) : Prop :=
  ∃ automation version, db.automations.lookup automationId = some automation
    ∧ automation.lifecycle = .active
    ∧ automation.activeVersionId = some version.id
    ∧ db.versions.lookup version.id = some version
    ∧ NamesVersion payload automationId version.id
    ∧ E.Scheduled version

structure Agrees (E : ServiceEnv) (db : DefinitionDb) : Prop where
  archived : ∀ automation ∈ db.automations.rows,
    automation.lifecycle = .archived ↔ automation.archivedAt.isSome
  enabled : ∀ automationId, ∀ row ∈ db.scheduler.schedules.rows,
    row.scheduleKey = automationKey automationId → row.enabled = true →
      RunsVersion E db automationId row.payload

/-- The request does not put a version with another trigger in the place of the one an
enabled schedule runs, and does not resume one of which a schedule is left. -/
def KeepsSchedule (E : ServiceEnv) (db : DefinitionDb) : LifecycleRequest → Prop
  | .activate automationId expectedRevision idempotencyKey findings _ _ _ =>
    ∀ automation version plan, db.automations.lookup automationId = some automation →
      automation.revision = expectedRevision →
      ¬ DefinitionDb.Activated automation idempotencyKey →
      DefinitionDb.draftToActivate E db automation findings = .ok (version, plan) →
      plan.triggerKind ≠ .schedule →
      ∀ row ∈ db.scheduler.schedules.rows, row.scheduleKey = automationKey automationId →
        row.enabled = false
  | .resume automationId expectedRevision refusal =>
    ∀ automation version, db.automations.lookup automationId = some automation →
      automation.revision = expectedRevision → automation.lifecycle = .paused → refusal = none →
      automation.activeVersionId = some version.id →
      db.versions.lookup version.id = some version →
      ∀ row ∈ db.scheduler.schedules.rows, row.scheduleKey = automationKey automationId →
        E.Scheduled version
  | _ => True

/-! ## The invariant -/

/-- A schedule under the automation's key names its active version, if that runs on
one, and is enabled only while it does. -/
structure AgreesAt (E : ServiceEnv) (db : DefinitionDb) (automationId : UUID) : Prop where
  named : ∀ automation versionId, db.automations.lookup automationId = some automation →
    automation.activeVersionId = some versionId →
    ∃ version, db.versions.lookup versionId = some version
      ∧ (E.Scheduled version → ∀ row ∈ db.scheduler.schedules.rows,
        row.scheduleKey = automationKey automationId →
          NamesVersion row.payload automationId versionId)
  enabled : ∀ row ∈ db.scheduler.schedules.rows, row.scheduleKey = automationKey automationId →
    row.enabled = true → RunsVersion E db automationId row.payload

structure LifecycleInv (E : ServiceEnv) (db : DefinitionDb) : Prop where
  unique : KeysUnique db.scheduler
  archived : db.automations.All fun automation =>
    automation.lifecycle = .archived ↔ automation.archivedAt.isSome
  agrees : ∀ automationId, AgreesAt E db automationId

theorem LifecycleInv.sound {E : ServiceEnv} {db : DefinitionDb} (h : LifecycleInv E db) :
    Agrees E db :=
  ⟨h.archived, fun automationId => (h.agrees automationId).enabled⟩

variable {E : ServiceEnv} {db db' : DefinitionDb} {automationId : UUID}

/-- What of an automation its schedule has to agree with. -/
def Automation.standing (automation : Automation) : Lifecycle × Option UUID :=
  (automation.lifecycle, automation.activeVersionId)

theorem AgreesAt.frame (h : AgreesAt E db automationId)
    (hstanding : (db'.automations.lookup automationId).map Automation.standing
      = (db.automations.lookup automationId).map Automation.standing)
    (hversions : ∀ versionId version, db.versions.lookup versionId = some version →
      db'.versions.lookup versionId = some version)
    (hrows : ∀ row ∈ db'.scheduler.schedules.rows, row.scheduleKey = automationKey automationId →
      row ∈ db.scheduler.schedules.rows) : AgreesAt E db' automationId := by
  refine ⟨?_, ?_⟩
  · intro automation' versionId hlookup hactive
    rw [hlookup, map_some] at hstanding
    obtain ⟨automation, hbefore, hsame⟩ := map_eq_some_iff.mp hstanding.symm
    have hactive' : automation.activeVersionId = some versionId :=
      (congrArg Prod.snd hsame).trans hactive
    obtain ⟨version, hversion, hnames⟩ := h.named automation versionId hbefore hactive'
    refine ⟨version, hversions versionId version hversion, ?_⟩
    intro hscheduled row hrow hkey
    exact hnames hscheduled row (hrows row hrow hkey) hkey
  · intro row hrow hkey henabled
    obtain ⟨automation, version, hlookup, hlive, hactive, hversion, hnames, hscheduled⟩ :=
      h.enabled row (hrows row hrow hkey) hkey henabled
    rw [hlookup, map_some] at hstanding
    obtain ⟨automation', hafter, hsame⟩ := map_eq_some_iff.mp hstanding
    exact ⟨automation', version, hafter, (congrArg Prod.fst hsame).trans hlive,
      (congrArg Prod.snd hsame).trans hactive, hversions version.id version hversion, hnames,
      hscheduled⟩

variable {automation : Automation}

theorem LifecycleInv.write {automation' : Automation} {versions : Table AutomationVersion}
    {scheduler : SchedulerDb} {P : WorkflowSchedule → Prop} (h : LifecycleInv E db)
    (hlookup : db.automations.lookup automationId = some automation)
    (hid : automation'.id = automation.id)
    (harchived : automation'.lifecycle = .archived ↔ automation'.archivedAt.isSome)
    (hversions : ∀ versionId version, db.versions.lookup versionId = some version → versions.lookup
      versionId = some version)
    (hscheduler : Rewritten (automationKey automationId) P db.scheduler scheduler)
    (hat : (db.automations.put automation').lookup automationId = some automation' → AgreesAt E
      ⟨db.automations.put automation', versions, scheduler⟩ automationId) :
    LifecycleInv E ⟨db.automations.put automation', versions, scheduler⟩ := by
  have hkey : automation'.id = automationId := hid.trans (key_of_lookup hlookup)
  refine ⟨hscheduler.unique, h.archived.put harchived, ?_⟩
  intro other
  by_cases hother : other = automationId
  · subst hother
    exact hat (lookup_put_automation hlookup hid)
  · refine (h.agrees other).frame ?_ hversions ?_
    · have hne : other ≠ automation'.id := by
        rw [hkey]
        exact hother
      exact congrArg _ (lookup_put_of_ne hne)
    · intro row hrow hrowKey
      rcases hscheduler.mem row hrow with ⟨hold, -⟩ | ⟨hsame, -⟩
      · exact hold
      · exact absurd (automationKey_injective (hrowKey.symm.trans hsame)) hother

/-! ## What each request preserves -/

theorem not_scheduled_of_plan {version : AutomationVersion} {plan : CompiledWorkflowPlan}
    (hplan : E.verifiedPlan version = .ok plan) (hkind : plan.triggerKind ≠ .schedule) :
    ¬ E.Scheduled version := by
  rintro ⟨plan', hplan', hkind'⟩
  rw [hplan, Except.ok.injEq] at hplan'
  exact hkind (hplan' ▸ hkind')

variable {graph : WorkflowGraphV1} {idempotencyKey : String} {out : Automation}

theorem LifecycleInv.createAutomation (h : LifecycleInv E db) {name : String} {versionId : UUID}
    (hok : DefinitionDb.createAutomation E db name graph idempotencyKey automationId versionId = .ok
      (out, db')) : LifecycleInv E db' := by
  rcases createAutomation_ok hok with rfl | ⟨version, hfree, hinactive, hnone, hunarchived, rfl⟩
  · exact h
  refine ⟨h.unique, h.archived.insert (by rw [hinactive, hunarchived]; simp), ?_⟩
  intro other
  by_cases hother : other = out.id
  · subst hother
    refine ⟨?_, ?_⟩
    · intro automation active hlookup hactive
      have hself : (db.automations.insert out).lookup out.id = some out :=
        (lookup_insert hfree).1
      have hout : out = automation := Option.some.inj (hself.symm.trans hlookup)
      rw [← hout, hnone] at hactive
      cases hactive
    · intro row hrow hkey henabled
      obtain ⟨automation, _, hlookup, -⟩ := (h.agrees out.id).enabled row hrow hkey henabled
      rw [hfree] at hlookup
      cases hlookup
  · refine (h.agrees other).frame ?_ ?_ ?_
    · exact congrArg _ ((lookup_insert hfree).2 other hother)
    · intro active old hold
      exact lookup_insert_of_some hold
    · intro row hrow _
      exact hrow

variable {expectedRevision : Int}

theorem LifecycleInv.createVersion (h : LifecycleInv E db) {versionId : UUID}
    {out : AutomationVersion}
    (hok : DefinitionDb.createVersion E db automationId expectedRevision graph idempotencyKey
      versionId = .ok (out, db')) : LifecycleInv E db' := by
  rcases createVersion_ok hok with rfl | ⟨automation, hlookup, hstate, rfl⟩
  · exact h
  have hversions : ∀ active version, db.versions.lookup active = some version →
      (db.versions.insert out).lookup active = some version := fun _ _ hold =>
    lookup_insert_of_some hold
  refine h.write hlookup rfl hstate hversions (Rewritten.refl h.unique _) ?_
  intro hafter
  refine (h.agrees automationId).frame ?_ hversions ?_
  · rw [hafter, hlookup]
    rfl
  · intro row hrow _
    exact hrow

theorem LifecycleInv.disable (h : LifecycleInv E db) {automation' : Automation}
    (hlookup : db.automations.lookup automationId = some automation)
    (hid : automation'.id = automation.id)
    (harchived : automation'.lifecycle = .archived ↔ automation'.archivedAt.isSome)
    (hactive : automation'.activeVersionId = automation.activeVersionId) : LifecycleInv E
      ⟨db.automations.put automation', db.versions, db.enableSchedule automationId false⟩ := by
  have hrewritten := enableSchedule_rewritten h.unique automationId false
  refine h.write hlookup hid harchived (fun _ _ hold => hold) hrewritten ?_
  intro hafter
  refine ⟨?_, ?_⟩
  · intro found versionId hfound hversionId
    rw [hafter, Option.some.injEq] at hfound
    rw [← hfound, hactive] at hversionId
    obtain ⟨version, hversion, hnames⟩ := (h.agrees automationId).named automation versionId hlookup
      hversionId
    refine ⟨version, hversion, ?_⟩
    intro hscheduled row hrow hkey
    rcases hrewritten.mem row hrow with ⟨-, hne⟩ | ⟨-, -, before, hbefore, hkey', hpayload⟩
    · exact absurd hkey hne
    rw [hpayload]
    exact hnames hscheduled before hbefore hkey'
  · intro row hrow hkey henabled
    rcases hrewritten.mem row hrow with ⟨-, hne⟩ | ⟨-, hdisabled, -⟩
    · exact absurd hkey hne
    rw [hdisabled] at henabled
    cases henabled

theorem LifecycleInv.archive (h : LifecycleInv E db) {activeRun routeEnabled : Bool}
    {now : Datetime}
    (hok : db.archive automationId expectedRevision activeRun routeEnabled now = .ok (out, db')) :
    LifecycleInv E db' := by
  obtain ⟨automation, hlookup, rfl⟩ := archive_ok hok
  exact h.disable hlookup rfl (by simp) rfl

theorem LifecycleInv.pause (h : LifecycleInv E db)
    (hok : db.pause automationId expectedRevision = .ok (out, db')) : LifecycleInv E db' := by
  obtain ⟨automation, hlookup, hunarchived, rfl⟩ := pause_ok hok
  exact h.disable hlookup rfl (by simp [hunarchived]) rfl

theorem LifecycleInv.resume (h : LifecycleInv E db) {refusal : Option DefinitionError}
    (hkeeps : KeepsSchedule E db (.resume automationId expectedRevision refusal))
    (hok : db.resume automationId expectedRevision refusal = .ok (out, db')) :
    LifecycleInv E db' := by
  obtain ⟨automation, hlookup, hrevision, hpaused, hrefusal, hunarchived, rfl⟩ := resume_ok hok
  cases hactive : automation.activeVersionId with
  | none =>
    -- the automation becomes inactive, and its schedule was disabled while it was paused
    refine h.write hlookup rfl (by simp [hunarchived]) (fun _ _ hold => hold)
      (Rewritten.refl h.unique _) ?_
    intro hafter
    refine ⟨?_, ?_⟩
    · intro found versionId hfound hversionId
      rw [hafter, Option.some.injEq] at hfound
      rw [← hfound] at hversionId
      cases hversionId
    · intro row hrow hkey henabled
      obtain ⟨found, _, hfound, hlive, -⟩ := (h.agrees automationId).enabled row hrow hkey henabled
      rw [hlookup, Option.some.injEq] at hfound
      rw [← hfound, hpaused] at hlive
      cases hlive
  | some versionId =>
    have hrewritten := enableSchedule_rewritten h.unique automationId true
    obtain ⟨version, hversion, hnames⟩ :=
      (h.agrees automationId).named automation versionId hlookup hactive
    have hid : version.id = versionId := key_of_lookup hversion
    have hrow : ∀ row ∈ (db.enableSchedule automationId true).schedules.rows,
        row.scheduleKey = automationKey automationId →
          E.Scheduled version ∧ NamesVersion row.payload automationId versionId := by
      intro row hrow hkey
      rcases hrewritten.mem row hrow with ⟨-, hne⟩ | ⟨-, -, before, hbefore, hkey', hpayload⟩
      · exact absurd hkey hne
      have hscheduled : E.Scheduled version :=
        hkeeps automation version hlookup hrevision hpaused hrefusal (by rw [hid]; exact hactive)
          (by rw [hid]; exact hversion) before hbefore hkey'
      rw [hpayload]
      exact ⟨hscheduled, hnames hscheduled before hbefore hkey'⟩
    refine h.write hlookup rfl (by simp [hunarchived]) (fun _ _ hold => hold) hrewritten ?_
    intro hafter
    refine ⟨?_, ?_⟩
    · intro found active hfound hfoundActive
      rw [hafter, Option.some.injEq] at hfound
      rw [← hfound] at hfoundActive
      cases hfoundActive
      exact ⟨version, hversion, fun _ row hmem hkey => (hrow row hmem hkey).2⟩
    · intro row hmem hkey _
      obtain ⟨hscheduled, hpayload⟩ := hrow row hmem hkey
      rw [← hid] at hpayload hversion
      exact ⟨_, version, hafter, rfl, by rw [hid], hversion, hpayload, hscheduled⟩

theorem LifecycleInv.activate (h : LifecycleInv E db) {findings : List ValidationFinding}
    {prompts : Option DefinitionError} {scheduleId : UUID} {now : Datetime}
    (hkeeps : KeepsSchedule E db (.activate automationId expectedRevision idempotencyKey findings
      prompts scheduleId now))
    (hok : DefinitionDb.activate E db automationId expectedRevision idempotencyKey findings prompts
      scheduleId now = .ok (out, db')) : LifecycleInv E db' := by
  rcases activate_ok hok with rfl | ⟨automation, version, plan, scheduler, hlookup, hrevision,
    hreplay, hdraft, hscheduler, hunarchived, rfl⟩
  · exact h
  obtain ⟨hversion, hplan⟩ := draftToActivate_ok hdraft
  have hid : automation.id = automationId := key_of_lookup hlookup
  by_cases hkind : plan.triggerKind = .schedule
  · have hrewritten := materializeRuntimeProjection_rewritten h.unique hkind hscheduler
    rw [hid] at hrewritten
    have hscheduled : E.Scheduled version := ⟨plan, hplan, hkind⟩
    refine h.write hlookup rfl (by simp [hunarchived]) (fun _ _ hold => hold) hrewritten ?_
    intro hafter
    have hnames : ∀ row ∈ scheduler.schedules.rows, row.scheduleKey = automationKey automationId →
        NamesVersion row.payload automationId version.id := by
      intro row hrow hkey
      rcases hrewritten.mem row hrow with ⟨-, hne⟩ | ⟨-, hnamed⟩
      · exact absurd hkey hne
      · exact hnamed
    refine ⟨?_, ?_⟩
    · intro found active hfound hactive
      rw [hafter, Option.some.injEq] at hfound
      rw [← hfound] at hactive
      cases hactive
      exact ⟨version, hversion, fun _ => hnames⟩
    · intro row hrow hkey _
      exact ⟨_, version, hafter, rfl, rfl, hversion, hnames row hrow hkey, hscheduled⟩
  · rw [materializeRuntimeProjection_of_ne hkind, Except.ok.injEq] at hscheduler
    subst hscheduler
    have hdisabled := hkeeps automation version plan hlookup hrevision hreplay hdraft hkind
    have hunscheduled := not_scheduled_of_plan hplan hkind
    refine h.write hlookup rfl (by simp [hunarchived]) (fun _ _ hold => hold)
      (Rewritten.refl h.unique _) ?_
    intro hafter
    refine ⟨?_, ?_⟩
    · intro found active hfound hactive
      rw [hafter, Option.some.injEq] at hfound
      rw [← hfound] at hactive
      cases hactive
      exact ⟨version, hversion, fun hscheduled => absurd hscheduled hunscheduled⟩
    · intro row hrow hkey henabled
      rw [hdisabled row hrow hkey] at henabled
      cases henabled

theorem LifecycleInv.next (h : LifecycleInv E db) {request : LifecycleRequest}
    (hkeeps : KeepsSchedule E db request) : LifecycleInv E (db.next E request) := by
  cases request with
  | create name graph idempotencyKey automationId versionId =>
    rcases commit_cases db (DefinitionDb.createAutomation E db name graph idempotencyKey
      automationId versionId) with hsame | ⟨out, hok⟩
    · rw [DefinitionDb.next, hsame]
      exact h
    · exact h.createAutomation hok
  | createVersion automationId expectedRevision graph idempotencyKey versionId =>
    rcases commit_cases db (DefinitionDb.createVersion E db automationId expectedRevision graph
      idempotencyKey versionId) with hsame | ⟨out, hok⟩
    · rw [DefinitionDb.next, hsame]
      exact h
    · exact h.createVersion hok
  | restore automationId versionNumber expectedRevision idempotencyKey versionId =>
    rcases commit_cases db (DefinitionDb.restoreVersion E db automationId versionNumber
      expectedRevision idempotencyKey versionId) with hsame | ⟨out, hok⟩
    · rw [DefinitionDb.next, hsame]
      exact h
    · obtain ⟨graph, hcreate⟩ := restoreVersion_ok hok
      exact h.createVersion hcreate
  | activate automationId expectedRevision idempotencyKey findings prompts scheduleId now =>
    rcases commit_cases db (DefinitionDb.activate E db automationId expectedRevision
      idempotencyKey findings prompts scheduleId now) with hsame | ⟨out, hok⟩
    · rw [DefinitionDb.next, hsame]
      exact h
    · exact h.activate hkeeps hok
  | pause automationId expectedRevision =>
    rcases commit_cases db (db.pause automationId expectedRevision) with hsame | ⟨out, hok⟩
    · rw [DefinitionDb.next, hsame]
      exact h
    · exact h.pause hok
  | resume automationId expectedRevision refusal =>
    rcases commit_cases db (db.resume automationId expectedRevision refusal) with hsame | ⟨out, hok⟩
    · rw [DefinitionDb.next, hsame]
      exact h
    · exact h.resume hkeeps hok
  | archive automationId expectedRevision activeRun routeEnabled now =>
    rcases commit_cases db (db.archive automationId expectedRevision activeRun routeEnabled now)
      with hsame | ⟨out, hok⟩
    · rw [DefinitionDb.next, hsame]
      exact h
    · exact h.archive hok

theorem lifecycleInv_empty (E : ServiceEnv) : LifecycleInv E DefinitionDb.empty := by
  have hnone : ∀ row : WorkflowSchedule, row ∉ DefinitionDb.empty.scheduler.schedules.rows :=
    fun row => not_mem_nil
  refine ⟨?_, all_empty, ?_⟩
  · intro row hrow
    exact absurd hrow (hnone row)
  · intro automationId
    refine ⟨?_, ?_⟩
    · intro automation versionId hautomation
      cases hautomation
    · intro row hrow
      exact absurd hrow (hnone row)

theorem lifecycleInv_reachable
    (h : ((lifecycleSystem E).restrict (KeepsSchedule E)).Reachable db) : LifecycleInv E db := by
  induction h with
  | init h0 =>
    cases h0
    exact lifecycleInv_empty E
  | tail _ hst ih =>
    obtain ⟨hkeeps, hnext⟩ := hst
    cases hnext
    exact ih.next hkeeps

/-! ## The condition is exact -/

theorem Agrees.scheduled_of_put {version : AutomationVersion} {automations : Table Automation}
    {scheduler : SchedulerDb} {row : WorkflowSchedule}
    (h : Agrees E ⟨automations, db.versions, scheduler⟩)
    (hlookup : automations.lookup automationId = some automation)
    (hactive : automation.activeVersionId = some version.id)
    (hversion : db.versions.lookup version.id = some version)
    (hrow : row ∈ scheduler.schedules.rows) (hkey : row.scheduleKey = automationKey automationId)
    (henabled : row.enabled = true) : E.Scheduled version := by
  obtain ⟨found, active, hfound, -, hfoundActive, hactiveVersion, -, hscheduled⟩ :=
    h.enabled automationId row hrow hkey henabled
  have hsame : automation = found := Option.some.inj (hlookup.symm.trans hfound)
  rw [← hsame, hactive, Option.some.injEq] at hfoundActive
  rw [hfoundActive] at hversion
  have hversions : version = active := Option.some.inj (hversion.symm.trans hactiveVersion)
  rw [hversions]
  exact hscheduled

theorem LifecycleInv.keeps_of_agrees (h : LifecycleInv E db) {request : LifecycleRequest}
    (hnext : Agrees E (db.next E request)) : KeepsSchedule E db request := by
  cases request with
  | activate automationId expectedRevision idempotencyKey findings prompts scheduleId now =>
    intro automation version plan hlookup hrevision hreplay hdraft hkind row hrow hkey
    by_contra henabled
    rw [Bool.not_eq_false] at henabled
    obtain ⟨hversion, hplan⟩ := draftToActivate_ok hdraft
    -- the automation is active, so the activation goes through
    obtain ⟨found, _, hfound, hlive, -⟩ := (h.agrees automationId).enabled row hrow hkey henabled
    have hsame : automation = found := Option.some.inj (hlookup.symm.trans hfound)
    have hunarchived : automation.archivedAt.isSome = false := by
      have harchived := h.archived.lookup hlookup
      rw [← hsame] at hlive
      simpa [hlive] using harchived
    obtain ⟨automation', hid, hactive, hok⟩ := activate_of_ne hlookup hrevision hreplay hdraft
      hkind hunarchived prompts scheduleId now
    rw [DefinitionDb.next, hok, commit_ok] at hnext
    have hafter := lookup_put_automation hlookup hid
    exact not_scheduled_of_plan hplan hkind
      (hnext.scheduled_of_put hafter hactive hversion hrow hkey henabled)
  | resume automationId expectedRevision refusal =>
    intro automation version hlookup hrevision hpaused hrefusal hactive hversion row hrow hkey
    have hunarchived : automation.archivedAt.isSome = false := by
      have harchived := h.archived.lookup hlookup
      simpa [hpaused] using harchived
    obtain ⟨automation', hid, hactive', hok⟩ := resume_of_paused hlookup hrevision hpaused hactive
      hunarchived
    rw [DefinitionDb.next, hrefusal, hok, commit_ok] at hnext
    have hafter := lookup_put_automation hlookup hid
    exact hnext.scheduled_of_put hafter hactive' hversion
      (enableSchedule_mem h.unique hrow hkey true) hkey rfl
  | _ => trivial

/--
**An automation and its schedule agree, but for an activation and a resumption.**

In every state reached by requests none of which activates a version with another trigger
over an enabled schedule, or resumes an automation left with one, `archived_at` is set
exactly when the automation is archived, and an enabled schedule belongs to an active
automation and names its active version, whose trigger is a schedule. A further request
keeps this exactly when it meets the condition.
-/
theorem lifecycle_schedule_agree (E : ServiceEnv) (db : DefinitionDb)
    (h : ((lifecycleSystem E).restrict (KeepsSchedule E)).Reachable db) :
    Agrees E db ∧ ∀ request, Agrees E (db.next E request) ↔ KeepsSchedule E db request := by
  have hinv := lifecycleInv_reachable h
  refine ⟨hinv.sound, ?_⟩
  intro request
  constructor
  · intro hnext
    exact hinv.keeps_of_agrees hnext
  · intro hkeeps
    exact (hinv.next hkeeps).sound

/-! ## A workflow that changes its trigger -/

/-- Every hour the selected stories are written up. -/
def hourlyDrafts : WorkflowGraphV1 where
  entryNodeId := "n1"
  nodes :=
    [⟨"n1", "schedule", [("interval_minutes", .int 60), ("schedule_kind", .str "interval")]⟩,
     ⟨"n2", "select_content", []⟩,
     ⟨"n3", "generate_content_pack",
       [("editorial_profile_id", .str "00000000-0000-0000-0000-0000000000e1"),
        ("prompt_checksums", .obj [("00000000-0000-0000-0000-0000000000d1", .str "c1"),
           ("00000000-0000-0000-0000-0000000000d2", .str "c2")]),
        ("prompt_version_ids", .arr [.str "00000000-0000-0000-0000-0000000000d1",
           .str "00000000-0000-0000-0000-0000000000d2"]),
        ("provider_profile_id", .str "00000000-0000-0000-0000-0000000000f1")]⟩,
     ⟨"n4", "save_drafts", []⟩]
  edges :=
    [⟨"n1", "tick", "n2", "tick"⟩, ⟨"n2", "stories", "n3", "story"⟩,
     ⟨"n3", "drafts", "n4", "drafts"⟩]
  outputNodeIds := ["n4"]
  metadata := ⟨[]⟩

/-- A run for every article that is added to a collection. -/
def collectedArticles : WorkflowGraphV1 where
  entryNodeId := "n1"
  nodes :=
    [⟨"n1", "collection_article_added",
      [("collection_id", .str "00000000-0000-0000-0000-0000000000b1")]⟩]
  edges := []
  outputNodeIds := ["n1"]
  metadata := ⟨[]⟩

/-- How many nodes the document of a graph lists. -/
def nodeCount (document : Json) : Nat :=
  match document.get? "nodes" with
  | some (.arr nodes) => nodes.length
  | _ => 0

theorem nodeCount_canonicalGraphData (graph : WorkflowGraphV1) :
    nodeCount (canonicalGraphData graph) = graph.nodes.length := by
  simp [nodeCount, canonicalGraphData, Json.get?, length_insertionSort]

/-- A digest that tells the two graphs and their plans apart. -/
def sampleSha256 (document : Json) : String :=
  match document.get? "graph_hash" with
  | some (.str graphHash) => "plan of " ++ graphHash
  | _ => if nodeCount document = 4 then "hourly" else "articles"

def sampleDefinitions : DefinitionEnv := plainEnv sampleSha256

def hourlyPlan : CompiledWorkflowPlan :=
  assemblePlan sampleDefinitions hourlyDrafts .schedule
    ((hourlyDrafts.nodes.zip [schedule, selectContent, generateContentPack, saveDrafts]).mapIdx
      fun ordinal entry => stageOf entry.2 ordinal entry.1)

def articlesPlan : CompiledWorkflowPlan :=
  assemblePlan sampleDefinitions collectedArticles .collectionArticleAdded
    ((collectedArticles.nodes.zip [collectionArticleAdded]).mapIdx
      fun ordinal entry => stageOf entry.2 ordinal entry.1)

def sampleEnv : ServiceEnv where
  definitions := sampleDefinitions
  turns := 4
  readGraph document :=
    if nodeCount document = 4 then some hourlyDrafts
    else if nodeCount document = 1 then some collectedArticles
    else none
  readPlan document :=
    if document.get? "graph_hash" = some (.str "hourly") then some hourlyPlan
    else if document.get? "graph_hash" = some (.str "articles") then some articlesPlan
    else none
  int value :=
    match value with
    | .int n => some n
    | _ => none
  zoneInfo _ := none

theorem hourlyDrafts_findings : graphFindings sampleDefinitions hourlyDrafts = [] := by
  decide +kernel

theorem collectedArticles_findings : graphFindings sampleDefinitions collectedArticles = [] := by
  decide +kernel

theorem compileErrors_of_findings {E : DefinitionEnv} (h : graphFindings E graph = []) :
    compileErrors E graph = [] := by
  have hnone : (validateGraph E graph).findings = [] := h
  rw [compileErrors, hnone, filter_nil]

theorem hourlyDrafts_compiles : compileGraph sampleDefinitions 4 hourlyDrafts = .ok hourlyPlan :=
  compileGraph_ok_iff.mpr ⟨["n1", "n2", "n3", "n4"], _, .schedule, _,
    ⟨compileErrors_of_findings hourlyDrafts_findings, by decide +kernel, rfl, rfl, rfl⟩, rfl⟩

theorem collectedArticles_compiles :
    compileGraph sampleDefinitions 4 collectedArticles = .ok articlesPlan :=
  compileGraph_ok_iff.mpr ⟨["n1"], _, .collectionArticleAdded, _,
    ⟨compileErrors_of_findings collectedArticles_findings, rfl, rfl, rfl, rfl⟩, rfl⟩

theorem sampleSha256_graph (graph : WorkflowGraphV1) :
    graphSha256 sampleDefinitions graph = if graph.nodes.length = 4 then "hourly" else "articles" := by
  have hnone : (canonicalGraphData graph).get? "graph_hash" = none := rfl
  change sampleSha256 (canonicalGraphData graph) = _
  rw [sampleSha256, hnone, nodeCount_canonicalGraphData]

theorem readGraph_eq (document : Json) : sampleEnv.readGraph document
      = if nodeCount document = 4 then some hourlyDrafts
        else if nodeCount document = 1 then some collectedArticles
        else none := rfl

theorem readGraph_hourlyDrafts :
    sampleEnv.readGraph (canonicalGraphData hourlyDrafts) = some hourlyDrafts := by
  rw [readGraph_eq, nodeCount_canonicalGraphData, if_pos (by decide)]

theorem readGraph_collectedArticles :
    sampleEnv.readGraph (canonicalGraphData collectedArticles) = some collectedArticles := by
  rw [readGraph_eq, nodeCount_canonicalGraphData, if_neg (by decide), if_pos (by decide)]

theorem readPlan_eq (document : Json) : sampleEnv.readPlan document
      = if document.get? "graph_hash" = some (.str "hourly") then some hourlyPlan
        else if document.get? "graph_hash" = some (.str "articles") then some articlesPlan
        else none := rfl

theorem readPlan_hourlyPlan : sampleEnv.readPlan hourlyPlan.dump = some hourlyPlan := by
  have hhash : hourlyPlan.dump.get? "graph_hash"
      = some (.str (graphSha256 sampleDefinitions hourlyDrafts)) := rfl
  rw [sampleSha256_graph, if_pos (by decide)] at hhash
  rw [readPlan_eq, hhash, if_pos rfl]

theorem readPlan_articlesPlan : sampleEnv.readPlan articlesPlan.dump = some articlesPlan := by
  have hhash : articlesPlan.dump.get? "graph_hash"
      = some (.str (graphSha256 sampleDefinitions collectedArticles)) := rfl
  rw [sampleSha256_graph, if_neg (by decide)] at hhash
  rw [readPlan_eq, hhash, if_neg (by decide), if_pos rfl]

/-! ### Its requests -/

def hourlyVersion : AutomationVersion where
  id := 11
  automationId := 1
  version := 1
  graph := canonicalGraphData hourlyDrafts
  graphHash := graphSha256 sampleDefinitions hourlyDrafts
  compiledPlan := hourlyPlan.dump
  idempotencyKey := some "create:version:1"

def articlesVersion : AutomationVersion where
  id := 12
  automationId := 1
  version := 2
  graph := canonicalGraphData collectedArticles
  graphHash := graphSha256 sampleDefinitions collectedArticles
  compiledPlan := articlesPlan.dump
  idempotencyKey := some "edit"

def createdRow : Automation where
  id := 1
  name := "Headlines"
  lifecycle := .inactive
  revision := 1
  activeVersionId := none
  draftVersionId := some 11
  idempotencyKey := some "create"
  activationIdempotencyKey := none
  archivedAt := none

def createdDb : DefinitionDb :=
  ⟨Table.empty.insert createdRow, Table.empty.insert hourlyVersion, SchedulerDb.empty⟩

def hourlyConfig : SchedulerDb.ScheduleConfig where
  daily := false
  timezone := "Asia/Tehran"
  localTime := none
  intervalMinutes := some 60

def hourlyDb : DefinitionDb :=
  { createdDb with
    automations := createdDb.automations.put { createdRow with
        activeVersionId := some 11
        lifecycle := .active
        activationIdempotencyKey := some "activate"
        revision := 2 }
    scheduler := SchedulerDb.empty.materializeSchedule sampleEnv.zoneInfo 1 11 hourlyConfig 21 0 }

theorem create_sample :
    DefinitionDb.empty.next sampleEnv (.create "Headlines" hourlyDrafts "create" 1 11)
      = createdDb := by
  have hversion := newVersion_of_compiles (E := sampleEnv) (by decide) hourlyDrafts_compiles 1 11 1
    "create:version:1"
  have hok : DefinitionDb.createAutomation sampleEnv DefinitionDb.empty "Headlines" hourlyDrafts
      "create" 1 11 = .ok (createdRow, createdDb) := by
    refine bind_ok_iff.mpr ⟨(), requireSaveable_of_findings hourlyDrafts_findings, ?_⟩
    refine bind_ok_iff.mpr ⟨hourlyVersion, hversion, ?_⟩
    refine bind_ok_iff.mpr ⟨(), require_ok_iff.mpr rfl, ?_⟩
    exact bind_ok_iff.mpr ⟨(), require_ok_iff.mpr rfl, rfl⟩
  rw [DefinitionDb.next, hok, commit_ok]

theorem draft_sample : DefinitionDb.draftToActivate sampleEnv createdDb createdRow []
      = .ok (hourlyVersion, hourlyPlan) := by
  exact draftToActivate_of_valid rfl rfl rfl readGraph_hourlyDrafts hourlyDrafts_findings
    (verifiedPlan_of_compiles hourlyDrafts_compiles readGraph_hourlyDrafts rfl readPlan_hourlyPlan)

theorem activate_sample :
    createdDb.next sampleEnv (.activate 1 1 "activate" [] none 21 0) = hourlyDb := by
  have hscheduler : DefinitionDb.materializeRuntimeProjection sampleEnv createdDb createdRow
      hourlyVersion hourlyPlan none 21 0 = .ok hourlyDb.scheduler := by
    have hkind : hourlyPlan.triggerKind = .schedule := rfl
    rw [DefinitionDb.materializeRuntimeProjection, if_pos hkind]
    refine bind_ok_iff.mpr ⟨(), refuse_ok_iff.mpr rfl, ?_⟩
    refine bind_ok_iff.mpr ⟨hourlyConfig, orStop_ok_iff.mpr rfl, ?_⟩
    refine bind_ok_iff.mpr ⟨_, orStop_ok_iff.mpr rfl, ?_⟩
    exact bind_ok_iff.mpr ⟨(), require_ok_iff.mpr (.inr rfl), rfl⟩
  have hok : DefinitionDb.activate sampleEnv createdDb 1 1 "activate" [] none 21 0
      = .ok ({ createdRow with
          activeVersionId := some 11
          lifecycle := .active
          activationIdempotencyKey := some "activate"
          revision := 2 }, hourlyDb) := by
    refine bind_ok_iff.mpr ⟨createdRow, orStop_ok_iff.mpr rfl, ?_⟩
    rw [if_neg (by decide)]
    refine bind_ok_iff.mpr ⟨(), require_ok_iff.mpr rfl, ?_⟩
    refine bind_ok_iff.mpr ⟨(hourlyVersion, hourlyPlan), draft_sample, ?_⟩
    refine bind_ok_iff.mpr ⟨hourlyDb.scheduler, hscheduler, ?_⟩
    exact flush_of_state (by decide)
  rw [DefinitionDb.next, hok, commit_ok]

def editedRow : Automation :=
  { createdRow with
    activeVersionId := some 11
    draftVersionId := some 12
    lifecycle := .active
    activationIdempotencyKey := some "activate"
    revision := 3 }

/-- A second version, with another trigger, is the draft. -/
def editedDb : DefinitionDb :=
  { hourlyDb with
    automations := hourlyDb.automations.put editedRow
    versions := hourlyDb.versions.insert articlesVersion }

theorem edit_sample :
    hourlyDb.next sampleEnv (.createVersion 1 2 collectedArticles "edit" 12) = editedDb := by
  have hversion := newVersion_of_compiles (E := sampleEnv) (by decide) collectedArticles_compiles 1
    12 2 "edit"
  have hok : DefinitionDb.createVersion sampleEnv hourlyDb 1 2 collectedArticles "edit" 12
      = .ok (articlesVersion, editedDb) := by
    refine bind_ok_iff.mpr ⟨_, orStop_ok_iff.mpr rfl, ?_⟩
    refine bind_ok_iff.mpr ⟨(), require_ok_iff.mpr rfl, ?_⟩
    refine bind_ok_iff.mpr ⟨(), require_ok_iff.mpr rfl, ?_⟩
    refine bind_ok_iff.mpr ⟨(), requireSaveable_of_findings collectedArticles_findings, ?_⟩
    refine bind_ok_iff.mpr ⟨articlesVersion, hversion, ?_⟩
    refine bind_ok_iff.mpr ⟨(), require_ok_iff.mpr rfl, ?_⟩
    exact bind_ok_iff.mpr ⟨_, flush_of_state (by decide), rfl⟩
  rw [DefinitionDb.next, hok, commit_ok]

theorem hourlyDb_row : ∃ row ∈ hourlyDb.scheduler.schedules.rows,
    row.scheduleKey = automationKey 1 ∧ row.enabled = true :=
  ⟨_, mem_cons_self, rfl, rfl⟩

theorem hourlyDb_reachable :
    ((lifecycleSystem sampleEnv).restrict (KeepsSchedule sampleEnv)).Reachable hourlyDb := by
  refine .tail (e := .activate 1 1 "activate" [] none 21 0) (.tail
    (e := .create "Headlines" hourlyDrafts "create" 1 11) (.init rfl) ⟨trivial, create_sample.symm⟩)
    ⟨?_, activate_sample.symm⟩
  intro _ _ _ _ _ _ _ _ row hrow
  cases hrow

/-- While it runs on its schedule, the automation agrees with it. -/
theorem lifecycle_schedule_agree_hourly :
    (∃ row ∈ hourlyDb.scheduler.schedules.rows, row.scheduleKey = automationKey 1
        ∧ row.enabled = true) ∧ Agrees sampleEnv hourlyDb :=
  ⟨hourlyDb_row, (lifecycle_schedule_agree sampleEnv hourlyDb hourlyDb_reachable).1⟩

/-- The activation of a version with another trigger leaves the schedule of the version
before enabled. -/
theorem other_trigger_keeps_schedule :
    ¬ ∀ E db, (lifecycleSystem E).Reachable db → Agrees E db := by
  intro hagrees
  have hedited : ((lifecycleSystem sampleEnv).restrict (KeepsSchedule sampleEnv)).Reachable
      editedDb :=
    hourlyDb_reachable.tail (e := .createVersion 1 2 collectedArticles "edit" 12)
      ⟨trivial, edit_sample.symm⟩
  have hplan : sampleEnv.verifiedPlan articlesVersion = .ok articlesPlan :=
    verifiedPlan_of_compiles collectedArticles_compiles readGraph_collectedArticles rfl
      readPlan_articlesPlan
  have hdraft : DefinitionDb.draftToActivate sampleEnv editedDb editedRow []
      = .ok (articlesVersion, articlesPlan) :=
    draftToActivate_of_valid rfl rfl rfl readGraph_collectedArticles collectedArticles_findings hplan
  have hnext := hagrees sampleEnv _ (hedited.of_restrict.tail
    (e := .activate 1 3 "activate again" [] none 22 60) rfl)
  have hkeeps := (lifecycleInv_reachable hedited).keeps_of_agrees hnext
  obtain ⟨row, hrow, hkey, henabled⟩ := hourlyDb_row
  have hdisabled := hkeeps editedRow articlesVersion articlesPlan rfl rfl (by decide) hdraft
    (by decide) row hrow hkey
  rw [henabled] at hdisabled
  cases hdisabled

/-! ## Revisions -/

/-- A row written again has a higher revision, and an archived one keeps its version. -/
structure Automation.Precedes (before after : Automation) : Prop where
  revised : after = before ∨ before.revision < after.revision
  archived : before.archivedAt.isSome = true →
    after.archivedAt.isSome = true ∧ after.activeVersionId = before.activeVersionId

theorem Automation.Precedes.trans {a b c : Automation} (h : a.Precedes b) (h' : b.Precedes c) :
    a.Precedes c := by
  refine ⟨?_, fun harchived => ?_⟩
  · rcases h.revised with rfl | hlt
    · exact h'.revised
    rcases h'.revised with rfl | hlt'
    · exact .inr hlt
    · exact .inr (by omega)
  · obtain ⟨hb, hversion⟩ := h.archived harchived
    obtain ⟨hc, hversion'⟩ := h'.archived hb
    exact ⟨hc, hversion'.trans hversion⟩

variable {before : Automation}

theorem Automation.Precedes.written {a b : Automation} (h : before.Precedes a)
    (hrevision : b.revision = a.revision + 1) (harchived : a.archivedAt.isSome = true →
      b.archivedAt.isSome = true ∧ b.activeVersionId = a.activeVersionId) : before.Precedes b :=
  h.trans ⟨.inr (by omega), harchived⟩

/-- The automation is there, and went on from `before`. -/
def DefinitionDb.Keeps (db : DefinitionDb) (before : Automation) : Prop :=
  Continues Automation.Precedes before db.automations

theorem DefinitionDb.Keeps.createVersion (h : db.Keeps before) {expectedRevision : Int}
    {graph : WorkflowGraphV1} {idempotencyKey : String} {versionId : UUID} {out : AutomationVersion}
    (hok : DefinitionDb.createVersion E db automationId expectedRevision graph idempotencyKey
      versionId = .ok (out, db')) : db'.Keeps before := by
  rcases createVersion_ok hok with rfl | ⟨automation, hlookup, -, rfl⟩
  · exact h
  · exact Continues.put h hlookup rfl fun hp => hp.written rfl fun ha => ⟨ha, rfl⟩

theorem DefinitionDb.Keeps.next (h : db.Keeps before) (request : LifecycleRequest) :
    (db.next E request).Keeps before := by
  -- a transaction that was stopped leaves the tables as they were
  have hcommit : ∀ {α : Type} (result : Except ServiceStop (α × DefinitionDb)),
      (∀ out db', result = .ok (out, db') → db'.Keeps before) → (commit db result).Keeps before := by
    intro α result hok
    cases result with
    | error stop => exact h
    | ok value => exact hok value.1 value.2 rfl
  have hnot : ∀ {automation : Automation} {P : Prop}, automation.archivedAt.isSome = false →
      automation.archivedAt.isSome = true → P := by
    intro automation P hfalse htrue
    rw [hfalse] at htrue
    cases htrue
  cases request with
  | create =>
    refine hcommit _ fun out db' hok => ?_
    rcases createAutomation_ok hok with rfl | ⟨version, -, -, -, -, rfl⟩
    · exact h
    · exact Continues.insert h
  | createVersion => exact hcommit _ fun _ _ hok => h.createVersion hok
  | restore =>
    refine hcommit _ fun _ _ hok => ?_
    obtain ⟨graph, hcreate⟩ := restoreVersion_ok hok
    exact h.createVersion hcreate
  | activate =>
    refine hcommit _ fun _ _ hok => ?_
    rcases activate_ok hok with rfl | ⟨_, _, _, _, hlookup, -, -, -, -, hnone, rfl⟩
    · exact h
    · exact Continues.put h hlookup rfl fun hp => hp.written rfl (hnot hnone)
  | pause =>
    refine hcommit _ fun _ _ hok => ?_
    obtain ⟨_, hlookup, hnone, rfl⟩ := pause_ok hok
    exact Continues.put h hlookup rfl fun hp => hp.written rfl (hnot hnone)
  | resume =>
    refine hcommit _ fun _ _ hok => ?_
    obtain ⟨_, hlookup, -, -, -, hnone, rfl⟩ := resume_ok hok
    exact Continues.put h hlookup rfl fun hp => hp.written rfl (hnot hnone)
  | archive =>
    refine hcommit _ fun _ _ hok => ?_
    obtain ⟨_, hlookup, rfl⟩ := archive_ok hok
    exact Continues.put h hlookup rfl fun hp => hp.written rfl fun _ => ⟨rfl, rfl⟩

/-- **The revision tells every state of an automation from the ones before**, through any
requests in any order, so nobody saves over a change he has not seen; and what is archived
stays archived, with the version it had. -/
theorem automation_history {requests : List LifecycleRequest}
    (hrun : (lifecycleSystem E).Run db requests db')
    (hlookup : db.automations.lookup automationId = some before) :
    ∃ after, db'.automations.lookup automationId = some after ∧ before.Precedes after := by
  obtain rfl : before.id = automationId := key_of_lookup hlookup
  refine hrun.preserves (P := fun db => db.Keeps before) ?_
    ⟨before, hlookup, .inl rfl, fun h => ⟨h, rfl⟩⟩
  intro s request s' h hs
  rw [hs]
  exact h.next request

theorem automation_history_edited : ∃ after, editedDb.automations.lookup 1 = some after
    ∧ Automation.Precedes createdRow after := by
  have hrun : (lifecycleSystem sampleEnv).Run createdDb
      [.activate 1 1 "activate" [] none 21 0, .createVersion 1 2 collectedArticles "edit" 12]
      editedDb := .cons activate_sample.symm (.single edit_sample.symm)
  exact automation_history hrun rfl

end NewsCraft.Automations
