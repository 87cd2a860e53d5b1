import NewsCraft.Automations.PlanPinned
import NewsCraft.Jobs.Scheduler
import NewsCraft.Lib.Checked

/-!
# The life of an automation

`AutomationDefinitionService` creates automations and their versions, activates a version,
and pauses, resumes and archives the automation. Every request is one transaction that locks
the automation's row, checks, and writes; one that raises leaves the tables alone.

An automation on a schedule has a row of `workflow_schedules` under the key
`automation:<id>`. What a request reads of other tables (resources, pinned prompts, active
runs, the legacy route) is an argument of it.
-/

namespace NewsCraft.Automations

open Lib Lib.Checked Jobs

/-! ## Rows -/

inductive Lifecycle where
  | inactive
  | active
  | paused
  | archived
  deriving DecidableEq

structure Automation where
  id : UUID
  name : String
  lifecycle : Lifecycle
  revision : Int
  activeVersionId : Option UUID
  draftVersionId : Option UUID
  idempotencyKey : Option String
  activationIdempotencyKey : Option String
  archivedAt : Option Datetime
  deriving DecidableEq

structure AutomationVersion where
  id : UUID
  automationId : UUID
  version : Nat
  graph : Json
  graphHash : String
  compiledPlan : Json
  idempotencyKey : Option String

instance : Keyed Automation UUID := ⟨Automation.id⟩
instance : Keyed AutomationVersion UUID := ⟨AutomationVersion.id⟩

structure DefinitionDb where
  automations : Table Automation
  versions : Table AutomationVersion
  scheduler : SchedulerDb

/-! ## What the service rests on -/

structure ServiceEnv where
  definitions : DefinitionEnv
  /-- The turns the walk over a graph is given. -/
  turns : Nat
  /-- `WorkflowGraphV1.model_validate`. -/
  readGraph : Json → Option WorkflowGraphV1
  /-- `CompiledWorkflowPlan.model_validate`. -/
  readPlan : Json → Option CompiledWorkflowPlan
  /-- `int(str(value))`; `none` when it raises. -/
  int : Json → Option Int
  zoneInfo : ZoneInfo

structure DefinitionError where
  code : String
  status : Nat
  message : String
  nodeId : Option String := none
  nodeType : Option String := none
  fieldPath : Option String := none
  deriving DecidableEq

inductive ServiceStop where
  | definition (error : DefinitionError)
  | compile (stop : CompileStop)
  | integrityError (constraint : String)
  | exception (name : String)
  deriving DecidableEq

def error (code : String) (status : Nat) (message : String) : ServiceStop :=
  .definition { code := code, status := status, message := message }

def automationKey (automationId : UUID) : String := "automation:" ++ uuidStr automationId

/-- The plan the service runs a version by: `verify_compiled_plan` of its graph and plan. -/
def ServiceEnv.verifiedPlan (E : ServiceEnv) (version : AutomationVersion) :
    Except ServiceStop CompiledWorkflowPlan := do
  let graph ← orStop (E.readGraph version.graph) (.exception "ValidationError")
  (verifyCompiledPlan E.definitions E.readPlan E.turns graph version.compiledPlan).mapError .compile

def ServiceEnv.Scheduled (E : ServiceEnv) (version : AutomationVersion) : Prop :=
  ∃ plan, E.verifiedPlan version = .ok plan ∧ plan.triggerKind = .schedule

namespace DefinitionDb

variable (E : ServiceEnv) (db : DefinitionDb)

/-! ## Steps the requests share -/

/-- `_automation_for_update`. -/
def automationForUpdate (automationId : UUID) : Except ServiceStop Automation :=
  orStop (db.automations.lookup automationId)
    (error "automation_not_found" 404 "Automation was not found.")

/-- `_check_revision`. -/
def checkRevision (automation : Automation) (expectedRevision : Int) : Except ServiceStop Unit :=
  require (automation.revision = expectedRevision)
    (error "automation_version_conflict" 409
      "Automation changed since it was loaded. Reload or copy your draft before saving.")

/-- `_version_by_number`. -/
def versionByNumber (automationId : UUID) (versionNumber : Nat) :
    Except ServiceStop AutomationVersion :=
  orStop (db.versions.rows.find? fun version =>
      version.automationId = automationId ∧ version.version = versionNumber)
    (error "automation_version_not_found" 404 "Automation version was not found.")

/-- `_SAVE_BLOCKING_CODES`. -/
def saveBlockingCodes : List String :=
  ["edge_cardinality_invalid", "edge_port_invalid", "graph_cycle", "graph_entry_invalid",
    "graph_output_invalid", "graph_unreachable_node", "node_config_invalid",
    "node_type_unsupported"]

/-- `_require_saveable`, with `allow_empty` where the graph has no nodes. -/
def requireSaveable (graph : WorkflowGraphV1) : Except ServiceStop Unit :=
  if graph.nodes = [] then
    .ok ()
  else
    match (validateGraph E.definitions graph).findings.filter fun finding =>
        saveBlockingCodes.contains finding.code with
    | [] => .ok ()
    | first :: _ =>
      .error (.definition
        { code := first.code
          status := 422
          message := first.message
          nodeId := first.nodeId
          nodeType := (graph.nodes.find? fun node => some node.id = first.nodeId).map
            WorkflowNode.type
          fieldPath := first.fieldPath })

/-- The `compiled_plan` of a new version. -/
def compiledPlan (graph : WorkflowGraphV1) : Except ServiceStop Json :=
  if graph.nodes = [] then
    .ok Json.empty
  else
    match compileGraph E.definitions E.turns graph with
    | .error stop => .error (.compile stop)
    | .ok plan => .ok plan.dump

/-- `_new_version`. -/
def newVersion (automationId : UUID) (graph : WorkflowGraphV1) (versionNumber : Nat)
    (idempotencyKey : String) (id : UUID) : Except ServiceStop AutomationVersion := do
  let compiledPlan ← compiledPlan E graph
  .ok
    { id := id
      automationId := automationId
      version := versionNumber
      graph := canonicalGraphData graph
      graphHash := graphSha256 E.definitions graph
      compiledPlan := compiledPlan
      idempotencyKey := some idempotencyKey }

/-- The flush of a changed automation, which the constraint
`ck_automations_archived_state` can refuse. -/
def flush (automation : Automation) : Except ServiceStop (Automation × DefinitionDb) := do
  require (automation.lifecycle = .archived ↔ automation.archivedAt.isSome)
    (.integrityError "ck_automations_archived_state")
  .ok (automation, { db with automations := db.automations.put automation })

/-- The automation's schedule is enabled or disabled, where it has one. -/
def enableSchedule (automationId : UUID) (enabled : Bool) : SchedulerDb :=
  match db.scheduler.getSchedule (automationKey automationId) with
  | none => db.scheduler
  | some schedule => db.scheduler.setScheduleEnabled schedule.id enabled

/-! ## Creating -/

/-- `create_automation`. -/
def createAutomation (name : String) (graph : WorkflowGraphV1) (idempotencyKey : String)
    (automationId versionId : UUID) : Except ServiceStop (Automation × DefinitionDb) :=
  match db.automations.rows.find? fun automation =>
      automation.idempotencyKey = some idempotencyKey with
  | some existing => do
      let version := existing.draftVersionId.bind db.versions.lookup
      require (existing.name = name
          ∧ version.map AutomationVersion.graphHash = some (graphSha256 E.definitions graph))
        (error "automation_version_conflict" 409
          "Idempotency key was already used for different Automation input.")
      .ok (existing, db)
  | none => do
      requireSaveable E graph
      let version ← newVersion E automationId graph 1 (idempotencyKey ++ ":version:1") versionId
      let automation : Automation :=
        { id := automationId
          name := name
          lifecycle := .inactive
          revision := 1
          activeVersionId := none
          draftVersionId := some version.id
          idempotencyKey := some idempotencyKey
          activationIdempotencyKey := none
          archivedAt := none }
      require (db.automations.lookup automationId = none) (.integrityError "automations_pkey")
      require (db.versions.lookup versionId = none) (.integrityError "automation_versions_pkey")
      .ok (automation,
        { db with
          automations := db.automations.insert automation
          versions := db.versions.insert version })

/-- `create_version`. -/
def createVersion (automationId : UUID) (expectedRevision : Int) (graph : WorkflowGraphV1)
    (idempotencyKey : String) (versionId : UUID) :
    Except ServiceStop (AutomationVersion × DefinitionDb) := do
  let automation ← db.automationForUpdate automationId
  match db.versions.rows.find? fun version =>
      version.automationId = automationId ∧ version.idempotencyKey = some idempotencyKey with
  | some existing => do
      require (existing.graphHash = graphSha256 E.definitions graph)
        (error "automation_version_conflict" 409
          "Idempotency key was already used for different version input.")
      .ok (existing, db)
  | none => do
      checkRevision automation expectedRevision
      require (automation.archivedAt = none)
        (error "automation_dependency_conflict" 409 "Archived Automation cannot receive a draft.")
      let numbers := (db.versions.rows.filter fun version =>
        version.automationId = automationId).map AutomationVersion.version
      let nextNumber := numbers.foldl max 0 + 1
      requireSaveable E graph
      let version ← newVersion E automationId graph nextNumber idempotencyKey versionId
      require (db.versions.lookup versionId = none) (.integrityError "automation_versions_pkey")
      let (_, db) ← flush { db with versions := db.versions.insert version }
        { automation with
          draftVersionId := some version.id
          revision := automation.revision + 1 }
      .ok (version, db)

/-- `restore_version`. -/
def restoreVersion (automationId : UUID) (versionNumber : Nat) (expectedRevision : Int)
    (idempotencyKey : String) (versionId : UUID) :
    Except ServiceStop (AutomationVersion × DefinitionDb) := do
  let source ← db.versionByNumber automationId versionNumber
  let graph ← orStop (E.readGraph source.graph) (.exception "ValidationError")
  createVersion E db automationId expectedRevision graph idempotencyKey versionId

/-! ## Activating -/

/-- `validate_version`, with the findings it makes of the other tables. -/
def validateVersion (automationId : UUID) (versionNumber : Nat)
    (resourceFindings : List ValidationFinding) : Except ServiceStop GraphValidationResult := do
  let version ← db.versionByNumber automationId versionNumber
  let graph ← orStop (E.readGraph version.graph) (.exception "ValidationError")
  let structural := validateGraph E.definitions graph
  let findings := structural.findings ++ resourceFindings
  .ok
    { valid := !(findings.any fun finding => finding.severity = .error)
      graphHash := structural.graphHash
      findings := findings }

/-- `stage`: the first compiled stage of a node type. -/
def stage (plan : CompiledWorkflowPlan) (nodeType : String) : Option CompiledStage :=
  plan.stages.find? fun item => item.nodeType = nodeType

/-- `config.get(key) or default`. -/
def configOr (config : List (String × Json)) (key : String) (default : Json) : Json :=
  match (Json.obj config).get? key with
  | some value => if value.truthy then value else default
  | none => default

/-- `config.get(key)`, where it is not `None`. -/
def configGet (config : List (String × Json)) (key : String) : Option Json :=
  ((Json.obj config).get? key).filter fun value => value ≠ .null

/-- The fields of a schedule a trigger's config gives; `none` when one raises. -/
def scheduleConfig (config : List (String × Json)) : Option SchedulerDb.ScheduleConfig := do
  let intervalMinutes ←
    match configGet config "interval_minutes" with
    | none => some none
    | some value => (E.int value).map some
  some
    { daily := configOr config "schedule_kind" (.str "daily") ≠ .str "interval"
      timezone := E.definitions.str (configOr config "timezone" (.str "Asia/Tehran"))
      localTime := (configGet config "local_time").map E.definitions.str
      intervalMinutes := intervalMinutes }

/-- `materialize_runtime_projection`; `prompts` is the error about its prompts, if any. -/
def materializeRuntimeProjection (automation : Automation) (version : AutomationVersion)
    (plan : CompiledWorkflowPlan) (prompts : Option DefinitionError) (scheduleId : UUID)
    (now : Datetime) : Except ServiceStop SchedulerDb :=
  if plan.triggerKind = .schedule then
    match stage plan "schedule", stage plan "select_content", stage plan "generate_content_pack" with
    | some trigger, some _, some _ => do
        refuse (prompts.map .definition)
        let config ← orStop (scheduleConfig E trigger.config) (.exception "ValueError")
        let _ ← orStop (SchedulerDb.nextScheduleRun E.zoneInfo config now) (.exception "ValueError")
        require ((db.scheduler.getSchedule (automationKey automation.id)).isSome
            ∨ db.scheduler.schedules.lookup scheduleId = none)
          (.integrityError "workflow_schedules_pkey")
        .ok (db.scheduler.materializeSchedule E.zoneInfo automation.id version.id config scheduleId
          now)
    | _, _, _ =>
      .error (error "automation_activation_invalid" 409
        "Schedule workflow requires schedule, selection, generation, and output stages.")
  else
    .ok db.scheduler

/-- The draft an activation is about, with the plan it will run by. -/
def draftToActivate (automation : Automation) (resourceFindings : List ValidationFinding) :
    Except ServiceStop (AutomationVersion × CompiledWorkflowPlan) := do
  let draftVersionId ← orStop automation.draftVersionId
    (error "automation_activation_invalid" 409 "Automation has no saved draft version.")
  let version ← orStop (db.versions.lookup draftVersionId)
    (error "automation_version_not_found" 404 "Draft version was not found.")
  let validation ← validateVersion E db automation.id version.version resourceFindings
  require (validation.valid = true)
    (error "automation_activation_invalid" 409
      "Draft must pass server validation before activation.")
  let plan ← E.verifiedPlan version
  .ok (version, plan)

/-- An activation under this key is the one that made the draft active. -/
def Activated (automation : Automation) (idempotencyKey : String) : Prop :=
  automation.activationIdempotencyKey = some idempotencyKey
    ∧ automation.activeVersionId ≠ none
    ∧ automation.activeVersionId = automation.draftVersionId

instance (automation : Automation) (key : String) : Decidable (Activated automation key) := by
  unfold Activated
  infer_instance

/-- `activate`. -/
def activate (automationId : UUID) (expectedRevision : Int) (idempotencyKey : String)
    (resourceFindings : List ValidationFinding) (prompts : Option DefinitionError)
    (scheduleId : UUID) (now : Datetime) : Except ServiceStop (Automation × DefinitionDb) := do
  let automation ← db.automationForUpdate automationId
  if Activated automation idempotencyKey then
    .ok (automation, db)
  else do
    checkRevision automation expectedRevision
    let (version, plan) ← draftToActivate E db automation resourceFindings
    let scheduler ← materializeRuntimeProjection E db automation version plan prompts scheduleId now
    flush { db with scheduler := scheduler }
      { automation with
        activeVersionId := some version.id
        lifecycle := .active
        activationIdempotencyKey := some idempotencyKey
        revision := automation.revision + 1 }

/-! ## Pausing, resuming and archiving -/

/-- `archive`, given whether a run is active and whether the legacy route is enabled. -/
def archive (automationId : UUID) (expectedRevision : Int) (activeRun routeEnabled : Bool)
    (now : Datetime) : Except ServiceStop (Automation × DefinitionDb) := do
  let automation ← db.automationForUpdate automationId
  checkRevision automation expectedRevision
  require (automation.lifecycle ≠ .active)
    (error "automation_dependency_conflict" 409 "Pause Automation before archiving.")
  require (activeRun = false)
    (error "automation_dependency_conflict" 409 "Automation has an active run.")
  require (routeEnabled = false)
    (error "automation_dependency_conflict" 409 "Legacy Telegram route is still enabled.")
  flush { db with scheduler := db.enableSchedule automationId false }
    { automation with
      lifecycle := .archived
      archivedAt := some now
      revision := automation.revision + 1 }

/-- `pause`. -/
def pause (automationId : UUID) (expectedRevision : Int) :
    Except ServiceStop (Automation × DefinitionDb) := do
  let automation ← db.automationForUpdate automationId
  checkRevision automation expectedRevision
  require (automation.lifecycle = .active)
    (error "automation_dependency_conflict" 409 "Only an active Automation can pause.")
  flush { db with scheduler := db.enableSchedule automationId false }
    { automation with
      lifecycle := .paused
      revision := automation.revision + 1 }

/-- `resume`; `refusal` is the error the capabilities of the legacy route raise, if any. -/
def resume (automationId : UUID) (expectedRevision : Int) (refusal : Option DefinitionError) :
    Except ServiceStop (Automation × DefinitionDb) := do
  let automation ← db.automationForUpdate automationId
  checkRevision automation expectedRevision
  require (automation.lifecycle = .paused)
    (error "automation_dependency_conflict" 409 "Only a paused Automation can resume.")
  refuse (refusal.map .definition)
  let lifecycle : Lifecycle := if automation.activeVersionId.isSome then .active else .inactive
  flush
    { db with
      scheduler := if lifecycle = .active then db.enableSchedule automationId true
        else db.scheduler }
    { automation with
      lifecycle := lifecycle
      revision := automation.revision + 1 }

end DefinitionDb

/-! ## The system -/

inductive LifecycleRequest where
  | create (name : String) (graph : WorkflowGraphV1) (idempotencyKey : String)
      (automationId versionId : UUID)
  | createVersion (automationId : UUID) (expectedRevision : Int) (graph : WorkflowGraphV1)
      (idempotencyKey : String) (versionId : UUID)
  | restore (automationId : UUID) (versionNumber : Nat) (expectedRevision : Int)
      (idempotencyKey : String) (versionId : UUID)
  | activate (automationId : UUID) (expectedRevision : Int) (idempotencyKey : String)
      (resourceFindings : List ValidationFinding) (prompts : Option DefinitionError)
      (scheduleId : UUID) (now : Datetime)
  | pause (automationId : UUID) (expectedRevision : Int)
  | resume (automationId : UUID) (expectedRevision : Int) (refusal : Option DefinitionError)
  | archive (automationId : UUID) (expectedRevision : Int) (activeRun routeEnabled : Bool)
      (now : Datetime)

namespace DefinitionDb

def next (E : ServiceEnv) (db : DefinitionDb) : LifecycleRequest → DefinitionDb
  | .create name graph idempotencyKey automationId versionId =>
    commit db (createAutomation E db name graph idempotencyKey automationId versionId)
  | .createVersion automationId expectedRevision graph idempotencyKey versionId =>
    commit db (createVersion E db automationId expectedRevision graph idempotencyKey versionId)
  | .restore automationId versionNumber expectedRevision idempotencyKey versionId =>
    commit db
      (restoreVersion E db automationId versionNumber expectedRevision idempotencyKey versionId)
  | .activate automationId expectedRevision idempotencyKey resourceFindings prompts scheduleId now =>
    commit db (activate E db automationId expectedRevision idempotencyKey resourceFindings prompts
      scheduleId now)
  | .pause automationId expectedRevision => commit db (db.pause automationId expectedRevision)
  | .resume automationId expectedRevision refusal =>
    commit db (db.resume automationId expectedRevision refusal)
  | .archive automationId expectedRevision activeRun routeEnabled now =>
    commit db (db.archive automationId expectedRevision activeRun routeEnabled now)

def empty : DefinitionDb := ⟨Table.empty, Table.empty, SchedulerDb.empty⟩

end DefinitionDb

def lifecycleSystem (E : ServiceEnv) : System DefinitionDb LifecycleRequest where
  init db := db = DefinitionDb.empty
  step db request db' := db' = db.next E request

end NewsCraft.Automations
