import NewsCraft.Automations.Lifecycle
import NewsCraft.Automations.RunState
import NewsCraft.Core.UuidText
import NewsCraft.Generation.RequestPack

/-!
# The runs of a schedule slot

The job of a schedule slot selects stories and starts one run for the latest revision of
each: a run with its nodes, and the job that answers the request for a content pack. All of
it is one transaction, so a refused request takes the whole slot back. A slot that started
runs is recognised by them when its job is run again.

What the handler reads of prompts and stories is an argument of an execution.
-/

namespace NewsCraft.Automations

open Lib Lib.Checked Jobs Generation

/-! ## Rows -/

structure StoryRevision where
  id : UUID
  storyId : UUID
  revisionNumber : Int
  deriving DecidableEq

/-- A row of `automation_runs` with its nodes, as a trigger writes it. -/
structure TriggeredRun where
  run : AutomationRun
  automationId : UUID
  automationVersionId : UUID
  triggerKind : TriggerKind
  triggerMetadata : Json
  rootWorkflowJobId : Option UUID
  idempotencyKey : String
  startedAt : Option Datetime
  nodes : Table AutomationNodeRun

instance : Keyed StoryRevision UUID := ⟨StoryRevision.id⟩
instance : Keyed TriggeredRun UUID := ⟨fun triggered => triggered.run.id⟩

structure RunsDb where
  world : World
  automations : Table Automation
  versions : Table AutomationVersion
  revisions : Table StoryRevision
  /-- `control.dry_run`. -/
  dryRun : Bool
  runs : Table TriggeredRun

/-- One execution of a slot's job, with the ids it draws. -/
structure SlotExecution where
  job : JobExecution
  now : Datetime
  /-- The stories the selection matches, in its order. -/
  selectedIds : List UUID
  /-- `group_by(Story.id)`. -/
  distinct : selectedIds.Nodup
  /-- Whether reading the selection's config raises `ValueError`. -/
  selectionRaises : Bool
  /-- The error `require_exact_generation_prompts` raises, if any. -/
  prompts : Option DefinitionError
  /-- What the request for a story looks up; its story and research mode are the plan's. -/
  request : UUID → PackRequest
  runId : UUID → UUID
  nodeRunId : UUID → String → UUID

inductive SlotStop where
  | permanentJobError (code message : String)
  | service (stop : ServiceStop)
  | job (error : JobError)
  | exception (name : String)

inductive SlotOutcome where
  | inactive
  | paused
  | staleVersion
  | replayed (runIds : List UUID)
  | emptySelection
  | started (runIds : List UUID)

/-- What an execution found before it starts its first run. -/
structure SlotPlan where
  automation : Automation
  version : AutomationVersion
  plan : CompiledWorkflowPlan
  trigger : CompiledStage
  selection : CompiledStage
  generation : CompiledStage
  research : Option CompiledStage

/-! ## Before the runs -/

/-- `ScheduledAutomationPayload.model_validate`. -/
def scheduledAutomationPayload (payload : Json) : Option (UUID × UUID) :=
  match payload with
  | .obj fields =>
    match (Json.obj fields).get? "automation_id", (Json.obj fields).get? "automation_version_id" with
    | some (.str automationId), some (.str versionId) =>
      if fields.all fun field => ["automation_id", "automation_version_id"].contains field.1 then
        (parseUuid automationId).bind fun automationId =>
          (parseUuid versionId).map fun versionId => (automationId, versionId)
      else
        none
    | _, _ => none
  | _ => none

/-- The order `revision_number.desc(), id.desc()`. -/
def StoryRevision.newer (a b : StoryRevision) : Bool :=
  b.revisionNumber < a.revisionNumber
    ∨ (b.revisionNumber = a.revisionNumber ∧ b.id.int.toNat < a.id.int.toNat)

/-- The run is one of a slot's job: `trigger_metadata["schedule_job_id"]` names it. -/
def TriggeredRun.OfJob (triggered : TriggeredRun) (jobId : UUID) : Prop :=
  triggered.triggerMetadata.get? "schedule_job_id" = some (.str (uuidStr jobId))

instance (triggered : TriggeredRun) (jobId : UUID) : Decidable (triggered.OfJob jobId) := by
  unfold TriggeredRun.OfJob
  infer_instance

namespace RunsDb

variable (E : ServiceEnv) (R : Redaction) (db : RunsDb) (slot : SlotExecution)

def latestRevision (storyId : UUID) : Option StoryRevision :=
  (db.revisions.rows.filter fun revision => revision.storyId = storyId).foldl
    (fun best revision =>
      match best with
      | none => some revision
      | some best => if revision.newer best then some revision else some best)
    none

/-- `_select_revisions`. -/
def selectRevisions (selectedIds : List UUID) : List StoryRevision :=
  selectedIds.filterMap db.latestRevision

/-- The checks of the handler, up to the selection. -/
def prepareSlot : Except SlotStop (SlotOutcome ⊕ (SlotPlan × List StoryRevision)) :=
  match scheduledAutomationPayload slot.job.payload with
  | none => .error (.permanentJobError "automation_schedule_payload_invalid"
      "Scheduled Automation payload is invalid")
  | some (automationId, versionId) =>
    match db.automations.lookup automationId with
    | none => .ok (.inl .inactive)
    | some automation =>
      if automation.lifecycle ≠ .active then
        .ok (.inl .inactive)
      else if db.world.db.globalPause then
        .ok (.inl .paused)
      else if automation.activeVersionId ≠ some versionId then
        .ok (.inl .staleVersion)
      else
        match db.versions.lookup versionId with
        | none => .ok (.inl .staleVersion)
        | some version =>
          match db.runs.rows.filter fun triggered => triggered.OfJob slot.job.id with
          | first :: rest =>
            .ok (.inl (.replayed ((first :: rest).map fun triggered => triggered.run.id)))
          | [] =>
            match E.verifiedPlan version with
            | .error stop => .error (.service stop)
            | .ok plan =>
              match DefinitionDb.stage plan "schedule",
                  DefinitionDb.stage plan "select_content",
                  DefinitionDb.stage plan "generate_content_pack" with
              | some trigger, some selection, some generation =>
                match slot.prompts with
                | some error => .error (.service (.definition error))
                | none =>
                  if slot.selectionRaises then
                    .error (.permanentJobError
                      "automation_schedule_resource_unavailable"
                      "Scheduled Automation resources are unavailable")
                  else
                    .ok (.inr
                      ({ automation := automation
                         version := version
                         plan := plan
                         trigger := trigger
                         selection := selection
                         generation := generation
                         research := DefinitionDb.stage plan "research" },
                        db.selectRevisions slot.selectedIds))
              | _, _, _ => .error (.permanentJobError "automation_schedule_plan_invalid"
                  "Scheduled Automation plan is not executable")

/-! ## One run -/

def runKey (jobId revisionId : UUID) : String :=
  "automation-schedule:" ++ uuidStr jobId ++ ":" ++ uuidStr revisionId

def runByKey (key : String) : Option TriggeredRun :=
  db.runs.rows.find? fun triggered => triggered.idempotencyKey = key

/-- `UUID(str(config[key]))`. -/
def configUuid (config : List (String × Json)) (key : String) : Option UUID :=
  ((Json.obj config).get? key).bind fun value => parseUuid (E.definitions.str value)

/-- The research mode of the `GeneratePackRequest`; `none` where building it raises. -/
def packMode (plan : SlotPlan) : Option String := do
  let _ ← configUuid E plan.generation.config "editorial_profile_id"
  let _ ← configUuid E plan.generation.config "provider_profile_id"
  match plan.research with
  | none => some "off"
  | some research => do
      let mode := E.definitions.str (((Json.obj research.config).get? "mode").getD .null)
      let _ ← configUuid E research.config "provider_profile_id"
      if mode ∈ ["off", "manual", "auto_if_incomplete"] then some mode else none

/-- The request for the content pack of a selected revision. -/
def packRequest (mode : String) (revision : StoryRevision) : PackRequest :=
  { slot.request revision.storyId with
    storyId := revision.storyId
    researchMode := mode }

/-- `_node_map`. -/
def nodeMap (plan : CompiledWorkflowPlan) : List (String × List String) :=
  (plan.stages.map CompiledStage.nodeType).eraseDups.map fun nodeType =>
    (nodeType, (plan.stages.filter fun stage => stage.nodeType = nodeType).map CompiledStage.nodeId)

def scheduleArtifact : WorkflowArtifact := ⟨.scheduleEvent, [.structured, .scheduleContext]⟩

def selectionArtifact : WorkflowArtifact :=
  ⟨.article, [.textual, .structured, .article, .reviewable, .generatable]⟩

def newNode (plan : SlotPlan) (runId : UUID) (stage : CompiledStage) : AutomationNodeRun :=
  let succeeded := stage.nodeId = plan.trigger.nodeId ∨ stage.nodeId = plan.selection.nodeId
  let skipped := db.dryRun = true ∧ stage.nodeId ∈ plan.plan.publishingNodeIds
  { id := slot.nodeRunId runId stage.nodeId
    nodeId := stage.nodeId
    status := if succeeded then .succeeded else if skipped then .skipped else .pending
    workflowJobId := none
    automationDispatchId := none
    generationRunId := none
    platformVariantRevisionId := none
    publishJobId := none
    publicationId := none
    inputSummary := ⟨none, none⟩
    outputSummary :=
      if skipped then ⟨none, none⟩
      else if stage.nodeId = plan.trigger.nodeId then ⟨none, some scheduleArtifact⟩
      else if stage.nodeId = plan.selection.nodeId then ⟨none, some selectionArtifact⟩
      else ⟨none, none⟩
    safeErrorCode := none
    safeErrorMessage := none
    startedAt := if succeeded then some slot.now else none
    finishedAt := if succeeded ∨ skipped then some slot.now else none }

/-- The row of a new run; `root` is the job it starts with, at the node `target`. -/
def newRun (plan : SlotPlan) (revision : StoryRevision) (target : CompiledStage) (root : UUID) :
    TriggeredRun :=
  let runId := slot.runId revision.id
  let nodes := plan.plan.stages.foldl
    (fun nodes stage => nodes.insert (db.newNode slot plan runId stage)) Table.empty
  let targetNode := db.newNode slot plan runId target
  let scheduledFor := slot.job.scheduledFor.getD slot.job.createdAt
  { run :=
      { id := runId
        status := .queued
        currentNodeId := some (plan.research.getD plan.generation).nodeId
        dryRun := db.dryRun
        resourceSnapshot :=
          { nodeIdsByType := nodeMap plan.plan
            nodeTypesById := plan.plan.stages.map fun stage => (stage.nodeId, stage.nodeType)
            nodeOrder := plan.plan.stages.map CompiledStage.nodeId
            currentArtifact := some selectionArtifact }
        safeErrorCode := none
        safeErrorMessage := none
        finishedAt := none }
    automationId := plan.automation.id
    automationVersionId := plan.version.id
    triggerKind := .schedule
    triggerMetadata := .obj
      [("schedule_job_id", .str (uuidStr slot.job.id)),
       ("scheduled_for", .str (isoformat scheduledFor)),
       ("story_revision_id", .str (uuidStr revision.id))]
    rootWorkflowJobId := some root
    idempotencyKey := runKey slot.job.id revision.id
    startedAt := some slot.now
    nodes := nodes.put
      { targetNode with
        status := .queued
        workflowJobId := some root } }

def packDigest (payload : Json) : String := E.definitions.sha256 payload.sortKeys

/-- The node of the run the answering job is for. -/
def targetStage (plan : SlotPlan) (child : WorkflowJob) : CompiledStage :=
  match plan.research with
  | some research => if child.jobType = "research_story" then research else plan.generation
  | none => plan.generation

/-- The job that answers a request is taken over by the new run. -/
def adoptChild (plan : SlotPlan) (revision : StoryRevision) (jobs : JobsDb) (child : WorkflowJob) :
    RunsDb :=
  let target := targetStage plan child
  let runId := slot.runId revision.id
  { db with
    world := { db.world with
      db := jobs.write
        { child with
          automationRunId := some runId
          automationNodeRunId := some (slot.nodeRunId runId target.nodeId) } }
    runs := db.runs.insert (db.newRun slot plan revision target child.id) }

/-- The body of the loop over the selected revisions. -/
def startRevision (plan : SlotPlan) (acc : RunsDb × List UUID) (revision : StoryRevision) :
    Except SlotStop (RunsDb × List UUID) :=
  let (db, runIds) := acc
  match db.runByKey (runKey slot.job.id revision.id) with
  | some existing => .ok (db, runIds ++ [existing.run.id])
  | none =>
    if (db.runs.lookup (slot.runId revision.id)).isSome then
      .error (.exception "IntegrityError")
    else match packMode E plan with
    | none => .error (.exception "ValueError")
    | some mode =>
      match requestContentPack R (packDigest E) db.world.db (packRequest slot mode revision) with
      | .error .invalidGenerationRequest =>
        .error (.permanentJobError "automation_schedule_generation_rejected"
          "Scheduled generation request was rejected")
      | .error (.job error) => .error (.job error)
      | .ok (jobId, jobs) =>
        match jobs.jobs.lookup jobId with
        | none =>
          .error (.permanentJobError "automation_schedule_job_missing"
            "Scheduled generation job was not created")
        | some child =>
          if child.automationRunId.isSome
              ∧ child.automationRunId ≠ some (slot.runId revision.id) then
            .error (.permanentJobError "automation_schedule_generation_already_owned"
              "Scheduled generation request is already owned by another Automation run")
          else
            .ok (db.adoptChild slot plan revision jobs child,
              runIds ++ [slot.runId revision.id])

/-! ## The slot -/

/-- The handler `build_scheduled_automation_handler` builds. -/
def handle : Except SlotStop (SlotOutcome × RunsDb) := do
  match ← db.prepareSlot E slot with
  | .inl outcome => .ok (outcome, db)
  | .inr (plan, revisions) => do
      let (db, runIds) ← revisions.foldlM (startRevision E R slot plan) (db, [])
      .ok (if runIds = [] then .emptySelection else .started runIds, db)

end RunsDb

/-! ## Histories -/

inductive HistoryEvent where
  | slot (slot : SlotExecution)
  | job (op : Op)
  /-- Another trigger starts a run, and takes its job over. -/
  | startRun (triggered : TriggeredRun) (jobs : Table WorkflowJob)
  /-- What becomes of a run is written to its row. -/
  | project (triggered : TriggeredRun)
  | edit (automations : Table Automation) (versions : Table AutomationVersion)
      (revisions : Table StoryRevision) (dryRun : Bool)

namespace RunsDb

/-- The tables after one event; an execution that is stopped is rolled back. -/
def next (E : ServiceEnv) (R : Redaction) (db : RunsDb) : HistoryEvent → RunsDb
  | .slot slot => commit db (db.handle E R slot)
  | .job op => { db with world := db.world.step R op }
  | .startRun triggered jobs =>
    { db with
      runs := db.runs.insert triggered
      world := { db.world with db := { db.world.db with jobs := jobs } } }
  | .project triggered =>
    match db.runs.lookup triggered.run.id with
    | none => db
    | some before =>
      { db with
        runs := db.runs.put
          { triggered with
            triggerMetadata := before.triggerMetadata
            idempotencyKey := before.idempotencyKey } }
  | .edit automations versions revisions dryRun =>
    { db with
      automations := automations
      versions := versions
      revisions := revisions
      dryRun := dryRun }

def empty : RunsDb := ⟨World.empty, Table.empty, Table.empty, Table.empty, false, Table.empty⟩

end RunsDb

/-- Slots, and whatever else happens between them. -/
def historySystem (E : ServiceEnv) (R : Redaction) : System RunsDb HistoryEvent where
  init db := db = RunsDb.empty
  step db event db' := db' = db.next E R event

end NewsCraft.Automations
