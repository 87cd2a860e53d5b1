import NewsCraft.Automations.Schemas
import NewsCraft.Jobs.Types
import NewsCraft.Lib.Transition

/-!
# The state of an automation run

A run has one row for each node of its plan. What happens to its jobs is projected on those
rows: a job that succeeds completes its node and moves the run to the next one or to a
review, one that fails takes the run with it, and an approval continues it. Each projection
is one transaction.

Of a summary only what is read back is kept: the continuation it names and its artifact.
Every writer links a job to a run and to a node of that run.
-/

namespace NewsCraft.Automations

open Lib Jobs

inductive RunStatus where
  | pending
  | queued
  | running
  | waitingForReview
  | succeeded
  | warning
  | failed
  | cancelled
  deriving DecidableEq

inductive NodeStatus where
  | pending
  | queued
  | running
  | succeeded
  | warning
  | failed
  | skipped
  | waitingForReview
  deriving DecidableEq

structure WorkflowArtifact where
  kind : ArtifactKind
  capabilities : List ArtifactCapability

/-- An input or output summary; `artifact` is what `normalize_artifact` makes of it. -/
structure NodeSummary where
  continuationJobId : Option UUID
  artifact : Option WorkflowArtifact

/-- A row of `automation_node_runs`. -/
structure AutomationNodeRun where
  id : UUID
  nodeId : String
  status : NodeStatus
  workflowJobId : Option UUID
  automationDispatchId : Option UUID
  generationRunId : Option UUID
  platformVariantRevisionId : Option UUID
  publishJobId : Option UUID
  publicationId : Option UUID
  inputSummary : NodeSummary
  outputSummary : NodeSummary
  safeErrorCode : Option String
  safeErrorMessage : Option String
  startedAt : Option Datetime
  finishedAt : Option Datetime

instance : Keyed AutomationNodeRun String := ⟨AutomationNodeRun.nodeId⟩

/-- `resource_snapshot`, its artifact apart fixed when the run is created. -/
structure ResourceSnapshot where
  nodeIdsByType : List (String × List String)
  nodeTypesById : List (String × String)
  nodeOrder : List String
  currentArtifact : Option WorkflowArtifact

/-- A row of `automation_runs`. -/
structure AutomationRun where
  id : UUID
  status : RunStatus
  currentNodeId : Option String
  dryRun : Bool
  resourceSnapshot : ResourceSnapshot
  safeErrorCode : Option String
  safeErrorMessage : Option String
  finishedAt : Option Datetime

structure RunRows where
  run : AutomationRun
  nodes : Table AutomationNodeRun
  jobs : Table WorkflowJob

/-- What a job handler returns, its ids parsed. `artifact` is what
`artifact_for_result` makes of it. -/
structure HandlerResult where
  continuationJobId : Option UUID
  continuationNodeId : Option String
  dispatchId : Option UUID
  generationRunId : Option UUID
  revisionId : Option UUID
  publicationId : Option UUID
  reviewRequired : Bool
  artifact : Option WorkflowArtifact

/-- `summary_with_artifact` of a result. -/
def HandlerResult.summary (result : HandlerResult) (artifact : Option WorkflowArtifact) :
    NodeSummary :=
  ⟨result.continuationJobId, artifact⟩

/-- `_JOB_NODE_TYPES.get(job_type, "")`. -/
def jobNodeType : String → String
  | "research_story" => "research"
  | "content_pack.generate" | "content_pack.generate_telegram" => "generate_content_pack"
  | "build_export" => "manual_package"
  | "telegram.publish" => "telegram_publish"
  | "telegram.route.process" | "telegram.route.dry_run" => "filter_content"
  | _ => ""

/-- `_PRESERVING_NODE_TYPES`. -/
def preservingNodeTypes : List String :=
  ["filter_content", "validate", "human_review", "save_drafts", "manual_package"]

/-- `review_artifact` of an approval. -/
def reviewArtifact (artifact : WorkflowArtifact) (eligibleForPublication : Bool) :
    WorkflowArtifact :=
  let add (capability : ArtifactCapability) (capabilities : List ArtifactCapability) :=
    if capability ∈ capabilities then capabilities else capabilities ++ [capability]
  let capabilities := add .approved artifact.capabilities
  { artifact with
    capabilities := if eligibleForPublication then add .publishable capabilities else capabilities }

namespace ResourceSnapshot

/-- `node_types_by_id.get(node_id)`. -/
def typeOf? (snapshot : ResourceSnapshot) (nodeId : String) : Option String :=
  (snapshot.nodeTypesById.find? fun entry => entry.1 = nodeId).map Prod.snd

def nextNodeId (snapshot : ResourceSnapshot) (nodeId : String) : Option String :=
  if nodeId ∈ snapshot.nodeOrder then
    snapshot.nodeOrder[snapshot.nodeOrder.idxOf nodeId + 1]?
  else
    none

/-- `_next_node_type`. -/
def nextNodeType (snapshot : ResourceSnapshot) (nodeId : String) : Option String :=
  (snapshot.nextNodeId nodeId).bind snapshot.typeOf?

/-- `_node_type`. -/
def nodeType (snapshot : ResourceSnapshot) (node : AutomationNodeRun) (job : WorkflowJob) : String :=
  (snapshot.typeOf? node.nodeId).getD (jobNodeType job.jobType)

/-- `node_ids_by_type.get(node_type, [])[0]`. -/
def firstNodeId (snapshot : ResourceSnapshot) (nodeType : String) : Option String :=
  ((snapshot.nodeIdsByType.find? fun entry => entry.1 = nodeType).map Prod.snd).bind List.head?

end ResourceSnapshot

/-- `_project_artifact`: the node's own, the one it hands on, or the result's. -/
def projectArtifact (run : AutomationRun) (node : AutomationNodeRun) (job : WorkflowJob)
    (result : HandlerResult) : Option WorkflowArtifact :=
  (node.outputSummary.artifact.or
    (if run.resourceSnapshot.nodeType node job ∈ preservingNodeTypes then
      run.resourceSnapshot.currentArtifact
    else none)).or result.artifact

/-! ## Rows -/

namespace RunRows

def nodeRun (rows : RunRows) (id : UUID) : Option AutomationNodeRun :=
  rows.nodes.rows.find? fun node => node.id = id

/-- `_node_by_type`. -/
def nodeByType (rows : RunRows) (nodeType : String) : Option AutomationNodeRun :=
  (rows.run.resourceSnapshot.firstNodeId nodeType).bind rows.nodes.lookup

def currentNode (rows : RunRows) : Option AutomationNodeRun :=
  rows.run.currentNodeId.bind rows.nodes.lookup

/-- Write to the row of a node, which may have been written to before. -/
def updateNode (rows : RunRows) (nodeId : String) (write : AutomationNodeRun → AutomationNodeRun) :
    RunRows :=
  match rows.nodes.lookup nodeId with
  | none => rows
  | some node => { rows with nodes := rows.nodes.put { write node with nodeId := nodeId } }

def updateRun (rows : RunRows) (write : AutomationRun → AutomationRun) : RunRows :=
  { rows with run := write rows.run }

def putJob (rows : RunRows) (job : WorkflowJob) : RunRows :=
  { rows with jobs := rows.jobs.put job }

def setCurrentArtifact (rows : RunRows) (artifact : Option WorkflowArtifact) : RunRows :=
  match artifact with
  | none => rows
  | some artifact =>
    rows.updateRun fun run =>
      { run with
        resourceSnapshot := { run.resourceSnapshot with currentArtifact := some artifact } }

def linkedNode (rows : RunRows) (job : WorkflowJob) : Option AutomationNodeRun :=
  if job.automationRunId = some rows.run.id then job.automationNodeRunId.bind rows.nodeRun else none

/-! ## A job succeeds -/

def finishNode (rows : RunRows) (nodeId : String) (observedAt : Datetime) : RunRows :=
  rows.updateNode nodeId fun node =>
    { node with status := .succeeded, finishedAt := some observedAt }

/-- Hand the run over to the continuation at a node. -/
def queueContinuation (rows : RunRows) (target : AutomationNodeRun) (continuation : WorkflowJob) :
    RunRows :=
  ((rows.putJob { continuation with
      automationRunId := some rows.run.id
      automationNodeRunId := some target.id }).updateNode target.nodeId fun node =>
        { node with workflowJobId := some continuation.id, status := .queued }).updateRun fun run =>
          { run with status := .running, currentNodeId := some target.nodeId }

/-- Stop at the review before the continuation, which is held back. -/
def holdForReview (rows : RunRows) (node review : AutomationNodeRun) (continuation : WorkflowJob)
    (artifact : WorkflowArtifact) (result : HandlerResult) (observedAt : Datetime) : RunRows :=
  (((rows.finishNode node.nodeId observedAt).updateNode review.nodeId fun review =>
    { review with
      inputSummary := result.summary (some artifact)
      outputSummary := ⟨some continuation.id, some artifact⟩
      status := .waitingForReview
      startedAt := some observedAt }).putJob
        { continuation with status := .cancelled, finishedAt := some observedAt }).updateRun
          fun run =>
            { run with status := .waitingForReview, currentNodeId := some review.nodeId }

def reviewBoundary (rows : RunRows) (node : AutomationNodeRun)
    (artifact : Option WorkflowArtifact) : Option (AutomationNodeRun × WorkflowArtifact) :=
  if rows.run.resourceSnapshot.nextNodeType node.nodeId = some "human_review" then
    artifact.bind fun artifact => (rows.nodeByType "human_review").map fun review => (review, artifact)
  else
    none

/-- The branch of a result that names a continuation. -/
def continueWith (rows : RunRows) (node : AutomationNodeRun) (job continuation : WorkflowJob)
    (artifact : Option WorkflowArtifact) (result : HandlerResult) (observedAt : Datetime) :
    RunRows :=
  match rows.reviewBoundary node artifact with
  | some (review, artifact) => rows.holdForReview node review continuation artifact result observedAt
  | none =>
    match result.continuationNodeId.filter fun nodeId => nodeId ≠ "" with
    | some nodeId =>
      match rows.nodes.lookup nodeId with
      | none => rows
      | some target => rows.queueContinuation target continuation
    | none =>
      if job.jobType = "research_story" then
        (rows.finishNode node.nodeId observedAt).queueContinuation
          ((rows.nodeByType "generate_content_pack").getD node) continuation
      else
        rows.queueContinuation node continuation

/-- The ids of the result are kept where it has them. -/
def recordResultIds (rows : RunRows) (nodeId : String) (result : HandlerResult) : RunRows :=
  rows.updateNode nodeId fun node =>
    { node with
      automationDispatchId := result.dispatchId.or node.automationDispatchId
      generationRunId := result.generationRunId.or node.generationRunId
      platformVariantRevisionId := result.revisionId.or node.platformVariantRevisionId
      publicationId := result.publicationId.or node.publicationId }

/-- The review a result asks for, and the revision to review. -/
def requiredReview (rows : RunRows) (result : HandlerResult) : Option (AutomationNodeRun × UUID) :=
  if result.reviewRequired then
    result.revisionId.bind fun revisionId =>
      (rows.nodeByType "human_review").map fun review => (review, revisionId)
  else
    none

def waitForReview (rows : RunRows) (review : AutomationNodeRun) (revisionId : UUID)
    (artifact : Option WorkflowArtifact) (result : HandlerResult) (observedAt : Datetime) :
    RunRows :=
  (rows.updateNode review.nodeId fun review =>
    { review with
      inputSummary :=
        if artifact.isSome then result.summary artifact else review.inputSummary
      outputSummary := if artifact.isSome then ⟨none, artifact⟩ else review.outputSummary
      status := .waitingForReview
      platformVariantRevisionId := some revisionId
      startedAt := some observedAt }).updateRun fun run =>
        { run with status := .waitingForReview, currentNodeId := some review.nodeId }

/-- The node is the publication, or the drafts are saved. -/
def reachesEnd (rows : RunRows) (node : AutomationNodeRun) : Bool :=
  (rows.nodeByType "telegram_publish").any (fun publish => publish.id = node.id)
    || (rows.nodeByType "save_drafts").isSome

def saveDrafts (rows : RunRows) (artifact : Option WorkflowArtifact) (observedAt : Datetime) :
    RunRows :=
  match rows.nodeByType "save_drafts" with
  | none => rows
  | some terminal =>
    if terminal.status = .pending then
      rows.updateNode terminal.nodeId fun terminal =>
        { terminal with
          status := .succeeded
          startedAt := some observedAt
          finishedAt := some observedAt
          outputSummary := if artifact.isSome then ⟨none, artifact⟩ else terminal.outputSummary }
    else
      rows

def completeRun (rows : RunRows) (observedAt : Datetime) : RunRows :=
  rows.updateRun fun run =>
    { run with status := .succeeded, currentNodeId := none, finishedAt := some observedAt }

/-- The end of the branch without a continuation. -/
def completeNode (rows : RunRows) (node : AutomationNodeRun) (job : WorkflowJob)
    (artifact : Option WorkflowArtifact) (result : HandlerResult) (observedAt : Datetime) :
    RunRows :=
  let rows := (rows.finishNode node.nodeId observedAt).recordResultIds node.nodeId result
  match rows.requiredReview result with
  | some (review, revisionId) => rows.waitForReview review revisionId artifact result observedAt
  | none =>
    if job.jobType = "telegram.route.dry_run" then
      rows.updateRun fun run =>
        { run with status := .running, currentNodeId := some node.nodeId }
    else
      let rows := rows.saveDrafts artifact observedAt
      if rows.reachesEnd node || rows.run.status = .succeeded then rows.completeRun observedAt
      else rows

def terminalRun (status : RunStatus) : Bool :=
  status = .succeeded || status = .failed || status = .cancelled || status = .warning

def terminalNode (status : NodeStatus) : Bool :=
  status = .succeeded || status = .failed || status = .skipped

/-- `sync_automation_job_succeeded`. -/
def jobSucceeded (rows : RunRows) (job : WorkflowJob) (result : HandlerResult)
    (observedAt : Datetime) : RunRows :=
  match rows.linkedNode job with
  | none => rows
  | some node =>
    let artifact := projectArtifact rows.run node job result
    if terminalRun rows.run.status && terminalNode node.status then
      -- a trigger handler finished the run itself
      match artifact with
      | none => rows
      | some _ =>
        (rows.updateNode node.nodeId fun node =>
          { node with outputSummary := result.summary artifact }).setCurrentArtifact artifact
    else
      let rows := (rows.updateNode node.nodeId fun node =>
        { node with
          outputSummary := result.summary artifact
          startedAt := node.startedAt.or (job.startedAt.or (some observedAt)) }).setCurrentArtifact
            artifact
      match result.continuationJobId.bind rows.jobs.lookup with
      | some continuation => rows.continueWith node job continuation artifact result observedAt
      | none => rows.completeNode node job artifact result observedAt

/-! ## A job fails -/

/-- `sync_automation_job_failed`. -/
def jobFailed (rows : RunRows) (job : WorkflowJob) (errorCode errorMessage : String)
    (observedAt : Datetime) (terminal waitingForReview : Bool) : RunRows :=
  if !(terminal || waitingForReview) then
    rows
  else
    match rows.linkedNode job with
    | none => rows
    | some node =>
      (rows.updateNode node.nodeId fun node =>
        { node with
          status := if waitingForReview then .waitingForReview else .failed
          safeErrorCode := some errorCode
          safeErrorMessage := some errorMessage
          finishedAt := some observedAt }).updateRun fun run =>
            { run with
              status := if waitingForReview then .waitingForReview else .failed
              currentNodeId := some node.nodeId
              safeErrorCode := some errorCode
              safeErrorMessage := some errorMessage
              finishedAt := if waitingForReview then none else some observedAt }

/-! ## An operator approves -/

/-- `continue_automation_review`, where `review` is the row the query gave: one of
those that wait for the revision. -/
def continueReview (rows : RunRows) (review : AutomationNodeRun) (revisionId : UUID)
    (observedAt : Datetime) : RunRows :=
  let publish := rows.nodeByType "telegram_publish"
  let rows := rows.updateNode review.nodeId fun review =>
    { review with
      status := .succeeded
      finishedAt := some observedAt
      outputSummary :=
        match review.inputSummary.artifact with
        | none => review.outputSummary
        | some artifact => ⟨none, some (reviewArtifact artifact publish.isSome)⟩ }
  if rows.run.dryRun then
    rows.completeRun observedAt
  else
    match publish with
    | none => rows
    | some publish =>
      (rows.updateNode publish.nodeId fun publish =>
        { publish with
          status := .pending
          platformVariantRevisionId := some revisionId }).updateRun fun run =>
            { run with status := .running, currentNodeId := some publish.nodeId }

/-- What an approval of the run's review goes on from. -/
structure ArtifactReview where
  review : AutomationNodeRun
  artifact : WorkflowArtifact
  nextNode : AutomationNodeRun

/-- The checks of `continue_automation_artifact_review`. -/
def artifactReview? (rows : RunRows) : Option ArtifactReview :=
  (rows.nodeByType "human_review").bind fun review =>
    if review.status ≠ .waitingForReview then
      none
    else
      review.inputSummary.artifact.bind fun artifact =>
        ((rows.run.resourceSnapshot.nextNodeId review.nodeId).bind rows.nodes.lookup).map
          fun nextNode => ⟨review, artifact, nextNode⟩

/-- The continuation the review holds back, if its job is still there. -/
def heldContinuation (rows : RunRows) (review : AutomationNodeRun) : Option WorkflowJob :=
  (review.outputSummary.continuationJobId.or review.inputSummary.continuationJobId).bind
    rows.jobs.lookup

/-- `continue_automation_artifact_review`. -/
def continueArtifactReview (rows : RunRows) (observedAt : Datetime) : RunRows :=
  match rows.artifactReview? with
  | none => rows
  | some ⟨review, artifact, nextNode⟩ =>
    let later := rows.run.resourceSnapshot.nodeOrder.drop
      (rows.run.resourceSnapshot.nodeOrder.idxOf review.nodeId + 1)
    let approved := reviewArtifact artifact (later.any fun nodeId =>
      rows.run.resourceSnapshot.typeOf? nodeId = some "telegram_publish")
    let continuation := rows.heldContinuation review
    let rows := rows.updateNode review.nodeId fun review =>
      { review with
        status := .succeeded
        finishedAt := some observedAt
        outputSummary := ⟨none, some approved⟩ }
    if rows.run.dryRun then
      rows.completeRun observedAt
    else
      match continuation with
      | none => rows
      | some continuation =>
        ((rows.putJob { continuation with
            status := .queued
            scheduledFor := some observedAt
            finishedAt := none
            automationRunId := some rows.run.id
            automationNodeRunId := some nextNode.id }).updateNode nextNode.nodeId fun node =>
              { node with
                status := .queued
                workflowJobId := some continuation.id
                inputSummary := ⟨none, some approved⟩ }).updateRun fun run =>
                  { run with
                    status := .running
                    currentNodeId := some nextNode.nodeId
                    finishedAt := none }

/-- `bind_automation_publish_job`, for a revision of this run; in a dry run it raises. -/
def bindPublishJob (rows : RunRows) (revisionId : UUID) (workflowJob : WorkflowJob)
    (publishJobId : UUID) : Except PyError RunRows :=
  if rows.run.dryRun then
    .error (.valueError "dry_run_publication_disabled")
  else
    match rows.nodeByType "telegram_publish" with
    | none => .ok rows
    | some publish =>
      .ok ((rows.updateNode publish.nodeId fun publish =>
        { publish with
          status := .queued
          workflowJobId := some workflowJob.id
          publishJobId := some publishJobId
          platformVariantRevisionId := some revisionId }).putJob { workflowJob with
              automationRunId := some rows.run.id
              automationNodeRunId := some publish.id })

/-! ## A trigger finishes or goes on -/

inductive TriggerEnd where
  | succeeded
  | failed
  | cancelled
  deriving DecidableEq

/-- `finish_trigger_run`. -/
def finishTriggerRun (rows : RunRows) (node : AutomationNodeRun) (status : TriggerEnd)
    (observedAt : Datetime) (errorCode errorMessage : Option String)
    (output : Option NodeSummary) : RunRows :=
  (rows.updateNode node.nodeId fun node =>
    { node with
      status := match status with
        | .succeeded => .succeeded
        | .failed => .failed
        | .cancelled => .skipped
      startedAt := node.startedAt.or (some observedAt)
      finishedAt := some observedAt
      outputSummary := output.getD node.outputSummary
      safeErrorCode := errorCode.or node.safeErrorCode
      safeErrorMessage := if errorCode.isSome then errorMessage else node.safeErrorMessage }).updateRun
        fun run =>
          { run with
            status := match status with
              | .succeeded => .succeeded
              | .failed => .failed
              | .cancelled => .cancelled
            currentNodeId := if status = .succeeded then none else some node.nodeId
            safeErrorCode := errorCode
            safeErrorMessage := errorMessage
            finishedAt := some observedAt }

/-- The end of `_start_collection_downstream`: `research` is the research node that
is skipped, if one is. -/
def startDownstream (rows : RunRows) (trigger : AutomationNodeRun)
    (research : Option AutomationNodeRun) (target : AutomationNodeRun) (child : WorkflowJob)
    (output : NodeSummary) (observedAt : Datetime) : RunRows :=
  let rows := match research with
    | none => rows
    | some research =>
      if research.status = NodeStatus.pending then
        rows.updateNode research.nodeId fun node =>
          { node with
            status := .skipped
            startedAt := node.startedAt.or (some observedAt)
            finishedAt := some observedAt }
      else
        rows
  (((rows.updateNode trigger.nodeId fun node =>
    { node with
      status := .succeeded
      startedAt := node.startedAt.or (some observedAt)
      finishedAt := some observedAt
      outputSummary := output }).updateNode target.nodeId fun node =>
        { node with status := .queued, workflowJobId := some child.id }).putJob { child with
            automationRunId := some rows.run.id
            automationNodeRunId := some target.id }).updateRun fun run =>
              { run with
                status := .running
                currentNodeId := some target.nodeId
                finishedAt := none }

def Created (rows : RunRows) : Prop :=
  rows.run.status = .queued ∧ ∀ node ∈ rows.nodes.rows,
    node.status = .pending ∨ node.status = .queued ∨ node.status = .succeeded
      ∨ node.status = .skipped

end RunRows

/-! ## Runs -/

/-- One committed transaction on the rows of a run. -/
inductive RunEvent where
  /-- Anything that writes job rows and none of the run's. -/
  | jobsChanged (jobs : Table WorkflowJob)
  | jobSucceeded (jobId : UUID) (result : HandlerResult) (observedAt : Datetime)
  | jobFailed (jobId : UUID) (errorCode errorMessage : String) (observedAt : Datetime)
      (terminal waitingForReview : Bool)
  | reviewApproved (revisionId : UUID) (found : String) (observedAt : Datetime)
  | artifactApproved (observedAt : Datetime)
  | publishBound (revisionId : UUID) (found : String) (workflowJobId publishJobId : UUID)
  | triggerFinished (node : String) (status : RunRows.TriggerEnd) (observedAt : Datetime)
      (errorCode errorMessage : Option String) (output : Option NodeSummary)
  | downstreamStarted (trigger : String) (research : Option String) (target : String) (child : UUID)
      (output : NodeSummary) (observedAt : Datetime)

namespace RunRows

/-- The row a query found, if it is one of the run's that the query asks for. -/
def found (rows : RunRows) (nodeId : String) (wanted : AutomationNodeRun → Bool) :
    Option AutomationNodeRun :=
  (rows.nodes.lookup nodeId).filter wanted

def awaits (revisionId : UUID) (node : AutomationNodeRun) : Bool :=
  node.platformVariantRevisionId = some revisionId && node.status = .waitingForReview

/-- The state after one transaction; one that finds nothing or raises changes nothing. -/
def step (rows : RunRows) : RunEvent → RunRows
  | .jobsChanged jobs => { rows with jobs := jobs }
  | .jobSucceeded jobId result observedAt =>
    match rows.jobs.lookup jobId with
    | none => rows
    | some job => rows.jobSucceeded job result observedAt
  | .jobFailed jobId errorCode errorMessage observedAt terminal waitingForReview =>
    match rows.jobs.lookup jobId with
    | none => rows
    | some job => rows.jobFailed job errorCode errorMessage observedAt terminal waitingForReview
  | .reviewApproved revisionId found observedAt =>
    match rows.found found (awaits revisionId) with
    | none => rows
    | some review => rows.continueReview review revisionId observedAt
  | .artifactApproved observedAt => rows.continueArtifactReview observedAt
  | .publishBound revisionId found workflowJobId publishJobId =>
    match rows.found found fun node => node.platformVariantRevisionId = some revisionId with
    | none => rows
    | some _ =>
      match rows.jobs.lookup workflowJobId with
      | none => rows
      | some workflowJob =>
        match rows.bindPublishJob revisionId workflowJob publishJobId with
        | .error _ => rows
        | .ok rows => rows
  | .triggerFinished node status observedAt errorCode errorMessage output =>
    match rows.nodes.lookup node with
    | none => rows
    | some node => rows.finishTriggerRun node status observedAt errorCode errorMessage output
  | .downstreamStarted trigger research target child output observedAt =>
    match rows.nodes.lookup trigger, rows.nodes.lookup target, rows.jobs.lookup child with
    | some trigger, some target, some child =>
      rows.startDownstream trigger (research.bind rows.nodes.lookup) target child output observedAt
    | _, _, _ => rows

end RunRows

/-- Every order of transactions on the rows of a run. -/
def runSystem : System RunRows RunEvent where
  init := RunRows.Created
  step rows event rows' := rows' = rows.step event

end NewsCraft.Automations
