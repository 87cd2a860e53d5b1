import NewsCraft.Automations.Validation
import NewsCraft.Lib.LinearGraph

/-!
# Compiling a graph into a plan

`compile_graph` refuses a graph its validation finds an error in, other than a resource
still to be chosen, and lays out the rest breadth first from the entry. The walk is a
`while` loop; it is given a number of turns and answers `running` when they do not suffice.
-/

namespace NewsCraft.Automations

open Lib

def compilerVersion : String := "workflow-v1.0"
def legacyCompilerVersion : String := "legacy-route-v1"

structure CompilationError where
  code : String
  message : String
  nodeId : Option String
  deriving DecidableEq

inductive CompileStop where
  | error (error : CompilationError)
  /-- A lookup of a key that is not there, or a model that does not validate. -/
  | exception (name : String)
  | running
  deriving DecidableEq

inductive TriggerKind where
  | manual
  | schedule
  | collectionArticleAdded
  | newSourceItem
  deriving DecidableEq

structure CompiledStage where
  ordinal : Nat
  nodeId : String
  nodeType : String
  owner : RuntimeOwner
  jobTypes : List String
  config : List (String × Json)

structure CompiledWorkflowPlan where
  compilerVersion : String
  graphHash : String
  planHash : String
  entryNodeId : String
  triggerKind : TriggerKind
  stages : List CompiledStage
  outputNodeIds : List String
  requiredJobTypes : List String
  requiredResources : List String
  publishingNodeIds : List String
  supportsDryRun : Bool

/-! ## The documents that are hashed -/

def RuntimeOwner.value : RuntimeOwner → String
  | .api => "api"
  | .scheduler => "scheduler"
  | .source => "source"
  | .generation => "generation"
  | .publishing => "publishing"
  | .compiler => "compiler"

def TriggerKind.value : TriggerKind → String
  | .manual => "manual"
  | .schedule => "schedule"
  | .collectionArticleAdded => "collection_article_added"
  | .newSourceItem => "new_source_item"

/-- `stage.model_dump(mode="json")`, with sorted keys. -/
def CompiledStage.dump (stage : CompiledStage) : Json :=
  .obj [("config", (Json.obj stage.config).sortKeys),
     ("job_types", .arr (stage.jobTypes.map Json.str)),
     ("node_id", .str stage.nodeId),
     ("node_type", .str stage.nodeType),
     ("ordinal", .int stage.ordinal),
     ("owner", .str stage.owner.value)]

/-- The dictionary `semantic` whose hash is the plan's, with sorted keys: every
field but `plan_hash`. -/
def CompiledWorkflowPlan.semantic (plan : CompiledWorkflowPlan) : Json :=
  .obj [("compiler_version", .str plan.compilerVersion), ("entry_node_id", .str plan.entryNodeId),
     ("graph_hash", .str plan.graphHash),
     ("output_node_ids", .arr (plan.outputNodeIds.map Json.str)),
     ("publishing_node_ids", .arr (plan.publishingNodeIds.map Json.str)),
     ("required_job_types", .arr (plan.requiredJobTypes.map Json.str)),
     ("required_resources", .arr (plan.requiredResources.map Json.str)),
     ("schema_version", .int 1),
     ("stages", .arr (plan.stages.map CompiledStage.dump)),
     ("supports_dry_run", .bool plan.supportsDryRun),
     ("trigger_kind", .str plan.triggerKind.value)]

/-- `_plan_hash` of the plan's own fields. -/
def CompiledWorkflowPlan.ownHash (E : DefinitionEnv) (plan : CompiledWorkflowPlan) : String :=
  E.sha256 plan.semantic

/-! ## The order of the stages -/

/-- `outgoing[id]`. -/
def outgoing (graph : WorkflowGraphV1) (id : String) : List String :=
  adjacency graph.edges id

/-- The `while queue` loop of `_ordered_node_ids`. -/
def orderLoop (graph : WorkflowGraphV1) : Nat → List String → List String → Option (List String)
  | _, [], ordered => some ordered
  | 0, _ :: _, _ => none
  | turns + 1, nodeId :: queue, ordered =>
    orderLoop graph turns (queue ++ sortStrings (outgoing graph nodeId)) (ordered ++ [nodeId])

/-- `_ordered_node_ids`. -/
def orderedNodeIds (turns : Nat) (graph : WorkflowGraphV1) : Except CompileStop (List String) :=
  if (graph.edges.any fun edge => 1 < (reverseAdjacency graph.edges edge.targetNodeId).length)
      || (graph.edges.any fun edge => 1 < (outgoing graph edge.sourceNodeId).length) then
    .error (.error ⟨"automation_graph_not_linear",
      "Workflow Graph v1 runtime supports one deterministic linear path.", none⟩)
  else
    match orderLoop graph turns [graph.entryNodeId] [] with
    | none => .error .running
    | some ordered =>
      if ordered.length ≠ graph.nodes.length then
        .error (.error ⟨"automation_graph_not_linear",
          "Workflow contains an unsupported execution shape.", none⟩)
      else
        .ok ordered

/-! ## The plan -/

def fieldRefs (E : DefinitionEnv) (field : String) (value : Json) : List String :=
  if endsWith field "_id" && value ≠ .null then
    [field ++ ":" ++ E.str value]
  else if endsWith field "_ids" then
    match value with
    | .arr items => items.map fun item => field ++ ":" ++ E.str item
    | _ => []
  else
    []

/-- `_resource_refs`. -/
def resourceRefs (E : DefinitionEnv) (graph : WorkflowGraphV1) : List String :=
  sortStrings (graph.nodes.flatMap fun node =>
    node.config.flatMap fun entry => fieldRefs E entry.1 entry.2).eraseDups

/-- `_TRIGGER_KIND[type]`. -/
def triggerKind? : String → Option TriggerKind
  | "manual" => some .manual
  | "schedule" => some .schedule
  | "collection_article_added" => some .collectionArticleAdded
  | "new_source_item" => some .newSourceItem
  | _ => none

def compileStage (graph : WorkflowGraphV1) (ordinal : Nat) (nodeId : String) :
    Except CompileStop (NodeDefinition × CompiledStage) :=
  match graph.nodesById nodeId with
  | none => .error (.exception "KeyError")
  | some node =>
    match nodeDefinition? node.type with
    | none => .error (.exception "KeyError")
    | some definition =>
      if definition.runtimeStatus = .unavailable then
        .error (.error ⟨"automation_node_runtime_unavailable",
          "Workflow node has no safe runtime adapter.", some node.id⟩)
      else
        .ok (definition,
          ⟨ordinal, node.id, node.type, definition.runtimeOwner, definition.runtimeJobTypes,
            node.config⟩)

def compileStages (graph : WorkflowGraphV1) :
    Nat → List String → Except CompileStop (List (NodeDefinition × CompiledStage))
  | _, [] => .ok []
  | ordinal, nodeId :: rest =>
    match compileStage graph ordinal nodeId with
    | .error stop => .error stop
    | .ok compiled =>
      match compileStages graph (ordinal + 1) rest with
      | .error stop => .error stop
      | .ok later => .ok (compiled :: later)

def compileErrors (E : DefinitionEnv) (graph : WorkflowGraphV1) : List ValidationFinding :=
  (validateGraph E graph).findings.filter fun finding =>
    finding.severity = .error ∧ finding.code ≠ "automation_resource_unavailable"

def assemblePlan (E : DefinitionEnv) (graph : WorkflowGraphV1) (triggerKind : TriggerKind)
    (compiled : List (NodeDefinition × CompiledStage)) : CompiledWorkflowPlan :=
  let plan : CompiledWorkflowPlan :=
    { compilerVersion := compilerVersion
      graphHash := graphSha256 E graph
      planHash := ""
      entryNodeId := graph.entryNodeId
      triggerKind := triggerKind
      stages := compiled.map Prod.snd
      outputNodeIds := sortStrings graph.outputNodeIds
      requiredJobTypes :=
        sortStrings (compiled.flatMap fun stage => stage.1.runtimeJobTypes).eraseDups
      requiredResources := resourceRefs E graph
      publishingNodeIds := sortStrings
        ((compiled.filter fun stage => stage.1.runtimeOwner = .publishing).map
          fun stage => stage.2.nodeId)
      supportsDryRun := true }
  { plan with planHash := plan.ownHash E }

/-- `compile_graph`. -/
def compileGraph (E : DefinitionEnv) (turns : Nat) (graph : WorkflowGraphV1) :
    Except CompileStop CompiledWorkflowPlan :=
  match compileErrors E graph with
  | first :: _ => .error (.error ⟨first.code, first.message, first.nodeId⟩)
  | [] =>
    match orderedNodeIds turns graph with
    | .error stop => .error stop
    | .ok orderedIds =>
      match graph.nodesById graph.entryNodeId with
      | none => .error (.exception "KeyError")
      | some entry =>
        match triggerKind? entry.type with
        | none =>
          .error (.error ⟨"automation_trigger_unsupported",
            "Workflow trigger cannot start a durable run.", none⟩)
        | some triggerKind =>
          match compileStages graph 0 orderedIds with
          | .error stop => .error stop
          | .ok compiled => .ok (assemblePlan E graph triggerKind compiled)

structure Compiled (E : DefinitionEnv) (turns : Nat) (graph : WorkflowGraphV1)
    (orderedIds : List String) (entry : WorkflowNode) (triggerKind : TriggerKind)
    (compiled : List (NodeDefinition × CompiledStage)) : Prop where
  noErrors : compileErrors E graph = []
  ordered : orderedNodeIds turns graph = .ok orderedIds
  entryNode : graph.nodesById graph.entryNodeId = some entry
  trigger : triggerKind? entry.type = some triggerKind
  stages : compileStages graph 0 orderedIds = .ok compiled

theorem compileGraph_ok_iff {E : DefinitionEnv} {turns : Nat} {graph : WorkflowGraphV1}
    {plan : CompiledWorkflowPlan} :
    compileGraph E turns graph = .ok plan ↔ ∃ orderedIds entry triggerKind compiled,
      Compiled E turns graph orderedIds entry triggerKind compiled
        ∧ plan = assemblePlan E graph triggerKind compiled := by
  constructor
  · intro h
    unfold compileGraph at h
    split at h
    · cases h
    rename_i herrors
    split at h
    · cases h
    rename_i orderedIds hordered
    split at h
    · cases h
    rename_i entry hentry
    split at h
    · cases h
    rename_i triggerKind htrigger
    split at h
    · cases h
    rename_i compiled hstages
    rw [Except.ok.injEq] at h
    exact ⟨orderedIds, entry, triggerKind, compiled,
      ⟨herrors, hordered, hentry, htrigger, hstages⟩, h.symm⟩
  · rintro ⟨orderedIds, entry, triggerKind, compiled, hc, rfl⟩
    unfold compileGraph
    rw [hc.noErrors]
    simp only [hc.ordered, hc.entryNode, hc.trigger, hc.stages]

/-- `verify_compiled_plan`; `modelValidate` is `CompiledWorkflowPlan.model_validate`. -/
def verifyCompiledPlan (E : DefinitionEnv) (modelValidate : Json → Option CompiledWorkflowPlan)
    (turns : Nat) (graph : WorkflowGraphV1) (rawPlan : Json) :
    Except CompileStop CompiledWorkflowPlan :=
  if rawPlan.get? "compiler_version" = some (.str legacyCompilerVersion) then
    .error (.error ⟨"automation_compiled_plan_stale",
      "Saved execution plan must be recompiled as a new version.", none⟩)
  else
    match modelValidate rawPlan with
    | none => .error (.exception "ValidationError")
    | some saved =>
      match compileGraph E turns graph with
      | .error stop => .error stop
      | .ok current =>
        if saved.compilerVersion ≠ current.compilerVersion ∨ saved.planHash ≠ current.planHash then
          .error (.error ⟨"automation_compiled_plan_stale",
            "Saved execution plan must be recompiled as a new version.", none⟩)
        else
          .ok saved

/-! ## A workflow with a review -/

def plainEnv (sha256 : Json → String) : DefinitionEnv where
  casefold := id
  str value :=
    match value with
    | .str s => s
    | _ => ""
  modelValidate _ config := .ok config
  sha256 := sha256

/-- A saved story is written up, reviewed and published. -/
def reviewedPublication : WorkflowGraphV1 where
  entryNodeId := "start"
  nodes :=
    [⟨"start", "manual", [("story_revision_id", .str "s")]⟩, ⟨"write", "generate_content_pack",
       [("editorial_profile_id", .str "e"), ("prompt_version_ids", .arr [.str "v"]),
        ("provider_profile_id", .str "p")]⟩,
     ⟨"review", "human_review", []⟩,
     ⟨"publish", "telegram_publish", [("destination_id", .str "d")]⟩]
  edges :=
    [⟨"start", "story", "write", "story"⟩, ⟨"write", "drafts", "review", "draft"⟩,
     ⟨"review", "approved", "publish", "draft"⟩]
  outputNodeIds := ["publish"]
  metadata := ⟨[]⟩

/-- The stage of a node at its place in the plan. -/
def stageOf (definition : NodeDefinition) (ordinal : Nat) (node : WorkflowNode) :
    NodeDefinition × CompiledStage :=
  (definition, ⟨ordinal, node.id, node.type, definition.runtimeOwner, definition.runtimeJobTypes,
    node.config⟩)

def reviewedStages : List (NodeDefinition × CompiledStage) :=
  (reviewedPublication.nodes.zip [manual, generateContentPack, humanReview, telegramPublish]).mapIdx
    fun ordinal entry => stageOf entry.2 ordinal entry.1

theorem reviewedPublication_compiles (sha256 : Json → String) :
    compileGraph (plainEnv sha256) 4 reviewedPublication
      = .ok (assemblePlan (plainEnv sha256) reviewedPublication .manual reviewedStages) := by
  have hfindings : compileErrors (plainEnv sha256) reviewedPublication
      = compileErrors (plainEnv fun _ => "") reviewedPublication := rfl
  have hnone : compileErrors (plainEnv fun _ => "") reviewedPublication = [] := by
    decide +kernel
  refine compileGraph_ok_iff.mpr ⟨["start", "write", "review", "publish"],
    ⟨"start", "manual", [("story_revision_id", .str "s")]⟩, .manual, reviewedStages,
    ⟨hfindings.trans hnone, rfl, rfl, rfl, rfl⟩, rfl⟩

end NewsCraft.Automations
