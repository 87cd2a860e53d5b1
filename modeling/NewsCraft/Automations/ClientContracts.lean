import NewsCraft.Automations.Validation

/-!
# The editor's contracts

The editor reads the catalog the service exports and infers an artifact's shape on its own.
It finds a node by the first of its id, where the service takes the last, and keeps what it
has inferred under printed keys.
-/

namespace NewsCraft.Automations

/-! ## What the schema accepts -/

/-- `NodeId`. -/
def isNodeId (s : String) : Bool :=
  match s.toList with
  | [] => false
  | c :: rest =>
    c.isAlphanum && rest.length ≤ 127 && rest.all fun c => c.isAlphanum || c = '_' || c = '-'

/-- The pattern of a node's type and of a port's name. -/
def isSchemaName (s : String) : Bool :=
  match s.toList with
  | [] => false
  | c :: rest =>
    c.isLower && rest.length ≤ 79 && rest.all fun c => c.isLower || c.isDigit || c = '_'

/-- `WorkflowGraphV1` accepts the graph. -/
structure WorkflowGraphV1.Accepted (graph : WorkflowGraphV1) : Prop where
  entry : graph.entryNodeId = "" ∨ isNodeId graph.entryNodeId = true
  nodes : ∀ node ∈ graph.nodes, isNodeId node.id = true ∧ isSchemaName node.type = true
  nodeCount : graph.nodes.length ≤ 30
  edges : ∀ edge ∈ graph.edges, (isNodeId edge.sourceNodeId = true
    ∧ isSchemaName edge.sourcePort = true) ∧ isNodeId edge.targetNodeId = true
    ∧ isSchemaName edge.targetPort = true
  edgeCount : graph.edges.length ≤ 60
  outputs : ∀ id ∈ graph.outputNodeIds, isNodeId id = true
  outputCount : graph.outputNodeIds.length ≤ 30
  outputsUnique : graph.outputNodeIds.Nodup
  layout : ∀ point ∈ graph.metadata.layout, isNodeId point.1 = true
  empty : graph.nodes = [] → graph.entryNodeId = "" ∧ graph.edges = []
    ∧ graph.outputNodeIds = [] ∧ graph.metadata.layout = []

namespace Client

/-! ## The catalog -/

/-- `catalog_item`, as far as the editor reads it. -/
def catalogItem (definition : NodeDefinition) : NodeDefinition :=
  { definition with
    inputContract := definition.inputContract.or
      (definition.inputs.findSome? fun port => port.2.inputContract)
    outputContract := definition.outputContract.or
      (definition.outputs.findSome? fun port => port.2.outputContract) }

/-- `node_catalog`. -/
def nodeCatalog : List NodeDefinition := nodeRegistry.map catalogItem

def catalogDefinition (type : String) : Option NodeDefinition :=
  nodeCatalog.find? fun item => item.type = type

/-- `graph.nodes.find((node) => node.id === id)`. -/
def findNode (graph : WorkflowGraphV1) (id : String) : Option WorkflowNode :=
  graph.nodes.find? fun node => node.id = id

/-! ## Shapes -/

def inputContract (definition : NodeDefinition) (port : PortDefinition) :
    Option ArtifactInputContract :=
  port.inputContract.or definition.inputContract

def outputContract (definition : NodeDefinition) (port : PortDefinition) :
    Option ArtifactOutputContract :=
  port.outputContract.or definition.outputContract

def hasContract (output input : PortDefinition) (source target : NodeDefinition) : Bool :=
  (outputContract source output).isSome || (inputContract target input).isSome

def legacyPortCompatibility (output input : PortDefinition) : CompatibilityStatus :=
  if output.artifactTypes.any fun type => input.artifactTypes.contains type then .compatible
  else .incompatible

def legacyShape (artifactType : String) : ArtifactShape :=
  let article : List ArtifactCapability :=
    [.textual, .structured, .article, .reviewable, .generatable]
  let research : List ArtifactCapability :=
    [.textual, .structured, .research, .reviewable, .generatable]
  let draft : List ArtifactCapability := [.textual, .structured, .draft, .reviewable]
  if artifactType = "article_package" then ⟨some .article, article, true⟩
  else if artifactType = "research_package" then ⟨some .research, research, true⟩
  else if ["package", "draft_package", "content_package"].contains artifactType then
    ⟨some .draft, draft, true⟩
  else if artifactType = "article.collection_added" then
    ⟨some .article, article ++ [.collectionContext], true⟩
  else if ["source_item.ref", "content_item.ref"].contains artifactType then
    ⟨some .article, article ++ [.sourceContext], true⟩
  else if ["story.revision_ref", "story.revision_set_ref"].contains artifactType then
    ⟨some .article, article, true⟩
  else if artifactType = "story.researched_revision_ref" then ⟨some .research, research, true⟩
  else if artifactType = "draft.approved_telegram_revision_ref" then
    ⟨some .draft, draft ++ [.approved, .publishable], true⟩
  else if startsWith artifactType "draft." || artifactType = "export.manual_package_ref" then
    ⟨some .draft, draft, true⟩
  else if artifactType = "run.signal" then
    ⟨some .scheduleEvent, [.structured, .scheduleContext], true⟩
  else if artifactType = "publication.telegram_ref" then
    ⟨some .publication, [.structured, .approved, .publishable], true⟩
  else .unknown

def staticOutputShape (contract : ArtifactOutputContract) : ArtifactShape :=
  { kind := contract.kind
    capabilities := contract.capabilities ++ contract.addsCapabilities
    known := contract.kind.isSome && !contract.preservesInputArtifact }

/-- The shape of an output whose node is fed one of shape `upstream`. -/
def fedShape (contract : ArtifactOutputContract) (upstream : ArtifactShape) : ArtifactShape :=
  if contract.preservesInputArtifact then
    { kind := contract.kind.or upstream.kind
      capabilities := upstream.capabilities ++ contract.capabilities ++ contract.addsCapabilities
      known := upstream.known && (contract.kind.or upstream.kind).isSome }
  else
    staticOutputShape contract

def portKey (nodeId portName : String) : String := nodeId ++ ":" ++ portName

abbrev ShapeMap := List (String × ArtifactShape)

def ShapeMap.get (cache : ShapeMap) (key : String) : Option ArtifactShape :=
  (cache.find? fun entry => entry.1 = key).map Prod.snd

/-- The only known one of a port's legacy shapes. -/
def legacyOutputShape (port : PortDefinition) : ArtifactShape :=
  match (port.artifactTypes.map legacyShape).filter ArtifactShape.known with
  | [shape] => shape
  | _ => .unknown

/-- `artifactShapeForOutput`; no more calls nest than there are nodes, which `depth` counts. -/
def artifactShapeForOutput (graph : WorkflowGraphV1) : Nat → List String → ShapeMap → String →
    String → ArtifactShape × ShapeMap
  | depth, visiting, cache, nodeId, portName =>
    match cache.get (portKey nodeId portName) with
    | some shape => (shape, cache)
    | none =>
      if portKey nodeId portName ∈ visiting then
        (.unknown, cache)
      else
        match (findNode graph nodeId).bind fun node => catalogDefinition node.type with
        | none => (.unknown, cache)
        | some definition =>
          match definition.output? portName with
          | none => (.unknown, cache)
          | some port =>
            match outputContract definition port with
            | none =>
              let shape := legacyOutputShape port
              (shape, (portKey nodeId portName, shape) :: cache)
            | some contract =>
              match graph.edges.filter (fun edge => edge.targetNodeId = nodeId), depth with
              | [edge], depth + 1 =>
                let (upstream, cache) :=
                  artifactShapeForOutput graph depth (portKey nodeId portName :: visiting)
                    cache edge.sourceNodeId edge.sourcePort
                let shape := fedShape contract upstream
                (shape, (portKey nodeId portName, shape) :: cache)
              | _, _ =>
                let shape := fedShape contract .unknown
                (shape, (portKey nodeId portName, shape) :: cache)

def matchInputContract (shape : ArtifactShape) (contract : Option ArtifactInputContract) :
    CompatibilityStatus :=
  match contract with
  | none => .incompatible
  | some contract =>
    if !shape.known then .incomplete
    else if !contract.acceptedKinds.isEmpty
        && !contract.acceptedKinds.any (fun kind => shape.kind = some kind) then .incompatible
    else if contract.allOf.any fun capability => !shape.capabilities.contains capability then
      .incompatible
    else if !contract.anyOf.isEmpty
        && !contract.anyOf.any (fun capability => shape.capabilities.contains capability) then
      .incompatible
    else .compatible

def connectionCompatibility (graph : WorkflowGraphV1) (edge : WorkflowEdge) (cache : ShapeMap) :
    CompatibilityStatus × ShapeMap :=
  match (findNode graph edge.sourceNodeId).bind fun node => catalogDefinition node.type,
      (findNode graph edge.targetNodeId).bind fun node => catalogDefinition node.type with
  | some source, some target =>
    match source.output? edge.sourcePort, target.input? edge.targetPort with
    | some output, some input =>
      if hasContract output input source target then
        let (shape, cache) := artifactShapeForOutput graph graph.nodes.length [] cache
          edge.sourceNodeId edge.sourcePort
        (matchInputContract shape (inputContract target input), cache)
      else (legacyPortCompatibility output input, cache)
    | _, _ => (.incompatible, cache)
  | _, _ => (.incompatible, cache)

end Client

end NewsCraft.Automations
