import NewsCraft.Automations.Registry

/-!
# Validating a graph

`validate_graph` as a list of findings, in the order the service reports them. Pydantic's
verdict on a config, the case folding and printing of Python values, and the digest of a
document are arguments.
-/

namespace NewsCraft.Automations

/-- One entry of `ValidationError.errors()`, its location already printed. -/
structure PydanticError where
  loc : List String
  type : String
  message : String
  minLength : Option Nat
  maxLength : Option Nat

/-- What the definitions rely on outside this repository. -/
structure DefinitionEnv where
  /-- `str.casefold`. -/
  casefold : String → String
  /-- `str(value)` of a config value. -/
  str : Json → String
  /-- `config_model.model_validate(config)` of a node type, and its JSON dump. -/
  modelValidate : String → List (String × Json) → Except (List PydanticError) (List (String × Json))
  /-- SHA-256 of the text `json.dumps` writes for a document whose keys are sorted. -/
  sha256 : Json → String

/-- `graph_sha256`. -/
def graphSha256 (E : DefinitionEnv) (graph : WorkflowGraphV1) : String :=
  E.sha256 (canonicalGraphData graph)

def errorFinding (code message : String) (nodeId : Option String) (edgeIndex : Option Nat)
    (fieldPath recoveryAction : Option String) : ValidationFinding :=
  ⟨code, .error, message, nodeId, edgeIndex, fieldPath, recoveryAction⟩

/-! ## Configs -/

def forbiddenConfigKeys : List String :=
  ["api_key", "authorization", "credential", "credentials", "environment", "filesystem",
    "job_type", "password", "prompt_body", "roles", "scope", "scopes", "secret", "secret_ref",
    "system_template", "token", "user_template"]

def endsWith (s suffix : String) : Bool := suffix.toList.isSuffixOf s.toList

def startsWith (s start : String) : Bool := start.toList.isPrefixOf s.toList

def forbiddenKey (key : String) : Bool :=
  forbiddenConfigKeys.contains key || endsWith key "_secret" || endsWith key "_token"
    || endsWith key "_api_key"

mutual

/-- `_forbidden_paths`. -/
def forbiddenPaths (casefold : String → String) (path : String) : Json → List String
  | .obj fields => forbiddenFields casefold path fields
  | .arr items => forbiddenItems casefold path 0 items
  | .str s => if startsWith (casefold s) "bearer " then [path] else []
  | .null | .bool _ | .int _ | .float _ => []

def forbiddenFields (casefold : String → String) (path : String) : List (String × Json) → List String
  | [] => []
  | (key, item) :: rest =>
    let here := path ++ "." ++ key
    (if forbiddenKey (casefold key) then [here] else [])
      ++ (forbiddenPaths casefold here item ++ forbiddenFields casefold path rest)

def forbiddenItems (casefold : String → String) (path : String) (index : Nat) : List Json → List String
  | [] => []
  | item :: rest =>
    forbiddenPaths casefold (path ++ "." ++ toString index) item
      ++ forbiddenItems casefold path (index + 1) rest

end

/-- `_display_config_path`. -/
def displayConfigPath (fieldPath : String) : String :=
  if startsWith fieldPath "config." then
    "configuration." ++ String.ofList (fieldPath.toList.drop 7)
  else
    fieldPath

def isWordChar (c : Char) : Bool := c.isAlphanum || c = '_'

/-- The field's name is a word of its own in the message; `before` is the character before. -/
def mentions (before : Option Char) (field : List Char) : List Char → Bool
  | [] => false
  | c :: rest =>
    (field.isPrefixOf (c :: rest) && !(before.any isWordChar)
      && !(((c :: rest).drop field.length).head?.any isWordChar))
    || mentions (some c) field rest

/-- `_error_field_path`. -/
def errorFieldPath (definition : NodeDefinition) (error : PydanticError) : String :=
  match error.loc with
  | _ :: _ => "config." ++ String.intercalate "." error.loc
  | [] =>
    match definition.configFields.find? fun field =>
        mentions none field.toList error.message.toList with
    | some field => "config." ++ field
    | none => "config"

/-- `_schema_error_message`. -/
def schemaErrorMessage (definition : NodeDefinition) (fieldPath : String) (error : PydanticError) :
    String :=
  let items (bound : Option Nat) (missing : String) : String :=
    match bound with
    | none => missing ++ " items."
    | some 1 => "1 item."
    | some n => toString n ++ " items."
  let reason :=
    match error.type with
    | "missing" => "is required."
    | "extra_forbidden" => "is not supported."
    | "too_short" => "must contain at least " ++ items error.minLength "the minimum number of"
    | "too_long" => "must contain at most " ++ items error.maxLength "the maximum number of"
    | _ => "is invalid."
  definition.displayName ++ ": " ++ displayConfigPath fieldPath ++ " " ++ reason

/-- `_REQUIRED_RESOURCE_FIELDS`. -/
def requiredResourceFields : String → List String
  | "manual" => ["story_revision_id"]
  | "collection_article_added" => ["collection_id"]
  | "new_source_item" => ["source_ids"]
  | "research" => ["provider_profile_id"]
  | "generate_content_pack" =>
    ["editorial_profile_id", "provider_profile_id", "prompt_version_ids"]
  | "telegram_publish" => ["destination_id"]
  | _ => []

/-- `_validate_node_config`. -/
def validateNodeConfig (E : DefinitionEnv) (node : WorkflowNode) : List ValidationFinding :=
  match nodeDefinition? node.type with
  | none =>
    [errorFinding "node_type_unsupported"
      "Saved workflow contains a node type that is not supported anymore." (some node.id) none
      (some "type")
      (some "Remove this step explicitly; replacement is not applied automatically.")]
  | some definition =>
    let forbidden := (forbiddenFields E.casefold "config" node.config).map fun path =>
      errorFinding "node_config_invalid"
        (definition.displayName ++ ": " ++ displayConfigPath path ++ " is not supported.")
        (some node.id) none (some path)
        (some "Remove the field and select a saved resource by ID.")
    match E.modelValidate node.type node.config with
    | .error errors =>
      forbidden ++ errors.map fun error =>
        let fieldPath := errorFieldPath definition error
        errorFinding "node_config_invalid" (schemaErrorMessage definition fieldPath error)
          (some node.id) none (some fieldPath) (some "Correct the highlighted field.")
    | .ok values =>
      let empty (field : String) : Bool :=
        match (values.find? fun entry => entry.1 = field).map Prod.snd with
        | none => true
        | some value => value = .null || value = .arr [] || value = .str ""
      forbidden ++ ((requiredResourceFields node.type).filter empty).map fun field =>
        errorFinding "automation_resource_unavailable"
          (definition.displayName ++ ": configuration." ++ field ++ " is required.")
          (some node.id) none (some ("config." ++ field)) (some "Select a saved resource.")

/-! ## Shapes -/

abbrev ShapeCache := List ((String × String) × ArtifactShape)

def ShapeCache.get (cache : ShapeCache) (key : String × String) : Option ArtifactShape :=
  (cache.find? fun entry => entry.1 = key).map Prod.snd

/-- The only known one of a port's legacy shapes. -/
def legacyPortShape (port : PortDefinition) : ArtifactShape :=
  match (port.artifactTypes.map legacyArtifactShape).filter ArtifactShape.known with
  | [shape] => shape
  | _ => .unknown

/-- `_output_shape`; `depth` counts nested calls, each of which has its key in `visiting`. -/
def outputShape (graph : WorkflowGraphV1) : Nat → List (String × String) → ShapeCache → String →
    String → ArtifactShape × ShapeCache
  | depth, visiting, cache, nodeId, portName =>
    match cache.get (nodeId, portName) with
    | some shape => (shape, cache)
    | none =>
      if (nodeId, portName) ∈ visiting then
        (.unknown, cache)
      else
        match (graph.nodesById nodeId).bind fun node => nodeDefinition? node.type with
        | none => (.unknown, cache)
        | some definition =>
          match definition.output? portName with
          | none => (.unknown, cache)
          | some port =>
            match port.outputContract.or definition.outputContract with
            | none =>
              let shape := legacyPortShape port
              (shape, ((nodeId, portName), shape) :: cache)
            | some contract =>
              match graph.edges.filter (fun edge => edge.targetNodeId = nodeId), depth with
              | [edge], depth + 1 =>
                let (upstream, cache) :=
                  outputShape graph depth ((nodeId, portName) :: visiting) cache
                    edge.sourceNodeId edge.sourcePort
                let shape := shapeForOutputContract contract (some upstream)
                (shape, ((nodeId, portName), shape) :: cache)
              | _, _ =>
                let shape := shapeForOutputContract contract none
                (shape, ((nodeId, portName), shape) :: cache)

/-! ## Edges -/

def edgeFinding (code message : String) (nodeId : Option String) (index : Nat)
    (recoveryAction : String) : ValidationFinding :=
  errorFinding code message nodeId (some index) none (some recoveryAction)

inductive EdgeVerdict where
  | rejected (finding : ValidationFinding)
  | accepted (warning : Option ValidationFinding)

def incompleteEdge (index : Nat) : ValidationFinding :=
  { edgeFinding "edge_artifact_contract_incomplete"
      "Artifact compatibility is incomplete until an upstream artifact is available." none index
      "Configure and run the upstream step before activation." with
    severity := .warning }

def unsupportedPort (index : Nat) : EdgeVerdict :=
  .rejected <| edgeFinding "edge_port_invalid"
    "Edge references an unsupported input or output port." none index
    "Choose compatible ports from the node catalog."

/-- The body of the loop over the edges, with the edges it has met before. -/
def judgeEdge (graph : WorkflowGraphV1) (seen : List WorkflowEdge) (cache : ShapeCache)
    (index : Nat) (edge : WorkflowEdge) : EdgeVerdict × ShapeCache :=
  if edge ∈ seen then
    (.rejected <| edgeFinding "edge_cardinality_invalid" "Duplicate edge is not allowed." none index
      "Remove the duplicate connection.", cache)
  else
    match graph.nodesById edge.sourceNodeId, graph.nodesById edge.targetNodeId with
    | some sourceNode, some targetNode =>
      if sourceNode.id = targetNode.id then
        (.rejected <| edgeFinding "graph_cycle" "Self-connections are not allowed."
          (some sourceNode.id) index "Remove the self-connection.", cache)
      else if (nodeDefinition? targetNode.type).any NodeDefinition.entry then
        (.rejected <| edgeFinding "edge_port_invalid"
          "Trigger nodes cannot receive incoming connections." (some targetNode.id) index
          "Keep the trigger first and connect only from its output.", cache)
      else
        match nodeDefinition? sourceNode.type, nodeDefinition? targetNode.type with
        | some sourceDefinition, some targetDefinition =>
          match sourceDefinition.output? edge.sourcePort,
              targetDefinition.input? edge.targetPort with
          | some _, some targetPort =>
            let (shape, cache) := outputShape graph graph.nodes.length [] cache
              edge.sourceNodeId edge.sourcePort
            match matchInputContract shape
                (targetPort.inputContract.or targetDefinition.inputContract) with
            | .incompatible =>
              (.rejected <| edgeFinding "edge_port_invalid"
                "Connected ports require incompatible artifact capabilities or kinds." none
                index
                "Connect an output whose artifact contract satisfies the input contract.",
                cache)
            | .incomplete => (.accepted (some (incompleteEdge index)), cache)
            | .compatible => (.accepted none, cache)
          | _, _ => (unsupportedPort index, cache)
        | _, _ => (unsupportedPort index, cache)
    | _, _ =>
      (.rejected <| edgeFinding "edge_port_invalid" "Edge references a node that does not exist."
        none index "Reconnect the edge to existing nodes.", cache)

/-- The loop's variables. `adjacency`, `reverse` and both counters are read off
the edges accepted so far. -/
structure EdgeScan where
  seen : List WorkflowEdge
  accepted : List WorkflowEdge
  findings : List ValidationFinding
  cache : ShapeCache

def EdgeScan.next (graph : WorkflowGraphV1) (scan : EdgeScan) (edge : WorkflowEdge) (index : Nat) :
    EdgeScan :=
  match judgeEdge graph scan.seen scan.cache index edge with
  | (.rejected finding, cache) =>
    { scan with
      seen := scan.seen ++ [edge]
      findings := scan.findings ++ [finding]
      cache := cache }
  | (.accepted warning, cache) =>
    { seen := scan.seen ++ [edge]
      accepted := scan.accepted ++ [edge]
      findings := scan.findings ++ warning.toList
      cache := cache }

def scanEdges (graph : WorkflowGraphV1) : EdgeScan → List (WorkflowEdge × Nat) → EdgeScan
  | scan, [] => scan
  | scan, (edge, index) :: rest => scanEdges graph (scan.next graph edge index) rest

/-- `adjacency[id]`. -/
def adjacency (accepted : List WorkflowEdge) (id : String) : List String :=
  (accepted.filter fun edge => edge.sourceNodeId = id).map WorkflowEdge.targetNodeId

/-- `reverse[id]`. -/
def reverseAdjacency (accepted : List WorkflowEdge) (id : String) : List String :=
  (accepted.filter fun edge => edge.targetNodeId = id).map WorkflowEdge.sourceNodeId

/-! ## Ports -/

def portFinding (node : WorkflowNode) (message fieldPath recoveryAction : String) :
    ValidationFinding :=
  errorFinding "edge_cardinality_invalid" message (some node.id) none (some fieldPath)
    (some recoveryAction)

def tooMany (port : PortDefinition) (count : Nat) : Bool :=
  port.maxConnections.any fun bound => bound < count

def inputFindings (accepted : List WorkflowEdge) (node : WorkflowNode)
    (port : String × PortDefinition) : List ValidationFinding :=
  let count := (accepted.filter fun edge =>
    edge.targetNodeId = node.id ∧ edge.targetPort = port.1).length
  (if port.2.required ∧ count = 0 then
    [portFinding node "Required input is not connected." ("inputs." ++ port.1)
      "Connect one compatible predecessor."]
  else []) ++
  (if tooMany port.2 count then
    [portFinding node "Input has too many connections." ("inputs." ++ port.1)
      "Remove extra incoming connections."]
  else [])

def outputFindings (accepted : List WorkflowEdge) (node : WorkflowNode)
    (port : String × PortDefinition) : List ValidationFinding :=
  let count := (accepted.filter fun edge =>
    edge.sourceNodeId = node.id ∧ edge.sourcePort = port.1).length
  if tooMany port.2 count then
    [portFinding node "Output has too many connections." ("outputs." ++ port.1)
      "Remove extra outgoing connections."]
  else []

def portFindings (accepted : List WorkflowEdge) (node : WorkflowNode) : List ValidationFinding :=
  match nodeDefinition? node.type with
  | none => []
  | some definition =>
    definition.inputs.flatMap (inputFindings accepted node)
      ++ definition.outputs.flatMap (outputFindings accepted node)

/-! ## Cycles, reachability and ancestors -/

structure CycleState where
  visited : List String
  cycles : List String

/-- `visit` inside `_cycle_nodes`; `depth` counts nested calls, each with its node in `visiting`. -/
def cycleVisit (next : String → List String) : Nat → List String → CycleState → String → CycleState
  | depth, visiting, state, nodeId =>
    if nodeId ∈ visiting then
      { state with cycles := nodeId :: state.cycles }
    else if nodeId ∈ state.visited then
      state
    else
      match depth with
      | 0 => state
      | depth + 1 =>
        let state := (next nodeId).foldl (fun state child =>
          let state := cycleVisit next depth (nodeId :: visiting) state child
          if child ∈ state.cycles then { state with cycles := nodeId :: state.cycles }
          else state) state
        { state with visited := nodeId :: state.visited }

/-- `_cycle_nodes`, over the node ids in some order. -/
def cycleNodes (next : String → List String) (nodeIds : List String) : List String :=
  (nodeIds.foldl (cycleVisit next nodeIds.length []) ⟨[], []⟩).cycles.eraseDups

/-- A breadth-first search: each round takes one entry off the queue. -/
def breadthFirst (next : String → List String) (admitted : String → Bool) :
    Nat → List String → List String → List String
  | _, [], found => found
  | 0, _ :: _, found => found
  | rounds + 1, candidate :: queue, found =>
    if candidate ∈ found ∨ admitted candidate = false then
      breadthFirst next admitted rounds queue found
    else
      breadthFirst next admitted rounds (queue ++ next candidate) (found ++ [candidate])

/-- `_ancestors`. -/
def ancestors (accepted : List WorkflowEdge) (nodeId : String) : List String :=
  breadthFirst (reverseAdjacency accepted) (fun _ => true) (2 * accepted.length + 1)
    (reverseAdjacency accepted nodeId) []

def reachable (graph : WorkflowGraphV1) (accepted : List WorkflowEdge) : List String :=
  breadthFirst (adjacency accepted) (fun id => (graph.nodesById id).isSome)
    (accepted.length + 1) [graph.entryNodeId] []

/-! ## The findings -/

def nodeIds (graph : WorkflowGraphV1) : List String := graph.nodes.map WorkflowNode.id

/-- `NODE_REGISTRY.get(node.type)` of a trigger. -/
def isEntry (node : WorkflowNode) : Bool :=
  (nodeDefinition? node.type).any NodeDefinition.entry

def duplicateFindings (graph : WorkflowGraphV1) : List ValidationFinding :=
  ((nodeIds graph).eraseDups.filter fun id => 1 < (nodeIds graph).count id).map fun id =>
    errorFinding "node_config_invalid" "Node IDs must be unique." (some id) none (some "id")
      (some "Assign a unique stable node ID.")

def layoutFindings (graph : WorkflowGraphV1) : List ValidationFinding :=
  ((graph.metadata.layout.map Prod.fst).filter fun id => (graph.nodesById id).isNone).map fun id =>
    errorFinding "node_config_invalid" "Layout references a node that does not exist." (some id)
      none (some ("metadata.layout." ++ id)) (some "Remove stale layout metadata.")

def entryFindings (graph : WorkflowGraphV1) : List ValidationFinding :=
  (if (graph.nodesById graph.entryNodeId).any isEntry then []
  else
    [errorFinding "graph_entry_invalid" "Graph entry must reference one supported trigger node."
      (if graph.entryNodeId = "" then none else some graph.entryNodeId) none (some "entry_node_id")
      (some
        "Select Manual, Collection article added, New Source Item, or Schedule as the entry.")]) ++
  (if (graph.nodes.filter isEntry).length = 1 then []
  else
    [errorFinding "graph_entry_invalid" "Graph must contain exactly one trigger node." none none
      (some "nodes") (some "Keep one trigger and remove other trigger nodes.")])

def cycleFindings (graph : WorkflowGraphV1) (accepted : List WorkflowEdge) :
    List ValidationFinding :=
  match sortStrings (cycleNodes (adjacency accepted) (nodeIds graph).eraseDups) with
  | [] => []
  | first :: _ =>
    [errorFinding "graph_cycle" "Workflow Graph v1 must be acyclic." (some first) none none
      (some "Remove a connection from the cycle.")]

def unreachableFindings (graph : WorkflowGraphV1) (accepted : List WorkflowEdge) :
    List ValidationFinding :=
  (sortStrings ((nodeIds graph).eraseDups.filter fun id => id ∉ reachable graph accepted)).map
    fun id =>
      errorFinding "graph_unreachable_node" "Node is not reachable from the graph entry." (some id)
        none none (some "Connect or remove the unreachable node.")

def outputIdFindings (graph : WorkflowGraphV1) (accepted : List WorkflowEdge) :
    List ValidationFinding :=
  (graph.outputNodeIds.filter fun id =>
    !(((graph.nodesById id).bind fun node => nodeDefinition? node.type).any
      NodeDefinition.terminal) || adjacency accepted id ≠ []).map fun id =>
    errorFinding "graph_output_invalid" "Output must reference a terminal node with no successor."
      (some id) none (some "output_node_ids")
      (some "Choose Save to Drafts, Manual package, or Telegram publish.")

def publishFindings (graph : WorkflowGraphV1) (accepted : List WorkflowEdge) :
    List ValidationFinding :=
  (graph.nodes.filter fun node =>
    node.type = "telegram_publish"
      ∧ "human_review" ∉ (ancestors accepted node.id).filterMap fun id =>
        (graph.nodesById id).map WorkflowNode.type).map fun node =>
    errorFinding "automation_activation_invalid"
      "Telegram publication requires an exact Human Review boundary." (some node.id) none none
      (some "Add Human Review before Telegram publish.")

def edgeScan (graph : WorkflowGraphV1) : EdgeScan :=
  scanEdges graph ⟨[], [], [], []⟩ graph.edges.zipIdx

def graphFindings (E : DefinitionEnv) (graph : WorkflowGraphV1) : List ValidationFinding :=
  let accepted := (edgeScan graph).accepted
  duplicateFindings graph ++ (graph.nodes.flatMap (validateNodeConfig E) ++ (layoutFindings graph
    ++ (entryFindings graph
    ++ ((edgeScan graph).findings
    ++ (graph.nodes.flatMap (portFindings accepted)
    ++ (cycleFindings graph accepted
    ++ (unreachableFindings graph accepted
    ++ (outputIdFindings graph accepted
    ++ publishFindings graph accepted))))))))

/-- `validate_graph`. -/
def validateGraph (E : DefinitionEnv) (graph : WorkflowGraphV1) : GraphValidationResult :=
  let findings := graphFindings E graph
  { valid := !(findings.any fun finding => finding.severity = .error)
    graphHash := graphSha256 E graph
    findings := findings }

end NewsCraft.Automations
