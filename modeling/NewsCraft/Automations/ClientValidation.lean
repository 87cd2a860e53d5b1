import NewsCraft.Automations.ClientContracts
import NewsCraft.Lib.Dict
import NewsCraft.Lib.GraphSearch

/-!
# The editor's validation

`validateWorkflowClient`: what the editor finds wrong with a graph before it sends it. The
editor holds a config with keys in camel case, and looks the fields a step must have up in
an object literal, which has inherited properties too. `toLocaleLowerCase` is an argument.
-/

namespace NewsCraft.Automations.Client

open Lib

variable (lower : String → String)

/-! ## Configs -/

def camelKeyChars : List Char → List Char
  | '_' :: c :: rest =>
    if c.isLower then c.toUpper :: camelKeyChars rest else '_' :: camelKeyChars (c :: rest)
  | c :: rest => c :: camelKeyChars rest
  | [] => []

def camelKey (key : String) : String := String.ofList (camelKeyChars key.toList)

/-- `FREE_FORM_MAP_FIELDS`. -/
def freeFormMapFields : List String :=
  ["layout", "promptChecksums", "prompt_checksums", "responseMetadata", "response_metadata"]

mutual

def camelizeValue (preserveKeys : Bool) : Json → Json
  | .obj fields => .obj (Dict.build [] (camelizeFields preserveKeys fields))
  | .arr items => .arr (camelizeItems preserveKeys items)
  | .null => .null
  | .bool b => .bool b
  | .int n => .int n
  | .float text => .float text
  | .str s => .str s

def camelizeFields (preserveKeys : Bool) : List (String × Json) → List (String × Json)
  | [] => []
  | (key, item) :: rest =>
    (if preserveKeys then key else camelKey key,
      camelizeValue (freeFormMapFields.contains key) item) :: camelizeFields preserveKeys rest

def camelizeItems (preserveKeys : Bool) : List Json → List Json
  | [] => []
  | item :: rest => camelizeValue preserveKeys item :: camelizeItems preserveKeys rest

end

/-- `node.config` as the editor holds it. -/
def clientConfig (node : WorkflowNode) : List (String × Json) :=
  Dict.build [] (camelizeFields false node.config)

/-! ## Fields a config may not have -/

/-- `([a-z0-9])([A-Z])` becomes `$1_$2`. -/
def separateWords : List Char → List Char
  | a :: b :: rest =>
    if (a.isLower || a.isDigit) && b.isUpper then a :: '_' :: b :: separateWords rest
    else a :: separateWords (b :: rest)
  | rest => rest

def normalizeFieldKey (fieldName : String) : String :=
  lower (String.ofList (separateWords fieldName.toList))

def unsafeWords : List String :=
  ["api_key", "authorization", "credential", "credentials", "environment", "filesystem",
    "job_type", "password", "prompt_body", "role", "roles", "scope", "scopes", "secret",
    "secret_ref", "system_template", "token", "user_template"]

/-- One of the words stands between underscores or at an end. -/
def isUnsafeWorkflowField (field : String) : Bool :=
  unsafeWords.any fun word =>
    '_' :: (word.toList ++ ['_']) <:+: '_' :: ((normalizeFieldKey lower field).toList ++ ['_'])

/-- A key that JavaScript enumerates as an index. -/
def isArrayIndex (key : String) : Bool :=
  match key.toNat? with
  | some n => toString n = key && n < 4294967295
  | none => false

/-- The order of `Object.entries`: indices upwards, then the other keys as written. -/
def objectEntries {α : Type} (fields : List (String × α)) : List (String × α) :=
  (fields.filter fun field => isArrayIndex field.1).insertionSort
      (fun a b => a.1.toNat?.getD 0 ≤ b.1.toNat?.getD 0)
    ++ fields.filter fun field => !isArrayIndex field.1

def fieldPath (start key : String) : String := if start = "" then key else start ++ "." ++ key

mutual

def findUnsafeField (start : String) : Json → Option String
  | .obj fields => (objectEntries (unsafeFields start fields)).findSome? Prod.snd
  | .arr items => unsafeItems start 0 items
  | .null | .bool _ | .int _ | .float _ | .str _ => none

def unsafeFields (start : String) : List (String × Json) → List (String × Option String)
  | [] => []
  | (key, item) :: rest =>
    (key, if isUnsafeWorkflowField lower key then some (fieldPath start key)
      else findUnsafeField (fieldPath start key) item) :: unsafeFields start rest

def unsafeItems (start : String) (index : Nat) : List Json → Option String
  | [] => none
  | item :: rest =>
    if isUnsafeWorkflowField lower (toString index) then some (fieldPath start (toString index))
    else (findUnsafeField (fieldPath start (toString index)) item).or
      (unsafeItems start (index + 1) rest)

end

/-! ## Findings about a step -/

def inheritedProperties : List String :=
  ["constructor", "__defineGetter__", "__defineSetter__", "hasOwnProperty", "__lookupGetter__",
    "__lookupSetter__", "isPrototypeOf", "propertyIsEnumerable", "toString", "valueOf",
    "__proto__", "toLocaleString"]

inductive TypeError where
  | notIterable

/-- `requiredResources[type] ?? []`, iterated. -/
def requiredResources (type : String) : Except TypeError (List String) :=
  match type with
  | "manual" => .ok ["storyRevisionId"]
  | "collection_article_added" => .ok ["collectionId"]
  | "new_source_item" => .ok ["sourceIds"]
  | "research" => .ok ["providerProfileId"]
  | "generate_content_pack" =>
    .ok ["editorialProfileId", "providerProfileId", "promptVersionIds"]
  | "telegram_publish" => .ok ["destinationId"]
  | _ => if inheritedProperties.contains type then .error .notIterable else .ok []

/-- `finding`. -/
def finding (code message : String) (nodeId : Option String) (recoveryAction : String)
    (fieldPath : Option String) : ValidationFinding :=
  ⟨code, .error, message, nodeId, none, fieldPath, some recoveryAction⟩

def missingResource (config : List (String × Json)) (field : String) : Bool :=
  match (config.find? fun entry => entry.1 = field).map Prod.snd with
  | none => true
  | some value => value = .null || value = .str "" || value = .arr []

def nodeFindings (node : WorkflowNode) : Except TypeError (List ValidationFinding) :=
  match requiredResources node.type with
  | .error e => .error e
  | .ok fields =>
    .ok <|
      (if (catalogDefinition node.type).isNone then
        [finding "node_type_unsupported"
          "Saved workflow contains a node type that is no longer supported." (some node.id)
          "Remove this step explicitly; no replacement was applied automatically." none]
      else [])
      ++ ((fields.filter (missingResource (clientConfig node))).map fun field =>
        finding "automation_resource_unavailable" "Required resource is not configured."
          (some node.id) "Select a saved resource." (some ("config." ++ field)))
      ++ ((findUnsafeField lower "" (.obj (clientConfig node))).toList.map fun unsafeField =>
        finding "node_config_invalid" "Credential and executable fields are prohibited."
          (some node.id) "Remove unsafe field." (some ("config." ++ unsafeField)))

def isTrigger (node : WorkflowNode) : Bool :=
  (catalogDefinition node.type).any NodeDefinition.entry

def entryFindings (graph : WorkflowGraphV1) : List ValidationFinding :=
  (if (graph.nodesById graph.entryNodeId).any isTrigger then []
  else
    [finding "graph_entry_invalid" "Choose one supported trigger." (some graph.entryNodeId)
      "Select Manual, Collection article added, New Source Item, or Schedule." none]) ++
  (if (graph.nodes.filter isTrigger).length = 1 then []
  else
    [finding "graph_entry_invalid" "Workflow requires exactly one trigger." none
      "Keep one trigger." none])

/-! ## Edges -/

def edgeKey (edge : WorkflowEdge) : String :=
  edge.sourceNodeId ++ ":" ++ edge.sourcePort ++ ":" ++ edge.targetNodeId ++ ":" ++ edge.targetPort

/-- The loop's variables; a count is how often its key is in the list. -/
structure EdgeScan where
  edgeKeys : List String
  inputCounts : List String
  outputCounts : List String
  findings : List ValidationFinding
  shapeCache : ShapeMap

def EdgeScan.start : EdgeScan := ⟨[], [], [], [], []⟩

def edgeFinding (code message : String) (nodeId : Option String) (index : Nat)
    (recoveryAction : String) : ValidationFinding :=
  { finding code message nodeId recoveryAction none with edgeIndex := some index }

/-- How the loop reads the edge against the catalog. -/
def readConnection (graph : WorkflowGraphV1) (edge : WorkflowEdge) (cache : ShapeMap) :
    CompatibilityStatus × ShapeMap :=
  match (graph.nodesById edge.sourceNodeId).bind fun node => catalogDefinition node.type,
      (graph.nodesById edge.targetNodeId).bind fun node => catalogDefinition node.type with
  | some _, some _ => connectionCompatibility graph edge cache
  | _, _ => (.incompatible, cache)

def EdgeScan.next (graph : WorkflowGraphV1) (scan : EdgeScan) (edge : WorkflowEdge) (index : Nat) :
    EdgeScan :=
  if edgeKey edge ∈ scan.edgeKeys then
    { scan with
      findings := scan.findings ++
        [edgeFinding "edge_cardinality_invalid" "Duplicate connection is not allowed."
          (some edge.targetNodeId) index "Remove the duplicate connection."] }
  else
    let targetId := (graph.nodesById edge.targetNodeId).map WorkflowNode.id
    let (verdict, cache) := readConnection graph edge scan.shapeCache
    let scan := { scan with edgeKeys := scan.edgeKeys ++ [edgeKey edge], shapeCache := cache }
    if (graph.nodesById edge.targetNodeId).any isTrigger then
      { scan with
        findings := scan.findings ++
          [edgeFinding "edge_port_invalid" "Trigger steps cannot receive incoming connections."
            targetId index "Keep the trigger first and connect only from its output."] }
    else
      match verdict with
      | .incompatible =>
        { scan with
          findings := scan.findings ++
            [edgeFinding "edge_port_invalid"
              "Connected ports require incompatible artifact capabilities." targetId index
              "Choose an output satisfying the input contract."] }
      | .incomplete =>
        { scan with
          findings := scan.findings ++
            [{ edgeFinding "edge_artifact_contract_incomplete"
                "Artifact compatibility is incomplete until an upstream artifact is available."
                targetId index "Configure and run the upstream step before activation." with
              severity := .warning }] }
      | .compatible =>
        { scan with
          inputCounts := scan.inputCounts ++ [portKey edge.targetNodeId edge.targetPort]
          outputCounts := scan.outputCounts ++ [portKey edge.sourceNodeId edge.sourcePort] }

def scanEdges (graph : WorkflowGraphV1) : EdgeScan → List (WorkflowEdge × Nat) → EdgeScan
  | scan, [] => scan
  | scan, (edge, index) :: rest => scanEdges graph (scan.next graph edge index) rest

/-! ## Ports -/

def inputFindings (inputCounts : List String) (node : WorkflowNode)
    (port : String × PortDefinition) : List ValidationFinding :=
  let count := inputCounts.count (portKey node.id port.1)
  (if port.2.required ∧ count = 0 then
    [finding "edge_cardinality_invalid" "Required input is not connected." (some node.id)
      "Connect one compatible predecessor." (some ("inputs." ++ port.1))]
  else []) ++
  (if tooMany port.2 count then
    [finding "edge_cardinality_invalid" "Input has too many connections." (some node.id)
      "Remove extra incoming connections." (some ("inputs." ++ port.1))]
  else [])

def outputFindings (outputCounts : List String) (node : WorkflowNode)
    (port : String × PortDefinition) : List ValidationFinding :=
  if tooMany port.2 (outputCounts.count (portKey node.id port.1)) then
    [finding "edge_cardinality_invalid" "Output has too many connections." (some node.id)
      "Remove extra outgoing connections." (some ("outputs." ++ port.1))]
  else []

def portFindings (scan : EdgeScan) (node : WorkflowNode) : List ValidationFinding :=
  match catalogDefinition node.type with
  | none => []
  | some definition =>
    definition.inputs.flatMap (inputFindings scan.inputCounts node)
      ++ definition.outputs.flatMap (outputFindings scan.outputCounts node)

/-! ## The whole graph -/

/-- `hasCycle`. No more ids are being visited than there are nodes and edges. -/
def hasCycle (graph : WorkflowGraphV1) : Bool :=
  (GraphSearch.search (adjacency graph.edges) (graph.nodes.length + graph.edges.length)
    (nodeIds graph)).isNone

def reachableNodeIds (graph : WorkflowGraphV1) : List String :=
  breadthFirst (adjacency graph.edges) (fun _ => true) (graph.edges.length + 1)
    [graph.entryNodeId] []

def cycleFindings (graph : WorkflowGraphV1) : List ValidationFinding :=
  if hasCycle graph then
    [finding "graph_cycle" "Workflow Graph v1 cannot contain cycles." none
      "Remove a cycle connection." none]
  else []

def unreachableFindings (graph : WorkflowGraphV1) : List ValidationFinding :=
  (graph.nodes.filter fun node => node.id ∉ reachableNodeIds graph).map fun node =>
    finding "graph_unreachable_node" "Step is not connected to trigger." (some node.id)
      "Connect or remove this step." none

def outputIdFindings (graph : WorkflowGraphV1) : List ValidationFinding :=
  (graph.outputNodeIds.filter fun id =>
    !((graph.nodesById id).any fun node =>
        (catalogDefinition node.type).any NodeDefinition.terminal)
      || graph.edges.any fun edge => edge.sourceNodeId = id).map fun id =>
    finding "graph_output_invalid" "Workflow must finish at a terminal output." (some id)
      "Choose a supported output step." none

def edgeScan (graph : WorkflowGraphV1) : EdgeScan := scanEdges graph .start graph.edges.zipIdx

def validateWorkflowClient (graph : WorkflowGraphV1) : Except TypeError GraphValidationResult :=
  match graph.nodes.mapM (nodeFindings lower) with
  | .error e => .error e
  | .ok perNode =>
    let scan := edgeScan graph
    let findings :=
      entryFindings graph
        ++ (perNode.flatten
        ++ (scan.findings
        ++ (graph.nodes.flatMap (portFindings scan)
        ++ (cycleFindings graph
        ++ (unreachableFindings graph ++ outputIdFindings graph)))))
    .ok
      { valid := !(findings.any fun finding => finding.severity = .error)
        graphHash := "client-unsaved"
        findings := findings }

end NewsCraft.Automations.Client
