import Mathlib.Data.List.Sort
import NewsCraft.Core.Json

/-!
# Workflow graphs and artifact contracts

A `WorkflowGraphV1` as the service stores it, the findings a validation of one
reports, and the contracts that say which artifacts a port takes and gives. An
artifact's shape is what is known of it before it exists: its kind and
capabilities.
-/

namespace NewsCraft.Automations

/-- `sorted(values)` on strings, by code points. -/
def sortStrings (values : List String) : List String :=
  values.insertionSort fun a b => ¬ b < a

/-! ## Graphs -/

structure WorkflowNode where
  id : String
  type : String
  config : List (String × Json)

structure WorkflowEdge where
  sourceNodeId : String
  sourcePort : String
  targetNodeId : String
  targetPort : String
  deriving DecidableEq

/-- The points of `layout` are hashed and not read. -/
structure WorkflowMetadata where
  layout : List (String × Json)

structure WorkflowGraphV1 where
  entryNodeId : String
  nodes : List WorkflowNode
  edges : List WorkflowEdge
  outputNodeIds : List String
  metadata : WorkflowMetadata

/-- `{node.id: node for node in graph.nodes}.get(id)`: the last node of an id counts. -/
def WorkflowGraphV1.nodesById (graph : WorkflowGraphV1) (id : String) : Option WorkflowNode :=
  graph.nodes.reverse.find? fun node => node.id = id

/-- Whether the sort key of `a` is at most that of `b`. -/
def edgeKeyLe (a b : WorkflowEdge) : Prop :=
  ¬ ([b.sourceNodeId, b.sourcePort, b.targetNodeId, b.targetPort]
    < [a.sourceNodeId, a.sourcePort, a.targetNodeId, a.targetPort])

instance : DecidableRel edgeKeyLe := fun _ _ => inferInstanceAs (Decidable (¬ _))

/-- `canonical_graph_data`, with the keys in the order `sort_keys` writes them. -/
def canonicalGraphData (graph : WorkflowGraphV1) : Json :=
  .obj [("edges", .arr ((graph.edges.insertionSort edgeKeyLe).map fun edge =>
       .obj [("source_node_id", .str edge.sourceNodeId), ("source_port", .str edge.sourcePort),
          ("target_node_id", .str edge.targetNodeId),
          ("target_port", .str edge.targetPort)])),
     ("entry_node_id", .str graph.entryNodeId),
     ("metadata", .obj [("layout", (Json.obj graph.metadata.layout).sortKeys)]),
     ("nodes", .arr ((graph.nodes.insertionSort fun a b => ¬ b.id < a.id).map fun node =>
       .obj [("config", (Json.obj node.config).sortKeys), ("id", .str node.id),
          ("type", .str node.type)])),
     ("output_node_ids", .arr ((sortStrings graph.outputNodeIds).map Json.str)),
     ("schema_version", .int 1)]

/-! ## Findings -/

inductive FindingSeverity where
  | error
  | warning
  deriving DecidableEq

structure ValidationFinding where
  code : String
  severity : FindingSeverity
  message : String
  nodeId : Option String
  edgeIndex : Option Nat
  fieldPath : Option String
  recoveryAction : Option String
  deriving DecidableEq

structure GraphValidationResult where
  valid : Bool
  graphHash : String
  findings : List ValidationFinding

/-! ## Artifacts -/

inductive ArtifactKind where
  | article
  | research
  | draft
  | scheduleEvent
  | publication
  deriving DecidableEq

inductive ArtifactCapability where
  | textual
  | structured
  | article
  | research
  | draft
  | reviewable
  | generatable
  | approved
  | publishable
  | collectionContext
  | sourceContext
  | scheduleContext
  deriving DecidableEq

structure ArtifactInputContract where
  allOf : List ArtifactCapability
  anyOf : List ArtifactCapability
  acceptedKinds : List ArtifactKind
  deriving DecidableEq

structure ArtifactOutputContract where
  kind : Option ArtifactKind
  capabilities : List ArtifactCapability
  preservesInputArtifact : Bool
  addsCapabilities : List ArtifactCapability
  deriving DecidableEq

/-- What is known of an artifact; the capabilities are a set. -/
structure ArtifactShape where
  kind : Option ArtifactKind
  capabilities : List ArtifactCapability
  known : Bool

def ArtifactShape.unknown : ArtifactShape := ⟨none, [], false⟩

inductive CompatibilityStatus where
  | compatible
  | incomplete
  | incompatible
  deriving DecidableEq

/-- `legacy_artifact_shape`. -/
def legacyArtifactShape (artifactType : String) : ArtifactShape :=
  let draft : List ArtifactCapability := [.textual, .structured, .draft, .reviewable]
  let article : List ArtifactCapability :=
    [.textual, .structured, .article, .reviewable, .generatable]
  let research : List ArtifactCapability :=
    [.textual, .structured, .research, .reviewable, .generatable]
  match artifactType with
  | "package" | "draft_package" | "content_package" | "draft.revision_set_ref"
  | "draft.validated_revision_set_ref" | "draft.telegram_revision_ref"
  | "export.manual_package_ref" => ⟨some .draft, draft, true⟩
  | "article_package" | "story.revision_ref" | "story.revision_set_ref" =>
    ⟨some .article, article, true⟩
  | "research_package" | "story.researched_revision_ref" => ⟨some .research, research, true⟩
  | "article.collection_added" => ⟨some .article, article ++ [.collectionContext], true⟩
  | "source_item.ref" | "content_item.ref" => ⟨some .article, article ++ [.sourceContext], true⟩
  | "run.signal" => ⟨some .scheduleEvent, [.structured, .scheduleContext], true⟩
  | "draft.approved_telegram_revision_ref" =>
    ⟨some .draft, draft ++ [.approved, .publishable], true⟩
  | "publication.telegram_ref" =>
    ⟨some .publication, [.structured, .approved, .publishable], true⟩
  | _ => .unknown

/-- `shape_for_output_contract`. -/
def shapeForOutputContract (contract : ArtifactOutputContract) (upstream : Option ArtifactShape) :
    ArtifactShape :=
  if contract.preservesInputArtifact then
    let base := upstream.getD .unknown
    { kind := contract.kind.or base.kind
      capabilities := base.capabilities ++ contract.capabilities ++ contract.addsCapabilities
      known := base.known && (contract.kind.isSome || base.kind.isSome) }
  else
    { kind := contract.kind
      capabilities := contract.capabilities ++ contract.addsCapabilities
      known := contract.kind.isSome }

/-- `match_input_contract`. -/
def matchInputContract (shape : ArtifactShape) (contract : Option ArtifactInputContract) :
    CompatibilityStatus :=
  match contract with
  | none => .incompatible
  | some contract =>
    if !shape.known then
      .incomplete
    else if contract.acceptedKinds ≠ []
        ∧ (contract.acceptedKinds.any fun kind => shape.kind = some kind) = false then
      .incompatible
    else if (contract.allOf.all fun capability => shape.capabilities.contains capability)
        = false then
      .incompatible
    else if contract.anyOf ≠ []
        ∧ (contract.anyOf.any fun capability => shape.capabilities.contains capability) = false then
      .incompatible
    else
      .compatible

/-- What a contract that is met says about a known shape. -/
structure ArtifactInputContract.Meets (contract : ArtifactInputContract) (shape : ArtifactShape) :
    Prop where
  kind : contract.acceptedKinds = [] ∨ ∃ kind ∈ contract.acceptedKinds, shape.kind = some kind
  allOf : ∀ capability ∈ contract.allOf, capability ∈ shape.capabilities

theorem matchInputContract_meets {shape : ArtifactShape} {contract : Option ArtifactInputContract}
    (hknown : shape.known = true) (h : matchInputContract shape contract ≠ .incompatible) :
    ∃ c, contract = some c ∧ c.Meets shape := by
  unfold matchInputContract at h
  cases contract with
  | none => exact absurd rfl h
  | some c =>
    refine ⟨c, rfl, ?_⟩
    rw [hknown] at h
    simp only [Bool.not_true, Bool.false_eq_true, if_false] at h
    split at h
    · exact absurd rfl h
    rename_i hkind
    split at h
    · exact absurd rfl h
    rename_i hall
    constructor
    · by_cases hnil : c.acceptedKinds = []
      · exact .inl hnil
      right
      simpa [hnil] using hkind
    · simpa using hall

end NewsCraft.Automations
