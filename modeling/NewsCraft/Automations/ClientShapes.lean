import NewsCraft.Automations.ClientValidation
import NewsCraft.Automations.ServerStructure
import NewsCraft.Core.Isoformat

/-!
# The editor infers what the service infers

Printed keys are as good as pairs, since no id has a colon. What the editor infers for
a graph is what the service infers for the graph whose nodes stand in the opposite
order, where the last node of an id is the first one.
-/

namespace NewsCraft.Automations

open Lib GraphSearch List Option

/-- The graph in which the last node of an id is the first one of the other. -/
def WorkflowGraphV1.firstRead (graph : WorkflowGraphV1) : WorkflowGraphV1 :=
  { graph with nodes := graph.nodes.reverse }

variable {graph : WorkflowGraphV1}

@[simp] theorem firstRead_edges : graph.firstRead.edges = graph.edges := rfl

theorem firstRead_nodes_length : graph.firstRead.nodes.length = graph.nodes.length :=
  length_reverse

theorem mem_firstRead_nodes {node : WorkflowNode} :
    node ∈ graph.firstRead.nodes ↔ node ∈ graph.nodes := mem_reverse

namespace Client

/-! ## Printed keys -/

def Plain (s : String) : Prop := ':' ∉ s.toList

theorem no_colon_cons {p q : Char → Bool} {c : Char} {rest : List Char} (hp : p ':' = false)
    (hq : q ':' = false) (hc : p c = true) (hrest : rest.all q = true) : ':' ∉ c :: rest := by
  intro hmem
  rcases mem_cons.mp hmem with heq | hin
  · rw [← heq, hp] at hc
    cases hc
  · have hcolon := List.all_eq_true.mp hrest ':' hin
    rw [hq] at hcolon
    cases hcolon

theorem plain_of_isNodeId {s : String} (h : isNodeId s = true) : Plain s := by
  unfold isNodeId at h
  unfold Plain
  split at h
  · cases h
  rename_i c rest hlist
  rw [hlist]
  rw [Bool.and_eq_true, Bool.and_eq_true] at h
  exact no_colon_cons (by decide) (by decide) h.1.1 h.2

theorem plain_of_isSchemaName {s : String} (h : isSchemaName s = true) : Plain s := by
  unfold isSchemaName at h
  unfold Plain
  split at h
  · cases h
  rename_i c rest hlist
  rw [hlist]
  rw [Bool.and_eq_true, Bool.and_eq_true] at h
  exact no_colon_cons (by decide) (by decide) h.1.1 h.2

theorem colon_injective {a a' b b' : String} (ha : Plain a) (ha' : Plain a')
    (h : a ++ ":" ++ b = a' ++ ":" ++ b') : a = a' ∧ b = b' := by
  have hchars := congrArg String.toList h
  simp only [String.toList_append, append_assoc] at hchars
  obtain ⟨hleft, hright⟩ := split_at_separator ha ha' hchars
  exact ⟨String.toList_injective hleft, String.toList_injective hright⟩

theorem portKey_injective {a a' b b' : String} (ha : Plain a) (ha' : Plain a')
    (h : portKey a b = portKey a' b') : a = a' ∧ b = b' :=
  colon_injective ha ha' h

theorem edgeKey_injective {edge edge' : WorkflowEdge} (hsource : Plain edge.sourceNodeId)
    (hsource' : Plain edge'.sourceNodeId) (hport : Plain edge.sourcePort)
    (hport' : Plain edge'.sourcePort) (htarget : Plain edge.targetNodeId)
    (htarget' : Plain edge'.targetNodeId) (h : edgeKey edge = edgeKey edge') : edge = edge' := by
  have hnested : ∀ e : WorkflowEdge, edgeKey e
      = portKey e.sourceNodeId (portKey e.sourcePort (portKey e.targetNodeId e.targetPort)) := by
    intro e
    simp only [edgeKey, portKey, String.append_assoc]
  rw [hnested, hnested] at h
  obtain ⟨hs, h⟩ := portKey_injective hsource hsource' h
  obtain ⟨hp, h⟩ := portKey_injective hport hport' h
  obtain ⟨ht, hq⟩ := portKey_injective htarget htarget' h
  cases edge
  cases edge'
  simp_all only

def printed (key : String × String) : String := portKey key.1 key.2

/-- The editor's cache for one of the service's. -/
def printedCache (cache : ShapeCache) : ShapeMap :=
  cache.map fun entry => (printed entry.1, entry.2)

def PlainKeys (cache : ShapeCache) : Prop := ∀ entry ∈ cache, Plain entry.1.1

theorem printed_injective {key key' : String × String} (h : Plain key.1) (h' : Plain key'.1)
    (heq : printed key = printed key') : key = key' := by
  obtain ⟨hid, hport⟩ := portKey_injective h h' heq
  exact Prod.ext hid hport

variable {cache : ShapeCache}

theorem printedCache_get (hcache : PlainKeys cache) (key : String × String) (hkey : Plain key.1) :
    (printedCache cache).get (printed key) = cache.get key := by
  induction cache with
  | nil => rfl
  | cons entry cache ih =>
    obtain ⟨key', shape⟩ := entry
    have hrest : PlainKeys cache := fun e he => hcache e (mem_cons_of_mem _ he)
    rw [get_cons]
    by_cases h : key' = key
    · rw [if_pos h]
      simp [printedCache, ShapeMap.get, h]
    · have hne : printed key' ≠ printed key := fun heq =>
        h (printed_injective (hcache (key', shape) mem_cons_self) hkey heq)
      rw [if_neg h, ← ih hrest]
      simp [printedCache, ShapeMap.get, hne]

theorem mem_map_printed {visiting : List (String × String)} (h : ∀ key ∈ visiting, Plain key.1)
    (key : String × String) (hkey : Plain key.1) :
    printed key ∈ visiting.map printed ↔ key ∈ visiting := by
  constructor
  · intro hmem
    obtain ⟨key', hkey', heq⟩ := mem_map.mp hmem
    exact printed_injective (h key' hkey') hkey heq ▸ hkey'
  · exact mem_map_of_mem

/-! ## The catalog -/

theorem catalogDefinition_eq (type : String) :
    catalogDefinition type = (nodeDefinition? type).map catalogItem := by
  unfold catalogDefinition nodeCatalog nodeDefinition?
  rw [find?_map]
  rfl

theorem findNode_eq (id : String) : findNode graph id = graph.firstRead.nodesById id := by
  unfold findNode WorkflowGraphV1.nodesById WorkflowGraphV1.firstRead
  rw [reverse_reverse]

theorem clientDefinition_eq (id : String) :
    ((findNode graph id).bind fun node => catalogDefinition node.type)
      = (definitionOf graph.firstRead id).map catalogItem := by
  rw [findNode_eq, definitionOf]
  simp only [catalogDefinition_eq]
  cases graph.firstRead.nodesById id with
  | none | some _ => rfl

theorem isTrigger_eq (node : WorkflowNode) : isTrigger node = isEntry node := by
  rw [isTrigger, isEntry, catalogDefinition_eq]
  cases nodeDefinition? node.type with
  | none | some _ => rfl

/-! ## Shapes -/

theorem fedShape_eq (contract : ArtifactOutputContract) (upstream : ArtifactShape) :
    fedShape contract upstream = shapeForOutputContract contract (some upstream) := by
  unfold fedShape shapeForOutputContract staticOutputShape
  cases hkeeps : contract.preservesInputArtifact with
  | false => simp
  | true =>
    cases hkind : contract.kind with
    | none | some _ => simp

/-- The editor's inference once it knows the contract. -/
def upstreamShapeRead (graph : WorkflowGraphV1) (depth : Nat) (visiting : List String)
    (cache : ShapeMap) (id port : String) (contract : ArtifactOutputContract) :
    ArtifactShape × ShapeMap :=
  match graph.edges.filter (fun edge => edge.targetNodeId = id), depth with
  | [edge], depth + 1 =>
    (fedShape contract
      (artifactShapeForOutput graph depth (portKey id port :: visiting) cache edge.sourceNodeId
        edge.sourcePort).1,
      (artifactShapeForOutput graph depth (portKey id port :: visiting) cache edge.sourceNodeId
        edge.sourcePort).2)
  | _, _ => (fedShape contract .unknown, cache)

variable {depth : Nat} {id port : String}

theorem artifactShapeForOutput_absent {visiting : List String} {cache : ShapeMap}
    (hget : cache.get (portKey id port) = none) (hnot : portKey id port ∉ visiting)
    (h : offered graph.firstRead id port = none) :
    artifactShapeForOutput graph depth visiting cache id port = (.unknown, cache) := by
  unfold offered at h
  unfold artifactShapeForOutput
  simp only [hget, if_neg hnot, clientDefinition_eq]
  cases hdefinition : definitionOf graph.firstRead id with
  | none => rfl
  | some definition =>
    rw [hdefinition, bind_some] at h
    cases hport : definition.output? port with
    | none =>
      have hitem : (catalogItem definition).output? port = none := hport
      simp only [map_some, hitem]
    | some portDefinition =>
      rw [hport, bind_some] at h
      have hsome := (output?_contract (definitionOf_mem hdefinition).1 hport).2
      rw [h] at hsome
      cases hsome

theorem artifactShapeForOutput_offered {visiting : List String} {cache : ShapeMap}
    {contract : ArtifactOutputContract} (hget : cache.get (portKey id port) = none)
    (hnot : portKey id port ∉ visiting) (h : offered graph.firstRead id port = some contract) :
    artifactShapeForOutput graph depth visiting cache id port
      = ((upstreamShapeRead graph depth visiting cache id port contract).1,
        (portKey id port, (upstreamShapeRead graph depth visiting cache id port contract).1)
          :: (upstreamShapeRead graph depth visiting cache id port contract).2) := by
  obtain ⟨definition, hdefinition, h⟩ := bind_eq_some_iff.mp h
  obtain ⟨portDefinition, hport, hcontract⟩ := bind_eq_some_iff.mp h
  have hitem : (catalogItem definition).output? port = some portDefinition := hport
  have houtput : outputContract (catalogItem definition) portDefinition = some contract := by
    rw [outputContract, hcontract, some_or]
  unfold artifactShapeForOutput upstreamShapeRead
  simp only [hget, if_neg hnot, clientDefinition_eq, hdefinition, map_some, hitem, houtput]
  generalize graph.edges.filter (fun edge => edge.targetNodeId = id) = into
  rcases into with _ | ⟨edge, _ | _⟩
  · rfl
  · cases depth with
    | zero | succ _ => rfl
  · rfl

theorem artifactShapeForOutput_step {visiting : List (String × String)} (hid : Plain id)
    (hvisiting : ∀ key ∈ visiting, Plain key.1) (hcache : PlainKeys cache)
    (hup : ∀ contract, offered graph.firstRead id port = some contract → upstreamShapeRead graph
      depth (visiting.map printed) (printedCache cache) id port contract = ((upstreamShape
      graph.firstRead depth visiting cache (id, port) contract).1, printedCache (upstreamShape
      graph.firstRead depth visiting cache (id, port) contract).2) ∧ PlainKeys (upstreamShape
      graph.firstRead depth visiting cache (id, port) contract).2) :
    artifactShapeForOutput graph depth (visiting.map printed) (printedCache cache) id port
        = ((outputShape graph.firstRead depth visiting cache id port).1,
          printedCache (outputShape graph.firstRead depth visiting cache id port).2)
      ∧ PlainKeys (outputShape graph.firstRead depth visiting cache id port).2 := by
  have hsame : (printedCache cache).get (portKey id port) = cache.get (id, port) :=
    printedCache_get hcache (id, port) hid
  cases hget : cache.get (id, port) with
  | some shape =>
    rw [hget] at hsame
    unfold artifactShapeForOutput outputShape
    rw [hget, hsame]
    exact ⟨rfl, hcache⟩
  | none =>
    rw [hget] at hsame
    by_cases hvisit : (id, port) ∈ visiting
    · have hmem : portKey id port ∈ visiting.map printed := mem_map_of_mem hvisit
      unfold artifactShapeForOutput outputShape
      simp only [hget, hsame, if_pos hvisit, if_pos hmem]
      exact ⟨trivial, hcache⟩
    have hnot : portKey id port ∉ visiting.map printed := fun hmem =>
      hvisit ((mem_map_printed hvisiting (id, port) hid).mp hmem)
    cases hoffered : offered graph.firstRead id port with
    | none =>
      rw [artifactShapeForOutput_absent hsame hnot hoffered,
        outputShape_absent hget hvisit hoffered]
      exact ⟨rfl, hcache⟩
    | some contract =>
      obtain ⟨heq, hplain⟩ := hup contract hoffered
      rw [artifactShapeForOutput_offered hsame hnot hoffered,
        outputShape_offered hget hvisit hoffered, heq]
      refine ⟨rfl, fun entry hmem => ?_⟩
      rcases mem_cons.mp hmem with rfl | hmem
      · exact hid
      · exact hplain entry hmem

/-- **The editor infers what the service infers from the nodes read the other way.** -/
theorem artifactShapeForOutput_eq (hplain : ∀ edge ∈ graph.edges, Plain edge.sourceNodeId)
    (depth : Nat) (visiting : List (String × String)) (id port : String) (hid : Plain id)
    (hvisiting : ∀ key ∈ visiting, Plain key.1) (hcache : PlainKeys cache) :
    artifactShapeForOutput graph depth (visiting.map printed) (printedCache cache) id port
        = ((outputShape graph.firstRead depth visiting cache id port).1,
          printedCache (outputShape graph.firstRead depth visiting cache id port).2)
      ∧ PlainKeys (outputShape graph.firstRead depth visiting cache id port).2 := by
  induction depth generalizing visiting cache id port with
  | zero =>
    refine artifactShapeForOutput_step hid hvisiting hcache fun contract _ => ?_
    unfold upstreamShapeRead upstreamShape
    rw [fedShape_eq, firstRead_edges]
    generalize graph.edges.filter (fun edge => edge.targetNodeId = id) = into
    rcases into with _ | ⟨edge, _ | _⟩
    · exact ⟨rfl, hcache⟩
    · exact ⟨rfl, hcache⟩
    · exact ⟨rfl, hcache⟩
  | succ depth ih =>
    refine artifactShapeForOutput_step hid hvisiting hcache fun contract _ => ?_
    unfold upstreamShapeRead upstreamShape
    rw [fedShape_eq, firstRead_edges]
    cases hinto : graph.edges.filter fun edge => edge.targetNodeId = id with
    | nil => exact ⟨rfl, hcache⟩
    | cons edge rest =>
      cases rest with
      | cons _ _ => exact ⟨rfl, hcache⟩
      | nil =>
        have hmem : edge ∈ graph.edges := by
          have hin : edge ∈ graph.edges.filter fun edge => edge.targetNodeId = id := by
            rw [hinto]
            exact mem_singleton_self edge
          exact (mem_filter.mp hin).1
        have hdeeper : ∀ key ∈ (id, port) :: visiting, Plain key.1 := by
          intro key hkey
          rcases mem_cons.mp hkey with rfl | hkey
          · exact hid
          · exact hvisiting key hkey
        obtain ⟨heq, hkeys⟩ := ih ((id, port) :: visiting) edge.sourceNodeId
          edge.sourcePort (hplain edge hmem) hdeeper hcache
        rw [map_cons] at heq
        dsimp only
        rw [show portKey id port = printed (id, port) from rfl, heq, fedShape_eq]
        exact ⟨rfl, hkeys⟩

/-! ## The verdict about an edge -/

theorem matchInputContract_eq (shape : ArtifactShape) (contract : Option ArtifactInputContract) :
    matchInputContract shape contract = Automations.matchInputContract shape contract := by
  unfold matchInputContract Automations.matchInputContract
  cases contract with
  | none => rfl
  | some contract =>
    have hkinds : (!contract.acceptedKinds.isEmpty
          && !contract.acceptedKinds.any fun kind => shape.kind = some kind) = true
        ↔ contract.acceptedKinds ≠ []
          ∧ (contract.acceptedKinds.any fun kind => shape.kind = some kind) = false := by
      rw [Bool.and_eq_true, Bool.not_eq_true', Bool.not_eq_true', isEmpty_eq_false_iff]
    have hall : (contract.allOf.any fun capability => !shape.capabilities.contains capability)
          = true
        ↔ (contract.allOf.all fun capability => shape.capabilities.contains capability)
          = false := by
      rw [all_eq_not_any_not, Bool.not_eq_false']
    have hany : (!contract.anyOf.isEmpty
          && !contract.anyOf.any fun capability => shape.capabilities.contains capability) = true
        ↔ contract.anyOf ≠ []
          ∧ (contract.anyOf.any fun capability => shape.capabilities.contains capability)
            = false := by
      rw [Bool.and_eq_true, Bool.not_eq_true', Bool.not_eq_true', isEmpty_eq_false_iff]
    simp only [hkinds, hall, hany]

theorem input?_contract {definition : NodeDefinition} {name : String} {port : PortDefinition}
    (hmem : definition ∈ nodeRegistry) (h : definition.input? name = some port) :
    port.inputContract.isSome = true := by
  obtain ⟨entry, hfind, rfl⟩ := map_eq_some_iff.mp h
  exact (ports_have_contracts definition hmem).1 entry (mem_of_find?_eq_some hfind)

/-- **The editor's verdict about an edge is the service's for the nodes read the other
way.** -/
theorem connectionCompatibility_eq (hplain : ∀ edge ∈ graph.edges, Plain edge.sourceNodeId)
    {edge : WorkflowEdge} (hedge : edge ∈ graph.edges) (hcache : PlainKeys cache) :
    connectionCompatibility graph edge (printedCache cache)
        = ((edgeCompatibility graph.firstRead edge cache).1,
          printedCache (edgeCompatibility graph.firstRead edge cache).2)
      ∧ PlainKeys (edgeCompatibility graph.firstRead edge cache).2 := by
  obtain ⟨heq, hkeys⟩ := artifactShapeForOutput_eq hplain graph.nodes.length []
    edge.sourceNodeId edge.sourcePort (hplain edge hedge) (fun key hkey => absurd hkey not_mem_nil) hcache
  unfold connectionCompatibility edgeCompatibility
  rw [clientDefinition_eq, clientDefinition_eq, firstRead_nodes_length]
  cases hsource : definitionOf graph.firstRead edge.sourceNodeId with
  | none => exact ⟨rfl, hcache⟩
  | some source =>
  cases htarget : definitionOf graph.firstRead edge.targetNodeId with
  | none => exact ⟨rfl, hcache⟩
  | some target =>
  dsimp only [map_some]
  cases hout : source.output? edge.sourcePort with
  | none =>
    have hitem : (catalogItem source).output? edge.sourcePort = none := hout
    simp only [hitem]
    exact ⟨trivial, hcache⟩
  | some output =>
  have houtItem : (catalogItem source).output? edge.sourcePort = some output := hout
  cases hin : target.input? edge.targetPort with
  | none =>
    have hitem : (catalogItem target).input? edge.targetPort = none := hin
    simp only [houtItem, hitem]
    exact ⟨trivial, hcache⟩
  | some input =>
  have hinItem : (catalogItem target).input? edge.targetPort = some input := hin
  obtain ⟨contract, hcontract⟩ := isSome_iff_exists.mp
    (input?_contract (definitionOf_mem htarget).1 hin)
  have hhas : hasContract output input (catalogItem source) (catalogItem target) = true := by
    rw [hasContract, inputContract, hcontract, some_or, isSome_some, Bool.or_true]
  simp only [houtItem, hinItem, hhas, if_true, inputContract, hcontract, some_or,
    matchInputContract_eq]
  rw [map_nil] at heq
  rw [heq]
  exact ⟨rfl, hkeys⟩

end Client

end NewsCraft.Automations
