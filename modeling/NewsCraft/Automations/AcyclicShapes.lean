import NewsCraft.Automations.ReviewGate
import NewsCraft.Lib.GraphSearch

/-!
# Shapes in a graph without cycles

In a graph without cycles the inference comes to what follows from the contract of a port
and from the one edge into its node, whatever it has in its cache, so the verdict about an
edge does not depend on which edges were judged before.
-/

namespace NewsCraft.Automations

open Lib GraphSearch Relation List Option

variable {graph : WorkflowGraphV1}

def definitionOf (graph : WorkflowGraphV1) (id : String) : Option NodeDefinition :=
  (graph.nodesById id).bind fun node => nodeDefinition? node.type

/-- The contract of an output of the step of an id. -/
def offered (graph : WorkflowGraphV1) (id port : String) : Option ArtifactOutputContract :=
  (definitionOf graph id).bind fun definition =>
    (definition.output? port).bind PortDefinition.outputContract

def edgesInto (graph : WorkflowGraphV1) (id : String) : List WorkflowEdge :=
  graph.edges.filter fun edge => edge.targetNodeId = id

/-- What is known of the artifact an output gives. -/
inductive ShapeOf (graph : WorkflowGraphV1) : String → String → ArtifactShape → Prop where
  | absent {id port : String} (none : offered graph id port = none) :
      ShapeOf graph id port .unknown
  | alone {id port : String} {contract : ArtifactOutputContract}
      (contracted : offered graph id port = some contract)
      (unfed : ∀ edge, edgesInto graph id ≠ [edge]) :
      ShapeOf graph id port (shapeForOutputContract contract none)
  | fed {id port : String} {contract : ArtifactOutputContract} {edge : WorkflowEdge}
      {upstream : ArtifactShape} (contracted : offered graph id port = some contract)
      (one : edgesInto graph id = [edge])
      (above : ShapeOf graph edge.sourceNodeId edge.sourcePort upstream) :
      ShapeOf graph id port (shapeForOutputContract contract (some upstream))

variable {id port : String}

theorem ShapeOf.unique {shape shape' : ArtifactShape} (h : ShapeOf graph id port shape)
    (h' : ShapeOf graph id port shape') : shape = shape' := by
  induction h generalizing shape' with
  | absent hnone =>
    cases h' with
    | absent _ => rfl
    | alone hsome _ | fed hsome _ _ =>
      exact absurd (hnone.symm.trans hsome) (some_ne_none _).symm
  | alone hsome hnot =>
    cases h' with
    | absent hnone => exact absurd (hnone.symm.trans hsome) (some_ne_none _).symm
    | alone hsome' _ => rw [Option.some.inj (hsome.symm.trans hsome')]
    | fed _ hone _ => exact absurd hone (hnot _)
  | fed hsome hone _ ih =>
    cases h' with
    | absent hnone => exact absurd (hnone.symm.trans hsome) (some_ne_none _).symm
    | alone _ hnot => exact absurd hone (hnot _)
    | fed hsome' hone' habove =>
      have hedge := (List.cons.inj (hone.symm.trans hone')).1
      rw [← hedge] at habove
      rw [Option.some.inj (hsome.symm.trans hsome'), ih habove]

def GoodShapes (graph : WorkflowGraphV1) (cache : ShapeCache) : Prop :=
  ∀ key shape, cache.get key = some shape → ShapeOf graph key.1 key.2 shape

theorem GoodShapes.nil : GoodShapes graph [] := by
  intro key shape h
  cases h

variable {cache : ShapeCache}

theorem GoodShapes.cons (h : GoodShapes graph cache) {shape : ArtifactShape}
    (hshape : ShapeOf graph id port shape) : GoodShapes graph (((id, port), shape) :: cache) := by
  intro key shape' hget
  rw [get_cons] at hget
  by_cases hkey : (id, port) = key
  · rw [if_pos hkey, Option.some.injEq] at hget
    rw [← hkey, ← hget]
    exact hshape
  · rw [if_neg hkey] at hget
    exact h key shape' hget

/-! ## One call -/

theorem definitionOf_mem {definition : NodeDefinition} (h : definitionOf graph id = some definition)
    : definition ∈ nodeRegistry ∧ ∃ node ∈ graph.nodes, node.id = id
      ∧ nodeDefinition? node.type = some definition := by
  obtain ⟨node, hnode, hdefinition⟩ := bind_eq_some_iff.mp h
  obtain ⟨hmem, hid⟩ := nodesById_some hnode
  exact ⟨(nodeDefinition?_mem hdefinition).1, node, hmem, hid, hdefinition⟩

variable {depth : Nat} {visiting : List (String × String)}

theorem outputShape_absent (hget : cache.get (id, port) = none) (hnot : (id, port) ∉ visiting)
    (h : offered graph id port = none) :
    outputShape graph depth visiting cache id port = (.unknown, cache) := by
  unfold offered at h
  unfold outputShape
  simp only [hget, if_neg hnot]
  rw [← definitionOf]
  cases hdefinition : definitionOf graph id with
  | none => rfl
  | some definition =>
    cases hport : definition.output? port with
    | none => simp only [hport]
    | some portDefinition =>
      rw [hdefinition, bind_some, hport, bind_some] at h
      have hsome := (output?_contract (definitionOf_mem hdefinition).1 hport).2
      rw [h] at hsome
      cases hsome

theorem outputShape_offered {contract : ArtifactOutputContract} (hget : cache.get (id, port) = none)
    (hnot : (id, port) ∉ visiting) (h : offered graph id port = some contract) :
    outputShape graph depth visiting cache id port
      = ((upstreamShape graph depth visiting cache (id, port) contract).1,
        ((id, port), (upstreamShape graph depth visiting cache (id, port) contract).1)
          :: (upstreamShape graph depth visiting cache (id, port) contract).2) := by
  unfold offered definitionOf at h
  obtain ⟨definition, hdefinition, h⟩ := bind_eq_some_iff.mp h
  obtain ⟨portDefinition, hport, hcontract⟩ := bind_eq_some_iff.mp h
  unfold outputShape upstreamShape
  simp only [hget, if_neg hnot, hdefinition, hport, hcontract, some_or]
  generalize graph.edges.filter (fun edge => edge.targetNodeId = id) = into
  rcases into with _ | ⟨edge, _ | _⟩
  · rfl
  · cases depth with
    | zero | succ _ => rfl
  · rfl

/-! ## The inference -/

theorem leads_of_mem {edges : List WorkflowEdge} {edge : WorkflowEdge} (h : edge ∈ edges) :
    Leads (adjacency edges) edge.sourceNodeId edge.targetNodeId :=
  mem_map.mpr ⟨edge, mem_filter.mpr ⟨h, decide_eq_true rfl⟩, rfl⟩

theorem leads_iff {edges : List WorkflowEdge} {a b : String} : Leads (adjacency edges) a b
      ↔ ∃ edge ∈ edges, edge.sourceNodeId = a ∧ edge.targetNodeId = b := by
  constructor
  · intro h
    obtain ⟨edge, hmem, hb⟩ := mem_map.mp h
    obtain ⟨hmem, ha⟩ := mem_filter.mp hmem
    exact ⟨edge, hmem, of_decide_eq_true ha, hb⟩
  · rintro ⟨edge, hmem, rfl, rfl⟩
    exact leads_of_mem hmem

theorem outputShape_step (hcache : GoodShapes graph cache) (hnot : (id, port) ∉ visiting)
    (hup : ∀ contract, offered graph id port = some contract → ShapeOf graph id port (upstreamShape
      graph depth visiting cache (id, port) contract).1 ∧ GoodShapes graph (upstreamShape graph
      depth visiting cache (id, port) contract).2) :
    ShapeOf graph id port (outputShape graph depth visiting cache id port).1
      ∧ GoodShapes graph (outputShape graph depth visiting cache id port).2 := by
  cases hget : cache.get (id, port) with
  | some shape =>
    unfold outputShape
    rw [hget]
    exact ⟨hcache _ _ hget, hcache⟩
  | none =>
    cases hoffered : offered graph id port with
    | none =>
      rw [outputShape_absent hget hnot hoffered]
      exact ⟨.absent hoffered, hcache⟩
    | some contract =>
      obtain ⟨hshape, hgood⟩ := hup contract hoffered
      rw [outputShape_offered hget hnot hoffered]
      exact ⟨hshape, hgood.cons hshape⟩

theorem upstreamShape_alone {contract : ArtifactOutputContract}
    (hunfed : ∀ edge, edgesInto graph id ≠ [edge]) (depth : Nat) (visiting : List (String × String))
    (cache : ShapeCache) : upstreamShape graph depth visiting cache (id, port) contract
      = (shapeForOutputContract contract none, cache) := by
  unfold upstreamShape
  rw [← edgesInto]
  cases hinto : edgesInto graph id with
  | nil => rfl
  | cons edge rest =>
    cases rest with
    | nil => exact absurd hinto (hunfed edge)
    | cons _ _ => rfl

/-- **In a graph without cycles the inference finds the shape**, from any cache of
shapes. The nodes being visited all come after this one. -/
theorem outputShape_shapeOf (hacyclic : Acyclic (adjacency graph.edges)) (id port : String)
    (hcache : GoodShapes graph cache)
    (hvisiting : ∀ key ∈ visiting, TransGen (Leads (adjacency graph.edges)) id key.1)
    (hnodup : (visiting.map Prod.fst).Nodup) (hsub : visiting.map Prod.fst ⊆ nodeIds graph)
    (hdepth : graph.nodes.length ≤ depth + visiting.length) :
    ShapeOf graph id port (outputShape graph depth visiting cache id port).1
      ∧ GoodShapes graph (outputShape graph depth visiting cache id port).2 := by
  have hfresh : ∀ {id : String},
      (∀ key ∈ visiting, TransGen (Leads (adjacency graph.edges)) id key.1) →
        id ∉ visiting.map Prod.fst := by
    intro id hvisiting hmem
    obtain ⟨key, hkey, rfl⟩ := mem_map.mp hmem
    exact hacyclic _ (hvisiting key hkey)
  induction depth generalizing visiting cache id port with
  | zero =>
    refine outputShape_step hcache (fun hmem => hfresh hvisiting (mem_map_of_mem hmem))
      fun contract hoffered => ?_
    -- the node is not being visited, yet every node is
    obtain ⟨definition, hdefinition, _⟩ := bind_eq_some_iff.mp hoffered
    obtain ⟨_, node, hnode, rfl, _⟩ := definitionOf_mem hdefinition
    have hfull : (node.id :: visiting.map Prod.fst).length ≤ (nodeIds graph).length :=
      (List.Nodup.subperm (nodup_cons.mpr ⟨hfresh hvisiting, hnodup⟩)
        (cons_subset.mpr ⟨mem_map_of_mem hnode, hsub⟩)).length_le
    simp only [length_cons, length_map, nodeIds] at hfull
    omega
  | succ depth ih =>
    refine outputShape_step hcache (fun hmem => hfresh hvisiting (mem_map_of_mem hmem))
      fun contract hoffered => ?_
    by_cases hone : ∃ edge, edgesInto graph id = [edge]
    · obtain ⟨edge, hone⟩ := hone
      obtain ⟨definition, hdefinition, _⟩ := bind_eq_some_iff.mp hoffered
      obtain ⟨_, node, hnode, hid, _⟩ := definitionOf_mem hdefinition
      have hedge : edge ∈ edgesInto graph id := hone ▸ mem_singleton_self edge
      obtain ⟨hmem, htarget⟩ := mem_filter.mp hedge
      have hleads : Leads (adjacency graph.edges) edge.sourceNodeId id :=
        of_decide_eq_true htarget ▸ leads_of_mem hmem
      have hdeeper : ∀ key ∈ (id, port) :: visiting,
          TransGen (Leads (adjacency graph.edges)) edge.sourceNodeId key.1 := by
        intro key hkey
        rcases mem_cons.mp hkey with rfl | hkey
        · exact .single hleads
        · exact (hvisiting key hkey).head hleads
      have hroom : graph.nodes.length ≤ depth + ((id, port) :: visiting).length := by
        rw [length_cons]
        omega
      obtain ⟨hshape, hgood⟩ := ih edge.sourceNodeId edge.sourcePort hcache hdeeper
        (nodup_cons.mpr ⟨hfresh hvisiting, hnodup⟩)
        (cons_subset.mpr ⟨hid ▸ mem_map_of_mem hnode, hsub⟩) hroom
        (fun hlater hback => by
          obtain ⟨key, hkey, heq⟩ := mem_map.mp hback
          exact hacyclic _ (heq ▸ hlater key hkey))
      unfold upstreamShape
      rw [← edgesInto, hone]
      exact ⟨.fed hoffered hone hshape, hgood⟩
    · have hunfed : ∀ edge, edgesInto graph id ≠ [edge] := fun edge h => hone ⟨edge, h⟩
      rw [upstreamShape_alone hunfed]
      exact ⟨.alone hoffered hunfed, hcache⟩

/-! ## The verdict about an edge -/

/-- `_edge_compatibility`. -/
def edgeCompatibility (graph : WorkflowGraphV1) (edge : WorkflowEdge) (cache : ShapeCache) :
    CompatibilityStatus × ShapeCache :=
  match definitionOf graph edge.sourceNodeId, definitionOf graph edge.targetNodeId with
  | some source, some target =>
    match source.output? edge.sourcePort, target.input? edge.targetPort with
    | some _, some port =>
      let (shape, cache) := outputShape graph graph.nodes.length [] cache edge.sourceNodeId
        edge.sourcePort
      (matchInputContract shape (port.inputContract.or target.inputContract), cache)
    | _, _ => (.incompatible, cache)
  | _, _ => (.incompatible, cache)

/-- The verdict about an edge when no other was judged before. -/
def edgeStatus (graph : WorkflowGraphV1) (edge : WorkflowEdge) : CompatibilityStatus :=
  (edgeCompatibility graph edge []).1

/-- **The verdict does not depend on the cache.** -/
theorem edgeCompatibility_status (hacyclic : Acyclic (adjacency graph.edges))
    (hcache : GoodShapes graph cache) (edge : WorkflowEdge) :
    (edgeCompatibility graph edge cache).1 = edgeStatus graph edge
      ∧ GoodShapes graph (edgeCompatibility graph edge cache).2 := by
  have hfind : ∀ cache, GoodShapes graph cache → ShapeOf graph edge.sourceNodeId edge.sourcePort
          (outputShape graph graph.nodes.length [] cache edge.sourceNodeId edge.sourcePort).1
        ∧ GoodShapes graph
          (outputShape graph graph.nodes.length [] cache edge.sourceNodeId edge.sourcePort).2 :=
    fun cache hcache => outputShape_shapeOf hacyclic edge.sourceNodeId edge.sourcePort hcache
      (fun key hkey => absurd hkey not_mem_nil) nodup_nil (nil_subset _)
      (Nat.le_refl _)
  obtain ⟨hshape, hgood⟩ := hfind cache hcache
  obtain ⟨hempty, _⟩ := hfind [] .nil
  unfold edgeStatus edgeCompatibility
  cases definitionOf graph edge.sourceNodeId with
  | none => exact ⟨rfl, hcache⟩
  | some source =>
  cases definitionOf graph edge.targetNodeId with
  | none => exact ⟨rfl, hcache⟩
  | some target =>
  dsimp only
  cases source.output? edge.sourcePort with
  | none => exact ⟨rfl, hcache⟩
  | some output =>
  cases target.input? edge.targetPort with
  | none => exact ⟨rfl, hcache⟩
  | some port =>
  rw [hshape.unique hempty]
  exact ⟨rfl, hgood⟩

end NewsCraft.Automations
