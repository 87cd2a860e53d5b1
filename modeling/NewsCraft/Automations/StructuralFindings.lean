import NewsCraft.Automations.GraphChecks

/-!
# Structural findings

What a graph without structural errors is: well connected, with edges that carry what their
targets take. An edge whose artifact is not known yet is only warned about, but in such a
graph there is none.
-/

namespace NewsCraft.Automations

open Lib GraphSearch Relation List Option

variable {E : DefinitionEnv} {graph : WorkflowGraphV1}

def structuralCodes : List String :=
  ["graph_entry_invalid", "edge_port_invalid", "edge_cardinality_invalid", "graph_cycle",
    "graph_unreachable_node", "graph_output_invalid"]

def Structural (finding : ValidationFinding) : Prop :=
  finding.severity = .error ∧ finding.code ∈ structuralCodes

instance (finding : ValidationFinding) : Decidable (Structural finding) :=
  inferInstanceAs (Decidable (_ ∧ _))

def ReportsStructural (findings : List ValidationFinding) : Prop :=
  ∃ finding ∈ findings, Structural finding

instance (findings : List ValidationFinding) : Decidable (ReportsStructural findings) :=
  inferInstanceAs (Decidable (∃ finding ∈ findings, Structural finding))

variable {a : List ValidationFinding}

theorem reports_append {b : List ValidationFinding} :
    ReportsStructural (a ++ b) ↔ ReportsStructural a ∨ ReportsStructural b := by
  unfold ReportsStructural
  simp only [mem_append, or_and_right, exists_or]

theorem not_reports_iff (h : ∀ finding ∈ a, Structural finding) :
    ¬ ReportsStructural a ↔ a = [] := by
  rw [eq_nil_iff_forall_not_mem]
  constructor
  · exact fun hnot finding hmem => hnot ⟨finding, hmem, h finding hmem⟩
  rintro hnil ⟨finding, hmem, _⟩
  exact hnil finding hmem

theorem not_reports_of_code (h : ∀ finding ∈ a, finding.code ∉ structuralCodes) :
    ¬ ReportsStructural a := by
  rintro ⟨finding, hmem, _, hcode⟩
  exact h finding hmem hcode

/-! Findings that are reported where something holds, or where it does not. -/

section Guarded

variable {finding : ValidationFinding} {P : ValidationFinding → Prop} {p : Prop} [Decidable p]

theorem guard_eq_nil_iff : (if p then [finding] else []) = [] ↔ ¬p := by
  by_cases h : p
  · simp [h]
  · simp [h]

theorem unless_eq_nil_iff : (if p then [] else [finding]) = [] ↔ p := by
  by_cases h : p
  · simp [h]
  · simp [h]

theorem forall_mem_guard (h : P finding) : ∀ f ∈ if p then [finding] else [], P f := by
  split
  · exact forall_mem_singleton.mpr h
  · nofun

theorem forall_mem_unless (h : P finding) : ∀ f ∈ if p then [] else [finding], P f := by
  split
  · nofun
  · exact forall_mem_singleton.mpr h

end Guarded

/-! ## Well-connected graphs -/

/-- Both ends of the edge are known steps, and the second is no trigger. -/
def Linked (graph : WorkflowGraphV1) (edge : WorkflowEdge) : Prop :=
  (definitionOf graph edge.sourceNodeId).isSome = true
    ∧ (definitionOf graph edge.targetNodeId).any (fun definition => !definition.entry) = true

def edgesTo (edges : List WorkflowEdge) (id port : String) : Nat :=
  (edges.filter fun edge => edge.targetNodeId = id ∧ edge.targetPort = port).length

def edgesFrom (edges : List WorkflowEdge) (id port : String) : Nat :=
  (edges.filter fun edge => edge.sourceNodeId = id ∧ edge.sourcePort = port).length

/-- Every port of the step has as many edges as it takes. -/
structure PortsFilled (edges : List WorkflowEdge) (id : String) (definition : NodeDefinition) :
    Prop where
  required : ∀ port ∈ definition.inputs, port.2.required = true → edgesTo edges id port.1 ≠ 0
  inputs : ∀ port ∈ definition.inputs, tooMany port.2 (edgesTo edges id port.1) = false
  outputs : ∀ port ∈ definition.outputs, tooMany port.2 (edgesFrom edges id port.1) = false

/-- A graph that is sound apart from what its edges carry. -/
structure WellConnected (graph : WorkflowGraphV1) : Prop where
  entry : (graph.nodesById graph.entryNodeId).any isEntry = true
  oneEntry : (graph.nodes.filter isEntry).length = 1
  distinct : graph.edges.Nodup
  linked : ∀ edge ∈ graph.edges, Linked graph edge
  filled : ∀ node ∈ graph.nodes, ∀ definition, nodeDefinition? node.type = some definition →
    PortsFilled graph.edges node.id definition
  acyclic : Acyclic (adjacency graph.edges)
  reached : ∀ id ∈ nodeIds graph, ReflTransGen (Leads (adjacency graph.edges)) graph.entryNodeId id
  finished : ∀ id ∈ graph.outputNodeIds, (definitionOf graph id).any NodeDefinition.terminal = true
    ∧ ∀ edge ∈ graph.edges, edge.sourceNodeId ≠ id

def Fits (graph : WorkflowGraphV1) : Prop :=
  ∀ edge ∈ graph.edges, edgeStatus graph edge = .compatible

instance (graph : WorkflowGraphV1) : Decidable (Fits graph) :=
  inferInstanceAs (Decidable (∀ edge ∈ graph.edges, edgeStatus graph edge = .compatible))

variable {id : String}

theorem definitionOf_nodeId (h : (definitionOf graph id).isSome = true) : id ∈ nodeIds graph := by
  obtain ⟨definition, hdefinition⟩ := isSome_iff_exists.mp h
  obtain ⟨_, node, hnode, rfl, _⟩ := definitionOf_mem hdefinition
  exact mem_map_of_mem hnode

variable {edge : WorkflowEdge}

theorem Linked.target (h : Linked graph edge) :
    ∃ definition, definitionOf graph edge.targetNodeId = some definition
      ∧ definition.entry = false := by
  have hany := h.2
  cases hdefinition : definitionOf graph edge.targetNodeId with
  | none =>
    rw [hdefinition] at hany
    cases hany
  | some definition =>
    rw [hdefinition, any_some, Bool.not_eq_true'] at hany
    exact ⟨definition, rfl, hany⟩

theorem Linked.joins (h : Linked graph edge) :
    edge.sourceNodeId ∈ nodeIds graph ∧ edge.targetNodeId ∈ nodeIds graph := by
  obtain ⟨definition, hdefinition, _⟩ := h.target
  exact ⟨definitionOf_nodeId h.1, definitionOf_nodeId (by rw [hdefinition]; rfl)⟩

/-! ## Why no edge is left open -/

theorem one_input : ∀ definition ∈ nodeRegistry, ∀ port ∈ definition.inputs,
    definition.inputs = [port] ∧ port.2.maxConnections = some 1 := by
  decide

theorem making_has_kind : ∀ definition ∈ nodeRegistry, ∀ port ∈ definition.outputs,
    ∀ contract ∈ port.2.outputContract, contract.preservesInputArtifact = false →
      contract.kind.isSome = true := by
  decide

theorem shapeForOutputContract_kind {contract : ArtifactOutputContract}
    {upstream : Option ArtifactShape}
    (h : (shapeForOutputContract contract upstream).known = true) :
    (shapeForOutputContract contract upstream).kind.isSome = true := by
  unfold shapeForOutputContract at h ⊢
  split at h
  · dsimp only at h ⊢
    rw [Bool.and_eq_true, Bool.or_eq_true] at h
    rw [if_pos ‹_›]
    cases hkind : contract.kind with
    | some kind => rfl
    | none =>
      rw [hkind] at h
      exact h.2.resolve_left Bool.noConfusion
  · rw [if_neg ‹_›]
    exact h

theorem ShapeOf.kind {port : String} {shape : ArtifactShape} (h : ShapeOf graph id port shape)
    (hknown : shape.known = true) : shape.kind.isSome = true := by
  cases h with
  | absent _ => cases hknown
  | alone _ _ | fed _ _ _ => exact shapeForOutputContract_kind hknown

theorem matchInputContract_known {shape : ArtifactShape} (h : shape.known = true)
    (contract : Option ArtifactInputContract) :
    matchInputContract shape contract ≠ .incomplete := by
  unfold matchInputContract
  cases contract with
  | none => exact fun heq => by cases heq
  | some contract =>
    rw [h]
    simp only [Bool.not_true, Bool.false_eq_true, if_false]
    intro heq
    split at heq
    · cases heq
    split at heq
    · cases heq
    split at heq
    · cases heq
    · cases heq

theorem edgeStatus_parts (hacyclic : Acyclic (adjacency graph.edges))
    (h : edgeStatus graph edge ≠ .incompatible) :
    ∃ target input shape, (offered graph edge.sourceNodeId edge.sourcePort).isSome = true
      ∧ definitionOf graph edge.targetNodeId = some target
      ∧ target.input? edge.targetPort = some input
      ∧ ShapeOf graph edge.sourceNodeId edge.sourcePort shape ∧ edgeStatus graph edge
        = matchInputContract shape (input.inputContract.or target.inputContract) := by
  unfold edgeStatus edgeCompatibility at h ⊢
  cases hsource : definitionOf graph edge.sourceNodeId with
  | none =>
    rw [hsource] at h
    exact absurd rfl h
  | some source =>
  cases htarget : definitionOf graph edge.targetNodeId with
  | none =>
    rw [hsource, htarget] at h
    exact absurd rfl h
  | some target =>
  rw [hsource, htarget] at h
  dsimp only at h
  cases houtput : source.output? edge.sourcePort with
  | none =>
    rw [houtput] at h
    exact absurd rfl h
  | some output =>
  cases hinput : target.input? edge.targetPort with
  | none =>
    rw [houtput, hinput] at h
    exact absurd rfl h
  | some input =>
  have hshape := (outputShape_shapeOf hacyclic edge.sourceNodeId edge.sourcePort
    .nil (fun key hkey => absurd hkey not_mem_nil) nodup_nil (nil_subset _)
    (Nat.le_refl _)).1
  refine ⟨target, input, _, ?_, rfl, hinput, hshape, ?_⟩
  · rw [offered, hsource, bind_some, houtput]
    exact (output?_contract (definitionOf_mem hsource).1 houtput).2
  · dsimp only
    rw [houtput, hinput]

/-- How the edges of a graph are counted at its ports. -/
structure Wired (graph : WorkflowGraphV1) (counted : List WorkflowEdge) : Prop where
  acyclic : Acyclic (adjacency graph.edges)
  distinct : graph.edges.Nodup
  sublist : counted.Sublist graph.edges
  judged : ∀ edge ∈ graph.edges, edgeStatus graph edge ≠ .incompatible
  counts : ∀ edge ∈ graph.edges, edgeStatus graph edge = .compatible → edge ∈ counted
  filled : ∀ node ∈ graph.nodes, ∀ definition, nodeDefinition? node.type = some definition →
    PortsFilled counted node.id definition

variable {counted : List WorkflowEdge}

theorem Wired.one_edge (h : Wired graph counted) {definition : NodeDefinition}
    (hdefinition : definitionOf graph id = some definition)
    (hrequired : definition.inputs.any (fun input => input.2.required) = true)
    (hcounted : ∀ edge ∈ edgesInto graph id, edge ∈ counted) :
    ∃ edge, edgesInto graph id = [edge] := by
  obtain ⟨hregistry, node, hnode, rfl, hnodeDefinition⟩ := definitionOf_mem hdefinition
  obtain ⟨input, hinput, hinputRequired⟩ := any_eq_true.mp hrequired
  have hfilled := h.filled node hnode definition hnodeDefinition
  obtain ⟨honly, hmax⟩ := one_input definition hregistry input hinput
  have hsome := hfilled.required input hinput hinputRequired
  have hfew : edgesTo counted node.id input.1 ≤ 1 := by
    have hnot := hfilled.inputs input hinput
    rw [tooMany, hmax, any_some, decide_eq_false_iff_not] at hnot
    omega
  -- every edge into the step comes to its only port
  have hport : ∀ edge ∈ edgesInto graph node.id,
      edge ∈ counted.filter fun edge => edge.targetNodeId = node.id ∧ edge.targetPort = input.1 := by
    intro edge hedge
    obtain ⟨hmem, htarget⟩ := mem_filter.mp hedge
    have htarget := of_decide_eq_true htarget
    obtain ⟨target, port, _, _, htargetDefinition, hportFound, _⟩ :=
      edgeStatus_parts h.acyclic (h.judged edge hmem)
    rw [htarget, hdefinition, Option.some.injEq] at htargetDefinition
    rw [← htargetDefinition, NodeDefinition.input?, honly] at hportFound
    obtain ⟨entry, hfind, _⟩ := map_eq_some_iff.mp hportFound
    have hname := find?_some hfind
    rw [mem_singleton.mp (mem_of_find?_eq_some hfind), decide_eq_true_eq] at hname
    exact mem_filter.mpr ⟨hcounted edge hedge, decide_eq_true ⟨htarget, hname.symm⟩⟩
  obtain ⟨first, hfirst⟩ := exists_mem_of_length_pos (Nat.pos_of_ne_zero hsome)
  obtain ⟨hfirstCounted, hfirstPort⟩ := mem_filter.mp hfirst
  have hinto : first ∈ edgesInto graph node.id := mem_filter.mpr
    ⟨h.sublist.subset hfirstCounted, decide_eq_true (of_decide_eq_true hfirstPort).1⟩
  have hall : ∀ edge ∈ edgesInto graph node.id, edge = first := fun edge hedge =>
    LinearGraph.eq_of_length_le_one hfew (hport edge hedge) (hport first hinto)
  have hnodup : (edgesInto graph node.id).Nodup := h.distinct.filter _
  refine ⟨first, ?_⟩
  cases hlist : edgesInto graph node.id with
  | nil =>
    rw [hlist] at hinto
    cases hinto
  | cons edge rest =>
    rw [hlist] at hall hnodup
    cases rest with
    | nil => rw [hall edge mem_cons_self]
    | cons other rest =>
      have hsame : edge = other := (hall edge mem_cons_self).trans
        (hall other (mem_cons_of_mem _ mem_cons_self)).symm
      exact absurd (hsame ▸ mem_cons_self) (nodup_cons.mp hnodup).1

/-- Every output the graph has is of a known shape. By induction on what comes before
its step. -/
theorem Wired.known (h : Wired graph counted) (id : String) :
    ∀ port shape, (offered graph id port).isSome = true → ShapeOf graph id port shape →
      shape.known = true := by
  refine h.acyclic.induction (graph.edges.map WorkflowEdge.sourceNodeId)
    (P := fun id => ∀ port shape, (offered graph id port).isSome = true →
      ShapeOf graph id port shape → shape.known = true) ?_ ?_ id
  · intro a b hab
    obtain ⟨edge, hedge, rfl, _⟩ := leads_iff.mp hab
    exact mem_map_of_mem hedge
  · intro id ih port shape hsome hshape
    obtain ⟨contract, hcontract⟩ := isSome_iff_exists.mp hsome
    obtain ⟨definition, hdefinition, hport⟩ := bind_eq_some_iff.mp hcontract
    obtain ⟨portDefinition, hfound, hoffers⟩ := bind_eq_some_iff.mp hport
    have hregistry := (definitionOf_mem hdefinition).1
    obtain ⟨entry, hfind, rfl⟩ := map_eq_some_iff.mp hfound
    have hentry := mem_of_find?_eq_some hfind
    cases hkeeps : contract.preservesInputArtifact with
    | false =>
      have hkind := making_has_kind definition hregistry entry hentry contract hoffers hkeeps
      cases hshape with
      | absent hnone =>
        rw [hcontract] at hnone
        cases hnone
      | alone hcontract' _ | fed hcontract' _ _ =>
        rw [hcontract, Option.some.injEq] at hcontract'
        rw [← hcontract', shapeForOutputContract, hkeeps]
        exact hkind
    | true =>
      have habove : ∀ edge ∈ edgesInto graph id, ∀ shape,
          ShapeOf graph edge.sourceNodeId edge.sourcePort shape → shape.known = true := by
        intro edge hedge shape hshape
        obtain ⟨hmem, htarget⟩ := mem_filter.mp hedge
        have hleads := leads_of_mem hmem
        rw [of_decide_eq_true htarget] at hleads
        obtain ⟨_, _, _, hoffered, _⟩ := edgeStatus_parts h.acyclic (h.judged edge hmem)
        exact ih _ hleads _ shape hoffered hshape
      have hcounted : ∀ edge ∈ edgesInto graph id, edge ∈ counted := by
        intro edge hedge
        have hmem := (mem_filter.mp hedge).1
        have hnot := h.judged edge hmem
        obtain ⟨_, _, shape, _, _, _, hshape, hstatus⟩ := edgeStatus_parts h.acyclic hnot
        have hopen : edgeStatus graph edge ≠ .incomplete :=
          hstatus ▸ matchInputContract_known (habove edge hedge shape hshape) _
        refine h.counts edge hmem ?_
        cases hverdict : edgeStatus graph edge with
        | compatible => rfl
        | incomplete => exact absurd hverdict hopen
        | incompatible => exact absurd hverdict hnot
      obtain ⟨edge, hone⟩ := h.one_edge hdefinition
        (preserving_has_input definition hregistry entry hentry contract hoffers hkeeps) hcounted
      cases hshape with
      | absent hnone =>
        rw [hcontract] at hnone
        cases hnone
      | alone _ hunfed => exact absurd hone (hunfed edge)
      | @fed _ _ _ edge' upstream hcontract' hone' hup =>
        rw [hcontract, Option.some.injEq] at hcontract'
        have hin : edge' ∈ edgesInto graph id := hone' ▸ mem_singleton_self edge'
        have hupKnown := habove edge' hin upstream hup
        rw [← hcontract', shapeForOutputContract, if_pos hkeeps, getD_some]
        dsimp only
        rw [hupKnown, hup.kind hupKnown, Bool.or_true, Bool.and_true]

/-- **Every edge carries what its target takes.** -/
theorem Wired.fits (h : Wired graph counted) : Fits graph := by
  intro edge hedge
  have hnot := h.judged edge hedge
  obtain ⟨_, _, shape, hoffered, _, _, hshape, hstatus⟩ := edgeStatus_parts h.acyclic hnot
  have hopen : edgeStatus graph edge ≠ .incomplete :=
    hstatus ▸ matchInputContract_known (h.known _ _ shape hoffered hshape) _
  cases hverdict : edgeStatus graph edge with
  | compatible => rfl
  | incomplete => exact absurd hverdict hopen
  | incompatible => exact absurd hverdict hnot

end NewsCraft.Automations
