import NewsCraft.Automations.ClientShapes

/-!
# Where the editor and the service disagree

The editor reports a structural error exactly when the graph is not well connected or, with
every id read as its first node, some edge does not carry what its target takes. The service
reads an id as its last node, and an editor that throws reports nothing.
-/

namespace NewsCraft.Automations.Client

open Lib GraphSearch Relation List Option

variable {E : DefinitionEnv} {graph : WorkflowGraphV1} {lower : String → String}

/-! ## Edges -/

structure PlainEdge (edge : WorkflowEdge) : Prop where
  source : Plain edge.sourceNodeId
  sourcePort : Plain edge.sourcePort
  target : Plain edge.targetNodeId

theorem plainEdges (h : graph.Accepted) : ∀ edge ∈ graph.edges, PlainEdge edge :=
  fun edge hedge =>
    { source := plain_of_isNodeId (h.edges edge hedge).1.1
      sourcePort := plain_of_isSchemaName (h.edges edge hedge).1.2
      target := plain_of_isNodeId (h.edges edge hedge).2.1 }

variable {seen : List WorkflowEdge} {edge : WorkflowEdge}

theorem edgeKey_mem (hseen : ∀ edge ∈ seen, PlainEdge edge) (hedge : PlainEdge edge) :
    edgeKey edge ∈ seen.map edgeKey ↔ edge ∈ seen := by
  constructor
  · intro hmem
    obtain ⟨edge', hedge', heq⟩ := mem_map.mp hmem
    have hplain := hseen edge' hedge'
    exact edgeKey_injective hplain.source hedge.source hplain.sourcePort hedge.sourcePort
      hplain.target hedge.target heq ▸ hedge'
  · exact mem_map_of_mem

/-- The loop has met the edges `seen` and counts the edges `counted`. -/
structure Follows (graph : WorkflowGraphV1) (scan : EdgeScan) (seen counted : List WorkflowEdge) :
    Prop where
  keys : scan.edgeKeys = seen.map edgeKey
  inputs : scan.inputCounts = counted.map fun edge => portKey edge.targetNodeId edge.targetPort
  outputs : scan.outputCounts = counted.map fun edge => portKey edge.sourceNodeId edge.sourcePort
  cached : ∃ cache, scan.shapeCache = printedCache cache ∧ GoodShapes graph.firstRead cache
    ∧ PlainKeys cache

structure Passed (graph : WorkflowGraphV1) (edge : WorkflowEdge) : Prop where
  linked : Linked graph edge
  carries : edgeStatus graph.firstRead edge ≠ .incompatible

theorem structural_edgeFinding {code message recoveryAction : String} {nodeId : Option String}
    {index : Nat} (h : code ∈ structuralCodes) :
    Structural (edgeFinding code message nodeId index recoveryAction) :=
  ⟨rfl, h⟩

theorem reports_snoc {findings : List ValidationFinding} {finding : ValidationFinding}
    (h : Structural finding) : ReportsStructural (findings ++ [finding]) :=
  ⟨finding, mem_append_right _ mem_cons_self, h⟩

theorem lastDefinition_eq (id : String) :
    ((graph.nodesById id).bind fun node => catalogDefinition node.type)
      = (definitionOf graph id).map catalogItem := by
  rw [definitionOf]
  simp only [catalogDefinition_eq]
  cases graph.nodesById id with
  | none | some _ => rfl

theorem readConnection_linked (h : Linked graph edge) (cache : ShapeMap) :
    readConnection graph edge cache = connectionCompatibility graph edge cache := by
  obtain ⟨target, htarget, _⟩ := h.target
  obtain ⟨source, hsource⟩ := isSome_iff_exists.mp h.1
  unfold readConnection
  rw [lastDefinition_eq, lastDefinition_eq, htarget, hsource]
  rfl

theorem target_isTrigger : (graph.nodesById edge.targetNodeId).any isTrigger
      = (definitionOf graph edge.targetNodeId).any NodeDefinition.entry := by
  rw [definitionOf]
  cases graph.nodesById edge.targetNodeId with
  | none => rfl
  | some node => exact isTrigger_eq node

variable {scan : EdgeScan}

theorem next_unlinked {index : Nat} (h : ¬ Linked graph edge) :
    ReportsStructural (scan.next graph edge index).findings := by
  have hcardinality : "edge_cardinality_invalid" ∈ structuralCodes := by decide
  have hport : "edge_port_invalid" ∈ structuralCodes := by decide
  unfold EdgeScan.next
  by_cases hkey : edgeKey edge ∈ scan.edgeKeys
  · rw [if_pos hkey]
    exact reports_snoc (structural_edgeFinding hcardinality)
  rw [if_neg hkey]
  dsimp only
  by_cases htrigger : (graph.nodesById edge.targetNodeId).any isTrigger = true
  · rw [if_pos htrigger]
    exact reports_snoc (structural_edgeFinding hport)
  rw [if_neg htrigger]
  have hrefused : readConnection graph edge scan.shapeCache = (.incompatible, scan.shapeCache) := by
    rw [target_isTrigger] at htrigger
    unfold readConnection
    rw [lastDefinition_eq, lastDefinition_eq]
    cases hsource : definitionOf graph edge.sourceNodeId with
    | none => rfl
    | some source =>
      cases htarget : definitionOf graph edge.targetNodeId with
      | none => rfl
      | some target =>
        rw [htarget, any_some, Bool.not_eq_true] at htrigger
        refine absurd ⟨by rw [hsource]; rfl, ?_⟩ h
        rw [htarget, any_some, htrigger]
        rfl
  rw [hrefused]
  exact reports_snoc (structural_edgeFinding hport)

def fitting (graph : WorkflowGraphV1) (edges : List WorkflowEdge) : List WorkflowEdge :=
  edges.filter fun edge => edgeStatus graph.firstRead edge = .compatible

variable {counted : List WorkflowEdge}

theorem next_follows (hacyclic : Acyclic (adjacency graph.edges))
    (hplain : ∀ edge ∈ graph.edges, PlainEdge edge) (hfollows : Follows graph scan seen counted)
    (hseen : ∀ edge ∈ seen, PlainEdge edge) (hedge : edge ∈ graph.edges) (index : Nat) :
    (ReportsStructural (scan.next graph edge index).findings
        ∧ ¬ (edge ∉ seen ∧ Passed graph edge)) ∨
      ((ReportsStructural (scan.next graph edge index).findings ↔ ReportsStructural scan.findings)
        ∧ Follows graph (scan.next graph edge index) (seen ++ [edge])
          (counted ++ fitting graph [edge]) ∧ edge ∉ seen ∧ Passed graph edge) := by
  have hcardinality : "edge_cardinality_invalid" ∈ structuralCodes := by decide
  have hport : "edge_port_invalid" ∈ structuralCodes := by decide
  by_cases hlinked : Linked graph edge
  case neg => exact .inl ⟨next_unlinked hlinked, fun h => hlinked h.2.linked⟩
  obtain ⟨cache, hcache, hgood, hkeys⟩ := hfollows.cached
  obtain ⟨hread, hkeys'⟩ := connectionCompatibility_eq
    (fun e he => (hplain e he).source) hedge hkeys
  have hread' : Acyclic (adjacency graph.firstRead.edges) := hacyclic
  have hjudged : (edgeCompatibility graph.firstRead edge cache).1 = edgeStatus graph.firstRead edge
      ∧ GoodShapes graph.firstRead (edgeCompatibility graph.firstRead edge cache).2 :=
    edgeCompatibility_status hread' hgood edge
  obtain ⟨hstatus, hgood'⟩ := hjudged
  rw [hstatus] at hread
  unfold EdgeScan.next
  by_cases hmet : edge ∈ seen
  · rw [if_pos (hfollows.keys ▸ mem_map_of_mem hmet)]
    exact .inl ⟨reports_snoc (structural_edgeFinding hcardinality), fun h => h.1 hmet⟩
  have hfresh : edgeKey edge ∉ scan.edgeKeys := by
    rw [hfollows.keys, edgeKey_mem hseen (hplain edge hedge)]
    exact hmet
  have hnoTrigger : ¬ (graph.nodesById edge.targetNodeId).any isTrigger = true := by
    obtain ⟨target, htarget, hentry⟩ := hlinked.target
    rw [target_isTrigger, htarget, any_some, hentry]
    exact Bool.noConfusion
  rw [if_neg hfresh, readConnection_linked hlinked, hcache, hread]
  dsimp only
  rw [if_neg hnoTrigger]
  have hkeysNext : scan.edgeKeys ++ [edgeKey edge] = (seen ++ [edge]).map edgeKey := by
    rw [map_append, hfollows.keys]
    rfl
  have hopen : ∀ warning : ValidationFinding, warning.severity = .warning →
      (ReportsStructural (scan.findings ++ [warning]) ↔ ReportsStructural scan.findings) := by
    intro warning hwarning
    have hsilent : ¬ ReportsStructural [warning] := by
      rintro ⟨finding, hmem, herror, _⟩
      rw [mem_singleton.mp hmem, hwarning] at herror
      cases herror
    rw [reports_append, or_iff_left hsilent]
  cases hverdict : edgeStatus graph.firstRead edge with
  | incompatible =>
    exact .inl ⟨reports_snoc (structural_edgeFinding hport), fun h => h.2.carries hverdict⟩
  | incomplete =>
    have hnone : fitting graph [edge] = [] := by
      rw [fitting, filter_singleton, hverdict]
      rfl
    refine .inr ⟨hopen _ rfl, ⟨hkeysNext, ?_, ?_, _, rfl, hgood', hkeys'⟩, hmet, hlinked, ?_⟩
    · rw [hnone, append_nil]
      exact hfollows.inputs
    · rw [hnone, append_nil]
      exact hfollows.outputs
    · rw [hverdict]
      decide
  | compatible =>
    have hone : fitting graph [edge] = [edge] := by
      rw [fitting, filter_singleton, hverdict]
      rfl
    refine .inr ⟨Iff.rfl, ⟨hkeysNext, ?_, ?_, _, rfl, hgood', hkeys'⟩, hmet, hlinked, ?_⟩
    · rw [hone, map_append, ← hfollows.inputs]
      rfl
    · rw [hone, map_append, ← hfollows.outputs]
      rfl
    · rw [hverdict]
      decide

theorem next_reports (h : ReportsStructural scan.findings) (edge : WorkflowEdge) (index : Nat) :
    ReportsStructural (scan.next graph edge index).findings := by
  have hkeep : ∀ later : List ValidationFinding, ReportsStructural (scan.findings ++ later) :=
    fun later => reports_append.mpr (.inl h)
  unfold EdgeScan.next
  split
  · exact hkeep _
  dsimp only
  split
  · exact hkeep _
  split
  · exact hkeep _
  · exact hkeep _
  · exact h

theorem scanEdges_reports (h : ReportsStructural scan.findings) (edges : List (WorkflowEdge × Nat))
    : ReportsStructural (scanEdges graph scan edges).findings := by
  induction edges generalizing scan with
  | nil => exact h
  | cons entry rest ih => exact ih (next_reports h entry.1 entry.2)

theorem scanEdges_linked {edges : List (WorkflowEdge × Nat)}
    (h : ¬ ReportsStructural (scanEdges graph scan edges).findings) :
    ∀ edge ∈ edges.map Prod.fst, Linked graph edge := by
  induction edges generalizing scan with
  | nil => exact fun edge hmem => absurd hmem not_mem_nil
  | cons entry rest ih =>
    intro edge hmem
    rcases mem_cons.mp hmem with rfl | hmem
    · by_contra hnot
      exact h (scanEdges_reports (next_unlinked hnot) rest)
    · exact ih h edge hmem

/-- **Over a graph without cycles the loop reports nothing exactly when the edges are
distinct and each passes**, and it counts those that fit. -/
theorem scanEdges_follows (hacyclic : Acyclic (adjacency graph.edges))
    (hplain : ∀ edge ∈ graph.edges, PlainEdge edge) (edges : List (WorkflowEdge × Nat))
    (hsub : edges.map Prod.fst ⊆ graph.edges) (hfollows : Follows graph scan seen counted)
    (hseen : ∀ edge ∈ seen, PlainEdge edge) (hscan : ¬ ReportsStructural scan.findings) :
    (¬ ReportsStructural (scanEdges graph scan edges).findings ↔ (edges.map Prod.fst).Nodup
          ∧ ∀ edge ∈ edges.map Prod.fst, edge ∉ seen ∧ Passed graph edge)
      ∧ (¬ ReportsStructural (scanEdges graph scan edges).findings →
        Follows graph (scanEdges graph scan edges) (seen ++ edges.map Prod.fst)
          (counted ++ fitting graph (edges.map Prod.fst))) := by
  induction edges generalizing scan seen counted with
  | nil =>
    refine ⟨⟨fun _ => ⟨nodup_nil, fun edge hmem => absurd hmem not_mem_nil⟩,
      fun _ => hscan⟩, fun _ => ?_⟩
    rw [map_nil, append_nil, fitting, filter_nil, append_nil]
    exact hfollows
  | cons entry rest ih =>
    obtain ⟨edge, index⟩ := entry
    obtain ⟨hedge, hrest⟩ := cons_subset.mp hsub
    rcases next_follows hacyclic hplain hfollows hseen hedge index with
      ⟨hreports, hnot⟩ | ⟨hreports, hnext, hfresh, hpassed⟩
    · have hfinal : ReportsStructural
          (scanEdges graph (scan.next graph edge index) rest).findings :=
        scanEdges_reports hreports rest
      refine ⟨⟨fun h => absurd hfinal h, fun h => ?_⟩, fun h => absurd hfinal h⟩
      exact absurd (h.2 edge mem_cons_self) hnot
    have hseen' : ∀ e ∈ seen ++ [edge], PlainEdge e := by
      intro e he
      rcases mem_append.mp he with he | he
      · exact hseen e he
      · exact mem_singleton.mp he ▸ hplain edge hedge
    obtain ⟨hiff, hrun⟩ := ih hrest hnext hseen' (fun h => hscan (hreports.mp h))
    refine ⟨hiff.trans ⟨?_, ?_⟩, fun h => ?_⟩
    · rintro ⟨hnodup, hall⟩
      refine ⟨nodup_cons.mpr ⟨fun hmem => ?_, hnodup⟩, fun e he => ?_⟩
      · exact (hall edge hmem).1 (mem_append_right _ mem_cons_self)
      rcases mem_cons.mp he with rfl | he
      · exact ⟨hfresh, hpassed⟩
      · exact ⟨fun hold => (hall e he).1 (mem_append_left _ hold), (hall e he).2⟩
    · rintro ⟨hnodup, hall⟩
      obtain ⟨hnew, hnodup⟩ := nodup_cons.mp hnodup
      refine ⟨hnodup, fun e he => ?_⟩
      obtain ⟨hold, hpass⟩ := hall e (mem_cons_of_mem _ he)
      refine ⟨fun hmem => ?_, hpass⟩
      rcases mem_append.mp hmem with hmem | hmem
      · exact hold hmem
      · exact hnew (mem_singleton.mp hmem ▸ he)
    · have hlater := hrun h
      rw [append_assoc, append_assoc, fitting, fitting, ← filter_append] at hlater
      exact hlater

/-! ## The other checks -/

theorem entryFindings_eq_nil_iff :
    entryFindings graph = [] ↔ (graph.nodesById graph.entryNodeId).any isEntry = true
      ∧ (graph.nodes.filter isEntry).length = 1 := by
  have hsame : isTrigger = isEntry := funext isTrigger_eq
  unfold entryFindings
  rw [hsame, append_eq_nil_iff, unless_eq_nil_iff, unless_eq_nil_iff]

theorem count_portKey {edges : List WorkflowEdge} (id name : WorkflowEdge → String)
    (hplain : ∀ edge ∈ edges, Plain (id edge)) {nodeId port : String} (hid : Plain nodeId) :
    (edges.map fun edge => portKey (id edge) (name edge)).count (portKey nodeId port)
      = (edges.filter fun edge => id edge = nodeId ∧ name edge = port).length := by
  induction edges with
  | nil => rfl
  | cons edge edges ih =>
    have hrest := ih fun e he => hplain e (mem_cons_of_mem _ he)
    rw [map_cons, count_cons, hrest, filter_cons]
    by_cases h : id edge = nodeId ∧ name edge = port
    · rw [if_pos (decide_eq_true h), h.1, h.2, if_pos (beq_self_eq_true _), length_cons]
    have hne : portKey (id edge) (name edge) ≠ portKey nodeId port := fun heq =>
      h (portKey_injective (hplain edge mem_cons_self) hid heq)
    rw [if_neg (fun hd => h (of_decide_eq_true hd)), if_neg (fun hb => hne (eq_of_beq hb))]
    rfl

theorem portFindings_eq_nil_iff (hfollows : Follows graph scan seen counted)
    (hplain : ∀ edge ∈ counted, PlainEdge edge) {node : WorkflowNode} (hnode : Plain node.id) :
    portFindings scan node = [] ↔ ∀ definition, nodeDefinition? node.type = some definition →
      PortsFilled counted node.id definition := by
  have hinputs : ∀ port, scan.inputCounts.count (portKey node.id port)
      = edgesTo counted node.id port := by
    intro port
    rw [hfollows.inputs, edgesTo]
    exact count_portKey (fun e => e.targetNodeId) (fun e => e.targetPort)
      (fun e he => (hplain e he).target) hnode
  have houtputs : ∀ port, scan.outputCounts.count (portKey node.id port)
      = edgesFrom counted node.id port := by
    intro port
    rw [hfollows.outputs, edgesFrom]
    exact count_portKey (fun e => e.sourceNodeId) (fun e => e.sourcePort)
      (fun e he => (hplain e he).source) hnode
  have hin : ∀ port : String × PortDefinition, inputFindings scan.inputCounts node port = [] ↔
      (port.2.required = true → edgesTo counted node.id port.1 ≠ 0)
        ∧ tooMany port.2 (edgesTo counted node.id port.1) = false := by
    intro port
    unfold inputFindings
    rw [hinputs, append_eq_nil_iff, guard_eq_nil_iff, guard_eq_nil_iff, not_and, Bool.not_eq_true]
  have hout : ∀ port : String × PortDefinition, outputFindings scan.outputCounts node port = [] ↔
      tooMany port.2 (edgesFrom counted node.id port.1) = false := by
    intro port
    unfold outputFindings
    rw [houtputs, guard_eq_nil_iff, Bool.not_eq_true]
  unfold portFindings
  rw [catalogDefinition_eq]
  cases hdefinition : nodeDefinition? node.type with
  | none => exact ⟨fun _ definition h => (by cases h), fun _ => rfl⟩
  | some definition =>
    dsimp only [map_some, catalogItem]
    rw [append_eq_nil_iff, flatMap_eq_nil_iff, flatMap_eq_nil_iff]
    simp only [hin, hout, Option.some.injEq]
    constructor
    · rintro ⟨hi, ho⟩ _ rfl
      exact ⟨fun port hport => (hi port hport).1, fun port hport => (hi port hport).2, ho⟩
    · intro h
      obtain ⟨hrequired, hi, ho⟩ := h definition rfl
      exact ⟨fun port hport => ⟨hrequired port hport, hi port hport⟩, ho⟩

theorem hasCycle_iff : hasCycle graph = false ↔
    ∀ id ∈ nodeIds graph, Ends (adjacency graph.edges) id := by
  have hclosed : ∀ a ∈ nodeIds graph ++ graph.edges.map WorkflowEdge.targetNodeId,
      ∀ b ∈ adjacency graph.edges a,
        b ∈ nodeIds graph ++ graph.edges.map WorkflowEdge.targetNodeId := by
    intro a _ b hb
    obtain ⟨edge, hedge, _, rfl⟩ := leads_iff.mp hb
    exact mem_append_right _ (mem_map_of_mem hedge)
  have hlength : (nodeIds graph ++ graph.edges.map WorkflowEdge.targetNodeId).length
      ≤ graph.nodes.length + graph.edges.length := by
    simp only [nodeIds, length_append, length_map]
    omega
  rw [hasCycle, ← not_isSome, Bool.not_eq_false']
  exact search_isSome_iff hclosed (subset_append_left _ _) hlength

theorem cycleFindings_eq_nil_iff : cycleFindings graph = [] ↔ hasCycle graph = false := by
  unfold cycleFindings
  cases hasCycle graph with
  | false | true => simp

theorem unreachableFindings_eq_nil_iff : unreachableFindings graph = [] ↔ ∀ id ∈ nodeIds graph,
      ReflTransGen (Leads (adjacency graph.edges)) graph.entryNodeId id := by
  rw [unreachableFindings, map_eq_nil_iff, filter_eq_nil_iff]
  simp only [decide_eq_true_eq, not_not, nodeIds, List.forall_mem_map]
  refine forall₂_congr fun node _ => ?_
  exact mem_breadthFirst_iff rfl (fun _ _ => rfl) node.id

theorem outputIdFindings_eq_nil_iff : outputIdFindings graph = [] ↔ ∀ id ∈ graph.outputNodeIds,
      (definitionOf graph id).any NodeDefinition.terminal = true
        ∧ ∀ edge ∈ graph.edges, edge.sourceNodeId ≠ id := by
  have hterminal : ∀ id, ((graph.nodesById id).any fun node =>
      (catalogDefinition node.type).any NodeDefinition.terminal)
        = (definitionOf graph id).any NodeDefinition.terminal := by
    intro id
    rw [definitionOf]
    cases graph.nodesById id with
    | none => rfl
    | some node =>
      rw [any_some, bind_some, catalogDefinition_eq]
      cases nodeDefinition? node.type with
      | none | some _ => rfl
  rw [outputIdFindings, map_eq_nil_iff, filter_eq_nil_iff]
  refine forall₂_congr fun id _ => ?_
  rw [hterminal, Bool.or_eq_true, not_or, Bool.not_eq_true', Bool.not_eq_false, List.any_eq_true]
  refine and_congr_right fun _ => ?_
  constructor
  · exact fun h edge hedge heq => h ⟨edge, hedge, decide_eq_true heq⟩
  rintro h ⟨edge, hedge, heq⟩
  exact h edge hedge (of_decide_eq_true heq)

/-! ## The whole validation -/

theorem nodeFindings_ok_iff (lower : String → String) (node : WorkflowNode) :
    (∃ findings, nodeFindings lower node = .ok findings)
      ↔ inheritedProperties.contains node.type = false := by
  have hlisted : ∀ fields, requiredResources node.type = .ok fields →
      ∃ findings, nodeFindings lower node = .ok findings := by
    intro fields h
    unfold nodeFindings
    rw [h]
    exact ⟨_, rfl⟩
  constructor
  · rintro ⟨findings, h⟩
    unfold nodeFindings at h
    cases hresources : requiredResources node.type with
    | error e =>
      rw [hresources] at h
      cases h
    | ok fields =>
      unfold requiredResources at hresources
      split at hresources
      all_goals first
        | (rename_i htype; rw [htype]; decide)
        | (split at hresources
           · cases hresources
           · exact (Bool.not_eq_true _).mp ‹_›)
  · intro h
    have hfields : ∃ fields, requiredResources node.type = .ok fields := by
      unfold requiredResources
      rw [h]
      split
      all_goals exact ⟨_, rfl⟩
    obtain ⟨fields, hfields⟩ := hfields
    exact hlisted fields hfields

theorem nodeFindings_not_structural {node : WorkflowNode} {findings : List ValidationFinding}
    (h : nodeFindings lower node = .ok findings) : ¬ ReportsStructural findings := by
  have htype : "node_type_unsupported" ∉ structuralCodes := by decide
  have hconfig : "node_config_invalid" ∉ structuralCodes := by decide
  have hresource : "automation_resource_unavailable" ∉ structuralCodes := by decide
  unfold nodeFindings at h
  cases hresources : requiredResources node.type with
  | error e =>
    rw [hresources] at h
    cases h
  | ok fields =>
    rw [hresources] at h
    rw [← Except.ok.inj h]
    exact not_reports_of_code (forall_mem_append.mpr ⟨forall_mem_append.mpr
      ⟨forall_mem_guard htype, List.forall_mem_map.mpr fun _ _ => hresource⟩,
      List.forall_mem_map.mpr fun _ _ => hconfig⟩)

theorem mapM_nodeFindings (lower : String → String) (nodes : List WorkflowNode) :
    ((∀ node ∈ nodes, inheritedProperties.contains node.type = false) ∧
        ∃ perNode, nodes.mapM (nodeFindings lower) = .ok perNode
          ∧ ¬ ReportsStructural perNode.flatten) ∨
      (¬ (∀ node ∈ nodes, inheritedProperties.contains node.type = false) ∧
        ∃ e, nodes.mapM (nodeFindings lower) = .error e) := by
  induction nodes with
  | nil =>
    refine .inl ⟨fun node hmem => absurd hmem not_mem_nil, [], rfl, ?_⟩
    rintro ⟨finding, hmem, _⟩
    cases hmem
  | cons node nodes ih =>
    rw [mapM_cons]
    cases hnode : nodeFindings lower node with
    | error e =>
      refine .inr ⟨fun hall => ?_, e, rfl⟩
      obtain ⟨findings, hok⟩ := (nodeFindings_ok_iff lower node).mpr (hall node mem_cons_self)
      rw [hnode] at hok
      cases hok
    | ok findings =>
      have hplain := (nodeFindings_ok_iff lower node).mp ⟨findings, hnode⟩
      rcases ih with ⟨hall, perNode, hrun, hsilent⟩ | ⟨hnot, e, hrun⟩
      · refine .inl ⟨fun n hn => ?_, findings :: perNode, by rw [hrun]; rfl, ?_⟩
        · rcases mem_cons.mp hn with rfl | hn
          · exact hplain
          · exact hall n hn
        · rw [flatten_cons, reports_append, not_or]
          exact ⟨nodeFindings_not_structural hnode, hsilent⟩
      · refine .inr ⟨fun hall => hnot fun n hn => hall n (mem_cons_of_mem _ hn), e, ?_⟩
        rw [hrun]
        rfl

theorem structural_portFinding :
    ∀ finding ∈ graph.nodes.flatMap (portFindings scan), Structural finding := by
  have hcode : "edge_cardinality_invalid" ∈ structuralCodes := by decide
  refine forall_mem_flatMap.mpr fun node _ => ?_
  unfold portFindings
  split
  · nofun
  refine forall_mem_append.mpr ⟨forall_mem_flatMap.mpr fun port _ => ?_,
    forall_mem_flatMap.mpr fun port _ => forall_mem_guard ⟨rfl, hcode⟩⟩
  exact forall_mem_append.mpr ⟨forall_mem_guard ⟨rfl, hcode⟩, forall_mem_guard ⟨rfl, hcode⟩⟩

theorem structural_entryFinding : ∀ finding ∈ entryFindings graph, Structural finding := by
  have hcode : "graph_entry_invalid" ∈ structuralCodes := by decide
  exact forall_mem_append.mpr ⟨forall_mem_unless ⟨rfl, hcode⟩, forall_mem_unless ⟨rfl, hcode⟩⟩

theorem structural_cycleFinding : ∀ finding ∈ cycleFindings graph, Structural finding := by
  have hcode : "graph_cycle" ∈ structuralCodes := by decide
  exact forall_mem_guard ⟨rfl, hcode⟩

theorem structural_unreachableFinding :
    ∀ finding ∈ unreachableFindings graph, Structural finding := by
  have hcode : "graph_unreachable_node" ∈ structuralCodes := by decide
  exact List.forall_mem_map.mpr fun _ _ => ⟨rfl, hcode⟩

theorem structural_outputIdFinding : ∀ finding ∈ outputIdFindings graph, Structural finding := by
  have hcode : "graph_output_invalid" ∈ structuralCodes := by decide
  exact List.forall_mem_map.mpr fun _ _ => ⟨rfl, hcode⟩

theorem parts_iff (h : graph.Accepted) :
    (entryFindings graph = [] ∧ ¬ ReportsStructural (edgeScan graph).findings
      ∧ (∀ node ∈ graph.nodes, portFindings (edgeScan graph) node = [])
      ∧ cycleFindings graph = [] ∧ unreachableFindings graph = [] ∧ outputIdFindings graph = [])
      ↔ WellConnected graph ∧ Fits graph.firstRead := by
  have hplain := plainEdges h
  have hids : ∀ node ∈ graph.nodes, Plain node.id := fun node hnode =>
    plain_of_isNodeId (h.nodes node hnode).1
  have hstart : Follows graph .start [] [] := ⟨rfl, rfl, rfl, [], rfl, .nil, fun entry hmem =>
    absurd hmem not_mem_nil⟩
  have hnothing : ¬ ReportsStructural EdgeScan.start.findings := fun ⟨_, hmem, _⟩ =>
    absurd hmem not_mem_nil
  have hscan : Acyclic (adjacency graph.edges) →
      (¬ ReportsStructural (edgeScan graph).findings ↔ graph.edges.Nodup
          ∧ ∀ edge ∈ graph.edges, edge ∉ [] ∧ Passed graph edge)
        ∧ (¬ ReportsStructural (edgeScan graph).findings →
          Follows graph (edgeScan graph) graph.edges (fitting graph graph.edges)) := by
    intro hacyclic
    have hrun := scanEdges_follows hacyclic hplain graph.edges.zipIdx
      (by rw [zipIdx_map_fst]; exact List.Subset.refl _) hstart
      (fun edge hmem => absurd hmem not_mem_nil) hnothing
    rw [zipIdx_map_fst] at hrun
    exact hrun
  rw [entryFindings_eq_nil_iff, cycleFindings_eq_nil_iff, unreachableFindings_eq_nil_iff,
    outputIdFindings_eq_nil_iff]
  constructor
  · rintro ⟨⟨htrigger, hone⟩, hedges, hports, hcycle, hreached, hfinished⟩
    have hlinked : ∀ edge ∈ graph.edges, Linked graph edge := by
      have hall := scanEdges_linked hedges
      rwa [zipIdx_map_fst] at hall
    have hjoin : ∀ edge ∈ graph.edges, edge.sourceNodeId ∈ nodeIds graph
        ∧ edge.targetNodeId ∈ nodeIds graph := fun edge hedge => (hlinked edge hedge).joins
    have hacyclic := (acyclic_iff_ends hjoin).mpr (hasCycle_iff.mp hcycle)
    obtain ⟨hiff, hcount⟩ := hscan hacyclic
    obtain ⟨hnodup, hpassed⟩ := hiff.mp hedges
    have hcounted : ∀ edge ∈ fitting graph graph.edges, PlainEdge edge := fun edge hedge =>
      hplain edge (mem_filter.mp hedge).1
    have hfilled : ∀ node ∈ graph.nodes, ∀ definition, nodeDefinition? node.type = some definition →
          PortsFilled (fitting graph graph.edges) node.id definition := fun node hnode =>
      (portFindings_eq_nil_iff (hcount hedges) hcounted (hids node hnode)).mp (hports node hnode)
    have hwired : Wired graph.firstRead (fitting graph graph.edges) :=
      { acyclic := hacyclic
        distinct := hnodup
        sublist := filter_sublist
        judged := fun edge hedge => (hpassed edge hedge).2.carries
        counts := fun edge hedge hfits => mem_filter.mpr ⟨hedge, decide_eq_true hfits⟩
        filled := fun node hnode => hfilled node (mem_firstRead_nodes.mp hnode) }
    have hfits := hwired.fits
    have hall : fitting graph graph.edges = graph.edges :=
      filter_eq_self.mpr fun edge hedge => decide_eq_true (hfits edge hedge)
    rw [hall] at hfilled
    exact ⟨⟨htrigger, hone, hnodup, hlinked, hfilled, hacyclic, hreached, hfinished⟩, hfits⟩
  · rintro ⟨hconnected, hfits⟩
    obtain ⟨hiff, hcount⟩ := hscan hconnected.acyclic
    have hjoin : ∀ edge ∈ graph.edges, edge.sourceNodeId ∈ nodeIds graph
        ∧ edge.targetNodeId ∈ nodeIds graph :=
      fun edge hedge => (hconnected.linked edge hedge).joins
    have hedges : ¬ ReportsStructural (edgeScan graph).findings := by
      refine hiff.mpr ⟨hconnected.distinct, fun edge hedge => ⟨not_mem_nil,
        hconnected.linked edge hedge, ?_⟩⟩
      rw [hfits edge hedge]
      decide
    have hall : fitting graph graph.edges = graph.edges :=
      filter_eq_self.mpr fun edge hedge => decide_eq_true (hfits edge hedge)
    have hfollows := hcount hedges
    rw [hall] at hfollows
    refine ⟨⟨hconnected.entry, hconnected.oneEntry⟩, hedges, fun node hnode => ?_,
      hasCycle_iff.mpr ((acyclic_iff_ends hjoin).mp hconnected.acyclic), hconnected.reached,
      hconnected.finished⟩
    exact (portFindings_eq_nil_iff hfollows hplain (hids node hnode)).mpr
      (hconnected.filled node hnode)

/-- **The editor throws over an inherited property, and otherwise reports nothing
structural exactly about a well-connected graph whose edges all fit with every id read
as its first node.** -/
theorem validateWorkflowClient_structure (lower : String → String) (h : graph.Accepted) :
    ((∀ node ∈ graph.nodes, inheritedProperties.contains node.type = false) ∧
        ∃ result, validateWorkflowClient lower graph = .ok result
          ∧ (¬ ReportsStructural result.findings ↔ WellConnected graph ∧ Fits graph.firstRead)) ∨
      (¬ (∀ node ∈ graph.nodes, inheritedProperties.contains node.type = false) ∧
        ∃ e, validateWorkflowClient lower graph = .error e) := by
  unfold validateWorkflowClient
  rcases mapM_nodeFindings lower graph.nodes with
    ⟨hall, perNode, hrun, hsilent⟩ | ⟨hnot, e, hrun⟩
  · rw [hrun]
    refine .inl ⟨hall, _, rfl, ?_⟩
    rw [← parts_iff h]
    simp only [reports_append, not_or]
    rw [not_reports_iff structural_entryFinding, not_reports_iff structural_portFinding,
      not_reports_iff structural_cycleFinding, not_reports_iff structural_unreachableFinding,
      not_reports_iff structural_outputIdFinding, flatMap_eq_nil_iff]
    constructor
    · rintro ⟨hentry, _, hrest⟩
      exact ⟨hentry, hrest⟩
    · rintro ⟨hentry, hrest⟩
      exact ⟨hentry, hsilent, hrest⟩
  · rw [hrun]
    exact .inr ⟨hnot, e, rfl⟩

/-! ## Agreement -/

/-- The editor reports on the graph, and reports a structural error exactly when the
service does. -/
def Mirrors (lower : String → String) (E : DefinitionEnv) (graph : WorkflowGraphV1) : Prop :=
  ∃ result, validateWorkflowClient lower graph = .ok result
    ∧ (ReportsStructural result.findings ↔ ReportsStructural (validateGraph E graph).findings)

theorem inherited_iff {type : String} (h : isSchemaName type = true) :
    inheritedProperties.contains type = false ↔ type ≠ "constructor" := by
  have hall : ∀ name ∈ inheritedProperties, isSchemaName name = true → name = "constructor" := by
    decide
  have hmem : "constructor" ∈ inheritedProperties := by decide
  rw [← Bool.not_eq_true, contains_iff_mem]
  refine not_congr ⟨fun hin => hall type hin h, ?_⟩
  rintro rfl
  exact hmem

/-- **The editor mirrors the service exactly where no step is a `constructor` and, if the
graph is well connected, the first and the last node of every id fit its edges alike.** -/
theorem mirrors_iff (h : graph.Accepted) : Mirrors lower E graph ↔
    (∀ node ∈ graph.nodes, node.type ≠ "constructor")
      ∧ (WellConnected graph → (Fits graph ↔ Fits graph.firstRead)) := by
  have htypes : (∀ node ∈ graph.nodes, inheritedProperties.contains node.type = false)
      ↔ ∀ node ∈ graph.nodes, node.type ≠ "constructor" :=
    forall₂_congr fun node hnode => inherited_iff (h.nodes node hnode).2
  have hserver : ¬ ReportsStructural (validateGraph E graph).findings
      ↔ WellConnected graph ∧ Fits graph := validateGraph_structure
  rw [← htypes]
  rcases validateWorkflowClient_structure lower h with
    ⟨hall, result, hresult, hclient⟩ | ⟨hnot, e, herror⟩
  · constructor
    · rintro ⟨result', hresult', hsame⟩
      rw [hresult, Except.ok.injEq] at hresult'
      rw [← hresult', ← not_iff_not, hclient, hserver] at hsame
      refine ⟨hall, fun hconnected => ⟨fun hfits => ?_, fun hfits => ?_⟩⟩
      · exact (hsame.mpr ⟨hconnected, hfits⟩).2
      · exact (hsame.mp ⟨hconnected, hfits⟩).2
    · rintro ⟨_, hagree⟩
      refine ⟨result, hresult, not_iff_not.mp ?_⟩
      rw [hclient, hserver]
      exact and_congr_right fun hconnected => (hagree hconnected).symm
  · constructor
    · rintro ⟨result, hresult, _⟩
      rw [herror] at hresult
      cases hresult
    · rintro ⟨hall, _⟩
      exact absurd hall hnot

/-! ## Graphs the editor does not mirror -/

/-- A step whose type every object has a property of. -/
def constructorStep : WorkflowGraphV1 where
  entryNodeId := "start"
  nodes := [⟨"start", "new_source_item", []⟩, ⟨"step", "constructor", []⟩]
  edges := []
  outputNodeIds := ["start"]
  metadata := ⟨[]⟩

/-- The first step of an id has an output of another name than the last one. -/
def repeatedId : WorkflowGraphV1 where
  entryNodeId := "start"
  nodes :=
    [⟨"start", "manual", []⟩, ⟨"step", "filter_content", []⟩, ⟨"step", "research", []⟩,
     ⟨"write", "generate_content_pack", []⟩, ⟨"save", "save_drafts", []⟩]
  edges :=
    [⟨"start", "story", "step", "story"⟩, ⟨"step", "story", "write", "story"⟩,
     ⟨"write", "drafts", "save", "drafts"⟩]
  outputNodeIds := ["save"]
  metadata := ⟨[]⟩

/-- **Two graphs the schema accepts are not mirrored.** Over the first the editor throws;
the second, which the service finds nothing structural wrong with, it calls invalid. -/
theorem constructor_and_repeated_id_unmirrored :
    (constructorStep.Accepted ∧ ¬ Mirrors id (plainEnv fun _ => "") constructorStep)
      ∧ repeatedId.Accepted
      ∧ ¬ ReportsStructural (validateGraph (plainEnv fun _ => "") repeatedId).findings
      ∧ ¬ Mirrors id (plainEnv fun _ => "") repeatedId := by
  have hthrows : validateWorkflowClient id constructorStep = .error .notIterable := rfl
  have hsilent :
      ¬ ReportsStructural (validateGraph (plainEnv fun _ => "") repeatedId).findings := by
    decide +kernel
  have haccepted : repeatedId.Accepted := by constructor <;> decide
  have hunfit : ¬ Fits repeatedId.firstRead := by decide +kernel
  have hreports : ∀ result, validateWorkflowClient id repeatedId = .ok result →
      ReportsStructural result.findings := by
    intro result hresult
    rcases validateWorkflowClient_structure id haccepted with
      ⟨_, result', hresult', hclient⟩ | ⟨_, e, herror⟩
    · rw [hresult, Except.ok.injEq] at hresult'
      rw [hresult']
      by_contra hnot
      exact hunfit (hclient.mp hnot).2
    · rw [hresult] at herror
      cases herror
  refine ⟨⟨by constructor <;> decide, ?_⟩, haccepted, hsilent, ?_⟩
  · rintro ⟨result, hresult, _⟩
    rw [hthrows] at hresult
    cases hresult
  · rintro ⟨result, hresult, hsame⟩
    exact hsilent (hsame.mp (hreports result hresult))

def savedDrafts : WorkflowGraphV1 where
  entryNodeId := "start"
  nodes :=
    [⟨"start", "manual", []⟩, ⟨"write", "generate_content_pack", []⟩, ⟨"save", "save_drafts", []⟩]
  edges := [⟨"start", "story", "write", "story"⟩, ⟨"write", "drafts", "save", "drafts"⟩]
  outputNodeIds := ["save"]
  metadata := ⟨[]⟩

theorem savedDrafts_mirrored : Mirrors id (plainEnv fun _ => "") savedDrafts :=
  (mirrors_iff (by constructor <;> decide)).mpr
    ⟨by decide, fun _ => iff_of_true (by decide +kernel) (by decide +kernel)⟩

end NewsCraft.Automations.Client
