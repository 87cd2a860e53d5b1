import NewsCraft.Automations.StructuralFindings

/-!
# What the service reports about a graph's structure

`validate_graph` reports an error of a structural code exactly when the graph is not
well connected or some edge does not carry what its target takes.
-/

namespace NewsCraft.Automations

open Lib GraphSearch Relation List Option

variable {E : DefinitionEnv} {graph : WorkflowGraphV1}

/-! ## Edges -/

structure Taken (graph : WorkflowGraphV1) (seen : List WorkflowEdge) (cache : ShapeCache)
    (edge : WorkflowEdge) : Prop where
  fresh : edge ∉ seen
  linked : Linked graph edge
  joins : edge.sourceNodeId ≠ edge.targetNodeId
  carries : (edgeCompatibility graph edge cache).1 ≠ .incompatible

theorem structural_edgeFinding {code message recoveryAction : String} {nodeId : Option String}
    {index : Nat} (h : code ∈ structuralCodes) :
    Structural (edgeFinding code message nodeId index recoveryAction) :=
  ⟨rfl, h⟩

/-- **The loop's body takes an edge or reports it.** -/
theorem judgeEdge_taken (graph : WorkflowGraphV1) (seen : List WorkflowEdge) (cache : ShapeCache) (index : Nat)
    (edge : WorkflowEdge) :
    (∃ finding later, judgeEdge graph seen cache index edge = (.rejected finding, later)
        ∧ Structural finding ∧ ¬ Taken graph seen cache edge) ∨
      ∃ warning, judgeEdge graph seen cache index edge
          = (.accepted warning, (edgeCompatibility graph edge cache).2)
        ∧ (∀ finding ∈ warning, finding.severity = .warning) ∧ Taken graph seen cache edge := by
  unfold judgeEdge
  by_cases hseen : edge ∈ seen
  · rw [if_pos hseen]
    exact .inl ⟨_, _, rfl, structural_edgeFinding (by decide), fun h => h.fresh hseen⟩
  rw [if_neg hseen]
  cases hsource : graph.nodesById edge.sourceNodeId with
  | none =>
    refine .inl ⟨_, _, rfl, structural_edgeFinding (by decide), fun h => ?_⟩
    have hsome := h.linked.1
    rw [definitionOf, hsource] at hsome
    cases hsome
  | some source =>
  cases htarget : graph.nodesById edge.targetNodeId with
  | none =>
    refine .inl ⟨_, _, rfl, structural_edgeFinding (by decide), fun h => ?_⟩
    have hany := h.linked.2
    rw [definitionOf, htarget] at hany
    cases hany
  | some target =>
  have hsourceId := (nodesById_some hsource).2
  have htargetId := (nodesById_some htarget).2
  dsimp only
  by_cases hself : source.id = target.id
  · rw [if_pos hself]
    refine .inl ⟨_, _, rfl, structural_edgeFinding (by decide), fun h => ?_⟩
    exact h.joins (hsourceId.symm.trans (hself.trans htargetId))
  rw [if_neg hself]
  have hjoins : edge.sourceNodeId ≠ edge.targetNodeId := fun heq =>
    hself (hsourceId.trans (heq.trans htargetId.symm))
  by_cases hentry : (nodeDefinition? target.type).any NodeDefinition.entry = true
  · rw [if_pos hentry]
    refine .inl ⟨_, _, rfl, structural_edgeFinding (by decide), fun h => ?_⟩
    obtain ⟨definition, hdefinition, hnot⟩ := h.linked.target
    rw [definitionOf, htarget, bind_some] at hdefinition
    rw [hdefinition, any_some, hnot] at hentry
    cases hentry
  rw [if_neg hentry]
  cases hbefore : nodeDefinition? source.type with
  | none =>
    refine .inl ⟨_, _, rfl, structural_edgeFinding (by decide), fun h => ?_⟩
    have hsome := h.linked.1
    rw [definitionOf, hsource, bind_some, hbefore] at hsome
    cases hsome
  | some before =>
  cases hafter : nodeDefinition? target.type with
  | none =>
    refine .inl ⟨_, _, rfl, structural_edgeFinding (by decide), fun h => ?_⟩
    have hany := h.linked.2
    rw [definitionOf, htarget, bind_some, hafter] at hany
    cases hany
  | some after =>
  have hsourceDefinition : definitionOf graph edge.sourceNodeId = some before := by
    rw [definitionOf, hsource, bind_some, hbefore]
  have htargetDefinition : definitionOf graph edge.targetNodeId = some after := by
    rw [definitionOf, htarget, bind_some, hafter]
  have hlinked : Linked graph edge := by
    refine ⟨by rw [hsourceDefinition]; rfl, ?_⟩
    rw [hafter, any_some, Bool.not_eq_true] at hentry
    rw [htargetDefinition, any_some, hentry]
    rfl
  dsimp only
  cases hout : before.output? edge.sourcePort with
  | none =>
    refine .inl ⟨_, _, rfl, structural_edgeFinding (by decide), fun h => h.carries ?_⟩
    unfold edgeCompatibility
    rw [hsourceDefinition, htargetDefinition]
    simp only [hout]
  | some outPort =>
  cases hin : after.input? edge.targetPort with
  | none =>
    refine .inl ⟨_, _, rfl, structural_edgeFinding (by decide), fun h => h.carries ?_⟩
    unfold edgeCompatibility
    rw [hsourceDefinition, htargetDefinition]
    simp only [hout, hin]
  | some port =>
  have hverdict : edgeCompatibility graph edge cache = (matchInputContract
          (outputShape graph graph.nodes.length [] cache edge.sourceNodeId edge.sourcePort).1
          (port.inputContract.or after.inputContract),
        (outputShape graph graph.nodes.length [] cache edge.sourceNodeId edge.sourcePort).2) := by
    unfold edgeCompatibility
    rw [hsourceDefinition, htargetDefinition]
    simp only [hout, hin]
  have htaken : (edgeCompatibility graph edge cache).1 ≠ .incompatible →
      Taken graph seen cache edge := fun h => ⟨hseen, hlinked, hjoins, h⟩
  dsimp only
  rw [hverdict] at htaken ⊢
  cases hmatch : matchInputContract
      (outputShape graph graph.nodes.length [] cache edge.sourceNodeId edge.sourcePort).1
      (port.inputContract.or after.inputContract) with
  | incompatible =>
    refine .inl ⟨_, _, rfl, structural_edgeFinding (by decide), fun h => h.carries ?_⟩
    rw [hverdict, hmatch]
  | incomplete =>
    rw [hmatch] at htaken
    have hopen : CompatibilityStatus.incomplete ≠ .incompatible := by decide
    refine .inr ⟨_, rfl, fun finding hfinding => ?_, htaken hopen⟩
    rw [← Option.some.inj hfinding]
    rfl
  | compatible =>
    rw [hmatch] at htaken
    have hfits : CompatibilityStatus.compatible ≠ .incompatible := by decide
    refine .inr ⟨_, rfl, fun finding hfinding => ?_, htaken hfits⟩
    cases hfinding

theorem not_reports_warning {warning : Option ValidationFinding}
    (h : ∀ finding ∈ warning, finding.severity = .warning) :
    ¬ ReportsStructural warning.toList := by
  rintro ⟨finding, hmem, herror, _⟩
  rw [h finding (mem_toList.mp hmem)] at herror
  cases herror

theorem scanEdges_reports {scan : EdgeScan} (h : ReportsStructural scan.findings)
    (edges : List (WorkflowEdge × Nat)) :
    ReportsStructural (scanEdges graph scan edges).findings := by
  obtain ⟨finding, hmem, hstructural⟩ := h
  exact ⟨finding, scanEdges_findings_subset scan edges hmem, hstructural⟩

theorem next_taken (graph : WorkflowGraphV1) (scan : EdgeScan) (edge : WorkflowEdge) (index : Nat) :
    (ReportsStructural (scan.next graph edge index).findings
        ∧ ¬ Taken graph scan.seen scan.cache edge) ∨
      ((ReportsStructural (scan.next graph edge index).findings ↔ ReportsStructural scan.findings)
        ∧ (scan.next graph edge index).accepted = scan.accepted ++ [edge]
        ∧ (scan.next graph edge index).seen = scan.seen ++ [edge]
        ∧ (scan.next graph edge index).cache = (edgeCompatibility graph edge scan.cache).2
        ∧ Taken graph scan.seen scan.cache edge) := by
  unfold EdgeScan.next
  rcases judgeEdge_taken graph scan.seen scan.cache index edge with
    ⟨finding, later, hjudge, hstructural, hnot⟩ | ⟨warning, hjudge, hwarning, htaken⟩
  · rw [hjudge]
    exact .inl ⟨⟨finding, mem_append_right _ mem_cons_self, hstructural⟩, hnot⟩
  · rw [hjudge]
    refine .inr ⟨?_, rfl, rfl, rfl, htaken⟩
    rw [reports_append, or_iff_left (not_reports_warning hwarning)]

/-- **A loop that reports nothing has taken every edge.** -/
theorem scanEdges_taken {P : ShapeCache → Prop}
    (hP : ∀ cache edge, P cache → P (edgeCompatibility graph edge cache).2)
    (edges : List (WorkflowEdge × Nat)) (scan : EdgeScan) (hscan : P scan.cache)
    (h : ¬ ReportsStructural (scanEdges graph scan edges).findings) :
    (scanEdges graph scan edges).accepted = scan.accepted ++ edges.map Prod.fst
      ∧ (edges.map Prod.fst).Nodup ∧ ∀ edge ∈ edges.map Prod.fst,
        edge ∉ scan.seen ∧ ∃ seen cache, P cache ∧ Taken graph seen cache edge := by
  induction edges generalizing scan with
  | nil =>
    exact ⟨(append_nil _).symm, nodup_nil, fun edge hmem => absurd hmem not_mem_nil⟩
  | cons entry rest ih =>
    obtain ⟨edge, index⟩ := entry
    rcases next_taken graph scan edge index with
      ⟨hreports, _⟩ | ⟨_, haccepted, hseen, hcache, htaken⟩
    · exact absurd (scanEdges_reports hreports rest) h
    obtain ⟨hrest, hnodup, hall⟩ := ih (scan.next graph edge index)
      (hcache ▸ hP scan.cache edge hscan) h
    rw [hseen] at hall
    refine ⟨?_, nodup_cons.mpr ⟨fun hmem => ?_, hnodup⟩, fun e hmem => ?_⟩
    · unfold scanEdges
      rw [hrest, haccepted, append_assoc]
      rfl
    · exact (hall edge hmem).1 (mem_append_right _ mem_cons_self)
    rcases mem_cons.mp hmem with rfl | hmem
    · exact ⟨htaken.fresh, scan.seen, scan.cache, hscan, htaken⟩
    · exact ⟨fun hold => (hall e hmem).1 (mem_append_left _ hold), (hall e hmem).2⟩

theorem scanEdges_takes {P : ShapeCache → Prop}
    (hP : ∀ cache edge, P cache → P (edgeCompatibility graph edge cache).2)
    (edges : List (WorkflowEdge × Nat)) (scan : EdgeScan) (hscan : P scan.cache)
    (hnone : ¬ ReportsStructural scan.findings) (hnodup : (edges.map Prod.fst).Nodup)
    (h : ∀ edge ∈ edges.map Prod.fst, edge ∉ scan.seen
      ∧ ∀ seen cache, P cache → edge ∉ seen → Taken graph seen cache edge) :
    ¬ ReportsStructural (scanEdges graph scan edges).findings
      ∧ (scanEdges graph scan edges).accepted = scan.accepted ++ edges.map Prod.fst := by
  induction edges generalizing scan with
  | nil => exact ⟨hnone, (append_nil _).symm⟩
  | cons entry rest ih =>
    obtain ⟨edge, index⟩ := entry
    obtain ⟨hfresh, htake⟩ := h edge mem_cons_self
    rcases next_taken graph scan edge index with
      ⟨_, hnot⟩ | ⟨hreports, haccepted, hseen, hcache, _⟩
    · exact absurd (htake scan.seen scan.cache hscan hfresh) hnot
    obtain ⟨hedge, hnodup⟩ := nodup_cons.mp hnodup
    obtain ⟨hfinal, hlist⟩ := ih (scan.next graph edge index)
      (hcache ▸ hP scan.cache edge hscan) (fun hr => hnone (hreports.mp hr)) hnodup
      (fun e hmem => by
        refine ⟨fun hold => ?_, (h e (mem_cons_of_mem _ hmem)).2⟩
        rw [hseen] at hold
        rcases mem_append.mp hold with hold | hold
        · exact (h e (mem_cons_of_mem _ hmem)).1 hold
        · exact hedge (mem_singleton.mp hold ▸ hmem))
    refine ⟨hfinal, ?_⟩
    unfold scanEdges
    rw [hlist, haccepted, append_assoc]
    rfl

/-! ## The other checks -/

theorem entryFindings_eq_nil_iff :
    entryFindings graph = [] ↔ (graph.nodesById graph.entryNodeId).any isEntry = true
      ∧ (graph.nodes.filter isEntry).length = 1 := by
  unfold entryFindings
  rw [append_eq_nil_iff, unless_eq_nil_iff, unless_eq_nil_iff]

variable {edges : List WorkflowEdge} {node : WorkflowNode}

theorem inputFindings_eq_nil_iff {port : String × PortDefinition} :
    inputFindings edges node port = [] ↔ (port.2.required = true → edgesTo edges node.id port.1 ≠ 0)
        ∧ tooMany port.2 (edgesTo edges node.id port.1) = false := by
  unfold inputFindings
  rw [← edgesTo, append_eq_nil_iff, guard_eq_nil_iff, guard_eq_nil_iff, not_and, Bool.not_eq_true]

theorem outputFindings_eq_nil_iff {port : String × PortDefinition} :
    outputFindings edges node port = [] ↔ tooMany port.2 (edgesFrom edges node.id port.1) = false := by
  unfold outputFindings
  rw [← edgesFrom, guard_eq_nil_iff, Bool.not_eq_true]

theorem portFindings_eq_nil_iff :
    portFindings edges node = [] ↔ ∀ definition, nodeDefinition? node.type = some definition →
      PortsFilled edges node.id definition := by
  unfold portFindings
  cases hdefinition : nodeDefinition? node.type with
  | none => exact ⟨fun _ definition h => (by cases h), fun _ => rfl⟩
  | some definition =>
    rw [append_eq_nil_iff, flatMap_eq_nil_iff, flatMap_eq_nil_iff]
    simp only [inputFindings_eq_nil_iff, outputFindings_eq_nil_iff, Option.some.injEq]
    constructor
    · rintro ⟨hin, hout⟩ _ rfl
      exact ⟨fun port hport => (hin port hport).1, fun port hport => (hin port hport).2, hout⟩
    · intro h
      obtain ⟨hrequired, hinputs, houtputs⟩ := h definition rfl
      exact ⟨fun port hport => ⟨hrequired port hport, hinputs port hport⟩, houtputs⟩

theorem sortStrings_eq_nil_iff {values : List String} : sortStrings values = [] ↔ values = [] := by
  unfold sortStrings
  rw [← length_eq_zero_iff, length_insertionSort, length_eq_zero_iff]

theorem cycleFindings_eq_nil_iff (hjoin : ∀ edge ∈ graph.edges, edge.sourceNodeId ∈ nodeIds graph
      ∧ edge.targetNodeId ∈ nodeIds graph) :
    cycleFindings graph graph.edges = [] ↔ Acyclic (adjacency graph.edges) := by
  have hclosed : ∀ a ∈ (nodeIds graph).eraseDups, ∀ b ∈ adjacency graph.edges a,
      b ∈ (nodeIds graph).eraseDups := by
    intro a _ b hb
    obtain ⟨edge, hedge, _, rfl⟩ := leads_iff.mp hb
    exact mem_eraseDups.mpr (hjoin edge hedge).2
  have hnone : cycleFindings graph graph.edges = []
      ↔ cycleNodes (adjacency graph.edges) (nodeIds graph).eraseDups = [] := by
    rw [← sortStrings_eq_nil_iff, cycleFindings]
    cases sortStrings (cycleNodes (adjacency graph.edges) (nodeIds graph).eraseDups) with
    | nil => exact ⟨fun _ => rfl, fun _ => rfl⟩
    | cons first rest => exact ⟨fun h => (by cases h), fun h => (by cases h)⟩
  rw [hnone, cycleNodes_eq_nil_iff hclosed, acyclic_iff_ends hjoin]
  simp only [mem_eraseDups]

theorem unreachableFindings_eq_nil_iff
    (hentry : (graph.nodesById graph.entryNodeId).any isEntry = true)
    (hjoin : ∀ edge ∈ graph.edges, edge.targetNodeId ∈ nodeIds graph) :
    unreachableFindings graph graph.edges = [] ↔ ∀ id ∈ nodeIds graph,
      ReflTransGen (Leads (adjacency graph.edges)) graph.entryNodeId id := by
  have hsome : ∀ id ∈ nodeIds graph, (graph.nodesById id).isSome = true := by
    intro id hid
    obtain ⟨node, hnode, rfl⟩ := mem_map.mp hid
    rw [WorkflowGraphV1.nodesById, find?_isSome]
    exact ⟨node, mem_reverse.mpr hnode, decide_eq_true rfl⟩
  have hstart : (graph.nodesById graph.entryNodeId).isSome = true := by
    cases hfound : graph.nodesById graph.entryNodeId with
    | none =>
      rw [hfound] at hentry
      cases hentry
    | some entry => rfl
  rw [unreachableFindings, map_eq_nil_iff, sortStrings_eq_nil_iff, filter_eq_nil_iff]
  simp only [mem_eraseDups, decide_eq_true_eq, not_not]
  refine forall₂_congr fun id _ => ?_
  exact mem_breadthFirst_iff hstart (fun edge hedge => hsome _ (hjoin edge hedge)) id

theorem adjacency_eq_nil_iff {id : String} :
    adjacency edges id = [] ↔ ∀ edge ∈ edges, edge.sourceNodeId ≠ id := by
  rw [adjacency, map_eq_nil_iff, filter_eq_nil_iff]
  simp only [decide_eq_true_eq, ne_eq]

theorem outputIdFindings_eq_nil_iff :
    outputIdFindings graph graph.edges = [] ↔ ∀ id ∈ graph.outputNodeIds,
      (definitionOf graph id).any NodeDefinition.terminal = true
        ∧ ∀ edge ∈ graph.edges, edge.sourceNodeId ≠ id := by
  rw [outputIdFindings, map_eq_nil_iff, filter_eq_nil_iff]
  refine forall₂_congr fun id _ => ?_
  rw [← definitionOf, ← adjacency_eq_nil_iff]
  by_cases h : (definitionOf graph id).any NodeDefinition.terminal = true
  · simp [h]
  · simp [h]

/-! ## Findings of other codes -/

theorem duplicateFindings_not_structural : ¬ ReportsStructural (duplicateFindings graph) := by
  have hother : "node_config_invalid" ∉ structuralCodes := by decide
  exact not_reports_of_code (forall_mem_map.mpr fun _ _ => hother)

theorem layoutFindings_not_structural : ¬ ReportsStructural (layoutFindings graph) := by
  have hother : "node_config_invalid" ∉ structuralCodes := by decide
  exact not_reports_of_code (forall_mem_map.mpr fun _ _ => hother)

theorem publishFindings_not_structural {accepted : List WorkflowEdge} :
    ¬ ReportsStructural (publishFindings graph accepted) := by
  have hother : "automation_activation_invalid" ∉ structuralCodes := by decide
  exact not_reports_of_code (forall_mem_map.mpr fun _ _ => hother)

theorem configFindings_not_structural :
    ¬ ReportsStructural (graph.nodes.flatMap (validateNodeConfig E)) := by
  have htype : "node_type_unsupported" ∉ structuralCodes := by decide
  have hconfig : "node_config_invalid" ∉ structuralCodes := by decide
  have hresource : "automation_resource_unavailable" ∉ structuralCodes := by decide
  refine not_reports_of_code (forall_mem_flatMap.mpr fun node _ => ?_)
  unfold validateNodeConfig
  split
  · exact forall_mem_singleton.mpr htype
  · dsimp only
    split
    · exact forall_mem_append.mpr
        ⟨forall_mem_map.mpr fun _ _ => hconfig, forall_mem_map.mpr fun _ _ => hconfig⟩
    · exact forall_mem_append.mpr
        ⟨forall_mem_map.mpr fun _ _ => hconfig, forall_mem_map.mpr fun _ _ => hresource⟩

/-! ## The whole validation -/

theorem structural_portFinding :
    ∀ finding ∈ graph.nodes.flatMap (portFindings edges), Structural finding := by
  have hcode : "edge_cardinality_invalid" ∈ structuralCodes := by decide
  refine forall_mem_flatMap.mpr fun node _ => ?_
  unfold portFindings
  split
  · nofun
  refine forall_mem_append.mpr ⟨forall_mem_flatMap.mpr fun port _ => ?_,
    forall_mem_flatMap.mpr fun port _ => forall_mem_guard ⟨rfl, hcode⟩⟩
  exact forall_mem_append.mpr ⟨forall_mem_guard ⟨rfl, hcode⟩, forall_mem_guard ⟨rfl, hcode⟩⟩

theorem structural_entryFinding : ∀ finding ∈ entryFindings graph, Structural finding := by
  have hcode : "graph_entry_invalid" ∈ structuralCodes := by decide
  exact forall_mem_append.mpr ⟨forall_mem_unless ⟨rfl, hcode⟩, forall_mem_unless ⟨rfl, hcode⟩⟩

theorem structural_cycleFinding : ∀ finding ∈ cycleFindings graph edges, Structural finding := by
  have hcode : "graph_cycle" ∈ structuralCodes := by decide
  intro finding hmem
  unfold cycleFindings at hmem
  split at hmem
  · cases hmem
  rw [mem_singleton.mp hmem]
  exact ⟨rfl, hcode⟩

theorem structural_unreachableFinding :
    ∀ finding ∈ unreachableFindings graph edges, Structural finding := by
  have hcode : "graph_unreachable_node" ∈ structuralCodes := by decide
  exact forall_mem_map.mpr fun _ _ => ⟨rfl, hcode⟩

theorem structural_outputIdFinding :
    ∀ finding ∈ outputIdFindings graph edges, Structural finding := by
  have hcode : "graph_output_invalid" ∈ structuralCodes := by decide
  exact forall_mem_map.mpr fun _ _ => ⟨rfl, hcode⟩

theorem validateGraph_parts : ¬ ReportsStructural (validateGraph E graph).findings ↔
    entryFindings graph = [] ∧ ¬ ReportsStructural (edgeScan graph).findings
      ∧ (∀ node ∈ graph.nodes, portFindings (edgeScan graph).accepted node = [])
      ∧ cycleFindings graph (edgeScan graph).accepted = []
      ∧ unreachableFindings graph (edgeScan graph).accepted = []
      ∧ outputIdFindings graph (edgeScan graph).accepted = [] := by
  unfold validateGraph graphFindings
  simp only [reports_append, not_or]
  rw [not_reports_iff structural_entryFinding, not_reports_iff structural_portFinding,
    not_reports_iff structural_cycleFinding, not_reports_iff structural_unreachableFinding,
    not_reports_iff structural_outputIdFinding, flatMap_eq_nil_iff]
  constructor
  · rintro ⟨_, _, _, hentry, hedges, hports, hcycle, hunreachable, houtputs, _⟩
    exact ⟨hentry, hedges, hports, hcycle, hunreachable, houtputs⟩
  · rintro ⟨hentry, hedges, hports, hcycle, hunreachable, houtputs⟩
    exact ⟨duplicateFindings_not_structural, configFindings_not_structural,
      layoutFindings_not_structural, hentry, hedges, hports, hcycle, hunreachable, houtputs,
      publishFindings_not_structural⟩

theorem goodShapes_next (hacyclic : Acyclic (adjacency graph.edges)) (cache : ShapeCache)
    (edge : WorkflowEdge) (h : GoodShapes graph cache) :
    GoodShapes graph (edgeCompatibility graph edge cache).2 :=
  (edgeCompatibility_status hacyclic h edge).2

/-- **The service reports nothing structural exactly about a well-connected graph whose
edges all fit.** -/
theorem validateGraph_structure : ¬ ReportsStructural (validateGraph E graph).findings
    ↔ WellConnected graph ∧ Fits graph := by
  rw [validateGraph_parts]
  constructor
  · rintro ⟨hentry, hedges, hports, hcycle, hunreachable, houtputs⟩
    obtain ⟨haccepted, hnodup, hall⟩ := scanEdges_taken (P := fun _ => True)
      (fun _ _ _ => trivial) graph.edges.zipIdx ⟨[], [], [], []⟩ trivial hedges
    rw [nil_append, zipIdx_map_fst, ← edgeScan] at haccepted
    rw [zipIdx_map_fst] at hnodup hall
    have hlinked : ∀ edge ∈ graph.edges, Linked graph edge := fun edge hedge => by
      obtain ⟨_, seen, cache, _, htaken⟩ := hall edge hedge
      exact htaken.linked
    have hjoin : ∀ edge ∈ graph.edges, edge.sourceNodeId ∈ nodeIds graph
        ∧ edge.targetNodeId ∈ nodeIds graph := fun edge hedge => (hlinked edge hedge).joins
    rw [haccepted] at hports hcycle hunreachable houtputs
    obtain ⟨htrigger, hone⟩ := entryFindings_eq_nil_iff.mp hentry
    have hacyclic := (cycleFindings_eq_nil_iff hjoin).mp hcycle
    have hfilled : ∀ node ∈ graph.nodes, ∀ definition, nodeDefinition? node.type = some definition →
          PortsFilled graph.edges node.id definition :=
      fun node hnode => portFindings_eq_nil_iff.mp (hports node hnode)
    obtain ⟨_, _, hgood⟩ := scanEdges_taken (goodShapes_next hacyclic) graph.edges.zipIdx
      ⟨[], [], [], []⟩ .nil hedges
    rw [zipIdx_map_fst] at hgood
    have hwired : Wired graph graph.edges :=
      { acyclic := hacyclic
        distinct := hnodup
        sublist := List.Sublist.refl _
        judged := fun edge hedge => by
          obtain ⟨_, seen, cache, hcache, htaken⟩ := hgood edge hedge
          exact (edgeCompatibility_status hacyclic hcache edge).1 ▸ htaken.carries
        counts := fun edge hedge _ => hedge
        filled := hfilled }
    refine ⟨⟨htrigger, hone, hnodup, hlinked, hfilled, hacyclic, ?_, ?_⟩, hwired.fits⟩
    · exact (unreachableFindings_eq_nil_iff htrigger fun edge hedge =>
        (hjoin edge hedge).2).mp hunreachable
    · exact outputIdFindings_eq_nil_iff.mp houtputs
  · rintro ⟨hconnected, hfits⟩
    have hjoin : ∀ edge ∈ graph.edges, edge.sourceNodeId ∈ nodeIds graph
        ∧ edge.targetNodeId ∈ nodeIds graph :=
      fun edge hedge => (hconnected.linked edge hedge).joins
    have htakes : ∀ edge ∈ graph.edges, ∀ seen cache, GoodShapes graph cache → edge ∉ seen →
        Taken graph seen cache edge := by
      intro edge hedge seen cache hcache hfresh
      refine ⟨hfresh, hconnected.linked edge hedge, fun heq => ?_, ?_⟩
      · have hleads := leads_of_mem hedge
        rw [heq] at hleads
        exact hconnected.acyclic _ (.single hleads)
      · rw [(edgeCompatibility_status hconnected.acyclic hcache edge).1, hfits edge hedge]
        decide
    have hnothing : ¬ ReportsStructural [] := fun ⟨_, hmem, _⟩ => absurd hmem not_mem_nil
    obtain ⟨hedges, haccepted⟩ := scanEdges_takes (goodShapes_next hconnected.acyclic)
      graph.edges.zipIdx ⟨[], [], [], []⟩ .nil hnothing
      (by rw [zipIdx_map_fst]; exact hconnected.distinct)
      (fun edge hmem => by
        rw [zipIdx_map_fst] at hmem
        exact ⟨not_mem_nil, htakes edge hmem⟩)
    rw [nil_append, zipIdx_map_fst, ← edgeScan] at haccepted
    rw [haccepted]
    refine ⟨entryFindings_eq_nil_iff.mpr ⟨hconnected.entry, hconnected.oneEntry⟩, hedges,
      fun node hnode => portFindings_eq_nil_iff.mpr (hconnected.filled node hnode),
      (cycleFindings_eq_nil_iff hjoin).mpr hconnected.acyclic, ?_, ?_⟩
    · exact (unreachableFindings_eq_nil_iff hconnected.entry fun edge hedge =>
        (hjoin edge hedge).2).mpr hconnected.reached
    · exact outputIdFindings_eq_nil_iff.mpr hconnected.finished

end NewsCraft.Automations
