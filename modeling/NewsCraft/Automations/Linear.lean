import NewsCraft.Automations.Compiler

/-!
# A compiled graph is one path

Compilation stops at the first finding that matters, so in a graph that compiles identifiers
are distinct, the entry is the only trigger, and edges join existing nodes. With at most one
edge into and one out of every node the walk from the entry is a path, and the length check
makes it pass through all of them.
-/

namespace NewsCraft.Automations

open Lib List Option

variable {E : DefinitionEnv} {turns : Nat} {graph : WorkflowGraphV1}

/-! ## Findings that stop a compilation -/

def Clean (findings : List ValidationFinding) : Prop :=
  ∀ finding ∈ findings, finding.severity = .error → finding.code = "automation_resource_unavailable"

theorem compileErrors_eq_nil_iff : compileErrors E graph = [] ↔ Clean (graphFindings E graph) := by
  unfold compileErrors Clean validateGraph
  rw [filter_eq_nil_iff]
  refine forall₂_congr fun finding _ => ?_
  simp only [decide_eq_true_eq, not_and, not_not]

theorem clean_append {a b : List ValidationFinding} : Clean (a ++ b) ↔ Clean a ∧ Clean b := by
  constructor
  · intro h
    exact ⟨fun f hf => h f (mem_append_left b hf), fun f hf => h f (mem_append_right a hf)⟩
  · rintro ⟨ha, hb⟩ f hf
    rcases mem_append.mp hf with hf | hf
    · exact ha f hf
    · exact hb f hf

theorem Clean.mono {a b : List ValidationFinding} (h : Clean b) (hab : a ⊆ b) : Clean a :=
  fun f hf => h f (hab hf)

theorem Clean.eq_nil {a : List ValidationFinding} (h : Clean a)
    (hstop : ∀ finding ∈ a, finding.severity = .error
      ∧ finding.code ≠ "automation_resource_unavailable") : a = [] := by
  rw [eq_nil_iff_forall_not_mem]
  intro finding hmem
  obtain ⟨hseverity, hcode⟩ := hstop finding hmem
  exact hcode (h finding hmem hseverity)

theorem stops_errorFinding {code message : String} {nodeId : Option String}
    {edgeIndex : Option Nat} {fieldPath recoveryAction : Option String}
    (h : code ≠ "automation_resource_unavailable") :
    (errorFinding code message nodeId edgeIndex fieldPath recoveryAction).severity = .error
      ∧ (errorFinding code message nodeId edgeIndex fieldPath recoveryAction).code
        ≠ "automation_resource_unavailable" :=
  ⟨rfl, h⟩

structure CleanParts (graph : WorkflowGraphV1) : Prop where
  duplicates : Clean (duplicateFindings graph)
  entry : Clean (entryFindings graph)
  edges : Clean (edgeScan graph).findings
  ports : Clean (graph.nodes.flatMap (portFindings (edgeScan graph).accepted))

theorem cleanParts (h : compileErrors E graph = []) : CleanParts graph := by
  have hclean := compileErrors_eq_nil_iff.mp h
  unfold graphFindings at hclean
  simp only [clean_append] at hclean
  exact ⟨hclean.1, hclean.2.2.2.1, hclean.2.2.2.2.1, hclean.2.2.2.2.2.1⟩

/-! ## Identifiers -/

theorem nodeIds_nodup (h : CleanParts graph) : (nodeIds graph).Nodup := by
  have hnil : duplicateFindings graph = [] := by
    refine h.duplicates.eq_nil fun finding hmem => ?_
    obtain ⟨id, _, rfl⟩ := mem_map.mp hmem
    exact stops_errorFinding (by decide)
  rw [duplicateFindings, map_eq_nil_iff, filter_eq_nil_iff] at hnil
  rw [nodup_iff_count_le_one]
  intro id
  by_cases hid : id ∈ nodeIds graph
  · have hle := hnil id (mem_eraseDups.mpr hid)
    rw [decide_eq_true_eq] at hle
    omega
  · rw [count_eq_zero_of_not_mem hid]
    omega

theorem nodesById_some {id : String} {node : WorkflowNode} (h : graph.nodesById id = some node) :
    node ∈ graph.nodes ∧ node.id = id := by
  have hid := find?_some h
  exact ⟨mem_reverse.mp (mem_of_find?_eq_some h), of_decide_eq_true hid⟩

theorem nodesById_mem {id : String} {node : WorkflowNode} (h : graph.nodesById id = some node) :
    id ∈ nodeIds graph := by
  obtain ⟨hmem, rfl⟩ := nodesById_some h
  exact mem_map_of_mem hmem

/-! ## Edges -/

/-- What the loop asks of an edge it accepts, and the shapes it leaves behind. -/
structure EdgeAccepted (graph : WorkflowGraphV1) (cache : ShapeCache) (edge : WorkflowEdge)
    (later : ShapeCache) (source target : WorkflowNode) (before after : NodeDefinition)
    (port : PortDefinition) : Prop where
  sourceNode : graph.nodesById edge.sourceNodeId = some source
  targetNode : graph.nodesById edge.targetNodeId = some target
  notTrigger : isEntry target = false
  sourceDefinition : nodeDefinition? source.type = some before
  targetDefinition : nodeDefinition? target.type = some after
  sourcePort : (before.output? edge.sourcePort).isSome
  targetPort : after.input? edge.targetPort = some port
  shapes : later = (outputShape graph graph.nodes.length [] cache edge.sourceNodeId
    edge.sourcePort).2
  matched : matchInputContract
    (outputShape graph graph.nodes.length [] cache edge.sourceNodeId edge.sourcePort).1
    (port.inputContract.or after.inputContract) ≠ .incompatible

def Stops (finding : ValidationFinding) : Prop :=
  finding.severity = .error ∧ finding.code ≠ "automation_resource_unavailable"

theorem stops_edgeFinding {code message : String} {nodeId : Option String} {index : Nat}
    {recoveryAction : String} (h : code ≠ "automation_resource_unavailable") :
    Stops (edgeFinding code message nodeId index recoveryAction) :=
  ⟨rfl, h⟩

/-- **Every edge is accepted or stops the compilation.** -/
theorem judgeEdge_cases (seen : List WorkflowEdge) (cache : ShapeCache) (index : Nat)
    (edge : WorkflowEdge) :
    (∃ finding later, judgeEdge graph seen cache index edge = (.rejected finding, later)
        ∧ Stops finding) ∨ ∃ warning later source target before after port,
        judgeEdge graph seen cache index edge = (.accepted warning, later)
          ∧ EdgeAccepted graph cache edge later source target before after port := by
  unfold judgeEdge
  by_cases hseen : edge ∈ seen
  · rw [if_pos hseen]
    exact .inl ⟨_, _, rfl, stops_edgeFinding (by decide)⟩
  rw [if_neg hseen]
  cases hsource : graph.nodesById edge.sourceNodeId with
  | none => exact .inl ⟨_, _, rfl, stops_edgeFinding (by decide)⟩
  | some source =>
  cases htarget : graph.nodesById edge.targetNodeId with
  | none => exact .inl ⟨_, _, rfl, stops_edgeFinding (by decide)⟩
  | some target =>
  dsimp only
  by_cases hself : source.id = target.id
  · rw [if_pos hself]
    exact .inl ⟨_, _, rfl, stops_edgeFinding (by decide)⟩
  rw [if_neg hself]
  by_cases hentry : (nodeDefinition? target.type).any NodeDefinition.entry = true
  · rw [if_pos hentry]
    exact .inl ⟨_, _, rfl, stops_edgeFinding (by decide)⟩
  rw [if_neg hentry]
  cases hbefore : nodeDefinition? source.type with
  | none => exact .inl ⟨_, _, rfl, stops_edgeFinding (by decide)⟩
  | some before =>
  cases hafter : nodeDefinition? target.type with
  | none => exact .inl ⟨_, _, rfl, stops_edgeFinding (by decide)⟩
  | some after =>
  dsimp only
  cases hout : before.output? edge.sourcePort with
  | none => exact .inl ⟨_, _, rfl, stops_edgeFinding (by decide)⟩
  | some outPort =>
  cases hin : after.input? edge.targetPort with
  | none => exact .inl ⟨_, _, rfl, stops_edgeFinding (by decide)⟩
  | some port =>
  dsimp only
  have hmake : ∀ hmatched, EdgeAccepted graph cache edge _ source target before after port :=
    fun hmatched => ⟨hsource, htarget, (Bool.not_eq_true _).mp hentry, hbefore,
      hafter, by rw [hout]; rfl, hin, rfl, hmatched⟩
  cases hmatch : matchInputContract
      (outputShape graph graph.nodes.length [] cache edge.sourceNodeId edge.sourcePort).1
      (port.inputContract.or after.inputContract) with
  | incompatible => exact .inl ⟨_, _, rfl, stops_edgeFinding (by decide)⟩
  | incomplete =>
    refine .inr ⟨_, _, source, target, before, after, port, rfl, hmake ?_⟩
    rw [hmatch]
    decide
  | compatible =>
    refine .inr ⟨_, _, source, target, before, after, port, rfl, hmake ?_⟩
    rw [hmatch]
    decide

theorem next_findings_subset (scan : EdgeScan) (edge : WorkflowEdge) (index : Nat) :
    scan.findings ⊆ (scan.next graph edge index).findings := by
  unfold EdgeScan.next
  split
  · exact subset_append_left _ _
  · exact subset_append_left _ _

theorem scanEdges_findings_subset (scan : EdgeScan) (edges : List (WorkflowEdge × Nat)) :
    scan.findings ⊆ (scanEdges graph scan edges).findings := by
  induction edges generalizing scan with
  | nil => exact List.Subset.refl _
  | cons entry rest ih => exact List.Subset.trans (next_findings_subset scan entry.1 entry.2) (ih _)

theorem next_accepted {scan : EdgeScan} {edge : WorkflowEdge} {index : Nat}
    (h : Clean (scan.next graph edge index).findings) : ∃ later source target before after port,
      EdgeAccepted graph scan.cache edge later source target before after port
      ∧ (scan.next graph edge index).accepted = scan.accepted ++ [edge]
      ∧ (scan.next graph edge index).cache = later := by
  unfold EdgeScan.next at h ⊢
  rcases judgeEdge_cases scan.seen scan.cache index edge with
    ⟨finding, later, hjudge, hseverity, hcode⟩
    | ⟨warning, later, source, target, before, after, port, hjudge, haccepted⟩
  · rw [hjudge] at h
    have hmem : finding ∈ scan.findings ++ [finding] :=
      mem_append_right _ (mem_singleton_self finding)
    exact absurd (h finding hmem hseverity) hcode
  · rw [hjudge]
    exact ⟨later, source, target, before, after, port, haccepted, rfl, rfl⟩

/-- **A clean scan accepts every edge**, and what holds of the shapes before an
edge holds after it when accepting an edge keeps it. -/
theorem scanEdges_clean {P : ShapeCache → Prop} {Q : WorkflowEdge → Prop}
    (hstep : ∀ cache edge later source target before after port, P cache →
      EdgeAccepted graph cache edge later source target before after port → P later ∧ Q edge)
    (edges : List (WorkflowEdge × Nat)) (scan : EdgeScan) (hscan : P scan.cache)
    (h : Clean (scanEdges graph scan edges).findings) :
    (scanEdges graph scan edges).accepted = scan.accepted ++ edges.map Prod.fst
      ∧ ∀ edge ∈ edges.map Prod.fst, Q edge := by
  induction edges generalizing scan with
  | nil => exact ⟨(append_nil _).symm, fun edge hmem => absurd hmem not_mem_nil⟩
  | cons entry rest ih =>
    obtain ⟨edge, index⟩ := entry
    have hnext : Clean (scan.next graph edge index).findings :=
      h.mono (scanEdges_findings_subset _ rest)
    obtain ⟨later, _, _, _, _, _, haccepted, hlist, hcache⟩ := next_accepted hnext
    obtain ⟨hP, hQ⟩ := hstep _ _ _ _ _ _ _ _ hscan haccepted
    obtain ⟨hrest, hall⟩ := ih (scan.next graph edge index) (hcache ▸ hP) h
    refine ⟨?_, fun e hmem => ?_⟩
    · unfold scanEdges
      rw [hrest, hlist, append_assoc]
      rfl
    · rcases mem_cons.mp hmem with rfl | hmem
      · exact hQ
      · exact hall e hmem

/-- An edge between existing nodes and ports that leads into no trigger. -/
def Joins (graph : WorkflowGraphV1) (edge : WorkflowEdge) : Prop :=
  ∃ source target before after, graph.nodesById edge.sourceNodeId = some source
      ∧ graph.nodesById edge.targetNodeId = some target
      ∧ isEntry target = false
      ∧ nodeDefinition? source.type = some before
      ∧ nodeDefinition? target.type = some after
      ∧ (before.output? edge.sourcePort).isSome
      ∧ (after.input? edge.targetPort).isSome

theorem edges_join (h : CleanParts graph) :
    (edgeScan graph).accepted = graph.edges ∧ ∀ edge ∈ graph.edges, Joins graph edge := by
  have hstep : ∀ cache edge later source target before after port, True →
      EdgeAccepted graph cache edge later source target before after port →
      True ∧ Joins graph edge :=
    fun _ _ _ source target before after _ _ ha =>
      ⟨trivial, source, target, before, after, ha.sourceNode, ha.targetNode, ha.notTrigger,
        ha.sourceDefinition, ha.targetDefinition, ha.sourcePort, by rw [ha.targetPort]; rfl⟩
  have hscan := scanEdges_clean (P := fun _ => True) hstep graph.edges.zipIdx ⟨[], [], [], []⟩
    trivial h.edges
  rw [zipIdx_map_fst, nil_append] at hscan
  exact hscan

/-! ## The entry -/

theorem entry_only_trigger (h : CleanParts graph) :
    ∃ entry, graph.nodesById graph.entryNodeId = some entry ∧ isEntry entry = true
      ∧ graph.nodes.filter isEntry = [entry] := by
  have hnil : entryFindings graph = [] := by
    refine h.entry.eq_nil fun finding hmem => ?_
    rcases mem_append.mp hmem with hmem | hmem
    · split at hmem
      · cases hmem
      rw [mem_singleton.mp hmem]
      exact stops_errorFinding (by decide)
    · split at hmem
      · cases hmem
      rw [mem_singleton.mp hmem]
      exact stops_errorFinding (by decide)
  obtain ⟨hentry, hone⟩ := append_eq_nil_iff.mp hnil
  have hany : (graph.nodesById graph.entryNodeId).any isEntry = true := by
    by_contra hnot
    rw [if_neg hnot] at hentry
    cases hentry
  have hlength : (graph.nodes.filter isEntry).length = 1 := by
    by_contra hnot
    rw [if_neg hnot] at hone
    cases hone
  obtain ⟨only, honly⟩ := length_eq_one_iff.mp hlength
  cases hfound : graph.nodesById graph.entryNodeId with
  | none =>
    rw [hfound] at hany
    cases hany
  | some entry =>
  rw [hfound, any_some] at hany
  have hmem : entry ∈ graph.nodes.filter isEntry :=
    mem_filter.mpr ⟨(nodesById_some hfound).1, hany⟩
  rw [honly, mem_singleton] at hmem
  exact ⟨entry, rfl, hany, hmem ▸ honly⟩

/-! ## The walk -/

def edgePairs (graph : WorkflowGraphV1) : List (String × String) :=
  graph.edges.map fun edge => (edge.sourceNodeId, edge.targetNodeId)

theorem successors_edgePairs (id : String) :
    LinearGraph.successors (edgePairs graph) id = outgoing graph id := by
  unfold LinearGraph.successors edgePairs outgoing adjacency
  rw [List.filter_map, List.map_map]
  rfl

theorem predecessors_edgePairs (id : String) :
    LinearGraph.predecessors (edgePairs graph) id = reverseAdjacency graph.edges id := by
  unfold LinearGraph.predecessors edgePairs reverseAdjacency
  rw [List.filter_map, List.map_map]
  rfl

theorem length_filter_le_one {p : WorkflowEdge → Bool}
    (h : ∀ edge ∈ graph.edges, p edge = true → (graph.edges.filter p).length ≤ 1) :
    (graph.edges.filter p).length ≤ 1 := by
  cases hfilter : graph.edges.filter p with
  | nil => simp
  | cons edge rest =>
    have hmem : edge ∈ graph.edges.filter p := by rw [hfilter]; exact mem_cons_self
    have hle := h edge (mem_filter.mp hmem).1 (mem_filter.mp hmem).2
    rw [hfilter] at hle
    exact hle

theorem sortStrings_of_length_le_one {values : List String} (h : values.length ≤ 1) :
    sortStrings values = values := by
  match values, h with
  | [], _ => rfl
  | [value], _ => rfl
  | _ :: _ :: _, h => simp at h

theorem orderLoop_eq_follow (hlin : LinearGraph.Linear (edgePairs graph)) (turns : Nat)
    (id : String) (ordered : List String) : orderLoop graph turns [id] ordered
      = (LinearGraph.follow (edgePairs graph) turns id).map (ordered ++ ·) := by
  induction turns generalizing id ordered with
  | zero => rfl
  | succ turns ih =>
    have hout := hlin.out id
    rw [successors_edgePairs] at hout
    unfold orderLoop LinearGraph.follow
    rw [nil_append, sortStrings_of_length_le_one hout, successors_edgePairs]
    cases hnext : outgoing graph id with
    | nil =>
      cases turns with
      | zero | succ _ => rfl
    | cons m more =>
      cases more with
      | nil =>
        rw [ih, Option.map_map]
        congr 1
        funext rest
        exact append_assoc _ _ _
      | cons other more =>
        rw [hnext] at hout
        simp at hout

structure OnePath (graph : WorkflowGraphV1) (path : List String) : Prop where
  linear : LinearGraph.Linear (edgePairs graph)
  follow : ∃ turns, LinearGraph.follow (edgePairs graph) turns graph.entryNodeId = some path
  nodup : path.Nodup
  covers : path.Perm (nodeIds graph)

theorem orderedNodeIds_cases (turns : Nat) (graph : WorkflowGraphV1) :
    (∃ e, orderedNodeIds turns graph = .error (.error e)) ∨ LinearGraph.Linear (edgePairs graph) ∧
      ((LinearGraph.follow (edgePairs graph) turns graph.entryNodeId = none
          ∧ orderedNodeIds turns graph = .error .running) ∨
        ∃ path, LinearGraph.follow (edgePairs graph) turns graph.entryNodeId = some path
          ∧ ((path.length = graph.nodes.length ∧ orderedNodeIds turns graph = .ok path)
            ∨ ∃ e, orderedNodeIds turns graph = .error (.error e))) := by
  unfold orderedNodeIds
  split
  · exact .inl ⟨_, rfl⟩
  rename_i hdegrees
  simp only [Bool.or_eq_true, List.any_eq_true, decide_eq_true_eq, not_or, not_exists, not_and,
    not_lt] at hdegrees
  obtain ⟨hinto, hout⟩ := hdegrees
  have hlin : LinearGraph.Linear (edgePairs graph) := by
    constructor
    · intro id
      rw [successors_edgePairs, outgoing, adjacency, length_map]
      refine length_filter_le_one fun edge hmem hid => ?_
      have hle := hout edge hmem
      rw [outgoing, adjacency, length_map] at hle
      rw [← of_decide_eq_true hid]
      exact hle
    · intro id
      rw [predecessors_edgePairs, reverseAdjacency, length_map]
      refine length_filter_le_one fun edge hmem hid => ?_
      have hle := hinto edge hmem
      rw [reverseAdjacency, length_map] at hle
      rw [← of_decide_eq_true hid]
      exact hle
  refine .inr ⟨hlin, ?_⟩
  rw [orderLoop_eq_follow hlin]
  cases LinearGraph.follow (edgePairs graph) turns graph.entryNodeId with
  | none => exact .inl ⟨rfl, rfl⟩
  | some path =>
    right
    refine ⟨path, rfl, ?_⟩
    dsimp only [map_some, nil_append]
    by_cases hlength : path.length = graph.nodes.length
    · rw [if_neg (not_not.mpr hlength)]
      exact .inl ⟨hlength, rfl⟩
    · rw [if_pos hlength]
      exact .inr ⟨_, rfl⟩

theorem entry_not_target (h : CleanParts graph) :
    ∀ p, (p, graph.entryNodeId) ∉ edgePairs graph := by
  intro p hmem
  obtain ⟨edge, hedge, heq⟩ := mem_map.mp hmem
  rw [Prod.mk.injEq] at heq
  obtain ⟨entry, hfound, hisEntry, _⟩ := entry_only_trigger h
  obtain ⟨_, target, _, _, _, htarget, hnot, _⟩ := (edges_join h).2 edge hedge
  rw [heq.2, hfound, Option.some.injEq] at htarget
  rw [← htarget, hisEntry] at hnot
  cases hnot

theorem targets_exist (h : CleanParts graph) : ∀ e ∈ edgePairs graph, e.2 ∈ nodeIds graph := by
  intro e hmem
  obtain ⟨edge, hedge, rfl⟩ := mem_map.mp hmem
  obtain ⟨_, _, _, _, _, htarget, _⟩ := (edges_join h).2 edge hedge
  exact nodesById_mem htarget

/-- **The walk of a compiled graph is a path through all of its nodes.** -/
theorem orderedNodeIds_ok (hclean : CleanParts graph) {path : List String}
    (h : orderedNodeIds turns graph = .ok path) : OnePath graph path := by
  rcases orderedNodeIds_cases turns graph with ⟨e, he⟩ | ⟨hlin, ⟨_, he⟩ | ⟨path', hfollow, hend⟩⟩
  · rw [he] at h
    cases h
  · rw [he] at h
    cases h
  · rcases hend with ⟨hlength, hok⟩ | ⟨e, he⟩
    · rw [hok, Except.ok.injEq] at h
      rw [h] at hfollow hlength
      have hnodup := LinearGraph.follow_nodup hlin (entry_not_target hclean) hfollow
      obtain ⟨entry, hentry, _⟩ := entry_only_trigger hclean
      have hsubset : path ⊆ nodeIds graph := by
        intro id hid
        obtain ⟨rest, rfl⟩ := LinearGraph.follow_head hfollow
        rcases mem_cons.mp hid with rfl | hid
        · exact nodesById_mem hentry
        have hchain := LinearGraph.follow_isChain hfollow
        obtain ⟨i, hi, hget⟩ := mem_iff_getElem.mp hid
        rw [isChain_iff_getElem] at hchain
        have hedge := hchain i (by rw [length_cons]; omega)
        rw [getElem_cons_succ, hget] at hedge
        exact targets_exist hclean _ hedge
      have hperm : path.Perm (nodeIds graph) := by
        refine (List.Nodup.subperm hnodup hsubset).perm_of_length_le ?_
        rw [hlength, nodeIds, length_map]
      exact ⟨hlin, ⟨turns, hfollow⟩, hnodup, hperm⟩
    · rw [he] at h
      cases h

theorem orderedNodeIds_terminates (hclean : CleanParts graph) (hturns : graph.nodes.length ≤ turns) :
    orderedNodeIds turns graph ≠ .error .running := by
  intro hrunning
  rcases orderedNodeIds_cases turns graph with ⟨e, he⟩ | ⟨hlin, ⟨hnone, _⟩ | ⟨path, _, hend⟩⟩
  · rw [he] at hrunning
    cases hrunning
  · obtain ⟨entry, hentry, _⟩ := entry_only_trigger hclean
    have hlength : (nodeIds graph).length ≤ turns := by
      rw [nodeIds, length_map]
      exact hturns
    have hsome := LinearGraph.follow_isSome hlin (entry_not_target hclean) (nodesById_mem hentry)
      (targets_exist hclean) hlength
    rw [hnone] at hsome
    cases hsome
  · rcases hend with ⟨_, hok⟩ | ⟨e, he⟩
    · rw [hok] at hrunning
      cases hrunning
    · rw [he] at hrunning
      cases hrunning

end NewsCraft.Automations
