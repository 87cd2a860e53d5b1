import NewsCraft.Automations.GraphChecks
import NewsCraft.Automations.Linear

/-!
# What the findings about a graph name

Of any graph, however malformed: the nodes reported as unreachable are those the entry does
not lead to, the node a cycle is reported at is the first of those that lead to one, and the
publications reported are those no review leads to. Edges count once the loop accepted them.
-/

namespace NewsCraft.Automations

open Lib GraphSearch Relation List

variable {graph : WorkflowGraphV1} {edges : List WorkflowEdge}

/-- `a` leads to `b` by an edge the loop accepted. -/
def Follows (graph : WorkflowGraphV1) : String → String → Prop :=
  Leads (adjacency (edgeScan graph).accepted)

/-! ## Accepted edges -/

theorem isSome_nodesById_iff {id : String} :
    (graph.nodesById id).isSome = true ↔ id ∈ nodeIds graph := by
  constructor
  · intro h
    obtain ⟨node, hnode⟩ := Option.isSome_iff_exists.mp h
    exact nodesById_mem hnode
  · intro h
    obtain ⟨node, hnode, rfl⟩ := mem_map.mp h
    rw [WorkflowGraphV1.nodesById, find?_isSome]
    exact ⟨node, mem_reverse.mpr hnode, decide_eq_true rfl⟩

theorem scanEdges_joins (rest : List (WorkflowEdge × Nat)) {scan : EdgeScan}
    (h : ∀ edge ∈ scan.accepted,
      edge.sourceNodeId ∈ nodeIds graph ∧ edge.targetNodeId ∈ nodeIds graph) :
    ∀ edge ∈ (scanEdges graph scan rest).accepted,
      edge.sourceNodeId ∈ nodeIds graph ∧ edge.targetNodeId ∈ nodeIds graph := by
  induction rest generalizing scan with
  | nil => exact h
  | cons entry rest ih =>
    refine ih ?_
    unfold EdgeScan.next
    rcases @judgeEdge_cases graph scan.seen scan.cache entry.2 entry.1 with
      ⟨finding, later, hjudge, -⟩ | ⟨warning, later, _, _, _, _, _, hjudge, haccepted⟩
    · rw [hjudge]
      exact h
    · rw [hjudge]
      intro edge hedge
      rcases mem_append.mp hedge with hold | hnew
      · exact h edge hold
      · rw [mem_singleton.mp hnew]
        exact ⟨nodesById_mem haccepted.sourceNode, nodesById_mem haccepted.targetNode⟩

theorem Follows.nodes {a b : String} (h : Follows graph a b) :
    a ∈ nodeIds graph ∧ b ∈ nodeIds graph := by
  obtain ⟨edge, hedge, rfl, rfl⟩ := leads_iff.mp h
  exact scanEdges_joins graph.edges.zipIdx (fun _ hmem => absurd hmem not_mem_nil) edge hedge

/-! ## Searches -/

theorem mem_reachable_iff {id : String} (hid : id ∈ nodeIds graph) :
    id ∈ reachable graph (edgeScan graph).accepted
      ↔ ReflTransGen (Follows graph) graph.entryNodeId id := by
  by_cases hentry : graph.entryNodeId ∈ nodeIds graph
  · refine mem_breadthFirst_iff (isSome_nodesById_iff.mpr hentry) (fun edge hedge => ?_) id
    exact isSome_nodesById_iff.mpr (Follows.nodes (leads_of_mem hedge)).2
  -- an entry that is no node is dropped, and no edge leaves it
  have hnone : (graph.nodesById graph.entryNodeId).isSome = false := by
    rw [← Bool.not_eq_true, isSome_nodesById_iff]
    exact hentry
  have hempty : reachable graph (edgeScan graph).accepted = [] := by
    rw [reachable, breadthFirst, if_pos (.inr hnone)]
    cases (edgeScan graph).accepted.length <;> rfl
  rw [hempty]
  refine ⟨fun hmem => absurd hmem not_mem_nil, fun hwalk => ?_⟩
  rcases hwalk.cases_head with heq | ⟨next, hfirst, -⟩
  · exact absurd (heq ▸ hid) hentry
  · exact absurd (Follows.nodes hfirst).1 hentry

def WorkflowEdge.flip (edge : WorkflowEdge) : WorkflowEdge :=
  { edge with
    sourceNodeId := edge.targetNodeId
    targetNodeId := edge.sourceNodeId }

theorem reverseAdjacency_eq : reverseAdjacency edges = adjacency (edges.map WorkflowEdge.flip) := by
  funext id
  unfold reverseAdjacency adjacency
  rw [List.filter_map, List.map_map]
  rfl

theorem leads_flip_iff {a b : String} : Leads (adjacency (edges.map WorkflowEdge.flip)) a b
      ↔ Leads (adjacency edges) b a := by
  rw [leads_iff, leads_iff]
  constructor
  · rintro ⟨flipped, hmem, rfl, rfl⟩
    obtain ⟨edge, hedge, rfl⟩ := mem_map.mp hmem
    exact ⟨edge, hedge, rfl, rfl⟩
  · rintro ⟨edge, hedge, rfl, rfl⟩
    exact ⟨edge.flip, mem_map_of_mem hedge, rfl, rfl⟩

theorem mem_ancestors_iff {a b : String} :
    a ∈ ancestors edges b ↔ TransGen (Leads (adjacency edges)) a b := by
  unfold ancestors
  rw [reverseAdjacency_eq]
  constructor
  · refine breadthFirst_sound (P := fun a => TransGen (Leads (adjacency edges)) a b)
      (fun a ha c hc => ?_) (fun a ha => ?_) (fun a ha => absurd ha not_mem_nil) a
    · exact ha.head (leads_flip_iff.mp hc)
    · exact .single (leads_flip_iff.mp ha)
  · intro h
    have hrounds : (adjacency (edges.map WorkflowEdge.flip) b).length
        + ((edges.map WorkflowEdge.flip).filter fun edge => edge.sourceNodeId ∉ []).length
        ≤ 2 * edges.length + 1 := by
      have hqueue := length_filter_le
        (fun edge : WorkflowEdge => edge.sourceNodeId = b) (edges.map WorkflowEdge.flip)
      have hrest := length_filter_le
        (fun edge : WorkflowEdge => edge.sourceNodeId ∉ []) (edges.map WorkflowEdge.flip)
      rw [length_map] at hqueue hrest
      rw [adjacency, length_map]
      omega
    obtain ⟨⟨-, hqueue⟩, hclosed⟩ := breadthFirst_complete (fun _ => true) hrounds
      fun a ha => absurd ha not_mem_nil
    induction h using TransGen.head_induction_on with
    | single hab => exact hqueue _ (leads_flip_iff.mpr hab) rfl
    | head hac _ ih => exact hclosed _ ih _ (leads_flip_iff.mpr hac) rfl

/-! ## Findings -/

theorem mem_sortStrings {values : List String} {id : String} :
    id ∈ sortStrings values ↔ id ∈ values :=
  mem_insertionSort _

theorem sortStrings_head {values rest : List String} {first : String}
    (h : sortStrings values = first :: rest) :
    first ∈ values ∧ ∀ other ∈ values, ¬ other < first := by
  refine ⟨mem_sortStrings.mp (h ▸ mem_cons_self), ?_⟩
  intro other hother
  have hsorted : (first :: rest).Pairwise fun a b => ¬ b < a := by
    rw [← h]
    have htotal : Std.Total fun a b : String => ¬ b < a :=
      ⟨fun a b => by rw [String.not_lt, String.not_lt]; exact String.le_total a b⟩
    have htrans : IsTrans String fun a b => ¬ b < a :=
      ⟨fun a b c hab hbc => by rw [String.not_lt] at *; exact String.le_trans hab hbc⟩
    exact pairwise_insertionSort _ _
  rcases mem_cons.mp (h ▸ mem_sortStrings.mpr hother) with rfl | hrest
  · exact String.lt_irrefl other
  · exact (pairwise_cons.mp hsorted).1 other hrest

theorem mem_cycleNodes_iff {id : String} :
    id ∈ cycleNodes (adjacency (edgeScan graph).accepted) (nodeIds graph).eraseDups
      ↔ ReachesCycle (adjacency (edgeScan graph).accepted) id := by
  have hclosed : ∀ a ∈ (nodeIds graph).eraseDups,
      ∀ b ∈ adjacency (edgeScan graph).accepted a, b ∈ (nodeIds graph).eraseDups :=
    fun a _ b hb => mem_eraseDups.mpr (Follows.nodes hb).2
  obtain ⟨hreach, hmarked⟩ := cycleNodes_settled hclosed
  refine ⟨fun hmem => (hreach id hmem).2, ?_⟩
  intro h
  obtain ⟨c, hwalk, hcycle⟩ := h
  -- the node has an edge, whether it lies on the cycle or not
  have hid : id ∈ nodeIds graph := by
    rcases hwalk.cases_head with rfl | ⟨next, hfirst, -⟩
    · obtain ⟨next, hfirst, -⟩ := TransGen.head'_iff.mp hcycle
      exact (Follows.nodes hfirst).1
    · exact (Follows.nodes hfirst).1
  exact (hmarked id (mem_eraseDups.mpr hid)).resolve_right
    fun hends => hends.not_reachesCycle ⟨c, hwalk, hcycle⟩

def named (findings : List ValidationFinding) : List (Option String) :=
  findings.map ValidationFinding.nodeId

def Unreachable (graph : WorkflowGraphV1) (id : String) : Prop :=
  id ∈ nodeIds graph ∧ ¬ ReflTransGen (Follows graph) graph.entryNodeId id

/-- The first of the nodes that lead to a cycle. -/
def FirstCyclic (graph : WorkflowGraphV1) (id : String) : Prop :=
  ReachesCycle (adjacency (edgeScan graph).accepted) id
    ∧ ∀ other, ReachesCycle (adjacency (edgeScan graph).accepted) other → ¬ other < id

def Unreviewed (graph : WorkflowGraphV1) (node : WorkflowNode) : Prop :=
  node.type = "telegram_publish" ∧ ∀ before review, graph.nodesById before = some review →
    review.type = "human_review" → ¬ TransGen (Follows graph) before node.id

theorem unreachableFindings_name (id : String) :
    some id ∈ named (unreachableFindings graph (edgeScan graph).accepted)
      ↔ Unreachable graph id := by
  have hnamed : named (unreachableFindings graph (edgeScan graph).accepted)
      = (sortStrings ((nodeIds graph).eraseDups.filter fun id =>
        id ∉ reachable graph (edgeScan graph).accepted)).map some := by
    rw [named, unreachableFindings, List.map_map]
    rfl
  rw [hnamed, List.mem_map_of_injective (Option.some_injective String), mem_sortStrings,
    mem_filter, mem_eraseDups, decide_eq_true_eq]
  exact and_congr_right fun hid => not_congr (mem_reachable_iff hid)

theorem cycleFindings_name :
    (∃ id, named (cycleFindings graph (edgeScan graph).accepted) = [some id]
      ∧ FirstCyclic graph id)
    ∨ named (cycleFindings graph (edgeScan graph).accepted) = []
      ∧ ∀ id, ¬ TransGen (Follows graph) id id := by
  unfold cycleFindings
  cases hsorted : sortStrings (cycleNodes (adjacency (edgeScan graph).accepted)
    (nodeIds graph).eraseDups) with
  | nil =>
    refine .inr ⟨rfl, fun id hcycle => ?_⟩
    have hmem := mem_sortStrings.mpr (mem_cycleNodes_iff.mpr ⟨id, .refl, hcycle⟩)
    rw [hsorted] at hmem
    exact not_mem_nil hmem
  | cons first rest =>
    obtain ⟨hfirst, hleast⟩ := sortStrings_head hsorted
    exact .inl ⟨first, rfl, mem_cycleNodes_iff.mp hfirst,
      fun other h => hleast other (mem_cycleNodes_iff.mpr h)⟩

theorem unreviewed_iff {node : WorkflowNode} :
    node.type = "telegram_publish" ∧ "human_review" ∉ (ancestors (edgeScan graph).accepted
        node.id).filterMap (fun id => (graph.nodesById id).map WorkflowNode.type)
      ↔ Unreviewed graph node := by
  refine and_congr_right fun _ => ?_
  rw [mem_filterMap]
  constructor
  · intro h before review hfound htype hwalk
    exact h ⟨before, mem_ancestors_iff.mpr hwalk, by rw [hfound, Option.map_some, htype]⟩
  · rintro h ⟨before, hancestor, htype⟩
    obtain ⟨review, hfound, hreview⟩ := Option.map_eq_some_iff.mp htype
    exact h before review hfound hreview (mem_ancestors_iff.mp hancestor)

end NewsCraft.Automations
