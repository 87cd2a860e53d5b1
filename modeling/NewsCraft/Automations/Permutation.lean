import NewsCraft.Automations.Linear
import NewsCraft.Lib.Canonical

/-!
# A plan does not depend on the order a graph is written in

Two valid graphs that list the same nodes, edges and outputs in different orders
have one canonical document. Their nodes are found by id and their edges form one
path, so both are compiled into the same stages.
-/

namespace NewsCraft.Automations

open Lib List

variable {E : DefinitionEnv} {turns : Nat} {graph graph' : WorkflowGraphV1}

/-- Equal up to the order in which nodes, edges and output ids are listed. -/
structure Relisted (graph graph' : WorkflowGraphV1) : Prop where
  entry : graph.entryNodeId = graph'.entryNodeId
  nodes : graph.nodes.Perm graph'.nodes
  edges : graph.edges.Perm graph'.edges
  outputs : graph.outputNodeIds.Perm graph'.outputNodeIds
  layout : graph.metadata = graph'.metadata

/-! ## Sorting -/

theorem sortStrings_eq_of_perm {a b : List String} (h : a.Perm b) :
    sortStrings a = sortStrings b := by
  refine Canonical.insertionSort_eq_of_perm (fun x y => ?_) (fun x y z hxy hyz => ?_)
    (fun x _ y _ hxy hyx => ?_) h
  · rw [String.not_lt, String.not_lt]
    exact String.le_total x y
  · rw [String.not_lt] at *
    exact String.le_trans hxy hyz
  · rw [String.not_lt] at *
    exact String.le_antisymm hxy hyx

theorem sortStrings_eraseDups_eq {a b : List String} (h : ∀ x, x ∈ a ↔ x ∈ b) :
    sortStrings a.eraseDups = sortStrings b.eraseDups :=
  sortStrings_eq_of_perm (Canonical.eraseDups_perm h)

theorem sortedNodes_eq (hnodup : (nodeIds graph).Nodup) (h : graph.nodes.Perm graph'.nodes) :
    (graph.nodes.insertionSort fun a b => ¬ b.id < a.id)
      = graph'.nodes.insertionSort fun a b => ¬ b.id < a.id := by
  refine Canonical.insertionSort_eq_of_perm (fun x y => ?_) (fun x y z hxy hyz => ?_)
    (fun x hx y hy hxy hyx => ?_) h
  · rw [String.not_lt, String.not_lt]
    exact String.le_total x.id y.id
  · rw [String.not_lt] at *
    exact String.le_trans hxy hyz
  · rw [String.not_lt] at hxy hyx
    exact inj_on_of_nodup_map hnodup hx hy (String.le_antisymm hxy hyx)

theorem sortedEdges_eq (h : graph.edges.Perm graph'.edges) :
    graph.edges.insertionSort edgeKeyLe = graph'.edges.insertionSort edgeKeyLe := by
  refine Canonical.insertionSort_eq_of_perm (fun x y => ?_) (fun x y z hxy hyz => ?_)
    (fun x _ y _ hxy hyx => ?_) h
  · exact List.le_total _ _
  · exact List.le_trans hxy hyz
  have hkey := List.le_antisymm hxy hyx
  rw [List.cons.injEq, List.cons.injEq, List.cons.injEq, List.cons.injEq] at hkey
  obtain ⟨hsource, hsourcePort, htarget, htargetPort, _⟩ := hkey
  cases x
  cases y
  dsimp only at hsource hsourcePort htarget htargetPort
  rw [hsource, hsourcePort, htarget, htargetPort]

/-- **The canonical document is the same**, and with it the graph's hash. -/
theorem canonicalGraphData_relisted (hnodup : (nodeIds graph).Nodup) (h : Relisted graph graph') :
    canonicalGraphData graph = canonicalGraphData graph' := by
  unfold canonicalGraphData
  rw [sortedEdges_eq h.edges, sortedNodes_eq hnodup h.nodes, sortStrings_eq_of_perm h.outputs,
    h.entry, h.layout]

/-! ## The path -/

theorem nodesById_relisted (hnodup : (nodeIds graph).Nodup) (h : Relisted graph graph')
    (id : String) : graph.nodesById id = graph'.nodesById id := by
  refine Canonical.find?_eq_of_perm (fun x hx y hy hxid hyid => ?_)
    ((reverse_perm _).trans (h.nodes.trans (reverse_perm _).symm))
  rw [decide_eq_true_eq] at hxid hyid
  exact inj_on_of_nodup_map hnodup (mem_reverse.mp hx) (mem_reverse.mp hy) (hxid.trans hyid.symm)

theorem outgoing_perm (h : Relisted graph graph') (id : String) :
    (outgoing graph id).Perm (outgoing graph' id) :=
  (h.edges.filter _).map _

theorem reverseAdjacency_perm (h : Relisted graph graph') (id : String) :
    (reverseAdjacency graph.edges id).Perm (reverseAdjacency graph'.edges id) :=
  (h.edges.filter _).map _

theorem orderLoop_relisted (h : Relisted graph graph') (turns : Nat) (queue ordered : List String) :
    orderLoop graph turns queue ordered = orderLoop graph' turns queue ordered := by
  induction turns generalizing queue ordered with
  | zero =>
    cases queue with
    | nil | cons _ _ => rfl
  | succ turns ih =>
    cases queue with
    | nil => rfl
    | cons id rest =>
      unfold orderLoop
      rw [sortStrings_eq_of_perm (outgoing_perm h id)]
      exact ih _ _

theorem orderedNodeIds_relisted (h : Relisted graph graph') (turns : Nat) :
    orderedNodeIds turns graph = orderedNodeIds turns graph' := by
  have hinto : (graph.edges.any fun edge =>
        1 < (reverseAdjacency graph.edges edge.targetNodeId).length)
      = graph'.edges.any fun edge =>
        1 < (reverseAdjacency graph'.edges edge.targetNodeId).length := by
    rw [h.edges.any_eq]
    congr 1
    funext edge
    rw [(reverseAdjacency_perm h edge.targetNodeId).length_eq]
  have hout : (graph.edges.any fun edge => 1 < (outgoing graph edge.sourceNodeId).length)
      = graph'.edges.any fun edge => 1 < (outgoing graph' edge.sourceNodeId).length := by
    rw [h.edges.any_eq]
    congr 1
    funext edge
    rw [(outgoing_perm h edge.sourceNodeId).length_eq]
  unfold orderedNodeIds
  rw [hinto, hout, orderLoop_relisted h, h.entry, h.nodes.length_eq]

theorem compileStages_relisted (hnodup : (nodeIds graph).Nodup) (h : Relisted graph graph')
    (ordinal : Nat) (ids : List String) :
    compileStages graph ordinal ids = compileStages graph' ordinal ids := by
  induction ids generalizing ordinal with
  | nil => rfl
  | cons id rest ih =>
    unfold compileStages compileStage
    rw [nodesById_relisted hnodup h, ih]

/-! ## The plan -/

theorem resourceRefs_relisted (h : Relisted graph graph') :
    resourceRefs E graph = resourceRefs E graph' := by
  refine sortStrings_eraseDups_eq fun ref => ?_
  rw [mem_flatMap, mem_flatMap]
  refine exists_congr fun node => and_congr_left fun _ => ?_
  exact h.nodes.mem_iff

theorem assemblePlan_relisted (hnodup : (nodeIds graph).Nodup) (h : Relisted graph graph')
    (triggerKind : TriggerKind) (compiled : List (NodeDefinition × CompiledStage)) :
    assemblePlan E graph triggerKind compiled = assemblePlan E graph' triggerKind compiled := by
  unfold assemblePlan graphSha256
  rw [canonicalGraphData_relisted hnodup h, resourceRefs_relisted h,
    sortStrings_eq_of_perm h.outputs, h.entry]

theorem compileErrors_of_valid (h : (validateGraph E graph).valid = true) :
    compileErrors E graph = [] := by
  unfold validateGraph at h
  rw [Bool.not_eq_true', any_eq_false] at h
  refine filter_eq_nil_iff.mpr fun finding hmem => ?_
  have hnot := h finding hmem
  rw [decide_eq_true_eq] at hnot ⊢
  exact fun hstop => hnot hstop.1

/-- The reviewed publication, written from its end. -/
def reviewedPublicationBackwards : WorkflowGraphV1 :=
  { reviewedPublication with
    nodes := reviewedPublication.nodes.reverse
    edges := reviewedPublication.edges.reverse }

end NewsCraft.Automations
