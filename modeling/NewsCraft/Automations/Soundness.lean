import NewsCraft.Automations.ReviewGate

/-!
# Compilation is sound

A plan is its graph laid out along the one path from the trigger, and no
publication in it is reached around a review.
-/

namespace NewsCraft.Automations

open Lib List

variable {E : DefinitionEnv} {turns : Nat} {graph : WorkflowGraphV1} {plan : CompiledWorkflowPlan}

def CompiledStage.node (stage : CompiledStage) : WorkflowNode :=
  ⟨stage.nodeId, stage.nodeType, stage.config⟩

def stageIds (stages : List CompiledStage) : List String := stages.map CompiledStage.nodeId

/-- A stage that hands on the artifact it was given and is no research,
generation or selection. -/
def KeepsArtifact (stage : CompiledStage) : Prop :=
  ∃ definition, nodeDefinition? stage.nodeType = some definition ∧ Keeps definition

structure SoundPlan (graph : WorkflowGraphV1) (plan : CompiledWorkflowPlan) : Prop where
  nodes : (plan.stages.map CompiledStage.node).Perm graph.nodes
  edges : (edgePairs graph).Perm ((stageIds plan.stages).zip (stageIds plan.stages).tail)
  trigger : ∃ first rest, plan.stages = first :: rest ∧ isEntry first.node = true
    ∧ ∀ stage ∈ rest, isEntry stage.node = false
  reviewed : ∀ before publish after, plan.stages = before ++ publish :: after →
    publish.nodeType = "telegram_publish" → ∃ start review between,
      before = start ++ review :: between ∧ review.nodeType = "human_review"
        ∧ ∀ stage ∈ between, KeepsArtifact stage

/-! ## Stages -/

theorem compileStage_ok {ordinal : Nat} {id : String} {compiled : NodeDefinition × CompiledStage}
    (h : compileStage graph ordinal id = .ok compiled) :
    graph.nodesById id = some compiled.2.node ∧ compiled.2.nodeId = id
      ∧ nodeDefinition? compiled.2.nodeType = some compiled.1 := by
  unfold compileStage at h
  cases hnode : graph.nodesById id with
  | none =>
    rw [hnode] at h
    cases h
  | some node =>
  rw [hnode] at h
  dsimp only at h
  cases hdefinition : nodeDefinition? node.type with
  | none =>
    rw [hdefinition] at h
    cases h
  | some definition =>
  rw [hdefinition] at h
  dsimp only at h
  by_cases hstatus : definition.runtimeStatus = .unavailable
  · rw [if_pos hstatus] at h
    cases h
  · rw [if_neg hstatus, Except.ok.injEq] at h
    rw [← h]
    exact ⟨rfl, (nodesById_some hnode).2, hdefinition⟩

theorem compileStages_ok {ordinal : Nat} {ids : List String}
    {compiled : List (NodeDefinition × CompiledStage)}
    (h : compileStages graph ordinal ids = .ok compiled) : stageIds (compiled.map Prod.snd) = ids
      ∧ ∀ stage ∈ compiled.map Prod.snd, graph.nodesById stage.nodeId = some stage.node
        ∧ (nodeDefinition? stage.nodeType).isSome := by
  induction ids generalizing ordinal compiled with
  | nil =>
    rw [compileStages, Except.ok.injEq] at h
    rw [← h]
    exact ⟨rfl, fun stage hmem => absurd hmem not_mem_nil⟩
  | cons id rest ih =>
    unfold compileStages at h
    cases hstage : compileStage graph ordinal id with
    | error stop =>
      rw [hstage] at h
      cases h
    | ok first =>
    rw [hstage] at h
    cases hlater : compileStages graph (ordinal + 1) rest with
    | error stop =>
      rw [hlater] at h
      cases h
    | ok later =>
    rw [hlater, Except.ok.injEq] at h
    obtain ⟨hids, hall⟩ := ih hlater
    obtain ⟨hnode, hid, hdefinition⟩ := compileStage_ok hstage
    rw [← h]
    constructor
    · rw [stageIds] at hids ⊢
      rw [map_cons, map_cons, hids, hid]
    · intro stage hmem
      rw [map_cons] at hmem
      rcases mem_cons.mp hmem with rfl | hmem
      · exact ⟨hid ▸ hnode, by rw [hdefinition]; rfl⟩
      · exact hall stage hmem

structure StagesOf (graph : WorkflowGraphV1) (stages : List CompiledStage) : Prop where
  clean : CleanParts graph
  path : OnePath graph (stageIds stages)
  found : ∀ stage ∈ stages, graph.nodesById stage.nodeId = some stage.node
    ∧ (nodeDefinition? stage.nodeType).isSome

theorem stagesOf_plan (h : compileGraph E turns graph = .ok plan) : StagesOf graph plan.stages := by
  obtain ⟨orderedIds, entry, triggerKind, compiled, hcompiled, rfl⟩ := compileGraph_ok_iff.mp h
  obtain ⟨hids, hall⟩ := compileStages_ok hcompiled.stages
  have hclean := cleanParts hcompiled.noErrors
  refine ⟨hclean, ?_, hall⟩
  change OnePath graph (stageIds (compiled.map Prod.snd))
  rw [hids]
  exact orderedNodeIds_ok hclean hcompiled.ordered

variable {stages : List CompiledStage}

theorem StagesOf.nodes_perm (h : StagesOf graph stages) :
    (stages.map CompiledStage.node).Perm graph.nodes := by
  have hids : (stages.map CompiledStage.node).map WorkflowNode.id = stageIds stages := by
    rw [map_map]
    rfl
  have hnodup : (stages.map CompiledStage.node).Nodup := by
    refine List.Nodup.of_map WorkflowNode.id ?_
    rw [hids]
    exact h.path.nodup
  refine (List.Nodup.subperm hnodup fun node hnode => ?_).perm_of_length_le ?_
  · obtain ⟨stage, hstage, rfl⟩ := mem_map.mp hnode
    exact (nodesById_some (h.found stage hstage).1).1
  · have hlength := h.path.covers.length_eq
    rw [stageIds, nodeIds, length_map, length_map] at hlength
    rw [length_map, hlength]

theorem StagesOf.edges_perm (h : StagesOf graph stages) :
    (edgePairs graph).Perm ((stageIds stages).zip (stageIds stages).tail) := by
  obtain ⟨turns, hfollow⟩ := h.path.follow
  refine LinearGraph.edges_perm_steps h.path.linear hfollow h.path.nodup fun e he => ?_
  obtain ⟨edge, hedge, rfl⟩ := mem_map.mp he
  obtain ⟨_, _, _, _, hsource, _⟩ := (edges_join h.clean).2 edge hedge
  exact h.path.covers.mem_iff.mpr (nodesById_mem hsource)

theorem StagesOf.trigger_first (h : StagesOf graph stages) :
    ∃ first rest, stages = first :: rest ∧ isEntry first.node = true
      ∧ ∀ stage ∈ rest, isEntry stage.node = false := by
  obtain ⟨turns, hfollow⟩ := h.path.follow
  obtain ⟨ids, hids⟩ := LinearGraph.follow_head hfollow
  obtain ⟨entry, hentry, hisEntry, honly⟩ := entry_only_trigger h.clean
  obtain ⟨first, rest, rfl, hfirst, hrest⟩ := map_eq_cons_iff.mp hids
  have hnode : first.node = entry := by
    have hfound := (h.found first mem_cons_self).1
    rw [hfirst, hentry] at hfound
    exact (Option.some.inj hfound).symm
  refine ⟨first, rest, rfl, hnode ▸ hisEntry, fun stage hstage => ?_⟩
  by_contra hnot
  have htrigger : stage.node ∈ graph.nodes.filter isEntry := by
    have hfound := (h.found stage (mem_cons_of_mem _ hstage)).1
    refine mem_filter.mpr ⟨(nodesById_some hfound).1, ?_⟩
    rw [Bool.not_eq_false] at hnot
    exact hnot
  rw [honly, mem_singleton, ← hnode] at htrigger
  have hid : stage.nodeId = first.nodeId := congrArg WorkflowNode.id htrigger
  have hnodup := h.path.nodup
  rw [stageIds, map_cons, nodup_cons] at hnodup
  exact hnodup.1 (mem_map.mpr ⟨stage, hstage, hid⟩)

/-! ## Publications -/

theorem StagesOf.walk (h : StagesOf graph stages) {before after : List CompiledStage}
    {stage : CompiledStage} (heq : stages = before ++ stage :: after) : ∃ walk, Walk graph walk
      ∧ (stage :: before.reverse).map (fun s => nodeDefinition? s.nodeType)
        = walk.map fun entry => some entry.2 := by
  have hids : stageIds stages = stageIds before ++ stage.nodeId :: stageIds after := by
    rw [heq, stageIds, map_append, map_cons]
    rfl
  obtain ⟨walk, hwalk, hpath⟩ := walk_of_path h.clean h.path hids
  refine ⟨walk, hwalk, ?_⟩
  have hnodes : walk.map Prod.fst = (stage :: before.reverse).map CompiledStage.nodeId := by
    rw [hpath, map_cons, map_reverse]
    rfl
  have hleft : (stage :: before.reverse).map (fun s => nodeDefinition? s.nodeType)
      = ((stage :: before.reverse).map CompiledStage.nodeId).map fun id =>
        (graph.nodesById id).bind fun node => nodeDefinition? node.type := by
    rw [map_map]
    refine map_congr_left fun s hs => ?_
    have hmem : s ∈ stages := by
      rw [heq, mem_append, mem_cons]
      rcases mem_cons.mp hs with rfl | hs
      · exact .inr (.inl rfl)
      · exact .inl (mem_reverse.mp hs)
    rw [Function.comp_apply, (h.found s hmem).1]
    rfl
  rw [hleft, ← hnodes, map_map]
  exact map_congr_left fun entry hentry => hwalk.all_found entry hentry

theorem StagesOf.reviewed (h : StagesOf graph stages) {before after : List CompiledStage}
    {publish : CompiledStage} (heq : stages = before ++ publish :: after)
    (hpublish : publish.nodeType = "telegram_publish") : ∃ start review between,
      before = start ++ review :: between ∧ review.nodeType = "human_review"
        ∧ ∀ stage ∈ between, KeepsArtifact stage := by
  obtain ⟨walk, hwalk, hstages⟩ := h.walk heq
  have hflows := flows_of_walk h.clean h.path hwalk
  cases walk with
  | nil => cases hstages
  | cons last earlier =>
    rw [map_cons, map_cons, List.cons.injEq, hpublish] at hstages
    obtain ⟨hlast, hbefore⟩ := hstages
    have htelegram : last.2 = telegramPublish := by
      have hknown : nodeDefinition? "telegram_publish" = some telegramPublish := by decide
      rw [hknown] at hlast
      exact (Option.some.inj hlast).symm
    rw [map_cons, htelegram] at hflows
    obtain ⟨between, rest, hsplit, hkeeps⟩ := hflows.publication_reviewed
    have hdefinitions : before.reverse.map (fun s => nodeDefinition? s.nodeType)
        = between.map some ++ some humanReview :: rest.map some := by
      rw [hbefore]
      change earlier.map (some ∘ Prod.snd) = _
      rw [← map_map, hsplit, map_append, map_cons]
    obtain ⟨kept, others, hreverse, hkept, hothers⟩ := map_eq_append_iff.mp hdefinitions
    obtain ⟨review, start, rfl, hreview, _⟩ := map_eq_cons_iff.mp hothers
    refine ⟨start.reverse, review, kept.reverse, ?_, ?_, fun stage hstage => ?_⟩
    · have hback := congrArg List.reverse hreverse
      rw [reverse_reverse, reverse_append, reverse_cons, append_assoc] at hback
      exact hback
    · exact (nodeDefinition?_mem hreview).2.symm
    have hmem : nodeDefinition? stage.nodeType ∈ between.map some := by
      rw [← hkept]
      exact mem_map.mpr ⟨stage, mem_reverse.mp hstage, rfl⟩
    obtain ⟨definition, hdefinition, heq⟩ := mem_map.mp hmem
    exact ⟨definition, heq.symm, hkeeps definition hdefinition⟩

/-! ## The theorem -/

theorem compileStages_not_running (graph : WorkflowGraphV1) (ordinal : Nat) (ids : List String) :
    compileStages graph ordinal ids ≠ .error .running := by
  induction ids generalizing ordinal with
  | nil => exact fun h => by cases h
  | cons id rest ih =>
    unfold compileStages compileStage
    cases graph.nodesById id with
    | none => exact fun h => by cases h
    | some node =>
    dsimp only
    cases nodeDefinition? node.type with
    | none => exact fun h => by cases h
    | some definition =>
    dsimp only
    by_cases hstatus : definition.runtimeStatus = .unavailable
    · rw [if_pos hstatus]
      exact fun h => by cases h
    · rw [if_neg hstatus]
      have hrest := ih (ordinal + 1)
      cases hlater : compileStages graph (ordinal + 1) rest with
      | ok later => exact fun h => by cases h
      | error stop =>
        intro h
        rw [Except.error.injEq] at h
        exact hrest (h ▸ hlater)

theorem compileGraph_terminates (hturns : graph.nodes.length ≤ turns) :
    compileGraph E turns graph ≠ .error .running := by
  unfold compileGraph
  cases herrors : compileErrors E graph with
  | cons first rest => exact fun h => by cases h
  | nil =>
  have hdone := orderedNodeIds_terminates (cleanParts herrors) hturns
  cases hordered : orderedNodeIds turns graph with
  | error stop =>
    rw [hordered] at hdone
    exact fun h => hdone (by rw [Except.error.inj h])
  | ok orderedIds =>
  cases graph.nodesById graph.entryNodeId with
  | none => exact fun h => by cases h
  | some entry =>
  dsimp only
  cases triggerKind? entry.type with
  | none => exact fun h => by cases h
  | some triggerKind =>
  cases hstages : compileStages graph 0 orderedIds with
  | ok compiled => exact fun h => by cases h
  | error stop =>
    intro h
    rw [Except.error.injEq] at h
    exact compileStages_not_running graph 0 orderedIds (h ▸ hstages)

/-- **Compilation is sound.** With as many turns as there are nodes it ends, and a plan it gives
lays out the graph along its one path: its stages are the nodes, its steps the edges, it starts
at the only trigger, and before every publication comes a review with only stages that keep the
artifact in between. -/
theorem compileGraph_sound (E : DefinitionEnv) (graph : WorkflowGraphV1) :
    (∀ turns, graph.nodes.length ≤ turns → compileGraph E turns graph ≠ .error .running)
      ∧ ∀ turns plan, compileGraph E turns graph = .ok plan → SoundPlan graph plan := by
  refine ⟨fun turns hturns => compileGraph_terminates hturns, fun turns plan h => ?_⟩
  have hstages := stagesOf_plan h
  exact ⟨hstages.nodes_perm, hstages.edges_perm, hstages.trigger_first,
    fun before publish after heq => hstages.reviewed heq⟩

/-- The plan of a written, reviewed and published story. -/
theorem compileGraph_sound_reviewed :
    compileGraph (plainEnv fun _ => "") 4 reviewedPublication ≠ .error .running
      ∧ SoundPlan reviewedPublication
        (assemblePlan (plainEnv fun _ => "") reviewedPublication .manual reviewedStages) :=
  ⟨(compileGraph_sound (plainEnv fun _ => "") reviewedPublication).1 4 (by decide),
    (compileGraph_sound (plainEnv fun _ => "") reviewedPublication).2 4 _
      (reviewedPublication_compiles fun _ => "")⟩

end NewsCraft.Automations
