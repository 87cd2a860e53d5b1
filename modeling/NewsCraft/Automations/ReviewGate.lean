import NewsCraft.Automations.Linear

/-!
# What is published was reviewed

The shape the validation computes for an output is the shape of the artifact that arrives
there, and the registry's contracts leave one way for an approved draft to reach a
publication: a review, and after it only steps that keep the artifact they were given.
-/

namespace NewsCraft.Automations

open Lib List Option

variable {E : DefinitionEnv} {turns : Nat} {graph : WorkflowGraphV1}

/-! ## Shapes along a path -/

/-- The output contract of a step, which has one output port at most. -/
def stepContract (definition : NodeDefinition) : Option ArtifactOutputContract :=
  definition.outputs.head?.bind fun port => port.2.outputContract

/-- The shape of the artifact a path of steps gives, the latest step first. -/
def shapeAlong : List NodeDefinition → ArtifactShape
  | [] => .unknown
  | definition :: before =>
    match stepContract definition with
    | none => .unknown
    | some contract => shapeForOutputContract contract (some (shapeAlong before))

/-- A step that hands on the artifact it was given. -/
def Keeps (definition : NodeDefinition) : Prop :=
  definition.family ∉ ["select_filter", "research", "generate"]
    ∧ ∀ contract ∈ stepContract definition, contract.preservesInputArtifact = true

/-- Going back, steps that keep the artifact lead to its review. -/
def Reviewed (definitions : List NodeDefinition) : Prop :=
  ∃ between before, definitions = between ++ humanReview :: before ∧ ∀ d ∈ between, Keeps d

/-- The path up to a step, each step taking what the one before it gives. -/
inductive Flows : List NodeDefinition → Prop where
  | entry {definition : NodeDefinition} : definition ∈ nodeRegistry → definition.entry = true →
      Flows [definition]
  | step {definition previous : NodeDefinition} {before : List NodeDefinition}
      {port : String × PortDefinition} : Flows (previous :: before) → definition ∈ nodeRegistry →
      definition.entry = false → previous.outputs ≠ [] → port ∈ definition.inputs →
      matchInputContract (shapeAlong (previous :: before))
        (port.2.inputContract.or definition.inputContract) ≠ .incompatible →
      Flows (definition :: previous :: before)

structure Traced (definitions : List NodeDefinition) : Prop where
  known : (shapeAlong definitions).known = true
  kind : (shapeAlong definitions).kind.isSome = true
  approved : (shapeAlong definitions).kind = some .draft →
    .approved ∈ (shapeAlong definitions).capabilities → Reviewed definitions

variable {definition : NodeDefinition}

theorem Reviewed.keep {before : List NodeDefinition} (h : Reviewed before)
    (hkeeps : Keeps definition) : Reviewed (definition :: before) := by
  obtain ⟨between, start, rfl, hall⟩ := h
  refine ⟨definition :: between, start, rfl, fun d hd => ?_⟩
  rcases mem_cons.mp hd with rfl | hd
  · exact hkeeps
  · exact hall d hd

theorem traced_entry : ∀ definition ∈ nodeRegistry, definition.entry = true →
    (shapeAlong [definition]).known = true ∧ (shapeAlong [definition]).kind.isSome = true
      ∧ (shapeAlong [definition]).kind ≠ some .draft := by
  decide

/-- A step whose output is a new artifact, approved by nobody if it is a draft. -/
def MakesUnapproved (contract : ArtifactOutputContract) : Prop :=
  contract.preservesInputArtifact = false ∧ contract.kind.isSome = true
    ∧ (contract.kind = some .draft → .approved ∉ contract.capabilities ++ contract.addsCapabilities)

/-- A step that keeps its input, approves nothing, and accepts only artifacts of
these kinds. -/
def KeepsKinds (definition : NodeDefinition) (contract : ArtifactOutputContract)
    (kinds : List ArtifactKind) : Prop :=
  contract.preservesInputArtifact = true ∧ (contract.kind = none ∨ contract.kind = some .draft)
    ∧ .approved ∉ contract.capabilities ∧ .approved ∉ contract.addsCapabilities
    ∧ ∀ port ∈ definition.inputs, ∀ input ∈ port.2.inputContract.or definition.inputContract,
        input.acceptedKinds ≠ [] ∧ ∀ kind ∈ input.acceptedKinds, kind ∈ kinds

instance : DecidablePred MakesUnapproved := fun _ => inferInstanceAs (Decidable (_ ∧ _))

instance (definition : NodeDefinition) (contract : ArtifactOutputContract)
    (kinds : List ArtifactKind) : Decidable (KeepsKinds definition contract kinds) :=
  inferInstanceAs (Decidable (_ ∧ _))

instance : DecidablePred Keeps := fun _ => inferInstanceAs (Decidable (_ ∧ _))

/-- A step with an output is the review, makes a new artifact, or keeps what it was given. -/
theorem step_classes : ∀ definition ∈ nodeRegistry, definition.entry = false →
    ∀ contract ∈ stepContract definition, definition = humanReview ∧ contract = approvedOutput
        ∨ MakesUnapproved contract ∨ (Keeps definition ∧ KeepsKinds definition contract [.draft])
        ∨ (contract.kind = none ∧ KeepsKinds definition contract [.article, .research]) := by
  decide

theorem has_contract : ∀ definition ∈ nodeRegistry, definition.outputs ≠ [] →
    (stepContract definition).isSome = true := by
  decide

/-- **The registry leaves no way around the review.** By cases on the step: a
step that makes a new artifact approves nothing, and one that keeps its input
approves only what was approved before, a review apart. -/
theorem traced_step {previous : NodeDefinition} {before : List NodeDefinition}
    {port : String × PortDefinition} (ih : Traced (previous :: before))
    (hmem : definition ∈ nodeRegistry) (hentry : definition.entry = false)
    (hout : definition.outputs ≠ []) (hport : port ∈ definition.inputs)
    (hmatch : matchInputContract (shapeAlong (previous :: before)) (port.2.inputContract.or
      definition.inputContract) ≠ .incompatible) : Traced (definition :: previous :: before) := by
  obtain ⟨input, hinput, hmeets⟩ := matchInputContract_meets ih.known hmatch
  obtain ⟨contract, hcontract⟩ := isSome_iff_exists.mp (has_contract definition hmem hout)
  have hshape : shapeAlong (definition :: previous :: before)
      = shapeForOutputContract contract (some (shapeAlong (previous :: before))) := by
    rw [shapeAlong, hcontract]
  have hmade : contract.preservesInputArtifact = false →
      shapeAlong (definition :: previous :: before)
        = ⟨contract.kind, contract.capabilities ++ contract.addsCapabilities,
            contract.kind.isSome⟩ := by
    intro hnew
    rw [hshape, shapeForOutputContract, hnew]
    rfl
  have hkept : contract.preservesInputArtifact = true →
      shapeAlong (definition :: previous :: before)
        = ⟨contract.kind.or (shapeAlong (previous :: before)).kind,
            (shapeAlong (previous :: before)).capabilities ++ contract.capabilities
              ++ contract.addsCapabilities, true⟩ := by
    intro hpreserves
    have hsome : (contract.kind.isSome || (shapeAlong (previous :: before)).kind.isSome) = true := by
      rw [ih.kind, Bool.or_true]
    rw [hshape, shapeForOutputContract, if_pos hpreserves]
    dsimp only [getD_some]
    rw [ih.known, hsome]
    rfl
  rcases step_classes definition hmem hentry contract hcontract with
    ⟨rfl, rfl⟩ | ⟨hnew, hsome, hunapproved⟩ | ⟨hkeeps, hpreserves, hkind, hown, hadds, hkinds⟩
    | ⟨hnone, hpreserves, hkind, hown, hadds, hkinds⟩
  · -- the review: it gives what it was given, and is itself the review
    constructor
    · rw [hkept rfl]
    · rw [hkept rfl]
      exact ih.kind
    · intro _ _
      exact ⟨[], previous :: before, rfl, fun d hd => absurd hd not_mem_nil⟩
  · constructor
    · rw [hmade hnew]
      exact hsome
    · rw [hmade hnew]
      exact hsome
    · intro hdraft happroved
      rw [hmade hnew] at hdraft happroved
      exact absurd happroved (hunapproved hdraft)
  · -- a draft that was kept had its approval before
    have hdraft : (shapeAlong (previous :: before)).kind = some .draft := by
      obtain ⟨hnonempty, hall⟩ := hkinds port hport input hinput
      rcases hmeets.kind with hnil | ⟨kind, hmem, hkind⟩
      · exact absurd hnil hnonempty
      · rw [hkind, mem_singleton.mp (hall kind hmem)]
    constructor
    · rw [hkept hpreserves]
    · rw [hkept hpreserves]
      rw [hdraft, isSome_or]
      exact Bool.or_true _
    · intro _ happroved
      rw [hkept hpreserves] at happroved
      rw [mem_append, mem_append] at happroved
      rcases happroved with (happroved | happroved) | happroved
      · exact (ih.approved hdraft happroved).keep hkeeps
      · exact absurd happroved hown
      · exact absurd happroved hadds
  · -- an article or a research is not a draft
    obtain ⟨hnonempty, hall⟩ := hkinds port hport input hinput
    rcases hmeets.kind with hnil | ⟨kind, hmem, hkind⟩
    · exact absurd hnil hnonempty
    have hshapeKind : (shapeAlong (definition :: previous :: before)).kind = some kind := by
      rw [hkept hpreserves]
      rw [hnone, hkind]
      rfl
    constructor
    · rw [hkept hpreserves]
    · rw [hshapeKind]
      rfl
    · intro hdraft _
      rw [hshapeKind, Option.some.injEq] at hdraft
      have hne := hall kind hmem
      rw [hdraft] at hne
      exact absurd hne (by decide)

theorem Flows.traced {definitions : List NodeDefinition} (h : Flows definitions)
    (hout : ∀ definition ∈ definitions.head?, definition.outputs ≠ []) : Traced definitions := by
  induction h with
  | @entry definition hmem hentry =>
    obtain ⟨hknown, hkind, hnot⟩ := traced_entry definition hmem hentry
    exact ⟨hknown, hkind, fun hdraft => absurd hdraft hnot⟩
  | @step definition previous before port hflows hmem hentry hprevious hport hmatch ih =>
    have hbefore : Traced (previous :: before) := by
      refine ih fun d hd => ?_
      rw [head?_cons, mem_def, Option.some.injEq] at hd
      rw [← hd]
      exact hprevious
    exact traced_step hbefore hmem hentry (hout definition rfl) hport hmatch

/-- **A publication has its review behind it**, and only steps that keep the
artifact in between. -/
theorem Flows.publication_reviewed {before : List NodeDefinition}
    (h : Flows (telegramPublish :: before)) : Reviewed before := by
  cases h with
  | entry hmem hentry => cases hentry
  | @step _ previous rest port hflows hmem hentry hprevious hport hmatch =>
    have htraced : Traced (previous :: rest) := by
      refine hflows.traced fun d hd => ?_
      rw [head?_cons, mem_def, Option.some.injEq] at hd
      rw [← hd]
      exact hprevious
    obtain ⟨input, hinput, hmeets⟩ := matchInputContract_meets htraced.known hmatch
    have happroved : input = approvedDraftInput := by
      rw [mem_singleton.mp hport] at hinput
      exact (Option.some.inj hinput).symm
    rw [happroved] at hmeets
    refine htraced.approved ?_ (hmeets.allOf _ mem_cons_self)
    rcases hmeets.kind with hnil | ⟨kind, hmem, hkind⟩
    · cases hnil
    · rw [hkind, mem_singleton.mp hmem]

/-! ## The shapes the validation computes -/

/-- The walk from the entry to a node, the latest first: one edge leads into each node. -/
inductive Walk (graph : WorkflowGraphV1) : List (String × NodeDefinition) → Prop where
  | entry {node : WorkflowNode} {definition : NodeDefinition} :
      graph.nodesById node.id = some node → nodeDefinition? node.type = some definition →
      definition.entry = true →
      (graph.edges.filter fun edge => edge.targetNodeId = node.id) = [] →
      Walk graph [(node.id, definition)]
  | step {edge : WorkflowEdge} {node : WorkflowNode} {definition : NodeDefinition}
      {previous : String × NodeDefinition} {before : List (String × NodeDefinition)} :
      Walk graph (previous :: before) → graph.nodesById node.id = some node →
      nodeDefinition? node.type = some definition →
      (graph.edges.filter fun edge => edge.targetNodeId = node.id) = [edge] →
      edge.sourceNodeId = previous.1 → (previous.2.output? edge.sourcePort).isSome →
      node.id ∉ (previous :: before).map Prod.fst →
      Walk graph ((node.id, definition) :: previous :: before)

variable {before : List (String × NodeDefinition)}

theorem Walk.found {here : String × NodeDefinition} (h : Walk graph (here :: before)) :
    ((graph.nodesById here.1).bind fun node => nodeDefinition? node.type) = some here.2 := by
  cases h with
  | entry hnode hdefinition _ _ | step _ hnode hdefinition _ _ _ _ =>
    rw [hnode, bind_some, hdefinition]

variable {walk : List (String × NodeDefinition)}

theorem Walk.unique {walk' : List (String × NodeDefinition)} (h : Walk graph walk)
    (h' : Walk graph walk') (hhead : walk.head?.map Prod.fst = walk'.head?.map Prod.fst) :
    walk = walk' := by
  induction h generalizing walk' with
  | entry hnode hdefinition _ hnone =>
    cases h' with
    | entry hnode' hdefinition' _ _ =>
      have hid := Option.some.inj hhead
      dsimp only at hid
      rw [hid, hnode', Option.some.injEq] at hnode
      rw [← hnode, hdefinition', Option.some.injEq] at hdefinition
      rw [hid, hdefinition]
    | step _ _ _ hone' _ _ _ =>
      have hid := Option.some.inj hhead
      dsimp only at hid
      rw [hid, hone'] at hnone
      cases hnone
  | step hwalk hnode hdefinition hone hsource _ _ ih =>
    cases h' with
    | entry _ _ _ hnone' =>
      have hid := Option.some.inj hhead
      dsimp only at hid
      rw [hid, hnone'] at hone
      cases hone
    | step hwalk' hnode' hdefinition' hone' hsource' _ _ =>
      have hid := Option.some.inj hhead
      dsimp only at hid
      rw [hid, hone', List.cons.injEq] at hone
      rw [hid, hnode', Option.some.injEq] at hnode
      rw [← hnode, hdefinition', Option.some.injEq] at hdefinition
      have hbefore := ih hwalk' (by
        rw [head?_cons, head?_cons, map_some, map_some, ← hsource, ← hsource', hone.1])
      rw [hid, hdefinition, hbefore]

/-- Every shape in the cache is that of the walk to its node. -/
def GoodCache (graph : WorkflowGraphV1) (cache : ShapeCache) : Prop :=
  ∀ key shape, cache.get key = some shape → ∀ definition before,
    Walk graph ((key.1, definition) :: before) →
      shape = shapeAlong (definition :: before.map Prod.snd)

theorem get_cons (key key' : String × String) (shape : ArtifactShape) (cache : ShapeCache) :
    ShapeCache.get ((key', shape) :: cache) key
      = if key' = key then some shape else ShapeCache.get cache key := by
  unfold ShapeCache.get
  rw [find?_cons]
  by_cases h : key' = key
  · simp [h]
  · simp [h]

variable {cache : ShapeCache} {id port : String}

theorem GoodCache.cons (h : GoodCache graph cache) (hwalk : Walk graph ((id, definition) :: before))
    : GoodCache graph (((id, port), shapeAlong (definition :: before.map Prod.snd)) :: cache) := by
  intro key shape hget definition' before' hwalk'
  rw [get_cons] at hget
  by_cases hkey : (id, port) = key
  · rw [if_pos hkey, Option.some.injEq] at hget
    rw [← hkey] at hwalk'
    have hsame := hwalk.unique hwalk' rfl
    rw [List.cons.injEq, Prod.mk.injEq] at hsame
    rw [← hget, hsame.1.2, hsame.2]
  · rw [if_neg hkey] at hget
    exact h key shape hget definition' before' hwalk'

theorem one_output : ∀ definition ∈ nodeRegistry, ∀ port ∈ definition.outputs,
    definition.outputs = [port] ∧ port.2.outputContract.isSome = true := by
  decide

theorem output?_contract {name : String} {port : PortDefinition} (hmem : definition ∈ nodeRegistry)
    (h : definition.output? name = some port) :
    stepContract definition = port.outputContract ∧ port.outputContract.isSome = true := by
  obtain ⟨entry, hfind, rfl⟩ := map_eq_some_iff.mp h
  obtain ⟨hone, hsome⟩ := one_output definition hmem entry (mem_of_find?_eq_some hfind)
  refine ⟨?_, hsome⟩
  rw [stepContract, hone]
  rfl

/-- The shape of one output, once that of the edge into its step is known. -/
def upstreamShape (graph : WorkflowGraphV1) (depth : Nat) (visiting : List (String × String))
    (cache : ShapeCache) (key : String × String) (contract : ArtifactOutputContract) :
    ArtifactShape × ShapeCache :=
  match graph.edges.filter (fun edge => edge.targetNodeId = key.1), depth with
  | [edge], depth + 1 =>
    (shapeForOutputContract contract (some
      (outputShape graph depth (key :: visiting) cache edge.sourceNodeId edge.sourcePort).1),
      (outputShape graph depth (key :: visiting) cache edge.sourceNodeId edge.sourcePort).2)
  | _, _ => (shapeForOutputContract contract none, cache)

/-- What a call does at a node of a walk: it finds the shape in the cache, or
computes it and adds it. -/
theorem outputShape_computed (hwalk : Walk graph ((id, definition) :: before)) {depth : Nat}
    {visiting : List (String × String)}
    (hvisiting : ∀ key ∈ visiting, key.1 ∉ ((id, definition) :: before).map Prod.fst)
    (hcache : GoodCache graph cache) (hport : (definition.output? port).isSome = true)
    (hupstream : ∀ contract, stepContract definition = some contract → (upstreamShape graph depth
      visiting cache (id, port) contract).1 = shapeAlong (definition :: before.map Prod.snd) ∧
      GoodCache graph (upstreamShape graph depth visiting cache (id, port) contract).2) :
    (outputShape graph depth visiting cache id port).1
        = shapeAlong (definition :: before.map Prod.snd)
      ∧ GoodCache graph (outputShape graph depth visiting cache id port).2 := by
  have hmem := (nodeDefinition?_mem (bind_eq_some_iff.mp hwalk.found).choose_spec.2).1
  obtain ⟨portDefinition, hfound⟩ := isSome_iff_exists.mp hport
  obtain ⟨hcontract, hsome⟩ := output?_contract hmem hfound
  obtain ⟨contract, hoffered⟩ := isSome_iff_exists.mp hsome
  obtain ⟨hshape, hgood⟩ := hupstream contract (hcontract.trans hoffered)
  have hnotVisiting : (id, port) ∉ visiting := fun hkey =>
    hvisiting (id, port) hkey mem_cons_self
  cases hget : cache.get (id, port) with
  | some shape =>
    unfold outputShape
    rw [hget]
    exact ⟨hcache _ _ hget definition before hwalk, hcache⟩
  | none =>
    have hadded : outputShape graph depth visiting cache id port
        = ((upstreamShape graph depth visiting cache (id, port) contract).1,
          ((id, port), (upstreamShape graph depth visiting cache (id, port) contract).1)
            :: (upstreamShape graph depth visiting cache (id, port) contract).2) := by
      unfold outputShape upstreamShape
      simp only [hget, if_neg hnotVisiting, hwalk.found, hfound, hoffered, some_or]
      generalize graph.edges.filter (fun edge => edge.targetNodeId = id) = into
      rcases into with _ | ⟨edge, _ | _⟩
      · rfl
      · cases depth with
        | zero | succ _ => rfl
      · rfl
    rw [hadded]
    rw [hshape]
    exact ⟨rfl, hgood.cons hwalk⟩

/-- **The shape computed for an output is that of the walk to its node**, from
any cache that is right about the walks. By induction on the walk; no node of it
is being visited, since it has no node twice. -/
theorem outputShape_along (hwalk : Walk graph walk) (heq : walk = (id, definition) :: before)
    {depth : Nat} (hdepth : before.length ≤ depth) {visiting : List (String × String)}
    (hvisiting : ∀ key ∈ visiting, key.1 ∉ walk.map Prod.fst) (hcache : GoodCache graph cache)
    (hport : (definition.output? port).isSome = true) :
    (outputShape graph depth visiting cache id port).1
        = shapeAlong (definition :: before.map Prod.snd)
      ∧ GoodCache graph (outputShape graph depth visiting cache id port).2 := by
  induction hwalk generalizing id definition before depth visiting cache port with
  | entry hnode hdefinition hentry hnone =>
    rw [List.cons.injEq, Prod.mk.injEq] at heq
    obtain ⟨⟨rfl, rfl⟩, rfl⟩ := heq
    have hwalk := Walk.entry hnode hdefinition hentry hnone
    refine outputShape_computed hwalk hvisiting hcache hport fun contract hcontract => ?_
    unfold upstreamShape
    rw [hnone]
    simp only [shapeAlong, hcontract, map_nil]
    exact ⟨rfl, hcache⟩
  | @step edge node definition' previous before' hprevious hnode hdefinition hone hsource hout hfresh
      ih =>
      rw [List.cons.injEq, Prod.mk.injEq] at heq
      obtain ⟨⟨rfl, rfl⟩, rfl⟩ := heq
      have hwalk := Walk.step hprevious hnode hdefinition hone hsource hout hfresh
      refine outputShape_computed hwalk hvisiting hcache hport fun contract hcontract => ?_
      unfold upstreamShape
      rw [hone]
      obtain ⟨id', d'⟩ := previous
      cases depth with
      | zero => simp at hdepth
      | succ depth =>
        have hdeeper : ∀ key ∈ (node.id, port) :: visiting,
            key.1 ∉ ((id', d') :: before').map Prod.fst := by
          intro key hkey
          rcases mem_cons.mp hkey with rfl | hkey
          · exact hfresh
          · exact fun hmem => hvisiting key hkey (mem_cons_of_mem _ hmem)
        have hlength : before'.length ≤ depth := by
          rw [length_cons] at hdepth
          omega
        obtain ⟨hshape, hgood⟩ := ih rfl hlength hdeeper hcache hout
        dsimp only at hsource ⊢
        rw [hsource]
        refine ⟨?_, hgood⟩
        rw [hshape]
        simp only [shapeAlong, hcontract, map_cons]

/-! ## Walks of a graph that compiles -/

theorem Walk.fresh (h : Walk graph walk) :
    (walk.map Prod.fst).Nodup ∧ walk.map Prod.fst ⊆ nodeIds graph := by
  induction h with
  | entry hnode _ _ _ =>
    refine ⟨nodup_singleton _, fun id hid => ?_⟩
    rw [mem_singleton.mp hid]
    exact nodesById_mem hnode
  | step _ hnode _ _ _ _ hfresh ih =>
    refine ⟨nodup_cons.mpr ⟨hfresh, ih.1⟩, fun id hid => ?_⟩
    rcases mem_cons.mp hid with rfl | hid
    · exact nodesById_mem hnode
    · exact ih.2 hid

theorem Walk.length_le (h : Walk graph walk) : walk.length ≤ graph.nodes.length := by
  have hle := (List.Nodup.subperm h.fresh.1 h.fresh.2).length_le
  rw [nodeIds, length_map, length_map] at hle
  exact hle

theorem Walk.all_found (h : Walk graph walk) : ∀ entry ∈ walk,
      ((graph.nodesById entry.1).bind fun node => nodeDefinition? node.type) = some entry.2 := by
  induction h with
  | entry hnode hdefinition hentry hnone =>
    intro entry hmem
    rw [mem_singleton.mp hmem]
    exact (Walk.entry hnode hdefinition hentry hnone).found
  | step hwalk hnode hdefinition hone hsource hout hfresh ih =>
    intro entry hmem
    rcases mem_cons.mp hmem with rfl | hmem
    · exact (Walk.step hwalk hnode hdefinition hone hsource hout hfresh).found
    · exact ih entry hmem

theorem mem_edgePairs {a b : String} (h : (a, b) ∈ edgePairs graph) :
    ∃ edge ∈ graph.edges, edge.sourceNodeId = a ∧ edge.targetNodeId = b := by
  obtain ⟨edge, hmem, heq⟩ := mem_map.mp h
  rw [Prod.mk.injEq] at heq
  exact ⟨edge, hmem, heq⟩

theorem edges_into (hlin : LinearGraph.Linear (edgePairs graph)) {edge : WorkflowEdge}
    (h : edge ∈ graph.edges) :
    (graph.edges.filter fun e => e.targetNodeId = edge.targetNodeId) = [edge] := by
  have hinto := hlin.into edge.targetNodeId
  rw [predecessors_edgePairs, reverseAdjacency, length_map] at hinto
  have hmem : edge ∈ graph.edges.filter fun e => e.targetNodeId = edge.targetNodeId :=
    mem_filter.mpr ⟨h, decide_eq_true rfl⟩
  have hone : (graph.edges.filter fun e => e.targetNodeId = edge.targetNodeId).length = 1 := by
    have hpos := length_pos_of_mem hmem
    omega
  obtain ⟨only, honly⟩ := length_eq_one_iff.mp hone
  rw [honly] at hmem ⊢
  rw [mem_singleton.mp hmem]

theorem isEntry_definition {node : WorkflowNode} (h : isEntry node = true) :
    ∃ definition, nodeDefinition? node.type = some definition ∧ definition.entry = true := by
  unfold isEntry at h
  cases hdefinition : nodeDefinition? node.type with
  | none =>
    rw [hdefinition] at h
    cases h
  | some definition =>
    rw [hdefinition] at h
    exact ⟨definition, rfl, h⟩

variable {path : List String}

/-- **Every start of the path is a walk.** By induction on its end. -/
theorem walk_of_path (hclean : CleanParts graph) (hpath : OnePath graph path) {start : List String}
    {later : List String} (heq : path = start ++ id :: later) :
    ∃ walk, Walk graph walk ∧ walk.map Prod.fst = id :: start.reverse := by
  induction start using List.reverseRecOn generalizing id later with
  | nil =>
    obtain ⟨entry, hentry, hisEntry, _⟩ := entry_only_trigger hclean
    obtain ⟨turns, hfollow⟩ := hpath.follow
    obtain ⟨rest, hrest⟩ := LinearGraph.follow_head hfollow
    obtain ⟨hmem, hid⟩ := nodesById_some hentry
    rw [heq, nil_append, List.cons.injEq] at hrest
    obtain ⟨definition, hdefinition, hdefEntry⟩ := isEntry_definition hisEntry
    have hnone : (graph.edges.filter fun edge => edge.targetNodeId = entry.id) = [] := by
      rw [filter_eq_nil_iff]
      intro edge hedge htarget
      refine entry_not_target hclean edge.sourceNodeId (mem_map.mpr ⟨edge, hedge, ?_⟩)
      rw [← hid, ← of_decide_eq_true htarget]
    refine ⟨_, .entry (hid ▸ hentry) hdefinition hdefEntry hnone, ?_⟩
    rw [hrest.1, ← hid]
    rfl
  | append_singleton start previous ih =>
    have hsplit : path = start ++ previous :: id :: later := by
      rw [heq, append_assoc]
      rfl
    obtain ⟨walk, hwalk, hids⟩ := ih hsplit
    obtain ⟨⟨previous', before⟩, rest, rfl⟩ : ∃ entry rest, walk = entry :: rest := by
      cases walk with
      | nil => cases hids
      | cons entry rest => exact ⟨entry, rest, rfl⟩
    obtain ⟨rfl, -⟩ := List.cons.inj hids
    obtain ⟨turns, hfollow⟩ := hpath.follow
    have hchain := LinearGraph.follow_isChain hfollow
    rw [hsplit, isChain_append_cons_cons] at hchain
    obtain ⟨edge, hedge, hsource, rfl⟩ := mem_edgePairs hchain.2.1
    obtain ⟨source, target, sourceDefinition, definition, hsourceNode, htargetNode, _,
      hsourceDefinition, hdefinition, hout, _⟩ := (edges_join hclean).2 edge hedge
    have hbefore : sourceDefinition = before := by
      have hfound := hwalk.found
      rw [← hsource, hsourceNode, bind_some, hsourceDefinition] at hfound
      exact Option.some.inj hfound
    have hfresh : edge.targetNodeId ∉ ((previous', before) :: rest).map Prod.fst := by
      have hnodup := hpath.nodup
      rw [heq, nodup_append] at hnodup
      intro hmem
      rw [hids] at hmem
      have hstart : edge.targetNodeId ∈ start ++ [previous'] := by
        rw [← mem_reverse, reverse_append]
        exact hmem
      exact hnodup.2.2 _ hstart _ mem_cons_self rfl
    obtain ⟨_, hid⟩ := nodesById_some htargetNode
    rw [← hid] at htargetNode hfresh
    have hone := edges_into hpath.linear hedge
    rw [← hid] at hone
    refine ⟨_, .step hwalk htargetNode hdefinition hone hsource (hbefore ▸ hout) hfresh, ?_⟩
    rw [map_cons, hids, hid, reverse_append]
    rfl

/-! ## Every edge of the path is matched -/

/-- What the validation has checked of an edge, seen from the walk to its source. -/
def Matches (graph : WorkflowGraphV1) (edge : WorkflowEdge) : Prop :=
  ∀ definition before, Walk graph ((edge.sourceNodeId, definition) :: before) →
    ∃ target after port, graph.nodesById edge.targetNodeId = some target
      ∧ nodeDefinition? target.type = some after ∧ after.input? edge.targetPort = some port
      ∧ matchInputContract (shapeAlong (definition :: before.map Prod.snd))
          (port.inputContract.or after.inputContract) ≠ .incompatible

theorem edges_match (hclean : CleanParts graph) (hpath : OnePath graph path) :
    ∀ edge ∈ graph.edges, Matches graph edge := by
  have hstep : ∀ cache edge later source target before after port, GoodCache graph cache →
      EdgeAccepted graph cache edge later source target before after port →
      GoodCache graph later ∧ Matches graph edge := by
    intro cache edge later source target before after port hcache haccepted
    have hmem : edge.sourceNodeId ∈ path :=
      hpath.covers.mem_iff.mpr (nodesById_mem haccepted.sourceNode)
    obtain ⟨start, rest, hsplit⟩ := append_of_mem hmem
    obtain ⟨walk, hwalk, hids⟩ := walk_of_path hclean hpath hsplit
    obtain ⟨⟨id, definition⟩, earlier, rfl⟩ : ∃ entry rest, walk = entry :: rest := by
      cases walk with
      | nil => cases hids
      | cons entry rest => exact ⟨entry, rest, rfl⟩
    obtain ⟨rfl, -⟩ := List.cons.inj hids
    have hdefinition : before = definition := by
      have hfound := hwalk.found
      rw [haccepted.sourceNode, bind_some, haccepted.sourceDefinition] at hfound
      exact Option.some.inj hfound
    have hlength : earlier.length ≤ graph.nodes.length := by
      have hle := hwalk.length_le
      rw [length_cons] at hle
      omega
    obtain ⟨hshape, hgood⟩ := outputShape_along hwalk rfl hlength
      (fun key hkey => absurd hkey not_mem_nil) hcache (hdefinition ▸ haccepted.sourcePort)
    refine ⟨haccepted.shapes ▸ hgood, fun definition' before' hwalk' => ?_⟩
    have hsame := hwalk'.unique hwalk rfl
    rw [List.cons.injEq, Prod.mk.injEq] at hsame
    refine ⟨target, after, port, haccepted.targetNode, haccepted.targetDefinition,
      haccepted.targetPort, ?_⟩
    rw [hsame.1.2, hsame.2, ← hshape]
    exact haccepted.matched
  have hempty : GoodCache graph [] := by
    intro key shape hget
    cases hget
  have hscan := scanEdges_clean hstep graph.edges.zipIdx ⟨[], [], [], []⟩ hempty hclean.edges
  rw [zipIdx_map_fst] at hscan
  exact hscan.2

theorem flows_of_walk (hclean : CleanParts graph) (hpath : OnePath graph path) (h : Walk graph walk)
    : Flows (walk.map Prod.snd) := by
  induction h with
  | entry hnode hdefinition hentry _ => exact .entry (nodeDefinition?_mem hdefinition).1 hentry
  | @step edge node definition previous before hwalk hnode hdefinition hone hsource hout hfresh ih =>
    have hedge : edge ∈ graph.edges := by
      have hmem : edge ∈ graph.edges.filter fun e => e.targetNodeId = node.id := by
        rw [hone]
        exact mem_singleton_self edge
      exact (mem_filter.mp hmem).1
    have htarget : edge.targetNodeId = node.id := by
      have hmem : edge ∈ graph.edges.filter fun e => e.targetNodeId = node.id := by
        rw [hone]
        exact mem_singleton_self edge
      exact of_decide_eq_true (mem_filter.mp hmem).2
    obtain ⟨_, target, _, after, _, htargetNode, hnot, _, hafter, _, _⟩ :=
      (edges_join hclean).2 edge hedge
    rw [htarget, hnode, Option.some.injEq] at htargetNode
    rw [← htargetNode] at hnot
    have hentry : definition.entry = false := by
      rw [isEntry, hdefinition] at hnot
      exact hnot
    have hwalk' : Walk graph ((edge.sourceNodeId, previous.2) :: before) := by
      rw [hsource]
      exact hwalk
    obtain ⟨target', after', port, htargetNode', hafter', hport, hmatch⟩ :=
      edges_match hclean hpath edge hedge previous.2 before hwalk'
    rw [htarget, hnode, Option.some.injEq] at htargetNode'
    rw [← htargetNode', hdefinition, Option.some.injEq] at hafter'
    rw [← hafter'] at hport hmatch
    obtain ⟨entry, hfind, rfl⟩ := map_eq_some_iff.mp hport
    have houtputs : previous.2.outputs ≠ [] := by
      intro hnil
      rw [NodeDefinition.output?, hnil] at hout
      cases hout
    exact .step ih (nodeDefinition?_mem hdefinition).1 hentry houtputs
      (mem_of_find?_eq_some hfind) hmatch

end NewsCraft.Automations
