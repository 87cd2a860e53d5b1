import NewsCraft.Automations.AcyclicShapes

/-!
# Checks on a whole graph

The service collects the nodes that reach a cycle and the editor stops at the first one;
both find none exactly when every walk from a node ends. A breadth-first search has
rounds enough for every edge, so it finds what the entry leads to.
-/

namespace NewsCraft.Automations

open Lib GraphSearch Relation List

variable {graph : WorkflowGraphV1}

/-! ## Cycles -/

section Cycles

variable {next : String → List String} {ids : List String}

/-- Where `_cycle_nodes` stands between two calls of `visit`. -/
structure MarkedExactly (next : String → List String) (ids : List String)
    (state : CycleState) : Prop where
  done : ∀ v ∈ state.visited, v ∈ state.cycles ∨ Ends next v
  reaches : ∀ v ∈ state.cycles, v ∈ ids ∧ ReachesCycle next v

/-- What a call for `id` leaves behind: no mark is taken off, and `owner` is marked
unless every walk from `id` ends. -/
structure SettlesNode (next : String → List String) (ids : List String) (before : CycleState)
    (owner id : String) (after : CycleState) : Prop where
  exact : MarkedExactly next ids after
  kept : before.cycles ⊆ after.cycles
  marked : owner ∈ after.cycles ∨ Ends next id

theorem MarkedExactly.mark {state : CycleState} (h : MarkedExactly next ids state) {n : String}
    (hn : n ∈ ids) (hreach : ReachesCycle next n) :
    MarkedExactly next ids { state with cycles := n :: state.cycles } := by
  constructor
  · intro v hv
    exact (h.done v hv).imp_left (mem_cons_of_mem n)
  · intro v hv
    rcases mem_cons.mp hv with rfl | hv
    · exact ⟨hn, hreach⟩
    · exact h.reaches v hv

theorem MarkedExactly.again {state : CycleState} (h : MarkedExactly next ids state) {n : String}
    (hn : n ∈ ids) (hcycle : TransGen (Leads next) n n) :
    SettlesNode next ids state n n { state with cycles := n :: state.cycles } :=
  ⟨h.mark hn ⟨n, .refl, hcycle⟩, subset_cons_self n _, .inl mem_cons_self⟩

theorem MarkedExactly.visited {state : CycleState} (h : MarkedExactly next ids state) {n : String}
    (hn : n ∈ state.visited) : SettlesNode next ids state n n state :=
  ⟨h, List.Subset.refl _, h.done n hn⟩

theorem foldl_settles (owner : String → String) {g : CycleState → String → CycleState}
    {l : List String} (h : ∀ state, MarkedExactly next ids state → ∀ id ∈ l,
      SettlesNode next ids state (owner id) id (g state id))
    {state : CycleState} (hstate : MarkedExactly next ids state) :
    MarkedExactly next ids (l.foldl g state) ∧ state.cycles ⊆ (l.foldl g state).cycles
      ∧ ∀ id ∈ l, owner id ∈ (l.foldl g state).cycles ∨ Ends next id := by
  induction l generalizing state with
  | nil => exact ⟨hstate, List.Subset.refl _, fun id hid => absurd hid not_mem_nil⟩
  | cons n l ih =>
    rw [foldl_cons]
    have hfirst := h state hstate n mem_cons_self
    obtain ⟨hexact, hkept, hmarked⟩ :=
      ih (fun s hs id hid => h s hs id (mem_cons_of_mem n hid)) hfirst.exact
    refine ⟨hexact, List.Subset.trans hfirst.kept hkept, fun id hid => ?_⟩
    rcases mem_cons.mp hid with rfl | hid
    · exact hfirst.marked.imp_left fun hmem => hkept hmem
    · exact hmarked id hid

/-- One child of a node, as the loop in `_cycle_nodes` takes it. -/
def childVisit (next : String → List String) (depth : Nat) (visiting : List String)
    (nodeId : String) (state : CycleState) (child : String) : CycleState :=
  let state := cycleVisit next depth visiting state child
  if child ∈ state.cycles then { state with cycles := nodeId :: state.cycles } else state

theorem childVisit_settles {depth : Nat} {visiting : List String} {state : CycleState}
    {n child : String} (hn : n ∈ ids) (hchild : Leads next n child)
    (h : SettlesNode next ids state child child (cycleVisit next depth visiting state child)) :
    SettlesNode next ids state n child (childVisit next depth visiting n state child) := by
  unfold childVisit
  dsimp only
  by_cases hmarked : child ∈ (cycleVisit next depth visiting state child).cycles
  · rw [if_pos hmarked]
    have hreach := (h.exact.reaches child hmarked).2.of_leads hchild
    exact ⟨h.exact.mark hn hreach, subset_cons_of_subset n h.kept, .inl mem_cons_self⟩
  · rw [if_neg hmarked]
    exact ⟨h.exact, h.kept, .inr (h.marked.resolve_left hmarked)⟩

/-- **One call of `visit` settles its node**, given room for as many nested calls as
there are nodes. -/
theorem cycleVisit_settles (hclosed : ∀ a ∈ ids, ∀ b ∈ next a, b ∈ ids) {depth : Nat}
    {visiting : List String} {state : CycleState} {n : String} (hn : n ∈ ids)
    (hnodup : visiting.Nodup) (hsub : visiting ⊆ ids)
    (hdepth : ids.length ≤ depth + visiting.length)
    (hvisiting : ∀ v ∈ visiting, TransGen (Leads next) v n)
    (hstate : MarkedExactly next ids state) :
    SettlesNode next ids state n n (cycleVisit next depth visiting state n) := by
  induction depth generalizing visiting state n with
  | zero =>
    unfold cycleVisit
    split
    · rename_i hmem
      exact hstate.again hn (hvisiting n hmem)
    rename_i hnot
    split
    · rename_i hmem
      exact hstate.visited hmem
    · exact absurd (room_left hn hnot hnodup hsub hdepth) (Nat.lt_irrefl 0)
  | succ depth ih =>
    unfold cycleVisit
    split
    · rename_i hmem
      exact hstate.again hn (hvisiting n hmem)
    rename_i hnot
    split
    · rename_i hmem
      exact hstate.visited hmem
    have hroom : ids.length ≤ depth + (n :: visiting).length := by
      rw [length_cons]
      omega
    have hchild : ∀ s, MarkedExactly next ids s → ∀ c ∈ next n,
        SettlesNode next ids s n c (childVisit next depth (n :: visiting) n s c) := by
      intro s hs c hc
      refine childVisit_settles hn hc (ih (hclosed n hn c hc) (nodup_cons.mpr ⟨hnot, hnodup⟩)
        (cons_subset.mpr ⟨hn, hsub⟩) hroom (fun v hv => ?_) hs)
      rcases mem_cons.mp hv with rfl | hv
      · exact .single hc
      · exact (hvisiting v hv).tail hc
    obtain ⟨hexact, hkept, hmarked⟩ := foldl_settles (fun _ => n) hchild hstate
    -- the node is closed: it is marked, or no child of it was
    have hclose : n ∈ ((next n).foldl (childVisit next depth (n :: visiting) n) state).cycles
        ∨ Ends next n := by
      by_cases hmem : n ∈ ((next n).foldl (childVisit next depth (n :: visiting) n) state).cycles
      · exact .inl hmem
      · exact .inr (.of_children fun c hc => (hmarked c hc).resolve_left hmem)
    refine ⟨⟨fun v hv => ?_, hexact.reaches⟩, hkept, hclose⟩
    rcases mem_cons.mp hv with rfl | hv
    · exact hclose
    · exact hexact.done v hv

theorem cycleNodes_settled (hclosed : ∀ a ∈ ids, ∀ b ∈ next a, b ∈ ids) :
    (∀ id ∈ cycleNodes next ids, id ∈ ids ∧ ReachesCycle next id)
      ∧ ∀ id ∈ ids, id ∈ cycleNodes next ids ∨ Ends next id := by
  have hstart : MarkedExactly next ids ⟨[], []⟩ :=
    ⟨fun v hv => absurd hv not_mem_nil, fun v hv => absurd hv not_mem_nil⟩
  have hvisit : ∀ s, MarkedExactly next ids s → ∀ id ∈ ids,
      SettlesNode next ids s id id (cycleVisit next ids.length [] s id) := fun s hs id hid =>
    cycleVisit_settles hclosed hid nodup_nil (nil_subset _) (Nat.le_refl _)
      (fun v hv => absurd hv not_mem_nil) hs
  obtain ⟨hexact, _, hmarked⟩ := foldl_settles id hvisit hstart
  unfold cycleNodes
  simp only [mem_eraseDups]
  exact ⟨hexact.reaches, hmarked⟩

theorem cycleNodes_eq_nil_iff (hclosed : ∀ a ∈ ids, ∀ b ∈ next a, b ∈ ids) :
    cycleNodes next ids = [] ↔ ∀ id ∈ ids, Ends next id := by
  obtain ⟨hreach, hmarked⟩ := cycleNodes_settled hclosed
  constructor
  · intro hnil id hid
    refine (hmarked id hid).resolve_left fun hmem => ?_
    rw [hnil] at hmem
    exact not_mem_nil hmem
  · intro hends
    refine eq_nil_iff_forall_not_mem.mpr fun id hid => ?_
    obtain ⟨hnode, hcycle⟩ := hreach id hid
    exact (hends id hnode).not_reachesCycle hcycle

/-- **`_cycle_nodes` returns the nodes that reach a cycle**, in whatever order it takes
the nodes: none exactly when the graph has no cycle. -/
theorem cycleNodes_exact (hclosed : ∀ a ∈ ids, ∀ b ∈ next a, b ∈ ids) :
    (∀ id, id ∈ cycleNodes next ids ↔ id ∈ ids ∧ ReachesCycle next id)
      ∧ (cycleNodes next ids = [] ↔ ∀ id ∈ ids, ¬ TransGen (Leads next) id id)
      ∧ ∀ order : List String, (∀ id, id ∈ order ↔ id ∈ ids) →
        ∀ id, id ∈ cycleNodes next order ↔ id ∈ cycleNodes next ids := by
  have hexact : ∀ order : List String, (∀ id, id ∈ order ↔ id ∈ ids) →
      ∀ id, id ∈ cycleNodes next order ↔ id ∈ ids ∧ ReachesCycle next id := by
    intro order horder id
    have hclosed' : ∀ a ∈ order, ∀ b ∈ next a, b ∈ order := fun a ha b hb =>
      (horder b).mpr (hclosed a ((horder a).mp ha) b hb)
    obtain ⟨hreach, hmarked⟩ := cycleNodes_settled hclosed'
    constructor
    · intro hid
      exact ⟨(horder id).mp (hreach id hid).1, (hreach id hid).2⟩
    · intro ⟨hid, hcycle⟩
      exact (hmarked id ((horder id).mpr hid)).resolve_right fun hends =>
        hends.not_reachesCycle hcycle
  have hids := hexact ids fun _ => Iff.rfl
  refine ⟨hids, ?_, fun order horder id => (hexact order horder id).trans (hids id).symm⟩
  rw [eq_nil_iff_forall_not_mem]
  constructor
  · intro hnone id hid hcycle
    exact hnone id ((hids id).mpr ⟨hid, id, .refl, hcycle⟩)
  · intro hacyclic id hid
    obtain ⟨hnode, c, hpath, hcycle⟩ := (hids id).mp hid
    exact hacyclic c (walk_stays hclosed hpath hnode) hcycle

/-- `a` leads to `b` by two edges, `b` to itself and to `c`. -/
def loopAfterStart : String → List String
  | "a" => ["b", "b"]
  | "b" => ["b", "c"]
  | _ => []

/-- The node before the loop is marked with it. -/
theorem cycleNodes_exact_loop : "a" ∈ cycleNodes loopAfterStart ["c", "b", "a"]
    ∧ cycleNodes loopAfterStart ["c", "b", "a"] ≠ [] := by
  obtain ⟨hiff, hnil, _⟩ := cycleNodes_exact (show ∀ a ∈ ["c", "b", "a"],
    ∀ b ∈ loopAfterStart a, b ∈ ["c", "b", "a"] by decide)
  have hloop : Leads loopAfterStart "b" "b" := mem_cons_self
  refine ⟨(hiff "a").mpr ⟨by decide, "b", .single mem_cons_self, .single hloop⟩, fun h => ?_⟩
  exact hnil.mp h "b" (by decide) (.single hloop)

end Cycles

/-- Where every edge joins nodes, no walk comes back exactly when every walk from a
node ends. -/
theorem acyclic_iff_ends (hjoin : ∀ edge ∈ graph.edges, edge.sourceNodeId ∈ nodeIds graph
      ∧ edge.targetNodeId ∈ nodeIds graph) :
    Acyclic (adjacency graph.edges) ↔ ∀ id ∈ nodeIds graph, Ends (adjacency graph.edges) id := by
  constructor
  · intro h id _
    refine h.ends (nodeIds graph) (fun a b hab => ?_) id
    obtain ⟨edge, hedge, _, rfl⟩ := leads_iff.mp hab
    exact (hjoin edge hedge).2
  · intro h id hcycle
    obtain ⟨b, hab, _⟩ := TransGen.head'_iff.mp hcycle
    obtain ⟨edge, hedge, rfl, _⟩ := leads_iff.mp hab
    exact (h _ (hjoin edge hedge).1).no_return hcycle

/-! ## Reachability -/

theorem breadthFirst_sound {next : String → List String} {admitted : String → Bool}
    {P : String → Prop} (hstep : ∀ a, P a → ∀ b ∈ next a, P b) {rounds : Nat}
    {queue found : List String} (hqueue : ∀ id ∈ queue, P id) (hfound : ∀ id ∈ found, P id) :
    ∀ id ∈ breadthFirst next admitted rounds queue found, P id := by
  induction rounds generalizing queue found with
  | zero =>
    cases queue with
    | nil | cons _ _ => exact hfound
  | succ rounds ih =>
    cases queue with
    | nil => exact hfound
    | cons candidate queue =>
      have hcandidate := hqueue candidate mem_cons_self
      have hrest : ∀ id ∈ queue, P id := fun id hid => hqueue id (mem_cons_of_mem _ hid)
      unfold breadthFirst
      split
      · exact ih hrest hfound
      refine ih (fun id hid => ?_) fun id hid => ?_
      · rcases mem_append.mp hid with hid | hid
        · exact hrest id hid
        · exact hstep candidate hcandidate id hid
      · rcases mem_append.mp hid with hid | hid
        · exact hfound id hid
        · exact mem_singleton.mp hid ▸ hcandidate

theorem filter_source_length (edges : List WorkflowEdge) {found : List String} {id : String}
    (h : id ∉ found) : (edges.filter fun edge => edge.sourceNodeId ∉ found).length
      = (edges.filter fun edge => edge.sourceNodeId ∉ found ++ [id]).length
        + (adjacency edges id).length := by
  unfold adjacency
  simp only [length_map, mem_append, mem_singleton]
  induction edges with
  | nil => rfl
  | cons edge edges ih =>
    by_cases hid : edge.sourceNodeId = id
    · simp only [filter_cons, hid, h, or_true, not_true, not_false_eq_true, decide_true,
        decide_false, if_true, Bool.false_eq_true, if_false, length_cons]
      omega
    · by_cases hmem : edge.sourceNodeId ∈ found
      · simp only [filter_cons, hmem, hid, true_or, not_true, decide_false,
          Bool.false_eq_true, if_false]
        exact ih
      · simp only [filter_cons, hmem, hid, or_false, not_false_eq_true, decide_true,
          decide_false, if_true, Bool.false_eq_true, if_false, length_cons]
        omega

theorem breadthFirst_complete {edges : List WorkflowEdge} (admitted : String → Bool) {rounds : Nat}
    {queue found : List String}
    (hrounds : queue.length + (edges.filter fun edge => edge.sourceNodeId ∉ found).length ≤ rounds)
    (hclosed : ∀ a ∈ found, ∀ b ∈ adjacency edges a, admitted b = true → b ∈ found ∨ b ∈ queue) :
    (found ⊆ breadthFirst (adjacency edges) admitted rounds queue found
      ∧ ∀ id ∈ queue, admitted id = true →
        id ∈ breadthFirst (adjacency edges) admitted rounds queue found)
      ∧ ∀ a ∈ breadthFirst (adjacency edges) admitted rounds queue found,
        ∀ b ∈ adjacency edges a, admitted b = true →
          b ∈ breadthFirst (adjacency edges) admitted rounds queue found := by
  induction rounds generalizing queue found with
  | zero =>
    cases queue with
    | cons _ _ =>
      simp only [length_cons] at hrounds
      omega
    | nil =>
      refine ⟨⟨List.Subset.refl found, fun id hid => absurd hid not_mem_nil⟩, ?_⟩
      exact fun a ha b hb hadmitted =>
        (hclosed a ha b hb hadmitted).resolve_right not_mem_nil
  | succ rounds ih =>
    cases queue with
    | nil =>
      refine ⟨⟨List.Subset.refl found, fun id hid => absurd hid not_mem_nil⟩, ?_⟩
      exact fun a ha b hb hadmitted =>
        (hclosed a ha b hb hadmitted).resolve_right not_mem_nil
    | cons candidate queue =>
      rw [length_cons] at hrounds
      unfold breadthFirst
      by_cases hskip : candidate ∈ found ∨ admitted candidate = false
      · rw [if_pos hskip]
        have hcandidate : admitted candidate = true → candidate ∈ found := fun hadmitted =>
          hskip.resolve_right (by rw [hadmitted]; exact Bool.noConfusion)
        have hclosed' : ∀ a ∈ found, ∀ b ∈ adjacency edges a, admitted b = true →
            b ∈ found ∨ b ∈ queue := by
          intro a ha b hb hadmitted
          rcases hclosed a ha b hb hadmitted with hb | hb
          · exact .inl hb
          rcases mem_cons.mp hb with rfl | hb
          · exact .inl (hcandidate hadmitted)
          · exact .inr hb
        obtain ⟨⟨hfound, hqueue⟩, hall⟩ := ih (by omega) hclosed'
        refine ⟨⟨hfound, fun id hid hadmitted => ?_⟩, hall⟩
        rcases mem_cons.mp hid with rfl | hid
        · exact hfound (hcandidate hadmitted)
        · exact hqueue id hid hadmitted
      · rw [if_neg hskip]
        have hnew : candidate ∉ found := fun hmem => hskip (.inl hmem)
        have hlength := filter_source_length edges hnew
        have hclosed' : ∀ a ∈ found ++ [candidate], ∀ b ∈ adjacency edges a, admitted b = true →
              b ∈ found ++ [candidate] ∨ b ∈ queue ++ adjacency edges candidate := by
          intro a ha b hb hadmitted
          rcases mem_append.mp ha with ha | ha
          · rcases hclosed a ha b hb hadmitted with hb | hb
            · exact .inl (mem_append_left _ hb)
            rcases mem_cons.mp hb with rfl | hb
            · exact .inl (mem_append_right _ mem_cons_self)
            · exact .inr (mem_append_left _ hb)
          · rw [mem_singleton.mp ha] at hb
            exact .inr (mem_append_right _ hb)
        obtain ⟨⟨hfound, hqueue⟩, hall⟩ :=
          ih (by rw [length_append]; omega) hclosed'
        refine ⟨⟨fun id hid => hfound (mem_append_left _ hid), ?_⟩, hall⟩
        intro id hid hadmitted
        rcases mem_cons.mp hid with rfl | hid
        · exact hfound (mem_append_right _ mem_cons_self)
        · exact hqueue id (mem_append_left _ hid) hadmitted

/-- **A search finds what its start leads to**, where all of it is admitted. -/
theorem mem_breadthFirst_iff {edges : List WorkflowEdge} {admitted : String → Bool} {start : String}
    (hstart : admitted start = true) (hall : ∀ edge ∈ edges, admitted edge.targetNodeId = true)
    (id : String) : id ∈ breadthFirst (adjacency edges) admitted (edges.length + 1) [start] []
      ↔ ReflTransGen (Leads (adjacency edges)) start id := by
  constructor
  · refine breadthFirst_sound (P := ReflTransGen (Leads (adjacency edges)) start)
      (fun a ha b hb => ha.tail hb) (fun a ha => ?_) (fun a ha => absurd ha not_mem_nil) id
    exact mem_singleton.mp ha ▸ .refl
  · intro h
    have hrounds : [start].length + (edges.filter fun edge => edge.sourceNodeId ∉ []).length
        ≤ edges.length + 1 := by
      have hle := length_filter_le (fun edge : WorkflowEdge => edge.sourceNodeId ∉ []) edges
      rw [length_singleton]
      omega
    obtain ⟨⟨_, hqueue⟩, hclosed⟩ := breadthFirst_complete admitted hrounds
      fun a ha => absurd ha not_mem_nil
    induction h with
    | refl => exact hqueue start (mem_singleton_self start) hstart
    | tail _ hbc ih =>
      obtain ⟨edge, hedge, _, rfl⟩ := leads_iff.mp hbc
      exact hclosed _ ih _ hbc (hall edge hedge)

end NewsCraft.Automations
