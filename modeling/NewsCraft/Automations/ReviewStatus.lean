import NewsCraft.Automations.RunState

/-!
# When a run waits for a review

A run waits for a review while its current node does. The projections write the two rows
together with four exceptions, which take the current node out of its review and return
before they have written to the run. `Strands` names them: along a run that does none of
them the two rows agree, and each of them makes them disagree.
-/

namespace NewsCraft.Automations

open Lib Jobs Option Table

namespace RunRows

variable {rows : RunRows} {nodeId : String} {write : AutomationNodeRun → AutomationNodeRun}

def statusOf (rows : RunRows) (nodeId : String) : Option NodeStatus :=
  (rows.nodes.lookup nodeId).map AutomationNodeRun.status

/-- The run waits for a review if and only if its current node does. -/
def Consistent (rows : RunRows) : Prop :=
  rows.run.status = .waitingForReview
    ↔ ∃ node, rows.currentNode = some node ∧ node.status = .waitingForReview

/-! ## Writes and statuses -/

@[simp] theorem run_updateNode : (rows.updateNode nodeId write).run = rows.run := by
  rw [updateNode]
  cases rows.nodes.lookup nodeId <;> rfl

variable {node : AutomationNodeRun}

theorem lookup_updateNode_self (h : rows.nodes.lookup nodeId = some node) :
    (rows.updateNode nodeId write).nodes.lookup nodeId
      = some { write node with nodeId := nodeId } := by
  rw [updateNode, h]
  exact lookup_put_self (r := { write node with nodeId := nodeId }) h

variable {other : String}

theorem lookup_updateNode_of_ne (hne : other ≠ nodeId) :
    (rows.updateNode nodeId write).nodes.lookup other = rows.nodes.lookup other := by
  rw [updateNode]
  cases rows.nodes.lookup nodeId with
  | none => rfl
  | some node => exact lookup_put_of_ne (r := { write node with nodeId := nodeId }) hne

theorem lookup_updateNode (rows : RunRows) (nodeId other : String)
    (write : AutomationNodeRun → AutomationNodeRun) :
    (rows.updateNode nodeId write).nodes.lookup other = (rows.nodes.lookup other).map fun node =>
          if other = nodeId then { write node with nodeId := nodeId } else node := by
  by_cases hne : other = nodeId
  · subst hne
    cases h : rows.nodes.lookup other with
    | none => rw [updateNode, h]; exact h
    | some node => rw [lookup_updateNode_self h, map_some, if_pos rfl]
  · rw [lookup_updateNode_of_ne hne]
    simp [hne]

@[simp] theorem statusOf_updateRun {f : AutomationRun → AutomationRun} :
    (rows.updateRun f).statusOf other = rows.statusOf other := rfl

variable {job : WorkflowJob}

@[simp] theorem statusOf_putJob :
    (rows.putJob job).statusOf other = rows.statusOf other := rfl

@[simp] theorem run_putJob : (rows.putJob job).run = rows.run := rfl

theorem statusOf_updateNode_of_ne (hne : other ≠ nodeId) :
    (rows.updateNode nodeId write).statusOf other = rows.statusOf other := by
  rw [statusOf, lookup_updateNode_of_ne hne]
  rfl

theorem statusOf_updateNode_self {status : NodeStatus} (hw : ∀ node, (write node).status = status)
    (h : (rows.statusOf nodeId).isSome) :
    (rows.updateNode nodeId write).statusOf nodeId = some status := by
  obtain ⟨node, hnode, -⟩ := map_eq_some_iff.mp (some_get h).symm
  rw [statusOf, lookup_updateNode_self hnode]
  exact congrArg some (hw node)

theorem statusOf_updateNode_ne_waiting (hw : ∀ node, (write node).status ≠ .waitingForReview)
    (h : other = nodeId ∨ rows.statusOf other ≠ some .waitingForReview) :
    (rows.updateNode nodeId write).statusOf other ≠ some .waitingForReview := by
  rw [statusOf, lookup_updateNode]
  by_cases hne : other = nodeId
  · cases rows.nodes.lookup other with
    | none => simp
    | some node => simpa [hne] using hw node
  · simpa [hne, statusOf] using h

theorem statusOf_updateNode_keep (hw : ∀ node, (write node).status = node.status) :
    (rows.updateNode nodeId write).statusOf other = rows.statusOf other := by
  rw [statusOf, statusOf, lookup_updateNode]
  cases rows.nodes.lookup other with
  | none => rfl
  | some node =>
    by_cases hne : other = nodeId
    · simp [hne, hw]
    · simp [hne]

theorem isSome_statusOf_updateNode :
    ((rows.updateNode nodeId write).statusOf other).isSome = (rows.statusOf other).isSome := by
  rw [statusOf, statusOf, lookup_updateNode]
  simp

/-! ## Two rows that agree -/

theorem consistent_iff : rows.Consistent ↔ (rows.run.status = .waitingForReview
      ↔ ∃ nodeId, rows.run.currentNodeId = some nodeId
          ∧ rows.statusOf nodeId = some .waitingForReview) := by
  unfold Consistent currentNode statusOf
  cases rows.run.currentNodeId with
  | none | some _ => simp

theorem consistent_of_waiting (hrun : rows.run.status = .waitingForReview)
    (hcurrent : rows.run.currentNodeId = some nodeId)
    (hnode : rows.statusOf nodeId = some .waitingForReview) : rows.Consistent :=
  consistent_iff.mpr ⟨fun _ => ⟨nodeId, hcurrent, hnode⟩, fun _ => hrun⟩

theorem consistent_of_not_waiting (hrun : rows.run.status ≠ .waitingForReview)
    (hnode : ∀ nodeId, rows.run.currentNodeId = some nodeId →
      rows.statusOf nodeId ≠ some .waitingForReview) : rows.Consistent := by
  refine consistent_iff.mpr ⟨fun h => absurd h hrun, ?_⟩
  rintro ⟨nodeId, hcurrent, h⟩
  exact absurd h (hnode nodeId hcurrent)

theorem consistent_of_at {status : NodeStatus} (hrun : rows.run.status ≠ .waitingForReview)
    (hcurrent : rows.run.currentNodeId = some nodeId) (hnode : rows.statusOf nodeId = some status)
    (hstatus : status ≠ .waitingForReview) : rows.Consistent := by
  refine consistent_of_not_waiting hrun fun other hother => ?_
  rw [hcurrent] at hother
  cases hother
  rw [hnode]
  simpa using hstatus

theorem consistent_of_ended (hrun : rows.run.status ≠ .waitingForReview)
    (hcurrent : rows.run.currentNodeId = none) : rows.Consistent := by
  refine consistent_of_not_waiting hrun fun other hother => ?_
  rw [hcurrent] at hother
  cases hother

theorem not_consistent (hrun : rows.run.status = .waitingForReview)
    (hcurrent : rows.run.currentNodeId = some nodeId)
    (hnode : rows.statusOf nodeId ≠ some .waitingForReview) : ¬ rows.Consistent := by
  intro h
  obtain ⟨other, hother, hwaits⟩ := (consistent_iff.mp h).mp hrun
  rw [hcurrent] at hother
  cases hother
  exact hnode hwaits

variable {rows' : RunRows}

/-- What a transaction keeps that leaves the run and the waiting of its current node alone. -/
theorem Consistent.congr (h : rows.Consistent) (hrun : rows'.run.status = rows.run.status)
    (hcurrent : rows'.run.currentNodeId = rows.run.currentNodeId)
    (hnode : ∀ nodeId, rows.run.currentNodeId = some nodeId → (rows'.statusOf nodeId = some
      .waitingForReview ↔ rows.statusOf nodeId = some .waitingForReview)) : rows'.Consistent := by
  refine consistent_iff.mpr ?_
  rw [hrun, hcurrent]
  refine (consistent_iff.mp h).trans ?_
  exact exists_congr fun nodeId => and_congr_right fun hc => (hnode nodeId hc).symm

theorem Consistent.waits (h : rows.Consistent) (hcurrent : rows.run.currentNodeId = some nodeId)
    (hnode : rows.statusOf nodeId = some .waitingForReview) :
    rows.run.status = .waitingForReview :=
  (consistent_iff.mp h).mpr ⟨nodeId, hcurrent, hnode⟩

/-- `rows'` is `rows` with the node out of its review and nothing else that matters here. -/
structure Left (rows : RunRows) (nodeId : String) (rows' : RunRows) : Prop where
  status : rows'.run.status = rows.run.status
  current : rows'.run.currentNodeId = rows.run.currentNodeId
  self : rows'.statusOf nodeId ≠ some .waitingForReview
  other : ∀ other, other ≠ nodeId → rows'.statusOf other = rows.statusOf other

theorem Consistent.left_iff (h : rows.Consistent) (hl : Left rows nodeId rows') : rows'.Consistent
      ↔ ¬ (rows.run.currentNodeId = some nodeId
            ∧ rows.statusOf nodeId = some .waitingForReview) := by
  constructor
  · rintro h' ⟨hcurrent, hwaits⟩
    have hrun : rows'.run.status = .waitingForReview := hl.status.trans (h.waits hcurrent hwaits)
    exact not_consistent hrun (hl.current.trans hcurrent) hl.self h'
  · intro hnot
    refine h.congr hl.status hl.current fun other hcurrent => ?_
    by_cases hne : other = nodeId
    · subst hne
      exact ⟨fun hw => absurd hw hl.self, fun hw => absurd ⟨hcurrent, hw⟩ hnot⟩
    · rw [hl.other other hne]

theorem left_updateNode (hw : ∀ node, (write node).status ≠ .waitingForReview) :
    Left rows nodeId (rows.updateNode nodeId write) where
  status := by rw [run_updateNode]
  current := by rw [run_updateNode]
  self := statusOf_updateNode_ne_waiting hw (.inl rfl)
  other := fun _ hne => statusOf_updateNode_of_ne hne

/-! ## The nodes of a run stay -/

/-- The rows are those of the same nodes, whatever else was written to them. -/
structure SameNodes (rows rows' : RunRows) : Prop where
  firstNodeId : ∀ nodeType, rows'.run.resourceSnapshot.firstNodeId nodeType
    = rows.run.resourceSnapshot.firstNodeId nodeType
  ids : ∀ nodeId, (rows'.nodes.lookup nodeId).map AutomationNodeRun.id
    = (rows.nodes.lookup nodeId).map AutomationNodeRun.id

theorem SameNodes.refl (rows : RunRows) : SameNodes rows rows := ⟨fun _ => rfl, fun _ => rfl⟩

variable {start : RunRows}

theorem SameNodes.updateNode (h : SameNodes start rows) (hw : ∀ node, (write node).id = node.id) :
    SameNodes start (rows.updateNode nodeId write) where
  firstNodeId := fun nodeType => by rw [run_updateNode]; exact h.firstNodeId nodeType
  ids := fun other => by
    rw [← h.ids other, lookup_updateNode]
    cases rows.nodes.lookup other with
    | none => rfl
    | some node =>
      by_cases hne : other = nodeId
      · simp [hne, hw]
      · simp [hne]

theorem SameNodes.trans (h : SameNodes start rows) (h' : SameNodes rows rows') :
    SameNodes start rows' :=
  ⟨fun nodeType => (h'.firstNodeId nodeType).trans (h.firstNodeId nodeType),
    fun nodeId => (h'.ids nodeId).trans (h.ids nodeId)⟩

theorem SameNodes.setCurrentArtifact (h : SameNodes start rows) (artifact : Option WorkflowArtifact)
    : SameNodes start (rows.setCurrentArtifact artifact) := by
  cases artifact with
  | none => exact h
  | some artifact => exact ⟨h.firstNodeId, h.ids⟩

theorem SameNodes.nodeByType (h : SameNodes rows rows') (nodeType : String) :
    (rows'.nodeByType nodeType).map AutomationNodeRun.id
      = (rows.nodeByType nodeType).map AutomationNodeRun.id := by
  rw [RunRows.nodeByType, RunRows.nodeByType, h.firstNodeId]
  cases rows.run.resourceSnapshot.firstNodeId nodeType with
  | none => rfl
  | some first => exact h.ids first

theorem SameNodes.isSome_nodeByType (h : SameNodes rows rows') (nodeType : String) :
    (rows'.nodeByType nodeType).isSome = (rows.nodeByType nodeType).isSome := by
  have hid := congrArg Option.isSome (h.nodeByType nodeType)
  rwa [isSome_map, isSome_map] at hid

theorem SameNodes.requiredReview (h : SameNodes rows rows') (result : HandlerResult) :
    (rows'.requiredReview result).isSome = (rows.requiredReview result).isSome := by
  unfold RunRows.requiredReview
  cases result.reviewRequired with
  | false => rfl
  | true =>
    cases result.revisionId with
    | none => rfl
    | some revisionId => simpa using h.isSome_nodeByType "human_review"

theorem SameNodes.reachesEnd (h : SameNodes rows rows') (node : AutomationNodeRun) :
    rows'.reachesEnd node = rows.reachesEnd node := by
  have hany : ∀ rows : RunRows,
      (rows.nodeByType "telegram_publish").any (fun publish => publish.id = node.id)
        = ((rows.nodeByType "telegram_publish").map AutomationNodeRun.id).any fun id =>
            decide (id = node.id) := by
    intro rows
    cases rows.nodeByType "telegram_publish" <;> rfl
  rw [RunRows.reachesEnd, RunRows.reachesEnd, hany, hany, h.nodeByType,
    h.isSome_nodeByType "save_drafts"]

theorem lookup_of_nodeByType {nodeType : String} (h : rows.nodeByType nodeType = some node) :
    rows.nodes.lookup node.nodeId = some node := by
  obtain ⟨first, -, hnode⟩ := bind_eq_some_iff.mp h
  exact lookup_of_mem (mem_of_lookup hnode)

theorem lookup_of_linkedNode (h : rows.linkedNode job = some node) :
    rows.nodes.lookup node.nodeId = some node := by
  rw [linkedNode] at h
  split at h
  · obtain ⟨id, -, hnode⟩ := bind_eq_some_iff.mp h
    exact lookup_of_mem (List.mem_of_find?_eq_some hnode)
  · cases h

theorem isSome_statusOf (h : rows.nodes.lookup nodeId = some node) :
    (rows.statusOf nodeId).isSome := by
  rw [statusOf, h]
  rfl

/-! ## A job succeeds -/

/-- The node is where the run waits for a review. -/
def AtReview (rows : RunRows) (node : AutomationNodeRun) : Prop :=
  rows.run.currentNodeId = some node.nodeId ∧ node.status = .waitingForReview

theorem atReview_iff (h : rows.nodes.lookup node.nodeId = some node) :
    rows.AtReview node ↔ rows.run.currentNodeId = some node.nodeId
      ∧ rows.statusOf node.nodeId = some .waitingForReview := by
  rw [AtReview, statusOf, h]
  simp

theorem queueContinuation_consistent {target : AutomationNodeRun} {continuation : WorkflowJob}
    (h : (rows.statusOf target.nodeId).isSome) :
    (rows.queueContinuation target continuation).Consistent := by
  refine consistent_of_at (by simp [queueContinuation, updateRun]) rfl ?_
    (show NodeStatus.queued ≠ _ by decide)
  exact statusOf_updateNode_self (fun _ => rfl) h

variable {review : AutomationNodeRun} {result : HandlerResult} {observedAt : Datetime}

theorem holdForReview_consistent {continuation : WorkflowJob} {artifact : WorkflowArtifact}
    (h : (rows.statusOf review.nodeId).isSome) :
    (rows.holdForReview node review continuation artifact result observedAt).Consistent := by
  refine consistent_of_waiting rfl rfl ?_
  refine statusOf_updateNode_self (fun _ => rfl) ?_
  rw [finishNode, isSome_statusOf_updateNode]
  exact h

variable {artifact : Option WorkflowArtifact}

theorem sameNodes_saveDrafts (rows : RunRows) :
    SameNodes rows (rows.saveDrafts artifact observedAt) := by
  unfold saveDrafts
  cases rows.nodeByType "save_drafts" with
  | none => exact .refl rows
  | some terminal =>
    by_cases hpending : terminal.status = .pending
    · simp only [hpending, if_true]
      exact (SameNodes.refl rows).updateNode fun _ => rfl
    · simp only [hpending, if_false]
      exact .refl rows

theorem saveDrafts_of_not_reachesEnd (h : rows.reachesEnd node = false) :
    rows.saveDrafts artifact observedAt = rows := by
  unfold saveDrafts
  cases hdrafts : rows.nodeByType "save_drafts" with
  | none => rfl
  | some terminal =>
    rw [reachesEnd, hdrafts] at h
    simp at h

theorem waitForReview_consistent {revisionId : UUID} (h : (rows.statusOf review.nodeId).isSome) :
    (rows.waitForReview review revisionId artifact result observedAt).Consistent :=
  consistent_of_waiting rfl rfl (statusOf_updateNode_self (fun _ => rfl) h)

theorem isSome_statusOf_nodeByType {nodeType : String} (h : rows.nodeByType nodeType = some node) :
    (rows.statusOf node.nodeId).isSome :=
  isSome_statusOf (lookup_of_nodeByType h)

theorem continueWith_consistent (h : rows.Consistent) (hnode : (rows.statusOf node.nodeId).isSome)
    (job continuation : WorkflowJob) (artifact : Option WorkflowArtifact) (result : HandlerResult)
    (observedAt : Datetime) :
    (rows.continueWith node job continuation artifact result observedAt).Consistent := by
  unfold continueWith
  cases hboundary : rows.reviewBoundary node artifact with
  | some boundary =>
    obtain ⟨review, artifact⟩ := boundary
    refine holdForReview_consistent ?_
    rw [reviewBoundary] at hboundary
    split at hboundary
    · obtain ⟨_, -, hmap⟩ := bind_eq_some_iff.mp hboundary
      obtain ⟨_, hreview, heq⟩ := map_eq_some_iff.mp hmap
      cases heq
      exact isSome_statusOf_nodeByType hreview
    · cases hboundary
  | none =>
    cases result.continuationNodeId.filter fun nodeId => nodeId ≠ "" with
    | some nodeId =>
      -- a continuation for a node the run has no row of changes no status
      cases htarget : rows.nodes.lookup nodeId with
      | none => simpa [htarget] using h
      | some target =>
        simp only [htarget]
        have hkey : target.nodeId = nodeId := key_of_lookup htarget
        exact queueContinuation_consistent (isSome_statusOf (hkey ▸ htarget))
    | none =>
      by_cases hresearch : job.jobType = "research_story"
      · simp only [hresearch, if_true]
        refine queueContinuation_consistent ?_
        rw [finishNode, isSome_statusOf_updateNode]
        cases hgen : rows.nodeByType "generate_content_pack" with
        | none => exact hnode
        | some generation => exact isSome_statusOf_nodeByType hgen
      · simp only [hresearch, if_false]
        exact queueContinuation_consistent hnode

theorem statusOf_recordResultIds :
    (rows.recordResultIds nodeId result).statusOf other = rows.statusOf other :=
  statusOf_updateNode_keep fun _ => rfl

theorem left_finishNode_recordResultIds :
    Left rows nodeId ((rows.finishNode nodeId observedAt).recordResultIds nodeId result) where
  status := by rw [recordResultIds, finishNode, run_updateNode, run_updateNode]
  current := by rw [recordResultIds, finishNode, run_updateNode, run_updateNode]
  self := by
    rw [statusOf_recordResultIds]
    exact statusOf_updateNode_ne_waiting (fun _ => by simp) (.inl rfl)
  other := fun _ hne => by
    rw [statusOf_recordResultIds]
    exact statusOf_updateNode_of_ne hne

/-- A result that neither asks for a review nor ends the run leaves it where it is,
though its node is done. -/
theorem completeNode_consistent_iff (h : rows.Consistent) (node : AutomationNodeRun)
    (job : WorkflowJob) (artifact : Option WorkflowArtifact) (result : HandlerResult) (observedAt : Datetime) :
    (rows.completeNode node job artifact result observedAt).Consistent
      ↔ ¬ ((rows.run.currentNodeId = some node.nodeId
              ∧ rows.statusOf node.nodeId = some .waitingForReview)
            ∧ rows.requiredReview result = none ∧ job.jobType ≠ "telegram.route.dry_run" ∧ rows.reachesEnd node = false) := by
  have hleft : Left rows node.nodeId
      ((rows.finishNode node.nodeId observedAt).recordResultIds node.nodeId result) :=
    left_finishNode_recordResultIds
  have hsame : SameNodes rows
      ((rows.finishNode node.nodeId observedAt).recordResultIds node.nodeId result) := by
    refine SameNodes.updateNode (SameNodes.updateNode (.refl rows) ?_) ?_
    · exact fun _ => rfl
    · exact fun _ => rfl
  unfold completeNode
  generalize (rows.finishNode node.nodeId observedAt).recordResultIds node.nodeId result = done
    at hleft hsame
  simp only
  have hreview := hsame.requiredReview result
  cases hrequired : done.requiredReview result with
  | some required =>
    obtain ⟨review, revisionId⟩ := required
    have hasks : rows.requiredReview result ≠ none := by
      rw [hrequired] at hreview
      intro hnone
      rw [hnone] at hreview
      cases hreview
    refine iff_of_true (waitForReview_consistent ?_) fun hbad => hasks hbad.2.1
    rw [requiredReview] at hrequired
    split at hrequired
    · obtain ⟨_, -, hmap⟩ := bind_eq_some_iff.mp hrequired
      obtain ⟨_, hrow, heq⟩ := map_eq_some_iff.mp hmap
      cases heq
      exact isSome_statusOf_nodeByType hrow
    · cases hrequired
  | none =>
    have hasks : rows.requiredReview result = none := by
      rw [hrequired] at hreview
      exact isNone_iff_eq_none.mp (by rw [isNone_iff_eq_none]; simpa using hreview.symm)
    by_cases hdry : job.jobType = "telegram.route.dry_run"
    · rw [if_pos hdry]
      refine iff_of_true (consistent_of_not_waiting (by simp [updateRun]) ?_)
        fun hbad => hbad.2.2.1 hdry
      rintro other ⟨⟩
      exact hleft.self
    · rw [if_neg hdry]
      have hend : (done.saveDrafts artifact observedAt).reachesEnd node = rows.reachesEnd node :=
        (hsame.trans done.sameNodes_saveDrafts).reachesEnd node
      by_cases hreach : rows.reachesEnd node = true
      · rw [if_pos (by simp [hend, hreach])]
        exact iff_of_true (consistent_of_ended (by simp [completeRun, updateRun]) rfl)
          fun hbad => by simp [hreach] at hbad
      · have hsaved : done.saveDrafts artifact observedAt = done :=
          saveDrafts_of_not_reachesEnd <| (hsame.reachesEnd node).trans (by simpa using hreach)
        rw [hend, hsaved]
        by_cases hsucceeded : done.run.status = .succeeded
        · rw [if_pos (by simp [hsucceeded])]
          refine iff_of_true (consistent_of_ended (by simp [completeRun, updateRun]) rfl) ?_
          rintro ⟨⟨hcurrent, hwaits⟩, -⟩
          have hrun := h.waits hcurrent hwaits
          rw [← hleft.status, hsucceeded] at hrun
          cases hrun
        · rw [if_neg (by simp [hreach, hsucceeded]), h.left_iff hleft]
          simp [hasks, hdry, hreach]

@[simp] theorem status_setCurrentArtifact :
    (rows.setCurrentArtifact artifact).run.status = rows.run.status := by
  cases artifact <;> rfl

@[simp] theorem currentNodeId_setCurrentArtifact :
    (rows.setCurrentArtifact artifact).run.currentNodeId = rows.run.currentNodeId := by
  cases artifact <;> rfl

@[simp] theorem lookup_setCurrentArtifact :
    (rows.setCurrentArtifact artifact).nodes.lookup other = rows.nodes.lookup other := by
  cases artifact <;> rfl

@[simp] theorem jobs_setCurrentArtifact : (rows.setCurrentArtifact artifact).jobs = rows.jobs := by
  cases artifact <;> rfl

@[simp] theorem jobs_updateNode : (rows.updateNode nodeId write).jobs = rows.jobs := by
  rw [updateNode]
  cases rows.nodes.lookup nodeId <;> rfl

/-- The summary of a result is recorded before its node is looked at. -/
structure Recorded (rows rows' : RunRows) : Prop where
  status : rows'.run.status = rows.run.status
  current : rows'.run.currentNodeId = rows.run.currentNodeId
  statusOf : ∀ nodeId, rows'.statusOf nodeId = rows.statusOf nodeId
  sameNodes : SameNodes rows rows'
  jobs : rows'.jobs = rows.jobs

theorem Recorded.consistent (hr : Recorded rows rows') (h : rows.Consistent) : rows'.Consistent :=
  h.congr hr.status hr.current fun nodeId _ => by rw [hr.statusOf]

theorem recorded (artifact : Option WorkflowArtifact)
    (hw : ∀ node, (write node).status = node.status ∧ (write node).id = node.id) :
    Recorded rows ((rows.updateNode nodeId write).setCurrentArtifact artifact) where
  status := by rw [status_setCurrentArtifact, run_updateNode]
  current := by rw [currentNodeId_setCurrentArtifact, run_updateNode]
  statusOf := fun other => by
    have hkeep : (rows.updateNode nodeId write).statusOf other = rows.statusOf other :=
      statusOf_updateNode_keep fun node => (hw node).1
    rw [RunRows.statusOf, lookup_setCurrentArtifact]
    exact hkeep
  sameNodes := ((SameNodes.refl rows).updateNode fun node => (hw node).2).setCurrentArtifact artifact
  jobs := by rw [jobs_setCurrentArtifact, jobs_updateNode]

/-- A job's success strands the run when its node is the one under review and the
result leads nowhere. -/
theorem jobSucceeded_consistent_iff (h : rows.Consistent) (job : WorkflowJob)
    (result : HandlerResult) (observedAt : Datetime) :
    (rows.jobSucceeded job result observedAt).Consistent
      ↔ ¬ ∃ node, rows.linkedNode job = some node ∧ rows.AtReview node
            ∧ result.continuationJobId.bind rows.jobs.lookup = none
            ∧ rows.requiredReview result = none ∧ job.jobType ≠ "telegram.route.dry_run"
            ∧ rows.reachesEnd node = false := by
  unfold jobSucceeded
  cases hlinked : rows.linkedNode job with
  | none => exact iff_of_true h (by simp)
  | some node =>
    have hnode := lookup_of_linkedNode hlinked
    simp only
    by_cases hterminal : (terminalRun rows.run.status && terminalNode node.status) = true
    · -- the node does not wait, and neither row's status is written
      rw [if_pos hterminal]
      refine iff_of_true ?_ ?_
      · cases projectArtifact rows.run node job result with
        | none => exact h
        | some artifact =>
          refine Recorded.consistent (recorded (some artifact) ?_) h
          exact fun _ => ⟨rfl, rfl⟩
      · rintro ⟨other, hother, ⟨-, hwaits⟩, -⟩
        cases hother
        rw [hwaits] at hterminal
        simp [terminalNode] at hterminal
    · rw [if_neg hterminal]
      generalize projectArtifact rows.run node job result = artifact
      have hrec : Recorded rows ((rows.updateNode node.nodeId fun node =>
          { node with
            outputSummary := result.summary artifact
            startedAt := node.startedAt.or (job.startedAt.or (some observedAt)) }).setCurrentArtifact
              artifact) := recorded artifact fun _ => ⟨rfl, rfl⟩
      revert hrec
      generalize (RunRows.updateNode _ _ _).setCurrentArtifact artifact = noted
      intro hrec
      rw [hrec.jobs]
      cases hcontinuation : result.continuationJobId.bind rows.jobs.lookup with
      | some continuation =>
        refine iff_of_true (continueWith_consistent (hrec.consistent h) ?_ _ _ _ _ _) ?_
        · rw [hrec.statusOf]
          exact isSome_statusOf hnode
        · rintro ⟨_, _, _, hnone, _⟩
          cases hnone
      | none =>
        have hreview : noted.requiredReview result = none ↔ rows.requiredReview result = none := by
          rw [← isNone_iff_eq_none, ← isNone_iff_eq_none, ← not_isSome,
            ← not_isSome, hrec.sameNodes.requiredReview]
        rw [completeNode_consistent_iff (hrec.consistent h), hrec.current, hrec.statusOf, hreview,
          hrec.sameNodes.reachesEnd, ← atReview_iff hnode]
        simp

/-! ## The other projections -/

theorem jobFailed_consistent (h : rows.Consistent) (job : WorkflowJob)
    (errorCode errorMessage : String) (observedAt : Datetime) (terminal waitingForReview : Bool) :
    (rows.jobFailed job errorCode errorMessage observedAt terminal waitingForReview).Consistent := by
  unfold jobFailed
  by_cases hprojects : (!(terminal || waitingForReview)) = true
  · rw [if_pos hprojects]
    exact h
  · rw [if_neg hprojects]
    cases hlinked : rows.linkedNode job with
    | none => exact h
    | some node =>
      have hsome := isSome_statusOf (lookup_of_linkedNode hlinked)
      cases waitingForReview with
      | true => exact consistent_of_waiting rfl rfl (statusOf_updateNode_self (fun _ => rfl) hsome)
      | false =>
        refine consistent_of_at (by simp [updateRun]) rfl ?_ (show NodeStatus.failed ≠ _ by decide)
        exact statusOf_updateNode_self (fun _ => rfl) hsome

theorem continueReview_consistent_iff (h : rows.Consistent)
    (hreview : rows.nodes.lookup review.nodeId = some review) (revisionId : UUID)
    (observedAt : Datetime) :
    (rows.continueReview review revisionId observedAt).Consistent
      ↔ ¬ (rows.AtReview review ∧ rows.run.dryRun = false
            ∧ rows.nodeByType "telegram_publish" = none) := by
  unfold continueReview
  simp only [run_updateNode]
  cases hdry : rows.run.dryRun with
  | true => exact iff_of_true (consistent_of_ended (by simp [completeRun, updateRun]) rfl) (by simp)
  | false =>
    simp only [Bool.false_eq_true, if_false]
    cases hpublish : rows.nodeByType "telegram_publish" with
    | none =>
      simp only
      rw [h.left_iff (left_updateNode fun _ => by simp), ← atReview_iff hreview]
      simp
    | some publish =>
      refine iff_of_true (consistent_of_at (by simp [updateRun]) rfl ?_
        (show NodeStatus.pending ≠ _ by decide)) (by simp)
      refine statusOf_updateNode_self (fun _ => rfl) ?_
      rw [isSome_statusOf_updateNode]
      exact isSome_statusOf_nodeByType hpublish

theorem lookup_of_artifactReview {pending : ArtifactReview}
    (h : rows.artifactReview? = some pending) :
    rows.nodes.lookup pending.review.nodeId = some pending.review
      ∧ rows.nodes.lookup pending.nextNode.nodeId = some pending.nextNode := by
  obtain ⟨review, hreview, h⟩ := bind_eq_some_iff.mp h
  split at h
  · cases h
  · obtain ⟨_, -, hmap⟩ := bind_eq_some_iff.mp h
    obtain ⟨nextNode, hnext, rfl⟩ := map_eq_some_iff.mp hmap
    obtain ⟨_, -, hrow⟩ := bind_eq_some_iff.mp hnext
    exact ⟨lookup_of_nodeByType hreview, lookup_of_mem (mem_of_lookup hrow)⟩

theorem continueArtifactReview_consistent_iff (h : rows.Consistent) (observedAt : Datetime) :
    (rows.continueArtifactReview observedAt).Consistent
      ↔ ¬ ∃ pending, rows.artifactReview? = some pending ∧ rows.AtReview pending.review
            ∧ rows.run.dryRun = false ∧ rows.heldContinuation pending.review = none := by
  unfold continueArtifactReview
  cases hpending : rows.artifactReview? with
  | none => exact iff_of_true h (by simp)
  | some pending =>
    obtain ⟨review, artifact, nextNode⟩ := pending
    obtain ⟨hreview, hnext⟩ := lookup_of_artifactReview hpending
    simp only [run_updateNode]
    cases hdry : rows.run.dryRun with
    | true =>
      exact iff_of_true (consistent_of_ended (by simp [completeRun, updateRun]) rfl) (by simp)
    | false =>
      simp only [Bool.false_eq_true, if_false]
      cases hheld : rows.heldContinuation review with
      | none =>
        simp only
        rw [h.left_iff (left_updateNode fun _ => by simp), ← atReview_iff hreview]
        simp [hheld]
      | some continuation =>
        refine iff_of_true (consistent_of_at (by simp [updateRun]) rfl ?_
          (show NodeStatus.queued ≠ _ by decide)) (by simp [hheld])
        refine statusOf_updateNode_self (fun _ => rfl) ?_
        rw [statusOf_putJob, isSome_statusOf_updateNode]
        exact isSome_statusOf hnext

theorem consistent_putJob : (rows.putJob job).Consistent ↔ rows.Consistent :=
  Iff.rfl

theorem bindPublishJob_consistent_iff (h : rows.Consistent) {revisionId : UUID}
    {workflowJob : WorkflowJob} {publishJobId : UUID}
    (hbound : rows.bindPublishJob revisionId workflowJob publishJobId = .ok rows') :
    rows'.Consistent
      ↔ ¬ ∃ publish, rows.nodeByType "telegram_publish" = some publish ∧ rows.AtReview publish := by
  rw [bindPublishJob] at hbound
  split at hbound
  · cases hbound
  · cases hpublish : rows.nodeByType "telegram_publish" with
    | none =>
      rw [hpublish] at hbound
      cases hbound
      exact iff_of_true h (by simp)
    | some publish =>
      rw [hpublish] at hbound
      cases hbound
      have hleft : Left rows publish.nodeId (rows.updateNode publish.nodeId fun publish =>
          { publish with
            status := .queued
            workflowJobId := some workflowJob.id
            publishJobId := some publishJobId
            platformVariantRevisionId := some revisionId }) := left_updateNode fun _ => by simp
      rw [consistent_putJob, h.left_iff hleft, ← atReview_iff (lookup_of_nodeByType hpublish)]
      simp

theorem finishTriggerRun_consistent (hnode : rows.nodes.lookup node.nodeId = some node)
    (status : TriggerEnd) (observedAt : Datetime) (errorCode errorMessage : Option String)
    (output : Option NodeSummary) :
    (rows.finishTriggerRun node status observedAt errorCode errorMessage output).Consistent := by
  have hsome := isSome_statusOf hnode
  cases status with
  | succeeded => exact consistent_of_ended (by simp [finishTriggerRun, updateRun]) rfl
  | failed =>
    refine consistent_of_at (by simp [finishTriggerRun, updateRun]) rfl ?_
      (show NodeStatus.failed ≠ _ by decide)
    exact statusOf_updateNode_self (fun _ => rfl) hsome
  | cancelled =>
    refine consistent_of_at (by simp [finishTriggerRun, updateRun]) rfl ?_
      (show NodeStatus.skipped ≠ _ by decide)
    exact statusOf_updateNode_self (fun _ => rfl) hsome

theorem startDownstream_consistent {target : AutomationNodeRun}
    (htarget : rows.nodes.lookup target.nodeId = some target) (trigger : AutomationNodeRun)
    (research : Option AutomationNodeRun) (child : WorkflowJob) (output : NodeSummary)
    (observedAt : Datetime) :
    (rows.startDownstream trigger research target child output observedAt).Consistent := by
  refine consistent_of_at (by simp [startDownstream, updateRun]) rfl ?_
    (show NodeStatus.queued ≠ _ by decide)
  refine statusOf_updateNode_self (fun _ => rfl) ?_
  rw [isSome_statusOf_updateNode]
  have hsome := isSome_statusOf htarget
  cases research with
  | none => exact hsome
  | some research =>
    by_cases hpending : research.status = .pending
    · simp only [hpending, if_true]
      rw [isSome_statusOf_updateNode]
      exact hsome
    · simp only [hpending, if_false]
      exact hsome

/-! ## Runs -/

/-- The transactions that take the current node out of its review and leave the run
waiting for it. -/
def Strands (rows : RunRows) : RunEvent → Prop
  -- the node under review is done and nothing of the plan is left to go on with
  | .jobSucceeded jobId result _ =>
    ∃ job node, rows.jobs.lookup jobId = some job ∧ rows.linkedNode job = some node
      ∧ rows.AtReview node ∧ result.continuationJobId.bind rows.jobs.lookup = none
      ∧ rows.requiredReview result = none ∧ job.jobType ≠ "telegram.route.dry_run"
      ∧ rows.reachesEnd node = false
  -- a revision is approved in a plan without a publication
  | .reviewApproved revisionId found _ =>
    ∃ review, rows.found found (awaits revisionId) = some review ∧ rows.AtReview review
      ∧ rows.run.dryRun = false ∧ rows.nodeByType "telegram_publish" = none
  -- an artifact is approved and its review holds no continuation back
  | .artifactApproved _ =>
    ∃ pending, rows.artifactReview? = some pending ∧ rows.AtReview pending.review
      ∧ rows.run.dryRun = false ∧ rows.heldContinuation pending.review = none
  -- the publication under review is queued again
  | .publishBound revisionId found workflowJobId _ =>
    (rows.found found fun node => node.platformVariantRevisionId = some revisionId).isSome
      ∧ (rows.jobs.lookup workflowJobId).isSome ∧ rows.run.dryRun = false
      ∧ ∃ publish, rows.nodeByType "telegram_publish" = some publish ∧ rows.AtReview publish
  | _ => False

theorem lookup_of_found {wanted : AutomationNodeRun → Bool}
    (h : rows.found nodeId wanted = some node) : rows.nodes.lookup node.nodeId = some node := by
  rw [found, filter_eq_some_iff] at h
  exact lookup_of_mem (mem_of_lookup h.1)

theorem step_consistent_iff (h : rows.Consistent) (event : RunEvent) :
    (rows.step event).Consistent ↔ ¬ rows.Strands event := by
  cases event with
  | jobsChanged jobs => exact iff_of_true h not_false
  | jobSucceeded jobId result observedAt =>
    simp only [step, Strands]
    cases hjob : rows.jobs.lookup jobId with
    | none => exact iff_of_true h (by simp)
    | some job =>
      refine (jobSucceeded_consistent_iff h job result observedAt).trans (not_congr ?_)
      constructor
      · rintro ⟨node, hbad⟩
        exact ⟨job, node, rfl, hbad⟩
      · rintro ⟨_, node, ⟨⟩, hbad⟩
        exact ⟨node, hbad⟩
  | jobFailed jobId errorCode errorMessage observedAt terminal waitingForReview =>
    refine iff_of_true ?_ not_false
    simp only [step]
    cases rows.jobs.lookup jobId with
    | none => exact h
    | some job => exact jobFailed_consistent h job _ _ _ _ _
  | reviewApproved revisionId found observedAt =>
    simp only [step, Strands]
    cases hfound : rows.found found (awaits revisionId) with
    | none => exact iff_of_true h (by simp)
    | some review =>
      refine (continueReview_consistent_iff h (lookup_of_found hfound) _ _).trans ?_
      simp
  | artifactApproved observedAt => exact continueArtifactReview_consistent_iff h observedAt
  | publishBound revisionId found workflowJobId publishJobId =>
    simp only [step, Strands]
    cases hfound : rows.found found fun node => node.platformVariantRevisionId = some revisionId with
    | none => exact iff_of_true h (by simp)
    | some node =>
      cases hjob : rows.jobs.lookup workflowJobId with
      | none => exact iff_of_true h (by simp)
      | some workflowJob =>
        simp only
        cases hbound : rows.bindPublishJob revisionId workflowJob publishJobId with
        | error e =>
          -- it raises in a dry run only
          refine iff_of_true h ?_
          rintro ⟨-, -, hdry, -⟩
          rw [bindPublishJob, hdry] at hbound
          cases hpublish : rows.nodeByType "telegram_publish" <;> simp [hpublish] at hbound
        | ok rows' =>
          refine (bindPublishJob_consistent_iff h hbound).trans (not_congr ?_)
          have hdry : rows.run.dryRun = false := by
            cases hdry : rows.run.dryRun with
            | false => rfl
            | true => simp [bindPublishJob, hdry] at hbound
          simp [hdry]
  | triggerFinished node status observedAt errorCode errorMessage output =>
    refine iff_of_true ?_ not_false
    simp only [step]
    cases hnode : rows.nodes.lookup node with
    | none => exact h
    | some row =>
      exact finishTriggerRun_consistent (lookup_of_mem (mem_of_lookup hnode)) _ _ _ _ _
  | downstreamStarted trigger research target child output observedAt =>
    refine iff_of_true ?_ not_false
    simp only [step]
    cases htrigger : rows.nodes.lookup trigger with
    | none => exact h
    | some trigger =>
      cases htarget : rows.nodes.lookup target with
      | none => exact h
      | some target =>
        cases hchild : rows.jobs.lookup child with
        | none => exact h
        | some child =>
          exact startDownstream_consistent (lookup_of_mem (mem_of_lookup htarget)) _ _ _ _ _

theorem Created.consistent (h : rows.Created) : rows.Consistent := by
  refine consistent_of_not_waiting (by simp [h.1]) fun nodeId _ hwaits => ?_
  obtain ⟨node, hnode, hstatus⟩ := map_eq_some_iff.mp hwaits
  rcases h.2 node (mem_of_lookup hnode) with h | h | h | h <;> simp [h] at hstatus

end RunRows

/-- **A run waits for a review while its current node does, until a projection
returns between the two writes.** The transactions that do are those of `Strands`,
and each of them breaks it. -/
theorem review_status_consistent {rows : RunRows}
    (h : (runSystem.restrict fun rows event => ¬ rows.Strands event).Reachable rows) :
    rows.Consistent ∧ ∀ event, rows.Strands event → ¬ (rows.step event).Consistent := by
  have hc : rows.Consistent := by
    refine System.invariant (fun rows (hi : rows.Created) => hi.consistent) ?_ h
    rintro rows event rows' - hc ⟨hok, rfl⟩
    exact (RunRows.step_consistent_iff hc event).mpr hok
  exact ⟨hc, fun event hbad hc' => (RunRows.step_consistent_iff hc event).mp hc' hbad⟩

/-! ## A review that is over -/

/-- A generation job of a run, linked to the node `generate`. -/
def generationJob (id : UUID) (jobType : String) : WorkflowJob :=
  { id := id, jobType := jobType, status := .queued, payload := .null, result := .null,
    priority := 100, idempotencyKey := jobType, origin := .automation, automationRunId := some 1,
    automationNodeRunId := some 11, pauseSensitive := true, scheduledFor := some 0,
    attemptCount := 0, maxAttempts := 3, leaseOwner := none, leaseExpiresAt := none,
    heartbeatAt := none, progress := 0, progressMessage := none, errorClass := none,
    errorCode := none, errorMessage := none, startedAt := none, finishedAt := none,
    createdAt := 0 }

def plannedNode (id : UUID) (nodeId : String) (status : NodeStatus) : AutomationNodeRun :=
  { id := id, nodeId := nodeId, status := status, workflowJobId := none,
    automationDispatchId := none, generationRunId := none, platformVariantRevisionId := none,
    publishJobId := none, publicationId := none, inputSummary := ⟨none, none⟩,
    outputSummary := ⟨none, none⟩, safeErrorCode := none, safeErrorMessage := none,
    startedAt := none, finishedAt := none }

/-- A run that generates a package by hand, as it is started. -/
def packageRun : RunRows where
  run :=
    { id := 1, status := .queued, currentNodeId := some "generate", dryRun := false,
      resourceSnapshot :=
        { nodeIdsByType := [("manual", ["manual"]), ("generate_content_pack", ["generate"]),
            ("manual_package", ["package"])]
          nodeTypesById := [("manual", "manual"), ("generate", "generate_content_pack"),
            ("package", "manual_package")]
          nodeOrder := ["manual", "generate", "package"]
          currentArtifact := none }
      safeErrorCode := none, safeErrorMessage := none, finishedAt := none }
  nodes := ⟨[plannedNode 10 "manual" .succeeded, plannedNode 11 "generate" .queued,
    plannedNode 12 "package" .pending], by decide⟩
  jobs := ⟨[generationJob 20 "content_pack.generate"], by decide⟩

def draftResult (continuationJobId : Option UUID) : HandlerResult :=
  { continuationJobId := continuationJobId, continuationNodeId := none, dispatchId := none,
    generationRunId := none, revisionId := none, publicationId := none, reviewRequired := false,
    artifact := some ⟨.draft, [.draft, .reviewable]⟩ }

/-- The first job hands on to a second, which an operator has to look at. -/
def lookedAt : List RunEvent :=
  [.jobsChanged ⟨[generationJob 20 "content_pack.generate",
      generationJob 21 "content_pack.generate_telegram"], by decide⟩,
    .jobSucceeded 20 (draftResult (some 21)) 1,
    .jobFailed 21 "generation_output_invalid" "Generated output is invalid" 2 false true]

theorem reachable_step {ok : RunRows → RunEvent → Prop} {rows : RunRows} {event : RunEvent}
    (h : (runSystem.restrict ok).Reachable rows) (hok : ok rows event) :
    (runSystem.restrict ok).Reachable (rows.step event) :=
  h.tail ⟨hok, rfl⟩

theorem reachable_of_events (events : List RunEvent) {rows : RunRows}
    (h : runSystem.Reachable rows) : runSystem.Reachable (events.foldl RunRows.step rows) := by
  induction events generalizing rows with
  | nil => exact h
  | cons event events ih => exact ih (h.tail (e := event) rfl)

theorem packageRun_created : packageRun.Created := by
  refine ⟨rfl, ?_⟩
  decide

theorem review_status_consistent_lookedAt :
    (lookedAt.foldl RunRows.step packageRun).run.status = .waitingForReview
      ∧ (lookedAt.foldl RunRows.step packageRun).Consistent
      ∧ ∀ event, (lookedAt.foldl RunRows.step packageRun).Strands event →
          ¬ ((lookedAt.foldl RunRows.step packageRun).step event).Consistent := by
  have hstart : (runSystem.restrict fun rows event => ¬ rows.Strands event).Reachable packageRun :=
    .init packageRun_created
  have hadded := reachable_step hstart (show ¬ packageRun.Strands lookedAt[0] from not_false)
  have hdrafted := reachable_step hadded (show ¬ RunRows.Strands _ lookedAt[1] by
    rintro ⟨job, node, -, -, -, hnone, -⟩
    exact absurd hnone (by decide))
  exact ⟨rfl, review_status_consistent (reachable_step hdrafted (show ¬ RunRows.Strands _ lookedAt[2] from not_false))⟩

/-- The job is retried and done, and the run waits for a review of it. -/
theorem review_left_behind : runSystem.Reachable
        ((lookedAt ++ [RunEvent.jobSucceeded 21 (draftResult none) 3]).foldl RunRows.step packageRun)
      ∧ ¬ ((lookedAt ++ [RunEvent.jobSucceeded 21 (draftResult none) 3]).foldl RunRows.step
          packageRun).Consistent := by
  refine ⟨reachable_of_events _ (.init packageRun_created), ?_⟩
  exact RunRows.not_consistent rfl (show _ = some "generate" from rfl) (by decide)

end NewsCraft.Automations
