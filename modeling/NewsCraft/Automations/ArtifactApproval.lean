import NewsCraft.Automations.ReviewStatus

/-!
# An approval and what it goes on to

`continueArtifactReview` marks the review as succeeded before it looks for the job the
review holds back. When there is none it returns, and what was written is committed: the run
keeps waiting with nothing queued. `Together` is what an approval should do, all of it or
nothing, and `Continues` is when it does.
-/

namespace NewsCraft.Automations

open Lib Jobs Option Table

namespace RunRows

variable {rows : RunRows}

/-- The node after `nodeId` is the current one, queued with a queued job of its own. -/
def NextQueued (rows : RunRows) (nodeId : String) : Prop :=
  ∃ node job, (rows.run.resourceSnapshot.nextNodeId nodeId).bind rows.nodes.lookup = some node
    ∧ rows.run.currentNodeId = some node.nodeId ∧ node.status = .queued
    ∧ node.workflowJobId = some job.id ∧ rows.jobs.lookup job.id = some job
    ∧ job.status = .queued ∧ job.automationNodeRunId = some node.id

/-- The run no longer waits for a review: it is over, or at its next node. -/
def MovedOn (rows : RunRows) (nodeId : String) : Prop :=
  rows.run.status ≠ .waitingForReview
    ∧ (terminalRun rows.run.status = true ∨ rows.NextQueued nodeId)

/-- Nothing is changed, or the review is recorded and its run has moved on. -/
def Together (rows rows' : RunRows) : Prop :=
  rows' = rows ∨ ∃ review, rows.nodeByType "human_review" = some review
        ∧ rows'.statusOf review.nodeId = some .succeeded ∧ rows'.MovedOn review.nodeId

/-- The approval has somewhere to go on to: the run is a dry run, the review holds back a job
that is still there, or the run did not wait for it any more. -/
def Continues (rows : RunRows) (pending : ArtifactReview) : Prop :=
  rows.run.dryRun = true ∨ (rows.heldContinuation pending.review).isSome
        ∧ pending.nextNode.nodeId ≠ pending.review.nodeId
    ∨ rows.heldContinuation pending.review = none ∧ rows.MovedOn pending.review.nodeId

/-! ## What is pending -/

theorem artifactReview_eq_some {pending : ArtifactReview}
    (h : rows.artifactReview? = some pending) :
    rows.nodeByType "human_review" = some pending.review ∧ pending.review.status = .waitingForReview
      ∧ (rows.run.resourceSnapshot.nextNodeId pending.review.nodeId).bind rows.nodes.lookup
          = some pending.nextNode := by
  obtain ⟨review, hreview, h⟩ := bind_eq_some_iff.mp h
  split at h
  · cases h
  rename_i hwaits
  obtain ⟨artifact, -, hmap⟩ := bind_eq_some_iff.mp h
  obtain ⟨nextNode, hnext, rfl⟩ := map_eq_some_iff.mp hmap
  exact ⟨hreview, by simpa using hwaits, hnext⟩

variable {review : AutomationNodeRun}

theorem ne_of_statusOf {rows' : RunRows} {status : NodeStatus}
    (hreview : rows.nodes.lookup review.nodeId = some review) (hne : review.status ≠ status)
    (h : rows'.statusOf review.nodeId = some status) : rows' ≠ rows := by
  intro heq
  rw [heq, statusOf, hreview] at h
  exact hne (Option.some.inj h)

theorem together_iff_of_review {rows' : RunRows}
    (hreview : rows.nodeByType "human_review" = some review) (hne : rows' ≠ rows) :
    Together rows rows'
      ↔ rows'.statusOf review.nodeId = some .succeeded ∧ rows'.MovedOn review.nodeId := by
  constructor
  · intro h
    rcases h with heq | hmoved
    · exact absurd heq hne
    obtain ⟨other, hother, hmoved⟩ := hmoved
    rw [hreview] at hother
    cases hother
    exact hmoved
  · intro hmoved
    exact .inr ⟨review, hreview, hmoved⟩

/-! ## The three ways out -/

variable {write : AutomationNodeRun → AutomationNodeRun}

theorem nextQueued_updateNode_iff {nodeId : String} (hbefore : rows.statusOf nodeId ≠ some .queued)
    (hafter : (rows.updateNode nodeId write).statusOf nodeId ≠ some .queued) :
    (rows.updateNode nodeId write).NextQueued nodeId ↔ rows.NextQueued nodeId := by
  unfold NextQueued
  simp only [run_updateNode, jobs_updateNode]
  refine exists_congr fun node => exists_congr fun job => ?_
  cases hnext : rows.run.resourceSnapshot.nextNodeId nodeId with
  | none => simp
  | some next =>
    simp only [bind_some]
    by_cases hself : next = nodeId
    · -- the row itself is not queued, before or after
      subst hself
      constructor
      · intro h
        exact absurd (by rw [statusOf, h.1]; exact congrArg some h.2.2.1) hafter
      · intro h
        exact absurd (by rw [statusOf, h.1]; exact congrArg some h.2.2.1) hbefore
    · rw [lookup_updateNode_of_ne hself]

theorem nextQueued_released {nextNode : AutomationNodeRun} {job : WorkflowJob} {nodeId : String}
    (hnext : (rows.run.resourceSnapshot.nextNodeId nodeId).bind rows.nodes.lookup = some nextNode)
    (hheld : (rows.jobs.lookup job.id).isSome) (write : AutomationNodeRun → AutomationNodeRun)
    (hid : ∀ node, (write node).id = node.id)
    (hwrite : ∀ node, (write node).status = .queued ∧ (write node).workflowJobId = some job.id)
    (hjob : job.status = .queued ∧ job.automationNodeRunId = some nextNode.id)
    (writeRun : AutomationRun → AutomationRun)
    (hrun : ∀ run, (writeRun run).resourceSnapshot = run.resourceSnapshot
      ∧ (writeRun run).currentNodeId = some nextNode.nodeId) :
    (((rows.putJob job).updateNode nextNode.nodeId write).updateRun writeRun).NextQueued
      nodeId := by
  obtain ⟨next, hname, hrow⟩ := bind_eq_some_iff.mp hnext
  have hkey : nextNode.nodeId = next := key_of_lookup hrow
  have hlookup : (rows.putJob job).nodes.lookup nextNode.nodeId = some nextNode := hkey ▸ hrow
  refine ⟨{ write nextNode with nodeId := nextNode.nodeId }, job, ?_, ?_, ?_, ?_, ?_, hjob.1, ?_⟩
  · have hsnapshot : (((rows.putJob job).updateNode nextNode.nodeId write).updateRun
        writeRun).run.resourceSnapshot = rows.run.resourceSnapshot := by
      rw [updateRun, (hrun _).1, run_updateNode, run_putJob]
    rw [hsnapshot, hname, bind_some, ← hkey]
    exact lookup_updateNode_self hlookup
  · exact (hrun _).2
  · exact (hwrite nextNode).1
  · exact (hwrite nextNode).2
  · obtain ⟨held, hheld⟩ := isSome_iff_exists.mp hheld
    rw [updateRun, jobs_updateNode, putJob]
    exact lookup_put_self hheld
  · simpa [hid] using hjob.2

theorem ne_waiting_of_terminalRun {status : RunStatus} (h : terminalRun status = true) :
    status ≠ .waitingForReview := by
  intro hwaits
  rw [hwaits] at h
  cases h

theorem terminalRun_succeeded : terminalRun .succeeded = true := rfl

theorem movedOn_recorded_iff (hbefore : rows.statusOf review.nodeId ≠ some .queued)
    (hafter : (rows.updateNode review.nodeId write).statusOf review.nodeId ≠ some .queued) :
    (rows.updateNode review.nodeId write).MovedOn review.nodeId ↔ rows.MovedOn review.nodeId := by
  unfold MovedOn
  rw [run_updateNode, nextQueued_updateNode_iff hbefore hafter]

theorem together_recorded_iff (hreview : rows.nodeByType "human_review" = some review)
    (hwaits : review.status = .waitingForReview) (hwrite : ∀ node, (write node).status = .succeeded)
    :
    rows.Together (rows.updateNode review.nodeId write) ↔ rows.MovedOn review.nodeId := by
  have hrow := lookup_of_nodeByType hreview
  have hbefore : rows.statusOf review.nodeId ≠ some .queued := by
    rw [statusOf, hrow]
    simp [hwaits]
  have hrecorded := statusOf_updateNode_self hwrite (isSome_statusOf hrow)
  rw [together_iff_of_review hreview (ne_of_statusOf hrow (by simp [hwaits]) hrecorded),
    movedOn_recorded_iff hbefore (by simp [hrecorded])]
  exact and_iff_right hrecorded

/-- With a continuation the next node is queued; the review stays unless that is its own node. -/
theorem together_released_iff {nextNode : AutomationNodeRun} {job : WorkflowJob}
    {record release : AutomationNodeRun → AutomationNodeRun}
    {writeRun : AutomationRun → AutomationRun}
    (hreview : rows.nodeByType "human_review" = some review)
    (hwaits : review.status = .waitingForReview)
    (hnext : (rows.run.resourceSnapshot.nextNodeId review.nodeId).bind rows.nodes.lookup = some
      nextNode) (hrecord : ∀ node, (record node).status = .succeeded ∧ (record node).id = node.id)
    (hrelease : ∀ node, (release node).status = .queued ∧ (release node).workflowJobId = some job.id
      ∧ (release node).id = node.id) (hheld : (rows.jobs.lookup job.id).isSome)
    (hjob : job.status = .queued ∧ job.automationNodeRunId = some nextNode.id)
    (hrun : ∀ run, (writeRun run).resourceSnapshot = run.resourceSnapshot ∧ (writeRun
      run).currentNodeId = some nextNode.nodeId ∧ (writeRun run).status = .running) :
    rows.Together ((((rows.updateNode review.nodeId record).putJob job).updateNode nextNode.nodeId
        release).updateRun writeRun)
      ↔ nextNode.nodeId ≠ review.nodeId := by
  have hrow := lookup_of_nodeByType hreview
  have hnextRow : rows.nodes.lookup nextNode.nodeId = some nextNode := by
    obtain ⟨next, -, hlookup⟩ := bind_eq_some_iff.mp hnext
    exact lookup_of_mem (mem_of_lookup hlookup)
  have hrecorded := statusOf_updateNode_self (fun node => (hrecord node).1) (isSome_statusOf hrow)
  by_cases hsame : nextNode.nodeId = review.nodeId
  · -- the one row is queued again
    refine iff_of_false ?_ (not_not_intro hsame)
    have hqueued : ((((rows.updateNode review.nodeId record).putJob job).updateNode
        nextNode.nodeId release).updateRun writeRun).statusOf review.nodeId = some .queued := by
      rw [statusOf_updateRun, hsame]
      refine statusOf_updateNode_self (fun node => (hrelease node).1) ?_
      rw [statusOf_putJob, isSome_statusOf_updateNode]
      exact isSome_statusOf hrow
    rw [together_iff_of_review hreview (ne_of_statusOf hrow (by simp [hwaits]) hqueued)]
    intro h
    rw [hqueued] at h
    exact absurd h.1 (by simp)
  · refine iff_of_true (.inr ⟨review, hreview, ?_, ?_, Or.inr ?_⟩) hsame
    · rw [statusOf_updateRun, statusOf_updateNode_of_ne (Ne.symm hsame), statusOf_putJob]
      exact hrecorded
    · rw [updateRun, (hrun _).2.2]
      decide
    · refine nextQueued_released ?_ ?_ release (fun node => (hrelease node).2.2)
        (fun node => ⟨(hrelease node).1, (hrelease node).2.1⟩) hjob writeRun
        (fun run => ⟨(hrun run).1, (hrun run).2.1⟩)
      · obtain ⟨next, hname, hlookup⟩ := bind_eq_some_iff.mp hnext
        have hkey : nextNode.nodeId = next := key_of_lookup hlookup
        rw [run_updateNode, hname, bind_some, lookup_updateNode_of_ne (hkey ▸ hsame)]
        exact hlookup
      · rw [jobs_updateNode]
        exact hheld

end RunRows

/-- **An approval is recorded together with what follows from it exactly when there
is something to go on to.** Without a continuation the review is marked as over and
the run stays where it was. -/
theorem continueArtifactReview_together_iff (rows : RunRows) (observedAt : Datetime) :
    rows.Together (rows.continueArtifactReview observedAt)
      ↔ ∀ pending, rows.artifactReview? = some pending → rows.Continues pending := by
  cases hpending : rows.artifactReview? with
  | none =>
    refine iff_of_true (.inl ?_) (by simp)
    simp only [RunRows.continueArtifactReview, hpending]
  | some pending =>
    obtain ⟨hbyType, hwaits, hnext⟩ := RunRows.artifactReview_eq_some hpending
    have hsome := RunRows.isSome_statusOf (RunRows.lookup_of_nodeByType hbyType)
    have hall : (∀ other, some pending = some other → rows.Continues other)
        ↔ rows.Continues pending := by simp
    rw [hall]
    obtain ⟨review, artifact, nextNode⟩ := pending
    simp only [RunRows.continueArtifactReview, hpending, RunRows.run_updateNode, RunRows.Continues]
    cases hdry : rows.run.dryRun with
    | true =>
      -- a dry run ends with its review
      refine iff_of_true (.inr ⟨review, hbyType, ?_, ?_, ?_⟩) (.inl rfl)
      · exact RunRows.statusOf_updateNode_self (fun _ => rfl) hsome
      · exact RunRows.ne_waiting_of_terminalRun RunRows.terminalRun_succeeded
      · exact .inl RunRows.terminalRun_succeeded
    | false =>
      simp only [Bool.false_eq_true, if_false, false_or]
      cases hheld : rows.heldContinuation review with
      | none =>
        simp only [isSome_none, Bool.false_eq_true, false_and, true_and, false_or]
        exact RunRows.together_recorded_iff hbyType hwaits fun _ => rfl
      | some continuation =>
        simp only [isSome_some, true_and, reduceCtorEq, false_and, or_false]
        obtain ⟨id, -, hjob⟩ := bind_eq_some_iff.mp hheld
        have hkey : continuation.id = id := key_of_lookup hjob
        refine RunRows.together_released_iff hbyType hwaits hnext (fun _ => ⟨rfl, rfl⟩)
          (fun _ => ⟨rfl, rfl, rfl⟩) ?_ ⟨rfl, rfl⟩ (fun _ => ⟨rfl, rfl, rfl⟩)
        rw [show rows.jobs.lookup continuation.id = some continuation from hkey ▸ hjob]
        rfl

/-! ## A revision approved as an artifact -/

/-- A run that publishes what it generates once it is reviewed. -/
def publishingRun : RunRows where
  run :=
    { id := 1, status := .queued, currentNodeId := some "generate", dryRun := false,
      resourceSnapshot :=
        { nodeIdsByType := [("manual", ["manual"]), ("generate_content_pack", ["generate"]),
            ("human_review", ["review"]), ("telegram_publish", ["publish"])]
          nodeTypesById := [("manual", "manual"), ("generate", "generate_content_pack"),
            ("review", "human_review"), ("publish", "telegram_publish")]
          nodeOrder := ["manual", "generate", "review", "publish"]
          currentArtifact := none }
      safeErrorCode := none, safeErrorMessage := none, finishedAt := none }
  nodes := ⟨[plannedNode 10 "manual" .succeeded, plannedNode 11 "generate" .queued,
    plannedNode 12 "review" .pending, plannedNode 13 "publish" .pending], by decide⟩
  jobs := ⟨[generationJob 20 "content_pack.generate_telegram"], by decide⟩

/-- Its revision is made, and the run waits for the review of it. -/
def revisionMade : RunEvent :=
  .jobSucceeded 20 { draftResult none with revisionId := some 30, reviewRequired := true } 1

def underReview : RunRows := publishingRun.step revisionMade

/-- The review is approved as one of an artifact: it is over, the run waits for it, and
neither a node nor a job of the run is queued. -/
theorem underReview_approved :
    runSystem.Reachable underReview ∧ underReview.run.status = .waitingForReview
      ∧ ¬ underReview.Together (underReview.continueArtifactReview 2)
      ∧ (underReview.continueArtifactReview 2).statusOf "review" = some .succeeded
      ∧ (underReview.continueArtifactReview 2).run.status = .waitingForReview
      ∧ ∀ nodeId ∈ ["generate", "review", "publish"],
          (underReview.continueArtifactReview 2).statusOf nodeId ≠ some .queued := by
  have hcreated : publishingRun.Created := by
    refine ⟨rfl, ?_⟩
    decide
  refine ⟨reachable_of_events [revisionMade] (.init hcreated), rfl, ?_, by decide, rfl, by decide⟩
  intro h
  rcases h with heq | hmoved
  · have hover := congrArg (fun rows : RunRows => rows.statusOf "review") heq
    exact absurd hover (by decide)
  · obtain ⟨review, -, -, hmoved⟩ := hmoved
    exact hmoved.1 rfl

end NewsCraft.Automations
