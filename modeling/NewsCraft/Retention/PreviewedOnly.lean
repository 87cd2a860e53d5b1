import NewsCraft.Retention.Database

/-!
# Retention touches only what was previewed

The execution compares the digest of every listed record as it is now with the listed one,
under lock and before it touches any. So a row it changes is the record's own, a source item
of a listed payload, an event of a listed job, or the run of a listed generation attempt,
which are part of what the digest is taken of.
-/

namespace NewsCraft.Retention

open Lib Jobs Table Option List

namespace RetentionDb

variable {S : Surroundings} {db db' db₀ : RetentionDb}

/-! ## What a removal may change -/

/-- Two databases differ only in the rows of the records in `T`. -/
structure Frame (T : CandidateIdentity → Prop) (db₀ db : RetentionDb) : Prop where
  rawPayloads : ∀ id, db.rawPayloads.lookup id = db₀.rawPayloads.lookup id
    ∨ T ⟨.rawPayload, .rawPayload, id⟩
  sourceItems : ∀ id, db.sourceItems.lookup id = db₀.sourceItems.lookup id
    ∨ ∃ item payloadId, db₀.sourceItems.lookup id = some item
      ∧ item.rawPayloadId = some payloadId ∧ T ⟨.rawPayload, .rawPayload, payloadId⟩
  jobs : ∀ id, db.jobs.lookup id = db₀.jobs.lookup id
    ∨ T ⟨.completedJob, .workflowJob, id⟩ ∨ T ⟨.exportArtifact, .workflowJob, id⟩
  events : ∀ id, db.events.lookup id = db₀.events.lookup id
    ∨ ∃ event jobId, db₀.events.lookup id = some event
      ∧ event.workflowJobId = some jobId ∧ T ⟨.completedJob, .workflowJob, jobId⟩
  researchAttempts : ∀ id, db.researchAttempts.lookup id = db₀.researchAttempts.lookup id
    ∨ T ⟨.attemptMetadata, .researchAttempt, id⟩
  generationAttempts : ∀ id, db.generationAttempts.lookup id = db₀.generationAttempts.lookup id
    ∨ T ⟨.attemptMetadata, .generationAttempt, id⟩
  generationRuns : ∀ id, db.generationRuns.lookup id = db₀.generationRuns.lookup id
    ∨ ∃ attemptId attempt, db₀.generationAttempts.lookup attemptId = some attempt
      ∧ attempt.generationRunId = id ∧ T ⟨.attemptMetadata, .generationAttempt, attemptId⟩
  publishAttempts : ∀ id, db.publishAttempts.lookup id = db₀.publishAttempts.lookup id
    ∨ T ⟨.attemptMetadata, .publishAttempt, id⟩
  media : ∀ id, db.media.lookup id = db₀.media.lookup id ∨ T ⟨.unreferencedMedia, .mediaAsset, id⟩

theorem Frame.refl (T : CandidateIdentity → Prop) (db : RetentionDb) : Frame T db db :=
  ⟨fun _ => .inl rfl, fun _ => .inl rfl, fun _ => .inl rfl, fun _ => .inl rfl,
    fun _ => .inl rfl, fun _ => .inl rfl, fun _ => .inl rfl, fun _ => .inl rfl,
    fun _ => .inl rfl⟩

theorem put_or {ρ : Type} [Keyed ρ UUID] {t t₀ : Table ρ} {row : ρ} {P : UUID → Prop}
    (h : ∀ id, t.lookup id = t₀.lookup id ∨ P id) (hrow : P (Keyed.key row)) (id : UUID) :
    (t.put row).lookup id = t₀.lookup id ∨ P id := by
  by_cases hid : id = Keyed.key row
  · subst hid
    exact .inr hrow
  · rw [lookup_put_of_ne hid]
    exact h id

theorem map_or {ρ : Type} [Keyed ρ UUID] {t t₀ : Table ρ} {f : ρ → ρ} {P : UUID → Prop}
    (hf : ∀ r, Keyed.key (f r) = Keyed.key r) (h : ∀ id, t.lookup id = t₀.lookup id ∨ P id)
    (hchange : ∀ id row, t₀.lookup id = some row → f row = row ∨ P id) (id : UUID) :
    (t.map f hf).lookup id = t₀.lookup id ∨ P id := by
  rcases h id with hsame | hP
  · rw [lookup_map, hsame]
    cases hl : t₀.lookup id with
    | none => exact .inl rfl
    | some row =>
      rcases hchange id row hl with hkeep | hP
      · exact .inl (by rw [map_some, hkeep])
      · exact .inr hP
  · exact .inr hP

variable {T : CandidateIdentity → Prop} {id : UUID}

theorem Frame.scrubRawPayload (h : Frame T db₀ db) (hT : T ⟨.rawPayload, .rawPayload, id⟩) :
    Frame T db₀ (db.scrubRawPayload id) := by
  unfold RetentionDb.scrubRawPayload
  cases hl : db.rawPayloads.lookup id with
  | none => exact h
  | some row =>
    have hid : row.id = id := key_of_lookup hl
    refine ⟨put_or h.rawPayloads (by rw [show Keyed.key row.scrubbed = id from hid]; exact hT),
      ?_, h.jobs, h.events, h.researchAttempts, h.generationAttempts, h.generationRuns,
      h.publishAttempts, h.media⟩
    refine map_or (SourceItem.key_scrubbedWith id) h.sourceItems ?_
    intro itemId item hitem
    by_cases hof : item.rawPayloadId = some id
    · exact .inr ⟨item, id, hitem, hof, hT⟩
    · exact .inl (if_neg hof)

theorem Frame.scrubWorkflowJob (h : Frame T db₀ db) (hT : T ⟨.completedJob, .workflowJob, id⟩) :
    Frame T db₀ (db.scrubWorkflowJob id) := by
  unfold RetentionDb.scrubWorkflowJob
  cases hl : db.jobs.lookup id with
  | none => exact h
  | some row =>
    have hid : row.id = id := key_of_lookup hl
    refine ⟨h.rawPayloads, h.sourceItems,
      put_or h.jobs (by rw [show Keyed.key (scrubbedJob row) = id from hid]; exact .inl hT),
      ?_, h.researchAttempts, h.generationAttempts, h.generationRuns, h.publishAttempts, h.media⟩
    refine map_or (WorkflowEvent.key_scrubbedWith id) h.events ?_
    intro eventId event hevent
    by_cases hof : event.workflowJobId = some id
    · exact .inr ⟨event, id, hevent, hof, hT⟩
    · exact .inl (if_neg hof)

variable {observedAt : Datetime}

theorem Frame.putExport (h : Frame T db₀ db) {row : WorkflowJob} {reading : ExportReading}
    (hl : db.jobs.lookup id = some row) (hT : T ⟨.exportArtifact, .workflowJob, id⟩) :
    Frame T db₀ { db with jobs := db.jobs.put (expiredExport row reading observedAt) } := by
  have hid : row.id = id := key_of_lookup hl
  refine ⟨h.rawPayloads, h.sourceItems, put_or h.jobs ?_, h.events, h.researchAttempts,
    h.generationAttempts, h.generationRuns, h.publishAttempts, h.media⟩
  rw [show Keyed.key (expiredExport row reading observedAt) = id from hid]
  exact .inr hT

theorem Frame.putMedia (h : Frame T db₀ db) {row : MediaAsset} (hl : db.media.lookup id = some row)
    (hT : T ⟨.unreferencedMedia, .mediaAsset, id⟩) :
    Frame T db₀ { db with media := db.media.put (row.expired observedAt) } := by
  have hid : row.id = id := key_of_lookup hl
  refine ⟨h.rawPayloads, h.sourceItems, h.jobs, h.events, h.researchAttempts,
    h.generationAttempts, h.generationRuns, h.publishAttempts, put_or h.media ?_⟩
  rw [show Keyed.key (row.expired observedAt) = id from hid]
  exact hT

/-- The runs of the generation attempts are those they had: no removal moves an attempt
to another run. -/
def SameRuns (db₀ db : RetentionDb) : Prop :=
  ∀ id, (db.generationAttempts.lookup id).map GenerationAttempt.generationRunId
    = (db₀.generationAttempts.lookup id).map GenerationAttempt.generationRunId

theorem Frame.scrubGenerationAttempt (h : Frame T db₀ db) (hruns : SameRuns db₀ db)
    (hT : T ⟨.attemptMetadata, .generationAttempt, id⟩) {row : GenerationAttempt}
    (hl : db.generationAttempts.lookup id = some row) :
    Frame T db₀ { db with
      generationAttempts := db.generationAttempts.put row.scrubbed
      generationRuns :=
        match db.generationRuns.lookup row.generationRunId with
        | none => db.generationRuns
        | some run => db.generationRuns.put run.scrubbed } := by
  have hid : row.id = id := key_of_lookup hl
  refine ⟨h.rawPayloads, h.sourceItems, h.jobs, h.events, h.researchAttempts, put_or
    h.generationAttempts (by rw [show Keyed.key row.scrubbed = id from hid]; exact hT), ?_,
    h.publishAttempts, h.media⟩
  cases hrun : db.generationRuns.lookup row.generationRunId with
  | none => exact h.generationRuns
  | some run =>
    refine put_or h.generationRuns ?_
    -- the attempt was in this run when the phase began
    have hsame := hruns id
    rw [hl, map_some] at hsame
    obtain ⟨attempt, hattempt, hof⟩ := map_eq_some_iff.mp hsame.symm
    refine ⟨id, attempt, hattempt, ?_, hT⟩
    rw [hof]
    exact (key_of_lookup hrun).symm

theorem SameRuns.put (h : SameRuns db₀ db) {row : GenerationAttempt}
    (hl : db.generationAttempts.lookup id = some row) {db' : RetentionDb}
    (hdb : db'.generationAttempts = db.generationAttempts.put row.scrubbed) : SameRuns db₀ db' := by
  have hid : row.id = id := key_of_lookup hl
  intro other
  rw [hdb]
  by_cases hother : other = id
  · subst hother
    have hself : (db.generationAttempts.put row.scrubbed).lookup other = some row.scrubbed := by
      rw [← hid]
      refine lookup_put_self (r := row.scrubbed) (y := row) ?_
      show db.generationAttempts.lookup row.id = some row
      rw [hid]
      exact hl
    rw [hself, ← h other, hl]
    rfl
  · rw [lookup_put_of_ne (by rw [show Keyed.key row.scrubbed = id from hid]; exact hother)]
    exact h other

theorem Frame.scrubAttempt (h : Frame T db₀ db) (hruns : SameRuns db₀ db)
    {recordType : RetentionRecordType} (hT : T ⟨.attemptMetadata, recordType, id⟩)
    (hscrub : db.scrubAttempt recordType id = some db') : Frame T db₀ db' ∧ SameRuns db₀ db' := by
  unfold RetentionDb.scrubAttempt at hscrub
  cases recordType with
  | researchAttempt =>
    cases hl : db.researchAttempts.lookup id with
    | none =>
      simp only [hl] at hscrub
      cases hscrub
      exact ⟨h, hruns⟩
    | some row =>
      simp only [hl] at hscrub
      cases hscrub
      have hid : row.id = id := key_of_lookup hl
      refine ⟨⟨h.rawPayloads, h.sourceItems, h.jobs, h.events, put_or h.researchAttempts ?_,
        h.generationAttempts, h.generationRuns, h.publishAttempts, h.media⟩, hruns⟩
      rw [show Keyed.key row.scrubbed = id from hid]
      exact hT
  | generationAttempt =>
    cases hl : db.generationAttempts.lookup id with
    | none =>
      simp only [hl] at hscrub
      cases hscrub
      exact ⟨h, hruns⟩
    | some row =>
      simp only [hl] at hscrub
      cases hscrub
      exact ⟨h.scrubGenerationAttempt hruns hT hl, hruns.put hl rfl⟩
  | publishAttempt =>
    cases hl : db.publishAttempts.lookup id with
    | none =>
      simp only [hl] at hscrub
      cases hscrub
      exact ⟨h, hruns⟩
    | some row =>
      simp only [hl] at hscrub
      cases hscrub
      have hid : row.id = id := key_of_lookup hl
      refine ⟨⟨h.rawPayloads, h.sourceItems, h.jobs, h.events, h.researchAttempts,
        h.generationAttempts, h.generationRuns, put_or h.publishAttempts ?_, h.media⟩, hruns⟩
      rw [show Keyed.key row.scrubbed = id from hid]
      exact hT
  | rawPayload | workflowJob | mediaAsset => cases hscrub

/-! ## The loop -/

def listed (db : RetentionDb) (runId : UUID) : List RetentionCandidate :=
  match db.runs.lookup runId with
  | none => []
  | some run => run.candidateSnapshot

/-- The preview lists the record in the state it is in now. -/
def Previewed (S : Surroundings) (db : RetentionDb) (runId : UUID) (identity : CandidateIdentity) :
    Prop :=
  ∃ candidate ∈ db.listed runId, candidate.identity = identity
    ∧ (db.stateOf identity).map S.digest = some candidate.stateHash

theorem recordType_of_state {identity : CandidateIdentity} {hash : String}
    (h : (db.stateOf identity).map S.digest = some hash) :
    (identity.category = .rawPayload → identity.recordType = .rawPayload)
      ∧ (identity.category = .completedJob → identity.recordType = .workflowJob)
      ∧ (identity.category = .exportArtifact → identity.recordType = .workflowJob)
      ∧ (identity.recordType = .mediaAsset → identity.category = .unreferencedMedia) := by
  obtain ⟨category, recordType, id⟩ := identity
  cases category <;> cases recordType <;> simp_all [stateOf]

variable {run : RetentionRun} {candidates : List RetentionCandidate} {now : Datetime}
  {candidate : RetentionCandidate}

theorem state_of_unchanged
    (h : (db.executionContext S run candidates now observedAt).unchanged candidate = true) :
    (db.stateOf candidate.identity).map S.digest = some candidate.stateHash := by
  rw [ExecutionContext.unchanged, ExecutionContext.currentOf] at h
  cases hfind : (db.executionContext S run candidates now observedAt).current.reverse.find?
      (fun current => current.identity = candidate.identity) with
  | none =>
    rw [hfind] at h
    cases h
  | some current =>
    rw [hfind] at h
    have hhash : current.stateHash = candidate.stateHash := by simpa using h
    have hid : current.identity = candidate.identity := by simpa using find?_some hfind
    have hmem := mem_reverse.mp (mem_of_find?_eq_some hfind)
    rw [← hhash, ← hid]
    exact stateHash_of_collected hmem

structure LoopFrame (S : Surroundings) (db₀ : RetentionDb) (runId : UUID) (e : Execution) :
    Prop where
  frame : Frame (Previewed S db₀ runId) db₀ e.db
  attemptRuns : SameRuns db₀ e.db
  runs : e.db.runs = db₀.runs

variable {runId : UUID}

variable {e e' : Execution}

theorem LoopFrame.of_db (h : LoopFrame S db₀ runId e) (hdb : e'.db = e.db) :
    LoopFrame S db₀ runId e' := by
  obtain ⟨hframe, hattempts, hruns⟩ := h
  rw [← hdb] at hframe hattempts hruns
  exact ⟨hframe, hattempts, hruns⟩

@[simp] theorem runs_scrubRawPayload : (db.scrubRawPayload id).runs = db.runs := by
  unfold RetentionDb.scrubRawPayload
  split <;> rfl

@[simp] theorem runs_scrubWorkflowJob : (db.scrubWorkflowJob id).runs = db.runs := by
  unfold RetentionDb.scrubWorkflowJob
  split <;> rfl

theorem runs_scrubAttempt {recordType : RetentionRecordType}
    (h : db.scrubAttempt recordType id = some db') : db'.runs = db.runs := by
  unfold RetentionDb.scrubAttempt at h
  cases recordType <;> simp only at h <;> (try split at h) <;> cases h <;> rfl

@[simp] theorem attempts_scrubRawPayload :
    (db.scrubRawPayload id).generationAttempts = db.generationAttempts := by
  unfold RetentionDb.scrubRawPayload
  split <;> rfl

@[simp] theorem attempts_scrubWorkflowJob :
    (db.scrubWorkflowJob id).generationAttempts = db.generationAttempts := by
  unfold RetentionDb.scrubWorkflowJob
  split <;> rfl

theorem LoopFrame.executeMedia {C : ExecutionContext} (h : LoopFrame S db₀ runId e)
    (hT : Previewed S db₀ runId ⟨.unreferencedMedia, .mediaAsset, candidate.recordId⟩) :
    LoopFrame S db₀ runId (Execution.executeMedia C e candidate) := by
  unfold Execution.executeMedia
  cases hl : e.db.media.lookup candidate.recordId with
  | none => exact h.of_db rfl
  | some media =>
    simp only
    split
    · exact h.of_db rfl
    cases C.classification.pathOf media.id with
    | none => exact h.of_db rfl
    | some path =>
      simp only
      split
      · exact h.of_db rfl
      · exact ⟨h.frame.putMedia hl hT, h.attemptRuns, h.runs⟩

theorem LoopFrame.executeExport {C : ExecutionContext} (h : LoopFrame S db₀ runId e)
    (hT : Previewed S db₀ runId ⟨.exportArtifact, .workflowJob, candidate.recordId⟩)
    (hround : Execution.executeExport C e candidate = some e') : LoopFrame S db₀ runId e' := by
  unfold Execution.executeExport at hround
  cases hl : e.db.jobs.lookup candidate.recordId with
  | none =>
    simp only [hl] at hround
    cases hround
    exact h.of_db rfl
  | some row =>
    simp only [hl] at hround
    cases hpath : C.surroundings.exportRelativePath row.id with
    | none =>
      simp only [hpath] at hround
      cases hround
      exact h.of_db rfl
    | some path =>
      simp only [hpath] at hround
      cases hread : C.surroundings.readExport row with
      | none =>
        simp only [hread] at hround
        cases hround
      | some reading =>
        simp only [hread] at hround
        cases hround
        exact ⟨h.frame.putExport hl hT, h.attemptRuns, h.runs⟩

theorem LoopFrame.executeScrub (h : LoopFrame S db₀ runId e)
    (hT : Previewed S db₀ runId candidate.identity)
    (hround : Execution.executeScrub e candidate = some e') : LoopFrame S db₀ runId e' := by
  have hstate := hT
  obtain ⟨_, -, -, hhash⟩ := hstate
  obtain ⟨hraw, hjob, -, -⟩ := recordType_of_state hhash
  obtain ⟨category, recordType, recordId, operation, occurredAt, byteLength, hash⟩ := candidate
  unfold Execution.executeScrub at hround
  cases category with
  | rawPayload =>
    obtain rfl := hraw rfl
    cases hround
    refine ⟨h.frame.scrubRawPayload hT, ?_, ?_⟩
    · intro other
      show (_ : Option GenerationAttempt).map _ = _
      rw [Execution.scrubbed, attempts_scrubRawPayload]
      exact h.attemptRuns other
    · rw [Execution.scrubbed, runs_scrubRawPayload]
      exact h.runs
  | completedJob =>
    obtain rfl := hjob rfl
    cases hround
    refine ⟨h.frame.scrubWorkflowJob hT, ?_, ?_⟩
    · intro other
      rw [Execution.scrubbed, attempts_scrubWorkflowJob]
      exact h.attemptRuns other
    · rw [Execution.scrubbed, runs_scrubWorkflowJob]
      exact h.runs
  | attemptMetadata =>
    simp only at hround
    obtain ⟨db, hscrub, rfl⟩ := map_eq_some_iff.mp hround
    obtain ⟨hframe, hruns⟩ := h.frame.scrubAttempt h.attemptRuns hT hscrub
    exact ⟨hframe, hruns, (runs_scrubAttempt hscrub).trans h.runs⟩
  | exportArtifact | unreferencedMedia => cases hround

theorem LoopFrame.executeCandidate (h : LoopFrame S db₀ runId e)
    (hlisted : candidate ∈ db₀.listed runId)
    (hround : Execution.executeCandidate (db₀.executionContext S run candidates now observedAt) e
      candidate = some e') : LoopFrame S db₀ runId e' := by
  unfold Execution.executeCandidate at hround
  split_ifs at hround with hchanged hsibling hmedia hexport
  · cases hround
    unfold Execution.executeChanged
    simp only
    split <;> exact h.of_db rfl
  · cases hround
    exact h.of_db rfl
  all_goals
    have hhash := state_of_unchanged (by simpa using hchanged)
    have hT : Previewed S db₀ runId candidate.identity := ⟨candidate, hlisted, rfl, hhash⟩
    obtain ⟨-, -, htype, hcategory⟩ := recordType_of_state hhash
  · cases hround
    refine h.executeMedia ?_
    rwa [RetentionCandidate.identity, hmedia,
      show candidate.category = .unreferencedMedia from hcategory hmedia] at hT
  · refine h.executeExport ?_ hround
    rwa [RetentionCandidate.identity, hexport,
      show candidate.recordType = .workflowJob from htype hexport] at hT
  · exact h.executeScrub hT hround

theorem loopFrame_executeCandidates
    (hlisted : ∀ candidate ∈ candidates, candidate ∈ db₀.listed runId)
    (h : db₀.executeCandidates S run candidates now observedAt = some e) :
    LoopFrame S db₀ runId e := by
  refine foldlM_preserves (P := LoopFrame S db₀ runId) ?_ ?_ h
  · intro b candidate b' hmem hb hround
    exact hb.executeCandidate (hlisted candidate hmem) hround
  · exact ⟨Frame.refl _ _, fun _ => rfl, rfl⟩

/-! ## The phase -/

/-- Only the run's own row changes, and the rows of records the preview lists as they
are. -/
structure OnlyPreviewed (S : Surroundings) (db : RetentionDb) (runId : UUID) (db' : RetentionDb) :
    Prop where
  runs : ∀ id, id ≠ runId → db'.runs.lookup id = db.runs.lookup id
  records : Frame (Previewed S db runId) db db'

theorem OnlyPreviewed.refl (S : Surroundings) (db : RetentionDb) (runId : UUID) :
    OnlyPreviewed S db runId db :=
  ⟨fun _ _ => rfl, Frame.refl _ _⟩

theorem onlyPreviewed_failRun {code message : String} (hl : db.runs.lookup runId = some run) :
    OnlyPreviewed S db runId (db.failRun run code message observedAt) := by
  have hid : run.id = runId := key_of_lookup hl
  have hrefl := Frame.refl (Previewed S db runId) db
  refine ⟨fun id hne => lookup_put_of_ne ?_, ⟨hrefl.rawPayloads, hrefl.sourceItems,
    hrefl.jobs, hrefl.events, hrefl.researchAttempts, hrefl.generationAttempts,
    hrefl.generationRuns, hrefl.publishAttempts, hrefl.media⟩⟩
  show id ≠ run.id
  rw [hid]
  exact hne

/--
**Retention touches only what was previewed.** Whatever has happened since the preview, and
whether or not the phase succeeds: the row of a record changes only if the preview lists it
with the digest of its state as the phase finds it. Source items, events and generation runs
change only with the payload, the job or the attempt whose digest covers them, and of the
runs only the one executed changes.
-/
theorem executeDbPhase_onlyPreviewed (S : Surroundings) (db : RetentionDb) (runId : UUID)
    (previewToken : String) (now observedAt : Datetime) :
    OnlyPreviewed S db runId (db.executeDbPhase S runId previewToken now observedAt).2 := by
  unfold executeDbPhase
  cases hl : db.runs.lookup runId with
  | none => exact OnlyPreviewed.refl S db runId
  | some run =>
    have hid : run.id = runId := key_of_lookup hl
    simp only
    split_ifs
    · exact OnlyPreviewed.refl S db runId
    · exact onlyPreviewed_failRun hl
    · exact OnlyPreviewed.refl S db runId
    · exact OnlyPreviewed.refl S db runId
    cases hcandidates : db.executableCandidates S run previewToken observedAt with
    | error failure =>
      unfold executableCandidates at hcandidates
      cases hsnapshot : snapshotCandidates run with
      | none =>
        simp only [hsnapshot, Except.error.injEq] at hcandidates
        rw [← hcandidates]
        exact onlyPreviewed_failRun hl
      | some candidates =>
        simp only [hsnapshot] at hcandidates
        split_ifs at hcandidates
        rw [← hcandidates]
        exact onlyPreviewed_failRun hl
    | ok candidates =>
      have hlisted : ∀ candidate ∈ candidates, candidate ∈ db.listed runId := by
        unfold executableCandidates at hcandidates
        cases hsnapshot : snapshotCandidates run with
        | none =>
          simp only [hsnapshot] at hcandidates
          cases hcandidates
        | some sorted =>
          simp only [hsnapshot] at hcandidates
          split_ifs at hcandidates
          cases hcandidates
          intro candidate hmem
          rw [listed, hl]
          exact (mem_snapshotCandidates hsnapshot).mp hmem
      simp only
      cases hloop : db.executeCandidates S run candidates now observedAt with
      | none => exact OnlyPreviewed.refl S db runId
      | some e =>
        obtain ⟨hframe, -, hruns⟩ := loopFrame_executeCandidates hlisted hloop
        refine ⟨fun id hne => ?_, ⟨hframe.rawPayloads, hframe.sourceItems, hframe.jobs,
          hframe.events, hframe.researchAttempts, hframe.generationAttempts,
          hframe.generationRuns, hframe.publishAttempts, hframe.media⟩⟩
        show (e.db.runs.put (executedRun run e observedAt)).lookup id = _
        rw [lookup_put_of_ne (by
          show id ≠ run.id
          rw [hid]
          exact hne), hruns]

/-! ## A row that no preview can list -/

/-- The digest of the payload below, and that of the preview that lists it. -/
def payloadDigest : String :=
  "6e7e3deb710ed4fc131b1b2afdc3986e78e47d540a3b1fafed00ce49a1bbfd71"

def previewDigest : String :=
  "e7b36522bd8aeb63a1e1a51008781058fb130400883a4332432baf3c035065ad"

def twoDigests : Json → String
  | .obj (("candidates", _) :: _) => previewDigest
  | _ => payloadDigest

/-- No record is protected, and there is neither media nor an export. -/
def unprotected : Surroundings where
  digest := twoDigests
  jsonByteLength _ := 487
  protectedRawPayloadIds := []
  publishingJobIds := []
  publicationReferencingJobIds := []
  disposableResearchRunIds := []
  referencedGenerationAttemptIds := []
  protectedPublishJobIds := []
  referencedMediaIds := []
  readExport _ := none
  mediaClaimIdentity _ := none
  mediaRelativePath _ := none
  exportRelativePath _ := none

def listedPayload : RetentionCandidate :=
  ⟨.rawPayload, .rawPayload, 1, .scrub, 0, some 487, payloadDigest⟩

def queuedRun : RetentionRun where
  id := 9
  workflowJobId := none
  status := .queued
  previewToken := previewDigest
  schemaRevision := retentionSchemaRevision
  policySnapshot := {}
  candidateSnapshot := [listedPayload]
  cleanupIntentSnapshot := []
  counts := .zero
  errorSnapshot := []
  startedAt := none
  finishedAt := none

def oldPayload : RawPayload :=
  ⟨1, "https://example.org/feed", none, none, Json.empty, none, none, none, .arr [], 0⟩

def parsedItem : SourceItem :=
  ⟨2, some 1, none, none, none, some "title", none, none, none, none, none, Json.empty⟩

/-- An old payload with the one item parsed from it, and the run that lists it. -/
def payloadWithItem : RetentionDb where
  runs := ⟨[queuedRun], by decide⟩
  rawPayloads := ⟨[oldPayload], by decide⟩
  sourceItems := ⟨[parsedItem], by decide⟩
  jobs := .empty
  events := .empty
  researchAttempts := .empty
  generationAttempts := .empty
  generationRuns := .empty
  publishAttempts := .empty
  media := .empty

/-- A source item is no record a preview lists, and it is scrubbed with its payload. -/
theorem executeDbPhase_changed_unlisted :
    ¬ ∀ (db : RetentionDb) (runId : UUID) (previewToken : String) (now observedAt : Datetime)
        (id : UUID),
      (db.executeDbPhase unprotected runId previewToken now observedAt).2.sourceItems.lookup id
          ≠ db.sourceItems.lookup id →
        ∃ identity, identity.recordId = id ∧ Previewed unprotected db runId identity := by
  intro h
  have hscrubbed : (payloadWithItem.executeDbPhase unprotected 9 previewDigest
      (timedeltaDays 31) (timedeltaDays 31)).2.sourceItems.lookup 2
        ≠ payloadWithItem.sourceItems.lookup 2 := by
    decide +kernel
  obtain ⟨identity, hid, candidate, hlisted, hcandidate, -⟩ := h _ _ _ _ _ _ hscrubbed
  obtain rfl : candidate = listedPayload := mem_singleton.mp hlisted
  subst hcandidate
  have hsame : (1 : UUID) = 2 := hid
  exact absurd hsame (by decide)

end RetentionDb

end NewsCraft.Retention
