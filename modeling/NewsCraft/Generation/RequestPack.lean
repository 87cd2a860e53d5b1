import NewsCraft.Jobs.QueueKeys
import NewsCraft.Lib.Checked

/-!
# Requesting a content pack

`request_content_pack` answers with the job that will write a story up. Its key is made of
the story and a digest of the request, so the same request is answered with the same job.
With automatic research the answer is the research job of the story, and the content pack
is its continuation.

What the request reads of other tables is part of the argument.
-/

namespace NewsCraft.Generation

open Lib Lib.Checked Jobs List Option

/-- What `ResearchService.request` comes to. `suffix` is the rest of the key of the
research job, `payload` what `append_unique_continuation` makes of the job's payload, and
`boundTo` the result revision a subscriber that is new to a finished research is bound to. -/
inductive ResearchAnswer where
  | rejected
  | completeWithoutResearch
  /-- The job of a research that succeeded before. -/
  | finished (suffix : String) (payload : Json) (boundTo : Option UUID)
  /-- A research job, made with `newPayload` unless it is there. -/
  | requested (suffix : String) (newPayload payload : Json) (boundTo : Option UUID)

/-- A request for a content pack; `payload` is `none` where what it names is refused. -/
structure PackRequest where
  storyId : UUID
  researchMode : String
  payload : Option Json
  research : ResearchAnswer
  /-- The payload of a continuation that is bound to a result. -/
  boundPayload : Json
  jobId : UUID
  boundJobId : UUID
  now : Datetime

inductive PackStop where
  | invalidGenerationRequest
  | job (error : JobError)

def contentPackKey (storyId : UUID) (digest : String) : String :=
  "content-pack:" ++ uuidStr storyId ++ ":" ++ digest

def researchKey (storyId : UUID) (suffix : String) : String :=
  "research_story:" ++ uuidStr storyId ++ ":" ++ suffix

section

variable (R : Redaction) (sha256 : Json → String) (db : JobsDb) (request : PackRequest)

def enqueue (args : JobsDb.EnqueueJob) (id : UUID) :
    Except PackStop ((WorkflowJob × Bool) × JobsDb) :=
  (db.enqueueJob R args true id request.now).mapError .job

def enqueuePack (payload : Json) : Except PackStop (UUID × JobsDb) := do
  let ((job, _), db) ← enqueue R db request
    { jobType := "content_pack.generate"
      payload := payload
      idempotencyKey := contentPackKey request.storyId (sha256 payload)
      origin := .manual } request.jobId
  .ok (job.id, db)

/-- `enqueue_bound_continuation`, for a subscriber that is new. -/
def enqueueBoundContinuation (payload : Json) (boundTo : Option UUID) : Except PackStop JobsDb :=
  match boundTo with
  | none => .ok db
  | some resultRevisionId => do
      let (_, db) ← enqueue R db request
        { jobType := "content_pack.generate"
          payload := request.boundPayload
          idempotencyKey := contentPackKey request.storyId
            (sha256 payload ++ ":" ++ uuidStr resultRevisionId)
          origin := .automation } request.boundJobId
      .ok db

/-- `_enqueue_after_research`. -/
def enqueueAfterResearch (payload : Json) : Except PackStop (UUID × JobsDb) :=
  match request.research with
  | .rejected => .error .invalidGenerationRequest
  | .completeWithoutResearch => enqueuePack R sha256 db request payload
  | .finished suffix updated boundTo =>
    match db.getByIdempotencyKey (researchKey request.storyId suffix) with
    | none => enqueuePack R sha256 db request payload
    | some canonical => do
        let db ← enqueueBoundContinuation R sha256 (db.write { canonical with payload := updated })
          request payload boundTo
        .ok (canonical.id, db)
  | .requested suffix newPayload updated boundTo => do
      let ((job, created), db) ← enqueue R db request
        { jobType := "research_story"
          payload := newPayload
          idempotencyKey := researchKey request.storyId suffix
          origin := .automation } request.jobId
      if created then
        .ok (job.id, db)
      else do
        let db ← enqueueBoundContinuation R sha256 (db.write { job with payload := updated })
          request payload boundTo
        .ok (job.id, db)

/-- `request_content_pack`: the id of the job that answers the request. -/
def requestContentPack : Except PackStop (UUID × JobsDb) := do
  let payload ← orStop request.payload .invalidGenerationRequest
  if request.researchMode = "auto_if_incomplete" then
    enqueueAfterResearch R sha256 db request payload
  else
    enqueuePack R sha256 db request payload

/-! ## The job a request is answered with -/

def answerKey (payload : Json) : String :=
  if request.researchMode = "auto_if_incomplete" then
    match request.research with
    | .requested suffix _ _ _ => researchKey request.storyId suffix
    | .finished suffix _ _ =>
      if (db.getByIdempotencyKey (researchKey request.storyId suffix)).isSome then
        researchKey request.storyId suffix
      else
        contentPackKey request.storyId (sha256 payload)
    | _ => contentPackKey request.storyId (sha256 payload)
  else
    contentPackKey request.storyId (sha256 payload)

def PackRequest.Accepted (request : PackRequest) : Prop :=
  request.payload.isSome ∧ (request.researchMode = "auto_if_incomplete" →
    request.research ≠ .rejected)

/-- The job the request would be answered with, where it is there already. -/
def answeredBy : Option WorkflowJob :=
  request.payload.bind fun payload =>
    db.getByIdempotencyKey (answerKey sha256 db request payload)

end

/-! ## Keys of a story -/

/-- The key is one a request for the story uses. -/
def StoryKey (storyId : UUID) (key : String) : Prop :=
  ∃ rest, key = contentPackKey storyId rest ∨ key = researchKey storyId rest

theorem contentPackKey_ne_researchKey (id id' : UUID) (rest rest' : String) :
    contentPackKey id rest ≠ researchKey id' rest' := by
  intro heq
  unfold contentPackKey researchKey at heq
  have hchars := congrArg String.toList heq
  simp at hchars

theorem storyKey_contentPackKey (id : UUID) (rest : String) : StoryKey id (contentPackKey id rest) :=
  ⟨rest, Or.inl rfl⟩

theorem storyKey_researchKey (id : UUID) (rest : String) : StoryKey id (researchKey id rest) :=
  ⟨rest, Or.inr rfl⟩

theorem StoryKey.story_eq {id id' : UUID} {key : String} (h : StoryKey id key)
    (h' : StoryKey id' key) : id = id' := by
  obtain ⟨rest, rfl | rfl⟩ := h
  · obtain ⟨rest', heq | heq⟩ := h'
    · exact (printedKey_injective heq).1
    · exact absurd heq (contentPackKey_ne_researchKey id id' rest rest')
  · obtain ⟨rest', heq | heq⟩ := h'
    · exact absurd heq.symm (contentPackKey_ne_researchKey id' id rest' rest)
    · exact (printedKey_injective heq).1

section

variable {R : Redaction} (sha256 : Json → String) {db db' : JobsDb} {request : PackRequest}
  {payload : Json}

theorem storyKey_answerKey : StoryKey request.storyId (answerKey sha256 db request payload) := by
  unfold answerKey
  by_cases hmode : request.researchMode = "auto_if_incomplete"
  · rw [if_pos hmode]
    cases request.research with
    | requested suffix newPayload updated boundTo => exact storyKey_researchKey _ _
    | finished suffix updated boundTo =>
      dsimp only
      split_ifs
      · exact storyKey_researchKey _ _
      · exact storyKey_contentPackKey _ _
    | rejected | completeWithoutResearch => exact storyKey_contentPackKey _ _
  · rw [if_neg hmode]
    exact storyKey_contentPackKey _ _

/-! ## What a request leaves -/

/-- The queue after a request: the job that was there, or a new one that is queued. -/
structure Answered (db : JobsDb) (request : PackRequest) (key : String) (db' : JobsDb)
    (job : WorkflowJob) : Prop where
  found : db'.getByIdempotencyKey key = some job
  before : ∀ old, db.getByIdempotencyKey key = some old →
    job.id = old.id ∧ job.status = old.status ∧ job.automationRunId = old.automationRunId
  new : db.getByIdempotencyKey key = none → job.status = .queued ∧ job.automationRunId = none
  frame : ∀ other, ¬ StoryKey request.storyId other →
    db'.getByIdempotencyKey other = db.getByIdempotencyKey other
  paused : db'.globalPause = db.globalPause

/-- The rows of a table that were not there have one of these ids. -/
def AddsOnly (ids : List UUID) (db db' : JobsDb) : Prop :=
  ∀ id, db.jobs.lookup id = none → id ∉ ids → db'.jobs.lookup id = none

theorem AddsOnly.trans {ids ids' : List UUID} {db'' : JobsDb} (h : AddsOnly ids db db')
    (h' : AddsOnly ids' db' db'') : AddsOnly (ids ++ ids') db db'' := by
  intro id hnone hid
  rw [mem_append, not_or] at hid
  exact h' id (h id hnone hid.1) hid.2

theorem AddsOnly.mono {ids ids' : List UUID} (h : AddsOnly ids db db') (hsub : ids ⊆ ids') :
    AddsOnly ids' db db' := by
  intro id hnone hid
  exact h id hnone fun hmem => hid (hsub hmem)

theorem addsOnly_write (job : WorkflowJob) : AddsOnly [] db (db.write job) := by
  intro id hnone _
  have hsome := Table.isSome_lookup_put db.jobs job id
  rw [hnone, isSome_none, isSome_eq_false_iff, isNone_iff_eq_none] at hsome
  exact hsome

theorem enqueueJob_globalPause {args : JobsDb.EnqueueJob} {id : UUID} {now : Datetime}
    {result : WorkflowJob × Bool} (h : db.enqueueJob R args true id now = .ok (result, db')) :
    db'.globalPause = db.globalPause := by
  obtain ⟨job, created⟩ := result
  rcases (JobsDb.enqueueJob_spec h).2 with ⟨-, -, rfl | ⟨row, due, -, rfl⟩⟩ | ⟨-, -, -, -, rfl⟩
  · rfl
  · rfl
  · rfl

theorem enqueue_answered (args : JobsDb.EnqueueJob) {id : UUID}
    (hfree : db.jobs.lookup id = none) (hkey : StoryKey request.storyId args.idempotencyKey)
    (hrun : args.automationRunId = none) :
    ∃ job created db', enqueue R db request args id = .ok ((job, created), db')
      ∧ Answered db request args.idempotencyKey db' job ∧ AddsOnly [id] db db' := by
  obtain ⟨job, created, db', hok⟩ := JobsDb.enqueueJob_isOk (R := R) args request.now hfree
  obtain ⟨hfound, hother, hcases⟩ := JobsDb.enqueueJob_getByIdempotencyKey hok
  refine ⟨job, created, db', by rw [enqueue, hok]; rfl,
    ⟨hfound, ?_, ?_, ?_, enqueueJob_globalPause hok⟩, ?_⟩
  · intro old hold
    rcases hcases with ⟨-, row, due, hrow, rfl⟩ | ⟨-, hnone, -⟩
    · rw [hrow, Option.some.injEq] at hold
      subst hold
      exact ⟨rfl, rfl, rfl⟩
    · rw [hnone] at hold
      cases hold
  · intro hnone
    rcases hcases with ⟨-, row, due, hrow, -⟩ | ⟨-, -, rfl⟩
    · rw [hrow] at hnone
      cases hnone
    · exact ⟨rfl, hrun⟩
  · intro other hstory
    refine hother other ?_
    rintro rfl
    exact hstory hkey
  · intro other hnone hne
    rw [mem_singleton] at hne
    exact JobsDb.enqueueJob_lookup_none hok hnone hne

theorem enqueuePack_answered (hfree : db.jobs.lookup request.jobId = none) (payload : Json) :
    ∃ job db', enqueuePack R sha256 db request payload = .ok (job.id, db')
      ∧ Answered db request (contentPackKey request.storyId (sha256 payload)) db' job
      ∧ AddsOnly [request.jobId] db db' := by
  have hkey := storyKey_contentPackKey request.storyId (sha256 payload)
  obtain ⟨job, created, db', hok, hanswered⟩ := enqueue_answered (R := R)
    { jobType := "content_pack.generate"
      payload := payload
      idempotencyKey := contentPackKey request.storyId (sha256 payload)
      origin := .manual } hfree hkey rfl
  exact ⟨job, db', bind_ok_iff.mpr ⟨((job, created), db'), hok, rfl⟩, hanswered⟩

theorem enqueueBoundContinuation_frame (hfree : db.jobs.lookup request.boundJobId = none)
    (payload : Json) (boundTo : Option UUID) :
    ∃ db', enqueueBoundContinuation R sha256 db request payload boundTo = .ok db'
      ∧ (∀ suffix, db'.getByIdempotencyKey (researchKey request.storyId suffix)
          = db.getByIdempotencyKey (researchKey request.storyId suffix))
      ∧ (∀ other, ¬ StoryKey request.storyId other →
          db'.getByIdempotencyKey other = db.getByIdempotencyKey other)
      ∧ db'.globalPause = db.globalPause ∧ AddsOnly [request.boundJobId] db db' := by
  cases boundTo with
  | none => exact ⟨db, rfl, fun _ => rfl, fun _ _ => rfl, rfl, fun _ hnone _ => hnone⟩
  | some resultRevisionId =>
    obtain ⟨job, created, db', hok⟩ := JobsDb.enqueueJob_isOk (R := R)
      { jobType := "content_pack.generate"
        payload := request.boundPayload
        idempotencyKey := contentPackKey request.storyId
          (sha256 payload ++ ":" ++ uuidStr resultRevisionId)
        origin := .automation } request.now hfree
    obtain ⟨-, hother, -⟩ := JobsDb.enqueueJob_getByIdempotencyKey hok
    refine ⟨db', ?_, ?_, ?_, enqueueJob_globalPause hok, ?_⟩
    · refine bind_ok_iff.mpr ⟨((job, created), db'), ?_, rfl⟩
      rw [enqueue, hok]
      rfl
    · intro suffix
      exact hother _ (contentPackKey_ne_researchKey _ _ _ _).symm
    · intro other hstory
      refine hother other ?_
      rintro rfl
      exact hstory (storyKey_contentPackKey _ _)
    · intro id hnone hne
      rw [mem_singleton] at hne
      exact JobsDb.enqueueJob_lookup_none hok hnone hne

theorem Answered.subscribe {job : WorkflowJob} {suffix : String} {db₁ : JobsDb}
    (h : Answered db request (researchKey request.storyId suffix) db₁ job) (updated : Json)
    (hfree : db₁.jobs.lookup request.boundJobId = none) (payload : Json) (boundTo : Option UUID) :
    ∃ job' db', enqueueBoundContinuation R sha256 (db₁.write { job with payload := updated }) request
        payload boundTo = .ok db'
      ∧ job'.id = job.id ∧ Answered db request (researchKey request.storyId suffix) db' job'
      ∧ AddsOnly [request.boundJobId] db₁ db' := by
  have hkey := JobsDb.key_of_getByIdempotencyKey h.found
  have hlookup : db₁.jobs.lookup ({ job with payload := updated } : WorkflowJob).id = some job :=
    JobsDb.lookup_of_getByIdempotencyKey h.found
  have hwrite : AddsOnly [] db₁ (db₁.write { job with payload := updated }) := addsOnly_write _
  obtain ⟨db', hok, hresearch, hframe, hpaused, hadds⟩ := enqueueBoundContinuation_frame (R := R)
    sha256 (hwrite _ hfree not_mem_nil) payload boundTo
  refine ⟨{ job with payload := updated }, db', hok, rfl,
    ⟨?_, h.before, h.new, ?_, hpaused.trans h.paused⟩, hwrite.trans hadds⟩
  · rw [hresearch suffix]
    exact JobsDb.getByIdempotencyKey_write_self h.found rfl rfl
  · intro other hstory
    have hother : other ≠ ({ job with payload := updated } : WorkflowJob).idempotencyKey := by
      rintro rfl
      refine hstory ?_
      rw [hkey]
      exact storyKey_researchKey _ _
    rw [hframe other hstory, JobsDb.getByIdempotencyKey_write_of_ne hlookup rfl hother,
      h.frame other hstory]

theorem enqueueAfterResearch_answered (hmode : request.researchMode = "auto_if_incomplete")
    (haccepted : request.research ≠ .rejected) (hfree : db.jobs.lookup request.jobId = none)
    (hbound : db.jobs.lookup request.boundJobId = none) (hne : request.boundJobId ≠ request.jobId)
    (payload : Json) :
    ∃ job db', enqueueAfterResearch R sha256 db request payload = .ok (job.id, db')
      ∧ Answered db request (answerKey sha256 db request payload) db' job
      ∧ AddsOnly [request.jobId, request.boundJobId] db db' := by
  obtain ⟨packed, dbPacked, hpack, hpacked, hpackAdds⟩ := enqueuePack_answered (R := R)
    sha256 hfree payload
  have hpackAdds := hpackAdds.mono (subset_append_left [request.jobId] [request.boundJobId])
  unfold enqueueAfterResearch answerKey
  rw [if_pos hmode]
  cases hresearch : request.research with
  | rejected => exact absurd hresearch haccepted
  | completeWithoutResearch => exact ⟨packed, dbPacked, hpack, hpacked, hpackAdds⟩
  | finished suffix updated boundTo =>
    dsimp only
    cases hfind : db.getByIdempotencyKey (researchKey request.storyId suffix) with
    | none => exact ⟨packed, dbPacked, hpack, hpacked, hpackAdds⟩
    | some canonical =>
      have hsame : Answered db request (researchKey request.storyId suffix) db canonical := by
        refine ⟨hfind, ?_, ?_, fun _ _ => rfl, rfl⟩
        · intro old hold
          rw [hfind, Option.some.injEq] at hold
          subst hold
          exact ⟨rfl, rfl, rfl⟩
        · intro hnone
          rw [hfind] at hnone
          cases hnone
      obtain ⟨job, db', hok, hid, hanswered, hadds⟩ := hsame.subscribe (R := R)
        sha256 updated hbound payload boundTo
      refine ⟨job, db', ?_, hanswered, hadds.mono (subset_append_right [request.jobId] _)⟩
      rw [hid]
      exact bind_ok_iff.mpr ⟨db', hok, rfl⟩
  | requested suffix newPayload updated boundTo =>
    obtain ⟨job, created, db₁, hok, hanswered, hadds⟩ := enqueue_answered (R := R)
      { jobType := "research_story"
        payload := newPayload
        idempotencyKey := researchKey request.storyId suffix
        origin := .automation } hfree (storyKey_researchKey _ _) rfl
    have hbound₁ : db₁.jobs.lookup request.boundJobId = none :=
      hadds _ hbound (by simpa using hne)
    obtain ⟨job', db', hok', hid, hanswered', hadds'⟩ := hanswered.subscribe (R := R)
      sha256 updated hbound₁ payload boundTo
    cases created with
    | true =>
      exact ⟨job, db₁, bind_ok_iff.mpr ⟨((job, true), db₁), hok, rfl⟩, hanswered,
        hadds.mono (subset_append_left _ [request.boundJobId])⟩
    | false =>
      refine ⟨job', db', bind_ok_iff.mpr ⟨((job, false), db₁), hok, ?_⟩, hanswered',
        hadds.trans hadds'⟩
      rw [hid]
      exact bind_ok_iff.mpr ⟨db', hok', rfl⟩

/-- **A request that is not refused is answered.** -/
theorem requestContentPack_answered (haccepted : request.Accepted)
    (hfree : db.jobs.lookup request.jobId = none)
    (hbound : db.jobs.lookup request.boundJobId = none) (hne : request.boundJobId ≠ request.jobId) :
    ∃ payload job db', request.payload = some payload
      ∧ requestContentPack R sha256 db request = .ok (job.id, db')
      ∧ Answered db request (answerKey sha256 db request payload) db' job
      ∧ AddsOnly [request.jobId, request.boundJobId] db db' := by
  obtain ⟨payload, hpayload⟩ := isSome_iff_exists.mp haccepted.1
  have hreduce : requestContentPack R sha256 db request
      = if request.researchMode = "auto_if_incomplete" then
          enqueueAfterResearch R sha256 db request payload
        else enqueuePack R sha256 db request payload := by
    rw [requestContentPack, hpayload]
    rfl
  by_cases hmode : request.researchMode = "auto_if_incomplete"
  · obtain ⟨job, db', hok, hanswered⟩ := enqueueAfterResearch_answered (R := R) sha256
      hmode (haccepted.2 hmode) hfree hbound hne payload
    exact ⟨payload, job, db', hpayload, by rw [hreduce, if_pos hmode, hok], hanswered⟩
  · obtain ⟨job, db', hok, hanswered, hadds⟩ := enqueuePack_answered (R := R) sha256
      hfree payload
    refine ⟨payload, job, db', hpayload, by rw [hreduce, if_neg hmode, hok], ?_,
      hadds.mono (subset_append_left _ [request.boundJobId])⟩
    unfold answerKey
    rw [if_neg hmode]
    exact hanswered

theorem requestContentPack_refused (h : ¬ request.Accepted) :
    requestContentPack R sha256 db request = .error .invalidGenerationRequest := by
  unfold requestContentPack
  cases hpayload : request.payload with
  | none => rfl
  | some payload =>
    have hrejected : request.researchMode = "auto_if_incomplete" ∧ request.research = .rejected := by
      by_contra hnot
      refine h ⟨by rw [hpayload]; rfl, ?_⟩
      intro hmode hresearch
      exact hnot ⟨hmode, hresearch⟩
    change (if request.researchMode = "auto_if_incomplete" then
      enqueueAfterResearch R sha256 db request payload
      else enqueuePack R sha256 db request payload) = _
    rw [if_pos hrejected.1]
    unfold enqueueAfterResearch
    rw [hrejected.2]

end

end NewsCraft.Generation
