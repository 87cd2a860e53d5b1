import NewsCraft.Research.Budget

/-!
# A budget that was accepted, and the run it pays for

The request schema allows more queries and pages than `ResearchBudget` does, and the request
puts its own numbers in the place of the profile's; the handler validates what it is given,
and the OpenRouter backend refuses what is above the profile. So whether a job can run is
decided by the numbers it was requested with.
-/

namespace NewsCraft.Research

open Lib Option

/-! ## Tables -/

structure Story where
  id : UUID
  supersededById : Option UUID

structure EvidenceSnapshot where
  id : UUID
  storyId : UUID
  evidenceKey : String
  contentSha256 : String
  capturedAt : Datetime

inductive ResearchMode where
  | off
  | manual
  | autoIfIncomplete
  deriving DecidableEq

def ResearchMode.value : ResearchMode → String
  | .off => "off"
  | .manual => "manual"
  | .autoIfIncomplete => "auto_if_incomplete"

def Depth.value : Depth → String
  | .standard => "standard"
  | .deep => "deep"

inductive ResearchRunStatus where
  | queued
  | running
  | succeeded
  | needsReview
  | failed

structure ResearchRun where
  id : UUID
  storyId : UUID
  requestedMode : ResearchMode
  providerProfileId : UUID
  status : ResearchRunStatus
  queryBudget : Int
  pageBudget : Int
  timeBudgetSeconds : Int

/-- The payload of a `research_story` job, as far as the handler checks it. -/
structure ResearchPayload where
  runId : UUID
  storyId : UUID
  providerProfileId : UUID
  requestedModel : String
  mode : ResearchMode
  depth : Depth
  evidenceSetHash : String
  budget : ResearchBudget
  budgetOverrides : BudgetOverrides

structure ResearchJob where
  id : UUID
  idempotencyKey : String
  payload : ResearchPayload

def ResearchRun.withStatus (run : ResearchRun) (status : ResearchRunStatus) : ResearchRun :=
  { run with status }

instance : Keyed Story UUID := ⟨Story.id⟩
instance : Keyed EvidenceSnapshot UUID := ⟨EvidenceSnapshot.id⟩
instance : Keyed ResearchRun UUID := ⟨ResearchRun.id⟩
instance : Keyed ResearchJob UUID := ⟨ResearchJob.id⟩

structure ResearchDb where
  stories : Table Story
  snapshots : Table EvidenceSnapshot
  profiles : Table ProviderRow
  runs : Table ResearchRun
  jobs : Table ResearchJob

/-- The redaction of a text, the hash and completeness of evidence, and the capability gate. -/
structure ResearchEnv where
  redactText : String → String
  canonicalHash : List (String × String) → String
  complete : List EvidenceSnapshot → Bool
  available : UUID → Bool

namespace ResearchDb

variable (E : ResearchEnv) (db : ResearchDb)

/-- `_story_evidence`. -/
def storyEvidence (storyId : UUID) : List EvidenceSnapshot :=
  (db.snapshots.rows.filter fun row => row.storyId = storyId).insertionSort fun a b =>
    a.capturedAt < b.capturedAt ∨ (a.capturedAt = b.capturedAt ∧ a.id.int.toNat ≤ b.id.int.toNat)

/-- `evidence_set_hash`. -/
def evidenceSetHash (snapshots : List EvidenceSnapshot) : String :=
  E.canonicalHash (snapshots.map fun row => (row.evidenceKey, row.contentSha256))

/-! ## The request -/

/-- The arguments of `ResearchService.request`, and the ids it draws. -/
structure RequestArgs where
  storyId : UUID
  mode : ResearchMode
  depth : Depth
  providerProfileId : Option UUID
  budgets : BudgetOverrides
  runId : UUID
  jobId : UUID

inductive Disposition where
  | skipped
  /-- Nothing is left to research. -/
  | answered
  /-- The research was requested before. -/
  | attached (job : ResearchJob)
  | enqueued (job : ResearchJob)

inductive RequestStop where
  | requestError (error : ResearchRequestError)
  | capabilityUnavailable
  | integrityError

def researchKey (payload : ResearchPayload) (model : String) : String :=
  "research_story:" ++ uuidStr payload.storyId ++ ":" ++ payload.evidenceSetHash ++ ":"
    ++ uuidStr payload.providerProfileId ++ ":" ++ model ++ ":" ++ payload.mode.value ++ ":"
    ++ payload.depth.value ++ "::" ++ toString payload.budget.maxQueries ++ ":"
    ++ toString payload.budget.maxPages ++ ":" ++ toString payload.budget.maxElapsedSeconds

def RequestArgs.run (args : RequestArgs) (profileId : UUID) (budget : ResearchBudget) :
    ResearchRun where
  id := args.runId
  storyId := args.storyId
  requestedMode := args.mode
  providerProfileId := profileId
  status := .queued
  queryBudget := budget.maxQueries
  pageBudget := budget.maxPages
  timeBudgetSeconds := budget.maxElapsedSeconds

def RequestArgs.payload (args : RequestArgs) (profileId : UUID) (resolved : ResolvedResearchProfile)
    (snapshots : List EvidenceSnapshot) : ResearchPayload where
  runId := args.runId
  storyId := args.storyId
  providerProfileId := profileId
  requestedModel := E.redactText resolved.model
  mode := args.mode
  depth := args.depth
  evidenceSetHash := evidenceSetHash E snapshots
  budget := resolved.budget.modelCopy args.budgets
  budgetOverrides := args.budgets

/-- The run and the job of a request that nothing stands in the way of. -/
def enqueueResearch (args : RequestArgs) (profileId : UUID) (resolved : ResolvedResearchProfile)
    (snapshots : List EvidenceSnapshot) : Except RequestStop (Disposition × ResearchDb) :=
  let run := args.run profileId (resolved.budget.modelCopy args.budgets)
  let payload := args.payload E profileId resolved snapshots
  let key := researchKey payload resolved.model
  if (db.runs.lookup args.runId).isSome then
    .error .integrityError
  else
    match db.jobs.rows.find? fun job => job.idempotencyKey = key with
    | some job => .ok (.attached job, db)
    | none =>
      if (db.jobs.lookup args.jobId).isSome then
        .error .integrityError
      else
        .ok (.enqueued ⟨args.jobId, key, payload⟩, { db with
          runs := db.runs.insert run
          jobs := db.jobs.insert ⟨args.jobId, key, payload⟩ })

/-- `ResearchService.request`. -/
def requestResearch (args : RequestArgs) : Except RequestStop (Disposition × ResearchDb) :=
  let refuse (error : ResearchRequestError) := Except.error (.requestError error)
  match db.stories.lookup args.storyId with
  | none => refuse "Active story was not found"
  | some story =>
    if story.supersededById.isSome then
      refuse "Active story was not found"
    else if args.mode = .off then
      if args.providerProfileId.isSome then
        refuse "Off research mode cannot select a provider profile"
      else
        .ok (.skipped, db)
    else
      match args.providerProfileId with
      | none => refuse "Research provider profile is required"
      | some profileId =>
        match db.profiles.lookup profileId with
        | none => refuse "Selected research provider profile is unavailable"
        | some row =>
          match resolveProfile row args.depth with
          | .error error => refuse error
          | .ok resolved =>
            let snapshots := db.storyEvidence args.storyId
            if args.mode = .autoIfIncomplete ∧ E.complete snapshots = true then
              .ok (.answered, db)
            else if E.available profileId = false then
              .error .capabilityUnavailable
            else if snapshots = [] then
              refuse "Story has no persisted evidence"
            else
              db.enqueueResearch E args profileId resolved snapshots

/-- The research `_enqueue_after_research` asks for. -/
def packResearch (storyId : UUID) (request : GeneratePackRequest) (runId jobId : UUID) :
    RequestArgs where
  storyId
  mode := .autoIfIncomplete
  depth := .standard
  providerProfileId := some request.researchProviderProfileId
  budgets := request.budgets
  runId
  jobId

/-! ## The handler -/

/-- `_validate_job_binding`. -/
def validateJobBinding (run : ResearchRun) (payload : ResearchPayload)
    (snapshots : List EvidenceSnapshot) (resolvedModel : String) (resolvedBudget : ResearchBudget) :
    Except ResearchRequestError Unit :=
  if run.storyId ≠ payload.storyId then
    .error "Research job story drifted"
  else if run.providerProfileId ≠ payload.providerProfileId then
    .error "Research job provider profile drifted"
  else if run.requestedMode ≠ payload.mode then
    .error "Research job requested mode drifted"
  else if run.queryBudget ≠ payload.budget.maxQueries then
    .error "Research job query budget drifted"
  else if run.pageBudget ≠ payload.budget.maxPages then
    .error "Research job page budget drifted"
  else if run.timeBudgetSeconds ≠ payload.budget.maxElapsedSeconds then
    .error "Research job time budget drifted"
  else if evidenceSetHash E snapshots ≠ payload.evidenceSetHash then
    .error "Research job evidence set drifted"
  else if resolvedModel ≠ payload.requestedModel then
    .error "Research job requested model drifted"
  else if resolvedBudget ≠ payload.budget then
    .error "Research job budget drifted"
  else
    .ok ()

/-- How a handler refuses a job before it calls a backend. -/
inductive HandlerStop where
  | permanent (code : String)
  | needsReview (error : ResearchRequestError)

/-- The handler up to its backend, on a run that has not succeeded: the profile and the model it
goes on with. -/
def acceptJob (job : ResearchJob) : Except HandlerStop (ProviderRow × String) :=
  if ¬ job.payload.budget.InRange then
    .error (.permanent "research_job_payload_invalid")
  else
    match db.runs.lookup job.payload.runId, db.profiles.lookup job.payload.providerProfileId with
    | some run, some row =>
      if (db.stories.lookup run.storyId).isNone then
        .error (.permanent "research_context_missing")
      else if db.storyEvidence run.storyId = [] then
        .error (.permanent "research_evidence_missing")
      else
        match resolveProfile row job.payload.depth with
        | .error error => .error (.needsReview error)
        | .ok resolved =>
          match validateJobBinding E run job.payload (db.storyEvidence run.storyId)
              resolved.model (resolved.budget.modelCopy job.payload.budgetOverrides) with
          | .error error => .error (.needsReview error)
          | .ok () => .ok (row, resolved.model)
    | _, _ => .error (.permanent "research_context_missing")

/-! ## The backends -/

/-- `_validate_request_budget`. -/
def validateRequestBudget (request ceiling : ResearchBudget) : Bool :=
  ¬ (request.maxModelCalls > ceiling.maxModelCalls
    ∨ request.maxInputTokens > ceiling.maxInputTokens
    ∨ request.maxOutputTokens > ceiling.maxOutputTokens
    ∨ request.maxCostUsd > ceiling.maxCostUsd
    ∨ request.maxQueries > ceiling.maxQueries
    ∨ request.maxResultsPerQuery > ceiling.maxResultsPerQuery
    ∨ request.maxPages > ceiling.maxPages
    ∨ request.maxElapsedSeconds > ceiling.maxElapsedSeconds
    ∨ request.maxTotalChars > ceiling.maxTotalChars)

def fakeUsage : ResearchUsage where
  modelCalls := 1
  inputTokens := 0
  outputTokens := 0
  estimatedCostUsd := 0
  queries := 0
  pages := 0
  fetchedCharacters := 0

/-- The backend takes the budget: OpenRouter's compares it, Codex's wants one call of the model. -/
def backendAccepts (row : ProviderRow) (depth : Depth) (model : String) (budget : ResearchBudget) :
    Bool :=
  match row.profile.providerType with
  | .fake => !budgetExceeded budget fakeUsage 0
  | .codex => model ≠ "" && budget.maxModelCalls = 1
  | .openrouter =>
    match row.profile.settings.openrouter with
    | some ⟨some _, some budgets⟩ =>
      row.profile.enabled && validateRequestBudget budget (budgets.select depth).1
    | _ => false

/-- The job runs: the handler accepts its payload, and the backend its budget. -/
def Runnable (job : ResearchJob) : Prop :=
  ∃ row model, db.acceptJob E job = .ok (row, model)
    ∧ backendAccepts row job.payload.depth model job.payload.budget = true

/-! ## What resolving a profile comes to -/

variable {E} {db}

variable {row : ProviderRow} {depth : Depth} {resolved : ResolvedResearchProfile}

theorem resolveProfile_inRange (h : resolveProfile row depth = .ok resolved) :
    resolved.budget.InRange := by
  unfold resolveProfile at h
  split_ifs at h with henabled
  cases row with
  | own profile =>
    unfold resolveOwn at h
    dsimp only at h
    split at h
    · split_ifs at h
      cases h
      exact (defaultResearchBudgets.select depth).2
    · split at h
      · cases h
        exact Subtype.property _
      · cases h
    · split at h
      · cases h
        exact Subtype.property _
      · cases h
  | generic provider =>
    dsimp only at h
    split_ifs at h with hready
    cases hprotocol : provider.protocol with
    | fake =>
      rw [hprotocol] at h
      cases h
      exact (defaultResearchBudgets.select depth).2
    | openaiCompatible =>
      rw [hprotocol] at h
      cases h
      exact (provider.researchBudgets.select depth).2

theorem getD_within_iff {given : Option Int} {own low high : Int} (hown : low ≤ own ∧ own ≤ high)
    (hlow : ∀ number ∈ given, low ≤ number) :
    (low ≤ given.getD own ∧ given.getD own ≤ high) ↔ ∀ number ∈ given, number ≤ high := by
  cases given with
  | none => simpa using hown
  | some number =>
    have hnumber := hlow number rfl
    simp only [getD_some, mem_def, Option.some.injEq, forall_eq']
    omega

variable {budget : ResearchBudget} {overrides : BudgetOverrides}

theorem modelCopy_inRange_iff (hbudget : budget.InRange) (haccepted : overrides.Accepted) :
    (budget.modelCopy overrides).InRange ↔ (∀ queries ∈ overrides.maxQueries, queries ≤ 8)
        ∧ ∀ pages ∈ overrides.maxPages, pages ≤ 16 := by
  obtain ⟨hcalls, hinput, houtput, hcost, hqueries, hresults, hpages, helapsed, hchars⟩ := hbudget
  obtain ⟨hgivenQueries, hgivenPages, hgivenSeconds⟩ := haccepted
  have hqueriesIff := getD_within_iff hqueries fun number h => (hgivenQueries number h).1
  have hpagesIff := getD_within_iff hpages fun number h => (hgivenPages number h).1
  have hsecondsIff := getD_within_iff helapsed fun number h => (hgivenSeconds number h).1
  have hseconds := hsecondsIff.mpr fun number h => (hgivenSeconds number h).2
  constructor
  · intro h
    obtain ⟨-, -, -, -, hqueries', -, hpages', -⟩ := h
    exact ⟨hqueriesIff.mp hqueries', hpagesIff.mp hpages'⟩
  · intro h
    exact ⟨hcalls, hinput, houtput, hcost, hqueriesIff.mpr h.1, hresults, hpagesIff.mpr h.2,
      hseconds, hchars⟩

theorem validateRequestBudget_modelCopy :
    validateRequestBudget (budget.modelCopy overrides) budget = true
      ↔ (∀ queries ∈ overrides.maxQueries, queries ≤ budget.maxQueries)
        ∧ (∀ pages ∈ overrides.maxPages, pages ≤ budget.maxPages)
        ∧ ∀ seconds ∈ overrides.maxElapsedSeconds, seconds ≤ budget.maxElapsedSeconds := by
  obtain ⟨queries, pages, seconds⟩ := overrides
  unfold validateRequestBudget ResearchBudget.modelCopy
  cases queries <;> cases pages <;> cases seconds <;> simp

theorem fake_within (hbudget : budget.InRange) : budgetExceeded budget fakeUsage 0 = false := by
  obtain ⟨hcalls, hinput, houtput, hcost, hqueries, -, hpages, helapsed, hchars⟩ := hbudget
  have hcost' : ¬ (0 : Rat) > budget.maxCostUsd := Rat.not_lt.mpr hcost.1
  simp only [budgetExceeded, fakeUsage, decide_eq_false_iff_not, hcost', false_or]
  omega

/-! ## What a request that was enqueued leaves -/

/-- The run and the payload of a request are in the tables. -/
structure Made (args : RequestArgs) (profileId : UUID) (resolved : ResolvedResearchProfile)
    (snapshots : List EvidenceSnapshot) (db' : ResearchDb) (job : ResearchJob) : Prop where
  run : db'.runs.lookup args.runId
    = some (args.run profileId (resolved.budget.modelCopy args.budgets))
  payload : job.payload = args.payload E profileId resolved snapshots

variable {args : RequestArgs} {job : ResearchJob} {db' : ResearchDb}

theorem enqueueResearch_enqueued {profileId : UUID} {snapshots : List EvidenceSnapshot}
    (h : db.enqueueResearch E args profileId resolved snapshots = .ok (.enqueued job, db')) :
    Made (E := E) args profileId resolved snapshots db' job ∧ db'.profiles = db.profiles
      ∧ db'.snapshots = db.snapshots ∧ db'.stories = db.stories := by
  unfold enqueueResearch at h
  dsimp only at h
  split_ifs at h with hrun hjob
  · split at h <;> cases h
  split at h
  · cases h
  cases h
  have hnone : db.runs.lookup args.runId = none := by simpa using hrun
  have hmade := Table.lookup_insert
    (r := args.run profileId (resolved.budget.modelCopy args.budgets)) hnone
  exact ⟨⟨hmade.1, rfl⟩, rfl, rfl, rfl⟩

/-- A request is enqueued only of a story that is there, has evidence, and under a profile that
resolves. -/
theorem requestResearch_enqueued (h : db.requestResearch E args = .ok (.enqueued job, db')) :
    ∃ profileId row resolved, args.providerProfileId = some profileId
        ∧ db.profiles.lookup profileId = some row ∧ resolveProfile row args.depth = .ok resolved
        ∧ (db.stories.lookup args.storyId).isSome ∧ db.storyEvidence args.storyId ≠ []
        ∧ Made (E := E) args profileId resolved (db.storyEvidence args.storyId) db' job
        ∧ db'.profiles = db.profiles ∧ db'.snapshots = db.snapshots
        ∧ db'.stories = db.stories := by
  unfold requestResearch at h
  cases hstory : db.stories.lookup args.storyId with
  | none =>
    rw [hstory] at h
    cases h
  | some story =>
    rw [hstory] at h
    dsimp only at h
    by_cases hactive : story.supersededById.isSome = true
    · rw [if_pos hactive] at h
      cases h
    by_cases hoff : args.mode = .off
    · rw [if_neg hactive, if_pos hoff] at h
      split_ifs at h
      cases h
    rw [if_neg hactive, if_neg hoff] at h
    cases hprofileId : args.providerProfileId with
    | none =>
      rw [hprofileId] at h
      cases h
    | some profileId =>
      rw [hprofileId] at h
      dsimp only at h
      cases hrow : db.profiles.lookup profileId with
      | none =>
        rw [hrow] at h
        cases h
      | some row =>
        rw [hrow] at h
        dsimp only at h
        cases hresolved : resolveProfile row args.depth with
        | error error =>
          rw [hresolved] at h
          cases h
        | ok resolved =>
          rw [hresolved] at h
          split_ifs at h with hcomplete havailable hevidence
          · cases h
          have hmade := enqueueResearch_enqueued h
          exact ⟨profileId, row, resolved, rfl, hrow, hresolved, rfl, hevidence, hmade⟩

/-! ## The budget a request can afford -/

variable (E) in
/-- The job of a request can run: no number is above what any part checks, and the name of the
model is stored as it is. -/
def Affordable (row : ProviderRow) (resolved : ResolvedResearchProfile)
    (overrides : BudgetOverrides) : Prop :=
  (∀ queries ∈ overrides.maxQueries, queries ≤ 8)
    ∧ (∀ pages ∈ overrides.maxPages, pages ≤ 16)
    ∧ (row.profile.providerType = .codex → resolved.budget.maxModelCalls = 1)
    ∧ (row.profile.providerType = .openrouter →
        (∀ queries ∈ overrides.maxQueries, queries ≤ resolved.budget.maxQueries)
          ∧ (∀ pages ∈ overrides.maxPages, pages ≤ resolved.budget.maxPages)
          ∧ ∀ seconds ∈ overrides.maxElapsedSeconds, seconds ≤ resolved.budget.maxElapsedSeconds)
    ∧ E.redactText resolved.model = resolved.model

/-- Its story, evidence and profile are as they were, and its run moved on at most in status. -/
structure Unchanged (made later : ResearchDb) (job : ResearchJob) : Prop where
  story : made.stories.lookup job.payload.storyId = later.stories.lookup job.payload.storyId
  evidence : later.storyEvidence job.payload.storyId = made.storyEvidence job.payload.storyId
  profile : later.profiles.lookup job.payload.providerProfileId
    = made.profiles.lookup job.payload.providerProfileId
  run : ∃ status, later.runs.lookup job.payload.runId
    = (made.runs.lookup job.payload.runId).map fun run => run.withStatus status

theorem resolveProfile_openrouter (h : resolveProfile row depth = .ok resolved)
    (htype : row.profile.providerType = .openrouter) :
    row.profile.enabled = true ∧ ∃ pricing budgets,
      row.profile.settings.openrouter = some ⟨some pricing, some budgets⟩
        ∧ resolved.budget = (budgets.select depth).1 := by
  unfold resolveProfile at h
  split_ifs at h with henabled
  have hon : row.profile.enabled = true := by simpa using henabled
  refine ⟨hon, ?_⟩
  cases row with
  | own profile =>
    change profile.providerType = .openrouter at htype
    unfold resolveOwn at h
    dsimp only at h
    rw [htype] at h
    dsimp only at h
    split at h
    · rename_i hsettings
      cases h
      exact ⟨_, _, hsettings, rfl⟩
    · cases h
  | generic provider =>
    dsimp only at h
    split_ifs at h with hready
    cases hprotocol : provider.protocol with
    | fake => simp [ProviderRow.profile, LLMProvider.shadow, hprotocol] at htype
    | openaiCompatible =>
      rw [hprotocol] at h
      cases h
      refine ⟨provider.pricing, provider.researchBudgets, ?_, rfl⟩
      simp [ProviderRow.profile, LLMProvider.shadow, hprotocol]

theorem resolveProfile_codex (h : resolveProfile row depth = .ok resolved)
    (htype : row.profile.providerType = .codex) : resolved.model ≠ "" := by
  unfold resolveProfile at h
  split_ifs at h with henabled
  cases row with
  | own profile =>
    change profile.providerType = .codex at htype
    unfold resolveOwn at h
    dsimp only at h
    rw [htype] at h
    dsimp only at h
    split at h
    · rename_i hmodel _ _
      cases h
      have hfilter := filter_eq_some_iff.mp hmodel
      simpa using hfilter.2
    · cases h
  | generic provider =>
    cases hprotocol : provider.protocol <;>
      simp [ProviderRow.profile, LLMProvider.shadow, hprotocol] at htype

theorem backendAccepts_iff (hresolved : resolveProfile row depth = .ok resolved)
    (hrange : (resolved.budget.modelCopy overrides).InRange) :
    backendAccepts row depth resolved.model (resolved.budget.modelCopy overrides) = true
      ↔ (row.profile.providerType = .codex → resolved.budget.maxModelCalls = 1)
        ∧ (row.profile.providerType = .openrouter →
          (∀ queries ∈ overrides.maxQueries, queries ≤ resolved.budget.maxQueries)
            ∧ (∀ pages ∈ overrides.maxPages, pages ≤ resolved.budget.maxPages)
            ∧ ∀ seconds ∈ overrides.maxElapsedSeconds,
                seconds ≤ resolved.budget.maxElapsedSeconds) := by
  unfold backendAccepts
  cases htype : row.profile.providerType with
  | fake => simp [fake_within hrange]
  | codex =>
    have hmodel := resolveProfile_codex hresolved htype
    have hcalls : (resolved.budget.modelCopy overrides).maxModelCalls
        = resolved.budget.maxModelCalls := rfl
    simp [hmodel, hcalls]
  | openrouter =>
    obtain ⟨hon, pricing, budgets, hsettings, hbudget⟩ :=
      resolveProfile_openrouter hresolved htype
    have hceiling : validateRequestBudget (resolved.budget.modelCopy overrides) resolved.budget
        = true ↔ _ := validateRequestBudget_modelCopy
    rw [hbudget] at hceiling ⊢
    simp only [hsettings, hon, Bool.true_and, hceiling, reduceCtorEq, false_implies, true_and,
      true_implies]

theorem acceptJob_ok_iff (job : ResearchJob) (row' : ProviderRow) (model : String)
    {run : ResearchRun} (hrun : db.runs.lookup job.payload.runId = some run)
    (hrow : db.profiles.lookup job.payload.providerProfileId = some row)
    (hstory : (db.stories.lookup run.storyId).isSome)
    (hevidence : db.storyEvidence run.storyId ≠ [])
    (hresolved : resolveProfile row job.payload.depth = .ok resolved) :
    db.acceptJob E job = .ok (row', model) ↔ job.payload.budget.InRange
        ∧ validateJobBinding E run job.payload (db.storyEvidence run.storyId) resolved.model
            (resolved.budget.modelCopy job.payload.budgetOverrides) = .ok ()
        ∧ row = row' ∧ resolved.model = model := by
  have hsome : ¬ (db.stories.lookup run.storyId).isNone = true := by
    intro h
    rw [isNone_iff_eq_none.mp h] at hstory
    cases hstory
  unfold acceptJob
  rw [hrun, hrow]
  dsimp only
  by_cases hrange : job.payload.budget.InRange
  · rw [if_neg (not_not.mpr hrange), if_neg hsome, if_neg hevidence, hresolved]
    dsimp only
    cases hbound : validateJobBinding E run job.payload (db.storyEvidence run.storyId)
        resolved.model (resolved.budget.modelCopy job.payload.budgetOverrides) with
    | error error => simp
    | ok _ => simp [hrange]
  · simp [hrange]

theorem validateJobBinding_made (args : RequestArgs) (profileId : UUID)
    (resolved : ResolvedResearchProfile) (snapshots : List EvidenceSnapshot)
    (status : ResearchRunStatus) :
    validateJobBinding E
        ((args.run profileId (resolved.budget.modelCopy args.budgets)).withStatus status)
        (args.payload E profileId resolved snapshots) snapshots resolved.model
        (resolved.budget.modelCopy args.budgets)
      = if E.redactText resolved.model = resolved.model then .ok ()
        else .error "Research job requested model drifted" := by
  unfold validateJobBinding RequestArgs.run RequestArgs.payload ResearchRun.withStatus
  by_cases hmodel : E.redactText resolved.model = resolved.model
  · simp [hmodel]
  have hne : resolved.model ≠ E.redactText resolved.model := fun h => hmodel h.symm
  simp [hmodel, hne]

theorem Made.runnable_iff {later : ResearchDb} {profileId : UUID}
    {snapshots : List EvidenceSnapshot}
    (hmade : Made (E := E) args profileId resolved snapshots db' job)
    (hrow : db'.profiles.lookup profileId = some row)
    (hresolved : resolveProfile row args.depth = .ok resolved)
    (hstory : (db'.stories.lookup args.storyId).isSome)
    (hsnapshots : db'.storyEvidence args.storyId = snapshots) (hevidence : snapshots ≠ [])
    (hunchanged : Unchanged db' later job) :
    later.Runnable E job
      ↔ (resolved.budget.modelCopy args.budgets).InRange
        ∧ E.redactText resolved.model = resolved.model
        ∧ backendAccepts row args.depth resolved.model (resolved.budget.modelCopy args.budgets)
          = true := by
  obtain ⟨id, key, payload⟩ := job
  obtain ⟨hmadeRun, hpayload⟩ := hmade
  obtain ⟨hsameStory, hsameEvidence, hsameProfile, status, hsameRun⟩ := hunchanged
  subst hpayload
  have hrun : later.runs.lookup args.runId
      = some ((args.run profileId (resolved.budget.modelCopy args.budgets)).withStatus status) := by
    have hmap := congrArg (Option.map fun run => run.withStatus status) hmadeRun
    exact hsameRun.trans hmap
  have hprofile : later.profiles.lookup profileId = some row := hsameProfile.trans hrow
  have hlaterStory : (later.stories.lookup args.storyId).isSome := by
    have hsame : db'.stories.lookup args.storyId = later.stories.lookup args.storyId := hsameStory
    rw [← hsame]
    exact hstory
  have hlaterEvidence : later.storyEvidence
      ((args.run profileId (resolved.budget.modelCopy args.budgets)).withStatus status).storyId
        = snapshots := hsameEvidence.trans hsnapshots
  have haccept := fun row' model =>
    acceptJob_ok_iff (E := E) ⟨id, key, args.payload E profileId resolved snapshots⟩ row' model
      hrun hprofile hlaterStory (hlaterEvidence.trans_ne hevidence) hresolved
  have hbound := validateJobBinding_made (E := E) args profileId resolved snapshots status
  simp only [hlaterEvidence] at haccept
  constructor
  · intro hruns
    obtain ⟨row', model, haccepted, hbackend⟩ := hruns
    obtain ⟨hrange, hbinding, hrow', hmodel'⟩ := (haccept row' model).mp haccepted
    subst hrow' hmodel'
    have hok := hbound.symm.trans hbinding
    split_ifs at hok with hmodel
    exact ⟨hrange, hmodel, hbackend⟩
  · intro hparts
    obtain ⟨hrange, hmodel, hbackend⟩ := hparts
    rw [if_pos hmodel] at hbound
    exact ⟨row, resolved.model,
      (haccept row resolved.model).mpr ⟨hrange, hbound, rfl, rfl⟩, hbackend⟩

/-- **A budget that was accepted is runnable when the request can afford it**: with its story,
evidence and profile unchanged, the handler takes the payload and the backend the budget exactly
when what the request asked for is within what every part checks. -/
theorem accepted_budget_runnable_iff {db' later : ResearchDb} {storyId runId jobId : UUID}
    {request : GeneratePackRequest} {job : ResearchJob}
    (h : db.requestResearch E (packResearch storyId request runId jobId) = .ok (.enqueued job, db'))
    (hunchanged : Unchanged db' later job) : later.Runnable E job
      ↔ ∃ row resolved, db.profiles.lookup request.researchProviderProfileId = some row
          ∧ resolveProfile row .standard = .ok resolved
          ∧ Affordable E row resolved request.budgets := by
  obtain ⟨profileId, row, resolved, hid, hrow, hresolved, hstory, hevidence, hmade, hprofiles,
    hsnapshots, hstories⟩ := requestResearch_enqueued h
  cases hid
  have hsameEvidence : db'.storyEvidence storyId = db.storyEvidence storyId := by
    unfold storyEvidence
    rw [hsnapshots]
  rw [← hprofiles] at hrow
  rw [← hstories] at hstory
  rw [hmade.runnable_iff hrow hresolved hstory hsameEvidence hevidence hunchanged]
  have hbudget := resolveProfile_inRange hresolved
  have hrange := modelCopy_inRange_iff hbudget request.accepted
  constructor
  · intro hruns
    obtain ⟨hcopy, hmodel, hbackend⟩ := hruns
    obtain ⟨hqueries, hpages⟩ := hrange.mp hcopy
    obtain ⟨hcodex, hopenrouter⟩ := (backendAccepts_iff hresolved hcopy).mp hbackend
    exact ⟨row, resolved, hprofiles ▸ hrow, hresolved, hqueries, hpages, hcodex, hopenrouter, hmodel⟩
  · intro haffords
    obtain ⟨row', resolved', hrow', hresolved', hqueries, hpages, hcodex, hopenrouter, hmodel⟩ :=
      haffords
    obtain rfl : row' = row := by
      rw [hprofiles] at hrow
      exact Option.some.inj (hrow'.symm.trans hrow)
    obtain rfl : resolved' = resolved := Except.ok.inj (hresolved'.symm.trans hresolved)
    have hcopy := hrange.mpr ⟨hqueries, hpages⟩
    exact ⟨hcopy, hmodel, (backendAccepts_iff hresolved hcopy).mpr ⟨hcodex, hopenrouter⟩⟩

/-! ## A request that asks for more than a budget may be -/

def fakeProfile : AIProviderProfile where
  id := 7
  providerType := .fake
  enabled := true
  defaultModel := none
  secretRef := none
  settings := ⟨true, none, none⟩

/-- A story with one piece of evidence, and a fake profile to research it with. -/
def oneStory : ResearchDb where
  stories := Table.empty.insert ⟨1, none⟩
  snapshots := Table.empty.insert ⟨2, 1, "telegram:1", "hash", 0⟩
  profiles := Table.empty.insert (.own fakeProfile)
  runs := Table.empty
  jobs := Table.empty

/-- Nothing in the texts is a secret, and the evidence is not complete. -/
def plainEnv : ResearchEnv where
  redactText := id
  canonicalHash := fun _ => "hash"
  complete := fun _ => false
  available := fun _ => true

/-- A request that gives itself so many queries. -/
def requestOf (queries : Int) (h : 1 ≤ queries ∧ queries ≤ 10) : GeneratePackRequest where
  researchProviderProfileId := 7
  budgets := ⟨some queries, none, none⟩
  accepted := by
    refine ⟨?_, ?_, ?_⟩
    · intro number hnumber
      cases hnumber
      exact h
    all_goals
      intro number hnumber
      cases hnumber

/-- The payload of the job such a request makes. -/
def payloadOf (request : GeneratePackRequest) : ResearchPayload :=
  (packResearch 1 request 3 4).payload plainEnv 7
    ⟨"fake-v1", (defaultResearchBudgets.select .standard).1⟩ (oneStory.storyEvidence 1)

def jobOf (request : GeneratePackRequest) : ResearchJob :=
  ⟨4, researchKey (payloadOf request) "fake-v1", payloadOf request⟩

def requested (queries : Int) (h : 1 ≤ queries ∧ queries ≤ 10) : ResearchDb :=
  { oneStory with
    runs := Table.empty.insert
      ((packResearch 1 (requestOf queries h) 3 4).run 7 (payloadOf (requestOf queries h)).budget)
    jobs := Table.empty.insert (jobOf (requestOf queries h)) }

theorem requestResearch_oneStory (queries : Int) (h : 1 ≤ queries ∧ queries ≤ 10) :
    oneStory.requestResearch plainEnv (packResearch 1 (requestOf queries h) 3 4)
      = .ok (.enqueued (jobOf (requestOf queries h)), requested queries h) := rfl

/-- A request of eight queries can be afforded, and runs. -/
theorem eight_queries_run :
    (requested 8 (by decide)).Runnable plainEnv (jobOf (requestOf 8 (by decide))) := by
  refine (accepted_budget_runnable_iff (requestResearch_oneStory 8 (by decide))
    ⟨rfl, rfl, rfl, .queued, rfl⟩).mpr ⟨.own fakeProfile, _, rfl, rfl, ?_⟩
  refine ⟨?_, ?_, ?_, ?_, rfl⟩
  · intro queries hqueries
    cases hqueries
    omega
  · nofun
  · nofun
  · nofun

/-- A request of ten queries, which its schema allows, is accepted and enqueued, and its job can
never run. -/
theorem ten_queries_never_run :
    ¬ ∀ (E : ResearchEnv) (db db' later : ResearchDb) (storyId runId jobId : UUID)
        (request : GeneratePackRequest) (job : ResearchJob),
      db.requestResearch E (packResearch storyId request runId jobId) = .ok (.enqueued job, db')
        → Unchanged db' later job → later.Runnable E job := by
  intro hclaim
  have hruns := hclaim plainEnv oneStory _ _ 1 3 4 (requestOf 10 (by decide)) _
    (requestResearch_oneStory 10 (by decide)) ⟨rfl, rfl, rfl, .queued, rfl⟩
  obtain ⟨row, model, haccepted, -⟩ := hruns
  have hinvalid : ¬ (payloadOf (requestOf 10 (by decide))).budget.InRange := by decide
  have hrefused : (requested 10 (by decide)).acceptJob plainEnv (jobOf (requestOf 10 (by decide)))
      = .error (.permanent "research_job_payload_invalid") := if_pos hinvalid
  rw [hrefused] at haccepted
  cases haccepted

end ResearchDb

end NewsCraft.Research
