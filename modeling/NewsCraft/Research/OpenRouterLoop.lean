import Mathlib.Algebra.Order.Floor.Semiring
import Mathlib.Data.Rat.Floor
import NewsCraft.Lib.Dict
import NewsCraft.Lib.Interaction
import NewsCraft.Research.Budget

/-!
# The research loop

`OpenRouterResearchBackend.research` asks a model for one action after another: search,
fetch an article, or finish with a brief. What the model, the search and the fetcher
answer and what the clock reads is up to the world; the state records the calls made.
-/

namespace NewsCraft.Research

open Lib

/-! ## The world -/

structure SearchResult where
  title : String
  url : String
  snippet : String
  deriving DecidableEq

/-- The fields of `DiscoveredSourcePayload` the loop reads. -/
structure DiscoveredSource where
  evidenceKey : String
  url : String
  contentText : String
  deriving DecidableEq

structure CandidateCitation where
  evidenceKey : String
  locator : String
  excerptSha256 : String
  deriving DecidableEq

structure CandidateClaim where
  citations : List CandidateCitation
  deriving DecidableEq

structure CandidateResearchBrief where
  verifiedFacts : List CandidateClaim
  disagreements : List CandidateClaim
  discoveredEvidenceKeys : List String
  deriving DecidableEq

inductive ResearchAction where
  | search (query : String)
  | fetch (url : String)
  | finish (brief : CandidateResearchBrief)

/-- What the provider reports of its usage; a count is there if it is an integer. -/
structure ReportedUsage where
  supplied : Bool
  inputTokens : Option Int
  outputTokens : Option Int

/-- How a call of the model ends; `output` is the action its output is read as, if any. -/
inductive ModelReply where
  | retryableError
  | needsReviewError
  | permanentError
  | timeout
  | exception (name : String)
  | result (resolvedModel : String) (usage : ReportedUsage) (output : Option ResearchAction)

/-- How a search or a fetch ends; `aborted` is an exception that is no `Exception`. -/
inductive ToolReply (α : Type) where
  | ok (value : α)
  | failed
  | timeout
  | aborted (name : String)

/-- `ProviderPricingSettings`. -/
structure ProviderPricingSettings where
  inputUsdPerMillion : Rat
  outputUsdPerMillion : Rat
  nonneg : 0 ≤ inputUsdPerMillion ∧ 0 ≤ outputUsdPerMillion

structure EvidenceRecord where
  evidenceKey : String
  contentText : String

structure ResearchRequest where
  providerProfileId : UUID
  requestedModel : String
  depth : Depth
  evidence : List EvidenceRecord
  budget : ResearchBudget
  inRange : budget.InRange

/-- The backend and what it meets: the replies in the order of the calls, and the readings
of the clock. -/
structure LoopEnv where
  profileId : UUID
  pricing : ProviderPricingSettings
  researchBudgets : ResearchBudgetsSettings
  /-- What the decimal context keeps of the exact result of an operation. -/
  decimal : Rat → Rat
  sha256 : String → String
  normalizeUrl : String → String
  /-- `int(text)`; `none` when it raises. -/
  int : String → Option Int
  monotonic : Nat → Rat
  modelReply : Nat → ModelReply
  searchReply : Nat → ToolReply (List SearchResult)
  fetchReply : Nat → ToolReply DiscoveredSource

/-! ## The state -/

inductive Observation where
  | failed (action status : String)
  | exhausted (action : String)
  | results (results : List SearchResult)
  | source (source : DiscoveredSource)
  deriving DecidableEq

inductive Event where
  | failed (action status : String)
  | exhausted (action : String)
  | results (resultCount : Nat)
  | source (evidenceKey : String)

inductive Call where
  | model (usage : ResearchUsage) (reading : Rat) (maxOutputTokens : Int)
      (observations : List Observation)
  | search (query : String) (limit : Int) (timeoutSeconds : Rat)
  | fetch (url : String)
  deriving DecidableEq

structure LoopState where
  /-- How often the clock was read. -/
  readings : Nat
  calls : List Call
  usage : ResearchUsage
  sources : List DiscoveredSource
  observations : List Observation
  events : List Event
  resolvedModel : String

inductive Classification where
  | retryable
  | needsReview
  | permanent
  deriving DecidableEq

inductive ResearchStop where
  | budgetExceeded (message : String)
  | backendError (message : String) (classification : Classification) (code : String)
  | exception (name : String)

structure ResearchResult where
  providerProfileId : UUID
  requestedModel : String
  resolvedModel : String
  sources : List DiscoveredSource
  brief : CandidateResearchBrief
  usage : ResearchUsage
  elapsedMs : Int
  sanitizedEvents : List Event

abbrev LoopAct (α : Type) : Type := Act LoopState ResearchStop α

def zeroUsage : ResearchUsage := ⟨0, 0, 0, 0, 0, 0, 0⟩

def LoopState.start (request : ResearchRequest) : LoopState where
  readings := 0
  calls := []
  usage := zeroUsage
  sources := []
  observations := []
  events := []
  resolvedModel := request.requestedModel

/-- `_needs_review`. -/
def needsReview (message code : String) : ResearchStop :=
  .backendError message .needsReview ("openrouter_" ++ code)

/-- `_provider_error`. -/
def providerError (classification : Classification) : ResearchStop :=
  .backendError "openrouter research provider failed" classification "openrouter_provider_failed"

def elapsedExhausted : ResearchStop := .budgetExceeded "elapsed time budget exhausted"

variable (E : LoopEnv) (request : ResearchRequest) (started : Rat)

/-! ## The clock -/

/-- `self.monotonic()`. -/
def monotonic : LoopAct Rat := do
  let state ← Act.get
  Act.modify fun state => { state with readings := state.readings + 1 }
  pure (E.monotonic state.readings)

def deadline : Rat := started + request.budget.maxElapsedSeconds

/-- `_check_elapsed`. -/
def checkElapsed : LoopAct Unit := do
  let reading ← monotonic E
  if deadline request started ≤ reading then Act.stop elapsedExhausted else pure ()

/-- `_remaining_seconds`. -/
def remainingSeconds : LoopAct Rat := do
  let reading ← monotonic E
  if deadline request started - reading ≤ 0 then Act.stop elapsedExhausted
  else pure (deadline request started - reading)

/-- `_within_deadline`, up to where the call is started; its number is returned. -/
def withinDeadline (call : LoopState → Rat → Call) : LoopAct Nat := do
  let reading ← monotonic E
  if deadline request started - reading ≤ 0 then Act.stop elapsedExhausted
  else do
    let state ← Act.get
    Act.modify fun state => { state with calls := state.calls ++ [call state reading] }
    pure state.calls.length

/-- `round`, to the even neighbour of a half. -/
def roundHalfEven (x : Rat) : Int :=
  let below := ⌊x⌋
  if x - below < 1 / 2 ∨ (x - below = 1 / 2 ∧ below % 2 = 0) then below else below + 1

/-- `elapsed_ms`. -/
def elapsedMs : LoopAct Int := do
  let reading ← monotonic E
  pure (max 0 (roundHalfEven ((reading - started) * 1000)))

/-! ## The model -/

/-- `_check_before_model`. -/
def checkBeforeModel : LoopAct Unit := do
  let state ← Act.get
  if request.budget.maxModelCalls ≤ state.usage.modelCalls then
    Act.stop (.budgetExceeded "model call budget exhausted")
  else if request.budget.maxInputTokens ≤ state.usage.inputTokens then
    Act.stop (.budgetExceeded "input token budget exhausted")
  else if request.budget.maxOutputTokens ≤ state.usage.outputTokens then
    Act.stop (.budgetExceeded "output token budget exhausted")
  else if (0 < E.pricing.inputUsdPerMillion ∨ 0 < E.pricing.outputUsdPerMillion)
      ∧ request.budget.maxCostUsd ≤ state.usage.estimatedCostUsd then
    Act.stop (.budgetExceeded "cost budget exhausted")
  else
    pure ()

/-- `_check_after_model`. -/
def checkAfterModel : LoopAct Unit := do
  let state ← Act.get
  if state.usage.inputTokens > request.budget.maxInputTokens then
    Act.stop (.budgetExceeded "input token budget exhausted")
  else if state.usage.outputTokens > request.budget.maxOutputTokens then
    Act.stop (.budgetExceeded "output token budget exhausted")
  else if state.usage.estimatedCostUsd > request.budget.maxCostUsd then
    Act.stop (.budgetExceeded "cost budget exhausted")
  else
    pure ()

/-- `_required_usage`. -/
def requiredUsage (usage : ReportedUsage) : LoopAct (Int × Int) :=
  let unavailable := Act.stop (needsReview "openrouter research usage is unavailable"
    "usage_unavailable")
  if usage.supplied = false then
    unavailable
  else
    match usage.inputTokens, usage.outputTokens with
    | some inputTokens, some outputTokens =>
      if inputTokens < 0 ∨ outputTokens < 0 then unavailable
      else pure (inputTokens, outputTokens)
    | _, _ => unavailable

/-- The cost once the tokens of a call are added. -/
def newCost (cost : Rat) (inputTokens outputTokens : Int) : Rat :=
  E.decimal (cost + E.decimal (E.decimal
    (E.decimal (inputTokens * E.pricing.inputUsdPerMillion)
      + E.decimal (outputTokens * E.pricing.outputUsdPerMillion)) / 1000000))

def countModel (usage : ResearchUsage) (inputTokens outputTokens : Int) : ResearchUsage :=
  { usage with
    modelCalls := usage.modelCalls + 1
    inputTokens := usage.inputTokens + inputTokens
    outputTokens := usage.outputTokens + outputTokens
    estimatedCostUsd := newCost E usage.estimatedCostUsd inputTokens outputTokens }

def generate : LoopAct (String × ReportedUsage × Option ResearchAction) := do
  let call ← withinDeadline E request started fun state reading =>
    .model state.usage reading (request.budget.maxOutputTokens - state.usage.outputTokens)
      state.observations
  match E.modelReply call with
  | .retryableError => Act.stop (providerError .retryable)
  | .needsReviewError => Act.stop (providerError .needsReview)
  | .permanentError => Act.stop (providerError .permanent)
  | .timeout => Act.stop elapsedExhausted
  | .exception name => Act.stop (.exception name)
  | .result resolvedModel usage output => pure (resolvedModel, usage, output)

def nextAction : LoopAct ResearchAction := do
  checkElapsed E request started
  checkBeforeModel E request
  let (resolvedModel, usage, output) ← generate E request started
  checkElapsed E request started
  let (inputTokens, outputTokens) ← requiredUsage usage
  Act.modify fun state =>
    { state with
      resolvedModel := resolvedModel
      usage := countModel E state.usage inputTokens outputTokens }
  checkAfterModel request
  match output with
  | none => Act.stop (needsReview "openrouter research returned an invalid action" "invalid_action")
  | some action => do
      checkElapsed E request started
      pure action

/-! ## Finishing -/

/-- The range a locator names, where it can be read. -/
def locatorRange (locator : String) : Option (Int × Int) :=
  let text := locator.toList
  let range := if "chars:".toList.isPrefixOf text then text.drop "chars:".length else text
  match range.splitOn '-' with
  | [start, finish] => do
      let start ← E.int (String.ofList start)
      let finish ← E.int (String.ofList finish)
      some (start, finish)
  | _ => none

/-- `content[start:end]`. -/
def excerpt (content : String) (start finish : Int) : String :=
  String.ofList ((content.toList.drop start.toNat).take (finish - start).toNat)

def checkCitation (evidence : List (String × String)) (citation : CandidateCitation) :
    LoopAct Unit := do
  checkElapsed E request started
  match evidence.lookup citation.evidenceKey with
  | none =>
    if "url:".toList.isPrefixOf citation.evidenceKey.toList then
      Act.stop (needsReview "citation URL was not fetched" "citation_unfetched")
    else
      Act.stop (needsReview "citation evidence key is unknown" "citation_unknown")
  | some content =>
    let invalid := Act.stop (needsReview "citation locator is invalid" "citation_invalid")
    match locatorRange E citation.locator with
    | none => invalid
    | some (start, finish) =>
      if citation.locator ≠ "chars:" ++ toString start ++ "-" ++ toString finish
          ∨ start < 0 ∨ finish ≤ start ∨ content.length < finish then
        invalid
      else if E.sha256 (excerpt content start finish) ≠ citation.excerptSha256 then
        Act.stop (needsReview "citation excerpt hash is invalid" "citation_invalid")
      else
        pure ()

def checkClaim (evidence : List (String × String)) (claim : CandidateClaim) : LoopAct Unit := do
  checkElapsed E request started
  Act.each (checkCitation E request started evidence) claim.citations

/-- `_validated_finish`. -/
def validatedFinish (brief : CandidateResearchBrief) (sources : List DiscoveredSource) :
    LoopAct Unit := do
  checkElapsed E request started
  Act.each (fun _ => checkElapsed E request started) sources
  let sourceKeys := sources.map DiscoveredSource.evidenceKey
  if ¬ sourceKeys.Nodup ∨ ¬ (brief.discoveredEvidenceKeys.all sourceKeys.contains = true
      ∧ sourceKeys.all brief.discoveredEvidenceKeys.contains = true) then
    Act.stop (needsReview "openrouter research discovered evidence is invalid" "evidence_invalid")
  else do
    checkElapsed E request started
    Act.each (fun _ => checkElapsed E request started) request.evidence
    Act.each (fun _ => checkElapsed E request started) sources
    let evidence := Dict.build []
      (request.evidence.map (fun record => (record.evidenceKey, record.contentText))
        ++ sources.map fun source => (source.evidenceKey, source.contentText))
    Act.each (checkClaim E request started evidence) (brief.verifiedFacts ++ brief.disagreements)
    checkElapsed E request started

/-- `usage.freeze`, whose cost is checked by the schema. -/
def freeze (usage : ResearchUsage) : LoopAct ResearchUsage :=
  if usage.estimatedCostUsd < 0 then Act.stop (.exception "ValidationError") else pure usage

def finish (brief : CandidateResearchBrief) : LoopAct ResearchResult := do
  let state ← Act.get
  validatedFinish E request started brief state.sources
  checkElapsed E request started
  let elapsedMs ← elapsedMs E started
  let usage ← freeze state.usage
  checkElapsed E request started
  pure
    { providerProfileId := request.providerProfileId
      requestedModel := request.requestedModel
      resolvedModel := state.resolvedModel
      sources := state.sources
      brief := brief
      usage := usage
      elapsedMs := elapsedMs
      sanitizedEvents := state.events }

/-! ## Searching and fetching -/

def observe (observation : Observation) (event : Event) : LoopAct Unit :=
  Act.modify fun state =>
    { state with
      observations := state.observations ++ [observation]
      events := state.events ++ [event] }

/-- `_record_exhausted`. -/
def recordExhausted (action : String) : LoopAct Unit :=
  observe (.exhausted action) (.exhausted action)

def record (action status : String) : LoopAct Unit :=
  observe (.failed action status) (.failed action status)

def search (query : String) : LoopAct Unit := do
  let state ← Act.get
  if request.budget.maxQueries ≤ state.usage.queries then
    recordExhausted "search"
  else do
    Act.modify fun state =>
      { state with usage := { state.usage with queries := state.usage.queries + 1 } }
    let remaining ← remainingSeconds E request started
    let call ← withinDeadline E request started fun _ _ =>
      .search query request.budget.maxResultsPerQuery remaining
    match E.searchReply call with
    | .ok results => observe (.results results) (.results results.length)
    | .failed => record "search" "failed"
    | .timeout => Act.stop elapsedExhausted
    | .aborted name => Act.stop (.exception name)

def Known (sources : List DiscoveredSource) (source : DiscoveredSource) : Prop :=
  ∃ existing ∈ sources, existing.evidenceKey = source.evidenceKey
    ∨ E.normalizeUrl existing.url = E.normalizeUrl source.url

instance (sources : List DiscoveredSource) (source : DiscoveredSource) :
    Decidable (Known E sources source) := by
  unfold Known
  infer_instance

/-- What becomes of an article that was fetched. -/
def keep (source : DiscoveredSource) : LoopAct Unit := do
  let state ← Act.get
  if request.budget.maxTotalChars < state.usage.fetchedCharacters + source.contentText.length then
    recordExhausted "fetch"
  else if Known E state.sources source then
    record "fetch" "duplicate"
  else do
    Act.modify fun state =>
      { state with
        sources := state.sources ++ [source]
        usage :=
          { state.usage with
            fetchedCharacters := state.usage.fetchedCharacters + source.contentText.length } }
    observe (.source source) (.source source.evidenceKey)

def fetch (url : String) : LoopAct Unit := do
  let state ← Act.get
  if request.budget.maxPages ≤ state.usage.pages
      ∨ request.budget.maxTotalChars ≤ state.usage.fetchedCharacters then
    recordExhausted "fetch"
  else do
    Act.modify fun state =>
      { state with usage := { state.usage with pages := state.usage.pages + 1 } }
    let call ← withinDeadline E request started fun _ _ => .fetch url
    match E.fetchReply call with
    | .ok source => keep E request source
    | .failed => record "fetch" "rejected"
    | .timeout => Act.stop elapsedExhausted
    | .aborted name => Act.stop (.exception name)

/-! ## The loop -/

/-- One round; there is a result where it finished. -/
def turn : LoopAct (Option ResearchResult) := do
  let action ← nextAction E request started
  match action with
  | .finish brief => do
      let result ← finish E request started brief
      pure (some result)
  | .search query => do
      search E request started query
      pure none
  | .fetch url => do
      fetch E request started url
      pure none

def rounds : Nat → LoopAct ResearchResult
  | 0 => Act.stop (.budgetExceeded "action budget exhausted")
  | n + 1 => do
      let result ← turn E request started
      match result with
      | some result => pure result
      | none => rounds n

/-- `MAX_ACTIONS`. -/
def maxActions : Nat := 12

/-- `_validate_request_budget`. -/
def Exceeds (budget ceiling : ResearchBudget) : Prop :=
  budget.maxModelCalls > ceiling.maxModelCalls
    ∨ budget.maxInputTokens > ceiling.maxInputTokens
    ∨ budget.maxOutputTokens > ceiling.maxOutputTokens
    ∨ budget.maxCostUsd > ceiling.maxCostUsd
    ∨ budget.maxQueries > ceiling.maxQueries
    ∨ budget.maxResultsPerQuery > ceiling.maxResultsPerQuery
    ∨ budget.maxPages > ceiling.maxPages
    ∨ budget.maxElapsedSeconds > ceiling.maxElapsedSeconds
    ∨ budget.maxTotalChars > ceiling.maxTotalChars

instance (budget ceiling : ResearchBudget) : Decidable (Exceeds budget ceiling) := by
  unfold Exceeds
  infer_instance

/-- `research`. -/
def research : LoopAct ResearchResult := do
  if request.providerProfileId ≠ E.profileId then
    Act.stop (needsReview "openrouter research profile does not match request" "profile_mismatch")
  else if Exceeds request.budget (E.researchBudgets.select request.depth).1 then
    Act.stop (needsReview "openrouter research request exceeds profile budget" "budget_invalid")
  else do
    let started ← monotonic E
    rounds E request started maxActions

/-- How a request ends, and the state it leaves. -/
def researchRun : Except ResearchStop ResearchResult × LoopState :=
  research E request (LoopState.start request)

end NewsCraft.Research
