import Mathlib.Data.Rat.Defs
import Mathlib.Data.List.Sort
import NewsCraft.Core.Basic
import NewsCraft.Lib.Table

/-!
# Research budgets

The budget of a research run is the one its provider profile has for the depth, with the
queries, pages and seconds the request gives in their place. The job carries it; the handler
validates it, takes the profile's again and compares, and the backend looks at what it can
do itself.

Numbers are stored as they are in the payload of a job; text is stored redacted.
-/

namespace NewsCraft.Research

open Lib

/-! ## Budgets -/

/-- The fields of `ResearchBudget`, which `model_copy` leaves unvalidated. -/
structure ResearchBudget where
  maxModelCalls : Int
  maxInputTokens : Int
  maxOutputTokens : Int
  maxCostUsd : Rat
  maxQueries : Int
  maxResultsPerQuery : Int
  maxPages : Int
  maxElapsedSeconds : Int
  maxTotalChars : Int
  deriving DecidableEq

/-- The ranges of `ResearchBudget` and of `ResearchBudgetSettings`. -/
def ResearchBudget.InRange (budget : ResearchBudget) : Prop :=
  (1 ≤ budget.maxModelCalls ∧ budget.maxModelCalls ≤ 12)
    ∧ (1000 ≤ budget.maxInputTokens ∧ budget.maxInputTokens ≤ 500000)
    ∧ (500 ≤ budget.maxOutputTokens ∧ budget.maxOutputTokens ≤ 100000)
    ∧ (0 ≤ budget.maxCostUsd ∧ budget.maxCostUsd ≤ 50)
    ∧ (1 ≤ budget.maxQueries ∧ budget.maxQueries ≤ 8)
    ∧ (1 ≤ budget.maxResultsPerQuery ∧ budget.maxResultsPerQuery ≤ 10)
    ∧ (1 ≤ budget.maxPages ∧ budget.maxPages ≤ 16)
    ∧ (10 ≤ budget.maxElapsedSeconds ∧ budget.maxElapsedSeconds ≤ 600)
    ∧ (10000 ≤ budget.maxTotalChars ∧ budget.maxTotalChars ≤ 500000)

instance (budget : ResearchBudget) : Decidable budget.InRange := by
  unfold ResearchBudget.InRange
  infer_instance

/-- `ResearchBudgetSettings`: a budget a profile can have. -/
abbrev ResearchBudgetSettings : Type := { budget : ResearchBudget // budget.InRange }

inductive Depth where
  | standard
  | deep

structure ResearchBudgetsSettings where
  standard : ResearchBudgetSettings
  deep : ResearchBudgetSettings

/-- `getattr(research_budgets, depth)`. -/
def ResearchBudgetsSettings.select (budgets : ResearchBudgetsSettings) :
    Depth → ResearchBudgetSettings
  | .standard => budgets.standard
  | .deep => budgets.deep

/-- `default_research_budgets`. -/
def defaultResearchBudgets : ResearchBudgetsSettings where
  standard :=
    ⟨{ maxModelCalls := 1
       maxInputTokens := 60000
       maxOutputTokens := 12000
       maxCostUsd := 0
       maxQueries := 4
       maxResultsPerQuery := 5
       maxPages := 8
       maxElapsedSeconds := 180
       maxTotalChars := 120000 }, by decide⟩
  deep :=
    ⟨{ maxModelCalls := 1
       maxInputTokens := 120000
       maxOutputTokens := 24000
       maxCostUsd := 0
       maxQueries := 8
       maxResultsPerQuery := 10
       maxPages := 16
       maxElapsedSeconds := 300
       maxTotalChars := 250000 }, by decide⟩

/-- The budgets a request gives itself: `budget_overrides`, less what it leaves open. -/
structure BudgetOverrides where
  maxQueries : Option Int
  maxPages : Option Int
  maxElapsedSeconds : Option Int

/-- `budget.model_copy(update=budget_overrides)`. -/
def ResearchBudget.modelCopy (budget : ResearchBudget) (overrides : BudgetOverrides) :
    ResearchBudget :=
  { budget with
    maxQueries := overrides.maxQueries.getD budget.maxQueries
    maxPages := overrides.maxPages.getD budget.maxPages
    maxElapsedSeconds := overrides.maxElapsedSeconds.getD budget.maxElapsedSeconds }

/-- The ranges of `GeneratePackRequest`, and of `ContentPackContinuationPayload`. -/
def BudgetOverrides.Accepted (overrides : BudgetOverrides) : Prop :=
  (∀ queries ∈ overrides.maxQueries, 1 ≤ queries ∧ queries ≤ 10)
    ∧ (∀ pages ∈ overrides.maxPages, 1 ≤ pages ∧ pages ≤ 50)
    ∧ (∀ seconds ∈ overrides.maxElapsedSeconds, 10 ≤ seconds ∧ seconds ≤ 600)

/-- `GeneratePackRequest`, as far as research goes. -/
structure GeneratePackRequest where
  researchProviderProfileId : UUID
  budgets : BudgetOverrides
  accepted : budgets.Accepted

/-! ## Usage -/

structure ResearchUsage where
  modelCalls : Int
  inputTokens : Int
  outputTokens : Int
  estimatedCostUsd : Rat
  queries : Int
  pages : Int
  fetchedCharacters : Int
  deriving DecidableEq

/-- `budget_exceeded`. -/
def budgetExceeded (budget : ResearchBudget) (usage : ResearchUsage) (elapsedMs : Int) : Bool :=
  usage.modelCalls > budget.maxModelCalls ∨ usage.inputTokens > budget.maxInputTokens
    ∨ usage.outputTokens > budget.maxOutputTokens
    ∨ usage.estimatedCostUsd > budget.maxCostUsd
    ∨ usage.queries > budget.maxQueries
    ∨ usage.pages > budget.maxPages
    ∨ usage.fetchedCharacters > budget.maxTotalChars
    ∨ elapsedMs > budget.maxElapsedSeconds * 1000

/-! ## Profiles -/

structure CodexProviderSettings where
  researchBudgets : Option ResearchBudgetsSettings

structure OpenRouterProviderSettings where
  /-- What a million tokens in and out cost. -/
  pricing : Option (Rat × Rat)
  researchBudgets : Option ResearchBudgetsSettings

/-- The settings of a profile: whether there are any, and what each schema reads in them. -/
structure ProfileSettings where
  isEmpty : Bool
  codex : Option CodexProviderSettings
  openrouter : Option OpenRouterProviderSettings

inductive ProviderType where
  | fake
  | codex
  | openrouter

structure AIProviderProfile where
  id : UUID
  providerType : ProviderType
  enabled : Bool
  defaultModel : Option String
  secretRef : Option String
  settings : ProfileSettings

inductive LLMProtocol where
  | openaiCompatible
  | fake

/-- A provider an operator manages, with its effective budgets and pricing. -/
structure LLMProvider where
  id : UUID
  protocol : LLMProtocol
  enabled : Bool
  ready : Bool
  defaultModel : String
  pricing : Rat × Rat
  researchBudgets : ResearchBudgetsSettings

/-- `_shadow`: the profile a provider is used through. -/
def LLMProvider.shadow (provider : LLMProvider) : AIProviderProfile where
  id := provider.id
  providerType :=
    match provider.protocol with
    | .fake => .fake
    | .openaiCompatible => .openrouter
  enabled := provider.enabled
  defaultModel := some provider.defaultModel
  secretRef := none
  settings :=
    match provider.protocol with
    | .fake => ⟨true, some ⟨none⟩, some ⟨none, none⟩⟩
    | .openaiCompatible =>
      ⟨false, none, some ⟨some provider.pricing, some provider.researchBudgets⟩⟩

/-- A row of `ai_provider_profiles`: a profile of its own, or the shadow of a provider. -/
inductive ProviderRow where
  | own (profile : AIProviderProfile)
  | generic (provider : LLMProvider)

def ProviderRow.profile : ProviderRow → AIProviderProfile
  | .own profile => profile
  | .generic provider => provider.shadow

instance : Keyed ProviderRow UUID := ⟨fun row => row.profile.id⟩

/-- A `ResearchRequestError`. -/
abbrev ResearchRequestError : Type := String

structure ResolvedResearchProfile where
  model : String
  budget : ResearchBudget

def nonEmpty (text : Option String) : Option String := text.filter (· ≠ "")

/-- `resolve_profile`, of a profile of its own. -/
def resolveOwn (profile : AIProviderProfile) (depth : Depth) :
    Except ResearchRequestError ResolvedResearchProfile :=
  let invalid := Except.error "Selected research provider profile is invalid"
  match profile.providerType with
  | .fake =>
    if profile.secretRef = none ∧ profile.settings.isEmpty = true then
      .ok ⟨(nonEmpty profile.defaultModel).getD "fake-v1", (defaultResearchBudgets.select depth).1⟩
    else
      invalid
  | .codex =>
    match nonEmpty profile.defaultModel, profile.secretRef, profile.settings.codex with
    | some model, none, some codex =>
      .ok ⟨model, ((codex.researchBudgets.getD defaultResearchBudgets).select depth).1⟩
    | _, _, _ => invalid
  | .openrouter =>
    match nonEmpty profile.defaultModel, nonEmpty profile.secretRef, profile.settings.openrouter with
    | some model, some _, some ⟨some _, some budgets⟩ => .ok ⟨model, (budgets.select depth).1⟩
    | _, _, _ => invalid

/-- `resolve_profile`. -/
def resolveProfile (row : ProviderRow) (depth : Depth) :
    Except ResearchRequestError ResolvedResearchProfile :=
  let unavailable := Except.error "Selected research provider profile is unavailable"
  if row.profile.enabled = false then
    unavailable
  else
    match row with
    | .own profile => resolveOwn profile depth
    | .generic provider =>
      if provider.ready = false then
        unavailable
      else
        match provider.protocol with
        | .fake => .ok ⟨provider.defaultModel, (defaultResearchBudgets.select depth).1⟩
        | .openaiCompatible =>
          .ok ⟨provider.defaultModel, (provider.researchBudgets.select depth).1⟩

end NewsCraft.Research
