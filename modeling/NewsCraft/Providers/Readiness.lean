import NewsCraft.Core.Basic
import NewsCraft.Lib.Transition

/-!
# When a provider is ready

A connection test probes the provider for generation and for research. A provider is ready
while its last successful test is no older than the time to live, and of the model that is
configured. The model that is recorded is the one the endpoint reports, so a test of an
endpoint that reports another name is stale as soon as it is recorded.
-/

namespace NewsCraft.Providers

open Lib

inductive Protocol where
  | openaiCompatible
  | fake
  deriving DecidableEq

inductive HealthStatus where
  | unchecked
  | healthy
  | degraded
  | unhealthy
  deriving DecidableEq

inductive CapabilityState where
  | unknown
  | ready
  | unavailable
  deriving DecidableEq

inductive CapabilityName where
  | generation
  | research

/-- `LLMProvider`, with the value of its secret; the settings are what they come to. -/
structure LLMProvider (σ : Type) where
  protocol : Protocol
  baseUrl : Option String
  defaultModel : String
  settings : σ
  secret : Option String
  enabled : Bool
  healthStatus : HealthStatus
  generationCapability : CapabilityState
  researchCapability : CapabilityState
  failureCode : Option String
  lastCheckedAt : Option Int
  lastSuccessfulTestAt : Option Int
  lastTestedModel : Option String

/-- The fields that a patch sets, as they are stored. -/
structure Patch (σ : Type) where
  name : Option String
  defaultModel : Option String
  baseUrl : Option String
  settings : Option σ

/-- How a probe ends, with the model that the endpoint reports, if any. -/
inductive Probe where
  /-- Both capabilities succeed. -/
  | succeeded (reported : Option String)
  | researchFailed (reported : Option String) (failure : String)
  | failed (failure : String)
  /-- `SecretDecryptionFailed`. -/
  | undecryptable
  /-- Another `SecretStoreError`: the request is rolled back. -/
  | refused

def credentialReplacementRequired : String := "credential_replacement_required"

/-- `_resolved_model`: `body.get("model") or requested_model`. -/
def resolvedModel (requestedModel : String) (reported : Option String) : String :=
  if reported.getD "" = "" then requestedModel else reported.getD ""

namespace LLMProvider

variable {σ : Type} (provider : LLMProvider σ)

def capability : CapabilityName → CapabilityState
  | .generation => provider.generationCapability
  | .research => provider.researchCapability

/-! ## Freshness -/

/-- The time of the last successful test; rows of old have that of the last test. -/
def testedAt : Option Int :=
  provider.lastSuccessfulTestAt.or
    (if provider.healthStatus = .healthy ∨ provider.healthStatus = .degraded
      then provider.lastCheckedAt else none)

/-- `provider_test_is_fresh`. -/
def testIsFresh (now : Int) (ttlSeconds : Nat) : Bool :=
  if provider.protocol = .fake then
    provider.healthStatus = .healthy ∨ provider.healthStatus = .degraded
  else
    match provider.testedAt with
    | none => false
    | some testedAt =>
      if provider.lastTestedModel ∉ [none, some "", some provider.defaultModel] then false
      else
        testedAt ≤ now + timedeltaSeconds 5 ∧ testedAt ≥ now - timedeltaSeconds ttlSeconds

/-- `provider_capability_ready`. -/
def capabilityReady (name : CapabilityName) (now : Int) (ttlSeconds : Nat) : Bool :=
  provider.enabled && provider.capability name = .ready && provider.testIsFresh now ttlSeconds

/-- The code of `provider_readiness`. -/
def readinessCode (now : Int) (ttlSeconds : Nat) : String :=
  if provider.generationCapability ≠ .ready then
    if provider.generationCapability = .unknown ∨ provider.healthStatus = .unchecked then
      "test_required"
    else if provider.failureCode = some credentialReplacementRequired then
      credentialReplacementRequired
    else
      "generation_unavailable"
  else if provider.testIsFresh now ttlSeconds then "ready_for_generation"
  else "test_stale"

/-! ## Operations -/

/-- `enable`; none where it raises `ProviderNotReady`. -/
def enable (now : Int) (ttlSeconds : Nat) : Option (LLMProvider σ) :=
  if provider.readinessCode now ttlSeconds = "ready_for_generation"
  then some { provider with enabled := true } else none

def disable : LLMProvider σ := { provider with enabled := false }

def untested (healthStatus : HealthStatus) (capability : CapabilityState)
    (failureCode : Option String) (enabled : Bool) : LLMProvider σ :=
  { provider with
    enabled := enabled
    healthStatus := healthStatus
    generationCapability := capability
    researchCapability := capability
    failureCode := failureCode
    lastCheckedAt := none
    lastSuccessfulTestAt := none
    lastTestedModel := none }

/-- `patch`; none where it raises. -/
def patch (body : Patch σ) : Option (LLMProvider σ) :=
  if body.baseUrl.isSome ∧ provider.protocol = .fake then none
  else if body.name.isNone ∧ body.defaultModel.isNone ∧ body.baseUrl.isNone
      ∧ body.settings.isNone then some provider
  else
    let changed := { provider with
      defaultModel := body.defaultModel.getD provider.defaultModel
      baseUrl := body.baseUrl.or provider.baseUrl
      settings := body.settings.getD provider.settings }
    some (if provider.failureCode = some credentialReplacementRequired then
        changed.untested .unhealthy .unavailable (some credentialReplacementRequired) false
      else
        changed.untested .unchecked .unknown none provider.enabled)

/-- `rotate_secret`; none where it raises. -/
def rotateSecret (value : String) : Option (LLMProvider σ) :=
  if provider.protocol = .openaiCompatible then
    some ({ provider with secret := some value }.untested .unchecked .unknown none false)
  else
    none

def unavailable (failure : String) : LLMProvider σ :=
  { provider with
    enabled := false
    healthStatus := .unhealthy
    generationCapability := .unavailable
    researchCapability := .unavailable
    failureCode := some failure }

/-- `mark_credential_replacement_required`. -/
def markCredentialReplacementRequired : LLMProvider σ :=
  provider.unavailable credentialReplacementRequired

/-- A test that found generation ready, with what it found of research. -/
def tested (checkedAt : Int) (healthStatus : HealthStatus) (research : CapabilityState)
    (failureCode : Option String) (model : String) : LLMProvider σ :=
  { provider with
    healthStatus := healthStatus
    generationCapability := .ready
    researchCapability := research
    failureCode := failureCode
    lastCheckedAt := some checkedAt
    lastSuccessfulTestAt := some checkedAt
    lastTestedModel := some model }

/-- `test_connection`; none where it raises and is rolled back. -/
def testConnection (fakeAllowed : Bool) (checkedAt : Int) (probe : Probe) :
    Option (LLMProvider σ) :=
  let checked := { provider with
    lastCheckedAt := some checkedAt
    lastTestedModel := some provider.defaultModel }
  if provider.protocol = .fake then
    if fakeAllowed then
      some (checked.tested checkedAt .healthy .ready none provider.defaultModel)
    else none
  else if provider.secret = none then some (checked.unavailable "credential_missing")
  else
    match probe with
    | .undecryptable => some checked.markCredentialReplacementRequired
    | .refused => none
    | .failed failure => some (checked.unavailable failure)
    | .researchFailed reported failure =>
      some (checked.tested checkedAt .degraded .unavailable (some ("research_" ++ failure))
        (resolvedModel provider.defaultModel reported))
    | .succeeded reported =>
      some (checked.tested checkedAt .healthy .ready none
        (resolvedModel provider.defaultModel reported))

end LLMProvider

/-! ## Histories -/

/-- A probe that generation passed, and research too if `research` says so. -/
structure ProbeRecord (σ : Type) where
  checkedAt : Int
  baseUrl : Option String
  model : String
  settings : σ
  secret : Option String
  research : Bool

structure World (σ : Type) where
  provider : LLMProvider σ
  probes : List (ProbeRecord σ)

inductive Event (σ : Type) where
  | patch (body : Patch σ)
  | rotate (value : String)
  | test (checkedAt : Int) (probe : Probe)
  | enable (now : Int)
  | disable
  | replace

variable {σ : Type}

/-- What a probe of the provider proves, if it proves anything. -/
def LLMProvider.passed (provider : LLMProvider σ) (checkedAt : Int) (research : Bool) :
    ProbeRecord σ :=
  ⟨checkedAt, provider.baseUrl, provider.defaultModel, provider.settings, provider.secret, research⟩

/-- The probes after a test; a provider that is fake or has no secret is not probed. -/
def World.probed (w : World σ) (checkedAt : Int) (probe : Probe) : List (ProbeRecord σ) :=
  if w.provider.protocol = .fake ∨ w.provider.secret = none then w.probes
  else
    match probe with
    | .succeeded _ => w.provider.passed checkedAt true :: w.probes
    | .researchFailed _ _ => w.provider.passed checkedAt false :: w.probes
    | _ => w.probes

/-- The world after a request; one that raises leaves it as it is. -/
def World.next (ttlSeconds : Nat) (fakeAllowed : Bool) (w : World σ) : Event σ → World σ
  | .patch body => { w with provider := (w.provider.patch body).getD w.provider }
  | .rotate value => { w with provider := (w.provider.rotateSecret value).getD w.provider }
  | .test checkedAt probe =>
    { provider := (w.provider.testConnection fakeAllowed checkedAt probe).getD w.provider
      probes := w.probed checkedAt probe }
  | .enable now => { w with provider := (w.provider.enable now ttlSeconds).getD w.provider }
  | .disable => { w with provider := w.provider.disable }
  | .replace => { w with provider := w.provider.markCredentialReplacementRequired }

/-- A provider as `create` leaves it. -/
def created (baseUrl : String) (defaultModel : String) (settings : σ) (secret : String) :
    LLMProvider σ :=
  ⟨.openaiCompatible, some baseUrl, defaultModel, settings, some secret, false, .unchecked,
    .unknown, .unknown, none, none, none, none⟩

/-- The histories of a provider that is compatible with OpenAI. -/
def system (σ : Type) (ttlSeconds : Nat) (fakeAllowed : Bool) : System (World σ) (Event σ) where
  init w := ∃ baseUrl defaultModel settings secret,
    w = ⟨created baseUrl defaultModel settings secret, []⟩
  step w event w' := w' = w.next ttlSeconds fakeAllowed event

/-! ## A test that passes -/

/-- A test that passes makes the provider ready while the time to live lasts. -/
def LLMProvider.MakesReady (provider : LLMProvider σ) (ttlSeconds : Nat) (fakeAllowed : Bool)
    (checkedAt : Int) (reported : Option String) : Prop :=
  ∃ tested, provider.testConnection fakeAllowed checkedAt (.succeeded reported) = some tested ∧
    ∀ enabledAt, checkedAt ≤ enabledAt → enabledAt ≤ checkedAt + timedeltaSeconds ttlSeconds →
      ∃ enabled, tested.enable enabledAt ttlSeconds = some enabled ∧
        ∀ now, enabledAt ≤ now → now ≤ checkedAt + timedeltaSeconds ttlSeconds →
          ∀ name, enabled.capabilityReady name now ttlSeconds = true

theorem resolvedModel_eq_iff {requested : String} {reported : Option String} :
    resolvedModel requested reported = requested ↔
      reported = none ∨ reported = some "" ∨ reported = some requested := by
  cases reported with
  | none => simp [resolvedModel]
  | some model =>
    by_cases hempty : model = ""
    · simp [resolvedModel, hempty]
    · simp [resolvedModel, hempty]

theorem resolvedModel_of_empty {requested : String} {reported : Option String}
    (hempty : resolvedModel requested reported = "") :
    resolvedModel requested reported = requested := by
  unfold resolvedModel at hempty ⊢
  split at hempty
  · simp_all
  · contradiction

variable {checkedAt : Int} {ttlSeconds : Nat} {healthStatus : HealthStatus}
  {failureCode : Option String}

theorem tested_isFresh_iff {provider : LLMProvider σ} {research : CapabilityState} {model : String}
    (hopen : provider.protocol = .openaiCompatible) (now : Int) :
    (provider.tested checkedAt healthStatus research failureCode model).testIsFresh now
        ttlSeconds = true ↔
      (model = "" ∨ model = provider.defaultModel) ∧
        checkedAt ≤ now + timedeltaSeconds 5 ∧ now - timedeltaSeconds ttlSeconds ≤ checkedAt := by
  simp only [LLMProvider.testIsFresh, LLMProvider.testedAt, LLMProvider.tested, hopen,
    reduceCtorEq, if_false, Option.some_or]
  by_cases hmodel : model = "" ∨ model = provider.defaultModel
  · simp [hmodel]
  have hstale : some model ∉ [none, some "", some provider.defaultModel] := by
    simpa using hmodel
  simp [hmodel, hstale]

theorem enable_of_fresh {provider : LLMProvider σ} {now : Int}
    (hready : provider.generationCapability = .ready) :
    provider.enable now ttlSeconds = if provider.testIsFresh now ttlSeconds = true
      then some { provider with enabled := true } else none := by
  by_cases hfresh : provider.testIsFresh now ttlSeconds = true
  · simp [LLMProvider.enable, LLMProvider.readinessCode, hready, hfresh]
  · simp [LLMProvider.enable, LLMProvider.readinessCode, hready, hfresh]

theorem makesReady_iff (provider : LLMProvider σ) (ttlSeconds : Nat) (fakeAllowed : Bool)
    (hopen : provider.protocol = .openaiCompatible) (hsecret : provider.secret ≠ none)
    (checkedAt : Int) (reported : Option String) :
    provider.MakesReady ttlSeconds fakeAllowed checkedAt reported ↔
      reported = none ∨ reported = some "" ∨ reported = some provider.defaultModel := by
  rw [← resolvedModel_eq_iff]
  have htest : provider.testConnection fakeAllowed checkedAt (.succeeded reported)
      = some (provider.tested checkedAt .healthy .ready none
          (resolvedModel provider.defaultModel reported)) := by
    simp [LLMProvider.testConnection, LLMProvider.tested, hopen, hsecret]
  constructor
  · intro ⟨tested, heq, hready⟩
    cases htest.symm.trans heq
    -- enabled at once, the provider is fresh only if the models agree
    obtain ⟨enabled, henable, -⟩ := hready checkedAt (Int.le_refl _)
      (by simp only [timedeltaSeconds]; omega)
    rw [enable_of_fresh rfl] at henable
    by_cases hnow : (provider.tested checkedAt .healthy .ready none
        (resolvedModel provider.defaultModel reported)).testIsFresh checkedAt ttlSeconds = true
    · rcases ((tested_isFresh_iff hopen checkedAt).mp hnow).1 with hempty | hmodel
      · exact resolvedModel_of_empty hempty
      · exact hmodel
    · simp [hnow] at henable
  · intro hmodel
    have hnow : ∀ now, checkedAt ≤ now → now ≤ checkedAt + timedeltaSeconds ttlSeconds →
        (provider.tested checkedAt .healthy .ready none
          (resolvedModel provider.defaultModel reported)).testIsFresh now ttlSeconds = true := by
      intro now hfrom hto
      refine (tested_isFresh_iff hopen now).mpr ⟨.inr hmodel, ?_, by omega⟩
      simp only [timedeltaSeconds]
      omega
    refine ⟨_, htest, fun enabledAt hfrom hto => ⟨_,
      (enable_of_fresh rfl).trans (if_pos (hnow enabledAt hfrom hto)), ?_⟩⟩
    intro now hlater hbefore name
    have hlive := hnow now (Int.le_trans hfrom hlater) hbefore
    -- freshness does not look at whether the provider is enabled
    cases name
    · exact hlive
    · exact hlive

/-! ## A provider that is ready was tested -/

def ProbeRecord.Backs (record : ProbeRecord σ) (provider : LLMProvider σ)
    (name : CapabilityName) : Prop :=
  provider.lastSuccessfulTestAt = some record.checkedAt ∧
    record = provider.passed record.checkedAt record.research ∧
    (name = .research → record.research = true)

structure World.Backed (w : World σ) : Prop where
  isOpen : w.provider.protocol = .openaiCompatible
  hasSecret : w.provider.secret ≠ none
  backed : ∀ name, w.provider.capability name = .ready →
    ∃ record ∈ w.probes, record.Backs w.provider name

variable {probes : List (ProbeRecord σ)}

theorem World.Backed.of_unready {provider : LLMProvider σ}
    (hopen : provider.protocol = .openaiCompatible) (hsecret : provider.secret ≠ none)
    (hunready : ∀ name, provider.capability name ≠ .ready) :
    (⟨provider, probes⟩ : World σ).Backed :=
  ⟨hopen, hsecret, fun name hready => absurd hready (hunready name)⟩

theorem World.Backed.of_untested {provider : LLMProvider σ} {capability : CapabilityState}
    {enabled : Bool} (hopen : provider.protocol = .openaiCompatible)
    (hsecret : provider.secret ≠ none) (hunready : capability ≠ .ready) :
    (⟨provider.untested healthStatus capability failureCode enabled, probes⟩ : World σ).Backed :=
  .of_unready hopen hsecret (by intro name; cases name <;> exact hunready)

theorem World.Backed.of_unavailable {provider : LLMProvider σ} {failure : String}
    (hopen : provider.protocol = .openaiCompatible) (hsecret : provider.secret ≠ none) :
    (⟨provider.unavailable failure, probes⟩ : World σ).Backed :=
  .of_unready hopen hsecret (by intro name; cases name <;> exact nofun)

theorem World.Backed.of_tested {provider : LLMProvider σ} {model : String} {research : Bool}
    {state : CapabilityState} (hopen : provider.protocol = .openaiCompatible)
    (hsecret : provider.secret ≠ none) (hstate : state = .ready → research = true) :
    (⟨provider.tested checkedAt healthStatus state failureCode model,
      provider.passed checkedAt research :: probes⟩ : World σ).Backed := by
  refine ⟨hopen, hsecret, fun name hready => ⟨_, List.mem_cons_self .., rfl, rfl, ?_⟩⟩
  intro hname
  subst hname
  exact hstate hready

variable {w : World σ}

theorem World.Backed.patch {body : Patch σ} {provider : LLMProvider σ} (hw : w.Backed)
    (hpatch : w.provider.patch body = some provider) : (⟨provider, w.probes⟩ : World σ).Backed := by
  unfold LLMProvider.patch at hpatch
  split at hpatch
  · contradiction
  split at hpatch
  · cases hpatch
    exact hw
  · cases hpatch
    split
    · exact .of_untested hw.isOpen hw.hasSecret (by simp)
    · exact .of_untested hw.isOpen hw.hasSecret (by simp)

theorem World.Backed.rotate {value : String} {provider : LLMProvider σ} (hw : w.Backed)
    (hrotate : w.provider.rotateSecret value = some provider) :
    (⟨provider, w.probes⟩ : World σ).Backed := by
  simp only [LLMProvider.rotateSecret, hw.isOpen, if_true, Option.some.injEq] at hrotate
  subst hrotate
  exact .of_untested rfl (by simp) (by simp)

theorem World.Backed.test {fakeAllowed : Bool} {probe : Probe} (hw : w.Backed) :
    (⟨(w.provider.testConnection fakeAllowed checkedAt probe).getD w.provider,
      w.probed checkedAt probe⟩ : World σ).Backed := by
  simp only [LLMProvider.testConnection, World.probed, hw.isOpen, hw.hasSecret,
    reduceCtorEq, if_false, false_or]
  cases probe with
  | succeeded reported => exact .of_tested rfl hw.hasSecret (fun _ => rfl)
  | researchFailed reported failure => exact .of_tested rfl hw.hasSecret (by simp)
  | failed _ | undecryptable => exact .of_unavailable rfl hw.hasSecret
  | refused => exact hw

theorem World.Backed.next (hw : w.Backed) (ttlSeconds : Nat) (fakeAllowed : Bool) (event : Event σ)
    : (w.next ttlSeconds fakeAllowed event).Backed := by
  cases event with
  | patch body =>
    cases hpatch : w.provider.patch body with
    | none => simpa [World.next, hpatch] using hw
    | some provider => simpa [World.next, hpatch] using hw.patch hpatch
  | rotate value =>
    cases hrotate : w.provider.rotateSecret value with
    | none => simpa [World.next, hrotate] using hw
    | some provider => simpa [World.next, hrotate] using hw.rotate hrotate
  | test checkedAt probe => exact hw.test
  | enable now =>
    -- only whether it is enabled changes
    simp only [World.next, LLMProvider.enable]
    split
    · exact ⟨hw.isOpen, hw.hasSecret, hw.backed⟩
    · exact hw
  | disable => exact ⟨hw.isOpen, hw.hasSecret, hw.backed⟩
  | replace => exact .of_unavailable hw.isOpen hw.hasSecret

theorem backed_of_reachable {fakeAllowed : Bool}
    (hw : (system σ ttlSeconds fakeAllowed).Reachable w) : w.Backed := by
  refine System.invariant ?_ ?_ hw
  · intro w hinit
    obtain ⟨baseUrl, defaultModel, settings, secret, rfl⟩ := hinit
    exact .of_unready rfl (by simp [created]) (by intro name; cases name <;> exact nofun)
  · intro w event w' _ hw hstep
    obtain rfl : w' = w.next ttlSeconds fakeAllowed event := hstep
    exact hw.next ttlSeconds fakeAllowed event

/-- A provider as it is created; its endpoint names the version of the model that replied. -/
def gptProvider : LLMProvider Unit :=
  created "https://api.example.com/v1" "gpt-4o" () "sk-1"

end NewsCraft.Providers
