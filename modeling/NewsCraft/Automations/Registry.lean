import NewsCraft.Automations.Schemas

/-!
# The node registry

Every kind of step a workflow may have, with its ports, their contracts and its runtime. Of
a step's config model only the names of its fields are kept: what the model accepts is an
argument of the validation.
-/

namespace NewsCraft.Automations

inductive RuntimeStatus where
  | existing
  | extension
  | unavailable
  deriving DecidableEq

inductive RuntimeOwner where
  | api
  | scheduler
  | source
  | generation
  | publishing
  | compiler
  deriving DecidableEq

structure PortDefinition where
  artifactTypes : List String
  required : Bool
  maxConnections : Option Nat
  inputContract : Option ArtifactInputContract
  outputContract : Option ArtifactOutputContract
  deriving DecidableEq

structure NodeDefinition where
  type : String
  family : String
  displayName : String
  configFields : List String
  inputs : List (String × PortDefinition)
  outputs : List (String × PortDefinition)
  entry : Bool
  terminal : Bool
  runtimeStatus : RuntimeStatus
  runtimeOwner : RuntimeOwner
  runtimeJobTypes : List String
  inputContract : Option ArtifactInputContract
  outputContract : Option ArtifactOutputContract
  deriving DecidableEq

/-- `definition.inputs.get(name)`. -/
def NodeDefinition.input? (definition : NodeDefinition) (name : String) : Option PortDefinition :=
  (definition.inputs.find? fun port => port.1 = name).map Prod.snd

/-- `definition.outputs.get(name)`. -/
def NodeDefinition.output? (definition : NodeDefinition) (name : String) : Option PortDefinition :=
  (definition.outputs.find? fun port => port.1 = name).map Prod.snd

def inputPort (artifactTypes : List String) (required : Bool) (contract : ArtifactInputContract) :
    PortDefinition where
  artifactTypes := artifactTypes
  required := required
  maxConnections := some 1
  inputContract := some contract
  outputContract := none

/-- An output port, which any number of connections may leave. -/
def outputPort (artifactTypes : List String) (contract : ArtifactOutputContract) :
    PortDefinition where
  artifactTypes := artifactTypes
  required := true
  maxConnections := none
  inputContract := none
  outputContract := some contract

/-! ## Contracts -/

def story : List String := ["story.revision_ref"]
def researchedStory : List String := ["story.researched_revision_ref"]
def anyStory : List String := story ++ researchedStory
def collectionArticle : List String := ["article.collection_added"]
def storySet : List String := ["story.revision_set_ref"]
def draftSet : List String := ["draft.revision_set_ref"]
def validatedDraftSet : List String := ["draft.validated_revision_set_ref"]
def anyDraftSet : List String := draftSet ++ validatedDraftSet

def articleInput : ArtifactInputContract :=
  ⟨[.textual], [.article, .generatable], [.article, .research]⟩
def researchInput : ArtifactInputContract :=
  ⟨[.textual], [.article, .generatable], [.article, .research]⟩
def generateInput : ArtifactInputContract := ⟨[.generatable], [], [.article, .research]⟩
def reviewableInput : ArtifactInputContract := ⟨[.reviewable], [], []⟩
def draftInput : ArtifactInputContract := ⟨[.draft], [], [.draft]⟩
def approvedDraftInput : ArtifactInputContract := ⟨[.approved, .publishable], [], [.draft]⟩
def scheduleInput : ArtifactInputContract := ⟨[.scheduleContext], [], [.scheduleEvent]⟩

def makes (kind : ArtifactKind) (capabilities : List ArtifactCapability) :
    ArtifactOutputContract :=
  ⟨some kind, capabilities, false, []⟩

def articleOutput : ArtifactOutputContract :=
  makes .article [.textual, .structured, .article, .reviewable, .generatable]
def collectionArticleOutput : ArtifactOutputContract :=
  makes .article [.textual, .structured, .article, .reviewable, .generatable, .collectionContext]
def sourceArticleOutput : ArtifactOutputContract :=
  makes .article [.textual, .structured, .article, .reviewable, .generatable, .sourceContext]
def scheduleOutput : ArtifactOutputContract := makes .scheduleEvent [.structured, .scheduleContext]
def researchOutput : ArtifactOutputContract :=
  makes .research [.textual, .structured, .research, .reviewable, .generatable]
def draftOutput : ArtifactOutputContract :=
  makes .draft [.textual, .structured, .draft, .reviewable]
def preserveDraftOutput : ArtifactOutputContract := ⟨some .draft, [.structured], true, []⟩
def preserveOutput : ArtifactOutputContract := ⟨none, [], true, []⟩
def approvedOutput : ArtifactOutputContract := ⟨none, [], true, [.approved, .publishable]⟩
def publicationOutput : ArtifactOutputContract :=
  makes .publication [.structured, .approved, .publishable]

/-! ## Steps -/

def manual : NodeDefinition where
  type := "manual"
  family := "trigger"
  displayName := "Manual"
  configFields := ["story_revision_id"]
  inputs := []
  outputs := [("story", outputPort story articleOutput)]
  entry := true
  terminal := false
  runtimeStatus := .existing
  runtimeOwner := .api
  runtimeJobTypes := ["content_pack.generate", "content_pack.generate_telegram"]
  inputContract := none
  outputContract := none

def collectionArticleAdded : NodeDefinition where
  type := "collection_article_added"
  family := "trigger"
  displayName := "Collection article added"
  configFields := ["collection_id"]
  inputs := []
  outputs := [("article", outputPort collectionArticle collectionArticleOutput)]
  entry := true
  terminal := true
  runtimeStatus := .existing
  runtimeOwner := .compiler
  runtimeJobTypes := ["automation.run.start"]
  inputContract := none
  outputContract := none

def newSourceItem : NodeDefinition where
  type := "new_source_item"
  family := "trigger"
  displayName := "New Source Item"
  configFields := ["source_ids"]
  inputs := []
  outputs := [("item", outputPort ["source_item.ref", "content_item.ref"] sourceArticleOutput)]
  entry := true
  terminal := true
  runtimeStatus := .existing
  runtimeOwner := .source
  runtimeJobTypes := ["automation.run.start"]
  inputContract := none
  outputContract := none

def schedule : NodeDefinition where
  type := "schedule"
  family := "trigger"
  displayName := "Schedule"
  configFields := ["schedule_kind", "timezone", "local_time", "interval_minutes", "catch_up_limit"]
  inputs := []
  outputs := [("tick", outputPort ["run.signal"] scheduleOutput)]
  entry := true
  terminal := false
  runtimeStatus := .extension
  runtimeOwner := .scheduler
  runtimeJobTypes := ["automation.run.start"]
  inputContract := none
  outputContract := none

def selectContent : NodeDefinition where
  type := "select_content"
  family := "select_filter"
  displayName := "Select content"
  configFields :=
    ["source_ids", "languages", "topics", "content_types", "minimum_score", "require_media",
      "sort", "max_count"]
  inputs := [("tick", inputPort ["run.signal"] false scheduleInput)]
  outputs := [("stories", outputPort storySet articleOutput)]
  entry := false
  terminal := false
  runtimeStatus := .extension
  runtimeOwner := .generation
  runtimeJobTypes := ["automation.run.start"]
  inputContract := none
  outputContract := none

def filterContent : NodeDefinition where
  type := "filter_content"
  family := "select_filter"
  displayName := "Filter content"
  configFields := ["include_terms", "exclude_terms", "min_text_characters", "require_media"]
  inputs := [("story", inputPort (story ++ collectionArticle) true articleInput)]
  outputs := [("accepted", outputPort (story ++ collectionArticle) preserveOutput)]
  entry := false
  terminal := false
  runtimeStatus := .existing
  runtimeOwner := .generation
  runtimeJobTypes := ["telegram.route.process"]
  inputContract := none
  outputContract := none

def research : NodeDefinition where
  type := "research"
  family := "research"
  displayName := "AI Research"
  configFields :=
    ["provider_profile_id", "prompt_template_version_id", "prompt_checksum_sha256", "mode",
      "query_budget", "page_budget", "time_budget_seconds"]
  inputs := [("story", inputPort (story ++ collectionArticle) true researchInput)]
  outputs := [("story", outputPort researchedStory researchOutput)]
  entry := false
  terminal := false
  runtimeStatus := .existing
  runtimeOwner := .generation
  runtimeJobTypes := ["research_story"]
  inputContract := none
  outputContract := none

def generateContentPack : NodeDefinition where
  type := "generate_content_pack"
  family := "generate"
  displayName := "Generate content package"
  configFields :=
    ["editorial_profile_id", "provider_profile_id", "prompt_version_ids", "prompt_checksums",
      "platforms"]
  inputs := [("story", inputPort (anyStory ++ storySet ++ collectionArticle) true generateInput)]
  outputs := [("drafts", outputPort draftSet draftOutput)]
  entry := false
  terminal := false
  runtimeStatus := .existing
  runtimeOwner := .generation
  runtimeJobTypes := ["content_pack.generate", "content_pack.generate_telegram"]
  inputContract := none
  outputContract := none

def validate : NodeDefinition where
  type := "validate"
  family := "validate"
  displayName := "Validate"
  configFields := ["validator_ids"]
  inputs := [("drafts", inputPort draftSet true draftInput)]
  outputs := [("valid", outputPort validatedDraftSet preserveOutput)]
  entry := false
  terminal := false
  runtimeStatus := .existing
  runtimeOwner := .compiler
  runtimeJobTypes := []
  inputContract := none
  outputContract := none

def humanReview : NodeDefinition where
  type := "human_review"
  family := "review"
  displayName := "Human Review"
  configFields := ["instructions"]
  inputs := [("draft", inputPort ["draft.telegram_revision_ref"] true reviewableInput)]
  outputs := [("approved", outputPort ["draft.approved_telegram_revision_ref"] approvedOutput)]
  entry := false
  terminal := false
  runtimeStatus := .existing
  runtimeOwner := .api
  runtimeJobTypes := []
  inputContract := none
  outputContract := none

def saveDrafts : NodeDefinition where
  type := "save_drafts"
  family := "output"
  displayName := "Save to Drafts"
  configFields := []
  inputs := [("drafts", inputPort anyDraftSet true draftInput)]
  outputs := []
  entry := false
  terminal := true
  runtimeStatus := .existing
  runtimeOwner := .compiler
  runtimeJobTypes := []
  inputContract := none
  outputContract := none

def manualPackage : NodeDefinition where
  type := "manual_package"
  family := "output"
  displayName := "Manual publishing package"
  configFields := ["platforms"]
  inputs := [("drafts", inputPort draftSet true draftInput)]
  outputs := [("package", outputPort ["export.manual_package_ref"] preserveDraftOutput)]
  entry := false
  terminal := true
  runtimeStatus := .existing
  runtimeOwner := .generation
  runtimeJobTypes := ["build_export"]
  inputContract := none
  outputContract := none

def telegramPublish : NodeDefinition where
  type := "telegram_publish"
  family := "output"
  displayName := "Publish to Telegram"
  configFields := ["destination_id", "quiet_hours", "retry_policy"]
  inputs := [("draft", inputPort ["draft.approved_telegram_revision_ref"] true approvedDraftInput)]
  outputs := [("publication", outputPort ["publication.telegram_ref"] publicationOutput)]
  entry := false
  terminal := true
  runtimeStatus := .existing
  runtimeOwner := .publishing
  runtimeJobTypes := ["telegram.publish"]
  inputContract := none
  outputContract := none

/-- `NODE_REGISTRY`, in the order it is written. -/
def nodeRegistry : List NodeDefinition :=
  [manual, collectionArticleAdded, newSourceItem, schedule, selectContent, filterContent, research,
    generateContentPack, validate, humanReview, saveDrafts, manualPackage, telegramPublish]

/-- `NODE_REGISTRY.get(type)`. -/
def nodeDefinition? (type : String) : Option NodeDefinition :=
  nodeRegistry.find? fun definition => definition.type = type

theorem nodeDefinition?_mem {type : String} {definition : NodeDefinition}
    (h : nodeDefinition? type = some definition) :
    definition ∈ nodeRegistry ∧ definition.type = type := by
  have htype := List.find?_some h
  exact ⟨List.mem_of_find?_eq_some h, of_decide_eq_true htype⟩

/-! ## What the registry promises -/

theorem ports_have_contracts : ∀ definition ∈ nodeRegistry,
    (∀ port ∈ definition.inputs, port.2.inputContract.isSome)
      ∧ ∀ port ∈ definition.outputs, port.2.outputContract.isSome := by
  decide

theorem preserving_has_input : ∀ definition ∈ nodeRegistry, ∀ port ∈ definition.outputs,
    ∀ contract ∈ port.2.outputContract, contract.preservesInputArtifact = true →
      definition.inputs.any (fun input => input.2.required) = true := by
  decide

end NewsCraft.Automations
