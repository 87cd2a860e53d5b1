import NewsCraft.Core.Basic
import NewsCraft.Lib.Table
import NewsCraft.Research.Completeness

/-!
# The coverage of an article

Whether an article is covered by a complete story, by an incomplete one or by none is
computed three times: in the article query, in the statement that counts the articles of
each state, and in Python for a page. The first two read what was stored with each snapshot
of evidence, and count characters with a regular expression of the database.
-/

namespace NewsCraft.Articles

open Lib Redact Research

/-! ## Rows -/

structure Story where
  id : UUID
  title : String
  status : String
  supersededById : Option UUID
  updatedAt : Datetime

instance : Keyed Story UUID := ⟨Story.id⟩

structure ContentItem where
  id : UUID
  feedClearedAt : Option Datetime

instance : Keyed ContentItem UUID := ⟨ContentItem.id⟩

structure SnapshotParameters where
  id : UUID
  storyId : UUID
  contentItemId : Option UUID
  evidenceKey : String
  contentText : Text
  sourceUrl : Option String
  snapshotMetadata : Json

/-- A row of `story_evidence_snapshots`, its derived columns as the model's defaults give them. -/
structure StoryEvidenceSnapshot (H : HostRules) (P : PythonText) extends SnapshotParameters where
  sourceIdentity : Option Text
  isPrimary : Bool
  identity_eq : sourceIdentity = snapshotSourceIdentity H P sourceUrl snapshotMetadata
  primary_eq : isPrimary = snapshotIsPrimary snapshotMetadata

def SnapshotParameters.written (H : HostRules) (P : PythonText) (parameters : SnapshotParameters) :
    StoryEvidenceSnapshot H P where
  toSnapshotParameters := parameters
  sourceIdentity := snapshotSourceIdentity H P parameters.sourceUrl parameters.snapshotMetadata
  isPrimary := snapshotIsPrimary parameters.snapshotMetadata
  identity_eq := rfl
  primary_eq := rfl

structure ArticleDb (H : HostRules) (P : PythonText) where
  contentItems : Table ContentItem
  stories : Table Story
  snapshots : List (StoryEvidenceSnapshot H P)

inductive CoverageState where
  | complete
  | incomplete
  | ungrouped
  deriving DecidableEq

/-! ## In the database -/

/-- `regexp_replace(text, '\s+', replacement, 'g')`, `inside` a run of spaces. -/
def regexpReplaceRuns (space : Char → Bool) (replacement : Text) : Bool → Text → Text
  | _, [] => []
  | inside, c :: text =>
    if space c then
      (if inside then [] else replacement) ++ regexpReplaceRuns space replacement true text
    else
      c :: regexpReplaceRuns space replacement false text

/-- A row of `story_completeness`. -/
structure StoryCompleteness where
  storyId : UUID
  sourceCount : Nat
  bodyCharacterCount : Nat
  hasPrimary : Bool

/-- `_active_story_criteria`. -/
def activeStoryCriteria (story : Story) : Bool := story.supersededById.isNone

/-- `_completeness_criteria`. -/
def completenessCriteria (completeness : StoryCompleteness) : Bool :=
  minIndependentSources ≤ completeness.sourceCount
    ∧ minBodyCharacters ≤ completeness.bodyCharacterCount ∧ completeness.hasPrimary

/-- `active_feed_condition`. -/
def activeFeedCondition (item : ContentItem) : Bool := item.feedClearedAt.isNone

namespace ArticleDb

variable {H : HostRules} {P : PythonText} (db : ArticleDb H P)

def evidenceOf (storyId : UUID) : List (StoryEvidenceSnapshot H P) :=
  db.snapshots.filter fun snapshot => snapshot.storyId = storyId

/-- `_story_completeness_subquery`; `space` is what `\s` matches in the database. -/
def storyCompleteness (space : Char → Bool) : List StoryCompleteness :=
  (db.snapshots.map fun snapshot => snapshot.storyId).dedup.map fun storyId =>
    { storyId := storyId
      sourceCount :=
        ((db.evidenceOf storyId).filterMap fun snapshot => snapshot.sourceIdentity).dedup.length
      bodyCharacterCount :=
        Relational.total ((db.evidenceOf storyId).map fun snapshot =>
          (regexpReplaceRuns space [] false snapshot.contentText).length)
      hasPrimary := (db.evidenceOf storyId).any fun snapshot => snapshot.isPrimary }

/-- `_active_story_exists`. -/
def activeStoryExists (item : ContentItem) : Bool :=
  db.snapshots.any fun link => db.stories.rows.any fun story =>
    story.id = link.storyId ∧ link.contentItemId = some item.id ∧ activeStoryCriteria story

/-- `_complete_story_exists`. -/
def completeStoryExists (space : Char → Bool) (item : ContentItem) : Bool :=
  db.snapshots.any fun link => db.stories.rows.any fun story =>
    (db.storyCompleteness space).any fun completeness =>
      story.id = link.storyId ∧ completeness.storyId = story.id
        ∧ link.contentItemId = some item.id ∧ activeStoryCriteria story
        ∧ completenessCriteria completeness

/-- `_coverage_state_expression`. -/
def coverageStateExpression (space : Char → Bool) (item : ContentItem) : CoverageState :=
  if db.completeStoryExists space item then .complete
  else if db.activeStoryExists item then .incomplete
  else .ungrouped

/-- `active_story_items`. -/
def activeStoryItems : List (Option UUID) :=
  (db.snapshots.flatMap fun link =>
    (db.stories.rows.filter fun story => story.id = link.storyId ∧ activeStoryCriteria story).map
      fun _ => link.contentItemId).dedup

/-- `complete_story_items`. -/
def completeStoryItems (space : Char → Bool) : List (Option UUID) :=
  (db.snapshots.flatMap fun link =>
    (db.stories.rows.filter fun story => story.id = link.storyId ∧ activeStoryCriteria story).flatMap
      fun story =>
        ((db.storyCompleteness space).filter fun completeness =>
          completeness.storyId = story.id ∧ completenessCriteria completeness).map
            fun _ => link.contentItemId).dedup

def feed : List ContentItem := db.contentItems.rows.filter activeFeedCondition

/-- The rows of the facet statement before they are counted. -/
def facetRows (space : Char → Bool) : List (ContentItem × CoverageState) :=
  let active := Relational.leftJoin db.contentItems.rows db.activeStoryItems
    fun item contentItemId => contentItemId = some item.id
  let complete := Relational.leftJoin active (db.completeStoryItems space)
    fun row contentItemId => contentItemId = some row.1.id
  (complete.filter fun row => activeFeedCondition row.1.1).map fun row =>
    (row.1.1,
      if row.2.isSome then .complete else if row.1.2.isSome then .incomplete else .ungrouped)

/-- `_coverage_facet_statement`. -/
def coverageFacet (space : Char → Bool) : List (CoverageState × Nat) :=
  Relational.groupCount ((db.facetRows space).map Prod.snd)

/-! ## In Python -/

/-- `_story_summaries`, of one story. -/
def storySummary (story : Story) : CompletenessReport :=
  evaluateCompleteness H P ((db.evidenceOf story.id).map fun item =>
    { evidenceKey := item.evidenceKey
      contentText := item.contentText
      sourceUrl := item.sourceUrl
      sourceIdentity := metadataGet item.snapshotMetadata "source_label"
      isPrimary := ((metadataGet item.snapshotMetadata "is_primary").map Json.truthy).getD false })
    []

/-- `ORDER BY updated_at DESC, id DESC`. -/
def newestFirst (a b : UUID × Story) : Bool :=
  b.2.updatedAt < a.2.updatedAt
    ∨ a.2.updatedAt = b.2.updatedAt ∧ b.2.id.int.toNat ≤ a.2.id.int.toNat

/-- The rows that `_story_associations` selects. -/
def associationRows (contentItemIds : List UUID) (includeHistorical : Bool) : List (UUID × Story) :=
  (db.snapshots.flatMap fun link =>
    ((db.stories.rows.filter fun story =>
      story.id = link.storyId ∧ (includeHistorical ∨ story.supersededById.isNone)).flatMap
        fun story =>
          match link.contentItemId with
          | some contentItemId =>
            if contentItemId ∈ contentItemIds then [(contentItemId, story)] else []
          | none => [])).mergeSort newestFirst

def firstRows : List (UUID × UUID) → List (UUID × Story) → List (UUID × Story)
  | _, [] => []
  | seen, row :: rows =>
    if (row.1, row.2.id) ∈ seen then
      firstRows seen rows
    else
      row :: firstRows ((row.1, row.2.id) :: seen) rows

/-- What `_story_associations` has for an article. -/
def storyAssociations (contentItemIds : List UUID) (includeHistorical : Bool)
    (contentItemId : UUID) : List (Story × CompletenessReport) :=
  ((firstRows [] (db.associationRows contentItemIds includeHistorical)).filter fun row =>
    row.1 = contentItemId).map fun row => (row.2, db.storySummary row.2)

end ArticleDb

structure ArticleStorySummary where
  id : UUID
  title : String
  editorialState : String
  complete : Bool
  score : Int

structure ArticleCoverage where
  state : CoverageState
  stories : List ArticleStorySummary

/-- `_coverage`. -/
def coverage (associations : List (Story × CompletenessReport)) : ArticleCoverage :=
  let active := associations.filter fun association => association.1.supersededById.isNone
  let stories : List ArticleStorySummary := active.map fun association =>
    { id := association.1.id
      title := association.1.title
      editorialState := association.1.status
      complete := association.2.complete
      score := association.2.score }
  { state :=
      if stories.any ArticleStorySummary.complete then .complete
      else if stories.isEmpty then .ungrouped
      else .incomplete
    stories := stories }

end NewsCraft.Articles
