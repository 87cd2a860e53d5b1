import NewsCraft.Articles.Coverage

/-!
# The three computations of coverage agree

Each of them asks two things of an article: whether an active story has it as evidence, and
whether one of these is complete. That they ask the same of a story is due to the columns
that were derived when its evidence was written, and to a space being the same in the
database as in Python.
-/

namespace NewsCraft.Articles

open Lib Redact Research List

variable {H : HostRules} {P : PythonText} {db : ArticleDb H P} {space : Char → Bool}

/-! ## What the database counts -/

theorem length_regexpReplaceRuns (inside : Bool) (text : Text) :
    (regexpReplaceRuns space [] inside text).length = text.countP fun c => !space c := by
  induction text generalizing inside with
  | nil => rfl
  | cons c text ih =>
    rw [regexpReplaceRuns]
    by_cases hc : space c = true
    · have hskip : (if inside then [] else ([] : Text)) = [] := by
        cases inside <;> rfl
      rw [if_pos hc, hskip, nil_append, ih, countP_cons_of_neg (by simp [hc])]
    · rw [if_neg hc, length_cons, ih, countP_cons_of_pos (by simp [hc])]

namespace ArticleDb

theorem identities_eq (storyId : UUID) :
    ((db.evidenceOf storyId).filterMap fun snapshot => snapshot.sourceIdentity)
      = ((db.evidenceOf storyId).map fun item =>
          ({ evidenceKey := item.evidenceKey
             contentText := item.contentText
             sourceUrl := item.sourceUrl
             sourceIdentity := metadataGet item.snapshotMetadata "source_label"
             isPrimary :=
              ((metadataGet item.snapshotMetadata "is_primary").map Json.truthy).getD false } :
            CompletenessEvidence)).filterMap (CompletenessEvidence.identity H P) := by
  rw [filterMap_map]
  refine filterMap_congr ?_
  intro snapshot _
  exact snapshot.identity_eq

/-- The criteria of the database hold of a story's row exactly when its summary is complete. -/
theorem criteria_iff_complete (hspace : ∀ c, space c = P.isSpace c) (story : Story) :
    completenessCriteria
        { storyId := story.id
          sourceCount :=
            ((db.evidenceOf story.id).filterMap fun snapshot =>
              snapshot.sourceIdentity).dedup.length
          bodyCharacterCount :=
            Relational.total ((db.evidenceOf story.id).map fun snapshot =>
              (regexpReplaceRuns space [] false snapshot.contentText).length)
          hasPrimary := (db.evidenceOf story.id).any fun snapshot => snapshot.isPrimary } = true
      ↔ (db.storySummary story).complete = true := by
  have hbody : ((db.evidenceOf story.id).map fun snapshot =>
      (regexpReplaceRuns space [] false snapshot.contentText).length)
        = (db.evidenceOf story.id).map fun snapshot =>
          snapshot.contentText.countP fun c => !P.isSpace c := by
    refine map_congr_left ?_
    intro snapshot _
    rw [length_regexpReplaceRuns]
    refine countP_congr ?_
    intro c _
    rw [hspace]
  have hprimary : (fun snapshot : StoryEvidenceSnapshot H P => snapshot.isPrimary)
      = fun snapshot =>
        ((metadataGet snapshot.snapshotMetadata "is_primary").map Json.truthy).getD false := by
    funext snapshot
    exact snapshot.primary_eq
  unfold storySummary evaluateCompleteness
  rw [missing_isEmpty, completenessCriteria, decide_eq_true_iff, identities_eq, hbody, hprimary,
    map_map, any_map]
  rfl

theorem storyCompleteness_any (hspace : ∀ c, space c = P.isSpace c) {story : Story}
    {link : StoryEvidenceSnapshot H P} (hlink : link ∈ db.snapshots)
    (hstory : story.id = link.storyId) :
    (∃ completeness ∈ db.storyCompleteness space, completeness.storyId = story.id
      ∧ completenessCriteria completeness = true) ↔ (db.storySummary story).complete = true := by
  rw [← criteria_iff_complete hspace story]
  constructor
  · rintro ⟨completeness, hmem, hid, hcriteria⟩
    obtain ⟨storyId, -, heq⟩ := mem_map.mp hmem
    have hsame : storyId = story.id := by
      rw [← hid, ← heq]
    rw [← heq, hsame] at hcriteria
    exact hcriteria
  · intro hcriteria
    refine ⟨_, mem_map.mpr ⟨story.id, ?_, rfl⟩, rfl, hcriteria⟩
    rw [mem_dedup, hstory]
    exact mem_map_of_mem hlink

/-! ## What each of them asks -/

/-- An active story has the article as evidence. -/
def Covers (db : ArticleDb H P) (contentItemId : UUID) (story : Story) : Prop :=
  story ∈ db.stories.rows ∧ story.supersededById.isNone = true
    ∧ ∃ link ∈ db.snapshots, story.id = link.storyId ∧ link.contentItemId = some contentItemId

theorem activeStoryExists_iff (item : ContentItem) :
    db.activeStoryExists item = true ↔ ∃ story, db.Covers item.id story := by
  simp only [activeStoryExists, any_eq_true, decide_eq_true_eq]
  constructor
  · rintro ⟨link, hlink, story, hstory, hid, hitem, hactive⟩
    exact ⟨story, hstory, hactive, link, hlink, hid, hitem⟩
  · rintro ⟨story, hstory, hactive, link, hlink, hid, hitem⟩
    exact ⟨link, hlink, story, hstory, hid, hitem, hactive⟩

theorem completeStoryExists_iff (hspace : ∀ c, space c = P.isSpace c) (item : ContentItem) :
    db.completeStoryExists space item = true
      ↔ ∃ story, db.Covers item.id story ∧ (db.storySummary story).complete = true := by
  simp only [completeStoryExists, any_eq_true, decide_eq_true_eq]
  constructor
  · rintro ⟨link, hlink, story, hstory, completeness, hmem, hid, hrow, hitem, hactive, hcriteria⟩
    refine ⟨story, ⟨hstory, hactive, link, hlink, hid, hitem⟩, ?_⟩
    exact (storyCompleteness_any hspace hlink hid).mp ⟨completeness, hmem, hrow, hcriteria⟩
  · rintro ⟨story, ⟨hstory, hactive, link, hlink, hid, hitem⟩, hcomplete⟩
    obtain ⟨completeness, hmem, hrow, hcriteria⟩ :=
      (storyCompleteness_any hspace hlink hid).mpr hcomplete
    exact ⟨link, hlink, story, hstory, completeness, hmem, hid, hrow, hitem, hactive, hcriteria⟩

variable {contentItemId : UUID}

theorem mem_activeStoryItems :
    some contentItemId ∈ db.activeStoryItems ↔ ∃ story, db.Covers contentItemId story := by
  simp only [activeStoryItems, mem_dedup, mem_flatMap, mem_map, mem_filter,
    decide_eq_true_eq]
  constructor
  · rintro ⟨link, hlink, story, ⟨hstory, hid, hactive⟩, hitem⟩
    exact ⟨story, hstory, hactive, link, hlink, hid, hitem⟩
  · rintro ⟨story, hstory, hactive, link, hlink, hid, hitem⟩
    exact ⟨link, hlink, story, ⟨hstory, hid, hactive⟩, hitem⟩

theorem mem_completeStoryItems (hspace : ∀ c, space c = P.isSpace c) :
    some contentItemId ∈ db.completeStoryItems space
      ↔ ∃ story, db.Covers contentItemId story ∧ (db.storySummary story).complete = true := by
  simp only [completeStoryItems, mem_dedup, mem_flatMap, mem_map, mem_filter,
    decide_eq_true_eq]
  constructor
  · rintro ⟨link, hlink, story, ⟨hstory, hid, hactive⟩, completeness, ⟨hmem, hrow⟩, hitem⟩
    refine ⟨story, ⟨hstory, hactive, link, hlink, hid, hitem⟩, ?_⟩
    exact (storyCompleteness_any hspace hlink hid).mp ⟨completeness, hmem, hrow⟩
  · rintro ⟨story, ⟨hstory, hactive, link, hlink, hid, hitem⟩, hcomplete⟩
    obtain ⟨completeness, hmem, hrow⟩ := (storyCompleteness_any hspace hlink hid).mpr hcomplete
    exact ⟨link, hlink, story, ⟨hstory, hid, hactive⟩, completeness, ⟨hmem, hrow⟩, hitem⟩

/-! ## The associations of a page -/

variable {row : UUID × Story}

theorem mem_of_mem_firstRows {seen : List (UUID × UUID)} {rows : List (UUID × Story)}
    (h : row ∈ firstRows seen rows) : row ∈ rows := by
  induction rows generalizing seen with
  | nil => exact h
  | cons first rows ih =>
    rw [firstRows] at h
    by_cases hseen : (first.1, first.2.id) ∈ seen
    · rw [if_pos hseen] at h
      exact mem_cons_of_mem _ (ih h)
    · rw [if_neg hseen] at h
      rcases mem_cons.mp h with heq | hmem
      · exact heq ▸ mem_cons_self
      · exact mem_cons_of_mem _ (ih hmem)

theorem firstRows_covers {seen : List (UUID × UUID)} {rows : List (UUID × Story)} (h : row ∈ rows)
    (hseen : (row.1, row.2.id) ∉ seen) :
    ∃ kept ∈ firstRows seen rows, kept.1 = row.1 ∧ kept.2.id = row.2.id := by
  induction rows generalizing seen with
  | nil => cases h
  | cons first rows ih =>
    rw [firstRows]
    by_cases hfirst : (first.1, first.2.id) = (row.1, row.2.id)
    · rw [if_neg (hfirst ▸ hseen)]
      rw [Prod.mk.injEq] at hfirst
      exact ⟨first, mem_cons_self, hfirst⟩
    · have hmem : row ∈ rows := by
        rcases mem_cons.mp h with heq | hmem
        · exact absurd (heq ▸ rfl) hfirst
        · exact hmem
      by_cases hskip : (first.1, first.2.id) ∈ seen
      · rw [if_pos hskip]
        exact ih hmem hseen
      · rw [if_neg hskip]
        have hnew : (row.1, row.2.id) ∉ (first.1, first.2.id) :: seen := by
          rw [mem_cons, not_or]
          exact ⟨Ne.symm hfirst, hseen⟩
        obtain ⟨kept, hkept, heq⟩ := ih hmem hnew
        exact ⟨kept, mem_cons_of_mem _ hkept, heq⟩

theorem mem_associationRows {contentItemIds : List UUID} {includeHistorical : Bool} :
    row ∈ db.associationRows contentItemIds includeHistorical
      ↔ row.1 ∈ contentItemIds ∧ row.2 ∈ db.stories.rows
        ∧ (includeHistorical = true ∨ row.2.supersededById.isNone = true)
        ∧ ∃ link ∈ db.snapshots, row.2.id = link.storyId ∧ link.contentItemId = some row.1 := by
  rw [associationRows, mem_mergeSort]
  simp only [mem_flatMap, mem_filter, decide_eq_true_eq]
  constructor
  · rintro ⟨link, hlink, story, ⟨hstory, hid, hstate⟩, hrow⟩
    cases hitem : link.contentItemId with
    | none =>
      rw [hitem] at hrow
      cases hrow
    | some contentItemId =>
      rw [hitem] at hrow
      dsimp only at hrow
      by_cases hmem : contentItemId ∈ contentItemIds
      · rw [if_pos hmem, mem_singleton] at hrow
        subst hrow
        exact ⟨hmem, hstory, hstate, link, hlink, hid, hitem⟩
      · rw [if_neg hmem] at hrow
        cases hrow
  · rintro ⟨hmem, hstory, hstate, link, hlink, hid, hitem⟩
    refine ⟨link, hlink, row.2, ⟨hstory, hid, hstate⟩, ?_⟩
    rw [hitem]
    dsimp only
    rw [if_pos hmem]
    exact mem_singleton_self _

theorem mem_storyAssociations {contentItemIds : List UUID} (includeHistorical : Bool)
    (hmem : contentItemId ∈ contentItemIds) {story : Story} {report : CompletenessReport} :
    (story, report) ∈ db.storyAssociations contentItemIds includeHistorical contentItemId
        ∧ story.supersededById.isNone = true
      ↔ db.Covers contentItemId story ∧ report = db.storySummary story := by
  simp only [storyAssociations, mem_map, mem_filter, decide_eq_true_eq, Prod.mk.injEq]
  constructor
  · rintro ⟨⟨row, ⟨hrow, hid⟩, hstory, hreport⟩, hactive⟩
    obtain ⟨-, hrows, -, hlink⟩ := mem_associationRows.mp (mem_of_mem_firstRows hrow)
    subst hid
    subst hstory
    exact ⟨⟨hrows, hactive, hlink⟩, hreport.symm⟩
  · rintro ⟨⟨hstory, hactive, hlink⟩, hreport⟩
    have hrow : (contentItemId, story) ∈ db.associationRows contentItemIds includeHistorical :=
      mem_associationRows.mpr ⟨hmem, hstory, .inr hactive, hlink⟩
    obtain ⟨kept, hkept, hid, hsame⟩ :=
      firstRows_covers hrow (not_mem_nil : ((contentItemId, story.id)) ∉ [])
    have hkeptStory := (mem_associationRows.mp (mem_of_mem_firstRows hkept)).2.1
    have heq : kept.2 = story := db.stories.row_unique hkeptStory hstory hsame
    exact ⟨⟨kept, ⟨hkept, hid⟩, heq, heq ▸ hreport.symm⟩, hactive⟩

end ArticleDb

/-! ## The states -/

/-- The state of an article by what is asked of its stories. -/
inductive Shows (complete active : Prop) : CoverageState → Prop
  | complete : complete → Shows complete active .complete
  | incomplete : ¬complete → active → Shows complete active .incomplete
  | ungrouped : ¬complete → ¬active → Shows complete active .ungrouped

theorem Shows.unique {complete active : Prop} {state state' : CoverageState}
    (h : Shows complete active state) (h' : Shows complete active state') : state = state' := by
  cases h with
  | complete hcomplete =>
    cases h' with
    | complete => rfl
    | incomplete hnot | ungrouped hnot => exact absurd hcomplete hnot
  | incomplete hnot hactive =>
    cases h' with
    | complete hcomplete => exact absurd hcomplete hnot
    | incomplete => rfl
    | ungrouped _ hnone => exact absurd hactive hnone
  | ungrouped hnot hnone =>
    cases h' with
    | complete hcomplete => exact absurd hcomplete hnot
    | incomplete _ hactive => exact absurd hactive hnone
    | ungrouped => rfl

theorem shows_ite {complete active : Bool} {Complete Active : Prop}
    (hcomplete : complete = true ↔ Complete) (hactive : active = true ↔ Active) :
    Shows Complete Active
      (if complete then .complete else if active then .incomplete else .ungrouped) := by
  by_cases hc : complete = true
  · rw [if_pos hc]
    exact .complete (hcomplete.mp hc)
  · rw [if_neg hc]
    have hnot : ¬Complete := fun h => hc (hcomplete.mpr h)
    by_cases ha : active = true
    · rw [if_pos ha]
      exact .incomplete hnot (hactive.mp ha)
    · rw [if_neg ha]
      exact .ungrouped hnot fun h => ha (hactive.mpr h)

theorem shows_coverage (associations : List (Story × CompletenessReport)) : Shows
      (∃ association ∈ associations,
        association.1.supersededById.isNone = true ∧ association.2.complete = true)
      (∃ association ∈ associations, association.1.supersededById.isNone = true)
      (coverage associations).state := by
  let summary : Story × CompletenessReport → ArticleStorySummary := fun association =>
    { id := association.1.id
      title := association.1.title
      editorialState := association.1.status
      complete := association.2.complete
      score := association.2.score }
  have hcomplete : ((associations.filter fun association =>
      association.1.supersededById.isNone).map summary).any ArticleStorySummary.complete
        = true ↔ ∃ association ∈ associations,
          association.1.supersededById.isNone = true ∧ association.2.complete = true := by
    rw [any_map, any_eq_true]
    constructor
    · rintro ⟨association, hmem, hdone⟩
      obtain ⟨hmem, hactive⟩ := mem_filter.mp hmem
      exact ⟨association, hmem, hactive, hdone⟩
    · rintro ⟨association, hmem, hactive, hdone⟩
      exact ⟨association, mem_filter.mpr ⟨hmem, hactive⟩, hdone⟩
  have hactive : (!((associations.filter fun association =>
      association.1.supersededById.isNone).map summary).isEmpty) = true
        ↔ ∃ association ∈ associations, association.1.supersededById.isNone = true := by
    rw [isEmpty_map, Bool.not_eq_true', isEmpty_eq_false_iff_exists_mem]
    constructor
    · rintro ⟨association, hmem⟩
      exact ⟨association, mem_filter.mp hmem⟩
    · rintro ⟨association, hmem⟩
      exact ⟨association, mem_filter.mpr hmem⟩
  have hshows := shows_ite hcomplete hactive
  have hswap : ∀ empty : Bool, (if (!empty) = true then CoverageState.incomplete else .ungrouped)
      = if empty = true then .ungrouped else .incomplete := by
    intro empty
    cases empty <;> rfl
  rw [hswap] at hshows
  exact hshows

namespace ArticleDb

theorem shows_expression (hspace : ∀ c, space c = P.isSpace c) (item : ContentItem) :
    Shows (∃ story, db.Covers item.id story ∧ (db.storySummary story).complete = true)
      (∃ story, db.Covers item.id story) (db.coverageStateExpression space item) :=
  shows_ite (db.completeStoryExists_iff hspace item) (db.activeStoryExists_iff item)

theorem summary_state (hspace : ∀ c, space c = P.isSpace c) (item : ContentItem)
    {contentItemIds : List UUID} (includeHistorical : Bool) (hmem : item.id ∈ contentItemIds) :
    (coverage (db.storyAssociations contentItemIds includeHistorical item.id)).state
      = db.coverageStateExpression space item := by
  have hcomplete : (∃ association ∈ db.storyAssociations contentItemIds includeHistorical item.id,
      association.1.supersededById.isNone = true ∧ association.2.complete = true)
        ↔ ∃ story, db.Covers item.id story ∧ (db.storySummary story).complete = true := by
    constructor
    · rintro ⟨⟨story, report⟩, hassociation, hactive, hdone⟩
      obtain ⟨hcovers, hreport⟩ := (mem_storyAssociations includeHistorical hmem).mp ⟨hassociation, hactive⟩
      exact ⟨story, hcovers, hreport ▸ hdone⟩
    · rintro ⟨story, hcovers, hdone⟩
      obtain ⟨hassociation, hactive⟩ :=
        (mem_storyAssociations includeHistorical hmem).mpr ⟨hcovers, rfl⟩
      exact ⟨_, hassociation, hactive, hdone⟩
  have hactive : (∃ association ∈ db.storyAssociations contentItemIds includeHistorical item.id,
      association.1.supersededById.isNone = true) ↔ ∃ story, db.Covers item.id story := by
    constructor
    · rintro ⟨⟨story, report⟩, hassociation, hactive⟩
      exact ⟨story, ((mem_storyAssociations includeHistorical hmem).mp ⟨hassociation, hactive⟩).1⟩
    · rintro ⟨story, hcovers⟩
      obtain ⟨hassociation, hactive⟩ :=
        (mem_storyAssociations includeHistorical hmem).mpr ⟨hcovers, rfl⟩
      exact ⟨_, hassociation, hactive⟩
  have hshows := shows_coverage (db.storyAssociations contentItemIds includeHistorical item.id)
  rw [hcomplete, hactive] at hshows
  exact hshows.unique (shows_expression hspace item)

theorem facetRows_eq (hspace : ∀ c, space c = P.isSpace c) :
    db.facetRows space = db.feed.map fun item => (item, db.coverageStateExpression space item) := by
  have hactiveNodup : db.activeStoryItems.Nodup := nodup_dedup _
  have hcompleteNodup : (db.completeStoryItems space).Nodup := nodup_dedup _
  unfold facetRows
  dsimp only
  rw [Relational.leftJoin_of_nodup hactiveNodup (fun item : ContentItem => some item.id),
    Relational.leftJoin_of_nodup hcompleteNodup
      (fun row : ContentItem × Option (Option UUID) => some row.1.id),
    map_map, filter_map, map_map]
  refine map_congr_left ?_
  intro item _
  refine Prod.ext rfl ?_
  refine (shows_ite ?_ ?_).unique (shows_expression hspace item)
  · rw [← mem_completeStoryItems hspace]
    by_cases hmem : some item.id ∈ db.completeStoryItems space <;> simp [hmem]
  · rw [← mem_activeStoryItems]
    by_cases hmem : some item.id ∈ db.activeStoryItems <;> simp [hmem]

/-- **Coverage agrees everywhere**: the state of an article of the feed is the same as a filter,
in its own summary and as a facet, and the facet's counts add up to the feed. -/
theorem coverage_agrees (db : ArticleDb H P) (hspace : ∀ c, space c = P.isSpace c) :
    (∀ item ∈ db.feed, ∀ contentItemIds includeHistorical, item.id ∈ contentItemIds →
        (coverage (db.storyAssociations contentItemIds includeHistorical item.id)).state
          = db.coverageStateExpression space item) ∧ db.facetRows space
        = db.feed.map (fun item => (item, db.coverageStateExpression space item))
      ∧ (∀ state count, (state, count) ∈ db.coverageFacet space →
        count = (db.feed.map (db.coverageStateExpression space)).count state)
      ∧ Relational.total ((db.coverageFacet space).map Prod.snd) = db.feed.length := by
  have hrows := db.facetRows_eq hspace
  refine ⟨?_, hrows, ?_, ?_⟩
  · intro item _ contentItemIds includeHistorical hmem
    exact summary_state hspace item includeHistorical hmem
  · intro state count hcount
    rw [Relational.count_of_mem_groupCount hcount, hrows, map_map]
    rfl
  · rw [coverageFacet, Relational.total_groupCount, hrows, length_map, length_map]

/-! ## A feed -/

/-- What the libraries make of hosts in ASCII under a suffix of one label. -/
def sampleRules : HostRules where
  hostname url := some ((url.toList.drop 8).takeWhile (· ≠ '/'))
  lower host := host.map Char.toLower
  ipAddress _ := none
  idnaEncode host := some host
  topDomain host :=
    let labels := host.splitOn '.'
    (labels.drop (labels.length - 2)).intersperse ['.'] |>.flatten

def sampleStory : Story := ⟨1, "", "inbox", none, 0⟩

def sampleSnapshot (id : UUID) (sourceUrl : String) (snapshotMetadata : Json) :
    StoryEvidenceSnapshot sampleRules PythonText.ascii :=
  SnapshotParameters.written sampleRules PythonText.ascii
    ⟨id, 1, some 11, "", List.replicate 400 'x', some sourceUrl, snapshotMetadata⟩

/-- An article with a story from two sources, and one without. -/
def sampleFeed : ArticleDb sampleRules PythonText.ascii where
  contentItems := (Table.empty.insert ⟨11, none⟩).insert ⟨12, none⟩
  stories := Table.empty.insert sampleStory
  snapshots :=
    [sampleSnapshot 21 "https://a.org/1" (.obj [("is_primary", .bool true)]),
      sampleSnapshot 22 "https://b.org/2" .null]

theorem sampleFeed_agrees :
    sampleFeed.coverageFacet PythonText.ascii.isSpace = [(.ungrouped, 1), (.complete, 1)]
      ∧ Relational.total ((sampleFeed.coverageFacet PythonText.ascii.isSpace).map Prod.snd)
        = sampleFeed.feed.length :=
  ⟨by decide +kernel, (sampleFeed.coverage_agrees fun _ => rfl).2.2.2⟩

end ArticleDb

end NewsCraft.Articles
