import NewsCraft.Generation.Checkpoint

/-!
# Which checkpoints are read back

The revision of a first pass is found again exactly when what was stored reads back: the
artifact names the rows, and the output without it comes to the material of the revision.
That is decided when the revision is committed, and nothing afterwards changes it.
-/

namespace NewsCraft.Generation.Checkpoint

open Lib Redact Table Option List

variable {α : Type} {S : PlatformStage α}

/-! ## Gates -/

theorem revisionGatesFromIssues_spec (issues : List ValidationIssue) :
    (revisionGatesFromIssues issues).isEmpty = false
      ∧ ((revisionGatesFromIssues issues).any fun gate => !gate.ok)
        = issues.any ValidationIssue.isError := by
  unfold revisionGatesFromIssues
  cases issues with
  | nil => exact ⟨rfl, rfl⟩
  | cons issue rest =>
    rw [if_neg (by simp)]
    refine ⟨rfl, ?_⟩
    rw [List.any_map]
    congr 1
    funext found
    exact Bool.not_not _

theorem expectedMaterial_gates {authored : α} {parent : Option PlatformVariantRevision}
    {material : Material} {hasErrors : Bool}
    (h : expectedMaterial S authored parent = some (material, hasErrors)) :
    material.validationResults.isEmpty = false
      ∧ (material.validationResults.any fun gate => !gate.ok) = hasErrors := by
  unfold expectedMaterial at h
  split_ifs at h
  · unfold assembleTelegramRevision at h
    obtain ⟨content, -, hissues⟩ := bind_eq_some_iff.mp h
    obtain ⟨issues, -, heq⟩ := map_eq_some_iff.mp hissues
    cases heq
    exact revisionGatesFromIssues_spec issues
  · unfold revisionMaterial at h
    cases h
    exact revisionGatesFromIssues_spec _

theorem expectedMaterial_congr {authored : α} {parent other : Option PlatformVariantRevision}
    (h : S.platform = .telegram →
      parent.map PlatformVariantRevision.content = other.map PlatformVariantRevision.content) :
    expectedMaterial S authored parent = expectedMaterial S authored other := by
  unfold expectedMaterial
  split_ifs with htelegram
  · unfold assembleTelegramRevision
    rw [h htelegram]
  · rfl

/-! ## The rows of a revision -/

/-- The revision is there with its pack, its variant and its parent, and is the only one of its
attempt. -/
structure Committed (S : PlatformStage α) (tables : PackTables) (packId : UUID)
    (revision : PlatformVariantRevision) (parent : Option PlatformVariantRevision) : Prop where
  packRow : ∃ pack, tables.packs.lookup packId = some pack
    ∧ pack.storyRevisionId = S.storyRevisionId ∧ pack.brandProfileId = S.brandProfileId
  variantRow : ∃ variant, tables.variants.lookup revision.platformVariantId = some variant
    ∧ variant.contentPackId = packId ∧ variant.platform = S.platform
  revisionRow : ∃ state, tables.revisions.lookup revision.id
    = some { revision with approvalState := state }
  parentRow : ∀ row, parent = some row → ∃ state, tables.revisions.lookup row.id
    = some { row with approvalState := state }
  only : ∀ row ∈ tables.revisions.rows, row.generationAttemptId = revision.generationAttemptId →
    row.id = revision.id

structure StageRevision (S : PlatformStage α) (attemptId : UUID)
    (revision : PlatformVariantRevision) (parent : Option PlatformVariantRevision)
    (hasErrors : Bool) : Prop where
  attempt : revision.generationAttemptId = some attemptId
  hash : revision.contentHash = contentHash S revision.content revision.evidenceMap
  parentId : revision.parentRevisionId = parent.map PlatformVariantRevision.id
  parentVariant : ∀ row, parent = some row → row.platformVariantId = revision.platformVariantId
  base : ∀ regeneration, S.regeneration = some regeneration → ∃ row, parent = some row
    ∧ row.id = regeneration.baseRevisionId ∧ row.contentHash = regeneration.baseContentHash
  gates : revision.validationResults.isEmpty = false
  errors : (revision.validationResults.any fun gate => !gate.ok) = hasErrors

theorem Committed.keeps {before after : PackTables} {packId : UUID}
    {revision : PlatformVariantRevision} {parent : Option PlatformVariantRevision}
    {attemptId : UUID} (h : Committed S before packId revision parent)
    (hattempt : revision.generationAttemptId = some attemptId)
    (hkeeps : StageWorld.KeepsRows (some attemptId) before after) :
    Committed S after packId revision parent := by
  obtain ⟨pack, hpack, hstory⟩ := h.packRow
  obtain ⟨variant, hvariant, hof⟩ := h.variantRow
  obtain ⟨state, hrevision⟩ := h.revisionRow
  obtain ⟨later, hlater⟩ := hkeeps.revisions _ _ hrevision
  refine ⟨⟨pack, hkeeps.packs _ pack hpack, hstory⟩,
    ⟨variant, hkeeps.variants _ variant hvariant, hof⟩, ⟨later, hlater⟩, ?_, ?_⟩
  · intro row hrow
    obtain ⟨state', hlookup⟩ := h.parentRow row hrow
    obtain ⟨state'', hkept⟩ := hkeeps.revisions _ _ hlookup
    exact ⟨state'', hkept⟩
  · intro row hmem hown
    -- A row of the attempt was there before, in what state whatever.
    rw [hattempt] at hown
    have hthere := hkeeps.added row hmem (by rw [hown]; rfl) hown
    obtain ⟨old, hold⟩ := isSome_iff_exists.mp hthere
    obtain ⟨state', hafter⟩ := hkeeps.revisions _ old hold
    have hlookup := lookup_of_mem hmem
    have hkey : Keyed.key row = row.id := rfl
    rw [hkey, hafter] at hlookup
    have hsame : { old with approvalState := state' } = row := Option.some.inj hlookup
    have holdAttempt : old.generationAttemptId = revision.generationAttemptId := by
      rw [hattempt, ← hown, ← hsame]
    have hid := h.only old (mem_of_lookup hold) holdAttempt
    rw [← hid, ← hsame]

/-! ## The first pass -/

theorem draftPack_spec {tables : PackTables} {packId : UUID}
    (hfree : tables.packs.lookup packId = none) :
    (tables.draftPack S packId).1.variants = tables.variants
      ∧ (tables.draftPack S packId).1.revisions = tables.revisions
      ∧ (tables.draftPack S packId).1.packs.lookup (tables.draftPack S packId).2.id
        = some (tables.draftPack S packId).2
      ∧ (tables.draftPack S packId).2.storyRevisionId = S.storyRevisionId
      ∧ (tables.draftPack S packId).2.brandProfileId = S.brandProfileId := by
  unfold PackTables.draftPack
  cases hfound : tables.packs.rows.find? fun pack =>
      pack.storyRevisionId = S.storyRevisionId ∧ pack.brandProfileId = S.brandProfileId with
  | some pack =>
    have hof := find?_some hfound
    rw [decide_eq_true_iff] at hof
    exact ⟨rfl, rfl, lookup_of_mem (mem_of_find?_eq_some hfound), hof.1, hof.2⟩
  | none =>
    have hinsert := lookup_insert
      (r := (⟨packId, S.storyRevisionId, S.brandProfileId⟩ : ContentPack)) hfree
    exact ⟨rfl, rfl, hinsert.1, rfl, rfl⟩

theorem platformVariant_spec {tables : PackTables} {variantId : UUID} (packId : UUID)
    (hfree : tables.variants.lookup variantId = none) :
    (tables.platformVariant S packId variantId).1.packs = tables.packs
      ∧ (tables.platformVariant S packId variantId).1.revisions = tables.revisions
      ∧ (tables.platformVariant S packId variantId).1.variants.lookup
          (tables.platformVariant S packId variantId).2.id
        = some (tables.platformVariant S packId variantId).2
      ∧ (tables.platformVariant S packId variantId).2.contentPackId = packId
      ∧ (tables.platformVariant S packId variantId).2.platform = S.platform := by
  unfold PackTables.platformVariant
  cases hfound : tables.variants.rows.find? fun variant =>
      variant.contentPackId = packId ∧ variant.platform = S.platform with
  | some variant =>
    have hof := find?_some hfound
    rw [decide_eq_true_iff] at hof
    exact ⟨rfl, rfl, lookup_of_mem (mem_of_find?_eq_some hfound), hof.1, hof.2⟩
  | none =>
    have hinsert := lookup_insert
      (r := (⟨variantId, packId, S.platform⟩ : PlatformVariant)) hfree
    exact ⟨rfl, rfl, hinsert.1, rfl, rfl⟩

theorem revisionParent_ok {tables : PackTables} {variantId attemptId : UUID}
    {parent : Option PlatformVariantRevision}
    (h : tables.revisionParent variantId attemptId = .ok parent) : parent = tables.current variantId
      ∧ (∀ row ∈ tables.revisions.rows, row.generationAttemptId ≠ some attemptId)
      ∧ ∀ row, parent = some row → tables.revisions.lookup row.id = some row
        ∧ row.platformVariantId = variantId := by
  unfold PackTables.revisionParent at h
  split_ifs at h with hany
  cases h
  refine ⟨rfl, ?_, ?_⟩
  · intro row hmem hown
    exact hany (any_eq_true.mpr ⟨row, hmem, by simpa using hown⟩)
  · intro row hrow
    have hmem := argmax_mem (mem_def.mpr hrow)
    obtain ⟨hrows, hof⟩ := mem_filter.mp hmem
    exact ⟨lookup_of_mem hrows, by simpa using hof⟩

theorem requireVariantWrite_ok {variantId : UUID} {parent : Option PlatformVariantRevision}
    (h : requireVariantWrite S variantId parent = .ok ()) :
    ∀ regeneration, S.regeneration = some regeneration → ∃ row, parent = some row
      ∧ row.id = regeneration.baseRevisionId ∧ row.contentHash = regeneration.baseContentHash := by
  intro regeneration hregeneration
  unfold requireVariantWrite at h
  rw [hregeneration] at h
  dsimp only at h
  split_ifs at h with hbase
  obtain ⟨-, hany⟩ := hbase
  cases parent with
  | none => cases hany
  | some row => exact ⟨row, rfl, by simpa using hany⟩

theorem materializeRevision_ok {authored : α} {parent : Option PlatformVariantRevision}
    {material : Material} {hasErrors : Bool}
    (h : materializeRevision S authored parent = .ok (material, hasErrors)) :
    expectedMaterial S authored parent = some (material, hasErrors) := by
  unfold materializeRevision at h
  split_ifs at h
  cases hexpected : expectedMaterial S authored parent with
  | none =>
    rw [hexpected] at h
    cases h
  | some found =>
    rw [hexpected] at h
    cases h
    rfl

theorem persistNewArtifact_of_attempt {tables : PackTables} {authored : α} {attemptId : UUID}
    {row : PlatformVariantRevision} (packId variantId revisionId : UUID)
    (hmem : row ∈ tables.revisions.rows) (hown : row.generationAttemptId = some attemptId) :
    persistNewArtifact S tables authored attemptId packId variantId revisionId
      = .error .checkpointInvalid := by
  have hdrafted : (tables.draftPack S packId).1.revisions = tables.revisions := by
    unfold PackTables.draftPack
    dsimp only
    split <;> rfl
  have hwritten : ∀ drafted : PackTables, ∀ id,
      (drafted.platformVariant S id variantId).1.revisions = drafted.revisions := by
    intro drafted id
    unfold PackTables.platformVariant
    dsimp only
    split <;> rfl
  unfold persistNewArtifact
  dsimp only
  unfold PackTables.revisionParent
  rw [hwritten, hdrafted, if_pos]
  exact any_eq_true.mpr ⟨row, hmem, by simpa using hown⟩

/-- The pack and the variant a stage writes to, with the tables that have them. -/
def PackTables.written (tables : PackTables) (S : PlatformStage α) (packId variantId : UUID) :
    PackTables × PlatformVariant :=
  (tables.draftPack S packId).1.platformVariant S (tables.draftPack S packId).2.id variantId

structure WrittenOn (S : PlatformStage α) (tables : PackTables)
    (packId variantId revisionId : UUID) (authored : α) (result : Persisted)
    (parent : Option PlatformVariantRevision) : Prop where
  pack : result.packId = (tables.draftPack S packId).2.id
  variant : result.revision.platformVariantId = (tables.written S packId variantId).2.id
  revision : result.revision.id = revisionId
  parentRow : parent
    = (tables.written S packId variantId).1.current (tables.written S packId variantId).2.id
  material : expectedMaterial S authored parent = some (⟨result.revision.content,
    result.revision.evidenceMap, result.revision.validationResults⟩, result.hasErrors)

/-- **What a first pass commits.** -/
theorem persistNewArtifact_spec {tables : PackTables} {authored : α}
    {attemptId packId variantId revisionId : UUID} {result : Persisted}
    (h : persistNewArtifact S tables authored attemptId packId variantId revisionId = .ok result)
    (hpack : tables.packs.lookup packId = none) (hvariant : tables.variants.lookup variantId = none)
    (hrevision : tables.revisions.lookup revisionId = none) :
    ∃ parent, Committed S result.tables result.packId result.revision parent
      ∧ StageRevision S attemptId result.revision parent result.hasErrors
      ∧ WrittenOn S tables packId variantId revisionId authored result parent := by
  obtain ⟨hdraftVariants, hdraftRevisions, hdraftPack, hstory, hbrand⟩ :=
    draftPack_spec (S := S) hpack
  unfold persistNewArtifact at h
  dsimp only at h
  obtain ⟨drafted, hdrafted⟩ : ∃ drafted, drafted = tables.draftPack S packId := ⟨_, rfl⟩
  rw [← hdrafted] at h hdraftVariants hdraftRevisions hdraftPack hstory hbrand
  have hvariant' : drafted.1.variants.lookup variantId = none := by
    rw [hdraftVariants]
    exact hvariant
  obtain ⟨hpacks, hrevisions, hwritten, hof, hplatform⟩ :=
    platformVariant_spec (S := S) drafted.2.id hvariant'
  obtain ⟨written, hwrote⟩ : ∃ written,
      written = drafted.1.platformVariant S drafted.2.id variantId := ⟨_, rfl⟩
  rw [← hwrote] at h hpacks hrevisions hwritten hof hplatform
  have hwhere : tables.written S packId variantId = written := by
    rw [hwrote, hdrafted]
    rfl
  cases hparent : written.1.revisionParent written.2.id attemptId with
  | error stop =>
    rw [hparent] at h
    cases h
  | ok parent =>
    rw [hparent] at h
    dsimp only at h
    obtain ⟨hcurrent, hnone, hparentRow⟩ := revisionParent_ok hparent
    cases hwrite : requireVariantWrite S written.2.id parent with
    | error stop =>
      rw [hwrite] at h
      cases h
    | ok done =>
      rw [hwrite] at h
      have hbase := requireVariantWrite_ok hwrite
      cases hmaterial : materializeRevision S authored parent with
      | error stop =>
        rw [hmaterial] at h
        cases h
      | ok found =>
        obtain ⟨material, hasErrors⟩ := found
        rw [hmaterial] at h
        cases h
        obtain ⟨hgates, herrors⟩ :=
          expectedMaterial_gates (materializeRevision_ok hmaterial)
        have hfree : written.1.revisions.lookup revisionId = none := by
          rw [hrevisions, hdraftRevisions]
          exact hrevision
        let revision := newRevision S written.2.id revisionId attemptId parent material
        have hinsert := lookup_insert (r := revision) hfree
        refine ⟨parent, ⟨⟨drafted.2, ?_, hstory, hbrand⟩, ⟨written.2, hwritten, hof,
          hplatform⟩, ⟨.pendingReview, hinsert.1⟩, ?_, ?_⟩, ⟨rfl, rfl, rfl, ?_, hbase,
          hgates, herrors⟩, ⟨by rw [← hdrafted], by rw [hwhere]; rfl, rfl,
          by rw [hwhere]; exact hcurrent, materializeRevision_ok hmaterial⟩⟩
        · rw [hpacks]
          exact hdraftPack
        · intro row hrow
          exact ⟨row.approvalState, lookup_insert_of_some (hparentRow row hrow).1⟩
        · intro row hmem hown
          rcases mem_insert hmem with heq | hold
          · rw [heq]
          · exact absurd hown (hnone row hold)
        · intro row hrow
          exact (hparentRow row hrow).2

/-! ## What reads back -/

/-- What was stored names the rows of the revision and reads back to its material. -/
structure ReadsBack (S : PlatformStage α) (tables : PackTables) (packId : UUID)
    (revision : PlatformVariantRevision) (stored : List (String × Json)) : Prop where
  artifact : ∃ artifact, durableArtifact stored = .ok (some artifact)
    ∧ checkpointId artifact "content_pack_id" = some packId
    ∧ artifactText artifact "variant_id" = some (uuidStr revision.platformVariantId)
    ∧ artifactText artifact "revision_id" = some (uuidStr revision.id)
    ∧ (Json.obj artifact).get? "platform" = some (.str (platformName S.platform))
  output : ∃ authored, S.validateOutput (readBack stored) = .ok authored
    ∧ (∃ hasErrors, expectedMaterial S authored
        (revision.parentRevisionId.bind tables.revisions.lookup)
      = some (⟨revision.content, revision.evidenceMap, revision.validationResults⟩, hasErrors))
    ∧ S.validateCitations authored revision.evidenceMap = true
    ∧ (S.platform ≠ .telegram → S.validatePayloadMediaAssignments authored = true)

section Reading

variable {tables : PackTables} {packId attemptId : UUID} {revision : PlatformVariantRevision}
  {parent : Option PlatformVariantRevision} {hasErrors : Bool} {authored : α}
  {artifact : List (String × Json)}

theorem checkpointParent_committed (hrows : Committed S tables packId revision parent)
    (hrevision : StageRevision S attemptId revision parent hasErrors)
    (state : VariantApprovalState) :
    ∃ found, checkpointParent S tables { revision with approvalState := state } = .ok found
      ∧ (S.platform = .telegram → found.map PlatformVariantRevision.content
        = parent.map PlatformVariantRevision.content) := by
  have hlookup : ∀ row, parent = some row → ∃ state', revision.parentRevisionId.bind
      tables.revisions.lookup = some { row with approvalState := state' } := by
    intro row hrow
    obtain ⟨state', hfound⟩ := hrows.parentRow row hrow
    refine ⟨state', ?_⟩
    rw [hrevision.parentId, hrow]
    exact hfound
  unfold checkpointParent
  by_cases hplain : S.platform ≠ .telegram ∧ S.regeneration = none
  · rw [if_pos hplain]
    exact ⟨none, rfl, fun htelegram => absurd htelegram hplain.1⟩
  rw [if_neg hplain]
  cases hparent : parent with
  | none =>
    have hnone : revision.parentRevisionId = none := by
      rw [hrevision.parentId, hparent]
      rfl
    have hregeneration : S.regeneration = none := by
      cases hcase : S.regeneration with
      | none => rfl
      | some regeneration =>
        obtain ⟨row, hrow, -⟩ := hrevision.base regeneration hcase
        rw [hparent] at hrow
        cases hrow
    rw [hnone, hregeneration, if_neg (by simp), if_neg (by simp)]
    exact ⟨none, rfl, fun _ => rfl⟩
  | some row =>
    obtain ⟨state', hfound⟩ := hlookup row hparent
    have hid : revision.parentRevisionId = some row.id := by
      rw [hrevision.parentId, hparent]
      rfl
    have hvariant := hrevision.parentVariant row hparent
    rw [hfound, if_neg, if_neg]
    · exact ⟨_, rfl, fun _ => rfl⟩
    · intro hbad
      cases hcase : S.regeneration with
      | none =>
        rw [hcase] at hbad
        cases hbad
      | some regeneration =>
        obtain ⟨base, hbase, hbaseId, hbaseHash⟩ := hrevision.base regeneration hcase
        rw [hparent] at hbase
        cases hbase
        rw [hcase] at hbad
        simp [hid, hbaseId, hbaseHash] at hbad
    · intro hbad
      simp [hvariant] at hbad

theorem artifactRequiresReview_committed (hrows : Committed S tables packId revision parent)
    (hrevision : StageRevision S attemptId revision parent hasErrors)
    (hpack : checkpointId artifact "content_pack_id" = some packId)
    (hvariant : artifactText artifact "variant_id" = some (uuidStr revision.platformVariantId))
    (hid : artifactText artifact "revision_id" = some (uuidStr revision.id))
    (hplatform : (Json.obj artifact).get? "platform" = some (.str (platformName S.platform)))
    (hmaterial : ∃ errors, expectedMaterial S authored parent
      = some (⟨revision.content, revision.evidenceMap, revision.validationResults⟩, errors))
    (hcitations : S.validateCitations authored revision.evidenceMap = true)
    (hmedia : S.platform ≠ .telegram → S.validatePayloadMediaAssignments authored = true) :
    artifactRequiresReview S tables attemptId authored artifact = .ok hasErrors := by
  obtain ⟨pack, hpackRow, hstory, hbrand⟩ := hrows.packRow
  obtain ⟨variant, hvariantRow, hvariantPack, hvariantPlatform⟩ := hrows.variantRow
  obtain ⟨state, hrevisionRow⟩ := hrows.revisionRow
  have hvariantId : checkpointId artifact "variant_id" = some revision.platformVariantId := by
    unfold checkpointId
    rw [hvariant, bind_some, parseUuid_uuidStr]
  have hrevisionId : checkpointId artifact "revision_id" = some revision.id := by
    unfold checkpointId
    rw [hid, bind_some, parseUuid_uuidStr]
  have hcheckpoint : checkpointRows tables artifact
      = some (pack, variant, { revision with approvalState := state }) := by
    unfold checkpointRows
    rw [hpack, hvariantId, hrevisionId]
    dsimp only
    rw [hpackRow, hvariantRow, hrevisionRow]
  obtain ⟨found, hparent, hcontent⟩ := checkpointParent_committed hrows hrevision state
  obtain ⟨errors, hexpected⟩ := hmaterial
  unfold artifactRequiresReview
  rw [hcheckpoint]
  dsimp only
  rw [hparent]
  dsimp only
  rw [expectedMaterial_congr hcontent, hexpected]
  dsimp only
  have hkey : pack.id = packId := key_of_lookup hpackRow
  have hvariantKey : variant.id = revision.platformVariantId := key_of_lookup hvariantRow
  rw [if_pos]
  · unfold requireCheckpointSources
    rw [if_neg (by rw [hrevision.gates]; exact Bool.false_ne_true),
      if_neg (by rw [hcitations]; exact Bool.noConfusion), if_neg]
    · exact congrArg Except.ok hrevision.errors
    intro hbad
    rw [hmedia hbad.1] at hbad
    exact Bool.noConfusion hbad.2
  · unfold checkpointLinked
    rw [decide_eq_true_iff]
    exact ⟨hplatform, hvariantPlatform, hvariantKey.symm, hvariantPack.trans hkey.symm, hstory,
      hbrand, hrevision.attempt, rfl, rfl, rfl, hrevision.hash⟩

theorem checkpointRows_some {pack : ContentPack} {variant : PlatformVariant}
    {row : PlatformVariantRevision}
    (h : checkpointRows tables artifact = some (pack, variant, row)) :
    checkpointId artifact "content_pack_id" = some pack.id
      ∧ checkpointId artifact "variant_id" = some variant.id
      ∧ checkpointId artifact "revision_id" = some row.id
      ∧ tables.packs.lookup pack.id = some pack
      ∧ tables.variants.lookup variant.id = some variant
      ∧ tables.revisions.lookup row.id = some row := by
  unfold checkpointRows at h
  split at h
  · next packId variantId revisionId hpackId hvariantId hrevisionId =>
      split at h
      · next foundPack foundVariant foundRow hpack hvariant hrow =>
          cases h
          have hpackKey : pack.id = packId := key_of_lookup hpack
          have hvariantKey : variant.id = variantId := key_of_lookup hvariant
          have hrowKey : row.id = revisionId := key_of_lookup hrow
          rw [hpackKey, hvariantKey, hrowKey]
          exact ⟨hpackId, hvariantId, hrevisionId, hpack, hvariant, hrow⟩
      · cases h
  · cases h

theorem artifactText_of_checkpointId {name : String} {id : UUID}
    (h : checkpointId artifact name = some id) :
    artifactText artifact name = some ((artifactText artifact name).getD "") := by
  obtain ⟨text, htext, -⟩ := bind_eq_some_iff.mp h
  rw [htext]
  rfl

theorem checkpointParent_telegram {row : PlatformVariantRevision}
    {found : Option PlatformVariantRevision} (htelegram : S.platform = .telegram)
    (h : checkpointParent S tables row = .ok found) :
    found = row.parentRevisionId.bind tables.revisions.lookup := by
  unfold checkpointParent at h
  dsimp only at h
  rw [if_neg (fun hplain => hplain.1 htelegram)] at h
  split_ifs at h
  cases h
  rfl

theorem readsBack_of_review {errors : Bool} (hrows : Committed S tables packId revision parent)
    (h : artifactRequiresReview S tables attemptId authored artifact = .ok errors)
    (hvariant : (artifactText artifact "variant_id").getD "" = uuidStr revision.platformVariantId)
    (hid : (artifactText artifact "revision_id").getD "" = uuidStr revision.id) :
    checkpointId artifact "content_pack_id" = some packId
      ∧ artifactText artifact "variant_id" = some (uuidStr revision.platformVariantId)
      ∧ artifactText artifact "revision_id" = some (uuidStr revision.id)
      ∧ (Json.obj artifact).get? "platform" = some (.str (platformName S.platform))
      ∧ (∃ hasErrors, expectedMaterial S authored
          (revision.parentRevisionId.bind tables.revisions.lookup)
        = some (⟨revision.content, revision.evidenceMap, revision.validationResults⟩, hasErrors))
      ∧ S.validateCitations authored revision.evidenceMap = true
      ∧ (S.platform ≠ .telegram → S.validatePayloadMediaAssignments authored = true) := by
  unfold artifactRequiresReview at h
  cases hcheckpoint : checkpointRows tables artifact with
  | none =>
    rw [hcheckpoint] at h
    cases h
  | some found =>
    obtain ⟨pack, variant, row⟩ := found
    rw [hcheckpoint] at h
    dsimp only at h
    obtain ⟨hpackId, hvariantId, hrowId, -, hvariantRow, hrow⟩ :=
      checkpointRows_some hcheckpoint
    have hvariantText := artifactText_of_checkpointId hvariantId
    have hrowText := artifactText_of_checkpointId hrowId
    rw [hvariant] at hvariantText
    rw [hid] at hrowText
    -- The texts name the revision, so it is the row that was found.
    have hsameRow : row.id = revision.id := by
      unfold checkpointId at hrowId
      rw [hrowText, bind_some, parseUuid_uuidStr] at hrowId
      exact (Option.some.inj hrowId).symm
    obtain ⟨state, hrevisionRow⟩ := hrows.revisionRow
    rw [hsameRow, hrevisionRow] at hrow
    cases hrow
    cases hparent : checkpointParent S tables { revision with approvalState := state } with
    | error stop =>
      rw [hparent] at h
      cases h
    | ok foundParent =>
      rw [hparent] at h
      dsimp only at h
      cases hexpected : expectedMaterial S authored foundParent with
      | none =>
        rw [hexpected] at h
        cases h
      | some expected =>
        obtain ⟨material, materialErrors⟩ := expected
        rw [hexpected] at h
        dsimp only at h
        split_ifs at h with hlinked
        unfold checkpointLinked at hlinked
        rw [decide_eq_true_iff] at hlinked
        obtain ⟨hplatform, -, hof, hpackOf, -, -, -, hcontent, hevidence, hgates, -⟩ := hlinked
        obtain ⟨home, hhome, hhomePack, -⟩ := hrows.variantRow
        have hof' : variant.id = revision.platformVariantId := hof.symm
        have hsameVariant : home = variant := by
          rw [hof', hhome] at hvariantRow
          exact Option.some.inj hvariantRow
        have hpackSame : pack.id = packId := by
          rw [← hpackOf, ← hsameVariant]
          exact hhomePack
        rw [hpackSame] at hpackId
        unfold requireCheckpointSources at h
        split_ifs at h with hempty hcitations hmedia
        refine ⟨hpackId, hvariantText, hrowText, hplatform, ⟨materialErrors, ?_⟩, ?_, ?_⟩
        · have hsame : (⟨revision.content, revision.evidenceMap,
              revision.validationResults⟩ : Material) = material := by
            cases material
            cases hcontent
            cases hevidence
            cases hgates
            rfl
          rw [hsame, ← hexpected]
          refine expectedMaterial_congr ?_
          intro htelegram
          rw [checkpointParent_telegram htelegram hparent]
        · have hevidence' : revision.evidenceMap = material.evidenceMap := hevidence
          rw [hevidence']
          simpa using hcitations
        · intro hother
          by_contra hbad
          exact hmedia ⟨hother, by simpa using hbad⟩

end Reading

/-! ## Every later execution -/

def Persisted.outcome (result : Persisted) : Outcome :=
  .completed (uuidStr result.revision.platformVariantId) (uuidStr result.revision.id)
    result.hasErrors

def Persisted.stored (S : PlatformStage α) (result : Persisted) (output : List (String × Json)) :
    List (String × Json) :=
  redactedDict S (putField output "_artifact"
    (artifactOf S result.packId result.revision.platformVariantId result.revision.id))

/-- The worker has an output in hand that was not persisted yet, and persists it. -/
structure Persists (S : PlatformStage α) (w : StageWorld α) (packId variantId revisionId : UUID)
    (authored : α) (run : GenerationRun) (result : Persisted) : Prop where
  inHand : w.hand = some authored
  stored : w.run = some run
  first : durableArtifact run.outputPayload = .ok none
  persisted : persistNewArtifact S w.tables authored run.attemptId packId variantId revisionId
    = .ok result
  ids : w.idsTaken packId variantId revisionId = false

/-- Whatever follows, each execution returns the revision, and no other is made of the attempt. -/
def Idempotent (S : PlatformStage α) (w : StageWorld α) (result : Persisted) : Prop :=
  ∀ events w', (stageSystem S).Run w events w' →
    (∀ outcome ∈ w'.outcomes.drop w.outcomes.length, outcome = result.outcome)
      ∧ ∀ row ∈ w'.tables.revisions.rows,
        row.generationAttemptId = result.revision.generationAttemptId → row.id = result.revision.id

section Runs

variable {w : StageWorld α} {packId variantId revisionId : UUID} {authored : α}
  {run : GenerationRun} {result : Persisted} {stored : List (String × Json)}

theorem Persists.finish (h : Persists S w packId variantId revisionId authored run result) :
    w.finish S packId variantId revisionId = w.persisted S run result := by
  unfold StageWorld.finish
  rw [h.inHand, h.stored]
  dsimp only
  rw [h.first]
  rw [h.persisted]
  dsimp only
  rw [h.ids, if_neg Bool.false_ne_true]

structure Replaying (S : PlatformStage α) (stored : List (String × Json)) (attemptId : UUID)
    (result : Persisted) (parent : Option PlatformVariantRevision) (count : Nat)
    (w : StageWorld α) : Prop where
  runRow : w.run = some ⟨stored, attemptId⟩
  rows : Committed S w.tables result.packId result.revision parent
  inHand : ∀ authored, w.hand = some authored → S.validateOutput (readBack stored) = .ok authored
  counted : count ≤ w.outcomes.length
  outcomes : ∀ outcome ∈ w.outcomes.drop count, outcome = result.outcome

theorem Replaying.ends {attemptId : UUID} {parent : Option PlatformVariantRevision} {count : Nat}
    (h : Replaying S stored attemptId result parent count w) {outcome : Outcome}
    (houtcome : outcome = result.outcome) :
    Replaying S stored attemptId result parent count (w.ends outcome) := by
  refine ⟨h.runRow, h.rows, ?_, ?_, ?_⟩
  · nofun
  · have hle := h.counted
    change count ≤ (w.outcomes ++ [outcome]).length
    rw [length_append]
    omega
  · intro found hfound
    change found ∈ (w.outcomes ++ [outcome]).drop count at hfound
    rw [drop_append_of_le_length h.counted] at hfound
    rcases mem_append.mp hfound with hold | hnew
    · exact h.outcomes found hold
    rw [mem_singleton.mp hnew]
    exact houtcome

theorem ReadsBack.material {tables : PackTables} {attemptId : UUID}
    {parent : Option PlatformVariantRevision}
    (hrows : Committed S tables result.packId result.revision parent)
    (hrevision : StageRevision S attemptId result.revision parent result.hasErrors) (authored : α) :
    expectedMaterial S authored (result.revision.parentRevisionId.bind tables.revisions.lookup)
      = expectedMaterial S authored parent := by
  refine expectedMaterial_congr ?_
  intro _
  rw [hrevision.parentId]
  cases hparent : parent with
  | none => rfl
  | some row =>
    obtain ⟨state, hlookup⟩ := hrows.parentRow row hparent
    rw [map_some, bind_some, hlookup]
    rfl

theorem Replaying.step {attemptId : UUID} {parent : Option PlatformVariantRevision} {count : Nat}
    {tables : PackTables} {event : StageEvent}
    (h : Replaying S stored attemptId result parent count w)
    (hrevision : StageRevision S attemptId result.revision parent result.hasErrors)
    (hcommitted : Committed S tables result.packId result.revision parent)
    (hback : ReadsBack S tables result.packId result.revision stored) (hopen : w.Open event) :
    Replaying S stored attemptId result parent count (w.next S event) := by
  obtain ⟨artifact, hartifact, hpack, hvariant, hid, hplatform⟩ := hback.artifact
  obtain ⟨back, hvalid, ⟨errors, hmaterial⟩, hcitations, hmedia⟩ := hback.output
  rw [ReadsBack.material hcommitted hrevision] at hmaterial
  unfold StageWorld.next
  cases event with
  | invoke output id =>
    unfold StageWorld.invoke
    rw [h.runRow]
    dsimp only
    have hnonempty : stored.isEmpty = false := by
      cases stored with
      | nil => cases hartifact
      | cons field rest => rfl
    rw [hnonempty, if_neg Bool.false_ne_true, hvalid]
    refine ⟨rfl, h.rows, ?_, h.counted, h.outcomes⟩
    intro authored hhand
    cases hhand
    exact hvalid
  | finish packId variantId revisionId =>
    unfold StageWorld.finish
    cases hhand : w.hand with
    | none => exact h
    | some authored =>
      rw [h.runRow]
      dsimp only
      rw [hartifact]
      dsimp only
      have hsame := h.inHand authored hhand
      rw [hvalid] at hsame
      cases hsame
      unfold StageWorld.reuseArtifact
      rw [artifactRequiresReview_committed h.rows hrevision hpack hvariant hid hplatform
        ⟨errors, hmaterial⟩ hcitations hmedia]
      refine h.ends ?_
      rw [hvariant, hid]
      rfl
  | crash =>
    refine ⟨h.runRow, h.rows, ?_, h.counted, h.outcomes⟩
    intro authored hhand
    cases hhand
  | other tables' =>
    have hkeeps : StageWorld.KeepsRows (w.run.map GenerationRun.attemptId) w.tables tables' :=
      hopen
    rw [h.runRow] at hkeeps
    exact ⟨h.runRow, h.rows.keeps hrevision.attempt hkeeps, h.inHand, h.counted, h.outcomes⟩

theorem replaying_persisted (h : Persists S w packId variantId revisionId authored run result) :
    ∃ parent, StageRevision S run.attemptId result.revision parent result.hasErrors
      ∧ WrittenOn S w.tables packId variantId revisionId authored result parent
      ∧ Committed S result.tables result.packId result.revision parent
      ∧ Replaying S (result.stored S run.outputPayload) run.attemptId result parent
        (w.persisted S run result).outcomes.length (w.persisted S run result) := by
  have hids := h.ids
  unfold StageWorld.idsTaken at hids
  simp only [Bool.or_eq_false_iff, isSome_eq_false_iff, isNone_iff_eq_none] at hids
  obtain ⟨⟨hpack, hvariant⟩, hrevision⟩ := hids
  obtain ⟨parent, hcommitted, hstage, hwritten⟩ :=
    persistNewArtifact_spec h.persisted hpack hvariant hrevision
  refine ⟨parent, hstage, hwritten, hcommitted, rfl, hcommitted, ?_, Nat.le_refl _, ?_⟩
  · intro _ hnone
    cases hnone
  · intro outcome houtcome
    rw [drop_length] at houtcome
    cases houtcome

theorem idempotent_of_readsBack (h : Persists S w packId variantId revisionId authored run result)
    (hback : ReadsBack S result.tables result.packId result.revision
      (result.stored S run.outputPayload)) : Idempotent S (w.persisted S run result) result := by
  obtain ⟨parent, hstage, -, hcommitted, hreplaying⟩ := replaying_persisted h
  intro events w' hrun
  have hkeep := System.Run.preserves (S := stageSystem S)
    (P := Replaying S (result.stored S run.outputPayload) run.attemptId result parent
      (w.persisted S run result).outcomes.length)
    (fun s event s' hs hstep => by
      obtain ⟨hopen, hnext⟩ := hstep
      rw [hnext]
      exact hs.step hstage hcommitted hback hopen) hrun hreplaying
  exact ⟨hkeep.outcomes, hkeep.rows.only⟩

theorem Idempotent.outcome {w w' : StageWorld α} {events : List StageEvent} {outcome : Outcome}
    (h : Idempotent S w result) (hrun : (stageSystem S).Run w events w')
    (hends : w'.outcomes = w.outcomes ++ [outcome]) : outcome = result.outcome := by
  obtain ⟨houtcomes, -⟩ := h events w' hrun
  refine houtcomes outcome ?_
  rw [hends, drop_left]
  exact mem_cons_self

theorem readsBack_of_idempotent (h : Persists S w packId variantId revisionId authored run result)
    (hidempotent : Idempotent S (w.persisted S run result) result) :
    ReadsBack S result.tables result.packId result.revision
      (result.stored S run.outputPayload) := by
  obtain ⟨parent, hstage, -, hcommitted, hreplaying⟩ := replaying_persisted h
  obtain ⟨after, hafter⟩ : ∃ after, after = w.persisted S run result := ⟨_, rfl⟩
  rw [← hafter] at hidempotent hreplaying
  have hrunRow := hreplaying.runRow
  have htables : after.tables = result.tables := by rw [hafter]; rfl
  obtain ⟨stored, hstored⟩ : ∃ stored, stored = result.stored S run.outputPayload := ⟨_, rfl⟩
  rw [← hstored] at hrunRow ⊢
  -- The job is run again: it invokes the stage and finishes.
  let invoked := after.invoke S [] 0
  have hinvoke : (stageSystem S).step after (.invoke [] 0) invoked := by
    refine ⟨?_, rfl⟩
    intro hnone
    rw [hrunRow] at hnone
    cases hnone
  have hnonempty : stored.isEmpty = false := by
    by_contra hempty
    have hinvoked : invoked = after.ends (.stopped .transitionInvalid) := by
      change after.invoke S [] 0 = _
      unfold StageWorld.invoke
      rw [hrunRow]
      exact if_pos (by simpa using hempty)
    have hbad := hidempotent.outcome (.single hinvoke) (congrArg StageWorld.outcomes hinvoked)
    cases hbad
  cases hvalid : S.validateOutput (readBack stored) with
  | error stop =>
    have hinvoked : invoked = after.ends (.stopped stop) := by
      change after.invoke S [] 0 = _
      unfold StageWorld.invoke
      rw [hrunRow]
      dsimp only
      rw [hnonempty, if_neg Bool.false_ne_true, hvalid]
    have hbad := hidempotent.outcome (.single hinvoke) (congrArg StageWorld.outcomes hinvoked)
    cases hbad
  | ok back =>
    have hinvoked : invoked = { after with hand := some back } := by
      change after.invoke S [] 0 = _
      unfold StageWorld.invoke
      rw [hrunRow]
      dsimp only
      rw [hnonempty, if_neg Bool.false_ne_true, hvalid]
    have hfinish : (stageSystem S).step invoked (.finish 0 0 0) (invoked.finish S 0 0 0) :=
      ⟨trivial, rfl⟩
    have hrun2 := System.Run.cons hinvoke (.single hfinish)
    have hends : ∀ outcome, invoked.finish S 0 0 0 = invoked.ends outcome →
        outcome = result.outcome := by
      intro outcome heq
      refine hidempotent.outcome hrun2 ?_
      rw [heq, hinvoked]
      rfl
    have hhand : invoked.hand = some back := by rw [hinvoked]
    have hinvokedRun : invoked.run = some ⟨stored, run.attemptId⟩ := by
      rw [hinvoked]
      exact hrunRow
    have hinvokedTables : invoked.tables = result.tables := by
      rw [hinvoked]
      exact htables
    cases hartifact : durableArtifact stored with
    | error stop =>
      have hfinished : invoked.finish S 0 0 0 = invoked.ends (.stopped stop) := by
        unfold StageWorld.finish
        rw [hhand, hinvokedRun]
        dsimp only
        rw [hartifact]
      cases hends _ hfinished
    | ok durable =>
      cases durable with
      | none =>
        -- A second artifact of the attempt is refused.
        obtain ⟨state, hrow⟩ := hcommitted.revisionRow
        have htaken : persistNewArtifact S result.tables back run.attemptId 0 0 0
            = .error .checkpointInvalid :=
          persistNewArtifact_of_attempt 0 0 0 (mem_of_lookup hrow) hstage.attempt
        have hfinished : invoked.finish S 0 0 0 = invoked.ends (.stopped .checkpointInvalid) := by
          unfold StageWorld.finish
          rw [hhand, hinvokedRun]
          dsimp only
          rw [hartifact]
          rw [hinvokedTables, htaken]
        cases hends _ hfinished
      | some artifact =>
        have hfinished : invoked.finish S 0 0 0
            = invoked.reuseArtifact S ⟨stored, run.attemptId⟩ back artifact := by
          unfold StageWorld.finish
          rw [hhand, hinvokedRun]
          dsimp only
          rw [hartifact]
        unfold StageWorld.reuseArtifact at hfinished
        cases hreview : artifactRequiresReview S invoked.tables run.attemptId back artifact with
        | error stop =>
          rw [hreview] at hfinished
          cases hends _ hfinished
        | ok errors =>
          rw [hreview] at hfinished
          have hsame := hends _ hfinished
          obtain ⟨hvariant, hid, -⟩ := Outcome.completed.inj hsame
          rw [hinvokedTables] at hreview
          obtain ⟨hpack, hvariantText, hidText, hplatform, hmaterial, hcitations, hmedia⟩ :=
            readsBack_of_review hcommitted hreview hvariant hid
          exact ⟨⟨artifact, hartifact, hpack, hvariantText, hidText, hplatform⟩,
            ⟨back, hvalid, hmaterial, hcitations, hmedia⟩⟩

end Runs

end NewsCraft.Generation.Checkpoint
