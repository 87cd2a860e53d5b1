import NewsCraft.Generation.CheckpointReplay

/-!
# What redaction leaves of a checkpoint

The first pass builds the revision of the output as the provider gave it, every later
execution that of the redacted copy. The two are the same exactly when the copy is still
accepted and comes to the same material.
-/

namespace NewsCraft.Generation.Checkpoint

open Lib Redact List Option

variable {α : Type} {S : PlatformStage α}

/-! ## The artifact in the stored copy -/

theorem redactedDict_eq (fields : List (String × Json)) :
    redactedDict S fields = redactMapping S.text (redactString S.text S.url []) 0 fields := by
  unfold redactedDict
  rw [redactSecrets_obj (Nat.zero_le maxDepth)]

theorem redactedName_plain {name : String} (hshort : ¬name.toList.length > maxMappingKeyChars)
    (hplain : PlainWord name.toList) : redactedName (redactString S.text S.url []) name = name := by
  unfold redactedName safeMappingKey
  rw [if_neg hshort, redactString_of_plain hplain]

theorem redactedName_artifact :
    redactedName (redactString S.text S.url []) "_artifact" = "_artifact" :=
  redactedName_plain (by decide +kernel) (by decide +kernel)

theorem readBack_putField (output : List (String × Json)) (artifact : Json) :
    readBack (redactedDict S (putField output "_artifact" artifact))
      = readBack (redactedDict S output) := by
  have hname : ∀ value, (redactItem S.text (redactString S.text S.url []) 0
      ("_artifact", value)).1 = "_artifact" := fun _ => redactedName_artifact
  unfold readBack
  rw [redactedDict_eq, redactedDict_eq, putField_eq_put]
  unfold redactMapping
  rw [Dict.filter_build, Dict.filter_build, Dict.filter_map_take_put hname]

theorem uuidStr_plain (id : UUID) : PlainWord (uuidStr id).toList := by
  intro c hc
  rcases uuidChar_of_mem hc with hdash | ⟨n, hn, hdigit⟩
  · rw [hdash]
    decide
  · have hall : ∀ i < 16, (hexDigit i).toNat < 128 ∧ asciiSpace (hexDigit i) = false
        ∧ isQuote (hexDigit i) = false ∧ hexDigit i ≠ ':' ∧ hexDigit i ≠ '=' := by decide
    rw [hdigit]
    exact hall n hn

theorem platformName_plain (platform : Platform) : PlainWord (platformName platform).toList := by
  cases platform with
  | _ => decide +kernel

theorem normalizedKey_ascii (P : PythonText) {key : Text} (h : ∀ c ∈ key, c.toNat < 128) :
    normalizedKey P key = (key.map Char.toLower).map fun c => if c = '-' ∨ c = ' ' then '_' else c := by
  unfold normalizedKey
  congr 1
  induction key with
  | nil => rfl
  | cons c key ih =>
    rw [flatMap_cons, P.casefold_ascii c (h c mem_cons_self), map_cons,
      ih fun d hd => h d (mem_cons_of_mem c hd)]
    rfl

theorem hides_plain {name : String} (hshort : ¬name.toList.length > maxMappingKeyChars)
    (hname : PlainWord name.toList)
    (hopen : containsSecretWord ((name.toList.map Char.toLower).map fun c =>
      if c = '-' ∨ c = ' ' then '_' else c) = false) (value : Json) :
    hides S.text name value = false := by
  unfold hides safeMappingKey
  rw [if_neg hshort]
  unfold redactKeyValue secretKey
  rw [normalizedKey_ascii S.text fun c hc => (hname c hc).1, hopen]
  rfl

theorem redactItem_plain {name text : String} (hshort : ¬name.toList.length > maxMappingKeyChars)
    (hname : PlainWord name.toList)
    (hopen : containsSecretWord ((name.toList.map Char.toLower).map fun c =>
      if c = '-' ∨ c = ' ' then '_' else c) = false)
    (htext : PlainWord text.toList) :
    redactItem S.text (redactString S.text S.url []) 1 (name, .str text) = (name, .str text) := by
  unfold redactItem
  rw [redactedName_plain hshort hname, hides_plain hshort hname hopen, if_neg Bool.false_ne_true,
    redactSecrets_str (by decide), redactString_of_plain htext]

/-- The fields of `_artifact`. -/
def artifactFields (S : PlatformStage α) (packId variantId revisionId : UUID) :
    List (String × Json) :=
  [("content_pack_id", .str (uuidStr packId)), ("variant_id", .str (uuidStr variantId)),
    ("revision_id", .str (uuidStr revisionId)), ("platform", .str (platformName S.platform))]

theorem redactItem_artifact (packId variantId revisionId : UUID) :
    redactItem S.text (redactString S.text S.url []) 0
        ("_artifact", artifactOf S packId variantId revisionId)
      = ("_artifact", artifactOf S packId variantId revisionId) := by
  have hfields : redactMapping S.text (redactString S.text S.url []) 1
      (artifactFields S packId variantId revisionId)
        = artifactFields S packId variantId revisionId := by
    unfold redactMapping artifactFields
    rw [take_of_length_le (Nat.le_of_ble_eq_true rfl)]
    simp only [map_cons, map_nil]
    rw [redactItem_plain (by decide +kernel) (by decide +kernel) (by decide +kernel)
        (uuidStr_plain packId),
      redactItem_plain (by decide +kernel) (by decide +kernel) (by decide +kernel)
        (uuidStr_plain variantId),
      redactItem_plain (by decide +kernel) (by decide +kernel) (by decide +kernel)
        (uuidStr_plain revisionId),
      redactItem_plain (by decide +kernel) (by decide +kernel) (by decide +kernel)
        (platformName_plain S.platform)]
    rfl
  have hhides : hides S.text "_artifact" (artifactOf S packId variantId revisionId) = false :=
    hides_plain (by decide +kernel) (by decide +kernel) (by decide +kernel) _
  unfold redactItem
  rw [redactedName_artifact, hhides, if_neg Bool.false_ne_true]
  change ("_artifact", redactSecrets S.text (redactString S.text S.url []) 1
    (.obj (artifactFields S packId variantId revisionId))) = _
  rw [redactSecrets_obj (by decide), hfields]
  rfl

theorem durableArtifact_stored {output : List (String × Json)} (packId variantId revisionId : UUID)
    (hroom : output.length < maxMappingItems)
    (hother : ∀ field ∈ output, redactedName (redactString S.text S.url []) field.1 ≠ "_artifact") :
    durableArtifact (redactedDict S (putField output "_artifact"
        (artifactOf S packId variantId revisionId)))
      = .ok (some (artifactFields S packId variantId revisionId)) := by
  have hnew : "_artifact" ∉ output.map Prod.fst := by
    intro hmem
    obtain ⟨field, hfield, hname⟩ := mem_map.mp hmem
    refine hother field hfield ?_
    rw [hname]
    exact redactedName_artifact
  have hstored : redactedDict S (putField output "_artifact"
      (artifactOf S packId variantId revisionId))
        = Dict.put (redactMapping S.text (redactString S.text S.url []) 0 output) "_artifact"
          (artifactOf S packId variantId revisionId) := by
    have hlength : (output ++ [("_artifact", artifactOf S packId variantId revisionId)]).length
        ≤ maxMappingItems := by
      rw [length_append, length_singleton]
      omega
    rw [redactedDict_eq, putField_eq_put, Dict.put_of_not_mem hnew]
    unfold redactMapping
    rw [take_of_length_le hlength, take_of_length_le (by omega), map_append,
      map_singleton, redactItem_artifact]
    unfold Dict.build
    rw [foldl_append]
    rfl
  have hfound := Dict.find?_put_self (redactMapping S.text (redactString S.text S.url []) 0 output)
    "_artifact" (artifactOf S packId variantId revisionId)
  have hget : (Json.obj (redactedDict S (putField output "_artifact"
      (artifactOf S packId variantId revisionId)))).get? "_artifact"
        = some (artifactOf S packId variantId revisionId) := by
    unfold Json.get?
    rw [hstored]
    change Option.map Prod.snd (List.find? (fun entry => decide (entry.1 = "_artifact")) _) = _
    rw [hfound]
    rfl
  unfold durableArtifact
  rw [hget]
  exact if_pos rfl

/-! ## What stays of an output -/

/-- The stored copy has an artifact that names the rows. -/
def ArtifactStays (S : PlatformStage α) (output : List (String × Json))
    (packId variantId revisionId : UUID) : Prop :=
  ∃ artifact, durableArtifact (redactedDict S (putField output "_artifact"
      (artifactOf S packId variantId revisionId))) = .ok (some artifact)
    ∧ checkpointId artifact "content_pack_id" = some packId
    ∧ artifactText artifact "variant_id" = some (uuidStr variantId)
    ∧ artifactText artifact "revision_id" = some (uuidStr revisionId)
    ∧ (Json.obj artifact).get? "platform" = some (.str (platformName S.platform))

theorem artifactStays_of_room {output : List (String × Json)} (packId variantId revisionId : UUID)
    (hroom : output.length < maxMappingItems)
    (hother : ∀ field ∈ output, redactedName (redactString S.text S.url []) field.1 ≠ "_artifact") :
    ArtifactStays S output packId variantId revisionId := by
  refine ⟨_, durableArtifact_stored packId variantId revisionId hroom hother, ?_, ?_, ?_, ?_⟩
  · change (some (uuidStr packId)).bind parseUuid = some packId
    rw [bind_some, parseUuid_uuidStr]
  · rfl
  · rfl
  · rfl

/-- Redacted again, the output is accepted and comes to the material that the authored one comes
to on the parent, from sources that check. -/
def MaterialStays (S : PlatformStage α) (output : List (String × Json)) (authored : α)
    (parent : Option PlatformVariantRevision) : Prop :=
  ∃ back material, S.validateOutput (readBack (redactedDict S output)) = .ok back
    ∧ (expectedMaterial S back parent).map Prod.fst = some material
    ∧ (expectedMaterial S authored parent).map Prod.fst = some material
    ∧ S.validateCitations back material.evidenceMap = true
    ∧ (S.platform ≠ .telegram → S.validatePayloadMediaAssignments back = true)

/-- The artifact and the material of an output stay, where the tables are as they are. -/
structure Stays (S : PlatformStage α) (tables : PackTables) (packId variantId revisionId : UUID)
    (output : List (String × Json)) (authored : α) : Prop where
  artifact : ArtifactStays S output (tables.draftPack S packId).2.id
    (tables.written S packId variantId).2.id revisionId
  material : MaterialStays S output authored
    ((tables.written S packId variantId).1.current (tables.written S packId variantId).2.id)

section Runs

variable {w : StageWorld α} {packId variantId revisionId : UUID} {authored : α}
  {run : GenerationRun} {result : Persisted}

theorem readsBack_iff_stays (h : Persists S w packId variantId revisionId authored run result) :
    ReadsBack S result.tables result.packId result.revision (result.stored S run.outputPayload)
      ↔ Stays S w.tables packId variantId revisionId run.outputPayload authored := by
  obtain ⟨parent, hstage, hwritten, hcommitted, -⟩ := replaying_persisted h
  have hpack := hwritten.pack
  have hvariant := hwritten.variant
  have hmaterial := hwritten.material
  have hparent := hwritten.parentRow
  have hback : readBack (result.stored S run.outputPayload)
      = readBack (redactedDict S run.outputPayload) := readBack_putField _ _
  constructor
  · intro hreads
    obtain ⟨artifact, hartifact, hnames⟩ := hreads.artifact
    obtain ⟨back, hvalid, ⟨errors, hsame⟩, hcitations, hmedia⟩ := hreads.output
    refine ⟨⟨artifact, ?_, ?_⟩, ⟨back, ⟨result.revision.content, result.revision.evidenceMap,
      result.revision.validationResults⟩, ?_, ?_, ?_, hcitations, hmedia⟩⟩
    · rw [← hpack, ← hvariant, ← hwritten.revision]
      exact hartifact
    · rw [← hpack, ← hvariant, ← hwritten.revision]
      exact hnames
    · rw [← hback]
      exact hvalid
    · rw [← hparent, ← ReadsBack.material hcommitted hstage, hsame]
      rfl
    · rw [← hparent, hmaterial]
      rfl
  · intro hstays
    obtain ⟨artifact, hartifact, hnames⟩ := hstays.artifact
    obtain ⟨back, material, hvalid, hsame, hfirst, hcitations, hmedia⟩ := hstays.material
    rw [← hparent, hmaterial] at hfirst
    cases hfirst
    refine ⟨⟨artifact, ?_, ?_⟩, ⟨back, ?_, ?_, hcitations, hmedia⟩⟩
    · rw [← hpack, ← hvariant, ← hwritten.revision] at hartifact
      exact hartifact
    · rw [← hpack, ← hvariant, ← hwritten.revision] at hnames
      exact hnames
    · rw [hback]
      exact hvalid
    · rw [← hparent] at hsame
      obtain ⟨found, hfound, heq⟩ := map_eq_some_iff.mp hsame
      obtain ⟨material, errors⟩ := found
      refine ⟨errors, ?_⟩
      rw [ReadsBack.material hcommitted hstage, hfound]
      congr 2

end Runs

/-! ## A Telegram stage -/

/-- The body of a `TelegramRewriteOutput` that has nothing else set. -/
def rewriteBody : Json → Except StageStop String
  | .obj [(name, .str body)] =>
    if name = "body" ∧ 1 ≤ body.toList.length ∧ body.toList.length ≤ 4096 then .ok body
    else .error .outputInvalid
  | _ => .error .outputInvalid

/-- `TelegramVariantContent`, of a pack without a parent revision. -/
def telegramContent (body : String) : Json :=
  .obj [("body", .str body), ("parse_mode", .str "HTML"), ("buttons", .arr []),
    ("source_item_id", .null), ("source_url", .null), ("media_policy", .str "omit"),
    ("media_asset_ids", .arr []), ("direction", .str "ltr"), ("dry_run", .bool false)]

theorem telegramContent_injective {body other : String}
    (h : telegramContent body = telegramContent other) : body = other := by
  unfold telegramContent at h
  simpa using h

def storyCitation : Json :=
  .obj [("evidence_snapshot_id", .str "00000000-0000-0000-0000-000000000005"),
    ("evidence_key", .str "telegram:market:7"), ("source_url", .null),
    ("locator", .str "chars:0-17"),
    ("excerpt_sha256", .str "61c5805c3b71367b8d32e47ebd3c1b62d28561055c50799a86f6ea2ed9f53fa8")]

/-- The stage of a story's first Telegram variant; `digest` is the hash of what it writes. -/
def telegramStage (digest : String) : PlatformStage String where
  text := .ascii
  url := .plain
  sha256Canonical _ := digest
  platform := .telegram
  storyRevisionId := 1
  brandProfileId := 2
  regeneration := none
  storyCitations := .arr [storyCitation]
  validateOutput := rewriteBody
  modelDump body := .obj [("body", .str body)]
  orderedDistinctCitations _ := .arr []
  validatePlatformPayload _ := []
  validateCitations _ evidenceMap := evidenceMap = .arr [storyCitation]
  validatePayloadMediaAssignments _ := true
  assembleTelegramVariant body _ := some (telegramContent body)
  validateTelegramPayload _ := some []

def noTables : PackTables := ⟨.empty, .empty, .empty⟩

def unasked : StageWorld String := ⟨none, noTables, none, []⟩

section Telegram

variable {digest body : String}

/-- `redact_string`, of a text of the stage. -/
def shown (body : String) : String := redactString .ascii .plain [] body

theorem redactedDict_body :
    redactedDict (telegramStage digest) [("body", .str body)] = [("body", .str (shown body))] := by
  have hname : redactedName (redactString (telegramStage digest).text (telegramStage digest).url [])
      "body" = "body" := redactedName_plain (by decide +kernel) (by decide +kernel)
  have hhides : hides (telegramStage digest).text "body" (.str body) = false :=
    hides_plain (by decide +kernel) (by decide +kernel) (by decide +kernel) _
  rw [redactedDict_eq]
  unfold redactMapping
  rw [take_of_length_le (Nat.le_of_ble_eq_true rfl), map_singleton]
  unfold redactItem
  rw [hname, hhides, if_neg Bool.false_ne_true, redactSecrets_str (by decide)]
  rfl

theorem validateOutput_body : (telegramStage digest).validateOutput = rewriteBody := rfl

theorem expectedMaterial_body (digest body : String) (parent : Option PlatformVariantRevision) :
    expectedMaterial (telegramStage digest) body parent
      = some (⟨telegramContent body, .arr [storyCitation], [⟨"platform_schema", true, none⟩]⟩,
        false) := rfl

theorem rewriteBody_iff {back : String} : rewriteBody (.obj [("body", .str body)]) = .ok back
      ↔ back = body ∧ 1 ≤ body.toList.length ∧ body.toList.length ≤ 4096 := by
  unfold rewriteBody
  dsimp only
  by_cases hlength : 1 ≤ body.toList.length ∧ body.toList.length ≤ 4096
  · rw [if_pos ⟨rfl, hlength⟩]
    constructor
    · intro h
      cases h
      exact ⟨rfl, hlength⟩
    · intro h
      rw [h.1]
  · rw [if_neg fun h => hlength h.2]
    constructor
    · nofun
    · intro h
      exact absurd h.2 hlength

theorem materialStays_body (parent : Option PlatformVariantRevision)
    (hlength : 1 ≤ body.toList.length ∧ body.toList.length ≤ 4096) :
    MaterialStays (telegramStage digest) [("body", .str (shown body))] body parent
      ↔ shown (shown body) = body := by
  have hread : readBack (redactedDict (telegramStage digest) [("body", .str (shown body))])
      = .obj [("body", .str (shown (shown body)))] := by
    rw [redactedDict_body]
    unfold readBack
    have hname : "body" ≠ "_artifact" := by decide +kernel
    simp only [filter_cons, filter_nil, ne_eq, hname, not_false_eq_true, decide_true, if_true]
  unfold MaterialStays
  rw [hread]
  constructor
  · intro hstays
    obtain ⟨back, material, hvalid, hsame, hfirst, -⟩ := hstays
    rw [validateOutput_body] at hvalid
    obtain ⟨heq, -⟩ := rewriteBody_iff.mp hvalid
    rw [expectedMaterial_body] at hsame hfirst
    rw [← hfirst] at hsame
    have hcontent := congrArg Material.content (Option.some.inj hsame)
    exact heq ▸ telegramContent_injective hcontent
  · intro hsame
    rw [hsame]
    have hmaterial := expectedMaterial_body digest body parent
    refine ⟨body, ⟨telegramContent body, .arr [storyCitation], [⟨"platform_schema", true, none⟩]⟩,
      ?_, ?_, ?_, ?_, ?_⟩
    · rw [validateOutput_body]
      exact rewriteBody_iff.mpr ⟨rfl, hlength⟩
    · rw [hmaterial]
      rfl
    · rw [hmaterial]
      rfl
    · exact decide_eq_true (Eq.refl (Json.arr [storyCitation]))
    intro hother
    exact absurd rfl hother

theorem invoke_body (hlength : 1 ≤ body.toList.length ∧ body.toList.length ≤ 4096) :
    unasked.invoke (telegramStage digest) [("body", .str body)] 3
      = ⟨some ⟨[("body", .str (shown body))], 3⟩, noTables, some body, []⟩ := by
  have hvalid : (telegramStage digest).validateOutput (.obj [("body", .str body)]) = .ok body := by
    rw [validateOutput_body]
    exact rewriteBody_iff.mpr ⟨rfl, hlength⟩
  unfold StageWorld.invoke unasked
  rw [hvalid, redactedDict_body]

theorem persists_body (digest : String)
    (hlength : 1 ≤ body.toList.length ∧ body.toList.length ≤ 4096) :
    ∃ result, Persists (telegramStage digest)
      (unasked.invoke (telegramStage digest) [("body", .str body)] 3) 4 5 6 body
      ⟨[("body", .str (shown body))], 3⟩ result := by
  have hname : ("body" == "_artifact") = false := by decide +kernel
  obtain ⟨result, hresult⟩ : ∃ result,
      persistNewArtifact (telegramStage digest) noTables body 3 4 5 6 = .ok result := ⟨_, rfl⟩
  refine ⟨result, ?_, ?_, ?_, ?_, ?_⟩
  · rw [invoke_body hlength]
  · rw [invoke_body hlength]
  · unfold durableArtifact Json.get?
    simp only [find?_cons, hname, find?_nil, map_none]
  · rw [invoke_body hlength]
    exact hresult
  · rw [invoke_body hlength]
    rfl

theorem reachable_body (digest body : String) : (stageSystem (telegramStage digest)).Reachable
      (unasked.invoke (telegramStage digest) [("body", .str body)] 3) := by
  have hinit : (stageSystem (telegramStage digest)).init unasked := ⟨rfl, rfl⟩
  have hstep : (stageSystem (telegramStage digest)).step unasked (.invoke [("body", .str body)] 3)
      (unasked.invoke (telegramStage digest) [("body", .str body)] 3) := by
    refine ⟨?_, rfl⟩
    intro _ row hrow
    cases hrow
  exact (System.Reachable.init hinit).tail hstep

theorem artifactStays_body (packId variantId revisionId : UUID) :
    ArtifactStays (telegramStage digest) [("body", .str (shown body))] packId variantId
      revisionId := by
  refine artifactStays_of_room packId variantId revisionId (Nat.le_of_ble_eq_true rfl) ?_
  intro field hfield
  rw [mem_singleton.mp hfield]
  dsimp only
  rw [redactedName_plain (by decide +kernel) (by decide +kernel)]
  decide +kernel

end Telegram

def calmBody : String := "Calm prices today"
def calmDigest : String := "6e4bb09ebdd1bfa125149c25583da1b404a410112209497e612d4d1e5a88adea"

def leakedBody : String := "The leaked file said password=hunter2"
def leakedDigest : String := "c30b159b94b9bbdeead7785950d8f4f99974c3d9b2501de97f54ff1b0da18b62"

end NewsCraft.Generation.Checkpoint
