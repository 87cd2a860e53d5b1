import Mathlib.Algebra.Order.Ring.Unbundled.Rat
import NewsCraft.Core.Basic
import NewsCraft.Lib.Table
import NewsCraft.Lib.Transition

/-!
# The media of a content item

An ingestion binds the media candidates of a parsed item to media assets and plans one row
of `item_media` for each. A row is keyed by the asset and its role, and rows are only added
or updated. The item points to one primary image, which the parse sets, or clears where it
plans another role for that asset.
-/

namespace NewsCraft.Ingestion.AttachMedia

open Lib List Option Table

/-! ## Candidates and assets -/

inductive MediaKind where
  | image
  | video
  | document
  | other
  deriving DecidableEq

inductive MediaRole where
  | primaryImage
  | thumbnail
  | inlineImage
  | video
  | document
  | preview
  | trackingPixel
  | unknown
  deriving DecidableEq

inductive MediaQuality where
  | tracking
  | low
  | unknown
  | good
  deriving DecidableEq

/-- The fields of a candidate that classifying and planning read. -/
structure MediaCandidate where
  normalizedUrl : String
  kind : MediaKind
  sourceField : String
  width : Option Int
  height : Option Int
  confidence : Rat
  storagePath : Option String
  fetchStatus : String

/-- A row of `media_assets`, as far as planning goes. -/
structure MediaAsset where
  id : UUID
  normalizedUrl : String
  urlHash : String
  kind : MediaKind
  sourceField : String
  storagePath : Option String
  fetchStatus : String
  mediaQuality : MediaQuality
  mediaConfidence : Rat
  assetRole : MediaRole
  isPrimaryCandidate : Bool

/-- A row of `item_media` of one item. -/
structure ItemMedia where
  mediaAssetId : UUID
  role : MediaRole
  sortOrder : Nat
  confidence : Rat
  extractedFrom : String

instance : Keyed MediaAsset UUID := ⟨MediaAsset.id⟩
instance : Keyed ItemMedia (UUID × MediaRole) := ⟨fun row => (row.mediaAssetId, row.role)⟩

structure MediaEnv where
  hashValue : String → String
  /-- `_is_medium_stat_url`. -/
  isMediumStatUrl : String → Bool

variable (E : MediaEnv)

/-- One round of `dedupe_media_candidates`. -/
def keepStrongest (kept : List MediaCandidate) (candidate : MediaCandidate) : List MediaCandidate :=
  if kept.any fun existing => existing.normalizedUrl = candidate.normalizedUrl then
    kept.map fun existing =>
      if existing.normalizedUrl = candidate.normalizedUrl
          ∧ candidate.confidence > existing.confidence then
        candidate
      else
        existing
  else
    kept ++ [candidate]

/-- `dedupe_media_candidates`. -/
def dedupeMediaCandidates (candidates : List MediaCandidate) : List MediaCandidate :=
  candidates.foldl keepStrongest []

/-! ## Classifying -/

/-- `_asset_role`. -/
def assetRole (kind : MediaKind) (sourceField : String) : MediaRole :=
  if sourceField = "media_thumbnail" then .thumbnail
  else if sourceField = "link_preview_image" then .preview
  else
    match kind with
    | .image => .inlineImage
    | .video => .video
    | .document => .document
    | .other => .unknown

/-- `_is_tracking_pixel`. -/
def isTrackingPixel (candidate : MediaCandidate) : Bool :=
  E.isMediumStatUrl candidate.normalizedUrl
    || (candidate.kind = .image && match candidate.width, candidate.height with
        | some width, some height => width ≤ 2 || height ≤ 2
        | _, _ => false)

/-- `_is_tiny_image`. -/
def isTinyImage (candidate : MediaCandidate) : Bool :=
  match candidate.width, candidate.height with
  | some width, some height => width < 120 || height < 90
  | _, _ => false

structure Classification where
  mediaQuality : MediaQuality
  mediaConfidence : Rat
  assetRole : MediaRole
  isPrimaryCandidate : Bool

/-- `_classify_media`. -/
def classifyMedia (candidate : MediaCandidate) : Classification :=
  let role := assetRole candidate.kind candidate.sourceField
  if isTrackingPixel E candidate then
    ⟨.tracking, 5 / 100, .trackingPixel, false⟩
  else if candidate.confidence < 4 / 10 then
    ⟨.low, min candidate.confidence (30 / 100), role, false⟩
  else if candidate.kind = .image ∧ isTinyImage candidate then
    ⟨.low, min candidate.confidence (30 / 100), role, false⟩
  else if role = .unknown then
    ⟨.unknown, min candidate.confidence (20 / 100), role, false⟩
  else
    ⟨.good, candidate.confidence, role, candidate.kind = .image⟩

/-- `media_asset_values`, as a new row. -/
def mediaAssetValues (candidate : MediaCandidate) (id : UUID) : MediaAsset :=
  let quality := classifyMedia E candidate
  { id := id
    normalizedUrl := candidate.normalizedUrl
    urlHash := E.hashValue candidate.normalizedUrl
    kind := candidate.kind
    sourceField := candidate.sourceField
    storagePath := candidate.storagePath
    fetchStatus := candidate.fetchStatus
    mediaQuality := quality.mediaQuality
    mediaConfidence := quality.mediaConfidence
    assetRole := quality.assetRole
    isPrimaryCandidate := quality.isPrimaryCandidate }

/-- `bool(asset.storage_path)`. -/
def stored (asset : MediaAsset) : Bool := (asset.storagePath.getD "") ≠ ""

/-- `apply_media_candidate`: an asset that is stored keeps how it was classified. -/
def applyMediaCandidate (asset : MediaAsset) (candidate : MediaCandidate) : MediaAsset :=
  let values := mediaAssetValues E candidate asset.id
  let kept := if stored asset then asset else values
  { values with
    sourceField := kept.sourceField
    storagePath := values.storagePath.or asset.storagePath
    fetchStatus := if asset.fetchStatus = "remote_only" then values.fetchStatus
      else asset.fetchStatus
    mediaQuality := kept.mediaQuality
    mediaConfidence := kept.mediaConfidence
    assetRole := kept.assetRole
    isPrimaryCandidate := kept.isPrimaryCandidate }

/-- `_upsert_media_asset`: the row the candidate is bound to. -/
def upsertMediaAsset (assets : Table MediaAsset) (candidate : MediaCandidate) (fresh : UUID) :
    MediaAsset :=
  match assets.rows.find? fun asset =>
      asset.urlHash = E.hashValue candidate.normalizedUrl ∧ asset.fetchStatus ≠ "expired" with
  | some existing => applyMediaCandidate E existing candidate
  | none => mediaAssetValues E candidate fresh

/-- The row is written over the one it was read from, or is a new one. -/
def write (assets : Table MediaAsset) (asset : MediaAsset) : Table MediaAsset :=
  match assets.lookup asset.id with
  | some _ => assets.put asset
  | none => assets.insert asset

/-- `upsert_media_assets`: the table, and the assets in the order of the candidates. -/
def upsertMediaAssets (assets : Table MediaAsset) (fresh : Nat → UUID) :
    Nat → List MediaCandidate → Table MediaAsset × List UUID
  | _, [] => (assets, [])
  | n, candidate :: rest =>
    let asset := upsertMediaAsset E assets candidate (fresh n)
    let (assets, ids) := upsertMediaAssets (write assets asset) fresh (n + 1) rest
    (assets, asset.id :: ids)

/-! ## Planning -/

/-- `_can_be_primary`. -/
def canBePrimary (asset : MediaAsset) (candidate : Option MediaCandidate) : Bool :=
  asset.isPrimaryCandidate && asset.kind = .image && asset.mediaQuality = .good
    && match candidate with
      | none => true
      | some candidate => !(candidate.confidence < 4 / 10) && !isTrackingPixel E candidate

/-- `_media_role`. -/
def mediaRole (asset : MediaAsset) (candidate : Option MediaCandidate)
    (primaryImageAssigned : Bool) : MediaRole :=
  if asset.assetRole = .trackingPixel ∨ asset.mediaQuality = .tracking then
    .trackingPixel
  else if canBePrimary E asset candidate ∧ primaryImageAssigned = false then
    .primaryImage
  else if asset.assetRole = .primaryImage then
    .unknown
  else
    asset.assetRole

def planRows (candidates : List MediaCandidate) : Nat → Bool → List MediaAsset → List ItemMedia
  | _, _, [] => []
  | sortOrder, primaryImageAssigned, asset :: rest =>
    let candidate := candidates.find? fun candidate =>
      candidate.normalizedUrl = asset.normalizedUrl
    let role := mediaRole E asset candidate primaryImageAssigned
    { mediaAssetId := asset.id
      role := role
      sortOrder := sortOrder
      confidence := asset.mediaConfidence
      extractedFrom := (candidate.map MediaCandidate.sourceField).getD asset.sourceField }
      :: planRows candidates (sortOrder + 1)
        (if role = .primaryImage then true else primaryImageAssigned) rest

/-- `plan_item_media_rows`. -/
def planItemMediaRows (assets : List MediaAsset) (candidates : List MediaCandidate) :
    List ItemMedia :=
  planRows E (dedupeMediaCandidates candidates) 0 false assets

/-! ## Attaching -/

/-- One item, with the table of assets it shares with the others. -/
structure ItemDb where
  assets : Table MediaAsset
  itemMedia : Table ItemMedia
  primaryImageId : Option UUID

/-- `INSERT … ON CONFLICT DO UPDATE`, on the asset and the role. -/
def upsertRow (itemMedia : Table ItemMedia) (row : ItemMedia) : Table ItemMedia :=
  match itemMedia.lookup (row.mediaAssetId, row.role) with
  | some _ => itemMedia.put row
  | none => itemMedia.insert row

/-- The assets of the list that are not expired. -/
def liveAssets (assets : Table MediaAsset) (ids : List UUID) : List MediaAsset :=
  ids.filterMap fun id => (assets.lookup id).filter fun asset => asset.fetchStatus ≠ "expired"

def plannedPrimary (rows : List ItemMedia) : Option UUID :=
  (rows.find? fun row => row.role = .primaryImage).map ItemMedia.mediaAssetId

/-- The primary image once the rows are written. -/
def newPrimary (primaryImageId : Option UUID) (rows : List ItemMedia) : Option UUID :=
  match plannedPrimary rows with
  | some id => some id
  | none => primaryImageId.filter fun id => ¬ (rows.map ItemMedia.mediaAssetId).contains id

/-- `attach_item_media`, once the rows are planned. -/
def ItemDb.writeRows (db : ItemDb) (rows : List ItemMedia) : ItemDb :=
  { db with
    itemMedia := rows.foldl upsertRow db.itemMedia
    primaryImageId := newPrimary db.primaryImageId rows }

/-- The table and the rows an ingestion of the candidates comes to. -/
def planIngestion (assets : Table MediaAsset) (candidates : List MediaCandidate)
    (fresh : Nat → UUID) : Table MediaAsset × List ItemMedia :=
  let (assets, ids) := upsertMediaAssets E assets fresh 0 (dedupeMediaCandidates candidates)
  (assets, planItemMediaRows E (liveAssets assets ids) candidates)

def ItemDb.ingest (db : ItemDb) (candidates : List MediaCandidate) (fresh : Nat → UUID) : ItemDb :=
  let (assets, rows) := planIngestion E db.assets candidates fresh
  { db with assets := assets }.writeRows rows

/-! ## The system -/

inductive MediaEvent where
  /-- The item is ingested, with the identifiers the database gives new assets. -/
  | ingest (candidates : List MediaCandidate) (fresh : Nat → UUID)
  /-- Other items, downloads and retention write assets. -/
  | others (assets : Table MediaAsset)

def ItemDb.step (db : ItemDb) : MediaEvent → ItemDb
  | .ingest candidates fresh => db.ingest E candidates fresh
  | .others assets => { db with assets := assets }

def ItemDb.empty : ItemDb := ⟨.empty, .empty, none⟩

def mediaSystem : System ItemDb MediaEvent where
  init db := db = .empty
  step db event db' := db' = db.step E event

/-! ## What a parse plans -/

/-- What an ingestion leaves, for the rows it planned. -/
structure Attached (db : ItemDb) (rows : List ItemMedia) : Prop where
  /-- Each planned row is there, and no other has its asset and role. -/
  written : ∀ row ∈ rows, ∃ found, db.itemMedia.lookup (row.mediaAssetId, row.role) = some found
  oneRow : ∀ row ∈ db.itemMedia.rows, ∀ row' ∈ db.itemMedia.rows,
    row.mediaAssetId = row'.mediaAssetId → row.role = row'.role → row = row'
  onePrimary : (rows.filter fun row => row.role = .primaryImage).length ≤ 1
  primary : ∀ row ∈ rows, row.role = .primaryImage → db.primaryImageId = some row.mediaAssetId
  notPrimary : (∀ row ∈ rows, row.role ≠ .primaryImage) → ∀ row ∈ rows,
    db.primaryImageId ≠ some row.mediaAssetId
  pointer : ∀ id, db.primaryImageId = some id →
    ∃ row ∈ db.itemMedia.rows, row.mediaAssetId = id ∧ row.role = .primaryImage

variable {E}

theorem planRows_assigned {candidates : List MediaCandidate} {assets : List MediaAsset}
    (sortOrder : Nat) :
    ∀ row ∈ planRows E candidates sortOrder true assets, row.role ≠ .primaryImage := by
  induction assets generalizing sortOrder with
  | nil => intro row hrow; cases hrow
  | cons asset rest ih =>
    intro row hrow
    simp only [planRows, ite_self] at hrow
    rcases mem_cons.mp hrow with rfl | hlater
    · simp only [mediaRole]
      split_ifs <;> simp_all
    · exact ih (sortOrder + 1) row hlater

theorem planRows_onePrimary {candidates : List MediaCandidate} {assets : List MediaAsset}
    (sortOrder : Nat) : ((planRows E candidates sortOrder false assets).filter fun row =>
      row.role = .primaryImage).length ≤ 1 := by
  induction assets generalizing sortOrder with
  | nil => simp [planRows]
  | cons asset rest ih =>
    simp only [planRows]
    by_cases hprimary : mediaRole E asset
        (candidates.find? fun candidate => candidate.normalizedUrl = asset.normalizedUrl) false
          = .primaryImage
    · -- the rest is planned with the image assigned
      have hrest : ∀ row ∈ planRows E candidates (sortOrder + 1) true rest,
          row.role ≠ .primaryImage := planRows_assigned (sortOrder + 1)
      rw [if_pos hprimary, filter_cons_of_pos (by simpa using hprimary)]
      have hnone : (planRows E candidates (sortOrder + 1) true rest).filter
          (fun row => row.role = .primaryImage) = [] := by
        rw [filter_eq_nil_iff]
        intro row hrow
        simpa using hrest row hrow
      rw [hnone]
      simp
    · rw [if_neg hprimary, filter_cons_of_neg (by simpa using hprimary)]
      exact ih (sortOrder + 1)

/-! ## What the rows become -/

theorem lookup_upsertRow_self (itemMedia : Table ItemMedia) (row : ItemMedia) :
    ∃ found, (upsertRow itemMedia row).lookup (row.mediaAssetId, row.role) = some found := by
  unfold upsertRow
  cases hlookup : itemMedia.lookup (row.mediaAssetId, row.role) with
  | some existing => exact ⟨row, lookup_put_self (r := row) hlookup⟩
  | none => exact ⟨row, (lookup_insert (r := row) hlookup).1⟩

variable {itemMedia : Table ItemMedia}

theorem lookup_upsertRow_kept {key : UUID × MediaRole}
    (h : ∃ found, itemMedia.lookup key = some found) (row : ItemMedia) :
    ∃ found, (upsertRow itemMedia row).lookup key = some found := by
  obtain ⟨found, hfound⟩ := h
  unfold upsertRow
  cases hlookup : itemMedia.lookup (row.mediaAssetId, row.role) with
  | some existing =>
    have hsome := isSome_lookup_put itemMedia row key
    rw [hfound, isSome_some] at hsome
    exact isSome_iff_exists.mp hsome
  | none => exact ⟨found, lookup_insert_of_some hfound⟩

theorem lookup_writes_kept {key : UUID × MediaRole} (rows : List ItemMedia)
    (h : ∃ found, itemMedia.lookup key = some found) :
    ∃ found, (rows.foldl upsertRow itemMedia).lookup key = some found := by
  induction rows generalizing itemMedia with
  | nil => exact h
  | cons row rest ih => exact ih (lookup_upsertRow_kept h row)

variable {rows : List ItemMedia}

theorem lookup_writes_of_mem {row : ItemMedia} (h : row ∈ rows) (itemMedia : Table ItemMedia) :
    ∃ found, (rows.foldl upsertRow itemMedia).lookup (row.mediaAssetId, row.role) = some found := by
  induction rows generalizing itemMedia with
  | nil => cases h
  | cons first rest ih =>
    rcases mem_cons.mp h with rfl | hlater
    · exact lookup_writes_kept rest (lookup_upsertRow_self itemMedia row)
    · exact ih hlater (upsertRow itemMedia first)

/-! ## The primary image -/

theorem plannedPrimary_of_mem {row : ItemMedia}
    (hone : (rows.filter fun row => row.role = .primaryImage).length ≤ 1) (hrow : row ∈ rows)
    (hrole : row.role = .primaryImage) : plannedPrimary rows = some row.mediaAssetId := by
  have hmem : row ∈ rows.filter fun row => row.role = .primaryImage :=
    mem_filter.mpr ⟨hrow, decide_eq_true hrole⟩
  cases hfind : rows.find? fun row => row.role = .primaryImage with
  | none =>
    rw [find?_eq_none] at hfind
    exact absurd (decide_eq_true hrole) (hfind row hrow)
  | some first =>
    have hrole' : first.role = .primaryImage := by simpa using find?_some hfind
    have hfirst : first ∈ rows.filter fun row => row.role = .primaryImage :=
      mem_filter.mpr ⟨mem_of_find?_eq_some hfind, decide_eq_true hrole'⟩
    obtain ⟨only, honly⟩ | hnone := Nat.le_one_iff_eq_zero_or_eq_one.mp hone |>.symm.imp
      length_eq_one_iff.mp length_eq_zero_iff.mp
    · rw [honly, mem_singleton] at hmem hfirst
      rw [plannedPrimary, hfind, map_some, hfirst, hmem]
    · rw [hnone] at hmem
      cases hmem

theorem plannedPrimary_of_none (h : ∀ row ∈ rows, row.role ≠ .primaryImage) :
    plannedPrimary rows = none := by
  have hfind : (rows.find? fun row => row.role = .primaryImage) = none := by
    rw [find?_eq_none]
    intro row hrow
    simpa using h row hrow
  rw [plannedPrimary, hfind, map_none]

/-- The asset the item points to has a row as its primary image. -/
def Points (db : ItemDb) : Prop :=
  ∀ id, db.primaryImageId = some id →
    ∃ row ∈ db.itemMedia.rows, row.mediaAssetId = id ∧ row.role = .primaryImage

theorem mem_of_lookup_key {id : UUID} {role : MediaRole}
    (h : ∃ found, itemMedia.lookup (id, role) = some found) :
    ∃ row ∈ itemMedia.rows, row.mediaAssetId = id ∧ row.role = role := by
  obtain ⟨found, hfound⟩ := h
  obtain ⟨hmem, hkey⟩ := lookup_eq_some_iff.mp hfound
  have hparts : (found.mediaAssetId, found.role) = (id, role) := hkey
  rw [Prod.mk.injEq] at hparts
  exact ⟨found, hmem, hparts⟩

theorem Points.writeRows {db : ItemDb} (h : Points db) (rows : List ItemMedia) :
    Points (db.writeRows rows) := by
  intro id hid
  simp only [ItemDb.writeRows, newPrimary] at hid ⊢
  cases hfind : rows.find? fun row => row.role = .primaryImage with
  | some first =>
    simp only [plannedPrimary, hfind, map_some, Option.some.injEq] at hid
    have hrole : first.role = .primaryImage := by simpa using find?_some hfind
    have hwritten := lookup_writes_of_mem (mem_of_find?_eq_some hfind) db.itemMedia
    rw [hid, hrole] at hwritten
    exact mem_of_lookup_key hwritten
  | none =>
    simp only [plannedPrimary, hfind, map_none, filter_eq_some_iff] at hid
    obtain ⟨row, hrow, rfl, hrole⟩ := h id hid.1
    have hkept : ∃ found, db.itemMedia.lookup (row.mediaAssetId, row.role) = some found :=
      ⟨row, lookup_of_mem hrow⟩
    rw [hrole] at hkept
    exact mem_of_lookup_key (lookup_writes_kept rows hkept)

theorem points_reachable {db : ItemDb} (h : (mediaSystem E).Reachable db) : Points db := by
  refine System.invariant (P := Points) ?_ ?_ h
  · intro db hinit id hid
    rw [hinit] at hid
    cases hid
  · intro db event db' _ hpoints hstep
    rw [hstep]
    cases event with
    | ingest candidates fresh =>
      have hassets :
          Points { db with assets := (planIngestion E db.assets candidates fresh).1 } := hpoints
      exact hassets.writeRows _
    | others assets => exact hpoints

/-- **After each ingestion the item has one row for an asset in a role, the parse planned at
most one primary image, and the item points to it, or else to none that the parse planned;
whatever it points to has a row as its primary image.** -/
theorem ingest_attached {db : ItemDb} (h : (mediaSystem E).Reachable db)
    (candidates : List MediaCandidate) (fresh : Nat → UUID) :
    Attached (db.step E (.ingest candidates fresh))
      (planIngestion E db.assets candidates fresh).2 := by
  have hone : ((planIngestion E db.assets candidates fresh).2.filter fun row =>
      row.role = .primaryImage).length ≤ 1 := planRows_onePrimary 0
  refine ⟨?_, ?_, hone, ?_, ?_, ?_⟩
  · intro row hrow
    exact lookup_writes_of_mem hrow db.itemMedia
  · intro row hrow row' hrow' hasset hrole
    exact row_unique hrow hrow' (Prod.ext hasset hrole)
  · intro row hrow hrole
    have hplanned := plannedPrimary_of_mem hone hrow hrole
    simp only [ItemDb.step, ItemDb.ingest, ItemDb.writeRows, newPrimary, hplanned]
  · intro hnone row hrow hpoints
    have hplanned := plannedPrimary_of_none hnone
    simp only [ItemDb.step, ItemDb.ingest, ItemDb.writeRows, newPrimary, hplanned,
      filter_eq_some_iff] at hpoints
    have hmem : row.mediaAssetId
        ∈ (planIngestion E db.assets candidates fresh).2.map ItemMedia.mediaAssetId :=
      mem_map_of_mem hrow
    simp [hmem] at hpoints
  · exact points_reachable (h.tail rfl)

/-! ## An item with two images -/

def plainEnv : MediaEnv where
  hashValue := id
  isMediumStatUrl := fun _ => false

def photo (url : String) (confidence : Rat) : MediaCandidate where
  normalizedUrl := url
  kind := .image
  sourceField := "media_content"
  width := some 1200
  height := some 630
  confidence := confidence
  storagePath := none
  fetchStatus := "remote_only"

def numbered (first n : Nat) : UUID := ⟨BitVec.ofNat 128 (first + n)⟩

def firstParse : List MediaCandidate := [photo "bridge.jpg" 1, photo "river.jpg" 1]

def secondParse : List MediaCandidate := [photo "river.jpg" 1, photo "bridge.jpg" 1]

def parsedOnce : ItemDb := ItemDb.empty.step plainEnv (.ingest firstParse (numbered 1))

def parsedTwice : ItemDb := parsedOnce.step plainEnv (.ingest secondParse (numbered 3))

/-- The first photo alone, which the parse is not sure of any more. -/
def doubted : ItemDb :=
  parsedOnce.step plainEnv (.ingest [photo "bridge.jpg" (1 / 10)] (numbered 3))

theorem parsedOnce_reachable : (mediaSystem plainEnv).Reachable parsedOnce :=
  .tail (e := .ingest firstParse (numbered 1)) (.init rfl) rfl

/-- After the parse in the other order the item points to the other photo. -/
theorem parsedTwice_attached : Attached parsedTwice
        (planIngestion plainEnv parsedOnce.assets secondParse (numbered 3)).2
      ∧ parsedTwice.primaryImageId = some 2 := by
  refine ⟨ingest_attached parsedOnce_reachable secondParse (numbered 3), ?_⟩
  decide +kernel

/-- Both photos are primary images then; and one the parse doubts has the row of one. -/
theorem parsedTwice_two_primaries : (mediaSystem plainEnv).Reachable parsedTwice
      ∧ parsedTwice.itemMedia.rows.map (fun row => (row.mediaAssetId, row.role))
        = [(1, .inlineImage), (2, .primaryImage), (2, .inlineImage), (1, .primaryImage)]
      ∧ (mediaSystem plainEnv).Reachable doubted ∧ doubted.primaryImageId = none
      ∧ ((1 : UUID), MediaRole.primaryImage)
        ∈ doubted.itemMedia.rows.map fun row => (row.mediaAssetId, row.role) := by
  refine ⟨parsedOnce_reachable.tail (e := .ingest secondParse (numbered 3)) rfl, ?_,
    parsedOnce_reachable.tail (e := .ingest [photo "bridge.jpg" (1 / 10)] (numbered 3)) rfl, ?_,
    ?_⟩
  · decide +kernel
  · decide +kernel
  · decide +kernel

end NewsCraft.Ingestion.AttachMedia
