import NewsCraft.Retention.Planning
import NewsCraft.Telegram.Media

/-!
# Media assets

A captured file is bound to the one live row of its URL hash, or to a new row; a tombstone
left by retention is never brought back. Only the columns retention reads are modelled;
`quality` is what `_classify_media` says.
-/

namespace NewsCraft.Ingestion

open Lib Retention Telegram List

structure MediaCandidate where
  normalizedUrl : String
  /-- In hundredths. -/
  confidence : Nat := 100
  storagePath : Option String
  checksumSha256 : Option String
  byteLength : Option Int
  fetchStatus : String

/-- A row of `media_assets`, with the hash of the URL it is bound to. -/
structure LiveMediaAsset extends MediaAsset where
  urlHash : String

instance : Keyed LiveMediaAsset UUID := ⟨fun asset => asset.id⟩

/-- One round of `dedupe_media_candidates`. -/
def keepStrongest (kept : List MediaCandidate) (candidate : MediaCandidate) : List MediaCandidate :=
  if kept.any fun existing => existing.normalizedUrl = candidate.normalizedUrl then
    kept.map fun existing =>
      if existing.normalizedUrl = candidate.normalizedUrl
          ∧ candidate.confidence > existing.confidence then
        candidate
      else
        existing
  else
    kept ++ [candidate]

/-- `dedupe_media_candidates`: the most confident of a URL, in the place of the first. -/
def dedupeMediaCandidates (candidates : List MediaCandidate) : List MediaCandidate :=
  candidates.foldl keepStrongest []

/-- `media_asset_values`, as a new row. -/
def mediaAssetValues (quality : MediaCandidate → Json) (candidate : MediaCandidate)
    (urlHash : String) (id : UUID) (now : Datetime) : LiveMediaAsset where
  id := id
  storagePath := candidate.storagePath
  fetchStatus := candidate.fetchStatus
  byteLength := candidate.byteLength
  checksumSha256 := candidate.checksumSha256
  rawMetadata := quality candidate
  createdAt := now
  updatedAt := now
  urlHash := urlHash

/-- `apply_media_candidate`: what the candidate does not say stays. -/
def applyMediaCandidate (quality : MediaCandidate → Json) (asset : LiveMediaAsset)
    (candidate : MediaCandidate) (now : Datetime) : LiveMediaAsset :=
  { asset with
    storagePath := candidate.storagePath.or asset.storagePath
    fetchStatus := if asset.fetchStatus = "remote_only" then candidate.fetchStatus
      else asset.fetchStatus
    byteLength := candidate.byteLength.or asset.byteLength
    checksumSha256 := candidate.checksumSha256.or asset.checksumSha256
    rawMetadata := if asset.rawMetadata = Json.empty then quality candidate else asset.rawMetadata
    updatedAt := now }

/-- `_upsert_media_asset`. Live rows are unique by their URL hash. -/
def upsertMediaAsset (quality : MediaCandidate → Json) (hashValue : String → String)
    (assets : Table LiveMediaAsset) (candidate : MediaCandidate) (fresh : UUID) (now : Datetime) :
    Table LiveMediaAsset :=
  let urlHash := hashValue candidate.normalizedUrl
  match assets.rows.find? fun asset => asset.urlHash = urlHash ∧ asset.fetchStatus ≠ "expired" with
  | some existing => assets.put (applyMediaCandidate quality existing candidate now)
  | none => assets.insert (mediaAssetValues quality candidate urlHash fresh now)

/-- `upsert_media_assets`, with the identifiers the database gives new rows. -/
def upsertMediaAssets (quality : MediaCandidate → Json) (hashValue : String → String)
    (assets : Table LiveMediaAsset) (candidates : List MediaCandidate) (fresh : Nat → UUID)
    (now : Datetime) : Table LiveMediaAsset :=
  (dedupeMediaCandidates candidates).zipIdx.foldl (fun assets (candidate, index) =>
    upsertMediaAsset quality hashValue assets candidate (fresh index) now) assets

/-! ## What a row may point at -/

variable {quality : MediaCandidate → Json} {hashValue : String → String}
  {assets : Table LiveMediaAsset} {now : Datetime}

theorem mem_keepStrongest {kept : List MediaCandidate} {candidate kept' : MediaCandidate}
    (h : kept' ∈ keepStrongest kept candidate) : kept' ∈ kept ∨ kept' = candidate := by
  unfold keepStrongest at h
  split_ifs at h
  · obtain ⟨existing, hmem, heq⟩ := mem_map.mp h
    split_ifs at heq
    · exact .inr heq.symm
    · exact .inl (heq ▸ hmem)
  · rcases mem_append.mp h with hkept | hnew
    · exact .inl hkept
    · exact .inr (mem_singleton.mp hnew)

theorem mem_dedupeMediaCandidates {candidates : List MediaCandidate} {candidate : MediaCandidate}
    (h : candidate ∈ dedupeMediaCandidates candidates) : candidate ∈ candidates := by
  have hfold : ∀ rest kept, candidate ∈ List.foldl keepStrongest kept rest →
      candidate ∈ kept ∨ candidate ∈ rest := by
    intro rest
    induction rest with
    | nil => exact fun kept h => .inl h
    | cons next rest ih =>
      intro kept h
      rcases ih _ h with hround | hrest
      · rcases mem_keepStrongest hround with hkept | rfl
        · exact .inl hkept
        · exact .inr mem_cons_self
      · exact .inr (mem_cons_of_mem _ hrest)
  rcases hfold candidates [] h with hnone | hmem
  · cases hnone
  · exact hmem

theorem storagePath_of_upsert {candidate : MediaCandidate} {fresh : UUID} {asset : LiveMediaAsset}
    (h : asset ∈ (upsertMediaAsset quality hashValue assets candidate fresh now).rows) :
    (∃ old ∈ assets.rows, asset.storagePath = old.storagePath)
      ∨ asset.storagePath = candidate.storagePath := by
  unfold upsertMediaAsset at h
  cases hfind : assets.rows.find? fun asset =>
      asset.urlHash = hashValue candidate.normalizedUrl ∧ asset.fetchStatus ≠ "expired" with
  | some existing =>
    simp only [hfind] at h
    rcases Table.mem_put h with ⟨rfl, -⟩ | hold
    · cases hpath : candidate.storagePath with
      | none =>
        refine .inl ⟨existing, mem_of_find?_eq_some hfind, ?_⟩
        simp only [applyMediaCandidate, hpath, Option.none_or]
      | some path =>
        refine .inr ?_
        simp only [applyMediaCandidate, hpath, Option.some_or]
    · exact .inl ⟨asset, hold.1, rfl⟩
  | none =>
    simp only [hfind] at h
    rcases Table.mem_insert h with rfl | hold
    · exact .inr rfl
    · exact .inl ⟨asset, hold, rfl⟩

theorem storagePath_of_upserts {candidates : List MediaCandidate} {fresh : Nat → UUID}
    {asset : LiveMediaAsset}
    (h : asset ∈ (upsertMediaAssets quality hashValue assets candidates fresh now).rows) :
    (∃ old ∈ assets.rows, asset.storagePath = old.storagePath)
      ∨ ∃ candidate ∈ candidates, asset.storagePath = candidate.storagePath := by
  have hfold : ∀ (indexed : List (MediaCandidate × Nat)) (assets : Table LiveMediaAsset),
      asset ∈ (indexed.foldl (fun assets (candidate, index) =>
        upsertMediaAsset quality hashValue assets candidate (fresh index) now) assets).rows →
      (∃ old ∈ assets.rows, asset.storagePath = old.storagePath)
        ∨ ∃ entry ∈ indexed, asset.storagePath = entry.1.storagePath := by
    intro indexed
    induction indexed with
    | nil => exact fun assets h => .inl ⟨asset, h, rfl⟩
    | cons entry indexed ih =>
      intro assets h
      rcases ih _ h with ⟨middle, hmiddle, hsame⟩ | ⟨later, hlater, hsame⟩
      · rcases storagePath_of_upsert hmiddle with ⟨old, hold, hpath⟩ | hpath
        · exact .inl ⟨old, hold, hsame.trans hpath⟩
        · exact .inr ⟨entry, mem_cons_self, hsame.trans hpath⟩
      · exact .inr ⟨later, mem_cons_of_mem _ hlater, hsame⟩
  rcases hfold _ assets h with hold | ⟨entry, hentry, hsame⟩
  · exact .inl hold
  refine .inr ⟨entry.1, ?_, hsame⟩
  exact mem_dedupeMediaCandidates (fst_mem_of_mem_zipIdx hentry)

end NewsCraft.Ingestion
