import Mathlib.Data.List.Sort
import NewsCraft.Core.Basic
import NewsCraft.Lib.Table
import NewsCraft.Lib.Transition

/-!
# Binding parsed items to content items

A parsed item is known by its identities: its links, the name its source gives it, a hash of
its text. The content items that strong identities point at are all taken for the same: the
item binds to the best match, the others are merged into it, and the item's identities are
moved to it.

Of a content item the columns that come from the parsed text are one value of any type; only
the caller's `preserve` reads the stored text.
-/

namespace NewsCraft.Ingestion

open Lib

/-! ## Identities -/

structure Source where
  id : UUID
  platform : String

/-- What an identity is built from. `publishedDate` is `published_at.date().isoformat()`. -/
structure ParsedSourceItem where
  externalIdNorm : String
  sourceUrlNorm : Option String
  canonicalUrlCandidate : Option String
  title : String
  contentText : String
  publishedRaw : Option String
  publishedDate : Option String

inductive IdentityScope where
  | global
  | source
  deriving DecidableEq

structure Identity where
  identityType : String
  identityValue : String
  identityHash : String
  scope : IdentityScope
  sourceId : Option UUID
  confidence : Rat
  isStrong : Bool

/-- `fingerprint_text` and `hash_value`: Unicode folding and SHA-256. -/
structure Normalization where
  fingerprintText : String → String
  hashValue : String → String

namespace Normalization

variable (N : Normalization)

def contentHash (value : String) : String := N.hashValue (N.fingerprintText value)

def titleDateFingerprint (title dateKey : String) : String :=
  N.hashValue (N.fingerprintText (title ++ " " ++ dateKey))

/-- `_append_identity`. -/
def identity (identityType identityValue : String) (scope : IdentityScope) (isStrong : Bool)
    (sourceId : Option UUID) (confidence : Rat) : Identity :=
  ⟨identityType, identityValue, N.hashValue identityValue, scope, sourceId, confidence, isStrong⟩

/-- `len(value.strip())`. -/
def strippedLength (value : String) : Nat :=
  (((value.toList.dropWhile isPySpace).reverse).dropWhile isPySpace).length

/-- The key `build_item_identities` keeps one identity for. -/
def dedupKey (identity : Identity) : String × String × IdentityScope × Option UUID :=
  (identity.identityType, identity.identityHash, identity.scope, identity.sourceId)

/-- A dict keeps the place of a key's first entry and the value of its last. -/
def dedup (identities : List Identity) : List Identity :=
  identities.foldl (fun kept identity =>
    if kept.any fun other => dedupKey other = dedupKey identity then
      kept.map fun other => if dedupKey other = dedupKey identity then identity else other
    else
      kept ++ [identity]) []

/-- The text of an optional field, if it is truthy. -/
def given (value : Option String) : List String := (value.filter fun text => text ≠ "").toList

def buildItemIdentities (source : Source) (item : ParsedSourceItem) : List Identity :=
  let canonical := (given item.canonicalUrlCandidate).map fun url =>
    N.identity "canonical_url" url .global true none 1
  let normalized := (given item.sourceUrlNorm).map fun url =>
    N.identity "normalized_url" url .global true none 1
  let named :=
    if source.platform = "telegram_public" then
      [N.identity "telegram_post" item.externalIdNorm .global true none 1]
    else if source.platform = "rss" && item.externalIdNorm ≠ "" then
      [N.identity "rss_guid" item.externalIdNorm .source true (some source.id) 1]
    else if source.platform = "atom" && item.externalIdNorm ≠ "" then
      [N.identity "atom_id" item.externalIdNorm .source true (some source.id) 1]
    else
      []
  let hashed :=
    if 80 ≤ strippedLength item.contentText then
      [N.identity "content_hash" (N.contentHash item.contentText) .global true none (92 / 100)]
    else
      []
  let dateKey := item.publishedDate.getD (item.publishedRaw.getD "")
  let dated :=
    [N.identity "title_date_fingerprint" (N.titleDateFingerprint item.title dateKey) .source false
      (some source.id) (55 / 100)]
  dedup (canonical ++ normalized ++ named ++ hashed ++ dated)

end Normalization

/-! ## Rows -/

/-- A row of `content_items`. `columns` is what the parsed text determines. -/
structure ContentItem (α : Type) where
  id : UUID
  duplicateOfId : Option UUID
  firstSeenAt : Datetime
  lastSeenAt : Datetime
  columns : α

instance {α : Type} : Keyed (ContentItem α) UUID := ⟨ContentItem.id⟩

structure SourceItem where
  id : UUID
  sourceId : UUID
  externalIdNorm : String
  contentItemId : Option UUID

instance : Keyed SourceItem UUID := ⟨SourceItem.id⟩

/-- A row of `item_identities`; every writer gives it a source. -/
structure ItemIdentity where
  contentItemId : Option UUID
  sourceItemId : UUID
  identityType : String
  identityValue : String
  identityHash : String
  scope : IdentityScope
  sourceId : UUID
  confidence : Rat
  isStrong : Bool

structure Catalog (α : Type) where
  contentItems : Table (ContentItem α)
  sourceItems : Table SourceItem
  itemIdentities : List ItemIdentity

inductive IngestError where
  | valueError (message : String)
  /-- A foreign key without its row, or a primary key that is taken. -/
  | integrityError

namespace Catalog

variable {α : Type}

/-! ## Finding -/

/-- The clause a strong identity selects rows with. -/
def selects (identity : Identity) (row : ItemIdentity) : Bool :=
  identity.isStrong && row.identityType = identity.identityType
    && row.identityHash = identity.identityHash && row.scope = identity.scope
    && (identity.scope ≠ .source || some row.sourceId = identity.sourceId)

def selectedRows (db : Catalog α) (identities : List Identity) : List ItemIdentity :=
  db.itemIdentities.filter fun row => identities.any fun identity => selects identity row

/-- `best_confidence`: the greatest among the rows of the item. -/
def bestConfidence (rows : List ItemIdentity) (id : UUID) : Rat :=
  let own := (rows.filter fun row => row.contentItemId = some id).map ItemIdentity.confidence
  own.foldl (fun best confidence => if best < confidence then confidence else best) (own.headD 0)

/-- Best confidence first, then the oldest sighting, then the id. -/
def rankedBefore (rows : List ItemIdentity) (a b : ContentItem α) : Bool :=
  let best := bestConfidence rows a.id
  let other := bestConfidence rows b.id
  other < best || (best = other && (a.firstSeenAt < b.firstSeenAt
    || (a.firstSeenAt = b.firstSeenAt && a.id.int.toNat ≤ b.id.int.toNat)))

def findContentItemsByIdentities (db : Catalog α) (identities : List Identity) :
    List (ContentItem α) :=
  let rows := db.selectedRows identities
  (db.contentItems.rows.filter fun item =>
    rows.any fun row => row.contentItemId = some item.id).insertionSort
      fun a b => rankedBefore rows a b

/-! ## Merging -/

def duplicateOfAny (ids : List UUID) (item : ContentItem α) : Bool :=
  item.duplicateOfId.any fun id => id ∈ ids

/-- The winner gives up a link to one of the losers. -/
def unlinked (winnerId : UUID) (loserIds : List UUID) (item : ContentItem α) : ContentItem α :=
  if item.id = winnerId && duplicateOfAny loserIds item then { item with duplicateOfId := none }
  else item

/-- A loser, and what is linked to one, is linked to the winner. -/
def relinked (winnerId : UUID) (loserIds : List UUID) (item : ContentItem α) : ContentItem α :=
  if item.id ≠ winnerId && (item.id ∈ loserIds || duplicateOfAny loserIds item) then
    { item with duplicateOfId := some winnerId }
  else item

theorem id_unlinked {winnerId : UUID} {loserIds : List UUID} (item : ContentItem α) :
    (unlinked winnerId loserIds item).id = item.id := by
  rw [unlinked]
  split <;> rfl

theorem id_relinked {winnerId : UUID} {loserIds : List UUID} (item : ContentItem α) :
    (relinked winnerId loserIds item).id = item.id := by
  rw [relinked]
  split <;> rfl

def loserIds (winner : ContentItem α) (losers : List (ContentItem α)) : List UUID :=
  (losers.map ContentItem.id).filter fun id => id ≠ winner.id

/-- `_merge_duplicate_content_items`. -/
def mergeDuplicateContentItems (db : Catalog α) (winner : ContentItem α)
    (losers : List (ContentItem α)) : Catalog α :=
  if loserIds winner losers = [] then
    db
  else
    { db with
      contentItems :=
        (db.contentItems.map (unlinked winner.id (loserIds winner losers)) id_unlinked).map
          (relinked winner.id (loserIds winner losers)) id_relinked }

/-! ## Binding -/

/-- `source_item.content_item_id = …`. -/
def bindSourceItem (db : Catalog α) (sourceItemId contentItemId : UUID) : Catalog α :=
  match db.sourceItems.lookup sourceItemId with
  | none => db
  | some sourceItem =>
    { db with
      sourceItems := db.sourceItems.put { sourceItem with contentItemId := some contentItemId } }

/-- `upsert_content_item`, given `_content_item_values` and `_preserve_more_complete_content`. -/
def upsertContentItem (db : Catalog α) (sourceItemId : UUID) (identities : List Identity)
    (values : α) (preserve : α → α) (id : UUID) (now : Datetime) :
    Except IngestError (Catalog α) :=
  match db.findContentItemsByIdentities identities with
  | existing :: others =>
    let db := db.mergeDuplicateContentItems existing others
    match db.contentItems.lookup existing.id with
    | none => .error .integrityError
    | some existing =>
      .ok (bindSourceItem
        { db with
          contentItems := db.contentItems.put
            { existing with columns := preserve existing.columns, lastSeenAt := now } }
        sourceItemId existing.id)
  | [] =>
    match db.contentItems.lookup id with
    | some _ => .error .integrityError
    | none =>
      .ok (bindSourceItem
        { db with contentItems := db.contentItems.insert ⟨id, none, now, now, values⟩ }
        sourceItemId id)

/-! ## Attaching -/

/-- The unique index a row of this scope and strength falls under tells the two apart
by nothing else. -/
def sameIdentity (row new : ItemIdentity) : Bool :=
  row.isStrong = new.isStrong && row.scope = new.scope
    && (new.scope ≠ .source || row.sourceId = new.sourceId)
    && row.identityType = new.identityType && row.identityHash = new.identityHash

def reattach (new row : ItemIdentity) : ItemIdentity :=
  { row with
    contentItemId := new.contentItemId
    sourceItemId := new.sourceItemId
    identityValue := if new.isStrong then row.identityValue else new.identityValue
    confidence := if new.isStrong then row.confidence else new.confidence }

/-- `_identity_insert_statement`, executed. -/
def insertIdentity (db : Catalog α) (new : ItemIdentity) : Except IngestError (Catalog α) :=
  if new.scope = .global && !new.isStrong then
    .error (.valueError "Unsupported identity scope/strength combination: global/False")
  else if (new.contentItemId.bind db.contentItems.lookup).isNone
      || (db.sourceItems.lookup new.sourceItemId).isNone then
    .error .integrityError
  else if db.itemIdentities.any fun row => sameIdentity row new then
    .ok { db with
      itemIdentities := db.itemIdentities.map fun row =>
        if sameIdentity row new then reattach new row else row }
  else
    .ok { db with itemIdentities := db.itemIdentities ++ [new] }

/-- `attach_identities`. -/
def attachIdentities (db : Catalog α) (contentItemId sourceItemId sourceId : UUID) :
    List Identity → Except IngestError (Catalog α)
  | [] => .ok db
  | identity :: rest => do
      let db ← db.insertIdentity
        { contentItemId := some contentItemId
          sourceItemId := sourceItemId
          identityType := identity.identityType
          identityValue := identity.identityValue
          identityHash := identity.identityHash
          scope := identity.scope
          sourceId := identity.sourceId.getD sourceId
          confidence := identity.confidence
          isStrong := identity.isStrong }
      db.attachIdentities contentItemId sourceItemId sourceId rest

/-- `upsert_source_item_with_created`: the row of an item that is known, or a new one. -/
def upsertSourceItem (db : Catalog α) (id sourceId : UUID) (externalIdNorm : String) : Catalog α :=
  if externalIdNorm ≠ "" && db.sourceItems.rows.any fun row =>
      row.sourceId = sourceId && row.externalIdNorm = externalIdNorm then
    db
  else
    { db with sourceItems := db.sourceItems.insert ⟨id, sourceId, externalIdNorm, none⟩ }

end Catalog

/-! ## Calls -/

/-- One call of the repository, with the ids and the times it draws. -/
inductive IngestCall (α : Type) where
  | upsertSourceItem (id sourceId : UUID) (externalIdNorm : String)
  | upsertContentItem (sourceItemId : UUID) (identities : List Identity) (values : α)
      (preserve : α → α) (id : UUID) (now : Datetime)
  | attachIdentities (contentItemId sourceItemId sourceId : UUID) (identities : List Identity)

namespace Catalog

variable {α : Type}

/-- The rows after a call; one that raises is rolled back. -/
def step (db : Catalog α) : IngestCall α → Catalog α
  | .upsertSourceItem id sourceId externalIdNorm => db.upsertSourceItem id sourceId externalIdNorm
  | .upsertContentItem sourceItemId identities values preserve id now =>
    match db.upsertContentItem sourceItemId identities values preserve id now with
    | .error _ => db
    | .ok db => db
  | .attachIdentities contentItemId sourceItemId sourceId identities =>
    match db.attachIdentities contentItemId sourceItemId sourceId identities with
    | .error _ => db
    | .ok db => db

def empty : Catalog α := ⟨.empty, .empty, []⟩

end Catalog

def ingestSystem (α : Type) : System (Catalog α) (IngestCall α) where
  init db := db = .empty
  step db call db' := db' = db.step call

end NewsCraft.Ingestion
