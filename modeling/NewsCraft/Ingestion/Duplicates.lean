import NewsCraft.Ingestion.Repository
import NewsCraft.Lib.Forest

/-!
# Duplicates of a content item

A merge links the losers to the winner, and with them what was linked to a loser. The winner
gives up its own link only when it is to one of the losers; linked to another item, it keeps
that link, and the losers are then linked to a duplicate. `Chains` is that case: along a run
without it every duplicate is linked to an item that is none.
-/

namespace NewsCraft.Ingestion

open Lib Lib.Forest

namespace Catalog

variable {α : Type} {db : Catalog α}

def link (db : Catalog α) (id : UUID) : Option UUID :=
  (db.contentItems.lookup id).bind ContentItem.duplicateOfId

/-- Duplicates are linked to items that are none, and what is bound leads to one item. -/
structure CanonicalForest (db : Catalog α) : Prop where
  acyclic : ∀ id, ¬ Relation.TransGen (LinkedTo db.link) id id
  direct : ∀ item ∈ db.contentItems.rows, ∀ id, item.duplicateOfId = some id →
    ∃ target ∈ db.contentItems.rows, target.id = id ∧ target.duplicateOfId = none
  resolves : ∀ sourceItem ∈ db.sourceItems.rows, ∀ id, sourceItem.contentItemId = some id →
    ∃! root, ResolvesTo db.link id root ∧ ∃ item ∈ db.contentItems.rows, item.id = root

/-- The foreign keys to `content_items`. -/
structure Closed (db : Catalog α) : Prop where
  duplicates : ∀ item ∈ db.contentItems.rows, ∀ id, item.duplicateOfId = some id →
    (db.contentItems.lookup id).isSome
  sourceItems : ∀ sourceItem ∈ db.sourceItems.rows, ∀ id, sourceItem.contentItemId = some id →
    (db.contentItems.lookup id).isSome

variable {item : ContentItem α}

theorem lookup_of_mem (h : item ∈ db.contentItems.rows) :
    db.contentItems.lookup item.id = some item :=
  Table.lookup_of_mem h

theorem link_of_mem (h : item ∈ db.contentItems.rows) : db.link item.id = item.duplicateOfId := by
  rw [link, lookup_of_mem h]
  rfl

variable {id : UUID}

theorem mem_of_link {target : UUID} (h : db.link id = some target) :
    ∃ item ∈ db.contentItems.rows, item.id = id ∧ item.duplicateOfId = some target := by
  obtain ⟨item, hitem, hdup⟩ := Option.bind_eq_some_iff.mp h
  exact ⟨item, Table.mem_of_lookup hitem, Table.key_of_lookup hitem, hdup⟩

theorem exists_of_isSome (h : (db.contentItems.lookup id).isSome) :
    ∃ item ∈ db.contentItems.rows, item.id = id := by
  obtain ⟨item, hitem⟩ := Option.isSome_iff_exists.mp h
  exact ⟨item, Table.mem_of_lookup hitem, Table.key_of_lookup hitem⟩

theorem Closed.exists_end (h : Closed db) {root : UUID}
    (hpath : Relation.ReflTransGen (LinkedTo db.link) id root)
    (hid : (db.contentItems.lookup id).isSome) : ∃ item ∈ db.contentItems.rows, item.id = root := by
  cases hpath with
  | refl => exact exists_of_isSome hid
  | tail _ hlink =>
    obtain ⟨item, hitem, -, hdup⟩ := mem_of_link hlink
    exact exists_of_isSome (h.duplicates item hitem _ hdup)

theorem Closed.canonicalForest_iff (h : Closed db) : CanonicalForest db ↔ Shallow db.link := by
  constructor
  · intro hf id target hlink
    obtain ⟨item, hitem, -, hdup⟩ := mem_of_link hlink
    obtain ⟨row, hrow, rfl, hnone⟩ := hf.direct item hitem target hdup
    rw [link_of_mem hrow, hnone]
  · intro hs
    refine ⟨hs.acyclic, fun item hitem id hdup => ?_, fun sourceItem hsource id hbound => ?_⟩
    · obtain ⟨target, htarget, rfl⟩ := exists_of_isSome (h.duplicates item hitem id hdup)
      refine ⟨target, htarget, rfl, ?_⟩
      rw [← link_of_mem htarget]
      exact hs item.id target.id (by rw [link_of_mem hitem, hdup])
    · obtain ⟨root, hroot, hunique⟩ := hs.existsUnique_resolvesTo id
      refine ⟨root, ⟨hroot, h.exists_end hroot.1 (h.sourceItems sourceItem hsource id hbound)⟩, ?_⟩
      rintro other ⟨hother, -⟩
      exact hunique other hother

/-! ## Matches -/

theorem mem_of_match (identities : List Identity)
    (h : item ∈ db.findContentItemsByIdentities identities) : item ∈ db.contentItems.rows :=
  List.mem_of_mem_filter ((List.mem_insertionSort _).mp h)

theorem nodup_matches (db : Catalog α) (identities : List Identity) :
    ((db.findContentItemsByIdentities identities).map ContentItem.id).Nodup := by
  have hperm := (List.perm_insertionSort (fun a b =>
    rankedBefore (db.selectedRows identities) a b = true)
      (db.contentItems.rows.filter fun item => (db.selectedRows identities).any fun row =>
        row.contentItemId = some item.id)).map ContentItem.id
  refine hperm.nodup_iff.mpr ?_
  exact (List.filter_sublist.map ContentItem.id).nodup db.contentItems.nodup

variable {identities : List Identity} {winner : ContentItem α} {losers : List (ContentItem α)}

theorem mem_loserIds (h : db.findContentItemsByIdentities identities = winner :: losers) :
    id ∈ loserIds winner losers ↔ ∃ item ∈ losers, item.id = id := by
  have hnodup := nodup_matches db identities
  rw [h, List.map_cons, List.nodup_cons] at hnodup
  rw [loserIds, List.mem_filter, List.mem_map, decide_eq_true_eq]
  constructor
  · exact And.left
  · rintro ⟨item, hitem, rfl⟩
    exact ⟨⟨item, hitem, rfl⟩, fun heq => hnodup.1 (heq ▸ List.mem_map_of_mem hitem)⟩

/-! ## A merge and the links -/

def mergedRow (winner : ContentItem α) (losers : List (ContentItem α)) (item : ContentItem α) :
    ContentItem α :=
  relinked winner.id (loserIds winner losers) (unlinked winner.id (loserIds winner losers) item)

theorem lookup_merge (hsome : loserIds winner losers ≠ []) (id : UUID) :
    (db.mergeDuplicateContentItems winner losers).contentItems.lookup id
      = (db.contentItems.lookup id).map (mergedRow winner losers) := by
  unfold mergeDuplicateContentItems
  rw [if_neg hsome]
  simp only
  rw [Table.lookup_map, Table.lookup_map, Option.map_map]
  rfl

theorem isSome_lookup_merge (db : Catalog α) (winner : ContentItem α)
    (losers : List (ContentItem α)) (id : UUID) :
    ((db.mergeDuplicateContentItems winner losers).contentItems.lookup id).isSome
      = (db.contentItems.lookup id).isSome := by
  by_cases hsome : loserIds winner losers = []
  · rw [mergeDuplicateContentItems, if_pos hsome]
  · rw [lookup_merge hsome, Option.isSome_map]

theorem duplicateOfId_mergedRow (winner : ContentItem α) (losers : List (ContentItem α))
    (item : ContentItem α) :
    (mergedRow winner losers item).duplicateOfId = if item.id = winner.id then
          if duplicateOfAny (loserIds winner losers) item then none else item.duplicateOfId
        else if item.id ∈ loserIds winner losers ∨ duplicateOfAny (loserIds winner losers) item then
          some winner.id
        else item.duplicateOfId := by
  rw [mergedRow]
  by_cases hwinner : item.id = winner.id
  · have hkept : (unlinked winner.id (loserIds winner losers) item).id = item.id := id_unlinked item
    rw [relinked, if_neg (by simp [hkept, hwinner]), if_pos hwinner, unlinked]
    by_cases hdup : duplicateOfAny (loserIds winner losers) item = true
    · simp [hwinner, hdup]
    · simp [hdup]
  · have hkept : unlinked winner.id (loserIds winner losers) item = item := by
      rw [unlinked, if_neg (by simp [hwinner])]
    rw [hkept, relinked, if_neg hwinner]
    by_cases hlinked : item.id ∈ loserIds winner losers
        ∨ duplicateOfAny (loserIds winner losers) item = true
    · rw [if_pos (by simp [hwinner, hlinked]), if_pos hlinked]
    · rw [if_neg (by simp [hwinner, hlinked]), if_neg hlinked]

theorem link_merge (hlosers : ∀ id ∈ loserIds winner losers, (db.contentItems.lookup id).isSome)
    (hsome : loserIds winner losers ≠ []) :
    (db.mergeDuplicateContentItems winner losers).link
      = merge db.link winner.id (loserIds winner losers) := by
  funext id
  rw [link, lookup_merge hsome]
  cases hid : db.contentItems.lookup id with
  | none =>
    have hlink : db.link id = none := by
      rw [link, hid]
      rfl
    have hmem : id ∉ loserIds winner losers := by
      intro hmem
      have hrow := hlosers id hmem
      rw [hid] at hrow
      cases hrow
    simp [merge, linkedInto, hlink, hmem]
  | some item =>
    have hkey : item.id = id := Table.key_of_lookup hid
    have hlink : db.link id = item.duplicateOfId := by
      rw [link, hid]
      rfl
    have hinto : linkedInto db.link (loserIds winner losers) id
        = duplicateOfAny (loserIds winner losers) item := by
      rw [linkedInto, hlink, duplicateOfAny]
    rw [Option.map_some, Option.bind_some, duplicateOfId_mergedRow, merge, hinto, hlink, hkey]

theorem mergeDuplicateContentItems_sourceItems (winner : ContentItem α)
    (losers : List (ContentItem α)) :
    (db.mergeDuplicateContentItems winner losers).sourceItems = db.sourceItems := by
  rw [mergeDuplicateContentItems]
  split <;> rfl

/-! ## What a call does to the links -/

variable {sourceItemId contentItemId : UUID}

@[simp] theorem contentItems_bindSourceItem :
    (db.bindSourceItem sourceItemId contentItemId).contentItems = db.contentItems := by
  rw [bindSourceItem]
  cases db.sourceItems.lookup sourceItemId <;> rfl

variable {db' : Catalog α}

theorem link_congr {db : Catalog α} (h : db'.contentItems = db.contentItems) :
    db'.link = db.link := by
  funext id
  rw [link, link, h]

theorem link_put {row row' : ContentItem α} (hrow : row ∈ db.contentItems.rows)
    (hid : row'.id = row.id) (hdup : row'.duplicateOfId = row.duplicateOfId) :
    Catalog.link { db with contentItems := db.contentItems.put row' } = db.link := by
  funext id
  rw [link, link]
  by_cases hne : id = row'.id
  · have hlookup := lookup_of_mem hrow
    have hput := Table.lookup_put_self (t := db.contentItems) (r := row') (by rw [← hid] at hlookup; exact hlookup)
    rw [hne, show db.contentItems.lookup row'.id = some row from hid ▸ hlookup]
    simp only
    rw [show (db.contentItems.put row').lookup row'.id = some row' from hput]
    exact hdup
  · rw [show (db.contentItems.put row').lookup id = db.contentItems.lookup id from
      Table.lookup_put_of_ne hne]

theorem link_insert {row : ContentItem α} (hfree : db.contentItems.lookup row.id = none)
    (hdup : row.duplicateOfId = none) :
    Catalog.link { db with contentItems := db.contentItems.insert row } = db.link := by
  funext id
  rw [link, link]
  have hinsert := Table.lookup_insert (t := db.contentItems) (r := row) hfree
  by_cases hne : id = row.id
  · rw [hne, hfree]
    simp only
    rw [show (db.contentItems.insert row).lookup row.id = some row from hinsert.1]
    exact hdup
  · simp only
    rw [hinsert.2 id hne]

theorem loserIds_subset (h : db.findContentItemsByIdentities identities = winner :: losers)
    (hid : id ∈ loserIds winner losers) : (db.contentItems.lookup id).isSome := by
  obtain ⟨item, hitem, rfl⟩ := (mem_loserIds h).mp hid
  have hmatch : item ∈ db.findContentItemsByIdentities identities := by
    rw [h]
    exact List.mem_cons_of_mem _ hitem
  rw [lookup_of_mem (mem_of_match identities hmatch)]
  rfl

theorem upsertContentItem_of_match
    (h : db.findContentItemsByIdentities identities = winner :: losers) (sourceItemId : UUID)
    (values : α) (preserve : α → α) (id : UUID) (now : Datetime) :
    ∃ existing, (db.mergeDuplicateContentItems winner losers).contentItems.lookup winner.id
        = some existing
      ∧ db.upsertContentItem sourceItemId identities values preserve id now = .ok (bindSourceItem
            { db.mergeDuplicateContentItems winner losers with
              contentItems := (db.mergeDuplicateContentItems winner losers).contentItems.put
                { existing with columns := preserve existing.columns, lastSeenAt := now } }
            sourceItemId existing.id) := by
  have hwinner : winner ∈ db.contentItems.rows := by
    refine mem_of_match identities ?_
    rw [h]
    exact List.mem_cons_self
  have hsome := isSome_lookup_merge db winner losers winner.id
  rw [lookup_of_mem hwinner, Option.isSome_some] at hsome
  obtain ⟨existing, hexisting⟩ := Option.isSome_iff_exists.mp hsome
  refine ⟨existing, hexisting, ?_⟩
  rw [upsertContentItem, h]
  simp only
  rw [hexisting]

theorem link_upsertContentItem {values : α} {preserve : α → α} {now : Datetime}
    (hok : db.upsertContentItem sourceItemId identities values preserve id now = .ok db') :
    (db'.link = db.link ∧ (db.findContentItemsByIdentities identities).length ≤ 1)
      ∨ ∃ winner loser losers,
          db.findContentItemsByIdentities identities = winner :: loser :: losers
          ∧ db'.link = merge db.link winner.id (loserIds winner (loser :: losers)) := by
  cases hmatches : db.findContentItemsByIdentities identities with
  | nil =>
    refine .inl ⟨?_, by simp⟩
    rw [upsertContentItem, hmatches] at hok
    simp only at hok
    cases hfree : db.contentItems.lookup id with
    | some row =>
      rw [hfree] at hok
      cases hok
    | none =>
      rw [hfree] at hok
      cases hok
      rw [link_congr contentItems_bindSourceItem]
      exact link_insert hfree rfl
  | cons winner losers =>
    obtain ⟨existing, hexisting, hresult⟩ :=
      upsertContentItem_of_match hmatches sourceItemId values preserve id now
    rw [hresult] at hok
    cases hok
    have hlink : (db.mergeDuplicateContentItems winner losers).link = Catalog.link (bindSourceItem
          { db.mergeDuplicateContentItems winner losers with
            contentItems := (db.mergeDuplicateContentItems winner losers).contentItems.put
              { existing with columns := preserve existing.columns, lastSeenAt := now } }
          sourceItemId existing.id) := by
      rw [link_congr contentItems_bindSourceItem]
      refine (link_put (Table.mem_of_lookup hexisting) ?_ ?_).symm
      · rfl
      · rfl
    rw [← hlink]
    cases losers with
    | nil => exact .inl ⟨rfl, by simp⟩
    | cons loser losers =>
      refine .inr ⟨winner, loser, losers, rfl, link_merge (fun _ => loserIds_subset hmatches) ?_⟩
      intro hnone
      have hmem := (mem_loserIds hmatches).mpr ⟨loser, List.mem_cons_self, rfl⟩
      rw [hnone] at hmem
      cases hmem

theorem attachIdentities_rows {sourceId : UUID}
    (h : db.attachIdentities contentItemId sourceItemId sourceId identities = .ok db') :
    db'.contentItems = db.contentItems ∧ db'.sourceItems = db.sourceItems := by
  induction identities generalizing db with
  | nil =>
    cases h
    exact ⟨rfl, rfl⟩
  | cons identity rest ih =>
    rw [attachIdentities] at h
    generalize hnew : ItemIdentity.mk _ _ _ _ _ _ _ _ _ = new at h
    cases hinsert : db.insertIdentity new with
    | error e =>
      rw [hinsert] at h
      cases h
    | ok mid =>
      rw [hinsert] at h
      have hmid : mid.contentItems = db.contentItems ∧ mid.sourceItems = db.sourceItems := by
        rw [insertIdentity] at hinsert
        repeat' split at hinsert
        all_goals cases hinsert
        all_goals exact ⟨rfl, rfl⟩
      obtain ⟨hitems, hsources⟩ := ih h
      exact ⟨hitems.trans hmid.1, hsources.trans hmid.2⟩

/-! ## Foreign keys -/

theorem closed_empty : Closed (empty : Catalog α) :=
  ⟨fun _ h => absurd h List.not_mem_nil, fun _ h => absurd h List.not_mem_nil⟩

theorem Closed.merge (h : Closed db) (losers : List (ContentItem α))
    (hwinner : (db.contentItems.lookup winner.id).isSome) :
    Closed (db.mergeDuplicateContentItems winner losers) where
  duplicates := fun item hitem id hdup => by
    rw [isSome_lookup_merge]
    by_cases hsome : loserIds winner losers = []
    · rw [mergeDuplicateContentItems, if_pos hsome] at hitem
      exact h.duplicates item hitem id hdup
    · have hrow := lookup_of_mem hitem
      rw [lookup_merge hsome] at hrow
      obtain ⟨row, hrow, rfl⟩ := Option.map_eq_some_iff.mp hrow
      rw [duplicateOfId_mergedRow] at hdup
      have hold := h.duplicates row (Table.mem_of_lookup hrow) id
      split at hdup
      · split at hdup
        · cases hdup
        · exact hold hdup
      · split at hdup
        · cases hdup
          exact hwinner
        · exact hold hdup
  sourceItems := fun sourceItem hsource id hbound => by
    rw [isSome_lookup_merge]
    rw [mergeDuplicateContentItems_sourceItems] at hsource
    exact h.sourceItems sourceItem hsource id hbound

theorem Closed.bindSourceItem (h : Closed db) (sourceItemId : UUID)
    (hthere : (db.contentItems.lookup contentItemId).isSome) :
    Closed (db.bindSourceItem sourceItemId contentItemId) where
  duplicates := by
    rw [contentItems_bindSourceItem]
    exact h.duplicates
  sourceItems := fun sourceItem hsource id hbound => by
    rw [contentItems_bindSourceItem]
    rw [Catalog.bindSourceItem] at hsource
    split at hsource
    · exact h.sourceItems sourceItem hsource id hbound
    · rcases Table.mem_put hsource with ⟨rfl, -⟩ | ⟨hold, -⟩
      · cases hbound
        exact hthere
      · exact h.sourceItems sourceItem hold id hbound

theorem Closed.setContentItems (h : Closed db) {items : Table (ContentItem α)}
    (hkeep : ∀ id, (db.contentItems.lookup id).isSome → (items.lookup id).isSome)
    (hdup : ∀ item ∈ items.rows, ∀ id, item.duplicateOfId = some id →
      ∃ old ∈ db.contentItems.rows, old.duplicateOfId = some id) :
    Closed { db with contentItems := items } where
  duplicates := fun item hitem id hlinked => by
    obtain ⟨old, hold, hlink⟩ := hdup item hitem id hlinked
    exact hkeep id (h.duplicates old hold id hlink)
  sourceItems := fun sourceItem hsource id hbound =>
    hkeep id (h.sourceItems sourceItem hsource id hbound)

theorem Closed.upsertContentItem (h : Closed db) {values : α} {preserve : α → α} {now : Datetime}
    (hok : db.upsertContentItem sourceItemId identities values preserve id now = .ok db') :
    Closed db' := by
  cases hmatches : db.findContentItemsByIdentities identities with
  | nil =>
    rw [Catalog.upsertContentItem, hmatches] at hok
    simp only at hok
    cases hfree : db.contentItems.lookup id with
    | some row =>
      rw [hfree] at hok
      cases hok
    | none =>
      rw [hfree] at hok
      cases hok
      have hinsert := Table.lookup_insert (t := db.contentItems)
        (r := (⟨id, none, now, now, values⟩ : ContentItem α)) hfree
      refine Closed.bindSourceItem (h.setContentItems ?_ ?_) _ ?_
      · intro other hother
        obtain ⟨row, hrow⟩ := Option.isSome_iff_exists.mp hother
        rw [Table.lookup_insert_of_some hrow]
        rfl
      · intro item hitem target hlinked
        rcases Table.mem_insert hitem with rfl | hold
        · cases hlinked
        · exact ⟨item, hold, hlinked⟩
      · rw [show (db.contentItems.insert _).lookup id = _ from hinsert.1]
        rfl
  | cons winner losers =>
    have hwinner : winner ∈ db.contentItems.rows := by
      refine mem_of_match identities ?_
      rw [hmatches]
      exact List.mem_cons_self
    have hthere : (db.contentItems.lookup winner.id).isSome := by
      rw [lookup_of_mem hwinner]
      rfl
    have hclosed := h.merge losers hthere
    obtain ⟨existing, hexisting, hresult⟩ :=
      upsertContentItem_of_match hmatches sourceItemId values preserve id now
    rw [hresult] at hok
    cases hok
    generalize db.mergeDuplicateContentItems winner losers = merged at hclosed hexisting
    have hkey : existing.id = winner.id := Table.key_of_lookup hexisting
    refine Closed.bindSourceItem (hclosed.setContentItems ?_ ?_) _ ?_
    · intro other hother
      rw [Table.isSome_lookup_put]
      exact hother
    · intro item hitem target hlinked
      rcases Table.mem_put hitem with ⟨rfl, -⟩ | ⟨hold, -⟩
      · exact ⟨existing, Table.mem_of_lookup hexisting, hlinked⟩
      · exact ⟨item, hold, hlinked⟩
    · simp only
      rw [Table.isSome_lookup_put, hkey, hexisting]
      rfl

theorem Closed.step (h : Closed db) (call : IngestCall α) : Closed (db.step call) := by
  cases call with
  | upsertSourceItem id sourceId externalIdNorm =>
    rw [Catalog.step, upsertSourceItem]
    split
    · exact h
    · refine ⟨h.duplicates, fun sourceItem hsource target hbound => ?_⟩
      rcases Table.mem_insert hsource with rfl | hold
      · cases hbound
      · exact h.sourceItems sourceItem hold target hbound
  | upsertContentItem sourceItemId identities values preserve id now =>
    rw [Catalog.step]
    cases hok : db.upsertContentItem sourceItemId identities values preserve id now with
    | error e => exact h
    | ok db' => exact h.upsertContentItem hok
  | attachIdentities contentItemId sourceItemId sourceId identities =>
    rw [Catalog.step]
    cases hok : db.attachIdentities contentItemId sourceItemId sourceId identities with
    | error e => exact h
    | ok db' =>
      obtain ⟨hitems, hsources⟩ := attachIdentities_rows hok
      refine ⟨?_, ?_⟩
      · simp only [hitems]
        exact h.duplicates
      · simp only [hitems, hsources]
        exact h.sourceItems

/-! ## Runs -/

/-- The call merges items into one that is linked to none of them. -/
def Chains (db : Catalog α) : IngestCall α → Prop
  | .upsertContentItem _ identities _ _ _ _ =>
    ∃ winner loser losers target,
      db.findContentItemsByIdentities identities = winner :: loser :: losers
      ∧ winner.duplicateOfId = some target ∧ ∀ item ∈ loser :: losers, item.id ≠ target
  | _ => False

theorem step_shallow_iff (hs : Shallow db.link) (call : IngestCall α) :
    Shallow (db.step call).link ↔ ¬ db.Chains call := by
  cases call with
  | upsertSourceItem id sourceId externalIdNorm =>
    refine iff_of_true ?_ not_false
    have hsame : (db.upsertSourceItem id sourceId externalIdNorm).contentItems
        = db.contentItems := by
      rw [upsertSourceItem]
      split <;> rfl
    rw [Catalog.step, link_congr hsame]
    exact hs
  | attachIdentities contentItemId sourceItemId sourceId identities =>
    refine iff_of_true ?_ not_false
    rw [Catalog.step]
    cases hok : db.attachIdentities contentItemId sourceItemId sourceId identities with
    | error e => exact hs
    | ok db' =>
      simp only
      rw [link_congr (attachIdentities_rows hok).1]
      exact hs
  | upsertContentItem sourceItemId identities values preserve id now =>
    rw [Catalog.step]
    cases hok : db.upsertContentItem sourceItemId identities values preserve id now with
    | error e =>
      refine iff_of_true hs ?_
      rintro ⟨winner, loser, losers, -, hmatches, -⟩
      obtain ⟨_, -, hresult⟩ :=
        upsertContentItem_of_match hmatches sourceItemId values preserve id now
      rw [hresult] at hok
      cases hok
    | ok db' =>
      simp only
      rcases link_upsertContentItem hok with ⟨hlink, hfew⟩ | ⟨winner, loser, losers, hmatches, hlink⟩
      · rw [hlink]
        refine iff_of_true hs ?_
        rintro ⟨_, _, _, _, hmatches, -⟩
        rw [hmatches, List.length_cons, List.length_cons] at hfew
        omega
      · have hmem : loser.id ∈ loserIds winner (loser :: losers) :=
          (mem_loserIds hmatches).mpr ⟨loser, List.mem_cons_self, rfl⟩
        have hne : loser.id ≠ winner.id := by
          rw [loserIds, List.mem_filter, decide_eq_true_eq] at hmem
          exact hmem.2
        have hwinner : winner ∈ db.contentItems.rows := by
          refine mem_of_match identities ?_
          rw [hmatches]
          exact List.mem_cons_self
        rw [hlink, merge_shallow_iff hs hmem hne, link_of_mem hwinner]
        constructor
        · rintro hinside ⟨_, _, _, target, hmatches', hdup, hout⟩
          rw [hmatches] at hmatches'
          cases hmatches'
          obtain ⟨item, hitem, rfl⟩ := (mem_loserIds hmatches).mp (hinside target hdup)
          exact hout item hitem rfl
        · intro hnot target hdup
          by_contra hout
          refine hnot ⟨winner, loser, losers, target, hmatches, hdup, fun item hitem heq => ?_⟩
          exact hout ((mem_loserIds hmatches).mpr ⟨item, hitem, heq⟩)

end Catalog

def tramText : String :=
  "the city council voted on tuesday to open th" ++ "e new tram line two months ahead of schedule"

def tramDigests : List (String × String) :=
  [ ("https://a.example/tram", "ee7480b702511deb0be4701763b4200514211c42a98c7b6433bfdcb33d7b4671"),
    ("https://a.example/tram?amp=1",
      "2482482454ab9412b0917dbb70e489e9b17a630440454aa61513ea75275ecff2"),
    ("https://b.example/tram", "aab32d454b638d35999dc6dd38f5b002383e1bc04625f3a5cb5ac1cac93fd064"),
    ("https://b.example/tram?amp=1",
      "6bde9a755cb1dc2e86af690ea7b692e518027c4c627074aa66ed46cd743918c5"),
    ("https://c.example/tram", "f84965443f92cd6a857b49d8bcdd97ada3af4058d2e2cd0a986b2c03964963ca"),
    ("https://c.example/tram?amp=1",
      "ab1cab25531bdbfcb6c76b890cdc161382c011c4c761eeb6feb1aa32a7e4ef6b"),
    (tramText, "114f64bfb733994fddfa39e021f2c99d34277e6c2ca7baa31392b4fffcf8299d"),
    ("tram line opens early 2026-05-01",
      "992ff40d39e9011fca57a6277517890a076f42e3025bc7b10d6e19120c9ce3b1")]

def tramNormalization : Normalization where
  fingerprintText := id
  hashValue text := ((tramDigests.find? fun entry => entry.1 = text).map Prod.snd).getD ""

def tramIdentities (canonical : String) (normalized : Option String) (text : String) :
    List Identity :=
  tramNormalization.buildItemIdentities ⟨100, "rss"⟩
    { externalIdNorm := "", sourceUrlNorm := normalized, canonicalUrlCandidate := some canonical,
      title := "tram line opens early", contentText := text, publishedRaw := none,
      publishedDate := some "2026-05-01" }

/-- The calls that ingest an item as the content item `boundTo`. -/
def ingest (sourceItemId boundTo : UUID) (now : Datetime) (identities : List Identity) :
    List (IngestCall Unit) :=
  [.upsertSourceItem sourceItemId 100 "",
    .upsertContentItem sourceItemId identities () id boundTo now,
    .attachIdentities boundTo sourceItemId 100 identities]

/-- Three items, one of which then turns up under a link of another. -/
def mergedOnce : List (IngestCall Unit) :=
  ingest 1 11 1 (tramIdentities "https://a.example/tram" (some "https://a.example/tram?amp=1") tramText)
    ++ ingest 2 12 2 (tramIdentities "https://b.example/tram" (some "https://b.example/tram?amp=1") "")
    ++ ingest 3 13 3 (tramIdentities "https://c.example/tram" (some "https://c.example/tram?amp=1") "")
    ++ ingest 4 11 4 (tramIdentities "https://a.example/tram" (some "https://b.example/tram?amp=1") "")

/-- The duplicate wins the next merge, and its own loser the one after. -/
def mergedThrice : List (IngestCall Unit) :=
  mergedOnce
    ++ ingest 5 12 5 (tramIdentities "https://b.example/tram" (some "https://c.example/tram?amp=1") "")
    ++ ingest 6 13 6 (tramIdentities "https://c.example/tram" none tramText)

def afterCalls (calls : List (IngestCall Unit)) : Catalog Unit := calls.foldl Catalog.step .empty

theorem reachable_of_calls (calls : List (IngestCall Unit)) {db : Catalog Unit}
    (h : (ingestSystem Unit).Reachable db) :
    (ingestSystem Unit).Reachable (calls.foldl Catalog.step db) := by
  induction calls generalizing db with
  | nil => exact h
  | cons call calls ih => exact ih (h.tail (e := call) rfl)

theorem unchained_step {db : Catalog Unit} {call : IngestCall Unit}
    (h : ((ingestSystem Unit).restrict fun db call => ¬ db.Chains call).Reachable db)
    (hok : ¬ db.Chains call) :
    ((ingestSystem Unit).restrict fun db call => ¬ db.Chains call).Reachable (db.step call) :=
  h.tail ⟨hok, rfl⟩

end NewsCraft.Ingestion
