import NewsCraft.Generation.PackStatus

/-!
# A pack is ready when its revisions are approved

An edit commits a pending revision and leaves the status, so a pack that was ready stays
ready over it. And a decision that has read a variant does not see an edit of it that
commits before the decision does. An edit that meets neither keeps the status true, and so
does everything else: a decision holds its pack and its own revision.
-/

namespace NewsCraft.Generation.PackStatus

open Lib List Option Table

namespace PackDb

variable {db : PackDb}

/-! ## Current revisions -/

/-- The current revision of the variant is there and approved. -/
def Approved (db : PackDb) (variantId : UUID) : Prop :=
  ∃ row, db.current variantId = some row ∧ row.approvalState = .approved

theorem approved_congr {db' : PackDb} {variantId : UUID}
    (h : db'.current variantId = db.current variantId) :
    db'.Approved variantId ↔ db.Approved variantId := by
  unfold Approved
  rw [h]

theorem current_mem {variantId : UUID} {row : PlatformVariantRevision}
    (h : db.current variantId = some row) :
    row ∈ db.revisions.rows ∧ row.platformVariantId = variantId := by
  have hmem := argmax_mem (mem_def.mpr h)
  obtain ⟨hrow, hvariant⟩ := mem_filter.mp hmem
  exact ⟨hrow, by simpa using hvariant⟩

theorem argmax_map {f : PlatformVariantRevision → PlatformVariantRevision}
    (hf : ∀ row, (f row).revisionNumber = row.revisionNumber)
    (rows : List PlatformVariantRevision) :
    (rows.map f).argmax PlatformVariantRevision.revisionNumber
      = (rows.argmax PlatformVariantRevision.revisionNumber).map f := by
  induction rows with
  | nil => rfl
  | cons first rest ih =>
    rw [map_cons, argmax_cons, argmax_cons, ih]
    cases rest.argmax PlatformVariantRevision.revisionNumber with
    | none => rfl
    | some best =>
      simp only [map_some, hf]
      split <;> rfl

theorem current_decided (id : UUID) (state : VariantApprovalState) (variantId : UUID) :
    (db.decided id state).current variantId = (db.current variantId).map (decideRow id state) := by
  have hvariant : ∀ row, (decideRow id state row).platformVariantId = row.platformVariantId := by
    intro row
    unfold decideRow
    split <;> rfl
  have hnumber : ∀ row, (decideRow id state row).revisionNumber = row.revisionNumber := by
    intro row
    unfold decideRow
    split <;> rfl
  have hrows : (db.decided id state).revisionsOf variantId
      = (db.revisionsOf variantId).map (decideRow id state) := by
    change (db.revisions.rows.map (decideRow id state)).filter _ = _
    rw [List.filter_map]
    congr 1
    refine filter_congr ?_
    intro row _
    simp only [Function.comp, hvariant]
  unfold current
  rw [hrows, argmax_map hnumber]

theorem current_decided_of_ne {id : UUID} {state : VariantApprovalState} {variantId : UUID}
    {row : PlatformVariantRevision} (hrow : db.revisions.lookup id = some row)
    (hne : row.platformVariantId ≠ variantId) :
    (db.decided id state).current variantId = db.current variantId := by
  rw [current_decided]
  cases hcurrent : db.current variantId with
  | none => rfl
  | some found =>
    obtain ⟨hmem, hof⟩ := current_mem hcurrent
    rw [map_some]
    unfold decideRow
    rw [if_neg]
    intro hid
    have hfound := lookup_of_mem hmem
    have hkey : Keyed.key found = id := hid
    rw [hkey, hrow] at hfound
    cases hfound
    exact hne hof

theorem revisionNumber_le_maxNumber {variantId : UUID} {row : PlatformVariantRevision}
    (h : row ∈ db.revisionsOf variantId) : row.revisionNumber ≤ db.maxNumber variantId := by
  unfold maxNumber
  generalize db.revisionsOf variantId = rows at h
  induction rows with
  | nil => cases h
  | cons first rest ih =>
    rw [foldr_cons]
    rcases mem_cons.mp h with heq | hrest
    · rw [heq]
      exact Nat.le_max_left _ _
    · exact Nat.le_trans (ih hrest) (Nat.le_max_right _ _)

theorem lt_next_of_current {variantId : UUID} {row : PlatformVariantRevision}
    (h : row ∈ db.revisionsOf variantId) : row.revisionNumber
      < ((db.current variantId).map PlatformVariantRevision.revisionNumber).getD 0 + 1 := by
  cases hcurrent : db.current variantId with
  | none =>
    have hnil := argmax_eq_none.mp hcurrent
    rw [hnil] at h
    cases h
  | some best =>
    have hle := le_of_mem_argmax h (mem_def.mpr hcurrent)
    rw [map_some, getD_some]
    omega

/-! ## New revisions -/

section Append

variable {variantId revisionId : UUID} {number : Nat}

theorem current_append (hfree : db.revisions.lookup revisionId = none)
    (hnumber : ∀ row ∈ db.revisionsOf variantId, row.revisionNumber < number) :
    (db.append variantId revisionId number).current variantId
        = some ⟨revisionId, variantId, number, .pendingReview⟩ ∧ ∀ other, other ≠ variantId →
        (db.append variantId revisionId number).current other = db.current other := by
  have hrows : (db.append variantId revisionId number).revisions.rows
      = ⟨revisionId, variantId, number, .pendingReview⟩ :: db.revisions.rows :=
    rows_insert hfree
  constructor
  · unfold current revisionsOf
    rw [hrows, filter_cons_of_pos (by simp)]
    change List.argmax _ (_ :: db.revisionsOf variantId) = _
    rw [argmax_cons]
    cases hcurrent : (db.revisionsOf variantId).argmax PlatformVariantRevision.revisionNumber with
    | none => rfl
    | some best =>
      have hlt := hnumber best (argmax_mem (mem_def.mpr hcurrent))
      dsimp only
      rw [if_neg (by omega)]
  · intro other hne
    unfold current revisionsOf
    rw [hrows, filter_cons_of_neg (by simpa using Ne.symm hne)]

end Append

end PackDb

/-! ## The invariant -/

/-- **The status is true**: a pack is ready if and only if it has a variant and the current
revision of each of its variants is approved. -/
def Truthful (db : PackDb) : Prop :=
  ∀ pack ∈ db.packs.rows, pack.status = .ready ↔
    (∃ variant ∈ db.variants.rows, variant.contentPackId = pack.id)
      ∧ ∀ variant ∈ db.variants.rows, variant.contentPackId = pack.id → db.Approved variant.id

/-- What a decision that holds its pack has read is what it would read. -/
structure RefreshInv (db : PackDb) (decision : Decision) (copy : ContentPackState) (packId : UUID)
    (variants remaining : List UUID) (currentStates : List VariantApprovalState) : Prop where
  pack : ∃ pack, db.packs.lookup packId = some pack
    ∧ (copy = pack.status ∨ decision.approves = true ∧ copy = .draft)
  own : ∃ row variant, db.revisions.lookup decision.revisionId = some row
    ∧ db.variants.lookup row.platformVariantId = some variant ∧ variant.contentPackId = packId
  listed : ∀ variantId, variantId ∈ variants ↔
    ∃ variant ∈ db.variants.rows, variant.id = variantId ∧ variant.contentPackId = packId
  nodup : variants.Nodup
  seen : ∃ seen, variants = seen ++ remaining ∧ currentStates.length ≤ seen.length
    ∧ (allApproved variants remaining currentStates = true ↔
      ∀ variantId ∈ seen, (decision.view db).Approved variantId)

/-- A decision holds a pending revision, which is not the current one where the pack was ready. -/
structure DecisionInv (db : PackDb) (decision : Decision) : Prop where
  pending : ∃ row, db.revisions.lookup decision.revisionId = some row
    ∧ row.approvalState = .pendingReview
  stale : decision.phase = .locked (some .ready) →
    ∀ row, db.revisions.lookup decision.revisionId = some row →
      (db.current row.platformVariantId).map PlatformVariantRevision.id ≠ some row.id
  loaded : ∀ copy, decision.phase = .locked (some copy) → decision.approves = true
  decided : ∀ copy, decision.phase = .decided (some copy) → decision.approves = true ∧ copy = .draft
  refreshing : ∀ copy packId variants remaining currentStates,
    decision.phase = .refreshing copy packId variants remaining currentStates →
      RefreshInv db decision copy packId variants remaining currentStates

structure PackInv (w : PackWorld) : Prop where
  truthful : Truthful w.db
  decisions : ∀ decision ∈ w.decisions.rows, DecisionInv w.db decision
  revisionLock : ∀ decision ∈ w.decisions.rows, ∀ other ∈ w.decisions.rows,
    decision.revisionId = other.revisionId → decision.id = other.id
  packLock : ∀ decision ∈ w.decisions.rows, ∀ other ∈ w.decisions.rows, ∀ packId,
    decision.holds packId = true → other.holds packId = true → decision.id = other.id

/-! ## A revision that is added -/

/-- A pending revision was added to a variant of a pack, and the rest is as it was. -/
structure Appended (db db' : PackDb) (packId variantId : UUID) (row : PlatformVariantRevision) :
    Prop where
  free : db.revisions.lookup row.id = none
  pending : row.approvalState = .pendingReview
  kept : ∀ id found, db.revisions.lookup id = some found → db'.revisions.lookup id = some found
  current : db'.current variantId = some row
  others : ∀ other, other ≠ variantId → db'.current other = db.current other
  packs : ∀ other, other ≠ packId → db'.packs.lookup other = db.packs.lookup other
  variants : ∀ variant : PlatformVariant, variant.contentPackId ≠ packId →
    (variant ∈ db'.variants.rows ↔ variant ∈ db.variants.rows)
  keptVariants : ∀ id found, db.variants.lookup id = some found →
    db'.variants.lookup id = some found
  home : ∃ variant ∈ db'.variants.rows, variant.id = variantId ∧ variant.contentPackId = packId

section Appended

variable {db db' : PackDb} {packId variantId : UUID} {row : PlatformVariantRevision}
  {decision : Decision}

theorem Appended.ne_of_pack (h : Appended db db' packId variantId row) {variant : PlatformVariant}
    (hmem : variant ∈ db.variants.rows) (hpack : variant.contentPackId ≠ packId) :
    variant.id ≠ variantId := by
  intro hid
  obtain ⟨home, hhome, hhomeId, hhomePack⟩ := h.home
  have hmem' := (h.variants variant hpack).mpr hmem
  have hsame : variant = home := row_unique hmem' hhome (hid.trans hhomeId.symm)
  rw [hsame] at hpack
  exact hpack hhomePack

theorem Truthful.appended (h : Truthful db) (ha : Appended db db' packId variantId row)
    (hdraft : ∀ pack, db'.packs.lookup packId = some pack → pack.status = .draft) :
    Truthful db' := by
  intro pack hmem
  have hlookup := lookup_of_mem hmem
  by_cases hpack : pack.id = packId
  · have hstatus : pack.status = .draft := by
      refine hdraft pack ?_
      rw [← hpack]
      exact hlookup
    -- The new revision is the current one of its variant, and it is pending.
    rw [hstatus]
    constructor
    · nofun
    · intro hall
      obtain ⟨home, hhome, hhomeId, hhomePack⟩ := ha.home
      obtain ⟨found, hfound, happroved⟩ := hall.2 home hhome (hhomePack.trans hpack.symm)
      rw [hhomeId, ha.current] at hfound
      cases hfound
      rw [ha.pending] at happroved
      cases happroved
  · have hkey : Keyed.key pack = pack.id := rfl
    rw [hkey, ha.packs pack.id hpack] at hlookup
    have hbefore := h pack (mem_of_lookup hlookup)
    have hvariants : ∀ variant : PlatformVariant, variant.contentPackId = pack.id →
        (variant ∈ db'.variants.rows ↔ variant ∈ db.variants.rows) := by
      intro variant hof
      refine ha.variants variant ?_
      rw [hof]
      exact hpack
    have happroved : ∀ variant ∈ db.variants.rows, variant.contentPackId = pack.id →
        (db'.Approved variant.id ↔ db.Approved variant.id) := by
      intro variant hvariant hof
      refine PackDb.approved_congr (ha.others variant.id ?_)
      refine ha.ne_of_pack hvariant ?_
      rw [hof]
      exact hpack
    rw [hbefore]
    constructor
    · intro hall
      obtain ⟨⟨first, hfirst, hof⟩, hevery⟩ := hall
      refine ⟨⟨first, (hvariants first hof).mpr hfirst, hof⟩, ?_⟩
      intro variant hvariant hvariantOf
      have hold := (hvariants variant hvariantOf).mp hvariant
      exact (happroved variant hold hvariantOf).mpr (hevery variant hold hvariantOf)
    · intro hall
      obtain ⟨⟨first, hfirst, hof⟩, hevery⟩ := hall
      refine ⟨⟨first, (hvariants first hof).mp hfirst, hof⟩, ?_⟩
      intro variant hvariant hvariantOf
      exact (happroved variant hvariant hvariantOf).mp
        (hevery variant ((hvariants variant hvariantOf).mpr hvariant) hvariantOf)

theorem Appended.view_current (ha : Appended db db' packId variantId row) {other : UUID}
    (hne : other ≠ variantId) :
    (decision.view db').current other = (decision.view db).current other := by
  unfold Decision.view
  rw [PackDb.current_decided, PackDb.current_decided, ha.others other hne]

theorem Appended.not_approved (ha : Appended db db' packId variantId row)
    (h : DecisionInv db decision) : ¬ (decision.view db').Approved variantId := by
  intro happroved
  obtain ⟨found, hfound, hstate⟩ := happroved
  obtain ⟨own, hown, -⟩ := h.pending
  unfold Decision.view at hfound
  rw [PackDb.current_decided, ha.current, map_some] at hfound
  have hne : row.id ≠ decision.revisionId := by
    intro hid
    have hfree := ha.free
    rw [hid, hown] at hfree
    cases hfree
  unfold decideRow at hfound
  rw [if_neg hne] at hfound
  cases hfound
  rw [ha.pending] at hstate
  cases hstate

theorem DecisionInv.appended (h : DecisionInv db decision)
    (ha : Appended db db' packId variantId row)
    (hread : ∀ copy held variants remaining currentStates,
      decision.phase = .refreshing copy held variants remaining currentStates →
        RefreshInv db' decision copy held variants remaining currentStates) :
    DecisionInv db' decision := by
  obtain ⟨own, hown, hpending⟩ := h.pending
  refine ⟨⟨own, ha.kept _ own hown, hpending⟩, ?_, h.loaded, h.decided, hread⟩
  intro hphase found hfound
  rw [ha.kept _ own hown] at hfound
  cases hfound
  by_cases hvariant : own.platformVariantId = variantId
  · -- A revision that was not current is not, and one that was is no more.
    rw [hvariant, ha.current]
    intro hid
    have hsame : row.id = own.id := Option.some.inj hid
    have hkey : own.id = decision.revisionId := key_of_lookup hown
    have hfree := ha.free
    rw [hsame, hkey, hown] at hfree
    cases hfree
  · rw [ha.others _ hvariant]
    exact h.stale hphase own hown

theorem DecisionInv.elsewhere (h : DecisionInv db decision)
    (ha : Appended db db' packId variantId row) (hfree : decision.holds packId = false) :
    DecisionInv db' decision := by
  refine h.appended ha ?_
  intro copy held variants remaining currentStates hphase
  have hother : held ≠ packId := by
    unfold Decision.holds at hfree
    rw [hphase] at hfree
    simpa using hfree
  have hrefresh := h.refreshing copy held variants remaining currentStates hphase
  obtain ⟨pack, hpack, hcopy⟩ := hrefresh.pack
  obtain ⟨own, variant, hown, hvariant, hof⟩ := hrefresh.own
  have hlisted : ∀ id, id ∈ variants ↔
      ∃ variant ∈ db'.variants.rows, variant.id = id ∧ variant.contentPackId = held := by
    intro id
    rw [hrefresh.listed id]
    constructor
    · intro hexists
      obtain ⟨variant, hmem, hid, hheld⟩ := hexists
      exact ⟨variant, (ha.variants variant (hheld ▸ hother)).mpr hmem, hid, hheld⟩
    · intro hexists
      obtain ⟨variant, hmem, hid, hheld⟩ := hexists
      exact ⟨variant, (ha.variants variant (hheld ▸ hother)).mp hmem, hid, hheld⟩
  refine ⟨⟨pack, (ha.packs held hother).trans hpack, hcopy⟩,
    ⟨own, variant, ha.kept _ own hown, ha.keptVariants _ variant hvariant, hof⟩, hlisted,
    hrefresh.nodup, ?_⟩
  obtain ⟨seen, hsplit, hlength, hseen⟩ := hrefresh.seen
  refine ⟨seen, hsplit, hlength, ?_⟩
  rw [hseen]
  have hsame : ∀ id ∈ seen, ((decision.view db').Approved id ↔ (decision.view db).Approved id) := by
    intro id hid
    refine PackDb.approved_congr (ha.view_current ?_)
    have hmem : id ∈ variants := by
      rw [hsplit]
      exact mem_append_left _ hid
    obtain ⟨variant, hvariant, hvariantId, hheld⟩ := (hrefresh.listed id).mp hmem
    rw [← hvariantId]
    refine ha.ne_of_pack hvariant ?_
    rw [hheld]
    exact hother
  constructor
  · intro hall id hid
    exact (hsame id hid).mpr (hall id hid)
  · intro hall id hid
    exact (hsame id hid).mp (hall id hid)

/-- A decision that holds the pack reads the new revision, or has read one that is not approved. -/
theorem DecisionInv.unread (h : DecisionInv db decision)
    (ha : Appended db db' packId variantId row) (hpacks : db'.packs = db.packs)
    (hvariants : db'.variants = db.variants) (hopen : ∀ copy held variants remaining currentStates,
      decision.phase = .refreshing copy held variants remaining currentStates →
        variantId ∈ remaining ∨ allApproved variants remaining currentStates = false) :
    DecisionInv db' decision := by
  refine h.appended ha ?_
  intro copy held variants remaining currentStates hphase
  have hrefresh := h.refreshing copy held variants remaining currentStates hphase
  obtain ⟨own, variant, hown, hvariant, hof⟩ := hrefresh.own
  refine ⟨hpacks ▸ hrefresh.pack, ⟨own, variant, ha.kept _ own hown,
    ha.keptVariants _ variant hvariant, hof⟩, hvariants ▸ hrefresh.listed, hrefresh.nodup, ?_⟩
  obtain ⟨seen, hsplit, hlength, hseen⟩ := hrefresh.seen
  refine ⟨seen, hsplit, hlength, ?_⟩
  have hsame : ∀ id, id ≠ variantId →
      ((decision.view db').Approved id ↔ (decision.view db).Approved id) :=
    fun id hne => PackDb.approved_congr (ha.view_current hne)
  rcases hopen copy held variants remaining currentStates hphase with hleft | hstopped
  · -- The variant is still to be read, so it is none of those that were.
    have hne : ∀ id ∈ seen, id ≠ variantId := by
      intro id hid heq
      have hnodup := hrefresh.nodup
      rw [hsplit] at hnodup
      have hdisjoint := disjoint_of_nodup_append hnodup
      exact hdisjoint hid (heq ▸ hleft)
    rw [hseen]
    constructor
    · intro hall id hid
      exact (hsame id (hne id hid)).mpr (hall id hid)
    · intro hall id hid
      exact (hsame id (hne id hid)).mp (hall id hid)
  · constructor
    · intro hall
      rw [hstopped] at hall
      cases hall
    · intro hall
      refine hseen.mpr ?_
      intro id hid
      by_cases hne : id = variantId
      · exact absurd (hne ▸ hall id hid) (ha.not_approved h)
      · exact (hsame id hne).mp (hall id hid)

end Appended

end NewsCraft.Generation.PackStatus
