import NewsCraft.Generation.PackReady

/-!
# Every interleaving of edits, generation and decisions

Generation and the edits add a pending revision, and a decision commits its revision with
the status it computed from the rows it saw; with its commit these are the rows everyone
sees.
-/

namespace NewsCraft.Generation.PackStatus

open Lib Table List Option

/-! ## What generation and the edits commit -/

section Writers

variable {w : PackWorld} {db db' : PackDb}

theorem appended_append {variant : PlatformVariant} {revisionId : UUID} {number : Nat}
    (hvariant : variant ∈ db.variants.rows) (hfree : db.revisions.lookup revisionId = none)
    (hnumber : ∀ row ∈ db.revisionsOf variant.id, row.revisionNumber < number) :
    Appended db (db.append variant.id revisionId number) variant.contentPackId variant.id
      ⟨revisionId, variant.id, number, .pendingReview⟩ := by
  obtain ⟨hcurrent, hothers⟩ := PackDb.current_append hfree hnumber
  refine ⟨hfree, rfl, ?_, hcurrent, hothers, fun _ _ => rfl, fun _ _ => Iff.rfl, fun _ _ h => h,
    ⟨variant, hvariant, rfl, rfl⟩⟩
  intro id found hfound
  exact lookup_insert_of_some hfound

theorem editVariant_spec {variantId baseRevisionId revisionId : UUID}
    (h : w.editVariant variantId baseRevisionId revisionId = some db') :
    ∃ variant row, w.db.variants.lookup variantId = some variant
      ∧ Appended w.db db' variant.contentPackId variantId row
      ∧ db'.packs = w.db.packs ∧ db'.variants = w.db.variants := by
  unfold PackWorld.editVariant at h
  cases hvariant : w.db.variants.lookup variantId with
  | none =>
    rw [hvariant] at h
    cases h
  | some variant =>
    cases hparent : w.db.revisions.lookup baseRevisionId with
    | none =>
      rw [hvariant, hparent] at h
      cases h
    | some parent =>
      rw [hvariant, hparent] at h
      dsimp only at h
      split_ifs at h with hstop htaken
      cases h
      obtain rfl : variant.id = variantId := key_of_lookup hvariant
      refine ⟨variant, _, rfl, appended_append (mem_of_lookup hvariant)
        (by simpa using htaken) ?_, rfl, rfl⟩
      intro row hrow
      have hle := PackDb.revisionNumber_le_maxNumber hrow
      omega

theorem editManualPlatformVariant_spec {variantId baseRevisionId revisionId : UUID}
    (h : w.editManualPlatformVariant variantId baseRevisionId revisionId = some db') :
    ∃ variant row, w.db.variants.lookup variantId = some variant
      ∧ Appended w.db db' variant.contentPackId variantId row
      ∧ db'.packs = w.db.packs ∧ db'.variants = w.db.variants := by
  unfold PackWorld.editManualPlatformVariant at h
  cases hvariant : w.db.variants.lookup variantId with
  | none =>
    rw [hvariant] at h
    cases h
  | some variant =>
    cases hcurrent : w.db.current variantId with
    | none =>
      rw [hvariant, hcurrent] at h
      cases h
    | some current =>
      rw [hvariant, hcurrent] at h
      dsimp only at h
      split_ifs at h with hstop htaken
      cases h
      obtain rfl : variant.id = variantId := key_of_lookup hvariant
      refine ⟨variant, _, rfl, appended_append (mem_of_lookup hvariant)
        (by simpa using htaken) ?_, rfl, rfl⟩
      intro row hrow
      have hlt := PackDb.lt_next_of_current hrow
      rw [hcurrent] at hlt
      exact hlt

theorem draftPack_spec {storyRevisionId brandProfileId packId : UUID} {drafted : PackDb × UUID}
    (h : w.draftPack storyRevisionId brandProfileId packId = some drafted) :
    drafted.1.variants = w.db.variants ∧ drafted.1.revisions = w.db.revisions
      ∧ (∀ other, other ≠ drafted.2 → drafted.1.packs.lookup other = w.db.packs.lookup other)
      ∧ (∃ pack, drafted.1.packs.lookup drafted.2 = some pack ∧ pack.status = .draft)
      ∧ (w.packHeld drafted.2 = false ∨ w.db.packs.lookup drafted.2 = none) := by
  unfold PackWorld.draftPack at h
  cases hfound : w.db.packs.rows.find? fun pack =>
      pack.storyRevisionId = storyRevisionId ∧ pack.brandProfileId = brandProfileId with
  | none =>
    rw [hfound] at h
    split_ifs at h with htaken
    cases h
    have hfree : w.db.packs.lookup packId = none := by simpa using htaken
    obtain ⟨hself, hothers⟩ := lookup_insert
      (r := (⟨packId, storyRevisionId, brandProfileId, .draft⟩ : ContentPack)) hfree
    exact ⟨rfl, rfl, hothers, ⟨_, hself, rfl⟩, .inr hfree⟩
  | some pack =>
    rw [hfound] at h
    dsimp only at h
    split_ifs at h with hheld
    cases h
    have hmem := mem_of_find?_eq_some hfound
    have hlookup : w.db.packs.lookup pack.id = some pack := lookup_of_mem hmem
    refine ⟨rfl, rfl, ?_, ⟨{ pack with status := .draft }, ?_, rfl⟩, .inl (by simpa using hheld)⟩
    · intro other hne
      exact lookup_put_of_ne hne
    · exact lookup_put_self (r := { pack with status := .draft }) hlookup

theorem platformVariant_spec {packId variantId : UUID} {platform : Platform}
    {found : PackDb × UUID} (h : db.platformVariant packId platform variantId = some found) :
    found.1.packs = db.packs ∧ found.1.revisions = db.revisions
      ∧ (∀ variant : PlatformVariant, variant.contentPackId ≠ packId →
        (variant ∈ found.1.variants.rows ↔ variant ∈ db.variants.rows))
      ∧ (∀ id variant, db.variants.lookup id = some variant →
        found.1.variants.lookup id = some variant)
      ∧ ∃ variant ∈ found.1.variants.rows, variant.id = found.2
        ∧ variant.contentPackId = packId := by
  unfold PackDb.platformVariant at h
  cases hfound : db.variants.rows.find? fun variant =>
      variant.contentPackId = packId ∧ variant.platform = platform with
  | none =>
    rw [hfound] at h
    split_ifs at h with htaken
    cases h
    have hfree : db.variants.lookup variantId = none := by simpa using htaken
    have hrows := rows_insert (r := (⟨variantId, packId, platform⟩ : PlatformVariant)) hfree
    refine ⟨rfl, rfl, ?_, ?_, ⟨variantId, packId, platform⟩, ?_, rfl, rfl⟩
    · intro variant hne
      rw [hrows, mem_cons]
      constructor
      · intro hmem
        rcases hmem with heq | hold
        · rw [heq] at hne
          exact absurd rfl hne
        · exact hold
      · exact .inr
    · intro id variant hlookup
      exact lookup_insert_of_some hlookup
    · change _ ∈ (db.variants.insert _).rows
      rw [hrows]
      exact mem_cons_self
  | some variant =>
    rw [hfound] at h
    cases h
    have hmem := mem_of_find?_eq_some hfound
    have hof := find?_some hfound
    rw [decide_eq_true_iff] at hof
    exact ⟨rfl, rfl, fun _ _ => Iff.rfl, fun _ _ hlookup => hlookup, variant, hmem, rfl, hof.1⟩

theorem generate_spec {storyRevisionId brandProfileId packId variantId revisionId : UUID}
    {platform : Platform} {regeneration : Option (UUID × UUID)}
    (h : w.generate storyRevisionId brandProfileId platform regeneration packId variantId
      revisionId = some db') :
    ∃ drafted written row, Appended w.db db' drafted written row
      ∧ (∃ pack, db'.packs.lookup drafted = some pack ∧ pack.status = .draft)
      ∧ (w.packHeld drafted = false ∨ w.db.packs.lookup drafted = none) := by
  obtain ⟨drafted, hdrafted, h⟩ := bind_eq_some_iff.mp h
  obtain ⟨found, hfound, h⟩ := bind_eq_some_iff.mp h
  obtain ⟨hdraftVariants, hdraftRevisions, hdraftPacks, hdraft, hlock⟩ := draftPack_spec hdrafted
  obtain ⟨hpacks, hrevisions, hvariants, hkept, home, hhome, hhomeId, hhomePack⟩ :=
    platformVariant_spec hfound
  unfold PackWorld.persistRevision at h
  dsimp only at h
  split_ifs at h with hheld hregenerates htaken
  cases h
  have hfree : found.1.revisions.lookup revisionId = none := by simpa using htaken
  have hnumber : ∀ row ∈ found.1.revisionsOf home.id, row.revisionNumber
      < ((found.1.current home.id).map PlatformVariantRevision.revisionNumber).getD 0 + 1 :=
    fun row hrow => PackDb.lt_next_of_current hrow
  have happend := appended_append hhome hfree hnumber
  rw [hhomePack] at happend
  rw [← hhomeId]
  have hsame : ∀ id, found.1.current id = w.db.current id := by
    intro id
    unfold PackDb.current PackDb.revisionsOf
    rw [hrevisions, hdraftRevisions]
  have hrows : found.1.revisions = w.db.revisions := hrevisions.trans hdraftRevisions
  refine ⟨drafted.2, home.id, _, ⟨?_, rfl, ?_, happend.current, ?_, ?_, ?_, ?_, happend.home⟩, ?_,
    hlock⟩
  · rw [← hrows]
    exact hfree
  · intro id row hrow
    refine happend.kept id row ?_
    rw [hrows]
    exact hrow
  · intro other hne
    rw [happend.others other hne, hsame]
  · intro other hne
    rw [happend.packs other hne, hpacks]
    exact hdraftPacks other hne
  · intro variant hne
    rw [happend.variants variant hne, hvariants variant hne, hdraftVariants]
  · intro id variant hlookup
    refine happend.keptVariants id variant (hkept id variant ?_)
    rw [hdraftVariants]
    exact hlookup
  · obtain ⟨pack, hpack, hstatus⟩ := hdraft
    refine ⟨pack, ?_, hstatus⟩
    change found.1.packs.lookup _ = _
    rw [hpacks]
    exact hpack

end Writers

/-! ## What a decision commits -/

section Commit

variable {w : PackWorld} {decision : Decision} {copy : ContentPackState} {packId : UUID}
  {variants : List UUID} {currentStates : List VariantApprovalState}

theorem refreshTarget_spec {db : PackDb}
    (h : RefreshInv db decision copy packId variants [] currentStates) :
    refreshTarget variants currentStates = .ready ↔
      (∃ variant ∈ db.variants.rows, variant.contentPackId = packId)
        ∧ ∀ variant ∈ db.variants.rows, variant.contentPackId = packId →
          (decision.view db).Approved variant.id := by
  obtain ⟨seen, hsplit, -, hseen⟩ := h.seen
  rw [append_nil] at hsplit
  subst hsplit
  have hnonempty : variants ≠ [] ↔ ∃ variant ∈ db.variants.rows, variant.contentPackId = packId := by
    constructor
    · intro hne
      obtain ⟨id, hid⟩ := exists_mem_of_ne_nil variants hne
      obtain ⟨variant, hmem, -, hof⟩ := (h.listed id).mp hid
      exact ⟨variant, hmem, hof⟩
    · intro hexists
      obtain ⟨variant, hmem, hof⟩ := hexists
      exact ne_nil_of_mem ((h.listed variant.id).mpr ⟨variant, hmem, rfl, hof⟩)
  have hall : (∀ id ∈ variants, (decision.view db).Approved id) ↔
      ∀ variant ∈ db.variants.rows, variant.contentPackId = packId →
        (decision.view db).Approved variant.id := by
    constructor
    · intro hevery variant hmem hof
      exact hevery variant.id ((h.listed variant.id).mpr ⟨variant, hmem, rfl, hof⟩)
    · intro hevery id hid
      obtain ⟨variant, hmem, hvariantId, hof⟩ := (h.listed id).mp hid
      rw [← hvariantId]
      exact hevery variant hmem hof
  unfold refreshTarget
  rw [← hnonempty, ← hall, ← hseen]
  split_ifs with hready
  · exact ⟨fun _ => hready, fun _ => rfl⟩
  · constructor
    · nofun
    · intro hholds
      exact absurd hholds hready

theorem approved_view {db : PackDb} (happroves : decision.approves = true) {variantId : UUID}
    (h : db.Approved variantId) : (decision.view db).Approved variantId := by
  obtain ⟨row, hcurrent, hstate⟩ := h
  unfold Decision.view PackDb.Approved
  rw [PackDb.current_decided, hcurrent]
  refine ⟨_, rfl, ?_⟩
  unfold decideRow
  split_ifs
  · unfold Decision.target
    rw [if_pos happroves]
  · exact hstate

theorem refreshed_spec (htrue : Truthful w.db)
    (h : RefreshInv w.db decision copy packId variants [] currentStates) :
    (∃ pack, (w.refreshed copy packId (refreshTarget variants currentStates)).lookup packId
        = some pack ∧ pack.status = refreshTarget variants currentStates)
      ∧ ∀ other, other ≠ packId →
        (w.refreshed copy packId (refreshTarget variants currentStates)).lookup other
          = w.db.packs.lookup other := by
  have htarget := refreshTarget_spec h
  obtain ⟨pack, hpack, hcopy⟩ := h.pack
  have hid : pack.id = packId := key_of_lookup hpack
  unfold PackWorld.refreshed
  rw [hpack]
  split_ifs with hwrites
  · constructor
    · refine ⟨{ pack with status := refreshTarget variants currentStates }, ?_, rfl⟩
      have hself : w.db.packs.lookup pack.id = some pack := by
        rw [hid]
        exact hpack
      have hput := lookup_put_self
        (r := { pack with status := refreshTarget variants currentStates }) hself
      rw [← hid]
      exact hput
    · intro other hne
      refine lookup_put_of_ne ?_
      rw [hid]
      exact hne
  · refine ⟨⟨pack, hpack, ?_⟩, fun _ _ => rfl⟩
    rw [not_not] at hwrites
    rcases hcopy with hfresh | ⟨happroves, hdraft⟩
    · rw [← hfresh, hwrites]
    · -- The copy was a draft: a pack that is ready would be ready to the session as well.
      rw [← hwrites, hdraft]
      cases hstatus : pack.status with
      | draft => rfl
      | ready =>
        obtain ⟨hexists, hall⟩ := (htrue pack (mem_of_lookup hpack)).mp hstatus
        rw [hid] at hexists hall
        have hready := htarget.mpr ⟨hexists, fun variant hmem hof =>
          approved_view happroves (hall variant hmem hof)⟩
        rw [← hwrites, hdraft] at hready
        cases hready

theorem view_current_of_ne {db : PackDb} {remaining : List UUID}
    (h : RefreshInv db decision copy packId variants remaining currentStates)
    {variant : PlatformVariant} (hmem : variant ∈ db.variants.rows)
    (hpack : variant.contentPackId ≠ packId) :
    (decision.view db).current variant.id = db.current variant.id := by
  obtain ⟨own, home, hown, hhome, hof⟩ := h.own
  refine PackDb.current_decided_of_ne hown ?_
  intro hid
  have hhomeId : home.id = own.platformVariantId := key_of_lookup hhome
  have hsame : variant = home := row_unique hmem (mem_of_lookup hhome) (hid.symm.trans hhomeId.symm)
  rw [hsame] at hpack
  exact hpack hof

theorem truthful_commit (htrue : Truthful w.db)
    (h : RefreshInv w.db decision copy packId variants [] currentStates) :
    Truthful (w.commit decision copy packId variants currentStates).db := by
  obtain ⟨⟨written, hwritten, hstatus⟩, hothers⟩ := refreshed_spec htrue h
  intro pack hmem
  have hlookup := lookup_of_mem hmem
  have hkey : Keyed.key pack = pack.id := rfl
  rw [hkey] at hlookup
  by_cases hpack : pack.id = packId
  · rw [hpack] at hlookup
    have hsame : written = pack := Option.some.inj (hwritten.symm.trans hlookup)
    rw [← hsame, hstatus, refreshTarget_spec h, hsame, hpack]
    exact Iff.rfl
  · have hbefore : w.db.packs.lookup pack.id = some pack := (hothers pack.id hpack).symm.trans hlookup
    rw [htrue pack (mem_of_lookup hbefore)]
    have happroved : ∀ variant ∈ w.db.variants.rows, variant.contentPackId = pack.id →
        (((w.commit decision copy packId variants currentStates).db).Approved variant.id
          ↔ w.db.Approved variant.id) := by
      intro variant hvariant hof
      refine PackDb.approved_congr ?_
      refine view_current_of_ne h hvariant ?_
      rw [hof]
      exact hpack
    constructor
    · intro hall
      exact ⟨hall.1, fun variant hvariant hof =>
        (happroved variant hvariant hof).mpr (hall.2 variant hvariant hof)⟩
    · intro hall
      exact ⟨hall.1, fun variant hvariant hof =>
        (happroved variant hvariant hof).mp (hall.2 variant hvariant hof)⟩

theorem decisionInv_commit {other : Decision} (htrue : Truthful w.db)
    (h : RefreshInv w.db decision copy packId variants [] currentStates)
    (hother : DecisionInv w.db other) (hrevision : other.revisionId ≠ decision.revisionId)
    (hpack : other.holds packId = false) :
    DecisionInv (w.commit decision copy packId variants currentStates).db other := by
  obtain ⟨-, hpacks⟩ := refreshed_spec htrue h
  obtain ⟨own, hown, hpending⟩ := hother.pending
  have hkeep : ∀ row : PlatformVariantRevision, row.id ≠ decision.revisionId →
      decideRow decision.revisionId decision.target row = row := by
    intro row hne
    exact if_neg hne
  have hrevisions : ∀ id, (decision.view w.db).revisions.lookup id
      = (w.db.revisions.lookup id).map (decideRow decision.revisionId decision.target) := by
    intro id
    unfold Decision.view PackDb.decided
    rw [lookup_map]
  have hownId : own.id = other.revisionId := key_of_lookup hown
  have hown' : (decision.view w.db).revisions.lookup other.revisionId = some own := by
    rw [hrevisions, hown, map_some, hkeep own]
    rw [hownId]
    exact hrevision
  refine ⟨⟨own, hown', hpending⟩, ?_, hother.loaded, hother.decided, ?_⟩
  · intro hphase row hrow
    obtain rfl : own = row := Option.some.inj (hown'.symm.trans hrow)
    have hstale := hother.stale hphase own hown
    have hids : ((decision.view w.db).current own.platformVariantId).map PlatformVariantRevision.id
          = (w.db.current own.platformVariantId).map PlatformVariantRevision.id := by
      unfold Decision.view
      rw [PackDb.current_decided, Option.map_map]
      congr 1
      funext found
      exact key_decideRow decision.revisionId decision.target found
    intro hid
    exact hstale (hids.symm.trans hid)
  · intro copy' held variants' remaining currentStates' hphase
    have hheld : held ≠ packId := by
      unfold Decision.holds at hpack
      rw [hphase] at hpack
      simpa using hpack
    have hrefresh := hother.refreshing copy' held variants' remaining currentStates' hphase
    obtain ⟨pack, hfound, hcopy⟩ := hrefresh.pack
    obtain ⟨row, variant, hrow, hvariant, hof⟩ := hrefresh.own
    rw [hown] at hrow
    cases hrow
    refine ⟨⟨pack, (hpacks held hheld).trans hfound, hcopy⟩, ⟨own, variant, hown', hvariant, hof⟩,
      hrefresh.listed, hrefresh.nodup, ?_⟩
    obtain ⟨seen, hsplit, hlength, hseen⟩ := hrefresh.seen
    refine ⟨seen, hsplit, hlength, ?_⟩
    rw [hseen]
    have hsame : ∀ id ∈ seen,
        ((other.view (w.commit decision copy packId variants currentStates).db).Approved id
          ↔ (other.view w.db).Approved id) := by
      intro id hid
      have hmem : id ∈ variants' := by
        rw [hsplit]
        exact mem_append_left _ hid
      obtain ⟨found, hfoundMem, hfoundId, hfoundPack⟩ := (hrefresh.listed id).mp hmem
      refine PackDb.approved_congr ?_
      have hcurrent := view_current_of_ne h hfoundMem (by rw [hfoundPack]; exact hheld)
      rw [hfoundId] at hcurrent
      unfold Decision.view at hcurrent ⊢
      rw [PackDb.current_decided, PackDb.current_decided]
      exact congrArg _ hcurrent
    constructor
    · intro hall id hid
      exact (hsame id hid).mpr (hall id hid)
    · intro hall id hid
      exact (hsame id hid).mp (hall id hid)

end Commit

/-! ## Sessions -/

section Sessions

variable {w : PackWorld}

theorem holds_of_packHeld {packId : UUID} (h : w.packHeld packId = false) {decision : Decision}
    (hmem : decision ∈ w.decisions.rows) : decision.holds packId = false := by
  have hnone := any_eq_false.mp h decision hmem
  simpa using hnone

theorem PackInv.close (h : PackInv w) (id : UUID) : PackInv (w.close id) where
  truthful := h.truthful
  decisions decision hmem := h.decisions decision (mem_erase.mp hmem).1
  revisionLock := by
    intro decision hmem other hother
    exact h.revisionLock decision (mem_erase.mp hmem).1 other (mem_erase.mp hother).1
  packLock := by
    intro decision hmem other hother
    exact h.packLock decision (mem_erase.mp hmem).1 other (mem_erase.mp hother).1

theorem PackInv.put (h : PackInv w) {before after : Decision}
    (hlookup : w.decisions.lookup after.id = some before)
    (hrevision : after.revisionId = before.revisionId) (hinv : DecisionInv w.db after)
    (hholds : ∀ packId, after.holds packId = true →
      before.holds packId = true ∨ w.packHeld packId = false) :
    PackInv (w.put after) := by
  have hbefore := mem_of_lookup hlookup
  have hid : before.id = after.id := key_of_lookup hlookup
  refine ⟨h.truthful, ?_, ?_, ?_⟩
  · intro decision hmem
    rcases mem_put hmem with ⟨heq, -⟩ | ⟨hold, -⟩
    · rw [heq]
      exact hinv
    · exact h.decisions decision hold
  · intro decision hmem other hother hsame
    rcases mem_put hmem with ⟨heq, -⟩ | ⟨hold, -⟩ <;>
      rcases mem_put hother with ⟨heq', -⟩ | ⟨hold', -⟩
    · rw [heq, heq']
    · rw [heq, hrevision] at hsame
      rw [heq, ← hid]
      exact h.revisionLock before hbefore other hold' hsame
    · rw [heq', hrevision] at hsame
      rw [heq', ← hid]
      exact h.revisionLock decision hold before hbefore hsame
    · exact h.revisionLock decision hold other hold' hsame
  · intro decision hmem other hother packId hheld hheld'
    have hnew : ∀ found ∈ w.decisions.rows, found.holds packId = true →
        after.holds packId = true → before.id = found.id := by
      intro found hfound hfoundHolds hafter
      rcases hholds packId hafter with hheld | hfree
      · exact h.packLock before hbefore found hfound packId hheld hfoundHolds
      · rw [holds_of_packHeld hfree hfound] at hfoundHolds
        cases hfoundHolds
    rcases mem_put hmem with ⟨heq, -⟩ | ⟨hold, -⟩ <;>
      rcases mem_put hother with ⟨heq', -⟩ | ⟨hold', -⟩
    · rw [heq, heq']
    · rw [heq] at hheld ⊢
      rw [← hid]
      exact hnew other hold' hheld' hheld
    · rw [heq'] at hheld' ⊢
      rw [← hid]
      exact (hnew decision hold hheld hheld').symm
    · exact h.packLock decision hold other hold' packId hheld hheld'

theorem PackInv.begin (h : PackInv w) (id revisionId : UUID) (approves : Bool) :
    PackInv (w.begin id revisionId approves) := by
  unfold PackWorld.begin
  cases hlookup : w.db.revisions.lookup revisionId with
  | none => exact h
  | some revision =>
    dsimp only
    split_ifs with hstop
    · exact h
    rw [not_or, not_not] at hstop
    obtain ⟨hpending, hfree⟩ := hstop
    have hnone : ∀ other ∈ w.decisions.rows, other.revisionId ≠ revisionId := by
      intro other hmem heq
      refine hfree ?_
      exact any_eq_true.mpr ⟨other, hmem, by simpa using heq⟩
    refine ⟨h.truthful, ?_, ?_, ?_⟩
    · intro decision hmem
      rcases mem_insert hmem with heq | hold
      · rw [heq]
        refine ⟨⟨revision, hlookup, hpending⟩, ?_, ?_, ?_, ?_⟩
        · nofun
        · nofun
        · nofun
        · nofun
      · exact h.decisions decision hold
    · intro decision hmem other hother hsame
      rcases mem_insert hmem with heq | hold <;> rcases mem_insert hother with heq' | hold'
      · rw [heq, heq']
      · rw [heq] at hsame
        exact absurd hsame.symm (hnone other hold')
      · rw [heq'] at hsame
        exact absurd hsame (hnone decision hold)
      · exact h.revisionLock decision hold other hold' hsame
    · intro decision hmem other hother packId hheld hheld'
      rcases mem_insert hmem with heq | hold
      · rw [heq] at hheld
        cases hheld
      · rcases mem_insert hother with heq' | hold'
        · rw [heq'] at hheld'
          cases hheld'
        · exact h.packLock decision hold other hold' packId hheld hheld'

theorem packOf_spec {decision : Decision} {pack : ContentPack} (h : w.packOf decision = some pack) :
    ∃ row variant, w.db.revisions.lookup decision.revisionId = some row
      ∧ w.db.variants.lookup row.platformVariantId = some variant
      ∧ w.db.packs.lookup variant.contentPackId = some pack ∧ pack.id = variant.contentPackId := by
  unfold PackWorld.packOf at h
  cases hrow : w.db.revisions.lookup decision.revisionId with
  | none =>
    rw [hrow] at h
    cases h
  | some row =>
    rw [hrow] at h
    dsimp only at h
    cases hvariant : w.db.variants.lookup row.platformVariantId with
    | none =>
      rw [hvariant] at h
      cases h
    | some variant =>
      rw [hvariant] at h
      exact ⟨row, variant, rfl, hvariant, h, key_of_lookup h⟩

section Steps

variable {decision : Decision}

/-- The pack is loaded while the revision is pending: a pack that is ready has another one. -/
theorem PackInv.load (h : PackInv w) (hlookup : w.decisions.lookup decision.id = some decision)
    {copy : Option ContentPackState} (hphase : decision.phase = .locked copy)
    (happroves : decision.approves = true) (keeps : Bool) :
    PackInv (w.load decision copy keeps) := by
  have hinv := h.decisions decision (mem_of_lookup hlookup)
  unfold PackWorld.load
  cases hpack : w.packOf decision with
  | none => exact h.close _
  | some pack =>
    split_ifs
    · obtain ⟨row, variant, hrow, hvariant, hfound, hid⟩ := packOf_spec hpack
      refine h.put hlookup rfl ⟨hinv.pending, ?_, ?_, ?_, ?_⟩ ?_
      · intro hready found hfoundRow
        cases copy with
        | some loaded =>
          refine hinv.stale ?_ found hfoundRow
          rw [hphase]
          exact hready
        | none =>
          have hstatus : pack.status = .ready :=
            Option.some.inj (DecisionPhase.locked.inj hready)
          rw [hrow] at hfoundRow
          cases hfoundRow
          have hvariantId : variant.id = row.platformVariantId := key_of_lookup hvariant
          obtain ⟨-, hall⟩ := (h.truthful pack (mem_of_lookup hfound)).mp hstatus
          obtain ⟨best, hbest, happroved⟩ :=
            hall variant (mem_of_lookup hvariant) hid.symm
          rw [hvariantId] at hbest
          rw [hbest]
          intro hsame
          obtain ⟨hbestMem, -⟩ := PackDb.current_mem hbest
          have hbestId : best.id = row.id := Option.some.inj hsame
          have heq : best = row :=
            row_unique hbestMem (mem_of_lookup hrow) hbestId
          obtain ⟨own, hown, hpending⟩ := hinv.pending
          rw [hrow] at hown
          cases hown
          rw [heq, hpending] at happroved
          cases happroved
      · intro loaded _
        exact happroves
      · nofun
      · nofun
      · nofun
    · exact h

theorem PackInv.decide (h : PackInv w) (hlookup : w.decisions.lookup decision.id = some decision)
    {copy : Option ContentPackState} (hphase : decision.phase = .locked copy) :
    PackInv (w.decide decision copy) := by
  have hinv := h.decisions decision (mem_of_lookup hlookup)
  unfold PackWorld.decide
  split_ifs with hstale
  · exact h.close _
  refine h.put hlookup rfl ⟨hinv.pending, ?_, ?_, ?_, ?_⟩ ?_
  · nofun
  · nofun
  · intro loaded hdecided
    have hcopy : copy = some loaded := DecisionPhase.decided.inj hdecided
    rw [hcopy] at hphase
    have happroves := hinv.loaded loaded hphase
    refine ⟨happroves, ?_⟩
    cases loaded with
    | draft => rfl
    | ready =>
      -- The revision was not the current one when the pack was loaded, and is not now.
      refine absurd ⟨happroves, ?_⟩ hstale
      obtain ⟨row, hrow, -⟩ := hinv.pending
      unfold PackWorld.isCurrent
      rw [hrow]
      exact decide_eq_false (hinv.stale hphase row hrow)
  · nofun
  · nofun

theorem PackInv.lock (h : PackInv w) (hlookup : w.decisions.lookup decision.id = some decision)
    {copy : Option ContentPackState} (hphase : decision.phase = .decided copy) :
    PackInv (w.lock decision copy) := by
  have hinv := h.decisions decision (mem_of_lookup hlookup)
  unfold PackWorld.lock
  cases hpack : w.packOf decision with
  | none => exact h.close _
  | some pack =>
    dsimp only
    split_ifs with hheld
    · exact h
    obtain ⟨row, variant, hrow, hvariant, hfound, hid⟩ := packOf_spec hpack
    refine h.put hlookup rfl ⟨hinv.pending, ?_, ?_, ?_, ?_⟩ ?_
    · nofun
    · nofun
    · nofun
    · intro copy' packId variants remaining currentStates hrefreshing
      cases hrefreshing
      refine ⟨⟨pack, hid ▸ hfound, ?_⟩, ⟨row, variant, hrow, hvariant, hid.symm⟩, ?_, ?_,
        ⟨[], rfl, Nat.le_refl 0, ?_⟩⟩
      · cases copy with
        | none => exact .inl rfl
        | some loaded => exact .inr (hinv.decided loaded hphase)
      · intro variantId
        unfold PackDb.variantsOf
        rw [List.mem_insertionSort, List.mem_map]
        constructor
        · intro hexists
          obtain ⟨found, hmem, hfoundId⟩ := hexists
          obtain ⟨hrows, hof⟩ := mem_filter.mp hmem
          exact ⟨found, hrows, hfoundId, by simpa using hof⟩
        · intro hexists
          obtain ⟨found, hrows, hfoundId, hof⟩ := hexists
          exact ⟨found, mem_filter.mpr ⟨hrows, by simpa using hof⟩, hfoundId⟩
      · unfold PackDb.variantsOf
        refine (perm_insertionSort _ _).nodup_iff.mpr ?_
        exact w.db.variants.nodup.sublist (filter_sublist.map PlatformVariant.id)
      · constructor
        · nofun
        · intro _
          unfold allApproved
          simp
    · intro packId hholds
      right
      unfold Decision.holds at hholds
      have hsame : pack.id = packId := by simpa using hholds
      rw [← hsame]
      simpa using hheld

theorem allApproved_read {variants remaining : List UUID} {variantId : UUID}
    {currentStates : List VariantApprovalState} {state : Option VariantApprovalState}
    {seen : List UUID} (hsplit : variants = seen ++ variantId :: remaining)
    (hlength : currentStates.length ≤ seen.length) :
    allApproved variants remaining (currentStates ++ state.toList) = true ↔
      allApproved variants (variantId :: remaining) currentStates = true
        ∧ state = some .approved := by
  have htotal : variants.length = seen.length + (remaining.length + 1) := by
    rw [hsplit, length_append, length_cons]
  unfold allApproved
  rw [htotal, length_append, length_cons, all_append]
  cases state with
  | none =>
    simp only [toList_none, length_nil, reduceCtorEq, and_false, iff_false]
    intro hall
    have hcount := (of_decide_eq_true hall).1
    omega
  | some found =>
    simp only [toList_some, length_singleton, all_cons, all_nil,
      Bool.and_true, Bool.and_eq_true, decide_eq_true_iff, Option.some.injEq]
    constructor
    · intro hall
      exact ⟨⟨by omega, hall.2.1⟩, hall.2.2⟩
    · intro hall
      exact ⟨by omega, hall.1.2, hall.2⟩

theorem PackInv.read (h : PackInv w) (hlookup : w.decisions.lookup decision.id = some decision)
    {copy : ContentPackState} {packId variantId : UUID} {variants remaining : List UUID}
    {currentStates : List VariantApprovalState}
    (hphase : decision.phase
      = .refreshing copy packId variants (variantId :: remaining) currentStates) :
    PackInv (w.put { decision with
      phase := .refreshing copy packId variants remaining
        (currentStates ++ (w.currentState decision variantId).toList) }) := by
  have hinv := h.decisions decision (mem_of_lookup hlookup)
  have hrefresh := hinv.refreshing _ _ _ _ _ hphase
  refine h.put hlookup rfl ⟨hinv.pending, ?_, ?_, ?_, ?_⟩ ?_
  · nofun
  · nofun
  · nofun
  · intro copy' packId' variants' remaining' currentStates' hrefreshing
    cases hrefreshing
    obtain ⟨seen, hsplit, hlength, hseen⟩ := hrefresh.seen
    refine ⟨hrefresh.pack, hrefresh.own, hrefresh.listed, hrefresh.nodup, seen ++ [variantId],
      ?_, ?_, ?_⟩
    · rw [append_assoc]
      exact hsplit
    · rw [length_append, length_append, length_singleton]
      have hone : (w.currentState decision variantId).toList.length ≤ 1 := by
        cases w.currentState decision variantId <;> simp
      omega
    · have hstate : w.currentState decision variantId = some .approved ↔
          (decision.view w.db).Approved variantId := by
        unfold PackWorld.currentState PackDb.Approved
        rw [map_eq_some_iff]
      rw [allApproved_read hsplit hlength, hseen, hstate]
      constructor
      · intro hall id hid
        rcases mem_append.mp hid with hold | hnew
        · exact hall.1 id hold
        · rw [mem_singleton.mp hnew]
          exact hall.2
      · intro hall
        exact ⟨fun id hid => hall id (mem_append_left _ hid),
          hall variantId (mem_append_right _ mem_cons_self)⟩
  · intro found hholds
    left
    unfold Decision.holds at hholds ⊢
    rw [hphase]
    exact hholds

theorem PackInv.commit (h : PackInv w) (hlookup : w.decisions.lookup decision.id = some decision)
    {copy : ContentPackState} {packId : UUID} {variants : List UUID}
    {currentStates : List VariantApprovalState}
    (hphase : decision.phase = .refreshing copy packId variants [] currentStates) :
    PackInv (w.commit decision copy packId variants currentStates) := by
  have hmem := mem_of_lookup hlookup
  have hrefresh := (h.decisions decision hmem).refreshing _ _ _ _ _ hphase
  have hholds : decision.holds packId = true := by
    unfold Decision.holds
    rw [hphase]
    exact decide_eq_true rfl
  refine ⟨truthful_commit h.truthful hrefresh, ?_, ?_, ?_⟩
  · intro other hother
    obtain ⟨hold, hne⟩ := mem_erase.mp hother
    refine decisionInv_commit h.truthful hrefresh (h.decisions other hold) ?_ ?_
    · intro hsame
      exact hne (h.revisionLock other hold decision hmem hsame)
    · by_contra hheld
      have hheld' : other.holds packId = true := by simpa using hheld
      exact hne (h.packLock other hold decision hmem packId hheld' hholds)
  · intro first hfirst second hsecond
    exact h.revisionLock first (mem_erase.mp hfirst).1 second (mem_erase.mp hsecond).1
  · intro first hfirst second hsecond
    exact h.packLock first (mem_erase.mp hfirst).1 second (mem_erase.mp hsecond).1

theorem PackInv.decisionStep (h : PackInv w)
    (hlookup : w.decisions.lookup decision.id = some decision) (event : PackEvent) :
    PackInv (w.decisionStep decision event) := by
  unfold PackWorld.decisionStep
  cases event with
  | load id keeps =>
    cases hphase : decision.phase with
    | locked copy =>
      split_ifs with happroves
      · exact h.load hlookup hphase happroves keeps
      · exact h
    | _ => exact h
  | decide id =>
    cases hphase : decision.phase with
    | locked copy => exact h.decide hlookup hphase
    | _ => exact h
  | lock id =>
    cases hphase : decision.phase with
    | decided copy => exact h.lock hlookup hphase
    | _ => exact h
  | read id =>
    cases hphase : decision.phase with
    | refreshing copy packId variants remaining currentStates =>
      cases remaining with
      | nil => exact h
      | cons variantId rest => exact h.read hlookup hphase
    | _ => exact h
  | commit id =>
    cases hphase : decision.phase with
    | refreshing copy packId variants remaining currentStates =>
      cases remaining with
      | nil => exact h.commit hlookup hphase
      | cons variantId rest => exact h
    | _ => exact h
  | rollback id => exact h.close _
  | _ => exact h

theorem PackInv.stepOf (h : PackInv w) (id : UUID) (event : PackEvent) :
    PackInv (w.stepOf id event) := by
  unfold PackWorld.stepOf
  cases hlookup : w.decisions.lookup id with
  | none => exact h
  | some decision =>
    have hid : decision.id = id := key_of_lookup hlookup
    refine h.decisionStep ?_ event
    rw [hid]
    exact hlookup

end Steps

end Sessions

/-! ## Every interleaving -/

namespace PackWorld

/-- An edit leaves the status true: its pack is a draft, and a decision that holds the pack has the
variant still to read, or has read one that is not approved. -/
def EditOpen (w : PackWorld) (variantId : UUID) : Prop :=
  ∀ variant, w.db.variants.lookup variantId = some variant →
    (∀ pack, w.db.packs.lookup variant.contentPackId = some pack → pack.status = .draft)
      ∧ ∀ decision ∈ w.decisions.rows, ∀ copy variants remaining currentStates, decision.phase
            = .refreshing copy variant.contentPackId variants remaining currentStates →
          variantId ∈ remaining ∨ allApproved variants remaining currentStates = false

/-- What a history must keep to for the status to be true. -/
def EditsDrafts (w : PackWorld) : PackEvent → Prop
  | .editVariant variantId _ _ => w.EditOpen variantId
  | .editManualPlatformVariant variantId _ _ => w.EditOpen variantId
  | _ => True

end PackWorld

variable {w : PackWorld}

theorem PackInv.edited (h : PackInv w) {db' : PackDb} {variantId : UUID}
    {variant : PlatformVariant} {row : PlatformVariantRevision}
    (hvariant : w.db.variants.lookup variantId = some variant)
    (ha : Appended w.db db' variant.contentPackId variantId row)
    (hpacks : db'.packs = w.db.packs) (hvariants : db'.variants = w.db.variants)
    (hopen : w.EditOpen variantId) : PackInv { w with db := db' } := by
  obtain ⟨hdraft, hread⟩ := hopen variant hvariant
  refine ⟨h.truthful.appended ha ?_, ?_, h.revisionLock, h.packLock⟩
  · rw [hpacks]
    exact hdraft
  · intro decision hmem
    by_cases hheld : decision.holds variant.contentPackId = true
    · refine (h.decisions decision hmem).unread ha hpacks hvariants ?_
      intro copy held variants remaining currentStates hphase
      unfold Decision.holds at hheld
      rw [hphase] at hheld
      have hsame : held = variant.contentPackId := by simpa using hheld
      rw [hsame] at hphase
      exact hread decision hmem copy variants remaining currentStates hphase
    · exact (h.decisions decision hmem).elsewhere ha (by simpa using hheld)

theorem PackInv.generated (h : PackInv w) {db' : PackDb} {packId variantId : UUID}
    {row : PlatformVariantRevision} (ha : Appended w.db db' packId variantId row)
    (hdraft : ∃ pack, db'.packs.lookup packId = some pack ∧ pack.status = .draft)
    (hlock : w.packHeld packId = false ∨ w.db.packs.lookup packId = none) :
    PackInv { w with db := db' } := by
  refine ⟨h.truthful.appended ha ?_, ?_, h.revisionLock, h.packLock⟩
  · intro pack hpack
    obtain ⟨found, hfound, hstatus⟩ := hdraft
    rw [hfound] at hpack
    cases hpack
    exact hstatus
  · intro decision hmem
    have hinv := h.decisions decision hmem
    refine hinv.elsewhere ha ?_
    rcases hlock with hfree | hnone
    · exact holds_of_packHeld hfree hmem
    · by_contra hheld
      unfold Decision.holds at hheld
      cases hphase : decision.phase with
      | refreshing copy held variants remaining currentStates =>
        rw [hphase] at hheld
        have hsame : held = packId := by simpa using hheld
        obtain ⟨pack, hpack, -⟩ := (hinv.refreshing _ _ _ _ _ hphase).pack
        rw [hsame, hnone] at hpack
        cases hpack
      | locked _ | decided _ =>
        rw [hphase] at hheld
        exact hheld rfl

theorem PackInv.next (h : PackInv w) {event : PackEvent} (hok : w.EditsDrafts event) :
    PackInv (w.next event) := by
  unfold PackWorld.next
  cases event with
  | generate storyRevisionId brandProfileId platform regeneration packId variantId revisionId =>
    dsimp only
    cases hgenerate : w.generate storyRevisionId brandProfileId platform regeneration packId
        variantId revisionId with
    | none => exact h
    | some db' =>
      obtain ⟨drafted, written, row, ha, hdraft, hlock⟩ := generate_spec hgenerate
      exact h.generated ha hdraft hlock
  | editVariant variantId baseRevisionId revisionId =>
    dsimp only
    cases hedit : w.editVariant variantId baseRevisionId revisionId with
    | none => exact h
    | some db' =>
      obtain ⟨variant, row, hvariant, ha, hpacks, hvariants⟩ := editVariant_spec hedit
      exact h.edited hvariant ha hpacks hvariants hok
  | editManualPlatformVariant variantId baseRevisionId revisionId =>
    dsimp only
    cases hedit : w.editManualPlatformVariant variantId baseRevisionId revisionId with
    | none => exact h
    | some db' =>
      obtain ⟨variant, row, hvariant, ha, hpacks, hvariants⟩ :=
        editManualPlatformVariant_spec hedit
      exact h.edited hvariant ha hpacks hvariants hok
  | begin id revisionId approves => exact h.begin id revisionId approves
  | load id _ | decide id | lock id | read id | commit id | rollback id => exact h.stepOf id _

theorem packInv_empty : PackInv PackWorld.empty where
  truthful pack hmem := by cases hmem
  decisions decision hmem := by cases hmem
  revisionLock decision hmem := by cases hmem
  packLock decision hmem := by cases hmem

theorem packInv_reachable
    (h : (packStatusSystem.restrict PackWorld.EditsDrafts).Reachable w) : PackInv w := by
  induction h with
  | init hinit =>
    rw [hinit]
    exact packInv_empty
  | tail _ hstep ih =>
    obtain ⟨hok, hnext⟩ := hstep
    rw [hnext]
    exact ih.next hok

/-- **The status of a pack is true in every interleaving whose edits are of drafts.** -/
theorem status_truthful (h : (packStatusSystem.restrict PackWorld.EditsDrafts).Reachable w) :
    Truthful w.db :=
  (packInv_reachable h).truthful

/-! ## One pack -/

/-- A pack of one platform is generated and its revision approved. -/
def approvedPack : List PackEvent :=
  [.generate 1 2 .x none 10 20 30, .begin 5 30 true, .load 5 true, .decide 5, .lock 5, .read 5,
    .commit 5]

theorem status_truthful_approved :
    ∃ w, (packStatusSystem.restrict PackWorld.EditsDrafts).Reachable w
      ∧ w.db.packs.rows = [⟨10, 1, 2, .ready⟩] ∧ Truthful w.db := by
  have hreach : (packStatusSystem.restrict PackWorld.EditsDrafts).Reachable
      (approvedPack.foldl PackWorld.next PackWorld.empty) := by
    have hstep : ∀ w event, PackWorld.EditsDrafts w event →
        (packStatusSystem.restrict PackWorld.EditsDrafts).step w event (w.next event) :=
      fun _ _ hok => ⟨hok, rfl⟩
    refine System.reachable_along hstep (.init rfl) ?_
    exact ⟨trivial, trivial, trivial, trivial, trivial, trivial, trivial, trivial⟩
  exact ⟨_, hreach, by decide +kernel, status_truthful hreach⟩

/-- The operator edits the approved revision, and the pack stays ready. -/
theorem edited_pack_stays_ready : ∃ w, packStatusSystem.Reachable w ∧ ¬ Truthful w.db := by
  let w := (approvedPack ++ [PackEvent.editManualPlatformVariant 20 30 31]).foldl PackWorld.next
    PackWorld.empty
  have hpacks : w.db.packs.rows = [⟨10, 1, 2, .ready⟩] := by decide +kernel
  have hvariants : w.db.variants.rows = [⟨20, 10, .x⟩] := by decide +kernel
  have hcurrent : w.db.current 20 = some ⟨31, 20, 2, .pendingReview⟩ := by decide +kernel
  refine ⟨w, System.reachable_foldl (fun _ _ => rfl) (.init rfl) _, ?_⟩
  intro h
  have hready := (h ⟨10, 1, 2, .ready⟩ (by rw [hpacks]; exact mem_cons_self)).mp rfl
  obtain ⟨row, hrow, happroved⟩ :=
    hready.2 ⟨20, 10, .x⟩ (by rw [hvariants]; exact mem_cons_self) rfl
  have hsame : some row = some ⟨31, 20, 2, .pendingReview⟩ := hrow.symm.trans hcurrent
  cases hsame
  cases happroved

end NewsCraft.Generation.PackStatus
