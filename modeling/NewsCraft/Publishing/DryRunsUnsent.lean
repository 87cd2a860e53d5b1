import NewsCraft.Publishing.DryRunLineage

/-!
# Dry runs are never sent

Every writer hands the mark of the parent down to the child, but for the dispatch, whose
parent is a revision another dispatch of the story has. A dry run shares its story with no
other dispatch, since its key, with two colons too many, is the key of no post that could be
edited. So whatever descends from a dry run has the mark, and gets no publish job and passes
no claim.
-/

namespace NewsCraft.Publishing.DryRuns

open Generation Lib NewsCraft.Telegram List Option

variable {E : LineageEnv} {store store' : LineageStore} {w w' : LineageWorld}
  {dispatch : Dispatch} {row row' : RevisionRow} {id : Nat}

/-! ## Keys -/

theorem not_mem_toDigits (n : Nat) : ':' ∉ Nat.toDigits 10 n := by
  intro h
  have hdigit := Nat.isDigit_of_mem_toDigits (by decide) (by decide) h
  exact absurd hdigit (by decide)

theorem count_colons_toString (z : Int) : (toString z).toList.count ':' = 0 := by
  rw [count_eq_zero, Int.toString_eq_repr]
  cases z with
  | ofNat n =>
    intro h
    exact not_mem_toDigits n (by simpa [Int.repr, Nat.repr] using h)
  | negSucc n =>
    intro h
    rcases (by simpa [Int.repr, Nat.repr] using h : ':' = '-' ∨ _) with hsign | hdigits
    · exact absurd hsign (by decide)
    · exact not_mem_toDigits _ hdigits

theorem count_colons_sourceKey (channelRef : String) (post : ChannelPost) :
    (post.sourceKey channelRef).toList.count ':' = channelRef.toList.count ':' + 2 := by
  have halbum : ":album:".toList.count ':' = 2 := by decide
  have hmessage : ":message:".toList.count ':' = 2 := by decide
  cases post <;>
    simp only [ChannelPost.sourceKey, String.toList_append, count_append, halbum, hmessage,
      count_colons_toString, Nat.add_zero]

theorem dryKey_ne (channelRef : String) (job : UUID) (post post' : ChannelPost) :
    "dry:" ++ uuidStr job ++ ":" ++ post.sourceKey channelRef ≠ post'.sourceKey channelRef := by
  intro h
  have hcount := congrArg (fun key : String => key.toList.count ':') h
  have hdry : "dry:".toList.count ':' = 1 := by decide
  have hcolon : ":".toList.count ':' = 1 := by decide
  simp only [String.toList_append, count_append, count_colons_sourceKey, hdry, hcolon] at hcount
  omega

/-! ## Stories -/

/-- The dispatches of a dry run, and the stories they have to themselves. -/
structure DispatchInv (E : LineageEnv) (store : LineageStore) : Prop where
  stories : ∀ storyId ∈ store.storyRevisions, storyId < store.stories
  story : ∀ (i : Nat) d, store.dispatches[i]? = some d → ∃ storyId, store.storyOf d = some storyId
  dryKey : ∀ (i : Nat) d, store.dispatches[i]? = some d → d.dispatchKind = .dryRun →
    ∃ job post, d.sourceKey
      = "dry:" ++ uuidStr job ++ ":" ++ ChannelPost.sourceKey (E.route d.routeId).channelRef post
  alone : ∀ (i j : Nat) d d', store.dispatches[i]? = some d → store.dispatches[j]? = some d' →
    store.storyOf d = store.storyOf d' → d.dispatchKind = .dryRun → i = j

/-- What `DispatchInv` says of a dispatch is the same of another row in its place. -/
structure SameDispatch (store store' : LineageStore) (d d' : Dispatch) : Prop where
  routeId : d'.routeId = d.routeId
  sourceKey : d'.sourceKey = d.sourceKey
  dispatchKind : d'.dispatchKind = d.dispatchKind
  story : store'.storyOf d' = store.storyOf d

theorem DispatchInv.of_same (h : DispatchInv E store)
    (hstories : ∀ storyId ∈ store'.storyRevisions, storyId < store'.stories)
    (hsame : ∀ (i : Nat) d', store'.dispatches[i]? = some d' →
      ∃ d, store.dispatches[i]? = some d ∧ SameDispatch store store' d d') :
    DispatchInv E store' := by
  refine ⟨hstories, ?_, ?_, ?_⟩
  · intro i d' hd'
    obtain ⟨d, hd, same⟩ := hsame i d' hd'
    rw [same.story]
    exact h.story i d hd
  · intro i d' hd' hkind
    obtain ⟨d, hd, same⟩ := hsame i d' hd'
    rw [same.dispatchKind] at hkind
    rw [same.sourceKey, same.routeId]
    exact h.dryKey i d hd hkind
  · intro i j d₁ d₂ hd₁ hd₂ hstory hkind
    obtain ⟨d, hd, same⟩ := hsame i d₁ hd₁
    obtain ⟨d', hd', same'⟩ := hsame j d₂ hd₂
    rw [same.story, same'.story] at hstory
    rw [same.dispatchKind] at hkind
    exact h.alone i j d d' hd hd' hstory hkind

theorem getElem?_append_of {α : Type} {rows more : List α} {a : α}
    (h : rows[id]? = some a) : (rows ++ more)[id]? = some a := by
  have hlt := (List.getElem?_eq_some_iff.mp h).1
  rw [getElem?_append_left hlt, h]

theorem getElem?_append_singleton {α : Type} {rows : List α} {a b : α}
    (h : (rows ++ [b])[id]? = some a) : rows[id]? = some a ∨ id = rows.length ∧ a = b := by
  by_cases hlt : id < rows.length
  · rw [getElem?_append_left hlt] at h
    exact .inl h
  · rw [getElem?_append_right (by omega)] at h
    have hzero : id - rows.length = 0 := by
      have hbound := (List.getElem?_eq_some_iff.mp h).1
      simp at hbound
      omega
    rw [hzero] at h
    simp only [getElem?_cons_zero, Option.some.injEq] at h
    exact .inr ⟨by omega, h.symm⟩

theorem storyOf_append {storyId : Nat} {more : List Nat} (h : store.storyOf dispatch = some storyId)
    (hstore : store'.storyRevisions = store.storyRevisions ++ more) :
    store'.storyOf dispatch = some storyId := by
  rw [LineageStore.storyOf, hstore]
  exact getElem?_append_of h

variable {routeId : Nat} {dispatchKind : DispatchKind}

theorem DispatchInv.insertDispatch (h : DispatchInv E store) {storyId stories : Nat}
    {sourceKey : String} {sourceItemId : UUID} (hstories : store.stories ≤ stories)
    (hstory : storyId < stories)
    (hkey : dispatchKind = .dryRun → ∃ job post, sourceKey = "dry:" ++ uuidStr job ++ ":" ++
      ChannelPost.sourceKey (E.route routeId).channelRef post)
    (halone : ∀ (i : Nat) d, store.dispatches[i]? = some d → store.storyOf d = some storyId →
      d.dispatchKind ≠ .dryRun ∧ dispatchKind ≠ .dryRun) :
    DispatchInv E { store.insertDispatch routeId sourceKey dispatchKind sourceItemId storyId with
      stories := stories } := by
  let inserted : LineageStore :=
    { store.insertDispatch routeId sourceKey dispatchKind sourceItemId storyId with
      stories := stories }
  have hold : ∀ d story, store.storyOf d = some story → inserted.storyOf d = some story := by
    intro d story hd
    exact storyOf_append hd rfl
  have hnew : inserted.storyOf
      ⟨routeId, sourceKey, dispatchKind, sourceItemId, store.storyRevisions.length, none⟩
      = some storyId := by
    simp [inserted, LineageStore.storyOf, LineageStore.insertDispatch]
  refine ⟨?_, ?_, ?_, ?_⟩
  · intro story hmem
    simp only [LineageStore.insertDispatch, mem_append, mem_singleton] at hmem
    rcases hmem with hmem | rfl
    · exact Nat.lt_of_lt_of_le (h.stories story hmem) hstories
    · exact hstory
  · intro i d hd
    rcases getElem?_append_singleton hd with hd | ⟨-, rfl⟩
    · obtain ⟨story, hs⟩ := h.story i d hd
      exact ⟨story, hold d story hs⟩
    · exact ⟨storyId, hnew⟩
  · intro i d hd hkind
    rcases getElem?_append_singleton hd with hd | ⟨-, rfl⟩
    · exact h.dryKey i d hd hkind
    · exact hkey hkind
  · intro i j d d' hd hd' heq hkind
    rcases getElem?_append_singleton hd with hd | ⟨hi, rfl⟩
    · obtain ⟨story, hs⟩ := h.story i d hd
      rcases getElem?_append_singleton hd' with hd' | ⟨-, rfl⟩
      · obtain ⟨story', hs'⟩ := h.story j d' hd'
        refine h.alone i j d d' hd hd' ?_ hkind
        rw [hs, hs', ← hold d story hs, heq]
        exact hold d' story' hs'
      · have hinto : store.storyOf d = some storyId := by
          rw [hs, ← hold d story hs, heq]
          exact hnew
        exact absurd hkind (halone i d hd hinto).1
    · rcases getElem?_append_singleton hd' with hd' | ⟨hj, rfl⟩
      · obtain ⟨story', hs'⟩ := h.story j d' hd'
        have hinto : store.storyOf d' = some storyId := by
          rw [hs', ← hold d' story' hs', ← heq]
          exact hnew
        exact absurd hkind (halone j d' hd' hinto).2
      · omega

theorem DispatchInv.not_dryRun (h : DispatchInv E store) {i : Nat} {post : ChannelPost}
    (hd : store.dispatches[i]? = some dispatch) (hroute : dispatch.routeId = routeId)
    (hkey : dispatch.sourceKey = post.sourceKey (E.route routeId).channelRef) :
    dispatch.dispatchKind ≠ .dryRun := by
  intro hkind
  obtain ⟨job, post', hdry⟩ := h.dryKey i dispatch hd hkind
  rw [hroute, hkey] at hdry
  exact dryKey_ne _ job post' post hdry.symm

theorem dispatchSourceKey_dryRun {sourceKey envelopeKey sourceFingerprint : String}
    {dryRunJobId : Option UUID}
    (h : dispatchSourceKey envelopeKey sourceFingerprint .dryRun dryRunJobId = .ok sourceKey) :
    ∃ job, sourceKey = "dry:" ++ uuidStr job ++ ":" ++ envelopeKey := by
  cases dryRunJobId with
  | none => cases h
  | some job => exact ⟨job, (Except.ok.inj h).symm⟩

theorem captureAndEnqueue_ok {post : ChannelPost} {sourceFingerprint : String}
    {dryRunJobId : Option UUID} {sourceItemId : UUID} (h : DispatchInv E store)
    (hok : store.captureAndEnqueue E routeId post sourceFingerprint dispatchKind dryRunJobId
      sourceItemId = .ok store') :
    DispatchInv E store' ∧ store'.variants = store.variants ∧ store'.revisions = store.revisions
      ∧ store'.publishJobs = store.publishJobs
      ∧ ∀ d ∈ store'.dispatches, d ∈ store.dispatches ∨ d.variantRevisionId = none := by
  have hlast : ∀ d last, last.variantRevisionId = none → d ∈ store.dispatches ++ [last] →
      d ∈ store.dispatches ∨ d.variantRevisionId = none := by
    intro d last hnone hd
    rcases mem_append.mp hd with hd | hd
    · exact .inl hd
    rw [mem_singleton.mp hd]
    exact .inr hnone
  unfold LineageStore.captureAndEnqueue at hok
  cases hkey : dispatchSourceKey (post.sourceKey (E.route routeId).channelRef) sourceFingerprint
      dispatchKind dryRunJobId with
  | error e => simp [hkey] at hok
  | ok sourceKey =>
    simp only [hkey] at hok
    split at hok
    · obtain rfl := Except.ok.inj hok
      exact ⟨h, rfl, rfl, rfl, fun d hd => .inl hd⟩
    · split at hok
      · rename_i hedit
        split at hok
        · cases hok
        rename_i storyId horiginal
        obtain rfl := Except.ok.inj hok
        obtain ⟨original, hfind, hstory⟩ := bind_eq_some_iff.mp horiginal
        obtain ⟨i, hi⟩ := mem_iff_getElem?.mp (mem_of_find?_eq_some hfind)
        have hmatch : original.routeId = routeId
            ∧ original.sourceKey = post.sourceKey (E.route routeId).channelRef := by
          simpa using find?_some hfind
        have horig := h.not_dryRun hi hmatch.1 hmatch.2
        refine ⟨h.insertDispatch (Nat.le_refl _) ?_ ?_ ?_, rfl, rfl, rfl, ?_⟩
        · exact h.stories storyId (mem_of_getElem? hstory)
        · intro hdry
          rw [hedit] at hdry
          cases hdry
        · intro j d hd hinto
          refine ⟨?_, by rw [hedit]; decide⟩
          -- A dry run in the story would be the original itself.
          intro hdry
          have hij := h.alone j i d original hd hi (by rw [hinto, hstory]) hdry
          rw [hij, hi] at hd
          rw [Option.some.inj hd] at horig
          exact horig hdry
        · intro d hd
          exact hlast d _ rfl hd
      · obtain rfl := Except.ok.inj hok
        refine ⟨h.insertDispatch (Nat.le_succ _) (Nat.lt_succ_self _) ?_ ?_, rfl, rfl, rfl, ?_⟩
        · intro hdry
          rw [hdry] at hkey
          obtain ⟨job, hjob⟩ := dispatchSourceKey_dryRun hkey
          exact ⟨job, post, hjob⟩
        · intro j d hd hinto
          have hlt := h.stories _ (mem_of_getElem? hinto)
          omega
        · intro d hd
          exact hlast d _ rfl hd

theorem DispatchInv.addStoryRevision (h : DispatchInv E store) (storyId : Nat) :
    DispatchInv E (store.addStoryRevision storyId) := by
  unfold LineageStore.addStoryRevision
  split
  · rename_i hlt
    refine h.of_same ?_ ?_
    · intro story hmem
      rcases mem_append.mp hmem with hmem | hmem
      · exact h.stories story hmem
      rw [mem_singleton.mp hmem]
      exact hlt
    · intro i d hd
      obtain ⟨story, hs⟩ := h.story i d hd
      refine ⟨d, hd, rfl, rfl, rfl, ?_⟩
      rw [hs]
      exact storyOf_append hs rfl
  · exact h

theorem DispatchInv.set (h : DispatchInv E store) {i : Nat} {d : Dispatch}
    (hd : store.dispatches[i]? = some dispatch) (hsame : SameDispatch store store dispatch d) :
    DispatchInv E { store with dispatches := store.dispatches.set i d } := by
  refine h.of_same h.stories ?_
  intro j d' hd'
  rw [getElem?_set] at hd'
  by_cases hij : i = j
  · subst hij
    rw [if_pos rfl, if_pos (List.getElem?_eq_some_iff.mp hd).1] at hd'
    obtain rfl := Option.some.inj hd'
    exact ⟨dispatch, hd, hsame.routeId, hsame.sourceKey, hsame.dispatchKind, hsame.story⟩
  · rw [if_neg hij] at hd'
    exact ⟨d', hd', rfl, rfl, rfl, rfl⟩

theorem DispatchInv.adoptStoryRevision (h : DispatchInv E store)
    (dispatchId storyRevisionId : Nat) :
    DispatchInv E (store.adoptStoryRevision dispatchId storyRevisionId) := by
  unfold LineageStore.adoptStoryRevision
  cases hd : store.dispatches[dispatchId]? with
  | none => exact h
  | some d =>
    by_cases hstory : store.storyRevisions[storyRevisionId]?.isSome
        ∧ store.storyRevisions[storyRevisionId]? = store.storyOf d
    · simp only [if_pos hstory]
      exact h.set hd ⟨rfl, rfl, rfl, hstory.2⟩
    · simp only [if_neg hstory]
      exact h

theorem adoptStoryRevision_rows (store : LineageStore) (dispatchId storyRevisionId : Nat) :
    (store.adoptStoryRevision dispatchId storyRevisionId).variants = store.variants
      ∧ (store.adoptStoryRevision dispatchId storyRevisionId).revisions = store.revisions
      ∧ (store.adoptStoryRevision dispatchId storyRevisionId).publishJobs = store.publishJobs
      ∧ ∀ d ∈ (store.adoptStoryRevision dispatchId storyRevisionId).dispatches,
        ∃ old ∈ store.dispatches, d.dispatchKind = old.dispatchKind
          ∧ d.variantRevisionId = old.variantRevisionId := by
  unfold LineageStore.adoptStoryRevision
  cases hd : store.dispatches[dispatchId]? with
  | none => exact ⟨rfl, rfl, rfl, fun d hmem => ⟨d, hmem, rfl, rfl⟩⟩
  | some old =>
    dsimp only
    split
    · refine ⟨rfl, rfl, rfl, ?_⟩
      intro d hmem
      rcases mem_or_eq_of_mem_set hmem with hmem | rfl
      · exact ⟨d, hmem, rfl, rfl⟩
      · exact ⟨old, mem_of_getElem? hd, rfl, rfl⟩
    · exact ⟨rfl, rfl, rfl, fun d hmem => ⟨d, hmem, rfl, rfl⟩⟩

/-! ## Marks -/

def Unmarked (store : LineageStore) (id : Nat) : Prop :=
  ∃ row, store.revisions[id]? = some row ∧ row.content.dryRun = false

/-- The row is on a variant of its platform and has the mark of its parent. -/
structure Handed (store : LineageStore) (row : RevisionRow) : Prop where
  platform : ∃ variant, store.variants[row.platformVariantId]? = some variant
    ∧ (variant.platform = .telegram ↔ ∃ content, row.content = .telegram content)
  parent : ∀ p, row.parentRevisionId = some p →
    ∃ parent, store.revisions[p]? = some parent ∧ row.content.dryRun = parent.content.dryRun

/-- The mark of a dispatch's revision says whether the dispatch is a dry run. -/
def Owns (store : LineageStore) (d : Dispatch) : Prop :=
  ∀ id, d.variantRevisionId = some id → ∃ row content, store.revisions[id]? = some row
    ∧ row.content = .telegram content ∧ content.dryRun = decide (d.dispatchKind = .dryRun)

structure RevisionInv (store : LineageStore) : Prop where
  handed : ∀ row ∈ store.revisions, Handed store row
  owns : ∀ d ∈ store.dispatches, Owns store d
  queued : ∀ job ∈ store.publishJobs, Unmarked store job.revisionId

/-- Variants stay, and revisions keep their content. -/
structure Keeps (store store' : LineageStore) : Prop where
  variants : ∀ (id : Nat) variant, store.variants[id]? = some variant →
    store'.variants[id]? = some variant
  revisions : ∀ (id : Nat) row, store.revisions[id]? = some row →
    ∃ row', store'.revisions[id]? = some row' ∧ row'.content = row.content

theorem Keeps.of_eq (hvariants : store'.variants = store.variants)
    (hrevisions : store'.revisions = store.revisions) : Keeps store store' := by
  refine ⟨?_, ?_⟩
  · intro id variant h
    rw [hvariants]
    exact h
  · intro id row h
    rw [hrevisions]
    exact ⟨row, h, rfl⟩

variable {middle : LineageStore}

theorem Keeps.trans (h : Keeps store middle) (h' : Keeps middle store') : Keeps store store' := by
  refine ⟨?_, ?_⟩
  · intro id variant hv
    exact h'.variants id variant (h.variants id variant hv)
  · intro id row hrow
    obtain ⟨mid, hmid, hcontent⟩ := h.revisions id row hrow
    obtain ⟨row', hrow', hcontent'⟩ := h'.revisions id mid hmid
    exact ⟨row', hrow', hcontent'.trans hcontent⟩

theorem Unmarked.keep (h : Unmarked store id) (hkeep : Keeps store store') :
    Unmarked store' id := by
  obtain ⟨row, hrow, hmark⟩ := h
  obtain ⟨row', hrow', hcontent⟩ := hkeep.revisions id row hrow
  exact ⟨row', hrow', by rw [hcontent, hmark]⟩

theorem Handed.keep (h : Handed store row) (hkeep : Keeps store store') : Handed store' row := by
  obtain ⟨variant, hvariant, hplatform⟩ := h.platform
  refine ⟨⟨variant, hkeep.variants _ variant hvariant, hplatform⟩, ?_⟩
  intro p hp
  obtain ⟨parent, hparent, hmark⟩ := h.parent p hp
  obtain ⟨parent', hparent', hcontent⟩ := hkeep.revisions p parent hparent
  exact ⟨parent', hparent', by rw [hcontent, hmark]⟩

theorem Owns.keep (h : Owns store dispatch) (hkeep : Keeps store store') :
    Owns store' dispatch := by
  intro id hid
  obtain ⟨row, content, hrow, htelegram, hmark⟩ := h id hid
  obtain ⟨row', hrow', hcontent⟩ := hkeep.revisions id row hrow
  exact ⟨row', content, hrow', by rw [hcontent, htelegram], hmark⟩

theorem RevisionInv.of_keeps (h : RevisionInv store) (hkeep : Keeps store store')
    (hrows : ∀ row' ∈ store'.revisions, Handed store' row'
      ∨ ∃ row ∈ store.revisions, row'.platformVariantId = row.platformVariantId
        ∧ row'.parentRevisionId = row.parentRevisionId ∧ row'.content = row.content)
    (hdispatches : ∀ d ∈ store'.dispatches, d ∈ store.dispatches ∨ Owns store' d)
    (hjobs : ∀ job ∈ store'.publishJobs, job ∈ store.publishJobs
      ∨ Unmarked store' job.revisionId) : RevisionInv store' := by
  refine ⟨?_, ?_, ?_⟩
  · intro row' hmem
    rcases hrows row' hmem with hhanded | ⟨row, hrow, hvariant, hparent, hcontent⟩
    · exact hhanded
    have hold := (h.handed row hrow).keep hkeep
    refine ⟨?_, ?_⟩
    · rw [hvariant, hcontent]
      exact hold.platform
    · rw [hparent, hcontent]
      exact hold.parent
  · intro d hd
    rcases hdispatches d hd with hold | howns
    · exact (h.owns d hold).keep hkeep
    · exact howns
  · intro job hjob
    rcases hjobs job hjob with hold | hmark
    · exact (h.queued job hold).keep hkeep
    · exact hmark

theorem RevisionInv.of_dispatches (h : RevisionInv store)
    (hvariants : store'.variants = store.variants) (hrevisions : store'.revisions = store.revisions)
    (hjobs : store'.publishJobs = store.publishJobs)
    (hdispatches : ∀ d ∈ store'.dispatches, d ∈ store.dispatches ∨ Owns store' d) :
    RevisionInv store' := by
  refine h.of_keeps (Keeps.of_eq hvariants hrevisions) ?_ hdispatches ?_
  · intro row hrow
    rw [hrevisions] at hrow
    exact .inr ⟨row, hrow, rfl, rfl, rfl⟩
  · intro job hjob
    rw [hjobs] at hjob
    exact .inl hjob

/-! ## Packs, variants and new rows -/

theorem Keeps.insertRevision (store : LineageStore) (row : RevisionRow) :
    Keeps store (store.insertRevision row) := by
  refine ⟨fun id variant h => h, ?_⟩
  intro id old h
  exact ⟨old, getElem?_append_of h, rfl⟩

theorem RevisionInv.insertRevision (h : RevisionInv store) (hrow : Handed store row) :
    RevisionInv (store.insertRevision row) := by
  have hkeep := Keeps.insertRevision store row
  refine h.of_keeps hkeep ?_ (fun d hd => .inl hd) (fun job hjob => .inl hjob)
  intro row' hmem
  rcases mem_append.mp hmem with hmem | hmem
  · exact .inr ⟨row', hmem, rfl, rfl, rfl⟩
  rw [mem_singleton.mp hmem]
  exact .inl (hrow.keep hkeep)

/-- Packs and variants were added, and nothing else changed. -/
structure Drafted (store store' : LineageStore) : Prop where
  stories : store'.stories = store.stories
  storyRevisions : store'.storyRevisions = store.storyRevisions
  dispatches : store'.dispatches = store.dispatches
  revisions : store'.revisions = store.revisions
  publishJobs : store'.publishJobs = store.publishJobs
  variants : ∀ (id : Nat) variant, store.variants[id]? = some variant →
    store'.variants[id]? = some variant

theorem Drafted.refl (store : LineageStore) : Drafted store store :=
  ⟨rfl, rfl, rfl, rfl, rfl, fun _ _ h => h⟩

theorem Drafted.trans (h : Drafted store middle) (h' : Drafted middle store') :
    Drafted store store' :=
  ⟨h'.stories.trans h.stories, h'.storyRevisions.trans h.storyRevisions,
    h'.dispatches.trans h.dispatches, h'.revisions.trans h.revisions,
    h'.publishJobs.trans h.publishJobs,
    fun id variant hvariant => h'.variants id variant (h.variants id variant hvariant)⟩

theorem Drafted.keeps (h : Drafted store store') : Keeps store store' := by
  refine ⟨h.variants, ?_⟩
  intro id row hrow
  exact ⟨row, by rw [h.revisions]; exact hrow, rfl⟩

theorem Drafted.storyOf (h : Drafted store store') (d : Dispatch) :
    store'.storyOf d = store.storyOf d := by
  rw [LineageStore.storyOf, LineageStore.storyOf, h.storyRevisions]

theorem Drafted.dispatchInv (h : Drafted store store') (hinv : DispatchInv E store) :
    DispatchInv E store' := by
  refine hinv.of_same ?_ ?_
  · rw [h.storyRevisions, h.stories]
    exact hinv.stories
  · intro i d hd
    rw [h.dispatches] at hd
    exact ⟨d, hd, rfl, rfl, rfl, h.storyOf d⟩

theorem Drafted.revisionInv (h : Drafted store store') (hinv : RevisionInv store) :
    RevisionInv store' := by
  refine hinv.of_keeps h.keeps ?_ ?_ ?_
  · intro row hrow
    rw [h.revisions] at hrow
    exact .inr ⟨row, hrow, rfl, rfl, rfl⟩
  · intro d hd
    rw [h.dispatches] at hd
    exact .inl hd
  · intro job hjob
    rw [h.publishJobs] at hjob
    exact .inl hjob

theorem draftPack_drafted (store : LineageStore) (storyRevisionId : Nat) (brandProfileId : UUID) :
    Drafted store (store.draftPack storyRevisionId brandProfileId).2 := by
  unfold LineageStore.draftPack
  split
  · exact Drafted.refl store
  · exact ⟨rfl, rfl, rfl, rfl, rfl, fun _ _ h => h⟩

theorem platformVariant_drafted (store : LineageStore) (packId : Nat) (platform : Platform) :
    Drafted store (store.platformVariant packId platform).2
      ∧ (store.platformVariant packId platform).2.variants[
        (store.platformVariant packId platform).1]? = some ⟨packId, platform⟩ := by
  unfold LineageStore.platformVariant
  split
  · rename_i variantId hfound
    refine ⟨Drafted.refl store, ?_⟩
    obtain ⟨hlt, hmatch, -⟩ := findIdx?_eq_some_iff_getElem.mp hfound
    rw [getElem?_eq_getElem hlt]
    exact congrArg some (of_decide_eq_true hmatch)
  · refine ⟨⟨rfl, rfl, rfl, rfl, rfl, fun _ _ h => getElem?_append_of h⟩, ?_⟩
    exact getElem?_concat_length

variable {variantId : Nat}

theorem currentRevision_mem (h : store.currentRevision variantId = some id) :
    ∃ row, store.revisions[id]? = some row ∧ row.platformVariantId = variantId := by
  have hmem := argmax_mem h
  have hvariant := of_decide_eq_true (mem_filter.mp hmem).2
  obtain ⟨row, hrow, hid⟩ := map_eq_some_iff.mp hvariant
  exact ⟨row, hrow, hid⟩

theorem RevisionInv.platform_of (h : RevisionInv store) (hrow : store.revisions[id]? = some row)
    {variant : VariantRow} (hvariant : store.variants[row.platformVariantId]? = some variant) :
    variant.platform = .telegram ↔ ∃ content, row.content = .telegram content := by
  obtain ⟨variant', hvariant', hplatform⟩ := (h.handed row (mem_of_getElem? hrow)).platform
  rw [hvariant] at hvariant'
  rw [Option.some.inj hvariant']
  exact hplatform

theorem dryRun_of_not_telegram {content : RevisionContent}
    (h : ¬ ∃ telegram, content = .telegram telegram) : content.dryRun = false := by
  cases content with
  | telegram telegram => exact absurd ⟨telegram, rfl⟩ h
  | manual payload => rfl

/-! ## The writers -/

theorem editVariant_ok {baseRevisionId : Nat} {baseContentHash body : String}
    {buttons : List Renderer.TelegramButton} {mediaAssetIds : List UUID}
    (h : store.editVariant E variantId baseRevisionId baseContentHash body buttons mediaAssetIds =
      .ok store') : ∃ row, Handed store row ∧ store' = store.insertRevision row := by
  unfold LineageStore.editVariant at h
  split at h
  · cases h
  rename_i hplatform
  split at h
  · cases h
  rename_i parent hparent
  split at h
  · cases h
  split at h
  · cases h
  split at h
  · cases h
  rename_i content hcontent
  obtain rfl := Except.ok.inj h
  refine ⟨_, ⟨?_, ?_⟩, rfl⟩
  · obtain ⟨variant, hvariant, htelegram⟩ :=
      map_eq_some_iff.mp (not_not.mp hplatform)
    refine ⟨variant, hvariant, ?_⟩
    rw [htelegram]
    exact ⟨fun _ => ⟨_, rfl⟩, fun _ => rfl⟩
  · intro p hp
    obtain rfl := Option.some.inj hp
    refine ⟨parent, hparent, ?_⟩
    rw [hcontent]
    rfl

theorem ManualPlatform.platform_ne (platform : ManualPlatform) : platform.platform ≠ .telegram := by
  cases platform <;> decide

theorem editManualPlatformVariant_ok (hinv : RevisionInv store) {baseRevisionId : Nat}
    {baseContentHash : String} {platform : ManualPlatform} {payload : Json}
    {evidenceMap : List Json} {validationResults : List RevisionGate}
    (h : store.editManualPlatformVariant E variantId baseRevisionId baseContentHash platform payload
      evidenceMap validationResults = .ok store') :
    ∃ row, Handed store row ∧ store' = store.insertRevision row := by
  unfold LineageStore.editManualPlatformVariant at h
  split at h
  · cases h
  rename_i hplatform
  split at h
  · cases h
  rename_i current hcurrent
  split at h
  · cases h
  rename_i hbase
  rw [not_or] at hbase
  have hcurrentId := not_not.mp hbase.1
  obtain rfl := Except.ok.inj h
  obtain ⟨variant, hvariant, hmanual⟩ := map_eq_some_iff.mp (not_not.mp hplatform)
  have hnot : variant.platform ≠ .telegram := by
    rw [hmanual]
    exact platform.platform_ne
  refine ⟨_, ⟨⟨variant, hvariant, ?_⟩, ?_⟩, rfl⟩
  · constructor
    · intro htelegram
      exact absurd htelegram hnot
    · rintro ⟨content, hcontent⟩
      cases hcontent
  · intro p hp
    obtain rfl := Option.some.inj hp
    obtain ⟨row, hrow, hof⟩ := currentRevision_mem hcurrentId
    refine ⟨row, hrow, ?_⟩
    rw [← hof] at hvariant
    have hnotText := mt (hinv.platform_of hrow hvariant).mpr hnot
    rw [dryRun_of_not_telegram hnotText]
    rfl

theorem materializeRevision_ok {authored : Authored} {parent : Option RevisionRow}
    {content : RevisionContent} (h : materializeRevision authored parent = .ok content) :
    (authored.platform = .telegram ↔ ∃ telegram, content = .telegram telegram) ∧ ∀ row ∈ parent,
        (authored.platform = .telegram ↔ ∃ telegram, row.content = .telegram telegram) →
        content.dryRun = row.content.dryRun := by
  cases authored with
  | manual platform payload =>
    obtain rfl := Except.ok.inj h
    have hnot : (Authored.manual platform payload).platform ≠ .telegram := platform.platform_ne
    refine ⟨?_, ?_⟩
    · constructor
      · intro htelegram
        exact absurd htelegram hnot
      · rintro ⟨telegram, htelegram⟩
        cases htelegram
    · intro row hrow hof
      rw [dryRun_of_not_telegram (mt hof.mpr hnot)]
      rfl
  | telegram body buttons defaultDirection =>
    cases parent with
    | none =>
      obtain rfl := Except.ok.inj h
      exact ⟨⟨fun _ => ⟨_, rfl⟩, fun _ => rfl⟩, fun row hrow => by cases hrow⟩
    | some parent =>
      cases hparent : parent.content with
      | manual payload => simp [materializeRevision, hparent] at h
      | telegram parentContent =>
        simp only [materializeRevision, map_some, hparent, Except.ok.injEq] at h
        subst h
        refine ⟨⟨fun _ => ⟨_, rfl⟩, fun _ => rfl⟩, ?_⟩
        intro row hrow hof
        obtain rfl := Option.some.inj hrow
        rw [hparent]
        rfl

theorem persistNewArtifact_ok (hinv : RevisionInv store) {storyRevisionId : Nat}
    {brandProfileId : UUID} {authored : Authored} {evidenceMap : List Json}
    {validationResults : List RevisionGate} {regeneration : Option RegenerationBase}
    (h : store.persistNewArtifact E storyRevisionId brandProfileId authored evidenceMap
      validationResults regeneration = .ok store') :
    ∃ drafted row, Drafted store drafted ∧ Handed drafted row
      ∧ store' = drafted.insertRevision row := by
  unfold LineageStore.persistNewArtifact at h
  split at h
  · cases h
  have hpack := draftPack_drafted store storyRevisionId brandProfileId
  cases hpackEq : store.draftPack storyRevisionId brandProfileId with
  | mk packId packed =>
    rw [hpackEq] at hpack
    obtain ⟨hdraft, hvariant⟩ := platformVariant_drafted packed packId authored.platform
    cases hvariantEq : packed.platformVariant packId authored.platform with
    | mk variantId drafted =>
      rw [hvariantEq] at hdraft hvariant
      simp only [hpackEq, hvariantEq] at h
      have hdrafted : RevisionInv drafted :=
        hdraft.revisionInv (hpack.revisionInv hinv)
      split at h
      · cases h
      split at h
      · cases h
      rename_i content hcontent
      obtain rfl := Except.ok.inj h
      obtain ⟨hplatform, hmark⟩ := materializeRevision_ok hcontent
      refine ⟨drafted, _, hpack.trans hdraft,
        ⟨⟨⟨packId, authored.platform⟩, hvariant, hplatform⟩, ?_⟩, rfl⟩
      intro p hp
      obtain ⟨row, hrow, hof⟩ := currentRevision_mem hp
      refine ⟨row, hrow, hmark row ?_ ?_⟩
      · have hp' : drafted.currentRevision variantId = some p := hp
        rw [hp']
        exact hrow
      · rw [← hof] at hvariant
        exact hdrafted.platform_of hrow hvariant

/-! ## The revision of a dispatch -/

theorem approved_not_dryRun {publishingPolicy : PublishingPolicy} {explicitForceReview : Bool}
    {mediaPolicy : Renderer.MediaPolicy} {autoPublish : AutoPublishDecision}
    (h : (evaluateReviewPolicy publishingPolicy explicitForceReview dispatchKind mediaPolicy
      autoPublish).approved = true) : dispatchKind ≠ .dryRun := by
  intro hdry
  subst hdry
  simp [evaluateReviewPolicy] at h

variable {dispatchId : Nat}

/-- The parent of a dispatch's revision is of another dispatch of its story, so neither is a
dry run. -/
theorem routeParentRevision_owned (hinv : DispatchInv E store) (hrows : RevisionInv store)
    {parentId : Nat} (hd : store.dispatches[dispatchId]? = some dispatch)
    (h : store.routeParentRevision dispatchId dispatch = some parentId) :
    dispatch.dispatchKind ≠ .dryRun ∧ ∃ row content, store.revisions[parentId]? = some row
      ∧ row.content = .telegram content ∧ content.dryRun = false := by
  obtain ⟨earlier, hfind, hparent⟩ := bind_eq_some_iff.mp h
  have hmem := mem_reverse.mp (mem_of_find?_eq_some hfind)
  obtain ⟨i, hi⟩ := mem_iff_getElem?.mp hmem
  have hlt : i < dispatchId := by
    have hbound := (List.getElem?_eq_some_iff.mp hi).1
    rw [length_take] at hbound
    omega
  rw [getElem?_take_of_lt hlt] at hi
  have hmatch : earlier.routeId = dispatch.routeId ∧ earlier.variantRevisionId.isSome = true
      ∧ store.storyOf earlier = store.storyOf dispatch := by
    simpa using find?_some hfind
  have hearlier : earlier.dispatchKind ≠ .dryRun := by
    intro hdry
    have heq := hinv.alone i dispatchId earlier dispatch hi hd hmatch.2.2 hdry
    omega
  refine ⟨?_, ?_⟩
  · intro hdry
    have heq := hinv.alone dispatchId i dispatch earlier hd hi hmatch.2.2.symm hdry
    omega
  · obtain ⟨row, content, hrow, hcontent, hmark⟩ :=
      hrows.owns earlier (mem_of_getElem? hi) parentId hparent
    exact ⟨row, content, hrow, hcontent, by rw [hmark, decide_eq_false hearlier]⟩

variable {drafted : LineageStore}

theorem contentPackAndVariant_ok (hinv : RevisionInv store) {route : RouteConfig}
    {parentId : Option Nat}
    (hparent : ∀ p ∈ parentId, ∃ row content, store.revisions[p]? = some row ∧ row.content =
      .telegram content)
    (h : store.contentPackAndVariant route dispatch parentId = .ok (variantId, drafted)) :
    Drafted store drafted
      ∧ drafted.variants[variantId]?.map VariantRow.platform = some .telegram := by
  unfold LineageStore.contentPackAndVariant at h
  cases parentId with
  | some p =>
    obtain ⟨row, content, hrow, hcontent⟩ := hparent p rfl
    simp only [hrow, Except.ok.injEq, Prod.mk.injEq] at h
    obtain ⟨rfl, rfl⟩ := h
    obtain ⟨variant, hvariant, hplatform⟩ :=
      (hinv.handed row (mem_of_getElem? hrow)).platform
    exact ⟨Drafted.refl store, by
      rw [hvariant, map_some, hplatform.mpr ⟨content, hcontent⟩]⟩
  | none =>
    have hpack := draftPack_drafted store dispatch.storyRevisionId route.brandProfileId
    cases hpackEq : store.draftPack dispatch.storyRevisionId route.brandProfileId with
    | mk packId packed =>
      rw [hpackEq] at hpack
      obtain ⟨hdraft, hvariant⟩ := platformVariant_drafted packed packId .telegram
      simp only [hpackEq, Except.ok.injEq] at h
      rw [h] at hdraft hvariant
      refine ⟨hpack.trans hdraft, ?_⟩
      rw [hvariant]
      rfl

theorem RevisionInv.insertIntent (h : RevisionInv store) {job : PublishRow}
    (hmark : Unmarked store job.revisionId) : RevisionInv (store.insertIntent job) := by
  unfold LineageStore.insertIntent
  split
  · exact h
  refine h.of_keeps (Keeps.of_eq rfl rfl) ?_ (fun d hd => .inl hd) ?_
  · intro row hrow
    exact .inr ⟨row, hrow, rfl, rfl, rfl⟩
  · intro other hother
    rcases mem_append.mp hother with hother | hother
    · exact .inl hother
    rw [mem_singleton.mp hother]
    exact .inr hmark

theorem DispatchInv.insertIntent (h : DispatchInv E store) (job : PublishRow) :
    DispatchInv E (store.insertIntent job) := by
  unfold LineageStore.insertIntent
  split
  · exact h
  · exact h.of_same h.stories fun i d hd => ⟨d, hd, rfl, rfl, rfl, rfl⟩

theorem Keeps.insertIntent (store : LineageStore) (job : PublishRow) :
    Keeps store (store.insertIntent job) := by
  unfold LineageStore.insertIntent
  split
  · exact Keeps.of_eq rfl rfl
  · exact Keeps.of_eq rfl rfl

theorem enqueueTelegramPublishIntent_ok {destinationId : UUID}
    (h : store.enqueueTelegramPublishIntent destinationId id row = .ok store') :
    store' = store.insertIntent ⟨.immediate, destinationId, id, row.contentHash⟩ := by
  unfold LineageStore.enqueueTelegramPublishIntent at h
  split at h
  · cases h
  split at h
  · cases h
  · exact (Except.ok.inj h).symm

structure StoreInv (E : LineageEnv) (store : LineageStore) : Prop where
  dispatches : DispatchInv E store
  revisions : RevisionInv store

/-- A transaction keeps the invariants and the content of every revision. -/
def Sound (E : LineageEnv) (store store' : LineageStore) : Prop :=
  StoreInv E store' ∧ Keeps store store'

theorem Sound.of_row (h : StoreInv E store) (hrow : Handed store row) :
    Sound E store (store.insertRevision row) :=
  ⟨⟨h.dispatches.of_same h.dispatches.stories fun _ d hd => ⟨d, hd, rfl, rfl, rfl, rfl⟩,
    h.revisions.insertRevision hrow⟩, Keeps.insertRevision store row⟩

theorem Sound.of_drafted (h : StoreInv E store) (hdraft : Drafted store drafted)
    (hrow : Handed drafted row) : Sound E store (drafted.insertRevision row) := by
  have hdrafted : StoreInv E drafted :=
    ⟨hdraft.dispatchInv h.dispatches, hdraft.revisionInv h.revisions⟩
  exact ⟨(Sound.of_row hdrafted hrow).1, hdraft.keeps.trans (Sound.of_row hdrafted hrow).2⟩

theorem Sound.of_intent (h : StoreInv E store) {job : PublishRow}
    (hmark : Unmarked store job.revisionId) : Sound E store (store.insertIntent job) :=
  ⟨⟨h.dispatches.insertIntent job, h.revisions.insertIntent hmark⟩, Keeps.insertIntent store job⟩

theorem Sound.trans (h : Sound E store middle) (h' : Sound E middle store') :
    Sound E store store' :=
  ⟨h'.1, h.2.trans h'.2⟩

theorem handed_dispatchRevision (hinv : StoreInv E store)
    (hd : store.dispatches[dispatchId]? = some dispatch) (hdraft : Drafted store drafted)
    (hvariant : drafted.variants[variantId]?.map VariantRow.platform = some .telegram)
    (inputs : DispatchInputs) (review : ReviewDecision) :
    Handed drafted (drafted.dispatchRevision E dispatch inputs variantId
      (store.routeParentRevision dispatchId dispatch) review) := by
  obtain ⟨variant, hvariantRow, hplatform⟩ := map_eq_some_iff.mp hvariant
  refine ⟨⟨variant, hvariantRow, fun _ => ⟨_, rfl⟩, fun _ => hplatform⟩, ?_⟩
  intro p hp
  obtain ⟨hkind, row, content, hrow, hcontent, hmark⟩ :=
    routeParentRevision_owned hinv.dispatches hinv.revisions hd hp
  refine ⟨row, by rw [hdraft.revisions]; exact hrow, ?_⟩
  rw [hcontent]
  exact (decide_eq_false hkind).trans hmark.symm

theorem Sound.of_dispatchRevision (hinv : StoreInv E store) {inputs : DispatchInputs}
    {review : ReviewDecision} {parentId : Option Nat}
    (hd : store.dispatches[dispatchId]? = some dispatch) (hdraft : Drafted store drafted)
    (hrow : Handed drafted (drafted.dispatchRevision E dispatch inputs variantId parentId review)) :
    Sound E store { drafted.insertRevision
          (drafted.dispatchRevision E dispatch inputs variantId parentId review) with
        dispatches := drafted.dispatches.set dispatchId
          { dispatch with variantRevisionId := some drafted.revisions.length } } := by
  obtain ⟨⟨hdispatches, hrevisions⟩, hkeep⟩ := Sound.of_drafted hinv hdraft hrow
  have hd' : drafted.dispatches[dispatchId]? = some dispatch := by
    rw [hdraft.dispatches]
    exact hd
  refine ⟨⟨hdispatches.set hd' ⟨rfl, rfl, rfl, rfl⟩, ?_⟩, ⟨hkeep.variants, hkeep.revisions⟩⟩
  refine hrevisions.of_keeps (Keeps.of_eq rfl rfl) ?_ ?_ (fun job hjob => .inl hjob)
  · intro row hmem
    exact .inr ⟨row, hmem, rfl, rfl, rfl⟩
  · intro d hmem
    rcases mem_or_eq_of_mem_set hmem with hmem | rfl
    · exact .inl hmem
    refine .inr ?_
    intro id hid
    obtain rfl := Option.some.inj hid
    refine ⟨_, _, getElem?_concat_length, rfl, rfl⟩

theorem persistRevisionAndPublish_ok (hinv : StoreInv E store) {inputs : DispatchInputs}
    (h : store.persistRevisionAndPublish E dispatchId inputs = .ok store') :
    Sound E store store' := by
  unfold LineageStore.persistRevisionAndPublish at h
  split at h
  · cases h
  rename_i dispatch hd
  split at h
  · obtain rfl := Except.ok.inj h
    exact ⟨hinv, Keeps.of_eq rfl rfl⟩
  · dsimp only at h
    split at h
    · cases h
    rename_i variantId drafted hvariant
    have hparent : ∀ p ∈ store.routeParentRevision dispatchId dispatch,
        ∃ row content, store.revisions[p]? = some row ∧ row.content = .telegram content := by
      intro p hp
      obtain ⟨-, row, content, hrow, hcontent, -⟩ :=
        routeParentRevision_owned hinv.dispatches hinv.revisions hd hp
      exact ⟨row, content, hrow, hcontent⟩
    obtain ⟨hdraft, hplatform⟩ := contentPackAndVariant_ok hinv.revisions hparent hvariant
    have hwritten := fun review => Sound.of_dispatchRevision hinv hd hdraft
      (handed_dispatchRevision (E := E) hinv hd hdraft hplatform inputs review)
    split at h
    · rename_i happroved
      rw [enqueueTelegramPublishIntent_ok h]
      refine (hwritten _).trans (Sound.of_intent (hwritten _).1 ?_)
      refine ⟨_, getElem?_concat_length, ?_⟩
      exact decide_eq_false (approved_not_dryRun happroved)
    · obtain rfl := Except.ok.inj h
      exact hwritten _

/-! ## Decisions and intents -/

theorem Sound.of_decision (hinv : StoreInv E store) (hrow : store.revisions[id]? = some row)
    (approvalState : VariantApprovalState) :
    Sound E store { store with
      revisions := store.revisions.set id { row with approvalState := approvalState } } := by
  have hkeep : Keeps store { store with
      revisions := store.revisions.set id { row with approvalState := approvalState } } := by
    refine ⟨fun _ _ hvariant => hvariant, ?_⟩
    intro other old hold
    by_cases heq : id = other
    · subst heq
      rw [hrow] at hold
      obtain rfl := Option.some.inj hold
      have hlt := (List.getElem?_eq_some_iff.mp hrow).1
      exact ⟨{ row with approvalState := approvalState }, getElem?_set_self hlt, rfl⟩
    · exact ⟨old, by rw [getElem?_set_ne heq, hold], rfl⟩
  refine ⟨⟨hinv.dispatches.of_same hinv.dispatches.stories
    fun _ d hd => ⟨d, hd, rfl, rfl, rfl, rfl⟩, ?_⟩, hkeep⟩
  refine hinv.revisions.of_keeps hkeep ?_ (fun d hd => .inl hd) (fun job hjob => .inl hjob)
  intro row' hmem
  rcases mem_or_eq_of_mem_set hmem with hmem | rfl
  · exact .inr ⟨row', hmem, rfl, rfl, rfl⟩
  · exact .inr ⟨row, mem_of_getElem? hrow, rfl, rfl, rfl⟩

variable {revisionId : Nat}

theorem decideRevision_ok (hinv : StoreInv E store) {expectedContentHash : String} {approve : Bool}
    (h : store.decideRevision E revisionId expectedContentHash approve = .ok store') :
    Sound E store store' := by
  unfold LineageStore.decideRevision at h
  split at h
  · cases h
  rename_i revision hrevision
  repeat' split at h
  all_goals first
    | cases h; done
    | obtain rfl := Except.ok.inj h
      exact Sound.of_decision hinv hrevision _

variable {contentHash : String}

theorem requireRevisionTransition_ok
    (h : LineageStore.requireRevisionTransition row contentHash = .ok ()) :
    row.content.dryRun = false := by
  unfold LineageStore.requireRevisionTransition at h
  repeat' split at h
  all_goals first | cases h; done | skip
  rename_i hmark
  simpa using hmark

theorem publishReviewedDraft_ok (hinv : StoreInv E store)
    (h : store.publishReviewedDraft E revisionId contentHash = .ok store') :
    Sound E store store' := by
  unfold LineageStore.publishReviewedDraft at h
  split at h
  · cases h
  rename_i revision hrevision
  split at h
  · cases h
  split at h
  · cases h
  split at h
  · cases h
  rename_i htransition
  split at h
  · cases h
  rw [enqueueTelegramPublishIntent_ok h]
  exact Sound.of_intent hinv ⟨revision, hrevision, requireRevisionTransition_ok htransition⟩

theorem scheduleReviewedTelegram_ok (hinv : StoreInv E store) {destinationId : UUID}
    (h : store.scheduleReviewedTelegram E revisionId contentHash destinationId = .ok store') :
    Sound E store store' := by
  unfold LineageStore.scheduleReviewedTelegram at h
  split at h
  · cases h
  rename_i revision hrevision
  iterate 6
    split at h
    · cases h
  rename_i hmark
  iterate 4
    split at h
    · cases h
  obtain rfl := Except.ok.inj h
  exact Sound.of_intent hinv ⟨revision, hrevision, by simpa using hmark⟩

/-! ## The worker -/

theorem validateClaimControls_ok {context : PublishContext} {controls : PublishControls}
    (h : store.validateClaimControls E context controls = .ok ()) :
    Unmarked store context.revisionId := by
  unfold LineageStore.validateClaimControls at h
  split at h
  · rename_i revision publishJob dispatch hrevision hjob hdispatch
    split at h
    · cases h
    rename_i content hcontent
    split at h
    · cases h
    rename_i hopen
    simp only [not_or] at hopen
    have hmark : content.dryRun = false := by simpa using hopen.2.1
    refine ⟨revision, hrevision, ?_⟩
    rw [hcontent]
    exact hmark
  · cases h

/-! ## Runs -/

/-- No call was made for a marked revision, and none is about to be made. -/
structure LineageWorldInv (E : LineageEnv) (w : LineageWorld) : Prop where
  store : StoreInv E w.store
  claimed : ∀ worker context, w.workers worker = .claimed context →
    Unmarked w.store context.revisionId
  calls : ∀ id ∈ w.calls, Unmarked w.store id

theorem LineageWorldInv.start (E : LineageEnv) : LineageWorldInv E .start := by
  refine ⟨⟨⟨?_, ?_, ?_, ?_⟩, ⟨?_, ?_, ?_⟩⟩, ?_, ?_⟩ <;> simp [LineageWorld.start]

theorem LineageWorldInv.withStore (h : LineageWorldInv E w) (hsound : Sound E w.store store') :
    LineageWorldInv E { w with store := store' } :=
  ⟨hsound.1, fun worker context hphase => (h.claimed worker context hphase).keep hsound.2,
    fun id hid => (h.calls id hid).keep hsound.2⟩

theorem LineageWorldInv.commit (h : LineageWorldInv E w) {result : Except LineageError LineageStore}
    (hsound : ∀ store', result = .ok store' → Sound E w.store store') :
    LineageWorldInv E (w.commit result) := by
  cases hresult : result with
  | error e => exact h
  | ok store' => exact h.withStore (hsound store' hresult)

theorem LineageWorldInv.setWorker (h : LineageWorldInv E w) (worker : Nat) {phase : WorkerPhase}
    (hphase : ∀ context, phase = .claimed context → Unmarked w.store context.revisionId) :
    LineageWorldInv E (w.setWorker worker phase) := by
  refine ⟨h.store, ?_, h.calls⟩
  intro other context hother
  have hupdate : Function.update w.workers worker phase other = .claimed context := hother
  by_cases heq : other = worker
  · subst heq
    rw [Function.update_self] at hupdate
    exact hphase context hupdate
  · rw [Function.update_of_ne heq] at hupdate
    exact h.claimed other context hupdate

theorem LineageWorldInv.step (h : LineageWorldInv E w) (event : LineageEvent) :
    LineageWorldInv E (w.step E event) := by
  cases event with
  | capture routeId post sourceFingerprint dispatchKind dryRunJobId sourceItemId =>
    refine h.commit ?_
    intro store' hok
    obtain ⟨hdispatches, hvariants, hrevisions, hjobs, hnew⟩ :=
      captureAndEnqueue_ok h.store.dispatches hok
    refine ⟨⟨hdispatches, h.store.revisions.of_dispatches hvariants hrevisions hjobs ?_⟩,
      Keeps.of_eq hvariants hrevisions⟩
    intro d hd
    refine (hnew d hd).imp_right ?_
    intro hnone id hid
    rw [hnone] at hid
    cases hid
  | research storyId =>
    have hsame : (w.store.addStoryRevision storyId).variants = w.store.variants
        ∧ (w.store.addStoryRevision storyId).revisions = w.store.revisions
        ∧ (w.store.addStoryRevision storyId).publishJobs = w.store.publishJobs
        ∧ (w.store.addStoryRevision storyId).dispatches = w.store.dispatches := by
      unfold LineageStore.addStoryRevision
      split <;> exact ⟨rfl, rfl, rfl, rfl⟩
    obtain ⟨hvariants, hrevisions, hjobs, hdispatches⟩ := hsame
    refine h.withStore ⟨⟨h.store.dispatches.addStoryRevision storyId,
      h.store.revisions.of_dispatches hvariants hrevisions hjobs ?_⟩,
      Keeps.of_eq hvariants hrevisions⟩
    intro d hd
    rw [hdispatches] at hd
    exact .inl hd
  | adopt dispatchId storyRevisionId =>
    have hsame := adoptStoryRevision_rows w.store dispatchId storyRevisionId
    obtain ⟨hvariants, hrevisions, hjobs, hdispatches⟩ := hsame
    refine h.withStore ⟨⟨h.store.dispatches.adoptStoryRevision dispatchId storyRevisionId,
      h.store.revisions.of_dispatches hvariants hrevisions hjobs ?_⟩,
      Keeps.of_eq hvariants hrevisions⟩
    intro d hd
    obtain ⟨old, hold, hkind, hvariant⟩ := hdispatches d hd
    refine .inr ?_
    have howns := (h.store.revisions.owns old hold).keep (Keeps.of_eq hvariants hrevisions)
    unfold Owns
    rw [hkind, hvariant]
    exact howns
  | process dispatchId inputs =>
    exact h.commit fun store' hok => persistRevisionAndPublish_ok h.store hok
  | editVariant variantId baseRevisionId baseContentHash body buttons mediaAssetIds =>
    refine h.commit ?_
    intro store' hok
    obtain ⟨row, hrow, rfl⟩ := editVariant_ok hok
    exact Sound.of_row h.store hrow
  | editManualPlatformVariant variantId baseRevisionId baseContentHash platform payload
      evidenceMap validationResults =>
      refine h.commit ?_
      intro store' hok
      obtain ⟨row, hrow, rfl⟩ := editManualPlatformVariant_ok h.store.revisions hok
      exact Sound.of_row h.store hrow
  | generate storyRevisionId brandProfileId authored evidenceMap validationResults
      regeneration =>
      refine h.commit ?_
      intro store' hok
      obtain ⟨drafted, row, hdraft, hrow, rfl⟩ := persistNewArtifact_ok h.store.revisions hok
      exact Sound.of_drafted h.store hdraft hrow
  | decide revisionId expectedContentHash approve =>
    exact h.commit fun store' hok => decideRevision_ok h.store hok
  | publish revisionId contentHash =>
    exact h.commit fun store' hok => publishReviewedDraft_ok h.store hok
  | schedule revisionId contentHash destinationId =>
    exact h.commit fun store' hok => scheduleReviewedTelegram_ok h.store hok
  | prepare worker publishJobId controls =>
    simp only [LineageWorld.step]
    split
    · refine h.setWorker worker ?_
      intro context hphase
      cases hphase
    · exact h
  | claim worker controls =>
    simp only [LineageWorld.step]
    split
    · split
      · rename_i hclaim
        refine h.setWorker worker ?_
        intro context hphase
        obtain rfl := WorkerPhase.claimed.inj hphase
        exact validateClaimControls_ok hclaim
      · refine h.setWorker worker ?_
        intro context hphase
        cases hphase
    · exact h
  | execute worker =>
    simp only [LineageWorld.step]
    split
    · rename_i context hphase
      have hmark := h.claimed worker context hphase
      have hmoved : LineageWorldInv E (w.setWorker worker (.prepared context)) := by
        refine h.setWorker worker ?_
        intro other hother
        cases hother
      refine ⟨hmoved.store, hmoved.claimed, ?_⟩
      intro id hid
      rcases mem_append.mp hid with hid | hid
      · exact h.calls id hid
      rw [mem_singleton.mp hid]
      exact hmark
    · exact h
  | leave worker =>
    refine h.setWorker worker ?_
    intro context hphase
    cases hphase

theorem LineageWorldInv.reachable (h : (lineageSystem E).Reachable w) : LineageWorldInv E w := by
  refine System.invariant (P := LineageWorldInv E) ?_ ?_ h
  · rintro w rfl
    exact LineageWorldInv.start E
  · intro w event w' _ hinv hstep
    rw [show w' = w.step E event from hstep]
    exact hinv.step event

theorem RevisionInv.dryRun_of_descends (h : RevisionInv store) {root : Nat}
    (hdescends : store.Descends root id) (hroot : store.revisions[root]? = some row)
    (hmark : row.content.dryRun = true) : ¬ Unmarked store id := by
  have hmarked : ∀ row', store.revisions[id]? = some row' → row'.content.dryRun = true := by
    induction hdescends with
    | refl =>
      intro row' hrow'
      rw [hroot] at hrow'
      rw [← Option.some.inj hrow']
      exact hmark
    | tail _ hlink ih =>
      intro row' hrow'
      obtain ⟨child, hchild, hparent⟩ := hlink
      rw [hchild] at hrow'
      obtain rfl := Option.some.inj hrow'
      obtain ⟨parent, hparentRow, heq⟩ :=
        (h.handed child (mem_of_getElem? hchild)).parent _ hparent
      rw [heq]
      exact ih parent hparentRow
  rintro ⟨row', hrow', hunmarked⟩
  rw [hmarked row' hrow'] at hunmarked
  cases hunmarked

theorem LineageWorldInv.marked (h : LineageWorldInv E w) {root : Nat}
    (hdispatch : dispatch ∈ w.store.dispatches) (hdry : dispatch.dispatchKind = .dryRun)
    (hroot : dispatch.variantRevisionId = some root) (hdescends : w.store.Descends root id) :
    ¬ Unmarked w.store id := by
  obtain ⟨row, content, hrow, hcontent, hmark⟩ :=
    h.store.revisions.owns dispatch hdispatch root hroot
  refine h.store.revisions.dryRun_of_descends hdescends hrow ?_
  rw [hcontent]
  exact hmark.trans (decide_eq_true hdry)

/-- **Dry runs are never sent.** Whatever operators, generations and automations do to the
variant of a dry run, no call is made for a revision that descends from its dispatch's. -/
theorem dryRun_unsent (h : (lineageSystem E).Reachable w) {root : Nat}
    (hdispatch : dispatch ∈ w.store.dispatches) (hdry : dispatch.dispatchKind = .dryRun)
    (hroot : dispatch.variantRevisionId = some root) (hdescends : w.store.Descends root id) :
    id ∉ w.calls := by
  have hinv := LineageWorldInv.reachable h
  intro hcall
  exact hinv.marked hdispatch hdry hroot hdescends (hinv.calls id hcall)

/-! ## A dry run and a live post -/

def oneRoute : LineageEnv where
  route _ := ⟨"channel", 1, 2, .preserve, .reviewRequired⟩
  contentHash content _ :=
    match content with
    | .telegram content => content.body
    | .manual _ => "manual"

def inputsOf (body : String) : DispatchInputs :=
  ⟨body, [], none, [], .ltr, [.null], false, false, false, false, true, "healthy", true⟩

def openControls : PublishControls :=
  ⟨false, false, true, false, 2, "telegram", true, "healthy", "TOKEN", none, "@channel"⟩

/-- One post is captured live and by a dry run. The draft of the live one is approved; so is
an edit of the dry run's, and an operator asks for both to be published. -/
def afterEdits : LineageWorld :=
  [LineageEvent.capture 0 (.message 1) "f" .live none 10,
    .capture 0 (.message 1) "f" .dryRun (some 7) 11,
    .process 0 (inputsOf "live"), .process 1 (inputsOf "dry"),
    .editVariant 1 1 "dry" "edited" [] [],
    .decide 0 "live" true, .decide 2 "edited" true,
    .publish 0 "live", .publish 2 "edited", .schedule 2 "edited" 2,
    .prepare 0 0 openControls, .claim 0 openControls, .execute 0].foldl
    (LineageWorld.step oneRoute) .start

theorem afterEdits_reachable : (lineageSystem oneRoute).Reachable afterEdits :=
  System.reachable_foldl (fun _ _ => rfl) (.init rfl) _

/-- The live post was sent, the approved child of the dry run was not. -/
theorem editedDryRun_unsent : afterEdits.calls = [0]
      ∧ afterEdits.store.revisions[2]?.map RevisionRow.approvalState = some .approved
      ∧ 2 ∉ afterEdits.calls := by
  refine ⟨by decide +kernel, by decide +kernel, ?_⟩
  have hdispatch : ⟨0, "dry:" ++ uuidStr 7 ++ ":channel:message:1", .dryRun, 11, 1, some 1⟩
      ∈ afterEdits.store.dispatches := by decide +kernel
  refine dryRun_unsent afterEdits_reachable hdispatch rfl rfl (Relation.ReflTransGen.single ?_)
  have hlink : (afterEdits.store.revisions[2]?.bind RevisionRow.parentRevisionId) = some 1 := by
    decide +kernel
  obtain ⟨row, hrow, hparent⟩ := bind_eq_some_iff.mp hlink
  exact ⟨row, hrow, hparent⟩

end NewsCraft.Publishing.DryRuns
