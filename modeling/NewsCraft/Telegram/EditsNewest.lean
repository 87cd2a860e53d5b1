import NewsCraft.Telegram.SourceEdits

/-!
# The newest text of a message

Captures, revisions by others and activations leave the newest captured text of a post what
it is, or make it the text they capture, unless a capture meets a dispatch of an older text:
then only the fingerprint in the cursor moves, and the edit is never seen again. In a run
without such a capture a poll leaves each post of its lookback with the text it observed.
-/

namespace NewsCraft.Telegram.SourceEdits

open Lib Jobs List Option

/-- The posts of a channel, by source key and anchor. The keys have two colons more than the name
of the channel. -/
structure Channel where
  posts : String → Int → Prop
  colons : Nat
  anchor_of_key : ∀ key a b, posts key a → posts key b → a = b
  key_of_anchor : ∀ key key' a, posts key a → posts key' a → key = key'
  count_colons : ∀ key a, posts key a → key.toList.count ':' = colons + 2

def Channel.Has (channel : Channel) (envelope : TelegramEnvelope) : Prop :=
  channel.posts envelope.sourceKey envelope.anchorMessageId

variable {channel : Channel} {digest : Json → String} {store store' : EditStore}
  {w w' : EditWorld} {key key' sourceFingerprint : String} {envelope : TelegramEnvelope}
  {dispatchKind : DispatchKind} {dryRunJobId : Option UUID}

/-- The newest revision captured of a post has this fingerprint, and a dispatch. -/
def NewestIs (store : EditStore) (key sourceFingerprint : String) : Prop :=
  ∃ original, store.dispatchOf key = some original ∧ ∃ dispatch ∈ store.dispatches,
    (dispatch.sourceKey = key ∨ dispatch.sourceKey = key ++ ":edit:" ++ sourceFingerprint)
      ∧ dispatch.sourceFingerprint = sourceFingerprint
      ∧ dispatch.revision ∈ store.capturedOf original.revision.storyId
      ∧ ∀ other ∈ store.capturedOf original.revision.storyId, other ≠ dispatch.revision →
        other.revisionNumber < dispatch.revision.revisionNumber

/-! ## Keys -/

theorem count_colons_append (a b : String) :
    (a ++ b).toList.count ':' = a.toList.count ':' + b.toList.count ':' := by
  rw [String.toList_append, count_append]

theorem Channel.ne_edit (channel : Channel) {a b : Int} (h : channel.posts key a)
    (h' : channel.posts key' b) (sourceFingerprint : String) :
    key ++ ":edit:" ++ sourceFingerprint ≠ key' := by
  intro heq
  have hcount := congrArg (fun key : String => key.toList.count ':') heq
  have hedit : ":edit:".toList.count ':' = 2 := by decide
  simp only [count_colons_append, channel.count_colons key a h, channel.count_colons key' b h', hedit] at hcount
  omega

/-! ## The cursor -/

section SetKey

variable {κ β : Type} [DecidableEq κ] {k : κ} {value : β} {entry : κ × β} {entries : List (κ × β)}

theorem map_fst_setKey (h : k ∈ entries.map Prod.fst) :
    (setKey k value entries).map Prod.fst = entries.map Prod.fst := by
  induction entries with
  | nil => cases h
  | cons first rest ih =>
    rw [setKey]
    split
    · rename_i hkey
      rw [map_cons, map_cons, hkey]
    · rename_i hkey
      rw [map_cons, map_cons, ih]
      rcases mem_cons.mp h with heq | hrest
      · exact absurd heq.symm hkey
      · exact hrest

theorem setKey_of_not_mem (h : k ∉ entries.map Prod.fst) :
    setKey k value entries = entries ++ [(k, value)] := by
  induction entries with
  | nil => rfl
  | cons first rest ih =>
    rw [map_cons, mem_cons, not_or] at h
    rw [setKey, if_neg (Ne.symm h.1), ih h.2, cons_append]

theorem nodup_setKey (h : (entries.map Prod.fst).Nodup) :
    ((setKey k value entries).map Prod.fst).Nodup := by
  by_cases hmem : k ∈ entries.map Prod.fst
  · rw [map_fst_setKey hmem]
    exact h
  · rw [setKey_of_not_mem hmem, map_append]
    refine nodup_append.mpr ⟨h, nodup_singleton k, ?_⟩
    intro a ha b hb heq
    rw [map_singleton, mem_singleton] at hb
    rw [heq, hb] at ha
    exact hmem ha

theorem old_of_mem_setKey (hnodup : (entries.map Prod.fst).Nodup)
    (h : entry ∈ setKey k value entries) : entry = (k, value) ∨ entry ∈ entries ∧ entry.1 ≠ k := by
  by_cases hentry : entry = (k, value)
  · exact .inl hentry
  rcases mem_setKey h with heq | hold
  · exact absurd heq hentry
  refine .inr ⟨hold, ?_⟩
  intro hkey
  exact hentry (inj_on_of_nodup_map (nodup_setKey hnodup) h mem_setKey_self hkey)

end SetKey

variable {state : CursorState}

theorem mem_updateCursor {entry : Int × String}
    (hnodup : (state.recentFingerprints.map Prod.fst).Nodup)
    (h : entry ∈ (updateCursor state envelope sourceFingerprint dispatchKind).recentFingerprints) :
    (dispatchKind = .live ∨ dispatchKind = .sourceEdit)
        ∧ entry = (envelope.anchorMessageId, sourceFingerprint) ∨ entry ∈ state.recentFingerprints
        ∧ (entry.1 ≠ envelope.anchorMessageId
          ∨ dispatchKind = .backfill ∨ dispatchKind = .dryRun) := by
  have hset : entry ∈ retainRecent
      (setKey envelope.anchorMessageId sourceFingerprint state.recentFingerprints) →
        entry = (envelope.anchorMessageId, sourceFingerprint)
          ∨ entry ∈ state.recentFingerprints ∧ entry.1 ≠ envelope.anchorMessageId := by
    intro hmem
    exact old_of_mem_setKey hnodup ((mem_insertionSort _).mp (mem_of_mem_take hmem))
  cases dispatchKind with
  | live =>
    rcases hset h with hnew | ⟨hold, hne⟩
    · exact .inl ⟨.inl rfl, hnew⟩
    · exact .inr ⟨hold, Or.inl hne⟩
  | sourceEdit =>
    rcases hset h with hnew | ⟨hold, hne⟩
    · exact .inl ⟨.inr rfl, hnew⟩
    · exact .inr ⟨hold, Or.inl hne⟩
  | backfill => exact .inr ⟨h, Or.inr (.inl rfl)⟩
  | dryRun => exact .inr ⟨h, Or.inr (.inr rfl)⟩

theorem nodup_retainRecent {recent : List (Int × String)} (h : (recent.map Prod.fst).Nodup) :
    ((retainRecent recent).map Prod.fst).Nodup := by
  have hsorted : ((recent.insertionSort fun a b => b.1 ≤ a.1).map Prod.fst).Nodup :=
    (((perm_insertionSort _ recent).map Prod.fst).nodup_iff).mpr h
  exact hsorted.sublist ((take_sublist 50 _).map Prod.fst)

theorem nodup_updateCursor (h : (state.recentFingerprints.map Prod.fst).Nodup) :
    ((updateCursor state envelope sourceFingerprint dispatchKind).recentFingerprints.map
      Prod.fst).Nodup := by
  cases dispatchKind with
  | live | sourceEdit => exact nodup_retainRecent (nodup_setKey h)
  | backfill | dryRun => exact h

/-! ## What a capture writes -/

/-- Its dispatch is there already, it is an edit, or it starts a story. -/
inductive Captured (digest : Json → String) (store : EditStore) (envelope : TelegramEnvelope)
    (dispatchKind : DispatchKind) (sourceKey : String) : EditStore → Prop
  | found (dispatch : CapturedDispatch) : store.dispatchOf sourceKey = some dispatch →
      Captured digest store envelope dispatchKind sourceKey store
  | edited (original : CapturedDispatch) (parent : Nat) :
      store.dispatchOf sourceKey = none → dispatchKind = .sourceEdit →
      store.dispatchOf envelope.sourceKey = some original →
      store.highest original.revision.storyId = some parent →
      Captured digest store envelope dispatchKind sourceKey
        (store.insertCapture ⟨sourceKey, telegramEnvelopeFingerprint digest envelope, dispatchKind,
          ⟨original.revision.storyId, parent + 1, envelope.text, .telegramSourceEdit⟩⟩)
  | first : store.dispatchOf sourceKey = none → dispatchKind ≠ .sourceEdit →
      Captured digest store envelope dispatchKind sourceKey
        (store.insertStory sourceKey (telegramEnvelopeFingerprint digest envelope) dispatchKind
          envelope.text)

theorem captureAndEnqueue_ok
    (h : store.captureAndEnqueue digest envelope dispatchKind dryRunJobId = .ok store') :
    ∃ sourceKey written,
      dispatchSourceKey envelope.sourceKey (telegramEnvelopeFingerprint digest envelope)
          dispatchKind dryRunJobId = .ok sourceKey
        ∧ Captured digest store envelope dispatchKind sourceKey written
        ∧ store' = written.withCursor (updateCursor store.cursorState envelope
          (telegramEnvelopeFingerprint digest envelope) dispatchKind) := by
  unfold EditStore.captureAndEnqueue at h
  dsimp only at h
  split at h
  · cases h
  rename_i sourceKey hkey
  split at h
  · rename_i dispatch hfound
    cases h
    exact ⟨sourceKey, store, hkey, .found dispatch hfound, rfl⟩
  rename_i hnone
  split at h
  · rename_i hedit
    split at h
    · cases h
    rename_i original horiginal
    split at h
    · cases h
    rename_i parent hparent
    cases h
    exact ⟨sourceKey, _, hkey, .edited original parent hnone hedit horiginal hparent, rfl⟩
  · rename_i hedit
    cases h
    exact ⟨sourceKey, _, hkey, .first hnone hedit, rfl⟩

/-! ## What lasts -/

variable {storyId : Nat} {revision : StoryRevision}

theorem le_highest {parent : Nat} (h : store.highest storyId = some parent)
    (hmem : revision ∈ store.revisionsOf storyId) : revision.revisionNumber ≤ parent :=
  (max?_eq_some_iff.mp h).2 _ (mem_map_of_mem hmem)

theorem mem_revisionsOf : revision ∈ store.revisionsOf storyId
      ↔ revision ∈ store.revisions ∧ revision.storyId = storyId := by
  simp [EditStore.revisionsOf]

theorem mem_capturedOf : revision ∈ store.capturedOf storyId
      ↔ revision ∈ store.revisionsOf storyId ∧ revision.createdBy ≠ .other := by
  simp [EditStore.capturedOf]

variable {dispatch : CapturedDispatch}

theorem dispatchOf_insertCapture : (store.insertCapture dispatch).dispatchOf key
      = (store.dispatchOf key).or (if dispatch.sourceKey = key then some dispatch else none) := by
  simp [EditStore.dispatchOf, EditStore.insertCapture, find?_append, find?_singleton]

variable {original : CapturedDispatch}

theorem dispatchOf_insertCapture_of_some (h : store.dispatchOf key = some original) :
    (store.insertCapture dispatch).dispatchOf key = some original := by
  rw [dispatchOf_insertCapture, h, some_or]

theorem mem_capturedOf_insertCapture : revision ∈ (store.insertCapture dispatch).capturedOf storyId
      ↔ revision ∈ store.capturedOf storyId
        ∨ revision = dispatch.revision ∧ revision.storyId = storyId
          ∧ revision.createdBy ≠ .other := by
  simp only [mem_capturedOf, mem_revisionsOf, EditStore.insertCapture, mem_append, mem_singleton]
  tauto

theorem NewestIs.insertCapture (h : NewestIs store key sourceFingerprint)
    (hne : ∀ original, store.dispatchOf key = some original →
      original.revision.storyId ≠ dispatch.revision.storyId) :
    NewestIs (store.insertCapture dispatch) key sourceFingerprint := by
  obtain ⟨original, horiginal, newest, hmem, hkey, hfingerprint, hcaptured, hhighest⟩ := h
  refine ⟨original, dispatchOf_insertCapture_of_some horiginal, newest,
    mem_append_left _ hmem, hkey, hfingerprint, ?_, ?_⟩
  · exact mem_capturedOf_insertCapture.mpr (.inl hcaptured)
  intro other hother hother_ne
  rcases mem_capturedOf_insertCapture.mp hother with hold | ⟨hnew, hstory, _⟩
  · exact hhighest other hold hother_ne
  rw [hnew] at hstory
  exact absurd hstory.symm (hne original horiginal)

theorem NewestIs.revise (h : NewestIs store key sourceFingerprint) (storyId : Nat)
    (narrative : String) : NewestIs (store.revise storyId narrative) key sourceFingerprint := by
  unfold EditStore.revise
  split
  · exact h
  rename_i parent _
  have hcaptured : ∀ story revision, revision ∈ ({ store with revisions := store.revisions
          ++ [⟨storyId, parent + 1, narrative, .other⟩] } : EditStore).capturedOf story
        ↔ revision ∈ store.capturedOf story := by
    intro story revision
    simp only [mem_capturedOf, mem_revisionsOf, mem_append, mem_singleton]
    constructor
    · intro hmem
      rcases hmem with ⟨⟨hold | hnew, hstory⟩, hauthor⟩
      · exact ⟨⟨hold, hstory⟩, hauthor⟩
      rw [hnew] at hauthor
      exact absurd rfl hauthor
    · intro hmem
      exact ⟨⟨.inl hmem.1.1, hmem.1.2⟩, hmem.2⟩
  obtain ⟨original, horiginal, newest, hmem, hkey, hfingerprint, hnewest, hhighest⟩ := h
  refine ⟨original, horiginal, newest, hmem, hkey, hfingerprint, (hcaptured _ _).mpr hnewest, ?_⟩
  intro other hother hne
  exact hhighest other ((hcaptured _ _).mp hother) hne

theorem newestIs_edited {parent : Nat} (horiginal : store.dispatchOf key = some original)
    (hparent : store.highest original.revision.storyId = some parent) (narrative : String) :
    NewestIs (store.insertCapture ⟨key ++ ":edit:" ++ sourceFingerprint, sourceFingerprint,
      dispatchKind, ⟨original.revision.storyId, parent + 1, narrative, .telegramSourceEdit⟩⟩)
      key sourceFingerprint := by
  refine ⟨original, dispatchOf_insertCapture_of_some horiginal, _,
    mem_append_right _ (mem_singleton_self _), .inr rfl, rfl, ?_, ?_⟩
  · exact mem_capturedOf_insertCapture.mpr (.inr ⟨rfl, rfl, by simp⟩)
  intro other hother hne
  rcases mem_capturedOf_insertCapture.mp hother with hold | ⟨hnew, _⟩
  · have hle := le_highest hparent (mem_capturedOf.mp hold).1
    dsimp only
    omega
  · exact absurd hnew hne

/-! ## Stores -/

/-- The cursor has the fingerprint of the newest text of each post it knows, and no two
posts share a story. -/
structure StoreInv (channel : Channel) (digest : Json → String) (store : EditStore) : Prop where
  keys : (store.cursorState.recentFingerprints.map Prod.fst).Nodup
  cursor : ∀ entry ∈ store.cursorState.recentFingerprints, ∀ key, channel.posts key entry.1 →
    NewestIs store key entry.2
  texts : ∀ dispatch ∈ store.dispatches, ∃ envelope : TelegramEnvelope,
    telegramEnvelopeFingerprint digest envelope = dispatch.sourceFingerprint
      ∧ dispatch.revision.narrative = envelope.text
  apart : ∀ key key' a b original original', channel.posts key a → channel.posts key' b →
    store.dispatchOf key = some original → store.dispatchOf key' = some original' →
      original.revision.storyId = original'.revision.storyId → key = key'
  numbered : ∀ revision ∈ store.revisions, revision.storyId < store.stories
  pointed : ∀ dispatch ∈ store.dispatches, dispatch.revision.storyId < store.stories

theorem StoreInv.story_lt (h : StoreInv channel digest store)
    (horiginal : store.dispatchOf key = some original) :
    original.revision.storyId < store.stories :=
  h.pointed original (mem_of_find?_eq_some horiginal)

theorem newestIs_first (h : StoreInv channel digest store) (hnone : store.dispatchOf key = none)
    (narrative : String) :
    NewestIs (store.insertStory key sourceFingerprint dispatchKind narrative) key
      sourceFingerprint := by
  have hfound : (store.insertStory key sourceFingerprint dispatchKind narrative).dispatchOf key
      = some ⟨key, sourceFingerprint, dispatchKind,
        ⟨store.stories, 1, narrative, .telegramCapture⟩⟩ := by
    refine dispatchOf_insertCapture.trans ?_
    rw [hnone, none_or, if_pos rfl]
  refine ⟨_, hfound, _, mem_append_right _ (mem_singleton_self _), .inl rfl, rfl, ?_, ?_⟩
  · exact mem_capturedOf_insertCapture.mpr (.inr ⟨rfl, rfl, by simp⟩)
  intro other hother hne
  rcases mem_capturedOf_insertCapture.mp hother with hold | ⟨hnew, _⟩
  · -- no revision is in a story that has just been started
    obtain ⟨hrevision, hstory⟩ := mem_revisionsOf.mp (mem_capturedOf.mp hold).1
    have hlt := h.numbered other hrevision
    dsimp only at hstory
    omega
  · exact absurd hnew hne

/-- A capture that moves the cursor meets no dispatch but that of the newest text. -/
def MeetsNewest (digest : Json → String) (store : EditStore) (envelope : TelegramEnvelope)
    (dispatchKind : DispatchKind) (dryRunJobId : Option UUID) : Prop :=
  dispatchKind = .live ∨ dispatchKind = .sourceEdit → ∀ sourceKey,
    dispatchSourceKey envelope.sourceKey (telegramEnvelopeFingerprint digest envelope) dispatchKind
        dryRunJobId = .ok sourceKey →
      (store.dispatchOf sourceKey).isSome →
        NewestIs store envelope.sourceKey (telegramEnvelopeFingerprint digest envelope)

/-! ## A capture -/

theorem dispatchSourceKey_edit (h : dispatchSourceKey key sourceFingerprint .sourceEdit dryRunJobId
    = .ok key') : key' = key ++ ":edit:" ++ sourceFingerprint := by
  cases h
  rfl

theorem dispatchSourceKey_live (h : dispatchSourceKey key sourceFingerprint .live dryRunJobId
    = .ok key') : key' = key := by
  cases h
  rfl

/-- What a capture leaves of the newest texts: those of all posts but the one it is an
edit of. -/
theorem NewestIs.capture (hinv : StoreInv channel digest store) (hhas : channel.Has envelope)
    (h : store.captureAndEnqueue digest envelope dispatchKind dryRunJobId = .ok store') {a : Int}
    (hpost : channel.posts key a) (hother : key ≠ envelope.sourceKey ∨ dispatchKind ≠ .sourceEdit)
    (hnewest : NewestIs store key sourceFingerprint) : NewestIs store' key sourceFingerprint := by
  obtain ⟨sourceKey, written, _, hcaptured, rfl⟩ := captureAndEnqueue_ok h
  cases hcaptured with
  | found => exact hnewest
  | edited original parent _ hedit horiginal _ =>
    refine hnewest.insertCapture ?_
    intro found hfound hsame
    have hkey := hinv.apart _ _ _ _ _ _ hpost hhas hfound horiginal hsame
    rcases hother with hne | hne
    · exact hne hkey
    · exact hne hedit
  | first =>
    refine hnewest.insertCapture ?_
    intro found hfound hsame
    have hlt := hinv.story_lt hfound
    dsimp only at hsame
    omega

/-- **A capture that moves the cursor makes its text the newest exactly when it meets no
dispatch of an older one.** -/
theorem newestIs_captured_iff (hinv : StoreInv channel digest store)
    (hkind : dispatchKind = .live ∨ dispatchKind = .sourceEdit)
    (h : store.captureAndEnqueue digest envelope dispatchKind dryRunJobId = .ok store') :
    NewestIs store' envelope.sourceKey (telegramEnvelopeFingerprint digest envelope)
      ↔ MeetsNewest digest store envelope dispatchKind dryRunJobId := by
  obtain ⟨sourceKey, written, hkey, hcaptured, rfl⟩ := captureAndEnqueue_ok h
  have hmeets_of_none (hnone : store.dispatchOf sourceKey = none) :
      MeetsNewest digest store envelope dispatchKind dryRunJobId := by
    intro _ sourceKey' hkey' hsome
    rw [hkey, Except.ok.injEq] at hkey'
    rw [← hkey', hnone] at hsome
    cases hsome
  cases hcaptured with
  | found dispatch hfound =>
    constructor
    · intro hnewest _ _ _ _
      exact hnewest
    · intro hmeets
      refine hmeets hkind sourceKey hkey ?_
      rw [hfound]
      rfl
  | edited original parent hnone hedit horiginal hparent =>
    refine iff_of_true ?_ (hmeets_of_none hnone)
    subst hedit
    rw [dispatchSourceKey_edit hkey]
    exact newestIs_edited horiginal hparent envelope.text
  | first hnone hne =>
    refine iff_of_true ?_ (hmeets_of_none hnone)
    rcases hkind with rfl | hedit
    · rw [dispatchSourceKey_live hkey] at hnone ⊢
      exact newestIs_first hinv hnone envelope.text
    · exact absurd hedit hne

theorem dispatchOf_written (h : (store.insertCapture dispatch).dispatchOf key = some original) :
    store.dispatchOf key = some original ∨ dispatch.sourceKey = key ∧ dispatch = original := by
  rw [dispatchOf_insertCapture] at h
  cases hold : store.dispatchOf key with
  | some found =>
    rw [hold, some_or] at h
    exact .inl h
  | none =>
    rw [hold, none_or] at h
    split at h
    · rename_i hkey
      exact .inr ⟨hkey, Option.some.inj h⟩
    · cases h

theorem dispatchOf_edited {a : Int} (hhas : channel.Has envelope) (hpost : channel.posts key a)
    (hedit : dispatch.sourceKey = envelope.sourceKey ++ ":edit:" ++ sourceFingerprint)
    (h : (store.insertCapture dispatch).dispatchOf key = some original) :
    store.dispatchOf key = some original := by
  rcases dispatchOf_written h with hold | ⟨hnew, _⟩
  · exact hold
  · exact absurd (hedit.symm.trans hnew) (channel.ne_edit hhas hpost _)

theorem StoreInv.written {written : EditStore} {sourceKey : String}
    (hinv : StoreInv channel digest store) (hhas : channel.Has envelope)
    (hkey : dispatchSourceKey envelope.sourceKey (telegramEnvelopeFingerprint digest envelope)
      dispatchKind dryRunJobId = .ok sourceKey)
    (h : Captured digest store envelope dispatchKind sourceKey written) :
    (∀ dispatch ∈ written.dispatches, ∃ envelope : TelegramEnvelope,
        telegramEnvelopeFingerprint digest envelope = dispatch.sourceFingerprint
          ∧ dispatch.revision.narrative = envelope.text)
      ∧ (∀ key key' a b original original', channel.posts key a → channel.posts key' b →
        written.dispatchOf key = some original → written.dispatchOf key' = some original' →
          original.revision.storyId = original'.revision.storyId → key = key')
      ∧ (∀ revision ∈ written.revisions, revision.storyId < written.stories)
      ∧ ∀ dispatch ∈ written.dispatches, dispatch.revision.storyId < written.stories := by
  cases h with
  | found => exact ⟨hinv.texts, hinv.apart, hinv.numbered, hinv.pointed⟩
  | edited original parent _ hedit horiginal _ =>
    subst hedit
    have hsourceKey := dispatchSourceKey_edit hkey
    have hlt := hinv.story_lt horiginal
    refine ⟨?_, ?_, ?_, ?_⟩
    · intro dispatch hmem
      rcases mem_append.mp hmem with hold | hnew
      · exact hinv.texts dispatch hold
      rw [mem_singleton.mp hnew]
      exact ⟨envelope, rfl, rfl⟩
    · intro key key' a b first second hpost hpost' hfirst hsecond hsame
      exact hinv.apart _ _ _ _ _ _ hpost hpost' (dispatchOf_edited hhas hpost hsourceKey hfirst)
        (dispatchOf_edited hhas hpost' hsourceKey hsecond) hsame
    · intro revision hmem
      rcases mem_append.mp hmem with hold | hnew
      · exact hinv.numbered revision hold
      rw [mem_singleton.mp hnew]
      exact hlt
    · intro dispatch hmem
      rcases mem_append.mp hmem with hold | hnew
      · exact hinv.pointed dispatch hold
      rw [mem_singleton.mp hnew]
      exact hlt
  | first =>
    refine ⟨?_, ?_, ?_, ?_⟩
    · intro dispatch hmem
      rcases mem_append.mp hmem with hold | hnew
      · exact hinv.texts dispatch hold
      rw [mem_singleton.mp hnew]
      exact ⟨envelope, rfl, rfl⟩
    · intro key key' a b first second hpost hpost' hfirst hsecond hsame
      rcases dispatchOf_written hfirst with hfirst | ⟨hnew, hfirst⟩
      · rcases dispatchOf_written hsecond with hsecond | ⟨_, hsecond⟩
        · exact hinv.apart _ _ _ _ _ _ hpost hpost' hfirst hsecond hsame
        have hlt := hinv.story_lt hfirst
        rw [hsame, ← hsecond] at hlt
        exact absurd hlt (Nat.lt_irrefl _)
      · rcases dispatchOf_written hsecond with hsecond | ⟨hnew', _⟩
        · have hlt := hinv.story_lt hsecond
          rw [← hsame, ← hfirst] at hlt
          exact absurd hlt (Nat.lt_irrefl _)
        · exact hnew.symm.trans hnew'
    · intro revision hmem
      rcases mem_append.mp hmem with hold | hnew
      · exact Nat.lt_succ_of_lt (hinv.numbered revision hold)
      rw [mem_singleton.mp hnew]
      exact Nat.lt_succ_self _
    · intro dispatch hmem
      rcases mem_append.mp hmem with hold | hnew
      · exact Nat.lt_succ_of_lt (hinv.pointed dispatch hold)
      rw [mem_singleton.mp hnew]
      exact Nat.lt_succ_self _

theorem StoreInv.capture (hinv : StoreInv channel digest store) (hhas : channel.Has envelope)
    (hmeets : MeetsNewest digest store envelope dispatchKind dryRunJobId)
    (h : store.captureAndEnqueue digest envelope dispatchKind dryRunJobId = .ok store') :
    StoreInv channel digest store' := by
  have hlasts : ∀ key sourceFingerprint a, channel.posts key a →
      key ≠ envelope.sourceKey ∨ dispatchKind ≠ .sourceEdit →
        NewestIs store key sourceFingerprint → NewestIs store' key sourceFingerprint := by
    intro key sourceFingerprint a hpost hother hnewest
    exact hnewest.capture hinv hhas h hpost hother
  have hnew := fun hkind => (newestIs_captured_iff hinv hkind h).mpr hmeets
  obtain ⟨sourceKey, written, hkey, hcaptured, rfl⟩ := captureAndEnqueue_ok h
  obtain ⟨htexts, hapart, hnumbered, hpointed⟩ := hinv.written hhas hkey hcaptured
  refine ⟨nodup_updateCursor hinv.keys, ?_, htexts, hapart, hnumbered, hpointed⟩
  intro entry hmem key hpost
  rcases mem_updateCursor hinv.keys hmem with ⟨hkind, rfl⟩ | ⟨hold, hne⟩
  · rw [channel.key_of_anchor key envelope.sourceKey _ hpost hhas]
    exact hnew hkind
  · refine hlasts _ _ _ hpost ?_ (hinv.cursor entry hold key hpost)
    rcases hne with hanchor | hbackfill | hdry
    · left
      intro hsame
      exact hanchor (channel.anchor_of_key key _ _ hpost (hsame ▸ hhas))
    · exact .inr (by simp [hbackfill])
    · exact .inr (by simp [hdry])

/-! ## Polls -/

/-- A poll on its way: what it knew has its text as the newest, or is still to be captured. -/
structure PollInv (channel : Channel) (digest : Json → String) (store : EditStore) (poll : Poll) :
    Prop where
  has : ∀ envelope ∈ poll.recent, channel.Has envelope
  nodup : (poll.recent.map TelegramEnvelope.sourceKey).Nodup
  edits : ∀ envelope ∈ poll.edits, envelope ∈ poll.recent
  live : ∀ envelope ∈ poll.live, channel.Has envelope
  settled : ∀ envelope ∈ poll.recent, envelope.sourceKey ∈ poll.known → envelope ∈ poll.edits
      ∨ NewestIs store envelope.sourceKey (telegramEnvelopeFingerprint digest envelope)

variable {poll : Poll}

theorem PollInv.lasts (h : PollInv channel digest store poll)
    (hlasts : ∀ key sourceFingerprint a, channel.posts key a → NewestIs store key sourceFingerprint
      → NewestIs store' key sourceFingerprint) : PollInv channel digest store' poll := by
  refine ⟨h.has, h.nodup, h.edits, h.live, ?_⟩
  intro envelope hmem hknown
  rcases h.settled envelope hmem hknown with hedit | hnewest
  · exact .inl hedit
  · exact .inr (hlasts _ _ _ (h.has envelope hmem) hnewest)

theorem bySourceKey_keys (pages : List TelegramEnvelope)
    (found : List (String × TelegramEnvelope)) (hnodup : (found.map Prod.fst).Nodup)
    (hkeys : ∀ entry ∈ found, entry.1 = entry.2.sourceKey) :
    ((pages.foldl (fun found item => setKey item.sourceKey item found) found).map Prod.fst).Nodup
      ∧ ∀ entry ∈ pages.foldl (fun found item => setKey item.sourceKey item found) found,
        entry.1 = entry.2.sourceKey := by
  induction pages generalizing found with
  | nil => exact ⟨hnodup, hkeys⟩
  | cons item rest ih =>
    refine ih _ (nodup_setKey hnodup) ?_
    intro entry hentry
    rcases mem_setKey hentry with rfl | hold
    · rfl
    · exact hkeys entry hold

theorem nodup_fetchRecent (pages : List TelegramEnvelope) :
    ((fetchRecent pages).map TelegramEnvelope.sourceKey).Nodup := by
  obtain ⟨hnodup, hkeys⟩ := bySourceKey_keys pages [] nodup_nil (by simp)
  have hsame : ((pages.foldl (fun found item => setKey item.sourceKey item found)
      ([] : List (String × TelegramEnvelope))).map Prod.snd).map TelegramEnvelope.sourceKey
        = (pages.foldl (fun found item => setKey item.sourceKey item found) []).map Prod.fst := by
    rw [List.map_map]
    exact map_congr_left fun entry hentry => (hkeys entry hentry).symm
  have hall : (((pages.foldl (fun found item => setKey item.sourceKey item found)
      ([] : List (String × TelegramEnvelope))).map Prod.snd).map
        TelegramEnvelope.sourceKey).Nodup := by
    rw [hsame]
    exact hnodup
  exact (((perm_insertionSort _ _).map _).nodup_iff.mpr hall).sublist ((take_sublist 50 _).map _)

theorem mem_of_mem_fetchRecent {pages : List TelegramEnvelope} (h : envelope ∈ fetchRecent pages) :
    envelope ∈ pages := by
  have hmem := (mem_insertionSort _).mp (mem_of_mem_take h)
  have hfold : ∀ (pages : List TelegramEnvelope) (found : List (String × TelegramEnvelope)),
      envelope ∈ (pages.foldl (fun found item => setKey item.sourceKey item found) found).map
        Prod.snd → envelope ∈ pages ∨ envelope ∈ found.map Prod.snd := by
    intro pages
    induction pages with
    | nil => exact fun found hmem => .inr hmem
    | cons item rest ih =>
      intro found hmem
      rcases ih _ hmem with hrest | hset
      · exact .inl (mem_cons_of_mem _ hrest)
      obtain ⟨entry, hentry, rfl⟩ := mem_map.mp hset
      rcases mem_setKey hentry with rfl | hold
      · exact .inl mem_cons_self
      · exact .inr (mem_map_of_mem hold)
  rcases hfold pages [] hmem with hpages | hnil
  · exact hpages
  · cases hnil

theorem mem_of_fingerprintOf {anchorMessageId : Int}
    (h : fingerprintOf state anchorMessageId = some sourceFingerprint) :
    (anchorMessageId, sourceFingerprint) ∈ state.recentFingerprints := by
  obtain ⟨entry, hentry, hsnd⟩ := map_eq_some_iff.mp h
  have hkey := find?_some hentry
  rw [decide_eq_true_eq] at hkey
  rw [← hkey, ← hsnd]
  exact mem_of_find?_eq_some hentry

theorem mem_sourceEdits {recent : List TelegramEnvelope} :
    envelope ∈ sourceEdits digest state recent ↔ envelope ∈ recent ∧ ∃ fingerprint,
        fingerprintOf state envelope.anchorMessageId = some fingerprint
          ∧ fingerprint ≠ telegramEnvelopeFingerprint digest envelope := by
  rw [sourceEdits, mem_insertionSort, mem_filter]
  cases fingerprintOf state envelope.anchorMessageId <;> simp

/-- Each captured post of the lookback is one the cursor knows, or has its text as the
newest. -/
def KnowsLookback (digest : Json → String) (store : EditStore) (recent : List TelegramEnvelope) :
    Prop :=
  ∀ envelope ∈ recent, (store.dispatchOf envelope.sourceKey).isSome →
    (fingerprintOf store.cursorState envelope.anchorMessageId).isSome
      ∨ NewestIs store envelope.sourceKey (telegramEnvelopeFingerprint digest envelope)

theorem pollInv_start (hinv : StoreInv channel digest store) {pages live : List TelegramEnvelope}
    (hpages : ∀ envelope ∈ pages, channel.Has envelope)
    (hlive : ∀ envelope ∈ live, channel.Has envelope)
    (hknows : KnowsLookback digest store (fetchRecent pages))
    (h : (EditWorld.startPoll digest store pages live).poll = some poll) :
    PollInv channel digest store poll := by
  cases h
  refine ⟨fun envelope hmem => hpages envelope (mem_of_mem_fetchRecent hmem),
    nodup_fetchRecent pages, fun envelope hmem => (mem_sourceEdits.mp hmem).1, hlive, ?_⟩
  intro envelope hmem hknown
  have hhas := hpages envelope (mem_of_mem_fetchRecent hmem)
  have hsome : (store.dispatchOf envelope.sourceKey).isSome := by
    obtain ⟨other, hother, hkey⟩ := mem_map.mp hknown
    rw [← hkey]
    exact (mem_filter.mp hother).2
  rcases hknows envelope hmem hsome with htracked | hnewest
  · obtain ⟨fingerprint, hfingerprint⟩ := isSome_iff_exists.mp htracked
    by_cases hsame : fingerprint = telegramEnvelopeFingerprint digest envelope
    · right
      rw [← hsame]
      exact hinv.cursor _ (mem_of_fingerprintOf hfingerprint) _ hhas
    · exact .inl (mem_sourceEdits.mpr ⟨hmem, fingerprint, hfingerprint, hsame⟩)
  · exact .inr hnewest

theorem pollInv_next (hinv : StoreInv channel digest store) {rest : Poll}
    (hpoll : PollInv channel digest store poll)
    (hnext : poll.next = some (dispatchKind, envelope, rest))
    (hmeets : MeetsNewest digest store envelope dispatchKind none)
    (h : store.captureAndEnqueue digest envelope dispatchKind none = .ok store') :
    channel.Has envelope ∧ PollInv channel digest store' rest := by
  obtain ⟨recent, known, edits, live⟩ := poll
  cases edits with
  | cons edit edits =>
    cases hnext
    have hmem := hpoll.edits envelope mem_cons_self
    have hhas := hpoll.has envelope hmem
    have hcaptured := (newestIs_captured_iff hinv (.inr rfl) h).mpr hmeets
    refine ⟨hhas, hpoll.has, hpoll.nodup,
      fun other hother => hpoll.edits other (mem_cons_of_mem _ hother), hpoll.live, ?_⟩
    intro other hother hknown
    by_cases hsame : other.sourceKey = envelope.sourceKey
    · -- a lookback has one post under each key
      have heq : other = envelope :=
        inj_on_of_nodup_map hpoll.nodup hother hmem hsame
      rw [heq]
      exact .inr hcaptured
    · rcases hpoll.settled other hother hknown with hedit | hnewest
      · rcases mem_cons.mp hedit with heq | hlater
        · exact absurd (congrArg TelegramEnvelope.sourceKey heq) hsame
        · exact .inl hlater
      · exact .inr (hnewest.capture hinv hhas h (hpoll.has other hother) (.inl hsame))
  | nil =>
    cases live with
    | nil => cases hnext
    | cons first live =>
      cases hnext
      have hhas := hpoll.live envelope mem_cons_self
      have hlasts : PollInv channel digest store' ⟨recent, known, [], envelope :: live⟩ := by
        refine hpoll.lasts ?_
        intro key sourceFingerprint a hpost hnewest
        exact hnewest.capture hinv hhas h hpost (.inr (by simp))
      exact ⟨hhas, hlasts.has, hlasts.nodup, hlasts.edits,
        fun other hother => hlasts.live other (mem_cons_of_mem _ hother),
        hlasts.settled⟩

/-! ## Runs -/

/-- What a step has to meet: no capture finds the dispatch of an older text. -/
def Follows (channel : Channel) (digest : Json → String) (w : EditWorld) : EditEvent → Prop
  | .startPoll pages live =>
    (∀ envelope ∈ pages, channel.Has envelope) ∧ (∀ envelope ∈ live, channel.Has envelope)
      ∧ KnowsLookback digest w.store (fetchRecent pages)
  | .captureNext => ∀ dispatchKind envelope rest,
      w.poll.bind Poll.next = some (dispatchKind, envelope, rest) →
        MeetsNewest digest w.store envelope dispatchKind none
  | .capture dispatchKind envelope dryRunJobId =>
    channel.Has envelope ∧ MeetsNewest digest w.store envelope dispatchKind dryRunJobId
  | .leavePoll => True
  | .activate _ => True
  | .revise _ _ => True

/-- The runs of a route in which every step does. -/
def followedSystem (channel : Channel) (digest : Json → String) : System EditWorld EditEvent :=
  (editSystem digest).restrict (Follows channel digest)

structure EditInv (channel : Channel) (digest : Json → String) (w : EditWorld) : Prop where
  store : StoreInv channel digest w.store
  poll : ∀ poll, w.poll = some poll → PollInv channel digest w.store poll

theorem StoreInv.revise (h : StoreInv channel digest store) (storyId : Nat) (narrative : String) :
    StoreInv channel digest (store.revise storyId narrative) := by
  refine ⟨?_, ?_, ?_, ?_, ?_, ?_⟩
  · unfold EditStore.revise
    split <;> exact h.keys
  · intro entry hmem key hpost
    refine (h.cursor entry ?_ key hpost).revise storyId narrative
    unfold EditStore.revise at hmem
    split at hmem <;> exact hmem
  · unfold EditStore.revise
    split <;> exact h.texts
  · unfold EditStore.revise
    split <;> exact h.apart
  · unfold EditStore.revise
    split
    · exact h.numbered
    rename_i parent hparent
    intro revision hmem
    rcases mem_append.mp hmem with hold | hnew
    · exact h.numbered revision hold
    -- the story has a revision
    obtain ⟨number, hnumber, _⟩ := mem_map.mp (max?_eq_some_iff.mp hparent).1
    obtain ⟨hrevision, hstory⟩ := mem_revisionsOf.mp hnumber
    rw [mem_singleton.mp hnew]
    exact hstory ▸ h.numbered number hrevision
  · unfold EditStore.revise
    split <;> exact h.pointed

theorem editInv_step {event : EditEvent} (h : EditInv channel digest w)
    (hfollows : Follows channel digest w event) : EditInv channel digest (w.step digest event) := by
  have hleft : EditInv channel digest { w with poll := none } := by
    refine ⟨h.store, ?_⟩
    intro poll hpoll
    cases hpoll
  cases event with
  | startPoll pages live =>
    rw [EditWorld.step]
    split
    · exact h
    exact ⟨h.store, fun poll hpoll =>
      pollInv_start h.store hfollows.1 hfollows.2.1 hfollows.2.2 hpoll⟩
  | captureNext =>
    rw [EditWorld.step]
    split
    · exact h
    rename_i dispatchKind envelope rest hnext
    split
    · exact hleft
    rename_i store hok
    obtain ⟨poll, hpoll, hrest⟩ := bind_eq_some_iff.mp hnext
    have hmeets := hfollows dispatchKind envelope rest hnext
    obtain ⟨hhas, hinv⟩ := pollInv_next h.store (h.poll poll hpoll) hrest hmeets hok
    refine ⟨h.store.capture hhas hmeets hok, ?_⟩
    intro later hlater
    cases hlater
    exact hinv
  | leavePoll => exact hleft
  | capture dispatchKind envelope dryRunJobId =>
    rw [EditWorld.step]
    split
    · exact h
    rename_i hkind
    split
    · exact h
    rename_i store hok
    refine ⟨h.store.capture hfollows.1 hfollows.2 hok, ?_⟩
    intro poll hpoll
    refine (h.poll poll hpoll).lasts ?_
    intro key sourceFingerprint a hpost hnewest
    exact hnewest.capture h.store hfollows.1 hok hpost (.inr hkind)
  | activate requestedAt =>
    refine ⟨⟨nodup_nil, ?_, h.store.texts, h.store.apart, h.store.numbered, h.store.pointed⟩, ?_⟩
    · nofun
    · intro poll hpoll
      exact (h.poll poll hpoll).lasts fun _ _ _ _ hnewest => hnewest
  | revise storyId narrative =>
    refine ⟨h.store.revise storyId narrative, ?_⟩
    intro poll hpoll
    exact (h.poll poll hpoll).lasts fun _ _ _ _ hnewest => hnewest.revise storyId narrative

theorem editInv_reachable (h : (followedSystem channel digest).Reachable w) :
    EditInv channel digest w := by
  refine System.invariant (P := EditInv channel digest) ?_ ?_ h
  · intro s hs
    obtain rfl : s = .start := hs
    refine ⟨⟨nodup_nil, ?_, ?_, ?_, ?_, ?_⟩, ?_⟩
    · intro entry hmem
      cases hmem
    · intro dispatch hmem
      cases hmem
    · intro key key' a b original original' _ _ horiginal
      cases horiginal
    · intro revision hmem
      cases hmem
    · intro dispatch hmem
      cases hmem
    · intro poll hpoll
      cases hpoll
  · intro s event s' _ hinv hstep
    rw [hstep.2]
    exact editInv_step hinv hstep.1

/-! ## The newest text -/

/-- No two posts with different texts have the same fingerprint. -/
def TellsTexts (digest : Json → String) : Prop :=
  ∀ envelope envelope', telegramEnvelopeFingerprint digest envelope
    = telegramEnvelopeFingerprint digest envelope' → envelope.text = envelope'.text

/-- The highest of the revisions captured of a post has its text, and there is the
dispatch of it. -/
def ShowsText (digest : Json → String) (store : EditStore) (envelope : TelegramEnvelope) : Prop :=
  ∃ original, store.dispatchOf envelope.sourceKey = some original
    ∧ ∃ revision ∈ store.capturedOf original.revision.storyId, revision.narrative = envelope.text
        ∧ (∀ other ∈ store.capturedOf original.revision.storyId, other ≠ revision →
          other.revisionNumber < revision.revisionNumber)
        ∧ ∃ dispatch ∈ store.dispatches, dispatch.revision = revision
          ∧ dispatch.sourceFingerprint = telegramEnvelopeFingerprint digest envelope
          ∧ (dispatch.sourceKey = envelope.sourceKey ∨ dispatch.sourceKey
            = envelope.sourceKey ++ ":edit:" ++ telegramEnvelopeFingerprint digest envelope)

theorem StoreInv.showsText (hinv : StoreInv channel digest store) (htells : TellsTexts digest)
    (h : NewestIs store envelope.sourceKey (telegramEnvelopeFingerprint digest envelope)) :
    ShowsText digest store envelope := by
  obtain ⟨original, horiginal, dispatch, hmem, hkey, hfingerprint, hcaptured, hhighest⟩ := h
  obtain ⟨other, hother, hnarrative⟩ := hinv.texts dispatch hmem
  refine ⟨original, horiginal, dispatch.revision, hcaptured, ?_, hhighest, dispatch, hmem, rfl,
    hfingerprint, hkey⟩
  exact hnarrative.trans (htells other envelope (hother.trans hfingerprint))

/-- **Every observed edit becomes the newest text**, in a run in which no capture meets the
dispatch of an older text and the cursor knows the captured posts of each lookback: once a
poll is through with its captures, each of these posts has the text the poll observed as
that of its highest captured revision, with a dispatch. -/
theorem observed_is_newest (htells : TellsTexts digest)
    (h : (followedSystem channel digest).Reachable w) {poll : Poll} (hpoll : w.poll = some poll)
    (hthrough : poll.Through) : ∀ envelope ∈ poll.recent, envelope.sourceKey ∈ poll.known →
      ShowsText digest w.store envelope := by
  intro envelope hmem hknown
  have hinv := editInv_reachable h
  rcases (hinv.poll poll hpoll).settled envelope hmem hknown with hedit | hnewest
  · rw [hthrough.1] at hedit
    cases hedit
  · exact hinv.store.showsText htells hnewest

/-! ## A message that is edited back and forth -/

def shownText : Json → String
  | .obj fields =>
    match fields.lookup "text" with
    | some (.str text) => text
    | _ => ""
  | _ => ""

def messageOne (text : String) : TelegramEnvelope :=
  ⟨"c:message:1", "c", 1, [1], text, none, [], 0, []⟩

def oneMessage : Channel where
  posts key a := key = "c:message:1" ∧ a = 1
  anchor_of_key _ _ _ h h' := h.2.trans h'.2.symm
  key_of_anchor _ _ _ h h' := h.1.trans h'.1.symm
  colons := 0
  count_colons key a h := by
    rw [h.1]
    decide

theorem tellsTexts_shownText : TellsTexts shownText := by
  intro envelope envelope' h
  exact h

/-- The polls of a route that captures the message with its first text, and then observes
the others. -/
def pollsOf (first : String) (texts : List String) : List EditEvent :=
  [.startPoll [] [messageOne first], .captureNext]
    ++ texts.flatMap fun text => [.leavePoll, .startPoll [messageOne text] [], .captureNext]

def afterPolls (first : String) (texts : List String) : EditWorld :=
  (pollsOf first texts).foldl (EditWorld.step shownText) .start

/-- The one edit of the message is its newest text. -/
theorem editedOnce_shown :
    ∃ poll, (afterPolls "A" ["B"]).poll = some poll ∧ poll.recent = [messageOne "B"]
      ∧ ShowsText shownText (afterPolls "A" ["B"]).store (messageOne "B") := by
  have hhas : ∀ text, oneMessage.Has (messageOne text) := fun _ => ⟨rfl, rfl⟩
  have hnone : ∀ text envelope, envelope ∈ [messageOne text] → oneMessage.Has envelope := by
    intro text envelope hmem
    rw [mem_singleton.mp hmem]
    exact hhas text
  have hreach : (followedSystem oneMessage shownText).Reachable (afterPolls "A" ["B"]) := by
    have hstep : ∀ w event, Follows oneMessage shownText w event →
        (followedSystem oneMessage shownText).step w event (w.step shownText event) :=
      fun _ _ hfollows => ⟨hfollows, rfl⟩
    refine System.reachable_along hstep (.init rfl) ?_
    refine ⟨⟨by simp, hnone "A", ?_⟩, ?_, trivial, ⟨hnone "B", by simp, ?_⟩, ?_, trivial⟩
    · nofun
    · intro dispatchKind envelope rest hnext
      cases hnext
      intro _ sourceKey hkey hsome
      cases hkey
      cases hsome
    · intro envelope hmem _
      rw [mem_singleton.mp (mem_of_mem_fetchRecent hmem)]
      exact .inl rfl
    · intro dispatchKind envelope rest hnext
      cases hnext
      intro _ sourceKey hkey hsome
      cases hkey
      cases hsome
  refine ⟨_, rfl, rfl, ?_⟩
  exact observed_is_newest tellsTexts_shownText hreach rfl ⟨rfl, rfl⟩ _ (mem_singleton_self _)
    (by decide)

/-- The message returns to an older text, and the newest captured text is still the last one. -/
theorem editedBack_not_shown : (editSystem shownText).Reachable (afterPolls "A" ["B", "C", "B"])
      ∧ ∃ poll, (afterPolls "A" ["B", "C", "B"]).poll = some poll ∧ poll.Through
        ∧ poll.recent = [messageOne "B"] ∧ (messageOne "B").sourceKey ∈ poll.known
        ∧ (afterPolls "A" ["B", "C", "B"]).store.revisions.map StoryRevision.narrative
          = ["A", "B", "C"]
        ∧ ¬ ShowsText shownText (afterPolls "A" ["B", "C", "B"]).store (messageOne "B") := by
  refine ⟨System.reachable_foldl (fun _ _ => rfl) (.init rfl) _, _, rfl, ⟨rfl, rfl⟩, rfl,
    by decide, rfl, ?_⟩
  intro hshows
  obtain ⟨original, horiginal, revision, hmem, hnarrative, hhighest, _⟩ := hshows
  cases horiginal
  have hlast : (⟨0, 3, "C", .telegramSourceEdit⟩ : StoryRevision)
      ∈ (afterPolls "A" ["B", "C", "B"]).store.capturedOf 0 := by decide
  have hne : (⟨0, 3, "C", .telegramSourceEdit⟩ : StoryRevision) ≠ revision := by
    intro heq
    rw [← heq] at hnarrative
    exact absurd hnarrative (by decide)
  have hall : ∀ other ∈ (afterPolls "A" ["B", "C", "B"]).store.capturedOf 0,
      other.revisionNumber ≤ 3 := by decide
  have hlt := hhighest _ hlast hne
  have hle := hall revision hmem
  dsimp only at hlt
  omega

end NewsCraft.Telegram.SourceEdits
