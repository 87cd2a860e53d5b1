import NewsCraft.Lib.Sweep
import NewsCraft.Retention.MediaCaptures

/-!
# No claimed file is deleted

The captures are the writers of a swept store and the filesystem phase is its sweeper: what
a capture has stored it holds, and what the phase is going to delete is condemned. A capture
that turns to a condemned file is what the swept store forbids and the code does not, since
the lock is given up before the deletions begin.
-/

namespace NewsCraft.Retention

open Lib Ingestion Telegram List Option

variable {W : MediaSetting} {s s' : MediaState} {capture : MediaCapture} {id : Nat}

/-! ## A capture's files -/

namespace MediaCapture

/-- The files a capture has found or written, and the one it is about to write. -/
def Holds (W : MediaSetting) (capture : MediaCapture) (file : String) : Prop :=
  ∃ entry ∈ capture.stored, W.claimIdentity entry.2.path = some file

def Reserves (W : MediaSetting) (capture : MediaCapture) (file : String) : Prop :=
  ∃ entry ∈ capture.writing, W.claimIdentity entry.2.path = some file

end MediaCapture

namespace MediaState

theorem captureOf_mem (h : s.captureOf id = some capture) : capture ∈ s.captures :=
  mem_of_find?_eq_some h

theorem mem_setCapture {other : MediaCapture} (h : other ∈ (s.setCapture capture).captures) :
    other = capture ∨ other ∈ s.captures := by
  rcases mem_cons.mp h with rfl | hold
  · exact .inl rfl
  · exact .inr (mem_filter.mp hold).1

theorem mem_endCapture {other : MediaCapture} (h : other ∈ (s.endCapture id).captures) :
    other ∈ s.captures :=
  (mem_filter.mp h).1

def sweep (W : MediaSetting) (s : MediaState) : Sweep String where
  present := {file | file ∈ s.files.media}
  claimed := {file | s.Claims W file}
  held := {file | ∃ capture ∈ s.captures, capture.Holds W file}
  reserved := {file | ∃ capture ∈ s.captures, capture.Reserves W file}
  condemned := {file | file ∈ s.condemned}

theorem sweep_setCapture {a : Sweep String}
    (hclaimed : a.claimed = (s.sweep W).claimed) (hpresent : a.present = (s.sweep W).present)
    (hcondemned : a.condemned = (s.sweep W).condemned)
    (hheldOld : (s.sweep W).held ⊆ a.held) (hreservedOld : (s.sweep W).reserved ⊆ a.reserved)
    (hheld : ∀ file, capture.Holds W file → file ∈ a.held)
    (hreserved : ∀ file, capture.Reserves W file → file ∈ a.reserved) :
    (Sweep.system String).step a
      (.publish ((s.setCapture capture).sweep W).claimed ((s.setCapture capture).sweep W).held
        ((s.setCapture capture).sweep W).reserved) ((s.setCapture capture).sweep W) := by
  refine Sweep.step_publish ?_ ?_ ?_ hpresent.symm hcondemned.symm
  · rw [hclaimed]
    exact Set.subset_union_left
  · rintro file ⟨other, hmem, hholds⟩
    rcases mem_setCapture hmem with rfl | hold
    · exact hheld file hholds
    · exact hheldOld ⟨other, hold, hholds⟩
  · rintro file ⟨other, hmem, hreserves⟩
    rcases mem_setCapture hmem with rfl | hold
    · exact hreserved file hreserves
    · exact hreservedOld ⟨other, hold, hreserves⟩

end MediaState

/-! ## What the phase condemns and deletes -/

theorem startFilesystemPhase_spec {claimIdentity : String → Option String} {run : RetentionRun}
    {assets : Table LiveMediaAsset} {referencedMediaIds : List UUID} {cleanup : FilesystemCleanup}
    (h : startFilesystemPhase claimIdentity run assets referencedMediaIds = .ok (some cleanup)) :
    cleanup.intents = run.cleanupIntentSnapshot ∧ cleanup.rest = run.cleanupIntentSnapshot
      ∧ (∀ intent ∈ run.cleanupIntentSnapshot,
        intent.category ≠ .exportArtifact → intent.category = .unreferencedMedia)
      ∧ (cleansMedia run.cleanupIntentSnapshot = true → cleanup.check.reclaimedMediaPaths
            = (assets.rows.filterMap fun row => row.storagePath).filterMap claimIdentity) := by
  unfold startFilesystemPhase at h
  split_ifs at h
  · cases h
  cases hintents : snapshotIntents run with
  | none =>
    simp only [hintents] at h
    cases h
  | some intents =>
    simp only [hintents, Except.ok.injEq, Option.some.injEq] at h
    unfold snapshotIntents at hintents
    split_ifs at hintents with hvalid
    cases hintents
    subst h
    refine ⟨rfl, rfl, ?_, ?_⟩
    · intro intent hmem hmedia
      have hcategory := all_eq_true.mp hvalid intent hmem
      simpa [hmedia] using hcategory
    · intro hcleans
      simp only [hcleans, if_true]
      rfl

theorem condemned_mono {cleanup cleanup' : FilesystemCleanup}
    (hintents : cleanup'.intents = cleanup.intents) (hcheck : cleanup'.check = cleanup.check)
    (hrest : cleanup'.rest ⊆ cleanup.rest) (hseen : cleanup.seen ⊆ cleanup'.seen) :
    cleanup'.condemned ⊆ cleanup.condemned := by
  intro file hfile
  obtain ⟨intent, hmem, rfl⟩ := mem_map.mp hfile
  obtain ⟨hmem, hcondition⟩ := mem_filter.mp hmem
  refine mem_map.mpr ⟨intent, mem_filter.mpr ⟨hrest hmem, ?_⟩, rfl⟩
  simp only [FilesystemCleanup.spared, FilesystemCleanup.isSeen, hintents, hcheck,
    Bool.and_eq_true, Bool.not_eq_true', decide_eq_true_eq, contains_eq_mem,
    decide_eq_false_iff_not] at hcondition ⊢
  obtain ⟨⟨hmedia, hunseen⟩, hunspared⟩ := hcondition
  exact ⟨⟨hmedia, fun h => hunseen (hseen h)⟩, hunspared⟩

theorem deleteOwned_media {files files' : OwnedFiles} {intent : RetentionCleanupIntent}
    (hexact : intent.Exact) (h : files.deleteOwned intent = some files') :
    files'.media = files.media ∨ (intent.category ≠ .exportArtifact
      ∧ files'.media = files.media.filter fun file => file ≠ intent.relativePath) := by
  unfold OwnedFiles.deleteOwned at h
  by_cases hexport : intent.category = .exportArtifact
  · rw [if_pos hexport] at h
    obtain ⟨exports, -, rfl⟩ := map_eq_some_iff.mp h
    exact .inl rfl
  · obtain ⟨hoperation, hcanonical⟩ := hexact hexport
    rw [if_neg hexport] at h
    obtain ⟨media, hdelete, rfl⟩ := map_eq_some_iff.mp h
    unfold deleteRelativeOwned at hdelete
    simp only [hoperation, hcanonical, reduceCtorEq, decide_false, Bool.false_eq_true,
      if_false] at hdelete
    split_ifs at hdelete
    · cases hdelete
      exact .inr ⟨hexport, rfl⟩
    · cases hdelete
      exact .inl rfl

theorem next_spec {cleanup cleanup' : FilesystemCleanup} {files files' : OwnedFiles}
    {fails : Bool} (hexact : ∀ intent ∈ cleanup.rest, intent.Exact)
    (h : cleanup.next files fails = some (cleanup', files')) :
    cleanup'.rest ⊆ cleanup.rest ∧ cleanup'.condemned ⊆ cleanup.condemned
      ∧ (files'.media = files.media ∨ ∃ file ∈ cleanup.condemned,
        files'.media = files.media.filter fun other => other ≠ file) := by
  unfold FilesystemCleanup.next at h
  cases hrest : cleanup.rest with
  | nil =>
    simp only [hrest] at h
    cases h
  | cons intent rest =>
    have htail : rest ⊆ cleanup.rest := by
      rw [hrest]
      exact subset_cons_self _ _
    rw [← hrest]
    simp only [hrest] at h
    by_cases hseen : cleanup.isSeen intent
    · simp only [hseen, if_true] at h
      cases h
      exact ⟨htail, condemned_mono rfl rfl htail (List.Subset.refl _), .inl rfl⟩
    · simp only [hseen, Bool.false_eq_true, if_false] at h
      by_cases hspared : cleanup.spared intent
      · simp only [hspared, if_true] at h
        cases h
        exact ⟨htail, condemned_mono rfl rfl htail (subset_cons_self _ _), .inl rfl⟩
      · simp only [hspared, Bool.false_eq_true, if_false] at h
        cases hdelete : (if fails then none else files.deleteOwned intent) with
        | none =>
          simp only [hdelete] at h
          cases h
          exact ⟨htail, condemned_mono rfl rfl htail (subset_cons_self _ _), .inl rfl⟩
        | some deleted =>
          simp only [hdelete] at h
          cases h
          refine ⟨htail, condemned_mono rfl rfl htail (subset_cons_self _ _), ?_⟩
          split_ifs at hdelete
          have hfirst : intent ∈ cleanup.rest := by
            rw [hrest]
            exact mem_cons_self
          rcases deleteOwned_media (hexact intent hfirst) hdelete with hsame | ⟨hmedia, hgone⟩
          · exact .inl hsame
          · refine .inr ⟨intent.relativePath, ?_, hgone⟩
            refine mem_map.mpr ⟨intent, mem_filter.mpr ⟨hfirst, ?_⟩, rfl⟩
            simp [hmedia, hseen, hspared]

/-! ## What a step does -/

namespace MediaState

theorem claimIdentity_of_nextTarget {media : MaterializedTelegramMedia}
    {stored : StoredTelegramMedia} {file : String}
    (h : W.nextTarget media = some (stored, file)) : W.claimIdentity stored.path = some file := by
  unfold MediaSetting.nextTarget at h
  cases htarget : W.store.target W.sha256 media with
  | none =>
    simp only [htarget] at h
    cases h
  | some target =>
    simp only [htarget] at h
    obtain ⟨name, hname, heq⟩ := map_eq_some_iff.mp h
    cases heq
    exact hname

theorem probe_spec (h : s.probe W id = some s') :
    ∃ capture media rest stored file, s.captureOf id = some capture
      ∧ capture.pending = media :: rest ∧ W.nextTarget media = some (stored, file)
      ∧ ((file ∈ s.files.media ∧ s' = s.setCapture { capture with
            pending := rest
            stored := capture.stored ++ [(media, stored)] })
        ∨ s' = s.setCapture { capture with pending := rest, writing := some (media, stored) }) := by
  unfold probe at h
  cases hl : s.captureOf id with
  | none =>
    simp only [hl] at h
    cases h
  | some capture =>
    simp only [hl] at h
    split at h
    · rename_i media rest hwriting hpending
      obtain ⟨⟨stored, file⟩, htarget, heq⟩ := map_eq_some_iff.mp h
      refine ⟨capture, media, rest, stored, file, rfl, hpending, htarget, ?_⟩
      split_ifs at heq with hfound
      · exact .inl ⟨by simpa using hfound, heq.symm⟩
      · exact .inr heq.symm
    · cases h

theorem write_spec (h : s.write W id = some s') :
    ∃ capture media stored file, s.captureOf id = some capture
      ∧ capture.writing = some (media, stored) ∧ W.claimIdentity stored.path = some file
      ∧ s' = { s.setCapture { capture with
            writing := none
            stored := capture.stored ++ [(media, stored)] } with
          files := { s.files with
            media := if s.files.media.contains file then s.files.media
              else file :: s.files.media } } := by
  unfold write at h
  cases hl : s.captureOf id with
  | none =>
    simp only [hl] at h
    cases h
  | some capture =>
    simp only [hl] at h
    cases hwriting : capture.writing with
    | none =>
      simp only [hwriting] at h
      cases h
    | some entry =>
      obtain ⟨media, stored⟩ := entry
      simp only [hwriting] at h
      obtain ⟨file, hfile, heq⟩ := map_eq_some_iff.mp h
      exact ⟨capture, media, stored, file, rfl, hwriting, hfile, heq.symm⟩

theorem commit_spec {fresh : Nat → UUID} {now : Datetime} (h : s.commit W id fresh now = some s') :
    ∃ capture, s.captureOf id = some capture ∧ s' = { s.endCapture id with
        assets := upsertMediaAssets W.quality W.hashValue s.assets
          (W.mediaCandidates capture.stored) fresh now } := by
  unfold commit at h
  cases hl : s.captureOf id with
  | none =>
    simp only [hl] at h
    cases h
  | some capture =>
    simp only [hl] at h
    split_ifs at h
    cases h
    exact ⟨capture, rfl, rfl⟩

theorem check_spec {referencedMediaIds : List UUID} (h : s.check W referencedMediaIds = some s') :
    ∃ cleanup, startFilesystemPhase W.claimIdentity s.run s.assets referencedMediaIds
        = .ok (some cleanup)
      ∧ s.cleanup = none ∧ (cleansMedia cleanup.intents = true → s.captures = [])
      ∧ s' = { s with cleanup := some cleanup } := by
  unfold check at h
  split_ifs at h with hbusy
  split at h
  · rename_i cleanup hstart
    split_ifs at h with hwait
    cases h
    refine ⟨cleanup, hstart, by simpa using hbusy, ?_, rfl⟩
    intro hcleans
    by_contra hcaptures
    exact hwait ⟨hcleans, hcaptures⟩
  · cases h

theorem clean_spec {fails : Bool} (h : s.clean fails = some s') :
    ∃ cleanup cleanup' files', s.cleanup = some cleanup
      ∧ cleanup.next s.files fails = some (cleanup', files')
      ∧ s' = { s with cleanup := some cleanup', files := files' } := by
  unfold clean at h
  cases hl : s.cleanup with
  | none =>
    simp only [hl] at h
    cases h
  | some cleanup =>
    simp only [hl] at h
    obtain ⟨⟨cleanup', files'⟩, hnext, heq⟩ := map_eq_some_iff.mp h
    exact ⟨cleanup, cleanup', files', rfl, hnext, heq.symm⟩

theorem finish_spec {now : Datetime} (h : s.finish now = some s') :
    ∃ cleanup, s.cleanup = some cleanup
      ∧ s' = { s with run := cleanup.finishedRun s.run now, cleanup := none } := by
  unfold finish at h
  cases hl : s.cleanup with
  | none =>
    simp only [hl] at h
    cases h
  | some cleanup =>
    simp only [hl] at h
    split_ifs at h
    cases h
    exact ⟨cleanup, rfl, rfl⟩

/-- The intents of the run and those still to be worked through are exact. -/
def ExactIntents (s : MediaState) : Prop :=
  (∀ intent ∈ s.run.cleanupIntentSnapshot, intent.Exact)
    ∧ ∀ cleanup ∈ s.cleanup, ∀ intent ∈ cleanup.rest, intent.Exact

theorem ExactIntents.step {e : MediaEvent} (h : s.ExactIntents) (hst : s.step W e = some s') :
    s'.ExactIntents := by
  cases e with
  | beginCapture newId media =>
    simp only [MediaState.step] at hst
    split_ifs at hst
    cases hst
    exact h
  | probe captureId =>
    obtain ⟨_, _, _, _, _, -, -, -, ⟨-, rfl⟩ | rfl⟩ := probe_spec hst
    · exact h
    · exact h
  | write captureId =>
    obtain ⟨_, _, _, _, -, -, -, rfl⟩ := write_spec hst
    exact h
  | commit captureId fresh now =>
    obtain ⟨_, -, rfl⟩ := commit_spec hst
    exact h
  | rollback captureId =>
    cases hst
    exact h
  | check referencedMediaIds =>
    obtain ⟨cleanup, hstart, -, -, rfl⟩ := check_spec hst
    refine ⟨h.1, ?_⟩
    rintro _ ⟨⟩ intent hintent
    rw [(startFilesystemPhase_spec hstart).2.1] at hintent
    exact h.1 intent hintent
  | clean fails =>
    obtain ⟨cleanup, cleanup', files', hcleanup, hnext, rfl⟩ := clean_spec hst
    refine ⟨h.1, ?_⟩
    rintro _ ⟨⟩ intent hintent
    exact h.2 cleanup hcleanup intent ((next_spec (h.2 cleanup hcleanup) hnext).1 hintent)
  | finish now =>
    obtain ⟨cleanup, -, rfl⟩ := finish_spec hst
    exact ⟨h.1, fun _ hnone => nomatch hnone⟩
  | crash =>
    cases hst
    exact ⟨h.1, fun _ hnone => nomatch hnone⟩

theorem exactIntents_of_reachable (h : (mediaSystem W).Reachable s) : s.ExactIntents := by
  refine System.invariant (P := ExactIntents) ?_ ?_ h
  · intro s hquiet
    refine ⟨hquiet.intents, ?_⟩
    rw [hquiet.cleanup]
    exact fun _ hnone => nomatch hnone
  · intro s e s' _ hs hst
    exact hs.step hst

/-! ## The swept store -/

theorem unclaimed_of_check {referencedMediaIds : List UUID} {cleanup : FilesystemCleanup}
    {file : String}
    (hstart : startFilesystemPhase W.claimIdentity s.run s.assets referencedMediaIds
      = .ok (some cleanup))
    (hfile : file ∈ cleanup.condemned) :
    cleansMedia cleanup.intents = true ∧ ¬ s.Claims W file := by
  obtain ⟨hintents, hrest, hvalid, hpaths⟩ := startFilesystemPhase_spec hstart
  obtain ⟨intent, hmem, rfl⟩ := mem_map.mp hfile
  obtain ⟨hmem, hcondition⟩ := mem_filter.mp hmem
  rw [hrest] at hmem
  simp only [Bool.and_eq_true, decide_eq_true_eq, Bool.not_eq_true'] at hcondition
  obtain ⟨⟨hmedia, -⟩, hunspared⟩ := hcondition
  have hcategory := hvalid intent hmem hmedia
  have hcleans : cleansMedia s.run.cleanupIntentSnapshot = true :=
    any_eq_true.mpr ⟨intent, hmem, by simpa using hcategory⟩
  rw [hintents]
  refine ⟨hcleans, ?_⟩
  rintro ⟨asset, hasset, hclaims⟩
  obtain ⟨path, hpath, hidentity⟩ := bind_eq_some_iff.mp hclaims
  have hclaimed : intent.relativePath ∈ cleanup.check.reclaimedMediaPaths := by
    rw [hpaths hcleans]
    refine mem_filterMap.mpr ⟨path, ?_, hidentity⟩
    exact mem_filterMap.mpr ⟨asset, hasset, hpath⟩
  rw [FilesystemCleanup.spared] at hunspared
  simp [hcategory, hclaimed] at hunspared

theorem claims_of_commit {capture : MediaCapture} {fresh : Nat → UUID} {now : Datetime}
    {file : String} (hmem : capture ∈ s.captures)
    (h : MediaState.Claims W { s.endCapture id with
      assets := upsertMediaAssets W.quality W.hashValue s.assets
        (W.mediaCandidates capture.stored) fresh now } file) :
    s.Claims W file ∨ ∃ capture ∈ s.captures, capture.Holds W file := by
  obtain ⟨asset, hasset, hclaims⟩ := h
  obtain ⟨path, hpath, hidentity⟩ := bind_eq_some_iff.mp hclaims
  rcases storagePath_of_upserts hasset with ⟨old, hold, hsame⟩ | ⟨candidate, hcandidate, hsame⟩
  · rw [hsame] at hclaims
    exact .inl ⟨old, hold, hclaims⟩
  · obtain ⟨⟨media, stored⟩, hentry, rfl⟩ := mem_map.mp hcandidate
    refine .inr ⟨capture, hmem, (media, stored), hentry, ?_⟩
    rw [hpath] at hsame
    cases hsame
    exact hidentity

theorem run_spare {s s' : MediaState} (hassets : s'.assets = s.assets)
    (hfiles : s'.files = s.files) (hcaptures : s'.captures = s.captures)
    (hcondemned : s'.condemned ⊆ s.condemned) :
    ∃ labels, (Sweep.system String).Run (s.sweep W) labels (s'.sweep W) := by
  refine ⟨_, .single (Sweep.step_spare (fun file => @hcondemned file) ?_)⟩
  simp only [sweep, Claims, hassets, hfiles, hcaptures]

theorem run_sweep {e : MediaEvent} (hexact : s.ExactIntents) (hfenced : s.Fenced W e)
    (hst : s.step W e = some s') :
    ∃ labels, (Sweep.system String).Run (s.sweep W) labels (s'.sweep W) := by
  cases e with
  | beginCapture newId media =>
    simp only [MediaState.step] at hst
    split_ifs at hst
    cases hst
    refine ⟨_, .single (sweep_setCapture rfl rfl rfl (Set.Subset.refl _) (Set.Subset.refl _) ?_ ?_)⟩
    · rintro file ⟨entry, hnone, -⟩
      cases hnone
    · rintro file ⟨entry, hnone, -⟩
      cases hnone
  | probe captureId =>
    obtain ⟨capture, media, rest, stored, file, hl, hpending, htarget, hcases⟩ := probe_spec hst
    have hmem := captureOf_mem hl
    have hidentity := claimIdentity_of_nextTarget htarget
    have hspared : file ∉ s.condemned :=
      hfenced capture hl media (by rw [hpending]; rfl) (stored, file) htarget
    rcases hcases with ⟨hfound, rfl⟩ | rfl
    · refine ⟨_, .cons (Sweep.step_adopt hfound hspared) (.single
        (sweep_setCapture rfl rfl rfl Set.subset_union_left (Set.Subset.refl _) ?_ ?_))⟩
      · rintro other ⟨entry, hentry, hother⟩
        rcases mem_append.mp hentry with hold | hnew
        · exact .inl ⟨capture, hmem, entry, hold, hother⟩
        · rw [mem_singleton.mp hnew, hidentity] at hother
          exact .inr (Option.some.inj hother).symm
      · rintro other ⟨entry, hentry, hother⟩
        exact ⟨capture, hmem, entry, hentry, hother⟩
    · refine ⟨_, .cons (Sweep.step_reserve hspared) (.single
        (sweep_setCapture rfl rfl rfl (Set.Subset.refl _) Set.subset_union_left ?_ ?_))⟩
      · rintro other ⟨entry, hentry, hother⟩
        exact ⟨capture, hmem, entry, hentry, hother⟩
      · rintro other ⟨entry, hentry, hother⟩
        cases hentry
        rw [hidentity] at hother
        exact .inr (Option.some.inj hother).symm
  | write captureId =>
    obtain ⟨capture, media, stored, file, hl, hwriting, hidentity, rfl⟩ := write_spec hst
    have hmem := captureOf_mem hl
    have hreserved : file ∈ (s.sweep W).reserved :=
      ⟨capture, hmem, (media, stored), hwriting, hidentity⟩
    refine ⟨_, .cons (Sweep.step_write hreserved) (.single (sweep_setCapture
      (s := { s with files := { s.files with
        media := if s.files.media.contains file then s.files.media
          else file :: s.files.media } })
      rfl ?_ rfl Set.subset_union_left (Set.Subset.refl _) ?_ ?_))⟩
    · ext other
      by_cases hfound : file ∈ s.files.media
      · simp only [sweep, contains_eq_mem, hfound, decide_true, if_true,
          Set.mem_union, Set.mem_ofPred_eq, Set.mem_singleton_iff]
        constructor
        · rintro (hold | rfl)
          · exact hold
          · exact hfound
        · exact .inl
      · simp only [sweep, contains_eq_mem, hfound, decide_false, Bool.false_eq_true,
          if_false, Set.mem_union, Set.mem_ofPred_eq, Set.mem_singleton_iff, mem_cons]
        exact or_comm
    · rintro other ⟨entry, hentry, hother⟩
      rcases mem_append.mp hentry with hold | hnew
      · exact .inl ⟨capture, hmem, entry, hold, hother⟩
      · rw [mem_singleton.mp hnew, hidentity] at hother
        exact .inr (Option.some.inj hother).symm
    · rintro other ⟨entry, hnone, -⟩
      cases hnone
  | commit captureId fresh now =>
    obtain ⟨capture, hl, rfl⟩ := commit_spec hst
    refine ⟨_, .single (Sweep.step_publish ?_ ?_ ?_ rfl rfl)⟩
    · intro file hclaims
      exact claims_of_commit (captureOf_mem hl) hclaims
    · rintro file ⟨other, hmem, hholds⟩
      exact ⟨other, mem_endCapture hmem, hholds⟩
    · rintro file ⟨other, hmem, hreserves⟩
      exact ⟨other, mem_endCapture hmem, hreserves⟩
  | rollback captureId =>
    cases hst
    refine ⟨_, .single (Sweep.step_publish Set.subset_union_left ?_ ?_ rfl rfl)⟩
    · rintro file ⟨other, hmem, hholds⟩
      exact ⟨other, mem_endCapture hmem, hholds⟩
    · rintro file ⟨other, hmem, hreserves⟩
      exact ⟨other, mem_endCapture hmem, hreserves⟩
  | check referencedMediaIds =>
    obtain ⟨cleanup, hstart, hidle, hlock, rfl⟩ := check_spec hst
    by_cases hcleans : cleansMedia cleanup.intents = true
    · -- the lock: no capture is at work
      have hnone := hlock hcleans
      refine ⟨_, .single (Sweep.step_condemn ?_ ?_ ?_ rfl)⟩
      · refine Set.eq_empty_of_forall_notMem ?_
        rintro file ⟨capture, hmem, -⟩
        rw [hnone] at hmem
        cases hmem
      · refine Set.eq_empty_of_forall_notMem ?_
        rintro file ⟨capture, hmem, -⟩
        rw [hnone] at hmem
        cases hmem
      · exact fun file hfile => (unclaimed_of_check hstart hfile).2
    · refine run_spare rfl rfl rfl ?_
      intro file hfile
      exact absurd (unclaimed_of_check hstart hfile).1 hcleans
  | clean fails =>
    obtain ⟨cleanup, cleanup', files', hcleanup, hnext, rfl⟩ := clean_spec hst
    obtain ⟨-, hfewer, hmedia⟩ := next_spec (hexact.2 cleanup hcleanup) hnext
    have hcondemned : s.condemned = cleanup.condemned := by
      rw [condemned, hcleanup]
    have hsubset : ∀ file, file ∈ cleanup'.condemned → file ∈ s.condemned := by
      intro file hfile
      rw [hcondemned]
      exact hfewer hfile
    rcases hmedia with hsame | ⟨file, hfile, hgone⟩
    · refine ⟨_, .single (Sweep.step_spare hsubset ?_)⟩
      simp only [sweep, Claims, hsame]
    · rw [← hcondemned] at hfile
      refine ⟨_, .cons (Sweep.step_remove hfile) (.single (Sweep.step_spare hsubset ?_))⟩
      have hpresent : {other | other ∈ files'.media} = {other | other ∈ s.files.media} \ {file} := by
        ext other
        rw [hgone]
        simp
      simp only [sweep, Claims, hpresent]
  | finish now =>
    obtain ⟨cleanup, -, rfl⟩ := finish_spec hst
    exact run_spare rfl rfl rfl (nil_subset _)
  | crash =>
    cases hst
    exact run_spare rfl rfl rfl (nil_subset _)

/-- **The captures and the filesystem phase are a swept store**, as long as no capture
turns to a condemned file. -/
theorem sweep_simulation (W : MediaSetting) :
    System.Simulation ((mediaSystem W).restrict (MediaState.Fenced W)) (Sweep.system String)
      (fun s a => a = s.sweep W) where
  init := by
    intro s hquiet
    refine ⟨_, ⟨?_, ?_, ?_, ?_⟩, rfl⟩
    · exact fun file => hquiet.claimed file
    all_goals refine Set.eq_empty_of_forall_notMem fun file hfile => ?_
    · obtain ⟨capture, hmem, -⟩ := hfile
      rw [hquiet.captures] at hmem
      cases hmem
    · obtain ⟨capture, hmem, -⟩ := hfile
      rw [hquiet.captures] at hmem
      cases hmem
    · simp [sweep, condemned, hquiet.cleanup] at hfile
  step := by
    rintro s e s' _ hr rfl ⟨hfenced, hst⟩
    obtain ⟨labels, hrun⟩ := run_sweep (exactIntents_of_reachable hr.of_restrict) hfenced hst
    exact ⟨labels, _, hrun, rfl⟩

theorem deletes_of_step {e : MediaEvent} (hst : s.step W e = some s') :
    (∃ fails, e = .clean fails ∧ s'.assets = s.assets) ∨ s.files.media ⊆ s'.files.media := by
  cases e with
  | beginCapture newId media =>
    simp only [MediaState.step] at hst
    split_ifs at hst
    cases hst
    exact .inr (List.Subset.refl _)
  | probe captureId =>
    obtain ⟨_, _, _, _, _, -, -, -, ⟨-, rfl⟩ | rfl⟩ := probe_spec hst
    · exact .inr (List.Subset.refl _)
    · exact .inr (List.Subset.refl _)
  | write captureId =>
    obtain ⟨_, _, _, file, -, -, -, rfl⟩ := write_spec hst
    refine .inr ?_
    split
    · exact List.Subset.refl _
    · exact subset_cons_self _ _
  | commit captureId fresh now =>
    obtain ⟨_, -, rfl⟩ := commit_spec hst
    exact .inr (List.Subset.refl _)
  | rollback _ | crash =>
    cases hst
    exact .inr (List.Subset.refl _)
  | check referencedMediaIds =>
    obtain ⟨_, -, -, -, rfl⟩ := check_spec hst
    exact .inr (List.Subset.refl _)
  | clean fails =>
    obtain ⟨_, _, _, -, -, rfl⟩ := clean_spec hst
    exact .inl ⟨fails, rfl, rfl⟩
  | finish now =>
    obtain ⟨_, -, rfl⟩ := finish_spec hst
    exact .inr (List.Subset.refl _)

end MediaState

/-- Every claimed file is there, and whatever happens next deletes no claimed file. -/
def MediaState.KeepsClaims (W : MediaSetting) (s : MediaState) : Prop :=
  (∀ file, s.Claims W file → file ∈ s.files.media) ∧ ∀ e s', (mediaSystem W).step s e s' →
      ∀ file, s.Claims W file → file ∈ s.files.media → file ∈ s'.files.media

theorem claimed_present {W : MediaSetting} {s : MediaState}
    (h : ((mediaSystem W).restrict (MediaState.Fenced W)).Reachable s) {file : String}
    (hclaims : s.Claims W file) : file ∈ s.files.media := by
  obtain ⟨a, ha, rfl⟩ := (MediaState.sweep_simulation W).reachable h
  exact (Sweep.safe_of_reachable ha).claimed hclaims

/--
**No claimed file is deleted, as long as no capture turns to a condemned file.**
In every such run, whatever the order of its steps, every file that a stored row
claims is there, and whatever happens next deletes no claimed file.
-/
theorem claimed_files_kept {W : MediaSetting} {s : MediaState}
    (h : ((mediaSystem W).restrict (MediaState.Fenced W)).Reachable s) : s.KeepsClaims W := by
  refine ⟨fun file => claimed_present h, ?_⟩
  intro e s' hst file hclaims hfile
  rcases MediaState.deletes_of_step hst with ⟨fails, rfl, hassets⟩ | hkept
  · have hfenced : s.Fenced W (.clean fails) := trivial
    refine claimed_present (h.tail ⟨hfenced, hst⟩) ?_
    rw [MediaState.Claims, hassets]
    exact hclaims
  · exact hkept hfile

/-! ## A capture of a condemned file -/

/-- A photo of three bytes, the file it is stored in and the digests that occur. -/
def threeBytes : MaterializedTelegramMedia := ⟨⟨"c/12", .photo⟩, 0, none, [97, 98, 99], "image/jpeg"⟩

def threeBytesFile : String :=
  "ba/ba7816bf8f01cfea414140de5dae2223b00361a396177a9cb410ff61f20015ad.jpg"

def mediaRoot : MediaSetting where
  sha256 bytes :=
    match bytes.length with
    | 3 => "ba7816bf8f01cfea414140de5dae2223b00361a396177a9cb410ff61f20015ad"
    | 4 => "d866de4ee9457592ab6497d079afe780c4a09e7adecf0d9eb7d5a962126ea9d0"
    | _ => "ea210e2c76b17d55fc994cbbf0cd2e2e93a7e1a729b497ebc4f5bcb78f75d4fe"
  claimIdentity path := if "/media/".isPrefixOf path then some (String.ofList (path.toList.drop 7))
    else none
  quality _ := Json.empty
  store := ⟨"/media", 1000, 1000⟩

/-- The file is left over from media that expired, and the run is to delete it. -/
def expiredPhoto : MediaState where
  assets := .empty
  files := ⟨[threeBytesFile], []⟩
  captures := []
  run :=
    { id := 9
      workflowJobId := none
      status := .running
      previewToken := ""
      schemaRevision := retentionSchemaRevision
      policySnapshot := {}
      candidateSnapshot := []
      cleanupIntentSnapshot := [⟨.unreferencedMedia, 5, .deleteFile, threeBytesFile⟩]
      counts := .zero
      errorSnapshot := []
      startedAt := none
      finishedAt := none }
  cleanup := none

theorem expiredPhoto_quiet : expiredPhoto.Quiet mediaRoot := by
  refine ⟨?_, rfl, rfl, ?_⟩
  · rintro file ⟨asset, hnone, -⟩
    cases hnone
  · intro intent hintent
    rw [mem_singleton.mp hintent]
    intro _
    decide +kernel

/-- A capture that comes after the deletion writes the file anew. -/
def capturedAfterDeletion : List MediaEvent :=
  [.check [], .clean false, .beginCapture 0 [threeBytes], .probe 0, .write 0,
    .commit 0 (fun _ => 7) 0, .finish 0]

def fencedStep (W : MediaSetting) (s : MediaState) (e : MediaEvent) : Option MediaState :=
  if s.Fenced W e then s.step W e else none

theorem claimed_files_kept_afterwards :
    ∃ s : MediaState, s.Claims mediaRoot threeBytesFile ∧ s.KeepsClaims mediaRoot := by
  have hrun : (capturedAfterDeletion.foldlM (fencedStep mediaRoot) expiredPhoto).any
      (fun s => decide (s.Claims mediaRoot threeBytesFile)) = true := by
    decide +kernel
  obtain ⟨s, hs, hclaims⟩ := (any_eq_true _ _).mp hrun
  refine ⟨s, of_decide_eq_true hclaims, claimed_files_kept ?_⟩
  refine System.reachable_foldlM ?_ (.init expiredPhoto_quiet) hs
  intro s e s' hst
  unfold fencedStep at hst
  split_ifs at hst with hfenced
  exact ⟨hfenced, hst⟩

/-- The capture finds the file after the check, and commits before the deletion. -/
def capturedWhileCondemned : List MediaEvent :=
  [.check [], .beginCapture 0 [threeBytes], .probe 0, .commit 0 (fun _ => 7) 0, .clean false,
    .finish 0]

/-- The photo's row is stored and its file is gone. -/
theorem condemned_capture_loses :
    ¬ ∀ (W : MediaSetting) (s : MediaState), (mediaSystem W).Reachable s → s.KeepsClaims W := by
  intro h
  have hrun : (capturedWhileCondemned.foldlM (MediaState.step mediaRoot) expiredPhoto).any
      (fun s => decide (s.Claims mediaRoot threeBytesFile ∧ threeBytesFile ∉ s.files.media))
        = true := by
    decide +kernel
  obtain ⟨s, hs, hlost⟩ := (any_eq_true _ _).mp hrun
  obtain ⟨hclaims, hgone⟩ := of_decide_eq_true hlost
  have hreachable : (mediaSystem mediaRoot).Reachable s :=
    System.reachable_foldlM (fun _ _ _ hst => hst) (.init expiredPhoto_quiet) hs
  exact hgone ((h mediaRoot s hreachable).1 threeBytesFile hclaims)

end NewsCraft.Retention
