import NewsCraft.Lib.Canonical
import NewsCraft.Retention.ClaimedFiles

/-!
# The accounts of the filesystem phase

Each pass settles what the intents name once: it is deleted, skipped, or recorded as failed.
A pass begins its own counters anew, so a run that is passed over again after crashes and
failures counts nothing twice, and what the database phase counted stays.
-/

namespace NewsCraft.Retention

open Lib Ingestion List

variable {W : MediaSetting} {run : RetentionRun} {cleanup : FilesystemCleanup}

def RetentionCleanupIntent.identity (intent : RetentionCleanupIntent) :
    RetentionCategory × String :=
  (intent.category, intent.relativePath)

/-- How many files or trees the intents of a category name. -/
def named (run : RetentionRun) (category : RetentionCategory) : Nat :=
  ((run.cleanupIntentSnapshot.map RetentionCleanupIntent.identity).eraseDups.filter
    fun identity => identity.1 = category).length

/-- How many of a category are recorded as failed. -/
def failures (errors : List RetentionRunError) (category : RetentionCategory) : Nat :=
  (errors.filter fun error =>
    error.phase = "filesystem" ∧ error.record.any fun record => record.category = category).length

def databasePhases : List RetentionExecutionPhase := [.scrubbed, .expired, .databaseSkipped]

structure Accounted (run : RetentionRun) : Prop where
  settled : ∀ category, run.counts .filesystemDeleted category
    + run.counts .filesystemSkipped category + failures run.errorSnapshot category
      = named run category
  skipped : ∀ category, run.counts .skipped category
    = run.counts .databaseSkipped category + run.counts .filesystemSkipped category
  status : run.status = .succeeded ∧ (∀ category, failures run.errorSnapshot category = 0)
    ∨ run.status = .partially ∧ ∃ category, failures run.errorSnapshot category ≠ 0

/-! ## One pass -/

/-- A pass on its way: what it has seen is settled, and what it has not is still to come. -/
structure Counted (run : RetentionRun) (cleanup : FilesystemCleanup) : Prop where
  kept : ∀ phase ∈ databasePhases, ∀ category,
    cleanup.counts phase category = run.counts phase category
  skipped : ∀ category, cleanup.counts .skipped category
    = cleanup.counts .databaseSkipped category + cleanup.counts .filesystemSkipped category
  rest : cleanup.rest ⊆ run.cleanupIntentSnapshot
  once : cleanup.seen.Nodup
  seen : cleanup.seen ⊆ run.cleanupIntentSnapshot.map RetentionCleanupIntent.identity
  left : ∀ intent ∈ run.cleanupIntentSnapshot,
    intent.identity ∈ cleanup.seen ∨ intent ∈ cleanup.rest
  settled : ∀ category, cleanup.counts .filesystemDeleted category
    + cleanup.counts .filesystemSkipped category + failures cleanup.errors category
      = (cleanup.seen.filter fun identity => identity.1 = category).length
  recorded : ∀ error ∈ cleanup.errors, error.phase = "filesystem" → error.record.isSome = true

theorem Counted.start {claimIdentity : String → Option String} {assets : Table LiveMediaAsset}
    {referencedMediaIds : List UUID}
    (h : startFilesystemPhase claimIdentity run assets referencedMediaIds = .ok (some cleanup)) :
    Counted run cleanup := by
  unfold startFilesystemPhase at h
  split_ifs at h
  · cases h
  cases hintents : snapshotIntents run with
  | none =>
    simp only [hintents] at h
    cases h
  | some intents =>
    simp only [hintents, Except.ok.injEq, Option.some.injEq] at h
    unfold snapshotIntents at hintents
    split_ifs at hintents
    cases hintents
    subst h
    have hnone : ∀ error ∈ run.errorSnapshot.filter fun error => error.phase ≠ "filesystem",
        error.phase ≠ "filesystem" := by
      intro error herror
      exact of_decide_eq_true (mem_filter.mp herror).2
    refine ⟨?_, fun _ => rfl, List.Subset.refl _, nodup_nil, nil_subset _, fun _ h => .inr h,
      ?_, ?_⟩
    · simp [databasePhases, RetentionExecutionCounts.copy, RetentionExecutionCounts.reset]
    · intro category
      have hzero : failures (run.errorSnapshot.filter fun error => error.phase ≠ "filesystem")
          category = 0 := by
        rw [failures, length_eq_zero_iff, filter_eq_nil_iff]
        intro error herror
        simp [hnone error herror]
      rw [hzero]
      rfl
    · intro error herror hphase
      exact absurd hphase (hnone error herror)

variable {intent : RetentionCleanupIntent} {rest : List RetentionCleanupIntent}

theorem Counted.settle (h : Counted run cleanup) (hrest : cleanup.rest = intent :: rest)
    (hnew : intent.identity ∉ cleanup.seen) {counts : RetentionExecutionCounts}
    {errors : List RetentionRunError}
    (hkept : ∀ phase ∈ databasePhases, ∀ category,
      counts phase category = cleanup.counts phase category)
    (hskipped : ∀ category, counts .skipped category
      = counts .databaseSkipped category + counts .filesystemSkipped category)
    (hone : ∀ category, counts .filesystemDeleted category + counts .filesystemSkipped category
        + failures errors category
      = cleanup.counts .filesystemDeleted category + cleanup.counts .filesystemSkipped category
        + failures cleanup.errors category + if intent.category = category then 1 else 0)
    (hrecorded : ∀ error ∈ errors, error.phase = "filesystem" → error.record.isSome = true) :
    Counted run { cleanup with
      rest := rest
      seen := intent.identity :: cleanup.seen
      counts := counts
      errors := errors } := by
  have hmem : intent ∈ run.cleanupIntentSnapshot := h.rest (hrest ▸ mem_cons_self)
  refine ⟨fun phase hphase category => (hkept phase hphase category).trans
      (h.kept phase hphase category), hskipped,
    fun other hother => h.rest (hrest ▸ mem_cons_of_mem _ hother), nodup_cons.mpr ⟨hnew, h.once⟩,
    cons_subset.mpr ⟨mem_map_of_mem hmem, h.seen⟩, ?_, ?_, hrecorded⟩
  · intro other hother
    rcases h.left other hother with hseen | hleft
    · exact .inl (mem_cons_of_mem _ hseen)
    rw [hrest] at hleft
    rcases mem_cons.mp hleft with rfl | hleft
    · exact .inl mem_cons_self
    · exact .inr hleft
  · intro category
    rw [hone, h.settled, filter_cons]
    by_cases hcategory : intent.category = category
    · simp [RetentionCleanupIntent.identity, hcategory]
    · simp [RetentionCleanupIntent.identity, hcategory]

theorem Counted.next (h : Counted run cleanup) {files files' : OwnedFiles} {fails : Bool}
    {cleanup' : FilesystemCleanup} (hnext : cleanup.next files fails = some (cleanup', files')) :
    Counted run cleanup' := by
  unfold FilesystemCleanup.next at hnext
  cases hrest : cleanup.rest with
  | nil =>
    rw [hrest] at hnext
    cases hnext
  | cons intent rest =>
    simp only [hrest] at hnext
    by_cases hseen : cleanup.isSeen intent = true
    · rw [if_pos hseen] at hnext
      cases hnext
      refine ⟨h.kept, h.skipped, fun other hother => h.rest (hrest ▸ mem_cons_of_mem _ hother),
        h.once, h.seen, ?_, h.settled, h.recorded⟩
      intro other hother
      rcases h.left other hother with hin | hleft
      · exact .inl hin
      rw [hrest] at hleft
      rcases mem_cons.mp hleft with rfl | hleft
      · exact .inl (contains_iff_mem.mp hseen)
      · exact .inr hleft
    rw [if_neg hseen] at hnext
    have hnew : intent.identity ∉ cleanup.seen := fun hin => hseen (contains_iff_mem.mpr hin)
    split at hnext
    · cases hnext
      refine h.settle hrest hnew ?_ ?_ ?_ h.recorded
      · simp [databasePhases, RetentionExecutionCounts.increment]
      · intro category
        have := h.skipped category
        simp only [RetentionExecutionCounts.increment]
        grind
      · intro category
        simp only [RetentionExecutionCounts.increment]
        grind
    split at hnext
    · cases hnext
      refine h.settle hrest hnew (fun _ _ _ => rfl) h.skipped ?_ ?_
      · intro category
        rw [failures, filter_append, length_append]
        by_cases hcategory : intent.category = category
        · simp [FilesystemCleanup.failed, failures, hcategory, Nat.add_assoc]
        · simp [FilesystemCleanup.failed, failures, hcategory]
      · intro error herror hphase
        rcases mem_append.mp herror with hold | hfailed
        · exact h.recorded error hold hphase
        · rw [mem_singleton.mp hfailed]
          rfl
    · cases hnext
      refine h.settle hrest hnew ?_ ?_ ?_ h.recorded
      · simp [databasePhases, RetentionExecutionCounts.increment]
      · intro category
        have := h.skipped category
        simp only [RetentionExecutionCounts.increment]
        grind
      · intro category
        simp only [RetentionExecutionCounts.increment]
        grind

theorem Counted.finished (h : Counted run cleanup) (hrest : cleanup.rest = []) (now : Datetime) :
    Accounted (cleanup.finishedRun run now) := by
  have hperm : cleanup.seen.Perm
      (run.cleanupIntentSnapshot.map RetentionCleanupIntent.identity).eraseDups := by
    refine (perm_ext_iff_of_nodup h.once (Canonical.nodup_eraseDups _)).mpr fun identity => ?_
    rw [mem_eraseDups]
    refine ⟨fun hin => h.seen hin, fun hin => ?_⟩
    obtain ⟨intent, hintent, rfl⟩ := mem_map.mp hin
    refine (h.left intent hintent).resolve_right ?_
    rw [hrest]
    exact not_mem_nil
  refine ⟨fun category => ?_, h.skipped, ?_⟩
  · exact (h.settled category).trans (hperm.filter _).length_eq
  · show (if _ then _ else _) = _ ∧ _ ∨ (if _ then _ else _) = _ ∧ _
    by_cases hany : (cleanup.errors.any fun error => error.phase = "filesystem") = true
    · rw [if_pos hany]
      obtain ⟨error, herror, hphase⟩ := any_eq_true.mp hany
      have hphase := of_decide_eq_true hphase
      obtain ⟨record, hrecord⟩ := Option.isSome_iff_exists.mp (h.recorded error herror hphase)
      refine .inr ⟨rfl, record.category, ?_⟩
      have hin : error ∈ cleanup.errors.filter fun error => error.phase = "filesystem"
          ∧ error.record.any fun other => other.category = record.category :=
        mem_filter.mpr ⟨herror, by simp [hphase, hrecord]⟩
      exact Nat.ne_of_gt (length_pos_of_mem hin)
    · rw [if_neg hany]
      refine .inl ⟨rfl, fun category => ?_⟩
      rw [failures, length_eq_zero_iff, filter_eq_nil_iff]
      intro error herror hcondition
      have hphase := (of_decide_eq_true hcondition).1
      exact hany (any_eq_true.mpr ⟨error, herror, decide_eq_true hphase⟩)

/-! ## Any number of passes -/

/-- The run between its passes, after it was `before`. -/
structure MediaState.Accounts (before : RetentionRun) (s : MediaState) : Prop where
  intents : s.run.cleanupIntentSnapshot = before.cleanupIntentSnapshot
  database : ∀ phase ∈ databasePhases, ∀ category,
    s.run.counts phase category = before.counts phase category
  accounted : s.run = before ∨ Accounted s.run
  counted : ∀ cleanup, s.cleanup = some cleanup → Counted s.run cleanup

variable {before : RetentionRun} {s s' : MediaState}

theorem MediaState.Accounts.begin (hquiet : s.cleanup = none) : s.Accounts s.run := by
  refine ⟨rfl, fun _ _ _ => rfl, .inl rfl, fun cleanup hl => ?_⟩
  rw [hquiet] at hl
  cases hl

theorem MediaState.Accounts.same (h : s.Accounts before) (hrun : s'.run = s.run)
    (hcleanup : s'.cleanup = s.cleanup ∨ s'.cleanup = none) : s'.Accounts before := by
  refine ⟨hrun ▸ h.intents, hrun ▸ h.database, hrun ▸ h.accounted, fun cleanup hl => ?_⟩
  rcases hcleanup with hsame | hnone
  · rw [hrun]
    exact h.counted cleanup (hsame ▸ hl)
  · rw [hnone] at hl
    cases hl

theorem MediaState.Accounts.step {e : MediaEvent} (h : s.Accounts before)
    (hst : s.step W e = some s') : s'.Accounts before := by
  cases e with
  | beginCapture id media =>
    simp only [MediaState.step] at hst
    split_ifs at hst
    cases hst
    exact h.same rfl (.inl rfl)
  | probe id =>
    obtain ⟨_, _, _, _, _, -, -, -, ⟨-, rfl⟩ | rfl⟩ := MediaState.probe_spec hst
    · exact h.same rfl (.inl rfl)
    · exact h.same rfl (.inl rfl)
  | write id =>
    obtain ⟨_, _, _, _, -, -, -, rfl⟩ := MediaState.write_spec hst
    exact h.same rfl (.inl rfl)
  | commit id fresh now =>
    obtain ⟨_, -, rfl⟩ := MediaState.commit_spec hst
    exact h.same rfl (.inl rfl)
  | rollback id =>
    cases hst
    exact h.same rfl (.inl rfl)
  | crash =>
    cases hst
    exact h.same rfl (.inr rfl)
  | check referencedMediaIds =>
    obtain ⟨cleanup, hstart, -, -, rfl⟩ := MediaState.check_spec hst
    refine ⟨h.intents, h.database, h.accounted, ?_⟩
    rintro _ ⟨⟩
    exact Counted.start hstart
  | clean fails =>
    obtain ⟨cleanup, cleanup', files', hl, hnext, rfl⟩ := MediaState.clean_spec hst
    refine ⟨h.intents, h.database, h.accounted, ?_⟩
    rintro _ ⟨⟩
    exact (h.counted cleanup hl).next hnext
  | finish now =>
    simp only [MediaState.step, MediaState.finish] at hst
    cases hl : s.cleanup with
    | none =>
      simp only [hl] at hst
      cases hst
    | some cleanup =>
      simp only [hl] at hst
      split_ifs at hst with hrest
      cases hst
      have hcounted := h.counted cleanup hl
      refine ⟨h.intents, fun phase hphase category => ?_, .inr (hcounted.finished hrest now), ?_⟩
      · exact (hcounted.kept phase hphase category).trans (h.database phase hphase category)
      · rintro _ ⟨⟩

/-- The deletion fails, the next pass is lost to a crash, and the one after it succeeds. -/
def deletedAtLast : List MediaEvent :=
  [.check [], .clean true, .finish 0, .check [], .crash, .check [], .clean false, .finish 1]

/-- What an intent is to delete: a file, or what is below a directory. -/
def RetentionCleanupIntent.Names (intent : RetentionCleanupIntent) (file : String) : Prop :=
  if intent.operation = .deleteTree then below (canonicalPath intent.relativePath) file = true
  else file = canonicalPath intent.relativePath

def OwnedFiles.root (files : OwnedFiles) (exports : Bool) : List String :=
  if exports then files.exports else files.media

/-- Whatever was there is there, or it was to be deleted. -/
def Spares (intents : List RetentionCleanupIntent) (files files' : OwnedFiles) : Prop :=
  ∀ exports, ∀ file ∈ files.root exports, file ∈ files'.root exports
    ∨ ∃ intent ∈ intents, decide (intent.category = .exportArtifact) = exports
      ∧ unsafeRelative intent.relativePath = false ∧ intent.Names file

variable {files files' files'' : OwnedFiles} {intents : List RetentionCleanupIntent}

theorem Spares.trans (h : Spares intents files files') (h' : Spares intents files' files'') :
    Spares intents files files'' := by
  intro exports file hfile
  rcases h exports file hfile with hkept | hnamed
  · exact h' exports file hkept
  · exact .inr hnamed

theorem Spares.of_subset (hmedia : files.media ⊆ files'.media)
    (hexports : files'.exports = files.exports) : Spares intents files files' := by
  rintro (_ | _) file hfile
  · exact .inl (hmedia hfile)
  · refine .inl ?_
    rw [OwnedFiles.root, if_pos rfl, hexports]
    exact hfile

theorem deleteRelativeOwned_spares {owned owned' : List String} {path : String} {directory : Bool}
    (h : deleteRelativeOwned owned path directory = some owned') {file : String}
    (hfile : file ∈ owned) : file ∈ owned' ∨ unsafeRelative path = false
      ∧ if directory then below (canonicalPath path) file = true else file = canonicalPath path := by
  unfold deleteRelativeOwned at h
  dsimp only at h
  split_ifs at h with hunsafe _ hdirectory _ hdirectory
  · cases h
    by_cases hname : file = canonicalPath path
    · exact .inr ⟨by simpa using hunsafe, by rw [if_neg hdirectory]; exact hname⟩
    · exact .inl (mem_filter.mpr ⟨hfile, decide_eq_true hname⟩)
  · cases h
    by_cases hbelow : below (canonicalPath path) file = true
    · exact .inr ⟨by simpa using hunsafe, by rw [if_pos hdirectory]; exact hbelow⟩
    · exact .inl (mem_filter.mpr ⟨hfile, by simpa using hbelow⟩)
  · cases h
    exact .inl hfile

theorem deleteOwned_spares (hintent : intent ∈ intents)
    (h : files.deleteOwned intent = some files') : Spares intents files files' := by
  have hnames {file : String} (hnamed : if decide (intent.operation = .deleteTree) then
      below (canonicalPath intent.relativePath) file = true
      else file = canonicalPath intent.relativePath) : intent.Names file := by
    simpa [RetentionCleanupIntent.Names] using hnamed
  unfold OwnedFiles.deleteOwned at h
  by_cases hexport : intent.category = .exportArtifact
  · rw [if_pos hexport] at h
    obtain ⟨owned, hdelete, rfl⟩ := Option.map_eq_some_iff.mp h
    rintro (_ | _) file hfile
    · exact .inl hfile
    · refine (deleteRelativeOwned_spares hdelete hfile).imp_right fun hlost => ?_
      exact ⟨intent, hintent, decide_eq_true hexport, hlost.1, hnames hlost.2⟩
  · rw [if_neg hexport] at h
    obtain ⟨owned, hdelete, rfl⟩ := Option.map_eq_some_iff.mp h
    rintro (_ | _) file hfile
    · refine (deleteRelativeOwned_spares hdelete hfile).imp_right fun hlost => ?_
      exact ⟨intent, hintent, decide_eq_false hexport, hlost.1, hnames hlost.2⟩
    · exact .inl hfile

theorem next_spares {fails : Bool} {cleanup' : FilesystemCleanup}
    (hrest : cleanup.rest ⊆ intents) (h : cleanup.next files fails = some (cleanup', files')) :
    Spares intents files files' := by
  have hsame : Spares intents files files := .of_subset (List.Subset.refl _) rfl
  unfold FilesystemCleanup.next at h
  cases hl : cleanup.rest with
  | nil =>
    rw [hl] at h
    cases h
  | cons intent rest =>
    have hintent : intent ∈ intents := hrest (hl ▸ mem_cons_self)
    simp only [hl] at h
    split_ifs at h with hseen hspared
    · cases h
      exact hsame
    · cases h
      exact hsame
    all_goals
      split at h
      · cases h
        exact hsame
      · cases h
        rename_i hdelete
        first
          | exact deleteOwned_spares hintent hdelete
          | cases hdelete

theorem MediaState.step_spares {e : MediaEvent} (h : s.Accounts before)
    (hst : s.step W e = some s') : Spares before.cleanupIntentSnapshot s.files s'.files := by
  cases e with
  | clean fails =>
    obtain ⟨cleanup, cleanup', files', hl, hnext, rfl⟩ := MediaState.clean_spec hst
    exact next_spares (h.intents ▸ (h.counted cleanup hl).rest) hnext
  | write id =>
    obtain ⟨_, _, _, file, -, -, -, rfl⟩ := MediaState.write_spec hst
    refine .of_subset ?_ rfl
    split
    · exact List.Subset.refl _
    · exact subset_cons_self _ _
  | probe id =>
    obtain ⟨_, _, _, _, _, -, -, -, ⟨-, rfl⟩ | rfl⟩ := MediaState.probe_spec hst
    · exact .of_subset (List.Subset.refl _) rfl
    · exact .of_subset (List.Subset.refl _) rfl
  | commit id fresh now =>
    obtain ⟨_, -, rfl⟩ := MediaState.commit_spec hst
    exact .of_subset (List.Subset.refl _) rfl
  | check referencedMediaIds =>
    obtain ⟨_, -, -, -, rfl⟩ := MediaState.check_spec hst
    exact .of_subset (List.Subset.refl _) rfl
  | finish now =>
    obtain ⟨_, -, rfl⟩ := MediaState.finish_spec hst
    exact .of_subset (List.Subset.refl _) rfl
  | beginCapture id media =>
    simp only [MediaState.step] at hst
    split_ifs at hst
    cases hst
    exact .of_subset (List.Subset.refl _) rfl
  | rollback _ | crash =>
    cases hst
    exact .of_subset (List.Subset.refl _) rfl

/-- **Only what the intents name is ever deleted**, in any interleaving with captures: what is
gone from one of the two roots was named, by a safe relative path, for that root. -/
theorem only_named_deleted {events : List MediaEvent} (hquiet : s.cleanup = none)
    (hrun : (mediaSystem W).Run s events s') (exports : Bool) {file : String}
    (hfile : file ∈ s.files.root exports) (hlost : file ∉ s'.files.root exports) :
    ∃ intent ∈ s.run.cleanupIntentSnapshot, decide (intent.category = .exportArtifact) = exports
      ∧ unsafeRelative intent.relativePath = false ∧ intent.Names file := by
  have h := hrun.preserves (P := fun t => t.Accounts s.run
      ∧ Spares s.run.cleanupIntentSnapshot s.files t.files)
    (fun t e t' ht hst => ⟨ht.1.step hst, ht.2.trans (MediaState.step_spares ht.1 hst)⟩)
    ⟨.begin hquiet, .of_subset (List.Subset.refl _) rfl⟩
  exact (h.2 exports file hfile).resolve_left hlost

theorem only_named_deleted_at_last : ∃ intent ∈ expiredPhoto.run.cleanupIntentSnapshot,
    intent.Names threeBytesFile := by
  have hrun : (deletedAtLast.foldlM (MediaState.step mediaRoot) expiredPhoto).any
      (fun s => decide (threeBytesFile ∉ s.files.media)) = true := by
    decide +kernel
  obtain ⟨s', hs, hlost⟩ := (Option.any_eq_true _ _).mp hrun
  have hrun := System.run_foldlM (S := mediaSystem mediaRoot) (fun _ _ _ hst => hst) hs
  obtain ⟨intent, hintent, -, -, hnames⟩ := only_named_deleted rfl hrun false mem_cons_self
    (of_decide_eq_true hlost)
  exact ⟨intent, hintent, hnames⟩

end NewsCraft.Retention
