import NewsCraft.Telegram.ScanSound

/-!
# Where a catch-up comes to

As long as the pages are honest, what a step of the catch-up returns has no gaps above the
cursor, whether it was scanned now or read once more, and a step that returns nothing has
seen that nothing is above the cursor.
-/

namespace NewsCraft.Telegram

open Lib Jobs List
open TelegramEnvelope (anchorMessageId)

variable {channel : List TelegramEnvelope} {result : TelegramFetchResult}

/-- Below a post the token stands for it stands for everything down to the base. -/
def TokenDown (channel : List TelegramEnvelope) (base head : Int) (token : Option PageToken) :
    Prop :=
  Backlog.DownTo anchorMessageId channel base ((forwardRequest base none token).Asks head)

/-- Once what is pending is captured the mark is not below `n`. -/
def Reaches (mark : Int) (pending : List TelegramEnvelope) (n : Int) : Prop :=
  n ≤ mark ∨ ∃ post ∈ pending, n ≤ post.anchorMessageId

/-- What holds of a state an earlier job left, or leaves once `pending` is captured. -/
def ForwardState.Sound (channel : List TelegramEnvelope) (cut mark : Int)
    (pending : List TelegramEnvelope) : ForwardState → Prop
  | .scan base snapshotToken nextPageToken pageTokens _ =>
    cut ≤ base ∧ base ≤ mark ∧ (snapshotToken = none → nextPageToken = none ∧ pageTokens = [])
      ∧ ∀ snapshot ∈ snapshotToken, Within channel snapshot.head ∧ pageTokens ≠ []
        ∧ ∀ token ∈ nextPageToken :: pageTokens, TokenDown channel base snapshot.head token
  | .capture base snapshotToken pageTokens _ lastCapturedId =>
    cut ≤ base ∧ base ≤ mark ∧ Reaches mark pending lastCapturedId ∧ pageTokens ≠ []
      ∧ ∃ snapshot, snapshotToken = some snapshot ∧ Within channel snapshot.head
        ∧ ∀ token ∈ pageTokens, TokenDown channel base snapshot.head token

/-- What was read of pages that are fetched again. -/
structure ReplaySound (channel : List TelegramEnvelope) (mark base : Int)
    (snapshotToken : Option SnapshotToken) (pageTokens : List (Option PageToken))
    (read : List TelegramEnvelope) (lastCapturedId : Int) : Prop where
  pinned : ∃ snapshot, snapshotToken = some snapshot ∧ Within channel snapshot.head
    ∧ ∀ token ∈ pageTokens, TokenDown channel base snapshot.head token
  kept : ∀ post ∈ read, post ∈ channel ∧ base < post.anchorMessageId
  gapless : Backlog.Gapless anchorMessageId channel mark read
  reached : Backlog.ReachedTo anchorMessageId channel mark read lastCapturedId
  reaches : Reaches mark read lastCapturedId
  progress : read = [] → pageTokens ≠ []

structure ForwardScanSound (channel : List TelegramEnvelope) (base : Int)
    (snapshotToken : Option SnapshotToken) (nextPageToken : Option PageToken)
    (priorTokens scannedTokens : List (Option PageToken)) (read : List TelegramEnvelope) :
    Prop where
  fresh : snapshotToken = none →
    nextPageToken = none ∧ priorTokens = [] ∧ scannedTokens = [] ∧ read = []
  pinned : ∀ snapshot ∈ snapshotToken, Within channel snapshot.head
    ∧ priorTokens ++ scannedTokens ≠ []
    ∧ ∀ token ∈ nextPageToken :: (priorTokens ++ scannedTokens),
      TokenDown channel base snapshot.head token
  tail : ∀ snapshot ∈ snapshotToken, Backlog.Tail anchorMessageId channel base
    ((forwardRequest base none nextPageToken).Asks snapshot.head) read
  kept : ∀ post ∈ read, post ∈ channel ∧ base < post.anchorMessageId
  progress : read = [] → scannedTokens = []

def ForwardLoop.Sound (channel : List TelegramEnvelope) (mark base : Int) : ForwardLoop → Prop
  | .replay snapshotToken pageTokens remaining pages _ _ lastCapturedId =>
    ReplaySound channel mark base snapshotToken (pageTokens ++ remaining) pages.flatten
      lastCapturedId
  | .scan _ snapshotToken nextPageToken priorTokens scannedTokens scannedPages _ =>
    ForwardScanSound channel base snapshotToken nextPageToken priorTokens scannedTokens
      scannedPages.flatten

structure StepSound (channel : List TelegramEnvelope) (cut mark : Int) (step : ForwardStep) :
    Prop where
  kept : ∀ post ∈ step.envelopes, post ∈ channel ∧ cut < post.anchorMessageId
  sorted : step.envelopes.Pairwise fun a b => a.anchorMessageId ≤ b.anchorMessageId
  gapless : Backlog.Gapless anchorMessageId channel mark step.envelopes
  state : ∀ state ∈ step.state, state.Sound channel cut mark step.envelopes

/-- The page the loop asks for is as it has to be. -/
def ForwardLoop.Honest (channel : List TelegramEnvelope) (request : TelegramFetchRequest)
    (result : TelegramFetchResult) : ForwardLoop → Prop
  | .replay _ _ _ _ _ _ lastCapturedId => ReplayedPage channel request lastCapturedId result
  | .scan .. => HonestPage channel request result

instance (request : TelegramFetchRequest) (loop : ForwardLoop) :
    Decidable (loop.Honest channel request result) := by
  cases loop <;> (dsimp only [ForwardLoop.Honest]; infer_instance)

def ForwardOutcome.Sound (channel : List TelegramEnvelope) (cut mark base : Int) :
    ForwardOutcome → Prop
  | .more loop => loop.Sound channel mark base
  | .done step => StepSound channel cut mark step

/-! ## Beginning -/

theorem tokenDown_none {base head : Int} : TokenDown channel base head none := by
  intro y _ hasked x _ hbase hlt
  obtain ⟨⟨-, hhead⟩, -⟩ := hasked
  refine ⟨⟨fun afterId hafter => ?_, Int.le_of_lt (Int.lt_of_lt_of_le hlt hhead)⟩,
    fun _ htoken => (by cases htoken)⟩
  rw [← Option.some.inj hafter]
  exact hbase

theorem Reaches.nil {mark n : Int} (h : Reaches mark [] n) : n ≤ mark := by
  rcases h with hle | ⟨post, hpost, -⟩
  · exact hle
  · cases hpost

theorem forwardStart_sound {afterId cut mark : Int} {pageBudget : Nat}
    {savedState : Option ForwardState} {loop : ForwardLoop}
    (hsaved : ∀ state ∈ savedState, state.Sound channel cut mark [])
    (hok : forwardStart afterId pageBudget savedState = .ok loop) :
    loop.Sound channel mark afterId := by
  unfold forwardStart at hok
  split at hok
  · cases hok
    exact ⟨fun _ => ⟨rfl, rfl, rfl, rfl⟩, fun _ h => (by cases h), fun _ h => (by cases h),
      fun _ h => absurd h not_mem_nil, fun _ => rfl⟩
  · rename_i state
    split at hok
    · cases hok
    rename_i hbase
    have hbase' : state.baseAfterId = afterId := by_contra hbase
    split at hok
    · rename_i base snapshotToken pageTokens lastScannedId lastCapturedId
      obtain ⟨-, -, hcaptured, hne, snapshot, hsnapshot, hwithin, htokens⟩ := hsaved _ rfl
      obtain rfl : base = afterId := hbase'
      split at hok
      · cases hok
      cases hok
      refine ⟨⟨snapshot, hsnapshot, hwithin, ?_⟩, fun _ h => absurd h not_mem_nil,
        Backlog.Gapless.nil, fun x _ hle => .inl (Int.le_trans hle hcaptured.nil), hcaptured,
        fun _ => ?_⟩
      · rw [take_append_drop]
        exact htokens
      · rw [take_append_drop]
        exact hne
    · rename_i base snapshotToken nextPageToken priorTokens lastScannedId
      obtain ⟨-, -, hfresh, hpinned⟩ := hsaved _ rfl
      obtain rfl : base = afterId := hbase'
      split at hok
      · cases hok
      split at hok
      · cases hok
      cases hok
      refine ⟨fun hnone => ⟨(hfresh hnone).1, (hfresh hnone).2, rfl, rfl⟩,
        fun snapshot hsnapshot => ?_, fun _ _ => Backlog.Tail.nil,
        fun _ h => absurd h not_mem_nil, fun _ => rfl⟩
      rw [append_nil]
      exact hpinned snapshot hsnapshot

/-! ## The end of a step -/

section Done

variable {cut mark base : Int} {snapshotToken : Option SnapshotToken}
  {pages : List (List TelegramEnvelope)} (hchannel : Timeline channel) (hcut : cut ≤ base)
  (hbase : base ≤ mark)

include hchannel hcut

theorem stepSound_of_read {read : List TelegramEnvelope} {state : Option ForwardState}
    {complete : Bool} {lastScannedId : Int}
    (hkept : ∀ post ∈ read, post ∈ channel ∧ base < post.anchorMessageId)
    (hgapless : Backlog.Gapless anchorMessageId channel mark read)
    (hstate : ∀ saved ∈ state, saved.Sound channel cut mark (coordinateOrder read)) :
    StepSound channel cut mark ⟨coordinateOrder read, state, complete, lastScannedId⟩ := by
  have hmem : ∀ {x}, x ∈ coordinateOrder read ↔ x ∈ read :=
    hchannel.mem_coordinateOrder fun post hpost => (hkept post hpost).1
  refine ⟨fun post hpost => ?_,
    hchannel.pairwise_coordinateOrder fun post hpost => (hkept post hpost).1,
    fun y hy x hx hlt => ?_, hstate⟩
  · obtain ⟨hpost, hlt⟩ := hkept post (hmem.mp hpost)
    exact ⟨hpost, Int.lt_of_le_of_lt hcut hlt⟩
  · exact (hgapless y (hmem.mp hy) x hx hlt).imp_right hmem.mpr

include hbase

theorem replayDone_sound {remaining : List (Option PageToken)} {lastScannedId lastCapturedId : Int}
    (h : ReplaySound channel mark base snapshotToken remaining pages.flatten lastCapturedId) :
    StepSound channel cut mark
      (replayDone base snapshotToken remaining pages lastScannedId lastCapturedId) := by
  refine stepSound_of_read hchannel hcut h.kept h.gapless fun saved hsaved => ?_
  split at hsaved
  · cases hsaved
  rename_i hremaining
  cases hsaved
  refine ⟨hcut, hbase, h.reaches.imp_right fun ⟨post, hpost, hle⟩ => ⟨post, ?_, hle⟩, hremaining,
    h.pinned⟩
  exact (hchannel.mem_coordinateOrder fun post hpost => (h.kept post hpost).1).mpr hpost

omit hcut hbase in
theorem replayDone_progress {remaining : List (Option PageToken)}
    {lastScannedId lastCapturedId : Int}
    (h : ReplaySound channel mark base snapshotToken remaining pages.flatten lastCapturedId)
    (hstate : (replayDone base snapshotToken remaining pages lastScannedId lastCapturedId).state
      = none) :
    (replayDone base snapshotToken remaining pages lastScannedId lastCapturedId).envelopes ≠ [] := by
  intro hempty
  have hremaining : remaining = [] := by
    by_contra hne
    rw [replayDone, if_neg hne] at hstate
    cases hstate
  refine h.progress (eq_nil_iff_forall_not_mem.mpr fun post hpost => ?_) hremaining
  have hmem := (hchannel.mem_coordinateOrder fun post hpost => (h.kept post hpost).1).mpr hpost
  rw [show coordinateOrder pages.flatten = [] from hempty] at hmem
  cases hmem

omit hchannel in
theorem scanDone_sound {nextPageToken : Option PageToken}
    {priorTokens scannedTokens : List (Option PageToken)} {lastScannedId : Int}
    {read : List TelegramEnvelope}
    (h : ForwardScanSound channel base snapshotToken nextPageToken priorTokens scannedTokens read) :
    StepSound channel cut mark
      (scanDone base snapshotToken nextPageToken priorTokens scannedTokens lastScannedId) := by
  refine ⟨fun _ hpost => absurd hpost not_mem_nil, List.Pairwise.nil, Backlog.Gapless.nil,
    fun saved hsaved => ?_⟩
  cases hsaved
  refine ⟨hcut, hbase, fun hnone => ?_, h.pinned⟩
  obtain ⟨hnext, hprior, hscanned, -⟩ := h.fresh hnone
  exact ⟨hnext, by rw [hprior, hscanned]; rfl⟩

end Done

/-! ## One page -/

theorem pinned_of_not {snapshotToken : Option SnapshotToken}
    (h : ¬ (snapshotToken.isSome = true ∧ some result.snapshotToken ≠ snapshotToken)) :
    ∀ snapshot ∈ snapshotToken, result.snapshotToken = snapshot := by
  intro snapshot hsnapshot
  rw [Option.mem_def] at hsnapshot
  by_contra hne
  refine h ⟨by rw [hsnapshot]; rfl, fun heq => hne ?_⟩
  rw [hsnapshot] at heq
  exact Option.some.inj heq

theorem replayRead_sound {mark base : Int} {snapshotToken : Option SnapshotToken}
    {pageToken : Option PageToken} {pageTokens remaining : List (Option PageToken)}
    {pages : List (List TelegramEnvelope)} {seenSourceKeys : List String}
    {lastScannedId lastCapturedId : Int} {loop : ForwardLoop} (hchannel : Timeline channel)
    (hbase : base ≤ mark)
    (h : ReplaySound channel mark base snapshotToken (pageToken :: pageTokens ++ remaining)
      pages.flatten lastCapturedId)
    (hpage : ReplayedPage channel (forwardRequest base snapshotToken pageToken) lastCapturedId
      result)
    (hok : replayRead snapshotToken pageTokens remaining pages seenSourceKeys lastScannedId
      lastCapturedId result = .ok loop) : loop.Sound channel mark base := by
  obtain ⟨snapshot, hsnapshot, hwithin, htokens⟩ := h.pinned
  unfold replayRead at hok
  split at hok
  · cases hok
  rename_i hsame
  have hhead : result.snapshotToken = snapshot := by
    rw [hsnapshot] at hsame
    exact Option.some.inj (by_contra hsame)
  dsimp only at hok
  split at hok
  · rename_i pageMinimum pageMaximum hmin hmax
    split at hok
    · cases hok
    split at hok
    · cases hok
    cases hok
    obtain ⟨top, htop, htopAnchor⟩ := mem_map.mp (max?_mem hmax)
    have hread : ∀ {x}, x ∈ (pages ++ [result.envelopes]).flatten
        ↔ x ∈ pages.flatten ++ result.envelopes := by
      intro x
      rw [flatten_append, flatten_singleton]
    have hdown : Backlog.DownTo anchorMessageId channel base
        ((forwardRequest base snapshotToken pageToken).Asks result.snapshotToken.head) := by
      rw [hhead]
      exact htokens pageToken mem_cons_self
    have hgapless := h.gapless.append h.reached hdown hbase hpage.asked hpage.left
    have htopRead : top ∈ pages.flatten ++ result.envelopes := mem_append_right _ htop
    have hreached := hgapless.reachedTo htopRead fun x hx heq =>
      hchannel.distinct x hx top (hpage.asked top htop).1 heq
    refine ⟨⟨snapshot, hsnapshot, hwithin,
      fun token htoken => htokens token (mem_cons_of_mem _ htoken)⟩,
      fun post hpost => ?_, ?_, ?_, .inr ⟨top, hread.mpr htopRead, htopAnchor ▸ le_refl _⟩,
      fun hempty => ?_⟩
    · rcases mem_append.mp (hread.mp hpost) with hold | hnew
      · exact h.kept post hold
      obtain ⟨hpost, ⟨hafter, -⟩, -⟩ := hpage.asked post hnew
      exact ⟨hpost, hafter base rfl⟩
    · rw [flatten_append, flatten_singleton]
      exact hgapless
    · rw [flatten_append, flatten_singleton, ← htopAnchor]
      exact hreached
    · have htop' := hread.mpr htopRead
      rw [hempty] at htop'
      exact absurd htop' not_mem_nil
  · cases hok

section ScanPage

variable {mark base : Int} {snapshotToken : Option SnapshotToken}
  {nextPageToken : Option PageToken} {priorTokens scannedTokens : List (Option PageToken)}
  {read : List TelegramEnvelope}
  (h : ForwardScanSound channel base snapshotToken nextPageToken priorTokens scannedTokens read)
  (hpage : HonestPage channel (forwardRequest base snapshotToken nextPageToken) result)
  (hpinned : ∀ snapshot ∈ snapshotToken, result.snapshotToken = snapshot)

include h hpage hpinned

theorem within_of_scan : Within channel result.snapshotToken.head := by
  cases hsnapshot : snapshotToken with
  | none => exact hpage.within hsnapshot
  | some snapshot =>
    rw [hpinned snapshot hsnapshot]
    exact (h.pinned snapshot hsnapshot).1

omit hpage in
theorem tokenDown_of_scan {token : Option PageToken}
    (htoken : token ∈ nextPageToken :: (priorTokens ++ scannedTokens)) :
    TokenDown channel base result.snapshotToken.head token := by
  cases hsnapshot : snapshotToken with
  | none =>
    obtain ⟨hnext, hprior, hscanned, -⟩ := h.fresh hsnapshot
    rw [hnext, hprior, hscanned] at htoken
    rw [mem_singleton.mp htoken]
    exact tokenDown_none
  | some snapshot =>
    rw [hpinned snapshot hsnapshot]
    exact (h.pinned snapshot hsnapshot).2.2 token htoken

theorem tail_of_scan : Backlog.Tail anchorMessageId channel base
      (fun post => (forwardRequest base none nextPageToken).Asks result.snapshotToken.head post
        ∧ post ∉ result.envelopes) (read ++ result.envelopes) := by
  refine Backlog.Tail.append ?_ (tokenDown_of_scan h hpinned mem_cons_self) hpage.page
  cases hsnapshot : snapshotToken with
  | none =>
    rw [(h.fresh hsnapshot).2.2.2]
    exact Backlog.Tail.nil
  | some snapshot =>
    rw [hpinned snapshot hsnapshot]
    exact h.tail snapshot hsnapshot

omit hpinned in
theorem kept_of_scan {post : TelegramEnvelope} (hpost : post ∈ read ++ result.envelopes) :
    post ∈ channel ∧ base < post.anchorMessageId := by
  rcases mem_append.mp hpost with hold | hnew
  · exact h.kept post hold
  obtain ⟨hpost, ⟨hafter, -⟩, -⟩ := hpage.asked post hnew
  exact ⟨hpost, hafter base rfl⟩

omit h hpinned in
theorem nothing_left (hcomplete : result.complete = true) : ∀ post ∈ channel,
      ¬ ((forwardRequest base none nextPageToken).Asks result.snapshotToken.head post
        ∧ post ∉ result.envelopes) := by
  intro post hpost hleft
  have hincomplete := (hpage.older post hpost hleft.1 hleft.2).1
  rw [hcomplete] at hincomplete
  cases hincomplete

theorem scanComplete_sound {cut lastScannedId : Int} {pages : List (List TelegramEnvelope)}
    (hchannel : Timeline channel) (hcut : cut ≤ base) (hbase : base ≤ mark)
    (hpages : ∀ x, x ∈ pages.reverse.flatten ↔ x ∈ read ++ result.envelopes)
    (hcomplete : result.complete = true) : StepSound channel cut mark
      (scanComplete base result.snapshotToken priorTokens pages lastScannedId) := by
  have hkept : ∀ post ∈ pages.reverse.flatten, post ∈ channel ∧ base < post.anchorMessageId :=
    fun post hpost => kept_of_scan h hpage ((hpages post).mp hpost)
  have hgapless := (tail_of_scan h hpage hpinned).gapless (nothing_left hpage hcomplete) hbase
  refine stepSound_of_read hchannel hcut hkept (fun y hy x hx hlt => ?_) fun saved hsaved => ?_
  · exact (hgapless y ((hpages y).mp hy) x hx hlt).imp_right (hpages x).mpr
  split at hsaved
  · cases hsaved
  rename_i hprior
  cases hsaved
  refine ⟨hcut, hbase, ?_, fun hnil => hprior (reverse_eq_nil_iff.mp hnil),
    result.snapshotToken, rfl, within_of_scan h hpage hpinned, fun token htoken => ?_⟩
  · cases hmax : ((coordinateOrder pages.reverse.flatten).map anchorMessageId).max? with
    | none => exact .inl hbase
    | some top =>
      obtain ⟨post, hpost, hanchor⟩ := mem_map.mp (max?_mem hmax)
      exact .inr ⟨post, hpost, hanchor ▸ le_refl _⟩
  · exact tokenDown_of_scan h hpinned
      (mem_cons_of_mem _ (mem_append_left _ (mem_reverse.mp htoken)))

omit hpinned in
theorem scanComplete_seen {lastScannedId : Int} {pages : List (List TelegramEnvelope)}
    (hchannel : Timeline channel) (hbase : base ≤ mark)
    (hpages : ∀ x, x ∈ pages.reverse.flatten ↔ x ∈ read ++ result.envelopes)
    (hcomplete : result.complete = true)
    (hstate : (scanComplete base result.snapshotToken priorTokens pages lastScannedId).state = none)
    (hempty : (scanComplete base result.snapshotToken priorTokens pages
      lastScannedId).envelopes = []) : ∀ post ∈ channel, post.anchorMessageId ≤ mark := by
  have hnothing : ∀ post, post ∉ read ++ result.envelopes := by
    intro post hpost
    have hmem := (hchannel.mem_coordinateOrder fun post hpost =>
      (kept_of_scan h hpage ((hpages post).mp hpost)).1).mpr ((hpages post).mpr hpost)
    rw [show coordinateOrder pages.reverse.flatten = [] from hempty] at hmem
    cases hmem
  have hprior : priorTokens = [] := by
    by_contra hne
    rw [scanComplete, if_neg hne] at hstate
    cases hstate
  have hscanned : scannedTokens = [] :=
    h.progress (eq_nil_iff_forall_not_mem.mpr fun post hpost =>
      hnothing post (mem_append_left _ hpost))
  have hfirst : snapshotToken = none := by
    cases hsnapshot : snapshotToken with
    | none => rfl
    | some snapshot =>
      refine absurd ?_ (h.pinned snapshot hsnapshot).2.1
      rw [hprior, hscanned]
      rfl
  intro post hpost
  by_contra habove
  refine nothing_left hpage hcomplete post hpost ⟨⟨⟨fun afterId hafter => ?_,
    hpage.visible hfirst post hpost⟩, fun token htoken => ?_⟩,
    fun hread => hnothing post (mem_append_right _ hread)⟩
  · rw [← Option.some.inj hafter]
    omega
  · rw [(h.fresh hfirst).1] at htoken
    cases htoken

theorem scanMore_sound {token : PageToken} {pages : List TelegramEnvelope}
    (hpages : ∀ x, x ∈ pages ↔ x ∈ read ++ result.envelopes)
    (htoken : result.nextPageToken = some token) (hprogress : result.envelopes ≠ []) :
    ForwardScanSound channel base (some result.snapshotToken) (some token) priorTokens
      (scannedTokens ++ [nextPageToken]) pages := by
  have hrest : ∀ post ∈ channel,
      ((forwardRequest base none (some token)).Asks result.snapshotToken.head post
        ↔ (forwardRequest base none nextPageToken).Asks result.snapshotToken.head post
          ∧ post ∉ result.envelopes) := by
    intro post hpost
    constructor
    · intro hasks
      exact (hpage.token token htoken post hpost hasks.1).mp (hasks.2 token rfl)
    · intro hleft
      refine ⟨hleft.1.1, fun next hnext => ?_⟩
      rw [← Option.some.inj hnext]
      exact (hpage.token token htoken post hpost hleft.1.1).mpr hleft
  have hdown := Backlog.DownTo.left (tokenDown_of_scan h hpinned mem_cons_self) hpage.page
  have htail := tail_of_scan h hpage hpinned
  refine ⟨fun hnone => (by cases hnone), fun snapshot hsnapshot => ?_,
    fun snapshot hsnapshot y hy x hx hbase hlt => ?_, fun post hpost => ?_, fun hnil => ?_⟩
  · rw [← Option.some.inj hsnapshot]
    refine ⟨within_of_scan h hpage hpinned, fun hnil => ?_, fun next hnext => ?_⟩
    · rw [← append_assoc] at hnil
      exact absurd (append_eq_nil_iff.mp hnil).2 (cons_ne_nil _ _)
    · rcases mem_cons.mp hnext with heq | hold
      · rw [heq]
        intro y hy hasked x hx hbase hlt
        exact (hrest x hx).mpr (hdown y hy ((hrest y hy).mp hasked) x hx hbase hlt)
      · rw [← append_assoc] at hold
        refine tokenDown_of_scan h hpinned ?_
        rcases mem_append.mp hold with hold | hlast
        · exact mem_cons_of_mem _ hold
        · exact mem_cons.mpr (.inl (mem_singleton.mp hlast))
  · rw [← Option.some.inj hsnapshot]
    exact (htail y ((hpages y).mp hy) x hx hbase hlt).imp (hrest x hx).mpr (hpages x).mpr
  · exact kept_of_scan h hpage ((hpages post).mp hpost)
  refine absurd (eq_nil_iff_forall_not_mem.mpr fun post hpost => ?_) hprogress
  have hmem := (hpages post).mpr (mem_append_right _ hpost)
  rw [hnil] at hmem
  cases hmem

end ScanPage

theorem nextForwardPageToken_ok {current : Option PageToken} {tokens : List (Option PageToken)}
    {token : PageToken} (h : nextForwardPageToken result current tokens = .ok token) :
    result.nextPageToken = some token ∧ result.envelopes ≠ [] := by
  unfold nextForwardPageToken at h
  split at h
  · rename_i first rest next henvelopes hnext
    split at h
    · cases h
    rw [hnext, Except.ok.inj h, henvelopes]
    exact ⟨rfl, cons_ne_nil _ _⟩
  · cases h

theorem scanRead_cases {afterId : Int} {budget : Nat} {snapshotToken : Option SnapshotToken}
    {current : Option PageToken} {priorTokens scannedTokens : List (Option PageToken)}
    {pages : List (List TelegramEnvelope)} {lastScannedId : Int} {outcome : ForwardOutcome}
    (hok : scanRead afterId budget snapshotToken current priorTokens scannedTokens pages
      lastScannedId result = .ok outcome) :
    (∀ snapshot ∈ snapshotToken, result.snapshotToken = snapshot)
      ∧ ((result.complete = true ∧ ∃ lastScannedId, outcome = .done (scanComplete afterId
          result.snapshotToken priorTokens (pages ++ [result.envelopes]) lastScannedId))
        ∨ ∃ token lastScannedId, result.nextPageToken = some token ∧ result.envelopes ≠ []
          ∧ outcome = .more (.scan budget (some result.snapshotToken) (some token) priorTokens
            (scannedTokens ++ [current]) (pages ++ [result.envelopes]) lastScannedId)) := by
  unfold scanRead at hok
  split at hok
  · cases hok
  rename_i hsame
  refine ⟨pinned_of_not hsame, ?_⟩
  dsimp only at hok
  split at hok
  · cases hok
  rename_i lastScannedId' _
  split at hok
  · rename_i hcomplete
    cases hok
    exact .inl ⟨hcomplete, lastScannedId', rfl⟩
  · split at hok
    · cases hok
    rename_i token htoken
    cases hok
    obtain ⟨hnext, hprogress⟩ := nextForwardPageToken_ok htoken
    exact .inr ⟨token, lastScannedId', hnext, hprogress, rfl⟩

theorem mem_scanned {pages : List (List TelegramEnvelope)} {page : List TelegramEnvelope}
    (x : TelegramEnvelope) : x ∈ (pages ++ [page]).reverse.flatten ↔ x ∈ pages.flatten ++ page := by
  simp only [mem_flatten, mem_reverse, mem_append, mem_singleton, or_and_right,
    exists_or, exists_eq_left]

section Turn

variable {fetch : TelegramFetch} {cut mark base : Int} {loop : ForwardLoop}
  (hchannel : Timeline channel) (hbase : base ≤ mark) (h : loop.Sound channel mark base)
  (hhonest : ∀ request ∈ loop.request base, ∀ result, fetch request = .ok result →
    loop.Honest channel request result)

include hchannel hbase h hhonest

/-- **One page keeps what is known of the step, or ends it soundly.** -/
theorem ForwardLoop.page_sound {outcome : ForwardOutcome} (hcut : cut ≤ base)
    (hok : loop.page fetch base = .ok outcome) : outcome.Sound channel cut mark base := by
  unfold ForwardLoop.page at hok
  split at hok
  · cases hok
    cases loop with
    | replay snapshotToken pageTokens remaining pages seen lastScannedId lastCapturedId =>
      cases pageTokens with
      | nil => exact replayDone_sound hchannel hcut hbase h
      | cons pageToken pageTokens => rename_i hnone; cases hnone
    | scan budget snapshotToken next prior scanned pages lastScannedId =>
      exact scanDone_sound hcut hbase h
  · rename_i request hrequest
    split at hok
    · cases hok
    rename_i result hfetch
    have hpage := hhonest request hrequest result hfetch
    cases loop with
    | replay snapshotToken pageTokens remaining pages seen lastScannedId lastCapturedId =>
      cases pageTokens with
      | nil => cases hrequest
      | cons pageToken pageTokens =>
        cases hrequest
        rw [ForwardLoop.read] at hok
        cases hread : replayRead snapshotToken pageTokens remaining pages seen lastScannedId
          lastCapturedId result with
        | error error =>
          rw [hread] at hok
          cases hok
        | ok next =>
          rw [hread] at hok
          cases hok
          exact replayRead_sound hchannel hbase h hpage hread
    | scan budget snapshotToken next prior scanned pages lastScannedId =>
      cases budget with
      | zero => cases hrequest
      | succ budget =>
        cases hrequest
        obtain ⟨hpinned, hcases⟩ := scanRead_cases hok
        rcases hcases with ⟨hcomplete, _, rfl⟩ | ⟨token, _, htoken, hprogress, rfl⟩
        · exact scanComplete_sound h hpage hpinned hchannel hcut hbase mem_scanned hcomplete
        refine scanMore_sound h hpage hpinned (fun x => ?_) htoken hprogress
        rw [flatten_append, flatten_singleton]

theorem ForwardLoop.page_seen {step : ForwardStep} (hok : loop.page fetch base = .ok (.done step))
    (hstate : step.state = none) (hempty : step.envelopes = []) :
    (loop.request base).isSome = true ∧ ∀ post ∈ channel, post.anchorMessageId ≤ mark := by
  unfold ForwardLoop.page at hok
  split at hok
  · cases hok
    cases loop with
    | replay snapshotToken pageTokens remaining pages seen lastScannedId lastCapturedId =>
      cases pageTokens with
      | nil => exact absurd hempty (replayDone_progress hchannel h hstate)
      | cons pageToken pageTokens => rename_i hnone; cases hnone
    | scan budget snapshotToken next prior scanned pages lastScannedId => cases hstate
  · rename_i request hrequest
    refine ⟨by rw [hrequest]; rfl, ?_⟩
    split at hok
    · cases hok
    rename_i result hfetch
    have hpage := hhonest request hrequest result hfetch
    cases loop with
    | replay snapshotToken pageTokens remaining pages seen lastScannedId lastCapturedId =>
      cases pageTokens with
      | nil => cases hrequest
      | cons pageToken pageTokens =>
        rw [ForwardLoop.read] at hok
        cases hread : replayRead snapshotToken pageTokens remaining pages seen lastScannedId
          lastCapturedId result with
        | error error =>
          rw [hread] at hok
          cases hok
        | ok next =>
          rw [hread] at hok
          cases hok
    | scan budget snapshotToken next prior scanned pages lastScannedId =>
      cases budget with
      | zero => cases hrequest
      | succ budget =>
        cases hrequest
        obtain ⟨-, hcases⟩ := scanRead_cases hok
        rcases hcases with ⟨hcomplete, _, heq⟩ | ⟨_, _, _, _, heq⟩
        · cases heq
          exact scanComplete_seen h hpage hchannel hbase mem_scanned hcomplete hstate hempty
        · cases heq

end Turn

/-! ## Captures -/

theorem ForwardState.Sound.take {cut mark : Int}
    {envelope : TelegramEnvelope} {pending : List TelegramEnvelope} {state : ForwardState}
    (h : state.Sound channel cut mark (envelope :: pending)) :
    state.Sound channel cut (max mark envelope.anchorMessageId) pending := by
  cases state with
  | scan base snapshotToken nextPageToken pageTokens lastScannedId =>
    exact ⟨h.1, Int.le_trans h.2.1 (Int.le_max_left _ _), h.2.2⟩
  | capture base snapshotToken pageTokens lastScannedId lastCapturedId =>
    refine ⟨h.1, Int.le_trans h.2.1 (Int.le_max_left _ _), ?_, h.2.2.2⟩
    rcases h.2.2.1 with hle | ⟨post, hpost, hle⟩
    · exact .inl (Int.le_trans hle (Int.le_max_left _ _))
    rcases mem_cons.mp hpost with heq | hpost
    · rw [heq] at hle
      exact .inl (Int.le_trans hle (Int.le_max_right _ _))
    · exact .inr ⟨post, hpost, hle⟩

theorem ForwardState.Sound.mono {cut mark mark' : Int} {state : ForwardState} (h : state.Sound channel cut mark []) (hle : mark ≤ mark') :
    state.Sound channel cut mark' [] := by
  cases state with
  | scan base snapshotToken nextPageToken pageTokens lastScannedId =>
    exact ⟨h.1, Int.le_trans h.2.1 hle, h.2.2⟩
  | capture base snapshotToken pageTokens lastScannedId lastCapturedId =>
    exact ⟨h.1, Int.le_trans h.2.1 hle, .inl (Int.le_trans h.2.2.1.nil hle), h.2.2.2⟩

/-! ## Arrivals -/

section Arrive

variable {boundary : Datetime} {post : TelegramEnvelope} {cut mark base : Int}
  (harrives : Arrives channel boundary post)

include harrives

theorem TokenDown.arrive {head : Int} {token : Option PageToken}
    (h : TokenDown channel base head token) (hwithin : Within channel head) :
    TokenDown (post :: channel) base head token := by
  refine Backlog.DownTo.arrive h harrives.above fun hasked => ?_
  exact absurd hasked.1.2 (Int.not_le.mpr (hwithin.lt harrives.positive harrives.above))

theorem ForwardState.Sound.arrive {pending : List TelegramEnvelope} {state : ForwardState}
    (h : state.Sound channel cut mark pending) :
    state.Sound (post :: channel) cut mark pending := by
  cases state with
  | scan base snapshotToken nextPageToken pageTokens lastScannedId =>
    obtain ⟨hcut, hbase, hfresh, hpinned⟩ := h
    refine ⟨hcut, hbase, hfresh, fun snapshot hsnapshot => ?_⟩
    obtain ⟨hwithin, hne, htokens⟩ := hpinned snapshot hsnapshot
    exact ⟨hwithin.mono, hne, fun token htoken => (htokens token htoken).arrive harrives hwithin⟩
  | capture base snapshotToken pageTokens lastScannedId lastCapturedId =>
    obtain ⟨hcut, hbase, hreaches, hne, snapshot, hsnapshot, hwithin, htokens⟩ := h
    exact ⟨hcut, hbase, hreaches, hne, snapshot, hsnapshot, hwithin.mono,
      fun token htoken => (htokens token htoken).arrive harrives hwithin⟩

theorem ForwardLoop.Sound.arrive {loop : ForwardLoop} (hmark : Within channel mark)
    (h : loop.Sound channel mark base) : loop.Sound (post :: channel) mark base := by
  cases loop with
  | replay snapshotToken pageTokens remaining pages seen lastScannedId lastCapturedId =>
    obtain ⟨⟨snapshot, hsnapshot, hwithin, htokens⟩, hkept, hgapless, hreached, hreaches,
      hprogress⟩ := h
    have habove : ∀ other ∈ pages.flatten, other.anchorMessageId < post.anchorMessageId :=
      fun other hother => harrives.above other (hkept other hother).1
    refine ⟨⟨snapshot, hsnapshot, hwithin.mono, fun token htoken =>
      (htokens token htoken).arrive harrives hwithin⟩,
      fun other hother => (hkept other hother).imp_left (mem_cons_of_mem _),
      hgapless.arrive habove, hreached.arrive ?_, hreaches, hprogress⟩
    rcases hreaches with hle | ⟨other, hother, hle⟩
    · exact Int.lt_of_le_of_lt hle (hmark.lt harrives.positive harrives.above)
    · exact Int.lt_of_le_of_lt hle (habove other hother)
  | scan budget snapshotToken next prior scanned pages lastScannedId =>
    obtain ⟨hfresh, hpinned, htail, hkept, hprogress⟩ := h
    refine ⟨hfresh, fun snapshot hsnapshot => ?_, fun snapshot hsnapshot => ?_,
      fun other hother => (hkept other hother).imp_left (mem_cons_of_mem _), hprogress⟩
    · obtain ⟨hwithin, hne, htokens⟩ := hpinned snapshot hsnapshot
      exact ⟨hwithin.mono, hne, fun token htoken => (htokens token htoken).arrive harrives hwithin⟩
    · exact (htail snapshot hsnapshot).arrive fun other hother =>
        harrives.above other (hkept other hother).1

end Arrive

end NewsCraft.Telegram
