import NewsCraft.Telegram.HonestPages

/-!
# Where the scan for the boundary comes to

As long as the pages are honest, what the scan has left behind was published in or after the
second of the boundary, and what it has kept has no gaps down to what it has left. So the
predecessor it ends with cuts the channel at the boundary.
-/

namespace NewsCraft.Telegram

open Lib Jobs List Option
open TelegramEnvelope (anchorMessageId)

variable {channel : List TelegramEnvelope} {request : TelegramFetchRequest}
  {result : TelegramFetchResult} {boundary : Datetime} {scan : ActivationScan}

theorem HonestPage.page (h : HonestPage channel request result) :
    Backlog.Page anchorMessageId channel (request.Asks result.snapshotToken.head)
      (fun post => request.Asks result.snapshotToken.head post ∧ post ∉ result.envelopes)
      result.envelopes where
  sound := h.asked
  left _ _ := Iff.rfl
  older post hpost hleft := (h.older post hpost hleft.1 hleft.2).2

/-! ## Classifying -/

theorem fromBoundary_iff {post : TelegramEnvelope} (hpositive : 0 < post.anchorMessageId) :
    FromBoundary boundary post ↔ boundary ≤ post.publishedAt := by
  constructor
  · intro h
    rcases h with hlt | ⟨heq, -⟩
    · exact Int.le_of_lt hlt
    · exact Int.le_of_eq heq.symm
  · intro h
    rcases Int.lt_or_eq_of_le h with hlt | heq
    · exact .inl hlt
    · exact .inr ⟨heq.symm, hpositive⟩

theorem mem_latestFirst {envelopes : List TelegramEnvelope} {x : TelegramEnvelope} :
    x ∈ latestFirst envelopes ↔ x ∈ envelopes :=
  mem_insertionSort _

section Classify

variable {envelopes : List TelegramEnvelope} {complete : Bool}
  (hpositive : ∀ e ∈ envelopes, 0 < e.anchorMessageId)

include hpositive

theorem mem_newer {x : TelegramEnvelope} :
    x ∈ (classifyActivationPage envelopes boundary complete).newer
      ↔ x ∈ envelopes ∧ boundary ≤ x.publishedAt := by
  have hnewer : (classifyActivationPage envelopes boundary complete).newer
      = (latestFirst envelopes).filter fun item => FromBoundary boundary item := by
    simp only [classifyActivationPage]
    split
    · rfl
    · split
      · rfl
      · rfl
  rw [hnewer, mem_filter, mem_latestFirst, decide_eq_true_iff]
  constructor
  · intro ⟨hx, hfrom⟩
    exact ⟨hx, (fromBoundary_iff (hpositive x hx)).mp hfrom⟩
  · intro ⟨hx, hdate⟩
    exact ⟨hx, (fromBoundary_iff (hpositive x hx)).mpr hdate⟩

theorem mem_predecessors {n : Int} :
    n ∈ ((latestFirst envelopes).filter fun item => ¬ FromBoundary boundary item).map
        TelegramEnvelope.anchorMessageId
      ↔ ∃ e ∈ envelopes, e.publishedAt < boundary ∧ e.anchorMessageId = n := by
  rw [List.mem_map]
  constructor
  · intro ⟨e, he, heq⟩
    rw [mem_filter, mem_latestFirst, decide_eq_true_iff] at he
    exact ⟨e, he.1, Int.not_le.mp fun hle => he.2 ((fromBoundary_iff (hpositive e he.1)).mpr hle), heq⟩
  · intro ⟨e, he, hdate, heq⟩
    refine ⟨e, ?_, heq⟩
    rw [mem_filter, mem_latestFirst, decide_eq_true_iff]
    exact ⟨he, fun hfrom =>
      absurd ((fromBoundary_iff (hpositive e he)).mp hfrom) (Int.not_le.mpr hdate)⟩

theorem classify_cases (boundary : Datetime) (complete : Bool) :
    (∃ e ∈ envelopes, e.publishedAt < boundary
      ∧ (∀ other ∈ envelopes, other.publishedAt < boundary →
        other.anchorMessageId ≤ e.anchorMessageId)
      ∧ (classifyActivationPage envelopes boundary complete).predecessorId = some e.anchorMessageId
      ∧ (classifyActivationPage envelopes boundary complete).boundaryProven = true)
    ∨ (∀ e ∈ envelopes, boundary ≤ e.publishedAt) ∧ (complete = true
        ∧ (classifyActivationPage envelopes boundary complete).predecessorId = some 0
        ∧ (classifyActivationPage envelopes boundary complete).boundaryProven = true
      ∨ complete = false
        ∧ (classifyActivationPage envelopes boundary complete).boundaryProven = false) := by
  simp only [classifyActivationPage]
  split
  · rename_i predecessor hmax
    obtain ⟨hmem, hle⟩ := max?_eq_some_iff.mp hmax
    obtain ⟨e, he, hdate, heq⟩ := (mem_predecessors hpositive).mp hmem
    refine .inl ⟨e, he, hdate, fun other hother hotherDate => ?_, by rw [heq], rfl⟩
    rw [heq]
    exact hle _ ((mem_predecessors hpositive).mpr ⟨other, hother, hotherDate, rfl⟩)
  · rename_i hmax
    have hnone := max?_eq_none_iff.mp hmax
    refine .inr ⟨fun e he => Int.not_lt.mp fun hdate => ?_, ?_⟩
    · have hmem := (mem_predecessors hpositive).mpr ⟨e, he, hdate, rfl⟩
      rw [hnone] at hmem
      exact absurd hmem not_mem_nil
    · cases complete with
      | true => exact .inl ⟨rfl, rfl, rfl⟩
      | false => exact .inr ⟨rfl, rfl⟩

end Classify

/-! ## The scan -/

def ActivationScan.Rest (scan : ActivationScan) (post : TelegramEnvelope) : Prop :=
  (∀ snapshot ∈ scan.snapshotToken, post.anchorMessageId ≤ snapshot.head)
    ∧ ∀ token ∈ scan.pageToken, token.Below post

structure ScanInv (channel : List TelegramEnvelope) (boundary : Datetime)
    (scan : ActivationScan) : Prop where
  fresh : scan.snapshotToken = none → scan.pageToken = none ∧ scan.envelopes = []
  within : ∀ snapshot ∈ scan.snapshotToken, Within channel snapshot.head
  scanned : ∀ post ∈ channel, ¬ scan.Rest post → boundary ≤ post.publishedAt
  down : Backlog.DownTo anchorMessageId channel 0 scan.Rest
  kept : ∀ post ∈ scan.envelopes, post ∈ channel ∧ boundary ≤ post.publishedAt
  tail : Backlog.Tail anchorMessageId channel 0 scan.Rest scan.envelopes

/-- The predecessor is the last before the boundary. -/
structure Cut (channel : List TelegramEnvelope) (boundary : Datetime) (predecessor : Int) :
    Prop where
  nonneg : 0 ≤ predecessor
  within : Within channel predecessor
  split : ∀ post ∈ channel, post.anchorMessageId ≤ predecessor ↔ post.publishedAt < boundary

structure Proven (channel : List TelegramEnvelope) (boundary : Datetime) (predecessor : Int)
    (envelopes : List TelegramEnvelope) : Prop where
  cut : Cut channel boundary predecessor
  kept : ∀ post ∈ envelopes, post ∈ channel ∧ boundary ≤ post.publishedAt
  gapless : Backlog.Gapless anchorMessageId channel predecessor envelopes

def ScanOutcome.Sound (channel : List TelegramEnvelope) (boundary : Datetime) : ScanOutcome → Prop
  | .proven predecessor envelopes => Proven channel boundary (predecessor.getD 0) envelopes
  | .unproven scan => ScanInv channel boundary scan

theorem ScanInv.new : ScanInv channel boundary ⟨none, none, [], n, []⟩ where
  fresh _ := ⟨rfl, rfl⟩
  within _ h := by cases h
  scanned _ _ h := absurd ⟨fun _ h => (by cases h), fun _ h => (by cases h)⟩ h
  down _ _ _ _ _ _ _ := ⟨fun _ h => (by cases h), fun _ h => (by cases h)⟩
  kept _ h := absurd h not_mem_nil
  tail := Backlog.Tail.nil

theorem ScanInv.dropped (h : ScanInv channel boundary scan) :
    ScanInv channel boundary { scan with envelopes := [] } where
  fresh hnone := ⟨(h.fresh hnone).1, rfl⟩
  within := h.within
  scanned := h.scanned
  down := h.down
  kept _ hmem := absurd hmem not_mem_nil
  tail := Backlog.Tail.nil

section Page

variable (hchannel : Timeline channel) (h : ScanInv channel boundary scan)
  (hpage : HonestPage channel scan.request result)
  (hpinned : ∀ snapshot ∈ scan.snapshotToken, result.snapshotToken = snapshot)

include hpage hpinned

theorem rest_iff_asks {post : TelegramEnvelope} (hpost : post ∈ channel) :
    scan.Rest post ↔ scan.request.Asks result.snapshotToken.head post := by
  have hhead : scan.request.Bounds result.snapshotToken.head post
      ↔ ∀ snapshot ∈ scan.snapshotToken, post.anchorMessageId ≤ snapshot.head := by
    have hafter : ∀ afterId ∈ scan.request.afterId, afterId < post.anchorMessageId :=
      fun _ hafter => (by cases hafter)
    constructor
    · intro hbounds snapshot hsnapshot
      rw [← hpinned snapshot hsnapshot]
      exact hbounds.2
    · intro hle
      refine ⟨hafter, ?_⟩
      cases hsnapshot : scan.snapshotToken with
      | none => exact hpage.visible hsnapshot post hpost
      | some snapshot =>
        rw [hpinned snapshot hsnapshot]
        exact hle snapshot hsnapshot
  exact and_congr hhead.symm Iff.rfl

include h

theorem DownTo.asks :
    Backlog.DownTo anchorMessageId channel 0 (scan.request.Asks result.snapshotToken.head) := by
  intro y hy hasked x hx hbase hlt
  have hrest := h.down y hy ((rest_iff_asks hpage hpinned hy).mpr hasked) x hx hbase hlt
  exact (rest_iff_asks hpage hpinned hx).mp hrest

theorem Tail.asks :
    Backlog.Tail anchorMessageId channel 0 (scan.request.Asks result.snapshotToken.head)
      scan.envelopes := by
  intro y hy x hx hbase hlt
  exact (h.tail y hy x hx hbase hlt).imp_left (rest_iff_asks hpage hpinned hx).mp

theorem scanned_left {post : TelegramEnvelope} (hpost : post ∈ channel)
    (hnewer : post ∈ result.envelopes → boundary ≤ post.publishedAt)
    (hleft : ¬ (scan.request.Asks result.snapshotToken.head post ∧ post ∉ result.envelopes)) :
    boundary ≤ post.publishedAt := by
  by_cases hasked : scan.request.Asks result.snapshotToken.head post
  · exact hnewer (by_contra fun hread => hleft ⟨hasked, hread⟩)
  · exact h.scanned post hpost fun hrest => hasked ((rest_iff_asks hpage hpinned hpost).mp hrest)

include hchannel

omit h hpinned in
theorem mem_kept {post : TelegramEnvelope} : post ∈ scan.envelopes
        ++ (classifyActivationPage (latestFirst result.envelopes) boundary result.complete).newer
      ↔ post ∈ scan.envelopes ∨ post ∈ result.envelopes ∧ boundary ≤ post.publishedAt := by
  have hpositive : ∀ e ∈ latestFirst result.envelopes, 0 < e.anchorMessageId :=
    fun e he => hchannel.positive e (hpage.asked e (mem_latestFirst.mp he)).1
  rw [mem_append, mem_newer hpositive, mem_latestFirst]

omit hpinned in
theorem kept_newer {post : TelegramEnvelope} (hpost : post ∈ scan.envelopes
      ++ (classifyActivationPage (latestFirst result.envelopes) boundary result.complete).newer) :
    post ∈ channel ∧ boundary ≤ post.publishedAt := by
  rcases (mem_kept hchannel hpage).mp hpost with hold | ⟨hread, hdate⟩
  · exact h.kept post hold
  · exact ⟨(hpage.asked post hread).1, hdate⟩

theorem left_or_read {x y : TelegramEnvelope} (hy : y ∈ scan.envelopes
      ++ (classifyActivationPage (latestFirst result.envelopes) boundary result.complete).newer)
    (hx : x ∈ channel) (hlt : x.anchorMessageId < y.anchorMessageId) :
    (scan.request.Asks result.snapshotToken.head x ∧ x ∉ result.envelopes)
      ∨ x ∈ scan.envelopes ∨ x ∈ result.envelopes := by
  have htail := (Tail.asks h hpage hpinned).append (DownTo.asks h hpage hpinned) hpage.page
  have hread : y ∈ scan.envelopes ++ result.envelopes :=
    mem_append.mpr (((mem_kept hchannel hpage).mp hy).imp_right And.left)
  exact (htail y hread x hx (hchannel.positive x hx) hlt).imp_right mem_append.mp

theorem proven_of_page (hproven : (classifyActivationPage (latestFirst result.envelopes) boundary
      result.complete).boundaryProven = true) :
    Proven channel boundary ((classifyActivationPage (latestFirst result.envelopes) boundary
        result.complete).predecessorId.getD 0)
      (scan.envelopes ++ (classifyActivationPage (latestFirst result.envelopes) boundary
        result.complete).newer) := by
  have hpositive : ∀ e ∈ latestFirst result.envelopes, 0 < e.anchorMessageId :=
    fun e he => hchannel.positive e (hpage.asked e (mem_latestFirst.mp he)).1
  rcases classify_cases hpositive boundary result.complete with
    ⟨last, hlast, hdate, hhighest, hpredecessor, -⟩ | ⟨hall, hcases⟩
  · -- Everything left is older than `last`, and so is what the page has from before the boundary.
    rw [hpredecessor, getD_some]
    have hlastRead := mem_latestFirst.mp hlast
    have hlastChannel := (hpage.asked last hlastRead).1
    refine ⟨⟨Int.le_of_lt (hpositive last hlast), .inr ⟨last, hlastChannel, le_refl _⟩, ?_⟩,
      fun post hpost => kept_newer hchannel h hpage hpost, ?_⟩
    · intro post hpost
      constructor
      · intro hle
        rcases Int.lt_or_eq_of_le hle with hlt | heq
        · exact Int.lt_of_le_of_lt (hchannel.dates post hpost last hlastChannel hlt) hdate
        · rw [hchannel.distinct post hpost last hlastChannel heq]
          exact hdate
      · intro hbefore
        by_contra hgt
        refine absurd (scanned_left h hpage hpinned hpost (fun hread => ?_) fun hleft => ?_)
          (Int.not_le.mpr hbefore)
        · exact absurd (hhighest post (mem_latestFirst.mpr hread) hbefore) hgt
        · exact hgt (Int.le_of_lt ((hpage.older post hpost hleft.1 hleft.2).2 last hlastRead))
    · intro y hy x hx hlt
      rcases left_or_read hchannel h hpage hpinned hy hx hlt with hleft | hold | hread
      · exact .inl (Int.le_of_lt ((hpage.older x hx hleft.1 hleft.2).2 last hlastRead))
      · exact .inr ((mem_kept hchannel hpage).mpr (.inl hold))
      · by_cases hxdate : boundary ≤ x.publishedAt
        · exact .inr ((mem_kept hchannel hpage).mpr (.inr ⟨hread, hxdate⟩))
        · exact .inl (hhighest x (mem_latestFirst.mpr hread) (Int.not_le.mp hxdate))
  · rcases hcases with ⟨hcomplete, hpredecessor, -⟩ | ⟨-, hunproven⟩
    · -- Nothing is left, and nothing was published before the boundary.
      have hleft : ∀ post ∈ channel, ¬ (scan.request.Asks result.snapshotToken.head post
          ∧ post ∉ result.envelopes) := by
        intro post hpost hleft
        have hincomplete := (hpage.older post hpost hleft.1 hleft.2).1
        rw [hcomplete] at hincomplete
        cases hincomplete
      rw [hpredecessor, getD_some]
      refine ⟨⟨le_refl _, .inl (le_refl _), fun post hpost => ?_⟩,
        fun post hpost => kept_newer hchannel h hpage hpost, ?_⟩
      · have hafter := scanned_left h hpage hpinned hpost
          (fun hread => hall post (mem_latestFirst.mpr hread)) (hleft post hpost)
        have hpos := hchannel.positive post hpost
        exact ⟨fun hle => absurd hpos (Int.not_lt.mpr hle),
          fun hbefore => absurd hafter (Int.not_le.mpr hbefore)⟩
      · intro y hy x hx hlt
        rcases left_or_read hchannel h hpage hpinned hy hx hlt with hrest | hold | hread
        · exact absurd hrest (hleft x hx)
        · exact .inr ((mem_kept hchannel hpage).mpr (.inl hold))
        · exact .inr ((mem_kept hchannel hpage).mpr
            (.inr ⟨hread, hall x (mem_latestFirst.mpr hread)⟩))
    · rw [hunproven] at hproven
      cases hproven

theorem scanInv_of_page {token : PageToken} {lastScanned : Int}
    (hproven : (classifyActivationPage (latestFirst result.envelopes) boundary
      result.complete).boundaryProven = false)
    (htoken : result.nextPageToken = some token) :
    ScanInv channel boundary ⟨some result.snapshotToken, some token,
      scan.seenPageTokens ++ [scan.pageToken], lastScanned,
      scan.envelopes ++ (classifyActivationPage (latestFirst result.envelopes) boundary
        result.complete).newer⟩ := by
  have hpositive : ∀ e ∈ latestFirst result.envelopes, 0 < e.anchorMessageId :=
    fun e he => hchannel.positive e (hpage.asked e (mem_latestFirst.mp he)).1
  have hall : ∀ e ∈ result.envelopes, boundary ≤ e.publishedAt := by
    rcases classify_cases hpositive boundary result.complete with
      ⟨last, -, -, -, -, htrue⟩ | ⟨hall, -⟩
    · rw [htrue] at hproven
      cases hproven
    · exact fun e he => hall e (mem_latestFirst.mpr he)
  -- The next token stands for what the page was asked for and does not have.
  have hrest : ∀ post ∈ channel,
      ((∀ snapshot ∈ some result.snapshotToken, post.anchorMessageId ≤ snapshot.head)
        ∧ ∀ next ∈ some token, next.Below post)
      ↔ scan.request.Asks result.snapshotToken.head post ∧ post ∉ result.envelopes := by
    intro post hpost
    constructor
    · intro ⟨hhead, hbelow⟩
      exact (hpage.token token htoken post hpost
        ⟨fun _ hafter => (by cases hafter), hhead _ rfl⟩).mp (hbelow token rfl)
    · intro hleft
      refine ⟨fun snapshot hsnapshot => ?_, fun next hnext => ?_⟩
      · rw [← Option.some.inj hsnapshot]
        exact hleft.1.1.2
      · rw [← Option.some.inj hnext]
        exact (hpage.token token htoken post hpost hleft.1.1).mpr hleft
  have hdown := (DownTo.asks h hpage hpinned).left hpage.page
  refine ⟨fun hnone => (by cases hnone), fun snapshot hsnapshot => ?_, fun post hpost hpast => ?_,
    fun y hy hyRest x hx hbase hlt => ?_,
    fun post hpost => kept_newer hchannel h hpage hpost, fun y hy x hx hbase hlt => ?_⟩
  · rw [← Option.some.inj hsnapshot]
    cases hfirst : scan.snapshotToken with
    | none => exact hpage.within hfirst
    | some pinned =>
      rw [hpinned pinned hfirst]
      exact h.within pinned hfirst
  · exact scanned_left h hpage hpinned hpost (hall post)
      fun hleft => hpast ((hrest post hpost).mpr hleft)
  · exact (hrest x hx).mpr (hdown y hy ((hrest y hy).mp hyRest) x hx hbase hlt)
  · rcases left_or_read hchannel h hpage hpinned hy hx hlt with hleft | hold | hread
    · exact .inl ((hrest x hx).mpr hleft)
    · exact .inr ((mem_kept hchannel hpage).mpr (.inl hold))
    · exact .inr ((mem_kept hchannel hpage).mpr (.inr ⟨hread, hall x hread⟩))

end Page

theorem nextActivationPageToken_ok {current : Option PageToken} {seen : List (Option PageToken)}
    {ordered : List TelegramEnvelope} {token : PageToken}
    (h : nextActivationPageToken result current seen ordered = .ok token) :
    result.nextPageToken = some token := by
  rw [nextActivationPageToken] at h
  split at h
  · cases h
  · split at h
    · cases h
    · rename_i next hnext
      split at h
      · cases h
      · rw [hnext, Except.ok.inj h]

/-- **One page keeps what is known of the scan, or proves the boundary.** -/
theorem ActivationScan.page_sound {fetch : TelegramFetch} {outcome : ScanOutcome}
    (hchannel : Timeline channel) (h : ScanInv channel boundary scan)
    (hhonest : ∀ result, fetch scan.request = .ok result → HonestPage channel scan.request result)
    (hok : scan.page fetch boundary = .ok outcome) : outcome.Sound channel boundary := by
  rw [ActivationScan.page] at hok
  split at hok
  · cases hok
  · split at hok
    · cases hok
    · rename_i result hfetch
      have hpage := hhonest result hfetch
      unfold ActivationScan.read at hok
      split at hok
      · cases hok
      · rename_i hsame
        have hpinned : ∀ snapshot ∈ scan.snapshotToken, result.snapshotToken = snapshot := by
          intro snapshot hsnapshot
          by_contra hne
          rw [mem_def] at hsnapshot
          refine hsame ⟨by rw [hsnapshot]; rfl, fun heq => hne ?_⟩
          rw [hsnapshot] at heq
          exact Option.some.inj heq
        dsimp only at hok
        split at hok
        · cases hok
        · split at hok
          · rename_i hproven
            cases hok
            exact proven_of_page hchannel h hpage hpinned hproven
          · rename_i hproven
            split at hok
            · cases hok
            · rename_i token htoken
              cases hok
              exact scanInv_of_page hchannel h hpage hpinned (Bool.eq_false_iff.mpr hproven)
                (nextActivationPageToken_ok htoken)

/-! ## Arrivals -/

/-- A post that comes is above every other, and not from before the boundary. -/
structure Arrives (channel : List TelegramEnvelope) (boundary : Datetime)
    (post : TelegramEnvelope) : Prop where
  positive : 0 < post.anchorMessageId
  above : ∀ other ∈ channel, other.anchorMessageId < post.anchorMessageId
  date : boundary ≤ post.publishedAt

section Arrive

variable {post : TelegramEnvelope} (harrives : Arrives channel boundary post)

include harrives

theorem ScanInv.arrive (h : ScanInv channel boundary scan) :
    ScanInv (post :: channel) boundary scan where
  fresh := h.fresh
  within snapshot hsnapshot := (h.within snapshot hsnapshot).mono
  scanned other hother hpast := by
    rcases mem_cons.mp hother with heq | hother
    · rw [heq]
      exact harrives.date
    · exact h.scanned other hother hpast
  down := by
    refine h.down.arrive harrives.above fun hrest x hx _ => ?_
    cases hsnapshot : scan.snapshotToken with
    | none =>
      refine ⟨fun snapshot hmem => ?_, fun token htoken => ?_⟩
      · rw [hsnapshot] at hmem
        cases hmem
      · rw [(h.fresh hsnapshot).1] at htoken
        cases htoken
    | some snapshot =>
      have hlt := (h.within snapshot hsnapshot).lt harrives.positive harrives.above
      exact absurd (hrest.1 snapshot hsnapshot) (Int.not_le.mpr hlt)
  kept other hother := (h.kept other hother).imp_left (mem_cons_of_mem _)
  tail := h.tail.arrive fun other hother => harrives.above other (h.kept other hother).1

theorem Cut.arrive {predecessor : Int} (h : Cut channel boundary predecessor) :
    Cut (post :: channel) boundary predecessor where
  nonneg := h.nonneg
  within := h.within.mono
  split other hother := by
    rcases mem_cons.mp hother with heq | hother
    · rw [heq]
      exact iff_of_false (Int.not_le.mpr (h.within.lt harrives.positive harrives.above))
        (Int.not_lt.mpr harrives.date)
    · exact h.split other hother

theorem Proven.arrive {predecessor : Int} {envelopes : List TelegramEnvelope}
    (h : Proven channel boundary predecessor envelopes) :
    Proven (post :: channel) boundary predecessor envelopes where
  cut := h.cut.arrive harrives
  kept other hother := (h.kept other hother).imp_left (mem_cons_of_mem _)
  gapless := h.gapless.arrive fun other hother => harrives.above other (h.kept other hother).1

end Arrive

end NewsCraft.Telegram
