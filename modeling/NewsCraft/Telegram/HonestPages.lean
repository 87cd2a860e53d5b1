import NewsCraft.Lib.Backlog
import NewsCraft.Telegram.ForwardStep

/-!
# Pages of a channel

What a page has to be for the scans over it to be right: it has the highest of what was
asked for, and the next token stands for the others. A page that is fetched again has
everything that was asked for, up to what was captured before.
-/

namespace NewsCraft.Telegram

open Lib Jobs List
open TelegramEnvelope (anchorMessageId)

/-! ## What is asked for -/

/-- The posts a page token stands for: what is left of a post is below it, or was held back. -/
def PageToken.Below (token : PageToken) (post : TelegramEnvelope) : Prop :=
  ∃ id ∈ post.messageIds, id < token.before ∨ id ∈ token.pendingGroupIds

instance (token : PageToken) (post : TelegramEnvelope) : Decidable (token.Below post) :=
  inferInstanceAs (Decidable (∃ _ ∈ _, _))

namespace TelegramFetchRequest

/-- Above the cursor of the request and not above the head. -/
def Bounds (request : TelegramFetchRequest) (head : Int) (post : TelegramEnvelope) : Prop :=
  (∀ afterId ∈ request.afterId, afterId < post.anchorMessageId) ∧ post.anchorMessageId ≤ head

def Asks (request : TelegramFetchRequest) (head : Int) (post : TelegramEnvelope) : Prop :=
  request.Bounds head post ∧ ∀ token ∈ request.pageToken, token.Below post

instance (request : TelegramFetchRequest) (head : Int) (post : TelegramEnvelope) :
    Decidable (request.Bounds head post) :=
  inferInstanceAs (Decidable (_ ∧ _))

instance (request : TelegramFetchRequest) (head : Int) (post : TelegramEnvelope) :
    Decidable (request.Asks head post) :=
  inferInstanceAs (Decidable (_ ∧ _))

end TelegramFetchRequest

/-- Nothing that comes later is below `n`. -/
def Within (channel : List TelegramEnvelope) (n : Int) : Prop :=
  n ≤ 0 ∨ ∃ post ∈ channel, n ≤ post.anchorMessageId

instance (channel : List TelegramEnvelope) (n : Int) : Decidable (Within channel n) :=
  inferInstanceAs (Decidable (_ ∨ _))

/-- A page with the highest of what was asked for; the next token stands for the others. -/
structure HonestPage (channel : List TelegramEnvelope) (request : TelegramFetchRequest)
    (result : TelegramFetchResult) : Prop where
  within : request.snapshotToken = none → Within channel result.snapshotToken.head
  visible : request.snapshotToken = none →
    ∀ post ∈ channel, post.anchorMessageId ≤ result.snapshotToken.head
  asked : ∀ post ∈ result.envelopes, post ∈ channel ∧ request.Asks result.snapshotToken.head post
  older : ∀ post ∈ channel, request.Asks result.snapshotToken.head post →
    post ∉ result.envelopes → result.complete = false
      ∧ ∀ read ∈ result.envelopes, post.anchorMessageId < read.anchorMessageId
  token : ∀ token ∈ result.nextPageToken, ∀ post ∈ channel,
    request.Bounds result.snapshotToken.head post → (token.Below post
        ↔ request.Asks result.snapshotToken.head post ∧ post ∉ result.envelopes)

/-- A page with all that was asked for, except for what is captured. -/
structure ReplayedPage (channel : List TelegramEnvelope) (request : TelegramFetchRequest)
    (lastCapturedId : Int) (result : TelegramFetchResult) : Prop where
  asked : ∀ post ∈ result.envelopes, post ∈ channel ∧ request.Asks result.snapshotToken.head post
  left : ∀ post ∈ channel, request.Asks result.snapshotToken.head post →
    post ∉ result.envelopes → post.anchorMessageId ≤ lastCapturedId

instance (channel : List TelegramEnvelope) (request : TelegramFetchRequest)
    (result : TelegramFetchResult) : Decidable (HonestPage channel request result) :=
  decidable_of_iff ((request.snapshotToken = none → Within channel result.snapshotToken.head)
      ∧ (request.snapshotToken = none →
        ∀ post ∈ channel, post.anchorMessageId ≤ result.snapshotToken.head)
      ∧ (∀ post ∈ result.envelopes, post ∈ channel ∧ request.Asks result.snapshotToken.head post)
      ∧ (∀ post ∈ channel, request.Asks result.snapshotToken.head post →
        post ∉ result.envelopes → result.complete = false
          ∧ ∀ read ∈ result.envelopes, post.anchorMessageId < read.anchorMessageId)
      ∧ ∀ token ∈ result.nextPageToken, ∀ post ∈ channel,
        request.Bounds result.snapshotToken.head post → (token.Below post
            ↔ request.Asks result.snapshotToken.head post ∧ post ∉ result.envelopes))
    ⟨fun h => ⟨h.1, h.2.1, h.2.2.1, h.2.2.2.1, h.2.2.2.2⟩,
      fun h => ⟨h.within, h.visible, h.asked, h.older, h.token⟩⟩

instance (channel : List TelegramEnvelope) (request : TelegramFetchRequest)
    (lastCapturedId : Int) (result : TelegramFetchResult) :
    Decidable (ReplayedPage channel request lastCapturedId result) :=
  decidable_of_iff ((∀ post ∈ result.envelopes,
        post ∈ channel ∧ request.Asks result.snapshotToken.head post)
      ∧ ∀ post ∈ channel, request.Asks result.snapshotToken.head post →
        post ∉ result.envelopes → post.anchorMessageId ≤ lastCapturedId)
    ⟨fun h => ⟨h.1, h.2⟩, fun h => ⟨h.asked, h.left⟩⟩

/-! ## The channel -/

/-- A channel whose posts follow each other: the anchors tell them apart and order them by
date. -/
structure Timeline (channel : List TelegramEnvelope) : Prop where
  anchor : ∀ post ∈ channel, post.messageIds.max? = some post.anchorMessageId
  positive : ∀ post ∈ channel, 0 < post.anchorMessageId
  dates : ∀ post ∈ channel, ∀ other ∈ channel,
    post.anchorMessageId < other.anchorMessageId → post.publishedAt ≤ other.publishedAt
  distinct : ∀ post ∈ channel, ∀ other ∈ channel,
    post.anchorMessageId = other.anchorMessageId → post = other
  keys : ∀ post ∈ channel, ∀ other ∈ channel, post.sourceKey = other.sourceKey → post = other

variable {channel : List TelegramEnvelope}

theorem Within.mono {post : TelegramEnvelope} {n : Int} (h : Within channel n) :
    Within (post :: channel) n := by
  rcases h with hzero | ⟨other, hother, hle⟩
  · exact .inl hzero
  · exact .inr ⟨other, mem_cons_of_mem _ hother, hle⟩

theorem Within.lt {post : TelegramEnvelope} {n : Int} (h : Within channel n)
    (hpositive : 0 < post.anchorMessageId)
    (habove : ∀ other ∈ channel, other.anchorMessageId < post.anchorMessageId) :
    n < post.anchorMessageId := by
  rcases h with hzero | ⟨other, hother, hle⟩
  · omega
  have hlt := habove other hother
  omega

theorem Timeline.anchor_le_of_coordinateLe (h : Timeline channel) {a b : TelegramEnvelope}
    (ha : a ∈ channel) (hb : b ∈ channel) (hle : coordinateLe a b) :
    a.anchorMessageId ≤ b.anchorMessageId := by
  rcases hle with hdate | ⟨-, hanchor⟩
  · by_contra hlt
    have hdates := h.dates b hb a ha (Int.not_le.mp hlt)
    exact absurd hdate (Int.not_lt.mpr hdates)
  · exact hanchor

/-! ## One envelope for each source key -/

section SetKey

variable {κ β : Type} [DecidableEq κ] {key : κ} {value : β} {entry : κ × β} {entries : List (κ × β)}

theorem mem_setKey (h : entry ∈ setKey key value entries) :
    entry = (key, value) ∨ entry ∈ entries := by
  induction entries with
  | nil => exact .inl (mem_singleton.mp h)
  | cons first rest ih =>
    rw [setKey] at h
    split at h
    · rcases mem_cons.mp h with heq | hrest
      · exact .inl heq
      · exact .inr (mem_cons_of_mem _ hrest)
    · rcases mem_cons.mp h with heq | hrest
      · exact .inr (mem_cons.mpr (.inl heq))
      · exact (ih hrest).imp_right (mem_cons_of_mem _)

theorem mem_setKey_self : (key, value) ∈ setKey key value entries := by
  induction entries with
  | nil => exact mem_singleton.mpr rfl
  | cons first rest ih =>
    rw [setKey]
    split
    · exact mem_cons_self
    · exact mem_cons_of_mem _ ih

theorem mem_setKey_of_ne (h : entry ∈ entries) (hne : entry.1 ≠ key) :
    entry ∈ setKey key value entries := by
  induction entries with
  | nil => cases h
  | cons first rest ih =>
    rw [setKey]
    split
    · rename_i hkey
      rcases mem_cons.mp h with heq | hrest
      · rw [heq] at hne
        exact absurd hkey hne
      · exact mem_cons_of_mem _ hrest
    · rcases mem_cons.mp h with heq | hrest
      · rw [heq]
        exact mem_cons_self
      · exact mem_cons_of_mem _ (ih hrest)

end SetKey

variable {envelopes : List TelegramEnvelope}

theorem mem_bySourceKey {x : TelegramEnvelope}
    (hkeys : ∀ a ∈ envelopes, ∀ b ∈ envelopes, a.sourceKey = b.sourceKey → a = b)
    (found : List (String × TelegramEnvelope))
    (hfound : ∀ entry ∈ found, ∀ a ∈ envelopes, entry.1 = a.sourceKey → entry.2 = a) :
    x ∈ (envelopes.foldl (fun found item => setKey item.sourceKey item found) found).map Prod.snd
      ↔ x ∈ envelopes ∨ x ∈ found.map Prod.snd := by
  induction envelopes generalizing found with
  | nil => simp
  | cons first rest ih =>
    have hrest := fun a ha b hb => hkeys a (mem_cons_of_mem _ ha) b (mem_cons_of_mem _ hb)
    rw [foldl_cons, ih hrest]
    · constructor
      · intro h
        rcases h with hx | hx
        · exact .inl (mem_cons_of_mem _ hx)
        obtain ⟨entry, hentry, rfl⟩ := mem_map.mp hx
        rcases mem_setKey hentry with heq | hold
        · rw [heq]
          exact .inl mem_cons_self
        · exact .inr (mem_map_of_mem hold)
      · intro h
        rcases h with hx | hx
        · rcases mem_cons.mp hx with heq | hx
          · rw [heq]
            exact .inr (mem_map.mpr ⟨_, mem_setKey_self, rfl⟩)
          · exact .inl hx
        · obtain ⟨entry, hentry, rfl⟩ := mem_map.mp hx
          by_cases hkey : entry.1 = first.sourceKey
          · rw [hfound entry hentry first mem_cons_self hkey]
            exact .inr (mem_map.mpr ⟨_, mem_setKey_self, rfl⟩)
          · exact .inr (mem_map_of_mem (mem_setKey_of_ne hentry hkey))
    · intro entry hentry a ha hkey
      rcases mem_setKey hentry with heq | hold
      · rw [heq] at hkey ⊢
        exact hkeys first mem_cons_self a (mem_cons_of_mem _ ha) hkey
      · exact hfound entry hold a (mem_cons_of_mem _ ha) hkey

theorem Timeline.mem_coordinateOrder (h : Timeline channel) (hmem : ∀ e ∈ envelopes, e ∈ channel)
    {x : TelegramEnvelope} : x ∈ coordinateOrder envelopes ↔ x ∈ envelopes := by
  have hkeys := fun a ha b hb => h.keys a (hmem a ha) b (hmem b hb)
  rw [coordinateOrder, mem_insertionSort, mem_bySourceKey hkeys [] (by simp)]
  simp

theorem Timeline.pairwise_coordinateOrder (h : Timeline channel)
    (hmem : ∀ e ∈ envelopes, e ∈ channel) :
    (coordinateOrder envelopes).Pairwise fun a b => a.anchorMessageId ≤ b.anchorMessageId := by
  have hsorted : (coordinateOrder envelopes).Pairwise coordinateLe := by
    have : Std.Total coordinateLe := ⟨coordinateLe_total⟩
    have : IsTrans TelegramEnvelope coordinateLe := ⟨coordinateLe_trans⟩
    exact pairwise_insertionSort coordinateLe _
  refine hsorted.imp_of_mem fun ha hb hle => ?_
  exact h.anchor_le_of_coordinateLe (hmem _ ((h.mem_coordinateOrder hmem).mp ha))
    (hmem _ ((h.mem_coordinateOrder hmem).mp hb)) hle

end NewsCraft.Telegram
