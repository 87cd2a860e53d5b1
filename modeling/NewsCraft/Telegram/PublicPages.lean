import Mathlib.Data.List.Dedup
import NewsCraft.Lib.Paging
import NewsCraft.Telegram.PublicHtml

/-!
# Reading the public page to its end

The pages of `t.me/s/<channel>` are followed until one is taken for the last: one with fewer
than twenty blocks that can be read, or with a post at or before a bound. A page of albums
is shorter than that, dates need not follow ids, and the next page begins below the posts
selected by date. A reading is complete exactly if none of its pages goes wrong so.
-/

namespace NewsCraft.Telegram.PublicPages

open Lib Lib.Paging Jobs List
open PublicHtml (transportPageSize snapshotHead)

/-! ## Blocks -/

/-- A `.tgme_widget_message` of the page, with what is read from it. -/
structure Post where
  /-- The number the channel orders its posts by. -/
  id : Int
  /-- `data-post` around its last slash; the second part as `int` reads it. -/
  dataPost : Option (String × Option Int)
  /-- The numbers among the `data-message-id` in the block. -/
  members : List Int
  groupedId : Option String
  text : String
  html : Option String
  entities : List Json
  publishedAt : Option Datetime
  /-- The media, each with the digest of its address. -/
  media : List (String × TelegramMediaKind)
  deriving DecidableEq

/-- `ParsedSourceItem`, with what an envelope is made of. -/
structure ParsedItem where
  messageId : Int
  messageIds : List Int
  post : Post

/-- `_message_ids`. -/
def messageIds (post : Post) (dataPostMessageId : Int) : List Int :=
  let ids := post.members.foldl (fun ids id => if id ∈ ids then ids else ids ++ [id]) []
  if dataPostMessageId ∈ ids then ids else ids ++ [dataPostMessageId]

/-- `_parse_message`. -/
def parseMessage (channel : String) (post : Post) : Option ParsedItem :=
  match post.dataPost with
  | some (postChannel, some dataPostMessageId) =>
    if postChannel ≠ channel then none
    else
      let ids := messageIds post dataPostMessageId
      some ⟨ids.max?.getD dataPostMessageId, ids, post⟩
  | _ => none

/-- `_parsed_item_to_envelope`, of an item with a date. -/
def parsedItemToEnvelope (channel : String) (item : ParsedItem) : Option TelegramEnvelope :=
  item.post.publishedAt.map fun publishedAt =>
    { sourceKey := match item.post.groupedId with
        | some groupedId => channel ++ ":album:" ++ groupedId
        | none => channel ++ ":message:" ++ toString item.messageId
      peerId := channel
      anchorMessageId := item.messageId
      messageIds := item.messageIds
      text := item.post.text
      html := item.post.html
      entities := item.post.entities
      publishedAt := publishedAt
      media := item.post.media.zipIdx.map fun candidate =>
        ⟨channel ++ ":" ++ toString item.messageId ++ ":" ++ toString candidate.2 ++ ":"
          ++ candidate.1.1, candidate.1.2⟩ }

/-- What a block becomes, if it is read and has a date. -/
def envelopeOf (channel : String) (post : Post) : Option TelegramEnvelope :=
  (parseMessage channel post).bind (parsedItemToEnvelope channel)

/-! ## The channel -/

/-- A post is below the id that is asked for, if any is. -/
def Post.Below (before : Option Int) (post : Post) : Prop := ∀ id ∈ before, post.id < id

instance (before : Option Int) (post : Post) : Decidable (post.Below before) :=
  match before with
  | none => .isTrue (fun _ h => nomatch h)
  | some id => decidable_of_iff (post.id < id) (by simp [Post.Below])

/-- A channel, and how it is served: the newest posts below an id, some of them at least. -/
structure Channel where
  name : String
  posts : List Post
  page : Option Int → List Post
  numbered : ∀ post ∈ posts, ∀ id, post.dataPost = some (name, some id) → id = post.id
  /-- A message belongs to one post. -/
  disjoint : ∀ post ∈ posts, ∀ other ∈ posts, ∀ a b, envelopeOf name post = some a →
    envelopeOf name other = some b → ∀ id ∈ a.messageIds, id ∈ b.messageIds → post = other
  nodup : ∀ before, (page before).Nodup
  shown : ∀ before, ∀ post ∈ page before, post ∈ posts ∧ post.Below before
  newest : ∀ before, ∀ post ∈ page before, ∀ other ∈ posts, other.Below before →
    post.id < other.id → other ∈ page before
  some_shown : ∀ before, (∃ post ∈ posts, post.Below before) → page before ≠ []

/-! ## The adapter -/

/-- A request that may come with the boundary of an activation. -/
structure PublicFetchRequest extends TelegramFetchRequest where
  activationBoundaryAt : Option Datetime

/-- `_within_bounds`. -/
def WithinBounds (request : PublicFetchRequest) (envelope : TelegramEnvelope) : Prop :=
  (∀ afterId ∈ request.afterId, afterId < envelope.anchorMessageId)
    ∧ (∀ beforeId ∈ request.beforeId, envelope.anchorMessageId < beforeId)
    ∧ (∀ since ∈ request.since, since ≤ envelope.publishedAt)
    ∧ ∀ boundary ∈ request.activationBoundaryAt, boundary < envelope.publishedAt

instance (request : PublicFetchRequest) : DecidablePred (WithinBounds request) :=
  fun _ => inferInstanceAs (Decidable (_ ∧ _ ∧ _ ∧ _))

/-- `_boundary_proven`. -/
def boundaryProven (envelopes : List TelegramEnvelope) (request : PublicFetchRequest) : Bool :=
  match request.activationBoundaryAt, request.afterId, request.since with
  | some boundary, _, _ => envelopes.any fun item => item.publishedAt ≤ boundary
  | none, some afterId, _ => envelopes.any fun item => item.anchorMessageId ≤ afterId
  | none, none, some since => envelopes.any fun item => item.publishedAt < since
  | none, none, none => false

section Fetch

variable (C : Channel) (request : PublicFetchRequest)

def before : Option Int := (request.pageToken.map PageToken.before).or request.beforeId

/-- `parsed.items`. -/
def parsedItems : List ParsedItem := (C.page (before request)).filterMap (parseMessage C.name)

def rawEnvelopes : List TelegramEnvelope :=
  (parsedItems C request).filterMap (parsedItemToEnvelope C.name)

def head : Int := snapshotHead request.snapshotToken (rawEnvelopes C request)

def pinned : List TelegramEnvelope :=
  (rawEnvelopes C request).filter fun item => item.anchorMessageId ≤ head C request

def filtered : List TelegramEnvelope :=
  (pinned C request).filter fun item => WithinBounds request item

def selected : List TelegramEnvelope :=
  ((latestFirst (filtered C request)).take request.limit).insertionSort coordinateLe

/-- `complete`, of `fetch`. -/
def complete : Bool :=
  let hasBufferedEnvelopes := (selected C request).length < (filtered C request).length
  let remoteExhausted := (parsedItems C request).length < transportPageSize
  (remoteExhausted ∨ boundaryProven (pinned C request) request = true) ∧ ¬hasBufferedEnvelopes

/-- `PublicHtmlTelegramAdapter.fetch`. The error is that of `min` on nothing. -/
def fetch : Except HandlerError TelegramFetchResult :=
  let result (nextPageToken : Option PageToken) : TelegramFetchResult :=
    ⟨selected C request, ⟨head C request⟩, nextPageToken, complete C request⟩
  if complete C request = true ∨ rawEnvelopes C request = [] then
    .ok (result none)
  else
    let cursorEnvelopes :=
      if selected C request = [] then pinned C request else selected C request
    match (cursorEnvelopes.flatMap TelegramEnvelope.messageIds).min? with
    | none => .error (.permanent "ValueError" "min() iterable argument is empty")
    | some beforeNext => .ok (result (some ⟨beforeNext, head C request, []⟩))

end Fetch

/-! ## Ids -/

theorem id_mem_messageIds (post : Post) (id : Int) : id ∈ messageIds post id := by
  unfold messageIds
  dsimp only
  split_ifs with h
  · exact h
  · exact mem_append_right _ mem_cons_self

theorem ids_of_envelopeOf {C : Channel} {post : Post} {e : TelegramEnvelope}
    (hpost : post ∈ C.posts) (h : envelopeOf C.name post = some e) :
    e.anchorMessageId ∈ e.messageIds ∧ post.id ∈ e.messageIds ∧ post.id ≤ e.anchorMessageId := by
  obtain ⟨item, hparse, henvelope⟩ := Option.bind_eq_some_iff.mp h
  unfold parseMessage at hparse
  split at hparse
  · rename_i postChannel id hdata
    split_ifs at hparse with hchannel
    cases hparse
    rw [not_not] at hchannel
    rw [hchannel] at hdata
    obtain rfl := C.numbered post hpost id hdata
    obtain ⟨publishedAt, -, rfl⟩ := Option.map_eq_some_iff.mp henvelope
    have hmem := id_mem_messageIds post post.id
    cases hmax : (messageIds post post.id).max? with
    | none =>
      rw [max?_eq_none_iff] at hmax
      rw [hmax] at hmem
      cases hmem
    | some anchor =>
      obtain ⟨hanchor, hle⟩ := max?_eq_some_iff.mp hmax
      exact ⟨hanchor, hmem, hle _ hmem⟩
  · cases hparse

section Envelopes

variable {C : Channel} {request : PublicFetchRequest} {e : TelegramEnvelope} {post : Post}

theorem rawEnvelopes_eq :
    rawEnvelopes C request = (C.page (before request)).filterMap (envelopeOf C.name) := by
  unfold rawEnvelopes parsedItems
  rw [filterMap_filterMap]
  rfl

theorem mem_rawEnvelopes_iff (hpost : post ∈ C.posts) (h : envelopeOf C.name post = some e) :
    e ∈ rawEnvelopes C request ↔ post ∈ C.page (before request) := by
  rw [rawEnvelopes_eq, mem_filterMap]
  constructor
  · intro hmem
    obtain ⟨other, hother, hsame⟩ := hmem
    have hanchor := (ids_of_envelopeOf hpost h).1
    rw [C.disjoint post hpost other (C.shown _ other hother).1 e e h hsame _ hanchor hanchor]
    exact hother
  · intro hpage
    exact ⟨post, hpage, h⟩

theorem exists_post (h : e ∈ rawEnvelopes C request) :
    ∃ post ∈ C.posts, post.Below (before request) ∧ envelopeOf C.name post = some e := by
  rw [rawEnvelopes_eq, mem_filterMap] at h
  obtain ⟨post, hpage, henvelope⟩ := h
  exact ⟨post, (C.shown _ post hpage).1, (C.shown _ post hpage).2, henvelope⟩

theorem mem_filtered_iff : e ∈ filtered C request ↔ e ∈ rawEnvelopes C request
      ∧ e.anchorMessageId ≤ head C request ∧ WithinBounds request e := by
  simp only [filtered, pinned, mem_filter, decide_eq_true_eq, and_assoc]

theorem filtered_sublist : (filtered C request).Sublist (rawEnvelopes C request) :=
  filter_sublist.trans filter_sublist

theorem pairwise_anchor :
    (filtered C request).Pairwise fun a b => a.anchorMessageId ≠ b.anchorMessageId := by
  refine List.Pairwise.sublist filtered_sublist ?_
  rw [rawEnvelopes_eq, pairwise_filterMap]
  refine (C.nodup (before request)).imp_of_mem ?_
  intro post other hpost hother hne a ha b hb hanchor
  have hposts := (C.shown _ post hpost).1
  have hothers := (C.shown _ other hother).1
  have hmem := (ids_of_envelopeOf hothers hb).1
  rw [← hanchor] at hmem
  exact hne (C.disjoint post hposts other hothers a b ha hb _ (ids_of_envelopeOf hposts ha).1 hmem)

/-! ## What is selected -/

/-- `a` comes after `b`, by date and then by id. -/
def Later (a b : TelegramEnvelope) : Prop := ¬coordinateLe a b

instance : DecidableRel Later := fun _ _ => inferInstanceAs (Decidable (¬_))

/-- As many posts as are asked for come after this one. -/
def HeldBack (C : Channel) (request : PublicFetchRequest) (e : TelegramEnvelope) : Prop :=
  request.limit ≤ ((filtered C request).filter fun other => Later other e).length

instance : Decidable (HeldBack C request e) := inferInstanceAs (Decidable (_ ≤ _))

theorem later_asymm (a b : TelegramEnvelope) (h : Later a b) : ¬Later b a := by
  intro hba
  rcases coordinateLe_total a b with hle | hle
  · exact h hle
  · exact hba hle

theorem later_of_coordinateLe {a b : TelegramEnvelope} (h : coordinateLe b a)
    (hne : a.anchorMessageId ≠ b.anchorMessageId) : Later a b := by
  intro hle
  rcases h with hlt | ⟨hdate, hanchor⟩
  · rcases hle with hlt' | ⟨hdate', -⟩
    · exact absurd (Int.lt_trans hlt hlt') (Int.lt_irrefl _)
    rw [hdate'] at hlt
    exact absurd hlt (Int.lt_irrefl _)
  · rcases hle with hlt' | ⟨-, hanchor'⟩
    · rw [hdate] at hlt'
      exact absurd hlt' (Int.lt_irrefl _)
    · exact hne (Int.le_antisymm hanchor' hanchor)

theorem pairwise_latestFirst : (latestFirst (filtered C request)).Pairwise Later := by
  have _ : Std.Total fun a b : TelegramEnvelope => coordinateLe b a :=
    ⟨fun a b => coordinateLe_total b a⟩
  have _ : IsTrans TelegramEnvelope fun a b => coordinateLe b a :=
    ⟨fun a b c hab hbc => coordinateLe_trans c b a hbc hab⟩
  have hsorted := pairwise_insertionSort (fun a b : TelegramEnvelope => coordinateLe b a)
    (filtered C request)
  have hperm := perm_insertionSort (fun a b : TelegramEnvelope => coordinateLe b a)
    (filtered C request)
  have hanchors : (latestFirst (filtered C request)).Pairwise
      fun a b => a.anchorMessageId ≠ b.anchorMessageId :=
    (hperm.pairwise_iff (fun hne heq => hne heq.symm)).mpr pairwise_anchor
  exact List.Pairwise.imp₂ (fun _ _ hle hne => later_of_coordinateLe hle hne) hsorted hanchors

/-- **The selected posts** are those that fewer than `limit` others come after. -/
theorem mem_selected_iff :
    e ∈ selected C request ↔ e ∈ filtered C request ∧ ¬HeldBack C request e := by
  have hperm := perm_insertionSort (fun a b : TelegramEnvelope => coordinateLe b a)
    (filtered C request)
  unfold selected
  rw [mem_insertionSort]
  by_cases hmem : e ∈ filtered C request
  · have hsorted : e ∈ latestFirst (filtered C request) := hperm.mem_iff.mpr hmem
    have hcount : ((latestFirst (filtered C request)).filter fun other => Later other e).length
        = ((filtered C request).filter fun other => Later other e).length :=
      (hperm.filter _).length_eq
    rw [mem_take_iff pairwise_latestFirst later_asymm hsorted, hcount, HeldBack]
    constructor
    · intro hlt
      exact ⟨hmem, Nat.not_le.mpr hlt⟩
    · intro h
      exact Nat.not_le.mp h.2
  · constructor
    · intro htake
      exact absurd (hperm.mem_iff.mp (mem_of_mem_take htake)) hmem
    · intro h
      exact absurd h.1 hmem

theorem length_selected_lt_iff : (selected C request).length < (filtered C request).length
      ↔ ∃ e ∈ filtered C request, HeldBack C request e := by
  constructor
  · intro hlt
    by_contra hnone
    have hsub : filtered C request ⊆ selected C request := fun e he =>
      mem_selected_iff.mpr ⟨he, fun hheld => hnone ⟨e, he, hheld⟩⟩
    have hnodup : (filtered C request).Nodup :=
      pairwise_anchor.imp fun hne heq => hne (congrArg _ heq)
    have hle := (hnodup.subperm hsub).length_le
    omega
  · intro h
    obtain ⟨e, he, hheld⟩ := h
    by_contra hge
    have hlength : (selected C request).length = min request.limit (filtered C request).length := by
      rw [selected, length_insertionSort, length_take, latestFirst, length_insertionSort]
    have hfew : ((filtered C request).filter fun other => Later other e).length
        < (filtered C request).length := by
      rw [length_filter_lt_length_iff_exists]
      refine ⟨e, he, ?_⟩
      simpa using fun h : Later e e => later_asymm e e h h
    unfold HeldBack at hheld
    omega

end Envelopes

/-! ## Following the pages -/

section Reading

variable (C : Channel) (first request : PublicFetchRequest)

def next : Next PublicFetchRequest :=
  match fetch C request with
  | .error _ => .stuck
  | .ok result =>
    if result.complete = true then .last
    else
      match result.nextPageToken with
      | none => .stuck
      | some token => .more { request with
          snapshotToken := some result.snapshotToken, pageToken := some token }

/-- The post is within the bounds of the request and not above the head it pins. -/
def Qualifies (post : Post) : Prop :=
  ∃ e, envelopeOf C.name post = some e ∧ WithinBounds first e ∧ e.anchorMessageId ≤ head C first

def Yields (post : Post) : Prop :=
  ∃ result, fetch C request = .ok result ∧ ∃ e ∈ result.envelopes, envelopeOf C.name post = some e

def Left (post : Post) : Prop := post.Below (before request)

/-- Following the pages ends with a complete one, and no page is complete before every post
that qualifies is read. -/
def PagingComplete : Prop :=
  (∃ last result, Follows (next C) first last ∧ fetch C last = .ok result ∧ result.complete = true)
    ∧ ∀ last result, Follows (next C) first last → fetch C last = .ok result →
        result.complete = true → ∀ post ∈ C.posts, Qualifies C first post →
          ∃ read, Follows (next C) first read ∧ Follows (next C) read last ∧ Yields C read post

/-! ## Pages that go wrong -/

/-- A post that qualifies, is asked for, and is not shown or held back. -/
def Missing (post : Post) : Prop :=
  post.Below (before request) ∧ ∃ e, envelopeOf C.name post = some e ∧ WithinBounds request e
    ∧ e.anchorMessageId ≤ head C request
    ∧ (post ∉ C.page (before request) ∨ HeldBack C request e)

/-- The page is short or reaches a bound, and shows no more than is asked for. -/
def LooksLast : Prop :=
  ((parsedItems C request).length < transportPageSize
      ∨ boundaryProven (pinned C request) request = true)
    ∧ ∀ e ∈ filtered C request, ¬HeldBack C request e

/-- The posts the next page is below: those not held back, or, if there are none, all up to
the head. -/
def Cursor (e : TelegramEnvelope) : Prop :=
  (e ∈ filtered C request ∧ ¬HeldBack C request e)
    ∨ (∀ other ∈ filtered C request, HeldBack C request other) ∧ e ∈ pinned C request

/-- A page that looks like the last one only when nothing is missing. -/
structure PageOk : Prop where
  last : LooksLast C request → ∀ post ∈ C.posts, ¬Missing C request post
  more : ¬LooksLast C request → pinned C request ≠ [] ∧ ∀ post ∈ C.posts,
    Missing C request post → ∀ e, Cursor C request e → ∀ id ∈ e.messageIds, post.id < id

end Reading

variable {C : Channel} {first request : PublicFetchRequest}

theorem complete_iff_looksLast : complete C request = true ↔ LooksLast C request := by
  unfold complete LooksLast
  rw [decide_eq_true_eq, length_selected_lt_iff]
  refine and_congr Iff.rfl ?_
  simp

theorem exists_cursor_iff : (∃ e, Cursor C request e) ↔ pinned C request ≠ [] := by
  constructor
  · intro h
    obtain ⟨e, hcursor⟩ := h
    rcases hcursor with ⟨he, -⟩ | ⟨-, he⟩
    · exact ne_nil_of_mem (mem_of_mem_filter he)
    · exact ne_nil_of_mem he
  · intro h
    obtain ⟨e, he⟩ := exists_mem_of_ne_nil _ h
    by_cases hall : ∀ other ∈ filtered C request, HeldBack C request other
    · exact ⟨e, Or.inr ⟨hall, he⟩⟩
    simp only [not_forall] at hall
    obtain ⟨other, hother, hheld⟩ := hall
    exact ⟨other, Or.inl ⟨hother, hheld⟩⟩

theorem mem_cursorEnvelopes_iff {e : TelegramEnvelope} :
    (e ∈ if selected C request = [] then pinned C request else selected C request)
      ↔ Cursor C request e := by
  by_cases hnone : selected C request = []
  · have hall : ∀ other ∈ filtered C request, HeldBack C request other := by
      intro other hother
      by_contra hheld
      have hmem := mem_selected_iff.mpr ⟨hother, hheld⟩
      rw [hnone] at hmem
      cases hmem
    rw [if_pos hnone]
    constructor
    · intro he
      exact .inr ⟨hall, he⟩
    · intro h
      rcases h with ⟨he, hheld⟩ | ⟨-, he⟩
      · exact absurd (hall e he) hheld
      · exact he
  · obtain ⟨other, hother⟩ := exists_mem_of_ne_nil _ hnone
    have hkept := mem_selected_iff.mp hother
    rw [if_neg hnone, mem_selected_iff]
    constructor
    · intro he
      exact .inl he
    · intro h
      rcases h with he | ⟨hall, -⟩
      · exact he
      · exact absurd (hall other hkept.1) hkept.2

theorem envelopes_of_fetch {result : TelegramFetchResult} (h : fetch C request = .ok result) :
    result.envelopes = selected C request := by
  unfold fetch at h
  dsimp only at h
  by_cases hdone : complete C request = true ∨ rawEnvelopes C request = []
  · rw [if_pos hdone] at h
    cases h
    rfl
  · rw [if_neg hdone] at h
    generalize ((if selected C request = [] then pinned C request
      else selected C request).flatMap TelegramEnvelope.messageIds).min? = least at h
    cases least with
    | none => cases h
    | some beforeNext =>
      cases h
      rfl

inductive Fetched (C : Channel) (request : PublicFetchRequest) : Prop where
  | last (hlast : LooksLast C request)
      (hfetch : fetch C request = .ok ⟨selected C request, ⟨head C request⟩, none, true⟩)
  | stuck (hlast : ¬LooksLast C request) (hpinned : pinned C request = [])
      (hnext : next C request = .stuck)
  | more (hlast : ¬LooksLast C request) (beforeNext : Int)
      (hmem : ∃ e, Cursor C request e ∧ beforeNext ∈ e.messageIds)
      (hle : ∀ e, Cursor C request e → ∀ id ∈ e.messageIds, beforeNext ≤ id)
      (hfetch : fetch C request = .ok ⟨selected C request, ⟨head C request⟩,
        some ⟨beforeNext, head C request, []⟩, false⟩)

theorem fetch_cases (C : Channel) (request : PublicFetchRequest) : Fetched C request := by
  by_cases hlast : LooksLast C request
  · have hcomplete := complete_iff_looksLast.mpr hlast
    refine .last hlast ?_
    rw [fetch, if_pos (.inl hcomplete), hcomplete]
  have hcomplete : complete C request = false := by
    rw [← Bool.not_eq_true, complete_iff_looksLast]
    exact hlast
  by_cases hraw : rawEnvelopes C request = []
  · refine .stuck hlast ?_ ?_
    · rw [pinned, hraw, filter_nil]
    rw [next, fetch, if_pos (.inr hraw), hcomplete]
    rfl
  have hgo : ¬(complete C request = true ∨ rawEnvelopes C request = []) := by
    rw [hcomplete]
    simpa using hraw
  cases hmin : ((if selected C request = [] then pinned C request
      else selected C request).flatMap TelegramEnvelope.messageIds).min? with
  | none =>
    refine .stuck hlast ?_ ?_
    · by_contra hpinned
      obtain ⟨e, hcursor⟩ := exists_cursor_iff.mpr hpinned
      have hids : e.messageIds ≠ [] := by
        have hraw : e ∈ rawEnvelopes C request := by
          rcases hcursor with ⟨he, -⟩ | ⟨-, he⟩
          · exact (mem_filtered_iff.mp he).1
          · exact mem_of_mem_filter he
        obtain ⟨post, hpost, -, henvelope⟩ := exists_post hraw
        exact ne_nil_of_mem (ids_of_envelopeOf hpost henvelope).1
      rw [min?_eq_none_iff, flatMap_eq_nil_iff] at hmin
      exact hids (hmin e (mem_cursorEnvelopes_iff.mpr hcursor))
    · rw [next, fetch, if_neg hgo]
      dsimp only
      rw [hmin]
  | some beforeNext =>
    obtain ⟨hmem, hle⟩ := min?_eq_some_iff.mp hmin
    obtain ⟨e, he, hid⟩ := mem_flatMap.mp hmem
    refine .more hlast beforeNext ⟨e, mem_cursorEnvelopes_iff.mp he, hid⟩ ?_ ?_
    · intro other hother id hid
      exact hle id (mem_flatMap.mpr ⟨other, mem_cursorEnvelopes_iff.mpr hother, hid⟩)
    · rw [fetch, if_neg hgo]
      dsimp only
      rw [hmin, hcomplete]

/-! ## The reading goes backwards -/

/-- A request of the reading that `first` begins. -/
structure SameReading (C : Channel) (first request : PublicFetchRequest) : Prop where
  bounds : ∀ e, WithinBounds request e ↔ WithinBounds first e
  head : head C request = head C first

theorem yields_iff {post : Post} (hpost : post ∈ C.posts)
    {result : TelegramFetchResult} (hfetch : fetch C request = .ok result) :
    Yields C request post ↔ ∃ e, envelopeOf C.name post = some e
      ∧ post ∈ C.page (before request) ∧ e.anchorMessageId ≤ head C request
      ∧ WithinBounds request e ∧ ¬HeldBack C request e := by
  constructor
  · intro h
    obtain ⟨other, hother, e, he, henvelope⟩ := h
    rw [hfetch] at hother
    cases hother
    rw [envelopes_of_fetch hfetch, mem_selected_iff, mem_filtered_iff,
      mem_rawEnvelopes_iff hpost henvelope] at he
    exact ⟨e, henvelope, he.1.1, he.1.2.1, he.1.2.2, he.2⟩
  · intro h
    obtain ⟨e, henvelope, hpage, hhead, hbounds, hheld⟩ := h
    refine ⟨result, hfetch, e, ?_, henvelope⟩
    rw [envelopes_of_fetch hfetch, mem_selected_iff, mem_filtered_iff,
      mem_rawEnvelopes_iff hpost henvelope]
    exact ⟨⟨hpage, hhead, hbounds⟩, hheld⟩

theorem missing_iff (hsame : SameReading C first request) {post : Post} (hpost : post ∈ C.posts)
    {result : TelegramFetchResult} (hfetch : fetch C request = .ok result) : Missing C request post
      ↔ Qualifies C first post ∧ Left request post ∧ ¬Yields C request post := by
  rw [yields_iff hpost hfetch]
  constructor
  · intro h
    obtain ⟨hbelow, e, henvelope, hbounds, hhead, hmissing⟩ := h
    refine ⟨⟨e, henvelope, (hsame.bounds e).mp hbounds, hsame.head ▸ hhead⟩, hbelow, ?_⟩
    intro hyields
    obtain ⟨other, hother, hpage, -, -, hheld⟩ := hyields
    rw [henvelope, Option.some.injEq] at hother
    subst hother
    rcases hmissing with hnot | hback
    · exact hnot hpage
    · exact hheld hback
  · intro h
    obtain ⟨⟨e, henvelope, hbounds, hhead⟩, hbelow, hyields⟩ := h
    have hbounds' := (hsame.bounds e).mpr hbounds
    rw [← hsame.head] at hhead
    refine ⟨hbelow, e, henvelope, hbounds', hhead, ?_⟩
    by_cases hpage : post ∈ C.page (before request)
    · right
      by_contra hheld
      exact hyields ⟨e, henvelope, hpage, hhead, hbounds', hheld⟩
    · exact .inl hpage

theorem fetched_of_step {t : PublicFetchRequest} (h : Step (next C) request t) :
    ¬LooksLast C request ∧ ∃ beforeNext, (∃ e, Cursor C request e ∧ beforeNext ∈ e.messageIds)
      ∧ (∀ e, Cursor C request e → ∀ id ∈ e.messageIds, beforeNext ≤ id)
      ∧ fetch C request = .ok ⟨selected C request, ⟨head C request⟩,
        some ⟨beforeNext, head C request, []⟩, false⟩
      ∧ t = { request with
          snapshotToken := some ⟨head C request⟩,
          pageToken := some ⟨beforeNext, head C request, []⟩ } := by
  unfold Step at h
  cases fetch_cases C request with
  | last hlast hfetch =>
    rw [next, hfetch] at h
    cases h
  | stuck hlast hpinned hnext =>
    rw [hnext] at h
    cases h
  | more hlast beforeNext hmem hle hfetch =>
    rw [next, hfetch] at h
    cases h
    exact ⟨hlast, beforeNext, hmem, hle, hfetch, rfl⟩

theorem exists_post_of_cursor {e : TelegramEnvelope} (h : Cursor C request e) :
    ∃ post ∈ C.posts, post.Below (before request) ∧ envelopeOf C.name post = some e := by
  rcases h with ⟨he, -⟩ | ⟨-, he⟩
  · exact exists_post (mem_filtered_iff.mp he).1
  · exact exists_post (mem_of_mem_filter he)

theorem below_of_step {t : PublicFetchRequest} (h : Step (next C) request t) {post : Post} :
    post.Below (before t) → post.Below (before request) := by
  obtain ⟨-, beforeNext, ⟨e, hcursor, hid⟩, hle, -, rfl⟩ := fetched_of_step h
  obtain ⟨other, hother, hbelow, henvelope⟩ := exists_post_of_cursor hcursor
  intro hpost id hbefore
  have hnext : post.id < beforeNext := hpost beforeNext rfl
  have hfirst := hle e hcursor _ (ids_of_envelopeOf hother henvelope).2.1
  have hlast := hbelow id hbefore
  omega

theorem backward (C : Channel) (first : PublicFetchRequest) : Backward (next C) C.posts Left
      (fun request post => post ∈ C.posts ∧ Yields C request post) (SameReading C first) where
  valid s t hsame h := by
    obtain ⟨-, beforeNext, -, -, -, rfl⟩ := fetched_of_step h
    exact ⟨hsame.bounds, hsame.head⟩
  takes s post _ h := by
    obtain ⟨hpost, result, hfetch, e, he, henvelope⟩ := h
    rw [envelopes_of_fetch hfetch] at he
    have hpage := (mem_filtered_iff.mp (mem_selected_iff.mp he).1).1
    exact (C.shown _ post ((mem_rawEnvelopes_iff hpost henvelope).mp hpage)).2
  taken s t post _ h htakes := by
    obtain ⟨-, beforeNext, -, hle, hfetch, rfl⟩ := fetched_of_step h
    obtain ⟨hpost, result, hok, e, he, henvelope⟩ := htakes
    rw [hfetch] at hok
    cases hok
    intro hbelow
    have hlt : post.id < beforeNext := hbelow beforeNext rfl
    have hcursor : Cursor C s e := Or.inl (mem_selected_iff.mp he)
    have hid := hle e hcursor post.id (ids_of_envelopeOf hpost henvelope).2.1
    omega
  left s t post _ h := below_of_step h
  progress s t _ h := by
    obtain ⟨-, beforeNext, ⟨e, hcursor, -⟩, hle, -, rfl⟩ := fetched_of_step h
    obtain ⟨post, hpost, hbelow, henvelope⟩ := exists_post_of_cursor hcursor
    refine ⟨post, hpost, hbelow, ?_⟩
    intro hnext
    have hlt : post.id < beforeNext := hnext beforeNext rfl
    have hid := hle e hcursor post.id (ids_of_envelopeOf hpost henvelope).2.1
    omega

/-- **A page loses nothing exactly if it is in order.** -/
theorem lossless_iff (hsame : SameReading C first request) :
    Lossless (next C) C.posts (Qualifies C first) Left
      (fun request post => post ∈ C.posts ∧ Yields C request post) request ↔ PageOk C request := by
  cases fetch_cases C request with
  | last hlast hfetch =>
    have hnext : next C request = .last := by
      rw [next, hfetch]
      rfl
    constructor
    · intro h
      refine ⟨fun _ post hpost hmissing => ?_, fun hnot => absurd hlast hnot⟩
      obtain ⟨hwanted, hleft, hyields⟩ := (missing_iff hsame hpost hfetch).mp hmissing
      exact hyields (h.2.1 hnext post hpost hwanted hleft).2
    · intro h
      refine ⟨?_, ?_, ?_⟩
      · rw [hnext]
        exact nofun
      · intro _ post hpost hwanted hleft
        refine ⟨hpost, ?_⟩
        by_contra hyields
        exact h.last hlast post hpost ((missing_iff hsame hpost hfetch).mpr
          ⟨hwanted, hleft, hyields⟩)
      · intro t hmore
        rw [hnext] at hmore
        cases hmore
  | stuck hlast hpinned hnext =>
    refine iff_of_false (fun h => h.1 hnext) ?_
    intro h
    exact (h.more hlast).1 hpinned
  | more hlast beforeNext hmem hle hfetch =>
    have hnext : next C request = .more { request with
        snapshotToken := some ⟨head C request⟩,
        pageToken := some ⟨beforeNext, head C request, []⟩ } := by
      rw [next, hfetch]
      rfl
    constructor
    · intro h
      refine ⟨fun hlooks => absurd hlooks hlast, fun _ => ⟨?_, ?_⟩⟩
      · obtain ⟨e, hcursor, -⟩ := hmem
        exact exists_cursor_iff.mp ⟨e, hcursor⟩
      · intro post hpost hmissing e hcursor id hid
        obtain ⟨hwanted, hleft, hyields⟩ := (missing_iff hsame hpost hfetch).mp hmissing
        rcases h.2.2 _ hnext post hpost hwanted hleft with htakes | hlater
        · exact absurd htakes.2 hyields
        have hlt : post.id < beforeNext := hlater beforeNext rfl
        exact lt_of_lt_of_le hlt (hle e hcursor id hid)
    · intro h
      refine ⟨?_, ?_, ?_⟩
      · rw [hnext]
        exact nofun
      · intro hends
        rw [hnext] at hends
        cases hends
      · intro t hmore post hpost hwanted hleft
        rw [hnext] at hmore
        cases hmore
        by_cases hyields : Yields C request post
        · exact .inl ⟨hpost, hyields⟩
        right
        intro id hid
        have hmissing := (missing_iff hsame hpost hfetch).mpr ⟨hwanted, hleft, hyields⟩
        obtain ⟨e, hcursor, hleast⟩ := hmem
        cases hid
        exact (h.more hlast).2 post hpost hmissing e hcursor _ hleast

theorem left_of_qualifies {post : Post} (hpost : post ∈ C.posts) (hfirst : first.pageToken = none)
    (h : Qualifies C first post) : Left first post := by
  obtain ⟨e, henvelope, hbounds, -⟩ := h
  intro id hid
  have hbefore : before first = first.beforeId := by rw [before, hfirst]; rfl
  rw [hbefore] at hid
  have hlt := hbounds.2.1 id hid
  have hle := (ids_of_envelopeOf hpost henvelope).2.2
  omega

theorem next_eq_last_iff :
    next C request = .last ↔ ∃ result, fetch C request = .ok result ∧ result.complete = true := by
  unfold next
  cases hfetch : fetch C request with
  | error error => simp
  | ok result =>
    by_cases hcomplete : result.complete = true
    · simp [hcomplete]
    cases htoken : result.nextPageToken with
    | none | some _ => simp [hcomplete, htoken]

/-- **Following the pages is complete exactly if every page of the way is in order.** -/
theorem pagingComplete_iff (C : Channel) (first : PublicFetchRequest)
    (hfirst : first.pageToken = none) :
    PagingComplete C first ↔ ∀ request, Follows (next C) first request → PageOk C request := by
  have hsame : SameReading C first first := ⟨fun _ => Iff.rfl, rfl⟩
  have hpages : (∀ request, Follows (next C) first request → PageOk C request)
      ↔ ∀ request, Follows (next C) first request → Lossless (next C) C.posts (Qualifies C first)
        Left (fun request post => post ∈ C.posts ∧ Yields C request post) request := by
    refine forall_congr' fun request => imp_congr_right fun hfollows => ?_
    exact (lossless_iff ((backward C first).valid_follows hsame hfollows)).symm
  rw [hpages, ← (backward C first).complete_iff hsame]
  constructor
  · intro h
    obtain ⟨⟨last, result, hfollows, hfetch, hcomplete⟩, hall⟩ := h
    refine ⟨⟨last, hfollows, next_eq_last_iff.mpr ⟨result, hfetch, hcomplete⟩⟩, ?_⟩
    intro last hlast hends post hpost hwanted _
    obtain ⟨result, hfetch, hcomplete⟩ := next_eq_last_iff.mp hends
    obtain ⟨read, hto, hfrom, hyields⟩ := hall last result hlast hfetch hcomplete post hpost hwanted
    exact ⟨read, hto, hfrom, hpost, hyields⟩
  · intro h
    obtain ⟨⟨last, hfollows, hends⟩, hall⟩ := h
    obtain ⟨result, hfetch, hcomplete⟩ := next_eq_last_iff.mp hends
    refine ⟨⟨last, result, hfollows, hfetch, hcomplete⟩, ?_⟩
    intro last result hlast hfetch hcomplete post hpost hwanted
    obtain ⟨read, hto, hfrom, -, hyields⟩ := hall last hlast
      (next_eq_last_iff.mpr ⟨result, hfetch, hcomplete⟩) post hpost hwanted
      (left_of_qualifies hpost hfirst hwanted)
    exact ⟨read, hto, hfrom, hyields⟩

/-! ## A page of albums -/

/-- A channel with its posts listed from the newest on, served `n` blocks at a time. -/
def Channel.ofPosts (name : String) (posts : List Post) (n : Nat) (hn : 0 < n)
    (hsorted : posts.Pairwise fun a b => b.id < a.id)
    (hnumbered : ∀ post ∈ posts, ∀ id, post.dataPost = some (name, some id) → id = post.id)
    (hdisjoint : ∀ post ∈ posts, ∀ other ∈ posts, ∀ a b, envelopeOf name post = some a →
      envelopeOf name other = some b → ∀ id ∈ a.messageIds, id ∈ b.messageIds → post = other) :
    Channel where
  name := name
  posts := posts
  page before := (posts.filter fun post => post.Below before).take n
  numbered := hnumbered
  disjoint := hdisjoint
  nodup before := by
    have hnodup : posts.Nodup := hsorted.imp fun hlt heq => by
      rw [heq] at hlt
      exact absurd hlt (Int.lt_irrefl _)
    exact (hnodup.filter _).sublist (take_sublist _ _)
  shown before post hpost := by
    have hmem := mem_filter.mp (mem_of_mem_take hpost)
    exact ⟨hmem.1, by simpa using hmem.2⟩
  newest before post hpost other hother hbelow hlt := by
    have hall : other ∈ posts.filter fun post => post.Below before :=
      mem_filter.mpr ⟨hother, by simpa using hbelow⟩
    have hpairs := hsorted.sublist (filter_sublist (p := fun post => post.Below before))
    rw [← take_append_drop n (posts.filter fun post => post.Below before),
      pairwise_append] at hpairs
    rw [← take_append_drop n (posts.filter fun post => post.Below before), mem_append] at hall
    rcases hall with htake | hdrop
    · exact htake
    · exact absurd (hpairs.2.2 post hpost other hdrop) (Int.lt_asymm hlt)
  some_shown before h := by
    obtain ⟨post, hpost, hbelow⟩ := h
    have hmem : post ∈ posts.filter fun post => post.Below before :=
      mem_filter.mpr ⟨hpost, by simpa using hbelow⟩
    intro hnil
    rw [take_eq_nil_iff] at hnil
    rcases hnil with hzero | hempty
    · omega
    rw [hempty] at hmem
    cases hmem

/-- A post of the messages given, the first of which is its own. -/
def samplePost (id : Int) (members : List Int) : Post where
  id := id
  dataPost := some ("news", some id)
  members := members
  groupedId := if members.length = 1 then none else some "g"
  text := ""
  html := none
  entities := []
  publishedAt := some id
  media := []

/-- A post, and two albums of ten messages after it: the page has room for the albums. -/
def albums : Channel :=
  Channel.ofPosts "news" [samplePost 12 [12, 13, 14, 15, 16, 17, 18, 19, 20, 21],
      samplePost 2 [2, 3, 4, 5, 6, 7, 8, 9, 10, 11], samplePost 1 [1]]
    2 (by decide) (by decide)
    (by
      intro post hpost id hdata
      simp only [mem_cons, not_mem_nil, or_false] at hpost
      rcases hpost with rfl | rfl | rfl <;> cases hdata <;> rfl)
    (by
      intro post hpost other hother a b ha hb id hid hid'
      simp only [mem_cons, not_mem_nil, or_false] at hpost hother
      rcases hpost with rfl | rfl | rfl <;> rcases hother with rfl | rfl | rfl <;>
        cases ha <;> cases hb <;> first | rfl | (revert id; decide))

def sampleRequest : PublicFetchRequest where
  afterId := none
  beforeId := none
  limit := 100
  since := none
  snapshotToken := none
  pageToken := none
  activationBoundaryAt := none

/-- The page of two albums is taken for the last one, and the post before them is not read. -/
theorem albums_not_complete : ¬PagingComplete albums sampleRequest := by
  intro h
  have hlast : complete albums sampleRequest = true := by decide +kernel
  have hnext : next albums sampleRequest = .last := by
    rw [next, fetch, if_pos (.inl hlast), hlast]
    rfl
  obtain ⟨result, hfetch, hcomplete⟩ := next_eq_last_iff.mp hnext
  have hqualifies : Qualifies albums sampleRequest (samplePost 1 [1]) := by
    refine ⟨_, rfl, ⟨nofun, nofun, nofun, nofun⟩, ?_⟩
    decide +kernel
  obtain ⟨read, hread, -, result', hfetch', e, he, henvelope⟩ := h.2 sampleRequest result .refl
    hfetch hcomplete (samplePost 1 [1]) (by decide) hqualifies
  rw [eq_of_follows_last hnext hread] at hfetch'
  rw [envelopes_of_fetch hfetch'] at he
  have hanchors : ∀ e ∈ selected albums sampleRequest, e.anchorMessageId ≠ 1 := by decide +kernel
  refine hanchors e he ?_
  cases henvelope
  rfl

def onePost : Channel :=
  Channel.ofPosts "news" [samplePost 1 [1]] 20 (by decide) (by decide) (by
      intro post hpost id hdata
      rw [mem_singleton] at hpost
      subst hpost
      cases hdata
      rfl)
    (by
      intro post hpost other hother _ _ _ _ _ _ _
      rw [mem_singleton] at hpost hother
      rw [hpost, hother])

theorem onePost_complete :
    sampleRequest.pageToken = none ∧ PagingComplete onePost sampleRequest := by
  have hlast : complete onePost sampleRequest = true := by decide +kernel
  have hnext : next onePost sampleRequest = .last := by
    rw [next, fetch, if_pos (.inl hlast), hlast]
    rfl
  refine ⟨rfl, (pagingComplete_iff onePost sampleRequest rfl).mpr ?_⟩
  intro request hfollows
  rw [eq_of_follows_last hnext hfollows]
  refine ⟨fun _ post hpost hmissing => ?_, fun hlooks => ?_⟩
  · obtain ⟨-, e, henvelope, -, -, hnot | hheld⟩ := hmissing
    · have hshown : ∀ post ∈ onePost.posts, post ∈ onePost.page (before sampleRequest) := by decide
      exact hnot (hshown post hpost)
    · change post ∈ [samplePost 1 [1]] at hpost
      rw [mem_singleton] at hpost
      subst hpost
      cases henvelope
      revert hheld
      decide +kernel
  · exact absurd (complete_iff_looksLast.mp hlast) hlooks

end NewsCraft.Telegram.PublicPages
