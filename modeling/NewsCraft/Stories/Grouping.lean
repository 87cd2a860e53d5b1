import Mathlib.Algebra.Order.Field.Rat
import Mathlib.Data.Finset.Card
import Mathlib.Logic.Equiv.Defs
import NewsCraft.Lib.UnionFind
import NewsCraft.Normalization.Urls

/-!
# Grouping articles into stories

Two articles belong together when they have one canonical URL, or titles that share most of
their words and dates that are no more than three days apart. `group_components` compares
every two articles and joins those that belong together, so its blocks are the connected
components. A canonical URL that `urlsplit` refuses ends the comparison.
-/

namespace NewsCraft.Stories

open Lib Lib.UnionFind Urls List Option

/-! ## Deciding about two articles -/

structure GroupingEnv extends UrlEnv where
  /-- `unicodedata.normalize("NFKC", value)`. -/
  nfkc : Text → Text
  /-- `str.casefold`. -/
  casefold : Text → Text
  /-- The category of the character begins with `P`. -/
  isPunctuation : Char → Bool

structure GroupingInput where
  contentItemId : String
  title : Text
  canonicalUrl : Option Text
  publishedAt : Datetime

inductive GroupingReason where
  | canonicalUrl
  | titleSimilarity
  | insufficientSimilarity

structure GroupingDecision where
  grouped : Bool
  score : ℚ
  reason : GroupingReason

/-- `text.split()`, after the characters of the word that is read, last first. -/
def splitWords : Text → Text → List Text
  | [], [] => []
  | c :: word, [] => [(c :: word).reverse]
  | word, c :: rest =>
    if isPySpace c then
      if word = [] then splitWords [] rest else word.reverse :: splitWords [] rest
    else
      splitWords (c :: word) rest

section Decide

variable (E : GroupingEnv)

/-- `normalize_title`. -/
def normalizeTitle (value : Text) : Finset Text :=
  let withoutPunctuation := (E.casefold (E.nfkc value)).map fun c =>
    if E.isPunctuation c then ' ' else c
  ((splitWords [] withoutPunctuation).filter fun token => 2 ≤ token.length).toFinset

/-- `token_jaccard`. -/
def tokenJaccard (left right : Finset Text) : ℚ :=
  if left ∪ right = ∅ then 0 else (left ∩ right).card / (left ∪ right).card

/-- `normalize_url(url) if url else None`; `none` where it raises. -/
def groupingUrl : Option Text → Option (Option Text)
  | none => some none
  | some [] => some none
  | some (c :: url) => (normalizeUrl E.toUrlEnv (c :: url)).map some

def groupingWindow : Int := 72 * 3600 * 1000000

/-- `decide_group`. -/
def decideGroup (left right : GroupingInput) : Option GroupingDecision :=
  match groupingUrl E left.canonicalUrl, groupingUrl E right.canonicalUrl with
  | some leftUrl, some rightUrl =>
    if (leftUrl.any fun url => url ≠ []) ∧ leftUrl = rightUrl then
      some ⟨true, 1, .canonicalUrl⟩
    else
      let score := tokenJaccard (normalizeTitle E left.title) (normalizeTitle E right.title)
      if (left.publishedAt - right.publishedAt : Int).natAbs ≤ groupingWindow.natAbs
          ∧ 18 / 25 ≤ score then
        some ⟨true, score, .titleSimilarity⟩
      else
        some ⟨false, score, .insufficientSimilarity⟩
  | _, _ => none

end Decide

/-! ## Components -/

/-- The indices two loops go through: each pair once, the smaller one first. -/
def indexPairs (n : Nat) : List (Nat × Nat) :=
  (List.range n).flatMap fun i => (List.range' (i + 1) (n - (i + 1))).map fun j => (i, j)

section Components

variable (E : GroupingEnv) (items : List GroupingInput)

/-- `decide_group(items[i], items[j]).grouped`. -/
def groupedAt (i j : Nat) : Option Bool :=
  match items[i]?, items[j]? with
  | some left, some right => (decideGroup E left right).map GroupingDecision.grouped
  | _, _ => none

def joined : Option Forest :=
  (indexPairs items.length).foldlM
    (fun F pair => (groupedAt E items pair.1 pair.2).map fun grouped =>
      if grouped then F.union pair.1 pair.2 else F)
    Forest.initial

/-- The loop that collects the indices under their roots. -/
def collected (F : Forest) (n : Nat) : Forest × List (Nat × List Nat) :=
  (List.range n).foldl (fun state index =>
      ((state.1.find index).1, addTo (state.1.find index).2 index state.2))
    (F, [])

/-- `group_components`. -/
def groupComponents : Option (List (List Nat)) :=
  (joined E items).map fun F => (collected F items.length).2.map Prod.snd

end Components

/-! ## The decision is symmetric -/

section Symmetric

variable (E : GroupingEnv)

theorem tokenJaccard_comm (left right : Finset Text) :
    tokenJaccard left right = tokenJaccard right left := by
  unfold tokenJaccard
  rw [Finset.union_comm, Finset.inter_comm]

/-- **`decide_group` is symmetric.** -/
theorem decideGroup_comm (left right : GroupingInput) :
    decideGroup E left right = decideGroup E right left := by
  unfold decideGroup
  cases groupingUrl E left.canonicalUrl with
  | none =>
    cases groupingUrl E right.canonicalUrl with
    | none | some _ => rfl
  | some leftUrl =>
    cases groupingUrl E right.canonicalUrl with
    | none => rfl
    | some rightUrl =>
      dsimp only
      have hwindow : (left.publishedAt - right.publishedAt : Int).natAbs
          = (right.publishedAt - left.publishedAt : Int).natAbs := by
        rw [← Int.natAbs_neg, Int.neg_sub]
      rw [tokenJaccard_comm, hwindow]
      by_cases hsame : leftUrl = rightUrl
      · rw [hsame]
      have hleft : ¬((leftUrl.any fun url => url ≠ []) ∧ leftUrl = rightUrl) :=
        fun h => hsame h.2
      have hright : ¬((rightUrl.any fun url => url ≠ []) ∧ rightUrl = leftUrl) :=
        fun h => hsame h.2.symm
      rw [if_neg hleft, if_neg hright]

theorem groupedAt_comm (items : List GroupingInput) (i j : Nat) :
    groupedAt E items i j = groupedAt E items j i := by
  unfold groupedAt
  cases items[i]? with
  | none =>
    cases items[j]? with
    | none | some _ => rfl
  | some left =>
    cases items[j]? with
    | none => rfl
    | some right =>
      dsimp only
      rw [decideGroup_comm]

end Symmetric

/-! ## The loops -/

variable {i j : Nat}

theorem mem_indexPairs_iff {n : Nat} : (i, j) ∈ indexPairs n ↔ i < j ∧ j < n := by
  simp only [indexPairs, List.mem_flatMap, List.mem_map, List.mem_range, List.mem_range'_1,
    Prod.mk.injEq]
  constructor
  · intro h
    obtain ⟨i', hi', j', hj', rfl, rfl⟩ := h
    omega
  · intro h
    exact ⟨i, by omega, j, by omega, rfl, rfl⟩

variable {E : GroupingEnv} {items : List GroupingInput}

theorem foldlM_grouped {g : Nat × Nat → Option Bool} (pairs : List (Nat × Nat)) (F : Forest) :
    pairs.foldlM (fun F pair => (g pair).map fun grouped =>
        if grouped then F.union pair.1 pair.2 else F) F
      = if ∀ pair ∈ pairs, g pair ≠ none then
          some ((pairs.filter fun pair => g pair = some true).foldl
            (fun F pair => F.union pair.1 pair.2) F)
        else none := by
  induction pairs generalizing F with
  | nil => simp
  | cons pair rest ih =>
    rw [foldlM_cons]
    cases hg : g pair with
    | none =>
      rw [if_neg]
      · rfl
      intro hall
      exact hall pair mem_cons_self hg
    | some grouped =>
      have hall : (∀ other ∈ pair :: rest, g other ≠ none) ↔ ∀ other ∈ rest, g other ≠ none := by
        simp [hg]
      change List.foldlM _ (if grouped then F.union pair.1 pair.2 else F) rest = _
      rw [ih]
      simp only [hall]
      cases grouped with
      | false => rw [filter_cons_of_neg (by simp [hg])]; rfl
      | true => rw [filter_cons_of_pos (by simp [hg])]; rfl

def groupedPairs (E : GroupingEnv) (items : List GroupingInput) : List (Nat × Nat) :=
  (indexPairs items.length).filter fun pair => groupedAt E items pair.1 pair.2 = some true

theorem joined_eq : joined E items
      = if ∀ pair ∈ indexPairs items.length, groupedAt E items pair.1 pair.2 ≠ none then
          some ((groupedPairs E items).foldl (fun F pair => F.union pair.1 pair.2) Forest.initial)
        else none :=
  foldlM_grouped _ _

theorem collected_eq (F : Forest) (n : Nat) :
    (collected F n).2 = classes F.root (List.range n) := by
  have hloop : ∀ (indices : List Nat) (G : Forest) (entries : List (Nat × List Nat)),
      (∀ x, G.root x = F.root x) →
      (indices.foldl (fun state index =>
        ((state.1.find index).1, addTo (state.1.find index).2 index state.2)) (G, entries)).2
        = indices.foldl (fun entries index => addTo (F.root index) index entries) entries := by
    intro indices
    induction indices with
    | nil => intro G entries _; rfl
    | cons index rest ih =>
      intro G entries hroots
      rw [foldl_cons, foldl_cons, Forest.find_root, hroots index]
      refine ih _ _ ?_
      intro x
      rw [Forest.root_find, hroots x]
  exact hloop (List.range n) F [] fun _ => rfl

/-! ## Connected components -/

/-- `decide_group` groups the items of the two indices. -/
def Grouped (E : GroupingEnv) (items : List GroupingInput) (i j : Nat) : Prop :=
  ∃ left right, items[i]? = some left ∧ items[j]? = some right
    ∧ ∃ decision, decideGroup E left right = some decision ∧ decision.grouped = true

def Share (blocks : List (List Nat)) (i j : Nat) : Prop := ∃ block ∈ blocks, i ∈ block ∧ j ∈ block

theorem grouped_iff : Grouped E items i j ↔ groupedAt E items i j = some true := by
  unfold Grouped groupedAt
  cases items[i]? with
  | none => simp
  | some left =>
    cases items[j]? with
    | none | some _ => simp

theorem grouped_comm (h : Grouped E items i j) : Grouped E items j i := by
  rw [grouped_iff] at h ⊢
  rw [groupedAt_comm, h]

theorem lt_length_of_grouped (h : Grouped E items i j) : i < items.length ∧ j < items.length := by
  obtain ⟨left, right, hleft, hright, -⟩ := h
  exact ⟨(List.getElem?_eq_some_iff.mp hleft).1, (List.getElem?_eq_some_iff.mp hright).1⟩

theorem connected_iff :
    Forest.Connected (groupedPairs E items) i j ↔ Relation.ReflTransGen (Grouped E items) i j := by
  constructor
  · intro h
    induction h with
    | rel a b hab =>
      have hpair := (mem_filter.mp hab).2
      exact .single (grouped_iff.mpr (by simpa using hpair))
    | refl a => exact .refl
    | symm a b _ ih =>
      have _ : Std.Symm (Grouped E items) := ⟨fun _ _ hgrouped => grouped_comm hgrouped⟩
      exact Std.Symm.symm _ _ ih
    | trans a b c _ _ ih₁ ih₂ => exact ih₁.trans ih₂
  · intro h
    induction h with
    | refl => exact .refl _
    | @tail b c _ hgrouped ih =>
      obtain ⟨hb, hc⟩ := lt_length_of_grouped hgrouped
      have hcases := Nat.lt_trichotomy b c
      refine ih.trans _ _ _ ?_
      rcases hcases with hlt | heq | hlt
      · refine .rel _ _ (mem_filter.mpr ⟨mem_indexPairs_iff.mpr ⟨hlt, hc⟩, ?_⟩)
        simpa using grouped_iff.mp hgrouped
      · rw [heq]
        exact .refl _
      · refine .symm _ _ (.rel _ _ (mem_filter.mpr ⟨mem_indexPairs_iff.mpr ⟨hlt, hb⟩, ?_⟩))
        simpa using grouped_iff.mp (grouped_comm hgrouped)

def Refused (E : GroupingEnv) (item : GroupingInput) : Prop :=
  groupingUrl E item.canonicalUrl = none

theorem decideGroup_eq_none_iff {left right : GroupingInput} :
    decideGroup E left right = none ↔ Refused E left ∨ Refused E right := by
  unfold decideGroup Refused
  cases groupingUrl E left.canonicalUrl with
  | none => simp
  | some leftUrl =>
    cases groupingUrl E right.canonicalUrl with
    | none => simp
    | some rightUrl =>
      dsimp only
      split_ifs <;> simp

theorem groupComponents_eq_none_iff :
    groupComponents E items = none ↔ 2 ≤ items.length ∧ ∃ item ∈ items, Refused E item := by
  unfold groupComponents
  rw [map_eq_none_iff, joined_eq]
  constructor
  · intro h
    split_ifs at h with hall
    simp only [not_forall, not_not] at hall
    obtain ⟨⟨i, j⟩, hpair, hnone⟩ := hall
    have hbounds := mem_indexPairs_iff.mp hpair
    have hi : items[i]? = some items[i] := getElem?_eq_getElem (by omega)
    have hj : items[j]? = some items[j] := getElem?_eq_getElem hbounds.2
    simp only [groupedAt, hi, hj, map_eq_none_iff, decideGroup_eq_none_iff] at hnone
    refine ⟨by omega, ?_⟩
    rcases hnone with hleft | hright
    · exact ⟨items[i], getElem_mem _, hleft⟩
    · exact ⟨items[j], getElem_mem _, hright⟩
  · intro h
    obtain ⟨hlength, item, hitem, hrefused⟩ := h
    rw [if_neg]
    intro hall
    obtain ⟨k, hk, rfl⟩ := getElem_of_mem hitem
    have hself : items[k]? = some items[k] := getElem?_eq_getElem hk
    -- the refused item is compared with another one, before or after it
    by_cases hfirst : k = 0
    · have hother : items[1]? = some items[1] := getElem?_eq_getElem (by omega)
      refine hall (k, 1) (mem_indexPairs_iff.mpr ⟨by omega, by omega⟩) ?_
      simp only [groupedAt, hself, hother, map_eq_none_iff, decideGroup_eq_none_iff]
      exact .inl hrefused
    · have hother : items[0]? = some items[0] := getElem?_eq_getElem (by omega)
      refine hall (0, k) (mem_indexPairs_iff.mpr ⟨by omega, by omega⟩) ?_
      simp only [groupedAt, hself, hother, map_eq_none_iff, decideGroup_eq_none_iff]
      exact .inr hrefused

/-- The blocks partition the indices, and are the classes of what a chain connects. -/
structure Components (E : GroupingEnv) (items : List GroupingInput) (blocks : List (List Nat)) :
    Prop where
  partition : blocks.flatten.Perm (List.range items.length)
  nonempty : [] ∉ blocks
  share : ∀ i < items.length, ∀ j < items.length,
    Share blocks i j ↔ Relation.ReflTransGen (Grouped E items) i j

theorem components_of_groupComponents {blocks : List (List Nat)}
    (h : groupComponents E items = some blocks) : Components E items blocks := by
  obtain ⟨F, hF, rfl⟩ := map_eq_some_iff.mp h
  rw [joined_eq] at hF
  split_ifs at hF
  cases hF
  rw [collected_eq]
  have hclasses := classified_classes
    ((groupedPairs E items).foldl (fun F pair => F.union pair.1 pair.2) Forest.initial).root
    (List.range items.length)
  refine ⟨hclasses.perm, ?_, ?_⟩
  · intro hnil
    obtain ⟨entry, hentry, heq⟩ := List.mem_map.mp hnil
    exact (hclasses.block entry hentry).1 heq
  · intro i hi j hj
    unfold Share
    rw [hclasses.share_iff (List.mem_range.mpr hi) (List.mem_range.mpr hj),
      Forest.root_unions_iff, connected_iff]

/-- The list with the item of `σ i` at `i`. -/
def permuted (items : List GroupingInput) (σ : Equiv.Perm (Fin items.length)) :
    List GroupingInput :=
  List.ofFn fun i => items.get (σ i)

theorem getElem?_permuted (σ : Equiv.Perm (Fin items.length)) (i : Fin items.length) :
    (permuted items σ)[(i : Nat)]? = items[(σ i : Nat)]? := by
  have hlength : (i : Nat) < (permuted items σ).length := by simp [permuted]
  rw [getElem?_eq_getElem hlength, getElem?_eq_getElem (σ i).isLt]
  simp [permuted]

theorem length_permuted (σ : Equiv.Perm (Fin items.length)) :
    (permuted items σ).length = items.length := by
  simp [permuted]

theorem grouped_permuted_iff (σ : Equiv.Perm (Fin items.length)) (i j : Fin items.length) :
    Grouped E (permuted items σ) i j ↔ Grouped E items (σ i) (σ j) := by
  unfold Grouped
  rw [getElem?_permuted, getElem?_permuted]

theorem chain_of_permuted (σ : Equiv.Perm (Fin items.length)) (hi : i < items.length)
    (hj : j < items.length) (h : Relation.ReflTransGen (Grouped E (permuted items σ)) i j) :
    Relation.ReflTransGen (Grouped E items) (σ ⟨i, hi⟩) (σ ⟨j, hj⟩) := by
  induction h with
  | refl => exact .refl
  | @tail b c _ hgrouped ih =>
    have hb := (lt_length_of_grouped hgrouped).1
    rw [length_permuted] at hb
    exact (ih hb).tail ((grouped_permuted_iff σ ⟨b, hb⟩ ⟨c, hj⟩).mp hgrouped)

theorem chain_permuted (σ : Equiv.Perm (Fin items.length)) (hi : i < items.length)
    (hj : j < items.length) (h : Relation.ReflTransGen (Grouped E items) i j) :
    Relation.ReflTransGen (Grouped E (permuted items σ)) (σ.symm ⟨i, hi⟩) (σ.symm ⟨j, hj⟩) := by
  induction h with
  | refl => exact .refl
  | @tail b c _ hgrouped ih =>
    have hb := (lt_length_of_grouped hgrouped).1
    refine (ih hb).tail ((grouped_permuted_iff σ _ _).mpr ?_)
    rwa [Equiv.apply_symm_apply, Equiv.apply_symm_apply]

/-- **A permutation of the items permutes what a chain connects.** -/
theorem chain_permuted_iff (σ : Equiv.Perm (Fin items.length)) (i j : Fin items.length) :
    Relation.ReflTransGen (Grouped E (permuted items σ)) i j
      ↔ Relation.ReflTransGen (Grouped E items) (σ i) (σ j) := by
  constructor
  · intro h
    exact chain_of_permuted σ i.isLt j.isLt h
  · intro h
    have hback := chain_permuted σ (σ i).isLt (σ j).isLt h
    rwa [Fin.eta, Fin.eta, Equiv.symm_apply_apply, Equiv.symm_apply_apply] at hback

/-- **`group_components` computes the connected components**: where no canonical URL is
refused it returns them, for every order of the items the same. -/
theorem groupComponents_components (E : GroupingEnv) (items : List GroupingInput) :
    (groupComponents E items = none ↔ 2 ≤ items.length ∧ ∃ item ∈ items, Refused E item)
      ∧ (∀ blocks, groupComponents E items = some blocks → Components E items blocks
          ∧ ∀ (σ : Equiv.Perm (Fin items.length)) (blocks' : List (List Nat)),
              groupComponents E (permuted items σ) = some blocks' →
              ∀ i j : Fin items.length, Share blocks' i j ↔ Share blocks (σ i) (σ j))
      ∧ ∀ left right, decideGroup E left right = decideGroup E right left := by
  refine ⟨groupComponents_eq_none_iff, ?_, decideGroup_comm E⟩
  intro blocks h
  have hcomponents := components_of_groupComponents h
  refine ⟨hcomponents, ?_⟩
  intro σ blocks' h' i j
  have hcomponents' := components_of_groupComponents h'
  have hi : (i : Nat) < (permuted items σ).length := by rw [length_permuted]; exact i.isLt
  have hj : (j : Nat) < (permuted items σ).length := by rw [length_permuted]; exact j.isLt
  rw [hcomponents'.share i hi j hj, hcomponents.share _ (σ i).isLt _ (σ j).isLt]
  exact chain_permuted_iff σ i j

/-! ## Two articles -/

def sampleEnv : GroupingEnv where
  toUrlEnv := UrlEnv.ascii
  nfkc text := text
  casefold text := text.map Char.toLower
  isPunctuation c := c = '.' || c = ',' || c = '-'

def sampleInput (canonicalUrl : Option Text) : GroupingInput :=
  ⟨"1", "Budget vote in parliament".toList, canonicalUrl, 0⟩

/-- A canonical URL with a bracket that is not closed ends the comparison. -/
theorem groupComponents_refused : ∃ items, ¬∃ blocks, groupComponents sampleEnv items = some blocks
      ∧ Components sampleEnv items blocks := by
  refine ⟨[sampleInput none, sampleInput (some "http://[x/".toList)], ?_⟩
  intro h
  obtain ⟨blocks, hblocks, -⟩ := h
  have hnone : groupComponents sampleEnv
      [sampleInput none, sampleInput (some "http://[x/".toList)] = none := by decide +kernel
  rw [hnone] at hblocks
  cases hblocks

theorem groupComponents_two :
    groupComponents sampleEnv [sampleInput none, sampleInput none] = some [[0, 1]]
      ∧ Components sampleEnv [sampleInput none, sampleInput none] [[0, 1]] := by
  have hblocks : groupComponents sampleEnv [sampleInput none, sampleInput none]
      = some [[0, 1]] := by decide +kernel
  exact ⟨hblocks, ((groupComponents_components sampleEnv _).2.1 _ hblocks).1⟩

end NewsCraft.Stories
