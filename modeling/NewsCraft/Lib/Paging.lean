import Mathlib.Data.List.Sort
import Mathlib.Logic.Relation
import Mathlib.Tactic.Common

/-!
# Reading backwards page by page

A reader asks for the items that are left, takes some of them and goes on to the request
for the rest, until it takes a page for the last one. It reads all it wants exactly if no
page loses anything: the last page takes what is left, every other page takes an item or
leaves it to the next request, and no page ends the reading half way.
-/

namespace NewsCraft.Lib.Paging

open List

universe u v

variable {σ : Type u} {α : Type v}

/-- What follows on a page. -/
inductive Next (σ : Type u) where
  | last
  | more (request : σ)
  | stuck

variable (next : σ → Next σ)

/-- One request follows another. -/
def Step (s t : σ) : Prop := next s = .more t

abbrev Follows : σ → σ → Prop := Relation.ReflTransGen (Step next)

variable (items : List α) (Wanted : α → Prop) (Left : σ → α → Prop) (Takes : σ → α → Prop)

/-- The reading ends, and by then everything that was wanted of the first request is
taken. -/
def Complete (start : σ) : Prop :=
  (∃ s, Follows next start s ∧ next s = .last)
    ∧ ∀ s, Follows next start s → next s = .last → ∀ x ∈ items, Wanted x → Left start x →
        ∃ t, Follows next start t ∧ Follows next t s ∧ Takes t x

/-- A page that loses nothing. -/
def Lossless (s : σ) : Prop :=
  next s ≠ .stuck ∧ (next s = .last → ∀ x ∈ items, Wanted x → Left s x → Takes s x)
    ∧ ∀ t, next s = .more t → ∀ x ∈ items, Wanted x → Left s x → Takes s x ∨ Left t x

/-- A reader that goes backwards: of what is left there is less each time. -/
structure Backward (Valid : σ → Prop) : Prop where
  valid : ∀ s t, Valid s → Step next s t → Valid t
  takes : ∀ s x, Valid s → Takes s x → Left s x
  taken : ∀ s t x, Valid s → Step next s t → Takes s x → ¬Left t x
  left : ∀ s t x, Valid s → Step next s t → Left t x → Left s x
  progress : ∀ s t, Valid s → Step next s t → ∃ x ∈ items, Left s x ∧ ¬Left t x

variable {next items Wanted Left Takes} {Valid : σ → Prop} {start s t : σ}

theorem Step.unique {r : σ} (hs : Step next r s) (ht : Step next r t) : s = t := by
  unfold Step at hs ht
  rw [hs] at ht
  exact Next.more.inj ht

/-- Nothing follows on the last page. -/
theorem eq_of_follows_last (hlast : next s = .last) (h : Follows next s t) : t = s := by
  rcases Relation.ReflTransGen.cases_head h with heq | ⟨r, hstep, -⟩
  · exact heq.symm
  unfold Step at hstep
  rw [hlast] at hstep
  cases hstep

theorem Backward.valid_follows (h : Backward next items Left Takes Valid) (hvalid : Valid s)
    (hfollows : Follows next s t) : Valid t := by
  induction hfollows with
  | refl => exact hvalid
  | tail _ hstep ih => exact h.valid _ _ ih hstep

theorem Backward.left_follows (h : Backward next items Left Takes Valid) (hvalid : Valid s)
    (hfollows : Follows next s t) {x : α} (hleft : Left t x) : Left s x := by
  induction hfollows with
  | refl => exact hleft
  | tail hbefore hstep ih => exact ih (h.left _ _ x (h.valid_follows hvalid hbefore) hstep hleft)

theorem Backward.not_left_of_taken (h : Backward next items Left Takes Valid) (hvalid : Valid s)
    {r : σ} (hstep : Step next s r) (hfollows : Follows next r t) {x : α} (htakes : Takes s x) :
    ¬Left t x := by
  intro hleft
  exact h.taken s r x hvalid hstep htakes (h.left_follows (h.valid s r hvalid hstep) hfollows hleft)

open Classical in
/-- How much is left. -/
noncomputable def remaining (items : List α) (Left : σ → α → Prop) (s : σ) : Nat :=
  (items.filter fun x => Left s x).length

theorem Backward.remaining_lt (h : Backward next items Left Takes Valid) (hvalid : Valid s)
    (hstep : Step next s t) : remaining items Left t < remaining items Left s := by
  classical
  obtain ⟨x, hx, hleft, hgone⟩ := h.progress s t hvalid hstep
  have hsub : items.filter (fun x => Left t x)
      = (items.filter fun x => Left s x).filter fun x => Left t x := by
    rw [filter_filter]
    refine filter_congr fun y _ => ?_
    by_cases hy : Left t y
    · simp [hy, h.left s t y hvalid hstep hy]
    · simp [hy]
  unfold remaining
  rw [hsub, length_filter_lt_length_iff_exists]
  exact ⟨x, mem_filter.mpr ⟨hx, by simpa using hleft⟩, by simpa using hgone⟩

/-- **Pages that lose nothing make a complete reading.** -/
theorem Backward.complete (h : Backward next items Left Takes Valid) (hvalid : Valid start)
    (hlossless : ∀ s, Follows next start s → Lossless next items Wanted Left Takes s) :
    Complete next items Wanted Left Takes start := by
  -- the induction is on what is left
  induction hn : remaining items Left start using Nat.strong_induction_on generalizing start with
  | _ n ih =>
    obtain ⟨hstuck, hlast, hmore⟩ := hlossless start .refl
    cases hnext : next start with
    | stuck => exact absurd hnext hstuck
    | last =>
      refine ⟨⟨start, .refl, hnext⟩, ?_⟩
      intro s hs _ x hx hwanted hleft
      rw [eq_of_follows_last hnext hs]
      exact ⟨start, .refl, .refl, hlast hnext x hx hwanted hleft⟩
    | more t =>
      have hlt := h.remaining_lt hvalid hnext
      rw [hn] at hlt
      obtain ⟨⟨e, hte, hend⟩, hall⟩ := ih _ hlt (h.valid _ _ hvalid hnext)
        (fun s hs => hlossless s (.head hnext hs)) rfl
      refine ⟨⟨e, .head hnext hte, hend⟩, ?_⟩
      intro s hs hslast x hx hwanted hleft
      have hts : Follows next t s := by
        rcases Relation.ReflTransGen.cases_head hs with heq | ⟨r, hstep, hrest⟩
        · rw [← heq, hnext] at hslast
          cases hslast
        · rw [Step.unique hnext hstep]
          exact hrest
      rcases hmore t hnext x hx hwanted hleft with htakes | hlater
      · exact ⟨start, .refl, hs, htakes⟩
      obtain ⟨r, htr, hrs, htakes⟩ := hall s hts hslast x hx hwanted hlater
      exact ⟨r, .head hnext htr, hrs, htakes⟩

/-- **A complete reading is made of pages that lose nothing.** -/
theorem Backward.lossless (h : Backward next items Left Takes Valid) (hvalid : Valid start)
    (hcomplete : Complete next items Wanted Left Takes start) (hs : Follows next start s) :
    Lossless next items Wanted Left Takes s := by
  obtain ⟨⟨e, he, hend⟩, hall⟩ := hcomplete
  have hunique : Relator.RightUnique (Step next) := fun _ _ _ hb hc => Step.unique hb hc
  have hse : Follows next s e := by
    rcases Relation.ReflTransGen.total_of_right_unique hunique hs he with hse | hes
    · exact hse
    · rw [eq_of_follows_last hend hes]
  have hvalids := h.valid_follows hvalid hs
  -- an item that is left at `s` was not taken before it
  have hhere : ∀ x ∈ items, Wanted x → Left s x → Takes s x
      ∨ ∃ t r, Step next s t ∧ Follows next t r ∧ Takes r x := by
    intro x hx hwanted hleft
    obtain ⟨r, hr, -, htakes⟩ := hall e he hend x hx hwanted (h.left_follows hvalid hs hleft)
    rcases Relation.ReflTransGen.total_of_right_unique hunique hs hr with hsr | hrs
    · rcases Relation.ReflTransGen.cases_head hsr with heq | ⟨t, hstep, hrest⟩
      · rw [heq]
        exact .inl htakes
      · exact .inr ⟨t, r, hstep, hrest, htakes⟩
    · rcases Relation.ReflTransGen.cases_head hrs with heq | ⟨t, hstep, hrest⟩
      · rw [← heq]
        exact .inl htakes
      · exact absurd hleft
          (h.not_left_of_taken (h.valid_follows hvalid hr) hstep hrest htakes)
  refine ⟨?_, ?_, ?_⟩
  · intro hstuck
    rcases Relation.ReflTransGen.cases_head hse with heq | ⟨t, hstep, -⟩
    · rw [heq, hend] at hstuck
      cases hstuck
    · unfold Step at hstep
      rw [hstuck] at hstep
      cases hstep
  · intro hlast x hx hwanted hleft
    rcases hhere x hx hwanted hleft with htakes | ⟨t, r, hstep, -, -⟩
    · exact htakes
    unfold Step at hstep
    rw [hlast] at hstep
    cases hstep
  · intro t hstep x hx hwanted hleft
    rcases hhere x hx hwanted hleft with htakes | ⟨t', r, hstep', hrest, htakes⟩
    · exact .inl htakes
    rw [← Step.unique hstep hstep'] at hrest
    have hvalidt := h.valid _ _ hvalids hstep
    exact .inr (h.left_follows hvalidt hrest (h.takes r x (h.valid_follows hvalidt hrest) htakes))

/-- **A reading is complete exactly if no page of it loses anything.** -/
theorem Backward.complete_iff (h : Backward next items Left Takes Valid) (hvalid : Valid start) :
    Complete next items Wanted Left Takes start
      ↔ ∀ s, Follows next start s → Lossless next items Wanted Left Takes s :=
  ⟨fun hcomplete _ hs => h.lossless hvalid hcomplete hs, h.complete hvalid⟩

/-! ## The first few of a sorted list -/

variable {β : Type v} {later : β → β → Prop} [DecidableRel later]

theorem mem_take_iff {l : List β} (hsorted : l.Pairwise later)
    (hasymm : ∀ a b, later a b → ¬later b a) {x : β} (hx : x ∈ l) (n : Nat) :
    x ∈ l.take n ↔ (l.filter fun y => later y x).length < n := by
  obtain ⟨front, back, rfl⟩ := append_of_mem hx
  rw [pairwise_append, pairwise_cons] at hsorted
  obtain ⟨-, ⟨hback, -⟩, hfront⟩ := hsorted
  have hirrefl : ¬later x x := fun h => hasymm x x h h
  have hkept : (front ++ x :: back).filter (fun y => later y x) = front := by
    rw [filter_append, filter_cons_of_neg (by simpa using hirrefl)]
    have hfirst : front.filter (fun y => later y x) = front := by
      rw [filter_eq_self]
      intro y hy
      simpa using hfront y hy x mem_cons_self
    have hrest : back.filter (fun y => later y x) = [] := by
      rw [filter_eq_nil_iff]
      intro y hy
      simpa using hasymm x y (hback y hy)
    rw [hfirst, hrest, append_nil]
  rw [hkept]
  constructor
  · intro htake
    by_contra hle
    rw [take_append_of_le_length (by omega)] at htake
    exact hirrefl (hfront x (mem_of_mem_take htake) x mem_cons_self)
  · intro hlt
    rw [take_append, mem_append]
    right
    obtain ⟨k, hk⟩ : ∃ k, n - front.length = k + 1 := ⟨n - front.length - 1, by omega⟩
    rw [hk, take_succ_cons]
    exact mem_cons_self

/-! ## Pages after a key -/

section Keyset

universe w

variable {κ : Type w} {key : α → κ} {below : κ → κ → Prop} [DecidableRel below]

/-- What comes after a key, in a list whose keys go down. -/
def after (key : α → κ) (below : κ → κ → Prop) [DecidableRel below] (l : List α)
    (cursor : Option κ) : List α :=
  l.filter fun x => cursor.all fun k => below (key x) k

/-- Reading page after page, each from where the one before it points to. -/
inductive Reading {ε β : Type v} (page : Option κ → Except ε (List β × Option κ)) :
    Option κ → List β → Prop
  | last {cursor : Option κ} {items : List β} :
      page cursor = .ok (items, none) → Reading page cursor items
  | more {cursor : Option κ} {next : κ} {items rest : List β} :
      page cursor = .ok (items, some next) → Reading page (some next) rest →
      Reading page cursor (items ++ rest)

variable {l front back : List α} {x : α} (hsorted : l.Pairwise fun a b => below (key b) (key a))
  (htrans : ∀ a b c, below a b → below b c → below a c) (hirrefl : ∀ a, ¬ below a a)

include hsorted htrans hirrefl in
theorem filter_below (hl : l = front ++ x :: back) :
    l.filter (fun y => below (key y) (key x)) = back := by
  subst hl
  rw [pairwise_append, pairwise_cons] at hsorted
  obtain ⟨-, ⟨hback, -⟩, hfront⟩ := hsorted
  have hnone : front.filter (fun y => below (key y) (key x)) = [] := by
    rw [filter_eq_nil_iff]
    intro y hy
    have hyx := hfront y hy x mem_cons_self
    simpa using fun hxy => hirrefl _ (htrans _ _ _ hxy hyx)
  have hall : back.filter (fun y => below (key y) (key x)) = back := by
    rw [filter_eq_self]
    intro y hy
    simpa using hback y hy
  rw [filter_append, filter_cons_of_neg (by simpa using hirrefl _), hnone, hall, nil_append]

include hsorted htrans hirrefl in
/-- A page that ends at `x` leaves what is below `x`. -/
theorem after_drop {cursor : Option κ} {n : Nat}
    (hlast : ((after key below l cursor).take n).getLast? = some x) :
    after key below l (some (key x)) = (after key below l cursor).drop n := by
  obtain ⟨front, hfront⟩ := getLast?_eq_some_iff.mp hlast
  have hsplit : after key below l cursor
      = front ++ x :: (after key below l cursor).drop n := by
    rw [← singleton_append, ← append_assoc, ← hfront, take_append_drop]
  have hx : x ∈ after key below l cursor := by
    rw [hsplit]
    exact mem_append_right _ mem_cons_self
  have hbelow := (mem_filter.mp hx).2
  -- whatever is below `x` is below the cursor
  have hsame : after key below l (some (key x))
      = (after key below l cursor).filter fun y => below (key y) (key x) := by
    rw [after, after, filter_filter]
    refine filter_congr fun y _ => ?_
    by_cases hy : below (key y) (key x)
    · have hcursor : (cursor.all fun k => decide (below (key y) k)) = true := by
        cases cursor with
        | none => rfl
        | some k => exact decide_eq_true (htrans _ _ _ hy (of_decide_eq_true hbelow))
      simp [hy, hcursor]
    · simp [hy]
  rw [hsame]
  exact filter_below (hsorted.sublist filter_sublist) htrans hirrefl hsplit

variable {ε β : Type v} {page : Option κ → Except ε (List β × Option κ)} {f : α → β} {n : Nat}
  (hpage : ∀ cursor, page cursor = .ok (((after key below l cursor).take n).map f,
    if n < (after key below l cursor).length then
      ((after key below l cursor).take n).getLast?.map key else none))

include hsorted htrans hirrefl hpage in
/-- **Pages of a list that is sorted by its keys make up the list**, from wherever one starts,
and whatever the size of a page. -/
theorem reading_iff (hn : 0 < n) {cursor : Option κ} {items : List β} :
    Reading page cursor items ↔ items = (after key below l cursor).map f := by
  have hnext {cursor : Option κ} {x : α}
      (hlast : ((after key below l cursor).take n).getLast? = some x) :
      ((after key below l cursor).take n).map f ++ (after key below l (some (key x))).map f
        = (after key below l cursor).map f := by
    rw [after_drop hsorted htrans hirrefl hlast, ← map_append, take_append_drop]
  constructor
  · intro h
    induction h with
    | @last cursor items hok =>
      rw [hpage] at hok
      split_ifs at hok with hlong
      · simp only [Except.ok.injEq, Prod.mk.injEq, Option.map_eq_none_iff,
          getLast?_eq_none_iff] at hok
        have hempty := hok.2
        rw [take_eq_nil_iff] at hempty
        rcases hempty with hzero | hnil
        · omega
        · simp [hnil] at hlong
      · cases hok
        rw [take_of_length_le (Nat.le_of_not_lt hlong)]
    | @more cursor next items rest hok _ ih =>
      rw [hpage] at hok
      split_ifs at hok with hlong
      · simp only [Except.ok.injEq, Prod.mk.injEq, Option.map_eq_some_iff] at hok
        obtain ⟨rfl, x, hlast, rfl⟩ := hok
        rw [ih, hnext hlast]
      · simp at hok
  · rintro rfl
    -- by induction on what is left to be read
    induction hlength : (after key below l cursor).length using Nat.strong_induction_on
      generalizing cursor with
    | _ length ih =>
      by_cases hlong : n < (after key below l cursor).length
      · obtain ⟨x, hlast⟩ : ∃ x, ((after key below l cursor).take n).getLast? = some x := by
          rw [← Option.isSome_iff_exists, getLast?_isSome, ne_eq, take_eq_nil_iff]
          rintro (hzero | hnil)
          · omega
          · simp [hnil] at hlong
        have hdrop := after_drop hsorted htrans hirrefl hlast
        have hrest : Reading page (some (key x)) ((after key below l (some (key x))).map f) := by
          refine ih _ ?_ rfl
          rw [hdrop, length_drop]
          omega
        rw [← hnext hlast]
        refine .more ?_ hrest
        rw [hpage, if_pos hlong, hlast, Option.map_some]
      · refine .last ?_
        rw [hpage, if_neg hlong, take_of_length_le (Nat.le_of_not_lt hlong)]

end Keyset

end NewsCraft.Lib.Paging
