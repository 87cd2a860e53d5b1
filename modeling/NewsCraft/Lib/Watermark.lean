import Mathlib.Data.List.Sort
import Mathlib.Order.MinMax

/-!
# Watermarks

A consumer takes numbered items one by one and keeps only the highest number. After a stop
it resumes above that, so an item it has not taken is found again only while its number is
above the mark. The file says when that is so at every point of a run over a list, and what
sorting the list first makes of it.
-/

namespace NewsCraft.Lib.Watermark

open List

universe u v

variable {α : Type u} [LinearOrder α]

/-- The mark once the numbers `ids` have been seen. -/
def advance (mark : Option α) (ids : List α) : Option α :=
  match ids.max?, mark with
  | none, _ => mark
  | some highest, none => some highest
  | some highest, some current => some (max current highest)

/-- Some number of `ids` is above the mark. -/
def Above (mark : Option α) (ids : List α) : Prop := ∃ id ∈ ids, ∀ m ∈ mark, m < id

/-- The highest number of `ids` is above every number of `seen`. -/
def Exceeds (seen ids : List α) : Prop := ∃ id ∈ ids, ∀ s ∈ seen, s < id

theorem forall_advance_lt {mark : Option α} {ids : List α} {x : α} :
    (∀ m ∈ advance mark ids, m < x) ↔ (∀ m ∈ mark, m < x) ∧ ∀ id ∈ ids, id < x := by
  unfold advance
  cases hmax : ids.max? with
  | none =>
    have hnil : ids = [] := max?_eq_none_iff.mp hmax
    simp [hnil]
  | some highest =>
    obtain ⟨hmem, hle⟩ := max?_eq_some_iff.mp hmax
    have hids : (∀ id ∈ ids, id < x) ↔ highest < x := by
      constructor
      · intro h
        exact h highest hmem
      · intro h id hid
        exact lt_of_le_of_lt (hle id hid) h
    cases mark with
    | none | some _ => simp [hids]

/-- Of two numbers of a list that pass two tests closed upwards, one passes both. -/
theorem exists_mem_and {ids : List α} {P Q : α → Prop} (hP : ∀ x y, x ≤ y → P x → P y)
    (hQ : ∀ x y, x ≤ y → Q x → Q y) :
    (∃ id ∈ ids, P id ∧ Q id) ↔ (∃ id ∈ ids, P id) ∧ ∃ id ∈ ids, Q id := by
  constructor
  · rintro ⟨id, hid, hp, hq⟩
    exact ⟨⟨id, hid, hp⟩, id, hid, hq⟩
  · rintro ⟨⟨x, hx, hp⟩, y, hy, hq⟩
    rcases le_total x y with hxy | hyx
    · exact ⟨y, hy, hP x y hxy hp, hq⟩
    · exact ⟨x, hx, hp, hQ y x hyx hq⟩

theorem above_advance {mark : Option α} {seen ids : List α} :
    Above (advance mark seen) ids ↔ Above mark ids ∧ Exceeds seen ids := by
  unfold Above Exceeds
  simp only [forall_advance_lt]
  refine exists_mem_and ?_ ?_
  · intro x y hxy h m hm
    exact lt_of_lt_of_le (h m hm) hxy
  · intro x y hxy h s hs
    exact lt_of_lt_of_le (h s hs) hxy

/-! ## A run over a list of items -/

variable {ι : Type v} (ids : ι → List α)

/-- The mark after the items of `items`, in order. -/
def after (mark : Option α) (items : List ι) : Option α :=
  items.foldl (fun mark item => advance mark (ids item)) mark

/-- Wherever the run over `items` stops, every item it has not reached still has
a number above the mark. -/
def Resumable (mark : Option α) (items : List ι) : Prop :=
  ∀ taken rest, items = taken ++ rest → ∀ item ∈ rest, Above (after ids mark taken) (ids item)

variable {ids}

/-- **A run can be resumed anywhere exactly when the highest numbers grow along it.** -/
theorem resumable_iff {mark : Option α} {items : List ι} :
    Resumable ids mark items ↔ (∀ item ∈ items, Above mark (ids item))
      ∧ items.Pairwise fun a b => Exceeds (ids a) (ids b) := by
  induction items generalizing mark with
  | nil =>
    constructor
    · intro _
      exact ⟨fun item h => absurd h not_mem_nil, List.Pairwise.nil⟩
    · intro _ taken rest h item hitem
      rw [(append_eq_nil_iff.mp h.symm).2] at hitem
      cases hitem
  | cons first items ih =>
    have htail : Resumable ids mark (first :: items)
        ↔ (∀ item ∈ first :: items, Above mark (ids item))
          ∧ Resumable ids (advance mark (ids first)) items := by
      constructor
      · intro h
        refine ⟨fun item hitem => h [] (first :: items) rfl item hitem, ?_⟩
        intro taken rest heq item hitem
        exact h (first :: taken) rest (by rw [heq, cons_append]) item hitem
      · rintro ⟨hnow, hlater⟩ taken rest heq item hitem
        cases taken with
        | nil =>
          rw [nil_append] at heq
          exact hnow item (heq ▸ hitem)
        | cons x taken =>
          rw [cons_append, List.cons.injEq] at heq
          obtain ⟨rfl, heq⟩ := heq
          exact hlater taken rest heq item hitem
    rw [htail, ih, pairwise_cons]
    constructor
    · rintro ⟨hnow, habove, hpair⟩
      exact ⟨hnow, fun b hb => (above_advance.mp (habove b hb)).2, hpair⟩
    · rintro ⟨hnow, hfirst, hpair⟩
      refine ⟨hnow, fun b hb => above_advance.mpr ⟨hnow b ?_, hfirst b hb⟩, hpair⟩
      exact mem_cons_of_mem first hb

/-! ## Sorting first -/

variable {r : ι → ι → Prop} [DecidableRel r] {R : ι → ι → Prop}

theorem pairwise_orderedInsert_iff {a : ι} {l : List ι} (hl : l.Pairwise r)
    (htrans : ∀ x y z, r x y → r y z → r x z) :
    (l.orderedInsert r a).Pairwise R
      ↔ (∀ b ∈ l, if r a b then R a b else R b a) ∧ l.Pairwise R := by
  induction l with
  | nil => simp
  | cons b l ih =>
    obtain ⟨hb, hl⟩ := pairwise_cons.mp hl
    by_cases hab : r a b
    · -- `a` goes in front, and everything behind it is above it
      have hall : ∀ c ∈ b :: l, r a c := by
        intro c hc
        rcases mem_cons.mp hc with rfl | hc
        · exact hab
        · exact htrans a b c hab (hb c hc)
      rw [orderedInsert_cons_of_le r l hab, pairwise_cons]
      have hif : (∀ c ∈ b :: l, if r a c then R a c else R c a) ↔ ∀ c ∈ b :: l, R a c := by
        refine forall₂_congr fun c hc => ?_
        rw [if_pos (hall c hc)]
      rw [hif]
    · rw [orderedInsert_of_not_le r l hab, pairwise_cons, ih hl, pairwise_cons]
      simp only [mem_orderedInsert, forall_mem_cons, if_neg hab]
      constructor
      · rintro ⟨h, hrest, hpair⟩
        exact ⟨⟨h a (.inl rfl), hrest⟩, fun c hc => h c (.inr hc), hpair⟩
      · rintro ⟨⟨hba, hrest⟩, hbl, hpair⟩
        refine ⟨fun c hc => ?_, hrest, hpair⟩
        rcases hc with rfl | hc
        · exact hba
        · exact hbl c hc

/-- A stable sort keeps the earlier of two items first unless the later one is strictly below. -/
theorem pairwise_insertionSort_iff (htotal : ∀ x y, r x y ∨ r y x)
    (htrans : ∀ x y z, r x y → r y z → r x z) {l : List ι} :
    (l.insertionSort r).Pairwise R ↔ l.Pairwise fun a b => if r a b then R a b else R b a := by
  have : IsTrans ι r := ⟨htrans⟩
  have : Std.Total r := ⟨htotal⟩
  induction l with
  | nil => simp
  | cons a l ih =>
    have hsorted : (l.insertionSort r).Pairwise r := pairwise_insertionSort r l
    rw [insertionSort_cons, pairwise_orderedInsert_iff hsorted htrans, pairwise_cons]
    simp only [mem_insertionSort]
    exact and_congr_right fun _ => ih

end NewsCraft.Lib.Watermark
