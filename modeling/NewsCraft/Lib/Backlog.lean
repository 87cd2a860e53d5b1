import Mathlib.Data.List.Basic
import Mathlib.Order.MinMax

/-!
# Backlogs

A consumer goes up a line of items and keeps a mark: everything from a cut up to the mark is
taken. New items come at the top. What is above the mark is read backwards, page by page,
from a head down to a base, and taken upwards.

What is taken stays covered up to the mark while what is pending has no gaps. The file says
what pages must be for that, read in one scan or read once more, the oldest first.
-/

namespace NewsCraft.Lib.Backlog

open List

universe u v

variable {α : Type u} {ι : Type v} [LinearOrder ι] (pos : α → ι)

/-- Every item between the cut and the mark is taken. -/
def Covered (items : List α) (taken : α → Prop) (cut mark : ι) : Prop :=
  ∀ x ∈ items, cut < pos x → pos x ≤ mark → taken x

/-- Below a pending item everything is pending or under the mark. -/
def Gapless (items : List α) (mark : ι) (pending : List α) : Prop :=
  ∀ y ∈ pending, ∀ x ∈ items, pos x < pos y → pos x ≤ mark ∨ x ∈ pending

/-- Up to `top` everything is pending or under the mark. -/
def ReachedTo (items : List α) (mark : ι) (pending : List α) (top : ι) : Prop :=
  ∀ x ∈ items, pos x ≤ top → pos x ≤ mark ∨ x ∈ pending

/-- What is asked for goes down to the base. -/
def DownTo (items : List α) (base : ι) (asked : α → Prop) : Prop :=
  ∀ y ∈ items, asked y → ∀ x ∈ items, base < pos x → pos x < pos y → asked x

/-- Below what was read everything down to the base was read too or is still to be. -/
def Tail (items : List α) (base : ι) (rest : α → Prop) (read : List α) : Prop :=
  ∀ y ∈ read, ∀ x ∈ items, base < pos x → pos x < pos y → rest x ∨ x ∈ read

/-- A page has the highest of what is asked for, and leaves `rest`. -/
structure Page (items : List α) (asked rest : α → Prop) (page : List α) : Prop where
  sound : ∀ y ∈ page, y ∈ items ∧ asked y
  left : ∀ x ∈ items, (rest x ↔ asked x ∧ x ∉ page)
  older : ∀ x ∈ items, rest x → ∀ y ∈ page, pos x < pos y

variable {pos} {items pending page read : List α} {taken asked rest : α → Prop}
  {base cut mark top : ι} {x y : α}

/-! ## Taking -/

theorem Gapless.nil : Gapless pos items mark [] := fun _ hy => absurd hy not_mem_nil

theorem Covered.take (h : Covered pos items taken cut mark)
    (hgapless : Gapless pos items mark (y :: pending)) (hleast : ∀ z ∈ pending, pos y ≤ pos z)
    (hsame : ∀ x ∈ items, pos x = pos y → x = y) :
    Covered pos items (fun x => taken x ∨ x = y) cut (max mark (pos y)) := by
  intro x hx hcut hmark
  by_cases hold : pos x ≤ mark
  · exact .inl (h x hx hcut hold)
  have hle : pos x ≤ pos y := (le_max_iff.mp hmark).resolve_left hold
  rcases lt_or_eq_of_le hle with hlt | heq
  · rcases hgapless y mem_cons_self x hx hlt with hunder | hpending
    · exact absurd hunder hold
    rcases mem_cons.mp hpending with hy | hrest
    · exact .inr hy
    · exact absurd (hleast x hrest) (not_le_of_gt hlt)
  · exact .inr (hsame x hx heq)

theorem Gapless.take (h : Gapless pos items mark (y :: pending)) :
    Gapless pos items (max mark (pos y)) pending := by
  intro z hz x hx hlt
  rcases h z (mem_cons_of_mem y hz) x hx hlt with hunder | hpending
  · exact .inl (le_max_of_le_left hunder)
  rcases mem_cons.mp hpending with heq | hrest
  · rw [heq]
    exact .inl (le_max_right mark (pos y))
  · exact .inr hrest

/-! ## Arrivals -/

theorem Covered.arrive (h : Covered pos items taken cut mark) (hnew : mark < pos y) :
    Covered pos (y :: items) taken cut mark := by
  intro x hx hcut hmark
  rcases mem_cons.mp hx with heq | hx
  · rw [heq] at hmark
    exact absurd hmark (not_le_of_gt hnew)
  · exact h x hx hcut hmark

theorem Gapless.arrive (h : Gapless pos items mark pending) (hnew : ∀ z ∈ pending, pos z < pos y) :
    Gapless pos (y :: items) mark pending := by
  intro z hz x hx hlt
  rcases mem_cons.mp hx with heq | hx
  · rw [heq] at hlt
    exact absurd hlt (not_lt_of_gt (hnew z hz))
  · exact h z hz x hx hlt

theorem ReachedTo.arrive (h : ReachedTo pos items mark pending top) (hnew : top < pos y) :
    ReachedTo pos (y :: items) mark pending top := by
  intro x hx hle
  rcases mem_cons.mp hx with heq | hx
  · rw [heq] at hle
    exact absurd hle (not_le_of_gt hnew)
  · exact h x hx hle

theorem DownTo.arrive (h : DownTo pos items base asked) (hnew : ∀ z ∈ items, pos z < pos y)
    (hasked : asked y → ∀ x ∈ items, base < pos x → asked x) :
    DownTo pos (y :: items) base asked := by
  intro z hz hz' x hx hbase hlt
  rcases mem_cons.mp hz with heq | hz
  · rcases mem_cons.mp hx with hxy | hx
    · rw [hxy, ← heq]
      exact hz'
    · exact hasked (heq ▸ hz') x hx hbase
  · rcases mem_cons.mp hx with heq | hx
    · rw [heq] at hlt
      exact absurd hlt (not_lt_of_gt (hnew z hz))
    · exact h z hz hz' x hx hbase hlt

theorem Tail.arrive (h : Tail pos items base rest read) (hnew : ∀ z ∈ read, pos z < pos y) :
    Tail pos (y :: items) base rest read := by
  intro z hz x hx hbase hlt
  rcases mem_cons.mp hx with heq | hx
  · rw [heq] at hlt
    exact absurd hlt (not_lt_of_gt (hnew z hz))
  · exact h z hz x hx hbase hlt

/-! ## Reading backwards -/

theorem DownTo.left (h : DownTo pos items base asked) (hpage : Page pos items asked rest page) :
    DownTo pos items base rest := by
  intro y hy hrest x hx hbase hlt
  obtain ⟨hasked, -⟩ := (hpage.left y hy).mp hrest
  refine (hpage.left x hx).mpr ⟨h y hy hasked x hx hbase hlt, fun hread => ?_⟩
  exact absurd (hpage.older y hy hrest x hread) (not_lt_of_gt hlt)

theorem Tail.nil : Tail pos items base rest [] := fun _ hy => absurd hy not_mem_nil

theorem Tail.append (h : Tail pos items base asked read) (hdown : DownTo pos items base asked)
    (hpage : Page pos items asked rest page) : Tail pos items base rest (read ++ page) := by
  have hstep : ∀ x ∈ items, asked x → rest x ∨ x ∈ read ++ page := by
    intro x hx hasked
    by_cases hread : x ∈ page
    · exact .inr (mem_append_right _ hread)
    · exact .inl ((hpage.left x hx).mpr ⟨hasked, hread⟩)
  intro y hy x hx hbase hlt
  rcases mem_append.mp hy with hy | hy
  · rcases h y hy x hx hbase hlt with hasked | hread
    · exact hstep x hx hasked
    · exact .inr (mem_append_left _ hread)
  · obtain ⟨hyItems, hyAsked⟩ := hpage.sound y hy
    exact hstep x hx (hdown y hyItems hyAsked x hx hbase hlt)

/-- Nothing is left to be read: what was read has no gaps above the base. -/
theorem Tail.gapless (h : Tail pos items base rest read) (hrest : ∀ x ∈ items, ¬ rest x)
    (hbase : base ≤ mark) : Gapless pos items mark read := by
  intro y hy x hx hlt
  by_cases hx' : base < pos x
  · rcases h y hy x hx hx' hlt with hleft | hread
    · exact absurd hleft (hrest x hx)
    · exact .inr hread
  · exact .inl (le_trans (not_lt.mp hx') hbase)

/-! ## Reading once more -/

/-- Without gaps everything up to a pending item is reached. -/
theorem Gapless.reachedTo (h : Gapless pos items mark pending) (hy : y ∈ pending)
    (hsame : ∀ x ∈ items, pos x = pos y → x = y) : ReachedTo pos items mark pending (pos y) := by
  intro x hx hle
  rcases lt_or_eq_of_le hle with hlt | heq
  · exact h y hy x hx hlt
  rw [hsame x hx heq]
  exact .inr hy

theorem Gapless.append (h : Gapless pos items mark pending)
    (hreached : ReachedTo pos items mark pending top) (hdown : DownTo pos items base asked)
    (hbase : base ≤ mark) (hpage : ∀ y ∈ page, y ∈ items ∧ asked y)
    (hleft : ∀ x ∈ items, asked x → x ∉ page → pos x ≤ top) :
    Gapless pos items mark (pending ++ page) := by
  intro y hy x hx hlt
  rcases mem_append.mp hy with hy | hy
  · exact (h y hy x hx hlt).imp_right (mem_append_left page)
  by_cases hx' : base < pos x
  · obtain ⟨hyItems, hyAsked⟩ := hpage y hy
    have hasked := hdown y hyItems hyAsked x hx hx' hlt
    by_cases hread : x ∈ page
    · exact .inr (mem_append_right _ hread)
    · exact (hreached x hx (hleft x hx hasked hread)).imp_right (mem_append_left page)
  · exact .inl (le_trans (not_lt.mp hx') hbase)

end NewsCraft.Lib.Backlog
