import Mathlib.Data.List.Nodup
import Mathlib.Data.List.Sort
import Mathlib.Tactic.Common

/-!
# What permutations of a list share

Sorting by a key that tells the elements of a list apart, dropping duplicates before
sorting, and a lookup by a key no two elements share give the same for every permutation.
-/

namespace NewsCraft.Lib.Canonical

open List

universe u v

variable {α : Type u} {κ : Type v}

/-- **Sorting forgets the order** of elements the relation tells apart. -/
theorem insertionSort_eq_of_perm {r : α → α → Prop} [DecidableRel r]
    (htotal : ∀ x y, r x y ∨ r y x) (htrans : ∀ x y z, r x y → r y z → r x z) {a b : List α}
    (hanti : ∀ x ∈ a, ∀ y ∈ a, r x y → r y x → x = y) (h : a.Perm b) :
    a.insertionSort r = b.insertionSort r := by
  have _ : Std.Total r := ⟨htotal⟩
  have _ : IsTrans α r := ⟨htrans⟩
  have hperm : (a.insertionSort r).Perm (b.insertionSort r) :=
    (perm_insertionSort r a).trans (h.trans (perm_insertionSort r b).symm)
  refine hperm.eq_of_pairwise (fun x y hx hy => ?_) (pairwise_insertionSort r a)
    (pairwise_insertionSort r b)
  have hmem : y ∈ a := h.mem_iff.mpr ((mem_insertionSort r).mp hy)
  exact hanti x ((mem_insertionSort r).mp hx) y hmem

section Duplicates

variable [BEq α] [LawfulBEq α]

theorem nodup_eraseDups (l : List α) : l.eraseDups.Nodup := by
  induction hn : l.length using Nat.strong_induction_on generalizing l with
  | _ n ih =>
    cases l with
    | nil => exact nodup_nil
    | cons x rest =>
      rw [eraseDups_cons, nodup_cons]
      constructor
      · rw [mem_eraseDups, mem_filter]
        simp
      · have hle := length_filter_le (fun b => !b == x) rest
        rw [length_cons] at hn
        exact ih _ (by omega) _ rfl

theorem eraseDups_perm {a b : List α} (h : ∀ x, x ∈ a ↔ x ∈ b) : a.eraseDups.Perm b.eraseDups := by
  refine (perm_ext_iff_of_nodup (nodup_eraseDups a) (nodup_eraseDups b)).mpr fun x => ?_
  rw [mem_eraseDups, mem_eraseDups]
  exact h x

end Duplicates

/-- **A lookup forgets the order** of elements with distinct keys. -/
theorem find?_eq_of_perm {p : α → Bool} {a b : List α}
    (hone : ∀ x ∈ a, ∀ y ∈ a, p x = true → p y = true → x = y) (h : a.Perm b) :
    a.find? p = b.find? p := by
  cases ha : a.find? p with
  | none =>
    rw [find?_eq_none] at ha
    refine Eq.symm (find?_eq_none.mpr fun x hx => ha x (h.mem_iff.mpr hx))
  | some x =>
    have hx := mem_of_find?_eq_some ha
    have hpx := find?_some ha
    cases hb : b.find? p with
    | none =>
      rw [find?_eq_none] at hb
      exact absurd hpx (hb x (h.mem_iff.mp hx))
    | some y =>
      have hy := h.mem_iff.mpr (mem_of_find?_eq_some hb)
      rw [hone x hx y hy hpx (find?_some hb)]

end NewsCraft.Lib.Canonical
