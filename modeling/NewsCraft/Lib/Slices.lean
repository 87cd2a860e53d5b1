import Mathlib.Tactic.Common

/-!
# Slices of a list

`l[start:start + n]` for `start` in `range(0, len(l), n)`. The slices are the list again,
none is empty and none longer than `n`; only the first starts at zero, and only the last is
shorter than `n`.
-/

namespace NewsCraft.Lib

open List

variable {α : Type*}

/-- The slices of a list from `start` on. -/
def slicesFrom (n : Nat) : Nat → Nat → List α → List (Nat × List α)
  | 0, _, _ => []
  | _ + 1, _, [] => []
  | fuel + 1, start, x :: l =>
    (start, (x :: l).take n) :: slicesFrom n fuel (start + n) ((x :: l).drop n)

def slices (n : Nat) (l : List α) : List (Nat × List α) := slicesFrom n l.length 0 l

variable {n : Nat}

theorem flatMap_slicesFrom (hn : 0 < n) (fuel start : Nat) (l : List α) (hfuel : l.length ≤ fuel) :
    (slicesFrom n fuel start l).flatMap Prod.snd = l := by
  induction fuel generalizing start l with
  | zero =>
    have hnil : l = [] := eq_nil_of_length_eq_zero (by omega)
    rw [hnil]
    rfl
  | succ fuel ih =>
    cases l with
    | nil => rfl
    | cons x l =>
      have hrest : ((x :: l).drop n).length ≤ fuel := by
        simp only [length_drop, length_cons] at *
        omega
      rw [slicesFrom, flatMap_cons, ih (start + n) _ hrest]
      exact take_append_drop n (x :: l)

theorem flatMap_slices (hn : 0 < n) (l : List α) : (slices n l).flatMap Prod.snd = l :=
  flatMap_slicesFrom hn l.length 0 l (Nat.le_refl _)

variable {fuel start : Nat} {l : List α} {slice : Nat × List α}

/-- A slice starts no earlier than the first, is not empty and has no more than `n` entries. -/
theorem slice_of_mem_slicesFrom (hn : 0 < n) (h : slice ∈ slicesFrom n fuel start l) :
    start ≤ slice.1 ∧ slice.2 ≠ [] ∧ slice.2.length ≤ n := by
  induction fuel generalizing start l with
  | zero => simp [slicesFrom] at h
  | succ fuel ih =>
    cases l with
    | nil => simp [slicesFrom] at h
    | cons x l =>
      rw [slicesFrom, mem_cons] at h
      rcases h with rfl | h
      · simp only [length_take, ne_eq, take_eq_nil_iff, reduceCtorEq, or_false]
        omega
      · obtain ⟨hlater, hslice⟩ := ih h
        exact ⟨by omega, hslice⟩

/-- The first slice starts at zero, and the others later. -/
theorem slices_cons (hn : 0 < n) (x : α) (l : List α) :
    ∃ rest, slices n (x :: l) = (0, (x :: l).take n) :: rest
      ∧ (∀ slice ∈ rest, 0 < slice.1 ∧ slice.2 ≠ [] ∧ slice.2.length ≤ n) := by
  refine ⟨slicesFrom n l.length (0 + n) ((x :: l).drop n), rfl, ?_⟩
  intro slice h
  obtain ⟨hstart, hslice⟩ := slice_of_mem_slicesFrom hn h
  exact ⟨by omega, hslice⟩

end NewsCraft.Lib
