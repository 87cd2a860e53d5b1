import Mathlib.Data.List.Dedup
import Mathlib.Tactic.Common

/-!
# Joins and counts

A table is a list of rows. A left join keeps every row of its left side, and gives it once
where the right side has at most one match for it. Rows counted by a key add up to all rows.
-/

namespace NewsCraft.Lib.Relational

open List

universe u v w

variable {α : Type u} {β : Type v} {κ : Type w}

/-! ## Left joins -/

/-- The matches of a row, or the row alone. -/
def joined (a : α) : List β → List (α × Option β)
  | [] => [(a, none)]
  | b :: bs => (b :: bs).map fun b => (a, some b)

/-- `LEFT OUTER JOIN`. -/
def leftJoin (left : List α) (right : List β) (on : α → β → Bool) : List (α × Option β) :=
  left.flatMap fun a => joined a (right.filter (on a))

theorem filter_eq_of_nodup [DecidableEq κ] {right : List κ} (h : right.Nodup) (k : κ) :
    (right.filter fun b => b = k) = if k ∈ right then [k] else [] := by
  induction right with
  | nil => rfl
  | cons b right ih =>
    rw [nodup_cons] at h
    by_cases hb : b = k
    · subst hb
      have hrest : right.filter (fun b' => b' = b) = [] := by
        rw [ih h.2, if_neg h.1]
      rw [filter_cons_of_pos (by simp), hrest, if_pos mem_cons_self]
    · rw [filter_cons_of_neg (by simpa using hb), ih h.2]
      have hmem : k ∈ b :: right ↔ k ∈ right := by
        rw [mem_cons]
        exact ⟨fun hk => hk.resolve_left (Ne.symm hb), .inr⟩
      by_cases hk : k ∈ right
      · rw [if_pos hk, if_pos (hmem.mpr hk)]
      · rw [if_neg hk, if_neg fun h => hk (hmem.mp h)]

/-- **A join with distinct keys gives every row once.** -/
theorem leftJoin_of_nodup [DecidableEq κ] {right : List κ} (h : right.Nodup) (key : α → κ)
    (left : List α) :
    leftJoin left right (fun a b => b = key a)
      = left.map fun a => (a, if key a ∈ right then some (key a) else none) := by
  induction left with
  | nil => rfl
  | cons a left ih =>
    rw [leftJoin, flatMap_cons, ← leftJoin, ih, map_cons, filter_eq_of_nodup h]
    by_cases hk : key a ∈ right
    · rw [if_pos hk, if_pos hk]
      rfl
    · rw [if_neg hk, if_neg hk]
      rfl

/-! ## Counts -/

/-- `sum(values)`. -/
def total (values : List Nat) : Nat := values.foldr (fun n rest => n + rest) 0

@[simp] theorem total_cons (n : Nat) (values : List Nat) : total (n :: values) = n + total values :=
  rfl

variable [DecidableEq κ]

/-- `SELECT key, count(*) ... GROUP BY key`. -/
def groupCount (keys : List κ) : List (κ × Nat) := keys.dedup.map fun k => (k, keys.count k)

theorem count_filter_ne {k k' : κ} (h : k' ≠ k) (keys : List κ) :
    (keys.filter fun x => x ≠ k).count k' = keys.count k' := by
  rw [count_filter]
  exact decide_eq_true h

theorem length_filter_ne_add_count (keys : List κ) (k : κ) :
    (keys.filter fun x => x ≠ k).length + keys.count k = keys.length := by
  induction keys with
  | nil => rfl
  | cons x keys ih =>
    by_cases hx : x = k
    · subst hx
      rw [filter_cons_of_neg (by simp), count_cons_self, length_cons]
      omega
    · rw [filter_cons_of_pos (by simpa using hx), count_cons_of_ne hx,
        length_cons, length_cons]
      omega

/-- Counts over distinct keys that leave none out add up. -/
theorem total_count {groups keys : List κ} (hnodup : groups.Nodup)
    (hall : ∀ k ∈ keys, k ∈ groups) : total (groups.map fun k => keys.count k) = keys.length := by
  induction groups generalizing keys with
  | nil =>
    have hkeys : keys = [] := eq_nil_iff_forall_not_mem.mpr fun k hk =>
      not_mem_nil (hall k hk)
    rw [hkeys]
    rfl
  | cons k groups ih =>
    rw [nodup_cons] at hnodup
    have hrest : groups.map (fun k' => (keys.filter fun x => x ≠ k).count k')
        = groups.map fun k' => keys.count k' := by
      refine map_congr_left ?_
      intro k' hk'
      refine count_filter_ne ?_ keys
      intro heq
      exact hnodup.1 (heq ▸ hk')
    have hkept : ∀ k' ∈ keys.filter (fun x => x ≠ k), k' ∈ groups := by
      intro k' hk'
      obtain ⟨hmem, hne⟩ := mem_filter.mp hk'
      exact (mem_cons.mp (hall k' hmem)).resolve_left (of_decide_eq_true hne)
    have hsum := ih hnodup.2 hkept
    rw [hrest] at hsum
    rw [map_cons, total_cons, hsum, Nat.add_comm]
    exact length_filter_ne_add_count keys k

/-- **The counts of all groups add up to the number of rows.** -/
theorem total_groupCount (keys : List κ) :
    total ((groupCount keys).map Prod.snd) = keys.length := by
  rw [groupCount, map_map]
  exact total_count (nodup_dedup keys) fun k hk => mem_dedup.mpr hk

theorem count_of_mem_groupCount {keys : List κ} {k : κ} {n : Nat} (h : (k, n) ∈ groupCount keys) :
    n = keys.count k := by
  obtain ⟨k', -, heq⟩ := mem_map.mp h
  cases heq
  rfl

end NewsCraft.Lib.Relational
