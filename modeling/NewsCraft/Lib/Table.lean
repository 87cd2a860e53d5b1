import Mathlib.Data.List.Nodup
import Mathlib.Tactic.Common

/-!
# Keyed tables

A relational table as its rows, with the primary key's uniqueness carried by the type.
`lookup` is a select by primary key, `put` writes a loaded row back (and does nothing when
the row is gone) and `insert` adds a row unless its key is taken.

`All` says every row satisfies a predicate, and a write keeps it when the row written does.
`lookup_put` is the frame rule: a write changes one key and no other.
-/

namespace NewsCraft.Lib

open List

universe u v

/-- Rows of type `ρ` are identified by a primary key of type `κ`. -/
class Keyed (ρ : Type u) (κ : outParam (Type v)) where
  key : ρ → κ

open Keyed (key)

/-- Rows no two of which share a primary key. -/
structure Table (ρ : Type u) {κ : Type v} [Keyed ρ κ] where
  rows : List ρ
  nodup : (rows.map key).Nodup

namespace Table

variable {ρ : Type u} {κ : Type v} [Keyed ρ κ] [DecidableEq κ]

/-- The table without rows. -/
def empty : Table ρ := ⟨[], nodup_nil⟩

/-- The row under key `k`. -/
def lookup (t : Table ρ) (k : κ) : Option ρ := t.rows.find? fun r => key r = k

theorem map_key_replace (l : List ρ) (r : ρ) :
    (l.map fun x => if key x = key r then r else x).map key = l.map key := by
  rw [map_map]
  refine map_congr_left fun x _ => ?_
  by_cases h : key x = key r
  · simp [Function.comp, h]
  · simp [Function.comp, h]

/-- Write `r` back over the row that has its key. -/
def put (t : Table ρ) (r : ρ) : Table ρ where
  rows := t.rows.map fun x => if key x = key r then r else x
  nodup := by rw [map_key_replace]; exact t.nodup

/-- Add `r` unless its key is taken. -/
def insert (t : Table ρ) (r : ρ) : Table ρ :=
  if h : key r ∈ t.rows.map key then t
  else ⟨r :: t.rows, by rw [map_cons]; exact nodup_cons.mpr ⟨h, t.nodup⟩⟩

/-- Remove the row under key `k`. -/
def erase (t : Table ρ) (k : κ) : Table ρ where
  rows := t.rows.filter fun r => key r ≠ k
  nodup := (t.nodup.sublist (filter_sublist.map key))

omit [DecidableEq κ] in
theorem map_key_map {f : ρ → ρ} (hf : ∀ r, key (f r) = key r) (l : List ρ) :
    (l.map f).map key = l.map key := by
  rw [map_map]
  exact map_congr_left fun x _ => hf x

/-- Rewrite every row by a function that keeps primary keys. -/
def map (t : Table ρ) (f : ρ → ρ) (hf : ∀ r, key (f r) = key r) : Table ρ where
  rows := t.rows.map f
  nodup := by rw [map_key_map hf]; exact t.nodup

/-! ## Membership -/

variable {t : Table ρ} {k : κ} {r : ρ}

theorem mem_of_lookup (h : t.lookup k = some r) : r ∈ t.rows :=
  mem_of_find?_eq_some h

theorem key_of_lookup (h : t.lookup k = some r) : key r = k := by
  simpa using find?_some h

omit [DecidableEq κ] in
theorem row_unique {r' : ρ} (h : r ∈ t.rows) (h' : r' ∈ t.rows) (hk : key r = key r') : r = r' :=
  inj_on_of_nodup_map t.nodup h h' hk

theorem lookup_of_mem (h : r ∈ t.rows) : t.lookup (key r) = some r := by
  cases hl : t.lookup (key r) with
  | none =>
    rw [lookup, find?_eq_none] at hl
    exact absurd (decide_eq_true rfl) (hl r h)
  | some r' =>
    rw [row_unique (mem_of_lookup hl) h (key_of_lookup hl)]

theorem lookup_eq_some_iff : t.lookup k = some r ↔ r ∈ t.rows ∧ key r = k := by
  constructor
  · intro h
    exact ⟨mem_of_lookup h, key_of_lookup h⟩
  · rintro ⟨hm, rfl⟩
    exact lookup_of_mem hm

variable {x : ρ}

theorem mem_put (h : x ∈ (t.put r).rows) :
    (x = r ∧ ∃ y ∈ t.rows, key y = key r) ∨ (x ∈ t.rows ∧ key x ≠ key r) := by
  obtain ⟨y, hy, hx⟩ := mem_map.mp h
  by_cases hk : key y = key r
  · rw [if_pos hk] at hx
    exact .inl ⟨hx.symm, y, hy, hk⟩
  · rw [if_neg hk] at hx
    subst hx
    exact .inr ⟨hy, hk⟩

theorem mem_put_self {y : ρ} (h : y ∈ t.rows) (hk : key y = key r) : r ∈ (t.put r).rows :=
  mem_map.mpr ⟨y, h, if_pos hk⟩

theorem mem_put_of_ne (h : x ∈ t.rows) (hk : key x ≠ key r) : x ∈ (t.put r).rows :=
  mem_map.mpr ⟨x, h, if_neg hk⟩

theorem mem_insert (h : x ∈ (t.insert r).rows) : x = r ∨ x ∈ t.rows := by
  rw [insert] at h
  split at h
  · exact .inr h
  · exact mem_cons.mp h

theorem mem_insert_of_mem (h : x ∈ t.rows) : x ∈ (t.insert r).rows := by
  rw [insert]
  split
  · exact h
  · exact mem_cons_of_mem _ h

theorem mem_erase : x ∈ (t.erase k).rows ↔ x ∈ t.rows ∧ key x ≠ k := by
  rw [erase, mem_filter, decide_eq_true_iff]

theorem map_put {β : Type*} {g : ρ → β} {r' : ρ} (hr : r ∈ t.rows) (hk : key r' = key r)
    (hg : g r' = g r) : (t.put r').rows.map g = t.rows.map g := by
  rw [put, map_map]
  refine map_congr_left fun x hx => ?_
  by_cases hkey : key x = key r'
  · have hx' : x = r := row_unique hx hr (hkey.trans hk)
    rw [Function.comp, if_pos hkey, hg, hx']
  · rw [Function.comp, if_neg hkey]

/-! ## Frame rules -/

theorem lookup_put_of_ne (hk : k ≠ key r) : (t.put r).lookup k = t.lookup k := by
  cases hl : t.lookup k with
  | some x =>
    have hx := lookup_eq_some_iff.mp hl
    exact lookup_eq_some_iff.mpr ⟨mem_put_of_ne hx.1 (by rw [hx.2]; exact hk), hx.2⟩
  | none =>
    cases hl' : (t.put r).lookup k with
    | none => rfl
    | some x =>
      rcases mem_put (mem_of_lookup hl') with ⟨rfl, _⟩ | ⟨hx, _⟩
      · exact absurd (key_of_lookup hl').symm hk
      rw [lookup_eq_some_iff.mpr ⟨hx, key_of_lookup hl'⟩] at hl
      exact absurd hl (by simp)

theorem lookup_put_self {y : ρ} (h : t.lookup (key r) = some y) :
    (t.put r).lookup (key r) = some r :=
  lookup_eq_some_iff.mpr ⟨mem_put_self (mem_of_lookup h) (key_of_lookup h), rfl⟩

theorem isSome_lookup_put (t : Table ρ) (r : ρ) (k : κ) :
    ((t.put r).lookup k).isSome = (t.lookup k).isSome := by
  by_cases hk : k = key r
  · subst hk
    cases hl : t.lookup (key r) with
    | some x => rw [lookup_put_self hl, Option.isSome_some, Option.isSome_some]
    | none =>
      cases hl' : (t.put r).lookup (key r) with
      | none => rfl
      | some x =>
        obtain ⟨y, hy, hkey⟩ : ∃ y ∈ t.rows, key y = key r := by
          rcases mem_put (mem_of_lookup hl') with ⟨-, hold⟩ | ⟨-, hne⟩
          · exact hold
          · exact absurd (key_of_lookup hl') hne
        rw [← hkey, lookup_of_mem hy] at hl
        cases hl
  · rw [lookup_put_of_ne hk]

theorem lookup_map {f : ρ → ρ} {hf : ∀ r, key (f r) = key r} :
    (t.map f hf).lookup k = (t.lookup k).map f := by
  cases hl : t.lookup k with
  | some r =>
    have hr := lookup_eq_some_iff.mp hl
    refine lookup_eq_some_iff.mpr ⟨mem_map_of_mem hr.1, ?_⟩
    rw [hf]
    exact hr.2
  | none =>
    cases hl' : (t.map f hf).lookup k with
    | none => rfl
    | some x =>
      obtain ⟨y, hy, rfl⟩ := mem_map.mp (mem_of_lookup hl')
      have hk := key_of_lookup hl'
      rw [hf] at hk
      rw [lookup_eq_some_iff.mpr ⟨hy, hk⟩] at hl
      exact absurd hl (by simp)

theorem rows_insert (h : t.lookup (key r) = none) : (t.insert r).rows = r :: t.rows := by
  have hfree : key r ∉ t.rows.map key := by
    intro hmem
    obtain ⟨x, hx, hk⟩ := mem_map.mp hmem
    rw [← hk, lookup_of_mem hx] at h
    exact absurd h (by simp)
  rw [insert, dif_neg hfree]

theorem lookup_insert (h : t.lookup (key r) = none) :
    (t.insert r).lookup (key r) = some r ∧ ∀ k, k ≠ key r → (t.insert r).lookup k = t.lookup k := by
  have hrows := rows_insert h
  refine ⟨?_, fun k hk => ?_⟩
  · rw [lookup, hrows, find?_cons_of_pos (by simp)]
  rw [lookup, hrows, find?_cons_of_neg (by simpa using Ne.symm hk)]
  rfl

theorem lookup_insert_of_some (h : t.lookup k = some x) : (t.insert r).lookup k = some x :=
  lookup_eq_some_iff.mpr ⟨mem_insert_of_mem (mem_of_lookup h), key_of_lookup h⟩

theorem lookup_erase_of_ne {k' : κ} (hk : k' ≠ k) : (t.erase k).lookup k' = t.lookup k' := by
  cases hl : t.lookup k' with
  | some x =>
    have hx := lookup_eq_some_iff.mp hl
    have hkey : key x ≠ k := hx.2.symm ▸ hk
    exact lookup_eq_some_iff.mpr ⟨mem_erase.mpr ⟨hx.1, hkey⟩, hx.2⟩
  | none =>
    cases hl' : (t.erase k).lookup k' with
    | none => rfl
    | some x =>
      have hx := mem_erase.mp (mem_of_lookup hl')
      rw [lookup_eq_some_iff.mpr ⟨hx.1, key_of_lookup hl'⟩] at hl
      cases hl

/-! ## Predicates on every row -/

/-- Every row satisfies `P`. -/
def All (P : ρ → Prop) (t : Table ρ) : Prop := ∀ r ∈ t.rows, P r

variable {P : ρ → Prop}

omit [DecidableEq κ] in
theorem all_empty : All P (empty : Table ρ) := by
  intro r h
  cases h

theorem All.lookup (h : All P t) (hl : t.lookup k = some r) : P r :=
  h r (mem_of_lookup hl)

theorem All.put (h : All P t) (hr : P r) : All P (t.put r) := by
  intro x hx
  rcases mem_put hx with ⟨rfl, _⟩ | ⟨hx, _⟩
  · exact hr
  · exact h x hx

theorem All.insert (h : All P t) (hr : P r) : All P (t.insert r) := by
  intro x hx
  rcases mem_insert hx with rfl | hx
  · exact hr
  · exact h x hx

/-! ## What becomes of a row -/

/-- The row is still there, and `R` leads from it to what it is now. -/
def Continues (R : ρ → ρ → Prop) (r : ρ) (t : Table ρ) : Prop :=
  ∃ later, t.lookup (key r) = some later ∧ R r later

variable {R : ρ → ρ → Prop} {old new : ρ}

theorem Continues.insert (h : Continues R r t) : Continues R r (t.insert x) := by
  obtain ⟨later, hl, hR⟩ := h
  exact ⟨later, lookup_insert_of_some hl, hR⟩

/-- A row that is written back goes on from the row that was loaded. -/
theorem Continues.put (h : Continues R r t) (hl : t.lookup k = some old)
    (hkey : key new = key old) (hstep : R r old → R r new) : Continues R r (t.put new) := by
  obtain ⟨later, hlater, hR⟩ := h
  by_cases hk : key r = key new
  · rw [← key_of_lookup hl, ← hkey] at hl
    rw [hk, hl] at hlater
    cases hlater
    exact ⟨new, hk ▸ lookup_put_self hl, hstep hR⟩
  · exact ⟨later, (lookup_put_of_ne hk).trans hlater, hR⟩

end Table

end NewsCraft.Lib
