import Mathlib.Data.List.MinMax
import Mathlib.Data.List.Nodup
import Mathlib.Logic.Relation
import Mathlib.Tactic.Common

/-!
# Version chains

A history keeps its versions newest first, each with a name, a number and the version it was
made from. `Chain` says that every version points to the one right below it and that numbers
grow. In a chain every version is an ancestor of the newest, and no version has two
children.
-/

namespace NewsCraft.Lib.VersionChain

open List

universe u v

variable {α : Type u} {κ : Type v}

/-- How a version names itself, the version it was made from and its place. -/
structure Naming (α : Type u) (κ : Type v) where
  name : α → κ
  parent : α → Option κ
  number : α → Nat

variable {N : Naming α κ}

/-- Every version was made from the one below it, under a higher number. -/
def Chain (N : Naming α κ) : List α → Prop
  | [] => True
  | x :: xs => N.parent x = xs.head?.map N.name ∧ (∀ y ∈ xs, N.number y < N.number x) ∧ Chain N xs

variable {xs : List α}

/-- The newest version is the one with the highest number. -/
theorem argmax_eq_head? (h : Chain N xs) : xs.argmax N.number = xs.head? := by
  cases xs with
  | nil => rfl
  | cons x xs =>
    obtain ⟨-, hlt, -⟩ := h
    rw [argmax_cons]
    cases hmax : xs.argmax N.number with
    | none => rfl
    | some y =>
      have hless := hlt y (argmax_mem hmax)
      have hno : ¬ N.number x < N.number y := by omega
      simp [hno]

variable {x : α}

/-- A version made from the one with the highest number, under a higher number, extends
the chain. -/
theorem Chain.extend (h : Chain N xs) (hparent : N.parent x = (xs.argmax N.number).map N.name)
    (hnumber : ∀ y ∈ xs, N.number y < N.number x) : Chain N (x :: xs) := by
  rw [argmax_eq_head? h] at hparent
  exact ⟨hparent, hnumber, h⟩

/-! ## What a chain rules out -/

/-- `y` was made from `x`. -/
def MadeFrom (N : Naming α κ) (xs : List α) (y x : α) : Prop :=
  x ∈ xs ∧ N.parent y = some (N.name x)

theorem madeFrom_weaken {y z : α} (h : MadeFrom N xs y x) : MadeFrom N (z :: xs) y x :=
  ⟨mem_cons_of_mem z h.1, h.2⟩

/-- **No version is bypassed**: each is an ancestor of the newest. -/
theorem Chain.ancestor (h : Chain N (x :: xs)) {y : α} (hy : y ∈ x :: xs) :
    Relation.ReflTransGen (MadeFrom N (x :: xs)) x y := by
  induction xs generalizing x with
  | nil =>
    rw [mem_singleton] at hy
    subst hy
    exact .refl
  | cons z zs ih =>
    rcases mem_cons.mp hy with rfl | hrest
    · exact .refl
    have hstep : MadeFrom N (x :: z :: zs) x z :=
      ⟨mem_cons_of_mem x mem_cons_self, h.1⟩
    have hbelow : Relation.ReflTransGen (MadeFrom N (z :: zs)) z y := ih h.2.2 hrest
    exact .head hstep (Relation.ReflTransGen.mono (fun _ _ hmade => madeFrom_weaken hmade) _ _ hbelow)

theorem Chain.parent_lt (h : Chain N xs) (hx : x ∈ xs) {k : κ} (hk : N.parent x = some k) :
    ∃ y ∈ xs, N.name y = k ∧ N.number y < N.number x := by
  induction xs with
  | nil => cases hx
  | cons z zs ih =>
    obtain ⟨hparent, hlt, hrest⟩ := h
    rcases mem_cons.mp hx with rfl | hx
    · rw [hparent] at hk
      obtain ⟨y, hhead, rfl⟩ := Option.map_eq_some_iff.mp hk
      have hy := mem_of_mem_head? (Option.mem_def.mpr hhead)
      exact ⟨y, mem_cons_of_mem x hy, rfl, hlt y hy⟩
    · obtain ⟨y, hy, hname, hless⟩ := ih hrest hx
      exact ⟨y, mem_cons_of_mem z hy, hname, hless⟩

/-- **No version has two children.** -/
theorem Chain.parent_injective (h : Chain N xs) (hnodup : (xs.map N.name).Nodup) {y : α}
    (hx : x ∈ xs) (hy : y ∈ xs) (heq : N.parent x = N.parent y) : x = y := by
  induction xs with
  | nil => cases hx
  | cons z zs ih =>
    obtain ⟨hparent, hlt, hrest⟩ := h
    rw [map_cons, nodup_cons] at hnodup
    -- the parent of a version further down is not the version right below the newest
    have hnewest : ∀ w ∈ zs, N.parent w ≠ N.parent z := by
      intro w hw hsame
      cases zs with
      | nil => cases hw
      | cons v vs =>
        rw [hparent] at hsame
        obtain ⟨u, hu, hname, hless⟩ := hrest.parent_lt hw hsame
        obtain rfl : u = v :=
          inj_on_of_nodup_map hnodup.2 hu mem_cons_self hname
        rcases mem_cons.mp hw with rfl | hw
        · omega
        have hbelow := hrest.2.1 w hw
        omega
    rcases mem_cons.mp hx with rfl | hxs
    · rcases mem_cons.mp hy with rfl | hys
      · rfl
      · exact absurd heq.symm (hnewest y hys)
    · rcases mem_cons.mp hy with rfl | hys
      · exact absurd heq (hnewest x hxs)
      · exact ih hrest hnodup.2 hxs hys

end NewsCraft.Lib.VersionChain
