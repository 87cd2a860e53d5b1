import Mathlib.Logic.Relation
import Mathlib.Tactic.Common

/-!
# Links to a canonical node

Nodes some of which are linked to another one. In a shallow forest a link ends
at a node that has none, so no links form a cycle and every node leads to
exactly one node without a link.

Merging a group into a root keeps a forest shallow exactly when the root is not
linked out of the group.
-/

namespace NewsCraft.Lib.Forest

universe u

variable {α : Type u} (link : α → Option α)

/-- `a` is linked to `b`. -/
def LinkedTo (a b : α) : Prop := link a = some b

/-- A node something is linked to is not linked itself. -/
def Shallow : Prop := ∀ a b, link a = some b → link b = none

/-- Following links from `a` ends at `b`. -/
def ResolvesTo (a b : α) : Prop := Relation.ReflTransGen (LinkedTo link) a b ∧ link b = none

variable {link}

theorem Shallow.end_of_path (h : Shallow link) {a b : α}
    (hpath : Relation.TransGen (LinkedTo link) a b) : link b = none := by
  cases hpath with
  | single hab => exact h _ _ hab
  | tail _ hcb => exact h _ _ hcb

theorem Shallow.acyclic (h : Shallow link) (a : α) : ¬ Relation.TransGen (LinkedTo link) a a := by
  intro hcycle
  obtain ⟨b, hab, -⟩ := Relation.TransGen.head'_iff.mp hcycle
  rw [LinkedTo, h.end_of_path hcycle] at hab
  cases hab

theorem resolvesTo_self {a : α} (h : link a = none) : ResolvesTo link a a := ⟨.refl, h⟩

theorem eq_of_unlinked {a b : α} (h : link a = none)
    (hpath : Relation.ReflTransGen (LinkedTo link) a b) : b = a := by
  rcases Relation.ReflTransGen.cases_head hpath with rfl | ⟨c, hac, -⟩
  · rfl
  rw [LinkedTo, h] at hac
  cases hac

/-- **Every node of a shallow forest leads to one root.** -/
theorem Shallow.existsUnique_resolvesTo (h : Shallow link) (a : α) : ∃! b, ResolvesTo link a b := by
  cases ha : link a with
  | none => exact ⟨a, resolvesTo_self ha, fun b hb => eq_of_unlinked ha hb.1⟩
  | some b =>
    refine ⟨b, ⟨.single ha, h a b ha⟩, ?_⟩
    rintro c ⟨hpath, hc⟩
    rcases Relation.ReflTransGen.cases_head hpath with rfl | ⟨d, had, hdc⟩
    · rw [ha] at hc
      cases hc
    · obtain rfl : d = b := Option.some.inj (had.symm.trans ha)
      exact eq_of_unlinked (h a d ha) hdc

/-! ## Merging -/

variable [DecidableEq α]

/-- The node is linked to a member of the group. -/
def linkedInto (link : α → Option α) (group : List α) (a : α) : Bool :=
  (link a).any fun b => b ∈ group

/-- Link the group, and what is linked to it, to a root that gives up a link into the group. -/
def merge (link : α → Option α) (root : α) (group : List α) (a : α) : Option α :=
  if a = root then
    if linkedInto link group a then none else link a
  else if a ∈ group ∨ linkedInto link group a then
    some root
  else
    link a

theorem linkedInto_eq_false {group : List α} {a : α} (h : linkedInto link group a = false) {b : α}
    (hab : link a = some b) : b ∉ group := by
  intro hmem
  rw [linkedInto, hab, Option.any_some, decide_eq_false_iff_not] at h
  exact h hmem

/-- **A merge keeps a forest shallow if and only if its root is linked nowhere else.** -/
theorem merge_shallow_iff (h : Shallow link) {root : α} {group : List α} {member : α}
    (hmember : member ∈ group) (hne : member ≠ root) :
    Shallow (merge link root group) ↔ ∀ b, link root = some b → b ∈ group := by
  have hroot : merge link root group root = none ↔ ∀ b, link root = some b → b ∈ group := by
    rw [merge, if_pos rfl, linkedInto]
    cases link root with
    | none => simp
    | some b => by_cases hb : b ∈ group <;> simp [hb]
  constructor
  · intro hshallow
    refine hroot.mp (hshallow member root ?_)
    rw [merge, if_neg hne, if_pos (.inl hmember)]
  · intro hinside a b hab
    have hnone := hroot.mpr hinside
    by_cases haroot : a = root
    · rw [haroot, hnone] at hab
      cases hab
    · rw [merge, if_neg haroot] at hab
      split at hab
      · cases hab
        exact hnone
      · -- a link the merge leaves alone ends outside the group, where nothing changes
        rename_i houtside
        rw [not_or] at houtside
        have hb : b ∉ group := linkedInto_eq_false (by simpa using houtside.2) hab
        have hend := h a b hab
        by_cases hbroot : b = root
        · rw [hbroot]
          exact hnone
        · rw [merge, if_neg hbroot, if_neg, hend]
          simp [hb, linkedInto, hend]

end NewsCraft.Lib.Forest
