import Mathlib.Data.List.Induction
import Mathlib.Data.List.Nodup
import Mathlib.Data.List.Perm.Basic
import Mathlib.Logic.Function.Basic
import Mathlib.Logic.Relation
import Mathlib.Tactic.Common

/-!
# Union-find with path halving

Every node has a parent, and a root is its own. A node is deeper than its parent, which is
why following parents ends. Halving a path changes no root, and joining two nodes links the
root of one to the root of the other, so after any list of joins two nodes have the same
root exactly if a chain of joined pairs connects them.
-/

namespace NewsCraft.Lib.UnionFind

open List

/-- Parents, with a depth that falls on the way to the root. -/
structure Forest where
  parents : Nat → Nat
  depth : Nat → Nat
  descends : ∀ i, parents i ≠ i → depth (parents i) < depth i

namespace Forest

def initial : Forest where
  parents := id
  depth _ := 0
  descends _ h := absurd rfl h

variable (F : Forest)

/-- The root of a node, if it is at most so deep. -/
def rootFrom : Nat → Nat → Nat
  | 0, i => i
  | k + 1, i => if F.parents i = i then i else rootFrom k (F.parents i)

def root (i : Nat) : Nat := F.rootFrom (F.depth i) i

/-! ## Roots -/

variable {F}

variable {i : Nat}

theorem parents_of_depth_zero (h : F.depth i = 0) : F.parents i = i := by
  by_contra hne
  have hlt := F.descends i hne
  omega

theorem rootFrom_eq {k : Nat} (h : F.depth i ≤ k) : F.rootFrom k i = F.root i := by
  unfold root
  induction k using Nat.strongRecOn generalizing i with
  | ind k ih =>
    cases k with
    | zero =>
      rw [Nat.le_zero.mp h]
    | succ k =>
      cases hdepth : F.depth i with
      | zero => rw [rootFrom, rootFrom, if_pos (parents_of_depth_zero hdepth)]
      | succ d =>
        rw [rootFrom, rootFrom]
        by_cases hroot : F.parents i = i
        · rw [if_pos hroot, if_pos hroot]
        have hlt := F.descends i hroot
        rw [if_neg hroot, if_neg hroot, ih k (by omega) (by omega), ← ih d (by omega) (by omega)]

theorem root_of_parents_eq (h : F.parents i = i) : F.root i = i := by
  rw [← rootFrom_eq (Nat.le_succ _), rootFrom, if_pos h]

theorem root_parents (i : Nat) : F.root (F.parents i) = F.root i := by
  by_cases hroot : F.parents i = i
  · rw [hroot]
  have hlt := F.descends i hroot
  rw [← rootFrom_eq (i := i) (Nat.le_succ _), rootFrom, if_neg hroot,
    rootFrom_eq (Nat.le_of_lt hlt)]

/-- What holds of roots, and of a node if it holds of its parent, holds of every node. -/
theorem induction_on {P : Nat → Prop} (hroot : ∀ i, F.parents i = i → P i)
    (hparent : ∀ i, F.parents i ≠ i → P (F.parents i) → P i) (i : Nat) : P i := by
  induction hn : F.depth i using Nat.strongRecOn generalizing i with
  | ind n ih =>
    by_cases h : F.parents i = i
    · exact hroot i h
    have hlt := F.descends i h
    exact hparent i h (ih _ (by omega) _ rfl)

theorem parents_root (i : Nat) : F.parents (F.root i) = F.root i := by
  induction i using induction_on (F := F) with
  | hroot i h => rw [root_of_parents_eq h, h]
  | hparent i h ih => rwa [← root_parents]

theorem root_root (i : Nat) : F.root (F.root i) = F.root i := root_of_parents_eq (parents_root i)

/-! ## Halving a path -/

variable (F)

/-- `parents[i] = parents[parents[i]]`. -/
def halve (i : Nat) : Forest where
  parents := Function.update F.parents i (F.parents (F.parents i))
  depth := F.depth
  descends j h := by
    by_cases hj : j = i
    · subst hj
      rw [Function.update_self] at h ⊢
      by_cases hparent : F.parents j = j
      · rw [hparent, hparent] at h
        exact absurd rfl h
      · have hlt := F.descends j hparent
        by_cases hgrand : F.parents (F.parents j) = F.parents j
        · rwa [hgrand]
        · exact Nat.lt_trans (F.descends _ hgrand) hlt
    · rw [Function.update_of_ne hj] at h ⊢
      exact F.descends j h

/-- The loop of a search that halves the path as it goes. -/
def findFrom : Nat → Forest → Nat → Forest × Nat
  | 0, F, i => (F, i)
  | k + 1, F, i =>
    if F.parents i = i then (F, i)
    else findFrom k (F.halve i) ((F.halve i).parents i)

def find (i : Nat) : Forest × Nat := findFrom (F.depth i) F i

variable {F}

theorem root_halve (i x : Nat) : (F.halve i).root x = F.root x := by
  induction x using induction_on (F := F.halve i) with
  | hroot x h =>
    rw [root_of_parents_eq h]
    by_cases hx : x = i
    · subst hx
      have hgrand : F.parents (F.parents x) = x := by
        simpa [halve] using h
      have hself : F.parents x = x := by
        by_contra hne
        have hlt := F.descends x hne
        by_cases hparent : F.parents (F.parents x) = F.parents x
        · exact hne (hparent.symm.trans hgrand)
        have hlt' := F.descends _ hparent
        rw [hgrand] at hlt'
        omega
      rw [root_of_parents_eq hself]
    · have hself : F.parents x = x := by simpa [halve, hx] using h
      rw [root_of_parents_eq hself]
  | hparent x h ih =>
    rw [root_parents] at ih
    rw [ih]
    by_cases hx : x = i
    · subst hx
      simp only [halve, Function.update_self]
      rw [root_parents, root_parents]
    · simp only [halve, Function.update_of_ne hx]
      rw [root_parents]

theorem findFrom_spec {k : Nat} {F : Forest} (h : F.depth i ≤ k) :
    (findFrom k F i).2 = F.root i ∧ ∀ x, (findFrom k F i).1.root x = F.root x := by
  induction k generalizing F i with
  | zero =>
    refine ⟨?_, fun _ => rfl⟩
    rw [root_of_parents_eq (parents_of_depth_zero (Nat.le_zero.mp h))]
    rfl
  | succ k ih =>
    rw [findFrom]
    by_cases hroot : F.parents i = i
    · rw [if_pos hroot, root_of_parents_eq hroot]
      exact ⟨rfl, fun _ => rfl⟩
    · rw [if_neg hroot]
      have hlt := F.descends i hroot
      have hnext : (F.halve i).parents i = F.parents (F.parents i) := by simp [halve]
      have hdepth : (F.halve i).depth ((F.halve i).parents i) ≤ k := by
        rw [hnext]
        change F.depth (F.parents (F.parents i)) ≤ k
        by_cases hgrand : F.parents (F.parents i) = F.parents i
        · rw [hgrand]
          omega
        · have hlt' := F.descends _ hgrand
          omega
      obtain ⟨hfound, hkept⟩ := ih hdepth
      constructor
      · rw [hfound, root_halve, hnext, root_parents, root_parents]
      intro x
      rw [hkept, root_halve]

/-- **A search ends at the root** and changes no root. -/
theorem find_root (i : Nat) : (F.find i).2 = F.root i := (findFrom_spec (Nat.le_refl _)).1

theorem root_find (i x : Nat) : (F.find i).1.root x = F.root x :=
  (findFrom_spec (Nat.le_refl _)).2 x

/-! ## Joining -/

variable (F)

/-- `parents[child] = top`, of two roots. -/
def link (top child : Nat) (htop : F.parents top = top) (hchild : F.parents child = child)
    (hne : top ≠ child) : Forest where
  parents := Function.update F.parents child top
  depth x := F.depth x + if F.root x = child then F.depth top + 1 else 0
  descends x h := by
    by_cases hx : x = child
    · subst hx
      rw [Function.update_self, root_of_parents_eq htop, root_of_parents_eq hchild, if_neg hne,
        if_pos rfl]
      omega
    · rw [Function.update_of_ne hx] at h ⊢
      rw [root_parents]
      have hlt := F.descends x h
      omega

/-- `union`. -/
def union (left right : Nat) : Forest :=
  if h : (F.find left).2 ≠ ((F.find left).1.find right).2 then
    link ((F.find left).1.find right).1 (F.find left).2 ((F.find left).1.find right).2 (by
        have hroot : ((F.find left).1.find right).1.root (F.find left).2 = (F.find left).2 := by
          rw [root_find, root_find, find_root, root_root]
        rw [← hroot]
        exact parents_root _)
      (by
        have hroot : ((F.find left).1.find right).1.root ((F.find left).1.find right).2
            = ((F.find left).1.find right).2 := by
          rw [root_find, find_root, root_root]
        rw [← hroot]
        exact parents_root _)
      h
  else
    ((F.find left).1.find right).1

variable {F}

theorem root_link {top child : Nat} (htop : F.parents top = top) (hchild : F.parents child = child)
    (hne : top ≠ child) (x : Nat) :
    (F.link top child htop hchild hne).root x = if F.root x = child then top else F.root x := by
  induction x using induction_on (F := F.link top child htop hchild hne) with
  | hroot x h =>
    rw [root_of_parents_eq h]
    have hx : x ≠ child := by
      intro hx
      subst hx
      exact hne (by simpa [link] using h)
    have hself : F.parents x = x := by simpa [link, hx] using h
    rw [root_of_parents_eq hself, if_neg hx]
  | hparent x h ih =>
    rw [root_parents] at ih
    rw [ih]
    by_cases hx : x = child
    · subst hx
      simp only [link, Function.update_self]
      rw [root_of_parents_eq htop, root_of_parents_eq hchild, if_neg hne, if_pos rfl]
    · simp only [link, Function.update_of_ne hx]
      rw [root_parents]

/-- **Joining two nodes** moves the nodes under the root of the right one to that of the
left one. -/
theorem root_union (left right x : Nat) :
    (F.union left right).root x = if F.root x = F.root right then F.root left else F.root x := by
  unfold union
  split_ifs with h hsame hsame
  · rw [root_link, root_find, root_find, find_root, find_root, root_find, if_pos hsame]
  · rw [root_link, root_find, root_find, find_root, root_find, if_neg hsame]
  · rw [not_not, find_root, find_root, root_find] at h
    rw [root_find, root_find, hsame, h]
  · rw [root_find, root_find]

/-! ## Chains of joined pairs -/

/-- A chain of pairs, each in either order, connects the nodes. -/
def Connected (pairs : List (Nat × Nat)) : Nat → Nat → Prop :=
  Relation.EqvGen fun a b => (a, b) ∈ pairs

theorem eqvGen_union_iff (left right x y : Nat) (R : Nat → Nat → Prop)
    (hF : ∀ x y, F.root x = F.root y ↔ Relation.EqvGen R x y) :
    (F.union left right).root x = (F.union left right).root y
      ↔ Relation.EqvGen (fun a b => R a b ∨ (a, b) = (left, right)) x y := by
  have hmono : ∀ a b, F.root a = F.root b →
      Relation.EqvGen (fun a b => R a b ∨ (a, b) = (left, right)) a b := by
    intro a b h
    exact Relation.EqvGen.mono (fun _ _ hab => .inl hab) a b ((hF a b).mp h)
  have hjoin : Relation.EqvGen (fun a b => R a b ∨ (a, b) = (left, right)) left right :=
    .rel _ _ (.inr rfl)
  constructor
  · intro h
    rw [root_union, root_union] at h
    by_cases hx : F.root x = F.root right
    · by_cases hy : F.root y = F.root right
      · exact hmono x y (hx.trans hy.symm)
      rw [if_pos hx, if_neg hy] at h
      exact (hmono x right hx).trans _ _ _ ((hjoin.symm _ _).trans _ _ _ (hmono left y h))
    · by_cases hy : F.root y = F.root right
      · rw [if_neg hx, if_pos hy] at h
        exact (hmono x left h).trans _ _ _ (hjoin.trans _ _ _ (hmono right y hy.symm))
      · rw [if_neg hx, if_neg hy] at h
        exact hmono x y h
  · intro h
    induction h with
    | rel a b hab =>
      rcases hab with hold | hnew
      · rw [root_union, root_union, (hF a b).mpr (.rel _ _ hold)]
      cases hnew
      rw [root_union, root_union, if_pos rfl]
      split_ifs <;> rfl
    | refl a => rfl
    | symm a b _ ih => exact ih.symm
    | trans a b c _ _ ih₁ ih₂ => exact ih₁.trans ih₂

/-- **After joining all pairs two nodes have one root exactly if a chain of them connects
them.** -/
theorem root_unions_iff (pairs : List (Nat × Nat)) (x y : Nat) :
    (pairs.foldl (fun F pair => F.union pair.1 pair.2) initial).root x
        = (pairs.foldl (fun F pair => F.union pair.1 pair.2) initial).root y
      ↔ Connected pairs x y := by
  unfold Connected
  induction pairs using List.reverseRecOn generalizing x y with
  | nil =>
    rw [foldl_nil, root_of_parents_eq rfl, root_of_parents_eq rfl]
    constructor
    · intro h
      rw [h]
      exact .refl _
    · intro h
      induction h with
      | rel a b hab => cases hab
      | refl a => rfl
      | symm a b _ ih => exact ih.symm
      | trans a b c _ _ ih₁ ih₂ => exact ih₁.trans ih₂
  | append_singleton pairs pair ih =>
    rw [foldl_append, foldl_cons, foldl_nil, eqvGen_union_iff pair.1 pair.2 x y _ ih]
    simp only [mem_append, mem_singleton]

end Forest

/-! ## Reading off the classes -/

section Classes

variable {κ α : Type*} [DecidableEq κ]

/-- `classes.setdefault(key, []).append(value)`. -/
def addTo (key : κ) (value : α) : List (κ × List α) → List (κ × List α)
  | [] => [(key, [value])]
  | entry :: rest =>
    if entry.1 = key then (key, entry.2 ++ [value]) :: rest else entry :: addTo key value rest

/-- The classes of the values by their keys. -/
def classes (key : α → κ) (values : List α) : List (κ × List α) :=
  values.foldl (fun entries value => addTo (key value) value entries) []

theorem addTo_flatten_perm (key : κ) (value : α) (entries : List (κ × List α)) :
    ((addTo key value entries).map Prod.snd).flatten.Perm
      ((entries.map Prod.snd).flatten ++ [value]) := by
  induction entries with
  | nil => simp [addTo]
  | cons entry rest ih =>
    rw [addTo]
    split_ifs with hkey
    · simp only [map_cons, flatten_cons, append_assoc]
      exact List.Perm.append_left _ perm_append_comm
    · simp only [map_cons, flatten_cons, append_assoc]
      exact List.Perm.append_left _ ih

variable {entries : List (κ × List α)}

theorem mem_addTo {key : κ} {value : α} (hnodup : (entries.map Prod.fst).Nodup) {entry : κ × List α}
    : entry ∈ addTo key value entries ↔ (entry ∈ entries ∧ entry.1 ≠ key)
        ∨ (∃ block, (key, block) ∈ entries ∧ entry = (key, block ++ [value]))
        ∨ (key ∉ entries.map Prod.fst ∧ entry = (key, [value])) := by
  induction entries with
  | nil => simp [addTo]
  | cons first rest ih =>
    rw [map_cons, nodup_cons] at hnodup
    rw [addTo]
    by_cases hkey : first.1 = key
    · have hother : ∀ entry ∈ rest, entry.1 ≠ key := by
        intro entry hentry heq
        exact hnodup.1 (hkey ▸ heq ▸ mem_map_of_mem hentry)
      rw [if_pos hkey]
      constructor
      · intro h
        rcases mem_cons.mp h with heq | hrest
        · refine .inr (.inl ⟨first.2, ?_, heq⟩)
          rw [← hkey]
          exact mem_cons_self
        · exact .inl ⟨mem_cons_of_mem _ hrest, hother entry hrest⟩
      · intro h
        rcases h with ⟨hmem, hne⟩ | ⟨block, hblock, rfl⟩ | ⟨hnew, -⟩
        · rcases mem_cons.mp hmem with heq | hrest
          · rw [heq] at hne
            exact absurd hkey hne
          · exact mem_cons_of_mem _ hrest
        · rcases mem_cons.mp hblock with heq | hrest
          · rw [← heq]
            exact mem_cons_self
          · exact absurd rfl (hother _ hrest)
        · exact absurd (by rw [map_cons, hkey]; exact mem_cons_self) hnew
    · rw [if_neg hkey, mem_cons, ih hnodup.2]
      have hfirst : ∀ block, (key, block) ≠ first := by
        intro block heq
        rw [← heq] at hkey
        exact hkey rfl
      constructor
      · intro h
        rcases h with heq | ⟨hmem, hne⟩ | ⟨block, hblock, hentry⟩ | ⟨hnew, hentry⟩
        · rw [heq]
          exact .inl ⟨mem_cons_self, hkey⟩
        · exact .inl ⟨mem_cons_of_mem _ hmem, hne⟩
        · exact .inr (.inl ⟨block, mem_cons_of_mem _ hblock, hentry⟩)
        refine .inr (.inr ⟨?_, hentry⟩)
        rw [map_cons, mem_cons, not_or]
        exact ⟨fun heq => hkey heq.symm, hnew⟩
      · intro h
        rcases h with ⟨hmem, hne⟩ | ⟨block, hblock, hentry⟩ | ⟨hnew, hentry⟩
        · rcases mem_cons.mp hmem with heq | hrest
          · exact .inl heq
          · exact .inr (.inl ⟨hrest, hne⟩)
        · rcases mem_cons.mp hblock with heq | hrest
          · exact absurd heq (hfirst block)
          · exact .inr (.inr (.inl ⟨block, hrest, hentry⟩))
        · rw [map_cons, mem_cons, not_or] at hnew
          exact .inr (.inr (.inr ⟨hnew.2, hentry⟩))

/-- Each key has one class, and its members are the values of that key. -/
structure Classified (key : α → κ) (values : List α) (entries : List (κ × List α)) : Prop where
  nodup : (entries.map Prod.fst).Nodup
  block : ∀ entry ∈ entries, entry.2 ≠ [] ∧ ∀ value ∈ entry.2, key value = entry.1
  perm : (entries.map Prod.snd).flatten.Perm values

theorem map_fst_addTo (key : κ) (value : α) (entries : List (κ × List α)) :
    (addTo key value entries).map Prod.fst = entries.map Prod.fst ∨ key ∉ entries.map Prod.fst
        ∧ (addTo key value entries).map Prod.fst = entries.map Prod.fst ++ [key] := by
  induction entries with
  | nil => exact .inr ⟨by simp, rfl⟩
  | cons first rest ih =>
    rw [addTo]
    by_cases hkey : first.1 = key
    · rw [if_pos hkey]
      exact .inl (by simp [hkey])
    · rw [if_neg hkey, map_cons, map_cons]
      rcases ih with hsame | ⟨hnew, hadded⟩
      · rw [hsame]
        exact .inl rfl
      · rw [hadded, mem_cons, not_or]
        exact .inr ⟨⟨fun heq => hkey heq.symm, hnew⟩, rfl⟩

theorem Classified.addTo {key : α → κ} {values : List α} (h : Classified key values entries)
    (value : α) : Classified key (values ++ [value]) (addTo (key value) value entries) := by
  refine ⟨?_, ?_, ?_⟩
  · rcases map_fst_addTo (key value) value entries with hsame | ⟨hnew, hadded⟩
    · rw [hsame]
      exact h.nodup
    · rw [hadded]
      exact nodup_append.mpr ⟨h.nodup, nodup_singleton _, by
        intro a ha b hb heq
        rw [mem_singleton] at hb
        exact hnew (hb ▸ heq ▸ ha)⟩
  · intro entry hentry
    rcases (mem_addTo h.nodup).mp hentry with ⟨hmem, -⟩ | ⟨block, hblock, rfl⟩ | ⟨-, rfl⟩
    · exact h.block entry hmem
    · refine ⟨by simp, ?_⟩
      intro other hother
      rcases mem_append.mp hother with hold | hlast
      · exact (h.block _ hblock).2 other hold
      · rw [mem_singleton.mp hlast]
    · refine ⟨cons_ne_nil _ _, ?_⟩
      intro other hother
      rw [mem_singleton.mp hother]
  · exact (addTo_flatten_perm _ _ _).trans (h.perm.append_right _)

/-- **The classes** are a partition of the values. -/
theorem classified_classes (key : α → κ) (values : List α) :
    Classified key values (classes key values) := by
  induction values using List.reverseRecOn with
  | nil => exact ⟨nodup_nil, fun _ hentry => absurd hentry not_mem_nil, List.Perm.refl _⟩
  | append_singleton values value ih =>
    unfold classes
    rw [foldl_append]
    exact ih.addTo value

omit [DecidableEq κ] in
/-- **Two values are in one class exactly if they have one key.** -/
theorem Classified.share_iff {key : α → κ} {values : List α} (h : Classified key values entries)
    {a b : α} (ha : a ∈ values) (hb : b ∈ values) :
    (∃ block ∈ entries.map Prod.snd, a ∈ block ∧ b ∈ block) ↔ key a = key b := by
  have hclass : ∀ c ∈ values, ∃ entry ∈ entries, c ∈ entry.2 := by
    intro c hc
    obtain ⟨block, hblock, hmem⟩ := mem_flatten.mp (h.perm.mem_iff.mpr hc)
    obtain ⟨entry, hentry, rfl⟩ := mem_map.mp hblock
    exact ⟨entry, hentry, hmem⟩
  constructor
  · intro hshare
    obtain ⟨block, hblock, hmema, hmemb⟩ := hshare
    obtain ⟨entry, hentry, rfl⟩ := mem_map.mp hblock
    rw [(h.block entry hentry).2 a hmema, (h.block entry hentry).2 b hmemb]
  · intro hkey
    obtain ⟨entry, hentry, hmem⟩ := hclass a ha
    obtain ⟨other, hother, hmem'⟩ := hclass b hb
    obtain rfl : entry = other := by
      refine inj_on_of_nodup_map h.nodup hentry hother ?_
      rw [← (h.block entry hentry).2 a hmem, ← (h.block other hother).2 b hmem', hkey]
    exact ⟨entry.2, mem_map_of_mem hentry, hmem, hmem'⟩

end Classes

end NewsCraft.Lib.UnionFind
