import Mathlib.Data.List.Basic
import Mathlib.Logic.Relation
import Mathlib.Order.WellFoundedSet

/-!
# Searching a directed graph

A depth-first search stops when it comes back to a node it is still visiting; over a finite
graph it does so exactly when some walk from where it starts goes on for ever. Where no walk
comes back, what holds of a node once it holds of everything before it holds of every node.
-/

namespace NewsCraft.Lib.GraphSearch

open Relation List Option

universe u

variable {ν : Type u}

/-- `b` comes right after `a`. -/
def Leads (next : ν → List ν) (a b : ν) : Prop := b ∈ next a

/-- Every walk from `a` ends. -/
def Ends (next : ν → List ν) (a : ν) : Prop := Acc (fun b a => Leads next a b) a

/-- No walk comes back to its start. -/
def Acyclic (next : ν → List ν) : Prop := ∀ a, ¬ TransGen (Leads next) a a

variable {next : ν → List ν}

theorem Ends.child {a b : ν} (h : Ends next a) (hab : Leads next a b) : Ends next b :=
  Acc.inv h hab

theorem Ends.of_children {a : ν} (h : ∀ b ∈ next a, Ends next b) : Ends next a :=
  Acc.intro a fun b hab => h b hab

theorem Ends.no_return {a : ν} (h : Ends next a) : ¬ TransGen (Leads next) a a := by
  induction h with
  | intro a _ ih =>
    intro hcycle
    obtain ⟨b, hab, hback⟩ := TransGen.head'_iff.mp hcycle
    exact ih b hab (TransGen.tail' hback hab)

/-- A node leads to a walk that comes back to its start. -/
def ReachesCycle (next : ν → List ν) (a : ν) : Prop :=
  ∃ c, ReflTransGen (Leads next) a c ∧ TransGen (Leads next) c c

theorem ReachesCycle.of_leads {a b : ν} (h : ReachesCycle next b) (hab : Leads next a b) :
    ReachesCycle next a := by
  obtain ⟨c, hpath, hcycle⟩ := h
  exact ⟨c, hpath.head hab, hcycle⟩

theorem Ends.not_reachesCycle {a : ν} (h : Ends next a) : ¬ ReachesCycle next a := by
  intro ⟨c, hpath, hcycle⟩
  induction hpath using ReflTransGen.head_induction_on with
  | refl => exact h.no_return hcycle
  | head hab _ ih => exact ih (h.child hab)

/-- What an edge does not leave a walk does not leave. -/
theorem walk_stays {nodes : List ν} (hclosed : ∀ a ∈ nodes, ∀ b ∈ next a, b ∈ nodes) {a b : ν}
    (h : ReflTransGen (Leads next) a b) (ha : a ∈ nodes) : b ∈ nodes := by
  induction h with
  | refl => exact ha
  | tail _ hbc ih => exact hclosed _ ih _ hbc

theorem room_left {nodes visiting : List ν} {n : ν} {depth : Nat} (hn : n ∈ nodes)
    (hnot : n ∉ visiting) (hnodup : visiting.Nodup) (hsub : visiting ⊆ nodes)
    (hdepth : nodes.length ≤ depth + visiting.length) : 0 < depth := by
  have hfull : (n :: visiting).length ≤ nodes.length :=
    (List.Nodup.subperm (nodup_cons.mpr ⟨hnot, hnodup⟩) (cons_subset.mpr ⟨hn, hsub⟩)).length_le
  rw [length_cons] at hfull
  omega

/-! ## Graphs without a way back -/

/-- Over finitely many nodes a relation that never comes back is well founded. -/
theorem acc_of_no_return {r : ν → ν → Prop} {nodes : List ν}
    (hr : ∀ a b, r a b → a ∈ nodes) (hacyclic : ∀ a, ¬ TransGen r a a) (a : ν) : Acc r a := by
  have hstrict : IsStrictOrder ν (TransGen r) := { irrefl := hacyclic, trans := fun _ _ _ => .trans }
  have hfounded : ({x | x ∈ nodes} : Set ν).WellFoundedOn (TransGen r) :=
    (finite_toSet nodes).wellFoundedOn
  have hnodes : ∀ x ∈ nodes, Acc r x := by
    intro x hx
    refine hfounded.induction (P := fun y => Acc r y) hx fun y _ ih => ?_
    exact Acc.intro y fun z hzy => ih z (hr z y hzy) (.single hzy)
  exact Acc.intro a fun b hba => hnodes b (hr b a hba)

/-- **Induction on what comes before a node.** -/
theorem Acyclic.induction (h : Acyclic next) (nodes : List ν)
    (hsource : ∀ a b, Leads next a b → a ∈ nodes) {P : ν → Prop}
    (hstep : ∀ b, (∀ a, Leads next a b → P a) → P b) (b : ν) : P b := by
  have hacc := acc_of_no_return hsource h b
  induction hacc with
  | intro b _ ih => exact hstep b ih

theorem Acyclic.ends (h : Acyclic next) (nodes : List ν)
    (htarget : ∀ a b, Leads next a b → b ∈ nodes) (a : ν) : Ends next a :=
  acc_of_no_return (fun b a hab => htarget a b hab)
    (fun c hcycle => h c (transGen_swap.mp hcycle)) a

/-! ## The search -/

theorem foldlM_ne_none {σ : Type u} {f : σ → ν → Option σ} {l : List ν}
    (h : ∀ s, ∀ n ∈ l, f s n ≠ none) (s : σ) : l.foldlM f s ≠ none := by
  induction l generalizing s with
  | nil => exact some_ne_none s
  | cons n l ih =>
    rw [foldlM_cons]
    cases hn : f s n with
    | none => exact absurd hn (h s n mem_cons_self)
    | some s' =>
      exact ih (fun t m hm => h t m (mem_cons_of_mem n hm)) s'

/-- What a row of visits adds up to, when each keeps an invariant. -/
theorem foldlM_visited {f : List ν → ν → Option (List ν)} {I : List ν → Prop} {l : List ν}
    (h : ∀ s, ∀ n ∈ l, ∀ s', I s → f s n = some s' → I s' ∧ s ⊆ s' ∧ n ∈ s')
    {s s' : List ν} (hs : I s) (hfold : l.foldlM f s = some s') :
    I s' ∧ s ⊆ s' ∧ ∀ n ∈ l, n ∈ s' := by
  induction l generalizing s with
  | nil =>
    cases hfold
    exact ⟨hs, List.Subset.refl _, fun n hn => absurd hn not_mem_nil⟩
  | cons n l ih =>
    rw [foldlM_cons] at hfold
    cases hn : f s n with
    | none =>
      rw [hn] at hfold
      cases hfold
    | some t =>
      rw [hn] at hfold
      obtain ⟨ht, hst, hnt⟩ := h s n mem_cons_self t hs hn
      obtain ⟨hs', hts', hl⟩ :=
        ih (fun a m hm b => h a m (mem_cons_of_mem n hm) b) ht hfold
      refine ⟨hs', List.Subset.trans hst hts', fun m hm => ?_⟩
      rcases mem_cons.mp hm with rfl | hm
      · exact hts' hnt
      · exact hl m hm

variable [DecidableEq ν]

/-- Visits `n` and what follows it: nothing when it meets a node under visit, else
the nodes visited by then. -/
def visit (next : ν → List ν) : Nat → List ν → List ν → ν → Option (List ν)
  | depth, visiting, visited, n =>
    if n ∈ visiting then none
    else if n ∈ visited then some visited
    else
      match depth with
      | 0 => some visited
      | depth + 1 =>
        ((next n).foldlM (visit next depth (n :: visiting)) visited).map (n :: ·)

/-- Visits every node in turn. -/
def search (next : ν → List ν) (depth : Nat) (nodes : List ν) : Option (List ν) :=
  nodes.foldlM (visit next depth []) []

/-- A search that only meets nodes all walks from which end does not come back. -/
theorem visit_ne_none {depth : Nat} {visiting visited : List ν} {n : ν} (hends : Ends next n)
    (hvisiting : ∀ v ∈ visiting, TransGen (Leads next) v n) :
    visit next depth visiting visited n ≠ none := by
  induction depth generalizing visiting visited n with
  | zero =>
    unfold visit
    rw [if_neg fun hmem => hends.no_return (hvisiting n hmem)]
    split
    · exact some_ne_none _
    · exact some_ne_none _
  | succ depth ih =>
    unfold visit
    rw [if_neg fun hmem => hends.no_return (hvisiting n hmem)]
    split
    · exact some_ne_none _
    rw [ne_eq, map_eq_none_iff]
    refine foldlM_ne_none (fun s c hc => ih (hends.child hc) fun v hv => ?_) visited
    rcases mem_cons.mp hv with rfl | hv
    · exact .single hc
    · exact (hvisiting v hv).tail hc

/-- **A search that does not come back has visited nodes all walks from which end**,
given room for as many nested visits as there are nodes. -/
theorem visit_some {nodes : List ν} (hclosed : ∀ a ∈ nodes, ∀ b ∈ next a, b ∈ nodes)
    {depth : Nat} {visiting visited visited' : List ν} {n : ν} (hn : n ∈ nodes)
    (hnodup : visiting.Nodup) (hsub : visiting ⊆ nodes)
    (hdepth : nodes.length ≤ depth + visiting.length) (hends : ∀ v ∈ visited, Ends next v)
    (h : visit next depth visiting visited n = some visited') :
    (∀ v ∈ visited', Ends next v) ∧ visited ⊆ visited' ∧ n ∈ visited' := by
  induction depth generalizing visiting visited visited' n with
  | zero =>
    unfold visit at h
    split at h
    · cases h
    rename_i hnot
    split at h
    · rename_i hmem
      cases h
      exact ⟨hends, List.Subset.refl _, hmem⟩
    · exact absurd (room_left hn hnot hnodup hsub hdepth) (Nat.lt_irrefl 0)
  | succ depth ih =>
    unfold visit at h
    split at h
    · cases h
    rename_i hnot
    split at h
    · rename_i hmem
      cases h
      exact ⟨hends, List.Subset.refl _, hmem⟩
    · obtain ⟨later, hfold, rfl⟩ := map_eq_some_iff.mp h
      have hroom : nodes.length ≤ depth + (n :: visiting).length := by
        rw [length_cons]
        omega
      have hstep : ∀ s, ∀ c ∈ next n, ∀ s', (∀ v ∈ s, Ends next v) →
          visit next depth (n :: visiting) s c = some s' →
          (∀ v ∈ s', Ends next v) ∧ s ⊆ s' ∧ c ∈ s' := fun s c hc s' hs hvisit =>
        ih (hclosed n hn c hc) (nodup_cons.mpr ⟨hnot, hnodup⟩)
          (cons_subset.mpr ⟨hn, hsub⟩) hroom hs hvisit
      obtain ⟨hlater, hkept, hchildren⟩ := foldlM_visited hstep hends hfold
      refine ⟨fun v hv => ?_, subset_cons_of_subset n hkept, mem_cons_self⟩
      rcases mem_cons.mp hv with rfl | hv
      · exact Ends.of_children fun c hc => hlater c (hchildren c hc)
      · exact hlater v hv

/-- **The search comes back exactly when some walk does not end.** -/
theorem search_isSome_iff {all nodes : List ν}
    (hclosed : ∀ a ∈ all, ∀ b ∈ next a, b ∈ all) (hsub : nodes ⊆ all)
    {depth : Nat} (hdepth : all.length ≤ depth) :
    (search next depth nodes).isSome = true ↔ ∀ n ∈ nodes, Ends next n := by
  constructor
  · intro h
    obtain ⟨visited, hsome⟩ := isSome_iff_exists.mp h
    have hstep : ∀ s, ∀ n ∈ nodes, ∀ s', (∀ v ∈ s, Ends next v) →
        visit next depth [] s n = some s' → (∀ v ∈ s', Ends next v) ∧ s ⊆ s' ∧ n ∈ s' :=
      fun s n hn s' hs hvisit =>
        visit_some hclosed (hsub hn) nodup_nil (nil_subset _) hdepth hs hvisit
    obtain ⟨hends, _, hall⟩ := foldlM_visited hstep (fun v hv => absurd hv not_mem_nil) hsome
    exact fun n hn => hends n (hall n hn)
  · intro h
    refine isSome_iff_ne_none.mpr (foldlM_ne_none (fun s n hn => ?_) [])
    exact visit_ne_none (h n hn) fun v hv => absurd hv not_mem_nil

end NewsCraft.Lib.GraphSearch
