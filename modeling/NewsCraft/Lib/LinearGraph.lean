import Mathlib.Data.List.Chain
import Mathlib.Data.List.Nodup
import Mathlib.Data.List.Perm.Subperm
import Mathlib.Tactic.Common

/-!
# Graphs with one path

A directed graph as its list of edges. In a linear one no node has two
successors or two predecessors, so following the successors of a node nothing
leads to never comes back, ends, and meets every edge whose source it meets
exactly once and in order.
-/

namespace NewsCraft.Lib.LinearGraph

open List

universe u

variable {ν : Type u} [DecidableEq ν] (edges : List (ν × ν))

def successors (n : ν) : List ν := (edges.filter fun e => e.1 = n).map Prod.snd

def predecessors (n : ν) : List ν := (edges.filter fun e => e.2 = n).map Prod.fst

/-- No node has two successors or two predecessors. -/
structure Linear : Prop where
  out : ∀ n, (successors edges n).length ≤ 1
  into : ∀ n, (predecessors edges n).length ≤ 1

/-- The path that starts at a node and follows first successors, if it ends
within the turns allowed. -/
def follow : Nat → ν → Option (List ν)
  | 0, _ => none
  | turns + 1, n =>
    match successors edges n with
    | [] => some [n]
    | m :: _ => (follow turns m).map (n :: ·)

variable {edges}

variable {a b : ν}

theorem mem_successors : b ∈ successors edges a ↔ (a, b) ∈ edges := by
  simp [successors]

theorem mem_predecessors : a ∈ predecessors edges b ↔ (a, b) ∈ edges := by
  simp [predecessors]

omit [DecidableEq ν] in
theorem eq_of_length_le_one {l : List ν} (h : l.length ≤ 1) {x y : ν} (hx : x ∈ l) (hy : y ∈ l) :
    x = y := by
  match l, h with
  | [], _ => cases hx
  | [z], _ => rw [mem_singleton.mp hx, mem_singleton.mp hy]
  | _ :: _ :: _, h => simp at h

theorem Linear.target_unique (h : Linear edges) {c : ν} (hb : (a, b) ∈ edges) (hc : (a, c) ∈ edges)
    : b = c :=
  eq_of_length_le_one (h.out a) (mem_successors.mpr hb) (mem_successors.mpr hc)

theorem Linear.source_unique (h : Linear edges) {c : ν} (ha : (a, c) ∈ edges) (hb : (b, c) ∈ edges)
    : a = b :=
  eq_of_length_le_one (h.into c) (mem_predecessors.mpr ha) (mem_predecessors.mpr hb)

theorem Linear.nodup (h : Linear edges) : edges.Nodup := by
  rw [nodup_iff_count_le_one]
  intro e
  have hout := h.out e.1
  rw [successors, length_map, ← countP_eq_length_filter] at hout
  refine le_trans ?_ hout
  rw [List.count]
  refine countP_mono_left fun x _ hx => ?_
  rw [beq_iff_eq] at hx
  simp [hx]

/-! ## What a followed path is -/

variable {turns : Nat} {n : ν} {path : List ν}

theorem follow_cases (h : follow edges turns n = some path) :
    (successors edges n = [] ∧ path = [n]) ∨
    ∃ turns' m rest, turns = turns' + 1 ∧ (n, m) ∈ edges ∧ follow edges turns' m = some rest
      ∧ path = n :: rest := by
  cases turns with
  | zero => simp [follow] at h
  | succ turns =>
    unfold follow at h
    cases hs : successors edges n with
    | nil =>
      rw [hs] at h
      exact .inl ⟨rfl, (Option.some.inj h).symm⟩
    | cons m others =>
      rw [hs] at h
      obtain ⟨rest, hrest, rfl⟩ := Option.map_eq_some_iff.mp h
      have hedge : (n, m) ∈ edges := mem_successors.mp (by rw [hs]; exact mem_cons_self)
      exact .inr ⟨turns, m, rest, rfl, hedge, hrest, rfl⟩

theorem follow_head (h : follow edges turns n = some path) : ∃ rest, path = n :: rest := by
  rcases follow_cases h with ⟨_, rfl⟩ | ⟨_, _, rest, _, _, _, rfl⟩
  · exact ⟨[], rfl⟩
  · exact ⟨rest, rfl⟩

theorem follow_isChain (h : follow edges turns n = some path) :
    path.IsChain fun a b => (a, b) ∈ edges := by
  induction turns generalizing n path with
  | zero => simp [follow] at h
  | succ turns ih =>
    rcases follow_cases h with ⟨_, rfl⟩ | ⟨turns', m, rest, hturns, hedge, hrest, rfl⟩
    · exact isChain_singleton n
    obtain rfl : turns = turns' := by omega
    have hchain := ih hrest
    obtain ⟨tail, rfl⟩ := follow_head hrest
    exact isChain_cons_cons.mpr ⟨hedge, hchain⟩

theorem follow_steps (hlin : Linear edges) (h : follow edges turns n = some path) (ha : a ∈ path)
    (hab : (a, b) ∈ edges) : (a, b) ∈ path.zip path.tail := by
  induction turns generalizing n path with
  | zero => simp [follow] at h
  | succ turns ih =>
    rcases follow_cases h with ⟨hnone, rfl⟩ | ⟨turns', m, rest, hturns, hedge, hrest, rfl⟩
    · obtain rfl := mem_singleton.mp ha
      have hmem := mem_successors.mpr hab
      rw [hnone] at hmem
      cases hmem
    · obtain rfl : turns = turns' := by omega
      obtain ⟨tail, rfl⟩ := follow_head hrest
      rw [tail_cons, zip_cons_cons]
      rcases mem_cons.mp ha with rfl | ha
      · rw [hlin.target_unique hab hedge]
        exact mem_cons_self
      · have hstep := ih hrest ha
        exact mem_cons_of_mem _ hstep

/-! ## A path from a node nothing leads to -/

/-- Having followed `seen` to `n`: no node was met twice, each along an edge. -/
structure Trail (edges : List (ν × ν)) (entry : ν) (seen : List ν) (n : ν) : Prop where
  nodup : (n :: seen).Nodup
  entered : ∀ m ∈ n :: seen, m = entry ∨ ∃ p ∈ seen, (p, m) ∈ edges

omit [DecidableEq ν] in
theorem Trail.start (entry : ν) : Trail edges entry [] entry where
  nodup := nodup_singleton entry
  entered _ hm := Or.inl (mem_singleton.mp hm)

variable {entry : ν} {seen : List ν}

/-- A node met before has a predecessor already, so the path cannot return to it. -/
theorem Trail.next (hlin : Linear edges) (hentry : ∀ p, (p, entry) ∉ edges) {m : ν}
    (h : Trail edges entry seen n) (hedge : (n, m) ∈ edges) : Trail edges entry (n :: seen) m where
  nodup := by
    refine nodup_cons.mpr ⟨fun hm => ?_, h.nodup⟩
    rcases h.entered m hm with rfl | ⟨p, hp, hpm⟩
    · exact hentry n hedge
    have hpn : p = n := hlin.source_unique hpm hedge
    rw [hpn] at hp
    exact (nodup_cons.mp h.nodup).1 hp
  entered := by
    intro x hx
    rcases mem_cons.mp hx with rfl | hx
    · exact .inr ⟨n, mem_cons_self, hedge⟩
    rcases h.entered x hx with rfl | ⟨p, hp, hpx⟩
    · exact .inl rfl
    · exact .inr ⟨p, mem_cons_of_mem n hp, hpx⟩

theorem Trail.follow_nodup (hlin : Linear edges) (hentry : ∀ p, (p, entry) ∉ edges)
    (h : Trail edges entry seen n) (hpath : follow edges turns n = some path) :
    path.Nodup ∧ ∀ x ∈ path, x ∉ seen := by
  induction turns generalizing seen n path with
  | zero => simp [follow] at hpath
  | succ turns ih =>
    have hn := (nodup_cons.mp h.nodup).1
    rcases follow_cases hpath with ⟨_, rfl⟩ | ⟨turns', m, rest, hturns, hedge, hrest, rfl⟩
    · refine ⟨nodup_singleton n, fun x hx => ?_⟩
      rw [mem_singleton.mp hx]
      exact hn
    · obtain rfl : turns = turns' := by omega
      obtain ⟨hnodup, hfresh⟩ := ih (h.next hlin hentry hedge) hrest
      refine ⟨nodup_cons.mpr ⟨fun hmem => ?_, hnodup⟩, fun x hx => ?_⟩
      · exact hfresh n hmem mem_cons_self
      rcases mem_cons.mp hx with rfl | hx
      · exact hn
      · exact fun hseen => hfresh x hx (mem_cons_of_mem n hseen)

/-- **The path meets no node twice.** -/
theorem follow_nodup (hlin : Linear edges) (hentry : ∀ p, (p, entry) ∉ edges)
    (h : follow edges turns entry = some path) : path.Nodup :=
  ((Trail.start entry).follow_nodup hlin hentry h).1

theorem Trail.follow_isSome (hlin : Linear edges) (hentry : ∀ p, (p, entry) ∉ edges)
    {nodes : List ν} (htargets : ∀ e ∈ edges, e.2 ∈ nodes) (h : Trail edges entry seen n)
    (hseen : n :: seen ⊆ nodes) (hturns : nodes.length < seen.length + turns + 1) :
    (follow edges turns n).isSome := by
  induction turns generalizing seen n with
  | zero =>
    have hlen := (List.Nodup.subperm h.nodup hseen).length_le
    rw [length_cons] at hlen
    omega
  | succ turns ih =>
    unfold follow
    cases hs : successors edges n with
    | nil => rfl
    | cons m others =>
      have hedge : (n, m) ∈ edges := mem_successors.mp (by rw [hs]; exact mem_cons_self)
      have hm : m ∈ nodes := htargets (n, m) hedge
      have hrest := ih (h.next hlin hentry hedge) (cons_subset.mpr ⟨hm, hseen⟩)
        (by rw [length_cons]; omega)
      simpa using hrest

/-- **The path ends within as many turns as there are nodes.** -/
theorem follow_isSome (hlin : Linear edges) (hentry : ∀ p, (p, entry) ∉ edges) {nodes : List ν}
    (hmem : entry ∈ nodes) (htargets : ∀ e ∈ edges, e.2 ∈ nodes) (hturns : nodes.length ≤ turns) :
    (follow edges turns entry).isSome := by
  refine (Trail.start entry).follow_isSome hlin hentry htargets ?_ ?_
  · exact cons_subset.mpr ⟨hmem, nil_subset nodes⟩
  rw [length_nil]
  omega

/-- **The steps of the path are exactly the edges**, each once, when the path
meets the source of every edge. -/
theorem edges_perm_steps (hlin : Linear edges) (h : follow edges turns n = some path)
    (hnodup : path.Nodup) (hall : ∀ e ∈ edges, e.1 ∈ path) : edges.Perm (path.zip path.tail) := by
  have hsteps : (path.zip path.tail).Nodup := by
    have hsnd : ((path.zip path.tail).map Prod.snd).Nodup := by
      rw [map_snd_zip (by rw [length_tail]; omega)]
      exact (tail_sublist path).nodup hnodup
    exact List.Nodup.of_map Prod.snd hsnd
  refine (perm_ext_iff_of_nodup hlin.nodup hsteps).mpr fun e => ?_
  obtain ⟨a, b⟩ := e
  constructor
  · intro he
    exact follow_steps hlin h (hall (a, b) he) he
  · intro he
    have hchain := follow_isChain h
    rw [isChain_iff_getElem] at hchain
    obtain ⟨i, hi, hget⟩ := mem_iff_getElem.mp he
    rw [length_zip, length_tail] at hi
    rw [getElem_zip, getElem_tail, Prod.mk.injEq] at hget
    have hedge := hchain i (by omega)
    rw [hget.1, hget.2] at hedge
    exact hedge

end NewsCraft.Lib.LinearGraph
