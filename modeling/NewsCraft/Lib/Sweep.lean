import Mathlib.Data.Set.Lattice
import NewsCraft.Lib.Transition

/-!
# Sweeping a store whose names are shared

Writers put items into a store under names computed from the content, so one may adopt what
another left. A writer relies on the names it has found or written until it publishes its
claims on them. A sweeper condemns names nobody claims, while no writer is at work, and
removes them one by one later.

It removes nothing that is claimed as long as no writer turns to a condemned name.
-/

namespace NewsCraft.Lib

universe u

/-- A store as writers and the sweeper see it. -/
structure Sweep (ι : Type u) where
  present : Set ι
  claimed : Set ι
  /-- Names the writers at work have found or written. -/
  held : Set ι
  /-- Names the writers at work are about to write. -/
  reserved : Set ι
  condemned : Set ι

namespace Sweep

variable {ι : Type u}

inductive Label (ι : Type u) where
  | adopt (i : ι)
  | reserve (i : ι)
  | write (i : ι)
  | publish (claimed held reserved : Set ι)
  | condemn (condemned : Set ι)
  | remove (i : ι)
  | spare (condemned : Set ι)

/-- The fenced protocol. Publishing gives up held names, some of which become claims. -/
def Step (s : Sweep ι) : Label ι → Sweep ι → Prop
  | .adopt i, s' => i ∈ s.present ∧ i ∉ s.condemned ∧ s' = { s with held := s.held ∪ {i} }
  | .reserve i, s' => i ∉ s.condemned ∧ s' = { s with reserved := s.reserved ∪ {i} }
  | .write i, s' =>
    i ∈ s.reserved ∧ s' = { s with present := s.present ∪ {i}, held := s.held ∪ {i} }
  | .publish claimed held reserved, s' =>
    claimed ⊆ s.claimed ∪ s.held ∧ held ⊆ s.held ∧ reserved ⊆ s.reserved
      ∧ s' = { s with claimed := claimed, held := held, reserved := reserved }
  | .condemn condemned, s' =>
    s.held = ∅ ∧ s.reserved = ∅ ∧ (∀ i ∈ condemned, i ∉ s.claimed)
      ∧ s' = { s with condemned := condemned }
  | .remove i, s' =>
    i ∈ s.condemned ∧ s' = { s with present := s.present \ {i} }
  | .spare condemned, s' =>
    condemned ⊆ s.condemned ∧ s' = { s with condemned := condemned }

/-- Every claim is on an item that is there, and nothing is condemned or relied on. -/
def Start (s : Sweep ι) : Prop :=
  s.claimed ⊆ s.present ∧ s.held = ∅ ∧ s.reserved = ∅ ∧ s.condemned = ∅

/-- Sweeping a shared store. -/
def system (ι : Type u) : System (Sweep ι) (Label ι) where
  init := Start
  step := Step

/-! ## The steps -/

section

variable {s s' : Sweep ι} {i : ι}

theorem step_adopt (h : i ∈ s.present) (hspared : i ∉ s.condemned) :
    (system ι).step s (.adopt i) { s with held := s.held ∪ {i} } :=
  ⟨h, hspared, rfl⟩

theorem step_reserve (h : i ∉ s.condemned) :
    (system ι).step s (.reserve i) { s with reserved := s.reserved ∪ {i} } :=
  ⟨h, rfl⟩

theorem step_write (h : i ∈ s.reserved) :
    (system ι).step s (.write i)
      { s with present := s.present ∪ {i}, held := s.held ∪ {i} } :=
  ⟨h, rfl⟩

theorem step_publish (hclaimed : s'.claimed ⊆ s.claimed ∪ s.held) (hheld : s'.held ⊆ s.held)
    (hreserved : s'.reserved ⊆ s.reserved) (hpresent : s'.present = s.present)
    (hcondemned : s'.condemned = s.condemned) :
    (system ι).step s (.publish s'.claimed s'.held s'.reserved) s' := by
  obtain ⟨present, claimed, held, reserved, condemned⟩ := s'
  subst hpresent hcondemned
  exact ⟨hclaimed, hheld, hreserved, rfl⟩

theorem step_condemn (hheld : s.held = ∅) (hreserved : s.reserved = ∅)
    (h : ∀ i ∈ s'.condemned, i ∉ s.claimed) (hrest : { s with condemned := s'.condemned } = s') :
    (system ι).step s (.condemn s'.condemned) s' :=
  ⟨hheld, hreserved, h, hrest.symm⟩

theorem step_spare (h : s'.condemned ⊆ s.condemned)
    (hrest : { s with condemned := s'.condemned } = s') :
    (system ι).step s (.spare s'.condemned) s' :=
  ⟨h, hrest.symm⟩

theorem step_remove (h : i ∈ s.condemned) :
    (system ι).step s (.remove i) { s with present := s.present \ {i} } :=
  ⟨h, rfl⟩

end

/-! ## Safety -/

/-- Whatever is relied on is there, and is not about to go. -/
structure Safe (s : Sweep ι) : Prop where
  claimed : s.claimed ⊆ s.present
  held : s.held ⊆ s.present
  unclaimed : ∀ i ∈ s.condemned, i ∉ s.claimed
  unheld : ∀ i ∈ s.condemned, i ∉ s.held
  unreserved : ∀ i ∈ s.condemned, i ∉ s.reserved

theorem safe_start {s : Sweep ι} (h : Start s) : Safe s := by
  obtain ⟨hclaimed, hheld, hreserved, hcondemned⟩ := h
  refine ⟨hclaimed, ?_, ?_, ?_, ?_⟩
  · rw [hheld]
    exact Set.empty_subset _
  all_goals
    rw [hcondemned]
    exact fun _ hi => hi.elim

/-- **One step keeps it.** -/
theorem Safe.step {s s' : Sweep ι} {label : Label ι} (h : Safe s) (hst : Step s label s') :
    Safe s' := by
  obtain ⟨hclaimed, hheld, hunclaimed, hunheld, hunreserved⟩ := h
  cases label with
  | adopt i =>
    obtain ⟨hpresent, hspared, rfl⟩ := hst
    refine ⟨hclaimed, Set.union_subset hheld (Set.singleton_subset_iff.mpr hpresent),
      hunclaimed, ?_, hunreserved⟩
    intro j hj hadopted
    rcases hadopted with hold | rfl
    · exact hunheld j hj hold
    · exact hspared hj
  | reserve i =>
    obtain ⟨hspared, rfl⟩ := hst
    refine ⟨hclaimed, hheld, hunclaimed, hunheld, ?_⟩
    intro j hj hreserved
    rcases hreserved with hold | rfl
    · exact hunreserved j hj hold
    · exact hspared hj
  | write i =>
    obtain ⟨hreserved, rfl⟩ := hst
    refine ⟨hclaimed.trans Set.subset_union_left, Set.union_subset_union_left _ hheld,
      hunclaimed, ?_, hunreserved⟩
    intro j hj hwritten
    rcases hwritten with hold | rfl
    · exact hunheld j hj hold
    · exact hunreserved j hj hreserved
  | publish claimed held reserved =>
    obtain ⟨hpublished, hkept, hreserved, rfl⟩ := hst
    refine ⟨hpublished.trans (Set.union_subset hclaimed hheld), hkept.trans hheld, ?_,
      fun i hi hi' => hunheld i hi (hkept hi'), fun i hi hi' => hunreserved i hi (hreserved hi')⟩
    intro i hi hclaim
    rcases hpublished hclaim with hold | hnew
    · exact hunclaimed i hi hold
    · exact hunheld i hi hnew
  | condemn condemned =>
    obtain ⟨hnone, hnoneReserved, hfree, rfl⟩ := hst
    refine ⟨hclaimed, hheld, hfree, ?_, ?_⟩
    · intro i _ hi
      rw [hnone] at hi
      exact hi
    · intro i _ hi
      rw [hnoneReserved] at hi
      exact hi
  | remove i =>
    obtain ⟨hi, rfl⟩ := hst
    refine ⟨?_, ?_, hunclaimed, hunheld, hunreserved⟩
    · exact Set.subset_sdiff_singleton hclaimed (hunclaimed i hi)
    · exact Set.subset_sdiff_singleton hheld (hunheld i hi)
  | spare condemned =>
    obtain ⟨hspared, rfl⟩ := hst
    exact ⟨hclaimed, hheld, fun i hi => hunclaimed i (hspared hi),
      fun i hi => hunheld i (hspared hi), fun i hi => hunreserved i (hspared hi)⟩

/-- **In every run of the fenced protocol, whatever is claimed is there.** -/
theorem safe_of_reachable {s : Sweep ι} (h : (system ι).Reachable s) : Safe s :=
  System.invariant (fun _ => safe_start) (fun _ _ _ _ hs hst => hs.step hst) h

end Sweep

end NewsCraft.Lib
