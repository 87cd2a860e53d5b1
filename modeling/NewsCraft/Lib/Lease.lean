import Mathlib.Data.List.Nodup
import NewsCraft.Lib.Transition

/-!
# Leases on one resource

A resource is available, held by one owner until a deadline, or closed. Every grant opens a
new epoch, and an epoch ends in one of two ways: its owner completes it before the deadline,
or somebody expires it at or after. The ends of a resource name each epoch at most once.

Owners and clock readings are arbitrary, and the clock is not required to advance.
-/

namespace NewsCraft.Lib.Lease

open List

universe u v

variable {ω : Type u} {τ : Type v} [LT τ] [LE τ]

/-- Who may act on the resource. -/
inductive Phase (ω : Type u) (τ : Type v) where
  | available
  | held (owner : ω) (deadline : τ)
  | closed

/-- How an epoch ended. -/
inductive End where
  | completed
  | expired

/-- A leased resource: its phase, its current epoch, and how earlier ones ended. -/
structure State (ω : Type u) (τ : Type v) where
  phase : Phase ω τ
  epoch : Int
  ends : List (Int × End)

/-- The steps of the protocol. -/
inductive Step : State ω τ → State ω τ → Prop
  /-- A new epoch for `owner`. -/
  | grant {epoch : Int} {ends : List (Int × End)} (owner : ω) (deadline : τ) :
      Step ⟨.available, epoch, ends⟩ ⟨.held owner deadline, epoch + 1, ends⟩
  /-- The owner moves its own deadline, while it still has the lease. -/
  | renew {epoch : Int} {ends : List (Int × End)} {owner : ω} {deadline : τ} (now deadline' : τ) :
      now < deadline → Step ⟨.held owner deadline, epoch, ends⟩ ⟨.held owner deadline', epoch, ends⟩
  /-- The owner gives the lease up in time; the resource opens or closes. -/
  | complete {epoch : Int} {ends : List (Int × End)} {owner : ω} {deadline : τ} (now : τ)
      (phase : Phase ω τ) : now < deadline → (∀ o d, phase ≠ .held o d) →
      Step ⟨.held owner deadline, epoch, ends⟩ ⟨phase, epoch, (epoch, .completed) :: ends⟩
  /-- The deadline has passed; the resource opens or closes. -/
  | expire {epoch : Int} {ends : List (Int × End)} {owner : ω} {deadline : τ} (now : τ)
      (phase : Phase ω τ) : deadline ≤ now → (∀ o d, phase ≠ .held o d) →
      Step ⟨.held owner deadline, epoch, ends⟩ ⟨phase, epoch, (epoch, .expired) :: ends⟩
  /-- A resource nobody holds opens or closes. -/
  | toggle {epoch : Int} {ends : List (Int × End)} {phase phase' : Phase ω τ} :
      (∀ o d, phase ≠ .held o d) → (∀ o d, phase' ≠ .held o d) →
      Step ⟨phase, epoch, ends⟩ ⟨phase', epoch, ends⟩

/-- The protocol, from a resource nobody has held. -/
def system (ω : Type u) (τ : Type v) [LT τ] [LE τ] : System (State ω τ) Unit where
  init s := s = ⟨.available, 0, []⟩
  step s _ s' := Step s s'

/-- Recorded epochs are past, the current one only once it is no longer held. -/
structure Inv (s : State ω τ) : Prop where
  past : ∀ e ∈ s.ends, e.1 ≤ s.epoch
  open_ : ∀ owner deadline, s.phase = .held owner deadline → ∀ e ∈ s.ends, e.1 < s.epoch
  nodup : (s.ends.map Prod.fst).Nodup

omit [LT τ] [LE τ] in
theorem Inv.endEpoch {epoch : Int} {ends : List (Int × End)} {owner : ω} {deadline : τ}
    (h : Inv ⟨.held owner deadline, epoch, ends⟩) (how : End) {phase : Phase ω τ}
    (hphase : ∀ o d, phase ≠ .held o d) : Inv ⟨phase, epoch, (epoch, how) :: ends⟩ := by
  have hlt : ∀ e ∈ ends, e.1 < epoch := h.open_ owner deadline rfl
  refine ⟨?_, ?_, ?_⟩
  · intro e he
    rcases mem_cons.mp he with rfl | he
    · exact Int.le_refl _
    · exact h.past e he
  · intro o d hp
    exact absurd hp (hphase o d)
  · rw [map_cons, nodup_cons]
    refine ⟨?_, h.nodup⟩
    intro hmem
    obtain ⟨e, he, heq⟩ := mem_map.mp hmem
    have := hlt e he
    omega

theorem inv_step {s s' : State ω τ} (h : Inv s) (hst : Step s s') : Inv s' := by
  cases hst with
  | grant owner deadline =>
    have hle := h.past
    refine ⟨fun e he => ?_, fun _ _ _ e he => ?_, h.nodup⟩
    · have := hle e he
      dsimp only at this ⊢
      omega
    · have := hle e he
      dsimp only at this ⊢
      omega
  | renew now deadline' _ => exact ⟨h.past, fun _ _ _ => h.open_ _ _ rfl, h.nodup⟩
  | complete now phase _ hphase => exact h.endEpoch .completed hphase
  | expire now phase _ hphase => exact h.endEpoch .expired hphase
  | toggle _ hphase => exact ⟨h.past, fun o d hp => absurd hp (hphase o d), h.nodup⟩

theorem inv_reachable {s : State ω τ} (h : (system ω τ).Reachable s) : Inv s := by
  refine System.invariant (P := Inv) ?_ ?_ h
  · rintro s rfl
    exact ⟨fun e he => absurd he not_mem_nil, fun _ _ _ e he => absurd he not_mem_nil, nodup_nil⟩
  · intro s _ s' _ hi hst
    exact inv_step hi hst

/-- **An epoch ends at most one way.** -/
theorem end_unique {s : State ω τ} (h : (system ω τ).Reachable s) {epoch : Int} {how how' : End}
    (h1 : (epoch, how) ∈ s.ends) (h2 : (epoch, how') ∈ s.ends) : how = how' := by
  have := inj_on_of_nodup_map (inv_reachable h).nodup h1 h2 rfl
  exact congrArg Prod.snd this

end NewsCraft.Lib.Lease
