import Mathlib.Tactic.Common
import NewsCraft.Lib.Transition

/-!
# Claim, call, record

A program that wants an external effect at most once claims a slot in one transaction, makes
the call, and records the outcome in another. Anything may interrupt it in between.

A slot is free, claimed or closed; whoever claimed it is its holder until it records the
outcome or dies; `maybe` counts the calls that may have had the effect. Only a holder whose
call provably had no effect, or that made none, may free the slot again. `maybe_le_one` is
what the protocol is for.
-/

namespace NewsCraft.Lib.Dispatch

inductive Status where
  | free
  | claimed
  | closed

/-- How far the holder of a slot has come. -/
inductive Stage where
  /-- The slot is claimed and no call was made. -/
  | ready
  | calling
  /-- The call provably had no effect. -/
  | rejected
  /-- The call may have had its effect. -/
  | answered

/-- One slot, its holder, and the number of calls that may have had the effect. -/
structure Slot where
  status : Status
  holder : Option Stage
  maybe : Nat

/-- A slot nobody has claimed. -/
def Slot.fresh : Slot := ⟨.free, none, 0⟩

/-- The steps of the protocol. -/
inductive Step : Slot → Slot → Prop
  | claim {m : Nat} : Step ⟨.free, none, m⟩ ⟨.claimed, some .ready, m⟩
  | call {status : Status} {m : Nat} :
      Step ⟨status, some .ready, m⟩ ⟨status, some .calling, m + 1⟩
  | reject {status : Status} {m : Nat} :
      Step ⟨status, some .calling, m + 1⟩ ⟨status, some .rejected, m⟩
  | answer {status : Status} {m : Nat} :
      Step ⟨status, some .calling, m⟩ ⟨status, some .answered, m⟩
  /-- A holder that provably had no effect puts the slot back. -/
  | release {stage : Stage} {m : Nat} : stage = .ready ∨ stage = .rejected →
      Step ⟨.claimed, some stage, m⟩ ⟨.free, none, m⟩
  /-- The outcome is recorded, or found unknown, with or without a holder. -/
  | close {holder : Option Stage} {m : Nat} : Step ⟨.claimed, holder, m⟩ ⟨.closed, holder, m⟩
  /-- The holder dies, gives up, or finds the slot taken from it. -/
  | leave {status : Status} {stage : Stage} {m : Nat} : status ≠ .free →
      Step ⟨status, some stage, m⟩ ⟨status, none, m⟩

/-- The protocol on one slot. -/
def system : System Slot Unit where
  init s := s = .fresh
  step s _ s' := Step s s'

/-- A free slot has no holder, and what may have happened is bounded by how far
the holder came. -/
structure Inv (s : Slot) : Prop where
  free : s.status = .free → s.holder = none ∧ s.maybe = 0
  none_made : ∀ stage, s.holder = some stage → stage = .ready ∨ stage = .rejected → s.maybe = 0
  le_one : s.maybe ≤ 1

theorem inv_step {s s' : Slot} (h : Inv s) (hst : Step s s') : Inv s' := by
  have hle := h.le_one
  cases hst with
  | @claim m =>
    have hm : m = 0 := (h.free rfl).2
    refine ⟨?_, ?_, hle⟩
    · nofun
    · intro stage _ _
      exact hm
  | @call status m =>
    have hm : m = 0 := h.none_made .ready rfl (.inl rfl)
    refine ⟨?_, ?_, ?_⟩
    · intro hfree
      have := (h.free hfree).1
      cases this
    · intro stage hstage hkind
      cases hstage
      rcases hkind with hkind | hkind <;> cases hkind
    · show m + 1 ≤ 1
      omega
  | @reject status m =>
    have hm : m + 1 ≤ 1 := hle
    refine ⟨?_, ?_, ?_⟩
    · intro hfree
      have := (h.free hfree).1
      cases this
    · intro stage _ _
      show m = 0
      omega
    · show m ≤ 1
      omega
  | answer =>
    refine ⟨?_, ?_, hle⟩
    · intro hfree
      have := (h.free hfree).1
      cases this
    · intro stage hstage hkind
      cases hstage
      rcases hkind with hkind | hkind <;> cases hkind
  | @release stage m hkind =>
    have hm : m = 0 := h.none_made stage rfl hkind
    refine ⟨?_, ?_, hle⟩
    · intro _
      exact ⟨rfl, hm⟩
    · nofun
  | close =>
    refine ⟨?_, h.none_made, hle⟩
    intro hfree
    cases hfree
  | leave hstatus =>
    refine ⟨?_, ?_, hle⟩
    · intro hfree
      exact absurd hfree hstatus
    · nofun

theorem inv_reachable {s : Slot} (h : system.Reachable s) : Inv s := by
  refine System.invariant (P := Inv) ?_ ?_ h
  · intro s hs
    subst hs
    refine ⟨?_, ?_, Nat.zero_le 1⟩
    · intro _
      exact ⟨rfl, rfl⟩
    · nofun
  · intro s _ s' _ hi hst
    exact inv_step hi hst

/-- **The effect happens at most once.** -/
theorem maybe_le_one {s : Slot} (h : system.Reachable s) : s.maybe ≤ 1 :=
  (inv_reachable h).le_one

end NewsCraft.Lib.Dispatch
