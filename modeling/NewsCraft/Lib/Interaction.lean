import Mathlib.Logic.Function.Iterate
import Mathlib.Tactic.Common

/-!
# Programs that act and may stop

A program runs on a state, which also records what it did, and ends with a value or is
stopped. The state it was stopped in remains. A triple says what holds of the state at
either end: `Q` with the value where the program came to its end, `R` where it was
stopped. Rules for the parts of a program give a triple of the whole.
-/

namespace NewsCraft.Lib

variable {σ ε α β : Type}

def Act (σ ε α : Type) : Type := σ → Except ε α × σ

namespace Act

/-- One program after another; the second is not run where the first is stopped. -/
def andThen (x : Act σ ε α) (f : α → Act σ ε β) : Act σ ε β := fun s =>
  match x s with
  | (.ok a, s') => f a s'
  | (.error e, s') => (.error e, s')

instance : Monad (Act σ ε) where
  pure a s := (.ok a, s)
  bind := andThen

def stop (e : ε) : Act σ ε α := fun s => (.error e, s)

def get : Act σ ε σ := fun s => (.ok s, s)

def modify (f : σ → σ) : Act σ ε Unit := fun s => (.ok (), f s)

/-- Run on every element of a list. -/
def each (f : α → Act σ ε Unit) : List α → Act σ ε Unit
  | [] => pure ()
  | a :: rest => do
      f a
      each f rest

section Bind

variable {x : Act σ ε α} {f : α → Act σ ε β} {s s' : σ}

theorem bind_of_ok {a : α} (h : x s = (.ok a, s')) : (x >>= f) s = f a s' := by
  change andThen x f s = f a s'
  rw [andThen, h]

theorem bind_of_error {e : ε} (h : x s = (.error e, s')) : (x >>= f) s = (.error e, s') := by
  change andThen x f s = (.error e, s')
  rw [andThen, h]

end Bind

/-! ## Triples -/

/-- What holds at either end. -/
def Ends (Q : α → σ → Prop) (R : σ → Prop) : Except ε α × σ → Prop
  | (.ok a, s) => Q a s
  | (.error _, s) => R s

def Triple (P : σ → Prop) (x : Act σ ε α) (Q : α → σ → Prop) (R : σ → Prop) : Prop :=
  ∀ s, P s → Ends Q R (x s)

variable {P P' : σ → Prop} {Q Q' : α → σ → Prop} {S : β → σ → Prop} {R : σ → Prop}
  {x : Act σ ε α} {f : α → Act σ ε β}

theorem Triple.bind (hx : Triple P x Q R) (hf : ∀ a, Triple (Q a) (f a) S R) :
    Triple P (x >>= f) S R := by
  intro s hs
  have hfirst := hx s hs
  cases hrun : x s with
  | mk result s' =>
    rw [hrun] at hfirst
    cases result with
    | ok a =>
      rw [bind_of_ok hrun]
      exact hf a s' hfirst
    | error e =>
      rw [bind_of_error hrun]
      exact hfirst

theorem Triple.pure {a : α} (h : ∀ s, P s → Q a s) : Triple P (Pure.pure a : Act σ ε α) Q R :=
  h

theorem Triple.stop {e : ε} (h : ∀ s, P s → R s) : Triple P (Act.stop e : Act σ ε α) Q R :=
  h

theorem Triple.modify {g : σ → σ} {Q : Unit → σ → Prop} (h : ∀ s, P s → Q () (g s)) :
    Triple P (Act.modify g : Act σ ε Unit) Q R :=
  h

theorem Triple.get_bind {f : σ → Act σ ε β}
    (h : ∀ state, Triple (fun s => state = s ∧ P s) (f state) S R) : Triple P (Act.get >>= f) S R :=
  fun s hs => h s s ⟨rfl, hs⟩

theorem Triple.weaken (h : Triple P' x Q' R) (hP : ∀ s, P s → P' s)
    (hQ : ∀ a s, Q' a s → Q a s) : Triple P x Q R := by
  intro s hs
  have hends := h s (hP s hs)
  cases hrun : x s with
  | mk result s' =>
    rw [hrun] at hends
    cases result with
    | ok a => exact hQ a s' hends
    | error e => exact hends

theorem Triple.ite {c : Prop} [Decidable c] {y : Act σ ε α}
    (hx : c → Triple P x Q R) (hy : ¬ c → Triple P y Q R) :
    Triple P (if c then x else y) Q R := by
  by_cases h : c
  · rw [if_pos h]
    exact hx h
  · rw [if_neg h]
    exact hy h

/-! ## Programs that only read -/

/-- The program leaves every state as it found it, up to steps of `tick`. -/
def Reads (tick : σ → σ) (x : Act σ ε α) : Prop :=
  ∀ s, ∃ n : Nat, (x s).2 = tick^[n] s

variable {tick : σ → σ}

theorem Reads.pure {a : α} : Reads tick (Pure.pure a : Act σ ε α) := fun _ => ⟨0, rfl⟩

theorem Reads.stop {e : ε} : Reads tick (Act.stop e : Act σ ε α) := fun _ => ⟨0, rfl⟩

theorem Reads.bind (hx : Reads tick x) (hf : ∀ a, Reads tick (f a)) : Reads tick (x >>= f) := by
  intro s
  obtain ⟨n, hn⟩ := hx s
  cases hrun : x s with
  | mk result s' =>
    rw [hrun] at hn
    cases result with
    | ok a =>
      obtain ⟨m, hm⟩ := hf a s'
      refine ⟨m + n, ?_⟩
      rw [bind_of_ok hrun, Function.iterate_add_apply, ← hn]
      exact hm
    | error e =>
      rw [bind_of_error hrun]
      exact ⟨n, hn⟩

theorem Reads.ite {c : Prop} [Decidable c] {y : Act σ ε α} (hx : Reads tick x)
    (hy : Reads tick y) : Reads tick (if c then x else y) := by
  by_cases h : c
  · rw [if_pos h]
    exact hx
  · rw [if_neg h]
    exact hy

theorem Reads.each {g : α → Act σ ε Unit} (hg : ∀ a, Reads tick (g a)) (items : List α) :
    Reads tick (Act.each g items) := by
  induction items with
  | nil => exact Reads.pure
  | cons a rest ih => exact (hg a).bind fun _ => ih

/-- What a tick keeps, a program that only reads keeps. -/
theorem Reads.keeps (h : Reads tick x) (hP : ∀ s, P s → P (tick s)) (hR : ∀ s, P s → R s) :
    Triple P x (fun _ => P) R := by
  have hticks : ∀ (n : Nat) s, P s → P (tick^[n] s) := by
    intro n
    induction n with
    | zero => exact fun s hs => hs
    | succ n ih =>
      intro s hs
      rw [Function.iterate_succ_apply]
      exact ih _ (hP s hs)
  intro s hs
  obtain ⟨n, hn⟩ := h s
  have hlast := hticks n s hs
  rw [← hn] at hlast
  cases hrun : x s with
  | mk result s' =>
    rw [hrun] at hlast
    cases result with
    | ok a => exact hlast
    | error e => exact hR _ hlast

end Act

end NewsCraft.Lib
