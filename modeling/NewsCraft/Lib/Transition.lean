import Mathlib.Tactic.Common

/-!
# Transition systems

A component is a set of initial states and a labelled step relation. A label is one atomic
action of one party (a committed transaction, a call over the network, a crash), so a run is
one interleaving of the parties.

The file proves the induction every invariant goes through, the version of it that lets one
invariant lean on another, and the transport of reachable states along a simulation.
-/

namespace NewsCraft.Lib

universe u v w

/-- A labelled transition system. -/
structure System (σ : Type u) (ε : Type v) where
  init : σ → Prop
  step : σ → ε → σ → Prop

namespace System

variable {σ : Type u} {ε : Type v} {S : System σ ε}

/-- The states some run from an initial state ends in. -/
inductive Reachable (S : System σ ε) : σ → Prop
  | init {s : σ} : S.init s → Reachable S s
  | tail {s s' : σ} {e : ε} : Reachable S s → S.step s e s' → Reachable S s'

/-- A finite run, with the labels it performs in order. -/
inductive Run (S : System σ ε) : σ → List ε → σ → Prop
  | nil (s : σ) : Run S s [] s
  | cons {s s' t : σ} {e : ε} {es : List ε} : S.step s e s' → Run S s' es t → Run S s (e :: es) t

/-! ## Invariants -/

variable {P : σ → Prop} {s : σ}

/-- A predicate that holds initially and survives every step out of a reachable
state holds of every reachable state. The step case may use reachability, which
is how an invariant already proved is assumed in the proof of the next one. -/
theorem invariant (hinit : ∀ s, S.init s → P s)
    (hstep : ∀ s e s', S.Reachable s → P s → S.step s e s' → P s') (h : S.Reachable s) : P s := by
  induction h with
  | init h0 => exact hinit _ h0
  | tail hr hst ih => exact hstep _ _ _ hr ih hst

variable {es : List ε}

theorem Run.preserves (hstep : ∀ s e s', P s → S.step s e s' → P s') {t : σ} (h : S.Run s es t)
    (hs : P s) : P t := by
  induction h with
  | nil s => exact hs
  | cons hst _ ih => exact ih (hstep _ _ _ hs hst)

/-! ## Runs and reachability -/

theorem Run.single {s' : σ} {e : ε} (h : S.step s e s') : S.Run s [e] s' :=
  .cons h (.nil s')

theorem Run.append {t u : σ} {fs : List ε} (h : S.Run s es t) (h' : S.Run t fs u) :
    S.Run s (es ++ fs) u := by
  induction h with
  | nil s => exact h'
  | cons hst _ ih => exact .cons hst (ih h')

theorem Run.reachable {t : σ} (h : S.Run s es t) (hs : S.Reachable s) : S.Reachable t := by
  induction h with
  | nil s => exact hs
  | cons hst _ ih => exact ih (hs.tail hst)

variable {f : σ → ε → σ}

/-- A system whose steps are a function reaches whatever folding it reaches. -/
theorem reachable_foldl (hf : ∀ s e, S.step s e (f s e)) (h : S.Reachable s) (es : List ε) :
    S.Reachable (es.foldl f s) := by
  induction es generalizing s with
  | nil => exact h
  | cons e rest ih => exact ih (h.tail (hf s e))

theorem reachable_foldl_of {ok : ε → Prop} (hf : ∀ s e, ok e → S.step s e (f s e))
    (h : S.Reachable s) (hes : ∀ e ∈ es, ok e) : S.Reachable (es.foldl f s) := by
  induction es generalizing s with
  | nil => exact h
  | cons e rest ih =>
    refine ih (h.tail (hf s e (hes e List.mem_cons_self))) ?_
    intro e' he'
    exact hes e' (List.mem_cons_of_mem _ he')

/-- A system whose steps are a partial function runs to what folding it comes to. -/
theorem run_foldlM {f : σ → ε → Option σ} (hf : ∀ s e s', f s e = some s' → S.step s e s')
    {s' : σ} (hfold : es.foldlM f s = some s') : S.Run s es s' := by
  induction es generalizing s with
  | nil =>
    cases hfold
    exact .nil _
  | cons e rest ih =>
    rw [List.foldlM_cons] at hfold
    obtain ⟨t, hfirst, hrest⟩ := Option.bind_eq_some_iff.mp hfold
    exact .cons (hf _ e t hfirst) (ih hrest)

theorem reachable_foldlM {f : σ → ε → Option σ} (hf : ∀ s e s', f s e = some s' → S.step s e s')
    {s' : σ} (h : S.Reachable s) (hfold : es.foldlM f s = some s') : S.Reachable s' :=
  (run_foldlM hf hfold).reachable h

/-- Each of the steps is open where it is taken. -/
def Along (ok : σ → ε → Prop) (f : σ → ε → σ) : σ → List ε → Prop
  | _, [] => True
  | s, e :: es => ok s e ∧ Along ok f (f s e) es

variable {ok : σ → ε → Prop}

theorem reachable_along (hf : ∀ s e, ok s e → S.step s e (f s e)) (h : S.Reachable s)
    (hes : Along ok f s es) : S.Reachable (es.foldl f s) := by
  induction es generalizing s with
  | nil => exact h
  | cons e rest ih => exact ih (h.tail (hf s e hes.1)) hes.2

instance decidableAlong {ok : σ → ε → Prop} [∀ s e, Decidable (ok s e)] {f : σ → ε → σ} :
    ∀ (s : σ) (es : List ε), Decidable (Along ok f s es)
  | _, [] => inferInstanceAs (Decidable True)
  | s, e :: es =>
    have : Decidable (Along ok f (f s e) es) := decidableAlong (f s e) es
    inferInstanceAs (Decidable (ok s e ∧ Along ok f (f s e) es))

theorem Along.mono {ok' : σ → ε → Prop} (hok : ∀ s e, ok s e → ok' s e) (h : Along ok f s es) :
    Along ok' f s es := by
  induction es generalizing s with
  | nil => trivial
  | cons e rest ih => exact ⟨hok s e h.1, ih h.2⟩

theorem along_congr {ok' : σ → ε → Prop} (hkeep : ∀ s e, P s → P (f s e))
    (hok : ∀ s e, P s → (ok s e ↔ ok' s e)) (h : P s) (es : List ε) :
    Along ok f s es ↔ Along ok' f s es := by
  induction es generalizing s with
  | nil => exact Iff.rfl
  | cons e rest ih => exact and_congr (hok s e h) (ih (hkeep s e h))

theorem Along.append {fs : List ε} (h : Along ok f s es) (h' : Along ok f (es.foldl f s) fs) :
    Along ok f s (es ++ fs) := by
  induction es generalizing s with
  | nil => exact h'
  | cons e rest ih => exact ⟨h.1, ih h.2 h'⟩

/-! ## Restriction -/

/-- The runs of `S` whose every step meets `ok`. -/
def restrict (S : System σ ε) (ok : σ → ε → Prop) : System σ ε where
  init := S.init
  step s e s' := ok s e ∧ S.step s e s'

theorem Reachable.of_restrict (h : (S.restrict ok).Reachable s) : S.Reachable s := by
  induction h with
  | init h0 => exact .init h0
  | tail _ hst ih => exact ih.tail hst.2

/-! ## Simulation -/

variable {τ : Type w} {δ : Type*} {A : System τ δ}

/-- `R` simulates `S` by `A`: a concrete step is matched by some number of abstract ones. -/
structure Simulation (S : System σ ε) (A : System τ δ) (R : σ → τ → Prop) : Prop where
  init : ∀ s, S.init s → ∃ a, A.init a ∧ R s a
  step : ∀ s e s' a, S.Reachable s → R s a → S.step s e s' → ∃ es a', A.Run a es a' ∧ R s' a'

/-- **Every concrete state is related to a reachable abstract one.** -/
theorem Simulation.reachable {R : σ → τ → Prop} (sim : Simulation S A R) (h : S.Reachable s) :
    ∃ a, A.Reachable a ∧ R s a := by
  induction h with
  | init h0 =>
    obtain ⟨a, ha, hR⟩ := sim.init _ h0
    exact ⟨a, .init ha, hR⟩
  | tail hr hst ih =>
    obtain ⟨a, ha, hR⟩ := ih
    obtain ⟨es, a', hrun, hR'⟩ := sim.step _ _ _ _ hr hR hst
    exact ⟨a', hrun.reachable ha, hR'⟩

end System

end NewsCraft.Lib
