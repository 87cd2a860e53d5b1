import Mathlib.Tactic.Common

/-!
# Commands that check before they write

A command runs a row of checks, each of which can stop it, and writes at its
end. The rules say what a command that was not stopped went through, and that
one that was stopped leaves the state alone.
-/

namespace NewsCraft.Lib.Checked

open List

universe u

variable {ε α β σ : Type u}

/-- Stop unless the condition holds. -/
def require (ok : Prop) [Decidable ok] (stop : ε) : Except ε Unit :=
  if ok then .ok () else .error stop

/-- The value, or stop where there is none. -/
def orStop (value : Option α) (stop : ε) : Except ε α :=
  match value with
  | some a => .ok a
  | none => .error stop

/-- Stop where there is something to stop for. -/
def refuse (stop : Option ε) : Except ε Unit :=
  match stop with
  | some stop => .error stop
  | none => .ok ()

/-- The state a transaction leaves: one that is stopped is rolled back. -/
def commit (s : σ) (result : Except ε (α × σ)) : σ :=
  match result with
  | .ok (_, s') => s'
  | .error _ => s

theorem bind_ok_iff {x : Except ε α} {f : α → Except ε β} {r : β} :
    (x >>= f) = .ok r ↔ ∃ a, x = .ok a ∧ f a = .ok r := by
  cases x with
  | error stop =>
    constructor
    · nofun
    · rintro ⟨a, ha, -⟩
      cases ha
  | ok a =>
    constructor
    · intro h
      exact ⟨a, rfl, h⟩
    · rintro ⟨a', ha, h⟩
      cases ha
      exact h

theorem require_ok_iff {ok : Prop} [Decidable ok] {stop : ε} {u : Unit} :
    require ok stop = .ok u ↔ ok := by
  rw [require]
  by_cases h : ok
  · rw [if_pos h]
    exact ⟨fun _ => h, fun _ => rfl⟩
  · rw [if_neg h]
    constructor
    · nofun
    · intro ho
      exact absurd ho h

theorem orStop_ok_iff {value : Option α} {stop : ε} {a : α} :
    orStop value stop = .ok a ↔ value = some a := by
  cases value with
  | none =>
    constructor
    · nofun
    · nofun
  | some b => rw [orStop, Except.ok.injEq, Option.some.injEq]

theorem refuse_ok_iff {stop : Option ε} {u : Unit} : refuse stop = .ok u ↔ stop = none := by
  cases stop with
  | none => exact ⟨fun _ => rfl, fun _ => rfl⟩
  | some stop =>
    constructor
    · nofun
    · nofun

theorem commit_ok {s s' : σ} {a : α} : commit s (.ok (a, s') : Except ε (α × σ)) = s' := rfl

theorem commit_cases (s : σ) (result : Except ε (α × σ)) :
    commit s result = s ∨ ∃ a, result = .ok (a, commit s result) := by
  cases result with
  | error stop => exact .inl rfl
  | ok r => exact .inr ⟨r.1, rfl⟩

/-- What every round of a loop keeps, a loop that is not stopped keeps. -/
theorem foldlM_ok {P : σ → Prop} {f : σ → α → Except ε σ}
    (hf : ∀ s a s', P s → f s a = .ok s' → P s') {s s' : σ} {items : List α} (hs : P s)
    (h : items.foldlM f s = .ok s') : P s' := by
  induction items generalizing s with
  | nil =>
    cases h
    exact hs
  | cons item rest ih =>
    rw [foldlM_cons] at h
    obtain ⟨t, hfirst, hrest⟩ := bind_ok_iff.mp h
    exact ih (hf s item t hs hfirst) hrest

theorem mem_of_mapM_ok {f : α → Except ε β} {l : List α} {results : List β}
    (h : l.mapM f = .ok results) {b : β} (hb : b ∈ results) : ∃ a ∈ l, f a = .ok b := by
  induction l generalizing results with
  | nil =>
    cases h
    cases hb
  | cons a rest ih =>
    rw [mapM_cons] at h
    obtain ⟨first, hfirst, h⟩ := bind_ok_iff.mp h
    obtain ⟨later, hlater, h⟩ := bind_ok_iff.mp h
    cases h
    rcases mem_cons.mp hb with rfl | hmem
    · exact ⟨a, mem_cons_self, hfirst⟩
    obtain ⟨a', ha', hresult⟩ := ih hlater hmem
    exact ⟨a', mem_cons_of_mem _ ha', hresult⟩

end NewsCraft.Lib.Checked
