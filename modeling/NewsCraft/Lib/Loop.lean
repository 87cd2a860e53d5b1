import Mathlib.Tactic.Common

/-!
# Loops that may raise

A loop whose body may raise is a fold in `Option`. What every round preserves the loop
preserves, and what one round establishes about its element holds at the end when the later
rounds keep it.
-/

namespace NewsCraft.Lib

open List

universe u v

variable {α : Type u} {β : Type v} {f : β → α → Option β}

theorem foldlM_preserves {P : β → Prop} {l : List α} {b b' : β}
    (hstep : ∀ b a b', a ∈ l → P b → f b a = some b' → P b') (h : P b)
    (hloop : l.foldlM f b = some b') : P b' := by
  induction l generalizing b with
  | nil =>
    cases hloop
    exact h
  | cons a l ih =>
    rw [foldlM_cons] at hloop
    obtain ⟨b₁, hfirst, hrest⟩ := Option.bind_eq_some_iff.mp hloop
    refine ih (fun b a b' ha => hstep b a b' (mem_cons_of_mem _ ha)) ?_ hrest
    exact hstep b a b₁ mem_cons_self h hfirst

/-- What a round establishes about its element, and later rounds keep, holds of
every element at the end. -/
theorem foldlM_each {P : β → Prop} {Q : α → β → Prop} {l : List α} {b b' : β}
    (hstep : ∀ b a b', a ∈ l → P b → f b a = some b' → P b')
    (hdone : ∀ b a b', a ∈ l → P b → f b a = some b' → Q a b')
    (hkeep : ∀ b a b' x, a ∈ l → P b → Q x b → f b a = some b' → Q x b') (h : P b)
    (hloop : l.foldlM f b = some b') : ∀ a ∈ l, Q a b' := by
  induction l generalizing b with
  | nil =>
    intro a ha
    cases ha
  | cons a l ih =>
    rw [foldlM_cons] at hloop
    obtain ⟨b₁, hfirst, hrest⟩ := Option.bind_eq_some_iff.mp hloop
    have hP := hstep b a b₁ mem_cons_self h hfirst
    have hmem : ∀ x ∈ l, x ∈ a :: l := fun x hx => mem_cons_of_mem _ hx
    intro x hx
    rcases mem_cons.mp hx with rfl | hx
    · -- the rounds after the one for `x` keep what it did
      have hboth : P b' ∧ Q x b' := by
        refine foldlM_preserves (P := fun b => P b ∧ Q x b) ?_
          ⟨hP, hdone b x b₁ mem_cons_self h hfirst⟩ hrest
        rintro b c b' hc ⟨hb, hq⟩ hround
        exact ⟨hstep b c b' (hmem c hc) hb hround, hkeep b c b' x (hmem c hc) hb hq hround⟩
      exact hboth.2
    · exact ih (fun b a b' ha => hstep b a b' (hmem a ha))
        (fun b a b' ha => hdone b a b' (hmem a ha))
        (fun b a b' y ha => hkeep b a b' y (hmem a ha)) hP hrest x hx

/-! ## Folds that pick an element -/

/-- A fold that keeps what it has or takes an element ends with one of them. -/
theorem foldl_picks {pick : Option α → α → Option α}
    (hpick : ∀ best a, pick best a = some a ∨ pick best a = best) (l : List α) (best : Option α) :
    l.foldl pick best = best ∨ ∃ a ∈ l, l.foldl pick best = some a := by
  induction l generalizing best with
  | nil => exact .inl rfl
  | cons first rest ih =>
    rw [foldl_cons]
    rcases ih (pick best first) with hsame | ⟨a, ha, hfold⟩
    · rw [hsame]
      rcases hpick best first with htaken | hkept
      · exact .inr ⟨first, mem_cons_self, htaken⟩
      · exact .inl hkept
    · exact .inr ⟨a, mem_cons_of_mem _ ha, hfold⟩

end NewsCraft.Lib
