import Mathlib.Tactic.Common

/-!
# Writing a copy back

A session that loaded a row writes the columns it changed in its copy to the row later, when
others may have written it too.
-/

namespace NewsCraft.Lib

universe u

/-- A column as it is written back: only where the copy changed. -/
def written {α : Type u} [DecidableEq α] (loaded changed row : α) : α :=
  if changed = loaded then row else changed

variable {α : Type u} [DecidableEq α]

theorem written_same (loaded row : α) : written loaded loaded row = row := if_pos rfl

theorem written_of_ne {loaded changed : α} (h : changed ≠ loaded) (row : α) :
    written loaded changed row = changed := if_neg h

theorem written_cases (loaded changed row : α) : written loaded changed row = row ∧ changed = loaded
      ∨ written loaded changed row = changed ∧ changed ≠ loaded := by
  by_cases h : changed = loaded
  · exact .inl ⟨if_pos h, h⟩
  · exact .inr ⟨if_neg h, h⟩

end NewsCraft.Lib
