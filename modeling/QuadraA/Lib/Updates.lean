import Mathlib.Logic.Function.Basic

/-!
# Writes to a map

What is read from a function after one of its values was written.

* `update_apply_eq_iff` — it is the value written, or the one that was there.
-/

namespace QuadraA.Lib

universe u v

variable {κ : Type u} {α : Type v} [DecidableEq κ] {f : κ → α} {k k' : κ} {a b : α}

/-- **What is read after a write** was written, or was there under another key. -/
theorem update_apply_eq_iff :
    Function.update f k a k' = b ↔ k' = k ∧ a = b ∨ k' ≠ k ∧ f k' = b := by
  by_cases hk : k' = k
  · rw [hk, Function.update_self]
    simp
  · rw [Function.update_of_ne hk]
    simp [hk]

end QuadraA.Lib
