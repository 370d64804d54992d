import Mathlib.Data.List.Basic

/-!
# Inversion of exception-monad programs

A `do` block over `Except` returns a value exactly when each of its steps does.  `bind_eq_ok` is
that fact for one step; as a simp lemma it turns an equation `program = .ok result` into the chain
of intermediate values, and no proof has to split on the failure of a step.
-/

namespace QuadraA.Lib

universe u

variable {ε : Type u} {α β : Type u}

/-- A bind returns exactly when both of its parts do. -/
@[simp] theorem bind_eq_ok {x : Except ε α} {f : α → Except ε β} {b : β} :
    (x >>= f) = .ok b ↔ ∃ a, x = .ok a ∧ f a = .ok b := by
  cases x with
  | error e => simp [bind, Except.bind]
  | ok a => simp [bind, Except.bind]

/-- A bind after a step that returned runs its continuation. -/
@[simp] theorem ok_bind (a : α) (f : α → Except ε β) : ((.ok a : Except ε α) >>= f) = f a := rfl

/-- The option that forgets the error holds the value that was returned. -/
@[simp] theorem toOption_eq_some {x : Except ε α} {a : α} : x.toOption = some a ↔ x = .ok a := by
  cases x with
  | error e => simp [Except.toOption]
  | ok b => simp [Except.toOption]

/-- The value of a program that is known to return. -/
def valueOf : (x : Except ε α) → x.isOk = true → α
  | .ok a, _ => a

theorem eq_ok_valueOf : (x : Except ε α) → (h : x.isOk = true) → x = .ok (valueOf x h)
  | .ok _, _ => rfl

/-- Every program either returns or throws. -/
theorem ok_or_error (x : Except ε α) : (∃ a, x = .ok a) ∨ ∃ e, x = .error e := by
  cases x with
  | error e => exact Or.inr ⟨e, rfl⟩
  | ok a => exact Or.inl ⟨a, rfl⟩

end QuadraA.Lib
