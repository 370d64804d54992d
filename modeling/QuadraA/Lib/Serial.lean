import Mathlib.Data.List.Perm.Basic

/-!
# Serial orders of operations on one store

A store that several parties read and write is serial when its contents are the fold of their
operations in some order.  A writer takes its place at the end of the order; an operation that
changes nothing takes its place where its store was read.

* `Passes`: the fold of an order passes through a store;
* `exists_insert`: an operation that changes nothing on a store that an order passes through can
  be put there, and the order still passes through all it passed through before.
-/

namespace QuadraA.Lib

universe u v

variable {σ : Type u} {α : Type v} {run : σ → α → σ} {start x y : σ} {order : List α} {a : α}

/-- **The fold of an order passes through a store.** -/
def Passes (run : σ → α → σ) (start : σ) (order : List α) (x : σ) : Prop :=
  ∃ before after, order = before ++ after ∧ before.foldl run start = x

/-- Every order passes through its result. -/
theorem Passes.self (run : σ → α → σ) (start : σ) (order : List α) :
    Passes run start order (order.foldl run start) :=
  ⟨order, [], (List.append_nil order).symm, rfl⟩

theorem Passes.snoc (h : Passes run start order x) (a : α) :
    Passes run start (order ++ [a]) x := by
  obtain ⟨before, after, rfl, hbefore⟩ := h
  exact ⟨before, after ++ [a], List.append_assoc before after [a], hbefore⟩

/-- A cut stays a cut when an operation that changes nothing is put in at another cut. -/
theorem Passes.insert {before after : List α} (hx : before.foldl run start = x) (ha : run x a = x)
    (h : Passes run start (before ++ after) y) :
    Passes run start (before ++ a :: after) y := by
  obtain ⟨before', after', happend, hy⟩ := h
  rcases List.append_eq_append_iff.mp happend with ⟨middle, rfl, rfl⟩ | ⟨middle, rfl, rfl⟩
  · -- the cut is at or after the new operation
    refine ⟨before ++ a :: middle, after', by simp, ?_⟩
    rw [List.foldl_append, hx] at hy
    rw [List.foldl_append, hx, List.foldl_cons, ha]
    exact hy
  · exact ⟨before', middle ++ a :: after, by simp, hy⟩

/-- **Insertion.**  An operation that changes nothing on a store that the order passes through. -/
theorem exists_insert (h : Passes run start order x) (ha : run x a = x) :
    ∃ order', order'.Perm (order ++ [a]) ∧ order'.foldl run start = order.foldl run start ∧
      ∀ y, Passes run start order y → Passes run start order' y := by
  obtain ⟨before, after, rfl, hbefore⟩ := h
  refine ⟨before ++ a :: after, ?_, ?_, fun y hy => hy.insert hbefore ha⟩
  · rw [List.append_assoc]
    exact List.Perm.append_left before (List.perm_append_singleton a after).symm
  · rw [List.foldl_append, List.foldl_append, List.foldl_cons, hbefore, ha]

end QuadraA.Lib
