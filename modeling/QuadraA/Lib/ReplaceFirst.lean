import Mathlib.Data.List.Basic

/-!
# Replacing the first element

`List.replaceF` replaces the first element for which a function has a value.

* `exists_mem_replaceF`: what some element satisfies, if the replacement keeps it;
* `map_replaceF_of_same`: what a function makes of it that does not see the replacement.
-/

namespace QuadraA.Lib

universe u v

variable {α : Type u} {f : α → Option α} {P : α → Prop} {l : List α}

theorem exists_mem_replaceF (h : ∃ a ∈ l, P a)
    (hf : ∀ a ∈ l, ∀ a', f a = some a' → P a → P a') : ∃ a ∈ l.replaceF f, P a := by
  induction l with
  | nil => exact h
  | cons b l ih =>
    obtain ⟨a, hmem, ha⟩ := h
    cases hb : f b with
    | some b' =>
      rw [List.replaceF_cons_of_some f hb]
      rcases List.mem_cons.mp hmem with rfl | hmem
      · exact ⟨b', List.mem_cons_self, hf a List.mem_cons_self b' hb ha⟩
      · exact ⟨a, List.mem_cons_of_mem _ hmem, ha⟩
    | none =>
      rw [List.replaceF_cons_of_none f hb]
      rcases List.mem_cons.mp hmem with rfl | hmem
      · exact ⟨a, List.mem_cons_self, ha⟩
      · obtain ⟨a', hmem', ha'⟩ :=
          ih ⟨a, hmem, ha⟩ fun c hc => hf c (List.mem_cons_of_mem b hc)
        exact ⟨a', List.mem_cons_of_mem b hmem', ha'⟩

theorem forall_mem_replaceF (h : ∀ a ∈ l, P a) (hf : ∀ a ∈ l, ∀ a', f a = some a' → P a') :
    ∀ a ∈ l.replaceF f, P a := by
  induction l with
  | nil => exact h
  | cons b l ih =>
    have hrest : ∀ a ∈ l, P a := fun a ha => h a (List.mem_cons_of_mem b ha)
    intro a ha
    cases hb : f b with
    | some b' =>
      rw [List.replaceF_cons_of_some f hb] at ha
      rcases List.mem_cons.mp ha with rfl | ha
      · exact hf b List.mem_cons_self _ hb
      · exact hrest a ha
    | none =>
      rw [List.replaceF_cons_of_none f hb] at ha
      rcases List.mem_cons.mp ha with rfl | ha
      · exact h a List.mem_cons_self
      · exact ih hrest (fun c hc => hf c (List.mem_cons_of_mem b hc)) a ha

/-- The first element with a value is replaced. -/
theorem replaceF_append_cons {l₁ l₂ : List α} {a a' : α} (hnone : ∀ b ∈ l₁, f b = none)
    (ha : f a = some a') : (l₁ ++ a :: l₂).replaceF f = l₁ ++ a' :: l₂ := by
  induction l₁ with
  | nil => exact List.replaceF_cons_of_some f ha
  | cons b l₁ ih =>
    rw [List.cons_append, List.replaceF_cons_of_none f (hnone b List.mem_cons_self),
      ih fun c hc => hnone c (List.mem_cons_of_mem b hc), List.cons_append]

variable {β : Type v}

/-- A replacement that a function does not see. -/
theorem map_replaceF_of_same {g : α → β} (h : ∀ a a', f a = some a' → g a' = g a) (l : List α) :
    (l.replaceF f).map g = l.map g := by
  induction l with
  | nil => rfl
  | cons a l ih =>
    cases hfa : f a with
    | some a' =>
      rw [List.replaceF_cons_of_some f hfa, List.map_cons, List.map_cons, h a a' hfa]
    | none => rw [List.replaceF_cons_of_none f hfa, List.map_cons, List.map_cons, ih]

end QuadraA.Lib
