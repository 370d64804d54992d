import Mathlib.Data.Finset.Erase
import Mathlib.Data.Finset.Insert

/-!
# Inverted indexes

The elements under each key, for elements that have lists of keys which change: an element is put
under its keys or taken from them, one key after the other.

* `addKeys`, `removeKeys` with `mem_addKeys` and `mem_removeKeys`;
* `Mirrors.addKeys`, `Mirrors.removeKeys` — an element that had no keys gets some, and one that had
  some loses all of them.
-/

namespace QuadraA.Lib

universe u v

variable {κ : Type u} {α : Type v}

/-- **An element is under exactly its keys.** -/
def Mirrors (index : κ → Finset α) (keys : α → List κ) : Prop := ∀ k a, a ∈ index k ↔ k ∈ keys a

variable [DecidableEq κ] [DecidableEq α]

/-- An element is put under keys. -/
def addKeys (index : κ → Finset α) (a : α) (keys : List κ) : κ → Finset α :=
  keys.foldl (fun index k => Function.update index k (insert a (index k))) index

/-- An element is taken from keys. -/
def removeKeys (index : κ → Finset α) (a : α) (keys : List κ) : κ → Finset α :=
  keys.foldl (fun index k => Function.update index k ((index k).erase a)) index

variable {index : κ → Finset α} {a b : α} {k : κ} {keys' : α → List κ}

theorem mem_addKeys {keys : List κ} :
    b ∈ addKeys index a keys k ↔ b ∈ index k ∨ b = a ∧ k ∈ keys := by
  induction keys generalizing index with
  | nil => simp [addKeys]
  | cons first rest ih =>
    rw [addKeys, List.foldl_cons, ← addKeys, ih, Function.update_apply]
    split
    · rename_i hk
      rw [Finset.mem_insert, hk, List.mem_cons]
      tauto
    · rename_i hk
      rw [List.mem_cons]
      tauto

theorem mem_removeKeys {keys : List κ} :
    b ∈ removeKeys index a keys k ↔ b ∈ index k ∧ ¬(b = a ∧ k ∈ keys) := by
  induction keys generalizing index with
  | nil => simp [removeKeys]
  | cons first rest ih =>
    rw [removeKeys, List.foldl_cons, ← removeKeys, ih, Function.update_apply]
    split
    · rename_i hk
      rw [Finset.mem_erase, hk, List.mem_cons]
      tauto
    · rename_i hk
      rw [List.mem_cons]
      tauto

/-- **An element without keys gets some.** -/
theorem Mirrors.addKeys {keys : α → List κ} (h : Mirrors index keys) (hnone : keys a = [])
    (hsame : ∀ b, b ≠ a → keys' b = keys b) : Mirrors (addKeys index a (keys' a)) keys' := by
  intro k b
  rw [mem_addKeys, h k b]
  by_cases hb : b = a
  · rw [hb, hnone]
    simp
  · rw [hsame b hb]
    simp [hb]

/-- **An element loses its keys.** -/
theorem Mirrors.removeKeys {keys : α → List κ} (h : Mirrors index keys) (hnone : keys' a = [])
    (hsame : ∀ b, b ≠ a → keys' b = keys b) : Mirrors (removeKeys index a (keys a)) keys' := by
  intro k b
  rw [mem_removeKeys, h k b]
  by_cases hb : b = a
  · rw [hb, hnone]
    simp
  · rw [hsame b hb]
    simp [hb]

end QuadraA.Lib
