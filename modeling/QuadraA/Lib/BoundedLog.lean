import Mathlib.Data.List.Induction
import Mathlib.Data.List.Nodup

/-!
# Bounded logs

A list of elements with distinct keys, in the order in which their keys came last, and of bounded
length: a new element goes to the end, and what is too many is dropped from the front.

* `pushBounded` — a new element;
* `BoundedLog.push`, `BoundedLog.filter`, `BoundedLog.of_keys` — what keeps it.
-/

set_option linter.unusedSectionVars false

namespace QuadraA.Lib

universe u v

variable {α : Type u} {κ : Type v}

/-- **A new element**, and as many dropped from the front as are too many. -/
def pushBounded (limit : ℕ) (l : List α) (a : α) : List α :=
  (l ++ [a]).drop (l.length + 1 - limit)

variable {limit : ℕ} {l : List α}

theorem length_pushBounded (h : l.length ≤ limit) (a : α) :
    (pushBounded limit l a).length ≤ limit := by
  rw [pushBounded, List.length_drop, List.length_append, List.length_singleton]
  omega

theorem pushBounded_of_lt (h : l.length < limit) (a : α) : pushBounded limit l a = l ++ [a] := by
  rw [pushBounded, Nat.sub_eq_zero_of_le h, List.drop_zero]

/-- A full list loses its first element. -/
theorem pushBounded_of_full (h : l.length = limit) (hlimit : 0 < limit) (a : α) :
    pushBounded limit l a = l.tail ++ [a] := by
  cases l with
  | nil =>
    rw [List.length_nil] at h
    omega
  | cons b l =>
    have hone : (b :: l).length + 1 - limit = 1 := by omega
    rw [pushBounded, hone]
    rfl

variable [DecidableEq κ]

/-- The keys in the order in which they came last, with one that has just come. -/
def latest (order : List κ) (k : κ) : List κ := order.erase k ++ [k]

/-- The order of the keys that are not gone. -/
def without (order gone : List κ) : List κ := order.filter fun k => k ∉ gone

theorem nodup_latest {order : List κ} (h : order.Nodup) (k : κ) : (latest order k).Nodup := by
  refine (h.erase k).append (List.nodup_singleton k) ?_
  rw [List.disjoint_singleton]
  exact h.not_mem_erase

/-- **The latest of all keys that came**, and no more than fit. -/
structure BoundedLog (key : α → κ) (limit : ℕ) (order : List κ) (l : List α) : Prop where
  length_le : l.length ≤ limit
  distinct : order.Nodup
  suffix : l.map key <:+ order

namespace BoundedLog

variable {key : α → κ} {limit : ℕ} {order : List κ} {l l' : List α}

theorem nil (key : α → κ) (limit : ℕ) : BoundedLog key limit [] [] :=
  ⟨Nat.zero_le _, List.nodup_nil, List.suffix_refl _⟩

theorem nodup (h : BoundedLog key limit order l) : (l.map key).Nodup :=
  h.suffix.sublist.nodup h.distinct

/-- **A new key** goes to the end. -/
theorem push (h : BoundedLog key limit order l) {a : α} (hnew : key a ∉ l.map key) :
    BoundedLog key limit (latest order (key a)) (pushBounded limit l a) := by
  refine ⟨length_pushBounded h.length_le a, nodup_latest h.distinct _, ?_⟩
  obtain ⟨earlier, horder⟩ := h.suffix
  have herase : ∃ earlier', order.erase (key a) = earlier' ++ l.map key := by
    rw [← horder, List.erase_append]
    split
    · exact ⟨_, rfl⟩
    · exact ⟨earlier, by rw [List.erase_of_not_mem hnew]⟩
  obtain ⟨earlier', herase⟩ := herase
  rw [latest, herase, pushBounded, List.map_drop, List.map_append, List.append_assoc]
  exact (List.drop_suffix _ _).trans (List.suffix_append _ _)

/-- Other elements with the same keys. -/
theorem of_keys (h : BoundedLog key limit order l) (hkeys : l'.map key = l.map key) :
    BoundedLog key limit order l' := by
  refine ⟨?_, h.distinct, hkeys ▸ h.suffix⟩
  have hlength := congrArg List.length hkeys
  rw [List.length_map, List.length_map] at hlength
  rw [hlength]
  exact h.length_le

/-- **Elements are taken out**, with their keys. -/
theorem filter (h : BoundedLog key limit order l) (keep : α → Bool) :
    BoundedLog key limit (without order ((l.filter fun a => !keep a).map key))
      (l.filter keep) := by
  refine ⟨Nat.le_trans (List.length_filter_le _ _) h.length_le, h.distinct.filter _, ?_⟩
  obtain ⟨earlier, horder⟩ := h.suffix
  -- a key of the list is of one element, so it goes with that element
  have hkeys : (l.filter keep).map key
      = without (l.map key) ((l.filter fun a => !keep a).map key) := by
    rw [without, List.filter_map]
    congr 1
    refine List.filter_congr fun a ha => ?_
    have hiff : key a ∈ (l.filter fun a => !keep a).map key ↔ keep a = false := by
      constructor
      · intro hmem
        obtain ⟨b, hb, hkey⟩ := List.mem_map.mp hmem
        obtain ⟨hb, hkept⟩ := List.mem_filter.mp hb
        rw [List.inj_on_of_nodup_map h.nodup hb ha hkey] at hkept
        simpa using hkept
      · intro hgone
        exact List.mem_map_of_mem (List.mem_filter.mpr ⟨ha, by rw [hgone]; rfl⟩)
    rw [Function.comp_apply]
    cases hkeep : keep a with
    | false =>
      rw [eq_comm, decide_eq_false_iff_not, not_not]
      exact hiff.mpr hkeep
    | true =>
      rw [eq_comm, decide_eq_true_iff]
      intro hmem
      rw [hiff.mp hmem] at hkeep
      cases hkeep
  rw [hkeys, ← horder, without, without, List.filter_append]
  exact List.suffix_append _ _

end BoundedLog

end QuadraA.Lib
