import Mathlib.Algebra.BigOperators.Ring.List
import Mathlib.Algebra.Order.BigOperators.Group.List
import Mathlib.Algebra.Order.Field.Basic

/-!
# Weighted means

The mean of values with weights, over any ordered field.

* `weightedMean` — the mean of pairs of a value and a weight, zero where there is no weight;
* `weightedMean_nonneg`, `weightedMean_le` — the mean stays where the values are.
-/

namespace QuadraA.Lib

universe u v

section

variable {K : Type u} [Field K]

/-- The sum of the values, each as often as it weighs. -/
def weightedSum (terms : List (K × K)) : K := (terms.map fun t => t.1 * t.2).sum

def totalWeight (terms : List (K × K)) : K := (terms.map Prod.snd).sum

/-- **A loop that adds up both sums** over what it does not skip. -/
theorem foldl_weighted {α : Type v} (skip : α → Bool) (value weight : α → K) (l : List α)
    (sums : K × K) :
    l.foldl (fun sums a =>
        if skip a then sums else (sums.1 + value a * weight a, sums.2 + weight a)) sums =
      (sums.1 + weightedSum ((l.filter fun a => !skip a).map fun a => (value a, weight a)),
        sums.2 + totalWeight ((l.filter fun a => !skip a).map fun a => (value a, weight a))) := by
  induction l generalizing sums with
  | nil => simp [weightedSum, totalWeight]
  | cons a l ih =>
    rw [List.foldl_cons, ih]
    cases hskip : skip a with
    | true => simp [hskip]
    | false => simp [hskip, weightedSum, totalWeight, add_assoc]

end

section

variable {K : Type u} [Field K] [LinearOrder K]

def meanOf (sums : K × K) : K := if 0 < sums.2 then sums.1 / sums.2 else 0

/-- **The mean of values with weights**. -/
def weightedMean (terms : List (K × K)) : K := meanOf (weightedSum terms, totalWeight terms)

variable [IsStrictOrderedRing K] {terms : List (K × K)}

/-- **The mean of values that are not negative** is not. -/
theorem weightedMean_nonneg (h : ∀ t ∈ terms, 0 ≤ t.1 ∧ 0 ≤ t.2) : 0 ≤ weightedMean terms := by
  rw [weightedMean, meanOf]
  split_ifs with hpos
  · refine div_nonneg (List.sum_nonneg fun x hx => ?_) hpos.le
    obtain ⟨t, ht, rfl⟩ := List.mem_map.mp hx
    exact mul_nonneg (h t ht).1 (h t ht).2
  · exact le_rfl

/-- **The mean of values below a bound** is below it. -/
theorem weightedMean_le {b : K} (hb : 0 ≤ b) (h : ∀ t ∈ terms, t.1 ≤ b ∧ 0 ≤ t.2) :
    weightedMean terms ≤ b := by
  rw [weightedMean, meanOf]
  split_ifs with hpos
  · rw [div_le_iff₀ hpos, weightedSum, totalWeight, ← List.sum_map_mul_left]
    exact List.sum_le_sum fun t ht => mul_le_mul_of_nonneg_right (h t ht).1 (h t ht).2
  · exact hb

end

end QuadraA.Lib
