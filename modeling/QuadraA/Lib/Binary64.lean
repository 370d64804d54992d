import QuadraA.Lib.JsNumber

/-!
# Numbers in 64 bits

The binary64 format of IEEE 754: a sign, eleven bits of an exponent and 52 bits of a fraction.

* `JsNumber.ofBits`, `JsNumber.toBits` — the number of a word, and a word of a number;
* `ofBits_toBits` — every number of the format comes back from its word.

The two zeros of the format are one number here.
-/

namespace QuadraA.Lib

namespace JsNumber

/-- The size of a finite number: an exponent of zero is one without the leading digit. -/
def fieldsMagnitude (exponent fraction : ℕ) : ℚ :=
  (if exponent = 0 then fraction else 2 ^ 52 + fraction : ℕ)
    * 2 ^ (((max exponent 1 : ℕ) : ℤ) - 1075)

/-- The exponent of all ones is that of what is not finite. -/
def ofFields (negative : Bool) (exponent fraction : ℕ) : JsNumber :=
  if exponent = 2047 then if fraction = 0 then infinity negative else nan
  else
    finite (if negative then -fieldsMagnitude exponent fraction
      else fieldsMagnitude exponent fraction)

/-- **The number of a word.** -/
def ofBits (bits : ℕ) : JsNumber :=
  ofFields (decide (2 ^ 63 ≤ bits)) (bits / 2 ^ 52 % 2 ^ 11) (bits % 2 ^ 52)

/-- The exponent and the digits of a number that is not negative, as one number: the leading digit
counts the exponent up. -/
def magnitudeBits (q : ℚ) : ℕ :=
  if q = 0 then 0
  else (lastDigit q + 1074).toNat * 2 ^ 52 + ⌊q / 2 ^ lastDigit q⌋.toNat

/-- **A word of a number.** -/
def toBits : JsNumber → ℕ
  | nan => 2047 * 2 ^ 52 + 2 ^ 51
  | infinity negative => (if negative then 2 ^ 63 else 0) + 2047 * 2 ^ 52
  | finite q => (if q < 0 then 2 ^ 63 else 0) + magnitudeBits |q|

/-- The size of a number, by its last digit and its digits. -/
theorem fieldsMagnitude_digits {e k : ℕ} (hlead : e = 0 ∨ 2 ^ 52 ≤ k) :
    fieldsMagnitude (if k < 2 ^ 52 then 0 else e + 1) (if k < 2 ^ 52 then k else k - 2 ^ 52)
      = k * 2 ^ ((e : ℤ) - 1074) := by
  rw [fieldsMagnitude]
  by_cases hsmall : k < 2 ^ 52
  · have hzero : e = 0 := by omega
    rw [if_pos hsmall, if_pos hsmall, if_pos rfl, hzero]
    rfl
  · have hsum : 2 ^ 52 + (k - 2 ^ 52) = k := by omega
    have hmax : max (e + 1) 1 = e + 1 := max_eq_left (by omega)
    have hexponent : ((e + 1 : ℕ) : ℤ) - 1075 = (e : ℤ) - 1074 := by omega
    rw [if_neg hsmall, if_neg hsmall, if_neg (Nat.succ_ne_zero e), hsum, hmax, hexponent]

/-- **The number of a word**, by its last digit and its digits. -/
theorem ofBits_digits {e k : ℕ} (he : e ≤ 2045) (hk : k < 2 ^ 53) (hlead : e = 0 ∨ 2 ^ 52 ≤ k)
    (negative : Bool) :
    ofBits ((if negative then 2 ^ 63 else 0) + (e * 2 ^ 52 + k))
      = finite (if negative then -(k * 2 ^ ((e : ℤ) - 1074)) else k * 2 ^ ((e : ℤ) - 1074)) := by
  generalize hbits : (if negative then 2 ^ 63 else 0) + (e * 2 ^ 52 + k) = bits
  have hsign : decide (2 ^ 63 ≤ bits) = negative := by
    cases negative with
    | true => exact decide_eq_true (by rw [if_pos rfl] at hbits; omega)
    | false => exact decide_eq_false (by rw [if_neg Bool.false_ne_true] at hbits; omega)
  have hexponent : bits / 2 ^ 52 % 2 ^ 11 = if k < 2 ^ 52 then 0 else e + 1 := by
    cases negative <;> simp only [if_true, Bool.false_eq_true, if_false] at hbits <;> split <;>
      omega
  have hfraction : bits % 2 ^ 52 = if k < 2 ^ 52 then k else k - 2 ^ 52 := by
    cases negative <;> simp only [if_true, Bool.false_eq_true, if_false] at hbits <;> split <;>
      omega
  have hfinite : (if k < 2 ^ 52 then 0 else e + 1) ≠ 2047 := by
    split <;> omega
  rw [ofBits, hsign, hexponent, hfraction, ofFields, if_neg hfinite, fieldsMagnitude_digits hlead]

/-- The digits that a number is written in. -/
theorem abs_eq_digits {q : ℚ} (h : ofRat q = finite q) :
    |q| < 2 ^ 1024 ∧ ∃ k : ℕ, |q| = k * 2 ^ lastDigit q := by
  have hround : roundDigits q = q ∧ |q| < 2 ^ 1024 := by
    rw [ofRat] at h
    split at h
    · cases h
    · rename_i hsmall
      have hround := finite.inj h
      rw [hround] at hsmall
      exact ⟨hround, not_le.mp hsmall⟩
  refine ⟨hround.2, (roundHalfEven (q / 2 ^ lastDigit q)).natAbs, ?_⟩
  conv_lhs => rw [← hround.1, roundDigits, abs_mul, abs_of_pos (lastDigit_zpow_pos q)]
  rw [Nat.cast_natAbs, Int.cast_abs]

/-- **The digits of a number are in range**: 53 of them, with a leading one unless the last digit is
the least, and the last digit is no higher than that of the largest number. -/
theorem digits_bounds {q : ℚ} {k : ℕ} (h0 : q ≠ 0) (hbound : |q| < 2 ^ 1024)
    (hk : |q| = k * 2 ^ lastDigit q) :
    k < 2 ^ 53 ∧ (lastDigit q = -1074 ∨ 2 ^ 52 ≤ k) ∧ lastDigit q ≤ 971 := by
  have hpos : 0 < |q| := abs_pos.mpr h0
  have hupper : |q| < 2 ^ (Int.log 2 |q| + 1) := Int.lt_zpow_succ_log_self (by decide) |q|
  have hlower : 2 ^ Int.log 2 |q| ≤ |q| := Int.zpow_log_le_self (by decide) hpos
  have hlog : Int.log 2 |q| < 1024 := by
    have hpow : (2 : ℚ) ^ Int.log 2 |q| < 2 ^ (1024 : ℤ) := hlower.trans_lt hbound
    exact (zpow_lt_zpow_iff_right₀ (by norm_num)).mp hpow
  have hdigit := lastDigit_zpow_pos q
  have hle : Int.log 2 |q| + 1 ≤ 53 + lastDigit q := by rw [lastDigit]; omega
  refine ⟨?_, ?_, by rw [lastDigit]; omega⟩
  · have hless : (k : ℚ) * 2 ^ lastDigit q < 2 ^ (53 : ℤ) * 2 ^ lastDigit q := by
      rw [← hk, ← zpow_add₀ (by norm_num)]
      exact hupper.trans_le (zpow_le_zpow_right₀ (by norm_num) hle)
    have hk := lt_of_mul_lt_mul_right hless hdigit.le
    exact_mod_cast hk
  · by_cases hleast : lastDigit q = -1074
    · exact Or.inl hleast
    · right
      have heq : Int.log 2 |q| = 52 + lastDigit q := by rw [lastDigit] at hleast ⊢; omega
      have hmore : (2 : ℚ) ^ (52 : ℤ) * 2 ^ lastDigit q ≤ k * 2 ^ lastDigit q := by
        rw [← hk, ← zpow_add₀ (by norm_num), ← heq]
        exact hlower
      have hk := le_of_mul_le_mul_right hmore hdigit
      exact_mod_cast hk

/-- **A number comes back** from its word, which has 64 bits. -/
theorem ofBits_toBits {q : ℚ} (h : ofRat q = finite q) :
    ofBits (toBits (finite q)) = finite q ∧ toBits (finite q) < 2 ^ 64 := by
  obtain ⟨hbound, k, hk⟩ := abs_eq_digits h
  by_cases h0 : q = 0
  · rw [h0]
    decide +kernel
  · obtain ⟨hdigits, hlead, hlast⟩ := digits_bounds h0 hbound hk
    have hleast : -1074 ≤ lastDigit q := le_max_right _ _
    obtain ⟨e, he⟩ : ∃ e : ℕ, lastDigit q = (e : ℤ) - 1074 :=
      ⟨(lastDigit q + 1074).toNat, by omega⟩
    have hword : toBits (finite q)
        = (if decide (q < 0) then 2 ^ 63 else 0) + (e * 2 ^ 52 + k) := by
      have habs : lastDigit |q| = lastDigit q := by rw [lastDigit, lastDigit, abs_abs]
      have hfloor : |q| / 2 ^ lastDigit q = k := by
        rw [hk, mul_div_cancel_right₀ _ (lastDigit_zpow_pos q).ne']
      rw [toBits, magnitudeBits, if_neg (abs_ne_zero.mpr h0), habs, hfloor, Int.floor_natCast,
        Int.toNat_natCast, he, sub_add_cancel, Int.toNat_natCast]
      simp only [decide_eq_true_eq]
    rw [hword]
    constructor
    · rw [ofBits_digits (by omega) hdigits (by omega), ← he, ← hk]
      by_cases hneg : q < 0
      · rw [if_pos (decide_eq_true hneg), abs_of_neg hneg, neg_neg]
      · rw [if_neg (by rw [decide_eq_true_eq]; exact hneg), abs_of_nonneg (not_lt.mp hneg)]
    · split <;> omega

end JsNumber

end QuadraA.Lib
