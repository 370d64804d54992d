import Mathlib.Data.Int.Log
import Mathlib.Data.Rat.Floor

/-!
# Numbers with 53 binary digits

The numbers of JavaScript: rationals that are rounded to 53 binary digits after each operation, the
two infinities, and `NaN`.

* `roundHalfEven` — the nearest integer, and the even one of two, with `roundHalfEven_le`;
* `add_between`, `divCount_between` — a mean of parts of one is between zero and one.

Zero has no sign here: the two zeros of the language compare as equal, and no operation of this file
tells them apart.
-/

namespace QuadraA.Lib

/-! ### Rounding to an integer -/

/-- The nearest integer; of two that are equally near, the even one. -/
def roundHalfEven (x : ℚ) : ℤ :=
  if Int.fract x < 1 / 2 then ⌊x⌋
  else if 1 / 2 < Int.fract x then ⌊x⌋ + 1
  else if ⌊x⌋ % 2 = 0 then ⌊x⌋ else ⌊x⌋ + 1

/-- The nearest integer is the floor or the next one, and the floor of an integer. -/
theorem roundHalfEven_cases (x : ℚ) :
    roundHalfEven x = ⌊x⌋ ∨ roundHalfEven x = ⌊x⌋ + 1 ∧ 1 / 2 ≤ Int.fract x := by
  rw [roundHalfEven]
  split
  · exact Or.inl rfl
  · rename_i hfract
    split
    · exact Or.inr ⟨rfl, not_lt.mp hfract⟩
    · split
      · exact Or.inl rfl
      · exact Or.inr ⟨rfl, not_lt.mp hfract⟩

variable {x : ℚ} {n : ℤ}

theorem roundHalfEven_nonneg (h : 0 ≤ x) : 0 ≤ roundHalfEven x := by
  have hfloor := Int.floor_nonneg.mpr h
  rcases roundHalfEven_cases x with hround | ⟨hround, _⟩ <;> omega

/-- **No integer is passed.** -/
theorem roundHalfEven_le (h : x ≤ n) : roundHalfEven x ≤ n := by
  have hfloor : ⌊x⌋ ≤ n := Int.cast_le.mp ((Int.floor_le x).trans h)
  rcases roundHalfEven_cases x with hround | ⟨hround, hfract⟩
  · omega
  · have hne : ⌊x⌋ ≠ n := by
      intro heq
      have hsub := Int.floor_add_fract x
      rw [heq] at hsub
      linarith
    omega

theorem roundHalfEven_int (n : ℤ) : roundHalfEven n = n := by
  rw [roundHalfEven, Int.fract_intCast, if_pos (by norm_num), Int.floor_intCast]

/-- Half of a unit above an even integer goes back to it. -/
theorem roundHalfEven_le_of_even (heven : n % 2 = 0) (h : x ≤ n + 1 / 2) : roundHalfEven x ≤ n := by
  by_cases hle : x ≤ n
  · exact roundHalfEven_le hle
  · have hfloor : ⌊x⌋ = n := by
      refine Int.floor_eq_iff.mpr ⟨le_of_not_ge hle, ?_⟩
      linarith
    have hfract : Int.fract x ≤ 1 / 2 := by
      have hsub := Int.floor_add_fract x
      rw [hfloor] at hsub
      linarith
    by_cases hlt : Int.fract x < 1 / 2
    · rw [roundHalfEven, if_pos hlt, hfloor]
    · rw [roundHalfEven, if_neg hlt, if_neg (not_lt.mpr hfract), hfloor, if_pos heven]

/-! ### Numbers -/

inductive JsNumber where
  | nan
  | infinity (negative : Bool)
  | finite (q : ℚ)
deriving DecidableEq

namespace JsNumber

/-- The exponent of the last digit: 53 digits, but none below `2 ^ (-1074)`. -/
def lastDigit (q : ℚ) : ℤ := max (Int.log 2 |q| - 52) (-1074)

/-- The rational with the digits that are kept. -/
def roundDigits (q : ℚ) : ℚ := roundHalfEven (q / 2 ^ lastDigit q) * 2 ^ lastDigit q

/-- **The number nearest to a rational.** -/
def ofRat (q : ℚ) : JsNumber :=
  if 2 ^ 1024 ≤ |roundDigits q| then infinity (decide (roundDigits q < 0))
  else finite (roundDigits q)

def neg : JsNumber → JsNumber
  | nan => nan
  | infinity negative => infinity !negative
  | finite q => finite (-q)

def add : JsNumber → JsNumber → JsNumber
  | nan, _ | _, nan => nan
  | infinity left, infinity right => if left = right then infinity left else nan
  | infinity negative, finite _ | finite _, infinity negative => infinity negative
  | finite left, finite right => ofRat (left + right)

def sub (x y : JsNumber) : JsNumber := x.add y.neg

/-- A number divided by a count. -/
def divCount (x : JsNumber) (n : ℕ) : JsNumber :=
  match x with
  | nan => nan
  | infinity negative => infinity negative
  | finite q => ofRat (q / n)

/-- `<`; nothing is less or greater than `NaN`. -/
def lt : JsNumber → JsNumber → Bool
  | nan, _ | _, nan => false
  | infinity left, infinity right => left && !right
  | infinity negative, finite _ => negative
  | finite _, infinity negative => !negative
  | finite left, finite right => decide (left < right)

/-- `<=`. -/
def le (x y : JsNumber) : Bool := x.lt y || (decide (x = y) && decide (x ≠ nan))

theorem nan_sub (x : JsNumber) : nan.sub x = nan := by
  cases x <;> rfl

/-- **Two numbers are in order**, unless one is `NaN`. -/
theorem le_of_not_lt {x y : JsNumber} (hx : x ≠ nan) (hy : y ≠ nan) (h : y.lt x = false) :
    x.le y = true := by
  rw [le]
  cases x with
  | nan => exact absurd rfl hx
  | infinity left =>
    cases y with
    | nan => exact absurd rfl hy
    | infinity right =>
      revert h
      cases left <;> cases right <;> simp [lt]
    | finite q =>
      revert h
      cases left <;> simp [lt]
  | finite p =>
    cases y with
    | nan => exact absurd rfl hy
    | infinity right =>
      revert h
      cases right <;> simp [lt]
    | finite q =>
      have hle : p ≤ q := by simpa [lt] using h
      rcases lt_or_eq_of_le hle with hlt | heq
      · simp [lt, hlt]
      · simp [heq]

/-! ### Sums of numbers up to an integer -/

theorem lastDigit_zpow_pos (q : ℚ) : (0 : ℚ) < 2 ^ lastDigit q := zpow_pos (by norm_num) _

variable {q s : ℚ}

/-- A number with a positive last digit has more than 53 digits. -/
theorem two_pow_le_of_lastDigit (hpos : 0 < q) (h : 0 < lastDigit q) :
    (2 : ℚ) ^ (52 + lastDigit q) ≤ q := by
  have hlog : lastDigit q = Int.log 2 q - 52 := by
    rw [lastDigit, abs_of_pos hpos] at h ⊢
    exact max_eq_left (by omega)
  have hle := Int.zpow_log_le_self (b := 2) (by norm_num) hpos
  rw [hlog]
  have hexp : 52 + (Int.log 2 q - 52) = Int.log 2 q := by omega
  rw [hexp]
  exact_mod_cast hle

theorem roundDigits_nonneg (h : 0 ≤ q) : 0 ≤ roundDigits q := by
  have hround := roundHalfEven_nonneg (div_nonneg h (lastDigit_zpow_pos q).le)
  exact mul_nonneg (by exact_mod_cast hround) (lastDigit_zpow_pos q).le

/-- Rounding does not pass a multiple of the last digit. -/
theorem roundDigits_le {n : ℤ} (h : q ≤ n * 2 ^ lastDigit q) :
    roundDigits q ≤ n * 2 ^ lastDigit q := by
  have hpos := lastDigit_zpow_pos q
  have hdiv : q / 2 ^ lastDigit q ≤ n := (div_le_iff₀ hpos).mpr h
  exact mul_le_mul_of_nonneg_right (by exact_mod_cast roundHalfEven_le hdiv) hpos.le

/-- An integer is a multiple of a last digit that is no more than one. -/
theorem exists_multiple {e : ℤ} (he : e ≤ 0) (m : ℤ) : ∃ n : ℤ, (m : ℚ) = n * 2 ^ e := by
  refine ⟨m * 2 ^ (-e).toNat, ?_⟩
  have hpow : ((2 : ℚ) ^ (-e).toNat) * 2 ^ e = 1 := by
    rw [← zpow_natCast, Int.toNat_of_nonneg (by omega), ← zpow_add₀ (by norm_num)]
    norm_num
  push_cast
  rw [mul_assoc, hpow, mul_one]

/-- **Rounding does not pass an integer** below `2 ^ 53`. -/
theorem roundDigits_le_nat {m : ℕ} (h0 : 0 ≤ q) (h : q ≤ m) (hm : m < 2 ^ 53) :
    roundDigits q ≤ m := by
  by_cases he : lastDigit q ≤ 0
  · obtain ⟨n, hn⟩ := exists_multiple he m
    rw [Int.cast_natCast] at hn
    rw [hn] at h ⊢
    exact roundDigits_le h
  · rcases lt_or_eq_of_le h0 with hpos | rfl
    · exfalso
      have hbig := two_pow_le_of_lastDigit hpos (not_le.mp he)
      have hexp : (2 : ℚ) ^ (53 : ℤ) ≤ 2 ^ (52 + lastDigit q) :=
        zpow_le_zpow_right₀ (by norm_num) (by omega)
      have hm' : (m : ℚ) < 2 ^ (53 : ℤ) := by exact_mod_cast hm
      linarith
    · rw [roundDigits]
      simp [roundHalfEven]

/-- **One more than `2 ^ 53`** goes back to it. -/
theorem roundDigits_le_two_pow (h0 : 0 ≤ q) (h : q ≤ 2 ^ 53 + 1) : roundDigits q ≤ 2 ^ 53 := by
  rcases lt_or_eq_of_le h0 with hpos | rfl
  · by_cases he : lastDigit q ≤ 0
    · have hlog : Int.log 2 q + 1 ≤ 53 := by
        rw [lastDigit, abs_of_pos hpos, max_le_iff] at he
        omega
      have hlt : q < (2 : ℚ) ^ (Int.log 2 q + 1) := by
        exact_mod_cast Int.lt_zpow_succ_log_self (b := 2) (by norm_num) q
      have hexp : (2 : ℚ) ^ (Int.log 2 q + 1) ≤ 2 ^ (53 : ℤ) :=
        zpow_le_zpow_right₀ (by norm_num) hlog
      have hle : q ≤ 2 ^ 53 := (hlt.trans_le hexp).le
      obtain ⟨n, hn⟩ := exists_multiple he (2 ^ 53)
      rw [Int.cast_pow, Int.cast_ofNat] at hn
      rw [hn] at hle ⊢
      exact roundDigits_le hle
    · -- the last digit is that of the twos, and half of `2 ^ 53` is even
      have hbig := two_pow_le_of_lastDigit hpos (not_le.mp he)
      have hone : lastDigit q = 1 := by
        by_contra hne
        have hexp : (2 : ℚ) ^ (54 : ℤ) ≤ 2 ^ (52 + lastDigit q) :=
          zpow_le_zpow_right₀ (by norm_num) (by omega)
        have hfour : (2 : ℚ) ^ (54 : ℤ) = 2 * 2 ^ 53 := by norm_num
        have hone' : (1 : ℚ) < 2 ^ 53 := by norm_num
        linarith
      have hround : roundHalfEven (q / 2 ^ lastDigit q) ≤ 2 ^ 52 := by
        refine roundHalfEven_le_of_even (by norm_num) ?_
        rw [hone]
        push_cast
        have hdiv : q / 2 ≤ (2 ^ 53 + 1) / 2 := by linarith
        calc q / 2 ^ (1 : ℤ) = q / 2 := by norm_num
          _ ≤ (2 ^ 53 + 1) / 2 := hdiv
          _ = 2 ^ 52 + 1 / 2 := by norm_num
      have hcast : ((roundHalfEven (q / 2 ^ lastDigit q) : ℤ) : ℚ) ≤ 2 ^ 52 := by
        exact_mod_cast hround
      rw [roundDigits]
      rw [hone] at hcast ⊢
      calc (roundHalfEven (q / 2 ^ (1 : ℤ)) : ℚ) * 2 ^ (1 : ℤ) ≤ 2 ^ 52 * 2 ^ (1 : ℤ) :=
            mul_le_mul_of_nonneg_right hcast (by norm_num)
        _ = 2 ^ 53 := by norm_num
  · rw [roundDigits]
    simp [roundHalfEven]

theorem ofRat_of_le (h0 : 0 ≤ roundDigits q) (h : roundDigits q ≤ 2 ^ 53) :
    ofRat q = finite (roundDigits q) := by
  have hlt : ¬(2 : ℚ) ^ 1024 ≤ |roundDigits q| := by
    rw [abs_of_nonneg h0, not_le]
    have hpow : (2 : ℚ) ^ 53 < 2 ^ 1024 := pow_lt_pow_right₀ (by norm_num) (by norm_num)
    exact h.trans_lt hpow
  rw [ofRat, if_neg hlt]

/-- **An integer of 53 digits** is a number. -/
theorem ofRat_int {m : ℤ} (h : |m| < 2 ^ 53) : ofRat m = finite m := by
  have hlast : lastDigit (m : ℚ) ≤ 0 := by
    have hcast : |(m : ℚ)| < 2 ^ (53 : ℤ) := by exact_mod_cast h
    rw [lastDigit, max_le_iff]
    refine ⟨?_, by norm_num⟩
    rcases eq_or_ne m 0 with rfl | hne
    · norm_num
    · have hpos : 0 < |(m : ℚ)| := abs_pos.mpr (Int.cast_ne_zero.mpr hne)
      have hlog := (Int.lt_zpow_iff_log_lt (b := 2) (by norm_num) hpos).mp hcast
      omega
  have hround : roundDigits (m : ℚ) = m := by
    obtain ⟨n, hn⟩ := exists_multiple hlast m
    have hne : (2 : ℚ) ^ lastDigit (m : ℚ) ≠ 0 := (lastDigit_zpow_pos _).ne'
    have hdiv : (m : ℚ) / 2 ^ lastDigit (m : ℚ) = n := (div_eq_iff hne).mpr hn
    rw [roundDigits, hdiv, roundHalfEven_int, ← hn]
  have hsmall : ¬(2 : ℚ) ^ 1024 ≤ |roundDigits m| := by
    rw [hround, not_le]
    have hcast : |(m : ℚ)| < 2 ^ 53 := by exact_mod_cast h
    exact hcast.trans (pow_lt_pow_right₀ (by norm_num) (by norm_num))
  rw [ofRat, if_neg hsmall, hround]

/-! ### Signs -/

theorem roundHalfEven_neg (x : ℚ) : roundHalfEven (-x) = -roundHalfEven x := by
  by_cases hfract : Int.fract x = 0
  · -- an integer
    obtain ⟨n, rfl⟩ := Int.fract_eq_zero_iff.mp hfract
    have hneg : -(n : ℚ) = ((-n : ℤ) : ℚ) := by push_cast; rfl
    rw [hneg, roundHalfEven_int, roundHalfEven_int]
  · have hfract' : Int.fract (-x) = 1 - Int.fract x := Int.fract_neg hfract
    have hfloor : ⌊-x⌋ = -⌊x⌋ - 1 := by
      have hx := Int.floor_add_fract x
      have hx' := Int.floor_add_fract (-x)
      have hcast : ((⌊-x⌋ : ℤ) : ℚ) = ((-⌊x⌋ - 1 : ℤ) : ℚ) := by
        push_cast
        linarith
      exact_mod_cast hcast
    rcases lt_trichotomy (Int.fract x) (1 / 2) with hlt | heq | hgt
    · have hlt' : ¬Int.fract (-x) < 1 / 2 := by linarith
      have hgt' : 1 / 2 < Int.fract (-x) := by linarith
      rw [roundHalfEven, if_neg hlt', if_pos hgt', roundHalfEven, if_pos hlt, hfloor]
      omega
    · -- between two integers, of which one is even
      have heq' : Int.fract (-x) = 1 / 2 := by linarith
      rw [roundHalfEven, roundHalfEven, heq, heq', if_neg (lt_irrefl _), if_neg (lt_irrefl _),
        if_neg (lt_irrefl _), if_neg (lt_irrefl _), hfloor]
      split <;> split <;> omega
    · have hlt' : Int.fract (-x) < 1 / 2 := by linarith
      have hgt' : ¬Int.fract x < 1 / 2 := by linarith
      rw [roundHalfEven, if_pos hlt', roundHalfEven, if_neg hgt', if_pos hgt, hfloor]
      omega

/-- **The number nearest to the negative** is the negative one. -/
theorem ofRat_neg {r : ℚ} (h : ofRat q = finite r) : ofRat (-q) = finite (-r) := by
  have hlast : lastDigit (-q) = lastDigit q := by rw [lastDigit, lastDigit, abs_neg]
  have hround : roundDigits (-q) = -roundDigits q := by
    rw [roundDigits, roundDigits, hlast, neg_div, roundHalfEven_neg]
    push_cast
    rw [neg_mul]
  rw [ofRat] at h ⊢
  rw [hround, abs_neg]
  split at h
  · cases h
  · rename_i hsmall
    rw [if_neg hsmall, ← finite.inj h]

/-- A number has finitely many digits before and behind its point. -/
theorem exists_digits (h0 : 0 < q) (h : ofRat q = finite q) :
    ∃ s j : ℕ, 0 < s ∧ q = s * 10 ^ (-(j : ℤ)) := by
  have hround : roundDigits q = q := by
    rw [ofRat] at h
    split at h
    · cases h
    · exact finite.inj h
  have hmantissa : 0 ≤ roundHalfEven (q / 2 ^ lastDigit q) :=
    roundHalfEven_nonneg (div_nonneg h0.le (lastDigit_zpow_pos q).le)
  obtain ⟨m, hm⟩ := Int.eq_ofNat_of_zero_le hmantissa
  have hq : q = m * 2 ^ lastDigit q := by
    conv_lhs => rw [← hround, roundDigits, hm]
    rw [Int.cast_natCast]
  have hpos : 0 < m := by
    rcases Nat.eq_zero_or_pos m with rfl | hpos
    · rw [Nat.cast_zero, zero_mul] at hq
      exact absurd hq h0.ne'
    · exact hpos
  generalize lastDigit q = e at hq
  rcases Int.eq_nat_or_neg e with ⟨j, rfl | rfl⟩
  · refine ⟨m * 2 ^ j, 0, Nat.mul_pos hpos (Nat.two_pow_pos j), ?_⟩
    rw [hq]
    push_cast
    rw [zpow_natCast, mul_one]
  · refine ⟨m * 5 ^ j, j, Nat.mul_pos hpos (Nat.pow_pos (by decide)), ?_⟩
    rw [hq, zpow_neg, zpow_neg, zpow_natCast, zpow_natCast]
    push_cast
    have hten : (10 : ℚ) ^ j = 2 ^ j * 5 ^ j := by rw [← mul_pow]; norm_num
    rw [hten]
    field_simp

/-- **A sum of parts of one** is no more than their number, and never passes `2 ^ 53`. -/
theorem add_between {x : ℚ} {k : ℕ} (hs0 : 0 ≤ s) (hs : s ≤ k) (hs' : s ≤ 2 ^ 53) (hx0 : 0 ≤ x)
    (hx : x ≤ 1) : ∃ r, (finite s).add (finite x) = finite r ∧ 0 ≤ r ∧ r ≤ (k + 1 : ℕ) ∧
      r ≤ 2 ^ 53 := by
  have h0 : 0 ≤ s + x := add_nonneg hs0 hx0
  have hnonneg := roundDigits_nonneg h0
  have htop : roundDigits (s + x) ≤ 2 ^ 53 := roundDigits_le_two_pow h0 (by linarith)
  refine ⟨roundDigits (s + x), ofRat_of_le hnonneg htop, hnonneg, ?_, htop⟩
  by_cases hk : k + 1 < 2 ^ 53
  · refine roundDigits_le_nat h0 ?_ hk
    push_cast
    linarith
  · have hk' : (2 : ℚ) ^ 53 ≤ (k + 1 : ℕ) := by exact_mod_cast not_lt.mp hk
    exact htop.trans hk'

/-- **A share** of a count that is no more than the count is between zero and one. -/
theorem divCount_between {n : ℕ} (hs0 : 0 ≤ s) (hs : s ≤ n) :
    ∃ r, (finite s).divCount n = finite r ∧ 0 ≤ r ∧ r ≤ 1 := by
  have h0 : 0 ≤ s / n := div_nonneg hs0 (Nat.cast_nonneg n)
  have h1 : s / n ≤ (1 : ℕ) := by
    push_cast
    exact div_le_one_of_le₀ hs (Nat.cast_nonneg n)
  have hnonneg := roundDigits_nonneg h0
  have hround := roundDigits_le_nat h0 h1 (by norm_num)
  push_cast at hround
  exact ⟨roundDigits (s / n), ofRat_of_le hnonneg (hround.trans (by norm_num)), hnonneg, hround⟩

end JsNumber

end QuadraA.Lib
