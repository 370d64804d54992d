import Mathlib.Data.List.Basic

/-!
# Base64

Bytes as digits of six bits, three bytes in four digits, in the standard alphabet with padding or in
the one for URLs without.

* `toDigits`, `fromDigits` — bytes and digits, with `fromDigits_toDigits`;
* `decodeBase64_encodeBase64`, `decodeBase64_encodeBase64Url` — what is encoded is decoded.
-/

namespace QuadraA.Lib

/-! ### Digits -/

def toDigits : List ℕ → List ℕ
  | a :: b :: c :: rest => a / 4 :: (a % 4 * 16 + b / 16) :: (b % 16 * 4 + c / 64) :: c % 64 ::
      toDigits rest
  | [a, b] => [a / 4, a % 4 * 16 + b / 16, b % 16 * 4]
  | [a] => [a / 4, a % 4 * 16]
  | [] => []

def fromDigits : List ℕ → List ℕ
  | p :: q :: r :: s :: rest => (p * 4 + q / 16) :: (q % 16 * 16 + r / 4) :: (r % 4 * 64 + s) ::
      fromDigits rest
  | [p, q, r] => [p * 4 + q / 16, q % 16 * 16 + r / 4]
  | [p, q] => [p * 4 + q / 16]
  | _ => []

variable {bytes : List ℕ}

theorem toDigits_lt (h : ∀ b ∈ bytes, b < 256) : ∀ digit ∈ toDigits bytes, digit < 64 := by
  induction bytes using toDigits.induct with
  | case1 a b c rest ih =>
    have ha := h a (by simp)
    have hb := h b (by simp)
    have hc := h c (by simp)
    intro digit hdigit
    simp only [toDigits, List.mem_cons] at hdigit
    rcases hdigit with rfl | rfl | rfl | rfl | hdigit
    · omega
    · omega
    · omega
    · omega
    · exact ih (fun x hx => h x (by simp [hx])) digit hdigit
  | case2 a b =>
    have ha := h a (by simp)
    have hb := h b (by simp)
    intro digit hdigit
    simp only [toDigits, List.mem_cons, List.not_mem_nil, or_false] at hdigit
    omega
  | case3 a =>
    have ha := h a (by simp)
    intro digit hdigit
    simp only [toDigits, List.mem_cons, List.not_mem_nil, or_false] at hdigit
    omega
  | case4 => exact nofun

/-- **The digits of bytes** are those bytes. -/
theorem fromDigits_toDigits (h : ∀ b ∈ bytes, b < 256) : fromDigits (toDigits bytes) = bytes := by
  induction bytes using toDigits.induct with
  | case1 a b c rest ih =>
    have ha := h a (by simp)
    have hb := h b (by simp)
    have hc := h c (by simp)
    rw [toDigits, fromDigits, ih fun x hx => h x (by simp [hx])]
    simp only [List.cons.injEq, and_true]
    omega
  | case2 a b =>
    have ha := h a (by simp)
    have hb := h b (by simp)
    simp only [toDigits, fromDigits, List.cons.injEq, and_true]
    omega
  | case3 a =>
    have ha := h a (by simp)
    simp only [toDigits, fromDigits, List.cons.injEq, and_true]
    omega
  | case4 => rfl

/-! ### Texts -/

/-- The digit in an alphabet, whose last two letters differ. -/
def digitChar (c62 c63 : Char) (digit : ℕ) : Char :=
  if digit < 26 then Char.ofNat (65 + digit)
  else if digit < 52 then Char.ofNat (97 + (digit - 26))
  else if digit < 62 then Char.ofNat (48 + (digit - 52))
  else if digit = 62 then c62
  else c63

/-- The digit of a letter of either alphabet. -/
def charDigit? (c : Char) : Option ℕ :=
  if 'A' ≤ c ∧ c ≤ 'Z' then some (c.toNat - 65)
  else if 'a' ≤ c ∧ c ≤ 'z' then some (c.toNat - 97 + 26)
  else if '0' ≤ c ∧ c ≤ '9' then some (c.toNat - 48 + 52)
  else if c = '+' ∨ c = '-' then some 62
  else if c = '/' ∨ c = '_' then some 63
  else none

/-- What fills the last four letters. -/
def padding (digits : List ℕ) : List Char :=
  if digits.length % 4 = 2 then ['=', '='] else if digits.length % 4 = 3 then ['='] else []

def encodeBase64 (bytes : List ℕ) : List Char :=
  (toDigits bytes).map (digitChar '+' '/') ++ padding (toDigits bytes)

def encodeBase64Url (bytes : List ℕ) : List Char := (toDigits bytes).map (digitChar '-' '_')

def decodeBase64 (text : List Char) : List ℕ := fromDigits (text.filterMap charDigit?)

theorem charDigit?_digitChar : ∀ digit < 64, charDigit? (digitChar '+' '/' digit) = some digit ∧
    charDigit? (digitChar '-' '_' digit) = some digit := by
  decide

theorem filterMap_padding (digits : List ℕ) : (padding digits).filterMap charDigit? = [] := by
  rw [padding]
  split
  · decide
  · split
    · decide
    · rfl

/-- The letters of digits have these digits. -/
theorem filterMap_map_digitChar {digits : List ℕ} {letter : ℕ → Char}
    (hletter : ∀ digit < 64, charDigit? (letter digit) = some digit)
    (h : ∀ digit ∈ digits, digit < 64) : (digits.map letter).filterMap charDigit? = digits := by
  induction digits with
  | nil => rfl
  | cons digit digits ih =>
    rw [List.map_cons, List.filterMap_cons_some (hletter digit (h digit List.mem_cons_self)),
      ih fun other hother => h other (List.mem_cons_of_mem _ hother)]

/-- **What is encoded is decoded.** -/
theorem decodeBase64_encodeBase64 (h : ∀ b ∈ bytes, b < 256) :
    decodeBase64 (encodeBase64 bytes) = bytes := by
  rw [decodeBase64, encodeBase64, List.filterMap_append, filterMap_padding, List.append_nil,
    filterMap_map_digitChar (fun digit hdigit => (charDigit?_digitChar digit hdigit).1)
      (toDigits_lt h), fromDigits_toDigits h]

theorem decodeBase64_encodeBase64Url (h : ∀ b ∈ bytes, b < 256) :
    decodeBase64 (encodeBase64Url bytes) = bytes := by
  rw [decodeBase64, encodeBase64Url,
    filterMap_map_digitChar (fun digit hdigit => (charDigit?_digitChar digit hdigit).2)
      (toDigits_lt h), fromDigits_toDigits h]

/-- Only no bytes make no text. -/
theorem encodeBase64_eq_nil (h : encodeBase64 bytes = []) : bytes = [] := by
  rw [encodeBase64, List.append_eq_nil_iff, List.map_eq_nil_iff] at h
  cases bytes with
  | nil => rfl
  | cons a rest =>
    have hdigits := h.1
    cases rest with
    | nil => cases hdigits
    | cons b rest => cases rest <;> cases hdigits

theorem encodeBase64Url_eq_nil (h : encodeBase64Url bytes = []) : bytes = [] := by
  rw [encodeBase64Url, List.map_eq_nil_iff] at h
  cases bytes with
  | nil => rfl
  | cons a rest =>
    cases rest with
    | nil => cases h
    | cons b rest => cases rest <;> cases h

end QuadraA.Lib
