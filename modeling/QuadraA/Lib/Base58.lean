import Mathlib.Data.Nat.Digits.Lemmas

/-!
# Base58

Bytes as digits of base 58: the number that the bytes are, most significant byte first, behind one
zero digit for each leading zero byte.

* `recode` — digits of one base as digits of another, with `recode_recode`;
* `decodeBase58_encodeBase58`, `encodeBase58_decodeBase58` — the texts and the bytes are in
  bijection.
-/

namespace QuadraA.Lib

/-! ### Digits of two bases -/

/-- **Digits of another base**; leading zeros stay. -/
def recode (base base' : ℕ) : List ℕ → List ℕ
  | 0 :: digits => 0 :: recode base base' digits
  | digits => (Nat.digits base' (Nat.ofDigits base digits.reverse)).reverse

variable {base base' : ℕ} {digits : List ℕ}

theorem recode_of_head (h : digits.head? ≠ some 0) :
    recode base base' digits
      = (Nat.digits base' (Nat.ofDigits base digits.reverse)).reverse := by
  cases digits with
  | nil => rfl
  | cons digit digits =>
    cases digit with
    | zero => exact absurd rfl h
    | succ digit => rfl

/-- The digits of a number have no leading zero. -/
theorem head?_digits_reverse_ne (base n : ℕ) : (Nat.digits base n).reverse.head? ≠ some 0 := by
  rw [List.head?_reverse]
  intro hlast
  by_cases hn : n = 0
  · rw [hn, Nat.digits_zero] at hlast
    cases hlast
  · have hne : Nat.digits base n ≠ [] := Nat.digits_ne_nil_iff_ne_zero.mpr hn
    rw [List.getLast?_eq_some_getLast hne] at hlast
    exact Nat.getLast_digit_ne_zero base hn (Option.some.inj hlast)

/-- **There and back**: the digits are those that they were. -/
theorem recode_recode (hbase : 1 < base) (hdigits : ∀ digit ∈ digits, digit < base) :
    recode base' base (recode base base' digits) = digits := by
  -- by induction over the leading zeros
  induction digits using recode.induct with
  | case1 digits ih =>
    rw [recode, recode, ih fun digit hdigit => hdigits digit (List.mem_cons_of_mem _ hdigit)]
  | case2 digits hhead =>
    have hhead' : digits.head? ≠ some 0 := by
      intro hzero
      obtain ⟨rest, rfl⟩ := List.head?_eq_some_iff.mp hzero
      exact hhead rest rfl
    rw [recode_of_head hhead', recode_of_head (head?_digits_reverse_ne _ _), List.reverse_reverse,
      Nat.ofDigits_digits, Nat.digits_ofDigits base hbase _ ?_ ?_, List.reverse_reverse]
    · intro digit hdigit
      exact hdigits digit (List.mem_reverse.mp hdigit)
    · intro hne hlast
      refine hhead' ?_
      rw [← List.getLast?_reverse, List.getLast?_eq_some_getLast hne, hlast]

theorem recode_lt (hbase' : 1 < base') (digits : List ℕ) :
    ∀ digit ∈ recode base base' digits, digit < base' := by
  induction digits using recode.induct with
  | case1 digits ih =>
    intro digit hdigit
    rw [recode] at hdigit
    rcases List.mem_cons.mp hdigit with rfl | hdigit
    · omega
    · exact ih digit hdigit
  | case2 digits hhead =>
    intro digit hdigit
    rw [recode.eq_2 _ _ _ hhead] at hdigit
    exact Nat.digits_lt_base hbase' (List.mem_reverse.mp hdigit)

/-! ### Texts -/

def base58Alphabet : List Char := "123456789ABCDEFGHJKLMNPQRSTUVWXYZabcdefghijkmnopqrstuvwxyz".toList

def base58Char (digit : ℕ) : Char := base58Alphabet.getD digit '1'

def base58Digit? (c : Char) : Option ℕ := base58Alphabet.idxOf? c

theorem base58Digit?_base58Char : ∀ digit < 58, base58Digit? (base58Char digit) = some digit := by
  decide +kernel

theorem base58Char_of_digit? {c : Char} {digit : ℕ} (h : base58Digit? c = some digit) :
    base58Char digit = c ∧ digit < 58 := by
  obtain ⟨hlt, heq, -⟩ := List.findIdx?_eq_some_iff_getElem.mp h
  rw [base58Char, List.getD_eq_getElem?_getD, List.getElem?_eq_getElem hlt, Option.getD_some]
  exact ⟨by simpa using heq, hlt⟩

def encodeBase58 (bytes : List UInt8) : String :=
  String.ofList ((recode 256 58 (bytes.map UInt8.toNat)).map base58Char)

/-- The bytes of a text; `none` for a letter that is not in the alphabet. -/
def decodeBase58 (text : String) : Option (List UInt8) :=
  (text.toList.mapM base58Digit?).map fun digits => (recode 58 256 digits).map UInt8.ofNat

theorem mapM_base58Digit? (h : ∀ digit ∈ digits, digit < 58) :
    (digits.map base58Char).mapM base58Digit? = some digits := by
  induction digits with
  | nil => rfl
  | cons digit digits ih =>
    rw [List.map_cons, List.mapM_cons, base58Digit?_base58Char digit (h digit (by simp)),
      ih fun digit hdigit => h digit (List.mem_cons_of_mem _ hdigit)]
    rfl

theorem of_mapM_base58Digit? {chars : List Char} (h : chars.mapM base58Digit? = some digits) :
    digits.map base58Char = chars ∧ ∀ digit ∈ digits, digit < 58 := by
  induction chars generalizing digits with
  | nil =>
    obtain rfl := Option.some.inj h
    exact ⟨rfl, nofun⟩
  | cons c chars ih =>
    rw [List.mapM_cons] at h
    simp only [Option.bind_eq_bind, Option.bind_eq_some_iff] at h
    obtain ⟨digit, hdigit, digits', hdigits', h⟩ := h
    obtain rfl := Option.some.inj h
    obtain ⟨hchar, hlt⟩ := base58Char_of_digit? hdigit
    obtain ⟨hchars, hlts⟩ := ih hdigits'
    rw [List.map_cons, hchar, hchars]
    exact ⟨rfl, List.forall_mem_cons.mpr ⟨hlt, hlts⟩⟩

theorem map_ofNat_toNat (bytes : List UInt8) : (bytes.map UInt8.toNat).map UInt8.ofNat = bytes := by
  rw [List.map_map]
  exact (List.map_congr_left fun byte _ => UInt8.ofNat_toNat).trans (List.map_id bytes)

theorem map_toNat_ofNat (h : ∀ digit ∈ digits, digit < 256) :
    (digits.map UInt8.ofNat).map UInt8.toNat = digits := by
  rw [List.map_map]
  refine (List.map_congr_left fun digit hdigit => ?_).trans (List.map_id digits)
  exact UInt8.toNat_ofNat_of_lt' (h digit hdigit)

/-- **What is encoded is decoded.** -/
theorem decodeBase58_encodeBase58 (bytes : List UInt8) :
    decodeBase58 (encodeBase58 bytes) = some bytes := by
  have hbytes : ∀ byte ∈ bytes.map UInt8.toNat, byte < 256 := by
    intro byte hbyte
    obtain ⟨byte, -, rfl⟩ := List.mem_map.mp hbyte
    exact byte.toNat_lt
  rw [decodeBase58, encodeBase58, String.toList_ofList,
    mapM_base58Digit? (recode_lt (by decide) _), Option.map_some,
    recode_recode (by decide) hbytes, map_ofNat_toNat]

/-- **A text that is decoded** is the one of its bytes. -/
theorem encodeBase58_decodeBase58 {text : String} {bytes : List UInt8}
    (h : decodeBase58 text = some bytes) : encodeBase58 bytes = text := by
  rw [decodeBase58, Option.map_eq_some_iff] at h
  obtain ⟨digits, hdigits, rfl⟩ := h
  obtain ⟨hchars, hlt⟩ := of_mapM_base58Digit? hdigits
  rw [encodeBase58, map_toNat_ofNat (recode_lt (by decide) _), recode_recode (by decide) hlt, hchars,
    String.ofList_toList]

end QuadraA.Lib
