import QuadraA.Lib.JsNumber
import QuadraA.Lib.JsText
import QuadraA.Lib.JsonText

/-!
# Numbers that texts are read as

`Number(text)`: the blanks around a text are dropped, and what is left is a literal of the language,
or `NaN`.

* `exponent?`, `unsignedDecimal?`, `decimalLiteral?` — decimal literals, with their exponents;
* `stringToNumber` — the number, with `stringToNumber_toDigits`.
-/

namespace QuadraA.Lib

/-- Digits, and nothing else. -/
def wholeDigits? (text : List Char) : Option ℕ :=
  if text ≠ [] ∧ text.all Char.isDigit then some (Nat.ofDigitChars 10 text 0) else none

/-- The exponent behind the digits, if there is one. -/
def exponent? : List Char → Option ℤ
  | [] => some 0
  | c :: rest =>
      if c ≠ 'e' ∧ c ≠ 'E' then none
      else
        match rest with
        | '+' :: digits => (wholeDigits? digits).map Nat.cast
        | '-' :: digits => (wholeDigits? digits).map fun n => -n
        | digits => (wholeDigits? digits).map Nat.cast

/-- A decimal literal without a sign. -/
def unsignedDecimal? (text : List Char) : Option JsNumber :=
  let whole := text.takeWhile Char.isDigit
  if text = "Infinity".toList then some (.infinity false)
  else
    match text.dropWhile Char.isDigit with
    | '.' :: rest =>
        let fraction := rest.takeWhile Char.isDigit
        if whole = [] ∧ fraction = [] then none
        else
          (exponent? (rest.dropWhile Char.isDigit)).map fun e : ℤ =>
            .ofRat (Nat.ofDigitChars 10 (whole ++ fraction) 0 * 10 ^ (e - (fraction.length : ℤ)))
    | rest =>
        if whole = [] then none
        else (exponent? rest).map fun e : ℤ => .ofRat (Nat.ofDigitChars 10 whole 0 * 10 ^ e)

def decimalLiteral? : List Char → Option JsNumber
  | '+' :: text => unsignedDecimal? text
  | '-' :: text => (unsignedDecimal? text).map JsNumber.neg
  | text => unsignedDecimal? text

/-- The base that a letter behind a zero stands for. -/
def radix? (c : Char) : Option ℕ :=
  if c = 'x' ∨ c = 'X' then some 16
  else if c = 'o' ∨ c = 'O' then some 8
  else if c = 'b' ∨ c = 'B' then some 2
  else none

def radixLiteral? : List Char → Option JsNumber
  | '0' :: c :: digits =>
      (radix? c).bind fun base =>
        if digits = [] then none
        else
          (digits.mapM fun digit => (hexDigit? digit).filter fun n => decide (n < base)).map
            fun values => .ofRat (values.foldl (fun n value => base * n + value) 0 : ℕ)
  | _ => none

/-- `Number(text)`. -/
def stringToNumber (text : String) : JsNumber :=
  let literal := trim text.toList
  if literal = [] then .finite 0
  else (radixLiteral? literal <|> decimalLiteral? literal).getD .nan

/-! ### Digits -/

/-- A text of digits has no blanks around it. -/
theorem trim_digits {digits : List Char} (h : ∀ c ∈ digits, c.isDigit = true) :
    trim digits = digits := by
  have hkeeps : ∀ l : List Char, (∀ c ∈ l, c.isDigit = true) →
      l.dropWhile jsWhitespace.contains = l := by
    intro l hl
    cases l with
    | nil => rfl
    | cons c rest =>
      refine List.dropWhile_cons_of_neg ?_
      rw [digit_not_whitespace (hl c (List.mem_cons_self ..))]
      exact Bool.false_ne_true
  rw [trim, hkeeps digits h, hkeeps _ fun c hc => h c (List.mem_reverse.mp hc),
    List.reverse_reverse]

theorem unsignedDecimal?_digits {digits : List Char} (hne : digits ≠ [])
    (h : ∀ c ∈ digits, c.isDigit = true) :
    unsignedDecimal? digits = some (.ofRat (Nat.ofDigitChars 10 digits 0 : ℕ)) := by
  have hinfinity : digits ≠ "Infinity".toList := by
    rintro rfl
    exact absurd (h 'I' (by decide)) (by decide)
  rw [unsignedDecimal?, if_neg hinfinity, List.dropWhile_eq_nil_iff.mpr h,
    List.takeWhile_eq_self_iff.mpr h]
  dsimp only
  rw [if_neg hne, exponent?, Option.map_some, zpow_zero, mul_one]

/-- **A text of digits** is read as the number that they are. -/
theorem stringToNumber_digits {digits : List Char} (hne : digits ≠ [])
    (h : ∀ c ∈ digits, c.isDigit = true) :
    stringToNumber (String.ofList digits) = .ofRat (Nat.ofDigitChars 10 digits 0 : ℕ) := by
  have hradix : radixLiteral? digits = none := by
    unfold radixLiteral?
    split
    · rename_i c rest
      have hc : c.isDigit = true := h c (by simp)
      have hnone : radix? c = none := by
        rw [radix?, if_neg, if_neg, if_neg] <;>
        · rintro (rfl | rfl) <;> exact absurd hc (by decide)
      rw [hnone, Option.bind_none]
    · rfl
  have hdecimal : decimalLiteral? digits = unsignedDecimal? digits := by
    unfold decimalLiteral?
    split
    · exact absurd (h '+' (by simp)) (by decide)
    · exact absurd (h '-' (by simp)) (by decide)
    · rfl
  rw [stringToNumber, String.toList_ofList, trim_digits h, if_neg hne, hradix, hdecimal,
    unsignedDecimal?_digits hne h]
  rfl

/-- **The decimal digits of a number** are read as the number nearest to it. -/
theorem stringToNumber_toDigits (n : ℕ) :
    stringToNumber (String.ofList (Nat.toDigits 10 n)) = .ofRat n := by
  rw [stringToNumber_digits Nat.toDigits_ne_nil fun c hc =>
    Nat.isDigit_of_mem_toDigits (by decide) (by decide) hc, Nat.ofDigitChars_ten_toDigits]

/-- Blanks, leading zeros, points, exponents and other bases are read as well. -/
example : stringToNumber " 007 " = .finite 7 ∧ stringToNumber "1e1" = .finite 10 ∧
    stringToNumber ".5" = .finite (1 / 2) ∧ stringToNumber "0x1F" = .finite 31 ∧
    stringToNumber "" = .finite 0 ∧ stringToNumber "1_0" = .nan ∧
    stringToNumber "-Infinity" = .infinity true := by
  decide +kernel

end QuadraA.Lib
