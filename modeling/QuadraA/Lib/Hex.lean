import QuadraA.Lib.Utf16

/-!
# Bytes in hexadecimal digits

The hexadecimal text of bytes, and the bytes that are read from a text, up to the first pair that is
none of digits.

* `hexString` — `Buffer.from(bytes).toString('hex')`;
* `bufferFromHex` — `Buffer.from(text, 'hex')`, with `bufferFromHex_hexString`.
-/

namespace QuadraA.Lib

/-- The code unit of a digit below 16. -/
def hexDigitUnit (digit : ℕ) : CodeUnit :=
  if digit < 10 then Fin.ofNat 65536 (48 + digit) else Fin.ofNat 65536 (87 + digit)

/-- The digit of a code unit, in either case. -/
def hexUnitDigit? (unit : CodeUnit) : Option ℕ :=
  if 48 ≤ unit.val ∧ unit.val < 58 then some (unit.val - 48)
  else if 97 ≤ unit.val ∧ unit.val < 103 then some (unit.val - 87)
  else if 65 ≤ unit.val ∧ unit.val < 71 then some (unit.val - 55)
  else none

def hexString (bytes : List UInt8) : JsString :=
  bytes.flatMap fun byte => [hexDigitUnit (byte.toNat / 16), hexDigitUnit (byte.toNat % 16)]

def bufferFromHex : JsString → List UInt8
  | high :: low :: rest =>
      match hexUnitDigit? high, hexUnitDigit? low with
      | some x, some y => UInt8.ofNat (16 * x + y) :: bufferFromHex rest
      | _, _ => []
  | _ => []

theorem hexUnitDigit?_hexDigitUnit : ∀ digit < 16,
    hexUnitDigit? (hexDigitUnit digit) = some digit := by
  decide

/-- **The text of bytes** is read as the bytes. -/
theorem bufferFromHex_hexString (bytes : List UInt8) : bufferFromHex (hexString bytes) = bytes := by
  induction bytes with
  | nil => rfl
  | cons byte bytes ih =>
    have hlt := byte.toNat_lt
    rw [hexString, List.flatMap_cons, List.cons_append, List.cons_append, List.nil_append,
      bufferFromHex, hexUnitDigit?_hexDigitUnit _ (by omega),
      hexUnitDigit?_hexDigitUnit _ (by omega)]
    have hbyte : UInt8.ofNat (16 * (byte.toNat / 16) + byte.toNat % 16) = byte := by
      rw [Nat.div_add_mod, UInt8.ofNat_toNat]
    exact congrArg₂ _ hbyte ih

end QuadraA.Lib
