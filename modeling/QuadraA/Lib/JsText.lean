import Mathlib.Data.List.TakeWhile

/-!
# Text

What JavaScript does with text: the blanks that `trim` takes away, the parts between separators, and
the integer that a text begins with.

* `jsWhitespace`, `trim`;
* `parseDecimal` — the integer, with `parseDecimal_toDigits`.
-/

namespace QuadraA.Lib

/-- What `trim` takes away. -/
def jsWhitespace : List Char :=
  ['\t', '\n', '\x0b', '\x0c', '\r', ' ', '\u00a0', '\u1680', '\u2000', '\u2001', '\u2002',
    '\u2003', '\u2004', '\u2005', '\u2006', '\u2007', '\u2008', '\u2009', '\u200a', '\u2028',
    '\u2029', '\u202f', '\u205f', '\u3000', '\ufeff']

def trim (text : List Char) : List Char :=
  ((text.dropWhile jsWhitespace.contains).reverse.dropWhile jsWhitespace.contains).reverse

/-- `split(/[separators]+/).filter(Boolean)`. -/
def splitParts (separates : Char → Bool) (text : List Char) : List (List Char) :=
  (text.splitOnP separates).filter fun part => !part.isEmpty

/-- The number of the digits in front. -/
def parseDigits (text : List Char) : Option ℕ :=
  let digits := text.takeWhile Char.isDigit
  if digits = [] then none else some (Nat.ofDigitChars 10 digits 0)

/-- `parseInt(text, 10)`; `none` is `NaN`. -/
def parseDecimal (text : List Char) : Option ℤ :=
  match text.dropWhile jsWhitespace.contains with
  | '-' :: rest => (parseDigits rest).map fun n => -n
  | '+' :: rest => (parseDigits rest).map fun n => n
  | rest => (parseDigits rest).map fun n => n

theorem digit_not_whitespace {c : Char} (h : c.isDigit = true) : jsWhitespace.contains c = false := by
  rw [Char.isDigit, Bool.and_eq_true, decide_eq_true_eq, decide_eq_true_eq] at h
  have hrange : jsWhitespace.all fun c' => decide (c'.val < 48 ∨ 57 < c'.val) := by decide
  rw [List.contains_eq_mem, decide_eq_false_iff_not]
  intro hmem
  have hc := of_decide_eq_true (List.all_eq_true.mp hrange c hmem)
  rcases hc with hc | hc
  · exact absurd hc (UInt32.not_lt.mpr h.1)
  · exact absurd hc (UInt32.not_lt.mpr h.2)

/-- **The digits of a number** are parsed as the number. -/
theorem parseDecimal_toDigits (n : ℕ) : parseDecimal (Nat.toDigits 10 n) = some n := by
  have hdigits : ∀ c ∈ Nat.toDigits 10 n, c.isDigit = true := fun c hc =>
    Nat.isDigit_of_mem_toDigits (by decide) (by decide) hc
  have hparse : parseDigits (Nat.toDigits 10 n) = some n := by
    rw [parseDigits, List.takeWhile_eq_self_iff.mpr hdigits, if_neg Nat.toDigits_ne_nil,
      Nat.ofDigitChars_ten_toDigits]
  rw [parseDecimal]
  cases hn : Nat.toDigits 10 n with
  | nil => exact absurd hn Nat.toDigits_ne_nil
  | cons c rest =>
    have hc : c.isDigit = true := hdigits c (hn ▸ List.mem_cons_self)
    rw [hn] at hparse
    rw [List.dropWhile_cons_of_neg (by rw [digit_not_whitespace hc]; exact nofun)]
    split
    · rename_i heq
      rw [(List.cons.inj heq).1] at hc
      exact absurd hc (by decide)
    · rename_i heq
      rw [(List.cons.inj heq).1] at hc
      exact absurd hc (by decide)
    · rw [hparse]
      rfl

end QuadraA.Lib
