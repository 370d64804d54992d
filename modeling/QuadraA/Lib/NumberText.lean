import QuadraA.Lib.NumericText

/-!
# Texts of numbers

`Number::toString`: the shortest decimal digits that are read as a number, with a point or an
exponent.

* `DecimalForm` — digits and their place, and `DecimalForm.Of`, those of a number;
* `shortestDigits` — there is such a choice.
-/

namespace QuadraA.Lib

/-- A finite number of the language. -/
structure JsFinite where
  value : ℚ
  isNumber : JsNumber.ofRat value = .finite value

/-! ### Digits -/

/-- `k` digits that make the integer `s`, with the point `n` digits behind their front. -/
structure DecimalForm where
  s : ℕ
  k : ℕ
  n : ℤ

namespace DecimalForm

def value (form : DecimalForm) : ℚ := form.s * 10 ^ (form.n - form.k)

/-- **The digits are those of a number**: it is the nearest one. -/
structure Of (form : DecimalForm) (x : ℚ) : Prop where
  pos : 1 ≤ form.k
  lower : 10 ^ (form.k - 1) ≤ form.s
  upper : form.s < 10 ^ form.k
  number : JsNumber.ofRat form.value = .finite x

end DecimalForm

/-- **The digits that an engine takes** of a positive number: no others are fewer. -/
structure DigitChoice where
  digits : ℚ → DecimalForm
  correct : ∀ x, 0 < x → JsNumber.ofRat x = .finite x → (digits x).Of x
  shortest : ∀ x, 0 < x → JsNumber.ofRat x = .finite x → ∀ form : DecimalForm, form.Of x →
    (digits x).k ≤ form.k

/-! ### Texts -/

/-- The exponent of a number. -/
def exponentText (exponent : ℤ) : List Char :=
  'e' :: (if exponent < 0 then '-' else '+') :: Nat.toDigits 10 exponent.natAbs

/-- The text of a positive number. -/
def decimalText (form : DecimalForm) : List Char :=
  let digits := Nat.toDigits 10 form.s
  if form.k ≤ form.n ∧ form.n ≤ 21 then digits ++ List.replicate (form.n - form.k).toNat '0'
  else if 0 < form.n ∧ form.n ≤ 21 then
    digits.take form.n.toNat ++ '.' :: digits.drop form.n.toNat
  else if -6 < form.n ∧ form.n ≤ 0 then
    '0' :: '.' :: (List.replicate (-form.n).toNat '0' ++ digits)
  else if form.k = 1 then digits ++ exponentText (form.n - 1)
  else digits.take 1 ++ '.' :: (digits.drop 1 ++ exponentText (form.n - 1))

/-- **The text of a number.** -/
def numberToString (choice : DigitChoice) (x : JsFinite) : List Char :=
  if x.value = 0 then ['0']
  else if x.value < 0 then '-' :: decimalText (choice.digits (-x.value))
  else decimalText (choice.digits x.value)

/-! ### Reading a text -/

/-- What begins with no digit. -/
def NoDigit (text : List Char) : Prop := ∀ c ∈ text.head?, c.isDigit = false

theorem takeWhile_digits {digits rest : List Char} (h : ∀ c ∈ digits, c.isDigit = true)
    (hrest : NoDigit rest) : (digits ++ rest).takeWhile Char.isDigit = digits := by
  rw [List.takeWhile_append_of_pos h]
  cases rest with
  | nil => exact List.append_nil digits
  | cons c rest =>
    rw [List.takeWhile_cons_of_neg (by rw [hrest c rfl]; exact Bool.false_ne_true), List.append_nil]

theorem dropWhile_digits {digits rest : List Char} (h : ∀ c ∈ digits, c.isDigit = true)
    (hrest : NoDigit rest) : (digits ++ rest).dropWhile Char.isDigit = rest := by
  rw [List.dropWhile_append_of_pos h]
  cases rest with
  | nil => rfl
  | cons c rest =>
    rw [List.dropWhile_cons_of_neg (by rw [hrest c rfl]; exact Bool.false_ne_true)]

theorem isDigit_toDigits (n : ℕ) : ∀ c ∈ Nat.toDigits 10 n, c.isDigit = true := fun _ hc =>
  Nat.isDigit_of_mem_toDigits (by decide) (by decide) hc

theorem exponent?_exponentText (e : ℤ) : exponent? (exponentText e) = some e := by
  have hdigits : wholeDigits? (Nat.toDigits 10 e.natAbs) = some e.natAbs := by
    rw [wholeDigits?, if_pos ⟨Nat.toDigits_ne_nil, List.all_eq_true.mpr (isDigit_toDigits _)⟩,
      Nat.ofDigitChars_ten_toDigits]
  rw [exponentText]
  by_cases hneg : e < 0
  · rw [if_pos hneg, exponent?, if_neg (by decide)]
    simp only [hdigits]
    exact congrArg some (show -(e.natAbs : ℤ) = e by omega)
  · rw [if_neg hneg, exponent?, if_neg (by decide)]
    show (wholeDigits? (Nat.toDigits 10 e.natAbs)).map _ = _
    rw [hdigits, Option.map_some]
    exact congrArg some (by omega)

/-- A text that begins with a digit is not that of infinity. -/
theorem ne_infinity {text : List Char} (h : ∀ c ∈ text.head?, c.isDigit = true) :
    text ≠ "Infinity".toList := by
  rintro rfl
  exact absurd (h 'I' rfl) (by decide)

/-- **Digits around a point**, and an exponent. -/
theorem unsignedDecimal?_point {whole fraction rest : List Char} {e : ℤ} (hne : whole ≠ [])
    (hwhole : ∀ c ∈ whole, c.isDigit = true) (hfraction : ∀ c ∈ fraction, c.isDigit = true)
    (hrest : NoDigit rest) (he : exponent? rest = some e) :
    unsignedDecimal? (whole ++ '.' :: (fraction ++ rest))
      = some (.ofRat ((Nat.ofDigitChars 10 (whole ++ fraction) 0 : ℕ)
          * 10 ^ (e - (fraction.length : ℤ)))) := by
  have hpoint : NoDigit ('.' :: (fraction ++ rest)) := fun c hc => by
    obtain rfl := Option.some.inj hc
    rfl
  have hinfinity : whole ++ '.' :: (fraction ++ rest) ≠ "Infinity".toList := by
    refine ne_infinity fun c hc => hwhole c ?_
    obtain ⟨first, tail, rfl⟩ := List.exists_cons_of_ne_nil hne
    obtain rfl := Option.some.inj hc
    exact List.mem_cons_self ..
  rw [unsignedDecimal?, if_neg hinfinity, dropWhile_digits hwhole hpoint,
    takeWhile_digits hwhole hpoint]
  simp only
  rw [takeWhile_digits hfraction hrest, dropWhile_digits hfraction hrest, he,
    if_neg fun h => hne h.1, Option.map_some]

/-- **Digits without a point**, and an exponent. -/
theorem unsignedDecimal?_exponent {whole : List Char} (e : ℤ) (hne : whole ≠ [])
    (hwhole : ∀ c ∈ whole, c.isDigit = true) :
    unsignedDecimal? (whole ++ exponentText e)
      = some (.ofRat ((Nat.ofDigitChars 10 whole 0 : ℕ) * 10 ^ e)) := by
  have hrest : NoDigit (exponentText e) := fun c hc => by
    obtain rfl := Option.some.inj hc
    rfl
  have hinfinity : whole ++ exponentText e ≠ "Infinity".toList := by
    refine ne_infinity fun c hc => hwhole c ?_
    obtain ⟨first, tail, rfl⟩ := List.exists_cons_of_ne_nil hne
    obtain rfl := Option.some.inj hc
    exact List.mem_cons_self ..
  rw [unsignedDecimal?, if_neg hinfinity, dropWhile_digits hwhole hrest,
    takeWhile_digits hwhole hrest]
  show (if whole = [] then none else (exponent? (exponentText e)).map _) = _
  rw [if_neg hne, exponent?_exponentText]
  rfl

variable {form : DecimalForm} {x : ℚ}

theorem DecimalForm.Of.length (h : form.Of x) : (Nat.toDigits 10 form.s).length = form.k := by
  have hpos := h.pos
  have hle := (Nat.length_toDigits_le_iff (b := 10) (n := form.s) (by decide) hpos).mpr h.upper
  rcases Nat.lt_or_ge (Nat.toDigits 10 form.s).length form.k with hlt | hge
  · exfalso
    have hlower := h.lower
    have hk : 0 < form.k - 1 := by
      have hlength : 0 < (Nat.toDigits 10 form.s).length := Nat.length_toDigits_pos
      omega
    have hupper := (Nat.length_toDigits_le_iff (b := 10) (n := form.s) (by decide) hk).mp (by omega)
    omega
  · omega

/-- **The text of digits** is read as their number. -/
theorem unsignedDecimal?_decimalText (h : form.Of x) :
    unsignedDecimal? (decimalText form) = some (.finite x) := by
  have hlength := h.length
  have hdigits := isDigit_toDigits form.s
  have hne : Nat.toDigits 10 form.s ≠ [] := Nat.toDigits_ne_nil
  have hzeros (m : ℕ) : ∀ c ∈ List.replicate m '0', c.isDigit = true := by
    intro c hc
    rw [List.eq_of_mem_replicate hc]
    rfl
  have hnone : NoDigit [] := fun c hc => by cases hc
  rw [← h.number, DecimalForm.value]
  rw [decimalText]
  split
  · -- an integer
    rename_i hn
    have hall : ∀ c ∈ Nat.toDigits 10 form.s ++ List.replicate (form.n - form.k).toNat '0',
        c.isDigit = true := by
      intro c hc
      rcases List.mem_append.mp hc with hc | hc
      · exact hdigits c hc
      · exact hzeros _ c hc
    rw [unsignedDecimal?_digits (by simp [hne]) hall, Nat.ofDigitChars_append,
      Nat.ofDigitChars_ten_toDigits, Nat.ofDigitChars_replicate_zero]
    have hexp : form.n - form.k = ((form.n - form.k).toNat : ℤ) := by omega
    rw [hexp, zpow_natCast, Int.toNat_natCast]
    push_cast
    rw [mul_comm]
  split
  · -- a point among the digits
    rename_i hn hpoint
    have htake : (Nat.toDigits 10 form.s).take form.n.toNat ≠ [] := by
      rw [ne_eq, List.take_eq_nil_iff, not_or]
      exact ⟨by omega, hne⟩
    have hshape := @unsignedDecimal?_point _ _ [] 0 htake
      (fun c hc => hdigits c (List.mem_of_mem_take hc))
      (fun c (hc : c ∈ (Nat.toDigits 10 form.s).drop form.n.toNat) =>
        hdigits c (List.mem_of_mem_drop hc)) hnone rfl
    rw [List.append_nil, List.take_append_drop, Nat.ofDigitChars_ten_toDigits, List.length_drop,
      hlength] at hshape
    rw [hshape]
    have hexp : (0 : ℤ) - ((form.k - form.n.toNat : ℕ) : ℤ) = form.n - form.k := by omega
    rw [hexp]
  split
  · -- zeros behind the point
    rename_i hn hpoint hsmall
    have hall : ∀ c ∈ List.replicate (-form.n).toNat '0' ++ Nat.toDigits 10 form.s,
        c.isDigit = true := by
      intro c hc
      rcases List.mem_append.mp hc with hc | hc
      · exact hzeros _ c hc
      · exact hdigits c hc
    have hshape := @unsignedDecimal?_point ['0'] _ [] 0
      (List.cons_ne_nil _ _) (hzeros 1) hall hnone rfl
    rw [List.append_nil, ← List.append_assoc, Nat.ofDigitChars_append, List.length_append,
      List.length_replicate, hlength] at hshape
    have hinit : Nat.ofDigitChars 10 (['0'] ++ List.replicate (-form.n).toNat '0') 0 = 0 := by
      rw [← List.replicate_one, ← List.replicate_add, Nat.ofDigitChars_replicate_zero, Nat.mul_zero]
    rw [hinit, Nat.ofDigitChars_ten_toDigits] at hshape
    refine hshape.trans ?_
    have hexp : (0 : ℤ) - (((-form.n).toNat + form.k : ℕ) : ℤ) = form.n - form.k := by omega
    rw [hexp]
  split
  · -- one digit and an exponent
    rename_i hone
    rw [unsignedDecimal?_exponent _ hne hdigits, Nat.ofDigitChars_ten_toDigits, hone]
    rfl
  · -- a point behind the first digit, and an exponent
    rename_i hone
    have hpos := h.pos
    have htake : (Nat.toDigits 10 form.s).take 1 ≠ [] := by
      rw [ne_eq, List.take_eq_nil_iff, not_or]
      exact ⟨by omega, hne⟩
    have hrest : NoDigit (exponentText (form.n - 1)) := fun c hc => by
      obtain rfl := Option.some.inj hc
      rfl
    rw [unsignedDecimal?_point htake (fun c hc => hdigits c (List.mem_of_mem_take hc))
      (fun c hc => hdigits c (List.mem_of_mem_drop hc)) hrest (exponent?_exponentText _),
      List.take_append_drop, Nat.ofDigitChars_ten_toDigits, List.length_drop, hlength]
    have hexp : form.n - 1 - ((form.k - 1 : ℕ) : ℤ) = form.n - form.k := by omega
    rw [hexp]

theorem head_decimalText (form : DecimalForm) :
    ∃ c rest, decimalText form = c :: rest ∧ c.isDigit = true := by
  obtain ⟨c, digits, hdigits, hc⟩ := head_toDigits form.s
  rw [decimalText, hdigits]
  split
  · exact ⟨c, _, rfl, hc⟩
  split
  · rename_i hpoint
    obtain ⟨m, hm⟩ : ∃ m, form.n.toNat = m + 1 := ⟨form.n.toNat - 1, by omega⟩
    rw [hm]
    exact ⟨c, _, rfl, hc⟩
  split
  · exact ⟨'0', _, rfl, rfl⟩
  split <;> exact ⟨c, _, rfl, hc⟩

/-- A text that begins with a digit has no sign. -/
theorem decimalLiteral?_of_head {text : List Char} (h : ∃ c rest, text = c :: rest ∧
    c.isDigit = true) : decimalLiteral? text = unsignedDecimal? text := by
  obtain ⟨c, rest, rfl, hc⟩ := h
  unfold decimalLiteral?
  split
  · rename_i heq
    rw [(List.cons.inj heq).1] at hc
    cases hc
  · rename_i heq
    rw [(List.cons.inj heq).1] at hc
    cases hc
  · rfl

variable (choice : DigitChoice)

/-- **The text of a number** is read as the number. -/
theorem decimalLiteral?_numberToString (x : JsFinite) :
    decimalLiteral? (numberToString choice x) = some (.finite x.value) := by
  have hnumber := x.isNumber
  rw [numberToString]
  split
  · rename_i hzero
    rw [hzero] at hnumber ⊢
    rw [decimalLiteral?_of_head ⟨'0', [], rfl, rfl⟩,
      unsignedDecimal?_digits (List.cons_ne_nil _ _) (List.forall_mem_singleton.mpr rfl)]
    exact congrArg some hnumber
  · rename_i hne
    split
    · rename_i hneg
      have hcorrect := choice.correct (-x.value) (neg_pos.mpr hneg) (JsNumber.ofRat_neg hnumber)
      rw [decimalLiteral?, unsignedDecimal?_decimalText hcorrect, Option.map_some, JsNumber.neg,
        neg_neg]
    · rename_i hneg
      have hpos : 0 < x.value := lt_of_le_of_ne (not_lt.mp hneg) (Ne.symm hne)
      rw [decimalLiteral?_of_head (head_decimalText _),
        unsignedDecimal?_decimalText (choice.correct x.value hpos hnumber)]

theorem numberToString_injective {x y : JsFinite}
    (h : numberToString choice x = numberToString choice y) : x = y := by
  have hread := congrArg decimalLiteral? h
  rw [decimalLiteral?_numberToString, decimalLiteral?_numberToString] at hread
  have hvalue : x.value = y.value := JsNumber.finite.inj (Option.some.inj hread)
  obtain ⟨q, _⟩ := x
  obtain ⟨q', _⟩ := y
  obtain rfl : q = q' := hvalue
  rfl

/-! ### The end of a text -/

/-- What the text of a number is made of. -/
def isNumberChar (c : Char) : Bool :=
  c.isDigit || c == '.' || c == 'e' || c == '+' || c == '-'

theorem isNumberChar_of_isDigit {c : Char} (h : c.isDigit = true) : isNumberChar c = true := by
  rw [isNumberChar, h]
  rfl

theorem isNumberChar_exponentText (e : ℤ) : ∀ c ∈ exponentText e, isNumberChar c = true := by
  intro c hc
  rw [exponentText, List.mem_cons, List.mem_cons] at hc
  rcases hc with rfl | rfl | hc
  · rfl
  · split <;> rfl
  · exact isNumberChar_of_isDigit (isDigit_toDigits _ c hc)

theorem isNumberChar_decimalText (form : DecimalForm) :
    ∀ c ∈ decimalText form, isNumberChar c = true := by
  have hdigits : ∀ c ∈ Nat.toDigits 10 form.s, isNumberChar c = true := fun c hc =>
    isNumberChar_of_isDigit (isDigit_toDigits _ c hc)
  have hzeros (m : ℕ) : ∀ c ∈ List.replicate m '0', isNumberChar c = true := by
    intro c hc
    rw [List.eq_of_mem_replicate hc]
    rfl
  have hexponent := isNumberChar_exponentText (form.n - 1)
  intro c hc
  rw [decimalText] at hc
  split at hc
  · exact (List.mem_append.mp hc).elim (hdigits c) (hzeros _ c)
  split at hc
  · rw [List.mem_append, List.mem_cons] at hc
    rcases hc with hc | rfl | hc
    · exact hdigits c (List.mem_of_mem_take hc)
    · rfl
    · exact hdigits c (List.mem_of_mem_drop hc)
  split at hc
  · rw [List.mem_cons, List.mem_cons, List.mem_append] at hc
    rcases hc with rfl | rfl | hc | hc
    · rfl
    · rfl
    · exact hzeros _ c hc
    · exact hdigits c hc
  split at hc
  · exact (List.mem_append.mp hc).elim (hdigits c) (hexponent c)
  · rw [List.mem_append, List.mem_cons, List.mem_append] at hc
    rcases hc with hc | rfl | hc | hc
    · exact hdigits c (List.mem_of_mem_take hc)
    · rfl
    · exact hdigits c (List.mem_of_mem_drop hc)
    · exact hexponent c hc

theorem isNumberChar_numberToString (x : JsFinite) :
    ∀ c ∈ numberToString choice x, isNumberChar c = true := by
  intro c hc
  rw [numberToString] at hc
  split at hc
  · rw [List.mem_singleton.mp hc]
    rfl
  · split at hc
    · rcases List.mem_cons.mp hc with rfl | hc
      · rfl
      · exact isNumberChar_decimalText _ c hc
    · exact isNumberChar_decimalText _ c hc

theorem head_numberToString (x : JsFinite) :
    ∃ c rest, numberToString choice x = c :: rest ∧ (c = '-' ∨ c.isDigit = true) := by
  rw [numberToString]
  split
  · exact ⟨'0', [], rfl, Or.inr rfl⟩
  · split
    · exact ⟨'-', _, rfl, Or.inl rfl⟩
    · obtain ⟨c, rest, htext, hc⟩ := head_decimalText (choice.digits x.value)
      exact ⟨c, rest, htext, Or.inr hc⟩

theorem takeWhile_numberToString (x : JsFinite) {rest : List Char} (hrest : Delimited rest) :
    (numberToString choice x ++ rest).takeWhile isNumberChar = numberToString choice x := by
  rw [List.takeWhile_append_of_pos (isNumberChar_numberToString choice x)]
  cases rest with
  | nil => exact List.append_nil _
  | cons c rest =>
    have hc : isNumberChar c = false := by
      rcases hrest c rfl with rfl | rfl | rfl <;> rfl
    rw [List.takeWhile_cons_of_neg (by rw [hc]; exact Bool.false_ne_true), List.append_nil]

/-- **The text of a number** ends where no more of a number follows, and is that of no other. -/
theorem numberToString_append_inj {x y : JsFinite} {rest rest' : List Char}
    (hrest : Delimited rest) (hrest' : Delimited rest')
    (h : numberToString choice x ++ rest = numberToString choice y ++ rest') :
    x = y ∧ rest = rest' := by
  have htext := congrArg (List.takeWhile isNumberChar) h
  rw [takeWhile_numberToString choice x hrest, takeWhile_numberToString choice y hrest'] at htext
  obtain rfl := numberToString_injective choice htext
  exact ⟨rfl, List.append_cancel_left h⟩

/-! ### The shortest digits -/

/-- **A number has digits.** -/
theorem DecimalForm.exists_of {x : ℚ} (h0 : 0 < x) (h : JsNumber.ofRat x = .finite x) :
    ∃ form : DecimalForm, form.Of x := by
  obtain ⟨s, j, hs, hx⟩ := JsNumber.exists_digits h0 h
  have hlength : 0 < (Nat.toDigits 10 s).length := Nat.length_toDigits_pos
  refine ⟨⟨s, (Nat.toDigits 10 s).length, (Nat.toDigits 10 s).length - j⟩, hlength, ?_, ?_, ?_⟩
  · by_cases hone : (Nat.toDigits 10 s).length - 1 = 0
    · show 10 ^ ((Nat.toDigits 10 s).length - 1) ≤ s
      rw [hone]
      exact hs
    · refine Nat.le_of_not_lt fun hlt => ?_
      have hle := (Nat.length_toDigits_le_iff (b := 10) (n := s) (by decide)
        (Nat.pos_of_ne_zero hone)).mpr hlt
      omega
  · exact (Nat.length_toDigits_le_iff (b := 10) (n := s) (by decide) hlength).mp le_rfl
  · have hvalue : DecimalForm.value ⟨s, (Nat.toDigits 10 s).length,
        (Nat.toDigits 10 s).length - j⟩ = x := by
      have hexp : ((Nat.toDigits 10 s).length : ℤ) - j - (Nat.toDigits 10 s).length = -j := by
        omega
      rw [DecimalForm.value, hx]
      exact congrArg (fun e : ℤ => (s : ℚ) * 10 ^ e) hexp
    rw [hvalue]
    exact h

/-- The fewest digits of a number. -/
noncomputable def fewestDigits (x : ℚ) : DecimalForm :=
  open Classical in
  if h : ∃ form : DecimalForm, form.Of x then
    Function.argminOn DecimalForm.k {form : DecimalForm | form.Of x} h
  else ⟨0, 0, 0⟩

/-- **There is a choice** of the digits. -/
noncomputable def shortestDigits : DigitChoice where
  digits := fewestDigits
  correct x h0 h := by
    have hexists := DecimalForm.exists_of h0 h
    rw [fewestDigits, dif_pos hexists]
    exact Function.argminOn_mem DecimalForm.k {form : DecimalForm | form.Of x} hexists
  shortest x h0 h form hform := by
    have hexists := DecimalForm.exists_of h0 h
    rw [fewestDigits, dif_pos hexists]
    exact Function.argminOn_le DecimalForm.k {form : DecimalForm | form.Of x} hform

end QuadraA.Lib
