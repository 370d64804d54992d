import Mathlib.Data.List.Lex
import QuadraA.Lib.Json
import QuadraA.Lib.Utf8

/-!
# Strings of UTF-16 code units

The strings of JavaScript: any code units, paired surrogates or not, and their texts in JSON.

* `JsString`, `jsString` — strings, and those of well-formed text;
* `quoteUnits_append_inj` — no text of a string begins the text of another one.
-/

namespace QuadraA.Lib

abbrev CodeUnit := Fin 65536

instance codeUnits_neZero : @NeZero ℕ Zero.ofOfNat0 65536 := ⟨by decide⟩

abbrev JsString := List CodeUnit

/-- The string of a text. -/
def jsString (text : String) : JsString :=
  (text.toList.flatMap utf16Units).map (Fin.ofNat 65536)

/-! ### Code points -/

/-- A character, or a surrogate without its other half. -/
inductive CodePoint where
  | scalar (c : Char)
  | surrogate (offset : Fin 2048)
deriving DecidableEq

def CodePoint.units : CodePoint → List ℕ
  | .scalar c => utf16Units c
  | .surrogate offset => [0xD800 + offset]

/-- The character of a pair of surrogates. -/
def pairChar? (high low : CodeUnit) : Option Char :=
  if 0xD800 ≤ high.val ∧ high.val < 0xDC00 ∧ 0xDC00 ≤ low.val ∧ low.val < 0xE000 then
    some (Char.ofNat (0x10000 + (high.val - 0xD800) * 0x400 + (low.val - 0xDC00)))
  else none

def singlePoint (unit : CodeUnit) : CodePoint :=
  if h : 0xD800 ≤ unit.val ∧ unit.val < 0xE000 then
    .surrogate ⟨unit.val - 0xD800, by omega⟩
  else .scalar (Char.ofNat unit.val)

/-- **The code points of a string.** -/
def codePoints : JsString → List CodePoint
  | [] => []
  | [unit] => [singlePoint unit]
  | unit :: next :: rest =>
      match pairChar? unit next with
      | some c => .scalar c :: codePoints rest
      | none => singlePoint unit :: codePoints (next :: rest)

theorem toNat_ofNat_of_valid {n : ℕ} (h : n.isValidChar) : (Char.ofNat n).toNat = n := by
  rw [Char.ofNat, dif_pos h]
  rfl

theorem units_singlePoint (unit : CodeUnit) : (singlePoint unit).units = [unit.val] := by
  rw [singlePoint]
  split
  · rename_i h
    show [0xD800 + (unit.val - 0xD800)] = [unit.val]
    rw [Nat.add_sub_cancel' h.1]
  · rename_i h
    have hvalid : unit.val.isValidChar := by
      have hlt := unit.isLt
      show unit.val < 0xD800 ∨ 0xDFFF < unit.val ∧ unit.val < 0x110000
      omega
    show utf16Units (Char.ofNat unit.val) = [unit.val]
    rw [utf16Units, toNat_ofNat_of_valid hvalid, if_pos unit.isLt]

theorem units_pairChar? {high low : CodeUnit} {c : Char} (h : pairChar? high low = some c) :
    utf16Units c = [high.val, low.val] := by
  rw [pairChar?] at h
  split at h
  · rename_i hrange
    have hvalid : (0x10000 + (high.val - 0xD800) * 0x400 + (low.val - 0xDC00)).isValidChar := by
      show _ < 0xD800 ∨ 0xDFFF < _ ∧ _ < 0x110000
      omega
    rw [← Option.some.inj h, utf16Units, toNat_ofNat_of_valid hvalid, if_neg (by omega)]
    have hhigh : 0xD800 + (0x10000 + (high.val - 0xD800) * 0x400 + (low.val - 0xDC00) - 0x10000)
        / 0x400 = high.val := by omega
    have hlow : 0xDC00 + (0x10000 + (high.val - 0xD800) * 0x400 + (low.val - 0xDC00) - 0x10000)
        % 0x400 = low.val := by omega
    rw [hhigh, hlow]
  · cases h

/-- **The code points** have the units of the string. -/
theorem units_codePoints (s : JsString) :
    (codePoints s).flatMap CodePoint.units = s.map Fin.val := by
  induction s using codePoints.induct with
  | case1 => rfl
  | case2 unit =>
    rw [codePoints, List.flatMap_singleton, units_singlePoint]
    rfl
  | case3 unit next rest c hpair ih =>
    rw [codePoints, hpair]
    dsimp only
    rw [List.flatMap_cons, ih, CodePoint.units, units_pairChar? hpair]
    rfl
  | case4 unit next rest hpair ih =>
    rw [codePoints, hpair]
    dsimp only
    rw [List.flatMap_cons, ih, units_singlePoint]
    rfl

variable {s s' : JsString} {rest rest' : List Char}

theorem codePoints_injective (h : codePoints s = codePoints s') : s = s' := by
  have hunits := congrArg (List.flatMap CodePoint.units) h
  rw [units_codePoints, units_codePoints] at hunits
  exact List.map_injective_iff.mpr Fin.val_injective hunits

/-! ### Texts -/

def hexUnit (n : ℕ) : List Char :=
  [Nat.digitChar (n / 4096 % 16), Nat.digitChar (n / 256 % 16), Nat.digitChar (n / 16 % 16),
    Nat.digitChar (n % 16)]

/-- The text of a code point; a lone surrogate is escaped. -/
def CodePoint.text : CodePoint → List Char
  | .scalar c => escapeChar c
  | .surrogate offset => '\\' :: 'u' :: hexUnit (0xD800 + offset)

/-- `JSON.stringify` of a string. -/
def quoteUnits (s : JsString) : List Char :=
  '"' :: ((codePoints s).flatMap CodePoint.text ++ ['"'])

example : quoteUnits (jsString "a\n😀") = "\"a\\n😀\"".toList := by decide +kernel

example : quoteUnits [0xD83D, 0x61] = "\"\\ud83da\"".toList := by decide +kernel

theorem digitChar_inj : ∀ a < 16, ∀ b < 16, Nat.digitChar a = Nat.digitChar b → a = b := by
  decide

/-- The digits of a surrogate are those of no other. -/
theorem hexUnit_inj {offset offset' : Fin 2048}
    (h : hexUnit (0xD800 + offset) = hexUnit (0xD800 + offset')) : offset = offset' := by
  simp only [hexUnit, List.cons.injEq, and_true] at h
  have h1 := digitChar_inj _ (Nat.mod_lt _ (by decide)) _ (Nat.mod_lt _ (by decide)) h.1
  have h2 := digitChar_inj _ (Nat.mod_lt _ (by decide)) _ (Nat.mod_lt _ (by decide)) h.2.1
  have h3 := digitChar_inj _ (Nat.mod_lt _ (by decide)) _ (Nat.mod_lt _ (by decide)) h.2.2.1
  have h4 := digitChar_inj _ (Nat.mod_lt _ (by decide)) _ (Nat.mod_lt _ (by decide)) h.2.2.2
  have hlt := offset.isLt
  have hlt' := offset'.isLt
  exact Fin.ext (by omega)

/-- The first digit of a surrogate. -/
theorem hexUnit_surrogate (offset : Fin 2048) :
    ∃ digits, hexUnit (0xD800 + offset) = 'd' :: digits := by
  have hlt := offset.isLt
  have hdigit : (0xD800 + offset.val) / 4096 % 16 = 13 := by omega
  exact ⟨_, by rw [hexUnit, hdigit]; rfl⟩

/-- No escape of a character is one of a surrogate. -/
theorem escape_apart_surrogate : ∀ c ∈ escapedChars,
    ¬escapeChar c <+: ['\\', 'u', 'd'] ∧ ¬['\\', 'u', 'd'] <+: escapeChar c := by
  have hall : (escapedChars.all fun c => !(escapeChar c).isPrefixOf ['\\', 'u', 'd'] &&
      !(['\\', 'u', 'd'].isPrefixOf (escapeChar c))) = true := by
    decide +kernel
  intro c hc
  have happart := List.all_eq_true.mp hall c hc
  simpa [← List.isPrefixOf_iff_prefix] using happart

theorem escapeChar_append_ne_surrogate (c : Char) (offset : Fin 2048) (rest rest' : List Char) :
    escapeChar c ++ rest ≠ (CodePoint.surrogate offset).text ++ rest' := by
  intro h
  obtain ⟨digits, hdigits⟩ := hexUnit_surrogate offset
  rw [CodePoint.text, hdigits] at h
  rcases escapeChar_cases c with hc | ⟨hc, -, hne⟩
  · obtain ⟨hnot, hnot'⟩ := escape_apart_surrogate c hc
    have hleft : escapeChar c <+: escapeChar c ++ rest := List.prefix_append _ _
    have hright : ['\\', 'u', 'd'] <+: escapeChar c ++ rest := ⟨digits ++ rest', by rw [h]; rfl⟩
    rcases List.prefix_or_prefix_of_prefix hleft hright with hp | hp
    · exact hnot hp
    · exact hnot' hp
  · rw [hc] at h
    exact hne (List.cons.inj h).1

/-- **No text of a code point** begins another one. -/
theorem CodePoint.text_append_inj {p p' : CodePoint} (h : p.text ++ rest = p'.text ++ rest') :
    p = p' ∧ rest = rest' := by
  cases p with
  | scalar c =>
    cases p' with
    | scalar c' =>
      obtain ⟨rfl, hrest⟩ := escapeChar_append_inj h
      exact ⟨rfl, hrest⟩
    | surrogate offset' => exact absurd h (escapeChar_append_ne_surrogate c offset' _ _)
  | surrogate offset =>
    cases p' with
    | scalar c' => exact absurd h.symm (escapeChar_append_ne_surrogate c' offset _ _)
    | surrogate offset' =>
      have hdigits : hexUnit (0xD800 + offset) ++ rest = hexUnit (0xD800 + offset') ++ rest' :=
        (List.cons.inj (List.cons.inj h).2).2
      obtain ⟨hsame, hrest⟩ := List.append_inj hdigits rfl
      exact ⟨by rw [hexUnit_inj hsame], hrest⟩

theorem CodePoint.text_append_ne (p : CodePoint) (rest rest' : List Char) :
    p.text ++ rest ≠ '"' :: rest' := by
  cases p with
  | scalar c => exact escapeChar_append_ne c rest rest'
  | surrogate offset => exact fun h => absurd (List.cons.inj h).1 (by decide)

theorem points_append_inj (points points' : List CodePoint)
    (h : points.flatMap CodePoint.text ++ '"' :: rest
      = points'.flatMap CodePoint.text ++ '"' :: rest') : points = points' ∧ rest = rest' := by
  induction points generalizing points' with
  | nil =>
    cases points' with
    | nil => exact ⟨rfl, (List.cons.inj h).2⟩
    | cons p' points' =>
      rw [List.flatMap_cons, List.append_assoc] at h
      exact absurd h.symm (p'.text_append_ne _ _)
  | cons p points ih =>
    cases points' with
    | nil =>
      rw [List.flatMap_cons, List.append_assoc] at h
      exact absurd h (p.text_append_ne _ _)
    | cons p' points' =>
      rw [List.flatMap_cons, List.flatMap_cons, List.append_assoc, List.append_assoc] at h
      obtain ⟨rfl, hrest⟩ := CodePoint.text_append_inj h
      obtain ⟨rfl, hend⟩ := ih points' hrest
      exact ⟨rfl, hend⟩

/-- **The text of a string** ends where it ends, and is that of no other. -/
theorem quoteUnits_append_inj (h : quoteUnits s ++ rest = quoteUnits s' ++ rest') :
    s = s' ∧ rest = rest' := by
  have hpoints : (codePoints s).flatMap CodePoint.text ++ ['"'] ++ rest
      = (codePoints s').flatMap CodePoint.text ++ ['"'] ++ rest' := (List.cons.inj h).2
  rw [List.append_assoc, List.append_assoc] at hpoints
  obtain ⟨hsame, hrest⟩ := points_append_inj _ _ hpoints
  exact ⟨codePoints_injective hsame, hrest⟩

end QuadraA.Lib
