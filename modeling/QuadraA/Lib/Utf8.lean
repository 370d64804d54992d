import Mathlib.Data.List.Basic

/-!
# UTF-8 with a decoder that never fails, and UTF-16

The bytes of a text, and a decoder that makes one replacement character of each sequence of bytes
that begins a character and does not go on as one.

* `encodeUtf8` — the bytes of a text;
* `utf16Units` — the code units of a character, with `utf16Units_append_inj`.
-/

namespace QuadraA.Lib

/-- The bytes of a character. -/
def encodeChar (c : Char) : List ℕ :=
  if c.toNat < 0x80 then [c.toNat]
  else if c.toNat < 0x800 then [0xC0 + c.toNat / 64, 0x80 + c.toNat % 64]
  else if c.toNat < 0x10000 then
    [0xE0 + c.toNat / 4096, 0x80 + c.toNat / 64 % 64, 0x80 + c.toNat % 64]
  else
    [0xF0 + c.toNat / 262144, 0x80 + c.toNat / 4096 % 64, 0x80 + c.toNat / 64 % 64,
      0x80 + c.toNat % 64]

def encodeUtf8 (text : List Char) : List ℕ := text.flatMap encodeChar

/-- Where the decoder stands: between characters, or with some bytes owed, the next one in a
range. -/
inductive Utf8State where
  | start
  | owed (count low high codePoint : ℕ)

/-- The character for what is none. -/
def replacement : Char := '\ufffd'

/-- The first byte of a character. -/
def firstByte (b : ℕ) : List Char × Utf8State :=
  if b < 0x80 then ([Char.ofNat b], .start)
  else if 0xC2 ≤ b ∧ b ≤ 0xDF then ([], .owed 1 0x80 0xBF (b - 0xC0))
  else if 0xE0 ≤ b ∧ b ≤ 0xEF then
    -- no longer form than needed, and no surrogate
    ([], .owed 2 (if b = 0xE0 then 0xA0 else 0x80) (if b = 0xED then 0x9F else 0xBF) (b - 0xE0))
  else if 0xF0 ≤ b ∧ b ≤ 0xF4 then
    ([], .owed 3 (if b = 0xF0 then 0x90 else 0x80) (if b = 0xF4 then 0x8F else 0xBF) (b - 0xF0))
  else ([replacement], .start)

/-- **One byte**; one that does not go on with a character begins another one. -/
def nextByte : Utf8State → ℕ → List Char × Utf8State
  | .start, b => firstByte b
  | .owed count low high codePoint, b =>
      if low ≤ b ∧ b ≤ high then
        if count = 1 then ([Char.ofNat (codePoint * 64 + (b - 0x80))], .start)
        else ([], .owed (count - 1) 0x80 0xBF (codePoint * 64 + (b - 0x80)))
      else (replacement :: (firstByte b).1, (firstByte b).2)

def decodeFrom : Utf8State → List ℕ → List Char
  | .start, [] => []
  | .owed _ _ _ _, [] => [replacement]
  | s, b :: bytes => (nextByte s b).1 ++ decodeFrom (nextByte s b).2 bytes

def decodeUtf8 (bytes : List ℕ) : List Char := decodeFrom .start bytes

theorem decodeFrom_cons (s : Utf8State) (b : ℕ) (bytes : List ℕ) :
    decodeFrom s (b :: bytes) = (nextByte s b).1 ++ decodeFrom (nextByte s b).2 bytes := by
  cases s <;> rfl

theorem decodeFrom_owed {count low high codePoint b : ℕ} (hlow : low ≤ b) (hhigh : b ≤ high)
    (hcount : count ≠ 1) (bytes : List ℕ) :
    decodeFrom (.owed count low high codePoint) (b :: bytes)
      = decodeFrom (.owed (count - 1) 0x80 0xBF (codePoint * 64 + (b - 0x80))) bytes := by
  rw [decodeFrom_cons, nextByte, if_pos ⟨hlow, hhigh⟩, if_neg hcount]
  rfl

theorem decodeFrom_last {low high codePoint b : ℕ} (hlow : low ≤ b) (hhigh : b ≤ high)
    (bytes : List ℕ) :
    decodeFrom (.owed 1 low high codePoint) (b :: bytes)
      = Char.ofNat (codePoint * 64 + (b - 0x80)) :: decodeFrom .start bytes := by
  rw [decodeFrom_cons, nextByte, if_pos ⟨hlow, hhigh⟩, if_pos rfl]
  rfl

/-- **The bytes of a character** decode to it. -/
theorem decode_encodeChar (c : Char) (bytes : List ℕ) :
    decodeFrom .start (encodeChar c ++ bytes) = c :: decodeFrom .start bytes := by
  have hvalid : c.toNat < 0xD800 ∨ 0xDFFF < c.toNat ∧ c.toNat < 0x110000 := c.valid
  have hback : ∀ n, n = c.toNat → Char.ofNat n = c := fun n h => by rw [h, Char.ofNat_toNat]
  rw [encodeChar]
  by_cases hone : c.toNat < 0x80
  · rw [if_pos hone, List.cons_append, decodeFrom_cons, nextByte, firstByte, if_pos hone,
      hback _ rfl]
    rfl
  rw [if_neg hone]
  by_cases htwo : c.toNat < 0x800
  · rw [if_pos htwo, List.cons_append, decodeFrom_cons, nextByte, firstByte, if_neg (by omega),
      if_pos (by omega), List.nil_append, List.cons_append,
      decodeFrom_last (by omega) (by omega), hback _ (by omega)]
    rfl
  rw [if_neg htwo]
  by_cases hthree : c.toNat < 0x10000
  · rw [if_pos hthree, List.cons_append, decodeFrom_cons, nextByte, firstByte, if_neg (by omega),
      if_neg (by omega), if_pos (by omega), List.nil_append, List.cons_append]
    rw [decodeFrom_owed (by split <;> omega) (by split <;> omega) (by decide), List.cons_append,
      decodeFrom_last (by omega) (by omega), hback _ (by omega)]
    rfl
  · rw [if_neg hthree, List.cons_append, decodeFrom_cons, nextByte, firstByte, if_neg (by omega),
      if_neg (by omega), if_neg (by omega), if_pos (by omega), List.nil_append, List.cons_append]
    rw [decodeFrom_owed (by split <;> omega) (by split <;> omega) (by decide), List.cons_append,
      decodeFrom_owed (by omega) (by omega) (by decide), List.cons_append,
      decodeFrom_last (by omega) (by omega), hback _ (by omega)]
    rfl

/-- **The bytes of a text** decode to it. -/
theorem decode_encode (text : List Char) : decodeUtf8 (encodeUtf8 text) = text := by
  rw [decodeUtf8, encodeUtf8]
  induction text with
  | nil => rfl
  | cons c text ih => rw [List.flatMap_cons, decode_encodeChar, ih]

theorem encodeUtf8_injective {text text' : List Char} (h : encodeUtf8 text = encodeUtf8 text') :
    text = text' := by
  rw [← decode_encode text, h, decode_encode]

/-- Only no text has no bytes. -/
theorem encodeUtf8_eq_nil {text : List Char} (h : encodeUtf8 text = []) : text = [] :=
  encodeUtf8_injective (h.trans rfl)

/-- Bytes are bytes. -/
theorem encodeUtf8_lt (text : List Char) : ∀ b ∈ encodeUtf8 text, b < 256 := by
  intro b hb
  rw [encodeUtf8, List.mem_flatMap] at hb
  obtain ⟨c, -, hc⟩ := hb
  have hvalid : c.toNat < 0xD800 ∨ 0xDFFF < c.toNat ∧ c.toNat < 0x110000 := c.valid
  rw [encodeChar] at hc
  split at hc
  · simp only [List.mem_cons, List.not_mem_nil, or_false] at hc
    omega
  · split at hc
    · simp only [List.mem_cons, List.not_mem_nil, or_false] at hc
      omega
    · split at hc
      · simp only [List.mem_cons, List.not_mem_nil, or_false] at hc
        omega
      · simp only [List.mem_cons, List.not_mem_nil, or_false] at hc
        omega

theorem encodeUtf8_append (text text' : List Char) :
    encodeUtf8 (text ++ text') = encodeUtf8 text ++ encodeUtf8 text' :=
  List.flatMap_append

/-- A character that is cut in two is three replacement characters. -/
example : decodeUtf8 [0xF0, 0x9F] ++ decodeUtf8 [0x98, 0x80]
    = [replacement, replacement, replacement] := by decide

/-! ### UTF-16 -/

/-- The UTF-16 code units of a character. -/
def utf16Units (c : Char) : List ℕ :=
  if c.toNat < 0x10000 then [c.toNat]
  else [0xD800 + (c.toNat - 0x10000) / 0x400, 0xDC00 + (c.toNat - 0x10000) % 0x400]

/-- No code units of a character begin those of another one. -/
theorem utf16Units_append_inj {c c' : Char} {rest rest' : List ℕ}
    (h : utf16Units c ++ rest = utf16Units c' ++ rest') : c = c' ∧ rest = rest' := by
  have hvalid : ∀ d : Char, d.toNat < 0xD800 ∨ 0xDFFF < d.toNat ∧ d.toNat < 0x110000 :=
    fun d => d.valid
  have hleft := hvalid c
  have hright := hvalid c'
  have hsame : c = c' := by
    refine Char.toNat_inj.mp ?_
    rw [utf16Units, utf16Units] at h
    split at h
    · split at h
      · exact (List.cons.inj h).1
      · -- a surrogate is no character
        have hfirst := (List.cons.inj h).1
        omega
    · split at h
      · have hfirst := (List.cons.inj h).1
        omega
      · obtain ⟨hfirst, hrest⟩ := List.cons.inj h
        have hsecond := (List.cons.inj hrest).1
        omega
  rw [hsame] at h
  exact ⟨hsame, List.append_cancel_left h⟩

end QuadraA.Lib
