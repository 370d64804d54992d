import QuadraA.Lib.Cbor

/-!
# The encoder of encrypted messages

`e2e/cbor_x.rs`: the values that messages are made of, and the bytes they are written as.

* `E2eCborValue`, `encode` — the writer, with a map header of two bytes whatever the length;
* `encode_injective` — so that two values of the same bytes are the same item.
-/

namespace QuadraA.CoreRs

open QuadraA.Lib

inductive E2eCborValue where
  | int (value : ℤ)
  | str (value : String)
  | typedBytes (value : List UInt8)
  | map (pairs : List (String × E2eCborValue))

/-- **Induction over the nesting** of a value. -/
theorem E2eCborValue.induct {motive : E2eCborValue → Prop} (hint : ∀ n, motive (.int n))
    (hstr : ∀ s, motive (.str s)) (htypedBytes : ∀ b, motive (.typedBytes b))
    (hmap : ∀ pairs, (∀ p ∈ pairs, motive p.2) → motive (.map pairs)) : ∀ v, motive v := by
  refine @E2eCborValue.rec motive (fun pairs => ∀ p ∈ pairs, motive p.2) (fun p => motive p.2)
    hint hstr htypedBytes hmap ?_ ?_ ?_
  · intro p hmem
    cases hmem
  · intro head tail hhead htail p hmem
    rcases List.mem_cons.mp hmem with rfl | hmem
    · exact hhead
    · exact htail p hmem
  · intro key value hvalue
    exact hvalue

/-! ### The writer -/

/-- `encode_head`; the argument is a `u64`. -/
def encodeHead (major : UInt8) (value : ℕ) : List UInt8 :=
  let mt := major <<< 5
  if value ≤ 23 then [mt ||| UInt8.ofNat value]
  else if value ≤ 0xff then [mt ||| 24, UInt8.ofNat value]
  else if value ≤ 0xffff then (mt ||| 25) :: bigEndian 2 value
  else if value ≤ 0xffffffff then (mt ||| 26) :: bigEndian 4 value
  else (mt ||| 27) :: bigEndian 8 value

def encodeInt (value : ℤ) : List UInt8 :=
  if 0 ≤ value then encodeHead 0 value.toNat else encodeHead 1 (-1 - value).toNat

def encodeStr (value : String) : List UInt8 :=
  encodeHead 3 (textBytes value).length ++ textBytes value

mutual

/-- `encode_value`, as the bytes it puts behind those that are there. -/
def encodeValue : E2eCborValue → List UInt8
  | .int n => encodeInt n
  | .str s => encodeStr s
  | .typedBytes bytes => encodeHead 6 64 ++ encodeHead 2 bytes.length ++ bytes
  | .map pairs => 0xb9 :: bigEndian 2 pairs.length ++ encodePairs pairs

def encodePairs : List (String × E2eCborValue) → List UInt8
  | [] => []
  | (key, value) :: pairs => encodeStr key ++ encodeValue value ++ encodePairs pairs

end

def encode (value : E2eCborValue) : List UInt8 := encodeValue value

/-! ### The item that is written -/

mutual

/-- A value as a data item: bytes are tagged as a typed array. -/
def E2eCborValue.item : E2eCborValue → CborItem
  | .int n => .integer n
  | .str s => .text s
  | .typedBytes bytes => .tag 64 (.bytes bytes)
  | .map pairs => .map (pairEntries pairs)

def pairEntries : List (String × E2eCborValue) → List (CborItem × CborItem)
  | [] => []
  | (key, value) :: pairs => (.text key, value.item) :: pairEntries pairs

end

mutual

/-- The lengths are those of a `u64`, and that of a map is one of a `u16`. -/
def E2eCborValue.Sized : E2eCborValue → Prop
  | .int n => -2 ^ 64 ≤ n ∧ n < 2 ^ 64
  | .str s => (textBytes s).length < 2 ^ 64
  | .typedBytes bytes => bytes.length < 2 ^ 64
  | .map pairs => pairs.length < 2 ^ 16 ∧ PairsSized pairs

def PairsSized : List (String × E2eCborValue) → Prop
  | [] => True
  | (key, value) :: pairs =>
      (textBytes key).length < 2 ^ 64 ∧ value.Sized ∧ PairsSized pairs

end

theorem length_pairEntries (pairs : List (String × E2eCborValue)) :
    (pairEntries pairs).length = pairs.length := by
  induction pairs with
  | nil => rfl
  | cons pair pairs ih => rw [pairEntries, List.length_cons, List.length_cons, ih]

/-! ### What is written -/

/-- The major type and the low bits of an initial byte do not overlap. -/
theorem or_eq_initialByte {major info : UInt8} (hmajor : major.toNat < 8)
    (hinfo : info.toNat < 32) : major <<< 5 ||| info = initialByte major.toNat info.toNat := by
  apply UInt8.toNat_inj.mp
  rw [initialByte_toNat hmajor hinfo, UInt8.toNat_or, UInt8.toNat_shiftLeft]
  show major.toNat <<< 5 % 2 ^ 8 ||| info.toNat = 2 ^ 5 * major.toNat + info.toNat
  rw [Nat.shiftLeft_eq, Nat.mod_eq_of_lt (by omega), Nat.mul_comm,
    Nat.two_pow_add_eq_or_of_lt (by omega)]

/-- **The head** that is written is one of the argument. -/
theorem head_encodeHead (major : ℕ) {value : ℕ} (hmajor : major < 8) (hvalue : value < 2 ^ 64) :
    Head major value (encodeHead (UInt8.ofNat major) value) := by
  have hbyte : (UInt8.ofNat major).toNat = major := by
    rw [UInt8.toNat_ofNat']
    omega
  have hinitial {info : UInt8} (hinfo : info.toNat < 32) :
      UInt8.ofNat major <<< 5 ||| info = initialByte major info.toNat := by
    rw [or_eq_initialByte (by omega) hinfo, hbyte]
  rw [encodeHead]
  split
  · rename_i hsmall
    have hinfo : (UInt8.ofNat value).toNat = value := by
      rw [UInt8.toNat_ofNat']
      omega
    rw [hinitial (by omega), hinfo]
    exact .inside (by omega)
  · split
    · rw [hinitial (by decide)]
      have hbytes : [UInt8.ofNat value] = bigEndian (2 ^ 0) value := by
        simp [bigEndian]
      rw [hbytes]
      exact .behind 0 (by decide) (by omega)
    · split
      · rw [hinitial (by decide)]
        exact .behind 1 (by decide) (by omega)
      · split
        · rw [hinitial (by decide)]
          exact .behind 2 (by decide) (by omega)
        · rw [hinitial (by decide)]
          exact .behind 3 (by decide) (by omega)

theorem encodes_encodeStr {value : String} (h : (textBytes value).length < 2 ^ 64) :
    Encodes (.text value) (encodeStr value) := by
  rw [Encodes, encodeStr]
  exact ⟨_, head_encodeHead 3 (by decide) h, rfl⟩

/-- The pairs of a map are written one behind the other. -/
theorem encodes_encodePairs {pairs : List (String × E2eCborValue)}
    (hvalues : ∀ pair ∈ pairs, pair.2.Sized → Encodes pair.2.item (encodeValue pair.2))
    (h : PairsSized pairs) : EncodesEntries (pairEntries pairs) (encodePairs pairs) := by
  induction pairs with
  | nil => rw [pairEntries, EncodesEntries, encodePairs]
  | cons pair pairs ih =>
    obtain ⟨key, value⟩ := pair
    rw [PairsSized] at h
    obtain ⟨hkey, hvalue, hrest⟩ := h
    rw [pairEntries, EncodesEntries, encodePairs]
    exact ⟨_, _, _, encodes_encodeStr hkey, hvalues (key, value) List.mem_cons_self hvalue,
      ih (fun pair hmem => hvalues pair (List.mem_cons_of_mem _ hmem)) hrest, rfl⟩

/-- **The writer writes an encoding** of the item that a value is. -/
theorem encodes_encode (value : E2eCborValue) :
    value.Sized → Encodes value.item (encode value) := by
  induction value using E2eCborValue.induct with
  | hint n =>
    intro h
    rw [E2eCborValue.Sized] at h
    rw [encode, encodeValue, encodeInt, E2eCborValue.item, Encodes]
    split
    · exact head_encodeHead 0 (by decide) (by omega)
    · exact head_encodeHead 1 (by decide) (by omega)
  | hstr s =>
    intro h
    rw [E2eCborValue.Sized] at h
    rw [encode, encodeValue, E2eCborValue.item]
    exact encodes_encodeStr h
  | htypedBytes bytes =>
    intro h
    rw [E2eCborValue.Sized] at h
    rw [encode, encodeValue, E2eCborValue.item, Encodes, List.append_assoc]
    refine ⟨⟨by decide, by decide⟩, _, _, head_encodeHead 6 (by decide) (by decide), ?_, rfl⟩
    rw [Encodes]
    exact ⟨_, head_encodeHead 2 (by decide) h, rfl⟩
  | hmap pairs ih =>
    intro h
    rw [E2eCborValue.Sized] at h
    rw [encode, encodeValue, E2eCborValue.item, Encodes, length_pairEntries]
    refine ⟨0xb9 :: bigEndian 2 pairs.length, encodePairs pairs, ?_,
      encodes_encodePairs ih h.2, rfl⟩
    exact .behind 1 (by decide) h.1

/-- **The writer is injective** on the items that values are. -/
theorem encode_injective {value value' : E2eCborValue} (h : value.Sized) (h' : value'.Sized)
    (hsame : encode value = encode value') : value.item = value'.item :=
  (encodes_unique (encodes_encode value h) (encodes_encode value' h')
    (congrArg (· ++ []) hsame)).1

end QuadraA.CoreRs
