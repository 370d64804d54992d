import QuadraA.CoreRs.WireFormat
import QuadraA.Lib.CborTokens
import QuadraA.Lib.JsonOrder

/-!
# JSON values on the wire

`cbor_x_encode_json` and `cbor_decode_value` of `protocol.rs`: a JSON value is written the way the
relay writes it, and read back with another library.

* `cbor_round_trip` — a value comes back, up to how its numbers are represented, exactly where no
  object inside has `2 ^ 16` members;
* `large_object_lost` — an object of `2 ^ 16` members comes back as one without any.

The heads, integers and texts are written by functions that are those of the encoder of encrypted
messages, line by line.  A double has one zero here.
-/

namespace QuadraA.CoreRs

open QuadraA.Lib QuadraA.Protocol

/-! ### The writer -/

inductive CborXValue where
  | null
  | bool (value : Bool)
  | int (value : ℤ)
  | float (value : JsNumber)
  | str (value : String)
  | bytes (value : List UInt8)
  | array (items : List CborXValue)
  | map (pairs : List (String × CborXValue))

/-- **Induction over the nesting** of a value. -/
theorem CborXValue.induct {motive : CborXValue → Prop} (hnull : motive .null)
    (hbool : ∀ b, motive (.bool b)) (hint : ∀ n, motive (.int n))
    (hfloat : ∀ x, motive (.float x)) (hstr : ∀ s, motive (.str s))
    (hbytes : ∀ b, motive (.bytes b))
    (harray : ∀ items, (∀ v ∈ items, motive v) → motive (.array items))
    (hmap : ∀ pairs, (∀ p ∈ pairs, motive p.2) → motive (.map pairs)) : ∀ v, motive v := by
  refine @CborXValue.rec motive (fun items => ∀ v ∈ items, motive v)
    (fun pairs => ∀ p ∈ pairs, motive p.2) (fun p => motive p.2)
    hnull hbool hint hfloat hstr hbytes harray hmap ?_ ?_ ?_ ?_ ?_
  · intro v hmem
    cases hmem
  · intro head tail hhead htail v hmem
    rcases List.mem_cons.mp hmem with rfl | hmem
    · exact hhead
    · exact htail v hmem
  · intro p hmem
    cases hmem
  · intro head tail hhead htail p hmem
    rcases List.mem_cons.mp hmem with rfl | hmem
    · exact hhead
    · exact htail p hmem
  · intro key value hvalue
    exact hvalue

namespace CborXValue

mutual

/-- `encode_value`, as the bytes it puts behind those that are there. -/
def encodeValue : CborXValue → List UInt8
  | .null => [0xf6]
  | .bool true => [0xf5]
  | .bool false => [0xf4]
  | .int n => encodeInt n
  | .float f => 0xfb :: bigEndian 8 f.toBits
  | .str s => encodeStr s
  | .bytes b => encodeHead 2 b.length ++ b
  | .array items => encodeHead 4 items.length ++ encodeItems items
  | .map pairs => 0xb9 :: bigEndian 2 (pairs.length % 2 ^ 16) ++ encodePairs pairs

def encodeItems : List CborXValue → List UInt8
  | [] => []
  | item :: items => encodeValue item ++ encodeItems items

def encodePairs : List (String × CborXValue) → List UInt8
  | [] => []
  | (key, value) :: pairs => encodeStr key ++ encodeValue value ++ encodePairs pairs

end

end CborXValue

def cborXEncode (value : CborXValue) : List UInt8 := value.encodeValue

/-- `as_i64`. -/
def numberAsI64 : SerdeNumber → Option ℤ
  | .posInt n => if n < 2 ^ 63 then some n else none
  | .negInt n => some n
  | .float _ => none

/-- The branch of a number: an `i32`, or a double. -/
def numberToCborX (n : SerdeNumber) : CborXValue :=
  match numberAsI64 n with
  | some i => if -2 ^ 31 ≤ i ∧ i < 2 ^ 31 then .int i else .float n.asF64
  | none => .float n.asF64

mutual

def jsonToCborX : Json String SerdeNumber → CborXValue
  | .null => .null
  | .bool b => .bool b
  | .number n => numberToCborX n
  | .string s => .str s
  | .array items => .array (itemsToCborX items)
  | .object members => .map (membersToCborX members)

def itemsToCborX : List (Json String SerdeNumber) → List CborXValue
  | [] => []
  | v :: items => jsonToCborX v :: itemsToCborX items

def membersToCborX :
    List (String × Json String SerdeNumber) → List (String × CborXValue)
  | [] => []
  | (key, v) :: members => (key, jsonToCborX v) :: membersToCborX members

end

def cborXEncodeJson (value : Json String SerdeNumber) : List UInt8 :=
  cborXEncode (jsonToCborX value)

/-! ### The heads that are written -/

namespace CborXValue

mutual

/-- **The heads of a value**, with the length of a map as it is written. -/
def tokens : CborXValue → List CborToken
  | .null => [.null]
  | .bool b => [.bool b]
  | .int n => [.integer n]
  | .float f => [.float f]
  | .str s => [.text s]
  | .bytes b => [.bytes b]
  | .array items => .array items.length :: itemTokens items
  | .map pairs => .map (pairs.length % 2 ^ 16) :: pairTokens pairs

def itemTokens : List CborXValue → List CborToken
  | [] => []
  | item :: items => item.tokens ++ itemTokens items

def pairTokens : List (String × CborXValue) → List CborToken
  | [] => []
  | (key, value) :: pairs => .text key :: (value.tokens ++ pairTokens pairs)

end

mutual

/-- The lengths and integers are those of 64 bits, and the doubles are doubles. -/
def Sized : CborXValue → Prop
  | .int n => -2 ^ 64 ≤ n ∧ n < 2 ^ 64
  | .float f => JsNumber.ofBits f.toBits = f ∧ f.toBits < 2 ^ 64
  | .str s => (textBytes s).length < 2 ^ 64
  | .bytes b => b.length < 2 ^ 64
  | .array items => items.length < 2 ^ 64 ∧ ItemsSized items
  | .map pairs => PairsSized pairs
  | _ => True

def ItemsSized : List CborXValue → Prop
  | [] => True
  | item :: items => item.Sized ∧ ItemsSized items

def PairsSized : List (String × CborXValue) → Prop
  | [] => True
  | (key, value) :: pairs => (textBytes key).length < 2 ^ 64 ∧ value.Sized ∧ PairsSized pairs

end

mutual

/-- A value as a data item. -/
def item : CborXValue → CborItem
  | .null => .null
  | .bool b => .bool b
  | .int n => .integer n
  | .float f => .float f
  | .str s => .text s
  | .bytes b => .bytes b
  | .array items => .array (itemsOf items)
  | .map pairs => .map (entriesOf pairs)

def itemsOf : List CborXValue → List CborItem
  | [] => []
  | v :: items => v.item :: itemsOf items

def entriesOf : List (String × CborXValue) → List (CborItem × CborItem)
  | [] => []
  | (key, value) :: pairs => (.text key, value.item) :: entriesOf pairs

end

mutual

/-- **No map is too long** for a length of 16 bits. -/
def SmallMaps : CborXValue → Prop
  | .array items => ItemsSmall items
  | .map pairs => pairs.length < 2 ^ 16 ∧ PairsSmall pairs
  | _ => True

def ItemsSmall : List CborXValue → Prop
  | [] => True
  | item :: items => item.SmallMaps ∧ ItemsSmall items

def PairsSmall : List (String × CborXValue) → Prop
  | [] => True
  | (_, value) :: pairs => value.SmallMaps ∧ PairsSmall pairs

end

/-- The items of an array are written one behind the other. -/
theorem writesAll_encodeItems {items : List CborXValue}
    (hwrites : ∀ v ∈ items, v.Sized → WritesAll v.tokens v.encodeValue)
    (h : ItemsSized items) : WritesAll (itemTokens items) (encodeItems items) := by
  induction items with
  | nil => rw [itemTokens, encodeItems, WritesAll]
  | cons item items ih =>
    rw [ItemsSized] at h
    rw [itemTokens, encodeItems]
    exact writesAll_append (hwrites item List.mem_cons_self h.1)
      (ih (fun v hmem => hwrites v (List.mem_cons_of_mem _ hmem)) h.2)

theorem writes_encodeStr {s : String} (h : (textBytes s).length < 2 ^ 64) :
    (CborToken.text s).Writes (encodeStr s) :=
  ⟨_, head_encodeHead 3 (by decide) h, rfl⟩

/-- The pairs of a map are written one behind the other. -/
theorem writesAll_encodePairs {pairs : List (String × CborXValue)}
    (hwrites : ∀ p ∈ pairs, p.2.Sized → WritesAll p.2.tokens p.2.encodeValue)
    (h : PairsSized pairs) : WritesAll (pairTokens pairs) (encodePairs pairs) := by
  induction pairs with
  | nil => rw [pairTokens, encodePairs, WritesAll]
  | cons pair pairs ih =>
    obtain ⟨key, value⟩ := pair
    rw [PairsSized] at h
    obtain ⟨hkey, hvalue, hrest⟩ := h
    rw [pairTokens, encodePairs, List.append_assoc]
    exact ⟨_, _, writes_encodeStr hkey, writesAll_append
      (hwrites (key, value) List.mem_cons_self hvalue)
      (ih (fun p hmem => hwrites p (List.mem_cons_of_mem _ hmem)) hrest), rfl⟩

end CborXValue

/-- **The writer writes the heads** of a value. -/
theorem writesAll_cborXEncode (value : CborXValue) :
    value.Sized → WritesAll value.tokens (cborXEncode value) := by
  induction value using CborXValue.induct with
  | hnull => exact fun _ => writesAll_single (t := .null) rfl
  | hbool b =>
    intro _
    refine writesAll_single (t := .bool b) ?_
    cases b <;> rfl
  | hint n =>
    intro h
    rw [CborXValue.Sized] at h
    refine writesAll_single (t := .integer n) ?_
    rw [CborToken.Writes, cborXEncode, CborXValue.encodeValue, encodeInt]
    split
    · exact head_encodeHead 0 (by decide) (by omega)
    · exact head_encodeHead 1 (by decide) (by omega)
  | hfloat f =>
    intro h
    rw [CborXValue.Sized] at h
    exact writesAll_single (t := .float f) ⟨f.toBits, h.2, h.1, rfl⟩
  | hstr s =>
    intro h
    rw [CborXValue.Sized] at h
    exact writesAll_single (CborXValue.writes_encodeStr h)
  | hbytes b =>
    intro h
    rw [CborXValue.Sized] at h
    exact writesAll_single (t := .bytes b) ⟨_, head_encodeHead 2 (by decide) h, rfl⟩
  | harray items ih =>
    intro h
    rw [CborXValue.Sized] at h
    rw [cborXEncode, CborXValue.encodeValue, CborXValue.tokens]
    exact ⟨_, _, head_encodeHead 4 (by decide) h.1, CborXValue.writesAll_encodeItems ih h.2, rfl⟩
  | hmap pairs ih =>
    intro h
    rw [CborXValue.Sized] at h
    rw [cborXEncode, CborXValue.encodeValue, CborXValue.tokens]
    refine ⟨0xb9 :: bigEndian 2 (pairs.length % 2 ^ 16), _, ?_,
      CborXValue.writesAll_encodePairs ih h, rfl⟩
    exact .behind 1 (by decide) (Nat.mod_lt _ (by decide))

namespace CborXValue

theorem length_itemsOf (items : List CborXValue) : (itemsOf items).length = items.length := by
  induction items with
  | nil => rfl
  | cons v items ih => rw [itemsOf, List.length_cons, List.length_cons, ih]

theorem length_entriesOf (pairs : List (String × CborXValue)) :
    (entriesOf pairs).length = pairs.length := by
  induction pairs with
  | nil => rfl
  | cons pair pairs ih => rw [entriesOf, List.length_cons, List.length_cons, ih]

/-- **The heads of a value are those of its item**, where no map is too long. -/
theorem tokens_item (value : CborXValue) : value.SmallMaps → value.tokens = value.item.tokens := by
  induction value using CborXValue.induct with
  | harray items ih =>
    intro h
    rw [SmallMaps] at h
    rw [tokens, item, CborItem.tokens, length_itemsOf]
    congr 1
    induction items with
    | nil => rfl
    | cons v items ihs =>
      rw [ItemsSmall] at h
      rw [itemTokens, itemsOf, itemsTokens, ih v List.mem_cons_self h.1,
        ihs (fun v hmem => ih v (List.mem_cons_of_mem _ hmem)) h.2]
  | hmap pairs ih =>
    intro h
    rw [SmallMaps] at h
    obtain ⟨hlength, h⟩ := h
    rw [tokens, item, CborItem.tokens, length_entriesOf, Nat.mod_eq_of_lt hlength]
    congr 1
    clear hlength
    induction pairs with
    | nil => rfl
    | cons pair pairs ihs =>
      obtain ⟨key, value⟩ := pair
      rw [PairsSmall] at h
      rw [pairTokens, entriesOf, entriesTokens, CborItem.tokens,
        ih (key, value) List.mem_cons_self h.1,
        ihs (fun p hmem => ih p (List.mem_cons_of_mem _ hmem)) h.2]
      rfl
  | _ =>
    intro _
    rw [tokens, item, CborItem.tokens]

/-- **No head of a map** has a length that does not fit in 16 bits. -/
theorem map_lt_of_mem_tokens (value : CborXValue) :
    ∀ count, .map count ∈ value.tokens → count < 2 ^ 16 := by
  induction value using CborXValue.induct with
  | harray items ih =>
    intro count h
    rw [tokens, List.mem_cons] at h
    rcases h with h | h
    · cases h
    · induction items with
      | nil => cases h
      | cons v items ihs =>
        rw [itemTokens] at h
        rcases List.mem_append.mp h with h | h
        · exact ih v List.mem_cons_self count h
        · exact ihs (fun v hmem => ih v (List.mem_cons_of_mem _ hmem)) h
  | hmap pairs ih =>
    intro count h
    rw [tokens, List.mem_cons] at h
    rcases h with h | h
    · cases h
      exact Nat.mod_lt _ (by decide)
    · induction pairs with
      | nil => cases h
      | cons pair pairs ihs =>
        obtain ⟨key, value⟩ := pair
        rw [pairTokens] at h
        rcases List.mem_cons.mp h with h | h
        · cases h
        rcases List.mem_append.mp h with h | h
        · exact ih (key, value) List.mem_cons_self count h
        · exact ihs (fun p hmem => ih p (List.mem_cons_of_mem _ hmem)) h
  | _ =>
    intro count h
    rw [tokens] at h
    cases List.mem_singleton.mp h

end CborXValue

/-! ### What a value is -/

/-- The value of a number, whatever its representation. -/
def numberValue : SerdeNumber → JsNumber
  | .posInt n => .finite n
  | .negInt n => .finite n
  | .float x => x

/-- **A number of `serde_json`**: an integer of 64 bits, or a finite double. -/
def IsNumber : SerdeNumber → Prop
  | .posInt n => n < 2 ^ 64
  | .negInt n => -2 ^ 63 ≤ n ∧ n < 0
  | .float x => ∃ q, x = .finite q ∧ JsNumber.ofRat q = .finite q

mutual

/-- The lengths of a value are those of 64 bits. -/
def Lengths : Json String SerdeNumber → Prop
  | .string s => (textBytes s).length < 2 ^ 64
  | .array items => items.length < 2 ^ 64 ∧ ItemLengths items
  | .object members => MemberLengths members
  | _ => True

def ItemLengths : List (Json String SerdeNumber) → Prop
  | [] => True
  | v :: items => Lengths v ∧ ItemLengths items

def MemberLengths : List (String × Json String SerdeNumber) → Prop
  | [] => True
  | (key, v) :: members => (textBytes key).length < 2 ^ 64 ∧ Lengths v ∧ MemberLengths members

end

/-- **A value of `serde_json`.** -/
structure IsValue (v : Json String SerdeNumber) : Prop where
  distinctKeys : v.DistinctKeys
  numbers : ∀ n ∈ v.numbers, IsNumber n
  lengths : Lengths v

/-- **An integer of at most 53 bits, or no integer.** -/
def IsSafe (n : SerdeNumber) : Prop :=
  ∀ q, numberValue n = .finite q → Int.fract q = 0 → |q| ≤ MAX_SAFE_JSON_INTEGER

/-- The same value, up to the representation of equal numbers. -/
def SameValue (v w : Json String SerdeNumber) : Prop :=
  v.mapNumbers numberValue = w.mapNumbers numberValue

/-- **No object inside** has too many members for a length of 16 bits. -/
def SmallObjects (v : Json String SerdeNumber) : Prop :=
  ∀ keys ∈ v.objectKeys, keys.length < 2 ^ 16

instance (v : Json String SerdeNumber) : Decidable (SmallObjects v) :=
  inferInstanceAs (Decidable (∀ keys ∈ v.objectKeys, keys.length < 2 ^ 16))

/-! ### Numbers -/

variable {i : ℤ} {n : SerdeNumber} {α : Type} {count : ℕ}

/-- An integer that is safe is the double that it is written as. -/
theorem ofRat_of_safe (h : |(i : ℚ)| ≤ MAX_SAFE_JSON_INTEGER) :
    |i| < 2 ^ 53 ∧ JsNumber.ofRat i = .finite i := by
  have hsize : |i| < 2 ^ 53 := by
    rw [MAX_SAFE_JSON_INTEGER] at h
    have habs : |i| ≤ 9007199254740991 := by exact_mod_cast h
    omega
  exact ⟨hsize, JsNumber.ofRat_int hsize⟩

/-- An integer is written as one of 32 bits, or as the double that it is. -/
theorem integer_cases (i : ℤ) (h : JsNumber.ofRat i = .finite i) :
    (∃ j : ℤ, (if -2 ^ 31 ≤ i ∧ i < 2 ^ 31 then CborXValue.int i else .float (.ofRat i)) = .int j ∧
        JsNumber.finite i = .finite j ∧ -2 ^ 31 ≤ j ∧ j < 2 ^ 31) ∨
      ∃ q, (if -2 ^ 31 ≤ i ∧ i < 2 ^ 31 then CborXValue.int i else .float (.ofRat i))
          = .float (.finite q) ∧
        JsNumber.finite i = .finite q ∧ JsNumber.ofRat q = .finite q := by
  by_cases hrange : -2 ^ 31 ≤ i ∧ i < 2 ^ 31
  · exact Or.inl ⟨i, if_pos hrange, rfl, hrange⟩
  · exact Or.inr ⟨i, by rw [if_neg hrange, h], rfl, h⟩

/-- **A number is written** as an integer of 32 bits, or as the double that it is. -/
theorem numberToCborX_cases (hnumber : IsNumber n) (hsafe : IsSafe n) :
    (∃ i : ℤ, numberToCborX n = .int i ∧ numberValue n = .finite i ∧
        -2 ^ 31 ≤ i ∧ i < 2 ^ 31) ∨
      ∃ q, numberToCborX n = .float (.finite q) ∧ numberValue n = .finite q ∧
        JsNumber.ofRat q = .finite q := by
  cases n with
  | posInt n =>
    obtain ⟨hsize, hdouble⟩ := ofRat_of_safe (i := n) (hsafe n rfl (Int.fract_natCast n))
    have hsmall : n < 2 ^ 63 := by
      have := (abs_lt.mp hsize).2
      omega
    rw [numberToCborX, numberAsI64, if_pos hsmall]
    exact integer_cases n hdouble
  | negInt n =>
    obtain ⟨-, hdouble⟩ := ofRat_of_safe (i := n) (hsafe n rfl (Int.fract_intCast n))
    exact integer_cases n hdouble
  | float x =>
    obtain ⟨q, rfl, hq⟩ := hnumber
    exact Or.inr ⟨q, rfl, rfl, hq⟩

theorem numberValue_integerNumber (hlow : -2 ^ 31 ≤ i) (hhigh : i < 2 ^ 31) :
    numberValue (integerNumber i) = .finite i := by
  rw [integerNumber]
  by_cases hnonneg : 0 ≤ i
  · have htoNat : ((i.toNat : ℤ) : ℚ) = i := by rw [Int.toNat_of_nonneg hnonneg]
    rw [if_pos ⟨hnonneg, by omega⟩]
    show JsNumber.finite ((i.toNat : ℕ) : ℚ) = _
    rw [← htoNat]
    rfl
  · rw [if_neg (fun h => hnonneg h.1), if_pos ⟨by omega, by omega⟩]
    rfl

theorem numberValue_floatNumber (q : ℚ) :
    numberValue (floatNumber (.finite q)) = .finite q := by
  rw [floatNumber]
  split
  · rename_i hwhole
    have hfloor : ((⌊q⌋ : ℤ) : ℚ) = q := by
      have hsplit := Int.floor_add_fract q
      rwa [hwhole.1, add_zero] at hsplit
    split
    · rename_i hnonneg
      have htoNat : ((⌊q⌋.toNat : ℤ) : ℚ) = q := by
        rw [Int.toNat_of_nonneg (Int.floor_nonneg.mpr hnonneg), hfloor]
      exact congrArg JsNumber.finite htoNat
    · show JsNumber.finite ((⌊q⌋ : ℤ) : ℚ) = _
      rw [hfloor]
  · rfl

/-- **A number comes back** from its item. -/
theorem numberValue_item (hnumber : IsNumber n) (hsafe : IsSafe n) (debug : CborItem → String) :
    ∃ m, cborValueToJson debug (numberToCborX n).item = .number m ∧
      numberValue m = numberValue n := by
  rcases numberToCborX_cases hnumber hsafe with ⟨i, hwritten, hvalue, hlow, hhigh⟩
    | ⟨q, hwritten, hvalue, -⟩
  · refine ⟨integerNumber i, by rw [hwritten]; rfl, ?_⟩
    rw [hvalue, numberValue_integerNumber hlow hhigh]
  · refine ⟨floatNumber (.finite q), by rw [hwritten]; rfl, ?_⟩
    rw [hvalue, numberValue_floatNumber]

/-! ### Values -/

theorem length_itemsToCborX (items : List (Json String SerdeNumber)) :
    (itemsToCborX items).length = items.length := by
  induction items with
  | nil => rfl
  | cons v items ih => rw [itemsToCborX, List.length_cons, List.length_cons, ih]

theorem length_membersToCborX (members : List (String × Json String SerdeNumber)) :
    (membersToCborX members).length = members.length := by
  induction members with
  | nil => rfl
  | cons m members ih => rw [membersToCborX, List.length_cons, List.length_cons, ih]

theorem sized_numberToCborX (hnumber : IsNumber n) (hsafe : IsSafe n) :
    (numberToCborX n).Sized := by
  rcases numberToCborX_cases hnumber hsafe with ⟨i, hwritten, -, hlow, hhigh⟩
    | ⟨q, hwritten, -, hdouble⟩
  · rw [hwritten, CborXValue.Sized]
    omega
  · rw [hwritten, CborXValue.Sized]
    exact JsNumber.ofBits_toBits hdouble

/-- **A JSON value** is written in 64 bits throughout. -/
theorem sized_jsonToCborX (v : Json String SerdeNumber)
    (hnumbers : ∀ n ∈ v.numbers, IsNumber n ∧ IsSafe n) (hlengths : Lengths v) :
    (jsonToCborX v).Sized := by
  induction v using Json.induct with
  | hnull => rw [jsonToCborX, CborXValue.Sized] <;> simp
  | hbool b => rw [jsonToCborX, CborXValue.Sized] <;> simp
  | hnumber n =>
    rw [jsonToCborX]
    obtain ⟨hnumber, hsafe⟩ := hnumbers n (List.mem_singleton_self n)
    exact sized_numberToCborX hnumber hsafe
  | hstring s =>
    rw [jsonToCborX, CborXValue.Sized]
    exact hlengths
  | harray items ih =>
    rw [Json.forall_numbers_array] at hnumbers
    rw [Lengths] at hlengths
    rw [jsonToCborX, CborXValue.Sized, length_itemsToCborX]
    refine ⟨hlengths.1, ?_⟩
    replace hlengths := hlengths.2
    induction items with
    | nil => rw [itemsToCborX, CborXValue.ItemsSized]; trivial
    | cons v items ihs =>
      rw [ItemLengths] at hlengths
      rw [itemsToCborX, CborXValue.ItemsSized]
      exact ⟨ih v List.mem_cons_self (hnumbers v List.mem_cons_self) hlengths.1,
        ihs (fun w hw => ih w (List.mem_cons_of_mem _ hw))
          (fun w hw => hnumbers w (List.mem_cons_of_mem _ hw)) hlengths.2⟩
  | hobject members ih =>
    rw [Json.forall_numbers_object] at hnumbers
    rw [Lengths] at hlengths
    rw [jsonToCborX, CborXValue.Sized]
    induction members with
    | nil => rw [membersToCborX, CborXValue.PairsSized]; trivial
    | cons m members ihs =>
      obtain ⟨key, v⟩ := m
      rw [MemberLengths] at hlengths
      rw [membersToCborX, CborXValue.PairsSized]
      exact ⟨hlengths.1,
        ih (key, v) List.mem_cons_self (hnumbers (key, v) List.mem_cons_self) hlengths.2.1,
        ihs (fun w hw => ih w (List.mem_cons_of_mem _ hw))
          (fun w hw => hnumbers w (List.mem_cons_of_mem _ hw)) hlengths.2.2⟩

theorem smallMaps_numberToCborX (n : SerdeNumber) : (numberToCborX n).SmallMaps := by
  rw [numberToCborX]
  split
  · split
    · rw [CborXValue.SmallMaps] <;> simp
    · rw [CborXValue.SmallMaps] <;> simp
  · rw [CborXValue.SmallMaps] <;> simp

/-- Small objects are written as small maps. -/
theorem smallMaps_jsonToCborX (v : Json String SerdeNumber) (h : SmallObjects v) :
    (jsonToCborX v).SmallMaps := by
  induction v using Json.induct with
  | hnumber n =>
    rw [jsonToCborX]
    exact smallMaps_numberToCborX n
  | harray items ih =>
    rw [SmallObjects, Json.forall_objectKeys_array] at h
    rw [jsonToCborX, CborXValue.SmallMaps]
    induction items with
    | nil => rw [itemsToCborX, CborXValue.ItemsSmall]; trivial
    | cons v items ihs =>
      rw [itemsToCborX, CborXValue.ItemsSmall]
      exact ⟨ih v List.mem_cons_self (h v List.mem_cons_self),
        ihs (fun w hw => ih w (List.mem_cons_of_mem _ hw))
          (fun w hw => h w (List.mem_cons_of_mem _ hw))⟩
  | hobject members ih =>
    rw [SmallObjects, Json.forall_objectKeys_object, List.length_map] at h
    rw [jsonToCborX, CborXValue.SmallMaps, length_membersToCborX]
    refine ⟨h.1, ?_⟩
    replace h := h.2
    induction members with
    | nil => rw [membersToCborX, CborXValue.PairsSmall]; trivial
    | cons m members ihs =>
      obtain ⟨key, v⟩ := m
      rw [membersToCborX, CborXValue.PairsSmall]
      exact ⟨ih (key, v) List.mem_cons_self (h (key, v) List.mem_cons_self),
        ihs (fun w hw => ih w (List.mem_cons_of_mem _ hw))
          (fun w hw => h w (List.mem_cons_of_mem _ hw))⟩
  | _ => rw [jsonToCborX, CborXValue.SmallMaps] <;> simp

/-- Entries under new keys are put behind those that are there. -/
theorem insertEntries_entriesOf (debug : CborItem → String) {pairs : List (String × CborXValue)}
    (hkeys : (pairs.map Prod.fst).Nodup) (obj : List (String × Json String SerdeNumber))
    (hnew : ∀ key ∈ pairs.map Prod.fst, key ∉ obj.map Prod.fst) :
    insertEntries debug obj (CborXValue.entriesOf pairs)
      = obj ++ pairs.map fun p => (p.1, cborValueToJson debug p.2.item) := by
  induction pairs generalizing obj with
  | nil => rw [CborXValue.entriesOf, insertEntries, List.map_nil, List.append_nil]
  | cons pair pairs ih =>
    obtain ⟨key, value⟩ := pair
    rw [List.map_cons, List.nodup_cons] at hkeys
    have hfresh : key ∉ obj.map Prod.fst := hnew key List.mem_cons_self
    rw [CborXValue.entriesOf, insertEntries, keyText, Record.insert_of_not_mem _ hfresh, ih hkeys.2,
      List.append_assoc]
    · rfl
    · intro other hother
      rw [List.map_append, List.mem_append]
      rintro (hold | hlast)
      · exact hnew other (List.mem_cons_of_mem _ hother) hold
      · obtain rfl := List.mem_singleton.mp hlast
        exact hkeys.1 hother

theorem itemsToJson_itemsOf (debug : CborItem → String) (items : List CborXValue) :
    itemsToJson debug (CborXValue.itemsOf items)
      = items.map fun v => cborValueToJson debug v.item := by
  induction items with
  | nil => rfl
  | cons v items ih => rw [CborXValue.itemsOf, itemsToJson, ih, List.map_cons]

theorem itemsToCborX_eq (items : List (Json String SerdeNumber)) :
    itemsToCborX items = items.map jsonToCborX := by
  induction items with
  | nil => rfl
  | cons v items ih => rw [itemsToCborX, ih, List.map_cons]

theorem membersToCborX_eq (members : List (String × Json String SerdeNumber)) :
    membersToCborX members = members.map (Prod.map id jsonToCborX) := by
  induction members with
  | nil => rfl
  | cons m members ih =>
    rw [membersToCborX, ih, List.map_cons]
    rfl

/-- **The JSON value of the item** of a value is the same value. -/
theorem sameValue_item (debug : CborItem → String) (v : Json String SerdeNumber)
    (hkeys : v.DistinctKeys) (hnumbers : ∀ n ∈ v.numbers, IsNumber n ∧ IsSafe n) :
    SameValue (cborValueToJson debug (jsonToCborX v).item) v := by
  induction v using Json.induct with
  | hnumber n =>
    obtain ⟨hnumber, hsafe⟩ := hnumbers n (List.mem_singleton_self n)
    obtain ⟨m, hjson, hvalue⟩ := numberValue_item hnumber hsafe debug
    rw [SameValue, jsonToCborX, hjson, Json.mapNumbers, Json.mapNumbers, hvalue]
  | harray items ih =>
    rw [Json.distinctKeys_array] at hkeys
    rw [Json.forall_numbers_array] at hnumbers
    rw [SameValue, jsonToCborX, CborXValue.item, cborValueToJson, itemsToJson_itemsOf,
      itemsToCborX_eq, Json.mapNumbers, Json.mapNumbers, Json.mapItems_eq, Json.mapItems_eq,
      List.map_map, List.map_map]
    congr 1
    exact List.map_congr_left fun v hv => ih v hv (hkeys v hv) (hnumbers v hv)
  | hobject members ih =>
    rw [Json.distinctKeys_object] at hkeys
    rw [Json.forall_numbers_object] at hnumbers
    have hnodup : ((members.map (Prod.map id jsonToCborX)).map Prod.fst).Nodup := by
      rw [List.map_map]
      exact hkeys.1
    rw [SameValue, jsonToCborX, CborXValue.item, cborValueToJson, membersToCborX_eq,
      insertEntries_entriesOf debug hnodup [] (fun _ _ => List.not_mem_nil), List.nil_append,
      Json.mapNumbers, Json.mapNumbers, Json.mapMembers_eq, Json.mapMembers_eq, List.map_map,
      List.map_map]
    congr 1
    refine List.map_congr_left fun m hm => ?_
    exact congrArg (Prod.mk m.1) (ih m hm (hkeys.2 m hm) (hnumbers m hm))
  | _ => rfl

/-! ### The way back -/

theorem mem_insert {key : String} {a : α} {l : List (String × α)} {m : String × α}
    (h : m ∈ Record.insert key a l) : m.2 = a ∨ m ∈ l := by
  induction l with
  | nil => exact Or.inl (congrArg Prod.snd (List.mem_singleton.mp h))
  | cons e rest ih =>
    obtain ⟨key', b⟩ := e
    rw [Record.insert] at h
    split at h
    · rcases List.mem_cons.mp h with rfl | h
      · exact Or.inl rfl
      · exact Or.inr (List.mem_cons_of_mem _ h)
    · rcases List.mem_cons.mp h with rfl | h
      · exact Or.inr List.mem_cons_self
      · rcases ih h with h | h
        · exact Or.inl h
        · exact Or.inr (List.mem_cons_of_mem _ h)

theorem length_insert_le (key : String) (a : α) (l : List (String × α)) :
    (Record.insert key a l).length ≤ l.length + 1 := by
  induction l with
  | nil => exact Nat.le_refl 1
  | cons e rest ih =>
    obtain ⟨key', b⟩ := e
    rw [Record.insert]
    split
    · exact Nat.le_succ _
    · exact Nat.add_le_add_right ih 1

/-- An object has no more members than there are entries, and its values are theirs. -/
theorem insertEntries_small (debug : CborItem → String) {entries : List (CborItem × CborItem)}
    (hentries : ∀ e ∈ entries, SmallObjects (cborValueToJson debug e.2))
    (obj : List (String × Json String SerdeNumber)) (hobj : ∀ m ∈ obj, SmallObjects m.2) :
    (insertEntries debug obj entries).length ≤ obj.length + entries.length ∧
      ∀ m ∈ insertEntries debug obj entries, SmallObjects m.2 := by
  induction entries generalizing obj with
  | nil => exact ⟨Nat.le_refl _, hobj⟩
  | cons entry entries ih =>
    obtain ⟨key, value⟩ := entry
    have hvalue := hentries (key, value) List.mem_cons_self
    have hlength := length_insert_le (keyText debug key) (cborValueToJson debug value) obj
    rw [insertEntries, List.length_cons]
    obtain ⟨hle, hsmall⟩ := ih (fun e he => hentries e (List.mem_cons_of_mem _ he))
      (Record.insert (keyText debug key) (cborValueToJson debug value) obj) fun m hm => by
        rcases mem_insert hm with hnew | hold
        · rw [hnew]
          exact hvalue
        · exact hobj m hold
    exact ⟨by omega, hsmall⟩

/-- **An item of small maps** has a JSON value of small objects. -/
theorem smallObjects_cborValueToJson (debug : CborItem → String) (item : CborItem)
    (hmaps : ∀ count, .map count ∈ item.tokens → count < 2 ^ 16) :
    SmallObjects (cborValueToJson debug item) := by
  induction item using CborItem.induct with
  | hbytes bytes =>
    rw [cborValueToJson, SmallObjects, Json.forall_objectKeys_array]
    intro v hv keys hkeys
    obtain ⟨byte, -, rfl⟩ := List.mem_map.mp hv
    cases hkeys
  | harray items ih =>
    rw [cborValueToJson, SmallObjects, Json.forall_objectKeys_array]
    rw [CborItem.tokens] at hmaps
    replace hmaps := fun count hcount => hmaps count (List.mem_cons_of_mem _ hcount)
    induction items with
    | nil =>
      intro v hv
      cases hv
    | cons item items ihs =>
      rw [itemsToJson]
      intro v hv
      rcases List.mem_cons.mp hv with rfl | hv
      · exact ih item List.mem_cons_self fun count hcount =>
          hmaps count (List.mem_append_left _ hcount)
      · exact ihs (fun w hw => ih w (List.mem_cons_of_mem _ hw))
          (fun count hcount => hmaps count (List.mem_append_right _ hcount)) v hv
  | hmap entries ih =>
    rw [CborItem.tokens] at hmaps
    have hlength := hmaps entries.length List.mem_cons_self
    replace hmaps := fun count hcount => hmaps count (List.mem_cons_of_mem _ hcount)
    have hentries : ∀ e ∈ entries, SmallObjects (cborValueToJson debug e.2) := by
      clear hlength
      induction entries with
      | nil =>
        intro e he
        cases he
      | cons entry entries ihs =>
        obtain ⟨key, value⟩ := entry
        intro e he
        rcases List.mem_cons.mp he with rfl | he
        · exact (ih (key, value) List.mem_cons_self).2 fun count hcount =>
            hmaps count (List.mem_append_right _ (List.mem_append_left _ hcount))
        · exact ihs (fun e he => ih e (List.mem_cons_of_mem _ he)) (fun count hcount =>
            hmaps count (List.mem_append_right _ (List.mem_append_right _ hcount))) e he
    obtain ⟨hle, hsmall⟩ := insertEntries_small debug hentries [] fun _ hm => by cases hm
    rw [cborValueToJson, SmallObjects, Json.forall_objectKeys_object, List.length_map]
    refine ⟨?_, hsmall⟩
    rw [List.length_nil] at hle
    omega
  | htag number inner ih =>
    rw [cborValueToJson]
    exact ih fun count hcount => hmaps count (List.mem_cons_of_mem _ hcount)
  | _ =>
    intro keys hkeys
    rw [cborValueToJson] at hkeys
    cases hkeys

theorem smallObjects_congr {v w : Json String SerdeNumber} (h : SameValue v w) :
    SmallObjects v ↔ SmallObjects w := by
  have hkeys := congrArg Json.objectKeys h
  rw [Json.objectKeys_mapNumbers, Json.objectKeys_mapNumbers] at hkeys
  rw [SmallObjects, SmallObjects, hkeys]

section

variable {fromReader : List UInt8 → Option CborItem} {nests : CborItem → Prop}

/-- **What is read begins the heads** that were written. -/
theorem read_iff (hreads : ReadsTokens fromReader nests) {v : Json String SerdeNumber}
    (hvalue : IsValue v) (hsafe : ∀ n ∈ v.numbers, IsSafe n) (item : CborItem) :
    fromReader (cborXEncodeJson v) = some item ↔
      nests item ∧ ∃ rest, (jsonToCborX v).tokens = item.tokens ++ rest :=
  hreads _ _ (writesAll_cborXEncode _ (sized_jsonToCborX v
    (fun n hn => ⟨hvalue.numbers n hn, hsafe n hn⟩) hvalue.lengths)) item

/-- **The round trip of a JSON value.**  With a parser of RFC 8949, a value whose integers have at
most 53 bits comes back, up to the representation of equal numbers, if and only if no object inside
has `2 ^ 16` members or more, and the parser has room for its nesting. -/
theorem cbor_round_trip (hreads : ReadsTokens fromReader nests) (debug : CborItem → String)
    {v : Json String SerdeNumber} (hvalue : IsValue v) (hsafe : ∀ n ∈ v.numbers, IsSafe n) :
    (∃ w, cborDecodeValue fromReader debug (cborXEncodeJson v) = some w ∧ SameValue w v) ↔
      SmallObjects v ∧ nests (jsonToCborX v).item := by
  constructor
  · rintro ⟨w, hdecoded, hsame⟩
    obtain ⟨item, hitem, rfl⟩ := Option.map_eq_some_iff.mp hdecoded
    obtain ⟨hnests, rest, htokens⟩ := (read_iff hreads hvalue hsafe item).mp hitem
    have hsmall : SmallObjects v := by
      rw [← smallObjects_congr hsame]
      refine smallObjects_cborValueToJson debug item fun count hcount => ?_
      refine CborXValue.map_lt_of_mem_tokens (jsonToCborX v) count ?_
      rw [htokens]
      exact List.mem_append_left _ hcount
    rw [CborXValue.tokens_item _ (smallMaps_jsonToCborX v hsmall)] at htokens
    rw [← List.append_nil (jsonToCborX v).item.tokens] at htokens
    obtain ⟨hsame, -⟩ := tokens_append_inj htokens
    exact ⟨hsmall, hsame ▸ hnests⟩
  · rintro ⟨hsmall, hnests⟩
    have hitem := (read_iff hreads hvalue hsafe (jsonToCborX v).item).mpr
      ⟨hnests, [], by
        rw [List.append_nil, CborXValue.tokens_item _ (smallMaps_jsonToCborX v hsmall)]⟩
    refine ⟨cborValueToJson debug (jsonToCborX v).item, by rw [cborDecodeValue, hitem]; rfl, ?_⟩
    exact sameValue_item debug v hvalue.distinctKeys fun n hn => ⟨hvalue.numbers n hn, hsafe n hn⟩

variable {members : List (String × Json String SerdeNumber)}

/-- **An object whose members fill the 16 bits** is read as one without any. -/
theorem read_wrapped_object (hreads : ReadsTokens fromReader nests) (debug : CborItem → String)
    (hvalue : IsValue (.object members)) (hsafe : ∀ n ∈ (Json.object members).numbers, IsSafe n)
    (hnests : nests (.map [])) (hlength : members.length % 2 ^ 16 = 0) :
    cborDecodeValue fromReader debug (cborXEncodeJson (.object members)) = some (.object []) := by
  have htokens : (jsonToCborX (.object members)).tokens
      = (CborItem.map []).tokens ++ CborXValue.pairTokens (membersToCborX members) := by
    rw [jsonToCborX, CborXValue.tokens, length_membersToCborX, hlength, CborItem.tokens]
    rfl
  rw [cborDecodeValue, (read_iff hreads hvalue hsafe (.map [])).mpr ⟨hnests, _, htokens⟩]
  rfl

theorem length_of_sameValue {members' : List (String × Json String SerdeNumber)}
    (h : SameValue (.object members) (.object members')) : members.length = members'.length := by
  have hkeys := congrArg Json.objectKeys h
  rw [Json.objectKeys_mapNumbers, Json.objectKeys_mapNumbers, Json.objectKeys,
    Json.objectKeys] at hkeys
  have hlength := congrArg List.length (List.cons.inj hkeys).1
  rwa [List.length_map, List.length_map] at hlength

end

/-- Numbers of each kind, nested. -/
def sampleValue : Json String SerdeNumber :=
  .object [("seq", .number (.posInt 4294967296)), ("score", .number (.float (.finite (1 / 2)))),
    ("tags", .array [.bool true, .number (.negInt (-7)), .string "a"]), ("none", .null)]

theorem sampleValue_isValue : IsValue sampleValue where
  distinctKeys := by decide
  numbers := by
    intro n hn
    simp only [sampleValue, Json.numbers, Json.memberNumbers, Json.itemNumbers, List.append_nil,
      List.nil_append, List.singleton_append, List.mem_cons, List.not_mem_nil, or_false] at hn
    rcases hn with rfl | rfl | rfl
    · exact (by decide : 4294967296 < 2 ^ 64)
    · exact ⟨1 / 2, rfl, by decide +kernel⟩
    · exact (by decide : -2 ^ 63 ≤ (-7 : ℤ) ∧ (-7 : ℤ) < 0)
  lengths := by
    simp only [sampleValue, Lengths, MemberLengths, ItemLengths, List.length_cons, List.length_nil]
    decide

theorem sampleValue_isSafe : ∀ n ∈ sampleValue.numbers, IsSafe n := by
  intro n hn
  simp only [sampleValue, Json.numbers, Json.memberNumbers, Json.itemNumbers, List.append_nil,
    List.nil_append, List.singleton_append, List.mem_cons, List.not_mem_nil, or_false] at hn
  rcases hn with rfl | rfl | rfl <;> rintro q ⟨⟩ hwhole
  · norm_num [MAX_SAFE_JSON_INTEGER]
  · norm_num at hwhole
  · norm_num [MAX_SAFE_JSON_INTEGER]

theorem cbor_round_trip_sample :
    ∃ w, cborDecodeValue readCbor (fun _ => "") (cborXEncodeJson sampleValue) = some w ∧
      SameValue w sampleValue :=
  (cbor_round_trip readsTokens_readCbor (fun _ => "") sampleValue_isValue
    sampleValue_isSafe).mpr ⟨by decide, trivial⟩

/-! ### A large object -/

/-- A member for each of the first letters behind the 16-bit ones. -/
def letterMembers (count : ℕ) : List (String × Json String SerdeNumber) :=
  (List.range count).map fun i => (String.singleton (Char.ofNat (65536 + i)), .null)

theorem length_letterMembers (count : ℕ) : (letterMembers count).length = count := by
  rw [letterMembers, List.length_map, List.length_range]

theorem nodup_letterMembers (hcount : count ≤ 65536) :
    ((letterMembers count).map Prod.fst).Nodup := by
  have hletter {i : ℕ} (hi : i < 65536) : (Char.ofNat (65536 + i)).toNat = 65536 + i := by
    have hvalid : (65536 + i).isValidChar := Or.inr (by omega)
    rw [Char.ofNat, dif_pos hvalid]
    rfl
  rw [letterMembers, List.map_map]
  refine List.Nodup.map_on ?_ List.nodup_range
  intro i hi j hj hsame
  rw [List.mem_range] at hi hj
  have hchar := congrArg Char.toNat (String.singleton_inj.mp hsame)
  rw [hletter (by omega), hletter (by omega)] at hchar
  omega

theorem memberLengths_letterMembers (count : ℕ) : MemberLengths (letterMembers count) := by
  have hall (letters : List ℕ) : MemberLengths (letters.map fun i =>
      (String.singleton (Char.ofNat (65536 + i)), .null)) := by
    induction letters with
    | nil => trivial
    | cons i letters ih =>
      have hsize : (textBytes (String.singleton (Char.ofNat (65536 + i)))).length
          = (Char.ofNat (65536 + i)).utf8Size := String.utf8ByteSize_singleton
      have hfour := Char.utf8Size_le_four (Char.ofNat (65536 + i))
      exact ⟨by omega, trivial, ih⟩
  exact hall _

theorem letterMembers_isValue (hcount : count ≤ 65536) :
    IsValue (.object (letterMembers count)) ∧
      (Json.object (letterMembers count)).numbers = [] := by
  have hnull : ∀ m ∈ letterMembers count, m.2 = .null := by
    intro m hm
    obtain ⟨i, -, rfl⟩ := List.mem_map.mp hm
    rfl
  have hnumbers : (Json.object (letterMembers count)).numbers = [] := by
    rw [Json.numbers, Json.memberNumbers_eq, List.flatMap_eq_nil_iff]
    intro m hm
    rw [hnull m hm]
    rfl
  refine ⟨⟨?_, ?_, ?_⟩, hnumbers⟩
  · rw [Json.distinctKeys_object]
    refine ⟨nodup_letterMembers hcount, fun m hm => ?_⟩
    rw [hnull m hm]
    rintro keys ⟨⟩
  · rw [hnumbers]
    rintro n ⟨⟩
  · rw [Lengths]
    exact memberLengths_letterMembers count

/-- An object of as many members as there are numbers of 16 bits. -/
def largeObject : Json String SerdeNumber := .object (letterMembers 65536)

/-- **A large object is lost**: it comes back without any member. -/
theorem large_object_lost :
    IsValue largeObject ∧ (∀ n ∈ largeObject.numbers, IsSafe n) ∧
      cborDecodeValue readCbor (fun _ => "") (cborXEncodeJson largeObject) = some (.object []) ∧
      ¬SameValue (.object []) largeObject := by
  obtain ⟨hvalue, hnumbers⟩ := letterMembers_isValue (Nat.le_refl 65536)
  have hsafe : ∀ n ∈ largeObject.numbers, IsSafe n := by
    rw [largeObject, hnumbers]
    exact fun n hn => nomatch hn
  have hlength := length_letterMembers 65536
  refine ⟨hvalue, hsafe, ?_, fun hsame => ?_⟩
  · exact read_wrapped_object readsTokens_readCbor _ hvalue hsafe trivial (by omega)
  · rw [largeObject] at hsame
    have hsame := length_of_sameValue hsame
    rw [hlength] at hsame
    cases hsame

end QuadraA.CoreRs
