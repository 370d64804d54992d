import Mathlib.Data.List.Lex
import QuadraA.Lib.JsNumber
import QuadraA.Lib.Json
import QuadraA.Lib.Utf8

/-!
# Canonical JSON in two languages

`canonical-json.ts` and `protocol.rs`: the text of a JSON value that is signed, with the members of
each object sorted by their keys.

* `canonical_agrees_iff` — the two texts of a value are equal if and only if the two orders agree on
  the keys of every object inside;
* `canonical_differs` — an object with the keys `9` and `10`, and one with a key that has a
  surrogate pair.

A JSON value has distinct keys, and strings without lone surrogates.  The writer of `serde_json` is
a parameter.
-/

namespace QuadraA.Protocol

open QuadraA.Lib

/-! ### JavaScript -/

/-- The UTF-16 code units of a string. -/
def codeUnits (s : String) : List ℕ := s.toList.flatMap utf16Units

/-- The index that a key stands for: a number below `2 ^ 32 - 1` in its only spelling. -/
def arrayIndex? (key : String) : Option ℕ :=
  let index := Nat.ofDigitChars 10 key.toList 0
  if Nat.toDigits 10 index = key.toList ∧ index < 2 ^ 32 - 1 then some index else none

def isArrayIndex (key : String) : Bool := (arrayIndex? key).isSome

/-- Two array indices in their order. -/
def indexLe (key key' : String) : Bool :=
  decide ((arrayIndex? key).getD 0 ≤ (arrayIndex? key').getD 0)

/-- **The order of the properties of an object**: the array indices in their order, then the other
keys in the order of their creation. -/
def ownPropertyOrder : Arrangement String where
  arrange members :=
    (members.filter fun m => isArrayIndex m.1).mergeSort (fun m m' => indexLe m.1 m'.1)
      ++ members.filter fun m => !isArrayIndex m.1
  perm members :=
    ((List.mergeSort_perm _ _).append_right _).trans (List.filter_append_perm _ members)
  natural {α β} f members := by
    have hsort := @List.map_mergeSort (String × α) (String × β) (fun m m' => indexLe m.1 m'.1)
      (fun m m' => indexLe m.1 m'.1) (Prod.map id f) (members.filter fun m => isArrayIndex m.1)
      fun _ _ _ _ => rfl
    rw [List.map_append, hsort, List.filter_map, List.filter_map]
    rfl

/-- `left.0 <= right.0`, as the comparison of the sort has it: not greater. -/
def codeUnitsLe (key key' : String) : Bool := !decide (codeUnits key' < codeUnits key)

/-- Sorted by the code units of the keys. -/
def codeUnitOrder : Arrangement String := .sortBy codeUnitsLe

/-- `normalizeCanonicalJsonValue`: `Object.entries`, the sort, and `Object.fromEntries`.  The sort
looks at the keys only, so the values may come first (`Arrangement.natural`); a JSON value has no
`undefined` entry. -/
def normalizeCanonicalJsonValue (value : Json String ℤ) : Json String ℤ :=
  value.rearrange (ownPropertyOrder.andThen codeUnitOrder)

/-- `JSON.stringify` of a value with integers of no more than 21 digits. -/
def jsonStringify (value : Json String ℤ) : String :=
  String.ofList ((value.rearrange ownPropertyOrder).compact integerTexts)

def stringifyCanonicalJson (value : Json String ℤ) : String :=
  jsonStringify (normalizeCanonicalJsonValue value)

/-! ### Rust -/

/-- A number of `serde_json`. -/
inductive SerdeNumber where
  | posInt (n : ℕ)
  | negInt (n : ℤ)
  | float (value : JsNumber)

def SerdeNumber.asF64 : SerdeNumber → JsNumber
  | .posInt n => .ofRat n
  | .negInt n => .ofRat n
  | .float value => value

def MAX_SAFE_JSON_INTEGER : ℚ := 9007199254740991

/-- `normalize_json_number`. -/
def normalizeJsonNumber (number : SerdeNumber) : SerdeNumber :=
  match number.asF64 with
  | .finite float =>
      if Int.fract float ≠ 0 ∨ MAX_SAFE_JSON_INTEGER < |float| then number
      else if 0 ≤ float then .posInt ⌊float⌋.toNat
      else .negInt ⌊float⌋
  | _ => number

/-- The bytes of a string. -/
def utf8Bytes (s : String) : List ℕ := s.toUTF8.data.toList.map UInt8.toNat

/-- `left.0.cmp(&right.0)` is not greater. -/
def utf8Le (key key' : String) : Bool := !decide (utf8Bytes key' < utf8Bytes key)

/-- Sorted by the bytes of the keys. -/
def utf8Order : Arrangement String := .sortBy utf8Le

/-- `canonicalize_json_value`; the map keeps the order of insertion. -/
def canonicalizeJsonValue (value : Json String SerdeNumber) : Json String SerdeNumber :=
  (value.mapNumbers normalizeJsonNumber).rearrange utf8Order

/-- `canonical_json_string` behind `to_value`. -/
def canonicalJsonString (toString : Json String SerdeNumber → String)
    (value : Json String SerdeNumber) : String :=
  toString (canonicalizeJsonValue value)

/-- The text of a number, by the texts of the floats. -/
def SerdeNumber.text (floatText : JsNumber → List Char) : SerdeNumber → List Char
  | .posInt n => decimal n
  | .negInt n => decimal n
  | .float value => floatText value

/-- **The writer of `serde_json`** writes compact JSON, integers in decimal digits. -/
def WritesCompact (toString : Json String SerdeNumber → String) : Prop :=
  ∃ floatText, ∀ value, toString value
    = String.ofList (value.compact ⟨quote, SerdeNumber.text floatText⟩)

/-! ### Integers -/

/-- A number that is an integer of at most 53 bits, in any representation. -/
def SerdeNumber.IsSafeInteger : SerdeNumber → Prop
  | .posInt n => (n : ℚ) ≤ MAX_SAFE_JSON_INTEGER
  | .negInt n => |(n : ℚ)| ≤ MAX_SAFE_JSON_INTEGER
  | .float (.finite q) => Int.fract q = 0 ∧ |q| ≤ MAX_SAFE_JSON_INTEGER
  | .float _ => False

/-- The integer that a number is. -/
def SerdeNumber.toInt : SerdeNumber → ℤ
  | .posInt n => n
  | .negInt n => n
  | .float (.finite q) => ⌊q⌋
  | .float _ => 0

/-- What a safe integer reads as. -/
theorem asF64_of_safe {number : SerdeNumber} (h : number.IsSafeInteger) :
    number.asF64 = .finite number.toInt ∧ |(number.toInt : ℚ)| ≤ MAX_SAFE_JSON_INTEGER := by
  have hround : ∀ m : ℤ, |(m : ℚ)| ≤ MAX_SAFE_JSON_INTEGER → JsNumber.ofRat m = .finite m := by
    intro m hm
    refine JsNumber.ofRat_int ?_
    rw [MAX_SAFE_JSON_INTEGER] at hm
    have hcast : ((|m| : ℤ) : ℚ) ≤ (9007199254740991 : ℤ) := by
      rw [Int.cast_abs]
      exact_mod_cast hm
    have hint := Int.cast_le.mp hcast
    omega
  cases number with
  | posInt n =>
    have hsafe : |((n : ℤ) : ℚ)| ≤ MAX_SAFE_JSON_INTEGER := by
      rw [Int.cast_natCast, abs_of_nonneg (Nat.cast_nonneg n)]
      exact h
    have hread := hround n hsafe
    rw [Int.cast_natCast] at hread
    exact ⟨hread, hsafe⟩
  | negInt n => exact ⟨hround n h, h⟩
  | float value =>
    cases value with
    | finite q =>
      obtain ⟨hfract, hsafe⟩ := h
      have hfloor : ((⌊q⌋ : ℤ) : ℚ) = q := by
        have hsub := Int.floor_add_fract q
        rwa [hfract, add_zero] at hsub
      show JsNumber.finite q = .finite ((⌊q⌋ : ℤ) : ℚ) ∧ |((⌊q⌋ : ℤ) : ℚ)| ≤ MAX_SAFE_JSON_INTEGER
      rw [hfloor]
      exact ⟨rfl, hsafe⟩
    | nan => exact h.elim
    | infinity negative => exact h.elim

/-- **A safe integer is written in decimal digits**, whatever its representation. -/
theorem text_normalize {number : SerdeNumber} (h : number.IsSafeInteger)
    (floatText : JsNumber → List Char) :
    (normalizeJsonNumber number).text floatText = decimal number.toInt := by
  obtain ⟨hread, hsafe⟩ := asF64_of_safe h
  have hwhole : ¬(Int.fract (number.toInt : ℚ) ≠ 0 ∨
      MAX_SAFE_JSON_INTEGER < |(number.toInt : ℚ)|) := by
    rw [not_or, not_not, not_lt]
    exact ⟨Int.fract_intCast _, hsafe⟩
  rw [normalizeJsonNumber, hread]
  dsimp only
  rw [if_neg hwhole, Int.floor_intCast]
  split
  · rename_i hnonneg
    have hint : 0 ≤ number.toInt := by exact_mod_cast hnonneg
    show decimal ((number.toInt.toNat : ℕ) : ℤ) = _
    rw [Int.toNat_of_nonneg hint]
  · rfl

/-! ### The two orders of keys -/

/-- A key that comes before another one in the canonical text of JavaScript. -/
def jsBefore (key key' : String) : Prop :=
  match arrayIndex? key, arrayIndex? key' with
  | some index, some index' => index < index'
  | some _, none => True
  | none, some _ => False
  | none, none => codeUnits key < codeUnits key'

/-- A key that comes before another one in the canonical text of Rust. -/
def rustBefore (key key' : String) : Prop := utf8Bytes key < utf8Bytes key'

instance : DecidableRel jsBefore := fun key key' => by
  rw [jsBefore]
  split <;> infer_instance

instance : DecidableRel rustBefore := fun key key' =>
  inferInstanceAs (Decidable (utf8Bytes key < utf8Bytes key'))

/-- **The orders agree** on the keys of an object. -/
def KeysAgree (keys : List String) : Prop :=
  ∀ key ∈ keys, ∀ key' ∈ keys, jsBefore key key' ↔ rustBefore key key'

instance (keys : List String) : Decidable (KeysAgree keys) :=
  inferInstanceAs (Decidable (∀ key ∈ keys, ∀ key' ∈ keys, jsBefore key key' ↔ rustBefore key key'))

theorem codeUnitsLe_iff (key key' : String) :
    codeUnitsLe key key' = true ↔ codeUnits key ≤ codeUnits key' := by
  rw [codeUnitsLe, Bool.not_eq_true', decide_eq_false_iff_not, not_lt]

theorem utf8Le_iff (key key' : String) :
    utf8Le key key' = true ↔ utf8Bytes key ≤ utf8Bytes key' := by
  rw [utf8Le, Bool.not_eq_true', decide_eq_false_iff_not, not_lt]

theorem utf8Bytes_injective {key key' : String} (h : utf8Bytes key = utf8Bytes key') :
    key = key' := by
  have hbytes := List.map_injective_iff.mpr (fun _ _ => UInt8.toNat_inj.mp) h
  exact String.toByteArray_inj.mp (ByteArray.ext (Array.toList_inj.mp hbytes))

theorem codeUnits_injective {key key' : String} (h : codeUnits key = codeUnits key') :
    key = key' := by
  have hlists : ∀ l l' : List Char, l.flatMap utf16Units = l'.flatMap utf16Units → l = l' := by
    have hne : ∀ c, utf16Units c ≠ [] := by
      intro c
      rw [utf16Units]
      split <;> exact List.cons_ne_nil _ _
    intro l
    induction l with
    | nil =>
      intro l' h
      cases l' with
      | nil => rfl
      | cons c' l' =>
        rw [List.flatMap_cons] at h
        exact absurd (List.append_eq_nil_iff.mp h.symm).1 (hne c')
    | cons c l ih =>
      intro l' h
      cases l' with
      | nil =>
        rw [List.flatMap_cons] at h
        exact absurd (List.append_eq_nil_iff.mp h).1 (hne c)
      | cons c' l' =>
        rw [List.flatMap_cons, List.flatMap_cons] at h
        obtain ⟨rfl, hrest⟩ := utf16Units_append_inj h
        rw [ih l' hrest]
  exact String.toList_inj.mp (hlists _ _ h)

theorem arrayIndex?_eq_some {key : String} {index : ℕ} (h : arrayIndex? key = some index) :
    key.toList = Nat.toDigits 10 index := by
  rw [arrayIndex?] at h
  split at h
  · rename_i hindex
    rw [← Option.some.inj h]
    exact hindex.1.symm
  · cases h

theorem jsBefore_asymm (key key' : String) (h : jsBefore key key') : ¬jsBefore key' key := by
  rw [jsBefore] at h ⊢
  cases hindex : arrayIndex? key with
  | some index =>
    cases hindex' : arrayIndex? key' with
    | some index' =>
      rw [hindex, hindex'] at h
      exact Nat.lt_asymm h
    | none => exact id
  | none =>
    cases hindex' : arrayIndex? key' with
    | some index' =>
      rw [hindex, hindex'] at h
      exact h.elim
    | none =>
      rw [hindex, hindex'] at h
      exact lt_asymm h

theorem rustBefore_asymm (key key' : String) (h : rustBefore key key') : ¬rustBefore key' key :=
  lt_asymm h

/-- The order of the keys in the canonical text of JavaScript. -/
def jsOrder : Arrangement String :=
  (ownPropertyOrder.andThen codeUnitOrder).andThen ownPropertyOrder

theorem keys_ownPropertyOrder (keys : List String) :
    ownPropertyOrder.{0}.keys keys
      = (keys.filter isArrayIndex).mergeSort indexLe
        ++ keys.filter fun key => !isArrayIndex key := by
  have hsort := @List.map_mergeSort (String × PUnit) String (fun m m' => indexLe m.1 m'.1) indexLe
    Prod.fst ((keys.map fun key => (key, PUnit.unit)).filter fun m => isArrayIndex m.1)
    fun _ _ _ _ => rfl
  have hfst : ∀ l : List String, (l.map fun key => (key, PUnit.unit)).map Prod.fst = l := by
    intro l
    rw [List.map_map]
    exact List.map_id l
  rw [Arrangement.keys, ownPropertyOrder, List.map_append, hsort, List.filter_map, List.filter_map,
    hfst, hfst]
  rfl

theorem jsBefore_of_index {key key' : String} (hkey : isArrayIndex key = true)
    (hkey' : isArrayIndex key' = true)
    (h : (arrayIndex? key).getD 0 < (arrayIndex? key').getD 0) : jsBefore key key' := by
  obtain ⟨index, hindex⟩ := Option.isSome_iff_exists.mp hkey
  obtain ⟨index', hindex'⟩ := Option.isSome_iff_exists.mp hkey'
  rw [jsBefore, hindex, hindex']
  rwa [hindex, hindex'] at h

theorem jsBefore_of_name {key key' : String} (hkey : isArrayIndex key = false)
    (hkey' : isArrayIndex key' = false) (h : codeUnits key < codeUnits key') :
    jsBefore key key' := by
  rw [isArrayIndex, Option.isSome_eq_false_iff, Option.isNone_iff_eq_none] at hkey hkey'
  rw [jsBefore, hkey, hkey']
  exact h

theorem jsBefore_of_index_of_name {key key' : String} (hkey : isArrayIndex key = true)
    (hkey' : isArrayIndex key' = false) : jsBefore key key' := by
  obtain ⟨index, hindex⟩ := Option.isSome_iff_exists.mp hkey
  rw [isArrayIndex, Option.isSome_eq_false_iff, Option.isNone_iff_eq_none] at hkey'
  rw [jsBefore, hindex, hkey']
  trivial

theorem index_injective {key key' : String} (hkey : isArrayIndex key = true)
    (hkey' : isArrayIndex key' = true)
    (h : (arrayIndex? key).getD 0 = (arrayIndex? key').getD 0) : key = key' := by
  obtain ⟨index, hindex⟩ := Option.isSome_iff_exists.mp hkey
  obtain ⟨index', hindex'⟩ := Option.isSome_iff_exists.mp hkey'
  rw [hindex, hindex', Option.getD_some, Option.getD_some] at h
  rw [← String.toList_inj, arrayIndex?_eq_some hindex, arrayIndex?_eq_some hindex', h]

/-- **The keys of an object** of JavaScript are in their order. -/
theorem pairwise_jsOrder {keys : List String} (hnodup : keys.Nodup) :
    (jsOrder.{0}.keys keys).Pairwise jsBefore := by
  rw [jsOrder, Arrangement.keys_andThen, Arrangement.keys_andThen, codeUnitOrder,
    Arrangement.keys_sortBy, keys_ownPropertyOrder]
  have hperm := ownPropertyOrder.{0}.keys_perm keys
  have hsorted : ((ownPropertyOrder.{0}.keys keys).mergeSort codeUnitsLe).Pairwise
      fun key key' => codeUnits key < codeUnits key' := by
    refine pairwise_mergeSort codeUnits codeUnitsLe_iff ?_
    exact (hperm.nodup_iff.mpr hnodup).map fun _ _ => codeUnits_injective
  generalize (ownPropertyOrder.{0}.keys keys).mergeSort codeUnitsLe = sorted at hsorted
  have hdistinct : sorted.Nodup := hsorted.imp fun h habsurd => by
    rw [habsurd] at h
    exact lt_irrefl _ h
  have hname : ∀ {key}, key ∈ sorted.filter (fun key => !isArrayIndex key) →
      isArrayIndex key = false := by
    intro key hmem
    have hneg := (List.mem_filter.mp hmem).2
    rwa [Bool.not_eq_true'] at hneg
  have hindex : ∀ {key}, key ∈ (sorted.filter isArrayIndex).mergeSort indexLe →
      isArrayIndex key = true := by
    intro key hmem
    exact (List.mem_filter.mp ((List.mergeSort_perm _ _).mem_iff.mp hmem)).2
  rw [List.pairwise_append]
  refine ⟨?_, ?_, fun key hkey key' hkey' => jsBefore_of_index_of_name (hindex hkey) (hname hkey')⟩
  · have hindices :
        ((sorted.filter isArrayIndex).map fun key => (arrayIndex? key).getD 0).Nodup := by
      refine (hdistinct.filter _).map_on fun key hkey key' hkey' => ?_
      exact index_injective (List.mem_filter.mp hkey).2 (List.mem_filter.mp hkey').2
    refine (pairwise_mergeSort (fun key => (arrayIndex? key).getD 0) (fun key key' => ?_)
      hindices).imp_of_mem fun hkey hkey' h => jsBefore_of_index (hindex hkey) (hindex hkey') h
    rw [indexLe, decide_eq_true_iff]
  · exact (hsorted.filter _).imp_of_mem fun hkey hkey' h =>
      jsBefore_of_name (hname hkey) (hname hkey') h

theorem pairwise_utf8Order {keys : List String} (hnodup : keys.Nodup) :
    (utf8Order.{0}.keys keys).Pairwise rustBefore := by
  rw [utf8Order, Arrangement.keys_sortBy]
  exact pairwise_mergeSort utf8Bytes utf8Le_iff (hnodup.map fun _ _ => utf8Bytes_injective)

/-- **The two orders** are one on the keys of an object if and only if they agree on each two. -/
theorem keys_eq_iff {keys : List String} (hnodup : keys.Nodup) :
    jsOrder.{0}.keys keys = utf8Order.{0}.keys keys ↔ KeysAgree keys :=
  eq_iff_orders_agree jsBefore_asymm rustBefore_asymm (jsOrder.keys_perm keys)
    (utf8Order.keys_perm keys) (pairwise_jsOrder hnodup) (pairwise_utf8Order hnodup)

/-! ### The two texts -/

theorem stringifyCanonicalJson_eq (value : Json String ℤ) :
    stringifyCanonicalJson value
      = String.ofList ((value.rearrange jsOrder).compact integerTexts) := by
  rw [stringifyCanonicalJson, jsonStringify, normalizeCanonicalJsonValue, Json.rearrange_rearrange]
  rfl

/-- **The text of Rust** is the one of the integers, with the keys in the order of their bytes. -/
theorem canonicalJsonString_eq {toString : Json String SerdeNumber → String}
    (hwrites : WritesCompact toString) {value : Json String SerdeNumber}
    (hsafe : ∀ n ∈ value.numbers, n.IsSafeInteger) :
    canonicalJsonString toString value
      = String.ofList (((value.mapNumbers SerdeNumber.toInt).rearrange utf8Order).compact
          integerTexts) := by
  obtain ⟨floatText, htext⟩ := hwrites
  rw [canonicalJsonString, htext, canonicalizeJsonValue, ← Json.mapNumbers_rearrange,
    ← Json.mapNumbers_rearrange]
  have hordered := Json.forall_numbers_rearrange utf8Order hsafe
  have htexts : ∀ n ∈ (value.rearrange utf8Order).numbers,
      (normalizeJsonNumber n).text floatText = decimal n.toInt :=
    fun n hmem => text_normalize (hordered n hmem) floatText
  rw [@Json.compact_mapNumbers String SerdeNumber SerdeNumber ⟨quote, fun n => decimal n.toInt⟩ _
      ⟨quote, SerdeNumber.text floatText⟩ normalizeJsonNumber rfl htexts,
    @Json.compact_mapNumbers String SerdeNumber ℤ ⟨quote, fun n => decimal n.toInt⟩ _
      integerTexts SerdeNumber.toInt rfl fun _ _ => rfl]

section

variable {toString : Json String SerdeNumber → String} {value : Json String SerdeNumber}

/-- The texts are equal when the values are put in one order. -/
theorem texts_eq_iff (hwrites : WritesCompact toString)
    (hsafe : ∀ n ∈ value.numbers, n.IsSafeInteger)
    (hkeys : ∀ keys ∈ value.objectKeys, keys.Nodup) :
    stringifyCanonicalJson (value.mapNumbers SerdeNumber.toInt) = canonicalJsonString toString value
      ↔ ∀ keys ∈ value.objectKeys, jsOrder.{0}.keys keys = utf8Order.{0}.keys keys := by
  have hsame := Json.objectKeys_mapNumbers SerdeNumber.toInt value
  have horders := @Json.rearrange_eq_iff String ℤ (value.mapNumbers SerdeNumber.toInt) jsOrder
    utf8Order (by rwa [hsame])
  rw [hsame] at horders
  rw [stringifyCanonicalJson_eq, canonicalJsonString_eq hwrites hsafe, String.ofList_inj, ← horders]
  exact ⟨Json.compact_injective unambiguous_integerTexts, fun h => by rw [h]⟩

/-- Keys on which the orders differ make texts that differ. -/
theorem texts_ne {keys : List String} (hwrites : WritesCompact toString)
    (hsafe : ∀ n ∈ value.numbers, n.IsSafeInteger)
    (hkeys : ∀ keys ∈ value.objectKeys, keys.Nodup) (hmem : keys ∈ value.objectKeys)
    (hdiffer : ¬KeysAgree keys) :
    stringifyCanonicalJson (value.mapNumbers SerdeNumber.toInt)
      ≠ canonicalJsonString toString value := by
  intro heq
  have hsame := (texts_eq_iff hwrites hsafe hkeys).mp heq keys hmem
  exact hdiffer ((keys_eq_iff (hkeys keys hmem)).mp hsame)

end

/-- **Canonical JSON agrees** on a value of safe integers if and only if the two orders agree on the
keys of every object inside. -/
theorem canonical_agrees_iff (toString : Json String SerdeNumber → String)
    (value : Json String SerdeNumber) (hwrites : WritesCompact toString)
    (hsafe : ∀ n ∈ value.numbers, n.IsSafeInteger)
    (hkeys : ∀ keys ∈ value.objectKeys, keys.Nodup) :
    stringifyCanonicalJson (value.mapNumbers SerdeNumber.toInt) = canonicalJsonString toString value
      ↔ ∀ keys ∈ value.objectKeys, KeysAgree keys := by
  rw [texts_eq_iff hwrites hsafe hkeys]
  exact forall₂_congr fun keys hmem => keys_eq_iff (hkeys keys hmem)

/-- A compact writer; the values of the samples have no fractions. -/
def sampleWriter (value : Json String SerdeNumber) : String :=
  String.ofList (value.compact ⟨quote, SerdeNumber.text fun _ => []⟩)

theorem sampleWriter_compact : WritesCompact sampleWriter := ⟨_, fun _ => rfl⟩

/-- An unsigned envelope in short. -/
def envelopeValue : Json String SerdeNumber :=
  .object [("to", .string "did:agent:zBob"), ("from", .string "did:agent:zAlice"),
    ("payload", .object [("text", .string "hi")]), ("timestamp", .number (.posInt 5))]

/-- **An envelope with plain keys** has one canonical text. -/
theorem canonical_agrees_sample :
    stringifyCanonicalJson (envelopeValue.mapNumbers SerdeNumber.toInt)
      = canonicalJsonString sampleWriter envelopeValue :=
  (canonical_agrees_iff sampleWriter envelopeValue sampleWriter_compact
    (by
      intro n hn
      obtain rfl := List.mem_singleton.mp (show n ∈ [.posInt 5] from hn)
      show ((5 : ℕ) : ℚ) ≤ MAX_SAFE_JSON_INTEGER
      norm_num [MAX_SAFE_JSON_INTEGER])
    (by decide +kernel)).mpr (by decide +kernel)

/-- Two keys that are array indices. -/
def indexValue : Json String SerdeNumber := .object [("9", .null), ("10", .null)]

/-- A key with a surrogate pair, and one behind the surrogates. -/
def pairValue : Json String SerdeNumber := .object [("\uff5e", .null), ("😀", .null)]

/-- **Canonical texts differ**: `9` and `10` are array indices, and the first code unit of a
surrogate pair is below `0xff5e`. -/
theorem canonical_differs :
    stringifyCanonicalJson (indexValue.mapNumbers SerdeNumber.toInt)
      ≠ canonicalJsonString sampleWriter indexValue ∧
    stringifyCanonicalJson (pairValue.mapNumbers SerdeNumber.toInt)
      ≠ canonicalJsonString sampleWriter pairValue := by
  refine ⟨texts_ne sampleWriter_compact ?_ (by decide +kernel) (List.mem_singleton_self _) ?_,
    texts_ne sampleWriter_compact ?_ (by decide +kernel) (List.mem_singleton_self _) ?_⟩
  · intro n hn
    cases hn
  · decide +kernel
  · intro n hn
    cases hn
  · decide +kernel

end QuadraA.Protocol
