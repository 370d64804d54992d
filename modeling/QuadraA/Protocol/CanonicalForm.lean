import QuadraA.Lib.JsonOrder
import QuadraA.Lib.NumberText
import QuadraA.Lib.Utf16

/-!
# Canonical JSON as a canonical form

`canonical-json.ts` over all the values that it takes: strings of any code units, any finite
numbers, and objects with `undefined` in their fields.

* `JsonLike` — such values, and `IsJsonLike`, with `undefined` in fields only;
* `canonical_form` — two values have one text exactly when they are equal up to the order of keys
  and to fields that are `undefined`.

The digits of a number are those of any engine.  Zero has no sign here, as its text has none.
-/

namespace QuadraA.Protocol

open QuadraA.Lib

/-- A value of JSON, with `none` among the numbers for `undefined`. -/
abbrev JsonLike := Json JsString (Option JsFinite)

namespace JsonLike

/-! ### The values -/

def undefined : JsonLike := .number none

/-- Without the fields that are `undefined`, at any depth. -/
def withoutUndefined (value : JsonLike) : JsonLike := value.dropAbsent Option.isNone

/-- **A JSON-like value**: `undefined` is the value of fields only, and keys are distinct. -/
structure IsJsonLike (value : JsonLike) : Prop where
  fields : ∀ n ∈ value.withoutUndefined.numbers, n.isNone = false
  distinctKeys : value.DistinctKeys

/-! ### The order of properties -/

/-- The index that a key stands for: a number below `2 ^ 32 - 1` in its only spelling. -/
def arrayIndex? (key : JsString) : Option ℕ :=
  let index := Nat.ofDigitChars 10 (key.map fun unit => Char.ofNat unit.val) 0
  if key = (Nat.toDigits 10 index).map (fun digit => Fin.ofNat 65536 digit.toNat)
    ∧ index < 2 ^ 32 - 1 then some index else none

def isArrayIndex (key : JsString) : Bool := (arrayIndex? key).isSome

/-- Two array indices in their order. -/
def indexLe (key key' : JsString) : Bool :=
  decide ((arrayIndex? key).getD 0 ≤ (arrayIndex? key').getD 0)

/-- **The order of the properties of an object**: the array indices in their order, then the other
keys in the order of their creation. -/
def ownPropertyOrder : Arrangement JsString where
  arrange members :=
    (members.filter fun m => isArrayIndex m.1).mergeSort (fun m m' => indexLe m.1 m'.1)
      ++ members.filter fun m => !isArrayIndex m.1
  perm members :=
    ((List.mergeSort_perm _ _).append_right _).trans (List.filter_append_perm _ members)
  natural {α β} f members := by
    have hsort := @List.map_mergeSort (JsString × α) (JsString × β)
      (fun m m' => indexLe m.1 m'.1) (fun m m' => indexLe m.1 m'.1) (Prod.map id f)
      (members.filter fun m => isArrayIndex m.1) fun _ _ _ _ => rfl
    rw [List.map_append, hsort, List.filter_map, List.filter_map]
    rfl

/-- `leftKey < rightKey ? -1 : leftKey > rightKey ? 1 : 0` is not positive. -/
def codeUnitsLe (key key' : JsString) : Bool := !decide (key' < key)

/-- Sorted by the code units of the keys. -/
def codeUnitOrder : Arrangement JsString := .sortBy codeUnitsLe

/-! ### `canonical-json.ts` -/

/-- `Object.entries`, without those that are `undefined`, sorted, and `Object.fromEntries`.  The
filter and the sort do not look into the values, so these may be normalized before or after. -/
def normalizeCanonicalJsonValue (value : JsonLike) : JsonLike :=
  (withoutUndefined (value.rearrange ownPropertyOrder)).rearrange codeUnitOrder

variable (choice : DigitChoice)

/-- What `JSON.stringify` writes; an `undefined` item of an array becomes `null`. -/
def texts : JsonTexts JsString (Option JsFinite) where
  string := quoteUnits
  number
    | none => ['n', 'u', 'l', 'l']
    | some n => numberToString choice n

/-- `JSON.stringify`: of `undefined`, there is no text. -/
def jsonStringify (value : JsonLike) : Option (List Char) :=
  if value.isAbsent Option.isNone then none
  else some ((withoutUndefined (value.rearrange ownPropertyOrder)).compact (texts choice))

def stringifyCanonicalJson (value : JsonLike) : Option (List Char) :=
  jsonStringify choice (normalizeCanonicalJsonValue value)

/-- `new TextEncoder().encode(...)`, of `undefined` as of nothing. -/
def textEncode (text : Option (List Char)) : List ℕ := encodeUtf8 (text.getD [])

def encodeCanonicalJson (value : JsonLike) : List ℕ :=
  textEncode (stringifyCanonicalJson choice value)

def encodeLegacyJson (value : JsonLike) : List ℕ := textEncode (jsonStringify choice value)

def encodeJsonSignaturePayloads (value : JsonLike) : List (List ℕ) :=
  let canonical := encodeCanonicalJson choice value
  let legacy := encodeLegacyJson choice value
  if canonical = legacy then [canonical] else [canonical, legacy]

/-! ### The text of a value -/

/-- What is written of a value without `undefined`. -/
def definedTexts : JsonTexts JsString JsFinite := ⟨quoteUnits, numberToString choice⟩

theorem unambiguous_definedTexts : (definedTexts choice).Unambiguous where
  string_head _ := ⟨_, rfl⟩
  number_head := head_numberToString choice
  string _ _ _ _ := quoteUnits_append_inj
  number _ _ _ _ := numberToString_append_inj choice

theorem codeUnitsLe_iff (key key' : JsString) : codeUnitsLe key key' = true ↔ key ≤ key' := by
  rw [codeUnitsLe, Bool.not_eq_true', decide_eq_false_iff_not, not_lt]

theorem codeUnitOrder_ignoresOrder : codeUnitOrder.IgnoresOrder :=
  Arrangement.ignoresOrder_sortBy codeUnitsLe_iff

/-- The order of the fields in a canonical text. -/
def canonicalOrder : Arrangement JsString := codeUnitOrder.andThen ownPropertyOrder

theorem canonicalOrder_ignoresOrder : canonicalOrder.IgnoresOrder :=
  codeUnitOrder_ignoresOrder.andThen ownPropertyOrder

variable {u v : JsonLike}

/-- A value without `undefined` has a text. -/
theorem jsonStringify_of_defined (h : ∀ n ∈ v.numbers, n.isNone = false) :
    jsonStringify choice v = some ((v.rearrange ownPropertyOrder).compact (texts choice)) := by
  have hpresent : v.isAbsent Option.isNone = false := by
    cases v with
    | number n => exact h n (List.mem_singleton_self n)
    | _ => rfl
  rw [jsonStringify, hpresent, if_neg Bool.false_ne_true, withoutUndefined,
    Json.dropAbsent_eq_self (Json.forall_numbers_rearrange ownPropertyOrder h)]

/-- A value without `undefined` is one over the finite numbers, with the same text. -/
theorem exists_defined (h : ∀ n ∈ v.numbers, n.isNone = false) :
    ∃ w : Json JsString JsFinite, w.mapNumbers some = v ∧
      v.compact (texts choice) = w.compact (definedTexts choice) := by
  obtain ⟨w, rfl⟩ := Json.exists_mapNumbers (f := some) (v := v) fun n hn =>
    ⟨n.get (Option.isSome_iff_ne_none.mpr fun hnone => by
      have hdefined := h n hn
      rw [hnone] at hdefined
      cases hdefined), Option.some_get _⟩
  have htexts : (w.mapNumbers some).compact (texts choice) = w.compact (definedTexts choice) :=
    Json.compact_mapNumbers rfl fun _ _ => rfl
  exact ⟨w, rfl, htexts⟩

/-- **The canonical text** is that of the value without its `undefined` fields, in one order. -/
theorem stringifyCanonicalJson_eq (hv : IsJsonLike v) :
    stringifyCanonicalJson choice v
      = some ((v.withoutUndefined.rearrange canonicalOrder).compact (texts choice)) := by
  have hnormal : normalizeCanonicalJsonValue v = v.withoutUndefined.rearrange codeUnitOrder :=
    Json.rearrange_dropAbsent_rearrange codeUnitOrder_ignoresOrder ownPropertyOrder hv.distinctKeys
  have hdefined := Json.forall_numbers_rearrange codeUnitOrder hv.fields
  rw [stringifyCanonicalJson, hnormal, jsonStringify_of_defined choice hdefined,
    Json.rearrange_rearrange]
  rfl

/-- **Two values have one canonical text** exactly when they are equal up to the order of the keys
of their objects, at any depth, and to fields that are `undefined`. -/
theorem canonical_form (choice : DigitChoice) (u v : JsonLike) (hu : IsJsonLike u)
    (hv : IsJsonLike v) :
    stringifyCanonicalJson choice u = stringifyCanonicalJson choice v ↔
      Json.SameMembers u.withoutUndefined v.withoutUndefined := by
  rw [stringifyCanonicalJson_eq choice hu, stringifyCanonicalJson_eq choice hv, Option.some.injEq,
    show Json.SameMembers u.withoutUndefined v.withoutUndefined ↔ _ from
      (Json.rearrange_eq_iff_sameMembers canonicalOrder_ignoresOrder hu.distinctKeys.dropAbsent
        hv.distinctKeys.dropAbsent).symm]
  constructor
  · intro htext
    -- the texts are those of values over the finite numbers, which they determine
    obtain ⟨w, hw, hwtext⟩ := exists_defined choice
      (Json.forall_numbers_rearrange canonicalOrder hu.fields)
    obtain ⟨w', hw', hwtext'⟩ := exists_defined choice
      (Json.forall_numbers_rearrange canonicalOrder hv.fields)
    rw [hwtext, hwtext'] at htext
    obtain rfl := Json.compact_injective (unambiguous_definedTexts choice) htext
    exact hw.symm.trans hw'
  · intro hsame
    exact congrArg _ hsame

/-- A field that is `undefined`, and the others in two orders. -/
theorem canonical_form_sample :
    let half : JsonLike := .number (some ⟨1 / 2, by decide +kernel⟩)
    stringifyCanonicalJson shortestDigits
        (.object [(jsString "b", half), (jsString "10", undefined), (jsString "a", .array [half])])
      = stringifyCanonicalJson shortestDigits
        (.object [(jsString "a", .array [half]), (jsString "b", half)]) := by
  intro half
  refine (canonical_form shortestDigits _ _ ⟨by decide +kernel, by decide +kernel⟩
    ⟨by decide +kernel, by decide +kernel⟩).mpr ?_
  exact ⟨half, [(jsString "a", .array [half])], List.Perm.swap .., rfl, .array [half], [],
    List.Perm.refl _, ⟨rfl, trivial⟩, rfl⟩

end JsonLike

end QuadraA.Protocol
