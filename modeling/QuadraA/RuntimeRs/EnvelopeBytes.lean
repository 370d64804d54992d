import QuadraA.Protocol.CanonicalJson
import QuadraA.Relay.QueuedEnvelopes

/-!
# Envelopes in messages of the relay

`extract_bytes_field` of `relay.rs` beside `deserializeQueuedEnvelope`: both read the bytes of an
envelope from an array, from the JSON of a `Buffer` and from the JSON of a `Uint8Array`.

* `extractBytesField` — what the Rust client reads;
* `envelope_bytes_agree` — both reject all other objects, but for keys that are spelled otherwise.
-/

namespace QuadraA.RuntimeRs

open QuadraA.Lib QuadraA.Protocol QuadraA.Relay

/-! ### The Rust client -/

/-- A value of `serde_json`. -/
abbrev SerdeValue := Json String SerdeNumber

/-- `value.as_u64().and_then(|byte| u8::try_from(byte).ok())`. -/
def u8? : SerdeValue → Option UInt8
  | .number (.posInt n) => if n < 256 then some (UInt8.ofNat n) else none
  | _ => none

/-- `key.parse::<usize>().ok()`. -/
def parseUsize (key : String) : Option ℕ :=
  let digits :=
    match key.toList with
    | '+' :: rest => rest
    | chars => chars
  (wholeDigits? digits).filter fun n => decide (n < 2 ^ 64)

inductive ExtractError where
  /-- `{field} must be encoded as byte values` -/
  | items
  /-- `{field} Buffer payload must contain a byte array` -/
  | bufferWithoutArray
  /-- `{field} Buffer payload contains non-byte values` -/
  | bufferItems
  /-- `{field} must be encoded as raw bytes, not an inline object` -/
  | inlineObject
  /-- `{field} typed-array object is missing byte positions` -/
  | missingPositions
  /-- `{field} must be encoded as raw bytes, not a string` -/
  | string
  /-- `{field} must be encoded as raw bytes, got {value}` -/
  | other (value : SerdeValue)

/-- Values that are all bytes. -/
def allU8 (values : List SerdeValue) (error : ExtractError) : Except ExtractError (List UInt8) :=
  match values.mapM u8? with
  | some bytes => .ok bytes
  | none => .error error

/-- `obj.get("type").and_then(|value| value.as_str()) == Some("Buffer")`. -/
def isBuffer (members : List (String × SerdeValue)) : Bool :=
  match members.lookup "type" with
  | some (.string type) => decide (type = "Buffer")
  | _ => false

/-- `msg.get(field)`. -/
def getField (msg : SerdeValue) (field : String) : Option SerdeValue :=
  match msg with
  | .object members => members.lookup field
  | _ => none

/-- `msg.get(field).and_then(|value| value.as_str())`. -/
def textField (msg : SerdeValue) (field : String) : Option String :=
  match getField msg field with
  | some (.string text) => some text
  | _ => none

def extractBytesField (msg : SerdeValue) (field : String) : Except ExtractError (List UInt8) :=
  match getField msg field with
  | some (.array items) => allU8 items .items
  | some (.object members) =>
      if isBuffer members then
        match members.lookup "data" with
        | some (.array data) => allU8 data .bufferItems
        | _ => .error .bufferWithoutArray
      else if members.isEmpty then .ok []
      else
        match readPairs parseUsize u8? members with
        | none => .error .inlineObject
        | some indexed =>
            match inOrder indexed with
            | none => .error .missingPositions
            | some bytes => .ok bytes
  | some (.string _) => .error .string
  | some .null | none => .ok []
  | some value => .error (.other value)

/-! ### The forms -/

/-- The relay sees the same value, with the numbers of JavaScript. -/
def queueMembers (members : List (String × SerdeValue)) : List (String × QueueValue) :=
  members.map (Prod.map id (Json.mapNumbers SerdeNumber.asF64))

/-- A message with the bytes in a field. -/
def messageWith (field : String) (value : SerdeValue) : SerdeValue := .object [(field, value)]

def byteValue (byte : UInt8) : SerdeValue := .number (.posInt byte.toNat)

/-- The decimal digits of an index. -/
def decimalKey (index : ℕ) : String := String.ofList (Nat.toDigits 10 index)

/-- **The forms of some bytes**: an array, the JSON of a `Buffer`, and an object with the positions
as keys, in any order. -/
inductive ByteForm (bytes : List UInt8) : SerdeValue → Prop
  | array : ByteForm bytes (.array (bytes.map byteValue))
  | buffer {members : List (String × SerdeValue)}
      (htype : members.lookup "type" = some (.string "Buffer"))
      (hdata : members.lookup "data" = some (.array (bytes.map byteValue))) :
      ByteForm bytes (.object members)
  | positions {members : List (String × SerdeValue)}
      (hmembers : members.Perm
        ((enumerated bytes).map fun pair => (decimalKey pair.1, byteValue pair.2))) :
      ByteForm bytes (.object members)

/-- The value as a record of the queue holds it. -/
def storedEnvelope : SerdeValue → Option StoredQueuedEnvelope
  | .array items => some (.array (items.map (Json.mapNumbers SerdeNumber.asF64)))
  | .object members => some (.object (queueMembers members))
  | _ => none

theorem byte?_byteValue (byte : UInt8) :
    byte? ((byteValue byte).mapNumbers SerdeNumber.asF64) = some byte := by
  have hround : JsNumber.ofRat (byte.toNat : ℚ) = .finite byte.toNat := by
    have hlt := byte.toNat_lt
    have hint := JsNumber.ofRat_int (m := byte.toNat) (by rw [Nat.abs_cast]; omega)
    rwa [Int.cast_natCast] at hint
  show byte? (.number (JsNumber.ofRat (byte.toNat : ℚ))) = some byte
  rw [hround, byte?_natCast byte.toNat_lt, UInt8.ofNat_toNat]

theorem u8?_byteValue (byte : UInt8) : u8? (byteValue byte) = some byte := by
  rw [byteValue, u8?, if_pos byte.toNat_lt, UInt8.ofNat_toNat]

/-- **The decimal digits of an index** are read as the index in Rust, too. -/
theorem parseUsize_decimalKey {index : ℕ} (h : index < 2 ^ 64) :
    parseUsize (decimalKey index) = some index := by
  have hdigits : ∀ c ∈ Nat.toDigits 10 index, c.isDigit = true := fun c hc =>
    Nat.isDigit_of_mem_toDigits (by decide) (by decide) hc
  have hsign : (match Nat.toDigits 10 index with
      | '+' :: rest => rest
      | chars => chars) = Nat.toDigits 10 index := by
    split
    · rename_i rest heq
      exact absurd (hdigits '+' (by rw [heq]; exact List.mem_cons_self ..)) (by decide)
    · rfl
  rw [parseUsize, decimalKey, String.toList_ofList, hsign, wholeDigits?,
    if_pos ⟨Nat.toDigits_ne_nil, List.all_eq_true.mpr hdigits⟩, Nat.ofDigitChars_ten_toDigits,
    Option.filter_some, if_pos (decide_eq_true h)]

/-! ### Reading the forms -/

variable {members : List (String × SerdeValue)}

theorem lookup_queueMembers (key : String) :
    (queueMembers members).lookup key
      = (members.lookup key).map (Json.mapNumbers SerdeNumber.asF64) := by
  induction members with
  | nil => rfl
  | cons member members ih =>
    obtain ⟨key', value⟩ := member
    show ((key', value.mapNumbers SerdeNumber.asF64) :: queueMembers members).lookup key = _
    rw [List.lookup_cons, List.lookup_cons, ih]
    cases key == key' <;> rfl

/-- The relay sees the data of a `Buffer` that there is. -/
theorem bufferData?_queueMembers :
    bufferData? (queueMembers members)
      = (bufferData? members).map (List.map (Json.mapNumbers SerdeNumber.asF64)) := by
  rw [bufferData?, bufferData?, lookup_queueMembers, lookup_queueMembers]
  cases members.lookup "type" with
  | none => rfl
  | some value =>
    cases value with
    | string type =>
      show (if type = "Buffer" then _ else none) = _
      by_cases htype : type = "Buffer"
      · rw [if_pos htype]
        dsimp only
        rw [if_pos htype]
        cases members.lookup "data" with
        | none => rfl
        | some data =>
          cases data with
          | array items =>
            show some (Json.mapItems _ items) = _
            rw [Json.mapItems_eq]
            rfl
          | _ => rfl
      · rw [if_neg htype]
        dsimp only
        rw [if_neg htype]
        rfl
    | _ => rfl

/-- No key that is read as an index is `type`. -/
theorem lookup_type_of_positions (h : ReadsPositions parseUsize members) :
    members.lookup "type" = none := by
  rw [List.lookup_eq_none_iff]
  intro member hmember
  rw [bne_iff_ne]
  intro hkey
  obtain ⟨index, -, hindex⟩ := List.mem_map.mp (h.mem_iff.mp (List.mem_map_of_mem hmember))
  rw [← hkey, show parseUsize "type" = none by decide] at hindex
  cases hindex

/-- **An object of positions** is read by its keys in Rust, too. -/
theorem extract_members (hbuffer : bufferData? members = none) (field : String)
    {bytes : List UInt8} :
    extractBytesField (messageWith field (.object members)) field = .ok bytes ↔
      (readPairs parseUsize u8? members).bind inOrder = some bytes := by
  have hfield : getField (messageWith field (.object members)) field = some (.object members) := by
    rw [messageWith, getField, List.lookup_cons, beq_self_eq_true]
  rw [extractBytesField, hfield]
  dsimp only
  by_cases hisBuffer : isBuffer members = true
  · rw [if_pos hisBuffer]
    constructor
    · intro h
      -- the data is no array, for it would have been read
      rw [bufferData?] at hbuffer
      rw [isBuffer] at hisBuffer
      split at hisBuffer
      · rename_i type htype
        rw [htype] at hbuffer
        dsimp only at hbuffer
        rw [if_pos (of_decide_eq_true hisBuffer)] at hbuffer
        split at h
        · rename_i data hdata
          rw [hdata] at hbuffer
          cases hbuffer
        · cases h
      · cases hisBuffer
    · intro h
      have hpositions := (exists_inOrder_readPairs_iff.mp ⟨bytes, h⟩).2
      rw [isBuffer, lookup_type_of_positions hpositions] at hisBuffer
      cases hisBuffer
  · rw [if_neg hisBuffer]
    cases members with
    | nil =>
      show Except.ok [] = Except.ok bytes ↔ inOrder [] = some bytes
      rw [inOrder, List.mergeSort_nil]
      simp
    | cons member members =>
      rw [List.isEmpty_cons, if_neg Bool.false_ne_true]
      cases readPairs parseUsize u8? (member :: members) with
      | none => simp
      | some indexed =>
        dsimp only [Option.bind_some]
        cases inOrder indexed <;> simp

theorem allU8_eq_ok_iff {values : List SerdeValue} {error : ExtractError} {bytes : List UInt8} :
    allU8 values error = .ok bytes ↔ values.mapM u8? = some bytes := by
  rw [allU8]
  cases values.mapM u8? <;> simp

theorem mapM_u8? (bytes : List UInt8) : (bytes.map byteValue).mapM u8? = some bytes := by
  rw [mapM_eq_some_iff, List.map_map]
  exact List.map_congr_left fun byte _ => u8?_byteValue byte

theorem mapM_byte? (bytes : List UInt8) :
    ((bytes.map byteValue).map (Json.mapNumbers SerdeNumber.asF64)).mapM byte? = some bytes := by
  rw [mapM_eq_some_iff, List.map_map, List.map_map]
  exact List.map_congr_left fun byte _ => byte?_byteValue byte

/-- **Both runtimes read the bytes** in each form; no engine has an array with more than `2 ^ 53`
items. -/
theorem byteForm_read {bytes : List UInt8} (hlength : bytes.length ≤ 2 ^ 53) {value : SerdeValue}
    (h : ByteForm bytes value) :
    (∃ stored, storedEnvelope value = some stored ∧
        deserializeQueuedEnvelope stored = .ok bytes) ∧
      ∀ field, extractBytesField (messageWith field value) field = .ok bytes := by
  have hfield (field : String) (value : SerdeValue) :
      getField (messageWith field value) field = some value := by
    rw [messageWith, getField, List.lookup_cons, beq_self_eq_true]
  cases h with
  | array =>
    refine ⟨⟨_, rfl, allBytes_eq_ok_iff.mpr (mapM_byte? bytes)⟩, fun field => ?_⟩
    rw [extractBytesField, hfield]
    exact allU8_eq_ok_iff.mpr (mapM_u8? bytes)
  | @buffer members htype hdata =>
    have hbuffer : bufferData? members = some (bytes.map byteValue) := by
      rw [bufferData?, htype, hdata]
      dsimp only
      rw [if_pos rfl]
    refine ⟨⟨_, rfl, ?_⟩, fun field => ?_⟩
    · rw [deserializeQueuedEnvelope, bufferData?_queueMembers, hbuffer]
      exact allBytes_eq_ok_iff.mpr (mapM_byte? bytes)
    · rw [extractBytesField, hfield]
      dsimp only
      rw [isBuffer, htype, hdata]
      exact allU8_eq_ok_iff.mpr (mapM_u8? bytes)
  | @positions members hmembers =>
    have hparse : (readPairs parseUsize u8? members).bind inOrder = some bytes :=
      inOrder_readPairs hmembers (fun index hindex => parseUsize_decimalKey (by omega))
        u8?_byteValue
    have htype := lookup_type_of_positions (exists_inOrder_readPairs_iff.mp ⟨bytes, hparse⟩).2
    have hbuffer : bufferData? members = none := by
      rw [bufferData?, htype]
    refine ⟨⟨_, rfl, ?_⟩, fun field => (extract_members hbuffer field).mpr hparse⟩
    refine (deserialize_members (by rw [bufferData?_queueMembers, hbuffer]; rfl)).mpr ?_
    have hqueue : (queueMembers members).Perm ((enumerated bytes).map fun pair =>
        (decimalKey pair.1, (byteValue pair.2).mapNumbers SerdeNumber.asF64)) := by
      have hperm := hmembers.map (Prod.map id (Json.mapNumbers SerdeNumber.asF64))
      rw [List.map_map] at hperm
      exact hperm
    let field (byte : UInt8) := (byteValue byte).mapNumbers SerdeNumber.asF64
    exact @inOrder_readPairs _ _ _ _ _ _ decimalKey field _ hqueue
      (fun index hindex => indexKey?_toDigits (by omega)) byte?_byteValue

/-! ### Other objects -/

/-- A value that is a byte. -/
def IsByteValue (value : SerdeValue) : Prop :=
  (byte? (value.mapNumbers SerdeNumber.asF64)).isSome = true

/-- The keys are exactly the decimal digits of `0 … n - 1`. -/
def HasDecimalPositions (members : List (String × SerdeValue)) : Prop :=
  (members.map Prod.fst).Perm ((List.range members.length).map decimalKey)

/-- **An object with the positions of bytes.** -/
def IsByteObject (members : List (String × SerdeValue)) : Prop :=
  HasDecimalPositions members ∧ ∀ member ∈ members, IsByteValue member.2

/-- Neither runtime reads bytes in an object. -/
def IsRejected (members : List (String × SerdeValue)) : Prop :=
  (∀ bytes, deserializeQueuedEnvelope (.object (queueMembers members)) ≠ .ok bytes) ∧
    ∀ field bytes, extractBytesField (messageWith field (.object members)) field ≠ .ok bytes

/-- **Keys that are spelled otherwise**: a runtime reads them as the positions of bytes, but they
are not the decimal digits. -/
def IsMisread (index? : String → Option ℕ) (value? : SerdeValue → Option UInt8)
    (members : List (String × SerdeValue)) : Prop :=
  ReadsPositions index? members ∧ (∀ member ∈ members, (value? member.2).isSome = true) ∧
    ¬HasDecimalPositions members

/-- What `as_u64` reads as a byte is one. -/
theorem isByteValue_of_u8? {value : SerdeValue} (h : (u8? value).isSome = true) :
    IsByteValue value := by
  cases value with
  | number n =>
    cases n with
    | posInt n =>
      rw [u8?] at h
      split at h
      · rename_i hn
        have hround : JsNumber.ofRat (n : ℚ) = .finite n := by
          have hint := JsNumber.ofRat_int (m := n) (by rw [Nat.abs_cast]; omega)
          rwa [Int.cast_natCast] at hint
        show (byte? (.number (JsNumber.ofRat (n : ℚ)))).isSome = true
        rw [hround, byte?_natCast hn]
        rfl
      · cases h
    | _ => cases h
  | _ => cases h

/-- **The envelope forms agree**: both runtimes read bytes in each of their forms, and both reject
every other object exactly when neither misreads its keys. -/
theorem envelope_bytes_agree (value : SerdeValue) :
    (∀ bytes : List UInt8, bytes.length ≤ 2 ^ 53 → ByteForm bytes value →
      (∃ stored, storedEnvelope value = some stored ∧
        deserializeQueuedEnvelope stored = .ok bytes) ∧
      ∀ field, extractBytesField (messageWith field value) field = .ok bytes) ∧
    ∀ members, value = .object members → bufferData? members = none →
      ((¬IsByteObject members → IsRejected members) ↔
        ¬IsMisread indexKey? (fun value => byte? (value.mapNumbers SerdeNumber.asF64)) members ∧
          ¬IsMisread parseUsize u8? members) := by
  refine ⟨fun bytes hlength h => byteForm_read hlength h, fun members _ hbuffer => ?_⟩
  have hqueue : bufferData? (queueMembers members) = none := by
    rw [bufferData?_queueMembers, hbuffer]
    rfl
  -- what the relay accepts, in terms of the members as the client has them
  have hrelay : (∃ bytes, deserializeQueuedEnvelope (.object (queueMembers members)) = .ok bytes) ↔
      (∀ member ∈ members, IsByteValue member.2) ∧ ReadsPositions indexKey? members := by
    simp only [deserialize_members hqueue]
    rw [exists_inOrder_readPairs_iff, ReadsPositions, ReadsPositions, queueMembers, List.map_map,
      List.length_map, List.forall_mem_map]
    rfl
  have hclient (field : String) : (∃ bytes,
      extractBytesField (messageWith field (.object members)) field = .ok bytes) ↔
      (∀ member ∈ members, (u8? member.2).isSome = true) ∧ ReadsPositions parseUsize members := by
    simp only [extract_members hbuffer]
    exact exists_inOrder_readPairs_iff
  constructor
  · intro h
    constructor
    · rintro ⟨hpositions, hvalues, hkeys⟩
      obtain ⟨bytes, hbytes⟩ := hrelay.mpr ⟨hvalues, hpositions⟩
      exact (h fun hobject => hkeys hobject.1).1 bytes hbytes
    · rintro ⟨hpositions, hvalues, hkeys⟩
      obtain ⟨bytes, hbytes⟩ := (hclient "envelope").mpr ⟨hvalues, hpositions⟩
      exact (h fun hobject => hkeys hobject.1).2 "envelope" bytes hbytes
  · rintro ⟨hmisreadRelay, hmisreadClient⟩ hobject
    constructor
    · intro bytes hbytes
      obtain ⟨hvalues, hpositions⟩ := hrelay.mp ⟨bytes, hbytes⟩
      refine hmisreadRelay ⟨hpositions, hvalues, fun hkeys => hobject ⟨hkeys, hvalues⟩⟩
    · intro field bytes hbytes
      obtain ⟨hvalues, hpositions⟩ := (hclient field).mp ⟨bytes, hbytes⟩
      exact hmisreadClient ⟨hpositions, hvalues, fun hkeys =>
        hobject ⟨hkeys, fun member hmember => isByteValue_of_u8? (hvalues member hmember)⟩⟩

/-- The bytes of an object whose keys come in the other order. -/
theorem envelope_bytes_sample :
    deserializeQueuedEnvelope (.object (queueMembers
        [(decimalKey 1, byteValue 8), (decimalKey 0, byteValue 7)])) = .ok [7, 8] ∧
      extractBytesField (messageWith "envelope"
        (.object [(decimalKey 1, byteValue 8), (decimalKey 0, byteValue 7)])) "envelope"
          = .ok [7, 8] := by
  have hform : ByteForm [7, 8]
      (.object [(decimalKey 1, byteValue 8), (decimalKey 0, byteValue 7)]) :=
    .positions (List.Perm.swap ..)
  obtain ⟨⟨stored, hstored, hrelay⟩, hclient⟩ :=
    (envelope_bytes_agree _).1 [7, 8] (by decide) hform
  obtain rfl := Option.some.inj hstored
  exact ⟨hrelay, hclient "envelope"⟩

/-- An object with one byte under the key `00`. -/
def zeroZero : List (String × SerdeValue) := [("00", byteValue 5)]

/-- **Both runtimes take the key `00` for the first position.** -/
theorem zero_zero_accepted :
    ¬IsByteObject zeroZero ∧
      deserializeQueuedEnvelope (.object (queueMembers zeroZero)) = .ok [5] ∧
      extractBytesField (messageWith "envelope" (.object zeroZero)) "envelope" = .ok [5] := by
  refine ⟨?_, ?_, ?_⟩
  · rintro ⟨hkeys, -⟩
    have hkey : "00" ∈ (List.range 1).map decimalKey := hkeys.mem_iff.mp (List.mem_singleton_self _)
    revert hkey
    decide
  · refine (deserialize_members rfl).mpr ?_
    have hindex : indexKey? "00" = some 0 := by decide +kernel
    rw [readPairs, queueMembers, zeroZero, List.map_cons, List.map_nil, List.mapM_cons,
      List.mapM_nil]
    show Option.bind (Option.bind ((indexKey? "00").bind _) _) inOrder = _
    rw [hindex]
    show Option.bind (Option.bind ((byte? ((byteValue 5).mapNumbers SerdeNumber.asF64)).map _) _)
      inOrder = _
    rw [byte?_byteValue]
    exact inOrder_eq_some_iff.mpr (.refl _)
  · exact (extract_members rfl "envelope").mpr (inOrder_eq_some_iff.mpr (.refl _))

end QuadraA.RuntimeRs
