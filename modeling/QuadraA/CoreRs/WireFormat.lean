import QuadraA.CoreRs.WireMessages
import QuadraA.Lib.Except
import QuadraA.Lib.Record
import QuadraA.Protocol.CanonicalJson

/-!
# The wire format of encrypted messages

`e2e/messages.rs` and `cbor_decode_value` of `protocol.rs`: a message is written as a map, and read
back through a JSON value.

* `cborValueToJson` — the JSON value of a data item;
* `wire_format` — a message comes back from its bytes, and the integers that a decoded message
  holds are those of its bytes when these are in range.
-/

namespace QuadraA.CoreRs

open QuadraA.Lib QuadraA.Protocol

/-! ### The JSON value of a data item -/

/-- `Number::from_f64(f).unwrap_or(0.into())`. -/
def numberFromF64 : JsNumber → SerdeNumber
  | .finite q => .float (.finite q)
  | _ => .posInt 0

/-- The integers of 64 bits stay integers. -/
def integerNumber (n : ℤ) : SerdeNumber :=
  if 0 ≤ n ∧ n < 2 ^ 64 then .posInt n.toNat
  else if -2 ^ 63 ≤ n ∧ n < 2 ^ 63 then .negInt n
  else numberFromF64 (.ofRat n)

/-- The whole floats of at most 53 bits become integers. -/
def floatNumber : JsNumber → SerdeNumber
  | .finite q =>
      if Int.fract q = 0 ∧ |q| ≤ MAX_SAFE_JSON_INTEGER then
        if 0 ≤ q then .posInt ⌊q⌋.toNat else .negInt ⌊q⌋
      else numberFromF64 (.finite q)
  | f => numberFromF64 f

section

variable (debug : CborItem → String)

/-- The key of an entry: a text, or the debug text of any other item. -/
def keyText : CborItem → String
  | .text s => s
  | other => debug other

mutual

def cborValueToJson : CborItem → Json String SerdeNumber
  | .null => .null
  | .bool b => .bool b
  | .integer n => .number (integerNumber n)
  | .float f => .number (floatNumber f)
  | .text s => .string s
  | .bytes bytes => .array (bytes.map fun byte => .number (.posInt byte.toNat))
  | .array items => .array (itemsToJson items)
  | .map entries => .object (insertEntries [] entries)
  | .tag _ inner => cborValueToJson inner

def itemsToJson : List CborItem → List (Json String SerdeNumber)
  | [] => []
  | item :: items => cborValueToJson item :: itemsToJson items

/-- The loop over the entries; a later entry of a key takes the place of an earlier one. -/
def insertEntries (obj : List (String × Json String SerdeNumber)) :
    List (CborItem × CborItem) → List (String × Json String SerdeNumber)
  | [] => obj
  | (key, value) :: entries =>
      insertEntries (Record.insert (keyText debug key) (cborValueToJson value) obj) entries

end

end

/-! ### The readers -/

inductive WireError where
  | unsupportedVersion (type : String) (version : UInt8)
  | decode (type : String)
  | invalidPayload (type : String)
  | missingString (field : String)
  | missingInteger (field : String)
  | missingByteArray (field : String)
  | nonByteValue (field : String)
deriving DecidableEq, Repr

def WireError.message : WireError → String
  | .unsupportedVersion type version =>
      "Unsupported " ++ type ++ " version: " ++ toString version.toNat
  | .decode type => "Failed to decode " ++ type
  | .invalidPayload type => "Invalid " ++ type ++ " payload"
  | .missingString field => "Missing string field " ++ field
  | .missingInteger field => "Missing integer field " ++ field
  | .missingByteArray field => "Missing byte-array field " ++ field
  | .nonByteValue field => "Field " ++ field ++ " contains non-byte value"

/-- `Value::get`. -/
def getMember (value : Json String SerdeNumber) (field : String) :
    Option (Json String SerdeNumber) :=
  match value with
  | .object members => Record.lookup field members
  | _ => none

def asStr : Json String SerdeNumber → Option String
  | .string text => some text
  | _ => none

def asU64 : Json String SerdeNumber → Option ℕ
  | .number (.posInt n) => some n
  | _ => none

def asArray : Json String SerdeNumber → Option (List (Json String SerdeNumber))
  | .array items => some items
  | _ => none

def getStr (value : Json String SerdeNumber) (field : String) : Except WireError String :=
  match (getMember value field).bind asStr with
  | some text => .ok text
  | none => .error (.missingString field)

def getU64 (value : Json String SerdeNumber) (field : String) : Except WireError ℕ :=
  match (getMember value field).bind asU64 with
  | some n => .ok n
  | none => .error (.missingInteger field)

/-- The items of a byte array; a number above 255 is refused. -/
def collectBytes (field : String) : List (Json String SerdeNumber) → Except WireError (List UInt8)
  | [] => .ok []
  | item :: items =>
      match (asU64 item).filter (· ≤ 255) with
      | none => .error (.nonByteValue field)
      | some byte => do
          let bytes ← collectBytes field items
          .ok (UInt8.ofNat byte :: bytes)

def getBytes (value : Json String SerdeNumber) (field : String) :
    Except WireError (List UInt8) :=
  match (getMember value field).bind asArray with
  | some items => collectBytes field items
  | none => .error (.missingByteArray field)

def encodePrekeyMessage (message : PreKeyMessage) : Except WireError (List UInt8) :=
  if message.version ≠ E2E_PROTOCOL_VERSION then
    .error (.unsupportedVersion "PREKEY_MESSAGE" message.version)
  else .ok (encode (.map (buildPrekeyMap message true)))

def encodeSessionMessage (message : SessionMessage) : Except WireError (List UInt8) :=
  if message.version ≠ E2E_PROTOCOL_VERSION then
    .error (.unsupportedVersion "SESSION_MESSAGE" message.version)
  else .ok (encode (.map (buildSessionMap message true)))

/-- The check of the version and of the type. -/
def IsPayload (value : Json String SerdeNumber) (type : String) : Prop :=
  (getMember value "version").bind asU64 = some E2E_PROTOCOL_VERSION.toNat ∧
    (getMember value "type").bind asStr = some type

instance (value : Json String SerdeNumber) (type : String) : Decidable (IsPayload value type) :=
  inferInstanceAs (Decidable (_ ∧ _))

/-- The value of a `PREKEY_MESSAGE`, field by field; `as u32` keeps the low bits. -/
def prekeyMessageOf (value : Json String SerdeNumber) : Except WireError PreKeyMessage := do
  let version ← getU64 value "version"
  let senderDid ← getStr value "senderDid"
  let receiverDid ← getStr value "receiverDid"
  let senderDeviceId ← getStr value "senderDeviceId"
  let receiverDeviceId ← getStr value "receiverDeviceId"
  let sessionId ← getStr value "sessionId"
  let messageId ← getStr value "messageId"
  let initiatorIdentityKey ← getBytes value "initiatorIdentityKey"
  let initiatorEphemeralKey ← getBytes value "initiatorEphemeralKey"
  let recipientSignedPreKeyId ← getU64 value "recipientSignedPreKeyId"
  let nonce ← getBytes value "nonce"
  let ciphertext ← getBytes value "ciphertext"
  .ok
    { version := UInt8.ofNat version
      messageType := .preKeyMessage
      senderDid, receiverDid, senderDeviceId, receiverDeviceId, sessionId, messageId
      initiatorIdentityKey, initiatorEphemeralKey
      recipientSignedPreKeyId := UInt32.ofNat recipientSignedPreKeyId
      recipientOneTimePreKeyId :=
        ((getMember value "recipientOneTimePreKeyId").bind asU64).map UInt32.ofNat
      nonce, ciphertext }

def sessionMessageOf (value : Json String SerdeNumber) : Except WireError SessionMessage := do
  let version ← getU64 value "version"
  let senderDid ← getStr value "senderDid"
  let receiverDid ← getStr value "receiverDid"
  let senderDeviceId ← getStr value "senderDeviceId"
  let receiverDeviceId ← getStr value "receiverDeviceId"
  let sessionId ← getStr value "sessionId"
  let messageId ← getStr value "messageId"
  let ratchetPublicKey ← getBytes value "ratchetPublicKey"
  let previousChainLength ← getU64 value "previousChainLength"
  let messageNumber ← getU64 value "messageNumber"
  let nonce ← getBytes value "nonce"
  let ciphertext ← getBytes value "ciphertext"
  .ok
    { version := UInt8.ofNat version
      messageType := .sessionMessage
      senderDid, receiverDid, senderDeviceId, receiverDeviceId, sessionId, messageId
      ratchetPublicKey
      previousChainLength := UInt32.ofNat previousChainLength
      messageNumber := UInt32.ofNat messageNumber
      nonce, ciphertext }

section

variable (fromReader : List UInt8 → Option CborItem) (debug : CborItem → String)

/-- `cbor_decode_value`; `none` when the parser returns an error. -/
def cborDecodeValue (bytes : List UInt8) : Option (Json String SerdeNumber) :=
  (fromReader bytes).map (cborValueToJson debug)

def decodePrekeyMessage (bytes : List UInt8) : Except WireError PreKeyMessage :=
  match cborDecodeValue fromReader debug bytes with
  | none => .error (.decode "PREKEY_MESSAGE")
  | some value =>
      if IsPayload value "PREKEY_MESSAGE" then prekeyMessageOf value
      else .error (.invalidPayload "PREKEY_MESSAGE")

def decodeSessionMessage (bytes : List UInt8) : Except WireError SessionMessage :=
  match cborDecodeValue fromReader debug bytes with
  | none => .error (.decode "SESSION_MESSAGE")
  | some value =>
      if IsPayload value "SESSION_MESSAGE" then sessionMessageOf value
      else .error (.invalidPayload "SESSION_MESSAGE")

end

/-! ### The members of the value -/

section

variable {debug : CborItem → String}

/-- The item that stands last under a key. -/
def lastEntry (debug : CborItem → String) (name : String) :
    List (CborItem × CborItem) → Option CborItem
  | [] => none
  | (key, value) :: entries =>
      (lastEntry debug name entries).or (if keyText debug key = name then some value else none)

/-- The item that a field of a map holds, through the tags of the map. -/
def fieldItem (debug : CborItem → String) (name : String) : CborItem → Option CborItem
  | .map entries => lastEntry debug name entries
  | .tag _ inner => fieldItem debug name inner
  | _ => none

theorem lookup_insertEntries (name : String) (obj : List (String × Json String SerdeNumber))
    (entries : List (CborItem × CborItem)) :
    Record.lookup name (insertEntries debug obj entries)
      = ((lastEntry debug name entries).map (cborValueToJson debug)).or
          (Record.lookup name obj) := by
  induction entries generalizing obj with
  | nil =>
    rw [insertEntries, lastEntry]
    rfl
  | cons entry entries ih =>
    obtain ⟨key, value⟩ := entry
    rw [insertEntries, ih, lastEntry, Record.lookup_insert]
    cases lastEntry debug name entries with
    | some found => rfl
    | none =>
      by_cases hkey : keyText debug key = name
      · rw [if_pos hkey, if_pos hkey]
        rfl
      · rw [if_neg hkey, if_neg hkey]
        rfl

/-- **A member of the JSON value** is the value of the field. -/
theorem getMember_json (item : CborItem) (name : String) :
    getMember (cborValueToJson debug item) name
      = (fieldItem debug name item).map (cborValueToJson debug) := by
  induction item using CborItem.induct with
  | hmap entries =>
    rw [cborValueToJson, fieldItem, getMember, lookup_insertEntries]
    exact Option.or_none
  | htag number inner ih =>
    rw [cborValueToJson, fieldItem, ih]
  | _ =>
    rw [cborValueToJson]
    rfl

/-- The value that stands last under a name. -/
def lastValue (name : String) : List (String × E2eCborValue) → Option E2eCborValue
  | [] => none
  | (key, value) :: pairs =>
      (lastValue name pairs).or (if key = name then some value else none)

theorem lastEntry_pairEntries (name : String) (pairs : List (String × E2eCborValue)) :
    lastEntry debug name (pairEntries pairs) = (lastValue name pairs).map (·.item) := by
  induction pairs with
  | nil => rfl
  | cons pair pairs ih =>
    obtain ⟨key, value⟩ := pair
    rw [pairEntries, lastEntry, lastValue, ih, keyText]
    cases lastValue name pairs with
    | some found => rfl
    | none =>
      by_cases hkey : key = name
      · rw [if_pos hkey, if_pos hkey]
        rfl
      · rw [if_neg hkey, if_neg hkey]
        rfl

/-- The JSON value of a map that was written. -/
def mapJson (debug : CborItem → String) (pairs : List (String × E2eCborValue)) :
    Json String SerdeNumber :=
  cborValueToJson debug (E2eCborValue.map pairs).item

theorem getMember_mapJson (pairs : List (String × E2eCborValue)) (name : String) :
    getMember (mapJson debug pairs) name
      = (lastValue name pairs).map fun value => cborValueToJson debug value.item := by
  rw [mapJson, getMember_json, E2eCborValue.item, fieldItem, lastEntry_pairEntries, Option.map_map]
  rfl

variable {pairs : List (String × E2eCborValue)} {name : String} {n : ℕ}

theorem getStr_mapJson {text : String} (h : lastValue name pairs = some (.str text)) :
    getStr (mapJson debug pairs) name = .ok text := by
  rw [getStr, getMember_mapJson, h, Option.map_some, E2eCborValue.item, cborValueToJson]
  rfl

theorem asU64_mapJson (h : lastValue name pairs = some (.int n)) (hn : n < 2 ^ 64) :
    (getMember (mapJson debug pairs) name).bind asU64 = some n := by
  rw [getMember_mapJson, h, Option.map_some, E2eCborValue.item, cborValueToJson, integerNumber,
    if_pos (by omega)]
  rfl

theorem getU64_mapJson (h : lastValue name pairs = some (.int n)) (hn : n < 2 ^ 64) :
    getU64 (mapJson debug pairs) name = .ok n := by
  rw [getU64, asU64_mapJson h hn]

/-- The bytes of a byte string come back from their numbers. -/
theorem collectBytes_map (field : String) (bytes : List UInt8) :
    collectBytes field (bytes.map fun byte => .number (.posInt byte.toNat)) = .ok bytes := by
  induction bytes with
  | nil => rfl
  | cons byte bytes ih =>
    have hbyte := byte.toNat_lt
    rw [List.map_cons, collectBytes, asU64, Option.filter_some, if_pos (by simpa using by omega),
      ih]
    show Except.ok (UInt8.ofNat byte.toNat :: bytes) = _
    rw [UInt8.ofNat_toNat]

theorem getBytes_mapJson {bytes : List UInt8}
    (h : lastValue name pairs = some (.typedBytes bytes)) :
    getBytes (mapJson debug pairs) name = .ok bytes := by
  rw [getBytes, getMember_mapJson, h, Option.map_some, E2eCborValue.item, cborValueToJson,
    cborValueToJson]
  exact collectBytes_map name bytes

/-! ### Round trips -/

/-- What stands under the names of a first message. -/
theorem lastValue_prekeyMap (message : PreKeyMessage) :
    let pairs := buildPrekeyMap message true
    lastValue "version" pairs = some (.int message.version.toNat) ∧
    lastValue "type" pairs = some (.str "PREKEY_MESSAGE") ∧
    lastValue "senderDid" pairs = some (.str message.senderDid) ∧
    lastValue "receiverDid" pairs = some (.str message.receiverDid) ∧
    lastValue "senderDeviceId" pairs = some (.str message.senderDeviceId) ∧
    lastValue "receiverDeviceId" pairs = some (.str message.receiverDeviceId) ∧
    lastValue "sessionId" pairs = some (.str message.sessionId) ∧
    lastValue "messageId" pairs = some (.str message.messageId) ∧
    lastValue "initiatorIdentityKey" pairs = some (.typedBytes message.initiatorIdentityKey) ∧
    lastValue "initiatorEphemeralKey" pairs = some (.typedBytes message.initiatorEphemeralKey) ∧
    lastValue "recipientSignedPreKeyId" pairs
      = some (.int message.recipientSignedPreKeyId.toNat) ∧
    lastValue "recipientOneTimePreKeyId" pairs
      = message.recipientOneTimePreKeyId.map (fun key => .int key.toNat) ∧
    lastValue "nonce" pairs = some (.typedBytes message.nonce) ∧
    lastValue "ciphertext" pairs = some (.typedBytes message.ciphertext) := by
  rw [buildPrekeyMap]
  cases message.recipientOneTimePreKeyId with
  | none =>
    simp [oneTimePreKeyField, ciphertextField, lastValue, intField, textField, bytesField]
  | some key =>
    simp [oneTimePreKeyField, ciphertextField, lastValue, intField, textField, bytesField]

theorem lastValue_sessionMap (message : SessionMessage) :
    let pairs := buildSessionMap message true
    lastValue "version" pairs = some (.int message.version.toNat) ∧
    lastValue "type" pairs = some (.str "SESSION_MESSAGE") ∧
    lastValue "senderDid" pairs = some (.str message.senderDid) ∧
    lastValue "receiverDid" pairs = some (.str message.receiverDid) ∧
    lastValue "senderDeviceId" pairs = some (.str message.senderDeviceId) ∧
    lastValue "receiverDeviceId" pairs = some (.str message.receiverDeviceId) ∧
    lastValue "sessionId" pairs = some (.str message.sessionId) ∧
    lastValue "messageId" pairs = some (.str message.messageId) ∧
    lastValue "ratchetPublicKey" pairs = some (.typedBytes message.ratchetPublicKey) ∧
    lastValue "previousChainLength" pairs = some (.int message.previousChainLength.toNat) ∧
    lastValue "messageNumber" pairs = some (.int message.messageNumber.toNat) ∧
    lastValue "nonce" pairs = some (.typedBytes message.nonce) ∧
    lastValue "ciphertext" pairs = some (.typedBytes message.ciphertext) := by
  simp [buildSessionMap, ciphertextField, lastValue, intField, textField, bytesField]

/-- **The fields of a first message** are read back from the value of its map. -/
theorem prekeyMessageOf_mapJson (message : PreKeyMessage) :
    prekeyMessageOf (mapJson debug (buildPrekeyMap message true))
      = .ok { message with messageType := .preKeyMessage } := by
  have hversion := message.version.toNat_lt
  have hsigned := message.recipientSignedPreKeyId.toNat_lt
  obtain ⟨h₀, _, h₁, h₂, h₃, h₄, h₅, h₆, h₇, h₈, h₉, hkey, h₁₀, h₁₁⟩ := lastValue_prekeyMap message
  have honeTime : ((getMember (mapJson debug (buildPrekeyMap message true))
      "recipientOneTimePreKeyId").bind asU64).map UInt32.ofNat
        = message.recipientOneTimePreKeyId := by
    cases hmessage : message.recipientOneTimePreKeyId with
    | none =>
      rw [hmessage] at hkey
      rw [getMember_mapJson, hkey]
      rfl
    | some key =>
      have hkeyRange := key.toNat_lt
      rw [hmessage] at hkey
      rw [asU64_mapJson hkey (by omega), Option.map_some, UInt32.ofNat_toNat]
  simp only [prekeyMessageOf, getU64_mapJson h₀ (by omega), getStr_mapJson h₁, getStr_mapJson h₂,
    getStr_mapJson h₃, getStr_mapJson h₄, getStr_mapJson h₅, getStr_mapJson h₆, getBytes_mapJson h₇,
    getBytes_mapJson h₈, getU64_mapJson h₉ (by omega), getBytes_mapJson h₁₀, getBytes_mapJson h₁₁,
    ok_bind, honeTime, UInt8.ofNat_toNat, UInt32.ofNat_toNat]

theorem sessionMessageOf_mapJson (message : SessionMessage) :
    sessionMessageOf (mapJson debug (buildSessionMap message true))
      = .ok { message with messageType := .sessionMessage } := by
  have hversion := message.version.toNat_lt
  have hprevious := message.previousChainLength.toNat_lt
  have hnumber := message.messageNumber.toNat_lt
  obtain ⟨h₀, _, h₁, h₂, h₃, h₄, h₅, h₆, h₇, h₈, h₉, h₁₀, h₁₁⟩ := lastValue_sessionMap message
  simp only [sessionMessageOf, getU64_mapJson h₀ (by omega), getStr_mapJson h₁, getStr_mapJson h₂,
    getStr_mapJson h₃, getStr_mapJson h₄, getStr_mapJson h₅, getStr_mapJson h₆, getBytes_mapJson h₇,
    getU64_mapJson h₈ (by omega), getU64_mapJson h₉ (by omega), getBytes_mapJson h₁₀,
    getBytes_mapJson h₁₁, ok_bind, UInt8.ofNat_toNat, UInt32.ofNat_toNat]

/-- **The parser implements RFC 8949**, at least on what is nested a few levels deep: it returns the
item of every encoding. -/
def ReadsEncodings (fromReader : List UInt8 → Option CborItem) : Prop :=
  ∀ item bytes, Encodes item bytes → item.depth ≤ 16 → fromReader bytes = some item

/-- The maps of messages are flat. -/
theorem depth_map (h : ∀ pair ∈ pairs, pair.2.item.depth ≤ 2) :
    (E2eCborValue.map pairs).item.depth ≤ 3 := by
  have hentries : entriesDepth (pairEntries pairs) ≤ 2 := by
    induction pairs with
    | nil => exact Nat.zero_le _
    | cons pair pairs ih =>
      obtain ⟨key, value⟩ := pair
      have hvalue : value.item.depth ≤ 2 := h (key, value) List.mem_cons_self
      have hrest := ih fun pair hmem => h pair (List.mem_cons_of_mem _ hmem)
      have hkey : (CborItem.text key).depth = 1 := rfl
      rw [pairEntries, entriesDepth, hkey]
      omega
  rw [E2eCborValue.item, CborItem.depth]
  omega

section

variable {fromReader : List UInt8 → Option CborItem}

/-- What was written is parsed as the value of the map. -/
theorem cborDecodeValue_encode (hreads : ReadsEncodings fromReader)
    {pairs : List (String × E2eCborValue)} (hsized : (E2eCborValue.map pairs).Sized)
    (hflat : ∀ pair ∈ pairs, pair.2.item.depth ≤ 2) :
    cborDecodeValue fromReader debug (encode (.map pairs)) = some (mapJson debug pairs) := by
  rw [cborDecodeValue, hreads _ _ (encodes_encode _ hsized) ((depth_map hflat).trans (by decide))]
  rfl

theorem decodePrekeyMessage_encode (hreads : ReadsEncodings fromReader) {message : PreKeyMessage}
    (hsized : message.Sized) (hversion : message.version = E2E_PROTOCOL_VERSION) :
    decodePrekeyMessage fromReader debug (encode (.map (buildPrekeyMap message true)))
      = .ok { message with messageType := .preKeyMessage } := by
  have hflat : ∀ pair ∈ buildPrekeyMap message true, pair.2.item.depth ≤ 2 := by
    rw [buildPrekeyMap]
    cases message.recipientOneTimePreKeyId <;>
      simp [oneTimePreKeyField, ciphertextField, intField, textField, bytesField,
        E2eCborValue.item, CborItem.depth]
  obtain ⟨h₀, htype, _⟩ := lastValue_prekeyMap message
  have hpayload : IsPayload (mapJson debug (buildPrekeyMap message true)) "PREKEY_MESSAGE" := by
    constructor
    · rw [asU64_mapJson h₀ (by have := message.version.toNat_lt; omega), hversion]
    · rw [getMember_mapJson, htype, Option.map_some, E2eCborValue.item, cborValueToJson]
      rfl
  rw [decodePrekeyMessage, cborDecodeValue_encode hreads (sized_prekeyMap hsized true) hflat]
  show (if IsPayload _ _ then _ else _) = _
  rw [if_pos hpayload, prekeyMessageOf_mapJson]

theorem decodeSessionMessage_encode (hreads : ReadsEncodings fromReader)
    {message : SessionMessage} (hsized : message.Sized)
    (hversion : message.version = E2E_PROTOCOL_VERSION) :
    decodeSessionMessage fromReader debug (encode (.map (buildSessionMap message true)))
      = .ok { message with messageType := .sessionMessage } := by
  have hflat : ∀ pair ∈ buildSessionMap message true, pair.2.item.depth ≤ 2 := by
    simp [buildSessionMap, ciphertextField, intField, textField, bytesField, E2eCborValue.item,
      CborItem.depth]
  obtain ⟨h₀, htype, _⟩ := lastValue_sessionMap message
  have hpayload : IsPayload (mapJson debug (buildSessionMap message true)) "SESSION_MESSAGE" := by
    constructor
    · rw [asU64_mapJson h₀ (by have := message.version.toNat_lt; omega), hversion]
    · rw [getMember_mapJson, htype, Option.map_some, E2eCborValue.item, cborValueToJson]
      rfl
  rw [decodeSessionMessage, cborDecodeValue_encode hreads (sized_sessionMap hsized true) hflat]
  show (if IsPayload _ _ then _ else _) = _
  rw [if_pos hpayload, sessionMessageOf_mapJson]

end

end

/-! ### The integers that are carried -/

/-- **The integer that an item is**, through its tags; a whole float is one. -/
def integerOf : CborItem → Option ℤ
  | .integer n => some n
  | .float (.finite q) => if Int.fract q = 0 then some ⌊q⌋ else none
  | .tag _ inner => integerOf inner
  | _ => none

/-- Not a number, or infinite. -/
def IsNotFinite : CborItem → Prop
  | .float .nan => True
  | .float (.infinity _) => True
  | .tag _ inner => IsNotFinite inner
  | _ => False

section

variable {debug : CborItem → String}

variable {n : ℕ} {name : String}

/-- **An integer in range** is read as it is. -/
theorem asU64_of_integerOf {item : CborItem} (h : integerOf item = some (n : ℤ)) (hn : n < 2 ^ 32) :
    asU64 (cborValueToJson debug item) = some n := by
  induction item using CborItem.induct with
  | hinteger m =>
    obtain rfl := Option.some.inj h
    rw [cborValueToJson, integerNumber, if_pos (by omega)]
    rfl
  | htag number inner ih =>
    rw [cborValueToJson]
    exact ih h
  | hfloat f =>
    cases f with
    | finite q =>
      rw [integerOf] at h
      split at h
      · rename_i hwhole
        have hfloor : ⌊q⌋ = n := Option.some.inj h
        have hq : q = n := by
          have hsub := Int.floor_add_fract q
          rw [hwhole, add_zero, hfloor] at hsub
          exact_mod_cast hsub.symm
        have hsafe : |q| ≤ MAX_SAFE_JSON_INTEGER := by
          have hcast : (n : ℚ) ≤ 2 ^ 32 := by exact_mod_cast hn.le
          rw [hq, abs_of_nonneg (Nat.cast_nonneg n), MAX_SAFE_JSON_INTEGER]
          norm_num at hcast ⊢
          linarith
        have hnonneg : 0 ≤ q := by
          rw [hq]
          exact Nat.cast_nonneg n
        rw [cborValueToJson, floatNumber, if_pos ⟨hwhole, hsafe⟩, if_pos hnonneg, hfloor]
        rfl
      · cases h
    | nan => cases h
    | infinity negative => cases h
  | _ => cases h

/-- **What is read as another integer than 0** is that integer. -/
theorem integerOf_of_asU64 {item : CborItem} (h : asU64 (cborValueToJson debug item) = some n)
    (hn : n ≠ 0) : integerOf item = some (n : ℤ) := by
  induction item using CborItem.induct with
  | hinteger m =>
    rw [cborValueToJson, integerNumber] at h
    split at h
    · obtain rfl := Option.some.inj h
      rw [integerOf, Int.toNat_of_nonneg (by omega)]
    · split at h
      · cases h
      · cases hvalue : JsNumber.ofRat m with
        | finite q =>
          rw [hvalue] at h
          cases h
        | nan =>
          rw [hvalue] at h
          exact absurd (Option.some.inj h).symm hn
        | infinity negative =>
          rw [hvalue] at h
          exact absurd (Option.some.inj h).symm hn
  | htag number inner ih =>
    rw [cborValueToJson] at h
    exact ih h
  | hfloat f =>
    cases f with
    | finite q =>
      rw [cborValueToJson, floatNumber] at h
      split at h
      · rename_i hsafe
        split at h
        · rename_i hnonneg
          obtain rfl := Option.some.inj h
          rw [integerOf, if_pos hsafe.1, Int.toNat_of_nonneg (Int.floor_nonneg.mpr hnonneg)]
        · cases h
      · cases h
    | nan => exact absurd (Option.some.inj h).symm hn
    | infinity negative => exact absurd (Option.some.inj h).symm hn
  | _ =>
    rw [cborValueToJson] at h
    cases h

/-- What is no integer is not read as one, unless it is not finite. -/
theorem asU64_of_not_integer {item : CborItem} (h : integerOf item = none)
    (hfinite : ¬IsNotFinite item) : asU64 (cborValueToJson debug item) = none := by
  induction item using CborItem.induct with
  | hinteger m => cases h
  | htag number inner ih =>
    rw [cborValueToJson]
    exact ih h hfinite
  | hfloat f =>
    cases f with
    | finite q =>
      rw [integerOf] at h
      split at h
      · cases h
      · rename_i hwhole
        rw [cborValueToJson, floatNumber, if_neg (fun hsafe => hwhole hsafe.1)]
        rfl
    | nan => exact absurd trivial hfinite
    | infinity negative => exact absurd trivial hfinite
  | _ =>
    rw [cborValueToJson]
    rfl

/-- **What is not finite is read as 0.** -/
theorem asU64_of_isNotFinite {item : CborItem} (h : IsNotFinite item) :
    asU64 (cborValueToJson debug item) = some 0 := by
  induction item using CborItem.induct with
  | htag number inner ih =>
    rw [cborValueToJson]
    exact ih h
  | hfloat f =>
    cases f with
    | finite q => cases h
    | nan => rw [cborValueToJson]; rfl
    | infinity negative => rw [cborValueToJson]; rfl
  | _ => cases h

/-! ### The wire format -/

/-- The integer that a map carries under a name. -/
def carried (debug : CborItem → String) (item : CborItem) (name : String) : Option ℤ :=
  (fieldItem debug name item).bind integerOf

/-- A 32-bit integer is carried under the name. -/
def InRange (debug : CborItem → String) (item : CborItem) (name : String) : Prop :=
  ∃ n : ℕ, carried debug item name = some (n : ℤ) ∧ n < 2 ^ 32

/-- Such an integer, or nothing that is one: no entry, or one that is no number. -/
def InRangeOrNone (debug : CborItem → String) (item : CborItem) (name : String) : Prop :=
  InRange debug item name ∨
    ∀ value, fieldItem debug name item = some value → integerOf value = none ∧ ¬IsNotFinite value

/-- The integers of a first message are those that its bytes carry. -/
structure PreKeyMessage.KeepsIntegers (debug : CborItem → String) (item : CborItem)
    (message : PreKeyMessage) : Prop where
  version : carried debug item "version" = some (message.version.toNat : ℤ)
  recipientSignedPreKeyId : carried debug item "recipientSignedPreKeyId"
    = some (message.recipientSignedPreKeyId.toNat : ℤ)
  recipientOneTimePreKeyId : carried debug item "recipientOneTimePreKeyId"
    = message.recipientOneTimePreKeyId.map fun key => (key.toNat : ℤ)

structure SessionMessage.KeepsIntegers (debug : CborItem → String) (item : CborItem)
    (message : SessionMessage) : Prop where
  version : carried debug item "version" = some (message.version.toNat : ℤ)
  previousChainLength : carried debug item "previousChainLength"
    = some (message.previousChainLength.toNat : ℤ)
  messageNumber : carried debug item "messageNumber" = some (message.messageNumber.toNat : ℤ)

/-- The number that a member of the JSON value is read as. -/
theorem asU64_member (item : CborItem) (name : String) :
    (getMember (cborValueToJson debug item) name).bind asU64
      = (fieldItem debug name item).bind fun value => asU64 (cborValueToJson debug value) := by
  rw [getMember_json]
  cases fieldItem debug name item with
  | none => rfl
  | some value => rfl

/-- **A required integer** is kept when the carried one is in range. -/
theorem kept_iff {item : CborItem} (h : getU64 (cborValueToJson debug item) name = .ok n) :
    carried debug item name = some ((UInt32.ofNat n).toNat : ℤ) ↔ InRange debug item name := by
  constructor
  · intro hkept
    exact ⟨_, hkept, (UInt32.ofNat n).toNat_lt⟩
  · rintro ⟨m, hcarried, hm⟩
    rw [carried, Option.bind_eq_some_iff] at hcarried
    obtain ⟨value, hfield, hvalue⟩ := hcarried
    have hread : asU64 (cborValueToJson debug value) = some m := asU64_of_integerOf hvalue hm
    rw [getU64, asU64_member, hfield, Option.bind_some, hread] at h
    obtain rfl := Except.ok.inj h
    rw [carried, hfield, Option.bind_some, hvalue, UInt32.toNat_ofNat_of_lt' hm]

/-- **The optional integer** is kept when the carried one is in range, or there is none. -/
theorem optional_kept_iff {item : CborItem} :
    carried debug item name
        = (((getMember (cborValueToJson debug item) name).bind asU64).map UInt32.ofNat).map
            (fun key => (key.toNat : ℤ)) ↔
      InRangeOrNone debug item name := by
  rw [asU64_member]
  constructor
  · intro hkept
    cases hfield : fieldItem debug name item with
    | none =>
      refine Or.inr fun value habsurd => ?_
      rw [hfield] at habsurd
      cases habsurd
    | some value =>
      rw [hfield, Option.bind_some] at hkept
      cases hread : asU64 (cborValueToJson debug value) with
      | some n =>
        rw [hread] at hkept
        exact Or.inl ⟨_, hkept, (UInt32.ofNat n).toNat_lt⟩
      | none =>
        rw [hread, carried, hfield, Option.bind_some] at hkept
        refine Or.inr fun found hfound => ?_
        rw [hfield, Option.some.injEq] at hfound
        subst hfound
        refine ⟨hkept, fun hnotFinite => ?_⟩
        rw [asU64_of_isNotFinite hnotFinite] at hread
        cases hread
  · rintro (⟨m, hcarried, hm⟩ | hnone)
    · have hcarried' := hcarried
      rw [carried, Option.bind_eq_some_iff] at hcarried'
      obtain ⟨value, hfield, hvalue⟩ := hcarried'
      rw [hcarried, hfield, Option.bind_some, asU64_of_integerOf hvalue hm, Option.map_some,
        Option.map_some, UInt32.toNat_ofNat_of_lt' hm]
    · rw [carried]
      cases hfield : fieldItem debug name item with
      | none => rfl
      | some value =>
        obtain ⟨hvalue, hfinite⟩ := hnone value hfield
        rw [Option.bind_some, Option.bind_some, hvalue, asU64_of_not_integer hvalue hfinite]
        rfl

/-- The version that is checked is the one that is carried. -/
theorem version_kept {item : CborItem} {type : String}
    (hpayload : IsPayload (cborValueToJson debug item) type)
    (h : getU64 (cborValueToJson debug item) "version" = .ok n) :
    carried debug item "version" = some ((UInt8.ofNat n).toNat : ℤ) := by
  obtain ⟨hversion, _⟩ := hpayload
  rw [getU64, hversion] at h
  obtain rfl := Except.ok.inj h
  rw [asU64_member, Option.bind_eq_some_iff] at hversion
  obtain ⟨value, hfield, hvalue⟩ := hversion
  rw [carried, hfield, Option.bind_some, integerOf_of_asU64 hvalue (by decide)]
  rfl

/-- **What a reader of a first message returns**, as far as its integers go. -/
theorem prekeyMessageOf_eq_ok {value : Json String SerdeNumber} {message : PreKeyMessage}
    (h : prekeyMessageOf value = .ok message) :
    ∃ version signedPreKeyId, getU64 value "version" = .ok version ∧
      getU64 value "recipientSignedPreKeyId" = .ok signedPreKeyId ∧
      message.version = UInt8.ofNat version ∧
      message.recipientSignedPreKeyId = UInt32.ofNat signedPreKeyId ∧
      message.recipientOneTimePreKeyId
        = ((getMember value "recipientOneTimePreKeyId").bind asU64).map UInt32.ofNat := by
  simp only [prekeyMessageOf, bind_eq_ok, Except.ok.injEq] at h
  obtain ⟨version, hversion, _, _, _, _, _, _, _, _, _, _, _, _, _, _, _, _, signedPreKeyId,
    hsigned, _, _, _, _, rfl⟩ := h
  exact ⟨version, signedPreKeyId, hversion, hsigned, rfl, rfl, rfl⟩

theorem sessionMessageOf_eq_ok {value : Json String SerdeNumber} {message : SessionMessage}
    (h : sessionMessageOf value = .ok message) :
    ∃ version previousChainLength messageNumber, getU64 value "version" = .ok version ∧
      getU64 value "previousChainLength" = .ok previousChainLength ∧
      getU64 value "messageNumber" = .ok messageNumber ∧
      message.version = UInt8.ofNat version ∧
      message.previousChainLength = UInt32.ofNat previousChainLength ∧
      message.messageNumber = UInt32.ofNat messageNumber := by
  simp only [sessionMessageOf, bind_eq_ok, Except.ok.injEq] at h
  obtain ⟨version, hversion, _, _, _, _, _, _, _, _, _, _, _, _, _, _, previousChainLength,
    hprevious, messageNumber, hnumber, _, _, _, _, rfl⟩ := h
  exact ⟨version, previousChainLength, messageNumber, hversion, hprevious, hnumber, rfl, rfl, rfl⟩

section

variable {fromReader : List UInt8 → Option CborItem}

variable {bytes : List UInt8}

theorem prekey_keepsIntegers_iff {item : CborItem} {message : PreKeyMessage}
    (hitem : fromReader bytes = some item)
    (h : decodePrekeyMessage fromReader debug bytes = .ok message) :
    message.KeepsIntegers debug item ↔
      InRange debug item "recipientSignedPreKeyId" ∧
        InRangeOrNone debug item "recipientOneTimePreKeyId" := by
  rw [decodePrekeyMessage, cborDecodeValue, hitem, Option.map_some] at h
  dsimp only at h
  split at h
  · rename_i hpayload
    obtain ⟨version, signedPreKeyId, hversion, hsigned, hv, hs, ho⟩ := prekeyMessageOf_eq_ok h
    rw [← kept_iff hsigned, ← optional_kept_iff, ← hs, ← ho]
    constructor
    · intro hkept
      exact ⟨hkept.recipientSignedPreKeyId, hkept.recipientOneTimePreKeyId⟩
    · rintro ⟨hkeptSigned, hkeptOneTime⟩
      refine ⟨?_, hkeptSigned, hkeptOneTime⟩
      rw [hv]
      exact version_kept hpayload hversion
  · cases h

theorem session_keepsIntegers_iff {item : CborItem} {message : SessionMessage}
    (hitem : fromReader bytes = some item)
    (h : decodeSessionMessage fromReader debug bytes = .ok message) :
    message.KeepsIntegers debug item ↔
      InRange debug item "previousChainLength" ∧ InRange debug item "messageNumber" := by
  rw [decodeSessionMessage, cborDecodeValue, hitem, Option.map_some] at h
  dsimp only at h
  split at h
  · rename_i hpayload
    obtain ⟨version, previousChainLength, messageNumber, hversion, hprevious, hnumber, hv, hp,
      hn⟩ := sessionMessageOf_eq_ok h
    rw [← kept_iff hprevious, ← kept_iff hnumber, ← hp, ← hn]
    constructor
    · intro hkept
      exact ⟨hkept.previousChainLength, hkept.messageNumber⟩
    · rintro ⟨hkeptPrevious, hkeptNumber⟩
      refine ⟨?_, hkeptPrevious, hkeptNumber⟩
      rw [hv]
      exact version_kept hpayload hversion
  · cases h

/-- **The wire format.**  A message comes back from its bytes, under the tag of its kind; and the
integers of a decoded message are those that its bytes carry exactly when these are in range. -/
theorem wire_format (hreads : ReadsEncodings fromReader) (debug : CborItem → String) :
    (∀ message : PreKeyMessage, message.Sized → message.version = E2E_PROTOCOL_VERSION →
      ((encodePrekeyMessage message).bind (decodePrekeyMessage fromReader debug) = .ok message ↔
        message.messageType = .preKeyMessage)) ∧
    (∀ message : SessionMessage, message.Sized → message.version = E2E_PROTOCOL_VERSION →
      ((encodeSessionMessage message).bind (decodeSessionMessage fromReader debug) = .ok message ↔
        message.messageType = .sessionMessage)) ∧
    (∀ bytes item message, fromReader bytes = some item →
      decodePrekeyMessage fromReader debug bytes = .ok message →
        (message.KeepsIntegers debug item ↔ InRange debug item "recipientSignedPreKeyId" ∧
          InRangeOrNone debug item "recipientOneTimePreKeyId")) ∧
    ∀ bytes item message, fromReader bytes = some item →
      decodeSessionMessage fromReader debug bytes = .ok message →
        (message.KeepsIntegers debug item ↔
          InRange debug item "previousChainLength" ∧ InRange debug item "messageNumber") := by
  refine ⟨fun message hsized hversion => ?_, fun message hsized hversion => ?_,
    fun _ _ _ hitem h => prekey_keepsIntegers_iff hitem h,
    fun _ _ _ hitem h => session_keepsIntegers_iff hitem h⟩
  · rw [encodePrekeyMessage, if_neg (not_not.mpr hversion)]
    show decodePrekeyMessage fromReader debug _ = _ ↔ _
    rw [decodePrekeyMessage_encode hreads hsized hversion, Except.ok.injEq]
    constructor
    · intro hsame
      rw [← hsame]
    · intro htype
      rw [← htype]
  · rw [encodeSessionMessage, if_neg (not_not.mpr hversion)]
    show decodeSessionMessage fromReader debug _ = _ ↔ _
    rw [decodeSessionMessage_encode hreads hsized hversion, Except.ok.injEq]
    constructor
    · intro hsame
      rw [← hsame]
    · intro htype
      rw [← htype]

end

end

/-! ### A message number of 33 bits -/

/-- The reader of encodings, as the parser. -/
def sampleReader (bytes : List UInt8) : Option CborItem := (readItem 16 bytes).map Prod.fst

theorem sampleReader_reads : ReadsEncodings sampleReader := by
  intro item bytes hencodes hdepth
  have hread := readItem_of_encodes item 16 hdepth bytes [] hencodes
  rw [List.append_nil] at hread
  rw [sampleReader, hread]
  rfl

theorem wire_format_sample :
    (encodePrekeyMessage (sampleFirstMessage [4, 5])).bind
      (decodePrekeyMessage sampleReader fun _ => "") = .ok (sampleFirstMessage [4, 5]) :=
  ((wire_format sampleReader_reads fun _ => "").1 (sampleFirstMessage [4, 5])
    sampleFirstMessage_sized.1 rfl).mpr rfl

def sampleSessionMessage (messageNumber : UInt32) : SessionMessage where
  version := E2E_PROTOCOL_VERSION
  messageType := .sessionMessage
  senderDid := "did:agent:zAlice"
  receiverDid := "did:agent:zBob"
  senderDeviceId := "device-a"
  receiverDeviceId := "device-b"
  sessionId := "session-1"
  messageId := "msg-2"
  ratchetPublicKey := List.replicate 32 1
  previousChainLength := 0
  messageNumber := messageNumber
  nonce := List.replicate 24 3
  ciphertext := [4, 5]

/-- The map of a session message, with another number in the place of its own. -/
def numberedMap (messageNumber : ℤ) : List (String × E2eCborValue) :=
  (buildSessionMap (sampleSessionMessage 0) true).map fun pair =>
    if pair.1 = "messageNumber" then ("messageNumber", .int messageNumber) else pair

/-- What is read off the map by evaluation. -/
theorem numberedMap_values :
    (sampleSessionMessage 0).Sized ∧
      (∀ pair ∈ numberedMap 4294967297, pair.2.item.depth ≤ 2) ∧
      carried (fun _ => "") (E2eCborValue.map (numberedMap 4294967297)).item "messageNumber"
        = some 4294967297 := by
  decide +kernel

theorem numberedMap_sized : (E2eCborValue.map (numberedMap 4294967297)).Sized := by
  have htexts := numberedMap_values.1.1
  simp only [sampleSessionMessage, List.mem_cons, List.not_mem_nil, or_false, forall_eq_or_imp,
    forall_eq] at htexts
  rw [E2eCborValue.Sized]
  refine ⟨by simp [numberedMap, buildSessionMap, ciphertextField], ?_⟩
  simp only [numberedMap, buildSessionMap, ciphertextField, intField, textField, bytesField,
    sampleSessionMessage, if_true, List.cons_append, List.nil_append, List.map_cons, List.map_nil]
  simp only [String.reduceEq, if_false, PairsSized, E2eCborValue.Sized, and_true, htexts,
    fieldNames_sized _, List.mem_cons, true_or, or_true, true_and]
  and_intros <;> simp [E2E_PROTOCOL_VERSION]

/-- **A number is reduced**: the bytes carry `2 ^ 32 + 1`, and the message is decoded with 1. -/
theorem message_number_reduced :
    sampleReader (encode (.map (numberedMap 4294967297)))
        = some (E2eCborValue.map (numberedMap 4294967297)).item ∧
      decodeSessionMessage sampleReader (fun _ => "") (encode (.map (numberedMap 4294967297)))
        = .ok (sampleSessionMessage 1) ∧
      carried (fun _ => "") (E2eCborValue.map (numberedMap 4294967297)).item "messageNumber"
        = some 4294967297 ∧
      ¬(sampleSessionMessage 1).KeepsIntegers (fun _ => "")
        (E2eCborValue.map (numberedMap 4294967297)).item := by
  obtain ⟨-, hflat, hcarried⟩ := numberedMap_values
  refine ⟨?_, ?_, hcarried, fun hkept => ?_⟩
  · exact sampleReader_reads _ _ (encodes_encode _ numberedMap_sized)
      ((depth_map hflat).trans (by decide))
  · rw [decodeSessionMessage,
      cborDecodeValue_encode sampleReader_reads numberedMap_sized hflat]
    rfl
  · have hnumber := hkept.messageNumber
    rw [hcarried] at hnumber
    exact absurd hnumber (by decide)

end QuadraA.CoreRs
