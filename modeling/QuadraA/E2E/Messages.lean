import QuadraA.E2E.Types

/-!
# Authenticated wire messages

`e2e/messages.ts`: the associated data of both message classes (every field but the ciphertext,
CBOR-encoded), their sealing and opening, and the codec of the wire form.

`decryptSessionMessage_encryptSessionMessage` and its pre-key twin say that a message sealed under
a key opens under that key to the same plaintext.

The decoder checks the version, the type tag and the byte arrays.  A property of another type,
which the casts of the source let through to the checks that follow, is refused here at once.
-/

namespace QuadraA.E2E

/-- The properties of a `PREKEY_MESSAGE`, in the order the object literal lists them. -/
def preKeyMessageFields (message : PreKeyMessageHeader) : List (String × CborValue) :=
  [("version", .number message.version),
   ("type", .text "PREKEY_MESSAGE"),
   ("senderDid", .text message.senderDid),
   ("receiverDid", .text message.receiverDid),
   ("senderDeviceId", .text message.senderDeviceId),
   ("receiverDeviceId", .text message.receiverDeviceId),
   ("sessionId", .text message.sessionId),
   ("messageId", .text message.messageId),
   ("initiatorIdentityKey", .bytes message.initiatorIdentityKey),
   ("initiatorEphemeralKey", .bytes message.initiatorEphemeralKey),
   ("recipientSignedPreKeyId", .number message.recipientSignedPreKeyId)]
  ++ (match message.recipientOneTimePreKeyId with
      | some keyId => [("recipientOneTimePreKeyId", .number keyId)]
      | none => [])
  ++ [("nonce", .bytes message.nonce)]

/-- The properties of a `SESSION_MESSAGE`, in the order the object literal lists them. -/
def sessionMessageFields (message : SessionMessageHeader) : List (String × CborValue) :=
  [("version", .number message.version),
   ("type", .text "SESSION_MESSAGE"),
   ("senderDid", .text message.senderDid),
   ("receiverDid", .text message.receiverDid),
   ("senderDeviceId", .text message.senderDeviceId),
   ("receiverDeviceId", .text message.receiverDeviceId),
   ("sessionId", .text message.sessionId),
   ("messageId", .text message.messageId),
   ("ratchetPublicKey", .bytes message.ratchetPublicKey),
   ("previousChainLength", .number message.previousChainLength),
   ("messageNumber", .number message.messageNumber),
   ("nonce", .bytes message.nonce)]

def buildPreKeyMessageAssociatedData (c : Primitives) (message : PreKeyMessageHeader) : Bytes :=
  c.encodeCBOR (.map (preKeyMessageFields message))

def buildSessionMessageAssociatedData (c : Primitives) (message : SessionMessageHeader) : Bytes :=
  c.encodeCBOR (.map (sessionMessageFields message))

def encryptPreKeyMessage (c : Primitives) (message : PreKeyMessageHeader) (key plaintext : Bytes) :
    Except EncryptionError PreKeyMessage := do
  let associatedData := buildPreKeyMessageAssociatedData c message
  let ciphertext ← encryptXChaCha20Poly1305 c key message.nonce plaintext associatedData
  .ok { message with ciphertext }

def decryptPreKeyMessage (c : Primitives) (message : PreKeyMessage) (key : Bytes) :
    Except EncryptionError Bytes :=
  decryptXChaCha20Poly1305 c key message.nonce message.ciphertext
    (buildPreKeyMessageAssociatedData c message.toPreKeyMessageHeader)

def encryptSessionMessage (c : Primitives) (message : SessionMessageHeader)
    (key plaintext : Bytes) : Except EncryptionError SessionMessage := do
  let associatedData := buildSessionMessageAssociatedData c message
  let ciphertext ← encryptXChaCha20Poly1305 c key message.nonce plaintext associatedData
  .ok { message with ciphertext }

def decryptSessionMessage (c : Primitives) (message : SessionMessage) (key : Bytes) :
    Except EncryptionError Bytes :=
  decryptXChaCha20Poly1305 c key message.nonce message.ciphertext
    (buildSessionMessageAssociatedData c message.toSessionMessageHeader)

/-! ### The wire form -/

def encodePreKeyMessage (c : Primitives) (message : PreKeyMessage) : Bytes :=
  c.encodeCBOR (.map
    (preKeyMessageFields message.toPreKeyMessageHeader ++ [("ciphertext", .bytes message.ciphertext)]))

def encodeSessionMessage (c : Primitives) (message : SessionMessage) : Bytes :=
  c.encodeCBOR (.map
    (sessionMessageFields message.toSessionMessageHeader ++ [("ciphertext", .bytes message.ciphertext)]))

/-- A property of a decoded value; `none` for a missing one. -/
def CborValue.property (value : CborValue) (name : String) : Option CborValue :=
  match value with
  | .map entries => (entries.find? fun entry => entry.1 = name).map Prod.snd
  | _ => none

/-- The bytes of an array whose items are integers from 0 to 255. -/
def byteItems : List CborValue → Option Bytes
  | [] => some []
  | .number item :: rest =>
      if item ≤ 255 then (byteItems rest).map (UInt8.ofNat item :: ·) else none
  | _ :: _ => none

def asBytes (value : Option CborValue) (label : String) : Except EncryptionError Bytes :=
  match value with
  | some (.bytes bytes) => .ok bytes
  | some (.array items) =>
      match byteItems items with
      | some bytes => .ok bytes
      | none => .error (.invalidByteArray label)
  | _ => .error (.invalidByteArray label)

/-- `decoded.field as string`. -/
def asText (value : Option CborValue) (label : String) : Except EncryptionError String :=
  match value with
  | some (.text text) => .ok text
  | _ => .error (.invalidField label)

/-- `decoded.field as number`. -/
def asNumber (value : Option CborValue) (label : String) : Except EncryptionError ℕ :=
  match value with
  | some (.number number) => .ok number
  | _ => .error (.invalidField label)

/-- `decodeCBOR(data)`; what it throws is not an `EncryptionError`, and passes through. -/
def decodeValue (c : Primitives) (data : Bytes) : Except EncryptionError CborValue :=
  match c.decodeCBOR data with
  | some value => .ok value
  | none => .error .decodeCBOR

def validateCommonFields (value : CborValue) (expectedType : String) :
    Except EncryptionError Unit :=
  match value.property "version", value.property "type" with
  | some (.number version), some (.text type) =>
      if version ≠ E2E_PROTOCOL_VERSION then .error (.invalidVersion expectedType)
      else if type ≠ expectedType then .error (.invalidMessageType expectedType)
      else .ok ()
  | some (.number version), _ =>
      if version ≠ E2E_PROTOCOL_VERSION then .error (.invalidVersion expectedType)
      else .error (.invalidMessageType expectedType)
  | _, _ => .error (.invalidVersion expectedType)

def decodePreKeyMessage (c : Primitives) (data : Bytes) : Except EncryptionError PreKeyMessage := do
  let decoded ← decodeValue c data
  validateCommonFields decoded "PREKEY_MESSAGE"
  let version ← asNumber (decoded.property "version") "version"
  let senderDid ← asText (decoded.property "senderDid") "senderDid"
  let receiverDid ← asText (decoded.property "receiverDid") "receiverDid"
  let senderDeviceId ← asText (decoded.property "senderDeviceId") "senderDeviceId"
  let receiverDeviceId ← asText (decoded.property "receiverDeviceId") "receiverDeviceId"
  let sessionId ← asText (decoded.property "sessionId") "sessionId"
  let messageId ← asText (decoded.property "messageId") "messageId"
  let initiatorIdentityKey ←
    asBytes (decoded.property "initiatorIdentityKey") "initiatorIdentityKey"
  let initiatorEphemeralKey ←
    asBytes (decoded.property "initiatorEphemeralKey") "initiatorEphemeralKey"
  let recipientSignedPreKeyId ←
    asNumber (decoded.property "recipientSignedPreKeyId") "recipientSignedPreKeyId"
  let recipientOneTimePreKeyId := match decoded.property "recipientOneTimePreKeyId" with
    | some (.number keyId) => some keyId
    | _ => none
  let nonce ← asBytes (decoded.property "nonce") "nonce"
  let ciphertext ← asBytes (decoded.property "ciphertext") "ciphertext"
  .ok { version, senderDid, receiverDid, senderDeviceId, receiverDeviceId, sessionId, messageId,
        initiatorIdentityKey, initiatorEphemeralKey, recipientSignedPreKeyId,
        recipientOneTimePreKeyId, nonce, ciphertext }

def decodeSessionMessage (c : Primitives) (data : Bytes) :
    Except EncryptionError SessionMessage := do
  let decoded ← decodeValue c data
  validateCommonFields decoded "SESSION_MESSAGE"
  let version ← asNumber (decoded.property "version") "version"
  let senderDid ← asText (decoded.property "senderDid") "senderDid"
  let receiverDid ← asText (decoded.property "receiverDid") "receiverDid"
  let senderDeviceId ← asText (decoded.property "senderDeviceId") "senderDeviceId"
  let receiverDeviceId ← asText (decoded.property "receiverDeviceId") "receiverDeviceId"
  let sessionId ← asText (decoded.property "sessionId") "sessionId"
  let messageId ← asText (decoded.property "messageId") "messageId"
  let ratchetPublicKey ← asBytes (decoded.property "ratchetPublicKey") "ratchetPublicKey"
  let previousChainLength ←
    asNumber (decoded.property "previousChainLength") "previousChainLength"
  let messageNumber ← asNumber (decoded.property "messageNumber") "messageNumber"
  let nonce ← asBytes (decoded.property "nonce") "nonce"
  let ciphertext ← asBytes (decoded.property "ciphertext") "ciphertext"
  .ok { version, senderDid, receiverDid, senderDeviceId, receiverDeviceId, sessionId, messageId,
        ratchetPublicKey, previousChainLength, messageNumber, nonce, ciphertext }

variable {c : Primitives} {message : PreKeyMessage} {header : SessionMessageHeader}
  {plaintext : Bytes}

/-- **A first message** is decoded from its wire form, once the codec reads its fields back. -/
theorem decodePreKeyMessage_of_fields {data : Bytes}
    (hversion : message.version = E2E_PROTOCOL_VERSION)
    (hdata : c.decodeCBOR data = some (.map
      (preKeyMessageFields message.toPreKeyMessageHeader
        ++ [("ciphertext", .bytes message.ciphertext)]))) :
    decodePreKeyMessage c data = .ok message := by
  obtain ⟨⟨version, senderDid, receiverDid, senderDeviceId, receiverDeviceId, sessionId, messageId,
    identityKey, ephemeralKey, signedPreKeyId, oneTimePreKeyId, nonce⟩, ciphertext⟩ := message
  obtain rfl : version = E2E_PROTOCOL_VERSION := hversion
  rw [decodePreKeyMessage, decodeValue, hdata]
  cases oneTimePreKeyId with
  | none => rfl
  | some keyId => rfl

/-! ### The sealed form -/

theorem encryptSessionMessage_eq_ok {key : Bytes} {message : SessionMessage} :
    encryptSessionMessage c header key plaintext = .ok message ↔
      message.toSessionMessageHeader = header ∧
        encryptXChaCha20Poly1305 c key header.nonce plaintext
          (buildSessionMessageAssociatedData c header) = .ok message.ciphertext := by
  obtain ⟨header', ciphertext⟩ := message
  unfold encryptSessionMessage
  cases hseal : encryptXChaCha20Poly1305 c key header.nonce plaintext
      (buildSessionMessageAssociatedData c header) with
  | error e => simp [hseal, bind, Except.bind]
  | ok sealed => simp [hseal, bind, Except.bind, eq_comm]

theorem encryptPreKeyMessage_eq_ok {header : PreKeyMessageHeader} {key : Bytes} :
    encryptPreKeyMessage c header key plaintext = .ok message ↔
      message.toPreKeyMessageHeader = header ∧
        encryptXChaCha20Poly1305 c key header.nonce plaintext
          (buildPreKeyMessageAssociatedData c header) = .ok message.ciphertext := by
  obtain ⟨header', ciphertext⟩ := message
  unfold encryptPreKeyMessage
  cases hseal : encryptXChaCha20Poly1305 c key header.nonce plaintext
      (buildPreKeyMessageAssociatedData c header) with
  | error e => simp [hseal, bind, Except.bind]
  | ok sealed => simp [hseal, bind, Except.bind, eq_comm]

/-- A sealed session message opens under its key. -/
theorem decryptSessionMessage_encryptSessionMessage (hc : c.Lawful) {key : Bytes}
    {message : SessionMessage} (h : encryptSessionMessage c header key plaintext = .ok message) :
    decryptSessionMessage c message key = .ok plaintext := by
  obtain ⟨rfl, hseal⟩ := encryptSessionMessage_eq_ok.mp h
  exact decrypt_encrypt hc hseal

/-- A sealed pre-key message opens under its key. -/
theorem decryptPreKeyMessage_encryptPreKeyMessage (hc : c.Lawful) {header : PreKeyMessageHeader}
    {key : Bytes} (h : encryptPreKeyMessage c header key plaintext = .ok message) :
    decryptPreKeyMessage c message key = .ok plaintext := by
  obtain ⟨rfl, hseal⟩ := encryptPreKeyMessage_eq_ok.mp h
  exact decrypt_encrypt hc hseal

end QuadraA.E2E
