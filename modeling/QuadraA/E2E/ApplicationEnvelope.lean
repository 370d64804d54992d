import QuadraA.E2E.Bootstrap
import QuadraA.Messaging.Envelope

/-!
# Encrypted application envelopes

`e2e/application-envelope.ts`: a signed application envelope, serialised and sealed in a wire
message, inside a signed transport envelope.

* `encryptApplicationEnvelope` — on the stored session with the recipient device if there is one,
  else with a claimed bundle;
* `decryptApplicationEnvelope` — the checks of the transport envelope, the decryption, and the
  checks of the envelope inside; its configuration is the one the decryption returned.
-/

namespace QuadraA.E2E

open QuadraA.Lib QuadraA.Messaging

def E2E_APPLICATION_ENVELOPE_PROTOCOL : String := "/agent/e2e/1.0.0"
def E2E_APPLICATION_ENVELOPE_KIND : String := "quadra-a-e2e"
def E2E_APPLICATION_ENVELOPE_VERSION : ℕ := 1
def E2E_APPLICATION_ENVELOPE_ENCODING : String := "hex"

inductive E2EMessageType where
  | prekey
  | session
deriving DecidableEq, Repr

def E2EMessageType.text : E2EMessageType → String
  | .prekey => "PREKEY_MESSAGE"
  | .session => "SESSION_MESSAGE"

inductive E2ETransport where
  | prekey
  | session
deriving DecidableEq, Repr

/-- The payload, with the constant `kind`, `version` and `encoding` fields left to the codec. -/
structure EncryptedApplicationEnvelopePayload where
  messageType : E2EMessageType
  senderDeviceId : String
  receiverDeviceId : String
  sessionId : String
  wireMessage : String
deriving DecidableEq, Repr

structure EncryptApplicationEnvelopeInput where
  e2eConfig : LocalE2EConfig
  applicationEnvelope : MessageEnvelope
  recipientDevice : PublishedDeviceDirectoryEntry
  claimedBundle : Option ClaimedPreKeyBundle := none

structure EncryptApplicationEnvelopeResult where
  payload : EncryptedApplicationEnvelopePayload
  e2eConfig : LocalE2EConfig
  transport : E2ETransport

structure DecryptApplicationEnvelopeInput where
  e2eConfig : LocalE2EConfig
  receiverDid : String
  transportEnvelope : MessageEnvelope
  now : Option ℕ := none

structure DecryptApplicationEnvelopeResult where
  applicationEnvelope : MessageEnvelope
  e2eConfig : LocalE2EConfig
  transport : E2ETransport
  senderDeviceId : String
  receiverDeviceId : String
  sessionId : String
  usedSkippedMessageKey : Bool

/-! ### The hex text of a wire message -/

def hexDigit (value : ℕ) : Char := "0123456789abcdef".toList.getD value '0'

def hexText (value : Bytes) : String :=
  String.ofList (value.flatMap fun byte => [hexDigit (byte.toNat / 16), hexDigit (byte.toNat % 16)])

def hexDigitValue (digit : Char) : Option ℕ :=
  if '0' ≤ digit ∧ digit ≤ '9' then some (digit.toNat - '0'.toNat)
  else if 'a' ≤ digit ∧ digit ≤ 'f' then some (digit.toNat - 'a'.toNat + 10)
  else if 'A' ≤ digit ∧ digit ≤ 'F' then some (digit.toNat - 'A'.toNat + 10)
  else none

/-- `Buffer.from(text, 'hex')`, which stops at the first pair that is not hex. -/
def hexTextBytes : List Char → Bytes
  | high :: low :: rest =>
      match hexDigitValue high, hexDigitValue low with
      | some h, some l => UInt8.ofNat (16 * h + l) :: hexTextBytes rest
      | _, _ => []
  | _ => []

theorem hexDigitValue_hexDigit {value : ℕ} (h : value < 16) :
    hexDigitValue (hexDigit value) = some value := by
  have hall : ∀ v < 16, hexDigitValue (hexDigit v) = some v := by decide
  exact hall value h

/-- **Hex text** reads back as the bytes it was written from. -/
theorem hexTextBytes_hexText (value : Bytes) : hexTextBytes (hexText value).toList = value := by
  rw [hexText, String.toList_ofList]
  induction value with
  | nil => rfl
  | cons byte rest ih =>
    have hbyte : byte.toNat < 256 := byte.toNat_lt
    have hhigh := hexDigitValue_hexDigit (show byte.toNat / 16 < 16 by omega)
    have hlow := hexDigitValue_hexDigit (Nat.mod_lt byte.toNat (show 16 > 0 by omega))
    rw [List.flatMap_cons, List.cons_append, List.cons_append, List.nil_append, hexTextBytes]
    simp only [hhigh, hlow]
    rw [ih, Nat.div_add_mod, UInt8.ofNat_toNat]

/-! ### Payloads -/

def WireMessage.type : WireMessage → E2EMessageType
  | .prekey _ => .prekey
  | .session _ => .session

def WireMessage.senderDid : WireMessage → String
  | .prekey message => message.senderDid
  | .session message => message.senderDid

def WireMessage.receiverDid : WireMessage → String
  | .prekey message => message.receiverDid
  | .session message => message.receiverDid

def WireMessage.senderDeviceId : WireMessage → String
  | .prekey message => message.senderDeviceId
  | .session message => message.senderDeviceId

def WireMessage.receiverDeviceId : WireMessage → String
  | .prekey message => message.receiverDeviceId
  | .session message => message.receiverDeviceId

def WireMessage.sessionId : WireMessage → String
  | .prekey message => message.sessionId
  | .session message => message.sessionId

def WireMessage.messageId : WireMessage → String
  | .prekey message => message.messageId
  | .session message => message.messageId

def serializeSignedApplicationEnvelope (services : EnvelopeServices)
    (envelope : MessageEnvelope) : Bytes :=
  services.stringifyJson envelope.toJson

def deserializeSignedApplicationEnvelope (services : EnvelopeServices) (bytes : Bytes) :
    Except EncryptionError MessageEnvelope :=
  match services.parseJson bytes with
  | none => .error .applicationJson
  | some parsed =>
      match normalizeEnvelope parsed with
      | none => .error .applicationInvalid
      | some normalized => .ok normalized

/-- The payload as the object it is. -/
def EncryptedApplicationEnvelopePayload.toJson (payload : EncryptedApplicationEnvelopePayload) :
    JsonValue :=
  .object
    [("kind", .string E2E_APPLICATION_ENVELOPE_KIND),
     ("version", .number E2E_APPLICATION_ENVELOPE_VERSION),
     ("encoding", .string E2E_APPLICATION_ENVELOPE_ENCODING),
     ("messageType", .string payload.messageType.text),
     ("senderDeviceId", .string payload.senderDeviceId),
     ("receiverDeviceId", .string payload.receiverDeviceId),
     ("sessionId", .string payload.sessionId),
     ("wireMessage", .string payload.wireMessage)]

/-- `record.messageType`, when it is one of the two. -/
def messageTypeOf (payload : JsonValue) : Option E2EMessageType :=
  match payload.stringProperty "messageType" with
  | some "PREKEY_MESSAGE" => some .prekey
  | some "SESSION_MESSAGE" => some .session
  | _ => none

def assertEncryptedApplicationEnvelopePayload (payload : JsonValue) :
    Except EncryptionError EncryptedApplicationEnvelopePayload :=
  if payload.stringProperty "kind" = some E2E_APPLICATION_ENVELOPE_KIND
      ∧ payload.numberProperty "version" = some E2E_APPLICATION_ENVELOPE_VERSION
      ∧ payload.stringProperty "encoding" = some E2E_APPLICATION_ENVELOPE_ENCODING then
    match messageTypeOf payload, payload.stringProperty "senderDeviceId",
        payload.stringProperty "receiverDeviceId", payload.stringProperty "sessionId",
        payload.stringProperty "wireMessage" with
    | some messageType, some senderDeviceId, some receiverDeviceId, some sessionId,
        some wireMessage =>
        .ok { messageType, senderDeviceId, receiverDeviceId, sessionId, wireMessage }
    | _, _, _, _, _ => .error .invalidPayload
  else .error .invalidPayload

def buildEncryptedApplicationEnvelopePayload (message : WireMessage) (wireMessage : Bytes) :
    EncryptedApplicationEnvelopePayload where
  messageType := message.type
  senderDeviceId := message.senderDeviceId
  receiverDeviceId := message.receiverDeviceId
  sessionId := message.sessionId
  wireMessage := hexText wireMessage

def assertTransportEnvelopeMatchesMessage (transportEnvelope : MessageEnvelope)
    (payload : EncryptedApplicationEnvelopePayload) (message : WireMessage) :
    Except EncryptionError Unit :=
  if transportEnvelope.protocol ≠ E2E_APPLICATION_ENVELOPE_PROTOCOL then .error .transportProtocol
  else if transportEnvelope.sender ≠ message.senderDid
      ∨ transportEnvelope.receiver ≠ message.receiverDid then .error .transportDidRouting
  else if transportEnvelope.id ≠ message.messageId then .error .transportId
  else if payload.messageType ≠ message.type ∨ payload.senderDeviceId ≠ message.senderDeviceId
      ∨ payload.receiverDeviceId ≠ message.receiverDeviceId
      ∨ payload.sessionId ≠ message.sessionId then .error .transportMetadata
  else .ok ()

def assertApplicationEnvelopeMatchesMessage (applicationEnvelope : MessageEnvelope)
    (message : WireMessage) : Except EncryptionError Unit :=
  if applicationEnvelope.id ≠ message.messageId ∨ applicationEnvelope.sender ≠ message.senderDid
      ∨ applicationEnvelope.receiver ≠ message.receiverDid then .error .applicationRouting
  else .ok ()

def assertEnvelopeSignature (services : EnvelopeServices) (envelope : MessageEnvelope)
    (label : String) : Except EncryptionError Unit := do
  let isValid ← verifyEnvelope services envelope
  if isValid then .ok () else .error (.envelopeSignature label)

def decodeEncryptedApplicationEnvelopePayload (c : Primitives) (payload : JsonValue) :
    Except EncryptionError WireMessage := do
  let payload ← assertEncryptedApplicationEnvelopePayload payload
  let wireMessage := hexTextBytes payload.wireMessage.toList
  match payload.messageType with
  | .prekey => do
      let message ← decodePreKeyMessage c wireMessage
      .ok (.prekey message)
  | .session => do
      let message ← decodeSessionMessage c wireMessage
      .ok (.session message)

/-- **A payload** is accepted as the object it was written to. -/
theorem assertEncryptedApplicationEnvelopePayload_toJson
    (payload : EncryptedApplicationEnvelopePayload) :
    assertEncryptedApplicationEnvelopePayload payload.toJson = .ok payload := by
  obtain ⟨messageType, senderDeviceId, receiverDeviceId, sessionId, wireMessage⟩ := payload
  cases messageType with
  | prekey => rfl
  | session => rfl

variable {c : Primitives} {amb : Ambient}

/-- **A message** is decoded out of the payload that was built for it, once its wire form is. -/
theorem decodeEncryptedApplicationEnvelopePayload_build {message : WireMessage}
    {wireMessage : Bytes}
    (hprekey : ∀ inner, message = .prekey inner → decodePreKeyMessage c wireMessage = .ok inner)
   
    (hsession : ∀ inner, message = .session inner → decodeSessionMessage c wireMessage = .ok inner) :
    decodeEncryptedApplicationEnvelopePayload c
      (buildEncryptedApplicationEnvelopePayload message wireMessage).toJson = .ok message := by
  rw [decodeEncryptedApplicationEnvelopePayload,
    assertEncryptedApplicationEnvelopePayload_toJson, ok_bind]
  simp only [buildEncryptedApplicationEnvelopePayload, hexTextBytes_hexText]
  cases message with
  | prekey inner => simp only [WireMessage.type, hprekey inner rfl, ok_bind]
  | session inner => simp only [WireMessage.type, hsession inner rfl, ok_bind]

/-! ### Encryption -/

def encryptApplicationEnvelope (c : Primitives) (services : EnvelopeServices) (amb : Ambient)
    (input : EncryptApplicationEnvelopeInput) :
    Except EncryptionError EncryptApplicationEnvelopeResult :=
  let plaintext := serializeSignedApplicationEnvelope services input.applicationEnvelope
  let currentDeviceId := input.e2eConfig.currentDeviceId
  match loadLocalSession input.e2eConfig currentDeviceId input.applicationEnvelope.receiver
      input.recipientDevice.deviceId with
  | some existingSession => do
      let encrypted ← encryptRatchetMessage c amb
        { session := existingSession
          plaintext := plaintext
          senderDid := input.applicationEnvelope.sender
          receiverDid := input.applicationEnvelope.receiver
          messageId := some input.applicationEnvelope.id }
      let e2eConfig ← storeLocalSession input.e2eConfig currentDeviceId encrypted.session
      .ok
        { payload := buildEncryptedApplicationEnvelopePayload (.session encrypted.message)
            (encodeSessionMessage c encrypted.message)
          e2eConfig := e2eConfig
          transport := .session }
  | none =>
      match input.claimedBundle with
      | none => .error .missingClaimedBundle
      | some claimedBundle => do
          let bootstrap ← buildInitiatorPreKeyMessage c amb
            { e2eConfig := input.e2eConfig
              senderDid := input.applicationEnvelope.sender
              receiverDid := input.applicationEnvelope.receiver
              recipientDevice := input.recipientDevice
              claimedBundle := claimedBundle
              plaintext := plaintext
              messageId := some input.applicationEnvelope.id }
          .ok
            { payload := buildEncryptedApplicationEnvelopePayload (.prekey bootstrap.message)
                (encodePreKeyMessage c bootstrap.message)
              e2eConfig := bootstrap.e2eConfig
              transport := .prekey }

/-! ### Decryption -/

/-- `decryptResult` of `decryptApplicationEnvelope`. -/
structure WireDecryptResult where
  plaintext : Bytes
  e2eConfig : LocalE2EConfig
  transport : E2ETransport
  usedSkippedMessageKey : Bool

/-- The branch on the message type in the middle of `decryptApplicationEnvelope`. -/
def decryptWireMessage (c : Primitives) (amb : Ambient) (e2eConfig : LocalE2EConfig)
    (receiverDid : String) (now : Option ℕ) :
    WireMessage → Except EncryptionError WireDecryptResult
  | .prekey message => do
      let consumed ← consumeResponderPreKeyMessage c amb { e2eConfig, receiverDid, message, now }
      .ok
        { plaintext := consumed.plaintext
          e2eConfig := consumed.e2eConfig
          transport := .prekey
          usedSkippedMessageKey := false }
  | .session message =>
      match loadLocalSession e2eConfig message.receiverDeviceId message.senderDid
          message.senderDeviceId with
      | none => .error .missingLocalSession
      | some session =>
          if session.sessionId ≠ message.sessionId then
            .error (.sessionIdMismatch session.sessionId message.sessionId)
          else do
            let decrypted ← decryptRatchetMessage c amb { session, message, now }
            let nextConfig ← storeLocalSession e2eConfig message.receiverDeviceId decrypted.session
            .ok
              { plaintext := decrypted.plaintext
                e2eConfig := nextConfig
                transport := .session
                usedSkippedMessageKey := decrypted.usedSkippedMessageKey }

def decryptApplicationEnvelope (c : Primitives) (services : EnvelopeServices) (amb : Ambient)
    (input : DecryptApplicationEnvelopeInput) :
    Except EncryptionError DecryptApplicationEnvelopeResult := do
  assertEnvelopeSignature services input.transportEnvelope "Encrypted transport envelope"
  if input.transportEnvelope.protocol ≠ E2E_APPLICATION_ENVELOPE_PROTOCOL then
    .error .transportProtocol
  else do
    let payload ← assertEncryptedApplicationEnvelopePayload input.transportEnvelope.payload
    let decodedMessage ← decodeEncryptedApplicationEnvelopePayload c input.transportEnvelope.payload
    assertTransportEnvelopeMatchesMessage input.transportEnvelope payload decodedMessage
    let decryptResult ←
      decryptWireMessage c amb input.e2eConfig input.receiverDid input.now decodedMessage
    let applicationEnvelope ← deserializeSignedApplicationEnvelope services decryptResult.plaintext
    assertApplicationEnvelopeMatchesMessage applicationEnvelope decodedMessage
    assertEnvelopeSignature services applicationEnvelope "Decrypted application envelope"
    .ok
      { applicationEnvelope := applicationEnvelope
        e2eConfig := decryptResult.e2eConfig
        transport := decryptResult.transport
        senderDeviceId := decodedMessage.senderDeviceId
        receiverDeviceId := decodedMessage.receiverDeviceId
        sessionId := decodedMessage.sessionId
        usedSkippedMessageKey := decryptResult.usedSkippedMessageKey }

/-! ### What a successful decryption went through -/

theorem decryptWireMessage_session_eq_ok {e2eConfig : LocalE2EConfig} {receiverDid : String}
    {now : Option ℕ} {message : SessionMessage} {result : WireDecryptResult} :
    decryptWireMessage c amb e2eConfig receiverDid now (.session message) = .ok result ↔
      ∃ session, loadLocalSession e2eConfig message.receiverDeviceId message.senderDid
          message.senderDeviceId = some session ∧
        session.sessionId = message.sessionId ∧
      ∃ decrypted, decryptRatchetMessage c amb { session, message, now } = .ok decrypted ∧
        storeLocalSession e2eConfig message.receiverDeviceId decrypted.session
          = .ok result.e2eConfig ∧
        result.plaintext = decrypted.plaintext ∧ result.transport = .session ∧
        result.usedSkippedMessageKey = decrypted.usedSkippedMessageKey := by
  obtain ⟨plaintext, nextConfig, transport, usedSkippedMessageKey⟩ := result
  rw [decryptWireMessage]
  cases loadLocalSession e2eConfig message.receiverDeviceId message.senderDid
      message.senderDeviceId with
  | none => simp
  | some session =>
    by_cases hid : session.sessionId = message.sessionId
    · simp only [if_neg (not_not.mpr hid), bind_eq_ok, Except.ok.injEq, WireDecryptResult.mk.injEq,
        Option.some.injEq, exists_eq_left']
      constructor
      · rintro ⟨decrypted, hdecrypt, config, hstore, rfl, rfl, rfl, rfl⟩
        exact ⟨hid, decrypted, hdecrypt, hstore, rfl, rfl, rfl⟩
      · rintro ⟨_, decrypted, hdecrypt, hstore, rfl, rfl, rfl⟩
        exact ⟨decrypted, hdecrypt, nextConfig, hstore, rfl, rfl, rfl, rfl⟩
    · simp [hid]

/-- **What `decryptApplicationEnvelope` returns**: the checks of the transport envelope, the
decryption, the checks of the envelope inside, and the configuration that the decryption returned. -/
theorem decryptApplicationEnvelope_eq_ok_iff {services : EnvelopeServices}
    {input : DecryptApplicationEnvelopeInput} {result : DecryptApplicationEnvelopeResult} :
    decryptApplicationEnvelope c services amb input = .ok result ↔
      assertEnvelopeSignature services input.transportEnvelope "Encrypted transport envelope"
          = .ok () ∧
      input.transportEnvelope.protocol = E2E_APPLICATION_ENVELOPE_PROTOCOL ∧
      ∃ payload, assertEncryptedApplicationEnvelopePayload input.transportEnvelope.payload
          = .ok payload ∧
      ∃ message, decodeEncryptedApplicationEnvelopePayload c input.transportEnvelope.payload
          = .ok message ∧
        assertTransportEnvelopeMatchesMessage input.transportEnvelope payload message = .ok () ∧
      ∃ decrypted, decryptWireMessage c amb input.e2eConfig input.receiverDid input.now message
          = .ok decrypted ∧
      ∃ applicationEnvelope, deserializeSignedApplicationEnvelope services decrypted.plaintext
          = .ok applicationEnvelope ∧
        assertApplicationEnvelopeMatchesMessage applicationEnvelope message = .ok () ∧
        assertEnvelopeSignature services applicationEnvelope "Decrypted application envelope"
          = .ok () ∧
        { applicationEnvelope := applicationEnvelope
          e2eConfig := decrypted.e2eConfig
          transport := decrypted.transport
          senderDeviceId := message.senderDeviceId
          receiverDeviceId := message.receiverDeviceId
          sessionId := message.sessionId
          usedSkippedMessageKey := decrypted.usedSkippedMessageKey } = result := by
  rw [decryptApplicationEnvelope]
  by_cases hprotocol : input.transportEnvelope.protocol = E2E_APPLICATION_ENVELOPE_PROTOCOL
  · simp only [hprotocol, ne_eq, not_true_eq_false, if_false, bind_eq_ok, Except.ok.injEq,
      true_and, Unique.exists_iff, PUnit.default_eq_unit]
  · simp [hprotocol, bind_eq_ok]

end QuadraA.E2E
