import QuadraA.E2E.X25519
import QuadraA.Lib.Record

/-!
# The data of the end-to-end layer

The records of `e2e/types.ts`, with the session state of `e2e/ratchet.ts` and the bootstrap state
of `e2e/bootstrap.ts` that a device stores in its `sessions` map.  Stored key material is hex
(`HexString`), key material on the wire is bytes, counters and timestamps are natural numbers, and
an optional property is an `Option`.  The `type` tag of a wire message is its Lean type.
-/

namespace QuadraA.E2E

open QuadraA.Lib

def E2E_PROTOCOL_VERSION : ℕ := 1
def X3DH_INFO : String := "quadra-a/e2e/x3dh/v1"
def X3DH_SALT : String := "quadra-a/e2e/x3dh/salt/v1"

/-! ### Published pre-key material -/

structure PublishedDeviceDirectoryEntry where
  deviceId : String
  identityKeyPublic : HexString
  signedPreKeyPublic : HexString
  signedPreKeyId : ℕ
  signedPreKeySignature : HexString
  oneTimePreKeyCount : ℕ
  lastResupplyAt : ℕ
deriving DecidableEq, Repr

structure PublishedOneTimePreKey where
  keyId : ℕ
  publicKey : HexString
deriving DecidableEq, Repr

structure PublishedPreKeyBundle extends PublishedDeviceDirectoryEntry where
  oneTimePreKeys : List PublishedOneTimePreKey
deriving DecidableEq, Repr

structure ClaimedPreKeyBundle extends PublishedDeviceDirectoryEntry where
  oneTimePreKey : Option PublishedOneTimePreKey
  remainingOneTimePreKeyCount : ℕ
deriving DecidableEq, Repr

/-! ### Sessions -/

structure LocalDeviceKeyPair where
  publicKey : HexString
  privateKey : HexString
deriving DecidableEq, Repr

structure LocalSessionBootstrapState where
  selfIdentityKey : HexString
  peerIdentityKey : HexString
  initiatorEphemeralKey : HexString
  recipientSignedPreKeyId : ℕ
  recipientSignedPreKeyPublic : HexString
  recipientOneTimePreKeyId : Option ℕ
deriving DecidableEq, Repr

structure SkippedMessageKeyState where
  ratchetPublicKey : HexString
  messageNumber : ℕ
  messageKey : HexString
deriving DecidableEq, Repr

inductive SessionRole where
  | initiator
  | responder
deriving DecidableEq, Repr

structure LocalSessionState where
  sessionId : String
  peerDid : String
  peerDeviceId : String
  selfDeviceId : String
  role : SessionRole
  rootKey : HexString
  currentRatchetKey : LocalDeviceKeyPair
  remoteRatchetPublicKey : HexString
  sendingChainKey : Option HexString
  receivingChainKey : Option HexString
  createdAt : ℕ
  updatedAt : ℕ
  nextSendMessageNumber : ℕ
  nextReceiveMessageNumber : ℕ
  previousSendChainLength : ℕ
  skippedMessageKeys : List SkippedMessageKeyState
  bootstrap : LocalSessionBootstrapState
deriving DecidableEq, Repr

/-! ### Devices -/

structure LocalSignedPreKeyState extends LocalDeviceKeyPair where
  signedPreKeyId : ℕ
  signature : HexString
  createdAt : ℕ
deriving DecidableEq, Repr

structure LocalOneTimePreKeyState extends LocalDeviceKeyPair where
  keyId : ℕ
  createdAt : ℕ
  claimedAt : Option ℕ
deriving DecidableEq, Repr

structure LocalDeviceState where
  deviceId : String
  createdAt : ℕ
  identityKey : LocalDeviceKeyPair
  signedPreKey : LocalSignedPreKeyState
  oneTimePreKeys : List LocalOneTimePreKeyState
  lastResupplyAt : ℕ
  sessions : Record String LocalSessionState
deriving DecidableEq

structure LocalE2EConfig where
  currentDeviceId : String
  devices : Record String LocalDeviceState
deriving DecidableEq

/-! ### Wire messages -/

/-- `Omit<PreKeyMessage, 'ciphertext'>`. -/
structure PreKeyMessageHeader where
  version : ℕ
  senderDid : String
  receiverDid : String
  senderDeviceId : String
  receiverDeviceId : String
  sessionId : String
  messageId : String
  initiatorIdentityKey : Bytes
  initiatorEphemeralKey : Bytes
  recipientSignedPreKeyId : ℕ
  recipientOneTimePreKeyId : Option ℕ
  nonce : Bytes
deriving DecidableEq, Repr

structure PreKeyMessage extends PreKeyMessageHeader where
  ciphertext : Bytes
deriving DecidableEq, Repr

/-- `Omit<SessionMessage, 'ciphertext'>`. -/
structure SessionMessageHeader where
  version : ℕ
  senderDid : String
  receiverDid : String
  senderDeviceId : String
  receiverDeviceId : String
  sessionId : String
  messageId : String
  ratchetPublicKey : Bytes
  previousChainLength : ℕ
  messageNumber : ℕ
  nonce : Bytes
deriving DecidableEq, Repr

structure SessionMessage extends SessionMessageHeader where
  ciphertext : Bytes
deriving DecidableEq, Repr

/-- A decoded wire message: the union `PreKeyMessage | SessionMessage`. -/
inductive WireMessage where
  | prekey (message : PreKeyMessage)
  | session (message : SessionMessage)
deriving DecidableEq, Repr

/-! ### What a call draws from its environment -/

/-- The values that `randomBytes`, the id generators, `generateX25519KeyPair` and `Date.now` return
while one call runs; a caller that passes an explicit value overrides the drawn one. -/
structure Ambient where
  nonce : Bytes
  messageId : String
  sessionId : String
  keyPair : X25519KeyPair
  now : ℕ
deriving DecidableEq, Repr

end QuadraA.E2E
