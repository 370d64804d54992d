import Mathlib.Data.List.Basic

/-!
# Byte strings and the cryptographic primitives of the end-to-end layer

`e2e/x25519.ts` wraps three third-party primitives: the X25519 agreement of `node:crypto`, the
HKDF of `@noble/hashes` and the XChaCha20-Poly1305 of `@noble/ciphers`; `e2e/messages.ts` adds the
CBOR codec of `cbor-x` and `identity/keys.ts` the signatures of `@noble/ed25519`.  None of their code is part of the repository, so they are the fields of
`Primitives`, a parameter of everything below.  The length checks and the error wrapping around
them are the repository's and are modelled here.

* `Primitives.Lawful` — the documented behaviour the ratchet relies on: the Diffie–Hellman
  agreement is commutative on key pairs, HKDF returns as many bytes as it was asked for, and an
  AEAD ciphertext opens under the key, nonce and associated data it was sealed with;
* `diffieHellmanX25519_comm`, `decrypt_encrypt` — the two laws, through the wrappers.

Key material in stored state is written in lower-case hex.  `HexString` keeps such a string as the
bytes it spells, so that `hexToBytes` inverts `bytesToHex` and equal strings are equal bytes.
-/

namespace QuadraA.E2E

/-- A `Uint8Array`. -/
abbrev Bytes := List UInt8

/-- A lower-case hex string, kept as the bytes it spells. -/
structure HexString where
  bytes : Bytes
deriving DecidableEq, Repr

def bytesToHex (value : Bytes) : HexString := ⟨value⟩

def hexToBytes (value : HexString) : Bytes := value.bytes

@[simp] theorem hexToBytes_bytesToHex (value : Bytes) : hexToBytes (bytesToHex value) = value := rfl

@[simp] theorem bytesToHex_inj {a b : Bytes} : bytesToHex a = bytesToHex b ↔ a = b := by
  simp [bytesToHex]

/-- `Uint8Array.prototype.slice(start, end)`. -/
def slice (value : Bytes) (start stop : ℕ) : Bytes := (value.drop start).take (stop - start)

def utf8ToBytes (value : String) : Bytes := value.toUTF8.data.toList

def concatBytes (parts : List Bytes) : Bytes := parts.flatten

/-! ### Errors -/

/-- The failures of the end-to-end layer, one constructor for each `throw` of `e2e/*.ts`, with the
data the thrown object carries. -/
inductive EncryptionError where
  | rawKeyLength (label : String) (length : ℕ)
  | xchachaNonceLength (length : ℕ)
  | deriveX25519SharedSecret
  | encryptXChaCha20Poly1305
  | decryptXChaCha20Poly1305
  | x3dhInitiator
  | x3dhResponder
  | ratchetNonceLength (length : ℕ)
  | missingReceivingChainWhileSkipping (untilMessageNumber nextReceiveMessageNumber : ℕ)
  | skippedWindowExceeded (gap maxSkippedMessageKeys : ℕ)
  | missingSendingChain
  | missingReceivingChain
  | missingLocalDevice (deviceId : String)
  | missingCurrentDevice (deviceId : String)
  | missingDeviceState (deviceId : String)
  | bundleDirectoryMismatch (field : String)
  | receiverDidMismatch (expected actual : String)
  | missingOneTimePreKey (receiverDeviceId : String) (recipientOneTimePreKeyId : ℕ)
  | oneTimePreKeyConsumed (receiverDeviceId : String) (recipientOneTimePreKeyId claimedAt : ℕ)
  | signedPreKeyIdMismatch (receiverDeviceId : String) (expected actual : ℕ)
  | decodeCBOR
  | invalidByteArray (label : String)
  | invalidVersion (expectedType : String)
  | invalidMessageType (expectedType : String)
  | invalidField (label : String)
  | invalidPayload
  | transportProtocol
  | transportDidRouting
  | transportId
  | transportMetadata
  | applicationJson
  | applicationInvalid
  | applicationRouting
  | verifyEnvelope
  | envelopeSignature (label : String)
  | missingLocalSession
  | sessionIdMismatch (expected actual : String)
  | missingClaimedBundle
deriving DecidableEq, Repr

/-- The text of the thrown error. -/
def EncryptionError.message : EncryptionError → String
  | .rawKeyLength label _ => label ++ " must be 32 bytes"
  | .xchachaNonceLength _ => "XChaCha20-Poly1305 nonce must be 24 bytes"
  | .deriveX25519SharedSecret => "Failed to derive X25519 shared secret"
  | .encryptXChaCha20Poly1305 => "Failed to encrypt with XChaCha20-Poly1305"
  | .decryptXChaCha20Poly1305 => "Failed to decrypt with XChaCha20-Poly1305"
  | .x3dhInitiator => "Failed to derive initiator X3DH shared secret"
  | .x3dhResponder => "Failed to derive responder X3DH shared secret"
  | .ratchetNonceLength _ => "Double Ratchet nonce must be 24 bytes"
  | .missingReceivingChainWhileSkipping _ _ => "Missing receiving chain key while skipping messages"
  | .skippedWindowExceeded _ _ => "Skipped-message window exceeded"
  | .missingSendingChain => "Missing sending chain key after ratchet initialization"
  | .missingReceivingChain => "Missing receiving chain key for session message decryption"
  | .missingLocalDevice deviceId => "Missing local E2E device " ++ deviceId
  | .missingCurrentDevice deviceId => "Missing current E2E device state for " ++ deviceId
  | .missingDeviceState deviceId => "Missing local E2E device state for " ++ deviceId
  | .bundleDirectoryMismatch _ =>
      "Claimed pre-key bundle does not match trusted device directory entry"
  | .receiverDidMismatch _ _ => "PREKEY_MESSAGE receiver DID mismatch"
  | .missingOneTimePreKey _ _ => "Missing claimed one-time pre-key for PREKEY_MESSAGE"
  | .oneTimePreKeyConsumed _ _ _ => "Claimed one-time pre-key already consumed for PREKEY_MESSAGE"
  | .signedPreKeyIdMismatch _ _ _ =>
      "PREKEY_MESSAGE signed pre-key id does not match current receiver device state"
  | .decodeCBOR => "Failed to decode CBOR"
  | .invalidByteArray label => "Invalid " ++ label ++ ": expected byte array"
  | .invalidVersion expectedType => "Invalid " ++ expectedType ++ " version"
  | .invalidMessageType _ => "Invalid message type"
  | .invalidField label => "Invalid " ++ label
  | .invalidPayload => "Invalid encrypted application envelope payload"
  | .transportProtocol => "Transport envelope protocol is not the E2E application protocol"
  | .transportDidRouting => "Transport envelope DID routing does not match encrypted message"
  | .transportId => "Transport envelope id does not match encrypted message id"
  | .transportMetadata =>
      "Transport envelope metadata does not match encrypted message payload"
  | .applicationJson => "Failed to parse signed application envelope JSON"
  | .applicationInvalid => "Decrypted application envelope is invalid"
  | .applicationRouting =>
      "Decrypted application envelope does not match encrypted message routing"
  | .verifyEnvelope => "Failed to verify envelope"
  | .envelopeSignature label => label ++ " signature verification failed"
  | .missingLocalSession => "Missing local E2E session for SESSION_MESSAGE"
  | .sessionIdMismatch _ _ => "SESSION_MESSAGE session id does not match local ratchet state"
  | .missingClaimedBundle => "Missing claimed pre-key bundle for first encrypted send"

/-- `try { body } catch (error) { throw new EncryptionError(wrapper, error) }`. -/
def wrapError {α : Type} (wrapper : EncryptionError) (body : Except EncryptionError α) :
    Except EncryptionError α :=
  match body with
  | .ok value => .ok value
  | .error _ => .error wrapper

@[simp] theorem wrapError_eq_ok {α : Type} {wrapper : EncryptionError}
    {body : Except EncryptionError α} {value : α} :
    wrapError wrapper body = .ok value ↔ body = .ok value := by
  cases body <;> simp [wrapError]

/-! ### Primitives -/

/-- The values that `encodeCBOR` and `decodeCBOR` exchange with this layer. -/
inductive CborValue where
  | text (value : String)
  | number (value : ℕ)
  | bytes (value : Bytes)
  | array (items : List CborValue)
  | map (entries : List (String × CborValue))
deriving Repr

/-- The third-party primitives.  `none` stands for a thrown error. -/
structure Primitives where
  /-- The X25519 public key of a private key. -/
  derivePublicKey : Bytes → Bytes
  /-- `diffieHellman` of `node:crypto`, private key first. -/
  nodeDiffieHellman : Bytes → Bytes → Option Bytes
  /-- `hkdf(sha256, inputKeyMaterial, salt, info, length)`. -/
  hkdf : Bytes → Bytes → Bytes → ℕ → Bytes
  /-- `xchacha20poly1305(key, nonce, associatedData).encrypt(plaintext)`. -/
  aeadEncrypt : Bytes → Bytes → Bytes → Bytes → Bytes
  /-- `xchacha20poly1305(key, nonce, associatedData).decrypt(ciphertext)`. -/
  aeadDecrypt : Bytes → Bytes → Bytes → Bytes → Option Bytes
  encodeCBOR : CborValue → Bytes
  decodeCBOR : Bytes → Option CborValue
  /-- `ed25519.signAsync(message, privateKey)`. -/
  ed25519Sign : Bytes → Bytes → Bytes
  /-- `ed25519.verifyAsync(signature, message, publicKey)`. -/
  ed25519Verify : Bytes → Bytes → Bytes → Bool

/-- What the repository relies on the primitives for. -/
structure Primitives.Lawful (c : Primitives) : Prop where
  /-- Both ends of an agreement compute one value. -/
  diffieHellman_comm : ∀ a b : Bytes, a.length = 32 → b.length = 32 →
    c.nodeDiffieHellman a (c.derivePublicKey b) = c.nodeDiffieHellman b (c.derivePublicKey a)
  /-- HKDF expands to the length it is asked for. -/
  hkdf_length : ∀ ikm salt info length, (c.hkdf ikm salt info length).length = length
  /-- A ciphertext opens under the key, nonce and associated data it was sealed with. -/
  aeadDecrypt_aeadEncrypt : ∀ key nonce associatedData plaintext,
    key.length = 32 → nonce.length = 24 →
    c.aeadDecrypt key nonce associatedData (c.aeadEncrypt key nonce associatedData plaintext)
      = some plaintext

/-- An ideal cipher: it opens what was sealed under the very key, nonce and associated data that it
is given, and no ciphertext is sealed under two of them. -/
structure Primitives.IdealAEAD (c : Primitives) : Prop where
  sealed_of_opens : ∀ {key nonce associatedData ciphertext plaintext},
    c.aeadDecrypt key nonce associatedData ciphertext = some plaintext →
      ciphertext = c.aeadEncrypt key nonce associatedData plaintext
  aeadEncrypt_inj : ∀ {key nonce associatedData plaintext key' nonce' associatedData' plaintext'},
    c.aeadEncrypt key nonce associatedData plaintext
        = c.aeadEncrypt key' nonce' associatedData' plaintext' →
      key = key' ∧ nonce = nonce' ∧ associatedData = associatedData' ∧ plaintext = plaintext'

variable {c : Primitives} {nonce associatedData plaintext ciphertext : Bytes}

/-- A ciphertext opens under one key, one nonce and one associated data. -/
theorem Primitives.IdealAEAD.opens_once (hc : c.IdealAEAD)
    {key key' nonce' associatedData' plaintext' : Bytes}
    (h : c.aeadDecrypt key nonce associatedData ciphertext = some plaintext)
    (h' : c.aeadDecrypt key' nonce' associatedData' ciphertext = some plaintext') :
    key = key' ∧ nonce = nonce' ∧ associatedData = associatedData' ∧ plaintext = plaintext' := by
  refine hc.aeadEncrypt_inj ?_
  rw [← hc.sealed_of_opens h, ← hc.sealed_of_opens h']

structure X25519KeyPair where
  publicKey : Bytes
  privateKey : Bytes
deriving DecidableEq, Repr

/-- A pair as `generateX25519KeyPair` returns it: 32-byte keys, the public one derived from the
private one. -/
structure IsKeyPair (c : Primitives) (pair : X25519KeyPair) : Prop where
  publicKey_eq : pair.publicKey = c.derivePublicKey pair.privateKey
  publicKey_length : pair.publicKey.length = 32
  privateKey_length : pair.privateKey.length = 32

def validateRawKeyLength (key : Bytes) (label : String) : Except EncryptionError Unit :=
  if key.length ≠ 32 then .error (.rawKeyLength label key.length) else .ok ()

def validateNonceLength (nonce : Bytes) : Except EncryptionError Unit :=
  if nonce.length ≠ 24 then .error (.xchachaNonceLength nonce.length) else .ok ()

def diffieHellmanX25519 (c : Primitives) (privateKey publicKey : Bytes) :
    Except EncryptionError Bytes :=
  wrapError .deriveX25519SharedSecret do
    validateRawKeyLength privateKey "X25519 private key"
    validateRawKeyLength publicKey "X25519 public key"
    match c.nodeDiffieHellman privateKey publicKey with
    | some secret => .ok secret
    | none => .error .deriveX25519SharedSecret

def hkdfSha256 (c : Primitives) (inputKeyMaterial salt info : Bytes) (length : ℕ) : Bytes :=
  c.hkdf inputKeyMaterial salt info length

def encryptXChaCha20Poly1305 (c : Primitives) (key nonce plaintext associatedData : Bytes) :
    Except EncryptionError Bytes :=
  wrapError .encryptXChaCha20Poly1305 do
    validateRawKeyLength key "XChaCha20-Poly1305 key"
    validateNonceLength nonce
    .ok (c.aeadEncrypt key nonce associatedData plaintext)

def decryptXChaCha20Poly1305 (c : Primitives) (key nonce ciphertext associatedData : Bytes) :
    Except EncryptionError Bytes :=
  wrapError .decryptXChaCha20Poly1305 do
    validateRawKeyLength key "XChaCha20-Poly1305 key"
    validateNonceLength nonce
    match c.aeadDecrypt key nonce associatedData ciphertext with
    | some plaintext => .ok plaintext
    | none => .error .decryptXChaCha20Poly1305

/-! ### What the wrappers return -/

theorem diffieHellmanX25519_eq_ok {privateKey publicKey secret : Bytes} :
    diffieHellmanX25519 c privateKey publicKey = .ok secret ↔
      privateKey.length = 32 ∧ publicKey.length = 32 ∧
        c.nodeDiffieHellman privateKey publicKey = some secret := by
  unfold diffieHellmanX25519 validateRawKeyLength
  by_cases hpriv : privateKey.length = 32 <;> by_cases hpub : publicKey.length = 32 <;>
    cases hdh : c.nodeDiffieHellman privateKey publicKey <;>
      simp [hpriv, hpub, wrapError, bind, Except.bind]

/-- **Commutativity through the wrapper**: the two ends of an agreement between key pairs return
the same secret, or fail alike. -/
theorem diffieHellmanX25519_comm (hc : c.Lawful) {a b : X25519KeyPair} (ha : IsKeyPair c a)
    (hb : IsKeyPair c b) :
    diffieHellmanX25519 c a.privateKey b.publicKey
      = diffieHellmanX25519 c b.privateKey a.publicKey := by
  have hcomm := hc.diffieHellman_comm a.privateKey b.privateKey
    ha.privateKey_length hb.privateKey_length
  rw [← ha.publicKey_eq, ← hb.publicKey_eq] at hcomm
  simp only [diffieHellmanX25519, validateRawKeyLength, ha.publicKey_length,
    ha.privateKey_length, hb.publicKey_length, hb.privateKey_length, hcomm]

theorem encryptXChaCha20Poly1305_eq_ok {key : Bytes} :
    encryptXChaCha20Poly1305 c key nonce plaintext associatedData = .ok ciphertext ↔
      key.length = 32 ∧ nonce.length = 24 ∧
        c.aeadEncrypt key nonce associatedData plaintext = ciphertext := by
  unfold encryptXChaCha20Poly1305 validateRawKeyLength validateNonceLength
  by_cases hkey : key.length = 32 <;> by_cases hnonce : nonce.length = 24 <;>
    simp [hkey, hnonce, wrapError, bind, Except.bind]

theorem decryptXChaCha20Poly1305_eq_ok {key : Bytes} :
    decryptXChaCha20Poly1305 c key nonce ciphertext associatedData = .ok plaintext ↔
      key.length = 32 ∧ nonce.length = 24 ∧
        c.aeadDecrypt key nonce associatedData ciphertext = some plaintext := by
  unfold decryptXChaCha20Poly1305 validateRawKeyLength validateNonceLength
  by_cases hkey : key.length = 32 <;> by_cases hnonce : nonce.length = 24 <;>
    cases hopen : c.aeadDecrypt key nonce associatedData ciphertext <;>
      simp [hkey, hnonce, wrapError, bind, Except.bind]

/-- **AEAD round trip through the wrappers.** -/
theorem decrypt_encrypt (hc : c.Lawful) {key : Bytes}
    (h : encryptXChaCha20Poly1305 c key nonce plaintext associatedData = .ok ciphertext) :
    decryptXChaCha20Poly1305 c key nonce ciphertext associatedData = .ok plaintext := by
  obtain ⟨hkey, hnonce, rfl⟩ := encryptXChaCha20Poly1305_eq_ok.mp h
  exact decryptXChaCha20Poly1305_eq_ok.mpr
    ⟨hkey, hnonce, hc.aeadDecrypt_aeadEncrypt key nonce associatedData plaintext hkey hnonce⟩

end QuadraA.E2E
