import QuadraA.E2E.Types
import QuadraA.Lib.Except

/-!
# The X3DH shared secret

`e2e/x3dh.ts`: three or four Diffie–Hellman agreements, concatenated and expanded to 32 bytes.

`deriveX3dhSharedSecret_agree` is the agreement of the two ends: on matching key pairs the
initiator and the responder derive one secret, with or without a one-time pre-key.
-/

namespace QuadraA.E2E

open QuadraA.Lib

structure X3DHInitiatorInput where
  initiatorIdentityPrivate : Bytes
  initiatorEphemeralPrivate : Bytes
  recipientIdentityPublic : Bytes
  recipientSignedPreKeyPublic : Bytes
  recipientOneTimePreKeyPublic : Option Bytes

structure X3DHResponderInput where
  recipientIdentityPrivate : Bytes
  recipientSignedPreKeyPrivate : Bytes
  initiatorIdentityPublic : Bytes
  initiatorEphemeralPublic : Bytes
  recipientOneTimePreKeyPrivate : Option Bytes

def deriveX3dhSharedSecret (c : Primitives) (parts : List Bytes) : Bytes :=
  hkdfSha256 c (concatBytes parts) (utf8ToBytes X3DH_SALT) (utf8ToBytes X3DH_INFO) 32

def deriveX3dhInitiatorSharedSecret (c : Primitives) (input : X3DHInitiatorInput) :
    Except EncryptionError Bytes :=
  wrapError .x3dhInitiator do
    let identityPart ← diffieHellmanX25519 c input.initiatorIdentityPrivate
      input.recipientSignedPreKeyPublic
    let ephemeralPart ← diffieHellmanX25519 c input.initiatorEphemeralPrivate
      input.recipientIdentityPublic
    let signedPreKeyPart ← diffieHellmanX25519 c input.initiatorEphemeralPrivate
      input.recipientSignedPreKeyPublic
    match input.recipientOneTimePreKeyPublic with
    | none => .ok (deriveX3dhSharedSecret c [identityPart, ephemeralPart, signedPreKeyPart])
    | some recipientOneTimePreKeyPublic => do
        let oneTimePart ← diffieHellmanX25519 c input.initiatorEphemeralPrivate
          recipientOneTimePreKeyPublic
        .ok (deriveX3dhSharedSecret c
          [identityPart, ephemeralPart, signedPreKeyPart, oneTimePart])

def deriveX3dhResponderSharedSecret (c : Primitives) (input : X3DHResponderInput) :
    Except EncryptionError Bytes :=
  wrapError .x3dhResponder do
    let identityPart ← diffieHellmanX25519 c input.recipientSignedPreKeyPrivate
      input.initiatorIdentityPublic
    let ephemeralPart ← diffieHellmanX25519 c input.recipientIdentityPrivate
      input.initiatorEphemeralPublic
    let signedPreKeyPart ← diffieHellmanX25519 c input.recipientSignedPreKeyPrivate
      input.initiatorEphemeralPublic
    match input.recipientOneTimePreKeyPrivate with
    | none => .ok (deriveX3dhSharedSecret c [identityPart, ephemeralPart, signedPreKeyPart])
    | some recipientOneTimePreKeyPrivate => do
        let oneTimePart ← diffieHellmanX25519 c recipientOneTimePreKeyPrivate
          input.initiatorEphemeralPublic
        .ok (deriveX3dhSharedSecret c
          [identityPart, ephemeralPart, signedPreKeyPart, oneTimePart])

/-! ### Agreement -/

/-- The four key pairs of one handshake. -/
structure HandshakeKeys where
  initiatorIdentity : X25519KeyPair
  initiatorEphemeral : X25519KeyPair
  recipientIdentity : X25519KeyPair
  recipientSignedPreKey : X25519KeyPair
  recipientOneTimePreKey : Option X25519KeyPair

/-- Every pair of the handshake is a generated one. -/
structure HandshakeKeys.Valid (c : Primitives) (keys : HandshakeKeys) : Prop where
  initiatorIdentity : IsKeyPair c keys.initiatorIdentity
  initiatorEphemeral : IsKeyPair c keys.initiatorEphemeral
  recipientIdentity : IsKeyPair c keys.recipientIdentity
  recipientSignedPreKey : IsKeyPair c keys.recipientSignedPreKey
  recipientOneTimePreKey : ∀ pair, keys.recipientOneTimePreKey = some pair → IsKeyPair c pair

/-- What the initiator feeds in. -/
def HandshakeKeys.initiatorInput (keys : HandshakeKeys) : X3DHInitiatorInput where
  initiatorIdentityPrivate := keys.initiatorIdentity.privateKey
  initiatorEphemeralPrivate := keys.initiatorEphemeral.privateKey
  recipientIdentityPublic := keys.recipientIdentity.publicKey
  recipientSignedPreKeyPublic := keys.recipientSignedPreKey.publicKey
  recipientOneTimePreKeyPublic := keys.recipientOneTimePreKey.map X25519KeyPair.publicKey

/-- What the responder feeds in. -/
def HandshakeKeys.responderInput (keys : HandshakeKeys) : X3DHResponderInput where
  recipientIdentityPrivate := keys.recipientIdentity.privateKey
  recipientSignedPreKeyPrivate := keys.recipientSignedPreKey.privateKey
  initiatorIdentityPublic := keys.initiatorIdentity.publicKey
  initiatorEphemeralPublic := keys.initiatorEphemeral.publicKey
  recipientOneTimePreKeyPrivate := keys.recipientOneTimePreKey.map X25519KeyPair.privateKey

/-- **X3DH agreement**: whatever secret the initiator derives, the responder derives too. -/
theorem deriveX3dhSharedSecret_agree {c : Primitives} (hc : c.Lawful) {keys : HandshakeKeys}
    (hkeys : keys.Valid c) {sharedSecret : Bytes} :
    deriveX3dhInitiatorSharedSecret c keys.initiatorInput = .ok sharedSecret ↔
      deriveX3dhResponderSharedSecret c keys.responderInput = .ok sharedSecret := by
  have hidentity := diffieHellmanX25519_comm hc hkeys.initiatorIdentity hkeys.recipientSignedPreKey
  have hephemeral := diffieHellmanX25519_comm hc hkeys.initiatorEphemeral hkeys.recipientIdentity
  have hsigned := diffieHellmanX25519_comm hc hkeys.initiatorEphemeral hkeys.recipientSignedPreKey
  rw [deriveX3dhInitiatorSharedSecret, deriveX3dhResponderSharedSecret, wrapError_eq_ok,
    wrapError_eq_ok]
  cases honeTime : keys.recipientOneTimePreKey with
  | none =>
    simp only [HandshakeKeys.initiatorInput, HandshakeKeys.responderInput, hidentity, hephemeral,
      hsigned, honeTime, Option.map_none]
  | some pair =>
    have hpair := diffieHellmanX25519_comm hc hkeys.initiatorEphemeral
      (hkeys.recipientOneTimePreKey pair honeTime)
    simp only [HandshakeKeys.initiatorInput, HandshakeKeys.responderInput, hidentity, hephemeral,
      hsigned, hpair, honeTime, Option.map_some]

end QuadraA.E2E
