import QuadraA.E2E.DeviceState
import QuadraA.E2E.RatchetSteps
import QuadraA.E2E.X3dh

/-!
# Session bootstrap

`e2e/bootstrap.ts`: the first message of a session and the session slot it fills at either end.

* `loadLocalSession` / `storeLocalSession` — the slot of a peer device, written unconditionally;
* `consumeResponderPreKeyMessage` — the checks of the named pre-keys, X3DH, the opened plaintext,
  the `claimedAt` mark and the responder's session.

`buildInitiatorPreKeyMessage_eq_ok` and `consumeResponderPreKeyMessage_eq_ok` say what the two
return, guards included.
-/

namespace QuadraA.E2E

open QuadraA.Lib

structure BuildInitiatorPreKeyMessageInput where
  e2eConfig : LocalE2EConfig
  senderDid : String
  receiverDid : String
  recipientDevice : PublishedDeviceDirectoryEntry
  claimedBundle : ClaimedPreKeyBundle
  plaintext : Bytes
  sessionId : Option String := none
  messageId : Option String := none
  nonce : Option Bytes := none
  ephemeralKeyPair : Option X25519KeyPair := none
  now : Option ℕ := none

structure BuildInitiatorPreKeyMessageResult where
  message : PreKeyMessage
  session : LocalSessionState
  e2eConfig : LocalE2EConfig
  sharedSecret : Bytes
deriving DecidableEq

structure ConsumeResponderPreKeyMessageInput where
  e2eConfig : LocalE2EConfig
  receiverDid : String
  message : PreKeyMessage
  now : Option ℕ := none

structure ConsumeResponderPreKeyMessageResult where
  plaintext : Bytes
  session : LocalSessionState
  e2eConfig : LocalE2EConfig
  sharedSecret : Bytes
deriving DecidableEq

def getDeviceState (config : LocalE2EConfig) (deviceId : String) :
    Except EncryptionError LocalDeviceState :=
  match config.devices.get? deviceId with
  | some device => .ok device
  | none => .error (.missingLocalDevice deviceId)

/-- The comparison of the bundle with the trusted entry, field by field in the listed order. -/
def assertBundleMatchesDirectory (recipientDevice : PublishedDeviceDirectoryEntry)
    (claimedBundle : ClaimedPreKeyBundle) : Except EncryptionError Unit :=
  let fields : List (String × Bool) :=
    [("deviceId", recipientDevice.deviceId = claimedBundle.deviceId),
     ("identityKeyPublic", recipientDevice.identityKeyPublic = claimedBundle.identityKeyPublic),
     ("signedPreKeyPublic", recipientDevice.signedPreKeyPublic = claimedBundle.signedPreKeyPublic),
     ("signedPreKeyId", recipientDevice.signedPreKeyId = claimedBundle.signedPreKeyId),
     ("signedPreKeySignature",
       recipientDevice.signedPreKeySignature = claimedBundle.signedPreKeySignature),
     ("lastResupplyAt", recipientDevice.lastResupplyAt = claimedBundle.lastResupplyAt)]
  match fields.find? (fun field => !field.2) with
  | some field => .error (.bundleDirectoryMismatch field.1)
  | none => .ok ()

/-! ### The session slot -/

def buildLocalSessionKey (peerDid peerDeviceId : String) : String :=
  peerDid ++ ":" ++ peerDeviceId

def loadLocalSession (config : LocalE2EConfig) (deviceId peerDid peerDeviceId : String) :
    Option LocalSessionState :=
  (config.devices.get? deviceId).bind fun device =>
    device.sessions.get? (buildLocalSessionKey peerDid peerDeviceId)

/-- The device with a session in the slot of its peer device. -/
def LocalDeviceState.storeSession (device : LocalDeviceState) (session : LocalSessionState) :
    LocalDeviceState :=
  { device with
    sessions := device.sessions.set
      (buildLocalSessionKey session.peerDid session.peerDeviceId) session }

def storeLocalSession (config : LocalE2EConfig) (deviceId : String)
    (session : LocalSessionState) : Except EncryptionError LocalE2EConfig := do
  let device ← getDeviceState config deviceId
  .ok { config with devices := config.devices.set deviceId (device.storeSession session) }

/-! ### The initiator -/

def initiatorX3dhInput (input : BuildInitiatorPreKeyMessageInput) (device : LocalDeviceState)
    (ephemeralKeyPair : X25519KeyPair) : X3DHInitiatorInput where
  initiatorIdentityPrivate := hexToBytes device.identityKey.privateKey
  initiatorEphemeralPrivate := ephemeralKeyPair.privateKey
  recipientIdentityPublic := hexToBytes input.claimedBundle.identityKeyPublic
  recipientSignedPreKeyPublic := hexToBytes input.claimedBundle.signedPreKeyPublic
  recipientOneTimePreKeyPublic :=
    input.claimedBundle.oneTimePreKey.map fun key => hexToBytes key.publicKey

def initiatorMessageHeader (amb : Ambient) (input : BuildInitiatorPreKeyMessageInput)
    (device : LocalDeviceState) (ephemeralKeyPair : X25519KeyPair) : PreKeyMessageHeader where
  version := E2E_PROTOCOL_VERSION
  senderDid := input.senderDid
  receiverDid := input.receiverDid
  senderDeviceId := device.deviceId
  receiverDeviceId := input.claimedBundle.deviceId
  sessionId := input.sessionId.getD amb.sessionId
  messageId := input.messageId.getD amb.messageId
  initiatorIdentityKey := hexToBytes device.identityKey.publicKey
  initiatorEphemeralKey := ephemeralKeyPair.publicKey
  recipientSignedPreKeyId := input.claimedBundle.signedPreKeyId
  recipientOneTimePreKeyId := input.claimedBundle.oneTimePreKey.map (·.keyId)
  nonce := input.nonce.getD amb.nonce

def initiatorSessionInput (amb : Ambient) (input : BuildInitiatorPreKeyMessageInput)
    (device : LocalDeviceState) (ephemeralKeyPair : X25519KeyPair) (sharedSecret : Bytes) :
    CreateRatchetSessionInput where
  sessionId := input.sessionId.getD amb.sessionId
  peerDid := input.receiverDid
  peerDeviceId := input.claimedBundle.deviceId
  selfDeviceId := device.deviceId
  role := .initiator
  rootKey := sharedSecret
  currentRatchetKey := ephemeralKeyPair
  remoteRatchetPublicKey := hexToBytes input.claimedBundle.signedPreKeyPublic
  bootstrap :=
    { selfIdentityKey := device.identityKey.publicKey
      peerIdentityKey := input.claimedBundle.identityKeyPublic
      initiatorEphemeralKey := bytesToHex ephemeralKeyPair.publicKey
      recipientSignedPreKeyId := input.claimedBundle.signedPreKeyId
      recipientSignedPreKeyPublic := input.claimedBundle.signedPreKeyPublic
      recipientOneTimePreKeyId := input.claimedBundle.oneTimePreKey.map (·.keyId) }
  createdAt := input.now.getD amb.now

def buildInitiatorPreKeyMessage (c : Primitives) (amb : Ambient)
    (input : BuildInitiatorPreKeyMessageInput) :
    Except EncryptionError BuildInitiatorPreKeyMessageResult := do
  assertBundleMatchesDirectory input.recipientDevice input.claimedBundle
  let device ← getCurrentDeviceState input.e2eConfig
  let ephemeralKeyPair := input.ephemeralKeyPair.getD amb.keyPair
  let sharedSecret ← deriveX3dhInitiatorSharedSecret c
    (initiatorX3dhInput input device ephemeralKeyPair)
  let message ← encryptPreKeyMessage c (initiatorMessageHeader amb input device ephemeralKeyPair)
    sharedSecret input.plaintext
  let session ← createInitiatorRatchetSession c
    (initiatorSessionInput amb input device ephemeralKeyPair sharedSecret)
  let e2eConfig ← storeLocalSession input.e2eConfig device.deviceId session
  .ok { message, session, e2eConfig, sharedSecret }

/-! ### The responder -/

/-- `device.oneTimePreKeys.find((key) => key.keyId === keyId)`. -/
def findOneTimePreKey (device : LocalDeviceState) (keyId : ℕ) : Option LocalOneTimePreKeyState :=
  device.oneTimePreKeys.find? fun key => key.keyId = keyId

/-- The checks of the one-time pre-key that a message names. -/
def selectOneTimePreKey (device : LocalDeviceState) (message : PreKeyMessage) :
    Except EncryptionError (Option LocalOneTimePreKeyState) :=
  match message.recipientOneTimePreKeyId with
  | none => .ok none
  | some keyId =>
      match findOneTimePreKey device keyId with
      | none => .error (.missingOneTimePreKey message.receiverDeviceId keyId)
      | some oneTimePreKey =>
          match oneTimePreKey.claimedAt with
          | some claimedAt =>
              .error (.oneTimePreKeyConsumed message.receiverDeviceId keyId claimedAt)
          | none => .ok (some oneTimePreKey)

/-- `oneTimePreKey.claimedAt = now` on the entry that `findOneTimePreKey` returns. -/
def markClaimed (keyId now : ℕ) : List LocalOneTimePreKeyState → List LocalOneTimePreKeyState
  | [] => []
  | key :: rest =>
      if key.keyId = keyId then { key with claimedAt := some now } :: rest
      else key :: markClaimed keyId now rest

/-- `if (oneTimePreKey) oneTimePreKey.claimedAt = now`, on the device that holds the key. -/
def LocalDeviceState.markOneTimePreKey (device : LocalDeviceState)
    (oneTimePreKey : Option LocalOneTimePreKeyState) (now : ℕ) : LocalDeviceState :=
  match oneTimePreKey with
  | some key => { device with oneTimePreKeys := markClaimed key.keyId now device.oneTimePreKeys }
  | none => device

def responderX3dhInput (message : PreKeyMessage) (device : LocalDeviceState)
    (oneTimePreKey : Option LocalOneTimePreKeyState) : X3DHResponderInput where
  recipientIdentityPrivate := hexToBytes device.identityKey.privateKey
  recipientSignedPreKeyPrivate := hexToBytes device.signedPreKey.privateKey
  initiatorIdentityPublic := message.initiatorIdentityKey
  initiatorEphemeralPublic := message.initiatorEphemeralKey
  recipientOneTimePreKeyPrivate := oneTimePreKey.map fun key => hexToBytes key.privateKey

def responderSessionInput (message : PreKeyMessage) (device : LocalDeviceState)
    (sharedSecret : Bytes) (now : ℕ) : CreateRatchetSessionInput where
  sessionId := message.sessionId
  peerDid := message.senderDid
  peerDeviceId := message.senderDeviceId
  selfDeviceId := device.deviceId
  role := .responder
  rootKey := sharedSecret
  currentRatchetKey :=
    { publicKey := hexToBytes device.signedPreKey.publicKey
      privateKey := hexToBytes device.signedPreKey.privateKey }
  remoteRatchetPublicKey := message.initiatorEphemeralKey
  bootstrap :=
    { selfIdentityKey := device.identityKey.publicKey
      peerIdentityKey := bytesToHex message.initiatorIdentityKey
      initiatorEphemeralKey := bytesToHex message.initiatorEphemeralKey
      recipientSignedPreKeyId := message.recipientSignedPreKeyId
      recipientSignedPreKeyPublic := device.signedPreKey.publicKey
      recipientOneTimePreKeyId := message.recipientOneTimePreKeyId }
  createdAt := now

def consumeResponderPreKeyMessage (c : Primitives) (amb : Ambient)
    (input : ConsumeResponderPreKeyMessageInput) :
    Except EncryptionError ConsumeResponderPreKeyMessageResult :=
  if input.message.receiverDid ≠ input.receiverDid then
    .error (.receiverDidMismatch input.receiverDid input.message.receiverDid)
  else do
    let now := input.now.getD amb.now
    let device ← getDeviceState input.e2eConfig input.message.receiverDeviceId
    let oneTimePreKey ← selectOneTimePreKey device input.message
    if input.message.recipientSignedPreKeyId ≠ device.signedPreKey.signedPreKeyId then
      .error (.signedPreKeyIdMismatch input.message.receiverDeviceId
        device.signedPreKey.signedPreKeyId input.message.recipientSignedPreKeyId)
    else do
      let sharedSecret ← deriveX3dhResponderSharedSecret c
        (responderX3dhInput input.message device oneTimePreKey)
      let plaintext ← decryptPreKeyMessage c input.message sharedSecret
      let session ← createResponderRatchetSession c
        (responderSessionInput input.message device sharedSecret now)
      let e2eConfig ← storeLocalSession
        { input.e2eConfig with
          devices := input.e2eConfig.devices.set input.message.receiverDeviceId
            (device.markOneTimePreKey oneTimePreKey now) }
        device.deviceId session
      .ok { plaintext, session, e2eConfig, sharedSecret }

/-! ### What the parts return -/

variable {config : LocalE2EConfig} {deviceId : String} {device : LocalDeviceState} {c : Primitives}
  {amb : Ambient}

theorem getDeviceState_eq_ok :
    getDeviceState config deviceId = .ok device ↔ config.devices.get? deviceId = some device := by
  rw [getDeviceState]
  cases config.devices.get? deviceId <;> simp

theorem storeLocalSession_eq_ok {result : LocalE2EConfig} {session : LocalSessionState} :
    storeLocalSession config deviceId session = .ok result ↔
      ∃ device, config.devices.get? deviceId = some device ∧
        result = { config with
          devices := config.devices.set deviceId (device.storeSession session) } := by
  rw [storeLocalSession, bind_eq_ok]
  simp only [getDeviceState_eq_ok, Except.ok.injEq]
  exact exists_congr fun device => and_congr_right fun _ => eq_comm

theorem assertBundleMatchesDirectory_eq_ok {recipientDevice : PublishedDeviceDirectoryEntry}
    {claimedBundle : ClaimedPreKeyBundle} :
    assertBundleMatchesDirectory recipientDevice claimedBundle = .ok () ↔
      recipientDevice.deviceId = claimedBundle.deviceId ∧
      recipientDevice.identityKeyPublic = claimedBundle.identityKeyPublic ∧
      recipientDevice.signedPreKeyPublic = claimedBundle.signedPreKeyPublic ∧
      recipientDevice.signedPreKeyId = claimedBundle.signedPreKeyId ∧
      recipientDevice.signedPreKeySignature = claimedBundle.signedPreKeySignature ∧
      recipientDevice.lastResupplyAt = claimedBundle.lastResupplyAt := by
  rw [assertBundleMatchesDirectory]
  constructor
  · intro h
    split at h
    · cases h
    · rename_i hnone
      simpa using hnone
  · rintro ⟨h₁, h₂, h₃, h₄, h₅, h₆⟩
    simp [h₁, h₂, h₃, h₄, h₅, h₆]

/-- **What the one-time pre-key checks return**: nothing for a message that names no key, else the
stored key of that id, unclaimed. -/
theorem selectOneTimePreKey_eq_ok {message : PreKeyMessage}
    {oneTimePreKey : Option LocalOneTimePreKeyState} :
    selectOneTimePreKey device message = .ok oneTimePreKey ↔
      (message.recipientOneTimePreKeyId = none ∧ oneTimePreKey = none) ∨
      (∃ keyId key, message.recipientOneTimePreKeyId = some keyId ∧
        findOneTimePreKey device keyId = some key ∧ key.claimedAt = none ∧
        oneTimePreKey = some key) := by
  rw [selectOneTimePreKey]
  cases hid : message.recipientOneTimePreKeyId with
  | none => simp [eq_comm]
  | some keyId =>
    cases hfind : findOneTimePreKey device keyId with
    | none => simp [hfind]
    | some key =>
      cases hclaimed : key.claimedAt with
      | some claimedAt => simp [hfind, hclaimed]
      | none => simp [hfind, hclaimed, eq_comm]

/-! ### What the two entry points return -/

/-- **What `buildInitiatorPreKeyMessage` returns**: the sealed message, the initiator's session
under the X3DH secret, and the configuration with that session stored. -/
theorem buildInitiatorPreKeyMessage_eq_ok {input : BuildInitiatorPreKeyMessageInput}
    {result : BuildInitiatorPreKeyMessageResult} :
    buildInitiatorPreKeyMessage c amb input = .ok result ↔
      assertBundleMatchesDirectory input.recipientDevice input.claimedBundle = .ok () ∧
      ∃ device, getCurrentDeviceState input.e2eConfig = .ok device ∧
        deriveX3dhInitiatorSharedSecret c
          (initiatorX3dhInput input device (input.ephemeralKeyPair.getD amb.keyPair))
          = .ok result.sharedSecret ∧
        encryptPreKeyMessage c
          (initiatorMessageHeader amb input device (input.ephemeralKeyPair.getD amb.keyPair))
          result.sharedSecret input.plaintext = .ok result.message ∧
        createInitiatorRatchetSession c
          (initiatorSessionInput amb input device (input.ephemeralKeyPair.getD amb.keyPair)
            result.sharedSecret) = .ok result.session ∧
        storeLocalSession input.e2eConfig device.deviceId result.session
          = .ok result.e2eConfig := by
  obtain ⟨message, session, e2eConfig, sharedSecret⟩ := result
  simp only [buildInitiatorPreKeyMessage, bind_eq_ok, Except.ok.injEq,
    BuildInitiatorPreKeyMessageResult.mk.injEq]
  constructor
  · rintro ⟨_, hbundle, device, hdevice, secret, hsecret, sealed, hseal, opened, hsession, config,
      hconfig, rfl, rfl, rfl, rfl⟩
    exact ⟨hbundle, device, hdevice, hsecret, hseal, hsession, hconfig⟩
  · rintro ⟨hbundle, device, hdevice, hsecret, hseal, hsession, hconfig⟩
    exact ⟨(), hbundle, device, hdevice, sharedSecret, hsecret, message, hseal, session, hsession,
      e2eConfig, hconfig, rfl, rfl, rfl, rfl⟩

/-- **What `consumeResponderPreKeyMessage` returns**: after the checks of the address and of the
two pre-keys, the opened plaintext, the responder's session under the X3DH secret, and the
configuration with the one-time pre-key marked and that session stored. -/
theorem consumeResponderPreKeyMessage_eq_ok {input : ConsumeResponderPreKeyMessageInput}
    {result : ConsumeResponderPreKeyMessageResult} :
    consumeResponderPreKeyMessage c amb input = .ok result ↔
      input.message.receiverDid = input.receiverDid ∧
      ∃ device, input.e2eConfig.devices.get? input.message.receiverDeviceId = some device ∧
      ∃ oneTimePreKey, selectOneTimePreKey device input.message = .ok oneTimePreKey ∧
        input.message.recipientSignedPreKeyId = device.signedPreKey.signedPreKeyId ∧
        deriveX3dhResponderSharedSecret c (responderX3dhInput input.message device oneTimePreKey)
          = .ok result.sharedSecret ∧
        decryptPreKeyMessage c input.message result.sharedSecret = .ok result.plaintext ∧
        createResponderRatchetSession c
          (responderSessionInput input.message device result.sharedSecret
            (input.now.getD amb.now)) = .ok result.session ∧
        storeLocalSession
          { input.e2eConfig with
            devices := input.e2eConfig.devices.set input.message.receiverDeviceId
              (device.markOneTimePreKey oneTimePreKey (input.now.getD amb.now)) }
          device.deviceId result.session = .ok result.e2eConfig := by
  obtain ⟨plaintext, session, e2eConfig, sharedSecret⟩ := result
  rw [consumeResponderPreKeyMessage]
  by_cases hdid : input.message.receiverDid = input.receiverDid
  · rw [if_neg (by simpa using hdid), bind_eq_ok]
    simp only [hdid, true_and, getDeviceState_eq_ok]
    refine exists_congr fun device => and_congr_right fun _ => ?_
    rw [bind_eq_ok]
    refine exists_congr fun oneTimePreKey => and_congr_right fun _ => ?_
    by_cases hsigned : input.message.recipientSignedPreKeyId = device.signedPreKey.signedPreKeyId
    · rw [if_neg (not_not.mpr hsigned)]
      simp only [bind_eq_ok, Except.ok.injEq, ConsumeResponderPreKeyMessageResult.mk.injEq]
      constructor
      · rintro ⟨secret, hsecret, opened, hopen, made, hsession, config, hconfig, rfl, rfl, rfl,
          rfl⟩
        exact ⟨hsigned, hsecret, hopen, hsession, hconfig⟩
      · rintro ⟨_, hsecret, hopen, hsession, hconfig⟩
        exact ⟨sharedSecret, hsecret, plaintext, hopen, session, hsession, e2eConfig, hconfig,
          rfl, rfl, rfl, rfl⟩
    · simp [hsigned]
  · simp [hdid]

end QuadraA.E2E
