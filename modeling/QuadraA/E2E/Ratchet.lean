import QuadraA.E2E.Messages

/-!
# The Double Ratchet engine

`e2e/ratchet.ts`, function by function.  A function that mutates the session object it is handed
takes the session and returns it changed; the two entry points work on a clone of their input, so
they take a session and return a new one.

* `deriveRootAndChainKeys`, `deriveChainStep` — one HKDF call each, its 64 bytes cut in two;
* `encryptRatchetMessage`, `decryptRatchetMessage`.
-/

namespace QuadraA.E2E

def DOUBLE_RATCHET_ROOT_INFO : String := "quadra-a/e2e/double-ratchet/root/v1"
def DOUBLE_RATCHET_CHAIN_INFO : String := "quadra-a/e2e/double-ratchet/chain/v1"
def DOUBLE_RATCHET_CHAIN_SALT : String := "quadra-a/e2e/double-ratchet/chain-salt/v1"
def MAX_SKIPPED_MESSAGE_KEYS : ℕ := 64

structure CreateRatchetSessionInput where
  sessionId : String
  peerDid : String
  peerDeviceId : String
  selfDeviceId : String
  role : SessionRole
  rootKey : Bytes
  currentRatchetKey : X25519KeyPair
  remoteRatchetPublicKey : Bytes
  bootstrap : LocalSessionBootstrapState
  createdAt : ℕ

structure RatchetEncryptInput where
  session : LocalSessionState
  plaintext : Bytes
  senderDid : String
  receiverDid : String
  messageId : Option String := none
  nonce : Option Bytes := none
  ratchetKeyPair : Option X25519KeyPair := none
  now : Option ℕ := none

structure RatchetEncryptResult where
  message : SessionMessage
  session : LocalSessionState
  messageKey : Bytes
deriving DecidableEq

structure RatchetDecryptInput where
  session : LocalSessionState
  message : SessionMessage
  now : Option ℕ := none

structure RatchetDecryptResult where
  plaintext : Bytes
  session : LocalSessionState
  messageKey : Bytes
  usedSkippedMessageKey : Bool
deriving DecidableEq

/-! ### Key derivation -/

structure RootAndChainKeys where
  rootKey : Bytes
  chainKey : Bytes
deriving DecidableEq

def deriveRootAndChainKeys (c : Primitives) (rootKey dhOutput : Bytes) : RootAndChainKeys :=
  let material := hkdfSha256 c dhOutput rootKey (utf8ToBytes DOUBLE_RATCHET_ROOT_INFO) 64
  { rootKey := slice material 0 32, chainKey := slice material 32 64 }

structure ChainStep where
  chainKey : Bytes
  messageKey : Bytes
deriving DecidableEq

def deriveChainStep (c : Primitives) (chainKey : Bytes) : ChainStep :=
  let material := hkdfSha256 c chainKey (utf8ToBytes DOUBLE_RATCHET_CHAIN_SALT)
    (utf8ToBytes DOUBLE_RATCHET_CHAIN_INFO) 64
  { chainKey := slice material 0 32, messageKey := slice material 32 64 }

def assertNonce (nonce : Bytes) : Except EncryptionError Unit :=
  if nonce.length ≠ 24 then .error (.ratchetNonceLength nonce.length) else .ok ()

/-! ### The store of skipped message keys -/

/-- Push one key, then drop the oldest keys beyond the bound. -/
def storeSkippedMessageKey (session : LocalSessionState) (ratchetPublicKey : HexString)
    (messageNumber : ℕ) (messageKey : Bytes) : LocalSessionState :=
  let pushed := session.skippedMessageKeys ++
    [{ ratchetPublicKey, messageNumber, messageKey := bytesToHex messageKey }]
  { session with
    skippedMessageKeys :=
      if pushed.length > MAX_SKIPPED_MESSAGE_KEYS then
        pushed.drop (pushed.length - MAX_SKIPPED_MESSAGE_KEYS)
      else pushed }

/-- The entry for one ratchet key and message number. -/
def isSkippedEntry (ratchetPublicKey : HexString) (messageNumber : ℕ)
    (entry : SkippedMessageKeyState) : Bool :=
  entry.ratchetPublicKey = ratchetPublicKey && entry.messageNumber = messageNumber

/-- Look an entry up and splice it out of the store. -/
def takeSkippedMessageKey (session : LocalSessionState) (ratchetPublicKey : HexString)
    (messageNumber : ℕ) : Option (Bytes × LocalSessionState) :=
  match session.skippedMessageKeys.find? (isSkippedEntry ratchetPublicKey messageNumber) with
  | none => none
  | some entry =>
      some (hexToBytes entry.messageKey,
        { session with
          skippedMessageKeys :=
            session.skippedMessageKeys.eraseP (isSkippedEntry ratchetPublicKey messageNumber) })

/-- The loop of `skipMessageKeys`, with the number of rounds that `while (next < until)` makes. -/
def skipMessageKeysLoop (c : Primitives) :
    ℕ → LocalSessionState → Bytes → LocalSessionState × Bytes
  | 0, session, chainKey => (session, chainKey)
  | rounds + 1, session, chainKey =>
      let step := deriveChainStep c chainKey
      let stored := storeSkippedMessageKey session session.remoteRatchetPublicKey
        session.nextReceiveMessageNumber step.messageKey
      skipMessageKeysLoop c rounds
        { stored with nextReceiveMessageNumber := stored.nextReceiveMessageNumber + 1 }
        step.chainKey

def skipMessageKeys (c : Primitives) (session : LocalSessionState) (untilMessageNumber : ℕ) :
    Except EncryptionError LocalSessionState :=
  if untilMessageNumber < session.nextReceiveMessageNumber then .ok session
  else match session.receivingChainKey with
    | none =>
        if untilMessageNumber = session.nextReceiveMessageNumber then .ok session
        else .error (.missingReceivingChainWhileSkipping untilMessageNumber
          session.nextReceiveMessageNumber)
    | some receivingChainKey =>
        let gap := untilMessageNumber - session.nextReceiveMessageNumber
        if gap > MAX_SKIPPED_MESSAGE_KEYS then
          .error (.skippedWindowExceeded gap MAX_SKIPPED_MESSAGE_KEYS)
        else
          let (skipped, chainKey) := skipMessageKeysLoop c gap session (hexToBytes receivingChainKey)
          .ok { skipped with receivingChainKey := some (bytesToHex chainKey) }

/-! ### Diffie–Hellman ratchet steps -/

def ensureSendingChain (c : Primitives) (amb : Ambient) (session : LocalSessionState)
    (nextRatchetKeyPair : Option X25519KeyPair) : Except EncryptionError LocalSessionState :=
  match session.sendingChainKey with
  | some _ => .ok session
  | none => do
      let ratchetKeyPair := nextRatchetKeyPair.getD amb.keyPair
      let dhOutput ← diffieHellmanX25519 c ratchetKeyPair.privateKey
        (hexToBytes session.remoteRatchetPublicKey)
      let derived := deriveRootAndChainKeys c (hexToBytes session.rootKey) dhOutput
      .ok { session with
        rootKey := bytesToHex derived.rootKey
        currentRatchetKey :=
          { publicKey := bytesToHex ratchetKeyPair.publicKey
            privateKey := bytesToHex ratchetKeyPair.privateKey }
        sendingChainKey := some (bytesToHex derived.chainKey)
        previousSendChainLength := session.nextSendMessageNumber
        nextSendMessageNumber := 0 }

def advanceReceivingRatchet (c : Primitives) (session : LocalSessionState)
    (remoteRatchetPublicKey : Bytes) : Except EncryptionError LocalSessionState := do
  let dhOutput ← diffieHellmanX25519 c (hexToBytes session.currentRatchetKey.privateKey)
    remoteRatchetPublicKey
  let derived := deriveRootAndChainKeys c (hexToBytes session.rootKey) dhOutput
  .ok { session with
    rootKey := bytesToHex derived.rootKey
    remoteRatchetPublicKey := bytesToHex remoteRatchetPublicKey
    receivingChainKey := some (bytesToHex derived.chainKey)
    nextReceiveMessageNumber := 0
    sendingChainKey := none }

/-! ### Session creation -/

/-- The state both creation functions build; they differ in the chain the derived key opens. -/
def createRatchetSession (input : CreateRatchetSessionInput) (rootKey : Bytes)
    (sendingChainKey receivingChainKey : Option HexString) : LocalSessionState where
  sessionId := input.sessionId
  peerDid := input.peerDid
  peerDeviceId := input.peerDeviceId
  selfDeviceId := input.selfDeviceId
  role := input.role
  rootKey := bytesToHex rootKey
  currentRatchetKey :=
    { publicKey := bytesToHex input.currentRatchetKey.publicKey
      privateKey := bytesToHex input.currentRatchetKey.privateKey }
  remoteRatchetPublicKey := bytesToHex input.remoteRatchetPublicKey
  sendingChainKey := sendingChainKey
  receivingChainKey := receivingChainKey
  createdAt := input.createdAt
  updatedAt := input.createdAt
  nextSendMessageNumber := 0
  nextReceiveMessageNumber := 0
  previousSendChainLength := 0
  skippedMessageKeys := []
  bootstrap := input.bootstrap

def createInitiatorRatchetSession (c : Primitives) (input : CreateRatchetSessionInput) :
    Except EncryptionError LocalSessionState := do
  let dhOutput ← diffieHellmanX25519 c input.currentRatchetKey.privateKey
    input.remoteRatchetPublicKey
  let derived := deriveRootAndChainKeys c input.rootKey dhOutput
  .ok (createRatchetSession input derived.rootKey (some (bytesToHex derived.chainKey)) none)

def createResponderRatchetSession (c : Primitives) (input : CreateRatchetSessionInput) :
    Except EncryptionError LocalSessionState := do
  let dhOutput ← diffieHellmanX25519 c input.currentRatchetKey.privateKey
    input.remoteRatchetPublicKey
  let derived := deriveRootAndChainKeys c input.rootKey dhOutput
  .ok (createRatchetSession input derived.rootKey none (some (bytesToHex derived.chainKey)))

/-! ### Encryption and decryption -/

def encryptRatchetMessage (c : Primitives) (amb : Ambient) (input : RatchetEncryptInput) :
    Except EncryptionError RatchetEncryptResult := do
  let session ← ensureSendingChain c amb input.session input.ratchetKeyPair
  match session.sendingChainKey with
  | none => .error .missingSendingChain
  | some sendingChainKey => do
      let chainStep := deriveChainStep c (hexToBytes sendingChainKey)
      let nonce := input.nonce.getD amb.nonce
      assertNonce nonce
      let message ← encryptSessionMessage c
        { version := E2E_PROTOCOL_VERSION
          senderDid := input.senderDid
          receiverDid := input.receiverDid
          senderDeviceId := session.selfDeviceId
          receiverDeviceId := session.peerDeviceId
          sessionId := session.sessionId
          messageId := input.messageId.getD amb.messageId
          ratchetPublicKey := hexToBytes session.currentRatchetKey.publicKey
          previousChainLength := session.previousSendChainLength
          messageNumber := session.nextSendMessageNumber
          nonce := nonce }
        chainStep.messageKey input.plaintext
      .ok
        { message := message
          session :=
            { session with
              sendingChainKey := some (bytesToHex chainStep.chainKey)
              nextSendMessageNumber := session.nextSendMessageNumber + 1
              updatedAt := input.now.getD amb.now }
          messageKey := chainStep.messageKey }

/-- The `if` of `decryptRatchetMessage` on a ratchet key that differs from the current one. -/
def switchReceivingChain (c : Primitives) (session : LocalSessionState)
    (message : SessionMessage) : Except EncryptionError LocalSessionState :=
  if bytesToHex message.ratchetPublicKey ≠ session.remoteRatchetPublicKey then do
    let skipped ← skipMessageKeys c session message.previousChainLength
    advanceReceivingRatchet c skipped message.ratchetPublicKey
  else .ok session

/-- The part of `decryptRatchetMessage` after the skipped-key lookup has failed. -/
def decryptOnReceivingChain (c : Primitives) (amb : Ambient) (session : LocalSessionState)
    (message : SessionMessage) (now : Option ℕ) :
    Except EncryptionError RatchetDecryptResult := do
  let session ← switchReceivingChain c session message
  let session ← skipMessageKeys c session message.messageNumber
  match session.receivingChainKey with
  | none => .error .missingReceivingChain
  | some receivingChainKey => do
      let chainStep := deriveChainStep c (hexToBytes receivingChainKey)
      let plaintext ← decryptSessionMessage c message chainStep.messageKey
      .ok
        { plaintext := plaintext
          session :=
            { session with
              receivingChainKey := some (bytesToHex chainStep.chainKey)
              nextReceiveMessageNumber := message.messageNumber + 1
              updatedAt := now.getD amb.now }
          messageKey := chainStep.messageKey
          usedSkippedMessageKey := false }

def decryptRatchetMessage (c : Primitives) (amb : Ambient) (input : RatchetDecryptInput) :
    Except EncryptionError RatchetDecryptResult :=
  match takeSkippedMessageKey input.session (bytesToHex input.message.ratchetPublicKey)
      input.message.messageNumber with
  | some (skippedMessageKey, session) => do
      let plaintext ← decryptSessionMessage c input.message skippedMessageKey
      .ok
        { plaintext := plaintext
          session := { session with updatedAt := input.now.getD amb.now }
          messageKey := skippedMessageKey
          usedSkippedMessageKey := true }
  | none => decryptOnReceivingChain c amb input.session input.message input.now

end QuadraA.E2E
