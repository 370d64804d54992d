import QuadraA.E2E.Ratchet
import QuadraA.Lib.Except

/-!
# What one ratchet operation does to a session

One lemma for each function of `Ratchet.lean`, in terms of the pure key schedule:

* `chainKeyAt` / `messageKeyAt` — the key chain below a chain key;
* `encryptRatchetMessage_eq_ok`, `decryptOnReceivingChain_eq_ok`, `decryptRatchetMessage_eq_ok` —
  the two entry points.
-/

namespace QuadraA.E2E

open QuadraA.Lib

/-! ### The key chain -/

/-- The chain key after `n` steps. -/
def chainKeyAt (c : Primitives) (chainKey : Bytes) : ℕ → Bytes
  | 0 => chainKey
  | n + 1 => (deriveChainStep c (chainKeyAt c chainKey n)).chainKey

/-- The message key that step `n` derives. -/
def messageKeyAt (c : Primitives) (chainKey : Bytes) (n : ℕ) : Bytes :=
  (deriveChainStep c (chainKeyAt c chainKey n)).messageKey

theorem chainKeyAt_add (c : Primitives) (chainKey : Bytes) (m n : ℕ) :
    chainKeyAt c (chainKeyAt c chainKey m) n = chainKeyAt c chainKey (m + n) := by
  induction n with
  | zero => rfl
  | succ n ih => rw [chainKeyAt, ih, ← Nat.add_assoc, chainKeyAt]

theorem messageKeyAt_add (c : Primitives) (chainKey : Bytes) (m n : ℕ) :
    messageKeyAt c (chainKeyAt c chainKey m) n = messageKeyAt c chainKey (m + n) := by
  rw [messageKeyAt, chainKeyAt_add, messageKeyAt]

/-! ### The bounded store -/

/-- The entry for step `i` of a chain whose first step carries message number `start`. -/
def skippedEntry (c : Primitives) (ratchetPublicKey : HexString) (start : ℕ) (chainKey : Bytes)
    (i : ℕ) : SkippedMessageKeyState where
  ratchetPublicKey := ratchetPublicKey
  messageNumber := start + i
  messageKey := bytesToHex (messageKeyAt c chainKey i)

/-- The entries of `count` consecutive message numbers. -/
def skippedRange (c : Primitives) (ratchetPublicKey : HexString) (start : ℕ) (chainKey : Bytes)
    (count : ℕ) : List SkippedMessageKeyState :=
  (List.range count).map (skippedEntry c ratchetPublicKey start chainKey)

@[simp] theorem skippedRange_length (c : Primitives) (ratchetPublicKey : HexString) (start : ℕ)
    (chainKey : Bytes) (count : ℕ) :
    (skippedRange c ratchetPublicKey start chainKey count).length = count := by
  simp [skippedRange]

theorem skippedRange_succ (c : Primitives) (ratchetPublicKey : HexString) (start : ℕ)
    (chainKey : Bytes) (count : ℕ) :
    skippedRange c ratchetPublicKey start chainKey (count + 1)
      = skippedEntry c ratchetPublicKey start chainKey 0
        :: skippedRange c ratchetPublicKey (start + 1)
            (deriveChainStep c chainKey).chainKey count := by
  have hstep : (deriveChainStep c chainKey).chainKey = chainKeyAt c chainKey 1 := rfl
  simp only [skippedRange, List.range_succ_eq_map, List.map_cons, List.map_map]
  congr 1
  refine List.map_congr_left fun i _ => ?_
  simp only [Function.comp, skippedEntry, hstep, messageKeyAt_add]
  rw [show start + i.succ = start + 1 + i by omega, show 1 + i = i.succ by omega]

variable {c : Primitives} {ratchetPublicKey : HexString} {entries : List SkippedMessageKeyState}
  {session result : LocalSessionState} {messageNumber : ℕ} {amb : Ambient}
  {input : CreateRatchetSessionInput} {message : SessionMessage}

theorem mem_skippedRange {start : ℕ} {chainKey : Bytes} {count : ℕ}
    {entry : SkippedMessageKeyState} :
    entry ∈ skippedRange c ratchetPublicKey start chainKey count ↔
      ∃ i < count, entry = skippedEntry c ratchetPublicKey start chainKey i := by
  simp only [skippedRange, List.mem_map, List.mem_range, eq_comm]

/-- What the store keeps of a list: its newest `MAX_SKIPPED_MESSAGE_KEYS` entries. -/
def boundSkipped (entries : List SkippedMessageKeyState) : List SkippedMessageKeyState :=
  entries.drop (entries.length - MAX_SKIPPED_MESSAGE_KEYS)

/-- Pushing entries one by one, bounding the store after each. -/
def pushSkipped (store entries : List SkippedMessageKeyState) : List SkippedMessageKeyState :=
  entries.foldl (fun kept entry => boundSkipped (kept ++ [entry])) store

@[simp] theorem pushSkipped_nil (store : List SkippedMessageKeyState) :
    pushSkipped store [] = store := rfl

theorem pushSkipped_cons (store : List SkippedMessageKeyState) (entry : SkippedMessageKeyState)
    (rest : List SkippedMessageKeyState) :
    pushSkipped store (entry :: rest) = pushSkipped (boundSkipped (store ++ [entry])) rest := by
  rw [pushSkipped, List.foldl_cons, pushSkipped]

theorem boundSkipped_of_le (h : entries.length ≤ MAX_SKIPPED_MESSAGE_KEYS) :
    boundSkipped entries = entries := by
  rw [boundSkipped, Nat.sub_eq_zero_of_le h, List.drop_zero]

/-- Below the bound nothing is lost. -/
theorem pushSkipped_of_le {store : List SkippedMessageKeyState}
    (h : store.length + entries.length ≤ MAX_SKIPPED_MESSAGE_KEYS) :
    pushSkipped store entries = store ++ entries := by
  induction entries generalizing store with
  | nil => rw [pushSkipped_nil, List.append_nil]
  | cons entry rest ih =>
    have hlen : (store ++ [entry]).length = store.length + 1 := by simp
    rw [List.length_cons] at h
    have hone : (store ++ [entry]).length ≤ MAX_SKIPPED_MESSAGE_KEYS := by omega
    have hrest : (store ++ [entry]).length + rest.length ≤ MAX_SKIPPED_MESSAGE_KEYS := by omega
    rw [pushSkipped_cons, boundSkipped_of_le hone, ih hrest, List.append_assoc]
    rfl

theorem boundSkipped_length_le : (boundSkipped entries).length ≤ MAX_SKIPPED_MESSAGE_KEYS := by
  rw [boundSkipped, List.length_drop]
  omega

/-- The store is never over its bound, once it is within it. -/
theorem pushSkipped_length_le {store : List SkippedMessageKeyState}
    (h : store.length ≤ MAX_SKIPPED_MESSAGE_KEYS) (entries : List SkippedMessageKeyState) :
    (pushSkipped store entries).length ≤ MAX_SKIPPED_MESSAGE_KEYS := by
  induction entries generalizing store with
  | nil => exact h
  | cons entry rest ih =>
    rw [pushSkipped_cons]
    exact ih boundSkipped_length_le

/-- What is kept stays in its order. -/
theorem pushSkipped_sublist (store entries : List SkippedMessageKeyState) :
    (pushSkipped store entries).Sublist (store ++ entries) := by
  induction entries generalizing store with
  | nil => rw [pushSkipped_nil, List.append_nil]
  | cons entry rest ih =>
    have hbound : (boundSkipped (store ++ [entry])).Sublist (store ++ [entry]) :=
      List.drop_sublist _ _
    rw [pushSkipped_cons, List.append_cons store entry rest]
    exact (ih _).trans (hbound.append_right rest)

theorem storeSkippedMessageKey_eq (session : LocalSessionState) (ratchetPublicKey : HexString)
    (messageNumber : ℕ) (messageKey : Bytes) :
    storeSkippedMessageKey session ratchetPublicKey messageNumber messageKey =
      { session with
        skippedMessageKeys := boundSkipped (session.skippedMessageKeys ++
          [{ ratchetPublicKey, messageNumber, messageKey := bytesToHex messageKey }]) } := by
  rw [storeSkippedMessageKey]
  generalize session.skippedMessageKeys ++ [_] = pushed
  by_cases h : pushed.length > MAX_SKIPPED_MESSAGE_KEYS
  · simp only [if_pos h, boundSkipped]
  · simp only [if_neg h, boundSkipped_of_le (Nat.le_of_not_gt h)]

/-! ### Skipping -/

/-- **The skipping loop** pushes the keys of the rounds it makes and moves the chain by as many
steps; the other fields stay. -/
theorem skipMessageKeysLoop_eq (c : Primitives) (rounds : ℕ) (session : LocalSessionState)
    (chainKey : Bytes) :
    skipMessageKeysLoop c rounds session chainKey =
      ({ session with
          skippedMessageKeys := pushSkipped session.skippedMessageKeys
            (skippedRange c session.remoteRatchetPublicKey session.nextReceiveMessageNumber
              chainKey rounds)
          nextReceiveMessageNumber := session.nextReceiveMessageNumber + rounds },
        chainKeyAt c chainKey rounds) := by
  induction rounds generalizing session chainKey with
  | zero => rfl
  | succ rounds ih =>
    rw [skipMessageKeysLoop, ih, storeSkippedMessageKey_eq, skippedRange_succ]
    simp only [pushSkipped_cons, skippedEntry, messageKeyAt, chainKeyAt, Nat.add_zero, Prod.mk.injEq,
      LocalSessionState.mk.injEq, true_and, and_true]
    refine ⟨by omega, ?_⟩
    have hadd := chainKeyAt_add c chainKey 1 rounds
    rw [Nat.add_comm 1 rounds] at hadd
    exact hadd

/-- The session after `skipMessageKeys` has run its loop. -/
def skippedTo (c : Primitives) (session : LocalSessionState) (receivingChainKey : Bytes)
    (untilMessageNumber : ℕ) : LocalSessionState :=
  { session with
    skippedMessageKeys := pushSkipped session.skippedMessageKeys
      (skippedRange c session.remoteRatchetPublicKey session.nextReceiveMessageNumber
        receivingChainKey (untilMessageNumber - session.nextReceiveMessageNumber))
    nextReceiveMessageNumber := untilMessageNumber
    receivingChainKey := some (bytesToHex (chainKeyAt c receivingChainKey
      (untilMessageNumber - session.nextReceiveMessageNumber))) }

/-- While the store has room, skipping appends the keys it passes. -/
theorem skippedTo_skippedMessageKeys {receivingChainKey : Bytes} {n : ℕ}
    (hroom : session.skippedMessageKeys.length + (n - session.nextReceiveMessageNumber)
      ≤ MAX_SKIPPED_MESSAGE_KEYS) :
    (skippedTo c session receivingChainKey n).skippedMessageKeys
      = session.skippedMessageKeys ++ skippedRange c session.remoteRatchetPublicKey
          session.nextReceiveMessageNumber receivingChainKey
          (n - session.nextReceiveMessageNumber) := by
  rw [skippedTo, pushSkipped_of_le]
  rw [skippedRange_length]
  exact hroom

/-- **What `skipMessageKeys` returns**: the session itself for a number already passed, or without
a chain for the number that comes next; else, within the window, the session moved to the number
asked for. -/
theorem skipMessageKeys_eq_ok {untilMessageNumber : ℕ} :
    skipMessageKeys c session untilMessageNumber = .ok result ↔
      (untilMessageNumber < session.nextReceiveMessageNumber ∧ result = session) ∨
      (session.receivingChainKey = none ∧
        untilMessageNumber = session.nextReceiveMessageNumber ∧ result = session) ∨
      (∃ receivingChainKey, session.receivingChainKey = some receivingChainKey ∧
        session.nextReceiveMessageNumber ≤ untilMessageNumber ∧
        untilMessageNumber - session.nextReceiveMessageNumber ≤ MAX_SKIPPED_MESSAGE_KEYS ∧
        result = skippedTo c session (hexToBytes receivingChainKey) untilMessageNumber) := by
  rw [skipMessageKeys]
  by_cases hlt : untilMessageNumber < session.nextReceiveMessageNumber
  · have hne : untilMessageNumber ≠ session.nextReceiveMessageNumber := by omega
    have hnle : ¬session.nextReceiveMessageNumber ≤ untilMessageNumber := by omega
    simp [hlt, hne, hnle, eq_comm]
  · have hle : session.nextReceiveMessageNumber ≤ untilMessageNumber := by omega
    simp only [hlt, if_false, false_and, false_or, hle, true_and]
    cases hchain : session.receivingChainKey with
    | none =>
      by_cases heq : untilMessageNumber = session.nextReceiveMessageNumber <;>
        simp [heq, eq_comm]
    | some receivingChainKey =>
      simp only [reduceCtorEq, false_and, false_or, Option.some.injEq, exists_eq_left',
        skipMessageKeysLoop_eq, Nat.add_sub_cancel' hle]
      by_cases hgap : untilMessageNumber - session.nextReceiveMessageNumber
          > MAX_SKIPPED_MESSAGE_KEYS
      · simp [hgap, Nat.not_le.mpr hgap]
      · simp [hgap, Nat.le_of_not_gt hgap, skippedTo, eq_comm]

/-! ### The skipped-key lookup -/

theorem isSkippedEntry_iff {entry : SkippedMessageKeyState} :
    isSkippedEntry ratchetPublicKey messageNumber entry = true ↔
      entry.ratchetPublicKey = ratchetPublicKey ∧ entry.messageNumber = messageNumber := by
  simp [isSkippedEntry]

theorem takeSkippedMessageKey_eq_none :
    takeSkippedMessageKey session ratchetPublicKey messageNumber = none ↔
      ∀ entry ∈ session.skippedMessageKeys,
        ¬(entry.ratchetPublicKey = ratchetPublicKey ∧ entry.messageNumber = messageNumber) := by
  rw [takeSkippedMessageKey]
  cases hfind : session.skippedMessageKeys.find?
      (isSkippedEntry ratchetPublicKey messageNumber) with
  | none =>
    simp only [true_iff]
    intro entry hmem hmatch
    exact List.find?_eq_none.mp hfind entry hmem (isSkippedEntry_iff.mpr hmatch)
  | some entry =>
    simp only [reduceCtorEq, false_iff]
    intro hno
    exact hno entry (List.mem_of_find?_eq_some hfind)
      (isSkippedEntry_iff.mp (List.find?_some hfind))

/-! ### Ratchet steps -/

/-- The session after a new sending chain has been opened with `pair`. -/
def openSendingChain (c : Primitives) (session : LocalSessionState) (pair : X25519KeyPair)
    (dhOutput : Bytes) : LocalSessionState :=
  { session with
    rootKey := bytesToHex (deriveRootAndChainKeys c (hexToBytes session.rootKey) dhOutput).rootKey
    currentRatchetKey :=
      { publicKey := bytesToHex pair.publicKey, privateKey := bytesToHex pair.privateKey }
    sendingChainKey := some (bytesToHex
      (deriveRootAndChainKeys c (hexToBytes session.rootKey) dhOutput).chainKey)
    previousSendChainLength := session.nextSendMessageNumber
    nextSendMessageNumber := 0 }

/-- **What `ensureSendingChain` returns**: an open chain is kept, a missing one is opened. -/
theorem ensureSendingChain_eq_ok {pair : Option X25519KeyPair} :
    ensureSendingChain c amb session pair = .ok result ↔
      (session.sendingChainKey.isSome ∧ result = session) ∨
      (session.sendingChainKey = none ∧ ∃ dhOutput,
        diffieHellmanX25519 c (pair.getD amb.keyPair).privateKey
          (hexToBytes session.remoteRatchetPublicKey) = .ok dhOutput ∧
        result = openSendingChain c session (pair.getD amb.keyPair) dhOutput) := by
  rw [ensureSendingChain]
  cases hchain : session.sendingChainKey with
  | some chainKey => simp [eq_comm]
  | none =>
    simp only [bind_eq_ok, Except.ok.injEq, openSendingChain, Option.isSome_none,
      Bool.false_eq_true, false_and, false_or, true_and]
    exact exists_congr fun dhOutput => and_congr_right fun _ => eq_comm

/-- The session after the receiving chain of a new remote ratchet key has been opened. -/
def openReceivingChain (c : Primitives) (session : LocalSessionState) (remote : Bytes)
    (dhOutput : Bytes) : LocalSessionState :=
  { session with
    rootKey := bytesToHex (deriveRootAndChainKeys c (hexToBytes session.rootKey) dhOutput).rootKey
    remoteRatchetPublicKey := bytesToHex remote
    receivingChainKey := some (bytesToHex
      (deriveRootAndChainKeys c (hexToBytes session.rootKey) dhOutput).chainKey)
    nextReceiveMessageNumber := 0
    sendingChainKey := none }

theorem advanceReceivingRatchet_eq_ok {remote : Bytes} :
    advanceReceivingRatchet c session remote = .ok result ↔
      ∃ dhOutput, diffieHellmanX25519 c (hexToBytes session.currentRatchetKey.privateKey) remote
          = .ok dhOutput ∧ result = openReceivingChain c session remote dhOutput := by
  rw [advanceReceivingRatchet, bind_eq_ok]
  simp only [Except.ok.injEq, openReceivingChain]
  exact exists_congr fun dhOutput => and_congr_right fun _ => eq_comm

/-! ### New sessions -/

/-- **The initiator's session** opens its sending chain with the agreement of its ephemeral key. -/
theorem createInitiatorRatchetSession_eq_ok :
    createInitiatorRatchetSession c input = .ok session ↔
      ∃ dhOutput, diffieHellmanX25519 c input.currentRatchetKey.privateKey
          input.remoteRatchetPublicKey = .ok dhOutput ∧
        session = createRatchetSession input
          (deriveRootAndChainKeys c input.rootKey dhOutput).rootKey
          (some (bytesToHex (deriveRootAndChainKeys c input.rootKey dhOutput).chainKey)) none := by
  rw [createInitiatorRatchetSession, bind_eq_ok]
  simp only [Except.ok.injEq]
  exact exists_congr fun dhOutput => and_congr_right fun _ => eq_comm

/-- **The responder's session** opens its receiving chain with the agreement of its signed
pre-key. -/
theorem createResponderRatchetSession_eq_ok :
    createResponderRatchetSession c input = .ok session ↔
      ∃ dhOutput, diffieHellmanX25519 c input.currentRatchetKey.privateKey
          input.remoteRatchetPublicKey = .ok dhOutput ∧
        session = createRatchetSession input
          (deriveRootAndChainKeys c input.rootKey dhOutput).rootKey none
          (some (bytesToHex (deriveRootAndChainKeys c input.rootKey dhOutput).chainKey)) := by
  rw [createResponderRatchetSession, bind_eq_ok]
  simp only [Except.ok.injEq]
  exact exists_congr fun dhOutput => and_congr_right fun _ => eq_comm

/-! ### The entry points -/

/-- The header that `encryptRatchetMessage` authenticates. -/
def ratchetHeader (amb : Ambient) (input : RatchetEncryptInput) (session : LocalSessionState) :
    SessionMessageHeader where
  version := E2E_PROTOCOL_VERSION
  senderDid := input.senderDid
  receiverDid := input.receiverDid
  senderDeviceId := session.selfDeviceId
  receiverDeviceId := session.peerDeviceId
  sessionId := session.sessionId
  messageId := input.messageId.getD amb.messageId
  ratchetPublicKey := hexToBytes session.currentRatchetKey.publicKey
  previousChainLength := session.previousSendChainLength
  messageNumber := session.nextSendMessageNumber
  nonce := input.nonce.getD amb.nonce

/-- **What `encryptRatchetMessage` returns**: on an open sending chain, the message sealed under
the chain's next message key, and the session one step further. -/
theorem encryptRatchetMessage_eq_ok {input : RatchetEncryptInput} {result : RatchetEncryptResult} :
    encryptRatchetMessage c amb input = .ok result ↔
      ∃ session, ensureSendingChain c amb input.session input.ratchetKeyPair = .ok session ∧
      ∃ chainKey, session.sendingChainKey = some chainKey ∧
        (input.nonce.getD amb.nonce).length = 24 ∧
        encryptSessionMessage c (ratchetHeader amb input session)
          (messageKeyAt c (hexToBytes chainKey) 0) input.plaintext = .ok result.message ∧
        result.messageKey = messageKeyAt c (hexToBytes chainKey) 0 ∧
        result.session =
          { session with
            sendingChainKey := some (bytesToHex (chainKeyAt c (hexToBytes chainKey) 1))
            nextSendMessageNumber := session.nextSendMessageNumber + 1
            updatedAt := input.now.getD amb.now } := by
  obtain ⟨message, session', messageKey⟩ := result
  rw [encryptRatchetMessage, bind_eq_ok]
  refine exists_congr fun session => and_congr_right fun _ => ?_
  cases hchain : session.sendingChainKey with
  | none => simp
  | some chainKey =>
    by_cases hlen : (input.nonce.getD amb.nonce).length = 24
    · have hnonce : assertNonce (input.nonce.getD amb.nonce) = .ok () := by
        rw [assertNonce, if_neg (by omega)]
      simp only [hnonce, ok_bind, bind_eq_ok, Except.ok.injEq, RatchetEncryptResult.mk.injEq,
        Option.some.injEq, exists_eq_left', hlen, true_and]
      constructor
      · rintro ⟨sealed, hseal, rfl, hsession, hkey⟩
        exact ⟨hseal, hkey.symm, hsession.symm⟩
      · rintro ⟨hseal, hkey, hsession⟩
        exact ⟨message, hseal, rfl, hsession.symm, hkey.symm⟩
    · have hnonce : assertNonce (input.nonce.getD amb.nonce)
          = .error (.ratchetNonceLength (input.nonce.getD amb.nonce).length) := by
        rw [assertNonce, if_pos hlen]
      simp [hnonce, hlen]

/-- **What `switchReceivingChain` returns**: the session itself on the current ratchet key; on a
new one, the chain it opens after the rest of the current chain has been skipped. -/
theorem switchReceivingChain_eq_ok {ready : LocalSessionState} :
    switchReceivingChain c session message = .ok ready ↔
      (bytesToHex message.ratchetPublicKey = session.remoteRatchetPublicKey ∧ ready = session) ∨
      (bytesToHex message.ratchetPublicKey ≠ session.remoteRatchetPublicKey ∧
        ∃ skipped, skipMessageKeys c session message.previousChainLength = .ok skipped ∧
          advanceReceivingRatchet c skipped message.ratchetPublicKey = .ok ready) := by
  rw [switchReceivingChain]
  by_cases hkey : bytesToHex message.ratchetPublicKey = session.remoteRatchetPublicKey
  · simp [hkey, eq_comm]
  · simp [hkey]

/-- The session after message `messageNumber` has been read under the chain key it had reached. -/
def readPast (c : Primitives) (session : LocalSessionState) (chainKey : HexString)
    (messageNumber now : ℕ) : LocalSessionState :=
  { session with
    receivingChainKey := some (bytesToHex (chainKeyAt c (hexToBytes chainKey) 1))
    nextReceiveMessageNumber := messageNumber + 1
    updatedAt := now }

/-- The session after the key of a message has been taken out of its store. -/
def takeStored (session : LocalSessionState) (ratchetPublicKey : HexString)
    (messageNumber now : ℕ) : LocalSessionState :=
  { session with
    skippedMessageKeys :=
      session.skippedMessageKeys.eraseP (isSkippedEntry ratchetPublicKey messageNumber)
    updatedAt := now }

/-- **What the decryption on a receiving chain returns**: the message opens under the key of its
number on the chain it names, and the chain has moved past it. -/
theorem decryptOnReceivingChain_eq_ok {now : Option ℕ} {result : RatchetDecryptResult} :
    decryptOnReceivingChain c amb session message now = .ok result ↔
      ∃ ready, switchReceivingChain c session message = .ok ready ∧
      ∃ reached, skipMessageKeys c ready message.messageNumber = .ok reached ∧
      ∃ chainKey, reached.receivingChainKey = some chainKey ∧
        decryptSessionMessage c message (messageKeyAt c (hexToBytes chainKey) 0)
          = .ok result.plaintext ∧
        result.messageKey = messageKeyAt c (hexToBytes chainKey) 0 ∧
        result.usedSkippedMessageKey = false ∧
        result.session
          = readPast c reached chainKey message.messageNumber (now.getD amb.now) := by
  obtain ⟨plaintext, session', messageKey, usedSkippedMessageKey⟩ := result
  rw [decryptOnReceivingChain, bind_eq_ok]
  refine exists_congr fun ready => and_congr_right fun _ => ?_
  rw [bind_eq_ok]
  refine exists_congr fun reached => and_congr_right fun _ => ?_
  cases hchain : reached.receivingChainKey with
  | none => simp
  | some chainKey =>
    simp only [bind_eq_ok, Except.ok.injEq, RatchetDecryptResult.mk.injEq, Option.some.injEq,
      exists_eq_left']
    constructor
    · rintro ⟨opened, hopen, rfl, hsession, hkey, hused⟩
      exact ⟨hopen, hkey.symm, hused.symm, hsession.symm⟩
    · rintro ⟨hopen, hkey, hused, hsession⟩
      exact ⟨plaintext, hopen, rfl, hsession.symm, hkey.symm, hused.symm⟩

/-- **What `decryptRatchetMessage` returns**: a message whose key waits in the store opens under
that key, which is spliced out; any other is read on a receiving chain. -/
theorem decryptRatchetMessage_eq_ok {input : RatchetDecryptInput} {result : RatchetDecryptResult} :
    decryptRatchetMessage c amb input = .ok result ↔
      (∃ entry, input.session.skippedMessageKeys.find?
            (isSkippedEntry (bytesToHex input.message.ratchetPublicKey) input.message.messageNumber)
          = some entry ∧
        decryptSessionMessage c input.message (hexToBytes entry.messageKey)
          = .ok result.plaintext ∧
        result.messageKey = hexToBytes entry.messageKey ∧
        result.usedSkippedMessageKey = true ∧
        result.session = takeStored input.session (bytesToHex input.message.ratchetPublicKey)
          input.message.messageNumber (input.now.getD amb.now)) ∨
      (input.session.skippedMessageKeys.find?
            (isSkippedEntry (bytesToHex input.message.ratchetPublicKey) input.message.messageNumber)
          = none ∧
        decryptOnReceivingChain c amb input.session input.message input.now = .ok result) := by
  obtain ⟨plaintext, session', messageKey, usedSkippedMessageKey⟩ := result
  rw [decryptRatchetMessage, takeSkippedMessageKey]
  cases hfind : input.session.skippedMessageKeys.find?
      (isSkippedEntry (bytesToHex input.message.ratchetPublicKey) input.message.messageNumber) with
  | none => simp
  | some entry =>
    simp only [bind_eq_ok, Except.ok.injEq, RatchetDecryptResult.mk.injEq, Option.some.injEq,
      exists_eq_left', reduceCtorEq, false_and, or_false]
    constructor
    · rintro ⟨opened, hopen, rfl, hsession, hkey, hused⟩
      exact ⟨hopen, hkey.symm, hused.symm, hsession.symm⟩
    · rintro ⟨hopen, hkey, hused, hsession⟩
      exact ⟨plaintext, hopen, rfl, hsession.symm, hkey.symm, hused.symm⟩

end QuadraA.E2E
