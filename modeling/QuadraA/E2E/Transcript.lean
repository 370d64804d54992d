import QuadraA.E2E.RatchetSteps

/-!
# The key schedule of a session, and what one end knows of it

The abstract model of a Double Ratchet session is its transcript: the X3DH secret, the ratchet key
pairs in the order they were drawn, and how many messages were sent under each.  Pair 0 is the
responder's signed pre-key, pair 1 the initiator's ephemeral key; from then on the two ends take
turns, so chain `j` belongs to the initiator for odd `j` and to the responder for even `j`.

* `Transcript.keys` — root and chain key `j`, from root `j - 1` and the agreement of pairs `j` and
  `j - 1`;
* `Covered` — every message on its way that the receiving chain has moved past still has its key
  in the store.

Each operation of `RatchetSteps.lean` gets one lemma for each of the two.
-/

namespace QuadraA.E2E

open QuadraA.Lib

/-! ### The schedule -/

/-- The two ends of a session. -/
inductive Party where
  | initiator
  | responder
deriving DecidableEq, Repr

def Party.other : Party → Party
  | .initiator => .responder
  | .responder => .initiator

/-- The parity of the chains a party sends on. -/
def Party.parity : Party → ℕ
  | .initiator => 1
  | .responder => 0

@[simp] theorem Party.other_other (p : Party) : p.other.other = p := by
  cases p <;> rfl

theorem Party.other_ne (p : Party) : p.other ≠ p := by
  cases p <;> decide

theorem Party.eq_or_eq_other (p q : Party) : q = p ∨ q = p.other := by
  cases p <;> cases q <;> decide

theorem Party.parity_other (p : Party) : p.other.parity = (p.parity + 1) % 2 := by
  cases p <;> rfl

/-- What determines every key of a session. -/
structure Transcript where
  secret : Bytes
  pair : ℕ → X25519KeyPair
  len : ℕ → ℕ

/-- The Diffie–Hellman value of a pair with the public half of another. -/
def agreement (c : Primitives) (own peer : X25519KeyPair) : Bytes :=
  (c.nodeDiffieHellman own.privateKey peer.publicKey).getD []

/-- Root and chain key number `j`. -/
def Transcript.keys (c : Primitives) (t : Transcript) : ℕ → RootAndChainKeys
  | 0 => { rootKey := t.secret, chainKey := [] }
  | j + 1 => deriveRootAndChainKeys c (t.keys c j).rootKey (agreement c (t.pair (j + 1)) (t.pair j))

/-- The message key of message `n` of chain `j`. -/
def Transcript.key (c : Primitives) (t : Transcript) (j n : ℕ) : Bytes :=
  messageKeyAt c (t.keys c j).chainKey n

/-- One more message on chain `j`. -/
def Transcript.count (t : Transcript) (j : ℕ) : Transcript :=
  { t with len := Function.update t.len j (t.len j + 1) }

/-- A ratchet key pair drawn as number `j`. -/
def Transcript.extend (t : Transcript) (j : ℕ) (pair : X25519KeyPair) : Transcript :=
  { t with pair := Function.update t.pair j pair }

@[simp] theorem Transcript.count_pair (t : Transcript) (j : ℕ) : (t.count j).pair = t.pair := rfl

@[simp] theorem Transcript.extend_len (t : Transcript) (j : ℕ) (pair : X25519KeyPair) :
    (t.extend j pair).len = t.len := rfl

@[simp] theorem Transcript.count_len_self (t : Transcript) (j : ℕ) :
    (t.count j).len j = t.len j + 1 := Function.update_self ..

variable {i j : ℕ}

theorem Transcript.count_len_ne (t : Transcript) (h : i ≠ j) :
    (t.count j).len i = t.len i := Function.update_of_ne h ..
theorem Transcript.len_le_count (t : Transcript) (i j : ℕ) : t.len i ≤ (t.count j).len i := by
  by_cases h : i = j
  · rw [h, Transcript.count_len_self]
    omega
  · have hsame := t.count_len_ne h
    omega

@[simp] theorem Transcript.extend_pair_self (t : Transcript) (j : ℕ) (pair : X25519KeyPair) :
    (t.extend j pair).pair j = pair := Function.update_self ..

theorem Transcript.extend_pair_ne (t : Transcript) (pair : X25519KeyPair) (h : i ≠ j) :
    (t.extend j pair).pair i = t.pair i := Function.update_of_ne h ..
/-- Counting a message changes no key. -/
@[simp] theorem Transcript.keys_count (c : Primitives) (t : Transcript) (i j : ℕ) :
    (t.count i).keys c j = t.keys c j := by
  induction j with
  | zero => rfl
  | succ j ih => rw [Transcript.keys, Transcript.keys, ih, Transcript.count_pair]

/-- Drawing a pair changes no key below it. -/
theorem Transcript.keys_extend (c : Primitives) (t : Transcript) (pair : X25519KeyPair)
    (h : i < j) :
    (t.extend j pair).keys c i = t.keys c i := by
  induction i with
  | zero => rfl
  | succ i ih =>
    rw [Transcript.keys, Transcript.keys, ih (by omega),
      t.extend_pair_ne pair (show i + 1 ≠ j by omega), t.extend_pair_ne pair (show i ≠ j by omega)]

@[simp] theorem Transcript.key_count (c : Primitives) (t : Transcript) (i j n : ℕ) :
    (t.count i).key c j n = t.key c j n := by
  rw [Transcript.key, Transcript.key, t.keys_count]

theorem Transcript.key_extend (c : Primitives) (t : Transcript) (pair : X25519KeyPair) (n : ℕ)
    (h : i < j) : (t.extend j pair).key c i n = t.key c i n := by
  rw [Transcript.key, Transcript.key, t.keys_extend c pair h]

/-- What the wrapper returns is the agreement. -/
theorem agreement_of_ok {c : Primitives} {own peer : X25519KeyPair} {dhOutput : Bytes}
    (h : diffieHellmanX25519 c own.privateKey peer.publicKey = .ok dhOutput) :
    agreement c own peer = dhOutput := by
  obtain ⟨_, _, hdh⟩ := diffieHellmanX25519_eq_ok.mp h
  rw [agreement, hdh, Option.getD_some]

/-! ### Positions in the transcript -/

/-- Message `n` of chain `j` lies behind a receiver that has read `received` numbers of chain
`remote`. -/
def Passed (t : Transcript) (remote received j n : ℕ) : Prop :=
  j % 2 = remote % 2 ∧ 1 ≤ j ∧ (j < remote ∧ n < t.len j ∨ j = remote ∧ n < received)

/-- The store entry of message `n` of chain `j`. -/
def storedKey (c : Primitives) (t : Transcript) (j n : ℕ) : SkippedMessageKeyState where
  ratchetPublicKey := bytesToHex (t.pair j).publicKey
  messageNumber := n
  messageKey := bytesToHex (t.key c j n)

/-- **A session as a position in the transcript**: `own` is its own ratchet pair, `remote` the
newest pair it has seen of its peer. -/
structure Represents (c : Primitives) (t : Transcript) (p : Party) (own remote : ℕ)
    (s : LocalSessionState) : Prop where
  own_parity : own % 2 = p.parity
  adjacent : own = remote + 1 ∨ remote = own + 1
  current : s.currentRatchetKey =
    { publicKey := bytesToHex (t.pair own).publicKey
      privateKey := bytesToHex (t.pair own).privateKey }
  remoteKey : s.remoteRatchetPublicKey = bytesToHex (t.pair remote).publicKey
  root : s.rootKey = bytesToHex (t.keys c (max own remote)).rootKey
  sendCount : s.nextSendMessageNumber = t.len own
  sending : own = remote + 1 →
    s.sendingChainKey = some (bytesToHex (chainKeyAt c (t.keys c own).chainKey (t.len own))) ∧
      s.previousSendChainLength = t.len (own - 2)
  idle : remote = own + 1 → s.sendingChainKey = none
  received_le : s.nextReceiveMessageNumber ≤ t.len remote
  receiving : s.receivingChainKey =
    if remote = 0 then none
    else some (bytesToHex
      (chainKeyAt c (t.keys c remote).chainKey s.nextReceiveMessageNumber))
  stored : ∀ entry ∈ s.skippedMessageKeys, ∃ j n,
    Passed t remote s.nextReceiveMessageNumber j n ∧ entry = storedKey c t j n

/-- A message on its way, with the plaintext that was sealed in it. -/
structure Flight where
  message : SessionMessage
  plaintext : Bytes
deriving DecidableEq

/-- What identifies a message among those of one direction. -/
def Flight.position (f : Flight) : Bytes × ℕ :=
  (f.message.ratchetPublicKey, f.message.messageNumber)

/-- The store entry a message looks for. -/
def Flight.isEntry (f : Flight) (entry : SkippedMessageKeyState) : Prop :=
  entry.ratchetPublicKey = bytesToHex f.message.ratchetPublicKey ∧
    entry.messageNumber = f.message.messageNumber

/-- A message on its way is message `f.message.messageNumber` of chain `j`. -/
structure SealedOn (c : Primitives) (t : Transcript) (p : Party) (j : ℕ) (f : Flight) : Prop where
  parity : j % 2 = p.parity
  pos : 1 ≤ j
  key : f.message.ratchetPublicKey = (t.pair j).publicKey
  previous : f.message.previousChainLength = t.len (j - 2)
  number : f.message.messageNumber < t.len j
  opens : decryptSessionMessage c f.message (t.key c j f.message.messageNumber)
    = .ok f.plaintext

/-- Every message on its way that lies behind the receiver has its key in the store. -/
def Covered (t : Transcript) (remote : ℕ) (s : LocalSessionState) (flights : List Flight) : Prop :=
  ∀ f ∈ flights, ∀ j, f.message.ratchetPublicKey = (t.pair j).publicKey →
    Passed t remote s.nextReceiveMessageNumber j f.message.messageNumber →
    ∃ entry ∈ s.skippedMessageKeys, f.isEntry entry

section

variable {c : Primitives} {t : Transcript} {p : Party} {own remote : ℕ} {s : LocalSessionState}

/-! ### Sending -/

variable {dhOutput : Bytes} {j n : ℕ} {flights before after : List Flight} {f : Flight}

/-- **Opening a sending chain** draws the next pair of the transcript. -/
theorem Represents.openSendingChain (h : Represents c t p own remote s) (hidle : remote = own + 1)
    {pair : X25519KeyPair}
    (hdh : diffieHellmanX25519 c pair.privateKey (hexToBytes s.remoteRatchetPublicKey)
      = .ok dhOutput) (hlen : t.len (remote + 1) = 0) :
    Represents c (t.extend (remote + 1) pair) p (remote + 1) remote
      (openSendingChain c s pair dhOutput) := by
  have hremote : (t.extend (remote + 1) pair).pair remote = t.pair remote :=
    t.extend_pair_ne pair (by omega)
  have hagree : agreement c pair (t.pair remote) = dhOutput := by
    rw [h.remoteKey] at hdh
    exact agreement_of_ok hdh
  have hkeys : (t.extend (remote + 1) pair).keys c (remote + 1)
      = deriveRootAndChainKeys c (hexToBytes s.rootKey) dhOutput := by
    rw [Transcript.keys, t.keys_extend c pair (Nat.lt_succ_self remote), hremote,
      Transcript.extend_pair_self, hagree, h.root, show max own remote = remote by omega]
    rfl
  refine ⟨?_, Or.inl rfl, ?_, ?_, ?_, ?_, ?_, ?_, ?_, ?_, ?_⟩
  · have hown := h.own_parity
    omega
  · simp only [E2E.openSendingChain, Transcript.extend_pair_self]
  · rw [hremote]
    exact h.remoteKey
  · rw [show max (remote + 1) remote = remote + 1 by omega, hkeys]
    rfl
  · exact hlen.symm
  · intro _
    refine ⟨?_, ?_⟩
    · rw [hkeys, Transcript.extend_len, hlen]
      rfl
    · rw [show remote + 1 - 2 = own by omega]
      exact h.sendCount
  · intro habsurd
    omega
  · exact h.received_le
  · rw [t.keys_extend c pair (Nat.lt_succ_self remote)]
    exact h.receiving
  · intro entry hentry
    obtain ⟨j, n, hpassed, rfl⟩ := h.stored entry hentry
    have hj : j < remote + 1 := by
      have hcase := hpassed.2.2
      omega
    refine ⟨j, n, hpassed, ?_⟩
    rw [storedKey, storedKey, t.extend_pair_ne pair (show j ≠ remote + 1 by omega),
      t.key_extend c pair n hj]

/-- **Sealing a message** moves the sending chain by one. -/
theorem Represents.send (h : Represents c t p own remote s) (hopen : own = remote + 1)
    (now : ℕ) :
    Represents c (t.count own) p own remote
      { s with
        sendingChainKey := some (bytesToHex
          (chainKeyAt c (t.keys c own).chainKey (t.len own + 1)))
        nextSendMessageNumber := s.nextSendMessageNumber + 1
        updatedAt := now } := by
  have hremote : (t.count own).len remote = t.len remote := t.count_len_ne (by omega)
  refine ⟨h.own_parity, h.adjacent, h.current, h.remoteKey, ?_, ?_, ?_, ?_, ?_, ?_, ?_⟩
  · rw [t.keys_count]
    exact h.root
  · rw [Transcript.count_len_self, h.sendCount]
  · intro _
    refine ⟨?_, ?_⟩
    · rw [t.keys_count, Transcript.count_len_self]
    · rw [t.count_len_ne (show own - 2 ≠ own by omega)]
      exact (h.sending hopen).2
  · intro habsurd
    omega
  · rw [hremote]
    exact h.received_le
  · rw [t.keys_count]
    exact h.receiving
  · intro entry hentry
    obtain ⟨j, n, ⟨hparity, hpos, hcase⟩, rfl⟩ := h.stored entry hentry
    refine ⟨j, n, ⟨hparity, hpos, ?_⟩, ?_⟩
    · rw [t.count_len_ne (show j ≠ own by omega)]
      exact hcase
    · rw [storedKey, storedKey, t.key_count, Transcript.count_pair]

/-- A message counted on a chain of the peer that is not older than the newest one seen. -/
theorem Represents.peerSend (h : Represents c t p own remote s) (hpos : 1 ≤ j)
    (hremote : remote ≤ j) (hparity : j % 2 ≠ own % 2) :
    Represents c (t.count j) p own remote s := by
  refine ⟨h.own_parity, h.adjacent, h.current, h.remoteKey, ?_, ?_, ?_, h.idle, ?_, ?_, ?_⟩
  · rw [t.keys_count]
    exact h.root
  · rw [t.count_len_ne (show own ≠ j by omega)]
    exact h.sendCount
  · intro hopen
    rw [t.keys_count, t.count_len_ne (show own ≠ j by omega),
      t.count_len_ne (show own - 2 ≠ j by omega)]
    exact h.sending hopen
  · exact Nat.le_trans h.received_le (t.len_le_count remote j)
  · rw [t.keys_count]
    exact h.receiving
  · intro entry hentry
    obtain ⟨i, n, ⟨hiparity, hipos, hcase⟩, rfl⟩ := h.stored entry hentry
    refine ⟨i, n, ⟨hiparity, hipos, ?_⟩, ?_⟩
    · rcases hcase with ⟨hlt, hn⟩ | hcase
      · exact Or.inl ⟨hlt, Nat.lt_of_lt_of_le hn (t.len_le_count i j)⟩
      · exact Or.inr hcase
    · rw [storedKey, storedKey, t.key_count, Transcript.count_pair]

/-- A pair drawn beyond everything the session has seen. -/
theorem Represents.peerOpen (h : Represents c t p own remote s) (pair : X25519KeyPair)
    (hown : own < j) (hremote : remote < j) : Represents c (t.extend j pair) p own remote s := by
  have hmax : max own remote < j := by omega
  refine ⟨h.own_parity, h.adjacent, ?_, ?_, ?_, h.sendCount, ?_, h.idle, h.received_le, ?_, ?_⟩
  · rw [t.extend_pair_ne pair (Nat.ne_of_lt hown)]
    exact h.current
  · rw [t.extend_pair_ne pair (Nat.ne_of_lt hremote)]
    exact h.remoteKey
  · rw [t.keys_extend c pair hmax]
    exact h.root
  · rw [t.keys_extend c pair hown]
    exact h.sending
  · rw [t.keys_extend c pair hremote]
    exact h.receiving
  · intro entry hentry
    obtain ⟨i, n, hpassed, rfl⟩ := h.stored entry hentry
    have hi : i < j := by
      have hcase := hpassed.2.2
      omega
    refine ⟨i, n, hpassed, ?_⟩
    rw [storedKey, storedKey, t.extend_pair_ne pair (Nat.ne_of_lt hi), t.key_extend c pair n hi]

/-! ### Receiving -/

/-- **Skipping ahead** on the current receiving chain. -/
theorem Represents.skippedTo (h : Represents c t p own remote s) (hpos : 1 ≤ remote)
    (hle : s.nextReceiveMessageNumber ≤ n) (hlen : n ≤ t.len remote) :
    Represents c t p own remote
      (skippedTo c s (chainKeyAt c (t.keys c remote).chainKey s.nextReceiveMessageNumber) n) := by
  refine ⟨h.own_parity, h.adjacent, h.current, h.remoteKey, h.root, h.sendCount, h.sending, h.idle,
    hlen, ?_, ?_⟩
  · rw [if_neg (show remote ≠ 0 by omega)]
    simp only [E2E.skippedTo, chainKeyAt_add, Nat.add_sub_cancel' hle]
  · intro entry hentry
    rcases List.mem_append.mp ((pushSkipped_sublist _ _).subset hentry) with hold | hnew
    · -- an entry that was there stays behind the receiver
      obtain ⟨j, m, ⟨hparity, hjpos, hcase⟩, rfl⟩ := h.stored entry hold
      refine ⟨j, m, ⟨hparity, hjpos, ?_⟩, rfl⟩
      rcases hcase with hcase | ⟨hj, hm⟩
      · exact Or.inl hcase
      · exact Or.inr ⟨hj, Nat.lt_of_lt_of_le hm hle⟩
    · obtain ⟨i, hi, rfl⟩ := mem_skippedRange.mp hnew
      refine ⟨remote, s.nextReceiveMessageNumber + i, ⟨rfl, hpos, Or.inr ⟨rfl, ?_⟩⟩, ?_⟩
      · show s.nextReceiveMessageNumber + i < n
        omega
      · rw [skippedEntry, storedKey, h.remoteKey, messageKeyAt_add, Transcript.key]

theorem Covered.skippedTo (h : Represents c t p own remote s)
    (hcovered : Covered t remote s flights)
    (hroom : s.skippedMessageKeys.length + (n - s.nextReceiveMessageNumber)
      ≤ MAX_SKIPPED_MESSAGE_KEYS) (chainKey : Bytes) :
    Covered t remote (skippedTo c s chainKey n) flights := by
  intro f hf j hkey hpassed
  obtain ⟨hparity, hpos, hcase⟩ := hpassed
  simp only [E2E.skippedTo] at hcase
  rw [skippedTo_skippedMessageKeys hroom]
  by_cases hold : Passed t remote s.nextReceiveMessageNumber j f.message.messageNumber
  · obtain ⟨entry, hentry, hmatch⟩ := hcovered f hf j hkey hold
    exact ⟨entry, List.mem_append_left _ hentry, hmatch⟩
  · -- the message is one of the numbers just skipped
    have hnew : j = remote ∧ s.nextReceiveMessageNumber ≤ f.message.messageNumber ∧
        f.message.messageNumber < n := by
      rcases hcase with hcase | ⟨hj, hlt⟩
      · exact absurd ⟨hparity, hpos, Or.inl hcase⟩ hold
      · refine ⟨hj, ?_, hlt⟩
        by_contra hbefore
        exact hold ⟨hparity, hpos, Or.inr ⟨hj, by omega⟩⟩
    obtain ⟨hj, hge, hlt⟩ := hnew
    refine ⟨skippedEntry c s.remoteRatchetPublicKey s.nextReceiveMessageNumber chainKey
        (f.message.messageNumber - s.nextReceiveMessageNumber),
      List.mem_append_right _ (mem_skippedRange.mpr ⟨_, by omega, rfl⟩), ?_, ?_⟩
    · rw [skippedEntry, h.remoteKey, hkey, hj]
    · show s.nextReceiveMessageNumber + (f.message.messageNumber - s.nextReceiveMessageNumber)
        = f.message.messageNumber
      omega

/-- **Turning to a new remote key**, once the whole of the current receiving chain is behind. -/
theorem Represents.openReceivingChain (h : Represents c t p own remote s) (hopen : own = remote + 1)
    (hdone : s.nextReceiveMessageNumber = t.len remote)
    (hagree : agreement c (t.pair (own + 1)) (t.pair own) = dhOutput) :
    Represents c t p own (own + 1)
      (openReceivingChain c s (t.pair (own + 1)).publicKey dhOutput) := by
  have hkeys : t.keys c (own + 1) = deriveRootAndChainKeys c (hexToBytes s.rootKey) dhOutput := by
    rw [Transcript.keys, hagree, h.root, show max own remote = own by omega]
    rfl
  refine ⟨h.own_parity, Or.inr rfl, h.current, rfl, ?_, h.sendCount, ?_, fun _ => rfl,
    Nat.zero_le _, ?_, ?_⟩
  · rw [show max own (own + 1) = own + 1 by omega, hkeys]
    rfl
  · intro habsurd
    omega
  · rw [if_neg (Nat.succ_ne_zero own), hkeys]
    rfl
  · intro entry hentry
    obtain ⟨j, n, ⟨hparity, hpos, hcase⟩, rfl⟩ := h.stored entry hentry
    refine ⟨j, n, ⟨by omega, hpos, Or.inl ?_⟩, rfl⟩
    rcases hcase with ⟨hlt, hn⟩ | ⟨rfl, hn⟩
    · exact ⟨by omega, hn⟩
    · exact ⟨by omega, by omega⟩

theorem Covered.openReceivingChain (hcovered : Covered t remote s flights)
    (hopen : own = remote + 1) (hdone : s.nextReceiveMessageNumber = t.len remote)
    (dhOutput : Bytes) :
    Covered t (own + 1) (openReceivingChain c s (t.pair (own + 1)).publicKey dhOutput)
      flights := by
  intro f hf j hkey hpassed
  obtain ⟨hparity, hpos, hcase⟩ := hpassed
  refine hcovered f hf j hkey ⟨by omega, hpos, ?_⟩
  rcases hcase with ⟨hlt, hn⟩ | ⟨_, hn⟩
  · by_cases hj : j = remote
    · subst hj
      exact Or.inr ⟨rfl, by omega⟩
    · exact Or.inl ⟨by omega, hn⟩
  · exact absurd hn (Nat.not_lt_zero _)

/-- **Reading the next message** of the current receiving chain. -/
theorem Represents.read (h : Represents c t p own remote s) (hpos : 1 ≤ remote)
    (hlt : s.nextReceiveMessageNumber < t.len remote) (now : ℕ) :
    Represents c t p own remote
      (readPast c s (bytesToHex
        (chainKeyAt c (t.keys c remote).chainKey s.nextReceiveMessageNumber))
        s.nextReceiveMessageNumber now) := by
  refine ⟨h.own_parity, h.adjacent, h.current, h.remoteKey, h.root, h.sendCount, h.sending, h.idle,
    hlt, ?_, ?_⟩
  · rw [if_neg (show remote ≠ 0 by omega)]
    simp only [readPast, hexToBytes_bytesToHex, chainKeyAt_add]
  · intro entry hentry
    obtain ⟨j, n, ⟨hparity, hjpos, hcase⟩, rfl⟩ := h.stored entry hentry
    refine ⟨j, n, ⟨hparity, hjpos, ?_⟩, rfl⟩
    rcases hcase with hcase | ⟨hj, hn⟩
    · exact Or.inl hcase
    · exact Or.inr ⟨hj, Nat.lt_succ_of_lt hn⟩

/-- A message on its way is told from the others of its direction by its place. -/
theorem position_ne {g : Flight} (hpositions : ((before ++ f :: after).map Flight.position).Nodup)
    (hg : g ∈ before ++ after) : g.position ≠ f.position := by
  rw [List.map_append, List.map_cons, List.nodup_middle, List.nodup_cons] at hpositions
  intro heq
  rw [← heq, ← List.map_append] at hpositions
  exact hpositions.1 (List.mem_map_of_mem hg)

/-- After the next message of the current chain has been read, the others are covered as before. -/
theorem Covered.read (hcovered : Covered t remote s (before ++ f :: after))
    (hpositions : ((before ++ f :: after).map Flight.position).Nodup)
    (hkey : f.message.ratchetPublicKey = (t.pair remote).publicKey)
    (hnext : s.nextReceiveMessageNumber = f.message.messageNumber) (chainKey : HexString)
    (now : ℕ) :
    Covered t remote (readPast c s chainKey f.message.messageNumber now) (before ++ after) := by
  intro g hg j hgkey hpassed
  obtain ⟨hparity, hpos, hcase⟩ := hpassed
  have hold : g ∈ before ++ f :: after := by
    rcases List.mem_append.mp hg with hg | hg
    · exact List.mem_append_left _ hg
    · exact List.mem_append_right _ (List.mem_cons_of_mem _ hg)
  refine hcovered g hold j hgkey ⟨hparity, hpos, ?_⟩
  rcases hcase with hcase | ⟨rfl, hn⟩
  · exact Or.inl hcase
  · refine Or.inr ⟨rfl, ?_⟩
    have hlt : g.message.messageNumber < f.message.messageNumber + 1 := hn
    have hne : g.message.messageNumber ≠ f.message.messageNumber := by
      intro heq
      refine position_ne hpositions hg ?_
      rw [Flight.position, Flight.position, hgkey, hkey, heq]
    omega

/-- After a key has been taken out of the store, the others are covered as before. -/
theorem Covered.take (hcovered : Covered t remote s (before ++ f :: after))
    (hpositions : ((before ++ f :: after).map Flight.position).Nodup) (now : ℕ) :
    Covered t remote
      (takeStored s (bytesToHex f.message.ratchetPublicKey) f.message.messageNumber now)
      (before ++ after) := by
  intro g hg j hgkey hpassed
  have hold : g ∈ before ++ f :: after := by
    rcases List.mem_append.mp hg with hg | hg
    · exact List.mem_append_left _ hg
    · exact List.mem_append_right _ (List.mem_cons_of_mem _ hg)
  obtain ⟨entry, hentry, hmatch⟩ := hcovered g hold j hgkey hpassed
  refine ⟨entry, (List.mem_eraseP_of_neg ?_).mpr hentry, hmatch⟩
  intro hsame
  obtain ⟨hsameKey, hsameNumber⟩ := isSkippedEntry_iff.mp hsame
  have hkey := hmatch.1.symm.trans hsameKey
  have hnumber := hmatch.2.symm.trans hsameNumber
  rw [bytesToHex_inj] at hkey
  refine position_ne hpositions hg ?_
  rw [Flight.position, Flight.position, hkey, hnumber]

/-- **Taking a key out of the store.** -/
theorem Represents.take (h : Represents c t p own remote s) (ratchetPublicKey : HexString)
    (messageNumber now : ℕ) :
    Represents c t p own remote (takeStored s ratchetPublicKey messageNumber now) :=
  ⟨h.own_parity, h.adjacent, h.current, h.remoteKey, h.root, h.sendCount, h.sending, h.idle,
    h.received_le, h.receiving, fun entry hentry => h.stored entry (List.mem_of_mem_eraseP hentry)⟩

end

end QuadraA.E2E
