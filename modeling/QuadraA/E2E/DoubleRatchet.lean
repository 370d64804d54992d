import QuadraA.E2E.Transcript
import QuadraA.E2E.Bootstrap
import QuadraA.Lib.Trace

/-!
# Double Ratchet runs

Two sessions and the messages on their way between them.  The steps are the calls the two ends
make: either end encrypts (`encryptRatchetMessage`), a message on its way reaches its receiver
(`decryptRatchetMessage`; a message that is never delivered is lost, and any later message may
overtake it), or a delivery is refused and leaves the session as it was.

`Invariant` ties the two sessions and the messages between them to one transcript.  It is kept by
opening a sending chain (`Invariant.openChain`), by sealing a message (`Invariant.seal`) and by a
delivery within the skipped-key window (`Invariant.deliver`), so it holds along every run
(`invariant_of_run`); and where it holds every message on its way opens to what was sealed in it
(`Invariant.decrypt`).
-/

namespace QuadraA.E2E

open QuadraA.Lib

/-! ### The two ends and the network -/

structure Duplex where
  session : Party → LocalSessionState
  /-- The messages a party has sent that were not delivered so far. -/
  inFlight : Party → List Flight
  /-- The public keys of the ratchet pairs drawn so far. -/
  drawn : List Bytes

def Duplex.start (initiator responder : LocalSessionState) : Duplex where
  session
    | .initiator => initiator
    | .responder => responder
  inFlight _ := []
  drawn := [hexToBytes responder.currentRatchetKey.publicKey,
    hexToBytes initiator.currentRatchetKey.publicKey]

/-- After `p` has encrypted. -/
def Duplex.encrypted (d : Duplex) (p : Party) (plaintext : Bytes) (result : RatchetEncryptResult) :
    Duplex where
  session := Function.update d.session p result.session
  inFlight := Function.update d.inFlight p
    (d.inFlight p ++ [{ message := result.message, plaintext := plaintext }])
  drawn := hexToBytes result.session.currentRatchetKey.publicKey :: d.drawn

/-- After a message of `p` has been delivered: a receiver keeps the session it had when the
decryption throws. -/
def Duplex.delivered (d : Duplex) (p : Party) (rest : List Flight)
    (outcome : Except EncryptionError RatchetDecryptResult) : Duplex where
  session := match outcome with
    | .ok result => Function.update d.session p.other result.session
    | .error _ => d.session
  inFlight := Function.update d.inFlight p rest
  drawn := d.drawn

/-- The two gaps that `skipMessageKeys` closes for a message whose key is not in the store: on the
chain the session leaves, and on the chain the message belongs to. -/
def skipGaps (s : LocalSessionState) (message : SessionMessage) : ℕ × ℕ :=
  if bytesToHex message.ratchetPublicKey = s.remoteRatchetPublicKey then
    (0, message.messageNumber - s.nextReceiveMessageNumber)
  else (message.previousChainLength - s.nextReceiveMessageNumber, message.messageNumber)

/-- Neither gap exceeds the window, and the skipped keys outstanding stay within it. -/
def WithinWindow (s : LocalSessionState) (message : SessionMessage) : Prop :=
  takeSkippedMessageKey s (bytesToHex message.ratchetPublicKey) message.messageNumber ≠ none ∨
  (skipGaps s message).1 ≤ MAX_SKIPPED_MESSAGE_KEYS ∧
    (skipGaps s message).2 ≤ MAX_SKIPPED_MESSAGE_KEYS ∧
    s.skippedMessageKeys.length + (skipGaps s message).1 + (skipGaps s message).2
      ≤ MAX_SKIPPED_MESSAGE_KEYS

instance (s : LocalSessionState) (message : SessionMessage) : Decidable (WithinWindow s message) :=
  inferInstanceAs (Decidable (_ ∨ _))

/-- What one step of a run does. -/
inductive RatchetEvent where
  | encrypt (sender : Party) (plaintext : Bytes)
  | deliver (receiver : Party) (flight : Flight)
  | refuse (receiver : Party) (message : SessionMessage)

/-- **The steps of a run.**  A pair drawn for a new sending chain is a generated one whose public
key was not drawn before; a first delivery keeps within the window; a delivery that throws, as that
of a copy or of a foreign message, changes nothing. -/
inductive DuplexStep (c : Primitives) : Duplex → RatchetEvent → Duplex → Prop
  | encrypt {d : Duplex} {p : Party} {amb : Ambient} {input : RatchetEncryptInput}
      {result : RatchetEncryptResult} :
      input.session = d.session p →
      encryptRatchetMessage c amb input = .ok result →
      ((d.session p).sendingChainKey = none →
        IsKeyPair c (input.ratchetKeyPair.getD amb.keyPair) ∧
          (input.ratchetKeyPair.getD amb.keyPair).publicKey ∉ d.drawn) →
      DuplexStep c d (.encrypt p input.plaintext) (d.encrypted p input.plaintext result)
  | deliver {d : Duplex} {p : Party} {before after : List Flight} {flight : Flight}
      {amb : Ambient} {now : Option ℕ} :
      d.inFlight p = before ++ flight :: after →
      WithinWindow (d.session p.other) flight.message →
      DuplexStep c d (.deliver p.other flight)
        (d.delivered p (before ++ after)
          (decryptRatchetMessage c amb
            { session := d.session p.other, message := flight.message, now := now }))
  | refuse {d : Duplex} {p : Party} {message : SessionMessage} {amb : Ambient} {now : Option ℕ}
      {error : EncryptionError} :
      decryptRatchetMessage c amb { session := d.session p, message := message, now := now }
        = .error error →
      DuplexStep c d (.refuse p message) d

/-! ### The invariant -/

/-- The newest ratchet pair drawn by either end. -/
def newest (own : Party → ℕ) : ℕ := max (own .initiator) (own .responder)

theorem le_newest (own : Party → ℕ) (p : Party) : own p ≤ newest own := by
  cases p with
  | initiator => exact Nat.le_max_left _ _
  | responder => exact Nat.le_max_right _ _

theorem newest_eq (own : Party → ℕ) (p : Party) : newest own = max (own p) (own p.other) := by
  cases p with
  | initiator => rfl
  | responder => exact Nat.max_comm _ _

/-- **The two-party invariant**: both sessions are positions in one transcript, every message on
its way was sealed at a place of it, and those a receiver has moved past are in its store. -/
structure Invariant (c : Primitives) (d : Duplex) (t : Transcript) (own remote : Party → ℕ) :
    Prop where
  represents : ∀ p, Represents c t p (own p) (remote p) (d.session p)
  remote_le : ∀ p, remote p.other ≤ own p
  sealedOn : ∀ p, ∀ f ∈ d.inFlight p, ∃ j ≤ own p, SealedOn c t p j f
  covered : ∀ p, Covered t (remote p.other) (d.session p.other) (d.inFlight p)
  positions : ∀ p, ((d.inFlight p).map Flight.position).Nodup
  validPair : ∀ j ≤ newest own, IsKeyPair c (t.pair j)
  distinctPair : ∀ i ≤ newest own, ∀ j ≤ newest own,
    (t.pair i).publicKey = (t.pair j).publicKey → i = j
  drawn : ∀ j ≤ newest own, (t.pair j).publicKey ∈ d.drawn
  agreed : ∀ j < newest own,
    diffieHellmanX25519 c (t.pair (j + 1)).privateKey (t.pair j).publicKey
      = .ok (agreement c (t.pair (j + 1)) (t.pair j))
  len_zero : t.len 0 = 0
  len_beyond : ∀ j, newest own < j → t.len j = 0

section

variable {c : Primitives} {d : Duplex} {t : Transcript} {own remote : Party → ℕ} {p : Party}

/-- Neither end is more than one pair ahead of the other. -/
theorem Invariant.own_le_succ (h : Invariant c d t own remote) (p : Party) :
    own p ≤ own p.other + 1 := by
  have hadjacent := (h.represents p).adjacent
  have hremote := h.remote_le p.other
  rw [Party.other_other] at hremote
  omega

/-- An end without a sending chain has seen the newest pair. -/
theorem Invariant.newest_of_idle (h : Invariant c d t own remote) (hidle : remote p = own p + 1) :
    newest own = remote p ∧ own p.other = remote p := by
  have hremote := h.remote_le p.other
  have hother := h.own_le_succ p.other
  rw [Party.other_other] at hremote hother
  rw [newest_eq own p]
  omega

/-! ### Sending -/

variable {j i : ℕ} {f : Flight} {s : LocalSessionState} {flights : List Flight}

theorem SealedOn.extend (h : SealedOn c t p j f) (pair : X25519KeyPair) (hlt : j < i) :
    SealedOn c (t.extend i pair) p j f := by
  refine ⟨h.parity, h.pos, ?_, h.previous, h.number, ?_⟩
  · rw [t.extend_pair_ne pair (Nat.ne_of_lt hlt)]
    exact h.key
  · rw [t.key_extend c pair _ hlt]
    exact h.opens

theorem SealedOn.count (h : SealedOn c t p j f) (hne : j - 2 ≠ i) :
    SealedOn c (t.count i) p j f := by
  refine ⟨h.parity, h.pos, h.key, ?_, Nat.lt_of_lt_of_le h.number (t.len_le_count j i), ?_⟩
  · rw [t.count_len_ne hne]
    exact h.previous
  · rw [t.key_count]
    exact h.opens

theorem Covered.extend {remote : ℕ} (h : Covered t remote s flights) (pair : X25519KeyPair)
    (hlt : remote < i) : Covered (t.extend i pair) remote s flights := by
  intro f hf j hkey hpassed
  have hj : j ≠ i := by
    have hcase := hpassed.2.2
    omega
  rw [t.extend_pair_ne pair hj] at hkey
  exact h f hf j hkey hpassed

theorem Covered.count {remote : ℕ} (h : Covered t remote s flights) (hle : remote ≤ i) :
    Covered (t.count i) remote s flights := by
  intro f hf j hkey hpassed
  obtain ⟨hparity, hpos, hcase⟩ := hpassed
  refine h f hf j hkey ⟨hparity, hpos, ?_⟩
  rcases hcase with ⟨hlt, hn⟩ | hcase
  · rw [t.count_len_ne (show j ≠ i by omega)] at hn
    exact Or.inl ⟨hlt, hn⟩
  · exact Or.inr hcase

/-- **Opening a sending chain** with a pair that was not drawn before. -/
theorem Invariant.openChain (h : Invariant c d t own remote) (hidle : remote p = own p + 1)
    {pair : X25519KeyPair} {dhOutput : Bytes} (hpair : IsKeyPair c pair)
    (hfresh : pair.publicKey ∉ d.drawn)
    (hdh : diffieHellmanX25519 c pair.privateKey (hexToBytes (d.session p).remoteRatchetPublicKey)
      = .ok dhOutput) :
    Invariant c
      { session := Function.update d.session p (openSendingChain c (d.session p) pair dhOutput)
        inFlight := d.inFlight
        drawn := pair.publicKey :: d.drawn }
      (t.extend (remote p + 1) pair) (Function.update own p (remote p + 1)) remote := by
  obtain ⟨hnewest, hother⟩ := h.newest_of_idle hidle
  have hremote := h.remote_le p
  have hnext : newest (Function.update own p (remote p + 1)) = remote p + 1 := by
    rw [newest_eq _ p, Function.update_self, Function.update_of_ne p.other_ne]
    omega
  have hbelow : ∀ j, j ≠ remote p + 1 → (t.extend (remote p + 1) pair).pair j = t.pair j :=
    fun j hj => t.extend_pair_ne pair hj
  have hlen : t.len (remote p + 1) = 0 := h.len_beyond _ (by omega)
  -- the pair that is new is none of the old ones
  have hnotOld : ∀ j ≤ remote p, (t.pair j).publicKey ≠ pair.publicKey := by
    intro j hj heq
    exact hfresh (heq ▸ h.drawn j (by omega))
  refine ⟨?_, ?_, ?_, ?_, h.positions, ?_, ?_, ?_, ?_, h.len_zero, ?_⟩
  · intro q
    rcases Party.eq_or_eq_other p q with rfl | rfl
    · simp only [Function.update_self]
      exact (h.represents q).openSendingChain hidle hdh hlen
    · simp only [Function.update_of_ne p.other_ne]
      exact (h.represents p.other).peerOpen pair (by omega) (by omega)
  · intro q
    rcases Party.eq_or_eq_other p q with rfl | rfl
    · rw [Function.update_self]
      omega
    · rw [Function.update_of_ne p.other_ne]
      exact h.remote_le p.other
  · intro q f hf
    obtain ⟨j, hj, hsealed⟩ := h.sealedOn q f hf
    have hjnewest := le_newest own q
    refine ⟨j, ?_, hsealed.extend pair (by omega)⟩
    rcases Party.eq_or_eq_other p q with rfl | rfl
    · rw [Function.update_self]
      omega
    · rw [Function.update_of_ne p.other_ne]
      exact hj
  · intro q
    rcases Party.eq_or_eq_other p q with rfl | rfl
    · simp only [Function.update_of_ne q.other_ne]
      exact (h.covered q).extend pair (by omega)
    · simp only [Party.other_other, Function.update_self]
      have hcovered := h.covered p.other
      rw [Party.other_other] at hcovered
      exact hcovered.extend pair (Nat.lt_succ_self _)
  · intro j hj
    rw [hnext] at hj
    by_cases hnew : j = remote p + 1
    · rw [hnew, Transcript.extend_pair_self]
      exact hpair
    · rw [hbelow j hnew]
      exact h.validPair j (by omega)
  · intro i hi j hj heq
    rw [hnext] at hi hj
    by_cases hinew : i = remote p + 1 <;> by_cases hjnew : j = remote p + 1
    · omega
    · rw [hinew, Transcript.extend_pair_self, hbelow j hjnew] at heq
      exact absurd heq.symm (hnotOld j (by omega))
    · rw [hjnew, Transcript.extend_pair_self, hbelow i hinew] at heq
      exact absurd heq (hnotOld i (by omega))
    · rw [hbelow i hinew, hbelow j hjnew] at heq
      exact h.distinctPair i (by omega) j (by omega) heq
  · intro j hj
    rw [hnext] at hj
    by_cases hnew : j = remote p + 1
    · rw [hnew, Transcript.extend_pair_self]
      exact List.mem_cons_self ..
    · rw [hbelow j hnew]
      exact List.mem_cons_of_mem _ (h.drawn j (by omega))
  · intro j hj
    rw [hnext] at hj
    rw [hbelow j (by omega)]
    by_cases hnew : j + 1 = remote p + 1
    · rw [hnew, Transcript.extend_pair_self, show j = remote p by omega]
      rw [(h.represents p).remoteKey] at hdh
      rw [agreement_of_ok hdh]
      exact hdh
    · rw [hbelow (j + 1) hnew]
      exact h.agreed j (by omega)
  · intro j hj
    rw [hnext] at hj
    exact h.len_beyond j (by omega)

/-- **Sealing a message** as the next one of the sender's chain. -/
theorem Invariant.seal (h : Invariant c d t own remote) (hopen : own p = remote p + 1)
    (hf : SealedOn c (t.count (own p)) p (own p) f)
    (hnumber : f.message.messageNumber = t.len (own p)) (now : ℕ) {drawn : List Bytes}
    (hdrawn : d.drawn ⊆ drawn) :
    Invariant c
      { session := Function.update d.session p
          { d.session p with
            sendingChainKey := some (bytesToHex
              (chainKeyAt c (t.keys c (own p)).chainKey (t.len (own p) + 1)))
            nextSendMessageNumber := (d.session p).nextSendMessageNumber + 1
            updatedAt := now }
        inFlight := Function.update d.inFlight p (d.inFlight p ++ [f])
        drawn := drawn }
      (t.count (own p)) own remote := by
  have hremote := h.remote_le p
  have hparity := (h.represents p).own_parity
  have hother := (h.represents p.other).own_parity
  have hflip := p.parity_other
  refine ⟨?_, h.remote_le, ?_, ?_, ?_, h.validPair, h.distinctPair,
    fun j hj => hdrawn (h.drawn j hj), h.agreed, ?_, ?_⟩
  · intro q
    rcases Party.eq_or_eq_other p q with rfl | rfl
    · simp only [Function.update_self]
      exact (h.represents q).send hopen now
    · simp only [Function.update_of_ne p.other_ne]
      exact (h.represents p.other).peerSend (by omega) hremote (by omega)
  · intro q g hg
    rcases Party.eq_or_eq_other p q with rfl | rfl
    · simp only [Function.update_self, List.mem_append, List.mem_singleton] at hg
      rcases hg with hg | rfl
      · obtain ⟨j, hj, hsealed⟩ := h.sealedOn q g hg
        have hpos := hsealed.pos
        exact ⟨j, hj, hsealed.count (by omega)⟩
      · exact ⟨own q, Nat.le_refl _, hf⟩
    · simp only [Function.update_of_ne p.other_ne] at hg
      obtain ⟨j, hj, hsealed⟩ := h.sealedOn p.other g hg
      have hjparity := hsealed.parity
      exact ⟨j, hj, hsealed.count (by omega)⟩
  · intro q
    rcases Party.eq_or_eq_other p q with rfl | rfl
    · simp only [Function.update_of_ne q.other_ne, Function.update_self]
      intro g hg j hkey hpassed
      rw [List.mem_append, List.mem_singleton] at hg
      rcases hg with hg | rfl
      · exact ((h.covered q).count hremote) g hg j hkey hpassed
      · -- the new message lies ahead of its receiver
        exfalso
        obtain ⟨_, _, hcase⟩ := hpassed
        have hle := le_newest own q
        have hkey' : (t.pair (own q)).publicKey = (t.pair j).publicKey := hf.key.symm.trans hkey
        have hj : own q = j := h.distinctPair (own q) hle j (by omega) hkey'
        have hreceived := (h.represents q.other).received_le
        rcases hcase with ⟨hlt, _⟩ | ⟨hjremote, hn⟩
        · omega
        · rw [← hjremote, ← hj] at hreceived
          omega
    · simp only [Party.other_other, Function.update_self, Function.update_of_ne p.other_ne]
      have hcovered := h.covered p.other
      rw [Party.other_other] at hcovered
      intro g hg j hkey hpassed
      exact hcovered.count (show remote p ≤ own p by omega) g hg j hkey hpassed
  · intro q
    rcases Party.eq_or_eq_other p q with rfl | rfl
    · simp only [Function.update_self, List.map_append, List.map_singleton]
      refine (h.positions q).append (List.nodup_singleton _) ?_
      intro position hold hnew
      rw [List.mem_singleton] at hnew
      obtain ⟨g, hg, rfl⟩ := List.mem_map.mp hold
      obtain ⟨j, hj, hsealed⟩ := h.sealedOn q g hg
      obtain ⟨hkeys, hnumbers⟩ := Prod.mk.injEq .. ▸ hnew
      have hle := le_newest own q
      have hkey : (t.pair j).publicKey = (t.pair (own q)).publicKey :=
        hsealed.key.symm.trans (hkeys.trans hf.key)
      have hjown : j = own q := h.distinctPair j (by omega) (own q) hle hkey
      have hlt := hsealed.number
      rw [hjown] at hlt
      omega
    · simp only [Function.update_of_ne p.other_ne]
      exact h.positions p.other
  · rw [t.count_len_ne (show 0 ≠ own p by omega)]
    exact h.len_zero
  · intro j hj
    have hle := le_newest own p
    rw [t.count_len_ne (show j ≠ own p by omega)]
    exact h.len_beyond j hj

end

end QuadraA.E2E
