import QuadraA.E2E.DoubleRatchet
import QuadraA.E2E.SamplePrimitives

/-!
# Delivery along Double Ratchet runs

The receiving half of the two-party invariant and its consequence for runs.

* `Represents.readMessage` — a message of the chain a session stands on is skipped to and read;
* `decryptRatchetMessage_of_run` — so every first delivery returns what was encrypted.
-/

namespace QuadraA.E2E

open QuadraA.Lib

section

variable {c : Primitives} {d : Duplex} {t : Transcript} {own remote : Party → ℕ} {p : Party}

/-! ### Reading -/

variable {q : Party} {j : ℕ} {before after : List Flight} {f : Flight} {amb : Ambient}
  {input : RatchetEncryptInput} {result : RatchetEncryptResult}

/-- **Reading a message** of the chain that a session stands on. -/
theorem Represents.readMessage {own : ℕ} {ready : LocalSessionState}
    (h : Represents c t q own j ready) (hcovered : Covered t j ready (before ++ f :: after))
    (hf : SealedOn c t p j f) (hpositions : ((before ++ f :: after).map Flight.position).Nodup)
    (hle : ready.nextReceiveMessageNumber ≤ f.message.messageNumber)
    (hgap : f.message.messageNumber - ready.nextReceiveMessageNumber ≤ MAX_SKIPPED_MESSAGE_KEYS)
    (hroom : ready.skippedMessageKeys.length
      + (f.message.messageNumber - ready.nextReceiveMessageNumber) ≤ MAX_SKIPPED_MESSAGE_KEYS)
    (now : ℕ) :
    ∃ reached, skipMessageKeys c ready f.message.messageNumber = .ok reached ∧
    ∃ chainKey, reached.receivingChainKey = some chainKey ∧
      messageKeyAt c (hexToBytes chainKey) 0 = t.key c j f.message.messageNumber ∧
      Represents c t q own j (readPast c reached chainKey f.message.messageNumber now) ∧
      Covered t j (readPast c reached chainKey f.message.messageNumber now)
        (before ++ after) := by
  have hpos := hf.pos
  have hlen := hf.number
  have hchain : ready.receivingChainKey = some (bytesToHex
      (chainKeyAt c (t.keys c j).chainKey ready.nextReceiveMessageNumber)) := by
    rw [h.receiving, if_neg (show j ≠ 0 by omega)]
  have hreached := h.skippedTo hpos hle (Nat.le_of_lt hlen)
  have hreachedCovered := Covered.skippedTo h hcovered hroom
    (chainKeyAt c (t.keys c j).chainKey ready.nextReceiveMessageNumber)
  refine ⟨_, skipMessageKeys_eq_ok.mpr (Or.inr (Or.inr ⟨_, hchain, hle, hgap, rfl⟩)),
    bytesToHex (chainKeyAt c (t.keys c j).chainKey f.message.messageNumber), ?_, ?_, ?_, ?_⟩
  · simp only [E2E.skippedTo]
    rw [hexToBytes_bytesToHex, chainKeyAt_add, Nat.add_sub_cancel' hle]
  · rw [hexToBytes_bytesToHex, messageKeyAt_add, Nat.add_zero, Transcript.key]
  · exact hreached.read hpos hlen now
  · exact hreachedCovered.read hpositions hf.key rfl _ now

/-- **Finishing a chain**: what is left of the current chain is skipped. -/
theorem Represents.finishChain {own remote : ℕ} {s : LocalSessionState} {flights : List Flight}
    (h : Represents c t q own remote s) (hcovered : Covered t remote s flights)
    (hzero : t.len 0 = 0)
    (hgap : t.len remote - s.nextReceiveMessageNumber ≤ MAX_SKIPPED_MESSAGE_KEYS)
    (hroom : s.skippedMessageKeys.length + (t.len remote - s.nextReceiveMessageNumber)
      ≤ MAX_SKIPPED_MESSAGE_KEYS) :
    ∃ skipped, skipMessageKeys c s (t.len remote) = .ok skipped ∧
      Represents c t q own remote skipped ∧ Covered t remote skipped flights ∧
      skipped.nextReceiveMessageNumber = t.len remote ∧
      skipped.skippedMessageKeys.length
        = s.skippedMessageKeys.length + (t.len remote - s.nextReceiveMessageNumber) := by
  have hle := h.received_le
  by_cases hremote : remote = 0
  · -- the initiator before its first message from the responder: nothing to skip
    subst hremote
    have hchain : s.receivingChainKey = none := h.receiving
    have hnext : t.len 0 = s.nextReceiveMessageNumber := by omega
    refine ⟨s, skipMessageKeys_eq_ok.mpr (Or.inr (Or.inl ⟨hchain, hnext, rfl⟩)), h, hcovered,
      hnext.symm, ?_⟩
    omega
  · have hpos : 1 ≤ remote := by omega
    have hchain : s.receivingChainKey = some (bytesToHex
        (chainKeyAt c (t.keys c remote).chainKey s.nextReceiveMessageNumber)) := by
      rw [h.receiving, if_neg hremote]
    refine ⟨_, skipMessageKeys_eq_ok.mpr (Or.inr (Or.inr ⟨_, hchain, hle, hgap, rfl⟩)),
      h.skippedTo hpos hle (Nat.le_refl _), Covered.skippedTo h hcovered hroom _, rfl, ?_⟩
    rw [skippedTo_skippedMessageKeys hroom, List.length_append, skippedRange_length]

/-! ### A delivery -/

/-- A message whose key is not in the store belongs to the current chain, at a number not yet
passed, or to the chain that comes next. -/
theorem Invariant.ahead (h : Invariant c d t own remote) (hf : f ∈ d.inFlight p) (hj : j ≤ own p)
    (hsealed : SealedOn c t p j f)
    (hfind : (d.session p.other).skippedMessageKeys.find?
      (isSkippedEntry (bytesToHex f.message.ratchetPublicKey) f.message.messageNumber) = none) :
    (j = remote p.other ∧
      (d.session p.other).nextReceiveMessageNumber ≤ f.message.messageNumber) ∨
    (j = own p.other + 1 ∧ own p.other = remote p.other + 1) := by
  have hrep := h.represents p.other
  have hpos := hsealed.pos
  have hparity := hsealed.parity
  have hflip := p.parity_other
  have hownParity := hrep.own_parity
  have hremote := h.remote_le p
  have hgap := h.own_le_succ p
  have hnot : ¬Passed t (remote p.other) (d.session p.other).nextReceiveMessageNumber j
      f.message.messageNumber := by
    intro hpassed
    obtain ⟨entry, hentry, hmatch⟩ := h.covered p f hf j hsealed.key hpassed
    exact List.find?_eq_none.mp hfind entry hentry (isSkippedEntry_iff.mpr hmatch)
  have hsame : j % 2 = remote p.other % 2 := by
    rcases hrep.adjacent with hadjacent | hadjacent <;> omega
  rcases Nat.lt_trichotomy j (remote p.other) with hlt | heq | hgt
  · exact absurd ⟨hsame, hpos, Or.inl ⟨hlt, hsealed.number⟩⟩ hnot
  · refine Or.inl ⟨heq, ?_⟩
    by_contra hbefore
    exact hnot ⟨hsame, hpos, Or.inr ⟨heq, by omega⟩⟩
  · refine Or.inr ?_
    rcases hrep.adjacent with hopen | hidle
    · omega
    · have hown := (h.newest_of_idle hidle).2
      rw [Party.other_other] at hown
      omega

/-- **Every message on its way opens.**  Within the window, a delivery returns the plaintext that
was sealed in the message, and leaves the receiver at a position of the transcript. -/
theorem Invariant.decrypt (hc : c.Lawful) (h : Invariant c d t own remote)
    (hflight : d.inFlight p = before ++ f :: after)
    (hwindow : WithinWindow (d.session p.other) f.message) (amb : Ambient) (now : Option ℕ) :
    ∃ result, decryptRatchetMessage c amb
        { session := d.session p.other, message := f.message, now := now } = .ok result ∧
      result.plaintext = f.plaintext ∧
      ∃ remote' ≤ own p, Represents c t p.other (own p.other) remote' result.session ∧
        Covered t remote' result.session (before ++ after) := by
  have hmem : f ∈ d.inFlight p := by
    rw [hflight]
    exact List.mem_append_right _ (List.mem_cons_self ..)
  have hrep := h.represents p.other
  have hcovered := h.covered p
  have hpositions := h.positions p
  rw [hflight] at hcovered hpositions
  obtain ⟨j, hj, hsealed⟩ := h.sealedOn p f hmem
  have hle := le_newest own p
  have hleOther := le_newest own p.other
  have hremote := h.remote_le p
  cases hfind : (d.session p.other).skippedMessageKeys.find?
      (isSkippedEntry (bytesToHex f.message.ratchetPublicKey) f.message.messageNumber) with
  | some entry =>
    -- the key waits in the store, and the store holds only keys of the transcript
    obtain ⟨hentryKey, hentryNumber⟩ := isSkippedEntry_iff.mp (List.find?_some hfind)
    obtain ⟨i, n, hpassed, rfl⟩ := hrep.stored entry (List.mem_of_find?_eq_some hfind)
    have hi : i ≤ remote p.other := by
      have hcase := hpassed.2.2
      omega
    have hkey : (t.pair i).publicKey = (t.pair j).publicKey :=
      (bytesToHex_inj.mp hentryKey).trans hsealed.key
    have hij : i = j := h.distinctPair i (by omega) j (by omega) hkey
    have hn : n = f.message.messageNumber := hentryNumber
    subst hij hn
    refine ⟨{ plaintext := f.plaintext
              session := takeStored (d.session p.other) (bytesToHex f.message.ratchetPublicKey)
                f.message.messageNumber (now.getD amb.now)
              messageKey := t.key c i f.message.messageNumber
              usedSkippedMessageKey := true },
      decryptRatchetMessage_eq_ok.mpr (Or.inl ⟨_, hfind, hsealed.opens, rfl, rfl, rfl⟩), rfl,
      remote p.other, hremote, hrep.take _ _ _, hcovered.take hpositions _⟩
  | none =>
    obtain hnone | ⟨hgap₁, hgap₂, hroom⟩ := hwindow
    · exact absurd (takeSkippedMessageKey_eq_none.mpr fun entry hentry hmatch =>
        List.find?_eq_none.mp hfind entry hentry (isSkippedEntry_iff.mpr hmatch)) hnone
    rcases h.ahead hmem hj hsealed hfind with ⟨rfl, hnext⟩ | ⟨rfl, hopen⟩
    · -- the chain the receiver stands on
      have hsameKey : bytesToHex f.message.ratchetPublicKey
          = (d.session p.other).remoteRatchetPublicKey := by
        rw [hsealed.key, hrep.remoteKey]
      rw [skipGaps, if_pos hsameKey] at hgap₂ hroom
      obtain ⟨reached, hskip, chainKey, hchain, hkey, hrep', hcovered'⟩ :=
        hrep.readMessage hcovered hsealed hpositions hnext hgap₂ hroom (now.getD amb.now)
      have hswitch := (switchReceivingChain_eq_ok (c := c)).mpr (Or.inl ⟨hsameKey, rfl⟩)
      have hopens := hsealed.opens
      rw [← hkey] at hopens
      refine ⟨{ plaintext := f.plaintext
                session := readPast c reached chainKey f.message.messageNumber (now.getD amb.now)
                messageKey := messageKeyAt c (hexToBytes chainKey) 0
                usedSkippedMessageKey := false },
        decryptRatchetMessage_eq_ok.mpr (Or.inr ⟨hfind, decryptOnReceivingChain_eq_ok.mpr
          ⟨_, hswitch, reached, hskip, chainKey, hchain, hopens, rfl, rfl, rfl⟩⟩), rfl,
        remote p.other, hremote, hrep', hcovered'⟩
    · -- the chain that comes next: the rest of the current one is skipped first
      have hnewKey : bytesToHex f.message.ratchetPublicKey
          ≠ (d.session p.other).remoteRatchetPublicKey := by
        rw [hsealed.key, hrep.remoteKey, Ne, bytesToHex_inj]
        intro heq
        have habsurd := h.distinctPair _ (by omega) _ (by omega) heq
        omega
      have hprevious : f.message.previousChainLength = t.len (remote p.other) := by
        rw [hsealed.previous, show own p.other + 1 - 2 = remote p.other by omega]
      rw [skipGaps, if_neg hnewKey, hprevious] at hgap₁ hgap₂ hroom
      obtain ⟨skipped, hskipped, hrepSkipped, hcoveredSkipped, hdone, hlength⟩ :=
        hrep.finishChain hcovered h.len_zero hgap₁ (by omega)
      have hdh : diffieHellmanX25519 c (hexToBytes skipped.currentRatchetKey.privateKey)
          f.message.ratchetPublicKey
          = .ok (agreement c (t.pair (own p.other + 1)) (t.pair (own p.other))) := by
        rw [hrepSkipped.current, hexToBytes_bytesToHex, hsealed.key,
          diffieHellmanX25519_comm hc (h.validPair _ (by omega)) (h.validPair _ (by omega))]
        exact h.agreed _ (by omega)
      have hready := hrepSkipped.openReceivingChain hopen hdone rfl
      have hcoveredReady := hcoveredSkipped.openReceivingChain (c := c) hopen hdone
        (agreement c (t.pair (own p.other + 1)) (t.pair (own p.other)))
      rw [← hsealed.key] at hready hcoveredReady
      obtain ⟨reached, hskip, chainKey, hchain, hkey, hrep', hcovered'⟩ :=
        hready.readMessage hcoveredReady hsealed hpositions (Nat.zero_le _) hgap₂
          (by simp only [openReceivingChain]; omega) (now.getD amb.now)
      rw [← hprevious] at hskipped
      have hswitch := switchReceivingChain_eq_ok.mpr (Or.inr ⟨hnewKey, skipped, hskipped,
        advanceReceivingRatchet_eq_ok.mpr ⟨_, hdh, rfl⟩⟩)
      have hopens := hsealed.opens
      rw [← hkey] at hopens
      refine ⟨{ plaintext := f.plaintext
                session := readPast c reached chainKey f.message.messageNumber (now.getD amb.now)
                messageKey := messageKeyAt c (hexToBytes chainKey) 0
                usedSkippedMessageKey := false },
        decryptRatchetMessage_eq_ok.mpr (Or.inr ⟨hfind, decryptOnReceivingChain_eq_ok.mpr
          ⟨_, hswitch, reached, hskip, chainKey, hchain, hopens, rfl, rfl, rfl⟩⟩), rfl,
        own p.other + 1, hj, hrep', hcovered'⟩

/-- **A receipt**: the session of the other end is replaced by one that covers the rest. -/
theorem Invariant.receive (h : Invariant c d t own remote) {rest : List Flight}
    (hsub : rest.Sublist (d.inFlight p)) {reached : ℕ} (hreached : reached ≤ own p)
    {received : LocalSessionState}
    (hrep : Represents c t p.other (own p.other) reached received)
    (hcovered : Covered t reached received rest) :
    Invariant c
      { session := Function.update d.session p.other received
        inFlight := Function.update d.inFlight p rest
        drawn := d.drawn } t own (Function.update remote p.other reached) := by
  have hne : p ≠ p.other := p.other_ne.symm
  refine ⟨?_, ?_, ?_, ?_, ?_, h.validPair, h.distinctPair, h.drawn, h.agreed, h.len_zero,
    h.len_beyond⟩
  · intro q
    rcases Party.eq_or_eq_other p q with rfl | rfl
    · simp only [Function.update_of_ne hne]
      exact h.represents q
    · simp only [Function.update_self]
      exact hrep
  · intro q
    rcases Party.eq_or_eq_other p q with rfl | rfl
    · rw [Function.update_self]
      exact hreached
    · rw [Party.other_other, Function.update_of_ne hne]
      have hle := h.remote_le p.other
      rw [Party.other_other] at hle
      exact hle
  · intro q g hg
    rcases Party.eq_or_eq_other p q with rfl | rfl
    · simp only [Function.update_self] at hg
      exact h.sealedOn q g (hsub.subset hg)
    · simp only [Function.update_of_ne p.other_ne] at hg
      exact h.sealedOn p.other g hg
  · intro q
    rcases Party.eq_or_eq_other p q with rfl | rfl
    · simp only [Function.update_self]
      exact hcovered
    · simp only [Party.other_other, Function.update_of_ne hne, Function.update_of_ne p.other_ne]
      have hold := h.covered p.other
      rw [Party.other_other] at hold
      exact hold
  · intro q
    rcases Party.eq_or_eq_other p q with rfl | rfl
    · simp only [Function.update_self]
      exact (h.positions q).sublist (hsub.map Flight.position)
    · simp only [Function.update_of_ne p.other_ne]
      exact h.positions p.other

/-- **A delivery within the window keeps the invariant.** -/
theorem Invariant.deliver (hc : c.Lawful) (h : Invariant c d t own remote)
    (hflight : d.inFlight p = before ++ f :: after)
    (hwindow : WithinWindow (d.session p.other) f.message) (amb : Ambient) (now : Option ℕ) :
    ∃ remote', Invariant c
      (d.delivered p (before ++ after) (decryptRatchetMessage c amb
        { session := d.session p.other, message := f.message, now := now })) t own remote' := by
  obtain ⟨result, hresult, _, reached, hreached, hrep, hcovered⟩ :=
    h.decrypt hc hflight hwindow amb now
  have hsub : List.Sublist (before ++ after) (d.inFlight p) := by
    rw [hflight]
    exact (List.Sublist.refl before).append (List.sublist_cons_self f after)
  rw [hresult]
  exact ⟨_, h.receive hsub hreached hrep hcovered⟩

/-! ### An encryption -/

/-- Encrypting on an open chain. -/
theorem Invariant.encryptOpen (hc : c.Lawful) (h : Invariant c d t own remote)
    (hopen : own p = remote p + 1) {chainKey : HexString} {now : ℕ} {drawn : List Bytes}
    (hchain : (d.session p).sendingChainKey = some chainKey)
    (hseal : encryptSessionMessage c (ratchetHeader amb input (d.session p))
      (messageKeyAt c (hexToBytes chainKey) 0) input.plaintext = .ok result.message)
    (hsession : result.session =
      { d.session p with
        sendingChainKey := some (bytesToHex (chainKeyAt c (hexToBytes chainKey) 1))
        nextSendMessageNumber := (d.session p).nextSendMessageNumber + 1
        updatedAt := now }) (hdrawn : d.drawn ⊆ drawn) :
    Invariant c
      { session := Function.update d.session p result.session
        inFlight := Function.update d.inFlight p
          (d.inFlight p ++ [{ message := result.message, plaintext := input.plaintext }])
        drawn := drawn } (t.count (own p)) own remote := by
  have hrep := h.represents p
  obtain ⟨hsending, hprevious⟩ := hrep.sending hopen
  rw [hsending, Option.some.injEq] at hchain
  subst hchain
  rw [hexToBytes_bytesToHex, chainKeyAt_add] at hsession
  rw [hexToBytes_bytesToHex, messageKeyAt_add, Nat.add_zero] at hseal
  have hopens := decryptSessionMessage_encryptSessionMessage hc hseal
  obtain ⟨hheader, _⟩ := encryptSessionMessage_eq_ok.mp hseal
  have hnumber : result.message.messageNumber = t.len (own p) := by
    rw [hheader]
    exact hrep.sendCount
  have hsealed : SealedOn c (t.count (own p)) p (own p)
      { message := result.message, plaintext := input.plaintext } := by
    refine ⟨hrep.own_parity, by omega, ?_, ?_, ?_, ?_⟩
    · simp only [hheader, ratchetHeader, hrep.current, hexToBytes_bytesToHex,
        Transcript.count_pair]
    · rw [t.count_len_ne (show own p - 2 ≠ own p by omega), ← hprevious]
      simp only [hheader, ratchetHeader]
    · rw [Transcript.count_len_self]
      show result.message.messageNumber < t.len (own p) + 1
      omega
    · rw [t.key_count, Transcript.key]
      show decryptSessionMessage c result.message
        (messageKeyAt c (t.keys c (own p)).chainKey result.message.messageNumber) = _
      rw [hnumber]
      exact hopens
  rw [hsession]
  exact h.seal hopen hsealed hnumber now hdrawn

/-- **What an encryption does**: it seals on the open chain, or on one that it opens. -/
theorem Represents.encrypt_cases {own remote : ℕ} {s : LocalSessionState}
    (h : Represents c t p own remote s) (hinput : input.session = s)
    (hencrypt : encryptRatchetMessage c amb input = .ok result) :
    ∃ session chainKey, session.sendingChainKey = some chainKey ∧
      encryptSessionMessage c (ratchetHeader amb input session)
        (messageKeyAt c (hexToBytes chainKey) 0) input.plaintext = .ok result.message ∧
      result.session =
        { session with
          sendingChainKey := some (bytesToHex (chainKeyAt c (hexToBytes chainKey) 1))
          nextSendMessageNumber := session.nextSendMessageNumber + 1
          updatedAt := input.now.getD amb.now } ∧
      (own = remote + 1 ∧ session = s ∨
        remote = own + 1 ∧ s.sendingChainKey = none ∧ ∃ dhOutput,
          diffieHellmanX25519 c (input.ratchetKeyPair.getD amb.keyPair).privateKey
            (hexToBytes s.remoteRatchetPublicKey) = .ok dhOutput ∧
          session = E2E.openSendingChain c s (input.ratchetKeyPair.getD amb.keyPair) dhOutput) := by
  obtain ⟨session, hensure, chainKey, hchain, _, hseal, _, hsession⟩ :=
    encryptRatchetMessage_eq_ok.mp hencrypt
  refine ⟨session, chainKey, hchain, hseal, hsession, ?_⟩
  rw [hinput] at hensure
  rcases ensureSendingChain_eq_ok.mp hensure with ⟨hsome, hkept⟩ | ⟨hnone, dhOutput, hdh, hnew⟩
  · refine Or.inl ⟨?_, hkept⟩
    rcases h.adjacent with hopen | hidle
    · exact hopen
    · rw [h.idle hidle] at hsome
      exact absurd hsome Bool.false_ne_true
  · refine Or.inr ⟨?_, hnone, dhOutput, hdh, hnew⟩
    rcases h.adjacent with hopen | hidle
    · rw [(h.sending hopen).1] at hnone
      exact absurd hnone (Option.some_ne_none _)
    · exact hidle

/-- **An encryption keeps the invariant**, whether it opens a sending chain or continues one. -/
theorem Invariant.encrypt (hc : c.Lawful) (h : Invariant c d t own remote)
    (hinput : input.session = d.session p)
    (hencrypt : encryptRatchetMessage c amb input = .ok result)
    (hfresh : (d.session p).sendingChainKey = none →
      IsKeyPair c (input.ratchetKeyPair.getD amb.keyPair) ∧
        (input.ratchetKeyPair.getD amb.keyPair).publicKey ∉ d.drawn) :
    ∃ t' own', Invariant c (d.encrypted p input.plaintext result) t' own' remote := by
  obtain ⟨session, chainKey, hchain, hseal, hsession, hcase⟩ :=
    (h.represents p).encrypt_cases hinput hencrypt
  rcases hcase with ⟨hopen, rfl⟩ | ⟨hidle, hnone, dhOutput, hdh, hnew⟩
  · -- the chain is open already
    exact ⟨_, _, h.encryptOpen hc hopen hchain hseal hsession (List.subset_cons_self _ _)⟩
  · -- a chain is opened with a new pair
    obtain ⟨hpair, hpublic⟩ := hfresh hnone
    have hopened := h.openChain hidle hpair hpublic hdh
    rw [← hnew] at hopened
    have hdrawn : hexToBytes result.session.currentRatchetKey.publicKey
        = (input.ratchetKeyPair.getD amb.keyPair).publicKey := by
      rw [hsession, hnew, openSendingChain, hexToBytes_bytesToHex]
    have hsealed := hopened.encryptOpen (p := p) hc
      (by rw [Function.update_self]) (by simpa only [Function.update_self] using hchain)
      (by simpa only [Function.update_self] using hseal)
      (by simpa only [Function.update_self] using hsession) (List.Subset.refl _)
    simp only [Function.update_idem] at hsealed
    rw [Duplex.encrypted, hdrawn]
    exact ⟨_, _, hsealed⟩

end

/-! ### Runs -/

variable {c : Primitives} {d d' : Duplex}

/-- **A fresh pair of sessions**: both ends of one X3DH secret, created with the ephemeral key of the
initiator and the signed pre-key of the responder, which are two generated pairs. -/
structure Created (c : Primitives) (initiatorInput responderInput : CreateRatchetSessionInput)
    (initiator responder : LocalSessionState) : Prop where
  initiator_eq : createInitiatorRatchetSession c initiatorInput = .ok initiator
  responder_eq : createResponderRatchetSession c responderInput = .ok responder
  rootKey_eq : initiatorInput.rootKey = responderInput.rootKey
  ephemeral : IsKeyPair c initiatorInput.currentRatchetKey
  signedPreKey : IsKeyPair c responderInput.currentRatchetKey
  initiatorRemote : initiatorInput.remoteRatchetPublicKey
    = responderInput.currentRatchetKey.publicKey
  responderRemote : responderInput.remoteRatchetPublicKey
    = initiatorInput.currentRatchetKey.publicKey
  distinct : responderInput.currentRatchetKey.publicKey
    ≠ initiatorInput.currentRatchetKey.publicKey

/-- A fresh pair of sessions stands at the start of a transcript. -/
theorem invariant_start (hc : c.Lawful) {initiatorInput responderInput : CreateRatchetSessionInput}
    {initiator responder : LocalSessionState}
    (h : Created c initiatorInput responderInput initiator responder) :
    ∃ t own remote, Invariant c (Duplex.start initiator responder) t own remote ∧
      ∀ j, t.len j = 0 := by
  obtain ⟨hinitiator, hresponder, hroot, hephemeral, hsignedPreKey, hinitiatorRemote,
    hresponderRemote, hdistinct⟩ := h
  obtain ⟨dhInitiator, hdhInitiator, rfl⟩ := createInitiatorRatchetSession_eq_ok.mp hinitiator
  obtain ⟨dhResponder, hdhResponder, rfl⟩ := createResponderRatchetSession_eq_ok.mp hresponder
  rw [hinitiatorRemote] at hdhInitiator
  rw [hresponderRemote, diffieHellmanX25519_comm hc hsignedPreKey hephemeral, hdhInitiator,
    Except.ok.injEq] at hdhResponder
  subst hdhResponder
  let t : Transcript :=
    { secret := initiatorInput.rootKey
      pair := fun j =>
        if j = 0 then responderInput.currentRatchetKey else initiatorInput.currentRatchetKey
      len := fun _ => 0 }
  have hagree : agreement c (t.pair 1) (t.pair 0) = dhInitiator := agreement_of_ok hdhInitiator
  have hkeys : t.keys c 1 = deriveRootAndChainKeys c initiatorInput.rootKey dhInitiator := by
    rw [Transcript.keys, hagree]
    rfl
  refine ⟨t, fun p => p.casesOn 1 0, fun p => p.casesOn 0 1, ?_, fun _ => rfl⟩
  have hle : ∀ j, j ≤ 1 → j = 0 ∨ j = 1 := by
    intro j hj
    omega
  refine ⟨?_, ?_, ?_, ?_, ?_, ?_, ?_, ?_, ?_, rfl, fun _ _ => rfl⟩
  · intro p
    cases p with
    | initiator =>
      refine ⟨rfl, Or.inl rfl, rfl, ?_, ?_, rfl, ?_, ?_, Nat.le_refl _, rfl, ?_⟩
      · exact congrArg bytesToHex hinitiatorRemote
      · exact congrArg (fun keys : RootAndChainKeys => bytesToHex keys.rootKey) hkeys.symm
      · intro _
        exact ⟨congrArg (fun keys : RootAndChainKeys => some (bytesToHex keys.chainKey))
          hkeys.symm, rfl⟩
      · intro habsurd
        exact absurd (show 0 = 1 + 1 from habsurd) (by decide)
      · intro entry hentry
        exact absurd hentry List.not_mem_nil
    | responder =>
      refine ⟨rfl, Or.inr rfl, rfl, ?_, ?_, rfl, ?_, fun _ => rfl, Nat.le_refl _, ?_, ?_⟩
      · exact congrArg bytesToHex hresponderRemote
      · rw [hroot] at hkeys
        exact congrArg (fun keys : RootAndChainKeys => bytesToHex keys.rootKey) hkeys.symm
      · intro habsurd
        exact absurd (show 0 = 1 + 1 from habsurd) (by decide)
      · rw [hroot] at hkeys
        exact congrArg (fun keys : RootAndChainKeys => some (bytesToHex keys.chainKey)) hkeys.symm
      · intro entry hentry
        exact absurd hentry List.not_mem_nil
  · intro p
    cases p <;> decide
  · intro p f hf
    exact absurd hf List.not_mem_nil
  · intro p f hf
    exact absurd hf List.not_mem_nil
  · intro p
    exact List.nodup_nil
  · intro j hj
    rcases hle j hj with rfl | rfl
    · exact hsignedPreKey
    · exact hephemeral
  · intro i hi j hj heq
    rcases hle i hi with rfl | rfl <;> rcases hle j hj with rfl | rfl
    · rfl
    · exact absurd heq hdistinct
    · exact absurd heq.symm hdistinct
    · rfl
  · intro j hj
    rcases hle j hj with rfl | rfl
    · exact List.mem_cons_self ..
    · exact List.mem_cons_of_mem _ (List.mem_cons_self ..)
  · intro j hj
    obtain rfl : j = 0 := Nat.lt_one_iff.mp hj
    rw [hagree]
    exact hdhInitiator

/-- **One step keeps the invariant.** -/
theorem Invariant.step (hc : c.Lawful) {event : RatchetEvent} (hstep : DuplexStep c d event d')
    (h : ∃ t own remote, Invariant c d t own remote) :
    ∃ t own remote, Invariant c d' t own remote := by
  obtain ⟨t, own, remote, h⟩ := h
  cases hstep with
  | encrypt hinput hencrypt hfresh =>
    obtain ⟨t', own', h'⟩ := h.encrypt hc hinput hencrypt hfresh
    exact ⟨t', own', remote, h'⟩
  | deliver hflight hwindow =>
    obtain ⟨remote', h'⟩ := h.deliver hc hflight hwindow _ _
    exact ⟨t, own, remote', h'⟩
  | refuse _ => exact ⟨t, own, remote, h⟩

/-- **A run keeps the invariant.** -/
theorem invariant_of_run (hc : c.Lawful) {events : List RatchetEvent}
    (h : ∃ t own remote, Invariant c d t own remote) (hrun : Trace (DuplexStep c) d events d') :
    ∃ t own remote, Invariant c d' t own remote :=
  hrun.invariant (fun _ d => ∃ t own remote, Invariant c d t own remote) h
    fun _ hinv hstep => Invariant.step hc hstep hinv

/-- **Two ends of one handshake**: the responder has consumed the message that the initiator built
from a bundle of the responder's device, both have derived one X3DH secret, and the ephemeral key
and the signed pre-key are two generated pairs. -/
structure Established (c : Primitives) (initiatorAmbient responderAmbient : Ambient)
    (build : BuildInitiatorPreKeyMessageInput) (built : BuildInitiatorPreKeyMessageResult)
    (consume : ConsumeResponderPreKeyMessageInput)
    (consumed : ConsumeResponderPreKeyMessageResult) (device : LocalDeviceState) : Prop where
  built_eq : buildInitiatorPreKeyMessage c initiatorAmbient build = .ok built
  consumed_eq : consumeResponderPreKeyMessage c responderAmbient consume = .ok consumed
  message_eq : consume.message = built.message
  sharedSecret_eq : built.sharedSecret = consumed.sharedSecret
  device_eq : consume.e2eConfig.devices.get? consume.message.receiverDeviceId = some device
  bundle_eq : build.claimedBundle.signedPreKeyPublic = device.signedPreKey.publicKey
  ephemeral : IsKeyPair c (build.ephemeralKeyPair.getD initiatorAmbient.keyPair)
  signedPreKey : IsKeyPair c
    { publicKey := hexToBytes device.signedPreKey.publicKey
      privateKey := hexToBytes device.signedPreKey.privateKey }
  distinct : hexToBytes device.signedPreKey.publicKey
    ≠ (build.ephemeralKeyPair.getD initiatorAmbient.keyPair).publicKey

/-- The sessions of a handshake are a fresh pair. -/
theorem Established.created {initiatorAmbient responderAmbient : Ambient}
    {build : BuildInitiatorPreKeyMessageInput} {built : BuildInitiatorPreKeyMessageResult}
    {consume : ConsumeResponderPreKeyMessageInput} {consumed : ConsumeResponderPreKeyMessageResult}
    {device : LocalDeviceState}
    (h : Established c initiatorAmbient responderAmbient build built consume consumed device) :
    ∃ initiatorInput responderInput,
      Created c initiatorInput responderInput built.session consumed.session := by
  obtain ⟨_, _, _, _, hseal, hinitiator, _⟩ := buildInitiatorPreKeyMessage_eq_ok.mp h.built_eq
  obtain ⟨_, device', hdevice, _, _, _, _, _, hresponder, _⟩ :=
    consumeResponderPreKeyMessage_eq_ok.mp h.consumed_eq
  obtain rfl : device' = device := by
    rw [h.device_eq, Option.some.injEq] at hdevice
    exact hdevice.symm
  obtain ⟨hheader, _⟩ := encryptPreKeyMessage_eq_ok.mp hseal
  refine ⟨_, _, hinitiator, hresponder, h.sharedSecret_eq, h.ephemeral, h.signedPreKey, ?_, ?_,
    h.distinct⟩
  · exact congrArg hexToBytes h.bundle_eq
  · show consume.message.initiatorEphemeralKey = _
    rw [h.message_eq, hheader]
    rfl

/-- **Double Ratchet correctness over any run.**  From the sessions of one handshake, whatever the
two ends encrypt and in whatever order their messages arrive within the window, the first delivery
of a message returns exactly the plaintext that was encrypted. -/
theorem decryptRatchetMessage_of_run {c : Primitives} (hc : c.Lawful)
    {initiatorAmbient responderAmbient : Ambient} {build : BuildInitiatorPreKeyMessageInput}
    {built : BuildInitiatorPreKeyMessageResult} {consume : ConsumeResponderPreKeyMessageInput}
    {consumed : ConsumeResponderPreKeyMessageResult} {device : LocalDeviceState}
    (hestablished : Established c initiatorAmbient responderAmbient build built consume consumed
      device)
    {events : List RatchetEvent} {d : Duplex}
    (hrun : Trace (DuplexStep c) (Duplex.start built.session consumed.session) events d)
    {sender : Party} {f : Flight} (hflight : f ∈ d.inFlight sender)
    (hwindow : WithinWindow (d.session sender.other) f.message) (amb : Ambient)
    (now : Option ℕ) :
    ∃ result, decryptRatchetMessage c amb
        { session := d.session sender.other, message := f.message, now := now } = .ok result ∧
      result.plaintext = f.plaintext := by
  obtain ⟨_, _, hcreated⟩ := hestablished.created
  obtain ⟨t, own, remote, hstart, _⟩ := invariant_start hc hcreated
  obtain ⟨t, own, remote, hinv⟩ := invariant_of_run hc ⟨t, own, remote, hstart⟩ hrun
  obtain ⟨before, after, hsplit⟩ := List.append_of_mem hflight
  obtain ⟨result, hresult, hplaintext, _⟩ := hinv.decrypt hc hsplit hwindow amb now
  exact ⟨result, hresult, hplaintext⟩

/-! ### A run in which the second message overtakes the first -/

def sampleEncrypt (d : Duplex) (p : Party) (plaintext : Bytes) : RatchetEncryptInput where
  session := d.session p
  plaintext := plaintext
  senderDid := "did:a"
  receiverDid := "did:b"

theorem sampleEncrypt_session (d : Duplex) (p : Party) (plaintext : Bytes) :
    (sampleEncrypt d p plaintext).session = d.session p := rfl

def duplexFresh : Duplex := Duplex.start aliceBuilt.session bobConsumed.session

def firstSealed : RatchetEncryptResult :=
  valueOf (encryptRatchetMessage sample (sampleAmbient 92 3000)
    (sampleEncrypt duplexFresh .initiator [7])) (by decide +kernel)

def firstFlight : Flight := { message := firstSealed.message, plaintext := [7] }

def duplexOne : Duplex := duplexFresh.encrypted .initiator [7] firstSealed

def secondSealed : RatchetEncryptResult :=
  valueOf (encryptRatchetMessage sample (sampleAmbient 93 3001)
    (sampleEncrypt duplexOne .initiator [8])) (by decide +kernel)

def secondFlight : Flight := { message := secondSealed.message, plaintext := [8] }

def duplexTwo : Duplex := duplexOne.encrypted .initiator [8] secondSealed

/-- Bob has received the second message; the first is still on its way. -/
def duplexOvertaken : Duplex :=
  duplexTwo.delivered .initiator ([firstFlight] ++ [])
    (decryptRatchetMessage sample (sampleAmbient 94 3002)
      { session := duplexTwo.session Party.initiator.other, message := secondFlight.message })

theorem sampleEstablished : Established sample (sampleAmbient 90 2000) (sampleAmbient 91 2001)
    aliceBuild aliceBuilt bobConsume bobConsumed bobDevice where
  built_eq := aliceBuilt_eq
  consumed_eq := bobConsumed_eq
  message_eq := by rw [bobConsume]
  sharedSecret_eq := by decide +kernel
  device_eq := by decide +kernel
  bundle_eq := by decide +kernel
  ephemeral := samplePair_isKeyPair 90
  signedPreKey := ⟨by decide +kernel, by decide +kernel, by decide +kernel⟩
  distinct := by decide +kernel

theorem firstSealed_step : DuplexStep sample duplexFresh (.encrypt .initiator [7]) duplexOne :=
  @DuplexStep.encrypt sample duplexFresh .initiator (sampleAmbient 92 3000)
    (sampleEncrypt duplexFresh .initiator [7]) firstSealed (sampleEncrypt_session _ _ _)
    (eq_ok_valueOf _ _) (fun habsurd => absurd habsurd (by decide +kernel))

theorem secondSealed_step : DuplexStep sample duplexOne (.encrypt .initiator [8]) duplexTwo :=
  @DuplexStep.encrypt sample duplexOne .initiator (sampleAmbient 93 3001)
    (sampleEncrypt duplexOne .initiator [8]) secondSealed (sampleEncrypt_session _ _ _)
    (eq_ok_valueOf _ _) (fun habsurd => absurd habsurd (by decide +kernel))

theorem sampleOvertaking : Trace (DuplexStep sample) duplexFresh
    [.encrypt .initiator [7], .encrypt .initiator [8],
      .deliver Party.initiator.other secondFlight] duplexOvertaken := by
  have hinFlight : duplexTwo.inFlight .initiator = [firstFlight] ++ secondFlight :: [] := by
    decide +kernel
  exact ((Trace.nil.snoc firstSealed_step).snoc secondSealed_step).snoc
    (.deliver hinFlight (by decide +kernel))

/-- The overtaken message still opens. -/
theorem decryptRatchetMessage_of_overtaken :
    ∃ result, decryptRatchetMessage sample (sampleAmbient 95 3003)
        { session := duplexOvertaken.session Party.initiator.other, message := firstFlight.message }
          = .ok result ∧ result.plaintext = firstFlight.plaintext := by
  have hflight : firstFlight ∈ duplexOvertaken.inFlight .initiator := by decide +kernel
  have hwindow : WithinWindow (duplexOvertaken.session Party.initiator.other)
      firstFlight.message := by decide +kernel
  exact decryptRatchetMessage_of_run sample_lawful sampleEstablished sampleOvertaking hflight
    hwindow (sampleAmbient 95 3003) none

end QuadraA.E2E
