import QuadraA.E2E.DoubleRatchetRun

/-!
# The store of skipped message keys

Two honest ends whose messages arrive in any order, late, and any number of times.  A store that is
full drops its oldest keys, so a message may come whose key is neither in the store nor derived
again.

* `StoreKept` — the invariant: the sessions are positions of one transcript, and the key of every
  place that an end has passed has been derived by it;
* `skippedMessageKeys_bounded` — so the stores of both ends are bounded in every run, with keys only
  of places that are passed.
-/

namespace QuadraA.E2E

open QuadraA.Lib Relation

/-! ### The network -/

/-- The message keys that `count` steps of the receiving chain derive. -/
def stepKeys (c : Primitives) (session : LocalSessionState) (count : ℕ) : List Bytes :=
  match session.receivingChainKey with
  | none => []
  | some chainKey => (List.range count).map (messageKeyAt c (hexToBytes chainKey))

/-- What is derived for the rest of the chain that a message of a new ratchet key ends. -/
def endedKeys (c : Primitives) (session : LocalSessionState) (message : SessionMessage) :
    List Bytes :=
  if bytesToHex message.ratchetPublicKey = session.remoteRatchetPublicKey then []
  else stepKeys c session (message.previousChainLength - session.nextReceiveMessageNumber)

/-- **The message keys that `decryptOnReceivingChain` derives**, its own the last one. -/
def derivedKeys (c : Primitives) (session : LocalSessionState) (message : SessionMessage) :
    List Bytes :=
  endedKeys c session message ++
    match switchReceivingChain c session message with
    | .ok ready => stepKeys c ready (message.messageNumber - ready.nextReceiveMessageNumber + 1)
    | .error _ => []

/-- Two ends, with every message that was sent still on its way, and the message keys that each has
derived to accept a message. -/
structure RatchetNetwork where
  duplex : Duplex
  derived : Party → List Bytes

def RatchetNetwork.start (initiator responder : LocalSessionState) : RatchetNetwork :=
  ⟨.start initiator responder, fun _ => []⟩

/-- After the other end of `p` has accepted a message; a copy of it may come again. -/
def RatchetNetwork.accepted (c : Primitives) (d : RatchetNetwork) (p : Party)
    (message : SessionMessage) (result : RatchetDecryptResult) : RatchetNetwork where
  duplex := { d.duplex with session := Function.update d.duplex.session p.other result.session }
  derived := Function.update d.derived p.other (d.derived p.other ++
    if result.usedSkippedMessageKey then []
    else derivedKeys c (d.duplex.session p.other) message)

/-- **The steps of a run**, in which only calls that succeed change anything. -/
inductive NetworkStep (c : Primitives) (d : RatchetNetwork) : RatchetNetwork → Prop
  | encrypt {p : Party} {plaintext : Bytes} {duplex : Duplex} :
      DuplexStep c d.duplex (.encrypt p plaintext) duplex →
      NetworkStep c d { d with duplex := duplex }
  | accept {p : Party} {f : Flight} {amb : Ambient} {now : Option ℕ}
      {result : RatchetDecryptResult} :
      f ∈ d.duplex.inFlight p →
      decryptRatchetMessage c amb
        { session := d.duplex.session p.other, message := f.message, now := now } = .ok result →
      NetworkStep c d (d.accepted c p f.message result)

/-! ### The store -/

/-- What a stored key is for. -/
def SkippedMessageKeyState.place (entry : SkippedMessageKeyState) : HexString × ℕ :=
  (entry.ratchetPublicKey, entry.messageNumber)

/-- **A bounded store** of keys for different places. -/
structure BoundedStore (store : List SkippedMessageKeyState) : Prop where
  length_le : store.length ≤ MAX_SKIPPED_MESSAGE_KEYS
  nodup : (store.map SkippedMessageKeyState.place).Nodup

section

variable {c : Primitives} {t : Transcript} {p q : Party} {s ready reached : LocalSessionState}
  {message : SessionMessage} {j n : ℕ} {chainKey : HexString}

theorem BoundedStore.sublist {store store' : List SkippedMessageKeyState}
    (h : BoundedStore store) (hsub : store'.Sublist store) : BoundedStore store' :=
  ⟨hsub.length_le.trans h.length_le, h.nodup.sublist (hsub.map _)⟩

/-- **Skipping ahead** stores keys of new places, whatever the bound drops. -/
theorem BoundedStore.skippedTo {own remote : ℕ} (h : BoundedStore s.skippedMessageKeys)
    (hrep : Represents c t p own remote s)
    (hdistinct : ∀ j ≤ remote, (t.pair j).publicKey = (t.pair remote).publicKey → j = remote)
    (chainKey : Bytes) (n : ℕ) :
    BoundedStore (E2E.skippedTo c s chainKey n).skippedMessageKeys := by
  refine ⟨pushSkipped_length_le h.length_le _, List.Nodup.sublist
    ((pushSkipped_sublist _ _).map _) ?_⟩
  rw [List.map_append]
  refine h.nodup.append ?_ ?_
  · -- the numbers of the new keys go up
    rw [skippedRange, List.map_map]
    refine List.Nodup.map (fun i i' heq => ?_) List.nodup_range
    have hnumber : s.nextReceiveMessageNumber + i = s.nextReceiveMessageNumber + i' :=
      congrArg Prod.snd heq
    omega
  · intro place hold hnew
    obtain ⟨entry, hentry, rfl⟩ := List.mem_map.mp hold
    obtain ⟨_, hentry', hplace⟩ := List.mem_map.mp hnew
    obtain ⟨j, m, ⟨_, _, hcase⟩, rfl⟩ := hrep.stored entry hentry
    obtain ⟨i, _, rfl⟩ := mem_skippedRange.mp hentry'
    obtain ⟨hkey, hnumber⟩ := Prod.mk.inj hplace
    rw [skippedEntry, hrep.remoteKey] at hkey
    have hj := hdistinct j (by omega) (bytesToHex_inj.mp hkey).symm
    have hnumber' : s.nextReceiveMessageNumber + i = m := hnumber
    omega

/-! ### Chains -/

/-- The steps of the receiving chain derive the keys of the transcript. -/
theorem mem_stepKeys {own m count : ℕ} (h : Represents c t p own j s) (hpos : 1 ≤ j)
    (hle : s.nextReceiveMessageNumber ≤ m) (hlt : m < s.nextReceiveMessageNumber + count) :
    t.key c j m ∈ stepKeys c s count := by
  rw [stepKeys, h.receiving, if_neg (show j ≠ 0 by omega)]
  refine List.mem_map.mpr ⟨m - s.nextReceiveMessageNumber, List.mem_range.mpr (by omega), ?_⟩
  rw [hexToBytes_bytesToHex, messageKeyAt_add, Nat.add_sub_cancel' hle, Transcript.key]

/-- The key that a message is read with is the last one derived. -/
theorem mem_stepKeys_of_skip (hskip : skipMessageKeys c ready n = .ok reached)
    (hchain : reached.receivingChainKey = some chainKey) :
    messageKeyAt c (hexToBytes chainKey) 0
      ∈ stepKeys c ready (n - ready.nextReceiveMessageNumber + 1) := by
  rcases skipMessageKeys_eq_ok.mp hskip with ⟨_, rfl⟩ | ⟨hnone, _, rfl⟩ | ⟨start, hstart, _, _, rfl⟩
  · rw [stepKeys, hchain]
    exact List.mem_map.mpr ⟨0, List.mem_range.mpr (Nat.succ_pos _), rfl⟩
  · rw [hnone] at hchain
    cases hchain
  · obtain rfl := Option.some.inj hchain
    rw [stepKeys, hstart, hexToBytes_bytesToHex, messageKeyAt_add]
    exact List.mem_map.mpr ⟨_, List.mem_range.mpr (Nat.lt_succ_self _), rfl⟩

/-- **Skipping to a number that lies ahead**, with room in the store or without. -/
theorem Represents.skip {own : ℕ} (h : Represents c t p own j s)
    (hskip : skipMessageKeys c s n = .ok reached) (hle : s.nextReceiveMessageNumber ≤ n)
    (hlen : n ≤ t.len j) :
    Represents c t p own j reached ∧ reached.nextReceiveMessageNumber = n := by
  rcases skipMessageKeys_eq_ok.mp hskip with ⟨hlt, _⟩ | ⟨_, rfl, rfl⟩ | ⟨start, hstart, _, _, rfl⟩
  · omega
  · exact ⟨h, rfl⟩
  · have hreceiving := h.receiving
    rw [hstart] at hreceiving
    split at hreceiving
    · cases hreceiving
    · rename_i hpos
      rw [Option.some.inj hreceiving, hexToBytes_bytesToHex]
      exact ⟨h.skippedTo (by omega) hle hlen, rfl⟩

theorem BoundedStore.skip {own remote : ℕ} (h : BoundedStore s.skippedMessageKeys)
    (hrep : Represents c t p own remote s)
    (hdistinct : ∀ j ≤ remote, (t.pair j).publicKey = (t.pair remote).publicKey → j = remote)
    (hskip : skipMessageKeys c s n = .ok reached) : BoundedStore reached.skippedMessageKeys := by
  rcases skipMessageKeys_eq_ok.mp hskip with ⟨_, rfl⟩ | ⟨_, _, rfl⟩ | ⟨_, _, _, _, rfl⟩
  · exact h
  · exact h
  · exact h.skippedTo hrep hdistinct _ n

/-- **Reading message `n`** of the chain that a session stands on. -/
theorem Represents.readNumber {own : ℕ} (h : Represents c t p own j ready) (hpos : 1 ≤ j)
    (hskip : skipMessageKeys c ready n = .ok reached)
    (hchain : reached.receivingChainKey = some chainKey)
    (hle : ready.nextReceiveMessageNumber ≤ n) (hlt : n < t.len j) (now : ℕ) :
    Represents c t p own j (readPast c reached chainKey n now) := by
  obtain ⟨hreached, rfl⟩ := h.skip hskip hle (Nat.le_of_lt hlt)
  have hreceiving := hreached.receiving
  rw [hchain, if_neg (show j ≠ 0 by omega)] at hreceiving
  rw [Option.some.inj hreceiving]
  exact hreached.read hpos hlt now

/-! ### The invariant -/

variable {d : RatchetNetwork} {own remote : Party → ℕ} {f : Flight} {amb : Ambient}
  {input : RatchetEncryptInput} {result : RatchetEncryptResult}

/-- What an invariant says of the two sessions. -/
theorem Invariant.quieten {d : Duplex} (h : Invariant c d t own remote) :
    Invariant c { d with inFlight := fun _ => [] } t own remote :=
  { h with
    sealedOn := fun _ _ hf => absurd hf List.not_mem_nil
    covered := fun _ _ hf => absurd hf List.not_mem_nil
    positions := fun _ => List.nodup_nil }

/-- **The invariant**: the sessions are positions of a transcript, every message ever sent was
sealed at a place of it, the keys of passed places were derived, and the stores are bounded. -/
structure StoreKept (c : Primitives) (d : RatchetNetwork) (t : Transcript)
    (own remote : Party → ℕ) : Prop where
  quiet : Invariant c { d.duplex with inFlight := fun _ => [] } t own remote
  sealedOn : ∀ p, ∀ f ∈ d.duplex.inFlight p, ∃ j ≤ own p, SealedOn c t p j f
  derived : ∀ p j n, Passed t (remote p) (d.duplex.session p).nextReceiveMessageNumber j n →
    t.key c j n ∈ d.derived p
  store : ∀ p, BoundedStore (d.duplex.session p).skippedMessageKeys

/-- Counting a message changes nothing behind a receiver that has not turned beyond it. -/
theorem Passed.of_count {i remote received : ℕ} (h : Passed (t.count i) remote received j n)
    (hne : j < remote → j ≠ i) : Passed t remote received j n := by
  obtain ⟨hparity, hpos, hcase⟩ := h
  refine ⟨hparity, hpos, ?_⟩
  rcases hcase with ⟨hlt, hn⟩ | hcase
  · rw [t.count_len_ne (hne hlt)] at hn
    exact Or.inl ⟨hlt, hn⟩
  · exact Or.inr hcase

/-- Encrypting on an open chain. -/
theorem StoreKept.encryptOpen (hc : c.Lawful) (h : StoreKept c d t own remote)
    (hopen : own p = remote p + 1) {now : ℕ} {drawn : List Bytes}
    (hchain : (d.duplex.session p).sendingChainKey = some chainKey)
    (hseal : encryptSessionMessage c (ratchetHeader amb input (d.duplex.session p))
      (messageKeyAt c (hexToBytes chainKey) 0) input.plaintext = .ok result.message)
    (hsession : result.session =
      { d.duplex.session p with
        sendingChainKey := some (bytesToHex (chainKeyAt c (hexToBytes chainKey) 1))
        nextSendMessageNumber := (d.duplex.session p).nextSendMessageNumber + 1
        updatedAt := now }) (hdrawn : d.duplex.drawn ⊆ drawn) :
    StoreKept c
      { d with
        duplex :=
          { session := Function.update d.duplex.session p result.session
            inFlight := Function.update d.duplex.inFlight p
              (d.duplex.inFlight p ++ [{ message := result.message, plaintext := input.plaintext }])
            drawn := drawn } } (t.count (own p)) own remote := by
  have hquiet := h.quiet.encryptOpen hc hopen hchain hseal hsession hdrawn
  have hnear (q : Party) : own q ≤ own p + 1 := by
    rcases Party.eq_or_eq_other p q with rfl | rfl
    · exact Nat.le_succ _
    · have hother := h.quiet.own_le_succ p.other
      rwa [Party.other_other] at hother
  have hold {q : Party} {f : Flight} (hf : f ∈ d.duplex.inFlight q) :
      ∃ j ≤ own q, SealedOn c (t.count (own p)) q j f := by
    obtain ⟨j, hj, hsealed⟩ := h.sealedOn q f hf
    have hq := hnear q
    exact ⟨j, hj, hsealed.count (by have hpos := hsealed.pos; omega)⟩
  refine ⟨hquiet.quieten, fun q f hf => ?_, fun q j n hpassed => ?_, fun q => ?_⟩
  · rcases Party.eq_or_eq_other p q with rfl | rfl
    · simp only [Function.update_self, List.mem_append] at hf
      rcases hf with hf | hf
      · exact hold hf
      · refine hquiet.sealedOn q f ?_
        simpa only [Function.update_self, List.nil_append] using hf
    · simp only [Function.update_of_ne p.other_ne] at hf
      exact hold hf
  · rw [t.key_count]
    have hremote := h.quiet.remote_le p
    refine h.derived q j n (Passed.of_count (i := own p) ?_ fun hlt => ?_)
    · rcases Party.eq_or_eq_other p q with rfl | rfl
      · simp only [Function.update_self, hsession] at hpassed
        exact hpassed
      · simp only [Function.update_of_ne p.other_ne] at hpassed
        exact hpassed
    · have hparity := hpassed.1
      rcases Party.eq_or_eq_other p q with rfl | rfl <;> omega
  · rcases Party.eq_or_eq_other p q with rfl | rfl
    · simp only [Function.update_self, hsession]
      exact h.store q
    · simp only [Function.update_of_ne p.other_ne]
      exact h.store p.other

/-- Opening a sending chain. -/
theorem StoreKept.openChain (h : StoreKept c d t own remote) (hidle : remote p = own p + 1)
    {pair : X25519KeyPair} {dhOutput : Bytes} (hpair : IsKeyPair c pair)
    (hfresh : pair.publicKey ∉ d.duplex.drawn)
    (hdh : diffieHellmanX25519 c pair.privateKey
      (hexToBytes (d.duplex.session p).remoteRatchetPublicKey) = .ok dhOutput) :
    StoreKept c
      { d with
        duplex :=
          { session := Function.update d.duplex.session p
              (openSendingChain c (d.duplex.session p) pair dhOutput)
            inFlight := d.duplex.inFlight
            drawn := pair.publicKey :: d.duplex.drawn } }
      (t.extend (remote p + 1) pair) (Function.update own p (remote p + 1)) remote := by
  obtain ⟨hnewest, _⟩ := h.quiet.newest_of_idle hidle
  refine ⟨h.quiet.openChain hidle hpair hfresh hdh, fun q f hf => ?_, fun q j n hpassed => ?_,
    fun q => ?_⟩
  · obtain ⟨j, hj, hsealed⟩ := h.sealedOn q f hf
    have hle := le_newest own q
    refine ⟨j, ?_, hsealed.extend pair (by omega)⟩
    rcases Party.eq_or_eq_other p q with rfl | rfl
    · rw [Function.update_self]
      omega
    · rwa [Function.update_of_ne p.other_ne]
  · have hle := h.quiet.remote_le q.other
    have hnew := le_newest own q.other
    rw [Party.other_other] at hle
    have hj : j < remote p + 1 := by
      have hcase := hpassed.2.2
      omega
    rw [t.key_extend c pair n hj]
    refine h.derived q j n ?_
    rcases Party.eq_or_eq_other p q with rfl | rfl
    · simp only [Function.update_self] at hpassed
      exact hpassed
    · simp only [Function.update_of_ne p.other_ne] at hpassed
      exact hpassed
  · rcases Party.eq_or_eq_other p q with rfl | rfl
    · simp only [Function.update_self]
      exact h.store q
    · simp only [Function.update_of_ne p.other_ne]
      exact h.store p.other

/-- **An encryption keeps the invariant**, whether it opens a sending chain or continues one. -/
theorem StoreKept.encrypt (hc : c.Lawful) (h : StoreKept c d t own remote)
    (hinput : input.session = d.duplex.session p)
    (hencrypt : encryptRatchetMessage c amb input = .ok result)
    (hfresh : (d.duplex.session p).sendingChainKey = none →
      IsKeyPair c (input.ratchetKeyPair.getD amb.keyPair) ∧
        (input.ratchetKeyPair.getD amb.keyPair).publicKey ∉ d.duplex.drawn) :
    ∃ t' own', StoreKept c { d with duplex := d.duplex.encrypted p input.plaintext result } t' own'
      remote := by
  have hrep : Represents c t p (own p) (remote p) (d.duplex.session p) := h.quiet.represents p
  obtain ⟨session, chainKey, hchain, hseal, hsession, hcase⟩ := hrep.encrypt_cases hinput hencrypt
  rcases hcase with ⟨hopen, rfl⟩ | ⟨hidle, hnone, dhOutput, hdh, rfl⟩
  · exact ⟨_, _, h.encryptOpen hc hopen hchain hseal hsession (List.subset_cons_self _ _)⟩
  · obtain ⟨hpair, hpublic⟩ := hfresh hnone
    have hdrawn : hexToBytes result.session.currentRatchetKey.publicKey
        = (input.ratchetKeyPair.getD amb.keyPair).publicKey := by
      rw [hsession, openSendingChain, hexToBytes_bytesToHex]
    have hsealed := (h.openChain hidle hpair hpublic hdh).encryptOpen (p := p) hc
      (by rw [Function.update_self]) (by simpa only [Function.update_self] using hchain)
      (by simpa only [Function.update_self] using hseal)
      (by simpa only [Function.update_self] using hsession) (List.Subset.refl _)
    simp only [Function.update_idem] at hsealed
    rw [Duplex.encrypted, hdrawn]
    exact ⟨_, _, hsealed⟩

/-! ### An acceptance -/

/-- The session of the other end is replaced. -/
theorem StoreKept.receive (h : StoreKept c d t own remote) {result : RatchetDecryptResult}
    {reached : ℕ} (hle : reached ≤ own p)
    (hrep : Represents c t p.other (own p.other) reached result.session)
    (hstore : BoundedStore result.session.skippedMessageKeys)
    (hderived : ∀ j n, Passed t reached result.session.nextReceiveMessageNumber j n →
      t.key c j n ∈ d.derived p.other ++
        if result.usedSkippedMessageKey then []
        else derivedKeys c (d.duplex.session p.other) message) :
    StoreKept c (d.accepted c p message result) t own
      (Function.update remote p.other reached) := by
  have hne : p ≠ p.other := p.other_ne.symm
  have hcovered : Covered t reached result.session [] := fun f hf => absurd hf List.not_mem_nil
  refine ⟨(h.quiet.receive (List.nil_sublist _) hle hrep hcovered).quieten, h.sealedOn,
    fun q j n hpassed => ?_, fun q => ?_⟩
  · rcases Party.eq_or_eq_other p q with rfl | rfl
    · simp only [RatchetNetwork.accepted, Function.update_of_ne hne] at hpassed ⊢
      exact h.derived q j n hpassed
    · simp only [RatchetNetwork.accepted, Function.update_self] at hpassed ⊢
      exact hderived j n hpassed
  · rcases Party.eq_or_eq_other p q with rfl | rfl
    · simp only [RatchetNetwork.accepted, Function.update_of_ne hne]
      exact h.store q
    · simp only [RatchetNetwork.accepted, Function.update_self]
      exact hstore

/-- **Turning to the chain of a message** that lies ahead: the current one, or the next. -/
theorem StoreKept.turn (hc : c.Lawful) (h : StoreKept c d t own remote) (hj : j ≤ own p)
    (hsealed : SealedOn c t p j f)
    (hnew : ¬Passed t (remote p.other) (d.duplex.session p.other).nextReceiveMessageNumber j
      f.message.messageNumber)
    (hswitch : switchReceivingChain c (d.duplex.session p.other) f.message = .ok ready) :
    Represents c t p.other (own p.other) j ready ∧
      ready.nextReceiveMessageNumber ≤ f.message.messageNumber ∧
      BoundedStore ready.skippedMessageKeys ∧
      ∀ i m, Passed t j ready.nextReceiveMessageNumber i m →
        t.key c i m ∈ d.derived p.other ++ endedKeys c (d.duplex.session p.other) f.message := by
  have hrep : Represents c t p.other (own p.other) (remote p.other) (d.duplex.session p.other) :=
    h.quiet.represents p.other
  have hpos := hsealed.pos
  have hparity := hsealed.parity
  have hflip := p.parity_other
  have hownParity := hrep.own_parity
  have hremote := h.quiet.remote_le p
  have hgap := h.quiet.own_le_succ p
  have hle := le_newest own p
  have hleOther := le_newest own p.other
  have hdistinct {i j : ℕ} (hi : i ≤ newest own) (hj : j ≤ newest own)
      (heq : (t.pair i).publicKey = (t.pair j).publicKey) : i = j :=
    h.quiet.distinctPair i hi j hj heq
  have hsame : j % 2 = remote p.other % 2 := by
    rcases hrep.adjacent with hadjacent | hadjacent <;> omega
  have hbelow : remote p.other ≤ j := by
    by_contra hbehind
    exact hnew ⟨hsame, hpos, Or.inl ⟨by omega, hsealed.number⟩⟩
  rcases switchReceivingChain_eq_ok.mp hswitch with ⟨hkey, rfl⟩ | ⟨hkey, skipped, hskip, hadvance⟩
  · rw [hsealed.key, hrep.remoteKey, bytesToHex_inj] at hkey
    obtain rfl : j = remote p.other := hdistinct (by omega) (by omega) hkey
    refine ⟨hrep, ?_, h.store p.other,
      fun i m hpassed => List.mem_append_left _ (h.derived p.other i m hpassed)⟩
    by_contra hbefore
    exact hnew ⟨rfl, hpos, Or.inr ⟨rfl, by omega⟩⟩
  · have hne : j ≠ remote p.other := by
      rintro rfl
      exact hkey (by rw [hsealed.key, hrep.remoteKey])
    obtain ⟨rfl, hopen⟩ : j = own p.other + 1 ∧ own p.other = remote p.other + 1 := by
      rcases hrep.adjacent with hopen | hidle
      · omega
      · have hown := (h.quiet.newest_of_idle hidle).2
        rw [Party.other_other] at hown
        omega
    have hprevious : f.message.previousChainLength = t.len (remote p.other) := by
      rw [hsealed.previous, show own p.other + 1 - 2 = remote p.other by omega]
    have hskipped := hskip
    rw [hprevious] at hskipped
    obtain ⟨hended, hdone⟩ := hrep.skip hskipped hrep.received_le (Nat.le_refl _)
    obtain ⟨dhOutput, hdh, rfl⟩ := advanceReceivingRatchet_eq_ok.mp hadvance
    rw [hended.current, hexToBytes_bytesToHex, hsealed.key, diffieHellmanX25519_comm hc
      (h.quiet.validPair _ (by omega)) (h.quiet.validPair _ (by omega))] at hdh
    have hready := hended.openReceivingChain hopen hdone (agreement_of_ok hdh)
    rw [← hsealed.key] at hready
    have hstore : BoundedStore skipped.skippedMessageKeys :=
      (h.store p.other).skip hrep (fun i hi => hdistinct (by omega) (by omega)) hskip
    refine ⟨hready, Nat.zero_le _, hstore, fun i m hpassed => ?_⟩
    rw [endedKeys, if_neg hkey, hprevious]
    obtain ⟨hiparity, hipos, hcase⟩ := hpassed
    by_cases hbefore : Passed t (remote p.other)
        (d.duplex.session p.other).nextReceiveMessageNumber i m
    · exact List.mem_append_left _ (h.derived p.other i m hbefore)
    · -- one of the numbers that the ended chain had left
      have hzero : (openReceivingChain c skipped f.message.ratchetPublicKey
        dhOutput).nextReceiveMessageNumber = 0 := rfl
      have hended : i = remote p.other ∧ m < t.len (remote p.other) := by
        rcases hcase with ⟨hlt, hm⟩ | ⟨_, hm⟩
        · by_cases hi : i = remote p.other
          · exact ⟨hi, hi ▸ hm⟩
          · exact absurd ⟨by omega, hipos, Or.inl ⟨by omega, hm⟩⟩ hbefore
        · omega
      obtain ⟨rfl, hm⟩ := hended
      refine List.mem_append_right _ (mem_stepKeys hrep hipos ?_ (by omega))
      by_contra hlt
      exact hbefore ⟨rfl, hipos, Or.inr ⟨rfl, by omega⟩⟩

/-- **An acceptance keeps the invariant.**  With an ideal cipher a message is read only with the
key of its own place, and with distinct keys only at a place that is not passed. -/
theorem StoreKept.accept (hc : c.Lawful) (hideal : c.IdealAEAD) (h : StoreKept c d t own remote)
    (hf : f ∈ d.duplex.inFlight p) {now : Option ℕ} {result : RatchetDecryptResult}
    (hdecrypt : decryptRatchetMessage c amb
      { session := d.duplex.session p.other, message := f.message, now := now } = .ok result)
    (hkeys : ((d.accepted c p f.message result).derived p.other).Nodup) :
    ∃ remote', StoreKept c (d.accepted c p f.message result) t own remote' := by
  have hrep : Represents c t p.other (own p.other) (remote p.other) (d.duplex.session p.other) :=
    h.quiet.represents p.other
  obtain ⟨j, hj, hsealed⟩ := h.sealedOn p f hf
  rcases decryptRatchetMessage_eq_ok.mp hdecrypt with ⟨entry, _, _, _, hused, hsession⟩ | ⟨_, hread⟩
  · -- the key was stored: no place is passed
    refine ⟨_, h.receive (h.quiet.remote_le p) ?_ ?_ fun i m hpassed => ?_⟩
    · rw [hsession]
      exact hrep.take _ _ _
    · rw [hsession]
      exact (h.store p.other).sublist List.eraseP_sublist
    · rw [hsession] at hpassed
      exact List.mem_append_left _ (h.derived p.other i m hpassed)
  · obtain ⟨ready, hswitch, reached, hskip, chainKey, hchain, hopen, _, hused, hsession⟩ :=
      decryptOnReceivingChain_eq_ok.mp hread
    dsimp only at hswitch hskip hopen hsession
    have hkey : messageKeyAt c (hexToBytes chainKey) 0 = t.key c j f.message.messageNumber :=
      (hideal.opens_once (decryptXChaCha20Poly1305_eq_ok.mp hopen).2.2
        (decryptXChaCha20Poly1305_eq_ok.mp hsealed.opens).2.2).1
    have hderived : t.key c j f.message.messageNumber
        ∈ derivedKeys c (d.duplex.session p.other) f.message := by
      rw [derivedKeys, hswitch, ← hkey]
      exact List.mem_append_right _ (mem_stepKeys_of_skip hskip hchain)
    simp only [RatchetNetwork.accepted, Function.update_self, hused, Bool.false_eq_true,
      if_false] at hkeys
    have hnew : ¬Passed t (remote p.other) (d.duplex.session p.other).nextReceiveMessageNumber j
        f.message.messageNumber := fun hpassed =>
      List.disjoint_of_nodup_append hkeys (h.derived p.other _ _ hpassed) hderived
    obtain ⟨hready, hle, hstore, hbefore⟩ := h.turn hc hj hsealed hnew hswitch
    have hnewest := le_newest own p
    have hreached : BoundedStore reached.skippedMessageKeys :=
      hstore.skip hready (fun i hi => h.quiet.distinctPair i (by omega) j (by omega)) hskip
    refine ⟨_, h.receive hj ?_ ?_ fun i m hpassed => ?_⟩
    · rw [hsession]
      exact hready.readNumber hsealed.pos hskip hchain hle hsealed.number _
    · rw [hsession]
      exact hreached
    · rw [hsession] at hpassed
      rw [hused, if_neg Bool.false_ne_true, derivedKeys, hswitch, ← List.append_assoc]
      obtain ⟨hparity, hpos, hcase⟩ := hpassed
      by_cases hold : Passed t j ready.nextReceiveMessageNumber i m
      · exact List.mem_append_left _ (hbefore i m hold)
      · -- one of the numbers that are read now
        have hnumber : i = j ∧ m < f.message.messageNumber + 1 := by
          rcases hcase with hcase | hcase
          · exact absurd ⟨hparity, hpos, Or.inl hcase⟩ hold
          · exact hcase
        obtain ⟨rfl, hm⟩ := hnumber
        refine List.mem_append_right _ (mem_stepKeys hready hpos ?_ (by omega))
        by_contra hlt
        exact hold ⟨hparity, hpos, Or.inr ⟨rfl, by omega⟩⟩

/-! ### Runs -/

variable {d' : RatchetNetwork}

/-- No key is taken back. -/
theorem NetworkStep.derived_sublist (hstep : NetworkStep c d d') (p : Party) :
    (d.derived p).Sublist (d'.derived p) := by
  cases hstep with
  | encrypt => exact List.Sublist.refl _
  | @accept q =>
    rcases Party.eq_or_eq_other q p with rfl | rfl
    · simp only [RatchetNetwork.accepted, Function.update_of_ne p.other_ne.symm]
      exact List.Sublist.refl _
    · simp only [RatchetNetwork.accepted, Function.update_self]
      exact List.sublist_append_left _ _

/-- **A run keeps the invariant**, as long as the keys that each end derives are distinct. -/
theorem storeKept_of_run (hc : c.Lawful) (hideal : c.IdealAEAD)
    (h : ∃ t own remote, StoreKept c d t own remote) (hrun : ReflTransGen (NetworkStep c) d d')
    (hkeys : ∀ p, (d'.derived p).Nodup) : ∃ t own remote, StoreKept c d' t own remote := by
  induction hrun with
  | refl => exact h
  | tail _ hstep ih =>
    obtain ⟨t, own, remote, h⟩ := ih fun p => (hkeys p).sublist (hstep.derived_sublist p)
    cases hstep with
    | encrypt hstep =>
      cases hstep with
      | encrypt hinput hencrypt hfresh =>
        obtain ⟨t', own', h'⟩ := h.encrypt hc hinput hencrypt hfresh
        exact ⟨t', own', remote, h'⟩
    | accept hf hdecrypt =>
      obtain ⟨remote', h'⟩ := h.accept hc hideal hf hdecrypt (hkeys _)
      exact ⟨t, own, remote', h'⟩

end

/-- **The store of skipped keys** in every run between two ends that were created for each other, of
encryptions and of acceptances of what was sent, in any order and any number of times, with an ideal
cipher and distinct derived keys: it is bounded, no two of its keys are for one place, and a key for
the current remote ratchet key is for a number that was passed. -/
theorem skippedMessageKeys_bounded {c : Primitives} (hc : c.Lawful) (hideal : c.IdealAEAD)
    {initiatorInput responderInput : CreateRatchetSessionInput}
    {initiator responder : LocalSessionState}
    (hcreated : Created c initiatorInput responderInput initiator responder) {d : RatchetNetwork}
    (hrun : ReflTransGen (NetworkStep c) (.start initiator responder) d)
    (hkeys : ∀ p, (d.derived p).Nodup) (p : Party) :
    (d.duplex.session p).skippedMessageKeys.length ≤ MAX_SKIPPED_MESSAGE_KEYS ∧
      ((d.duplex.session p).skippedMessageKeys.map SkippedMessageKeyState.place).Nodup ∧
      ∀ entry ∈ (d.duplex.session p).skippedMessageKeys,
        entry.ratchetPublicKey = (d.duplex.session p).remoteRatchetPublicKey →
        entry.messageNumber < (d.duplex.session p).nextReceiveMessageNumber := by
  obtain ⟨t, own, remote, hstart, hlen⟩ := invariant_start hc hcreated
  have hkept : StoreKept c (.start initiator responder) t own remote := by
    refine ⟨hstart.quieten, fun _ _ hf => absurd hf List.not_mem_nil, fun q j n hpassed => ?_,
      fun q => ?_⟩
    · have hreceived := (hstart.represents q).received_le
      obtain ⟨_, _, ⟨_, hn⟩ | ⟨_, hn⟩⟩ := hpassed
      · rw [hlen] at hn
        omega
      · rw [hlen] at hreceived
        exact absurd (Nat.lt_of_lt_of_le hn hreceived) (Nat.not_lt_zero n)
    · have hempty : (Duplex.start initiator responder |>.session q).skippedMessageKeys = [] := by
        obtain ⟨_, _, rfl⟩ := createInitiatorRatchetSession_eq_ok.mp hcreated.initiator_eq
        obtain ⟨_, _, rfl⟩ := createResponderRatchetSession_eq_ok.mp hcreated.responder_eq
        cases q <;> rfl
      show BoundedStore (Duplex.start initiator responder |>.session q).skippedMessageKeys
      rw [hempty]
      exact ⟨Nat.zero_le _, List.nodup_nil⟩
  obtain ⟨t, own, remote, h⟩ := storeKept_of_run hc hideal ⟨t, own, remote, hkept⟩ hrun hkeys
  have hrep : Represents c t p (own p) (remote p) (d.duplex.session p) := h.quiet.represents p
  refine ⟨(h.store p).length_le, (h.store p).nodup, fun entry hentry hcurrent => ?_⟩
  obtain ⟨j, n, ⟨_, _, hcase⟩, rfl⟩ := hrep.stored entry hentry
  have hle := h.quiet.remote_le p.other
  have hnewest := le_newest own p.other
  rw [Party.other_other] at hle
  rw [hrep.remoteKey] at hcurrent
  have hj : j = remote p :=
    h.quiet.distinctPair j (by omega) (remote p) (by omega) (bytesToHex_inj.mp hcurrent)
  rcases hcase with ⟨hlt, _⟩ | ⟨_, hn⟩
  · omega
  · exact hn

def secondOpened : RatchetDecryptResult :=
  valueOf (decryptRatchetMessage sample (sampleAmbient 94 3002)
    { session := duplexTwo.session Party.initiator.other, message := secondFlight.message })
    (by decide +kernel)

/-- Bob has accepted the second message, and stored the key of the first. -/
def networkOvertaken : RatchetNetwork :=
  RatchetNetwork.accepted sample ⟨duplexTwo, fun _ => []⟩ .initiator secondFlight.message
    secondOpened

theorem skippedMessageKeys_bounded_sample :
    (networkOvertaken.duplex.session .responder).skippedMessageKeys.length
        ≤ MAX_SKIPPED_MESSAGE_KEYS ∧
      ∀ entry ∈ (networkOvertaken.duplex.session .responder).skippedMessageKeys,
        entry.ratchetPublicKey
            = (networkOvertaken.duplex.session .responder).remoteRatchetPublicKey →
        entry.messageNumber
          < (networkOvertaken.duplex.session .responder).nextReceiveMessageNumber := by
  obtain ⟨_, _, hcreated⟩ := sampleEstablished.created
  have hrun : ReflTransGen (NetworkStep sample)
      (.start aliceBuilt.session bobConsumed.session) networkOvertaken :=
    ((ReflTransGen.single (.encrypt firstSealed_step)).tail (.encrypt secondSealed_step)).tail
      (.accept (f := secondFlight) (by decide +kernel) (eq_ok_valueOf _ _))
  have hkeys (p : Party) : (networkOvertaken.derived p).Nodup := by
    cases p <;> decide +kernel
  obtain ⟨hlength, _, hnumbers⟩ :=
    skippedMessageKeys_bounded sample_lawful sample_ideal hcreated hrun hkeys .responder
  exact ⟨hlength, hnumbers⟩

end QuadraA.E2E
