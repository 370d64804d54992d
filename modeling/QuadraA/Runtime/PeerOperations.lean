import QuadraA.E2E.DeviceRun
import QuadraA.Runtime.PeerRecovery

/-!
# What one task of the daemon does to the stored sessions

The three ways in which a task of `daemon-server.ts` changes the sessions of its peer: it encrypts
an application envelope, decrypts a transport envelope, or clears the sessions.  Each is a function
of the snapshot that the task has read.

* `PeerOperation.write` — the configuration an operation writes over a snapshot;
* `sessionAt_of_write` — **the frame**: an operation changes no session of another peer.
-/

namespace QuadraA.Runtime

open QuadraA.Lib QuadraA.E2E QuadraA.Messaging

/-! ### Session keys -/

/-- The DIDs that `extractPublicKey` accepts: `did:agent:` and a base58 text, so no third colon.
Router, agent card and pre-key bundle are verified under the key of such a DID. -/
def WellFormedDid (did : String) : Prop :=
  isAgentDid did = true ∧ did.toList.count ':' = 2

instance (did : String) : Decidable (WellFormedDid did) :=
  inferInstanceAs (Decidable (_ ∧ _))

/-- A separator that occurs as often before it on both sides splits both lists alike. -/
theorem append_cons_inj_of_count {l₁ l₂ r₁ r₂ : List Char} {x : Char}
    (hcount : l₁.count x = l₂.count x) (h : l₁ ++ x :: r₁ = l₂ ++ x :: r₂) :
    l₁ = l₂ ∧ r₁ = r₂ := by
  rcases List.append_eq_append_iff.mp h with ⟨middle, hl, hr⟩ | ⟨middle, hl, hr⟩
  · cases middle with
    | nil =>
      rw [List.append_nil] at hl
      rw [List.nil_append, List.cons.injEq] at hr
      exact ⟨hl.symm, hr.2⟩
    | cons y rest =>
      rw [List.cons_append, List.cons.injEq] at hr
      rw [hl, List.count_append, ← hr.1, List.count_cons_self] at hcount
      omega
  · cases middle with
    | nil =>
      rw [List.append_nil] at hl
      rw [List.nil_append, List.cons.injEq] at hr
      exact ⟨hl, hr.2.symm⟩
    | cons y rest =>
      rw [List.cons_append, List.cons.injEq] at hr
      rw [hl, List.count_append, ← hr.1, List.count_cons_self] at hcount
      omega

theorem buildLocalSessionKey_toList (peerDid peerDeviceId : String) :
    (buildLocalSessionKey peerDid peerDeviceId).toList
      = peerDid.toList ++ ':' :: peerDeviceId.toList := by
  rw [buildLocalSessionKey, String.toList_append, String.toList_append, List.append_assoc]
  rfl

variable {peerDid' peerDeviceId deviceId : String} {c : Primitives} {services : EnvelopeServices}
  {transportEnvelope : MessageEnvelope} {config next : LocalE2EConfig} {session : LocalSessionState}

/-- **Session keys are injective** on well-formed DIDs, whatever the device ids hold. -/
theorem buildLocalSessionKey_inj {peerDid peerDeviceId' : String} (hdid : WellFormedDid peerDid)
    (hdid' : WellFormedDid peerDid')
    (h : buildLocalSessionKey peerDid peerDeviceId = buildLocalSessionKey peerDid' peerDeviceId') :
    peerDid = peerDid' ∧ peerDeviceId = peerDeviceId' := by
  have hlists := congrArg String.toList h
  rw [buildLocalSessionKey_toList, buildLocalSessionKey_toList] at hlists
  have hcount : peerDid.toList.count ':' = peerDid'.toList.count ':' := by
    rw [hdid.2, hdid'.2]
  obtain ⟨hleft, hright⟩ := append_cons_inj_of_count hcount hlists
  exact ⟨String.toList_inj.mp hleft, String.toList_inj.mp hright⟩

/-- The keys that a clearing removes are the keys of its peer. -/
theorem isPeerSessionKey_build {peerDid : String} (hdid : WellFormedDid peerDid)
    (hdid' : WellFormedDid peerDid') :
    isPeerSessionKey peerDid (buildLocalSessionKey peerDid' peerDeviceId) = true ↔
      peerDid = peerDid' := by
  have hprefix : (peerDid ++ ":").toList = peerDid.toList ++ [':'] := String.toList_append
  rw [isPeerSessionKey, List.isPrefixOf_iff_prefix, hprefix, buildLocalSessionKey_toList]
  constructor
  · rintro ⟨rest, hrest⟩
    rw [List.append_assoc, List.singleton_append] at hrest
    have hcount : peerDid.toList.count ':' = peerDid'.toList.count ':' := by
      rw [hdid.2, hdid'.2]
    exact String.toList_inj.mp (append_cons_inj_of_count hcount hrest).1
  · rintro rfl
    exact ⟨peerDeviceId.toList, by rw [List.append_assoc, List.singleton_append]⟩

/-! ### The operations -/

/-- **What a task does to the sessions of its peer.**  An encryption is one target of
`prepareEncryptedSends`. -/
inductive PeerOperation where
  | encrypt (amb : Ambient) (applicationEnvelope : MessageEnvelope)
      (recipientDevice : PublishedDeviceDirectoryEntry)
      (claimedBundle : Option ClaimedPreKeyBundle)
  | receive (amb : Ambient) (transportEnvelope : MessageEnvelope)
  | clear (peerDid : String)

/-- The peer whose locks the task of an operation holds. -/
def PeerOperation.peerDid : PeerOperation → String
  | .encrypt _ applicationEnvelope _ _ => applicationEnvelope.receiver
  | .receive _ transportEnvelope => transportEnvelope.sender
  | .clear peerDid => peerDid

/-- **The configuration an operation writes** over the snapshot it has read, at the daemon `did`;
`none` when it throws, or has nothing to write. -/
def PeerOperation.write (c : Primitives) (services : EnvelopeServices) (did : String)
    (snapshot : LocalE2EConfig) : PeerOperation → Option LocalE2EConfig
  | .encrypt amb applicationEnvelope recipientDevice claimedBundle =>
      (encryptApplicationEnvelope c services amb
        { e2eConfig := snapshot, applicationEnvelope, recipientDevice, claimedBundle }).toOption.map
          (·.e2eConfig)
  | .receive amb transportEnvelope =>
      (decryptApplicationEnvelope c services amb
        { e2eConfig := snapshot, receiverDid := did, transportEnvelope }).toOption.map
          (·.e2eConfig)
  | .clear peerDid =>
      let cleared := clearPeerSessions snapshot peerDid
      if cleared.2 > 0 then some cleared.1 else none

/-! ### What an operation writes -/

/-- The checks of a transport envelope and of the envelope inside, which read no configuration. -/
def Admits (c : Primitives) (services : EnvelopeServices) (transportEnvelope : MessageEnvelope)
    (message : WireMessage) (plaintext : Bytes) : Prop :=
  assertEnvelopeSignature services transportEnvelope "Encrypted transport envelope" = .ok () ∧
    transportEnvelope.protocol = E2E_APPLICATION_ENVELOPE_PROTOCOL ∧
    (∃ payload, assertEncryptedApplicationEnvelopePayload transportEnvelope.payload = .ok payload ∧
      assertTransportEnvelopeMatchesMessage transportEnvelope payload message = .ok ()) ∧
    decodeEncryptedApplicationEnvelopePayload c transportEnvelope.payload = .ok message ∧
    ∃ applicationEnvelope,
      deserializeSignedApplicationEnvelope services plaintext = .ok applicationEnvelope ∧
      assertApplicationEnvelopeMatchesMessage applicationEnvelope message = .ok () ∧
      assertEnvelopeSignature services applicationEnvelope "Decrypted application envelope" = .ok ()

/-- The message inside names the sender of the transport envelope. -/
theorem Admits.sender {message : WireMessage} {plaintext : Bytes}
    (h : Admits c services transportEnvelope message plaintext) :
    message.senderDid = transportEnvelope.sender := by
  obtain ⟨_, _, ⟨payload, _, hmatches⟩, _⟩ := h
  rw [assertTransportEnvelopeMatchesMessage] at hmatches
  split at hmatches
  · cases hmatches
  · split at hmatches
    · cases hmatches
    · rename_i hrouting
      rw [not_or, not_not] at hrouting
      exact hrouting.1.symm

theorem decryptApplicationEnvelope_admits {amb : Ambient} {did : String} :
    (∃ result, decryptApplicationEnvelope c services amb
        { e2eConfig := config, receiverDid := did, transportEnvelope } = .ok result ∧
        result.e2eConfig = next) ↔
      ∃ message decrypted, Admits c services transportEnvelope message decrypted.plaintext ∧
        decryptWireMessage c amb config did none message = .ok decrypted ∧
        decrypted.e2eConfig = next := by
  simp only [decryptApplicationEnvelope_eq_ok_iff]
  constructor
  · rintro ⟨_, ⟨hsigned, hprotocol, payload, hpayload, message, hdecode, hmatches, decrypted,
      hdecrypt, inner, hinner, hinnerMatches, hinnerSigned, rfl⟩, rfl⟩
    exact ⟨message, decrypted, ⟨hsigned, hprotocol, ⟨payload, hpayload, hmatches⟩, hdecode, inner,
      hinner, hinnerMatches, hinnerSigned⟩, hdecrypt, rfl⟩
  · rintro ⟨message, decrypted, ⟨hsigned, hprotocol, ⟨payload, hpayload, hmatches⟩, hdecode, inner,
      hinner, hinnerMatches, hinnerSigned⟩, hdecrypt, rfl⟩
    exact ⟨_, ⟨hsigned, hprotocol, payload, hpayload, message, hdecode, hmatches, decrypted,
      hdecrypt, inner, hinner, hinnerMatches, hinnerSigned, rfl⟩, rfl⟩

/-- The input of the ratchet step in `encryptApplicationEnvelope`. -/
def encryptInput (services : EnvelopeServices) (applicationEnvelope : MessageEnvelope)
    (session : LocalSessionState) : RatchetEncryptInput where
  session := session
  plaintext := serializeSignedApplicationEnvelope services applicationEnvelope
  senderDid := applicationEnvelope.sender
  receiverDid := applicationEnvelope.receiver
  messageId := some applicationEnvelope.id

/-- The input of the bootstrap in `encryptApplicationEnvelope`. -/
def initiateInput (services : EnvelopeServices) (config : LocalE2EConfig)
    (applicationEnvelope : MessageEnvelope) (recipientDevice : PublishedDeviceDirectoryEntry)
    (claimedBundle : ClaimedPreKeyBundle) : BuildInitiatorPreKeyMessageInput where
  e2eConfig := config
  senderDid := applicationEnvelope.sender
  receiverDid := applicationEnvelope.receiver
  recipientDevice := recipientDevice
  claimedBundle := claimedBundle
  plaintext := serializeSignedApplicationEnvelope services applicationEnvelope
  messageId := some applicationEnvelope.id

/-- **What an operation writes**, guards included: one constructor for each way through it. -/
inductive PeerOperation.Writes (c : Primitives) (services : EnvelopeServices) (did : String)
    (config : LocalE2EConfig) : PeerOperation → LocalE2EConfig → Prop
  | encrypt {amb : Ambient} {applicationEnvelope : MessageEnvelope}
      {recipientDevice : PublishedDeviceDirectoryEntry}
      {claimedBundle : Option ClaimedPreKeyBundle} {session : LocalSessionState}
      {encrypted : RatchetEncryptResult} {next : LocalE2EConfig} :
      loadLocalSession config config.currentDeviceId applicationEnvelope.receiver
        recipientDevice.deviceId = some session →
      encryptRatchetMessage c amb (encryptInput services applicationEnvelope session)
        = .ok encrypted →
      storeLocalSession config config.currentDeviceId encrypted.session = .ok next →
      Writes c services did config
        (.encrypt amb applicationEnvelope recipientDevice claimedBundle) next
  | initiate {amb : Ambient} {applicationEnvelope : MessageEnvelope}
      {recipientDevice : PublishedDeviceDirectoryEntry} {claimedBundle : ClaimedPreKeyBundle}
      {built : BuildInitiatorPreKeyMessageResult} :
      loadLocalSession config config.currentDeviceId applicationEnvelope.receiver
        recipientDevice.deviceId = none →
      buildInitiatorPreKeyMessage c amb
        (initiateInput services config applicationEnvelope recipientDevice claimedBundle)
        = .ok built →
      Writes c services did config
        (.encrypt amb applicationEnvelope recipientDevice (some claimedBundle)) built.e2eConfig
  | consume {amb : Ambient} {transportEnvelope : MessageEnvelope} {message : PreKeyMessage}
      {result : ConsumeResponderPreKeyMessageResult} :
      Admits c services transportEnvelope (.prekey message) result.plaintext →
      consumeResponderPreKeyMessage c amb
        { e2eConfig := config, receiverDid := did, message } = .ok result →
      Writes c services did config (.receive amb transportEnvelope) result.e2eConfig
  | decrypt {amb : Ambient} {transportEnvelope : MessageEnvelope} {message : SessionMessage}
      {session : LocalSessionState} {decrypted : RatchetDecryptResult} {next : LocalE2EConfig} :
      Admits c services transportEnvelope (.session message) decrypted.plaintext →
      loadLocalSession config message.receiverDeviceId message.senderDid message.senderDeviceId
        = some session →
      session.sessionId = message.sessionId →
      decryptRatchetMessage c amb { session, message } = .ok decrypted →
      storeLocalSession config message.receiverDeviceId decrypted.session = .ok next →
      Writes c services did config (.receive amb transportEnvelope) next
  | clear {peerDid : String} :
      0 < (clearPeerSessions config peerDid).2 →
      Writes c services did config (.clear peerDid) (clearPeerSessions config peerDid).1

section

variable {c : Primitives} {services : EnvelopeServices} {did : String}
  {config next : LocalE2EConfig} {operation : PeerOperation}

/-- **What `write` returns** is what the operation writes. -/
theorem PeerOperation.write_eq_some :
    operation.write c services did config = some next ↔
      operation.Writes c services did config next := by
  cases operation with
  | encrypt amb applicationEnvelope recipientDevice claimedBundle =>
    simp only [PeerOperation.write, Option.map_eq_some_iff, toOption_eq_some]
    constructor
    · rintro ⟨result, hrun, rfl⟩
      simp only [encryptApplicationEnvelope] at hrun
      cases hload : loadLocalSession config config.currentDeviceId applicationEnvelope.receiver
          recipientDevice.deviceId with
      | some session =>
        simp only [hload, bind_eq_ok, Except.ok.injEq] at hrun
        obtain ⟨encrypted, hencrypt, stored, hstore, rfl⟩ := hrun
        exact .encrypt hload hencrypt hstore
      | none =>
        cases claimedBundle with
        | none => simp [hload] at hrun
        | some claimedBundle =>
          simp only [hload, bind_eq_ok, Except.ok.injEq] at hrun
          obtain ⟨built, hbuild, rfl⟩ := hrun
          exact .initiate hload hbuild
    · intro h
      cases h with
      | @encrypt _ _ _ _ _ encrypted _ hload hencrypt hstore =>
        refine ⟨{
          payload := buildEncryptedApplicationEnvelopePayload (.session encrypted.message)
            (encodeSessionMessage c encrypted.message)
          e2eConfig := next
          transport := .session }, ?_, rfl⟩
        simp only [encryptApplicationEnvelope, hload, bind_eq_ok, Except.ok.injEq]
        exact ⟨_, hencrypt, _, hstore, rfl⟩
      | @initiate _ _ _ _ built hload hbuild =>
        refine ⟨{
          payload := buildEncryptedApplicationEnvelopePayload (.prekey built.message)
            (encodePreKeyMessage c built.message)
          e2eConfig := built.e2eConfig
          transport := .prekey }, ?_, rfl⟩
        simp only [encryptApplicationEnvelope, hload, bind_eq_ok, Except.ok.injEq]
        exact ⟨_, hbuild, rfl⟩
  | receive amb transportEnvelope =>
    simp only [PeerOperation.write, Option.map_eq_some_iff, toOption_eq_some]
    rw [decryptApplicationEnvelope_admits]
    constructor
    · rintro ⟨message, decrypted, hadmits, hdecrypt, rfl⟩
      cases message with
      | prekey message =>
        rw [decryptWireMessage, bind_eq_ok] at hdecrypt
        obtain ⟨consumed, hconsume, hresult⟩ := hdecrypt
        obtain rfl := Except.ok.inj hresult
        exact .consume hadmits hconsume
      | session message =>
        obtain ⟨session, hload, hid, opened, hopen, hstore, hplaintext, _⟩ :=
          decryptWireMessage_session_eq_ok.mp hdecrypt
        rw [hplaintext] at hadmits
        exact .decrypt hadmits hload hid hopen hstore
    · intro h
      cases h with
      | @consume _ _ message consumed hadmits hconsume =>
        refine ⟨.prekey message, {
          plaintext := consumed.plaintext
          e2eConfig := consumed.e2eConfig
          transport := .prekey
          usedSkippedMessageKey := false }, hadmits, ?_, rfl⟩
        rw [decryptWireMessage, bind_eq_ok]
        exact ⟨consumed, hconsume, rfl⟩
      | @decrypt _ _ message session decrypted _ hadmits hload hid hopen hstore =>
        exact ⟨.session message,
          { plaintext := decrypted.plaintext
            e2eConfig := next
            transport := .session
            usedSkippedMessageKey := decrypted.usedSkippedMessageKey }, hadmits,
          decryptWireMessage_session_eq_ok.mpr
            ⟨session, hload, hid, decrypted, hopen, hstore, rfl, rfl, rfl⟩, rfl⟩
  | clear peerDid =>
    simp only [PeerOperation.write]
    constructor
    · intro h
      split at h
      · rename_i hcount
        obtain rfl := Option.some.inj h
        exact .clear hcount
      · cases h
    · intro h
      cases h with
      | clear hcount => rw [if_pos hcount]

end

/-! ### Clearing -/

theorem clearPeerSessions_currentDeviceId (config : LocalE2EConfig) (peerDid : String) :
    (clearPeerSessions config peerDid).1.currentDeviceId = config.currentDeviceId := by
  rw [clearPeerSessions]
  split
  · rfl
  · simp only
    split <;> rfl

/-- **Clearing** filters the sessions of the current device, and leaves the other devices. -/
theorem devices_of_clear (config : LocalE2EConfig) (peerDid id : String) :
    (clearPeerSessions config peerDid).1.devices.get? id
      = (config.devices.get? id).map fun device =>
          if config.currentDeviceId = id then
            { device with
              sessions := device.sessions.filterKeys fun key => !isPeerSessionKey peerDid key }
          else device := by
  rw [clearPeerSessions]
  cases hcurrent : config.devices.get? config.currentDeviceId with
  | none =>
    by_cases hid : config.currentDeviceId = id
    · rw [← hid, hcurrent]
      rfl
    · simp [hid]
  | some current =>
    simp only
    split
    · rename_i hzero
      have hkept : (current.sessions.filterKeys fun key => !isPeerSessionKey peerDid key)
          = current.sessions := Record.filterKeys_eq_self (Nat.sub_eq_zero_iff_le.mp hzero)
      by_cases hid : config.currentDeviceId = id
      · rw [← hid, hcurrent, Option.map_some, if_pos rfl, hkept]
      · simp [hid]
    · by_cases hid : config.currentDeviceId = id
      · rw [← hid, hcurrent, Option.map_some, if_pos rfl, Record.get?_set_self]
      · rw [Record.get?_set_ne _ _ hid]
        simp [hid]

theorem sessionAt_of_clear (config : LocalE2EConfig) (peerDid : String) (slot : SessionSlot) :
    sessionAt (clearPeerSessions config peerDid).1 slot
      = if config.currentDeviceId = slot.deviceId ∧ isPeerSessionKey peerDid slot.key = true
        then none else sessionAt config slot := by
  rw [sessionAt, sessionAt, devices_of_clear]
  cases config.devices.get? slot.deviceId with
  | none => simp
  | some device =>
    by_cases hid : config.currentDeviceId = slot.deviceId
    · rw [Option.map_some, Option.bind_some, Option.bind_some, if_pos hid, Record.get?_filterKeys]
      cases isPeerSessionKey peerDid slot.key <;> simp [hid]
    · simp [hid]

theorem Keyed.clear (h : config.Keyed) (peerDid : String) :
    (clearPeerSessions config peerDid).1.Keyed := by
  intro id device hdevice
  rw [devices_of_clear, Option.map_eq_some_iff] at hdevice
  obtain ⟨stored, hstored, rfl⟩ := hdevice
  have hid := h id stored hstored
  split
  · exact hid
  · exact hid

/-! ### Filed configurations -/

/-- **Every session stands under the key of its peer**, and every device under its own id. -/
structure Filed (config : LocalE2EConfig) : Prop where
  keyed : config.Keyed
  key : ∀ {slot session}, sessionAt config slot = some session →
    slot.key = buildLocalSessionKey session.peerDid session.peerDeviceId
  did : ∀ {slot session}, sessionAt config slot = some session → WellFormedDid session.peerDid

/-- What stands in the slot of a peer device is a session with that device. -/
theorem Filed.peer (h : Filed config) {peerDid : String} (hdid : WellFormedDid peerDid)
    (hsession : loadLocalSession config deviceId peerDid peerDeviceId = some session) :
    session.peerDid = peerDid ∧ session.peerDeviceId = peerDeviceId := by
  rw [loadLocalSession_eq] at hsession
  have hkey : buildLocalSessionKey peerDid peerDeviceId
      = buildLocalSessionKey session.peerDid session.peerDeviceId := h.key hsession
  obtain ⟨hpeer, hdevice⟩ := buildLocalSessionKey_inj hdid (h.did hsession) hkey
  exact ⟨hpeer.symm, hdevice.symm⟩

/-- Sessions in one slot have one peer. -/
theorem Filed.peerDid_eq {config' : LocalE2EConfig} (h : Filed config) (h' : Filed config')
    {slot : SessionSlot} {session' : LocalSessionState}
    (hsession : sessionAt config slot = some session)
    (hsession' : sessionAt config' slot = some session') :
    session.peerDid = session'.peerDid ∧ session.peerDeviceId = session'.peerDeviceId := by
  have hkey := (h.key hsession).symm.trans (h'.key hsession')
  exact buildLocalSessionKey_inj (h.did hsession) (h'.did hsession') hkey

/-- **Storing a session** of a well-formed peer keeps a configuration filed. -/
theorem Filed.of_store (h : Filed config) (hkeyed : next.Keyed)
    (hdid : WellFormedDid session.peerDid)
    (hnext : ∀ slot, sessionAt next slot
      = if session.slot deviceId = slot then some session else sessionAt config slot) :
    Filed next := by
  have hslot {slot : SessionSlot} {found : LocalSessionState}
      (hfound : sessionAt next slot = some found) :
      slot.key = buildLocalSessionKey found.peerDid found.peerDeviceId ∧
        WellFormedDid found.peerDid := by
    rw [hnext] at hfound
    split at hfound
    · rename_i hsame
      obtain rfl := Option.some.inj hfound
      rw [← hsame]
      exact ⟨rfl, hdid⟩
    · exact ⟨h.key hfound, h.did hfound⟩
  exact ⟨hkeyed, fun hfound => (hslot hfound).1, fun hfound => (hslot hfound).2⟩

theorem Filed.clear (h : Filed config) (peerDid : String) :
    Filed (clearPeerSessions config peerDid).1 := by
  have hkept {slot : SessionSlot} {found : LocalSessionState}
      (hfound : sessionAt (clearPeerSessions config peerDid).1 slot = some found) :
      sessionAt config slot = some found := by
    rw [sessionAt_of_clear] at hfound
    split at hfound
    · cases hfound
    · exact hfound
  exact ⟨Keyed.clear h.keyed peerDid, fun hfound => h.key (hkept hfound),
    fun hfound => h.did (hkept hfound)⟩

/-! ### The sessions of one peer -/

/-- Every session with the peer that is stored after a step was stored before it. -/
def NothingNew (peerDid : String) (before after : LocalE2EConfig) : Prop :=
  ∀ slot session, session.peerDid = peerDid → sessionAt after slot = some session →
    sessionAt before slot = some session

theorem NothingNew.refl (peerDid : String) (config : LocalE2EConfig) :
    NothingNew peerDid config config := fun _ _ _ h => h

/-! ### The frame -/

section

variable {c : Primitives} {services : EnvelopeServices} {did : String}
  {config next : LocalE2EConfig} {operation : PeerOperation}

/-- **One slot, or a clearing.**  An operation that is not a clearing fills one slot, with a session
of its peer. -/
theorem PeerOperation.Writes.slot (hfiled : Filed config)
    (hdid : WellFormedDid operation.peerDid)
    (h : operation.Writes c services did config next) :
    (∃ deviceId session, session.peerDid = operation.peerDid ∧ next.Keyed ∧
      ∀ slot, sessionAt next slot
        = if session.slot deviceId = slot then some session else sessionAt config slot) ∨
    operation = .clear operation.peerDid ∧
      next = (clearPeerSessions config operation.peerDid).1 := by
  cases h with
  | @encrypt _ applicationEnvelope recipientDevice _ session encrypted _ hload hencrypt hstore =>
    refine Or.inl ⟨config.currentDeviceId, encrypted.session, ?_, Keyed.store hfiled.keyed hstore,
      sessionAt_of_store hstore⟩
    obtain ⟨_, _, _, hpeer⟩ := encryptRatchetMessage_routing hencrypt
    rw [hpeer]
    exact (hfiled.peer hdid hload).1
  | @initiate _ _ _ _ built hload hbuild =>
    obtain ⟨_, device, _, _, _, hsession, hstore⟩ := buildInitiatorPreKeyMessage_eq_ok.mp hbuild
    refine Or.inl ⟨device.deviceId, built.session, ?_, Keyed.build hfiled.keyed hbuild,
      sessionAt_of_store hstore⟩
    obtain ⟨_, _, hmade⟩ := createInitiatorRatchetSession_eq_ok.mp hsession
    rw [hmade]
    rfl
  | @consume _ transportEnvelope message result hadmits hconsume =>
    have hsender : message.senderDid = transportEnvelope.sender := hadmits.sender
    obtain ⟨_, _, hpeer, hdevice, _⟩ := consumed_session hfiled.keyed hconsume
    refine Or.inl ⟨message.receiverDeviceId, result.session, ?_,
      Keyed.consume hfiled.keyed hconsume, fun slot => ?_⟩
    · rw [hpeer]
      exact hsender
    · rw [sessionAt_of_consume hfiled.keyed hconsume, LocalSessionState.slot, hpeer, hdevice]
  | @decrypt _ transportEnvelope message session decrypted _ hadmits hload hid hdecrypt hstore =>
    have hsender : message.senderDid = transportEnvelope.sender := hadmits.sender
    refine Or.inl ⟨message.receiverDeviceId, decrypted.session, ?_,
      Keyed.store hfiled.keyed hstore, sessionAt_of_store hstore⟩
    obtain ⟨_, _, _, hpeer⟩ := decryptRatchetMessage_routing hdecrypt
    rw [hpeer]
    rw [hsender] at hload
    exact (hfiled.peer hdid hload).1
  | clear _ => exact Or.inr ⟨rfl, rfl⟩

/-- **Every operation keeps a configuration filed.** -/
theorem Filed.writes (hfiled : Filed config) (hdid : WellFormedDid operation.peerDid)
    (h : operation.Writes c services did config next) : Filed next := by
  rcases h.slot hfiled hdid with ⟨deviceId, session, hpeer, hkeyed, hnext⟩ | ⟨_, rfl⟩
  · rw [← hpeer] at hdid
    exact hfiled.of_store hkeyed hdid hnext
  · exact hfiled.clear _

/-- **The frame.**  An operation changes no session of another peer. -/
theorem PeerOperation.Writes.frame (hfiled : Filed config)
    (hdid : WellFormedDid operation.peerDid)
    (h : operation.Writes c services did config next) {slot : SessionSlot}
    {session : LocalSessionState} (hother : session.peerDid ≠ operation.peerDid) :
    sessionAt next slot = some session ↔ sessionAt config slot = some session := by
  have hnextFiled := hfiled.writes hdid h
  rcases h.slot hfiled hdid with ⟨deviceId, stored, hpeer, _, hnext⟩ | ⟨_, rfl⟩
  · rw [hnext]
    by_cases hslot : stored.slot deviceId = slot
    · -- the slot belongs to the peer of the operation, before and after
      rw [if_pos hslot]
      have hstored : sessionAt next slot = some stored := by rw [hnext, if_pos hslot]
      constructor
      · intro hsame
        rw [Option.some.injEq] at hsame
        exact absurd (by rw [← hsame, hpeer]) hother
      · intro hfound
        have hpeers := (hfiled.peerDid_eq hnextFiled hfound hstored).1
        exact absurd (by rw [hpeers, hpeer]) hother
    · rw [if_neg hslot]
  · rw [sessionAt_of_clear]
    split
    · rename_i hcleared
      constructor
      · intro habsurd
        cases habsurd
      · intro hfound
        obtain ⟨_, hkey⟩ := hcleared
        rw [hfiled.key hfound, isPeerSessionKey_build hdid (hfiled.did hfound)] at hkey
        exact absurd hkey.symm hother
    · rfl

end

end QuadraA.Runtime
