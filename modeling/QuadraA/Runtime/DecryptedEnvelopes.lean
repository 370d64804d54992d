import QuadraA.Runtime.Misdirected

/-!
# What a decrypted envelope proves

`decryptApplicationEnvelope` checks a transport envelope against the message inside it, and the
envelope inside that against the message.

* `Received` — how the configuration may change: one session slot and one `claimedAt` mark;
* `authentic_iff` — the decryption is authentic exactly when the message is a first one or is
  addressed to the receiver: only the path of a first message compares the receiver.
-/

namespace QuadraA.Runtime

open QuadraA.Lib QuadraA.E2E QuadraA.Messaging

/-! ### What may change -/

/-- One unclaimed pre-key of a list has got its mark. -/
def ClaimedOne (keys keys' : List LocalOneTimePreKeyState) : Prop :=
  ∃ before key after claimedAt, keys = before ++ key :: after ∧ key.claimedAt = none ∧
    keys' = before ++ { key with claimedAt := some claimedAt } :: after

/-- **The configuration differs only in the session with a peer device**, and after a first message
in one mark. -/
def Received (transport : E2ETransport) (receiverDeviceId peerDid peerDeviceId : String)
    (config config' : LocalE2EConfig) : Prop :=
  ∃ device session keys, config.devices.get? receiverDeviceId = some device ∧
    config' = { config with
      devices := config.devices.set receiverDeviceId
        { device with
          oneTimePreKeys := keys
          sessions := device.sessions.set (buildLocalSessionKey peerDid peerDeviceId) session } } ∧
    (keys = device.oneTimePreKeys ∨
      transport = .prekey ∧ ClaimedOne device.oneTimePreKeys keys)

/-- **What a successful decryption is to say.** -/
structure AuthenticDecryption (services : EnvelopeServices)
    (input : DecryptApplicationEnvelopeInput) (result : DecryptApplicationEnvelopeResult) : Prop where
  id : result.applicationEnvelope.id = input.transportEnvelope.id
  sender : result.applicationEnvelope.sender = input.transportEnvelope.sender
  receiver : result.applicationEnvelope.receiver = input.transportEnvelope.receiver
  addressed : input.transportEnvelope.receiver = input.receiverDid
  transportSigned : verifyEnvelope services input.transportEnvelope = .ok true
  applicationSigned : verifyEnvelope services result.applicationEnvelope = .ok true
  config : Received result.transport result.receiverDeviceId input.transportEnvelope.sender
    result.senderDeviceId input.e2eConfig result.e2eConfig

section

variable {c : Primitives} {services : EnvelopeServices} {amb : Ambient}
  {config : LocalE2EConfig} {receiverDid : String} {now : Option ℕ}

/-! ### The checks -/

variable {envelope : MessageEnvelope} {message : WireMessage} {result : WireDecryptResult}

theorem signed_of_assert {label : String}
    (h : assertEnvelopeSignature services envelope label = .ok ()) :
    verifyEnvelope services envelope = .ok true := by
  rw [assertEnvelopeSignature, bind_eq_ok] at h
  obtain ⟨isValid, hverify, hvalid⟩ := h
  cases isValid with
  | true => exact hverify
  | false => cases hvalid

theorem transport_of_assert {transport : MessageEnvelope}
    {payload : EncryptedApplicationEnvelopePayload}
    (h : assertTransportEnvelopeMatchesMessage transport payload message = .ok ()) :
    transport.sender = message.senderDid ∧ transport.receiver = message.receiverDid ∧
      transport.id = message.messageId ∧ payload.messageType = message.type := by
  rw [assertTransportEnvelopeMatchesMessage] at h
  split at h
  · cases h
  split at h
  · cases h
  split at h
  · cases h
  split at h
  · cases h
  · rename_i hrouting hid hmetadata
    rw [not_or, ne_eq, ne_eq, not_not, not_not] at hrouting
    rw [not_or, ne_eq, not_not] at hmetadata
    exact ⟨hrouting.1, hrouting.2, not_not.mp hid, hmetadata.1⟩

theorem application_of_assert
    (h : assertApplicationEnvelopeMatchesMessage envelope message = .ok ()) :
    envelope.id = message.messageId ∧ envelope.sender = message.senderDid ∧
      envelope.receiver = message.receiverDid := by
  rw [assertApplicationEnvelopeMatchesMessage] at h
  split at h
  · cases h
  · rename_i hrouting
    rw [not_or, not_or, ne_eq, ne_eq, ne_eq, not_not, not_not, not_not] at hrouting
    exact hrouting

/-- An accepted payload has the type that it names. -/
theorem messageType_of_assert {payload : JsonValue} {accepted : EncryptedApplicationEnvelopePayload}
    (h : assertEncryptedApplicationEnvelopePayload payload = .ok accepted) :
    messageTypeOf payload = some accepted.messageType := by
  rw [assertEncryptedApplicationEnvelopePayload] at h
  split at h
  · split at h
    · rename_i htype _ _ _ _
      obtain rfl := Except.ok.inj h
      exact htype
    · cases h
  · cases h

/-! ### The mark -/

theorem claimedOne_of_mark {keyId claimedAt : ℕ} {key : LocalOneTimePreKeyState}
    {keys : List LocalOneTimePreKeyState}
    (hfind : keys.find? (fun key => decide (key.keyId = keyId)) = some key)
    (hunclaimed : key.claimedAt = none) :
    ClaimedOne keys (markClaimed keyId claimedAt keys) := by
  induction keys with
  | nil => cases hfind
  | cons first rest ih =>
    rw [markClaimed]
    by_cases hid : first.keyId = keyId
    · rw [List.find?_cons_of_pos (by simpa using hid)] at hfind
      obtain rfl := Option.some.inj hfind
      rw [if_pos hid]
      exact ⟨[], first, rest, claimedAt, rfl, hunclaimed, rfl⟩
    · rw [List.find?_cons_of_neg (by simpa using hid)] at hfind
      obtain ⟨before, marked, after, at', hkeys, hnone, hmarked⟩ := ih hfind
      rw [if_neg hid]
      refine ⟨first :: before, marked, after, at', ?_, hnone, ?_⟩
      · rw [hkeys]
        rfl
      · rw [hmarked]
        rfl

/-- The pre-key that a message names is the first of its id, so that is the one which is marked. -/
theorem marked_of_select {device : LocalDeviceState} {message : PreKeyMessage}
    {oneTimePreKey : Option LocalOneTimePreKeyState}
    (h : selectOneTimePreKey device message = .ok oneTimePreKey) (claimedAt : ℕ) :
    ∃ keys,
      device.markOneTimePreKey oneTimePreKey claimedAt = { device with oneTimePreKeys := keys } ∧
      (keys = device.oneTimePreKeys ∨ ClaimedOne device.oneTimePreKeys keys) := by
  rcases selectOneTimePreKey_eq_ok.mp h with ⟨_, rfl⟩ | ⟨keyId, key, _, hfind, hunclaimed, rfl⟩
  · exact ⟨device.oneTimePreKeys, rfl, Or.inl rfl⟩
  · rw [findOneTimePreKey] at hfind
    have hid : key.keyId = keyId := by simpa using List.find?_some hfind
    refine ⟨_, rfl, Or.inr ?_⟩
    rw [hid]
    exact claimedOne_of_mark hfind hunclaimed

/-! ### The two paths -/

/-- **A session message** changes the session it was decrypted on. -/
theorem received_of_session (hslots : Slotted config) {message : SessionMessage}
    (h : decryptWireMessage c amb config receiverDid now (.session message) = .ok result) :
    Received result.transport message.receiverDeviceId message.senderDid message.senderDeviceId
      config result.e2eConfig := by
  obtain ⟨session, hload, _, decrypted, hdecrypt, hstore, _⟩ :=
    decryptWireMessage_session_eq_ok.mp h
  obtain ⟨_, _, hdevice, hdid⟩ := decryptRatchetMessage_routing hdecrypt
  obtain ⟨device, hget, hconfig⟩ := storeLocalSession_eq_ok.mp hstore
  have hkey : buildLocalSessionKey message.senderDid message.senderDeviceId
      = buildLocalSessionKey decrypted.session.peerDid decrypted.session.peerDeviceId := by
    rw [hdevice, hdid]
    rw [loadLocalSession_eq] at hload
    exact hslots.key hload
  refine ⟨device, decrypted.session, device.oneTimePreKeys, hget, ?_, Or.inl rfl⟩
  rw [hconfig, LocalDeviceState.storeSession, hkey]

/-- **A first message** fills the slot of its sender and marks the pre-key it names. -/
theorem received_of_prekey (hslots : Slotted config) {message : PreKeyMessage}
    (h : decryptWireMessage c amb config receiverDid now (.prekey message) = .ok result) :
    message.receiverDid = receiverDid ∧
      Received result.transport message.receiverDeviceId message.senderDid message.senderDeviceId
        config result.e2eConfig := by
  rw [decryptWireMessage, bind_eq_ok] at h
  obtain ⟨consumed, hconsume, hresult⟩ := h
  obtain rfl := Except.ok.inj hresult
  obtain ⟨_, _, hpeer, hpeerDevice, _⟩ := consumed_session hslots.keyed hconsume
  obtain ⟨hdid, device, hget, oneTimePreKey, hselect, _, _, _, _, hstore⟩ :=
    consumeResponderPreKeyMessage_eq_ok.mp hconsume
  obtain ⟨keys, hmark, hkeys⟩ := marked_of_select hselect (now.getD amb.now)
  obtain ⟨stored, hstored, hconfig⟩ := storeLocalSession_eq_ok.mp hstore
  have hid : device.deviceId = message.receiverDeviceId := hslots.keyed _ _ hget
  dsimp only at hstored hconfig hmark hid hpeer hpeerDevice
  rw [hid, Record.get?_set_self, Option.some.injEq, hmark] at hstored
  refine ⟨hdid, device, consumed.session, keys, hget, ?_, ?_⟩
  · rw [hid, Record.set_set, ← hstored, LocalDeviceState.storeSession, hpeer, hpeerDevice]
      at hconfig
    exact hconfig
  · rcases hkeys with hsame | hclaimed
    · exact Or.inl hsame
    · exact Or.inr ⟨rfl, hclaimed⟩

end

/-! ### Both paths together -/

/-- **A decryption is authentic exactly when** the message is a first one, or the transport envelope
is addressed to the receiver. -/
theorem authentic_iff (c : Primitives) (services : EnvelopeServices) (amb : Ambient)
    (input : DecryptApplicationEnvelopeInput) (result : DecryptApplicationEnvelopeResult)
    (hslots : Slotted input.e2eConfig)
    (h : decryptApplicationEnvelope c services amb input = .ok result) :
    AuthenticDecryption services input result ↔
      messageTypeOf input.transportEnvelope.payload = some .prekey ∨
        input.transportEnvelope.receiver = input.receiverDid := by
  obtain ⟨htransport, _, payload, hpayload, message, _, hmatches, decrypted, hdecrypt,
    applicationEnvelope, _, happlication, hsigned, rfl⟩ :=
    decryptApplicationEnvelope_eq_ok_iff.mp h
  obtain ⟨hsender, hreceiver, hid, htype⟩ := transport_of_assert hmatches
  obtain ⟨hid', hsender', hreceiver'⟩ := application_of_assert happlication
  have hpath : Received decrypted.transport message.receiverDeviceId message.senderDid
      message.senderDeviceId input.e2eConfig decrypted.e2eConfig ∧
      (message.type = .prekey → message.receiverDid = input.receiverDid) := by
    cases message with
    | prekey message =>
      obtain ⟨hdid, hreceived⟩ := received_of_prekey hslots hdecrypt
      exact ⟨hreceived, fun _ => hdid⟩
    | session message =>
      exact ⟨received_of_session hslots hdecrypt, fun habsurd => by cases habsurd⟩
  constructor
  · intro hauthentic
    exact Or.inr hauthentic.addressed
  · intro hcondition
    have haddressed : input.transportEnvelope.receiver = input.receiverDid := by
      rcases hcondition with hprekey | haddressed
      · rw [messageType_of_assert hpayload, Option.some.injEq, htype] at hprekey
        rw [hreceiver, hpath.2 hprekey]
      · exact haddressed
    exact
      { id := hid'.trans hid.symm
        sender := hsender'.trans hsender.symm
        receiver := hreceiver'.trans hreceiver.symm
        addressed := haddressed
        transportSigned := signed_of_assert htransport
        applicationSigned := signed_of_assert hsigned
        config := hsender ▸ hpath.1 }

/-! ### The configurations of a device -/

/-- **Every step of a device** keeps the sessions in their slots. -/
theorem Slotted.step {c : Primitives} {did : String} {signingPrivateKey : Bytes}
    {config config' : LocalE2EConfig} {event : DeviceEvent} (h : Slotted config)
    (hstep : DeviceStep c did signingPrivateKey config event config') : Slotted config' := by
  cases hstep with
  | refuse _ => exact h
  | @consume amb message now result hconsume =>
    have hdecrypt : decryptWireMessage c amb config did now (.prekey message)
        = .ok ⟨result.plaintext, result.e2eConfig, .prekey, false⟩ := by
      rw [decryptWireMessage, hconsume, ok_bind]
    exact h.decrypt hdecrypt
  | receive hreceive => exact h.decrypt hreceive
  | send _ _ hstore => exact h.store hstore
  | initiate hinput hbuild =>
    obtain ⟨_, _, _, _, _, _, hstore⟩ := buildInitiatorPreKeyMessage_eq_ok.mp hbuild
    rw [hinput] at hstore
    exact h.store hstore
  | @resupply _ amb deviceId _ hresupply =>
    obtain ⟨existing, hfound, rfl⟩ := resupplyLocalDeviceOneTimePreKeys_eq_ok.mp hresupply
    refine ⟨Keyed.set h.keyed (h.keyed deviceId existing hfound), fun {slot found} hat => ?_⟩
    rw [sessionAt_set_of_sessions hfound (by exact rfl)] at hat
    exact h.key hat
  | @rotate _ amb deviceId _ hrotate =>
    obtain ⟨existing, hfound, rfl⟩ := rotateLocalDeviceSignedPreKey_eq_ok.mp hrotate
    refine ⟨Keyed.set h.keyed (h.keyed deviceId existing hfound), fun {slot found} hat => ?_⟩
    rw [sessionAt_set_of_sessions hfound (by exact rfl)] at hat
    exact h.key hat

/-! ### A message on the session with Bob -/

/-- Alice's first message to Bob. -/
def greetingBuild : BuildInitiatorPreKeyMessageInput :=
  sampleBuild aliceConfig "did:agent:zAlice" "did:agent:zBob" bobDevice true [1]

@[irreducible] def greeting : BuildInitiatorPreKeyMessageResult :=
  valueOf (buildInitiatorPreKeyMessage sample (sampleAmbient 90 2000) greetingBuild)
    (by decide +kernel)

def greetedInput : ConsumeResponderPreKeyMessageInput where
  e2eConfig := bobConfig
  receiverDid := "did:agent:zBob"
  message := greeting.message

@[irreducible] def greeted : ConsumeResponderPreKeyMessageResult :=
  valueOf (consumeResponderPreKeyMessage sample (sampleAmbient 91 2001) greetedInput)
    (by decide +kernel)

theorem greeted_slotted : Slotted greeted.e2eConfig := by
  have hgreeted : consumeResponderPreKeyMessage sample (sampleAmbient 91 2001) greetedInput
      = .ok greeted := by
    unfold greeted
    exact eq_ok_valueOf _ _
  exact bobConfig_slotted.step (@DeviceStep.consume _ _ [] _ _ _ _ _ hgreeted)

/-- What Alice signs for an agent. -/
def signedFor (receiver : String) : MessageEnvelope :=
  { messageForCarol with receiver := receiver, payload := .string "hello" }

/-- Alice seals it on her session with Bob. -/
def sealFor (receiver : String) : Except EncryptionError RatchetEncryptResult :=
  encryptRatchetMessage sample (sampleAmbient 92 3000)
    { session := greeting.session
      plaintext := [7]
      senderDid := "did:agent:zAlice"
      receiverDid := receiver
      messageId := some "m1" }

@[irreducible] def sealedForBob : SessionMessage :=
  (valueOf (sealFor "did:agent:zBob") (by decide +kernel)).message

@[irreducible] def sealedForCarol : SessionMessage :=
  (valueOf (sealFor "did:agent:zCarol") (by decide +kernel)).message

/-- The primitives that read the wire form of one message. -/
def readingOf (message : SessionMessage) : Primitives :=
  { sample with
    decodeCBOR := fun _ => some (.map
      (sessionMessageFields message.toSessionMessageHeader
        ++ [("ciphertext", .bytes message.ciphertext)])) }

/-- The services that read one signed envelope. -/
def openingOf (receiver : String) : EnvelopeServices :=
  { namedServices with parseJson := fun _ => some (signedFor receiver).toJson }

/-- Bob is handed a sealed message. -/
def handedToBob (message : SessionMessage) : DecryptApplicationEnvelopeInput where
  e2eConfig := greeted.e2eConfig
  receiverDid := "did:agent:zBob"
  transportEnvelope :=
    { messageForCarol with
      receiver := message.receiverDid
      protocol := E2E_APPLICATION_ENVELOPE_PROTOCOL
      payload := (buildEncryptedApplicationEnvelopePayload (.session message) []).toJson }

theorem openedForBob : (decryptApplicationEnvelope (readingOf sealedForBob)
    (openingOf "did:agent:zBob") (sampleAmbient 93 4000) (handedToBob sealedForBob)).isOk
      = true := by
  decide +kernel

theorem openedForCarol : (decryptApplicationEnvelope (readingOf sealedForCarol)
    (openingOf "did:agent:zCarol") (sampleAmbient 93 4000) (handedToBob sealedForCarol)).isOk
      = true := by
  decide +kernel

/-- What Bob decrypts of the message for him is authentic. -/
theorem authentic_iff_sample :
    AuthenticDecryption (openingOf "did:agent:zBob") (handedToBob sealedForBob)
      (valueOf _ openedForBob) :=
  (authentic_iff (readingOf sealedForBob) _ (sampleAmbient 93 4000) _ _ greeted_slotted
    (eq_ok_valueOf _ openedForBob)).mpr (Or.inr (by decide +kernel))

/-- **Bob decrypts a message for Carol**, which Alice has sealed on her session with him. -/
theorem decrypted_for_another :
    ∃ result, decryptApplicationEnvelope (readingOf sealedForCarol) (openingOf "did:agent:zCarol")
        (sampleAmbient 93 4000) (handedToBob sealedForCarol) = .ok result ∧
      result.applicationEnvelope.receiver ≠ (handedToBob sealedForCarol).receiverDid ∧
      ¬AuthenticDecryption (openingOf "did:agent:zCarol") (handedToBob sealedForCarol) result := by
  refine ⟨valueOf _ openedForCarol, eq_ok_valueOf _ openedForCarol, by decide +kernel, fun h => ?_⟩
  exact absurd h.addressed (by decide +kernel)

end QuadraA.Runtime
