import QuadraA.Relay.PreKeyLifecycle

/-!
# First messages from bundles that the relay handed out

A sender builds its first message from a bundle that the relay read from an earlier publication.
Whether the device still accepts it depends on what the device has done to its keys since.

* `accepted_from_relay` — such a message is accepted and opens to the sender's plaintext, and one
  to a signed pre-key that has been rotated since is refused;
* `refused_after_rotation` — a run in which the signed pre-key is rotated while a message is under
  way;
* `claims_go_forward` — no claim is given an older signed pre-key than the claims before it.
-/

namespace QuadraA.Relay

open QuadraA.Lib QuadraA.E2E

/-! ### Key material -/

def keyPairOf (pair : LocalDeviceKeyPair) : X25519KeyPair where
  publicKey := hexToBytes pair.publicKey
  privateKey := hexToBytes pair.privateKey

/-- A one-time pre-key without its mark. -/
def forgetClaim (key : LocalOneTimePreKeyState) : LocalOneTimePreKeyState :=
  { key with claimedAt := none }

/-- **A device with usable keys**: every pair is a generated one, and the one-time pre-keys have
distinct ids. -/
structure ValidKeys (c : Primitives) (device : LocalDeviceState) : Prop where
  identityKey : IsKeyPair c (keyPairOf device.identityKey)
  signedPreKey : IsKeyPair c (keyPairOf device.signedPreKey.toLocalDeviceKeyPair)
  oneTimePreKey : ∀ key ∈ device.oneTimePreKeys, IsKeyPair c (keyPairOf key.toLocalDeviceKeyPair)
  keyIds : (device.oneTimePreKeys.map fun key => key.keyId).Nodup

/-- The second device holds the keys of the first one, whatever it has marked. -/
structure SameKeys (device device' : LocalDeviceState) : Prop where
  deviceId : device'.deviceId = device.deviceId
  identityKey : device'.identityKey = device.identityKey
  signedPreKey : device'.signedPreKey = device.signedPreKey
  oneTimePreKeys : device'.oneTimePreKeys.map forgetClaim = device.oneTimePreKeys.map forgetClaim

theorem SameKeys.refl (device : LocalDeviceState) : SameKeys device device := ⟨rfl, rfl, rfl, rfl⟩

variable {device device' : LocalDeviceState} {c : Primitives} {signingPrivateKey : Bytes}
  {config : LocalE2EConfig} {deviceId : String} {event : DeviceEvent}

theorem SameKeys.trans {device'' : LocalDeviceState} (h : SameKeys device device')
    (h' : SameKeys device' device'') : SameKeys device device'' :=
  ⟨h'.deviceId.trans h.deviceId, h'.identityKey.trans h.identityKey,
    h'.signedPreKey.trans h.signedPreKey, h'.oneTimePreKeys.trans h.oneTimePreKeys⟩

/-- A key of the later device is a key of the earlier one. -/
theorem SameKeys.mem (h : SameKeys device device') {key : LocalOneTimePreKeyState}
    (hkey : key ∈ device'.oneTimePreKeys) :
    ∃ stored ∈ device.oneTimePreKeys, stored.keyId = key.keyId ∧
      stored.toLocalDeviceKeyPair = key.toLocalDeviceKeyPair := by
  have hmem : forgetClaim key ∈ device.oneTimePreKeys.map forgetClaim := by
    rw [← h.oneTimePreKeys]
    exact List.mem_map_of_mem hkey
  obtain ⟨stored, hstored, hsame⟩ := List.mem_map.mp hmem
  have hid := congrArg LocalOneTimePreKeyState.keyId hsame
  have hpair := congrArg LocalOneTimePreKeyState.toLocalDeviceKeyPair hsame
  exact ⟨stored, hstored, hid, hpair⟩

theorem SameKeys.symm (h : SameKeys device device') : SameKeys device' device :=
  ⟨h.deviceId.symm, h.identityKey.symm, h.signedPreKey.symm, h.oneTimePreKeys.symm⟩

theorem map_forgetClaim_markClaimed (keyId now : ℕ) (keys : List LocalOneTimePreKeyState) :
    (markClaimed keyId now keys).map forgetClaim = keys.map forgetClaim := by
  induction keys with
  | nil => rfl
  | cons key rest ih =>
    rw [markClaimed]
    split
    · rfl
    · rw [List.map_cons, ih, List.map_cons]

/-- **Only maintenance replaces keys.** -/
theorem sameKeys_of_change
    (hchange : DeviceChange c signingPrivateKey config deviceId device event device')
    (hmaintains : ¬event.Maintains deviceId) : SameKeys device device' := by
  cases hchange with
  | sessions _ hsame =>
    rw [hsame]
    exact ⟨rfl, rfl, rfl, rfl⟩
  | claim _ _ _ _ hsame =>
    rw [hsame]
    exact ⟨rfl, rfl, rfl, map_forgetClaim_markClaimed _ _ _⟩
  | resupply _ => exact absurd (Or.inl rfl) hmaintains
  | rotate _ => exact absurd (Or.inr rfl) hmaintains

theorem ValidKeys.of_same (hvalid : ValidKeys c device) (h : SameKeys device device') :
    ValidKeys c device' := by
  refine ⟨by rw [h.identityKey]; exact hvalid.identityKey,
    by rw [h.signedPreKey]; exact hvalid.signedPreKey, ?_, ?_⟩
  · intro key hkey
    obtain ⟨stored, hstored, _, hpair⟩ := h.mem hkey
    rw [← hpair]
    exact hvalid.oneTimePreKey stored hstored
  · have hids (keys : List LocalOneTimePreKeyState) :
        keys.map (fun key => key.keyId)
          = (keys.map forgetClaim).map fun key => key.keyId := by
      rw [List.map_map]
      rfl
    rw [hids, h.oneTimePreKeys, ← hids]
    exact hvalid.keyIds

/-- A fresh batch of one-time pre-keys. -/
theorem buildOneTimePreKeys_valid {amb : DeviceAmbient} (hamb : amb.Generated c)
    (count createdAt : ℕ) :
    (∀ key ∈ buildOneTimePreKeys amb count createdAt,
      IsKeyPair c (keyPairOf key.toLocalDeviceKeyPair)) ∧
    ((buildOneTimePreKeys amb count createdAt).map fun key => key.keyId).Nodup := by
  constructor
  · intro key hkey
    obtain ⟨index, _, rfl⟩ := List.mem_map.mp hkey
    exact hamb.oneTimePreKeyPair index
  · rw [buildOneTimePreKeys, List.map_map]
    exact List.nodup_range.map fun a b h => Nat.succ.inj h

/-- **Every step keeps the keys usable.** -/
theorem ValidKeys.change (hvalid : ValidKeys c device)
    (hchange : DeviceChange c signingPrivateKey config deviceId device event device') :
    ValidKeys c device' := by
  by_cases hmaintains : event.Maintains deviceId
  · cases hchange with
    | sessions _ hsame =>
      rw [hsame]
      exact hvalid.of_same ⟨rfl, rfl, rfl, rfl⟩
    | claim _ _ _ _ hsame =>
      rw [hsame]
      exact hvalid.of_same ⟨rfl, rfl, rfl, map_forgetClaim_markClaimed _ _ _⟩
    | resupply hamb =>
      obtain ⟨hpairs, hids⟩ := buildOneTimePreKeys_valid hamb _ _
      exact ⟨hvalid.identityKey, hvalid.signedPreKey, hpairs, hids⟩
    | rotate hamb =>
      obtain ⟨hpairs, hids⟩ := buildOneTimePreKeys_valid hamb _ _
      exact ⟨hvalid.identityKey, hamb.signedPreKeyPair, hpairs, hids⟩
  · exact hvalid.of_same (sameKeys_of_change hchange hmaintains)

/-- Signed pre-key ids only grow, and a rotation makes them grow. -/
theorem signedPreKeyId_of_change (hdevice : config.devices.get? deviceId = some device)
    (hchange : DeviceChange c signingPrivateKey config deviceId device event device') :
    device.signedPreKey.signedPreKeyId ≤ device'.signedPreKey.signedPreKeyId ∧
      (event = .rotate deviceId →
        device.signedPreKey.signedPreKeyId < device'.signedPreKey.signedPreKeyId) := by
  by_cases hrotate : event = .rotate deviceId
  · subst hrotate
    cases hchange with
    | sessions hmaintains _ => exact absurd (Or.inr rfl) hmaintains
    | rotate _ =>
      have hlt : device.signedPreKey.signedPreKeyId < nextSignedPreKeyId config none :=
        lt_nextSignedPreKeyId hdevice
      exact ⟨Nat.le_of_lt hlt, fun _ => hlt⟩
  · refine ⟨Nat.le_of_eq ?_, fun h => absurd h hrotate⟩
    cases hchange with
    | sessions _ hsame => rw [hsame]
    | claim _ _ _ _ hsame => rw [hsame]
    | resupply _ => rfl
    | rotate _ => exact absurd rfl hrotate

/-! ### Bundles -/

/-- The directory entry and the one-time pre-keys are those of the device. -/
structure Lists (device : LocalDeviceState) (entry : PublishedDeviceDirectoryEntry)
    (keys : List PublishedOneTimePreKey) : Prop where
  deviceId : entry.deviceId = device.deviceId
  identityKeyPublic : entry.identityKeyPublic = device.identityKey.publicKey
  signedPreKeyPublic : entry.signedPreKeyPublic = device.signedPreKey.publicKey
  signedPreKeyId : entry.signedPreKeyId = device.signedPreKey.signedPreKeyId
  keys : ∀ key ∈ keys, ∃ stored ∈ device.oneTimePreKeys,
    stored.keyId = key.keyId ∧ stored.publicKey = key.publicKey

/-- A bundle of the later device lists keys of the earlier one. -/
theorem Lists.of_same (hsame : SameKeys device device') {entry : PublishedDeviceDirectoryEntry}
    {keys : List PublishedOneTimePreKey} (h : Lists device' entry keys) :
    Lists device entry keys := by
  refine ⟨h.deviceId.trans hsame.deviceId, ?_, ?_, ?_, ?_⟩
  · rw [h.identityKeyPublic, hsame.identityKey]
  · rw [h.signedPreKeyPublic, hsame.signedPreKey]
  · rw [h.signedPreKeyId, hsame.signedPreKey]
  · intro key hkey
    obtain ⟨key', hkey', hid, hpublic⟩ := h.keys key hkey
    obtain ⟨stored, hstored, hid', hpair⟩ := hsame.mem hkey'
    exact ⟨stored, hstored, hid'.trans hid,
      (congrArg LocalDeviceKeyPair.publicKey hpair).trans hpublic⟩

/-- **A publication lists keys of the device.** -/
theorem lists_published (device : LocalDeviceState) (did realm : String) (now : ℕ) :
    Lists device
      (storedRecord did realm now
        (normalizeBundle (buildPublishedPreKeyBundle device))).toPublishedDeviceDirectoryEntry
      (storedRecord did realm now
        (normalizeBundle (buildPublishedPreKeyBundle device))).oneTimePreKeys := by
  refine ⟨rfl, rfl, rfl, rfl, ?_⟩
  intro key hkey
  obtain ⟨stored, hstored, rfl⟩ := List.mem_map.mp ((published_subperm device).subset hkey)
  exact ⟨stored, (List.mem_filter.mp hstored).1, rfl, rfl⟩

/-! ### One delivery -/

/-- The key that carries an id is found under it, when ids are distinct. -/
theorem find?_of_nodup {keys : List LocalOneTimePreKeyState}
    (hids : (keys.map fun key => key.keyId).Nodup) {key : LocalOneTimePreKeyState}
    (hkey : key ∈ keys) : keys.find? (fun other => other.keyId = key.keyId) = some key := by
  induction keys with
  | nil => exact absurd hkey List.not_mem_nil
  | cons first rest ih =>
    rw [List.map_cons, List.nodup_cons] at hids
    rcases List.mem_cons.mp hkey with rfl | hrest
    · simp
    · have hne : first.keyId ≠ key.keyId := by
        intro hsame
        rw [hsame] at hids
        exact hids.1 (List.mem_map_of_mem hrest)
      rw [List.find?_cons_of_neg (by simpa using hne)]
      exact ih hids.2 hrest

/-- The one-time pre-key of a message from a bundle that lists the device's keys is found. -/
theorem selectOneTimePreKey_of_lists (hvalid : ValidKeys c device)
    {entry : PublishedDeviceDirectoryEntry} {oneTimePreKey : Option PublishedOneTimePreKey}
    (hlists : Lists device entry oneTimePreKey.toList) {message : PreKeyMessage}
    (hid : message.recipientOneTimePreKeyId = oneTimePreKey.map fun key => key.keyId)
    (hfree : ∀ keyId key, message.recipientOneTimePreKeyId = some keyId →
      findOneTimePreKey device keyId = some key → key.claimedAt = none) :
    ∃ selected, selectOneTimePreKey device message = .ok selected ∧
      (oneTimePreKey.map fun key => hexToBytes key.publicKey)
        = selected.map (fun key => hexToBytes key.publicKey) ∧
      ∀ key, selected = some key → key ∈ device.oneTimePreKeys := by
  cases oneTimePreKey with
  | none => exact ⟨none, selectOneTimePreKey_eq_ok.mpr (Or.inl ⟨hid, rfl⟩), rfl, by simp⟩
  | some key =>
    obtain ⟨stored, hstored, hkeyId, hpublic⟩ := hlists.keys key (by simp)
    have hfind : findOneTimePreKey device key.keyId = some stored := by
      rw [← hkeyId]
      exact find?_of_nodup hvalid.keyIds hstored
    refine ⟨some stored, selectOneTimePreKey_eq_ok.mpr (Or.inr ⟨key.keyId, stored, hid, hfind,
      hfree key.keyId stored hid hfind, rfl⟩), by rw [Option.map_some, Option.map_some, hpublic],
      ?_⟩
    intro selected hselected
    rw [Option.some.injEq] at hselected
    rw [← hselected]
    exact hstored

/-- **A first message from a bundle that lists the device's keys** is accepted, as long as the
one-time pre-key it names is unclaimed. -/
theorem consume_of_lists (hc : c.Lawful) (hkeyed : config.Keyed)
    (hdevice : config.devices.get? deviceId = some device) (hvalid : ValidKeys c device)
    {amb : Ambient} {input : BuildInitiatorPreKeyMessageInput}
    {built : BuildInitiatorPreKeyMessageResult}
    (hlists : Lists device input.claimedBundle.toPublishedDeviceDirectoryEntry
      input.claimedBundle.oneTimePreKey.toList)
    (hsender : ∀ sender, getCurrentDeviceState input.e2eConfig = .ok sender →
      IsKeyPair c (keyPairOf sender.identityKey))
    (hephemeral : IsKeyPair c (input.ephemeralKeyPair.getD amb.keyPair))
    (hbuild : buildInitiatorPreKeyMessage c amb input = .ok built)
    (hfree : ∀ keyId key, built.message.recipientOneTimePreKeyId = some keyId →
      findOneTimePreKey device keyId = some key → key.claimedAt = none) (amb' : Ambient)
    (now : Option ℕ) :
    ∃ result, consumeResponderPreKeyMessage c amb'
        { e2eConfig := config, receiverDid := input.receiverDid, message := built.message,
          now := now } = .ok result ∧ result.plaintext = input.plaintext := by
  obtain ⟨⟨header, ciphertext⟩, _, _, sharedSecret⟩ := built
  obtain ⟨_, sender, hcurrent, hsecret, hseal, hsession, _⟩ :=
    buildInitiatorPreKeyMessage_eq_ok.mp hbuild
  have hheader : header = initiatorMessageHeader amb input sender
      (input.ephemeralKeyPair.getD amb.keyPair) := (encryptPreKeyMessage_eq_ok.mp hseal).1
  subst hheader
  have hopen := decryptPreKeyMessage_encryptPreKeyMessage hc hseal
  obtain ⟨dhOutput, hdh, _⟩ := createInitiatorRatchetSession_eq_ok.mp hsession
  obtain ⟨selected, hselected, hpublic, hmem⟩ := selectOneTimePreKey_of_lists hvalid hlists rfl hfree
  -- the two ends feed one handshake
  let ephemeral := input.ephemeralKeyPair.getD amb.keyPair
  let keys : HandshakeKeys :=
    { initiatorIdentity := keyPairOf sender.identityKey
      initiatorEphemeral := ephemeral
      recipientIdentity := keyPairOf device.identityKey
      recipientSignedPreKey := keyPairOf device.signedPreKey.toLocalDeviceKeyPair
      recipientOneTimePreKey := selected.map fun key => keyPairOf key.toLocalDeviceKeyPair }
  have hkeys : keys.Valid c := by
    refine ⟨hsender sender hcurrent, hephemeral, hvalid.identityKey, hvalid.signedPreKey, ?_⟩
    intro pair hpair
    obtain ⟨key, hkey, rfl⟩ := Option.map_eq_some_iff.mp hpair
    exact hvalid.oneTimePreKey key (hmem key hkey)
  have hinitiator : initiatorX3dhInput input sender ephemeral = keys.initiatorInput := by
    rw [initiatorX3dhInput, HandshakeKeys.initiatorInput, hlists.identityKeyPublic,
      hlists.signedPreKeyPublic, hpublic, Option.map_map]
    rfl
  rw [hinitiator, deriveX3dhSharedSecret_agree hc hkeys] at hsecret
  have hagree : diffieHellmanX25519 c (hexToBytes device.signedPreKey.privateKey)
      ephemeral.publicKey = .ok dhOutput := by
    have hcomm := diffieHellmanX25519_comm hc hephemeral hvalid.signedPreKey
    simp only [initiatorSessionInput, hlists.signedPreKeyPublic] at hdh
    exact hcomm.symm.trans hdh
  let message : PreKeyMessage := ⟨initiatorMessageHeader amb input sender ephemeral, ciphertext⟩
  have hresponder : responderX3dhInput message device selected = keys.responderInput := by
    rw [responderX3dhInput, HandshakeKeys.responderInput, Option.map_map]
    rfl
  rw [← hresponder] at hsecret
  have hself : input.claimedBundle.deviceId = deviceId := by
    rw [hlists.deviceId]
    exact hkeyed deviceId device hdevice
  subst hself
  let session := createRatchetSession
    (responderSessionInput message device sharedSecret (now.getD amb'.now))
    (deriveRootAndChainKeys c sharedSecret dhOutput).rootKey none
    (some (bytesToHex (deriveRootAndChainKeys c sharedSecret dhOutput).chainKey))
  obtain ⟨next, hstore⟩ : ∃ next, storeLocalSession
      { config with
        devices := config.devices.set input.claimedBundle.deviceId
          (device.markOneTimePreKey selected (now.getD amb'.now)) }
      device.deviceId session = .ok next := by
    rw [hkeyed _ device hdevice]
    exact ⟨_, storeLocalSession_eq_ok.mpr ⟨_, Record.get?_set_self .., rfl⟩⟩
  exact ⟨⟨input.plaintext, session, next, sharedSecret⟩,
    consumeResponderPreKeyMessage_eq_ok.mpr ⟨rfl, device, hdevice, selected, hselected,
      hlists.signedPreKeyId, hsecret, hopen,
      createResponderRatchetSession_eq_ok.mpr ⟨dhOutput, hagree, rfl⟩, hstore⟩, rfl⟩

/-! ### Runs -/

section

variable {c : Primitives} {did deviceId : String} {signingPrivateKey : Bytes}

variable {s s' : LifecycleState} {event : LifecycleEvent} {device : LocalDeviceState}
  {events : List LifecycleEvent}

/-- **One step, one device**, on the agent's side. -/
theorem LifecycleStep.device_cases (hstep : LifecycleStep c did signingPrivateKey s event s')
    (hdevice : s.config.devices.get? deviceId = some device) :
    ∃ device', s'.config.devices.get? deviceId = some device' ∧
      (((∀ change, event ≠ .device change) ∧ device' = device) ∨
        ∃ change, event = .device change ∧
          DeviceChange c signingPrivateKey s.config deviceId device change device') := by
  cases hstep with
  | publish => exact ⟨device, hdevice, Or.inl ⟨fun _ h => (by cases h), rfl⟩⟩
  | claim _ => exact ⟨device, hdevice, Or.inl ⟨fun _ h => (by cases h), rfl⟩⟩
  | device hchange =>
    obtain ⟨device', hdevice', hcases⟩ := hchange.device hdevice
    exact ⟨device', hdevice', Or.inr ⟨_, rfl, hcases⟩⟩

theorem LifecycleStep.keyed (hstep : LifecycleStep c did signingPrivateKey s event s')
    (hkeyed : s.config.Keyed) : s'.config.Keyed := by
  cases hstep with
  | publish => exact hkeyed
  | claim _ => exact hkeyed
  | device hchange => exact hchange.keyed hkeyed

/-- What the relay holds for the device is listed by some device that meets `I`. -/
def StoredFrom (did deviceId : String) (I : LocalDeviceState → Prop) (db : PreKeyStore) : Prop :=
  ∀ record, db.get? (bundleKey did deviceId) = some record →
    ∃ device, I device ∧
      Lists device record.toPublishedDeviceDirectoryEntry record.oneTimePreKeys

/-- **One step, on the relay's side**: what it holds and what it hands out was published by a
device that meets `I`, if the current one does. -/
theorem StoredFrom.step {I : LocalDeviceState → Prop} (hstored : StoredFrom did deviceId I s.db)
    (hkeyed : s.config.Keyed) (hdevice : s.config.devices.get? deviceId = some device)
    (hcurrent : I device) (hstep : LifecycleStep c did signingPrivateKey s event s') :
    StoredFrom did deviceId I s'.db ∧
      ∀ bundle, event = .claim deviceId (some bundle) →
        ∃ device, I device ∧
          Lists device bundle.toPublishedDeviceDirectoryEntry bundle.oneTimePreKey.toList := by
  cases hstep with
  | publish =>
    refine ⟨?_, fun _ h => by cases h⟩
    intro record hrecord
    simp only [get?_published hkeyed hdevice, Option.some.injEq] at hrecord
    rw [← hrecord]
    exact ⟨device, hcurrent, lists_published device _ _ _⟩
  | device _ => exact ⟨hstored, fun _ h => by cases h⟩
  | @claim id _ _ bundle db hclaim =>
    cases bundle with
    | none =>
      rw [claimBundle_eq_none hclaim]
      exact ⟨hstored, fun _ h => by cases h⟩
    | some bundle =>
      obtain ⟨stored, next, hfound, hid, hidentity, hsigned, hsignedId, hhead, rfl, hnext⟩ :=
        claimBundle_eq_some hclaim
      by_cases hsame : id = deviceId
      · subst hsame
        obtain ⟨owner, howner, hlists⟩ := hstored stored hfound
        constructor
        · intro record hrecord
          simp only [Record.get?_set_self, Option.some.injEq] at hrecord
          rw [← hrecord, hnext]
          exact ⟨owner, howner, hlists.deviceId, hlists.identityKeyPublic,
            hlists.signedPreKeyPublic, hlists.signedPreKeyId,
            fun key hkey => hlists.keys key (List.mem_of_mem_tail hkey)⟩
        · intro handed hhanded
          obtain ⟨rfl⟩ : bundle = handed := by simpa using hhanded
          refine ⟨owner, howner, hid.trans hlists.deviceId,
            hidentity.trans hlists.identityKeyPublic, hsigned.trans hlists.signedPreKeyPublic,
            hsignedId.trans hlists.signedPreKeyId, ?_⟩
          intro key hkey
          rw [hhead] at hkey
          exact hlists.keys key (List.mem_of_mem_head? (Option.mem_toList.mp hkey))
      · constructor
        · intro record hrecord
          have hne : bundleKey did id ≠ bundleKey did deviceId :=
            fun h => hsame (bundleKey_inj.mp h)
          simp only [Record.get?_set_ne _ _ hne] at hrecord
          exact hstored record hrecord
        · intro handed hhanded
          obtain ⟨hid, _⟩ := hhanded
          exact absurd rfl hsame

/-- **From a publication on, without maintenance**: the device holds the keys it held, and every
bundle handed out lists keys of it. -/
theorem lists_of_run (hkeyed : s.config.Keyed)
    (hdevice : s.config.devices.get? deviceId = some device)
    (hstored : StoredFrom did deviceId (SameKeys device) s.db)
    (hquiet : ∀ change, .device change ∈ events → ¬change.Maintains deviceId)
    (hrun : Trace (LifecycleStep c did signingPrivateKey) s events s') :
    s'.config.Keyed ∧
      (∃ device', s'.config.devices.get? deviceId = some device' ∧ SameKeys device device') ∧
      StoredFrom did deviceId (SameKeys device) s'.db ∧
      ∀ bundle, .claim deviceId (some bundle) ∈ events →
        Lists device bundle.toPublishedDeviceDirectoryEntry bundle.oneTimePreKey.toList := by
  induction hrun with
  | nil =>
    exact ⟨hkeyed, ⟨device, hdevice, .refl device⟩, hstored, fun _ h => absurd h List.not_mem_nil⟩
  | @snoc events t u event _ hstep ih =>
    obtain ⟨hkeyed, ⟨current, hcurrent, hsame⟩, hstored, hlisted⟩ :=
      ih fun change h => hquiet change (List.mem_append_left _ h)
    obtain ⟨next, hnext, hcases⟩ := hstep.device_cases hcurrent
    have hsame' : SameKeys device next := by
      rcases hcases with ⟨_, rfl⟩ | ⟨change, rfl, hchange⟩
      · exact hsame
      · exact hsame.trans (sameKeys_of_change hchange (hquiet change (by simp)))
    obtain ⟨hstored', hhanded⟩ := hstored.step hkeyed hcurrent hsame hstep
    refine ⟨hstep.keyed hkeyed, ⟨next, hnext, hsame'⟩, hstored', ?_⟩
    intro bundle hbundle
    rcases List.mem_append.mp hbundle with hold | hnew
    · exact hlisted bundle hold
    · obtain ⟨owner, howner, hlists⟩ := hhanded bundle (List.mem_singleton.mp hnew).symm
      exact hlists.of_same howner

/-- **Signed pre-key ids along a run.** -/
theorem signedPreKeyId_of_run (hdevice : s.config.devices.get? deviceId = some device)
    (hrun : Trace (LifecycleStep c did signingPrivateKey) s events s') :
    ∃ device', s'.config.devices.get? deviceId = some device' ∧
      device.signedPreKey.signedPreKeyId ≤ device'.signedPreKey.signedPreKeyId ∧
      (.device (.rotate deviceId) ∈ events →
        device.signedPreKey.signedPreKeyId < device'.signedPreKey.signedPreKeyId) := by
  induction hrun with
  | nil => exact ⟨device, hdevice, Nat.le_refl _, fun h => absurd h List.not_mem_nil⟩
  | @snoc events t u event _ hstep ih =>
    obtain ⟨current, hcurrent, hle, hrotated⟩ := ih
    obtain ⟨next, hnext, hcases⟩ := hstep.device_cases hcurrent
    refine ⟨next, hnext, ?_⟩
    rcases hcases with ⟨hother, rfl⟩ | ⟨change, rfl, hchange⟩
    · refine ⟨hle, fun hrotate => ?_⟩
      rcases List.mem_append.mp hrotate with hold | hnew
      · exact hrotated hold
      · exact absurd (List.mem_singleton.mp hnew).symm (hother _)
    · obtain ⟨hgrow, hlt⟩ := signedPreKeyId_of_change hcurrent hchange
      refine ⟨Nat.le_trans hle hgrow, fun hrotate => ?_⟩
      rcases List.mem_append.mp hrotate with hold | hnew
      · exact Nat.lt_of_lt_of_le (hrotated hold) hgrow
      · refine Nat.lt_of_le_of_lt hle (hlt ?_)
        exact (LifecycleEvent.device.inj (List.mem_singleton.mp hnew)).symm

/-- **Every run keeps the keys usable**, and no bundle is ahead of the device's signed pre-key. -/
theorem usable_of_run {start : LifecycleState} (hkeyed : start.config.Keyed)
    (hdevice : start.config.devices.get? deviceId = some device) (hvalid : ValidKeys c device)
    (hempty : start.db.get? (bundleKey did deviceId) = none)
    (hrun : Trace (LifecycleStep c did signingPrivateKey) start events s) :
    s.config.Keyed ∧ ∃ device', s.config.devices.get? deviceId = some device' ∧
      ValidKeys c device' ∧
      StoredFrom did deviceId
        (fun owner => owner.deviceId = deviceId ∧
          owner.signedPreKey.signedPreKeyId ≤ device'.signedPreKey.signedPreKeyId) s.db ∧
      ∀ bundle, .claim deviceId (some bundle) ∈ events → bundle.deviceId = deviceId ∧
        bundle.signedPreKeyId ≤ device'.signedPreKey.signedPreKeyId := by
  induction hrun with
  | nil =>
    refine ⟨hkeyed, device, hdevice, hvalid, ?_, fun _ h => absurd h List.not_mem_nil⟩
    intro record hrecord
    rw [hempty] at hrecord
    cases hrecord
  | @snoc events t u event _ hstep ih =>
    obtain ⟨hkeyed, current, hcurrent, hvalid, hstored, hbound⟩ := ih
    obtain ⟨next, hnext, hcases⟩ := hstep.device_cases hcurrent
    obtain ⟨hgrow, hvalid'⟩ : current.signedPreKey.signedPreKeyId
        ≤ next.signedPreKey.signedPreKeyId ∧ ValidKeys c next := by
      rcases hcases with ⟨_, rfl⟩ | ⟨change, _, hchange⟩
      · exact ⟨Nat.le_refl _, hvalid⟩
      · exact ⟨(signedPreKeyId_of_change hcurrent hchange).1, hvalid.change hchange⟩
    obtain ⟨hstored', hhanded⟩ := hstored.step hkeyed hcurrent
      ⟨hkeyed deviceId current hcurrent, Nat.le_refl _⟩ hstep
    refine ⟨hstep.keyed hkeyed, next, hnext, hvalid', ?_, ?_⟩
    · intro record hrecord
      obtain ⟨owner, ⟨hid, hle⟩, hlists⟩ := hstored' record hrecord
      exact ⟨owner, ⟨hid, Nat.le_trans hle hgrow⟩, hlists⟩
    · intro bundle hbundle
      rcases List.mem_append.mp hbundle with hold | hnew
      · obtain ⟨hid, hle⟩ := hbound bundle hold
        exact ⟨hid, Nat.le_trans hle hgrow⟩
      · obtain ⟨owner, ⟨hid, hle⟩, hlists⟩ :=
          hhanded bundle (List.mem_singleton.mp hnew).symm
        refine ⟨hlists.deviceId.trans hid, ?_⟩
        rw [hlists.signedPreKeyId]
        exact Nat.le_trans hle hgrow

/-- A message to a signed pre-key that the device has replaced is refused. -/
theorem consume_of_rotated {config : LocalE2EConfig} {message : PreKeyMessage}
    (hdevice : config.devices.get? message.receiverDeviceId = some device)
    (hrotated : message.recipientSignedPreKeyId ≠ device.signedPreKey.signedPreKeyId)
    (amb : Ambient) (receiverDid : String) (now : Option ℕ) :
    ∃ error, consumeResponderPreKeyMessage c amb
      { e2eConfig := config, receiverDid := receiverDid, message := message, now := now }
        = .error error := by
  rcases ok_or_error (consumeResponderPreKeyMessage c amb
      { e2eConfig := config, receiverDid := receiverDid, message := message, now := now })
    with ⟨result, h⟩ | herror
  · obtain ⟨_, receiver, hreceiver, _, _, hsigned, _⟩ := consumeResponderPreKeyMessage_eq_ok.mp h
    rw [hdevice, Option.some.injEq] at hreceiver
    subst hreceiver
    exact absurd hsigned hrotated
  · exact herror

/-- **First messages from the relay's bundles.**  In every run of publications, claims, maintenance,
sending and receiving, a message that an honest sender built from a bundle the relay handed out is
accepted and opens to the sender's plaintext, if since the publication the bundle came from no
maintenance of the device has run and no other message has consumed the one-time pre-key it names;
if the signed pre-key was rotated after the claim, it is refused. -/
theorem accepted_from_relay (hc : c.Lawful) {start s : LifecycleState}
    {events : List LifecycleEvent} (hkeyed : start.config.Keyed) {device : LocalDeviceState}
    (hdevice : start.config.devices.get? deviceId = some device) (hvalid : ValidKeys c device)
    (hempty : start.db.get? (bundleKey did deviceId) = none)
    (hrun : Trace (LifecycleStep c did signingPrivateKey) start events s)
    {amb : Ambient} {input : BuildInitiatorPreKeyMessageInput}
    {built : BuildInitiatorPreKeyMessageResult} (hreceiver : input.receiverDid = did)
    (hsender : ∀ sender, getCurrentDeviceState input.e2eConfig = .ok sender →
      IsKeyPair c (keyPairOf sender.identityKey))
    (hephemeral : IsKeyPair c (input.ephemeralKeyPair.getD amb.keyPair))
    (hbuild : buildInitiatorPreKeyMessage c amb input = .ok built) :
    (∀ before since, events = before ++ [.publish] ++ since →
      .claim deviceId (some input.claimedBundle) ∈ since →
      (∀ change, .device change ∈ since → ¬change.Maintains deviceId) →
      (∀ current keyId key, s.config.devices.get? deviceId = some current →
        built.message.recipientOneTimePreKeyId = some keyId →
        findOneTimePreKey current keyId = some key → key.claimedAt = none) →
      ∀ amb' now, ∃ result, consumeResponderPreKeyMessage c amb'
          { e2eConfig := s.config, receiverDid := did, message := built.message, now := now }
            = .ok result ∧ result.plaintext = input.plaintext) ∧
    (∀ before since, events = before ++ [.claim deviceId (some input.claimedBundle)] ++ since →
      .device (.rotate deviceId) ∈ since →
      ∀ amb' now, ∃ error, consumeResponderPreKeyMessage c amb'
          { e2eConfig := s.config, receiverDid := did, message := built.message, now := now }
            = .error error) := by
  constructor
  · intro before since hevents hclaim hquiet hfree amb' now
    subst hevents
    obtain ⟨hkeyed', current, hcurrent, hvalid', _⟩ :=
      usable_of_run hkeyed hdevice hvalid hempty hrun
    obtain ⟨published, hleft, hright⟩ := hrun.of_append
    obtain ⟨t, hbefore, hpublish⟩ := hleft.of_append
    obtain ⟨hkeyedT, owner, howner, _⟩ := usable_of_run hkeyed hdevice hvalid hempty hbefore
    -- the publication stores keys of the device as it is then
    obtain ⟨hkeyedP, hownerP, hstoredP⟩ : published.config.Keyed ∧
        published.config.devices.get? deviceId = some owner ∧
        StoredFrom did deviceId (SameKeys owner) published.db := by
      cases hpublish.of_singleton with
      | publish =>
        refine ⟨hkeyedT, howner, ?_⟩
        intro record hrecord
        simp only [get?_published hkeyedT howner, Option.some.injEq] at hrecord
        rw [← hrecord]
        exact ⟨owner, .refl owner, lists_published owner _ _ _⟩
    obtain ⟨_, ⟨now', hnow', hsame⟩, _, hlisted⟩ :=
      lists_of_run hkeyedP hownerP hstoredP hquiet hright
    obtain rfl : current = now' := by
      rw [hcurrent, Option.some.injEq] at hnow'
      exact hnow'
    rw [← hreceiver]
    exact consume_of_lists hc hkeyed' hcurrent hvalid'
      ((hlisted input.claimedBundle hclaim).of_same hsame.symm) hsender hephemeral hbuild
      (fun keyId key => hfree current keyId key hcurrent) amb' now
  · intro before since hevents hrotate amb' now
    subst hevents
    obtain ⟨claimed, hleft, hright⟩ := hrun.of_append
    obtain ⟨_, owner, howner, _, _, hbound⟩ := usable_of_run hkeyed hdevice hvalid hempty hleft
    obtain ⟨hid, hle⟩ := hbound input.claimedBundle (by simp)
    obtain ⟨current, hcurrent, _, hlt⟩ := signedPreKeyId_of_run howner hright
    obtain ⟨_, sender, _, _, hseal, _⟩ := buildInitiatorPreKeyMessage_eq_ok.mp hbuild
    have hheader := (encryptPreKeyMessage_eq_ok.mp hseal).1
    have hdeviceId : built.message.receiverDeviceId = deviceId := by
      rw [hheader]
      exact hid
    have hsigned : built.message.recipientSignedPreKeyId = input.claimedBundle.signedPreKeyId := by
      rw [hheader]
      rfl
    refine consume_of_rotated (by rw [hdeviceId]; exact hcurrent) ?_ amb' did now
    have hrotated := hlt hrotate
    omega

end

/-! ### A message under way -/

/-- What Bob draws for a rotation. -/
def bobRotation : DeviceAmbient where
  deviceId := ""
  identityKeyPair := samplePair 0
  signedPreKeyPair := samplePair 120
  oneTimePreKeyPair := fun i => samplePair (150 + UInt8.ofNat i)
  now := 3000

@[irreducible] def bobRotated : LocalE2EConfig :=
  valueOf (rotateLocalDeviceSignedPreKey sample bobRotation [50] bobConfig "device-b" {})
    (by decide +kernel)

theorem bobRotated_step : DeviceStep sample "did:b" [50] bobConfig (.rotate "device-b") bobRotated := by
  have hamb : bobRotation.Generated sample :=
    ⟨samplePair_isKeyPair _, samplePair_isKeyPair _, fun _ => samplePair_isKeyPair _⟩
  refine .rotate hamb ?_
  unfold bobRotated
  exact eq_ok_valueOf _ _

theorem bobDevice_valid : ValidKeys sample bobDevice where
  identityKey := samplePair_isKeyPair 50
  signedPreKey := samplePair_isKeyPair 51
  oneTimePreKey := by
    intro key hkey
    obtain ⟨index, _, rfl⟩ := List.mem_map.mp hkey
    exact samplePair_isKeyPair _
  keyIds := by decide +kernel

/-- The bundle that the relay hands out for Bob is the one that Alice's message is built from. -/
theorem bobClaimed_eq : bobClaimed.1 = some aliceBuild.claimedBundle := by decide +kernel

theorem aliceDevice_isKeyPair (sender : LocalDeviceState)
    (h : getCurrentDeviceState aliceBuild.e2eConfig = .ok sender) :
    IsKeyPair sample (keyPairOf sender.identityKey) := by
  have hkeys : ∀ sender ∈ aliceConfig.devices.get? aliceConfig.currentDeviceId,
      keyPairOf sender.identityKey = samplePair 10 := by decide +kernel
  rw [hkeys sender (getCurrentDeviceState_eq_ok.mp h)]
  exact samplePair_isKeyPair 10

theorem aliceEphemeral_isKeyPair :
    IsKeyPair sample (aliceBuild.ephemeralKeyPair.getD (sampleAmbient 90 2000).keyPair) :=
  samplePair_isKeyPair 90

/-- Bob publishes and the relay hands his bundle out to Alice. -/
theorem claiming_run : Trace (LifecycleStep sample "did:b" [50]) ⟨bobConfig, Record.empty⟩
    [.publish, .claim "device-b" (some aliceBuild.claimedBundle)]
    ⟨bobConfig, bobClaimed.2⟩ := by
  have hclaim := bobClaimed_step
  rw [bobClaimed_eq] at hclaim
  exact (Trace.nil.snoc bobPublished_step).snoc hclaim

/-- Alice's message is accepted when it arrives next, and refused when Bob has rotated his signed
pre-key by then. -/
theorem accepted_from_relay_sample :
    (∀ amb' now, ∃ result, consumeResponderPreKeyMessage sample amb'
        { e2eConfig := bobConfig, receiverDid := "did:b", message := aliceBuilt.message,
          now := now } = .ok result ∧ result.plaintext = [1, 2, 3]) ∧
    (∀ amb' now, ∃ error, consumeResponderPreKeyMessage sample amb'
        { e2eConfig := bobRotated, receiverDid := "did:b", message := aliceBuilt.message,
          now := now } = .error error) := by
  constructor
  · refine (accepted_from_relay sample_lawful (sampleConfig_keyed _ _ _) bobDevice_eq
      bobDevice_valid rfl claiming_run rfl aliceDevice_isKeyPair aliceEphemeral_isKeyPair
      aliceBuilt_eq).1 [] _ rfl (by simp) (by simp) ?_
    intro current keyId key hcurrent _ hfind
    have hfree : ∀ current ∈ bobConfig.devices.get? "device-b",
        ∀ key ∈ current.oneTimePreKeys, key.claimedAt = none := by decide +kernel
    exact hfree current hcurrent key (List.mem_of_find?_eq_some hfind)
  · exact (accepted_from_relay sample_lawful (sampleConfig_keyed _ _ _) bobDevice_eq
      bobDevice_valid rfl (claiming_run.snoc (.device bobRotated_step)) rfl aliceDevice_isKeyPair
      aliceEphemeral_isKeyPair aliceBuilt_eq).2 [.publish] [.device (.rotate "device-b")] rfl
      (by simp)

/-- **Maintenance between the claim and the receipt**: Bob publishes, the relay hands his bundle
out, Alice builds her first message from it, Bob rotates his signed pre-key, and the message is
refused. -/
theorem refused_after_rotation :
    Trace (LifecycleStep sample "did:b" [50]) ⟨bobConfig, Record.empty⟩
      [.publish, .claim "device-b" (some aliceBuild.claimedBundle),
        .device (.rotate "device-b")] ⟨bobRotated, bobClaimed.2⟩ ∧
    buildInitiatorPreKeyMessage sample (sampleAmbient 90 2000) aliceBuild = .ok aliceBuilt ∧
    consumeResponderPreKeyMessage sample (sampleAmbient 91 2001)
        { e2eConfig := bobRotated, receiverDid := "did:b", message := aliceBuilt.message }
      = .error (.signedPreKeyIdMismatch "device-b" 2 1) :=
  ⟨claiming_run.snoc (.device bobRotated_step), aliceBuilt_eq, by decide +kernel⟩

/-! ### Claims one after another -/

section

variable {c : Primitives} {did deviceId : String} {signingPrivateKey : Bytes}
  {start s s' : LifecycleState} {device : LocalDeviceState} {events : List LifecycleEvent}

/-- A claim is given the signed pre-key of the record that it leaves. -/
theorem signedPreKeyId_of_claim {bundle : ClaimedPreKeyBundle}
    (hstep : LifecycleStep c did signingPrivateKey s (.claim deviceId (some bundle)) s')
    {record : StoredPreKeyBundleRecord}
    (hrecord : s'.db.get? (bundleKey did deviceId) = some record) :
    bundle.signedPreKeyId = record.signedPreKeyId := by
  cases hstep with
  | claim hclaim =>
    obtain ⟨_, _, _, _, _, _, hsignedId, _, rfl, hnext⟩ := claimBundle_eq_some hclaim
    simp only [Record.get?_set_self, Option.some.injEq] at hrecord
    rw [hsignedId, ← hrecord, hnext]

/-- **The claims, the record and the device** have their signed pre-key ids in this order. -/
theorem ordered_of_run (hkeyed : start.config.Keyed)
    (hdevice : start.config.devices.get? deviceId = some device)
    (hempty : start.db.get? (bundleKey did deviceId) = none)
    (hrun : Trace (LifecycleStep c did signingPrivateKey) start events s) :
    s.config.Keyed ∧ ∃ device', s.config.devices.get? deviceId = some device' ∧
      StoredFrom did deviceId (fun owner =>
        owner.signedPreKey.signedPreKeyId ≤ device'.signedPreKey.signedPreKeyId) s.db ∧
      ∀ bundle, .claim deviceId (some bundle) ∈ events →
        bundle.signedPreKeyId ≤ device'.signedPreKey.signedPreKeyId ∧
          StoredFrom did deviceId (fun owner =>
            bundle.signedPreKeyId ≤ owner.signedPreKey.signedPreKeyId) s.db := by
  induction hrun with
  | nil =>
    refine ⟨hkeyed, device, hdevice, fun _ hrecord => ?_, fun _ h => absurd h List.not_mem_nil⟩
    rw [hempty] at hrecord
    cases hrecord
  | snoc _ hstep ih =>
    obtain ⟨hkeyed, current, hcurrent, hstored, hclaims⟩ := ih
    obtain ⟨next, hnext, hcases⟩ := hstep.device_cases hcurrent
    have hgrow : current.signedPreKey.signedPreKeyId ≤ next.signedPreKey.signedPreKeyId := by
      rcases hcases with ⟨_, rfl⟩ | ⟨_, _, hchange⟩
      · exact Nat.le_refl _
      · exact (signedPreKeyId_of_change hcurrent hchange).1
    obtain ⟨hstored', hhanded⟩ := hstored.step hkeyed hcurrent (Nat.le_refl _) hstep
    refine ⟨hstep.keyed hkeyed, next, hnext, fun record hrecord => ?_, fun bundle hbundle => ?_⟩
    · obtain ⟨owner, hle, hlists⟩ := hstored' record hrecord
      exact ⟨owner, hle.trans hgrow, hlists⟩
    · rcases List.mem_append.mp hbundle with hold | hnew
      · obtain ⟨hle, hbehind⟩ := hclaims bundle hold
        exact ⟨hle.trans hgrow, (hbehind.step hkeyed hcurrent hle hstep).1⟩
      · obtain rfl := List.mem_singleton.mp hnew
        obtain ⟨_, hle, hlists⟩ := hhanded bundle rfl
        refine ⟨hlists.signedPreKeyId ▸ hle.trans hgrow, fun record hrecord => ?_⟩
        obtain ⟨owner, _, hlists⟩ := hstored' record hrecord
        exact ⟨owner, ((signedPreKeyId_of_claim hstep hrecord).trans hlists.signedPreKeyId).le,
          hlists⟩

/-- **No claim goes back.**  In every run, a claim of a device is given no older signed pre-key than
the claims before it. -/
theorem claims_go_forward (hkeyed : start.config.Keyed)
    (hdevice : start.config.devices.get? deviceId = some device)
    (hempty : start.db.get? (bundleKey did deviceId) = none) {earlier later : ClaimedPreKeyBundle}
    (hrun : Trace (LifecycleStep c did signingPrivateKey) start
      (events ++ [.claim deviceId (some later)]) s)
    (hearlier : .claim deviceId (some earlier) ∈ events) :
    earlier.signedPreKeyId ≤ later.signedPreKeyId := by
  obtain ⟨_, hbefore, hlast⟩ := hrun.of_append
  obtain ⟨hkeyed, _, hcurrent, _, hclaims⟩ := ordered_of_run hkeyed hdevice hempty hbefore
  obtain ⟨hle, hbehind⟩ := hclaims earlier hearlier
  obtain ⟨_, howner, hlists⟩ := (hbehind.step hkeyed hcurrent hle hlast.of_singleton).2 later rfl
  exact hlists.signedPreKeyId ▸ howner

end

/-- Bob rotates his signed pre-key between two claims, and publishes it. -/
theorem claims_go_forward_sample :
    ∃ events later s, Trace (LifecycleStep sample "did:b" [50]) ⟨bobConfig, Record.empty⟩
        (events ++ [.claim "device-b" (some later)]) s ∧
      aliceBuild.claimedBundle.signedPreKeyId ≤ later.signedPreKeyId := by
  have hpublished := (claiming_run.snoc (.device bobRotated_step)).snoc
    (bobPublish_step bobRotated bobClaimed.2)
  have hclaim := claimBob_step bobRotated (bobPublish bobRotated bobClaimed.2)
  obtain ⟨later, hlater⟩ := Option.isSome_iff_exists.mp
    (show (claimBob (bobPublish bobRotated bobClaimed.2)).1.isSome = true by decide +kernel)
  rw [hlater] at hclaim
  exact ⟨_, later, _, hpublished.snoc hclaim, claims_go_forward (sampleConfig_keyed _ _ _)
    bobDevice_eq rfl (hpublished.snoc hclaim) (List.mem_cons_of_mem _ List.mem_cons_self)⟩

end QuadraA.Relay
