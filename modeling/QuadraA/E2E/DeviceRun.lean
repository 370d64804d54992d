import QuadraA.E2E.SessionSlots
import QuadraA.Lib.Trace

/-!
# Runs of one agent's configuration

Everything that changes the stored configuration of an agent, as a labelled step relation: a first
message is consumed, a session message is received or sent, a session is initiated, a device's
one-time pre-keys are resupplied or its signed pre-key is rotated; a refused message changes
nothing.

`DeviceStep.device` says once what a step can do to the pre-keys of a device, and every invariant
of pre-keys is derived from it: `DeviceChange` is its list of cases.
-/

namespace QuadraA.E2E

open QuadraA.Lib

/-- What a step of a run does. -/
inductive DeviceEvent where
  | consume (message : PreKeyMessage) (result : ConsumeResponderPreKeyMessageResult)
  | refuse (message : WireMessage) (error : EncryptionError)
  | receive (message : SessionMessage)
  | send (message : SessionMessage)
  | initiate (message : PreKeyMessage)
  | resupply (deviceId : String)
  | rotate (deviceId : String)
deriving DecidableEq

/-- A maintenance step of the device. -/
def DeviceEvent.Maintains (deviceId : String) (event : DeviceEvent) : Prop :=
  event = .resupply deviceId ∨ event = .rotate deviceId

/-- **The steps of a run**, for an agent with the DID `did`. -/
inductive DeviceStep (c : Primitives) (did : String) (signingPrivateKey : Bytes) :
    LocalE2EConfig → DeviceEvent → LocalE2EConfig → Prop
  | consume {config : LocalE2EConfig} {amb : Ambient} {message : PreKeyMessage} {now : Option ℕ}
      {result : ConsumeResponderPreKeyMessageResult} :
      consumeResponderPreKeyMessage c amb
        { e2eConfig := config, receiverDid := did, message := message, now := now } = .ok result →
      DeviceStep c did signingPrivateKey config (.consume message result) result.e2eConfig
  | refuse {config : LocalE2EConfig} {amb : Ambient} {message : WireMessage} {now : Option ℕ}
      {error : EncryptionError} :
      decryptWireMessage c amb config did now message = .error error →
      DeviceStep c did signingPrivateKey config (.refuse message error) config
  | receive {config : LocalE2EConfig} {amb : Ambient} {message : SessionMessage} {now : Option ℕ}
      {result : WireDecryptResult} :
      decryptWireMessage c amb config did now (.session message) = .ok result →
      DeviceStep c did signingPrivateKey config (.receive message) result.e2eConfig
  | send {config next : LocalE2EConfig} {amb : Ambient} {input : RatchetEncryptInput}
      {peerDid peerDeviceId : String} {result : RatchetEncryptResult} :
      loadLocalSession config config.currentDeviceId peerDid peerDeviceId = some input.session →
      encryptRatchetMessage c amb input = .ok result →
      storeLocalSession config config.currentDeviceId result.session = .ok next →
      DeviceStep c did signingPrivateKey config (.send result.message) next
  | initiate {config : LocalE2EConfig} {amb : Ambient} {input : BuildInitiatorPreKeyMessageInput}
      {result : BuildInitiatorPreKeyMessageResult} :
      input.e2eConfig = config →
      buildInitiatorPreKeyMessage c amb input = .ok result →
      DeviceStep c did signingPrivateKey config (.initiate result.message) result.e2eConfig
  | resupply {config next : LocalE2EConfig} {amb : DeviceAmbient} {deviceId : String} :
      amb.Generated c →
      resupplyLocalDeviceOneTimePreKeys amb config deviceId {} = .ok next →
      DeviceStep c did signingPrivateKey config (.resupply deviceId) next
  | rotate {config next : LocalE2EConfig} {amb : DeviceAmbient} {deviceId : String} :
      amb.Generated c →
      rotateLocalDeviceSignedPreKey c amb signingPrivateKey config deviceId {} = .ok next →
      DeviceStep c did signingPrivateKey config (.rotate deviceId) next

/-! ### What a step does to a device -/

/-- **What a step can do to the device stored under `deviceId`.** -/
inductive DeviceChange (c : Primitives) (signingPrivateKey : Bytes) (config : LocalE2EConfig)
    (deviceId : String) (device : LocalDeviceState) : DeviceEvent → LocalDeviceState → Prop
  | sessions {event : DeviceEvent} {device' : LocalDeviceState} :
      ¬event.Maintains deviceId →
      device' = { device with sessions := device'.sessions } →
      DeviceChange c signingPrivateKey config deviceId device event device'
  | claim {message : PreKeyMessage} {result : ConsumeResponderPreKeyMessageResult} {keyId now : ℕ}
      {key : LocalOneTimePreKeyState} {device' : LocalDeviceState} :
      message.receiverDeviceId = deviceId →
      message.recipientOneTimePreKeyId = some keyId →
      findOneTimePreKey device keyId = some key → key.claimedAt = none →
      device' = { device with
        oneTimePreKeys := markClaimed keyId now device.oneTimePreKeys
        sessions := device'.sessions } →
      DeviceChange c signingPrivateKey config deviceId device (.consume message result) device'
  | resupply {amb : DeviceAmbient} :
      amb.Generated c →
      DeviceChange c signingPrivateKey config deviceId device (.resupply deviceId)
        (resuppliedDevice amb {} device)
  | rotate {amb : DeviceAmbient} :
      amb.Generated c →
      DeviceChange c signingPrivateKey config deviceId device (.rotate deviceId)
        (rotatedDevice c amb signingPrivateKey config deviceId {} device)

theorem findOneTimePreKey_markClaimed (keyId keyId' now : ℕ)
    (keys : List LocalOneTimePreKeyState) :
    (markClaimed keyId now keys).find? (fun key => key.keyId = keyId')
      = if keyId = keyId' then
          (keys.find? fun key => key.keyId = keyId').map
            fun key => { key with claimedAt := some now }
        else keys.find? fun key => key.keyId = keyId' := by
  induction keys with
  | nil => simp [markClaimed]
  | cons key rest ih =>
    rw [markClaimed]
    by_cases hkey : key.keyId = keyId
    · rw [if_pos hkey]
      by_cases hid : keyId = keyId'
      · simp [hkey, hid]
      · simp [hkey, hid]
    · rw [if_neg hkey]
      by_cases hid : keyId = keyId'
      · subst hid
        simp [hkey, ih]
      · by_cases hkey' : key.keyId = keyId'
        · simp [hid, hkey']
        · simp [hid, hkey', ih]

theorem le_foldl_max_of_mem {l : List ℕ} {n : ℕ} (h : n ∈ l) : n ≤ l.foldl max 0 := by
  rw [List.foldl_max]
  cases hmax : l.max? with
  | none => exact absurd (List.max?_eq_none_iff.mp hmax) (List.ne_nil_of_mem h)
  | some m => exact Nat.le_trans ((List.max?_eq_some_iff.mp hmax).2 n h) (Nat.le_max_right 0 m)

/-- A rotation numbers its signed pre-key above every stored one. -/
theorem lt_nextSignedPreKeyId {config : LocalE2EConfig} {deviceId : String}
    {device : LocalDeviceState} (h : config.devices.get? deviceId = some device) :
    device.signedPreKey.signedPreKeyId < nextSignedPreKeyId config none := by
  have hvalue : device ∈ config.devices.values := (Record.mem_values_iff _ _).mpr ⟨deviceId, h⟩
  have hmem : device.signedPreKey.signedPreKeyId
      ∈ config.devices.values.map fun device => device.signedPreKey.signedPreKeyId :=
    List.mem_map_of_mem hvalue
  exact Nat.lt_succ_of_le (le_foldl_max_of_mem hmem)

section

variable {c : Primitives} {did : String} {signingPrivateKey : Bytes}

/-- Storing a session changes the sessions of one device. -/
theorem device_of_store {config result : LocalE2EConfig} {deviceId id : String}
    {session : LocalSessionState} {device : LocalDeviceState}
    (hstore : storeLocalSession config deviceId session = .ok result)
    (hdevice : config.devices.get? id = some device) :
    ∃ sessions, result.devices.get? id = some { device with sessions := sessions } := by
  obtain ⟨stored, hstored, rfl⟩ := storeLocalSession_eq_ok.mp hstore
  rw [Record.get?_set]
  by_cases hid : deviceId = id
  · subst hid
    rw [hstored, Option.some.injEq] at hdevice
    subst hdevice
    exact ⟨(stored.storeSession session).sessions, by rw [if_pos rfl]; rfl⟩
  · exact ⟨device.sessions, by rw [if_neg hid]; exact hdevice⟩

/-- **One step, one device.**  A device that is stored before a step is stored after it, changed as
`DeviceChange` lists. -/
theorem DeviceStep.device {config config' : LocalE2EConfig} {event : DeviceEvent}
    (hstep : DeviceStep c did signingPrivateKey config event config') {id : String}
    {device : LocalDeviceState} (hdevice : config.devices.get? id = some device) :
    ∃ device', config'.devices.get? id = some device' ∧
      DeviceChange c signingPrivateKey config id device event device' := by
  cases hstep with
  | refuse _ => exact ⟨device, hdevice, .sessions (by simp [DeviceEvent.Maintains]) rfl⟩
  | @consume amb message now result hconsume =>
    obtain ⟨_, receiver, hreceiver, oneTimePreKey, hselect, _, _, _, _, hstore⟩ :=
      consumeResponderPreKeyMessage_eq_ok.mp hconsume
    by_cases hid : message.receiverDeviceId = id
    · subst hid
      obtain rfl : receiver = device := by
        rw [hdevice, Option.some.injEq] at hreceiver
        exact hreceiver.symm
      obtain ⟨sessions, hnext⟩ := device_of_store hstore (Record.get?_set_self ..)
      refine ⟨_, hnext, ?_⟩
      rcases selectOneTimePreKey_eq_ok.mp hselect with ⟨_, rfl⟩ | ⟨keyId, key, hid, hfind, hfree, rfl⟩
      · exact .sessions (by simp [DeviceEvent.Maintains]) rfl
      · have hkeyId : key.keyId = keyId := by
          have hmatch := List.find?_some hfind
          simpa using hmatch
        refine @DeviceChange.claim _ _ _ _ _ message result keyId (now.getD amb.now) key _ rfl hid
          hfind hfree ?_
        simp only [LocalDeviceState.markOneTimePreKey, hkeyId]
    · have hkept : (config.devices.set message.receiverDeviceId
          (receiver.markOneTimePreKey oneTimePreKey (now.getD amb.now))).get? id = some device := by
        rw [Record.get?_set_ne _ _ hid]
        exact hdevice
      obtain ⟨sessions, hnext⟩ := device_of_store hstore hkept
      exact ⟨_, hnext, .sessions (by simp [DeviceEvent.Maintains]) rfl⟩
  | receive hreceive =>
    obtain ⟨_, _, _, _, _, hstore, _⟩ := decryptWireMessage_session_eq_ok.mp hreceive
    obtain ⟨sessions, hnext⟩ := device_of_store hstore hdevice
    exact ⟨_, hnext, .sessions (by simp [DeviceEvent.Maintains]) rfl⟩
  | send _ _ hstore =>
    obtain ⟨sessions, hnext⟩ := device_of_store hstore hdevice
    exact ⟨_, hnext, .sessions (by simp [DeviceEvent.Maintains]) rfl⟩
  | initiate hinput hbuild =>
    obtain ⟨_, _, _, _, _, _, hstore⟩ := buildInitiatorPreKeyMessage_eq_ok.mp hbuild
    rw [hinput] at hstore
    obtain ⟨sessions, hnext⟩ := device_of_store hstore hdevice
    exact ⟨_, hnext, .sessions (by simp [DeviceEvent.Maintains]) rfl⟩
  | @resupply _ amb deviceId hgenerated hresupply =>
    obtain ⟨existing, hfound, rfl⟩ := resupplyLocalDeviceOneTimePreKeys_eq_ok.mp hresupply
    by_cases hid : deviceId = id
    · subst hid
      obtain rfl : existing = device := by simpa [hdevice] using hfound.symm
      exact ⟨_, Record.get?_set_self .., .resupply hgenerated⟩
    · exact ⟨device, by rw [Record.get?_set_ne _ _ hid]; exact hdevice,
        .sessions (by simp [DeviceEvent.Maintains, hid]) rfl⟩
  | @rotate _ amb deviceId hgenerated hrotate =>
    obtain ⟨existing, hfound, rfl⟩ := rotateLocalDeviceSignedPreKey_eq_ok.mp hrotate
    by_cases hid : deviceId = id
    · subst hid
      obtain rfl : existing = device := by simpa [hdevice] using hfound.symm
      exact ⟨_, Record.get?_set_self .., .rotate hgenerated⟩
    · exact ⟨device, by rw [Record.get?_set_ne _ _ hid]; exact hdevice,
        .sessions (by simp [DeviceEvent.Maintains, hid]) rfl⟩

/-- Devices stay under their own ids. -/
theorem DeviceStep.keyed {config config' : LocalE2EConfig} {event : DeviceEvent}
    (hkeyed : config.Keyed)
    (hstep : DeviceStep c did signingPrivateKey config event config') : config'.Keyed := by
  cases hstep with
  | refuse _ => exact hkeyed
  | consume hconsume => exact Keyed.consume hkeyed hconsume
  | receive hreceive =>
    obtain ⟨_, _, _, _, _, hstore, _⟩ := decryptWireMessage_session_eq_ok.mp hreceive
    exact Keyed.store hkeyed hstore
  | send _ _ hstore => exact Keyed.store hkeyed hstore
  | initiate hinput hbuild =>
    rw [← hinput] at hkeyed
    exact Keyed.build hkeyed hbuild
  | @resupply _ amb deviceId _ hresupply =>
    obtain ⟨existing, hfound, rfl⟩ := resupplyLocalDeviceOneTimePreKeys_eq_ok.mp hresupply
    exact Keyed.set hkeyed (hkeyed deviceId existing hfound)
  | @rotate _ amb deviceId _ hrotate =>
    obtain ⟨existing, hfound, rfl⟩ := rotateLocalDeviceSignedPreKey_eq_ok.mp hrotate
    exact Keyed.set hkeyed (hkeyed deviceId existing hfound)

end

end QuadraA.E2E
