import QuadraA.E2E.ApplicationEnvelope

/-!
# Session slots

Where a configuration keeps its sessions: one slot for each local device and peer device key.

* `sessionAt_of_store`, `sessionAt_of_consume` — what the two writers of a slot do to every slot;
* `encryptRatchetMessage_header` — the routing that an encryption copies from its session.
-/

namespace QuadraA.E2E

open QuadraA.Lib

/-- A place where a session can be stored. -/
structure SessionSlot where
  deviceId : String
  key : String
deriving DecidableEq

def sessionAt (config : LocalE2EConfig) (slot : SessionSlot) : Option LocalSessionState :=
  (config.devices.get? slot.deviceId).bind fun device => device.sessions.get? slot.key

/-- The slot of a peer device. -/
def peerSlot (deviceId peerDid peerDeviceId : String) : SessionSlot :=
  { deviceId := deviceId, key := buildLocalSessionKey peerDid peerDeviceId }

/-- The slot that a session is stored in. -/
def LocalSessionState.slot (session : LocalSessionState) (deviceId : String) : SessionSlot :=
  peerSlot deviceId session.peerDid session.peerDeviceId

theorem loadLocalSession_eq (config : LocalE2EConfig) (deviceId peerDid peerDeviceId : String) :
    loadLocalSession config deviceId peerDid peerDeviceId
      = sessionAt config (peerSlot deviceId peerDid peerDeviceId) := rfl

/-! ### Writers -/

variable {config : LocalE2EConfig} {deviceId : String} {device : LocalDeviceState}
  {session : LocalSessionState} {c : Primitives} {amb : Ambient}
  {input : ConsumeResponderPreKeyMessageInput} {result : ConsumeResponderPreKeyMessageResult}

/-- Changing a device without touching its sessions changes no slot. -/
theorem sessionAt_set_of_sessions {device' : LocalDeviceState}
    (hdevice : config.devices.get? deviceId = some device)
    (hsessions : device'.sessions = device.sessions) (slot : SessionSlot) :
    sessionAt { config with devices := config.devices.set deviceId device' } slot
      = sessionAt config slot := by
  rw [sessionAt, sessionAt, Record.get?_set]
  by_cases hid : deviceId = slot.deviceId
  · rw [if_pos hid, ← hid, hdevice, Option.bind_some, Option.bind_some, hsessions]
  · rw [if_neg hid]

/-- **Storing a session** fills its slot and leaves every other one. -/
theorem sessionAt_of_store {result : LocalE2EConfig}
    (h : storeLocalSession config deviceId session = .ok result) (slot : SessionSlot) :
    sessionAt result slot
      = if session.slot deviceId = slot then some session else sessionAt config slot := by
  obtain ⟨device, hdevice, rfl⟩ := storeLocalSession_eq_ok.mp h
  rw [sessionAt, sessionAt, Record.get?_set]
  obtain ⟨slotDevice, slotKey⟩ := slot
  by_cases hid : deviceId = slotDevice
  · subst hid
    rw [if_pos rfl, hdevice, Option.bind_some, Option.bind_some, LocalDeviceState.storeSession,
      Record.get?_set]
    by_cases hkey : buildLocalSessionKey session.peerDid session.peerDeviceId = slotKey
    · rw [if_pos hkey, if_pos (by rw [← hkey]; rfl)]
    · rw [if_neg hkey, if_neg]
      intro habsurd
      exact hkey (congrArg SessionSlot.key habsurd)
  · rw [if_neg hid, if_neg]
    intro habsurd
    exact hid (congrArg SessionSlot.deviceId habsurd)

theorem markOneTimePreKey_sessions (device : LocalDeviceState)
    (oneTimePreKey : Option LocalOneTimePreKeyState) (now : ℕ) :
    (device.markOneTimePreKey oneTimePreKey now).sessions = device.sessions := by
  cases oneTimePreKey <;> rfl

theorem markOneTimePreKey_deviceId (device : LocalDeviceState)
    (oneTimePreKey : Option LocalOneTimePreKeyState) (now : ℕ) :
    (device.markOneTimePreKey oneTimePreKey now).deviceId = device.deviceId := by
  cases oneTimePreKey <;> rfl

/-! ### Devices under their own id -/

/-- Every device stands under its own id. -/
def LocalE2EConfig.Keyed (config : LocalE2EConfig) : Prop :=
  ∀ deviceId device, config.devices.get? deviceId = some device → device.deviceId = deviceId

theorem Keyed.set (h : config.Keyed) (hdevice : device.deviceId = deviceId) :
    LocalE2EConfig.Keyed { config with devices := config.devices.set deviceId device } := by
  intro id found hfound
  rw [Record.get?_set] at hfound
  by_cases hid : deviceId = id
  · rw [if_pos hid, Option.some.injEq] at hfound
    rw [← hfound, hdevice, hid]
  · rw [if_neg hid] at hfound
    exact h id found hfound

theorem Keyed.store {result : LocalE2EConfig} (h : config.Keyed)
    (hstore : storeLocalSession config deviceId session = .ok result) : result.Keyed := by
  obtain ⟨device, hdevice, rfl⟩ := storeLocalSession_eq_ok.mp hstore
  exact Keyed.set h (h deviceId device hdevice)

/-! ### The two bootstraps -/

/-- **Consuming a first message** fills the slot of its sender with the new session and leaves
every other one. -/
theorem sessionAt_of_consume (hkeyed : input.e2eConfig.Keyed)
    (h : consumeResponderPreKeyMessage c amb input = .ok result) (slot : SessionSlot) :
    sessionAt result.e2eConfig slot
      = if peerSlot input.message.receiverDeviceId input.message.senderDid
            input.message.senderDeviceId = slot then some result.session
        else sessionAt input.e2eConfig slot := by
  obtain ⟨_, device, hdevice, _, _, _, _, _, hsession, hstore⟩ :=
    consumeResponderPreKeyMessage_eq_ok.mp h
  obtain ⟨_, _, hmade⟩ := createResponderRatchetSession_eq_ok.mp hsession
  have hid := hkeyed _ device hdevice
  have hslot : result.session.slot device.deviceId
      = peerSlot input.message.receiverDeviceId input.message.senderDid
          input.message.senderDeviceId := by
    rw [hmade, hid]
    rfl
  rw [sessionAt_of_store hstore, hslot,
    sessionAt_set_of_sessions hdevice (markOneTimePreKey_sessions device _ _)]

/-- **The responder's session** carries the session id of the message and the routing reversed. -/
theorem consumed_session (hkeyed : input.e2eConfig.Keyed)
    (h : consumeResponderPreKeyMessage c amb input = .ok result) :
    result.session.sessionId = input.message.sessionId ∧ result.session.role = .responder ∧
      result.session.peerDid = input.message.senderDid ∧
      result.session.peerDeviceId = input.message.senderDeviceId ∧
      result.session.selfDeviceId = input.message.receiverDeviceId := by
  obtain ⟨_, device, hdevice, _, _, _, _, _, hsession, _⟩ :=
    consumeResponderPreKeyMessage_eq_ok.mp h
  obtain ⟨_, _, hmade⟩ := createResponderRatchetSession_eq_ok.mp hsession
  have hid := hkeyed _ device hdevice
  rw [hmade]
  exact ⟨rfl, rfl, rfl, rfl, hid⟩

theorem Keyed.consume (hkeyed : input.e2eConfig.Keyed)
    (h : consumeResponderPreKeyMessage c amb input = .ok result) : result.e2eConfig.Keyed := by
  obtain ⟨_, device, hdevice, oneTimePreKey, _, _, _, _, _, hstore⟩ :=
    consumeResponderPreKeyMessage_eq_ok.mp h
  refine Keyed.store (Keyed.set hkeyed ?_) hstore
  rw [markOneTimePreKey_deviceId]
  exact hkeyed _ device hdevice

theorem Keyed.build {input : BuildInitiatorPreKeyMessageInput}
    {result : BuildInitiatorPreKeyMessageResult} (hkeyed : input.e2eConfig.Keyed)
    (h : buildInitiatorPreKeyMessage c amb input = .ok result) : result.e2eConfig.Keyed := by
  obtain ⟨_, _, _, _, _, _, hstore⟩ := buildInitiatorPreKeyMessage_eq_ok.mp h
  exact Keyed.store hkeyed hstore

/-! ### The routing of a session message -/

theorem ensureSendingChain_routing {result : LocalSessionState} {pair : Option X25519KeyPair}
    (h : ensureSendingChain c amb session pair = .ok result) :
    result.sessionId = session.sessionId ∧ result.selfDeviceId = session.selfDeviceId ∧
      result.peerDeviceId = session.peerDeviceId ∧ result.peerDid = session.peerDid := by
  rcases ensureSendingChain_eq_ok.mp h with ⟨_, rfl⟩ | ⟨_, _, _, rfl⟩
  · exact ⟨rfl, rfl, rfl, rfl⟩
  · exact ⟨rfl, rfl, rfl, rfl⟩

/-- Encrypting keeps the routing of the session. -/
theorem encryptRatchetMessage_routing {input : RatchetEncryptInput} {result : RatchetEncryptResult}
    (h : encryptRatchetMessage c amb input = .ok result) :
    result.session.sessionId = input.session.sessionId ∧
      result.session.selfDeviceId = input.session.selfDeviceId ∧
      result.session.peerDeviceId = input.session.peerDeviceId ∧
      result.session.peerDid = input.session.peerDid := by
  obtain ⟨session, hensure, _, _, _, _, _, hsession⟩ := encryptRatchetMessage_eq_ok.mp h
  obtain ⟨hid, hself, hpeer, hdid⟩ := ensureSendingChain_routing hensure
  rw [hsession]
  exact ⟨hid, hself, hpeer, hdid⟩

theorem skipMessageKeys_routing {result : LocalSessionState} {n : ℕ}
    (h : skipMessageKeys c session n = .ok result) :
    result.sessionId = session.sessionId ∧ result.selfDeviceId = session.selfDeviceId ∧
      result.peerDeviceId = session.peerDeviceId ∧ result.peerDid = session.peerDid := by
  rcases skipMessageKeys_eq_ok.mp h with ⟨_, rfl⟩ | ⟨_, _, rfl⟩ | ⟨_, _, _, _, rfl⟩
  · exact ⟨rfl, rfl, rfl, rfl⟩
  · exact ⟨rfl, rfl, rfl, rfl⟩
  · exact ⟨rfl, rfl, rfl, rfl⟩

/-- Decrypting keeps the routing of the session, on every branch. -/
theorem decryptRatchetMessage_routing {input : RatchetDecryptInput} {result : RatchetDecryptResult}
    (h : decryptRatchetMessage c amb input = .ok result) :
    result.session.sessionId = input.session.sessionId ∧
      result.session.selfDeviceId = input.session.selfDeviceId ∧
      result.session.peerDeviceId = input.session.peerDeviceId ∧
      result.session.peerDid = input.session.peerDid := by
  rcases decryptRatchetMessage_eq_ok.mp h with ⟨_, _, _, _, _, hsession⟩ | ⟨_, hchain⟩
  · rw [hsession]
    exact ⟨rfl, rfl, rfl, rfl⟩
  · obtain ⟨ready, hswitch, reached, hreached, _, _, _, _, _, hsession⟩ :=
      decryptOnReceivingChain_eq_ok.mp hchain
    have hready : ready.sessionId = input.session.sessionId ∧
        ready.selfDeviceId = input.session.selfDeviceId ∧
        ready.peerDeviceId = input.session.peerDeviceId ∧
        ready.peerDid = input.session.peerDid := by
      rcases switchReceivingChain_eq_ok.mp hswitch with ⟨_, rfl⟩ | ⟨_, skipped, hskip, hopen⟩
      · exact ⟨rfl, rfl, rfl, rfl⟩
      · obtain ⟨_, _, rfl⟩ := advanceReceivingRatchet_eq_ok.mp hopen
        obtain ⟨hid, hself, hpeer, hdid⟩ := skipMessageKeys_routing hskip
        exact ⟨hid, hself, hpeer, hdid⟩
    obtain ⟨hid, hself, hpeer, hdid⟩ := skipMessageKeys_routing hreached
    rw [hsession, ← hready.1, ← hready.2.1, ← hready.2.2.1, ← hready.2.2.2]
    exact ⟨hid, hself, hpeer, hdid⟩

/-- **A session message** names the session and the two devices of the session it was encrypted
on. -/
theorem encryptRatchetMessage_header {input : RatchetEncryptInput} {result : RatchetEncryptResult}
    (h : encryptRatchetMessage c amb input = .ok result) :
    result.message.senderDid = input.senderDid ∧ result.message.receiverDid = input.receiverDid ∧
      result.message.sessionId = input.session.sessionId ∧
      result.message.senderDeviceId = input.session.selfDeviceId ∧
      result.message.receiverDeviceId = input.session.peerDeviceId := by
  obtain ⟨session, hensure, _, _, _, hseal, _⟩ := encryptRatchetMessage_eq_ok.mp h
  obtain ⟨hid, hself, hpeer, _⟩ := ensureSendingChain_routing hensure
  obtain ⟨hheader, _⟩ := encryptSessionMessage_eq_ok.mp hseal
  rw [hheader]
  exact ⟨rfl, rfl, hid, hself, hpeer⟩

end QuadraA.E2E
