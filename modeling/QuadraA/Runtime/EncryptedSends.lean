import QuadraA.Runtime.DaemonTasks

/-!
# Encrypted sends

`e2e-send.ts`: one application envelope is sealed for every device that the card of its recipient
publishes, on the stored session with the device or on a pre-key bundle that is claimed for it.

* `prepareTarget` — the choice for one device, which discards a session that is stale;
* `sends_agree_iff` — the two choices agree when no session with a published device is stale.
-/

namespace QuadraA.Runtime

open QuadraA.Lib QuadraA.E2E QuadraA.Messaging

/-! ### Envelopes before their signature -/

/-- `Omit<MessageEnvelope, 'signature'>`. -/
structure UnsignedEnvelope where
  id : String
  sender : String
  receiver : String
  type : MessageEnvelopeType
  protocol : String
  payload : JsonValue
  timestamp : ℤ
  replyTo : Option String := none
  threadId : Option String := none

def UnsignedEnvelope.toJson (envelope : UnsignedEnvelope) : JsonValue :=
  .object <|
    [("id", .string envelope.id),
     ("from", .string envelope.sender),
     ("to", .string envelope.receiver),
     ("type", .string envelope.type.text),
     ("protocol", .string envelope.protocol),
     ("payload", envelope.payload),
     ("timestamp", .number envelope.timestamp)]
    ++ optionalProperty "replyTo" envelope.replyTo
    ++ optionalProperty "threadId" envelope.threadId

/-- What a send takes from JSON, from CBOR, from base58 and from the collation of strings. -/
structure SendServices extends EnvelopeServices where
  /-- `encodeCanonicalJson`. -/
  encodeCanonicalJson : JsonValue → Bytes
  /-- `encodeMessage`. -/
  encodeMessage : MessageEnvelope → Bytes
  /-- `base58btc.decode`; `none` for a thrown error. -/
  decodeBase58 : String → Option Bytes
  /-- `left.localeCompare(right) <= 0`. -/
  localeCompare : String → String → Bool

/-- The failures of a send, with those of the layers below it. -/
inductive SendError where
  | replyWithoutReplyTo
  | didFormat
  | didKey
  | noAgentCard (did : String)
  | noDevices (did : String)
  | duplicateDevice (did deviceId : String)
  | noClaimedBundle (did deviceId : String)
  | invalidSignedPreKey (did deviceId : String)
  | encryption (error : EncryptionError)
  | relay (error : String)
deriving DecidableEq, Repr

def SendError.message : SendError → String
  | .replyWithoutReplyTo => "Reply envelopes must include replyTo"
  | .didFormat => "Invalid DID format: must start with did:agent:"
  | .didKey => "Failed to extract public key from DID"
  | .noAgentCard did => "No Agent Card found for " ++ did
  | .noDevices did => "Target " ++ did ++ " does not publish any E2E devices"
  | .duplicateDevice did deviceId =>
      "Target " ++ did ++ " publishes duplicate E2E device " ++ deviceId
  | .noClaimedBundle did deviceId =>
      "No claimed pre-key bundle available for " ++ did ++ ":" ++ deviceId
  | .invalidSignedPreKey did deviceId =>
      "Target " ++ did ++ ":" ++ deviceId ++ " publishes invalid signed pre-key signature"
  | .encryption error => error.message
  | .relay error => error

/-- `value ? { name: value } : {}`. -/
def whenTruthy (value : Option String) : Option String := value.filter fun text => text ≠ ""

def createEnvelope (id : String) (timestamp : ℤ) (sender receiver : String)
    (type : MessageEnvelopeType) (protocol : String) (payload : JsonValue)
    (replyTo threadId : Option String) : Except SendError UnsignedEnvelope :=
  if type = .reply ∧ whenTruthy replyTo = none then .error .replyWithoutReplyTo
  else
    .ok
      { id, sender, receiver, type, protocol, payload, timestamp
        replyTo := whenTruthy replyTo
        threadId := whenTruthy threadId }

def signEnvelope (c : Primitives) (services : SendServices) (privateKey : Bytes)
    (envelope : UnsignedEnvelope) : MessageEnvelope where
  id := envelope.id
  sender := envelope.sender
  receiver := envelope.receiver
  type := envelope.type
  protocol := envelope.protocol
  payload := envelope.payload
  timestamp := envelope.timestamp
  signature :=
    hexText (c.ed25519Sign (services.encodeCanonicalJson envelope.toJson) privateKey)
  replyTo := envelope.replyTo
  threadId := envelope.threadId
  groupId := none

def signEncryptedTransportEnvelope (c : Primitives) (services : SendServices) (privateKey : Bytes)
    (applicationEnvelope : MessageEnvelope) (payload : EncryptedApplicationEnvelopePayload) :
    MessageEnvelope :=
  signEnvelope c services privateKey
    { id := applicationEnvelope.id
      sender := applicationEnvelope.sender
      receiver := applicationEnvelope.receiver
      type := .message
      protocol := E2E_APPLICATION_ENVELOPE_PROTOCOL
      payload := payload.toJson
      timestamp := applicationEnvelope.timestamp }

/-! ### The relay, and programs that call it -/

/-- What a send reads of an agent card; `none` when `devices` is no array. -/
structure AgentCard where
  devices : Option (List PublishedDeviceDirectoryEntry)

/-- **The relay** that a send calls, over any store. -/
structure RelayClientLike (σ : Type) where
  fetchCard : σ → String → Except SendError (Option AgentCard) × σ
  fetchPreKeyBundle : σ → String → String → Except SendError (Option ClaimedPreKeyBundle) × σ

/-- The store of the relay, and the devices that a bundle has been claimed for. -/
structure RelayRun (σ : Type) where
  relay : σ
  claimed : List String

/-- A program that calls the relay, and can throw. -/
abbrev SendM (σ : Type) : Type → Type := ExceptT SendError (StateM (RelayRun σ))

/-- **A run that returns**: from one state of the relay it reaches another, with a value. -/
def SendM.Returns {σ α : Type} (program : SendM σ α) (start : RelayRun σ) (value : α)
    (finish : RelayRun σ) : Prop :=
  program.run.run start = (.ok value, finish)

def SendM.lift {σ α : Type} (result : Except SendError α) : SendM σ α :=
  ExceptT.mk (pure result)

def fetchCard {σ : Type} (client : RelayClientLike σ) (did : String) :
    SendM σ (Option AgentCard) :=
  ExceptT.mk fun run =>
    let answer := client.fetchCard run.relay did
    (answer.1, { run with relay := answer.2 })

def fetchPreKeyBundle {σ : Type} (client : RelayClientLike σ) (did deviceId : String) :
    SendM σ (Option ClaimedPreKeyBundle) :=
  ExceptT.mk fun run =>
    let answer := client.fetchPreKeyBundle run.relay did deviceId
    (answer.1, { relay := answer.2, claimed := run.claimed ++ [deviceId] })

section

variable {σ α β : Type} {start finish : RelayRun σ}

@[simp] theorem returns_pure {value result : α} :
    (pure value : SendM σ α).Returns start result finish ↔ result = value ∧ finish = start := by
  rw [SendM.Returns]
  show ((Except.ok value, start) : Except SendError α × RelayRun σ) = (.ok result, finish) ↔ _
  rw [Prod.mk.injEq, Except.ok.injEq]
  exact and_congr eq_comm eq_comm

theorem run_bind (program : SendM σ α) (next : α → SendM σ β) (start : RelayRun σ) :
    (program >>= next).run.run start = match program.run.run start with
      | (.ok value, middle) => (next value).run.run middle
      | (.error error, middle) => (.error error, middle) := by
  show (program.run >>= ExceptT.bindCont next).run start = _
  rw [StateT.run_bind]
  rcases program.run.run start with ⟨outcome, middle⟩
  cases outcome with
  | ok value => rfl
  | error error => rfl

/-- A program of two parts returns when the parts do, one after the other. -/
@[simp] theorem returns_bind {program : SendM σ α} {next : α → SendM σ β} {result : β} :
    (program >>= next).Returns start result finish ↔
      ∃ value middle, program.Returns start value middle ∧
        (next value).Returns middle result finish := by
  simp only [SendM.Returns, run_bind]
  rcases program.run.run start with ⟨outcome, middle⟩
  cases outcome with
  | ok value =>
    constructor
    · intro h
      exact ⟨value, middle, rfl, h⟩
    · rintro ⟨_, _, hfirst, h⟩
      obtain ⟨hvalue, rfl⟩ := Prod.mk.inj hfirst
      obtain rfl := Except.ok.inj hvalue
      exact h
  | error error =>
    constructor
    · intro h
      cases h
    · rintro ⟨_, _, hfirst, _⟩
      cases hfirst

@[simp] theorem returns_throw {error : SendError} {value : α} :
    ¬(throw error : SendM σ α).Returns start value finish := by
  intro h
  cases h

@[simp] theorem returns_lift {result : Except SendError α} {value : α} :
    (SendM.lift result : SendM σ α).Returns start value finish ↔
      result = .ok value ∧ finish = start := by
  rw [SendM.Returns]
  show ((result, start) : Except SendError α × RelayRun σ) = (.ok value, finish) ↔ _
  rw [Prod.mk.injEq]
  exact and_congr_right fun _ => eq_comm

end

/-! ### The recipient -/

/-- `uniqueDevices`, as its values: the loop stops at the second device of one id. -/
def collectDevices (did : String) :
    List PublishedDeviceDirectoryEntry → List PublishedDeviceDirectoryEntry →
      Except SendError (List PublishedDeviceDirectoryEntry)
  | uniqueDevices, [] => .ok uniqueDevices
  | uniqueDevices, device :: rest =>
      if device.deviceId ∈ uniqueDevices.map (·.deviceId) then
        .error (.duplicateDevice did device.deviceId)
      else collectDevices did (uniqueDevices ++ [device]) rest

def selectRecipientDevices (services : SendServices) (card : Option AgentCard) (did : String) :
    Except SendError (List PublishedDeviceDirectoryEntry) :=
  match card with
  | none => .error (.noAgentCard did)
  | some card =>
      let devices := card.devices.getD []
      if devices = [] then .error (.noDevices did)
      else do
        let uniqueDevices ← collectDevices did [] devices
        .ok (uniqueDevices.insertionSort fun left right =>
          services.localeCompare left.deviceId right.deviceId)

def extractPublicKey (services : SendServices) (did : String) : Except SendError Bytes :=
  if isAgentDid did then
    match services.decodeBase58 (String.ofList (did.toList.drop "did:agent:".length)) with
    | some key => .ok key
    | none => .error .didKey
  else .error .didFormat

def verifySignedPreKeyRecord (c : Primitives) (claimedBundle : ClaimedPreKeyBundle)
    (signingPublicKey : Bytes) : Bool :=
  c.ed25519Verify (hexToBytes claimedBundle.signedPreKeySignature)
    (buildSignedPreKeyPayload c claimedBundle.deviceId claimedBundle.signedPreKeyId
      (hexToBytes claimedBundle.signedPreKeyPublic)) signingPublicKey

def assertRecipientSignedPreKeyBundle (c : Primitives) (services : SendServices) (did : String)
    (claimedBundle : ClaimedPreKeyBundle) : Except SendError Unit := do
  let signingPublicKey ← extractPublicKey services did
  if verifySignedPreKeyRecord c claimedBundle signingPublicKey then .ok ()
  else .error (.invalidSignedPreKey did claimedBundle.deviceId)

/-! ### The fan-out -/

/-- **A stale session**: it was initiated on a signed pre-key that is not the published one. -/
def IsStale (session : LocalSessionState) (recipientDevice : PublishedDeviceDirectoryEntry) :
    Prop :=
  session.role = .initiator ∧
    session.bootstrap.recipientSignedPreKeyPublic ≠ bytesToHex [] ∧
    recipientDevice.signedPreKeyPublic ≠ bytesToHex [] ∧
    session.bootstrap.recipientSignedPreKeyPublic ≠ recipientDevice.signedPreKeyPublic

instance (session : LocalSessionState) (recipientDevice : PublishedDeviceDirectoryEntry) :
    Decidable (IsStale session recipientDevice) :=
  inferInstanceAs (Decidable (_ ∧ _ ∧ _ ∧ _))

/-- The input of a send.  An envelope that is given is addressed to the recipient, as every caller
addresses it. -/
structure PrepareEncryptedSendInput where
  did : String
  privateKey : Bytes
  e2eConfig : LocalE2EConfig
  receiver : String
  protocol : String
  payload : JsonValue
  type : Option MessageEnvelopeType := none
  replyTo : Option String := none
  threadId : Option String := none
  applicationEnvelope : Option MessageEnvelope := none
  addressed : ∀ envelope, applicationEnvelope = some envelope → envelope.receiver = receiver := by
    simp

structure PreparedEncryptedSendTarget where
  outerEnvelope : MessageEnvelope
  outerEnvelopeBytes : Bytes
  transport : E2ETransport
  senderDeviceId : String
  recipientDeviceId : String
  sessionId : String
  configAfterSend : LocalE2EConfig

structure PrepareEncryptedSendsResult where
  applicationEnvelope : MessageEnvelope
  targets : List PreparedEncryptedSendTarget
  e2eConfig : LocalE2EConfig

/-- What a send draws: the id and the time of its envelope, and the values of each encryption. -/
structure SendDraws where
  envelopeId : String
  timestamp : ℤ
  encryption : String → Ambient

section

variable {σ : Type} (c : Primitives) (services : SendServices) (client : RelayClientLike σ)
  (draws : SendDraws) (input : PrepareEncryptedSendInput)

/-- `claimedBundle`: none beside a session, else the bundle of the relay, verified. -/
def claimBundle (recipientDevice : PublishedDeviceDirectoryEntry)
    (existingSession : Option LocalSessionState) : SendM σ (Option ClaimedPreKeyBundle) :=
  match existingSession with
  | some _ => pure none
  | none => do
      match ← fetchPreKeyBundle client input.receiver recipientDevice.deviceId with
      | none => throw (.noClaimedBundle input.receiver recipientDevice.deviceId)
      | some claimedBundle =>
          SendM.lift (assertRecipientSignedPreKeyBundle c services input.receiver claimedBundle)
          pure (some claimedBundle)

/-- The session that `prepareEncryptedSends` decides on: a stale one is dropped, from the variable
and not from the configuration. -/
def existingSession (nextE2EConfig : LocalE2EConfig)
    (recipientDevice : PublishedDeviceDirectoryEntry) : Option LocalSessionState :=
  (loadLocalSession nextE2EConfig nextE2EConfig.currentDeviceId input.receiver
    recipientDevice.deviceId).filter fun session => ¬IsStale session recipientDevice

/-- The body of the loop. -/
def prepareTarget (applicationEnvelope : MessageEnvelope) (nextE2EConfig : LocalE2EConfig)
    (recipientDevice : PublishedDeviceDirectoryEntry) : SendM σ PreparedEncryptedSendTarget := do
  let claimedBundle ← claimBundle c services client input recipientDevice
    (existingSession input nextE2EConfig recipientDevice)
  let encrypted ← SendM.lift <| (encryptApplicationEnvelope c services.toEnvelopeServices
    (draws.encryption recipientDevice.deviceId)
    { e2eConfig := nextE2EConfig, applicationEnvelope, recipientDevice, claimedBundle }).mapError
      SendError.encryption
  let outerEnvelope := signEncryptedTransportEnvelope c services input.privateKey
    applicationEnvelope encrypted.payload
  pure
    { outerEnvelope := outerEnvelope
      outerEnvelopeBytes := services.encodeMessage outerEnvelope
      transport := encrypted.transport
      senderDeviceId := encrypted.payload.senderDeviceId
      recipientDeviceId := recipientDevice.deviceId
      sessionId := encrypted.payload.sessionId
      configAfterSend := encrypted.e2eConfig }

/-- The loop, over the devices that are left. -/
def prepareTargets (applicationEnvelope : MessageEnvelope) :
    LocalE2EConfig → List PublishedDeviceDirectoryEntry →
      SendM σ (List PreparedEncryptedSendTarget × LocalE2EConfig)
  | nextE2EConfig, [] => pure ([], nextE2EConfig)
  | nextE2EConfig, recipientDevice :: rest => do
      let target ← prepareTarget c services client draws input applicationEnvelope nextE2EConfig
        recipientDevice
      let prepared ← prepareTargets applicationEnvelope target.configAfterSend rest
      pure (target :: prepared.1, prepared.2)

/-- The envelope that is given, or a new one. -/
def applicationEnvelopeOf : Except SendError MessageEnvelope :=
  match input.applicationEnvelope with
  | some applicationEnvelope => .ok applicationEnvelope
  | none =>
      (createEnvelope draws.envelopeId draws.timestamp input.did input.receiver
        (input.type.getD .message) input.protocol input.payload input.replyTo
        input.threadId).map (signEnvelope c services input.privateKey)

def prepareEncryptedSends : SendM σ PrepareEncryptedSendsResult := do
  let applicationEnvelope ← SendM.lift (applicationEnvelopeOf c services draws input)
  let recipientCard ← fetchCard client input.receiver
  let recipientDevices ←
    SendM.lift (selectRecipientDevices services recipientCard input.receiver)
  let prepared ← prepareTargets c services client draws input applicationEnvelope input.e2eConfig
    recipientDevices
  pure { applicationEnvelope, targets := prepared.1, e2eConfig := prepared.2 }

end

/-! ### The recipient's devices -/

variable {did : String} {devices : List PublishedDeviceDirectoryEntry} {α : Type}

/-- The published devices are collected as they stand, and their ids are distinct. -/
theorem collectDevices_eq_ok {uniqueDevices result : List PublishedDeviceDirectoryEntry}
    (hunique : (uniqueDevices.map (·.deviceId)).Nodup)
    (h : collectDevices did uniqueDevices devices = .ok result) :
    result = uniqueDevices ++ devices ∧ (result.map (·.deviceId)).Nodup := by
  induction devices generalizing uniqueDevices with
  | nil =>
    obtain rfl := Except.ok.inj h
    exact ⟨(List.append_nil _).symm, hunique⟩
  | cons device rest ih =>
    rw [collectDevices] at h
    split at h
    · cases h
    · rename_i hfresh
      have hnext : ((uniqueDevices ++ [device]).map (·.deviceId)).Nodup := by
        rw [List.map_append]
        exact hunique.append (List.nodup_singleton _) (by simpa using hfresh)
      obtain ⟨hresult, hnodup⟩ := ih hnext h
      exact ⟨by rw [hresult, List.append_assoc, List.singleton_append], hnodup⟩

/-- **The recipient's devices** are the published ones, under distinct ids. -/
theorem selectRecipientDevices_eq_ok {services : SendServices} {card : Option AgentCard}
    (h : selectRecipientDevices services card did = .ok devices) :
    ∃ published, card = some published ∧ devices.Perm (published.devices.getD []) ∧
      (devices.map (·.deviceId)).Nodup := by
  cases card with
  | none => cases h
  | some published =>
    simp only [selectRecipientDevices] at h
    split at h
    · cases h
    · obtain ⟨uniqueDevices, hcollect, hsorted⟩ := bind_eq_ok.mp h
      obtain ⟨hall, hnodup⟩ := collectDevices_eq_ok (by simp) hcollect
      obtain rfl := Except.ok.inj hsorted
      rw [List.nil_append] at hall
      subst hall
      refine ⟨published, rfl, List.perm_insertionSort _ _, ?_⟩
      exact ((List.perm_insertionSort _ _).map _).nodup_iff.mpr hnodup

/-! ### Sessions in place -/

/-- **Every session stands under the key of its peer**, and every device under its own id. -/
structure Shelved (config : LocalE2EConfig) : Prop where
  keyed : config.Keyed
  key : ∀ {slot session}, sessionAt config slot = some session →
    slot.key = buildLocalSessionKey session.peerDid session.peerDeviceId

/-- What the operations of the daemon keep is more. -/
theorem Filed.shelved {config : LocalE2EConfig} (h : Filed config) : Shelved config :=
  ⟨h.keyed, h.key⟩

/-- The slots of two devices of one peer are two. -/
theorem peerSlot_inj {deviceId peerDid peerDeviceId peerDeviceId' : String} :
    peerSlot deviceId peerDid peerDeviceId = peerSlot deviceId peerDid peerDeviceId' ↔
      peerDeviceId = peerDeviceId' := by
  constructor
  · intro h
    have hkey := congrArg (fun slot => slot.key.toList) h
    simp only [peerSlot, buildLocalSessionKey_toList, List.append_cancel_left_eq,
      List.cons.injEq, true_and] at hkey
    exact String.toList_inj.mp hkey
  · rintro rfl
    rfl

/-! ### The second choice -/

section

variable {c : Primitives} {amb : Ambient}

/-- What `encryptApplicationEnvelope` decides on: the stored session, stale or not. -/
def transportOf (config : LocalE2EConfig) (receiver : String)
    (recipientDevice : PublishedDeviceDirectoryEntry) : E2ETransport :=
  if (loadLocalSession config config.currentDeviceId receiver recipientDevice.deviceId).isSome then
    .session
  else .prekey

/-- **One slot.**  An encryption fills the slot of its recipient device, with the session that it
names; a first message fills it with a session on the published signed pre-key. -/
theorem encryptApplicationEnvelope_slots {services : EnvelopeServices}
    {input : EncryptApplicationEnvelopeInput} {encrypted : EncryptApplicationEnvelopeResult}
    (hshelved : Shelved input.e2eConfig)
    (h : encryptApplicationEnvelope c services amb input = .ok encrypted) :
    encrypted.transport = transportOf input.e2eConfig input.applicationEnvelope.receiver
        input.recipientDevice ∧
      encrypted.e2eConfig.currentDeviceId = input.e2eConfig.currentDeviceId ∧
      Shelved encrypted.e2eConfig ∧
      ∃ session, session.sessionId = encrypted.payload.sessionId ∧
        (encrypted.transport = .prekey → session.bootstrap.recipientSignedPreKeyPublic
          = input.recipientDevice.signedPreKeyPublic) ∧
        ∀ slot, sessionAt encrypted.e2eConfig slot
          = if peerSlot input.e2eConfig.currentDeviceId input.applicationEnvelope.receiver
                input.recipientDevice.deviceId = slot then some session
            else sessionAt input.e2eConfig slot := by
  have hfilled {deviceId : String} {session : LocalSessionState}
      (hnext : ∀ slot, sessionAt encrypted.e2eConfig slot
        = if session.slot deviceId = slot then some session else sessionAt input.e2eConfig slot)
      (hkeyed : encrypted.e2eConfig.Keyed) : Shelved encrypted.e2eConfig := by
    refine ⟨hkeyed, fun {slot found} hfound => ?_⟩
    rw [hnext] at hfound
    split at hfound
    · rename_i hsame
      obtain rfl := Option.some.inj hfound
      rw [← hsame]
      rfl
    · exact hshelved.key hfound
  simp only [encryptApplicationEnvelope] at h
  rw [transportOf]
  cases hload : loadLocalSession input.e2eConfig input.e2eConfig.currentDeviceId
      input.applicationEnvelope.receiver input.recipientDevice.deviceId with
  | some existing =>
    simp only [hload, bind_eq_ok, Except.ok.injEq] at h
    obtain ⟨ratchet, hratchet, config, hstore, rfl⟩ := h
    obtain ⟨hid, _, hpeerDevice, hpeer⟩ := encryptRatchetMessage_routing hratchet
    obtain ⟨_, _, hmessage, _⟩ := encryptRatchetMessage_header hratchet
    -- the session goes back to the slot it was loaded from
    have hslot : ratchet.session.slot input.e2eConfig.currentDeviceId
        = peerSlot input.e2eConfig.currentDeviceId input.applicationEnvelope.receiver
            input.recipientDevice.deviceId := by
      rw [loadLocalSession_eq] at hload
      have hkey : buildLocalSessionKey input.applicationEnvelope.receiver
          input.recipientDevice.deviceId
            = buildLocalSessionKey existing.peerDid existing.peerDeviceId := hshelved.key hload
      rw [LocalSessionState.slot, hpeer, hpeerDevice, peerSlot, peerSlot, hkey]
    refine ⟨rfl, ?_, hfilled (sessionAt_of_store hstore) (Keyed.store hshelved.keyed hstore),
      ratchet.session, hid.trans hmessage.symm, fun habsurd => ?_, fun slot => ?_⟩
    · obtain ⟨_, _, rfl⟩ := storeLocalSession_eq_ok.mp hstore
      rfl
    · cases habsurd
    · rw [← hslot]
      exact sessionAt_of_store hstore slot
  | none =>
    cases hbundle : input.claimedBundle with
    | none => simp [hload, hbundle] at h
    | some claimedBundle =>
      simp only [hload, hbundle, bind_eq_ok, Except.ok.injEq] at h
      obtain ⟨built, hbuild, rfl⟩ := h
      obtain ⟨hdirectory, device, hdevice, _, hseal, hsession, hstore⟩ :=
        buildInitiatorPreKeyMessage_eq_ok.mp hbuild
      obtain ⟨hheader, _⟩ := encryptPreKeyMessage_eq_ok.mp hseal
      obtain ⟨_, _, hmade⟩ := createInitiatorRatchetSession_eq_ok.mp hsession
      obtain ⟨hdeviceId, _, hsigned, _⟩ := assertBundleMatchesDirectory_eq_ok.mp hdirectory
      have hself : device.deviceId = input.e2eConfig.currentDeviceId :=
        hshelved.keyed _ device (getCurrentDeviceState_eq_ok.mp hdevice)
      have hslot : built.session.slot device.deviceId
          = peerSlot input.e2eConfig.currentDeviceId input.applicationEnvelope.receiver
              input.recipientDevice.deviceId := by
        rw [hmade, hself, hdeviceId]
        rfl
      refine ⟨rfl, ?_, hfilled (sessionAt_of_store hstore) (Keyed.store hshelved.keyed hstore),
        built.session, ?_, fun _ => ?_, fun slot => ?_⟩
      · obtain ⟨_, _, hconfig⟩ := storeLocalSession_eq_ok.mp hstore
        rw [hconfig]
      · rw [hmade]
        show _ = built.message.sessionId
        rw [hheader]
        rfl
      · rw [hmade, hsigned]
        rfl
      · rw [← hslot]
        exact sessionAt_of_store hstore slot

end

/-! ### One device -/

/-- A mapped error changes no value. -/
theorem mapError_eq_ok {ε ε' : Type} {f : ε → ε'} {x : Except ε α} {a : α} :
    x.mapError f = .ok a ↔ x = .ok a := by
  cases x <;> simp [Except.mapError]

section

variable {σ : Type} {c : Primitives} {services : SendServices} {client : RelayClientLike σ}
  {draws : SendDraws} {input : PrepareEncryptedSendInput} {start finish : RelayRun σ}

variable {device : PublishedDeviceDirectoryEntry} {applicationEnvelope : MessageEnvelope}
  {config final : LocalE2EConfig} {target : PreparedEncryptedSendTarget}
  {devices : List PublishedDeviceDirectoryEntry} {targets : List PreparedEncryptedSendTarget}
  {relay : σ}

/-- **A claim** is made when no session was decided on, and goes to the log of the run. -/
theorem claimBundle_returns {session : Option LocalSessionState}
    {claimedBundle : Option ClaimedPreKeyBundle}
    (h : (claimBundle c services client input device session).Returns start claimedBundle finish) :
    finish.claimed = start.claimed ++ if session.isNone then [device.deviceId] else [] := by
  cases session with
  | some session =>
    obtain ⟨_, rfl⟩ := returns_pure.mp h
    exact (List.append_nil _).symm
  | none =>
    obtain ⟨answer, middle, hfetch, hrest⟩ := returns_bind.mp h
    have hmiddle : middle.claimed = start.claimed ++ [device.deviceId] := by
      rw [← (Prod.mk.inj hfetch).2]
    cases answer with
    | none => exact absurd hrest returns_throw
    | some claimedBundle =>
      obtain ⟨_, _, hassert, hpure⟩ := returns_bind.mp hrest
      obtain ⟨_, rfl⟩ := returns_lift.mp hassert
      obtain ⟨_, rfl⟩ := returns_pure.mp hpure
      exact hmiddle

/-- The session that a configuration stores with a device of the recipient. -/
def sessionWith (input : PrepareEncryptedSendInput) (config : LocalE2EConfig)
    (device : PublishedDeviceDirectoryEntry) : Option LocalSessionState :=
  loadLocalSession config config.currentDeviceId input.receiver device.deviceId

/-- **What a target leaves behind**: the session it was sealed on, which is on the published signed
pre-key after a first message. -/
structure Sealed (input : PrepareEncryptedSendInput) (config : LocalE2EConfig)
    (device : PublishedDeviceDirectoryEntry) (target : PreparedEncryptedSendTarget)
    (session : LocalSessionState) : Prop where
  recipient : target.recipientDeviceId = device.deviceId
  stored : sessionWith input config device = some session
  named : session.sessionId = target.sessionId
  published : target.transport = .prekey →
    session.bootstrap.recipientSignedPreKeyPublic = device.signedPreKeyPublic

/-- **The step of the loop**: a bundle is claimed by the first choice, the transport is the second,
and no session with another device changes. -/
theorem prepareTarget_returns (haddressed : applicationEnvelope.receiver = input.receiver)
    (hshelved : Shelved config)
    (h : (prepareTarget c services client draws input applicationEnvelope config device).Returns
      start target finish) :
    finish.claimed = start.claimed ++
        (if (existingSession input config device).isNone then [device.deviceId] else []) ∧
      target.transport = transportOf config input.receiver device ∧
      Shelved target.configAfterSend ∧
      (∃ session, Sealed input target.configAfterSend device target session) ∧
      ∀ other, other.deviceId ≠ device.deviceId →
        sessionWith input target.configAfterSend other = sessionWith input config other := by
  obtain ⟨claimedBundle, middle, hclaim, hrest⟩ := returns_bind.mp h
  obtain ⟨encrypted, _, hlift, hpure⟩ := returns_bind.mp hrest
  obtain ⟨hencrypt, rfl⟩ := returns_lift.mp hlift
  obtain ⟨rfl, rfl⟩ := returns_pure.mp hpure
  obtain ⟨htransport, hcurrent, hkept, session, hid, hpublished, hslots⟩ :=
    encryptApplicationEnvelope_slots hshelved (mapError_eq_ok.mp hencrypt)
  simp only [haddressed] at htransport hslots
  refine ⟨claimBundle_returns hclaim, htransport, hkept, ⟨session, rfl, ?_, hid, hpublished⟩,
    fun other hother => ?_⟩
  · rw [sessionWith, loadLocalSession_eq, hslots, hcurrent, if_pos rfl]
  · rw [sessionWith, loadLocalSession_eq, hslots, hcurrent, if_neg]
    · rfl
    · intro hsame
      exact hother (peerSlot_inj.mp hsame).symm

/-! ### The loop -/

/-- **What a run over devices has done** with the configuration it started from. -/
structure FanOut (input : PrepareEncryptedSendInput) (config final : LocalE2EConfig)
    (devices : List PublishedDeviceDirectoryEntry) (targets : List PreparedEncryptedSendTarget) :
    Prop where
  sent : targets.map (fun target => (target.recipientDeviceId, target.transport))
    = devices.map fun device => (device.deviceId, transportOf config input.receiver device)
  filled : ∀ device ∈ devices, ∃ target ∈ targets, ∃ session,
    Sealed input final device target session
  frame : ∀ other, other.deviceId ∉ devices.map (·.deviceId) →
    sessionWith input final other = sessionWith input config other
  shelved : Shelved final

theorem transportOf_eq :
    transportOf config input.receiver device
      = if (sessionWith input config device).isSome then .session else .prekey := rfl

theorem existingSession_eq :
    existingSession input config device
      = (sessionWith input config device).filter fun session => ¬IsStale session device := rfl

/-- **The run of the loop.**  Each device is decided on over the configuration that the loop has
started from: what was sealed for the devices before it is in other slots. -/
theorem prepareTargets_returns {prepared : List PreparedEncryptedSendTarget × LocalE2EConfig}
    (haddressed : applicationEnvelope.receiver = input.receiver) (hshelved : Shelved config)
    (hnodup : (devices.map (·.deviceId)).Nodup)
    (h : (prepareTargets c services client draws input applicationEnvelope config devices).Returns
      start prepared finish) :
    finish.claimed = start.claimed ++ (devices.filter fun device =>
        (existingSession input config device).isNone).map (·.deviceId) ∧
      FanOut input config prepared.2 devices prepared.1 := by
  induction devices generalizing config start prepared with
  | nil =>
    obtain ⟨rfl, rfl⟩ := returns_pure.mp h
    refine ⟨(List.append_nil _).symm, rfl, fun device hdevice => ?_, fun _ _ => rfl, hshelved⟩
    cases hdevice
  | cons device rest ih =>
    rw [List.map_cons, List.nodup_cons] at hnodup
    obtain ⟨target, middle, hfirst, hrest⟩ := returns_bind.mp h
    obtain ⟨⟨targets, final⟩, _, hrest, hpure⟩ := returns_bind.mp hrest
    obtain ⟨rfl, rfl⟩ := returns_pure.mp hpure
    obtain ⟨hclaimed, htransport, hnext, ⟨session, hsealed⟩, hother⟩ :=
      prepareTarget_returns haddressed hshelved hfirst
    obtain ⟨hclaimedRest, hsent, hfilled, hframe, hfinal⟩ := ih hnext hnodup.2 hrest
    -- the devices behind this one are other devices
    have hunchanged (other : PublishedDeviceDirectoryEntry) (hmem : other ∈ rest) :
        sessionWith input target.configAfterSend other = sessionWith input config other := by
      apply hother
      intro hsame
      exact hnodup.1 (hsame ▸ List.mem_map_of_mem hmem)
    refine ⟨?_, ?_, ?_, ?_, hfinal⟩
    · have hfilter : (rest.filter fun other =>
          (existingSession input target.configAfterSend other).isNone)
          = rest.filter fun other => (existingSession input config other).isNone := by
        apply List.filter_congr
        intro other hmem
        rw [existingSession_eq, existingSession_eq, hunchanged other hmem]
      rw [hclaimedRest, hclaimed, hfilter, List.append_assoc, List.filter_cons]
      split
      · rfl
      · rfl
    · rw [List.map_cons, List.map_cons, hsealed.recipient, htransport, hsent]
      congr 1
      apply List.map_congr_left
      intro other hmem
      rw [transportOf_eq, transportOf_eq, hunchanged other hmem]
    · intro found hfound
      rcases List.mem_cons.mp hfound with rfl | hmem
      · refine ⟨target, List.mem_cons_self, session, hsealed.recipient, ?_, hsealed.named,
          hsealed.published⟩
        rw [hframe found hnodup.1, hsealed.stored]
      · obtain ⟨later, hlater, hsealedLater⟩ := hfilled found hmem
        exact ⟨later, List.mem_cons_of_mem _ hlater, hsealedLater⟩
    · intro other hmem
      rw [List.map_cons, List.mem_cons, not_or] at hmem
      rw [hframe other hmem.2, hother other hmem.1]

/-! ### The two choices -/

/-- **The two choices agree.**  Bundles are claimed for the devices that are sent a first message;
a stale session is replaced by a new one, on the published signed pre-key; and every other session
is sent on, without a claim. -/
structure SendsAgree (input : PrepareEncryptedSendInput)
    (devices : List PublishedDeviceDirectoryEntry) (claimed : List String)
    (result : PrepareEncryptedSendsResult) : Prop where
  claimed_exactly : claimed
    = (result.targets.filter fun target => target.transport = .prekey).map (·.recipientDeviceId)
  renewed : ∀ device ∈ devices, ∀ session,
    sessionWith input input.e2eConfig device = some session → IsStale session device →
      ∃ target ∈ result.targets, target.transport = .prekey ∧
        ∃ fresh, Sealed input result.e2eConfig device target fresh ∧ fresh ≠ session
  kept : ∀ device ∈ devices, ∀ session,
    sessionWith input input.e2eConfig device = some session → ¬IsStale session device →
      ∃ target ∈ result.targets, target.recipientDeviceId = device.deviceId ∧
        target.transport = .session ∧ device.deviceId ∉ claimed

/-- What a device is sent is decided by the stored session. -/
theorem FanOut.transport (h : FanOut input config final devices targets)
    (hnodup : (devices.map (·.deviceId)).Nodup) (hdevice : device ∈ devices)
    (htarget : target ∈ targets) (hrecipient : target.recipientDeviceId = device.deviceId) :
    target.transport = transportOf config input.receiver device := by
  have hmem : (target.recipientDeviceId, target.transport) ∈ targets.map
      fun target => (target.recipientDeviceId, target.transport) :=
    List.mem_map_of_mem (f := fun t : PreparedEncryptedSendTarget =>
      (t.recipientDeviceId, t.transport)) htarget
  rw [h.sent] at hmem
  obtain ⟨found, hfound, hpair⟩ := List.mem_map.mp hmem
  obtain ⟨hid, htransport⟩ := Prod.mk.inj hpair
  have hsame : found = device :=
    List.inj_on_of_nodup_map hnodup hfound hdevice (hid.trans hrecipient)
  rw [← htransport, hsame]

/-- The devices that are sent a first message are those without a session. -/
theorem FanOut.prekey (h : FanOut input config final devices targets) :
    (targets.filter fun target => target.transport = .prekey).map (·.recipientDeviceId)
      = (devices.filter fun device =>
          (sessionWith input config device).isNone).map (·.deviceId) := by
  have hsent := congrArg (fun sent : List (String × E2ETransport) =>
    (sent.filter fun pair => pair.2 = .prekey).map Prod.fst) h.sent
  simp only [List.filter_map, List.map_map] at hsent
  rw [show (targets.filter fun target => target.transport = .prekey).map (·.recipientDeviceId)
    = _ from hsent]
  show (devices.filter fun device =>
    decide (transportOf config input.receiver device = .prekey)).map (·.deviceId) = _
  congr 1
  apply List.filter_congr
  intro device _
  rw [transportOf_eq]
  cases sessionWith input config device with
  | none => rfl
  | some session => rfl

/-- The envelope of a send is addressed to its recipient. -/
theorem applicationEnvelopeOf_receiver
    (h : applicationEnvelopeOf c services draws input = .ok applicationEnvelope) :
    applicationEnvelope.receiver = input.receiver := by
  rw [applicationEnvelopeOf] at h
  cases hgiven : input.applicationEnvelope with
  | some given =>
    simp only [hgiven, Except.ok.injEq] at h
    rw [← h]
    exact input.addressed given hgiven
  | none =>
    simp only [hgiven, createEnvelope] at h
    split at h
    · cases h
    · obtain rfl := Except.ok.inj h
      rfl

theorem fetchCard_returns {did : String} {store : σ} {claimed : List String}
    {card : Option AgentCard} {fetched : Option AgentCard}
    (hcard : client.fetchCard store did = (.ok card, relay))
    (h : (fetchCard client did).Returns { relay := store, claimed } fetched finish) :
    fetched = card ∧ finish = { relay, claimed } := by
  rw [SendM.Returns] at h
  obtain ⟨hanswer, hfinish⟩ := Prod.mk.inj h
  rw [hcard] at hanswer hfinish
  exact ⟨(Except.ok.inj hanswer).symm, hfinish.symm⟩

/-- **The run of a send**: one target for each published device, and a claim for each device that
no session was decided on for. -/
theorem prepareEncryptedSends_returns {card : AgentCard} {store : σ}
    {result : PrepareEncryptedSendsResult} (hshelved : Shelved input.e2eConfig)
    (hcard : client.fetchCard store input.receiver = (.ok (some card), relay))
    (hrun : (prepareEncryptedSends c services client draws input).Returns
      { relay := store, claimed := [] } result finish) :
    ∃ devices : List PublishedDeviceDirectoryEntry, devices.Perm (card.devices.getD []) ∧
      (devices.map (·.deviceId)).Nodup ∧
      finish.claimed = (devices.filter fun device =>
        (existingSession input input.e2eConfig device).isNone).map (·.deviceId) ∧
      FanOut input input.e2eConfig result.e2eConfig devices result.targets := by
  obtain ⟨applicationEnvelope, _, hliftEnvelope, hafterEnvelope⟩ := returns_bind.mp hrun
  obtain ⟨henvelope, rfl⟩ := returns_lift.mp hliftEnvelope
  obtain ⟨fetched, _, hfetch, hafterCard⟩ := returns_bind.mp hafterEnvelope
  obtain ⟨rfl, rfl⟩ := fetchCard_returns hcard hfetch
  obtain ⟨devices, _, hliftDevices, hafterDevices⟩ := returns_bind.mp hafterCard
  obtain ⟨hselect, rfl⟩ := returns_lift.mp hliftDevices
  obtain ⟨prepared, _, hloop, hpure⟩ := returns_bind.mp hafterDevices
  obtain ⟨rfl, rfl⟩ := returns_pure.mp hpure
  obtain ⟨published, hpublished, hperm, hnodup⟩ := selectRecipientDevices_eq_ok hselect
  obtain rfl := Option.some.inj hpublished
  obtain ⟨hclaimed, hfan⟩ := prepareTargets_returns (applicationEnvelopeOf_receiver henvelope)
    hshelved hnodup hloop
  exact ⟨devices, hperm, hnodup, hclaimed, hfan⟩

/-- **The choices agree when no session is stale**, and not otherwise: the callee finds a stale
session again, and sends on it beside the bundle that was claimed. -/
theorem sends_agree_iff {card : AgentCard} {store relay : σ}
    {result : PrepareEncryptedSendsResult} (hshelved : Shelved input.e2eConfig)
    (hcard : client.fetchCard store input.receiver = (.ok (some card), relay))
    (hrun : (prepareEncryptedSends c services client draws input).Returns
      { relay := store, claimed := [] } result finish) :
    SendsAgree input (card.devices.getD []) finish.claimed result ↔
      ∀ device ∈ card.devices.getD [], ∀ session,
        sessionWith input input.e2eConfig device = some session → ¬IsStale session device := by
  obtain ⟨devices, hperm, hnodup, hclaimed, hfan⟩ :=
    prepareEncryptedSends_returns hshelved hcard hrun
  constructor
  · intro hagree device hmem session hsession hstale
    obtain ⟨target, htarget, hprekey, fresh, hsealed, _⟩ :=
      hagree.renewed device hmem session hsession hstale
    have htransport :=
      hfan.transport hnodup (hperm.mem_iff.mpr hmem) htarget hsealed.recipient
    rw [hprekey, transportOf_eq, hsession] at htransport
    cases htransport
  · intro hfresh
    have hsame : (devices.filter fun device =>
        (existingSession input input.e2eConfig device).isNone)
        = devices.filter fun device => (sessionWith input input.e2eConfig device).isNone := by
      apply List.filter_congr
      intro device hmem
      rw [existingSession_eq]
      cases hsession : sessionWith input input.e2eConfig device with
      | none => rfl
      | some session =>
        have hkept := hfresh device (hperm.mem_iff.mp hmem) session hsession
        simp [hkept]
    rw [hsame] at hclaimed
    refine ⟨hclaimed.trans hfan.prekey.symm, fun device hmem session hsession hstale => ?_,
      fun device hmem session hsession _ => ?_⟩
    · exact absurd hstale (hfresh device hmem session hsession)
    · have hdevice := hperm.mem_iff.mpr hmem
      obtain ⟨target, htarget, _, hsealed⟩ := hfan.filled device hdevice
      refine ⟨target, htarget, hsealed.recipient, ?_, ?_⟩
      · rw [hfan.transport hnodup hdevice htarget hsealed.recipient, transportOf_eq, hsession]
        rfl
      · rw [hclaimed]
        intro habsurd
        obtain ⟨found, hfound, hid⟩ := List.mem_map.mp habsurd
        obtain ⟨hmemFound, hnone⟩ := List.mem_filter.mp hfound
        have hdevices : found = device := List.inj_on_of_nodup_map hnodup hmemFound hdevice hid
        rw [hdevices, hsession] at hnone
        cases hnone

end

/-! ### Two devices, one of them with a new signed pre-key -/

def sampleSendServices : SendServices where
  toEnvelopeServices := sampleServices
  encodeCanonicalJson _ := []
  encodeMessage _ := []
  decodeBase58 _ := some [50]
  localeCompare left right := left ≤ right

/-- A second device of Bob, and his first one after a rotation of its signed pre-key. -/
def bobSecondDevice : LocalDeviceState :=
  ((sampleConfig "device-c" 50 2).devices.get? "device-c").get (by decide +kernel)

def bobRotatedDevice : LocalDeviceState :=
  { bobDevice with
    signedPreKey := buildSignedPreKey sample "device-b" 2 (samplePair 70) [50] 3000 }

/-- A relay that answers for these devices. -/
def bobRelay (devices : List LocalDeviceState) : RelayClientLike Unit where
  fetchCard _ _ := (.ok (some ⟨some (devices.map buildPublishedDeviceDirectoryEntry)⟩), ())
  fetchPreKeyBundle _ _ deviceId :=
    (.ok ((devices.find? fun device => device.deviceId = deviceId).map (sampleBundle · true)), ())

def sampleDraws (seed : UInt8) : SendDraws where
  envelopeId := "msg_1"
  timestamp := 2000
  encryption deviceId := sampleAmbient (if deviceId = "device-b" then seed else seed + 1) 2000

/-- Alice sends to Bob on a configuration of hers. -/
def aliceSend (e2eConfig : LocalE2EConfig) : PrepareEncryptedSendInput where
  did := "did:agent:zAlice"
  privateKey := [10]
  e2eConfig := e2eConfig
  receiver := "did:agent:zBob"
  protocol := "chat"
  payload := .string "hello"

def firstSend : SendM Unit PrepareEncryptedSendsResult :=
  prepareEncryptedSends sample sampleSendServices (bobRelay [bobSecondDevice, bobDevice])
    (sampleDraws 90) (aliceSend aliceConfig)

/-- A run that is evaluated returns what it is evaluated to. -/
theorem returns_valueOf {program : SendM Unit α} {claimed : List String}
    (hok : (program.run.run ⟨(), []⟩).1.isOk = true)
    (hclaimed : (program.run.run ⟨(), []⟩).2.claimed = claimed) :
    program.Returns ⟨(), []⟩ (valueOf _ hok) ⟨(), claimed⟩ := by
  refine Prod.ext (eq_ok_valueOf _ hok) ?_
  show (program.run.run ⟨(), []⟩).2 = _
  rw [← hclaimed]

@[irreducible] def firstSent : PrepareEncryptedSendsResult :=
  valueOf (firstSend.run.run ⟨(), []⟩).1 (by decide +kernel)

theorem firstSend_returns :
    firstSend.Returns ⟨(), []⟩ firstSent ⟨(), ["device-b", "device-c"]⟩ := by
  unfold firstSent
  exact returns_valueOf _ (by decide +kernel)

/-- The first send claims a bundle for both devices, and sends both a first message. -/
theorem sends_agree_sample :
    SendsAgree (aliceSend aliceConfig)
      ([bobSecondDevice, bobDevice].map buildPublishedDeviceDirectoryEntry)
      ["device-b", "device-c"] firstSent := by
  have hnone : ∀ device ∈ [bobSecondDevice, bobDevice].map buildPublishedDeviceDirectoryEntry,
      sessionWith (aliceSend aliceConfig) aliceConfig device = none := by decide +kernel
  refine (sends_agree_iff (Filed.of_sampleConfig "device-a" 10 2).shelved rfl
    firstSend_returns).mpr fun device hmem session hsession => ?_
  rw [show (aliceSend aliceConfig).e2eConfig = aliceConfig from rfl, hnone device hmem] at hsession
  cases hsession

/-- Alice sends again, after the rotation. -/
def secondSend : SendM Unit PrepareEncryptedSendsResult :=
  prepareEncryptedSends sample sampleSendServices (bobRelay [bobSecondDevice, bobRotatedDevice])
    (sampleDraws 94) (aliceSend firstSent.e2eConfig)

@[irreducible] def secondSent : PrepareEncryptedSendsResult :=
  valueOf (secondSend.run.run ⟨(), []⟩).1 (by decide +kernel)

theorem secondSend_returns : secondSend.Returns ⟨(), []⟩ secondSent ⟨(), ["device-b"]⟩ := by
  unfold secondSent
  exact returns_valueOf _ (by decide +kernel)

/-- **A stale session is kept.**  The second send claims a bundle for the device that has rotated,
and then sends on the session that it has discarded. -/
theorem stale_session_kept :
    Shelved firstSent.e2eConfig ∧
      (∃ session, sessionWith (aliceSend firstSent.e2eConfig) firstSent.e2eConfig
          (buildPublishedDeviceDirectoryEntry bobRotatedDevice) = some session ∧
        IsStale session (buildPublishedDeviceDirectoryEntry bobRotatedDevice)) ∧
      secondSend.Returns ⟨(), []⟩ secondSent ⟨(), ["device-b"]⟩ ∧
      secondSent.targets.map (fun target => (target.recipientDeviceId, target.transport))
        = [("device-b", .session), ("device-c", .session)] ∧
      ¬SendsAgree (aliceSend firstSent.e2eConfig)
        ([bobSecondDevice, bobRotatedDevice].map buildPublishedDeviceDirectoryEntry)
        ["device-b"] secondSent := by
  obtain ⟨_, _, _, _, hfan⟩ := prepareEncryptedSends_returns
    (Filed.of_sampleConfig "device-a" 10 2).shelved rfl firstSend_returns
  have hstale : (sessionWith (aliceSend firstSent.e2eConfig) firstSent.e2eConfig
      (buildPublishedDeviceDirectoryEntry bobRotatedDevice)).any (fun session =>
        IsStale session (buildPublishedDeviceDirectoryEntry bobRotatedDevice)) = true := by
    decide +kernel
  rw [Option.any_eq_true] at hstale
  obtain ⟨session, hsession, hsessionStale⟩ := hstale
  have hprekey : (secondSent.targets.filter fun target => target.transport = .prekey).map
      (·.recipientDeviceId) = [] := by
    decide +kernel
  refine ⟨hfan.shelved, ⟨session, hsession, of_decide_eq_true hsessionStale⟩, secondSend_returns,
    by decide +kernel, fun hagree => ?_⟩
  -- a bundle was claimed, and no target is a first message
  have hexactly := hagree.claimed_exactly
  rw [hprekey] at hexactly
  cases hexactly

end QuadraA.Runtime
