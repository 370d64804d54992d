import QuadraA.E2E.DeviceRun
import QuadraA.E2E.SamplePrimitives

/-!
# A first message that is delivered again

The relay delivers at least once, so an accepted `PREKEY_MESSAGE` can come back at any later time.
What stands between the copy and the stored session is the receiver's bookkeeping of its pre-keys:

* `redelivery_keeps_session` — a copy can never change the stored session exactly when the message
  names a one-time pre-key or the signed pre-key has been rotated since;
* `redelivery_resets_session` — a run in which a copy replaces a session that is in use.
-/

namespace QuadraA.E2E

open QuadraA.Lib

/-- The condition under which the receiver refuses a copy: the message names a one-time pre-key, or
it was sent to a signed pre-key that the device has replaced. -/
def ReplayGuarded (config : LocalE2EConfig) (message : PreKeyMessage) : Prop :=
  message.recipientOneTimePreKeyId ≠ none ∨
    ∀ device, config.devices.get? message.receiverDeviceId = some device →
      device.signedPreKey.signedPreKeyId ≠ message.recipientSignedPreKeyId

/-- The event is a delivery of `message`, accepted or refused. -/
def DeviceEvent.Delivers (message : PreKeyMessage) : DeviceEvent → Prop
  | .consume delivered _ => delivered = message
  | .refuse delivered _ => delivered = .prekey message
  | _ => False

/-- **Fresh one-time pre-keys**: the keys that a resupply draws lead, for every first message that
was accepted before with a one-time pre-key, to another secret than the accepted one. -/
def FreshDraw (c : Primitives) (history : List DeviceEvent) (event : DeviceEvent)
    (config : LocalE2EConfig) : Prop :=
  ∀ deviceId, event = .resupply deviceId →
    ∀ device, config.devices.get? deviceId = some device →
    ∀ message result, .consume message result ∈ history →
      message.receiverDeviceId = deviceId → message.recipientOneTimePreKeyId ≠ none →
    ∀ key ∈ device.oneTimePreKeys,
      deriveX3dhResponderSharedSecret c (responderX3dhInput message device (some key))
        ≠ .ok result.sharedSecret

/-! ### What the receiver keeps about an accepted message -/

/-- **An accepted message, later on.**  Under the signed pre-key it was sent to, an unclaimed key
with the id it names leads to another secret, and a message without a one-time pre-key still leads
to the same one. -/
structure Accepted (c : Primitives) (did : String) (device : LocalDeviceState)
    (message : PreKeyMessage) (result : ConsumeResponderPreKeyMessageResult) : Prop where
  receiverDid : message.receiverDid = did
  signedPreKeyId_le : message.recipientSignedPreKeyId ≤ device.signedPreKey.signedPreKeyId
  opens : decryptPreKeyMessage c message result.sharedSecret = .ok result.plaintext
  spent : message.recipientSignedPreKeyId = device.signedPreKey.signedPreKeyId →
    ∀ keyId key, message.recipientOneTimePreKeyId = some keyId →
      findOneTimePreKey device keyId = some key → key.claimedAt = none →
      deriveX3dhResponderSharedSecret c (responderX3dhInput message device (some key))
        ≠ .ok result.sharedSecret
  repeats : message.recipientSignedPreKeyId = device.signedPreKey.signedPreKeyId →
    message.recipientOneTimePreKeyId = none →
    deriveX3dhResponderSharedSecret c (responderX3dhInput message device none)
        = .ok result.sharedSecret ∧
      ∃ dhOutput, diffieHellmanX25519 c (hexToBytes device.signedPreKey.privateKey)
        message.initiatorEphemeralKey = .ok dhOutput

section

variable {c : Primitives} {did : String} {signingPrivateKey : Bytes}

variable {config : LocalE2EConfig} {device : LocalDeviceState} {message : PreKeyMessage}
  {result accepted : ConsumeResponderPreKeyMessageResult} {amb : Ambient} {now : Option ℕ}

/-- **One step, one accepted message.**  A device keeps what it knows, if the keys it draws are
fresh. -/
theorem Accepted.change {deviceId : String} {device' : LocalDeviceState} {event : DeviceEvent}
    (hdevice : config.devices.get? deviceId = some device)
    (hchange : DeviceChange c signingPrivateKey config deviceId device event device')
    (hfresh : event = .resupply deviceId → message.recipientOneTimePreKeyId ≠ none →
      ∀ key ∈ device'.oneTimePreKeys,
        deriveX3dhResponderSharedSecret c (responderX3dhInput message device' (some key))
          ≠ .ok result.sharedSecret) (h : Accepted c did device message result) :
    Accepted c did device' message result := by
  cases hchange with
  | sessions _ hsame =>
    generalize device'.sessions = sessions at hsame
    subst hsame
    exact ⟨h.receiverDid, h.signedPreKeyId_le, h.opens, h.spent, h.repeats⟩
  | @claim _ _ keyId now key _ _ _ _ _ hsame =>
    generalize device'.sessions = sessions at hsame
    subst hsame
    refine ⟨h.receiverDid, h.signedPreKeyId_le, h.opens, ?_, h.repeats⟩
    intro hsigned keyId' key' hnames hfind hfree
    simp only [findOneTimePreKey, findOneTimePreKey_markClaimed] at hfind
    by_cases hid : keyId = keyId'
    · -- the marked key is found claimed
      rw [if_pos hid, Option.map_eq_some_iff] at hfind
      obtain ⟨_, _, rfl⟩ := hfind
      cases hfree
    · rw [if_neg hid] at hfind
      exact h.spent hsigned keyId' key' hnames hfind hfree
  | resupply _ =>
    refine ⟨h.receiverDid, h.signedPreKeyId_le, h.opens, ?_, h.repeats⟩
    intro _ keyId key hnames hfind _
    refine hfresh rfl ?_ key (List.mem_of_find?_eq_some hfind)
    rw [hnames]
    exact Option.some_ne_none keyId
  | rotate _ =>
    have hlt := lt_nextSignedPreKeyId hdevice
    have hle := h.signedPreKeyId_le
    have hne (hsame : message.recipientSignedPreKeyId = nextSignedPreKeyId config none) :
        False := by omega
    refine ⟨h.receiverDid, ?_, h.opens, fun hsame => absurd hsame hne,
      fun hsame => absurd hsame hne⟩
    show message.recipientSignedPreKeyId ≤ nextSignedPreKeyId config none
    omega

/-- **The acceptance itself**: the key that the message names is claimed from here on. -/
theorem accepted_of_consume
    (h : consumeResponderPreKeyMessage c amb
      { e2eConfig := config, receiverDid := did, message := message, now := now } = .ok result) :
    ∃ device, result.e2eConfig.devices.get? message.receiverDeviceId = some device ∧
      Accepted c did device message result := by
  obtain ⟨hdid, receiver, hreceiver, oneTimePreKey, hselect, hsigned, hsecret, hopen, hsession,
    hstore⟩ := consumeResponderPreKeyMessage_eq_ok.mp h
  obtain ⟨sessions, hnext⟩ := device_of_store hstore (Record.get?_set_self ..)
  refine ⟨_, hnext, ?_⟩
  obtain ⟨dhOutput, hdh, _⟩ := createResponderRatchetSession_eq_ok.mp hsession
  rcases selectOneTimePreKey_eq_ok.mp hselect with ⟨hnone, rfl⟩ | ⟨keyId, key, hid, hfind, _, rfl⟩
  · refine ⟨hdid, Nat.le_of_eq hsigned, hopen, ?_, fun _ _ => ⟨hsecret, dhOutput, hdh⟩⟩
    intro _ keyId key hnames
    rw [hnone] at hnames
    cases hnames
  · have hkeyId : key.keyId = keyId := by simpa using List.find?_some hfind
    refine ⟨hdid, Nat.le_of_eq hsigned, hopen, ?_, ?_⟩
    · intro _ keyId' key' hnames hfind' hfree
      obtain rfl : keyId = keyId' := by
        rw [hid, Option.some.injEq] at hnames
        exact hnames
      simp only [findOneTimePreKey, LocalDeviceState.markOneTimePreKey, hkeyId,
        findOneTimePreKey_markClaimed, if_true, Option.map_eq_some_iff] at hfind'
      obtain ⟨_, _, rfl⟩ := hfind'
      cases hfree
    · intro _ hnone
      rw [hid] at hnone
      cases hnone

/-- **Every run**: devices stay under their ids, and what was accepted stays accepted. -/
theorem accepted_of_run {start : LocalE2EConfig} {events : List DeviceEvent} (hkeyed : start.Keyed)
    (hrun : GuardedTrace (DeviceStep c did signingPrivateKey) (FreshDraw c) start events config) :
    config.Keyed ∧ ∀ message result, .consume message result ∈ events →
      ∃ device, config.devices.get? message.receiverDeviceId = some device ∧
        Accepted c did device message result := by
  refine hrun.invariant (fun events config => config.Keyed ∧
    ∀ message result, .consume message result ∈ events →
      ∃ device, config.devices.get? message.receiverDeviceId = some device ∧
        Accepted c did device message result) ?_ ?_
  · exact ⟨hkeyed, fun _ _ h => absurd h List.not_mem_nil⟩
  · intro events config event config' _ hinv hstep hfresh
    obtain ⟨hkeyed, haccepted⟩ := hinv
    refine ⟨hstep.keyed hkeyed, ?_⟩
    intro message result hmem
    rcases List.mem_append.mp hmem with hold | hnew
    · obtain ⟨device, hdevice, hknown⟩ := haccepted message result hold
      obtain ⟨device', hdevice', hchange⟩ := hstep.device hdevice
      refine ⟨device', hdevice', hknown.change hdevice hchange ?_⟩
      intro hevent hnames
      exact hfresh _ hevent device' hdevice' message result hold rfl hnames
    · rw [List.mem_singleton] at hnew
      subst hnew
      cases hstep with
      | consume hconsume => exact accepted_of_consume hconsume

/-! ### The copy -/

/-- **A guarded copy is refused.** -/
theorem consume_ne_ok_of_guarded (hideal : c.IdealAEAD)
    (hdevice : config.devices.get? message.receiverDeviceId = some device)
    (hknown : Accepted c did device message accepted) (hguarded : ReplayGuarded config message) :
    consumeResponderPreKeyMessage c amb
      { e2eConfig := config, receiverDid := did, message := message, now := now }
        ≠ .ok result := by
  intro h
  obtain ⟨_, receiver, hreceiver, oneTimePreKey, hselect, hsigned, hsecret, hopen, _⟩ :=
    consumeResponderPreKeyMessage_eq_ok.mp h
  obtain rfl : device = receiver := by
    rw [hdevice, Option.some.injEq] at hreceiver
    exact hreceiver
  rcases hguarded with hnames | hrotated
  · rcases selectOneTimePreKey_eq_ok.mp hselect with ⟨hnone, _⟩ | ⟨keyId, key, hid, hfind, hfree, rfl⟩
    · exact hnames hnone
    · -- one ciphertext opens under one secret, and the unclaimed key leads to another one
      have hsame := (hideal.opens_once (decryptXChaCha20Poly1305_eq_ok.mp hopen).2.2
        (decryptXChaCha20Poly1305_eq_ok.mp hknown.opens).2.2).1
      rw [hsame] at hsecret
      exact hknown.spent hsigned keyId key hid hfind hfree hsecret
  · exact hrotated device hdevice hsigned.symm

/-- **An unguarded copy is accepted**, at any time, and its session fills the slot. -/
theorem consume_of_not_guarded (hkeyed : config.Keyed)
    (hdevice : config.devices.get? message.receiverDeviceId = some device)
    (hknown : Accepted c did device message accepted) (hguarded : ¬ReplayGuarded config message)
    (amb : Ambient) (now : ℕ) :
    ∃ result, consumeResponderPreKeyMessage c amb
        { e2eConfig := config, receiverDid := did, message := message, now := some now }
          = .ok result ∧ result.session.createdAt = now := by
  rw [ReplayGuarded, not_or, not_not] at hguarded
  obtain ⟨hnone, hcurrent⟩ := hguarded
  have hsigned : message.recipientSignedPreKeyId = device.signedPreKey.signedPreKeyId := by
    by_contra hne
    refine hcurrent ?_
    intro other hother
    rw [hdevice, Option.some.injEq] at hother
    subst hother
    exact fun h => hne h.symm
  obtain ⟨hsecret, dhOutput, hdh⟩ := hknown.repeats hsigned hnone
  have hself : device.deviceId = message.receiverDeviceId := hkeyed _ _ hdevice
  let session := createRatchetSession
    (responderSessionInput message device accepted.sharedSecret now)
    (deriveRootAndChainKeys c accepted.sharedSecret dhOutput).rootKey none
    (some (bytesToHex (deriveRootAndChainKeys c accepted.sharedSecret dhOutput).chainKey))
  obtain ⟨next, hstore⟩ : ∃ next, storeLocalSession
      { config with devices := config.devices.set message.receiverDeviceId device }
      device.deviceId session = .ok next := by
    rw [hself]
    exact ⟨_, storeLocalSession_eq_ok.mpr ⟨device, Record.get?_set_self .., rfl⟩⟩
  refine ⟨⟨accepted.plaintext, session, next, accepted.sharedSecret⟩,
    consumeResponderPreKeyMessage_eq_ok.mpr ⟨hknown.receiverDid, device, hdevice, none,
      selectOneTimePreKey_eq_ok.mpr (Or.inl ⟨hnone, rfl⟩), hsigned, hsecret, hknown.opens,
      createResponderRatchetSession_eq_ok.mpr ⟨dhOutput, hdh, rfl⟩, hstore⟩, rfl⟩

/-- **Replay safety, and its exact condition.**  In every run, whatever was exchanged since a first
message was accepted: no later delivery of it can change the stored session with that peer device
if and only if the message names a one-time pre-key or the signed pre-key it was sent to has been
replaced. -/
theorem redelivery_keeps_session (hideal : c.IdealAEAD) {start config : LocalE2EConfig}
    {events : List DeviceEvent} (hkeyed : start.Keyed)
    (hrun : GuardedTrace (DeviceStep c did signingPrivateKey) (FreshDraw c) start events config)
    {message : PreKeyMessage} {accepted : ConsumeResponderPreKeyMessageResult}
    (haccepted : .consume message accepted ∈ events) :
    (∀ event config', DeviceEvent.Delivers message event →
        DeviceStep c did signingPrivateKey config event config' →
        loadLocalSession config' message.receiverDeviceId message.senderDid
            message.senderDeviceId
          = loadLocalSession config message.receiverDeviceId message.senderDid
              message.senderDeviceId) ↔
      ReplayGuarded config message := by
  obtain ⟨hkeyed', hall⟩ := accepted_of_run hkeyed hrun
  obtain ⟨device, hdevice, hknown⟩ := hall message accepted haccepted
  constructor
  · intro hkeeps
    by_contra hguarded
    -- a copy that comes later than the stored session was made replaces it
    obtain ⟨now, hnow⟩ : ∃ now, ∀ session, loadLocalSession config message.receiverDeviceId
        message.senderDid message.senderDeviceId = some session → session.createdAt ≠ now := by
      cases hload : loadLocalSession config message.receiverDeviceId message.senderDid
          message.senderDeviceId with
      | none => exact ⟨0, fun session h => by cases h⟩
      | some stored =>
        refine ⟨stored.createdAt + 1, fun session h => ?_⟩
        rw [Option.some.injEq] at h
        subst h
        omega
    obtain ⟨result, hconsume, hcreated⟩ := consume_of_not_guarded hkeyed' hdevice hknown hguarded
      (Ambient.mk [] "" "" ⟨[], []⟩ now) now
    have hsame := hkeeps (.consume message result) result.e2eConfig rfl (.consume hconsume)
    rw [loadLocalSession_eq, sessionAt_of_consume hkeyed' hconsume, if_pos rfl] at hsame
    exact hnow result.session hsame.symm hcreated
  · intro hguarded event config' hdelivers hstep
    cases hstep with
    | consume hconsume =>
      obtain rfl := hdelivers
      exact absurd hconsume (consume_ne_ok_of_guarded hideal hdevice hknown hguarded)
    | refuse _ => rfl
    | receive _ => exact hdelivers.elim
    | send _ _ _ => exact hdelivers.elim
    | initiate _ _ => exact hdelivers.elim
    | resupply _ _ => exact hdelivers.elim
    | rotate _ _ => exact hdelivers.elim

end

/-! ### Two sample receivers -/

/-- What Bob draws for a resupply. -/
def bobResupply : DeviceAmbient where
  deviceId := ""
  identityKeyPair := samplePair 0
  signedPreKeyPair := samplePair 0
  oneTimePreKeyPair := fun i => samplePair (150 + UInt8.ofNat i)
  now := 3000

theorem bobResupply_generated : bobResupply.Generated sample where
  identityKeyPair := samplePair_isKeyPair _
  signedPreKeyPair := samplePair_isKeyPair _
  oneTimePreKeyPair _ := samplePair_isKeyPair _

/-- Bob after he has accepted Alice's first message and resupplied his one-time pre-keys. -/
@[irreducible] def bobResupplied : LocalE2EConfig :=
  valueOf (resupplyLocalDeviceOneTimePreKeys bobResupply bobConsumed.e2eConfig "device-b" {})
    (by decide +kernel)

theorem bobResupplied_eq :
    resupplyLocalDeviceOneTimePreKeys bobResupply bobConsumed.e2eConfig "device-b" {}
      = .ok bobResupplied := by
  unfold bobResupplied
  exact eq_ok_valueOf _ _

theorem bobResupplied_run :
    GuardedTrace (DeviceStep sample "did:b" [50]) (FreshDraw sample) bobConfig
      [.consume aliceBuilt.message bobConsumed, .resupply "device-b"]
      bobResupplied := by
  refine (GuardedTrace.nil.snoc (.consume bobConsumed_eq) ?_).snoc
    (.resupply bobResupply_generated bobResupplied_eq) ?_
  · intro deviceId h
    cases h
  · intro deviceId hevent device hdevice message result hmem _ _
    obtain ⟨rfl⟩ := hevent
    obtain ⟨rfl, rfl⟩ : message = aliceBuilt.message ∧ result = bobConsumed := by
      simpa using hmem
    have hall : ∀ device ∈ bobResupplied.devices.get? "device-b", ∀ key ∈ device.oneTimePreKeys,
        deriveX3dhResponderSharedSecret sample
          (responderX3dhInput aliceBuilt.message device (some key))
            ≠ .ok bobConsumed.sharedSecret := by
      decide +kernel
    exact hall device hdevice

/-- After the resupply the key of the id that Alice's message names is a new, unclaimed one, and a
copy of the message still leaves the session as it is. -/
theorem redelivery_keeps_session_sample :
    (∃ device ∈ bobResupplied.devices.get? "device-b",
      ∃ key ∈ findOneTimePreKey device 1, key.claimedAt = none) ∧
    ∀ event config', DeviceEvent.Delivers aliceBuilt.message event →
      DeviceStep sample "did:b" [50] bobResupplied event config' →
      loadLocalSession config' aliceBuilt.message.receiverDeviceId aliceBuilt.message.senderDid
          aliceBuilt.message.senderDeviceId
        = loadLocalSession bobResupplied aliceBuilt.message.receiverDeviceId
            aliceBuilt.message.senderDid aliceBuilt.message.senderDeviceId := by
  have hmem : DeviceEvent.consume aliceBuilt.message bobConsumed
      ∈ [.consume aliceBuilt.message bobConsumed, .resupply "device-b"] := by simp
  refine ⟨by decide +kernel, ?_⟩
  exact (redelivery_keeps_session sample_ideal (sampleConfig_keyed _ _ _) bobResupplied_run
    hmem).mpr (Or.inl (by decide +kernel))

/-- Alice's first message, built when no one-time pre-key was left. -/
@[irreducible] def aliceBare : BuildInitiatorPreKeyMessageResult :=
  valueOf (buildInitiatorPreKeyMessage sample (sampleAmbient 90 2000)
    (sampleBuild aliceConfig "did:a" "did:b" bobDevice false [1, 2, 3])) (by decide +kernel)

/-- Bob accepts it. -/
@[irreducible] def bobBare : ConsumeResponderPreKeyMessageResult :=
  valueOf (consumeResponderPreKeyMessage sample (sampleAmbient 91 2001)
    { e2eConfig := bobConfig, receiverDid := "did:b", message := aliceBare.message, now := none })
    (by decide +kernel)

/-- Alice's next message, on the session of the first one. -/
@[irreducible] def aliceSecond : RatchetEncryptResult :=
  valueOf (encryptRatchetMessage sample (sampleAmbient 92 2002)
    { session := aliceBare.session, plaintext := [7], senderDid := "did:a",
      receiverDid := "did:b" }) (by decide +kernel)

/-- Bob receives it on his. -/
@[irreducible] def bobSecond : WireDecryptResult :=
  valueOf (decryptWireMessage sample (sampleAmbient 93 2003) bobBare.e2eConfig "did:b" none
    (.session aliceSecond.message)) (by decide +kernel)

/-- The relay delivers the first message once more. -/
@[irreducible] def bobAgain : ConsumeResponderPreKeyMessageResult :=
  valueOf (consumeResponderPreKeyMessage sample (sampleAmbient 94 2004)
    { e2eConfig := bobSecond.e2eConfig, receiverDid := "did:b", message := aliceBare.message,
      now := none }) (by decide +kernel)

/-- **A copy resets a session in use.**  Bob accepts a first message without a one-time pre-key, a
session message is exchanged, and the copy that the relay delivers then is accepted again: the
stored session is back at message number 0. -/
theorem redelivery_resets_session :
    Trace (DeviceStep sample "did:b" [50]) bobConfig
      [.consume aliceBare.message bobBare, .receive aliceSecond.message]
      bobSecond.e2eConfig ∧
    DeviceStep sample "did:b" [50] bobSecond.e2eConfig (.consume aliceBare.message bobAgain)
      bobAgain.e2eConfig ∧
    loadLocalSession bobAgain.e2eConfig "device-b" "did:a" "device-a"
      ≠ loadLocalSession bobSecond.e2eConfig "device-b" "did:a" "device-a" := by
  have hfirst : consumeResponderPreKeyMessage sample (sampleAmbient 91 2001)
      { e2eConfig := bobConfig, receiverDid := "did:b", message := aliceBare.message,
        now := none } = .ok bobBare := by
    unfold bobBare
    exact eq_ok_valueOf _ _
  have hsecond : decryptWireMessage sample (sampleAmbient 93 2003) bobBare.e2eConfig "did:b" none
      (.session aliceSecond.message) = .ok bobSecond := by
    unfold bobSecond
    exact eq_ok_valueOf _ _
  have hagain : consumeResponderPreKeyMessage sample (sampleAmbient 94 2004)
      { e2eConfig := bobSecond.e2eConfig, receiverDid := "did:b", message := aliceBare.message,
        now := none } = .ok bobAgain := by
    unfold bobAgain
    exact eq_ok_valueOf _ _
  exact ⟨(Trace.nil.snoc (.consume hfirst)).snoc (.receive hsecond), .consume hagain,
    by decide +kernel⟩

end QuadraA.E2E
