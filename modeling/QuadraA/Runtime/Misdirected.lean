import QuadraA.Messaging.StoredOrigins
import QuadraA.Runtime.InboundEnvelopes
import QuadraA.Runtime.LostUpdates
import QuadraA.Runtime.StaleReset

/-!
# Misdirected envelopes

An envelope that is correctly signed by its sender, and addressed to another agent than the daemon
it is delivered to.

* `misdirected_inert_iff` — the one holds exactly when the other does;
* `forwarded_message_stored` — a message for another agent reaches the inbox.

No branch of the handler compares `to` with the DID of the daemon but the one for first messages.
-/

namespace QuadraA.Runtime

open QuadraA.Lib QuadraA.E2E QuadraA.Messaging

/-! ### Sessions that a decryption leaves as they are -/

/-- A message under the number just read, in the millisecond of the last update, on a chain whose
key is its own successor. -/
def RepeatsRead (c : Primitives) (session : LocalSessionState) (message : SessionMessage)
    (now : ℕ) : Prop :=
  session.skippedMessageKeys.find?
      (isSkippedEntry (bytesToHex message.ratchetPublicKey) message.messageNumber) = none ∧
    bytesToHex message.ratchetPublicKey = session.remoteRatchetPublicKey ∧
    message.messageNumber + 1 = session.nextReceiveMessageNumber ∧
    (∃ chainKey, session.receivingChainKey = some chainKey ∧
      bytesToHex (deriveChainStep c (hexToBytes chainKey)).chainKey = chainKey) ∧
    session.updatedAt = now

variable {c : Primitives} {amb : Ambient} {config next : LocalE2EConfig} {deviceId : String}
  {session : LocalSessionState}

/-- **A decryption moves its session**, but for a repeated read. -/
theorem decrypted_session_eq_iff {input : RatchetDecryptInput} {result : RatchetDecryptResult}
    (h : decryptRatchetMessage c amb input = .ok result) :
    result.session = input.session ↔
      RepeatsRead c input.session input.message (input.now.getD amb.now) := by
  rcases decryptRatchetMessage_eq_ok.mp h with ⟨entry, hfind, _, _, _, hsession⟩ | ⟨hnone, hchain⟩
  · -- a stored key is taken out of the store
    constructor
    · intro heq
      rw [hsession] at heq
      have hlength := congrArg (fun s => s.skippedMessageKeys.length) heq
      have hmem := List.mem_of_find?_eq_some hfind
      have hmatch := List.find?_some hfind
      have hshorter := List.length_eraseP_of_mem hmem hmatch
      have hpos := List.length_pos_of_mem hmem
      have htaken : (input.session.skippedMessageKeys.eraseP
          (isSkippedEntry (bytesToHex input.message.ratchetPublicKey)
            input.message.messageNumber)).length = input.session.skippedMessageKeys.length :=
        hlength
      omega
    · intro hrepeats
      rw [hrepeats.1] at hfind
      cases hfind
  obtain ⟨ready, hswitch, reached, hreached, chainKey, hkey, _, _, _, hsession⟩ :=
    decryptOnReceivingChain_eq_ok.mp hchain
  rw [hsession]
  constructor
  · intro heq
    have hremote : (readPast c reached chainKey input.message.messageNumber
        (input.now.getD amb.now)).remoteRatchetPublicKey = input.session.remoteRatchetPublicKey :=
      congrArg LocalSessionState.remoteRatchetPublicKey heq
    change reached.remoteRatchetPublicKey = _ at hremote
    have hnext : input.message.messageNumber + 1 = input.session.nextReceiveMessageNumber :=
      congrArg LocalSessionState.nextReceiveMessageNumber heq
    have hchainKey : some (bytesToHex (chainKeyAt c (hexToBytes chainKey) 1))
        = input.session.receivingChainKey := congrArg LocalSessionState.receivingChainKey heq
    have hupdated : input.now.getD amb.now = input.session.updatedAt :=
      congrArg LocalSessionState.updatedAt heq
    rcases switchReceivingChain_eq_ok.mp hswitch with ⟨hsame, rfl⟩ | ⟨hnew, _, _, hopen⟩
    · -- the number that comes next has not moved, so nothing was skipped
      rcases skipMessageKeys_eq_ok.mp hreached with ⟨_, rfl⟩ | ⟨_, _, rfl⟩ | ⟨_, _, hle, _, _⟩
      · refine ⟨hnone, hsame, hnext, ⟨chainKey, hkey, ?_⟩, hupdated.symm⟩
        rw [hkey, Option.some.injEq] at hchainKey
        exact hchainKey
      · omega
      · omega
    · obtain ⟨_, _, rfl⟩ := advanceReceivingRatchet_eq_ok.mp hopen
      have hkept := (skipMessageKeys_counters hreached).2.2
      rw [hkept] at hremote
      exact absurd hremote hnew
  · rintro ⟨_, hsame, hnext, ⟨stored, hstored, hfixed⟩, hupdated⟩
    rcases switchReceivingChain_eq_ok.mp hswitch with ⟨_, rfl⟩ | ⟨hnew, _⟩
    · rcases skipMessageKeys_eq_ok.mp hreached with ⟨_, rfl⟩ | ⟨_, heq, _⟩ | ⟨_, _, hle, _, _⟩
      · obtain rfl : stored = chainKey := by
          rw [hstored, Option.some.injEq] at hkey
          exact hkey
        show { input.session with
          receivingChainKey := some (bytesToHex (deriveChainStep c (hexToBytes stored)).chainKey)
          nextReceiveMessageNumber := input.message.messageNumber + 1
          updatedAt := input.now.getD amb.now } = input.session
        rw [hfixed, hnext, ← hupdated, ← hstored]
      · omega
      · omega
    · exact absurd hsame hnew

/-! ### Sessions in their own slots -/

/-- **Every device stands under its own id**, and every session under the key of its peer. -/
structure Slotted (config : LocalE2EConfig) : Prop where
  keyed : config.Keyed
  key : ∀ {slot session}, sessionAt config slot = some session →
    slot.key = buildLocalSessionKey session.peerDid session.peerDeviceId

theorem Slotted.store (h : Slotted config)
    (hstore : storeLocalSession config deviceId session = .ok next) : Slotted next := by
  refine ⟨Keyed.store h.keyed hstore, fun {slot found} hfound => ?_⟩
  rw [sessionAt_of_store hstore] at hfound
  split at hfound
  · rename_i hsame
    obtain rfl := Option.some.inj hfound
    rw [← hsame]
    rfl
  · exact h.key hfound

/-- **A decryption** keeps every session in its slot. -/
theorem Slotted.decrypt {receiverDid : String} {now : Option ℕ} {message : WireMessage}
    {result : WireDecryptResult} (h : Slotted config)
    (hdecrypt : decryptWireMessage c amb config receiverDid now message = .ok result) :
    Slotted result.e2eConfig := by
  cases message with
  | session message =>
    obtain ⟨_, _, _, _, _, hstore, _⟩ := decryptWireMessage_session_eq_ok.mp hdecrypt
    exact h.store hstore
  | prekey message =>
    rw [decryptWireMessage, bind_eq_ok] at hdecrypt
    obtain ⟨consumed, hconsume, hresult⟩ := hdecrypt
    obtain rfl := Except.ok.inj hresult
    refine ⟨Keyed.consume h.keyed hconsume, fun {slot found} hfound => ?_⟩
    rw [sessionAt_of_consume h.keyed hconsume] at hfound
    split at hfound
    · rename_i hsame
      obtain rfl := Option.some.inj hfound
      obtain ⟨_, _, hpeer, hdevice, _⟩ := consumed_session h.keyed hconsume
      rw [← hsame, hpeer, hdevice]
      rfl
    · exact h.key hfound

/-- **Storing a session in its own slot** changes the configuration unless it is there already. -/
theorem Slotted.store_eq_iff (h : Slotted config) {peerDid peerDeviceId : String}
    {session' : LocalSessionState}
    (hload : loadLocalSession config deviceId peerDid peerDeviceId = some session)
    (hdid : session'.peerDid = session.peerDid)
    (hdevice : session'.peerDeviceId = session.peerDeviceId)
    (hstore : storeLocalSession config deviceId session' = .ok next) :
    next = config ↔ session' = session := by
  rw [loadLocalSession_eq] at hload
  have hslot : session'.slot deviceId = peerSlot deviceId peerDid peerDeviceId := by
    have hkey : buildLocalSessionKey peerDid peerDeviceId
        = buildLocalSessionKey session.peerDid session.peerDeviceId := h.key hload
    rw [LocalSessionState.slot, peerSlot, peerSlot, hdid, hdevice, hkey]
  constructor
  · intro heq
    have hat := sessionAt_of_store hstore (peerSlot deviceId peerDid peerDeviceId)
    rw [if_pos hslot, heq, hload] at hat
    exact (Option.some.inj hat).symm
  · intro heq
    obtain ⟨device, hget, rfl⟩ := storeLocalSession_eq_ok.mp hstore
    have hheld : device.sessions.get? (buildLocalSessionKey session'.peerDid
        session'.peerDeviceId) = some session' := by
      rw [sessionAt, ← hslot] at hload
      rw [heq] at hload ⊢
      change (config.devices.get? deviceId).bind (fun device => device.sessions.get?
        (buildLocalSessionKey session.peerDid session.peerDeviceId)) = some session at hload
      rwa [hget, Option.bind_some] at hload
    have hsame : device.storeSession session' = device := by
      rw [LocalDeviceState.storeSession, Record.set_eq_self hheld]
    rw [hsame, Record.set_eq_self hget]

/-! ### Recoveries that a control envelope leaves as they are -/

/-- Sessions, recoveries, epoch floors and replay batches are what they were. -/
structure SameRecovery (before after : RecoveryDaemon ℤ) : Prop where
  e2eConfig : after.e2eConfig = before.e2eConfig
  states : after.peerRecoveryStates = before.peerRecoveryStates
  floors : after.peerRecoveryEpochFloors = before.peerRecoveryEpochFloors
  batches : after.pendingReplayBatches = before.pendingReplayBatches

/-- The current device has a session with a device of the peer. -/
def HasSession (e2eConfig : LocalE2EConfig) (peerDid : String) : Prop :=
  ∃ device key session, e2eConfig.devices.get? e2eConfig.currentDeviceId = some device ∧
    device.sessions.get? key = some session ∧ isPeerSessionKey peerDid key = true

/-- **A reset without effect**: its epoch is not above the floor, and either a running recovery
stands and is not ended, or there is nothing to clear and the recovery ends with the answer. -/
def ResetHarmless (daemon : RecoveryDaemon ℤ) (now : ℤ) (envelope : ControlEnvelope ℤ)
    (transactionFails sendFails : Bool) : Prop :=
  envelope.epochAt now ≤ daemon.floor envelope.sender ∧
    match daemon.peerRecoveryStates.get? envelope.sender with
    | some current =>
        envelope.epochAt now ≤ current.epoch ∧
          (sendFails = true ∨ envelope.epochAt now < current.epoch ∧ current.awaitingAck = true)
    | none =>
        sendFails = false ∧ daemon.pendingReplayBatches.get? envelope.sender = none ∧
          (transactionFails = true ∨ ¬HasSession daemon.e2eConfig envelope.sender)

/-- An acknowledgement without effect: no running recovery has its epoch. -/
def AckHarmless (daemon : RecoveryDaemon ℤ) (now : ℤ) (envelope : ControlEnvelope ℤ) : Prop :=
  ∀ current, daemon.peerRecoveryStates.get? envelope.sender = some current →
    current.epoch ≠ envelope.epochAt now

section

variable {daemon : RecoveryDaemon ℤ} {now epoch : ℤ} {peerDid : String}

theorem clearPeerSessions_eq_iff (e2eConfig : LocalE2EConfig) (peerDid : String) :
    (clearPeerSessions e2eConfig peerDid).1 = e2eConfig ↔ ¬HasSession e2eConfig peerDid := by
  rw [clearPeerSessions]
  cases hdevice : e2eConfig.devices.get? e2eConfig.currentDeviceId with
  | none =>
    refine ⟨fun _ => ?_, fun _ => rfl⟩
    rintro ⟨device, _, _, hget, _⟩
    rw [hdevice] at hget
    cases hget
  | some device =>
    have hlost := Record.length_filterKeys_lt (fun key => !isPeerSessionKey peerDid key)
      device.sessions
    have hhas : HasSession e2eConfig peerDid ↔
        ∃ key session, device.sessions.get? key = some session
          ∧ (!isPeerSessionKey peerDid key) = false := by
      constructor
      · rintro ⟨found, key, session, hget, hsession, hkey⟩
        rw [hdevice, Option.some.injEq] at hget
        rw [← hget] at hsession
        exact ⟨key, session, hsession, by rw [hkey]; rfl⟩
      · rintro ⟨key, session, hsession, hkey⟩
        exact ⟨device, key, session, hdevice, hsession, by simpa using hkey⟩
    rw [hhas, ← hlost]
    dsimp only
    by_cases hcount : device.sessions.keys.length
        - (device.sessions.filterKeys fun key => !isPeerSessionKey peerDid key).keys.length = 0
    · rw [if_pos hcount]
      refine ⟨fun _ => ?_, fun _ => rfl⟩
      omega
    · rw [if_neg hcount]
      refine ⟨fun heq => ?_, fun hnot => ?_⟩
      · have hnext := congrArg
          (fun config : LocalE2EConfig => config.devices.get? e2eConfig.currentDeviceId) heq
        simp only [Record.get?_set_self, hdevice, Option.some.injEq] at hnext
        have hsessions := congrArg (fun device => device.sessions.keys.length) hnext
        dsimp only at hsessions
        omega
      · omega

/-- Noting an epoch leaves the floors exactly when it is not above that of the peer. -/
theorem notePeerRecoveryEpoch_floors_iff :
    (notePeerRecoveryEpoch daemon peerDid epoch).peerRecoveryEpochFloors
      = daemon.peerRecoveryEpochFloors ↔ epoch ≤ daemon.floor peerDid := by
  constructor
  · intro h
    have hfloor := floor_notePeerRecoveryEpoch daemon peerDid peerDid epoch
    rw [floor_of_floors h, if_pos rfl] at hfloor
    rw [hfloor]
    exact le_max_right _ _
  · intro h
    rw [notePeerRecoveryEpoch, if_neg (not_lt.mpr h)]

theorem notePeerRecoveryEpoch_of_le (h : epoch ≤ daemon.floor peerDid) :
    notePeerRecoveryEpoch daemon peerDid epoch = daemon := by
  rw [notePeerRecoveryEpoch, if_neg (not_lt.mpr h)]

/-- A recovery that stands is left as it is by clearing with another epoch only. -/
theorem handleSessionResetAck_same_iff (envelope : ControlEnvelope ℤ) :
    SameRecovery daemon (handleSessionResetAck daemon now envelope)
      ↔ AckHarmless daemon now envelope := by
  rw [handleSessionResetAck, AckHarmless]
  rcases clearPeerRecoveryState_cases daemon envelope.sender (some (envelope.epochAt now)) with
    ⟨current, hcurrent, hepoch, hclear⟩ | ⟨hother, hclear⟩
  · constructor
    · intro hsame
      have hstates := hsame.states
      rw [hclear, notePeerRecoveryEpoch_states] at hstates
      have hget := congrArg (fun states => states.get? envelope.sender) hstates
      simp only [Record.get?_erase, if_pos, hcurrent] at hget
      cases hget
    · intro hharmless
      exact absurd (hepoch _ rfl) (hharmless current hcurrent)
  · rw [hclear]
    refine ⟨fun _ current hcurrent => ?_, fun _ => ⟨rfl, rfl, rfl, rfl⟩⟩
    obtain ⟨_, hepoch, hne⟩ := hother current hcurrent
    rwa [← Option.some.inj hepoch] at hne

theorem erase_eq_self_iff {α : Type} {r : Record String α} {k : String} :
    r.erase k = r ↔ r.get? k = none := by
  refine ⟨fun h => ?_, Record.erase_eq_self⟩
  rw [← h, Record.get?_erase, if_pos rfl]

/-- What entering a recovery writes. -/
theorem enterRecovery_eq (state : PeerRecoveryState ℤ) (transactionFails : Bool) :
    (enterRecovery daemon peerDid state transactionFails).2.2
      = { daemon with
          peerRecoveryStates := daemon.peerRecoveryStates.set peerDid state
          pendingReplayBatches := daemon.pendingReplayBatches.erase peerDid
          pendingRetryNotifications := daemon.pendingRetryNotifications.erase peerDid
          e2eConfig := if transactionFails then daemon.e2eConfig
            else (clearPeerSessions daemon.e2eConfig peerDid).1 } := by
  cases transactionFails with
  | true => rfl
  | false => rfl

/-- The answer to a reset ends the recovery when it goes out and the decision says so. -/
theorem handleSessionReset_fst (envelope : ControlEnvelope ℤ) (transactionFails sendFails : Bool) :
    (handleSessionReset daemon now envelope transactionFails sendFails).1
      = if sendFails = false ∧ (handleRemotePeerRecovery daemon envelope.sender
            (envelope.epochAt now) (envelope.reason.getD "decrypt-failed")
            (envelope.timestamp.getD now) transactionFails).1.clearAfterSend = true then
          (clearPeerRecoveryState (daemon.decided now envelope transactionFails) envelope.sender
            (some (handleRemotePeerRecovery daemon envelope.sender
              (envelope.epochAt now) (envelope.reason.getD "decrypt-failed")
              (envelope.timestamp.getD now) transactionFails).1.state.epoch)).2
        else daemon.decided now envelope transactionFails := by
  simp only [handleSessionReset, RecoveryDaemon.decided]
  cases sendFails with
  | true => rfl
  | false =>
    simp only [Bool.false_eq_true, if_false, true_and]
    split
    · rfl
    · rfl

/-- A running recovery that stands: the reset is without effect unless it raises the floor or its
answer ends the recovery. -/
theorem reset_same_iff_of_standing {current : PeerRecoveryState ℤ} (envelope : ControlEnvelope ℤ)
    (transactionFails sendFails : Bool)
    (hcurrent : daemon.peerRecoveryStates.get? envelope.sender = some current)
    (hle : envelope.epochAt now ≤ current.epoch)
    (hdecided : (handleRemotePeerRecovery daemon envelope.sender (envelope.epochAt now)
        (envelope.reason.getD "decrypt-failed") (envelope.timestamp.getD now) transactionFails).2
      = notePeerRecoveryEpoch daemon envelope.sender (envelope.epochAt now))
    (hdecision : (handleRemotePeerRecovery daemon envelope.sender (envelope.epochAt now)
        (envelope.reason.getD "decrypt-failed") (envelope.timestamp.getD now) transactionFails).1
      = { action :=
            if envelope.epochAt now < current.epoch ∧ current.awaitingAck then .resendReset else .ack
          state := current
          clearAfterSend :=
            !(decide (envelope.epochAt now < current.epoch) && current.awaitingAck)
          cancelled := .zero
          clearedCount := 0 }) :
    SameRecovery daemon (handleSessionReset daemon now envelope transactionFails sendFails).1
      ↔ ResetHarmless daemon now envelope transactionFails sendFails := by
  rw [handleSessionReset_fst, RecoveryDaemon.decided, hdecided, hdecision, ResetHarmless, hcurrent]
  dsimp only
  by_cases hends : sendFails = false ∧
      (!(decide (envelope.epochAt now < current.epoch) && current.awaitingAck)) = true
  · -- the answer goes out, and the recovery is over
    rw [if_pos hends]
    constructor
    · intro hsame
      have hstates := hsame.states
      rcases clearPeerRecoveryState_cases
          (notePeerRecoveryEpoch daemon envelope.sender (envelope.epochAt now)) envelope.sender
          (some current.epoch) with ⟨_, _, _, hclear⟩ | ⟨hother, _⟩
      · rw [hclear, notePeerRecoveryEpoch_states] at hstates
        have hget := congrArg (fun states => states.get? envelope.sender) hstates
        simp only [notePeerRecoveryEpoch_states, Record.get?_erase, if_pos, hcurrent] at hget
        cases hget
      · obtain ⟨_, hepoch, hne⟩ := hother current (by
          rw [notePeerRecoveryEpoch_states]; exact hcurrent)
        exact absurd (Option.some.inj hepoch) hne
    · rintro ⟨_, _, hstands⟩
      rcases hstands with hfails | ⟨hlt, hawaiting⟩
      · rw [hends.1] at hfails
        cases hfails
      · have hclear := hends.2
        rw [hawaiting, decide_eq_true hlt] at hclear
        cases hclear
  · rw [if_neg hends]
    have hstands : sendFails = true ∨
        envelope.epochAt now < current.epoch ∧ current.awaitingAck = true := by
      cases sendFails with
      | true => exact Or.inl rfl
      | false =>
        right
        by_contra hnot
        refine hends ⟨rfl, ?_⟩
        rw [Bool.not_eq_true', Bool.and_eq_false_iff, decide_eq_false_iff_not]
        by_cases hlt : envelope.epochAt now < current.epoch
        · exact Or.inr (by simpa using fun hawaiting => hnot ⟨hlt, hawaiting⟩)
        · exact Or.inl hlt
    constructor
    · intro hsame
      exact ⟨notePeerRecoveryEpoch_floors_iff.mp hsame.floors, hle, hstands⟩
    · rintro ⟨hfloor, _⟩
      rw [notePeerRecoveryEpoch_of_le hfloor]
      exact ⟨rfl, rfl, rfl, rfl⟩

/-- A reset that replaces whatever is running: it is without effect when nothing was running, nothing
is cleared, and its own recovery ends at once. -/
theorem reset_same_iff_of_replaced (envelope : ControlEnvelope ℤ)
    (transactionFails sendFails : Bool)
    (hlower : ∀ current, daemon.peerRecoveryStates.get? envelope.sender = some current →
      current.epoch < envelope.epochAt now)
    {state : PeerRecoveryState ℤ} (hepoch : state.epoch = envelope.epochAt now)
    (hdecided : (handleRemotePeerRecovery daemon envelope.sender (envelope.epochAt now)
        (envelope.reason.getD "decrypt-failed") (envelope.timestamp.getD now) transactionFails).2
      = (enterRecovery (notePeerRecoveryEpoch daemon envelope.sender (envelope.epochAt now))
          envelope.sender state transactionFails).2.2)
    (hstate : (handleRemotePeerRecovery daemon envelope.sender (envelope.epochAt now)
        (envelope.reason.getD "decrypt-failed") (envelope.timestamp.getD now)
        transactionFails).1.state = state)
    (hclears : (handleRemotePeerRecovery daemon envelope.sender (envelope.epochAt now)
        (envelope.reason.getD "decrypt-failed") (envelope.timestamp.getD now)
        transactionFails).1.clearAfterSend = true) :
    SameRecovery daemon (handleSessionReset daemon now envelope transactionFails sendFails).1
      ↔ ResetHarmless daemon now envelope transactionFails sendFails := by
  rw [handleSessionReset_fst, RecoveryDaemon.decided, hdecided, hstate, hclears, ResetHarmless,
    enterRecovery_eq]
  generalize hnoted : notePeerRecoveryEpoch daemon envelope.sender (envelope.epochAt now) = noted
  have hstates : noted.peerRecoveryStates = daemon.peerRecoveryStates := by
    rw [← hnoted, notePeerRecoveryEpoch_states]
  cases sendFails with
  | true =>
    -- the recovery stays in the map
    rw [if_neg (fun h => by cases h.1)]
    constructor
    · intro hsame
      have hget := congrArg (fun states => states.get? envelope.sender) hsame.states
      simp only [Record.get?_set_self] at hget
      have hlt := hlower state hget.symm
      omega
    · rintro ⟨_, hrest⟩
      cases hcurrent : daemon.peerRecoveryStates.get? envelope.sender with
      | none =>
        rw [hcurrent] at hrest
        cases hrest.1
      | some current =>
        rw [hcurrent] at hrest
        have hlt := hlower current hcurrent
        have hle := hrest.1
        omega
  | false =>
    rw [if_pos ⟨rfl, rfl⟩]
    rcases clearPeerRecoveryState_cases
        { noted with
          peerRecoveryStates := noted.peerRecoveryStates.set envelope.sender state
          pendingReplayBatches := noted.pendingReplayBatches.erase envelope.sender
          pendingRetryNotifications := noted.pendingRetryNotifications.erase envelope.sender
          e2eConfig := if transactionFails then noted.e2eConfig
            else (clearPeerSessions noted.e2eConfig envelope.sender).1 } envelope.sender
        (some state.epoch) with ⟨found, hfound, _, hclear⟩ | ⟨hother, _⟩
    · rw [hclear]
      simp only [Record.get?_set_self, Option.some.injEq] at hfound
      subst hfound
      cases hcurrent : daemon.peerRecoveryStates.get? envelope.sender with
      | some current =>
        constructor
        · intro hsame
          have hget := congrArg (fun states => states.get? envelope.sender) hsame.states
          simp only [notePeerRecoveryEpoch_states, Record.get?_erase, if_pos, hcurrent] at hget
          cases hget
        · rintro ⟨_, hle, _⟩
          have hlt := hlower current hcurrent
          omega
      | none =>
        constructor
        · intro hsame
          have hfloor : envelope.epochAt now ≤ daemon.floor envelope.sender := by
            have hafter := floor_of_floors hsame.floors envelope.sender
            rw [floor_notePeerRecoveryEpoch, if_pos rfl] at hafter
            rw [← hafter, hepoch]
            exact le_max_right _ _
          have hsameNoted : noted = daemon := by
            rw [← hnoted, notePeerRecoveryEpoch_of_le hfloor]
          subst hsameNoted
          rw [notePeerRecoveryEpoch_of_le (by exact hepoch.le.trans hfloor)] at hsame
          refine ⟨hfloor, rfl, erase_eq_self_iff.mp hsame.batches, ?_⟩
          cases transactionFails with
          | true => exact Or.inl rfl
          | false => exact Or.inr ((clearPeerSessions_eq_iff _ _).mp hsame.e2eConfig)
        · rintro ⟨hfloor, _, hbatch, hconfig⟩
          have hsameNoted : noted = daemon := by
            rw [← hnoted, notePeerRecoveryEpoch_of_le hfloor]
          subst hsameNoted
          rw [notePeerRecoveryEpoch_of_le (by exact hepoch.le.trans hfloor)]
          refine ⟨?_, Record.erase_set_of_absent state hcurrent, rfl, Record.erase_eq_self hbatch⟩
          cases transactionFails with
          | true => rfl
          | false =>
            have hnone : ¬HasSession noted.e2eConfig envelope.sender := by
              rcases hconfig with hfails | hnone
              · cases hfails
              · exact hnone
            exact (clearPeerSessions_eq_iff _ _).mpr hnone
    · obtain ⟨_, hsome, hne⟩ := hother state (Record.get?_set_self ..)
      exact absurd (Option.some.inj hsome) hne

/-- **A reset** leaves everything as it is exactly when it is harmless. -/
theorem handleSessionReset_same_iff (envelope : ControlEnvelope ℤ)
    (transactionFails sendFails : Bool) :
    SameRecovery daemon (handleSessionReset daemon now envelope transactionFails sendFails).1
      ↔ ResetHarmless daemon now envelope transactionFails sendFails := by
  rcases handleRemotePeerRecovery_cases daemon envelope.sender (envelope.epochAt now)
      (envelope.reason.getD "decrypt-failed") (envelope.timestamp.getD now) transactionFails with
    ⟨current, hcurrent, hle, hdecided, hdecision⟩ | ⟨hlower, hdecided, _, hstate, hclears⟩
  · exact reset_same_iff_of_standing envelope transactionFails sendFails hcurrent hle hdecided
      hdecision
  · exact reset_same_iff_of_replaced envelope transactionFails sendFails hlower rfl hdecided hstate
      hclears

end

/-! ### Messages that are filed without a trace -/

/-- The delivery is in the record of its message already. -/
def Recorded (collation : Collation) (db : MessageDb) (id : String)
    (delivery : E2EDeliveryMetadata) : Prop :=
  ∃ key message, db.findStoredMessageRecord id none = some (key, message) ∧
    db.messages.get? key = some
      (NormalizedMessage.toStored (mergeStoredMessageE2EDeliveries collation message [delivery]))

section

variable {collation : Collation} {db : MessageDb} {daemon : InboundDaemon}
  {readings : InboundReadings} {envelope : MessageEnvelope}

/-- A valid envelope is queued. -/
theorem enqueueInbound_ok (collation : Collation) (db : MessageDb)
    (hvalid : envelope.isValid = true) (now : ℕ) (trustScore : Option Float)
    (trustStatus : Option String) (e2eDelivery : Option E2EDeliveryMetadata) :
    ∃ inbox message, enqueueInbound collation db now envelope trustScore trustStatus e2eDelivery
        = .ok inbox ∧
      message.envelope = envelope ∧
      (db.findStoredMessageRecord envelope.id none = none → inbox = db.insertMessage message) := by
  rw [enqueueInbound, MessageDb.putMessage]
  generalize hmsg : normalizeStoredMessage _ = normalized
  rw [normalizeStoredMessage, normalizeEnvelope_toJson hvalid, Option.map_some] at hmsg
  obtain ⟨message, rfl⟩ : ∃ message, normalized = some message := ⟨_, hmsg.symm⟩
  have henvelope : message.envelope = envelope := by
    rw [← Option.some.inj hmsg]
    rfl
  dsimp only
  rw [henvelope]
  cases hfind : db.findStoredMessageRecord envelope.id none with
  | none => exact ⟨_, message, rfl, henvelope, fun _ => rfl⟩
  | some found => exact ⟨_, message, rfl, henvelope, fun h => by cases h⟩

/-- A message that is not in the database cannot be stored without changing it. -/
theorem insertMessage_ne (message : NormalizedMessage) (hvalid : message.envelope.isValid = true)
    (hfind : db.findStoredMessageRecord message.envelope.id none = none) :
    db.insertMessage message ≠ db := by
  intro heq
  have hmessages := congrArg MessageDb.messages heq
  rw [messages_insertMessage] at hmessages
  have hget := Record.get?_set_self db.messages
    (storageKey message.direction (timestampSegment (getMessageSortTimestamp message))
      message.envelope.id) message.toStored
  rw [hmessages] at hget
  have hfound := find_isSome hget (normalizeStoredMessage_toStored hvalid)
  rw [show ({ message with status := storedMessageStatus message } : NormalizedMessage).envelope
    = message.envelope from rfl, hfind] at hfound
  cases hfound

/-- **A duplicate of an encrypted message** leaves the inbox exactly when its delivery is
recorded. -/
theorem mergeDuplicate_inbox_iff (hvalid : envelope.isValid = true) (now : ℕ)
    (trustScore : Option Float) (delivery : E2EDeliveryMetadata) :
    (mergeDuplicate collation daemon now envelope trustScore delivery).inbox = daemon.inbox
      ↔ Recorded collation daemon.inbox envelope.id delivery := by
  rw [mergeDuplicate, appendE2EDelivery, Recorded]
  cases hfind : daemon.inbox.findStoredMessageRecord envelope.id none with
  | some found =>
    obtain ⟨key, message⟩ := found
    dsimp only [Option.map_some]
    constructor
    · intro heq
      have hget := congrArg (fun db : MessageDb => db.messages.get? key) heq
      simp only [Record.get?_set_self] at hget
      exact ⟨key, message, rfl, hget.symm⟩
    · rintro ⟨key', message', hsame, hget⟩
      obtain ⟨rfl, rfl⟩ := Prod.mk.inj (Option.some.inj hsame)
      rw [Record.set_eq_self hget]
  | none =>
    obtain ⟨inbox, message, henqueue, hmessage, hinbox⟩ := enqueueInbound_ok collation
      daemon.inbox hvalid now trustScore none (some delivery)
    dsimp only [Option.map_none]
    rw [henqueue]
    constructor
    · intro heq
      have hinsert := hinbox hfind
      rw [← hmessage] at hfind hvalid
      exact absurd (hinsert.symm.trans heq) (insertMessage_ne message hvalid hfind)
    · rintro ⟨_, _, hsome, _⟩
      cases hsome

theorem mergeDuplicate_others (collation : Collation) (daemon : InboundDaemon) (now : ℕ)
    (envelope : MessageEnvelope) (trustScore : Option Float) (delivery : E2EDeliveryMetadata) :
    (mergeDuplicate collation daemon now envelope trustScore delivery).trust = daemon.trust ∧
      (mergeDuplicate collation daemon now envelope trustScore delivery).recovery
        = daemon.recovery ∧
      (mergeDuplicate collation daemon now envelope trustScore delivery).replayTimers
        = daemon.replayTimers := by
  rw [mergeDuplicate]
  split
  · exact ⟨rfl, rfl, rfl⟩
  · split
    · exact ⟨rfl, rfl, rfl⟩
    · exact ⟨rfl, rfl, rfl⟩

/-- Filing a message touches neither recoveries nor sessions. -/
theorem fileMessage_recovery (collation : Collation) (daemon : InboundDaemon)
    (readings : InboundReadings) (transportSender : String) (envelope : MessageEnvelope)
    (e2eDelivery : Option E2EDeliveryMetadata) :
    (fileMessage collation daemon readings transportSender envelope e2eDelivery).recovery
        = daemon.recovery ∧
      (fileMessage collation daemon readings transportSender envelope e2eDelivery).replayTimers
        = daemon.replayTimers := by
  rw [fileMessage]
  split
  · split
    · cases e2eDelivery with
      | none => exact ⟨rfl, rfl⟩
      | some delivery => exact (mergeDuplicate_others ..).2
    · exact ⟨rfl, rfl⟩
  · split
    · exact ⟨rfl, rfl⟩
    · exact ⟨rfl, rfl⟩

/-- The sender's interaction is recorded of every message that is not a duplicate. -/
theorem fileMessage_trust_iff (hvalid : envelope.isValid = true) (transportSender : String)
    (e2eDelivery : Option E2EDeliveryMetadata) :
    (fileMessage collation daemon readings transportSender envelope e2eDelivery).trust
        = daemon.trust ↔
      IsDuplicate daemon.defense daemon.trust envelope.id envelope.sender
        (isSolicitedReply daemon.inbox envelope) readings.amb.now := by
  have hduplicate := checkMessage_duplicate_iff daemon.defense daemon.trust envelope.id
    envelope.sender (isSolicitedReply daemon.inbox envelope) readings.defense
  rw [show readings.amb.now = readings.defense.now from rfl, ← hduplicate, fileMessage]
  generalize checkMessage daemon.defense daemon.trust envelope.id envelope.sender
    (isSolicitedReply daemon.inbox envelope) readings.defense = checked
  obtain ⟨result, defense⟩ := checked
  cases result with
  | allowed trustScore trustStatus =>
    obtain ⟨inbox, _, henqueue, _, _⟩ := enqueueInbound_ok collation daemon.inbox hvalid
      readings.amb.now trustScore (some trustStatus) e2eDelivery
    dsimp only
    rw [henqueue]
    refine ⟨fun h => absurd h (rateLimits_recordInteraction_ne _ _ _), ?_⟩
    rintro ⟨_, h⟩
    cases h
  | rejected reason trustScore =>
    dsimp only
    by_cases hreason : reason = .duplicate
    · rw [if_pos hreason]
      refine ⟨fun _ => ⟨trustScore, by rw [hreason]⟩, fun _ => ?_⟩
      cases e2eDelivery with
      | none => rfl
      | some delivery => exact (mergeDuplicate_others ..).1
    · rw [if_neg hreason]
      refine ⟨fun h => absurd h (rateLimits_recordInteraction_ne _ _ _), ?_⟩
      rintro ⟨_, h⟩
      cases h
      exact absurd rfl hreason

/-- A duplicate is filed as one. -/
theorem fileMessage_of_duplicate
    (h : IsDuplicate daemon.defense daemon.trust envelope.id envelope.sender
      (isSolicitedReply daemon.inbox envelope) readings.amb.now) (transportSender : String)
    (e2eDelivery : Option E2EDeliveryMetadata) :
    fileMessage collation daemon readings transportSender envelope e2eDelivery
      = match e2eDelivery with
        | some delivery =>
            mergeDuplicate collation daemon readings.amb.now envelope none delivery
        | none => daemon := by
  rw [fileMessage, checkMessage_of_duplicate (by exact h)]
  cases e2eDelivery with
  | none => exact if_pos rfl
  | some delivery => exact if_pos rfl

end

/-! ### Every branch -/

/-- **The handling has changed nothing**: no session and no pre-key mark, no recovery and no epoch
floor, no replay batch, no record of the inbox and none of the trust system. -/
structure Inert (before after : InboundDaemon) : Prop where
  recovery : SameRecovery before.recovery after.recovery
  replayTimers : after.replayTimers = before.replayTimers
  inbox : after.inbox = before.inbox
  trust : after.trust = before.trust

/-- A retry without effect: it meets a running recovery, or it is malformed. -/
def RetryHarmless (daemon : InboundDaemon) (now : ℕ) (envelope : MessageEnvelope) : Prop :=
  (daemon.recovery.peerRecoveryStates.get? envelope.sender).isSome = true ∨
    retryRequest envelope now = none

/-- A message without effect: the defence takes it for a duplicate. -/
def MessageHarmless (daemon : InboundDaemon) (now : ℕ) (envelope : MessageEnvelope) : Prop :=
  IsDuplicate daemon.defense daemon.trust envelope.id envelope.sender
    (isSolicitedReply daemon.inbox envelope) now

/-- **An encrypted envelope without effect**: it meets a running recovery, or it is a repeated read
of a duplicate whose delivery is recorded. -/
def TransportHarmless (c : Primitives) (services : EnvelopeServices) (collation : Collation)
    (daemon : InboundDaemon) (readings : InboundReadings) (envelope : MessageEnvelope) : Prop :=
  (daemon.recovery.peerRecoveryStates.get? envelope.sender).isSome = true ∨
    readings.receiveFails = false ∧
    ∃ opened message session,
      decryptApplicationEnvelope c services readings.amb
        { e2eConfig := daemon.recovery.e2eConfig
          receiverDid := daemon.recovery.did
          transportEnvelope := envelope } = .ok opened ∧
      decodeEncryptedApplicationEnvelopePayload c envelope.payload = .ok (.session message) ∧
      loadLocalSession daemon.recovery.e2eConfig message.receiverDeviceId message.senderDid
        message.senderDeviceId = some session ∧
      RepeatsRead c session message readings.amb.now ∧
      MessageHarmless daemon readings.amb.now opened.applicationEnvelope ∧
      Recorded collation daemon.inbox opened.applicationEnvelope.id
        (inboundE2EDelivery opened readings.amb.now)

/-- **An envelope without effect**: nobody listens, or its branch has none. -/
def Harmless (c : Primitives) (services : EnvelopeServices) (collation : Collation)
    (daemon : InboundDaemon) (readings : InboundReadings) (envelope : MessageEnvelope) : Prop :=
  daemon.started = false ∨ daemon.catchAll = false ∨
    if envelope.protocol = SESSION_RESET_PROTOCOL then
      ResetHarmless daemon.recovery readings.amb.now (controlOf envelope .sessionReset)
        readings.transactionFails readings.sendFails
    else if envelope.protocol = SESSION_RESET_ACK_PROTOCOL then
      AckHarmless daemon.recovery readings.amb.now (controlOf envelope .sessionResetAck)
    else if envelope.protocol = SESSION_RETRY_PROTOCOL then
      RetryHarmless daemon readings.amb.now envelope
    else if envelope.protocol = E2E_APPLICATION_ENVELOPE_PROTOCOL then
      TransportHarmless c services collation daemon readings envelope
    else MessageHarmless daemon readings.amb.now envelope

section

variable {c : Primitives} {services : EnvelopeServices} {collation : Collation}
  {daemon : InboundDaemon} {readings : InboundReadings} {envelope : MessageEnvelope}

theorem Inert.refl (daemon : InboundDaemon) : Inert daemon daemon :=
  ⟨⟨rfl, rfl, rfl, rfl⟩, rfl, rfl, rfl⟩

theorem handleSessionRetry_inert_iff (now : ℕ) :
    Inert daemon (handleSessionRetry daemon now envelope) ↔ RetryHarmless daemon now envelope := by
  rw [handleSessionRetry, getPeerRecoveryState, RetryHarmless]
  cases daemon.recovery.peerRecoveryStates.get? envelope.sender with
  | some current => exact ⟨fun _ => Or.inl rfl, fun _ => .refl _⟩
  | none =>
    cases retryRequest envelope now with
    | none => exact ⟨fun _ => Or.inr rfl, fun _ => .refl _⟩
    | some request =>
      constructor
      · intro h
        have htimers : daemon.replayTimers + 1 = daemon.replayTimers := h.replayTimers
        omega
      · rintro (h | h)
        · cases h
        · cases h

theorem fileMessage_inert_iff (hvalid : envelope.isValid = true) :
    Inert daemon (fileMessage collation daemon readings envelope.sender envelope none)
      ↔ MessageHarmless daemon readings.amb.now envelope := by
  constructor
  · intro h
    exact (fileMessage_trust_iff hvalid envelope.sender none).mp h.trust
  · intro h
    rw [fileMessage_of_duplicate h]
    exact .refl _

/-- A failed decryption begins a recovery. -/
theorem handleDecryptFailure_not_inert {sender : String}
    (hnone : daemon.recovery.peerRecoveryStates.get? sender = none) :
    ¬Inert daemon (handleDecryptFailure collation daemon readings sender).1 := by
  intro h
  have hstates : (handleDecryptFailure collation daemon readings sender).1.recovery
      = (beginLocalPeerRecovery daemon.recovery readings.amb.now sender "decrypt-failed"
          readings.amb.now readings.transactionFails).2 := by
    rw [handleDecryptFailure]
    dsimp only
    split
    · rfl
    · rfl
  have hget := congrArg (fun states => states.get? sender) h.recovery.states
  rw [hstates] at hget
  rcases beginLocalPeerRecovery_cases daemon.recovery readings.amb.now sender "decrypt-failed"
      readings.amb.now readings.transactionFails with ⟨_, hsome, _⟩ | ⟨_, _, _, hentered⟩
  · rw [hnone] at hsome
    cases hsome
  · rw [hentered, (enterRecovery_fields _ _ _ _).1] at hget
    simp only [Record.get?_set_self, hnone] at hget
    cases hget

theorem isValid_of_deserialize {bytes : Bytes} {applicationEnvelope : MessageEnvelope}
    (h : deserializeSignedApplicationEnvelope services bytes = .ok applicationEnvelope) :
    applicationEnvelope.isValid = true := by
  rw [deserializeSignedApplicationEnvelope] at h
  split at h
  · cases h
  · split at h
    · cases h
    · rename_i hnormalized
      obtain rfl := Except.ok.inj h
      exact isValid_of_normalizeEnvelope hnormalized

variable {opened : DecryptApplicationEnvelopeResult}

theorem receiveEnvelope_eq_some :
    receiveEnvelope c services daemon readings envelope = some opened ↔
      readings.receiveFails = false ∧
        decryptApplicationEnvelope c services readings.amb
          { e2eConfig := daemon.recovery.e2eConfig
            receiverDid := daemon.recovery.did
            transportEnvelope := envelope } = .ok opened := by
  rw [receiveEnvelope]
  cases readings.receiveFails with
  | true => simp
  | false =>
    cases decryptApplicationEnvelope c services readings.amb
      { e2eConfig := daemon.recovery.e2eConfig
        receiverDid := daemon.recovery.did
        transportEnvelope := envelope } with
    | error error => simp [Except.toOption]
    | ok result => simp [Except.toOption]

/-- **A misdirected envelope that decrypts** carries a session message, of a session that is
stored. -/
theorem session_of_misdirected {input : DecryptApplicationEnvelopeInput} {amb : Ambient}
    (hother : input.transportEnvelope.receiver ≠ input.receiverDid)
    (h : decryptApplicationEnvelope c services amb input = .ok opened) :
    opened.applicationEnvelope.isValid = true ∧
    ∃ message session decrypted,
      decodeEncryptedApplicationEnvelopePayload c input.transportEnvelope.payload
        = .ok (.session message) ∧
      loadLocalSession input.e2eConfig message.receiverDeviceId message.senderDid
        message.senderDeviceId = some session ∧
      decryptRatchetMessage c amb { session, message, now := input.now } = .ok decrypted ∧
      storeLocalSession input.e2eConfig message.receiverDeviceId decrypted.session
        = .ok opened.e2eConfig := by
  obtain ⟨_, _, payload, _, message, hdecode, hmatches, decrypted, hdecrypt, applicationEnvelope,
    hinner, _, _, rfl⟩ := decryptApplicationEnvelope_eq_ok_iff.mp h
  refine ⟨isValid_of_deserialize hinner, ?_⟩
  have hreceiver : input.transportEnvelope.receiver = message.receiverDid := by
    by_contra hne
    rw [assertTransportEnvelopeMatchesMessage] at hmatches
    split at hmatches
    · cases hmatches
    · rw [if_pos (Or.inr hne)] at hmatches
      cases hmatches
  cases message with
  | prekey message =>
    -- the branch that compares the receiver
    rw [decryptWireMessage, bind_eq_ok] at hdecrypt
    obtain ⟨consumed, hconsume, _⟩ := hdecrypt
    have hdid := (consumeResponderPreKeyMessage_eq_ok.mp hconsume).1
    exact absurd (hreceiver.trans hdid) hother
  | session message =>
    obtain ⟨session, hload, _, ratcheted, hratchet, hstore, _⟩ :=
      decryptWireMessage_session_eq_ok.mp hdecrypt
    exact ⟨message, session, ratcheted, hdecode, hload, hratchet, hstore⟩

theorem handleTransport_inert_iff (hslots : Slotted daemon.recovery.e2eConfig)
    (hother : envelope.receiver ≠ daemon.recovery.did) :
    Inert daemon (handleTransport c services collation daemon readings envelope).1
      ↔ TransportHarmless c services collation daemon readings envelope := by
  rw [handleTransport, getPeerRecoveryState, TransportHarmless]
  cases hrunning : daemon.recovery.peerRecoveryStates.get? envelope.sender with
  | some current => exact ⟨fun _ => Or.inl rfl, fun _ => .refl _⟩
  | none =>
    cases hreceived : receiveEnvelope c services daemon readings envelope with
    | none =>
      refine ⟨fun h => absurd h (handleDecryptFailure_not_inert hrunning), ?_⟩
      rintro (h | ⟨hfree, opened, _, _, hopened, _⟩)
      · cases h
      · rw [receiveEnvelope_eq_some.mpr ⟨hfree, hopened⟩] at hreceived
        cases hreceived
    | some opened =>
      have hopened := receiveEnvelope_eq_some.mp hreceived
      obtain ⟨hvalid, message, session, decrypted, hdecode, hload, hdecrypt, hstore⟩ :=
        session_of_misdirected hother hopened.2
      obtain ⟨_, _, hdevice, hdid⟩ := decryptRatchetMessage_routing hdecrypt
      have hconfig := hslots.store_eq_iff hload hdid hdevice hstore
      rw [decrypted_session_eq_iff hdecrypt] at hconfig
      dsimp only
      have hrecovery := fileMessage_recovery collation
        { daemon with recovery := { daemon.recovery with e2eConfig := opened.e2eConfig } }
        readings envelope.sender opened.applicationEnvelope
        (some (inboundE2EDelivery opened readings.amb.now))
      constructor
      · intro h
        have hrepeats : RepeatsRead c session message readings.amb.now := by
          have hsame := h.recovery.e2eConfig
          rw [hrecovery.1] at hsame
          exact hconfig.mp hsame
        have hduplicate := (fileMessage_trust_iff hvalid envelope.sender _).mp h.trust
        have hinbox := h.inbox
        rw [fileMessage_of_duplicate hduplicate] at hinbox
        have hrecorded := (mergeDuplicate_inbox_iff (by exact hvalid) _ _ _).mp hinbox
        exact Or.inr ⟨hopened.1, opened, message, session, hopened.2, hdecode, hload, hrepeats,
          hduplicate, hrecorded⟩
      · rintro (h | ⟨_, opened', message', session', hopened', hdecode', hload', hrepeats,
          hduplicate, hrecorded⟩)
        · cases h
        · obtain rfl := Except.ok.inj (hopened.2.symm.trans hopened')
          obtain rfl := WireMessage.session.inj (Except.ok.inj (hdecode.symm.trans hdecode'))
          obtain rfl := Option.some.inj (hload.symm.trans hload')
          rw [fileMessage_of_duplicate (by exact hduplicate)]
          obtain ⟨htrust, hmerged, htimers⟩ := mergeDuplicate_others collation
            { daemon with recovery := { daemon.recovery with e2eConfig := opened.e2eConfig } }
            readings.amb.now opened.applicationEnvelope none
            (inboundE2EDelivery opened readings.amb.now)
          refine ⟨?_, htimers, (mergeDuplicate_inbox_iff hvalid _ _ _).mpr hrecorded, htrust⟩
          rw [hmerged]
          exact ⟨hconfig.mpr hrepeats, rfl, rfl, rfl⟩

/-- The recovery of a control envelope is all that its handling changes. -/
theorem inert_of_recovery {recovery : RecoveryDaemon ℤ} :
    Inert daemon { daemon with recovery } ↔ SameRecovery daemon.recovery recovery :=
  ⟨fun h => h.recovery, fun h => ⟨h, rfl, rfl, rfl⟩⟩

end

/-- **A misdirected envelope is inert exactly when it is harmless.**  It is correctly signed and
addressed to another agent; the daemon has every session in its own slot. -/
theorem misdirected_inert_iff (c : Primitives) (services : EnvelopeServices)
    (collation : Collation) {daemon : InboundDaemon} (readings : InboundReadings)
    {envelope : MessageEnvelope} (hslots : Slotted daemon.recovery.e2eConfig)
    (hvalid : envelope.isValid = true) (hsigned : verifyEnvelope services envelope = .ok true)
    (hother : envelope.receiver ≠ daemon.recovery.did) :
    Inert daemon (deliver c services collation daemon readings envelope).1
      ↔ Harmless c services collation daemon readings envelope := by
  rw [deliver, hvalid, hsigned, Harmless]
  dsimp only
  rw [if_neg (by decide)]
  by_cases hstarted : daemon.started = false
  · have hsilent : handleIncomingMessage c services collation daemon readings envelope
        = (daemon, []) := by
      rw [handleIncomingMessage, if_pos (by simpa using hstarted)]
    rw [hsilent, ite_self]
    exact ⟨fun _ => Or.inl hstarted, fun _ => .refl _⟩
  by_cases hcatch : daemon.catchAll = false
  · rw [hcatch, if_neg Bool.false_ne_true]
    exact ⟨fun _ => Or.inr (Or.inl rfl), fun _ => .refl _⟩
  rw [or_iff_right hstarted, or_iff_right hcatch, if_pos (by simpa using hcatch),
    handleIncomingMessage, if_neg (by simpa using hstarted)]
  by_cases hreset : envelope.protocol = SESSION_RESET_PROTOCOL
  · rw [if_pos hreset, if_pos hreset]
    exact inert_of_recovery.trans (handleSessionReset_same_iff _ _ _)
  rw [if_neg hreset, if_neg hreset]
  by_cases hack : envelope.protocol = SESSION_RESET_ACK_PROTOCOL
  · rw [if_pos hack, if_pos hack]
    exact inert_of_recovery.trans (handleSessionResetAck_same_iff _)
  rw [if_neg hack, if_neg hack]
  by_cases hretry : envelope.protocol = SESSION_RETRY_PROTOCOL
  · rw [if_pos hretry, if_pos hretry]
    exact handleSessionRetry_inert_iff _
  rw [if_neg hretry, if_neg hretry]
  by_cases htransport : envelope.protocol = E2E_APPLICATION_ENVELOPE_PROTOCOL
  · rw [if_pos htransport, if_pos htransport]
    exact handleTransport_inert_iff hslots hother
  rw [if_neg htransport, if_neg htransport]
  exact fileMessage_inert_iff hvalid

/-! ### Slots are kept -/

section

variable {c : Primitives} {services : EnvelopeServices} {collation : Collation}
  {readings : InboundReadings} {envelope : MessageEnvelope}

end

/-! ### A message for Carol -/

/-- Envelopes whose signature is the DID of their sender. -/
def namedServices : EnvelopeServices where
  parseJson := fun _ => none
  stringifyJson := fun _ => []
  verifySignature := fun envelope => some (envelope.signature = envelope.sender)

/-- Bob's daemon, with Alice on its allowlist. -/
def bobDaemon : InboundDaemon where
  started := true
  catchAll := true
  recovery := restingDaemon "did:agent:zBob" bobConfig
  replayTimers := 0
  inbox := .empty
  trust := { history := .empty, rateLimits := .empty }
  defense :=
    { allowlist := .single "did:agent:zAlice" ()
      blocklist := .empty
      seenCache := .empty
      recentlyUnblocked := .empty
      minTrustScore := 0 }

def quietReadings : InboundReadings where
  amb := sampleAmbient 1 5000
  receiveFails := false
  transactionFails := false
  sendFails := false
  trustScore := none
  bucketAllows := true
  diagnosticId := "diagnostic"
  errorMessage := ""

/-- What Alice has signed for Carol. -/
def messageForCarol : MessageEnvelope where
  id := "m1"
  sender := "did:agent:zAlice"
  receiver := "did:agent:zCarol"
  type := .message
  protocol := "/agent/msg/1.0.0"
  payload := .string "for Carol"
  timestamp := 4000
  signature := "did:agent:zAlice"
  replyTo := none
  threadId := none
  groupId := none

/-- Bob has no session yet. -/
theorem bobConfig_slotted : Slotted bobConfig := by
  refine ⟨sampleConfig_keyed _ _ _, fun {slot session} h => ?_⟩
  rw [sessionAt, Option.bind_eq_some_iff] at h
  obtain ⟨device, hdevice, hsession⟩ := h
  simp only [bobConfig, sampleConfig, createInitialLocalE2EConfig, Record.get?_single] at hdevice
  split at hdevice
  · obtain rfl := Option.some.inj hdevice
    rw [createLocalDeviceState, Record.get?_empty] at hsession
    cases hsession
  · cases hdevice

/-- Bob's daemon once a message with the id of Carol's has been there, from a sender it does not
know. -/
def bobDaemonLater : InboundDaemon :=
  { bobDaemon with
    defense :=
      { bobDaemon.defense with
        allowlist := .empty
        seenCache := .single "m1" 4500 } }

/-- **A duplicate for Carol** changes nothing. -/
theorem misdirected_inert_sample :
    Inert bobDaemonLater
      (deliver sample namedServices codePointOrder bobDaemonLater quietReadings
        messageForCarol).1 := by
  refine (misdirected_inert_iff sample namedServices codePointOrder quietReadings bobConfig_slotted
    (by decide) rfl (by decide)).mpr (Or.inr (Or.inr ?_))
  rw [if_neg (by decide), if_neg (by decide), if_neg (by decide), if_neg (by decide)]
  exact ⟨rfl, rfl, Or.inr rfl, rfl⟩

/-- **A message for Carol** that is handed to Bob comes to stand in Bob's inbox. -/
theorem forwarded_message_stored :
    messageForCarol.isValid = true ∧ verifyEnvelope namedServices messageForCarol = .ok true ∧
      messageForCarol.receiver ≠ bobDaemon.recovery.did ∧
      ¬Inert bobDaemon
        (deliver sample namedServices codePointOrder bobDaemon quietReadings messageForCarol).1 := by
  refine ⟨by decide, rfl, by decide, fun h => ?_⟩
  have hstored : (deliver sample namedServices codePointOrder bobDaemon quietReadings
      messageForCarol).1.inbox.messages.entries.map
        (fun entry => entry.2.envelope.stringProperty "to") = [some "did:agent:zCarol"] := by
    decide +kernel
  rw [h.inbox] at hstored
  cases hstored

end QuadraA.Runtime
