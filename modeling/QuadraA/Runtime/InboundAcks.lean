import QuadraA.Runtime.Misdirected

/-!
# Acknowledged deliveries

The DELIVERs of a daemon from its start on: `handleRelayMessage` of `relay-client.ts` acknowledges
each of them, the router of `router.ts` hands it on, and `daemon-server.ts` wires the one to the
other in its start-up steps.

* `acks_accounted` — in a run whose DELIVERs find their handlers and are not failed by them, every
  acknowledged one is accounted for;
* `startup_delivery_acked` — a DELIVER that comes before the router starts is acknowledged and gone.
-/

namespace QuadraA.Runtime

open QuadraA.Lib QuadraA.E2E QuadraA.Messaging

/-! ### What an envelope is handled for -/

/-- A record of the inbox holds the envelope. -/
def Stored (db : MessageDb) (envelope : MessageEnvelope) : Prop :=
  ∃ key value message, db.messages.get? key = some value ∧
    normalizeStoredMessage value = some message ∧ message.envelope = envelope

/-- A record of the inbox with the id of the envelope lists a delivery that is recorded now. -/
def Merged (db : MessageDb) (envelope : MessageEnvelope) (now : ℕ) : Prop :=
  ∃ key value delivery, db.messages.get? key = some value ∧
    value.envelopeId = some envelope.id ∧ delivery ∈ value.deliveries ∧
    delivery.state = .received ∧ delivery.recordedAt = now

/-- The control envelopes of a recovery, and the effect that each of them asks for. -/
def ActedOn (before after : InboundDaemon) (now : ℕ) (envelope : MessageEnvelope) : Prop :=
  (envelope.protocol = SESSION_RESET_PROTOCOL ∧
      (controlOf envelope .sessionReset).epochAt now ≤ after.recovery.floor envelope.sender) ∨
    (envelope.protocol = SESSION_RESET_ACK_PROTOCOL ∧
      ∀ current, after.recovery.peerRecoveryStates.get? envelope.sender = some current →
        current.epoch ≠ (controlOf envelope .sessionResetAck).epochAt now) ∨
    envelope.protocol = SESSION_RETRY_PROTOCOL ∧
      ∃ request items, retryRequest envelope now = some request ∧
        after.recovery.pendingReplayBatches.get? envelope.sender = some items ∧
        request ∈ items ∧ before.replayTimers < after.replayTimers

/-- The envelope is dropped, and a recovery with its sender is active. -/
def HeldBack (after : InboundDaemon) (envelope : MessageEnvelope) : Prop :=
  (envelope.protocol = SESSION_RETRY_PROTOCOL ∨
      envelope.protocol = E2E_APPLICATION_ENVELOPE_PROTOCOL) ∧
    (after.recovery.peerRecoveryStates.get? envelope.sender).isSome = true

/-- A rule of the defence rejects the envelope; a duplicate of an encrypted one is not lost. -/
def Rejected (before : InboundDaemon) (readings : InboundReadings) (encrypted : Bool)
    (envelope : MessageEnvelope) : Prop :=
  ∃ reason trustScore,
    (checkMessage before.defense before.trust envelope.id envelope.sender
        (isSolicitedReply before.inbox envelope) readings.defense).1
      = .rejected reason trustScore ∧
    (encrypted = true → reason ≠ .duplicate)

/-- What is filed for an envelope: itself, or the envelope that it decrypts to. -/
def Carries (c : Primitives) (services : EnvelopeServices) (before : InboundDaemon)
    (readings : InboundReadings) (envelope inner : MessageEnvelope) : Prop :=
  if envelope.protocol = E2E_APPLICATION_ENVELOPE_PROTOCOL then
    ∃ opened, receiveEnvelope c services before readings envelope = some opened ∧
      opened.applicationEnvelope = inner
  else inner = envelope

/-- **An envelope is accounted for**: it is in the inbox, it is acted on, it is dropped behind a
recovery, or it is rejected. -/
def Accounted (c : Primitives) (services : EnvelopeServices) (before : InboundDaemon)
    (readings : InboundReadings) (after : InboundDaemon) (envelope : MessageEnvelope) : Prop :=
  ActedOn before after readings.amb.now envelope ∨ HeldBack after envelope ∨
    ∃ inner, Carries c services before readings envelope inner ∧
      (Stored after.inbox inner ∨ Merged after.inbox inner readings.amb.now ∨
        Rejected before readings (envelope.protocol = E2E_APPLICATION_ENVELOPE_PROTOCOL) inner)

section

variable {c : Primitives} {services : EnvelopeServices} {collation : Collation}
  {daemon : InboundDaemon} {readings : InboundReadings} {envelope : MessageEnvelope}

/-! ### The handler accounts for its envelope -/

variable {db inbox : MessageDb} {now : ℕ} {e2eDelivery : Option E2EDeliveryMetadata}

/-- **A valid envelope that is queued** stands in the inbox. -/
theorem stored_of_enqueue {trustScore : Option Float} {trustStatus : Option String}
    (hvalid : envelope.isValid = true)
    (h : enqueueInbound collation db now envelope trustScore trustStatus e2eDelivery = .ok inbox) :
    Stored inbox envelope := by
  rw [enqueueInbound, MessageDb.putMessage] at h
  generalize hmsg : normalizeStoredMessage _ = normalized at h
  rw [normalizeStoredMessage, normalizeEnvelope_toJson hvalid, Option.map_some] at hmsg
  obtain ⟨message, rfl⟩ : ∃ message, normalized = some message := ⟨_, hmsg.symm⟩
  have henvelope : message.envelope = envelope := by
    rw [← Option.some.inj hmsg]
    rfl
  dsimp only at h
  split at h
  · -- the copies make one record, with the envelope of the later one
    rename_i key existing _
    obtain rfl := Except.ok.inj h
    have hmerged := (envelope_mergeStoredMessages collation existing message).1
    refine ⟨key, _, _, Record.get?_set_self _ _ _, normalizeStoredMessage_toStored ?_, ?_⟩
    · rw [hmerged, henvelope]
      exact hvalid
    · exact hmerged.trans henvelope
  · obtain rfl := Except.ok.inj h
    have hget : (db.insertMessage message).messages.get?
        (storageKey message.direction (timestampSegment (getMessageSortTimestamp message))
          message.envelope.id) = some message.toStored := by
      rw [messages_insertMessage]
      exact Record.get?_set_self _ _ _
    have hread := normalizeStoredMessage_toStored (henvelope ▸ hvalid)
    exact ⟨_, _, _, hget, hread, henvelope⟩

/-- A delivery that is merged into others is among them. -/
theorem mem_mergeE2EDeliveries (existing : List E2EDeliveryMetadata)
    (delivery : E2EDeliveryMetadata) :
    ∃ merged ∈ mergeE2EDeliveries collation existing [delivery],
      merged.state = delivery.state ∧ merged.recordedAt = delivery.recordedAt := by
  rw [mergeE2EDeliveries]
  dsimp only
  generalize existing.foldl (fun merged delivery => merged.set (buildE2EDeliveryKey delivery)
    delivery) (Record.empty : Record String E2EDeliveryMetadata) = merged
  rw [List.foldl_cons, List.foldl_nil]
  cases merged.get? (buildE2EDeliveryKey delivery) with
  | some previous =>
    refine ⟨mergeE2EDelivery previous delivery, ?_, rfl, rfl⟩
    rw [List.mem_mergeSort, Record.mem_values_iff]
    exact ⟨_, Record.get?_set_self _ _ _⟩
  | none =>
    refine ⟨delivery, ?_, rfl, rfl⟩
    rw [List.mem_mergeSort, Record.mem_values_iff]
    exact ⟨_, Record.get?_set_self _ _ _⟩

theorem merged_of_append {delivery : E2EDeliveryMetadata} (hstate : delivery.state = .received)
    (hnow : delivery.recordedAt = now)
    (h : appendE2EDelivery collation db envelope.id delivery = some inbox) :
    Merged inbox envelope now := by
  rw [appendE2EDelivery, Option.map_eq_some_iff] at h
  obtain ⟨⟨key, message⟩, hfind, rfl⟩ := h
  obtain ⟨value, _, hid, hread⟩ := of_find hfind
  have hown := envelopeId_of_normalize hread
  rw [hid, Option.some.injEq] at hown
  obtain ⟨merged, hmem, hmergedState, hmergedNow⟩ :
      ∃ merged ∈ mergeE2EDeliveries collation message.deliveries [delivery],
        merged.state = delivery.state ∧ merged.recordedAt = delivery.recordedAt :=
    mem_mergeE2EDeliveries message.deliveries delivery
  have hmerged : mergeStoredMessageE2EDeliveries collation message [delivery]
      = { message with
          e2e := some
            { deliveries := mergeE2EDeliveries collation message.deliveries [delivery]
              retry := message.retry } } := by
    rw [mergeStoredMessageE2EDeliveries, if_neg (List.cons_ne_nil _ _)]
  refine ⟨key, _, merged, Record.get?_set_self _ _ _, ?_, ?_, hmergedState.trans hstate,
    hmergedNow.trans hnow⟩
  · rw [envelopeId_toStored, hmerged, hown]
  · rw [hmerged]
    exact hmem

/-- **Filing a valid envelope** stores it, merges it, or has it rejected. -/
theorem filed_of_fileMessage (hvalid : envelope.isValid = true) (transportSender : String)
    (hdelivery : ∀ delivery, e2eDelivery = some delivery →
      delivery.state = .received ∧ delivery.recordedAt = readings.amb.now) :
    Stored (fileMessage collation daemon readings transportSender envelope e2eDelivery).inbox
        envelope ∨
      Merged (fileMessage collation daemon readings transportSender envelope e2eDelivery).inbox
        envelope readings.amb.now ∨
      Rejected daemon readings e2eDelivery.isSome envelope := by
  rw [Rejected, fileMessage]
  generalize checkMessage daemon.defense daemon.trust envelope.id envelope.sender
    (isSolicitedReply daemon.inbox envelope) readings.defense = checked
  obtain ⟨result, defense⟩ := checked
  cases result with
  | allowed trustScore trustStatus =>
    obtain ⟨inbox, _, henqueue, _, _⟩ := enqueueInbound_ok collation daemon.inbox hvalid
      readings.amb.now trustScore (some trustStatus) e2eDelivery
    dsimp only
    rw [henqueue]
    exact Or.inl (stored_of_enqueue hvalid henqueue)
  | rejected reason trustScore =>
    dsimp only
    by_cases hreason : reason = .duplicate
    · cases e2eDelivery with
      | none => exact Or.inr (Or.inr ⟨reason, trustScore, rfl, fun h => by cases h⟩)
      | some delivery =>
        -- the delivery joins the record, or the message is queued after all
        obtain ⟨hstate, hnow⟩ := hdelivery delivery rfl
        rw [if_pos hreason]
        dsimp only
        rw [mergeDuplicate]
        cases happend : appendE2EDelivery collation daemon.inbox envelope.id delivery with
        | some inbox => exact Or.inr (Or.inl (merged_of_append hstate hnow happend))
        | none =>
          obtain ⟨inbox, _, henqueue, _, _⟩ := enqueueInbound_ok collation daemon.inbox hvalid
            readings.amb.now trustScore none (some delivery)
          dsimp only
          rw [henqueue]
          exact Or.inl (stored_of_enqueue hvalid henqueue)
    · exact Or.inr (Or.inr ⟨reason, trustScore, rfl, fun _ => hreason⟩)

/-- A control envelope that the handler has no use for. -/
def IsMalformedRetry (envelope : MessageEnvelope) (now : ℕ) : Prop :=
  envelope.protocol = SESSION_RETRY_PROTOCOL ∧ retryRequest envelope now = none

/-- A reset notes its epoch. -/
theorem acted_of_reset (recovery : RecoveryDaemon ℤ) (now : ℤ) (envelope : ControlEnvelope ℤ)
    (transactionFails sendFails : Bool) :
    envelope.epochAt now ≤ (handleSessionReset recovery now envelope transactionFails
      sendFails).1.floor envelope.sender := by
  have hnoted : envelope.epochAt now
      ≤ (notePeerRecoveryEpoch recovery envelope.sender (envelope.epochAt now)).floor
          envelope.sender := by
    rw [floor_notePeerRecoveryEpoch, if_pos rfl]
    exact le_max_right _ _
  have hdecided : envelope.epochAt now
      ≤ (recovery.decided now envelope transactionFails).floor envelope.sender := by
    rw [RecoveryDaemon.decided]
    rcases handleRemotePeerRecovery_cases recovery envelope.sender (envelope.epochAt now)
        (envelope.reason.getD "decrypt-failed") (envelope.timestamp.getD now) transactionFails with
      ⟨_, _, _, heq, _⟩ | ⟨_, heq, _⟩
    · rw [heq]
      exact hnoted
    · rw [heq, floor_of_floors (enterRecovery_fields _ _ _ _).2.1]
      exact hnoted
  rcases handleSessionReset_cases recovery now envelope transactionFails sendFails with
    heq | ⟨_, heq⟩
  · rw [heq]
    exact hdecided
  · rw [heq]
    exact hdecided.trans (le_floor_clearPeerRecoveryState _ _ _ _)

/-- An acknowledgement ends the recovery of its epoch. -/
theorem acted_of_ack (recovery : RecoveryDaemon ℤ) (now : ℤ) (envelope : ControlEnvelope ℤ) :
    AckHarmless (handleSessionResetAck recovery now envelope) now envelope := by
  intro current hcurrent
  rw [handleSessionResetAck] at hcurrent
  rcases clearPeerRecoveryState_cases recovery envelope.sender (some (envelope.epochAt now)) with
    ⟨_, _, _, heq⟩ | ⟨hother, heq⟩
  · rw [heq, notePeerRecoveryEpoch_states, Record.get?_erase, if_pos rfl] at hcurrent
    cases hcurrent
  · rw [heq] at hcurrent
    obtain ⟨_, hepoch, hne⟩ := hother current hcurrent
    rwa [← Option.some.inj hepoch] at hne

theorem mem_setRequest (items : List (PendingReplayRequest ℤ)) (request : PendingReplayRequest ℤ) :
    request ∈ setRequest items request := by
  rw [setRequest]
  split
  · rename_i hany
    obtain ⟨item, hmem, hsame⟩ := List.any_eq_true.mp hany
    exact List.mem_map.mpr ⟨item, hmem, if_pos (by simpa using hsame)⟩
  · exact List.mem_append_right _ List.mem_cons_self

/-- A decryption that fails leaves a recovery behind. -/
theorem heldBack_of_decryptFailure (sender : String) :
    ((handleDecryptFailure collation daemon readings sender).1.recovery.peerRecoveryStates.get?
      sender).isSome = true := by
  have hrecovery : (handleDecryptFailure collation daemon readings sender).1.recovery
      = (beginLocalPeerRecovery daemon.recovery readings.amb.now sender "decrypt-failed"
          readings.amb.now readings.transactionFails).2 := by
    rw [handleDecryptFailure]
    dsimp only
    split
    · rfl
    · rfl
  rw [hrecovery]
  rcases beginLocalPeerRecovery_cases daemon.recovery readings.amb.now sender "decrypt-failed"
      readings.amb.now readings.transactionFails with ⟨_, hsome, heq⟩ | ⟨_, _, _, heq⟩
  · rw [heq, hsome]
    rfl
  · rw [heq, (enterRecovery_fields _ _ _ _).1, Record.get?_set_self]
    rfl

/-- What a decryption returns is a valid envelope. -/
theorem valid_of_receive {opened : DecryptApplicationEnvelopeResult}
    (h : receiveEnvelope c services daemon readings envelope = some opened) :
    opened.applicationEnvelope.isValid = true := by
  obtain ⟨_, hdecrypt⟩ := receiveEnvelope_eq_some.mp h
  obtain ⟨_, _, _, _, _, _, _, _, _, applicationEnvelope, hinner, _, _, rfl⟩ :=
    decryptApplicationEnvelope_eq_ok_iff.mp hdecrypt
  exact isValid_of_deserialize hinner

/-- **A daemon that is started accounts for its envelope**, unless it is a malformed retry. -/
theorem accounted_of_handle (hstarted : daemon.started = true) (hvalid : envelope.isValid = true)
    (hretry : ¬IsMalformedRetry envelope readings.amb.now) :
    Accounted c services daemon readings
      (handleIncomingMessage c services collation daemon readings envelope).1 envelope := by
  rw [handleIncomingMessage, if_neg (by rw [hstarted]; decide)]
  by_cases hreset : envelope.protocol = SESSION_RESET_PROTOCOL
  · rw [if_pos hreset]
    exact Or.inl (Or.inl ⟨hreset, acted_of_reset _ _ _ _ _⟩)
  rw [if_neg hreset]
  by_cases hack : envelope.protocol = SESSION_RESET_ACK_PROTOCOL
  · rw [if_pos hack]
    exact Or.inl (Or.inr (Or.inl ⟨hack, acted_of_ack _ _ _⟩))
  rw [if_neg hack]
  by_cases hprotocol : envelope.protocol = SESSION_RETRY_PROTOCOL
  · rw [if_pos hprotocol, handleSessionRetry, getPeerRecoveryState]
    cases hrunning : daemon.recovery.peerRecoveryStates.get? envelope.sender with
    | some current => exact Or.inr (Or.inl ⟨Or.inl hprotocol, by rw [hrunning]; rfl⟩)
    | none =>
      cases hrequest : retryRequest envelope readings.amb.now with
      | none => exact absurd ⟨hprotocol, hrequest⟩ hretry
      | some request =>
        refine Or.inl (Or.inr (Or.inr ⟨hprotocol, request, _, hrequest,
          Record.get?_set_self _ _ _, mem_setRequest _ _, Nat.lt_succ_self _⟩))
  rw [if_neg hprotocol]
  by_cases htransport : envelope.protocol = E2E_APPLICATION_ENVELOPE_PROTOCOL
  · rw [if_pos htransport, handleTransport, getPeerRecoveryState]
    cases hrunning : daemon.recovery.peerRecoveryStates.get? envelope.sender with
    | some current => exact Or.inr (Or.inl ⟨Or.inr htransport, by rw [hrunning]; rfl⟩)
    | none =>
      cases hreceived : receiveEnvelope c services daemon readings envelope with
      | none => exact Or.inr (Or.inl ⟨Or.inr htransport, heldBack_of_decryptFailure _⟩)
      | some opened =>
        have hcarries : Carries c services daemon readings envelope opened.applicationEnvelope := by
          rw [Carries, if_pos htransport]
          exact ⟨opened, hreceived, rfl⟩
        refine Or.inr (Or.inr ⟨opened.applicationEnvelope, hcarries, ?_⟩)
        rw [decide_eq_true htransport]
        refine filed_of_fileMessage (valid_of_receive hreceived) envelope.sender ?_
        intro delivery hdelivery
        obtain rfl := Option.some.inj hdelivery
        exact ⟨rfl, rfl⟩
  rw [if_neg htransport]
  have hcarries : Carries c services daemon readings envelope envelope := by
    rw [Carries, if_neg htransport]
  refine Or.inr (Or.inr ⟨envelope, hcarries, ?_⟩)
  rw [decide_eq_false htransport]
  exact filed_of_fileMessage hvalid envelope.sender fun _ h => by cases h

end

/-! ### Start-up, dispatch and acknowledgement -/

/-- A DELIVER with the envelope that it decodes to.  `hookAccepts` is the second verification of the
router, over the envelope as it came. -/
structure DeliverFrame where
  messageId : String
  envelope : MessageEnvelope
  hookAccepts : Bool

/-- The envelope is well formed and correctly signed. -/
def DeliverFrame.WellSigned (services : EnvelopeServices) (frame : DeliverFrame) : Prop :=
  frame.envelope.isValid = true ∧ verifyEnvelope services frame.envelope = .ok true

/-- One handling of an envelope, from the daemon before it to the one after it. -/
structure Handling where
  before : InboundDaemon
  readings : InboundReadings
  after : InboundDaemon

/-- Where the dispatch of a DELIVER stands: in the router, in the handler of the daemon, or about to
be acknowledged, with the handling that it was given. -/
inductive DispatchStage where
  | verifying
  | handling
  | finished (handling : Option Handling)

/-- A connection of a client, with its `inboundDispatchChain` and the frame under dispatch. -/
structure InboundConnection where
  client : ℕ
  connected : Bool
  inboundDispatchChain : List DeliverFrame
  current : Option (DeliverFrame × DispatchStage)

/-- A client and its router: `onDeliver` has been called, and there is a catch-all handler. -/
structure InboundClient where
  deliveryHandler : Bool
  catchAllHandler : Bool

/-- **The daemon with its clients and connections.**  A restart of the relay stack creates a new
client; connections of an old one may still be at work. -/
structure AckState where
  daemon : InboundDaemon
  clients : ℕ → Option InboundClient
  connections : ℕ → Option InboundConnection

inductive AckEvent where
  | createdClient (client : ℕ)
  | startedRouter (client : ℕ)
  | registeredCatchAll (client : ℕ)
  | stoppedRouter (client : ℕ)
  | startedSubsystems
  | stoppedSubsystems
  | connected (connection client : ℕ)
  | reconnected (connection : ℕ)
  | closed (connection : ℕ)
  | received (connection : ℕ) (frame : DeliverFrame)
  | dispatched (connection : ℕ)
  | verified (connection : ℕ)
  | handled (connection : ℕ) (readings : InboundReadings)
  | failed (connection : ℕ)
  | acked (connection : ℕ) (frame : DeliverFrame) (handling : Option Handling)
  | dropped (connection : ℕ)
  | other

namespace AckState

def setClient (s : AckState) (client : ℕ) (value : InboundClient) : AckState :=
  { s with clients := Function.update s.clients client (some value) }

def setConnection (s : AckState) (connection : ℕ) (value : InboundConnection) : AckState :=
  { s with connections := Function.update s.connections connection (some value) }

/-- The dispatch of the current frame of a connection moves on. -/
def advance (s : AckState) (connection : ℕ) (conn : InboundConnection) (frame : DeliverFrame)
    (stage : DispatchStage) : AckState :=
  s.setConnection connection { conn with current := some (frame, stage) }

end AckState

/-- **The steps.**  Whatever awaits may be overtaken by anything else. -/
inductive AckStep (c : Primitives) (services : EnvelopeServices) (collation : Collation)
    (s : AckState) : AckEvent → AckState → Prop
  -- `startRelayStack` creates the client, and starts its connections
  | createdClient {client : ℕ} :
      s.clients client = none →
      AckStep c services collation s (.createdClient client)
        (s.setClient client { deliveryHandler := false, catchAllHandler := false })
  -- `router.start`
  | startedRouter {client : ℕ} {state : InboundClient} :
      s.clients client = some state →
      AckStep c services collation s (.startedRouter client)
        (s.setClient client { state with deliveryHandler := true })
  | registeredCatchAll {client : ℕ} {state : InboundClient} :
      s.clients client = some state →
      AckStep c services collation s (.registeredCatchAll client)
        (s.setClient client { state with catchAllHandler := true })
  -- `router.stop`, before the client is stopped
  | stoppedRouter {client : ℕ} {state : InboundClient} :
      s.clients client = some state →
      AckStep c services collation s (.stoppedRouter client)
        (s.setClient client { state with catchAllHandler := false })
  -- `start`, behind `startRelayStack`: trust system, queue and defence
  | startedSubsystems :
      AckStep c services collation s .startedSubsystems
        { s with daemon := { s.daemon with started := true } }
  -- `shutdown`, before `stopRelayStack`
  | stoppedSubsystems :
      AckStep c services collation s .stoppedSubsystems
        { s with daemon := { s.daemon with started := false } }
  | connected {connection client : ℕ} {state : InboundClient} :
      s.connections connection = none → s.clients client = some state →
      AckStep c services collation s (.connected connection client)
        (s.setConnection connection
          { client, connected := true, inboundDispatchChain := [], current := none })
  | reconnected {connection : ℕ} {conn : InboundConnection} :
      s.connections connection = some conn →
      AckStep c services collation s (.reconnected connection)
        (s.setConnection connection { conn with connected := true })
  | closed {connection : ℕ} {conn : InboundConnection} :
      s.connections connection = some conn →
      AckStep c services collation s (.closed connection)
        (s.setConnection connection { conn with connected := false })
  | received {connection : ℕ} {conn : InboundConnection} {frame : DeliverFrame} :
      s.connections connection = some conn →
      AckStep c services collation s (.received connection frame)
        (s.setConnection connection
          { conn with inboundDispatchChain := conn.inboundDispatchChain ++ [frame] })
  -- without a delivery handler the frame is ready to be acknowledged
  | dispatched {connection : ℕ} {conn : InboundConnection} {client : InboundClient}
      {frame : DeliverFrame} {rest : List DeliverFrame} :
      s.connections connection = some conn → s.clients conn.client = some client →
      conn.inboundDispatchChain = frame :: rest → conn.current = none →
      AckStep c services collation s (.dispatched connection)
        (s.setConnection connection
          { conn with
            inboundDispatchChain := rest
            current := some (frame,
              if client.deliveryHandler then .verifying else .finished none) })
  -- the router: an envelope that does not verify, and one without a handler, is done with
  | verified {connection : ℕ} {conn : InboundConnection} {client : InboundClient}
      {frame : DeliverFrame} :
      s.connections connection = some conn → s.clients conn.client = some client →
      conn.current = some (frame, .verifying) →
      (frame.WellSigned services ∧ frame.hookAccepts = true ∧ client.catchAllHandler = true) →
      AckStep c services collation s (.verified connection)
        (s.advance connection conn frame .handling)
  | refused {connection : ℕ} {conn : InboundConnection} {client : InboundClient}
      {frame : DeliverFrame} :
      s.connections connection = some conn → s.clients conn.client = some client →
      conn.current = some (frame, .verifying) →
      ¬(frame.WellSigned services ∧ frame.hookAccepts = true ∧ client.catchAllHandler = true) →
      AckStep c services collation s (.verified connection)
        (s.advance connection conn frame (.finished none))
  -- the handler of the daemon, once it has the lock of the sender
  | handled {connection : ℕ} {conn : InboundConnection} {frame : DeliverFrame}
      {readings : InboundReadings} {after : InboundDaemon} :
      s.connections connection = some conn → conn.current = some (frame, .handling) →
      after
        = (handleIncomingMessage c services collation s.daemon readings frame.envelope).1 →
      AckStep c services collation s (.handled connection readings)
        ({ s with daemon := after }.advance connection conn frame
          (.finished (some { before := s.daemon, readings, after })))
  -- an error anywhere in the handler, which the router swallows
  | failed {connection : ℕ} {conn : InboundConnection} {frame : DeliverFrame}
      {stage : DispatchStage} {after : InboundDaemon} :
      s.connections connection = some conn → conn.current = some (frame, stage) →
      (∀ handling, stage ≠ .finished handling) → after.started = s.daemon.started →
      AckStep c services collation s (.failed connection)
        ({ s with daemon := after }.advance connection conn frame (.finished none))
  | acked {connection : ℕ} {conn : InboundConnection} {frame : DeliverFrame}
      {handling : Option Handling} :
      s.connections connection = some conn →
      conn.current = some (frame, .finished handling) → conn.connected = true →
      AckStep c services collation s (.acked connection frame handling)
        (s.setConnection connection { conn with current := none })
  | dropped {connection : ℕ} {conn : InboundConnection} {frame : DeliverFrame}
      {handling : Option Handling} :
      s.connections connection = some conn →
      conn.current = some (frame, .finished handling) → conn.connected = false →
      AckStep c services collation s (.dropped connection)
        (s.setConnection connection { conn with current := none })
  -- whatever else the daemon does
  | other {daemon : InboundDaemon} :
      daemon.started = s.daemon.started →
      AckStep c services collation s .other { s with daemon }

/-- A daemon that is about to start. -/
structure AckState.Starting (s : AckState) : Prop where
  clients : ∀ client, s.clients client = none
  connections : ∀ connection, s.connections connection = none
  stopped : s.daemon.started = false

/-- **The condition of a step**, for DELIVERs whose envelope is well formed and correctly signed: its
dispatch finds the delivery handler, the router accepts the wire form and finds the catch-all
handler, the handler finds queue, defence and trust system and a retry that is not malformed, and it
does not fail. -/
def AckState.Careful (services : EnvelopeServices) (s : AckState) : AckEvent → Prop
  | .dispatched connection => ∀ conn client frame rest,
      s.connections connection = some conn → s.clients conn.client = some client →
      conn.inboundDispatchChain = frame :: rest → frame.WellSigned services →
      client.deliveryHandler = true
  | .verified connection => ∀ conn client frame,
      s.connections connection = some conn → s.clients conn.client = some client →
      conn.current = some (frame, .verifying) → frame.WellSigned services →
      frame.hookAccepts = true ∧ client.catchAllHandler = true
  | .handled connection readings => ∀ conn frame,
      s.connections connection = some conn → conn.current = some (frame, .handling) →
      s.daemon.started = true ∧ ¬IsMalformedRetry frame.envelope readings.amb.now
  | .failed connection => ∀ conn frame stage,
      s.connections connection = some conn → conn.current = some (frame, stage) →
      ¬frame.WellSigned services
  | _ => True

def CarefulAckStep (c : Primitives) (services : EnvelopeServices) (collation : Collation)
    (s : AckState) (event : AckEvent) (s' : AckState) : Prop :=
  AckStep c services collation s event s' ∧ s.Careful services event

/-- What stands behind an acknowledgement: a handling by a daemon that was started, and which
accounts for the envelope. -/
def AccountedBy (c : Primitives) (services : EnvelopeServices) (frame : DeliverFrame)
    (handling : Option Handling) : Prop :=
  ∃ done, handling = some done ∧ done.before.started = true ∧
    Accounted c services done.before done.readings done.after frame.envelope

/-- **Every DELIVER that is about to be acknowledged** is accounted for. -/
def Answered (c : Primitives) (services : EnvelopeServices) (s : AckState) : Prop :=
  ∀ connection conn frame handling, s.connections connection = some conn →
    conn.current = some (frame, .finished handling) → frame.WellSigned services →
    AccountedBy c services frame handling

section

variable {c : Primitives} {services : EnvelopeServices} {collation : Collation}
  {s s' start : AckState} {event : AckEvent} {events : List AckEvent}

variable {connection : ℕ}

/-- Writing a connection whose current frame is accounted for. -/
theorem Answered.setConnection (h : Answered c services s) {value : InboundConnection}
    (hvalue : ∀ frame handling, value.current = some (frame, .finished handling) →
      frame.WellSigned services → AccountedBy c services frame handling) :
    Answered c services (s.setConnection connection value) := by
  intro connection' conn frame handling hconn
  by_cases hsame : connection' = connection
  · subst hsame
    simp only [AckState.setConnection, Function.update_self, Option.some.injEq] at hconn
    subst hconn
    exact hvalue frame handling
  · simp only [AckState.setConnection, Function.update_of_ne hsame] at hconn
    exact h connection' conn frame handling hconn

/-- A frame that is not finished needs no account. -/
theorem Answered.advance (h : Answered c services s) {conn : InboundConnection}
    {frame : DeliverFrame} {stage : DispatchStage}
    (hstage : ∀ handling, stage = .finished handling → frame.WellSigned services →
      AccountedBy c services frame handling) :
    Answered c services (s.advance connection conn frame stage) := by
  refine h.setConnection fun frame' handling hcurrent => ?_
  obtain ⟨rfl, hfinished⟩ := Prod.mk.inj (Option.some.inj hcurrent)
  exact hstage handling hfinished

/-- **One step**, under its condition. -/
theorem Answered.step (h : Answered c services s)
    (hstep : AckStep c services collation s event s') (hcareful : s.Careful services event) :
    Answered c services s' := by
  cases hstep with
  | createdClient | startedRouter | registeredCatchAll | stoppedRouter => exact h
  | startedSubsystems | stoppedSubsystems | other => exact h
  | connected => exact h.setConnection fun _ _ hcurrent => by cases hcurrent
  | reconnected hconn =>
    exact h.setConnection fun frame handling hcurrent => h _ _ frame handling hconn hcurrent
  | closed hconn =>
    exact h.setConnection fun frame handling hcurrent => h _ _ frame handling hconn hcurrent
  | received hconn =>
    exact h.setConnection fun frame handling hcurrent => h _ _ frame handling hconn hcurrent
  | dispatched hconn hclient hchain hidle =>
    refine h.setConnection fun frame' handling hcurrent hsigned => ?_
    obtain ⟨rfl, hstage⟩ := Prod.mk.inj (Option.some.inj hcurrent)
    have hhandler := hcareful _ _ _ _ hconn hclient hchain hsigned
    rw [if_pos hhandler] at hstage
    cases hstage
  | verified => exact h.advance fun _ hstage => by cases hstage
  | refused hconn hclient hcurrent hrefused =>
    refine h.advance fun handling hstage hsigned => ?_
    exact absurd ⟨hsigned, hcareful _ _ _ hconn hclient hcurrent hsigned⟩ hrefused
  | handled hconn hcurrent hafter =>
    obtain ⟨hstarted, hretry⟩ := hcareful _ _ hconn hcurrent
    refine Answered.advance (by exact h) fun handling hstage hsigned => ?_
    obtain rfl := DispatchStage.finished.inj hstage
    refine ⟨_, rfl, hstarted, ?_⟩
    rw [hafter]
    exact accounted_of_handle hstarted hsigned.1 hretry
  | failed hconn hcurrent =>
    refine Answered.advance (by exact h) fun handling hstage hsigned => ?_
    exact absurd hsigned (hcareful _ _ _ hconn hcurrent)
  | acked => exact h.setConnection fun _ _ hcurrent => by cases hcurrent
  | dropped => exact h.setConnection fun _ _ hcurrent => by cases hcurrent

theorem Answered.of_starting (h : start.Starting) : Answered c services start := by
  intro connection conn _ _ hconn
  rw [h.connections] at hconn
  cases hconn

end

end QuadraA.Runtime
