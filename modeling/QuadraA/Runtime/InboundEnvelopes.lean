import QuadraA.E2E.ApplicationEnvelope
import QuadraA.Messaging.Defense
import QuadraA.Runtime.PeerRecovery
import Mathlib.Algebra.Order.Ring.Int

/-!
# Inbound envelopes

`handleIncomingMessageWithPeerLock` of `daemon-server.ts` behind the checks of `router.ts`: what the
daemon does with one envelope that a relay delivers.

* `InboundDaemon` — what the handler reads and writes;
* `deliver` — the router in front of it.

A replay batch is the list of its items; its timer is counted whenever it is set.  The writes of the
message database go through, and so do those of the trust system.
-/

namespace QuadraA.Runtime

open QuadraA.Lib QuadraA.E2E QuadraA.Messaging

/-! ### State -/

def SESSION_RESET_PROTOCOL : String := "e2e/session-reset"
def SESSION_RESET_ACK_PROTOCOL : String := "e2e/session-reset-ack"
def SESSION_RETRY_PROTOCOL : String := "e2e/session-retry"

/-- **The daemon**, as far as an inbound envelope reads and writes it. -/
structure InboundDaemon where
  /-- `defense`, `queue` and `trustSystem` exist. -/
  started : Bool
  /-- The router has its catch-all handler. -/
  catchAll : Bool
  recovery : RecoveryDaemon ℤ
  replayTimers : ℕ
  inbox : MessageDb
  trust : TrustRecords
  defense : DefenseState

/-- What one handling reads beyond the state, and which of its effects fail. -/
structure InboundReadings where
  amb : Ambient
  /-- The transaction around the decryption fails. -/
  receiveFails : Bool
  /-- The transaction that clears the sessions of a peer fails. -/
  transactionFails : Bool
  sendFails : Bool
  trustScore : Option TrustScore
  bucketAllows : Bool
  /-- The id of the diagnostic, and the message of the error that it reports. -/
  diagnosticId : String
  errorMessage : String

def InboundReadings.defense (readings : InboundReadings) : DefenseReadings where
  now := readings.amb.now
  trustScore := readings.trustScore
  bucketAllows := readings.bucketAllows

/-! ### Control envelopes -/

/-- The payload of a control envelope as the handler reads it. -/
def controlOf (envelope : MessageEnvelope) (protocol : ControlProtocol) :
    ControlEnvelope ℤ where
  sender := envelope.sender
  receiver := envelope.receiver
  protocol := protocol
  reason := envelope.payload.stringProperty "reason"
  epoch := envelope.payload.numberProperty "epoch"
  timestamp := envelope.payload.numberProperty "timestamp"

/-- `batch.items.set(request.lookupMessageId, request)`. -/
def setRequest (items : List (PendingReplayRequest ℤ)) (request : PendingReplayRequest ℤ) :
    List (PendingReplayRequest ℤ) :=
  if items.any fun item => item.lookupMessageId = request.lookupMessageId then
    items.map fun item =>
      if item.lookupMessageId = request.lookupMessageId then request else item
  else items ++ [request]

def schedulePeerReplayOf (daemon : InboundDaemon) (peerDid : String)
    (request : PendingReplayRequest ℤ) : InboundDaemon :=
  let batches := daemon.recovery.pendingReplayBatches
  { daemon with
    recovery :=
      { daemon.recovery with
        pendingReplayBatches := batches.set peerDid
          (setRequest ((batches.get? peerDid).getD []) request) }
    replayTimers := daemon.replayTimers + 1 }

/-- The request of a retry envelope, unless it is malformed. -/
def retryRequest (envelope : MessageEnvelope) (now : ℕ) : Option (PendingReplayRequest ℤ) :=
  match envelope.payload.stringProperty "messageId" with
  | none => none
  | some messageId =>
      if messageId = ""
          ∨ (envelope.payload.stringProperty "failedTransport").getD "session" ≠ "session" then
        none
      else
        some
          { lookupMessageId := messageId
            reason := (envelope.payload.stringProperty "reason").getD "decrypt-failed"
            requestedAt := (envelope.payload.numberProperty "timestamp").getD now }

/-- `e2e/session-retry`. -/
def handleSessionRetry (daemon : InboundDaemon) (now : ℕ) (envelope : MessageEnvelope) :
    InboundDaemon :=
  match getPeerRecoveryState daemon.recovery envelope.sender, retryRequest envelope now with
  | none, some request => schedulePeerReplayOf daemon envelope.sender request
  | _, _ => daemon

/-! ### The inbox -/

def enqueueInbound (collation : Collation) (db : MessageDb) (now : ℕ) (envelope : MessageEnvelope)
    (trustScore : Option Float) (trustStatus : Option String)
    (e2eDelivery : Option E2EDeliveryMetadata) : Except StorageError MessageDb :=
  db.putMessage collation
    { envelope := envelope.toJson
      direction := .inbound
      status := .pending
      receivedAt := some now
      sentAt := none
      readAt := none
      trustScore
      trustStatus
      error := none
      e2e := e2eDelivery.map fun delivery => { deliveries := [delivery], retry := none } }

/-- `queue.appendE2EDelivery`; `none` when there is no message with the id. -/
def appendE2EDelivery (collation : Collation) (db : MessageDb) (id : String)
    (delivery : E2EDeliveryMetadata) : Option MessageDb :=
  (db.findStoredMessageRecord id none).map fun (key, message) =>
    { db with
      messages := db.messages.set key
        (NormalizedMessage.toStored
          (mergeStoredMessageE2EDeliveries collation message [delivery])) }

def isSolicitedReply (db : MessageDb) (envelope : MessageEnvelope) : Bool :=
  match envelope.replyTo with
  | none => false
  | some replyTo =>
      if replyTo = "" then false
      else
        match db.findStoredMessageRecord replyTo (some .outbound) with
        | none => false
        | some (_, outbound) => outbound.envelope.receiver = envelope.sender

/-- What is recorded of a message: an interaction of its sender. -/
def messageInteraction (agentDid : String) (now : ℕ) (failureReason : Option RejectionReason) :
    Interaction where
  agentDid := agentDid
  timestamp := now
  type := "message"
  success := failureReason.isNone
  responseTime := 0
  failureReason := failureReason.map RejectionReason.text

/-- A duplicate of an encrypted message: its delivery joins the record, or the message is queued
when the record is not visible yet. -/
def mergeDuplicate (collation : Collation) (daemon : InboundDaemon) (now : ℕ)
    (envelope : MessageEnvelope) (trustScore : Option Float) (delivery : E2EDeliveryMetadata) :
    InboundDaemon :=
  match appendE2EDelivery collation daemon.inbox envelope.id delivery with
  | some inbox => { daemon with inbox }
  | none =>
      match enqueueInbound collation daemon.inbox now envelope trustScore none (some delivery) with
      | .ok inbox => { daemon with inbox }
      | .error _ => daemon

/-- The part of the handler behind the decryption. -/
def fileMessage (collation : Collation) (daemon : InboundDaemon) (readings : InboundReadings)
    (transportSender : String) (envelope : MessageEnvelope)
    (e2eDelivery : Option E2EDeliveryMetadata) : InboundDaemon :=
  let now := readings.amb.now
  match checkMessage daemon.defense daemon.trust envelope.id envelope.sender
      (isSolicitedReply daemon.inbox envelope) readings.defense with
  | (.rejected reason trustScore, defense) =>
      if reason = .duplicate then
        match e2eDelivery with
        | some delivery =>
            mergeDuplicate collation { daemon with defense } now envelope trustScore delivery
        | none => { daemon with defense }
      else
        { daemon with
          defense
          trust := recordInteraction daemon.trust
            (messageInteraction transportSender now (some reason)) now }
  | (.allowed trustScore trustStatus, defense) =>
      match enqueueInbound collation daemon.inbox now envelope trustScore (some trustStatus)
          e2eDelivery with
      | .error _ => { daemon with defense }
      | .ok inbox =>
          { daemon with
            defense
            inbox
            trust := recordInteraction daemon.trust
              (messageInteraction envelope.sender now none) now }

/-! ### Encrypted envelopes -/

def transportText : E2ETransport → String
  | .prekey => "prekey"
  | .session => "session"

/-- `inboundE2EDelivery`. -/
def inboundE2EDelivery (result : DecryptApplicationEnvelopeResult) (now : ℕ) :
    E2EDeliveryMetadata where
  transport := transportText result.transport
  transportMessageId := none
  senderDeviceId := result.senderDeviceId
  receiverDeviceId := result.receiverDeviceId
  sessionId := result.sessionId
  state := .received
  recordedAt := now
  usedSkippedMessageKey := some result.usedSkippedMessageKey
  error := none

/-- The diagnostic that a failed decryption leaves in the inbox. -/
def decryptFailedDiagnostic (daemon : InboundDaemon) (readings : InboundReadings)
    (sender : String) (epoch : ℤ) : MessageEnvelope where
  id := readings.diagnosticId
  sender := sender
  receiver := daemon.recovery.did
  type := .message
  protocol := "e2e/decrypt-failed"
  payload := .object
    [("error", .string readings.errorMessage),
     ("epoch", .number epoch),
     ("hint", .string ("Peer moved to explicit session recovery. "
        ++ "Normal sends are blocked until reset-ack arrives."))]
  timestamp := readings.amb.now
  signature := "local-diagnostic"
  replyTo := none
  threadId := none
  groupId := none

/-- The decryption in its transaction. -/
def receiveEnvelope (c : Primitives) (services : EnvelopeServices) (daemon : InboundDaemon)
    (readings : InboundReadings) (envelope : MessageEnvelope) :
    Option DecryptApplicationEnvelopeResult :=
  if readings.receiveFails then none
  else
    (decryptApplicationEnvelope c services readings.amb
      { e2eConfig := daemon.recovery.e2eConfig
        receiverDid := daemon.recovery.did
        transportEnvelope := envelope }).toOption

/-- The `catch` of the decryption: a recovery begins, and its reset is sent once the diagnostic is
in the inbox. -/
def handleDecryptFailure (collation : Collation) (daemon : InboundDaemon)
    (readings : InboundReadings) (sender : String) :
    InboundDaemon × List (ControlEnvelope ℤ) :=
  let now : ℤ := readings.amb.now
  let (recovery, entered) :=
    beginLocalPeerRecovery daemon.recovery now sender "decrypt-failed" now
      readings.transactionFails
  match enqueueInbound collation daemon.inbox readings.amb.now
      (decryptFailedDiagnostic daemon readings sender recovery.state.epoch) none none none with
  | .error _ => ({ daemon with recovery := entered }, [])
  | .ok inbox =>
      ({ daemon with recovery := entered, inbox },
        if recovery.started && !readings.sendFails then
          [controlEnvelope entered .sessionReset sender recovery.state.reason recovery.state.epoch
            now]
        else [])

/-- `/agent/e2e/1.0.0`. -/
def handleTransport (c : Primitives) (services : EnvelopeServices) (collation : Collation)
    (daemon : InboundDaemon) (readings : InboundReadings) (envelope : MessageEnvelope) :
    InboundDaemon × List (ControlEnvelope ℤ) :=
  match getPeerRecoveryState daemon.recovery envelope.sender with
  | some _ => (daemon, [])
  | none =>
      match receiveEnvelope c services daemon readings envelope with
      | none => handleDecryptFailure collation daemon readings envelope.sender
      | some result =>
          (fileMessage collation
            { daemon with recovery := { daemon.recovery with e2eConfig := result.e2eConfig } }
            readings envelope.sender result.applicationEnvelope
            (some (inboundE2EDelivery result readings.amb.now)), [])

/-! ### The dispatch -/

/-- **One envelope**: the daemon after it, and the control envelopes it has sent. -/
def handleIncomingMessage (c : Primitives) (services : EnvelopeServices) (collation : Collation)
    (daemon : InboundDaemon) (readings : InboundReadings) (envelope : MessageEnvelope) :
    InboundDaemon × List (ControlEnvelope ℤ) :=
  if !daemon.started then (daemon, [])
  else if envelope.protocol = SESSION_RESET_PROTOCOL then
    let handled := handleSessionReset daemon.recovery readings.amb.now
      (controlOf envelope .sessionReset) readings.transactionFails readings.sendFails
    ({ daemon with recovery := handled.1 }, handled.2)
  else if envelope.protocol = SESSION_RESET_ACK_PROTOCOL then
    ({ daemon with
        recovery := handleSessionResetAck daemon.recovery readings.amb.now
          (controlOf envelope .sessionResetAck) }, [])
  else if envelope.protocol = SESSION_RETRY_PROTOCOL then
    (handleSessionRetry daemon readings.amb.now envelope, [])
  else if envelope.protocol = E2E_APPLICATION_ENVELOPE_PROTOCOL then
    handleTransport c services collation daemon readings envelope
  else (fileMessage collation daemon readings envelope.sender envelope none, [])

/-- The router: an envelope that is valid and correctly signed reaches the catch-all handler. -/
def deliver (c : Primitives) (services : EnvelopeServices) (collation : Collation)
    (daemon : InboundDaemon) (readings : InboundReadings) (envelope : MessageEnvelope) :
    InboundDaemon × List (ControlEnvelope ℤ) :=
  if !envelope.isValid then (daemon, [])
  else
    match verifyEnvelope services envelope with
    | .ok true =>
        if daemon.catchAll then handleIncomingMessage c services collation daemon readings envelope
        else (daemon, [])
    | _ => (daemon, [])

end QuadraA.Runtime
