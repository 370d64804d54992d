import Mathlib.Data.List.Basic
import Mathlib.Data.Nat.Init

/-!
# The relay worker

The connected part of `run_relay_worker` (`relay_worker.rs`) with the reading functions of the relay
session (`relay.rs`), and the relay at the other end of the connection.

* `RelaySession` — the messages on their way and those set aside in `pending_messages`;
* `RelayWorker.step?` — one message, one command or one interruption at a time, and what the relay
  sends in the meantime.

Of a message the model has the fields that the worker reads.  Times, the pongs, the acknowledgements
and the events of connecting are left out, and a deadline that passes is a failure that may occur at
any time.
-/

namespace QuadraA.RuntimeRs

/-! ### Messages -/

/-- The `status` of a DELIVERY_REPORT. -/
inductive ReportStatus where
  | accepted
  | queueFull
  | unknownRecipient
  | delivered
  | expired
  | other (status : String)
deriving DecidableEq

def ReportStatus.ofString (status : String) : ReportStatus :=
  if status = "accepted" then .accepted
  else if status = "queue_full" then .queueFull
  else if status = "unknown_recipient" then .unknownRecipient
  else if status = "delivered" then .delivered
  else if status = "expired" then .expired
  else .other status

structure DeliveryReport where
  messageId : String
  status : ReportStatus
deriving DecidableEq

/-- A message of the relay.  `envelope` is what `extract_bytes_field` makes of the field. -/
inductive RelayMessage where
  | deliver (messageId sender : String) (envelope : Except String (List UInt8))
  | deliveryReport (report : DeliveryReport)
  | ping
  | other (type : String)
deriving DecidableEq

/-- The report of a message that is one. -/
def RelayMessage.report? : RelayMessage → Option DeliveryReport
  | .deliveryReport report => some report
  | _ => none

/-- The reports by which a relay answers a SEND. -/
def ReportStatus.isOutcome : ReportStatus → Bool
  | .accepted | .queueFull | .unknownRecipient => true
  | _ => false

/-- The reports that a relay sends for a message accepted earlier. -/
def ReportStatus.isLate : ReportStatus → Bool
  | .delivered | .expired => true
  | _ => false

/-- What a relay may send at any time. -/
def RelayMessage.unsolicited (message : RelayMessage) : Bool :=
  message.report?.all (·.status.isLate)

/-! ### The session -/

structure RelaySession where
  stream : List RelayMessage
  pendingMessages : List RelayMessage
deriving DecidableEq

namespace RelaySession

/-- The messages in the order in which they will be read. -/
def flight (session : RelaySession) : List RelayMessage :=
  session.pendingMessages ++ session.stream

def nextMessage (session : RelaySession) : Option (RelayMessage × RelaySession) :=
  match session.pendingMessages, session.stream with
  | message :: pendingMessages, _ =>
      some (message, { session with pendingMessages := pendingMessages })
  | [], message :: stream => some (message, { session with stream := stream })
  | [], [] => none

def restorePendingMessages (session : RelaySession) (deferred : List RelayMessage) :
    RelaySession :=
  { session with pendingMessages := deferred ++ session.pendingMessages }

/-- The relay sends a message. -/
def receive (session : RelaySession) (message : RelayMessage) : RelaySession :=
  { session with stream := session.stream ++ [message] }

end RelaySession

/-! ### The worker -/

structure RelaySendOutcome where
  relayMessageId : String
  status : ReportStatus
deriving DecidableEq

inductive RelaySendError where
  | recoverable (error : String)
  | fatal (error : String)
deriving DecidableEq

inductive RelayWorkerEvent where
  | failureRecorded (error : String)
  | disconnected
  | envelopeReceived (messageId sender : String) (envelopeBytes : List UInt8)
  | deliveryReported (report : DeliveryReport)
deriving DecidableEq

/-- Where the worker is: in `next_deliver`, as a branch of the `select!`, or in
`wait_delivery_report_with_id`, each with what it has deferred. -/
inductive WorkerPhase where
  | selecting (deferred : List RelayMessage)
  | awaitingAcceptance (deferred : List RelayMessage)
  | disconnected
deriving DecidableEq

/-- The worker with its connection.  `sends` counts the commands taken, `issued` has the reports by
which the relay has answered the SENDs, and `responses` what the commands were answered. -/
structure RelayWorker where
  session : RelaySession
  phase : WorkerPhase
  sends : ℕ
  issued : List DeliveryReport
  responses : List (Except RelaySendError RelaySendOutcome)
  events : List RelayWorkerEvent
deriving DecidableEq

/-- The status in a `from` by which `next_deliver` returns a report. -/
def reportStatus? (sender : String) : Option ReportStatus :=
  ("__delivery_report:".toList.isPrefixOf? sender.toList).map fun status =>
    .ofString (String.ofList status)

/-- The event of a DELIVER that `next_deliver` has returned: a `from` of this form passes for a
report. -/
def receivedEvent (messageId sender : String) (envelopeBytes : List UInt8) : RelayWorkerEvent :=
  match reportStatus? sender with
  | some status => .deliveryReported ⟨messageId, status⟩
  | none => .envelopeReceived messageId sender envelopeBytes

/-- What `wait_for_send_acceptance` makes of a report: an answer, or `none` for an event. -/
def acceptance (report : DeliveryReport) : Option (Except RelaySendError RelaySendOutcome) :=
  match report.status with
  | .accepted => some (.ok ⟨report.messageId, report.status⟩)
  | .queueFull => some (.error (.recoverable "Relay queue full for recipient"))
  | .unknownRecipient => some (.error (.recoverable "Recipient not found on relay"))
  | .expired => some (.error (.recoverable "Relay delivery expired before acceptance"))
  | .delivered => none
  | .other status =>
      some (.error (.fatal
        ("Unexpected relay delivery report while waiting for acceptance: " ++ status)))

namespace RelayWorker

def emitEvent (s : RelayWorker) (event : RelayWorkerEvent) : RelayWorker :=
  { s with events := s.events ++ [event] }

/-- `record_failure`, and the end of the connection. -/
def fail (s : RelayWorker) (error : String) : RelayWorker :=
  { s with
    phase := .disconnected
    events := s.events ++ [.failureRecorded error, .disconnected] }

/-- The command that waits is answered; a fatal error ends the connection. -/
def respond (s : RelayWorker) : Except RelaySendError RelaySendOutcome → RelayWorker
  | .error (.fatal error) =>
      { s.fail error with responses := s.responses ++ [.error (.fatal error)] }
  | response => { s with phase := .selecting [], responses := s.responses ++ [response] }

/-- A round of `next_deliver`. -/
def nextDeliver (s : RelayWorker) (deferred : List RelayMessage) : RelayMessage → RelayWorker
  | .deliver messageId sender (.ok envelopeBytes) =>
      { s with
        session := s.session.restorePendingMessages deferred
        phase := .selecting []
        events := s.events ++ [receivedEvent messageId sender envelopeBytes] }
  | .deliver _ _ (.error error) => s.fail error
  | .deliveryReport report =>
      { s with
        session := s.session.restorePendingMessages deferred
        phase := .selecting []
        events := s.events ++ [.deliveryReported report] }
  | .ping => { s with phase := .selecting deferred }
  | .other type => { s with phase := .selecting (deferred ++ [.other type]) }

/-- A round of `wait_for_send_acceptance`, through `wait_delivery_report_with_id`. -/
def waitForSendAcceptance (s : RelayWorker) (deferred : List RelayMessage) :
    RelayMessage → RelayWorker
  | .deliveryReport report =>
      let s := { s with session := s.session.restorePendingMessages deferred }
      match acceptance report with
      | none => { s.emitEvent (.deliveryReported report) with phase := .awaitingAcceptance [] }
      | some response => s.respond response
  | .ping => { s with phase := .awaitingAcceptance deferred }
  | message => { s with phase := .awaitingAcceptance (deferred ++ [message]) }

end RelayWorker

/-- What happens on the connection.  `ackCancelled` is a `next_deliver` that another branch of the
`select!` cancels while it acknowledges a DELIVER; `interrupted` is one cancelled while it waits. -/
inductive WorkerAction where
  | sendEnvelope
  | read
  | interrupted
  | ackCancelled
  | failed (error : String)
  | relayAnswers (report : DeliveryReport)
  | relaySends (message : RelayMessage)
deriving DecidableEq

/-- **The worker and the relay**, one action at a time. -/
def RelayWorker.step? (s : RelayWorker) : WorkerAction → Option RelayWorker
  | .sendEnvelope =>
      match s.phase with
      | .selecting _ => some { s with phase := .awaitingAcceptance [], sends := s.sends + 1 }
      | _ => none
  | .read =>
      match s.phase, s.session.nextMessage with
      | .selecting deferred, some (message, session) =>
          some ({ s with session := session }.nextDeliver deferred message)
      | .awaitingAcceptance deferred, some (message, session) =>
          some ({ s with session := session }.waitForSendAcceptance deferred message)
      | _, _ => none
  | .interrupted =>
      match s.phase with
      | .selecting _ => some { s with phase := .selecting [] }
      | _ => none
  | .ackCancelled =>
      match s.phase, s.session.nextMessage with
      | .selecting deferred, some (.deliver _ _ (.ok _), session) =>
          some { s with
            session := session.restorePendingMessages deferred
            phase := .selecting [] }
      | _, _ => none
  | .failed error =>
      match s.phase with
      | .selecting _ => some (s.fail error)
      | .awaitingAcceptance _ => some (s.respond (.error (.fatal error)))
      | .disconnected => none
  | .relayAnswers report =>
      if s.issued.length < s.sends ∧ report.status.isOutcome = true then
        some { s with
          session := s.session.receive (.deliveryReport report)
          issued := s.issued ++ [report] }
      else none
  | .relaySends message =>
      if message.unsolicited = true then some { s with session := s.session.receive message }
      else none

end QuadraA.RuntimeRs
