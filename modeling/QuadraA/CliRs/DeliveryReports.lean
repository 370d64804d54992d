import QuadraA.RuntimeRs.Inbox
import QuadraA.RuntimeRs.RelayWorker
import QuadraA.Lib.Trace
import QuadraA.Lib.Updates

/-!
# Delivery reports

The send loops of `handle_send` and `replay_outbound_messages` and the event loop of `daemon.rs`,
which record in the message store what the relay has accepted and what it has delivered.

* `reports_recorded` — no report is lost in a run in which each is handled while its delivery has
  its transport identifier;
* `report_outruns_record` — a report that is handled before the delivery has its identifier is lost.

The locks under which the tasks send are left out, as the results hold without them.
-/

set_option linter.unusedSectionVars false

namespace QuadraA.CliRs

open QuadraA.Lib QuadraA.RuntimeRs

/-! ### Batches -/

/-- A batch with the delivery that it records.  `commits` says that it has an accepted
configuration. -/
structure PendingSendBatch where
  delivery : Option E2EDeliveryMetadata
  commits : Bool

/-- A target of a prepared encrypted send. -/
structure PreparedEncryptedSendTarget where
  transport : String
  senderDeviceId : String
  recipientDeviceId : String
  sessionId : String

def buildPlaintextSendBatches : List PendingSendBatch := [⟨none, false⟩]

def buildPendingSendBatches (targets : List PreparedEncryptedSendTarget) (recordedAt : ℕ) :
    List PendingSendBatch :=
  targets.map fun target => {
    delivery := some {
      transport := target.transport
      transportMessageId := none
      senderDeviceId := target.senderDeviceId
      receiverDeviceId := target.recipientDeviceId
      sessionId := target.sessionId
      state := .pending
      recordedAt := recordedAt
      usedSkippedMessageKey := none
      error := none }
    commits := true }

def deliveryStateFromReportStatus : ReportStatus → E2EDeliveryState
  | .delivered => .delivered
  | _ => .accepted

def deliveryStateFromEventStatus : ReportStatus → Option E2EDeliveryState
  | .accepted => some .accepted
  | .delivered => some .delivered
  | .expired | .queueFull | .unknownRecipient => some .failed
  | .other _ => none

def deliveryErrorFromEventStatus : ReportStatus → Option String
  | .expired => some "Relay delivery expired"
  | .queueFull => some "Relay queue full for recipient"
  | .unknownRecipient => some "Recipient not found on relay"
  | _ => none

/-- The delivery of an accepted batch whose state is committed. -/
def acceptedDelivery (delivery : E2EDeliveryMetadata) (outcome : RelaySendOutcome)
    (reportedAt : ℕ) : E2EDeliveryMetadata :=
  { delivery with
    transportMessageId := some outcome.relayMessageId
    state := deliveryStateFromReportStatus outcome.status
    recordedAt := reportedAt
    error := none }

def uncommittedDelivery (delivery : E2EDeliveryMetadata) (outcome : RelaySendOutcome)
    (error : String) (recordedAt : ℕ) : E2EDeliveryMetadata :=
  { delivery with
    transportMessageId := some outcome.relayMessageId
    state := .failed
    recordedAt := recordedAt
    error := some ("Failed to persist accepted E2E state: " ++ error) }

def failedDelivery (delivery : E2EDeliveryMetadata) (error : String) (recordedAt : ℕ) :
    E2EDeliveryMetadata :=
  { delivery with
    state := .failed
    recordedAt := recordedAt
    error := some error }

/-! ### Tasks -/

/-- A send loop: before the answer to its next batch, or between the acceptance of a batch and the
record of it. -/
inductive SendTask where
  | sending (messageId : String) (batches : List PendingSendBatch)
  | committing (messageId : String) (batch : PendingSendBatch) (batches : List PendingSendBatch)
      (outcome : RelaySendOutcome) (reportedAt : ℕ)

def SendTask.batches : SendTask → List PendingSendBatch
  | .sending _ batches => batches
  | .committing _ batch batches _ _ => batch :: batches

/-- The store with its tasks and the reports in the event channel.  `acceptances` has the stored
message of each transport message that the relay has accepted, `delivered` and `handled` have those
that were reported delivered, and `evicted` the outbound messages that are no longer stored. -/
structure ReportState (T : Type) where
  messages : MessageStore
  tasks : T → Option SendTask
  events : List (DeliveryReport × ℕ)
  acceptances : String → Option String
  delivered : List String
  handled : List String
  evicted : List String

inductive ReportEvent (T : Type) where
  | stored (message : StoredMessage)
  | retried (messageId : String) (retry : E2ERetryMetadata)
  | sent (task : T) (messageId : String)
      (targets : Option (List PreparedEncryptedSendTarget)) (recordedAt : ℕ)
  | replayed (task : T) (messageId : String) (targets : List PreparedEncryptedSendTarget)
      (recordedAt : ℕ)
  | accepted (task : T) (relayMessageId : String) (reportedAt : ℕ)
  | refused (task : T) (error : String) (recordedAt : ℕ)
  | lost (task : T) (relayMessageId error : String) (recordedAt : ℕ)
  | committed (task : T)
  | uncommitted (task : T) (error : String) (recordedAt : ℕ)
  | finished (task : T)
  | reported (report : DeliveryReport) (receivedAt : ℕ)
  | handled

section

variable {T : Type} [DecidableEq T]

namespace ReportState

def setTask (s : ReportState T) (task : T) (phase : Option SendTask) : ReportState T :=
  { s with tasks := Function.update s.tasks task phase }

/-- `store_message`. -/
def store (s : ReportState T) (message : StoredMessage) : ReportState T :=
  { s with
    messages := s.messages.store message
    evicted := s.evicted ++
      ((s.messages.dropped message).filter (·.direction = .outbound)).map (·.id) }

/-- `upsert_message_delivery`, for a batch that has a delivery. -/
def upsert (s : ReportState T) (messageId : String) : Option E2EDeliveryMetadata → ReportState T
  | none => s
  | some delivery =>
      { s with messages := s.messages.upsertE2EDelivery messageId .outbound delivery }

/-- The relay accepts a SEND. -/
def accept (s : ReportState T) (relayMessageId messageId : String) : ReportState T :=
  { s with acceptances := Function.update s.acceptances relayMessageId (some messageId) }

/-- The event loop handles a report. -/
def handle (s : ReportState T) (report : DeliveryReport) (receivedAt : ℕ)
    (events : List (DeliveryReport × ℕ)) : ReportState T :=
  { s with
    messages :=
      match deliveryStateFromEventStatus report.status with
      | none => s.messages
      | some state =>
          s.messages.updateE2EDeliveryByTransportMessageId report.messageId state receivedAt
            (deliveryErrorFromEventStatus report.status)
    events := events
    handled := if report.status = .delivered then s.handled ++ [report.messageId] else s.handled }

end ReportState

/-- The batches of a send, and the message that it stores. -/
def sendBatches (targets : Option (List PreparedEncryptedSendTarget)) (recordedAt : ℕ) :
    List PendingSendBatch :=
  match targets with
  | none => buildPlaintextSendBatches
  | some targets => buildPendingSendBatches targets recordedAt

def sentMessage (messageId : String) (targets : Option (List PreparedEncryptedSendTarget))
    (recordedAt : ℕ) : StoredMessage where
  id := messageId
  direction := .outbound
  e2e := targets.map fun targets =>
    ⟨(buildPendingSendBatches targets recordedAt).filterMap (·.delivery), none⟩

/-- **What the tasks, the worker and the relay do.**  `lost` is a SEND that the relay accepts and
whose command is answered an error. -/
inductive ReportStep (s : ReportState T) : ReportEvent T → ReportState T → Prop
  | stored {message : StoredMessage} :
      message.direction = .inbound → ReportStep s (.stored message) (s.store message)
  | retried {messageId : String} {retry : E2ERetryMetadata} :
      ReportStep s (.retried messageId retry)
        { s with messages := s.messages.upsertE2ERetry messageId .outbound retry }
  | sent {task : T} {messageId : String}
      {targets : Option (List PreparedEncryptedSendTarget)} {recordedAt : ℕ} :
      s.tasks task = none →
      ReportStep s (.sent task messageId targets recordedAt)
        ((s.store (sentMessage messageId targets recordedAt)).setTask task
          (some (.sending messageId (sendBatches targets recordedAt))))
  | replayed {task : T} {messageId : String} {targets : List PreparedEncryptedSendTarget}
      {recordedAt : ℕ} :
      s.tasks task = none → (∃ message ∈ s.messages.messages, message.Is messageId .outbound) →
      ReportStep s (.replayed task messageId targets recordedAt)
        (s.setTask task (some (.sending messageId (buildPendingSendBatches targets recordedAt))))
  | accepted {task : T} {messageId relayMessageId : String} {batch : PendingSendBatch}
      {batches : List PendingSendBatch} {reportedAt : ℕ} :
      s.tasks task = some (.sending messageId (batch :: batches)) →
      s.acceptances relayMessageId = none →
      ReportStep s (.accepted task relayMessageId reportedAt)
        ((s.accept relayMessageId messageId).setTask task
          (some (.committing messageId batch batches ⟨relayMessageId, .accepted⟩ reportedAt)))
  | refused {task : T} {messageId error : String} {batch : PendingSendBatch}
      {batches : List PendingSendBatch} {recordedAt : ℕ} :
      s.tasks task = some (.sending messageId (batch :: batches)) →
      ReportStep s (.refused task error recordedAt)
        ((s.upsert messageId
          (batch.delivery.map (failedDelivery · error recordedAt))).setTask task none)
  | lost {task : T} {messageId relayMessageId error : String} {batch : PendingSendBatch}
      {batches : List PendingSendBatch} {recordedAt : ℕ} :
      s.tasks task = some (.sending messageId (batch :: batches)) →
      s.acceptances relayMessageId = none →
      ReportStep s (.lost task relayMessageId error recordedAt)
        (((s.accept relayMessageId messageId).upsert messageId
          (batch.delivery.map (failedDelivery · error recordedAt))).setTask task none)
  | committed {task : T} {messageId : String} {batch : PendingSendBatch}
      {batches : List PendingSendBatch} {outcome : RelaySendOutcome} {reportedAt : ℕ} :
      s.tasks task = some (.committing messageId batch batches outcome reportedAt) →
      ReportStep s (.committed task)
        ((s.upsert messageId
          (batch.delivery.map (acceptedDelivery · outcome reportedAt))).setTask task
            (some (.sending messageId batches)))
  | uncommitted {task : T} {messageId error : String} {batch : PendingSendBatch}
      {batches : List PendingSendBatch} {outcome : RelaySendOutcome} {reportedAt recordedAt : ℕ} :
      s.tasks task = some (.committing messageId batch batches outcome reportedAt) →
      batch.commits = true →
      ReportStep s (.uncommitted task error recordedAt)
        ((s.upsert messageId
          (batch.delivery.map (uncommittedDelivery · outcome error recordedAt))).setTask task none)
  | finished {task : T} {messageId : String} :
      s.tasks task = some (.sending messageId []) →
      ReportStep s (.finished task) (s.setTask task none)
  | reported {report : DeliveryReport} {receivedAt : ℕ} {messageId : String} :
      s.acceptances report.messageId = some messageId →
      ReportStep s (.reported report receivedAt)
        { s with
          events := s.events ++ [(report, receivedAt)]
          delivered :=
            if report.status = .delivered then s.delivered ++ [report.messageId]
            else s.delivered }
  | handled {report : DeliveryReport} {receivedAt : ℕ} {events : List (DeliveryReport × ℕ)} :
      s.events = (report, receivedAt) :: events →
      ReportStep s .handled (s.handle report receivedAt events)

/-- The delivery that a report would find is that of its message, and it has not failed. -/
def ReportState.Carries (s : ReportState T) (id : String) : Prop :=
  ∀ messageId, s.acceptances id = some messageId → messageId ∈ s.evicted ∨
    ∃ message delivery, s.messages.carrying? id = some (message, delivery) ∧
      message.Is messageId .outbound ∧ delivery.state ≠ .failed

/-- A delivery would take the place of one that is reported delivered under another transport
identifier. -/
def ReportState.Replaces (s : ReportState T) (messageId : String)
    (delivery : E2EDeliveryMetadata) (relayMessageId : String) : Prop :=
  ∃ message ∈ s.messages.messages, message.Is messageId .outbound ∧
    ∃ current ∈ message.deliveries, buildE2EDeliveryKey delivery = buildE2EDeliveryKey current ∧
      ∃ id ∈ s.handled, id ≠ relayMessageId ∧ current.DeliveredAs id

/-- **The condition** on a step: it handles no report before the delivery has its identifier or
after it has failed, and records no acceptance in the place of a reported one. -/
def ReportState.Attends (s : ReportState T) : ReportEvent T → Prop
  | .handled => ∀ id receivedAt events,
      s.events = (⟨id, .delivered⟩, receivedAt) :: events → s.Carries id
  | .committed task | .uncommitted task _ _ =>
      ∀ messageId batch batches outcome reportedAt delivery,
        s.tasks task = some (.committing messageId batch batches outcome reportedAt) →
        batch.delivery = some delivery → ¬ s.Replaces messageId delivery outcome.relayMessageId
  | _ => True

def CarefulReportStep (s : ReportState T) (event : ReportEvent T) (s' : ReportState T) : Prop :=
  ReportStep s event s' ∧ s.Attends event

/-! ### Batches as they are built -/

/-- A batch before its answer has no transport identifier. -/
def PendingSendBatch.Unsent (batch : PendingSendBatch) : Prop :=
  ∀ delivery, batch.delivery = some delivery →
    delivery.transportMessageId = none ∧ delivery.state = .pending

theorem unsent_buildPendingSendBatches (targets : List PreparedEncryptedSendTarget)
    (recordedAt : ℕ) : ∀ batch ∈ buildPendingSendBatches targets recordedAt, batch.Unsent := by
  intro batch hbatch delivery hdelivery
  obtain ⟨target, _, rfl⟩ := List.mem_map.mp hbatch
  cases hdelivery
  exact ⟨rfl, rfl⟩

theorem unsent_sendBatches (targets : Option (List PreparedEncryptedSendTarget))
    (recordedAt : ℕ) : ∀ batch ∈ sendBatches targets recordedAt, batch.Unsent := by
  cases targets with
  | none =>
    intro batch hbatch delivery hdelivery
    rw [List.mem_singleton.mp hbatch] at hdelivery
    cases hdelivery
  | some targets => exact unsent_buildPendingSendBatches targets recordedAt

variable {messageId : String} {delivery : E2EDeliveryMetadata} {s : ReportState T}

/-- The message that a send stores has no transport identifiers. -/
theorem unsent_sentMessage {targets : Option (List PreparedEncryptedSendTarget)} {recordedAt : ℕ}
    (h : delivery ∈ (sentMessage messageId targets recordedAt).deliveries) :
    delivery.transportMessageId = none ∧ delivery.state = .pending := by
  cases targets with
  | none => cases h
  | some targets =>
    obtain ⟨batch, hbatch, hdelivery⟩ := List.mem_filterMap.mp h
    exact unsent_buildPendingSendBatches targets recordedAt batch hbatch delivery hdelivery

/-- The event loop makes no delivery a received one. -/
theorem deliveryStateFromEventStatus_ne_received {status : ReportStatus}
    {state : E2EDeliveryState} (h : deliveryStateFromEventStatus status = some state) :
    state ≠ .received := by
  cases status <;> cases h <;> nofun

/-! ### The invariant -/

/-- **The invariant of the store and its tasks.** -/
structure Reporting (s : ReportState T) : Prop where
  outgoing : s.messages.OutgoingMessages
  unsent : ∀ task phase, s.tasks task = some phase → ∀ batch ∈ phase.batches, batch.Unsent
  recorded : ∀ id ∈ s.handled, ∀ messageId, s.acceptances id = some messageId →
    messageId ∈ s.evicted ∨ s.messages.Delivered messageId id
  known : ∀ report receivedAt, (report, receivedAt) ∈ s.events →
    s.acceptances report.messageId ≠ none
  knownHandled : ∀ id ∈ s.handled, s.acceptances id ≠ none
  complete : ∀ id ∈ s.delivered, id ∈ s.handled ∨
    ∃ receivedAt, (⟨id, .delivered⟩, receivedAt) ∈ s.events

namespace Reporting

variable {s : ReportState T} {task : T} {messageId : String}

/-- A task goes on, or ends. -/
theorem setTask (h : Reporting s) {phase : Option SendTask}
    (hphase : ∀ p, phase = some p → ∀ batch ∈ p.batches, batch.Unsent) :
    Reporting (s.setTask task phase) := by
  refine ⟨h.outgoing, fun other p hp => ?_, h.recorded, h.known, h.knownHandled, h.complete⟩
  rcases update_apply_eq_iff.mp hp with ⟨_, hp⟩ | ⟨_, hp⟩
  · exact hphase p hp
  · exact h.unsent other p hp

theorem endTask (h : Reporting s) : Reporting (s.setTask task none) :=
  h.setTask fun _ hp => by cases hp

/-- The store changes, and keeps what is delivered. -/
theorem setMessages (h : Reporting s) {messages : MessageStore} {evicted : List String}
    (houtgoing : messages.OutgoingMessages) (hevicted : ∀ id ∈ s.evicted, id ∈ evicted)
    (hkept : ∀ id ∈ s.handled, ∀ messageId, s.messages.Delivered messageId id →
      messageId ∈ evicted ∨ messages.Delivered messageId id) :
    Reporting { s with messages := messages, evicted := evicted } := by
  refine ⟨houtgoing, h.unsent, fun id hid messageId haccepted => ?_, h.known, h.knownHandled,
    h.complete⟩
  rcases h.recorded id hid messageId haccepted with hgone | hdelivered
  · exact Or.inl (hevicted messageId hgone)
  · exact hkept id hid messageId hdelivered

/-- A message is stored that leaves the records alone. -/
theorem store (h : Reporting s) {message : StoredMessage}
    (hmessage : message.direction = .outbound → ∀ delivery ∈ message.deliveries,
      delivery.transportMessageId = none ∧ delivery.state = .pending) :
    Reporting (s.store message) := by
  have hdeliveries {e2e : StoredMessageE2EMetadata} (he2e : message.e2e = some e2e) :
      message.deliveries = e2e.deliveries := by
    rw [StoredMessage.deliveries, he2e]
    rfl
  refine h.setMessages (h.outgoing.stored fun houtbound => ?_)
    (fun _ => List.mem_append_left _) fun id _ messageId hdelivered => ?_
  · exact ⟨fun delivery hmem => by rw [(hmessage houtbound delivery hmem).2]; rintro ⟨⟩,
      Or.inr fun delivery hmem => (hmessage houtbound delivery hmem).1⟩
  · refine (hdelivered.stored h.outgoing fun existing _ his houtbound e2e he2e => ?_).symm.imp
      (fun hdropped => ?_) fun hkept => hkept
    · intro delivery hmem _ _ _ _
      have hunsent := hmessage (his.2.symm.trans houtbound) delivery (hdeliveries he2e ▸ hmem)
      exact ⟨Or.inl hunsent.1, by rw [hunsent.2]; rintro ⟨⟩⟩
    · obtain ⟨old, hold, his⟩ := hdropped
      refine List.mem_append_right _ (List.mem_map.mpr ⟨old, List.mem_filter.mpr ⟨hold, ?_⟩, his.1⟩)
      exact decide_eq_true his.2

/-- A delivery is recorded that leaves the reported ones alone. -/
theorem upsert (h : Reporting s) {delivery : Option E2EDeliveryMetadata}
    (hdelivery : ∀ d, delivery = some d → d.state ≠ .received ∧
      ∀ id ∈ s.handled, ∀ message ∈ s.messages.messages, message.Is messageId .outbound →
        ∀ current ∈ message.deliveries, current.DeliveredAs id →
          buildE2EDeliveryKey d = buildE2EDeliveryKey current → d.Leaves id) :
    Reporting (s.upsert messageId delivery) := by
  cases delivery with
  | none => exact h
  | some d =>
    obtain ⟨hreceived, hleaves⟩ := hdelivery d rfl
    refine h.setMessages (h.outgoing.modify fun _ e2e he2e other hother => ?_) (fun _ => id)
      fun id hid _ hdelivered => Or.inr (hdelivered.modify h.outgoing ?_)
    · cases he2e
      rw [List.mem_singleton.mp hother]
      exact hreceived
    · intro message hmem his _ e2e he2e other hother current hcurrent hdelivered hkey
      cases he2e
      rw [List.mem_singleton.mp hother] at hkey ⊢
      exact hleaves id hid message hmem his current hcurrent hdelivered hkey

/-- A batch fails before it has a transport identifier. -/
theorem failed (h : Reporting s) {batch : PendingSendBatch} (hbatch : batch.Unsent)
    (error : String) (recordedAt : ℕ) :
    Reporting (s.upsert messageId (batch.delivery.map (failedDelivery · error recordedAt))) := by
  refine h.upsert fun recorded hrecorded => ?_
  obtain ⟨delivery, hdelivery, rfl⟩ := Option.map_eq_some_iff.mp hrecorded
  exact ⟨nofun, fun _ _ _ _ _ _ _ _ _ => ⟨Or.inl (hbatch delivery hdelivery).1, nofun⟩⟩

/-- The relay accepts a message under a new identifier. -/
theorem accept (h : Reporting s) {relayMessageId : String}
    (hnew : s.acceptances relayMessageId = none) :
    Reporting (s.accept relayMessageId messageId) := by
  have hsome {id : String} (hid : s.acceptances id ≠ none) :
      (s.accept relayMessageId messageId).acceptances id = s.acceptances id :=
    Function.update_of_ne (fun hsame : id = relayMessageId => hid (hsame ▸ hnew)) _ _
  refine ⟨h.outgoing, h.unsent, fun id hid messageId haccepted => ?_,
    fun report receivedAt hmem => ?_, fun id hid => ?_, h.complete⟩
  · rw [hsome (h.knownHandled id hid)] at haccepted
    exact h.recorded id hid messageId haccepted
  · rw [hsome (h.known report receivedAt hmem)]
    exact h.known report receivedAt hmem
  · rw [hsome (h.knownHandled id hid)]
    exact h.knownHandled id hid

variable {report : DeliveryReport} {receivedAt : ℕ}

/-- The relay sends a report. -/
theorem reported (h : Reporting s) (haccepted : s.acceptances report.messageId = some messageId) :
    Reporting { s with
      events := s.events ++ [(report, receivedAt)]
      delivered :=
        if report.status = .delivered then s.delivered ++ [report.messageId]
        else s.delivered } := by
  refine ⟨h.outgoing, h.unsent, h.recorded, fun report' receivedAt' hmem => ?_, h.knownHandled,
    fun id hid => ?_⟩
  · rcases List.mem_append.mp hmem with hbefore | hlast
    · exact h.known report' receivedAt' hbefore
    · obtain ⟨rfl, rfl⟩ := Prod.mk.inj (List.mem_singleton.mp hlast)
      rw [haccepted]
      nofun
  · have hbefore (hid : id ∈ s.delivered) : id ∈ s.handled ∨
        ∃ receivedAt', (⟨id, .delivered⟩, receivedAt') ∈ s.events ++ [(report, receivedAt)] :=
      (h.complete id hid).imp (fun hhandled => hhandled)
        fun ⟨receivedAt', hmem⟩ => ⟨receivedAt', List.mem_append_left _ hmem⟩
    dsimp only at hid
    split at hid
    · rename_i hstatus
      rcases List.mem_append.mp hid with hold | hnew
      · exact hbefore hold
      · refine Or.inr ⟨receivedAt, List.mem_append_right _ (List.mem_singleton.mpr ?_)⟩
        rw [List.mem_singleton.mp hnew, ← hstatus]
    · exact hbefore hid

/-- **A report is handled** while the delivery that it finds is that of its message. -/
theorem handle (h : Reporting s) {events : List (DeliveryReport × ℕ)}
    (hevents : s.events = (report, receivedAt) :: events)
    (hcarries : report.status = .delivered → s.Carries report.messageId) :
    Reporting (s.handle report receivedAt events) := by
  have hmessages : (s.handle report receivedAt events).messages.OutgoingMessages ∧
      ∀ id messageId, s.messages.Delivered messageId id →
        (s.handle report receivedAt events).messages.Delivered messageId id := by
    dsimp only [ReportState.handle]
    split
    · exact ⟨h.outgoing, fun _ _ hdelivered => hdelivered⟩
    · rename_i state hstate
      have hreceived : state ≠ .received := deliveryStateFromEventStatus_ne_received hstate
      exact ⟨h.outgoing.report hreceived, fun _ _ hdelivered => hdelivered.report hreceived⟩
  have hhandled {id : String} (hid : id ∈ (s.handle report receivedAt events).handled) :
      id ∈ s.handled ∨ (report.status = .delivered ∧ id = report.messageId) := by
    dsimp only [ReportState.handle] at hid
    split at hid
    · rename_i hstatus
      exact (List.mem_append.mp hid).imp_right fun hnew => ⟨hstatus, List.mem_singleton.mp hnew⟩
    · exact Or.inl hid
  have hold {id : String} (hid : id ∈ s.handled) :
      id ∈ (s.handle report receivedAt events).handled := by
    dsimp only [ReportState.handle]
    split
    · exact List.mem_append_left _ hid
    · exact hid
  refine ⟨hmessages.1, h.unsent, fun id hid messageId haccepted => ?_,
    fun report' receivedAt' hmem => ?_, fun id hid => ?_, fun id hid => ?_⟩
  · rcases hhandled hid with hbefore | ⟨hstatus, rfl⟩
    · exact (h.recorded id hbefore messageId haccepted).imp_right (hmessages.2 id messageId)
    · refine (hcarries hstatus messageId haccepted).imp_right fun hfound => ?_
      obtain ⟨message, delivery, hcarrying, his, hfailed⟩ := hfound
      have hstate : deliveryStateFromEventStatus report.status = some .delivered := by
        rw [hstatus]
        rfl
      dsimp only [ReportState.handle]
      rw [hstate]
      exact MessageStore.delivered_of_carrying h.outgoing hcarrying his hfailed _ _
  · exact h.known report' receivedAt' (hevents ▸ List.mem_cons_of_mem _ hmem)
  · rcases hhandled hid with hbefore | ⟨_, rfl⟩
    · exact h.knownHandled id hbefore
    · exact h.known report receivedAt (hevents ▸ List.mem_cons_self)
  · rcases h.complete id hid with hbefore | ⟨receivedAt', hmem⟩
    · exact Or.inl (hold hbefore)
    · rw [hevents] at hmem
      rcases List.mem_cons.mp hmem with hhead | hrest
      · obtain ⟨rfl, rfl⟩ := Prod.mk.inj hhead
        refine Or.inl ?_
        show id ∈ s.handled ++ [id]
        exact List.mem_append_right _ List.mem_cons_self
      · exact Or.inr ⟨receivedAt', hrest⟩

end Reporting

/-! ### Runs -/

/-- Before the first send: what is stored was stored in an earlier run. -/
structure ReportState.Starting (s : ReportState T) : Prop where
  outgoing : s.messages.OutgoingMessages
  tasks : ∀ task, s.tasks task = none
  events : s.events = []
  delivered : s.delivered = []
  handled : s.handled = []

theorem Reporting.of_starting (h : s.Starting) : Reporting s := by
  refine ⟨h.outgoing, fun task phase hphase => ?_, fun id hid => ?_,
    fun report receivedAt hmem => ?_, fun id hid => ?_, fun id hid => ?_⟩
  · rw [h.tasks task] at hphase
    cases hphase
  · rw [h.handled] at hid
    cases hid
  · rw [h.events] at hmem
    cases hmem
  · rw [h.handled] at hid
    cases hid
  · rw [h.delivered] at hid
    cases hid

/-- An acceptance that replaces no reported one leaves those alone. -/
theorem leaves_of_not_replaces {relayMessageId id : String} {recorded : E2EDeliveryMetadata}
    {message : StoredMessage} {current : E2EDeliveryMetadata}
    (h : ¬ s.Replaces messageId delivery relayMessageId) (hid : id ∈ s.handled)
    (hmem : message ∈ s.messages.messages) (his : message.Is messageId .outbound)
    (hcurrent : current ∈ message.deliveries) (hdelivered : current.DeliveredAs id)
    (hkey : buildE2EDeliveryKey delivery = buildE2EDeliveryKey current)
    (hrecorded : recorded.transportMessageId = some relayMessageId)
    (hreceived : recorded.state ≠ .received) : recorded.Leaves id := by
  refine ⟨Or.inr (hrecorded.trans ?_), hreceived⟩
  by_contra hne
  refine h ⟨message, hmem, his, current, hcurrent, hkey, id, hid, fun hsame => ?_, hdelivered⟩
  exact hne (congrArg some hsame.symm)

/-- **Step.**  A careful step keeps the invariant. -/
theorem Reporting.step {s' : ReportState T} {event : ReportEvent T} (h : Reporting s)
    (hstep : CarefulReportStep s event s') : Reporting s' := by
  obtain ⟨hstep, hattends⟩ := hstep
  cases hstep with
  | stored hinbound =>
    refine h.store fun houtbound => ?_
    rw [hinbound] at houtbound
    cases houtbound
  | retried =>
    refine h.setMessages (h.outgoing.modify fun _ e2e he2e other hother => ?_) (fun _ => id)
      fun id _ messageId hdelivered => Or.inr (hdelivered.modify h.outgoing ?_)
    · cases he2e
      cases hother
    · intro message _ _ _ e2e he2e other hother
      cases he2e
      cases hother
  | sent htask =>
    refine (h.store fun _ delivery hmem => unsent_sentMessage hmem).setTask fun p hp => ?_
    cases hp
    exact unsent_sendBatches _ _
  | replayed htask hstored =>
    refine h.setTask fun p hp => ?_
    cases hp
    exact unsent_buildPendingSendBatches _ _
  | accepted htask hnew =>
    refine (h.accept hnew).setTask fun p hp => ?_
    cases hp
    exact h.unsent _ (.sending _ (_ :: _)) htask
  | refused htask =>
    have hbatch := h.unsent _ _ htask _ List.mem_cons_self
    exact (h.failed hbatch _ _).endTask
  | lost htask hnew =>
    have hbatch := h.unsent _ _ htask _ List.mem_cons_self
    exact ((h.accept hnew).failed hbatch _ _).endTask
  | @committed task messageId batch batches outcome reportedAt htask =>
    refine (h.upsert fun recorded hrecorded => ?_).setTask fun p hp => ?_
    · obtain ⟨delivery, hdelivery, rfl⟩ := Option.map_eq_some_iff.mp hrecorded
      have hreceived : (acceptedDelivery delivery outcome reportedAt).state ≠ .received := by
        show deliveryStateFromReportStatus outcome.status ≠ .received
        cases outcome.status <;> nofun
      refine ⟨hreceived, fun id hid message hmem his current hcurrent hdelivered hkey => ?_⟩
      exact leaves_of_not_replaces
        (hattends messageId batch batches outcome reportedAt delivery htask hdelivery) hid hmem
        his hcurrent hdelivered hkey rfl hreceived
    · cases hp
      exact fun other hother => h.unsent _ _ htask other (List.mem_cons_of_mem _ hother)
  | @uncommitted task messageId error batch batches outcome reportedAt recordedAt htask hcommits =>
    refine (h.upsert fun recorded hrecorded => ?_).endTask
    obtain ⟨delivery, hdelivery, rfl⟩ := Option.map_eq_some_iff.mp hrecorded
    refine ⟨nofun, fun id hid message hmem his current hcurrent hdelivered hkey => ?_⟩
    exact leaves_of_not_replaces
      (hattends messageId batch batches outcome reportedAt delivery htask hdelivery) hid hmem
      his hcurrent hdelivered hkey rfl nofun
  | finished htask => exact h.endTask
  | reported haccepted => exact h.reported haccepted
  | @handled report receivedAt events hevents =>
    refine h.handle hevents fun hstatus => ?_
    obtain ⟨id, status⟩ := report
    obtain rfl : status = .delivered := hstatus
    exact hattends id receivedAt events hevents

/-- **No delivery report is lost** in a run in which every report is handled while the delivery that
it finds is that of its message and has not failed, and no acceptance takes the place of a reported
one: when the event channel is empty, every message that was reported delivered has, while it is
stored, a delivery with its transport identifier in the state `delivered`. -/
theorem reports_recorded {s t : ReportState T} {events : List (ReportEvent T)} (hs : s.Starting)
    (h : Trace CarefulReportStep s events t) (hquiet : t.events = []) :
    ∀ id ∈ t.delivered, ∀ messageId, t.acceptances id = some messageId →
      messageId ∈ t.evicted ∨ t.messages.Delivered messageId id := by
  have hreporting : Reporting t :=
    h.invariant (fun _ => Reporting) (.of_starting hs) fun _ hbefore hstep => hbefore.step hstep
  intro id hid messageId haccepted
  rcases hreporting.complete id hid with hhandled | ⟨receivedAt, hmem⟩
  · exact hreporting.recorded id hhandled messageId haccepted
  · rw [hquiet] at hmem
    cases hmem

end

/-! ### A message to one device -/

/-- A daemon without messages. -/
def emptyStore : ReportState Unit := ⟨⟨[], 1000⟩, fun _ => none, [], fun _ => none, [], [], []⟩

theorem emptyStore_starting : emptyStore.Starting :=
  ⟨fun _ => nofun, fun _ => rfl, rfl, rfl, rfl⟩

/-- The device that the message is for. -/
def bobDevice : PreparedEncryptedSendTarget := ⟨"session", "alice-1", "bob-1", "session-1"⟩

/-- The delivery to it. -/
def bobDelivery (transportMessageId : Option String) (state : E2EDeliveryState) (recordedAt : ℕ) :
    E2EDeliveryMetadata :=
  ⟨"session", transportMessageId, "alice-1", "bob-1", "session-1", state, recordedAt, none, none⟩

def bobBatch : PendingSendBatch := ⟨some (bobDelivery none .pending 1), true⟩

/-- The store with the message. -/
def bobStore (delivery : E2EDeliveryMetadata) : MessageStore :=
  ⟨[⟨"hello", .outbound, some ⟨[delivery], none⟩⟩], 1000⟩

variable {delivery incoming : E2EDeliveryMetadata} {id : String}

/-- A delivery is merged into the only one of its key. -/
theorem mergeE2EDeliveries_singleton
    (h : buildE2EDeliveryKey incoming = buildE2EDeliveryKey delivery) :
    mergeE2EDeliveries [delivery] [incoming] = [mergeE2EDelivery delivery incoming] := by
  have hget : (Record.empty.set (buildE2EDeliveryKey delivery) delivery).get?
      (buildE2EDeliveryKey delivery) = some delivery := Record.get?_set_self ..
  have hinsert : insertDelivery (Record.empty.set (buildE2EDeliveryKey delivery) delivery)
      incoming = (Record.empty.set (buildE2EDeliveryKey delivery) delivery).set
        (buildE2EDeliveryKey delivery) (mergeE2EDelivery delivery incoming) := by
    unfold insertDelivery
    dsimp only
    rw [h, hget]
  show (List.insertionSort _ (insertDelivery _ incoming).values) = _
  rw [List.foldl_cons, List.foldl_nil, hinsert]
  simp [Record.values, Record.set, Record.empty, Record.insert]

theorem upsert_bobStore (h : buildE2EDeliveryKey incoming = buildE2EDeliveryKey delivery) :
    (bobStore delivery).upsertE2EDelivery "hello" .outbound incoming =
      bobStore (mergeE2EDelivery delivery incoming) := by
  have hmerge : mergeMessageE2E ⟨"hello", .outbound, some ⟨[delivery], none⟩⟩
      (some ⟨[incoming], none⟩) =
        ⟨"hello", .outbound, some ⟨[mergeE2EDelivery delivery incoming], none⟩⟩ := by
    dsimp only [mergeMessageE2E, StoredMessage.deliveries, Option.map_some, Option.getD_some]
    rw [mergeE2EDeliveries_singleton h]
    rfl
  have his : (StoredMessage.mk "hello" .outbound (some ⟨[delivery], none⟩)).Is "hello" .outbound :=
    ⟨rfl, rfl⟩
  unfold MessageStore.upsertE2EDelivery MessageStore.modify bobStore
  dsimp only
  rw [List.replaceF_cons, if_pos his, hmerge]

/-- A report of the delivery. -/
theorem report_bobStore (h : delivery.transportMessageId = some id) (recordedAt : ℕ) :
    (bobStore delivery).updateE2EDeliveryByTransportMessageId id .delivered recordedAt none =
      bobStore (delivery.report .delivered recordedAt none) := by
  have hreport : delivery.report? id .delivered recordedAt none =
      some (delivery.report .delivered recordedAt none) := if_pos h
  have hcarrying : (StoredMessage.mk "hello" .outbound (some ⟨[delivery], none⟩)).carrying? id =
      some delivery := List.find?_cons_of_pos (decide_eq_true h)
  have hmessage : (StoredMessage.mk "hello" .outbound (some ⟨[delivery], none⟩)).report? id
      .delivered recordedAt none = some ⟨"hello", .outbound,
        some ⟨[delivery.report .delivered recordedAt none], none⟩⟩ := by
    unfold StoredMessage.report?
    rw [hcarrying]
    dsimp only
    rw [List.replaceF_cons_of_some _ hreport]
  unfold MessageStore.updateE2EDeliveryByTransportMessageId bobStore
  rw [List.replaceF_cons_of_some _ hmessage]

/-- A report that no delivery has the identifier of. -/
theorem report_bobStore_of_none (h : delivery.transportMessageId = none) (recordedAt : ℕ) :
    (bobStore delivery).updateE2EDeliveryByTransportMessageId id .delivered recordedAt none =
      bobStore delivery := by
  have hcarrying : (StoredMessage.mk "hello" .outbound (some ⟨[delivery], none⟩)).carrying? id =
      none := List.find?_eq_none.mpr fun other hother => by
    rw [List.mem_singleton.mp hother, h]
    nofun
  have hmessage : (StoredMessage.mk "hello" .outbound (some ⟨[delivery], none⟩)).report? id
      .delivered recordedAt none = none := by
    unfold StoredMessage.report?
    rw [hcarrying]
  unfold MessageStore.updateE2EDeliveryByTransportMessageId bobStore
  rw [List.replaceF_cons_of_none _ hmessage]
  rfl

/-- The daemon with the message stored, and accepted under `m1`. -/
def bobReports (delivery : E2EDeliveryMetadata) (phase : Option SendTask)
    (events : List (DeliveryReport × ℕ)) (acceptances : String → Option String)
    (delivered handled : List String) : ReportState Unit :=
  ⟨bobStore delivery, fun _ => phase, events, acceptances, delivered, handled, []⟩

def bobAcceptances : String → Option String :=
  Function.update (fun _ => none) "m1" (some "hello")

/-- The send between the acceptance and the record of it. -/
def bobCommitting : SendTask := .committing "hello" bobBatch [] ⟨"m1", .accepted⟩ 2

section

variable {delivery : E2EDeliveryMetadata} {phase : Option SendTask}
  {events : List (DeliveryReport × ℕ)} {acceptances : String → Option String}
  {delivered handled : List String}

theorem setTask_bobReports (phase' : Option SendTask) :
    (bobReports delivery phase events acceptances delivered handled).setTask () phase' =
      bobReports delivery phase' events acceptances delivered handled := by
  have hupdate : Function.update (fun _ : Unit => phase) () phase' = fun _ => phase' :=
    funext fun _ => Function.update_self ..
  unfold ReportState.setTask bobReports
  dsimp only
  rw [hupdate]

theorem sent_bobReports : ReportStep emptyStore (.sent () "hello" (some [bobDevice]) 1)
    (bobReports (bobDelivery none .pending 1) (some (.sending "hello" [bobBatch])) []
      (fun _ => none) [] []) := by
  have hstore : emptyStore.store (sentMessage "hello" (some [bobDevice]) 1) =
      bobReports (bobDelivery none .pending 1) none [] (fun _ => none) [] [] := rfl
  have hstep : ReportStep emptyStore (.sent () "hello" (some [bobDevice]) 1) _ := .sent rfl
  rw [hstore, setTask_bobReports] at hstep
  exact hstep

theorem accepted_bobReports : ReportStep
    (bobReports delivery (some (.sending "hello" [bobBatch])) events (fun _ => none) delivered
      handled) (.accepted () "m1" 2)
    (bobReports delivery (some bobCommitting) events bobAcceptances delivered handled) := by
  have hstep : ReportStep
      (bobReports delivery (some (.sending "hello" [bobBatch])) events (fun _ => none) delivered
        handled) (.accepted () "m1" 2) _ := .accepted rfl rfl
  have haccept : (bobReports delivery (some (.sending "hello" [bobBatch])) events (fun _ => none)
      delivered handled).accept "m1" "hello" = bobReports delivery
        (some (.sending "hello" [bobBatch])) events bobAcceptances delivered handled := rfl
  rw [haccept, setTask_bobReports] at hstep
  exact hstep

theorem committed_bobReports : ReportStep
    (bobReports (bobDelivery none .pending 1) (some bobCommitting) events acceptances delivered
      handled) (.committed ())
    (bobReports (bobDelivery (some "m1") .accepted 2) (some (.sending "hello" [])) events
      acceptances delivered handled) := by
  have hkey : buildE2EDeliveryKey (acceptedDelivery (bobDelivery none .pending 1)
      ⟨"m1", .accepted⟩ 2) = buildE2EDeliveryKey (bobDelivery none .pending 1) := rfl
  have hmerge : mergeE2EDelivery (bobDelivery none .pending 1)
      (acceptedDelivery (bobDelivery none .pending 1) ⟨"m1", .accepted⟩ 2) =
        bobDelivery (some "m1") .accepted 2 := rfl
  have hupsert : (bobReports (bobDelivery none .pending 1) (some bobCommitting) events acceptances
      delivered handled).upsert "hello"
        (bobBatch.delivery.map (acceptedDelivery · ⟨"m1", .accepted⟩ 2)) =
      bobReports (bobDelivery (some "m1") .accepted 2) (some bobCommitting) events acceptances
        delivered handled := by
    unfold bobReports bobBatch
    dsimp only [Option.map_some, ReportState.upsert]
    rw [upsert_bobStore hkey, hmerge]
  have hstep : ReportStep (bobReports (bobDelivery none .pending 1) (some bobCommitting) events
      acceptances delivered handled) (.committed ()) _ := .committed rfl
  rw [hupsert, setTask_bobReports] at hstep
  exact hstep

theorem finished_bobReports : ReportStep
    (bobReports delivery (some (.sending "hello" [])) events acceptances delivered handled)
    (.finished ()) (bobReports delivery none events acceptances delivered handled) := by
  have hstep : ReportStep
      (bobReports delivery (some (.sending "hello" [])) events acceptances delivered handled)
      (.finished ()) _ := .finished rfl
  rw [setTask_bobReports] at hstep
  exact hstep

theorem reported_bobReports : ReportStep
    (bobReports delivery phase [] bobAcceptances [] handled)
    (.reported ⟨"m1", .delivered⟩ 3)
    (bobReports delivery phase [(⟨"m1", .delivered⟩, 3)] bobAcceptances ["m1"] handled) :=
  .reported (show bobAcceptances "m1" = some "hello" from rfl)

/-- The report finds the delivery. -/
theorem handled_bobReports (h : delivery.transportMessageId = some "m1") : ReportStep
    (bobReports delivery phase [(⟨"m1", .delivered⟩, 3)] acceptances delivered []) .handled
    (bobReports (delivery.report .delivered 3 none) phase [] acceptances delivered ["m1"]) := by
  have hstep : ReportStep
      (bobReports delivery phase [(⟨"m1", .delivered⟩, 3)] acceptances delivered []) .handled
      _ := .handled rfl
  have hhandle : (bobReports delivery phase [(⟨"m1", .delivered⟩, 3)] acceptances delivered
      []).handle ⟨"m1", .delivered⟩ 3 [] =
        bobReports (delivery.report .delivered 3 none) phase [] acceptances delivered ["m1"] := by
    unfold bobReports
    dsimp only [ReportState.handle, deliveryStateFromEventStatus, deliveryErrorFromEventStatus]
    rw [report_bobStore h]
    rfl
  rw [hhandle] at hstep
  exact hstep

/-- The report finds no delivery. -/
theorem handled_bobReports_of_none (h : delivery.transportMessageId = none) : ReportStep
    (bobReports delivery phase [(⟨"m1", .delivered⟩, 3)] acceptances delivered []) .handled
    (bobReports delivery phase [] acceptances delivered ["m1"]) := by
  have hstep : ReportStep
      (bobReports delivery phase [(⟨"m1", .delivered⟩, 3)] acceptances delivered []) .handled
      _ := .handled rfl
  have hhandle : (bobReports delivery phase [(⟨"m1", .delivered⟩, 3)] acceptances delivered
      []).handle ⟨"m1", .delivered⟩ 3 [] =
        bobReports delivery phase [] acceptances delivered ["m1"] := by
    unfold bobReports
    dsimp only [ReportState.handle, deliveryStateFromEventStatus, deliveryErrorFromEventStatus]
    rw [report_bobStore_of_none h]
    rfl
  rw [hhandle] at hstep
  exact hstep

end

/-- The message is accepted and recorded, then reported. -/
def recordedFirst : List (ReportEvent Unit) :=
  [.sent () "hello" (some [bobDevice]) 1, .accepted () "m1" 2, .committed (), .finished (),
    .reported ⟨"m1", .delivered⟩ 3, .handled]

theorem reports_recorded_sample : ∃ t : ReportState Unit, emptyStore.Starting ∧
    Trace CarefulReportStep emptyStore recordedFirst t ∧ t.delivered = ["m1"] ∧
    ∀ id ∈ t.delivered, ∀ messageId, t.acceptances id = some messageId →
      messageId ∈ t.evicted ∨ t.messages.Delivered messageId id := by
  have hcommitted : CarefulReportStep
      (bobReports (bobDelivery none .pending 1) (some bobCommitting) [] bobAcceptances [] [])
      (.committed ())
      (bobReports (bobDelivery (some "m1") .accepted 2) (some (.sending "hello" [])) []
        bobAcceptances [] []) := by
    refine ⟨committed_bobReports, fun _ _ _ _ _ _ _ _ hreplaces => ?_⟩
    obtain ⟨_, _, _, _, _, _, id, hid, _⟩ := hreplaces
    cases hid
  have hhandled : CarefulReportStep
      (bobReports (bobDelivery (some "m1") .accepted 2) none [(⟨"m1", .delivered⟩, 3)]
        bobAcceptances ["m1"] []) .handled
      (bobReports (bobDelivery (some "m1") .delivered 3) none [] bobAcceptances ["m1"]
        ["m1"]) := by
    refine ⟨handled_bobReports rfl, fun id receivedAt events hevents messageId haccepted => ?_⟩
    obtain ⟨hhead, _⟩ := List.cons.inj hevents
    cases hhead
    cases haccepted
    exact Or.inr ⟨_, _, rfl, ⟨rfl, rfl⟩, nofun⟩
  have htrace := (((((Trace.single ⟨sent_bobReports, trivial⟩).snoc
    ⟨accepted_bobReports, trivial⟩).snoc hcommitted).snoc ⟨finished_bobReports, trivial⟩).snoc
      ⟨reported_bobReports, trivial⟩).snoc hhandled
  exact ⟨_, emptyStore_starting, htrace, rfl, reports_recorded emptyStore_starting htrace rfl⟩

/-- The report of the message is handled while its state is being committed. -/
def reportedFirst : List (ReportEvent Unit) :=
  [.sent () "hello" (some [bobDevice]) 1, .accepted () "m1" 2, .reported ⟨"m1", .delivered⟩ 3,
    .handled, .committed (), .finished ()]

/-- **A report that outruns the record of its message is lost.**  The event loop finds no delivery
with the transport identifier, the send records the delivery as accepted afterwards, and nothing is
left to do. -/
theorem report_outruns_record : ∃ t : ReportState Unit, emptyStore.Starting ∧
    Trace ReportStep emptyStore reportedFirst t ∧ (∀ task, t.tasks task = none) ∧ t.events = [] ∧
    t.messages = bobStore (bobDelivery (some "m1") .accepted 2) ∧
    ¬ ∀ id ∈ t.delivered, ∀ messageId, t.acceptances id = some messageId →
      messageId ∈ t.evicted ∨ t.messages.Delivered messageId id := by
  have htrace := (((((Trace.single sent_bobReports).snoc accepted_bobReports).snoc
    reported_bobReports).snoc (handled_bobReports_of_none rfl)).snoc
      committed_bobReports).snoc finished_bobReports
  refine ⟨_, emptyStore_starting, htrace, fun _ => rfl, rfl, rfl, fun hall => ?_⟩
  rcases hall "m1" List.mem_cons_self "hello" rfl with hevicted | hdelivered
  · cases hevicted
  · obtain ⟨message, hmem, _, delivery, hdelivery, hdelivered⟩ := hdelivered
    rw [List.mem_singleton.mp hmem] at hdelivery
    rw [List.mem_singleton.mp hdelivery] at hdelivered
    cases hdelivered.2

end QuadraA.CliRs
