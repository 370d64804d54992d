import QuadraA.Lib.Record
import QuadraA.Messaging.Envelope

/-!
# Stored messages

`messaging/types.ts`, `status.ts`, `timestamp.ts` and the merges of `storage.ts`: a message with its
metadata, the order in which messages are listed, and the one record that two copies of a message
make.

* `normalizeEnvelope_toJson_eq` — an envelope that is valid is normalized to itself;
* `mergeStoredMessages` — the record of both copies, with `envelope_mergeStoredMessages`.

A property that is `undefined` is an absent one, but for the envelope: that of a normalized message
has all of its properties, so a merge takes it whole.  Numbers that are not finite are none.
-/

namespace QuadraA.Messaging

open QuadraA.Lib

/-! ### Normalized envelopes -/

/-- What `normalizeEnvelope` checks of an envelope whose properties have their types. -/
def MessageEnvelope.isValid (envelope : MessageEnvelope) : Bool :=
  isAgentDid envelope.sender && isAgentDid envelope.receiver &&
    !(envelope.type = .reply && envelope.replyTo.isNone)

theorem isValid_of_normalizeEnvelope {msg : JsonValue} {envelope : MessageEnvelope}
    (h : normalizeEnvelope msg = some envelope) : envelope.isValid = true := by
  simp only [normalizeEnvelope, guard, Option.bind_eq_bind, Option.bind_eq_some_iff] at h
  obtain ⟨type, _, id, _, sender, _, receiver, _, protocol, _, payload, _, timestamp, _, signature,
    _, _, hdids, _, hreply, h⟩ := h
  split at hdids
  · split at hreply
    · rename_i hdid hrep
      obtain rfl := Option.some.inj h
      simp only [MessageEnvelope.isValid, Bool.and_eq_true]
      exact ⟨by simpa using hdid, hrep⟩
    · cases hreply
  · cases hdids

theorem normalizeEnvelopeType_text (type : MessageEnvelopeType) :
    normalizeEnvelopeType type.text = some type := by
  cases type <;> rfl

/-- The optional properties of an envelope are its own. -/
theorem stringProperty_toJson (envelope : MessageEnvelope) :
    envelope.toJson.stringProperty "replyTo" = envelope.replyTo ∧
      envelope.toJson.stringProperty "threadId" = envelope.threadId ∧
      envelope.toJson.stringProperty "groupId" = envelope.groupId := by
  obtain ⟨id, sender, receiver, type, protocol, payload, timestamp, signature, replyTo, threadId,
    groupId⟩ := envelope
  cases replyTo <;> cases threadId <;> cases groupId <;> exact ⟨rfl, rfl, rfl⟩

/-- **An envelope is normalized to itself** if it is valid, and else refused. -/
theorem normalizeEnvelope_toJson_eq (envelope : MessageEnvelope) :
    normalizeEnvelope envelope.toJson = if envelope.isValid then some envelope else none := by
  obtain ⟨hreplyTo, hthreadId, hgroupId⟩ := stringProperty_toJson envelope
  have htype : envelope.toJson.stringProperty "type" = some envelope.type.text := rfl
  have hid : envelope.toJson.stringProperty "id" = some envelope.id := rfl
  have hsender : envelope.toJson.stringProperty "from" = some envelope.sender := rfl
  have hreceiver : envelope.toJson.stringProperty "to" = some envelope.receiver := rfl
  have hprotocol : envelope.toJson.stringProperty "protocol" = some envelope.protocol := rfl
  have hpayload : envelope.toJson.property "payload" = some envelope.payload := rfl
  have htimestamp : envelope.toJson.numberProperty "timestamp" = some envelope.timestamp := rfl
  have hsignature : envelope.toJson.stringProperty "signature" = some envelope.signature := rfl
  rw [normalizeEnvelope, htype, hid, hsender, hreceiver, hprotocol, hpayload, htimestamp,
    hsignature, hreplyTo, hthreadId, hgroupId, MessageEnvelope.isValid, Option.bind_some,
    normalizeEnvelopeType_text]
  dsimp only [Option.bind_eq_bind, Option.bind_some]
  cases isAgentDid envelope.sender && isAgentDid envelope.receiver with
  | false => rfl
  | true =>
    cases decide (envelope.type = .reply) && envelope.replyTo.isNone <;> rfl

theorem normalizeEnvelope_toJson {envelope : MessageEnvelope} (h : envelope.isValid = true) :
    normalizeEnvelope envelope.toJson = some envelope := by
  rw [normalizeEnvelope_toJson_eq, if_pos h]

/-! ### Messages -/

inductive MessageDirection where
  | inbound
  | outbound
deriving DecidableEq

def MessageDirection.text : MessageDirection → String
  | .inbound => "inbound"
  | .outbound => "outbound"

inductive MessageStatus where
  | pending
  | delivered
  | failed
  | archived
deriving DecidableEq

inductive E2EDeliveryState where
  | pending
  | sent
  | received
  | failed
deriving DecidableEq

structure E2EDeliveryMetadata where
  transport : String
  transportMessageId : Option String
  senderDeviceId : String
  receiverDeviceId : String
  sessionId : String
  state : E2EDeliveryState
  recordedAt : ℤ
  usedSkippedMessageKey : Option Bool
  error : Option String

structure E2ERetryMetadata where
  replayCount : ℤ
  lastRequestedAt : Option ℤ
  lastReplayedAt : Option ℤ
  lastReason : Option String

structure StoredMessageE2EMetadata where
  deliveries : List E2EDeliveryMetadata
  retry : Option E2ERetryMetadata

/-- A message with its metadata.  `E` is a JSON value in the store, and a `MessageEnvelope` once it
is normalized. -/
structure StoredMessage (E : Type) where
  envelope : E
  direction : MessageDirection
  status : MessageStatus
  receivedAt : Option ℤ
  sentAt : Option ℤ
  readAt : Option ℤ
  trustScore : Option Float
  trustStatus : Option String
  error : Option String
  e2e : Option StoredMessageE2EMetadata

section

variable {E F : Type}

def StoredMessage.deliveries (message : StoredMessage E) : List E2EDeliveryMetadata :=
  (message.e2e.map fun e2e => e2e.deliveries).getD []

def StoredMessage.retry (message : StoredMessage E) : Option E2ERetryMetadata :=
  message.e2e.bind fun e2e => e2e.retry

def StoredMessage.withEnvelope (message : StoredMessage E) (envelope : F) : StoredMessage F :=
  { message with envelope := envelope }

def storedMessageStatus (message : StoredMessage E) : MessageStatus :=
  if message.status = .archived then .archived
  else if message.status = .failed ∨
      (message.deliveries.any fun delivery => delivery.state = .failed) = true then .failed
  else if message.direction = .inbound then
    if message.readAt.isSome then .delivered else .pending
  else if message.status = .delivered ∨
      (message.deliveries.any fun delivery =>
        delivery.state = .sent || delivery.state = .received) = true then .delivered
  else .pending

end

/-- A normalized message. -/
abbrev NormalizedMessage := StoredMessage MessageEnvelope

/-- The message as the JSON value it is stored as. -/
def NormalizedMessage.toStored (message : NormalizedMessage) : StoredMessage JsonValue :=
  message.withEnvelope message.envelope.toJson

def normalizeStoredMessage (msg : StoredMessage JsonValue) : Option NormalizedMessage :=
  (normalizeEnvelope msg.envelope).map fun envelope =>
    { msg.withEnvelope envelope with status := storedMessageStatus (msg.withEnvelope envelope) }

theorem normalizeStoredMessage_toStored {message : NormalizedMessage}
    (h : message.envelope.isValid = true) :
    normalizeStoredMessage message.toStored
      = some { message with status := storedMessageStatus message } := by
  have henvelope := normalizeEnvelope_toJson h
  rw [normalizeStoredMessage, NormalizedMessage.toStored, StoredMessage.withEnvelope, henvelope]
  rfl

/-- A message that is read has a valid envelope, and the direction that is stored. -/
theorem of_normalizeStoredMessage {msg : StoredMessage JsonValue} {message : NormalizedMessage}
    (h : normalizeStoredMessage msg = some message) :
    normalizeEnvelope msg.envelope = some message.envelope ∧
      message.direction = msg.direction := by
  rw [normalizeStoredMessage, Option.map_eq_some_iff] at h
  obtain ⟨envelope, henvelope, rfl⟩ := h
  exact ⟨henvelope, rfl⟩

/-! ### The order of messages -/

/-- `localeCompare`, whose order depends on the locale. -/
structure Collation where
  localeCompare : String → String → Ordering
  lawful : Std.TransCmp localeCompare

/-- An order of texts. -/
def codePointOrder : Collation := ⟨compare, inferInstance⟩

def MAX_MESSAGE_SORT_SKEW_MS : ℕ := 5 * 60 * 1000

def normalizeTimestamp (value : Option ℤ) : Option ℕ :=
  value.bind fun value => if 0 ≤ value then some value.toNat else none

def getMessageLocalTimestamp (message : NormalizedMessage) : Option ℕ :=
  normalizeTimestamp message.receivedAt <|> normalizeTimestamp message.sentAt

def getMessageEnvelopeTimestamp (message : NormalizedMessage) : Option ℕ :=
  normalizeTimestamp (some message.envelope.timestamp)

def getMessageSortTimestamp (message : NormalizedMessage) : ℕ :=
  match getMessageEnvelopeTimestamp message with
  | some envelopeTimestamp =>
      match getMessageLocalTimestamp message with
      | some localTimestamp =>
          if MAX_MESSAGE_SORT_SKEW_MS < (localTimestamp - envelopeTimestamp : ℤ).natAbs then
            localTimestamp
          else envelopeTimestamp
      | none => envelopeTimestamp
  | none => (getMessageLocalTimestamp message).getD 0

/-- Values compared by a number, and equal ones by what follows. -/
def compareBy {α : Type} (number : α → ℕ) (next : α → α → Ordering) (left right : α) : Ordering :=
  (compare (number left) (number right)).then (next left right)

def compareMessagesBySortTimestamp (collation : Collation) :
    NormalizedMessage → NormalizedMessage → Ordering :=
  compareBy getMessageSortTimestamp <|
    compareBy (fun message => (getMessageLocalTimestamp message).getD 0) <|
      compareBy (fun message => (getMessageEnvelopeTimestamp message).getD 0) fun left right =>
        collation.localeCompare left.envelope.id right.envelope.id

theorem transCmp_comap {α β : Type} {cmp : β → β → Ordering} (f : α → β) (h : Std.TransCmp cmp) :
    Std.TransCmp fun left right => cmp (f left) (f right) where
  eq_swap := h.eq_swap
  isLE_trans := h.isLE_trans

theorem transCmp_compareBy {α : Type} {next : α → α → Ordering} (number : α → ℕ)
    (h : Std.TransCmp next) : Std.TransCmp (compareBy number next) := by
  have hnumber : Std.TransCmp fun left right => compare (number left) (number right) :=
    transCmp_comap number inferInstance
  have hboth : Std.TransCmp
      (compareLex (fun left right => compare (number left) (number right)) next) := inferInstance
  exact hboth

theorem transCmp_compareMessages (collation : Collation) :
    Std.TransCmp (compareMessagesBySortTimestamp collation) :=
  transCmp_compareBy _ <| transCmp_compareBy _ <| transCmp_compareBy _ <|
    transCmp_comap (fun message : NormalizedMessage => message.envelope.id) collation.lawful

/-! ### Merging -/

def buildE2EDeliveryKey (delivery : E2EDeliveryMetadata) : String :=
  delivery.senderDeviceId ++ ":" ++ delivery.receiverDeviceId ++ ":" ++ delivery.sessionId

/-- `{ ...previous, ...delivery }`. -/
def mergeE2EDelivery (previous delivery : E2EDeliveryMetadata) : E2EDeliveryMetadata :=
  { delivery with
    transportMessageId := delivery.transportMessageId <|> previous.transportMessageId
    usedSkippedMessageKey := delivery.usedSkippedMessageKey <|> previous.usedSkippedMessageKey
    error := delivery.error <|> previous.error }

def compareDeliveries (collation : Collation) (left right : E2EDeliveryMetadata) : Ordering :=
  (collation.localeCompare left.receiverDeviceId right.receiverDeviceId).then <|
    (collation.localeCompare left.senderDeviceId right.senderDeviceId).then <|
      collation.localeCompare left.sessionId right.sessionId

def mergeE2EDeliveries (collation : Collation) (existing incoming : List E2EDeliveryMetadata) :
    List E2EDeliveryMetadata :=
  let merged := existing.foldl
    (fun merged delivery => merged.set (buildE2EDeliveryKey delivery) delivery)
    (Record.empty : Record String E2EDeliveryMetadata)
  let merged := incoming.foldl
    (fun merged delivery =>
      let key := buildE2EDeliveryKey delivery
      match merged.get? key with
      | some previous => merged.set key (mergeE2EDelivery previous delivery)
      | none => merged.set key delivery)
    merged
  merged.values.mergeSort fun left right => (compareDeliveries collation left right).isLE

def mergeE2ERetryMetadata (existing incoming : Option E2ERetryMetadata) :
    Option E2ERetryMetadata :=
  match existing, incoming with
  | none, incoming => incoming
  | existing, none => existing
  | some existing, some incoming =>
      some
        { replayCount := max existing.replayCount incoming.replayCount
          lastRequestedAt := incoming.lastRequestedAt <|> existing.lastRequestedAt
          lastReplayedAt := incoming.lastReplayedAt <|> existing.lastReplayedAt
          lastReason := incoming.lastReason <|> existing.lastReason }

section

variable {E : Type}

def mergeStoredMessageE2EDeliveries (collation : Collation) (message : StoredMessage E)
    (deliveries : List E2EDeliveryMetadata) : StoredMessage E :=
  if deliveries = [] then message
  else
    { message with
      e2e := some
        { deliveries := mergeE2EDeliveries collation message.deliveries deliveries
          retry := message.retry } }

end

/-- **The record of both copies.** -/
def mergeStoredMessages (collation : Collation) (existing incoming : NormalizedMessage) :
    NormalizedMessage :=
  let merged : NormalizedMessage :=
    { envelope := incoming.envelope
      direction := incoming.direction
      status := existing.status
      receivedAt := existing.receivedAt <|> incoming.receivedAt
      sentAt := existing.sentAt <|> incoming.sentAt
      readAt := existing.readAt <|> incoming.readAt
      trustScore := incoming.trustScore <|> existing.trustScore
      trustStatus := incoming.trustStatus <|> existing.trustStatus
      error := incoming.error <|> existing.error
      e2e := existing.e2e }
  let withDeliveries := mergeStoredMessageE2EDeliveries collation merged incoming.deliveries
  if existing.retry.isNone && incoming.retry.isNone then withDeliveries
  else
    { withDeliveries with
      e2e := some
        { deliveries := withDeliveries.deliveries
          retry := mergeE2ERetryMetadata existing.retry incoming.retry } }

/-- **The later copy wins the envelope and the direction.** -/
theorem envelope_mergeStoredMessages (collation : Collation)
    (existing incoming : NormalizedMessage) :
    (mergeStoredMessages collation existing incoming).envelope = incoming.envelope ∧
      (mergeStoredMessages collation existing incoming).direction = incoming.direction := by
  rw [mergeStoredMessages, mergeStoredMessageE2EDeliveries]
  dsimp only
  split <;> split <;> exact ⟨rfl, rfl⟩

end QuadraA.Messaging
