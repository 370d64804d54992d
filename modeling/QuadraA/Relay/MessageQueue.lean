import QuadraA.Runtime.PeerOperations

/-!
# The message queue of the relay

`relay/src/queue.ts`: the records of the offline queue, under string keys in a byte-ordered
database, and what the operations of the queue compute from what they have read.

* `normalizeQueuedMessage` — how a record is read, with the statuses of earlier versions;
* `queueKey_inj`, `queueKey_inj_of_did` — what two equal keys have in common.

Where a stored envelope is not the list of its bytes but a legacy form, the record has here what
`deserializeQueuedEnvelope` makes of it, and nothing if that throws.
-/

namespace QuadraA.Relay

open QuadraA.Lib
open QuadraA.Runtime (WellFormedDid append_cons_inj_of_count)

/-! ### Records -/

inductive QueuedMessageStatus where
  | queued
  | inflight
  | expired
deriving DecidableEq

inductive StoredQueuedMessageStatus where
  | queued
  | inflight
  | expired
  | delivered
  | acked
deriving DecidableEq

def normalizeQueuedStatus : StoredQueuedMessageStatus → QueuedMessageStatus
  | .delivered => .inflight
  | .acked => .expired
  | .queued => .queued
  | .inflight => .inflight
  | .expired => .expired

def QueuedMessageStatus.stored : QueuedMessageStatus → StoredQueuedMessageStatus
  | .queued => .queued
  | .inflight => .inflight
  | .expired => .expired

abbrev QueuedEnvelope := List UInt8

structure QueuedMessage where
  messageId : String
  toDid : String
  fromDid : String
  envelope : QueuedEnvelope
  queuedAt : ℕ
  expiresAt : ℕ
  deliveryAttempts : ℕ
  lastAttemptAt : Option ℕ
  status : QueuedMessageStatus
deriving DecidableEq

structure StoredQueuedMessage where
  messageId : String
  toDid : String
  fromDid : String
  envelope : Option QueuedEnvelope
  queuedAt : ℕ
  expiresAt : ℕ
  deliveryAttempts : ℕ
  lastAttemptAt : Option ℕ
  status : StoredQueuedMessageStatus
deriving DecidableEq

def normalizeQueuedMessage (message : StoredQueuedMessage) : Option QueuedMessage :=
  message.envelope.map fun envelope =>
    { messageId := message.messageId
      toDid := message.toDid
      fromDid := message.fromDid
      envelope := envelope
      queuedAt := message.queuedAt
      expiresAt := message.expiresAt
      deliveryAttempts := message.deliveryAttempts
      lastAttemptAt := message.lastAttemptAt
      status := normalizeQueuedStatus message.status }

/-- The record that `db.put` writes for a message. -/
def QueuedMessage.stored (message : QueuedMessage) : StoredQueuedMessage where
  messageId := message.messageId
  toDid := message.toDid
  fromDid := message.fromDid
  envelope := some message.envelope
  queuedAt := message.queuedAt
  expiresAt := message.expiresAt
  deliveryAttempts := message.deliveryAttempts
  lastAttemptAt := message.lastAttemptAt
  status := message.status.stored

structure MessageQueueConfig where
  maxMessagesPerDid : ℕ
  ttlMs : ℕ
  maxRetries : ℕ

def DEFAULT_CONFIG : MessageQueueConfig where
  maxMessagesPerDid := 1000
  ttlMs := 24 * 60 * 60 * 1000
  maxRetries := 3

/-- The database, by key. -/
abbrev MessageDb := Record String StoredQueuedMessage

def queueKey (did messageId : String) : String := did ++ ":" ++ messageId

def QueuedMessage.key (message : QueuedMessage) : String :=
  queueKey message.toDid message.messageId

def StoredQueuedMessage.key (message : StoredQueuedMessage) : String :=
  queueKey message.toDid message.messageId

/-! ### The scans -/

/-- `db.iterator()`: the entries in the order of their keys. -/
def iterator (db : MessageDb) : List (String × StoredQueuedMessage) :=
  db.entries.insertionSort fun left right => left.1 ≤ right.1

/-- `key.startsWith(did + ':')`. -/
def startsWithDid (did key : String) : Bool := (did ++ ":").toList.isPrefixOf key.toList

def Outstanding (status : StoredQueuedMessageStatus) : Prop :=
  normalizeQueuedStatus status = .queued ∨ normalizeQueuedStatus status = .inflight

instance (status : StoredQueuedMessageStatus) : Decidable (Outstanding status) :=
  inferInstanceAs (Decidable (_ ∨ _))

def getQueueSize (did : String) (db : MessageDb) : ℕ :=
  ((iterator db).filter fun entry => startsWithDid did entry.1).length

def getQueuedMessages (did : String) (db : MessageDb) : List QueuedMessage :=
  (((iterator db).filter fun entry => startsWithDid did entry.1 ∧ Outstanding entry.2.status)
    |>.filterMap fun entry => normalizeQueuedMessage entry.2).insertionSort
      fun left right => left.queuedAt ≤ right.queuedAt

def RETRY_THRESHOLD_MS : ℕ := 60 * 1000

/-- The condition of `getMessagesForRetry` on a record. -/
def NeedsRetry (config : MessageQueueConfig) (now : ℕ) (message : StoredQueuedMessage) : Prop :=
  normalizeQueuedStatus message.status = .inflight ∧
    (∃ lastAttemptAt ∈ message.lastAttemptAt,
      lastAttemptAt ≠ 0 ∧ lastAttemptAt + RETRY_THRESHOLD_MS < now) ∧
    message.deliveryAttempts < config.maxRetries

instance (config : MessageQueueConfig) (now : ℕ) (message : StoredQueuedMessage) :
    Decidable (NeedsRetry config now message) :=
  inferInstanceAs (Decidable (_ ∧ _ ∧ _))

def getMessagesForRetry (config : MessageQueueConfig) (now : ℕ) (db : MessageDb) :
    List QueuedMessage :=
  ((iterator db).filter fun entry => NeedsRetry config now entry.2).filterMap
    fun entry => normalizeQueuedMessage entry.2

/-- The keys that `cleanupExpiredMessages` collects. -/
def expiredKeys (now : ℕ) (db : MessageDb) : List String :=
  ((iterator db).filter fun entry =>
    entry.2.expiresAt < now ∨ normalizeQueuedStatus entry.2.status = .expired).map
      fun entry => entry.1

/-! ### What is written -/

/-- The message of `enqueue`. -/
def queuedMessage (config : MessageQueueConfig) (toDid fromDid messageId : String)
    (envelope : QueuedEnvelope) (now : ℕ) : QueuedMessage where
  messageId := messageId
  toDid := toDid
  fromDid := fromDid
  envelope := envelope
  queuedAt := now
  expiresAt := now + config.ttlMs
  deliveryAttempts := 0
  lastAttemptAt := none
  status := .queued

/-- The message that `markInflight` writes back. -/
def inflightMessage (message : QueuedMessage) (now : ℕ) : QueuedMessage :=
  { message with
    status := .inflight
    deliveryAttempts := message.deliveryAttempts + 1
    lastAttemptAt := some now }

/-- The message that `markExpired` writes back. -/
def expiredMessage (message : QueuedMessage) : QueuedMessage :=
  { message with status := .expired }

/-- `Math.random().toString(36).slice(2)`: digits and lower-case letters. -/
def RandomId (messageId : String) : Prop :=
  ∀ c ∈ messageId.toList, c.isDigit = true ∨ c.isLower = true

instance (messageId : String) : Decidable (RandomId messageId) :=
  decidable_of_iff ((messageId.toList.all fun c => c.isDigit || c.isLower) = true)
    (by simp only [RandomId, List.all_eq_true, Bool.or_eq_true])

/-! ### Reading and keys -/

theorem normalizeQueuedStatus_stored (status : QueuedMessageStatus) :
    normalizeQueuedStatus status.stored = status := by
  cases status <;> rfl

@[simp] theorem normalizeQueuedMessage_stored (message : QueuedMessage) :
    normalizeQueuedMessage message.stored = some message := by
  rw [normalizeQueuedMessage, QueuedMessage.stored, Option.map_some, normalizeQueuedStatus_stored]

variable {stored : StoredQueuedMessage} {message : QueuedMessage}
  {messageId did did' messageId' : String} {db : MessageDb} {now : ℕ}

/-- **A record is read** with its own fields. -/
theorem normalizeQueuedMessage_eq_some (h : normalizeQueuedMessage stored = some message) :
    stored.envelope = some message.envelope ∧ message.messageId = stored.messageId ∧
      message.toDid = stored.toDid ∧ message.expiresAt = stored.expiresAt ∧
      message.deliveryAttempts = stored.deliveryAttempts ∧
      message.status = normalizeQueuedStatus stored.status := by
  rw [normalizeQueuedMessage, Option.map_eq_some_iff] at h
  obtain ⟨envelope, henvelope, rfl⟩ := h
  exact ⟨henvelope, rfl, rfl, rfl, rfl, rfl⟩

theorem key_of_normalize (h : normalizeQueuedMessage stored = some message) :
    message.key = stored.key := by
  obtain ⟨_, hid, hto, _⟩ := normalizeQueuedMessage_eq_some h
  rw [QueuedMessage.key, StoredQueuedMessage.key, hid, hto]

theorem queueKey_toList (did messageId : String) :
    (queueKey did messageId).toList = did.toList ++ ':' :: messageId.toList := by
  rw [queueKey, String.toList_append, String.toList_append, List.append_assoc]
  rfl

theorem RandomId.count_colon (h : RandomId messageId) : messageId.toList.count ':' = 0 := by
  refine List.count_eq_zero.mpr fun hcolon => ?_
  rcases h ':' hcolon with hdigit | hlower
  · exact absurd hdigit (by decide)
  · exact absurd hlower (by decide)

/-- **Random ids split a key** at its last colon. -/
theorem queueKey_inj (hid : RandomId messageId) (hid' : RandomId messageId')
    (h : queueKey did messageId = queueKey did' messageId') :
    did = did' ∧ messageId = messageId' := by
  have hlists := congrArg (fun key => key.toList.reverse) h
  simp only [queueKey_toList, List.reverse_append, List.reverse_cons, List.append_assoc,
    List.singleton_append] at hlists
  have hcount : messageId.toList.reverse.count ':' = messageId'.toList.reverse.count ':' := by
    rw [List.count_reverse, List.count_reverse, hid.count_colon, hid'.count_colon]
  obtain ⟨hids, hdids⟩ := append_cons_inj_of_count hcount hlists
  exact ⟨String.toList_inj.mp (List.reverse_injective hdids),
    String.toList_inj.mp (List.reverse_injective hids)⟩

/-- **Well-formed DIDs split a key** at its third colon. -/
theorem queueKey_inj_of_did (hdid : WellFormedDid did) (hdid' : WellFormedDid did')
    (h : queueKey did messageId = queueKey did' messageId') :
    did = did' ∧ messageId = messageId' := by
  have hlists := congrArg String.toList h
  rw [queueKey_toList, queueKey_toList] at hlists
  obtain ⟨hdids, hids⟩ := append_cons_inj_of_count (hdid.2.trans hdid'.2.symm) hlists
  exact ⟨String.toList_inj.mp hdids, String.toList_inj.mp hids⟩

theorem startsWithDid_queueKey (did messageId : String) :
    startsWithDid did (queueKey did messageId) = true := by
  have hkey : (queueKey did messageId).toList = (did ++ ":").toList ++ messageId.toList :=
    String.toList_append
  rw [startsWithDid, hkey]
  exact List.isPrefixOf_iff_prefix.mpr (List.prefix_append _ _)

/-! ### What the scans find -/

theorem mem_iterator {key : String} : (key, stored) ∈ iterator db ↔ db.get? key = some stored := by
  rw [iterator, (List.perm_insertionSort _ _).mem_iff, Record.get?_eq_some_iff]

theorem mem_getQueuedMessages :
    message ∈ getQueuedMessages did db ↔ ∃ key stored, db.get? key = some stored ∧
      startsWithDid did key = true ∧ Outstanding stored.status ∧
        normalizeQueuedMessage stored = some message := by
  rw [getQueuedMessages, (List.perm_insertionSort _ _).mem_iff, List.mem_filterMap]
  constructor
  · rintro ⟨⟨key, stored⟩, hmem, hread⟩
    obtain ⟨hmem, hkept⟩ := List.mem_filter.mp hmem
    obtain ⟨hstarts, houtstanding⟩ := of_decide_eq_true hkept
    exact ⟨key, stored, mem_iterator.mp hmem, hstarts, houtstanding, hread⟩
  · rintro ⟨key, stored, hget, hstarts, houtstanding, hread⟩
    exact ⟨(key, stored), List.mem_filter.mpr
      ⟨mem_iterator.mpr hget, decide_eq_true ⟨hstarts, houtstanding⟩⟩, hread⟩

theorem mem_getMessagesForRetry {config : MessageQueueConfig} :
    message ∈ getMessagesForRetry config now db ↔ ∃ key stored, db.get? key = some stored ∧
      NeedsRetry config now stored ∧ normalizeQueuedMessage stored = some message := by
  rw [getMessagesForRetry, List.mem_filterMap]
  constructor
  · rintro ⟨⟨key, stored⟩, hmem, hread⟩
    obtain ⟨hmem, hneeds⟩ := List.mem_filter.mp hmem
    exact ⟨key, stored, mem_iterator.mp hmem, of_decide_eq_true hneeds, hread⟩
  · rintro ⟨key, stored, hget, hneeds, hread⟩
    exact ⟨(key, stored), List.mem_filter.mpr ⟨mem_iterator.mpr hget, decide_eq_true hneeds⟩,
      hread⟩

theorem mem_expiredKeys {key : String} :
    key ∈ expiredKeys now db ↔ ∃ stored, db.get? key = some stored ∧
      (stored.expiresAt < now ∨ normalizeQueuedStatus stored.status = .expired) := by
  rw [expiredKeys, List.mem_map]
  constructor
  · rintro ⟨⟨key', stored⟩, hmem, rfl⟩
    obtain ⟨hmem, hexpired⟩ := List.mem_filter.mp hmem
    exact ⟨stored, mem_iterator.mp hmem, of_decide_eq_true hexpired⟩
  · rintro ⟨stored, hget, hexpired⟩
    exact ⟨(key, stored), List.mem_filter.mpr ⟨mem_iterator.mpr hget, decide_eq_true hexpired⟩,
      rfl⟩

end QuadraA.Relay
