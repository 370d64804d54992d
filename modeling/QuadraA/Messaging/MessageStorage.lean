import QuadraA.Lib.KeyRange
import QuadraA.Messaging.StoredMessage

/-!
# The message store

`messaging/storage.ts`: the records of messages under keys of their direction, timestamp and id, the
index of the threads, and the sessions.

* `MessageDb` — the database, with a map for each family of keys;
* `storageKey_inj`, `of_find`, `find_isSome` — the record that an id finds.

Keys are ordered by their UTF-8 bytes, which is the order of code points.  The families begin with
different letters, so no range of one has a key of another.  Keys of senders are only written, and
of a session what is displayed of it is left out.
-/

namespace QuadraA.Messaging

open QuadraA.Lib

/-! ### The database -/

structure SessionMeta where
  threadId : String
  peerDid : String
  messageCount : ℕ
  lastMessageAt : ℕ
  startedAt : ℕ
deriving DecidableEq

/-- **The database**: the keys `msg:…`, `idx:from:…`, `idx:thread:…` and `session:…`. -/
structure MessageDb where
  messages : Record String (StoredMessage JsonValue)
  fromIndex : Record String Unit
  threadIndex : Record String Unit
  sessions : Record String SessionMeta

def MessageDb.empty : MessageDb := ⟨.empty, .empty, .empty, .empty⟩

/-- `\xff`, the end of a range. -/
def RANGE_END : Char := 'ÿ'

/-- `String(timestamp).padStart(16, '0')`. -/
def timestampSegment (timestamp : ℕ) : String :=
  String.ofList ((Nat.toDigits 10 timestamp).leftpad 16 '0')

/-- `msg:{direction}:`. -/
def messagePrefix (direction : MessageDirection) : String := "msg:" ++ direction.text ++ ":"

def storageKey (direction : MessageDirection) (ts id : String) : String :=
  messagePrefix direction ++ (ts ++ ":" ++ id)

def fromIndexKey (sender ts id : String) : String := "idx:from:" ++ sender ++ ":" ++ ts ++ ":" ++ id

/-- `idx:thread:{threadId}:`. -/
def threadPrefix (threadId : String) : String := "idx:thread:" ++ threadId ++ ":"

def threadIndexKey (threadId ts id : String) : String := threadPrefix threadId ++ (ts ++ ":" ++ id)

def sessionKey (threadId : String) : String := "session:" ++ threadId

def getTimestampSegmentFromStorageKey (key : String) : String :=
  (segments ':' key)[2]?.getD "0000000000000000"

/-- The id of an envelope as it is stored. -/
def StoredMessage.envelopeId (msg : StoredMessage JsonValue) : Option String :=
  msg.envelope.stringProperty "id"

/-- The thread of a message; an empty text is none. -/
def MessageEnvelope.thread (envelope : MessageEnvelope) : Option String :=
  envelope.threadId.filter fun threadId => decide (threadId ≠ "")

/-! ### Operations -/

/-- `Invalid stored message envelope: {id}`. -/
inductive StorageError where
  | invalidEnvelope (id : Option JsonValue)

namespace MessageDb

/-- The first record of a direction with an id. -/
def findDirection (db : MessageDb) (id : String) (direction : MessageDirection) :
    Option (String × NormalizedMessage) :=
  (db.messages.range (messagePrefix direction)
    (messagePrefix direction ++ String.singleton RANGE_END)).findSome? fun (key, value) =>
      if value.envelopeId ≠ some id then none
      else (normalizeStoredMessage value).map fun message => (key, message)

def findStoredMessageRecord (db : MessageDb) (id : String)
    (direction : Option MessageDirection := none) : Option (String × NormalizedMessage) :=
  match direction with
  | some direction => db.findDirection id direction
  | none => db.findDirection id .inbound <|> db.findDirection id .outbound

def updateSessionMeta (db : MessageDb) (msg : NormalizedMessage) (threadId : String) : MessageDb :=
  let sortTimestamp := getMessageSortTimestamp msg
  let session :=
    match db.sessions.get? (sessionKey threadId) with
    | none =>
        { threadId := threadId
          peerDid := if msg.direction = .inbound then msg.envelope.sender else msg.envelope.receiver
          messageCount := 1
          lastMessageAt := sortTimestamp
          startedAt := sortTimestamp }
    | some session =>
        { session with
          startedAt := min session.startedAt sortTimestamp
          lastMessageAt := max session.lastMessageAt sortTimestamp
          messageCount := session.messageCount + 1 }
  { db with sessions := db.sessions.set (sessionKey threadId) session }

/-- The part of `putMessage` for a new message. -/
def insertMessage (db : MessageDb) (msg : NormalizedMessage) : MessageDb :=
  let ts := timestampSegment (getMessageSortTimestamp msg)
  let db :=
    { db with
      messages := db.messages.set (storageKey msg.direction ts msg.envelope.id) msg.toStored
      fromIndex := db.fromIndex.set (fromIndexKey msg.envelope.sender ts msg.envelope.id) () }
  match msg.envelope.thread with
  | none => db
  | some threadId =>
      { db with
        threadIndex := db.threadIndex.set (threadIndexKey threadId ts msg.envelope.id) ()
          }.updateSessionMeta msg threadId

def putMessage (collation : Collation) (db : MessageDb) (msg : StoredMessage JsonValue) :
    Except StorageError MessageDb :=
  match normalizeStoredMessage msg with
  | none => .error (.invalidEnvelope (msg.envelope.property "id"))
  | some normalized =>
      match db.findStoredMessageRecord normalized.envelope.id with
      | some (key, existing) =>
          .ok { db with
            messages := db.messages.set key
              (mergeStoredMessages collation existing normalized).toStored }
      | none => .ok (db.insertMessage normalized)

def deleteMessage (db : MessageDb) (id : String) : MessageDb :=
  match db.findStoredMessageRecord id with
  | none => db
  | some (key, message) =>
      let timestampSegment := getTimestampSegmentFromStorageKey key
      let db :=
        { db with
          messages := db.messages.erase key
          fromIndex := db.fromIndex.erase
            (fromIndexKey message.envelope.sender timestampSegment id) }
      match message.envelope.thread with
      | none => db
      | some threadId =>
          { db with
            threadIndex := db.threadIndex.erase (threadIndexKey threadId timestampSegment id) }

end MessageDb

/-- `Partial<StoredMessage>`: the properties that are overwritten. -/
structure MessageUpdates where
  envelope : Option JsonValue
  direction : Option MessageDirection
  status : Option MessageStatus
  receivedAt : Option (Option ℤ)
  sentAt : Option (Option ℤ)
  readAt : Option (Option ℤ)
  trustScore : Option (Option Float)
  trustStatus : Option (Option String)
  error : Option (Option String)
  e2e : Option (Option StoredMessageE2EMetadata)

/-- `{ ...message, ...updates }`. -/
def MessageUpdates.apply (updates : MessageUpdates) (message : StoredMessage JsonValue) :
    StoredMessage JsonValue where
  envelope := updates.envelope.getD message.envelope
  direction := updates.direction.getD message.direction
  status := updates.status.getD message.status
  receivedAt := updates.receivedAt.getD message.receivedAt
  sentAt := updates.sentAt.getD message.sentAt
  readAt := updates.readAt.getD message.readAt
  trustScore := updates.trustScore.getD message.trustScore
  trustStatus := updates.trustStatus.getD message.trustStatus
  error := updates.error.getD message.error
  e2e := updates.e2e.getD message.e2e

structure MessagePage where
  messages : List NormalizedMessage
  total : ℕ
  hasMore : Bool

namespace MessageDb

def updateMessage (db : MessageDb) (id : String) (updates : MessageUpdates) : MessageDb :=
  match db.findStoredMessageRecord id with
  | none => db
  | some (key, message) =>
      { db with messages := db.messages.set key (updates.apply message.toStored) }

def getMessage (db : MessageDb) (id : String) : Option NormalizedMessage :=
  (db.findStoredMessageRecord id).map Prod.snd

/-- The ids that the index has of a thread. -/
def threadMessageIds (db : MessageDb) (threadId : String) : List String :=
  (db.threadIndex.range (threadPrefix threadId)
    (threadPrefix threadId ++ String.singleton RANGE_END)).filterMap fun (key, _) =>
      (segments ':' key).getLast?

/-- The messages of a thread that the index finds, in the order in which they are listed. -/
def threadMessages (collation : Collation) (db : MessageDb) (threadId : String) :
    List NormalizedMessage :=
  ((db.threadMessageIds threadId).filterMap db.getMessage).mergeSort fun left right =>
    (compareMessagesBySortTimestamp collation left right).isLE

def queryMessagesByThread (collation : Collation) (db : MessageDb) (threadId : String)
    (limit offset : ℕ) : MessagePage :=
  let matches_ := db.threadMessages collation threadId
  let results := (matches_.drop offset).take limit
  { messages := results
    total := matches_.length
    hasMore := decide (offset + results.length < matches_.length) }

def getSession (db : MessageDb) (threadId : String) : Option SessionMeta :=
  db.sessions.get? (sessionKey threadId)

end MessageDb

/-! ### Keys -/

theorem colon_not_mem_timestampSegment (timestamp : ℕ) :
    ':' ∉ (timestampSegment timestamp).toList := by
  rw [timestampSegment, String.toList_ofList, List.leftpad]
  intro hmem
  rcases List.mem_append.mp hmem with hmem | hmem
  · have h := List.eq_of_mem_replicate hmem
    cases h
  · have h := Nat.isDigit_of_mem_toDigits (by decide) (by decide) hmem
    cases h

/-- A timestamp begins with a digit. -/
theorem timestampSegment_cons (timestamp : ℕ) :
    ∃ c rest, (timestampSegment timestamp).toList = c :: rest ∧ c < RANGE_END := by
  rw [timestampSegment, String.toList_ofList, List.leftpad]
  have hdigit : ∀ c ∈ List.replicate (16 - (Nat.toDigits 10 timestamp).length) '0' ++
      Nat.toDigits 10 timestamp, c < RANGE_END := by
    intro c hmem
    rcases List.mem_append.mp hmem with hmem | hmem
    · rw [List.eq_of_mem_replicate hmem]
      decide
    · have h := Nat.isDigit_of_mem_toDigits (by decide) (by decide) hmem
      rw [Char.isDigit, Bool.and_eq_true, decide_eq_true_eq, decide_eq_true_eq] at h
      exact lt_of_le_of_lt h.2 (by decide)
  generalize hlist : List.replicate (16 - (Nat.toDigits 10 timestamp).length) '0' ++
    Nat.toDigits 10 timestamp = l at hdigit
  cases l with
  | nil =>
    have hlength := congrArg List.length hlist
    rw [List.length_append, List.length_replicate, List.length_nil] at hlength
    omega
  | cons c rest => exact ⟨c, rest, rfl, hdigit c (List.mem_cons_self ..)⟩

theorem toList_storageKey (direction : MessageDirection) (ts id : String) :
    (storageKey direction ts id).toList
      = (messagePrefix direction).toList ++ (ts.toList ++ ':' :: id.toList) := by
  rw [storageKey, String.toList_append, String.toList_append, String.toList_append]
  simp

theorem segments_storageKey {direction : MessageDirection} {ts : String} (id : String)
    (hts : ':' ∉ ts.toList) :
    segments ':' (storageKey direction ts id)
      = "msg" :: direction.text :: ts :: segments ':' id := by
  have hrest : (direction.text ++ ":" ++ ts ++ ":" ++ id).toList
      = direction.text.toList ++ ':' :: (ts ++ ":" ++ id).toList := by simp
  have hts' : (ts ++ ":" ++ id).toList = ts.toList ++ ':' :: id.toList := by simp
  have hkey : (storageKey direction ts id).toList
      = "msg".toList ++ ':' :: (direction.text ++ ":" ++ ts ++ ":" ++ id).toList := by
    rw [toList_storageKey, messagePrefix]
    simp
  rw [segments_cons hkey (by decide), segments_cons hrest (by cases direction <;> decide),
    segments_cons hts' hts]

/-- **The key says the direction, the timestamp and the id.** -/
theorem storageKey_inj {direction direction' : MessageDirection} {ts ts' id id' : String}
    (hts : ':' ∉ ts.toList) (hts' : ':' ∉ ts'.toList)
    (h : storageKey direction ts id = storageKey direction' ts' id') :
    direction = direction' ∧ ts = ts' ∧ id = id' := by
  have hsegments := congrArg (segments ':') h
  rw [segments_storageKey id hts, segments_storageKey id' hts'] at hsegments
  simp only [List.cons.injEq, true_and] at hsegments
  obtain ⟨htext, rfl, _⟩ := hsegments
  have hdirection : direction = direction' := by
    cases direction <;> cases direction' <;> first | rfl | exact absurd htext (by decide)
  subst hdirection
  have hlist := congrArg String.toList h
  rw [toList_storageKey, toList_storageKey] at hlist
  have hid := List.cons.inj (List.append_cancel_left (List.append_cancel_left hlist))
  exact ⟨rfl, rfl, String.toList_inj.mp hid.2⟩

/-- A key is in the range of its direction, and in no other. -/
theorem inPrefixRange_storageKey {direction direction' : MessageDirection} {timestamp : ℕ}
    {id : String} :
    InPrefixRange (messagePrefix direction') RANGE_END
        (storageKey direction (timestampSegment timestamp) id) ↔ direction' = direction := by
  constructor
  · intro h
    have hprefix : ∃ t, (storageKey direction (timestampSegment timestamp) id).toList
        = (messagePrefix direction').toList ++ t := by
      rcases inPrefixRange_iff.mp h with h | ⟨c, t, h, _⟩
      · exact ⟨[], by rw [h, List.append_nil]⟩
      · exact ⟨c :: t, h⟩
    obtain ⟨t, ht⟩ := hprefix
    rw [toList_storageKey] at ht
    cases direction <;> cases direction' <;>
      first | rfl | simp [messagePrefix, MessageDirection.text] at ht
  · rintro rfl
    obtain ⟨c, rest, hts, hc⟩ := timestampSegment_cons timestamp
    rw [storageKey]
    refine inPrefixRange_append (c := c) (t := rest ++ (":" ++ id).toList) ?_ hc
    rw [String.append_assoc, String.toList_append, hts, List.cons_append]

/-! ### Records by their ids -/

theorem envelopeId_toStored (message : NormalizedMessage) :
    message.toStored.envelopeId = some message.envelope.id := by
  rw [StoredMessage.envelopeId, NormalizedMessage.toStored, StoredMessage.withEnvelope,
    MessageEnvelope.toJson, JsonValue.stringProperty, JsonValue.property]
  rfl

/-- A message that is read has the id that is stored. -/
theorem envelopeId_of_normalize {msg : StoredMessage JsonValue} {message : NormalizedMessage}
    (h : normalizeStoredMessage msg = some message) :
    msg.envelopeId = some message.envelope.id := by
  have henvelope := (of_normalizeStoredMessage h).1
  simp only [normalizeEnvelope, guard, Option.bind_eq_bind, Option.bind_eq_some_iff] at henvelope
  obtain ⟨type, _, id, hid, sender, _, receiver, _, protocol, _, payload, _, timestamp, _,
    signature, _, _, _, _, _, h⟩ := henvelope
  rw [StoredMessage.envelopeId, hid, ← Option.some.inj h]

/-- **Every record is under a key of its id**, can be read, and is the only one of its id. -/
structure Keyed (messages : Record String (StoredMessage JsonValue)) : Prop where
  key : ∀ key value, messages.get? key = some value → ∃ direction timestamp id,
    key = storageKey direction (timestampSegment timestamp) id ∧ value.envelopeId = some id
  readable : ∀ key value, messages.get? key = some value →
    ∃ message, normalizeStoredMessage value = some message
  unique : ∀ key key' value value', messages.get? key = some value →
    messages.get? key' = some value' → value.envelopeId = value'.envelopeId → key = key'

variable {db : MessageDb} {messages : Record String (StoredMessage JsonValue)}
  {key id : String} {value value' : StoredMessage JsonValue} {message : NormalizedMessage}

theorem Keyed.empty : Keyed .empty := by
  refine ⟨fun key value hget => ?_, fun key value hget => ?_, fun key _ value _ hget => ?_⟩
  all_goals
    rw [Record.get?_empty] at hget
    cases hget

theorem Keyed.overwrite (h : Keyed messages) (hget : messages.get? key = some value)
    (hid : value'.envelopeId = value.envelopeId)
    (hread : ∃ message, normalizeStoredMessage value' = some message) :
    Keyed (messages.set key value') := by
  -- every record has the id that it has had
  have hids : ∀ key' value'', (messages.set key value').get? key' = some value'' →
      ∃ value₀, messages.get? key' = some value₀ ∧ value₀.envelopeId = value''.envelopeId := by
    intro key' value'' hget'
    by_cases hkey : key = key'
    · subst hkey
      rw [Record.get?_set_self] at hget'
      obtain rfl := Option.some.inj hget'
      exact ⟨value, hget, hid.symm⟩
    · rw [Record.get?_set_ne _ _ hkey] at hget'
      exact ⟨value'', hget', rfl⟩
  refine ⟨fun key' value'' hget' => ?_, fun key' value'' hget' => ?_,
    fun key₁ key₂ value₁ value₂ hget₁ hget₂ heq => ?_⟩
  · obtain ⟨value₀, hget₀, hid₀⟩ := hids key' value'' hget'
    rw [← hid₀]
    exact h.key key' value₀ hget₀
  · by_cases hkey : key = key'
    · subst hkey
      rw [Record.get?_set_self] at hget'
      obtain rfl := Option.some.inj hget'
      exact hread
    · rw [Record.get?_set_ne _ _ hkey] at hget'
      exact h.readable key' value'' hget'
  · obtain ⟨value₃, hget₃, hid₃⟩ := hids key₁ value₁ hget₁
    obtain ⟨value₄, hget₄, hid₄⟩ := hids key₂ value₂ hget₂
    exact h.unique key₁ key₂ value₃ value₄ hget₃ hget₄ (by rw [hid₃, hid₄, heq])

theorem Keyed.insert (h : Keyed messages)
    (hnew : ∀ key value, messages.get? key = some value → value.envelopeId ≠ some id)
    (direction : MessageDirection) (timestamp : ℕ) (hid : value.envelopeId = some id)
    (hread : ∃ message, normalizeStoredMessage value = some message) :
    Keyed (messages.set (storageKey direction (timestampSegment timestamp) id) value) := by
  refine ⟨fun key' value' hget => ?_, fun key' value' hget => ?_,
    fun key₁ key₂ value₁ value₂ hget₁ hget₂ heq => ?_⟩
  · rw [Record.get?_set] at hget
    split at hget
    · rename_i hkey
      obtain rfl := Option.some.inj hget
      exact ⟨direction, timestamp, id, hkey.symm, hid⟩
    · exact h.key key' value' hget
  · rw [Record.get?_set] at hget
    split at hget
    · obtain rfl := Option.some.inj hget
      exact hread
    · exact h.readable key' value' hget
  · rw [Record.get?_set] at hget₁ hget₂
    split at hget₁ <;> split at hget₂
    · rename_i hkey₁ hkey₂
      exact hkey₁.symm.trans hkey₂
    · rw [← Option.some.inj hget₁, hid] at heq
      exact absurd heq.symm (hnew key₂ value₂ hget₂)
    · rw [← Option.some.inj hget₂, hid] at heq
      exact absurd heq (hnew key₁ value₁ hget₁)
    · exact h.unique key₁ key₂ value₁ value₂ hget₁ hget₂ heq

theorem Keyed.erase (h : Keyed messages) (key : String) : Keyed (messages.erase key) := by
  have hsub : ∀ key' value', (messages.erase key).get? key' = some value' →
      messages.get? key' = some value' := by
    intro key' value' hget
    rw [Record.get?_erase] at hget
    split at hget
    · cases hget
    · exact hget
  exact ⟨fun key' value' hget => h.key key' value' (hsub _ _ hget),
    fun key' value' hget => h.readable key' value' (hsub _ _ hget),
    fun key₁ key₂ value₁ value₂ hget₁ hget₂ =>
      h.unique key₁ key₂ value₁ value₂ (hsub _ _ hget₁) (hsub _ _ hget₂)⟩

/-- What a search of a direction finds is a record of it with the id. -/
theorem of_findDirection {direction : MessageDirection}
    (h : db.findDirection id direction = some (key, message)) :
    ∃ value, db.messages.get? key = some value ∧ value.envelopeId = some id ∧
      normalizeStoredMessage value = some message ∧
      InPrefixRange (messagePrefix direction) RANGE_END key := by
  rw [MessageDb.findDirection] at h
  obtain ⟨⟨key', value⟩, hmem, hvalue⟩ := List.exists_of_findSome?_eq_some h
  dsimp only at hvalue
  split at hvalue
  · cases hvalue
  · rename_i hid
    rw [Option.map_eq_some_iff] at hvalue
    obtain ⟨message', hread, heq⟩ := hvalue
    obtain ⟨rfl, rfl⟩ := Prod.mk.inj heq
    obtain ⟨hget, hrange⟩ := Record.mem_range.mp hmem
    exact ⟨value, hget, not_not.mp hid, hread, hrange⟩

/-- **What a search finds** is a record with the id. -/
theorem of_find (h : db.findStoredMessageRecord id = some (key, message)) :
    ∃ value, db.messages.get? key = some value ∧ value.envelopeId = some id ∧
      normalizeStoredMessage value = some message := by
  have hdirection : ∃ direction, db.findDirection id direction = some (key, message) := by
    rw [MessageDb.findStoredMessageRecord] at h
    cases hinbound : db.findDirection id .inbound with
    | none =>
      rw [hinbound] at h
      exact ⟨_, h⟩
    | some found =>
      rw [hinbound] at h
      exact ⟨_, hinbound.trans h⟩
  obtain ⟨direction, hfind⟩ := hdirection
  obtain ⟨value, hget, hid, hread, _⟩ := of_findDirection hfind
  exact ⟨value, hget, hid, hread⟩

/-- A search of a direction finds a record of it, or another one with the id. -/
theorem findDirection_isSome {direction : MessageDirection}
    (hget : db.messages.get? key = some value)
    (hrange : InPrefixRange (messagePrefix direction) RANGE_END key)
    (hread : normalizeStoredMessage value = some message) :
    (db.findDirection message.envelope.id direction).isSome = true := by
  have hown := envelopeId_of_normalize hread
  rw [MessageDb.findDirection, List.findSome?_isSome_iff]
  refine ⟨(_, value), Record.mem_range.mpr ⟨hget, hrange⟩, ?_⟩
  dsimp only
  rw [if_neg (not_not.mpr hown), hread]
  rfl

/-- A record under a storage key is found by its id, or another one is. -/
theorem find_isSome {direction : MessageDirection} {timestamp : ℕ}
    (hget : db.messages.get? (storageKey direction (timestampSegment timestamp) id) = some value)
    (hread : normalizeStoredMessage value = some message) :
    (db.findStoredMessageRecord message.envelope.id).isSome = true := by
  have hdirection := findDirection_isSome hget (inPrefixRange_storageKey.mpr rfl) hread
  rw [MessageDb.findStoredMessageRecord]
  cases direction with
  | inbound =>
    cases hinbound : db.findDirection message.envelope.id .inbound with
    | none => rw [hinbound] at hdirection; cases hdirection
    | some found => rfl
  | outbound =>
    cases hinbound : db.findDirection message.envelope.id .inbound with
    | none => exact hdirection
    | some found => rfl

/-- **Every record is found by its id.** -/
theorem Keyed.find (h : Keyed db.messages) (hget : db.messages.get? key = some value)
    (hread : normalizeStoredMessage value = some message) :
    db.findStoredMessageRecord message.envelope.id = some (key, message) := by
  obtain ⟨direction, timestamp, id, hkey, hid⟩ := h.key key value hget
  have hown := envelopeId_of_normalize hread
  have hisSome := find_isSome (hkey ▸ hget) hread
  obtain ⟨⟨key', message'⟩, hfind⟩ := Option.isSome_iff_exists.mp hisSome
  obtain ⟨value', hget', hid', hread'⟩ := of_find hfind
  have hkeys := h.unique key key' value value' hget hget' (by rw [hown, hid'])
  subst hkeys
  obtain rfl := Option.some.inj (hget.symm.trans hget')
  obtain rfl := Option.some.inj (hread.symm.trans hread')
  exact hfind

theorem Keyed.not_found (h : Keyed db.messages) (hfind : db.findStoredMessageRecord id = none)
    (hget : db.messages.get? key = some value) : value.envelopeId ≠ some id := by
  obtain ⟨message, hread⟩ := h.readable key value hget
  intro hid
  have hown := envelopeId_of_normalize hread
  rw [hid] at hown
  obtain rfl := Option.some.inj hown
  have hfound := h.find hget hread
  rw [hfind] at hfound
  cases hfound

end QuadraA.Messaging
