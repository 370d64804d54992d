import QuadraA.Messaging.MessageStorage

/-!
# Whose message a record is

`putMessage` merges a message into the record that has its id, whatever the direction and the sender
of the two, and the later one wins the envelope and the direction.

* `stored_messages_kept` — the records are kept in a sequence of calls without a clash, and a call
  that clashes overwrites one;
* `stranger_overwrites` — two messages with one id, from different senders.
-/

set_option linter.unusedSectionVars false

namespace QuadraA.Messaging

open QuadraA.Lib

/-- The sender of an envelope as it is stored. -/
def StoredMessage.sender (msg : StoredMessage JsonValue) : Option String :=
  msg.envelope.stringProperty "from"

namespace MessageDb

/-- A call of `putMessage`. -/
def store (collation : Collation) (db : MessageDb) (msg : StoredMessage JsonValue) : MessageDb :=
  match db.putMessage collation msg with
  | .ok db => db
  | .error _ => db

def storeAll (collation : Collation) (db : MessageDb) (msgs : List (StoredMessage JsonValue)) :
    MessageDb :=
  msgs.foldl (store collation) db

end MessageDb

/-- The message has the id, the direction and the sender of the record. -/
def SameOrigin (msg value : StoredMessage JsonValue) : Prop :=
  msg.envelopeId = value.envelopeId ∧ msg.direction = value.direction ∧ msg.sender = value.sender

/-- **Every record that is not of the same origin as the message is kept.** -/
def Kept (db : MessageDb) (msg : StoredMessage JsonValue) (db' : MessageDb) : Prop :=
  ∀ key value, db.messages.get? key = some value → ¬SameOrigin msg value →
    ∃ value', db'.messages.get? key = some value' ∧ value'.direction = value.direction ∧
      value'.envelope = value.envelope

/-- **Every record under `msg:{direction}:` has that direction.** -/
def Placed (db : MessageDb) : Prop :=
  ∀ key value direction rest, db.messages.get? key = some value →
    key = messagePrefix direction ++ rest → value.direction = direction

/-- **The message finds a record of another direction or another sender.** -/
def Clashes (db : MessageDb) (msg : StoredMessage JsonValue) : Prop :=
  ∃ message key existing, normalizeStoredMessage msg = some message ∧
    db.findStoredMessageRecord message.envelope.id = some (key, existing) ∧
    (existing.direction ≠ message.direction ∨
      existing.envelope.sender ≠ message.envelope.sender)

variable {collation : Collation} {db : MessageDb} {msg value : StoredMessage JsonValue}
  {message : NormalizedMessage} {msgs : List (StoredMessage JsonValue)}

/-! ### One call -/

theorem sender_of_normalize (h : normalizeStoredMessage msg = some message) :
    msg.sender = some message.envelope.sender := by
  have henvelope := (of_normalizeStoredMessage h).1
  simp only [normalizeEnvelope, guard, Option.bind_eq_bind, Option.bind_eq_some_iff] at henvelope
  obtain ⟨type, _, id, _, sender, hsender, receiver, _, protocol, _, payload, _, timestamp, _,
    signature, _, _, _, _, _, h⟩ := henvelope
  rw [StoredMessage.sender, hsender, ← Option.some.inj h]

theorem sender_toStored (message : NormalizedMessage) :
    message.toStored.sender = some message.envelope.sender := by
  rw [StoredMessage.sender, NormalizedMessage.toStored, StoredMessage.withEnvelope,
    MessageEnvelope.toJson, JsonValue.stringProperty, JsonValue.property]
  rfl

theorem messages_insertMessage (db : MessageDb) (msg : NormalizedMessage) :
    (db.insertMessage msg).messages = db.messages.set
      (storageKey msg.direction (timestampSegment (getMessageSortTimestamp msg)) msg.envelope.id)
      msg.toStored := by
  rw [MessageDb.insertMessage]
  cases msg.envelope.thread <;> rfl

/-- **What a call does**: it throws, it merges, or it inserts. -/
theorem store_cases (collation : Collation) (db : MessageDb) (msg : StoredMessage JsonValue) :
    (normalizeStoredMessage msg = none ∧ db.store collation msg = db) ∨
    (∃ message key existing, normalizeStoredMessage msg = some message ∧
      db.findStoredMessageRecord message.envelope.id = some (key, existing) ∧
      db.store collation msg = { db with
        messages := db.messages.set key
          (mergeStoredMessages collation existing message).toStored }) ∨
    ∃ message, normalizeStoredMessage msg = some message ∧
      db.findStoredMessageRecord message.envelope.id = none ∧
      db.store collation msg = db.insertMessage message := by
  rw [MessageDb.store, MessageDb.putMessage]
  cases hmsg : normalizeStoredMessage msg with
  | none => exact Or.inl ⟨rfl, rfl⟩
  | some message =>
    refine Or.inr ?_
    dsimp only
    cases hfind : db.findStoredMessageRecord message.envelope.id with
    | none => exact Or.inr ⟨message, rfl, hfind, rfl⟩
    | some found => exact Or.inl ⟨message, found.1, found.2, rfl, hfind, rfl⟩

/-- A message that is normalized has a record that can be read. -/
theorem readable_toStored (h : message.envelope.isValid = true) :
    ∃ message', normalizeStoredMessage message.toStored = some message' :=
  ⟨_, normalizeStoredMessage_toStored h⟩

theorem isValid_of_normalize (h : normalizeStoredMessage msg = some message) :
    message.envelope.isValid = true :=
  isValid_of_normalizeEnvelope (of_normalizeStoredMessage h).1

theorem keyed_insertMessage (h : Keyed db.messages) (hvalid : message.envelope.isValid = true)
    (hnew : db.findStoredMessageRecord message.envelope.id = none) :
    Keyed (db.insertMessage message).messages := by
  rw [messages_insertMessage]
  exact h.insert (fun key value hget => h.not_found hnew hget) _ _ (envelopeId_toStored message)
    (readable_toStored hvalid)

theorem Keyed.store (h : Keyed db.messages) (collation : Collation)
    (msg : StoredMessage JsonValue) : Keyed (db.store collation msg).messages := by
  rcases store_cases collation db msg with ⟨_, hstore⟩ | ⟨message, key, existing, hmsg, hfind,
    hstore⟩ | ⟨message, hmsg, hfind, hstore⟩
  · rwa [hstore]
  · rw [hstore]
    obtain ⟨value, hget, hid, _⟩ := of_find hfind
    have henvelope := (envelope_mergeStoredMessages collation existing message).1
    refine h.overwrite hget ?_ (readable_toStored ?_)
    · rw [envelopeId_toStored, henvelope, hid]
    · rw [henvelope]
      exact isValid_of_normalize hmsg
  · rw [hstore]
    exact keyed_insertMessage h (isValid_of_normalize hmsg) hfind

theorem Keyed.storeAll (h : Keyed db.messages) (collation : Collation)
    (msgs : List (StoredMessage JsonValue)) : Keyed (db.storeAll collation msgs).messages := by
  induction msgs generalizing db with
  | nil => exact h
  | cons msg msgs ih => exact ih (h.store collation msg)

/-- **A call keeps the other records exactly when it does not clash.** -/
theorem Keyed.kept_iff (h : Keyed db.messages) (collation : Collation)
    (msg : StoredMessage JsonValue) :
    Kept db msg (db.store collation msg) ↔ ¬Clashes db msg := by
  constructor
  · rintro hkept ⟨message, key, existing, hmsg, hfind, hother⟩
    rcases store_cases collation db msg with ⟨hnone, _⟩ | ⟨message', key', existing', hmsg', hfind',
      hstore⟩ | ⟨message', hmsg', hnone, _⟩
    · rw [hmsg] at hnone
      cases hnone
    · obtain rfl := Option.some.inj (hmsg.symm.trans hmsg')
      obtain ⟨rfl, rfl⟩ := Prod.mk.inj (Option.some.inj (hfind.symm.trans hfind'))
      obtain ⟨value, hget, _, hread⟩ := of_find hfind
      have hdirection := (of_normalizeStoredMessage hread).2
      have hmsgDirection := (of_normalizeStoredMessage hmsg).2
      have hsender := sender_of_normalize hread
      have hmsgSender := sender_of_normalize hmsg
      have hstranger : ¬SameOrigin msg value := by
        rintro ⟨_, hsameDirection, hsameSender⟩
        rcases hother with hother | hother
        · exact hother (by rw [hdirection, hmsgDirection, hsameDirection])
        · rw [hmsgSender, hsender] at hsameSender
          exact hother (Option.some.inj hsameSender).symm
      obtain ⟨value', hget', hkeptDirection, hkeptEnvelope⟩ := hkept key value hget hstranger
      rw [hstore, Record.get?_set_self] at hget'
      obtain rfl := Option.some.inj hget'
      obtain ⟨henvelope, hmerged⟩ := envelope_mergeStoredMessages collation existing message
      rcases hother with hother | hother
      · exact hother (by rw [hdirection, ← hkeptDirection]; exact hmerged)
      · have hstored := sender_toStored (mergeStoredMessages collation existing message)
        rw [StoredMessage.sender, hkeptEnvelope, henvelope] at hstored
        exact hother (Option.some.inj (hsender.symm.trans hstored))
    · obtain rfl := Option.some.inj (hmsg.symm.trans hmsg')
      rw [hfind] at hnone
      cases hnone
  · intro hclash key value hget hstranger
    rcases store_cases collation db msg with ⟨_, hstore⟩ | ⟨message, key', existing, hmsg, hfind,
      hstore⟩ | ⟨message, hmsg, hfind, hstore⟩
    · exact ⟨value, by rw [hstore, hget], rfl, rfl⟩
    · by_cases hkey : key' = key
      · -- the record that is found has the origin of the message
        subst hkey
        obtain ⟨found, hgetFound, hid, hread⟩ := of_find hfind
        obtain rfl := Option.some.inj (hget.symm.trans hgetFound)
        refine absurd ⟨?_, ?_, ?_⟩ hstranger
        · rw [hid, envelopeId_of_normalize hmsg]
        · by_contra hdirection
          refine hclash ⟨message, key', existing, hmsg, hfind, Or.inl fun heq => hdirection ?_⟩
          rw [← (of_normalizeStoredMessage hmsg).2, ← (of_normalizeStoredMessage hread).2, heq]
        · by_contra hsender
          refine hclash ⟨message, key', existing, hmsg, hfind, Or.inr fun heq => hsender ?_⟩
          rw [sender_of_normalize hmsg, sender_of_normalize hread, heq]
      · refine ⟨value, ?_, rfl, rfl⟩
        rw [hstore]
        exact (Record.get?_set_ne _ _ hkey).trans hget
    · refine ⟨value, ?_, rfl, rfl⟩
      rw [hstore, messages_insertMessage, Record.get?_set_ne _ _ ?_, hget]
      rintro rfl
      obtain ⟨direction, timestamp, id, hkey, hid⟩ := h.key _ value hget
      obtain ⟨_, _, rfl⟩ := storageKey_inj (colon_not_mem_timestampSegment _)
        (colon_not_mem_timestampSegment _) hkey
      exact h.not_found hfind hget hid

theorem messagePrefix_inj {direction direction' : MessageDirection} {rest rest' : String}
    (h : messagePrefix direction ++ rest = messagePrefix direction' ++ rest') :
    direction = direction' := by
  have hlist := congrArg String.toList h
  cases direction <;> cases direction' <;>
    first | rfl | simp [messagePrefix, MessageDirection.text] at hlist

theorem Placed.store (h : Placed db) (hclash : ¬Clashes db msg) :
    Placed (db.store collation msg) := by
  intro key value direction rest hget hkey
  rcases store_cases collation db msg with ⟨_, hstore⟩ | ⟨message, key', existing, hmsg, hfind,
    hstore⟩ | ⟨message, hmsg, hfind, hstore⟩
  · rw [hstore] at hget
    exact h key value direction rest hget hkey
  · rw [hstore] at hget
    dsimp only at hget
    by_cases hsame : key' = key
    · subst hsame
      rw [Record.get?_set_self] at hget
      obtain rfl := Option.some.inj hget
      obtain ⟨found, hgetFound, _, hread⟩ := of_find hfind
      have hdirection : existing.direction = message.direction := by
        by_contra hother
        exact hclash ⟨message, key', existing, hmsg, hfind, Or.inl hother⟩
      have hmerged := (envelope_mergeStoredMessages collation existing message).2
      have hfound := (of_normalizeStoredMessage hread).2
      refine (hmerged.trans hdirection.symm).trans (hfound.trans ?_)
      exact h key' found direction rest hgetFound hkey
    · rw [Record.get?_set_ne _ _ hsame] at hget
      exact h key value direction rest hget hkey
  · rw [hstore, messages_insertMessage, Record.get?_set] at hget
    split at hget
    · rename_i hsame
      obtain rfl := Option.some.inj hget
      rw [← hsame, storageKey] at hkey
      exact messagePrefix_inj hkey
    · exact h key value direction rest hget hkey

/-! ### Sequences of calls -/

/-- No call of the sequence clashes. -/
def ClashFree (collation : Collation) : MessageDb → List (StoredMessage JsonValue) → Prop
  | _, [] => True
  | db, msg :: msgs => ¬Clashes db msg ∧ ClashFree collation (db.store collation msg) msgs

theorem ClashFree.of_append {earlier later : List (StoredMessage JsonValue)}
    (h : ClashFree collation db (earlier ++ later)) :
    ClashFree collation (db.storeAll collation earlier) later := by
  induction earlier generalizing db with
  | nil => exact h
  | cons msg earlier ih => exact ih h.2

theorem Placed.storeAll (h : Placed db) (hfree : ClashFree collation db msgs) :
    Placed (db.storeAll collation msgs) := by
  induction msgs generalizing db with
  | nil => exact h
  | cons msg msgs ih => exact ih (h.store hfree.1) hfree.2

/-- A record is kept as long as no message has its origin. -/
theorem Keyed.kept_storeAll (h : Keyed db.messages) (hfree : ClashFree collation db msgs)
    {key : String} (hget : db.messages.get? key = some value)
    (hothers : ∀ msg ∈ msgs, ¬SameOrigin msg value) :
    ∃ value', (db.storeAll collation msgs).messages.get? key = some value' ∧
      value'.direction = value.direction ∧ value'.envelope = value.envelope := by
  induction msgs generalizing db value with
  | nil => exact ⟨value, hget, rfl, rfl⟩
  | cons msg msgs ih =>
    obtain ⟨next, hnext, hdirection, henvelope⟩ := (h.kept_iff collation msg).mpr hfree.1 key value
      hget (hothers msg (List.mem_cons_self ..))
    have hothers' : ∀ msg' ∈ msgs, ¬SameOrigin msg' next := by
      intro msg' hmem hsame
      obtain ⟨hid, hsameDirection, hsender⟩ := hsame
      refine hothers msg' (List.mem_cons_of_mem _ hmem) ⟨hid.trans ?_,
        hsameDirection.trans hdirection, hsender.trans ?_⟩
      · rw [StoredMessage.envelopeId, henvelope]
        rfl
      · rw [StoredMessage.sender, henvelope]
        rfl
    obtain ⟨last, hlast, hdirection', henvelope'⟩ := ih (h.store collation msg) hfree.2 hnext
      hothers'
    exact ⟨last, hlast, hdirection'.trans hdirection, henvelope'.trans henvelope⟩

/-- **Stored messages are kept.**  In every sequence of calls without a clash, every record is under
the prefix of its direction, and keeps its place, its direction and its envelope until a message of
the same origin is stored; and after any sequence, a call keeps the records of other origins exactly
when it does not clash. -/
theorem stored_messages_kept (collation : Collation) :
    (∀ earlier later, ClashFree collation .empty (earlier ++ later) →
      Placed (MessageDb.empty.storeAll collation (earlier ++ later)) ∧
      ∀ key value, (MessageDb.empty.storeAll collation earlier).messages.get? key = some value →
        (∀ msg ∈ later, ¬SameOrigin msg value) →
        ∃ value', (MessageDb.empty.storeAll collation (earlier ++ later)).messages.get? key
            = some value' ∧
          value'.direction = value.direction ∧ value'.envelope = value.envelope) ∧
    ∀ msgs msg, Kept (MessageDb.empty.storeAll collation msgs) msg
        ((MessageDb.empty.storeAll collation msgs).store collation msg) ↔
      ¬Clashes (MessageDb.empty.storeAll collation msgs) msg := by
  have hkeyed : Keyed MessageDb.empty.messages := .empty
  have hplaced : Placed .empty := by
    intro key value direction rest hget
    rw [MessageDb.empty, Record.get?_empty] at hget
    cases hget
  refine ⟨fun earlier later hfree => ⟨hplaced.storeAll hfree, fun key value hget hothers => ?_⟩,
    fun msgs msg => (hkeyed.storeAll collation msgs).kept_iff collation msg⟩
  have hkept := (hkeyed.storeAll collation earlier).kept_storeAll hfree.of_append hget hothers
  rwa [MessageDb.storeAll, MessageDb.storeAll, ← List.foldl_append] at hkept

/-! ### Two messages -/

def sampleEnvelope (id sender : String) : MessageEnvelope where
  id := id
  sender := sender
  receiver := "did:agent:zBob"
  type := .message
  protocol := "/agent/msg/1.0.0"
  payload := .string "hello"
  timestamp := 1000
  signature := "00"
  replyTo := none
  threadId := none
  groupId := none

def inboundMessage (envelope : MessageEnvelope) : NormalizedMessage where
  envelope := envelope
  direction := .inbound
  status := .pending
  receivedAt := some 1000
  sentAt := none
  readAt := none
  trustScore := none
  trustStatus := none
  error := none
  e2e := none

theorem normalize_inboundMessage {envelope : MessageEnvelope} (h : envelope.isValid = true) :
    normalizeStoredMessage (inboundMessage envelope).toStored = some (inboundMessage envelope) :=
  normalizeStoredMessage_toStored h

theorem find_empty (id : String) : MessageDb.empty.findStoredMessageRecord id = none := by
  cases hfind : MessageDb.empty.findStoredMessageRecord id with
  | none => rfl
  | some found =>
    obtain ⟨key, message⟩ := found
    obtain ⟨value, hget, _⟩ := of_find hfind
    rw [MessageDb.empty, Record.get?_empty] at hget
    cases hget

/-- The first message of a database. -/
theorem store_empty {envelope : MessageEnvelope} (h : envelope.isValid = true) :
    MessageDb.empty.store codePointOrder (inboundMessage envelope).toStored
      = MessageDb.empty.insertMessage (inboundMessage envelope) := by
  rw [MessageDb.store, MessageDb.putMessage, normalize_inboundMessage h]
  dsimp only
  rw [find_empty]

theorem not_clashes_empty (msg : StoredMessage JsonValue) : ¬Clashes .empty msg := by
  rintro ⟨message, key, existing, _, hfind, _⟩
  rw [find_empty] at hfind
  cases hfind

/-- Alice's message is kept when Carol's comes. -/
theorem stored_messages_kept_sample :
    ∃ value', ((MessageDb.empty.storeAll codePointOrder
        [(inboundMessage (sampleEnvelope "m1" "did:agent:zAlice")).toStored,
          (inboundMessage (sampleEnvelope "m2" "did:agent:zCarol")).toStored]).messages.get?
        (storageKey .inbound "0000000000001000" "m1")) = some value' ∧
      value'.envelope = (sampleEnvelope "m1" "did:agent:zAlice").toJson := by
  have hfirst := messages_insertMessage .empty
    (inboundMessage (sampleEnvelope "m1" "did:agent:zAlice"))
  have hfree : ClashFree codePointOrder .empty
      ([(inboundMessage (sampleEnvelope "m1" "did:agent:zAlice")).toStored] ++
        [(inboundMessage (sampleEnvelope "m2" "did:agent:zCarol")).toStored]) := by
    refine ⟨not_clashes_empty _, ?_, trivial⟩
    rintro ⟨message, key, existing, hmsg, hfind, _⟩
    rw [normalize_inboundMessage rfl] at hmsg
    obtain rfl := Option.some.inj hmsg
    obtain ⟨value, hget, hid, _⟩ := of_find hfind
    rw [store_empty rfl, hfirst, Record.get?_set] at hget
    split at hget
    · obtain rfl := Option.some.inj hget
      rw [envelopeId_toStored] at hid
      exact absurd hid (by decide)
    · cases hget
  obtain ⟨value', hget, _, henvelope⟩ := ((stored_messages_kept codePointOrder).1 _ _ hfree).2
    (storageKey .inbound "0000000000001000" "m1")
    (inboundMessage (sampleEnvelope "m1" "did:agent:zAlice")).toStored
    (by
      show ((MessageDb.empty.store codePointOrder _).messages.get? _) = _
      rw [store_empty rfl, hfirst]
      exact Record.get?_set_self _ _ _)
    (by
      intro msg hmem hsame
      rw [List.mem_singleton.mp hmem] at hsame
      exact absurd hsame.1 (by rw [envelopeId_toStored, envelopeId_toStored]; decide))
  exact ⟨value', hget, henvelope⟩

/-- **A stranger's message with the id of a stored one** overwrites its record. -/
theorem stranger_overwrites :
    ¬Kept (MessageDb.empty.storeAll codePointOrder
        [(inboundMessage (sampleEnvelope "m1" "did:agent:zAlice")).toStored])
      (inboundMessage (sampleEnvelope "m1" "did:agent:zMallory")).toStored
      (MessageDb.empty.storeAll codePointOrder
        [(inboundMessage (sampleEnvelope "m1" "did:agent:zAlice")).toStored,
          (inboundMessage (sampleEnvelope "m1" "did:agent:zMallory")).toStored]) := by
  have hkeyed : Keyed MessageDb.empty.messages := .empty
  intro hkept
  refine ((hkeyed.store codePointOrder _).kept_iff codePointOrder _).mp hkept ?_
  have hget : (MessageDb.empty.store codePointOrder
      (inboundMessage (sampleEnvelope "m1" "did:agent:zAlice")).toStored).messages.get?
        (storageKey .inbound "0000000000001000" "m1")
      = some (inboundMessage (sampleEnvelope "m1" "did:agent:zAlice")).toStored := by
    rw [store_empty rfl, messages_insertMessage]
    exact Record.get?_set_self _ _ _
  have hread := normalize_inboundMessage (by rfl :
    (sampleEnvelope "m1" "did:agent:zAlice").isValid = true)
  have hfind := (hkeyed.store codePointOrder _).find hget hread
  exact ⟨_, _, _, normalize_inboundMessage rfl, hfind, Or.inr (by decide)⟩

end QuadraA.Messaging
