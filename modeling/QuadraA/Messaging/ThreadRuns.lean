import QuadraA.Messaging.StoredOrigins
import QuadraA.Messaging.ThreadIndex

/-!
# Threads after any operations

`putMessage`, `deleteMessage` and `updateMessage` in any order.  The index has a key for each message
that is inserted with a thread; no merge and no update changes the index, and no deletion changes a
session.

* `thread_index_exact` — the threads are exact as long as all operations are clean;
* `deleted_message_counted` — a session that counts a message that is deleted.
-/

set_option linter.unusedSectionVars false

namespace QuadraA.Messaging

open QuadraA.Lib

inductive StorageOp where
  | put (msg : StoredMessage JsonValue)
  | delete (id : String)
  | update (id : String) (updates : MessageUpdates)

def MessageDb.apply (collation : Collation) (db : MessageDb) : StorageOp → MessageDb
  | .put msg => db.store collation msg
  | .delete id => db.deleteMessage id
  | .update id updates => db.updateMessage id updates

def MessageDb.run (collation : Collation) (db : MessageDb) (ops : List StorageOp) : MessageDb :=
  ops.foldl (apply collation) db

/-- The key of the index for a new message. -/
def NormalizedMessage.indexKey (message : NormalizedMessage) (threadId : String) : String :=
  threadIndexKey threadId (timestampSegment (getMessageSortTimestamp message)) message.envelope.id

/-- **A new message can be filed.**  Its thread is no empty text, its id has no colon, its key is in
the range of no other thread, and no key of another thread is in the range of its own. -/
def Fits (db : MessageDb) (message : NormalizedMessage) : Prop :=
  ∀ threadId, message.envelope.threadId = some threadId →
    threadId ≠ "" ∧ ':' ∉ message.envelope.id.toList ∧
    ∀ message' threadId' key', Filed db.messages message' threadId' key' → threadId' ≠ threadId →
      ¬InPrefixRange (threadPrefix threadId') RANGE_END (message.indexKey threadId) ∧
        ¬InPrefixRange (threadPrefix threadId) RANGE_END key'

/-- **The condition of an operation**: a new message fits, a message that is merged has the thread of
its record, no message of a thread is deleted, and an update with an envelope keeps the id and the
thread. -/
def Clean (db : MessageDb) : StorageOp → Prop
  | .put msg => ∀ message, normalizeStoredMessage msg = some message →
      match db.findStoredMessageRecord message.envelope.id with
      | none => Fits db message
      | some (_, existing) => existing.envelope.threadId = message.envelope.threadId
  | .delete id => ∀ key message, db.findStoredMessageRecord id = some (key, message) →
      message.envelope.threadId = none
  | .update id updates => ∀ key message raw,
      db.findStoredMessageRecord id = some (key, message) → updates.envelope = some raw →
        ∃ envelope, normalizeEnvelope raw = some envelope ∧
          envelope.id = message.envelope.id ∧ envelope.threadId = message.envelope.threadId

def CleanRun (collation : Collation) : MessageDb → List StorageOp → Prop
  | _, [] => True
  | db, op :: ops => Clean db op ∧ CleanRun collation (db.apply collation op) ops

variable {collation : Collation} {db db' : MessageDb} {op : StorageOp}
  {messages : Record String (StoredMessage JsonValue)} {message message' : NormalizedMessage}
  {msg value value' : StoredMessage JsonValue} {threadId threadId' key key' id : String}

/-! ### What is filed after a write -/

/-- **A write files its message**, and leaves the messages of other ids. -/
theorem filed_set {direction : MessageDirection} {timestamp : ℕ}
    (hown : ∀ key value, messages.get? key = some value → value.envelopeId = some id →
      key = storageKey direction (timestampSegment timestamp) id)
    (hread : normalizeStoredMessage value' = some message') (hid : message'.envelope.id = id) :
    Filed (messages.set (storageKey direction (timestampSegment timestamp) id) value') message
        threadId key ↔
      (message = message' ∧ message'.envelope.threadId = some threadId ∧
        key = threadIndexKey threadId (timestampSegment timestamp) id) ∨
      Filed messages message threadId key ∧ message.envelope.id ≠ id := by
  constructor
  · rintro ⟨direction₁, timestamp₁, value₁, hget, hread₁, hthread, rfl⟩
    rw [Record.get?_set] at hget
    split at hget
    · rename_i hkey
      obtain ⟨_, hts, hids⟩ := storageKey_inj (colon_not_mem_timestampSegment _)
        (colon_not_mem_timestampSegment _) hkey
      obtain rfl := Option.some.inj hget
      obtain rfl := Option.some.inj (hread.symm.trans hread₁)
      exact Or.inl ⟨rfl, hthread, by rw [hts, hids]⟩
    · rename_i hkey
      refine Or.inr ⟨⟨_, _, _, hget, hread₁, hthread, rfl⟩, fun hsame => hkey ?_⟩
      refine (hown _ _ hget ?_).symm
      rw [envelopeId_of_normalize hread₁, hsame]
  · rintro (⟨rfl, hthread, rfl⟩ | ⟨⟨direction₁, timestamp₁, value₁, hget, hread₁, hthread, rfl⟩,
      hother⟩)
    · refine ⟨direction, timestamp, value', ?_, hread, hthread, by rw [hid]⟩
      rw [hid, Record.get?_set_self]
    · refine ⟨direction₁, timestamp₁, value₁, ?_, hread₁, hthread, rfl⟩
      rw [Record.get?_set_ne _ _ fun hkey => hother ?_, hget]
      exact (storageKey_inj (colon_not_mem_timestampSegment _) (colon_not_mem_timestampSegment _)
        hkey).2.2.symm

/-- A deletion leaves the messages of other ids. -/
theorem Keyed.filed_erase (h : Keyed messages) {found : NormalizedMessage}
    (hget : messages.get? key = some value) (hread : normalizeStoredMessage value = some found) :
    Filed (messages.erase key) message threadId key' ↔
      Filed messages message threadId key' ∧ message.envelope.id ≠ found.envelope.id := by
  constructor
  · rintro ⟨direction₁, timestamp₁, value₁, hget₁, hread₁, hthread, rfl⟩
    rw [Record.get?_erase] at hget₁
    split at hget₁
    · cases hget₁
    · rename_i hkey
      refine ⟨⟨_, _, _, hget₁, hread₁, hthread, rfl⟩, fun hsame => hkey ?_⟩
      refine h.unique _ _ _ _ hget hget₁ ?_
      rw [envelopeId_of_normalize hread, envelopeId_of_normalize hread₁, hsame]
  · rintro ⟨⟨direction₁, timestamp₁, value₁, hget₁, hread₁, hthread, rfl⟩, hother⟩
    refine ⟨direction₁, timestamp₁, value₁, ?_, hread₁, hthread, rfl⟩
    rw [Record.get?_erase, if_neg fun hkey => hother ?_, hget₁]
    obtain rfl := Option.some.inj ((hkey ▸ hget).symm.trans hget₁)
    rw [Option.some.inj (hread.symm.trans hread₁)]

theorem inThread_of_read (hread : normalizeStoredMessage value = some message) :
    inThread threadId value = decide (message.envelope.threadId = some threadId) := by
  rw [inThread, hread]
  rfl

/-- The invariant is about the messages that are filed, the index and the sessions. -/
theorem Indexed.of_filed (h : Indexed db) (hkeyed : Keyed db'.messages)
    (hto : ∀ message threadId key, Filed db'.messages message threadId key →
      ∃ message₀, Filed db.messages message₀ threadId key ∧
        message₀.envelope.id = message.envelope.id)
    (hfrom : ∀ message threadId key, Filed db.messages message threadId key →
      ∃ message₁, Filed db'.messages message₁ threadId key)
    (hindex : db'.threadIndex = db.threadIndex) (hsessions : db'.sessions = db.sessions)
    (hcount : ∀ threadId, db'.messages.values.countP (inThread threadId)
      = db.messages.values.countP (inThread threadId)) : Indexed db' where
  keyed := hkeyed
  index key := by
    rw [hindex, h.index]
    constructor
    · rintro ⟨message, threadId, hfiled⟩
      obtain ⟨message₁, hfiled₁⟩ := hfrom _ _ _ hfiled
      exact ⟨message₁, threadId, hfiled₁⟩
    · rintro ⟨message, threadId, hfiled⟩
      obtain ⟨message₀, hfiled₀, _⟩ := hto _ _ _ hfiled
      exact ⟨message₀, threadId, hfiled₀⟩
  named message threadId key hfiled := by
    obtain ⟨message₀, hfiled₀, hid⟩ := hto _ _ _ hfiled
    rw [← hid]
    exact h.named _ _ _ hfiled₀
  apart message threadId key message' threadId' key' hfiled hfiled' hrange := by
    obtain ⟨message₀, hfiled₀, _⟩ := hto _ _ _ hfiled
    obtain ⟨message₁, hfiled₁, _⟩ := hto _ _ _ hfiled'
    exact h.apart _ _ _ _ _ _ hfiled₀ hfiled₁ hrange
  counted threadId := by
    rw [hcount, ← h.counted, MessageDb.sessionCount, MessageDb.getSession, hsessions]
    rfl
  positive threadId session hsession := by
    rw [MessageDb.getSession, hsessions] at hsession
    exact h.positive threadId session hsession

/-- **A record that keeps its id and its thread** leaves the index as it is. -/
theorem Indexed.overwrite (h : Indexed db) (hget : db.messages.get? key = some value)
    (hread : normalizeStoredMessage value = some message)
    (hread' : normalizeStoredMessage value' = some message')
    (hid : message'.envelope.id = message.envelope.id)
    (hthread : message'.envelope.threadId = message.envelope.threadId) :
    Indexed { db with messages := db.messages.set key value' } := by
  obtain ⟨direction, timestamp, id, rfl, hvalueId⟩ := h.keyed.key key value hget
  have hids : message.envelope.id = id :=
    Option.some.inj ((envelopeId_of_normalize hread).symm.trans hvalueId)
  have hown : ∀ key value₁, db.messages.get? key = some value₁ → value₁.envelopeId = some id →
      key = storageKey direction (timestampSegment timestamp) id := by
    intro key value₁ hget₁ hid₁
    exact h.keyed.unique _ _ _ _ hget₁ hget (by rw [hid₁, hvalueId])
  have hfiled : ∀ threadId, message.envelope.threadId = some threadId →
      Filed db.messages message threadId
        (threadIndexKey threadId (timestampSegment timestamp) id) := by
    intro threadId hthread₁
    exact ⟨direction, timestamp, value, by rw [hids]; exact hget, hread, hthread₁, by rw [hids]⟩
  refine h.of_filed ?_ (fun message₁ threadId key hfiled₁ => ?_)
    (fun message₁ threadId key hfiled₁ => ?_) rfl rfl fun threadId => ?_
  · refine h.keyed.overwrite hget ?_ ⟨message', hread'⟩
    rw [envelopeId_of_normalize hread', envelopeId_of_normalize hread, hid]
  · rcases (filed_set hown hread' (hid.trans hids)).mp hfiled₁ with ⟨rfl, hthread₁, rfl⟩ |
      ⟨hfiled₁, _⟩
    · exact ⟨message, hfiled threadId (hthread ▸ hthread₁), hid.symm⟩
    · exact ⟨message₁, hfiled₁, rfl⟩
  · by_cases hsame : message₁.envelope.id = id
    · have hthread₁ : message₁.envelope.threadId = some threadId := by
        obtain ⟨_, _, _, _, _, hthread₁, _⟩ := hfiled₁
        exact hthread₁
      obtain ⟨direction₁, timestamp₁, value₁, hget₁, hread₁, _, rfl⟩ := hfiled₁
      have hkeys := hown _ _ hget₁ (by rw [envelopeId_of_normalize hread₁, hsame])
      obtain ⟨_, hts, _⟩ := storageKey_inj (colon_not_mem_timestampSegment _)
        (colon_not_mem_timestampSegment _) hkeys
      rw [hkeys] at hget₁
      obtain rfl := Option.some.inj (hget.symm.trans hget₁)
      obtain rfl := Option.some.inj (hread.symm.trans hread₁)
      refine ⟨message', (filed_set hown hread' (hid.trans hids)).mpr (Or.inl ⟨rfl, ?_, ?_⟩)⟩
      · rw [hthread, hthread₁]
      · rw [hts, hsame]
    · exact ⟨message₁, (filed_set hown hread' (hid.trans hids)).mpr (Or.inr ⟨hfiled₁, hsame⟩)⟩
  · have hcount := Record.countP_values_set hget value' (inThread threadId)
    rw [inThread_of_read hread, inThread_of_read hread', hthread] at hcount
    dsimp only
    omega

/-! ### A new message -/

theorem sessionKey_inj (h : sessionKey threadId = sessionKey threadId') : threadId = threadId' := by
  have hlist := congrArg String.toList h
  rw [sessionKey, sessionKey, String.toList_append, String.toList_append] at hlist
  exact String.toList_inj.mp (List.append_cancel_left hlist)

variable {envelope : MessageEnvelope}

theorem thread_eq_some :
    envelope.thread = some threadId ↔ envelope.threadId = some threadId ∧ threadId ≠ "" := by
  rw [MessageEnvelope.thread, Option.filter_eq_some_iff, decide_eq_true_eq]

theorem thread_eq_none :
    envelope.thread = none ↔ envelope.threadId = none ∨ envelope.threadId = some "" := by
  rw [MessageEnvelope.thread]
  cases envelope.threadId with
  | none => exact ⟨fun _ => Or.inl rfl, fun _ => rfl⟩
  | some threadId =>
    by_cases hempty : threadId = ""
    · simp [hempty]
    · simp [hempty]

/-- A message without a thread leaves the index and the sessions. -/
theorem insertMessage_unthreaded (db : MessageDb) (hthread : message.envelope.thread = none) :
    (db.insertMessage message).threadIndex = db.threadIndex ∧
      (db.insertMessage message).sessions = db.sessions := by
  rw [MessageDb.insertMessage, hthread]
  exact ⟨rfl, rfl⟩

theorem threadIndex_insertMessage (db : MessageDb)
    (hthread : message.envelope.thread = some threadId) :
    (db.insertMessage message).threadIndex = db.threadIndex.set (message.indexKey threadId) () := by
  rw [MessageDb.insertMessage, hthread]
  rfl

/-- **The session of a new message counts it.** -/
theorem getSession_insertMessage (db : MessageDb)
    (hthread : message.envelope.thread = some threadId) :
    ∃ session, (db.insertMessage message).sessions = db.sessions.set (sessionKey threadId) session ∧
      session.messageCount = db.sessionCount threadId + 1 := by
  rw [MessageDb.insertMessage, hthread]
  dsimp only
  rw [MessageDb.updateSessionMeta, MessageDb.sessionCount, MessageDb.getSession]
  refine ⟨_, rfl, ?_⟩
  dsimp only
  cases db.sessions.get? (sessionKey threadId) with
  | none => rfl
  | some session => rfl

theorem read_of_normalizeEnvelope (h : normalizeEnvelope msg.envelope = some envelope) :
    ∃ message, normalizeStoredMessage msg = some message ∧ message.envelope = envelope := by
  rw [normalizeStoredMessage, h]
  exact ⟨_, rfl, rfl⟩

/-- A message that is stored is read with its envelope. -/
theorem read_toStored (h : message.envelope.isValid = true) :
    ∃ message', normalizeStoredMessage message.toStored = some message' ∧
      message'.envelope = message.envelope :=
  ⟨_, normalizeStoredMessage_toStored h, rfl⟩

/-- **A new message is filed** beside the messages that are. -/
theorem Keyed.filed_insert (h : Keyed db.messages)
    (hnew : db.findStoredMessageRecord message.envelope.id = none)
    (hread : normalizeStoredMessage message.toStored = some message')
    (henvelope : message'.envelope = message.envelope) {other : NormalizedMessage} :
    Filed (db.insertMessage message).messages other threadId key ↔
      (other = message' ∧ message.envelope.threadId = some threadId ∧
        key = message.indexKey threadId) ∨
      Filed db.messages other threadId key ∧ other.envelope.id ≠ message.envelope.id := by
  rw [messages_insertMessage]
  refine (filed_set (fun key value hget hid => absurd hid (h.not_found hnew hget)) hread
    (by rw [henvelope])).trans ?_
  rw [henvelope]
  rfl

/-- A message that is not found is not filed. -/
theorem Keyed.not_filed (h : Keyed db.messages) (hnew : db.findStoredMessageRecord id = none)
    (hfiled : Filed db.messages message threadId key) : message.envelope.id ≠ id := by
  obtain ⟨_, _, value, hget, hread, _⟩ := hfiled
  intro hid
  exact h.not_found hnew hget (by rw [envelopeId_of_normalize hread, hid])

theorem countP_insertMessage (h : Keyed db.messages)
    (hvalid : message.envelope.isValid = true)
    (hnew : db.findStoredMessageRecord message.envelope.id = none) (threadId : String) :
    (db.insertMessage message).messages.values.countP (inThread threadId)
      = db.messages.values.countP (inThread threadId)
        + if message.envelope.threadId = some threadId then 1 else 0 := by
  obtain ⟨message', hread, henvelope⟩ := read_toStored hvalid
  have hfresh : db.messages.get? (storageKey message.direction
      (timestampSegment (getMessageSortTimestamp message)) message.envelope.id) = none := by
    cases hget : db.messages.get? (storageKey message.direction
        (timestampSegment (getMessageSortTimestamp message)) message.envelope.id) with
    | none => rfl
    | some value =>
      obtain ⟨direction, timestamp, id, hkey, hid⟩ := h.key _ value hget
      obtain ⟨_, _, rfl⟩ := storageKey_inj (colon_not_mem_timestampSegment _)
        (colon_not_mem_timestampSegment _) hkey
      exact absurd hid (h.not_found hnew hget)
  rw [messages_insertMessage, Record.countP_values_set_new hfresh, inThread_of_read hread,
    henvelope]
  simp only [decide_eq_true_eq]

theorem Indexed.insert (h : Indexed db) (hvalid : message.envelope.isValid = true)
    (hnew : db.findStoredMessageRecord message.envelope.id = none) (hfits : Fits db message) :
    Indexed (db.insertMessage message) := by
  obtain ⟨message', hread, henvelope⟩ := read_toStored hvalid
  have hkeyed := keyed_insertMessage h.keyed hvalid hnew
  have hcount := countP_insertMessage h.keyed hvalid hnew
  have hfiled : ∀ other threadId key, Filed (db.insertMessage message).messages other threadId key ↔
      (other = message' ∧ message.envelope.threadId = some threadId ∧
        key = message.indexKey threadId) ∨
      Filed db.messages other threadId key ∧ other.envelope.id ≠ message.envelope.id :=
    fun other threadId key => h.keyed.filed_insert hnew hread henvelope
  cases hthread : message.envelope.threadId with
  | none =>
    obtain ⟨hindex, hsessions⟩ := insertMessage_unthreaded db
      (thread_eq_none.mpr (Or.inl hthread))
    refine h.of_filed hkeyed (fun other threadId key hother => ?_)
      (fun other threadId key hother => ?_) hindex hsessions fun threadId => ?_
    · rcases (hfiled _ _ _).mp hother with ⟨_, hsome, _⟩ | ⟨hother, _⟩
      · rw [hthread] at hsome
        cases hsome
      · exact ⟨other, hother, rfl⟩
    · exact ⟨other, (hfiled _ _ _).mpr (Or.inr ⟨hother, h.keyed.not_filed hnew hother⟩)⟩
    · rw [hcount, hthread, if_neg nofun, Nat.add_zero]
  | some own =>
    obtain ⟨hempty, hcolon, happart⟩ := hfits own hthread
    have hsome := thread_eq_some.mpr ⟨hthread, hempty⟩
    have hindex := threadIndex_insertMessage db hsome
    obtain ⟨session, hsessions, hmessageCount⟩ := getSession_insertMessage db hsome
    refine ⟨hkeyed, fun key => ?_, fun other threadId key hother => ?_,
      fun other threadId key other' threadId' key' hother hother' hrange => ?_,
      fun threadId => ?_, fun threadId session' hsession => ?_⟩
    · -- the new key, and the keys of the others
      rw [hindex, Record.get?_set]
      constructor
      · intro hget
        split at hget
        · rename_i hkey
          exact ⟨message', own, (hfiled _ _ _).mpr (Or.inl ⟨rfl, hthread, hkey.symm⟩)⟩
        · obtain ⟨other, threadId, hother⟩ := (h.index key).mp hget
          exact ⟨other, threadId,
            (hfiled _ _ _).mpr (Or.inr ⟨hother, h.keyed.not_filed hnew hother⟩)⟩
      · rintro ⟨other, threadId, hother⟩
        rcases (hfiled _ _ _).mp hother with ⟨_, hsame, rfl⟩ | ⟨hother, _⟩
        · rw [hthread] at hsame
          rw [Option.some.inj hsame, if_pos rfl]
        · split
          · rfl
          · exact (h.index key).mpr ⟨other, threadId, hother⟩
    · rcases (hfiled _ _ _).mp hother with ⟨rfl, hsame, _⟩ | ⟨hother, _⟩
      · rw [hthread] at hsame
        rw [← Option.some.inj hsame, henvelope]
        exact ⟨hempty, hcolon⟩
      · exact h.named _ _ _ hother
    · rcases (hfiled _ _ _).mp hother with ⟨_, hsame, rfl⟩ | ⟨hother, _⟩ <;>
        rcases (hfiled _ _ _).mp hother' with ⟨_, hsame', rfl⟩ | ⟨hother', _⟩
      · exact Option.some.inj (hsame.symm.trans hsame')
      · obtain rfl := Option.some.inj (hthread.symm.trans hsame)
        by_contra hne
        exact (happart _ _ _ hother' (Ne.symm hne)).1 hrange
      · obtain rfl := Option.some.inj (hthread.symm.trans hsame')
        by_contra hne
        exact (happart _ _ _ hother hne).2 hrange
      · exact h.apart _ _ _ _ _ _ hother hother' hrange
    · rw [hcount, ← h.counted, MessageDb.sessionCount, MessageDb.getSession, hsessions, hthread,
        Record.get?_set]
      by_cases hsame : own = threadId
      · subst hsame
        rw [if_pos rfl, if_pos rfl, ← hmessageCount]
        rfl
      · rw [if_neg fun hkey => hsame (sessionKey_inj hkey),
          if_neg fun heq => hsame (Option.some.inj heq)]
        rfl
    · rw [MessageDb.getSession, hsessions, Record.get?_set] at hsession
      split at hsession
      · rw [← Option.some.inj hsession, hmessageCount]
        exact Nat.succ_pos _
      · exact h.positive threadId session' hsession

/-! ### Steps and runs -/

theorem Indexed.delete (h : Indexed db)
    (hclean : ∀ key message, db.findStoredMessageRecord id = some (key, message) →
      message.envelope.threadId = none) : Indexed (db.deleteMessage id) := by
  rw [MessageDb.deleteMessage]
  cases hfind : db.findStoredMessageRecord id with
  | none => exact h
  | some found =>
    obtain ⟨key, message⟩ := found
    have hnone := hclean key message hfind
    obtain ⟨value, hget, hid, hread⟩ := of_find hfind
    dsimp only
    rw [thread_eq_none.mpr (Or.inl hnone)]
    have hother : ∀ other threadId key', Filed db.messages other threadId key' →
        other.envelope.id ≠ message.envelope.id := by
      intro other threadId key' hfiled hsame
      obtain ⟨_, _, value', hget', hread', hthread', _⟩ := hfiled
      have hkeys := h.keyed.unique _ _ _ _ hget' hget
        (by rw [envelopeId_of_normalize hread', envelopeId_of_normalize hread, hsame])
      rw [hkeys] at hget'
      obtain rfl := Option.some.inj (hget.symm.trans hget')
      obtain rfl := Option.some.inj (hread.symm.trans hread')
      rw [hnone] at hthread'
      cases hthread'
    refine h.of_filed (h.keyed.erase key) (fun other threadId key' hfiled => ?_)
      (fun other threadId key' hfiled => ?_) rfl rfl fun threadId => ?_
    · exact ⟨other, ((h.keyed.filed_erase hget hread).mp hfiled).1, rfl⟩
    · exact ⟨other, (h.keyed.filed_erase hget hread).mpr ⟨hfiled, hother _ _ _ hfiled⟩⟩
    · have hcount := Record.countP_values_erase hget (inThread threadId)
      rw [inThread_of_read hread, hnone, decide_eq_false nofun] at hcount
      exact hcount

theorem Indexed.update (h : Indexed db) {updates : MessageUpdates}
    (hclean : Clean db (.update id updates)) : Indexed (db.updateMessage id updates) := by
  rw [MessageDb.updateMessage]
  cases hfind : db.findStoredMessageRecord id with
  | none => exact h
  | some found =>
    obtain ⟨key, message⟩ := found
    obtain ⟨value, hget, hid, hread⟩ := of_find hfind
    dsimp only
    cases hraw : updates.envelope with
    | none =>
      have hnormalize : normalizeEnvelope (updates.apply message.toStored).envelope
          = some message.envelope := by
        rw [MessageUpdates.apply, hraw]
        exact normalizeEnvelope_toJson (isValid_of_normalize hread)
      obtain ⟨updated, hupdated, henvelope⟩ := read_of_normalizeEnvelope hnormalize
      exact h.overwrite hget hread hupdated (by rw [henvelope]) (by rw [henvelope])
    | some raw =>
      obtain ⟨envelope, hnormalize, hsameId, hsameThread⟩ := hclean key message raw hfind hraw
      have henvelope : normalizeEnvelope (updates.apply message.toStored).envelope
          = some envelope := by
        rw [MessageUpdates.apply, hraw]
        exact hnormalize
      obtain ⟨updated, hupdated, hupdatedEnvelope⟩ := read_of_normalizeEnvelope henvelope
      exact h.overwrite hget hread hupdated (by rw [hupdatedEnvelope, hsameId])
        (by rw [hupdatedEnvelope, hsameThread])

/-- **A clean operation keeps the index that of the messages.** -/
theorem Indexed.step (h : Indexed db) (hclean : Clean db op) : Indexed (db.apply collation op) := by
  cases op with
  | put msg =>
    show Indexed (db.store collation msg)
    rcases store_cases collation db msg with ⟨_, hstore⟩ | ⟨message, key, existing, hmsg, hfind,
      hstore⟩ | ⟨message, hmsg, hfind, hstore⟩
    · rwa [hstore]
    · have hthread := hclean message hmsg
      rw [hfind] at hthread
      obtain ⟨value, hget, hid, hread⟩ := of_find hfind
      have henvelope := (envelope_mergeStoredMessages collation existing message).1
      have hvalid : (mergeStoredMessages collation existing message).envelope.isValid = true := by
        rw [henvelope]
        exact isValid_of_normalize hmsg
      obtain ⟨merged, hmerged, hmergedEnvelope⟩ := read_toStored hvalid
      rw [henvelope] at hmergedEnvelope
      rw [hstore]
      refine h.overwrite hget hread hmerged ?_ ?_
      · rw [hmergedEnvelope]
        exact Option.some.inj (hid.symm.trans (envelopeId_of_normalize hread))
      · rw [hmergedEnvelope]
        exact hthread.symm
    · have hfits := hclean message hmsg
      rw [hfind] at hfits
      rw [hstore]
      exact h.insert (isValid_of_normalize hmsg) hfind hfits
  | delete id => exact h.delete hclean
  | update id updates => exact h.update hclean

theorem Indexed.empty : Indexed .empty := by
  have hnone : ∀ message threadId key, ¬Filed MessageDb.empty.messages message threadId key := by
    rintro message threadId key ⟨_, _, value, hget, _⟩
    rw [MessageDb.empty, Record.get?_empty] at hget
    cases hget
  refine ⟨.empty, fun key => ⟨fun hget => ?_, fun hthere => ?_⟩,
    fun message threadId key hfiled => absurd hfiled (hnone _ _ _),
    fun message threadId key _ _ _ hfiled => absurd hfiled (hnone _ _ _), fun _ => rfl,
    fun threadId session hsession => ?_⟩
  · rw [MessageDb.empty, Record.get?_empty] at hget
    cases hget
  · obtain ⟨message, threadId, hfiled⟩ := hthere
    exact absurd hfiled (hnone _ _ _)
  · rw [MessageDb.getSession, MessageDb.empty, Record.get?_empty] at hsession
    cases hsession

theorem Indexed.run {ops : List StorageOp} (h : Indexed db) (hclean : CleanRun collation db ops) :
    Indexed (db.run collation ops) := by
  induction ops generalizing db with
  | nil => exact h
  | cons op ops ih => exact ih (h.step hclean.1) hclean.2

/-! ### Operations that are not clean -/

theorem isThread_of_sessionCount (h : 0 < db.sessionCount threadId) : db.IsThread threadId := by
  rw [MessageDb.sessionCount] at h
  cases hsession : db.getSession threadId with
  | none =>
    rw [hsession] at h
    exact absurd h (Nat.lt_irrefl 0)
  | some session => exact Or.inr (by rw [hsession]; rfl)

/-- A message that is filed makes its session count. -/
theorem Indexed.sessionCount_pos (h : Indexed db) (hfiled : Filed db.messages message threadId key) :
    0 < db.sessionCount threadId := by
  rw [h.counted, ← length_storedThread]
  exact List.length_pos_of_mem (h.keyed.mem_storedThread.mpr ⟨key, hfiled⟩)

theorem Exact.mem_iff (h : Exact collation db) (hthread : db.IsThread threadId) :
    message ∈ db.threadMessages collation threadId ↔ message ∈ db.storedThread threadId := by
  have hperm := ((h threadId hthread).1 1 Nat.one_pos).1
  rw [allPages_eq db threadId Nat.one_pos] at hperm
  exact hperm.mem_iff

/-- **A message of an exact thread is listed by its index.** -/
theorem Exact.listed (h : Exact collation db) (hkeyed : Keyed db.messages)
    (hfiled : Filed db.messages message threadId key) :
    ∃ key', db.threadIndex.get? key' = some () ∧
      (segments ':' key').getLast? = some message.envelope.id := by
  have hmem := (h.mem_iff (Or.inl ⟨message, key, hfiled⟩)).mpr
    (hkeyed.mem_storedThread.mpr ⟨key, hfiled⟩)
  obtain ⟨id, hid, hget⟩ := mem_threadMessages.mp hmem
  obtain ⟨key', hindex, _, hlast⟩ := mem_threadMessageIds.mp hid
  exact ⟨key', hindex, by rw [hlast, id_of_getMessage hget]⟩

/-- **In an exact database, no listed key is in the range of another thread.** -/
theorem Exact.same_thread (h : Exact collation db) (hkeyed : Keyed db.messages)
    (hfiled : Filed db.messages message threadId key)
    (hfiled' : Filed db.messages message' threadId' key')
    (hindex : db.threadIndex.get? key = some ()) (hid : ':' ∉ message.envelope.id.toList)
    (hrange : InPrefixRange (threadPrefix threadId') RANGE_END key) : threadId = threadId' := by
  have hmem : message ∈ db.threadMessages collation threadId' :=
    mem_threadMessages.mpr ⟨message.envelope.id,
      mem_threadMessageIds.mpr ⟨key, hindex, hrange, hfiled.getLast? hid⟩, hfiled.get? hkeyed⟩
  obtain ⟨_, hother⟩ := hkeyed.mem_storedThread.mp
    ((h.mem_iff (Or.inl ⟨message', key', hfiled'⟩)).mp hmem)
  obtain ⟨_, _, _, _, _, hthread, _⟩ := hfiled
  obtain ⟨_, _, _, _, _, hthread', _⟩ := hother
  exact Option.some.inj (hthread.symm.trans hthread')

/-- What the index of the messages lists is filed. -/
theorem Indexed.filed_of_listed (h : Indexed db) (hindex : db.threadIndex.get? key = some ())
    (hlast : (segments ':' key).getLast? = some id) :
    ∃ message threadId, Filed db.messages message threadId key ∧ message.envelope.id = id := by
  obtain ⟨message, threadId, hfiled⟩ := (h.index key).mp hindex
  rw [hfiled.getLast? (h.named _ _ _ hfiled).2] at hlast
  exact ⟨message, threadId, hfiled, Option.some.inj hlast⟩

/-- **A new message that does not fit** leaves a thread inexact. -/
theorem Indexed.fits_of_exact (h : Indexed db) (hvalid : message.envelope.isValid = true)
    (hnew : db.findStoredMessageRecord message.envelope.id = none)
    (hexact : Exact collation (db.insertMessage message)) : Fits db message := by
  intro threadId hthread
  obtain ⟨message', hread, henvelope⟩ := read_toStored hvalid
  have hkeyed := keyed_insertMessage h.keyed hvalid hnew
  have hown : Filed (db.insertMessage message).messages message' threadId
      (message.indexKey threadId) :=
    (h.keyed.filed_insert hnew hread henvelope).mpr (Or.inl ⟨rfl, hthread, rfl⟩)
  obtain ⟨key, hindex, hlast⟩ := hexact.listed hkeyed hown
  rw [henvelope] at hlast
  have hempty : threadId ≠ "" := by
    rintro rfl
    rw [(insertMessage_unthreaded db (thread_eq_none.mpr (Or.inr hthread))).1] at hindex
    obtain ⟨other, _, hfiled, hid⟩ := h.filed_of_listed hindex hlast
    exact h.keyed.not_filed hnew hfiled hid
  have hcolon : ':' ∉ message.envelope.id.toList :=
    not_mem_of_segments (List.mem_of_getLast? hlast)
  have hset := threadIndex_insertMessage db (thread_eq_some.mpr ⟨hthread, hempty⟩)
  refine ⟨hempty, hcolon, fun other threadId' key' hother hne => ⟨fun hrange => hne ?_,
    fun hrange => hne ?_⟩⟩
  · have hother' : Filed (db.insertMessage message).messages other threadId' key' :=
      (h.keyed.filed_insert hnew hread henvelope).mpr
        (Or.inr ⟨hother, h.keyed.not_filed hnew hother⟩)
    refine (hexact.same_thread hkeyed hown hother' ?_ (by rwa [henvelope]) hrange).symm
    rw [hset, Record.get?_set_self]
  · have hother' : Filed (db.insertMessage message).messages other threadId' key' :=
      (h.keyed.filed_insert hnew hread henvelope).mpr
        (Or.inr ⟨hother, h.keyed.not_filed hnew hother⟩)
    refine hexact.same_thread hkeyed hother' hown ?_ (h.named _ _ _ hother).2 hrange
    rw [hset, Record.get?_set]
    split
    · rfl
    · exact (h.index key').mpr ⟨other, threadId', hother⟩

/-- A write or a deletion that takes a message from its thread leaves its session too high. -/
theorem Indexed.not_exact_of_countP_lt (h : Indexed db)
    (hfiled : Filed db.messages message threadId key) (hsessions : db'.sessions = db.sessions)
    (hcount : db'.messages.values.countP (inThread threadId)
      < db.messages.values.countP (inThread threadId)) : ¬Exact collation db' := by
  intro hexact
  have hsame : db'.sessionCount threadId = db.sessionCount threadId := by
    rw [MessageDb.sessionCount, MessageDb.getSession, hsessions]
    rfl
  have hpos := h.sessionCount_pos hfiled
  rw [← hsame] at hpos
  have hlength := (hexact threadId (isThread_of_sessionCount hpos)).2
  rw [hsame, h.counted, length_storedThread] at hlength
  omega

/-- **A message that is merged into a record of another thread** leaves a thread inexact. -/
theorem Indexed.merge_of_exact (h : Indexed db) {existing : NormalizedMessage}
    (hfind : db.findStoredMessageRecord message.envelope.id = some (key, existing))
    (hvalid : message.envelope.isValid = true)
    (hexact : Exact collation { db with
      messages := db.messages.set key (mergeStoredMessages collation existing message).toStored }) :
    existing.envelope.threadId = message.envelope.threadId := by
  obtain ⟨value, hget, hid, hread⟩ := of_find hfind
  have henvelope := (envelope_mergeStoredMessages collation existing message).1
  obtain ⟨merged, hmerged, hmergedEnvelope⟩ :=
    @read_toStored (mergeStoredMessages collation existing message)
      (by rw [henvelope]; exact hvalid)
  rw [henvelope] at hmergedEnvelope
  have hkeyed : Keyed (db.messages.set key
      (mergeStoredMessages collation existing message).toStored) :=
    h.keyed.overwrite hget (by rw [envelopeId_toStored, henvelope, hid]) ⟨merged, hmerged⟩
  by_contra hne
  cases hold : existing.envelope.threadId with
  | some threadId =>
    obtain ⟨oldKey, hfiled⟩ := h.keyed.filed hget hread hold
    refine absurd hexact (h.not_exact_of_countP_lt hfiled rfl ?_)
    have hcount := Record.countP_values_set hget
      (mergeStoredMessages collation existing message).toStored (inThread threadId)
    rw [inThread_of_read hread, inThread_of_read hmerged, hmergedEnvelope, hold,
      decide_eq_true rfl, decide_eq_false fun heq => hne (hold.trans heq.symm)] at hcount
    simp only [if_true, Bool.false_eq_true, if_false] at hcount
    dsimp only
    omega
  | none =>
    cases hthread : message.envelope.threadId with
    | none => exact hne (hold.trans hthread.symm)
    | some threadId =>
      -- no key of the index has the id of the record
      obtain ⟨newKey, hfiled⟩ := hkeyed.filed (Record.get?_set_self _ _ _) hmerged
        (by rw [hmergedEnvelope, hthread])
      obtain ⟨key', hindex, hlast⟩ := hexact.listed hkeyed hfiled
      rw [hmergedEnvelope] at hlast
      obtain ⟨other, _, hother, hsame⟩ := h.filed_of_listed hindex hlast
      have hfound := hother.get? h.keyed
      rw [hsame, MessageDb.getMessage, hfind] at hfound
      obtain rfl := Option.some.inj hfound
      obtain ⟨_, _, _, _, _, hthread', _⟩ := hother
      rw [hold] at hthread'
      cases hthread'

/-- **A message of a thread that is deleted** leaves its session too high. -/
theorem Indexed.delete_of_exact (h : Indexed db)
    (hfind : db.findStoredMessageRecord id = some (key, message))
    (hexact : Exact collation (db.deleteMessage id)) : message.envelope.threadId = none := by
  obtain ⟨value, hget, hid, hread⟩ := of_find hfind
  have hfields : (db.deleteMessage id).messages = db.messages.erase key ∧
      (db.deleteMessage id).sessions = db.sessions := by
    rw [MessageDb.deleteMessage, hfind]
    dsimp only
    split <;> exact ⟨rfl, rfl⟩
  cases hthread : message.envelope.threadId with
  | none => rfl
  | some threadId =>
    obtain ⟨filedKey, hfiled⟩ := h.keyed.filed hget hread hthread
    refine absurd hexact (h.not_exact_of_countP_lt hfiled hfields.2 ?_)
    have hcount := Record.countP_values_erase hget (inThread threadId)
    rw [inThread_of_read hread, hthread, decide_eq_true rfl, if_pos rfl] at hcount
    rw [hfields.1]
    omega

/-- **A put or a deletion is clean** exactly when it leaves every thread exact. -/
theorem Indexed.exact_iff (h : Indexed db) (hop : ∀ id updates, op ≠ .update id updates) :
    Exact collation (db.apply collation op) ↔ Clean db op := by
  refine ⟨fun hexact => ?_, fun hclean => (h.step hclean).exact⟩
  cases op with
  | update id updates => exact absurd rfl (hop id updates)
  | delete id => exact fun key message hfind => h.delete_of_exact hfind hexact
  | put msg =>
    intro message hmsg
    replace hexact : Exact collation (db.store collation msg) := hexact
    rcases store_cases collation db msg with ⟨hnone, _⟩ | ⟨message', key, existing, hmsg', hfind,
      hstore⟩ | ⟨message', hmsg', hfind, hstore⟩
    · rw [hmsg] at hnone
      cases hnone
    · obtain rfl := Option.some.inj (hmsg.symm.trans hmsg')
      rw [hstore] at hexact
      rw [hfind]
      exact h.merge_of_exact hfind (isValid_of_normalize hmsg) hexact
    · obtain rfl := Option.some.inj (hmsg.symm.trans hmsg')
      rw [hstore] at hexact
      rw [hfind]
      exact h.fits_of_exact (isValid_of_normalize hmsg) hfind hexact

/-- **The threads read back** after every sequence of clean operations, and a put or a deletion after
one leaves them exact if and only if it is clean. -/
theorem thread_index_exact (collation : Collation) :
    (∀ ops, CleanRun collation .empty ops → Exact collation (MessageDb.empty.run collation ops)) ∧
    ∀ ops op, CleanRun collation .empty ops → (∀ id updates, op ≠ .update id updates) →
      (Exact collation ((MessageDb.empty.run collation ops).apply collation op) ↔
        Clean (MessageDb.empty.run collation ops) op) :=
  ⟨fun _ hclean => (Indexed.empty.run hclean).exact,
    fun _ _ hclean hop => (Indexed.empty.run hclean).exact_iff hop⟩

/-! ### A few messages -/

/-- **Threads without a colon** are apart, so a message of one fits. -/
theorem fits_of_colon_free
    (hfiled : ∀ other threadId key, Filed db.messages other threadId key → ':' ∉ threadId.toList)
    (hid : ':' ∉ message.envelope.id.toList)
    (hthread : ∀ threadId, message.envelope.threadId = some threadId →
      threadId ≠ "" ∧ ':' ∉ threadId.toList) : Fits db message := by
  intro threadId hown
  obtain ⟨hempty, hcolon⟩ := hthread threadId hown
  refine ⟨hempty, hid, fun other threadId' key' hother hne => ⟨fun hrange => hne ?_,
    fun hrange => hne ?_⟩⟩
  · exact (apart_of_colon_free hcolon (hfiled _ _ _ hother) hrange).symm
  · have hcolon' := hfiled _ _ _ hother
    obtain ⟨_, _, _, _, _, _, rfl⟩ := hother
    exact apart_of_colon_free hcolon' hcolon hrange

def threadedMessage (id threadId : String) : NormalizedMessage :=
  inboundMessage { sampleEnvelope id "did:agent:zAlice" with threadId := some threadId }

/-- The first message of a database is clean. -/
theorem clean_first : Clean .empty (.put (threadedMessage "m1" "t1").toStored) := by
  intro message hmsg
  rw [threadedMessage, normalize_inboundMessage rfl] at hmsg
  obtain rfl := Option.some.inj hmsg
  rw [find_empty]
  refine fits_of_colon_free (fun other threadId key hfiled => ?_) (by decide)
    fun threadId hthread => ?_
  · obtain ⟨_, _, value, hget, _⟩ := hfiled
    rw [MessageDb.empty, Record.get?_empty] at hget
    cases hget
  · obtain rfl := Option.some.inj hthread
    exact ⟨by decide, by decide⟩

theorem messages_first :
    (MessageDb.empty.apply codePointOrder (.put (threadedMessage "m1" "t1").toStored)).messages
      = Record.empty.set (storageKey .inbound "0000000000001000" "m1")
        (threadedMessage "m1" "t1").toStored := by
  show (MessageDb.empty.store codePointOrder _).messages = _
  rw [threadedMessage, store_empty rfl, messages_insertMessage]
  rfl

/-- Two threads with a message each. -/
theorem thread_index_exact_sample :
    Exact codePointOrder (MessageDb.empty.run codePointOrder
      [.put (threadedMessage "m1" "t1").toStored, .put (threadedMessage "m2" "t2").toStored]) := by
  have honly : ∀ key value, (MessageDb.empty.apply codePointOrder
      (.put (threadedMessage "m1" "t1").toStored)).messages.get? key = some value →
      value = (threadedMessage "m1" "t1").toStored := by
    intro key value hget
    rw [messages_first, Record.get?_set] at hget
    split at hget
    · exact (Option.some.inj hget).symm
    · cases hget
  refine (thread_index_exact codePointOrder).1 _ ⟨clean_first, fun message hmsg => ?_, trivial⟩
  have hmessage : message = threadedMessage "m2" "t2" := by
    rw [threadedMessage, normalize_inboundMessage rfl] at hmsg
    exact (Option.some.inj hmsg).symm
  subst hmessage
  cases hfind : (MessageDb.empty.apply codePointOrder (.put
      (threadedMessage "m1" "t1").toStored)).findStoredMessageRecord
        (threadedMessage "m2" "t2").envelope.id with
  | some found =>
    obtain ⟨value, hget, hid, _⟩ := of_find hfind
    rw [honly _ _ hget, envelopeId_toStored] at hid
    exact absurd hid (by decide)
  | none =>
    refine fits_of_colon_free (fun other threadId key hfiled => ?_) (by decide)
      fun threadId hthread => ?_
    · obtain ⟨_, _, value, hget, hread, hthread, _⟩ := hfiled
      rw [honly _ _ hget, threadedMessage, normalize_inboundMessage rfl] at hread
      obtain rfl := Option.some.inj hread
      obtain rfl := Option.some.inj hthread
      decide
    · obtain rfl := Option.some.inj hthread
      exact ⟨by decide, by decide⟩

/-- **A message that is deleted stays counted** by the session of its thread. -/
theorem deleted_message_counted :
    ¬Exact codePointOrder (MessageDb.empty.run codePointOrder
      [.put (threadedMessage "m1" "t1").toStored, .delete "m1"]) := by
  have hindexed : Indexed (MessageDb.empty.apply codePointOrder
      (.put (threadedMessage "m1" "t1").toStored)) := Indexed.empty.step clean_first
  have hread : normalizeStoredMessage (threadedMessage "m1" "t1").toStored
      = some (threadedMessage "m1" "t1") := normalize_inboundMessage rfl
  have hget : (MessageDb.empty.apply codePointOrder
      (.put (threadedMessage "m1" "t1").toStored)).messages.get?
        (storageKey .inbound "0000000000001000" "m1")
      = some (threadedMessage "m1" "t1").toStored := by
    rw [messages_first, Record.get?_set_self]
  have hfind := hindexed.keyed.find hget hread
  intro hexact
  have hnone := hindexed.delete_of_exact hfind hexact
  cases hnone

end QuadraA.Messaging
