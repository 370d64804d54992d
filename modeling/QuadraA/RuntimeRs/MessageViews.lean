import QuadraA.Lib.BoundedLog
import QuadraA.RuntimeRs.EnvelopeBytes
import QuadraA.RuntimeRs.Inbox

/-!
# The inbox and its views

All of a stored message of `inbox.rs`, the calls of `MessageStore`, and what is read from it: the
sessions, the messages of one of them, and the file.

* `InboxMessage`, `Inbox.call` — a stored message with what is displayed of it, and the calls;
* `message_store_invariant` — all of it after any calls.

What `serde_json` writes and reads is a parameter, and so is the order in which a hash map gives its
values.
-/

namespace QuadraA.RuntimeRs

open QuadraA.Lib

/-! ### Messages -/

/-- **A stored message.**  `sender` and `recipient` are the source's `from` and `to`. -/
structure InboxMessage extends StoredMessage where
  sender : String
  recipient : String
  envelope : SerdeValue
  timestamp : ℕ
  threadId : Option String
  read : Bool

structure SessionSummary where
  threadId : String
  peerDid : String
  startedAt : ℕ
  lastMessageAt : ℕ
  messageCount : ℕ
  title : String

namespace InboxMessage

/-- What a store tells messages apart by. -/
def key (message : InboxMessage) : String × MessageDirection := (message.id, message.direction)

def peerDid (message : InboxMessage) : String :=
  match message.direction with
  | .inbound => message.sender
  | .outbound => message.recipient

def effectiveThreadId (message : InboxMessage) : String :=
  message.threadId.getD ("direct:" ++ message.peerDid)

end InboxMessage

def payloadText (payload : Option SerdeValue) : Option String :=
  payload.bind fun payload =>
    match (getField payload "text").or (getField payload "message") with
    | some (.string text) => some text
    | _ => none

def sessionTitle (message : InboxMessage) : String :=
  match payloadText (getField message.envelope "payload") with
  | some text =>
      if 60 < text.length then String.ofList (text.toList.take 60) ++ "..." else text
  | none => "Conversation with " ++ message.peerDid

/-! ### The inbox -/

structure Inbox where
  messages : List InboxMessage
  maxMessages : ℕ

def DEFAULT_MAX_STORED_MESSAGES : ℕ := 1000

namespace Inbox

def new (maxMessages : ℕ) : Inbox := { messages := [], maxMessages := max maxMessages 1 }

def keys (inbox : Inbox) : List (String × MessageDirection) := inbox.messages.map InboxMessage.key

/-- Change the deliveries of the first message with this identifier and direction. -/
def modify (inbox : Inbox) (id : String) (direction : MessageDirection)
    (f : StoredMessage → StoredMessage) : Inbox :=
  { inbox with
    messages := inbox.messages.replaceF fun message =>
      if message.Is id direction then
        some { message with toStoredMessage := f message.toStoredMessage }
      else none }

def isStored (inbox : Inbox) (id : String) (direction : MessageDirection) : Bool :=
  inbox.messages.any fun message => message.Is id direction

def store (inbox : Inbox) (message : InboxMessage) : Inbox :=
  if inbox.isStored message.id message.direction then
    inbox.modify message.id message.direction fun existing =>
      mergeMessageE2E existing message.e2e
  else { inbox with messages := pushBounded inbox.maxMessages inbox.messages message }

def markRead (inbox : Inbox) (messageId : String) : Inbox × Bool :=
  ({ inbox with
      messages := inbox.messages.map fun message =>
        if message.id = messageId then { message with read := true } else message },
    inbox.messages.any fun message => message.id = messageId)

/-- A message that `remove_inbound_from` retains. -/
def isRetained (did : String) (message : InboxMessage) : Bool :=
  !(decide (message.direction = .inbound) && decide (message.sender = did))

def removeInboundFrom (inbox : Inbox) (did : String) : Inbox × ℕ :=
  let retained := inbox.messages.filter (isRetained did)
  ({ inbox with messages := retained }, inbox.messages.length - retained.length)

def upsertE2EDelivery (inbox : Inbox) (messageId : String) (direction : MessageDirection)
    (delivery : E2EDeliveryMetadata) : Inbox × Bool :=
  (inbox.modify messageId direction fun message =>
      mergeMessageE2E message (some ⟨[delivery], none⟩),
    inbox.isStored messageId direction)

def upsertE2ERetry (inbox : Inbox) (messageId : String) (direction : MessageDirection)
    (retry : E2ERetryMetadata) : Inbox × Bool :=
  (inbox.modify messageId direction fun message =>
      mergeMessageE2E message (some ⟨[], some retry⟩),
    inbox.isStored messageId direction)

def updateE2EDeliveryByTransportMessageId (inbox : Inbox) (transportMessageId : String)
    (state : E2EDeliveryState) (recordedAt : ℕ) (error : Option String) : Inbox × Bool :=
  ({ inbox with
      messages := inbox.messages.replaceF fun message =>
        (message.report? transportMessageId state recordedAt error).map fun reported =>
          { message with toStoredMessage := reported } },
    inbox.messages.any fun message => (message.carrying? transportMessageId).isSome)

/-! ### The views -/

/-- One round of the loop of `session_summaries`. -/
def summarize (sessions : Record String SessionSummary) (message : InboxMessage) :
    Record String SessionSummary :=
  let threadId := message.effectiveThreadId
  let entry := (sessions.get? threadId).getD
    { threadId := threadId
      peerDid := message.peerDid
      startedAt := message.timestamp
      lastMessageAt := message.timestamp
      messageCount := 0
      title := sessionTitle message }
  sessions.set threadId
    { threadId := entry.threadId
      peerDid := message.peerDid
      startedAt := min entry.startedAt message.timestamp
      lastMessageAt := max entry.lastMessageAt message.timestamp
      messageCount := entry.messageCount + 1
      title :=
        if "Conversation with".toList.isPrefixOf entry.title.toList then sessionTitle message
        else entry.title }

/-- `session_summaries`, with what a hash map gives as its values. -/
def sessionSummaries (intoValues : Record String SessionSummary → List SessionSummary)
    (inbox : Inbox) (peerFilter : Option String) : List SessionSummary :=
  let messages := inbox.messages.filter fun message =>
    peerFilter.all fun peer => decide (message.peerDid = peer)
  (intoValues (messages.foldl summarize .empty)).mergeSort fun left right =>
    decide (right.lastMessageAt ≤ left.lastMessageAt)

/-- The page, and how many messages the session has. -/
def sessionMessages (inbox : Inbox) (threadId : String) (limit : ℕ) : List InboxMessage × ℕ :=
  let messages := (inbox.messages.filter fun message =>
    decide (message.effectiveThreadId = threadId)).mergeSort fun left right =>
      decide (left.timestamp ≤ right.timestamp)
  (messages.drop (messages.length - limit), messages.length)

end Inbox

/-! ### The file -/

structure PersistedMessageStore where
  messages : List InboxMessage
  maxMessages : ℕ

/-- What `serde_json` and the paths do. -/
structure StoreFormat (Path Bytes : Type) where
  toVecPretty : PersistedMessageStore → Bytes
  fromSlice : Bytes → Option PersistedMessageStore
  withExtensionTmp : Path → Path

section

variable {Path Bytes : Type} [DecidableEq Path]

/-- The files that there are. -/
abbrev Disk (Path Bytes : Type) := Path → Option Bytes

/-- Write the temporary file, and rename it. -/
def Inbox.saveToPath (format : StoreFormat Path Bytes) (inbox : Inbox) (disk : Disk Path Bytes)
    (path : Path) : Disk Path Bytes :=
  let bytes := format.toVecPretty ⟨inbox.messages, inbox.maxMessages⟩
  let tempPath := format.withExtensionTmp path
  let written := Function.update disk tempPath (some bytes)
  Function.update (Function.update written tempPath none) path (written tempPath)

def Inbox.loadFromPath (format : StoreFormat Path Bytes) (disk : Disk Path Bytes) (path : Path) :
    Except String Inbox :=
  match disk path with
  | none => .ok (Inbox.new DEFAULT_MAX_STORED_MESSAGES)
  | some bytes =>
      match format.fromSlice bytes with
      | none => .error "Failed to parse"
      | some persisted =>
          .ok (persisted.messages.foldl Inbox.store (Inbox.new persisted.maxMessages))

end

/-! ### Any calls -/

inductive InboxCall where
  | store (message : InboxMessage)
  | markRead (messageId : String)
  | removeInboundFrom (did : String)
  | upsertE2EDelivery (messageId : String) (direction : MessageDirection)
      (delivery : E2EDeliveryMetadata)
  | upsertE2ERetry (messageId : String) (direction : MessageDirection) (retry : E2ERetryMetadata)
  | updateE2EDelivery (transportMessageId : String) (state : E2EDeliveryState) (recordedAt : ℕ)
      (error : Option String)

namespace Inbox

def call (inbox : Inbox) : InboxCall → Inbox
  | .store message => inbox.store message
  | .markRead messageId => (inbox.markRead messageId).1
  | .removeInboundFrom did => (inbox.removeInboundFrom did).1
  | .upsertE2EDelivery messageId direction delivery =>
      (inbox.upsertE2EDelivery messageId direction delivery).1
  | .upsertE2ERetry messageId direction retry => (inbox.upsertE2ERetry messageId direction retry).1
  | .updateE2EDelivery transportMessageId state recordedAt error =>
      (inbox.updateE2EDeliveryByTransportMessageId transportMessageId state recordedAt error).1

/-- **The order in which the messages came**: one that is not stored comes last, and those that are
removed are not in it any more. -/
def orderAfter (inbox : Inbox) (order : List (String × MessageDirection)) :
    InboxCall → List (String × MessageDirection)
  | .store message => if message.key ∈ inbox.keys then order else latest order message.key
  | .removeInboundFrom did =>
      without order
        ((inbox.messages.filter fun message => !isRetained did message).map InboxMessage.key)
  | _ => order

/-- **Any calls**, with the order in which the messages came. -/
def run (maxMessages : ℕ) (calls : List InboxCall) :
    Inbox × List (String × MessageDirection) :=
  calls.foldl (fun s c => (s.1.call c, s.1.orderAfter s.2 c)) (new maxMessages, [])

variable {inbox : Inbox} {message : InboxMessage} {order : List (String × MessageDirection)}

/-! ### A bounded log -/

theorem isStored_iff : inbox.isStored message.id message.direction = true ↔
    message.key ∈ inbox.keys := by
  rw [isStored, List.any_eq_true, keys, List.mem_map]
  constructor
  · rintro ⟨existing, hmem, his⟩
    obtain ⟨hid, hdirection⟩ := of_decide_eq_true his
    exact ⟨existing, hmem, Prod.ext hid hdirection⟩
  · rintro ⟨existing, hmem, hkey⟩
    exact ⟨existing, hmem, decide_eq_true (Prod.mk.inj hkey)⟩

theorem keys_modify (inbox : Inbox) (id : String) (direction : MessageDirection)
    {f : StoredMessage → StoredMessage}
    (hf : ∀ message, (f message).id = message.id ∧ (f message).direction = message.direction) :
    (inbox.modify id direction f).keys = inbox.keys := by
  refine map_replaceF_of_same (fun message message' hmessage => ?_) inbox.messages
  split at hmessage
  · obtain rfl := Option.some.inj hmessage
    exact Prod.ext (hf message.toStoredMessage).1 (hf message.toStoredMessage).2
  · cases hmessage

theorem key_mergeMessageE2E (message : StoredMessage) (incoming : Option StoredMessageE2EMetadata) :
    (mergeMessageE2E message incoming).id = message.id ∧
      (mergeMessageE2E message incoming).direction = message.direction := by
  cases incoming <;> exact ⟨rfl, rfl⟩

/-- **Each call keeps the inbox a bounded log**, and its bound. -/
theorem boundedLog_call (h : BoundedLog InboxMessage.key inbox.maxMessages order inbox.messages)
    (c : InboxCall) :
    (inbox.call c).maxMessages = inbox.maxMessages ∧
      BoundedLog InboxMessage.key inbox.maxMessages (inbox.orderAfter order c)
        (inbox.call c).messages := by
  cases c with
  | store message =>
    show (inbox.store message).maxMessages = _ ∧ BoundedLog _ _
      (if message.key ∈ inbox.keys then order else latest order message.key)
      (inbox.store message).messages
    rw [store]
    split
    · rename_i hstored
      rw [if_pos (isStored_iff.mp hstored)]
      exact ⟨rfl, h.of_keys (keys_modify _ _ _ fun existing => key_mergeMessageE2E existing _)⟩
    · rename_i hstored
      have hnew : message.key ∉ inbox.keys := fun hmem => hstored (isStored_iff.mpr hmem)
      rw [if_neg hnew]
      exact ⟨rfl, h.push hnew⟩
  | markRead messageId =>
    refine ⟨rfl, h.of_keys ?_⟩
    show (inbox.messages.map _).map InboxMessage.key = _
    rw [List.map_map]
    refine List.map_congr_left fun message _ => ?_
    rw [Function.comp_apply]
    split <;> rfl
  | removeInboundFrom did => exact ⟨rfl, h.filter (isRetained did)⟩
  | upsertE2EDelivery messageId direction delivery =>
    exact ⟨rfl, h.of_keys (keys_modify _ _ _ fun existing => key_mergeMessageE2E existing _)⟩
  | upsertE2ERetry messageId direction retry =>
    exact ⟨rfl, h.of_keys (keys_modify _ _ _ fun existing => key_mergeMessageE2E existing _)⟩
  | updateE2EDelivery transportMessageId state recordedAt error =>
    refine ⟨rfl, h.of_keys (map_replaceF_of_same (fun message message' hmessage => ?_) _)⟩
    obtain ⟨reported, hreport, rfl⟩ := Option.map_eq_some_iff.mp hmessage
    obtain ⟨hid, hdirection⟩ := StoredMessage.is_report hreport
    exact Prod.ext hid hdirection

theorem boundedLog_run (maxMessages : ℕ) (calls : List InboxCall) :
    (run maxMessages calls).1.maxMessages = max maxMessages 1 ∧
      BoundedLog InboxMessage.key (max maxMessages 1) (run maxMessages calls).2
        (run maxMessages calls).1.messages := by
  induction calls using List.reverseRecOn with
  | nil => exact ⟨rfl, .nil _ _⟩
  | append_singleton calls c ih =>
    obtain ⟨hmax, hlog⟩ := ih
    rw [← hmax] at hlog
    have hcall := boundedLog_call hlog c
    rw [hmax] at hcall
    rw [run, List.foldl_append, List.foldl_cons, List.foldl_nil, ← run]
    exact hcall

/-- **A new message** goes to the end, and a full inbox loses the oldest one for it. -/
theorem keys_store_of_new (hnew : message.key ∉ inbox.keys)
    (hlength : inbox.messages.length ≤ inbox.maxMessages) (hmax : 0 < inbox.maxMessages) :
    (inbox.store message).keys
      = (if inbox.messages.length < inbox.maxMessages then inbox.keys else inbox.keys.tail)
        ++ [message.key] := by
  rw [store, if_neg fun hstored => hnew (isStored_iff.mp hstored)]
  show (pushBounded _ inbox.messages message).map InboxMessage.key = _
  split
  · rename_i hlt
    rw [pushBounded_of_lt hlt, List.map_append]
    rfl
  · rename_i hfull
    rw [pushBounded_of_full (by omega) hmax, List.map_append, List.map_tail]
    rfl

end Inbox

/-! ### Sessions -/

/-- The times of the messages of a session. -/
def timestampsOf (threadId : String) (messages : List InboxMessage) : List ℕ :=
  (messages.filter fun message => decide (message.effectiveThreadId = threadId)).map
    InboxMessage.timestamp

/-- **What a summary says** of the times of its messages. -/
structure Summarizes (summary : SessionSummary) (times : List ℕ) : Prop where
  count : summary.messageCount = times.length
  first : summary.startedAt ∈ times ∧ ∀ time ∈ times, summary.startedAt ≤ time
  last : summary.lastMessageAt ∈ times ∧ ∀ time ∈ times, time ≤ summary.lastMessageAt

/-- **Each session has its summary**, and only a session has one. -/
def SummarizesAll (sessions : Record String SessionSummary) (messages : List InboxMessage) : Prop :=
  ∀ threadId, match sessions.get? threadId with
    | none => timestampsOf threadId messages = []
    | some summary =>
        summary.threadId = threadId ∧ Summarizes summary (timestampsOf threadId messages)

variable {sessions : Record String SessionSummary} {messages : List InboxMessage}

theorem timestampsOf_append (threadId : String) (messages : List InboxMessage)
    (message : InboxMessage) :
    timestampsOf threadId (messages ++ [message]) = timestampsOf threadId messages ++
      if message.effectiveThreadId = threadId then [message.timestamp] else [] := by
  rw [timestampsOf, List.filter_append, List.map_append, ← timestampsOf]
  congr 1
  split
  · rename_i hthread
    simp [hthread]
  · rename_i hthread
    simp [hthread]

/-- **One message more** in each summary of its session. -/
theorem SummarizesAll.summarize (h : SummarizesAll sessions messages) (message : InboxMessage) :
    SummarizesAll (Inbox.summarize sessions message) (messages ++ [message]) := by
  intro threadId
  have hthread := h threadId
  rw [timestampsOf_append, Inbox.summarize, Record.get?_set]
  by_cases hsame : message.effectiveThreadId = threadId
  · rw [if_pos hsame, if_pos hsame, hsame]
    cases hget : sessions.get? threadId with
    | none =>
      rw [hget] at hthread
      dsimp only at hthread ⊢
      rw [hthread, Option.getD_none]
      refine ⟨rfl, rfl, ?_, ?_⟩
      · simp
      · simp
    | some summary =>
      rw [hget] at hthread
      obtain ⟨hid, hcount, hfirst, hlast⟩ := hthread
      rw [Option.getD_some]
      refine ⟨hid, ?_, ⟨?_, fun time htime => ?_⟩, ?_, fun time htime => ?_⟩
      · rw [List.length_append, ← hcount]
        rfl
      · show min summary.startedAt message.timestamp ∈ _
        rcases min_choice summary.startedAt message.timestamp with hmin | hmin
        · rw [hmin]
          exact List.mem_append_left _ hfirst.1
        · rw [hmin]
          exact List.mem_append_right _ List.mem_cons_self
      · show min summary.startedAt message.timestamp ≤ time
        rcases List.mem_append.mp htime with hold | hnew
        · exact (min_le_left _ _).trans (hfirst.2 time hold)
        · rw [List.mem_singleton.mp hnew]
          exact min_le_right _ _
      · show max summary.lastMessageAt message.timestamp ∈ _
        rcases max_choice summary.lastMessageAt message.timestamp with hmax | hmax
        · rw [hmax]
          exact List.mem_append_left _ hlast.1
        · rw [hmax]
          exact List.mem_append_right _ List.mem_cons_self
      · show time ≤ max summary.lastMessageAt message.timestamp
        rcases List.mem_append.mp htime with hold | hnew
        · exact (hlast.2 time hold).trans (le_max_left _ _)
        · rw [List.mem_singleton.mp hnew]
          exact le_max_right _ _
  · rw [if_neg hsame, if_neg hsame, List.append_nil]
    exact hthread

theorem summarizesAll_foldl (messages : List InboxMessage) :
    SummarizesAll (messages.foldl Inbox.summarize .empty) messages := by
  induction messages using List.reverseRecOn with
  | nil => exact fun _ => rfl
  | append_singleton messages message ih =>
    rw [List.foldl_append, List.foldl_cons, List.foldl_nil]
    exact ih.summarize message

namespace Inbox

variable {inbox : Inbox} {order : List (String × MessageDirection)}

theorem sessionMessages_snd (inbox : Inbox) (threadId : String) (limit : ℕ) :
    (inbox.sessionMessages threadId limit).2 = (timestampsOf threadId inbox.messages).length := by
  show (List.mergeSort _ _).length = _
  rw [List.length_mergeSort, timestampsOf, List.length_map]

/-- A page that is long enough has all messages of the session. -/
theorem sessionMessages_perm {threadId : String} {limit : ℕ}
    (hlimit : (inbox.sessionMessages threadId limit).2 ≤ limit) :
    ((inbox.sessionMessages threadId limit).1.map InboxMessage.timestamp).Perm
      (timestampsOf threadId inbox.messages) := by
  have hall : (inbox.sessionMessages threadId limit).1
      = (inbox.messages.filter fun message =>
          decide (message.effectiveThreadId = threadId)).mergeSort fun left right =>
            decide (left.timestamp ≤ right.timestamp) := by
    show List.drop ((inbox.sessionMessages threadId limit).2 - limit) _ = _
    rw [Nat.sub_eq_zero_of_le hlimit, List.drop_zero]
  rw [hall]
  exact (List.mergeSort_perm _ _).map _

/-- **The sessions agree with their messages**: a session has one summary, with how many messages it
has and when the first and the last of them were. -/
theorem sessionSummaries_agree
    {intoValues : Record String SessionSummary → List SessionSummary}
    (hvalues : ∀ sessions, (intoValues sessions).Perm sessions.values) (inbox : Inbox) :
    ((inbox.sessionSummaries intoValues none).map SessionSummary.threadId).Nodup ∧
      ∀ (threadId : String) (limit : ℕ),
        let session := inbox.sessionMessages threadId limit
        ((∃ summary ∈ inbox.sessionSummaries intoValues none, summary.threadId = threadId) ↔
            session.2 ≠ 0) ∧
          ∀ summary ∈ inbox.sessionSummaries intoValues none, summary.threadId = threadId →
            summary.messageCount = session.2 ∧
              (session.2 ≤ limit →
                (session.1.map InboxMessage.timestamp).min? = some summary.startedAt ∧
                  (session.1.map InboxMessage.timestamp).max? = some summary.lastMessageAt) := by
  have hall := summarizesAll_foldl inbox.messages
  generalize hsessions : inbox.messages.foldl summarize .empty = sessions at hall
  have hperm : (inbox.sessionSummaries intoValues none).Perm sessions.values := by
    have hfilter : (inbox.messages.filter fun message =>
        (none : Option String).all fun peer => decide (message.peerDid = peer))
          = inbox.messages := List.filter_eq_self.mpr fun _ _ => rfl
    rw [sessionSummaries, hfilter, hsessions]
    exact (List.mergeSort_perm _ _).trans (hvalues sessions)
  have hget : ∀ summary, summary ∈ inbox.sessionSummaries intoValues none ↔
      sessions.get? summary.threadId = some summary := by
    intro summary
    rw [hperm.mem_iff, Record.mem_values_iff]
    refine ⟨fun ⟨key, hkey⟩ => ?_, fun hkey => ⟨_, hkey⟩⟩
    have hthread := hall key
    rw [hkey] at hthread
    rw [hthread.1]
    exact hkey
  refine ⟨?_, fun threadId limit => ⟨?_, fun summary hsummary hthreadId => ?_⟩⟩
  · have hkeys : sessions.values.map SessionSummary.threadId = sessions.keys := by
      rw [Record.values, Record.keys, List.map_map]
      refine List.map_congr_left fun entry hentry => ?_
      have hthread := hall entry.1
      rw [(Record.get?_eq_some_iff sessions entry.1 entry.2).mpr hentry] at hthread
      exact hthread.1
    rw [(hperm.map _).nodup_iff, hkeys]
    exact sessions.nodupKeys
  · have hthread := hall threadId
    rw [sessionMessages_snd, Ne, List.length_eq_zero_iff]
    constructor
    · rintro ⟨summary, hsummary, rfl⟩ hnone
      rw [(hget summary).mp hsummary, hnone] at hthread
      exact absurd hthread.2.first.1 List.not_mem_nil
    · intro hsome
      cases hsession : sessions.get? threadId with
      | none =>
        rw [hsession] at hthread
        exact absurd hthread hsome
      | some summary =>
        rw [hsession] at hthread
        refine ⟨summary, (hget summary).mpr ?_, hthread.1⟩
        rw [hthread.1]
        exact hsession
  · have hthread := hall threadId
    rw [← hthreadId, (hget summary).mp hsummary, hthreadId] at hthread
    obtain ⟨-, hcount, hfirst, hlast⟩ := hthread
    refine ⟨hcount.trans (sessionMessages_snd inbox threadId limit).symm, fun hlimit => ?_⟩
    have htimes := sessionMessages_perm hlimit
    rw [List.min?_eq_some_iff, List.max?_eq_some_iff]
    exact ⟨⟨htimes.mem_iff.mpr hfirst.1, fun time htime => hfirst.2 time (htimes.mem_iff.mp htime)⟩,
      htimes.mem_iff.mpr hlast.1, fun time htime => hlast.2 time (htimes.mem_iff.mp htime)⟩

/-! ### The file again -/

/-- **Storing messages** with distinct keys, one after the other, makes the inbox that has them. -/
theorem foldl_store {maxMessages : ℕ} {messages : List InboxMessage}
    (hnodup : (messages.map InboxMessage.key).Nodup) (hlength : messages.length ≤ maxMessages) :
    messages.foldl store ⟨[], maxMessages⟩ = ⟨messages, maxMessages⟩ := by
  induction messages using List.reverseRecOn with
  | nil => rfl
  | append_singleton messages message ih =>
    rw [List.map_append, List.nodup_append] at hnodup
    rw [List.length_append, List.length_singleton] at hlength
    rw [List.foldl_append, List.foldl_cons, List.foldl_nil, ih hnodup.1 (by omega)]
    have hnew : message.key ∉ (Inbox.mk messages maxMessages).keys := fun hmem =>
      hnodup.2.2 _ hmem message.key List.mem_cons_self rfl
    rw [store, if_neg fun hstored => hnew (isStored_iff.mp hstored)]
    exact congrArg (Inbox.mk · maxMessages) (pushBounded_of_lt hlength message)

/-- **An inbox that is saved is loaded again.** -/
theorem load_save {Path Bytes : Type} [DecidableEq Path] {format : StoreFormat Path Bytes}
    (hformat : ∀ persisted, format.fromSlice (format.toVecPretty persisted) = some persisted)
    (h : BoundedLog InboxMessage.key inbox.maxMessages order inbox.messages)
    (hmax : 0 < inbox.maxMessages) (disk : Disk Path Bytes) (path : Path) :
    loadFromPath format (inbox.saveToPath format disk path) path = .ok inbox := by
  have hfile : inbox.saveToPath format disk path path
      = some (format.toVecPretty ⟨inbox.messages, inbox.maxMessages⟩) := by
    rw [saveToPath, Function.update_self, Function.update_self]
  have hnew : Inbox.new inbox.maxMessages = ⟨[], inbox.maxMessages⟩ :=
    congrArg (Inbox.mk []) (max_eq_left hmax)
  rw [loadFromPath, hfile]
  dsimp only
  rw [hformat]
  dsimp only
  rw [hnew]
  exact congrArg Except.ok (foldl_store h.nodup h.length_le)

end Inbox

/-! ### After any calls -/

/-- **The inbox after any calls**: it is within its bound and has a message once; its messages are
the latest that came and were not removed, and a new one takes the place of the oldest where it is
full; the sessions agree with their messages; and what is saved is loaded again. -/
theorem message_store_invariant {Path Bytes : Type} [DecidableEq Path]
    (format : StoreFormat Path Bytes)
    (hformat : ∀ persisted, format.fromSlice (format.toVecPretty persisted) = some persisted)
    (intoValues : Record String SessionSummary → List SessionSummary)
    (hvalues : ∀ sessions, (intoValues sessions).Perm sessions.values)
    (maxMessages : ℕ) (calls : List InboxCall) :
    let inbox := (Inbox.run maxMessages calls).1
    (inbox.messages.length ≤ max maxMessages 1 ∧ inbox.keys.Nodup) ∧
      (inbox.keys <:+ (Inbox.run maxMessages calls).2 ∧
        ∀ message : InboxMessage, message.key ∉ inbox.keys →
          (inbox.store message).keys
            = (if inbox.messages.length < max maxMessages 1 then inbox.keys else inbox.keys.tail)
              ++ [message.key]) ∧
      (((inbox.sessionSummaries intoValues none).map SessionSummary.threadId).Nodup ∧
        ∀ (threadId : String) (limit : ℕ),
          let session := inbox.sessionMessages threadId limit
          ((∃ summary ∈ inbox.sessionSummaries intoValues none, summary.threadId = threadId) ↔
              session.2 ≠ 0) ∧
            ∀ summary ∈ inbox.sessionSummaries intoValues none, summary.threadId = threadId →
              summary.messageCount = session.2 ∧
                (session.2 ≤ limit →
                  (session.1.map InboxMessage.timestamp).min? = some summary.startedAt ∧
                    (session.1.map InboxMessage.timestamp).max? = some summary.lastMessageAt)) ∧
      ∀ (disk : Disk Path Bytes) (path : Path),
        Inbox.loadFromPath format (inbox.saveToPath format disk path) path = .ok inbox := by
  intro inbox
  obtain ⟨hmax, hlog⟩ := Inbox.boundedLog_run maxMessages calls
  have hpos : 0 < inbox.maxMessages := hmax ▸ lt_max_of_lt_right one_pos
  refine ⟨⟨hlog.length_le, hlog.nodup⟩, ⟨hlog.suffix, fun message hnew => ?_⟩,
    Inbox.sessionSummaries_agree hvalues inbox, fun disk path => ?_⟩
  · rw [← hmax]
    exact Inbox.keys_store_of_new hnew (hmax ▸ hlog.length_le) hpos
  · rw [← hmax] at hlog
    exact Inbox.load_save hformat hlog hpos disk path

/-- A format whose bytes are what is saved. -/
def plainFormat : StoreFormat String PersistedMessageStore where
  toVecPretty := id
  fromSlice := some
  withExtensionTmp path := path ++ ".tmp"

def sampleMessage (id : String) (timestamp : ℕ) : InboxMessage where
  id := id
  direction := .inbound
  e2e := none
  sender := "did:agent:alice"
  recipient := "did:agent:me"
  envelope := .object [("payload", .object [("text", .string "hello")])]
  timestamp := timestamp
  threadId := none
  read := false

/-- Three messages in an inbox for two, the first of them twice. -/
theorem message_store_invariant_sample :
    let calls : List InboxCall := [.store (sampleMessage "msg-1" 10),
      .store (sampleMessage "msg-2" 30), .store (sampleMessage "msg-1" 40), .markRead "msg-2",
      .store (sampleMessage "msg-3" 20)]
    let inbox := (Inbox.run 2 calls).1
    inbox.keys = [("msg-2", .inbound), ("msg-3", .inbound)] ∧ inbox.messages.length ≤ max 2 1 ∧
      Inbox.loadFromPath plainFormat (inbox.saveToPath plainFormat (fun _ => none) "inbox.json")
        "inbox.json" = .ok inbox := by
  intro calls inbox
  obtain ⟨⟨hlength, -⟩, -, -, hload⟩ := message_store_invariant plainFormat (fun _ => rfl)
    Record.values (fun _ => List.Perm.refl _) 2 calls
  exact ⟨by decide +kernel, hlength, hload (fun _ => none) "inbox.json"⟩

end QuadraA.RuntimeRs
