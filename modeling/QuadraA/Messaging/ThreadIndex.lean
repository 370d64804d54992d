import QuadraA.Messaging.MessageStorage

/-!
# The index of the threads

What `queryMessagesByThread` finds, in a database whose index has one key for each message of a
thread.

* `Filed` — a message of a thread that is stored, with its key of the index;
* `Indexed.exact` — an indexed database is exact.

A thread is one that a stored message has, or a session.
-/

set_option linter.unusedSectionVars false

namespace QuadraA.Messaging

open QuadraA.Lib

/-- A message of a thread that is stored, with its key of the index. -/
def Filed (messages : Record String (StoredMessage JsonValue)) (message : NormalizedMessage)
    (threadId key : String) : Prop :=
  ∃ direction timestamp value,
    messages.get? (storageKey direction (timestampSegment timestamp) message.envelope.id)
      = some value ∧
    normalizeStoredMessage value = some message ∧ message.envelope.threadId = some threadId ∧
    key = threadIndexKey threadId (timestampSegment timestamp) message.envelope.id

/-- The record is that of a message of the thread. -/
def inThread (threadId : String) (value : StoredMessage JsonValue) : Bool :=
  (normalizeStoredMessage value).any fun message =>
    decide (message.envelope.threadId = some threadId)

/-- `getSession(threadId).messageCount`, and 0 without a session. -/
def MessageDb.sessionCount (db : MessageDb) (threadId : String) : ℕ :=
  ((db.getSession threadId).map fun session => session.messageCount).getD 0

/-- **The index is that of the messages.** -/
structure Indexed (db : MessageDb) : Prop where
  keyed : Keyed db.messages
  index : ∀ key, db.threadIndex.get? key = some () ↔
    ∃ message threadId, Filed db.messages message threadId key
  named : ∀ message threadId key, Filed db.messages message threadId key →
    threadId ≠ "" ∧ ':' ∉ message.envelope.id.toList
  apart : ∀ message threadId key message' threadId' key',
    Filed db.messages message threadId key → Filed db.messages message' threadId' key' →
      InPrefixRange (threadPrefix threadId') RANGE_END key → threadId = threadId'
  counted : ∀ threadId,
    db.sessionCount threadId = db.messages.values.countP (inThread threadId)
  positive : ∀ threadId session, db.getSession threadId = some session → 0 < session.messageCount

/-! ### Reading a thread -/

/-- The thread is that of a stored message, or has a session. -/
def MessageDb.IsThread (db : MessageDb) (threadId : String) : Prop :=
  (∃ message key, Filed db.messages message threadId key) ∨ (db.getSession threadId).isSome = true

/-- The stored messages of a thread. -/
def MessageDb.storedThread (db : MessageDb) (threadId : String) : List NormalizedMessage :=
  (db.messages.values.filterMap normalizeStoredMessage).filter fun message =>
    decide (message.envelope.threadId = some threadId)

/-- **Consecutive pages**, from an offset on until no more messages are left. -/
def MessageDb.readThread (collation : Collation) (db : MessageDb) (threadId : String)
    (limit : ℕ) : ℕ → ℕ → List NormalizedMessage
  | 0, _ => []
  | fuel + 1, offset =>
      let page := db.queryMessagesByThread collation threadId limit offset
      if page.hasMore then
        page.messages ++ db.readThread collation threadId limit fuel (offset + page.messages.length)
      else page.messages

/-- All pages of a thread. -/
def MessageDb.allPages (collation : Collation) (db : MessageDb) (threadId : String)
    (limit : ℕ) : List NormalizedMessage :=
  db.readThread collation threadId limit ((db.threadMessages collation threadId).length + 1) 0

/-- **Every thread reads back**: its pages have the stored messages of the thread, each once and in
order, and its session counts them. -/
def Exact (collation : Collation) (db : MessageDb) : Prop :=
  ∀ threadId, db.IsThread threadId →
    (∀ limit, 0 < limit →
      (db.allPages collation threadId limit).Perm (db.storedThread threadId) ∧
      (db.allPages collation threadId limit).Pairwise fun left right =>
        (compareMessagesBySortTimestamp collation left right).isLE = true) ∧
    db.sessionCount threadId = (db.storedThread threadId).length

variable {collation : Collation} {db : MessageDb}
  {messages : Record String (StoredMessage JsonValue)} {message message' : NormalizedMessage}
  {value : StoredMessage JsonValue} {threadId threadId' key key' id : String}

theorem readThread_eq (db : MessageDb) (threadId : String) {limit : ℕ} (hlimit : 0 < limit)
    {fuel offset : ℕ} (hfuel : (db.threadMessages collation threadId).length < fuel + offset) :
    db.readThread collation threadId limit fuel offset
      = (db.threadMessages collation threadId).drop offset := by
  induction fuel generalizing offset with
  | zero => rw [MessageDb.readThread, List.drop_of_length_le (by omega)]
  | succ fuel ih =>
    rw [MessageDb.readThread, MessageDb.queryMessagesByThread]
    dsimp only
    rw [List.length_take, List.length_drop]
    split
    · rename_i hmore
      rw [decide_eq_true_eq] at hmore
      have hstep : min limit ((db.threadMessages collation threadId).length - offset) = limit := by
        omega
      simp only [hstep]
      rw [ih (by omega), ← List.drop_drop, List.take_append_drop]
    · rename_i hmore
      rw [decide_eq_true_eq] at hmore
      refine List.take_of_length_le ?_
      rw [List.length_drop]
      omega

/-- **All pages are the messages of the thread.** -/
theorem allPages_eq (db : MessageDb) (threadId : String) {limit : ℕ} (hlimit : 0 < limit) :
    db.allPages collation threadId limit = db.threadMessages collation threadId :=
  readThread_eq db threadId hlimit (by omega)

theorem pairwise_threadMessages (db : MessageDb) (threadId : String) :
    (db.threadMessages collation threadId).Pairwise fun left right =>
      (compareMessagesBySortTimestamp collation left right).isLE = true := by
  have hcmp := transCmp_compareMessages collation
  rw [MessageDb.threadMessages]
  refine @List.pairwise_mergeSort _
    (fun left right => (compareMessagesBySortTimestamp collation left right).isLE)
    (fun a b c hab hbc => hcmp.isLE_trans hab hbc) (fun a b => ?_) _
  have hswap := hcmp.eq_swap (a := a) (b := b)
  rw [hswap]
  cases compareMessagesBySortTimestamp collation b a <;> rfl

theorem mem_threadMessages : message ∈ db.threadMessages collation threadId ↔
    ∃ id ∈ db.threadMessageIds threadId, db.getMessage id = some message := by
  rw [MessageDb.threadMessages, List.mem_mergeSort, List.mem_filterMap]

/-! ### Keys of the index -/

theorem toList_threadIndexKey (threadId ts id : String) :
    (threadIndexKey threadId ts id).toList
      = (threadPrefix threadId ++ ts).toList ++ ':' :: id.toList := by
  simp [threadIndexKey]

/-- A key is in the range of its own thread. -/
theorem inPrefixRange_threadIndexKey (threadId : String) (timestamp : ℕ) (id : String) :
    InPrefixRange (threadPrefix threadId) RANGE_END
      (threadIndexKey threadId (timestampSegment timestamp) id) := by
  obtain ⟨c, rest, hts, hc⟩ := timestampSegment_cons timestamp
  rw [threadIndexKey]
  refine inPrefixRange_append (c := c) (t := rest ++ (":" ++ id).toList) ?_ hc
  rw [String.append_assoc, String.toList_append, hts, List.cons_append]

/-- **Threads without a colon are apart.** -/
theorem apart_of_colon_free {ts : String} (hthread : ':' ∉ threadId.toList)
    (hthread' : ':' ∉ threadId'.toList)
    (h : InPrefixRange (threadPrefix threadId') RANGE_END (threadIndexKey threadId ts id)) :
    threadId = threadId' := by
  have hprefix : ∃ t, (threadIndexKey threadId ts id).toList
      = (threadPrefix threadId').toList ++ t := by
    rcases inPrefixRange_iff.mp h with h | ⟨c, t, h, _⟩
    · exact ⟨[], by rw [h, List.append_nil]⟩
    · exact ⟨c :: t, h⟩
  obtain ⟨t, ht⟩ := hprefix
  simp only [threadIndexKey, threadPrefix, String.toList_append, List.append_assoc] at ht
  have hrest := List.append_cancel_left ht
  have hsplit := congrArg (List.splitOn ':') hrest
  have hcolon : (":" : String).toList = [':'] := rfl
  rw [hcolon] at hsplit
  simp only [List.singleton_append, List.splitOn_append_cons_self,
    List.splitOn_eq_singleton hthread, List.splitOn_eq_singleton hthread'] at hsplit
  exact String.toList_inj.mp (List.cons.inj hsplit).1

/-! ### Messages that are filed -/

theorem Keyed.filed (h : Keyed messages) (hget : messages.get? key = some value)
    (hread : normalizeStoredMessage value = some message)
    (hthread : message.envelope.threadId = some threadId) :
    ∃ key, Filed messages message threadId key := by
  obtain ⟨direction, timestamp, id, rfl, hid⟩ := h.key key value hget
  obtain rfl := Option.some.inj (hid.symm.trans (envelopeId_of_normalize hread))
  exact ⟨_, direction, timestamp, value, hget, hread, hthread, rfl⟩

/-- **An id is filed once.** -/
theorem Keyed.filed_unique (h : Keyed messages) (hfiled : Filed messages message threadId key)
    (hfiled' : Filed messages message' threadId' key')
    (hid : message.envelope.id = message'.envelope.id) :
    message = message' ∧ threadId = threadId' ∧ key = key' := by
  obtain ⟨direction, timestamp, value, hget, hread, hthread, rfl⟩ := hfiled
  obtain ⟨direction', timestamp', value', hget', hread', hthread', rfl⟩ := hfiled'
  have hkeys := h.unique _ _ value value' hget hget'
    (by rw [envelopeId_of_normalize hread, envelopeId_of_normalize hread', hid])
  obtain ⟨_, hts, _⟩ := storageKey_inj (colon_not_mem_timestampSegment _)
    (colon_not_mem_timestampSegment _) hkeys
  rw [hkeys] at hget
  obtain rfl := Option.some.inj (hget.symm.trans hget')
  obtain rfl := Option.some.inj (hread.symm.trans hread')
  obtain rfl := Option.some.inj (hthread.symm.trans hthread')
  exact ⟨rfl, rfl, by rw [hts]⟩

theorem Filed.get? (h : Keyed db.messages) (hfiled : Filed db.messages message threadId key) :
    db.getMessage message.envelope.id = some message := by
  obtain ⟨direction, timestamp, value, hget, hread, _, _⟩ := hfiled
  rw [MessageDb.getMessage, h.find hget hread]
  rfl

/-- The last word of the key of a message. -/
theorem Filed.getLast? (hfiled : Filed messages message threadId key)
    (hid : ':' ∉ message.envelope.id.toList) :
    (segments ':' key).getLast? = some message.envelope.id := by
  obtain ⟨_, _, _, _, _, _, rfl⟩ := hfiled
  exact getLast?_segments (toList_threadIndexKey _ _ _) hid

theorem Filed.inPrefixRange (hfiled : Filed messages message threadId key) :
    InPrefixRange (threadPrefix threadId) RANGE_END key := by
  obtain ⟨_, _, _, _, _, _, rfl⟩ := hfiled
  exact inPrefixRange_threadIndexKey _ _ _

theorem id_of_getMessage (h : db.getMessage id = some message) : message.envelope.id = id := by
  rw [MessageDb.getMessage, Option.map_eq_some_iff] at h
  obtain ⟨⟨key, message'⟩, hfind, rfl⟩ := h
  obtain ⟨value, _, hid, hread⟩ := of_find hfind
  rw [envelopeId_of_normalize hread] at hid
  exact Option.some.inj hid

theorem mem_threadMessageIds : id ∈ db.threadMessageIds threadId ↔
    ∃ key, db.threadIndex.get? key = some () ∧
      InPrefixRange (threadPrefix threadId) RANGE_END key ∧
      (segments ':' key).getLast? = some id := by
  rw [MessageDb.threadMessageIds, List.mem_filterMap]
  constructor
  · rintro ⟨⟨key, _⟩, hmem, hlast⟩
    obtain ⟨hget, hrange⟩ := Record.mem_range.mp hmem
    exact ⟨key, hget, hrange, hlast⟩
  · rintro ⟨key, hget, hrange, hlast⟩
    exact ⟨(key, ()), Record.mem_range.mpr ⟨hget, hrange⟩, hlast⟩

/-- **A thread reads the messages that are filed under it.** -/
theorem Indexed.mem_threadMessages (h : Indexed db)
    (hthread : ∃ message key, Filed db.messages message threadId key) :
    message ∈ db.threadMessages collation threadId ↔
      ∃ key, Filed db.messages message threadId key := by
  obtain ⟨first, firstKey, hfirst⟩ := hthread
  rw [Messaging.mem_threadMessages]
  constructor
  · rintro ⟨id, hid, hget⟩
    obtain ⟨key, hindex, hrange, hlast⟩ := mem_threadMessageIds.mp hid
    obtain ⟨message', threadId', hfiled⟩ := (h.index key).mp hindex
    obtain rfl := h.apart _ _ _ _ _ _ hfiled hfirst hrange
    rw [hfiled.getLast? (h.named _ _ _ hfiled).2] at hlast
    rw [← Option.some.inj hlast, hfiled.get? h.keyed] at hget
    obtain rfl := Option.some.inj hget
    exact ⟨key, hfiled⟩
  · rintro ⟨key, hfiled⟩
    exact ⟨message.envelope.id, mem_threadMessageIds.mpr ⟨key, (h.index key).mpr ⟨_, _, hfiled⟩,
      hfiled.inPrefixRange, hfiled.getLast? (h.named _ _ _ hfiled).2⟩, hfiled.get? h.keyed⟩

theorem Indexed.nodup_threadMessageIds (h : Indexed db)
    (hthread : ∃ message key, Filed db.messages message threadId key) :
    (db.threadMessageIds threadId).Nodup := by
  obtain ⟨first, firstKey, hfirst⟩ := hthread
  have hkeys := List.pairwise_map.mp (db.threadIndex.nodup_keys_range (threadPrefix threadId)
    (threadPrefix threadId ++ String.singleton RANGE_END))
  rw [MessageDb.threadMessageIds]
  refine List.pairwise_filterMap.mpr (hkeys.imp_of_mem ?_)
  rintro ⟨key, _⟩ ⟨key', _⟩ hmem hmem' hne id hid id' hid' rfl
  obtain ⟨hget, hrange⟩ := Record.mem_range.mp hmem
  obtain ⟨hget', hrange'⟩ := Record.mem_range.mp hmem'
  obtain ⟨message, threadId₁, hfiled⟩ := (h.index key).mp hget
  obtain ⟨message', threadId₂, hfiled'⟩ := (h.index key').mp hget'
  have hlast := hfiled.getLast? (h.named _ _ _ hfiled).2
  have hlast' := hfiled'.getLast? (h.named _ _ _ hfiled').2
  have hsame : message.envelope.id = message'.envelope.id :=
    (Option.some.inj (hlast.symm.trans hid)).trans (Option.some.inj (hlast'.symm.trans hid')).symm
  exact hne (h.keyed.filed_unique hfiled hfiled' hsame).2.2

theorem nodup_threadMessages (hids : (db.threadMessageIds threadId).Nodup) :
    (db.threadMessages collation threadId).Nodup := by
  rw [MessageDb.threadMessages]
  refine (List.mergeSort_perm _ _).nodup_iff.mpr (hids.filterMap fun id id' message hid hid' => ?_)
  rw [← id_of_getMessage hid, ← id_of_getMessage hid']

theorem Keyed.mem_storedThread (h : Keyed db.messages) :
    message ∈ db.storedThread threadId ↔ ∃ key, Filed db.messages message threadId key := by
  rw [MessageDb.storedThread, List.mem_filter, List.mem_filterMap, decide_eq_true_eq]
  constructor
  · rintro ⟨⟨value, hvalue, hread⟩, hthread⟩
    obtain ⟨key, hget⟩ := (Record.mem_values_iff _ _).mp hvalue
    exact h.filed hget hread hthread
  · rintro ⟨key, direction, timestamp, value, hget, hread, hthread, _⟩
    exact ⟨⟨value, (Record.mem_values_iff _ _).mpr ⟨_, hget⟩, hread⟩, hthread⟩

theorem Keyed.nodup_storedThread (h : Keyed db.messages) (threadId : String) :
    (db.storedThread threadId).Nodup := by
  have hentries : db.messages.entries.Pairwise fun e e' => e.1 ≠ e'.1 :=
    List.pairwise_map.mp db.messages.nodupKeys
  have hvalues : db.messages.values.Pairwise fun value value' =>
      value.envelopeId ≠ value'.envelopeId := by
    rw [Record.values]
    refine List.pairwise_map.mpr (hentries.imp_of_mem fun hmem hmem' hne hid => hne ?_)
    exact h.unique _ _ _ _ ((Record.get?_eq_some_iff _ _ _).mpr hmem)
      ((Record.get?_eq_some_iff _ _ _).mpr hmem') hid
  refine (List.pairwise_filterMap.mpr (hvalues.imp ?_)).filter _
  rintro value value' hne message hread message' hread' rfl
  exact hne (by rw [envelopeId_of_normalize hread, envelopeId_of_normalize hread'])

theorem length_storedThread (db : MessageDb) (threadId : String) :
    (db.storedThread threadId).length = db.messages.values.countP (inThread threadId) := by
  rw [MessageDb.storedThread]
  induction db.messages.values with
  | nil => rfl
  | cons value values ih =>
    rw [List.countP_cons, List.filterMap_cons, inThread]
    cases normalizeStoredMessage value with
    | none => exact ih
    | some message =>
      by_cases hthread : message.envelope.threadId = some threadId
      · simp [hthread, ih]
      · simp [hthread, ih]

/-- A session is that of a thread. -/
theorem Indexed.isThread (h : Indexed db) (hthread : db.IsThread threadId) :
    ∃ message key, Filed db.messages message threadId key := by
  rcases hthread with hfiled | hsession
  · exact hfiled
  · obtain ⟨session, hsession⟩ := Option.isSome_iff_exists.mp hsession
    have hpositive := h.positive threadId session hsession
    have hcount := h.counted threadId
    rw [MessageDb.sessionCount, hsession, ← length_storedThread] at hcount
    have hlength : 0 < (db.storedThread threadId).length := by
      rw [← hcount]
      exact hpositive
    obtain ⟨message, hmem⟩ := List.exists_mem_of_length_pos hlength
    exact ⟨message, h.keyed.mem_storedThread.mp hmem⟩

/-- **An indexed database is exact.** -/
theorem Indexed.exact (h : Indexed db) : Exact collation db := by
  intro threadId hthread
  have hfiled := h.isThread hthread
  refine ⟨fun limit hlimit => ?_, ?_⟩
  · rw [allPages_eq db threadId hlimit]
    refine ⟨?_, pairwise_threadMessages db threadId⟩
    refine (List.perm_ext_iff_of_nodup (nodup_threadMessages (h.nodup_threadMessageIds hfiled))
      (h.keyed.nodup_storedThread threadId)).mpr fun message => ?_
    rw [h.mem_threadMessages hfiled, h.keyed.mem_storedThread]
  · rw [h.counted, length_storedThread]

end QuadraA.Messaging
