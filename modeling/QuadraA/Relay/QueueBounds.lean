import QuadraA.Relay.FlushOrder

/-!
# The bound of the queue

`enqueue` counts the records of a DID, and stores one more after an `await`; the scans find the
records of a DID by a prefix of their keys.

* `queue_bounded` — the bound, the exact reads and the refusals, in every run of such steps;
* `queue_not_isolated` — a message to `did:agent:zBob:x` is read as one to `did:agent:zBob`.
-/

set_option linter.unusedSectionVars false

namespace QuadraA.Relay

open QuadraA.Lib
open QuadraA.Runtime (WellFormedDid append_cons_inj_of_count)

/-! ### Counting records -/

/-- How many messages to a DID are stored. -/
def storedFor (did : String) (db : MessageDb) : ℕ :=
  db.entries.countP fun entry => entry.2.toDid = did

variable {p : String × StoredQueuedMessage → Bool} {old : StoredQueuedMessage} {db : MessageDb}
  {did : String}

theorem countP_insert_le (key : String) (record : StoredQueuedMessage)
    (l : List (String × StoredQueuedMessage)) :
    (Record.insert key record l).countP p ≤ l.countP p + if p (key, record) then 1 else 0 := by
  induction l with
  | nil => simp [Record.insert, List.countP_cons]
  | cons entry rest ih =>
    obtain ⟨key', record'⟩ := entry
    by_cases hkey : key' = key
    · subst hkey
      simp only [Record.insert, if_true, List.countP_cons]
      omega
    · simp only [Record.insert, hkey, if_false, List.countP_cons]
      omega

/-- A write over a record that counts does not add one. -/
theorem countP_insert_le_of_lookup {key : String} {record : StoredQueuedMessage}
    {l : List (String × StoredQueuedMessage)} (hold : Record.lookup key l = some old)
    (hp : p (key, record) = true → p (key, old) = true) :
    (Record.insert key record l).countP p ≤ l.countP p := by
  induction l with
  | nil => cases hold
  | cons entry rest ih =>
    obtain ⟨key', record'⟩ := entry
    by_cases hkey : key' = key
    · subst hkey
      rw [Record.lookup, if_pos rfl, Option.some.injEq] at hold
      subst hold
      simp only [Record.insert, if_true, List.countP_cons]
      split <;> rename_i hnew
      · rw [if_pos (hp hnew)]
      · omega
    · rw [Record.lookup, if_neg hkey] at hold
      have hrest := ih hold
      simp only [Record.insert, hkey, if_false, List.countP_cons]
      omega

theorem storedFor_set_le (did : String) (db : MessageDb) (key : String)
    (record : StoredQueuedMessage) :
    storedFor did (db.set key record) ≤ storedFor did db + if record.toDid = did then 1 else 0 := by
  have hle := countP_insert_le (p := fun entry => decide (entry.2.toDid = did)) key record db.entries
  simp only [decide_eq_true_eq] at hle
  exact hle

theorem storedFor_set_of_get? {key : String} {record : StoredQueuedMessage}
    (hold : db.get? key = some old) (hto : record.toDid = old.toDid) (did : String) :
    storedFor did (db.set key record) ≤ storedFor did db := by
  refine countP_insert_le_of_lookup hold fun hnew => ?_
  rw [decide_eq_true_eq] at hnew ⊢
  exact hto.symm.trans hnew

theorem storedFor_erase_le (did : String) (db : MessageDb) (key : String) :
    storedFor did (db.erase key) ≤ storedFor did db :=
  List.filter_sublist.countP_le

/-- **The prefix of a well-formed DID** is none of the keys of another one. -/
theorem startsWithDid_iff {did' messageId : String} (hdid : WellFormedDid did)
    (hdid' : WellFormedDid did') :
    startsWithDid did (queueKey did' messageId) = true ↔ did' = did := by
  constructor
  · intro hstarts
    rw [startsWithDid, List.isPrefixOf_iff_prefix] at hstarts
    obtain ⟨rest, hrest⟩ := hstarts
    rw [queueKey_toList, String.toList_append, List.append_assoc] at hrest
    have hlists : did.toList ++ ':' :: rest = did'.toList ++ ':' :: messageId.toList := hrest
    exact String.toList_inj.mp (append_cons_inj_of_count (hdid.2.trans hdid'.2.symm) hlists).1.symm
  · rintro rfl
    exact startsWithDid_queueKey _ _

/-- What the scans need: every record stands under its own key, to a well-formed DID, and can be
read. -/
structure ReadableDb (db : MessageDb) : Prop where
  key : ∀ key record, db.get? key = some record → key = record.key
  recipient : ∀ key record, db.get? key = some record → WellFormedDid record.toDid
  message : ∀ key record, db.get? key = some record →
    ∃ message, normalizeQueuedMessage record = some message

theorem ReadableDb.startsWith (h : ReadableDb db) {key : String} (hdid : WellFormedDid did)
    {record : StoredQueuedMessage} (hget : db.get? key = some record) :
    startsWithDid did key = true ↔ record.toDid = did := by
  rw [h.key key record hget]
  exact startsWithDid_iff hdid (h.recipient key record hget)

/-- **The count of `enqueue`** is that of the messages to its DID. -/
theorem getQueueSize_eq (h : ReadableDb db) (hdid : WellFormedDid did) :
    getQueueSize did db = storedFor did db := by
  have hperm : (iterator db).Perm db.entries := List.perm_insertionSort _ _
  rw [getQueueSize, ← List.countP_eq_length_filter, storedFor, hperm.countP_eq]
  refine List.countP_congr fun entry hentry => ?_
  rw [decide_eq_true_eq]
  exact h.startsWith hdid ((Record.get?_eq_some_iff _ _ _).mpr hentry)

/-! ### What is read for a DID -/

/-- The messages that the claim of a read is about: queued or inflight, unexpired, and to the DID. -/
def Due (did : String) (now : ℕ) (db : MessageDb) (message : QueuedMessage) : Prop :=
  ∃ key record, db.get? key = some record ∧ record.toDid = did ∧ Outstanding record.status ∧
    now ≤ record.expiresAt ∧ normalizeQueuedMessage record = some message

/-- No queued or inflight message to the DID is past its expiry. -/
def NoneExpired (did : String) (now : ℕ) (db : MessageDb) : Prop :=
  ∀ key record, db.get? key = some record → record.toDid = did → Outstanding record.status →
    now ≤ record.expiresAt

/-- **A read is exact** if and only if nothing outstanding has expired. -/
theorem getQueuedMessages_exact (h : ReadableDb db) (hdid : WellFormedDid did) (now : ℕ) :
    (∀ message, message ∈ getQueuedMessages did db ↔ Due did now db message) ↔
      NoneExpired did now db := by
  constructor
  · intro hexact key record hget hto houtstanding
    obtain ⟨message, hread⟩ := h.message key record hget
    obtain ⟨key', record', _, _, _, hdue, hread'⟩ := (hexact message).mp (mem_getQueuedMessages.mpr
      ⟨key, record, hget, (h.startsWith hdid hget).mpr hto, houtstanding, hread⟩)
    have hexpires := (normalizeQueuedMessage_eq_some hread).2.2.2.1
    have hexpires' := (normalizeQueuedMessage_eq_some hread').2.2.2.1
    omega
  · intro hnone message
    rw [mem_getQueuedMessages]
    constructor
    · rintro ⟨key, record, hget, hstarts, houtstanding, hread⟩
      have hto := (h.startsWith hdid hget).mp hstarts
      exact ⟨key, record, hget, hto, houtstanding, hnone key record hget hto houtstanding, hread⟩
    · rintro ⟨key, record, hget, hto, houtstanding, _, hread⟩
      exact ⟨key, record, hget, (h.startsWith hdid hget).mpr hto, houtstanding, hread⟩

section

variable {W T : Type} [DecidableEq W] [DecidableEq T]

/-! ### The steps of a bounded queue -/

/-- **The condition of a step.**  A SEND is to a well-formed DID.  `enqueue` counts the messages to a
DID when no other SEND to it stands between its count and its store, and is refused only by its
bound, not by the database.  A mark writes a record back only while the record is there. -/
structure BoundedStep (config : MessageQueueConfig) (relayDid : String) (s : RelayState W T)
    (event : RelayEvent W T) (s' : RelayState W T) : Prop where
  step : RelayStep config relayDid s event s'
  recipient : ∀ task send, event = .sendReceived task send → WellFormedDid send.toDid
  counted : ∀ task send messageId now, event = .handled task messageId now →
    s.tasks task = some (.routing send) → ∀ task' sender target message size,
      s.tasks task' = some (.counted sender target message size) → message.toDid ≠ send.toDid
  refused : ∀ task sender target message size, event = .queueFull task →
    s.tasks task = some (.counted sender target message size) → config.maxMessagesPerDid ≤ size
  marked : ∀ task now messageId did message rest, event = .markWritten task now →
    s.tasks task = some (.marking messageId did (some message) rest) →
      s.db.get? (queueKey did messageId) ≠ none
  expired : ∀ task message, event = .expireWritten task message → s.db.get? message.key ≠ none

variable {config : MessageQueueConfig} {relayDid : String}
variable {s s' start : RelayState W T} {event : RelayEvent W T} {events : List (RelayEvent W T)}
  {task : T} {message : QueuedMessage}

/-! ### The invariant -/

/-- **A bounded queue.**  `room` says that a DID has at most as many messages as the SEND has counted
that is about to store one more. -/
structure QueueBounded (config : MessageQueueConfig) (s : RelayState W T) : Prop where
  keyed : s.Keyed
  recipients : s.All fun message => WellFormedDid message.toDid
  readable : ReadableDb s.db
  routed : ∀ task send, s.tasks task = some (.routing send) → WellFormedDid send.toDid
  bound : ∀ did, storedFor did s.db ≤ config.maxMessagesPerDid
  apart : ∀ task task' sender sender' target target' message message' size size',
    s.tasks task = some (.counted sender target message size) →
      s.tasks task' = some (.counted sender' target' message' size') →
        message.toDid = message'.toDid → task = task'
  room : ∀ task sender target message size,
    s.tasks task = some (.counted sender target message size) → storedFor message.toDid s.db ≤ size

theorem ReadableDb.step (h : ReadableDb s.db) (hkeyed : s'.Keyed)
    (hrecipients : s'.All fun message => WellFormedDid message.toDid)
    (hstep : RelayStep config relayDid s event s') : ReadableDb s'.db := by
  -- every record can be read, and then it is of a message in reach
  have hmessage : ∀ key record, s'.db.get? key = some record →
      ∃ message, normalizeQueuedMessage record = some message := by
    intro key record hget
    rcases copy_of_step hstep hget with hold | ⟨_, _, _, message, _, _, _, _, _, rfl⟩
    · exact h.message key record hold
    · exact ⟨message, normalizeQueuedMessage_stored message⟩
  refine ⟨fun key record hget => (hkeyed.records key record hget).1, fun key record hget => ?_,
    hmessage⟩
  obtain ⟨message, hread⟩ := hmessage key record hget
  have hto := (normalizeQueuedMessage_eq_some hread).2.2.1
  exact hto ▸ hrecipients.records key record message hget hread

/-- **A bounded step adds a message** only to the DID of the SEND that stores it. -/
theorem QueueBounded.storedFor_step (h : QueueBounded config s)
    (hstep : BoundedStep config relayDid s event s') (did : String) :
    storedFor did s'.db ≤ storedFor did s.db ∨
      ∃ task sender target message size, event = .stored task message ∧ message.toDid = did ∧
        s.tasks task = some (.counted sender target message size) ∧
        size < config.maxMessagesPerDid ∧ storedFor did s'.db ≤ storedFor did s.db + 1 := by
  -- a write over a record of the same key is to the same DID
  have hover (message : QueuedMessage) {key : String} (hkey : key = message.key)
      (hto : WellFormedDid message.toDid) (hthere : s.db.get? key ≠ none)
      (hdb : s'.db = s.db.set key message.stored) : storedFor did s'.db ≤ storedFor did s.db := by
    obtain ⟨old, hold⟩ := Option.ne_none_iff_exists'.mp hthere
    rw [hdb]
    refine storedFor_set_of_get? hold ?_ did
    have hkeys : message.key = old.key := hkey.symm.trans (h.readable.key key old hold)
    exact (queueKey_inj_of_did hto (h.readable.recipient key old hold) hkeys).1
  rcases db_of_step hstep.step with hdb | ⟨_, _, _, _, _, hdb⟩ |
    ⟨task, sender, target, message, size, hevent, htask, hsize, hdb⟩ |
    ⟨task, now, messageId, did', message, rest, hevent, htask, hdb⟩ |
    ⟨task, message, read, messages, hevent, htask, hdb⟩
  · exact Or.inl (by rw [hdb])
  · exact Or.inl (by rw [hdb]; exact storedFor_erase_le _ _ _)
  · have hle := storedFor_set_le did s.db message.key message.stored
    rw [← hdb] at hle
    by_cases hto : message.toDid = did
    · refine Or.inr ⟨task, sender, target, message, size, hevent, hto, htask, hsize, ?_⟩
      rwa [if_pos (show message.stored.toDid = did from hto)] at hle
    · rw [if_neg (show ¬message.stored.toDid = did from hto)] at hle
      exact Or.inl hle
  · have hcopy := (h.keyed.tasks task _ htask).update _ message rfl
    exact Or.inl (hover (inflightMessage message now) hcopy
      (h.recipients.tasks task _ htask message List.mem_cons_self)
      (hstep.marked task now messageId did' message rest hevent htask) hdb)
  · have hcopy := (h.keyed.tasks task _ htask).update _ read rfl
    exact Or.inl (hover (expiredMessage read) hcopy
      (h.recipients.tasks task _ htask read (List.mem_cons_of_mem _ List.mem_cons_self))
      (hstep.expired task message hevent) hdb)

theorem QueueBounded.step (h : QueueBounded config s)
    (hstep : BoundedStep config relayDid s event s') : QueueBounded config s' := by
  have hkeyed := h.keyed.step hstep.step
  have hrecipients : s'.All fun message => WellFormedDid message.toDid :=
    h.recipients.step ⟨fun _ _ hmessage => hmessage, fun _ hmessage => hmessage⟩ hstep.step
      fun task send _ _ _ hrouting => h.routed task send hrouting
  -- what `enqueue` has just counted
  have hnew {task : T} {sender target : Option ℕ} {message : QueuedMessage} {size : ℕ}
      {messageId : String} {now : ℕ}
      (htask : s'.tasks task = some (.counted sender target message size))
      (hevent : event = .handled task messageId now) : ∃ send, s.tasks task = some (.routing send) ∧
        message.toDid = send.toDid ∧ size = storedFor message.toDid s.db ∧ s'.db = s.db := by
    subst hevent
    cases hstep.step with
    | @handled _ send _ _ hrouting =>
      rw [setTask_self] at htask
      cases htask
      exact ⟨send, hrouting, rfl, getQueueSize_eq h.readable (h.routed task send hrouting), rfl⟩
  refine ⟨hkeyed, hrecipients, h.readable.step hkeyed hrecipients hstep.step,
    fun task send hrouting => ?_, fun did => ?_,
    fun task task' sender sender' target target' message message' size size' htask htask' hsame => ?_,
    fun task sender target message size htask => ?_⟩
  · rcases phase_of_step hstep.step hrouting with hbefore | hevent
    · exact h.routed task send hbefore
    · exact hstep.recipient task send hevent
  · rcases h.storedFor_step hstep did with hle | ⟨task, _, _, message, size, _, rfl, htask, hsize, hle⟩
    · exact hle.trans (h.bound did)
    · have hroom := h.room task _ _ message size htask
      omega
  · rcases counted_of_step hstep.step htask with hbefore | ⟨messageId, now, hevent, _⟩
    · rcases counted_of_step hstep.step htask' with hbefore' | ⟨messageId', now', hevent', _⟩
      · exact h.apart task task' _ _ _ _ _ _ _ _ hbefore hbefore' hsame
      · obtain ⟨send, hrouting, hto, _⟩ := hnew htask' hevent'
        exact absurd (hsame.trans hto)
          (hstep.counted task' send messageId' now' hevent' hrouting task _ _ _ _ hbefore)
    · rcases counted_of_step hstep.step htask' with hbefore' | ⟨messageId', now', hevent', _⟩
      · obtain ⟨send, hrouting, hto, _⟩ := hnew htask hevent
        exact absurd (hsame.symm.trans hto)
          (hstep.counted task send messageId now hevent hrouting task' _ _ _ _ hbefore')
      · rw [hevent] at hevent'
        cases hevent'
        rfl
  · rcases counted_of_step hstep.step htask with hbefore | ⟨messageId, now, hevent, _⟩
    · have hroom := h.room task sender target message size hbefore
      rcases h.storedFor_step hstep message.toDid with
        hle | ⟨task', _, _, message', size', hevent, hto, hbefore', _, _⟩
      · exact hle.trans hroom
      · -- the SEND that stores is this one, and it is past its count
        obtain rfl := h.apart task task' _ _ _ _ _ _ _ _ hbefore hbefore' hto.symm
        subst hevent
        cases hstep.step with
        | stored =>
          rw [setTask_self] at htask
          cases htask
    · obtain ⟨send, _, _, hsize, hdb⟩ := hnew htask hevent
      rw [hsize, hdb]

/-- A relay that has started over a queue within its bound. -/
structure RelayState.StartingBounded (config : MessageQueueConfig) (s : RelayState W T) : Prop where
  starting : s.Starting
  readable : ReadableDb s.db
  bound : ∀ did, storedFor did s.db ≤ config.maxMessagesPerDid

theorem QueueBounded.of_starting (h : start.StartingBounded config) : QueueBounded config start := by
  have hidle {task : T} {phase : RelayTask W} : start.tasks task ≠ some phase := by
    rw [h.starting.tasks]
    nofun
  refine ⟨.of_starting h.starting, ⟨fun key record message hget hread => ?_,
    fun _ _ htask => absurd htask hidle⟩, h.readable, fun _ _ htask => absurd htask hidle, h.bound,
    fun _ _ _ _ _ _ _ _ _ _ htask => absurd htask hidle,
    fun _ _ _ _ _ htask => absurd htask hidle⟩
  rw [(normalizeQueuedMessage_eq_some hread).2.2.1]
  exact h.readable.recipient key record hget

theorem QueueBounded.run (hstart : start.StartingBounded config)
    (hrun : Trace (BoundedStep config relayDid) start events s) : QueueBounded config s := by
  induction hrun with
  | nil => exact .of_starting hstart
  | snoc _ hlast ih => exact ih.step hlast

/-- **What `enqueue` has counted** is what was stored when it was called. -/
theorem counted_in_run (hstart : start.StartingBounded config)
    (hrun : Trace (BoundedStep config relayDid) start events s) {sender target : Option ℕ} {size : ℕ}
    (htask : s.tasks task = some (.counted sender target message size)) :
    ∃ send earlier messageId now between, ∃ u : RelayState W T,
      events = earlier ++ .handled task messageId now :: between ∧
      Trace (BoundedStep config relayDid) start earlier u ∧
      u.tasks task = some (.routing send) ∧ size = storedFor send.toDid u.db := by
  induction hrun with
  | nil =>
    rw [hstart.starting.tasks] at htask
    cases htask
  | @snoc before t s' event hbefore hlast ih =>
    rcases counted_of_step hlast.step htask with hold | ⟨messageId, now, rfl, _⟩
    · obtain ⟨send, earlier, messageId, now, between, u, rfl, hrest⟩ := ih hold
      exact ⟨send, earlier, messageId, now, between ++ [event], u, by simp, hrest⟩
    · have hbounded := QueueBounded.run hstart hbefore
      cases hlast.step with
      | @handled _ send _ _ hrouting =>
        rw [setTask_self] at htask
        cases htask
        exact ⟨send, before, messageId, now, [], t, rfl, hbefore, hrouting,
          getQueueSize_eq hbounded.readable (hbounded.routed task send hrouting)⟩

/-- **Queue isolation and bound.**  In every run of bounded steps no more than `maxMessagesPerDid`
messages to a DID are stored; a read for a DID returns each of its messages once, and exactly the
unexpired outstanding ones if and only if none has expired; and a SEND is refused only if its DID
was at the bound when it was counted. -/
theorem queue_bounded (hstart : start.StartingBounded config)
    (hrun : Trace (BoundedStep config relayDid) start events s) :
    (∀ did, storedFor did s.db ≤ config.maxMessagesPerDid) ∧
    (∀ did now, WellFormedDid did → (getQueuedMessages did s.db).Nodup ∧
      ((∀ message, message ∈ getQueuedMessages did s.db ↔ Due did now s.db message) ↔
        NoneExpired did now s.db)) ∧
    ∀ before task after, events = before ++ .queueFull task :: after →
      ∃ send earlier messageId now between, ∃ u : RelayState W T,
        before = earlier ++ .handled task messageId now :: between ∧
        Trace (BoundedStep config relayDid) start earlier u ∧
        u.tasks task = some (.routing send) ∧
        config.maxMessagesPerDid ≤ storedFor send.toDid u.db := by
  have hbounded := QueueBounded.run hstart hrun
  refine ⟨hbounded.bound, fun did now hdid => ⟨?_, getQueuedMessages_exact hbounded.readable hdid now⟩,
    fun before task after hevents => ?_⟩
  · refine (pairwise_getQueuedMessages hbounded.readable.key).imp fun {message message'} hbefore => ?_
    rintro rfl
    exact hbefore.asymm hbefore
  · subst hevents
    obtain ⟨u, hbefore, hafter⟩ := hrun.of_append
    have hafter : Trace (BoundedStep config relayDid) u ([.queueFull task] ++ after) s := hafter
    obtain ⟨v, hone, _⟩ := hafter.of_append
    have hlast := hone.of_singleton
    cases hlast.step with
    | queueFull htask =>
      obtain ⟨send, earlier, messageId, now, between, w, rfl, hearlier, hrouting, hsize⟩ :=
        counted_in_run hstart hbefore htask
      exact ⟨send, earlier, messageId, now, between, w, rfl, hearlier, hrouting,
        hsize ▸ hlast.refused task _ _ _ _ rfl htask⟩

end

/-! ### Runs of one relay -/

/-- A queue that holds one message for a DID. -/
def smallQueue : MessageQueueConfig := { DEFAULT_CONFIG with maxMessagesPerDid := 1 }

theorem idleDelivery_bounded : idleDelivery.StartingBounded smallQueue :=
  ⟨idleDelivery_starting, ⟨nofun, nofun, nofun⟩, fun _ => Nat.zero_le _⟩

/-- Alice's second SEND is refused, since Bob has one message already. -/
theorem queue_bounded_sample :
    ∃ events, ∃ s : RelayState Bool Unit,
      Trace (BoundedStep smallQueue "did:agent:zRelay") idleDelivery (events ++ [.queueFull ()]) s ∧
      ∃ u : RelayState Bool Unit, ∃ did, 1 ≤ storedFor did u.db := by
  have hrun : Trace (BoundedStep smallQueue "did:agent:zRelay") idleDelivery [] idleDelivery := .nil
  have hreceived := hrun.snoc ⟨.connection
    (@ConnectionStep.helloReceived _ _ _ true "did:agent:zAlice" rfl) rfl, nofun, nofun, nofun, nofun,
    nofun⟩
  have hregistered := hreceived.snoc ⟨@RelayStep.registered _ _ _ _ _ _ _ () true _ _ _ _ rfl rfl
    (@ConnectionStep.registered _ _ _ true _ "public" 10 rfl (by decide)), nofun, nofun, nofun, nofun,
    nofun⟩
  have hended := hregistered.snoc ⟨@RelayStep.helloEnded _ _ _ _ _ _ _ () true _ _ rfl
    (@ConnectionStep.helloEnded _ _ _ true _ rfl), nofun, nofun, nofun, nofun, nofun⟩
  have hsent := hended.snoc ⟨@RelayStep.sendReceived _ _ _ _ _ _ _ () true
    ⟨"did:agent:zAlice", "did:agent:zBob", [1]⟩ rfl rfl, by rintro _ _ hevent; cases hevent; decide,
    nofun, nofun, nofun, nofun⟩
  have hhandled := hsent.snoc ⟨@RelayStep.handled _ _ _ _ _ _ _ () _ "m1" 20 rfl (by decide)
    (by rintro ⟨_, target, _, htarget, _⟩; cases htarget) (by decide), nofun,
    (by rintro _ _ _ _ _ _ _ _ _ _ _ htask; cases htask), nofun, nofun, nofun⟩
  have hstored := hhandled.snoc ⟨@RelayStep.stored _ _ _ _ _ _ _ () _ _ (pairMessage "m1" 1) _ rfl
    (by decide), nofun, nofun, nofun, nofun, nofun⟩
  have haccepted := hstored.snoc ⟨@RelayStep.acceptedOffline _ _ _ _ _ _ _ () _ _
    (pairMessage "m1" 1) rfl (by rintro ref href; cases href), nofun, nofun, nofun, nofun, nofun⟩
  have hsent' := haccepted.snoc ⟨@RelayStep.sendReceived _ _ _ _ _ _ _ () true
    ⟨"did:agent:zAlice", "did:agent:zBob", [2]⟩ rfl rfl, by rintro _ _ hevent; cases hevent; decide,
    nofun, nofun, nofun, nofun⟩
  have hhandled' := hsent'.snoc ⟨@RelayStep.handled _ _ _ _ _ _ _ () _ "m2" 20 rfl (by decide)
    (by rintro ⟨_, target, _, htarget, _⟩; cases htarget) (by decide), nofun,
    (by rintro _ _ _ _ _ _ _ _ _ _ _ htask; cases htask), nofun, nofun, nofun⟩
  have hrefused := hhandled'.snoc ⟨@RelayStep.queueFull _ _ _ _ _ _ _ () _ _ _ _ rfl, nofun, nofun,
    by rintro _ _ _ _ _ _ htask; cases htask; decide, nofun, nofun⟩
  obtain ⟨send, earlier, messageId, now, between, u, _, _, _, hfull⟩ :=
    (queue_bounded idleDelivery_bounded hrefused).2.2 _ () [] rfl
  exact ⟨_, _, hrefused, u, send.toDid, hfull⟩

/-- **A read finds another DID's message.**  Alice sends to `did:agent:zBob:x`, which no relay has
ever seen; the read for Bob returns her message. -/
theorem queue_not_isolated :
    ∃ events, ∃ s : RelayState Bool Unit,
      Trace (RelayStep DEFAULT_CONFIG "did:agent:zRelay") idleDelivery events s ∧
      WellFormedDid "did:agent:zBob" ∧
      ∃ message ∈ getQueuedMessages "did:agent:zBob" s.db, message.toDid = "did:agent:zBob:x" := by
  have hrun : Trace (RelayStep DEFAULT_CONFIG "did:agent:zRelay") idleDelivery [] idleDelivery := .nil
  have hreceived := hrun.snoc (.connection
    (@ConnectionStep.helloReceived _ _ _ true "did:agent:zAlice" rfl) rfl)
  have hregistered := hreceived.snoc (@RelayStep.registered _ _ _ _ _ _ _ () true _ _ _ _ rfl rfl
    (@ConnectionStep.registered _ _ _ true _ "public" 10 rfl (by decide)))
  have hended := hregistered.snoc (@RelayStep.helloEnded _ _ _ _ _ _ _ () true _ _ rfl
    (@ConnectionStep.helloEnded _ _ _ true _ rfl))
  have hsent := hended.snoc (@RelayStep.sendReceived _ _ _ _ _ _ _ () true
    ⟨"did:agent:zAlice", "did:agent:zBob:x", [1]⟩ rfl rfl)
  have hhandled := hsent.snoc (@RelayStep.handled _ _ _ _ _ _ _ () _ "m1" 20 rfl (by decide)
    (by rintro ⟨_, target, _, htarget, _⟩; cases htarget) (by decide))
  have hstored := hhandled.snoc (@RelayStep.stored _ _ _ _ _ _ _ () _ _ _ _ rfl (by decide))
  refine ⟨_, _, hstored, by decide, queuedMessage DEFAULT_CONFIG "did:agent:zBob:x"
    "did:agent:zAlice" "m1" [1] 20, ?_, rfl⟩
  exact mem_getQueuedMessages.mpr ⟨_, _, Record.get?_set_self _ _ _, by decide, Or.inl rfl,
    normalizeQueuedMessage_stored _⟩

end QuadraA.Relay
