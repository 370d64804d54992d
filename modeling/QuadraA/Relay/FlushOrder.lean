import Mathlib.Data.String.Basic
import QuadraA.Relay.MessageCopies

/-!
# The order of a HELLO flush

`getQueuedMessages` sorts what its iterator yields by `queuedAt`; the iterator goes by key, and the
key of a message ends in a random id.

* `flush_in_order` — the messages of one sender reach a recipient in the order in which they were
  accepted, in every run in which no message is stamped at or before an earlier one of its pair and
  under a smaller key, and no retry pass overtakes a flush;
* `flush_reordered` — two messages of one millisecond are sent in reverse.
-/

set_option linter.unusedSectionVars false

namespace QuadraA.Relay

open QuadraA.Lib
open QuadraA.Runtime (WellFormedDid)

/-! ### Stable sorting -/

/-- **A stable sort** leaves what it finds equal in the order of the list. -/
theorem pairwise_insertionSort_of_tie {α : Type} {r p : α → α → Prop} [DecidableRel r]
    [Std.Total r] [IsTrans α r] {l : List α} (h : l.Pairwise p) :
    (l.insertionSort r).Pairwise fun a b => r a b ∧ (r b a → p a b) := by
  induction l with
  | nil => exact List.Pairwise.nil
  | cons a l ih =>
    obtain ⟨hhead, htail⟩ := List.pairwise_cons.mp h
    have hinsert : ∀ sorted : List α, (∀ b ∈ sorted, p a b) →
        sorted.Pairwise (fun a b => r a b ∧ (r b a → p a b)) →
          (sorted.orderedInsert r a).Pairwise fun a b => r a b ∧ (r b a → p a b) := by
      intro sorted hall hsorted
      induction sorted with
      | nil => exact List.pairwise_singleton _ _
      | cons c sorted ihsorted =>
        obtain ⟨hc, hrest⟩ := List.pairwise_cons.mp hsorted
        by_cases hac : r a c
        · rw [List.orderedInsert_cons_of_le r sorted hac]
          refine List.pairwise_cons.mpr ⟨fun b hb => ⟨?_, fun _ => hall b hb⟩, hsorted⟩
          rcases List.mem_cons.mp hb with rfl | hb
          · exact hac
          · exact IsTrans.trans a c b hac (hc b hb).1
        · rw [List.orderedInsert_of_not_le r sorted hac]
          refine List.pairwise_cons.mpr ⟨fun b hb => ?_,
            ihsorted (fun b hb => hall b (List.mem_cons_of_mem c hb)) hrest⟩
          rcases (List.mem_orderedInsert r).mp hb with rfl | hb
          · exact ⟨(Std.Total.total b c).resolve_left hac, fun hback => absurd hback hac⟩
          · exact hc b hb
    exact hinsert _ (fun b hb => hhead b ((List.mem_insertionSort r).mp hb)) (ih htail)

/-! ### The order of the queue -/

/-- **Before in the queue**: accepted earlier, or at the same time and under a smaller key. -/
def QueuedMessage.Before (message message' : QueuedMessage) : Prop :=
  message.queuedAt < message'.queuedAt ∨
    message.queuedAt = message'.queuedAt ∧ message.key < message'.key

theorem QueuedMessage.Before.asymm {message message' : QueuedMessage}
    (h : message.Before message') : ¬message'.Before message := by
  rintro (hlt | ⟨heq, hkey⟩)
  · rcases h with hlt' | ⟨heq', _⟩
    · omega
    · omega
  · rcases h with hlt' | ⟨_, hkey'⟩
    · omega
    · exact lt_asymm hkey hkey'

theorem pairwise_iterator (db : MessageDb) :
    (iterator db).Pairwise fun left right => left.1 < right.1 := by
  have hperm : ((iterator db).map Prod.fst).Perm (db.entries.map Prod.fst) :=
    (List.perm_insertionSort _ _).map _
  have hnodup : (iterator db).Pairwise fun left right => left.1 ≠ right.1 :=
    List.pairwise_map.mp (hperm.nodup_iff.mpr db.nodupKeys)
  have htotal : Std.Total fun left right : String × StoredQueuedMessage => left.1 ≤ right.1 :=
    ⟨fun left right => le_total left.1 right.1⟩
  have htrans : IsTrans (String × StoredQueuedMessage) fun left right => left.1 ≤ right.1 :=
    ⟨fun _ _ _ => le_trans⟩
  exact ((List.pairwise_insertionSort _ db.entries).and hnodup).imp fun h => lt_of_le_of_ne h.1 h.2

/-- **The flush goes by time**, and at equal times by key. -/
theorem pairwise_getQueuedMessages {did : String} {db : MessageDb}
    (hkeys : ∀ key record, db.get? key = some record → key = record.key) :
    (getQueuedMessages did db).Pairwise QueuedMessage.Before := by
  have hread : (((iterator db).filter fun entry =>
        startsWithDid did entry.1 ∧ Outstanding entry.2.status).filterMap
          fun entry => normalizeQueuedMessage entry.2).Pairwise
      fun message message' => message.key < message'.key := by
    rw [List.pairwise_filterMap]
    refine ((pairwise_iterator db).imp_of_mem ?_).filter _
    intro left right hleft hright hlt message hmessage message' hmessage'
    rw [key_of_normalize hmessage, key_of_normalize hmessage',
      ← hkeys left.1 left.2 (mem_iterator.mp hleft), ← hkeys right.1 right.2 (mem_iterator.mp hright)]
    exact hlt
  have htotal : Std.Total fun left right : QueuedMessage => left.queuedAt ≤ right.queuedAt :=
    ⟨fun left right => le_total left.queuedAt right.queuedAt⟩
  have htrans : IsTrans QueuedMessage fun left right => left.queuedAt ≤ right.queuedAt :=
    ⟨fun _ _ _ => le_trans⟩
  refine (pairwise_insertionSort_of_tie hread).imp fun {message message'} h => ?_
  rcases Nat.lt_or_ge message.queuedAt message'.queuedAt with hlt | hge
  · exact Or.inl hlt
  · exact Or.inr ⟨Nat.le_antisymm h.1 hge, h.2 hge⟩

section

variable {W T : Type} [DecidableEq W] [DecidableEq T]

/-! ### Flushes -/

/-- What a HELLO flush has still to send, with its socket and its DID. -/
def RelayTask.flush : RelayTask W → Option (W × String × List QueuedMessage)
  | .flushing ws did messages => some (ws, did, messages)
  | .marking _ _ _ (.flush ws did messages) => some (ws, did, messages)
  | _ => none

def RelayState.flush (s : RelayState W T) (task : T) : Option (W × String × List QueuedMessage) :=
  (s.tasks task).bind RelayTask.flush

/-- The flush that takes an event. -/
def RelayEvent.flush : RelayEvent W T → Option T
  | .registered task _ _ _ | .flushDelivered task _ _ _ | .helloEnded task _
  | .helloFailed task _ => some task
  | _ => none

variable {config : MessageQueueConfig} {relayDid : String}
variable {s s' start : RelayState W T} {event : RelayEvent W T} {events : List (RelayEvent W T)}
  {task task' : T} {phase : Option (RelayTask W)} {ws : W} {did : String}
  {message : QueuedMessage} {messages : List QueuedMessage}

theorem flush_setTask_self (s : RelayState W T) (task : T) (phase : Option (RelayTask W)) :
    (s.setTask task phase).flush task = phase.bind RelayTask.flush := by
  rw [RelayState.flush, RelayState.setTask]
  exact congrArg (fun found => Option.bind found RelayTask.flush) (Function.update_self _ _ _)

theorem flush_setTask_ne (h : task' ≠ task) : (s.setTask task phase).flush task' = s.flush task' := by
  rw [RelayState.flush, RelayState.setTask]
  exact congrArg (fun found => Option.bind found RelayTask.flush) (Function.update_of_ne h _ _)

/-- A task that was in no flush, and is in none. -/
theorem flush_setTask_none (hbefore : s.flush task = none)
    (hphase : phase.bind RelayTask.flush = none) (task' : T) :
    (s.setTask task phase).flush task' = s.flush task' := by
  by_cases htask : task' = task
  · rw [htask, flush_setTask_self, hphase, hbefore]
  · exact flush_setTask_ne htask

theorem flush_of_tasks {phase : RelayTask W} (htask : s.tasks task = some phase) :
    s.flush task = phase.flush := by
  rw [RelayState.flush, htask, Option.bind_some]

theorem flush_of_idle (htask : s.tasks task = none) : s.flush task = none := by
  rw [RelayState.flush, htask, Option.bind_none]

theorem flush_rest (rest : AfterMark W) {messageId did : String} {read : Option QueuedMessage} :
    rest.task.bind RelayTask.flush = (RelayTask.marking messageId did read rest).flush := by
  cases rest <;> rfl

/-- **What a step does to a flush**: it starts one, sends its next message, or ends it. -/
inductive FlushStep (s : RelayState W T) (s' : RelayState W T) : T → RelayEvent W T → Prop
  | same {task : T} {event : RelayEvent W T} :
      event.flush ≠ some task → s'.flush task = s.flush task → FlushStep s s' task event
  | started {task : T} {ws : W} {did realm : String} {now : ℕ} :
      s.conn.connections ws = ⟨none, some (.verifying did)⟩ →
      s'.conn.connections ws = ⟨none, some (.registered did)⟩ →
      s.flush task = none → s'.flush task = some (ws, did, getQueuedMessages did s.db) →
      FlushStep s s' task (.registered task ws realm now)
  | delivered {task : T} {ws : W} {did : String} {message : QueuedMessage}
      {messages : List QueuedMessage} :
      s.flush task = some (ws, did, message :: messages) →
      s'.flush task = some (ws, did, messages) →
      FlushStep s s' task (.flushDelivered task message ws (decide (s.conn.readyState ws = .OPEN)))
  | ended {task : T} {ws : W} {did : String} :
      s.flush task = some (ws, did, []) → s'.flush task = none →
      FlushStep s s' task (.helloEnded task ws)
  | failed {task : T} {ws : W} {did : String} {messages : List QueuedMessage} :
      s.flush task = some (ws, did, messages) → s'.flush task = none →
      s'.conn.readyState ws ≠ .OPEN →
      FlushStep s s' task (.helloFailed task ws)

theorem flushStep_of_step (hstep : RelayStep config relayDid s event s') (task : T) :
    FlushStep s s' task event := by
  -- the other tasks are as they were
  have hother {task' : T} {t : RelayState W T} {phase : Option (RelayTask W)}
      {event : RelayEvent W T} (hne : task ≠ task') (ht : t.tasks = s.tasks)
      (hevent : event.flush ≠ some task) : FlushStep s (t.setTask task' phase) task event := by
    refine .same hevent ?_
    rw [flush_setTask_ne hne, RelayState.flush, ht, RelayState.flush]
  have hnext {task' : T} (hne : task ≠ task') : some task' ≠ some task := fun hsame =>
    hne (Option.some.inj hsame).symm
  -- a task in no flush goes on in none
  have hsame {task' : T} {t : RelayState W T} {before : RelayTask W} {phase : Option (RelayTask W)}
      {event : RelayEvent W T} (htask : s.tasks task' = some before) (ht : t.tasks = s.tasks)
      (hevent : event.flush = none) (hflush : phase.bind RelayTask.flush = before.flush) :
      FlushStep s (t.setTask task' phase) task event := by
    have hevent : event.flush ≠ some task := by
      rw [hevent]
      nofun
    by_cases hne : task = task'
    · refine .same hevent ?_
      rw [hne, flush_setTask_self, hflush, flush_of_tasks htask]
    · exact hother hne ht hevent
  have hidle {task' : T} {phase : Option (RelayTask W)} {event : RelayEvent W T}
      (htask : s.tasks task' = none) (hevent : event.flush = none)
      (hflush : phase.bind RelayTask.flush = none) :
      FlushStep s (s.setTask task' phase) task event := by
    refine .same ?_ (flush_setTask_none (flush_of_idle htask) hflush task)
    rw [hevent]
    nofun
  cases hstep with
  | connection => exact .same nofun rfl
  | sendReceived htask | retryStarted htask | ackReceived htask | cleanupStarted htask =>
    exact hidle htask (by rfl) (by rfl)
  | refused htask | federated htask | handled htask | queueFull htask | stored htask
  | acceptedOffline htask | acceptedClosed htask | acceptedOpen htask | retryDelivered htask
  | retryExpiring htask | retrySkipped htask | retryEnded htask | expireRead htask
  | expireFailed htask | expireWritten htask | expireReported htask | ackRead htask
  | ackFailed htask | ackDeleted htask | ackReturned htask | cleaned htask | cleanupEnded htask =>
    exact hsame htask (by rfl) (by rfl) (by rfl)
  | @markRead _ _ _ rest _ _ htask => exact hsame htask (by rfl) (by rfl) (by cases rest <;> rfl)
  | markFailed htask | markWritten htask => exact hsame htask (by rfl) (by rfl) (flush_rest _)
  | @registered task' ws did realm now conn htask hconnection hconn =>
    by_cases hne : task = task'
    · subst hne
      refine .started hconnection ?_ (flush_of_idle htask) (flush_setTask_self _ _ _)
      cases hconn with
      | @registered _ did' _ _ hconnection' _ =>
        rw [hconnection] at hconnection'
        obtain rfl : did = did' := by simpa using hconnection'
        obtain ⟨t, hsameConn, hregister⟩ := register_eq
          (s.conn.setConnection ws ⟨none, some (.registered did)⟩) did realm ws now
        show (ConnectionState.recordPing _ did now).connections ws = _
        rw [(SameRegistration.recordPing _ did now).connections, hregister]
        show t.connections ws = _
        rw [hsameConn.connections]
        exact Function.update_self _ _ _
    · exact hother hne (by rfl) (hnext hne)
  | @flushDelivered task' ws did message messages htask =>
    by_cases hne : task = task'
    · subst hne
      exact .delivered (flush_of_tasks htask) (flush_setTask_self _ _ _)
    · exact hother hne (by rfl) (hnext hne)
  | @helloEnded task' ws did conn htask _ =>
    by_cases hne : task = task'
    · subst hne
      exact .ended (flush_of_tasks htask) (flush_setTask_self _ _ _)
    · exact hother hne (by rfl) (hnext hne)
  | @helloFailed task' ws did messages conn htask hconn =>
    by_cases hne : task = task'
    · subst hne
      refine .failed (flush_of_tasks htask) (flush_setTask_self _ _ _) ?_
      cases hconn with
      | helloFailed _ =>
        show ((s.conn.setConnection ws ⟨none, none⟩).close ws).readyState ws ≠ .OPEN
        rw [readyState_close]
        split
        · nofun
        · rename_i hclosed
          exact fun hopen => hclosed ⟨rfl, hopen⟩
    · exact hother hne (by rfl) (hnext hne)

/-! ### One flush for a socket -/

/-- The variables of a connection that is registering stay, until its HELLO ends. -/
theorem registered_kept {s s' : ConnectionState W} {event : ConnectionEvent W}
    (hstep : ConnectionStep s event s')
    (hconnection : s.connections ws = ⟨none, some (.registered did)⟩)
    (hended : event ≠ .helloEnded ws) (hfailed : event ≠ .helloFailed ws) :
    s'.connections ws = ⟨none, some (.registered did)⟩ := by
  rw [← hconnection]
  refine (SameSockets.step hstep).connections ws fun hhello => ?_
  have hfree {connection : Connection} (hbefore : s.connections ws = connection)
      (hother : connection ≠ ⟨none, some (.registered did)⟩) : False :=
    hother (hbefore.symm.trans hconnection)
  cases hstep with
  | helloReceived hbefore =>
    obtain rfl := Option.some.inj hhello
    exact hfree hbefore nofun
  | helloRejected hbefore =>
    obtain rfl := Option.some.inj hhello
    exact hfree hbefore nofun
  | registered hbefore _ =>
    obtain rfl := Option.some.inj hhello
    exact hfree hbefore nofun
  | helloEnded _ =>
    obtain rfl := Option.some.inj hhello
    exact hended rfl
  | helloFailed _ =>
    obtain rfl := Option.some.inj hhello
    exact hfailed rfl
  | _ => cases hhello

/-- **A flush has its socket to itself**: the connection is registering under the DID of the
flush, and no other flush is for the socket. -/
structure RelayState.FlushesApart (s : RelayState W T) : Prop where
  owner : ∀ task ws did messages, s.flush task = some (ws, did, messages) →
    s.conn.connections ws = ⟨none, some (.registered did)⟩
  apart : ∀ task task' ws did did' messages messages', s.flush task = some (ws, did, messages) →
    s.flush task' = some (ws, did', messages') → task = task'

/-- A flush that a step leaves running was running, or is starting. -/
theorem flush_before (hstep : RelayStep config relayDid s event s')
    (hflush : s'.flush task = some (ws, did, messages)) :
    (∃ messages, s.flush task = some (ws, did, messages)) ∨
      ∃ realm now, event = .registered task ws realm now ∧
        s.conn.connections ws = ⟨none, some (.verifying did)⟩ ∧
        s'.conn.connections ws = ⟨none, some (.registered did)⟩ := by
  have hinversion := flushStep_of_step hstep task
  cases hinversion with
  | same _ hsame => exact Or.inl ⟨messages, hsame ▸ hflush⟩
  | started hconnection hconnection' _ hstarted =>
    rw [hstarted] at hflush
    cases hflush
    exact Or.inr ⟨_, _, rfl, hconnection, hconnection'⟩
  | delivered hbefore hafter =>
    rw [hafter] at hflush
    cases hflush
    exact Or.inl ⟨_, hbefore⟩
  | ended _ hafter =>
    rw [hafter] at hflush
    cases hflush
  | failed _ hafter _ =>
    rw [hafter] at hflush
    cases hflush

/-- A HELLO that has registered ends with its flush. -/
theorem flush_ended_of_carries (hstep : RelayStep config relayDid s event s')
    {event' : ConnectionEvent W} (hcarries : event.Carries event')
    (hends : event' = .helloEnded ws ∨ event' = .helloFailed ws) :
    ∃ task did messages, s.flush task = some (ws, did, messages) ∧ s'.flush task = none := by
  cases event with
  | connection event =>
    obtain ⟨rfl, hjoint⟩ := hcarries
    rcases hends with rfl | rfl <;> cases hjoint
  | helloEnded task ws' =>
    cases hcarries
    obtain ⟨rfl⟩ : ws' = ws := by simpa using hends
    have hinversion := flushStep_of_step hstep task
    cases hinversion with
    | same hother _ => exact absurd rfl hother
    | ended hending hafter => exact ⟨task, _, _, hending, hafter⟩
  | helloFailed task ws' =>
    cases hcarries
    obtain ⟨rfl⟩ : ws' = ws := by simpa using hends
    have hinversion := flushStep_of_step hstep task
    cases hinversion with
    | same hother _ => exact absurd rfl hother
    | failed hending hafter _ => exact ⟨task, _, _, hending, hafter⟩
  | registered _ _ _ _ =>
    cases hcarries
    rcases hends with hends | hends <;> cases hends
  | accepted _ _ _ delivered =>
    cases delivered with
    | none =>
      obtain ⟨_, rfl⟩ := hcarries
      rcases hends with hends | hends <;> cases hends
    | some _ => exact hcarries.elim
  | _ => exact hcarries.elim

theorem RelayState.FlushesApart.step (h : s.FlushesApart)
    (hstep : RelayStep config relayDid s event s') : s'.FlushesApart := by
  refine ⟨fun task ws did messages hflush => ?_,
    fun task task' ws did did' messages messages' hflush hflush' => ?_⟩
  · rcases flush_before hstep hflush with ⟨messages', hbefore⟩ | ⟨_, _, _, _, hconnection'⟩
    · have hconnection := h.owner task ws did messages' hbefore
      rcases conn_of_step hstep with hconn | ⟨event', hcarries, hconn⟩
      · rw [hconn]
        exact hconnection
      · -- the HELLO of this socket could only be ended by this flush
        have hkept (hends : event' = .helloEnded ws ∨ event' = .helloFailed ws) : False := by
          obtain ⟨task', did', messages'', hending, hgone⟩ :=
            flush_ended_of_carries hstep hcarries hends
          obtain rfl := h.apart task task' ws did did' _ _ hbefore hending
          rw [hgone] at hflush
          cases hflush
        exact registered_kept hconn hconnection (fun hended => hkept (Or.inl hended))
          fun hfailed => hkept (Or.inr hfailed)
    · exact hconnection'
  · have hnew {task : T} {ws : W} {did did' : String} {messages : List QueuedMessage} (hbefore : s.flush task = some (ws, did, messages))
        (hverifying : s.conn.connections ws = ⟨none, some (.verifying did')⟩) : False := by
      rw [h.owner task ws did messages hbefore] at hverifying
      cases hverifying
    rcases flush_before hstep hflush with ⟨_, hbefore⟩ | ⟨_, _, hevent, hverifying, _⟩
    · rcases flush_before hstep hflush' with ⟨_, hbefore'⟩ | ⟨_, _, _, hverifying', _⟩
      · exact h.apart task task' ws did did' _ _ hbefore hbefore'
      · exact (hnew hbefore hverifying').elim
    · rcases flush_before hstep hflush' with ⟨_, hbefore'⟩ | ⟨_, _, hevent', _, _⟩
      · exact (hnew hbefore' hverifying).elim
      · rw [hevent] at hevent'
        cases hevent'
        rfl

theorem RelayState.FlushesApart.run (hstart : start.Starting)
    (hrun : Trace (RelayStep config relayDid) start events s) : s.FlushesApart := by
  induction hrun with
  | nil =>
    have hidle (task : T) : start.flush task = none := flush_of_idle (hstart.tasks task)
    refine ⟨fun task _ _ _ hflush => ?_, fun task _ _ _ _ _ _ hflush => ?_⟩ <;>
      rw [hidle task] at hflush <;> cases hflush
  | snoc _ hlast ih => exact ih.step hlast

/-! ### Runs in order -/

/-- A message that waits in the queue: its record is outstanding, and no SEND is still about to
report it. -/
def RelayState.Waits (s : RelayState W T) (key : String) (record : StoredQueuedMessage) : Prop :=
  s.db.get? key = some record ∧ Outstanding record.status ∧
    ∀ task phase message, s.tasks task = some phase → phase.pending = some message →
      message.messageId ≠ record.messageId

/-- **The condition of a step.**  `enqueue` stamps a message after every message of its pair that
waits: at a later time, or at the same time and under a greater key.  And a retry pass does not
overtake a flush that has an earlier message of the pair on its list. -/
structure OrderedStep (config : MessageQueueConfig) (relayDid : String) (s : RelayState W T)
    (event : RelayEvent W T) (s' : RelayState W T) : Prop where
  distinct : DistinctStep config relayDid s event s'
  stamped : ∀ task send messageId now, event = .handled task messageId now →
    s.tasks task = some (.routing send) → ∀ key record, s.Waits key record →
      record.fromDid = send.fromDid → record.toDid = send.toDid →
        record.queuedAt < now ∨ record.queuedAt = now ∧ key < queueKey send.toDid messageId
  passed : ∀ task message ws, event = .retryDelivered task message ws →
    ∀ task' did messages, s.flush task' = some (ws, did, messages) → ∀ earlier ∈ messages,
      earlier.fromDid = message.fromDid → earlier.toDid = message.toDid →
        ¬earlier.Before message

/-- The message of a record that has its envelope. -/
theorem normalizeQueuedMessage_of_envelope {record : StoredQueuedMessage}
    {envelope : QueuedEnvelope} (h : record.envelope = some envelope) :
    ∃ copy, normalizeQueuedMessage record = some copy ∧ copy.messageId = record.messageId ∧
      copy.toDid = record.toDid ∧ copy.fromDid = record.fromDid ∧
      copy.queuedAt = record.queuedAt := by
  rw [normalizeQueuedMessage, h]
  exact ⟨_, rfl, rfl, rfl, rfl, rfl⟩

/-- A copy under the key of a message that is known is one of it. -/
theorem RelayState.Known.same_of_key (h : s.Known message) (hkeyed : s.Keyed)
    {copy : QueuedMessage} (hdrawn : copy.messageId ∈ s.drawn)
    (hcopy : copy.messageId = message.messageId → copy.toDid = message.toDid ∧
      copy.fromDid = message.fromDid ∧ copy.queuedAt = message.queuedAt)
    (hkey : copy.key = message.key) :
    copy.toDid = message.toDid ∧ copy.fromDid = message.fromDid ∧
      copy.queuedAt = message.queuedAt :=
  hcopy (queueKey_inj (hkeyed.drawn _ hdrawn) (hkeyed.drawn _ h.drawn) hkey).2

/-- The record of an accepted message that was not released, and the copy that is read of it. -/
theorem waits_of_accepted (haccounted : Accounted events s) (hdrawn : DrawnOnce events s)
    {reported : Bool} {delivered : Option W}
    (haccepted : RelayEvent.accepted task message reported delivered ∈ events)
    (hkept : Unreleased events message) :
    ∃ record copy, s.Waits message.key record ∧ normalizeQueuedMessage record = some copy ∧
      copy.key = message.key ∧ record.toDid = message.toDid ∧
      record.fromDid = message.fromDid ∧ record.queuedAt = message.queuedAt := by
  obtain ⟨task', hstored⟩ := haccounted.accepted task message reported delivered haccepted
  obtain ⟨record, hget, houtstanding, henvelope, _⟩ :=
    (haccounted.stored task' message hstored hkept).record
  obtain ⟨hknown, hothers⟩ := hdrawn.accepted task message reported delivered haccepted
  obtain ⟨copy, hread, hid, hto, hfrom, hat⟩ := normalizeQueuedMessage_of_envelope henvelope
  have hkey : copy.key = message.key :=
    (key_of_normalize hread).trans (haccounted.keyed.records _ record hget).1.symm
  obtain ⟨hto', hfrom', hat'⟩ := hknown.same_of_key haccounted.keyed
    (haccounted.keyed.read hget hread).2 (hknown.copies.records _ record copy hget hread) hkey
  have hsame : record.messageId = message.messageId :=
    hid ▸ (queueKey_inj (haccounted.keyed.drawn _ (haccounted.keyed.read hget hread).2)
      (haccounted.keyed.drawn _ hknown.drawn) hkey).2
  refine ⟨record, copy, ⟨hget, houtstanding, fun task'' phase pending htask hpending => ?_⟩, hread,
    hkey, hto ▸ hto', hfrom ▸ hfrom', hat ▸ hat'⟩
  rw [hsame]
  exact hothers task'' phase pending htask hpending

/-! ### What is still ahead of a later message -/

/-- **A message is ahead** on a socket: it was sent there, or the flush has still to send it, or
nothing can be sent there any more. -/
def RelayState.Ahead (s : RelayState W T) (events : List (RelayEvent W T)) (task : T) (ws : W)
    (did : String) (message : QueuedMessage) : Prop :=
  s.conn.readyState ws ≠ .OPEN ∨ (∃ event ∈ events, event.sends = some (ws, message.key)) ∨
    ∃ messages, s.flush task = some (ws, did, messages) ∧
      messages.Pairwise QueuedMessage.Before ∧ ∃ copy ∈ messages, copy.key = message.key

theorem closed_of_step (hstep : RelayStep config relayDid s event s')
    (hclosed : s.conn.readyState ws ≠ .OPEN) : s'.conn.readyState ws ≠ .OPEN := by
  rcases conn_of_step hstep with hconn | ⟨event', _, hconn⟩
  · rw [hconn]
    exact hclosed
  · exact fun hopen => hclosed ((SameSockets.step hconn).opened ws hopen)

theorem RelayState.Ahead.step (h : s.Ahead events task ws did message)
    (hstep : RelayStep config relayDid s event s') :
    s'.Ahead (events ++ [event]) task ws did message := by
  rcases h with hclosed | ⟨event', hevent, hsends⟩ | ⟨messages, hflush, hsorted, copy, hcopy, hkey⟩
  · exact Or.inl (closed_of_step hstep hclosed)
  · exact Or.inr (Or.inl ⟨event', List.mem_append_left _ hevent, hsends⟩)
  · have hinversion := flushStep_of_step hstep task
    cases hinversion with
    | same _ hsame => exact Or.inr (Or.inr ⟨messages, hsame ▸ hflush, hsorted, copy, hcopy, hkey⟩)
    | started _ _ hidle _ =>
      rw [hidle] at hflush
      cases hflush
    | @delivered _ _ head rest hbefore hafter =>
      rw [hbefore] at hflush
      cases hflush
      rcases List.mem_cons.mp hcopy with rfl | hrest
      · by_cases hopen : s.conn.readyState ws = .OPEN
        · refine Or.inr (Or.inl ⟨_, List.mem_append_right _ List.mem_cons_self, ?_⟩)
          rw [decide_eq_true hopen, ← hkey]
          rfl
        · exact Or.inl (closed_of_step hstep hopen)
      · exact Or.inr (Or.inr ⟨rest, hafter, (List.pairwise_cons.mp hsorted).2, copy, hrest, hkey⟩)
    | ended hbefore _ =>
      rw [hbefore] at hflush
      cases hflush
      cases hcopy
    | failed hbefore _ hclosed =>
      rw [hbefore] at hflush
      cases hflush
      exact Or.inl hclosed

theorem RelayState.Ahead.run (h : start.Ahead [] task ws did message)
    (hrun : Trace (RelayStep config relayDid) start events s) :
    s.Ahead events task ws did message := by
  induction hrun with
  | nil => exact h
  | snoc _ hlast ih => exact ih.step hlast

/-- What a flush has still to send are copies of its task. -/
theorem mem_messages_of_flush {copy : QueuedMessage} (hflush : s.flush task = some (ws, did, messages))
    (hcopy : copy ∈ messages) : ∃ phase, s.tasks task = some phase ∧ copy ∈ phase.messages := by
  rw [RelayState.flush, Option.bind_eq_some_iff] at hflush
  obtain ⟨phase, htask, hflush⟩ := hflush
  refine ⟨phase, htask, ?_⟩
  cases phase with
  | flushing _ _ _ =>
    cases hflush
    exact hcopy
  | marking _ _ _ rest =>
    cases rest with
    | flush _ _ _ =>
      cases hflush
      exact List.mem_append_right _ hcopy
    | _ => cases hflush
  | _ => cases hflush

/-- **The three ways to send a message**, each on an open socket. -/
theorem sends_cases (hstep : RelayStep config relayDid s event s') {key : String}
    (hsends : event.sends = some (ws, key)) :
    s.conn.readyState ws = .OPEN ∧
      ((∃ task message reported, event = .accepted task message reported (some ws) ∧
          message.key = key) ∨
        (∃ task message messages, event = .retryDelivered task message ws ∧
          s.tasks task = some (.retrying (message :: messages)) ∧ message.key = key) ∨
        ∃ task did message messages, s.flush task = some (ws, did, message :: messages) ∧
          message.key = key) := by
  cases hstep with
  | acceptedOpen _ _ hopen =>
    cases hsends
    exact ⟨hopen, Or.inl ⟨_, _, _, rfl, rfl⟩⟩
  | @retryDelivered task message messages ws' htask hsocket =>
    cases hsends
    refine ⟨?_, Or.inr (Or.inl ⟨task, message, messages, rfl, htask, rfl⟩)⟩
    rw [RelayState.openSocket] at hsocket
    split at hsocket
    · split at hsocket
      · rename_i hopen
        cases hsocket
        exact hopen.2
      · cases hsocket
    · cases hsocket
  | @flushDelivered task ws' did message messages htask =>
    by_cases hopen : s.conn.readyState ws' = .OPEN
    · rw [decide_eq_true hopen] at hsends
      cases hsends
      exact ⟨hopen, Or.inr (Or.inr ⟨task, did, message, messages, flush_of_tasks htask, rfl⟩)⟩
    · rw [decide_eq_false hopen] at hsends
      cases hsends
  | _ => cases hsends

/-- A message that is accepted waits ahead of one that `enqueue` draws later. -/
theorem before_of_handled (haccounted : Accounted events s) (hdrawn : DrawnOnce events s)
    {first : QueuedMessage} {reported : Bool} {delivered : Option W}
    (haccepted : RelayEvent.accepted task first reported delivered ∈ events)
    (hkept : Unreleased events first) {send : SendCall} {messageId : String} {now : ℕ}
    (hstep : OrderedStep config relayDid s (.handled task' messageId now) s')
    (hrouting : s.tasks task' = some (.routing send)) (hfrom : first.fromDid = send.fromDid)
    (hto : first.toDid = send.toDid) :
    first.Before (queuedMessage config send.toDid send.fromDid messageId send.envelope now) := by
  obtain ⟨record, copy, hwaits, _, _, hto', hfrom', hat⟩ :=
    waits_of_accepted haccounted hdrawn haccepted hkept
  have hstamped := hstep.stamped task' send messageId now rfl hrouting first.key record hwaits
    (hfrom'.trans hfrom) (hto'.trans hto)
  rw [hat] at hstamped
  exact hstamped

/-- The flush of a HELLO has every message on its list that waits for its DID, in order. -/
theorem ahead_of_registered (haccounted : Accounted events s) (hdrawn : DrawnOnce events s)
    {first : QueuedMessage} {reported : Bool} {delivered : Option W} {realm : String} {now : ℕ}
    (haccepted : RelayEvent.accepted task' first reported delivered ∈ events)
    (hkept : Unreleased events first)
    (hdid : s.conn.connections ws = ⟨none, some (.verifying first.toDid)⟩)
    (hstep : RelayStep config relayDid s (.registered task ws realm now) s') :
    s'.Ahead [] task ws first.toDid first := by
  obtain ⟨record, copy, ⟨hget, houtstanding, _⟩, hread, hkey, _⟩ :=
    waits_of_accepted haccounted hdrawn haccepted hkept
  have hinversion := flushStep_of_step hstep task
  cases hinversion with
  | same hother _ => exact absurd rfl hother
  | started hconnection _ _ hflush =>
    rw [hdid] at hconnection
    cases hconnection
    refine Or.inr (Or.inr ⟨_, hflush, pairwise_getQueuedMessages fun key record hrecord =>
      (haccounted.keyed.records key record hrecord).1, copy, ?_, hkey⟩)
    exact mem_getQueuedMessages.mpr
      ⟨first.key, record, hget, startsWithDid_queueKey _ _, houtstanding, hread⟩

/-- **Per-pair FIFO.**  In every run in which `enqueue` stamps every message after those of its pair
that wait, and no retry pass overtakes a flush, two messages of one sender to one recipient, the
second of them handled once the first was accepted, reach the recipient in this order when it
connects: before the second is sent on its new socket, the first has been sent there, unless it has
left the queue by its acknowledgement, its expiry or its last retry. -/
theorem flush_in_order (hstart : start.Starting) {earlier later after : List (RelayEvent W T)}
    {t t' : RelayState W T} {first second : QueuedMessage} {sender₁ sender₂ sender₂' : T}
    {reported₁ reported₂ : Bool} {delivered₁ delivered₂ : Option W} {now₂ now : ℕ} {realm : String}
    (hsent : Trace (OrderedStep config relayDid) start (earlier ++ later) s)
    (hfirst : RelayEvent.accepted sender₁ first reported₁ delivered₁ ∈ earlier)
    (hhandled : RelayEvent.handled sender₂ second.messageId now₂ ∈ later)
    (hsecond : RelayEvent.accepted sender₂' second reported₂ delivered₂ ∈ later)
    (hfrom : first.fromDid = second.fromDid) (hto : first.toDid = second.toDid)
    (hdid : s.conn.connections ws = ⟨none, some (.verifying first.toDid)⟩)
    (hregistered : OrderedStep config relayDid s (.registered task ws realm now) s')
    (hflush : Trace (OrderedStep config relayDid) s' after t)
    (hstep : OrderedStep config relayDid t event t')
    (hsends : event.sends = some (ws, second.key)) :
    (∃ event ∈ after, event.sends = some (ws, first.key)) ∨
      ∃ event ∈ earlier ++ later, event.Releases first := by
  by_cases hreleased : ∃ event ∈ earlier ++ later, event.Releases first
  · exact Or.inr hreleased
  refine Or.inl ?_
  have hdistinct {u v : RelayState W T} {es : List (RelayEvent W T)}
      (h : Trace (OrderedStep config relayDid) u es v) : Trace (DistinctStep config relayDid) u es v :=
    h.mono fun hstep => hstep.distinct
  have hsteps {u v : RelayState W T} {es : List (RelayEvent W T)}
      (h : Trace (OrderedStep config relayDid) u es v) : Trace (RelayStep config relayDid) u es v :=
    h.mono fun hstep => hstep.distinct.1
  have hwellFormed : WellFormedDid first.toDid := by
    cases hregistered.distinct.1 with
    | registered _ _ hconn =>
      cases hconn with
      | registered hconnection hwellFormed =>
        rw [hdid] at hconnection
        cases hconnection
        exact hwellFormed
  have hkept {es : List (RelayEvent W T)} (hsub : ∀ event ∈ es, event ∈ earlier ++ later) :
      Unreleased es first :=
    ⟨hwellFormed, fun event hevent hrelease => hreleased ⟨event, hsub event hevent, hrelease⟩⟩
  -- the state in which the second message is drawn
  obtain ⟨between, rest, rfl⟩ := List.append_of_mem hhandled
  have hcut : earlier ++ (between ++ .handled sender₂ second.messageId now₂ :: rest)
      = (earlier ++ between) ++ ([.handled sender₂ second.messageId now₂] ++ rest) := by simp
  rw [hcut] at hsent
  obtain ⟨u, hbefore, hrest⟩ := hsent.of_append
  obtain ⟨u', hone, hrest⟩ := hrest.of_append
  have hdraws : OrderedStep config relayDid u (.handled sender₂ second.messageId now₂) u' :=
    hone.of_singleton
  have haccountedU := Accounted.run hstart (hdistinct hbefore)
  have hdrawnU := DrawnOnce.run hstart (hdistinct hbefore)
  obtain ⟨send, hrouting⟩ : ∃ send, u.tasks sender₂ = some (.routing send) := by
    cases hdraws.distinct.1 with
    | handled hrouting _ _ _ => exact ⟨_, hrouting⟩
  -- what is known of both at the end
  have hwhole : Trace (OrderedStep config relayDid) start
      (earlier ++ between ++ ([.handled sender₂ second.messageId now₂] ++ rest) ++
        ([.registered task ws realm now] ++ after)) t :=
    hsent.append ((Trace.nil.snoc hregistered).append hflush)
  have hdrawnT := DrawnOnce.run hstart (hdistinct hwhole)
  have hknown₁ := (hdrawnT.accepted sender₁ first reported₁ delivered₁ (by simp [hfirst])).1
  obtain ⟨hknown₂, hpending₂⟩ := hdrawnT.accepted sender₂' second reported₂ delivered₂ (by
    rw [← hcut]
    simp only [List.mem_append] at hsecond ⊢
    exact Or.inl (Or.inr hsecond))
  have hnew := (RelayState.Known.of_handled haccountedU.keyed hrouting hdraws.distinct).run
    (hdistinct (hrest.append ((Trace.nil.snoc hregistered).append hflush)))
  -- a copy of the second is behind the first
  have hbehind {copy : QueuedMessage} (hkey : copy.key = second.key)
      {phase : RelayTask W} {task' : T} (htask : t.tasks task' = some phase)
      (hmem : copy ∈ phase.messages) : copy.toDid = first.toDid ∧ copy.fromDid = first.fromDid ∧
        first.Before copy := by
    have hid := (queueKey_inj (hdrawnT.keyed.drawn _ (hdrawnT.keyed.all.tasks _ _ htask copy hmem))
      (hdrawnT.keyed.drawn _ hknown₂.drawn) hkey).2
    obtain ⟨hto₂, hfrom₂, _⟩ := hknown₂.copies.tasks _ _ htask copy hmem hid
    obtain ⟨htoNew, hfromNew, hatNew⟩ := hnew.copies.tasks _ _ htask copy hmem hid
    have hkeyNew : copy.key = (queuedMessage config send.toDid send.fromDid second.messageId
        send.envelope now₂).key := by
      rw [QueuedMessage.key, QueuedMessage.key, htoNew, hid]
      rfl
    have horder := before_of_handled haccountedU hdrawnU (List.mem_append_left _ hfirst)
      (hkept (by simp only [List.mem_append]; tauto)) hdraws hrouting
      (hfrom.trans (hfrom₂.symm.trans hfromNew)) (hto.trans (hto₂.symm.trans htoNew))
    refine ⟨hto₂.trans hto.symm, hfrom₂.trans hfrom.symm, ?_⟩
    rw [QueuedMessage.Before, hatNew, hkeyNew]
    exact horder
  have haccepted : RelayEvent.accepted sender₁ first reported₁ delivered₁ ∈
      earlier ++ between ++ ([.handled sender₂ second.messageId now₂] ++ rest) :=
    List.mem_append_left _ (List.mem_append_left _ hfirst)
  have hahead : t.Ahead after task ws first.toDid first :=
    (ahead_of_registered (Accounted.run hstart (hdistinct hsent))
      (DrawnOnce.run hstart (hdistinct hsent)) haccepted (hkept (by simp)) hdid
        hregistered.distinct.1).run (hsteps hflush)
  obtain ⟨hopen, hway⟩ := sends_cases hstep.distinct.1 hsends
  rcases hahead with hclosed | hsentFirst | ⟨messages, hlist, hsorted, copy, hcopy, hkey⟩
  · exact absurd hopen hclosed
  · exact hsentFirst
  -- the flush still has the first message on its list
  obtain ⟨phase, htask, hmem⟩ := mem_messages_of_flush hlist hcopy
  obtain ⟨hcopyTo, hcopyFrom, hcopyAt⟩ := hknown₁.same_of_key hdrawnT.keyed
    (hdrawnT.keyed.all.tasks _ _ htask copy hmem) (hknown₁.copies.tasks _ _ htask copy hmem) hkey
  have hcopyBefore {message : QueuedMessage} (h : first.Before message) : copy.Before message := by
    rw [QueuedMessage.Before, hcopyAt, hkey]
    exact h
  rcases hway with ⟨task', message, reported, rfl, hsame⟩ |
    ⟨task', message, messages', rfl, htask', hsame⟩ | ⟨task', did', message, messages', hlist', hsame⟩
  · obtain ⟨⟨_, _, hstored⟩, _⟩ := stored_of_accepted hstep.distinct.1
    have hid := (queueKey_inj (hdrawnT.keyed.drawn _
      (hdrawnT.keyed.all.tasks _ _ hstored message List.mem_cons_self))
      (hdrawnT.keyed.drawn _ hknown₂.drawn) hsame).2
    exact absurd hid (hpending₂ task' _ message hstored rfl)
  · obtain ⟨hsameTo, hsameFrom, horder⟩ := hbehind hsame htask' List.mem_cons_self
    exact absurd (hcopyBefore horder) (hstep.passed task' message ws rfl task _ messages hlist copy
      hcopy (hcopyFrom.trans hsameFrom.symm) (hcopyTo.trans hsameTo.symm))
  · have hapart := RelayState.FlushesApart.run hstart (hsteps hwhole)
    obtain rfl := hapart.apart task task' ws _ _ _ _ hlist hlist'
    rw [hlist] at hlist'
    cases hlist'
    obtain ⟨phase', htask', hmem'⟩ := mem_messages_of_flush hlist List.mem_cons_self
    have horder := hcopyBefore (hbehind hsame htask' hmem').2.2
    rcases List.mem_cons.mp hcopy with rfl | hlater
    · exact absurd horder horder.asymm
    · exact absurd ((List.pairwise_cons.mp hsorted).1 copy hlater) horder.asymm

end

/-! ### Runs of one relay -/

/-- The message of one of Alice's SENDs to Bob, who is not connected. -/
def pairMessage (messageId : String) (byte : UInt8) : QueuedMessage :=
  queuedMessage DEFAULT_CONFIG "did:agent:zBob" "did:agent:zAlice" messageId [byte] 20

/-- The records of both messages. -/
def pairDb (messageId messageId' : String) : MessageDb :=
  (Record.single (pairMessage messageId 1).key (pairMessage messageId 1).stored).set
    (pairMessage messageId' 2).key (pairMessage messageId' 2).stored

/-- A step of the run below: it delivers no retry, and `enqueue` finds nothing waiting but the first
message. -/
structure PairStep (messageId messageId' : String) (s : RelayState Bool Unit)
    (event : RelayEvent Bool Unit) (s' : RelayState Bool Unit) : Prop where
  distinct : DistinctStep DEFAULT_CONFIG "did:agent:zRelay" s event s'
  retried : ∀ task message ws, event ≠ .retryDelivered task message ws
  stamped : ∀ task send id now, event = .handled task id now →
    s.tasks task = some (.routing send) → ∀ key record, s.Waits key record →
      key = (pairMessage messageId 1).key ∧ record.queuedAt = 20 ∧ now = 20 ∧
        queueKey send.toDid id = (pairMessage messageId' 2).key

def firstSent (messageId : String) : List (RelayEvent Bool Unit) :=
  [.connection (.helloReceived true "did:agent:zAlice"), .registered () true "public" 10,
    .helloEnded () true, .sendReceived () ⟨"did:agent:zAlice", "did:agent:zBob", [1]⟩,
    .handled () messageId 20, .stored () (pairMessage messageId 1),
    .accepted () (pairMessage messageId 1) true none]

def secondSent (messageId' : String) : List (RelayEvent Bool Unit) :=
  [.sendReceived () ⟨"did:agent:zAlice", "did:agent:zBob", [2]⟩, .handled () messageId' 20,
    .stored () (pairMessage messageId' 2), .accepted () (pairMessage messageId' 2) true none,
    .connection (.helloReceived false "did:agent:zBob")]

/-- **Alice sends two messages in one millisecond**; then Bob connects, and is sent both. -/
theorem pair_flushed {messageId messageId' : String} (hrandom : RandomId messageId)
    (hrandom' : RandomId messageId') (hne : messageId' ≠ messageId)
    {message message' : QueuedMessage}
    (hlist : getQueuedMessages "did:agent:zBob" (pairDb messageId messageId') = [message, message'])
    (hsize : getQueueSize "did:agent:zBob" (Record.single (pairMessage messageId 1).key
      (pairMessage messageId 1).stored) < 1000) :
    ∃ s s' t t' : RelayState Bool Unit,
      Trace (PairStep messageId messageId') idleDelivery
        (firstSent messageId ++ secondSent messageId') s ∧
      s.conn.connections false = ⟨none, some (.verifying "did:agent:zBob")⟩ ∧
      PairStep messageId messageId' s (.registered () false "public" 30) s' ∧
      Trace (PairStep messageId messageId') s'
        [.flushDelivered () message false true, .markFailed ()] t ∧
      PairStep messageId messageId' t (.flushDelivered () message' false true) t' := by
  have hrun : Trace (PairStep messageId messageId') idleDelivery [] idleDelivery := .nil
  have hreceived := hrun.snoc ⟨⟨.connection
    (@ConnectionStep.helloReceived _ _ _ true "did:agent:zAlice" rfl) rfl, nofun⟩, nofun, nofun⟩
  have hregistered := hreceived.snoc ⟨⟨@RelayStep.registered _ _ _ _ _ _ _ () true _ _ _ _ rfl rfl
    (@ConnectionStep.registered _ _ _ true _ "public" 10 rfl (by decide)), nofun⟩, nofun, nofun⟩
  have hended := hregistered.snoc ⟨⟨@RelayStep.helloEnded _ _ _ _ _ _ _ () true _ _ rfl
    (@ConnectionStep.helloEnded _ _ _ true _ rfl), nofun⟩, nofun, nofun⟩
  have hsent := hended.snoc ⟨⟨@RelayStep.sendReceived _ _ _ _ _ _ _ () true
    ⟨"did:agent:zAlice", "did:agent:zBob", [1]⟩ rfl rfl, nofun⟩, nofun, nofun⟩
  have hhandled := hsent.snoc ⟨⟨@RelayStep.handled _ _ _ _ _ _ _ () _ messageId 20 rfl (by decide)
    (by rintro ⟨_, target, _, htarget, _⟩; cases htarget) hrandom,
    fun _ _ _ _ hdrawn => (by cases hdrawn)⟩, nofun, by
      rintro _ _ _ _ _ _ key record ⟨hget, _⟩
      cases hget⟩
  have hstored := hhandled.snoc ⟨⟨@RelayStep.stored _ _ _ _ _ _ _ () _ _ (pairMessage messageId 1) _
    rfl (by decide), nofun⟩, nofun, nofun⟩
  have haccepted := hstored.snoc ⟨⟨@RelayStep.acceptedOffline _ _ _ _ _ _ _ () _ _
    (pairMessage messageId 1) rfl (by rintro ref href; cases href), nofun⟩, nofun, nofun⟩
  -- the second message
  have hsent' := haccepted.snoc ⟨⟨@RelayStep.sendReceived _ _ _ _ _ _ _ () true
    ⟨"did:agent:zAlice", "did:agent:zBob", [2]⟩ rfl rfl, nofun⟩, nofun, nofun⟩
  have hhandled' := hsent'.snoc ⟨⟨@RelayStep.handled _ _ _ _ _ _ _ () _ messageId' 20 rfl
    (by decide) (by rintro ⟨_, target, _, htarget, _⟩; cases htarget) hrandom', by
      rintro _ _ _ hevent hdrawn
      cases hevent
      exact hne (List.mem_singleton.mp hdrawn)⟩, nofun, by
      rintro _ send _ _ hevent hrouting key record ⟨hget, _⟩
      cases hevent
      cases hrouting
      have hget : (Record.single (pairMessage messageId 1).key
        (pairMessage messageId 1).stored).get? key = some record := hget
      rw [Record.get?_single] at hget
      split at hget
      · rename_i hkey
        cases hget
        exact ⟨hkey.symm, rfl, rfl, rfl⟩
      · cases hget⟩
  have hstored' := hhandled'.snoc ⟨⟨@RelayStep.stored _ _ _ _ _ _ _ () _ _
    (pairMessage messageId' 2) _ rfl hsize, nofun⟩, nofun, nofun⟩
  have haccepted' := hstored'.snoc ⟨⟨@RelayStep.acceptedOffline _ _ _ _ _ _ _ () _ _
    (pairMessage messageId' 2) rfl (by rintro ref href; cases href), nofun⟩, nofun, nofun⟩
  -- Bob
  have hhello := haccepted'.snoc ⟨⟨.connection
    (@ConnectionStep.helloReceived _ _ _ false "did:agent:zBob" rfl) rfl, nofun⟩, nofun, nofun⟩
  refine ⟨_, _, _, _, hhello, rfl, ⟨⟨@RelayStep.registered _ _ _ _ _ _ _ () false _ _ _ _ rfl rfl
    (@ConnectionStep.registered _ _ _ false _ "public" 30 rfl (by decide)), nofun⟩, nofun, nofun⟩,
    (Trace.single ⟨⟨@RelayStep.flushDelivered _ _ _ _ _ _ _ () false "did:agent:zBob" message
      [message'] ?_, nofun⟩, nofun, nofun⟩).snoc ⟨⟨@RelayStep.markFailed _ _ _ _ _ _ _ () _ _ _ _
        rfl, nofun⟩, nofun, nofun⟩,
    ⟨⟨@RelayStep.flushDelivered _ _ _ _ _ _ _ () false "did:agent:zBob" message' [] rfl, nofun⟩,
      nofun, nofun⟩⟩
  rw [← hlist]
  rfl

theorem not_released (messageId messageId' : String) :
    ¬∃ event ∈ firstSent messageId ++ secondSent messageId',
      event.Releases (pairMessage messageId 1) := by
  simp [firstSent, secondSent, RelayEvent.Releases]

/-- The second message has the greater key, and Bob is sent the first one before it. -/
theorem flush_in_order_sample :
    ∃ after : List (RelayEvent Bool Unit), ∃ s t t' : RelayState Bool Unit,
      Trace (OrderedStep DEFAULT_CONFIG "did:agent:zRelay") idleDelivery
        (firstSent "a1" ++ secondSent "b2") s ∧
      OrderedStep DEFAULT_CONFIG "did:agent:zRelay" t
        (.flushDelivered () (pairMessage "b2" 2) false true) t' ∧
      ∃ event ∈ after, event.sends = some (false, (pairMessage "a1" 1).key) := by
  obtain ⟨s, s', t, t', hsent, hdid, hregistered, hflush, hlast⟩ :=
    @pair_flushed "a1" "b2" (by decide) (by decide) (by decide) (pairMessage "a1" 1)
      (pairMessage "b2" 2) (by decide) (by decide)
  have hordered {s event s'} (h : PairStep "a1" "b2" s event s') :
      OrderedStep DEFAULT_CONFIG "did:agent:zRelay" s event s' := by
    refine ⟨h.distinct, fun task send id now hevent hrouting key record hwaits _ _ => ?_,
      fun task message ws hevent => absurd hevent (h.retried task message ws)⟩
    obtain ⟨hkey, hat, hnow, hnew⟩ := h.stamped task send id now hevent hrouting key record hwaits
    rw [hkey, hat, hnow, hnew]
    decide
  have hfirst : RelayEvent.accepted () (pairMessage "a1" 1) true none ∈ firstSent "a1" := by
    simp [firstSent]
  have hhandled : RelayEvent.handled () "b2" 20 ∈ secondSent "b2" := by simp [secondSent]
  have hsecond : RelayEvent.accepted () (pairMessage "b2" 2) true none ∈ secondSent "b2" := by
    simp [secondSent]
  have horder := flush_in_order idleDelivery_starting (hsent.mono hordered) hfirst hhandled hsecond
    rfl rfl hdid (hordered hregistered) (hflush.mono hordered) (hordered hlast) rfl
  exact ⟨_, s, t, t', hsent.mono hordered, hordered hlast,
    horder.resolve_right (not_released "a1" "b2")⟩

/-- **Two messages of one millisecond are sent in reverse.**  Alice's second SEND is handled once
her first was accepted, by the same reading of the clock, and draws the smaller id: Bob is sent the
second message while the first waits. -/
theorem flush_reordered :
    ∃ s s' t t' : RelayState Bool Unit,
      Trace (DistinctStep DEFAULT_CONFIG "did:agent:zRelay") idleDelivery
        (firstSent "b2" ++ secondSent "a1") s ∧
      RelayEvent.accepted () (pairMessage "b2" 1) true none ∈ firstSent "b2" ∧
      RelayEvent.handled () "a1" 20 ∈ secondSent "a1" ∧
      RelayEvent.accepted () (pairMessage "a1" 2) true none ∈ secondSent "a1" ∧
      (¬∃ event ∈ firstSent "b2" ++ secondSent "a1", event.Releases (pairMessage "b2" 1)) ∧
      s.conn.connections false = ⟨none, some (.verifying "did:agent:zBob")⟩ ∧
      DistinctStep DEFAULT_CONFIG "did:agent:zRelay" s (.registered () false "public" 30) s' ∧
      Trace (DistinctStep DEFAULT_CONFIG "did:agent:zRelay") s'
        [.flushDelivered () (pairMessage "a1" 2) false true, .markFailed ()] t ∧
      DistinctStep DEFAULT_CONFIG "did:agent:zRelay" t
        (.flushDelivered () (pairMessage "b2" 1) false true) t' := by
  obtain ⟨s, s', t, t', hsent, hdid, hregistered, hflush, hlast⟩ :=
    @pair_flushed "b2" "a1" (by decide) (by decide) (by decide) (pairMessage "a1" 2)
      (pairMessage "b2" 1) (by decide) (by decide)
  have hdistinct {s event s'} (h : PairStep "b2" "a1" s event s') :
      DistinctStep DEFAULT_CONFIG "did:agent:zRelay" s event s' := h.distinct
  exact ⟨s, s', t, t', hsent.mono hdistinct, by simp [firstSent], by simp [secondSent],
    by simp [secondSent], not_released "b2" "a1", hdid, hregistered.distinct,
    hflush.mono hdistinct, hlast.distinct⟩

end QuadraA.Relay
