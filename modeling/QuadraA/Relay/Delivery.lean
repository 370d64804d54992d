import QuadraA.Relay.Connections
import QuadraA.Relay.MessageQueue

/-!
# Delivery at the relay

`relay/src/relay-agent-delivery.ts` with the HELLO flush of `relay-agent-connection.ts` and the
acknowledgements of `relay-agent-client-handlers.ts`: the handlers that read and write the message
queue, interleaved at the `await` points of its operations.

* `RelayState` — the connections, the queue's database, and the tasks with what they have read;
* `Keyed` — every record stands under the key of its own fields, and so does every copy that a task
  is about to write back.

An iterator reads the database as it was when the iterator was made.  A database operation may fail,
and then changes nothing; sending on an open socket does not fail.
-/

set_option linter.unusedSectionVars false

namespace QuadraA.Relay

open QuadraA.Lib

/-! ### Tasks -/

/-- A SEND of an authenticated connection, its envelope as bytes. -/
structure SendCall where
  fromDid : String
  toDid : String
  envelope : QueuedEnvelope

/-- What follows a `markInflight`: nothing, the rest of a retry pass, or that of a HELLO flush. -/
inductive AfterMark (W : Type) where
  | done
  | retry (messages : List QueuedMessage)
  | flush (ws : W) (did : String) (messages : List QueuedMessage)

/-- **Where a handler stands.**  `sender` and `target` are the objects that `handleSend` has got
from the registry; `read` is the message that `get` has returned. -/
inductive RelayTask (W : Type) where
  | routing (send : SendCall)
  | counted (sender target : Option ℕ) (message : QueuedMessage) (size : ℕ)
  | stored (sender target : Option ℕ) (message : QueuedMessage)
  | marking (messageId did : String) (read : Option QueuedMessage) (rest : AfterMark W)
  | retrying (messages : List QueuedMessage)
  | expiring (message : QueuedMessage) (read : Option QueuedMessage)
      (messages : List QueuedMessage)
  | expired (message : QueuedMessage) (messages : List QueuedMessage)
  | flushing (ws : W) (did : String) (messages : List QueuedMessage)
  | acking (messageId did : String) (read : Option QueuedMessage)
  | acked (message : QueuedMessage)
  | cleaning (keys : List String)

def AfterMark.task {W : Type} : AfterMark W → Option (RelayTask W)
  | .done => none
  | .retry messages => some (.retrying messages)
  | .flush ws did messages => some (.flushing ws did messages)

/-- **The relay.**  `drawn` are the message ids that `enqueue` has drawn so far. -/
structure RelayState (W T : Type) where
  conn : ConnectionState W
  db : MessageDb
  tasks : T → Option (RelayTask W)
  drawn : List String

inductive RelayEvent (W T : Type) where
  | connection (event : ConnectionEvent W)
  | sendReceived (task : T) (send : SendCall)
  | refused (task : T)
  | federated (task : T)
  | handled (task : T) (messageId : String) (now : ℕ)
  | queueFull (task : T)
  | stored (task : T) (message : QueuedMessage)
  | accepted (task : T) (message : QueuedMessage) (reported : Bool) (delivered : Option W)
  | markRead (task : T)
  | markFailed (task : T)
  | markWritten (task : T) (now : ℕ)
  | retryStarted (task : T) (now : ℕ)
  | retryDelivered (task : T) (message : QueuedMessage) (ws : W)
  | retryExpiring (task : T) (message : QueuedMessage)
  | retrySkipped (task : T)
  | retryEnded (task : T)
  | expireRead (task : T)
  | expireFailed (task : T)
  | expireWritten (task : T) (message : QueuedMessage)
  | expireReported (task : T) (message : QueuedMessage) (reported : Bool)
  | ackReceived (task : T) (did messageId : String)
  | ackRead (task : T)
  | ackFailed (task : T)
  | ackDeleted (task : T)
  | ackReturned (task : T) (message : QueuedMessage) (reported : Bool)
  | cleanupStarted (task : T) (now : ℕ)
  | cleaned (task : T)
  | cleanupEnded (task : T)
  | registered (task : T) (ws : W) (realm : String) (now : ℕ)
  | flushDelivered (task : T) (message : QueuedMessage) (ws : W) (delivered : Bool)
  | helloEnded (task : T) (ws : W)
  | helloFailed (task : T) (ws : W)

/-- The events that the task of a HELLO flush or of a SEND takes part in. -/
def ConnectionEvent.joint {W : Type} : ConnectionEvent W → Bool
  | .registered _ _ _ | .helloEnded _ | .helloFailed _ | .deliveryFailed _ => true
  | _ => false

/-- **The DELIVER of an event**: its socket, and the key of its message. -/
def RelayEvent.sends {W T : Type} : RelayEvent W T → Option (W × String)
  | .accepted _ message _ (some ws) => some (ws, message.key)
  | .retryDelivered _ message ws => some (ws, message.key)
  | .flushDelivered _ message ws true => some (ws, message.key)
  | _ => none

/-- The task that takes an event. -/
def RelayEvent.task {W T : Type} : RelayEvent W T → Option T
  | .connection _ => none
  | .sendReceived task _ | .refused task | .federated task | .handled task _ _ | .queueFull task
  | .stored task _ | .accepted task _ _ _ | .markRead task | .markFailed task | .markWritten task _
  | .retryStarted task _ | .retryDelivered task _ _ | .retryExpiring task _ | .retrySkipped task
  | .retryEnded task | .expireRead task | .expireFailed task | .expireWritten task _
  | .expireReported task _ _ | .ackReceived task _ _ | .ackRead task | .ackFailed task
  | .ackDeleted task | .ackReturned task _ _ | .cleanupStarted task _ | .cleaned task
  | .cleanupEnded task | .registered task _ _ _ | .flushDelivered task _ _ _ | .helloEnded task _
  | .helloFailed task _ => some task

section

variable {W T : Type} [DecidableEq W] [DecidableEq T]

namespace RelayState

def setTask (s : RelayState W T) (task : T) (phase : Option (RelayTask W)) : RelayState W T :=
  { s with tasks := Function.update s.tasks task phase }

/-- The condition of `sendDeliveryReport` on a captured sender. -/
def reports (s : RelayState W T) : Option ℕ → Bool
  | none => false
  | some ref =>
      (s.conn.agents ref).online && decide (s.conn.readyState (s.conn.agents ref).ws = .OPEN)

/-- The open socket under which the registry has a DID online. -/
def openSocket (s : RelayState W T) (did : String) : Option W :=
  match s.conn.get did with
  | some agent =>
      if agent.online = true ∧ s.conn.readyState agent.ws = .OPEN then some agent.ws else none
  | none => none

/-- `sender && target && sender.realm !== target.realm`. -/
def DifferentRealms (s : RelayState W T) (send : SendCall) : Prop :=
  ∃ sender target, s.conn.get send.fromDid = some sender ∧ s.conn.get send.toDid = some target ∧
    sender.realm ≠ target.realm

end RelayState

variable (config : MessageQueueConfig) (relayDid : String)

/-- **What happens between two `await`s.** -/
inductive RelayStep (s : RelayState W T) : RelayEvent W T → RelayState W T → Prop
  | connection {event : ConnectionEvent W} {conn : ConnectionState W} :
      ConnectionStep s.conn event conn → event.joint = false →
      RelayStep s (.connection event) { s with conn := conn }
  -- `routeMessage` and `handleSend`
  | sendReceived {task : T} {ws : W} {send : SendCall} :
      s.tasks task = none → (s.conn.connections ws).did = some send.fromDid →
      RelayStep s (.sendReceived task send) (s.setTask task (some (.routing send)))
  | refused {task : T} {send : SendCall} :
      s.tasks task = some (.routing send) → send.toDid = relayDid ∨ s.DifferentRealms send →
      RelayStep s (.refused task) (s.setTask task none)
  | federated {task : T} {send : SendCall} :
      s.tasks task = some (.routing send) → s.conn.isOnline send.toDid = false →
      RelayStep s (.federated task) (s.setTask task none)
  | handled {task : T} {send : SendCall} {messageId : String} {now : ℕ} :
      s.tasks task = some (.routing send) → send.toDid ≠ relayDid → ¬s.DifferentRealms send →
      RandomId messageId →
      RelayStep s (.handled task messageId now)
        ({ s with drawn := messageId :: s.drawn }.setTask task (some
          (.counted (s.conn.registry send.fromDid) (s.conn.registry send.toDid)
            (queuedMessage config send.toDid send.fromDid messageId send.envelope now)
            (getQueueSize send.toDid s.db))))
  | queueFull {task : T} {sender target : Option ℕ} {message : QueuedMessage} {size : ℕ} :
      s.tasks task = some (.counted sender target message size) →
      RelayStep s (.queueFull task) (s.setTask task none)
  | stored {task : T} {sender target : Option ℕ} {message : QueuedMessage} {size : ℕ} :
      s.tasks task = some (.counted sender target message size) →
      size < config.maxMessagesPerDid →
      RelayStep s (.stored task message)
        ({ s with db := s.db.set message.key message.stored }.setTask task
          (some (.stored sender target message)))
  | acceptedOffline {task : T} {sender target : Option ℕ} {message : QueuedMessage} :
      s.tasks task = some (.stored sender target message) →
      (∀ ref, target = some ref → (s.conn.agents ref).online = false) →
      RelayStep s (.accepted task message (s.reports sender) none) (s.setTask task none)
  | acceptedClosed {task : T} {sender : Option ℕ} {ref : ℕ} {message : QueuedMessage}
      {conn : ConnectionState W} :
      s.tasks task = some (.stored sender (some ref) message) →
      (s.conn.agents ref).online = true → ConnectionStep s.conn (.deliveryFailed ref) conn →
      RelayStep s (.accepted task message (s.reports sender) none)
        ({ s with conn := conn }.setTask task none)
  | acceptedOpen {task : T} {sender : Option ℕ} {ref : ℕ} {message : QueuedMessage} :
      s.tasks task = some (.stored sender (some ref) message) →
      (s.conn.agents ref).online = true → s.conn.readyState (s.conn.agents ref).ws = .OPEN →
      RelayStep s
        (.accepted task message (s.reports sender) (some (s.conn.agents ref).ws))
        (s.setTask task (some (.marking message.messageId message.toDid none .done)))
  -- `markInflight`
  | markRead {task : T} {messageId did : String} {rest : AfterMark W}
      {record : StoredQueuedMessage} {message : QueuedMessage} :
      s.tasks task = some (.marking messageId did none rest) →
      s.db.get? (queueKey did messageId) = some record →
      normalizeQueuedMessage record = some message →
      RelayStep s (.markRead task)
        (s.setTask task (some (.marking messageId did (some message) rest)))
  | markFailed {task : T} {messageId did : String} {read : Option QueuedMessage}
      {rest : AfterMark W} :
      s.tasks task = some (.marking messageId did read rest) →
      RelayStep s (.markFailed task) (s.setTask task rest.task)
  | markWritten {task : T} {messageId did : String} {message : QueuedMessage}
      {rest : AfterMark W} {now : ℕ} :
      s.tasks task = some (.marking messageId did (some message) rest) →
      RelayStep s (.markWritten task now)
        ({ s with
            db := s.db.set (queueKey did messageId) (inflightMessage message now).stored }.setTask
          task rest.task)
  -- `retryUnackedMessages`
  | retryStarted {task : T} {now : ℕ} :
      s.tasks task = none →
      RelayStep s (.retryStarted task now)
        (s.setTask task (some (.retrying (getMessagesForRetry config now s.db))))
  | retryDelivered {task : T} {message : QueuedMessage} {messages : List QueuedMessage} {ws : W} :
      s.tasks task = some (.retrying (message :: messages)) →
      s.openSocket message.toDid = some ws →
      RelayStep s (.retryDelivered task message ws)
        (s.setTask task (some (.marking message.messageId message.toDid none (.retry messages))))
  | retryExpiring {task : T} {message : QueuedMessage} {messages : List QueuedMessage} :
      s.tasks task = some (.retrying (message :: messages)) →
      s.openSocket message.toDid = none → 3 ≤ message.deliveryAttempts →
      RelayStep s (.retryExpiring task message)
        (s.setTask task (some (.expiring message none messages)))
  | retrySkipped {task : T} {message : QueuedMessage} {messages : List QueuedMessage} :
      s.tasks task = some (.retrying (message :: messages)) →
      s.openSocket message.toDid = none → message.deliveryAttempts < 3 →
      RelayStep s (.retrySkipped task) (s.setTask task (some (.retrying messages)))
  | retryEnded {task : T} :
      s.tasks task = some (.retrying []) →
      RelayStep s (.retryEnded task) (s.setTask task none)
  -- `markExpired`, and the report after it
  | expireRead {task : T} {message read : QueuedMessage} {messages : List QueuedMessage}
      {record : StoredQueuedMessage} :
      s.tasks task = some (.expiring message none messages) →
      s.db.get? message.key = some record → normalizeQueuedMessage record = some read →
      RelayStep s (.expireRead task)
        (s.setTask task (some (.expiring message (some read) messages)))
  | expireFailed {task : T} {message : QueuedMessage} {read : Option QueuedMessage}
      {messages : List QueuedMessage} :
      s.tasks task = some (.expiring message read messages) →
      RelayStep s (.expireFailed task) (s.setTask task (some (.expired message messages)))
  | expireWritten {task : T} {message read : QueuedMessage} {messages : List QueuedMessage} :
      s.tasks task = some (.expiring message (some read) messages) →
      RelayStep s (.expireWritten task message)
        ({ s with db := s.db.set message.key (expiredMessage read).stored }.setTask task
          (some (.expired message messages)))
  | expireReported {task : T} {message : QueuedMessage} {messages : List QueuedMessage} :
      s.tasks task = some (.expired message messages) →
      RelayStep s (.expireReported task message (s.conn.isOnline message.fromDid))
        (s.setTask task (some (.retrying messages)))
  -- `handleAck`
  | ackReceived {task : T} {ws : W} {did messageId : String} :
      s.tasks task = none → (s.conn.connections ws).did = some did →
      RelayStep s (.ackReceived task did messageId)
        (s.setTask task (some (.acking messageId did none)))
  | ackRead {task : T} {messageId did : String} {record : StoredQueuedMessage}
      {message : QueuedMessage} :
      s.tasks task = some (.acking messageId did none) →
      s.db.get? (queueKey did messageId) = some record →
      normalizeQueuedMessage record = some message →
      RelayStep s (.ackRead task) (s.setTask task (some (.acking messageId did (some message))))
  | ackFailed {task : T} {messageId did : String} {read : Option QueuedMessage} :
      s.tasks task = some (.acking messageId did read) →
      RelayStep s (.ackFailed task) (s.setTask task none)
  | ackDeleted {task : T} {messageId did : String} {message : QueuedMessage} :
      s.tasks task = some (.acking messageId did (some message)) →
      RelayStep s (.ackDeleted task)
        ({ s with db := s.db.erase (queueKey did messageId) }.setTask task
          (some (.acked message)))
  | ackReturned {task : T} {message : QueuedMessage} :
      s.tasks task = some (.acked message) →
      RelayStep s (.ackReturned task message (s.openSocket message.fromDid).isSome)
        (s.setTask task none)
  -- `cleanupExpiredMessages`
  | cleanupStarted {task : T} {now : ℕ} :
      s.tasks task = none →
      RelayStep s (.cleanupStarted task now)
        (s.setTask task (some (.cleaning (expiredKeys now s.db))))
  | cleaned {task : T} {key : String} {keys : List String} :
      s.tasks task = some (.cleaning (key :: keys)) →
      RelayStep s (.cleaned task)
        ({ s with db := s.db.erase key }.setTask task (some (.cleaning keys)))
  | cleanupEnded {task : T} {keys : List String} :
      s.tasks task = some (.cleaning keys) →
      RelayStep s (.cleanupEnded task) (s.setTask task none)
  -- `handleHello` from the registration on; the snapshot of the queue is taken with it
  | registered {task : T} {ws : W} {did realm : String} {now : ℕ} {conn : ConnectionState W} :
      s.tasks task = none → s.conn.connections ws = ⟨none, some (.verifying did)⟩ →
      ConnectionStep s.conn (.registered ws realm now) conn →
      RelayStep s (.registered task ws realm now)
        ({ s with conn := conn }.setTask task
          (some (.flushing ws did (getQueuedMessages did s.db))))
  | flushDelivered {task : T} {ws : W} {did : String} {message : QueuedMessage}
      {messages : List QueuedMessage} :
      s.tasks task = some (.flushing ws did (message :: messages)) →
      RelayStep s
        (.flushDelivered task message ws (decide (s.conn.readyState ws = .OPEN)))
        (s.setTask task (some (.marking message.messageId did none (.flush ws did messages))))
  | helloEnded {task : T} {ws : W} {did : String} {conn : ConnectionState W} :
      s.tasks task = some (.flushing ws did []) →
      ConnectionStep s.conn (.helloEnded ws) conn →
      RelayStep s (.helloEnded task ws) ({ s with conn := conn }.setTask task none)
  | helloFailed {task : T} {ws : W} {did : String} {messages : List QueuedMessage}
      {conn : ConnectionState W} :
      s.tasks task = some (.flushing ws did messages) →
      ConnectionStep s.conn (.helloFailed ws) conn →
      RelayStep s (.helloFailed task ws) ({ s with conn := conn }.setTask task none)

variable {config relayDid}
variable {s s' start : RelayState W T} {event : RelayEvent W T} {events : List (RelayEvent W T)}
  {task : T} {phase : Option (RelayTask W)}

theorem tasks_setTask {task' : T} {phase' : RelayTask W}
    (h : (s.setTask task phase).tasks task' = some phase') :
    task' = task ∧ phase = some phase' ∨ task' ≠ task ∧ s.tasks task' = some phase' := by
  dsimp only [RelayState.setTask] at h
  rcases update_apply_eq_iff.mp h with ⟨htask, h⟩ | ⟨htask, h⟩
  · exact Or.inl ⟨htask, h⟩
  · exact Or.inr ⟨htask, h⟩

/-- A step leaves the other tasks alone. -/
theorem tasks_of_step (hstep : RelayStep config relayDid s event s')
    (hother : event.task ≠ some task) : s'.tasks task = s.tasks task := by
  have hne {task' : T} (hsome : event.task = some task') : task ≠ task' := by
    rintro rfl
    exact hother hsome
  cases hstep with
  | connection => rfl
  | _ => exact Function.update_of_ne (hne rfl) _ _

/-! ### Where phases come from -/

theorem setTask_self : (s.setTask task phase).tasks task = phase := Function.update_self ..

/-- The event that takes a task into a phase, where the phase says which. -/
def RelayEvent.Enters (event : RelayEvent W T) (task : T) : RelayTask W → Prop
  | .routing send => event = .sendReceived task send
  | .counted _ _ _ _ => ∃ messageId now, event = .handled task messageId now
  | .stored _ _ message => event = .stored task message
  | .expiring message _ _ => event = .retryExpiring task message ∨ event = .expireRead task
  | .acking messageId did _ => event = .ackReceived task did messageId ∨ event = .ackRead task
  | .acked _ => event = .ackDeleted task
  | _ => True

/-- **A task is in a phase** that it was in before, or that the event takes it into. -/
theorem phase_of_step (hstep : RelayStep config relayDid s event s') {phase : RelayTask W}
    (htask : s'.tasks task = some phase) :
    s.tasks task = some phase ∨ event.Enters task phase := by
  by_cases hmine : event.task = some task
  swap
  · exact Or.inl ((tasks_of_step hstep hmine).symm.trans htask)
  refine Or.inr ?_
  cases hstep with
  | connection => cases hmine
  | sendReceived | stored | ackDeleted =>
    cases hmine
    rw [setTask_self] at htask
    cases htask
    rfl
  | handled =>
    cases hmine
    rw [setTask_self] at htask
    cases htask
    exact ⟨_, _, rfl⟩
  | retryExpiring | ackReceived =>
    cases hmine
    rw [setTask_self] at htask
    cases htask
    exact Or.inl rfl
  | expireRead | ackRead =>
    cases hmine
    rw [setTask_self] at htask
    cases htask
    exact Or.inr rfl
  | @markFailed _ _ _ _ rest | @markWritten _ _ _ _ rest =>
    cases hmine
    rw [setTask_self] at htask
    cases rest <;> cases htask <;> trivial
  | _ =>
    cases hmine
    rw [setTask_self] at htask
    cases htask <;> trivial

theorem counted_of_step (hstep : RelayStep config relayDid s event s') {sender target : Option ℕ}
    {message : QueuedMessage} {size : ℕ}
    (htask : s'.tasks task = some (.counted sender target message size)) :
    s.tasks task = some (.counted sender target message size) ∨
      ∃ messageId now, event = .handled task messageId now ∧ message.messageId = messageId ∧
        RandomId messageId ∧ s'.db = s.db ∧
        s' = { s with drawn := messageId :: s.drawn }.setTask task
          (some (.counted sender target message size)) := by
  rcases phase_of_step hstep htask with hold | ⟨messageId, now, rfl⟩
  · exact Or.inl hold
  · cases hstep with
    | handled _ _ _ hrandom =>
      rw [setTask_self] at htask
      cases htask
      exact Or.inr ⟨messageId, now, rfl, rfl, hrandom, rfl, rfl⟩

theorem acking_of_step (hstep : RelayStep config relayDid s event s') {messageId did : String}
    {read : Option QueuedMessage} (htask : s'.tasks task = some (.acking messageId did read)) :
    (∃ read, s.tasks task = some (.acking messageId did read)) ∨
      event = .ackReceived task did messageId ∧ ∃ ws, (s.conn.connections ws).did = some did := by
  rcases phase_of_step hstep htask with hold | rfl | rfl
  · exact Or.inl ⟨read, hold⟩
  · cases hstep with
    | ackReceived _ hdid => exact Or.inr ⟨rfl, _, hdid⟩
  · cases hstep with
    | ackRead hreading =>
      rw [setTask_self] at htask
      cases htask
      exact Or.inl ⟨none, hreading⟩

/-- The event of the connections that an event of the relay carries. -/
def RelayEvent.Carries : RelayEvent W T → ConnectionEvent W → Prop
  | .connection event, event' => event' = event ∧ event.joint = false
  | .registered _ ws realm now, event' => event' = .registered ws realm now
  | .helloEnded _ ws, event' => event' = .helloEnded ws
  | .helloFailed _ ws, event' => event' = .helloFailed ws
  | .accepted _ _ _ none, event' => ∃ ref, event' = .deliveryFailed ref
  | _, _ => False

theorem conn_of_step (hstep : RelayStep config relayDid s event s') :
    s'.conn = s.conn ∨ ∃ event', event.Carries event' ∧ ConnectionStep s.conn event' s'.conn := by
  cases hstep with
  | connection hstep hjoint => exact Or.inr ⟨_, ⟨rfl, hjoint⟩, hstep⟩
  | acceptedClosed _ _ hstep => exact Or.inr ⟨_, ⟨_, rfl⟩, hstep⟩
  | registered _ _ hstep => exact Or.inr ⟨_, rfl, hstep⟩
  | helloEnded _ hstep => exact Or.inr ⟨_, rfl, hstep⟩
  | helloFailed _ hstep => exact Or.inr ⟨_, rfl, hstep⟩
  | _ => exact Or.inl rfl

/-! ### Copies -/

def AfterMark.messages : AfterMark W → List QueuedMessage
  | .done => []
  | .retry messages => messages
  | .flush _ _ messages => messages

/-- The copies of messages that a task has. -/
def RelayTask.messages : RelayTask W → List QueuedMessage
  | .routing _ => []
  | .counted _ _ message _ => [message]
  | .stored _ _ message => [message]
  | .marking _ _ read rest => read.toList ++ rest.messages
  | .retrying messages => messages
  | .expiring message read messages => message :: read.toList ++ messages
  | .expired message messages => message :: messages
  | .flushing _ _ messages => messages
  | .acking _ _ read => read.toList
  | .acked message => [message]
  | .cleaning _ => []

/-- The record that a task has read to change it, with its key. -/
def RelayTask.update : RelayTask W → Option (String × QueuedMessage)
  | .marking messageId did (some message) _ => some (queueKey did messageId, message)
  | .expiring message (some read) _ => some (message.key, read)
  | .acking messageId did (some message) => some (queueKey did messageId, message)
  | _ => none

/-- The keys that a task is about to delete unread. -/
def RelayTask.deletions : RelayTask W → List String
  | .cleaning keys => keys
  | _ => []

/-- The acknowledgements, whose copies are neither sent nor written back. -/
def RelayTask.acks : RelayTask W → Bool
  | .acking _ _ _ | .acked _ => true
  | _ => false

/-- The keys that a task may delete. -/
def RelayTask.Deletes (key : String) : RelayTask W → Prop
  | .acking messageId did _ => queueKey did messageId = key
  | .cleaning keys => key ∈ keys
  | _ => False

theorem messages_task {rest : AfterMark W} {phase : RelayTask W} (h : rest.task = some phase) :
    phase.messages = rest.messages ∧ phase.acks = false ∧ phase.update = none ∧
      phase.deletions = [] ∧ ∀ messageId did read rest', phase ≠ .marking messageId did read rest' := by
  cases rest with
  | done => cases h
  | retry messages | flush ws did messages =>
    cases h
    exact ⟨rfl, rfl, rfl, rfl, nofun⟩

/-- **What a task has after a step**: it had it before, has read it or has drawn it. -/
structure Inherits (config : MessageQueueConfig) (s : RelayState W T) (event : RelayEvent W T)
    (task : T) (phase : RelayTask W) : Prop where
  messages : ∀ message ∈ phase.messages,
    (∃ phase', s.tasks task = some phase' ∧ phase'.acks = phase.acks ∧
      message ∈ phase'.messages) ∨
    (∃ key record, s.db.get? key = some record ∧ normalizeQueuedMessage record = some message) ∨
    ∃ send messageId now, event = .handled task messageId now ∧
      s.tasks task = some (.routing send) ∧
        message = queuedMessage config send.toDid send.fromDid messageId send.envelope now
  update : ∀ key message, phase.update = some (key, message) → s.tasks task = some phase ∨
    ∃ record, s.db.get? key = some record ∧ normalizeQueuedMessage record = some message
  deletions : ∀ key ∈ phase.deletions,
    (∃ keys, s.tasks task = some (.cleaning keys) ∧ key ∈ keys) ∨
      ∃ now, event = .cleanupStarted task now ∧ key ∈ expiredKeys now s.db
  marking : ∀ messageId did read rest, phase = .marking messageId did read rest →
    ∃ phase', s.tasks task = some phase' ∧ ((∃ read', phase' = .marking messageId did read' rest) ∨
      ∃ message ∈ phase'.messages, message.messageId = messageId)

theorem inherits_of_step (hstep : RelayStep config relayDid s event s') {phase : RelayTask W}
    (htask : s'.tasks task = some phase) : Inherits config s event task phase := by
  by_cases hmine : event.task = some task
  swap
  · have hsame := (tasks_of_step hstep hmine).symm.trans htask
    refine ⟨fun message hmem => Or.inl ⟨phase, hsame, rfl, hmem⟩, fun _ _ _ => Or.inl hsame,
      fun key hmem => ?_, fun _ _ read _ hphase => ⟨phase, hsame, Or.inl ⟨read, hphase⟩⟩⟩
    cases phase with
    | cleaning keys => exact Or.inl ⟨keys, hsame, hmem⟩
    | _ => cases hmem
  -- a task that goes on with some of its messages
  have hgo {phase phase' : RelayTask W} (hphase : s.tasks task = some phase')
      (hsub : ∀ message ∈ phase.messages, message ∈ phase'.messages)
      (hacks : phase'.acks = phase.acks) (hupdate : phase.update = none)
      (hdeletions : phase.deletions = [])
      (hmarking : ∀ messageId did read rest, phase = .marking messageId did read rest →
        ∃ message ∈ phase'.messages, message.messageId = messageId) :
      Inherits config s event task phase := by
    refine ⟨fun message hmem => Or.inl ⟨phase', hphase, hacks, hsub message hmem⟩,
      fun _ _ hsome => ?_, fun key hmem => ?_, fun messageId did read rest hrest =>
        ⟨phase', hphase, Or.inr (hmarking messageId did read rest hrest)⟩⟩
    · rw [hupdate] at hsome
      cases hsome
    · rw [hdeletions] at hmem
      cases hmem
  cases hstep with
  | connection => cases hmine
  | sendReceived | ackReceived =>
    cases hmine
    rw [setTask_self] at htask
    cases htask
    exact ⟨nofun, nofun, nofun, nofun⟩
  | handled hrouting =>
    cases hmine
    rw [setTask_self] at htask
    cases htask
    exact ⟨fun _ hmem => Or.inr (Or.inr ⟨_, _, _, rfl, hrouting, List.mem_singleton.mp hmem⟩),
      nofun, nofun, nofun⟩
  | stored hbefore | retryExpiring hbefore | ackDeleted hbefore =>
    cases hmine
    rw [setTask_self] at htask
    cases htask
    exact hgo hbefore (fun _ hmem => hmem) rfl rfl rfl nofun
  | acceptedOpen hbefore =>
    cases hmine
    rw [setTask_self] at htask
    cases htask
    exact hgo hbefore nofun rfl rfl rfl fun _ _ _ _ hphase =>
      ⟨_, List.mem_cons_self, (RelayTask.marking.inj hphase).1⟩
  | retryDelivered hbefore | flushDelivered hbefore =>
    cases hmine
    rw [setTask_self] at htask
    cases htask
    exact hgo hbefore (fun _ hmem => List.mem_cons_of_mem _ hmem) rfl rfl rfl fun _ _ _ _ hphase =>
      ⟨_, List.mem_cons_self, (RelayTask.marking.inj hphase).1⟩
  | retrySkipped hbefore | expireReported hbefore =>
    cases hmine
    rw [setTask_self] at htask
    cases htask
    exact hgo hbefore (fun _ hmem => List.mem_cons_of_mem _ hmem) rfl rfl rfl nofun
  | expireFailed hbefore | expireWritten hbefore =>
    cases hmine
    rw [setTask_self] at htask
    cases htask
    refine hgo hbefore (fun _ hmem => ?_) rfl rfl rfl nofun
    rcases List.mem_cons.mp hmem with rfl | hmem
    · exact List.mem_cons_self
    · exact List.mem_cons_of_mem _ (List.mem_append_right _ hmem)
  | markFailed hbefore | markWritten hbefore =>
    cases hmine
    rw [setTask_self] at htask
    obtain ⟨hmessages, hacks, hupdate, hdeletions, hmarking⟩ := messages_task htask
    exact hgo hbefore (fun _ hmem => List.mem_append_right _ (hmessages ▸ hmem)) hacks.symm hupdate
      hdeletions fun _ _ _ _ hphase => absurd hphase (hmarking _ _ _ _)
  | markRead hbefore hget hread =>
    cases hmine
    rw [setTask_self] at htask
    cases htask
    refine ⟨fun message hmem => ?_, fun key message hupdate => ?_, nofun,
      fun messageId did read rest hphase => ⟨_, hbefore, Or.inl ⟨none, ?_⟩⟩⟩
    · rcases List.mem_cons.mp hmem with rfl | hmem
      · exact Or.inr (Or.inl ⟨_, _, hget, hread⟩)
      · exact Or.inl ⟨_, hbefore, rfl, hmem⟩
    · cases hupdate
      exact Or.inr ⟨_, hget, hread⟩
    · cases hphase
      rfl
  | expireRead hbefore hget hread =>
    cases hmine
    rw [setTask_self] at htask
    cases htask
    refine ⟨fun message hmem => ?_, fun key message hupdate => ?_, nofun, nofun⟩
    · simp only [RelayTask.messages, Option.toList_some, List.cons_append, List.nil_append,
        List.mem_cons] at hmem
      rcases hmem with rfl | rfl | hmem
      · exact Or.inl ⟨_, hbefore, rfl, List.mem_cons_self⟩
      · exact Or.inr (Or.inl ⟨_, _, hget, hread⟩)
      · exact Or.inl ⟨_, hbefore, rfl, List.mem_cons_of_mem _ hmem⟩
    · cases hupdate
      exact Or.inr ⟨_, hget, hread⟩
  | ackRead hbefore hget hread =>
    cases hmine
    rw [setTask_self] at htask
    cases htask
    refine ⟨fun message hmem => ?_, fun key message hupdate => ?_, nofun, nofun⟩
    · obtain rfl := List.mem_singleton.mp hmem
      exact Or.inr (Or.inl ⟨_, _, hget, hread⟩)
    · cases hupdate
      exact Or.inr ⟨_, hget, hread⟩
  | retryStarted =>
    cases hmine
    rw [setTask_self] at htask
    cases htask
    refine ⟨fun message hmem => ?_, nofun, nofun, nofun⟩
    obtain ⟨key, record, hget, _, hread⟩ := mem_getMessagesForRetry.mp hmem
    exact Or.inr (Or.inl ⟨key, record, hget, hread⟩)
  | registered =>
    cases hmine
    rw [setTask_self] at htask
    cases htask
    refine ⟨fun message hmem => ?_, nofun, nofun, nofun⟩
    obtain ⟨key, record, hget, _, _, hread⟩ := mem_getQueuedMessages.mp hmem
    exact Or.inr (Or.inl ⟨key, record, hget, hread⟩)
  | cleanupStarted =>
    cases hmine
    rw [setTask_self] at htask
    cases htask
    exact ⟨nofun, nofun, fun _ hmem => Or.inr ⟨_, rfl, hmem⟩, nofun⟩
  | cleaned hbefore =>
    cases hmine
    rw [setTask_self] at htask
    cases htask
    exact ⟨nofun, nofun, fun _ hmem => Or.inl ⟨_, hbefore, List.mem_cons_of_mem _ hmem⟩, nofun⟩
  | _ =>
    cases hmine
    rw [setTask_self] at htask
    cases htask

/-! ### What a step writes -/

/-- **The database of a step**: the record of a message that was counted is written, or that of a
message that was read; or a record is deleted. -/
theorem db_of_step (hstep : RelayStep config relayDid s event s') :
    s'.db = s.db ∨
      (∃ task phase key, s.tasks task = some phase ∧ phase.Deletes key ∧
        s'.db = s.db.erase key) ∨
      (∃ task sender target message size, event = .stored task message ∧
        s.tasks task = some (.counted sender target message size) ∧
        size < config.maxMessagesPerDid ∧ s'.db = s.db.set message.key message.stored) ∨
      (∃ task now messageId did message rest, event = .markWritten task now ∧
        s.tasks task = some (.marking messageId did (some message) rest) ∧
        s'.db = s.db.set (queueKey did messageId) (inflightMessage message now).stored) ∨
      ∃ task message read messages, event = .expireWritten task message ∧
        s.tasks task = some (.expiring message (some read) messages) ∧
        s'.db = s.db.set message.key (expiredMessage read).stored := by
  cases hstep with
  | stored htask hsize =>
    exact Or.inr (Or.inr (Or.inl ⟨_, _, _, _, _, rfl, htask, hsize, rfl⟩))
  | markWritten htask =>
    exact Or.inr (Or.inr (Or.inr (Or.inl ⟨_, _, _, _, _, _, rfl, htask, rfl⟩)))
  | expireWritten htask =>
    exact Or.inr (Or.inr (Or.inr (Or.inr ⟨_, _, _, _, rfl, htask, rfl⟩)))
  | ackDeleted htask => exact Or.inr (Or.inl ⟨_, _, _, htask, rfl, rfl⟩)
  | cleaned htask => exact Or.inr (Or.inl ⟨_, _, _, htask, List.mem_cons_self, rfl⟩)
  | _ => exact Or.inl rfl

/-- A message that is written for a copy: the copy as it is, or marked. -/
inductive Marks (copy : QueuedMessage) : QueuedMessage → Prop
  | kept : Marks copy copy
  | inflight (now : ℕ) : Marks copy (inflightMessage copy now)
  | expired : Marks copy (expiredMessage copy)

/-- **Where a record comes from**: it was there, or a task has written a copy of its own. -/
theorem copy_of_step (hstep : RelayStep config relayDid s event s') {key : String}
    {record : StoredQueuedMessage} (hget : s'.db.get? key = some record) :
    s.db.get? key = some record ∨ ∃ task phase copy message, s.tasks task = some phase ∧
      phase.acks = false ∧ copy ∈ phase.messages ∧
      (key = copy.key ∨ phase.update = some (key, copy)) ∧ Marks copy message ∧
        record = message.stored := by
  have hset {key' : String} {message : QueuedMessage} (hdb : s'.db = s.db.set key' message.stored) :
      key' = key ∧ record = message.stored ∨ s.db.get? key = some record := by
    rw [hdb, Record.get?_set] at hget
    split at hget
    · exact Or.inl ⟨‹_›, (Option.some.inj hget).symm⟩
    · exact Or.inr hget
  rcases db_of_step hstep with hdb | ⟨_, _, key', _, _, hdb⟩ | ⟨_, _, _, _, _, _, htask, _, hdb⟩ |
    ⟨_, now, _, _, _, _, _, htask, hdb⟩ | ⟨_, _, _, _, _, htask, hdb⟩
  · exact Or.inl (hdb ▸ hget)
  · rw [hdb, Record.get?_erase] at hget
    split at hget
    · cases hget
    · exact Or.inl hget
  · rcases hset hdb with ⟨rfl, hrecord⟩ | hold
    · exact Or.inr ⟨_, _, _, _, htask, rfl, List.mem_cons_self, Or.inl rfl, .kept, hrecord⟩
    · exact Or.inl hold
  · rcases hset hdb with ⟨rfl, hrecord⟩ | hold
    · exact Or.inr ⟨_, _, _, _, htask, rfl, List.mem_cons_self, Or.inr rfl, .inflight now, hrecord⟩
    · exact Or.inl hold
  · rcases hset hdb with ⟨rfl, hrecord⟩ | hold
    · exact Or.inr ⟨_, _, _, _, htask, rfl, List.mem_cons_of_mem _ List.mem_cons_self, Or.inr rfl,
        .expired, hrecord⟩
    · exact Or.inl hold

/-- Ids that were drawn stay drawn. -/
theorem drawn_of_step {messageId : String} (hstep : RelayStep config relayDid s event s')
    (h : messageId ∈ s.drawn) : messageId ∈ s'.drawn := by
  cases hstep with
  | handled => exact List.mem_cons_of_mem _ h
  | _ => exact h

/-! ### Keys -/

/-- What a task has is about messages that were drawn, under their own keys. -/
structure RelayTask.Keyed (drawn : List String) (phase : RelayTask W) : Prop where
  messages : ∀ message ∈ phase.messages, message.messageId ∈ drawn
  update : ∀ key message, phase.update = some (key, message) → key = message.key
  deletions : ∀ key ∈ phase.deletions, ∃ did, ∃ messageId ∈ drawn, key = queueKey did messageId
  marking : ∀ messageId did read rest, phase = .marking messageId did read rest →
    messageId ∈ drawn

/-- **Everything stands under its own key.** -/
structure RelayState.Keyed (s : RelayState W T) : Prop where
  records : ∀ key record, s.db.get? key = some record →
    key = record.key ∧ record.messageId ∈ s.drawn
  drawn : ∀ messageId ∈ s.drawn, RandomId messageId
  tasks : ∀ task phase, s.tasks task = some phase → phase.Keyed s.drawn

/-- A record that is read has its own key, and its id was drawn. -/
theorem RelayState.Keyed.read (h : s.Keyed) {key : String} {record : StoredQueuedMessage}
    {message : QueuedMessage} (hrecord : s.db.get? key = some record)
    (hread : normalizeQueuedMessage record = some message) :
    key = message.key ∧ message.messageId ∈ s.drawn := by
  obtain ⟨hkey, hdrawn⟩ := h.records key record hrecord
  exact ⟨hkey.trans (key_of_normalize hread).symm,
    (normalizeQueuedMessage_eq_some hread).2.1 ▸ hdrawn⟩

/-- **The keys of a run.**  Every step keeps everything under its own key. -/
theorem RelayState.Keyed.step (h : s.Keyed) (hstep : RelayStep config relayDid s event s') :
    s'.Keyed := by
  refine ⟨fun key record hget => ?_, fun messageId hdrawn => ?_, fun task phase htask => ?_⟩
  · rcases copy_of_step hstep hget with
      hold | ⟨task, phase, copy, message, htask, _, hmem, hkey, hmarks, rfl⟩
    · exact ⟨(h.records key record hold).1, drawn_of_step hstep (h.records key record hold).2⟩
    · have hphase := h.tasks task phase htask
      have hcopy : key = copy.key := hkey.elim id (hphase.update key copy)
      have hdrawn := drawn_of_step hstep (hphase.messages copy hmem)
      cases hmarks <;> exact ⟨hcopy, hdrawn⟩
  · cases hstep with
    | handled _ _ _ hrandom =>
      rcases List.mem_cons.mp hdrawn with rfl | hold
      · exact hrandom
      · exact h.drawn messageId hold
    | _ => exact h.drawn messageId hdrawn
  · have hinherits := inherits_of_step hstep htask
    refine ⟨fun message hmem => ?_, fun key message hupdate => ?_, fun key hmem => ?_,
      fun messageId did read rest hphase => ?_⟩
    · rcases hinherits.messages message hmem with ⟨phase', hbefore, _, hold⟩ |
        ⟨_, _, hget, hread⟩ | ⟨send, messageId, now, rfl, _, rfl⟩
      · exact drawn_of_step hstep ((h.tasks task phase' hbefore).messages message hold)
      · exact drawn_of_step hstep (h.read hget hread).2
      · cases hstep with
        | handled => exact List.mem_cons_self
    · rcases hinherits.update key message hupdate with hold | ⟨record, hget, hread⟩
      · exact (h.tasks task phase hold).update key message hupdate
      · exact (h.read hget hread).1
    · rcases hinherits.deletions key hmem with ⟨keys, hold, hkey⟩ | ⟨now, _, hkey⟩
      · obtain ⟨did, messageId, hdrawn, hsame⟩ := (h.tasks task _ hold).deletions key hkey
        exact ⟨did, messageId, drawn_of_step hstep hdrawn, hsame⟩
      · obtain ⟨record, hget, _⟩ := mem_expiredKeys.mp hkey
        obtain ⟨hsame, hdrawn⟩ := h.records key record hget
        exact ⟨record.toDid, record.messageId, drawn_of_step hstep hdrawn, hsame⟩
    · obtain ⟨phase', hold, ⟨read', rfl⟩ | ⟨message, hmem, rfl⟩⟩ :=
        hinherits.marking messageId did read rest hphase
      · exact drawn_of_step hstep ((h.tasks task _ hold).marking messageId did read' rest rfl)
      · exact drawn_of_step hstep ((h.tasks task phase' hold).messages message hmem)

/-! ### Runs -/

/-- A relay that has just started: no task is running, and the database is one that the queue has
written. -/
structure RelayState.Starting (s : RelayState W T) : Prop where
  conn : s.conn.Starting
  tasks : ∀ task, s.tasks task = none
  records : ∀ key record, s.db.get? key = some record →
    key = record.key ∧ record.messageId ∈ s.drawn
  drawn : ∀ messageId ∈ s.drawn, RandomId messageId

theorem RelayState.Keyed.of_starting (h : start.Starting) : start.Keyed := by
  refine ⟨h.records, h.drawn, fun task phase htask => ?_⟩
  rw [h.tasks] at htask
  cases htask

theorem RelayState.Keyed.run (hstart : start.Starting)
    (hrun : Trace (RelayStep config relayDid) start events s) : s.Keyed := by
  induction hrun with
  | nil => exact .of_starting hstart
  | snoc _ hlast ih => exact ih.step hlast

end

end QuadraA.Relay
