import QuadraA.Relay.Delivery

/-!
# Accepted messages

What becomes of a message for which `handleSend` has sent an `accepted` report.  Its record may be
read and written back by any number of `markInflight`s, while acknowledgements, retry passes and
clean-ups of other messages go on beside it.

* `RelayTask.Spares` — what a task may be about to do with the record of a key;
* `accepted_kept` — an accepted message stays in the queue, with its envelope, until its recipient
  acknowledges it, it expires, or its retries are exhausted.

Message ids are random, and none is drawn twice.
-/

set_option linter.unusedSectionVars false

namespace QuadraA.Relay

open QuadraA.Lib
open QuadraA.Runtime (WellFormedDid)

section

variable {W T : Type} [DecidableEq W] [DecidableEq T]

/-- **The events that let a message go**: an ACK of its recipient, a clean-up after it has expired,
and a retry pass that finds its retries exhausted. -/
def RelayEvent.Releases (message : QueuedMessage) : RelayEvent W T → Prop
  | .ackReceived _ did messageId => did = message.toDid ∧ messageId = message.messageId
  | .cleanupStarted _ now => message.expiresAt < now
  | .retryExpiring _ retried => retried.key = message.key ∧ 3 ≤ retried.deliveryAttempts
  | _ => False

/-- No message id is drawn twice. -/
def DistinctStep (config : MessageQueueConfig) (relayDid : String) (s : RelayState W T)
    (event : RelayEvent W T) (s' : RelayState W T) : Prop :=
  RelayStep config relayDid s event s' ∧
    ∀ task messageId now, event = .handled task messageId now → messageId ∉ s.drawn

variable {config : MessageQueueConfig} {relayDid : String}
variable {s s' start : RelayState W T} {event : RelayEvent W T} {events : List (RelayEvent W T)}
  {task : T} {phase : Option (RelayTask W)} {key : String} {p : QueuedMessage → Prop}
  {owner : Option T} {message : QueuedMessage}

/-! ### Tasks that spare a record -/

/-- **A task spares the record of a key**: it does not delete it, and writes back such a copy only
as `p` allows.  The task that is about to store the record is `owner`. -/
def RelayTask.Spares (key : String) (p : QueuedMessage → Prop) (owner : Prop) :
    RelayTask W → Prop
  | .counted _ _ message _ => message.key = key → owner
  | .marking messageId did (some copy) _ => queueKey did messageId = key → p copy
  | .expiring message _ _ => message.key ≠ key
  | .acking messageId did _ => queueKey did messageId ≠ key
  | .cleaning keys => key ∉ keys
  | _ => True

def RelayState.Spared (s : RelayState W T) (key : String) (p : QueuedMessage → Prop)
    (owner : Option T) : Prop :=
  ∀ task phase, s.tasks task = some phase → phase.Spares key p (owner = some task)

/-- What a step must not do to spare a record. -/
structure Sparing (s : RelayState W T) (event : RelayEvent W T) (key : String)
    (p : QueuedMessage → Prop) : Prop where
  handled : ∀ task messageId now did, event = .handled task messageId now →
    queueKey did messageId ≠ key
  stored : ∀ task message, event = .stored task message → message.key ≠ key
  acked : ∀ task did messageId, event = .ackReceived task did messageId →
    queueKey did messageId ≠ key
  expired : ∀ task message, event = .retryExpiring task message → message.key ≠ key
  cleaned : ∀ task now, event = .cleanupStarted task now → key ∉ expiredKeys now s.db
  read : ∀ record copy, s.db.get? key = some record → normalizeQueuedMessage record = some copy →
    p copy

variable {owned : Prop} {messageId : String} {sender target : Option ℕ}

/-- The step is a `markInflight` that writes back a copy of the record of the key. -/
def MarksInflight (s : RelayState W T) (event : RelayEvent W T) (s' : RelayState W T)
    (key : String) (p : QueuedMessage → Prop) : Prop :=
  ∃ task messageId did copy rest now, event = .markWritten task now ∧
    s.tasks task = some (.marking messageId did (some copy) rest) ∧
    queueKey did messageId = key ∧ p copy ∧
    s'.db.get? key = some (inflightMessage copy now).stored

/-- **A sparing step** keeps the record of the key, or writes back an inflight copy of it. -/
theorem RelayState.Spared.step (h : s.Spared key p owner)
    (hstep : RelayStep config relayDid s event s') (hsparing : Sparing s event key p) :
    s'.Spared key p owner ∧
      (s'.db.get? key = s.db.get? key ∨ MarksInflight s event s' key p) := by
  constructor
  · intro task phase htask
    cases phase with
    | counted sender target message size =>
      rcases counted_of_step hstep htask with hold | ⟨messageId, now, rfl, rfl, _⟩
      · exact h task _ hold
      · exact fun hkey => absurd hkey (hsparing.handled task message.messageId now _ rfl)
    | marking messageId did read rest =>
      cases read with
      | none => exact trivial
      | some copy =>
        rcases (inherits_of_step hstep htask).update _ copy rfl with hold | ⟨record, hget, hread⟩
        · exact h task _ hold
        · exact fun hkey => hsparing.read record copy (hkey ▸ hget) hread
    | expiring message read messages =>
      rcases phase_of_step hstep htask with hold | rfl | rfl
      · exact h task _ hold
      · exact hsparing.expired task message rfl
      · cases hstep with
        | expireRead hbefore =>
          rw [setTask_self] at htask
          cases htask
          have hspares := h task _ hbefore
          exact hspares
    | acking messageId did read =>
      rcases acking_of_step hstep htask with ⟨_, hold⟩ | ⟨rfl, _⟩
      · have hspares := h task _ hold
        exact hspares
      · exact hsparing.acked task did messageId rfl
    | cleaning keys =>
      intro hmem
      rcases (inherits_of_step hstep htask).deletions key hmem with
        ⟨_, hold, hkey⟩ | ⟨now, rfl, hkey⟩
      · exact h task _ hold hkey
      · exact hsparing.cleaned task now rfl hkey
    | _ => exact trivial
  · have hset {other : String} {record : StoredQueuedMessage} (hdb : s'.db = s.db.set other record)
        (hother : other ≠ key) : s'.db.get? key = s.db.get? key := by
      rw [hdb, Record.get?_set_ne _ _ hother]
    rcases db_of_step hstep with hdb | ⟨task, phase, other, htask, hdeletes, hdb⟩ |
      ⟨task, _, _, message, _, hevent, _, _, hdb⟩ |
      ⟨task, now, messageId, did, copy, rest, hevent, htask, hdb⟩ | ⟨task, _, _, _, _, htask, hdb⟩
    · exact Or.inl (by rw [hdb])
    · have hspares := h task phase htask
      have hother : other ≠ key := by
        rintro rfl
        cases phase with
        | acking | cleaning => exact hspares hdeletes
        | _ => exact hdeletes
      exact Or.inl (by rw [hdb, Record.get?_erase, if_neg hother])
    · exact Or.inl (hset hdb (hsparing.stored task message hevent))
    · by_cases hkey : queueKey did messageId = key
      · refine Or.inr ⟨task, messageId, did, copy, rest, now, hevent, htask, hkey,
          h task _ htask hkey, ?_⟩
        rw [hdb, hkey, Record.get?_set_self]
      · exact Or.inl (hset hdb hkey)
    · exact Or.inl (hset hdb (h task _ htask))

/-! ### The invariant of a run -/

/-- **An accepted message is kept**: its record is outstanding and has its envelope, and every task
spares it. -/
structure RelayState.Keeps (s : RelayState W T) (message : QueuedMessage) : Prop where
  record : ∃ record, s.db.get? message.key = some record ∧ Outstanding record.status ∧
    record.envelope = some message.envelope ∧ record.expiresAt = message.expiresAt
  spared : s.Spared message.key
    (fun copy => copy.envelope = message.envelope ∧ copy.expiresAt = message.expiresAt) none
  drawn : message.messageId ∈ s.drawn

/-- A message that a task is about to store: nothing has its key yet. -/
structure RelayState.Awaits (s : RelayState W T) (task : T) (message : QueuedMessage) : Prop where
  record : s.db.get? message.key = none
  spared : s.Spared message.key (fun _ => False) (some task)

/-- The messages of a history that no event of it has let go. -/
def Unreleased (events : List (RelayEvent W T)) (message : QueuedMessage) : Prop :=
  WellFormedDid message.toDid ∧ ∀ event ∈ events, ¬event.Releases message

/-- A message is that of a SEND. -/
def SentAs (events : List (RelayEvent W T)) (message : QueuedMessage) : Prop :=
  ∃ task send, RelayEvent.sendReceived task send ∈ events ∧ message.toDid = send.toDid ∧
    message.fromDid = send.fromDid ∧ message.envelope = send.envelope

structure Accounted (events : List (RelayEvent W T)) (s : RelayState W T) : Prop where
  keyed : s.Keyed
  authenticated : s.conn.Authenticated
  routed : ∀ task send, s.tasks task = some (.routing send) →
    RelayEvent.sendReceived task send ∈ events
  acks : ∀ task messageId did read, s.tasks task = some (.acking messageId did read) →
    WellFormedDid did ∧ ∃ task', RelayEvent.ackReceived task' did messageId ∈ events
  queued : ∀ task sender target message size,
    s.tasks task = some (.counted sender target message size) →
      message.status = .queued ∧ SentAs events message
  counted : ∀ task sender target message size,
    s.tasks task = some (.counted sender target message size) → Unreleased events message →
      s.Awaits task message
  sent : ∀ task message, RelayEvent.stored task message ∈ events → SentAs events message
  stored : ∀ task message, RelayEvent.stored task message ∈ events → Unreleased events message →
    s.Keeps message
  waiting : ∀ task sender target message, s.tasks task = some (.stored sender target message) →
    ∃ task', RelayEvent.stored task' message ∈ events
  accepted : ∀ task message reported delivered,
    RelayEvent.accepted task message reported delivered ∈ events →
      ∃ task', RelayEvent.stored task' message ∈ events

theorem Unreleased.of_snoc (h : Unreleased (events ++ [event]) message) :
    Unreleased events message ∧ ¬event.Releases message :=
  ⟨⟨h.1, fun event' hevent => h.2 event' (List.mem_append_left _ hevent)⟩,
    h.2 event (List.mem_append_right _ List.mem_cons_self)⟩

theorem SentAs.snoc (h : SentAs events message) (event : RelayEvent W T) :
    SentAs (events ++ [event]) message := by
  obtain ⟨task, send, hsend, hfields⟩ := h
  exact ⟨task, send, List.mem_append_left _ hsend, hfields⟩

/-- **A step that does not let a message go** spares its record, unless it is the one that stores
the record. -/
theorem Accounted.sparing (h : Accounted events s) (hstep : DistinctStep config relayDid s event s')
    (hdrawn : message.messageId ∈ s.drawn) (hto : WellFormedDid message.toDid)
    (hkept : ¬event.Releases message)
    (hstored : ∀ task stored, event = .stored task stored → stored.key ≠ message.key)
    (hrecord : ∀ record, s.db.get? message.key = some record → Outstanding record.status ∧
      record.expiresAt = message.expiresAt ∧
        ∀ copy, normalizeQueuedMessage record = some copy → p copy) :
    Sparing s event message.key p := by
  obtain ⟨hstep, hdistinct⟩ := hstep
  have hrandom := h.keyed.drawn _ hdrawn
  refine ⟨fun task messageId now did hevent hkey => ?_, hstored,
    fun task did messageId hevent hkey => ?_, fun task retried hevent hkey => ?_,
    fun task now hevent hkey => ?_,
    fun record copy hget hread => (hrecord record hget).2.2 copy hread⟩
  · subst hevent
    cases hstep with
    | handled _ _ _ hid =>
      have hsame := (queueKey_inj hid hrandom hkey).2
      exact hdistinct task messageId now rfl (hsame ▸ hdrawn)
  · subst hevent
    cases hstep with
    | ackReceived _ hdid =>
      exact hkept (queueKey_inj_of_did (h.authenticated _ _ (Or.inl hdid)) hto hkey)
  · subst hevent
    cases hstep with
    | retryExpiring _ _ hattempts => exact hkept ⟨hkey, hattempts⟩
  · subst hevent
    obtain ⟨record, hget, hexpired⟩ := mem_expiredKeys.mp hkey
    obtain ⟨houtstanding, hexpires, _⟩ := hrecord record hget
    rcases hexpired with hlate | hstatus
    · exact hkept (show message.expiresAt < now by omega)
    · rcases houtstanding with hqueued | hinflight
      · rw [hstatus] at hqueued
        cases hqueued
      · rw [hstatus] at hinflight
        cases hinflight

theorem RelayState.Keeps.step (h : s.Keeps message) (haccounted : Accounted events s)
    (hstep : DistinctStep config relayDid s event s') (hto : WellFormedDid message.toDid)
    (hkept : ¬event.Releases message) :
    s'.Keeps message ∧ (s'.db.get? message.key = s.db.get? message.key ∨
      MarksInflight s event s' message.key
        fun copy => copy.envelope = message.envelope ∧ copy.expiresAt = message.expiresAt) := by
  obtain ⟨record, hget, houtstanding, henvelope, hexpires⟩ := h.record
  have hsparing : Sparing s event message.key
      (fun copy => copy.envelope = message.envelope ∧ copy.expiresAt = message.expiresAt) := by
    refine haccounted.sparing hstep h.drawn hto hkept (fun task stored hevent hkey => ?_)
      fun record' hget' => ?_
    · subst hevent
      cases hstep.1 with
      | stored htask _ => cases h.spared task _ htask hkey
    · obtain rfl := Option.some.inj (hget.symm.trans hget')
      refine ⟨houtstanding, hexpires, fun copy hread => ?_⟩
      obtain ⟨hcopy, _, _, hcopyExpires, _⟩ := normalizeQueuedMessage_eq_some hread
      exact ⟨Option.some.inj (hcopy.symm.trans henvelope), hcopyExpires.trans hexpires⟩
  obtain ⟨hspared, hdb⟩ := h.spared.step hstep.1 hsparing
  refine ⟨⟨?_, hspared, drawn_of_step hstep.1 h.drawn⟩, hdb⟩
  rcases hdb with hsame | ⟨_, _, _, copy, _, now, _, _, _, hcopy, hwritten⟩
  · exact ⟨record, hsame.trans hget, houtstanding, henvelope, hexpires⟩
  · exact ⟨_, hwritten, Or.inr rfl, congrArg some hcopy.1, hcopy.2⟩

theorem RelayState.Awaits.step (h : s.Awaits task message) (haccounted : Accounted events s)
    (hstep : DistinctStep config relayDid s event s') (hdrawn : message.messageId ∈ s.drawn)
    (hto : WellFormedDid message.toDid) (hkept : ¬event.Releases message)
    (hstored : ∀ stored, event ≠ .stored task stored) : s'.Awaits task message := by
  have hsparing : Sparing s event message.key (fun _ => False) := by
    refine haccounted.sparing hstep hdrawn hto hkept (fun task' stored hevent hkey => ?_)
      fun record hget => ?_
    · subst hevent
      cases hstep.1 with
      | stored htask _ =>
        have howner := h.spared task' _ htask hkey
        exact hstored stored (by rw [Option.some.inj howner])
    · rw [h.record] at hget
      cases hget
  obtain ⟨hspared, hdb⟩ := h.spared.step hstep.1 hsparing
  refine ⟨?_, hspared⟩
  rcases hdb with hsame | ⟨_, _, _, _, _, _, _, _, _, hcopy, _⟩
  · exact hsame.trans h.record
  · exact hcopy.elim

/-- **A message that has just been drawn**: nothing has its key. -/
theorem Accounted.awaits_drawn (h : Accounted events s) (hnew : messageId ∉ s.drawn)
    (hrandom : RandomId messageId) (hid : message.messageId = messageId)
    (hkept : Unreleased events message) {size : ℕ} :
    RelayState.Awaits ({ s with drawn := messageId :: s.drawn }.setTask task
      (some (.counted sender target message size))) task message := by
  -- a key of a drawn id is another one
  have hother {did id : String} (hdrawn : id ∈ s.drawn) : queueKey did id ≠ message.key := by
    intro hkey
    have hsame := (queueKey_inj (h.keyed.drawn _ hdrawn) (hid ▸ hrandom) hkey).2
    exact hnew (hid ▸ hsame ▸ hdrawn)
  refine ⟨?_, fun task' phase htask => ?_⟩
  · show s.db.get? message.key = none
    cases hget : s.db.get? message.key with
    | none => rfl
    | some record =>
      obtain ⟨hkey, hdrawn⟩ := h.keyed.records _ record hget
      exact absurd hkey.symm (hother hdrawn)
  · rcases tasks_setTask htask with ⟨rfl, hphase⟩ | ⟨_, hbefore⟩
    · obtain rfl := Option.some.inj hphase
      exact fun _ => rfl
    · have hkeyed := h.keyed.tasks task' phase hbefore
      cases phase with
      | counted _ _ counted _ =>
        exact fun hkey => absurd hkey (hother (hkeyed.messages counted List.mem_cons_self))
      | marking id did read rest =>
        cases read with
        | none => exact trivial
        | some copy =>
          intro hkey
          rw [hkeyed.update _ copy rfl] at hkey
          exact absurd hkey (hother (hkeyed.messages copy List.mem_cons_self))
      | expiring expiring read messages =>
        exact hother (hkeyed.messages expiring List.mem_cons_self)
      | acking id did read =>
        intro hkey
        obtain ⟨hdid, task'', hack⟩ := h.acks task' id did read hbefore
        exact hkept.2 _ hack (queueKey_inj_of_did hdid hkept.1 hkey)
      | cleaning keys =>
        intro hmem
        obtain ⟨did, id, hdrawn, hkey⟩ := hkeyed.deletions _ hmem
        exact hother hdrawn hkey.symm
      | _ => exact trivial

theorem RelayTask.Spares.mono {q : QueuedMessage → Prop} {owned' : Prop} {phase : RelayTask W}
    (h : phase.Spares key p owned) (hp : ∀ copy, p copy → q copy) (howned : owned → owned') :
    phase.Spares key q owned' := by
  cases phase with
  | counted _ _ message _ => exact fun hkey => howned (h hkey)
  | marking id did read rest =>
    cases read with
    | none => exact trivial
    | some copy => exact fun hkey => hp copy (h hkey)
  | expiring _ _ _ => exact h
  | acking _ _ _ => exact h
  | cleaning _ => exact h
  | _ => exact trivial

/-- The record of a message that awaits it is stored. -/
theorem RelayState.Awaits.store (h : s.Awaits task message) (hqueued : message.status = .queued)
    (hdrawn : message.messageId ∈ s.drawn) :
    RelayState.Keeps ({ s with db := s.db.set message.key message.stored }.setTask task
      (some (.stored sender target message))) message := by
  refine ⟨⟨message.stored, Record.get?_set_self _ _ _, ?_, rfl, rfl⟩, fun task' phase htask => ?_,
    hdrawn⟩
  · exact Or.inl (by rw [QueuedMessage.stored, hqueued]; rfl)
  · rcases tasks_setTask htask with ⟨_, hphase⟩ | ⟨hne, hbefore⟩
    · obtain rfl := Option.some.inj hphase
      exact trivial
    · exact (h.spared task' phase hbefore).mono (fun _ hfalse => hfalse.elim)
        fun howner => absurd (Option.some.inj howner).symm hne

theorem Accounted.step (h : Accounted events s) (hstep : DistinctStep config relayDid s event s') :
    Accounted (events ++ [event]) s' := by
  refine ⟨h.keyed.step hstep.1, ?_, fun task send htask => ?_,
    fun task messageId did read htask => ?_, fun task sender target message size htask => ?_,
    fun task sender target message size htask hkept => ?_, fun task message hstored => ?_,
    fun task message hstored hkept => ?_, fun task sender target message htask => ?_,
    fun task message reported delivered haccepted => ?_⟩
  · rcases conn_of_step hstep.1 with hsame | ⟨event', _, hconn⟩
    · rw [hsame]
      exact h.authenticated
    · exact h.authenticated.step hconn
  · rcases phase_of_step hstep.1 htask with hbefore | rfl
    · exact List.mem_append_left _ (h.routed task send hbefore)
    · exact List.mem_append_right _ List.mem_cons_self
  · rcases acking_of_step hstep.1 htask with ⟨read', hbefore⟩ | ⟨rfl, ws, hdid⟩
    · obtain ⟨hdid, task', hack⟩ := h.acks task messageId did read' hbefore
      exact ⟨hdid, task', List.mem_append_left _ hack⟩
    · exact ⟨h.authenticated ws did (Or.inl hdid), task,
        List.mem_append_right _ List.mem_cons_self⟩
  · rcases counted_of_step hstep.1 htask with hbefore | ⟨messageId, now, rfl, _⟩
    · obtain ⟨hstatus, hsent⟩ := h.queued task sender target message size hbefore
      exact ⟨hstatus, hsent.snoc event⟩
    · cases hstep.1 with
      | @handled _ send _ _ hrouting =>
        rw [setTask_self] at htask
        cases htask
        exact ⟨rfl, task, send, List.mem_append_left _ (h.routed task send hrouting), rfl, rfl,
          rfl⟩
  · obtain ⟨hbefore, hevent⟩ := hkept.of_snoc
    rcases counted_of_step hstep.1 htask with hcounted | ⟨messageId, now, rfl, hid, hrandom, _, hs'⟩
    · have hdrawn := (h.keyed.tasks task _ hcounted).messages message List.mem_cons_self
      refine (h.counted task _ _ message _ hcounted hbefore).step h hstep hdrawn hbefore.1 hevent
        fun stored hstored => ?_
      subst hstored
      cases hstep.1 with
      | stored =>
        rw [setTask_self] at htask
        cases htask
    · rw [hs']
      exact h.awaits_drawn (hstep.2 task messageId now rfl) hrandom hid hbefore
  · rcases List.mem_append.mp hstored with hold | hnew
    · exact (h.sent task message hold).snoc event
    · obtain rfl := List.mem_singleton.mp hnew
      cases hstep.1 with
      | stored htask _ => exact (h.queued task _ _ message _ htask).2.snoc _
  · obtain ⟨hbefore, hevent⟩ := hkept.of_snoc
    rcases List.mem_append.mp hstored with hold | hnew
    · exact ((h.stored task message hold hbefore).step h hstep hbefore.1 hevent).1
    · obtain rfl := List.mem_singleton.mp hnew
      cases hstep.1 with
      | stored htask _ =>
        exact (h.counted task _ _ message _ htask hbefore).store
          (h.queued task _ _ message _ htask).1
          ((h.keyed.tasks task _ htask).messages message List.mem_cons_self)
  · rcases phase_of_step hstep.1 htask with hbefore | rfl
    · obtain ⟨task', hstored⟩ := h.waiting task sender target message hbefore
      exact ⟨task', List.mem_append_left _ hstored⟩
    · exact ⟨task, List.mem_append_right _ List.mem_cons_self⟩
  · rcases List.mem_append.mp haccepted with hold | hnew
    · obtain ⟨task', hstored⟩ := h.accepted task message reported delivered hold
      exact ⟨task', List.mem_append_left _ hstored⟩
    · obtain rfl := List.mem_singleton.mp hnew
      have hwaited : ∃ sender target, s.tasks task = some (.stored sender target message) := by
        cases hstep.1 with
        | acceptedOffline htask _ => exact ⟨_, _, htask⟩
        | acceptedClosed htask _ _ => exact ⟨_, _, htask⟩
        | acceptedOpen htask _ _ => exact ⟨_, _, htask⟩
      obtain ⟨sender, target, htask⟩ := hwaited
      obtain ⟨task', hstored⟩ := h.waiting task sender target message htask
      exact ⟨task', List.mem_append_left _ hstored⟩

theorem Accounted.of_starting (h : start.Starting) :
    Accounted ([] : List (RelayEvent W T)) start := by
  have hidle {task : T} {phase : RelayTask W} : start.tasks task ≠ some phase := by
    rw [h.tasks]
    nofun
  exact ⟨.of_starting h, .of_starting h.conn, fun _ _ htask => absurd htask hidle,
    fun _ _ _ _ htask => absurd htask hidle, fun _ _ _ _ _ htask => absurd htask hidle,
    fun _ _ _ _ _ htask => absurd htask hidle, nofun, nofun,
    fun _ _ _ _ htask => absurd htask hidle, nofun⟩

theorem Accounted.run (hstart : start.Starting)
    (hrun : Trace (DistinctStep config relayDid) start events s) : Accounted events s := by
  induction hrun with
  | nil => exact .of_starting hstart
  | snoc _ hlast ih => exact ih.step hlast

/-- **Accepted messages are not lost.**  In every run, a message whose sender was sent an `accepted`
report is that of a SEND, and it is in the queue, queued or inflight and with the envelope of that
SEND, as long as its recipient has not acknowledged it, it has not expired, and its retries are not
exhausted.  No step changes its record then but a `markInflight` of this message. -/
theorem accepted_kept (hstart : start.Starting)
    (hrun : Trace (DistinctStep config relayDid) start events s) {delivered : Option W}
    (haccepted : RelayEvent.accepted task message true delivered ∈ events)
    (hto : WellFormedDid message.toDid) (hkept : ∀ event ∈ events, ¬event.Releases message) :
    (∃ task send record, RelayEvent.sendReceived task send ∈ events ∧
      message.toDid = send.toDid ∧ message.fromDid = send.fromDid ∧
      s.db.get? (queueKey message.toDid message.messageId) = some record ∧
      Outstanding record.status ∧ record.envelope = some send.envelope) ∧
    ∀ event s', DistinctStep config relayDid s event s' → ¬event.Releases message →
      s'.db.get? (queueKey message.toDid message.messageId)
          = s.db.get? (queueKey message.toDid message.messageId) ∨
        ∃ task now copy rest, event = .markWritten task now ∧ s.tasks task
          = some (.marking message.messageId message.toDid (some copy) rest) := by
  have haccounted := Accounted.run hstart hrun
  obtain ⟨task', hstored⟩ := haccounted.accepted task message true delivered haccepted
  obtain ⟨sender, send, hsend, htoDid, hfromDid, henvelope⟩ := haccounted.sent task' message hstored
  have hkeeps := haccounted.stored task' message hstored ⟨hto, hkept⟩
  obtain ⟨record, hget, houtstanding, hbytes, _⟩ := hkeeps.record
  refine ⟨⟨sender, send, record, hsend, htoDid, hfromDid, hget, houtstanding, henvelope ▸ hbytes⟩,
    fun event s' hstep hevent => ?_⟩
  rcases (hkeeps.step haccounted hstep hto hevent).2 with hsame | hmarks
  · exact Or.inl hsame
  · obtain ⟨task, messageId, did, copy, rest, now, rfl, htask, hkey, _⟩ := hmarks
    have hmarking := (haccounted.keyed.tasks task _ htask).marking messageId did _ rest rfl
    obtain ⟨rfl, rfl⟩ := queueKey_inj (haccounted.keyed.drawn _ hmarking)
      (haccounted.keyed.drawn _ hkeeps.drawn) hkey
    exact Or.inr ⟨task, now, copy, rest, rfl, htask⟩

end

/-! ### A run of one relay -/

/-- A relay with an empty queue. -/
def idleDelivery : RelayState Bool Unit where
  conn := idleRelay
  db := Record.empty
  tasks _ := none
  drawn := []

theorem idleDelivery_starting : idleDelivery.Starting :=
  ⟨idleRelay_starting, fun _ => rfl, nofun, nofun⟩

/-- The message that Alice sends to Bob, who is not connected. -/
def bobMessage : QueuedMessage :=
  queuedMessage DEFAULT_CONFIG "did:agent:zBob" "did:agent:zAlice" "m1" [1, 2, 3] 20

/-- The message is in the queue once it is accepted. -/
theorem accepted_kept_sample :
    ∃ (s : RelayState Bool Unit) (record : StoredQueuedMessage),
      s.db.get? (queueKey "did:agent:zBob" "m1") = some record ∧ Outstanding record.status ∧
        record.envelope = some [1, 2, 3] := by
  have hrun : Trace (DistinctStep DEFAULT_CONFIG "did:agent:zRelay") idleDelivery [] idleDelivery :=
    .nil
  have hreceived := hrun.snoc ⟨.connection
    (@ConnectionStep.helloReceived _ _ _ true "did:agent:zAlice" rfl) rfl, nofun⟩
  have hregistered := hreceived.snoc ⟨@RelayStep.registered _ _ _ _ _ _ _ () true _ _ _ _ rfl rfl
    (@ConnectionStep.registered _ _ _ true _ "public" 10 rfl (by decide)), nofun⟩
  have hended := hregistered.snoc ⟨@RelayStep.helloEnded _ _ _ _ _ _ _ () true _ _ rfl
    (@ConnectionStep.helloEnded _ _ _ true _ rfl), nofun⟩
  have hsent := hended.snoc ⟨@RelayStep.sendReceived _ _ _ _ _ _ _ () true
    ⟨"did:agent:zAlice", "did:agent:zBob", [1, 2, 3]⟩ rfl rfl, nofun⟩
  have hhandled := hsent.snoc ⟨@RelayStep.handled _ _ _ _ _ _ _ () _ "m1" 20 rfl (by decide)
    (by rintro ⟨_, target, _, htarget, _⟩; cases htarget) (by decide),
    fun _ _ _ _ hdrawn => by cases hdrawn⟩
  have hstored := hhandled.snoc ⟨@RelayStep.stored _ _ _ _ _ _ _ () _ _ bobMessage _ rfl
    (by decide), nofun⟩
  have haccepted := hstored.snoc ⟨@RelayStep.acceptedOffline _ _ _ _ _ _ _ () _ _ bobMessage rfl
    (by rintro ref href; cases href), nofun⟩
  obtain ⟨⟨_, send, record, hsend, _, _, hget, houtstanding, henvelope⟩, _⟩ :=
    accepted_kept idleDelivery_starting haccepted
      (List.mem_append_right _ (List.mem_singleton.mpr rfl)) (by decide)
      (by simp [RelayEvent.Releases])
  refine ⟨_, record, hget, houtstanding, ?_⟩
  have hbytes : send = ⟨"did:agent:zAlice", "did:agent:zBob", [1, 2, 3]⟩ := by simpa using hsend
  rw [henvelope, hbytes]

end QuadraA.Relay
