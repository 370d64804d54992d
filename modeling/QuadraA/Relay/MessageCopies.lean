import QuadraA.Relay.AcceptedMessages

/-!
# Copies of messages

A message of the queue is read and written back by handlers, each of which may have a copy of it.

* `RelayState.All` — a property of every message that a record or a task has;
* `DrawnOnce.run` — a message that is about to be accepted is about to be accepted once.
-/

set_option linter.unusedSectionVars false

namespace QuadraA.Relay

open QuadraA.Lib

section

variable {W T : Type} [DecidableEq W] [DecidableEq T]

/-- **Every message in reach**: those that the records are read as, and the copies of the tasks. -/
structure RelayState.All (s : RelayState W T) (p : QueuedMessage → Prop) : Prop where
  records : ∀ key record message, s.db.get? key = some record →
    normalizeQueuedMessage record = some message → p message
  tasks : ∀ task phase, s.tasks task = some phase → ∀ message ∈ phase.messages, p message

/-- A property that a message keeps when it is marked. -/
structure Stable (p : QueuedMessage → Prop) : Prop where
  inflight : ∀ message now, p message → p (inflightMessage message now)
  expired : ∀ message, p message → p (expiredMessage message)

/-- The message that a task is about to have accepted. -/
def RelayTask.pending : RelayTask W → Option QueuedMessage
  | .counted _ _ message _ => some message
  | .stored _ _ message => some message
  | _ => none

variable {config : MessageQueueConfig} {relayDid : String}
variable {s s' start : RelayState W T} {event : RelayEvent W T} {events : List (RelayEvent W T)}
  {task : T} {phase : Option (RelayTask W)} {p : QueuedMessage → Prop} {message : QueuedMessage}

/-! ### A property of every copy -/

/-- **What a property of every copy needs**: a step keeps it, if the property is kept by the marks
and holds of the message that the step draws. -/
theorem RelayState.All.step (h : s.All p) (hp : Stable p)
    (hstep : RelayStep config relayDid s event s')
    (hnew : ∀ task send messageId now, event = .handled task messageId now →
      s.tasks task = some (.routing send) →
        p (queuedMessage config send.toDid send.fromDid messageId send.envelope now)) :
    s'.All p := by
  refine ⟨fun key record message hget hread => ?_, fun task phase htask message hmem => ?_⟩
  · rcases copy_of_step hstep hget with
      hold | ⟨task, phase, copy, written, htask, _, hmem, _, hmarks, rfl⟩
    · exact h.records key record message hold hread
    · have hcopy := h.tasks task phase htask copy hmem
      rw [normalizeQueuedMessage_stored] at hread
      obtain rfl := Option.some.inj hread
      cases hmarks with
      | kept => exact hcopy
      | inflight now => exact hp.inflight copy now hcopy
      | expired => exact hp.expired copy hcopy
  · rcases (inherits_of_step hstep htask).messages message hmem with ⟨phase', hbefore, _, hold⟩ |
      ⟨key, record, hget, hread⟩ | ⟨send, messageId, now, hevent, hrouting, rfl⟩
    · exact h.tasks task phase' hbefore message hold
    · exact h.records key record message hget hread
    · exact hnew task send messageId now hevent hrouting

/-! ### The copies of one message -/

/-- **A message is known**: its id is drawn, and every copy with its id is one of it. -/
structure RelayState.Known (s : RelayState W T) (message : QueuedMessage) : Prop where
  drawn : message.messageId ∈ s.drawn
  copies : s.All fun copy => copy.messageId = message.messageId →
    copy.toDid = message.toDid ∧ copy.fromDid = message.fromDid ∧
      copy.queuedAt = message.queuedAt

theorem RelayState.Known.step (h : s.Known message)
    (hstep : DistinctStep config relayDid s event s') : s'.Known message := by
  refine ⟨drawn_of_step hstep.1 h.drawn, h.copies.step ⟨fun _ _ hcopy => hcopy,
    fun _ hcopy => hcopy⟩ hstep.1 fun task send messageId now hevent htask hsame => ?_⟩
  have hsame : messageId = message.messageId := hsame
  exact absurd (hsame ▸ h.drawn) (hstep.2 task messageId now hevent)

theorem RelayState.Known.run (h : start.Known message)
    (hrun : Trace (DistinctStep config relayDid) start events s) : s.Known message := by
  induction hrun with
  | nil => exact h
  | snoc _ hlast ih => exact ih.step hlast

/-- Every copy has an id that was drawn. -/
theorem RelayState.Keyed.all (h : s.Keyed) : s.All fun copy => copy.messageId ∈ s.drawn :=
  ⟨fun _ _ _ hget hread => (h.read hget hread).2,
    fun task phase htask => (h.tasks task phase htask).messages⟩

/-- **A message that has just been drawn** is known. -/
theorem RelayState.Known.of_handled (hkeyed : s.Keyed) {messageId : String} {now : ℕ}
    {send : SendCall} (hrouting : s.tasks task = some (.routing send))
    (hstep : DistinctStep config relayDid s (.handled task messageId now) s') :
    s'.Known (queuedMessage config send.toDid send.fromDid messageId send.envelope now) := by
  have hnew : messageId ∉ s.drawn := hstep.2 task messageId now rfl
  refine ⟨?_, RelayState.All.step (p := fun copy => copy.messageId = messageId → _) ?_
    ⟨fun _ _ hcopy => hcopy, fun _ hcopy => hcopy⟩ hstep.1
    fun task' send' messageId' now' hevent htask _ => ?_⟩
  · cases hstep.1 with
    | handled _ _ _ _ => exact List.mem_cons_self
  · refine ⟨fun key record copy hget hread hsame => ?_,
      fun task phase htask copy hmem hsame => ?_⟩
    · exact absurd (hsame ▸ hkeyed.all.records key record copy hget hread) hnew
    · exact absurd (hsame ▸ hkeyed.all.tasks task phase htask copy hmem) hnew
  · cases hevent
    rw [hrouting] at htask
    cases htask
    exact ⟨rfl, rfl, rfl⟩

/-! ### What is about to be accepted -/

theorem mem_messages_of_pending {phase : RelayTask W} (h : phase.pending = some message) :
    message ∈ phase.messages := by
  cases phase with
  | counted _ _ _ _ => exact Option.mem_toList.mpr h
  | stored _ _ _ => exact Option.mem_toList.mpr h
  | _ => cases h

/-- A task that has a message accepted has stored it, and goes on without it. -/
theorem stored_of_accepted {reported : Bool} {delivered : Option W}
    (hstep : RelayStep config relayDid s (.accepted task message reported delivered) s') :
    (∃ sender target, s.tasks task = some (.stored sender target message)) ∧
      ∀ sender target message', s'.tasks task ≠ some (.stored sender target message') := by
  have hgone {t : RelayState W T} {phase : Option (RelayTask W)}
      (hphase : ∀ sender target message', phase ≠ some (.stored sender target message')) :
      ∀ sender target message',
        (t.setTask task phase).tasks task ≠ some (.stored sender target message') := by
    intro sender target message' htask
    rcases tasks_setTask htask with ⟨_, hsame⟩ | ⟨hne, _⟩
    · exact hphase sender target message' hsame
    · exact hne rfl
  cases hstep with
  | acceptedOffline htask _ => exact ⟨⟨_, _, htask⟩, hgone nofun⟩
  | acceptedClosed htask _ _ => exact ⟨⟨_, _, htask⟩, hgone nofun⟩
  | acceptedOpen htask _ _ => exact ⟨⟨_, _, htask⟩, hgone nofun⟩

theorem pending_of_step (hstep : RelayStep config relayDid s event s') {phase' : RelayTask W}
    (htask : s'.tasks task = some phase') (hpending : phase'.pending = some message) :
    (∃ phase, s.tasks task = some phase ∧ phase.pending = some message ∧
      ∀ reported delivered, event ≠ .accepted task message reported delivered) ∨
    ∃ send messageId now, event = .handled task messageId now ∧
      s.tasks task = some (.routing send) ∧
      message = queuedMessage config send.toDid send.fromDid messageId send.envelope now := by
  cases phase' with
  | counted sender target counted size =>
    obtain rfl := Option.some.inj hpending
    rcases counted_of_step hstep htask with hbefore | ⟨messageId, now, rfl, _⟩
    · refine Or.inl ⟨_, hbefore, rfl, fun reported delivered hevent => ?_⟩
      subst hevent
      obtain ⟨_, _, hstored⟩ := (stored_of_accepted hstep).1
      rw [hbefore] at hstored
      cases hstored
    · cases hstep with
      | handled hrouting =>
        rw [setTask_self] at htask
        cases htask
        exact Or.inr ⟨_, messageId, now, rfl, hrouting, rfl⟩
  | stored sender target stored =>
    obtain rfl := Option.some.inj hpending
    rcases phase_of_step hstep htask with hbefore | rfl
    · refine Or.inl ⟨_, hbefore, rfl, fun reported delivered hevent => ?_⟩
      subst hevent
      exact (stored_of_accepted hstep).2 _ _ _ htask
    · cases hstep with
      | stored hcounted _ => exact Or.inl ⟨_, hcounted, rfl, nofun⟩
  | _ => cases hpending

/-- **Every message is accepted once.**  Of two tasks that are about to have a message accepted each
has its own, and a message that was accepted is none of these. -/
structure DrawnOnce (events : List (RelayEvent W T)) (s : RelayState W T) : Prop where
  keyed : s.Keyed
  known : ∀ task phase message, s.tasks task = some phase → phase.pending = some message →
    s.Known message
  distinct : ∀ task task' phase phase' message message', s.tasks task = some phase →
    s.tasks task' = some phase' → phase.pending = some message →
      phase'.pending = some message' → message.messageId = message'.messageId → task = task'
  accepted : ∀ task message reported delivered,
    RelayEvent.accepted task message reported delivered ∈ events →
      s.Known message ∧ ∀ task phase pending, s.tasks task = some phase →
        phase.pending = some pending → pending.messageId ≠ message.messageId

theorem DrawnOnce.step (h : DrawnOnce events s) (hstep : DistinctStep config relayDid s event s') :
    DrawnOnce (events ++ [event]) s' := by
  -- an id that is drawn is none of a copy
  have hfresh {task task' : T} {messageId : String} {now : ℕ} {phase : RelayTask W}
      {message : QueuedMessage} (hevent : event = .handled task' messageId now)
      (htask : s.tasks task = some phase) (hpending : phase.pending = some message) :
      message.messageId ≠ messageId := fun hsame =>
    hstep.2 task' messageId now hevent
      (hsame ▸ h.keyed.all.tasks task phase htask message (mem_messages_of_pending hpending))
  refine ⟨h.keyed.step hstep.1, fun task phase message htask hpending => ?_,
    fun task task' phase phase' message message' htask htask' hpending hpending' hsame => ?_,
    fun task message reported delivered haccepted => ?_⟩
  · rcases pending_of_step hstep.1 htask hpending with
      ⟨_, hbefore, hold, _⟩ | ⟨send, messageId, now, rfl, hrouting, rfl⟩
    · exact (h.known task _ message hbefore hold).step hstep
    · exact .of_handled h.keyed hrouting hstep
  · rcases pending_of_step hstep.1 htask hpending with
      ⟨_, hbefore, hold, _⟩ | ⟨send, messageId, now, hevent, hrouting, rfl⟩
    · rcases pending_of_step hstep.1 htask' hpending' with
        ⟨_, hbefore', hold', _⟩ | ⟨send', messageId', now', hevent', hrouting', rfl⟩
      · exact h.distinct task task' _ _ message message' hbefore hbefore' hold hold' hsame
      · exact absurd hsame (hfresh hevent' hbefore hold)
    · rcases pending_of_step hstep.1 htask' hpending' with
        ⟨_, hbefore', hold', _⟩ | ⟨send', messageId', now', hevent', hrouting', rfl⟩
      · exact absurd hsame.symm (hfresh hevent hbefore' hold')
      · rw [hevent] at hevent'
        cases hevent'
        rfl
  · rcases List.mem_append.mp haccepted with hold | hnew
    · obtain ⟨hknown, hothers⟩ := h.accepted task message reported delivered hold
      refine ⟨hknown.step hstep, fun task' phase pending htask hpending => ?_⟩
      rcases pending_of_step hstep.1 htask hpending with
        ⟨_, hbefore, hpending', _⟩ | ⟨send, messageId, now, hevent, _, rfl⟩
      · exact hothers task' _ pending hbefore hpending'
      · intro hsame
        have hsame : messageId = message.messageId := hsame
        exact hstep.2 task' messageId now hevent (hsame ▸ hknown.drawn)
    · obtain rfl := List.mem_singleton.mp hnew
      obtain ⟨_, _, htask⟩ := (stored_of_accepted hstep.1).1
      refine ⟨(h.known task _ message htask rfl).step hstep,
        fun task' phase' pending htask' hpending' hsame => ?_⟩
      rcases pending_of_step hstep.1 htask' hpending' with
        ⟨_, hbefore, hold, hother⟩ | ⟨_, _, _, hevent, _⟩
      · obtain rfl := h.distinct task' task _ _ pending message hbefore htask hold rfl hsame
        rw [hbefore] at htask
        cases htask
        obtain rfl := Option.some.inj hold
        exact hother reported delivered rfl
      · cases hevent

theorem DrawnOnce.of_starting (h : start.Starting) :
    DrawnOnce ([] : List (RelayEvent W T)) start := by
  have hidle {task : T} {phase : RelayTask W} : start.tasks task ≠ some phase := by
    rw [h.tasks]
    nofun
  exact ⟨.of_starting h, fun _ _ _ htask => absurd htask hidle,
    fun _ _ _ _ _ _ htask => absurd htask hidle, nofun⟩

theorem DrawnOnce.run (hstart : start.Starting)
    (hrun : Trace (DistinctStep config relayDid) start events s) : DrawnOnce events s := by
  induction hrun with
  | nil => exact .of_starting hstart
  | snoc _ hlast ih => exact ih.step hlast

end

end QuadraA.Relay
