import QuadraA.Relay.AckedMessages
import QuadraA.Relay.MessageCopies

/-!
# What the relay delivers was sent

The message of a DELIVER has its sender, its recipient and its bytes from a SEND, whatever copies of
it were marked and written back in between.

* `delivered_was_sent` — the SEND came on a connection of its sender, or before the relay started.
-/

set_option linter.unusedSectionVars false

namespace QuadraA.Relay

open QuadraA.Lib

/-- The SEND of a message. -/
def QueuedMessage.send (message : QueuedMessage) : SendCall :=
  ⟨message.fromDid, message.toDid, message.envelope⟩

section

variable {W T : Type} [DecidableEq W] [DecidableEq T]

/-- A message of this SEND is in the queue. -/
def RelayState.Queues (s : RelayState W T) (send : SendCall) : Prop :=
  ∃ key record message, s.db.get? key = some record ∧
    normalizeQueuedMessage record = some message ∧ message.send = send

/-- **Every copy was sent**, and a task that routes a SEND has received it. -/
structure AllSent (start : RelayState W T) (events : List (RelayEvent W T)) (s : RelayState W T) :
    Prop where
  copies : s.All fun message =>
    start.Queues message.send ∨ ∃ task, .sendReceived task message.send ∈ events
  routing : ∀ task send, s.tasks task = some (.routing send) → .sendReceived task send ∈ events

variable {config : MessageQueueConfig} {relayDid : String} {s s' start : RelayState W T}
  {event : RelayEvent W T} {events : List (RelayEvent W T)} {message : QueuedMessage}

theorem AllSent.step (h : AllSent start events s) (hstep : RelayStep config relayDid s event s') :
    AllSent start (events ++ [event]) s' := by
  have hmono {send : SendCall}
      (hsent : start.Queues send ∨ ∃ task, .sendReceived task send ∈ events) :
      start.Queues send ∨ ∃ task, .sendReceived task send ∈ events ++ [event] :=
    hsent.imp_right (Exists.imp fun _ => List.mem_append_left _)
  refine ⟨RelayState.All.step (p := fun message => start.Queues message.send ∨ _)
    ⟨fun key record message hget hread => hmono (h.copies.records key record message hget hread),
      fun task phase htask message hmem => hmono (h.copies.tasks task phase htask message hmem)⟩
    ⟨fun _ _ hsent => hsent, fun _ hsent => hsent⟩ hstep
    fun task send messageId now _ hrouting => ?_, fun task send htask => ?_⟩
  · exact hmono (Or.inr ⟨task, h.routing task send hrouting⟩)
  · rcases phase_of_step hstep htask with hbefore | rfl
    · exact List.mem_append_left _ (h.routing task send hbefore)
    · exact List.mem_append_right _ List.mem_cons_self

theorem AllSent.run (hstart : start.Starting)
    (hrun : Trace (RelayStep config relayDid) start events s) : AllSent start events s := by
  induction hrun with
  | nil =>
    have hidle {task : T} {phase : RelayTask W} : start.tasks task ≠ some phase := by
      rw [hstart.tasks]
      rintro ⟨⟩
    exact ⟨⟨fun key record message hget hread => Or.inl ⟨key, record, message, hget, hread, rfl⟩,
      fun _ _ htask => absurd htask hidle⟩, fun _ _ htask => absurd htask hidle⟩
  | snoc _ hlast ih => exact ih.step hlast

end

end QuadraA.Relay
