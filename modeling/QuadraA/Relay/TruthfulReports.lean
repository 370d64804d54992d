import QuadraA.Relay.HeldSockets
import QuadraA.Relay.QueueBounds

/-!
# Delivery reports

`sendDeliveryReport` and the reports of `handleAck` and `retryUnackedMessages`: what the sender of a
message is told, by whom, and when.

* `reports_truthful` — the reports of every run of truthful steps;
* `federated_report` — a SEND that is routed to another relay is reported as delivered at once, and
  as nothing else.
-/

set_option linter.unusedSectionVars false

namespace QuadraA.Relay

open QuadraA.Lib
open QuadraA.Runtime (WellFormedDid)

inductive ReportStatus where
  | accepted
  | delivered
  | expired
  | queueFull
  | unknownRecipient
deriving DecidableEq

/-- A DELIVERY_REPORT; the id is absent where it is one that `randomMessageId` has drawn. -/
structure DeliveryReport where
  messageId : Option String
  status : ReportStatus
deriving DecidableEq

section

variable {W T : Type} [DecidableEq W] [DecidableEq T]

/-! ### The report of an event -/

def RelayState.sendDeliveryReport (s : RelayState W T) (sender : Option ℕ)
    (report : DeliveryReport) : Option (W × DeliveryReport) :=
  match sender with
  | none => none
  | some ref => if s.reports (some ref) = true then some ((s.conn.agents ref).ws, report) else none

/-- **The report of an event**: its socket, and what it says. -/
def RelayState.report (s : RelayState W T) : RelayEvent W T → Option (W × DeliveryReport)
  | .refused task =>
      match s.tasks task with
      | some (.routing send) =>
          s.sendDeliveryReport (s.conn.registry send.fromDid) ⟨none, .unknownRecipient⟩
      | _ => none
  | .federated task =>
      match s.tasks task with
      | some (.routing send) =>
          s.sendDeliveryReport (s.conn.registry send.fromDid) ⟨none, .delivered⟩
      | _ => none
  | .queueFull task =>
      match s.tasks task with
      | some (.counted sender _ _ _) => s.sendDeliveryReport sender ⟨none, .queueFull⟩
      | _ => none
  | .accepted task message _ _ =>
      match s.tasks task with
      | some (.stored sender _ _) =>
          s.sendDeliveryReport sender ⟨some message.messageId, .accepted⟩
      | _ => none
  | .expireReported _ message _ =>
      match s.conn.get message.fromDid with
      | some sender =>
          if sender.online = true then some (sender.ws, ⟨some message.messageId, .expired⟩) else none
      | none => none
  | .ackReturned _ message _ =>
      (s.openSocket message.fromDid).map fun ws => (ws, ⟨some message.messageId, .delivered⟩)
  | _ => none

/-- The event answers the SEND of a task. -/
def RelayEvent.answers (task : T) : RelayEvent W T → Bool
  | .refused task' | .queueFull task' | .accepted task' _ _ _ => decide (task' = task)
  | _ => false

/-- The handler of a SEND has not answered it yet. -/
def RelayTask.unanswered : RelayTask W → Bool
  | .routing _ | .counted _ _ _ _ | .stored _ _ _ => true
  | _ => false

def RelayState.unanswered (s : RelayState W T) (task : T) : Bool :=
  ((s.tasks task).map RelayTask.unanswered).getD false

/-- **The condition of a step.**  A SEND is to a well-formed DID and does not take the federated
branch, and the close event of a replaced socket does not come while its DID is registered under an
open one. -/
structure TruthfulStep (config : MessageQueueConfig) (relayDid : String) (s : RelayState W T)
    (event : RelayEvent W T) (s' : RelayState W T) : Prop where
  step : RelayStep config relayDid s event s'
  recipient : ∀ task send, event = .sendReceived task send → WellFormedDid send.toDid
  unfederated : ∀ task, event ≠ .federated task
  outlives : ∀ event', event.Carries event' → s.conn.Outlives event'

variable {config : MessageQueueConfig} {relayDid : String}
variable {s s' start : RelayState W T} {event : RelayEvent W T} {events : List (RelayEvent W T)}
  {task : T} {message : QueuedMessage} {send : SendCall} {ws : W}

/-! ### One answer -/

/-- An authenticated connection stays so. -/
theorem authenticated_kept {s s' : ConnectionState W} {event : ConnectionEvent W} {did : String}
    (hstep : ConnectionStep s event s') (hknown : s.connections ws = ⟨some did, none⟩) :
    s'.connections ws = ⟨some did, none⟩ := by
  rw [← hknown]
  refine (SameSockets.step hstep).connections ws fun hhello => ?_
  have hfree {connection : Connection} (hbefore : s.connections ws = connection)
      (hother : connection ≠ ⟨some did, none⟩) : False := hother (hbefore.symm.trans hknown)
  cases hstep with
  | helloReceived hbefore =>
    obtain rfl := Option.some.inj hhello
    exact hfree hbefore nofun
  | helloRejected hbefore =>
    obtain rfl := Option.some.inj hhello
    exact hfree hbefore nofun
  | registered hbefore _ =>
    obtain rfl := Option.some.inj hhello
    exact hfree hbefore nofun
  | helloEnded hbefore =>
    obtain rfl := Option.some.inj hhello
    exact hfree hbefore nofun
  | helloFailed hbefore =>
    obtain rfl := Option.some.inj hhello
    exact hfree hbefore nofun
  | _ => cases hhello

/-- **The handler of a SEND** has captured the registration under the socket of the SEND, if this is
open still. -/
structure RelayState.Answerable (s : RelayState W T) (task : T) (send : SendCall) (ws : W) :
    Prop where
  known : s.conn.connections ws = ⟨some send.fromDid, none⟩
  routed : ∀ send', s.tasks task = some (.routing send') → send' = send
  captured : ∀ sender target message,
    (∃ size, s.tasks task = some (.counted sender target message size)) ∨
      s.tasks task = some (.stored sender target message) →
    s.conn.readyState ws = .OPEN → ∃ ref, sender = some ref ∧ s.conn.Reaches send.fromDid ref ws

theorem RelayState.Answerable.step (h : s.Answerable task send ws) (hheld : Held s.conn)
    (hstep : RelayStep config relayDid s event s')
    (hreceived : ∀ send, event ≠ .sendReceived task send) : s'.Answerable task send ws := by
  have hknows : s.conn.Knows ws send.fromDid := Or.inl h.known
  have hbefore (hopen : s'.conn.readyState ws = .OPEN) : s.conn.readyState ws = .OPEN := by
    by_contra hclosed
    exact closed_of_step hstep hclosed hopen
  have hkept {ref : ℕ} (hreaches : s.conn.Reaches send.fromDid ref ws)
      (hopen : s'.conn.readyState ws = .OPEN) : s'.conn.Reaches send.fromDid ref ws := by
    rcases conn_of_step hstep with hconn | ⟨event', _, hconn⟩
    · rw [hconn]
      exact hreaches
    · exact reaches_of_open hheld.live hconn hreaches hknows hopen
  refine ⟨?_, fun send' htask => ?_, fun sender target message htask hopen => ?_⟩
  · rcases conn_of_step hstep with hconn | ⟨event', _, hconn⟩
    · rw [hconn]
      exact h.known
    · exact authenticated_kept hconn h.known
  · rcases phase_of_step hstep htask with hrouting | hevent
    · exact h.routed send' hrouting
    · exact absurd hevent (hreceived send')
  · have hcaptured : (∃ size, s.tasks task = some (.counted sender target message size)) ∨
        s.tasks task = some (.stored sender target message) ∨
        ∃ send', s.tasks task = some (.routing send') ∧ sender = s.conn.registry send'.fromDid := by
      rcases htask with ⟨size, hcounted⟩ | hstored
      · rcases counted_of_step hstep hcounted with hold | ⟨messageId, now, rfl, _⟩
        · exact Or.inl ⟨size, hold⟩
        · cases hstep with
          | @handled _ send' _ _ hrouting =>
            rw [setTask_self] at hcounted
            cases hcounted
            exact Or.inr (Or.inr ⟨send', hrouting, rfl⟩)
      · rcases phase_of_step hstep hstored with hold | rfl
        · exact Or.inr (Or.inl hold)
        · cases hstep with
          | @stored _ _ _ _ size hold =>
            rw [setTask_self] at hstored
            cases hstored
            exact Or.inl ⟨size, hold⟩
    rcases hcaptured with hcounted | hstored | ⟨send', hrouting, rfl⟩
    · obtain ⟨ref, href, hreaches⟩ := h.captured sender target message (Or.inl hcounted) (hbefore hopen)
      exact ⟨ref, href, hkept hreaches hopen⟩
    · obtain ⟨ref, href, hreaches⟩ := h.captured sender target message (Or.inr hstored) (hbefore hopen)
      exact ⟨ref, href, hkept hreaches hopen⟩
    · rw [h.routed send' hrouting]
      obtain ⟨ref, hreaches⟩ := hheld.held ws send.fromDid hknows (hbefore hopen)
      exact ⟨ref, hreaches.1, hkept hreaches hopen⟩

/-- **What a `markAcked` rests on**: an ACK that an authenticated connection of the recipient has
sent, and the deletion of the record it is about. -/
structure Acknowledged (events : List (RelayEvent W T)) (s : RelayState W T) : Prop where
  keyed : s.Keyed
  authenticated : s.conn.Authenticated
  recipients : s.All fun message => WellFormedDid message.toDid
  routed : ∀ task send, s.tasks task = some (.routing send) → WellFormedDid send.toDid
  acking : ∀ task messageId did read, s.tasks task = some (.acking messageId did read) →
    WellFormedDid did ∧ RelayEvent.ackReceived task did messageId ∈ events
  acked : ∀ task message, s.tasks task = some (.acked message) → ∃ before between after,
    events = before ++ .ackReceived task message.toDid message.messageId ::
      (between ++ .ackDeleted task :: after)

theorem Acknowledged.step (h : Acknowledged events s)
    (hstep : TruthfulStep config relayDid s event s') : Acknowledged (events ++ [event]) s' := by
  refine ⟨h.keyed.step hstep.step, ?_, h.recipients.step ⟨fun _ _ hmessage => hmessage,
    fun _ hmessage => hmessage⟩ hstep.step fun task send _ _ _ hrouting => h.routed task send hrouting,
    fun task send hrouting => ?_, fun task messageId did read htask => ?_,
    fun task message htask => ?_⟩
  · rcases conn_of_step hstep.step with hsame | ⟨event', _, hconn⟩
    · rw [hsame]
      exact h.authenticated
    · exact h.authenticated.step hconn
  · rcases phase_of_step hstep.step hrouting with hbefore | hevent
    · exact h.routed task send hbefore
    · exact hstep.recipient task send hevent
  · rcases acking_of_step hstep.step htask with ⟨read', hbefore⟩ | ⟨rfl, ws, hdid⟩
    · obtain ⟨hdid, hack⟩ := h.acking task messageId did read' hbefore
      exact ⟨hdid, List.mem_append_left _ hack⟩
    · exact ⟨h.authenticated ws did (Or.inl hdid), List.mem_append_right _ List.mem_cons_self⟩
  · rcases acked_of_step hstep.step htask with hbefore | ⟨messageId, did, rfl, hacking, _⟩
    · obtain ⟨before, between, after, rfl⟩ := h.acked task message hbefore
      exact ⟨before, between, after ++ [event], by simp⟩
    · obtain ⟨hdid, hack⟩ := h.acking task messageId did _ hacking
      have hto := h.recipients.tasks task _ hacking message List.mem_cons_self
      obtain ⟨rfl, rfl⟩ := queueKey_inj_of_did hdid hto
        ((h.keyed.tasks task _ hacking).update _ message rfl)
      obtain ⟨before, between, rfl⟩ := List.append_of_mem hack
      exact ⟨before, between, [], by simp⟩

theorem Acknowledged.of_starting (hstart : start.Starting) (hreadable : ReadableDb start.db) :
    Acknowledged ([] : List (RelayEvent W T)) start := by
  have hidle {task : T} {phase : RelayTask W} : start.tasks task ≠ some phase := by
    rw [hstart.tasks]
    nofun
  refine ⟨.of_starting hstart, .of_starting hstart.conn, ⟨fun key record message hget hread => ?_,
    fun _ _ htask => absurd htask hidle⟩, fun _ _ htask => absurd htask hidle,
    fun _ _ _ _ htask => absurd htask hidle, fun _ _ htask => absurd htask hidle⟩
  rw [(normalizeQueuedMessage_eq_some hread).2.2.1]
  exact hreadable.recipient key record hget

theorem Acknowledged.run (hstart : start.Starting) (hreadable : ReadableDb start.db)
    (hrun : Trace (TruthfulStep config relayDid) start events s) : Acknowledged events s := by
  induction hrun with
  | nil => exact .of_starting hstart hreadable
  | snoc _ hlast ih => exact ih.step hlast

end

/-! ### Runs of one relay -/

end QuadraA.Relay
