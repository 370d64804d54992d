import QuadraA.RuntimeRs.RelayWorker
import QuadraA.Lib.Trace
import Mathlib.Data.List.Nodup
import QuadraA.Lib.Updates

/-!
# Waits of the daemon

Who waits for whom in the daemon: the relay worker, the event loop, and the tasks that send
(`handle_send`, `replay_outbound_messages`, `send_peer_retry_notifications` and the session reset),
with the two channels between them and the locks that they take.

* `no_deadlock` — no cycle of waits in a run in which the event loop and the worker never wait at
  once;
* `send_cycle` — a message from a peer to which a send is under way, and 129 more events, stop the
  daemon.

The locks on the state, on the coordinator and on the configuration are held over no call to the
worker and are left out.
-/

set_option linter.unusedSectionVars false

namespace QuadraA.CliRs

open QuadraA.Lib QuadraA.RuntimeRs

/-! ### Parties -/

/-- The capacity of the channel of commands. -/
def commandCapacity : ℕ := 32

/-- The capacity of the channel of events. -/
def eventCapacity : ℕ := 128

inductive DaemonLock where
  | peerSession (peerDid : String)
  | outboundSend
deriving DecidableEq

/-- Whoever takes locks and calls the worker. -/
inductive Party (T : Type) where
  | eventLoop
  | task (task : T)
deriving DecidableEq

/-- Where a party is: before its locks, in the queue of the session lock of its peer, in that of the
send lock as well, passing a command to the worker, or before the response. -/
inductive PartyPhase where
  | idle
  | called (peerDid : String)
  | locking (peerDid : String)
  | sendLocking (peerDid : String)
  | submitting (peerDid : String)
  | awaiting (peerDid : String)
deriving DecidableEq

/-- The peer whose session lock a party has asked for. -/
def PartyPhase.peer? : PartyPhase → Option String
  | .locking peerDid | .sendLocking peerDid | .submitting peerDid | .awaiting peerDid =>
      some peerDid
  | _ => none

/-- The party has asked for the send lock. -/
def PartyPhase.sends : PartyPhase → Bool
  | .sendLocking _ | .submitting _ | .awaiting _ => true
  | _ => false

/-- The party is in `send_envelope_via_worker`. -/
def PartyPhase.atWorker : PartyPhase → Bool
  | .submitting _ | .awaiting _ => true
  | _ => false

/-- What the event loop does with an event: a message may need the session lock of its sender. -/
def eventPhase : RelayWorkerEvent → PartyPhase
  | .envelopeReceived _ sender _ => .called sender
  | _ => .idle

/-- The worker with the event that it emits and the party that it serves, the channels, and the
queues of the locks, the holder first. -/
structure DaemonWaits (T : Type) where
  emitting : Option RelayWorkerEvent
  serving : Option (Party T)
  commands : List (Party T)
  events : List RelayWorkerEvent
  phases : Party T → PartyPhase
  queue : DaemonLock → List (Party T)

inductive WaitEvent (T : Type) where
  | emits (event : RelayWorkerEvent)
  | pushed
  | takes
  | responds
  | received
  | called (task : T) (peerDid : String)
  | skipped (party : Party T)
  | locks (party : Party T)
  | sendLocks (party : Party T)
  | submits (party : Party T)
  | enqueued (party : Party T)
  | sendReleases (party : Party T)
  | releases (party : Party T)

section

variable {T : Type} [DecidableEq T]

namespace DaemonWaits

def setPhase (s : DaemonWaits T) (party : Party T) (phase : PartyPhase) : DaemonWaits T :=
  { s with phases := Function.update s.phases party phase }

/-- `lock().await`: the party holds the lock at once if nobody else does. -/
def join (s : DaemonWaits T) (lock : DaemonLock) (party : Party T) : DaemonWaits T :=
  { s with queue := Function.update s.queue lock (s.queue lock ++ [party]) }

/-- The guard of the holder is dropped, and the lock passes to the next in the queue. -/
def leave (s : DaemonWaits T) (lock : DaemonLock) : DaemonWaits T :=
  { s with queue := Function.update s.queue lock (s.queue lock).tail }

def Holds (s : DaemonWaits T) (party : Party T) (lock : DaemonLock) : Prop :=
  (s.queue lock).head? = some party

def Waits (s : DaemonWaits T) (party : Party T) (lock : DaemonLock) : Prop :=
  party ∈ (s.queue lock).tail

def AtWorker (s : DaemonWaits T) (party : Party T) : Prop :=
  (s.phases party).atWorker = true

/-- The worker waits for space in the event channel. -/
def WorkerBlocked (s : DaemonWaits T) : Prop :=
  s.emitting ≠ none ∧ eventCapacity ≤ s.events.length

/-- The event loop waits for a lock, or for the worker. -/
def EventLoopWaits (s : DaemonWaits T) : Prop :=
  (∃ lock, s.Waits .eventLoop lock) ∨ s.AtWorker .eventLoop

end DaemonWaits

/-- **What the worker and the parties do.** -/
inductive WaitStep (s : DaemonWaits T) : WaitEvent T → DaemonWaits T → Prop
  | emits {event : RelayWorkerEvent} :
      s.emitting = none → WaitStep s (.emits event) { s with emitting := some event }
  | pushed {event : RelayWorkerEvent} :
      s.emitting = some event → s.events.length < eventCapacity →
      WaitStep s .pushed { s with emitting := none, events := s.events ++ [event] }
  | takes {party : Party T} {commands : List (Party T)} :
      s.emitting = none → s.serving = none → s.commands = party :: commands →
      WaitStep s .takes { s with serving := some party, commands := commands }
  | responds {party : Party T} {peerDid : String} :
      s.emitting = none → s.serving = some party → s.phases party = .awaiting peerDid →
      WaitStep s .responds { s.setPhase party (.sendLocking peerDid) with serving := none }
  | received {event : RelayWorkerEvent} {events : List RelayWorkerEvent} :
      s.phases .eventLoop = .idle → s.events = event :: events →
      WaitStep s .received { s.setPhase .eventLoop (eventPhase event) with events := events }
  | called {task : T} {peerDid : String} :
      s.phases (.task task) = .idle →
      WaitStep s (.called task peerDid) (s.setPhase (.task task) (.called peerDid))
  | skipped {party : Party T} {peerDid : String} :
      s.phases party = .called peerDid → WaitStep s (.skipped party) (s.setPhase party .idle)
  | locks {party : Party T} {peerDid : String} :
      s.phases party = .called peerDid →
      WaitStep s (.locks party)
        ((s.join (.peerSession peerDid) party).setPhase party (.locking peerDid))
  | sendLocks {party : Party T} {peerDid : String} :
      s.phases party = .locking peerDid → s.Holds party (.peerSession peerDid) →
      WaitStep s (.sendLocks party)
        ((s.join .outboundSend party).setPhase party (.sendLocking peerDid))
  | submits {party : Party T} {peerDid : String} :
      s.phases party = .sendLocking peerDid → s.Holds party .outboundSend →
      WaitStep s (.submits party) (s.setPhase party (.submitting peerDid))
  | enqueued {party : Party T} {peerDid : String} :
      s.phases party = .submitting peerDid → s.commands.length < commandCapacity →
      WaitStep s (.enqueued party)
        { s.setPhase party (.awaiting peerDid) with commands := s.commands ++ [party] }
  | sendReleases {party : Party T} {peerDid : String} :
      s.phases party = .sendLocking peerDid → s.Holds party .outboundSend →
      WaitStep s (.sendReleases party)
        ((s.leave .outboundSend).setPhase party (.locking peerDid))
  | releases {party : Party T} {peerDid : String} :
      s.phases party = .locking peerDid → s.Holds party (.peerSession peerDid) →
      WaitStep s (.releases party) ((s.leave (.peerSession peerDid)).setPhase party .idle)

/-! ### Cycles -/

inductive DaemonNode (T : Type) where
  | worker
  | party (party : Party T)

/-- **Who waits for whom.**  The worker waits for the event loop to take an event, a party for the
holder of a lock or for the response of the worker. -/
inductive DaemonWaits.WaitsFor (s : DaemonWaits T) : DaemonNode T → DaemonNode T → Prop
  | space : s.WorkerBlocked → s.WaitsFor .worker (.party .eventLoop)
  | lock {party holder : Party T} {lock : DaemonLock} :
      s.Waits party lock → s.Holds holder lock → s.WaitsFor (.party party) (.party holder)
  | response {party : Party T} : s.AtWorker party → s.WaitsFor (.party party) .worker

/-- The worker waits for space, the event loop for a lock, and the holder of the lock for the
worker. -/
def DaemonWaits.SendCycle (s : DaemonWaits T) : Prop :=
  s.WorkerBlocked ∧ ∃ lock holder, s.Waits .eventLoop lock ∧ s.Holds holder lock ∧
    s.AtWorker holder

/-- **The condition** on a step: the worker comes to a full channel only while the event loop does
not wait, and the event loop comes to a held lock, or calls the worker, only while the worker does
not wait for space. -/
def DaemonWaits.Attends (s : DaemonWaits T) : WaitEvent T → Prop
  | .emits _ => eventCapacity ≤ s.events.length → ¬ s.EventLoopWaits
  | .locks .eventLoop => ∀ peerDid, s.phases .eventLoop = .called peerDid →
      s.queue (.peerSession peerDid) ≠ [] → ¬ s.WorkerBlocked
  | .sendLocks .eventLoop => s.queue .outboundSend ≠ [] → ¬ s.WorkerBlocked
  | .submits .eventLoop => ¬ s.WorkerBlocked
  | _ => True

def CarefulWaitStep (s : DaemonWaits T) (event : WaitEvent T) (s' : DaemonWaits T) : Prop :=
  WaitStep s event s' ∧ s.Attends event

/-! ### The order of the locks -/

theorem DaemonLock.peerSession_ne (peerDid : String) :
    DaemonLock.peerSession peerDid ≠ .outboundSend := nofun

/-- **The order of the locks.**  Each party is in the queue of the session lock of one peer, it asks
for the send lock as the holder of that, and calls the worker as the holder of both. -/
structure LockOrder (s : DaemonWaits T) : Prop where
  nodup : ∀ lock, (s.queue lock).Nodup
  peer : ∀ party peerDid, party ∈ s.queue (.peerSession peerDid) ↔
    (s.phases party).peer? = some peerDid
  outbound : ∀ party, party ∈ s.queue .outboundSend ↔ (s.phases party).sends = true
  holdsPeer : ∀ party peerDid, (s.phases party).sends = true →
    (s.phases party).peer? = some peerDid → s.Holds party (.peerSession peerDid)
  holdsOutbound : ∀ party, s.AtWorker party → s.Holds party .outboundSend

namespace LockOrder

variable {s : DaemonWaits T} {party other : Party T} {lock : DaemonLock} {peerDid : String}
  {phase : PartyPhase}

/-- The holder of a lock does not wait for it. -/
theorem not_waits (h : LockOrder s) (hholds : s.Holds party lock) : ¬ s.Waits party lock := by
  intro hwaits
  have hnodup := h.nodup lock
  unfold DaemonWaits.Holds at hholds
  unfold DaemonWaits.Waits at hwaits
  cases hqueue : s.queue lock with
  | nil =>
    rw [hqueue] at hholds
    cases hholds
  | cons head rest =>
    rw [hqueue] at hholds hwaits hnodup
    cases hholds
    exact (List.nodup_cons.mp hnodup).1 hwaits

/-- A party that has asked for the send lock waits for no session lock. -/
theorem not_waits_peer (h : LockOrder s) (hsends : (s.phases party).sends = true)
    (peerDid : String) : ¬ s.Waits party (.peerSession peerDid) := by
  intro hwaits
  have hpeer := (h.peer party peerDid).mp (List.mem_of_mem_tail hwaits)
  exact h.not_waits (h.holdsPeer party peerDid hsends hpeer) hwaits

/-! #### Steps -/

/-- A party moves on between calls, with the locks that it has. -/
theorem moved (h : LockOrder s) (hpeer : phase.peer? = (s.phases party).peer?)
    (hsends : phase.sends = (s.phases party).sends)
    (hworker : phase.atWorker = true → s.Holds party .outboundSend) :
    LockOrder (s.setPhase party phase) := by
  have hphase (other : Party T) : ((s.setPhase party phase).phases other).peer? =
      (s.phases other).peer? ∧ ((s.setPhase party phase).phases other).sends =
        (s.phases other).sends := by
    dsimp only [DaemonWaits.setPhase]
    by_cases hother : other = party
    · rw [hother, Function.update_self]
      exact ⟨hpeer, hsends⟩
    · rw [Function.update_of_ne hother]
      exact ⟨rfl, rfl⟩
  refine ⟨h.nodup, fun other peerDid => ?_, fun other => ?_, fun other peerDid hs hp => ?_,
    fun other hat => ?_⟩
  · rw [(hphase other).1]
    exact h.peer other peerDid
  · rw [(hphase other).2]
    exact h.outbound other
  · rw [(hphase other).2] at hs
    rw [(hphase other).1] at hp
    exact h.holdsPeer other peerDid hs hp
  · unfold DaemonWaits.AtWorker DaemonWaits.setPhase at hat
    dsimp only at hat
    by_cases hother : other = party
    · rw [hother, Function.update_self] at hat
      rw [hother]
      exact hworker hat
    · rw [Function.update_of_ne hother] at hat
      exact h.holdsOutbound other hat

/-- **A party joins or leaves a queue**, and the queue keeps its other members and its holder. -/
theorem requeue (h : LockOrder s) {queue : List (Party T)} (hnodup : queue.Nodup)
    (hmem : ∀ other, other ≠ party → (other ∈ queue ↔ other ∈ s.queue lock))
    (hhead : ∀ other, other ≠ party → s.Holds other lock → queue.head? = some other)
    (hpeer : ∀ peerDid, party ∈ Function.update s.queue lock queue (.peerSession peerDid) ↔
      phase.peer? = some peerDid)
    (houtbound : party ∈ Function.update s.queue lock queue .outboundSend ↔ phase.sends = true)
    (hsends : phase.sends = true → ∀ peerDid, phase.peer? = some peerDid →
      (Function.update s.queue lock queue (.peerSession peerDid)).head? = some party)
    (hworker : phase.atWorker = false) :
    LockOrder ({ s with queue := Function.update s.queue lock queue }.setPhase party phase) := by
  have hself : Function.update s.phases party phase party = phase := Function.update_self ..
  have hother {other : Party T} (hne : other ≠ party) :
      Function.update s.phases party phase other = s.phases other := Function.update_of_ne hne _ _
  have hqueue {other : Party T} (hne : other ≠ party) (lock' : DaemonLock) :
      other ∈ Function.update s.queue lock queue lock' ↔ other ∈ s.queue lock' := by
    by_cases hlock : lock' = lock
    · rw [hlock, Function.update_self]
      exact hmem other hne
    · rw [Function.update_of_ne hlock]
  have hholds {other : Party T} (hne : other ≠ party) {lock' : DaemonLock}
      (hheld : s.Holds other lock') :
      (Function.update s.queue lock queue lock').head? = some other := by
    by_cases hlock : lock' = lock
    · subst hlock
      rw [Function.update_self]
      exact hhead other hne hheld
    · rw [Function.update_of_ne hlock]
      exact hheld
  refine ⟨fun lock' => ?_, fun other peerDid => ?_, fun other => ?_, fun other peerDid hs hp => ?_,
    fun other hat => ?_⟩
  · show (Function.update s.queue lock queue lock').Nodup
    by_cases hlock : lock' = lock
    · rw [hlock, Function.update_self]
      exact hnodup
    · rw [Function.update_of_ne hlock]
      exact h.nodup lock'
  · show other ∈ Function.update s.queue lock queue (.peerSession peerDid) ↔
      (Function.update s.phases party phase other).peer? = some peerDid
    by_cases hne : other = party
    · rw [hne, hself]
      exact hpeer peerDid
    · rw [hqueue hne, hother hne]
      exact h.peer other peerDid
  · show other ∈ Function.update s.queue lock queue .outboundSend ↔
      (Function.update s.phases party phase other).sends = true
    by_cases hne : other = party
    · rw [hne, hself]
      exact houtbound
    · rw [hqueue hne, hother hne]
      exact h.outbound other
  · change (Function.update s.phases party phase other).sends = true at hs
    change (Function.update s.phases party phase other).peer? = some peerDid at hp
    show (Function.update s.queue lock queue (.peerSession peerDid)).head? = some other
    by_cases hne : other = party
    · rw [hne, hself] at hs hp
      rw [hne]
      exact hsends hs peerDid hp
    · rw [hother hne] at hs hp
      exact hholds hne (h.holdsPeer other peerDid hs hp)
  · change (Function.update s.phases party phase other).atWorker = true at hat
    show (Function.update s.queue lock queue .outboundSend).head? = some other
    by_cases hne : other = party
    · rw [hne, hself, hworker] at hat
      cases hat
    · rw [hother hne] at hat
      exact hholds hne (h.holdsOutbound other hat)

/-- `lock().await` on a lock that the party has not asked for. -/
theorem join (h : LockOrder s) (hnew : party ∉ s.queue lock)
    (hpeer : ∀ peerDid, party ∈ Function.update s.queue lock (s.queue lock ++ [party])
      (.peerSession peerDid) ↔ phase.peer? = some peerDid)
    (houtbound : party ∈ Function.update s.queue lock (s.queue lock ++ [party]) .outboundSend ↔
      phase.sends = true)
    (hsends : phase.sends = true → ∀ peerDid, phase.peer? = some peerDid →
      (Function.update s.queue lock (s.queue lock ++ [party]) (.peerSession peerDid)).head? =
        some party)
    (hworker : phase.atWorker = false) : LockOrder ((s.join lock party).setPhase party phase) := by
  refine h.requeue ((h.nodup lock).append (List.nodup_singleton party) ?_) (fun other hne => ?_)
    (fun other hne hheld => ?_) hpeer houtbound hsends hworker
  · intro other hmem hlast
    rw [List.mem_singleton.mp hlast] at hmem
    exact hnew hmem
  · rw [List.mem_append, List.mem_singleton]
    exact or_iff_left hne
  · unfold DaemonWaits.Holds at hheld
    rw [List.head?_append, hheld]
    rfl

/-- The holder of a lock drops its guard. -/
theorem leave (h : LockOrder s) (hheld : s.Holds party lock)
    (hpeer : ∀ peerDid, party ∈ Function.update s.queue lock (s.queue lock).tail
      (.peerSession peerDid) ↔ phase.peer? = some peerDid)
    (houtbound : party ∈ Function.update s.queue lock (s.queue lock).tail .outboundSend ↔
      phase.sends = true)
    (hsends : phase.sends = false) (hworker : phase.atWorker = false) :
    LockOrder ((s.leave lock).setPhase party phase) := by
  refine h.requeue ((h.nodup lock).sublist (List.tail_sublist _)) (fun other hne => ?_)
    (fun other hne hother => ?_) hpeer houtbound (fun hs => ?_) hworker
  · refine ⟨List.mem_of_mem_tail, fun hmem => ?_⟩
    unfold DaemonWaits.Holds at hheld
    cases hqueue : s.queue lock with
    | nil =>
      rw [hqueue] at hmem
      cases hmem
    | cons head rest =>
      rw [hqueue] at hheld hmem
      cases hheld
      exact (List.mem_cons.mp hmem).resolve_left hne
  · exact absurd (Option.some.inj (hother.symm.trans hheld)) hne
  · rw [hsends] at hs
    cases hs

theorem step {s' : DaemonWaits T} {event : WaitEvent T} (h : LockOrder s)
    (hstep : WaitStep s event s') : LockOrder s' := by
  cases hstep with
  | emits => exact ⟨h.nodup, h.peer, h.outbound, h.holdsPeer, h.holdsOutbound⟩
  | pushed => exact ⟨h.nodup, h.peer, h.outbound, h.holdsPeer, h.holdsOutbound⟩
  | takes => exact ⟨h.nodup, h.peer, h.outbound, h.holdsPeer, h.holdsOutbound⟩
  | @responds party peerDid _ _ hphase =>
    have hmoved : LockOrder (s.setPhase party (.sendLocking peerDid)) :=
      h.moved (by rw [hphase]; rfl) (by rw [hphase]; rfl) nofun
    exact ⟨hmoved.nodup, hmoved.peer, hmoved.outbound, hmoved.holdsPeer, hmoved.holdsOutbound⟩
  | @received event events hphase _ =>
    have hmoved : LockOrder (s.setPhase .eventLoop (eventPhase event)) := by
      refine h.moved ?_ ?_ ?_
      · rw [hphase]
        cases event <;> rfl
      · rw [hphase]
        cases event <;> rfl
      · intro hat
        cases event <;> cases hat
    exact ⟨hmoved.nodup, hmoved.peer, hmoved.outbound, hmoved.holdsPeer, hmoved.holdsOutbound⟩
  | called hphase => exact h.moved (by rw [hphase]; rfl) (by rw [hphase]; rfl) nofun
  | skipped hphase => exact h.moved (by rw [hphase]; rfl) (by rw [hphase]; rfl) nofun
  | @locks party peerDid hphase =>
    have hpeer (other : String) : party ∉ s.queue (.peerSession other) := fun hmem => by
      have hasked := (h.peer party other).mp hmem
      rw [hphase] at hasked
      cases hasked
    have houtbound : party ∉ s.queue .outboundSend := fun hmem => by
      have hasked := (h.outbound party).mp hmem
      rw [hphase] at hasked
      cases hasked
    refine h.join (hpeer peerDid) (fun other => ?_) ?_ nofun rfl
    · by_cases hother : other = peerDid
      · rw [hother, Function.update_self]
        exact iff_of_true (List.mem_append_right _ List.mem_cons_self) rfl
      · rw [Function.update_of_ne fun hsame => hother (DaemonLock.peerSession.inj hsame)]
        exact iff_of_false (hpeer other) fun hsame => hother (Option.some.inj hsame).symm
    · rw [Function.update_of_ne (DaemonLock.peerSession_ne peerDid).symm]
      exact iff_of_false houtbound nofun
  | @sendLocks party peerDid hphase hheld =>
    have houtbound : party ∉ s.queue .outboundSend := fun hmem => by
      have hasked := (h.outbound party).mp hmem
      rw [hphase] at hasked
      cases hasked
    refine h.join houtbound (fun other => ?_) ?_ (fun _ other hother => ?_) rfl
    · rw [Function.update_of_ne (DaemonLock.peerSession_ne other), h.peer, hphase]
      rfl
    · rw [Function.update_self]
      exact iff_of_true (List.mem_append_right _ List.mem_cons_self) rfl
    · obtain rfl : peerDid = other := Option.some.inj hother
      rw [Function.update_of_ne (DaemonLock.peerSession_ne peerDid)]
      exact hheld
  | submits hphase hheld => exact h.moved (by rw [hphase]; rfl) (by rw [hphase]; rfl) fun _ => hheld
  | @enqueued party peerDid hphase _ =>
    have hmoved : LockOrder (s.setPhase party (.awaiting peerDid)) :=
      h.moved (by rw [hphase]; rfl) (by rw [hphase]; rfl) fun _ =>
        h.holdsOutbound party (by unfold DaemonWaits.AtWorker; rw [hphase]; rfl)
    exact ⟨hmoved.nodup, hmoved.peer, hmoved.outbound, hmoved.holdsPeer, hmoved.holdsOutbound⟩
  | @sendReleases party peerDid hphase hheld =>
    refine h.leave hheld (fun other => ?_) ?_ rfl rfl
    · rw [Function.update_of_ne (DaemonLock.peerSession_ne other), h.peer, hphase]
      rfl
    · rw [Function.update_self]
      exact iff_of_false (h.not_waits hheld) nofun
  | @releases party peerDid hphase hheld =>
    refine h.leave hheld (fun other => ?_) ?_ rfl rfl
    · by_cases hother : other = peerDid
      · rw [hother, Function.update_self]
        exact iff_of_false (h.not_waits hheld) nofun
      · rw [Function.update_of_ne fun hsame => hother (DaemonLock.peerSession.inj hsame), h.peer,
          hphase]
        exact iff_of_false (fun hsame => hother (Option.some.inj hsame).symm) nofun
    · rw [Function.update_of_ne (DaemonLock.peerSession_ne peerDid).symm, h.outbound, hphase]
      exact iff_of_false nofun nofun

end LockOrder

/-! ### The event loop and the worker -/

/-- The worker and the event loop do not wait at once. -/
def DaemonWaits.Alternate (s : DaemonWaits T) : Prop := s.WorkerBlocked → ¬ s.EventLoopWaits

section

variable {s s' : DaemonWaits T} {event : WaitEvent T}

/-- Waiting in a queue that others join or leave. -/
theorem waits_of_join {lock lock' : DaemonLock} {party party' : Party T}
    (h : (s.join lock party).Waits party' lock') :
    s.Waits party' lock' ∨ (party' = party ∧ lock' = lock ∧ s.queue lock ≠ []) := by
  unfold DaemonWaits.Waits DaemonWaits.join at h
  dsimp only at h
  by_cases hlock : lock' = lock
  · rw [hlock, Function.update_self] at h
    cases hqueue : s.queue lock with
    | nil =>
      rw [hqueue] at h
      cases h
    | cons head rest =>
      rw [hqueue] at h
      rcases List.mem_append.mp h with hbefore | hlast
      · refine Or.inl ?_
        rw [DaemonWaits.Waits, hlock, hqueue]
        exact hbefore
      · exact Or.inr ⟨List.mem_singleton.mp hlast, hlock, nofun⟩
  · rw [Function.update_of_ne hlock] at h
    exact Or.inl h

theorem waits_of_leave {lock lock' : DaemonLock} {party : Party T}
    (h : (s.leave lock).Waits party lock') : s.Waits party lock' := by
  unfold DaemonWaits.Waits DaemonWaits.leave at h
  dsimp only at h
  by_cases hlock : lock' = lock
  · rw [hlock, Function.update_self] at h
    rw [DaemonWaits.Waits, hlock]
    exact List.mem_of_mem_tail h
  · rw [Function.update_of_ne hlock] at h
    exact h

/-- A party comes to the worker by its own step. -/
theorem atWorker_of_setPhase {party other : Party T} {phase : PartyPhase}
    (h : (s.setPhase party phase).AtWorker other) :
    s.AtWorker other ∨ (other = party ∧ phase.atWorker = true) := by
  unfold DaemonWaits.AtWorker DaemonWaits.setPhase at h
  dsimp only at h
  by_cases hother : other = party
  · rw [hother, Function.update_self] at h
    exact Or.inr ⟨hother, h⟩
  · rw [Function.update_of_ne hother] at h
    exact Or.inl h

/-- The worker comes to wait for space by emitting an event into a full channel. -/
theorem blocked_of_step (hstep : WaitStep s event s') (h : s'.WorkerBlocked) :
    s.WorkerBlocked ∨ ((∃ emitted, event = .emits emitted) ∧ eventCapacity ≤ s.events.length) := by
  cases hstep with
  | emits => exact Or.inr ⟨⟨_, rfl⟩, h.2⟩
  | pushed => exact absurd rfl h.1
  | received hphase hevents =>
    refine Or.inl ⟨h.1, ?_⟩
    rw [hevents]
    exact Nat.le_succ_of_le h.2
  | takes => exact Or.inl h
  | responds => exact Or.inl h
  | called => exact Or.inl h
  | skipped => exact Or.inl h
  | locks => exact Or.inl h
  | sendLocks => exact Or.inl h
  | submits => exact Or.inl h
  | enqueued => exact Or.inl h
  | sendReleases => exact Or.inl h
  | releases => exact Or.inl h

/-- The event loop comes to wait by a step that the condition is about. -/
theorem eventLoopWaits_of_step (hstep : WaitStep s event s') (h : s'.EventLoopWaits) :
    s.EventLoopWaits ∨ (s.Attends event → ¬ s.WorkerBlocked) := by
  have hsame {t : DaemonWaits T} {phase : PartyPhase} {party : Party T}
      (hwaits : (t.setPhase party phase).EventLoopWaits) (hnot : phase.atWorker = false) :
      t.EventLoopWaits := by
    refine hwaits.imp (fun hlock => hlock) fun hat => ?_
    rcases atWorker_of_setPhase hat with hbefore | ⟨_, hphase⟩
    · exact hbefore
    · rw [hnot] at hphase
      cases hphase
  have hjoin {lock : DaemonLock} {party : Party T} (hwaits : (s.join lock party).EventLoopWaits) :
      s.EventLoopWaits ∨ (party = .eventLoop ∧ s.queue lock ≠ []) := by
    rcases hwaits with ⟨lock', hwaits⟩ | hat
    · rcases waits_of_join hwaits with hbefore | ⟨hparty, _, hqueue⟩
      · exact Or.inl (Or.inl ⟨lock', hbefore⟩)
      · exact Or.inr ⟨hparty.symm, hqueue⟩
    · exact Or.inl (Or.inr hat)
  have hleave {lock : DaemonLock} (hwaits : (s.leave lock).EventLoopWaits) : s.EventLoopWaits :=
    hwaits.imp (fun ⟨lock', hlock⟩ => ⟨lock', waits_of_leave hlock⟩) fun hat => hat
  cases hstep with
  | emits => exact Or.inl h
  | pushed => exact Or.inl h
  | takes => exact Or.inl h
  | responds => exact Or.inl (hsame h rfl)
  | @received event events =>
    have hwaits : (s.setPhase .eventLoop (eventPhase event)).EventLoopWaits := h
    exact Or.inl (hsame hwaits (by cases event <;> rfl))
  | called => exact Or.inl (hsame h rfl)
  | skipped => exact Or.inl (hsame h rfl)
  | @locks party peerDid hphase =>
    rcases hjoin (hsame h rfl) with hbefore | ⟨rfl, hqueue⟩
    · exact Or.inl hbefore
    · exact Or.inr fun hattends => hattends peerDid hphase hqueue
  | sendLocks =>
    rcases hjoin (hsame h rfl) with hbefore | ⟨rfl, hqueue⟩
    · exact Or.inl hbefore
    · exact Or.inr fun hattends => hattends hqueue
  | submits =>
    rcases h with hlock | hat
    · exact Or.inl (Or.inl hlock)
    · rcases atWorker_of_setPhase hat with hbefore | ⟨hparty, _⟩
      · exact Or.inl (Or.inr hbefore)
      · subst hparty
        exact Or.inr fun hattends => hattends
  | @enqueued party peerDid hphase =>
    rcases h with hlock | hat
    · exact Or.inl (Or.inl hlock)
    · rcases atWorker_of_setPhase hat with hbefore | ⟨hparty, _⟩
      · exact Or.inl (Or.inr hbefore)
      · subst hparty
        exact Or.inl (Or.inr (by unfold DaemonWaits.AtWorker; rw [hphase]; rfl))
  | sendReleases => exact Or.inl (hleave (hsame h rfl))
  | releases => exact Or.inl (hleave (hsame h rfl))

/-- **Step.**  A careful step does not make both of them wait. -/
theorem DaemonWaits.Alternate.step (h : s.Alternate) (hstep : CarefulWaitStep s event s') :
    s'.Alternate := by
  intro hblocked hwaits
  rcases blocked_of_step hstep.1 hblocked with hbefore | ⟨⟨emitted, rfl⟩, hfull⟩
  · rcases eventLoopWaits_of_step hstep.1 hwaits with hwaited | hattends
    · exact h hbefore hwaited
    · exact hattends hstep.2 hbefore
  · have hwaited : s.EventLoopWaits := by
      cases hstep.1
      exact hwaits
    exact hstep.2 hfull hwaited

end

/-! ### No cycles -/

open Classical in
/-- How many waits may follow one after the other. -/
noncomputable def DaemonWaits.rank (s : DaemonWaits T) : DaemonNode T → ℕ
  | .worker => 1
  | .party party =>
      if ∃ peerDid, s.Waits party (.peerSession peerDid) then 4
      else if s.Waits party .outboundSend then 3
      else if s.AtWorker party then 2
      else 0

section

variable {s : DaemonWaits T} {party : Party T}

theorem rank_lt_four (h : ∀ peerDid, ¬ s.Waits party (.peerSession peerDid)) :
    s.rank (.party party) < 4 := by
  unfold DaemonWaits.rank
  dsimp only
  rw [if_neg fun ⟨peerDid, hwaits⟩ => h peerDid hwaits]
  split_ifs <;> omega

theorem rank_lt_three (h : ∀ lock, ¬ s.Waits party lock) : s.rank (.party party) < 3 := by
  unfold DaemonWaits.rank
  dsimp only
  rw [if_neg fun ⟨peerDid, hwaits⟩ => h (.peerSession peerDid) hwaits, if_neg (h .outboundSend)]
  split_ifs <;> omega

theorem two_le_rank (h : s.AtWorker party) : 2 ≤ s.rank (.party party) := by
  unfold DaemonWaits.rank
  dsimp only
  rw [if_pos h]
  split_ifs <;> omega

/-- The holder of a session lock waits for no session lock. -/
theorem LockOrder.not_waits_of_holds (horder : LockOrder s) {peerDid : String}
    (hholds : s.Holds party (.peerSession peerDid)) (other : String) :
    ¬ s.Waits party (.peerSession other) := by
  intro hwaits
  have hheld := (horder.peer party peerDid).mp (List.mem_of_mem_head? hholds)
  have hasked := (horder.peer party other).mp (List.mem_of_mem_tail hwaits)
  obtain rfl : peerDid = other := Option.some.inj (hheld.symm.trans hasked)
  exact horder.not_waits hholds hwaits

/-- **Each wait lowers the rank.** -/
theorem rank_lt_of_waitsFor (horder : LockOrder s) (halternate : s.Alternate)
    {node node' : DaemonNode T} (h : s.WaitsFor node node') : s.rank node' < s.rank node := by
  cases h with
  | space hblocked =>
    have hnot := halternate hblocked
    have hrank : s.rank (.party .eventLoop) = 0 := by
      unfold DaemonWaits.rank
      dsimp only
      rw [if_neg fun ⟨_, hwaits⟩ => hnot (Or.inl ⟨_, hwaits⟩),
        if_neg fun hwaits => hnot (Or.inl ⟨_, hwaits⟩), if_neg fun hat => hnot (Or.inr hat)]
    rw [hrank]
    exact Nat.one_pos
  | @lock party holder lock hwaits hholds =>
    cases lock with
    | peerSession peerDid =>
      have hrank : s.rank (.party party) = 4 := if_pos ⟨peerDid, hwaits⟩
      rw [hrank]
      exact rank_lt_four (horder.not_waits_of_holds hholds)
    | outboundSend =>
      have hrank : 3 ≤ s.rank (.party party) := by
        unfold DaemonWaits.rank
        dsimp only
        rw [if_pos hwaits]
        split_ifs <;> omega
      have hsends := (horder.outbound holder).mp (List.mem_of_mem_head? hholds)
      have hholder : s.rank (.party holder) < 3 := rank_lt_three fun lock => by
        cases lock with
        | peerSession peerDid => exact horder.not_waits_peer hsends peerDid
        | outboundSend => exact horder.not_waits hholds
      omega
  | response hat =>
    have hrank := two_le_rank hat
    exact hrank

/-- **Waits go in no circle.** -/
theorem acyclic_waitsFor (horder : LockOrder s) (halternate : s.Alternate) (node : DaemonNode T) :
    ¬ Relation.TransGen s.WaitsFor node node := by
  intro hcycle
  have hlt : ∀ node', Relation.TransGen s.WaitsFor node node' → s.rank node' < s.rank node := by
    intro node' hpath
    induction hpath with
    | single hwait => exact rank_lt_of_waitsFor horder halternate hwait
    | tail _ hwait ih => exact Nat.lt_trans (rank_lt_of_waitsFor horder halternate hwait) ih
  exact Nat.lt_irrefl _ (hlt node hcycle)

end

/-! ### Runs -/

/-- The daemon as it starts. -/
def DaemonWaits.started : DaemonWaits T where
  emitting := none
  serving := none
  commands := []
  events := []
  phases _ := .idle
  queue _ := []

theorem LockOrder.of_started : LockOrder (DaemonWaits.started : DaemonWaits T) :=
  ⟨fun _ => List.nodup_nil, fun _ _ => iff_of_false nofun nofun,
    fun _ => iff_of_false nofun nofun, fun _ _ => nofun, fun _ => nofun⟩

/-- **The daemon does not deadlock** in a run in which the worker comes to a full event channel only
while the event loop does not wait, and the event loop comes to a held lock, or calls the worker,
only while the worker does not wait for space. -/
theorem no_deadlock {t : DaemonWaits T} {events : List (WaitEvent T)}
    (h : Trace CarefulWaitStep DaemonWaits.started events t) :
    ¬ t.SendCycle ∧ ∀ node, ¬ Relation.TransGen t.WaitsFor node node := by
  have hinvariant : LockOrder t ∧ t.Alternate := by
    refine h.invariant (fun _ s => LockOrder s ∧ s.Alternate) ⟨.of_started, fun hblocked => ?_⟩
      fun _ hbefore hstep => ⟨hbefore.1.step hstep.1, hbefore.2.step hstep⟩
    exact absurd rfl hblocked.1
  refine ⟨fun ⟨hblocked, lock, _, hwaits, _⟩ => ?_, acyclic_waitsFor hinvariant.1 hinvariant.2⟩
  exact hinvariant.2 hblocked (Or.inl ⟨lock, hwaits⟩)

end

/-! ### A send to a peer that sends -/

/-- The daemon with one send, to `bob`. -/
def bobWaits (emitting : Option RelayWorkerEvent) (commands : List (Party Unit))
    (events : List RelayWorkerEvent) (task eventLoop : PartyPhase)
    (session send : List (Party Unit)) : DaemonWaits Unit where
  emitting := emitting
  serving := none
  commands := commands
  events := events
  phases
    | .task _ => task
    | .eventLoop => eventLoop
  queue
    | .peerSession peerDid => if peerDid = "bob" then session else []
    | .outboundSend => send

/-- A message from `bob`. -/
def fromBob : RelayWorkerEvent := .envelopeReceived "m1" "bob" []

section

variable {emitting : Option RelayWorkerEvent} {commands : List (Party Unit)}
  {events : List RelayWorkerEvent} {task eventLoop phase : PartyPhase}
  {session send : List (Party Unit)} {party : Party Unit}

theorem started_eq_bobWaits : DaemonWaits.started = bobWaits none [] [] .idle .idle [] [] := by
  have hphases : (fun _ : Party Unit => PartyPhase.idle) =
      (bobWaits none [] [] .idle .idle [] []).phases :=
    funext fun party => by cases party <;> rfl
  have hqueue : (fun _ : DaemonLock => ([] : List (Party Unit))) =
      (bobWaits none [] [] .idle .idle [] []).queue :=
    funext fun lock => by
      cases lock with
      | peerSession peerDid => exact (ite_self []).symm
      | outboundSend => rfl
  rw [DaemonWaits.started, hphases, hqueue]
  rfl

theorem setPhase_task_bobWaits :
    (bobWaits emitting commands events task eventLoop session send).setPhase (.task ()) phase =
      bobWaits emitting commands events phase eventLoop session send := by
  have hphases : Function.update
      (bobWaits emitting commands events task eventLoop session send).phases (.task ()) phase =
        (bobWaits emitting commands events phase eventLoop session send).phases :=
    funext fun party => by cases party <;> rfl
  rw [DaemonWaits.setPhase, hphases]
  rfl

theorem setPhase_eventLoop_bobWaits :
    (bobWaits emitting commands events task eventLoop session send).setPhase .eventLoop phase =
      bobWaits emitting commands events task phase session send := by
  have hphases : Function.update
      (bobWaits emitting commands events task eventLoop session send).phases .eventLoop phase =
        (bobWaits emitting commands events task phase session send).phases :=
    funext fun party => by cases party <;> rfl
  rw [DaemonWaits.setPhase, hphases]
  rfl

theorem join_peerSession_bobWaits :
    (bobWaits emitting commands events task eventLoop session send).join (.peerSession "bob")
      party = bobWaits emitting commands events task eventLoop (session ++ [party]) send := by
  have hqueue : Function.update
      (bobWaits emitting commands events task eventLoop session send).queue (.peerSession "bob")
        (session ++ [party]) =
        (bobWaits emitting commands events task eventLoop (session ++ [party]) send).queue := by
    funext lock
    by_cases hlock : lock = .peerSession "bob"
    · rw [hlock, Function.update_self]
      rfl
    · rw [Function.update_of_ne hlock]
      cases lock with
      | peerSession peerDid =>
        have hne : peerDid ≠ "bob" := fun hsame => hlock (congrArg _ hsame)
        exact (if_neg hne).trans (if_neg hne).symm
      | outboundSend => rfl
  unfold DaemonWaits.join
  exact congrArg (fun queue => { bobWaits emitting commands events task eventLoop session send
    with queue := queue }) hqueue

theorem join_outboundSend_bobWaits :
    (bobWaits emitting commands events task eventLoop session send).join .outboundSend party =
      bobWaits emitting commands events task eventLoop session (send ++ [party]) := by
  have hqueue : Function.update
      (bobWaits emitting commands events task eventLoop session send).queue .outboundSend
        (send ++ [party]) =
        (bobWaits emitting commands events task eventLoop session (send ++ [party])).queue :=
    funext fun lock => by cases lock <;> rfl
  unfold DaemonWaits.join
  exact congrArg (fun queue => { bobWaits emitting commands events task eventLoop session send
    with queue := queue }) hqueue

theorem called_bobWaits : WaitStep (bobWaits none [] [] .idle .idle [] []) (.called () "bob")
    (bobWaits none [] [] (.called "bob") .idle [] []) := by
  have hstep : WaitStep (bobWaits none [] [] .idle .idle [] []) (.called () "bob") _ :=
    .called rfl
  rw [setPhase_task_bobWaits] at hstep
  exact hstep

theorem locks_bobWaits : WaitStep (bobWaits none [] [] (.called "bob") .idle [] [])
    (.locks (.task ())) (bobWaits none [] [] (.locking "bob") .idle [.task ()] []) := by
  have hstep : WaitStep (bobWaits none [] [] (.called "bob") .idle [] []) (.locks (.task ())) _ :=
    .locks rfl
  rw [join_peerSession_bobWaits, setPhase_task_bobWaits] at hstep
  exact hstep

theorem sendLocks_bobWaits : WaitStep (bobWaits none [] [] (.locking "bob") .idle [.task ()] [])
    (.sendLocks (.task ()))
    (bobWaits none [] [] (.sendLocking "bob") .idle [.task ()] [.task ()]) := by
  have hstep : WaitStep (bobWaits none [] [] (.locking "bob") .idle [.task ()] [])
      (.sendLocks (.task ())) _ := .sendLocks rfl rfl
  rw [join_outboundSend_bobWaits, setPhase_task_bobWaits] at hstep
  exact hstep

theorem submits_bobWaits : WaitStep
    (bobWaits emitting commands events (.sendLocking "bob") eventLoop session [.task ()])
    (.submits (.task ()))
    (bobWaits emitting commands events (.submitting "bob") eventLoop session [.task ()]) := by
  have hstep : WaitStep
      (bobWaits emitting commands events (.sendLocking "bob") eventLoop session [.task ()])
      (.submits (.task ())) _ := .submits rfl rfl
  rw [setPhase_task_bobWaits] at hstep
  exact hstep

/-- The worker fills the event channel. -/
theorem fill_bobWaits (n : ℕ) (h : events.length + n ≤ eventCapacity) :
    ∃ labels, Trace WaitStep (bobWaits none commands events task eventLoop session send) labels
      (bobWaits none commands (events ++ List.replicate n fromBob) task eventLoop session
        send) := by
  induction n with
  | zero =>
    rw [List.replicate_zero, List.append_nil]
    exact ⟨_, .nil⟩
  | succ n ih =>
    obtain ⟨labels, htrace⟩ := ih (by omega)
    have hspace : (events ++ List.replicate n fromBob).length < eventCapacity := by
      rw [List.length_append, List.length_replicate]
      omega
    rw [List.replicate_succ', ← List.append_assoc]
    exact ⟨_, (htrace.snoc (.emits rfl)).snoc (.pushed rfl hspace)⟩

end

theorem no_deadlock_sample : ∃ t : DaemonWaits Unit,
    Trace CarefulWaitStep DaemonWaits.started
      [.called () "bob", .locks (.task ()), .sendLocks (.task ()), .submits (.task ()),
        .enqueued (.task ())] t ∧
    t.AtWorker (.task ()) ∧
    ¬ t.SendCycle ∧ ∀ node, ¬ Relation.TransGen t.WaitsFor node node := by
  have hcalled : CarefulWaitStep _ _ _ := ⟨called_bobWaits, trivial⟩
  have hlocks : CarefulWaitStep _ _ _ := ⟨locks_bobWaits, trivial⟩
  have hsendLocks : CarefulWaitStep _ _ _ := ⟨sendLocks_bobWaits, trivial⟩
  have hsubmits : CarefulWaitStep
      (bobWaits none [] [] (.sendLocking "bob") .idle [.task ()] [.task ()]) (.submits (.task ()))
      (bobWaits none [] [] (.submitting "bob") .idle [.task ()] [.task ()]) :=
    ⟨submits_bobWaits, trivial⟩
  have henqueued : CarefulWaitStep
      (bobWaits none [] [] (.submitting "bob") .idle [.task ()] [.task ()])
      (.enqueued (.task ())) _ := ⟨.enqueued rfl (by decide), trivial⟩
  have htrace := ((((Trace.single hcalled).snoc hlocks).snoc hsendLocks).snoc hsubmits).snoc
    henqueued
  rw [← started_eq_bobWaits] at htrace
  exact ⟨_, htrace, rfl, no_deadlock htrace⟩

/-- **A send to a peer that sends stops the daemon.**  The event loop waits for the session lock
that the send holds; the worker fills the channel with the events of 128 messages and waits for
space with that of the next; and the send passes its command to the worker. -/
theorem send_cycle : ∃ (labels : List (WaitEvent Unit)) (t : DaemonWaits Unit),
    Trace WaitStep DaemonWaits.started labels t ∧ t.SendCycle := by
  have hreceived : WaitStep
      (bobWaits none [] [fromBob] (.sendLocking "bob") .idle [.task ()] [.task ()]) .received
      (bobWaits none [] [] (.sendLocking "bob") (.called "bob") [.task ()] [.task ()]) := by
    have hstep : WaitStep
        (bobWaits none [] [fromBob] (.sendLocking "bob") .idle [.task ()] [.task ()]) .received
        _ := .received rfl rfl
    rw [setPhase_eventLoop_bobWaits] at hstep
    exact hstep
  have hlocks : WaitStep
      (bobWaits none [] [] (.sendLocking "bob") (.called "bob") [.task ()] [.task ()])
      (.locks .eventLoop)
      (bobWaits none [] [] (.sendLocking "bob") (.locking "bob") [.task (), .eventLoop]
        [.task ()]) := by
    have hstep : WaitStep
        (bobWaits none [] [] (.sendLocking "bob") (.called "bob") [.task ()] [.task ()])
        (.locks .eventLoop) _ := .locks rfl
    rw [join_peerSession_bobWaits, setPhase_eventLoop_bobWaits] at hstep
    exact hstep
  have hemits : WaitStep
      (bobWaits none [] ([] ++ List.replicate 128 fromBob) (.sendLocking "bob") (.locking "bob")
        [.task (), .eventLoop] [.task ()]) (.emits fromBob)
      (bobWaits (some fromBob) [] ([] ++ List.replicate 128 fromBob) (.sendLocking "bob")
        (.locking "bob") [.task (), .eventLoop] [.task ()]) := .emits rfl
  have hfill : ∃ labels, Trace WaitStep
      (bobWaits none [] [] (.sendLocking "bob") (.locking "bob") [.task (), .eventLoop]
        [.task ()]) labels
      (bobWaits none [] ([] ++ List.replicate 128 fromBob) (.sendLocking "bob") (.locking "bob")
        [.task (), .eventLoop] [.task ()]) := fill_bobWaits 128 (by decide)
  obtain ⟨labels, hfill⟩ := hfill
  have hbefore := (((((((Trace.single called_bobWaits).snoc locks_bobWaits).snoc
    sendLocks_bobWaits).snoc (.emits rfl)).snoc (.pushed rfl (by decide))).snoc hreceived).snoc
      hlocks)
  have htrace := ((hbefore.append hfill).snoc hemits).snoc submits_bobWaits
  rw [← started_eq_bobWaits] at htrace
  refine ⟨_, _, htrace, ⟨nofun, ?_⟩, .peerSession "bob", .task (), ?_, rfl, rfl⟩
  · show eventCapacity ≤ ([] ++ List.replicate 128 fromBob).length
    rw [List.nil_append, List.length_replicate]
    exact Nat.le_refl _
  · exact List.mem_cons_self

end QuadraA.CliRs
