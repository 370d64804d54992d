import QuadraA.Relay.AcceptedMessages

/-!
# Acknowledged messages

`markAcked` deletes the record of a message.  Another handler may have read the record before, and
then writes it back; a retry pass or a HELLO flush may have the message on its list, and then sends
it once more.

* `acked_gone` — an acknowledged message is gone for good, in every run in which no task has a copy
  of a message that is deleted by its acknowledgement;
* `acked_message_back` — a `markInflight` writes an acknowledged message back.
-/

set_option linter.unusedSectionVars false

namespace QuadraA.Relay

open QuadraA.Lib

section

variable {W T : Type} [DecidableEq W] [DecidableEq T]

/-- **A task has a copy of a message** that it may still send or write back.  The copy of a
`markAcked` is only used for the report. -/
def RelayTask.Copies (key : String) : RelayTask W → Prop
  | .acking _ _ _ => False
  | .acked _ => False
  | phase => ∃ message ∈ phase.messages, message.key = key

def RelayState.Copied (s : RelayState W T) (key : String) : Prop :=
  ∃ task phase, s.tasks task = some phase ∧ phase.Copies key

/-- **The condition of a step.**  No message id is drawn twice, and no task has a copy of a message
whose record `markAcked` deletes. -/
def CarefulAckStep (config : MessageQueueConfig) (relayDid : String) (s : RelayState W T)
    (event : RelayEvent W T) (s' : RelayState W T) : Prop :=
  DistinctStep config relayDid s event s' ∧
    ∀ task messageId did copy, event = .ackDeleted task →
      s.tasks task = some (.acking messageId did (some copy)) →
        ¬s.Copied (queueKey did messageId)

/-- **A message is gone**: it is not in the queue, and no task can bring it back. -/
structure RelayState.Gone (s : RelayState W T) (key : String) : Prop where
  record : s.db.get? key = none
  copies : ¬s.Copied key
  drawn : ∃ did, ∃ messageId ∈ s.drawn, key = queueKey did messageId

variable {config : MessageQueueConfig} {relayDid : String}
variable {s s' start : RelayState W T} {event : RelayEvent W T} {events : List (RelayEvent W T)}
  {task : T} {phase : Option (RelayTask W)} {key : String} {message : QueuedMessage}

/-! ### A message that is gone -/

theorem RelayState.not_copied_setTask (h : ¬s.Copied key)
    (hphase : ∀ phase', phase = some phase' → ¬phase'.Copies key) :
    ¬(s.setTask task phase).Copied key := by
  rintro ⟨task', phase', htask, hcopies⟩
  rcases tasks_setTask htask with ⟨_, hphase'⟩ | ⟨_, hother⟩
  · exact hphase phase' hphase' hcopies
  · exact h ⟨task', phase', hother, hcopies⟩

theorem copies_iff {phase : RelayTask W} (h : phase.acks = false) :
    phase.Copies key ↔ ∃ message ∈ phase.messages, message.key = key := by
  cases phase with
  | acking | acked => cases h
  | _ => exact Iff.rfl

theorem acks_of_copies {phase : RelayTask W} (h : phase.Copies key) : phase.acks = false := by
  cases phase with
  | acking | acked => exact h.elim
  | _ => rfl

/-- **A message that is sent** is one of a task that may send it. -/
theorem sends_of_step (hstep : RelayStep config relayDid s event s') {ws : W}
    (hsends : event.sends = some (ws, key)) : s.Copied key := by
  cases hstep with
  | acceptedOpen htask | retryDelivered htask =>
    cases hsends
    exact ⟨_, _, htask, _, List.mem_cons_self, rfl⟩
  | @flushDelivered task ws' did message messages htask =>
    refine ⟨_, _, htask, message, List.mem_cons_self, ?_⟩
    cases hopen : decide (s.conn.readyState ws' = .OPEN) with
    | true =>
      rw [hopen] at hsends
      exact (Prod.mk.inj (Option.some.inj hsends)).2
    | false =>
      rw [hopen] at hsends
      cases hsends
  | _ => cases hsends

/-- **What is gone stays away**, and is not sent again. -/
theorem RelayState.Gone.step (h : s.Gone key) (hkeyed : s.Keyed)
    (hstep : DistinctStep config relayDid s event s') :
    s'.Gone key ∧ ∀ ws, event.sends ≠ some (ws, key) := by
  obtain ⟨hstep, hdistinct⟩ := hstep
  obtain ⟨did₀, messageId₀, hdrawn₀, hkey₀⟩ := h.drawn
  -- no task has a copy
  have hhas {task : T} {phase : RelayTask W} {message : QueuedMessage}
      (htask : s.tasks task = some phase) (hacks : phase.acks = false)
      (hmem : message ∈ phase.messages) : message.key ≠ key := fun hsame =>
    h.copies ⟨task, phase, htask, (copies_iff hacks).mpr ⟨message, hmem, hsame⟩⟩
  refine ⟨⟨?_, ?_, did₀, messageId₀, drawn_of_step hstep hdrawn₀, hkey₀⟩,
    fun ws hsends => h.copies (sends_of_step hstep hsends)⟩
  · refine Option.eq_none_iff_forall_ne_some.mpr fun record hget => ?_
    rcases copy_of_step hstep hget with
      hold | ⟨task, phase, copy, _, htask, hacks, hmem, hkey, _⟩
    · rw [h.record] at hold
      cases hold
    · exact hhas htask hacks hmem (hkey.elim id ((hkeyed.tasks task phase htask).update _ _)).symm
  · rintro ⟨task, phase, htask, hcopies⟩
    have hacks := acks_of_copies hcopies
    obtain ⟨message, hmem, hsame⟩ := (copies_iff hacks).mp hcopies
    rcases (inherits_of_step hstep htask).messages message hmem with ⟨phase', hbefore, heq, hold⟩ |
      ⟨key', record, hget, hread⟩ | ⟨send, messageId, now, rfl, _, rfl⟩
    · exact hhas hbefore (heq.trans hacks) hold hsame
    · rw [(hkeyed.read hget hread).1, hsame, h.record] at hget
      cases hget
    · cases hstep with
      | handled _ _ _ hrandom =>
        have hid := (queueKey_inj hrandom (hkeyed.drawn _ hdrawn₀) (hsame.trans hkey₀)).2
        exact hdistinct task messageId now rfl (hid ▸ hdrawn₀)

/-! ### Acknowledgements -/

/-- A `markAcked` returns the message that it has deleted. -/
theorem acked_of_step (hstep : RelayStep config relayDid s event s')
    (htask : s'.tasks task = some (.acked message)) :
    s.tasks task = some (.acked message) ∨
      ∃ messageId did, event = .ackDeleted task ∧
        s.tasks task = some (.acking messageId did (some message)) ∧
        s' = { s with db := s.db.erase (queueKey did messageId) }.setTask task
          (some (.acked message)) := by
  rcases phase_of_step hstep htask with hold | rfl
  · exact Or.inl hold
  · cases hstep with
    | ackDeleted hacking =>
      rw [setTask_self] at htask
      cases htask
      exact Or.inr ⟨_, _, rfl, hacking, rfl⟩

/-- **The deletion.**  Where no task has a copy, the deleted message is gone. -/
theorem RelayState.Gone.of_deleted (hkeyed : s.Keyed) {messageId did : String}
    (htask : s.tasks task = some (.acking messageId did (some message)))
    (hcopies : ¬s.Copied (queueKey did messageId)) :
    RelayState.Gone ({ s with db := s.db.erase (queueKey did messageId) }.setTask task
      (some (.acked message))) message.key := by
  have hkey : queueKey did messageId = message.key :=
    (hkeyed.tasks task _ htask).update _ message rfl
  refine ⟨?_, ?_, message.toDid, message.messageId, ?_, rfl⟩
  · show (s.db.erase _).get? message.key = none
    rw [hkey, Record.get?_erase, if_pos rfl]
  · refine RelayState.not_copied_setTask (hkey ▸ hcopies) fun _ hphase hcopy => ?_
    obtain rfl := Option.some.inj hphase
    exact hcopy
  · exact (hkeyed.tasks task _ htask).messages message List.mem_cons_self

/-- What every `markAcked` has returned is gone. -/
def RelayState.AckedGone (s : RelayState W T) : Prop :=
  ∀ task message, s.tasks task = some (.acked message) → s.Gone message.key

theorem RelayState.AckedGone.step (h : s.AckedGone) (hkeyed : s.Keyed)
    (hstep : CarefulAckStep config relayDid s event s') : s'.AckedGone := by
  obtain ⟨hstep, hcareful⟩ := hstep
  intro task message htask
  rcases acked_of_step hstep.1 htask with hbefore | ⟨messageId, did, hevent, hacking, rfl⟩
  · exact ((h task message hbefore).step hkeyed hstep).1
  · exact .of_deleted hkeyed hacking (hcareful task messageId did message hevent hacking)

theorem ackedGone_run (hstart : start.Starting)
    (hrun : Trace (CarefulAckStep config relayDid) start events s) : s.Keyed ∧ s.AckedGone := by
  induction hrun with
  | nil =>
    refine ⟨.of_starting hstart, fun task message htask => ?_⟩
    rw [hstart.tasks] at htask
    cases htask
  | snoc _ hlast ih => exact ⟨ih.1.step hlast.1.1, ih.2.step ih.1 hlast⟩

/-- A message that is gone is gone in every later state, and no later event sends it. -/
theorem RelayState.Gone.run (h : start.Gone key) (hkeyed : start.Keyed)
    (hrun : Trace (CarefulAckStep config relayDid) start events s) :
    s.Keyed ∧ s.Gone key ∧ ∀ event ∈ events, ∀ ws, event.sends ≠ some (ws, key) := by
  induction hrun with
  | nil => exact ⟨hkeyed, h, nofun⟩
  | snoc _ hlast ih =>
    obtain ⟨hkeyed', hgone, hsends⟩ := ih
    obtain ⟨hnext, hlastSends⟩ := hgone.step hkeyed' hlast.1
    refine ⟨hkeyed'.step hlast.1.1, hnext, fun event hmem => ?_⟩
    rcases List.mem_append.mp hmem with hbefore | hnew
    · exact hsends event hbefore
    · obtain rfl := List.mem_singleton.mp hnew
      exact hlastSends

/-- **An acknowledged message is gone.**  Where no task has a copy of a message whose record
`markAcked` deletes, a message that a `markAcked` has returned is not in the queue in any later
state, and no later DELIVER has it. -/
theorem acked_gone (hstart : start.Starting) {before after : List (RelayEvent W T)}
    {reported : Bool}
    (hrun : Trace (CarefulAckStep config relayDid) start
      (before ++ .ackReturned task message reported :: after) s) :
    s.db.get? message.key = none ∧
      ∀ event ∈ after, ∀ ws, event.sends ≠ some (ws, message.key) := by
  obtain ⟨acked, hbefore, hrest⟩ := hrun.of_append
  have hcut : Trace (CarefulAckStep config relayDid) acked
      ([.ackReturned task message reported] ++ after) s := hrest
  obtain ⟨returned, hreturned, hafter⟩ := hcut.of_append
  obtain ⟨hkeyed, hacked⟩ := ackedGone_run hstart hbefore
  have hstep := hreturned.of_singleton
  have hgone : acked.Gone message.key := by
    cases hstep.1.1 with
    | ackReturned htask => exact hacked task message htask
  obtain ⟨_, hend, hsends⟩ :=
    (hgone.step hkeyed hstep.1).1.run (hkeyed.step hstep.1.1) hafter
  exact ⟨hend.record, hsends⟩

end

/-! ### Runs of one relay -/

/-- A relay that has started with one message in its queue. -/
def bobWaits : RelayState Bool Bool where
  conn := idleRelay
  db := Record.single bobMessage.key bobMessage.stored
  tasks _ := none
  drawn := ["m1"]

theorem bobWaits_starting : bobWaits.Starting := by
  refine ⟨idleRelay_starting, fun _ => rfl, fun key record hrecord => ?_,
    fun messageId hdrawn => ?_⟩
  swap
  · obtain rfl := List.mem_singleton.mp hdrawn
    decide
  rw [bobWaits, Record.get?_single] at hrecord
  split at hrecord
  · rename_i hkey
    obtain rfl := Option.some.inj hrecord
    exact ⟨hkey.symm, List.mem_singleton.mpr rfl⟩
  · cases hrecord

/-- Bob connects, and the flush sends him the message. -/
theorem bob_connected :
    ∃ events, ∃ s : RelayState Bool Bool,
      Trace (CarefulAckStep DEFAULT_CONFIG "did:agent:zRelay") bobWaits events s ∧
        s.db = Record.single bobMessage.key (inflightMessage bobMessage 30).stored ∧
        (∀ task, s.tasks task = none) ∧
        (s.conn.connections true).did = some "did:agent:zBob" ∧
        s.openSocket "did:agent:zBob" = some true := by
  have hrun : Trace (CarefulAckStep DEFAULT_CONFIG "did:agent:zRelay") bobWaits [] bobWaits := .nil
  have hreceived := hrun.snoc ⟨⟨.connection
    (@ConnectionStep.helloReceived _ _ _ true "did:agent:zBob" rfl) rfl, nofun⟩, nofun⟩
  have hregistered := hreceived.snoc ⟨⟨@RelayStep.registered _ _ _ _ _ _ _ false true _ _ _ _ rfl
    rfl (@ConnectionStep.registered _ _ _ true _ "public" 10 rfl (by decide)), nofun⟩, nofun⟩
  have hdelivered := hregistered.snoc ⟨⟨@RelayStep.flushDelivered _ _ _ _ _ _ _ false true
    "did:agent:zBob" bobMessage [] (by rfl), nofun⟩, nofun⟩
  have hread := hdelivered.snoc ⟨⟨@RelayStep.markRead _ _ _ _ _ _ _ false _ _ _ _ bobMessage
    (by rfl) (by rfl) (by rfl), nofun⟩, nofun⟩
  have hwritten := hread.snoc ⟨⟨@RelayStep.markWritten _ _ _ _ _ _ _ false _ _ _ _ 30 (by rfl),
    nofun⟩, nofun⟩
  have hended := hwritten.snoc ⟨⟨@RelayStep.helloEnded _ _ _ _ _ _ _ false true _ _ (by rfl)
    (@ConnectionStep.helloEnded _ _ _ true _ (by rfl)), nofun⟩, nofun⟩
  exact ⟨_, _, hended, by rfl, fun task => by cases task <;> rfl, by rfl, by rfl⟩

/-- Bob's acknowledgement deletes the message, and it is gone. -/
theorem acked_gone_sample :
    ∃ events reported, ∃ s : RelayState Bool Bool,
      Trace (CarefulAckStep DEFAULT_CONFIG "did:agent:zRelay") bobWaits
        (events ++ [.ackReturned false (inflightMessage bobMessage 30) reported]) s ∧
      s.db.get? bobMessage.key = none := by
  obtain ⟨events, s, hrun, hdb, htasks, hdid, _⟩ := bob_connected
  have hreceived := hrun.snoc ⟨⟨@RelayStep.ackReceived _ _ _ _ _ _ _ false true _ "m1"
    (htasks false) hdid, nofun⟩, nofun⟩
  have hread := hreceived.snoc ⟨⟨@RelayStep.ackRead _ _ _ _ _ _ _ false "m1" "did:agent:zBob" _
    (inflightMessage bobMessage 30) rfl (hdb ▸ Record.get?_single _ _ _) (by rfl), nofun⟩, nofun⟩
  have hdeleted := hread.snoc ⟨⟨@RelayStep.ackDeleted _ _ _ _ _ _ _ false "m1" "did:agent:zBob"
    (inflightMessage bobMessage 30) rfl, nofun⟩, by
      rintro task messageId did copy _ _ ⟨task', phase, htask, hcopies⟩
      rcases tasks_setTask htask with ⟨_, hphase⟩ | ⟨_, hother⟩
      · obtain rfl := Option.some.inj hphase
        exact hcopies
      · rcases tasks_setTask hother with ⟨_, hphase⟩ | ⟨_, hother⟩
        · obtain rfl := Option.some.inj hphase
          exact hcopies
        · rw [htasks] at hother
          cases hother⟩
  have hreturned := hdeleted.snoc ⟨⟨@RelayStep.ackReturned _ _ _ _ _ _ _ false
    (inflightMessage bobMessage 30) rfl, nofun⟩, nofun⟩
  exact ⟨_, _, _, hreturned, (acked_gone bobWaits_starting hreturned).1⟩

/-- **A message comes back.**  A retry pass sends the message once more; Bob acknowledges it between
the two halves of `markInflight`, and the second half writes it back. -/
theorem acked_message_back :
    ∃ before task reported after, ∃ s : RelayState Bool Bool,
      Trace (DistinctStep DEFAULT_CONFIG "did:agent:zRelay") bobWaits
        (before ++ .ackReturned task (inflightMessage bobMessage 30) reported :: after) s ∧
      s.db.get? bobMessage.key ≠ none := by
  obtain ⟨events, s, hrun, hdb, htasks, hdid, hopen⟩ := bob_connected
  have hconnected : Trace (DistinctStep DEFAULT_CONFIG "did:agent:zRelay") bobWaits events s :=
    hrun.mono fun hstep => hstep.1
  have hretry :
      getMessagesForRetry DEFAULT_CONFIG 70000 s.db = [inflightMessage bobMessage 30] := by
    rw [hdb]
    rfl
  have hstarted := hconnected.snoc ⟨@RelayStep.retryStarted _ _ _ _ _ _ _ true 70000
    (htasks true), nofun⟩
  rw [hretry] at hstarted
  have hdelivered := hstarted.snoc ⟨@RelayStep.retryDelivered _ _ _ _ _ _ _ true
    (inflightMessage bobMessage 30) [] _ rfl hopen, nofun⟩
  have hmarking := hdelivered.snoc ⟨@RelayStep.markRead _ _ _ _ _ _ _ true "m1" "did:agent:zBob"
    _ _ (inflightMessage bobMessage 30) rfl (hdb ▸ Record.get?_single _ _ _) (by rfl), nofun⟩
  have hreceived := hmarking.snoc ⟨@RelayStep.ackReceived _ _ _ _ _ _ _ false true _ "m1"
    (htasks false) hdid, nofun⟩
  have hread := hreceived.snoc ⟨@RelayStep.ackRead _ _ _ _ _ _ _ false "m1" "did:agent:zBob" _
    (inflightMessage bobMessage 30) rfl (hdb ▸ Record.get?_single _ _ _) (by rfl), nofun⟩
  have hdeleted := hread.snoc ⟨@RelayStep.ackDeleted _ _ _ _ _ _ _ false "m1" "did:agent:zBob"
    (inflightMessage bobMessage 30) rfl, nofun⟩
  have hreturned := hdeleted.snoc ⟨@RelayStep.ackReturned _ _ _ _ _ _ _ false
    (inflightMessage bobMessage 30) rfl, nofun⟩
  have hback := hreturned.snoc ⟨@RelayStep.markWritten _ _ _ _ _ _ _ true "m1" "did:agent:zBob"
    (inflightMessage bobMessage 30) _ 70010 rfl, nofun⟩
  rw [List.append_assoc] at hback
  refine ⟨_, _, _, _, _, hback, ?_⟩
  show Record.get? (Record.set _ bobMessage.key _) _ ≠ none
  rw [Record.get?_set_self]
  nofun

end QuadraA.Relay
