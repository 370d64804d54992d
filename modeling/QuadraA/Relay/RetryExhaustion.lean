import QuadraA.Relay.AckedMessages

/-!
# Exhausted retries

`retryUnackedMessages` marks a message expired and reports it where the recipient is not connected
and the message has had its attempts.  `getMessagesForRetry` only selects a message that has not
had them, so that branch is not reached with a message whose attempts are used up.

* `exhausted_unreported` — the pass over a message without attempts left;
* `exhausted_message_left` — such a pass, with the message inflight before and after.
-/

set_option linter.unusedSectionVars false

namespace QuadraA.Relay

open QuadraA.Lib

section

variable {W T : Type} [DecidableEq W] [DecidableEq T]

/-- A retry pass, with the message neither in hand nor on its list. -/
def RelayTask.OnPass (key : String) : RelayTask W → Prop
  | .retrying messages => ∀ message ∈ messages, message.key ≠ key
  | .marking _ _ _ (.retry messages) => ∀ message ∈ messages, message.key ≠ key
  | .expiring message _ messages => ∀ message' ∈ message :: messages, message'.key ≠ key
  | .expired message messages => ∀ message' ∈ message :: messages, message'.key ≠ key
  | _ => False

variable {config : MessageQueueConfig} {relayDid : String}
variable {s s' start : RelayState W T} {event : RelayEvent W T} {events : List (RelayEvent W T)}
  {task : T} {phase : RelayTask W} {key : String} {message : QueuedMessage}

/-- The event expires the message in this pass, or reports that it did. -/
def RelayEvent.Exhausts (task : T) (key : String) : RelayEvent W T → Prop
  | .expireWritten task' message => task' = task ∧ message.key = key
  | .expireReported task' message _ => task' = task ∧ message.key = key
  | _ => False

theorem task_of_exhausts (h : event.Exhausts task key) : event.task = some task := by
  cases event with
  | expireWritten task' message => exact congrArg some h.1
  | expireReported task' message reported => exact congrArg some h.1
  | _ => exact h.elim

/-- **A pass without a message** stays one until it ends, and does not expire the message. -/
theorem RelayTask.OnPass.step (h : phase.OnPass key) (htask : s.tasks task = some phase)
    (hstep : RelayStep config relayDid s event s') (hend : event ≠ .retryEnded task) :
    (∃ phase', s'.tasks task = some phase' ∧ phase'.OnPass key) ∧ ¬event.Exhausts task key := by
  by_cases hmine : event.task = some task
  swap
  · exact ⟨⟨phase, (tasks_of_step hstep hmine).trans htask, h⟩,
      fun hexhausts => hmine (task_of_exhausts hexhausts)⟩
  -- the phase is that of a pass
  have hpass {phase' : RelayTask W} (hphase : s.tasks task = some phase') : phase'.OnPass key :=
    Option.some.inj (htask.symm.trans hphase) ▸ h
  have hgo {db : MessageDb} {phase' : RelayTask W} (hphase : phase'.OnPass key) :
      ∃ phase'', ({ s with db := db }.setTask task (some phase')).tasks task = some phase'' ∧
        phase''.OnPass key :=
    ⟨phase', Function.update_self .., hphase⟩
  cases hstep with
  | connection => cases hmine
  | sendReceived hnone | retryStarted hnone | ackReceived hnone | cleanupStarted hnone
  | registered hnone =>
    cases hmine
    rw [htask] at hnone
    cases hnone
  | @markRead _ _ _ rest _ _ hphase | @markFailed _ _ _ _ rest hphase
  | @markWritten _ _ _ _ rest _ hphase =>
    cases hmine
    cases rest with
    | retry messages =>
      have hall := hpass hphase
      exact ⟨hgo hall, nofun⟩
    | _ => exact (hpass hphase).elim
  | retryDelivered hphase | retrySkipped hphase =>
    cases hmine
    exact ⟨hgo fun _ hmem => hpass hphase _ (List.mem_cons_of_mem _ hmem), nofun⟩
  | retryExpiring hphase | expireRead hphase | expireFailed hphase =>
    cases hmine
    exact ⟨hgo fun _ hmem => hpass hphase _ hmem, nofun⟩
  | retryEnded =>
    cases hmine
    exact absurd rfl hend
  | expireWritten hphase =>
    cases hmine
    exact ⟨hgo fun _ hmem => hpass hphase _ hmem,
      fun hexhausts => hpass hphase _ List.mem_cons_self hexhausts.2⟩
  | expireReported hphase =>
    cases hmine
    exact ⟨hgo fun _ hmem => hpass hphase _ (List.mem_cons_of_mem _ hmem),
      fun hexhausts => hpass hphase _ List.mem_cons_self hexhausts.2⟩
  | refused hphase | federated hphase | handled hphase | queueFull hphase | stored hphase
  | acceptedOffline hphase | acceptedClosed hphase | acceptedOpen hphase | ackRead hphase
  | ackFailed hphase | ackDeleted hphase | ackReturned hphase | cleaned hphase
  | cleanupEnded hphase | flushDelivered hphase | helloEnded hphase | helloFailed hphase =>
    cases hmine
    exact (hpass hphase).elim

theorem RelayTask.OnPass.run (h : phase.OnPass key) (htask : start.tasks task = some phase)
    (hrun : Trace (RelayStep config relayDid) start events s)
    (hend : ∀ event ∈ events, event ≠ .retryEnded task) :
    (∃ phase', s.tasks task = some phase' ∧ phase'.OnPass key) ∧
      ∀ event ∈ events, ¬event.Exhausts task key := by
  induction hrun with
  | nil => exact ⟨⟨phase, htask, h⟩, nofun⟩
  | snoc _ hlast ih =>
    obtain ⟨⟨phase', htask', hphase'⟩, hbefore⟩ :=
      ih fun event hmem => hend event (List.mem_append_left _ hmem)
    obtain ⟨hnext, hlastNot⟩ := hphase'.step htask' hlast
      (hend _ (List.mem_append_right _ List.mem_cons_self))
    refine ⟨hnext, fun event hmem => ?_⟩
    rcases List.mem_append.mp hmem with hold | hnew
    · exact hbefore event hold
    · obtain rfl := List.mem_singleton.mp hnew
      exact hlastNot

/-- A message without attempts left is not on the list of a pass. -/
theorem onPass_of_exhausted (hkeyed : s.Keyed) {record : StoredQueuedMessage}
    (hrecord : s.db.get? key = some record)
    (hattempts : config.maxRetries ≤ record.deliveryAttempts) (now : ℕ) :
    (RelayTask.retrying (W := W) (getMessagesForRetry config now s.db)).OnPass key := by
  intro message hmem hkey
  obtain ⟨key', record', hget, hneeds, hmessage⟩ := mem_getMessagesForRetry.mp hmem
  have hsame := (hkeyed.read hget hmessage).1
  rw [hsame, hkey, hrecord] at hget
  obtain rfl := Option.some.inj hget
  have hleft := hneeds.2.2
  omega

/-- **An exhausted message is not reported.**  In every run, a retry pass that begins when a message
has had `maxRetries` delivery attempts neither marks it expired nor reports it. -/
theorem exhausted_unreported (hstart : start.Starting)
    (hrun : Trace (RelayStep config relayDid) start events s) {record : StoredQueuedMessage}
    (hrecord : s.db.get? key = some record)
    (hattempts : config.maxRetries ≤ record.deliveryAttempts) {now : ℕ}
    {pass : List (RelayEvent W T)}
    (hpass : Trace (RelayStep config relayDid) s (.retryStarted task now :: pass) s')
    (hend : ∀ event ∈ pass, event ≠ .retryEnded task) :
    ∀ event ∈ pass, ∀ message, message.key = key →
      event ≠ .expireWritten task message ∧
        ∀ reported, event ≠ .expireReported task message reported := by
  have hcut : Trace (RelayStep config relayDid) s ([.retryStarted task now] ++ pass) s' := hpass
  obtain ⟨begun, hbegun, hafter⟩ := hcut.of_append
  have hkeyed := RelayState.Keyed.run hstart hrun
  have htask : begun.tasks task = some (.retrying (getMessagesForRetry config now s.db)) := by
    cases hbegun.of_singleton with
    | retryStarted _ => exact Function.update_self ..
  have hnone := ((onPass_of_exhausted hkeyed hrecord hattempts now).run htask hafter hend).2
  intro event hmem message hkey
  refine ⟨?_, fun reported => ?_⟩
  · rintro rfl
    exact hnone _ hmem ⟨rfl, hkey⟩
  · rintro rfl
    exact hnone _ hmem ⟨rfl, hkey⟩

end

/-! ### A pass of one relay -/

/-- The message to Bob after its third delivery attempt. -/
def exhaustedMessage : QueuedMessage :=
  { bobMessage with status := .inflight, deliveryAttempts := 3, lastAttemptAt := some 30 }

/-- A relay that has started with the message in its queue; Bob is not connected. -/
def bobExhausted : RelayState Bool Unit where
  conn := idleRelay
  db := Record.single exhaustedMessage.key exhaustedMessage.stored
  tasks _ := none
  drawn := ["m1"]

theorem bobExhausted_starting : bobExhausted.Starting := by
  refine ⟨idleRelay_starting, fun _ => rfl, fun key record hrecord => ?_,
    fun messageId hdrawn => ?_⟩
  swap
  · obtain rfl := List.mem_singleton.mp hdrawn
    decide
  rw [bobExhausted, Record.get?_single] at hrecord
  split at hrecord
  · rename_i hkey
    obtain rfl := Option.some.inj hrecord
    exact ⟨hkey.symm, List.mem_singleton.mpr rfl⟩
  · cases hrecord

/-- Alice connects during the pass, and is not sent a report. -/
theorem exhausted_unreported_sample :
    ∃ s, Trace (RelayStep DEFAULT_CONFIG "did:agent:zRelay") bobExhausted
        [.retryStarted () 70000, .connection (.helloReceived true "did:agent:zAlice")] s ∧
      ∀ message, message.key = exhaustedMessage.key → ∀ reported,
        RelayEvent.connection (.helloReceived true "did:agent:zAlice")
          ≠ .expireReported () message reported := by
  have hrun : Trace (RelayStep DEFAULT_CONFIG "did:agent:zRelay") bobExhausted [] bobExhausted :=
    .nil
  have hstarted := hrun.snoc (@RelayStep.retryStarted _ _ _ _ _ _ _ () 70000 rfl)
  have hconnects := hstarted.snoc (.connection
    (@ConnectionStep.helloReceived _ _ _ true "did:agent:zAlice" rfl) rfl)
  have hrecord :
      bobExhausted.db.get? exhaustedMessage.key = some exhaustedMessage.stored := rfl
  have hnone := exhausted_unreported bobExhausted_starting hrun hrecord le_rfl hconnects (by simp)
  exact ⟨_, hconnects, fun message hkey =>
    (hnone _ List.mem_cons_self message hkey).2⟩

/-- **A message that is left inflight.**  It has had its three attempts, the last one more than a
minute ago, and Bob is not connected; the whole pass does not mark it expired. -/
theorem exhausted_message_left :
    ∃ s, Trace (RelayStep DEFAULT_CONFIG "did:agent:zRelay") bobExhausted
        [.retryStarted () 70000, .retryEnded ()] s ∧
      bobExhausted.Starting ∧ bobExhausted.openSocket "did:agent:zBob" = none ∧
      exhaustedMessage.deliveryAttempts = DEFAULT_CONFIG.maxRetries ∧
      s.db.get? exhaustedMessage.key = some exhaustedMessage.stored := by
  have hrun : Trace (RelayStep DEFAULT_CONFIG "did:agent:zRelay") bobExhausted [] bobExhausted :=
    .nil
  have hstarted := hrun.snoc (@RelayStep.retryStarted _ _ _ _ _ _ _ () 70000 rfl)
  have hended := hstarted.snoc (@RelayStep.retryEnded _ _ _ _ _ _ _ () (by rfl))
  exact ⟨_, hended, bobExhausted_starting, rfl, rfl, rfl⟩

end QuadraA.Relay
