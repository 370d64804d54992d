import QuadraA.E2E.Types
import Mathlib.Order.Lattice

/-!
# Peer recovery of the JS daemon

The recovery part of `daemon-server.ts`: a session that no longer decrypts is replaced by agreeing
on a reset epoch.  `beginLocalPeerRecovery` starts a recovery, `handleRemotePeerRecovery` answers
the peer's `e2e/session-reset`, and a recovery ends when its acknowledgement arrives or, on the
answering side, when the answer has been sent.

* `RecoveryDaemon` — the four maps of the daemon that recovery works on, with the stored
  configuration;
* `handleRemotePeerRecovery_cases` — what the answer to a reset can be.

Epochs and timestamps are numbers of any linearly ordered type.  `Date.now()` is read once for each
event; a transaction or a send may fail, and which ones do is part of the event.
-/

namespace QuadraA.Runtime

open QuadraA.Lib QuadraA.E2E

/-! ### State -/

structure PeerRecoveryState (N : Type) where
  epoch : N
  startedAt : N
  reason : String
  awaitingAck : Bool
deriving DecidableEq, Repr

structure PendingReplayRequest (N : Type) where
  lookupMessageId : String
  reason : String
  requestedAt : N
deriving DecidableEq, Repr

structure PendingDecryptFailure (N : Type) where
  transportMessageId : String
  reason : String
  requestedAt : N
  threadId : Option String
deriving DecidableEq, Repr

/-- How many requests a recovery has cancelled. -/
structure CancelledRequests where
  replayRequests : ℕ
  retryNotifications : ℕ
deriving DecidableEq, Repr

def CancelledRequests.zero : CancelledRequests where
  replayRequests := 0
  retryNotifications := 0

/-- **The daemon**, as far as recovery reads and writes it.  A pending batch is the list of its
items. -/
structure RecoveryDaemon (N : Type) where
  did : String
  pendingReplayBatches : Record String (List (PendingReplayRequest N))
  pendingRetryNotifications : Record String (List (PendingDecryptFailure N))
  peerRecoveryStates : Record String (PeerRecoveryState N)
  peerRecoveryEpochFloors : Record String N
  e2eConfig : LocalE2EConfig
deriving DecidableEq

/-! ### Sessions of a peer -/

/-- The keys that `buildLocalSessionKey` builds for the devices of a peer. -/
def isPeerSessionKey (peerDid sessionKey : String) : Bool :=
  (peerDid ++ ":").toList.isPrefixOf sessionKey.toList

/-- The configuration without the sessions that the current device has with the peer, and how many
there were. -/
def clearPeerSessions (e2eConfig : LocalE2EConfig) (peerDid : String) : LocalE2EConfig × ℕ :=
  match e2eConfig.devices.get? e2eConfig.currentDeviceId with
  | none => (e2eConfig, 0)
  | some currentDevice =>
      let nextSessions :=
        currentDevice.sessions.filterKeys fun sessionKey => !isPeerSessionKey peerDid sessionKey
      let clearedCount := currentDevice.sessions.keys.length - nextSessions.keys.length
      if clearedCount = 0 then (e2eConfig, 0)
      else
        ({ e2eConfig with
            devices := e2eConfig.devices.set e2eConfig.currentDeviceId
              { currentDevice with sessions := nextSessions } },
          clearedCount)

section

variable {N : Type} [LinearOrder N] [Zero N] [One N] [Add N]

/-! ### Epochs -/

/-- `peerRecoveryEpochFloors.get(peerDid) ?? 0`. -/
def RecoveryDaemon.floor (daemon : RecoveryDaemon N) (peerDid : String) : N :=
  (daemon.peerRecoveryEpochFloors.get? peerDid).getD 0

def notePeerRecoveryEpoch (daemon : RecoveryDaemon N) (peerDid : String) (epoch : N) :
    RecoveryDaemon N :=
  if daemon.floor peerDid < epoch then
    { daemon with
      peerRecoveryEpochFloors := daemon.peerRecoveryEpochFloors.set peerDid epoch }
  else daemon

/-- The new epoch, and the daemon that has raised its floor to it. -/
def nextPeerRecoveryEpoch (daemon : RecoveryDaemon N) (now : N) (peerDid : String) :
    N × RecoveryDaemon N :=
  let epoch := max now (daemon.floor peerDid + 1)
  (epoch,
    { daemon with
      peerRecoveryEpochFloors := daemon.peerRecoveryEpochFloors.set peerDid epoch })

def getPeerRecoveryState (daemon : RecoveryDaemon N) (peerDid : String) :
    Option (PeerRecoveryState N) :=
  daemon.peerRecoveryStates.get? peerDid

def clearPeerRecoveryState (daemon : RecoveryDaemon N) (peerDid : String) (epoch : Option N) :
    Bool × RecoveryDaemon N :=
  match daemon.peerRecoveryStates.get? peerDid with
  | none => (false, daemon)
  | some current =>
      if epoch.any fun epoch => current.epoch ≠ epoch then (false, daemon)
      else
        (true, notePeerRecoveryEpoch
          { daemon with peerRecoveryStates := daemon.peerRecoveryStates.erase peerDid }
          peerDid current.epoch)

def clearAllPeerRecoveryStates (daemon : RecoveryDaemon N) : RecoveryDaemon N :=
  let noted := daemon.peerRecoveryStates.entries.foldl
    (fun daemon entry => notePeerRecoveryEpoch daemon entry.1 entry.2.epoch) daemon
  { noted with peerRecoveryStates := .empty }

/-! ### Starting and answering a recovery -/

def clearPendingPeerRecovery (daemon : RecoveryDaemon N) (peerDid : String) :
    CancelledRequests × RecoveryDaemon N :=
  ({ replayRequests := ((daemon.pendingReplayBatches.get? peerDid).getD []).length
     retryNotifications := ((daemon.pendingRetryNotifications.get? peerDid).getD []).length },
    { daemon with
      pendingReplayBatches := daemon.pendingReplayBatches.erase peerDid
      pendingRetryNotifications := daemon.pendingRetryNotifications.erase peerDid })

/-- `clearPersistedPeerSessions` in its `try`: a transaction that fails clears nothing. -/
def clearPersistedPeerSessions (daemon : RecoveryDaemon N) (peerDid : String)
    (transactionFails : Bool) : ℕ × RecoveryDaemon N :=
  if transactionFails then (0, daemon)
  else
    let cleared := clearPeerSessions daemon.e2eConfig peerDid
    (cleared.2, { daemon with e2eConfig := cleared.1 })

structure LocalRecovery (N : Type) where
  state : PeerRecoveryState N
  started : Bool
  cancelled : CancelledRequests
  clearedCount : ℕ

/-- The common end of a started and of an answered recovery: the state is put into the map, pending
requests are cancelled, and the sessions are cleared. -/
def enterRecovery (daemon : RecoveryDaemon N) (peerDid : String) (state : PeerRecoveryState N)
    (transactionFails : Bool) : CancelledRequests × ℕ × RecoveryDaemon N :=
  let entered :=
    { daemon with peerRecoveryStates := daemon.peerRecoveryStates.set peerDid state }
  let (cancelled, pending) := clearPendingPeerRecovery entered peerDid
  let (clearedCount, cleared) := clearPersistedPeerSessions pending peerDid transactionFails
  (cancelled, clearedCount, cleared)

def beginLocalPeerRecovery (daemon : RecoveryDaemon N) (now : N) (peerDid reason : String)
    (requestedAt : N) (transactionFails : Bool) : LocalRecovery N × RecoveryDaemon N :=
  match getPeerRecoveryState daemon peerDid with
  | some existing =>
      ({ state := existing, started := false, cancelled := .zero, clearedCount := 0 }, daemon)
  | none =>
      let (epoch, noted) := nextPeerRecoveryEpoch daemon now peerDid
      let state := { epoch, startedAt := requestedAt, reason, awaitingAck := true }
      let (cancelled, clearedCount, entered) := enterRecovery noted peerDid state transactionFails
      ({ state, started := true, cancelled, clearedCount }, entered)

inductive RemoteRecoveryAction where
  | ack
  | resendReset
deriving DecidableEq, Repr

structure RemoteRecoveryDecision (N : Type) where
  action : RemoteRecoveryAction
  state : PeerRecoveryState N
  clearAfterSend : Bool
  cancelled : CancelledRequests
  clearedCount : ℕ

def handleRemotePeerRecovery (daemon : RecoveryDaemon N) (peerDid : String) (epoch : N)
    (reason : String) (requestedAt : N) (transactionFails : Bool) :
    RemoteRecoveryDecision N × RecoveryDaemon N :=
  let noted := notePeerRecoveryEpoch daemon peerDid epoch
  let apply :=
    let state := { epoch, startedAt := requestedAt, reason, awaitingAck := false }
    let (cancelled, clearedCount, entered) := enterRecovery noted peerDid state transactionFails
    ({ action := .ack, state, clearAfterSend := true, cancelled, clearedCount }, entered)
  match getPeerRecoveryState noted peerDid with
  | none => apply
  | some current =>
      if epoch < current.epoch then
        ({ action := if current.awaitingAck then .resendReset else .ack
           state := current
           clearAfterSend := !current.awaitingAck
           cancelled := .zero
           clearedCount := 0 }, noted)
      else if current.epoch = epoch then
        ({ action := .ack
           state := current
           clearAfterSend := true
           cancelled := .zero
           clearedCount := 0 }, noted)
      else apply

/-! ### Control envelopes -/

inductive ControlProtocol where
  | sessionReset
  | sessionResetAck
deriving DecidableEq, Repr

/-- A signed control envelope; a payload field of the wrong type is absent. -/
structure ControlEnvelope (N : Type) where
  sender : String
  receiver : String
  protocol : ControlProtocol
  reason : Option String
  epoch : Option N
  timestamp : Option N
deriving DecidableEq, Repr

/-- The epoch that a control envelope is read to carry. -/
def ControlEnvelope.epochAt (envelope : ControlEnvelope N) (now : N) : N :=
  envelope.epoch.getD (envelope.timestamp.getD now)

/-- What `sendSessionReset` and `sendSessionResetAck` put on the wire. -/
def controlEnvelope (daemon : RecoveryDaemon N) (protocol : ControlProtocol) (receiver reason : String)
    (epoch timestamp : N) : ControlEnvelope N where
  sender := daemon.did
  receiver := receiver
  protocol := protocol
  reason := some reason
  epoch := some epoch
  timestamp := some timestamp

/-- The answer that a decision asks for. -/
def RemoteRecoveryDecision.response (decision : RemoteRecoveryDecision N)
    (daemon : RecoveryDaemon N) (receiver : String) (now : N) : ControlEnvelope N :=
  controlEnvelope daemon
    (match decision.action with
      | .resendReset => .sessionReset
      | .ack => .sessionResetAck)
    receiver decision.state.reason decision.state.epoch now

/-- `e2e/session-reset`: decide, answer, and end the recovery once the answer is out. -/
def handleSessionReset (daemon : RecoveryDaemon N) (now : N) (envelope : ControlEnvelope N)
    (transactionFails sendFails : Bool) : RecoveryDaemon N × List (ControlEnvelope N) :=
  let (decision, decided) := handleRemotePeerRecovery daemon envelope.sender
    (envelope.epochAt now) (envelope.reason.getD "decrypt-failed")
    (envelope.timestamp.getD now) transactionFails
  if sendFails then (decided, [])
  else
    let response := decision.response decided envelope.sender now
    if decision.clearAfterSend then
      ((clearPeerRecoveryState decided envelope.sender (some decision.state.epoch)).2, [response])
    else (decided, [response])

/-- `e2e/session-reset-ack`. -/
def handleSessionResetAck (daemon : RecoveryDaemon N) (now : N) (envelope : ControlEnvelope N) :
    RecoveryDaemon N :=
  (clearPeerRecoveryState daemon envelope.sender (some (envelope.epochAt now))).2

/-- The dispatch of `handleIncomingMessageWithPeerLock` on a control envelope. -/
def handleControlEnvelope (daemon : RecoveryDaemon N) (now : N) (envelope : ControlEnvelope N)
    (transactionFails sendFails : Bool) : RecoveryDaemon N × List (ControlEnvelope N) :=
  match envelope.protocol with
  | .sessionReset => handleSessionReset daemon now envelope transactionFails sendFails
  | .sessionResetAck => (handleSessionResetAck daemon now envelope, [])

/-- The recovery that a failed decryption starts; the reset is sent only when it is new. -/
def recoverFromDecryptFailure (daemon : RecoveryDaemon N) (now : N) (peerDid : String)
    (transactionFails sendFails : Bool) : RecoveryDaemon N × List (ControlEnvelope N) :=
  let (recovery, entered) :=
    beginLocalPeerRecovery daemon now peerDid "decrypt-failed" now transactionFails
  if recovery.started && !sendFails then
    (entered, [controlEnvelope entered .sessionReset peerDid recovery.state.reason
      recovery.state.epoch now])
  else (entered, [])

/-- One peer of `handleE2EResetNotify`; the reset is sent for a running recovery as well. -/
def manualReset (daemon : RecoveryDaemon N) (now : N) (peerDid : String)
    (transactionFails sendFails : Bool) : RecoveryDaemon N × List (ControlEnvelope N) :=
  let (recovery, entered) :=
    beginLocalPeerRecovery daemon now peerDid "manual-reset" now transactionFails
  if sendFails then (entered, [])
  else (entered, [controlEnvelope entered .sessionReset peerDid "manual-reset"
    recovery.state.epoch now])

/-- The daemon once `handleRemotePeerRecovery` has returned, before the answer is sent. -/
def RecoveryDaemon.decided (daemon : RecoveryDaemon N) (now : N) (envelope : ControlEnvelope N)
    (transactionFails : Bool) : RecoveryDaemon N :=
  (handleRemotePeerRecovery daemon envelope.sender (envelope.epochAt now)
    (envelope.reason.getD "decrypt-failed") (envelope.timestamp.getD now) transactionFails).2

end

/-! ### What the parts do -/

section

variable {N : Type}

/-- Entering a recovery stores its state and leaves the floors. -/
theorem enterRecovery_fields (daemon : RecoveryDaemon N) (peerDid : String)
    (state : PeerRecoveryState N) (transactionFails : Bool) :
    (enterRecovery daemon peerDid state transactionFails).2.2.peerRecoveryStates
        = daemon.peerRecoveryStates.set peerDid state ∧
      (enterRecovery daemon peerDid state transactionFails).2.2.peerRecoveryEpochFloors
        = daemon.peerRecoveryEpochFloors ∧
      (enterRecovery daemon peerDid state transactionFails).2.2.did = daemon.did := by
  simp only [enterRecovery, clearPendingPeerRecovery, clearPersistedPeerSessions]
  cases transactionFails <;> exact ⟨rfl, rfl, rfl⟩

theorem floor_of_floors [Zero N] {daemon daemon' : RecoveryDaemon N}
    (h : daemon'.peerRecoveryEpochFloors = daemon.peerRecoveryEpochFloors) (peerDid : String) :
    daemon'.floor peerDid = daemon.floor peerDid := by
  rw [RecoveryDaemon.floor, RecoveryDaemon.floor, h]

variable [LinearOrder N] [Zero N]

@[simp] theorem notePeerRecoveryEpoch_states (daemon : RecoveryDaemon N) (peerDid : String)
    (epoch : N) : (notePeerRecoveryEpoch daemon peerDid epoch).peerRecoveryStates
      = daemon.peerRecoveryStates := by
  rw [notePeerRecoveryEpoch]
  split <;> rfl

@[simp] theorem notePeerRecoveryEpoch_e2eConfig (daemon : RecoveryDaemon N) (peerDid : String)
    (epoch : N) : (notePeerRecoveryEpoch daemon peerDid epoch).e2eConfig = daemon.e2eConfig := by
  rw [notePeerRecoveryEpoch]
  split <;> rfl

@[simp] theorem notePeerRecoveryEpoch_did (daemon : RecoveryDaemon N) (peerDid : String)
    (epoch : N) : (notePeerRecoveryEpoch daemon peerDid epoch).did = daemon.did := by
  rw [notePeerRecoveryEpoch]
  split <;> rfl

/-- **Noting an epoch** raises the floor of its peer to it. -/
theorem floor_notePeerRecoveryEpoch (daemon : RecoveryDaemon N) (peerDid peerDid' : String)
    (epoch : N) : (notePeerRecoveryEpoch daemon peerDid epoch).floor peerDid'
      = if peerDid = peerDid' then max (daemon.floor peerDid') epoch
        else daemon.floor peerDid' := by
  rw [notePeerRecoveryEpoch]
  by_cases hpeer : peerDid = peerDid'
  · subst hpeer
    by_cases hlt : daemon.floor peerDid < epoch
    · rw [if_pos hlt, if_pos rfl, max_eq_right hlt.le, RecoveryDaemon.floor,
        Record.get?_set_self, Option.getD_some]
    · rw [if_neg hlt, if_pos rfl, max_eq_left (not_lt.mp hlt)]
  · rw [if_neg hpeer]
    by_cases hlt : daemon.floor peerDid < epoch
    · rw [if_pos hlt, RecoveryDaemon.floor, Record.get?_set_ne _ _ hpeer]
      rfl
    · rw [if_neg hlt]

theorem le_floor_notePeerRecoveryEpoch (daemon : RecoveryDaemon N) (peerDid peerDid' : String)
    (epoch : N) : daemon.floor peerDid' ≤ (notePeerRecoveryEpoch daemon peerDid epoch).floor peerDid' := by
  rw [floor_notePeerRecoveryEpoch]
  split
  · exact le_max_left _ _
  · exact le_rfl

/-- **What the answer to a reset can be**: a running recovery with an epoch at least as high stands,
and anything else is replaced. -/
theorem handleRemotePeerRecovery_cases (daemon : RecoveryDaemon N) (peerDid : String) (epoch : N)
    (reason : String) (requestedAt : N) (transactionFails : Bool) :
    (∃ current, daemon.peerRecoveryStates.get? peerDid = some current ∧ epoch ≤ current.epoch ∧
      (handleRemotePeerRecovery daemon peerDid epoch reason requestedAt transactionFails).2
        = notePeerRecoveryEpoch daemon peerDid epoch ∧
      (handleRemotePeerRecovery daemon peerDid epoch reason requestedAt transactionFails).1
        = { action := if epoch < current.epoch ∧ current.awaitingAck then .resendReset else .ack
            state := current
            clearAfterSend := !(decide (epoch < current.epoch) && current.awaitingAck)
            cancelled := .zero
            clearedCount := 0 }) ∨
    (∀ current, daemon.peerRecoveryStates.get? peerDid = some current → current.epoch < epoch) ∧
      (handleRemotePeerRecovery daemon peerDid epoch reason requestedAt transactionFails).2
        = (enterRecovery (notePeerRecoveryEpoch daemon peerDid epoch) peerDid
            { epoch, startedAt := requestedAt, reason, awaitingAck := false }
            transactionFails).2.2 ∧
      (handleRemotePeerRecovery daemon peerDid epoch reason requestedAt transactionFails).1.action
        = .ack ∧
      (handleRemotePeerRecovery daemon peerDid epoch reason requestedAt transactionFails).1.state
        = { epoch, startedAt := requestedAt, reason, awaitingAck := false } ∧
      (handleRemotePeerRecovery daemon peerDid epoch reason requestedAt
        transactionFails).1.clearAfterSend = true := by
  generalize hrun : handleRemotePeerRecovery daemon peerDid epoch reason requestedAt
    transactionFails = run
  simp only [handleRemotePeerRecovery, getPeerRecoveryState, notePeerRecoveryEpoch_states] at hrun
  cases hcurrent : daemon.peerRecoveryStates.get? peerDid with
  | none =>
    simp only [hcurrent] at hrun
    subst hrun
    exact Or.inr ⟨(fun _ h => by cases h), rfl, rfl, rfl, rfl⟩
  | some current =>
    simp only [hcurrent] at hrun
    by_cases hlt : epoch < current.epoch
    · rw [if_pos hlt] at hrun
      subst hrun
      refine Or.inl ⟨current, rfl, hlt.le, rfl, ?_⟩
      simp [hlt]
    · rw [if_neg hlt] at hrun
      by_cases heq : current.epoch = epoch
      · rw [if_pos heq] at hrun
        subst hrun
        refine Or.inl ⟨current, rfl, heq.ge, rfl, ?_⟩
        simp [hlt]
      · rw [if_neg heq] at hrun
        subst hrun
        refine Or.inr ⟨fun found hfound => ?_, rfl, rfl, rfl, rfl⟩
        rw [Option.some.injEq] at hfound
        rw [← hfound]
        exact lt_of_le_of_ne (not_lt.mp hlt) heq

/-- **Clearing** removes the state of the peer, if the epoch is the right one, and notes its
epoch. -/
theorem clearPeerRecoveryState_cases (daemon : RecoveryDaemon N) (peerDid : String)
    (epoch : Option N) :
    (∃ current, daemon.peerRecoveryStates.get? peerDid = some current ∧
      (∀ e, epoch = some e → current.epoch = e) ∧
      clearPeerRecoveryState daemon peerDid epoch
        = (true, notePeerRecoveryEpoch
            { daemon with peerRecoveryStates := daemon.peerRecoveryStates.erase peerDid }
            peerDid current.epoch)) ∨
    (∀ current, daemon.peerRecoveryStates.get? peerDid = some current →
        ∃ e, epoch = some e ∧ current.epoch ≠ e) ∧
      clearPeerRecoveryState daemon peerDid epoch = (false, daemon) := by
  rw [clearPeerRecoveryState]
  cases hcurrent : daemon.peerRecoveryStates.get? peerDid with
  | none => exact Or.inr ⟨(fun _ h => by cases h), rfl⟩
  | some current =>
    cases epoch with
    | none => exact Or.inl ⟨current, rfl, (fun _ h => by cases h), rfl⟩
    | some epoch =>
      by_cases heq : current.epoch = epoch
      · refine Or.inl ⟨current, rfl, fun e he => ?_, by simp [heq]⟩
        rw [heq, Option.some.inj he]
      · refine Or.inr ⟨fun found hfound => ⟨epoch, rfl, ?_⟩, by simp [heq]⟩
        rw [← Option.some.inj hfound]
        exact heq

/-- Ending a recovery leaves the configuration. -/
theorem clearPeerRecoveryState_e2eConfig (daemon : RecoveryDaemon N) (peerDid : String)
    (epoch : Option N) :
    (clearPeerRecoveryState daemon peerDid epoch).2.e2eConfig = daemon.e2eConfig := by
  rcases clearPeerRecoveryState_cases daemon peerDid epoch with ⟨_, _, _, h⟩ | ⟨_, h⟩
  · rw [h, notePeerRecoveryEpoch_e2eConfig]
  · rw [h]

/-- After the decision only the running recovery can change. -/
theorem handleSessionReset_cases (daemon : RecoveryDaemon N) (now : N)
    (envelope : ControlEnvelope N) (transactionFails sendFails : Bool) :
    (handleSessionReset daemon now envelope transactionFails sendFails).1
        = daemon.decided now envelope transactionFails ∨
      ∃ epoch, (handleSessionReset daemon now envelope transactionFails sendFails).1
        = (clearPeerRecoveryState (daemon.decided now envelope transactionFails) envelope.sender
            (some epoch)).2 := by
  simp only [handleSessionReset, RecoveryDaemon.decided]
  cases sendFails with
  | true => exact Or.inl rfl
  | false =>
    by_cases hclear : (handleRemotePeerRecovery daemon envelope.sender (envelope.epochAt now)
        (envelope.reason.getD "decrypt-failed") (envelope.timestamp.getD now)
        transactionFails).1.clearAfterSend = true
    · exact Or.inr ⟨_, by rw [if_neg Bool.false_ne_true, if_pos hclear]⟩
    · exact Or.inl (by rw [if_neg Bool.false_ne_true, if_neg hclear])

/-- Ending a recovery raises no other floor and lowers none. -/
theorem le_floor_clearPeerRecoveryState (daemon : RecoveryDaemon N) (peerDid peerDid' : String)
    (epoch : Option N) :
    daemon.floor peerDid' ≤ (clearPeerRecoveryState daemon peerDid epoch).2.floor peerDid' := by
  rcases clearPeerRecoveryState_cases daemon peerDid epoch with ⟨current, _, _, h⟩ | ⟨_, h⟩
  · rw [h]
    exact le_floor_notePeerRecoveryEpoch
      { daemon with peerRecoveryStates := daemon.peerRecoveryStates.erase peerDid } _ _ _
  · rw [h]

/-- A recovery that a clearing has ended is below the floor. -/
theorem clearPeerRecoveryState_ended {daemon : RecoveryDaemon N} {peerDid peerDid' : String}
    {epoch : Option N} {recovery : PeerRecoveryState N}
    (hrunning : daemon.peerRecoveryStates.get? peerDid' = some recovery)
    (hended : (clearPeerRecoveryState daemon peerDid epoch).2.peerRecoveryStates.get? peerDid'
      = none) :
    recovery.epoch ≤ (clearPeerRecoveryState daemon peerDid epoch).2.floor peerDid' := by
  rcases clearPeerRecoveryState_cases daemon peerDid epoch with
    ⟨current, hcurrent, _, h⟩ | ⟨_, h⟩
  · rw [h] at hended ⊢
    rw [notePeerRecoveryEpoch_states, Record.get?_erase] at hended
    rw [floor_notePeerRecoveryEpoch]
    by_cases hpeer : peerDid = peerDid'
    · subst hpeer
      rw [hcurrent, Option.some.injEq] at hrunning
      rw [if_pos rfl, hrunning]
      exact le_max_right _ _
    · rw [if_neg hpeer, hrunning] at hended
      cases hended
  · rw [h, hrunning] at hended
    cases hended

/-- A reload notes the epoch of every running recovery. -/
theorem le_floor_foldl_note (entries : List (String × PeerRecoveryState N))
    (daemon : RecoveryDaemon N) (peerDid : String) :
    daemon.floor peerDid ≤ (entries.foldl
        (fun daemon entry => notePeerRecoveryEpoch daemon entry.1 entry.2.epoch) daemon).floor
          peerDid ∧
      ∀ recovery, (peerDid, recovery) ∈ entries → recovery.epoch ≤ (entries.foldl
        (fun daemon entry => notePeerRecoveryEpoch daemon entry.1 entry.2.epoch) daemon).floor
          peerDid := by
  induction entries generalizing daemon with
  | nil => exact ⟨le_rfl, fun _ h => absurd h List.not_mem_nil⟩
  | cons entry rest ih =>
    rw [List.foldl_cons]
    obtain ⟨hfloor, hrest⟩ := ih (notePeerRecoveryEpoch daemon entry.1 entry.2.epoch)
    refine ⟨(le_floor_notePeerRecoveryEpoch _ _ _ _).trans hfloor, fun recovery hmem => ?_⟩
    rcases List.mem_cons.mp hmem with heq | hmem
    · have hnoted : recovery.epoch
          ≤ (notePeerRecoveryEpoch daemon entry.1 entry.2.epoch).floor peerDid := by
        rw [floor_notePeerRecoveryEpoch, ← heq, if_pos rfl]
        exact le_max_right _ _
      exact hnoted.trans hfloor
    · exact hrest recovery hmem

/-- The decision lowers no floor. -/
theorem le_floor_decided (daemon : RecoveryDaemon N) (now : N) (envelope : ControlEnvelope N)
    (transactionFails : Bool) (peerDid : String) :
    daemon.floor peerDid ≤ (daemon.decided now envelope transactionFails).floor peerDid := by
  have hnoted := le_floor_notePeerRecoveryEpoch daemon envelope.sender peerDid
    (envelope.epochAt now)
  rcases handleRemotePeerRecovery_cases daemon envelope.sender (envelope.epochAt now)
      (envelope.reason.getD "decrypt-failed") (envelope.timestamp.getD now) transactionFails with
    ⟨_, _, _, hdecided, _⟩ | ⟨_, hdecided, _, _, _⟩
  · rw [RecoveryDaemon.decided, hdecided]
    exact hnoted
  · rw [RecoveryDaemon.decided, hdecided, floor_of_floors (enterRecovery_fields _ _ _ _).2.1]
    exact hnoted

/-- **Starting a recovery**: the running one stands, or a new one awaits its acknowledgement with
an epoch above the floor. -/
theorem beginLocalPeerRecovery_cases [One N] [Add N] (daemon : RecoveryDaemon N) (now : N)
    (peerDid reason : String) (requestedAt : N) (transactionFails : Bool) :
    (∃ existing, daemon.peerRecoveryStates.get? peerDid = some existing ∧
      beginLocalPeerRecovery daemon now peerDid reason requestedAt transactionFails
        = ({ state := existing, started := false, cancelled := .zero, clearedCount := 0 },
            daemon)) ∨
    daemon.peerRecoveryStates.get? peerDid = none ∧
      (beginLocalPeerRecovery daemon now peerDid reason requestedAt transactionFails).1.started
        = true ∧
      (beginLocalPeerRecovery daemon now peerDid reason requestedAt transactionFails).1.state
        = { epoch := max now (daemon.floor peerDid + 1)
            startedAt := requestedAt
            reason
            awaitingAck := true } ∧
      (beginLocalPeerRecovery daemon now peerDid reason requestedAt transactionFails).2
        = (enterRecovery (nextPeerRecoveryEpoch daemon now peerDid).2 peerDid
            { epoch := max now (daemon.floor peerDid + 1)
              startedAt := requestedAt
              reason
              awaitingAck := true } transactionFails).2.2 := by
  simp only [beginLocalPeerRecovery, getPeerRecoveryState]
  cases hexisting : daemon.peerRecoveryStates.get? peerDid with
  | some existing => exact Or.inl ⟨existing, rfl, rfl⟩
  | none => exact Or.inr ⟨rfl, rfl, rfl, rfl⟩

end

end QuadraA.Runtime
