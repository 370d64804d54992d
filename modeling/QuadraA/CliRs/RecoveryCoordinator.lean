import Mathlib.Algebra.Group.Nat.Defs
import QuadraA.Runtime.PeerRecovery

/-!
# Peer recovery of the Rust daemon

The recovery part of `daemon.rs`, the second implementation of the recovery protocol.  It answers
the same control envelopes as the JS daemon, from a coordinator that keeps the recoveries, the
epoch floors and the pending batches in one record behind a mutex.

* `RecoveryCoordinator`, `DaemonState` — the coordinator, with the stored E2E configuration;
* `processSessionReset`, `processSessionResetAck`, `recoverFromDecryptFailure`, `resetNotify` — the
  entry points, with the envelope that each one sends.

A `u64` is a natural number whose arithmetic saturates, and a JSON number is an integer.  The timer
fields of a pending batch are left out, nothing here reads them.
-/

namespace QuadraA.CliRs

open QuadraA.Lib QuadraA.E2E
open QuadraA.Runtime (PeerRecoveryState PendingReplayRequest PendingDecryptFailure
  CancelledRequests RemoteRecoveryAction RemoteRecoveryDecision ControlProtocol ControlEnvelope
  isPeerSessionKey)

/-! ### Machine integers -/

/-- `u64::MAX`. -/
def u64Max : ℕ := 2 ^ 64 - 1

/-- `u64::saturating_add`. -/
def saturatingAdd (m n : ℕ) : ℕ := min (m + n) u64Max

/-- `json_u64` on a JSON number that is an integer: a negative one is refused, one that is too large
for the type saturates. -/
def jsonU64 (value : Option ℤ) : Option ℕ :=
  value.bind fun v => if 0 ≤ v then some (min v.toNat u64Max) else none

/-! ### State -/

structure PendingPeerBatch (T : Type) where
  items : Record String T
deriving DecidableEq

structure RecoveryCoordinator where
  pendingReplays : Record String (PendingPeerBatch (PendingReplayRequest ℕ))
  pendingRetryNotifications : Record String (PendingPeerBatch (PendingDecryptFailure ℕ))
  peerRecoveries : Record String (PeerRecoveryState ℕ)
  recoveryEpochFloors : Record String ℕ
deriving DecidableEq

/-- **The daemon**, as far as recovery reads and writes it; `e2e` is the section of the stored
configuration. -/
structure DaemonState where
  did : String
  e2e : Option LocalE2EConfig
  recoveryCoordinator : RecoveryCoordinator
deriving DecidableEq

/-! ### Sessions of a peer -/

/-- `LocalE2EConfig::is_valid`. -/
def isValid (e2e : LocalE2EConfig) : Bool :=
  e2e.currentDeviceId != "" && (e2e.devices.get? e2e.currentDeviceId).isSome

def clearPeerSessions (e2e : Option LocalE2EConfig) (peerDid : String) :
    ℕ × Option LocalE2EConfig :=
  match e2e with
  | none => (0, e2e)
  | some config =>
      if !isValid config then (0, e2e)
      else
        match config.devices.get? config.currentDeviceId with
        | none => (0, e2e)
        | some device =>
            let retained := device.sessions.filterKeys fun key => !isPeerSessionKey peerDid key
            (device.sessions.keys.length - retained.keys.length,
              some { config with
                devices := config.devices.set config.currentDeviceId
                  { device with sessions := retained } })

/-! ### Epochs -/

/-- `recovery_epoch_floors.get(peer_did).copied().unwrap_or(0)`. -/
def RecoveryCoordinator.floor (coordinator : RecoveryCoordinator) (peerDid : String) : ℕ :=
  (coordinator.recoveryEpochFloors.get? peerDid).getD 0

def notePeerRecoveryEpoch (coordinator : RecoveryCoordinator) (peerDid : String) (epoch : ℕ) :
    RecoveryCoordinator :=
  if coordinator.floor peerDid < epoch then
    { coordinator with
      recoveryEpochFloors := coordinator.recoveryEpochFloors.set peerDid epoch }
  else coordinator

/-- The new epoch, and the coordinator that has raised its floor to it. -/
def nextPeerRecoveryEpoch (coordinator : RecoveryCoordinator) (now : ℕ) (peerDid : String) :
    ℕ × RecoveryCoordinator :=
  let epoch := max now (saturatingAdd (coordinator.floor peerDid) 1)
  (epoch,
    { coordinator with
      recoveryEpochFloors := coordinator.recoveryEpochFloors.set peerDid epoch })

def clearPeerRecoveryState (state : DaemonState) (peerDid : String) (epoch : Option ℕ) :
    Bool × DaemonState :=
  let guard := state.recoveryCoordinator
  match guard.peerRecoveries.get? peerDid with
  | none => (false, state)
  | some current =>
      if epoch.any fun expected => current.epoch ≠ expected then (false, state)
      else
        let noted := notePeerRecoveryEpoch guard peerDid current.epoch
        (true,
          { state with
            recoveryCoordinator :=
              { noted with peerRecoveries := noted.peerRecoveries.erase peerDid } })

/-! ### Starting and answering a recovery -/

def clearPendingPeerBatch {T : Type} (batches : Record String (PendingPeerBatch T))
    (peerDid : String) : ℕ × Record String (PendingPeerBatch T) :=
  match batches.get? peerDid with
  | none => (0, batches)
  | some batch => (batch.items.keys.length, batches.erase peerDid)

/-- A transaction that fails clears nothing. -/
def clearPersistedPeerSessions (state : DaemonState) (peerDid : String)
    (transactionFails : Bool) : ℕ × DaemonState :=
  if transactionFails then (0, state)
  else
    let (cleared, e2e) := clearPeerSessions state.e2e peerDid
    (cleared, { state with e2e })

/-- What both a started and an answered recovery do while they hold the coordinator: the pending
batches of the peer go, and its state is inserted. -/
def insertRecovery (guard : RecoveryCoordinator) (peerDid : String)
    (recovery : PeerRecoveryState ℕ) : CancelledRequests × RecoveryCoordinator :=
  let (replayRequests, pendingReplays) := clearPendingPeerBatch guard.pendingReplays peerDid
  let (retryNotifications, pendingRetryNotifications) :=
    clearPendingPeerBatch guard.pendingRetryNotifications peerDid
  ({ replayRequests, retryNotifications },
    { guard with
      pendingReplays
      pendingRetryNotifications
      peerRecoveries := guard.peerRecoveries.set peerDid recovery })

/-- The recovery, whether it is new, and the counts of cancelled requests and cleared sessions. -/
def beginLocalPeerRecovery (state : DaemonState) (now : ℕ) (peerDid reason : String)
    (requestedAt : ℕ) (transactionFails : Bool) :
    (PeerRecoveryState ℕ × Bool × CancelledRequests × ℕ) × DaemonState :=
  let guard := state.recoveryCoordinator
  match guard.peerRecoveries.get? peerDid with
  | some existing => ((existing, false, .zero, 0), state)
  | none =>
      let (epoch, noted) := nextPeerRecoveryEpoch guard now peerDid
      let recovery := { epoch, startedAt := requestedAt, reason, awaitingAck := true }
      let (cancelled, inserted) := insertRecovery noted peerDid recovery
      let (cleared, entered) := clearPersistedPeerSessions
        { state with recoveryCoordinator := inserted } peerDid transactionFails
      ((recovery, true, cancelled, cleared), entered)

def handleRemotePeerRecovery (state : DaemonState) (peerDid : String) (epoch : ℕ)
    (reason : String) (requestedAt : ℕ) (transactionFails : Bool) :
    RemoteRecoveryDecision ℕ × DaemonState :=
  let guard := notePeerRecoveryEpoch state.recoveryCoordinator peerDid epoch
  let noted := { state with recoveryCoordinator := guard }
  let apply :=
    let recovery := { epoch, startedAt := requestedAt, reason, awaitingAck := false }
    let (cancelled, inserted) := insertRecovery guard peerDid recovery
    let (clearedCount, entered) := clearPersistedPeerSessions
      { state with recoveryCoordinator := inserted } peerDid transactionFails
    ({ action := .ack, state := recovery, clearAfterSend := true, cancelled, clearedCount },
      entered)
  match guard.peerRecoveries.get? peerDid with
  | none => apply
  | some current =>
      if epoch < current.epoch then
        ({ action := if current.awaitingAck then .resendReset else .ack
           state := current
           clearAfterSend := !current.awaitingAck
           cancelled := .zero
           clearedCount := 0 }, noted)
      else if current.epoch = epoch then
        ({ action := .ack
           state := current
           clearAfterSend := true
           cancelled := .zero
           clearedCount := 0 }, noted)
      else apply

/-! ### Control envelopes -/

/-- `build_session_reset_envelope` and `build_session_reset_ack_envelope`. -/
def buildControlEnvelope (protocol : ControlProtocol) (sender receiver reason : String)
    (epoch timestamp : ℕ) : ControlEnvelope ℤ where
  sender := sender
  receiver := receiver
  protocol := protocol
  reason := some reason
  epoch := some epoch
  timestamp := some timestamp

/-- The time that a control envelope is read to carry. -/
def requestedAt (envelope : ControlEnvelope ℤ) (receivedAt : ℕ) : ℕ :=
  (jsonU64 envelope.timestamp).getD receivedAt

/-- The epoch that a control envelope is read to carry. -/
def epochAt (envelope : ControlEnvelope ℤ) (receivedAt : ℕ) : ℕ :=
  (jsonU64 envelope.epoch).getD (requestedAt envelope receivedAt)

/-- `e2e/session-reset` in `process_relay_worker_events`. -/
def processSessionReset (state : DaemonState) (receivedAt now : ℕ) (envelope : ControlEnvelope ℤ)
    (transactionFails sendFails : Bool) : DaemonState × List (ControlEnvelope ℤ) :=
  let (decision, decided) := handleRemotePeerRecovery state envelope.sender
    (epochAt envelope receivedAt) (envelope.reason.getD "decrypt-failed")
    (requestedAt envelope receivedAt) transactionFails
  let response := buildControlEnvelope
    (match decision.action with
      | .ack => .sessionResetAck
      | .resendReset => .sessionReset)
    decided.did envelope.sender decision.state.reason decision.state.epoch now
  if sendFails then (decided, [])
  else if decision.clearAfterSend then
    ((clearPeerRecoveryState decided envelope.sender (some decision.state.epoch)).2, [response])
  else (decided, [response])

/-- `e2e/session-reset-ack` in `process_relay_worker_events`. -/
def processSessionResetAck (state : DaemonState) (receivedAt : ℕ) (envelope : ControlEnvelope ℤ) :
    Bool × DaemonState :=
  clearPeerRecoveryState state envelope.sender (some (epochAt envelope receivedAt))

/-- The recovery that a failed decryption starts; the reset is sent only when it is new. -/
def recoverFromDecryptFailure (state : DaemonState) (receivedAt now : ℕ) (peerDid : String)
    (transactionFails sendFails : Bool) : DaemonState × List (ControlEnvelope ℤ) :=
  let requestedAt := max receivedAt now
  let ((recovery, startedRecovery, _, _), entered) :=
    beginLocalPeerRecovery state now peerDid "decrypt-failed" requestedAt transactionFails
  if startedRecovery && !sendFails then
    (entered, [buildControlEnvelope .sessionReset entered.did peerDid recovery.reason
      recovery.epoch requestedAt])
  else (entered, [])

/-- One peer of `handle_e2e_reset_notify`, while the relay is connected. -/
def resetNotify (state : DaemonState) (now : ℕ) (peerDid : String)
    (transactionFails sendFails : Bool) : DaemonState × List (ControlEnvelope ℤ) :=
  let ((recovery, _, _, _), entered) :=
    beginLocalPeerRecovery state now peerDid "manual-reset" now transactionFails
  if sendFails then (entered, [])
  else (entered, [buildControlEnvelope .sessionReset entered.did peerDid "manual-reset"
    recovery.epoch now])

end QuadraA.CliRs
