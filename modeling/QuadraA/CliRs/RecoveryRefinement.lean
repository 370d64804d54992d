import QuadraA.CliRs.RecoveryCoordinator
import Mathlib.Algebra.Order.Ring.Int

/-!
# The two daemons recover alike

The JS daemon and the Rust daemon, given the same event at the same reading of the clock.

* `runtimes_agree` — for every sequence of events with non-negative epochs and timestamps, while
  the epochs are safe integers, both daemons decide the same, send the same and end related;
* `runtimes_disagree` — a negative epoch or timestamp is read as it is by one daemon, and not at
  all by the other.
-/

namespace QuadraA.CliRs

open QuadraA.Lib QuadraA.E2E
open QuadraA.Runtime (PeerRecoveryState CancelledRequests RemoteRecoveryAction
  RemoteRecoveryDecision ControlProtocol ControlEnvelope RecoveryDaemon isPeerSessionKey)

/-! ### Related states -/

/-- A recovery of the Rust daemon, in the numbers of the JS daemon. -/
def castRecovery (recovery : PeerRecoveryState ℕ) : PeerRecoveryState ℤ where
  epoch := recovery.epoch
  startedAt := recovery.startedAt
  reason := recovery.reason
  awaitingAck := recovery.awaitingAck

/-- **States that stand for each other.** -/
structure Related (daemon : RecoveryDaemon ℤ) (state : DaemonState) : Prop where
  did : state.did = daemon.did
  recoveries : ∀ peerDid, daemon.peerRecoveryStates.get? peerDid
    = (state.recoveryCoordinator.peerRecoveries.get? peerDid).map castRecovery
  floors : ∀ peerDid, daemon.floor peerDid = state.recoveryCoordinator.floor peerDid
  e2e : state.e2e = some daemon.e2eConfig
  device : daemon.e2eConfig.currentDeviceId ≠ ""

/-- `Number.MAX_SAFE_INTEGER`: below it, adding one is exact in both runtimes. -/
def maxSafeInteger : ℤ := 2 ^ 53 - 1

/-- All epochs of a daemon are below the greatest safe integer. -/
structure SafeEpochs (daemon : RecoveryDaemon ℤ) : Prop where
  recoveries : ∀ peerDid recovery, daemon.peerRecoveryStates.get? peerDid = some recovery →
    recovery.epoch < maxSafeInteger
  floors : ∀ peerDid, daemon.floor peerDid < maxSafeInteger

/-! ### The parts agree -/

theorem clearPeerSessions_agree {config : LocalE2EConfig} (hdevice : config.currentDeviceId ≠ "")
    (peerDid : String) :
    clearPeerSessions (some config) peerDid
      = ((Runtime.clearPeerSessions config peerDid).2,
          some (Runtime.clearPeerSessions config peerDid).1) := by
  rw [clearPeerSessions, Runtime.clearPeerSessions]
  cases hcurrent : config.devices.get? config.currentDeviceId with
  | none =>
    have hvalid : isValid config = false := by rw [isValid, hcurrent]; simp
    simp [hvalid]
  | some device =>
    have hvalid : isValid config = true := by
      rw [isValid, hcurrent]
      simp [hdevice]
    simp only [hvalid, Bool.not_true, Bool.false_eq_true, if_false]
    split
    · rename_i hzero
      -- nothing was cleared, so the sessions are written back as they were
      have hkept : (device.sessions.filterKeys fun key => !isPeerSessionKey peerDid key)
          = device.sessions := Record.filterKeys_eq_self (Nat.sub_eq_zero_iff_le.mp hzero)
      rw [hkept, Nat.sub_self]
      have hsame : config.devices.set config.currentDeviceId device = config.devices :=
        Record.set_eq_self hcurrent
      show (0, some { config with devices := config.devices.set config.currentDeviceId device })
        = (0, some config)
      rw [hsame]
    · rfl

theorem currentDeviceId_clearPeerSessions (config : LocalE2EConfig) (peerDid : String) :
    (Runtime.clearPeerSessions config peerDid).1.currentDeviceId = config.currentDeviceId := by
  rw [Runtime.clearPeerSessions]
  split
  · rfl
  · simp only
    split <;> rfl

variable {daemon : RecoveryDaemon ℤ} {state : DaemonState} {envelope : ControlEnvelope ℤ}
  {epoch timestamp : ℕ}

/-- **Clearing the sessions** clears the same ones. -/
theorem Related.clearSessions (h : Related daemon state) (peerDid : String) (tf : Bool) :
    (clearPersistedPeerSessions state peerDid tf).1
        = (Runtime.clearPersistedPeerSessions daemon peerDid tf).1 ∧
      Related (Runtime.clearPersistedPeerSessions daemon peerDid tf).2
        (clearPersistedPeerSessions state peerDid tf).2 := by
  rw [CliRs.clearPersistedPeerSessions, Runtime.clearPersistedPeerSessions]
  cases tf with
  | true => exact ⟨rfl, h⟩
  | false =>
    simp only [Bool.false_eq_true, if_false]
    rw [h.e2e, clearPeerSessions_agree h.device]
    refine ⟨rfl, h.did, h.recoveries, h.floors, rfl, ?_⟩
    rw [currentDeviceId_clearPeerSessions]
    exact h.device

theorem floor_note (coordinator : RecoveryCoordinator) (peerDid peerDid' : String) (epoch : ℕ) :
    (notePeerRecoveryEpoch coordinator peerDid epoch).floor peerDid'
      = if peerDid = peerDid' then max (coordinator.floor peerDid') epoch
        else coordinator.floor peerDid' := by
  rw [notePeerRecoveryEpoch]
  by_cases hlt : coordinator.floor peerDid < epoch
  · rw [if_pos hlt, RecoveryCoordinator.floor, Record.get?_set]
    by_cases hpeer : peerDid = peerDid'
    · subst hpeer
      rw [if_pos rfl, if_pos rfl, max_eq_right hlt.le, Option.getD_some]
    · rw [if_neg hpeer, if_neg hpeer]
      rfl
  · rw [if_neg hlt]
    by_cases hpeer : peerDid = peerDid'
    · subst hpeer
      rw [if_pos rfl, max_eq_left (not_lt.mp hlt)]
    · rw [if_neg hpeer]

@[simp] theorem peerRecoveries_note (coordinator : RecoveryCoordinator) (peerDid : String)
    (epoch : ℕ) : (notePeerRecoveryEpoch coordinator peerDid epoch).peerRecoveries
      = coordinator.peerRecoveries := by
  rw [notePeerRecoveryEpoch]
  split <;> rfl

/-- **Noting an epoch** keeps the states related. -/
theorem Related.note (h : Related daemon state) (peerDid : String) (epoch : ℕ) :
    Related (Runtime.notePeerRecoveryEpoch daemon peerDid epoch)
      { state with
        recoveryCoordinator := notePeerRecoveryEpoch state.recoveryCoordinator peerDid epoch } := by
  refine ⟨?_, ?_, ?_, ?_, ?_⟩
  · rw [Runtime.notePeerRecoveryEpoch_did]
    exact h.did
  · intro peerDid'
    rw [Runtime.notePeerRecoveryEpoch_states, peerRecoveries_note]
    exact h.recoveries peerDid'
  · intro peerDid'
    rw [Runtime.floor_notePeerRecoveryEpoch, floor_note, h.floors]
    split
    · omega
    · rfl
  · rw [Runtime.notePeerRecoveryEpoch_e2eConfig]
    exact h.e2e
  · rw [Runtime.notePeerRecoveryEpoch_e2eConfig]
    exact h.device

/-- **Ending a recovery** ends it in both, or in neither. -/
theorem Related.endRecovery (h : Related daemon state) (peerDid : String) (epoch : ℕ) :
    (clearPeerRecoveryState state peerDid (some epoch)).1
        = (Runtime.clearPeerRecoveryState daemon peerDid (some (epoch : ℤ))).1 ∧
      Related (Runtime.clearPeerRecoveryState daemon peerDid (some (epoch : ℤ))).2
        (clearPeerRecoveryState state peerDid (some epoch)).2 := by
  have hcurrent := h.recoveries peerDid
  rw [CliRs.clearPeerRecoveryState, Runtime.clearPeerRecoveryState]
  cases hfound : state.recoveryCoordinator.peerRecoveries.get? peerDid with
  | none =>
    rw [hfound, Option.map_none] at hcurrent
    rw [hcurrent]
    exact ⟨rfl, h⟩
  | some current =>
    rw [hfound, Option.map_some] at hcurrent
    rw [hcurrent]
    by_cases heq : current.epoch = epoch
    · have hcast : (castRecovery current).epoch = (epoch : ℤ) := by rw [← heq]; rfl
      simp only [Option.any_some, heq, hcast, ne_eq, not_true_eq_false, decide_false,
        Bool.false_eq_true, if_false, true_and]
      have hnoted := h.note peerDid epoch
      refine ⟨?_, ?_, ?_, ?_, ?_⟩
      · rw [Runtime.notePeerRecoveryEpoch_did]
        exact h.did
      · intro peerDid'
        rw [Runtime.notePeerRecoveryEpoch_states, Record.get?_erase, Record.get?_erase,
          peerRecoveries_note]
        split
        · rfl
        · exact h.recoveries peerDid'
      · intro peerDid'
        have hfloor := hnoted.floors peerDid'
        rw [Runtime.floor_notePeerRecoveryEpoch] at hfloor ⊢
        exact hfloor
      · rw [Runtime.notePeerRecoveryEpoch_e2eConfig]
        exact h.e2e
      · rw [Runtime.notePeerRecoveryEpoch_e2eConfig]
        exact h.device
    · have hcast : (castRecovery current).epoch ≠ (epoch : ℤ) := by
        intro hsame
        exact heq (Int.ofNat.inj hsame)
      simp only [Option.any_some, heq, hcast, ne_eq, not_false_eq_true, decide_true, if_true,
        true_and]
      exact h

/-- **Entering a recovery** inserts the same state and clears the same sessions. -/
theorem Related.enter (h : Related daemon state) (peerDid : String) (recovery : PeerRecoveryState ℕ)
    (tf : Bool) :
    (clearPersistedPeerSessions
        { state with
          recoveryCoordinator := (insertRecovery state.recoveryCoordinator peerDid recovery).2 }
        peerDid tf).1
        = (Runtime.enterRecovery daemon peerDid (castRecovery recovery) tf).2.1 ∧
      Related (Runtime.enterRecovery daemon peerDid (castRecovery recovery) tf).2.2
        (clearPersistedPeerSessions
          { state with
            recoveryCoordinator := (insertRecovery state.recoveryCoordinator peerDid recovery).2 }
          peerDid tf).2 := by
  have hinserted : Related
      (Runtime.clearPendingPeerRecovery
        { daemon with
          peerRecoveryStates := daemon.peerRecoveryStates.set peerDid (castRecovery recovery) }
        peerDid).2
      { state with
        recoveryCoordinator := (insertRecovery state.recoveryCoordinator peerDid recovery).2 } := by
    refine ⟨h.did, fun peerDid' => ?_, h.floors, h.e2e, h.device⟩
    show (daemon.peerRecoveryStates.set peerDid (castRecovery recovery)).get? peerDid'
      = ((state.recoveryCoordinator.peerRecoveries.set peerDid recovery).get? peerDid').map
          castRecovery
    rw [Record.get?_set, Record.get?_set]
    split
    · rfl
    · exact h.recoveries peerDid'
  exact hinserted.clearSessions peerDid tf

/-- **A local start** is new for both or for neither. -/
theorem Related.beginLocalPeerRecovery (h : Related daemon state) (hsafe : SafeEpochs daemon)
    (now : ℕ) (peerDid reason : String) (requestedAt : ℕ) (tf : Bool) :
    let js := Runtime.beginLocalPeerRecovery daemon (now : ℤ) peerDid reason requestedAt tf
    let rs := CliRs.beginLocalPeerRecovery state now peerDid reason requestedAt tf
    js.1.state = castRecovery rs.1.1 ∧ js.1.started = rs.1.2.1 ∧
      js.1.clearedCount = rs.1.2.2.2 ∧ Related js.2 rs.2 := by
  have hexisting := h.recoveries peerDid
  simp only [CliRs.beginLocalPeerRecovery, Runtime.beginLocalPeerRecovery,
    Runtime.getPeerRecoveryState]
  cases hfound : state.recoveryCoordinator.peerRecoveries.get? peerDid with
  | some existing =>
    rw [hfound, Option.map_some] at hexisting
    rw [hexisting]
    exact ⟨rfl, rfl, rfl, h⟩
  | none =>
    rw [hfound, Option.map_none] at hexisting
    rw [hexisting]
    -- below the greatest safe integer neither addition loses anything
    have hepoch : (Runtime.nextPeerRecoveryEpoch daemon (now : ℤ) peerDid).1
        = ((nextPeerRecoveryEpoch state.recoveryCoordinator now peerDid).1 : ℤ) := by
      have hlt := hsafe.floors peerDid
      have hfloor := h.floors peerDid
      rw [maxSafeInteger] at hlt
      simp only [Runtime.nextPeerRecoveryEpoch, nextPeerRecoveryEpoch, saturatingAdd, u64Max]
      omega
    have hnext : Related (Runtime.nextPeerRecoveryEpoch daemon (now : ℤ) peerDid).2
        { state with
          recoveryCoordinator :=
            (nextPeerRecoveryEpoch state.recoveryCoordinator now peerDid).2 } := by
      refine ⟨h.did, h.recoveries, fun peerDid' => ?_, h.e2e, h.device⟩
      have hfloor := h.floors peerDid'
      rw [RecoveryDaemon.floor, RecoveryCoordinator.floor] at hfloor ⊢
      simp only [Runtime.nextPeerRecoveryEpoch, nextPeerRecoveryEpoch, Record.get?_set] at hepoch ⊢
      split
      · exact hepoch
      · exact hfloor
    have hentered := hnext.enter peerDid
      { epoch := (nextPeerRecoveryEpoch state.recoveryCoordinator now peerDid).1
        startedAt := requestedAt
        reason
        awaitingAck := true } tf
    rw [hepoch]
    exact ⟨rfl, rfl, hentered.1.symm, hentered.2⟩

/-- **The answer to a reset** is the same. -/
theorem Related.handleRemotePeerRecovery (h : Related daemon state) (peerDid : String) (epoch : ℕ)
    (reason : String) (requestedAt : ℕ) (tf : Bool) :
    let js := Runtime.handleRemotePeerRecovery daemon peerDid (epoch : ℤ) reason requestedAt tf
    let rs := CliRs.handleRemotePeerRecovery state peerDid epoch reason requestedAt tf
    js.1.action = rs.1.action ∧ js.1.state = castRecovery rs.1.state ∧
      js.1.clearAfterSend = rs.1.clearAfterSend ∧ js.1.clearedCount = rs.1.clearedCount ∧
      Related js.2 rs.2 := by
  have hcurrent := h.recoveries peerDid
  have hnoted := h.note peerDid epoch
  have hentered := hnoted.enter peerDid
    { epoch, startedAt := requestedAt, reason, awaitingAck := false } tf
  simp only [CliRs.handleRemotePeerRecovery, Runtime.handleRemotePeerRecovery,
    Runtime.getPeerRecoveryState, Runtime.notePeerRecoveryEpoch_states, peerRecoveries_note]
  cases hfound : state.recoveryCoordinator.peerRecoveries.get? peerDid with
  | none =>
    rw [hfound, Option.map_none] at hcurrent
    rw [hcurrent]
    exact ⟨rfl, rfl, rfl, hentered.1.symm, hentered.2⟩
  | some current =>
    rw [hfound, Option.map_some] at hcurrent
    simp only [hcurrent]
    rcases lt_trichotomy epoch current.epoch with hlt | heq | hgt
    · have hlt' : (epoch : ℤ) < (castRecovery current).epoch := by
        show (epoch : ℤ) < (current.epoch : ℤ)
        omega
      rw [if_pos hlt, if_pos hlt']
      exact ⟨rfl, rfl, rfl, rfl, hnoted⟩
    · have heq' : (castRecovery current).epoch = (epoch : ℤ) := by rw [heq]; rfl
      rw [if_neg heq.not_lt, if_pos heq.symm, if_neg heq'.le.not_gt, if_pos heq']
      exact ⟨rfl, rfl, rfl, rfl, hnoted⟩
    · have hnlt : ¬(epoch : ℤ) < (castRecovery current).epoch := by
        show ¬(epoch : ℤ) < (current.epoch : ℤ)
        omega
      have hne : (castRecovery current).epoch ≠ (epoch : ℤ) := by
        show (current.epoch : ℤ) ≠ (epoch : ℤ)
        omega
      rw [if_neg hgt.not_gt, if_neg hgt.ne, if_neg hnlt, if_neg hne]
      exact ⟨rfl, rfl, rfl, hentered.1.symm, hentered.2⟩

/-! ### Events -/

/-- What both daemons handle. -/
inductive CoordinatorEvent where
  | decryptFailure (peerDid : String) (transactionFails sendFails : Bool)
  | manualReset (peerDid : String) (transactionFails sendFails : Bool)
  | sessionReset (envelope : ControlEnvelope ℤ) (transactionFails sendFails : Bool)
  | sessionResetAck (envelope : ControlEnvelope ℤ)

/-- What a daemon decides: whether a local start is new, how a reset is answered, whether an
acknowledgement ends a recovery; and for the first two with which epoch and how many sessions are
cleared. -/
inductive Decision where
  | start (started : Bool) (epoch : ℤ) (clearedCount : ℕ)
  | answer (action : RemoteRecoveryAction) (epoch : ℤ) (clearedCount : ℕ)
  | acknowledged (ended : Bool)
deriving DecidableEq

/-- **The JS daemon** on an event: its decision, what it sends, and the daemon after it. -/
def handleJs (daemon : RecoveryDaemon ℤ) (now : ℤ) :
    CoordinatorEvent → Decision × List (ControlEnvelope ℤ) × RecoveryDaemon ℤ
  | .decryptFailure peerDid tf sendFails =>
      let recovery :=
        (Runtime.beginLocalPeerRecovery daemon now peerDid "decrypt-failed" now tf).1
      let handled := Runtime.recoverFromDecryptFailure daemon now peerDid tf sendFails
      (.start recovery.started recovery.state.epoch recovery.clearedCount, handled.2, handled.1)
  | .manualReset peerDid tf sendFails =>
      let recovery := (Runtime.beginLocalPeerRecovery daemon now peerDid "manual-reset" now tf).1
      let handled := Runtime.manualReset daemon now peerDid tf sendFails
      (.start recovery.started recovery.state.epoch recovery.clearedCount, handled.2, handled.1)
  | .sessionReset envelope tf sendFails =>
      let decision := (Runtime.handleRemotePeerRecovery daemon envelope.sender
        (envelope.epochAt now) (envelope.reason.getD "decrypt-failed")
        (envelope.timestamp.getD now) tf).1
      let handled := Runtime.handleSessionReset daemon now envelope tf sendFails
      (.answer decision.action decision.state.epoch decision.clearedCount, handled.2, handled.1)
  | .sessionResetAck envelope =>
      (.acknowledged (Runtime.clearPeerRecoveryState daemon envelope.sender
        (some (envelope.epochAt now))).1, [], Runtime.handleSessionResetAck daemon now envelope)

/-- **The Rust daemon** on an event. -/
def handleRs (state : DaemonState) (now : ℕ) :
    CoordinatorEvent → Decision × List (ControlEnvelope ℤ) × DaemonState
  | .decryptFailure peerDid tf sendFails =>
      let (recovery, started, _, cleared) :=
        (beginLocalPeerRecovery state now peerDid "decrypt-failed" now tf).1
      let handled := recoverFromDecryptFailure state now now peerDid tf sendFails
      (.start started recovery.epoch cleared, handled.2, handled.1)
  | .manualReset peerDid tf sendFails =>
      let (recovery, started, _, cleared) :=
        (beginLocalPeerRecovery state now peerDid "manual-reset" now tf).1
      let handled := resetNotify state now peerDid tf sendFails
      (.start started recovery.epoch cleared, handled.2, handled.1)
  | .sessionReset envelope tf sendFails =>
      let decision := (handleRemotePeerRecovery state envelope.sender (epochAt envelope now)
        (envelope.reason.getD "decrypt-failed") (requestedAt envelope now) tf).1
      let handled := processSessionReset state now now envelope tf sendFails
      (.answer decision.action decision.state.epoch decision.clearedCount, handled.2, handled.1)
  | .sessionResetAck envelope =>
      let handled := processSessionResetAck state now envelope
      (.acknowledged handled.1, [], handled.2)

/-- A control envelope whose epoch is a non-negative safe integer and whose timestamp is one of a
`u64`. -/
structure Readable (envelope : ControlEnvelope ℤ) (epoch timestamp : ℕ) : Prop where
  carries : envelope.epoch = some (epoch : ℤ)
  stamped : envelope.timestamp = some (timestamp : ℤ)
  safe : (epoch : ℤ) < maxSafeInteger
  fits : timestamp ≤ u64Max

def CoordinatorEvent.Readable : CoordinatorEvent → Prop
  | .decryptFailure .. => True
  | .manualReset .. => True
  | .sessionReset envelope _ _ => ∃ epoch timestamp, CliRs.Readable envelope epoch timestamp
  | .sessionResetAck envelope => ∃ epoch timestamp, CliRs.Readable envelope epoch timestamp

/-- **Both daemons read** a readable envelope alike. -/
theorem Readable.read (h : Readable envelope epoch timestamp) (now : ℕ) :
    envelope.epochAt (now : ℤ) = epoch ∧ envelope.timestamp.getD (now : ℤ) = timestamp ∧
      epochAt envelope now = epoch ∧ requestedAt envelope now = timestamp := by
  have hlt := h.safe
  have hle := h.fits
  rw [maxSafeInteger] at hlt
  rw [u64Max] at hle
  have hepoch : jsonU64 (some (epoch : ℤ)) = some epoch := by
    rw [jsonU64, Option.bind_some, if_pos (by omega), u64Max]
    congr 1
    omega
  have htimestamp : jsonU64 (some (timestamp : ℤ)) = some timestamp := by
    rw [jsonU64, Option.bind_some, if_pos (by omega), u64Max]
    congr 1
    omega
  refine ⟨?_, ?_, ?_, ?_⟩
  · rw [ControlEnvelope.epochAt, h.carries]
    rfl
  · rw [h.stamped]
    rfl
  · rw [epochAt, h.carries, hepoch]
    rfl
  · rw [requestedAt, h.stamped, htimestamp]
    rfl

/-! ### The entry points agree -/

/-- The envelope that both daemons build. -/
theorem buildControlEnvelope_eq (h : Related daemon state) (protocol : ControlProtocol)
    (receiver reason : String) (epoch timestamp : ℕ) :
    Runtime.controlEnvelope daemon protocol receiver reason (epoch : ℤ) (timestamp : ℤ)
      = buildControlEnvelope protocol state.did receiver reason epoch timestamp := by
  rw [Runtime.controlEnvelope, buildControlEnvelope, h.did]

/-- **Both daemons handle an event alike.** -/
def Alike (js : Decision × List (ControlEnvelope ℤ) × RecoveryDaemon ℤ)
    (rs : Decision × List (ControlEnvelope ℤ) × DaemonState) : Prop :=
  js.1 = rs.1 ∧ js.2.1 = rs.2.1 ∧ Related js.2.2 rs.2.2

theorem Related.decryptFailure (h : Related daemon state) (hsafe : SafeEpochs daemon) (now : ℕ)
    (peerDid : String) (tf sendFails : Bool) :
    Alike (handleJs daemon now (.decryptFailure peerDid tf sendFails))
      (handleRs state now (.decryptFailure peerDid tf sendFails)) := by
  obtain ⟨hstate, hstarted, hcleared, hentered⟩ :=
    h.beginLocalPeerRecovery hsafe now peerDid "decrypt-failed" now tf
  simp only [handleJs, handleRs, Runtime.recoverFromDecryptFailure, recoverFromDecryptFailure,
    max_self]
  refine ⟨?_, ?_, ?_⟩
  · simp only [hstate, hstarted, hcleared]
    rfl
  · simp only [hstarted]
    split
    · simp only [hstate]
      rw [← buildControlEnvelope_eq hentered]
      rfl
    · rfl
  · simp only [hstarted]
    split <;> exact hentered

theorem Related.manualReset (h : Related daemon state) (hsafe : SafeEpochs daemon) (now : ℕ)
    (peerDid : String) (tf sendFails : Bool) :
    Alike (handleJs daemon now (.manualReset peerDid tf sendFails))
      (handleRs state now (.manualReset peerDid tf sendFails)) := by
  obtain ⟨hstate, hstarted, hcleared, hentered⟩ :=
    h.beginLocalPeerRecovery hsafe now peerDid "manual-reset" now tf
  simp only [handleJs, handleRs, Runtime.manualReset, resetNotify]
  refine ⟨?_, ?_, ?_⟩
  · simp only [hstate, hstarted, hcleared]
    rfl
  · split
    · rfl
    · simp only [hstate]
      rw [← buildControlEnvelope_eq hentered]
      rfl
  · split <;> exact hentered

theorem Related.sessionReset (h : Related daemon state) (now : ℕ)
    (hreadable : Readable envelope epoch timestamp) (tf sendFails : Bool) :
    Alike (handleJs daemon now (.sessionReset envelope tf sendFails))
      (handleRs state now (.sessionReset envelope tf sendFails)) := by
  obtain ⟨hjsEpoch, hjsTime, hrsEpoch, hrsTime⟩ := hreadable.read now
  have hdecision := h.handleRemotePeerRecovery envelope.sender epoch
    (envelope.reason.getD "decrypt-failed") timestamp tf
  simp only [handleJs, handleRs, Runtime.handleSessionReset, processSessionReset, hjsEpoch,
    hjsTime, hrsEpoch, hrsTime, Runtime.RemoteRecoveryDecision.response]
  generalize Runtime.handleRemotePeerRecovery daemon envelope.sender (epoch : ℤ)
    (envelope.reason.getD "decrypt-failed") (timestamp : ℤ) tf = js at hdecision ⊢
  generalize CliRs.handleRemotePeerRecovery state envelope.sender epoch
    (envelope.reason.getD "decrypt-failed") timestamp tf = rs at hdecision ⊢
  obtain ⟨haction, hstate, hclear, hcount, hdecided⟩ := hdecision
  have hended := hdecided.endRecovery envelope.sender rs.1.state.epoch
  simp only [haction, hstate, hclear, hcount]
  refine ⟨rfl, ?_, ?_⟩
  · rw [← buildControlEnvelope_eq hdecided]
    cases sendFails with
    | true => rfl
    | false => cases rs.1.action <;> cases rs.1.clearAfterSend <;> rfl
  · cases sendFails with
    | true => exact hdecided
    | false =>
      cases rs.1.clearAfterSend with
      | true => exact hended.2
      | false => exact hdecided

theorem Related.sessionResetAck (h : Related daemon state) (now : ℕ)
    (hreadable : Readable envelope epoch timestamp) :
    Alike (handleJs daemon now (.sessionResetAck envelope))
      (handleRs state now (.sessionResetAck envelope)) := by
  obtain ⟨hjsEpoch, _, hrsEpoch, _⟩ := hreadable.read now
  obtain ⟨hended, hrelated⟩ := h.endRecovery envelope.sender epoch
  simp only [handleJs, handleRs, Runtime.handleSessionResetAck, processSessionResetAck, hjsEpoch,
    hrsEpoch]
  refine ⟨?_, rfl, hrelated⟩
  rw [hended]

/-- **One event**, at the same reading of the clock. -/
theorem Related.handle (h : Related daemon state) (hsafe : SafeEpochs daemon) (now : ℕ)
    {event : CoordinatorEvent} (hreadable : event.Readable) :
    Alike (handleJs daemon now event) (handleRs state now event) := by
  cases event with
  | decryptFailure peerDid tf sendFails => exact h.decryptFailure hsafe now peerDid tf sendFails
  | manualReset peerDid tf sendFails => exact h.manualReset hsafe now peerDid tf sendFails
  | sessionReset envelope tf sendFails =>
    obtain ⟨epoch, timestamp, henvelope⟩ := hreadable
    exact h.sessionReset now henvelope tf sendFails
  | sessionResetAck envelope =>
    obtain ⟨epoch, timestamp, henvelope⟩ := hreadable
    exact h.sessionResetAck now henvelope

/-! ### Runs -/

/-- Handle a list of events, each at its reading of the clock. -/
def runJs (daemon : RecoveryDaemon ℤ) :
    List (ℕ × CoordinatorEvent) →
      List (Decision × List (ControlEnvelope ℤ)) × RecoveryDaemon ℤ
  | [] => ([], daemon)
  | (now, event) :: rest =>
      let (decision, sent, next) := handleJs daemon now event
      let (log, after) := runJs next rest
      ((decision, sent) :: log, after)

def runRs (state : DaemonState) :
    List (ℕ × CoordinatorEvent) → List (Decision × List (ControlEnvelope ℤ)) × DaemonState
  | [] => ([], state)
  | (now, event) :: rest =>
      let (decision, sent, next) := handleRs state now event
      let (log, after) := runRs next rest
      ((decision, sent) :: log, after)

/-- The epochs are safe integers in every state that the daemon handles an event in. -/
def SafeRun (daemon : RecoveryDaemon ℤ) : List (ℕ × CoordinatorEvent) → Prop
  | [] => True
  | (now, event) :: rest => SafeEpochs daemon ∧ SafeRun (handleJs daemon now event).2.2 rest

/-- **The runtimes agree.**  From related states, both daemons take the same decisions and send the
same envelopes on every sequence of events, and end in related states. -/
theorem runtimes_agree {daemon : RecoveryDaemon ℤ} {state : DaemonState}
    (h : Related daemon state) {events : List (ℕ × CoordinatorEvent)}
    (hsafe : SafeRun daemon events) (hreadable : ∀ event ∈ events, event.2.Readable) :
    (runJs daemon events).1 = (runRs state events).1 ∧
      Related (runJs daemon events).2 (runRs state events).2 := by
  induction events generalizing daemon state with
  | nil => exact ⟨rfl, h⟩
  | cons event rest ih =>
    obtain ⟨hnow, hrest⟩ := hsafe
    obtain ⟨hdecision, hsent, hnext⟩ :=
      h.handle hnow event.1 (hreadable event List.mem_cons_self)
    obtain ⟨hlog, hafter⟩ :=
      ih hnext hrest fun event' hmem => hreadable event' (List.mem_cons_of_mem _ hmem)
    refine ⟨?_, hafter⟩
    simp only [runJs, runRs]
    rw [hdecision, hsent, hlog]

/-! ### A run, and three envelopes that are not readable -/

def freshDaemon : RecoveryDaemon ℤ where
  did := "did:b"
  pendingReplayBatches := .empty
  pendingRetryNotifications := .empty
  peerRecoveryStates := .empty
  peerRecoveryEpochFloors := .empty
  e2eConfig := { currentDeviceId := "laptop", devices := .empty }

def freshState : DaemonState where
  did := "did:b"
  e2e := some { currentDeviceId := "laptop", devices := .empty }
  recoveryCoordinator :=
    { pendingReplays := .empty
      pendingRetryNotifications := .empty
      peerRecoveries := .empty
      recoveryEpochFloors := .empty }

theorem fresh_related : Related freshDaemon freshState :=
  ⟨rfl, fun _ => rfl, fun _ => rfl, rfl, by decide⟩

theorem fresh_safe : SafeEpochs freshDaemon := by
  refine ⟨fun _ _ h => ?_, fun _ => ?_⟩
  · cases h
  · show (0 : ℤ) < 2 ^ 53 - 1
    omega

/-- Alice's reset. -/
def aliceReset (epoch timestamp : ℤ) : ControlEnvelope ℤ where
  sender := "did:a"
  receiver := "did:b"
  protocol := .sessionReset
  reason := some "decrypt-failed"
  epoch := some epoch
  timestamp := some timestamp

/-- Alice's reset is answered. -/
theorem runtimes_agree_answered :
    (runJs freshDaemon [(100, .sessionReset (aliceReset 70 60) false false)]).1
      = (runRs freshState [(100, .sessionReset (aliceReset 70 60) false false)]).1 := by
  have hsafe : SafeRun freshDaemon [(100, .sessionReset (aliceReset 70 60) false false)] :=
    ⟨fresh_safe, trivial⟩
  refine (runtimes_agree fresh_related hsafe fun event hmem => ?_).1
  obtain rfl := List.mem_singleton.mp hmem
  exact ⟨70, 60, rfl, rfl, by decide, by decide⟩

/-- **A negative epoch** is answered as it is by the JS daemon, and the Rust daemon takes the
timestamp for it; a negative timestamp, and one above `u64::MAX`, are not stored as they are by the
Rust daemon. -/
theorem runtimes_disagree :
    Related freshDaemon freshState ∧ SafeEpochs freshDaemon ∧
      (handleJs freshDaemon 9 (.sessionReset (aliceReset (-1) 5) false false)).1
          = .answer .ack (-1) 0 ∧
      (handleRs freshState 9 (.sessionReset (aliceReset (-1) 5) false false)).1
          = .answer .ack 5 0 ∧
      ¬Related (handleJs freshDaemon 9 (.sessionReset (aliceReset 7 (-5)) false true)).2.2
          (handleRs freshState 9 (.sessionReset (aliceReset 7 (-5)) false true)).2.2 ∧
      ¬Related (handleJs freshDaemon 9 (.sessionReset (aliceReset 7 (2 ^ 64)) false true)).2.2
          (handleRs freshState 9 (.sessionReset (aliceReset 7 (2 ^ 64)) false true)).2.2 := by
  refine ⟨fresh_related, fresh_safe, by decide +kernel, by decide +kernel, fun h => ?_,
    fun h => ?_⟩
  · have hstored := h.recoveries "did:a"
    revert hstored
    decide +kernel
  · have hstored := h.recoveries "did:a"
    revert hstored
    decide +kernel

end QuadraA.CliRs
