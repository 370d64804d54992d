import QuadraA.Runtime.PeerRecovery
import QuadraA.Lib.Trace
import QuadraA.E2E.SamplePrimitives
import Mathlib.Algebra.Order.Ring.Int

/-!
# Stale session resets

Runs of the recovery handling of one daemon: decrypt failures, manual resets, the peers' resets and
acknowledgements in any order and any number of copies, reloads, and whatever else writes the
stored configuration or the pending batches.

* `stale_resets_harmless` — the stale resets of a run are harmless exactly when each of them is
  handled while a recovery with an epoch at least as high is running;
* `stale_reset_clears` — a second copy of a reset, after its recovery is complete, is not.
-/

namespace QuadraA.Runtime

open QuadraA.Lib QuadraA.E2E

/-- What a daemon handles, as far as recovery is concerned. -/
inductive RecoveryEvent (N : Type) where
  | decryptFailure (peerDid : String) (transactionFails sendFails : Bool)
  | manualReset (peerDid : String) (transactionFails sendFails : Bool)
  | sessionReset (envelope : ControlEnvelope N) (transactionFails sendFails : Bool)
  | sessionResetAck (envelope : ControlEnvelope N)
  | reload
  | other (e2eConfig : LocalE2EConfig)
      (pendingReplayBatches : Record String (List (PendingReplayRequest N)))
      (pendingRetryNotifications : Record String (List (PendingDecryptFailure N)))

section

variable {N : Type} [LinearOrder N] [Zero N] [One N] [Add N]

/-- **One event**: the daemon after it, and the envelopes it has sent. -/
def RecoveryDaemon.next (daemon : RecoveryDaemon N) (now : N) :
    RecoveryEvent N → RecoveryDaemon N × List (ControlEnvelope N)
  | .decryptFailure peerDid transactionFails sendFails =>
      recoverFromDecryptFailure daemon now peerDid transactionFails sendFails
  | .manualReset peerDid transactionFails sendFails =>
      manualReset daemon now peerDid transactionFails sendFails
  | .sessionReset envelope transactionFails sendFails =>
      handleSessionReset daemon now envelope transactionFails sendFails
  | .sessionResetAck envelope => (handleSessionResetAck daemon now envelope, [])
  | .reload =>
      (clearAllPeerRecoveryStates
        { daemon with pendingReplayBatches := .empty, pendingRetryNotifications := .empty }, [])
  | .other e2eConfig pendingReplayBatches pendingRetryNotifications =>
      ({ daemon with e2eConfig, pendingReplayBatches, pendingRetryNotifications }, [])

/-- An event of a run, with the daemon that handles it and its reading of the clock. -/
structure Handled (N : Type) where
  before : RecoveryDaemon N
  now : N
  event : RecoveryEvent N

def RecoveryStep (daemon : RecoveryDaemon N) (handled : Handled N) (after : RecoveryDaemon N) :
    Prop :=
  handled.before = daemon ∧ after = (daemon.next handled.now handled.event).1

/-! ### Stale resets -/

/-- A reset whose epoch is not above the floor of its sender. -/
def Handled.StaleReset (handled : Handled N) : Prop :=
  match handled.event with
  | .sessionReset envelope _ _ =>
      envelope.epochAt handled.now ≤ handled.before.floor envelope.sender
  | _ => False

/-- A reset that installs no recovery state and clears no session. -/
def Handled.Harmless (handled : Handled N) : Prop :=
  match handled.event with
  | .sessionReset envelope transactionFails _ =>
      (handled.before.decided handled.now envelope transactionFails).peerRecoveryStates.get?
          envelope.sender = handled.before.peerRecoveryStates.get? envelope.sender ∧
        (handled.before.next handled.now handled.event).1.e2eConfig = handled.before.e2eConfig
  | _ => True

/-- A reset that meets a running recovery with an epoch at least as high. -/
def Handled.Superseded (handled : Handled N) : Prop :=
  match handled.event with
  | .sessionReset envelope _ _ =>
      ∃ current, handled.before.peerRecoveryStates.get? envelope.sender = some current ∧
        envelope.epochAt handled.now ≤ current.epoch
  | _ => True

/-- The epoch of the recovery with a peer that an event has brought to its end. -/
def Handled.completes (handled : Handled N) (peerDid : String) : Option N :=
  let running :=
    match handled.event with
    | .sessionReset envelope transactionFails _ =>
        handled.before.decided handled.now envelope transactionFails
    | _ => handled.before
  match running.peerRecoveryStates.get? peerDid,
      (handled.before.next handled.now handled.event).1.peerRecoveryStates.get? peerDid with
  | some recovery, none => some recovery.epoch
  | _, _ => none

/-- **One reset** is harmless exactly when it meets a recovery with an epoch at least as high. -/
theorem harmless_iff_superseded (handled : Handled N) : handled.Harmless ↔ handled.Superseded := by
  obtain ⟨before, now, event⟩ := handled
  cases event with
  | sessionReset envelope transactionFails sendFails =>
    have hconfig : (before.next now (.sessionReset envelope transactionFails sendFails)).1.e2eConfig
        = (before.decided now envelope transactionFails).e2eConfig := by
      rcases handleSessionReset_cases before now envelope transactionFails sendFails with
        h | ⟨epoch, h⟩
      · rw [RecoveryDaemon.next, h]
      · rw [RecoveryDaemon.next, h, clearPeerRecoveryState_e2eConfig]
    simp only [Handled.Harmless, Handled.Superseded]
    rw [hconfig]
    rcases handleRemotePeerRecovery_cases before envelope.sender (envelope.epochAt now)
        (envelope.reason.getD "decrypt-failed") (envelope.timestamp.getD now) transactionFails with
      ⟨current, hcurrent, hle, hdecided, _⟩ | ⟨hlower, hdecided, _, _, _⟩
    · rw [RecoveryDaemon.decided, hdecided, notePeerRecoveryEpoch_states,
        notePeerRecoveryEpoch_e2eConfig]
      exact ⟨fun _ => ⟨current, hcurrent, hle⟩, fun _ => ⟨rfl, rfl⟩⟩
    · have hnew : ¬∃ current, before.peerRecoveryStates.get? envelope.sender = some current ∧
          envelope.epochAt now ≤ current.epoch := by
        rintro ⟨current, hcurrent, hle⟩
        exact absurd hle (not_le.mpr (hlower current hcurrent))
      refine ⟨fun hharmless => ?_, fun hsuperseded => absurd hsuperseded hnew⟩
      -- the installed state is not the one that was running
      obtain ⟨hstates, _⟩ := hharmless
      rw [RecoveryDaemon.decided, hdecided, (enterRecovery_fields _ _ _ _).1,
        Record.get?_set_self] at hstates
      exact absurd (hlower _ hstates.symm) (lt_irrefl _)
  | _ => exact ⟨fun _ => trivial, fun _ => trivial⟩

/-! ### The floor and completed recoveries -/

/-- A recovery that is started lowers no floor. -/
theorem le_floor_beginLocalPeerRecovery (hsucc : ∀ epoch : N, epoch ≤ epoch + 1)
    (daemon : RecoveryDaemon N) (now : N) (peerDid reason : String) (requestedAt : N)
    (transactionFails : Bool) (peerDid' : String) :
    daemon.floor peerDid' ≤ (beginLocalPeerRecovery daemon now peerDid reason requestedAt
      transactionFails).2.floor peerDid' := by
  rcases beginLocalPeerRecovery_cases daemon now peerDid reason requestedAt transactionFails with
    ⟨_, _, h⟩ | ⟨_, _, _, h⟩
  · rw [h]
  · rw [h, floor_of_floors (enterRecovery_fields _ _ _ _).2.1]
    simp only [nextPeerRecoveryEpoch, RecoveryDaemon.floor, Record.get?_set]
    by_cases hpeer : peerDid = peerDid'
    · subst hpeer
      rw [if_pos rfl, Option.getD_some]
      exact (hsucc _).trans (le_max_right _ _)
    · rw [if_neg hpeer]

/-- A recovery that is started keeps every running one. -/
theorem beginLocalPeerRecovery_running {daemon : RecoveryDaemon N} {peerDid' : String}
    {recovery : PeerRecoveryState N}
    (hrunning : daemon.peerRecoveryStates.get? peerDid' = some recovery) (now : N)
    (peerDid reason : String) (requestedAt : N) (transactionFails : Bool) :
    (beginLocalPeerRecovery daemon now peerDid reason requestedAt
      transactionFails).2.peerRecoveryStates.get? peerDid' = some recovery := by
  rcases beginLocalPeerRecovery_cases daemon now peerDid reason requestedAt transactionFails with
    ⟨_, _, h⟩ | ⟨hnone, _, _, h⟩
  · rw [h]
    exact hrunning
  · have hpeer : peerDid ≠ peerDid' := by
      intro heq
      rw [heq, hrunning] at hnone
      cases hnone
    rw [h, (enterRecovery_fields _ _ _ _).1]
    show (daemon.peerRecoveryStates.set peerDid _).get? peerDid' = some recovery
    rw [Record.get?_set_ne _ _ hpeer]
    exact hrunning

theorem recoverFromDecryptFailure_fst (daemon : RecoveryDaemon N) (now : N) (peerDid : String)
    (transactionFails sendFails : Bool) :
    (recoverFromDecryptFailure daemon now peerDid transactionFails sendFails).1
      = (beginLocalPeerRecovery daemon now peerDid "decrypt-failed" now transactionFails).2 := by
  simp only [recoverFromDecryptFailure]
  split <;> rfl

theorem manualReset_fst (daemon : RecoveryDaemon N) (now : N) (peerDid : String)
    (transactionFails sendFails : Bool) :
    (manualReset daemon now peerDid transactionFails sendFails).1
      = (beginLocalPeerRecovery daemon now peerDid "manual-reset" now transactionFails).2 := by
  simp only [manualReset]
  split <;> rfl

/-- **One event** lowers no floor. -/
theorem le_floor_next (hsucc : ∀ epoch : N, epoch ≤ epoch + 1) (daemon : RecoveryDaemon N)
    (now : N) (event : RecoveryEvent N) (peerDid : String) :
    daemon.floor peerDid ≤ (daemon.next now event).1.floor peerDid := by
  cases event with
  | decryptFailure peer transactionFails sendFails =>
    rw [RecoveryDaemon.next, recoverFromDecryptFailure_fst]
    exact le_floor_beginLocalPeerRecovery hsucc _ _ _ _ _ _ _
  | manualReset peer transactionFails sendFails =>
    rw [RecoveryDaemon.next, manualReset_fst]
    exact le_floor_beginLocalPeerRecovery hsucc _ _ _ _ _ _ _
  | sessionReset envelope transactionFails sendFails =>
    have hdecided := le_floor_decided daemon now envelope transactionFails peerDid
    rcases handleSessionReset_cases daemon now envelope transactionFails sendFails with
      h | ⟨epoch, h⟩
    · rw [RecoveryDaemon.next, h]
      exact hdecided
    · rw [RecoveryDaemon.next, h]
      exact hdecided.trans (le_floor_clearPeerRecoveryState _ _ _ _)
  | sessionResetAck envelope => exact le_floor_clearPeerRecoveryState _ _ _ _
  | reload =>
    have hnoted := (le_floor_foldl_note daemon.peerRecoveryStates.entries
      { daemon with pendingReplayBatches := .empty, pendingRetryNotifications := .empty } peerDid).1
    exact hnoted
  | other _ _ _ => exact le_rfl

/-- **One event** that completes a recovery leaves its epoch below the floor. -/
theorem completes_le_floor {handled : Handled N} {peerDid : String} {epoch : N}
    (h : handled.completes peerDid = some epoch) :
    epoch ≤ (handled.before.next handled.now handled.event).1.floor peerDid := by
  obtain ⟨before, now, event⟩ := handled
  -- an event completes what was running before it and is gone after it
  have hended {running after : RecoveryDaemon N}
      (hmatch : (match running.peerRecoveryStates.get? peerDid,
          after.peerRecoveryStates.get? peerDid with
        | some recovery, none => some recovery.epoch
        | _, _ => none) = some epoch) :
      ∃ recovery, running.peerRecoveryStates.get? peerDid = some recovery ∧
        after.peerRecoveryStates.get? peerDid = none ∧ recovery.epoch = epoch := by
    split at hmatch
    · rename_i recovery hrunning hgone
      exact ⟨recovery, hrunning, hgone, Option.some.inj hmatch⟩
    · cases hmatch
  obtain ⟨recovery, hrunning, hgone, rfl⟩ := hended h
  cases event with
  | decryptFailure peer transactionFails sendFails =>
    rw [RecoveryDaemon.next, recoverFromDecryptFailure_fst,
      beginLocalPeerRecovery_running hrunning] at hgone
    cases hgone
  | manualReset peer transactionFails sendFails =>
    rw [RecoveryDaemon.next, manualReset_fst, beginLocalPeerRecovery_running hrunning] at hgone
    cases hgone
  | sessionReset envelope transactionFails sendFails =>
    rcases handleSessionReset_cases before now envelope transactionFails sendFails with
      hnext | ⟨epoch, hnext⟩
    · rw [RecoveryDaemon.next, hnext] at hgone
      rw [hrunning] at hgone
      cases hgone
    · rw [RecoveryDaemon.next, hnext] at hgone ⊢
      exact clearPeerRecoveryState_ended hrunning hgone
  | sessionResetAck envelope => exact clearPeerRecoveryState_ended hrunning hgone
  | reload =>
    have hnoted := (le_floor_foldl_note before.peerRecoveryStates.entries
      { before with pendingReplayBatches := .empty, pendingRetryNotifications := .empty }
      peerDid).2 recovery ((Record.get?_eq_some_iff _ _ _).mp hrunning)
    exact hnoted
  | other _ _ _ =>
    rw [RecoveryDaemon.next, hrunning] at hgone
    cases hgone

/-- **The floor covers what is completed.** -/
theorem completed_le_floor (hsucc : ∀ epoch : N, epoch ≤ epoch + 1) {start : RecoveryDaemon N}
    {log : List (Handled N)} {daemon : RecoveryDaemon N}
    (hrun : Trace RecoveryStep start log daemon) (peerDid : String) :
    ∀ epoch ∈ log.filterMap fun handled => handled.completes peerDid,
      epoch ≤ daemon.floor peerDid := by
  refine hrun.invariant (fun log daemon => ∀ epoch ∈ log.filterMap fun handled =>
    handled.completes peerDid, epoch ≤ daemon.floor peerDid) ?_ ?_
  · intro epoch hepoch
    cases hepoch
  · intro log daemon handled after _ ih hstep epoch hepoch
    obtain ⟨rfl, rfl⟩ := hstep
    rw [List.filterMap_append, List.mem_append] at hepoch
    rcases hepoch with hold | hnew
    · exact (ih epoch hold).trans (le_floor_next hsucc _ _ _ _)
    · obtain ⟨_, hmem, hcompletes⟩ := List.mem_filterMap.mp hnew
      obtain rfl := List.mem_singleton.mp hmem
      exact completes_le_floor hcompletes

/-- **Stale resets.**  In every run the floor of a peer covers the epochs completed with it, and the
stale resets of the run are harmless exactly when each of them is handled while a recovery with an
epoch at least as high is running. -/
theorem stale_resets_harmless (hsucc : ∀ epoch : N, epoch ≤ epoch + 1)
    {start : RecoveryDaemon N} {log : List (Handled N)} {daemon : RecoveryDaemon N}
    (hrun : Trace RecoveryStep start log daemon) :
    (∀ peerDid, ∀ epoch ∈ log.filterMap fun handled => handled.completes peerDid,
        epoch ≤ daemon.floor peerDid) ∧
      ((∀ handled ∈ log, handled.StaleReset → handled.Harmless) ↔
        ∀ handled ∈ log, handled.StaleReset → handled.Superseded) := by
  refine ⟨completed_le_floor hsucc hrun, ?_⟩
  constructor
  · intro h handled hmem hstale
    exact (harmless_iff_superseded handled).mp (h handled hmem hstale)
  · intro h handled hmem hstale
    exact (harmless_iff_superseded handled).mpr (h handled hmem hstale)

end

/-! ### Runs of one daemon -/

/-- A daemon that has not recovered from anything yet. -/
def restingDaemon (did : String) (e2eConfig : LocalE2EConfig) : RecoveryDaemon ℤ where
  did := did
  pendingReplayBatches := .empty
  pendingRetryNotifications := .empty
  peerRecoveryStates := .empty
  peerRecoveryEpochFloors := .empty
  e2eConfig := e2eConfig

/-- Handle a list of events, each at its reading of the clock. -/
def handleAll (daemon : RecoveryDaemon ℤ) :
    List (ℤ × RecoveryEvent ℤ) → List (Handled ℤ) × RecoveryDaemon ℤ
  | [] => ([], daemon)
  | (now, event) :: rest =>
      let (log, after) := handleAll (daemon.next now event).1 rest
      ({ before := daemon, now, event } :: log, after)

theorem handleAll_run (daemon : RecoveryDaemon ℤ) (events : List (ℤ × RecoveryEvent ℤ)) :
    Trace RecoveryStep daemon (handleAll daemon events).1 (handleAll daemon events).2 := by
  induction events generalizing daemon with
  | nil => exact .nil
  | cons event rest ih =>
    have hstep : RecoveryStep daemon { before := daemon, now := event.1, event := event.2 }
        (daemon.next event.1 event.2).1 := ⟨rfl, rfl⟩
    exact (Trace.single hstep).append (ih _)

/-- Alice's reset of one epoch. -/
def aliceReset (epoch : ℤ) : ControlEnvelope ℤ where
  sender := "did:a"
  receiver := "did:b"
  protocol := .sessionReset
  reason := some "decrypt-failed"
  epoch := some epoch
  timestamp := some epoch

/-- Bob's decryption fails, and then an older reset of Alice's arrives. -/
def overtakenReset : List (Handled ℤ) × RecoveryDaemon ℤ :=
  handleAll (restingDaemon "did:b" bobConsumed.e2eConfig)
    [(100, .decryptFailure "did:a" false true), (200, .sessionReset (aliceReset 50) false false)]

theorem stale_resets_harmless_overtaken :
    Trace RecoveryStep (restingDaemon "did:b" bobConsumed.e2eConfig) overtakenReset.1
        overtakenReset.2 ∧
      ∀ handled ∈ overtakenReset.1, handled.StaleReset → handled.Harmless := by
  have hsucc (epoch : ℤ) : epoch ≤ epoch + 1 := by omega
  have hrun : Trace RecoveryStep (restingDaemon "did:b" bobConsumed.e2eConfig) overtakenReset.1
      overtakenReset.2 := handleAll_run _ _
  refine ⟨hrun, (stale_resets_harmless hsucc hrun).2.mpr ?_⟩
  intro handled hmem hstale
  rcases List.mem_cons.mp hmem with rfl | hmem
  · exact hstale.elim
  · obtain rfl := List.mem_singleton.mp hmem
    have hrunning : 50 ≤ (100 : ℤ) := by omega
    exact ⟨{ epoch := 100, startedAt := 100, reason := "decrypt-failed", awaitingAck := true }, rfl,
      hrunning⟩

/-- Alice's reset arrives and its recovery is completed, a new session is stored, and a second copy
of the reset arrives. -/
def duplicatedReset : List (Handled ℤ) × RecoveryDaemon ℤ :=
  handleAll (restingDaemon "did:b" bobConsumed.e2eConfig)
    [(100, .sessionReset (aliceReset 100) false false),
     (200, .other bobConsumed.e2eConfig .empty .empty),
     (300, .sessionReset (aliceReset 100) false false)]

/-- **A second copy of a reset**, after its recovery is complete, clears the new session. -/
theorem stale_reset_clears :
    Trace RecoveryStep (restingDaemon "did:b" bobConsumed.e2eConfig) duplicatedReset.1
        duplicatedReset.2 ∧
      ∃ handled ∈ duplicatedReset.1, handled.StaleReset ∧ ¬handled.Harmless ∧
        (handled.before.next handled.now handled.event).1.e2eConfig ≠ handled.before.e2eConfig := by
  refine ⟨handleAll_run _ _, duplicatedReset.1.get ⟨2, by decide +kernel⟩, List.get_mem _ _,
    ?_, ?_, ?_⟩
  · show (100 : ℤ) ≤ 100
    exact le_rfl
  · rw [harmless_iff_superseded]
    rintro ⟨current, hcurrent, _⟩
    have hnone : (duplicatedReset.1.get ⟨2, by decide +kernel⟩).before.peerRecoveryStates.get?
        "did:a" = none := by decide +kernel
    have habsurd : some current = none := hcurrent.symm.trans hnone
    cases habsurd
  · decide +kernel

end QuadraA.Runtime
