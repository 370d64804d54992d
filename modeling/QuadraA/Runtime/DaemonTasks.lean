import QuadraA.Runtime.PeerOperations
import QuadraA.E2E.SamplePrimitives

/-!
# Tasks of one daemon, interleaved

`daemon-server.ts` runs a task for each send, each inbound envelope and each replay under the locks
of its peer, and the pre-key maintenance under a lock of its own.  Tasks of different peers
interleave at every `await`: between the reading of a snapshot, the round trip to the relay, and
the write of the configuration that was computed from the snapshot.

* `DaemonState` — the stored configuration, the recoveries, and the task that holds the locks of
  each peer, with its snapshot;
* `Sound` — the invariant of every run: what is stored and every snapshot is filed, and only the
  recovery of a peer may run under a name that is no DID.

`withLocalE2EStateTransaction` is two steps, a read and a write: its process lock is re-entrant, so
the transactions of one process overlap.
-/

namespace QuadraA.Runtime

open QuadraA.Lib QuadraA.E2E QuadraA.Messaging

/-! ### Pre-key maintenance -/

def LOW_ONE_TIME_PREKEY_THRESHOLD : ℕ := 4
def STALE_SIGNED_PREKEY_AGE_MS : ℕ := 14 * 24 * 60 * 60 * 1000

/-- The configuration that `maintainCurrentDevicePreKeyHealth` writes over its snapshot; `none`
when it throws, or has nothing to do. -/
def maintainCurrentDevicePreKeyHealth (c : Primitives) (amb : DeviceAmbient)
    (signingPrivateKey : Bytes) (e2eConfig : LocalE2EConfig) : Option LocalE2EConfig :=
  match e2eConfig.devices.get? e2eConfig.currentDeviceId with
  | none => none
  | some currentDevice =>
      let oneTimePreKeysRemaining := (currentDevice.oneTimePreKeys.filter isUnclaimed).length
      let signedPreKeyAgeMs := amb.now - currentDevice.signedPreKey.createdAt
      if signedPreKeyAgeMs ≥ STALE_SIGNED_PREKEY_AGE_MS then
        (rotateLocalDeviceSignedPreKey c amb signingPrivateKey e2eConfig
          e2eConfig.currentDeviceId {}).toOption
      else if oneTimePreKeysRemaining ≤ LOW_ONE_TIME_PREKEY_THRESHOLD then
        (resupplyLocalDeviceOneTimePreKeys amb e2eConfig e2eConfig.currentDeviceId {}).toOption
      else none

/-! ### State and steps -/

/-- What a task under the locks of a peer has been started for.  A control envelope, a manual reset
and a receipt that has failed to decrypt run the recovery of the peer. -/
inductive PeerTaskKind where
  | send
  | receive
  | replay
  | recover
deriving DecidableEq

/-- The operations that a task commits. -/
def PeerTaskKind.commits : PeerTaskKind → PeerOperation → Bool
  | .send, .encrypt .. => true
  | .receive, .receive .. => true
  | .replay, .encrypt .. => true
  | .replay, .clear _ => true
  | .recover, .clear _ => true
  | _, _ => false

/-- The task that holds the locks of a peer, with the snapshot its next write starts from. -/
structure PeerTask where
  kind : PeerTaskKind
  snapshot : Option LocalE2EConfig
deriving DecidableEq

/-- **The daemon at an `await`**, as far as sessions and recoveries are concerned. -/
structure DaemonState (N : Type) where
  e2eConfig : LocalE2EConfig
  peerRecoveryStates : Record String (PeerRecoveryState N)
  peerTasks : String → Option PeerTask
  maintenance : Option LocalE2EConfig

inductive DaemonEvent (N : Type) where
  | entered (peerDid : String) (kind : PeerTaskKind)
  | began (peerDid : String) (recovery : PeerRecoveryState N)
  | read (peerDid : String)
  | transmitted (peerDid : String) (operation : PeerOperation)
  | committed (peerDid : String) (operation : PeerOperation)
  | ended (peerDid : String)
  | left (peerDid : String)
  | maintenanceRead
  | maintenanceCommitted
  | reloaded

section

variable {N : Type}

def DaemonState.setTask (s : DaemonState N) (peerDid : String) (task : Option PeerTask) :
    DaemonState N :=
  { s with peerTasks := Function.update s.peerTasks peerDid task }

@[simp] theorem setTask_peerRecoveryStates (s : DaemonState N) (peerDid : String)
    (task : Option PeerTask) :
    (s.setTask peerDid task).peerRecoveryStates = s.peerRecoveryStates := rfl

variable {s : DaemonState N} {task : Option PeerTask} {config next : LocalE2EConfig}

/-- A task that is found after the change is the new one, or belongs to another peer. -/
theorem setTask_peerTasks {peerDid peerDid' : String} {found : PeerTask}
    (h : (s.setTask peerDid task).peerTasks peerDid' = some found) :
    (peerDid' = peerDid ∧ task = some found) ∨
      (peerDid' ≠ peerDid ∧ s.peerTasks peerDid' = some found) := by
  rw [DaemonState.setTask] at h
  by_cases hpeer : peerDid' = peerDid
  · subst hpeer
    simp only [Function.update_self] at h
    exact Or.inl ⟨rfl, h⟩
  · simp only [Function.update_of_ne hpeer] at h
    exact Or.inr ⟨hpeer, h⟩

/-- The barrier that `handleSend` and the receipt of an E2E transport envelope check once they hold
the locks of their peer.  A replay and the recovery itself check nothing. -/
def DaemonState.Admits (s : DaemonState N) (peerDid : String) (kind : PeerTaskKind) : Prop :=
  kind = .send ∨ kind = .receive → s.peerRecoveryStates.get? peerDid = none

/-- **What a task does between two `await`s.**  The peer of a send has a bundle that was verified
under its DID, and the peer of an inbound envelope has signed it. -/
inductive DaemonStep (c : Primitives) (services : EnvelopeServices) (did : String)
    (signingPrivateKey : Bytes) (s : DaemonState N) : DaemonEvent N → DaemonState N → Prop
  | entered {peerDid : String} {kind : PeerTaskKind} :
      s.peerTasks peerDid = none → s.Admits peerDid kind →
      (kind ≠ .recover → WellFormedDid peerDid) →
      DaemonStep c services did signingPrivateKey s (.entered peerDid kind)
        (s.setTask peerDid (some { kind, snapshot := none }))
  | began {peerDid : String} {task : PeerTask} {recovery : PeerRecoveryState N} :
      s.peerTasks peerDid = some task → task.kind = .receive ∨ task.kind = .recover →
      DaemonStep c services did signingPrivateKey s (.began peerDid recovery)
        ({ s with peerRecoveryStates := s.peerRecoveryStates.set peerDid recovery }.setTask peerDid
          (some { kind := .recover, snapshot := none }))
  | read {peerDid : String} {task : PeerTask} :
      s.peerTasks peerDid = some task →
      DaemonStep c services did signingPrivateKey s (.read peerDid)
        (s.setTask peerDid (some { task with snapshot := some s.e2eConfig }))
  | transmitted {peerDid : String} {task : PeerTask} {snapshot next : LocalE2EConfig}
      {operation : PeerOperation} :
      s.peerTasks peerDid = some task → task.kind = .send ∨ task.kind = .replay →
      task.snapshot = some snapshot → operation.peerDid = peerDid →
      operation.write c services did snapshot = some next →
      DaemonStep c services did signingPrivateKey s (.transmitted peerDid operation) s
  | committed {peerDid : String} {task : PeerTask} {snapshot next : LocalE2EConfig}
      {operation : PeerOperation} :
      s.peerTasks peerDid = some task → task.snapshot = some snapshot →
      task.kind.commits operation = true → operation.peerDid = peerDid →
      operation.write c services did snapshot = some next →
      DaemonStep c services did signingPrivateKey s (.committed peerDid operation)
        ({ s with e2eConfig := next }.setTask peerDid (some { task with snapshot := some next }))
  | ended {peerDid : String} {task : PeerTask} :
      s.peerTasks peerDid = some task → task.kind = .recover →
      DaemonStep c services did signingPrivateKey s (.ended peerDid)
        { s with peerRecoveryStates := s.peerRecoveryStates.erase peerDid }
  | left {peerDid : String} :
      DaemonStep c services did signingPrivateKey s (.left peerDid) (s.setTask peerDid none)
  | maintenanceRead :
      DaemonStep c services did signingPrivateKey s .maintenanceRead
        { s with maintenance := some s.e2eConfig }
  | maintenanceCommitted {amb : DeviceAmbient} {snapshot next : LocalE2EConfig} :
      s.maintenance = some snapshot →
      maintainCurrentDevicePreKeyHealth c amb signingPrivateKey snapshot = some next →
      DaemonStep c services did signingPrivateKey s .maintenanceCommitted
        { s with e2eConfig := next, maintenance := none }
  | reloaded :
      DaemonStep c services did signingPrivateKey s .reloaded
        { s with peerRecoveryStates := Record.empty }

/-! ### What the maintenance does to sessions -/

/-- **Maintenance** changes no session, and keeps every device under its id. -/
theorem maintenance_fields {amb : DeviceAmbient}
    (h : maintainCurrentDevicePreKeyHealth c amb signingPrivateKey config = some next) :
    (config.Keyed → next.Keyed) ∧ ∀ slot, sessionAt next slot = sessionAt config slot := by
  rw [maintainCurrentDevicePreKeyHealth] at h
  split at h
  · cases h
  · dsimp only at h
    split at h
    · obtain ⟨existing, hexisting, rfl⟩ :=
        rotateLocalDeviceSignedPreKey_eq_ok.mp (toOption_eq_some.mp h)
      exact ⟨fun hkeyed => Keyed.set hkeyed (hkeyed _ existing hexisting),
        sessionAt_set_of_sessions hexisting rfl⟩
    · split at h
      · obtain ⟨existing, hexisting, rfl⟩ :=
          resupplyLocalDeviceOneTimePreKeys_eq_ok.mp (toOption_eq_some.mp h)
        exact ⟨fun hkeyed => Keyed.set hkeyed (hkeyed _ existing hexisting),
          sessionAt_set_of_sessions hexisting rfl⟩
      · cases h

/-- A configuration with the sessions of a filed one is filed. -/
theorem Filed.of_sessions (h : Filed config) (hkeyed : next.Keyed)
    (hsessions : ∀ slot, sessionAt next slot = sessionAt config slot) : Filed next := by
  refine ⟨hkeyed, fun hfound => ?_, fun hfound => ?_⟩
  · rw [hsessions] at hfound
    exact h.key hfound
  · rw [hsessions] at hfound
    exact h.did hfound

/-! ### The invariant of every run -/

/-- **Sound states**: what is stored and every snapshot is filed, and every task but a recovery is
for a well-formed DID. -/
structure Sound (s : DaemonState N) : Prop where
  stored : Filed s.e2eConfig
  snapshot : ∀ {peerDid task snapshot}, s.peerTasks peerDid = some task →
    task.snapshot = some snapshot → Filed snapshot
  maintenance : ∀ {snapshot}, s.maintenance = some snapshot → Filed snapshot
  did : ∀ {peerDid task}, s.peerTasks peerDid = some task → task.kind ≠ .recover →
    WellFormedDid peerDid

/-- A daemon that has just been started. -/
structure DaemonState.Starting (s : DaemonState N) : Prop where
  stored : Filed s.e2eConfig
  tasks : ∀ peerDid, s.peerTasks peerDid = none
  maintenance : s.maintenance = none

theorem Sound.of_starting (h : s.Starting) : Sound s := by
  refine ⟨h.stored, fun htask => ?_, fun hsnapshot => ?_, fun htask => ?_⟩
  · rw [h.tasks] at htask
    cases htask
  · rw [h.maintenance] at hsnapshot
    cases hsnapshot
  · rw [h.tasks] at htask
    cases htask

/-- A new task, or none, with a filed snapshot. -/
theorem Sound.setTask (h : Sound s) {peerDid : String}
    (hsnapshot : ∀ {found snapshot}, task = some found → found.snapshot = some snapshot →
      Filed snapshot)
    (hdid : ∀ {found}, task = some found → found.kind ≠ .recover → WellFormedDid peerDid) :
    Sound (s.setTask peerDid task) := by
  refine ⟨h.stored, fun htask hfound => ?_, h.maintenance, fun htask hkind => ?_⟩
  · rcases setTask_peerTasks htask with ⟨_, hnew⟩ | ⟨_, hold⟩
    · exact hsnapshot hnew hfound
    · exact h.snapshot hold hfound
  · rcases setTask_peerTasks htask with ⟨rfl, hnew⟩ | ⟨_, hold⟩
    · exact hdid hnew hkind
    · exact h.did hold hkind

theorem Sound.store (h : Sound s) (hnext : Filed next) : Sound { s with e2eConfig := next } :=
  ⟨hnext, h.snapshot, h.maintenance, h.did⟩

/-- The recovery states are no part of the invariant. -/
theorem Sound.recoveries (h : Sound s) (states : Record String (PeerRecoveryState N)) :
    Sound { s with peerRecoveryStates := states } :=
  ⟨h.stored, h.snapshot, h.maintenance, h.did⟩

variable {c : Primitives} {services : EnvelopeServices} {did : String} {signingPrivateKey : Bytes}

/-- What a commit writes is filed, whatever its task is. -/
theorem Sound.committed (h : Sound s) {peerDid : String} {task : PeerTask}
    {snapshot : LocalE2EConfig} {operation : PeerOperation}
    (htask : s.peerTasks peerDid = some task) (hsnapshot : task.snapshot = some snapshot)
    (hcommits : task.kind.commits operation = true) (hpeer : operation.peerDid = peerDid)
    (hwrite : operation.write c services did snapshot = some next) : Filed next := by
  have hfiled := h.snapshot htask hsnapshot
  have hwrites := PeerOperation.write_eq_some.mp hwrite
  by_cases hkind : task.kind = .recover
  · -- a recovery only clears
    rw [hkind] at hcommits
    cases hwrites with
    | clear _ => exact hfiled.clear _
    | encrypt => cases hcommits
    | initiate => cases hcommits
    | consume => cases hcommits
    | decrypt => cases hcommits
  · have hdid := h.did htask hkind
    rw [← hpeer] at hdid
    exact hfiled.writes hdid hwrites

/-- **Every step keeps a state sound.** -/
theorem Sound.step {s' : DaemonState N} {event : DaemonEvent N} (h : Sound s)
    (hstep : DaemonStep c services did signingPrivateKey s event s') : Sound s' := by
  cases hstep with
  | entered _ _ hdid =>
    refine h.setTask (fun hnew hfound => ?_) fun hnew hkind => ?_
    · obtain rfl := Option.some.inj hnew
      cases hfound
    · obtain rfl := Option.some.inj hnew
      exact hdid hkind
  | began _ _ =>
    refine (h.recoveries _).setTask (fun hnew hfound => ?_) fun hnew hkind => ?_
    · obtain rfl := Option.some.inj hnew
      cases hfound
    · obtain rfl := Option.some.inj hnew
      exact absurd rfl hkind
  | read htask =>
    refine h.setTask (fun hnew hfound => ?_) fun hnew hkind => ?_
    · obtain rfl := Option.some.inj hnew
      obtain rfl := Option.some.inj hfound
      exact h.stored
    · obtain rfl := Option.some.inj hnew
      exact h.did htask hkind
  | transmitted => exact h
  | committed htask hsnapshot hcommits hpeer hwrite =>
    have hnext := h.committed htask hsnapshot hcommits hpeer hwrite
    refine (h.store hnext).setTask (fun hnew hfound => ?_) fun hnew hkind => ?_
    · obtain rfl := Option.some.inj hnew
      obtain rfl := Option.some.inj hfound
      exact hnext
    · obtain rfl := Option.some.inj hnew
      exact h.did htask hkind
  | ended _ _ => exact h.recoveries _
  | left =>
    refine h.setTask (fun hnew _ => ?_) fun hnew _ => ?_
    · cases hnew
    · cases hnew
  | maintenanceRead =>
    refine ⟨h.stored, h.snapshot, fun hfound => ?_, h.did⟩
    obtain rfl := Option.some.inj hfound
    exact h.stored
  | maintenanceCommitted hsnapshot hmaintain =>
    have hfiled := h.maintenance hsnapshot
    obtain ⟨hkeyed, hsessions⟩ := maintenance_fields hmaintain
    refine ⟨hfiled.of_sessions (hkeyed hfiled.keyed) hsessions, h.snapshot, fun hfound => ?_, h.did⟩
    cases hfound
  | reloaded => exact h.recoveries _

end

/-! ### A daemon to run -/

/-- Services that serialise an envelope as its id. -/
def sampleServices : EnvelopeServices where
  parseJson _ := none
  stringifyJson value := utf8ToBytes ((value.stringProperty "id").getD "")
  verifySignature _ := some true

/-- A configuration without sessions is filed. -/
theorem Filed.of_sampleConfig (deviceId : String) (seed : UInt8) (count : ℕ) :
    Filed (sampleConfig deviceId seed count) := by
  have hnone (slot : SessionSlot) : sessionAt (sampleConfig deviceId seed count) slot = none := by
    rw [sessionAt, sampleConfig, createInitialLocalE2EConfig, Record.get?_single]
    split
    · rfl
    · rfl
  refine ⟨sampleConfig_keyed deviceId seed count, fun hfound => ?_, fun hfound => ?_⟩
  · rw [hnone] at hfound
    cases hfound
  · rw [hnone] at hfound
    cases hfound

/-- A daemon that has just been started on a configuration. -/
def restingState (config : LocalE2EConfig) : DaemonState ℕ where
  e2eConfig := config
  peerRecoveryStates := Record.empty
  peerTasks _ := none
  maintenance := none

theorem restingState_starting {config : LocalE2EConfig} (h : Filed config) :
    (restingState config).Starting := ⟨h, fun _ => rfl, rfl⟩

/-- A recovery that awaits its acknowledgement. -/
def decryptFailed : PeerRecoveryState ℕ where
  epoch := 3000
  startedAt := 3000
  reason := "decrypt-failed"
  awaitingAck := true

/-- Alice's message to a peer with one device. -/
def sampleSend (seed : UInt8) (peerDid : String) (recipient : LocalDeviceState) :
    PeerOperation :=
  .encrypt (sampleAmbient seed 2000)
    { id := "msg-" ++ toString seed.toNat
      sender := "did:agent:zAlice"
      receiver := peerDid
      type := .message
      protocol := "/agent/msg/1.0.0"
      payload := .object []
      timestamp := 2000
      signature := ""
      replyTo := none
      threadId := none
      groupId := none }
    (buildPublishedDeviceDirectoryEntry recipient) (some (sampleBundle recipient true))

/-- Alice's configuration once a first message to Bob has been accepted. -/
@[irreducible] def aliceSent : LocalE2EConfig :=
  ((sampleSend 90 "did:agent:zBob" bobDevice).write sample sampleServices "did:agent:zAlice"
    aliceConfig).get (by decide +kernel)

theorem aliceSent_eq :
    (sampleSend 90 "did:agent:zBob" bobDevice).write sample sampleServices "did:agent:zAlice"
      aliceConfig = some aliceSent := by
  unfold aliceSent
  exact (Option.some_get _).symm

/-- The slot of Bob's device. -/
def bobSlot : SessionSlot := peerSlot "device-a" "did:agent:zBob" "device-b"

end QuadraA.Runtime
