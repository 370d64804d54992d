import QuadraA.Runtime.DaemonTasks

/-!
# The recovery barrier

While a recovery with a peer is running, its sessions have been cleared and both sides wait for the
agreement on a new epoch.  Nothing may bring a session back, and nothing may be sent on one.

* `recovery_barrier` — the barrier holds in every run in which a replay starts only outside a
  recovery and no write brings back a session of a recovering peer from an older snapshot;
* `barrier_broken` — a replay that was waiting for the locks when the recovery began.
-/

namespace QuadraA.Runtime

open QuadraA.Lib QuadraA.E2E QuadraA.Messaging

section

variable {N : Type}

/-- A snapshot that holds no session of a recovering peer that is no longer stored. -/
def DaemonState.Fresh (s : DaemonState N) (snapshot : LocalE2EConfig) : Prop :=
  ∀ peerDid, (s.peerRecoveryStates.get? peerDid).isSome = true →
    NothingNew peerDid s.e2eConfig snapshot

/-- **The condition of a step**: a replay gets its locks only outside a recovery of its peer, and a
write starts from a fresh snapshot. -/
structure Careful (s : DaemonState N) (event : DaemonEvent N) : Prop where
  replays : ∀ peerDid, event = .entered peerDid .replay → s.peerRecoveryStates.get? peerDid = none
  commits : ∀ peerDid operation task snapshot, event = .committed peerDid operation →
    s.peerTasks peerDid = some task → task.snapshot = some snapshot → s.Fresh snapshot
  maintains : ∀ snapshot, event = .maintenanceCommitted → s.maintenance = some snapshot →
    s.Fresh snapshot

def BarrierStep (c : Primitives) (services : EnvelopeServices) (did : String)
    (signingPrivateKey : Bytes) (s : DaemonState N) (event : DaemonEvent N)
    (s' : DaemonState N) : Prop :=
  DaemonStep c services did signingPrivateKey s event s' ∧ Careful s event

/-- **The invariant**: the task that holds the locks of a recovering peer runs its recovery. -/
def Barred (s : DaemonState N) : Prop :=
  ∀ peerDid task, (s.peerRecoveryStates.get? peerDid).isSome = true →
    s.peerTasks peerDid = some task → task.kind = .recover

variable {c : Primitives} {services : EnvelopeServices} {did : String} {signingPrivateKey : Bytes}
  {start s s' : DaemonState N} {event : DaemonEvent N} {events : List (DaemonEvent N)}

/-- A task of the same kind takes the place of the one that held the locks. -/
theorem Barred.setTask (h : Barred s) {peerDid : String} {task : Option PeerTask}
    (htask : ∀ found, task = some found → (s.peerRecoveryStates.get? peerDid).isSome = true →
      found.kind = .recover) : Barred (s.setTask peerDid task) := by
  intro peer found hrecovering hfound
  rcases setTask_peerTasks hfound with ⟨rfl, hnew⟩ | ⟨_, hold⟩
  · exact htask found hnew hrecovering
  · exact h peer found hrecovering hold

/-- **Every careful step keeps the locks of a recovering peer with its recovery.** -/
theorem Barred.step (h : Barred s) (hstep : BarrierStep c services did signingPrivateKey s event s') :
    Barred s' := by
  obtain ⟨hstep, hcareful⟩ := hstep
  cases hstep with
  | @entered peerDid kind hfree hadmits _ =>
    refine h.setTask fun found hnew hrecovering => ?_
    obtain rfl := Option.some.inj hnew
    have hopen (hnone : s.peerRecoveryStates.get? peerDid = none) : kind = .recover := by
      rw [hnone] at hrecovering
      cases hrecovering
    cases kind with
    | send => exact hopen (hadmits (Or.inl rfl))
    | receive => exact hopen (hadmits (Or.inr rfl))
    | replay => exact hopen (hcareful.replays peerDid rfl)
    | recover => rfl
  | @began peerDid task recovery _ _ =>
    intro peer found hrecovering hfound
    rcases setTask_peerTasks hfound with ⟨_, hnew⟩ | ⟨hne, hold⟩
    · obtain rfl := Option.some.inj hnew
      rfl
    · have hother : (s.peerRecoveryStates.set peerDid recovery).get? peer
          = s.peerRecoveryStates.get? peer := Record.get?_set_ne _ _ (Ne.symm hne)
      rw [setTask_peerRecoveryStates, hother] at hrecovering
      exact h peer found hrecovering hold
  | read htask =>
    refine h.setTask fun found hnew hrecovering => ?_
    have hkind := h _ _ hrecovering htask
    obtain rfl := Option.some.inj hnew
    exact hkind
  | transmitted => exact h
  | @committed _ _ _ next _ htask _ _ _ _ =>
    have hstored : Barred { s with e2eConfig := next } := h
    refine hstored.setTask fun found hnew hrecovering => ?_
    have hkind := h _ _ hrecovering htask
    obtain rfl := Option.some.inj hnew
    exact hkind
  | @ended peerDid _ _ _ =>
    intro peer found hrecovering hfound
    refine h peer found ?_ hfound
    have herased : (s.peerRecoveryStates.erase peerDid).get? peer
        = if peerDid = peer then none else s.peerRecoveryStates.get? peer :=
      Record.get?_erase _ _ _
    rw [herased] at hrecovering
    split at hrecovering
    · cases hrecovering
    · exact hrecovering
  | left =>
    refine h.setTask fun found hnew _ => ?_
    cases hnew
  | maintenanceRead => exact h
  | maintenanceCommitted _ _ => exact h
  | reloaded =>
    intro peer found hrecovering _
    cases hrecovering

theorem Barred.of_starting (h : start.Starting) : Barred start := by
  intro peerDid task _ htask
  rw [h.tasks] at htask
  cases htask

/-- Careful runs are sound and barred. -/
theorem barred_of_run (hstart : start.Starting)
    (hrun : Trace (BarrierStep c services did signingPrivateKey) start events s) :
    Sound s ∧ Barred s := by
  induction hrun with
  | nil => exact ⟨.of_starting hstart, .of_starting hstart⟩
  | snoc _ hlast ih => exact ⟨ih.1.step hlast.1, ih.2.step hlast⟩

/-- **A commit** stores no session of a recovering peer. -/
theorem nothingNew_of_commit (hsound : Sound s) (hbarred : Barred s) {peerDid peer : String}
    {task : PeerTask} {snapshot next : LocalE2EConfig} {operation : PeerOperation}
    (htask : s.peerTasks peerDid = some task) (hsnapshot : task.snapshot = some snapshot)
    (hcommits : task.kind.commits operation = true) (hpeer : operation.peerDid = peerDid)
    (hwrite : operation.write c services did snapshot = some next)
    (hfresh : NothingNew peer s.e2eConfig snapshot)
    (hrecovering : (s.peerRecoveryStates.get? peer).isSome = true) :
    NothingNew peer s.e2eConfig next := by
  intro slot session hsession hstored
  refine hfresh slot session hsession ?_
  have hwrites := PeerOperation.write_eq_some.mp hwrite
  by_cases hkind : task.kind = .recover
  · -- what a clearing leaves was in the snapshot
    rw [hkind] at hcommits
    cases hwrites with
    | clear _ =>
      rw [sessionAt_of_clear] at hstored
      split at hstored
      · cases hstored
      · exact hstored
    | encrypt => cases hcommits
    | initiate => cases hcommits
    | consume => cases hcommits
    | decrypt => cases hcommits
  · -- any other task belongs to a peer that is not recovering
    have hother : session.peerDid ≠ operation.peerDid := by
      intro hsame
      rw [← hsession, hsame, hpeer] at hrecovering
      exact hkind (hbarred peerDid task hrecovering htask)
    have hdid := hsound.did htask hkind
    rw [← hpeer] at hdid
    exact (hwrites.frame (hsound.snapshot htask hsnapshot) hdid hother).mp hstored

/-- **The recovery barrier.**  In every run of careful steps, while a recovery with a peer is
running, no transport envelope is sent to the peer and no session with it is created, advanced or
stored. -/
theorem recovery_barrier (hstart : start.Starting)
    (hrun : Trace (BarrierStep c services did signingPrivateKey) start events s)
    (hstep : BarrierStep c services did signingPrivateKey s event s') {peerDid : String}
    (hrecovering : (s.peerRecoveryStates.get? peerDid).isSome = true) :
    (∀ operation, event ≠ .transmitted peerDid operation) ∧
      NothingNew peerDid s.e2eConfig s'.e2eConfig := by
  obtain ⟨hsound, hbarred⟩ := barred_of_run hstart hrun
  obtain ⟨hstep, hcareful⟩ := hstep
  cases hstep with
  | transmitted htask hkind _ _ _ =>
    refine ⟨fun operation hevent => ?_, NothingNew.refl _ _⟩
    obtain ⟨rfl, _⟩ := DaemonEvent.transmitted.inj hevent
    rw [hbarred _ _ hrecovering htask] at hkind
    rcases hkind with hkind | hkind
    · cases hkind
    · cases hkind
  | committed htask hsnapshot hcommits hpeer hwrite =>
    refine ⟨fun operation hevent => (by cases hevent), ?_⟩
    have hfresh := hcareful.commits _ _ _ _ rfl htask hsnapshot peerDid hrecovering
    exact nothingNew_of_commit hsound hbarred htask hsnapshot hcommits hpeer hwrite hfresh
      hrecovering
  | @maintenanceCommitted _ _ next hsnapshot hmaintain =>
    refine ⟨fun operation hevent => (by cases hevent), fun slot session hsession hstored => ?_⟩
    have hstored' : sessionAt next slot = some session := hstored
    rw [(maintenance_fields hmaintain).2] at hstored'
    exact hcareful.maintains _ rfl hsnapshot peerDid hrecovering slot session hsession hstored'
  | entered => exact ⟨fun operation hevent => (by cases hevent), NothingNew.refl _ _⟩
  | began => exact ⟨fun operation hevent => (by cases hevent), NothingNew.refl _ _⟩
  | read => exact ⟨fun operation hevent => (by cases hevent), NothingNew.refl _ _⟩
  | ended => exact ⟨fun operation hevent => (by cases hevent), NothingNew.refl _ _⟩
  | left => exact ⟨fun operation hevent => (by cases hevent), NothingNew.refl _ _⟩
  | maintenanceRead => exact ⟨fun operation hevent => (by cases hevent), NothingNew.refl _ _⟩
  | reloaded => exact ⟨fun operation hevent => (by cases hevent), NothingNew.refl _ _⟩

end

/-! ### Runs of one daemon -/

/-- While Carol is recovering, a message to Bob is accepted. -/
theorem recovery_barrier_sample : NothingNew "did:agent:zCarol" aliceConfig aliceSent := by
  have hstart := restingState_starting (Filed.of_sampleConfig "device-a" 10 2)
  have hquiet {s : DaemonState ℕ} {event : DaemonEvent ℕ}
      (hreplay : ∀ peerDid, event ≠ .entered peerDid .replay)
      (hcommit : ∀ peerDid operation, event ≠ .committed peerDid operation)
      (hmaintain : event ≠ .maintenanceCommitted) : Careful s event :=
    ⟨fun peerDid h => absurd h (hreplay peerDid), fun _ _ _ _ h => absurd h (hcommit _ _),
      fun _ h => absurd h hmaintain⟩
  have hrun : Trace (BarrierStep sample sampleServices "did:agent:zAlice" [10])
      (restingState aliceConfig) [] (restingState aliceConfig) := .nil
  have hentered := hrun.snoc ⟨@DaemonStep.entered ℕ _ _ _ _ _ "did:agent:zCarol" .recover rfl
    (by rintro (h | h) <;> cases h) (fun h => absurd rfl h),
    hquiet (fun _ h => by cases h) (fun _ _ h => by cases h) (fun h => by cases h)⟩
  have hbegan := hentered.snoc ⟨@DaemonStep.began ℕ _ _ _ _ _ "did:agent:zCarol"
    { kind := .recover, snapshot := none } decryptFailed rfl (Or.inr rfl),
    hquiet (fun _ h => by cases h) (fun _ _ h => by cases h) (fun h => by cases h)⟩
  have hsends := hbegan.snoc ⟨@DaemonStep.entered ℕ _ _ _ _ _ "did:agent:zBob" .send rfl
    (fun _ => by decide) (fun _ => by decide),
    hquiet (fun _ h => by cases h) (fun _ _ h => by cases h) (fun h => by cases h)⟩
  have hread := hsends.snoc ⟨@DaemonStep.read ℕ _ _ _ _ _ "did:agent:zBob"
    { kind := .send, snapshot := none } rfl,
    hquiet (fun _ h => by cases h) (fun _ _ h => by cases h) (fun h => by cases h)⟩
  refine (recovery_barrier hstart hread ⟨@DaemonStep.committed ℕ _ _ _ _ _ "did:agent:zBob"
    { kind := .send, snapshot := some aliceConfig } aliceConfig aliceSent
    (sampleSend 90 "did:agent:zBob" bobDevice) rfl rfl rfl rfl aliceSent_eq, ?_⟩ rfl).2
  refine ⟨fun _ h => (by cases h), fun peerDid operation task snapshot hevent htask hfound => ?_,
    fun _ h => (by cases h)⟩
  obtain ⟨rfl, rfl⟩ := DaemonEvent.committed.inj hevent
  obtain rfl := Option.some.inj htask
  obtain rfl := Option.some.inj hfound
  exact fun peer _ => NothingNew.refl peer aliceConfig

/-- **A replay that was waiting** for the locks while the recovery began: it sends a transport
envelope to the recovering peer, and stores the session it was sealed on. -/
theorem barrier_broken :
    ∃ events, ∃ s : DaemonState ℕ, ∃ sent s', ∃ operation,
      Trace (DaemonStep sample sampleServices "did:agent:zAlice" [10]) (restingState aliceConfig)
        events s ∧
      (s.peerRecoveryStates.get? "did:agent:zBob").isSome = true ∧
      DaemonStep sample sampleServices "did:agent:zAlice" [10] s
        (.transmitted "did:agent:zBob" operation) sent ∧
      (sent.peerRecoveryStates.get? "did:agent:zBob").isSome = true ∧
      DaemonStep sample sampleServices "did:agent:zAlice" [10] sent
        (.committed "did:agent:zBob" operation) s' ∧
      ¬NothingNew "did:agent:zBob" sent.e2eConfig s'.e2eConfig := by
  have hrun : Trace (DaemonStep sample sampleServices "did:agent:zAlice" [10])
      (restingState aliceConfig) [] (restingState aliceConfig) := .nil
  have hreceives := hrun.snoc (@DaemonStep.entered ℕ _ _ _ _ _ "did:agent:zBob" .receive rfl
    (fun _ => rfl) (fun _ => by decide))
  have hbegan := hreceives.snoc (@DaemonStep.began ℕ _ _ _ _ _ "did:agent:zBob"
    { kind := .receive, snapshot := none } decryptFailed rfl (Or.inl rfl))
  have hleft := hbegan.snoc (@DaemonStep.left ℕ _ _ _ _ _ "did:agent:zBob")
  have hreplays := hleft.snoc (@DaemonStep.entered ℕ _ _ _ _ _ "did:agent:zBob" .replay rfl
    (by rintro (h | h) <;> cases h) (fun _ => by decide))
  have hread := hreplays.snoc (@DaemonStep.read ℕ _ _ _ _ _ "did:agent:zBob"
    { kind := .replay, snapshot := none } rfl)
  refine ⟨_, _, _, _, sampleSend 90 "did:agent:zBob" bobDevice, hread, rfl,
    @DaemonStep.transmitted ℕ _ _ _ _ _ "did:agent:zBob"
      { kind := .replay, snapshot := some aliceConfig } aliceConfig aliceSent _ rfl (Or.inr rfl)
      rfl rfl aliceSent_eq, rfl,
    @DaemonStep.committed ℕ _ _ _ _ _ "did:agent:zBob"
      { kind := .replay, snapshot := some aliceConfig } aliceConfig aliceSent _ rfl rfl rfl rfl
      aliceSent_eq, ?_⟩
  intro hnothing
  have hnone : sessionAt aliceConfig bobSlot = none := by decide +kernel
  have hstored : (sessionAt aliceSent bobSlot).map (·.peerDid) = some "did:agent:zBob" := by
    unfold aliceSent
    decide +kernel
  obtain ⟨session, hsession, hpeer⟩ := Option.map_eq_some_iff.mp hstored
  have hbefore : sessionAt aliceConfig bobSlot = some session :=
    hnothing bobSlot session hpeer hsession
  rw [hnone] at hbefore
  cases hbefore

end QuadraA.Runtime
