import QuadraA.CliRs.RecoveryCoordinator
import QuadraA.Runtime.DaemonTasks

/-!
# Session locks of the Rust daemon

`daemon.rs` guards the sessions with a peer by a lock and by the recovery barrier.  A relay event
takes both under the sender that the relay names; the session it opens stands under the sender
inside the envelope, who has signed it but need not have delivered it.

* `sessions_locked` — sessions change under the lock of their peer only, and nothing new is stored
  while the peer is recovering, in every run of steps that keep to the peer of their lock;
* `session_relayed` — an agent relays an envelope that another one has signed.

`with_locked_config_transaction` is a load and a save: its process lock is re-entrant, and the
tasks of the daemon run on several threads.  The E2E functions of `quadra_a_core` write the same
configurations as those of the JS packages, so the operations are the ones modelled there.
-/

namespace QuadraA.CliRs

open QuadraA.Lib QuadraA.E2E QuadraA.Messaging
open QuadraA.Runtime (PeerRecoveryState PeerOperation WellFormedDid Filed NothingNew
  maintainCurrentDevicePreKeyHealth)

/-! ### Tasks -/

/-- What holds the session lock of a peer: `handle_send`, the receipt of an E2E transport envelope,
`replay_outbound_messages`, or a control envelope, a manual reset and a failed receipt. -/
inductive TaskKind where
  | send
  | receive
  | replay
  | recover
deriving DecidableEq

/-- Sends and replays hold `outbound_send_lock` as well. -/
def TaskKind.sends : TaskKind → Bool
  | .send | .replay => true
  | .receive | .recover => false

/-- What a send or a replay does to its copy of the configuration.  A send builds its envelope for
the peer whose lock it holds; a replay takes the envelope out of a stored message. -/
def TaskKind.prepares : TaskKind → String → PeerOperation → Bool
  | .send, peerDid, .encrypt _ applicationEnvelope _ _ => applicationEnvelope.receiver = peerDid
  | .replay, _, .encrypt .. => true
  | .replay, peerDid, .clear cleared => cleared = peerDid
  | _, _, _ => false

variable {operation : PeerOperation} {p : String → Prop} {config config' next : LocalE2EConfig}

theorem TaskKind.sends_of_prepares {kind : TaskKind} {peerDid : String}
    (h : kind.prepares peerDid operation = true) : kind.sends = true := by
  cases kind with
  | send => rfl
  | replay => rfl
  | receive => cases h
  | recover => cases h

/-- What a receipt or a recovery saves in one transaction.  The envelope of a receipt may come from
anybody. -/
def TaskKind.saves : TaskKind → String → PeerOperation → Bool
  | .receive, _, .receive .. => true
  | .recover, peerDid, .clear cleared => cleared = peerDid
  | _, _, _ => false

/-- A configuration that a task has loaded; the copy it works on, and the `accepted_config`s it has
prepared, the first one to be committed first. -/
structure Transaction where
  loaded : LocalE2EConfig
  working : LocalE2EConfig
  prepared : List LocalE2EConfig
deriving DecidableEq

structure SessionTask where
  kind : TaskKind
  transaction : Option Transaction
deriving DecidableEq

/-- **The daemon at an `await`**, as far as sessions and their locks are concerned; `e2e` is the
section of the configuration on disk. -/
structure TaskState where
  e2e : LocalE2EConfig
  peerRecoveries : Record String (PeerRecoveryState ℕ)
  sessionTasks : String → Option SessionTask
  outboundSendLock : Option String
  maintenance : Option LocalE2EConfig

inductive SessionEvent where
  | entered (peerDid : String) (kind : TaskKind)
  | began (peerDid : String) (recovery : PeerRecoveryState ℕ)
  | loaded (peerDid : String)
  | prepared (peerDid : String) (operation : PeerOperation)
  | accepted (peerDid : String)
  | saved (peerDid : String) (operation : PeerOperation)
  | ended (peerDid : String)
  | left (peerDid : String)
  | maintenanceLoaded
  | maintenanceSaved
  | reloaded

def TaskState.setTask (s : TaskState) (peerDid : String) (task : Option SessionTask) : TaskState :=
  { s with sessionTasks := Function.update s.sessionTasks peerDid task }

@[simp] theorem setTask_peerRecoveries (s : TaskState) (peerDid : String)
    (task : Option SessionTask) :
    (s.setTask peerDid task).peerRecoveries = s.peerRecoveries := rfl

variable {s : TaskState}

/-- A task that is found after the change is the new one, or belongs to another peer. -/
theorem setTask_sessionTasks {peerDid peerDid' : String} {task : Option SessionTask}
    {found : SessionTask} (h : (s.setTask peerDid task).sessionTasks peerDid' = some found) :
    (peerDid' = peerDid ∧ task = some found) ∨
      (peerDid' ≠ peerDid ∧ s.sessionTasks peerDid' = some found) := by
  rw [TaskState.setTask] at h
  by_cases hpeer : peerDid' = peerDid
  · subst hpeer
    simp only [Function.update_self] at h
    exact Or.inl ⟨rfl, h⟩
  · simp only [Function.update_of_ne hpeer] at h
    exact Or.inr ⟨hpeer, h⟩

/-- The barrier, which a send and a receipt check under the lock they have taken.  A replay has been
scheduled before it waits for its locks, and checks nothing more. -/
def TaskState.Admits (s : TaskState) (peerDid : String) (kind : TaskKind) : Prop :=
  kind = .send ∨ kind = .receive → s.peerRecoveries.get? peerDid = none

/-- The list of prepared configurations after one more operation.  A replay clears the sessions in
its working copy only. -/
def Transaction.push (transaction : Transaction) (operation : PeerOperation)
    (next : LocalE2EConfig) : Transaction :=
  match operation with
  | .clear _ => { transaction with working := next }
  | _ => { transaction with working := next, prepared := transaction.prepared ++ [next] }

/-- **What a task does between two `await`s.**  The receiver of an encryption has a card that was
verified under its DID, the sender of a received envelope has signed it, and the peer of a replay has
signed the request for it. -/
inductive SessionStep (c : Primitives) (services : EnvelopeServices) (did : String)
    (signingPrivateKey : Bytes) (s : TaskState) : SessionEvent → TaskState → Prop
  | entered {peerDid : String} {kind : TaskKind} :
      s.sessionTasks peerDid = none → (kind.sends = true → s.outboundSendLock = none) →
      s.Admits peerDid kind →
      SessionStep c services did signingPrivateKey s (.entered peerDid kind)
        ({ s with
          outboundSendLock := if kind.sends then some peerDid else s.outboundSendLock }.setTask
            peerDid (some { kind, transaction := none }))
  | began {peerDid : String} {task : SessionTask} {recovery : PeerRecoveryState ℕ} :
      s.sessionTasks peerDid = some task → task.kind = .receive ∨ task.kind = .recover →
      SessionStep c services did signingPrivateKey s (.began peerDid recovery)
        ({ s with peerRecoveries := s.peerRecoveries.set peerDid recovery }.setTask peerDid
          (some { kind := .recover, transaction := none }))
  | loaded {peerDid : String} {task : SessionTask} :
      s.sessionTasks peerDid = some task →
      SessionStep c services did signingPrivateKey s (.loaded peerDid)
        (s.setTask peerDid (some { task with
          transaction := some { loaded := s.e2e, working := s.e2e, prepared := [] } }))
  | prepared {peerDid : String} {task : SessionTask} {transaction : Transaction}
      {operation : PeerOperation} {next : LocalE2EConfig} :
      s.sessionTasks peerDid = some task → task.transaction = some transaction →
      task.kind.prepares peerDid operation = true → WellFormedDid operation.peerDid →
      operation.write c services did transaction.working = some next →
      SessionStep c services did signingPrivateKey s (.prepared peerDid operation)
        (s.setTask peerDid (some { task with
          transaction := some (transaction.push operation next) }))
  | accepted {peerDid : String} {task : SessionTask} {transaction : Transaction}
      {accepted : LocalE2EConfig} {rest : List LocalE2EConfig} :
      s.sessionTasks peerDid = some task → task.transaction = some transaction →
      transaction.prepared = accepted :: rest →
      SessionStep c services did signingPrivateKey s (.accepted peerDid)
        ({ s with e2e := accepted }.setTask peerDid (some { task with
          transaction := some { transaction with loaded := accepted, prepared := rest } }))
  | saved {peerDid : String} {task : SessionTask} {transaction : Transaction}
      {operation : PeerOperation} {next : LocalE2EConfig} :
      s.sessionTasks peerDid = some task → task.transaction = some transaction →
      task.kind.saves peerDid operation = true →
      (task.kind = .receive → WellFormedDid operation.peerDid) →
      operation.write c services did transaction.loaded = some next →
      SessionStep c services did signingPrivateKey s (.saved peerDid operation)
        ({ s with e2e := next }.setTask peerDid (some { task with transaction := none }))
  | ended {peerDid : String} {task : SessionTask} :
      s.sessionTasks peerDid = some task → task.kind = .recover →
      SessionStep c services did signingPrivateKey s (.ended peerDid)
        { s with peerRecoveries := s.peerRecoveries.erase peerDid }
  | left {peerDid : String} :
      SessionStep c services did signingPrivateKey s (.left peerDid)
        ({ s with
          outboundSendLock :=
            if s.outboundSendLock = some peerDid then none else s.outboundSendLock }.setTask
          peerDid none)
  | maintenanceLoaded :
      SessionStep c services did signingPrivateKey s .maintenanceLoaded
        { s with maintenance := some s.e2e }
  | maintenanceSaved {amb : DeviceAmbient} {loaded next : LocalE2EConfig} :
      s.maintenance = some loaded →
      maintainCurrentDevicePreKeyHealth c amb signingPrivateKey loaded = some next →
      SessionStep c services did signingPrivateKey s .maintenanceSaved
        { s with e2e := next, maintenance := none }
  | reloaded :
      SessionStep c services did signingPrivateKey s .reloaded
        { s with peerRecoveries := Record.empty }

/-! ### Sessions of some peers -/

/-- **The same sessions** with every peer that `p` holds of. -/
def SameSessions (p : String → Prop) (config config' : LocalE2EConfig) : Prop :=
  ∀ slot session, p session.peerDid →
    (sessionAt config slot = some session ↔ sessionAt config' slot = some session)

theorem SameSessions.refl (p : String → Prop) (config : LocalE2EConfig) :
    SameSessions p config config := fun _ _ _ => Iff.rfl

theorem SameSessions.symm (h : SameSessions p config config') : SameSessions p config' config :=
  fun slot session hpeer => (h slot session hpeer).symm

theorem SameSessions.trans {config'' : LocalE2EConfig} (h : SameSessions p config config')
    (h' : SameSessions p config' config'') : SameSessions p config config'' :=
  fun slot session hpeer => (h slot session hpeer).trans (h' slot session hpeer)

theorem SameSessions.mono {q : String → Prop} (h : SameSessions p config config')
    (hpq : ∀ peerDid, q peerDid → p peerDid) : SameSessions q config config' :=
  fun slot session hpeer => h slot session (hpq _ hpeer)

/-- With every other peer, an operation leaves the sessions as they are. -/
theorem SameSessions.of_writes {c : Primitives} {services : EnvelopeServices} {did : String}
    (hfiled : Filed config) (hdid : WellFormedDid operation.peerDid)
    (h : operation.write c services did config = some next) :
    SameSessions (· ≠ operation.peerDid) next config :=
  fun _ _ hother => (PeerOperation.write_eq_some.mp h).frame hfiled hdid hother

/-! ### Steps that keep to the peer of their lock -/

/-- The sessions with other peers are still stored as the task of a peer has loaded them. -/
def TaskState.Current (s : TaskState) (peerDid : String) : Prop :=
  ∀ task transaction, s.sessionTasks peerDid = some task → task.transaction = some transaction →
    SameSessions (· ≠ peerDid) transaction.loaded s.e2e

/-- **The condition of a step.**  A replay gets its locks outside a recovery; the message that it
sends again, the envelope that is received and the reset name the peer of the lock, which is a DID;
and no session of another peer has changed between a load and the write that follows it. -/
def KeepsToPeer (s : TaskState) : SessionEvent → Prop
  | .entered peerDid .replay => s.peerRecoveries.get? peerDid = none
  | .prepared peerDid operation => operation.peerDid = peerDid
  | .accepted peerDid => s.Current peerDid
  | .saved peerDid operation =>
      operation.peerDid = peerDid ∧ WellFormedDid peerDid ∧ s.Current peerDid
  | .maintenanceSaved => ∀ loaded, s.maintenance = some loaded →
      SameSessions (fun _ => True) loaded s.e2e
  | _ => True

def LockedStep (c : Primitives) (services : EnvelopeServices) (did : String)
    (signingPrivateKey : Bytes) (s : TaskState) (event : SessionEvent) (s' : TaskState) : Prop :=
  SessionStep c services did signingPrivateKey s event s' ∧ KeepsToPeer s event

/-! ### The invariant -/

/-- **A transaction under the lock of a peer**: its copies differ from what it has loaded in
sessions of that peer only, and the sessions of that peer are stored as it has loaded them. -/
structure Transaction.Sound (transaction : Transaction) (kind : TaskKind) (peerDid : String)
    (stored : LocalE2EConfig) : Prop where
  loaded : Filed transaction.loaded
  copies : ∀ config ∈ transaction.working :: transaction.prepared,
    Filed config ∧ SameSessions (· ≠ peerDid) config transaction.loaded
  own : SameSessions (· = peerDid) transaction.loaded stored
  unsent : kind.sends = false → transaction.prepared = []

/-- **The invariant of a run**: what is stored is filed, the transactions are sound, and the lock
of a recovering peer is held by its recovery. -/
structure TaskState.Sound (s : TaskState) : Prop where
  stored : Filed s.e2e
  maintenance : ∀ loaded, s.maintenance = some loaded → Filed loaded
  transaction : ∀ peerDid task transaction, s.sessionTasks peerDid = some task →
    task.transaction = some transaction → transaction.Sound task.kind peerDid s.e2e
  barred : ∀ peerDid task, (s.peerRecoveries.get? peerDid).isSome = true →
    s.sessionTasks peerDid = some task → task.kind = .recover

/-- A daemon that has just been started. -/
structure TaskState.Starting (s : TaskState) : Prop where
  stored : Filed s.e2e
  tasks : ∀ peerDid, s.sessionTasks peerDid = none
  maintenance : s.maintenance = none

theorem TaskState.Sound.of_starting (h : s.Starting) : s.Sound := by
  refine ⟨h.stored, fun loaded hloaded => ?_, fun peerDid task transaction htask => ?_,
    fun peerDid task _ htask => ?_⟩
  · rw [h.maintenance] at hloaded
    cases hloaded
  · rw [h.tasks] at htask
    cases htask
  · rw [h.tasks] at htask
    cases htask

theorem Transaction.Sound.of_loaded (h : Filed config) (kind : TaskKind) (peerDid : String) :
    Transaction.Sound { loaded := config, working := config, prepared := [] } kind peerDid
      config := by
  refine ⟨h, fun copy hcopy => ?_, SameSessions.refl _ _, fun _ => rfl⟩
  rw [List.mem_singleton] at hcopy
  rw [hcopy]
  exact ⟨h, SameSessions.refl _ _⟩

/-- A write that changes no session of the peer. -/
theorem Transaction.Sound.store {transaction : Transaction} {kind : TaskKind} {peerDid : String}
    {stored : LocalE2EConfig} (h : transaction.Sound kind peerDid stored)
    (hsame : SameSessions (· = peerDid) next stored) : transaction.Sound kind peerDid next :=
  ⟨h.loaded, h.copies, h.own.trans hsame.symm, h.unsent⟩

section

variable {c : Primitives} {services : EnvelopeServices} {did : String} {signingPrivateKey : Bytes}
  {start s s' : TaskState} {event : SessionEvent} {events : List SessionEvent}

variable {transaction : Transaction} {next before after : LocalE2EConfig}
  {operation : PeerOperation} {task : SessionTask}

/-- **One more operation** of the peer on the working copy. -/
theorem Transaction.Sound.push {kind : TaskKind} {peerDid : String} {stored : LocalE2EConfig}
    (h : transaction.Sound kind peerDid stored) (hprepares : kind.prepares peerDid operation = true)
    (hpeer : operation.peerDid = peerDid) (hdid : WellFormedDid operation.peerDid)
    (hwrite : operation.write c services did transaction.working = some next) :
    (transaction.push operation next).Sound kind peerDid stored := by
  obtain ⟨hworking, hsame⟩ := h.copies _ List.mem_cons_self
  have hnext : Filed next := hworking.writes hdid (PeerOperation.write_eq_some.mp hwrite)
  have hframe := SameSessions.of_writes hworking hdid hwrite
  rw [hpeer] at hframe
  have hcopy : Filed next ∧ SameSessions (· ≠ peerDid) next transaction.loaded :=
    ⟨hnext, hframe.trans hsame⟩
  have hold (config : LocalE2EConfig) (hmem : config ∈ transaction.prepared) :=
    h.copies config (List.mem_cons_of_mem _ hmem)
  have hcleared : Transaction.Sound { transaction with working := next } kind peerDid stored := by
    refine ⟨h.loaded, fun config hconfig => ?_, h.own, h.unsent⟩
    rcases List.mem_cons.mp hconfig with rfl | hmem
    · exact hcopy
    · exact hold config hmem
  have hpushed : Transaction.Sound
      { transaction with working := next, prepared := transaction.prepared ++ [next] }
      kind peerDid stored := by
    refine ⟨h.loaded, fun config hconfig => ?_, h.own, fun hunsent => ?_⟩
    rcases List.mem_cons.mp hconfig with rfl | hmem
    · exact hcopy
    · rcases List.mem_append.mp hmem with hmem | hmem
      · exact hold config hmem
      · rw [List.mem_singleton.mp hmem]
        exact hcopy
    · rw [TaskKind.sends_of_prepares hprepares] at hunsent
      cases hunsent
  cases operation with
  | encrypt => exact hpushed
  | receive => exact hpushed
  | clear => exact hcleared

/-- **A new holder of a lock**, while what is stored keeps the sessions of every other peer. -/
theorem TaskState.Sound.setTask (h : s.Sound) {peerDid : String} {task : Option SessionTask}
    (lock : Option String) (hnext : Filed next) (hsame : SameSessions (· ≠ peerDid) next s.e2e)
    (htransaction : ∀ found transaction, task = some found →
      found.transaction = some transaction → transaction.Sound found.kind peerDid next)
    (hbarred : ∀ found, (s.peerRecoveries.get? peerDid).isSome = true → task = some found →
      found.kind = .recover) :
    (({ s with e2e := next, outboundSendLock := lock } : TaskState).setTask peerDid task).Sound := by
  refine ⟨hnext, h.maintenance, fun peer found transaction hfound hloaded => ?_,
    fun peer found hrecovering hfound => ?_⟩
  · rcases setTask_sessionTasks hfound with ⟨rfl, hnew⟩ | ⟨hne, hold⟩
    · exact htransaction found transaction hnew hloaded
    · refine (h.transaction peer found transaction hold hloaded).store ?_
      exact hsame.mono fun other hother => by rw [hother]; exact hne
  · rcases setTask_sessionTasks hfound with ⟨rfl, hnew⟩ | ⟨_, hold⟩
    · exact hbarred found hrecovering hnew
    · exact h.barred peer found hrecovering hold

/-- **What an accepted send writes** differs from what is stored in sessions of its peer only. -/
theorem TaskState.Sound.accepted (h : s.Sound) {peerDid : String} {accepted : LocalE2EConfig}
    {rest : List LocalE2EConfig} (hcurrent : s.Current peerDid)
    (htask : s.sessionTasks peerDid = some task)
    (htransaction : task.transaction = some transaction)
    (hprepared : transaction.prepared = accepted :: rest) :
    Filed accepted ∧ SameSessions (· ≠ peerDid) accepted s.e2e := by
  have hsound := h.transaction peerDid task transaction htask htransaction
  have hmem : accepted ∈ transaction.working :: transaction.prepared := by
    rw [hprepared]
    exact List.mem_cons_of_mem _ List.mem_cons_self
  obtain ⟨hfiled, hsame⟩ := hsound.copies accepted hmem
  exact ⟨hfiled, hsame.trans (hcurrent task transaction htask htransaction)⟩

/-- **What a receipt or a recovery saves** differs from what is stored in sessions of its peer
only. -/
theorem TaskState.Sound.saved (h : s.Sound) {peerDid : String} (hpeer : operation.peerDid = peerDid)
    (hdid : WellFormedDid peerDid) (hcurrent : s.Current peerDid)
    (htask : s.sessionTasks peerDid = some task)
    (htransaction : task.transaction = some transaction)
    (hwrite : operation.write c services did transaction.loaded = some next) :
    Filed next ∧ SameSessions (· ≠ peerDid) next s.e2e := by
  subst hpeer
  have hsound := h.transaction _ task transaction htask htransaction
  have hframe := SameSessions.of_writes hsound.loaded hdid hwrite
  exact ⟨hsound.loaded.writes hdid (PeerOperation.write_eq_some.mp hwrite),
    hframe.trans (hcurrent task transaction htask htransaction)⟩

/-- **What the maintenance saves** holds the sessions that are stored. -/
theorem TaskState.Sound.maintained (h : s.Sound) {amb : DeviceAmbient} {loaded : LocalE2EConfig}
    (hloaded : s.maintenance = some loaded) (hcurrent : SameSessions (fun _ => True) loaded s.e2e)
    (hmaintain : maintainCurrentDevicePreKeyHealth c amb signingPrivateKey loaded = some next) :
    Filed next ∧ SameSessions (fun _ => True) next s.e2e := by
  have hfiled := h.maintenance loaded hloaded
  obtain ⟨hkeyed, hsessions⟩ := Runtime.maintenance_fields hmaintain
  refine ⟨hfiled.of_sessions (hkeyed hfiled.keyed) hsessions, fun slot session hpeer => ?_⟩
  rw [hsessions]
  exact hcurrent slot session hpeer

/-- **Every step that keeps to the peer of its lock** keeps a state sound. -/
theorem TaskState.Sound.step (h : s.Sound)
    (hstep : LockedStep c services did signingPrivateKey s event s') : s'.Sound := by
  obtain ⟨hstep, hkeeps⟩ := hstep
  cases hstep with
  | @entered peerDid kind _ _ hadmits =>
    refine h.setTask _ h.stored (SameSessions.refl _ _) (fun found transaction hnew hfound => ?_)
      fun found hrecovering hnew => ?_
    · obtain rfl := Option.some.inj hnew
      cases hfound
    · obtain rfl := Option.some.inj hnew
      have hopen (hnone : s.peerRecoveries.get? peerDid = none) : kind = .recover := by
        rw [hnone] at hrecovering
        cases hrecovering
      cases kind with
      | send => exact hopen (hadmits (Or.inl rfl))
      | receive => exact hopen (hadmits (Or.inr rfl))
      | replay => exact hopen hkeeps
      | recover => rfl
  | @began peerDid task recovery _ _ =>
    refine ⟨h.stored, h.maintenance, fun peer found transaction hfound hloaded => ?_,
      fun peer found hrecovering hfound => ?_⟩
    · rcases setTask_sessionTasks hfound with ⟨_, hnew⟩ | ⟨_, hold⟩
      · obtain rfl := Option.some.inj hnew
        cases hloaded
      · exact h.transaction peer found transaction hold hloaded
    · rcases setTask_sessionTasks hfound with ⟨_, hnew⟩ | ⟨hne, hold⟩
      · obtain rfl := Option.some.inj hnew
        rfl
      · have hother : (s.peerRecoveries.set peerDid recovery).get? peer
            = s.peerRecoveries.get? peer := Record.get?_set_ne _ _ (Ne.symm hne)
        rw [setTask_peerRecoveries, hother] at hrecovering
        exact h.barred peer found hrecovering hold
  | @loaded peerDid task htask =>
    refine h.setTask _ h.stored (SameSessions.refl _ _) (fun found transaction hnew hfound => ?_)
      fun found hrecovering hnew => ?_
    · obtain rfl := Option.some.inj hnew
      obtain rfl := Option.some.inj hfound
      exact .of_loaded h.stored task.kind peerDid
    · obtain rfl := Option.some.inj hnew
      exact h.barred peerDid task hrecovering htask
  | @prepared peerDid task transaction operation next htask htransaction hprepares hdid hwrite =>
    have hsound := h.transaction peerDid task transaction htask htransaction
    refine h.setTask _ h.stored (SameSessions.refl _ _) (fun found pushed hnew hfound => ?_)
      fun found hrecovering hnew => ?_
    · obtain rfl := Option.some.inj hnew
      obtain rfl := Option.some.inj hfound
      exact hsound.push hprepares hkeeps hdid hwrite
    · obtain rfl := Option.some.inj hnew
      exact h.barred peerDid task hrecovering htask
  | @accepted peerDid task transaction accepted rest htask htransaction hprepared =>
    obtain ⟨hfiled, hsame⟩ := h.accepted hkeeps htask htransaction hprepared
    have hsound := h.transaction peerDid task transaction htask htransaction
    refine h.setTask _ hfiled hsame (fun found transaction' hnew hfound => ?_)
      fun found hrecovering hnew => ?_
    · obtain rfl := Option.some.inj hnew
      obtain rfl := Option.some.inj hfound
      have hloaded := (hsound.copies accepted
        (by rw [hprepared]; exact List.mem_cons_of_mem _ List.mem_cons_self)).2
      refine ⟨hfiled, fun config hconfig => ?_, SameSessions.refl _ _, fun hunsent => ?_⟩
      · have hmem : config ∈ transaction.working :: transaction.prepared := by
          rw [hprepared]
          rcases List.mem_cons.mp hconfig with rfl | hrest
          · exact List.mem_cons_self
          · exact List.mem_cons_of_mem _ (List.mem_cons_of_mem _ hrest)
        obtain ⟨hcopy, hcopySame⟩ := hsound.copies config hmem
        exact ⟨hcopy, hcopySame.trans hloaded.symm⟩
      · rw [hsound.unsent hunsent] at hprepared
        cases hprepared
    · obtain rfl := Option.some.inj hnew
      exact h.barred peerDid task hrecovering htask
  | @saved peerDid task transaction operation next htask htransaction _ _ hwrite =>
    obtain ⟨hpeer, hdid, hcurrent⟩ := hkeeps
    obtain ⟨hfiled, hsame⟩ := h.saved hpeer hdid hcurrent htask htransaction hwrite
    refine h.setTask _ hfiled hsame (fun found transaction' hnew hfound => ?_)
      fun found hrecovering hnew => ?_
    · obtain rfl := Option.some.inj hnew
      cases hfound
    · obtain rfl := Option.some.inj hnew
      exact h.barred peerDid task hrecovering htask
  | @ended peerDid _ _ _ =>
    refine ⟨h.stored, h.maintenance, h.transaction, fun peer found hrecovering hfound => ?_⟩
    refine h.barred peer found ?_ hfound
    have herased : (s.peerRecoveries.erase peerDid).get? peer
        = if peerDid = peer then none else s.peerRecoveries.get? peer := Record.get?_erase _ _ _
    rw [herased] at hrecovering
    split at hrecovering
    · cases hrecovering
    · exact hrecovering
  | left =>
    refine h.setTask _ h.stored (SameSessions.refl _ _) (fun found transaction hnew _ => ?_)
      fun found _ hnew => ?_
    · cases hnew
    · cases hnew
  | maintenanceLoaded =>
    refine ⟨h.stored, fun loaded hloaded => ?_, h.transaction, h.barred⟩
    obtain rfl := Option.some.inj hloaded
    exact h.stored
  | maintenanceSaved hloaded hmaintain =>
    obtain ⟨hfiled, hsame⟩ := h.maintained hloaded (hkeeps _ hloaded) hmaintain
    refine ⟨hfiled, fun loaded hfound => (by cases hfound),
      fun peer found transaction hfound htransaction => ?_, h.barred⟩
    refine (h.transaction peer found transaction hfound htransaction).store ?_
    exact hsame.mono fun _ _ => trivial
  | reloaded =>
    refine ⟨h.stored, h.maintenance, h.transaction, fun peer found hrecovering _ => ?_⟩
    cases hrecovering

/-- **Every run** of such steps stays sound. -/
theorem TaskState.Sound.run (h : start.Sound)
    (hrun : Trace (LockedStep c services did signingPrivateKey) start events s) : s.Sound := by
  induction hrun with
  | nil => exact h
  | snoc _ hlast ih => exact ih.step hlast

/-! ### Sessions under their lock -/

/-- The sessions with a peer are not the same after a step. -/
def SessionsChange (peerDid : String) (before after : LocalE2EConfig) : Prop :=
  ¬SameSessions (· = peerDid) after before

theorem not_sessionsChange (peerDid : String) (config : LocalE2EConfig) :
    ¬SessionsChange peerDid config config := fun h => h (SameSessions.refl _ _)

/-- What changes the sessions with a peer, and nothing of the others, is for that peer. -/
theorem SessionsChange.peer {peerDid peerDid' : String} (h : SessionsChange peerDid before after)
    (hsame : SameSessions (· ≠ peerDid') after before) : peerDid' = peerDid := by
  by_contra hne
  exact h (hsame.mono fun other hother => by rw [hother]; exact Ne.symm hne)

/-- A step by a task of another peer stores nothing new. -/
theorem SameSessions.nothingNew {p : String → Prop} {peerDid : String}
    (h : SameSessions p after before) (hpeer : p peerDid) : NothingNew peerDid before after := by
  intro slot session hsession hstored
  have hp : p session.peerDid := by rw [hsession]; exact hpeer
  exact (h slot session hp).mp hstored

/-- The task of a recovering peer has prepared nothing. -/
theorem TaskState.Sound.unprepared (h : s.Sound) {peerDid : String}
    (hrecovering : (s.peerRecoveries.get? peerDid).isSome = true)
    (htask : s.sessionTasks peerDid = some task)
    (htransaction : task.transaction = some transaction) : transaction.prepared = [] := by
  have hkind := h.barred peerDid task hrecovering htask
  refine (h.transaction peerDid task transaction htask htransaction).unsent ?_
  rw [hkind]
  rfl

/-- The task of a recovering peer only clears. -/
theorem TaskState.Sound.cleared (h : s.Sound) {peerDid : String}
    (hrecovering : (s.peerRecoveries.get? peerDid).isSome = true)
    (htask : s.sessionTasks peerDid = some task)
    (htransaction : task.transaction = some transaction)
    (hsaves : task.kind.saves peerDid operation = true)
    (hwrite : operation.write c services did transaction.loaded = some next) :
    NothingNew peerDid s.e2e next := by
  have hkind := h.barred peerDid task hrecovering htask
  have hsound := h.transaction peerDid task transaction htask htransaction
  rw [hkind] at hsaves
  cases PeerOperation.write_eq_some.mp hwrite with
  | encrypt => cases hsaves
  | initiate => cases hsaves
  | consume => cases hsaves
  | decrypt => cases hsaves
  | clear _ =>
    intro slot session hpeer hstored
    rw [Runtime.sessionAt_of_clear] at hstored
    split at hstored
    · cases hstored
    · exact (hsound.own slot session hpeer).mp hstored

/-- **Sessions change under the right lock.**  In every run of steps that keep to the peer of their
lock, a session is created, advanced or removed by the task that holds the lock of its peer; and
while a recovery state exists for the peer, no session with it is created, advanced or stored. -/
theorem sessions_locked (hstart : start.Starting)
    (hrun : Trace (LockedStep c services did signingPrivateKey) start events s)
    (hstep : LockedStep c services did signingPrivateKey s event s') (peerDid : String) :
    (SessionsChange peerDid s.e2e s'.e2e →
      (s.sessionTasks peerDid).isSome = true ∧
        (event = .accepted peerDid ∨ ∃ operation, event = .saved peerDid operation)) ∧
    ((s.peerRecoveries.get? peerDid).isSome = true →
      (∀ holder operation, event = .prepared holder operation → operation.peerDid ≠ peerDid) ∧
        NothingNew peerDid s.e2e s'.e2e) := by
  have hsound := (TaskState.Sound.of_starting hstart).run hrun
  obtain ⟨hstep, hkeeps⟩ := hstep
  have hquiet (hsame : s'.e2e = s.e2e)
      (hprepared : ∀ holder operation, event ≠ .prepared holder operation) :
      (SessionsChange peerDid s.e2e s'.e2e →
        (s.sessionTasks peerDid).isSome = true ∧
          (event = .accepted peerDid ∨ ∃ operation, event = .saved peerDid operation)) ∧
      ((s.peerRecoveries.get? peerDid).isSome = true →
        (∀ holder operation, event = .prepared holder operation → operation.peerDid ≠ peerDid) ∧
          NothingNew peerDid s.e2e s'.e2e) := by
    rw [hsame]
    exact ⟨fun hchange => absurd hchange (not_sessionsChange _ _),
      fun _ => ⟨fun holder operation hevent => absurd hevent (hprepared holder operation),
        NothingNew.refl _ _⟩⟩
  cases hstep with
  | @prepared holder task transaction operation next htask htransaction hprepares _ hwrite =>
    refine ⟨fun hchange => absurd hchange (not_sessionsChange _ _),
      fun hrecovering => ⟨fun holder' operation' hevent hpeer => ?_, NothingNew.refl _ _⟩⟩
    obtain ⟨rfl, rfl⟩ := SessionEvent.prepared.inj hevent
    have hholder : operation.peerDid = holder := hkeeps
    rw [hholder] at hpeer
    subst hpeer
    -- the task of a recovering peer runs its recovery, which prepares nothing
    rw [hsound.barred holder task hrecovering htask] at hprepares
    cases hprepares
  | @accepted holder task transaction accepted rest htask htransaction hprepared =>
    obtain ⟨_, hsame⟩ := hsound.accepted hkeeps htask htransaction hprepared
    refine ⟨fun hchange => ?_, fun hrecovering => ⟨fun _ _ hevent => (by cases hevent), ?_⟩⟩
    · obtain rfl := hchange.peer hsame
      exact ⟨by rw [htask]; rfl, Or.inl rfl⟩
    · refine hsame.nothingNew fun hpeer => ?_
      subst hpeer
      rw [hsound.unprepared hrecovering htask htransaction] at hprepared
      cases hprepared
  | @saved holder task transaction operation next htask htransaction hsaves _ hwrite =>
    obtain ⟨hpeer, hdid, hcurrent⟩ := hkeeps
    obtain ⟨_, hsame⟩ := hsound.saved hpeer hdid hcurrent htask htransaction hwrite
    refine ⟨fun hchange => ?_, fun hrecovering => ⟨fun _ _ hevent => (by cases hevent), ?_⟩⟩
    · obtain rfl := hchange.peer hsame
      exact ⟨by rw [htask]; rfl, Or.inr ⟨operation, rfl⟩⟩
    · by_cases hholder : peerDid = holder
      · subst hholder
        exact hsound.cleared hrecovering htask htransaction hsaves hwrite
      · exact hsame.nothingNew hholder
  | maintenanceSaved hloaded hmaintain =>
    obtain ⟨_, hsame⟩ := hsound.maintained hloaded (hkeeps _ hloaded) hmaintain
    exact ⟨fun hchange => absurd (hsame.mono fun _ _ => trivial) hchange,
      fun _ => ⟨fun _ _ hevent => (by cases hevent), hsame.nothingNew trivial⟩⟩
  | entered => exact hquiet rfl fun _ _ hevent => (by cases hevent)
  | began => exact hquiet rfl fun _ _ hevent => (by cases hevent)
  | loaded => exact hquiet rfl fun _ _ hevent => (by cases hevent)
  | ended => exact hquiet rfl fun _ _ hevent => (by cases hevent)
  | left => exact hquiet rfl fun _ _ hevent => (by cases hevent)
  | maintenanceLoaded => exact hquiet rfl fun _ _ hevent => (by cases hevent)
  | reloaded => exact hquiet rfl fun _ _ hevent => (by cases hevent)

end

/-! ### Runs of one daemon -/

/-- A daemon that has just been started on a configuration. -/
def restingTasks (config : LocalE2EConfig) : TaskState where
  e2e := config
  peerRecoveries := Record.empty
  sessionTasks _ := none
  outboundSendLock := none
  maintenance := none

theorem restingTasks_starting (h : Filed config) :
    (restingTasks config).Starting := ⟨h, fun _ => rfl, rfl⟩
/-- While Carol is recovering, a message to Bob is accepted. -/
theorem sessions_locked_sample : NothingNew "did:agent:zCarol" aliceConfig Runtime.aliceSent := by
  have hstart := restingTasks_starting (Filed.of_sampleConfig "device-a" 10 2)
  have hrun : Trace (LockedStep sample Runtime.sampleServices "did:agent:zAlice" [10])
      (restingTasks aliceConfig) [] (restingTasks aliceConfig) := .nil
  have hentered := hrun.snoc ⟨@SessionStep.entered _ _ _ _ _ "did:agent:zCarol" .recover rfl
    (fun h => by cases h) (by rintro (h | h) <;> cases h), trivial⟩
  have hbegan := hentered.snoc ⟨@SessionStep.began _ _ _ _ _ "did:agent:zCarol"
    { kind := .recover, transaction := none } Runtime.decryptFailed rfl (Or.inr rfl), trivial⟩
  have hsends := hbegan.snoc ⟨@SessionStep.entered _ _ _ _ _ "did:agent:zBob" .send rfl
    (fun _ => rfl) (fun _ => by decide), trivial⟩
  have hloaded := hsends.snoc ⟨@SessionStep.loaded _ _ _ _ _ "did:agent:zBob"
    { kind := .send, transaction := none } rfl, trivial⟩
  have hprepared := hloaded.snoc ⟨@SessionStep.prepared _ _ _ _ _ "did:agent:zBob"
    { kind := .send, transaction := some _ } _ (Runtime.sampleSend 90 "did:agent:zBob" bobDevice)
    Runtime.aliceSent rfl rfl rfl (by decide) Runtime.aliceSent_eq, rfl⟩
  refine ((sessions_locked hstart hprepared ⟨@SessionStep.accepted _ _ _ _ _ "did:agent:zBob"
    { kind := .send, transaction := some _ } _ Runtime.aliceSent [] rfl rfl rfl, ?_⟩
    "did:agent:zCarol").2 rfl).2
  intro task transaction htask htransaction
  obtain rfl := Option.some.inj htask
  obtain rfl := Option.some.inj htransaction
  exact SameSessions.refl _ _

/-- The envelope that Bob signs for Alice. -/
def bobEnvelope : MessageEnvelope where
  id := "msg-92"
  sender := "did:agent:zBob"
  receiver := "did:agent:zAlice"
  type := .message
  protocol := "/agent/msg/1.0.0"
  payload := .object []
  timestamp := 2000
  signature := ""
  replyTo := none
  threadId := none
  groupId := none

@[irreducible] def bobBuilt : BuildInitiatorPreKeyMessageResult :=
  valueOf (buildInitiatorPreKeyMessage sample (sampleAmbient 92 2000)
    { sampleBuild bobConfig "did:agent:zBob" "did:agent:zAlice" aliceDevice true
        (utf8ToBytes "msg-92") with messageId := some "msg-92" }) (by decide +kernel)

/-- The sample primitives, with a codec that reads Bob's message back. -/
def relaySample : Primitives :=
  { sample with
    decodeCBOR := fun data =>
      if data = encodePreKeyMessage sample bobBuilt.message then
        some (.map (preKeyMessageFields bobBuilt.message.toPreKeyMessageHeader
          ++ [("ciphertext", .bytes bobBuilt.message.ciphertext)]))
      else none }

/-- Services that serialise an envelope as its id, and read Bob's envelope back. -/
def relayServices : EnvelopeServices :=
  { Runtime.sampleServices with
    parseJson := fun bytes => if bytes = utf8ToBytes "msg-92" then some bobEnvelope.toJson else none }

/-- Bob's transport envelope, which anybody may deliver. -/
def bobTransport : MessageEnvelope :=
  { bobEnvelope with
    protocol := E2E_APPLICATION_ENVELOPE_PROTOCOL
    payload := (buildEncryptedApplicationEnvelopePayload (.prekey bobBuilt.message)
      (encodePreKeyMessage sample bobBuilt.message)).toJson }

def bobReceipt : PeerOperation := .receive (sampleAmbient 93 2001) bobTransport

/-- The first message is admitted, whoever has delivered it. -/
theorem bobTransport_admits :
    Runtime.Admits relaySample relayServices bobTransport (.prekey bobBuilt.message)
      (utf8ToBytes "msg-92") := by
  have hversion : bobBuilt.message.version = E2E_PROTOCOL_VERSION := by
    unfold bobBuilt
    decide +kernel
  have hrouting : bobBuilt.message.senderDid = "did:agent:zBob" ∧
      bobBuilt.message.receiverDid = "did:agent:zAlice" ∧
      bobBuilt.message.messageId = "msg-92" := by
    unfold bobBuilt
    decide +kernel
  obtain ⟨hsender, hreceiver, hid⟩ := hrouting
  have hdecode : decodePreKeyMessage relaySample (encodePreKeyMessage sample bobBuilt.message)
      = .ok bobBuilt.message := decodePreKeyMessage_of_fields hversion (if_pos rfl)
  refine ⟨rfl, rfl, ⟨_, assertEncryptedApplicationEnvelopePayload_toJson _, ?_⟩,
    decodeEncryptedApplicationEnvelopePayload_build (fun inner hinner => ?_)
      (fun inner hinner => by cases hinner), bobEnvelope, rfl, ?_, rfl⟩
  · simp [assertTransportEnvelopeMatchesMessage, bobTransport, bobEnvelope, WireMessage.senderDid,
      WireMessage.receiverDid, WireMessage.messageId, hsender, hreceiver, hid,
      buildEncryptedApplicationEnvelopePayload]
  · obtain rfl := WireMessage.prekey.inj hinner
    exact hdecode
  · simp [assertApplicationEnvelopeMatchesMessage, bobEnvelope, WireMessage.senderDid,
      WireMessage.receiverDid, WireMessage.messageId, hsender, hreceiver, hid]

@[irreducible] def aliceConsumed : ConsumeResponderPreKeyMessageResult :=
  valueOf (consumeResponderPreKeyMessage relaySample (sampleAmbient 93 2001)
    { e2eConfig := aliceConfig, receiverDid := "did:agent:zAlice", message := bobBuilt.message })
    (by decide +kernel)

theorem aliceConsumed_eq :
    bobReceipt.write relaySample relayServices "did:agent:zAlice" aliceConfig
      = some aliceConsumed.e2eConfig := by
  have hconsume : consumeResponderPreKeyMessage relaySample (sampleAmbient 93 2001)
      { e2eConfig := aliceConfig, receiverDid := "did:agent:zAlice", message := bobBuilt.message }
      = .ok aliceConsumed := by
    unfold aliceConsumed
    exact eq_ok_valueOf _ _
  have hplaintext : aliceConsumed.plaintext = utf8ToBytes "msg-92" := by
    unfold aliceConsumed
    decide +kernel
  refine PeerOperation.write_eq_some.mpr (.consume ?_ hconsume)
  rw [hplaintext]
  exact bobTransport_admits

/-- **An envelope that somebody else delivers.**  While Alice recovers from a session reset with
Bob, Eve relays a first message that Bob has signed: the receipt holds the lock of Eve, passes the
barrier of Eve, and stores a session with Bob. -/
theorem session_relayed :
    ∃ events s s', Trace (SessionStep relaySample relayServices "did:agent:zAlice" [10])
        (restingTasks aliceConfig) events s ∧
      s.sessionTasks "did:agent:zBob" = none ∧
      (s.peerRecoveries.get? "did:agent:zBob").isSome = true ∧
      SessionStep relaySample relayServices "did:agent:zAlice" [10] s
        (.saved "did:agent:zEve" bobReceipt) s' ∧
      SessionsChange "did:agent:zBob" s.e2e s'.e2e ∧
      ¬NothingNew "did:agent:zBob" s.e2e s'.e2e := by
  have hrun : Trace (SessionStep relaySample relayServices "did:agent:zAlice" [10])
      (restingTasks aliceConfig) [] (restingTasks aliceConfig) := .nil
  have hresets := hrun.snoc (@SessionStep.entered _ _ _ _ _ "did:agent:zBob" .recover rfl
    (fun h => by cases h) (by rintro (h | h) <;> cases h))
  have hbegan := hresets.snoc (@SessionStep.began _ _ _ _ _ "did:agent:zBob"
    { kind := .recover, transaction := none } Runtime.decryptFailed rfl (Or.inr rfl))
  have hleft := hbegan.snoc (@SessionStep.left _ _ _ _ _ "did:agent:zBob")
  have hreceives := hleft.snoc (@SessionStep.entered _ _ _ _ _ "did:agent:zEve" .receive rfl
    (fun h => by cases h) (fun _ => by decide))
  have hloaded := hreceives.snoc (@SessionStep.loaded _ _ _ _ _ "did:agent:zEve"
    { kind := .receive, transaction := none } rfl)
  have hnew : ¬NothingNew "did:agent:zBob" aliceConfig aliceConsumed.e2eConfig := by
    intro hnothing
    have hnone : sessionAt aliceConfig Runtime.bobSlot = none := by decide +kernel
    have hstored : (sessionAt aliceConsumed.e2eConfig Runtime.bobSlot).map (·.peerDid)
        = some "did:agent:zBob" := by
      unfold aliceConsumed
      decide +kernel
    obtain ⟨session, hsession, hpeer⟩ := Option.map_eq_some_iff.mp hstored
    have hbefore : sessionAt aliceConfig Runtime.bobSlot = some session :=
      hnothing Runtime.bobSlot session hpeer hsession
    rw [hnone] at hbefore
    cases hbefore
  exact ⟨_, _, _, hloaded, rfl, rfl, @SessionStep.saved _ _ _ _ _ "did:agent:zEve"
    { kind := .receive, transaction := some _ } _ bobReceipt aliceConsumed.e2eConfig rfl rfl rfl
    (fun _ => by decide) aliceConsumed_eq,
    fun hsame => hnew (hsame.nothingNew rfl), hnew⟩

end QuadraA.CliRs
