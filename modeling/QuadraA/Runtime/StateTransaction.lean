import QuadraA.E2E.SamplePrimitives
import QuadraA.Runtime.StateLock

/-!
# Transactions on the E2E state

`withLocalE2EStateTransaction` of `e2e-state.ts`: under the process lock, the stored configuration
is read, completed, handed to a callback and written back as a whole.

* `transactions_serial` — the stored configuration is that of the committed transactions, one after
  the other, in every run in which no write intervenes between a read and the write that follows it;
* `update_overwritten` — two transactions of one process that hold the lock together.
-/

set_option linter.unusedSectionVars false

namespace QuadraA.Runtime

open QuadraA.Lib QuadraA.E2E QuadraA.Messaging

/-! ### The configuration -/

structure IdentityConfig where
  did : String
  publicKey : HexString
  privateKey : HexString

structure DeviceIdentity where
  seed : String
  deviceId : String
deriving DecidableEq

structure AgentCardConfig where
  name : String
  description : String
  capabilities : List String

/-- `config.json`.  The reachability policy is kept as the value it is. -/
structure QuadraAConfig where
  identity : Option IdentityConfig := none
  deviceIdentity : Option DeviceIdentity := none
  agentCard : Option AgentCardConfig := none
  e2e : Option LocalE2EConfig := none
  published : Option Bool := none
  relayInviteToken : Option String := none
  reachabilityPolicy : Option JsonValue := none
  aliases : Option (Record String String) := none

/-- The stored configuration that passes as one, if it does. -/
def validLocalE2EConfig (config : Option LocalE2EConfig) : Option LocalE2EConfig :=
  config.filter fun e2e =>
    e2e.currentDeviceId != "" && (e2e.devices.get? e2e.currentDeviceId).isSome

def validDeviceIdentity (deviceIdentity : Option DeviceIdentity) : Option DeviceIdentity :=
  deviceIdentity.filter fun device => device.seed != "" && device.deviceId != ""

/-- What one transaction draws from its environment: the seed of a new device identity with the id
that `deriveDeviceId` makes of it, and the keys of a new device. -/
structure TransactionAmbient where
  seed : String
  derivedDeviceId : String
  device : DeviceAmbient

def createDeviceIdentity (amb : TransactionAmbient) (existingDeviceId : Option String) :
    DeviceIdentity where
  seed := amb.seed
  deviceId := existingDeviceId.getD amb.derivedDeviceId

/-- `LocalE2EStateTransactionContext`, with the variable `dirty` of its closure. -/
structure TransactionContext where
  config : QuadraAConfig
  e2eConfig : LocalE2EConfig
  deviceIdentity : DeviceIdentity
  created : Bool
  dirty : Bool

/-- The device identity of the configuration, or a new one, and whether it is new. -/
def ensureDeviceIdentity (amb : TransactionAmbient) (config : QuadraAConfig) :
    DeviceIdentity × Bool :=
  match validDeviceIdentity config.deviceIdentity with
  | some deviceIdentity => (deviceIdentity, false)
  | none =>
      (createDeviceIdentity amb ((validLocalE2EConfig config.e2e).map (·.currentDeviceId)), true)

def ensureTransactionState (c : Primitives) (signingPrivateKey : Bytes) (amb : TransactionAmbient)
    (config : QuadraAConfig) : TransactionContext :=
  let device := ensureDeviceIdentity amb config
  let nextConfig := { config with deviceIdentity := some device.1 }
  match validLocalE2EConfig config.e2e with
  | some e2eConfig =>
      { config := nextConfig
        e2eConfig := e2eConfig
        deviceIdentity := device.1
        created := false
        dirty := device.2 }
  | none =>
      let e2eConfig :=
        createInitialLocalE2EConfig c amb.device signingPrivateKey (some device.1.deviceId) {}
      { config := { nextConfig with e2e := some e2eConfig }
        e2eConfig := e2eConfig
        deviceIdentity := device.1
        created := true
        dirty := true }

def TransactionContext.setE2EConfig (context : TransactionContext) (next : LocalE2EConfig) :
    TransactionContext :=
  { context with
    e2eConfig := next
    config := { context.config with e2e := some next }
    dirty := true }

/-! ### One transaction alone -/

/-- **A transaction**: what it draws, and the functions of `context.e2eConfig` that its callback
passes to `setE2EConfig`, in order. -/
structure Transaction where
  ambient : TransactionAmbient
  updates : List (LocalE2EConfig → LocalE2EConfig)

section

variable (c : Primitives) (signingPrivateKey : Bytes)

/-- The context once the callback has made its updates; a missing file reads as `{}`. -/
def Transaction.context (transaction : Transaction) (stored : Option QuadraAConfig) :
    TransactionContext :=
  transaction.updates.foldl (fun context update => context.setE2EConfig (update context.e2eConfig))
    (ensureTransactionState c signingPrivateKey transaction.ambient (stored.getD {}))

/-- **The effect of a transaction** that runs alone. -/
def Transaction.run (stored : Option QuadraAConfig) (transaction : Transaction) :
    Option QuadraAConfig :=
  let context := transaction.context c signingPrivateKey stored
  if context.dirty then some context.config else stored

theorem Transaction.context_snoc (ambient : TransactionAmbient)
    (updates : List (LocalE2EConfig → LocalE2EConfig)) (update : LocalE2EConfig → LocalE2EConfig)
    (stored : Option QuadraAConfig) :
    let context := Transaction.context c signingPrivateKey { ambient, updates } stored
    Transaction.context c signingPrivateKey { ambient, updates := updates ++ [update] } stored
      = context.setE2EConfig (update context.e2eConfig) := by
  simp only [Transaction.context, List.foldl_append, List.foldl_cons, List.foldl_nil]

/-- A callback that has set anything leaves a context to be written. -/
theorem Transaction.updates_of_clean {transaction : Transaction} {stored : Option QuadraAConfig}
    (h : (transaction.context c signingPrivateKey stored).dirty = false) :
    transaction.updates = [] := by
  obtain ⟨ambient, updates⟩ := transaction
  cases updates using List.reverseRecOn with
  | nil => rfl
  | append_singleton updates update =>
    rw [Transaction.context_snoc] at h
    cases h

/-- **A transaction in progress**, with the snapshot it has read.  Its context is what the updates
so far make of the snapshot. -/
structure OpenTransaction where
  snapshot : Option QuadraAConfig
  transaction : Transaction
  context : TransactionContext
  built : context = transaction.context c signingPrivateKey snapshot

variable {c signingPrivateKey}

/-- `ensureTransactionState` on the snapshot. -/
def OpenTransaction.ensure (snapshot : Option QuadraAConfig) (ambient : TransactionAmbient) :
    OpenTransaction c signingPrivateKey where
  snapshot := snapshot
  transaction := { ambient, updates := [] }
  context := ensureTransactionState c signingPrivateKey ambient (snapshot.getD {})
  built := rfl

/-- `setE2EConfig` with a function of `context.e2eConfig`. -/
def OpenTransaction.set (opened : OpenTransaction c signingPrivateKey)
    (update : LocalE2EConfig → LocalE2EConfig) : OpenTransaction c signingPrivateKey where
  snapshot := opened.snapshot
  transaction :=
    { ambient := opened.transaction.ambient, updates := opened.transaction.updates ++ [update] }
  context := opened.context.setE2EConfig (update opened.context.e2eConfig)
  built := by
    rw [Transaction.context_snoc, opened.built]

/-- What a dirty transaction writes is its effect on its snapshot. -/
theorem OpenTransaction.config_eq (opened : OpenTransaction c signingPrivateKey)
    (hdirty : opened.context.dirty = true) :
    some opened.context.config
      = opened.transaction.run c signingPrivateKey opened.snapshot := by
  rw [opened.built] at hdirty ⊢
  rw [Transaction.run]
  simp only [hdirty, if_true]

end

/-! ### Interleaved transactions -/

/-- Where a task stands in `withLocalE2EStateTransaction`: not yet past `acquireProcessLock`, with
the snapshot it has read, in its callback, before the write, or before `releaseProcessLock`. -/
inductive TransactionPhase (c : Primitives) (signingPrivateKey : Bytes) where
  | waiting
  | loaded (snapshot : Option QuadraAConfig)
  | running (opened : OpenTransaction c signingPrivateKey)
  | writing (opened : OpenTransaction c signingPrivateKey) (dirty : opened.context.dirty = true)
  | finishing

/-- **The processes and the file**, at an `await`. -/
structure TransactionState (c : Primitives) (signingPrivateKey : Bytes) (P T : Type) where
  lock : LockState P T
  config : Option QuadraAConfig
  phases : P × T → TransactionPhase c signingPrivateKey

inductive TransactionEvent (P T : Type) where
  | lock (event : LockEvent P T)
  | read (task : P × T)
  | ensured (task : P × T) (ambient : TransactionAmbient)
  | set (task : P × T) (update : LocalE2EConfig → LocalE2EConfig)
  | completed (task : P × T) (transaction : Transaction)
  | returned (task : P × T)
  | wrote (task : P × T) (transaction : Transaction)
  | threw (task : P × T)

section

variable {c : Primitives} {signingPrivateKey : Bytes} {P T : Type} [DecidableEq P] [DecidableEq T]

def TransactionState.setPhase (s : TransactionState c signingPrivateKey P T) (task : P × T)
    (phase : TransactionPhase c signingPrivateKey) : TransactionState c signingPrivateKey P T :=
  { s with phases := Function.update s.phases task phase }

/-- A task that is not inside the lock is in no transaction. -/
def TransactionState.setLock (s : TransactionState c signingPrivateKey P T)
    (lock : LockState P T) : TransactionState c signingPrivateKey P T :=
  { s with
    lock := lock
    phases := fun task => if lock.tasks task = .inside then s.phases task else .waiting }

/-- **What happens between two `await`s.**  A transaction that has set nothing is complete when its
callback returns, any other one once it has written.  The callback may throw, and so may the
reading, the parsing and the writing of the file: the lock is released all the same. -/
inductive TransactionStep (s : TransactionState c signingPrivateKey P T) :
    TransactionEvent P T → TransactionState c signingPrivateKey P T → Prop
  | lock {event : LockEvent P T} {lock : LockState P T} :
      LockStep s.lock event lock →
      (∀ task, event = .released task → s.phases task = .finishing) →
      TransactionStep s (.lock event) (s.setLock lock)
  | read {task : P × T} :
      s.lock.tasks task = .inside → s.phases task = .waiting →
      TransactionStep s (.read task) (s.setPhase task (.loaded s.config))
  | ensured {task : P × T} {ambient : TransactionAmbient} {snapshot : Option QuadraAConfig} :
      s.phases task = .loaded snapshot →
      TransactionStep s (.ensured task ambient)
        (s.setPhase task (.running (.ensure snapshot ambient)))
  | set {task : P × T} {update : LocalE2EConfig → LocalE2EConfig}
      {opened : OpenTransaction c signingPrivateKey} :
      s.phases task = .running opened →
      TransactionStep s (.set task update) (s.setPhase task (.running (opened.set update)))
  | completed {task : P × T} {opened : OpenTransaction c signingPrivateKey} :
      s.phases task = .running opened → opened.context.dirty = false →
      TransactionStep s (.completed task opened.transaction) (s.setPhase task .finishing)
  | returned {task : P × T} {opened : OpenTransaction c signingPrivateKey}
      (dirty : opened.context.dirty = true) :
      s.phases task = .running opened →
      TransactionStep s (.returned task) (s.setPhase task (.writing opened dirty))
  | wrote {task : P × T} {opened : OpenTransaction c signingPrivateKey}
      {dirty : opened.context.dirty = true} :
      s.phases task = .writing opened dirty →
      TransactionStep s (.wrote task opened.transaction)
        ({ s with config := some opened.context.config }.setPhase task .finishing)
  | threw {task : P × T} :
      s.lock.tasks task = .inside →
      TransactionStep s (.threw task) (s.setPhase task .finishing)

/-! ### Serial runs -/

/-- **The condition of a step**: the file still is what the transaction that writes has read. -/
def TransactionState.Fresh (s : TransactionState c signingPrivateKey P T) :
    TransactionEvent P T → Prop
  | .wrote task _ => ∀ opened dirty, s.phases task = .writing opened dirty →
      opened.snapshot = s.config
  | _ => True

def FreshStep (s : TransactionState c signingPrivateKey P T) (event : TransactionEvent P T)
    (s' : TransactionState c signingPrivateKey P T) : Prop :=
  TransactionStep s event s' ∧ s.Fresh event

/-- The transaction that an event commits. -/
def TransactionEvent.committed : TransactionEvent P T → Option Transaction
  | .wrote _ transaction => some transaction
  | _ => none

/-- What an event does to the file, by its label alone. -/
def commit (c : Primitives) (signingPrivateKey : Bytes) (stored : Option QuadraAConfig)
    (event : TransactionEvent P T) : Option QuadraAConfig :=
  match event.committed with
  | some transaction => transaction.run c signingPrivateKey stored
  | none => stored

variable {s s' start : TransactionState c signingPrivateKey P T} {event : TransactionEvent P T}
  {events : List (TransactionEvent P T)}

/-- **Every fresh step** acts on the file as its transaction does alone. -/
theorem config_of_freshStep (hstep : FreshStep s event s') :
    s'.config = commit c signingPrivateKey s.config event := by
  obtain ⟨hstep, hfresh⟩ := hstep
  cases hstep with
  | @wrote task opened dirty hphase =>
    have hsnapshot : opened.snapshot = s.config := hfresh opened dirty hphase
    rw [← hsnapshot]
    exact opened.config_eq dirty
  | lock _ _ => rfl
  | read _ _ => rfl
  | ensured _ => rfl
  | set _ => rfl
  | completed _ _ => rfl
  | returned _ _ => rfl
  | threw _ => rfl

/-- A transaction that completes without a write has set nothing. -/
theorem updates_of_completed {task : P × T} {transaction : Transaction}
    (hstep : TransactionStep s (.completed task transaction) s') : transaction.updates = [] := by
  cases hstep with
  | @completed _ opened _ hclean =>
    rw [opened.built] at hclean
    exact Transaction.updates_of_clean c signingPrivateKey hclean

/-- **Serialisability.**  In every run of fresh steps, the file is what the committed transactions
make of it one after the other, and a successful transaction that has committed nothing has set
nothing. -/
theorem transactions_serial (hrun : Trace FreshStep start events s) :
    s.config = (events.filterMap TransactionEvent.committed).foldl
        (Transaction.run c signingPrivateKey) start.config ∧
      ∀ task transaction, .completed task transaction ∈ events → transaction.updates = [] := by
  constructor
  · rw [List.foldl_filterMap]
    have hfold := hrun.fold (·.config) (commit c signingPrivateKey) config_of_freshStep
    rw [hfold]
    congr 1
    funext stored event
    rw [commit]
    cases event.committed <;> rfl
  · induction hrun with
    | nil => exact fun _ _ hmem => absurd hmem List.not_mem_nil
    | snoc _ hlast ih =>
      intro task transaction hmem
      rcases List.mem_append.mp hmem with hold | hnew
      · exact ih task transaction hold
      · rw [← List.mem_singleton.mp hnew] at hlast
        exact updates_of_completed hlast.1

end

/-! ### Runs of one process -/

/-- A configuration that is complete. -/
def storedConfig : QuadraAConfig where
  deviceIdentity := some { seed := "5eed", deviceId := "device-a" }
  e2e := some aliceConfig

/-- One process with two tasks. -/
def restingTransactions : TransactionState sample [10] Unit Bool where
  lock :=
    { now := 0
      lockDir := none
      processes := fun _ => { processLockHolderId := none, processLockRefCount := 0 }
      tasks := fun _ => .outside }
  config := some storedConfig
  phases _ := .waiting

def sampleTransactionAmbient : TransactionAmbient where
  seed := "feed"
  derivedDeviceId := "device-f"
  device :=
    { deviceId := "device-f"
      identityKeyPair := samplePair 1
      signedPreKeyPair := samplePair 2
      oneTimePreKeyPair := fun _ => samplePair 3
      now := 2000 }

/-- A callback that stores one more device under the given id. -/
def storeDevice (deviceId : String) : Transaction where
  ambient := sampleTransactionAmbient
  updates := [fun e2e => { e2e with devices := e2e.devices.set deviceId bobDevice }]

/-- Whether a device is stored under the id. -/
def hasDevice (deviceId : String) (config : Option QuadraAConfig) : Bool :=
  ((config.bind (·.e2e)).bind fun e2e => e2e.devices.get? deviceId).isSome

/-- A transaction alone in its process. -/
theorem transactions_serial_sample :
    ∃ s : TransactionState sample [10] Unit Bool,
      s.config = [storeDevice "device-x"].foldl (Transaction.run sample [10])
        (some storedConfig) := by
  have hrun : Trace FreshStep restingTransactions [] restingTransactions := .nil
  have hstarted := hrun.snoc ⟨.lock (@LockStep.started _ _ _ _ _ ((), true) "holder" rfl rfl)
    nofun, trivial⟩
  have hmade := hstarted.snoc ⟨.lock (@LockStep.made _ _ _ _ _ ((), true) _ _ rfl rfl) nofun,
    trivial⟩
  have hwrote := hmade.snoc ⟨.lock (@LockStep.wrote _ _ _ _ _ ((), true) _ _ rfl rfl) nofun,
    trivial⟩
  have hacquired := hwrote.snoc ⟨.lock (@LockStep.acquired _ _ _ _ _ ((), true) _ rfl) nofun,
    trivial⟩
  have hread := hacquired.snoc ⟨@TransactionStep.read _ _ _ _ _ _ _ ((), true) rfl rfl, trivial⟩
  have hensured := hread.snoc ⟨@TransactionStep.ensured _ _ _ _ _ _ _ ((), true)
    sampleTransactionAmbient _ rfl, trivial⟩
  have hset := hensured.snoc ⟨@TransactionStep.set _ _ _ _ _ _ _ ((), true)
    (fun e2e => { e2e with devices := e2e.devices.set "device-x" bobDevice }) _ rfl, trivial⟩
  have hreturned := hset.snoc ⟨@TransactionStep.returned _ _ _ _ _ _ _ ((), true) _ rfl rfl,
    trivial⟩
  have hcommitted := hreturned.snoc ⟨@TransactionStep.wrote _ _ _ _ _ _ _ ((), true) _ rfl rfl,
    fun opened dirty hphase => by
      obtain ⟨rfl, _⟩ := TransactionPhase.writing.inj hphase
      rfl⟩
  exact ⟨_, (transactions_serial hcommitted).1⟩

/-- **Two transactions of one process.**  The second one enters by the reference count while the
callback of the first one is awaited, and both have read the same file: what the first one has
stored is lost. -/
theorem update_overwritten :
    ∃ events, ∃ s : TransactionState sample [10] Unit Bool,
      Trace TransactionStep restingTransactions events s ∧
      events.filterMap TransactionEvent.committed
        = [storeDevice "device-x", storeDevice "device-y"] ∧
      s.config ≠ [storeDevice "device-x", storeDevice "device-y"].foldl
        (Transaction.run sample [10]) (some storedConfig) ∧
      s.config ≠ [storeDevice "device-y", storeDevice "device-x"].foldl
        (Transaction.run sample [10]) (some storedConfig) := by
  have hrun : Trace TransactionStep restingTransactions [] restingTransactions := .nil
  have hstarted := hrun.snoc (.lock (@LockStep.started _ _ _ _ _ ((), true) "holder" rfl rfl) nofun)
  have hmade := hstarted.snoc (.lock (@LockStep.made _ _ _ _ _ ((), true) _ _ rfl rfl) nofun)
  have hwrote := hmade.snoc (.lock (@LockStep.wrote _ _ _ _ _ ((), true) _ _ rfl rfl) nofun)
  have hacquired := hwrote.snoc (.lock (@LockStep.acquired _ _ _ _ _ ((), true) _ rfl) nofun)
  have hread := hacquired.snoc (@TransactionStep.read _ _ _ _ _ _ _ ((), true) rfl rfl)
  have hensured := hread.snoc (@TransactionStep.ensured _ _ _ _ _ _ _ ((), true)
    sampleTransactionAmbient _ rfl)
  have henters := hensured.snoc (.lock (@LockStep.entered _ _ _ _ _ ((), false) _ rfl rfl
    Nat.one_pos) nofun)
  have hreads := henters.snoc (@TransactionStep.read _ _ _ _ _ _ _ ((), false) rfl rfl)
  have hensures := hreads.snoc (@TransactionStep.ensured _ _ _ _ _ _ _ ((), false)
    sampleTransactionAmbient _ rfl)
  have hset := hensures.snoc (@TransactionStep.set _ _ _ _ _ _ _ ((), true)
    (fun e2e => { e2e with devices := e2e.devices.set "device-x" bobDevice }) _ rfl)
  have hreturned := hset.snoc (@TransactionStep.returned _ _ _ _ _ _ _ ((), true) _ rfl rfl)
  have hfirst := hreturned.snoc (@TransactionStep.wrote _ _ _ _ _ _ _ ((), true) _ rfl rfl)
  have hsets := hfirst.snoc (@TransactionStep.set _ _ _ _ _ _ _ ((), false)
    (fun e2e => { e2e with devices := e2e.devices.set "device-y" bobDevice }) _ rfl)
  have hreturns := hsets.snoc (@TransactionStep.returned _ _ _ _ _ _ _ ((), false) _ rfl rfl)
  have hsecond := hreturns.snoc (@TransactionStep.wrote _ _ _ _ _ _ _ ((), false) _ rfl rfl)
  refine ⟨_, _, hsecond, rfl, fun hserial => ?_, fun hserial => ?_⟩
  · have hlost := congrArg (hasDevice "device-x") hserial
    revert hlost
    decide +kernel
  · have hlost := congrArg (hasDevice "device-x") hserial
    revert hlost
    decide +kernel

end QuadraA.Runtime
