import QuadraA.Runtime.StateTransaction

/-!
# Writers of one configuration file

The setters of `config.ts` change one key of `config.json` each.  `conf` reads the whole file and
writes it back, without the lock that the transactions of the daemon take.

* `config_writes_kept` — no writer undoes another, in every run in which no write intervenes between
  a read of a writer and the write that follows it;
* `config_writes_lost` — a setter within a transaction, and a transaction within a setter.
-/

set_option linter.unusedSectionVars false

namespace QuadraA.Runtime

open QuadraA.Lib QuadraA.E2E QuadraA.Messaging

/-! ### Setters -/

/-- `config.set(key, value)` or `config.delete(key)`. -/
inductive Assignment where
  | agentCard (card : AgentCardConfig)
  | published (value : Bool)
  | relayInviteToken (inviteToken : Option String)
  | reachabilityPolicy (policy : Option JsonValue)
  | aliases (value : Record String String)

def Assignment.assign (config : QuadraAConfig) : Assignment → QuadraAConfig
  | .agentCard card => { config with agentCard := some card }
  | .published value => { config with published := some value }
  | .relayInviteToken inviteToken => { config with relayInviteToken := inviteToken }
  | .reachabilityPolicy policy => { config with reachabilityPolicy := policy }
  | .aliases value => { config with aliases := some value }

/-- The setters of `config.ts`.  `resolve` is `resolveReachabilityPolicy` with the patch and the
environment of the call. -/
inductive Setter where
  | setAgentCard (card : AgentCardConfig)
  | setPublished (value : Bool)
  | setRelayInviteToken (inviteToken : Option String)
  | setReachabilityPolicy (policy : JsonValue)
  | updateReachabilityPolicy (resolve : Option JsonValue → JsonValue)
  | resetReachabilityPolicy
  | setAlias (name did : String)
  | removeAlias (name : String)

/-- `getAliases`. -/
def getAliases (config : QuadraAConfig) : Record String String := config.aliases.getD Record.empty

/-- **What a setter assigns**, given the file as it has first read it; `none` when it has nothing to
write. -/
def Setter.assignment (config : QuadraAConfig) : Setter → Option Assignment
  | .setAgentCard card => some (.agentCard card)
  | .setPublished value => some (.published value)
  | .setRelayInviteToken inviteToken =>
      some (.relayInviteToken (inviteToken.filter fun token => token != ""))
  | .setReachabilityPolicy policy => some (.reachabilityPolicy (some policy))
  | .updateReachabilityPolicy resolve =>
      some (.reachabilityPolicy (some (resolve config.reachabilityPolicy)))
  | .resetReachabilityPolicy => some (.reachabilityPolicy none)
  | .setAlias name did => some (.aliases ((getAliases config).set name did))
  | .removeAlias name =>
      if ((getAliases config).get? name).isSome then
        some (.aliases ((getAliases config).erase name))
      else none

/-- **The effect of a setter** that runs alone. -/
def Setter.run (stored : Option QuadraAConfig) (setter : Setter) : Option QuadraAConfig :=
  match setter.assignment (stored.getD {}) with
  | some assignment => some (assignment.assign (stored.getD {}))
  | none => stored

/-! ### The two parts of the file -/

/-- The keys that no transaction changes. -/
structure Settings where
  identity : Option IdentityConfig
  agentCard : Option AgentCardConfig
  published : Option Bool
  relayInviteToken : Option String
  reachabilityPolicy : Option JsonValue
  aliases : Option (Record String String)

def settings (stored : Option QuadraAConfig) : Settings where
  identity := (stored.getD {}).identity
  agentCard := (stored.getD {}).agentCard
  published := (stored.getD {}).published
  relayInviteToken := (stored.getD {}).relayInviteToken
  reachabilityPolicy := (stored.getD {}).reachabilityPolicy
  aliases := (stored.getD {}).aliases

/-- The keys that no setter changes: the device identity and the E2E section. -/
def localState (stored : Option QuadraAConfig) : Option DeviceIdentity × Option LocalE2EConfig :=
  ((stored.getD {}).deviceIdentity, (stored.getD {}).e2e)

/-- **A setter** leaves the state of the device as it is. -/
theorem Setter.localState_run (stored : Option QuadraAConfig) (setter : Setter) :
    localState (setter.run stored) = localState stored := by
  rw [Setter.run]
  split
  · rename_i assignment _
    cases assignment <;> rfl
  · rfl

theorem Setter.assignment_congr {config config' : QuadraAConfig}
    (h : settings (some config) = settings (some config')) (setter : Setter) :
    setter.assignment config = setter.assignment config' := by
  have haliases : config.aliases = config'.aliases := congrArg Settings.aliases h
  have hpolicy : config.reachabilityPolicy = config'.reachabilityPolicy :=
    congrArg Settings.reachabilityPolicy h
  cases setter with
  | updateReachabilityPolicy resolve => rw [Setter.assignment, Setter.assignment, hpolicy]
  | setAlias name did =>
    rw [Setter.assignment, Setter.assignment, getAliases, getAliases, haliases]
  | removeAlias name =>
    rw [Setter.assignment, Setter.assignment, getAliases, getAliases, haliases]
  | setAgentCard => rfl
  | setPublished => rfl
  | setRelayInviteToken => rfl
  | setReachabilityPolicy => rfl
  | resetReachabilityPolicy => rfl

/-- **What a setter makes of the settings** depends on the settings alone. -/
theorem Setter.settings_run {stored stored' : Option QuadraAConfig}
    (h : settings stored = settings stored') (setter : Setter) :
    settings (setter.run stored) = settings (setter.run stored') := by
  have hsome : settings (some (stored.getD {})) = settings (some (stored'.getD {})) := h
  obtain ⟨hidentity, hcard, hpublished, htoken, hpolicy, haliases⟩ := Settings.mk.inj h
  rw [Setter.run, Setter.run, Setter.assignment_congr hsome]
  cases setter.assignment (stored'.getD {}) with
  | none => exact h
  | some assignment =>
    cases assignment <;>
      simp [settings, Assignment.assign, hidentity, hcard, hpublished, htoken, hpolicy, haliases]

section

variable {c : Primitives} {signingPrivateKey : Bytes}

/-- The context of a transaction on any stored configuration, in terms of the two parts of it. -/
structure TransactionContext.Of (context : TransactionContext) (stored : Option QuadraAConfig) :
    Prop where
  settings : settings (some context.config) = settings stored
  e2e : context.config.e2e = some context.e2eConfig
  deviceIdentity : context.config.deviceIdentity = some context.deviceIdentity

theorem ensureDeviceIdentity_congr {config config' : QuadraAConfig} (amb : TransactionAmbient)
    (h : localState (some config) = localState (some config')) :
    ensureDeviceIdentity amb config = ensureDeviceIdentity amb config' := by
  obtain ⟨hdevice, he2e⟩ := Prod.mk.inj h
  have hdevice' : config.deviceIdentity = config'.deviceIdentity := hdevice
  have he2e' : config.e2e = config'.e2e := he2e
  rw [ensureDeviceIdentity, ensureDeviceIdentity, hdevice', he2e']

theorem validLocalE2EConfig_eq_some {config : Option LocalE2EConfig} {e2e : LocalE2EConfig}
    (h : validLocalE2EConfig config = some e2e) : config = some e2e :=
  (Option.filter_eq_some_iff.mp h).1

theorem TransactionContext.Of.ensure (amb : TransactionAmbient) (stored : Option QuadraAConfig) :
    (ensureTransactionState c signingPrivateKey amb (stored.getD {})).Of stored := by
  rw [ensureTransactionState]
  split
  · rename_i e2eConfig hvalid
    exact ⟨rfl, validLocalE2EConfig_eq_some hvalid, rfl⟩
  · exact ⟨rfl, rfl, rfl⟩

theorem TransactionContext.Of.set {context : TransactionContext} {stored : Option QuadraAConfig}
    (h : context.Of stored) (next : LocalE2EConfig) : (context.setE2EConfig next).Of stored :=
  ⟨h.settings, rfl, h.deviceIdentity⟩

theorem TransactionContext.Of.context (transaction : Transaction)
    (stored : Option QuadraAConfig) :
    (transaction.context c signingPrivateKey stored).Of stored := by
  obtain ⟨ambient, updates⟩ := transaction
  induction updates using List.reverseRecOn with
  | nil => exact .ensure ambient stored
  | append_singleton updates update ih =>
    rw [Transaction.context_snoc]
    exact ih.set _

theorem TransactionContext.Of.localState_eq {context : TransactionContext}
    {stored : Option QuadraAConfig} (h : context.Of stored) :
    localState (some context.config) = (some context.deviceIdentity, some context.e2eConfig) :=
  Prod.ext h.deviceIdentity h.e2e

/-- **A transaction** leaves the settings as they are. -/
theorem Transaction.settings_run (transaction : Transaction) (stored : Option QuadraAConfig) :
    settings (transaction.run c signingPrivateKey stored) = settings stored := by
  rw [Transaction.run]
  split
  · exact (TransactionContext.Of.context transaction stored).settings
  · rfl

/-- The part of a context that depends on the state of the device alone. -/
def TransactionContext.local (context : TransactionContext) :
    LocalE2EConfig × DeviceIdentity × Bool :=
  (context.e2eConfig, context.deviceIdentity, context.dirty)

theorem Transaction.context_congr {stored stored' : Option QuadraAConfig}
    (h : localState stored = localState stored') (transaction : Transaction) :
    (transaction.context c signingPrivateKey stored).local
      = (transaction.context c signingPrivateKey stored').local := by
  obtain ⟨ambient, updates⟩ := transaction
  induction updates using List.reverseRecOn with
  | nil =>
    have hsome : localState (some (stored.getD {})) = localState (some (stored'.getD {})) := h
    have he2e : (stored.getD {}).e2e = (stored'.getD {}).e2e := (Prod.mk.inj h).2
    simp only [Transaction.context, List.foldl_nil]
    rw [ensureTransactionState, ensureTransactionState, ensureDeviceIdentity_congr ambient hsome,
      he2e]
    cases validLocalE2EConfig (stored'.getD {}).e2e <;> rfl
  | append_singleton updates update ih =>
    rw [Transaction.context_snoc, Transaction.context_snoc]
    obtain ⟨he2e, hrest⟩ := Prod.mk.inj ih
    obtain ⟨hdevice, _⟩ := Prod.mk.inj hrest
    simp only [TransactionContext.local, TransactionContext.setE2EConfig]
    rw [he2e, hdevice]

/-- **What a transaction makes of the state of the device** depends on that state alone. -/
theorem Transaction.localState_run {stored stored' : Option QuadraAConfig}
    (h : localState stored = localState stored') (transaction : Transaction) :
    localState (transaction.run c signingPrivateKey stored)
      = localState (transaction.run c signingPrivateKey stored') := by
  have hof : (transaction.context c signingPrivateKey stored).Of stored := .context _ _
  have hof' : (transaction.context c signingPrivateKey stored').Of stored' := .context _ _
  obtain ⟨he2e, hrest⟩ := Prod.mk.inj (Transaction.context_congr h transaction)
  obtain ⟨hdevice, hdirty⟩ := Prod.mk.inj hrest
  rw [Transaction.run, Transaction.run, hdirty]
  split
  · rw [hof.localState_eq, hof'.localState_eq, he2e, hdevice]
  · exact h

end

/-! ### Interleaved writers -/

/-- **A setter in progress**: what it assigns, given the file as it has first read it. -/
structure OpenSetter where
  setter : Setter
  first : Option QuadraAConfig
  assignment : Assignment
  computed : setter.assignment (first.getD {}) = some assignment

/-- Where a setter stands: before `config.set`, or with the file that `conf` has read to write it
back. -/
inductive SetterPhase where
  | idle
  | prepared (opened : OpenSetter)
  | loaded (opened : OpenSetter) (snapshot : Option QuadraAConfig)

/-- **All writers of the file**: the transactions, and setters in any process. -/
structure ConfigState (c : Primitives) (signingPrivateKey : Bytes) (P T W : Type) where
  transactions : TransactionState c signingPrivateKey P T
  setters : W → SetterPhase

inductive ConfigEvent (P T W : Type) where
  | transaction (event : TransactionEvent P T)
  | prepared (writer : W) (setter : Setter)
  | loaded (writer : W)
  | wrote (writer : W) (setter : Setter)

section

variable {c : Primitives} {signingPrivateKey : Bytes} {P T W : Type} [DecidableEq P]
  [DecidableEq T] [DecidableEq W]

/-- `config.json`. -/
def ConfigState.config (s : ConfigState c signingPrivateKey P T W) : Option QuadraAConfig :=
  s.transactions.config

def ConfigState.setSetter (s : ConfigState c signingPrivateKey P T W) (writer : W)
    (phase : SetterPhase) : ConfigState c signingPrivateKey P T W :=
  { s with setters := Function.update s.setters writer phase }

/-- **One read or write of the file.** -/
inductive ConfigStep (s : ConfigState c signingPrivateKey P T W) :
    ConfigEvent P T W → ConfigState c signingPrivateKey P T W → Prop
  | transaction {event : TransactionEvent P T} {transactions : TransactionState _ _ P T} :
      TransactionStep s.transactions event transactions →
      ConfigStep s (.transaction event) { s with transactions }
  | prepared {writer : W} {opened : OpenSetter} :
      s.setters writer = .idle → opened.first = s.config →
      ConfigStep s (.prepared writer opened.setter) (s.setSetter writer (.prepared opened))
  | loaded {writer : W} {opened : OpenSetter} :
      s.setters writer = .prepared opened →
      ConfigStep s (.loaded writer) (s.setSetter writer (.loaded opened s.config))
  | wrote {writer : W} {opened : OpenSetter} {snapshot : Option QuadraAConfig} :
      s.setters writer = .loaded opened snapshot →
      ConfigStep s (.wrote writer opened.setter)
        ({ s with transactions :=
            { s.transactions with
              config := some (opened.assignment.assign (snapshot.getD {})) } }.setSetter writer
          .idle)

/-! ### Runs in which nothing is undone -/

/-- What has been written to the file. -/
inductive ConfigWrite where
  | transaction (transaction : Transaction)
  | setter (setter : Setter)

/-- The effect of one write that runs alone. -/
def ConfigWrite.run (c : Primitives) (signingPrivateKey : Bytes) (stored : Option QuadraAConfig) :
    ConfigWrite → Option QuadraAConfig
  | .transaction alone => alone.run c signingPrivateKey stored
  | .setter alone => alone.run stored

def ConfigWrite.transaction? : ConfigWrite → Option Transaction
  | .transaction alone => some alone
  | .setter _ => none

def ConfigWrite.setter? : ConfigWrite → Option Setter
  | .transaction _ => none
  | .setter alone => some alone

/-- The write that an event commits. -/
def ConfigEvent.committed : ConfigEvent P T W → Option ConfigWrite
  | .transaction event => event.committed.map .transaction
  | .wrote _ setter => some (.setter setter)
  | _ => none

/-- **The condition of a step**: the file still is what the writer has read to write it back, and a
setter would still assign the same. -/
def ConfigState.Fresh (s : ConfigState c signingPrivateKey P T W) : ConfigEvent P T W → Prop
  | .transaction event => s.transactions.Fresh event
  | .wrote writer _ => ∀ opened snapshot, s.setters writer = .loaded opened snapshot →
      snapshot = s.config ∧
        opened.setter.assignment (s.config.getD {}) = some opened.assignment
  | _ => True

def FreshConfigStep (s : ConfigState c signingPrivateKey P T W) (event : ConfigEvent P T W)
    (s' : ConfigState c signingPrivateKey P T W) : Prop :=
  ConfigStep s event s' ∧ s.Fresh event

/-- What an event does to the file, by its label alone. -/
def applyWrite (c : Primitives) (signingPrivateKey : Bytes) (stored : Option QuadraAConfig)
    (event : ConfigEvent P T W) : Option QuadraAConfig :=
  match event.committed with
  | some write => write.run c signingPrivateKey stored
  | none => stored

variable {s s' start : ConfigState c signingPrivateKey P T W} {event : ConfigEvent P T W}
  {events : List (ConfigEvent P T W)}

/-- **Every fresh step** acts on the file as its writer does alone. -/
theorem config_of_freshConfigStep (hstep : FreshConfigStep s event s') :
    s'.config = applyWrite c signingPrivateKey s.config event := by
  obtain ⟨hstep, hfresh⟩ := hstep
  cases hstep with
  | @transaction event transactions hstep =>
    have hconfig := config_of_freshStep ⟨hstep, hfresh⟩
    rw [applyWrite, ConfigEvent.committed]
    rw [commit] at hconfig
    cases hcommitted : event.committed with
    | none =>
      rw [hcommitted] at hconfig
      exact hconfig
    | some transaction =>
      rw [hcommitted] at hconfig
      exact hconfig
  | @wrote writer opened snapshot hphase =>
    obtain ⟨hsnapshot, hassigns⟩ := hfresh opened snapshot hphase
    show some (opened.assignment.assign (snapshot.getD {})) = opened.setter.run s.config
    rw [Setter.run, hassigns, hsnapshot]
  | prepared _ _ => rfl
  | loaded _ => rfl

/-- The state of the device, after any writes, is that after the transactions among them. -/
theorem localState_foldl (writes : List ConfigWrite) {stored stored' : Option QuadraAConfig}
    (h : localState stored = localState stored') :
    localState (writes.foldl (ConfigWrite.run c signingPrivateKey) stored)
      = localState ((writes.filterMap ConfigWrite.transaction?).foldl
          (Transaction.run c signingPrivateKey) stored') := by
  induction writes generalizing stored stored' with
  | nil => exact h
  | cons write writes ih =>
    cases write with
    | transaction transaction => exact ih (Transaction.localState_run h transaction)
    | setter setter => exact ih ((Setter.localState_run stored setter).trans h)

/-- The settings, after any writes, are those after the setters among them. -/
theorem settings_foldl (writes : List ConfigWrite) {stored stored' : Option QuadraAConfig}
    (h : settings stored = settings stored') :
    settings (writes.foldl (ConfigWrite.run c signingPrivateKey) stored)
      = settings ((writes.filterMap ConfigWrite.setter?).foldl Setter.run stored') := by
  induction writes generalizing stored stored' with
  | nil => exact h
  | cons write writes ih =>
    cases write with
    | transaction transaction => exact ih ((Transaction.settings_run transaction stored).trans h)
    | setter setter => exact ih (Setter.settings_run h setter)

/-- **Nothing is undone.**  In every run of fresh steps, the file is what its writers make of it one
after the other; its E2E section and device identity are what the transactions alone make of them,
and every other key is what the setters alone make of it. -/
theorem config_writes_kept (hrun : Trace FreshConfigStep start events s) :
    let writes := events.filterMap ConfigEvent.committed
    s.config = writes.foldl (ConfigWrite.run c signingPrivateKey) start.config ∧
      localState s.config = localState ((writes.filterMap ConfigWrite.transaction?).foldl
        (Transaction.run c signingPrivateKey) start.config) ∧
      settings s.config
        = settings ((writes.filterMap ConfigWrite.setter?).foldl Setter.run start.config) := by
  intro writes
  have hserial : s.config = writes.foldl (ConfigWrite.run c signingPrivateKey) start.config := by
    have hfold := hrun.fold (·.config) (applyWrite c signingPrivateKey) config_of_freshConfigStep
    rw [hfold, List.foldl_filterMap]
    congr 1
    funext stored event
    rw [applyWrite]
    cases event.committed <;> rfl
  refine ⟨hserial, ?_, ?_⟩
  · rw [hserial]
    exact localState_foldl writes rfl
  · rw [hserial]
    exact settings_foldl writes rfl

end

/-! ### Runs with one transaction and one setter -/

def restingConfig : ConfigState sample [10] Unit Bool Unit where
  transactions := restingTransactions
  setters _ := .idle

/-- `setPublished(true)`, called on the stored configuration. -/
def publishing : OpenSetter where
  setter := .setPublished true
  first := some storedConfig
  assignment := .published true
  computed := rfl

/-- A setter alone. -/
theorem config_writes_kept_sample :
    ∃ s : ConfigState sample [10] Unit Bool Unit,
      s.config = [ConfigWrite.setter (.setPublished true)].foldl (ConfigWrite.run sample [10])
        (some storedConfig) := by
  have hrun : Trace FreshConfigStep restingConfig [] restingConfig := .nil
  have hprepared := hrun.snoc ⟨@ConfigStep.prepared _ _ _ _ _ _ _ _ _ () publishing rfl rfl,
    trivial⟩
  have hloaded := hprepared.snoc ⟨@ConfigStep.loaded _ _ _ _ _ _ _ _ _ () publishing rfl, trivial⟩
  have hwrote := hloaded.snoc ⟨@ConfigStep.wrote _ _ _ _ _ _ _ _ _ () publishing _ rfl,
    fun opened snapshot hphase => by
      obtain ⟨rfl, rfl⟩ := SetterPhase.loaded.inj hphase
      exact ⟨rfl, rfl⟩⟩
  exact ⟨_, (config_writes_kept hwrote).1⟩

/-- **Writes that are undone.**  While the callback of a transaction is awaited, a setter reads the
file.  When the setter writes last, the device that the transaction has stored is gone; when the
transaction writes last, the published flag that the setter has set is gone. -/
theorem config_writes_lost :
    (∃ events, ∃ s : ConfigState sample [10] Unit Bool Unit,
      Trace ConfigStep restingConfig events s ∧
      events.filterMap ConfigEvent.committed
        = [.transaction (storeDevice "device-x"), .setter (.setPublished true)] ∧
      hasDevice "device-x" s.config = false) ∧
    ∃ events, ∃ s : ConfigState sample [10] Unit Bool Unit,
      Trace ConfigStep restingConfig events s ∧
      events.filterMap ConfigEvent.committed
        = [.setter (.setPublished true), .transaction (storeDevice "device-x")] ∧
      (settings s.config).published = none := by
  have hrun : Trace ConfigStep restingConfig [] restingConfig := .nil
  have hstarted := hrun.snoc (.transaction
    (.lock (@LockStep.started _ _ _ _ _ ((), true) "holder" rfl rfl) nofun))
  have hmade := hstarted.snoc (.transaction
    (.lock (@LockStep.made _ _ _ _ _ ((), true) _ _ rfl rfl) nofun))
  have howned := hmade.snoc (.transaction
    (.lock (@LockStep.wrote _ _ _ _ _ ((), true) _ _ rfl rfl) nofun))
  have hacquired := howned.snoc (.transaction
    (.lock (@LockStep.acquired _ _ _ _ _ ((), true) _ rfl) nofun))
  have hread := hacquired.snoc (.transaction
    (@TransactionStep.read _ _ _ _ _ _ _ ((), true) rfl rfl))
  have hensured := hread.snoc (.transaction
    (@TransactionStep.ensured _ _ _ _ _ _ _ ((), true) sampleTransactionAmbient _ rfl))
  have hset := hensured.snoc (.transaction (@TransactionStep.set _ _ _ _ _ _ _ ((), true)
    (fun e2e => { e2e with devices := e2e.devices.set "device-x" bobDevice }) _ rfl))
  have hreturned := hset.snoc (.transaction
    (@TransactionStep.returned _ _ _ _ _ _ _ ((), true) _ rfl rfl))
  have hprepared := hreturned.snoc (@ConfigStep.prepared _ _ _ _ _ _ _ _ _ () publishing rfl rfl)
  have hloaded := hprepared.snoc (@ConfigStep.loaded _ _ _ _ _ _ _ _ _ () publishing rfl)
  constructor
  · have hwrote := hloaded.snoc (.transaction
      (@TransactionStep.wrote _ _ _ _ _ _ _ ((), true) _ rfl rfl))
    have hlast := hwrote.snoc (@ConfigStep.wrote _ _ _ _ _ _ _ _ _ () publishing _ rfl)
    exact ⟨_, _, hlast, rfl, by decide +kernel⟩
  · have hwrote := hloaded.snoc (@ConfigStep.wrote _ _ _ _ _ _ _ _ _ () publishing _ rfl)
    have hlast := hwrote.snoc (.transaction
      (@TransactionStep.wrote _ _ _ _ _ _ _ ((), true) _ rfl rfl))
    exact ⟨_, _, hlast, rfl, rfl⟩

end QuadraA.Runtime
