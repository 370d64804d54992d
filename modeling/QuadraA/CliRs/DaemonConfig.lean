import QuadraA.Runtime.LostUpdates
import QuadraA.Runtime.StateTransaction

/-!
# The configuration of the Rust daemon

What the requests of `daemon.rs` do to the configuration, each of them as a function of the
configuration it runs on.

* `TrustConfig`, `Config` — the sections that a running daemon writes;
* `isBlocked_effects` — an agent stays blocked until it is unblocked or allowed.

The section `e2e` is there, since `DaemonServer::start` runs a maintenance cycle first.  Scores and
penalties are floating-point numbers that nothing here reads: they are of a type of their own, as
are endorsements.
-/

set_option linter.unusedSectionVars false

namespace QuadraA.CliRs

open QuadraA.Lib QuadraA.E2E QuadraA.Messaging
open QuadraA.Runtime (AgentCardConfig PeerOperation NeverBack WellFormedDid Filed applyAll
  maintainCurrentDevicePreKeyHealth)

/-! ### Trust -/

structure AllowedAgent where
  note : Option String
  addedAt : Option ℕ
deriving DecidableEq

/-- `trustConfig`.  The scores and penalties that an engine computes and the limit it puts on its
recursion are kept together. -/
structure TrustConfig (Endorsement Cache : Type) where
  endorsements : Record String Endorsement
  cache : Cache
  blockedAgents : Finset String
  blockedReasons : Record String String
  allowedAgents : Record String AllowedAgent

section

variable {Endorsement Cache : Type}

def TrustConfig.new [Inhabited Cache] : TrustConfig Endorsement Cache where
  endorsements := Record.empty
  cache := default
  blockedAgents := ∅
  blockedReasons := Record.empty
  allowedAgents := Record.empty

def TrustConfig.addEndorsement (trust : TrustConfig Endorsement Cache) (cacheKey : String)
    (endorsement : Endorsement) : TrustConfig Endorsement Cache :=
  { trust with endorsements := trust.endorsements.set cacheKey endorsement }

def TrustConfig.blockAgent (trust : TrustConfig Endorsement Cache) (did : String) :
    TrustConfig Endorsement Cache :=
  { trust with
    blockedAgents := insert did trust.blockedAgents
    allowedAgents := trust.allowedAgents.erase did }

def TrustConfig.unblockAgent (trust : TrustConfig Endorsement Cache) (did : String) :
    TrustConfig Endorsement Cache :=
  { trust with
    blockedAgents := trust.blockedAgents.erase did
    blockedReasons := trust.blockedReasons.erase did }

/-- The note is trimmed, and not empty. -/
def TrustConfig.allowAgent (trust : TrustConfig Endorsement Cache) (did : String)
    (note : Option String) (now : ℕ) : TrustConfig Endorsement Cache :=
  let unblocked := trust.unblockAgent did
  { unblocked with
    allowedAgents := unblocked.allowedAgents.set did { note := note, addedAt := some now } }

end

/-- What a request does to the section `trustConfig`.  A score comes from an engine over the stored
endorsements, those of the network and the cache. -/
inductive TrustUpdate (Endorsement Cache : Type) where
  | block (did : String)
  | unblock (did : String)
  | allow (did : String) (note : Option String) (now : ℕ)
  | remove (did : String)
  | endorse (cacheKey : String) (endorsement : Endorsement)
  | score (engine : Record String Endorsement → Cache → Cache)

section

variable {Endorsement Cache : Type}

def TrustUpdate.apply (trust : TrustConfig Endorsement Cache) :
    TrustUpdate Endorsement Cache → TrustConfig Endorsement Cache
  | .block did => trust.blockAgent did
  | .unblock did => trust.unblockAgent did
  | .allow did note now => trust.allowAgent did note now
  | .remove did => { trust with allowedAgents := trust.allowedAgents.erase did }
  | .endorse cacheKey endorsement => trust.addEndorsement cacheKey endorsement
  | .score engine => { trust with cache := engine trust.endorsements trust.cache }

/-- The requests that update and save under the lock of the daemon state: `handle_block_agent` and
`handle_allowlist`. -/
def TrustUpdate.direct : TrustUpdate Endorsement Cache → Bool
  | .block _ | .unblock _ | .allow .. | .remove _ => true
  | .endorse .. | .score _ => false

end

/-! ### The configuration -/

/-- `config.json`, without the sections that a running daemon only reads. -/
structure Config (Endorsement Cache : Type) where
  agentCard : Option AgentCardConfig := none
  published : Option Bool := none
  aliases : Record String String := Record.empty
  trustConfig : Option (TrustConfig Endorsement Cache) := none
  e2e : LocalE2EConfig

/-- The parameters of `publish_card`: a name that is not empty, a description, and capabilities
without the empty ones. -/
structure CardParams where
  name : Option String
  description : Option String
  capabilities : Option (List String)

def nextAgentCard (params : CardParams) (currentCard : Option AgentCardConfig) :
    AgentCardConfig where
  name := params.name.getD ((currentCard.map (·.name)).getD "quadra-a Agent")
  description := params.description.getD ((currentCard.map (·.description)).getD "")
  capabilities := params.capabilities.getD ((currentCard.map (·.capabilities)).getD [])

/-- What an operation does to the configuration. -/
inductive ConfigOperation (Endorsement Cache : Type) where
  | exchange (operations : List PeerOperation)
  | maintain (amb : DeviceAmbient)
  | trust (update : TrustUpdate Endorsement Cache)
  | card (params : CardParams) (amb : DeviceAmbient)
  | publish

section

variable {Endorsement Cache : Type}

/-- `merge_cli_fields_before_save`: the aliases are those on disk. -/
def Config.mergeCliFields (config fresh : Config Endorsement Cache) : Config Endorsement Cache :=
  { config with aliases := fresh.aliases }

/-- The sections that the daemon writes itself, beside `e2e`. -/
def Config.own (config : Config Endorsement Cache) :
    Option AgentCardConfig × Option Bool × Option (TrustConfig Endorsement Cache) :=
  (config.agentCard, config.published, config.trustConfig)

/-- Two configurations that differ in their aliases only. -/
theorem mergeCliFields_eq {config fresh : Config Endorsement Cache} :
    config.mergeCliFields fresh = fresh ↔ config.e2e = fresh.e2e ∧ config.own = fresh.own := by
  obtain ⟨agentCard, published, aliases, trustConfig, e2e⟩ := config
  obtain ⟨agentCard', published', aliases', trustConfig', e2e'⟩ := fresh
  simp only [Config.mergeCliFields, Config.own, Config.mk.injEq, Prod.mk.injEq]
  constructor
  · rintro ⟨rfl, rfl, -, rfl, rfl⟩
    exact ⟨rfl, rfl, rfl, rfl⟩
  · rintro ⟨rfl, rfl, rfl, rfl⟩
    exact ⟨rfl, rfl, trivial, rfl, rfl⟩

variable [Inhabited Cache] (c : Primitives) (services : EnvelopeServices) (did : String)
  (signingPrivateKey : Bytes)

/-- `maintain_current_device_prekey_health`, where the current device is stored. -/
def Config.maintain (config : Config Endorsement Cache) (amb : DeviceAmbient) :
    Config Endorsement Cache :=
  { config with
    e2e := (maintainCurrentDevicePreKeyHealth c amb signingPrivateKey config.e2e).getD config.e2e }

variable {target : String} {operation : ConfigOperation Endorsement Cache}
  {config next : LocalE2EConfig} {amb : DeviceAmbient}

/-- **Operations one after the other**, none of which takes a counter or a mark back, unless it is
a receipt that rewinds its own session. -/
inductive Forward : LocalE2EConfig → List PeerOperation → LocalE2EConfig → Prop
  | nil {config : LocalE2EConfig} : Forward config [] config
  | cons {config mid next : LocalE2EConfig} {operation : PeerOperation}
      {operations : List PeerOperation} :
      operation.write c services did config = some mid →
      (¬operation.Rewinds c config → NeverBack config mid) → Forward mid operations next →
      Forward config (operation :: operations) next

/-- **Maintenance** leaves the sessions, and every one-time pre-key is stored as it was or new. -/
structure Renewed (amb : DeviceAmbient) (before after : LocalE2EConfig) : Prop where
  sessions : ∀ slot, sessionAt after slot = sessionAt before slot
  keys : ∀ deviceId device' key, after.devices.get? deviceId = some device' →
    key ∈ device'.oneTimePreKeys →
    (∃ device, before.devices.get? deviceId = some device ∧ key ∈ device.oneTimePreKeys) ∨
      ∃ keyId, key.publicKey = bytesToHex (amb.oneTimePreKeyPair keyId).publicKey

/-- What an operation leaves of the sessions and the one-time pre-keys. -/
def ConfigOperation.Leaves (before after : LocalE2EConfig) :
    ConfigOperation Endorsement Cache → Prop
  | .exchange operations => Forward c services did before operations after ∨ after = before
  | .maintain amb | .card _ amb => Renewed amb before after
  | .trust _ | .publish => after = before

variable {c services did signingPrivateKey}

/-- One operation on a filed configuration. -/
theorem Filed.write {operation : PeerOperation} (h : Filed config)
    (hdid : WellFormedDid operation.peerDid ∨ ∃ peerDid, operation = .clear peerDid)
    (hwrite : operation.write c services did config = some next) : Filed next := by
  have hwrites := PeerOperation.write_eq_some.mp hwrite
  rcases hdid with hdid | ⟨peerDid, rfl⟩
  · exact Runtime.Filed.writes h hdid hwrites
  · cases hwrites
    exact h.clear peerDid

theorem Renewed.refl (amb : DeviceAmbient) (config : LocalE2EConfig) :
    Renewed amb config config :=
  ⟨fun _ => rfl, fun _ device _ hdevice hkey => Or.inl ⟨device, hdevice, hkey⟩⟩

end

end QuadraA.CliRs
