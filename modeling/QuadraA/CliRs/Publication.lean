import QuadraA.Relay.PreKeyLifecycle
import QuadraA.Runtime.DaemonTasks

/-!
# What the Rust daemon publishes

The relay worker publishes the pre-key bundles and the agent card that `DaemonServer::start` has
built for it, each time it connects.  Maintenance and `publish_card` publish a card over a
connection of their own, and no bundles.

* `published_in_step` — it has, in every run in which nothing is due for maintenance while the
  daemon runs, and no key is consumed that the relay lists or the worker will list;
* `published_stale` — a signed pre-key that is rotated while the worker is connected.

Of the card there is its device directory here.  The keys that the relay has handed out since a
publication are no part of what it has.
-/

set_option linter.unusedSectionVars false

namespace QuadraA.CliRs

open QuadraA.Lib QuadraA.E2E QuadraA.Relay
open QuadraA.Runtime (maintainCurrentDevicePreKeyHealth)

/-! ### What is built from a device -/

def unclaimedPreKeys (device : LocalDeviceState) : List LocalOneTimePreKeyState :=
  device.oneTimePreKeys.filter fun key => key.claimedAt.isNone

def buildPublishedOneTimePreKeys (device : LocalDeviceState) : List PublishedOneTimePreKey :=
  ((unclaimedPreKeys device).insertionSort fun left right => left.keyId ≤ right.keyId).map
    fun key => { keyId := key.keyId, publicKey := key.publicKey }

def buildPublishedDeviceDirectoryEntry (device : LocalDeviceState) :
    PublishedDeviceDirectoryEntry where
  deviceId := device.deviceId
  identityKeyPublic := device.identityKey.publicKey
  signedPreKeyPublic := device.signedPreKey.publicKey
  signedPreKeyId := device.signedPreKey.signedPreKeyId
  signedPreKeySignature := device.signedPreKey.signature
  oneTimePreKeyCount := (unclaimedPreKeys device).length
  lastResupplyAt := device.lastResupplyAt

def buildPublishedDeviceDirectory (e2e : LocalE2EConfig) : List PublishedDeviceDirectoryEntry :=
  e2e.devices.values.map buildPublishedDeviceDirectoryEntry

def buildPublishedPreKeyBundle (device : LocalDeviceState) : PublishedPreKeyBundle :=
  { buildPublishedDeviceDirectoryEntry device with
    oneTimePreKeys := buildPublishedOneTimePreKeys device }

def buildPublishedPreKeyBundles (e2e : LocalE2EConfig) : List PublishedPreKeyBundle :=
  e2e.devices.values.map buildPublishedPreKeyBundle

/-! ### The daemon, its worker and the relay -/

/-- What the worker is started with. -/
structure RelayWorkerOptions where
  directory : List PublishedDeviceDirectoryEntry
  prekeyBundles : List PublishedPreKeyBundle
  shouldPublish : Bool

/-- Where `connect_managed_session` stands: not connected, past the handshake, past the publication
of the bundles, or at its end. -/
inductive WorkerPhase where
  | offline
  | greeted
  | stocked
  | connected
deriving DecidableEq

/-- The bundles of the worker are published. -/
def WorkerPhase.serving : WorkerPhase → Bool
  | .stocked | .connected => true
  | .offline | .greeted => false

/-- **The daemon and the relay.**  `e2e` is what is stored, `card` the card under which the agent is
found, and `publications` the cards that tasks are about to publish. -/
structure PublicationState (T : Type) where
  e2e : LocalE2EConfig
  published : Bool
  worker : Option RelayWorkerOptions
  phase : WorkerPhase
  publications : T → Option (List PublishedDeviceDirectoryEntry)
  db : PreKeyStore
  card : Option (List PublishedDeviceDirectoryEntry)

inductive PublicationEvent (T : Type) where
  | started (amb : DeviceAmbient)
  | stopped
  | greeted
  | stocked
  | connected
  | disconnected
  | device (event : DeviceEvent)
  | maintained (task : T) (amb : DeviceAmbient)
  | carded (task : T) (copy : LocalE2EConfig) (amb : DeviceAmbient)
  | cardPublished (task : T)
  | publicationFailed (task : T)
  | claimed (deviceId : String) (bundle : Option ClaimedPreKeyBundle)

section

variable {T : Type} [DecidableEq T]

def PublicationState.setPublication (s : PublicationState T) (task : T)
    (publication : Option (List PublishedDeviceDirectoryEntry)) : PublicationState T :=
  { s with publications := Function.update s.publications task publication }

variable (c : Primitives) (did : String) (signingPrivateKey : Bytes)

/-- `maintain_current_device_prekey_health`, with what is stored when nothing is due. -/
def maintained (amb : DeviceAmbient) (e2e : LocalE2EConfig) : LocalE2EConfig :=
  (maintainCurrentDevicePreKeyHealth c amb signingPrivateKey e2e).getD e2e

/-- **What happens between two `await`s.**  A handshake registers the agent anew, and it is found
under no card until the next publication.  `publish_card` works on a copy of the configuration,
whatever it has got in memory. -/
inductive PublicationStep (s : PublicationState T) :
    PublicationEvent T → PublicationState T → Prop
  | started {amb : DeviceAmbient} {e2e : LocalE2EConfig} :
      s.worker = none → e2e = maintained c signingPrivateKey amb s.e2e →
      PublicationStep s (.started amb)
        { s with
          e2e := e2e
          worker := some
            { directory := buildPublishedDeviceDirectory e2e
              prekeyBundles := buildPublishedPreKeyBundles e2e
              shouldPublish := s.published } }
  | stopped :
      PublicationStep s .stopped
        { s with worker := none, phase := .offline, publications := fun _ => none }
  | greeted {worker : RelayWorkerOptions} :
      s.worker = some worker → s.phase = .offline →
      PublicationStep s .greeted { s with phase := .greeted, card := none }
  | stocked {worker : RelayWorkerOptions} {realm : String} {now : ℕ} :
      s.worker = some worker → s.phase = .greeted →
      PublicationStep s .stocked
        { s with
          phase := .stocked
          db := if worker.prekeyBundles = [] then s.db
            else publishBundles did realm worker.prekeyBundles now s.db }
  | connected {worker : RelayWorkerOptions} :
      s.worker = some worker → s.phase = .stocked →
      PublicationStep s .connected
        { s with
          phase := .connected
          card := if worker.shouldPublish then some worker.directory else s.card }
  | disconnected :
      PublicationStep s .disconnected { s with phase := .offline }
  | device {event : DeviceEvent} {e2e : LocalE2EConfig} :
      DeviceStep c did signingPrivateKey s.e2e event e2e →
      (∀ deviceId, ¬event.Maintains deviceId) →
      PublicationStep s (.device event) { s with e2e := e2e }
  | maintained {task : T} {amb : DeviceAmbient} {worker : RelayWorkerOptions}
      {next : LocalE2EConfig} {publication : Option (List PublishedDeviceDirectoryEntry)} :
      s.worker = some worker → s.publications task = none →
      next = maintained c signingPrivateKey amb s.e2e →
      publication = (if s.published ∧
          (maintainCurrentDevicePreKeyHealth c amb signingPrivateKey s.e2e).isSome then
        some (buildPublishedDeviceDirectory next) else none) →
      PublicationStep s (.maintained task amb)
        ({ s with e2e := next }.setPublication task publication)
  | carded {task : T} {copy next : LocalE2EConfig} {amb : DeviceAmbient}
      {worker : RelayWorkerOptions} :
      s.worker = some worker → s.publications task = none →
      next = maintained c signingPrivateKey amb copy →
      PublicationStep s (.carded task copy amb)
        ({ s with e2e := next }.setPublication task (some (buildPublishedDeviceDirectory next)))
  | cardPublished {task : T} {entries : List PublishedDeviceDirectoryEntry} :
      s.publications task = some entries →
      PublicationStep s (.cardPublished task)
        ({ s with card := some entries, published := true }.setPublication task none)
  | publicationFailed {task : T} {card : Option (List PublishedDeviceDirectoryEntry)} :
      card = s.card ∨ card = none →
      PublicationStep s (.publicationFailed task)
        ({ s with card := card }.setPublication task none)
  | claimed {deviceId requesterRealm : String} {now : ℕ} {bundle : Option ClaimedPreKeyBundle}
      {db : PreKeyStore} :
      claimBundle did deviceId requesterRealm now s.db = (bundle, db) →
      PublicationStep s (.claimed deviceId bundle) { s with db := db }

/-! ### What the relay has -/

/-- A directory entry, but for the number of its one-time pre-keys. -/
def entryHeader (entry : PublishedDeviceDirectoryEntry) :
    PublishedDeviceDirectoryEntry :=
  { entry with oneTimePreKeyCount := 0 }

/-- The entry of a device, but for the number of its one-time pre-keys. -/
def deviceHeader (device : LocalDeviceState) : PublishedDeviceDirectoryEntry :=
  entryHeader (buildPublishedDeviceDirectoryEntry device)

/-- The device holds the keys, and they are unclaimed. -/
def Holds (device : LocalDeviceState) (keys : List PublishedOneTimePreKey) : Prop :=
  ∀ key ∈ keys, ∃ stored ∈ device.oneTimePreKeys,
    stored.keyId = key.keyId ∧ stored.publicKey = key.publicKey ∧ stored.claimedAt = none

/-- **A directory of the devices**: every device is listed, and every entry is that of a device. -/
structure ListsDevices (e2e : LocalE2EConfig) (entries : List PublishedDeviceDirectoryEntry) : Prop where
  listed : ∀ deviceId device, e2e.devices.get? deviceId = some device →
    ∃ entry ∈ entries, entry.deviceId = deviceId
  current : ∀ entry ∈ entries, ∃ device, e2e.devices.get? entry.deviceId = some device ∧
    entryHeader entry = deviceHeader device

/-- The relay has a record of every device, with keys that the device holds. -/
def Stocked (did : String) (e2e : LocalE2EConfig) (db : PreKeyStore) : Prop :=
  ∀ deviceId device, e2e.devices.get? deviceId = some device →
    ∃ record, db.get? (bundleKey did deviceId) = some record ∧
      entryHeader record.toPublishedDeviceDirectoryEntry
        = deviceHeader device ∧
      Holds device record.oneTimePreKeys

/-- **In step**: what the relay has is what the devices are now. -/
structure InStep (did : String) (s : PublicationState T) : Prop where
  bundles : Stocked did s.e2e s.db
  card : ∀ entries, s.card = some entries → ListsDevices s.e2e entries

/-! ### The condition of a step -/

/-- **The condition of a step.**  Nothing is due for maintenance, `publish_card` works on what is
stored, the keys that the worker publishes are still unclaimed, and no key is consumed that the
relay lists. -/
def PublicationState.Careful (s : PublicationState T) : PublicationEvent T → Prop
  | .maintained _ amb => maintainCurrentDevicePreKeyHealth c amb signingPrivateKey s.e2e = none
  | .carded _ copy amb =>
      copy = s.e2e ∧ maintainCurrentDevicePreKeyHealth c amb signingPrivateKey copy = none
  | .stocked => ∀ worker bundle device, s.worker = some worker →
      bundle ∈ worker.prekeyBundles → s.e2e.devices.get? bundle.deviceId = some device →
      Holds device bundle.oneTimePreKeys
  | .device (.consume message _) => s.phase.serving = true → ∀ record keyId,
      s.db.get? (bundleKey did message.receiverDeviceId) = some record →
      message.recipientOneTimePreKeyId = some keyId →
      ∀ key ∈ record.oneTimePreKeys, key.keyId ≠ keyId
  | _ => True

def CarefulPublicationStep (s : PublicationState T) (event : PublicationEvent T)
    (s' : PublicationState T) : Prop :=
  PublicationStep c did signingPrivateKey s event s' ∧ s.Careful c did signingPrivateKey event

variable {c did signingPrivateKey}
variable {s s' start : PublicationState T} {event : PublicationEvent T}
  {events : List (PublicationEvent T)}

/-! ### Steps of the devices -/

/-- A write to a stored device stores no other one. -/
theorem stored_of_set {config : LocalE2EConfig} {deviceId id : String}
    {existing device found : LocalDeviceState}
    (hexisting : config.devices.get? deviceId = some existing)
    (hfound : (config.devices.set deviceId device).get? id = some found) :
    ∃ device, config.devices.get? id = some device := by
  rw [Record.get?_set] at hfound
  split at hfound
  · rename_i hid
    rw [← hid]
    exact ⟨existing, hexisting⟩
  · exact ⟨found, hfound⟩

theorem stored_of_store {config next : LocalE2EConfig} {deviceId id : String}
    {session : LocalSessionState} {found : LocalDeviceState}
    (hstore : storeLocalSession config deviceId session = .ok next)
    (hfound : next.devices.get? id = some found) :
    ∃ device, config.devices.get? id = some device := by
  obtain ⟨existing, hexisting, rfl⟩ := storeLocalSession_eq_ok.mp hstore
  exact stored_of_set hexisting hfound

/-- No step adds a device. -/
theorem stored_of_step {config next : LocalE2EConfig} {event : DeviceEvent}
    (hstep : DeviceStep c did signingPrivateKey config event next) {id : String}
    {found : LocalDeviceState} (hfound : next.devices.get? id = some found) :
    ∃ device, config.devices.get? id = some device := by
  cases hstep with
  | refuse _ => exact ⟨found, hfound⟩
  | consume hconsume =>
    obtain ⟨_, receiver, hreceiver, _, _, _, _, _, _, hstore⟩ :=
      consumeResponderPreKeyMessage_eq_ok.mp hconsume
    obtain ⟨marked, hmarked⟩ := stored_of_store hstore hfound
    exact stored_of_set hreceiver hmarked
  | receive hreceive =>
    obtain ⟨_, _, _, _, _, hstore, _⟩ := decryptWireMessage_session_eq_ok.mp hreceive
    exact stored_of_store hstore hfound
  | send _ _ hstore => exact stored_of_store hstore hfound
  | initiate hinput hbuild =>
    obtain ⟨_, _, _, _, _, _, hstore⟩ := buildInitiatorPreKeyMessage_eq_ok.mp hbuild
    rw [hinput] at hstore
    exact stored_of_store hstore hfound
  | resupply _ hresupply =>
    obtain ⟨existing, hexisting, rfl⟩ := resupplyLocalDeviceOneTimePreKeys_eq_ok.mp hresupply
    exact stored_of_set hexisting hfound
  | rotate _ hrotate =>
    obtain ⟨existing, hexisting, rfl⟩ := rotateLocalDeviceSignedPreKey_eq_ok.mp hrotate
    exact stored_of_set hexisting hfound

/-- Only maintenance changes what a device publishes beside its one-time pre-keys. -/
theorem deviceHeader_of_change {config : LocalE2EConfig} {deviceId : String}
    {device device' : LocalDeviceState} {event : DeviceEvent}
    (hchange : DeviceChange c signingPrivateKey config deviceId device event device')
    (hmaintains : ¬event.Maintains deviceId) : deviceHeader device' = deviceHeader device := by
  cases hchange with
  | sessions _ hsame =>
    rw [hsame]
    rfl
  | claim _ _ _ _ hsame =>
    rw [hsame]
    rfl
  | resupply _ => exact absurd (Or.inl rfl) hmaintains
  | rotate _ => exact absurd (Or.inr rfl) hmaintains

/-- A key under another id is not marked. -/
theorem mem_markClaimed {keyId now : ℕ} {keys : List LocalOneTimePreKeyState}
    {key : LocalOneTimePreKeyState} (hkey : key ∈ keys) (hid : key.keyId ≠ keyId) :
    key ∈ markClaimed keyId now keys := by
  induction keys with
  | nil => exact hkey
  | cons first rest ih =>
    rw [markClaimed]
    split
    · rename_i hfirst
      rcases List.mem_cons.mp hkey with rfl | hrest
      · exact absurd hfirst hid
      · exact List.mem_cons_of_mem _ hrest
    · rcases List.mem_cons.mp hkey with rfl | hrest
      · exact List.mem_cons_self
      · exact List.mem_cons_of_mem _ (ih hrest)

/-- **A device goes on holding keys** that no message consumes. -/
theorem Holds.change {config : LocalE2EConfig} {deviceId : String}
    {device device' : LocalDeviceState} {event : DeviceEvent}
    {keys : List PublishedOneTimePreKey} (h : Holds device keys)
    (hchange : DeviceChange c signingPrivateKey config deviceId device event device')
    (hmaintains : ¬event.Maintains deviceId)
    (hconsumes : ∀ message result keyId, event = .consume message result →
      message.receiverDeviceId = deviceId → message.recipientOneTimePreKeyId = some keyId →
      ∀ key ∈ keys, key.keyId ≠ keyId) : Holds device' keys := by
  cases hchange with
  | sessions _ hsame =>
    rw [hsame]
    exact h
  | @claim message result keyId now _ _ hreceiver hkeyId _ _ hsame =>
    intro key hkey
    obtain ⟨stored, hstored, hid, hpublic, hfree⟩ := h key hkey
    refine ⟨stored, ?_, hid, hpublic, hfree⟩
    rw [hsame]
    refine mem_markClaimed hstored ?_
    rw [hid]
    exact hconsumes message result keyId rfl hreceiver hkeyId key hkey
  | resupply _ => exact absurd (Or.inl rfl) hmaintains
  | rotate _ => exact absurd (Or.inr rfl) hmaintains

/-- **The same devices**, as far as their directory goes. -/
structure SameDirectory (e2e e2e' : LocalE2EConfig) : Prop where
  kept : ∀ deviceId device, e2e.devices.get? deviceId = some device →
    ∃ device', e2e'.devices.get? deviceId = some device' ∧
      deviceHeader device' = deviceHeader device
  stored : ∀ deviceId device', e2e'.devices.get? deviceId = some device' →
    ∃ device, e2e.devices.get? deviceId = some device

theorem sameDirectory_of_step {e2e e2e' : LocalE2EConfig} {event : DeviceEvent}
    (hstep : DeviceStep c did signingPrivateKey e2e event e2e')
    (hmaintains : ∀ deviceId, ¬event.Maintains deviceId) : SameDirectory e2e e2e' := by
  refine ⟨fun deviceId device hdevice => ?_, fun deviceId device' => stored_of_step hstep⟩
  obtain ⟨device', hdevice', hchange⟩ := hstep.device hdevice
  exact ⟨device', hdevice', deviceHeader_of_change hchange (hmaintains deviceId)⟩

theorem ListsDevices.of_same {e2e e2e' : LocalE2EConfig}
    {entries : List PublishedDeviceDirectoryEntry} (h : ListsDevices e2e entries)
    (hsame : SameDirectory e2e e2e') : ListsDevices e2e' entries := by
  refine ⟨fun deviceId device' hdevice' => ?_, fun entry hentry => ?_⟩
  · obtain ⟨device, hdevice⟩ := hsame.stored deviceId device' hdevice'
    exact h.listed deviceId device hdevice
  · obtain ⟨device, hdevice, hheader⟩ := h.current entry hentry
    obtain ⟨device', hdevice', hheader'⟩ := hsame.kept _ device hdevice
    exact ⟨device', hdevice', hheader.trans hheader'.symm⟩

/-! ### What is built lists the devices -/

theorem listsDevices_built {e2e : LocalE2EConfig} (hkeyed : e2e.Keyed) :
    ListsDevices e2e (buildPublishedDeviceDirectory e2e) := by
  refine ⟨fun deviceId device hdevice => ?_, fun entry hentry => ?_⟩
  · refine ⟨buildPublishedDeviceDirectoryEntry device, List.mem_map_of_mem ?_,
      hkeyed deviceId device hdevice⟩
    exact (Record.mem_values_iff _ _).mpr ⟨deviceId, hdevice⟩
  · obtain ⟨device, hvalue, rfl⟩ := List.mem_map.mp hentry
    obtain ⟨deviceId, hdevice⟩ := (Record.mem_values_iff _ _).mp hvalue
    refine ⟨device, ?_, rfl⟩
    show e2e.devices.get? device.deviceId = some device
    rw [hkeyed deviceId device hdevice]
    exact hdevice

/-- **The worker's options** are built from the devices as they are, but for their marks. -/
structure RelayWorkerOptions.Captured (worker : RelayWorkerOptions) (e2e : LocalE2EConfig) :
    Prop where
  directory : ListsDevices e2e worker.directory
  nodup : (worker.prekeyBundles.map fun bundle => bundle.deviceId).Nodup
  bundles : ∀ deviceId device, e2e.devices.get? deviceId = some device →
    ∃ bundle ∈ worker.prekeyBundles, bundle.deviceId = deviceId ∧
      entryHeader bundle.toPublishedDeviceDirectoryEntry = deviceHeader device

theorem captured_built {e2e : LocalE2EConfig} (hkeyed : e2e.Keyed) (shouldPublish : Bool) :
    RelayWorkerOptions.Captured
      { directory := buildPublishedDeviceDirectory e2e
        prekeyBundles := buildPublishedPreKeyBundles e2e
        shouldPublish := shouldPublish } e2e := by
  refine ⟨listsDevices_built hkeyed, ?_, fun deviceId device hdevice => ?_⟩
  · have hids : (buildPublishedPreKeyBundles e2e).map (fun bundle => bundle.deviceId)
        = e2e.devices.keys := by
      rw [buildPublishedPreKeyBundles, Record.values, Record.keys, List.map_map, List.map_map]
      refine List.map_congr_left fun entry hentry => ?_
      exact hkeyed entry.1 entry.2 ((Record.get?_eq_some_iff _ _ _).mpr hentry)
    show ((buildPublishedPreKeyBundles e2e).map fun bundle => bundle.deviceId).Nodup
    rw [hids]
    exact e2e.devices.nodupKeys
  · refine ⟨buildPublishedPreKeyBundle device, List.mem_map_of_mem ?_,
      hkeyed deviceId device hdevice, rfl⟩
    exact (Record.mem_values_iff _ _).mpr ⟨deviceId, hdevice⟩

theorem RelayWorkerOptions.Captured.of_same {worker : RelayWorkerOptions}
    {e2e e2e' : LocalE2EConfig} (h : worker.Captured e2e) (hsame : SameDirectory e2e e2e') :
    worker.Captured e2e' := by
  refine ⟨h.directory.of_same hsame, h.nodup, fun deviceId device' hdevice' => ?_⟩
  obtain ⟨device, hdevice⟩ := hsame.stored deviceId device' hdevice'
  obtain ⟨bundle, hbundle, hid, hheader⟩ := h.bundles deviceId device hdevice
  obtain ⟨found, hfound, hheader'⟩ := hsame.kept deviceId device hdevice
  rw [hdevice', Option.some.injEq] at hfound
  subst hfound
  exact ⟨bundle, hbundle, hid, hheader.trans hheader'.symm⟩

/-- What has just been built lists keys that the devices hold. -/
theorem holds_built {e2e : LocalE2EConfig} (hkeyed : e2e.Keyed) {bundle : PublishedPreKeyBundle}
    (hbundle : bundle ∈ buildPublishedPreKeyBundles e2e) {device : LocalDeviceState}
    (hdevice : e2e.devices.get? bundle.deviceId = some device) :
    Holds device bundle.oneTimePreKeys := by
  obtain ⟨found, hvalue, rfl⟩ := List.mem_map.mp hbundle
  obtain ⟨deviceId, hfound⟩ := (Record.mem_values_iff _ _).mp hvalue
  have hid : e2e.devices.get? found.deviceId = some found := by
    rw [hkeyed deviceId found hfound]
    exact hfound
  have hsame : device = found := by
    rw [show e2e.devices.get? found.deviceId = some device from hdevice] at hid
    exact Option.some.inj hid
  subst hsame
  intro key hkey
  obtain ⟨stored, hstored, rfl⟩ := List.mem_map.mp hkey
  have hunclaimed := List.mem_filter.mp ((List.perm_insertionSort _ _).mem_iff.mp hstored)
  exact ⟨stored, hunclaimed.1, rfl, rfl, Option.isNone_iff_eq_none.mp hunclaimed.2⟩

/-- **A publication of the worker** leaves a record of every device. -/
theorem stocked_of_publish {worker : RelayWorkerOptions} {e2e : LocalE2EConfig}
    (h : worker.Captured e2e)
    (hholds : ∀ bundle device, bundle ∈ worker.prekeyBundles →
      e2e.devices.get? bundle.deviceId = some device → Holds device bundle.oneTimePreKeys)
    (realm : String) (now : ℕ) (db : PreKeyStore) :
    Stocked did e2e (publishBundles did realm worker.prekeyBundles now db) := by
  intro deviceId device hdevice
  obtain ⟨bundle, hbundle, rfl, hheader⟩ := h.bundles deviceId device hdevice
  refine ⟨_, get?_publishBundles h.nodup hbundle, hheader, fun key hkey => ?_⟩
  exact hholds bundle device hbundle hdevice key
    ((normalizeOneTimePreKeys_subperm bundle.oneTimePreKeys).subset hkey)

/-- **A claim** leaves a record of every device. -/
theorem Stocked.claim {e2e : LocalE2EConfig} {db db' : PreKeyStore} (h : Stocked did e2e db)
    {deviceId requesterRealm : String} {now : ℕ} {bundle : Option ClaimedPreKeyBundle}
    (hclaim : claimBundle did deviceId requesterRealm now db = (bundle, db')) :
    Stocked did e2e db' := by
  cases bundle with
  | none =>
    rw [claimBundle_eq_none hclaim]
    exact h
  | some bundle =>
    obtain ⟨stored, next, hfound, _, _, _, _, _, rfl, hnext⟩ := claimBundle_eq_some hclaim
    intro id device hdevice
    obtain ⟨record, hrecord, hheader, hholds⟩ := h id device hdevice
    by_cases hsame : deviceId = id
    · subst hsame
      rw [hfound, Option.some.injEq] at hrecord
      subst hrecord
      refine ⟨next, Record.get?_set_self .., ?_, fun key hkey => ?_⟩
      · rw [hnext]
        exact hheader
      · rw [hnext] at hkey
        exact hholds key (List.mem_of_mem_tail hkey)
    · refine ⟨record, ?_, hheader, hholds⟩
      rw [Record.get?_set_ne _ _ fun hkey => hsame (bundleKey_inj.mp hkey)]
      exact hrecord

/-- **A step of the devices** that consumes no listed key. -/
theorem Stocked.device {e2e e2e' : LocalE2EConfig} {db : PreKeyStore} {event : DeviceEvent}
    (h : Stocked did e2e db) (hstep : DeviceStep c did signingPrivateKey e2e event e2e')
    (hmaintains : ∀ deviceId, ¬event.Maintains deviceId)
    (hconsumes : ∀ message result, event = .consume message result → ∀ record keyId,
      db.get? (bundleKey did message.receiverDeviceId) = some record →
      message.recipientOneTimePreKeyId = some keyId →
      ∀ key ∈ record.oneTimePreKeys, key.keyId ≠ keyId) : Stocked did e2e' db := by
  intro deviceId device' hdevice'
  obtain ⟨device, hdevice⟩ := stored_of_step hstep hdevice'
  obtain ⟨record, hrecord, hheader, hholds⟩ := h deviceId device hdevice
  obtain ⟨found, hfound, hchange⟩ := hstep.device hdevice
  rw [hdevice', Option.some.injEq] at hfound
  subst hfound
  refine ⟨record, hrecord, ?_, ?_⟩
  · rw [hheader]
    exact (deviceHeader_of_change hchange (hmaintains deviceId)).symm
  · refine hholds.change hchange (hmaintains deviceId)
      fun message result keyId hevent hreceiver hkeyId => ?_
    rw [← hreceiver] at hrecord
    exact hconsumes message result hevent record keyId hrecord hkeyId

/-! ### The invariant -/

/-- **What a careful run keeps**: whatever has been captured, is about to be published or has been
published since the handshake lists the devices. -/
structure PublicationState.Sound (did : String) (s : PublicationState T) : Prop where
  keyed : s.e2e.Keyed
  worker : ∀ worker, s.worker = some worker → worker.Captured s.e2e
  stopped : s.worker = none → s.phase = .offline ∧ ∀ task, s.publications task = none
  pending : ∀ task entries, s.publications task = some entries → ListsDevices s.e2e entries
  card : s.phase ≠ .offline → ∀ entries, s.card = some entries → ListsDevices s.e2e entries
  bundles : s.phase.serving = true → Stocked did s.e2e s.db

/-- A task has published, or has failed to. -/
theorem PublicationState.Sound.unpublish (h : s.Sound did) (task : T)
    {card : Option (List PublishedDeviceDirectoryEntry)} (published : Bool)
    (hcard : s.phase ≠ .offline → ∀ entries, card = some entries → ListsDevices s.e2e entries) :
    ({ s with card := card, published := published }.setPublication task none).Sound did := by
  have hkept {other : T} {entries : List PublishedDeviceDirectoryEntry}
      (hother : Function.update s.publications task none other = some entries) :
      s.publications other = some entries := by
    rw [Function.update_apply] at hother
    split at hother
    · cases hother
    · exact hother
  refine ⟨h.keyed, h.worker, fun hnone => ⟨(h.stopped hnone).1, fun other => ?_⟩,
    fun other entries hother => h.pending other entries (hkept hother), hcard, h.bundles⟩
  show Function.update s.publications task none other = none
  rw [Function.update_apply]
  split
  · rfl
  · exact (h.stopped hnone).2 other

/-- A task is about to publish the directory of the devices, which are as they were. -/
theorem PublicationState.Sound.publish (h : s.Sound did) (task : T) {worker : RelayWorkerOptions}
    (hworker : s.worker = some worker)
    {publication : Option (List PublishedDeviceDirectoryEntry)}
    (hpublication : ∀ entries, publication = some entries → ListsDevices s.e2e entries) :
    (s.setPublication task publication).Sound did := by
  refine ⟨h.keyed, h.worker, fun hnone => ?_, fun other entries hother => ?_, h.card, h.bundles⟩
  · have habsurd : s.worker = none := hnone
    rw [hworker] at habsurd
    cases habsurd
  · have hupdate : Function.update s.publications task publication other = some entries := hother
    rw [Function.update_apply] at hupdate
    split at hupdate
    · exact hpublication entries hupdate
    · exact h.pending other entries hupdate

theorem maintained_keyed {amb : DeviceAmbient} {e2e : LocalE2EConfig} (hkeyed : e2e.Keyed) :
    (maintained c signingPrivateKey amb e2e).Keyed := by
  rw [maintained]
  cases hmaintain : maintainCurrentDevicePreKeyHealth c amb signingPrivateKey e2e with
  | none => exact hkeyed
  | some next => exact (Runtime.maintenance_fields hmaintain).1 hkeyed

/-- **Every careful step** keeps the invariant. -/
theorem PublicationState.Sound.step (h : s.Sound did)
    (hstep : CarefulPublicationStep c did signingPrivateKey s event s') : s'.Sound did := by
  obtain ⟨hstep, hcareful⟩ := hstep
  cases hstep with
  | @started amb e2e hnone he2e =>
    obtain ⟨hoffline, hidle⟩ := h.stopped hnone
    have hkeyed : e2e.Keyed := by
      rw [he2e]
      exact maintained_keyed h.keyed
    refine ⟨hkeyed, fun worker hworker => ?_, nofun, fun task entries htask => ?_,
      fun hphase => absurd hoffline hphase, fun hserving => ?_⟩
    · obtain rfl := Option.some.inj hworker
      exact captured_built hkeyed s.published
    · have habsurd : s.publications task = some entries := htask
      rw [hidle] at habsurd
      cases habsurd
    · have habsurd : s.phase.serving = true := hserving
      rw [hoffline] at habsurd
      cases habsurd
  | stopped =>
    exact ⟨h.keyed, nofun, fun _ => ⟨rfl, fun _ => rfl⟩, nofun, fun hphase => absurd rfl hphase,
      nofun⟩
  | @greeted worker hworker _ =>
    refine ⟨h.keyed, h.worker, fun hnone => ?_, h.pending, nofun, nofun⟩
    rw [hworker] at hnone
    cases hnone
  | @stocked worker realm now hworker hphase =>
    have hcaptured := h.worker worker hworker
    refine ⟨h.keyed, h.worker, fun hnone => ?_, h.pending, fun _ => ?_, fun _ => ?_⟩
    · rw [hworker] at hnone
      cases hnone
    · exact h.card (by rw [hphase]; nofun)
    · show Stocked did s.e2e (if worker.prekeyBundles = [] then s.db
        else publishBundles did realm worker.prekeyBundles now s.db)
      split
      · rename_i hempty
        intro deviceId device hdevice
        obtain ⟨bundle, hbundle, _⟩ := hcaptured.bundles deviceId device hdevice
        rw [hempty] at hbundle
        exact absurd hbundle List.not_mem_nil
      · exact stocked_of_publish hcaptured
          (fun bundle device => hcareful worker bundle device hworker) realm now s.db
  | @connected worker hworker hphase =>
    have hcaptured := h.worker worker hworker
    refine ⟨h.keyed, h.worker, fun hnone => ?_, h.pending, fun _ entries hentries => ?_,
      fun _ => h.bundles (by rw [hphase]; rfl)⟩
    · rw [hworker] at hnone
      cases hnone
    · have hcard : (if worker.shouldPublish then some worker.directory else s.card)
          = some entries := hentries
      split at hcard
      · obtain rfl := Option.some.inj hcard
        exact hcaptured.directory
      · exact h.card (by rw [hphase]; nofun) entries hcard
  | disconnected =>
    exact ⟨h.keyed, h.worker, fun hnone => ⟨rfl, (h.stopped hnone).2⟩, h.pending,
      fun hphase => absurd rfl hphase, nofun⟩
  | @device event e2e hdevice hmaintains =>
    have hsame := sameDirectory_of_step hdevice hmaintains
    refine ⟨hdevice.keyed h.keyed, fun worker hworker => (h.worker worker hworker).of_same hsame,
      h.stopped, fun task entries htask => (h.pending task entries htask).of_same hsame,
      fun hphase entries hentries => (h.card hphase entries hentries).of_same hsame,
      fun hserving => (h.bundles hserving).device hdevice hmaintains ?_⟩
    rintro message result rfl
    exact hcareful hserving
  | @maintained task amb worker next publication hworker _ hnext hpublication =>
    have hnone : maintainCurrentDevicePreKeyHealth c amb signingPrivateKey s.e2e = none := hcareful
    rw [hnone] at hpublication
    have hsame : next = s.e2e := by
      rw [hnext, maintained, hnone]
      rfl
    subst hsame
    refine h.publish task hworker fun entries hentries => ?_
    rw [hpublication] at hentries
    simp at hentries
  | @carded task copy next amb worker hworker _ hnext =>
    obtain ⟨rfl, hnone⟩ := hcareful
    have hsame : next = s.e2e := by
      rw [hnext, maintained, hnone]
      rfl
    subst hsame
    refine h.publish task hworker fun entries hentries => ?_
    obtain rfl := Option.some.inj hentries
    exact listsDevices_built h.keyed
  | @cardPublished task entries htask =>
    refine h.unpublish task true fun _ found hfound => ?_
    obtain rfl := Option.some.inj hfound
    exact h.pending task entries htask
  | @publicationFailed task card hcard =>
    refine h.unpublish task s.published fun hphase entries hentries => ?_
    rcases hcard with rfl | rfl
    · exact h.card hphase entries hentries
    · cases hentries
  | claimed hclaim =>
    exact ⟨h.keyed, h.worker, h.stopped, h.pending, h.card,
      fun hserving => (h.bundles hserving).claim hclaim⟩

/-! ### Runs -/

/-- No daemon is running; the relay may have anything. -/
structure PublicationState.Starting (s : PublicationState T) : Prop where
  keyed : s.e2e.Keyed
  worker : s.worker = none
  phase : s.phase = .offline
  publications : ∀ task, s.publications task = none

theorem PublicationState.Sound.of_starting (h : start.Starting) : start.Sound did := by
  refine ⟨h.keyed, fun worker hworker => ?_, fun _ => ⟨h.phase, h.publications⟩,
    fun task entries htask => ?_, fun hphase => absurd h.phase hphase, fun hserving => ?_⟩
  · rw [h.worker] at hworker
    cases hworker
  · rw [h.publications] at htask
    cases htask
  · rw [h.phase] at hserving
    cases hserving

/-- **What is published can be received.**  In every careful run, while the worker is connected the
relay has the devices as they are, with one-time pre-keys that they hold unclaimed. -/
theorem published_in_step (hstart : start.Starting)
    (hrun : Trace (CarefulPublicationStep c did signingPrivateKey) start events s)
    (hconnected : s.phase = .connected) : InStep did s := by
  have hsound : s.Sound did := by
    clear hconnected
    induction hrun with
    | nil => exact .of_starting hstart
    | snoc _ hlast ih => exact ih.step hlast
  exact ⟨hsound.bundles (by rw [hconnected]; rfl), hsound.card (by rw [hconnected]; nofun)⟩

end

/-! ### Runs of one daemon -/

/-- Alice's daemon before its start; she has published a card before. -/
def restingPublication : PublicationState Unit where
  e2e := aliceConfig
  published := true
  worker := none
  phase := .offline
  publications _ := none
  db := Record.empty
  card := none

/-- What a maintenance cycle draws at a time. -/
def maintenanceAmbient (now : ℕ) : DeviceAmbient where
  deviceId := "device-a"
  identityKeyPair := samplePair 10
  signedPreKeyPair := samplePair 70
  oneTimePreKeyPair i := samplePair (80 + UInt8.ofNat i)
  now := now

/-- What is stored once the daemon has been started. -/
def aliceStarted : LocalE2EConfig := maintained sample [10] (maintenanceAmbient 2000) aliceConfig

theorem aliceStarted_keyed : aliceStarted.Keyed :=
  maintained_keyed (Runtime.Filed.of_sampleConfig "device-a" 10 2).keyed

theorem restingPublication_starting : restingPublication.Starting :=
  ⟨(Runtime.Filed.of_sampleConfig "device-a" 10 2).keyed, rfl, rfl, fun _ => rfl⟩

/-- The daemon is started and its worker connects. -/
theorem published_in_step_sample :
    ∃ s : PublicationState Unit, s.phase = .connected ∧ InStep "did:agent:zAlice" s := by
  have hrun : Trace (CarefulPublicationStep sample "did:agent:zAlice" [10]) restingPublication []
      restingPublication := .nil
  have hstarted := hrun.snoc ⟨@PublicationStep.started _ _ _ _ _ _ (maintenanceAmbient 2000)
    aliceStarted rfl rfl, trivial⟩
  have hgreeted := hstarted.snoc ⟨@PublicationStep.greeted _ _ _ _ _ _ _ rfl rfl, trivial⟩
  have hstocked := hgreeted.snoc ⟨@PublicationStep.stocked _ _ _ _ _ _ _ "public" 3000 rfl rfl,
    fun worker bundle device hworker hbundle hdevice => by
      obtain rfl := Option.some.inj hworker
      exact holds_built aliceStarted_keyed hbundle hdevice⟩
  have hconnected := hstocked.snoc ⟨@PublicationStep.connected _ _ _ _ _ _ _ rfl rfl, trivial⟩
  exact ⟨_, rfl, published_in_step restingPublication_starting hconnected rfl⟩

/-- **A rotation while the worker is connected.**  The card is published anew, and the bundles are
not: what the relay hands out names a signed pre-key that the device has no longer. -/
theorem published_stale :
    ∃ events, ∃ s : PublicationState Unit,
      Trace (PublicationStep sample "did:agent:zAlice" [10]) restingPublication events s ∧
      s.phase = .connected ∧ (∀ task, s.publications task = none) ∧
      ¬InStep "did:agent:zAlice" s := by
  have hrun : Trace (PublicationStep sample "did:agent:zAlice" [10]) restingPublication []
      restingPublication := .nil
  have hstarted := hrun.snoc (@PublicationStep.started _ _ _ _ _ _ (maintenanceAmbient 2000)
    aliceStarted rfl rfl)
  have hgreeted := hstarted.snoc (@PublicationStep.greeted _ _ _ _ _ _ _ rfl rfl)
  have hstocked := hgreeted.snoc (@PublicationStep.stocked _ _ _ _ _ _ _ "public" 3000 rfl rfl)
  have hconnected := hstocked.snoc (@PublicationStep.connected _ _ _ _ _ _ _ rfl rfl)
  have hmaintained := hconnected.snoc (@PublicationStep.maintained _ _ _ _ _ _ ()
    (maintenanceAmbient 2000000000) _ _ _ rfl rfl rfl rfl)
  have hpublished := hmaintained.snoc (@PublicationStep.cardPublished _ _ _ _ _ _ ()
    (buildPublishedDeviceDirectory
      (maintained sample [10] (maintenanceAmbient 2000000000) aliceStarted)) (by decide +kernel))
  refine ⟨_, _, hpublished, rfl, fun _ => rfl, fun hinStep => ?_⟩
  have hdevice : ((maintained sample [10] (maintenanceAmbient 2000000000) aliceStarted).devices.get?
      "device-a").isSome = true := by decide +kernel
  obtain ⟨device, hdevice⟩ := Option.isSome_iff_exists.mp hdevice
  obtain ⟨record, hrecord, hheader, _⟩ := hinStep.bundles "device-a" device hdevice
  have hids := congrArg PublishedDeviceDirectoryEntry.signedPreKeyId hheader
  have hrotated : ((maintained sample [10] (maintenanceAmbient 2000000000)
      aliceStarted).devices.get? "device-a").map (fun device =>
        (deviceHeader device).signedPreKeyId) = some 2 := by decide +kernel
  have hlisted : ((publishBundles "did:agent:zAlice" "public"
      (buildPublishedPreKeyBundles aliceStarted) 3000 Record.empty).get?
        (bundleKey "did:agent:zAlice" "device-a")).map (fun record =>
          (entryHeader record.toPublishedDeviceDirectoryEntry).signedPreKeyId) = some 1 := by
    decide +kernel
  have hrotatedId := Option.some.inj
    ((congrArg (Option.map fun device => (deviceHeader device).signedPreKeyId) hdevice).symm.trans
      hrotated)
  have hlistedId := Option.some.inj ((congrArg (Option.map fun record : StoredPreKeyBundleRecord =>
    (entryHeader record.toPublishedDeviceDirectoryEntry).signedPreKeyId) hrecord).symm.trans hlisted)
  have hsame := hlistedId.symm.trans (hids.trans hrotatedId)
  cases hsame

end QuadraA.CliRs
