import QuadraA.E2E.DeviceRun
import QuadraA.E2E.SamplePrimitives
import QuadraA.Relay.PreKeyStore

/-!
# One-time pre-keys between a device and the relay

The agent publishes the bundles of its devices, the relay hands them out claim by claim, and the
agent goes on receiving, sending and maintaining its keys.

* `handedOut_nodup` — no one-time pre-key is handed out twice, as long as no bundle is published
  that lists a key the relay has already handed out;
* `handedOut_twice` — a run that publishes such a bundle.
-/

namespace QuadraA.Relay

open QuadraA.Lib QuadraA.E2E

/-- The stored configuration of the agent and the database of the relay. -/
structure LifecycleState where
  config : LocalE2EConfig
  db : PreKeyStore

/-- What a step of a run does. -/
inductive LifecycleEvent where
  | publish
  | claim (deviceId : String) (bundle : Option ClaimedPreKeyBundle)
  | device (event : DeviceEvent)
deriving DecidableEq

/-- **The steps of a run** of the agent `did` and the relay. -/
inductive LifecycleStep (c : Primitives) (did : String) (signingPrivateKey : Bytes) :
    LifecycleState → LifecycleEvent → LifecycleState → Prop
  | publish {s : LifecycleState} {localeCompare : String → String → Bool} {realm : String}
      {now : ℕ} :
      LifecycleStep c did signingPrivateKey s .publish
        { s with
          db := publishBundles did realm (buildPublishedPreKeyBundles localeCompare s.config) now
            s.db }
  | claim {s : LifecycleState} {deviceId requesterRealm : String} {now : ℕ}
      {bundle : Option ClaimedPreKeyBundle} {db : PreKeyStore} :
      claimBundle did deviceId requesterRealm now s.db = (bundle, db) →
      LifecycleStep c did signingPrivateKey s (.claim deviceId bundle) { s with db := db }
  | device {s : LifecycleState} {event : DeviceEvent} {config : LocalE2EConfig} :
      DeviceStep c did signingPrivateKey s.config event config →
      LifecycleStep c did signingPrivateKey s (.device event) { s with config := config }

/-! ### What a publication stores -/

variable {config : LocalE2EConfig} {deviceId : String} {device : LocalDeviceState}

/-- A configuration lists every device once. -/
theorem deviceIds_nodup (hkeyed : config.Keyed) (localeCompare : String → String → Bool) :
    ((buildPublishedPreKeyBundles localeCompare config).map
      fun bundle => bundle.deviceId).Nodup := by
  have hids : config.devices.values.map (fun device => device.deviceId) = config.devices.keys := by
    rw [Record.values, Record.keys, List.map_map]
    refine List.map_congr_left ?_
    intro entry hentry
    exact hkeyed entry.1 entry.2 ((Record.get?_eq_some_iff _ _ _).mpr hentry)
  rw [buildPublishedPreKeyBundles, List.map_map]
  have hperm : ((config.devices.values.insertionSort fun left right =>
      localeCompare left.deviceId right.deviceId).map fun device => device.deviceId).Perm
        config.devices.keys := by
    rw [← hids]
    exact (List.perm_insertionSort _ _).map _
  exact hperm.nodup_iff.mpr config.devices.nodupKeys

/-- **A publication stores every device's bundle**, in its normal form. -/
theorem get?_published {did realm : String} (hkeyed : config.Keyed)
    (hdevice : config.devices.get? deviceId = some device) (localeCompare : String → String → Bool)
    (now : ℕ) (db : PreKeyStore) :
    (publishBundles did realm (buildPublishedPreKeyBundles localeCompare config) now db).get?
        (bundleKey did deviceId)
      = some (storedRecord did realm now
          (normalizeBundle (buildPublishedPreKeyBundle device))) := by
  have hvalue : device ∈ config.devices.values :=
    (Record.mem_values_iff _ _).mpr ⟨deviceId, hdevice⟩
  have hmem : buildPublishedPreKeyBundle device
      ∈ buildPublishedPreKeyBundles localeCompare config :=
    List.mem_map_of_mem ((List.perm_insertionSort _ _).mem_iff.mpr hvalue)
  rw [← hkeyed deviceId device hdevice]
  exact get?_publishBundles (deviceIds_nodup hkeyed localeCompare) hmem

/-- **The one-time pre-keys of a published record** are unclaimed keys of the device. -/
theorem published_subperm (device : LocalDeviceState) :
    (normalizeBundle (buildPublishedPreKeyBundle device)).oneTimePreKeys.Subperm
      ((device.oneTimePreKeys.filter isUnclaimed).map fun key =>
        { keyId := key.keyId, publicKey := key.publicKey }) := by
  have hsorted : (buildPublishedOneTimePreKeys device).Perm
      ((device.oneTimePreKeys.filter isUnclaimed).map fun key =>
        { keyId := key.keyId, publicKey := key.publicKey }) :=
    (List.perm_insertionSort _ _).map _
  exact (normalizeOneTimePreKeys_subperm _).trans hsorted.subperm

/-! ### The public keys of the two sides -/

def publishedKeys (record : StoredPreKeyBundleRecord) : List HexString :=
  record.oneTimePreKeys.map fun key => key.publicKey

def deviceKeys (device : LocalDeviceState) : List HexString :=
  device.oneTimePreKeys.map fun key => key.publicKey

/-- The one-time pre-key that an event hands out for a device. -/
def LifecycleEvent.handsOut (deviceId : String) : LifecycleEvent → Option HexString
  | .claim id (some bundle) =>
      if id = deviceId then bundle.oneTimePreKey.map fun key => key.publicKey else none
  | _ => none

/-- The one-time pre-keys of a device that the claims of a run were given. -/
def handedOut (deviceId : String) (events : List LifecycleEvent) : List HexString :=
  events.filterMap fun event => event.handsOut deviceId

theorem handedOut_snoc (deviceId : String) (events : List LifecycleEvent)
    (event : LifecycleEvent) :
    handedOut deviceId (events ++ [event])
      = handedOut deviceId events ++ (event.handsOut deviceId).toList := by
  rw [handedOut, List.filterMap_append, handedOut]
  cases h : event.handsOut deviceId with
  | none => simp [h]
  | some key => simp [h]

theorem map_publicKey_markClaimed (keyId now : ℕ) (keys : List LocalOneTimePreKeyState) :
    (markClaimed keyId now keys).map (fun key => key.publicKey)
      = keys.map fun key => key.publicKey := by
  induction keys with
  | nil => rfl
  | cons key rest ih =>
    rw [markClaimed]
    split
    · rfl
    · rw [List.map_cons, ih, List.map_cons]

/-- **Only maintenance changes the keys of a device.** -/
theorem deviceKeys_of_change {c : Primitives} {signingPrivateKey : Bytes}
    {device' : LocalDeviceState} {event : DeviceEvent}
    (hchange : DeviceChange c signingPrivateKey config deviceId device event device')
    (hmaintains : ¬event.Maintains deviceId) : deviceKeys device' = deviceKeys device := by
  cases hchange with
  | sessions _ hsame =>
    rw [hsame]
    rfl
  | claim _ _ _ _ hsame =>
    rw [hsame]
    exact map_publicKey_markClaimed _ _ _
  | resupply _ => exact absurd (Or.inl rfl) hmaintains
  | rotate _ => exact absurd (Or.inr rfl) hmaintains

/-! ### No key is handed out twice -/

/-- The condition on a publication: no one-time pre-key that the relay has handed out is still
unclaimed on the device. -/
def PublishGuarded (deviceId : String) (history : List LifecycleEvent) (event : LifecycleEvent)
    (s : LifecycleState) : Prop :=
  event = .publish → ∀ device, s.config.devices.get? deviceId = some device →
    ∀ key ∈ device.oneTimePreKeys, isUnclaimed key = true →
      key.publicKey ∉ handedOut deviceId history

/-- A maintenance step draws different keys. -/
def DistinctDraw (deviceId : String) (event : LifecycleEvent) (s : LifecycleState) : Prop :=
  ∀ change, event = .device change → change.Maintains deviceId →
    ∀ device, s.config.devices.get? deviceId = some device → (deviceKeys device).Nodup

/-- What every step of a run has to meet. -/
def OneTimeGuard (deviceId : String) (history : List LifecycleEvent) (event : LifecycleEvent)
    (s : LifecycleState) : Prop :=
  PublishGuarded deviceId history event s ∧ DistinctDraw deviceId event s

/-- **The invariant**: the keys of the device differ, the handed-out keys differ, and the relay has
none of them left to hand out again. -/
structure OneTime (did deviceId : String) (history : List LifecycleEvent) (s : LifecycleState) :
    Prop where
  keyed : s.config.Keyed
  device : ∃ device, s.config.devices.get? deviceId = some device ∧ (deviceKeys device).Nodup
  handedOut : (handedOut deviceId history).Nodup
  stored : ∀ record, s.db.get? (bundleKey did deviceId) = some record →
    (publishedKeys record).Nodup ∧ (Relay.handedOut deviceId history).Disjoint (publishedKeys record)

section

variable {c : Primitives} {did deviceId : String} {signingPrivateKey : Bytes}

variable {history : List LifecycleEvent} {s : LifecycleState}

/-- A publication under its guard. -/
theorem OneTime.publish (hinv : OneTime did deviceId history s)
    (hguard : ∀ device, s.config.devices.get? deviceId = some device →
      ∀ key ∈ device.oneTimePreKeys, isUnclaimed key = true →
        key.publicKey ∉ Relay.handedOut deviceId history) (localeCompare : String → String → Bool)
    (realm : String) (now : ℕ) :
    OneTime did deviceId (history ++ [.publish])
      { s with
        db := publishBundles did realm (buildPublishedPreKeyBundles localeCompare s.config) now
          s.db } := by
  obtain ⟨device, hdevice, hnodup⟩ := hinv.device
  have hsame : Relay.handedOut deviceId (history ++ [.publish])
      = Relay.handedOut deviceId history := by
    rw [handedOut_snoc]
    exact List.append_nil _
  refine ⟨hinv.keyed, hinv.device, by rw [hsame]; exact hinv.handedOut, ?_⟩
  intro record hrecord
  rw [get?_published hinv.keyed hdevice, Option.some.injEq] at hrecord
  subst hrecord
  rw [hsame]
  obtain ⟨kept, hperm, hsub⟩ := published_subperm device
  have hkeys : (kept.map fun key => key.publicKey).Perm
      (publishedKeys (storedRecord did realm now
        (normalizeBundle (buildPublishedPreKeyBundle device)))) :=
    hperm.map _
  have hunclaimed : (kept.map fun key => key.publicKey).Sublist
      ((device.oneTimePreKeys.filter isUnclaimed).map fun key => key.publicKey) := by
    have hmap := hsub.map fun key => key.publicKey
    rw [List.map_map] at hmap
    exact hmap
  constructor
  · exact hkeys.nodup_iff.mp
      ((hnodup.sublist (List.filter_sublist.map _)).sublist hunclaimed)
  · intro publicKey hhanded hpublished
    obtain ⟨key, hkey, rfl⟩ :=
      List.mem_map.mp (hunclaimed.subset (hkeys.mem_iff.mpr hpublished))
    obtain ⟨hmem, hfree⟩ := List.mem_filter.mp hkey
    exact hguard device hdevice key hmem hfree hhanded

/-- A claim of the device hands out the first stored key, and the relay keeps the others. -/
theorem OneTime.claim (hinv : OneTime did deviceId history s) {id requesterRealm : String} {now : ℕ}
    {bundle : Option ClaimedPreKeyBundle} {db : PreKeyStore}
    (hclaim : claimBundle did id requesterRealm now s.db = (bundle, db)) :
    OneTime did deviceId (history ++ [.claim id bundle]) { s with db := db } := by
  cases bundle with
  | none =>
    have hsame : Relay.handedOut deviceId (history ++ [.claim id none])
        = Relay.handedOut deviceId history := by
      rw [handedOut_snoc]
      exact List.append_nil _
    rw [claimBundle_eq_none hclaim]
    exact ⟨hinv.keyed, hinv.device, by rw [hsame]; exact hinv.handedOut,
      by rw [hsame]; exact hinv.stored⟩
  | some bundle =>
    obtain ⟨stored, next, hstored, _, _, _, _, hhead, rfl, hnext⟩ := claimBundle_eq_some hclaim
    by_cases hid : id = deviceId
    · subst hid
      obtain ⟨hnodup, hdisjoint⟩ := hinv.stored stored hstored
      have hhanded : Relay.handedOut id (history ++ [.claim id (some bundle)])
          = Relay.handedOut id history ++ (publishedKeys stored).head?.toList := by
        rw [handedOut_snoc, LifecycleEvent.handsOut, if_pos rfl, hhead, publishedKeys,
          List.head?_map]
      have htail : publishedKeys next = (publishedKeys stored).tail := by
        rw [publishedKeys, publishedKeys, hnext, List.map_tail]
      -- the head of the record moves from the relay's side to the handed-out side
      have hsplit : (Relay.handedOut id history ++ publishedKeys stored).Nodup :=
        List.nodup_append'.mpr ⟨hinv.handedOut, hnodup, hdisjoint⟩
      have hmoved : ((Relay.handedOut id history ++ (publishedKeys stored).head?.toList)
          ++ (publishedKeys stored).tail).Nodup := by
        rw [List.append_assoc]
        cases hkeys : publishedKeys stored with
        | nil => simpa [hkeys] using hsplit
        | cons key rest => simpa [hkeys] using hsplit
      obtain ⟨hleft, hright, hdisjoint'⟩ := List.nodup_append'.mp hmoved
      refine ⟨hinv.keyed, hinv.device, by rw [hhanded]; exact hleft, ?_⟩
      intro record hrecord
      simp only [Record.get?_set_self, Option.some.injEq] at hrecord
      subst hrecord
      rw [hhanded, htail]
      exact ⟨hright, hdisjoint'⟩
    · have hsame : Relay.handedOut deviceId (history ++ [.claim id (some bundle)])
          = Relay.handedOut deviceId history := by
        rw [handedOut_snoc, LifecycleEvent.handsOut, if_neg hid]
        exact List.append_nil _
      refine ⟨hinv.keyed, hinv.device, by rw [hsame]; exact hinv.handedOut, ?_⟩
      intro record hrecord
      have hne : bundleKey did id ≠ bundleKey did deviceId := fun h => hid (bundleKey_inj.mp h)
      simp only [Record.get?_set_ne _ _ hne] at hrecord
      rw [hsame]
      exact hinv.stored record hrecord

/-- A step of the agent leaves the relay's side as it is. -/
theorem OneTime.device_step (hinv : OneTime did deviceId history s) {event : DeviceEvent}
    {config : LocalE2EConfig} (hstep : DeviceStep c did signingPrivateKey s.config event config)
    (hdraw : event.Maintains deviceId → ∀ device, config.devices.get? deviceId = some device →
      (deviceKeys device).Nodup) :
    OneTime did deviceId (history ++ [.device event]) { s with config := config } := by
  have hsame : Relay.handedOut deviceId (history ++ [.device event])
      = Relay.handedOut deviceId history := by
    rw [handedOut_snoc]
    exact List.append_nil _
  obtain ⟨device, hdevice, hnodup⟩ := hinv.device
  obtain ⟨device', hdevice', hchange⟩ := hstep.device hdevice
  refine ⟨hstep.keyed hinv.keyed, ⟨device', hdevice', ?_⟩, by rw [hsame]; exact hinv.handedOut,
    by rw [hsame]; exact hinv.stored⟩
  by_cases hmaintains : event.Maintains deviceId
  · exact hdraw hmaintains device' hdevice'
  · rw [deviceKeys_of_change hchange hmaintains]
    exact hnodup

/-- **One-time pre-keys are one-time.**  In every run of publications, claims, maintenance, sending
and receiving in which no bundle is published while a one-time pre-key that the relay has handed out
is still unclaimed on the device, no two claims are given the same one-time pre-key. -/
theorem handedOut_nodup {start s : LifecycleState} {events : List LifecycleEvent}
    (hkeyed : start.config.Keyed) {device : LocalDeviceState}
    (hdevice : start.config.devices.get? deviceId = some device)
    (hkeys : (deviceKeys device).Nodup)
    (hempty : start.db.get? (bundleKey did deviceId) = none)
    (hrun : GuardedTrace (LifecycleStep c did signingPrivateKey) (OneTimeGuard deviceId) start
      events s) :
    (handedOut deviceId events).Nodup := by
  have hinv : OneTime did deviceId events s := by
    refine hrun.invariant (OneTime did deviceId) ?_ ?_
    · refine ⟨hkeyed, ⟨device, hdevice, hkeys⟩, List.nodup_nil, ?_⟩
      intro record hrecord
      rw [hempty] at hrecord
      cases hrecord
    · intro history s event s' _ hinv hstep hguard
      cases hstep with
      | publish => exact hinv.publish (hguard.1 rfl) _ _ _
      | claim hclaim => exact hinv.claim hclaim
      | device hstep => exact hinv.device_step hstep (hguard.2 _ rfl)
  exact hinv.handedOut

end

/-! ### Two sample runs -/

/-- Bob publishes the bundle of his one device. -/
def bobPublish (config : LocalE2EConfig) (db : PreKeyStore) : PreKeyStore :=
  publishBundles "did:b" "public" (buildPublishedPreKeyBundles (fun _ _ => true) config) 1500 db

/-- Somebody claims it. -/
def claimBob (db : PreKeyStore) : Option ClaimedPreKeyBundle × PreKeyStore :=
  claimBundle "did:b" "device-b" "public" 1600 db

/-- The first publication and the first claim. -/
def bobPublished : PreKeyStore := bobPublish bobConfig Record.empty
def bobClaimed : Option ClaimedPreKeyBundle × PreKeyStore := claimBob bobPublished

/-- The second publication and the second claim, of what `config` holds by then. -/
def bobRepublished (config : LocalE2EConfig) : PreKeyStore := bobPublish config bobClaimed.2
def bobReclaimed (config : LocalE2EConfig) : Option ClaimedPreKeyBundle × PreKeyStore :=
  claimBob (bobRepublished config)

theorem bobPublish_step (config : LocalE2EConfig) (db : PreKeyStore) :
    LifecycleStep sample "did:b" [50] ⟨config, db⟩ .publish ⟨config, bobPublish config db⟩ :=
  .publish

theorem claimBob_step (config : LocalE2EConfig) (db : PreKeyStore) :
    LifecycleStep sample "did:b" [50] ⟨config, db⟩ (.claim "device-b" (claimBob db).1)
      ⟨config, (claimBob db).2⟩ := .claim rfl

theorem bobPublished_step : LifecycleStep sample "did:b" [50] ⟨bobConfig, Record.empty⟩ .publish
    ⟨bobConfig, bobPublished⟩ := bobPublish_step _ _

theorem bobClaimed_step : LifecycleStep sample "did:b" [50] ⟨bobConfig, bobPublished⟩
    (.claim "device-b" bobClaimed.1) ⟨bobConfig, bobClaimed.2⟩ := claimBob_step _ _

theorem bobRepublished_step (config : LocalE2EConfig) :
    LifecycleStep sample "did:b" [50] ⟨config, bobClaimed.2⟩ .publish
      ⟨config, bobRepublished config⟩ := bobPublish_step _ _

theorem bobReclaimed_step (config : LocalE2EConfig) :
    LifecycleStep sample "did:b" [50] ⟨config, bobRepublished config⟩
      (.claim "device-b" (bobReclaimed config).1) ⟨config, (bobReclaimed config).2⟩ :=
  claimBob_step _ _

theorem bobConsumed_step : LifecycleStep sample "did:b" [50] ⟨bobConfig, bobClaimed.2⟩
    (.device (.consume aliceBuilt.message bobConsumed))
    ⟨bobConsumed.e2eConfig, bobClaimed.2⟩ := .device (.consume bobConsumed_eq)

theorem bobDevice_eq : bobConfig.devices.get? "device-b" = some bobDevice :=
  (Option.some_get _).symm

/-- A step that neither publishes nor maintains meets the guard. -/
theorem oneTimeGuard_of_quiet {history : List LifecycleEvent} {event : LifecycleEvent}
    {s : LifecycleState} (hpublish : event ≠ .publish)
    (hresupply : event ≠ .device (.resupply deviceId))
    (hrotate : event ≠ .device (.rotate deviceId)) : OneTimeGuard deviceId history event s := by
  refine ⟨fun h => absurd h hpublish, ?_⟩
  intro change hevent hmaintains
  subst hevent
  rcases hmaintains with rfl | rfl
  · exact absurd rfl hresupply
  · exact absurd rfl hrotate

/-- Bob publishes, Alice claims and writes, Bob accepts her message, publishes again, and somebody
claims again. -/
def republishing : List LifecycleEvent :=
  [.publish, .claim "device-b" bobClaimed.1, .device (.consume aliceBuilt.message bobConsumed),
    .publish, .claim "device-b" (bobReclaimed bobConsumed.e2eConfig).1]

theorem republishing_run :
    GuardedTrace (LifecycleStep sample "did:b" [50]) (OneTimeGuard "device-b")
      ⟨bobConfig, Record.empty⟩ republishing
      ⟨bobConsumed.e2eConfig, (bobReclaimed bobConsumed.e2eConfig).2⟩ := by
  have hdraw (s : LifecycleState) : DistinctDraw "device-b" .publish s := fun _ h => by cases h
  have hpublished : GuardedTrace (LifecycleStep sample "did:b" [50]) (OneTimeGuard "device-b")
      ⟨bobConfig, Record.empty⟩ [.publish] ⟨bobConfig, bobPublished⟩ :=
    GuardedTrace.nil.snoc bobPublished_step
      ⟨fun _ _ _ _ _ _ hmem => absurd hmem List.not_mem_nil, hdraw _⟩
  have hclaimed := hpublished.snoc bobClaimed_step
    (oneTimeGuard_of_quiet (by simp) (by simp) (by simp))
  have hconsumed := hclaimed.snoc bobConsumed_step
    (oneTimeGuard_of_quiet (by simp) (by simp) (by simp))
  -- the key that was handed out is claimed by now
  have hspent : ∀ device ∈ bobConsumed.e2eConfig.devices.get? "device-b",
      ∀ key ∈ device.oneTimePreKeys, isUnclaimed key = true →
        key.publicKey ∉ handedOut "device-b" (republishing.take 3) := by
    decide +kernel
  have hrepublished := hconsumed.snoc (bobRepublished_step _) ⟨fun _ => hspent, hdraw _⟩
  exact hrepublished.snoc (bobReclaimed_step _)
    (oneTimeGuard_of_quiet (by simp) (by simp) (by simp))

/-- Its two claims are given two keys. -/
theorem handedOut_nodup_sample : (handedOut "device-b" republishing).Nodup :=
  handedOut_nodup (sampleConfig_keyed _ _ _) bobDevice_eq (by decide +kernel) rfl
    republishing_run

/-- Bob publishes and somebody claims, twice over. -/
def restarting : List LifecycleEvent :=
  [.publish, .claim "device-b" bobClaimed.1, .publish,
    .claim "device-b" (bobReclaimed bobConfig).1]

/-- **A key that is handed out twice**: Bob publishes his bundle again, as a restart does, before
the message under the claimed key has arrived. -/
theorem handedOut_twice :
    Trace (LifecycleStep sample "did:b" [50]) ⟨bobConfig, Record.empty⟩ restarting
      ⟨bobConfig, (bobReclaimed bobConfig).2⟩ ∧
    ¬(handedOut "device-b" restarting).Nodup :=
  ⟨(((Trace.nil.snoc bobPublished_step).snoc bobClaimed_step).snoc
    (bobRepublished_step _)).snoc (bobReclaimed_step _), by decide +kernel⟩

end QuadraA.Relay
