import QuadraA.E2E.DeviceState

/-!
# The pre-key store of the relay

`relay/src/prekey-store.ts`: the bundles that devices publish, one database record for each DID and
device, and the claims that hand them out.  Both operations of a DID run under one lock, so each is
one step here.

* `publishBundles` — every published bundle replaces the record of its device, with whatever
  one-time pre-keys it lists, and the records of the devices that are not listed are deleted;
* `claimBundle` — hands out the first one-time pre-key of a record and keeps the others.

`get?_publishBundles` and `claimBundle_eq_some` say what the two do to a record.
-/

namespace QuadraA.Relay

open QuadraA.Lib QuadraA.E2E

structure StoredPreKeyBundleRecord extends PublishedPreKeyBundle where
  did : String
  realm : String
  updatedAt : ℕ
deriving DecidableEq

/-- The database, by key. -/
abbrev PreKeyStore := Record String StoredPreKeyBundleRecord

/-- The filter over the set of the key ids seen so far. -/
def dropSeen (seen : List ℕ) : List PublishedOneTimePreKey → List PublishedOneTimePreKey
  | [] => []
  | key :: rest =>
      if key.keyId ∈ seen then dropSeen seen rest
      else key :: dropSeen (key.keyId :: seen) rest

def normalizeOneTimePreKeys (keys : List PublishedOneTimePreKey) : List PublishedOneTimePreKey :=
  dropSeen [] <|
    (keys.filter fun key => 0 < key.keyId ∧ key.publicKey.bytes ≠ []).insertionSort
      fun left right => left.keyId ≤ right.keyId

def normalizeBundle (bundle : PublishedPreKeyBundle) : PublishedPreKeyBundle :=
  let oneTimePreKeys := normalizeOneTimePreKeys bundle.oneTimePreKeys
  { bundle with
    oneTimePreKeyCount := oneTimePreKeys.length
    oneTimePreKeys := oneTimePreKeys }

def bundleKey (did deviceId : String) : String := "bundle:" ++ did ++ ":" ++ deviceId

/-- The keys that `db.iterator({ gte: prefix, lt: prefix + '\xff' })` visits. -/
def inIterator (bundlePrefix key : String) : Bool :=
  decide (bundlePrefix ≤ key) && decide (key < bundlePrefix ++ "\u00ff")

/-- `key.slice(prefix.length)`. -/
def deviceIdOfKey (bundlePrefix key : String) : String :=
  String.ofList (key.toList.drop bundlePrefix.length)

def storedRecord (did realm : String) (updatedAt : ℕ) (bundle : PublishedPreKeyBundle) :
    StoredPreKeyBundleRecord :=
  { bundle with
    did := did
    realm := realm
    updatedAt := updatedAt
    oneTimePreKeyCount := bundle.oneTimePreKeys.length }

def publishBundles (did realm : String) (bundles : List PublishedPreKeyBundle) (now : ℕ)
    (db : PreKeyStore) : PreKeyStore :=
  let normalizedBundles := bundles.map normalizeBundle
  let nextDeviceIds := normalizedBundles.map fun bundle => bundle.deviceId
  let bundlePrefix := bundleKey did ""
  let db := db.filterKeys fun key =>
    !(inIterator bundlePrefix key && deviceIdOfKey bundlePrefix key ∉ nextDeviceIds)
  normalizedBundles.foldl
    (fun db bundle => db.set (bundleKey did bundle.deviceId) (storedRecord did realm now bundle))
    db

def claimBundle (did deviceId requesterRealm : String) (now : ℕ) (db : PreKeyStore) :
    Option ClaimedPreKeyBundle × PreKeyStore :=
  match db.get? (bundleKey did deviceId) with
  | none => (none, db)
  | some stored =>
      if stored.realm ≠ requesterRealm then (none, db)
      else
        let oneTimePreKey := stored.oneTimePreKeys.head?
        let remainingKeys := stored.oneTimePreKeys.tail
        let nextRecord :=
          { stored with
            oneTimePreKeys := remainingKeys
            oneTimePreKeyCount := remainingKeys.length
            updatedAt := now }
        (some
          { deviceId := stored.deviceId
            identityKeyPublic := stored.identityKeyPublic
            signedPreKeyPublic := stored.signedPreKeyPublic
            signedPreKeyId := stored.signedPreKeyId
            signedPreKeySignature := stored.signedPreKeySignature
            oneTimePreKeyCount := remainingKeys.length
            oneTimePreKey := oneTimePreKey
            remainingOneTimePreKeyCount := remainingKeys.length
            lastResupplyAt := stored.lastResupplyAt },
          db.set (bundleKey did deviceId) nextRecord)

/-! ### Normal form -/

theorem dropSeen_sublist (seen : List ℕ) (keys : List PublishedOneTimePreKey) :
    (dropSeen seen keys).Sublist keys := by
  induction keys generalizing seen with
  | nil => exact List.Sublist.refl []
  | cons key rest ih =>
    rw [dropSeen]
    split
    · exact (ih seen).cons key
    · exact (ih (key.keyId :: seen)).cons_cons key

/-- **The stored one-time pre-keys** are, up to their order, some of the published ones. -/
theorem normalizeOneTimePreKeys_subperm (keys : List PublishedOneTimePreKey) :
    (normalizeOneTimePreKeys keys).Subperm keys := by
  have hsub := dropSeen_sublist []
    ((keys.filter fun key => 0 < key.keyId ∧ key.publicKey.bytes ≠ []).insertionSort
      fun left right => left.keyId ≤ right.keyId)
  exact hsub.subperm.trans ((List.perm_insertionSort _ _).subperm.trans
    List.filter_sublist.subperm)

/-! ### What the two operations do to a record -/

variable {did deviceId requesterRealm : String} {now : ℕ} {db db' : PreKeyStore}

theorem bundleKey_inj {deviceId' : String} :
    bundleKey did deviceId = bundleKey did deviceId' ↔ deviceId = deviceId' :=
  String.append_right_inj _

/-- **A publication** stores the normal form of every bundle it lists. -/
theorem get?_publishBundles {realm : String} {bundles : List PublishedPreKeyBundle}
    (hids : (bundles.map fun bundle => bundle.deviceId).Nodup) {bundle : PublishedPreKeyBundle}
    (hbundle : bundle ∈ bundles) :
    (publishBundles did realm bundles now db).get? (bundleKey did bundle.deviceId)
      = some (storedRecord did realm now (normalizeBundle bundle)) := by
  have hkeys : ((bundles.map normalizeBundle).map
      fun bundle => bundleKey did bundle.deviceId).Nodup := by
    rw [List.map_map]
    have hcomp : ((fun bundle : PublishedPreKeyBundle => bundleKey did bundle.deviceId)
        ∘ normalizeBundle) = bundleKey did ∘ fun bundle => bundle.deviceId := rfl
    rw [hcomp, ← List.map_map]
    exact hids.map fun a b h => bundleKey_inj.mp h
  rw [publishBundles]
  exact Record.get?_foldl_set_of_mem (fun bundle => bundleKey did bundle.deviceId)
    (storedRecord did realm now) hkeys _ (List.mem_map_of_mem hbundle)

/-- **A claim that hands out a bundle** hands out the first key of the record and keeps the
others. -/
theorem claimBundle_eq_some {bundle : ClaimedPreKeyBundle}
    (h : claimBundle did deviceId requesterRealm now db = (some bundle, db')) :
    ∃ stored next, db.get? (bundleKey did deviceId) = some stored ∧
      bundle.deviceId = stored.deviceId ∧
      bundle.identityKeyPublic = stored.identityKeyPublic ∧
      bundle.signedPreKeyPublic = stored.signedPreKeyPublic ∧
      bundle.signedPreKeyId = stored.signedPreKeyId ∧
      bundle.oneTimePreKey = stored.oneTimePreKeys.head? ∧
      db' = db.set (bundleKey did deviceId) next ∧
      next = { stored with
        oneTimePreKeys := stored.oneTimePreKeys.tail
        oneTimePreKeyCount := next.oneTimePreKeyCount
        updatedAt := next.updatedAt } := by
  rw [claimBundle] at h
  cases hstored : db.get? (bundleKey did deviceId) with
  | none => simp [hstored] at h
  | some stored =>
    simp only [hstored] at h
    split at h
    · cases h
    · simp only [Prod.mk.injEq, Option.some.injEq] at h
      obtain ⟨rfl, rfl⟩ := h
      exact ⟨stored, _, rfl, rfl, rfl, rfl, rfl, rfl, rfl, rfl⟩

/-- A claim that hands out nothing changes nothing. -/
theorem claimBundle_eq_none (h : claimBundle did deviceId requesterRealm now db = (none, db')) :
    db' = db := by
  rw [claimBundle] at h
  split at h
  · simp_all
  · split at h
    · simp_all
    · cases h

end QuadraA.Relay
