import Mathlib
import QuadraA.Lib.KeyRange
import QuadraA.Relay.PreKeyStore
import QuadraA.Runtime.PeerOperations

/-!
# The devices that are published

`publishBundles` deletes the records of the devices that are not listed by a scan of the keys of its
DID, from the prefix up to the prefix with one last letter.

* `publication_replaces_iff` — only listed devices can be claimed just when the scan visits every
  stored device that is not listed;
* `device_left_over` — a device id that begins with a letter behind the last one.
-/

namespace QuadraA.Relay

open QuadraA.Lib QuadraA.E2E
open QuadraA.Runtime (WellFormedDid append_cons_inj_of_count)

/-! ### Keys -/

theorem bundleKey_toList (did deviceId : String) :
    (bundleKey did deviceId).toList
      = "bundle:".toList ++ (did.toList ++ ':' :: deviceId.toList) := by
  rw [bundleKey, String.toList_append, String.toList_append, String.toList_append,
    List.append_assoc, List.append_assoc]
  rfl

/-- The key of a device goes on from that of none. -/
theorem bundleKey_eq_append (did deviceId : String) :
    (bundleKey did deviceId).toList = (bundleKey did "").toList ++ deviceId.toList := by
  rw [bundleKey_toList, bundleKey_toList, List.append_assoc, List.append_assoc]
  rfl

/-- **A key of a DID is none of another one.** -/
theorem did_of_bundleKey {did did' : String} (hdid : WellFormedDid did) (hdid' : WellFormedDid did')
    {deviceId : String} {rest : List Char}
    (h : (bundleKey did' deviceId).toList = (bundleKey did "").toList ++ rest) : did' = did := by
  rw [bundleKey_toList, bundleKey_toList, List.append_assoc, List.append_cancel_left_eq,
    List.append_assoc] at h
  exact String.toList_inj.mp (append_cons_inj_of_count (hdid'.2.trans hdid.2.symm) h).1

/-- The device id in a key. -/
theorem deviceIdOfKey_bundleKey (did deviceId : String) :
    deviceIdOfKey (bundleKey did "") (bundleKey did deviceId) = deviceId := by
  rw [deviceIdOfKey, bundleKey_eq_append, ← String.length_toList, List.drop_left,
    String.ofList_toList]

/-- **The device ids that the scan visits.** -/
def InScan (deviceId : String) : Prop := ∀ c ∈ deviceId.toList.head?, c < '\u00ff'

instance (deviceId : String) : Decidable (InScan deviceId) := by
  unfold InScan
  infer_instance

theorem inIterator_iff {did key : String} :
    inIterator (bundleKey did "") key = true ↔
      ∃ rest, key.toList = (bundleKey did "").toList ++ rest ∧ ∀ c ∈ rest.head?, c < '\u00ff' := by
  have hlast : "\u00ff" = String.singleton '\u00ff' := by decide +kernel
  rw [inIterator, Bool.and_eq_true, decide_eq_true_eq, decide_eq_true_eq, hlast]
  refine lt_prefixEnd_iff.trans ⟨?_, ?_⟩
  · rintro (hkey | ⟨c, t, hkey, hlt⟩)
    · exact ⟨[], hkey.trans (List.append_nil _).symm, nofun⟩
    · refine ⟨c :: t, hkey, fun first hfirst => ?_⟩
      rw [← Option.some.inj hfirst]
      exact hlt
  · rintro ⟨rest, hkey, hfirst⟩
    cases rest with
    | nil => exact Or.inl (hkey.trans (List.append_nil _))
    | cons c t => exact Or.inr ⟨c, t, hkey, hfirst c rfl⟩

theorem inIterator_bundleKey {did deviceId : String} :
    inIterator (bundleKey did "") (bundleKey did deviceId) = true ↔ InScan deviceId := by
  rw [inIterator_iff]
  constructor
  · rintro ⟨rest, hrest, hfirst⟩
    rw [bundleKey_eq_append, List.append_cancel_left_eq] at hrest
    rw [InScan, hrest]
    exact hfirst
  · exact fun h => ⟨deviceId.toList, bundleKey_eq_append did deviceId, h⟩

/-! ### Records -/

section

variable {did did' deviceId realm : String} {bundles : List PublishedPreKeyBundle} {now : ℕ}
  {db : PreKeyStore}

/-- **A device that is not listed** loses its record, if the scan visits it. -/
theorem get?_publishBundles_own (hlisted : deviceId ∉ bundles.map fun bundle => bundle.deviceId) :
    (publishBundles did realm bundles now db).get? (bundleKey did deviceId)
      = if InScan deviceId then none else db.get? (bundleKey did deviceId) := by
  have hids : (bundles.map normalizeBundle).map (fun bundle => bundle.deviceId)
      = bundles.map fun bundle => bundle.deviceId := by
    rw [List.map_map]
    rfl
  have hne : ∀ bundle ∈ bundles.map normalizeBundle,
      bundleKey did bundle.deviceId ≠ bundleKey did deviceId := by
    intro bundle hbundle hsame
    refine hlisted (hids ▸ List.mem_map.mpr ⟨bundle, hbundle, bundleKey_inj.mp hsame⟩)
  rw [publishBundles, Record.get?_foldl_set_of_ne _ _ _ _ hne, Record.get?_filterKeys, deviceIdOfKey_bundleKey, hids]
  by_cases hscan : InScan deviceId
  · rw [if_pos hscan, inIterator_bundleKey.mpr hscan, decide_eq_true hlisted]
    rfl
  · rw [if_neg hscan, Bool.eq_false_iff.mpr fun h => hscan (inIterator_bundleKey.mp h)]
    rfl

/-- **A record of another DID** is left. -/
theorem get?_publishBundles_other (hdid : WellFormedDid did) (hdid' : WellFormedDid did')
    (hne : did' ≠ did) : (publishBundles did realm bundles now db).get? (bundleKey did' deviceId)
      = db.get? (bundleKey did' deviceId) := by
  have hforeign : ∀ rest, (bundleKey did' deviceId).toList ≠ (bundleKey did "").toList ++ rest :=
    fun rest h => hne (did_of_bundleKey hdid hdid' h)
  have hwrites : ∀ bundle ∈ bundles.map normalizeBundle,
      bundleKey did bundle.deviceId ≠ bundleKey did' deviceId := by
    intro bundle _ hsame
    exact hforeign _ (hsame ▸ bundleKey_eq_append did bundle.deviceId)
  have hscan : inIterator (bundleKey did "") (bundleKey did' deviceId) = false := by
    refine Bool.eq_false_iff.mpr fun h => ?_
    obtain ⟨rest, hrest, -⟩ := inIterator_iff.mp h
    exact hforeign rest hrest
  rw [publishBundles, Record.get?_foldl_set_of_ne _ _ _ _ hwrites, Record.get?_filterKeys, hscan]
  rfl

/-- **A claim succeeds** for a record of the realm. -/
theorem claimBundle_isSome_iff {requesterRealm : String} :
    (claimBundle did deviceId requesterRealm now db).1.isSome = true ↔
      ∃ stored, db.get? (bundleKey did deviceId) = some stored ∧ stored.realm = requesterRealm := by
  rw [claimBundle]
  cases db.get? (bundleKey did deviceId) with
  | none => simp
  | some stored =>
    dsimp only
    split
    · rename_i hrealm
      simp [hrealm]
    · rename_i hrealm
      simpa using hrealm

end

/-! ### Publications -/

/-- What a publication is to do: only listed devices can be claimed, and the records of the other DIDs
are as they were. -/
structure Replaces (did realm : String) (bundles : List PublishedPreKeyBundle) (now : ℕ)
    (db : PreKeyStore) : Prop where
  listed : ∀ deviceId requesterRealm later, (claimBundle did deviceId requesterRealm later
      (publishBundles did realm bundles now db)).1.isSome = true →
    deviceId ∈ bundles.map fun bundle => bundle.deviceId
  others : ∀ did' deviceId, WellFormedDid did' → did' ≠ did →
    (publishBundles did realm bundles now db).get? (bundleKey did' deviceId)
      = db.get? (bundleKey did' deviceId)

/-- **A publication replaces the whole set of devices** just when the scan visits each stored device
that is not listed. -/
theorem publication_replaces_iff {did : String} (hdid : WellFormedDid did) (realm : String)
    (bundles : List PublishedPreKeyBundle) (now : ℕ) (db : PreKeyStore) :
    Replaces did realm bundles now db ↔
      ∀ deviceId, (db.get? (bundleKey did deviceId)).isSome = true →
        deviceId ∉ bundles.map (fun bundle => bundle.deviceId) → InScan deviceId := by
  constructor
  · intro hreplaces deviceId hstored hlisted
    by_contra hscan
    obtain ⟨stored, hstored⟩ := Option.isSome_iff_exists.mp hstored
    refine hlisted (hreplaces.listed deviceId stored.realm now ?_)
    rw [claimBundle_isSome_iff, get?_publishBundles_own hlisted, if_neg hscan]
    exact ⟨stored, hstored, rfl⟩
  · intro hscanned
    refine ⟨fun deviceId requesterRealm later hclaim => ?_, fun did' deviceId hdid' hne =>
      get?_publishBundles_other hdid hdid' hne⟩
    by_contra hlisted
    rw [claimBundle_isSome_iff, get?_publishBundles_own hlisted] at hclaim
    obtain ⟨stored, hstored, -⟩ := hclaim
    split at hstored
    · cases hstored
    · rename_i hscan
      exact hscan (hscanned deviceId (by rw [hstored]; rfl) hlisted)

/-! ### A device that is left -/

/-- A bundle without one-time pre-keys. -/
def bareBundle (deviceId : String) : PublishedPreKeyBundle where
  deviceId := deviceId
  identityKeyPublic := ⟨[1]⟩
  signedPreKeyPublic := ⟨[2]⟩
  signedPreKeyId := 1
  signedPreKeySignature := ⟨[3]⟩
  oneTimePreKeyCount := 0
  lastResupplyAt := 0
  oneTimePreKeys := []

/-- Alice has published two devices. -/
def twoDevices (first second : String) : PreKeyStore :=
  publishBundles "did:agent:zAlice" "public" [bareBundle first, bareBundle second] 1 .empty

theorem publication_replaces_iff_sample : WellFormedDid "did:agent:zAlice" ∧
    (Replaces "did:agent:zAlice" "public" [bareBundle "phone"] 2 (twoDevices "phone" "laptop") ↔
      ∀ deviceId,
        ((twoDevices "phone" "laptop").get? (bundleKey "did:agent:zAlice" deviceId)).isSome = true →
        deviceId ∉ [bareBundle "phone"].map (fun bundle => bundle.deviceId) → InScan deviceId) :=
  ⟨by decide +kernel, publication_replaces_iff (by decide +kernel) _ _ _ _⟩

/-- **A device whose id begins with a letter behind the last one** is still there when another device
alone is published, and its bundle can be claimed. -/
theorem device_left_over : WellFormedDid "did:agent:zAlice" ∧
    (claimBundle "did:agent:zAlice" "手机" "public" 3 (publishBundles "did:agent:zAlice" "public"
      [bareBundle "laptop"] 2 (twoDevices "laptop" "手机"))).1.isSome = true ∧
    ¬Replaces "did:agent:zAlice" "public" [bareBundle "laptop"] 2 (twoDevices "laptop" "手机") := by
  have hclaim : (claimBundle "did:agent:zAlice" "手机" "public" 3
      (publishBundles "did:agent:zAlice" "public" [bareBundle "laptop"] 2
        (twoDevices "laptop" "手机"))).1.isSome = true := by
    decide +kernel
  refine ⟨by decide +kernel, hclaim, fun hreplaces => ?_⟩
  exact absurd (hreplaces.listed _ _ _ hclaim) (by decide +kernel)

end QuadraA.Relay
