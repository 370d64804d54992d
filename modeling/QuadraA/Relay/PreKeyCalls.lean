import QuadraA.Relay.PreKeyStore
import QuadraA.Lib.LockChain
import QuadraA.Lib.Trace

/-!
# Concurrent calls of the pre-key store

`PreKeyStore` of `relay/src/prekey-store.ts`, its calls interleaved at the `await` points: a call
takes the lock of its DID, and reads and writes the database record by record.

* `preKeys_serialised` — order, independence and accounts of the calls, in every run in which no
  operation writes a record that a claim under another DID is about to write;
* `handed_out_twice` — two DIDs that name one record.

A database operation may fail, and then changes nothing.
-/

namespace QuadraA.Relay

open QuadraA.Lib QuadraA.E2E

def didKey (did : String) : String := "did:" ++ did

theorem didKey_inj : didKey did = didKey did' ↔ did = did' :=
  String.append_right_inj _

/-! ### Claims -/

/-- The answer of `claimBundle` on a record. -/
def claimedBundle (stored : StoredPreKeyBundleRecord) : ClaimedPreKeyBundle where
  deviceId := stored.deviceId
  identityKeyPublic := stored.identityKeyPublic
  signedPreKeyPublic := stored.signedPreKeyPublic
  signedPreKeyId := stored.signedPreKeyId
  signedPreKeySignature := stored.signedPreKeySignature
  oneTimePreKeyCount := stored.oneTimePreKeys.tail.length
  oneTimePreKey := stored.oneTimePreKeys.head?
  remainingOneTimePreKeyCount := stored.oneTimePreKeys.tail.length
  lastResupplyAt := stored.lastResupplyAt

/-- `nextRecord` of `claimBundle`. -/
def nextRecord (stored : StoredPreKeyBundleRecord) (now : ℕ) : StoredPreKeyBundleRecord :=
  { stored with
    oneTimePreKeys := stored.oneTimePreKeys.tail
    oneTimePreKeyCount := stored.oneTimePreKeys.tail.length
    updatedAt := now }

variable {deviceId realm : String} {db : PreKeyStore} {stored : StoredPreKeyBundleRecord}
  {bundle : ClaimedPreKeyBundle}

theorem claimBundle_of_get {now : ℕ} (hget : db.get? (bundleKey did deviceId) = some stored)
    (hrealm : stored.realm = realm) :
    claimBundle did deviceId realm now db
      = (some (claimedBundle stored),
          db.set (bundleKey did deviceId) (nextRecord stored now)) := by
  subst hrealm
  simp only [claimBundle, hget, ne_eq, not_true_eq_false, if_false]
  rfl

/-! ### Calls -/

/-- What a call still has to do: it has not begun, or it stands before a database operation or the
end of its section. -/
inductive PreKeyBody where
  | publish (realm : String) (bundles : List PublishedPreKeyBundle)
  | deleting (realm : String) (bundles : List PublishedPreKeyBundle) (keys : List String)
  | putting (realm : String) (updatedAt : ℕ) (bundles : List PublishedPreKeyBundle)
  | claim (deviceId requesterRealm : String)
  | claiming (deviceId : String) (stored : StoredPreKeyBundleRecord) (now : ℕ)
  | finished

structure PreKeyState where
  locks : LockChains String PreKeyBody
  db : PreKeyStore

inductive PreKeyEvent where
  | called (did : String) (body : PreKeyBody)
  | started (i : ℕ)
  | deleted (i : ℕ) (key : String)
  | stamped (i now : ℕ)
  | published (i : ℕ) (key : String) (record : StoredPreKeyBundleRecord)
  | completed (i : ℕ)
  | fetched (i now : ℕ)
  | refused (i : ℕ)
  | claimed (i : ℕ) (key : String) (bundle : ClaimedPreKeyBundle)
  | threw (i : ℕ)
  | left (i : ℕ)

/-- The records that `publishBundles` deletes, in the order of the iterator. -/
def staleKeys (did : String) (bundles : List PublishedPreKeyBundle) (db : PreKeyStore) :
    List String :=
  (db.keys.filter fun key => inIterator (bundleKey did "") key &&
    deviceIdOfKey (bundleKey did "") key ∉ bundles.map fun bundle => bundle.deviceId).insertionSort
      fun left right => left ≤ right

/-- The call that writes or deletes a record. -/
def PreKeyEvent.writes : PreKeyEvent → Option (ℕ × String)
  | .deleted i key => some (i, key)
  | .published i key _ => some (i, key)
  | .claimed i key _ => some (i, key)
  | _ => none

namespace PreKeyState

/-- A call for a DID is inside its section. -/
def At (s : PreKeyState) (i : ℕ) (did : String) (previous : Option ℕ) (body : PreKeyBody) : Prop :=
  s.locks.calls i = some ⟨didKey did, previous, .inside body⟩

/-- The call goes on. -/
def go (s : PreKeyState) (i : ℕ) (did : String) (previous : Option ℕ) (body : PreKeyBody) :
    PreKeyState :=
  { s with locks := s.locks.setPhase i (didKey did) previous (.inside body) }

end PreKeyState

/-- A call is made for a publication or a claim. -/
def PreKeyBody.Call : PreKeyBody → Prop
  | .publish _ _ => True
  | .claim _ _ => True
  | _ => False

/-- Where a call stands once it has the lock: `publishBundles` has made its iterator. -/
def PreKeyBody.begin (did : String) (db : PreKeyStore) : PreKeyBody → PreKeyBody
  | .publish realm bundles =>
      .deleting realm (bundles.map normalizeBundle) (staleKeys did (bundles.map normalizeBundle) db)
  | .claim deviceId requesterRealm => .claim deviceId requesterRealm
  | _ => .finished

/-- The next database operation of a call may throw.  A claim that cannot read answers `null`. -/
def PreKeyBody.MayThrow : PreKeyBody → Prop
  | .deleting _ _ _ => True
  | .putting _ _ _ => True
  | .claiming _ _ _ => True
  | _ => False

/-- **What happens between two `await`s.** -/
inductive PreKeyStep (s : PreKeyState) : PreKeyEvent → PreKeyState → Prop
  | called {did : String} {body : PreKeyBody} :
      body.Call →
      PreKeyStep s (.called did body) { s with locks := s.locks.call (didKey did) body }
  | started {i : ℕ} {did : String} {previous : Option ℕ} {body : PreKeyBody} :
      s.locks.calls i = some ⟨didKey did, previous, .waiting body⟩ →
      (∀ j, previous = some j → s.locks.Left j) →
      PreKeyStep s (.started i) (s.go i did previous (body.begin did s.db))
  -- `publishBundles`
  | deleted {i : ℕ} {did realm key : String} {previous : Option ℕ}
      {bundles : List PublishedPreKeyBundle} {keys : List String} :
      s.At i did previous (.deleting realm bundles (key :: keys)) →
      PreKeyStep s (.deleted i key)
        ({ s with db := s.db.erase key }.go i did previous (.deleting realm bundles keys))
  | stamped {i now : ℕ} {did realm : String} {previous : Option ℕ}
      {bundles : List PublishedPreKeyBundle} :
      s.At i did previous (.deleting realm bundles []) →
      PreKeyStep s (.stamped i now) (s.go i did previous (.putting realm now bundles))
  | published {i updatedAt : ℕ} {did realm : String} {previous : Option ℕ}
      {bundle : PublishedPreKeyBundle} {bundles : List PublishedPreKeyBundle} :
      s.At i did previous (.putting realm updatedAt (bundle :: bundles)) →
      PreKeyStep s
        (.published i (bundleKey did bundle.deviceId) (storedRecord did realm updatedAt bundle))
        ({ s with
            db := s.db.set (bundleKey did bundle.deviceId)
              (storedRecord did realm updatedAt bundle) }.go i did previous
          (.putting realm updatedAt bundles))
  | completed {i updatedAt : ℕ} {did realm : String} {previous : Option ℕ} :
      s.At i did previous (.putting realm updatedAt []) →
      PreKeyStep s (.completed i) (s.go i did previous .finished)
  -- `claimBundle`
  | fetched {i now : ℕ} {did deviceId realm : String} {previous : Option ℕ}
      {stored : StoredPreKeyBundleRecord} :
      s.At i did previous (.claim deviceId realm) →
      s.db.get? (bundleKey did deviceId) = some stored → stored.realm = realm →
      PreKeyStep s (.fetched i now) (s.go i did previous (.claiming deviceId stored now))
  | refused {i : ℕ} {did deviceId realm : String} {previous : Option ℕ} :
      s.At i did previous (.claim deviceId realm) →
      PreKeyStep s (.refused i) (s.go i did previous .finished)
  | claimed {i now : ℕ} {did deviceId : String} {previous : Option ℕ}
      {stored : StoredPreKeyBundleRecord} :
      s.At i did previous (.claiming deviceId stored now) →
      PreKeyStep s (.claimed i (bundleKey did deviceId) (claimedBundle stored))
        ({ s with db := s.db.set (bundleKey did deviceId) (nextRecord stored now) }.go i did
          previous .finished)
  | threw {i : ℕ} {did : String} {previous : Option ℕ} {body : PreKeyBody} :
      s.At i did previous body → body.MayThrow →
      PreKeyStep s (.threw i) (s.go i did previous .finished)
  | left {i : ℕ} {did : String} {previous : Option ℕ} :
      s.At i did previous .finished →
      PreKeyStep s (.left i)
        { s with
          locks := (s.locks.setPhase i (didKey did) previous .left).release i (didKey did) }

variable {s s' start : PreKeyState} {event : PreKeyEvent} {events : List PreKeyEvent}
  {i j : ℕ} {did did' : String} {previous previous' : Option ℕ} {body body' : PreKeyBody}

/-! ### Locks -/

/-- Every step is a step of the promises. -/
theorem locks_of_step (hstep : PreKeyStep s event s') : ChainStep s.locks s'.locks := by
  cases hstep with
  | called _ => exact .called
  | started hi hresolved => exact .started hi hresolved
  | deleted hi => exact .moved hi
  | stamped hi => exact .moved hi
  | published hi => exact .moved hi
  | completed hi => exact .moved hi
  | fetched hi _ _ => exact .moved hi
  | refused hi => exact .moved hi
  | claimed hi => exact .moved hi
  | threw hi _ => exact .moved hi
  | left hi => exact .left hi

/-- A call that goes on is the only one inside for its DID. -/
theorem PreKeyState.at_go (h : (s.go i did previous body).At j did' previous' body') :
    j = i ∧ did' = did ∧ body' = body ∨ j ≠ i ∧ s.At j did' previous' body' := by
  rcases LockChains.calls_setPhase h with ⟨hj, hcall⟩ | hother
  · injection hcall with hkey _ hphase
    injection hphase with hbody
    exact Or.inl ⟨hj, didKey_inj.mp hkey, hbody⟩
  · exact Or.inr hother

/-! ### Fetched records -/

/-- **The condition of a step.**  No operation writes or deletes a record that a claim under another
DID has read and is about to write. -/
def CarefulPreKeyStep (s : PreKeyState) (event : PreKeyEvent) (s' : PreKeyState) : Prop :=
  PreKeyStep s event s' ∧
    ∀ i key did previous body, event.writes = some (i, key) → s.At i did previous body →
      ∀ j did' previous' deviceId stored now,
        s.At j did' previous' (.claiming deviceId stored now) →
          bundleKey did' deviceId = key → did' = did

/-- **The record that a claim has read is the stored one.** -/
def PreKeyState.Fetched (s : PreKeyState) : Prop :=
  ∀ i did previous deviceId stored now, s.At i did previous (.claiming deviceId stored now) →
    s.db.get? (bundleKey did deviceId) = some stored

/-- A write leaves the records alone that other claims have read. -/
theorem PreKeyState.Fetched.frame (h : s.Fetched) (hchained : Chained s.locks)
    (hi : s.At i did previous body) {key : String}
    (hdb : ∀ key', key' ≠ key → db.get? key' = s.db.get? key')
    (hcareful : ∀ j did' previous' deviceId stored now,
      s.At j did' previous' (.claiming deviceId stored now) → bundleKey did' deviceId = key →
        did' = did) (hbody : ∀ deviceId stored now, body' ≠ .claiming deviceId stored now) :
    ({ s with db := db }.go i did previous body').Fetched := by
  intro j did' previous' deviceId stored now hj
  rcases PreKeyState.at_go hj with ⟨_, _, hclaiming⟩ | ⟨hne, hj'⟩
  · exact absurd hclaiming.symm (hbody deviceId stored now)
  · have hold : s.At j did' previous' (.claiming deviceId stored now) := hj'
    have hkey : bundleKey did' deviceId ≠ key := by
      intro hkey
      obtain rfl := hcareful j did' previous' deviceId stored now hold hkey
      exact hne (hchained.exclusive hold hi)
    exact (hdb _ hkey).trans (h j did' previous' deviceId stored now hold)

theorem PreKeyState.Fetched.step (h : s.Fetched) (hchained : Chained s.locks)
    (hstep : CarefulPreKeyStep s event s') : s'.Fetched := by
  obtain ⟨hstep, hcareful⟩ := hstep
  -- a step that leaves the database alone
  have hquiet {i : ℕ} {did : String} {previous : Option ℕ} {body : PreKeyBody}
      (hbody : ∀ deviceId stored now, body = .claiming deviceId stored now →
        s.db.get? (bundleKey did deviceId) = some stored) : (s.go i did previous body).Fetched := by
    intro j did' previous' deviceId stored now hj
    rcases PreKeyState.at_go hj with ⟨_, rfl, hclaiming⟩ | ⟨_, hj'⟩
    · exact hbody deviceId stored now hclaiming.symm
    · exact h j did' previous' deviceId stored now hj'
  cases hstep with
  | @called did body _ =>
    intro j did' previous' deviceId stored now hj
    have hcalls : Function.update s.locks.calls s.locks.count
      (some ⟨didKey did, s.locks.chains (didKey did), .waiting body⟩) j
        = some ⟨didKey did', previous', .inside (.claiming deviceId stored now)⟩ := hj
    rcases update_apply_eq_iff.mp hcalls with ⟨_, hcalls⟩ | ⟨_, hcalls⟩
    · injection Option.some.inj hcalls with _ _ hphase
      cases hphase
    · exact h j did' previous' deviceId stored now hcalls
  | @started i did previous body hi _ =>
    refine hquiet fun deviceId stored now hbegin => ?_
    cases body <;> cases hbegin
  | @deleted i did realm key previous bundles keys hi =>
    exact h.frame hchained hi (fun key' hne => by rw [Record.get?_erase, if_neg hne.symm])
      (hcareful i key did previous _ rfl hi) nofun
  | stamped _ => exact hquiet nofun
  | published hi =>
    exact h.frame hchained hi (fun key' hne => Record.get?_set_ne _ _ hne.symm)
      (hcareful _ _ _ _ _ rfl hi) nofun
  | completed _ => exact hquiet nofun
  | fetched _ hget _ =>
    refine hquiet fun deviceId stored now hclaiming => ?_
    cases hclaiming
    exact hget
  | refused _ => exact hquiet nofun
  | claimed hi =>
    exact h.frame hchained hi (fun key' hne => Record.get?_set_ne _ _ hne.symm)
      (hcareful _ _ _ _ _ rfl hi) nofun
  | threw _ _ => exact hquiet nofun
  | @left i did previous hi =>
    intro j did' previous' deviceId stored now hj
    rcases LockChains.calls_setPhase hj with ⟨_, hcall⟩ | ⟨_, hj'⟩
    · injection hcall with _ _ hphase
      cases hphase
    · exact h j did' previous' deviceId stored now hj'

/-! ### Accounts -/

/-- **The account of a record**: the one-time pre-keys that were published last, and those that were
handed out since. -/
structure Account where
  published : List PublishedOneTimePreKey
  handedOut : List PublishedOneTimePreKey

/-- What an event does to the account of a record. -/
def PreKeyEvent.post (key : String) (account : Option Account) : PreKeyEvent → Option Account
  | .published _ key' record =>
      if key' = key then some ⟨record.oneTimePreKeys, []⟩ else account
  | .deleted _ key' => if key' = key then none else account
  | .claimed _ key' bundle =>
      if key' = key then
        account.map fun account =>
          { account with handedOut := account.handedOut ++ bundle.oneTimePreKey.toList }
      else account
  | _ => account

/-- The account of a record after a run, from what the callers have published and got. -/
def account (start : PreKeyStore) (events : List PreKeyEvent) (key : String) : Option Account :=
  events.foldl (PreKeyEvent.post key)
    ((start.get? key).map fun record => ⟨record.oneTimePreKeys, []⟩)

theorem account_snoc (start : PreKeyStore) (events : List PreKeyEvent) (event : PreKeyEvent)
    (key : String) :
    account start (events ++ [event]) key = event.post key (account start events key) := by
  rw [account, List.foldl_append]
  rfl

/-- The one-time pre-keys of a list have distinct ids. -/
def DistinctIds (keys : List PublishedOneTimePreKey) : Prop := (keys.map fun key => key.keyId).Nodup

/-- **The accounts are right**: a record has the keys that were published and not handed out. -/
structure Booked (start : PreKeyStore) (events : List PreKeyEvent) (db : PreKeyStore) : Prop where
  present : ∀ key record, db.get? key = some record → ∃ handedOut,
    account start events key = some ⟨handedOut ++ record.oneTimePreKeys, handedOut⟩
  absent : ∀ key, db.get? key = none → account start events key = none
  distinct : ∀ key entry, account start events key = some entry → DistinctIds entry.published

/-- The bundles that a call still has to store are normal. -/
def PreKeyBody.Normal : PreKeyBody → Prop
  | .deleting _ bundles _ => ∀ bundle ∈ bundles, DistinctIds bundle.oneTimePreKeys
  | .putting _ _ bundles => ∀ bundle ∈ bundles, DistinctIds bundle.oneTimePreKeys
  | _ => True

def PreKeyState.Normal (s : PreKeyState) : Prop :=
  ∀ i did previous body, s.At i did previous body → body.Normal

theorem dropSeen_distinct (seen : List ℕ) (keys : List PublishedOneTimePreKey) :
    DistinctIds (dropSeen seen keys) ∧ ∀ key ∈ dropSeen seen keys, key.keyId ∉ seen := by
  induction keys generalizing seen with
  | nil => exact ⟨List.nodup_nil, nofun⟩
  | cons key rest ih =>
    rw [dropSeen]
    split
    · exact ih seen
    · rename_i hnew
      obtain ⟨hdistinct, hunseen⟩ := ih (key.keyId :: seen)
      refine ⟨List.nodup_cons.mpr ⟨fun hmem => ?_, hdistinct⟩, fun key' hmem => ?_⟩
      · obtain ⟨key', hkey', hsame⟩ := List.mem_map.mp hmem
        exact hunseen key' hkey' (hsame ▸ List.mem_cons_self)
      · rcases List.mem_cons.mp hmem with rfl | hrest
        · exact hnew
        · exact fun hseen => hunseen key' hrest (List.mem_cons_of_mem _ hseen)

/-- **What is stored has each id once.** -/
theorem distinctIds_normalize (bundle : PublishedPreKeyBundle) :
    DistinctIds (normalizeBundle bundle).oneTimePreKeys :=
  (dropSeen_distinct [] _).1

theorem PreKeyState.Normal.go (h : s.Normal) (hbody : body.Normal) :
    ({ s with db := db }.go i did previous body).Normal := by
  intro j did' previous' body' hj
  rcases PreKeyState.at_go hj with ⟨_, _, rfl⟩ | ⟨_, hj'⟩
  · exact hbody
  · exact h j did' previous' body' hj'

theorem PreKeyState.Normal.step (h : s.Normal) (hstep : PreKeyStep s event s') : s'.Normal := by
  cases hstep with
  | @called did body _ =>
    intro j did' previous' body' hj
    have hcalls : Function.update s.locks.calls s.locks.count
      (some ⟨didKey did, s.locks.chains (didKey did), .waiting body⟩) j
        = some ⟨didKey did', previous', .inside body'⟩ := hj
    rcases update_apply_eq_iff.mp hcalls with ⟨_, hcalls⟩ | ⟨_, hcalls⟩
    · injection Option.some.inj hcalls with _ _ hphase
      cases hphase
    · exact h j did' previous' body' hcalls
  | @started i did previous body _ _ =>
    refine h.go ?_
    cases body with
    | publish realm bundles =>
      intro bundle hmem
      obtain ⟨bundle, _, rfl⟩ := List.mem_map.mp hmem
      exact distinctIds_normalize bundle
    | _ => exact trivial
  | deleted hi =>
    have hnormal := h _ _ _ _ hi
    exact h.go hnormal
  | stamped hi =>
    have hnormal := h _ _ _ _ hi
    exact h.go hnormal
  | published hi =>
    have hnormal := h _ _ _ _ hi
    exact h.go fun bundle hmem => hnormal bundle (List.mem_cons_of_mem _ hmem)
  | completed _ => exact h.go trivial
  | fetched _ _ _ => exact h.go trivial
  | refused _ => exact h.go trivial
  | claimed _ => exact h.go trivial
  | threw _ _ => exact h.go trivial
  | left _ =>
    intro j did' previous' body' hj
    rcases LockChains.calls_setPhase hj with ⟨_, hcall⟩ | ⟨_, hj'⟩
    · injection hcall with _ _ hphase
      cases hphase
    · exact h j did' previous' body' hj'

/-- An event that is not about a record. -/
theorem Booked.quiet {start : PreKeyStore} (h : Booked start events db)
    (hquiet : ∀ key entry, event.post key entry = entry) : Booked start (events ++ [event]) db := by
  have hsame (key : String) : account start (events ++ [event]) key = account start events key := by
    rw [account_snoc, hquiet]
  refine ⟨fun key record hget => ?_, fun key hget => ?_, fun key entry hentry => ?_⟩
  · rw [hsame]
    exact h.present key record hget
  · rw [hsame]
    exact h.absent key hget
  · rw [hsame] at hentry
    exact h.distinct key entry hentry

/-- A record is written with the keys that its account has left. -/
theorem Booked.set {start : PreKeyStore} (h : Booked start events db) {key : String}
    {record : StoredPreKeyBundleRecord} (handedOut : List PublishedOneTimePreKey)
    (hpost : event.post key (account start events key)
      = some ⟨handedOut ++ record.oneTimePreKeys, handedOut⟩)
    (hdistinct : DistinctIds (handedOut ++ record.oneTimePreKeys))
    (hother : ∀ key' entry, key' ≠ key → event.post key' entry = entry) :
    Booked start (events ++ [event]) (db.set key record) := by
  refine ⟨fun key' record' hget => ?_, fun key' hget => ?_, fun key' entry hentry => ?_⟩
  · rw [account_snoc]
    by_cases hkey : key' = key
    · rw [hkey, Record.get?_set_self] at hget
      obtain rfl := Option.some.inj hget
      exact ⟨handedOut, hkey ▸ hpost⟩
    · rw [Record.get?_set_ne _ _ (Ne.symm hkey)] at hget
      rw [hother key' _ hkey]
      exact h.present key' record' hget
  · rw [account_snoc]
    by_cases hkey : key' = key
    · rw [hkey, Record.get?_set_self] at hget
      cases hget
    · rw [Record.get?_set_ne _ _ (Ne.symm hkey)] at hget
      rw [hother key' _ hkey]
      exact h.absent key' hget
  · rw [account_snoc] at hentry
    by_cases hkey : key' = key
    · rw [hkey, hpost] at hentry
      obtain rfl := Option.some.inj hentry
      exact hdistinct
    · rw [hother key' _ hkey] at hentry
      exact h.distinct key' entry hentry

theorem Booked.erase {start : PreKeyStore} (h : Booked start events db) (i : ℕ) (key : String) :
    Booked start (events ++ [.deleted i key]) (db.erase key) := by
  have hpost (key' : String) : account start (events ++ [.deleted i key]) key'
      = if key = key' then none else account start events key' := account_snoc ..
  refine ⟨fun key' record' hget => ?_, fun key' hget => ?_, fun key' entry hentry => ?_⟩
  · rw [Record.get?_erase] at hget
    rw [hpost]
    split at hget
    · cases hget
    · rename_i hkey
      rw [if_neg hkey]
      exact h.present key' record' hget
  · rw [Record.get?_erase] at hget
    rw [hpost]
    split at hget
    · rename_i hkey
      rw [if_pos hkey]
    · rename_i hkey
      rw [if_neg hkey]
      exact h.absent key' hget
  · rw [hpost] at hentry
    split at hentry
    · cases hentry
    · exact h.distinct key' entry hentry

/-- The account of a claim: what it hands out is the next key, what it counts are the others. -/
theorem Booked.claimed {start : PreKeyStore} (h : Booked start events db) {key : String}
    (hget : db.get? key = some stored) :
    ∃ entry rest, account start events key = some entry ∧ DistinctIds entry.published ∧
      entry.published = entry.handedOut ++ (claimedBundle stored).oneTimePreKey.toList ++ rest ∧
      (claimedBundle stored).remainingOneTimePreKeyCount = rest.length ∧
      ((claimedBundle stored).oneTimePreKey = none → rest = []) ∧
      rest = stored.oneTimePreKeys.tail := by
  obtain ⟨handedOut, hentry⟩ := h.present key stored hget
  refine ⟨_, stored.oneTimePreKeys.tail, hentry, h.distinct key _ hentry, ?_, rfl, fun hnone => ?_,
    rfl⟩
  · dsimp only [claimedBundle]
    rw [List.append_assoc]
    congr 1
    cases stored.oneTimePreKeys <;> rfl
  · dsimp only [claimedBundle] at hnone
    rw [List.head?_eq_none_iff.mp hnone]
    rfl

/-- **Every step keeps the accounts right.** -/
theorem Booked.step {start : PreKeyStore} (h : Booked start events s.db) (hfetched : s.Fetched)
    (hnormal : s.Normal) (hstep : PreKeyStep s event s') :
    Booked start (events ++ [event]) s'.db := by
  cases hstep with
  | deleted _ => exact h.erase _ _
  | @published i updatedAt did realm previous bundle bundles hi =>
    have hdistinct : DistinctIds bundle.oneTimePreKeys := hnormal i did previous _ hi bundle
      List.mem_cons_self
    exact h.set [] (if_pos rfl) hdistinct fun _ _ hne => if_neg (Ne.symm hne)
  | @claimed i now did deviceId previous stored hi =>
    obtain ⟨entry, rest, hentry, hdistinct, hpublished, _, _, hrest⟩ :=
      h.claimed (hfetched i did previous deviceId stored now hi)
    subst hrest
    refine h.set (entry.handedOut ++ (claimedBundle stored).oneTimePreKey.toList) ?_ ?_
      fun _ _ hne => if_neg (Ne.symm hne)
    · rw [hentry]
      show (if _ = _ then _ else _) = _
      rw [if_pos rfl, Option.map_some]
      congr 1
      rw [hpublished]
      rfl
    · rw [hpublished] at hdistinct
      exact hdistinct
  | called _ => exact h.quiet fun _ _ => rfl
  | started _ _ => exact h.quiet fun _ _ => rfl
  | stamped _ => exact h.quiet fun _ _ => rfl
  | completed _ => exact h.quiet fun _ _ => rfl
  | fetched _ _ _ => exact h.quiet fun _ _ => rfl
  | refused _ => exact h.quiet fun _ _ => rfl
  | threw _ _ => exact h.quiet fun _ _ => rfl
  | left _ => exact h.quiet fun _ _ => rfl

/-! ### Runs -/

/-- A store that no call has been made to; the database is one that the store has written. -/
structure PreKeyState.Starting (s : PreKeyState) : Prop where
  locks : s.locks = LockChains.idle
  distinct : ∀ key record, s.db.get? key = some record → DistinctIds record.oneTimePreKeys

/-- What holds in every state of a careful run. -/
structure Serialised (start : PreKeyStore) (events : List PreKeyEvent) (s : PreKeyState) :
    Prop where
  chained : Chained s.locks
  fetched : s.Fetched
  normal : s.Normal
  booked : Booked start events s.db

theorem Serialised.of_starting (h : start.Starting) : Serialised start.db [] start := by
  have hidle {i : ℕ} {did : String} {previous : Option ℕ} {body : PreKeyBody} :
      ¬start.At i did previous body := by
    rw [PreKeyState.At, h.locks]
    nofun
  refine ⟨h.locks ▸ .idle, fun _ _ _ _ _ _ hi => absurd hi hidle, fun _ _ _ _ hi => absurd hi hidle,
    fun key record hget => ⟨[], ?_⟩, fun key hget => ?_, fun key entry hentry => ?_⟩
  · rw [account, List.foldl_nil, hget]
    rfl
  · rw [account, List.foldl_nil, hget]
    rfl
  · rw [account, List.foldl_nil, Option.map_eq_some_iff] at hentry
    obtain ⟨record, hget, rfl⟩ := hentry
    exact h.distinct key record hget

theorem Serialised.step {start : PreKeyStore} (h : Serialised start events s)
    (hstep : CarefulPreKeyStep s event s') : Serialised start (events ++ [event]) s' :=
  ⟨h.chained.step (locks_of_step hstep.1), h.fetched.step h.chained hstep, h.normal.step hstep.1,
    h.booked.step h.fetched h.normal hstep.1⟩

theorem Serialised.run (hstart : start.Starting)
    (hrun : Trace CarefulPreKeyStep start events s) : Serialised start.db events s := by
  induction hrun with
  | nil => exact .of_starting hstart
  | snoc _ hlast ih => exact ih.step hlast

/-- The call that an event belongs to. -/
def PreKeyEvent.call : PreKeyEvent → Option ℕ
  | .called _ _ => none
  | .started i | .deleted i _ | .stamped i _ | .published i _ _ | .completed i | .fetched i _
  | .refused i | .claimed i _ _ | .threw i | .left i => some i

/-- **A claim that has nothing to hand out** is refused, and changes no record. -/
theorem refused_of_missing (hi : s.At i did previous (.claim deviceId realm))
    (hmissing : ∀ stored, s.db.get? (bundleKey did deviceId) = some stored → stored.realm ≠ realm)
    (hstep : PreKeyStep s event s') (hcall : event.call = some i) :
    event = .refused i ∧ s'.db = s.db := by
  have hbody {did' : String} {previous' : Option ℕ} {phase : ChainPhase PreKeyBody}
      (hj : s.locks.calls i = some ⟨didKey did', previous', phase⟩) :
      did' = did ∧ phase = .inside (.claim deviceId realm) := by
    injection Option.some.inj (hj.symm.trans hi) with hkey _ hphase
    exact ⟨didKey_inj.mp hkey, hphase⟩
  cases hstep with
  | called _ => cases hcall
  | started hj _ => cases hcall; cases (hbody hj).2
  | deleted hj => cases hcall; cases (hbody hj).2
  | stamped hj => cases hcall; cases (hbody hj).2
  | published hj => cases hcall; cases (hbody hj).2
  | completed hj => cases hcall; cases (hbody hj).2
  | @fetched _ _ did' deviceId' realm' _ stored hj hget hrealm =>
    cases hcall
    obtain ⟨rfl, hphase⟩ := hbody hj
    cases hphase
    exact absurd hrealm (hmissing stored hget)
  | refused _ => cases hcall; exact ⟨rfl, rfl⟩
  | claimed hj => cases hcall; cases (hbody hj).2
  | threw hj hthrow =>
    cases hcall
    cases (hbody hj).2
    exact hthrow.elim
  | left hj => cases hcall; cases (hbody hj).2

/-- **A claim takes effect at once**, on the record as it is. -/
theorem claimBundle_of_claimed (hfetched : s.Fetched) {key : String}
    (hstep : PreKeyStep s (.claimed i key bundle) s') :
    ∃ did deviceId realm now, key = bundleKey did deviceId ∧
      claimBundle did deviceId realm now s.db = (some bundle, s'.db) := by
  cases hstep with
  | @claimed _ now did deviceId previous stored hi =>
    exact ⟨did, deviceId, stored.realm, now, rfl,
      claimBundle_of_get (hfetched i did previous deviceId stored now hi) rfl⟩

/-- The claims of a run. -/
theorem claimed_in_run (hstart : start.Starting) {before after : List PreKeyEvent} {key : String}
    (hrun : Trace CarefulPreKeyStep start (before ++ .claimed i key bundle :: after) s) :
    ∃ entry rest, account start.db before key = some entry ∧ DistinctIds entry.published ∧
      entry.published = entry.handedOut ++ bundle.oneTimePreKey.toList ++ rest ∧
      bundle.remainingOneTimePreKeyCount = rest.length ∧
      (bundle.oneTimePreKey = none → rest = []) := by
  obtain ⟨t, hbefore, hrest⟩ := hrun.of_append
  have hcut : Trace CarefulPreKeyStep t ([.claimed i key bundle] ++ after) s := hrest
  obtain ⟨t', hclaimed, _⟩ := hcut.of_append
  have hserialised := Serialised.run hstart hbefore
  cases hclaimed.of_singleton.1 with
  | @claimed _ now did deviceId previous stored hi =>
    obtain ⟨entry, rest, hentry, hdistinct, hpublished, hremaining, hnone, _⟩ :=
      hserialised.booked.claimed (hserialised.fetched i did previous deviceId stored now hi)
    exact ⟨entry, rest, hentry, hdistinct, hpublished, hremaining, hnone⟩

/-- **The calls of the pre-key store.**  In every careful run:

* the calls for one DID enter their sections one at a time, in the order in which they were made;
* a call is not blocked once the earlier calls for its DID have left, however they did;
* a call that throws leaves the database alone, and gives the lock back;
* a claim takes effect at once, on the record as it is;
* what a claim hands out is the next of the keys that were published last, each of which has another
  id, and what it counts are the keys that were not yet handed out;
* a claim for a device without a record, or with a record of another realm, changes nothing. -/
theorem preKeys_serialised (hstart : start.Starting)
    (hrun : Trace CarefulPreKeyStep start events s) :
    (∀ i j call call', i < j → s.locks.calls i = some call → s.locks.calls j = some call' →
      call.key = call'.key → (∀ body, call'.phase ≠ .waiting body) → s.locks.Left i) ∧
    (∀ j did previous body, s.locks.calls j = some ⟨didKey did, previous, .waiting body⟩ →
      (∀ i call, i < j → s.locks.calls i = some call → call.key = didKey did → s.locks.Left i) →
        ∃ s', PreKeyStep s (.started j) s') ∧
    (∀ i s', PreKeyStep s (.threw i) s' → s'.db = s.db ∧ ∃ s'', PreKeyStep s' (.left i) s'') ∧
    (∀ i key bundle s', PreKeyStep s (.claimed i key bundle) s' →
      ∃ did deviceId realm now, key = bundleKey did deviceId ∧
        claimBundle did deviceId realm now s.db = (some bundle, s'.db)) ∧
    (∀ before i key bundle after, events = before ++ .claimed i key bundle :: after →
      ∃ entry rest, account start.db before key = some entry ∧ DistinctIds entry.published ∧
        entry.published = entry.handedOut ++ bundle.oneTimePreKey.toList ++ rest ∧
        bundle.remainingOneTimePreKeyCount = rest.length ∧
        (bundle.oneTimePreKey = none → rest = [])) ∧
    ∀ i did previous deviceId realm, s.At i did previous (.claim deviceId realm) →
      (∀ stored, s.db.get? (bundleKey did deviceId) = some stored → stored.realm ≠ realm) →
        ∀ event s', PreKeyStep s event s' → event.call = some i →
          event = .refused i ∧ s'.db = s.db := by
  have hserialised := Serialised.run hstart hrun
  refine ⟨fun i j call call' hlt hi hj hkey hgoes =>
      hserialised.chained.turn j call' hj hgoes i call hlt hi hkey,
    fun j did previous body hj hleft =>
      ⟨_, .started hj (hserialised.chained.can_start hj hleft)⟩, fun i s' hthrew => ?_,
    fun i key bundle s' hclaimed => claimBundle_of_claimed hserialised.fetched hclaimed, ?_,
    fun i did previous deviceId realm hi hmissing event s' hstep hcall =>
      refused_of_missing hi hmissing hstep hcall⟩
  · cases hthrew with
    | threw hi _ => exact ⟨rfl, _, .left (Function.update_self ..)⟩
  · rintro before i key bundle after rfl
    exact claimed_in_run hstart hrun

/-! ### Runs of one store -/

/-- A record with two one-time pre-keys, of a device whose id holds a colon. -/
def twoKeys : StoredPreKeyBundleRecord where
  deviceId := "b:c"
  identityKeyPublic := ⟨[1]⟩
  signedPreKeyPublic := ⟨[2]⟩
  signedPreKeyId := 7
  signedPreKeySignature := ⟨[3]⟩
  oneTimePreKeyCount := 2
  lastResupplyAt := 5
  oneTimePreKeys := [⟨1, ⟨[4]⟩⟩, ⟨2, ⟨[5]⟩⟩]
  did := "did:agent:zA"
  realm := "public"
  updatedAt := 5

def twoKeysStore : PreKeyState where
  locks := .idle
  db := Record.single (bundleKey "did:agent:zA" "b:c") twoKeys

theorem twoKeysStore_starting : twoKeysStore.Starting := by
  refine ⟨rfl, fun key record hget => ?_⟩
  rw [twoKeysStore, Record.get?_single] at hget
  split at hget
  · obtain rfl := Option.some.inj hget
    exact (by decide : (twoKeys.oneTimePreKeys.map fun key => key.keyId).Nodup)
  · cases hget

/-- A claim is answered with the first key, and counts the second one. -/
theorem preKeys_serialised_sample :
    ∃ s entry rest,
      Trace CarefulPreKeyStep twoKeysStore
        [.called "did:agent:zA" (.claim "b:c" "public"), .started 0, .fetched 0 10,
          .claimed 0 (bundleKey "did:agent:zA" "b:c") (claimedBundle twoKeys)] s ∧
      account twoKeysStore.db [.called "did:agent:zA" (.claim "b:c" "public"), .started 0,
        .fetched 0 10] (bundleKey "did:agent:zA" "b:c") = some entry ∧
      (claimedBundle twoKeys).remainingOneTimePreKeyCount = rest.length ∧
      entry.published
        = entry.handedOut ++ (claimedBundle twoKeys).oneTimePreKey.toList ++ rest := by
  have hrun : Trace CarefulPreKeyStep twoKeysStore [] twoKeysStore := .nil
  have hcalled := hrun.snoc ⟨@PreKeyStep.called _ "did:agent:zA" (.claim "b:c" "public") trivial,
    nofun⟩
  have hstarted := hcalled.snoc ⟨@PreKeyStep.started _ 0 "did:agent:zA" none _ rfl nofun, nofun⟩
  have hfetched := hstarted.snoc ⟨@PreKeyStep.fetched _ 0 10 "did:agent:zA" "b:c" "public" none
    twoKeys rfl rfl rfl, nofun⟩
  have hclaimed := hfetched.snoc ⟨@PreKeyStep.claimed _ 0 10 "did:agent:zA" "b:c" none twoKeys rfl,
    by
      rintro i key did previous body hwrites hi j did' previous' deviceId stored now hj _
      cases hwrites
      have hzero : j = 0 := by
        by_contra hne
        simp [PreKeyState.At, PreKeyState.go, LockChains.setPhase, LockChains.call, twoKeysStore,
          LockChains.idle, hne] at hj
      subst hzero
      injection Option.some.inj (hj.symm.trans hi) with hkey
      exact didKey_inj.mp hkey⟩
  obtain ⟨entry, rest, hentry, _, hpublished, hremaining, _⟩ :=
    (preKeys_serialised twoKeysStore_starting hclaimed).2.2.2.2.1 _ _ _ _ [] rfl
  exact ⟨_, entry, rest, hclaimed, hentry, hremaining, hpublished⟩

/-- **One key for two callers.**  The DIDs `did:agent:zA` and `did:agent:zA:b` both name the record
of the device `b:c`, each under a lock of its own. -/
theorem handed_out_twice :
    ∃ s, Trace PreKeyStep twoKeysStore
        [.called "did:agent:zA" (.claim "b:c" "public"),
          .called "did:agent:zA:b" (.claim "c" "public"), .started 0, .started 1, .fetched 0 10,
          .fetched 1 10, .claimed 0 (bundleKey "did:agent:zA" "b:c") (claimedBundle twoKeys),
          .claimed 1 (bundleKey "did:agent:zA" "b:c") (claimedBundle twoKeys)] s ∧
      (claimedBundle twoKeys).oneTimePreKey = some ⟨1, ⟨[4]⟩⟩ := by
  have hrun : Trace PreKeyStep twoKeysStore [] twoKeysStore := .nil
  have hcalled := hrun.snoc (@PreKeyStep.called _ "did:agent:zA" (.claim "b:c" "public") trivial)
  have hcalled' := hcalled.snoc
    (@PreKeyStep.called _ "did:agent:zA:b" (.claim "c" "public") trivial)
  have hstarted := hcalled'.snoc (@PreKeyStep.started _ 0 "did:agent:zA" none _ (by rfl) nofun)
  have hstarted' := hstarted.snoc (@PreKeyStep.started _ 1 "did:agent:zA:b" none _ (by rfl) nofun)
  have hfetched := hstarted'.snoc (@PreKeyStep.fetched _ 0 10 "did:agent:zA" "b:c" "public" none
    twoKeys (by rfl) (by rfl) rfl)
  have hfetched' := hfetched.snoc (@PreKeyStep.fetched _ 1 10 "did:agent:zA:b" "c" "public" none
    twoKeys (by rfl) (by rfl) rfl)
  have hclaimed := hfetched'.snoc (@PreKeyStep.claimed _ 0 10 "did:agent:zA" "b:c" none twoKeys
    (by rfl))
  have hclaimed' := hclaimed.snoc (@PreKeyStep.claimed _ 1 10 "did:agent:zA:b" "c" none twoKeys
    (by rfl))
  exact ⟨_, hclaimed', rfl⟩

end QuadraA.Relay
