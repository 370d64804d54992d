import QuadraA.E2E.Types
import QuadraA.Lib.Except
import Mathlib.Data.List.Sort

/-!
# Device state: creation, publication and pre-key maintenance

`e2e/device-state.ts` with the signing of `e2e/signed-pre-key.ts`: a device with its identity key,
its signed pre-key and its one-time pre-keys, the bundle it publishes of them, and the two
maintenance steps that replace key material.

* `buildPublishedPreKeyBundle` — the bundle lists the keys without a `claimedAt` mark, by key id;
* `rotateLocalDeviceSignedPreKey`, `resupplyLocalDeviceOneTimePreKeys` — both replace every
  one-time pre-key, and number the new ones from 1 again.
-/

namespace QuadraA.E2E

open QuadraA.Lib

def SIGNED_PRE_KEY_TYPE : String := "SIGNED_PRE_KEY"
def DEFAULT_ONE_TIME_PRE_KEY_COUNT : ℕ := 16

/-- The values `generateX25519KeyPair`, `generateDeviceId` and `Date.now` return during one call;
`oneTimePreKeyPair i` is the pair drawn for the one-time pre-key of index `i`. -/
structure DeviceAmbient where
  deviceId : String
  identityKeyPair : X25519KeyPair
  signedPreKeyPair : X25519KeyPair
  oneTimePreKeyPair : ℕ → X25519KeyPair
  now : ℕ

/-- The pairs are as `generateX25519KeyPair` returns them. -/
structure DeviceAmbient.Generated (c : Primitives) (amb : DeviceAmbient) : Prop where
  identityKeyPair : IsKeyPair c amb.identityKeyPair
  signedPreKeyPair : IsKeyPair c amb.signedPreKeyPair
  oneTimePreKeyPair : ∀ index, IsKeyPair c (amb.oneTimePreKeyPair index)

/-- `options` of the maintenance functions. -/
structure PreKeyOptions where
  signedPreKeyId : Option ℕ := none
  oneTimePreKeyCount : Option ℕ := none
  now : Option ℕ := none

/-- `!key.claimedAt`: no mark, or the mark 0. -/
def isUnclaimed (key : LocalOneTimePreKeyState) : Bool := key.claimedAt.getD 0 = 0

def buildOneTimePreKeys (amb : DeviceAmbient) (count createdAt : ℕ) :
    List LocalOneTimePreKeyState :=
  (List.range count).map fun index =>
    { keyId := index + 1
      publicKey := bytesToHex (amb.oneTimePreKeyPair index).publicKey
      privateKey := bytesToHex (amb.oneTimePreKeyPair index).privateKey
      createdAt := createdAt
      claimedAt := none }

def buildPublishedOneTimePreKeys (device : LocalDeviceState) : List PublishedOneTimePreKey :=
  ((device.oneTimePreKeys.filter isUnclaimed).insertionSort fun left right =>
      left.keyId ≤ right.keyId).map fun key =>
    { keyId := key.keyId, publicKey := key.publicKey }

def nextSignedPreKeyId (config : LocalE2EConfig) (explicitSignedPreKeyId : Option ℕ) : ℕ :=
  match explicitSignedPreKeyId with
  | some signedPreKeyId => signedPreKeyId
  | none =>
      (config.devices.values.map fun device => device.signedPreKey.signedPreKeyId).foldl max 0 + 1

def buildSignedPreKeyPayload (c : Primitives) (deviceId : String) (signedPreKeyId : ℕ)
    (signedPreKeyPublic : Bytes) : Bytes :=
  c.encodeCBOR <| .map
    [("type", .text SIGNED_PRE_KEY_TYPE),
     ("version", .number E2E_PROTOCOL_VERSION),
     ("deviceId", .text deviceId),
     ("signedPreKeyId", .number signedPreKeyId),
     ("signedPreKeyPublic", .bytes signedPreKeyPublic)]

/-- The signature of the record that `signSignedPreKeyRecord` returns. -/
def signSignedPreKeyRecord (c : Primitives) (deviceId : String) (signedPreKeyId : ℕ)
    (signedPreKeyPublic signingPrivateKey : Bytes) : Bytes :=
  c.ed25519Sign (buildSignedPreKeyPayload c deviceId signedPreKeyId signedPreKeyPublic)
    signingPrivateKey

/-- The signed pre-key state that both the creation and the rotation build. -/
def buildSignedPreKey (c : Primitives) (deviceId : String) (signedPreKeyId : ℕ)
    (pair : X25519KeyPair) (signingPrivateKey : Bytes) (createdAt : ℕ) :
    LocalSignedPreKeyState where
  signedPreKeyId := signedPreKeyId
  publicKey := bytesToHex pair.publicKey
  privateKey := bytesToHex pair.privateKey
  signature := bytesToHex
    (signSignedPreKeyRecord c deviceId signedPreKeyId pair.publicKey signingPrivateKey)
  createdAt := createdAt

def createLocalDeviceState (c : Primitives) (amb : DeviceAmbient) (signingPrivateKey : Bytes)
    (deviceId : Option String) (options : PreKeyOptions) : LocalDeviceState :=
  let createdAt := options.now.getD amb.now
  let deviceId := deviceId.getD amb.deviceId
  { deviceId := deviceId
    createdAt := createdAt
    identityKey :=
      { publicKey := bytesToHex amb.identityKeyPair.publicKey
        privateKey := bytesToHex amb.identityKeyPair.privateKey }
    signedPreKey := buildSignedPreKey c deviceId (options.signedPreKeyId.getD 1)
      amb.signedPreKeyPair signingPrivateKey createdAt
    oneTimePreKeys := buildOneTimePreKeys amb
      (options.oneTimePreKeyCount.getD DEFAULT_ONE_TIME_PRE_KEY_COUNT) createdAt
    lastResupplyAt := createdAt
    sessions := Record.empty }

def createInitialLocalE2EConfig (c : Primitives) (amb : DeviceAmbient) (signingPrivateKey : Bytes)
    (deviceId : Option String) (options : PreKeyOptions) : LocalE2EConfig :=
  let device := createLocalDeviceState c amb signingPrivateKey deviceId options
  { currentDeviceId := device.deviceId, devices := Record.single device.deviceId device }

/-! ### Publication -/

def buildPublishedDeviceDirectoryEntry (device : LocalDeviceState) :
    PublishedDeviceDirectoryEntry where
  deviceId := device.deviceId
  identityKeyPublic := device.identityKey.publicKey
  signedPreKeyPublic := device.signedPreKey.publicKey
  signedPreKeyId := device.signedPreKey.signedPreKeyId
  signedPreKeySignature := device.signedPreKey.signature
  oneTimePreKeyCount := (device.oneTimePreKeys.filter isUnclaimed).length
  lastResupplyAt := device.lastResupplyAt

def buildPublishedPreKeyBundle (device : LocalDeviceState) : PublishedPreKeyBundle :=
  { buildPublishedDeviceDirectoryEntry device with
    oneTimePreKeys := buildPublishedOneTimePreKeys device }

/-- The bundles of every device, in the order `localeCompare` gives the device ids. -/
def buildPublishedPreKeyBundles (localeCompare : String → String → Bool)
    (config : LocalE2EConfig) : List PublishedPreKeyBundle :=
  (config.devices.values.insertionSort fun left right =>
    localeCompare left.deviceId right.deviceId).map buildPublishedPreKeyBundle

def buildClaimedPreKeyBundle (bundle : PublishedPreKeyBundle)
    (oneTimePreKey : Option PublishedOneTimePreKey) : ClaimedPreKeyBundle :=
  let remaining := match oneTimePreKey with
    | some _ => bundle.oneTimePreKeys.length - 1
    | none => bundle.oneTimePreKeys.length
  { bundle.toPublishedDeviceDirectoryEntry with
    oneTimePreKey := oneTimePreKey
    remainingOneTimePreKeyCount := remaining
    oneTimePreKeyCount := remaining }

/-! ### Maintenance -/

/-- How many one-time pre-keys a maintenance step builds when it is not told. -/
def maintenanceOneTimePreKeyCount (device : LocalDeviceState) (options : PreKeyOptions) : ℕ :=
  options.oneTimePreKeyCount.getD
    (max (device.oneTimePreKeys.filter isUnclaimed).length DEFAULT_ONE_TIME_PRE_KEY_COUNT)

/-- The device that a resupply stores. -/
def resuppliedDevice (amb : DeviceAmbient) (options : PreKeyOptions)
    (existingDevice : LocalDeviceState) : LocalDeviceState :=
  let createdAt := options.now.getD amb.now
  { existingDevice with
    oneTimePreKeys := buildOneTimePreKeys amb
      (maintenanceOneTimePreKeyCount existingDevice options) createdAt
    lastResupplyAt := createdAt }

/-- The device that a rotation stores: the one-time pre-keys are replaced as well. -/
def rotatedDevice (c : Primitives) (amb : DeviceAmbient) (signingPrivateKey : Bytes)
    (config : LocalE2EConfig) (deviceId : String) (options : PreKeyOptions)
    (existingDevice : LocalDeviceState) : LocalDeviceState :=
  { resuppliedDevice amb options existingDevice with
    signedPreKey := buildSignedPreKey c deviceId
      (nextSignedPreKeyId config options.signedPreKeyId) amb.signedPreKeyPair signingPrivateKey
      (options.now.getD amb.now) }

def rotateLocalDeviceSignedPreKey (c : Primitives) (amb : DeviceAmbient)
    (signingPrivateKey : Bytes) (config : LocalE2EConfig) (deviceId : String)
    (options : PreKeyOptions) : Except EncryptionError LocalE2EConfig :=
  match config.devices.get? deviceId with
  | none => .error (.missingDeviceState deviceId)
  | some existingDevice =>
      let nextDevice :=
        rotatedDevice c amb signingPrivateKey config deviceId options existingDevice
      .ok { config with devices := config.devices.set deviceId nextDevice }

def resupplyLocalDeviceOneTimePreKeys (amb : DeviceAmbient) (config : LocalE2EConfig)
    (deviceId : String) (options : PreKeyOptions) : Except EncryptionError LocalE2EConfig :=
  match config.devices.get? deviceId with
  | none => .error (.missingDeviceState deviceId)
  | some existingDevice =>
      let nextDevice := resuppliedDevice amb options existingDevice
      .ok { config with devices := config.devices.set deviceId nextDevice }

variable {amb : DeviceAmbient} {config next : LocalE2EConfig} {deviceId : String}
  {options : PreKeyOptions}

theorem rotateLocalDeviceSignedPreKey_eq_ok {c : Primitives} {signingPrivateKey : Bytes} :
    rotateLocalDeviceSignedPreKey c amb signingPrivateKey config deviceId options = .ok next ↔
      ∃ existing, config.devices.get? deviceId = some existing ∧
        { config with
          devices := config.devices.set deviceId
            (rotatedDevice c amb signingPrivateKey config deviceId options existing) } = next := by
  rw [rotateLocalDeviceSignedPreKey]
  cases config.devices.get? deviceId <;> simp

theorem resupplyLocalDeviceOneTimePreKeys_eq_ok :
    resupplyLocalDeviceOneTimePreKeys amb config deviceId options = .ok next ↔
      ∃ existing, config.devices.get? deviceId = some existing ∧
        { config with
          devices := config.devices.set deviceId
            (resuppliedDevice amb options existing) } = next := by
  rw [resupplyLocalDeviceOneTimePreKeys]
  cases config.devices.get? deviceId <;> simp

def getCurrentDeviceState (config : LocalE2EConfig) : Except EncryptionError LocalDeviceState :=
  match config.devices.get? config.currentDeviceId with
  | some device => .ok device
  | none => .error (.missingCurrentDevice config.currentDeviceId)

theorem getCurrentDeviceState_eq_ok {device : LocalDeviceState} :
    getCurrentDeviceState config = .ok device ↔
      config.devices.get? config.currentDeviceId = some device := by
  rw [getCurrentDeviceState]
  cases config.devices.get? config.currentDeviceId <;> simp

end QuadraA.E2E
