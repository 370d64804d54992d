import QuadraA.E2E.SessionSlots

/-!
# A computable instance of the primitives

A stand-in for the third-party primitives that the concrete runs of this development are evaluated
with.  It hides nothing, but it has the behaviour the repository relies on (`sample_lawful`): keys
agree, a key derivation has the length it is asked for, and a ciphertext opens under the very key,
nonce and associated data it was sealed with and under no other (`sample_ideal`).
-/

namespace QuadraA.E2E

open QuadraA.Lib

/-- Every byte behind a marker, and an end mark: a byte string that no other one extends. -/
def frame : Bytes → Bytes
  | [] => [0]
  | byte :: rest => 1 :: byte :: frame rest

/-- Frames can be read off the front of what they were written to. -/
theorem frame_append_inj {a b s t : Bytes} (h : frame a ++ s = frame b ++ t) : a = b ∧ s = t := by
  induction a generalizing b with
  | nil =>
    cases b with
    | nil => exact ⟨rfl, by simpa [frame] using h⟩
    | cons y b => simp [frame] at h
  | cons x a ih =>
    cases b with
    | nil => simp [frame] at h
    | cons y b =>
      simp only [frame, List.cons_append, List.cons.injEq, true_and] at h
      obtain ⟨hbyte, hrest⟩ := h
      obtain ⟨htail, hs⟩ := ih hrest
      exact ⟨by rw [hbyte, htail], hs⟩

/-- A digest of a byte string. -/
def digest (value : Bytes) : ℕ :=
  value.foldl (fun acc byte => (acc * 257 + byte.toNat + 1) % 65521) 7

def sampleHkdf (inputKeyMaterial salt info : Bytes) (length : ℕ) : Bytes :=
  let seed := digest (frame inputKeyMaterial ++ frame salt ++ frame info)
  (List.range length).map fun i => UInt8.ofNat (seed * (i + 1) / (if i % 2 = 0 then 1 else 256) + i)

/-- What a ciphertext starts with. -/
def sampleSeal (key nonce associatedData : Bytes) : Bytes :=
  frame key ++ (frame nonce ++ frame associatedData)

def sampleDecrypt (key nonce associatedData ciphertext : Bytes) : Option Bytes :=
  let header := sampleSeal key nonce associatedData
  if header.isPrefixOf ciphertext then some (ciphertext.drop header.length) else none

/-- The digits of a number, least significant first, for the counters that are encoded. -/
def encodeNumber (value : ℕ) : Bytes :=
  [UInt8.ofNat value, UInt8.ofNat (value / 256), UInt8.ofNat (value / 65536)]

def encodeScalar : CborValue → Bytes
  | .text value => 1 :: frame (utf8ToBytes value)
  | .number value => 2 :: frame (encodeNumber value)
  | .bytes value => 3 :: frame value
  | .array _ => [4]
  | .map _ => [5]

/-- The encoding of a flat map. -/
def sampleEncode : CborValue → Bytes
  | .map entries =>
      entries.flatMap fun entry => frame (utf8ToBytes entry.1) ++ encodeScalar entry.2
  | scalar => encodeScalar scalar

/-- The instance: public keys are their private keys, and agreement is a bytewise sum. -/
def sample : Primitives where
  derivePublicKey privateKey := privateKey
  nodeDiffieHellman privateKey publicKey := some (List.zipWith (· + ·) privateKey publicKey)
  hkdf := sampleHkdf
  aeadEncrypt key nonce associatedData plaintext :=
    sampleSeal key nonce associatedData ++ plaintext
  aeadDecrypt := sampleDecrypt
  encodeCBOR := sampleEncode
  decodeCBOR _ := none
  ed25519Sign message privateKey := frame privateKey ++ message
  ed25519Verify signature message publicKey := signature = frame publicKey ++ message

theorem sampleDecrypt_eq_some {key nonce associatedData ciphertext plaintext : Bytes} :
    sampleDecrypt key nonce associatedData ciphertext = some plaintext ↔
      ciphertext = sampleSeal key nonce associatedData ++ plaintext := by
  rw [sampleDecrypt]
  by_cases hprefix : (sampleSeal key nonce associatedData).isPrefixOf ciphertext = true
  · obtain ⟨rest, hrest⟩ := List.isPrefixOf_iff_prefix.mp hprefix
    subst hrest
    rw [if_pos hprefix, List.drop_left, Option.some.injEq, List.append_cancel_left_eq]
  · rw [if_neg hprefix]
    constructor
    · intro h
      exact absurd h (Option.some_ne_none _).symm
    · intro h
      rw [h] at hprefix
      exact absurd (List.isPrefixOf_iff_prefix.mpr (List.prefix_append _ _)) hprefix

/-- **The instance is lawful.** -/
theorem sample_lawful : sample.Lawful where
  diffieHellman_comm a b _ _ := by
    show some (List.zipWith (· + ·) a b) = some (List.zipWith (· + ·) b a)
    rw [List.zipWith_comm]
    congr 2
    funext x y
    exact UInt8.add_comm y x
  hkdf_length ikm salt info length := by
    show (sampleHkdf ikm salt info length).length = length
    simp [sampleHkdf]
  aeadDecrypt_aeadEncrypt key nonce associatedData plaintext _ _ :=
    sampleDecrypt_eq_some.mpr rfl

/-- **The cipher of the instance is ideal.** -/
theorem sample_ideal : sample.IdealAEAD where
  sealed_of_opens h := sampleDecrypt_eq_some.mp h
  aeadEncrypt_inj h := by
    simp only [sample, sampleSeal, List.append_assoc] at h
    obtain ⟨hkey, hrest⟩ := frame_append_inj h
    obtain ⟨hnonce, hrest⟩ := frame_append_inj hrest
    obtain ⟨hdata, hrest⟩ := frame_append_inj hrest
    exact ⟨hkey, hnonce, hdata, hrest⟩

/-! ### Sample key material -/

/-- A generated pair of the instance. -/
def samplePair (seed : UInt8) : X25519KeyPair where
  publicKey := List.replicate 32 seed
  privateKey := List.replicate 32 seed

theorem samplePair_isKeyPair (seed : UInt8) : IsKeyPair sample (samplePair seed) :=
  ⟨rfl, List.length_replicate, List.length_replicate⟩

/-- A device whose keys are drawn from `seed` on, with as many one-time pre-keys as asked for. -/
def sampleConfig (deviceId : String) (seed : UInt8) (oneTimePreKeyCount : ℕ) : LocalE2EConfig :=
  createInitialLocalE2EConfig sample
    { deviceId := deviceId
      identityKeyPair := samplePair seed
      signedPreKeyPair := samplePair (seed + 1)
      oneTimePreKeyPair := fun i => samplePair (seed + 2 + UInt8.ofNat i)
      now := 1000 }
    [seed] none { oneTimePreKeyCount := some oneTimePreKeyCount }

theorem sampleConfig_keyed (deviceId : String) (seed : UInt8) (count : ℕ) :
    (sampleConfig deviceId seed count).Keyed := by
  intro id device hdevice
  simp only [sampleConfig, createInitialLocalE2EConfig, Record.get?_single] at hdevice
  split at hdevice
  · rename_i hid
    rw [Option.some.injEq] at hdevice
    rw [← hdevice, ← hid]
  · cases hdevice

def aliceConfig : LocalE2EConfig := sampleConfig "device-a" 10 2
def bobConfig : LocalE2EConfig := sampleConfig "device-b" 50 2

def aliceDevice : LocalDeviceState :=
  (aliceConfig.devices.get? "device-a").get (by decide +kernel)

def bobDevice : LocalDeviceState := (bobConfig.devices.get? "device-b").get (by decide +kernel)

/-- The values one call draws from its environment. -/
def sampleAmbient (seed : UInt8) (now : ℕ) : Ambient where
  nonce := List.replicate 24 seed
  messageId := "e2e-msg-" ++ toString seed.toNat
  sessionId := "e2e-session-" ++ toString seed.toNat
  keyPair := samplePair seed
  now := now

/-- The bundle of a device, claimed with its first one-time pre-key or without one. -/
def sampleBundle (device : LocalDeviceState) (withOneTimePreKey : Bool) : ClaimedPreKeyBundle :=
  let bundle := buildPublishedPreKeyBundle device
  buildClaimedPreKeyBundle bundle
    (if withOneTimePreKey then bundle.oneTimePreKeys.head? else none)

/-- A first message from the device of one configuration to a device of another. -/
def sampleBuild (config : LocalE2EConfig) (senderDid receiverDid : String)
    (recipient : LocalDeviceState) (withOneTimePreKey : Bool) (plaintext : Bytes) :
    BuildInitiatorPreKeyMessageInput where
  e2eConfig := config
  senderDid := senderDid
  receiverDid := receiverDid
  recipientDevice := buildPublishedDeviceDirectoryEntry recipient
  claimedBundle := sampleBundle recipient withOneTimePreKey
  plaintext := plaintext

/-- Alice's first message to Bob, with a one-time pre-key of his. -/
def aliceBuild : BuildInitiatorPreKeyMessageInput :=
  sampleBuild aliceConfig "did:a" "did:b" bobDevice true [1, 2, 3]

@[irreducible] def aliceBuilt : BuildInitiatorPreKeyMessageResult :=
  valueOf (buildInitiatorPreKeyMessage sample (sampleAmbient 90 2000) aliceBuild)
    (by decide +kernel)

theorem aliceBuilt_eq :
    buildInitiatorPreKeyMessage sample (sampleAmbient 90 2000) aliceBuild = .ok aliceBuilt := by
  unfold aliceBuilt
  exact eq_ok_valueOf _ _

/-- Bob receives it. -/
def bobConsume : ConsumeResponderPreKeyMessageInput where
  e2eConfig := bobConfig
  receiverDid := "did:b"
  message := aliceBuilt.message

@[irreducible] def bobConsumed : ConsumeResponderPreKeyMessageResult :=
  valueOf (consumeResponderPreKeyMessage sample (sampleAmbient 91 2001) bobConsume)
    (by decide +kernel)

theorem bobConsumed_eq :
    consumeResponderPreKeyMessage sample (sampleAmbient 91 2001) bobConsume
      = .ok bobConsumed := by
  unfold bobConsumed
  exact eq_ok_valueOf _ _

end QuadraA.E2E
