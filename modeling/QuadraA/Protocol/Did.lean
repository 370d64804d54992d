import QuadraA.E2E.X25519
import QuadraA.Lib.Base58

/-!
# DIDs of public keys

`identity/did.ts`: a DID is `did:agent:` and the public key in base58, with the `z` that says so.

* `Base58`, `bitcoinBase58` — the coding, a bijection onto the texts that it decodes;
* `extractPublicKey_eq_ok_iff` — the DIDs of a key are the one that is derived from it.
-/

namespace QuadraA.Protocol

open QuadraA.E2E QuadraA.Lib

/-- **Base58**, as `bs58` and `multiformats` have it. -/
structure Base58 where
  encode : Bytes → String
  /-- `none` for a letter that is not in the alphabet. -/
  decode : String → Option Bytes
  decode_encode : ∀ bytes, decode (encode bytes) = some bytes
  encode_decode : ∀ text bytes, decode text = some bytes → encode bytes = text

/-- The coding in the Bitcoin alphabet. -/
def bitcoinBase58 : Base58 where
  encode := encodeBase58
  decode := decodeBase58
  decode_encode := decodeBase58_encodeBase58
  encode_decode := fun _ _ => encodeBase58_decodeBase58

inductive IdentityError where
  /-- `Invalid DID format: must start with did:agent:` -/
  | invalidFormat
  /-- `Failed to extract public key from DID` -/
  | failedToExtract
deriving DecidableEq

/-- The text behind `start`; `none` for another beginning. -/
def afterStart (start text : String) : Option String :=
  if start.toList.isPrefixOf text.toList then
    some (String.ofList (text.toList.drop start.toList.length))
  else none

theorem afterStart_eq_some_iff {start text rest : String} :
    afterStart start text = some rest ↔ text = start ++ rest := by
  rw [afterStart]
  constructor
  · intro h
    split at h
    · rename_i hstart
      obtain ⟨tail, htail⟩ := List.isPrefixOf_iff_prefix.mp hstart
      obtain rfl := Option.some.inj h
      rw [← String.toList_inj, String.toList_append, String.toList_ofList, ← htail,
        List.drop_left]
    · cases h
  · rintro rfl
    rw [String.toList_append, if_pos (List.isPrefixOf_iff_prefix.mpr (List.prefix_append _ _)),
      List.drop_left, String.ofList_toList]

namespace Base58

variable (coding : Base58)

/-- `base58btc.encode`. -/
def btcEncode (bytes : Bytes) : String := "z" ++ coding.encode bytes

/-- `base58btc.decode`, which takes no other prefix. -/
def btcDecode (text : String) : Option Bytes := (afterStart "z" text).bind coding.decode

theorem btcDecode_eq_some_iff {text : String} {bytes : Bytes} :
    coding.btcDecode text = some bytes ↔ text = coding.btcEncode bytes := by
  rw [btcDecode, Option.bind_eq_some_iff, btcEncode]
  constructor
  · rintro ⟨rest, hrest, hdecode⟩
    rw [afterStart_eq_some_iff.mp hrest, coding.encode_decode rest bytes hdecode]
  · rintro rfl
    exact ⟨_, afterStart_eq_some_iff.mpr rfl, coding.decode_encode bytes⟩

end Base58

def deriveDID (coding : Base58) (publicKey : Bytes) : String :=
  "did:agent:" ++ coding.btcEncode publicKey

def extractPublicKey (coding : Base58) (did : String) : Except IdentityError Bytes :=
  match afterStart "did:agent:" did with
  | none => .error .invalidFormat
  | some encoded =>
      match coding.btcDecode encoded with
      | some publicKey => .ok publicKey
      | none => .error .failedToExtract

def validateDID (coding : Base58) (did : String) : Bool :=
  match afterStart "did:agent:" did with
  | none => false
  | some encoded => (coding.btcDecode encoded).isSome

/-- **A DID has a key** when it is derived from it. -/
theorem extractPublicKey_eq_ok_iff {coding : Base58} {did : String} {publicKey : Bytes} :
    extractPublicKey coding did = .ok publicKey ↔ did = deriveDID coding publicKey := by
  rw [extractPublicKey, deriveDID]
  cases hstart : afterStart "did:agent:" did with
  | none =>
    refine ⟨nofun, fun hdid => ?_⟩
    rw [afterStart_eq_some_iff.mpr hdid] at hstart
    cases hstart
  | some encoded =>
    obtain rfl := afterStart_eq_some_iff.mp hstart
    have happend : "did:agent:" ++ encoded = "did:agent:" ++ coding.btcEncode publicKey ↔
        encoded = coding.btcEncode publicKey := by
      simp [← String.toList_inj]
    rw [happend, ← coding.btcDecode_eq_some_iff]
    dsimp only
    cases coding.btcDecode encoded with
    | none => exact ⟨nofun, nofun⟩
    | some key => simp

/-- The valid DIDs are those that have a key. -/
theorem validateDID_iff {coding : Base58} {did : String} :
    validateDID coding did = true ↔ ∃ publicKey, did = deriveDID coding publicKey := by
  simp only [← extractPublicKey_eq_ok_iff]
  rw [validateDID, extractPublicKey]
  cases afterStart "did:agent:" did with
  | none => exact ⟨nofun, fun ⟨_, h⟩ => nomatch h⟩
  | some encoded =>
    dsimp only
    cases coding.btcDecode encoded with
    | none => exact ⟨nofun, fun ⟨_, h⟩ => nomatch h⟩
    | some key => exact ⟨fun _ => ⟨key, rfl⟩, fun _ => rfl⟩

end QuadraA.Protocol
