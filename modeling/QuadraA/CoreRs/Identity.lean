import QuadraA.Protocol.Did

/-!
# DIDs in both runtimes

`identity.rs` beside `identity/did.ts`: both derive a DID with the `z` of base58, but where
TypeScript asks for the `z`, Rust takes a DID without it.

* `deriveDid`, `extractPublicKey` — DIDs and keys in Rust;
* `dids_agree_iff` — the runtimes agree on the DIDs that are written with it.
-/

namespace QuadraA.CoreRs

open QuadraA.E2E QuadraA.Protocol

inductive IdentityError where
  /-- `Invalid DID: must start with did:agent:` -/
  | invalidDid
  /-- `Failed to decode base58 public key from DID` -/
  | failedToDecode
deriving DecidableEq

/-- `derive_did`. -/
def deriveDid (coding : Base58) (publicKeyBytes : Bytes) : String :=
  "did:agent:z" ++ coding.encode publicKeyBytes

/-- `extract_public_key`. -/
def extractPublicKey (coding : Base58) (did : String) : Except IdentityError Bytes :=
  match afterStart "did:agent:" did with
  | none => .error .invalidDid
  | some suffix =>
      match coding.decode ((afterStart "z" suffix).getD suffix) with
      | some bytes => .ok bytes
      | none => .error .failedToDecode

/-- Both derive the same DID. -/
theorem deriveDid_eq (coding : Base58) (publicKey : Bytes) :
    deriveDid coding publicKey = deriveDID coding publicKey := by
  rw [deriveDid, deriveDID, Base58.btcEncode, ← String.append_assoc]
  rfl

theorem decode_eq_ok_iff {coding : Base58} {publicKey : Bytes} (text : String) :
    (match coding.decode text with
      | some bytes => Except.ok bytes
      | none => Except.error IdentityError.failedToDecode) = .ok publicKey ↔
      text = coding.encode publicKey := by
  cases htext : coding.decode text with
  | none =>
    refine ⟨by rintro ⟨⟩, fun heq => ?_⟩
    rw [heq, coding.decode_encode] at htext
    cases htext
  | some key =>
    have hkey := coding.encode_decode text key htext
    constructor
    · rintro ⟨⟩
      exact hkey.symm
    · intro heq
      rw [heq, coding.decode_encode] at htext
      rw [Option.some.inj htext]

/-- **The DIDs of a key**: the one that is derived, and without its `z` when what is left does not
begin with one. -/
theorem extractPublicKey_eq_ok_iff {coding : Base58} {did : String} {publicKey : Bytes} :
    extractPublicKey coding did = .ok publicKey ↔ did = deriveDid coding publicKey ∨
      did = "did:agent:" ++ coding.encode publicKey ∧
        afterStart "z" (coding.encode publicKey) = none := by
  have happend (text text' : String) :
      "did:agent:" ++ text = "did:agent:" ++ text' ↔ text = text' := by
    simp [← String.toList_inj]
  rw [deriveDid_eq, deriveDID, Base58.btcEncode, extractPublicKey]
  cases hstart : afterStart "did:agent:" did with
  | none =>
    refine ⟨by rintro ⟨⟩, ?_⟩
    rintro (hdid | ⟨hdid, -⟩) <;>
    · rw [afterStart_eq_some_iff.mpr hdid] at hstart
      cases hstart
  | some suffix =>
    obtain rfl := afterStart_eq_some_iff.mp hstart
    rw [happend, happend]
    refine (decode_eq_ok_iff ((afterStart "z" suffix).getD suffix)).trans ?_
    cases hz : afterStart "z" suffix with
    | none =>
      rw [Option.getD_none]
      constructor
      · rintro rfl
        exact Or.inr ⟨rfl, hz⟩
      · rintro (heq | ⟨heq, -⟩)
        · rw [afterStart_eq_some_iff.mpr heq] at hz
          cases hz
        · exact heq
    | some rest =>
      rw [Option.getD_some]
      obtain rfl := afterStart_eq_some_iff.mp hz
      constructor
      · rintro rfl
        exact Or.inl rfl
      · rintro (heq | ⟨heq, hnone⟩)
        · exact by simpa [← String.toList_inj] using heq
        · rw [← heq, hz] at hnone
          cases hnone

/-! ### One DID for each key -/

/-- **The runtimes agree on a text**: the DID of the key that Rust reads in it is that text, and
TypeScript reads the same key in it. -/
structure DidAgrees (coding : Base58) (did : String) : Prop where
  derived : ∀ publicKey, extractPublicKey coding did = .ok publicKey →
    deriveDid coding publicKey = did
  keys : ∀ publicKey, extractPublicKey coding did = .ok publicKey ↔
    Protocol.extractPublicKey coding did = .ok publicKey

/-- What comes behind `did:agent:` begins with `z`, or is not base58. -/
def HasMultibasePrefix (coding : Base58) (did : String) : Prop :=
  ∀ suffix, did = "did:agent:" ++ suffix →
    (∃ rest, suffix = "z" ++ rest) ∨ coding.decode suffix = none

/-- With the `z`, Rust reads only the DID that is derived. -/
theorem HasMultibasePrefix.eq_derived {coding : Base58} {did : String} {publicKey : Bytes}
    (h : HasMultibasePrefix coding did) (hkey : extractPublicKey coding did = .ok publicKey) :
    did = deriveDid coding publicKey := by
  rcases extractPublicKey_eq_ok_iff.mp hkey with hdid | ⟨hdid, hz⟩
  · exact hdid
  · exfalso
    rcases h _ hdid with ⟨rest, hrest⟩ | hnone
    · rw [afterStart_eq_some_iff.mpr hrest] at hz
      cases hz
    · rw [coding.decode_encode] at hnone
      cases hnone

/-- **DIDs are canonical in both runtimes** exactly when they have the `z`, and then two of them
never stand for one key. -/
theorem dids_agree_iff (coding : Base58) (did : String) :
    (DidAgrees coding did ↔ HasMultibasePrefix coding did) ∧
      ∀ did', HasMultibasePrefix coding did → HasMultibasePrefix coding did' → ∀ publicKey,
        extractPublicKey coding did = .ok publicKey →
        extractPublicKey coding did' = .ok publicKey → did = did' := by
  refine ⟨⟨fun h suffix hdid => ?_, fun h => ⟨fun publicKey hkey => ?_, fun publicKey => ?_⟩⟩, ?_⟩
  · cases hdecode : coding.decode suffix with
    | none => exact Or.inr rfl
    | some publicKey =>
      left
      cases hz : afterStart "z" suffix with
      | some rest => exact ⟨rest, afterStart_eq_some_iff.mp hz⟩
      | none =>
        -- without the `z`, the DID that is derived is another one
        have hkey : extractPublicKey coding did = .ok publicKey := by
          rw [hdid, ← coding.encode_decode suffix publicKey hdecode]
          refine extractPublicKey_eq_ok_iff.mpr (Or.inr ⟨rfl, ?_⟩)
          rw [coding.encode_decode suffix publicKey hdecode, hz]
        have hderived := h.derived publicKey hkey
        rw [hdid, deriveDid_eq, deriveDID, Base58.btcEncode] at hderived
        have hsuffix : suffix = "z" ++ coding.encode publicKey := by
          simpa [← String.toList_inj] using hderived.symm
        exact ⟨_, hsuffix⟩
  · exact (h.eq_derived hkey).symm
  · rw [Protocol.extractPublicKey_eq_ok_iff, ← deriveDid_eq]
    exact ⟨h.eq_derived, fun hdid => extractPublicKey_eq_ok_iff.mpr (Or.inl hdid)⟩
  · intro did' h h' publicKey hkey hkey'
    rw [h.eq_derived hkey, h'.eq_derived hkey']

theorem dids_agree_sample :
    DidAgrees bitcoinBase58 "did:agent:z2" ∧
      ∀ did', HasMultibasePrefix bitcoinBase58 did' →
        extractPublicKey bitcoinBase58 did' = .ok [1] → "did:agent:z2" = did' := by
  have hz : HasMultibasePrefix bitcoinBase58 "did:agent:z2" := by
    intro suffix hdid
    have hsuffix : suffix = "z" ++ "2" := by
      rw [show "did:agent:z2" = "did:agent:" ++ "z2" from rfl] at hdid
      simpa [← String.toList_inj] using hdid.symm
    exact Or.inl ⟨"2", hsuffix⟩
  obtain ⟨hagrees, hunique⟩ := dids_agree_iff bitcoinBase58 "did:agent:z2"
  exact ⟨hagrees.mpr hz, fun did' hz' hkey' => hunique did' hz hz' [1] (by decide +kernel) hkey'⟩

/-- **A DID without the `z`** stands for the key of another one, and TypeScript does not take it. -/
theorem did_without_multibase_prefix :
    extractPublicKey bitcoinBase58 "did:agent:2" = .ok [1] ∧
      deriveDid bitcoinBase58 [1] = "did:agent:z2" ∧
      extractPublicKey bitcoinBase58 "did:agent:z2" = .ok [1] ∧
      Protocol.extractPublicKey bitcoinBase58 "did:agent:2" = .error .failedToExtract := by
  decide +kernel

end QuadraA.CoreRs
