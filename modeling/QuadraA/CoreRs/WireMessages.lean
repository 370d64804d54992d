import QuadraA.CoreRs.CborX

/-!
# Encrypted messages and their associated data

`e2e/messages.rs`: the two kinds of encrypted message as maps, and the bytes that are authenticated
with their ciphertext.

* `buildPrekeyMap`, `buildSessionMap` — the maps, with or without the ciphertext;
* `associated_data_injective` — equal associated data is that of one header.
-/

namespace QuadraA.CoreRs

open QuadraA.Lib

/-! ### Messages -/

inductive E2EMessageType where
  | preKeyMessage
  | sessionMessage
deriving DecidableEq, Repr

def E2E_PROTOCOL_VERSION : UInt8 := 1

structure PreKeyMessage where
  version : UInt8
  messageType : E2EMessageType
  senderDid : String
  receiverDid : String
  senderDeviceId : String
  receiverDeviceId : String
  sessionId : String
  messageId : String
  initiatorIdentityKey : List UInt8
  initiatorEphemeralKey : List UInt8
  recipientSignedPreKeyId : UInt32
  recipientOneTimePreKeyId : Option UInt32
  nonce : List UInt8
  ciphertext : List UInt8
deriving DecidableEq

structure SessionMessage where
  version : UInt8
  messageType : E2EMessageType
  senderDid : String
  receiverDid : String
  senderDeviceId : String
  receiverDeviceId : String
  sessionId : String
  messageId : String
  ratchetPublicKey : List UInt8
  previousChainLength : UInt32
  messageNumber : UInt32
  nonce : List UInt8
  ciphertext : List UInt8
deriving DecidableEq

/-- The fields of a map that hold text. -/
def textField (name value : String) : String × E2eCborValue := (name, .str value)

def bytesField (name : String) (value : List UInt8) : String × E2eCborValue :=
  (name, .typedBytes value)

/-- `value as i64`, of an unsigned integer of at most 32 bits. -/
def intField (name : String) (value : ℕ) : String × E2eCborValue := (name, .int value)

/-- The field that is pushed when there is a one-time pre-key. -/
def oneTimePreKeyField : Option UInt32 → List (String × E2eCborValue)
  | some oneTimePreKeyId => [intField "recipientOneTimePreKeyId" oneTimePreKeyId.toNat]
  | none => []

/-- The field that is pushed when the ciphertext is included. -/
def ciphertextField (includeCiphertext : Bool) (ciphertext : List UInt8) :
    List (String × E2eCborValue) :=
  if includeCiphertext then [bytesField "ciphertext" ciphertext] else []

def buildPrekeyMap (message : PreKeyMessage) (includeCiphertext : Bool) :
    List (String × E2eCborValue) :=
  [intField "version" message.version.toNat,
   textField "type" "PREKEY_MESSAGE",
   textField "senderDid" message.senderDid,
   textField "receiverDid" message.receiverDid,
   textField "senderDeviceId" message.senderDeviceId,
   textField "receiverDeviceId" message.receiverDeviceId,
   textField "sessionId" message.sessionId,
   textField "messageId" message.messageId,
   bytesField "initiatorIdentityKey" message.initiatorIdentityKey,
   bytesField "initiatorEphemeralKey" message.initiatorEphemeralKey,
   intField "recipientSignedPreKeyId" message.recipientSignedPreKeyId.toNat]
  ++ oneTimePreKeyField message.recipientOneTimePreKeyId
  ++ [bytesField "nonce" message.nonce]
  ++ ciphertextField includeCiphertext message.ciphertext

def buildSessionMap (message : SessionMessage) (includeCiphertext : Bool) :
    List (String × E2eCborValue) :=
  [intField "version" message.version.toNat,
   textField "type" "SESSION_MESSAGE",
   textField "senderDid" message.senderDid,
   textField "receiverDid" message.receiverDid,
   textField "senderDeviceId" message.senderDeviceId,
   textField "receiverDeviceId" message.receiverDeviceId,
   textField "sessionId" message.sessionId,
   textField "messageId" message.messageId,
   bytesField "ratchetPublicKey" message.ratchetPublicKey,
   intField "previousChainLength" message.previousChainLength.toNat,
   intField "messageNumber" message.messageNumber.toNat,
   bytesField "nonce" message.nonce]
  ++ ciphertextField includeCiphertext message.ciphertext

def buildPrekeyMessageAssociatedData (message : PreKeyMessage) : List UInt8 :=
  encode (.map (buildPrekeyMap message false))

def buildSessionMessageAssociatedData (message : SessionMessage) : List UInt8 :=
  encode (.map (buildSessionMap message false))

/-! ### Lengths -/

/-- The lengths of the strings and of the byte strings fit 64 bits. -/
def FitsU64 (texts : List String) (bytes : List (List UInt8)) : Prop :=
  (∀ text ∈ texts, (textBytes text).length < 2 ^ 64) ∧ ∀ value ∈ bytes, value.length < 2 ^ 64

def PreKeyMessage.Sized (message : PreKeyMessage) : Prop :=
  FitsU64
    [message.senderDid, message.receiverDid, message.senderDeviceId, message.receiverDeviceId,
      message.sessionId, message.messageId]
    [message.initiatorIdentityKey, message.initiatorEphemeralKey, message.nonce,
      message.ciphertext]

def SessionMessage.Sized (message : SessionMessage) : Prop :=
  FitsU64
    [message.senderDid, message.receiverDid, message.senderDeviceId, message.receiverDeviceId,
      message.sessionId, message.messageId]
    [message.ratchetPublicKey, message.nonce, message.ciphertext]

instance (texts : List String) (bytes : List (List UInt8)) : Decidable (FitsU64 texts bytes) :=
  inferInstanceAs (Decidable (_ ∧ _))

instance (message : PreKeyMessage) : Decidable message.Sized :=
  inferInstanceAs (Decidable (FitsU64 _ _))

instance (message : SessionMessage) : Decidable message.Sized :=
  inferInstanceAs (Decidable (FitsU64 _ _))

variable {pairs others : List (String × E2eCborValue)} {message : PreKeyMessage}
  {other : SessionMessage}

theorem pairsSized_append :
    PairsSized (pairs ++ others) ↔ PairsSized pairs ∧ PairsSized others := by
  induction pairs with
  | nil => simp [PairsSized]
  | cons pair pairs ih =>
    obtain ⟨key, value⟩ := pair
    rw [List.cons_append, PairsSized, PairsSized, ih, and_assoc, and_assoc]

/-- The names of the fields, and the two values of the field `type`. -/
theorem fieldNames_sized :
    ∀ text ∈ ["version", "type", "senderDid", "receiverDid", "senderDeviceId", "receiverDeviceId",
      "sessionId", "messageId", "initiatorIdentityKey", "initiatorEphemeralKey",
      "recipientSignedPreKeyId", "recipientOneTimePreKeyId", "ratchetPublicKey",
      "previousChainLength", "messageNumber", "nonce", "ciphertext", "PREKEY_MESSAGE",
      "SESSION_MESSAGE"], (textBytes text).length < 2 ^ 64 := by
  decide +kernel

theorem sized_oneTimePreKeyField (oneTimePreKeyId : Option UInt32) :
    (oneTimePreKeyField oneTimePreKeyId).length ≤ 1 ∧
      PairsSized (oneTimePreKeyField oneTimePreKeyId) := by
  cases oneTimePreKeyId with
  | none => exact ⟨Nat.zero_le _, trivial⟩
  | some value =>
    have hvalue := value.toNat_lt
    simp only [oneTimePreKeyField, intField, PairsSized, E2eCborValue.Sized, and_true]
    refine ⟨Nat.le_refl _, fieldNames_sized _ (by simp), ?_, ?_⟩ <;> omega

theorem sized_ciphertextField (includeCiphertext : Bool) {ciphertext : List UInt8}
    (h : ciphertext.length < 2 ^ 64) :
    (ciphertextField includeCiphertext ciphertext).length ≤ 1 ∧
      PairsSized (ciphertextField includeCiphertext ciphertext) := by
  cases includeCiphertext with
  | false => exact ⟨Nat.zero_le _, trivial⟩
  | true =>
    simp only [ciphertextField, if_true, bytesField, PairsSized, E2eCborValue.Sized, and_true]
    exact ⟨Nat.le_refl _, fieldNames_sized _ (by simp), h⟩

/-- **The map of a message** has lengths that the writer can write. -/
theorem sized_prekeyMap (h : message.Sized) (includeCiphertext : Bool) :
    (E2eCborValue.map (buildPrekeyMap message includeCiphertext)).Sized := by
  obtain ⟨htexts, hbytes⟩ := h
  simp only [List.mem_cons, List.not_mem_nil, or_false, forall_eq_or_imp, forall_eq]
    at htexts hbytes
  obtain ⟨_, _, _, _, _, _⟩ := htexts
  obtain ⟨_, _, _, hciphertext⟩ := hbytes
  have hversion := message.version.toNat_lt
  have hsigned := message.recipientSignedPreKeyId.toNat_lt
  obtain ⟨hlength, honeTime⟩ := sized_oneTimePreKeyField message.recipientOneTimePreKeyId
  obtain ⟨hlength', hcipher⟩ := sized_ciphertextField includeCiphertext hciphertext
  rw [E2eCborValue.Sized, buildPrekeyMap]
  refine ⟨?_, ?_⟩
  · simp only [List.length_append, List.length_cons, List.length_nil]
    omega
  · simp only [pairsSized_append, honeTime, hcipher, and_true, PairsSized, intField, textField,
      bytesField, E2eCborValue.Sized]
    and_intros <;> first | assumption | omega | exact fieldNames_sized _ (by simp)

theorem sized_sessionMap {message : SessionMessage} (h : message.Sized)
    (includeCiphertext : Bool) :
    (E2eCborValue.map (buildSessionMap message includeCiphertext)).Sized := by
  obtain ⟨htexts, hbytes⟩ := h
  simp only [List.mem_cons, List.not_mem_nil, or_false, forall_eq_or_imp, forall_eq]
    at htexts hbytes
  obtain ⟨_, _, _, _, _, _⟩ := htexts
  obtain ⟨_, _, hciphertext⟩ := hbytes
  have hversion := message.version.toNat_lt
  have hprevious := message.previousChainLength.toNat_lt
  have hnumber := message.messageNumber.toNat_lt
  obtain ⟨hlength, hcipher⟩ := sized_ciphertextField includeCiphertext hciphertext
  rw [E2eCborValue.Sized, buildSessionMap]
  refine ⟨?_, ?_⟩
  · simp only [List.length_append, List.length_cons, List.length_nil]
    omega
  · simp only [pairsSized_append, hcipher, and_true, PairsSized, intField, textField, bytesField,
      E2eCborValue.Sized]
    and_intros <;> first | assumption | omega | exact fieldNames_sized _ (by simp)

/-! ### The associated data -/

/-- An encrypted message, of one of the two kinds. -/
inductive E2eMessage where
  | prekey (message : PreKeyMessage)
  | session (message : SessionMessage)

def E2eMessage.Sized : E2eMessage → Prop
  | .prekey message => message.Sized
  | .session message => message.Sized

instance : (message : E2eMessage) → Decidable message.Sized
  | .prekey message => inferInstanceAs (Decidable message.Sized)
  | .session message => inferInstanceAs (Decidable message.Sized)

def E2eMessage.associatedData : E2eMessage → List UInt8
  | .prekey message => buildPrekeyMessageAssociatedData message
  | .session message => buildSessionMessageAssociatedData message

/-- Everything in a message but its ciphertext, and the tag that is written from its kind. -/
structure PreKeyMessage.SameHeader (message other : PreKeyMessage) : Prop where
  version : message.version = other.version
  senderDid : message.senderDid = other.senderDid
  receiverDid : message.receiverDid = other.receiverDid
  senderDeviceId : message.senderDeviceId = other.senderDeviceId
  receiverDeviceId : message.receiverDeviceId = other.receiverDeviceId
  sessionId : message.sessionId = other.sessionId
  messageId : message.messageId = other.messageId
  initiatorIdentityKey : message.initiatorIdentityKey = other.initiatorIdentityKey
  initiatorEphemeralKey : message.initiatorEphemeralKey = other.initiatorEphemeralKey
  recipientSignedPreKeyId : message.recipientSignedPreKeyId = other.recipientSignedPreKeyId
  recipientOneTimePreKeyId : message.recipientOneTimePreKeyId = other.recipientOneTimePreKeyId
  nonce : message.nonce = other.nonce

structure SessionMessage.SameHeader (message other : SessionMessage) : Prop where
  version : message.version = other.version
  senderDid : message.senderDid = other.senderDid
  receiverDid : message.receiverDid = other.receiverDid
  senderDeviceId : message.senderDeviceId = other.senderDeviceId
  receiverDeviceId : message.receiverDeviceId = other.receiverDeviceId
  sessionId : message.sessionId = other.sessionId
  messageId : message.messageId = other.messageId
  ratchetPublicKey : message.ratchetPublicKey = other.ratchetPublicKey
  previousChainLength : message.previousChainLength = other.previousChainLength
  messageNumber : message.messageNumber = other.messageNumber
  nonce : message.nonce = other.nonce

/-- The messages are of one kind, and have one header. -/
def E2eMessage.SameHeader : E2eMessage → E2eMessage → Prop
  | .prekey message, .prekey other => message.SameHeader other
  | .session message, .session other => message.SameHeader other
  | _, _ => False

/-- The entries of two maps of one encoding. -/
theorem pairEntries_of_encode (h : (E2eCborValue.map pairs).Sized)
    (h' : (E2eCborValue.map others).Sized) (hsame : encode (.map pairs) = encode (.map others)) :
    pairEntries pairs = pairEntries others := by
  have hitems := encode_injective h h' hsame
  rw [E2eCborValue.item, E2eCborValue.item, CborItem.map.injEq] at hitems
  exact hitems

/-- **The one-time pre-key** in the middle of the map: what is behind it tells whether there is
one. -/
theorem oneTimePreKeyField_inj {key key' : Option UInt32} {nonce nonce' : List UInt8}
    (h : pairEntries (oneTimePreKeyField key ++ [bytesField "nonce" nonce])
      = pairEntries (oneTimePreKeyField key' ++ [bytesField "nonce" nonce'])) :
    key = key' ∧ nonce = nonce' := by
  cases key with
  | none =>
    cases key' with
    | none => simpa [oneTimePreKeyField, pairEntries, bytesField, E2eCborValue.item] using h
    | some value' => simp [oneTimePreKeyField, pairEntries, bytesField, intField] at h
  | some value =>
    cases key' with
    | none => simp [oneTimePreKeyField, pairEntries, bytesField, intField] at h
    | some value' =>
      simpa [oneTimePreKeyField, pairEntries, bytesField, intField, E2eCborValue.item,
        UInt32.toNat_inj] using h

theorem sameHeader_of_prekey {other : PreKeyMessage} (h : message.Sized) (h' : other.Sized)
    (hsame : buildPrekeyMessageAssociatedData message = buildPrekeyMessageAssociatedData other) :
    message.SameHeader other := by
  have hentries := pairEntries_of_encode (sized_prekeyMap h false) (sized_prekeyMap h' false) hsame
  simp only [buildPrekeyMap, ciphertextField, Bool.false_eq_true, if_false, List.append_nil,
    List.cons_append, List.nil_append] at hentries
  simp only [pairEntries, intField, textField, List.cons.injEq, Prod.mk.injEq, true_and,
    E2eCborValue.item, CborItem.integer.injEq, CborItem.text.injEq, Nat.cast_inj] at hentries
  simp only [bytesField, E2eCborValue.item, CborItem.tag.injEq, CborItem.bytes.injEq,
    true_and] at hentries
  obtain ⟨hversion, h₁, h₂, h₃, h₄, h₅, h₆, h₇, h₈, hsigned, hbehind⟩ := hentries
  obtain ⟨honeTime, hnonce⟩ := oneTimePreKeyField_inj hbehind
  exact ⟨UInt8.toNat_inj.mp hversion, h₁, h₂, h₃, h₄, h₅, h₆, h₇, h₈, UInt32.toNat_inj.mp hsigned,
    honeTime, hnonce⟩

theorem sameHeader_of_session {message : SessionMessage} (h : message.Sized) (h' : other.Sized)
    (hsame : buildSessionMessageAssociatedData message = buildSessionMessageAssociatedData other) :
    message.SameHeader other := by
  have hentries :=
    pairEntries_of_encode (sized_sessionMap h false) (sized_sessionMap h' false) hsame
  simp only [buildSessionMap, ciphertextField, Bool.false_eq_true, if_false, List.append_nil,
    pairEntries, intField, textField, bytesField, List.cons.injEq, Prod.mk.injEq, true_and,
    and_true, E2eCborValue.item, CborItem.integer.injEq, CborItem.text.injEq, CborItem.tag.injEq,
    CborItem.bytes.injEq, Nat.cast_inj] at hentries
  obtain ⟨hversion, h₁, h₂, h₃, h₄, h₅, h₆, h₇, hprevious, hnumber, hnonce⟩ := hentries
  exact ⟨UInt8.toNat_inj.mp hversion, h₁, h₂, h₃, h₄, h₅, h₆, h₇, UInt32.toNat_inj.mp hprevious,
    UInt32.toNat_inj.mp hnumber, hnonce⟩

/-- The `type` of the two maps is not one. -/
theorem prekey_ne_session (h : message.Sized) (h' : other.Sized) :
    buildPrekeyMessageAssociatedData message
      ≠ buildSessionMessageAssociatedData other := by
  intro hsame
  have hentries :=
    pairEntries_of_encode (sized_prekeyMap h false) (sized_sessionMap h' false) hsame
  simp [buildPrekeyMap, buildSessionMap, pairEntries, intField, textField,
    E2eCborValue.item] at hentries

/-- **Associated data is injective**: equal bytes are those of one kind of message, with one
header. -/
theorem associated_data_injective {message other : E2eMessage} (h : message.Sized)
    (h' : other.Sized) (hsame : message.associatedData = other.associatedData) :
    message.SameHeader other := by
  cases message with
  | prekey message =>
    cases other with
    | prekey other => exact sameHeader_of_prekey h h' hsame
    | session other => exact absurd hsame (prekey_ne_session h h')
  | session message =>
    cases other with
    | prekey other => exact absurd hsame.symm (prekey_ne_session h' h)
    | session other => exact sameHeader_of_session h h' hsame

/-- A first message on the second one-time pre-key. -/
def sampleFirstMessage (ciphertext : List UInt8) : PreKeyMessage where
  version := E2E_PROTOCOL_VERSION
  messageType := .preKeyMessage
  senderDid := "did:agent:zAlice"
  receiverDid := "did:agent:zBob"
  senderDeviceId := "device-a"
  receiverDeviceId := "device-b"
  sessionId := "session-1"
  messageId := "msg-1"
  initiatorIdentityKey := List.replicate 32 1
  initiatorEphemeralKey := List.replicate 32 2
  recipientSignedPreKeyId := 1
  recipientOneTimePreKeyId := some 2
  nonce := List.replicate 24 3
  ciphertext := ciphertext

theorem sampleFirstMessage_sized :
    (sampleFirstMessage [4, 5]).Sized ∧ (sampleFirstMessage []).Sized := by
  decide +kernel

theorem associated_data_injective_sample :
    E2eMessage.SameHeader (.prekey (sampleFirstMessage [4, 5])) (.prekey (sampleFirstMessage [])) :=
  associated_data_injective sampleFirstMessage_sized.1 sampleFirstMessage_sized.2 rfl

end QuadraA.CoreRs
