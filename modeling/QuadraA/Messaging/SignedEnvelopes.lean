import QuadraA.Lib.Hex
import QuadraA.Messaging.Envelope
import QuadraA.Protocol.CanonicalForm

/-!
# Signed envelopes

`messaging/envelope.ts` and `messaging/codec.ts` over all values of JSON: how an envelope is
created, signed, sent as CBOR, received and verified.

* `property`, `normalizeEnvelope` — what is read of a value, with `normalizeEnvelope_toObject`;
* `signed_envelopes` — what is signed is verified behind the wire, and nothing else under the same
  signature.

CBOR, the signature scheme, the clock and the random digits of an id are parameters.
-/

namespace QuadraA.Messaging.Signed

open QuadraA.Lib QuadraA.Protocol QuadraA.Protocol.JsonLike

/-! ### Envelopes -/

/-- A property of a value; `none` for `undefined`. -/
def property (value : JsonLike) (name : String) : Option JsonLike :=
  match value with
  | .object members =>
      ((members.find? fun m => m.1 = jsString name).map Prod.snd).filter
        fun v => !v.isAbsent Option.isNone
  | _ => none

/-- The property when it is a string. -/
def stringProperty (value : JsonLike) (name : String) : Option JsString :=
  match property value name with
  | some (.string text) => some text
  | _ => none

/-- The property when it is a number. -/
def numberProperty (value : JsonLike) (name : String) : Option JsFinite :=
  match property value name with
  | some (.number n) => n
  | _ => none

/-- `Omit<MessageEnvelope, 'signature'>`. -/
structure UnsignedEnvelope where
  id : JsString
  sender : JsString
  receiver : JsString
  type : MessageEnvelopeType
  protocol : JsString
  payload : JsonLike
  timestamp : JsFinite
  replyTo : Option JsString
  threadId : Option JsString
  groupId : Option JsString

structure MessageEnvelope extends UnsignedEnvelope where
  signature : JsString

def normalizeEnvelopeType (type : JsString) : Option MessageEnvelopeType :=
  if type = jsString "message" ∨ type = jsString "notification" ∨ type = jsString "request" then
    some .message
  else if type = jsString "reply" ∨ type = jsString "response" then some .reply
  else none

/-- `value.startsWith('did:agent:')`. -/
def isAgentDid (value : JsString) : Bool := (jsString "did:agent:").isPrefixOf value

def normalizeEnvelope (msg : JsonLike) : Option MessageEnvelope := do
  let normalizedType ← (stringProperty msg "type").bind normalizeEnvelopeType
  let id ← stringProperty msg "id"
  let sender ← stringProperty msg "from"
  let receiver ← stringProperty msg "to"
  let protocol ← stringProperty msg "protocol"
  let payload ← property msg "payload"
  let timestamp ← numberProperty msg "timestamp"
  let signature ← stringProperty msg "signature"
  let replyTo := stringProperty msg "replyTo"
  guard (isAgentDid sender && isAgentDid receiver)
  guard !(normalizedType = .reply && replyTo.isNone)
  return { id, sender, receiver, type := normalizedType, protocol, payload, timestamp, signature,
           replyTo, threadId := stringProperty msg "threadId",
           groupId := stringProperty msg "groupId" }

/-- The value of an optional field. -/
def optionalValue (value : Option JsString) : JsonLike := value.elim undefined .string

/-- The fields before the optional ones. -/
def requiredFields (envelope : UnsignedEnvelope) : List (JsString × JsonLike) :=
  [(jsString "id", .string envelope.id),
   (jsString "from", .string envelope.sender),
   (jsString "to", .string envelope.receiver),
   (jsString "type", .string (jsString envelope.type.text)),
   (jsString "protocol", .string envelope.protocol),
   (jsString "payload", envelope.payload),
   (jsString "timestamp", .number (some envelope.timestamp))]

def optionalFields (envelope : UnsignedEnvelope) : List (JsString × JsonLike) :=
  [(jsString "replyTo", optionalValue envelope.replyTo),
   (jsString "threadId", optionalValue envelope.threadId),
   (jsString "groupId", optionalValue envelope.groupId)]

/-- The object without the signature: `envelopeWithoutSig`. -/
def UnsignedEnvelope.toObject (envelope : UnsignedEnvelope) : JsonLike :=
  .object (requiredFields envelope ++ optionalFields envelope)

/-- The object that `normalizeEnvelope` returns. -/
def MessageEnvelope.toObject (envelope : MessageEnvelope) : JsonLike :=
  .object (requiredFields envelope.toUnsignedEnvelope
    ++ (jsString "signature", .string envelope.signature)
      :: optionalFields envelope.toUnsignedEnvelope)

/-! ### The sender -/

/-- The text of a `MessagingError`. -/
abbrev MessagingError := JsString

/-- The clock, twice, and the random digits of an id. -/
structure Creation where
  idTime : JsFinite
  random : JsString
  now : JsFinite

variable (choice : DigitChoice)

def generateMessageId (creation : Creation) : JsString :=
  jsString "msg_" ++ jsString (String.ofList (numberToString choice creation.idTime))
    ++ jsString "_" ++ creation.random

/-- An optional argument that is truthy. -/
def truthy (value : Option JsString) : Option JsString := value.filter fun text => text ≠ []

/-- `...(value ? { name: value } : {})`. -/
def spreadField (name : String) (value : Option JsString) : List (JsString × JsonLike) :=
  match truthy value with
  | some text => [(jsString name, .string text)]
  | none => []

def createEnvelope (creation : Creation) (sender receiver type protocol : JsString)
    (payload : JsonLike) (replyTo threadId groupId : Option JsString) :
    Except MessagingError JsonLike :=
  match normalizeEnvelopeType type with
  | none => .error (jsString "Invalid message type: " ++ type)
  | some normalizedType =>
      if normalizedType = .reply ∧ truthy replyTo = none then
        .error (jsString "Reply envelopes must include replyTo")
      else
        .ok <| .object <|
          [(jsString "id", .string (generateMessageId choice creation)),
           (jsString "from", .string sender),
           (jsString "to", .string receiver),
           (jsString "type", .string (jsString normalizedType.text)),
           (jsString "protocol", .string protocol),
           (jsString "payload", payload),
           (jsString "timestamp", .number (some creation.now))]
          ++ spreadField "replyTo" replyTo ++ spreadField "threadId" threadId
          ++ spreadField "groupId" groupId

/-- `{ ...envelope, signature }` of an envelope without a signature. -/
def withSignature (envelope : JsonLike) (signature : JsString) : JsonLike :=
  match envelope with
  | .object members => .object (members ++ [(jsString "signature", .string signature)])
  | _ => .object [(jsString "signature", .string signature)]

/-- `signFn` is `none` where it throws. -/
def signEnvelope (signFn : List ℕ → Option (List UInt8)) (envelope : JsonLike) :
    Except MessagingError JsonLike :=
  match signFn (encodeCanonicalJson choice envelope) with
  | some signature => .ok (withSignature envelope (hexString signature))
  | none => .error (jsString "Failed to sign envelope")

/-- The codec of `cbor-x`, `none` where it throws. -/
structure CborCodec where
  encode : JsonLike → Option (List ℕ)
  decode : List ℕ → Option JsonLike

def encodeMessage (codec : CborCodec) (envelope : JsonLike) : Except MessagingError (List ℕ) :=
  match codec.encode envelope with
  | some data => .ok data
  | none => .error (jsString "Failed to encode message")

/-! ### The receiver -/

def decodeMessage (codec : CborCodec) (data : List ℕ) : Except MessagingError MessageEnvelope :=
  match codec.decode data with
  | none => .error (jsString "Failed to decode message")
  | some decoded =>
      match normalizeEnvelope decoded with
      | none => .error (jsString "Decoded message envelope is invalid")
      | some normalized => .ok normalized

/-- The loop over the encodings; `verifyFn` is `none` where it throws. -/
def verifyPayloads (verifyFn : List ℕ → Option Bool) : List (List ℕ) → Except MessagingError Bool
  | [] => .ok false
  | payloadBytes :: rest =>
      match verifyFn payloadBytes with
      | none => .error (jsString "Failed to verify envelope")
      | some true => .ok true
      | some false => verifyPayloads verifyFn rest

def verifyEnvelope (verifyFn : List UInt8 → List ℕ → Option Bool) (envelope : JsonLike) :
    Except MessagingError Bool :=
  match normalizeEnvelope envelope with
  | none => .ok false
  | some normalized =>
      verifyPayloads (verifyFn (bufferFromHex normalized.signature))
        (encodeJsonSignaturePayloads choice normalized.toUnsignedEnvelope.toObject)

/-! ### Properties -/

/-- A value of JSON: nothing inside is `undefined`, and keys are distinct. -/
structure IsJsonValue (value : JsonLike) : Prop where
  defined : ∀ n ∈ value.numbers, n.isNone = false
  distinctKeys : value.DistinctKeys

variable {members members' : List (JsString × JsonLike)} {name : String} {v : JsonLike}

theorem property_eq_some_iff (hnodup : (members.map Prod.fst).Nodup) :
    property (.object members) name = some v ↔
      (jsString name, v) ∈ members ∧ v.isAbsent Option.isNone = false := by
  rw [property, Option.filter_eq_some_iff, Option.map_eq_some_iff, Bool.not_eq_true']
  refine and_congr_left fun _ => ⟨?_, fun hmem => ?_⟩
  · rintro ⟨m, hfind, rfl⟩
    have hname : m.1 = jsString name := by simpa using List.find?_some hfind
    rw [← hname]
    exact List.mem_of_find?_eq_some hfind
  · cases hfind : members.find? fun m => m.1 = jsString name with
    | none =>
      have hnot := List.find?_eq_none.mp hfind _ hmem
      simp at hnot
    | some m =>
      have hname : m.1 = jsString name := by simpa using List.find?_some hfind
      refine ⟨m, rfl, ?_⟩
      exact congrArg Prod.snd (List.inj_on_of_nodup_map hnodup (List.mem_of_find?_eq_some hfind)
        hmem hname)

/-- The order of fields and those that are `undefined` do not matter to a property. -/
theorem property_congr (hnodup : (members.map Prod.fst).Nodup)
    (hperm : members'.Perm (members.filter fun m => !m.2.isAbsent Option.isNone)) :
    property (.object members') name = property (.object members) name := by
  have hnodup' : (members'.map Prod.fst).Nodup :=
    (hperm.map Prod.fst).nodup_iff.mpr (hnodup.sublist (List.filter_sublist.map _))
  refine Option.ext fun v => ?_
  rw [property_eq_some_iff hnodup', property_eq_some_iff hnodup, hperm.mem_iff, List.mem_filter,
    Bool.not_eq_true', and_assoc, and_self]

theorem normalizeEnvelope_congr {u v : JsonLike} (h : ∀ name, property u name = property v name) :
    normalizeEnvelope u = normalizeEnvelope v := by
  have hstring (name : String) : stringProperty u name = stringProperty v name := by
    rw [stringProperty, h, stringProperty]
  have hnumber (name : String) : numberProperty u name = numberProperty v name := by
    rw [numberProperty, h, numberProperty]
  simp only [normalizeEnvelope, hstring, hnumber, h]

/-! ### The fields of an envelope -/

/-- All fields but the signature, with those that are `undefined`. -/
def allFields (envelope : UnsignedEnvelope) : List (JsString × JsonLike) :=
  requiredFields envelope ++ optionalFields envelope

/-- The fields that are not `undefined`. -/
def definedFields (members : List (JsString × JsonLike)) : List (JsString × JsonLike) :=
  members.filter fun m => !m.2.isAbsent Option.isNone

variable {envelope : UnsignedEnvelope}

theorem allFields_nodup (envelope : UnsignedEnvelope) :
    ((allFields envelope).map Prod.fst).Nodup := by
  have hkeys : (allFields envelope).map Prod.fst = ["id", "from", "to", "type", "protocol",
      "payload", "timestamp", "replyTo", "threadId", "groupId"].map jsString := rfl
  rw [hkeys]
  decide +kernel

theorem signedFields_nodup (envelope : UnsignedEnvelope) (signature : JsonLike) :
    ((requiredFields envelope ++ (jsString "signature", signature) :: optionalFields envelope).map
      Prod.fst).Nodup := by
  have hkeys : (requiredFields envelope
      ++ (jsString "signature", signature) :: optionalFields envelope).map Prod.fst
      = ["id", "from", "to", "type", "protocol", "payload", "timestamp", "signature", "replyTo",
        "threadId", "groupId"].map jsString := rfl
  rw [hkeys]
  decide +kernel

/-- The fields of an envelope with a JSON payload are JSON values, or `undefined`. -/
theorem field_cases (hpayload : IsJsonValue envelope.payload) :
    ∀ m ∈ allFields envelope, m.2.isAbsent Option.isNone = true ∨ IsJsonValue m.2 := by
  have hstring (text : JsString) : IsJsonValue (.string text) :=
    ⟨fun n hn => (by cases hn), fun keys hkeys => (by cases hkeys)⟩
  have hoptional (value : Option JsString) :
      (optionalValue value).isAbsent Option.isNone = true ∨ IsJsonValue (optionalValue value) := by
    cases value with
    | none => exact Or.inl rfl
    | some text => exact Or.inr (hstring text)
  have hnumber : IsJsonValue (.number (some envelope.timestamp)) :=
    ⟨fun n hn => (by rw [List.mem_singleton.mp hn]; rfl), fun keys hkeys => (by cases hkeys)⟩
  simp only [allFields, requiredFields, optionalFields, List.cons_append, List.nil_append,
    List.forall_mem_cons]
  exact ⟨Or.inr (hstring _), Or.inr (hstring _), Or.inr (hstring _), Or.inr (hstring _),
    Or.inr (hstring _), Or.inr hpayload, Or.inr hnumber, hoptional _, hoptional _, hoptional _,
    List.forall_mem_nil _⟩

theorem IsJsonValue.isAbsent_eq (hv : IsJsonValue v) : v.isAbsent Option.isNone = false := by
  cases v with
  | number n => exact hv.defined n (List.mem_singleton_self n)
  | _ => rfl

theorem IsJsonValue.withoutUndefined_eq (hv : IsJsonValue v) : withoutUndefined v = v :=
  Json.dropAbsent_eq_self hv.defined

theorem withoutUndefined_object (members : List (JsString × JsonLike)) :
    withoutUndefined (.object members)
      = .object ((definedFields members).map (Prod.map id withoutUndefined)) := by
  rw [withoutUndefined, Json.dropAbsent, Json.dropAbsentMembers_eq]
  rfl

theorem isJsonValue_of_mem_definedFields
    (h : ∀ m ∈ members, m.2.isAbsent Option.isNone = true ∨ IsJsonValue m.2) :
    ∀ m ∈ definedFields members, IsJsonValue m.2 := by
  intro m hm
  obtain ⟨hmem, hdefined⟩ := List.mem_filter.mp hm
  rw [Bool.not_eq_true'] at hdefined
  exact (h m hmem).resolve_left (by rw [hdefined]; exact Bool.false_ne_true)

/-- An object of JSON values and of `undefined` fields. -/
theorem isJsonLike_object (hnodup : (members.map Prod.fst).Nodup)
    (h : ∀ m ∈ members, m.2.isAbsent Option.isNone = true ∨ IsJsonValue m.2) :
    IsJsonLike (.object members) := by
  constructor
  · rw [withoutUndefined_object, Json.forall_numbers_object]
    intro m' hm'
    obtain ⟨m, hm, rfl⟩ := List.mem_map.mp hm'
    have hvalue := isJsonValue_of_mem_definedFields h m hm
    rw [Prod.map_snd, hvalue.withoutUndefined_eq]
    exact hvalue.defined
  · rw [Json.distinctKeys_object]
    refine ⟨hnodup, fun m hm => ?_⟩
    rcases h m hm with habsent | hvalue
    · intro keys hkeys
      cases hm2 : m.2 with
      | number n => rw [hm2] at hkeys; cases hkeys
      | _ => rw [hm2] at habsent; cases habsent
    · exact hvalue.distinctKeys

theorem isJsonLike_toObject (hpayload : IsJsonValue envelope.payload) :
    IsJsonLike envelope.toObject :=
  isJsonLike_object (allFields_nodup envelope) (field_cases hpayload)

/-- An object of JSON values. -/
theorem isJsonValue_object (hnodup : (members.map Prod.fst).Nodup)
    (h : ∀ m ∈ members, IsJsonValue m.2) : IsJsonValue (.object members) := by
  constructor
  · rw [Json.forall_numbers_object]
    exact fun m hm => (h m hm).defined
  · rw [Json.distinctKeys_object]
    exact ⟨hnodup, fun m hm => (h m hm).distinctKeys⟩

/-! ### Reading an envelope -/

theorem normalizeEnvelopeType_text (type : MessageEnvelopeType) :
    normalizeEnvelopeType (jsString type.text) = some type := by
  cases type <;> decide +kernel

/-- What `normalizeEnvelope` checks of the fields. -/
structure UnsignedEnvelope.IsValid (envelope : UnsignedEnvelope) : Prop where
  sender : isAgentDid envelope.sender = true
  receiver : isAgentDid envelope.receiver = true
  payload : envelope.payload.isAbsent Option.isNone = false
  replyTo : envelope.type = .reply → envelope.replyTo.isNone = false

/-- A string of an object, or `undefined`. -/
theorem stringProperty_of_mem (hnodup : (members.map Prod.fst).Nodup) (value : Option JsString)
    (hmem : (jsString name, optionalValue value) ∈ members) :
    stringProperty (.object members) name = value := by
  rw [stringProperty]
  cases value with
  | some text =>
    rw [(property_eq_some_iff hnodup).mpr ⟨hmem, rfl⟩]
    rfl
  | none =>
    cases hproperty : property (.object members) name with
    | none => rfl
    | some v =>
      obtain ⟨hmem', hdefined⟩ := (property_eq_some_iff hnodup).mp hproperty
      have hkey : (jsString name, optionalValue none) = (jsString name, v) :=
        List.inj_on_of_nodup_map hnodup hmem hmem' rfl
      obtain rfl : optionalValue none = v := (Prod.ext_iff.mp hkey).2
      cases hdefined

/-- **An envelope is read as it is.** -/
theorem normalizeEnvelope_toObject (envelope : MessageEnvelope)
    (hvalid : envelope.toUnsignedEnvelope.IsValid) :
    normalizeEnvelope envelope.toObject = some envelope := by
  have hnodup := signedFields_nodup envelope.toUnsignedEnvelope (.string envelope.signature)
  have hid := stringProperty_of_mem hnodup (some envelope.id) (List.mem_of_getElem? (i := 0) rfl)
  have hsender := stringProperty_of_mem hnodup (some envelope.sender)
    (List.mem_of_getElem? (i := 1) rfl)
  have hreceiver := stringProperty_of_mem hnodup (some envelope.receiver)
    (List.mem_of_getElem? (i := 2) rfl)
  have htype := stringProperty_of_mem hnodup (some (jsString envelope.type.text))
    (List.mem_of_getElem? (i := 3) rfl)
  have hprotocol := stringProperty_of_mem hnodup (some envelope.protocol)
    (List.mem_of_getElem? (i := 4) rfl)
  have hpayload := (property_eq_some_iff hnodup).mpr
    ⟨List.mem_of_getElem? (i := 5) rfl, hvalid.payload⟩
  have htimestamp := (property_eq_some_iff hnodup).mpr ⟨List.mem_of_getElem? (i := 6) rfl, rfl⟩
  have hsignature := stringProperty_of_mem hnodup (some envelope.signature)
    (List.mem_of_getElem? (i := 7) rfl)
  have hreplyTo := stringProperty_of_mem hnodup envelope.replyTo
    (List.mem_of_getElem? (i := 8) rfl)
  have hthreadId := stringProperty_of_mem hnodup envelope.threadId
    (List.mem_of_getElem? (i := 9) rfl)
  have hgroupId := stringProperty_of_mem hnodup envelope.groupId
    (List.mem_of_getElem? (i := 10) rfl)
  have hreply : (!(decide (envelope.type = .reply) && envelope.replyTo.isNone)) = true := by
    by_cases hreply : envelope.type = .reply
    · rw [hvalid.replyTo hreply, Bool.and_false]
      rfl
    · rw [decide_eq_false hreply]
      rfl
  rw [normalizeEnvelope, MessageEnvelope.toObject, hreplyTo, hthreadId, hgroupId, htype, hid,
    hsender, hreceiver, hprotocol, hpayload, hsignature, numberProperty, htimestamp]
  simp only [Option.bind_some, normalizeEnvelopeType_text, Option.bind_eq_bind, hvalid.sender,
    hvalid.receiver, Bool.and_self, hreply, guard_true]
  rfl

/-- The payload of an envelope that is read of a JSON value is one. -/
theorem isJsonValue_payload {value : JsonLike} {n : MessageEnvelope} (hvalue : IsJsonValue value)
    (h : normalizeEnvelope value = some n) : IsJsonValue n.payload := by
  have hproperty : property value "payload" = some n.payload := by
    simp only [normalizeEnvelope, Option.bind_eq_bind, Option.bind_eq_some_iff] at h
    obtain ⟨_, -, _, -, _, -, _, -, _, -, payload, hpayload, _, -, _, -, _, -, _, -, h⟩ := h
    rw [hpayload, ← Option.some.inj h]
  cases value with
  | object members =>
    have hnodup := (Json.distinctKeys_object.mp hvalue.distinctKeys).1
    have hmem := ((property_eq_some_iff hnodup).mp hproperty).1
    exact ⟨Json.forall_numbers_object.mp hvalue.defined _ hmem,
      (Json.distinctKeys_object.mp hvalue.distinctKeys).2 _ hmem⟩
  | _ => cases hproperty

/-! ### Creating and signing -/

theorem definedFields_requiredFields (hpayload : envelope.payload.isAbsent Option.isNone = false) :
    definedFields (requiredFields envelope) = requiredFields envelope := by
  refine List.filter_eq_self.mpr ?_
  simp only [requiredFields, List.forall_mem_cons, hpayload]
  exact ⟨rfl, rfl, rfl, rfl, rfl, rfl, rfl, List.forall_mem_nil _⟩

/-- The fields that are created are those that are not `undefined`. -/
theorem createEnvelope_eq_ok {creation : Creation} {sender receiver type protocol : JsString}
    {payload : JsonLike} {replyTo threadId groupId : Option JsString} {created : JsonLike}
    (hpayload : payload.isAbsent Option.isNone = false)
    (h : createEnvelope choice creation sender receiver type protocol payload replyTo threadId
      groupId = .ok created) :
    ∃ envelope : UnsignedEnvelope, created = .object (definedFields (allFields envelope)) ∧
      envelope.sender = sender ∧ envelope.receiver = receiver ∧ envelope.payload = payload ∧
      (envelope.type = .reply → envelope.replyTo.isNone = false) := by
  rw [createEnvelope] at h
  split at h
  · cases h
  · rename_i normalizedType _
    split at h
    · cases h
    · rename_i hreply
      refine ⟨⟨generateMessageId choice creation, sender, receiver, normalizedType, protocol,
        payload, creation.now, truthy replyTo, truthy threadId, truthy groupId⟩, ?_, rfl, rfl, rfl,
        ?_⟩
      · have hspread (name : String) (value : Option JsString) : definedFields
            [(jsString name, optionalValue (truthy value))] = spreadField name value := by
          rw [spreadField]
          cases truthy value <;> rfl
        rw [← Except.ok.inj h, allFields, definedFields, List.filter_append, ← definedFields,
          definedFields_requiredFields hpayload, List.append_assoc, List.append_assoc,
          ← hspread, ← hspread, ← hspread, definedFields, definedFields, definedFields,
          ← List.filter_append, ← List.filter_append]
        rfl
      · intro htype
        rw [Option.isNone_eq_false_iff, Option.isSome_iff_ne_none]
        exact fun hnone => hreply ⟨htype, hnone⟩

/-- A text that is encoded does not see the fields that are `undefined`. -/
theorem encodeCanonicalJson_definedFields (hpayload : IsJsonValue envelope.payload) :
    encodeCanonicalJson choice (.object (definedFields (allFields envelope)))
      = encodeCanonicalJson choice envelope.toObject := by
  have hnodup : ((definedFields (allFields envelope)).map Prod.fst).Nodup :=
    (allFields_nodup envelope).sublist (List.filter_sublist.map _)
  have hcreated : IsJsonLike (.object (definedFields (allFields envelope))) :=
    isJsonLike_object hnodup fun m hm => field_cases hpayload m (List.mem_filter.mp hm).1
  have hsame : withoutUndefined (.object (definedFields (allFields envelope)))
      = withoutUndefined envelope.toObject := by
    rw [UnsignedEnvelope.toObject, withoutUndefined_object, withoutUndefined_object, definedFields,
      definedFields, List.filter_filter]
    simp only [Bool.and_self]
    rfl
  rw [encodeCanonicalJson, encodeCanonicalJson, stringifyCanonicalJson_eq choice hcreated,
    stringifyCanonicalJson_eq choice (isJsonLike_toObject hpayload), hsame]

/-- The signature stands behind the other fields, or among them. -/
theorem perm_signedFields (envelope : MessageEnvelope) :
    (definedFields (allFields envelope.toUnsignedEnvelope)
      ++ [(jsString "signature", Json.string envelope.signature)]).Perm
    (definedFields (requiredFields envelope.toUnsignedEnvelope
      ++ (jsString "signature", Json.string envelope.signature)
        :: optionalFields envelope.toUnsignedEnvelope)) := by
  rw [allFields, definedFields, definedFields, List.filter_append, List.filter_append,
    List.filter_cons_of_pos rfl, List.append_assoc]
  exact (List.perm_append_singleton _ _).append_left _

/-- **What is signed is a JSON value.** -/
theorem isJsonValue_signed (envelope : MessageEnvelope) (hpayload : IsJsonValue envelope.payload) :
    IsJsonValue (withSignature (.object (definedFields (allFields envelope.toUnsignedEnvelope)))
      envelope.signature) := by
  refine isJsonValue_object ?_ fun m hm => ?_
  · refine ((perm_signedFields envelope).map Prod.fst).nodup_iff.mpr ?_
    exact (signedFields_nodup envelope.toUnsignedEnvelope _).sublist (List.filter_sublist.map _)
  · rcases List.mem_append.mp hm with hm | hm
    · exact isJsonValue_of_mem_definedFields (field_cases hpayload) m hm
    · rw [List.mem_singleton.mp hm]
      exact ⟨fun n hn => (by cases hn), fun keys hkeys => (by cases hkeys)⟩

/-- **What is signed is read** as the envelope. -/
theorem normalizeEnvelope_signed (envelope : MessageEnvelope)
    (hvalid : envelope.toUnsignedEnvelope.IsValid) :
    normalizeEnvelope (withSignature
      (.object (definedFields (allFields envelope.toUnsignedEnvelope))) envelope.signature)
      = some envelope := by
  rw [← normalizeEnvelope_toObject envelope hvalid]
  exact normalizeEnvelope_congr fun name => property_congr
    (signedFields_nodup envelope.toUnsignedEnvelope _) (perm_signedFields envelope)

/-! ### Equal encodings -/

/-- **The same fields**, with payloads equal up to the order of the keys of their objects. -/
structure UnsignedEnvelope.Same (left right : UnsignedEnvelope) : Prop where
  id : left.id = right.id
  sender : left.sender = right.sender
  receiver : left.receiver = right.receiver
  type : left.type = right.type
  protocol : left.protocol = right.protocol
  payload : Json.SameMembers left.payload right.payload
  timestamp : left.timestamp = right.timestamp
  replyTo : left.replyTo = right.replyTo
  threadId : left.threadId = right.threadId
  groupId : left.groupId = right.groupId

section SameFields

variable {left right : UnsignedEnvelope} {key : JsString} {x y : JsonLike}

/-- A field that is not `undefined` has the same value on both sides. -/
theorem sameField (hsame : Json.SameMembers (withoutUndefined left.toObject)
      (withoutUndefined right.toObject)) (hx : (key, x) ∈ allFields left)
    (hy : (key, y) ∈ allFields right) (hdefined : x.isAbsent Option.isNone = false) :
    y.isAbsent Option.isNone = false ∧
      Json.SameMembers (withoutUndefined x) (withoutUndefined y) := by
  rw [UnsignedEnvelope.toObject, UnsignedEnvelope.toObject, withoutUndefined_object,
    withoutUndefined_object, Json.SameMembers] at hsame
  have hmem : Prod.map id withoutUndefined (key, x)
      ∈ (definedFields (allFields left)).map (Prod.map id withoutUndefined) :=
    List.mem_map_of_mem (List.mem_filter.mpr ⟨hx, by rw [hdefined]; rfl⟩)
  obtain ⟨v, hv, hsameValue⟩ := hsame.exists_mem hmem
  obtain ⟨⟨key', y'⟩, hy', heq⟩ := List.mem_map.mp hv
  obtain ⟨rfl, rfl⟩ : key' = key ∧ withoutUndefined y' = v := Prod.ext_iff.mp heq
  obtain ⟨hmem', hdefined'⟩ := List.mem_filter.mp hy'
  have hkey : (key', y') = (key', y) :=
    List.inj_on_of_nodup_map (allFields_nodup right) hmem' hy rfl
  obtain rfl : y' = y := (Prod.ext_iff.mp hkey).2
  exact ⟨(Bool.not_eq_true' _).mp hdefined', hsameValue⟩

/-- A field that is `undefined` on one side is `undefined` on the other. -/
theorem absentField (hsame : Json.SameMembers (withoutUndefined left.toObject)
      (withoutUndefined right.toObject)) (hx : (key, x) ∈ allFields left)
    (hy : (key, y) ∈ allFields right) (hdefined : y.isAbsent Option.isNone = false) :
    x.isAbsent Option.isNone = false := by
  rw [UnsignedEnvelope.toObject, UnsignedEnvelope.toObject, withoutUndefined_object,
    withoutUndefined_object, Json.SameMembers] at hsame
  have hkeys := hsame.perm_keys
  rw [List.map_map, List.map_map] at hkeys
  have hkey : key ∈ (definedFields (allFields left)).map
      (Prod.fst ∘ Prod.map id withoutUndefined) :=
    hkeys.mem_iff.mpr (List.mem_map.mpr ⟨(key, y), List.mem_filter.mpr ⟨hy, by rw [hdefined]; rfl⟩,
      rfl⟩)
  obtain ⟨⟨key', x'⟩, hx', rfl⟩ := List.mem_map.mp hkey
  obtain ⟨hmem', hdefined'⟩ := List.mem_filter.mp hx'
  have hsingle : (key', x') = (key', x) :=
    List.inj_on_of_nodup_map (allFields_nodup left) hmem' hx rfl
  obtain rfl : x' = x := (Prod.ext_iff.mp hsingle).2
  exact (Bool.not_eq_true' _).mp hdefined'

/-- **Envelopes with the same encoding** have the same fields. -/
theorem same_of_sameMembers (hleft : IsJsonValue left.payload) (hright : IsJsonValue right.payload)
    (hsame : Json.SameMembers (withoutUndefined left.toObject) (withoutUndefined right.toObject)) :
    left.Same right := by
  have hfield {x y : JsonLike} (i : ℕ) {key : JsString} (hx : (allFields left)[i]? = some (key, x))
      (hy : (allFields right)[i]? = some (key, y)) (hdefined : x.isAbsent Option.isNone = false) :
      Json.SameMembers (withoutUndefined x) (withoutUndefined y) :=
    (sameField hsame (List.mem_of_getElem? hx) (List.mem_of_getElem? hy) hdefined).2
  have hoptional (i : ℕ) {key : JsString} {value value' : Option JsString}
      (hx : (allFields left)[i]? = some (key, optionalValue value))
      (hy : (allFields right)[i]? = some (key, optionalValue value')) : value = value' := by
    cases value with
    | some text =>
      have hvalue := sameField hsame (List.mem_of_getElem? hx) (List.mem_of_getElem? hy) rfl
      cases value' with
      | some text' => exact congrArg some hvalue.2
      | none => cases hvalue.1
    | none =>
      cases value' with
      | some text' =>
        have habsent := absentField hsame (List.mem_of_getElem? hx) (List.mem_of_getElem? hy) rfl
        cases habsent
      | none => rfl
  have htype : jsString left.type.text = jsString right.type.text := hfield 3 rfl rfl rfl
  have hpayload := hfield 5 rfl rfl hleft.isAbsent_eq
  rw [hleft.withoutUndefined_eq, hright.withoutUndefined_eq] at hpayload
  refine ⟨hfield 0 rfl rfl rfl, hfield 1 rfl rfl rfl, hfield 2 rfl rfl rfl, ?_,
    hfield 4 rfl rfl rfl, hpayload, Option.some.inj (hfield 6 rfl rfl rfl), hoptional 7 rfl rfl,
    hoptional 8 rfl rfl, hoptional 9 rfl rfl⟩
  have hread := congrArg normalizeEnvelopeType htype
  rw [normalizeEnvelopeType_text, normalizeEnvelopeType_text] at hread
  exact Option.some.inj hread

end SameFields

/-! ### Different encodings -/

/-- Properties that are no array indices are in the order of their creation. -/
theorem arrange_ownPropertyOrder {α : Type} {members : List (JsString × α)}
    (h : ∀ m ∈ members, isArrayIndex m.1 = false) :
    ownPropertyOrder.arrange members = members := by
  have hnone : members.filter (fun m => isArrayIndex m.1) = [] :=
    List.filter_eq_nil_iff.mpr fun m hm => by rw [h m hm]; exact Bool.false_ne_true
  have hall : members.filter (fun m => !isArrayIndex m.1) = members :=
    List.filter_eq_self.mpr fun m hm => by rw [h m hm]; rfl
  show (members.filter fun m => isArrayIndex m.1).mergeSort _
    ++ members.filter (fun m => !isArrayIndex m.1) = members
  rw [hnone, hall, List.mergeSort_nil, List.nil_append]

/-- No field of an envelope is an array index. -/
theorem isArrayIndex_field (envelope : UnsignedEnvelope) :
    ∀ m ∈ allFields envelope, isArrayIndex m.1 = false := by
  have hkeys : ∀ key ∈ ["id", "from", "to", "type", "protocol", "payload", "timestamp", "replyTo",
      "threadId", "groupId"].map jsString, isArrayIndex key = false := by
    decide +kernel
  exact fun m hm => hkeys m.1 (List.mem_map_of_mem hm : m.1 ∈ (allFields envelope).map Prod.fst)

/-- The text of an object begins with its first key. -/
theorem compact_object_cons (texts : JsonTexts JsString (Option JsFinite)) (key : JsString)
    (v : JsonLike) (members : List (JsString × JsonLike)) :
    ∃ rest, (Json.object ((key, v) :: members)).compact texts = '{' :: (texts.string key ++ rest) :=
  ⟨_, by rw [Json.compact, Json.compactMembers]; rfl⟩

/-- The text that is not canonical begins with the id. -/
theorem legacy_head (envelope : UnsignedEnvelope) :
    ∃ rest, jsonStringify choice envelope.toObject
      = some ('{' :: (quoteUnits (jsString "id") ++ rest)) := by
  have hrearranged : envelope.toObject.rearrange ownPropertyOrder
      = .object ((allFields envelope).map (Prod.map id (Json.rearrange ownPropertyOrder))) := by
    rw [UnsignedEnvelope.toObject, Json.rearrange, Json.rearrangeMembers_eq,
      arrange_ownPropertyOrder]
    · rfl
    · intro m hm
      obtain ⟨m, hmem, rfl⟩ := List.mem_map.mp hm
      exact isArrayIndex_field envelope m hmem
  have hpresent : ¬envelope.toObject.isAbsent Option.isNone = true := Bool.false_ne_true
  rw [jsonStringify, if_neg hpresent, hrearranged, withoutUndefined_object]
  obtain ⟨rest, htext⟩ := compact_object_cons (texts choice) (jsString "id") (.string envelope.id) _
  exact ⟨rest, congrArg some htext⟩

/-- The canonical text begins with a key up to `from`. -/
theorem canonical_head (hpayload : IsJsonValue envelope.payload) :
    ∃ key rest, stringifyCanonicalJson choice envelope.toObject
      = some ('{' :: (quoteUnits key ++ rest)) ∧ key ≤ jsString "from" := by
  rw [stringifyCanonicalJson_eq choice (isJsonLike_toObject hpayload), UnsignedEnvelope.toObject,
    withoutUndefined_object, Json.rearrange, Json.rearrangeMembers_eq, List.map_map]
  generalize hmembers : canonicalOrder.arrange ((definedFields (requiredFields envelope
    ++ optionalFields envelope)).map _) = members
  have hkeys : members.map Prod.fst
      = canonicalOrder.keys ((definedFields (allFields envelope)).map Prod.fst) := by
    rw [← hmembers, Arrangement.map_fst_arrange, List.map_map]
    rfl
  have hnames : ∀ key ∈ codeUnitOrder.keys ((definedFields (allFields envelope)).map Prod.fst),
      isArrayIndex key = false := by
    intro key hkey
    obtain ⟨m, hm, rfl⟩ := List.mem_map.mp ((Arrangement.keys_perm _ _).mem_iff.mp hkey)
    exact isArrayIndex_field envelope m (List.mem_filter.mp hm).1
  have hsorted : members.map Prod.fst
      = codeUnitOrder.keys ((definedFields (allFields envelope)).map Prod.fst) := by
    rw [hkeys, canonicalOrder, Arrangement.keys_andThen, Arrangement.keys, arrange_ownPropertyOrder,
      List.map_map]
    · exact List.map_id _
    · intro m hm
      obtain ⟨key, hkey, rfl⟩ := List.mem_map.mp hm
      exact hnames key hkey
  have hpairwise := Arrangement.pairwise_keys_sortBy codeUnitsLe_iff
    ((definedFields (allFields envelope)).map Prod.fst)
  have hfrom : jsString "from" ∈ members.map Prod.fst := by
    rw [hsorted]
    have hfield : (jsString "from", .string envelope.sender) ∈ definedFields (allFields envelope) :=
      List.mem_filter.mpr ⟨List.mem_of_getElem? (i := 1) rfl, rfl⟩
    exact (Arrangement.keys_perm _ _).mem_iff.mpr (List.mem_map_of_mem hfield)
  rw [← codeUnitOrder, ← hsorted] at hpairwise
  cases members with
  | nil => cases hfrom
  | cons m members =>
    obtain ⟨key, v⟩ := m
    obtain ⟨rest, htext⟩ := compact_object_cons (texts choice) key v members
    refine ⟨key, rest, congrArg some htext, ?_⟩
    rcases List.mem_cons.mp hfrom with heq | hmem
    · rw [heq]
    · exact List.rel_of_pairwise_cons hpairwise hmem

theorem textEncode_injective {text text' : List Char}
    (h : textEncode (some text) = textEncode (some text')) : text = text' :=
  encodeUtf8_injective h

/-- **The two encodings** of envelopes are never the same. -/
theorem legacy_ne_canonical {left right : UnsignedEnvelope} (hright : IsJsonValue right.payload) :
    encodeLegacyJson choice left.toObject ≠ encodeCanonicalJson choice right.toObject := by
  obtain ⟨rest, hlegacy⟩ := legacy_head choice left
  obtain ⟨key, rest', hcanonical, hle⟩ := canonical_head choice hright
  rw [encodeLegacyJson, encodeCanonicalJson, hlegacy, hcanonical]
  intro heq
  have htext := (List.cons.inj (textEncode_injective heq)).2
  obtain ⟨rfl, -⟩ := quoteUnits_append_inj htext
  exact absurd hle (by decide +kernel)

/-- **Envelopes with one canonical encoding** have the same fields. -/
theorem same_of_canonical {left right : UnsignedEnvelope} (hleft : IsJsonValue left.payload)
    (hright : IsJsonValue right.payload)
    (h : encodeCanonicalJson choice left.toObject = encodeCanonicalJson choice right.toObject) :
    left.Same right := by
  have hleft' := isJsonLike_toObject hleft
  have hright' := isJsonLike_toObject hright
  rw [encodeCanonicalJson, encodeCanonicalJson, stringifyCanonicalJson_eq choice hleft',
    stringifyCanonicalJson_eq choice hright'] at h
  have htext : stringifyCanonicalJson choice left.toObject
      = stringifyCanonicalJson choice right.toObject := by
    rw [stringifyCanonicalJson_eq choice hleft', stringifyCanonicalJson_eq choice hright',
      textEncode_injective h]
  exact same_of_sameMembers hleft hright
    ((canonical_form choice _ _ hleft' hright').mp htext)

/-! ### Signing and verifying -/

theorem exists_of_verifyPayloads {verifyFn : List ℕ → Option Bool} {payloads : List (List ℕ)}
    (h : verifyPayloads verifyFn payloads = .ok true) :
    ∃ payload ∈ payloads, verifyFn payload = some true := by
  induction payloads with
  | nil => cases h
  | cons payload payloads ih =>
    rw [verifyPayloads] at h
    split at h
    · cases h
    · rename_i htrue
      exact ⟨payload, List.mem_cons_self .., htrue⟩
    · obtain ⟨payload', hmem, htrue⟩ := ih h
      exact ⟨payload', List.mem_cons_of_mem _ hmem, htrue⟩

/-- The canonical encoding is tried first. -/
theorem exists_encodings (value : JsonLike) :
    ∃ rest, encodeJsonSignaturePayloads choice value
      = encodeCanonicalJson choice value :: rest := by
  rw [encodeJsonSignaturePayloads]
  split <;> exact ⟨_, rfl⟩

theorem mem_encodings {value : JsonLike} {payload : List ℕ}
    (h : payload ∈ encodeJsonSignaturePayloads choice value) :
    payload = encodeCanonicalJson choice value ∨ payload = encodeLegacyJson choice value := by
  rw [encodeJsonSignaturePayloads] at h
  split at h
  · exact Or.inl (List.mem_singleton.mp h)
  · exact (List.mem_cons.mp h).imp_right List.mem_singleton.mp

/-- **CBOR that loses nothing** of a JSON value. -/
def CborCodec.Faithful (codec : CborCodec) : Prop :=
  ∀ value, IsJsonValue value → ∃ data, codec.encode value = some data ∧
    codec.decode data = some value

/-- **An ideal signature scheme**: a signature is one of the bytes that were signed, and of no
others. -/
def Ideal (signFn : List ℕ → Option (List UInt8)) (verifyFn : List UInt8 → List ℕ → Option Bool) :
    Prop :=
  ∀ data signature, signFn data = some signature →
    ∀ data', verifyFn signature data' = some (decide (data' = data))

/-- **Signed envelopes survive the wire and bind every field.**  What is created between agents and
signed is verified behind CBOR, and a JSON value that is verified with the same signature is read as
the same fields. -/
theorem signed_envelopes (choice : DigitChoice) (codec : CborCodec)
    (signFn : List ℕ → Option (List UInt8)) (verifyFn : List UInt8 → List ℕ → Option Bool)
    (hcodec : codec.Faithful) (hideal : Ideal signFn verifyFn) (creation : Creation)
    (sender receiver type protocol : JsString) (payload : JsonLike)
    (replyTo threadId groupId : Option JsString) (created signed : JsonLike)
    (hsender : isAgentDid sender = true) (hreceiver : isAgentDid receiver = true)
    (hpayload : IsJsonValue payload)
    (hcreated : createEnvelope choice creation sender receiver type protocol payload replyTo
      threadId groupId = .ok created)
    (hsigned : signEnvelope choice signFn created = .ok signed) :
    (∃ data received, encodeMessage codec signed = .ok data ∧
      decodeMessage codec data = .ok received ∧
      verifyEnvelope choice verifyFn received.toObject = .ok true) ∧
    ∃ sent, normalizeEnvelope signed = some sent ∧
      ∀ value read, IsJsonValue value → normalizeEnvelope value = some read →
        bufferFromHex read.signature = bufferFromHex sent.signature →
        verifyEnvelope choice verifyFn value = .ok true →
        read.toUnsignedEnvelope.Same sent.toUnsignedEnvelope := by
  obtain ⟨envelope, rfl, rfl, rfl, rfl, hreply⟩ :=
    createEnvelope_eq_ok choice hpayload.isAbsent_eq hcreated
  have hvalid : envelope.IsValid := ⟨hsender, hreceiver, hpayload.isAbsent_eq, hreply⟩
  rw [signEnvelope, encodeCanonicalJson_definedFields choice hpayload] at hsigned
  split at hsigned
  · rename_i signature hsignature
    obtain rfl := Except.ok.inj hsigned
    have hread := normalizeEnvelope_signed ⟨envelope, hexString signature⟩ hvalid
    have hideal := hideal _ _ hsignature
    constructor
    · obtain ⟨data, hencode, hdecode⟩ := hcodec _
        (isJsonValue_signed ⟨envelope, hexString signature⟩ hpayload)
      refine ⟨data, ⟨envelope, hexString signature⟩, ?_, ?_, ?_⟩
      · rw [encodeMessage, hencode]
      · rw [decodeMessage, hdecode]
        dsimp only
        rw [hread]
      · obtain ⟨rest, hpayloads⟩ := exists_encodings choice envelope.toObject
        rw [verifyEnvelope, normalizeEnvelope_toObject _ hvalid]
        dsimp only
        rw [bufferFromHex_hexString, hpayloads, verifyPayloads, hideal, decide_eq_true rfl]
    · refine ⟨_, hread, fun value read hvalue hnormal hbytes hverify => ?_⟩
      rw [bufferFromHex_hexString] at hbytes
      rw [verifyEnvelope, hnormal] at hverify
      dsimp only at hverify
      obtain ⟨data, hmem, htrue⟩ := exists_of_verifyPayloads hverify
      rw [hbytes, hideal, Option.some.injEq, decide_eq_true_eq] at htrue
      have hread := isJsonValue_payload hvalue hnormal
      -- what was signed is the canonical encoding, and no encoding of the other kind is the same
      rcases mem_encodings choice hmem with rfl | rfl
      · exact same_of_canonical choice hread hpayload htrue
      · exact absurd htrue (legacy_ne_canonical choice hpayload)
  · cases hsigned

/-! ### An envelope that is sent -/

/-- A codec that loses nothing: the bytes of the text of a value. -/
noncomputable def sampleCodec : CborCodec where
  encode value := some (encodeUtf8 (value.compact (texts shortestDigits)))
  decode data :=
    open Classical in
    if h : ∃ value, IsJsonValue value ∧
        encodeUtf8 (value.compact (texts shortestDigits)) = data then some h.choose
    else none

theorem faithful_sampleCodec : sampleCodec.Faithful := by
  intro value hvalue
  refine ⟨_, rfl, ?_⟩
  have hexists : ∃ value', IsJsonValue value' ∧ encodeUtf8 (value'.compact (texts shortestDigits))
      = encodeUtf8 (value.compact (texts shortestDigits)) := ⟨value, hvalue, rfl⟩
  refine (dif_pos hexists).trans ?_
  obtain ⟨hchosen, htext⟩ := hexists.choose_spec
  obtain ⟨w, hw, hwtext⟩ := exists_defined shortestDigits hchosen.defined
  obtain ⟨w', hw', hwtext'⟩ := exists_defined shortestDigits hvalue.defined
  have hsame := encodeUtf8_injective htext
  rw [hwtext, hwtext'] at hsame
  rw [← hw, Json.compact_injective (unambiguous_definedTexts shortestDigits) hsame, hw']

/-- A signature that is the bytes that are signed. -/
def sampleSign (data : List ℕ) : Option (List UInt8) :=
  if ∀ b ∈ data, b < 256 then some (data.map UInt8.ofNat) else none

def sampleVerify (signature : List UInt8) (data : List ℕ) : Option Bool :=
  some (decide (data = signature.map UInt8.toNat))

theorem ideal_sample : Ideal sampleSign sampleVerify := by
  intro data signature hsign data'
  rw [sampleSign] at hsign
  split at hsign
  · rename_i hbytes
    have hback : signature.map UInt8.toNat = data := by
      rw [← Option.some.inj hsign, List.map_map]
      refine (List.map_congr_left fun b hb => ?_).trans (List.map_id data)
      exact UInt8.toNat_ofNat_of_lt' (hbytes b hb)
    rw [sampleVerify, hback]
  · cases hsign

/-- **A request with a payload** is sent as a message. -/
theorem signed_envelopes_sample :
    let sender := jsString "did:agent:zA"
    let payload : JsonLike := .object [(jsString "text", .string (jsString "hi"))]
    ∃ created signed, createEnvelope shortestDigits ⟨⟨1, by decide +kernel⟩, [], ⟨2, by
        decide +kernel⟩⟩ sender sender (jsString "request") (jsString "p/1") payload none none
        (some (jsString "g")) = .ok created ∧
      signEnvelope shortestDigits sampleSign created = .ok signed ∧
      ∃ data received, encodeMessage sampleCodec signed = .ok data ∧
        decodeMessage sampleCodec data = .ok received ∧
        verifyEnvelope shortestDigits sampleVerify received.toObject = .ok true := by
  intro sender payload
  have htype : normalizeEnvelopeType (jsString "request") = some .message := by decide +kernel
  have hcreated := createEnvelope.eq_def shortestDigits ⟨⟨1, by decide +kernel⟩, [], ⟨2, by
    decide +kernel⟩⟩ sender sender (jsString "request") (jsString "p/1") payload none none
    (some (jsString "g"))
  rw [htype] at hcreated
  have hsign (value : JsonLike) : sampleSign (encodeCanonicalJson shortestDigits value)
      = some ((encodeCanonicalJson shortestDigits value).map UInt8.ofNat) :=
    if_pos (encodeUtf8_lt _)
  have hsigned := signEnvelope.eq_def shortestDigits sampleSign
  simp only [hsign] at hsigned
  exact ⟨_, _, hcreated, hsigned _, (signed_envelopes shortestDigits sampleCodec sampleSign
    sampleVerify faithful_sampleCodec ideal_sample _ _ _ _ _ _ _ _ _ _ _ (by decide +kernel)
    (by decide +kernel) ⟨by decide +kernel, by decide +kernel⟩ hcreated (hsigned _)).1⟩

end QuadraA.Messaging.Signed
