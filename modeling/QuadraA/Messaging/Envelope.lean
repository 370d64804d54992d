import QuadraA.E2E.X25519
import Mathlib.Data.Int.Notation

/-!
# Message envelopes

`messaging/envelope.ts`: the JSON envelope that carries every message, the check that a parsed value
is one (`normalizeEnvelope`), and the verification of its signature.

JSON text, the canonical encodings that are signed and the key of a DID are the fields of
`EnvelopeServices`; nothing in this development depends on what they accept.
-/

namespace QuadraA.Messaging

open QuadraA.E2E

/-- A JSON value.  The order of the entries of an object is the order of its properties. -/
inductive JsonValue where
  | null
  | bool (value : Bool)
  | number (value : ℤ)
  | string (value : String)
  | array (items : List JsonValue)
  | object (entries : List (String × JsonValue))
deriving Repr

/-- A property of a value; `none` for `undefined`. -/
def JsonValue.property (value : JsonValue) (name : String) : Option JsonValue :=
  match value with
  | .object entries => (entries.find? fun entry => entry.1 = name).map Prod.snd
  | _ => none

/-- The property when it is a string. -/
def JsonValue.stringProperty (value : JsonValue) (name : String) : Option String :=
  match value.property name with
  | some (.string text) => some text
  | _ => none

/-- The property when it is a number. -/
def JsonValue.numberProperty (value : JsonValue) (name : String) : Option ℤ :=
  match value.property name with
  | some (.number amount) => some amount
  | _ => none

inductive MessageEnvelopeType where
  | message
  | reply
deriving DecidableEq, Repr

def MessageEnvelopeType.text : MessageEnvelopeType → String
  | .message => "message"
  | .reply => "reply"

structure MessageEnvelope where
  id : String
  sender : String
  receiver : String
  type : MessageEnvelopeType
  protocol : String
  payload : JsonValue
  timestamp : ℤ
  signature : String
  replyTo : Option String
  threadId : Option String
  groupId : Option String
deriving Repr

def normalizeEnvelopeType (type : String) : Option MessageEnvelopeType :=
  if type = "message" || type = "notification" || type = "request" then some .message
  else if type = "reply" || type = "response" then some .reply
  else none

/-- `value.startsWith('did:agent:')`. -/
def isAgentDid (value : String) : Bool := "did:agent:".toList.isPrefixOf value.toList

def normalizeEnvelope (msg : JsonValue) : Option MessageEnvelope := do
  let normalizedType ← (msg.stringProperty "type").bind normalizeEnvelopeType
  let id ← msg.stringProperty "id"
  let sender ← msg.stringProperty "from"
  let receiver ← msg.stringProperty "to"
  let protocol ← msg.stringProperty "protocol"
  let payload ← msg.property "payload"
  let timestamp ← msg.numberProperty "timestamp"
  let signature ← msg.stringProperty "signature"
  let replyTo := msg.stringProperty "replyTo"
  guard (isAgentDid sender && isAgentDid receiver)
  guard !(normalizedType = .reply && replyTo.isNone)
  return { id, sender, receiver, type := normalizedType, protocol, payload, timestamp, signature,
           replyTo, threadId := msg.stringProperty "threadId",
           groupId := msg.stringProperty "groupId" }

/-- An optional property of an object literal. -/
def optionalProperty (name : String) (value : Option String) : List (String × JsonValue) :=
  match value with
  | some text => [(name, .string text)]
  | none => []

/-- The envelope as the object it is. -/
def MessageEnvelope.toJson (envelope : MessageEnvelope) : JsonValue :=
  .object <|
    [("id", .string envelope.id),
     ("from", .string envelope.sender),
     ("to", .string envelope.receiver),
     ("type", .string envelope.type.text),
     ("protocol", .string envelope.protocol),
     ("payload", envelope.payload),
     ("timestamp", .number envelope.timestamp),
     ("signature", .string envelope.signature)]
    ++ optionalProperty "replyTo" envelope.replyTo
    ++ optionalProperty "threadId" envelope.threadId
    ++ optionalProperty "groupId" envelope.groupId

/-- What the envelope layer takes from JSON, the DID codec and the signature scheme. -/
structure EnvelopeServices where
  /-- `JSON.parse(new TextDecoder().decode(bytes))`; `none` for a syntax error. -/
  parseJson : Bytes → Option JsonValue
  /-- `new TextEncoder().encode(JSON.stringify(value))`. -/
  stringifyJson : JsonValue → Bytes
  /-- Whether the signature of an envelope verifies, over one of its two encodings and under the
  key of its `from` DID; `none` for a thrown error. -/
  verifySignature : MessageEnvelope → Option Bool

def verifyEnvelope (services : EnvelopeServices) (envelope : MessageEnvelope) :
    Except EncryptionError Bool :=
  match normalizeEnvelope envelope.toJson with
  | none => .ok false
  | some normalized =>
      match services.verifySignature normalized with
      | some valid => .ok valid
      | none => .error .verifyEnvelope

end QuadraA.Messaging
