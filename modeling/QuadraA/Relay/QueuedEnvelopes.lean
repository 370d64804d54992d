import QuadraA.Lib.NumericText
import QuadraA.Lib.Positions

/-!
# Envelopes of the queue

`queue.ts`: an envelope is queued as an array of bytes, and records of earlier versions hold it as
the JSON of a `Buffer` or of a `Uint8Array`.

* `byte?` — `isByte`, with the byte;
* `deserializeQueuedEnvelope` — the three forms, with `deserialize_serialize` and
  `deserialize_members`.
-/

namespace QuadraA.Relay

open QuadraA.Lib

/-- A value of a stored record. -/
abbrev QueueValue := Json String JsNumber

/-- The byte that a value is, if `isByte` says that it is one. -/
def byte? : QueueValue → Option UInt8
  | .number (.finite q) =>
      if q.den = 1 ∧ 0 ≤ q ∧ q ≤ 255 then some (UInt8.ofNat q.num.toNat) else none
  | _ => none

inductive QueuedEnvelopeError where
  /-- `Queued envelope contains non-byte values` -/
  | values
  /-- `Queued envelope array contains non-byte values` -/
  | array
  /-- `Queued envelope Buffer data contains non-byte values` -/
  | bufferData
  /-- `Queued envelope object is not a serialized Uint8Array` -/
  | notSerialized
  /-- `Queued envelope object is missing byte positions` -/
  | missingPositions
deriving DecidableEq

/-- Values that are all bytes. -/
def allBytes (values : List QueueValue) (error : QueuedEnvelopeError) :
    Except QueuedEnvelopeError (List UInt8) :=
  match values.mapM byte? with
  | some bytes => .ok bytes
  | none => .error error

def serializeQueuedEnvelope (envelope : List JsNumber) :
    Except QueuedEnvelopeError (List UInt8) :=
  allBytes (envelope.map .number) .values

/-- `number[] | Record<string, unknown>`. -/
inductive StoredQueuedEnvelope where
  | array (items : List QueueValue)
  | object (members : List (String × QueueValue))

/-- `envelope.data`, of an object with `type: 'Buffer'` and an array there. -/
def bufferData? {ν : Type} (members : List (String × Json String ν)) :
    Option (List (Json String ν)) :=
  match members.lookup "type" with
  | some (.string type) =>
      if type = "Buffer" then
        match members.lookup "data" with
        | some (.array data) => some data
        | _ => none
      else none
  | _ => none

/-- `Number(key)`, when it is an index. -/
def indexKey? (key : String) : Option ℕ :=
  match stringToNumber key with
  | .finite q => if q.den = 1 ∧ 0 ≤ q then some q.num.toNat else none
  | _ => none

def deserializeQueuedEnvelope : StoredQueuedEnvelope → Except QueuedEnvelopeError (List UInt8)
  | .array items => allBytes items .array
  | .object members =>
      match bufferData? members with
      | some data => allBytes data .bufferData
      | none =>
          if members.isEmpty then .ok []
          else
            match readPairs indexKey? byte? members with
            | none => .error .notSerialized
            | some indexed =>
                match inOrder indexed with
                | none => .error .missingPositions
                | some bytes => .ok bytes

/-! ### What is read -/

variable {bytes : List UInt8} {n : ℕ}

theorem allBytes_eq_ok_iff {values : List QueueValue} {error : QueuedEnvelopeError} :
    allBytes values error = .ok bytes ↔ values.mapM byte? = some bytes := by
  rw [allBytes]
  cases values.mapM byte? <;> simp

/-- **What is queued** is read back. -/
theorem deserialize_serialize {envelope : List JsNumber}
    (h : serializeQueuedEnvelope envelope = .ok bytes) :
    deserializeQueuedEnvelope (.array (envelope.map .number)) = .ok bytes :=
  allBytes_eq_ok_iff.mpr (allBytes_eq_ok_iff.mp h)

/-- **An object of positions** is read by its keys. -/
theorem deserialize_members {members : List (String × QueueValue)}
    (hbuffer : bufferData? members = none) :
    deserializeQueuedEnvelope (.object members) = .ok bytes ↔
      (readPairs indexKey? byte? members).bind inOrder = some bytes := by
  rw [deserializeQueuedEnvelope, hbuffer]
  cases members with
  | nil =>
    show Except.ok [] = Except.ok bytes ↔ inOrder [] = some bytes
    rw [inOrder, List.mergeSort_nil]
    simp
  | cons member members =>
    show (match readPairs indexKey? byte? (member :: members) with
      | none => Except.error QueuedEnvelopeError.notSerialized
      | some indexed =>
        match inOrder indexed with
        | none => Except.error QueuedEnvelopeError.missingPositions
        | some bytes => Except.ok bytes) = .ok bytes ↔ _
    cases readPairs indexKey? byte? (member :: members) with
    | none => simp
    | some indexed =>
      dsimp only [Option.bind_some]
      cases inOrder indexed <;> simp

/-- What `byte?` reads in a number. -/
theorem byte?_natCast (hn : n < 256) : byte? (.number (.finite n)) = some (UInt8.ofNat n) := by
  have hle : (n : ℚ) ≤ 255 := by exact_mod_cast Nat.lt_succ_iff.mp hn
  rw [byte?, if_pos ⟨Rat.den_natCast n, Nat.cast_nonneg n, hle⟩, Rat.num_natCast, Int.toNat_natCast]

/-- **The decimal digits of an index** are read as the index. -/
theorem indexKey?_toDigits (hn : n < 2 ^ 53) :
    indexKey? (String.ofList (Nat.toDigits 10 n)) = some n := by
  have hround : JsNumber.ofRat (n : ℚ) = .finite n := by
    have hint := JsNumber.ofRat_int (m := n) (by rw [Nat.abs_cast]; exact_mod_cast hn)
    rwa [Int.cast_natCast] at hint
  rw [indexKey?, stringToNumber_toDigits, hround]
  dsimp only
  rw [if_pos ⟨Rat.den_natCast n, Nat.cast_nonneg n⟩, Rat.num_natCast, Int.toNat_natCast]

end QuadraA.Relay
