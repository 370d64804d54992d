import QuadraA.RuntimeRs.EnvelopeBytes

/-!
# Control requests

The functions of the relay session in `relay.rs` that wait for the response to a request, and what
they do with the other messages that they read meanwhile.

* `control_orderly_iff` — the one holds exactly when the other does;
* `control_disturbed` — a ping frame ends a request, and a PONG that fails takes messages with it.
-/

namespace QuadraA.RuntimeRs

open QuadraA.Lib QuadraA.Protocol

/-! ### Reading -/

inductive Frame where
  | binary (data : List UInt8)
  | text (text : String)
  | ping
  | pong
  | close (reason : Option String)

inductive WireError where
  /-- What the decoders say of a frame. -/
  | undecodable
  /-- `Connection closed by relay: {reason}` -/
  | closed (reason : Option String)
  /-- `Unexpected WebSocket message: {other}` -/
  | unexpected (frame : Frame)
  /-- The socket does not take a message. -/
  | write

/-- The socket during a request: the decoders of its frames, and what becomes of the request and of
each PONG. -/
structure Wire where
  cborDecodeValue : List UInt8 → Option SerdeValue
  fromStr : String → Option SerdeValue
  sendRaw : Bool
  sendPong : ℕ → Bool

def decodeRelayMessage (wire : Wire) : Frame → Except WireError SerdeValue
  | .binary data => (wire.cborDecodeValue data).elim (.error .undecodable) .ok
  | .text text => (wire.fromStr text).elim (.error .undecodable) .ok
  | .close reason => .error (.closed reason)
  | frame => .error (.unexpected frame)

/-- The session: `incoming` are the frames that come before the deadline. -/
structure ControlSession where
  pendingMessages : List SerdeValue
  incoming : List Frame
  pongs : ℕ

/-- What `next_message_with_deadline` gives, time after time, before the timeout. -/
def ControlSession.reads (wire : Wire) (session : ControlSession) :
    List (Except WireError SerdeValue) :=
  session.pendingMessages.map .ok ++ session.incoming.map (decodeRelayMessage wire)

def isPing (message : SerdeValue) : Bool := textField message "type" = some "PING"

/-! ### The seven functions -/

inductive ControlRequest where
  | publishPrekeyBundles
  | fetchPrekeyBundle (did deviceId : String)
  | discover
  | fetchCard (did : String)
  | waitDeliveryReportWithId
  | publishEndorsement
  | queryEndorsements

/-- What `serde` and the checks of cards make of the payloads. -/
structure Payloads (B C E : Type) where
  bundle : SerdeValue → Option B
  card : SerdeValue → Option C
  relayEndorsementToLocal : SerdeValue → Option E
  discoveredAgentHasValidCard : SerdeValue → Bool
  fetchedCardMatchesRequest : String → C → Bool

inductive ControlOutcome (B C E : Type) where
  | published
  | bundle (bundle : Option B)
  | agents (agents : List SerdeValue)
  | card (card : Option C)
  | report (messageId status : String)
  | endorsed
  | trust (endorsements : List E) (totalCount : ℕ) (averageScore : JsNumber)
      (nextCursor : Option String)

inductive ControlError where
  | timeout (context : String)
  | wire (error : WireError)
  /-- `serde_json::from_value` fails. -/
  | payload
  /-- `{context}: {message}` -/
  | relay (context message : String)

namespace ControlRequest

def timeoutContext : ControlRequest → String
  | publishPrekeyBundles => "Timeout waiting for PREKEYS_PUBLISHED"
  | fetchPrekeyBundle _ _ => "Timeout waiting for PREKEY_BUNDLE"
  | discover => "Timeout waiting for DISCOVERED"
  | fetchCard _ => "Timeout waiting for CARD"
  | waitDeliveryReportWithId => "Timeout waiting for delivery report"
  | publishEndorsement => "Timeout waiting for endorsement response"
  | queryEndorsements => "Timeout waiting for trust query response"

/-- Whether the function sends a request before it waits. -/
def sends : ControlRequest → Bool
  | waitDeliveryReportWithId => false
  | _ => true

/-- The arms of the `match` that return. -/
def Answered (request : ControlRequest) (message : SerdeValue) : Bool :=
  let type := textField message "type"
  match request with
  | publishPrekeyBundles => type = some "PREKEYS_PUBLISHED"
  | fetchPrekeyBundle did deviceId =>
      type = some "PREKEY_BUNDLE" && textField message "did" = some did &&
        textField message "deviceId" = some deviceId
  | discover => type = some "DISCOVERED"
  | fetchCard did => type = some "CARD" && textField message "did" = some did
  | waitDeliveryReportWithId => type = some "DELIVERY_REPORT"
  | publishEndorsement => type = some "ENDORSE_ACK" || type = some "ERROR"
  | queryEndorsements => type = some "TRUST_RESULT" || type = some "ERROR"

/-- The elements of an array. -/
def elements (message : SerdeValue) (field : String) : List SerdeValue :=
  match getField message field with
  | some (.array items) => items
  | _ => []

def isError (message : SerdeValue) : Bool := textField message "type" = some "ERROR"

def errorText (message : SerdeValue) : String :=
  (textField message "message").getD "Unknown error"

/-- A payload that may be `null`. -/
def optionalPayload {α : Type} (parse : SerdeValue → Option α) (message : SerdeValue)
    (field : String) : Except ControlError (Option α) :=
  match (getField message field).getD .null with
  | .null => .ok none
  | value => (parse value).elim (.error .payload) fun payload => .ok (some payload)

variable {B C E : Type}

/-- What the function makes of its response. -/
def outcome (payloads : Payloads B C E) (request : ControlRequest) (message : SerdeValue) :
    Except ControlError (ControlOutcome B C E) :=
  match request with
  | publishPrekeyBundles => .ok .published
  | fetchPrekeyBundle _ _ => (optionalPayload payloads.bundle message "bundle").map .bundle
  | discover =>
      .ok (.agents ((elements message "agents").filter payloads.discoveredAgentHasValidCard))
  | fetchCard did =>
      (optionalPayload payloads.card message "card").map fun card =>
        .card (card.filter (payloads.fetchedCardMatchesRequest did))
  | waitDeliveryReportWithId =>
      .ok (.report ((textField message "messageId").getD "")
        ((textField message "status").getD "unknown"))
  | publishEndorsement =>
      if isError message then
        .error (.relay "Relay error publishing endorsement" (errorText message))
      else .ok .endorsed
  | queryEndorsements =>
      if isError message then
        .error (.relay "Relay error querying endorsements" (errorText message))
      else
        .ok (.trust ((elements message "endorsements").filterMap payloads.relayEndorsementToLocal)
          (match getField message "endorsementCount" with
            | some (.number (.posInt count)) => count % 2 ^ 32
            | _ => 0)
          (match getField message "averageScore" with
            | some (.number score) => score.asF64
            | _ => .finite 0)
          (textField message "nextCursor"))

end ControlRequest

/-- How the loop ends: what it has restored to the pending messages, the PONGs it has sent, and how
much it has read. -/
structure Exit where
  result : Except ControlError SerdeValue
  restored : List SerdeValue
  pongs : ℕ
  read : ℕ

/-- **The receive loop**, with the messages that it has deferred.  A PONG that cannot be sent ends
the function at the `?`, and the deferred messages are not restored. -/
def receive (wire : Wire) (request : ControlRequest) :
    List (Except WireError SerdeValue) → List SerdeValue → ℕ → ℕ → Exit
  | [], deferred, pongs, read => ⟨.error (.timeout request.timeoutContext), deferred, pongs, read⟩
  | .error error :: _, deferred, pongs, read => ⟨.error (.wire error), deferred, pongs, read + 1⟩
  | .ok message :: reads, deferred, pongs, read =>
      if request.Answered message then ⟨.ok message, deferred, pongs, read + 1⟩
      else if isPing message then
        if wire.sendPong pongs then receive wire request reads deferred (pongs + 1) (read + 1)
        else ⟨.error (.wire .write), [], pongs, read + 1⟩
      else receive wire request reads (deferred ++ [message]) pongs (read + 1)

variable {B C E : Type}

/-- **A control request** and the session behind it. -/
def control (wire : Wire) (payloads : Payloads B C E) (request : ControlRequest)
    (session : ControlSession) : Except ControlError (ControlOutcome B C E) × ControlSession :=
  if request.sends ∧ wire.sendRaw = false then (.error (.wire .write), session)
  else
    let exit := receive wire request (session.reads wire) [] 0 0
    (exit.result.bind (request.outcome payloads),
      { pendingMessages := exit.restored ++ session.pendingMessages.drop exit.read
        incoming := session.incoming.drop (exit.read - session.pendingMessages.length)
        pongs := session.pongs + exit.pongs })

/-! ### What happens to the other messages -/

/-- The messages of the session: the pending ones and those of the frames. -/
def ControlSession.messages (wire : Wire) (session : ControlSession) : List SerdeValue :=
  (session.reads wire).filterMap Except.toOption

/-- The messages before the first response. -/
def ControlRequest.earlier (request : ControlRequest) (messages : List SerdeValue) :
    List SerdeValue :=
  messages.takeWhile fun message => !request.Answered message

/-- **The request keeps the other traffic**: it returns what the first response says, or times out,
answers every PING before it, and leaves the other messages before it pending, in their order, in
front of the pending messages that it has not read. -/
def Orderly (wire : Wire) (payloads : Payloads B C E) (request : ControlRequest)
    (session : ControlSession) : Prop :=
  let earlier := request.earlier (session.messages wire)
  let (result, after) := control wire payloads request session
  result =
      (match (session.messages wire).find? request.Answered with
        | some message => request.outcome payloads message
        | none => .error (.timeout request.timeoutContext)) ∧
    after.pongs = session.pongs + earlier.countP isPing ∧
    after.pendingMessages = earlier.filter (fun message => !isPing message) ++
      session.pendingMessages.drop (earlier.length + 1)

/-- A frame is a message, and not a response. -/
def IsEarlier (request : ControlRequest) : Except WireError SerdeValue → Bool
  | .ok message => !request.Answered message
  | .error _ => true

/-- **Nothing disturbs the loop** after some PONGs: every frame before the first response is a
message, and every PONG before it is sent. -/
structure Undisturbed (wire : Wire) (request : ControlRequest)
    (reads : List (Except WireError SerdeValue)) (pongs : ℕ) : Prop where
  messages : ∀ read ∈ reads.takeWhile (IsEarlier request), read.isOk
  pongs : ∀ n < (request.earlier (reads.filterMap Except.toOption)).countP isPing,
    wire.sendPong (pongs + n)

section

variable {wire : Wire} {payloads : Payloads B C E} {request : ControlRequest}
  {message : SerdeValue} {reads : List (Except WireError SerdeValue)} {pongs : ℕ}

theorem received_ok (message : SerdeValue) (reads : List (Except WireError SerdeValue)) :
    (Except.ok message :: reads).filterMap Except.toOption
      = message :: reads.filterMap Except.toOption :=
  rfl

theorem not_undisturbed_error (error : WireError) :
    ¬Undisturbed wire request (.error error :: reads) pongs := by
  intro h
  have hok := h.messages (.error error) (by rw [List.takeWhile_cons_of_pos rfl]; exact .head _)
  cases hok

theorem undisturbed_answered (hanswered : request.Answered message = true) :
    Undisturbed wire request (.ok message :: reads) pongs := by
  have hnot : ¬IsEarlier request (.ok message) = true := by
    rw [IsEarlier, hanswered]
    exact Bool.false_ne_true
  refine ⟨fun read hread => ?_, fun n hn => ?_⟩
  · rw [List.takeWhile_cons_of_neg hnot] at hread
    cases hread
  · rw [ControlRequest.earlier, received_ok,
      List.takeWhile_cons_of_neg (by rw [hanswered]; exact Bool.false_ne_true)] at hn
    cases hn

/-- What a message that is no response adds to those before the response. -/
theorem earlier_cons (hanswered : ¬request.Answered message = true)
    (messages : List SerdeValue) :
    request.earlier (message :: messages) = message :: request.earlier messages :=
  List.takeWhile_cons_of_pos (by simpa using hanswered)

theorem undisturbed_cons (hanswered : ¬request.Answered message = true) :
    Undisturbed wire request (.ok message :: reads) pongs ↔
      if isPing message = true then
        wire.sendPong pongs = true ∧ Undisturbed wire request reads (pongs + 1)
      else Undisturbed wire request reads pongs := by
  have hreads : (Except.ok message :: reads).takeWhile (IsEarlier request)
      = .ok message :: reads.takeWhile (IsEarlier request) :=
    List.takeWhile_cons_of_pos (by simpa [IsEarlier] using hanswered)
  have hmessages : (∀ read ∈ (Except.ok message :: reads).takeWhile (IsEarlier request),
      read.isOk = true) ↔ ∀ read ∈ reads.takeWhile (IsEarlier request), read.isOk = true := by
    rw [hreads, List.forall_mem_cons]
    exact and_iff_right rfl
  have hearlier := earlier_cons hanswered (reads.filterMap Except.toOption)
  split
  · rename_i hping
    constructor
    · rintro ⟨hok, hpongs⟩
      rw [received_ok, hearlier, List.countP_cons_of_pos hping] at hpongs
      refine ⟨hpongs 0 (Nat.succ_pos _), hmessages.mp hok, fun n hn => ?_⟩
      rw [Nat.add_assoc, Nat.add_comm 1 n]
      exact hpongs (n + 1) (Nat.succ_lt_succ hn)
    · rintro ⟨hfirst, hok, hpongs⟩
      refine ⟨hmessages.mpr hok, fun n hn => ?_⟩
      rw [received_ok, hearlier, List.countP_cons_of_pos hping] at hn
      cases n with
      | zero => exact hfirst
      | succ n =>
        rw [Nat.add_comm n 1, ← Nat.add_assoc]
        exact hpongs n (Nat.lt_of_succ_lt_succ hn)
  · rename_i hping
    have hcount : (request.earlier ((Except.ok message :: reads).filterMap
        Except.toOption)).countP isPing
          = (request.earlier (reads.filterMap Except.toOption)).countP isPing := by
      rw [received_ok, hearlier, List.countP_cons_of_neg hping]
    constructor
    · exact fun h => ⟨hmessages.mp h.messages, hcount ▸ h.pongs⟩
    · exact fun h => ⟨hmessages.mpr h.messages, hcount.symm ▸ h.pongs⟩

/-- **The undisturbed loop** gets to the first response or to the deadline, with the other messages
in its hands. -/
theorem receive_of_undisturbed (h : Undisturbed wire request reads pongs)
    (deferred : List SerdeValue) (read : ℕ) :
    let messages := reads.filterMap Except.toOption
    let earlier := request.earlier messages
    receive wire request reads deferred pongs read =
      ⟨match messages.find? request.Answered with
        | some message => .ok message
        | none => .error (.timeout request.timeoutContext),
        deferred ++ earlier.filter (fun message => !isPing message),
        pongs + earlier.countP isPing, read + min (earlier.length + 1) reads.length⟩ := by
  dsimp only
  induction reads generalizing deferred pongs read with
  | nil =>
    rw [receive]
    simp [ControlRequest.earlier]
  | cons next reads ih =>
    cases next with
    | error error => exact absurd h (not_undisturbed_error error)
    | ok message =>
      rw [receive, received_ok]
      by_cases hanswered : request.Answered message = true
      · rw [if_pos hanswered, List.find?_cons_of_pos hanswered]
        simp [ControlRequest.earlier, hanswered]
      · rw [if_neg hanswered, List.find?_cons_of_neg hanswered, earlier_cons hanswered,
          List.length_cons, List.length_cons, Nat.succ_min_succ]
        rw [undisturbed_cons hanswered] at h
        split
        · rename_i hping
          rw [if_pos hping] at h
          rw [if_pos h.1, ih h.2, List.countP_cons_of_pos hping,
            List.filter_cons_of_neg (by simpa using hping)]
          congr 1 <;> omega
        · rename_i hping
          rw [if_neg hping] at h
          rw [ih h, List.countP_cons_of_neg hping, List.filter_cons_of_pos (by simpa using hping),
            List.append_assoc, List.singleton_append]
          congr 1
          omega

/-- **A disturbed loop** ends with an error of the socket. -/
theorem receive_of_disturbed (h : ¬Undisturbed wire request reads pongs)
    (deferred : List SerdeValue) (read : ℕ) :
    ∃ error, (receive wire request reads deferred pongs read).result = .error (.wire error) := by
  induction reads generalizing deferred pongs read with
  | nil =>
    exact absurd ⟨fun _ hmem => (nomatch hmem), fun n hn => absurd hn (Nat.not_lt_zero n)⟩ h
  | cons next reads ih =>
    cases next with
    | error error => exact ⟨error, rfl⟩
    | ok message =>
      rw [receive]
      by_cases hanswered : request.Answered message = true
      · exact absurd (undisturbed_answered hanswered) h
      · rw [undisturbed_cons hanswered] at h
        rw [if_neg hanswered]
        split
        · rename_i hping
          rw [if_pos hping, not_and] at h
          split
          · rename_i hpong
            exact ih (h hpong) deferred (read + 1)
          · exact ⟨.write, rfl⟩
        · rename_i hping
          rw [if_neg hping] at h
          exact ih h _ _

theorem optionalPayload_ne_wire {α β : Type} (parse : SerdeValue → Option α) (f : Option α → β)
    (message : SerdeValue) (field : String) (error : WireError) :
    (ControlRequest.optionalPayload parse message field).map f ≠ .error (.wire error) := by
  unfold ControlRequest.optionalPayload
  split
  · exact fun h => by cases h
  · rename_i value _
    cases parse ((getField message field).getD .null) <;> exact fun h => by cases h

/-- No response reads like an error of the socket. -/
theorem outcome_ne_wire (message : SerdeValue) (error : WireError) :
    request.outcome payloads message ≠ .error (.wire error) := by
  cases request with
  | fetchPrekeyBundle => exact optionalPayload_ne_wire payloads.bundle _ message "bundle" error
  | fetchCard => exact optionalPayload_ne_wire payloads.card _ message "card" error
  | publishEndorsement | queryEndorsements =>
    unfold ControlRequest.outcome
    dsimp only
    split <;> exact fun h => by cases h
  | _ => exact fun h => by cases h

/-- What the deadline or the response leaves unread of the pending messages. -/
theorem drop_min_length (l : List SerdeValue) {n m : ℕ} (h : l.length ≤ m) :
    l.drop (0 + min n m) = l.drop n := by
  rw [Nat.zero_add]
  rcases Nat.le_total n m with hle | hle
  · rw [Nat.min_eq_left hle]
  · rw [Nat.min_eq_right hle, List.drop_of_length_le h, List.drop_of_length_le (h.trans hle)]

/-- **A control request keeps the other traffic** exactly when it is sent and nothing disturbs it:
a ping or pong frame, an undecodable one, or a PONG that cannot be sent before the first response
makes an error of it. -/
theorem control_orderly_iff (wire : Wire) (payloads : Payloads B C E) (request : ControlRequest)
    (session : ControlSession) :
    Orderly wire payloads request session ↔
      (request.sends → wire.sendRaw) ∧ Undisturbed wire request (session.reads wire) 0 := by
  have hnever : ∀ error, .error (.wire error) ≠
      match (session.messages wire).find? request.Answered with
      | some message => request.outcome payloads message
      | none => .error (.timeout request.timeoutContext) := by
    intro error
    split
    · exact (outcome_ne_wire _ error).symm
    · exact fun h => by cases h
  unfold Orderly control
  by_cases hunsent : request.sends ∧ wire.sendRaw = false
  · rw [if_pos hunsent]
    refine iff_of_false (fun h => hnever .write h.1) fun h => ?_
    have hsent := h.1 hunsent.1
    rw [hunsent.2] at hsent
    cases hsent
  · have hsent : request.sends → wire.sendRaw := by
      intro hsends
      cases hraw : wire.sendRaw with
      | true => rfl
      | false => exact absurd ⟨hsends, hraw⟩ hunsent
    rw [if_neg hunsent, and_iff_right hsent]
    by_cases h : Undisturbed wire request (session.reads wire) 0
    · refine iff_of_true ?_ h
      rw [receive_of_undisturbed h]
      refine ⟨?_, ?_, ?_⟩
      · unfold ControlSession.messages
        cases ((session.reads wire).filterMap Except.toOption).find? request.Answered <;> rfl
      · exact congrArg (session.pongs + ·) (Nat.zero_add _)
      · refine congrArg (_ ++ ·) (drop_min_length _ ?_)
        rw [ControlSession.reads, List.length_append, List.length_map]
        exact Nat.le_add_right _ _
    · obtain ⟨error, herror⟩ := receive_of_disturbed h [] 0
      have hresult : (receive wire request (session.reads wire) [] 0 0).result.bind
          (request.outcome payloads) = .error (.wire error) := by
        rw [herror]
        rfl
      exact iff_of_false (fun horderly => hnever error (hresult.symm.trans horderly.1)) h

end

/-! ### A session with three messages -/

def messageOf (type : String) : SerdeValue := .object [("type", .string type)]

/-- A socket with three messages, on which no PONG or every PONG can be sent. -/
def sampleWire (sendPong : Bool) : Wire where
  cborDecodeValue
    | [0] => some (messageOf "PING")
    | [1] => some (messageOf "DELIVER")
    | [2] => some (messageOf "PREKEYS_PUBLISHED")
    | _ => none
  fromStr _ := none
  sendRaw := true
  sendPong _ := sendPong

def samplePayloads : Payloads Unit Unit Unit :=
  ⟨fun _ => none, fun _ => none, fun _ => none, fun _ => false, fun _ _ => false⟩

/-- **What disturbs a request**: it does not survive a ping frame of the WebSocket, and when its
PONG cannot be sent, the message that came before the PING is gone. -/
theorem control_disturbed :
    let pinged : ControlSession := ⟨[], [.ping, .binary [2]], 0⟩
    let unanswered : ControlSession := ⟨[], [.binary [1], .binary [0], .binary [2]], 0⟩
    ¬Orderly (sampleWire true) samplePayloads .publishPrekeyBundles pinged ∧
      ¬Orderly (sampleWire false) samplePayloads .publishPrekeyBundles unanswered ∧
      (control (sampleWire true) samplePayloads .publishPrekeyBundles pinged).1
        = .error (.wire (.unexpected .ping)) ∧
      (control (sampleWire false) samplePayloads .publishPrekeyBundles unanswered).2.pendingMessages
        = [] := by
  intro pinged unanswered
  have hpinged : (control (sampleWire true) samplePayloads .publishPrekeyBundles pinged).1
      = .error (.wire (.unexpected .ping)) := rfl
  have hlost : (control (sampleWire false) samplePayloads .publishPrekeyBundles
      unanswered).2.pendingMessages = [] := rfl
  refine ⟨fun h => ?_, fun h => ?_, hpinged, hlost⟩
  · cases hpinged.symm.trans h.1
  · cases hlost.symm.trans h.2.2

end QuadraA.RuntimeRs
