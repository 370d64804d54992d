import QuadraA.RuntimeRs.EnvelopeBytes
import QuadraA.RuntimeRs.ManagedRelays

/-!
# Requests of a client

`handle_client` of `daemon.rs`: a `select!` between the next line of the client and the next event
of the inbox.  `read_line` takes what bytes there are, and waits for the others; an event that comes
first drops it, and the buffer is cleared in the next round.

* `requests_handled` — in a calm run exactly the requests are handled and answered, in order;
* `request_cut` — an event that comes inside a request takes what was read of it.
-/

namespace QuadraA.CliRs

open QuadraA.Lib QuadraA.RuntimeRs
open QuadraA.RuntimeRs.Managed (rustTrim)

/-! ### Lines -/

def lineEnd : ℕ := 10

/-- `String::from_utf8`: the text with these bytes. -/
def fromUtf8 (bytes : List ℕ) : Option (List Char) :=
  if encodeUtf8 (decodeUtf8 bytes) = bytes then some (decodeUtf8 bytes) else none

/-! ### The connection -/

/-- What answers the requests: `serde_json::from_str`, the identifiers of new subscriptions, and
`handle_command`, both by the number of lines written before. -/
structure RequestHandler where
  fromStr : List Char → Except String SerdeValue
  newSubscription : ℕ → String
  handleCommand : ℕ → String → SerdeValue → Except String SerdeValue

/-- A line that is written to the client. -/
inductive ClientLine where
  | response (id : String) (response : Except String SerdeValue)
  | event (subscriptionId : String)

/-- **The connection**: the bytes that have come and are not read, those that the waiting
`read_line` has read, and what has been handled and written.  `handled` are the values that the
lines were read as. -/
structure ClientConnection where
  available : List ℕ
  buf : List ℕ
  subscriptions : List String
  handled : List SerdeValue
  written : List ClientLine
  ended : Bool

def ClientConnection.accepted : ClientConnection := ⟨[], [], [], [], [], false⟩

inductive ClientAction where
  | arrive (bytes : List ℕ)
  | poll
  | event (matching : String → Bool)

def requestId (request : SerdeValue) : String := (textField request "id").getD "unknown"

/-- The subscription that `unsubscribe` names. -/
def namedSubscription (params : SerdeValue) : Option String :=
  ((textField params "subscriptionId").map fun id => String.ofList (rustTrim id.toList)).filter
    fun id => id ≠ ""

variable (handler : RequestHandler)

namespace ClientConnection

def respond (s : ClientConnection) (id : String) (response : Except String SerdeValue) :
    ClientConnection :=
  { s with written := s.written ++ [.response id response] }

def handleRequest (s : ClientConnection) (request : SerdeValue) : ClientConnection :=
  let id := requestId request
  let command := (textField request "command").getD ""
  let params := (getField request "params").getD .null
  let s := { s with handled := s.handled ++ [request] }
  if command = "subscribe_inbox" then
    let subscriptionId := handler.newSubscription s.written.length
    { s with subscriptions := s.subscriptions ++ [subscriptionId] }.respond id
      (.ok (.object [("subscriptionId", .string subscriptionId)]))
  else if command = "unsubscribe" then
    match namedSubscription params with
    | none => s.respond id (.error "Missing subscriptionId parameter")
    | some subscriptionId =>
        if subscriptionId ∈ s.subscriptions then
          { s with subscriptions := s.subscriptions.erase subscriptionId }.respond id
            (.ok (.object [("subscriptionId", .string subscriptionId)]))
        else s.respond id (.error ("Unknown subscriptionId: " ++ subscriptionId))
  else s.respond id (handler.handleCommand s.written.length command params)

/-- A line without its end: one that is no text ends the connection. -/
def handleLine (s : ClientConnection) (line : List ℕ) : ClientConnection :=
  match (fromUtf8 line).map rustTrim with
  | none => { s with ended := true }
  | some [] => s
  | some trimmed =>
      match handler.fromStr trimmed with
      | .error error => s.respond "unknown" (.error ("Invalid JSON: " ++ error))
      | .ok request => s.handleRequest handler request

/-- **What the connection does next.** -/
def step (s : ClientConnection) : ClientAction → Option ClientConnection
  | .arrive bytes => some { s with available := s.available ++ bytes }
  | .poll =>
      if s.ended then none
      else
        let line := s.buf ++ s.available.takeWhile (· ≠ lineEnd)
        match s.available.dropWhile (· ≠ lineEnd) with
        | [] => some { s with available := [], buf := line }
        | _ :: rest => some ({ s with available := rest, buf := [] }.handleLine handler line)
  | .event matching =>
      if s.ended ∨ s.subscriptions = [] then none
      else
        some { s with
          buf := []
          written := s.written ++ (s.subscriptions.filter matching).map .event }

end ClientConnection

/-- **No event wins while a line is read.** -/
def Calm (s : ClientConnection) : ClientAction → Prop
  | .event _ => s.buf = []
  | _ => True

/-- A calm step. -/
def CalmStep (s : ClientConnection) (action : ClientAction) (s' : ClientConnection) : Prop :=
  Calm s action ∧ s.step handler action = some s'

/-! ### Requests -/

/-- **A request on a line**: a JSON value with an identifier. -/
structure ClientRequest where
  text : List Char
  value : SerdeValue
  id : String
  nonblank : rustTrim text ≠ []
  parses : handler.fromStr (rustTrim text) = .ok value
  identified : textField value "id" = some id
  oneLine : lineEnd ∉ encodeUtf8 text

variable {handler}

/-- The bytes of requests, each with an end of line. -/
def clientBytes (requests : List (ClientRequest handler)) : List ℕ :=
  requests.flatMap fun request => encodeUtf8 request.text ++ [lineEnd]

/-- The bytes that come in a run. -/
def arrivedBytes (actions : List ClientAction) : List ℕ :=
  actions.flatMap fun
    | .arrive bytes => bytes
    | _ => []

/-- The identifiers of the responses. -/
def answeredIds (written : List ClientLine) : List String :=
  written.filterMap fun
    | .response id _ => some id
    | .event _ => none

/-- **The invariant**: some requests are handled and answered, and the bytes of the others are read,
available or still to come. -/
structure Framed (requests : List (ClientRequest handler)) (arrived : List ℕ)
    (s : ClientConnection) : Prop where
  isOpen : s.ended = false
  reading : lineEnd ∉ s.buf
  framed : ∀ unsent, arrived ++ unsent = clientBytes requests →
    ∃ done rest, requests = done ++ rest ∧ s.handled = done.map (·.value) ∧
      answeredIds s.written = done.map (·.id) ∧
      s.buf ++ s.available ++ unsent = clientBytes rest

/-- A request is handled, and answered under its identifier. -/
theorem handleLine_request (s : ClientConnection) (request : ClientRequest handler) :
    ∃ response subscriptions, s.handleLine handler (encodeUtf8 request.text) =
      { s with
        handled := s.handled ++ [request.value]
        subscriptions := subscriptions
        written := s.written ++ [.response request.id response] } := by
  have htext : fromUtf8 (encodeUtf8 request.text) = some request.text := by
    rw [fromUtf8, decode_encode, if_pos rfl]
  have hid : requestId request.value = request.id := by
    rw [requestId, request.identified]
    rfl
  rw [ClientConnection.handleLine, htext, Option.map_some]
  split
  · contradiction
  · rename_i hblank
    exact absurd (Option.some.inj hblank) request.nonblank
  · rename_i trimmed hnonblank htrimmed
    rw [← Option.some.inj htrimmed, request.parses]
    dsimp only
    rw [ClientConnection.handleRequest, hid]
    dsimp only
    split
    · exact ⟨_, _, rfl⟩
    · split
      · split
        · exact ⟨_, _, rfl⟩
        · split
          · exact ⟨_, _, rfl⟩
          · exact ⟨_, _, rfl⟩
      · exact ⟨_, _, rfl⟩

theorem clientBytes_cons (request : ClientRequest handler)
    (requests : List (ClientRequest handler)) :
    clientBytes (request :: requests)
      = encodeUtf8 request.text ++ lineEnd :: clientBytes requests := by
  rw [clientBytes, List.flatMap_cons, List.append_assoc]
  rfl

variable {line arrived : List ℕ} {requests : List (ClientRequest handler)} {s s' : ClientConnection}

/-- A line without an end inside is what there is before the first end. -/
theorem takeWhile_line (hline : lineEnd ∉ line) (rest : List ℕ) :
    (line ++ lineEnd :: rest).takeWhile (· ≠ lineEnd) = line := by
  have hall : ∀ byte ∈ line, decide (byte ≠ lineEnd) = true := by
    intro byte hbyte
    rw [decide_eq_true_iff]
    rintro rfl
    exact hline hbyte
  rw [List.takeWhile_append_of_pos hall, List.takeWhile_cons_of_neg (by simp), List.append_nil]

theorem lineEnd_notMem_takeWhile (bytes : List ℕ) : lineEnd ∉ bytes.takeWhile (· ≠ lineEnd) := by
  intro hmem
  have hne := List.mem_takeWhile_imp hmem
  rw [decide_eq_true_iff] at hne
  exact hne rfl

/-- **A whole line** is the first request. -/
theorem first_request {rest : List ℕ} (hline : lineEnd ∉ line)
    (h : line ++ lineEnd :: rest = clientBytes requests) :
    ∃ request requests', requests = request :: requests' ∧ line = encodeUtf8 request.text ∧
      rest = clientBytes requests' := by
  cases requests with
  | nil => cases (List.append_eq_nil_iff.mp h).2
  | cons request requests =>
    rw [clientBytes_cons] at h
    have hsame := congrArg (List.takeWhile (· ≠ lineEnd)) h
    rw [takeWhile_line hline, takeWhile_line request.oneLine] at hsame
    rw [hsame] at h
    exact ⟨request, requests, rfl, hsame, (List.cons.inj (List.append_cancel_left h)).2⟩

theorem arrivedBytes_append (actions : List ClientAction) (action : ClientAction) :
    arrivedBytes (actions ++ [action])
      = arrivedBytes actions ++ arrivedBytes [action] := List.flatMap_append

theorem Framed.poll (h : Framed requests arrived s) (hbegins : arrived <+: clientBytes requests)
    (hstep : s.step handler .poll = some s') : Framed requests arrived s' := by
  rw [ClientConnection.step, if_neg (by rw [h.isOpen]; exact Bool.false_ne_true)] at hstep
  dsimp only at hstep
  have havailable := List.takeWhile_append_dropWhile (p := (· ≠ lineEnd)) (l := s.available)
  have hline : lineEnd ∉ s.buf ++ s.available.takeWhile (· ≠ lineEnd) := fun hmem =>
    (List.mem_append.mp hmem).elim h.reading (lineEnd_notMem_takeWhile s.available)
  cases hrest : s.available.dropWhile (· ≠ lineEnd) with
  | nil =>
    -- the line goes on in bytes that have not come yet
    rw [hrest] at hstep havailable
    rw [List.append_nil] at havailable
    obtain rfl := Option.some.inj hstep
    refine ⟨h.isOpen, hline, fun unsent hunsent => ?_⟩
    obtain ⟨done, rest, hrequests, hhandled, hanswered, hbytes⟩ := h.framed unsent hunsent
    refine ⟨done, rest, hrequests, hhandled, hanswered, ?_⟩
    rw [← hbytes, List.append_nil, havailable]
  | cons byte rest =>
    have hbyte : byte = lineEnd := by
      have hhead := List.head_dropWhile_not (p := (· ≠ lineEnd)) (l := s.available)
        (by rw [hrest]; exact List.cons_ne_nil _ _)
      simp only [hrest, List.head_cons] at hhead
      simpa using hhead
    rw [hrest, hbyte] at havailable
    rw [hrest] at hstep
    obtain rfl := Option.some.inj hstep
    obtain ⟨unsent, hunsent⟩ := hbegins
    obtain ⟨done, requests', hrequests, hhandled, hanswered, hbytes⟩ := h.framed unsent hunsent
    rw [← havailable, List.append_assoc, List.append_assoc, List.cons_append,
      ← List.append_assoc] at hbytes
    obtain ⟨request, others, rfl, hrequest, hothers⟩ := first_request hline hbytes
    obtain ⟨response, subscriptions, hhandle⟩ :=
      handleLine_request { s with available := rest, buf := [] } request
    rw [hrequest, hhandle]
    refine ⟨h.isOpen, fun hmem => (nomatch hmem), fun unsent' hunsent' => ?_⟩
    obtain rfl : unsent' = unsent := List.append_cancel_left (hunsent'.trans hunsent.symm)
    refine ⟨done ++ [request], others, ?_, ?_, ?_, hothers⟩
    · rw [hrequests, List.append_assoc]
      rfl
    · show s.handled ++ [request.value] = _
      rw [hhandled, List.map_append]
      rfl
    · show answeredIds (s.written ++ [.response request.id response]) = _
      rw [answeredIds, List.filterMap_append, List.map_append]
      exact congrArg (· ++ [request.id]) hanswered

theorem Framed.step {action : ClientAction} (h : Framed requests arrived s)
    (hbegins : arrived ++ arrivedBytes [action] <+: clientBytes requests)
    (hstep : CalmStep handler s action s') :
    Framed requests (arrived ++ arrivedBytes [action]) s' := by
  obtain ⟨hcalm, hstep⟩ := hstep
  cases action with
  | arrive bytes =>
    obtain rfl := Option.some.inj hstep
    refine ⟨h.isOpen, h.reading, fun unsent hunsent => ?_⟩
    rw [show arrivedBytes [.arrive bytes] = bytes from List.append_nil bytes,
      List.append_assoc] at hunsent
    obtain ⟨done, rest, hrequests, hhandled, hanswered, hbytes⟩ := h.framed _ hunsent
    refine ⟨done, rest, hrequests, hhandled, hanswered, ?_⟩
    rw [← hbytes, List.append_assoc, List.append_assoc, List.append_assoc]
  | poll =>
    rw [show arrivedBytes [.poll] = [] from rfl, List.append_nil] at hbegins ⊢
    exact h.poll hbegins hstep
  | event matching =>
    rw [show arrivedBytes [.event matching] = [] from rfl, List.append_nil]
    rw [ClientConnection.step] at hstep
    split at hstep
    · cases hstep
    · obtain rfl := Option.some.inj hstep
      refine ⟨h.isOpen, fun hmem => (nomatch hmem), fun unsent hunsent => ?_⟩
      obtain ⟨done, rest, hrequests, hhandled, hanswered, hbytes⟩ := h.framed unsent hunsent
      refine ⟨done, rest, hrequests, hhandled, ?_, ?_⟩
      · have hevents : answeredIds ((s.subscriptions.filter matching).map .event) = [] := by
          rw [answeredIds, List.filterMap_map, List.filterMap_eq_nil_iff]
          exact fun _ _ => rfl
        show answeredIds (s.written ++ _) = _
        rw [← hanswered, ← List.append_nil (answeredIds s.written), ← hevents]
        exact List.filterMap_append
      · -- nothing of the line was read
        rw [← hbytes, show s.buf = [] from hcalm]

/-- **The requests of a client**: in a run in which no event wins while a line is read, the values
handled and the identifiers answered are those of the first requests, in order, each once; and when
all bytes have come and are read, those of all requests. -/
theorem requests_handled {requests : List (ClientRequest handler)} {actions : List ClientAction}
    {s : ClientConnection} (hrun : Trace (CalmStep handler) .accepted actions s)
    (harrived : arrivedBytes actions <+: clientBytes requests) :
    (∃ done, done <+: requests ∧ s.handled = done.map (·.value) ∧
        answeredIds s.written = done.map (·.id)) ∧
      (arrivedBytes actions = clientBytes requests → s.available = [] →
        s.handled = requests.map (·.value) ∧ answeredIds s.written = requests.map (·.id)) := by
  have hframed : arrivedBytes actions <+: clientBytes requests →
      Framed requests (arrivedBytes actions) s := by
    refine Trace.invariant (fun actions s => arrivedBytes actions <+: clientBytes requests →
      Framed requests (arrivedBytes actions) s) (fun _ => ?_) (fun _ ih hstep hbegins => ?_) hrun
    · exact ⟨rfl, fun hmem => (nomatch hmem),
        fun _ hunsent => ⟨[], requests, rfl, rfl, rfl, hunsent⟩⟩
    · rw [arrivedBytes_append] at hbegins ⊢
      exact (ih ((List.prefix_append _ _).trans hbegins)).step hbegins hstep
  have h := hframed harrived
  obtain ⟨unsent, hunsent⟩ := harrived
  obtain ⟨done, rest, hrequests, hhandled, hanswered, hbytes⟩ := h.framed unsent hunsent
  refine ⟨⟨done, ⟨rest, hrequests.symm⟩, hhandled, hanswered⟩, fun hall hread => ?_⟩
  -- what is left has no end of line, and so is no request
  obtain rfl : rest = [] := by
    cases rest with
    | nil => rfl
    | cons request rest =>
      rw [hall, List.append_right_eq_self] at hunsent
      rw [hread, hunsent, List.append_nil, List.append_nil, clientBytes_cons] at hbytes
      refine absurd ?_ h.reading
      rw [hbytes]
      exact List.mem_append_right _ List.mem_cons_self
  rw [List.append_nil] at hrequests
  rw [hrequests]
  exact ⟨hhandled, hanswered⟩

/-! ### Two requests -/

def subscribeText : List Char := "\x7b\"id\":\"1\",\"command\":\"subscribe_inbox\"\x7d".toList

def subscribeValue : SerdeValue :=
  .object [("id", .string "1"), ("command", .string "subscribe_inbox")]

def statusText : List Char := "\x7b\"id\":\"2\"\x7d".toList

def statusValue : SerdeValue := .object [("id", .string "2")]

def sampleHandler : RequestHandler where
  fromStr text :=
    if text = subscribeText then .ok subscribeValue
    else if text = statusText then .ok statusValue
    else .error "trailing characters at line 1 column 4"
  newSubscription _ := "sub_1"
  handleCommand _ _ _ := .ok .null

def subscribeRequest : ClientRequest sampleHandler :=
  ⟨subscribeText, subscribeValue, "1", by decide, rfl, rfl, by decide⟩

def statusRequest : ClientRequest sampleHandler :=
  ⟨statusText, statusValue, "2", by decide, rfl, rfl, by decide⟩

/-- The connection behind the first of two requests. -/
def subscribed : ClientConnection where
  available := clientBytes [statusRequest]
  buf := []
  subscriptions := ["sub_1"]
  handled := [subscribeValue]
  written := [.response "1" (.ok (.object [("subscriptionId", .string "sub_1")]))]
  ended := false

/-- Both requests come at once, and an event wins between their lines. -/
theorem requests_handled_sample :
    ∃ s, Trace (CalmStep sampleHandler) .accepted
        [.arrive (clientBytes [subscribeRequest, statusRequest]), .poll, .event fun _ => true] s ∧
      ∃ done, done <+: [subscribeRequest, statusRequest] ∧ s.handled = done.map (·.value) ∧
        answeredIds s.written = done.map (·.id) := by
  have hread : Trace (CalmStep sampleHandler) .accepted
      ([] ++ [.arrive (clientBytes [subscribeRequest, statusRequest])] ++ [.poll]) subscribed :=
    (Trace.nil.snoc ⟨trivial, rfl⟩).snoc ⟨trivial, rfl⟩
  obtain ⟨s, hevent⟩ : ∃ s, CalmStep sampleHandler subscribed (.event fun _ => true) s :=
    ⟨_, rfl, rfl⟩
  have hrun := hread.snoc hevent
  exact ⟨s, hrun, (requests_handled hrun ⟨[], rfl⟩).1⟩

/-- **A request is cut**: an event wins when the first bytes of a line are read, and the rest is
taken for a request of its own. -/
theorem request_cut :
    let actions : List ClientAction :=
      [.arrive (encodeUtf8 subscribeText ++ [lineEnd]), .poll,
        .arrive ((encodeUtf8 statusText).take 6), .poll, .event fun _ => true,
        .arrive ((encodeUtf8 statusText).drop 6 ++ [lineEnd]), .poll]
    ∃ s, Trace (fun (s : ClientConnection) action s' => s.step sampleHandler action = some s')
        .accepted actions s ∧
      arrivedBytes actions = clientBytes [subscribeRequest, statusRequest] ∧ s.available = [] ∧
      s.handled = [subscribeValue] ∧ answeredIds s.written = ["1", "unknown"] := by
  intro actions
  have hrun : actions.foldlM (ClientConnection.step sampleHandler) .accepted
      = some ⟨[], [], ["sub_1"], [subscribeValue],
        [.response "1" (.ok (.object [("subscriptionId", .string "sub_1")])), .event "sub_1",
          .response "unknown"
            (.error "Invalid JSON: trailing characters at line 1 column 4")], false⟩ := rfl
  exact ⟨_, Trace.of_foldlM hrun, rfl, rfl, rfl, rfl⟩

end QuadraA.CliRs
