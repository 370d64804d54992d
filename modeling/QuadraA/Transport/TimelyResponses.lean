import QuadraA.Transport.SendAcceptance

/-!
# Responses behind handlers

`core/protocol/src/transport/relay-client.ts` on one connection, and the calls of
`core/runtime/src/daemon-server.ts` on it.  Frames are dispatched one after the other, and a DELIVER
is dispatched once its handler has ended; so a response waits for the handlers before it.  The
handler may wait for the session lock of its peer, and the task that holds that lock may be the one
that waits for the response.

* `receive`, `dispatchRelayMessage`, `drain` — what becomes of a frame;
* `timely_responses` — the calls complete with the response that reaches the socket in time, in the
  runs in which no handler stands before it; after any other arrival a timer may come first.
-/

set_option linter.unusedSectionVars false

namespace QuadraA.Transport

open QuadraA.Lib

/-- The requests of `awaitControlResponse`, with what their `matches` compares. -/
inductive ControlRequest where
  | discover
  | fetchCard (did : String)
  | queryTrust (target : String)
  | publishPreKeyBundles
  | fetchPreKeyBundle (did deviceId : String)
deriving DecidableEq

/-- A frame from the relay.  A DELIVER says whether its handler takes the session lock of its
sender; `send` is the SEND that a report is about, which the frame does not say. -/
inductive InboundFrame where
  | discovered
  | card (did : String)
  | trustResult (target : String)
  | preKeysPublished
  | preKeyBundle (did deviceId : String)
  | deliver (peerDid : String) (locks : Bool)
  | deliveryReport (send : ℕ) (status : DeliveryStatus)
  | welcome (duplicate : Bool)
  | other

/-- `matches` of the request. -/
def ControlRequest.matches : ControlRequest → InboundFrame → Bool
  | .discover, .discovered => true
  | .fetchCard didToFetch, .card did => did == didToFetch
  | .queryTrust target, .trustResult target' => target' == target
  | .publishPreKeyBundles, .preKeysPublished => true
  | .fetchPreKeyBundle didToFetch deviceId, .preKeyBundle did deviceId' =>
      did == didToFetch && deviceId' == deviceId
  | _, _ => false

/-- The reports that settle a call, whatever SEND they are about. -/
def InboundFrame.settles : InboundFrame → Bool
  | .deliveryReport _ status => status != .delivered
  | _ => false

/-- The reports that are an answer to this SEND. -/
def InboundFrame.reports (send : ℕ) : InboundFrame → Bool
  | .deliveryReport send' status => send' == send && status != .delivered
  | _ => false

/-- Who makes a call: a task of the daemon (a send, or any other operation), or the handler of the
DELIVER that is being dispatched. -/
inductive Caller where
  | task (n : ℕ)
  | handler
deriving DecidableEq

/-- `arrival` is the first matching frame that has reached the socket since the request. -/
structure PendingControlRequest where
  request : ControlRequest
  caller : Caller
  queuedMatch : Option ℕ
  allowOutOfBandResponse : Bool
  arrival : Option ℕ

/-- `arrival` is the first report of the SEND that has reached the socket. -/
structure PendingDeliveryAcceptance where
  send : ℕ
  caller : Caller
  arrival : Option ℕ

inductive AwaitedCall where
  | request (request : ControlRequest)
  | send (send : ℕ)
deriving DecidableEq

/-- How a call ends: with a frame, or without one. -/
inductive CallSettlement where
  | response (frame : ℕ)
  | timedOut
  | closed
  | stopped
deriving DecidableEq

structure CompletedCall where
  call : AwaitedCall
  arrival : Option ℕ
  settlement : CallSettlement

/-- The handler of a DELIVER; `entered`: it has the lock. -/
structure DeliveryHandler where
  peerDid : String
  locks : Bool
  entered : Bool

/-- **One connection, its calls, and the session locks.**  Frames are numbered in the order in which
they reach the socket, SENDs in the order in which they go out.  `handler` is the DELIVER that is
being dispatched, for which the rest of the chain waits. -/
structure DispatchState where
  connected : Bool
  pendingRequest : Option PendingControlRequest
  pendingDeliveryAcceptance : Option PendingDeliveryAcceptance
  inboundDispatchChain : List (ℕ × InboundFrame)
  handler : Option DeliveryHandler
  locks : String → Option Caller
  sends : ℕ
  frames : ℕ
  completed : List CompletedCall

namespace DispatchState

/-- `settlePendingDeliveryAcceptance`. -/
def settlePendingDeliveryAcceptance (s : DispatchState) (frame : ℕ) (status : DeliveryStatus) :
    DispatchState :=
  match s.pendingDeliveryAcceptance with
  | none => s
  | some pending =>
      if status = .delivered then s
      else
        { s with
          pendingDeliveryAcceptance := none
          completed :=
            s.completed ++ [⟨.send pending.send, pending.arrival, .response frame⟩] }

/-- `handleRelayMessage`.  A DELIVER starts its handler. -/
def handleRelayMessage (s : DispatchState) (frame : ℕ) : InboundFrame → DispatchState
  | .welcome duplicate => { s with connected := !duplicate }
  | .deliver peerDid locks => { s with handler := some ⟨peerDid, locks, false⟩ }
  | .deliveryReport _ status => s.settlePendingDeliveryAcceptance frame status
  | _ => s

/-- The request takes a frame as its response. -/
def resolveRequest (s : DispatchState) (pending : PendingControlRequest) (frame : ℕ) :
    DispatchState :=
  { s with
    pendingRequest := none
    completed := s.completed ++ [⟨.request pending.request, pending.arrival, .response frame⟩] }

def dispatchRelayMessage (s : DispatchState) (frame : ℕ) (msg : InboundFrame) : DispatchState :=
  match s.pendingRequest with
  | some pending =>
      if pending.request.matches msg then s.resolveRequest pending frame
      else s.handleRelayMessage frame msg
  | none => s.handleRelayMessage frame msg

/-- The chain goes on up to the next DELIVER; no timer and no other frame comes in between. -/
def drain : List (ℕ × InboundFrame) → DispatchState → DispatchState
  | [], s => { s with inboundDispatchChain := [] }
  | (frame, msg) :: rest, s =>
      let s := s.dispatchRelayMessage frame msg
      if s.handler.isSome then { s with inboundDispatchChain := rest } else drain rest s

/-- `queueInboundRelayMessage`. -/
def queueInboundRelayMessage (s : DispatchState) (frame : ℕ) (msg : InboundFrame) :
    DispatchState :=
  let chain := s.inboundDispatchChain ++ [(frame, msg)]
  if s.handler.isSome then { s with inboundDispatchChain := chain } else drain chain s

end DispatchState

/-- The frame reaches the socket while the request is pending. -/
def PendingControlRequest.noted (pending : PendingControlRequest) (frame : ℕ)
    (msg : InboundFrame) : PendingControlRequest :=
  if pending.request.matches msg then
    { pending with queuedMatch := some frame, arrival := pending.arrival.or (some frame) }
  else pending

def PendingDeliveryAcceptance.noted (pending : PendingDeliveryAcceptance) (frame : ℕ)
    (msg : InboundFrame) : PendingDeliveryAcceptance :=
  if msg.reports pending.send then { pending with arrival := pending.arrival.or (some frame) }
  else pending

/-- A call that has taken the report of another SEND may still see its own in time. -/
def CompletedCall.noted (call : CompletedCall) (frame : ℕ) (msg : InboundFrame) : CompletedCall :=
  match call.call, call.settlement with
  | .send send, .response _ =>
      if msg.reports send then { call with arrival := call.arrival.or (some frame) } else call
  | _, _ => call

namespace DispatchState

/-- A frame reaches the socket. -/
def noted (s : DispatchState) (msg : InboundFrame) : DispatchState :=
  { s with
    frames := s.frames + 1
    pendingRequest := s.pendingRequest.map fun pending => pending.noted s.frames msg
    pendingDeliveryAcceptance :=
      s.pendingDeliveryAcceptance.map fun pending => pending.noted s.frames msg
    completed := s.completed.map fun call => call.noted s.frames msg }

/-- The `message` handler of the socket. -/
def receive (s : DispatchState) (msg : InboundFrame) : DispatchState :=
  match (s.noted msg).pendingRequest with
  | some pending =>
      if pending.request.matches msg && pending.allowOutOfBandResponse then
        (s.noted msg).resolveRequest pending s.frames
      else (s.noted msg).queueInboundRelayMessage s.frames msg
  | none => (s.noted msg).queueInboundRelayMessage s.frames msg

/-- The caller waits for a response or for a report. -/
def Awaits (s : DispatchState) (caller : Caller) : Prop :=
  (∃ pending, s.pendingRequest = some pending ∧ pending.caller = caller) ∨
    ∃ pending, s.pendingDeliveryAcceptance = some pending ∧ pending.caller = caller

/-- A handler makes calls while it runs. -/
def Runs (s : DispatchState) : Caller → Prop
  | .task _ => True
  | .handler => s.handler.isSome = true

/-- The request ends without a response. -/
def dropRequest (s : DispatchState) (pending : PendingControlRequest)
    (settlement : CallSettlement) : DispatchState :=
  { s with
    pendingRequest := none
    completed := s.completed ++ [⟨.request pending.request, pending.arrival, settlement⟩] }

/-- `rejectPendingRequest`: a request whose match is queued is kept, unless `force` is set. -/
def rejectPendingRequest (s : DispatchState) (settlement : CallSettlement) (force : Bool) :
    DispatchState :=
  match s.pendingRequest with
  | none => s
  | some pending =>
      if !force && pending.queuedMatch.isSome then s else s.dropRequest pending settlement

/-- The awaited send ends without a report. -/
def dropAcceptance (s : DispatchState) (pending : PendingDeliveryAcceptance)
    (settlement : CallSettlement) : DispatchState :=
  { s with
    pendingDeliveryAcceptance := none
    completed := s.completed ++ [⟨.send pending.send, pending.arrival, settlement⟩] }

/-- `rejectPendingDeliveryAcceptance`. -/
def rejectPendingDeliveryAcceptance (s : DispatchState) (settlement : CallSettlement) :
    DispatchState :=
  match s.pendingDeliveryAcceptance with
  | none => s
  | some pending => s.dropAcceptance pending settlement

end DispatchState

inductive DispatchEvent where
  | locked (task : ℕ) (peerDid : String)
  | unlocked (task : ℕ) (peerDid : String)
  | requested (caller : Caller) (request : ControlRequest)
  | awaited (caller : Caller)
  | sent
  | received (msg : InboundFrame)
  | handlerLocked
  | handlerEnded
  | requestTimedOut
  | acceptanceTimedOut
  | closed
  | stopped

/-- **What the daemon, its client and the relay do.**  A task awaits one call at a time, and holds
the lock of its peer until the call ends; calls wait for one another in the order of any queue. -/
inductive DispatchStep (s : DispatchState) : DispatchEvent → DispatchState → Prop
  -- `withPeerSessionLock`
  | locked {task : ℕ} {peerDid : String} :
      s.locks peerDid = none →
      DispatchStep s (.locked task peerDid)
        { s with locks := Function.update s.locks peerDid (some (.task task)) }
  | unlocked {task : ℕ} {peerDid : String} :
      s.locks peerDid = some (.task task) → ¬ s.Awaits (.task task) →
      DispatchStep s (.unlocked task peerDid)
        { s with locks := Function.update s.locks peerDid none }
  -- `awaitControlResponse`
  | requested {caller : Caller} {request : ControlRequest} :
      s.connected = true → s.pendingRequest = none → s.Runs caller → ¬ s.Awaits caller →
      DispatchStep s (.requested caller request)
        { s with
          pendingRequest := some
            { request := request
              caller := caller
              queuedMatch := none
              allowOutOfBandResponse := s.handler.isSome
              arrival := none } }
  -- the operation of `awaitDeliveryAcceptance` starts
  | awaited {caller : Caller} :
      s.pendingDeliveryAcceptance = none → s.Runs caller → ¬ s.Awaits caller →
      DispatchStep s (.awaited caller)
        { s with
          pendingDeliveryAcceptance := some ⟨s.sends, caller, none⟩
          sends := s.sends + 1 }
  -- a SEND without a wait: `sendEnvelope`, or a connection that is degraded
  | sent : DispatchStep s .sent { s with sends := s.sends + 1 }
  | received {msg : InboundFrame} : DispatchStep s (.received msg) (s.receive msg)
  | handlerLocked {handler : DeliveryHandler} :
      s.handler = some handler → handler.locks = true → handler.entered = false →
      s.locks handler.peerDid = none →
      DispatchStep s .handlerLocked
        { s with
          handler := some { handler with entered := true }
          locks := Function.update s.locks handler.peerDid (some .handler) }
  | handlerEnded {handler : DeliveryHandler} :
      s.handler = some handler → handler.entered = handler.locks → ¬ s.Awaits .handler →
      DispatchStep s .handlerEnded
        (DispatchState.drain s.inboundDispatchChain
          { s with
            handler := none
            locks :=
              if handler.locks then Function.update s.locks handler.peerDid none else s.locks })
  | requestTimedOut {pending : PendingControlRequest} :
      s.pendingRequest = some pending →
      DispatchStep s .requestTimedOut (s.dropRequest pending .timedOut)
  | acceptanceTimedOut {pending : PendingDeliveryAcceptance} :
      s.pendingDeliveryAcceptance = some pending →
      DispatchStep s .acceptanceTimedOut (s.dropAcceptance pending .timedOut)
  -- the `close` handler of the socket; the frames that were received stay in the chain
  | closed :
      DispatchStep s .closed
        (({ s with connected := false }.rejectPendingRequest .closed false)
          |>.rejectPendingDeliveryAcceptance .closed)
  | stopped :
      DispatchStep s .stopped
        (({ s with connected := false }.rejectPendingRequest .stopped true)
          |>.rejectPendingDeliveryAcceptance .stopped)

/-- A connection on which nothing has been called and nothing has arrived. -/
structure DispatchState.Starting (s : DispatchState) : Prop where
  pendingRequest : s.pendingRequest = none
  pendingDeliveryAcceptance : s.pendingDeliveryAcceptance = none
  chain : s.inboundDispatchChain = []
  handler : s.handler = none
  completed : s.completed = []

/-- **Timely responses.**  A call whose response has reached the socket before it ended has ended
with that response. -/
def DispatchState.Timely (s : DispatchState) : Prop :=
  ∀ call ∈ s.completed, ∀ frame, call.arrival = some frame → call.settlement = .response frame

/-- No call waits for a response that has arrived. -/
def DispatchState.NothingQueued (s : DispatchState) : Prop :=
  (∀ pending, s.pendingRequest = some pending → pending.arrival = none) ∧
    ∀ pending, s.pendingDeliveryAcceptance = some pending → pending.arrival = none

/-- The condition of a step.  A response arrives while no handler is running, or the request was
made while one was; a report that settles a call arrives while no handler is running and is that of
its own SEND; and no such report stands in the chain when a send begins to wait. -/
def DispatchState.Unobstructed (s : DispatchState) : DispatchEvent → Prop
  | .received msg =>
      (∀ pending, s.pendingRequest = some pending → pending.request.matches msg = true →
        s.handler = none ∨ pending.allowOutOfBandResponse = true) ∧
      ∀ pending, s.pendingDeliveryAcceptance = some pending → msg.settles = true →
        s.handler = none ∧ msg.reports pending.send = true
  | .awaited _ => ∀ entry ∈ s.inboundDispatchChain, entry.2.settles = false
  | _ => True

def UnobstructedStep (s : DispatchState) (event : DispatchEvent) (s' : DispatchState) : Prop :=
  DispatchStep s event s' ∧ s.Unobstructed event

variable {s s' start : DispatchState} {event : DispatchEvent} {events : List DispatchEvent}
  {frame : ℕ} {msg : InboundFrame}

/-! ### Frames of the chain -/

/-- A call that has ended as it should: with the response that arrived, and, for a send, with no
other report. -/
structure CompletedCall.Fits (call : CompletedCall) : Prop where
  response : ∀ frame, call.arrival = some frame → call.settlement = .response frame
  report : ∀ send frame, call.call = .send send → call.settlement = .response frame →
    call.arrival = some frame

/-- A call that ends before its response arrives. -/
theorem CompletedCall.Fits.of_unanswered (call : AwaitedCall) {settlement : CallSettlement}
    (h : ∀ frame, settlement ≠ .response frame) : Fits ⟨call, none, settlement⟩ :=
  ⟨fun _ harrival => (by cases harrival), fun _ frame _ hsettled => absurd hsettled (h frame)⟩

/-- A call that ends with the response that has just arrived. -/
theorem CompletedCall.Fits.of_answered (call : AwaitedCall) (frame : ℕ) :
    Fits ⟨call, some frame, .response frame⟩ := by
  constructor
  · intro other harrival
    rw [Option.some.inj harrival]
  · intro _ other _ hsettled
    rw [CallSettlement.response.inj hsettled]

/-- A request that takes a frame which was queued before it was made. -/
theorem CompletedCall.Fits.of_queued (request : ControlRequest) (frame : ℕ) :
    Fits ⟨.request request, none, .response frame⟩ :=
  ⟨fun _ harrival => (by cases harrival), fun _ _ hcall => (by cases hcall)⟩

/-- The report of a send changes nothing once the call has ended as it should. -/
theorem CompletedCall.Fits.noted {call : CompletedCall} (h : call.Fits) (frame : ℕ)
    (msg : InboundFrame) : (call.noted frame msg).Fits := by
  obtain ⟨awaited, arrival, settlement⟩ := call
  cases awaited with
  | request request => exact h
  | send send =>
    cases settlement with
    | response taken =>
      obtain rfl : arrival = some taken := h.report send taken rfl rfl
      simp only [CompletedCall.noted, Option.some_or, ite_self]
      exact h
    | timedOut | closed | stopped => exact h

/-- No call waits for a response that has arrived, and none will take one of the frames in the chain
that is not its own. -/
structure Clear (s : DispatchState) (chain : List (ℕ × InboundFrame)) : Prop where
  request : ∀ pending, s.pendingRequest = some pending → pending.arrival = none
  acceptance : ∀ pending, s.pendingDeliveryAcceptance = some pending →
    pending.arrival = none ∧ ∀ entry ∈ chain, entry.2.settles = false
  completed : ∀ call ∈ s.completed, call.Fits

/-- **The invariant.**  The chain stands still only behind a handler. -/
structure Prompt (s : DispatchState) : Prop where
  idle : s.handler = none → s.inboundDispatchChain = []
  clear : Clear s s.inboundDispatchChain

theorem fits_append {completed : List CompletedCall} {last : CompletedCall}
    (h : ∀ call ∈ completed, call.Fits) (hlast : last.Fits) :
    ∀ call ∈ completed ++ [last], call.Fits := by
  intro call hcall
  rcases List.mem_append.mp hcall with hcall | hcall
  · exact h call hcall
  · rw [List.mem_singleton.mp hcall]
    exact hlast

theorem Prompt.of_starting (h : s.Starting) : Prompt s := by
  refine ⟨fun _ => h.chain, fun pending hpending => ?_, fun pending hpending => ?_,
    fun call hcall => ?_⟩
  · rw [h.pendingRequest] at hpending
    cases hpending
  · rw [h.pendingDeliveryAcceptance] at hpending
    cases hpending
  · rw [h.completed] at hcall
    cases hcall

theorem Prompt.timely (h : Prompt s) : s.Timely :=
  fun call hcall => (h.clear.completed call hcall).response

theorem Prompt.nothingQueued (h : Prompt s) : s.NothingQueued :=
  ⟨h.clear.request, fun pending hpending => (h.clear.acceptance pending hpending).1⟩

variable {status : DeliveryStatus} {rest chain : List (ℕ × InboundFrame)}
  {pending : PendingControlRequest}

/-- A frame that settles no call is handled without one. -/
theorem settlePendingDeliveryAcceptance_of_not_settles {send : ℕ}
    (h : (InboundFrame.deliveryReport send status).settles = false) :
    s.settlePendingDeliveryAcceptance frame status = s := by
  have hstatus : status = .delivered := by simpa [InboundFrame.settles] using h
  rw [DispatchState.settlePendingDeliveryAcceptance]
  split
  · rfl
  · rw [if_pos hstatus]

/-- The calls that pend when a frame is handled. -/
theorem Clear.handleRelayMessage (h : Clear s ((frame, msg) :: rest)) :
    Clear (s.handleRelayMessage frame msg) rest := by
  have hrest : Clear s rest :=
    ⟨h.request, fun pending hpending => ⟨(h.acceptance pending hpending).1, fun entry hentry =>
      (h.acceptance pending hpending).2 entry (List.mem_cons_of_mem _ hentry)⟩, h.completed⟩
  cases msg with
  | deliveryReport send status =>
    show Clear (s.settlePendingDeliveryAcceptance frame status) rest
    cases hpending : s.pendingDeliveryAcceptance with
    | none =>
      rw [DispatchState.settlePendingDeliveryAcceptance, hpending]
      exact hrest
    | some pending =>
      have hsettles := (h.acceptance pending hpending).2 _ (List.mem_cons_self ..)
      rw [settlePendingDeliveryAcceptance_of_not_settles hsettles]
      exact hrest
  | welcome | deliver => exact ⟨hrest.request, hrest.acceptance, hrest.completed⟩
  | discovered | card | trustResult | preKeysPublished | preKeyBundle | other => exact hrest

theorem Clear.dispatchRelayMessage (h : Clear s ((frame, msg) :: rest)) :
    Clear (s.dispatchRelayMessage frame msg) rest := by
  rw [DispatchState.dispatchRelayMessage]
  cases hpending : s.pendingRequest with
  | none => exact h.handleRelayMessage
  | some pending =>
    dsimp only
    split
    · refine ⟨fun _ hnone => (by cases hnone), fun acceptance hacceptance => ?_, ?_⟩
      · obtain ⟨harrival, hchain⟩ := h.acceptance acceptance hacceptance
        exact ⟨harrival, fun entry hentry => hchain entry (List.mem_cons_of_mem _ hentry)⟩
      · refine fits_append h.completed ?_
        rw [h.request pending hpending]
        exact CompletedCall.Fits.of_queued ..
    · exact h.handleRelayMessage

/-- **The chain goes on** and no call is disturbed. -/
theorem Clear.drain (h : Clear s chain) : Prompt (DispatchState.drain chain s) := by
  induction chain generalizing s with
  | nil =>
    rw [DispatchState.drain]
    exact ⟨fun _ => rfl, h.request, h.acceptance, h.completed⟩
  | cons entry rest ih =>
    obtain ⟨frame, msg⟩ := entry
    have hdispatched := h.dispatchRelayMessage
    rw [DispatchState.drain]
    split
    · rename_i hhandler
      refine ⟨fun hnone => ?_, hdispatched.request, hdispatched.acceptance, hdispatched.completed⟩
      rw [show (s.dispatchRelayMessage frame msg).handler = none from hnone] at hhandler
      cases hhandler
    · exact ih hdispatched

/-! ### Frames of the socket -/

theorem PendingControlRequest.noted_fields (pending : PendingControlRequest) (frame : ℕ)
    (msg : InboundFrame) :
    (pending.noted frame msg).request = pending.request ∧
      (pending.noted frame msg).caller = pending.caller ∧
      (pending.noted frame msg).allowOutOfBandResponse = pending.allowOutOfBandResponse := by
  rw [PendingControlRequest.noted]
  split <;> exact ⟨rfl, rfl, rfl⟩

theorem PendingControlRequest.noted_of_not_matches (h : pending.request.matches msg = false) :
    pending.noted frame msg = pending := by
  rw [PendingControlRequest.noted, if_neg (by rw [h]; exact Bool.false_ne_true)]

theorem PendingControlRequest.noted_of_matches (h : pending.request.matches msg = true)
    (harrival : pending.arrival = none) : (pending.noted frame msg).arrival = some frame := by
  rw [PendingControlRequest.noted, if_pos h, harrival]
  rfl

theorem PendingDeliveryAcceptance.noted_of_not_settles {pending : PendingDeliveryAcceptance}
    (h : msg.settles = false) : pending.noted frame msg = pending := by
  rw [PendingDeliveryAcceptance.noted]
  split
  · rename_i hreports
    cases msg with
    | deliveryReport send status =>
      have hstatus : (status != .delivered) = false := h
      rw [InboundFrame.reports, hstatus, Bool.and_false] at hreports
      cases hreports
    | _ => cases hreports
  · rfl

/-- A report is no response. -/
theorem unmatched_of_report (request : ControlRequest) (send : ℕ) (status : DeliveryStatus) :
    request.matches (.deliveryReport send status) = false := by
  cases request <;> rfl

/-- A response to a request is no report. -/
theorem not_settles_of_matches {request : ControlRequest} (h : request.matches msg = true) :
    msg.settles = false := by
  cases msg with
  | deliveryReport => cases request <;> cases h
  | _ => rfl

theorem noted_pendingRequest (h : s.pendingRequest = some pending) :
    (s.noted msg).pendingRequest = some (pending.noted s.frames msg) := by
  rw [DispatchState.noted, h]
  rfl

theorem noted_pendingDeliveryAcceptance {pending : PendingDeliveryAcceptance}
    (h : s.pendingDeliveryAcceptance = some pending) :
    (s.noted msg).pendingDeliveryAcceptance = some (pending.noted s.frames msg) := by
  rw [DispatchState.noted, h]
  rfl

theorem fits_noted (h : ∀ call ∈ s.completed, call.Fits) (msg : InboundFrame) :
    ∀ call ∈ (s.noted msg).completed, call.Fits := by
  intro call hcall
  obtain ⟨call', hcall', rfl⟩ := List.mem_map.mp hcall
  exact (h call' hcall').noted s.frames msg

/-- The request that pends when a frame arrives that is not its response. -/
theorem noted_request (h : Clear s chain)
    (hmatches : ∀ pending, s.pendingRequest = some pending → pending.request.matches msg = false)
    (hpending : (s.noted msg).pendingRequest = some pending) : pending.arrival = none := by
  cases hbefore : s.pendingRequest with
  | none =>
    rw [DispatchState.noted, hbefore] at hpending
    cases hpending
  | some before =>
    rw [noted_pendingRequest hbefore,
      PendingControlRequest.noted_of_not_matches (hmatches before hbefore)] at hpending
    obtain rfl := Option.some.inj hpending
    exact h.request before hbefore

/-- The acceptance that pends when a frame arrives that is no report. -/
theorem noted_acceptance (h : Clear s chain)
    (hsettles : ∀ pending, s.pendingDeliveryAcceptance = some pending → msg.settles = false)
    {pending : PendingDeliveryAcceptance}
    (hpending : (s.noted msg).pendingDeliveryAcceptance = some pending) :
    pending.arrival = none ∧
      (∀ entry ∈ chain, entry.2.settles = false) ∧ msg.settles = false := by
  cases hbefore : s.pendingDeliveryAcceptance with
  | none =>
    rw [DispatchState.noted, hbefore] at hpending
    cases hpending
  | some before =>
    have hnot := hsettles before hbefore
    rw [noted_pendingDeliveryAcceptance hbefore,
      PendingDeliveryAcceptance.noted_of_not_settles hnot] at hpending
    obtain rfl := Option.some.inj hpending
    obtain ⟨harrival, hchain⟩ := h.acceptance before hbefore
    exact ⟨harrival, hchain, hnot⟩

/-- A frame arrives for which no call waits. -/
theorem Clear.noted (h : Clear s chain)
    (hmatches : ∀ pending, s.pendingRequest = some pending → pending.request.matches msg = false)
    (hsettles : ∀ pending, s.pendingDeliveryAcceptance = some pending → msg.settles = false) :
    Clear (s.noted msg) (chain ++ [(s.frames, msg)]) := by
  refine ⟨fun pending hpending => noted_request h hmatches hpending, fun pending hpending => ?_,
    fits_noted h.completed msg⟩
  · obtain ⟨harrival, hchain, hnot⟩ := noted_acceptance h hsettles hpending
    refine ⟨harrival, fun entry hentry => ?_⟩
    rcases List.mem_append.mp hentry with hentry | hentry
    · exact hchain entry hentry
    · rw [List.mem_singleton.mp hentry]
      exact hnot

/-- The response of the request arrives, and the request takes it. -/
theorem Clear.resolveRequest (h : Clear s chain) (hpending : s.pendingRequest = some pending)
    (hmatches : pending.request.matches msg = true) :
    Clear ((s.noted msg).resolveRequest (pending.noted s.frames msg) s.frames) chain := by
  have hsettles := not_settles_of_matches hmatches
  refine ⟨fun _ hnone => (by cases hnone), fun acceptance hacceptance => ?_, ?_⟩
  · obtain ⟨harrival, hchain, _⟩ := noted_acceptance h (fun _ _ => hsettles) hacceptance
    exact ⟨harrival, hchain⟩
  · refine fits_append (fits_noted h.completed msg) ?_
    rw [PendingControlRequest.noted_of_matches hmatches (h.request pending hpending)]
    exact CompletedCall.Fits.of_answered ..

theorem dispatch_report {send : ℕ} :
    s.dispatchRelayMessage frame (.deliveryReport send status) =
      s.settlePendingDeliveryAcceptance frame status := by
  rw [DispatchState.dispatchRelayMessage]
  split
  · rw [if_neg (by rw [unmatched_of_report]; exact Bool.false_ne_true)]
    rfl
  · rfl

/-- The report of the awaited send arrives, and the send takes it. -/
theorem Clear.settle (h : Clear s []) {pending : PendingDeliveryAcceptance}
    (hpending : s.pendingDeliveryAcceptance = some pending)
    (hreports : msg.reports pending.send = true) :
    Clear ((s.noted msg).dispatchRelayMessage s.frames msg) [] := by
  cases msg with
  | deliveryReport send status =>
    have hstatus : ¬ status = .delivered := by
      intro hstatus
      rw [InboundFrame.reports, hstatus] at hreports
      simp at hreports
    have harrival : (pending.noted s.frames (.deliveryReport send status)).arrival =
        some s.frames := by
      rw [PendingDeliveryAcceptance.noted, if_pos hreports, (h.acceptance pending hpending).1]
      rfl
    have hsend : (pending.noted s.frames (.deliveryReport send status)).send = pending.send := by
      rw [PendingDeliveryAcceptance.noted, if_pos hreports]
    rw [dispatch_report, DispatchState.settlePendingDeliveryAcceptance,
      noted_pendingDeliveryAcceptance hpending]
    dsimp only
    rw [if_neg hstatus, harrival, hsend]
    refine ⟨fun request hrequest => ?_, fun _ hnone => (by cases hnone), ?_⟩
    · exact noted_request h (fun before _ => unmatched_of_report ..) hrequest
    · exact fits_append (fits_noted h.completed _) (CompletedCall.Fits.of_answered ..)
  | _ => cases hreports

/-- One frame of an idle chain. -/
theorem Prompt.of_dispatch (h : Clear (s.dispatchRelayMessage frame msg) []) :
    Prompt (DispatchState.drain [(frame, msg)] s) := by
  rw [DispatchState.drain]
  split
  · exact ⟨fun _ => rfl, h.request, h.acceptance, h.completed⟩
  · exact h.drain

/-- A frame that is no response goes into the chain. -/
theorem receive_of_unmatched (h : ∀ pending, s.pendingRequest = some pending →
    pending.request.matches msg = false) :
    s.receive msg = (s.noted msg).queueInboundRelayMessage s.frames msg := by
  rw [DispatchState.receive]
  cases hpending : s.pendingRequest with
  | none => rw [show (s.noted msg).pendingRequest = none by rw [DispatchState.noted, hpending]; rfl]
  | some pending =>
    rw [noted_pendingRequest hpending]
    dsimp only
    rw [(pending.noted_fields _ _).1, h pending hpending, Bool.false_and, if_neg Bool.false_ne_true]

/-- **A frame arrives** that meets the condition. -/
theorem Prompt.receive (h : Prompt s) (hcond : s.Unobstructed (.received msg)) :
    Prompt (s.receive msg) := by
  obtain ⟨hmatched, hsettled⟩ := hcond
  by_cases hresponse : ∃ pending, s.pendingRequest = some pending ∧
      pending.request.matches msg = true
  · -- the response of the request
    obtain ⟨pending, hpending, hmatches⟩ := hresponse
    obtain ⟨hrequest, _, hallow⟩ := pending.noted_fields s.frames msg
    have hresolved := h.clear.resolveRequest hpending hmatches
    rw [DispatchState.receive, noted_pendingRequest hpending]
    dsimp only
    rw [hrequest, hallow, hmatches, Bool.true_and]
    cases hout : pending.allowOutOfBandResponse with
    | true =>
      rw [if_pos rfl]
      exact ⟨h.idle, hresolved⟩
    | false =>
      have hhandler : s.handler = none := by
        rcases hmatched pending hpending hmatches with hhandler | hallowed
        · exact hhandler
        · rw [hout] at hallowed
          cases hallowed
      have hchain := h.idle hhandler
      rw [hchain] at hresolved
      rw [if_neg Bool.false_ne_true, DispatchState.queueInboundRelayMessage,
        if_neg (by rw [show (s.noted msg).handler = none from hhandler]; exact Bool.false_ne_true),
        show (s.noted msg).inboundDispatchChain = [] from hchain]
      refine Prompt.of_dispatch ?_
      rw [DispatchState.dispatchRelayMessage, noted_pendingRequest hpending]
      dsimp only
      rw [hrequest, if_pos hmatches]
      exact hresolved
  · have hunmatched : ∀ pending, s.pendingRequest = some pending →
        pending.request.matches msg = false := by
      intro pending hpending
      cases hmatches : pending.request.matches msg with
      | false => rfl
      | true => exact absurd ⟨pending, hpending, hmatches⟩ hresponse
    rw [receive_of_unmatched hunmatched, DispatchState.queueInboundRelayMessage]
    by_cases hreport : ∃ pending, s.pendingDeliveryAcceptance = some pending ∧
        msg.settles = true
    · -- the report of the send
      obtain ⟨pending, hpending, hsettles⟩ := hreport
      obtain ⟨hhandler, hreports⟩ := hsettled pending hpending hsettles
      have hchain := h.idle hhandler
      have hclear := h.clear
      rw [hchain] at hclear
      rw [if_neg (by rw [show (s.noted msg).handler = none from hhandler]; exact Bool.false_ne_true),
        show (s.noted msg).inboundDispatchChain = [] from hchain]
      exact Prompt.of_dispatch (hclear.settle hpending hreports)
    · have hclear := h.clear.noted hunmatched fun pending hpending => by
        cases hsettles : msg.settles with
        | false => rfl
        | true => exact absurd ⟨pending, hpending, hsettles⟩ hreport
      split
      · rename_i hhandler
        refine ⟨fun hnone => ?_, hclear.request, hclear.acceptance, hclear.completed⟩
        rw [show (s.noted msg).handler = none from hnone] at hhandler
        cases hhandler
      · exact hclear.drain

/-! ### Runs -/

theorem Prompt.dropRequest (h : Prompt s) (hpending : s.pendingRequest = some pending)
    {settlement : CallSettlement} (hsettlement : ∀ frame, settlement ≠ .response frame) :
    Prompt (s.dropRequest pending settlement) := by
  refine ⟨h.idle, fun _ hnone => (by cases hnone), h.clear.acceptance,
    fits_append h.clear.completed ?_⟩
  rw [h.clear.request pending hpending]
  exact CompletedCall.Fits.of_unanswered _ hsettlement

theorem Prompt.dropAcceptance (h : Prompt s) {pending : PendingDeliveryAcceptance}
    (hpending : s.pendingDeliveryAcceptance = some pending) {settlement : CallSettlement}
    (hsettlement : ∀ frame, settlement ≠ .response frame) :
    Prompt (s.dropAcceptance pending settlement) := by
  refine ⟨h.idle, h.clear.request, fun _ hnone => (by cases hnone),
    fits_append h.clear.completed ?_⟩
  rw [(h.clear.acceptance pending hpending).1]
  exact CompletedCall.Fits.of_unanswered _ hsettlement

/-- The calls are rejected when the socket closes or the client stops. -/
theorem Prompt.rejected (h : Prompt s) {settlement : CallSettlement} (force : Bool)
    (hsettlement : ∀ frame, settlement ≠ .response frame) :
    Prompt ((({ s with connected := false } : DispatchState).rejectPendingRequest settlement
      force).rejectPendingDeliveryAcceptance settlement) := by
  have hclosed : Prompt { s with connected := false } :=
    ⟨h.idle, h.clear.request, h.clear.acceptance, h.clear.completed⟩
  have hrequest : Prompt
      (({ s with connected := false } : DispatchState).rejectPendingRequest settlement
        force) := by
    rw [DispatchState.rejectPendingRequest]
    split
    · exact hclosed
    · rename_i pending hpending
      split
      · exact hclosed
      · exact hclosed.dropRequest hpending hsettlement
  rw [DispatchState.rejectPendingDeliveryAcceptance]
  split
  · exact hrequest
  · rename_i pending hpending
    exact hrequest.dropAcceptance hpending hsettlement

/-- **One step.** -/
theorem Prompt.step (h : Prompt s) (hstep : UnobstructedStep s event s') : Prompt s' := by
  obtain ⟨hstep, hcond⟩ := hstep
  have hclear := h.clear
  cases hstep with
  | locked | unlocked | sent =>
    exact ⟨h.idle, hclear.request, hclear.acceptance, hclear.completed⟩
  | requested =>
    refine ⟨h.idle, fun pending hpending => ?_, hclear.acceptance, hclear.completed⟩
    rw [← Option.some.inj hpending]
  | awaited =>
    refine ⟨h.idle, hclear.request, fun pending hpending => ?_, hclear.completed⟩
    rw [← Option.some.inj hpending]
    exact ⟨rfl, hcond⟩
  | received => exact h.receive hcond
  | handlerLocked =>
    exact ⟨fun hnone => (by cases hnone), hclear.request, hclear.acceptance, hclear.completed⟩
  | handlerEnded =>
    exact Clear.drain ⟨hclear.request, hclear.acceptance, hclear.completed⟩
  | requestTimedOut hpending => exact h.dropRequest hpending fun _ => CallSettlement.noConfusion
  | acceptanceTimedOut hpending =>
    exact h.dropAcceptance hpending fun _ => CallSettlement.noConfusion
  | closed => exact h.rejected false fun _ => CallSettlement.noConfusion
  | stopped => exact h.rejected true fun _ => CallSettlement.noConfusion

/-- **Every run.** -/
theorem prompt_of_run (hstart : start.Starting)
    (hrun : Trace UnobstructedStep start events s) : Prompt s :=
  hrun.invariant (fun _ s => Prompt s) (.of_starting hstart) fun _ hprompt hstep =>
    hprompt.step hstep

/-! ### Responses that come too late -/

/-- A request whose response waits in the chain may see its timer first. -/
theorem late_request (hpending : s.pendingRequest = some pending)
    (harrival : pending.arrival = some frame) :
    ∃ s', DispatchStep s .requestTimedOut s' ∧ ¬ s'.Timely := by
  refine ⟨_, .requestTimedOut hpending, fun htimely => ?_⟩
  have hresponse := htimely ⟨.request pending.request, pending.arrival, .timedOut⟩
    (List.mem_append_right _ (List.mem_singleton.mpr rfl)) frame harrival
  cases hresponse

/-- A report arrives behind a handler. -/
theorem receive_report_of_running {send : ℕ} (hhandler : s.handler.isSome = true) :
    s.receive (.deliveryReport send status) =
      { s.noted (.deliveryReport send status) with
        inboundDispatchChain :=
          s.inboundDispatchChain ++ [(s.frames, .deliveryReport send status)] } := by
  rw [receive_of_unmatched fun pending _ => unmatched_of_report ..,
    DispatchState.queueInboundRelayMessage]
  exact if_pos hhandler

theorem PendingDeliveryAcceptance.noted_report (pending : PendingDeliveryAcceptance) (frame : ℕ) :
    ∃ arrival, (pending.noted frame (.deliveryReport pending.send .accepted)).arrival =
      some arrival := by
  rw [PendingDeliveryAcceptance.noted, if_pos (by simp [InboundFrame.reports])]
  cases pending.arrival with
  | none => exact ⟨_, rfl⟩
  | some arrival => exact ⟨arrival, rfl⟩

/-- The report of a send arrives behind a handler, and the timer comes first. -/
theorem late_report {pending : PendingDeliveryAcceptance}
    (hpending : s.pendingDeliveryAcceptance = some pending) (hhandler : s.handler.isSome = true) :
    ∃ events s', Trace DispatchStep s events s' ∧ ¬ s'.Timely := by
  obtain ⟨arrival, harrival⟩ := pending.noted_report s.frames
  have hqueued : (s.receive (.deliveryReport pending.send .accepted)).pendingDeliveryAcceptance =
      some (pending.noted s.frames (.deliveryReport pending.send .accepted)) := by
    rw [receive_report_of_running hhandler]
    exact noted_pendingDeliveryAcceptance hpending
  refine ⟨_, _, (Trace.single .received).snoc (.acceptanceTimedOut hqueued), fun htimely => ?_⟩
  have hresponse := htimely _ (List.mem_append_right _ (List.mem_singleton.mpr rfl)) arrival
    harrival
  cases hresponse

/-- What has completed stays in the record. -/
theorem mem_completed_of_dispatch {call : CompletedCall} (h : call ∈ s.completed) :
    call ∈ (s.dispatchRelayMessage frame msg).completed := by
  have hhandled : call ∈ (s.handleRelayMessage frame msg).completed := by
    cases msg with
    | deliveryReport send status =>
      rw [DispatchState.handleRelayMessage, DispatchState.settlePendingDeliveryAcceptance]
      split
      · exact h
      · split
        · exact h
        · exact List.mem_append_left _ h
    | _ => exact h
  rw [DispatchState.dispatchRelayMessage]
  split
  · split
    · exact List.mem_append_left _ h
    · exact hhandled
  · exact hhandled

theorem mem_completed_of_drain {call : CompletedCall} (h : call ∈ s.completed) :
    call ∈ (DispatchState.drain chain s).completed := by
  induction chain generalizing s with
  | nil => exact h
  | cons entry rest ih =>
    rw [DispatchState.drain]
    split
    · exact mem_completed_of_dispatch h
    · exact ih (mem_completed_of_dispatch h)

/-- A send that has taken the report of another one still sees its own. -/
theorem late_own_report {send taken : ℕ} (htaken : taken ≠ s.frames)
    (h : ⟨.send send, none, .response taken⟩ ∈ s.completed) :
    ∃ s', DispatchStep s (.received (.deliveryReport send .accepted)) s' ∧ ¬ s'.Timely := by
  refine ⟨_, .received, fun htimely => ?_⟩
  have hnoted : (⟨.send send, some s.frames, .response taken⟩ : CompletedCall) ∈
      (s.noted (.deliveryReport send .accepted)).completed := by
    refine List.mem_map.mpr ⟨_, h, ?_⟩
    simp [CompletedCall.noted, InboundFrame.reports]
  have hmem : (⟨.send send, some s.frames, .response taken⟩ : CompletedCall) ∈
      (s.receive (.deliveryReport send .accepted)).completed := by
    rw [receive_of_unmatched fun pending _ => unmatched_of_report ..,
      DispatchState.queueInboundRelayMessage]
    split
    · exact hnoted
    · exact mem_completed_of_drain hnoted
  exact htaken (CallSettlement.response.inj (htimely _ hmem _ rfl))

theorem frames_of_dispatch : (s.dispatchRelayMessage frame msg).frames = s.frames := by
  have hhandled : (s.handleRelayMessage frame msg).frames = s.frames := by
    cases msg with
    | deliveryReport send status =>
      rw [DispatchState.handleRelayMessage, DispatchState.settlePendingDeliveryAcceptance]
      split
      · rfl
      · split <;> rfl
    | _ => rfl
  rw [DispatchState.dispatchRelayMessage]
  split
  · split
    · rfl
    · exact hhandled
  · exact hhandled

/-- A report reaches a send that waits while no handler is running. -/
theorem receive_report_of_idle {pending : PendingDeliveryAcceptance} (send : ℕ)
    (hpending : s.pendingDeliveryAcceptance = some pending) (hhandler : s.handler = none)
    (hchain : s.inboundDispatchChain = []) (hstatus : status ≠ .delivered) :
    (s.receive (.deliveryReport send status)).frames = s.frames + 1 ∧
      ⟨.send pending.send, (pending.noted s.frames (.deliveryReport send status)).arrival,
        .response s.frames⟩ ∈ (s.receive (.deliveryReport send status)).completed := by
  have hsend : (pending.noted s.frames (.deliveryReport send status)).send = pending.send := by
    rw [PendingDeliveryAcceptance.noted]
    split <;> rfl
  have hdispatched : (⟨.send pending.send,
      (pending.noted s.frames (.deliveryReport send status)).arrival, .response s.frames⟩ :
        CompletedCall) ∈
      ((s.noted (.deliveryReport send status)).dispatchRelayMessage s.frames
        (.deliveryReport send status)).completed := by
    rw [dispatch_report, DispatchState.settlePendingDeliveryAcceptance,
      noted_pendingDeliveryAcceptance hpending]
    dsimp only
    rw [if_neg hstatus, hsend]
    exact List.mem_append_right _ (List.mem_singleton.mpr rfl)
  have hreceive : s.receive (.deliveryReport send status) =
      DispatchState.drain [(s.frames, .deliveryReport send status)]
        (s.noted (.deliveryReport send status)) := by
    rw [receive_of_unmatched fun pending _ => unmatched_of_report ..,
      DispatchState.queueInboundRelayMessage,
      if_neg (by
        rw [show (s.noted (.deliveryReport send status)).handler = none from hhandler]
        exact Bool.false_ne_true),
      show (s.noted (.deliveryReport send status)).inboundDispatchChain = [] from hchain]
    rfl
  rw [hreceive, DispatchState.drain]
  split
  · exact ⟨frames_of_dispatch, hdispatched⟩
  · exact ⟨frames_of_dispatch, hdispatched⟩

/-- **Any other arrival opens a run** in which a response comes in time and its call ends without
it. -/
theorem late_of_obstructed (h : Prompt s) (hstep : DispatchStep s event s')
    (hcond : ¬ s.Unobstructed event) :
    ∃ events s'', Trace DispatchStep s' events s'' ∧ ¬ s''.Timely := by
  cases hstep with
  | awaited hnone =>
    -- a report of another SEND stands in the chain, so a handler is running
    have hchain : s.inboundDispatchChain ≠ [] := by
      intro hchain
      refine hcond fun entry hentry => ?_
      rw [hchain] at hentry
      cases hentry
    have hhandler : s.handler.isSome = true := by
      cases hhandler : s.handler with
      | none => exact absurd (h.idle hhandler) hchain
      | some handler => rfl
    exact late_report rfl hhandler
  | @received msg =>
    rcases not_and_or.mp hcond with hrequest | hreport
    · simp only [not_forall, not_or] at hrequest
      obtain ⟨pending, hpending, hmatches, hhandler, hallow⟩ := hrequest
      have hrunning : s.handler.isSome = true := Option.isSome_iff_ne_none.mpr hhandler
      obtain ⟨hsame, _, hallowed⟩ := pending.noted_fields s.frames msg
      have hkept : (s.receive msg).pendingRequest = some (pending.noted s.frames msg) := by
        rw [DispatchState.receive, noted_pendingRequest hpending]
        dsimp only
        rw [hsame, hallowed, Bool.eq_false_iff.mpr hallow, Bool.and_false,
          if_neg Bool.false_ne_true, DispatchState.queueInboundRelayMessage,
          if_pos (show (s.noted msg).handler.isSome = true from hrunning)]
        exact noted_pendingRequest hpending
      obtain ⟨s'', hstep, hlate⟩ := late_request hkept
        (PendingControlRequest.noted_of_matches hmatches (h.clear.request pending hpending))
      exact ⟨_, s'', Trace.single hstep, hlate⟩
    · simp only [not_forall] at hreport
      obtain ⟨pending, hpending, hsettles, hother⟩ := hreport
      cases msg with
      | deliveryReport send status =>
        cases hhandler : s.handler with
        | some handler =>
          have hrunning : s.handler.isSome = true := by rw [hhandler]; rfl
          rw [receive_report_of_running hrunning]
          exact late_report (noted_pendingDeliveryAcceptance hpending) hrunning
        | none =>
          have hforeign : ¬ InboundFrame.reports pending.send (.deliveryReport send status) = true :=
            fun hreports => hother ⟨hhandler, hreports⟩
          have hstatus : status ≠ .delivered := by simpa [InboundFrame.settles] using hsettles
          obtain ⟨hframes, hmem⟩ :=
            receive_report_of_idle send hpending hhandler (h.idle hhandler) hstatus
          rw [PendingDeliveryAcceptance.noted, if_neg hforeign,
            (h.clear.acceptance pending hpending).1] at hmem
          obtain ⟨s'', hstep, hlate⟩ := late_own_report (by rw [hframes]; omega) hmem
          exact ⟨_, s'', Trace.single hstep, hlate⟩
      | _ => cases hsettles
  | _ => exact absurd trivial hcond

/-! ### The calls and their responses -/

/-- **Responses that come in time.**  In a run in which no response stands behind a handler, and no
report settles the send of another, every call that ends after its response has arrived ends with
it, and no call waits for a response that has arrived.  Any step that breaks this opens a run in
which a response comes in time and its call ends without it. -/
theorem timely_responses (hstart : start.Starting)
    (hrun : Trace UnobstructedStep start events s) :
    (s.Timely ∧ s.NothingQueued) ∧
      ∀ event s', DispatchStep s event s' → ¬ s.Unobstructed event →
        ∃ events' s'', Trace DispatchStep s' events' s'' ∧ ¬ s''.Timely := by
  have hprompt := prompt_of_run hstart hrun
  exact ⟨⟨hprompt.timely, hprompt.nothingQueued⟩, fun _ _ hstep hcond =>
    late_of_obstructed hprompt hstep hcond⟩

/-- A connection that has been welcomed. -/
def welcomed : DispatchState where
  connected := true
  pendingRequest := none
  pendingDeliveryAcceptance := none
  inboundDispatchChain := []
  handler := none
  locks := fun _ => none
  sends := 0
  frames := 0
  completed := []

theorem welcomed_starting : welcomed.Starting := ⟨rfl, rfl, rfl, rfl, rfl⟩

theorem timely_responses_sample :
    ∃ s, Trace UnobstructedStep welcomed
        [.locked 0 "alice", .requested (.task 0) (.fetchCard "alice"),
          .received (.card "alice")] s ∧
      s.completed = [⟨.request (.fetchCard "alice"), some 0, .response 0⟩] ∧
      s.Timely := by
  have hrun : ∃ s, Trace UnobstructedStep welcomed
      [.locked 0 "alice", .requested (.task 0) (.fetchCard "alice"),
        .received (.card "alice")] s ∧
      s.completed = [⟨.request (.fetchCard "alice"), some 0, .response 0⟩] := by
    refine ⟨_, ((Trace.single ⟨.locked rfl, trivial⟩).snoc
      ⟨.requested rfl rfl trivial ?_, trivial⟩).snoc
      ⟨.received, fun _ _ _ => Or.inl rfl, fun _ hpending => (by cases hpending)⟩, rfl⟩
    rintro (⟨_, hpending, _⟩ | ⟨_, hpending, _⟩) <;> cases hpending
  obtain ⟨s, hrun, hcompleted⟩ := hrun
  exact ⟨s, hrun, hcompleted, (timely_responses welcomed_starting hrun).1.1⟩

/-- The send of a task holds the lock of its peer and waits for a card; the handler of a DELIVER of
the peer waits for the lock, and the card for the handler. -/
theorem response_behind_handler :
    ¬ ∀ start events s, start.Starting → Trace DispatchStep start events s → s.Timely := by
  intro hall
  have hrun : ∃ s, Trace DispatchStep welcomed
      [.locked 0 "alice", .requested (.task 0) (.fetchCard "alice"),
        .received (.deliver "alice" true), .received (.card "alice"), .requestTimedOut] s ∧
      s.completed = [⟨.request (.fetchCard "alice"), some 1, .timedOut⟩] := by
    refine ⟨_, ((((Trace.single (.locked rfl)).snoc (.requested rfl rfl trivial ?_)).snoc
      .received).snoc .received).snoc (.requestTimedOut rfl), rfl⟩
    rintro (⟨_, hpending, _⟩ | ⟨_, hpending, _⟩) <;> cases hpending
  obtain ⟨s, hrun, hcompleted⟩ := hrun
  have hlate := hall welcomed _ s welcomed_starting hrun _
    (by rw [hcompleted]; exact List.mem_singleton.mpr rfl) 1 rfl
  cases hlate

end QuadraA.Transport
