import Mathlib.Tactic.IntervalCases
import QuadraA.Lib.Trace

/-!
# Forwarded route requests

`handleRouteRequest` and `routeToFederation` of `relay/src/federation-manager.ts`: a relay that does
not have the target of a ROUTE_REQUEST sends it on to another relay, with one hop more.

* `route_request_bounded` — a request is forwarded at most `maxHops` times, in every federation,
  exactly when its counter gets to the limit so;
* `negative_hops` — a counter that starts below zero goes round once too often.
-/

namespace QuadraA.Relay

open QuadraA.Lib

/-! ### Hop counters -/

/-- **The values of a `hopCount`**, which comes as CBOR from the peer: `atLeast` is the comparison
`>=` with the limit, and `plusOne` the addition `+ 1`, which throws for some values. -/
structure HopValues (V : Type) where
  zero : V
  atLeast : V → ℕ → Bool
  plusOne : V → Option V

/-- The numbers of JavaScript. -/
def numbers : HopValues Float where
  zero := 0
  atLeast x maxHops := decide (Float.ofNat maxHops ≤ x)
  plusOne x := some (x + 1)

/-- `maxHops` of the default configuration. -/
def DEFAULT_MAX_HOPS : ℕ := 3

/-- A counter after some forwardings. -/
def HopValues.after {V : Type} (hops : HopValues V) (hopCount : V) : ℕ → Option V
  | 0 => some hopCount
  | n + 1 => (hops.after hopCount n).bind hops.plusOne

/-- A relay that gets a counter sends it on, when it has a peer for it. -/
def HopValues.Forwards {V : Type} (hops : HopValues V) (maxHops : ℕ) (hopCount : V) : Prop :=
  hops.atLeast hopCount maxHops = false ∧ hops.plusOne hopCount ≠ none

/-- **A counter comes to its limit** within `maxHops` additions, or to a value that nothing can be
added to. -/
def HopValues.Exhausts {V : Type} (hops : HopValues V) (maxHops : ℕ) (hopCount : V) : Prop :=
  ∃ n ≤ maxHops, ∀ value, hops.after hopCount n = some value → ¬hops.Forwards maxHops value

/-! ### Relays -/

structure RouteRequest (V : Type) where
  targetDid : String
  envelope : List UInt8
  fromRelay : String
  hopCount : V
  messageId : String

inductive RouteStatus where
  | delivered
  | not_found
  | hop_limit_exceeded
deriving DecidableEq

/-- A registered agent: whether `shouldExportAgent` holds of it, and whether `ws.send` returns. -/
structure LocalAgent where
  online : Bool
  exported : Bool
  sends : Bool

/-- An entry of `federatedRelays`: whether `isDataPlaneActive` holds of it, and whether its socket
is open. -/
structure PeerLink where
  relayDid : String
  active : Bool
  wsOpen : Bool

/-- What a relay has when it handles a request. -/
structure RelayView where
  did : String
  registry : String → Option LocalAgent
  federatedRelays : List PeerLink

inductive RouteEffect (V : Type) where
  | deliver (targetDid messageId sender : String)
  | respond (status : RouteStatus)
  | forward (relayDid : String) (request : RouteRequest V)

section

variable {V : Type}

/-- The loop over `federatedRelays`.  An addition that throws ends the handler. -/
def forwardRouteRequest (hops : HopValues V) (relay : RelayView) (fromRelayDid : String)
    (msg : RouteRequest V) : List (RouteEffect V) :=
  match relay.federatedRelays.find? fun link =>
    decide (link.relayDid ≠ fromRelayDid) && link.active && link.wsOpen with
  | none => [.respond .not_found]
  | some link =>
      match hops.plusOne msg.hopCount with
      | none => []
      | some hopCount =>
          [.forward link.relayDid { msg with hopCount := hopCount, fromRelay := relay.did }]

def handleRouteRequest (hops : HopValues V) (maxHops : ℕ) (relay : RelayView)
    (fromRelayDid : String) (msg : RouteRequest V) : List (RouteEffect V) :=
  if hops.atLeast msg.hopCount maxHops then [.respond .hop_limit_exceeded]
  else
    match relay.registry msg.targetDid with
    | none => forwardRouteRequest hops relay fromRelayDid msg
    | some targetAgent =>
        if targetAgent.online then
          if !targetAgent.exported then [.respond .not_found]
          else if targetAgent.sends then
            [.deliver msg.targetDid msg.messageId ("relay:" ++ fromRelayDid), .respond .delivered]
          else [.respond .not_found]
        else forwardRouteRequest hops relay fromRelayDid msg

/-- The request of a relay for a target that it does not have: to the relay of `knownRoute`, or to
the first one that is active. -/
def routeToFederation (hops : HopValues V) (relay : RelayView) (knownRoute : Option String)
    (targetDid : String) (envelope : List UInt8) (messageId : String) :
    Option (String × RouteRequest V) :=
  let routeRequest : RouteRequest V :=
    { targetDid := targetDid, envelope := envelope, fromRelay := relay.did, hopCount := hops.zero
      messageId := messageId }
  let connected (link : PeerLink) : Bool := link.active && link.wsOpen
  let preferred := relay.federatedRelays.find? fun link =>
    decide (knownRoute = some link.relayDid) && connected link
  match preferred with
  | some link => some (link.relayDid, routeRequest)
  | none => (relay.federatedRelays.find? connected).map fun link => (link.relayDid, routeRequest)

/-- **What a relay does with a request**: it answers, it delivers, or it sends it on once. -/
inductive Handled (hops : HopValues V) (maxHops : ℕ) (relay : RelayView) (msg : RouteRequest V) :
    List (RouteEffect V) → Prop
  | answered (status : RouteStatus) : Handled hops maxHops relay msg [.respond status]
  | thrown : Handled hops maxHops relay msg []
  | delivered (targetDid messageId sender : String) (status : RouteStatus) :
      Handled hops maxHops relay msg [.deliver targetDid messageId sender, .respond status]
  | forwarded (relayDid : String) {hopCount : V} :
      hops.atLeast msg.hopCount maxHops = false → hops.plusOne msg.hopCount = some hopCount →
      Handled hops maxHops relay msg
        [.forward relayDid { msg with hopCount := hopCount, fromRelay := relay.did }]

variable {msg : RouteRequest V}

theorem handled_forwardRouteRequest (relay : RelayView) (fromRelayDid : String)
    (hlimit : hops.atLeast msg.hopCount maxHops = false) :
    Handled hops maxHops relay msg (forwardRouteRequest hops relay fromRelayDid msg) := by
  rw [forwardRouteRequest]
  split
  · exact .answered _
  · split
    · exact .thrown
    · exact .forwarded _ hlimit ‹_›

theorem handled_handleRouteRequest (hops : HopValues V) (maxHops : ℕ) (relay : RelayView)
    (fromRelayDid : String) (msg : RouteRequest V) :
    Handled hops maxHops relay msg (handleRouteRequest hops maxHops relay fromRelayDid msg) := by
  rw [handleRouteRequest]
  by_cases hlimit : hops.atLeast msg.hopCount maxHops = true
  · rw [if_pos hlimit]
    exact .answered _
  rw [if_neg hlimit]
  have hforward := handled_forwardRouteRequest relay fromRelayDid (by simpa using hlimit)
  cases relay.registry msg.targetDid with
  | none => exact hforward
  | some targetAgent =>
    dsimp only
    by_cases honline : targetAgent.online = true
    · rw [if_pos honline]
      split
      · exact .answered _
      · split
        · exact .delivered _ _ _ _
        · exact .answered _
    · rw [if_neg honline]
      exact hforward

/-! ### A request on its way -/

/-- A copy of a request that one relay has sent to another. -/
structure Flight (V : Type) where
  toRelay : String
  fromRelay : String
  request : RouteRequest V

/-- The copies that are on their way, with the forwardings and the DELIVERs that there were. -/
structure RouteState (V : Type) where
  flights : List (Flight V)
  forwards : ℕ
  delivers : ℕ

/-- A peer sends a request. -/
def injected (flight : Flight V) : RouteState V := ⟨[flight], 0, 0⟩

def RouteState.perform (relay : RelayView) (s : RouteState V) : RouteEffect V → RouteState V
  | .deliver _ _ _ => { s with delivers := s.delivers + 1 }
  | .respond _ => s
  | .forward relayDid request =>
      { s with
        flights := s.flights ++ [⟨relayDid, relay.did, request⟩], forwards := s.forwards + 1 }

inductive RouteEvent where
  | handled (relay : RelayView)
  | lost

/-- **An honest relay handles a request**, or the request gets lost: with its link, or at a relay
that does not handle it. -/
inductive RouteStep (hops : HopValues V) (maxHops : ℕ) :
    RouteState V → RouteEvent → RouteState V → Prop
  | handled {s : RouteState V} {before after : List (Flight V)} {flight : Flight V}
      {relay : RelayView} :
      s.flights = before ++ flight :: after → relay.did = flight.toRelay →
      RouteStep hops maxHops s (.handled relay)
        ((handleRouteRequest hops maxHops relay flight.fromRelay flight.request).foldl
          (RouteState.perform relay) { s with flights := before ++ after })
  | lost {s : RouteState V} {before after : List (Flight V)} {flight : Flight V} :
      s.flights = before ++ flight :: after →
      RouteStep hops maxHops s .lost { s with flights := before ++ after }

variable {hops : HopValues V} {maxHops : ℕ} {hopCount : V} {s s' : RouteState V}
  {event : RouteEvent} {events : List RouteEvent}

/-- **One copy, which counts its forwardings.** -/
structure OneCopy (hops : HopValues V) (maxHops : ℕ) (hopCount : V) (s : RouteState V) : Prop where
  one : s.flights.length + s.delivers ≤ 1
  counts : ∀ flight ∈ s.flights, hops.after hopCount s.forwards = some flight.request.hopCount
  spent : ∀ n < s.forwards, ∃ value, hops.after hopCount n = some value ∧
    hops.Forwards maxHops value

theorem OneCopy.step (h : OneCopy hops maxHops hopCount s)
    (hstep : RouteStep hops maxHops s event s') : OneCopy hops maxHops hopCount s' := by
  cases hstep with
  | @lost before after flight hflights =>
    refine ⟨?_, fun flight' hmem => h.counts flight' ?_, h.spent⟩
    · have hone := h.one
      rw [hflights, List.length_append, List.length_cons] at hone
      show (before ++ after).length + s.delivers ≤ 1
      rw [List.length_append]
      omega
    · rw [hflights]
      rcases List.mem_append.mp hmem with hmem | hmem
      · exact List.mem_append_left _ hmem
      · exact List.mem_append_right _ (List.mem_cons_of_mem _ hmem)
  | @handled before after flight relay hflights hdid =>
    -- the request was the one copy
    have hone := h.one
    rw [hflights, List.length_append, List.length_cons] at hone
    obtain rfl : before = [] := List.eq_nil_of_length_eq_zero (by omega)
    obtain rfl : after = [] := List.eq_nil_of_length_eq_zero (by omega)
    have hdelivers : s.delivers = 0 := by omega
    have hcount := h.counts flight (by rw [hflights]; exact List.mem_cons_self)
    have hhandled :=
      handled_handleRouteRequest hops maxHops relay flight.fromRelay flight.request
    generalize handleRouteRequest hops maxHops relay flight.fromRelay flight.request = effects
      at hhandled
    cases hhandled with
    | answered status => exact ⟨by simp [RouteState.perform, hdelivers], nofun, h.spent⟩
    | thrown => exact ⟨by simp [hdelivers], nofun, h.spent⟩
    | delivered _ _ _ status => exact ⟨by simp [RouteState.perform, hdelivers], nofun, h.spent⟩
    | @forwarded relayDid hopCount' hlimit hplus =>
      refine ⟨by simp [RouteState.perform, hdelivers], fun flight' hmem => ?_, fun n hlt => ?_⟩
      · obtain rfl : flight' = _ := List.mem_singleton.mp hmem
        show (hops.after hopCount s.forwards).bind hops.plusOne = some hopCount'
        rw [hcount, Option.bind_some, hplus]
      · rcases Nat.lt_succ_iff_lt_or_eq.mp hlt with hbefore | rfl
        · exact h.spent n hbefore
        · exact ⟨_, hcount, hlimit, by rw [hplus]; nofun⟩

theorem OneCopy.run {flight : Flight V}
    (hrun : Trace (RouteStep hops maxHops) (injected flight) events s) :
    OneCopy hops maxHops flight.request.hopCount s := by
  induction hrun with
  | nil =>
    refine ⟨le_rfl, fun flight' hmem => ?_, fun n hlt => absurd hlt (Nat.not_lt_zero n)⟩
    rw [List.mem_singleton.mp hmem]
    rfl
  | snoc _ hlast ih => exact ih.step hlast

/-- **A counter that comes to its limit** bounds the forwardings. -/
theorem OneCopy.forwards_le (h : OneCopy hops maxHops hopCount s)
    (hexhausts : hops.Exhausts maxHops hopCount) : s.forwards ≤ maxHops := by
  obtain ⟨n, hle, hstops⟩ := hexhausts
  by_contra hgt
  obtain ⟨value, hafter, hforwards⟩ := h.spent n (by omega)
  exact hstops value hafter hforwards

/-! ### A ring of relays -/

/-- The relays of a ring of three. -/
def ringDid (n : ℕ) : String :=
  match n % 3 with
  | 0 => "did:agent:zRelayA"
  | 1 => "did:agent:zRelayB"
  | _ => "did:agent:zRelayC"

/-- A relay of the ring, which has no agents, with its two peers. -/
def ringRelay (n : ℕ) : RelayView where
  did := ringDid n
  registry _ := none
  federatedRelays := [⟨ringDid (n + 1), true, true⟩, ⟨ringDid (n + 2), true, true⟩]

theorem ringDid_ne (n : ℕ) : ringDid (n + 1) ≠ ringDid (n + 2) := by
  have hlt := Nat.mod_lt n (show 0 < 3 by omega)
  have hone : (n + 1) % 3 = (n % 3 + 1) % 3 := by omega
  have htwo : (n + 2) % 3 = (n % 3 + 2) % 3 := by omega
  rw [ringDid, ringDid, hone, htwo]
  generalize n % 3 = m at hlt
  interval_cases m <;> decide

/-- **A relay of the ring** sends a request on to the next one. -/
theorem handleRouteRequest_ring {n : ℕ} {hopCount' : V}
    (hlimit : hops.atLeast msg.hopCount maxHops = false)
    (hplus : hops.plusOne msg.hopCount = some hopCount') :
    handleRouteRequest hops maxHops (ringRelay n) (ringDid (n + 2)) msg =
      [.forward (ringDid (n + 1)) { msg with hopCount := hopCount', fromRelay := ringDid n }] := by
  rw [handleRouteRequest, if_neg (by rw [hlimit]; nofun)]
  show forwardRouteRequest hops (ringRelay n) (ringDid (n + 2)) msg = _
  rw [forwardRouteRequest]
  have hfind : (ringRelay n).federatedRelays.find? (fun link =>
      decide (link.relayDid ≠ ringDid (n + 2)) && link.active && link.wsOpen)
      = some ⟨ringDid (n + 1), true, true⟩ := by
    rw [ringRelay]
    dsimp only
    rw [List.find?_cons_of_pos]
    simp [ringDid_ne n]
  rw [hfind]
  dsimp only
  rw [hplus]
  rfl

/-- **Round the ring**: as long as the counter lets it, the request goes on. -/
theorem ring_run {flight : Flight V} (hto : flight.toRelay = ringDid 0)
    (hfrom : flight.fromRelay = ringDid 2) (n : ℕ)
    (hforwards : ∀ k < n, ∀ value, hops.after flight.request.hopCount k = some value →
      hops.Forwards maxHops value) :
    ∃ events s flight', Trace (RouteStep hops maxHops) (injected flight) events s ∧
      s.forwards = n ∧ s.flights = [flight'] ∧ flight'.toRelay = ringDid n ∧
      flight'.fromRelay = ringDid (n + 2) ∧
      hops.after flight.request.hopCount n = some flight'.request.hopCount := by
  induction n with
  | zero => exact ⟨[], injected flight, flight, .nil, rfl, rfl, hto, hfrom, rfl⟩
  | succ n ih =>
    obtain ⟨events, s, flight', hrun, hcount, hflights, hto', hfrom', hafter⟩ :=
      ih fun k hlt => hforwards k (Nat.lt_succ_of_lt hlt)
    obtain ⟨hlimit, hplus⟩ := hforwards n (Nat.lt_succ_self n) _ hafter
    obtain ⟨hopCount', hplus⟩ := Option.ne_none_iff_exists'.mp hplus
    have hstep := @RouteStep.handled _ hops maxHops s [] [] flight' (ringRelay n) hflights hto'.symm
    rw [hfrom', handleRouteRequest_ring hlimit hplus] at hstep
    refine ⟨_, _, _, hrun.snoc hstep, ?_, rfl, rfl, ?_, ?_⟩
    · show s.forwards + 1 = n + 1
      rw [hcount]
    · show ringDid n = ringDid (n + 1 + 2)
      rw [ringDid, ringDid, show n + 1 + 2 = n + 3 from rfl, Nat.add_mod_right]
    · show (hops.after flight.request.hopCount n).bind hops.plusOne = some hopCount'
      rw [hafter, Option.bind_some, hplus]

/-- **Route requests are bounded** exactly when their counter is: in every federation of relays, and
with any changes to it between two steps, a request is forwarded at most `maxHops` times and leads
to one DELIVER at most. -/
theorem route_request_bounded (hops : HopValues V) (maxHops : ℕ) (hopCount : V) :
    (∀ flight events s, flight.request.hopCount = hopCount →
      Trace (RouteStep hops maxHops) (injected flight) events s →
        s.forwards ≤ maxHops ∧ s.delivers ≤ 1) ↔
      hops.Exhausts maxHops hopCount := by
  refine ⟨fun hbounded => ?_, fun hexhausts flight events s hflight hrun => ?_⟩
  · by_contra hnot
    -- the ring forwards the request once too often
    have hforwards : ∀ k < maxHops + 1, ∀ value, hops.after hopCount k = some value →
        hops.Forwards maxHops value := by
      intro k hlt value hafter
      by_contra hstops
      exact hnot ⟨k, by omega, fun value' hafter' => by
        rw [hafter] at hafter'
        cases hafter'
        exact hstops⟩
    let flight : Flight V :=
      { toRelay := ringDid 0, fromRelay := ringDid 2
        request := ⟨"did:agent:zBob", [], ringDid 2, hopCount, "m1"⟩ }
    obtain ⟨events, s, _, hrun, hcount, _⟩ :=
      @ring_run V hops maxHops flight rfl rfl (maxHops + 1) hforwards
    have hle := (hbounded flight events s rfl hrun).1
    omega
  · obtain rfl := hflight
    have hone := OneCopy.run hrun
    exact ⟨hone.forwards_le hexhausts, by have := hone.one; omega⟩

end

/-- A request of a relay itself starts at zero, and comes to the limit. -/
example : numbers.Exhausts DEFAULT_MAX_HOPS numbers.zero :=
  ⟨3, le_rfl, fun value hafter hforwards => by
    cases hafter
    exact absurd hforwards.1 (by decide +kernel)⟩

/-- **A counter below zero.**  With `hopCount = -1` the request goes round the ring, and is
forwarded four times where three are allowed. -/
theorem negative_hops :
    ∃ flight : Flight Float, ∃ events s, flight.request.hopCount = -1 ∧
      Trace (RouteStep numbers DEFAULT_MAX_HOPS) (injected flight) events s ∧ s.forwards = 4 := by
  let flight : Flight Float :=
    { toRelay := ringDid 0, fromRelay := ringDid 2
      request := ⟨"did:agent:zBob", [], ringDid 2, -1, "m1"⟩ }
  have hforwards : ∀ k < 4, ∀ value, numbers.after (-1) k = some value →
      numbers.Forwards DEFAULT_MAX_HOPS value := by
    intro k hlt value hafter
    refine ⟨?_, nofun⟩
    interval_cases k
    · cases hafter
      decide +kernel
    · cases hafter
      decide +kernel
    · cases hafter
      decide +kernel
    · cases hafter
      decide +kernel
  obtain ⟨events, s, _, hrun, hcount, _⟩ := @ring_run _ _ _ flight rfl rfl 4 hforwards
  exact ⟨flight, events, s, rfl, hrun, hcount⟩

end QuadraA.Relay
