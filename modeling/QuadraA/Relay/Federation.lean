import QuadraA.Relay.Connections

/-!
# The federation manager

`FederationManager` of `relay/src/federation-manager.ts`: the other relays that a relay is connected
to, their admission, and the agents that they announce.

* `CardChecks` — the signature check of a card, and what a relay has to advertise;
* `FederationStep` — what happens between two `await`s.

Everything is kept by the DID of the relay.  Only the model notes of a timer and of an admission
which connection they were started for.  Endpoints, health statistics, pending peers and pre-key
fetches are no part of it: `connectToRelay` may be called at any time.  A socket that this relay
opens counts as open from the beginning, as nothing asks before its FEDERATION_WELCOME.
-/

set_option linter.unusedSectionVars false

namespace QuadraA.Relay

open QuadraA.Lib

/-! ### Cards -/

/-- **The checks of a card**: the DID in it, `verifyAgentCard` with the public key of a DID, and
whether it has the capabilities and an endpoint of a relay. -/
structure CardChecks (A : Type) where
  did : A → String
  verifies : String → A → Bool
  eligible : A → List String → Bool

/-- `validateRelayEligibility`, with the endpoints that were announced. -/
def validateRelayEligibility {A : Type} (checks : CardChecks A) (relayDid : String) (relayCard : A)
    (announcedEndpoints : List String) : Bool :=
  decide (checks.did relayCard = relayDid) && checks.eligible relayCard announcedEndpoints

/-! ### Handshakes from other relays -/

structure SlidingWindowCounter where
  count : ℕ
  windowStart : ℕ

structure FederationConfig where
  handshakeRateLimitWindowMs : ℕ
  handshakeRateLimitMaxAttempts : ℕ
  failedHandshakeWindowMs : ℕ
  failedHandshakeThreshold : ℕ
  failedHandshakeQuarantineMs : ℕ
  maxReconnectAttempts : ℕ

def DEFAULT_FEDERATION_CONFIG : FederationConfig where
  handshakeRateLimitWindowMs := 60000
  handshakeRateLimitMaxAttempts := 5
  failedHandshakeWindowMs := 300000
  failedHandshakeThreshold := 3
  failedHandshakeQuarantineMs := 300000
  maxReconnectAttempts := 5

abbrev CounterMap := String → Option SlidingWindowCounter

structure HandshakeGuard where
  attemptsByIp : CounterMap
  attemptsByDid : CounterMap
  failuresByIp : CounterMap
  failuresByDid : CounterMap
  quarantinedSourceIps : String → Option ℕ
  quarantinedRelayDids : String → Option ℕ

def emptyGuard : HandshakeGuard where
  attemptsByIp _ := none
  attemptsByDid _ := none
  failuresByIp _ := none
  failuresByDid _ := none
  quarantinedSourceIps _ := none
  quarantinedRelayDids _ := none

/-- Addresses and DIDs have no white space around them. -/
def normalizeSourceKey (value : Option String) : Option String :=
  match value with
  | none => none
  | some key => if key = "" ∨ key = "unknown" then none else some key

/-- An entry that has expired counts as none; the code deletes it. -/
def isQuarantined (quarantineMap : String → Option ℕ) (value : Option String) (now : ℕ) : Bool :=
  match (normalizeSourceKey value).bind quarantineMap with
  | none => false
  | some expiresAt => decide (now < expiresAt)

def incrementWindowCounter (counterMap : CounterMap) (value : Option String) (windowMs now : ℕ) :
    CounterMap × ℕ :=
  match normalizeSourceKey value with
  | none => (counterMap, 0)
  | some key =>
      match counterMap key with
      | none => (Function.update counterMap key (some ⟨1, now⟩), 1)
      | some current =>
          if windowMs ≤ now - current.windowStart then
            (Function.update counterMap key (some ⟨1, now⟩), 1)
          else
            (Function.update counterMap key (some { current with count := current.count + 1 }),
              current.count + 1)

def clearKey {β : Type} (map : String → Option β) (value : Option String) : String → Option β :=
  match normalizeSourceKey value with
  | none => map
  | some key => Function.update map key none

namespace HandshakeGuard

/-- `guardIncomingFederationHandshake`: whether the handshake may go on. -/
def guardIncoming (config : FederationConfig) (counters : HandshakeGuard)
    (remoteIp : Option String) (relayDid : String) (now : ℕ) : HandshakeGuard × Bool :=
  if isQuarantined counters.quarantinedSourceIps remoteIp now
      || isQuarantined counters.quarantinedRelayDids (some relayDid) now then (counters, false)
  else
    let byIp := incrementWindowCounter counters.attemptsByIp remoteIp
      config.handshakeRateLimitWindowMs now
    let byDid := incrementWindowCounter counters.attemptsByDid (some relayDid)
      config.handshakeRateLimitWindowMs now
    ({ counters with attemptsByIp := byIp.1, attemptsByDid := byDid.1 },
      decide (byIp.2 ≤ config.handshakeRateLimitMaxAttempts) &&
        decide (byDid.2 ≤ config.handshakeRateLimitMaxAttempts))

/-- The failures of one key, and its quarantine once they are too many. -/
def countFailure (config : FederationConfig) (failures : CounterMap)
    (quarantined : String → Option ℕ) (value : Option String) (now : ℕ) :
    CounterMap × (String → Option ℕ) :=
  let counted := incrementWindowCounter failures value config.failedHandshakeWindowMs now
  if config.failedHandshakeThreshold ≤ counted.2 then
    (clearKey counted.1 value,
      match normalizeSourceKey value with
      | none => quarantined
      | some key =>
          Function.update quarantined key (some (now + config.failedHandshakeQuarantineMs)))
  else (counted.1, quarantined)

def recordIncomingFederationFailure (config : FederationConfig) (counters : HandshakeGuard)
    (relayDid : String) (remoteIp : Option String) (now : ℕ) : HandshakeGuard :=
  let byIp := countFailure config counters.failuresByIp counters.quarantinedSourceIps remoteIp now
  let byDid := countFailure config counters.failuresByDid counters.quarantinedRelayDids
    (some relayDid) now
  { counters with
    failuresByIp := byIp.1, quarantinedSourceIps := byIp.2
    failuresByDid := byDid.1, quarantinedRelayDids := byDid.2 }

def recordSuccessfulIncomingFederationAdmission (counters : HandshakeGuard) (relayDid : String)
    (remoteIp : Option String) : HandshakeGuard :=
  { counters with
    failuresByIp := clearKey counters.failuresByIp remoteIp
    failuresByDid := clearKey counters.failuresByDid (some relayDid)
    quarantinedSourceIps := clearKey counters.quarantinedSourceIps remoteIp
    quarantinedRelayDids := clearKey counters.quarantinedRelayDids (some relayDid) }

end HandshakeGuard

/-! ### Relays, routes and sockets -/

inductive FederationAdmissionState where
  | connecting
  | authenticated
  | probation
  | admitted
deriving DecidableEq

structure FederatedRelay (W A : Type) where
  card : Option A
  ws : Option W
  inbound : Bool
  sourceIp : Option String
  connected : Bool
  admissionState : Option FederationAdmissionState
  admittedByPeer : Bool
  connecting : Bool
  reconnectAttempts : ℕ
  reconnectTimer : Bool
  probationTimer : Option ℕ

structure FederatedAgentRoute (A : Type) where
  relayDid : String
  realm : String
  card : A

/-- A socket of the federation: the DID that its handlers act on, the relay that `connectToRelay`
opened it for, and whether it has its message handler. -/
structure FederationSocket (A : Type) where
  relayDid : Option String
  inbound : Bool
  expected : Option (String × A)
  handled : Bool

/-- Where a call of `beginAdmission` stands: before its start, at a probe, past the answer to one,
or at the error that it is about to catch. -/
inductive AdmissionPhase (A : Type) where
  | scheduled
  | healthProbe
  | healthAnswered
  | cardProbe
  | cardAnswered (card : Option A)
  | failed

/-- A call of `beginAdmission`, with the connection that it was scheduled for. -/
structure Admission (W A : Type) where
  relayDid : String
  connection : W
  phase : AdmissionPhase A

inductive FederationMessage (A : Type) where
  | welcome (card : Option A)
  | admitted
  | agentJoined (agentDid : String) (card : A) (realm : String)
  | agentLeft (agentDid : String)
  | routeRequest
  | routeResponse
  | healthCheck
  | healthResponse
  | fetchCard
  | card (did : String) (card : Option A)
  | fetchPreKeyBundle
  | preKeyBundle
  | unknown

/-- `PROBATIONARY_MESSAGE_TYPES`. -/
def FederationMessage.allowedDuringProbation {A : Type} : FederationMessage A → Bool
  | .welcome _ | .admitted | .healthCheck | .healthResponse | .fetchCard | .card _ _ => true
  | _ => false

/-- **A relay in the federation.**  `registry` has the cards of its own agents; `timers` are the
probation timers that run. -/
structure FederationState (W A : Type) where
  readyState : W → ReadyState
  sockets : W → Option (FederationSocket A)
  registry : String → Option A
  federatedRelays : String → Option (FederatedRelay W A)
  remoteAgentRoutes : String → Option (FederatedAgentRoute A)
  admissions : ℕ → Option (Admission W A)
  admissionCount : ℕ
  pendingHealthChecks : String → Option ℕ
  pendingCardFetches : String → Option ℕ
  timers : ℕ → Option (String × W)
  timerCount : ℕ
  counters : HandshakeGuard

section

variable {W A : Type} [DecidableEq W]

namespace FederatedRelay

def isLocallyAdmitted (relay : FederatedRelay W A) : Bool :=
  relay.connected && match relay.admissionState with
    | none => true
    | some state => decide (state = .admitted)

def isDataPlaneActive (relay : FederatedRelay W A) : Bool :=
  relay.connected && match relay.admissionState with
    | none => true
    | some state => decide (state = .admitted) && relay.admittedByPeer

end FederatedRelay

namespace FederationState

def modifyRelay (s : FederationState W A) (relayDid : String)
    (f : FederatedRelay W A → FederatedRelay W A) : FederationState W A :=
  match s.federatedRelays relayDid with
  | none => s
  | some relay =>
      { s with federatedRelays := Function.update s.federatedRelays relayDid (some (f relay)) }

def isOpen (s : FederationState W A) (ws : Option W) : Bool :=
  match ws with
  | none => false
  | some ws => decide (s.readyState ws = .OPEN)

def closeSocket (s : FederationState W A) (ws : W) : FederationState W A :=
  if s.readyState ws = .OPEN then
    { s with readyState := Function.update s.readyState ws .CLOSING }
  else s

/-- The socket of an entry is closed, if it is open. -/
def closeRelaySocket (s : FederationState W A) (relayDid : String) : FederationState W A :=
  match (s.federatedRelays relayDid).bind fun relay => relay.ws with
  | none => s
  | some ws => s.closeSocket ws

/-! ### Admissions -/

def setPhase (s : FederationState W A) (task : ℕ) (phase : AdmissionPhase A) :
    FederationState W A :=
  match s.admissions task with
  | none => s
  | some admission =>
      { s with
        admissions := Function.update s.admissions task (some { admission with phase := phase }) }

def endAdmission (s : FederationState W A) (task : ℕ) : FederationState W A :=
  { s with admissions := Function.update s.admissions task none }

def scheduleAdmission (s : FederationState W A) (relayDid : String) (ws : W) :
    FederationState W A :=
  { s with
    admissions := Function.update s.admissions s.admissionCount
      (some ⟨relayDid, ws, .scheduled⟩)
    admissionCount := s.admissionCount + 1 }

def clearProbationTimer (s : FederationState W A) (relayDid : String) : FederationState W A :=
  match (s.federatedRelays relayDid).bind fun relay => relay.probationTimer with
  | none => s
  | some timer =>
      { s with timers := Function.update s.timers timer none }.modifyRelay relayDid fun relay =>
        { relay with probationTimer := none }

/-- A probe that is given up: with an error its call goes on, without one it waits for ever. -/
def dropProbe (s : FederationState W A) (task : Option ℕ) (rejected : Bool) :
    FederationState W A :=
  match task with
  | none => s
  | some task => if rejected then s.setPhase task .failed else s.endAdmission task

def clearPendingProbe (s : FederationState W A) (relayDid : String) (rejected : Bool) :
    FederationState W A :=
  let s := { s.dropProbe (s.pendingHealthChecks relayDid) rejected with
    pendingHealthChecks := Function.update s.pendingHealthChecks relayDid none }
  { s.dropProbe (s.pendingCardFetches relayDid) rejected with
    pendingCardFetches := Function.update s.pendingCardFetches relayDid none }

def removeRemoteAgentRoutesForRelay (s : FederationState W A) (relayDid : String) :
    FederationState W A :=
  { s with
    remoteAgentRoutes := fun agentDid =>
      (s.remoteAgentRoutes agentDid).filter fun route => decide (route.relayDid ≠ relayDid) }

def deleteRelay (s : FederationState W A) (relayDid : String) : FederationState W A :=
  { s with federatedRelays := Function.update s.federatedRelays relayDid none }

def recordFailure (config : FederationConfig) (s : FederationState W A) (relayDid : String)
    (now : ℕ) : FederationState W A :=
  match s.federatedRelays relayDid with
  | none => s
  | some relay =>
      if relay.inbound then
        { s with
          counters := s.counters.recordIncomingFederationFailure config relayDid relay.sourceIp
            now }
      else s

def markAdmissionFailure (config : FederationConfig) (s : FederationState W A)
    (relayDid : String) (now : ℕ) : FederationState W A :=
  match s.federatedRelays relayDid with
  | none => s
  | some _ =>
      let s := (s.recordFailure config relayDid now).modifyRelay relayDid fun relay =>
        { relay with connected := false, admissionState := some .probation }
      let s := ((s.clearProbationTimer relayDid).clearPendingProbe relayDid true)
      (s.removeRemoteAgentRoutesForRelay relayDid).closeRelaySocket relayDid

/-- A new probation timer, in the place of the one that runs. -/
def startProbation (s : FederationState W A) (relayDid : String) (connection : W) :
    FederationState W A :=
  let s := s.clearProbationTimer relayDid
  { s with
    timers := Function.update s.timers s.timerCount (some (relayDid, connection))
    timerCount := s.timerCount + 1 }.modifyRelay relayDid fun relay =>
      { relay with admissionState := some .probation, probationTimer := some s.timerCount }

/-- `runHealthProbe`, up to its `await`. -/
def runHealthProbe (s : FederationState W A) (task : ℕ) (relayDid : String) :
    FederationState W A :=
  let s := s.clearPendingProbe relayDid true
  { s with
    pendingHealthChecks := Function.update s.pendingHealthChecks relayDid (some task) }.setPhase
      task .healthProbe

/-- The part of `beginAdmission` before its first `await`. -/
def beginAdmission (s : FederationState W A) (task : ℕ) (admission : Admission W A) :
    FederationState W A :=
  if s.isOpen ((s.federatedRelays admission.relayDid).bind fun relay => relay.ws) then
    (s.startProbation admission.relayDid admission.connection).runHealthProbe task
      admission.relayDid
  else s.endAdmission task

/-- `runCardProbe`. -/
def runCardProbe (s : FederationState W A) (task : ℕ) (relayDid : String) : FederationState W A :=
  if s.isOpen ((s.federatedRelays relayDid).bind fun relay => relay.ws) then
    { s with
      pendingCardFetches := Function.update s.pendingCardFetches relayDid (some task) }.setPhase
        task .cardProbe
  else s.setPhase task .failed

/-- The end of `beginAdmission`: the card of the probe, and the admission. -/
def admitRelay (s : FederationState W A) (task : ℕ) (relayDid : String) (card : A) :
    FederationState W A :=
  let s := (s.modifyRelay relayDid fun relay =>
    { relay with card := some card, admissionState := some .admitted }).endAdmission task
  match s.federatedRelays relayDid with
  | none => s
  | some relay =>
      let s := if relay.inbound then
        { s with
          counters := s.counters.recordSuccessfulIncomingFederationAdmission relayDid
            relay.sourceIp }
        else s
      s.clearProbationTimer relayDid

/-! ### Connections -/

def handleIncomingDisconnect (s : FederationState W A) (relayDid : String) :
    FederationState W A :=
  match s.federatedRelays relayDid with
  | none => s
  | some _ =>
      let s := s.modifyRelay relayDid fun relay =>
        { relay with connected := false, connecting := false, ws := none, admittedByPeer := false }
      ((s.clearProbationTimer relayDid).clearPendingProbe relayDid
        false).removeRemoteAgentRoutesForRelay relayDid

def scheduleReconnection (config : FederationConfig) (s : FederationState W A)
    (relayDid : String) : FederationState W A :=
  match s.federatedRelays relayDid with
  | none => s
  | some relay =>
      if relay.reconnectTimer then s
      else if config.maxReconnectAttempts ≤ relay.reconnectAttempts then
        (s.deleteRelay relayDid).removeRemoteAgentRoutesForRelay relayDid
      else
        s.modifyRelay relayDid fun relay =>
          { relay with reconnectAttempts := relay.reconnectAttempts + 1, reconnectTimer := true }

def handleRelayDisconnection (config : FederationConfig) (s : FederationState W A)
    (relayDid : String) : FederationState W A :=
  match s.federatedRelays relayDid with
  | none => s
  | some _ =>
      let s := s.modifyRelay relayDid fun relay =>
        { relay with connected := false, connecting := false, ws := none, admittedByPeer := false }
      let s := ((s.clearProbationTimer relayDid).clearPendingProbe relayDid
        true).removeRemoteAgentRoutesForRelay relayDid
      s.scheduleReconnection config relayDid

/-- The socket that an entry has is closed, if another one takes its place. -/
def closeReplaced (s : FederationState W A) (relayDid : String) (ws : W) : FederationState W A :=
  match (s.federatedRelays relayDid).bind fun relay => relay.ws with
  | none => s
  | some old => if old ≠ ws then s.closeSocket old else s

def setRelay (s : FederationState W A) (relayDid : String) (relay : FederatedRelay W A) :
    FederationState W A :=
  { s with federatedRelays := Function.update s.federatedRelays relayDid (some relay) }

/-- The entry of a new connection; `source` is the address of an incoming one. -/
def connectedRelay (existing : Option (FederatedRelay W A)) (relayCard : A) (ws : W)
    (source : Option (Option String)) : FederatedRelay W A where
  card := some relayCard
  ws := some ws
  inbound := source.isSome || (existing.map fun relay => relay.inbound).getD false
  sourceIp := (source.bind id).or (existing.bind fun relay => relay.sourceIp)
  connected := true
  admissionState := some .authenticated
  admittedByPeer := (existing.map fun relay => relay.admittedByPeer).getD false
  connecting := false
  reconnectAttempts := 0
  reconnectTimer := false
  probationTimer := none

def registerFederatedRelay (s : FederationState W A) (relayDid : String) (relayCard : A) (ws : W)
    (source : Option (Option String)) : FederationState W A :=
  ((s.closeReplaced relayDid ws).clearProbationTimer relayDid).setRelay relayDid
    (connectedRelay (s.federatedRelays relayDid) relayCard ws source)

/-- The entry that `connectToRelay` sets before it opens a socket. -/
def connectingRelay (existing : Option (FederatedRelay W A)) (relayCard : A) :
    FederatedRelay W A where
  card := some relayCard
  ws := existing.bind fun relay => relay.ws
  inbound := false
  sourceIp := none
  connected := false
  admissionState := some .connecting
  admittedByPeer := false
  connecting := true
  reconnectAttempts := (existing.map fun relay => relay.reconnectAttempts).getD 0
  reconnectTimer := (existing.map fun relay => relay.reconnectTimer).getD false
  probationTimer := none

/-! ### Messages -/

def handleFederationWelcome (s : FederationState W A) (relayDid : String) (card : Option A) :
    FederationState W A :=
  s.modifyRelay relayDid fun relay =>
    { relay with
      connected := true
      admissionState :=
        if relay.admissionState = some .admitted then some .admitted else some .authenticated
      card := card <|> relay.card }

def upsertRemoteAgentRoute (s : FederationState W A) (relayDid agentDid : String) (card : A)
    (realm : String) : FederationState W A :=
  { s with
    remoteAgentRoutes := Function.update s.remoteAgentRoutes agentDid
      (some ⟨relayDid, realm, card⟩) }

def removeRemoteAgentRoute (s : FederationState W A) (agentDid relayDid : String) :
    FederationState W A :=
  if (s.remoteAgentRoutes agentDid).map (fun route => route.relayDid) = some relayDid then
    { s with remoteAgentRoutes := Function.update s.remoteAgentRoutes agentDid none }
  else s

def handleFederationCard (s : FederationState W A) (relayDid did : String) (card : Option A) :
    FederationState W A :=
  match s.pendingCardFetches relayDid with
  | none => s
  | some task =>
      if did = relayDid then
        { s with
          pendingCardFetches := Function.update s.pendingCardFetches relayDid none }.setPhase task
            (.cardAnswered card)
      else s

def handleFederationHealthResponse (s : FederationState W A) (relayDid : String) :
    FederationState W A :=
  match s.pendingHealthChecks relayDid with
  | none => s
  | some task =>
      { s with
        pendingHealthChecks := Function.update s.pendingHealthChecks relayDid none }.setPhase task
          .healthAnswered

/-- Whether a message gets past the gate of `handleFederationMessage`. -/
def accepts (s : FederationState W A) (relayDid : String) (msg : FederationMessage A) : Bool :=
  match s.federatedRelays relayDid with
  | none => false
  | some relay => relay.isDataPlaneActive || msg.allowedDuringProbation

/-- The handler of a message.  What it answers or hands on changes nothing here. -/
def handleMessage (s : FederationState W A) (relayDid : String) :
    FederationMessage A → FederationState W A
  | .welcome card => s.handleFederationWelcome relayDid card
  | .admitted => s.modifyRelay relayDid fun relay => { relay with admittedByPeer := true }
  | .agentJoined agentDid card realm => s.upsertRemoteAgentRoute relayDid agentDid card realm
  | .agentLeft agentDid => s.removeRemoteAgentRoute agentDid relayDid
  | .healthResponse => s.handleFederationHealthResponse relayDid
  | .card did card => s.handleFederationCard relayDid did card
  | _ => s

/-- The timers and probes that `stop` gives up.  The sockets that it closes are steps of their
own. -/
def stop (s : FederationState W A) : FederationState W A :=
  { s with
    federatedRelays := fun _ => none
    remoteAgentRoutes := fun _ => none
    timers := fun timer => (s.timers timer).filter fun entry =>
      decide ((s.federatedRelays entry.1).bind (fun relay => relay.probationTimer) ≠ some timer)
    admissions := fun task => (s.admissions task).map fun admission =>
      if s.pendingHealthChecks admission.relayDid = some task
          ∨ s.pendingCardFetches admission.relayDid = some task then
        { admission with phase := .failed }
      else admission
    pendingHealthChecks := fun _ => none
    pendingCardFetches := fun _ => none
    counters := emptyGuard }

end FederationState

inductive FederationEvent (W A : Type) where
  | registered (did : String) (card : A)
  | published (did : String) (card : Option A)
  | unregistered (did : String)
  | accepted (ws : W) (relayDid : String) (card : A) (endpoints : List String)
      (remoteIp : Option String) (now : ℕ)
  | handshakeRefused (relayDid : String) (remoteIp : Option String) (now : ℕ)
  | connecting (relayDid : String) (card : A) (ws : W)
  | seedConnecting (ws : W)
  | connectEnded (relayDid : String)
  | welcomed (ws : W) (relayDid : String) (card : Option A) (endpoints : List String)
  | welcomeRefused (ws : W) (relayDid : String) (card : Option A) (endpoints : List String)
  | admissionBegun (task : ℕ)
  | healthTimedOut (task : ℕ)
  | cardProbed (task : ℕ)
  | cardTimedOut (task : ℕ)
  | cardAccepted (task : ℕ) (card : A)
  | cardRefused (task : ℕ)
  | admissionFailed (task now : ℕ)
  | probationExpired (timer now : ℕ)
  | message (ws : W) (msg : FederationMessage A) (accepted : Bool)
  | closing (ws : W)
  | closed (ws : W)
  | stale (relayDid : String)
  | reconnectFired (relayDid : String)
  | reconnectScheduled (relayDid : String)
  | forgotten (relayDid : String)
  | routeDropped (agentDid : String)
  | stopped

/-- **What happens between two `await`s.**  `selfDid` is the DID of this relay. -/
inductive FederationStep (config : FederationConfig) (checks : CardChecks A) (selfDid : String)
    (s : FederationState W A) : FederationEvent W A → FederationState W A → Prop
  -- `handleHello`, `handlePublishCard`, and the entries that the registry drops
  | registered {did : String} {card : A} :
      checks.did card = did → checks.verifies did card = true →
      FederationStep config checks selfDid s (.registered did card)
        { s with registry := Function.update s.registry did (some card) }
  | published {did : String} {card : Option A} {old : A} :
      s.registry did = some old →
      FederationStep config checks selfDid s (.published did card)
        { s with registry := Function.update s.registry did (card <|> some old) }
  | unregistered {did : String} :
      FederationStep config checks selfDid s (.unregistered did)
        { s with registry := Function.update s.registry did none }
  -- `acceptIncomingRelay`, past its checks
  | accepted {ws : W} {relayDid : String} {card : A} {endpoints : List String}
      {remoteIp : Option String} {now : ℕ} :
      s.sockets ws = none →
      (s.counters.guardIncoming config remoteIp relayDid now).2 = true →
      checks.verifies relayDid card = true →
      validateRelayEligibility checks relayDid card endpoints = true →
      FederationStep config checks selfDid s (.accepted ws relayDid card endpoints remoteIp now)
        (({ s with
            counters := (s.counters.guardIncoming config remoteIp relayDid now).1
            sockets := Function.update s.sockets ws (some ⟨some relayDid, true, none, true⟩) }
          |>.registerFederatedRelay relayDid card ws (some remoteIp)).scheduleAdmission
            relayDid ws)
  | handshakeRefused {relayDid : String} {remoteIp : Option String} {now : ℕ} :
      FederationStep config checks selfDid s (.handshakeRefused relayDid remoteIp now)
        { s with
          counters := (s.counters.guardIncoming config remoteIp relayDid
            now).1.recordIncomingFederationFailure config relayDid remoteIp now }
  -- `connectToRelay` with a card of the registry or of the entry, and `connectToSeedRelay`
  | connecting {relayDid : String} {card : A} {ws : W} :
      s.registry relayDid = some card ∨
        (s.federatedRelays relayDid).bind (fun relay => relay.card) = some card →
      relayDid ≠ selfDid → validateRelayEligibility checks relayDid card [] = true →
      (∀ existing, s.federatedRelays relayDid = some existing → existing.connecting = false ∧
        (existing.isLocallyAdmitted && s.isOpen existing.ws) = false) →
      s.sockets ws = none →
      FederationStep config checks selfDid s (.connecting relayDid card ws)
        ({ s with
            sockets := Function.update s.sockets ws
              (some ⟨some relayDid, false, some (relayDid, card), false⟩) }
          |>.setRelay relayDid (FederationState.connectingRelay (s.federatedRelays relayDid) card))
  | seedConnecting {ws : W} :
      s.sockets ws = none →
      FederationStep config checks selfDid s (.seedConnecting ws)
        { s with sockets := Function.update s.sockets ws (some ⟨none, false, none, false⟩) }
  | connectEnded {relayDid : String} :
      FederationStep config checks selfDid s (.connectEnded relayDid)
        (s.modifyRelay relayDid fun relay => { relay with connecting := false })
  -- the FEDERATION_WELCOME that answers an own handshake
  | welcomed {ws : W} {socket : FederationSocket A} {relayDid : String} {card : Option A}
      {relayCard : A} {endpoints : List String} :
      s.sockets ws = some socket → socket.inbound = false → relayDid ≠ selfDid →
      (card <|> socket.expected.map Prod.snd) = some relayCard →
      (∀ expected, socket.expected = some expected → relayDid = expected.1) →
      checks.verifies relayDid relayCard = true →
      validateRelayEligibility checks relayDid relayCard endpoints = true →
      FederationStep config checks selfDid s (.welcomed ws relayDid card endpoints)
        ((({ s with
            sockets := Function.update s.sockets ws
              (some { socket with relayDid := some relayDid, handled := true }) }
          |>.registerFederatedRelay relayDid relayCard ws none).handleFederationWelcome relayDid
            card).scheduleAdmission relayDid ws)
  | welcomeRefused {ws : W} {socket : FederationSocket A} {relayDid : String} {card : Option A}
      {relayCard : A} {endpoints : List String} :
      s.sockets ws = some socket → socket.inbound = false → relayDid ≠ selfDid →
      (card <|> socket.expected.map Prod.snd) = some relayCard →
      (∀ expected, socket.expected = some expected → relayDid = expected.1) →
      (checks.verifies relayDid relayCard &&
        validateRelayEligibility checks relayDid relayCard endpoints) = false →
      FederationStep config checks selfDid s (.welcomeRefused ws relayDid card endpoints)
        ((s.deleteRelay relayDid).closeSocket ws)
  | admissionBegun {task : ℕ} {admission : Admission W A} :
      s.admissions task = some admission → admission.phase = .scheduled →
      FederationStep config checks selfDid s (.admissionBegun task)
        (s.beginAdmission task admission)
  -- the timeout of a probe takes what is pending under the DID
  | healthTimedOut {task : ℕ} {admission : Admission W A} :
      s.admissions task = some admission → admission.phase = .healthProbe →
      FederationStep config checks selfDid s (.healthTimedOut task)
        ({ s with
            pendingHealthChecks := Function.update s.pendingHealthChecks admission.relayDid
              none }.setPhase task .failed)
  | cardProbed {task : ℕ} {admission : Admission W A} :
      s.admissions task = some admission → admission.phase = .healthAnswered →
      FederationStep config checks selfDid s (.cardProbed task)
        (s.runCardProbe task admission.relayDid)
  | cardTimedOut {task : ℕ} {admission : Admission W A} :
      s.admissions task = some admission → admission.phase = .cardProbe →
      FederationStep config checks selfDid s (.cardTimedOut task)
        ({ s with
            pendingCardFetches := Function.update s.pendingCardFetches admission.relayDid
              none }.setPhase task .failed)
  | cardAccepted {task : ℕ} {admission : Admission W A} {card : A} :
      s.admissions task = some admission → admission.phase = .cardAnswered (some card) →
      checks.verifies admission.relayDid card = true →
      validateRelayEligibility checks admission.relayDid card [] = true →
      FederationStep config checks selfDid s (.cardAccepted task card)
        (s.admitRelay task admission.relayDid card)
  | cardRefused {task : ℕ} {admission : Admission W A} {card : Option A} :
      s.admissions task = some admission → admission.phase = .cardAnswered card →
      (∀ card', card = some card' → (checks.verifies admission.relayDid card' &&
        validateRelayEligibility checks admission.relayDid card' []) = false) →
      FederationStep config checks selfDid s (.cardRefused task) (s.setPhase task .failed)
  -- the `catch` of `beginAdmission`
  | admissionFailed {task now : ℕ} {admission : Admission W A} :
      s.admissions task = some admission → admission.phase = .failed →
      FederationStep config checks selfDid s (.admissionFailed task now)
        ((s.endAdmission task).markAdmissionFailure config admission.relayDid now)
  | probationExpired {timer now : ℕ} {relayDid : String} {connection : W} :
      s.timers timer = some (relayDid, connection) →
      FederationStep config checks selfDid s (.probationExpired timer now)
        ({ s with timers := Function.update s.timers timer none }.markAdmissionFailure config
          relayDid now)
  | message {ws : W} {socket : FederationSocket A} {relayDid : String}
      {msg : FederationMessage A} :
      s.sockets ws = some socket → socket.handled = true → socket.relayDid = some relayDid →
      FederationStep config checks selfDid s (.message ws msg (s.accepts relayDid msg))
        (if s.accepts relayDid msg then s.handleMessage relayDid msg else s)
  | closing {ws : W} :
      FederationStep config checks selfDid s (.closing ws) (s.closeSocket ws)
  | closed {ws : W} {next : FederationState W A} :
      s.readyState ws ≠ .CLOSED →
      next = { s with readyState := Function.update s.readyState ws .CLOSED } →
      FederationStep config checks selfDid s (.closed ws)
        (match s.sockets ws with
        | none => next
        | some socket =>
            match socket.relayDid with
            | none => next
            | some relayDid =>
                if socket.inbound then next.handleIncomingDisconnect relayDid
                else next.handleRelayDisconnection config relayDid)
  -- `performHealthChecks`
  | stale {relayDid : String} :
      FederationStep config checks selfDid s (.stale relayDid)
        ((s.closeRelaySocket relayDid).handleRelayDisconnection config relayDid)
  | reconnectFired {relayDid : String} :
      FederationStep config checks selfDid s (.reconnectFired relayDid)
        (s.modifyRelay relayDid fun relay => { relay with reconnectTimer := false })
  -- the rest of `attemptReconnection`, beside `connectToRelay`
  | reconnectScheduled {relayDid : String} :
      (∀ relay, s.federatedRelays relayDid = some relay → relay.connected = false) →
      FederationStep config checks selfDid s (.reconnectScheduled relayDid)
        (s.scheduleReconnection config relayDid)
  | forgotten {relayDid : String} {relay : FederatedRelay W A} :
      s.federatedRelays relayDid = some relay → relay.card = none → s.registry relayDid = none →
      FederationStep config checks selfDid s (.forgotten relayDid)
        ((s.deleteRelay relayDid).removeRemoteAgentRoutesForRelay relayDid)
  -- `routeToFederation` and `fetchRemotePreKeyBundle`, when the relay of a route is not connected
  | routeDropped {agentDid : String} :
      FederationStep config checks selfDid s (.routeDropped agentDid)
        { s with remoteAgentRoutes := Function.update s.remoteAgentRoutes agentDid none }
  | stopped : FederationStep config checks selfDid s .stopped s.stop

/-- A relay that is connected to no other. -/
structure FederationState.Starting (s : FederationState W A) : Prop where
  sockets : ∀ ws, s.sockets ws = none
  registry : ∀ did, s.registry did = none
  federatedRelays : ∀ relayDid, s.federatedRelays relayDid = none
  remoteAgentRoutes : ∀ agentDid, s.remoteAgentRoutes agentDid = none
  admissions : ∀ task, s.admissions task = none
  timers : ∀ timer, s.timers timer = none

/-! ### What the operations leave -/

variable {s s' s'' : FederationState W A}

/-- Neither a card nor an entry nor a route changes, and no timer and no admission starts. -/
structure SameEntries (s s' : FederationState W A) : Prop where
  registry : s'.registry = s.registry
  sockets : s'.sockets = s.sockets
  federatedRelays : s'.federatedRelays = s.federatedRelays
  remoteAgentRoutes : s'.remoteAgentRoutes = s.remoteAgentRoutes
  timers : s'.timers = s.timers
  timerCount : s'.timerCount = s.timerCount
  admissions : ∀ task admission', s'.admissions task = some admission' →
    ∃ admission, s.admissions task = some admission ∧
      admission.relayDid = admission'.relayDid ∧ admission.connection = admission'.connection

theorem SameEntries.of_eq (hregistry : s'.registry = s.registry) (hsockets : s'.sockets = s.sockets)
    (hrelays : s'.federatedRelays = s.federatedRelays)
    (hroutes : s'.remoteAgentRoutes = s.remoteAgentRoutes) (htimers : s'.timers = s.timers)
    (hcount : s'.timerCount = s.timerCount) (hadmissions : s'.admissions = s.admissions) :
    SameEntries s s' :=
  ⟨hregistry, hsockets, hrelays, hroutes, htimers, hcount, fun task admission hadmission =>
    ⟨admission, by rwa [hadmissions] at hadmission, rfl, rfl⟩⟩

theorem SameEntries.trans (h : SameEntries s s') (h' : SameEntries s' s'') :
    SameEntries s s'' := by
  refine ⟨h'.registry.trans h.registry, h'.sockets.trans h.sockets,
    h'.federatedRelays.trans h.federatedRelays, h'.remoteAgentRoutes.trans h.remoteAgentRoutes,
    h'.timers.trans h.timers, h'.timerCount.trans h.timerCount,
    fun task admission'' hadmission => ?_⟩
  obtain ⟨admission', hadmission', hdid', hconnection'⟩ := h'.admissions task admission'' hadmission
  obtain ⟨admission, hadmission, hdid, hconnection⟩ := h.admissions task admission' hadmission'
  exact ⟨admission, hadmission, hdid.trans hdid', hconnection.trans hconnection'⟩

theorem SameEntries.setPhase (s : FederationState W A) (task : ℕ) (phase : AdmissionPhase A) :
    SameEntries s (s.setPhase task phase) := by
  rw [FederationState.setPhase]
  cases htask : s.admissions task with
  | none => exact .of_eq rfl rfl rfl rfl rfl rfl rfl
  | some admission =>
    refine ⟨rfl, rfl, rfl, rfl, rfl, rfl, fun other admission' hadmission => ?_⟩
    dsimp only at hadmission
    rcases update_apply_eq_iff.mp hadmission with ⟨hother, hadmission⟩ | ⟨_, hadmission⟩
    · obtain rfl := Option.some.inj hadmission
      exact ⟨admission, hother ▸ htask, rfl, rfl⟩
    · exact ⟨admission', hadmission, rfl, rfl⟩

theorem SameEntries.endAdmission (s : FederationState W A) (task : ℕ) :
    SameEntries s (s.endAdmission task) := by
  refine ⟨rfl, rfl, rfl, rfl, rfl, rfl, fun other admission' hadmission => ?_⟩
  rcases update_apply_eq_iff.mp hadmission with ⟨_, hadmission⟩ | ⟨_, hadmission⟩
  · cases hadmission
  · exact ⟨admission', hadmission, rfl, rfl⟩

theorem SameEntries.closeSocket (s : FederationState W A) (ws : W) :
    SameEntries s (s.closeSocket ws) := by
  rw [FederationState.closeSocket]
  split <;> exact .of_eq rfl rfl rfl rfl rfl rfl rfl

theorem SameEntries.closeRelaySocket (s : FederationState W A) (relayDid : String) :
    SameEntries s (s.closeRelaySocket relayDid) := by
  rw [FederationState.closeRelaySocket]
  split
  · exact .of_eq rfl rfl rfl rfl rfl rfl rfl
  · exact .closeSocket _ _

theorem SameEntries.closeReplaced (s : FederationState W A) (relayDid : String) (ws : W) :
    SameEntries s (s.closeReplaced relayDid ws) := by
  rw [FederationState.closeReplaced]
  split
  · exact .of_eq rfl rfl rfl rfl rfl rfl rfl
  · split
    · exact .closeSocket _ _
    · exact .of_eq rfl rfl rfl rfl rfl rfl rfl

theorem SameEntries.dropProbe (s : FederationState W A) (task : Option ℕ) (rejected : Bool) :
    SameEntries s (s.dropProbe task rejected) := by
  cases task with
  | none => exact .of_eq rfl rfl rfl rfl rfl rfl rfl
  | some task =>
    cases rejected with
    | true => exact .setPhase s task .failed
    | false => exact .endAdmission s task

theorem SameEntries.clearPendingProbe (s : FederationState W A) (relayDid : String)
    (rejected : Bool) : SameEntries s (s.clearPendingProbe relayDid rejected) := by
  rw [FederationState.clearPendingProbe]
  have hhealth := SameEntries.dropProbe s (s.pendingHealthChecks relayDid) rejected
  generalize s.dropProbe (s.pendingHealthChecks relayDid) rejected = t at hhealth
  have hcleared : SameEntries s
      { t with pendingHealthChecks := Function.update s.pendingHealthChecks relayDid none } :=
    hhealth.trans (.of_eq rfl rfl rfl rfl rfl rfl rfl)
  exact (hcleared.trans (.dropProbe _ _ rejected)).trans
    (.of_eq rfl rfl rfl rfl rfl rfl rfl)

theorem SameEntries.recordFailure (config : FederationConfig) (s : FederationState W A)
    (relayDid : String) (now : ℕ) : SameEntries s (s.recordFailure config relayDid now) := by
  rw [FederationState.recordFailure]
  split
  · exact .of_eq rfl rfl rfl rfl rfl rfl rfl
  · split <;> exact .of_eq rfl rfl rfl rfl rfl rfl rfl

theorem SameEntries.handleFederationCard (s : FederationState W A) (relayDid did : String)
    (card : Option A) : SameEntries s (s.handleFederationCard relayDid did card) := by
  rw [FederationState.handleFederationCard]
  split
  · exact .of_eq rfl rfl rfl rfl rfl rfl rfl
  · split
    · refine SameEntries.trans ?_ (.setPhase _ _ _)
      exact .of_eq rfl rfl rfl rfl rfl rfl rfl
    · exact .of_eq rfl rfl rfl rfl rfl rfl rfl

theorem SameEntries.handleFederationHealthResponse (s : FederationState W A) (relayDid : String) :
    SameEntries s (s.handleFederationHealthResponse relayDid) := by
  rw [FederationState.handleFederationHealthResponse]
  split
  · exact .of_eq rfl rfl rfl rfl rfl rfl rfl
  · refine SameEntries.trans ?_ (.setPhase _ _ _)
    exact .of_eq rfl rfl rfl rfl rfl rfl rfl

theorem relay_registerFederatedRelay (s : FederationState W A) (relayDid : String) (card : A)
    (ws : W) (source : Option (Option String)) :
    (s.registerFederatedRelay relayDid card ws source).federatedRelays relayDid
      = some (FederationState.connectedRelay (s.federatedRelays relayDid) card ws source) :=
  Function.update_self ..

theorem SameEntries.runHealthProbe (s : FederationState W A) (task : ℕ) (relayDid : String) :
    SameEntries s (s.runHealthProbe task relayDid) := by
  refine SameEntries.trans ?_ (.setPhase _ task .healthProbe)
  refine (SameEntries.clearPendingProbe s relayDid true).trans ?_
  exact .of_eq rfl rfl rfl rfl rfl rfl rfl

theorem SameEntries.runCardProbe (s : FederationState W A) (task : ℕ) (relayDid : String) :
    SameEntries s (s.runCardProbe task relayDid) := by
  rw [FederationState.runCardProbe]
  split
  · refine SameEntries.trans ?_ (.setPhase _ _ _)
    exact .of_eq rfl rfl rfl rfl rfl rfl rfl
  · exact .setPhase _ _ _

end

/-! ### Cards and a relay for the runs -/

/-- Cards that are a DID and whether its key has signed them. -/
def sampleChecks : CardChecks (String × Bool) where
  did card := card.1
  verifies relayDid card := decide (card.1 = relayDid) && card.2
  eligible _ _ := true

def peerRelayDid : String := "did:agent:zRelayB"

def peerCard : String × Bool := (peerRelayDid, true)

/-- A relay that is connected to no other, and two sockets. -/
def aloneRelay : FederationState Bool (String × Bool) where
  readyState _ := .OPEN
  sockets _ := none
  registry _ := none
  federatedRelays _ := none
  remoteAgentRoutes _ := none
  admissions _ := none
  admissionCount := 0
  pendingHealthChecks _ := none
  pendingCardFetches _ := none
  timers _ := none
  timerCount := 0
  counters := emptyGuard

theorem aloneRelay_starting : aloneRelay.Starting :=
  ⟨fun _ => rfl, fun _ => rfl, fun _ => rfl, fun _ => rfl, fun _ => rfl, fun _ => rfl⟩

end QuadraA.Relay
