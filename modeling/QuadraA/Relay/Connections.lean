import QuadraA.Runtime.PeerOperations
import QuadraA.Lib.Updates

/-!
# Connections of the relay

`relay/src/relay-agent-connection.ts` with the registry, the heartbeat tracker and the
subscriptions: the sockets of the agents, what a HELLO registers, and what a close event takes back.

* `connection_follows_socket` — the online flag follows the latest socket, in every run in which no
  socket is closed under its own HELLO and no close event of a replaced socket finds a newer
  connection;
* `replaced_socket_close` — such a close event takes the newer connection offline.

A captured `RegisteredAgent` is a reference, since a registration puts a new object in place of the
old one.  Cards, capability indexes and tokens are no part of the model, and the relay's own entry,
whose socket is a stub, is none of the entries.
-/

set_option linter.unusedSectionVars false

namespace QuadraA.Relay

open QuadraA.Lib
open QuadraA.Runtime (WellFormedDid)

def HEARTBEAT_TIMEOUT_MS : ℕ := 90000
def GRACE_PERIOD_MS : ℕ := 3 * 60 * 1000
def MAX_SUBSCRIPTIONS_PER_DID : ℕ := 10

/-! ### Sockets, agents and connections -/

inductive ReadyState where
  | OPEN
  | CLOSING
  | CLOSED
deriving DecidableEq

structure RegisteredAgent (W : Type) where
  did : String
  ws : W
  realm : String
  online : Bool
  discoverable : Bool
  lastSeen : ℕ

structure Subscription (W : Type) where
  id : String
  ws : W
  realm : String

/-- Where `handleHello` stands: before the registration, or past it. -/
inductive HelloPhase where
  | verifying (did : String)
  | registered (did : String)
deriving DecidableEq

/-- The variables of `handleConnection`: the DID of an authenticated connection, and the HELLO that
is being processed. -/
structure Connection where
  did : Option String
  hello : Option HelloPhase

/-- **The connections of a relay.**  `agents` are the `RegisteredAgent` objects created so far, by
reference; `lastSocket` is the socket that was registered last for a DID. -/
structure ConnectionState (W : Type) where
  readyState : W → ReadyState
  connections : W → Connection
  agents : ℕ → RegisteredAgent W
  count : ℕ
  registry : String → Option ℕ
  lastPing : String → Option ℕ
  subscriptions : String → List (Subscription W)
  lastSocket : String → Option W

inductive ConnectionEvent (W : Type) where
  | helloReceived (ws : W) (did : String)
  | helloRejected (ws : W)
  | registered (ws : W) (realm : String) (now : ℕ)
  | helloEnded (ws : W)
  | helloFailed (ws : W)
  | peerClosed (ws : W)
  | dropped (ws : W)
  | closed (ws : W) (now : ℕ)
  | pinged (ws : W) (now : ℕ)
  | published (ws : W)
  | unpublished (ws : W)
  | subscribed (ws : W) (id : String)
  | unsubscribed (id : String)
  | timedOut (did : String) (now : ℕ)
  | cleaned (now : ℕ)
  | deliveryFailed (ref : ℕ)

section

variable {W : Type} [DecidableEq W]

namespace ConnectionState

def get (s : ConnectionState W) (did : String) : Option (RegisteredAgent W) :=
  (s.registry did).map s.agents

/-- `registry.get(did)?.online`. -/
def isOnline (s : ConnectionState W) (did : String) : Bool :=
  match s.get did with
  | some agent => agent.online
  | none => false

/-- `ws.close(…)`: the closing handshake begins. -/
def close (s : ConnectionState W) (ws : W) : ConnectionState W :=
  if s.readyState ws = .OPEN then
    { s with readyState := Function.update s.readyState ws .CLOSING }
  else s

def setConnection (s : ConnectionState W) (ws : W) (connection : Connection) :
    ConnectionState W :=
  { s with connections := Function.update s.connections ws connection }

/-- A change of the object that the registry has for a DID. -/
def modify (s : ConnectionState W) (did : String)
    (f : RegisteredAgent W → RegisteredAgent W) : ConnectionState W :=
  match s.registry did with
  | none => s
  | some ref => { s with agents := Function.update s.agents ref (f (s.agents ref)) }

/-! ### The registry -/

def register (s : ConnectionState W) (did : String) (ws : W) (realm : String) (now : ℕ) :
    ConnectionState W :=
  let s :=
    match s.get did with
    | some existing => if existing.ws ≠ ws then s.close existing.ws else s
    | none => s
  let agent : RegisteredAgent W :=
    { did := did, ws := ws, realm := realm, online := true, discoverable := false, lastSeen := now }
  { s with
    agents := Function.update s.agents s.count agent
    count := s.count + 1
    registry := Function.update s.registry did (some s.count)
    lastSocket := Function.update s.lastSocket did (some ws) }

def publish (s : ConnectionState W) (did : String) : ConnectionState W :=
  s.modify did fun agent => { agent with discoverable := true }

def unpublish (s : ConnectionState W) (did : String) : ConnectionState W :=
  s.modify did fun agent => { agent with discoverable := false }

def unregister (s : ConnectionState W) (did : String) : ConnectionState W :=
  { s with registry := Function.update s.registry did none }

def markOffline (s : ConnectionState W) (did : String) (now : ℕ) : ConnectionState W :=
  s.modify did fun agent => { agent with online := false, lastSeen := now }

def updateLastSeen (s : ConnectionState W) (did : String) (now : ℕ) : ConnectionState W :=
  s.modify did fun agent => { agent with lastSeen := now }

def cleanup (s : ConnectionState W) (now : ℕ) : ConnectionState W :=
  { s with
    registry := fun did =>
      match s.get did with
      | some agent =>
          if agent.online = false ∧ agent.lastSeen + GRACE_PERIOD_MS < now then none
          else s.registry did
      | none => none }

/-! ### Heartbeat and subscriptions -/

def recordPing (s : ConnectionState W) (did : String) (now : ℕ) : ConnectionState W :=
  { s with lastPing := Function.update s.lastPing did (some now) }.updateLastSeen did now

/-- `heartbeat.remove`. -/
def removePing (s : ConnectionState W) (did : String) : ConnectionState W :=
  { s with lastPing := Function.update s.lastPing did none }

def subscribe (s : ConnectionState W) (did : String) (ws : W) (id : String) : ConnectionState W :=
  if MAX_SUBSCRIPTIONS_PER_DID ≤ (s.subscriptions did).length then s
  else
    let realm := ((s.get did).map fun agent => agent.realm).getD "public"
    { s with
      subscriptions := Function.update s.subscriptions did
        (s.subscriptions did ++ [{ id := id, ws := ws, realm := realm }]) }

def unsubscribe (s : ConnectionState W) (id : String) : ConnectionState W :=
  { s with
    subscriptions := fun did => (s.subscriptions did).filter fun sub => sub.id ≠ id }

def unsubscribeAll (s : ConnectionState W) (did : String) : ConnectionState W :=
  { s with subscriptions := Function.update s.subscriptions did [] }

/-! ### Handlers -/

def handleTimeout (s : ConnectionState W) (did : String) : ConnectionState W :=
  match s.get did with
  | none => s
  | some agent => (s.close agent.ws).unregister did

def handleAgentDisconnect (s : ConnectionState W) (did : String) (now : ℕ) : ConnectionState W :=
  (((s.markOffline did now).unpublish did).removePing did).unsubscribeAll did

end ConnectionState

/-- **What happens between two `await`s.**  The messages of a socket are processed one after the
other, also those that were received before it closed; a HELLO registers no DID that `validateDID`
refuses. -/
inductive ConnectionStep (s : ConnectionState W) :
    ConnectionEvent W → ConnectionState W → Prop
  | helloReceived {ws : W} {did : String} :
      s.connections ws = ⟨none, none⟩ →
      ConnectionStep s (.helloReceived ws did)
        (s.setConnection ws ⟨none, some (.verifying did)⟩)
  | helloRejected {ws : W} {did : String} :
      s.connections ws = ⟨none, some (.verifying did)⟩ →
      ConnectionStep s (.helloRejected ws) ((s.setConnection ws ⟨none, none⟩).close ws)
  | registered {ws : W} {did realm : String} {now : ℕ} :
      s.connections ws = ⟨none, some (.verifying did)⟩ → WellFormedDid did →
      ConnectionStep s (.registered ws realm now)
        (((s.setConnection ws ⟨none, some (.registered did)⟩).register did ws realm now).recordPing
          did now)
  | helloEnded {ws : W} {did : String} :
      s.connections ws = ⟨none, some (.registered did)⟩ →
      ConnectionStep s (.helloEnded ws) (s.setConnection ws ⟨some did, none⟩)
  | helloFailed {ws : W} {did : String} :
      s.connections ws = ⟨none, some (.registered did)⟩ →
      ConnectionStep s (.helloFailed ws) ((s.setConnection ws ⟨none, none⟩).close ws)
  -- the closing frame of the peer, answered by the library
  | peerClosed {ws : W} : ConnectionStep s (.peerClosed ws) (s.close ws)
  -- an error, a GOODBYE, a message before the HELLO, or a token that is no longer valid
  | dropped {ws : W} : ConnectionStep s (.dropped ws) (s.close ws)
  | closed {ws : W} {now : ℕ} {next : ConnectionState W} :
      s.readyState ws ≠ .CLOSED →
      next = { s with readyState := Function.update s.readyState ws .CLOSED } →
      ConnectionStep s (.closed ws now)
        (match (s.connections ws).did with
        | some did => next.handleAgentDisconnect did now
        | none => next)
  | pinged {ws : W} {did : String} {now : ℕ} :
      (s.connections ws).did = some did →
      ConnectionStep s (.pinged ws now) (s.recordPing did now)
  | published {ws : W} {did : String} :
      (s.connections ws).did = some did →
      ConnectionStep s (.published ws) (s.publish did)
  | unpublished {ws : W} {did : String} :
      (s.connections ws).did = some did →
      ConnectionStep s (.unpublished ws) (s.unpublish did)
  | subscribed {ws : W} {did id : String} :
      (s.connections ws).did = some did →
      ConnectionStep s (.subscribed ws id) (s.subscribe did ws id)
  | unsubscribed {id : String} :
      ConnectionStep s (.unsubscribed id) (s.unsubscribe id)
  | timedOut {did : String} {ts now : ℕ} :
      s.lastPing did = some ts → HEARTBEAT_TIMEOUT_MS < now - ts →
      ConnectionStep s (.timedOut did now) ((s.removePing did).handleTimeout did)
  | cleaned {now : ℕ} : ConnectionStep s (.cleaned now) (s.cleanup now)
  -- `target.online = false` in `handleSend`
  | deliveryFailed {ref : ℕ} :
      s.readyState (s.agents ref).ws ≠ .OPEN →
      ConnectionStep s (.deliveryFailed ref)
        { s with
          agents := Function.update s.agents ref { s.agents ref with online := false } }

variable {s s' start : ConnectionState W} {event : ConnectionEvent W}
  {events : List (ConnectionEvent W)}

/-! ### What the connections are about -/

/-- What a newer connection has of its own: online flag, published state, heartbeat entry and
subscriptions. -/
def ConnectionState.presence (s : ConnectionState W) (did : String) :
    Bool × Bool × Option ℕ × List (Subscription W) :=
  (s.isOnline did, ((s.get did).map fun agent => agent.discoverable).getD false, s.lastPing did,
    s.subscriptions did)

/-- **No handler is pending**: no HELLO is being processed, and the close event of the latest socket
of the DID is not outstanding. -/
def ConnectionState.Quiet (s : ConnectionState W) (did : String) : Prop :=
  (∀ ws, (s.connections ws).hello = none) ∧
    ∀ ws, s.lastSocket did = some ws → s.readyState ws ≠ .CLOSING

/-- **The condition of a step.**  A HELLO does not register a closed socket, nor fail once it has
registered its socket; a close event comes after the HELLO of its socket, and that of a replaced
socket once the newer connection has nothing left. -/
def ConnectionState.Careful (s : ConnectionState W) : ConnectionEvent W → Prop
  | .registered ws _ _ => s.readyState ws ≠ .CLOSED
  | .helloFailed _ => False
  | .closed ws _ =>
      (∀ did, (s.connections ws).hello ≠ some (.registered did)) ∧
        ∀ did, (s.connections ws).did = some did → s.lastSocket did ≠ some ws →
          s.presence did = (false, false, none, [])
  | _ => True

def CarefulConnectionStep (s : ConnectionState W) (event : ConnectionEvent W)
    (s' : ConnectionState W) : Prop :=
  ConnectionStep s event s' ∧ s.Careful event

/-! ### The invariant -/

/-- **An agent is online as its socket is.**  Every entry of the registry is about the latest
socket of its DID, which knows the DID or is about to. -/
structure Settled (s : ConnectionState W) : Prop where
  entry : ∀ did ref, s.registry did = some ref →
    ref < s.count ∧ (s.agents ref).did = did ∧ s.lastSocket did = some (s.agents ref).ws
  owner : ∀ did ref, s.registry did = some ref →
    s.connections (s.agents ref).ws = ⟨some did, none⟩ ∨
      s.connections (s.agents ref).ws = ⟨none, some (.registered did)⟩
  live : ∀ did ref, s.registry did = some ref →
    ((s.agents ref).online = true → s.readyState (s.agents ref).ws ≠ .CLOSED) ∧
      ((s.agents ref).online = false → s.readyState (s.agents ref).ws ≠ .OPEN)
  absent : ∀ did ws, s.registry did = none → s.lastSocket did = some ws →
    s.readyState ws ≠ .OPEN

/-- Nothing changes that the invariant is about, but for sockets that begin to close. -/
structure SameRegistration (s s' : ConnectionState W) : Prop where
  connections : s'.connections = s.connections
  count : s'.count = s.count
  registry : s'.registry = s.registry
  lastSocket : s'.lastSocket = s.lastSocket
  agents : ∀ ref, (s'.agents ref).did = (s.agents ref).did ∧
    (s'.agents ref).ws = (s.agents ref).ws ∧ (s'.agents ref).online = (s.agents ref).online
  opened : ∀ ws, s'.readyState ws = .OPEN → s.readyState ws = .OPEN
  closed : ∀ ws, s'.readyState ws = .CLOSED → s.readyState ws = .CLOSED

theorem SameRegistration.trans {s'' : ConnectionState W} (h : SameRegistration s s')
    (h' : SameRegistration s' s'') : SameRegistration s s'' where
  connections := h'.connections.trans h.connections
  count := h'.count.trans h.count
  registry := h'.registry.trans h.registry
  lastSocket := h'.lastSocket.trans h.lastSocket
  agents ref := ⟨(h'.agents ref).1.trans (h.agents ref).1,
    (h'.agents ref).2.1.trans (h.agents ref).2.1, (h'.agents ref).2.2.trans (h.agents ref).2.2⟩
  opened ws hopen := h.opened ws (h'.opened ws hopen)
  closed ws hclosed := h.closed ws (h'.closed ws hclosed)

/-- The registrations do not depend on heartbeats and subscriptions. -/
theorem SameRegistration.of_eq (hreadyState : s'.readyState = s.readyState)
    (hconnections : s'.connections = s.connections) (hagents : s'.agents = s.agents)
    (hcount : s'.count = s.count) (hregistry : s'.registry = s.registry)
    (hlastSocket : s'.lastSocket = s.lastSocket) : SameRegistration s s' := by
  refine ⟨hconnections, hcount, hregistry, hlastSocket, fun ref => ?_, fun ws hopen => ?_,
    fun ws hclosed => ?_⟩
  · rw [hagents]
    exact ⟨rfl, rfl, rfl⟩
  · rw [← hreadyState, hopen]
  · rw [← hreadyState, hclosed]

theorem readyState_close (s : ConnectionState W) (ws ws' : W) :
    (s.close ws).readyState ws'
      = if ws' = ws ∧ s.readyState ws = .OPEN then .CLOSING else s.readyState ws' := by
  rw [ConnectionState.close]
  by_cases hopen : s.readyState ws = .OPEN
  · rw [if_pos hopen]
    by_cases hws : ws' = ws
    · rw [if_pos ⟨hws, hopen⟩, hws]
      exact Function.update_self ws _ _
    · rw [if_neg fun h => hws h.1]
      exact Function.update_of_ne hws _ _
  · rw [if_neg hopen, if_neg fun h => hopen h.2]

theorem SameRegistration.close (s : ConnectionState W) (ws : W) :
    SameRegistration s (s.close ws) := by
  have hrest : (s.close ws).connections = s.connections ∧ (s.close ws).count = s.count ∧
      (s.close ws).registry = s.registry ∧ (s.close ws).lastSocket = s.lastSocket ∧
      (s.close ws).agents = s.agents := by
    rw [ConnectionState.close]
    split <;> exact ⟨rfl, rfl, rfl, rfl, rfl⟩
  obtain ⟨hconnections, hcount, hregistry, hlastSocket, hagents⟩ := hrest
  refine ⟨hconnections, hcount, hregistry, hlastSocket, fun ref => ?_, fun ws' hopen => ?_,
    fun ws' hclosed => ?_⟩
  · rw [hagents]
    exact ⟨rfl, rfl, rfl⟩
  · rw [readyState_close] at hopen
    split at hopen
    · cases hopen
    · exact hopen
  · rw [readyState_close] at hclosed
    split at hclosed
    · cases hclosed
    · exact hclosed

theorem SameRegistration.modify (s : ConnectionState W) (did : String)
    {f : RegisteredAgent W → RegisteredAgent W}
    (hf : ∀ agent, (f agent).did = agent.did ∧ (f agent).ws = agent.ws ∧
      (f agent).online = agent.online) : SameRegistration s (s.modify did f) := by
  rw [ConnectionState.modify]
  split
  · exact .of_eq rfl rfl rfl rfl rfl rfl
  · rename_i ref _
    refine ⟨rfl, rfl, rfl, rfl, fun ref' => ?_, fun _ h => h, fun _ h => h⟩
    by_cases href : ref' = ref
    · rw [href]
      dsimp only
      rw [Function.update_self]
      exact hf _
    · dsimp only
      rw [Function.update_of_ne href]
      exact ⟨rfl, rfl, rfl⟩

theorem SameRegistration.recordPing (s : ConnectionState W) (did : String) (now : ℕ) :
    SameRegistration s (s.recordPing did now) := by
  have hping : SameRegistration s
      { s with lastPing := Function.update s.lastPing did (some now) } :=
    .of_eq rfl rfl rfl rfl rfl rfl
  exact hping.trans (.modify _ did (f := fun agent => { agent with lastSeen := now })
    fun _ => ⟨rfl, rfl, rfl⟩)

theorem SameRegistration.subscribe (s : ConnectionState W) (did : String) (ws : W) (id : String) :
    SameRegistration s (s.subscribe did ws id) := by
  rw [ConnectionState.subscribe]
  split
  · exact .of_eq rfl rfl rfl rfl rfl rfl
  · exact .of_eq rfl rfl rfl rfl rfl rfl

theorem Settled.same (h : Settled s) (hsame : SameRegistration s s') : Settled s' := by
  refine ⟨fun did ref hentry => ?_, fun did ref hentry => ?_, fun did ref hentry => ?_,
    fun did ws hnone hlast hopen => ?_⟩
  · rw [hsame.registry] at hentry
    rw [hsame.count, hsame.lastSocket, (hsame.agents ref).1, (hsame.agents ref).2.1]
    exact h.entry did ref hentry
  · rw [hsame.registry] at hentry
    rw [hsame.connections, (hsame.agents ref).2.1]
    exact h.owner did ref hentry
  · rw [hsame.registry] at hentry
    obtain ⟨hlive, hdead⟩ := h.live did ref hentry
    rw [(hsame.agents ref).2.1, (hsame.agents ref).2.2]
    exact ⟨fun honline hclosed => hlive honline (hsame.closed _ hclosed),
      fun hoffline hopen => hdead hoffline (hsame.opened _ hopen)⟩
  · rw [hsame.registry] at hnone
    rw [hsame.lastSocket] at hlast
    exact h.absent did ws hnone hlast (hsame.opened ws hopen)

theorem Settled.setConnection (h : Settled s) {ws : W} {connection : Connection}
    (hkeeps : ∀ did, s.connections ws = ⟨some did, none⟩ ∨
        s.connections ws = ⟨none, some (.registered did)⟩ →
      connection = ⟨some did, none⟩ ∨ connection = ⟨none, some (.registered did)⟩) :
    Settled (s.setConnection ws connection) := by
  refine ⟨h.entry, fun did ref hentry => ?_, h.live, h.absent⟩
  show Function.update s.connections ws connection (s.agents ref).ws = _ ∨
    Function.update s.connections ws connection (s.agents ref).ws = _
  by_cases hws : (s.agents ref).ws = ws
  · rw [hws, Function.update_self]
    exact hkeeps did (hws ▸ h.owner did ref hentry)
  · rw [Function.update_of_ne hws]
    exact h.owner did ref hentry

/-- No entry is about a socket that knows no DID yet. -/
theorem Settled.free (h : Settled s) {ws : W} {hello : Option HelloPhase}
    (hconnection : s.connections ws = ⟨none, hello⟩)
    (hhello : ∀ did, hello ≠ some (.registered did)) {did : String} {ref : ℕ}
    (hentry : s.registry did = some ref) : (s.agents ref).ws ≠ ws := by
  rintro rfl
  have howner := h.owner did ref hentry
  rw [hconnection] at howner
  rcases howner with hknown | hregistered
  · cases hknown
  · exact hhello did (congrArg Connection.hello hregistered)

/-- **A registration** closes the socket that it replaces, and puts one new object under its DID. -/
theorem register_eq (s : ConnectionState W) (did realm : String) (ws : W) (now : ℕ) :
    ∃ t, SameRegistration s t ∧ s.register did ws realm now =
      { t with
        agents := Function.update t.agents t.count
          { did := did, ws := ws, realm := realm, online := true, discoverable := false,
            lastSeen := now }
        count := t.count + 1
        registry := Function.update t.registry did (some t.count)
        lastSocket := Function.update t.lastSocket did (some ws) } := by
  refine ⟨match s.get did with
    | some existing => if existing.ws ≠ ws then s.close existing.ws else s
    | none => s, ?_, rfl⟩
  split
  · split
    · exact .close _ _
    · exact .of_eq rfl rfl rfl rfl rfl rfl
  · exact .of_eq rfl rfl rfl rfl rfl rfl

theorem Settled.register (h : Settled s) {did realm : String} {ws : W} {now : ℕ}
    (hconnection : s.connections ws = ⟨none, some (.registered did)⟩)
    (hclosed : s.readyState ws ≠ .CLOSED) : Settled (s.register did ws realm now) := by
  obtain ⟨t, hsame, hregister⟩ := register_eq s did realm ws now
  rw [hregister]
  have ht := h.same hsame
  -- the entries of the other DIDs, beside the new one
  have hother {did' : String} {ref : ℕ} (hdid : did' ≠ did)
      (hentry : Function.update t.registry did (some t.count) did' = some ref) :
      t.registry did' = some ref ∧ ref ≠ t.count := by
    rw [Function.update_of_ne hdid] at hentry
    exact ⟨hentry, Nat.ne_of_lt (ht.entry did' ref hentry).1⟩
  refine ⟨fun did' ref hentry => ?_, fun did' ref hentry => ?_, fun did' ref hentry => ?_,
    fun did' ws' hnone hlast => ?_⟩
  · by_cases hdid : did' = did
    · subst hdid
      obtain rfl : t.count = ref := by simpa using hentry
      simp
    · obtain ⟨hentry, href⟩ := hother hdid hentry
      obtain ⟨hlt, hdid', hlast⟩ := ht.entry did' ref hentry
      dsimp only
      rw [Function.update_of_ne href, Function.update_of_ne hdid]
      exact ⟨by omega, hdid', hlast⟩
  · by_cases hdid : did' = did
    · subst hdid
      obtain rfl : t.count = ref := by simpa using hentry
      dsimp only
      rw [Function.update_self, hsame.connections]
      exact Or.inr hconnection
    · obtain ⟨hentry, href⟩ := hother hdid hentry
      dsimp only
      rw [Function.update_of_ne href]
      exact ht.owner did' ref hentry
  · by_cases hdid : did' = did
    · subst hdid
      obtain rfl : t.count = ref := by simpa using hentry
      dsimp only
      rw [Function.update_self]
      exact ⟨fun _ hclosed' => hclosed (hsame.closed ws hclosed'), nofun⟩
    · obtain ⟨hentry, href⟩ := hother hdid hentry
      dsimp only
      rw [Function.update_of_ne href]
      exact ht.live did' ref hentry
  · by_cases hdid : did' = did
    · subst hdid
      simp at hnone
    · dsimp only at hnone hlast ⊢
      rw [Function.update_of_ne hdid] at hnone hlast
      exact ht.absent did' ws' hnone hlast

/-- An entry that goes leaves no open socket behind. -/
theorem Settled.unregister (h : Settled s) {registry : String → Option ℕ}
    (hkept : ∀ did ref, registry did = some ref → s.registry did = some ref)
    (hgone : ∀ did ref, registry did = none → s.registry did = some ref →
      s.readyState (s.agents ref).ws ≠ .OPEN) : Settled { s with registry := registry } := by
  refine ⟨fun did ref hentry => h.entry did ref (hkept did ref hentry),
    fun did ref hentry => h.owner did ref (hkept did ref hentry),
    fun did ref hentry => h.live did ref (hkept did ref hentry), fun did ws hnone hlast => ?_⟩
  cases hentry : s.registry did with
  | none => exact h.absent did ws hentry hlast
  | some ref =>
    obtain rfl : (s.agents ref).ws = ws :=
      Option.some.inj ((h.entry did ref hentry).2.2.symm.trans hlast)
    exact hgone did ref hnone hentry

/-- A socket is closed, and the entries that are about it are offline now. -/
theorem Settled.closed (h : Settled s) {ws : W} {agents : ℕ → RegisteredAgent W}
    (hagents : ∀ ref, (agents ref).did = (s.agents ref).did ∧ (agents ref).ws = (s.agents ref).ws)
    (honline : ∀ did ref, s.registry did = some ref →
      (agents ref).online = (s.agents ref).online ∧ (s.agents ref).ws ≠ ws ∨
        (agents ref).online = false ∧ ((s.agents ref).ws = ws ∨ (s.agents ref).online = false)) :
    Settled
      { s with agents := agents, readyState := Function.update s.readyState ws .CLOSED } := by
  have hopen {ws' : W} (hws' : s.readyState ws' ≠ .OPEN) :
      Function.update s.readyState ws .CLOSED ws' ≠ .OPEN := by
    by_cases hws : ws' = ws
    · rw [hws, Function.update_self]
      nofun
    · rwa [Function.update_of_ne hws]
  refine ⟨fun did ref hentry => ?_, fun did ref hentry => ?_, fun did ref hentry => ?_,
    fun did ws' hnone hlast => hopen (h.absent did ws' hnone hlast)⟩
  · dsimp only
    rw [(hagents ref).1, (hagents ref).2]
    exact h.entry did ref hentry
  · dsimp only
    rw [(hagents ref).2]
    exact h.owner did ref hentry
  · dsimp only
    rw [(hagents ref).2]
    rcases honline did ref hentry with ⟨hsame, hws⟩ | ⟨hoffline, hws⟩
    · rw [hsame, Function.update_of_ne hws]
      exact h.live did ref hentry
    · refine ⟨fun honline => absurd honline (by simp [hoffline]), fun _ => ?_⟩
      rcases hws with hws | hwas
      · rw [hws, Function.update_self]
        nofun
      · exact hopen ((h.live did ref hentry).2 hwas)

/-- The close event of a socket whose connection is authenticated. -/
theorem Settled.disconnected (h : Settled s) {ws : W} {did : String} {now : ℕ}
    (hconnection : (s.connections ws).did = some did)
    (hreplaced : s.lastSocket did ≠ some ws → s.isOnline did = false) :
    Settled (ConnectionState.handleAgentDisconnect
      { s with readyState := Function.update s.readyState ws .CLOSED } did now) := by
  -- an entry about the socket is that of its DID
  have hown {did' : String} {ref : ℕ} (hentry : s.registry did' = some ref)
      (hws : (s.agents ref).ws = ws) : did' = did := by
    have howner := h.owner did' ref hentry
    rw [hws] at howner
    rcases howner with hknown | hregistered
    · rw [hknown] at hconnection
      exact Option.some.inj hconnection
    · rw [hregistered] at hconnection
      cases hconnection
  generalize hnext : ({ s with readyState := Function.update s.readyState ws .CLOSED } :
    ConnectionState W) = next
  have hoffline : Settled (next.markOffline did now) := by
    rw [← hnext, ConnectionState.markOffline, ConnectionState.modify]
    dsimp only
    cases hentry : s.registry did with
    | none =>
      refine h.closed (fun _ => ⟨rfl, rfl⟩) fun did' ref hentry' => Or.inl ⟨rfl, fun hws => ?_⟩
      rw [hown hentry' hws, hentry] at hentry'
      cases hentry'
    | some ref =>
      refine h.closed (fun ref' => ?_) fun did' ref' hentry' => ?_
      · by_cases href : ref' = ref
        · rw [href, Function.update_self]
          exact ⟨rfl, rfl⟩
        · rw [Function.update_of_ne href]
          exact ⟨rfl, rfl⟩
      · by_cases href : ref' = ref
        · subst href
          rw [Function.update_self]
          refine Or.inr ⟨rfl, ?_⟩
          by_cases hws : (s.agents ref').ws = ws
          · exact Or.inl hws
          · have hlast : s.lastSocket did ≠ some ws := by
              rw [(h.entry did ref' hentry).2.2]
              exact fun heq => hws (Option.some.inj heq)
            have hwas := hreplaced hlast
            rw [ConnectionState.isOnline, ConnectionState.get, hentry] at hwas
            exact Or.inr hwas
        · rw [Function.update_of_ne href]
          refine Or.inl ⟨rfl, fun hws => href ?_⟩
          rw [hown hentry' hws, hentry] at hentry'
          exact (Option.some.inj hentry').symm
  have hrest : SameRegistration (next.markOffline did now)
      (next.handleAgentDisconnect did now) := by
    have hunpublished := SameRegistration.modify (next.markOffline did now) did
      (f := fun agent => { agent with discoverable := false }) fun _ => ⟨rfl, rfl, rfl⟩
    exact hunpublished.trans (.of_eq rfl rfl rfl rfl rfl rfl)
  exact hoffline.same hrest

/-- A socket that knows no DID may take another turn. -/
theorem Settled.setHello (h : Settled s) {ws : W} {hello hello' : Option HelloPhase}
    (hconnection : s.connections ws = ⟨none, hello⟩)
    (hhello : ∀ did, hello ≠ some (.registered did)) :
    Settled (s.setConnection ws ⟨none, hello'⟩) := by
  refine h.setConnection fun did howner => ?_
  rw [hconnection] at howner
  rcases howner with hknown | hregistered
  · cases hknown
  · exact absurd (congrArg Connection.hello hregistered) (hhello did)

theorem Settled.step (h : Settled s) (hstep : CarefulConnectionStep s event s') : Settled s' := by
  obtain ⟨hstep, hcareful⟩ := hstep
  cases hstep with
  | helloReceived hconnection => exact h.setHello hconnection nofun
  | helloRejected hconnection => exact (h.setHello hconnection nofun).same (.close _ _)
  | @registered ws did realm now hconnection _ =>
    have hregistering : Settled (s.setConnection ws ⟨none, some (.registered did)⟩) :=
      h.setHello hconnection nofun
    have hregistered : Settled (ConnectionState.register
        (s.setConnection ws ⟨none, some (.registered did)⟩) did ws realm now) :=
      hregistering.register (Function.update_self ws _ _) hcareful
    exact hregistered.same (.recordPing _ _ _)
  | @helloEnded ws did hconnection =>
    refine h.setConnection fun did' howner => ?_
    rw [hconnection] at howner
    rcases howner with hknown | hregistered
    · cases hknown
    · cases hregistered
      exact Or.inl rfl
  | helloFailed _ => exact hcareful.elim
  | peerClosed => exact h.same (.close _ _)
  | dropped => exact h.same (.close _ _)
  | @closed ws now next _ hnext =>
    obtain ⟨hregistered, hreplaced⟩ := hcareful
    subst hnext
    cases hdid : (s.connections ws).did with
    | some did =>
      exact h.disconnected hdid fun hlast =>
        congrArg (fun view : Bool × Bool × Option ℕ × List (Subscription W) => view.1)
          (hreplaced did hdid hlast)
    | none =>
      have hconnection : s.connections ws = ⟨none, (s.connections ws).hello⟩ := by rw [← hdid]
      exact h.closed (fun _ => ⟨rfl, rfl⟩) fun did ref hentry =>
        Or.inl ⟨rfl, h.free hconnection hregistered hentry⟩
  | pinged _ => exact h.same (.recordPing _ _ _)
  | published _ => exact h.same (.modify _ _ fun _ => ⟨rfl, rfl, rfl⟩)
  | unpublished _ => exact h.same (.modify _ _ fun _ => ⟨rfl, rfl, rfl⟩)
  | subscribed _ => exact h.same (.subscribe _ _ _ _)
  | unsubscribed => exact h.same (.of_eq rfl rfl rfl rfl rfl rfl)
  | @timedOut did ts now _ _ =>
    have hremoved : Settled (s.removePing did) := h.same (.of_eq rfl rfl rfl rfl rfl rfl)
    rw [ConnectionState.handleTimeout, ConnectionState.get]
    cases hentry : (s.removePing did).registry did with
    | none => exact hremoved
    | some ref =>
      refine (hremoved.same (.close _ _)).unregister (fun did' ref' hkept => ?_)
        fun did' ref' hgone hentry' => ?_
      · rcases update_apply_eq_iff.mp hkept with ⟨_, hkept⟩ | ⟨_, hkept⟩
        · cases hkept
        · exact hkept
      · have hsame := SameRegistration.close (s.removePing did) ((s.removePing did).agents ref).ws
        have hdid : did' = did := by
          by_contra hdid
          rw [Function.update_of_ne hdid, hentry'] at hgone
          cases hgone
        rw [hdid, hsame.registry, hentry] at hentry'
        obtain rfl := Option.some.inj hentry'
        rw [readyState_close, (hsame.agents ref).2.1]
        split
        · nofun
        · rename_i hclosing
          exact fun hopen => hclosing ⟨rfl, hopen⟩
  | @cleaned now =>
    refine h.unregister (fun did ref hkept => ?_) fun did ref hgone hentry => ?_
    · rw [ConnectionState.get] at hkept
      cases hentry : s.registry did with
      | none => simp [hentry] at hkept
      | some ref' =>
        simp only [hentry, Option.map_some] at hkept
        split at hkept
        · cases hkept
        · exact hkept
    · simp only [ConnectionState.get, hentry, Option.map_some] at hgone
      split at hgone
      · rename_i hold
        exact (h.live did ref hentry).2 hold.1
      · cases hgone
  | @deliveryFailed ref hfailed =>
    refine ⟨fun did ref' hentry => ?_, fun did ref' hentry => ?_, fun did ref' hentry => ?_,
      h.absent⟩ <;> by_cases href : ref' = ref
    · subst href
      simpa using h.entry did ref' hentry
    · simpa [href] using h.entry did ref' hentry
    · subst href
      simpa using h.owner did ref' hentry
    · simpa [href] using h.owner did ref' hentry
    · subst href
      simpa using hfailed
    · simpa [href] using h.live did ref' hentry

/-! ### Authenticated connections -/

/-- A connection knows no DID but one that `validateDID` has accepted. -/
def ConnectionState.Authenticated (s : ConnectionState W) : Prop :=
  ∀ ws did, (s.connections ws).did = some did ∨
    (s.connections ws).hello = some (.registered did) → WellFormedDid did

theorem ConnectionState.Authenticated.same (h : s.Authenticated) (hsame : SameRegistration s s') :
    s'.Authenticated := by
  intro ws did hknown
  rw [hsame.connections] at hknown
  exact h ws did hknown

theorem ConnectionState.Authenticated.setConnection (h : s.Authenticated) {ws : W}
    {connection : Connection}
    (hconnection : ∀ did, connection.did = some did ∨ connection.hello = some (.registered did) →
      WellFormedDid did) : (s.setConnection ws connection).Authenticated := by
  intro ws' did hknown
  dsimp only [ConnectionState.setConnection] at hknown
  by_cases hws : ws' = ws
  · rw [hws, Function.update_self] at hknown
    exact hconnection did hknown
  · rw [Function.update_of_ne hws] at hknown
    exact h ws' did hknown

theorem connections_modify (s : ConnectionState W) (did : String)
    (f : RegisteredAgent W → RegisteredAgent W) : (s.modify did f).connections = s.connections := by
  rw [ConnectionState.modify]
  split <;> rfl

theorem ConnectionState.Authenticated.of_eq (h : s.Authenticated)
    (hconnections : s'.connections = s.connections) : s'.Authenticated := by
  intro ws did hknown
  rw [hconnections] at hknown
  exact h ws did hknown

theorem ConnectionState.Authenticated.step (h : s.Authenticated)
    (hstep : ConnectionStep s event s') : s'.Authenticated := by
  cases hstep with
  | helloReceived _ => exact h.setConnection (by rintro did (hnone | hhello) <;> cases ‹_ = _›)
  | helloRejected _ =>
    exact (h.setConnection (by rintro did (hnone | hhello) <;> cases ‹_ = _›)).same (.close _ _)
  | @registered ws did realm now _ hdid =>
    have hregistering : (s.setConnection ws ⟨none, some (.registered did)⟩).Authenticated := by
      refine h.setConnection fun did' hknown => ?_
      rcases hknown with hnone | hhello
      · cases hnone
      · cases hhello
        exact hdid
    refine (hregistering.of_eq ?_).same (.recordPing _ _ _)
    rw [ConnectionState.register]
    dsimp only
    split
    · split
      · exact (SameRegistration.close _ _).connections
      · rfl
    · rfl
  | @helloEnded ws did hconnection =>
    refine h.setConnection fun did' hknown => ?_
    rcases hknown with hdid | hhello
    · cases hdid
      exact h ws did (Or.inr (by rw [hconnection]))
    · cases hhello
  | helloFailed _ =>
    exact (h.setConnection (by rintro did (hnone | hhello) <;> cases ‹_ = _›)).same (.close _ _)
  | peerClosed => exact h.same (.close _ _)
  | dropped => exact h.same (.close _ _)
  | @closed ws now next _ hnext =>
    subst hnext
    split
    · refine h.of_eq ?_
      rw [ConnectionState.handleAgentDisconnect, ConnectionState.unsubscribeAll,
        ConnectionState.removePing, ConnectionState.unpublish, ConnectionState.markOffline,
        connections_modify, connections_modify]
    · exact h
  | pinged _ => exact h.same (.recordPing _ _ _)
  | published _ => exact h.of_eq (connections_modify _ _ _)
  | unpublished _ => exact h.of_eq (connections_modify _ _ _)
  | subscribed _ => exact h.same (.subscribe _ _ _ _)
  | unsubscribed => exact h
  | timedOut _ _ =>
    rw [ConnectionState.handleTimeout]
    split
    · exact h
    · exact h.of_eq (SameRegistration.close _ _).connections
  | cleaned => exact h
  | deliveryFailed _ => exact h

/-! ### Sockets -/

/-- The socket whose HELLO an event takes on. -/
def ConnectionEvent.hello : ConnectionEvent W → Option W
  | .helloReceived ws _ | .helloRejected ws | .registered ws _ _ | .helloEnded ws
  | .helloFailed ws => some ws
  | _ => none

/-- **A step** opens no socket, and changes no variables of a connection but those of the socket
whose HELLO it takes on. -/
structure SameSockets (s s' : ConnectionState W) (hello : Option W) : Prop where
  opened : ∀ ws, s'.readyState ws = .OPEN → s.readyState ws = .OPEN
  connections : ∀ ws, hello ≠ some ws → s'.connections ws = s.connections ws

theorem SameSockets.of_same (h : SameRegistration s s') (hello : Option W) :
    SameSockets s s' hello :=
  ⟨h.opened, fun ws _ => by rw [h.connections]⟩

theorem SameSockets.trans {s'' : ConnectionState W} {hello : Option W}
    (h : SameSockets s s' hello) (h' : SameSockets s' s'' hello) : SameSockets s s'' hello :=
  ⟨fun ws hopen => h.opened ws (h'.opened ws hopen),
    fun ws hother => (h'.connections ws hother).trans (h.connections ws hother)⟩

theorem SameSockets.of_eq {hello : Option W} (hreadyState : s'.readyState = s.readyState)
    (hconnections : s'.connections = s.connections) : SameSockets s s' hello :=
  ⟨fun ws hopen => by rw [← hreadyState, hopen], fun ws _ => by rw [hconnections]⟩

theorem SameSockets.setConnection (s : ConnectionState W) (ws : W) (connection : Connection) :
    SameSockets s (s.setConnection ws connection) (some ws) := by
  refine ⟨fun _ hopen => hopen, fun ws' hother => Function.update_of_ne ?_ _ _⟩
  rintro rfl
  exact hother rfl

theorem readyState_modify (s : ConnectionState W) (did : String)
    (f : RegisteredAgent W → RegisteredAgent W) : (s.modify did f).readyState = s.readyState := by
  rw [ConnectionState.modify]
  split <;> rfl

theorem SameSockets.modify (s : ConnectionState W) (did : String)
    (f : RegisteredAgent W → RegisteredAgent W) (hello : Option W) :
    SameSockets s (s.modify did f) hello :=
  .of_eq (readyState_modify s did f) (connections_modify s did f)

theorem SameSockets.step (hstep : ConnectionStep s event s') : SameSockets s s' event.hello := by
  cases hstep with
  | helloReceived _ => exact .setConnection _ _ _
  | helloRejected _ => exact (SameSockets.setConnection _ _ _).trans (.of_same (.close _ _) _)
  | @registered ws did realm now _ _ =>
    obtain ⟨t, hsame, hregister⟩ := register_eq
      (s.setConnection ws ⟨none, some (.registered did)⟩) did realm ws now
    rw [hregister]
    refine ((SameSockets.setConnection s ws _).trans (.of_same hsame _)).trans ?_
    refine SameSockets.trans ?_ (.of_same (.recordPing _ _ _) _)
    exact .of_eq rfl rfl
  | helloEnded _ => exact .setConnection _ _ _
  | helloFailed _ => exact (SameSockets.setConnection _ _ _).trans (.of_same (.close _ _) _)
  | peerClosed => exact .of_same (.close _ _) _
  | dropped => exact .of_same (.close _ _) _
  | @closed ws now next _ hnext =>
    subst hnext
    have hclosed : SameSockets s
        { s with readyState := Function.update s.readyState ws .CLOSED } none := by
      refine ⟨fun ws' hopen => ?_, fun _ _ => rfl⟩
      dsimp only at hopen
      rcases update_apply_eq_iff.mp hopen with ⟨_, hopen⟩ | ⟨_, hopen⟩
      · cases hopen
      · exact hopen
    show SameSockets s _ none
    split
    · refine hclosed.trans ((SameSockets.modify _ _ _ none).trans
        ((SameSockets.modify _ _ _ none).trans (.of_eq rfl rfl)))
    · exact hclosed
  | pinged _ => exact .of_same (.recordPing _ _ _) _
  | published _ => exact .modify _ _ _ _
  | unpublished _ => exact .modify _ _ _ _
  | subscribed _ => exact .of_same (.subscribe _ _ _ _) _
  | unsubscribed => exact .of_eq rfl rfl
  | @timedOut did _ _ _ _ =>
    rw [ConnectionState.handleTimeout]
    split
    · exact .of_eq rfl rfl
    · rename_i agent _
      have hclosed : SameSockets (s.removePing did) ((s.removePing did).close agent.ws) none :=
        .of_same (.close _ _) _
      exact ⟨fun ws hopen => hclosed.opened ws hopen, fun ws hne => hclosed.connections ws hne⟩
  | cleaned => exact .of_eq rfl rfl
  | deliveryFailed _ => exact .of_eq rfl rfl

/-! ### Runs -/

/-- A relay that no agent has connected to. -/
structure ConnectionState.Starting (s : ConnectionState W) : Prop where
  connections : ∀ ws, s.connections ws = ⟨none, none⟩
  registry : ∀ did, s.registry did = none
  lastSocket : ∀ did, s.lastSocket did = none

theorem Settled.of_starting (h : start.Starting) : Settled start := by
  refine ⟨fun did ref hentry => ?_, fun did ref hentry => ?_, fun did ref hentry => ?_,
    fun did ws _ hlast => ?_⟩
  · rw [h.registry] at hentry
    cases hentry
  · rw [h.registry] at hentry
    cases hentry
  · rw [h.registry] at hentry
    cases hentry
  · rw [h.lastSocket] at hlast
    cases hlast

theorem ConnectionState.Authenticated.of_starting (h : start.Starting) : start.Authenticated := by
  intro ws did hknown
  rw [h.connections] at hknown
  rcases hknown with hdid | hhello
  · cases hdid
  · cases hhello

theorem Settled.run (hstart : start.Starting) (hrun : Trace CarefulConnectionStep start events s) :
    Settled s := by
  induction hrun with
  | nil => exact .of_starting hstart
  | snoc _ hlast ih => exact ih.step hlast

/-- A settled agent is online exactly when its latest socket is not closed. -/
theorem Settled.follows (h : Settled s) {did : String} (hquiet : s.Quiet did) :
    s.isOnline did = true ↔ ∃ ws, s.lastSocket did = some ws ∧ s.readyState ws ≠ .CLOSED := by
  rw [ConnectionState.isOnline, ConnectionState.get]
  cases hentry : s.registry did with
  | none =>
    refine ⟨nofun, fun ⟨ws, hlast, hnotClosed⟩ => ?_⟩
    have hnotOpen := h.absent did ws hentry hlast
    have hnotClosing := hquiet.2 ws hlast
    cases hws : s.readyState ws with
    | OPEN => exact absurd hws hnotOpen
    | CLOSING => exact absurd hws hnotClosing
    | CLOSED => exact absurd hws hnotClosed
  | some ref =>
    obtain ⟨_, _, hlast⟩ := h.entry did ref hentry
    obtain ⟨hlive, hdead⟩ := h.live did ref hentry
    refine ⟨fun honline => ⟨_, hlast, hlive honline⟩, fun ⟨ws, hws, hnotClosed⟩ => ?_⟩
    obtain rfl := Option.some.inj (hlast.symm.trans hws)
    by_contra hoffline
    have hnotOpen := hdead (by simpa using hoffline)
    have hnotClosing := hquiet.2 _ hlast
    cases hws : s.readyState (s.agents ref).ws with
    | OPEN => exact absurd hws hnotOpen
    | CLOSING => exact absurd hws hnotClosing
    | CLOSED => exact absurd hws hnotClosed

/-- **A disconnect leaves nothing of the DID.** -/
theorem presence_handleAgentDisconnect (s : ConnectionState W) (did : String) (now : ℕ) :
    (s.handleAgentDisconnect did now).presence did = (false, false, none, []) := by
  have hpings : (s.handleAgentDisconnect did now).lastPing did = none := Function.update_self _ _ _
  have hsubscriptions : (s.handleAgentDisconnect did now).subscriptions did = [] :=
    Function.update_self _ _ _
  have hagent : ∀ agent, (s.handleAgentDisconnect did now).get did = some agent →
      agent.online = false ∧ agent.discoverable = false := by
    intro agent hagent
    have hget : (s.handleAgentDisconnect did now).get did
        = ((s.markOffline did now).unpublish did).get did := rfl
    rw [hget, ConnectionState.get, ConnectionState.unpublish, ConnectionState.modify,
      ConnectionState.markOffline, ConnectionState.modify] at hagent
    cases hentry : s.registry did with
    | none => simp [hentry] at hagent
    | some ref =>
      simp only [hentry, Option.map_some, Function.update_self, Option.some.injEq] at hagent
      subst hagent
      exact ⟨rfl, rfl⟩
  rw [ConnectionState.presence, ConnectionState.isOnline, hpings, hsubscriptions]
  cases hget : (s.handleAgentDisconnect did now).get did with
  | none => rfl
  | some agent =>
    obtain ⟨honline, hdiscoverable⟩ := hagent agent hget
    simp [honline, hdiscoverable]

/-- **The connections follow the latest sockets.**  In every careful run, an agent is online exactly
when the socket that was registered last for its DID is not closed, and the close event of a
replaced socket takes nothing from the newer connection. -/
theorem connection_follows_socket (hstart : start.Starting)
    (hrun : Trace CarefulConnectionStep start events s) :
    (∀ did, s.Quiet did →
      (s.isOnline did = true ↔ ∃ ws, s.lastSocket did = some ws ∧ s.readyState ws ≠ .CLOSED)) ∧
    ∀ did ws now s', CarefulConnectionStep s (.closed ws now) s' →
      (s.connections ws).did = some did → s.lastSocket did ≠ some ws →
        s'.presence did = s.presence did := by
  refine ⟨fun did hquiet => (Settled.run hstart hrun).follows hquiet, ?_⟩
  rintro did ws now s' ⟨hstep, _, hreplaced⟩ hdid hlast
  cases hstep with
  | closed _ _ =>
    rw [hdid, hreplaced did hdid hlast]
    exact presence_handleAgentDisconnect _ did now

end

/-! ### Runs of one relay -/

/-- A relay with two sockets, of which none has sent a HELLO. -/
def idleRelay : ConnectionState Bool where
  readyState _ := .OPEN
  connections _ := ⟨none, none⟩
  agents _ :=
    { did := "", ws := true, realm := "public", online := false, discoverable := false
      lastSeen := 0 }
  count := 0
  registry _ := none
  lastPing _ := none
  subscriptions _ := []
  lastSocket _ := none

theorem idleRelay_starting : idleRelay.Starting := ⟨fun _ => rfl, fun _ => rfl, fun _ => rfl⟩

/-- An agent connects with one socket, and the socket is closed. -/
theorem connection_follows_socket_sample :
    ∃ s : ConnectionState Bool, s.lastSocket "did:agent:zAlice" = some true ∧
      (s.isOnline "did:agent:zAlice" = true ↔
        ∃ ws, s.lastSocket "did:agent:zAlice" = some ws ∧ s.readyState ws ≠ .CLOSED) := by
  have hrun : Trace CarefulConnectionStep idleRelay [] idleRelay := .nil
  have hreceived := hrun.snoc
    ⟨@ConnectionStep.helloReceived _ _ _ true "did:agent:zAlice" rfl, trivial⟩
  have hregistered := hreceived.snoc
    ⟨@ConnectionStep.registered _ _ _ true _ "public" 10 rfl (by decide),
      (nofun : ReadyState.OPEN ≠ .CLOSED)⟩
  have hended := hregistered.snoc ⟨@ConnectionStep.helloEnded _ _ _ true _ rfl, trivial⟩
  have hclosed := hended.snoc ⟨@ConnectionStep.closed _ _ _ true 20 _ (by decide) rfl,
    nofun, fun did hdid hlast => absurd (by cases hdid; rfl) hlast⟩
  have hfollows := (connection_follows_socket idleRelay_starting hclosed).1 "did:agent:zAlice"
    ⟨fun ws => by cases ws <;> rfl, fun ws hws => by cases hws; decide⟩
  exact ⟨_, by rfl, hfollows⟩

/-- **The close event of a replaced socket.**  The agent has connected with a second socket, which
is open; the close event of the first one marks it offline. -/
theorem replaced_socket_close :
    ∃ events, ∃ s : ConnectionState Bool, Trace ConnectionStep idleRelay events s ∧
      s.Quiet "did:agent:zAlice" ∧ s.lastSocket "did:agent:zAlice" = some false ∧
      s.readyState false = .OPEN ∧ s.isOnline "did:agent:zAlice" = false := by
  have hrun : Trace ConnectionStep idleRelay [] idleRelay := .nil
  have hreceived := hrun.snoc
    (@ConnectionStep.helloReceived _ _ _ true "did:agent:zAlice" rfl)
  have hregistered := hreceived.snoc
    (@ConnectionStep.registered _ _ _ true _ "public" 10 rfl (by decide))
  have hended := hregistered.snoc (@ConnectionStep.helloEnded _ _ _ true _ rfl)
  have hreceived' := hended.snoc
    (@ConnectionStep.helloReceived _ _ _ false "did:agent:zAlice" rfl)
  have hregistered' := hreceived'.snoc
    (@ConnectionStep.registered _ _ _ false _ "public" 20 rfl (by decide))
  have hended' := hregistered'.snoc (@ConnectionStep.helloEnded _ _ _ false _ rfl)
  have hclosed := hended'.snoc (@ConnectionStep.closed _ _ _ true 30 _ (by decide) rfl)
  refine ⟨_, _, hclosed, ⟨fun ws => by cases ws <;> rfl, fun ws hws => ?_⟩, rfl, rfl, rfl⟩
  cases hws
  decide

end QuadraA.Relay
