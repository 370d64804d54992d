import Mathlib.Data.Finset.Card
import QuadraA.Relay.RemoteDirectory

/-!
# Events stay in the realm of their agent

`relay/src/subscription-manager.ts` and the handlers that dispatch events: the subscriptions, what
an event is sent to, and the realm that each handler dispatches with.

* `events_in_realm` — the events of a step stay in that realm exactly when the step is no close
  event of a forgotten agent that reaches a subscription of another realm;
* `leave_after_timeout` — such a close event, after a heartbeat timeout.

A subscription of the connections has an id, a socket and a realm; here are its DID, its events and
the times of the latest of them.  Cards are those that the registry has.
-/

set_option linter.unusedSectionVars false

namespace QuadraA.Relay

open QuadraA.Lib

def RATE_LIMIT_WINDOW_MS : ℕ := 60 * 1000
def RATE_LIMIT_MAX_EVENTS : ℕ := 1000

/-! ### Subscriptions -/

/-- `EventMessage['event']`. -/
inductive AgentEvent where
  | join
  | leave
  | update
  | publish
  | unpublish
deriving DecidableEq

structure EventSubscription (W : Type) where
  id : String
  did : String
  ws : W
  events : List AgentEvent
  realm : String
  eventTimestamps : List ℕ

structure EventMessage (A : Type) where
  subscriptionId : String
  event : AgentEvent
  did : String
  card : Option A
  realm : String

/-- An EVENT frame, and the subscription that it is sent to. -/
structure SentEvent (W A : Type) where
  subscription : EventSubscription W
  message : EventMessage A

structure SubscriptionManager (W : Type) where
  subscriptions : Record String (EventSubscription W)
  byDid : String → Finset String

namespace EventSubscription

variable {W A : Type}

/-- The three filters of `dispatch`. -/
def isInterested (sub : EventSubscription W) (event : AgentEvent) (did realm : String) : Bool :=
  decide (sub.realm = realm) && decide (event ∈ sub.events) && decide (sub.did ≠ did)

def recentTimestamps (sub : EventSubscription W) (now : ℕ) : List ℕ :=
  sub.eventTimestamps.filter fun t => now - t < RATE_LIMIT_WINDOW_MS

def isLimited (sub : EventSubscription W) (now : ℕ) : Bool :=
  decide (RATE_LIMIT_MAX_EVENTS ≤ (sub.recentTimestamps now).length)

/-- What one turn of `dispatch` leaves of a subscription. -/
def counted (sub : EventSubscription W) (event : AgentEvent) (did realm : String) (now : ℕ) :
    EventSubscription W :=
  if sub.isInterested event did realm then
    { sub with
      eventTimestamps :=
        if sub.isLimited now then sub.recentTimestamps now
        else sub.recentTimestamps now ++ [now] }
  else sub

/-- The event is sent to the subscription. -/
def receives (sub : EventSubscription W) (isOpen : W → Bool) (event : AgentEvent)
    (did realm : String) (now : ℕ) : Bool :=
  sub.isInterested event did realm && !sub.isLimited now && isOpen sub.ws

/-- What one turn of `dispatch` sends. -/
def notification (sub : EventSubscription W) (isOpen : W → Bool) (event : AgentEvent)
    (did : String) (card : Option A) (realm : String) (now : ℕ) : Option (SentEvent W A) :=
  if sub.receives isOpen event did realm now then
    some
      { subscription := sub
        message :=
          { subscriptionId := sub.id, event := event, did := did
            card := if event ≠ .leave ∧ event ≠ .unpublish then card else none
            realm := realm } }
  else none

end EventSubscription

namespace SubscriptionManager

variable {W A : Type}

def subscribe (m : SubscriptionManager W) (did : String) (ws : W) (events : List AgentEvent)
    (realm id : String) : SubscriptionManager W :=
  if MAX_SUBSCRIPTIONS_PER_DID ≤ (m.byDid did).card then m
  else
    { subscriptions := m.subscriptions.set id
        { id := id, did := did, ws := ws, events := events, realm := realm, eventTimestamps := [] }
      byDid := Function.update m.byDid did (insert id (m.byDid did)) }

def unsubscribe (m : SubscriptionManager W) (id : String) : SubscriptionManager W :=
  match m.subscriptions.get? id with
  | none => m
  | some sub =>
      { subscriptions := m.subscriptions.erase id
        byDid := Function.update m.byDid sub.did ((m.byDid sub.did).erase id) }

def unsubscribeAll (m : SubscriptionManager W) (did : String) : SubscriptionManager W where
  subscriptions := m.subscriptions.filterKeys fun id => decide (id ∉ m.byDid did)
  byDid := Function.update m.byDid did ∅

/-- `dispatch`: the subscriptions after it, and the events that it sends.  No turn of the loop
depends on another one. -/
def dispatch (m : SubscriptionManager W) (isOpen : W → Bool) (event : AgentEvent) (did : String)
    (card : Option A) (realm : String) (now : ℕ) : SubscriptionManager W × List (SentEvent W A) :=
  ({ m with subscriptions := m.subscriptions.map fun _ sub => sub.counted event did realm now },
    m.subscriptions.values.filterMap fun sub => sub.notification isOpen event did card realm now)

variable {m : SubscriptionManager W} {event : AgentEvent} {did realm : String} {now : ℕ}

theorem mem_dispatch {isOpen : W → Bool} {card : Option A} {sent : SentEvent W A}
    (h : sent ∈ (m.dispatch isOpen event did card realm now).2) :
    sent.subscription ∈ m.subscriptions.values ∧
      sent.subscription.receives isOpen event did realm now = true ∧ sent.message.did = did := by
  obtain ⟨sub, hsub, hsent⟩ := List.mem_filterMap.mp h
  rw [EventSubscription.notification] at hsent
  split at hsent
  · rename_i hreceives
    obtain rfl := Option.some.inj hsent
    exact ⟨hsub, hreceives, rfl⟩
  · cases hsent

/-- A subscription that receives the event is sent it. -/
theorem dispatch_of_receives {isOpen : W → Bool} (card : Option A) {sub : EventSubscription W}
    (hsub : sub ∈ m.subscriptions.values)
    (hreceives : sub.receives isOpen event did realm now = true) :
    ∃ sent ∈ (m.dispatch isOpen event did card realm now).2,
      sent.subscription = sub ∧ sent.message.did = did := by
  have hsent : ∃ sent, sub.notification isOpen event did card realm now = some sent ∧
      sent.subscription = sub ∧ sent.message.did = did := by
    rw [EventSubscription.notification, if_pos hreceives]
    exact ⟨_, rfl, rfl, rfl⟩
  obtain ⟨sent, hsent, hsubscription⟩ := hsent
  exact ⟨sent, List.mem_filterMap.mpr ⟨sub, hsub, hsent⟩, hsubscription⟩

theorem realm_of_receives {sub : EventSubscription W} {isOpen : W → Bool}
    (h : sub.receives isOpen event did realm now = true) : sub.realm = realm := by
  simp only [EventSubscription.receives, EventSubscription.isInterested, Bool.and_eq_true,
    decide_eq_true_eq] at h
  exact h.1.1.1.1

end SubscriptionManager

/-! ### Events of the relay -/

/-- **The connections and the subscriptions of a relay.**  `lastRealm` is the realm of the latest
registration of a DID. -/
structure EventState (W : Type) where
  conn : ConnectionState W
  manager : SubscriptionManager W
  lastRealm : String → Option String

inductive SubscriptionEvent (W A : Type) where
  | connection (event : ConnectionEvent W)
  | registered (ws : W) (realm : String) (now : ℕ)
  | subscribed (ws : W) (id : String) (events : List AgentEvent)
  | unsubscribed (id : String)
  | published (ws : W) (card : A) (now : ℕ)
  | unpublished (ws : W) (card : A) (now : ℕ)
  | closed (ws : W) (card : Option A) (now : ℕ)

/-- An event of a connection that leaves registrations, subscriptions and subscribers alone. -/
def ConnectionEvent.isQuiet {W : Type} : ConnectionEvent W → Bool
  | .registered _ _ _ | .published _ | .unpublished _ | .closed _ _ | .subscribed _ _
  | .unsubscribed _ => false
  | _ => true

section

variable {W A : Type} [DecidableEq W]

def ConnectionState.isOpen (s : ConnectionState W) (ws : W) : Bool :=
  decide (s.readyState ws = .OPEN)

namespace EventState

def dispatch (s : EventState W) (event : AgentEvent) (did : String) (card : Option A)
    (realm : String) (now : ℕ) : EventState W × List (SentEvent W A) :=
  let result := s.manager.dispatch s.conn.isOpen event did card realm now
  ({ s with manager := result.1 }, result.2)

/-- The end of `handlePublishCard` and `handleUnpublishCard`: the realm is that of the entry. -/
def dispatchOwn (s : EventState W) (event : AgentEvent) (did : String) (card : A) (now : ℕ) :
    EventState W × List (SentEvent W A) :=
  match s.conn.get did with
  | none => (s, [])
  | some agent => s.dispatch event did (some card) agent.realm now

/-- `agent?.realm ?? 'public'`. -/
def realmOf (s : EventState W) (did : String) : String :=
  ((s.conn.get did).map fun agent => agent.realm).getD "public"

end EventState

/-- **What happens between two `await`s**, and the events that it sends. -/
inductive EventStep (s : EventState W) :
    SubscriptionEvent W A → List (SentEvent W A) → EventState W → Prop
  | connection {event : ConnectionEvent W} {conn : ConnectionState W} :
      ConnectionStep s.conn event conn → event.isQuiet = true →
      EventStep s (.connection event) [] { s with conn := conn }
  | registered {ws : W} {did realm : String} {now : ℕ} {conn : ConnectionState W} :
      s.conn.connections ws = ⟨none, some (.verifying did)⟩ →
      ConnectionStep s.conn (.registered ws realm now) conn →
      EventStep s (.registered ws realm now) []
        { s with conn := conn, lastRealm := Function.update s.lastRealm did (some realm) }
  -- `handleSubscribe`
  | subscribed {ws : W} {did id : String} {events : List AgentEvent} {conn : ConnectionState W} :
      (s.conn.connections ws).did = some did →
      ConnectionStep s.conn (.subscribed ws id) conn →
      EventStep s (.subscribed ws id events) []
        { s with
          conn := conn
          manager := s.manager.subscribe did ws events (s.realmOf did) id }
  | unsubscribed {id : String} {conn : ConnectionState W} :
      ConnectionStep s.conn (.unsubscribed id) conn →
      EventStep s (.unsubscribed id) []
        { s with conn := conn, manager := s.manager.unsubscribe id }
  -- `handlePublishCard`
  | published {ws : W} {did : String} {card : A} {now : ℕ} {conn : ConnectionState W} :
      (s.conn.connections ws).did = some did →
      ConnectionStep s.conn (.published ws) conn →
      EventStep s (.published ws card now)
        ({ s with conn := conn }.dispatchOwn .publish did card now).2
        ({ s with conn := conn }.dispatchOwn .publish did card now).1
  -- `handleUnpublishCard`
  | unpublished {ws : W} {did : String} {card : A} {now : ℕ} {conn : ConnectionState W} :
      (s.conn.connections ws).did = some did →
      ConnectionStep s.conn (.unpublished ws) conn →
      EventStep s (.unpublished ws card now)
        ({ s with conn := conn }.dispatchOwn .unpublish did card now).2
        ({ s with conn := conn }.dispatchOwn .unpublish did card now).1
  | closedUnknown {ws : W} {card : Option A} {now : ℕ} {conn : ConnectionState W} :
      (s.conn.connections ws).did = none →
      ConnectionStep s.conn (.closed ws now) conn →
      EventStep s (.closed ws card now) [] { s with conn := conn }
  -- `handleAgentDisconnect`, which reads the realm before it takes the agent offline
  | closed {ws : W} {did : String} {card : Option A} {now : ℕ} {conn : ConnectionState W} :
      (s.conn.connections ws).did = some did →
      ConnectionStep s.conn (.closed ws now) conn →
      EventStep s (.closed ws card now)
        ({ s with conn := conn, manager := s.manager.unsubscribeAll did }.dispatch .leave did card
          (s.realmOf did) now).2
        ({ s with conn := conn, manager := s.manager.unsubscribeAll did }.dispatch .leave did card
          (s.realmOf did) now).1

/-- The runs of a relay, with the events that each step sends. -/
def EventRun : EventState W → List (SubscriptionEvent W A × List (SentEvent W A)) →
    EventState W → Prop :=
  Trace fun s label s' => EventStep s label.1 label.2 s'

/-- A relay that has just started. -/
structure EventState.Starting (s : EventState W) : Prop where
  conn : s.conn.Starting
  manager : s.manager.subscriptions = .empty
  lastRealm : ∀ did, s.lastRealm did = none

/-- **A close event that leaves its realm.**  The registry has forgotten the agent, which was
registered in another realm than `public`, and a subscription of `public` receives the event. -/
def EventState.Strays (s : EventState W) : SubscriptionEvent W A → Prop
  | .closed ws _ now => ∃ did, (s.conn.connections ws).did = some did ∧
      s.conn.registry did = none ∧ s.lastRealm did ≠ some "public" ∧
        ∃ sub ∈ (s.manager.unsubscribeAll did).subscriptions.values,
          sub.receives (fun ws' => decide (ws' ≠ ws) && s.conn.isOpen ws') .leave did "public" now
            = true
  | _ => False

variable {c c' c'' : ConnectionState W} {s s' start : EventState W}
  {label : SubscriptionEvent W A} {sent : List (SentEvent W A)}

/-! ### The realm of an entry -/

/-- No entry comes, and none changes its realm. -/
structure KeepsRealms (c c' : ConnectionState W) : Prop where
  registry : ∀ did ref, c'.registry did = some ref → c.registry did = some ref
  realm : ∀ ref, (c'.agents ref).realm = (c.agents ref).realm

theorem KeepsRealms.of_eq (hregistry : c'.registry = c.registry) (hagents : c'.agents = c.agents) :
    KeepsRealms c c' :=
  ⟨fun did ref hentry => by rwa [hregistry] at hentry, fun ref => by rw [hagents]⟩

theorem KeepsRealms.trans (h : KeepsRealms c c') (h' : KeepsRealms c' c'') : KeepsRealms c c'' :=
  ⟨fun did ref hentry => h.registry did ref (h'.registry did ref hentry),
    fun ref => (h'.realm ref).trans (h.realm ref)⟩

theorem KeepsRealms.close (c : ConnectionState W) (ws : W) : KeepsRealms c (c.close ws) := by
  rw [ConnectionState.close]
  split <;> exact .of_eq rfl rfl

theorem KeepsRealms.modify (c : ConnectionState W) (did : String)
    {f : RegisteredAgent W → RegisteredAgent W} (hf : ∀ agent, (f agent).realm = agent.realm) :
    KeepsRealms c (c.modify did f) := by
  rw [ConnectionState.modify]
  split
  · exact .of_eq rfl rfl
  · rename_i ref _
    refine ⟨fun _ _ hentry => hentry, fun ref' => ?_⟩
    dsimp only
    by_cases href : ref' = ref
    · rw [href, Function.update_self, hf]
    · rw [Function.update_of_ne href]

theorem KeepsRealms.recordPing (c : ConnectionState W) (did : String) (now : ℕ) :
    KeepsRealms c (c.recordPing did now) := by
  have hping : KeepsRealms c
      { c with lastPing := Function.update c.lastPing did (some now) } := .of_eq rfl rfl
  refine hping.trans ?_
  rw [ConnectionState.recordPing, ConnectionState.updateLastSeen]
  exact .modify _ did fun _ => rfl

theorem KeepsRealms.handleAgentDisconnect (c : ConnectionState W) (did : String) (now : ℕ) :
    KeepsRealms c (c.handleAgentDisconnect did now) := by
  have hoffline : KeepsRealms c (c.markOffline did now) := .modify c did fun _ => rfl
  have hunpublished : KeepsRealms (c.markOffline did now) ((c.markOffline did now).unpublish did) :=
    .modify _ did fun _ => rfl
  exact (hoffline.trans hunpublished).trans (.of_eq rfl rfl)

/-- **Only a registration changes the realm of an entry.** -/
theorem KeepsRealms.step {event : ConnectionEvent W} (hstep : ConnectionStep c event c')
    (hevent : ∀ ws realm now, event ≠ .registered ws realm now) : KeepsRealms c c' := by
  cases hstep with
  | helloReceived _ => exact .of_eq rfl rfl
  | @helloRejected ws _ _ =>
    have hset : KeepsRealms c (c.setConnection ws ⟨none, none⟩) := .of_eq rfl rfl
    exact hset.trans (.close _ ws)
  | registered _ _ => exact absurd rfl (hevent _ _ _)
  | helloEnded _ => exact .of_eq rfl rfl
  | @helloFailed ws _ _ =>
    have hset : KeepsRealms c (c.setConnection ws ⟨none, none⟩) := .of_eq rfl rfl
    exact hset.trans (.close _ ws)
  | peerClosed => exact .close c _
  | dropped => exact .close c _
  | @closed ws now next _ hnext =>
    have hclosed : KeepsRealms c next := by
      rw [hnext]
      exact .of_eq rfl rfl
    split
    · exact hclosed.trans (.handleAgentDisconnect _ _ _)
    · exact hclosed
  | pinged _ => exact .recordPing c _ _
  | published _ => exact .modify c _ fun _ => rfl
  | unpublished _ => exact .modify c _ fun _ => rfl
  | subscribed _ =>
    rw [ConnectionState.subscribe]
    split <;> exact .of_eq rfl rfl
  | unsubscribed => exact .of_eq rfl rfl
  | @timedOut did _ _ _ _ =>
    have hping : KeepsRealms c (c.removePing did) := .of_eq rfl rfl
    rw [ConnectionState.handleTimeout]
    split
    · exact hping
    · rename_i agent _
      refine (hping.trans (.close _ agent.ws)).trans ⟨fun did' ref hentry => ?_, fun _ => rfl⟩
      rw [ConnectionState.unregister] at hentry
      dsimp only at hentry
      rcases update_apply_eq_iff.mp hentry with ⟨_, hentry⟩ | ⟨_, hentry⟩
      · cases hentry
      · exact hentry
  | cleaned => exact ⟨fun _ _ => registry_cleanup, fun _ => rfl⟩
  | @deliveryFailed ref _ =>
    refine ⟨fun _ _ hentry => hentry, fun ref' => ?_⟩
    dsimp only
    by_cases href : ref' = ref
    · rw [href, Function.update_self]
    · rw [Function.update_of_ne href]

/-! ### The invariant -/

/-- **The registry has each agent in the realm of its last registration.** -/
structure Placed (s : EventState W) : Prop where
  numbered : s.conn.Numbered
  realm : ∀ did ref, s.conn.registry did = some ref →
    s.lastRealm did = some (s.conn.agents ref).realm

theorem Placed.keeps (h : Placed s) (hnumbered : s'.conn.Numbered)
    (hconn : KeepsRealms s.conn s'.conn) (hlast : s'.lastRealm = s.lastRealm) : Placed s' := by
  refine ⟨hnumbered, fun did ref hentry => ?_⟩
  rw [hlast, hconn.realm]
  exact h.realm did ref (hconn.registry did ref hentry)

theorem Placed.registered (h : Placed s) (did realm : String) (ws : W) (now : ℕ)
    (hconn : c = (s.conn.setConnection ws ⟨none, some (.registered did)⟩)) :
    Placed { s with
      conn := (c.register did ws realm now).recordPing did now
      lastRealm := Function.update s.lastRealm did (some realm) } := by
  have hnumbered : c.Numbered := by
    rw [hconn]
    exact h.numbered.of_eq rfl rfl rfl
  have hping := KeepsRealms.recordPing (c.register did ws realm now) did now
  refine ⟨(hnumbered.register did realm ws now).same (.recordPing _ did now),
    fun did' ref hentry => ?_⟩
  obtain ⟨hregistry, hagents⟩ := register_agents c did realm ws now
  have hentry := hping.registry did' ref hentry
  dsimp only
  rw [hping.realm, hagents]
  rw [hregistry] at hentry
  rcases update_apply_eq_iff.mp hentry with ⟨hdid, hentry⟩ | ⟨hdid, hentry⟩
  · obtain rfl := Option.some.inj hentry
    rw [hdid, Function.update_self, Function.update_self]
  · rw [Function.update_of_ne hdid, Function.update_of_ne
      (Nat.ne_of_lt (hnumbered did' ref hentry).1), hconn]
    rw [hconn] at hentry
    exact h.realm did' ref hentry

theorem conn_dispatchOwn (s : EventState W) (event : AgentEvent) (did : String) (card : A)
    (now : ℕ) : (s.dispatchOwn event did card now).1.conn = s.conn ∧
      (s.dispatchOwn event did card now).1.lastRealm = s.lastRealm := by
  rw [EventState.dispatchOwn]
  split <;> exact ⟨rfl, rfl⟩

theorem Placed.step (h : Placed s) (hstep : EventStep s label sent s') : Placed s' := by
  cases hstep with
  | connection hconn hquiet =>
    refine h.keeps (h.numbered.step hconn) (.step hconn ?_) rfl
    rintro ws realm now rfl
    cases hquiet
  | @registered ws did realm now conn hconnection hconn =>
    cases hconn with
    | @registered _ did' _ _ hconnection' _ =>
      obtain rfl : did' = did := by
        rw [hconnection] at hconnection'
        cases hconnection'
        rfl
      exact h.registered did' realm ws now rfl
  | subscribed _ hconn => exact h.keeps (h.numbered.step hconn) (.step hconn nofun) rfl
  | unsubscribed hconn => exact h.keeps (h.numbered.step hconn) (.step hconn nofun) rfl
  | @published ws did card now conn _ hconn =>
    obtain ⟨hkept, hlast⟩ := conn_dispatchOwn { s with conn := conn } .publish did card now
    refine h.keeps ?_ ?_ hlast
    · rw [hkept]
      exact h.numbered.step hconn
    · rw [hkept]
      exact .step hconn nofun
  | @unpublished ws did card now conn _ hconn =>
    obtain ⟨hkept, hlast⟩ := conn_dispatchOwn { s with conn := conn } .unpublish did card now
    refine h.keeps ?_ ?_ hlast
    · rw [hkept]
      exact h.numbered.step hconn
    · rw [hkept]
      exact .step hconn nofun
  | closedUnknown _ hconn => exact h.keeps (h.numbered.step hconn) (.step hconn nofun) rfl
  | closed _ hconn => exact h.keeps (h.numbered.step hconn) (.step hconn nofun) rfl

theorem Placed.of_starting (h : s.Starting) : Placed s := by
  refine ⟨fun did ref hentry => ?_, fun did ref hentry => ?_⟩
  all_goals
    rw [h.conn.registry] at hentry
    cases hentry

theorem Placed.run {labels : List (SubscriptionEvent W A × List (SentEvent W A))}
    (hstart : start.Starting) (hrun : EventRun start labels s) : Placed s := by
  induction hrun with
  | nil => exact .of_starting hstart
  | snoc _ hlast ih => exact ih.step hlast

/-! ### Events stay in the realm -/

/-- Every event is sent to subscriptions of the realm in which its agent was registered last. -/
def EventState.InRealm (s : EventState W) (sent : List (SentEvent W A)) : Prop :=
  ∀ event ∈ sent, s.lastRealm event.message.did = some event.subscription.realm

variable {did : String} {card : Option A} {now : ℕ} {ws : W}

theorem inRealm_dispatch {event : AgentEvent} {realm : String}
    (hrealm : s.lastRealm did = some realm) :
    s.InRealm (s.dispatch event did card realm now).2 := by
  intro sent hsent
  obtain ⟨_, hreceives, hdid⟩ := SubscriptionManager.mem_dispatch hsent
  rw [hdid, hrealm, SubscriptionManager.realm_of_receives hreceives]

theorem Placed.inRealm_dispatchOwn (h : Placed s) (event : AgentEvent) (did : String) (card : A)
    (now : ℕ) : s.InRealm (s.dispatchOwn event did card now).2 := by
  rw [EventState.dispatchOwn, ConnectionState.get]
  cases hentry : s.conn.registry did with
  | none => rintro _ ⟨⟩
  | some ref => exact inRealm_dispatch (h.realm did ref hentry)

/-- The sockets that are open once a socket has closed. -/
theorem isOpen_closed (hstep : ConnectionStep c (.closed ws now) c') :
    c'.isOpen = fun ws' => decide (ws' ≠ ws) && c.isOpen ws' := by
  have hready : c'.readyState = Function.update c.readyState ws .CLOSED := by
    cases hstep with
    | @closed _ _ next _ hnext =>
      have hnextReady : next.readyState = Function.update c.readyState ws .CLOSED := by rw [hnext]
      split
      · rename_i did _
        have hoffline := readyState_modify next did fun agent =>
          { agent with online := false, lastSeen := now }
        have hunpublished := readyState_modify (next.markOffline did now) did fun agent =>
          { agent with discoverable := false }
        exact (hunpublished.trans hoffline).trans hnextReady
      · exact hnextReady
  funext ws'
  rw [ConnectionState.isOpen, ConnectionState.isOpen, hready]
  by_cases hws : ws' = ws
  · rw [hws, Function.update_self]
    simp
  · rw [Function.update_of_ne hws]
    simp [hws]

/-- The event of a close handler stays in the realm exactly when the handler is no stray one. -/
theorem Placed.inRealm_closed (h : Placed s) (hdid : (s.conn.connections ws).did = some did)
    (hconn : ConnectionStep s.conn (.closed ws now) c) :
    s.InRealm ({ s with conn := c, manager := s.manager.unsubscribeAll did }.dispatch .leave did
        card (s.realmOf did) now).2 ↔
      ¬s.Strays (.closed ws card now) := by
  cases hentry : s.conn.registry did with
  | some ref =>
    have hrealm : s.lastRealm did = some (s.realmOf did) := by
      rw [h.realm did ref hentry, EventState.realmOf, ConnectionState.get, hentry]
      rfl
    refine ⟨?_, fun _ => inRealm_dispatch hrealm⟩
    rintro _ ⟨did', hdid', hforgotten, _⟩
    obtain rfl := Option.some.inj (hdid.symm.trans hdid')
    rw [hentry] at hforgotten
    cases hforgotten
  | none =>
    have hpublic : s.realmOf did = "public" := by
      rw [EventState.realmOf, ConnectionState.get, hentry]
      rfl
    rw [hpublic]
    refine ⟨?_, fun hstrays sent hsent => ?_⟩
    · rintro hrealm ⟨did', hdid', _, hlast, sub, hsub, hreceives⟩
      obtain rfl := Option.some.inj (hdid.symm.trans hdid')
      rw [← isOpen_closed hconn] at hreceives
      obtain ⟨sent, hsent, rfl, hsentDid⟩ :=
        SubscriptionManager.dispatch_of_receives card hsub hreceives
      have hlast' := hrealm sent hsent
      rw [hsentDid, SubscriptionManager.realm_of_receives hreceives] at hlast'
      exact hlast hlast'
    · obtain ⟨hsub, hreceives, hsentDid⟩ := SubscriptionManager.mem_dispatch hsent
      rw [hsentDid, SubscriptionManager.realm_of_receives hreceives]
      by_contra hlast
      refine hstrays ⟨did, hdid, hentry, hlast, sent.subscription, hsub, ?_⟩
      rw [← isOpen_closed hconn]
      exact hreceives

/-- **Events stay in the realm of their agent.**  At every step of every run, the events that are
sent go to subscriptions of the realm in which their agent was registered last, exactly when the
step is no close event that strays. -/
theorem events_in_realm {labels : List (SubscriptionEvent W A × List (SentEvent W A))}
    (hstart : start.Starting) (hrun : EventRun start labels s)
    (hstep : EventStep s label sent s') : s.InRealm sent ↔ ¬s.Strays label := by
  have h := Placed.run hstart hrun
  cases hstep with
  | connection _ _ => exact ⟨fun _ hstrays => hstrays, fun _ => nofun⟩
  | registered _ _ => exact ⟨fun _ hstrays => hstrays, fun _ => nofun⟩
  | subscribed _ _ => exact ⟨fun _ hstrays => hstrays, fun _ => nofun⟩
  | unsubscribed _ => exact ⟨fun _ hstrays => hstrays, fun _ => nofun⟩
  | @published ws did card now conn _ hconn =>
    refine ⟨fun _ hstrays => hstrays, fun _ => ?_⟩
    have hplaced : Placed { s with conn := conn } :=
      h.keeps (h.numbered.step hconn) (.step hconn nofun) rfl
    exact hplaced.inRealm_dispatchOwn .publish did card now
  | @unpublished ws did card now conn _ hconn =>
    refine ⟨fun _ hstrays => hstrays, fun _ => ?_⟩
    have hplaced : Placed { s with conn := conn } :=
      h.keeps (h.numbered.step hconn) (.step hconn nofun) rfl
    exact hplaced.inRealm_dispatchOwn .unpublish did card now
  | closedUnknown hdid _ =>
    refine ⟨?_, fun _ => nofun⟩
    rintro _ ⟨did, hknown, _⟩
    rw [hdid] at hknown
    cases hknown
  | closed hdid hconn => exact h.inRealm_closed hdid hconn

end

/-! ### Runs of one relay -/

/-- A relay with the sockets `true` of Alice and `false` of Bob. -/
def silentRelay : EventState Bool where
  conn := idleRelay
  manager := ⟨.empty, fun _ => ∅⟩
  lastRealm _ := none

theorem silentRelay_starting : silentRelay.Starting := ⟨idleRelay_starting, rfl, fun _ => rfl⟩

def bobSubscription (realm : String) : EventSubscription Bool where
  id := "sub-1"
  did := "did:agent:zBob"
  ws := false
  events := [.leave]
  realm := realm
  eventTimestamps := []

theorem bob_receives {isOpen : Bool → Bool} (hopen : isOpen false = true) (realm : String)
    (now : ℕ) :
    (bobSubscription realm).receives isOpen .leave "did:agent:zAlice" realm now = true := by
  have hunlimited : (bobSubscription realm).isLimited now = false := rfl
  have hother : "did:agent:zBob" ≠ "did:agent:zAlice" := by decide
  rw [EventSubscription.receives, hunlimited]
  simp [EventSubscription.isInterested, bobSubscription, hopen, hother]

/-- Alice's close event does not take away Bob's subscription. -/
theorem bob_remains {m : SubscriptionManager Bool} {realm : String}
    (hsubscriptions : m.subscriptions = .single "sub-1" (bobSubscription realm))
    (hbyDid : m.byDid "did:agent:zAlice" = ∅) :
    bobSubscription realm ∈ (m.unsubscribeAll "did:agent:zAlice").subscriptions.values := by
  rw [SubscriptionManager.unsubscribeAll, hsubscriptions, hbyDid]
  exact List.mem_singleton_self _

/-- **Bob subscribes to the agents that leave**, and Alice connects, each in some realm. -/
theorem subscribed_run (bobRealm aliceRealm : String) :
    ∃ labels, ∃ s : EventState Bool, EventRun (A := Unit) silentRelay labels s ∧
      (s.conn.connections true).did = some "did:agent:zAlice" ∧
      s.conn.readyState = (fun _ => .OPEN) ∧
      s.conn.registry "did:agent:zAlice" = some 1 ∧ (s.conn.agents 1).ws = true ∧
      s.conn.lastPing "did:agent:zAlice" = some 20 ∧
      s.lastRealm "did:agent:zAlice" = some aliceRealm ∧
      s.manager.subscriptions = .single "sub-1" (bobSubscription bobRealm) ∧
      s.manager.byDid "did:agent:zAlice" = ∅ := by
  have hrun : EventRun (A := Unit) silentRelay [] silentRelay := .nil
  have hreceived := hrun.snoc (e := (_, _))
    (.connection (@ConnectionStep.helloReceived _ _ _ false "did:agent:zBob" rfl) rfl)
  have hregistered := hreceived.snoc (e := (_, _))
    (.registered rfl
      (@ConnectionStep.registered _ _ _ false "did:agent:zBob" bobRealm 10 rfl (by decide)))
  have hended := hregistered.snoc (e := (_, _))
    (.connection (@ConnectionStep.helloEnded _ _ _ false _ rfl) rfl)
  have hsubscribed := hended.snoc (e := (_, _))
    (@EventStep.subscribed _ _ _ _ false _ "sub-1" [.leave] _ rfl (.subscribed rfl))
  have hreceived' := hsubscribed.snoc (e := (_, _))
    (.connection (@ConnectionStep.helloReceived _ _ _ true "did:agent:zAlice" rfl) rfl)
  have hregistered' := hreceived'.snoc (e := (_, _))
    (.registered rfl
      (@ConnectionStep.registered _ _ _ true "did:agent:zAlice" aliceRealm 20 rfl (by decide)))
  have hended' := hregistered'.snoc (e := (_, _))
    (.connection (@ConnectionStep.helloEnded _ _ _ true _ rfl) rfl)
  exact ⟨_, _, hended', by rfl, by rfl, by rfl, by rfl, by rfl, by rfl, by rfl, by rfl⟩

/-- Both agents are in one realm: Bob is told that Alice has left it. -/
theorem events_in_realm_sample :
    ∃ s s' : EventState Bool, ∃ sent : List (SentEvent Bool Unit),
      EventStep s (.closed true none 30) sent s' ∧ sent ≠ [] ∧ s.InRealm sent := by
  obtain ⟨labels, s, hrun, hdid, hready, hentry, _, _, hlast, hsubscriptions, hbyDid⟩ :=
    subscribed_run "team-a" "team-a"
  have hopen : s.conn.readyState true ≠ .CLOSED := by
    rw [hready]
    nofun
  have hstep := @EventStep.closed _ Unit _ _ _ _ none 30 _ hdid (.closed hopen rfl)
  refine ⟨s, _, _, hstep, fun hnone => ?_, (events_in_realm silentRelay_starting hrun hstep).mpr ?_⟩
  · have hrealm : s.realmOf "did:agent:zAlice" = "team-a" := by
      have hplaced := (Placed.run silentRelay_starting hrun).realm _ _ hentry
      rw [hlast] at hplaced
      rw [EventState.realmOf, ConnectionState.get, hentry]
      exact (Option.some.inj hplaced).symm
    have hbob : s.conn.isOpen false = true := by
      rw [ConnectionState.isOpen, hready]
      rfl
    have hclosed := congrFun (isOpen_closed (@ConnectionStep.closed _ _ _ true 30 _ hopen rfl)) false
    have hbobOpen := hclosed.trans (by rw [hbob])
    obtain ⟨sent, hsent, _⟩ := SubscriptionManager.dispatch_of_receives (none : Option Unit)
      (bob_remains hsubscriptions hbyDid) (bob_receives hbobOpen "team-a" 30)
    rw [hrealm] at hnone
    have hmem := hnone ▸ hsent
    cases hmem
  · rintro ⟨did, hdid', hforgotten, _⟩
    obtain rfl := Option.some.inj (hdid.symm.trans hdid')
    rw [hentry] at hforgotten
    cases hforgotten

theorem registry_unregister (c : ConnectionState Bool) (did : String) :
    (c.unregister did).registry did = none := by
  rw [ConnectionState.unregister]
  exact Function.update_self did none c.registry

/-- A timeout of Alice begins to close her socket, and the registry forgets her. -/
theorem timeout_alice {c : ConnectionState Bool} (hready : c.readyState = fun _ => .OPEN)
    (hentry : c.registry "did:agent:zAlice" = some 1) (hws : (c.agents 1).ws = true)
    (hping : c.lastPing "did:agent:zAlice" = some 20) :
    ∃ c', ConnectionStep c (.timedOut "did:agent:zAlice" 90021) c' ∧
      c'.connections = c.connections ∧ c'.registry "did:agent:zAlice" = none ∧
      c'.readyState = Function.update (fun _ => .OPEN) true .CLOSING := by
  have hget : (c.removePing "did:agent:zAlice").get "did:agent:zAlice" = some (c.agents 1) :=
    congrArg (Option.map c.agents) hentry
  have hopen : (c.removePing "did:agent:zAlice").readyState true = .OPEN := congrFun hready true
  refine ⟨_, .timedOut hping (by decide), ?_⟩
  rw [ConnectionState.handleTimeout, hget]
  dsimp only
  rw [hws, ConnectionState.close, if_pos hopen, ← hready]
  exact ⟨rfl, registry_unregister _ _, rfl⟩

/-- **The close event after a heartbeat timeout.**  Alice was registered in `team-a`, and Bob's
subscription of `public` receives that she has left. -/
theorem leave_after_timeout :
    ∃ labels, ∃ s s' : EventState Bool, ∃ sent : List (SentEvent Bool Unit),
      EventRun (A := Unit) silentRelay labels s ∧
        EventStep s (.closed true none 90030) sent s' ∧ ¬s.InRealm sent := by
  obtain ⟨labels, s, hrun, hdid, hready, hentry, hws, hping, hlast, hsubscriptions, hbyDid⟩ :=
    subscribed_run "public" "team-a"
  obtain ⟨c, hstep, hconnections, hforgotten, hclosing⟩ := timeout_alice hready hentry hws hping
  have htimedOut := hrun.snoc (e := (_, _)) (.connection hstep rfl)
  have hdid' : (c.connections true).did = some "did:agent:zAlice" := by rw [hconnections, hdid]
  have hconn : ConnectionStep c (.closed true 90030) _ := .closed (by rw [hclosing]; nofun) rfl
  refine ⟨_, _, _, _, htimedOut, .closed hdid' hconn, fun hrealm => ?_⟩
  refine ((Placed.run silentRelay_starting htimedOut).inRealm_closed hdid' hconn).mp hrealm
    ⟨"did:agent:zAlice", hdid', hforgotten, ?_, bobSubscription "public",
      bob_remains hsubscriptions hbyDid, bob_receives ?_ "public" 90030⟩
  · rw [hlast]
    decide
  · rw [ConnectionState.isOpen, hclosing]
    rfl

end QuadraA.Relay
