import QuadraA.Relay.FederationRoutes

/-!
# The directory across two relays

What a relay tells another one about its own agents, and what that one answers to a DISCOVER: the
registry and the exported agents of the home relay, the messages under way, and the routes of the
remote relay.

* `shouldExportAgent` — the export policy of a realm;
* `standing_of_untouched` — what an event at the home relay leaves of its agents.

The answer takes the entry that it finds first under a DID, so the remote relay's own agents hide
routes; what the query, the trust scores and the page make of the rest is a parameter.  Messages that
the home relay receives are any.
-/

set_option linter.unusedSectionVars false

namespace QuadraA.Relay

open QuadraA.Lib

/-! ### The export policy -/

inductive FederationExportPolicy where
  | full
  | none
  | selective
deriving DecidableEq

structure FederationRealmPolicy where
  exportPolicy : Option FederationExportPolicy
  selectiveVisibilityValue : Option String

structure ExportConfig where
  exportPolicy : FederationExportPolicy
  selectiveVisibilityValue : String
  realmPolicies : String → Option FederationRealmPolicy

def DEFAULT_EXPORT_CONFIG : ExportConfig where
  exportPolicy := .full
  selectiveVisibilityValue := "public"
  realmPolicies _ := none

/-- What the policy reads of the metadata of a card: two strings, and two flags that may be `true`. -/
structure CardMetadata where
  visibility : Option String
  federationVisibility : Option String
  isPublic : Bool
  federate : Bool

def getSelectiveVisibility (metadata : CardMetadata) (selectiveVisibilityValue : String) :
    Option String :=
  match metadata.visibility <|> metadata.federationVisibility with
  | some visibility => some visibility
  | none =>
      if selectiveVisibilityValue = "public" ∧ (metadata.isPublic || metadata.federate) = true then
        some "public"
      else none

def getRealmPolicy (config : ExportConfig) (realm : String) : FederationExportPolicy × String :=
  let realmPolicy := config.realmPolicies realm
  ((realmPolicy.bind fun policy => policy.exportPolicy).getD config.exportPolicy,
    (realmPolicy.bind fun policy => policy.selectiveVisibilityValue).getD
      config.selectiveVisibilityValue)

def shouldExportAgent (config : ExportConfig) (metadata : CardMetadata) (realm : String) : Bool :=
  let realmPolicy := getRealmPolicy config realm
  match realmPolicy.1 with
  | .full => true
  | .none => false
  | .selective => decide (getSelectiveVisibility metadata realmPolicy.2 = some realmPolicy.2)

/-! ### The answer to a DISCOVER -/

structure DirectoryAgentEntry (A : Type) where
  did : String
  card : A
  online : Bool
  discoverable : Bool
  visibilityRealm : String
  homeRelay : String

/-- The filter of `searchDirectoryEntries`. -/
def DirectoryAgentEntry.isVisible {A : Type} (entry : DirectoryAgentEntry A)
    (requesterRealm : String) : Bool :=
  entry.online && entry.discoverable &&
    (decide (entry.visibilityRealm = "") || decide (entry.visibilityRealm = requesterRealm))

section

variable {W A : Type} [DecidableEq W]

/-- `listRemoteDirectoryEntries`, at one DID. -/
def FederationState.remoteDirectoryEntry (s : FederationState W A) (did : String) :
    Option (DirectoryAgentEntry A) :=
  (s.remoteAgentRoutes did).map fun route =>
    { did := did, card := route.card, online := true, discoverable := true
      visibilityRealm := route.realm, homeRelay := route.relayDid }

/-- **The entry of a DISCOVER answer that is a route.**  `selects` says what the query, the trust
scores and the page leave. -/
def FederationState.discovered (s : FederationState W A) (selects : DirectoryAgentEntry A → Bool)
    (requesterRealm did : String) : Option (DirectoryAgentEntry A) :=
  if (s.registry did).isSome then none
  else
    (s.remoteDirectoryEntry did).filter fun entry =>
      entry.isVisible requesterRealm && selects entry

/-- The socket that a message to a relay goes over. -/
def FederationState.connectedSocket (s : FederationState W A) (relayDid : String) : Option W :=
  match s.federatedRelays relayDid with
  | none => none
  | some relay => if relay.isDataPlaneActive && s.isOpen relay.ws then relay.ws else none

/-- The agent that a message announces or takes back. -/
def FederationMessage.agent : FederationMessage A → Option String
  | .agentJoined agentDid _ _ => some agentDid
  | .agentLeft agentDid => some agentDid
  | _ => none

/-- An event of the registry. -/
def FederationEvent.ofRegistry : FederationEvent W A → Bool
  | .registered _ _ | .published _ _ | .unregistered _ => true
  | _ => false

/-- An event of a connection that the federation manager is not told of. -/
def ConnectionEvent.isSilent : ConnectionEvent W → Bool
  | .registered _ _ _ | .published _ | .closed _ _ | .timedOut _ _ | .cleaned _ => false
  | _ => true

end

/-! ### Two relays -/

/-- **Two relays**: their settings, how they read a card, and their DIDs. -/
structure TwoRelays (A : Type) where
  homeConfig : FederationConfig
  remoteConfig : FederationConfig
  exports : ExportConfig
  metadata : A → CardMetadata
  checks : CardChecks A
  homeDid : String
  remoteDid : String

/-- **The home relay, the remote relay, and the messages under way** from the one to the other.  The
registry of `links` has the cards of the agents that `home` is about. -/
structure DirectoryState (W L A : Type) where
  home : ConnectionState W
  links : FederationState L A
  exportedLocalAgents : String → Bool
  channel : L → List (FederationMessage A)
  remote : FederationState L A

section

variable {W L A : Type} [DecidableEq W] [DecidableEq L]

namespace DirectoryState

def send (s : DirectoryState W L A) (ws : L) (msg : FederationMessage A) : DirectoryState W L A :=
  { s with channel := Function.update s.channel ws (s.channel ws ++ [msg]) }

def broadcastToFederation (net : TwoRelays A) (s : DirectoryState W L A)
    (msg : FederationMessage A) : DirectoryState W L A :=
  match s.links.connectedSocket net.remoteDid with
  | none => s
  | some ws => s.send ws msg

def notifyAgentLeft (net : TwoRelays A) (s : DirectoryState W L A) (agentDid : String) :
    DirectoryState W L A :=
  if s.exportedLocalAgents agentDid then
    { s with
      exportedLocalAgents := Function.update s.exportedLocalAgents agentDid false
        }.broadcastToFederation net (.agentLeft agentDid)
  else s

def notifyAgentJoined (net : TwoRelays A) (s : DirectoryState W L A) (agentDid : String)
    (agentCard : A) (realm : String) : DirectoryState W L A :=
  if shouldExportAgent net.exports (net.metadata agentCard) realm then
    { s with
      exportedLocalAgents := Function.update s.exportedLocalAgents agentDid true
        }.broadcastToFederation net (.agentJoined agentDid agentCard realm)
  else if s.exportedLocalAgents agentDid then s.notifyAgentLeft net agentDid
  else s

/-- One turn of `advertiseCurrentAgentsToRelay`. -/
def advertise (net : TwoRelays A) (ws : L) (s : DirectoryState W L A) (agentDid : String) :
    DirectoryState W L A :=
  match s.home.get agentDid, s.links.registry agentDid with
  | some agent, some card =>
      if agent.online = false then s
      else if agentDid = net.homeDid then s
      else if shouldExportAgent net.exports (net.metadata card) agent.realm = false then s
      else
        { s with
          exportedLocalAgents := Function.update s.exportedLocalAgents agentDid true
            }.send ws (.agentJoined agentDid card agent.realm)
  | _, _ => s

def advertiseCurrentAgentsToRelay (net : TwoRelays A) (s : DirectoryState W L A) (ws : L)
    (agentDids : List String) : DirectoryState W L A :=
  agentDids.foldl (advertise net ws) s

end DirectoryState

inductive DirectoryEvent (W L A : Type) where
  | connection (event : ConnectionEvent W)
  | registered (ws : W) (card : A) (realm : String) (now : ℕ)
  | published (ws : W) (card : Option A)
  | closed (ws : W) (now : ℕ)
  | timedOut (did : String) (now : ℕ)
  | cleaned (now : ℕ)
  | linked (event : FederationEvent L A)
  | stopped
  | advertised (ws : L) (agentDids : List String)
  | sent (ws : L) (msg : FederationMessage A)
  | delivered (ws : L) (msg : FederationMessage A)
  | remote (event : FederationEvent L A)

/-- **What happens at either relay between two `await`s.**  Messages over one socket are processed in
the order in which they were sent. -/
inductive DirectoryStep (net : TwoRelays A) (s : DirectoryState W L A) :
    DirectoryEvent W L A → DirectoryState W L A → Prop
  -- among them UNPUBLISH_CARD and a failed direct delivery
  | connection {event : ConnectionEvent W} {home : ConnectionState W} :
      ConnectionStep s.home event home → event.isSilent = true →
      DirectoryStep net s (.connection event) { s with home := home }
  -- `handleHello`
  | registered {ws : W} {did realm : String} {card : A} {now : ℕ} {home : ConnectionState W}
      {links : FederationState L A} :
      s.home.connections ws = ⟨none, some (.verifying did)⟩ →
      ConnectionStep s.home (.registered ws realm now) home →
      FederationStep net.homeConfig net.checks net.homeDid s.links (.registered did card) links →
      DirectoryStep net s (.registered ws card realm now)
        ({ s with home := home, links := links }.notifyAgentJoined net did card realm)
  -- `handlePublishCard`
  | published {ws : W} {did : String} {agent : RegisteredAgent W} {card : Option A} {updated : A}
      {home : ConnectionState W} {links : FederationState L A} :
      (s.home.connections ws).did = some did → s.home.get did = some agent →
      ConnectionStep s.home (.published ws) home →
      FederationStep net.homeConfig net.checks net.homeDid s.links (.published did card) links →
      links.registry did = some updated →
      DirectoryStep net s (.published ws card)
        ({ s with home := home, links := links }.notifyAgentJoined net did updated agent.realm)
  -- `handleAgentDisconnect`
  | closed {ws : W} {now : ℕ} {home : ConnectionState W} :
      ConnectionStep s.home (.closed ws now) home →
      DirectoryStep net s (.closed ws now)
        (match (s.home.connections ws).did with
        | none => { s with home := home }
        | some did => { s with home := home }.notifyAgentLeft net did)
  | timedOut {did : String} {now : ℕ} {home : ConnectionState W} :
      ConnectionStep s.home (.timedOut did now) home →
      DirectoryStep net s (.timedOut did now)
        { s with
          home := home
          links := { s.links with registry := Function.update s.links.registry did none } }
  | cleaned {now : ℕ} {home : ConnectionState W} :
      ConnectionStep s.home (.cleaned now) home →
      DirectoryStep net s (.cleaned now)
        { s with
          home := home
          links := { s.links with
            registry := fun did =>
              if (home.registry did).isSome then s.links.registry did else none } }
  | linked {event : FederationEvent L A} {links : FederationState L A} :
      FederationStep net.homeConfig net.checks net.homeDid s.links event links →
      event.ofRegistry = false → event ≠ .stopped →
      DirectoryStep net s (.linked event) { s with links := links }
  | stopped {links : FederationState L A} :
      FederationStep net.homeConfig net.checks net.homeDid s.links .stopped links →
      DirectoryStep net s .stopped
        { s with links := links, exportedLocalAgents := fun _ => false }
  -- `maybeActivateRelay`, once the relay is active
  | advertised {ws : L} {agentDids : List String} :
      s.links.connectedSocket net.remoteDid = some ws →
      agentDids.Nodup → (∀ did, did ∈ agentDids ↔ (s.home.registry did).isSome = true) →
      DirectoryStep net s (.advertised ws agentDids)
        (s.advertiseCurrentAgentsToRelay net ws agentDids)
  -- a message about no agent
  | sent {ws : L} {msg : FederationMessage A} :
      msg.agent = none → DirectoryStep net s (.sent ws msg) (s.send ws msg)
  | delivered {ws : L} {msg : FederationMessage A} {rest : List (FederationMessage A)}
      {socket : FederationSocket A} {accepted : Bool} {remote : FederationState L A} :
      s.channel ws = msg :: rest → s.remote.sockets ws = some socket →
      socket.relayDid = some net.homeDid →
      FederationStep net.remoteConfig net.checks net.remoteDid s.remote
        (.message ws msg accepted) remote →
      DirectoryStep net s (.delivered ws msg)
        { s with remote := remote, channel := Function.update s.channel ws rest }
  -- among them the messages of other relays
  | remote {event : FederationEvent L A} {remote : FederationState L A} :
      FederationStep net.remoteConfig net.checks net.remoteDid s.remote event remote →
      (∀ ws msg accepted socket, event = .message ws msg accepted →
        s.remote.sockets ws = some socket → socket.relayDid ≠ some net.homeDid) →
      DirectoryStep net s (.remote event) { s with remote := remote }

/-- Two relays that have just started. -/
structure DirectoryState.Starting (s : DirectoryState W L A) : Prop where
  home : s.home.Starting
  links : s.links.Starting
  remote : s.remote.Starting
  channel : ∀ ws, s.channel ws = []

end

/-! ### What an event leaves of the agents of the home relay -/

section

variable {W : Type} [DecidableEq W]
variable {s s' : ConnectionState W} {event : ConnectionEvent W} {did : String}

/-- **What the registry says of an agent**: whether it is online, whether it is discoverable, and its
realm. -/
def ConnectionState.standing (s : ConnectionState W) (did : String) :
    Option (Bool × Bool × String) :=
  (s.get did).map fun agent => (agent.online, agent.discoverable, agent.realm)

/-- Every entry has an object of its own. -/
def ConnectionState.Numbered (s : ConnectionState W) : Prop :=
  ∀ did ref, s.registry did = some ref → ref < s.count ∧ (s.agents ref).did = did

/-- The agents that an event is about. -/
def ConnectionState.Touches (s : ConnectionState W) (did : String) : ConnectionEvent W → Prop
  | .registered ws _ _ => (s.connections ws).hello = some (.verifying did)
  | .closed ws _ => (s.connections ws).did = some did
  | .published ws => (s.connections ws).did = some did
  | .unpublished ws => (s.connections ws).did = some did
  | .timedOut did' _ => did' = did
  | .cleaned _ => s.isOnline did = false
  | .deliveryFailed ref => s.registry did = some ref
  | _ => False

theorem ConnectionState.Numbered.of_eq (h : s.Numbered) (hregistry : s'.registry = s.registry)
    (hcount : s'.count = s.count) (hagents : s'.agents = s.agents) : s'.Numbered := by
  intro did ref hentry
  rw [hregistry] at hentry
  rw [hcount, hagents]
  exact h did ref hentry

theorem ConnectionState.Numbered.same (h : s.Numbered) (hsame : SameRegistration s s') :
    s'.Numbered := by
  intro did ref hentry
  rw [hsame.registry] at hentry
  rw [hsame.count, (hsame.agents ref).1]
  exact h did ref hentry

variable {f : RegisteredAgent W → RegisteredAgent W} {now : ℕ} {did' : String}

theorem ConnectionState.Numbered.modify (h : s.Numbered) (did : String)
    (hf : ∀ agent, (f agent).did = agent.did) : (s.modify did f).Numbered := by
  rw [ConnectionState.modify]
  split
  · exact h
  · rename_i ref _
    intro did' ref' hentry
    obtain ⟨hlt, hdid⟩ := h did' ref' hentry
    refine ⟨hlt, ?_⟩
    dsimp only
    by_cases href : ref' = ref
    · rw [href, Function.update_self, hf, ← href, hdid]
    · rw [Function.update_of_ne href, hdid]

theorem ConnectionState.Numbered.unregister (h : s.Numbered) {registry : String → Option ℕ}
    (hkept : ∀ did ref, registry did = some ref → s.registry did = some ref) :
    ConnectionState.Numbered { s with registry := registry } :=
  fun did ref hentry => h did ref (hkept did ref hentry)

theorem ConnectionState.Numbered.register (h : s.Numbered) (did realm : String) (ws : W)
    (now : ℕ) : (s.register did ws realm now).Numbered := by
  obtain ⟨t, hsame, hregister⟩ := register_eq s did realm ws now
  rw [hregister]
  have ht := h.same hsame
  intro did' ref hentry
  dsimp only at hentry ⊢
  rcases update_apply_eq_iff.mp hentry with ⟨hdid, hentry⟩ | ⟨_, hentry⟩
  · obtain rfl := Option.some.inj hentry
    rw [Function.update_self]
    exact ⟨by omega, hdid.symm⟩
  · obtain ⟨hlt, hown⟩ := ht did' ref hentry
    rw [Function.update_of_ne (Nat.ne_of_lt hlt)]
    exact ⟨by omega, hown⟩

theorem ConnectionState.Numbered.handleAgentDisconnect (h : s.Numbered) (did : String) (now : ℕ) :
    (s.handleAgentDisconnect did now).Numbered := by
  have hoffline : (s.markOffline did now).Numbered := h.modify did fun _ => rfl
  have hunpublished : ((s.markOffline did now).unpublish did).Numbered :=
    hoffline.modify did fun _ => rfl
  exact hunpublished.of_eq rfl rfl rfl

theorem registry_cleanup {ref : ℕ} (hentry : (s.cleanup now).registry did = some ref) :
    s.registry did = some ref := by
  rw [ConnectionState.cleanup] at hentry
  dsimp only at hentry
  split at hentry
  · split at hentry
    · cases hentry
    · exact hentry
  · cases hentry

theorem ConnectionState.Numbered.step (h : s.Numbered) (hstep : ConnectionStep s event s') :
    s'.Numbered := by
  cases hstep with
  | helloReceived _ => exact h.of_eq rfl rfl rfl
  | @helloRejected ws _ _ =>
    have hset : (s.setConnection ws ⟨none, none⟩).Numbered := h.of_eq rfl rfl rfl
    exact hset.same (.close _ ws)
  | @registered ws did realm now _ _ =>
    have hset : (s.setConnection ws ⟨none, some (.registered did)⟩).Numbered := h.of_eq rfl rfl rfl
    exact (hset.register did realm ws now).same (.recordPing _ did now)
  | helloEnded _ => exact h.of_eq rfl rfl rfl
  | @helloFailed ws _ _ =>
    have hset : (s.setConnection ws ⟨none, none⟩).Numbered := h.of_eq rfl rfl rfl
    exact hset.same (.close _ ws)
  | @peerClosed ws => exact h.same (.close s ws)
  | @dropped ws => exact h.same (.close s ws)
  | @closed ws now next _ hnext =>
    have hclosed : next.Numbered := by
      rw [hnext]
      exact h.of_eq rfl rfl rfl
    split
    · exact hclosed.handleAgentDisconnect _ now
    · exact hclosed
  | pinged _ => exact h.same (.recordPing s _ _)
  | published _ => exact h.modify _ fun _ => rfl
  | unpublished _ => exact h.modify _ fun _ => rfl
  | subscribed _ => exact h.same (.subscribe s _ _ _)
  | unsubscribed => exact h.of_eq rfl rfl rfl
  | @timedOut did _ _ _ _ =>
    have hping : (s.removePing did).Numbered := h.of_eq rfl rfl rfl
    rw [ConnectionState.handleTimeout]
    split
    · exact hping
    · rename_i agent _
      refine (hping.same (.close _ agent.ws)).unregister fun did' ref hentry => ?_
      rcases update_apply_eq_iff.mp hentry with ⟨_, hentry⟩ | ⟨_, hentry⟩
      · cases hentry
      · exact hentry
  | cleaned => exact h.unregister fun _ _ => registry_cleanup
  | @deliveryFailed ref _ =>
    intro did ref' hentry
    obtain ⟨hlt, hdid⟩ := h did ref' hentry
    refine ⟨hlt, ?_⟩
    dsimp only
    by_cases href : ref' = ref
    · rw [href, Function.update_self, ← href, hdid]
    · rw [Function.update_of_ne href, hdid]

theorem standing_congr (hregistry : s'.registry did = s.registry did)
    (hagents : ∀ ref, s.registry did = some ref →
      (s'.agents ref).online = (s.agents ref).online ∧
        (s'.agents ref).discoverable = (s.agents ref).discoverable ∧
          (s'.agents ref).realm = (s.agents ref).realm) : s'.standing did = s.standing did := by
  rw [ConnectionState.standing, ConnectionState.get, ConnectionState.standing, ConnectionState.get,
    hregistry]
  cases hentry : s.registry did with
  | none => rfl
  | some ref =>
    obtain ⟨honline, hdiscoverable, hrealm⟩ := hagents ref hentry
    rw [Option.map_some, Option.map_some, Option.map_some, Option.map_some, honline, hdiscoverable,
      hrealm]

theorem standing_close (s : ConnectionState W) (ws : W) (did : String) :
    (s.close ws).standing did = s.standing did := by
  rw [ConnectionState.close]
  split <;> rfl

theorem standing_modify (h : s.Numbered)
    (hf : did' = did → ∀ agent, (f agent).online = agent.online ∧
      (f agent).discoverable = agent.discoverable ∧ (f agent).realm = agent.realm) :
    (s.modify did' f).standing did = s.standing did := by
  rw [ConnectionState.modify]
  cases hmodified : s.registry did' with
  | none => rfl
  | some ref =>
    refine standing_congr rfl fun ref' hentry => ?_
    dsimp only
    by_cases href : ref' = ref
    · subst href
      rw [Function.update_self]
      have hdid : did' = did := (h did' ref' hmodified).2.symm.trans (h did ref' hentry).2
      exact hf hdid _
    · rw [Function.update_of_ne href]
      exact ⟨rfl, rfl, rfl⟩

theorem register_agents (s : ConnectionState W) (did realm : String) (ws : W) (now : ℕ) :
    (s.register did ws realm now).registry = Function.update s.registry did (some s.count) ∧
      (s.register did ws realm now).agents = Function.update s.agents s.count
        { did := did, ws := ws, realm := realm, online := true, discoverable := false
          lastSeen := now } := by
  rw [ConnectionState.register]
  cases s.get did with
  | none => exact ⟨rfl, rfl⟩
  | some existing =>
    dsimp only
    split
    · rw [ConnectionState.close]
      split <;> exact ⟨rfl, rfl⟩
    · exact ⟨rfl, rfl⟩

theorem standing_register (h : s.Numbered) (hne : did ≠ did') (realm : String) (ws : W) (now : ℕ) :
    (s.register did' ws realm now).standing did = s.standing did := by
  obtain ⟨hregistry, hagents⟩ := register_agents s did' realm ws now
  refine standing_congr ?_ fun ref hentry => ?_
  · rw [hregistry, Function.update_of_ne hne]
  · rw [hagents, Function.update_of_ne (Nat.ne_of_lt (h did ref hentry).1)]
    exact ⟨rfl, rfl, rfl⟩

theorem standing_recordPing (h : s.Numbered) (did' : String) (now : ℕ) :
    (s.recordPing did' now).standing did = s.standing did := by
  have hping : ConnectionState.Numbered
      { s with lastPing := Function.update s.lastPing did' (some now) } := h.of_eq rfl rfl rfl
  exact standing_modify hping fun _ _ => ⟨rfl, rfl, rfl⟩

theorem standing_handleAgentDisconnect (h : s.Numbered) (hne : did' ≠ did) (now : ℕ) :
    (s.handleAgentDisconnect did' now).standing did = s.standing did := by
  have hoffline : (s.markOffline did' now).Numbered := h.modify did' fun _ => rfl
  have hunpublished : ((s.markOffline did' now).unpublish did').standing did
      = (s.markOffline did' now).standing did :=
    standing_modify hoffline fun hdid => absurd hdid hne
  have hmarked : (s.markOffline did' now).standing did = s.standing did :=
    standing_modify h fun hdid => absurd hdid hne
  exact hunpublished.trans hmarked

theorem standing_cleanup (honline : s.isOnline did = true) :
    (s.cleanup now).standing did = s.standing did := by
  refine standing_congr ?_ fun _ _ => ⟨rfl, rfl, rfl⟩
  rw [ConnectionState.isOnline] at honline
  rw [ConnectionState.cleanup]
  dsimp only
  cases hget : s.get did with
  | none =>
    rw [hget] at honline
    cases honline
  | some agent =>
    rw [hget] at honline
    dsimp only at honline ⊢
    rw [if_neg]
    rintro ⟨hoffline, _⟩
    rw [honline] at hoffline
    cases hoffline

/-- **An event leaves the standing of an agent** that it is not about. -/
theorem standing_of_untouched (h : s.Numbered) (hstep : ConnectionStep s event s')
    (huntouched : ¬s.Touches did event) : s'.standing did = s.standing did := by
  cases hstep with
  | helloReceived _ => rfl
  | @helloRejected ws _ _ => exact standing_close _ ws did
  | @registered ws did' realm now hconnection _ =>
    have hne : did ≠ did' := by
      rintro rfl
      exact huntouched (by rw [ConnectionState.Touches, hconnection])
    have hset : (s.setConnection ws ⟨none, some (.registered did')⟩).Numbered := h.of_eq rfl rfl rfl
    have hregistered := hset.register did' realm ws now
    rw [standing_recordPing hregistered, standing_register hset hne]
    rfl
  | helloEnded _ => rfl
  | @helloFailed ws _ _ => exact standing_close _ ws did
  | @peerClosed ws => exact standing_close s ws did
  | @dropped ws => exact standing_close s ws did
  | @closed ws now next _ hnext =>
    have hclosed : next.Numbered := by
      rw [hnext]
      exact h.of_eq rfl rfl rfl
    have hsame : next.standing did = s.standing did := by
      rw [hnext]
      rfl
    split
    · rename_i did' hdid
      have hne : did' ≠ did := by
        rintro rfl
        exact huntouched hdid
      rw [standing_handleAgentDisconnect hclosed hne, hsame]
    · exact hsame
  | pinged _ => exact standing_recordPing h _ _
  | published hdid => exact standing_modify h fun heq => absurd (heq ▸ hdid) huntouched
  | unpublished hdid => exact standing_modify h fun heq => absurd (heq ▸ hdid) huntouched
  | @subscribed ws did' id _ =>
    rw [ConnectionState.subscribe]
    split <;> rfl
  | unsubscribed => rfl
  | @timedOut did' _ _ _ _ =>
    have hne : did ≠ did' := fun heq => huntouched heq.symm
    rw [ConnectionState.handleTimeout]
    split
    · rfl
    · rename_i agent _
      have hclosed := standing_close (s.removePing did') agent.ws did
      refine Eq.trans ?_ hclosed
      exact standing_congr (Function.update_of_ne hne ..) fun _ _ => ⟨rfl, rfl, rfl⟩
  | cleaned =>
    refine standing_cleanup ?_
    cases honline : s.isOnline did with
    | true => rfl
    | false => exact absurd honline huntouched
  | @deliveryFailed ref _ =>
    refine standing_congr rfl fun ref' hentry => ?_
    have href : ref' ≠ ref := fun heq => huntouched (heq ▸ hentry)
    dsimp only
    rw [Function.update_of_ne href]
    exact ⟨rfl, rfl, rfl⟩

end

end QuadraA.Relay
