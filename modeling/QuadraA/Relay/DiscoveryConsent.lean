import QuadraA.Relay.FederationCards
import QuadraA.Relay.RemoteDirectory

/-!
# Agents are listed with their consent

The remote relay lists the agents whose AGENT_JOINED it has, until it has their AGENT_LEFT.  An agent
that the home relay does not have online, discoverable and exportable any more has to be taken back,
with an AGENT_LEFT that comes after every AGENT_JOINED of it.

* `discovery_consent` — no answer of the remote relay lists an agent that is not to be listed, once
  all messages are processed;
* `listed_without_consent` — an agent that has only connected.
-/

set_option linter.unusedSectionVars false

namespace QuadraA.Relay

open QuadraA.Lib

/-! ### What a step of a relay does to its directory -/

section

variable {W A : Type} [DecidableEq W]
variable {config : FederationConfig} {checks : CardChecks A} {selfDid : String}
variable {s s' s'' : FederationState W A} {event : FederationEvent W A} {relayDid : String}

/-- No card of an own agent changes, and no route comes. -/
structure KeepsDirectory (s s' : FederationState W A) : Prop where
  registry : s'.registry = s.registry
  routes : ∀ agentDid route, s'.remoteAgentRoutes agentDid = some route →
    s.remoteAgentRoutes agentDid = some route

theorem KeepsDirectory.of_eq (hregistry : s'.registry = s.registry)
    (hroutes : s'.remoteAgentRoutes = s.remoteAgentRoutes) : KeepsDirectory s s' :=
  ⟨hregistry, fun agentDid route hroute => by rwa [hroutes] at hroute⟩

theorem KeepsDirectory.cards (h : KeepsCards s s') : KeepsDirectory s s' := ⟨h.registry, h.routes⟩

theorem KeepsDirectory.same (h : SameEntries s s') : KeepsDirectory s s' :=
  .of_eq h.registry h.remoteAgentRoutes

theorem KeepsDirectory.trans (h : KeepsDirectory s s') (h' : KeepsDirectory s' s'') :
    KeepsDirectory s s'' :=
  ⟨h'.registry.trans h.registry,
    fun agentDid route hroute => h.routes agentDid route (h'.routes agentDid route hroute)⟩

theorem KeepsDirectory.modifyRelay (s : FederationState W A) (relayDid : String)
    (f : FederatedRelay W A → FederatedRelay W A) :
    KeepsDirectory s (s.modifyRelay relayDid f) := by
  rw [FederationState.modifyRelay]
  split <;> exact .of_eq rfl rfl

theorem KeepsDirectory.registerFederatedRelay (s : FederationState W A) (relayDid : String)
    (card : A) (ws : W) (source : Option (Option String)) :
    KeepsDirectory s (s.registerFederatedRelay relayDid card ws source) := by
  refine (KeepsDirectory.same (.closeReplaced s relayDid ws)).trans ?_
  refine (KeepsDirectory.cards (.clearProbationTimer _ relayDid)).trans ?_
  exact .of_eq rfl rfl

theorem KeepsDirectory.admitRelay (s : FederationState W A) (task : ℕ) (relayDid : String)
    (card : A) : KeepsDirectory s (s.admitRelay task relayDid card) := by
  have hadmitted : KeepsDirectory s ((s.modifyRelay relayDid fun relay =>
      { relay with card := some card, admissionState := some .admitted }).endAdmission task) :=
    (KeepsDirectory.modifyRelay s relayDid _).trans (.same (.endAdmission _ task))
  rw [FederationState.admitRelay]
  dsimp only
  split
  · exact hadmitted
  · refine hadmitted.trans (KeepsDirectory.trans ?_ (.cards (.clearProbationTimer _ relayDid)))
    split <;> exact .of_eq rfl rfl

/-- A message announces an agent of a relay. -/
def FederationState.Announces (s : FederationState W A) (event : FederationEvent W A)
    (agentDid relayDid : String) : Prop :=
  ∃ ws socket card realm accepted,
    event = .message ws (.agentJoined agentDid card realm) accepted ∧
      s.sockets ws = some socket ∧ socket.relayDid = some relayDid

/-- **A step leaves the directory as it is**, but for the events of the registry and for the messages
that announce an agent. -/
theorem directory_of_step (hstep : FederationStep config checks selfDid s event s') :
    (event.ofRegistry = false → s'.registry = s.registry) ∧
      ∀ agentDid route, s'.remoteAgentRoutes agentDid = some route →
        s.remoteAgentRoutes agentDid = some route ∨ s.Announces event agentDid route.relayDid := by
  have hkeeps {t : FederationState W A} {event : FederationEvent W A} (h : KeepsDirectory s t) :
      (event.ofRegistry = false → t.registry = s.registry) ∧
        ∀ agentDid route, t.remoteAgentRoutes agentDid = some route →
          s.remoteAgentRoutes agentDid = some route ∨ s.Announces event agentDid route.relayDid :=
    ⟨fun _ => h.registry, fun agentDid route hroute => Or.inl (h.routes agentDid route hroute)⟩
  by_cases hquiet : event.bringsCard = false
  · exact hkeeps (.cards (keepsCards_of_step hstep hquiet))
  cases hstep with
  | registered _ _ => exact ⟨nofun, fun _ _ hroute => Or.inl hroute⟩
  | published _ => exact ⟨nofun, fun _ _ hroute => Or.inl hroute⟩
  | unregistered => exact ⟨nofun, fun _ _ hroute => Or.inl hroute⟩
  | @accepted ws relayDid card endpoints remoteIp now _ _ _ _ =>
    refine hkeeps (KeepsDirectory.trans (KeepsDirectory.trans ?_
      (.registerFederatedRelay _ relayDid card ws _)) (.cards (.scheduleAdmission _ relayDid ws)))
    exact .of_eq rfl rfl
  | connecting _ _ _ _ _ => exact hkeeps (.of_eq rfl rfl)
  | @welcomed ws socket relayDid card relayCard endpoints _ _ _ _ _ _ _ =>
    refine hkeeps (KeepsDirectory.trans (KeepsDirectory.trans (KeepsDirectory.trans ?_
      (.registerFederatedRelay _ relayDid relayCard ws none)) (.modifyRelay _ relayDid _))
        (.cards (.scheduleAdmission _ relayDid ws)))
    exact .of_eq rfl rfl
  | cardAccepted _ _ _ _ => exact hkeeps (.admitRelay _ _ _ _)
  | @message ws socket relayDid msg hsocket _ hdid =>
    split
    swap
    · exact hkeeps (.of_eq rfl rfl)
    cases msg with
    | welcome card => exact hkeeps (.modifyRelay s relayDid _)
    | agentJoined agentDid card realm =>
      refine ⟨fun _ => rfl, fun other route hroute => ?_⟩
      rcases update_apply_eq_iff.mp hroute with ⟨rfl, hwritten⟩ | ⟨_, hroute⟩
      · obtain rfl := Option.some.inj hwritten
        exact Or.inr ⟨ws, socket, card, realm, _, rfl, hsocket, hdid⟩
      · exact Or.inl hroute
    | _ => exact absurd rfl hquiet
  | _ => exact absurd rfl hquiet

/-- An active relay gets every message past the gate. -/
theorem accepts_of_active (hrelay : s.federatedRelays relayDid = some relay)
    (hactive : relay.isDataPlaneActive = true) (msg : FederationMessage A) :
    s.accepts relayDid msg = true := by
  rw [FederationState.accepts, hrelay]
  exact (Bool.or_eq_true _ _).mpr (Or.inl hactive)

theorem readyState_setPhase (s : FederationState W A) (task : ℕ) (phase : AdmissionPhase A) :
    (s.setPhase task phase).readyState = s.readyState := by
  rw [FederationState.setPhase]
  split <;> rfl

theorem readyState_modifyRelay (s : FederationState W A) (relayDid : String)
    (f : FederatedRelay W A → FederatedRelay W A) :
    (s.modifyRelay relayDid f).readyState = s.readyState := by
  rw [FederationState.modifyRelay]
  split <;> rfl

theorem readyState_clearProbationTimer (s : FederationState W A) (relayDid : String) :
    (s.clearProbationTimer relayDid).readyState = s.readyState := by
  rw [FederationState.clearProbationTimer]
  split
  · rfl
  · exact readyState_modifyRelay _ relayDid _

theorem readyState_dropProbe (s : FederationState W A) (task : Option ℕ) (rejected : Bool) :
    (s.dropProbe task rejected).readyState = s.readyState := by
  cases task with
  | none => rfl
  | some task =>
    cases rejected with
    | true => exact readyState_setPhase s task .failed
    | false => rfl

theorem readyState_clearPendingProbe (s : FederationState W A) (relayDid : String)
    (rejected : Bool) : (s.clearPendingProbe relayDid rejected).readyState = s.readyState :=
  (readyState_dropProbe _ _ rejected).trans (readyState_dropProbe s _ rejected)

/-- A message that gets past the gate. -/
theorem FederationStep.handled (hsocket : s.sockets ws = some socket)
    (hhandled : socket.handled = true) (hdid : socket.relayDid = some relayDid)
    (haccepts : s.accepts relayDid msg = true) :
    FederationStep config checks selfDid s (.message ws msg true) (s.handleMessage relayDid msg) := by
  have hmessage := @FederationStep.message W A _ config checks selfDid s ws socket relayDid msg
    hsocket hhandled hdid
  rwa [haccepts, if_pos rfl] at hmessage

/-- A step of an admission that goes well, or a message. -/
def FederationEvent.admits : FederationEvent W A → Bool
  | .admissionBegun _ | .cardProbed _ | .cardAccepted _ _ | .message _ _ _ => true
  | _ => false

/-- The admission of a relay and its messages close no socket. -/
theorem readyState_of_step (hstep : FederationStep config checks selfDid s event s')
    (hevent : event.admits = true) : s'.readyState = s.readyState := by
  cases hstep with
  | @admissionBegun task admission _ _ =>
    rw [FederationState.beginAdmission]
    split
    · refine (readyState_setPhase _ task .healthProbe).trans ?_
      refine (readyState_clearPendingProbe _ admission.relayDid true).trans ?_
      exact (readyState_modifyRelay _ admission.relayDid _).trans
        (readyState_clearProbationTimer s admission.relayDid)
    · rfl
  | cardProbed _ _ =>
    rw [FederationState.runCardProbe]
    split
    · exact readyState_setPhase _ _ _
    · exact readyState_setPhase _ _ _
  | @cardAccepted task admission card _ _ _ _ =>
    rw [FederationState.admitRelay]
    dsimp only
    split
    · exact readyState_modifyRelay s admission.relayDid _
    · refine (readyState_clearProbationTimer _ admission.relayDid).trans ?_
      split <;> exact readyState_modifyRelay s admission.relayDid _
  | @message ws socket relayDid msg _ _ _ =>
    split
    swap
    · rfl
    cases msg with
    | welcome card => exact readyState_modifyRelay s relayDid _
    | admitted => exact readyState_modifyRelay s relayDid _
    | agentLeft agentDid =>
      show (s.removeRemoteAgentRoute agentDid relayDid).readyState = _
      rw [FederationState.removeRemoteAgentRoute]
      split <;> rfl
    | healthResponse =>
      show (s.handleFederationHealthResponse relayDid).readyState = _
      rw [FederationState.handleFederationHealthResponse]
      split
      · rfl
      · exact readyState_setPhase _ _ _
    | card did card =>
      show (s.handleFederationCard relayDid did card).readyState = _
      rw [FederationState.handleFederationCard]
      split
      · rfl
      · split
        · exact readyState_setPhase _ _ _
        · rfl
    | _ => rfl
  | _ => cases hevent

theorem readyState_of_run {events : List (FederationEvent W A)}
    (hrun : Trace (FederationStep config checks selfDid) s events s')
    (hevents : ∀ event ∈ events, event.admits = true) : s'.readyState = s.readyState := by
  induction hrun with
  | nil => rfl
  | snoc _ hlast ih =>
    have hbefore := ih fun event hmem => hevents event (List.mem_append_left _ hmem)
    exact (readyState_of_step hlast (hevents _ (List.mem_append_right _ List.mem_cons_self))).trans
      hbefore

theorem connectedSocket_eq (hrelay : s.federatedRelays relayDid = some relay)
    (hactive : relay.isDataPlaneActive = true) (hws : relay.ws = some ws)
    (hopen : s.readyState ws = .OPEN) : s.connectedSocket relayDid = some ws := by
  have hisOpen : s.isOpen relay.ws = true := by
    rw [hws]
    exact decide_eq_true hopen
  rw [FederationState.connectedSocket, hrelay]
  dsimp only
  rw [hactive, hisOpen, hws]
  rfl

/-- **A message** is acted on for the relay of its socket, if it gets past the gate. -/
theorem message_eq {accepted : Bool} (hsocket : s.sockets ws = some socket)
    (hdid : socket.relayDid = some relayDid)
    (hstep : FederationStep config checks selfDid s (.message ws msg accepted) s') :
    s' = if s.accepts relayDid msg then s.handleMessage relayDid msg else s := by
  generalize hevent : FederationEvent.message ws msg accepted = event at hstep
  cases hstep with
  | @message ws' socket' relayDid' msg' hsocket' _ hdid' =>
    injection hevent with hws hmsg _
    subst hws hmsg
    rw [hsocket] at hsocket'
    obtain rfl := Option.some.inj hsocket'
    rw [hdid] at hdid'
    obtain rfl := Option.some.inj hdid'
    rfl
  | _ => cases hevent

end

section

variable {W L A : Type} [DecidableEq W] [DecidableEq L]
variable {net : TwoRelays A} {s s' s'' start : DirectoryState W L A} {did agentDid : String}
  {event : DirectoryEvent W L A} {events : List (DirectoryEvent W L A)}

/-! ### Agents that are listed, and agents that are taken back -/

/-- **An agent is to be listed**: it is online and discoverable, and its realm exports its card. -/
def DirectoryState.Consented (net : TwoRelays A) (s : DirectoryState W L A) (did : String) : Prop :=
  ∃ realm card, s.home.standing did = some (true, true, realm) ∧
    s.links.registry did = some card ∧
      shouldExportAgent net.exports (net.metadata card) realm = true

/-- Every AGENT_JOINED of an agent is followed by an AGENT_LEFT of it. -/
def Recalled (did : String) : List (FederationMessage A) → Prop
  | [] => True
  | .agentJoined agentDid _ _ :: msgs =>
      (agentDid = did → .agentLeft did ∈ msgs) ∧ Recalled did msgs
  | _ :: msgs => Recalled did msgs

/-- **An agent is being taken back**, or the remote relay knows nothing of it. -/
structure DirectoryState.Withdrawn (net : TwoRelays A) (s : DirectoryState W L A)
    (did : String) : Prop where
  joined : ∀ ws, Recalled did (s.channel ws)
  listed : ∀ route, s.remote.remoteAgentRoutes did = some route → route.relayDid = net.homeDid →
    ∃ ws, .agentLeft did ∈ s.channel ws

/-- **An AGENT_LEFT would take the agent back**: the home relay would send it, over the one socket
that may have an AGENT_JOINED of the agent under way. -/
def DirectoryState.Recallable (net : TwoRelays A) (s : DirectoryState W L A)
    (did : String) : Prop :=
  s.exportedLocalAgents did = true ∧ ∃ ws, s.links.connectedSocket net.remoteDid = some ws ∧
    ∀ ws', ws' ≠ ws → Recalled did (s.channel ws')

/-- **The condition of an event.**  An agent is not announced by its HELLO, nor while it is offline,
nor to a relay that becomes active before it is discoverable; and whenever it stops to be listed, the
remote relay knows nothing of it, or the AGENT_LEFT that is sent takes it back.  The remote relay
starts over only with a relay that has no routes. -/
def DirectoryState.Heeds (net : TwoRelays A) (s : DirectoryState W L A) :
    DirectoryEvent W L A → Prop
  | .connection event => ∀ did, s.home.Touches did event → s.Withdrawn net did
  | .registered ws card realm _ => ∀ did, s.home.connections ws = ⟨none, some (.verifying did)⟩ →
      if shouldExportAgent net.exports (net.metadata card) realm = true then
        s.links.connectedSocket net.remoteDid = none ∧ s.Withdrawn net did
      else s.Withdrawn net did ∨ s.Recallable net did
  | .published ws card => ∀ did agent updated, (s.home.connections ws).did = some did →
      s.home.get did = some agent → (card <|> s.links.registry did) = some updated →
        if shouldExportAgent net.exports (net.metadata updated) agent.realm = true then
          agent.online = true
        else s.Withdrawn net did ∨ s.Recallable net did
  | .closed ws _ => ∀ did, (s.home.connections ws).did = some did →
      s.Withdrawn net did ∨ s.Recallable net did
  | .timedOut did _ => s.Withdrawn net did
  | .advertised _ _ => ∀ did agent card, s.home.get did = some agent →
      s.links.registry did = some card → agent.online = true → did ≠ net.homeDid →
        shouldExportAgent net.exports (net.metadata card) agent.realm = true →
          agent.discoverable = true
  | .remote event => ∀ relayDid, s.remote.Resets relayDid event → s.remote.Unrouted relayDid
  | _ => True

def HeedfulStep (net : TwoRelays A) (s : DirectoryState W L A) (event : DirectoryEvent W L A)
    (s' : DirectoryState W L A) : Prop :=
  DirectoryStep net s event s' ∧ s.Heeds net event

/-! ### Messages under way -/

variable {msg : FederationMessage A} {msgs : List (FederationMessage A)} {card : A} {realm : String}
  {ws : L} {remote links : FederationState L A} {agent : RegisteredAgent W}
  {home : ConnectionState W}

theorem Recalled.tail (h : Recalled did (msg :: msgs)) : Recalled did msgs := by
  cases msg with
  | agentJoined agentDid card realm => exact h.2
  | _ => exact h

theorem Recalled.append {msgs' : List (FederationMessage A)} (h : Recalled did msgs)
    (hsilent : ∀ card realm, .agentJoined did card realm ∉ msgs') :
    Recalled did (msgs ++ msgs') := by
  induction msgs with
  | nil =>
    rw [List.nil_append]
    clear h
    induction msgs' with
    | nil => trivial
    | cons msg msgs' ih =>
      have hrest := ih fun card realm hmem => hsilent card realm (List.mem_cons_of_mem _ hmem)
      cases msg with
      | agentJoined agentDid card realm =>
        refine ⟨fun hdid => ?_, hrest⟩
        subst hdid
        exact absurd List.mem_cons_self (hsilent card realm)
      | _ => exact hrest
  | cons msg msgs ih =>
    cases msg with
    | agentJoined agentDid card realm =>
      exact ⟨fun hdid => List.mem_append_left _ (h.1 hdid), ih h.2⟩
    | _ => exact ih h

/-- **An AGENT_LEFT at the end** takes back all before it. -/
theorem Recalled.left (did : String) (msgs : List (FederationMessage A)) :
    Recalled did (msgs ++ [.agentLeft did]) := by
  induction msgs with
  | nil => trivial
  | cons msg msgs ih =>
    cases msg with
    | agentJoined agentDid card realm =>
      exact ⟨fun _ => List.mem_append_right _ List.mem_cons_self, ih⟩
    | _ => exact ih

/-! ### What the home relay sends -/

/-- The home relay sends messages, none of which announces an agent. -/
structure Sends (did : String) (s s' : DirectoryState W L A) : Prop where
  home : s'.home = s.home
  links : s'.links = s.links
  remote : s'.remote = s.remote
  channel : ∀ ws, ∃ msgs, s'.channel ws = s.channel ws ++ msgs ∧
    ∀ card realm, .agentJoined did card realm ∉ msgs

theorem Sends.of_eq (hhome : s'.home = s.home) (hlinks : s'.links = s.links)
    (hremote : s'.remote = s.remote) (hchannel : s'.channel = s.channel) : Sends did s s' :=
  ⟨hhome, hlinks, hremote, fun ws => ⟨[], by rw [hchannel, List.append_nil], fun _ _ => nofun⟩⟩

theorem Sends.trans (h : Sends did s s') (h' : Sends did s' s'') : Sends did s s'' := by
  refine ⟨h'.home.trans h.home, h'.links.trans h.links, h'.remote.trans h.remote, fun ws => ?_⟩
  obtain ⟨msgs, hmsgs, hsilent⟩ := h.channel ws
  obtain ⟨msgs', hmsgs', hsilent'⟩ := h'.channel ws
  refine ⟨msgs ++ msgs', by rw [hmsgs', hmsgs, List.append_assoc], fun card realm hmem => ?_⟩
  rcases List.mem_append.mp hmem with hfirst | hsecond
  · exact hsilent card realm hfirst
  · exact hsilent' card realm hsecond

theorem channel_send (s : DirectoryState W L A) (ws : L) (msg : FederationMessage A) :
    (s.send ws msg).channel ws = s.channel ws ++ [msg] := Function.update_self ..

theorem Sends.send (s : DirectoryState W L A) (ws : L)
    (hsilent : ∀ card realm, msg ≠ .agentJoined did card realm) : Sends did s (s.send ws msg) := by
  refine ⟨rfl, rfl, rfl, fun ws' => ?_⟩
  show ∃ msgs, Function.update s.channel ws (s.channel ws ++ [msg]) ws' = _ ∧ _
  by_cases hws : ws' = ws
  · rw [hws, Function.update_self]
    refine ⟨[msg], rfl, fun card realm hmem => ?_⟩
    exact hsilent card realm (List.mem_singleton.mp hmem).symm
  · rw [Function.update_of_ne hws]
    exact ⟨[], (List.append_nil _).symm, fun _ _ => nofun⟩

theorem Sends.broadcast (s : DirectoryState W L A)
    (hsilent : ∀ card realm, msg ≠ .agentJoined did card realm) :
    Sends did s (s.broadcastToFederation net msg) := by
  rw [DirectoryState.broadcastToFederation]
  split
  · exact .of_eq rfl rfl rfl rfl
  · exact .send s _ hsilent

theorem Sends.notifyAgentLeft (s : DirectoryState W L A) (did agentDid : String) :
    Sends did s (s.notifyAgentLeft net agentDid) := by
  rw [DirectoryState.notifyAgentLeft]
  split
  · refine Sends.trans ?_ (.broadcast _ nofun)
    exact .of_eq rfl rfl rfl rfl
  · exact .of_eq rfl rfl rfl rfl

/-- The announcement of another agent. -/
theorem Sends.notifyAgentJoined (s : DirectoryState W L A) (hne : agentDid ≠ did) (card : A)
    (realm : String) : Sends did s (s.notifyAgentJoined net agentDid card realm) := by
  rw [DirectoryState.notifyAgentJoined]
  split
  · refine Sends.trans ?_ (.broadcast _ fun card' realm' heq => ?_)
    · exact .of_eq rfl rfl rfl rfl
    · injection heq with hdid
      exact hne hdid
  · split
    · exact .notifyAgentLeft s did agentDid
    · exact .of_eq rfl rfl rfl rfl

/-- Without a relay that is connected, nobody is told. -/
theorem notifyAgentJoined_unconnected
    (hexport : shouldExportAgent net.exports (net.metadata card) realm = true)
    (hnone : s.links.connectedSocket net.remoteDid = none) :
    s.notifyAgentJoined net agentDid card realm = { s with
      exportedLocalAgents := Function.update s.exportedLocalAgents agentDid true } := by
  rw [DirectoryState.notifyAgentJoined, if_pos hexport, DirectoryState.broadcastToFederation]
  dsimp only
  rw [hnone]

theorem notifyAgentJoined_kept (s : DirectoryState W L A) (agentDid : String) (card : A)
    (realm : String) : (s.notifyAgentJoined net agentDid card realm).home = s.home ∧
      (s.notifyAgentJoined net agentDid card realm).links = s.links ∧
        (s.notifyAgentJoined net agentDid card realm).remote = s.remote := by
  rw [DirectoryState.notifyAgentJoined]
  split
  · rw [DirectoryState.broadcastToFederation]
    split <;> exact ⟨rfl, rfl, rfl⟩
  · split
    · have hsends := @Sends.notifyAgentLeft _ _ _ _ _ net s agentDid agentDid
      exact ⟨hsends.home, hsends.links, hsends.remote⟩
    · exact ⟨rfl, rfl, rfl⟩

theorem DirectoryState.Withdrawn.sends (h : s.Withdrawn net did) (hsends : Sends did s s') :
    s'.Withdrawn net did := by
  refine ⟨fun ws => ?_, fun route hroute hhome => ?_⟩
  · obtain ⟨msgs, hmsgs, hsilent⟩ := hsends.channel ws
    rw [hmsgs]
    exact (h.joined ws).append hsilent
  · rw [hsends.remote] at hroute
    obtain ⟨ws, hleft⟩ := h.listed route hroute hhome
    obtain ⟨msgs, hmsgs, _⟩ := hsends.channel ws
    exact ⟨ws, by rw [hmsgs]; exact List.mem_append_left _ hleft⟩

/-- Only the messages under way and the routes of the remote relay count. -/
theorem DirectoryState.Withdrawn.of_eq (h : s.Withdrawn net did) (hchannel : s'.channel = s.channel)
    (hremote : s'.remote = s.remote) : s'.Withdrawn net did := by
  refine ⟨fun ws => ?_, fun route hroute hhome => ?_⟩
  · rw [hchannel]
    exact h.joined ws
  · rw [hremote] at hroute
    rw [hchannel]
    exact h.listed route hroute hhome

/-- Only the registry of the home relay counts. -/
theorem DirectoryState.Consented.congr (h : s.Consented net did)
    (hstanding : s'.home.standing did = s.home.standing did)
    (hcard : s'.links.registry did = s.links.registry did) : s'.Consented net did := by
  obtain ⟨realm, card, hagent, hregistry, hexport⟩ := h
  exact ⟨realm, card, hstanding.trans hagent, hcard.trans hregistry, hexport⟩

theorem DirectoryState.Consented.of_home (h : s.Consented net did) (hhome : s'.home = s.home)
    (hlinks : s'.links = s.links) : s'.Consented net did :=
  h.congr (by rw [hhome]) (by rw [hlinks])

/-- **An AGENT_LEFT takes an agent back**, if it goes over the socket of its announcements. -/
theorem withdrawn_notifyAgentLeft (h : s.Withdrawn net did ∨ s.Recallable net did) :
    (s.notifyAgentLeft net did).Withdrawn net did := by
  rcases h with hwithdrawn | ⟨hexported, ws, hsocket, hothers⟩
  · exact hwithdrawn.sends (.notifyAgentLeft s did did)
  · rw [DirectoryState.notifyAgentLeft, if_pos hexported, DirectoryState.broadcastToFederation]
    dsimp only
    rw [hsocket]
    have hleft : FederationMessage.agentLeft did
        ∈ Function.update s.channel ws (s.channel ws ++ [.agentLeft did]) ws := by
      rw [Function.update_self]
      exact List.mem_append_right _ List.mem_cons_self
    refine ⟨fun ws' => ?_, fun _ _ _ => ⟨ws, hleft⟩⟩
    show Recalled did (Function.update s.channel ws (s.channel ws ++ [.agentLeft did]) ws')
    by_cases hws : ws' = ws
    · rw [hws, Function.update_self]
      exact .left did _
    · rw [Function.update_of_ne hws]
      exact hothers ws' hws

/-- A card that is not exported takes its agent back. -/
theorem withdrawn_notifyAgentJoined
    (hexport : ¬shouldExportAgent net.exports (net.metadata card) realm = true)
    (h : s.Withdrawn net did ∨ s.Recallable net did) :
    (s.notifyAgentJoined net did card realm).Withdrawn net did := by
  rw [DirectoryState.notifyAgentJoined, if_neg hexport]
  split
  · exact withdrawn_notifyAgentLeft h
  · rename_i hexported
    exact h.resolve_right fun hrecallable => hexported hrecallable.1

/-- An agent that is not to be listed is not advertised, if all that are exported are
discoverable. -/
theorem Sends.advertise (hheeds : s.Heeds net (.advertised ws [])) (hnot : ¬s.Consented net did)
    (agentDid : String) {t : DirectoryState W L A} (hsends : Sends did s t) :
    Sends did s (t.advertise net ws agentDid) := by
  rw [DirectoryState.advertise]
  cases hget : t.home.get agentDid with
  | none => exact hsends
  | some agent =>
    cases hcard : t.links.registry agentDid with
    | none => exact hsends
    | some card =>
      dsimp only
      split
      · exact hsends
      · split
        · exact hsends
        · split
          · exact hsends
          · rename_i hoffline hdid hkept
            have honline := Bool.eq_true_of_not_eq_false hoffline
            have hexport := Bool.eq_true_of_not_eq_false hkept
            rw [hsends.home] at hget
            rw [hsends.links] at hcard
            refine hsends.trans (Sends.trans ?_ (.send _ ws fun card' realm heq => ?_))
            · exact .of_eq rfl rfl rfl rfl
            · -- an agent that is advertised is to be listed
              injection heq with heq
              subst heq
              refine hnot ⟨agent.realm, card, ?_, hcard, hexport⟩
              rw [ConnectionState.standing, hget, Option.map_some, honline,
                hheeds agentDid agent card hget hcard honline hdid hexport]

theorem Sends.advertiseCurrentAgentsToRelay (hheeds : s.Heeds net (.advertised ws []))
    (hnot : ¬s.Consented net did) (agentDids : List String) :
    Sends did s (s.advertiseCurrentAgentsToRelay net ws agentDids) := by
  rw [DirectoryState.advertiseCurrentAgentsToRelay]
  have hgeneral (t : DirectoryState W L A) (hsends : Sends did s t) :
      Sends did s (agentDids.foldl (DirectoryState.advertise net ws) t) := by
    induction agentDids generalizing t with
    | nil => exact hsends
    | cons agentDid agentDids ih => exact ih _ (hsends.advertise hheeds hnot agentDid)
  exact hgeneral s (.of_eq rfl rfl rfl rfl)

theorem advertise_kept (net : TwoRelays A) (s : DirectoryState W L A) (ws : L)
    (agentDids : List String) : (s.advertiseCurrentAgentsToRelay net ws agentDids).home = s.home ∧
      (s.advertiseCurrentAgentsToRelay net ws agentDids).links = s.links ∧
        (s.advertiseCurrentAgentsToRelay net ws agentDids).remote = s.remote := by
  rw [DirectoryState.advertiseCurrentAgentsToRelay]
  induction agentDids generalizing s with
  | nil => exact ⟨rfl, rfl, rfl⟩
  | cons agentDid agentDids ih =>
    obtain ⟨hhome, hlinks, hremote⟩ := ih (s.advertise net ws agentDid)
    have hturn : (s.advertise net ws agentDid).home = s.home ∧
        (s.advertise net ws agentDid).links = s.links ∧
          (s.advertise net ws agentDid).remote = s.remote := by
      rw [DirectoryState.advertise]
      split
      · split
        · exact ⟨rfl, rfl, rfl⟩
        · split
          · exact ⟨rfl, rfl, rfl⟩
          · split <;> exact ⟨rfl, rfl, rfl⟩
      · exact ⟨rfl, rfl, rfl⟩
    exact ⟨hhome.trans hturn.1, hlinks.trans hturn.2.1, hremote.trans hturn.2.2⟩

/-! ### What the remote relay processes -/

/-- **A message is processed**: an AGENT_JOINED has its AGENT_LEFT behind it, and an AGENT_LEFT is
not held back, since the relay of a route is active. -/
theorem DirectoryState.Withdrawn.delivered (h : s.Withdrawn net did) (hrouted : Routed s.remote)
    {rest : List (FederationMessage A)} {socket : FederationSocket A} {accepted : Bool}
    (hchannel : s.channel ws = msg :: rest) (hsocket : s.remote.sockets ws = some socket)
    (hdid : socket.relayDid = some net.homeDid)
    (hstep : FederationStep net.remoteConfig net.checks net.remoteDid s.remote
      (.message ws msg accepted) remote) :
    DirectoryState.Withdrawn net
      { s with remote := remote, channel := Function.update s.channel ws rest } did := by
  have hfollowed := h.joined ws
  rw [hchannel] at hfollowed
  refine ⟨fun ws' => ?_, fun route hroute hhome => ?_⟩
  · dsimp only
    by_cases hws : ws' = ws
    · rw [hws, Function.update_self]
      exact hfollowed.tail
    · rw [Function.update_of_ne hws]
      exact h.joined ws'
  dsimp only at hroute ⊢
  rcases (directory_of_step hstep).2 did route hroute with hbefore | hannounced
  · obtain ⟨ws', hleft⟩ := h.listed route hbefore hhome
    refine ⟨ws', ?_⟩
    by_cases hws : ws' = ws
    swap
    · rwa [Function.update_of_ne hws]
    rw [hws, Function.update_self]
    rw [hws, hchannel] at hleft
    rcases List.mem_cons.mp hleft with hmsg | hrest
    · -- the AGENT_LEFT itself takes the route
      exfalso
      subst hmsg
      obtain ⟨relay, hrelay, hactive⟩ := hrouted.active did route hbefore
      rw [hhome] at hrelay
      have haccepts := accepts_of_active hrelay hactive (.agentLeft did)
      have hremoved : s.remote.handleMessage net.homeDid (.agentLeft did) = { s.remote with
          remoteAgentRoutes := Function.update s.remote.remoteAgentRoutes did none } := by
        show s.remote.removeRemoteAgentRoute did net.homeDid = _
        rw [FederationState.removeRemoteAgentRoute, hbefore, Option.map_some, hhome, if_pos rfl]
      rw [message_eq hsocket hdid hstep, haccepts, if_pos rfl, hremoved] at hroute
      dsimp only at hroute
      rw [Function.update_self] at hroute
      cases hroute
    · exact hrest
  · obtain ⟨_, _, card, realm, _, hevent, _, _⟩ := hannounced
    injection hevent with _ hmsg _
    subst hmsg
    exact ⟨ws, by rw [Function.update_self]; exact hfollowed.1 rfl⟩

/-! ### Steps -/

/-- **Every agent is to be listed, or is being taken back.** -/
structure Heedful (net : TwoRelays A) (s : DirectoryState W L A) : Prop where
  numbered : s.home.Numbered
  routed : Routed s.remote
  agents : ∀ did, s.Consented net did ∨ s.Withdrawn net did

theorem registry_modify (s : ConnectionState W) (did : String)
    (f : RegisteredAgent W → RegisteredAgent W) : (s.modify did f).registry = s.registry := by
  rw [ConnectionState.modify]
  split <;> rfl

theorem get_publish {s : ConnectionState W} (hget : s.get did = some agent) :
    (s.publish did).get did = some { agent with discoverable := true } := by
  obtain ⟨ref, hentry, hagent⟩ := Option.map_eq_some_iff.mp hget
  rw [ConnectionState.publish, ConnectionState.modify, hentry, ConnectionState.get]
  dsimp only
  rw [hentry, Option.map_some, Function.update_self, hagent]

theorem standing_publish {s : ConnectionState W} (hget : s.get did = some agent) :
    (s.publish did).standing did = some (agent.online, true, agent.realm) := by
  rw [ConnectionState.standing, get_publish hget]
  rfl

/-- An agent that an event at the home relay is not about stands as before. -/
theorem Heedful.untouched (h : Heedful net s) {event : ConnectionEvent W}
    (hstep : ConnectionStep s.home event home) (hhome : s'.home = home)
    (huntouched : ¬s.home.Touches did event) (hcard : s'.links.registry did = s.links.registry did)
    (hchannel : s'.channel = s.channel) (hremote : s'.remote = s.remote) :
    s'.Consented net did ∨ s'.Withdrawn net did := by
  refine (h.agents did).imp (fun hconsented => hconsented.congr ?_ hcard)
    fun hwithdrawn => hwithdrawn.of_eq hchannel hremote
  rw [hhome]
  exact standing_of_untouched h.numbered hstep huntouched

/-- Messages that do not announce an agent change nothing about it. -/
theorem kept_sends (h : s.Consented net did ∨ s.Withdrawn net did) (hsends : Sends did s s') :
    s'.Consented net did ∨ s'.Withdrawn net did :=
  h.imp (fun hconsented => hconsented.of_home hsends.home hsends.links)
    fun hwithdrawn => hwithdrawn.sends hsends

theorem Heedful.registered (h : Heedful net s) {ws : W} {now : ℕ}
    (hheeds : s.Heeds net (.registered ws card realm now))
    (hconnection : s.home.connections ws = ⟨none, some (.verifying agentDid)⟩)
    (hstep : ConnectionStep s.home (.registered ws realm now) home)
    (hlinks : FederationStep net.homeConfig net.checks net.homeDid s.links
      (.registered agentDid card) links) (did : String) :
    (DirectoryState.notifyAgentJoined net { s with home := home, links := links } agentDid card
        realm).Consented net did ∨
      (DirectoryState.notifyAgentJoined net { s with home := home, links := links } agentDid card
        realm).Withdrawn net did := by
  have hcond := hheeds agentDid hconnection
  cases hlinks
  by_cases hdid : agentDid = did
  · subst hdid
    by_cases hexport : shouldExportAgent net.exports (net.metadata card) realm = true
    · -- there is nobody to tell
      rw [if_pos hexport] at hcond
      rw [notifyAgentJoined_unconnected hexport (by exact hcond.1)]
      exact Or.inr (hcond.2.of_eq rfl rfl)
    · rw [if_neg hexport] at hcond
      refine Or.inr (withdrawn_notifyAgentJoined hexport ?_)
      exact hcond.imp (fun hwithdrawn => hwithdrawn.of_eq rfl rfl) fun hrecallable => hrecallable
  · refine kept_sends ?_ (.notifyAgentJoined _ hdid card realm)
    refine h.untouched hstep rfl ?_ (Function.update_of_ne (Ne.symm hdid) ..) rfl rfl
    rw [ConnectionState.Touches, hconnection]
    rintro heq
    cases heq
    exact hdid rfl

theorem Heedful.published (h : Heedful net s) {ws : W} {card : Option A} {updated : A}
    (hheeds : s.Heeds net (.published ws card))
    (hconnection : (s.home.connections ws).did = some agentDid)
    (hget : s.home.get agentDid = some agent) (hstep : ConnectionStep s.home (.published ws) home)
    (hlinks : FederationStep net.homeConfig net.checks net.homeDid s.links
      (.published agentDid card) links) (hupdated : links.registry agentDid = some updated)
    (did : String) :
    (DirectoryState.notifyAgentJoined net { s with home := home, links := links } agentDid updated
        agent.realm).Consented net did ∨
      (DirectoryState.notifyAgentJoined net { s with home := home, links := links } agentDid updated
        agent.realm).Withdrawn net did := by
  have hcard : (card <|> s.links.registry agentDid) = some updated := by
    cases hlinks with
    | published hold =>
      dsimp only at hupdated
      rwa [Function.update_self, ← hold] at hupdated
  have hother (hdid : did ≠ agentDid) : links.registry did = s.links.registry did := by
    cases hlinks with
    | published hold => exact Function.update_of_ne hdid ..
  have hpublish : home = s.home.publish agentDid := by
    generalize hevent : ConnectionEvent.published ws = event at hstep
    cases hstep with
    | published hdid =>
      injection hevent with hws
      subst hws
      rw [hconnection] at hdid
      cases hdid
      rfl
    | _ => cases hevent
  have hcond := hheeds agentDid agent updated hconnection hget hcard
  by_cases hdid : agentDid = did
  · subst hdid
    by_cases hexport : shouldExportAgent net.exports (net.metadata updated) agent.realm = true
    · rw [if_pos hexport] at hcond
      obtain ⟨hhome, hkept, _⟩ := @notifyAgentJoined_kept _ _ _ _ _ net
        { s with home := home, links := links } agentDid updated agent.realm
      refine Or.inl ⟨agent.realm, updated, ?_, by rw [hkept]; exact hupdated, hexport⟩
      rw [hhome, hpublish, standing_publish hget, hcond]
    · rw [if_neg hexport] at hcond
      refine Or.inr (withdrawn_notifyAgentJoined hexport ?_)
      cases hlinks with
      | published _ =>
        exact hcond.imp (fun hwithdrawn => hwithdrawn.of_eq rfl rfl) fun hrecallable => hrecallable
  · refine kept_sends ?_ (.notifyAgentJoined _ hdid updated agent.realm)
    refine h.untouched hstep rfl ?_ (hother (Ne.symm hdid)) rfl rfl
    rw [ConnectionState.Touches, hconnection]
    exact fun heq => hdid (Option.some.inj heq)

theorem Heedful.step (h : Heedful net s) (hstep : HeedfulStep net s event s') : Heedful net s' := by
  obtain ⟨hstep, hheeds⟩ := hstep
  cases hstep with
  | @connection event home hconnection _ =>
    refine ⟨h.numbered.step hconnection, h.routed, fun did => ?_⟩
    by_cases htouched : s.home.Touches did event
    · exact Or.inr ((hheeds did htouched).of_eq rfl rfl)
    · exact h.untouched hconnection rfl htouched rfl rfl rfl
  | @registered ws agentDid realm card now home links hconnection hregistered hlinks =>
    obtain ⟨hhome, _, hremote⟩ := @notifyAgentJoined_kept _ _ _ _ _ net
      { s with home := home, links := links } agentDid card realm
    refine ⟨?_, ?_, h.registered hheeds hconnection hregistered hlinks⟩
    · rw [hhome]
      exact h.numbered.step hregistered
    · rw [hremote]
      exact h.routed
  | @published ws agentDid agent card updated home links hconnection hget hpublished hlinks
      hupdated =>
    obtain ⟨hhome, _, hremote⟩ := @notifyAgentJoined_kept _ _ _ _ _ net
      { s with home := home, links := links } agentDid updated agent.realm
    refine ⟨?_, ?_, h.published hheeds hconnection hget hpublished hlinks hupdated⟩
    · rw [hhome]
      exact h.numbered.step hpublished
    · rw [hremote]
      exact h.routed
  | @closed ws now home hclosed =>
    cases hconnection : (s.home.connections ws).did with
    | none =>
      refine ⟨h.numbered.step hclosed, h.routed, fun did => ?_⟩
      refine h.untouched hclosed rfl ?_ rfl rfl rfl
      rw [ConnectionState.Touches, hconnection]
      rintro ⟨⟩
    | some agentDid =>
      have hsends (did : String) := @Sends.notifyAgentLeft _ _ _ _ _ net
        { s with home := home } did agentDid
      refine ⟨?_, ?_, fun did => ?_⟩
      · rw [(hsends agentDid).home]
        exact h.numbered.step hclosed
      · rw [(hsends agentDid).remote]
        exact h.routed
      by_cases hdid : agentDid = did
      · subst hdid
        refine Or.inr (withdrawn_notifyAgentLeft ?_)
        exact (hheeds agentDid hconnection).imp (fun hwithdrawn => hwithdrawn.of_eq rfl rfl)
          fun hrecallable => hrecallable
      · refine kept_sends ?_ (hsends did)
        refine h.untouched hclosed rfl ?_ rfl rfl rfl
        rw [ConnectionState.Touches, hconnection]
        exact fun heq => hdid (Option.some.inj heq)
  | @timedOut agentDid now home htimeout =>
    refine ⟨h.numbered.step htimeout, h.routed, fun did => ?_⟩
    by_cases hdid : did = agentDid
    · subst hdid
      exact Or.inr (DirectoryState.Withdrawn.of_eq hheeds rfl rfl)
    · exact h.untouched htimeout rfl (fun heq => hdid heq.symm) (Function.update_of_ne hdid ..) rfl rfl
  | @cleaned now home hcleaned =>
    refine ⟨h.numbered.step hcleaned, h.routed, fun did => (h.agents did).imp (fun hconsented => ?_)
      fun hwithdrawn => hwithdrawn.of_eq rfl rfl⟩
    -- an agent that is online stays
    obtain ⟨realm, card, hagent, hcard, hexport⟩ := hconsented
    obtain ⟨agent, hget, hstands⟩ := Option.map_eq_some_iff.mp hagent
    have honline : s.home.isOnline did = true := by
      rw [ConnectionState.isOnline, hget]
      exact congrArg Prod.fst hstands
    have hstanding : home.standing did = s.home.standing did :=
      standing_of_untouched h.numbered hcleaned (by rw [ConnectionState.Touches, honline]; rintro ⟨⟩)
    have hkept : (home.registry did).isSome = true := by
      have hagent' := hstanding.trans hagent
      rw [ConnectionState.standing] at hagent'
      obtain ⟨_, hget', _⟩ := Option.map_eq_some_iff.mp hagent'
      obtain ⟨_, hentry, _⟩ := Option.map_eq_some_iff.mp hget'
      rw [hentry]
      rfl
    exact ⟨realm, card, hstanding.trans hagent, (if_pos hkept).trans hcard, hexport⟩
  | @linked event links hlinks hregistry _ =>
    refine ⟨h.numbered, h.routed, fun did => (h.agents did).imp (fun hconsented => ?_)
      fun hwithdrawn => hwithdrawn.of_eq rfl rfl⟩
    exact hconsented.congr rfl (congrFun ((directory_of_step hlinks).1 hregistry) did)
  | @stopped links hlinks =>
    refine ⟨h.numbered, h.routed, fun did => (h.agents did).imp (fun hconsented => ?_)
      fun hwithdrawn => hwithdrawn.of_eq rfl rfl⟩
    exact hconsented.congr rfl (congrFun ((directory_of_step hlinks).1 rfl) did)
  | @advertised ws agentDids _ _ _ =>
    obtain ⟨hhome, hlinks, hremote⟩ := advertise_kept net s ws agentDids
    refine ⟨?_, ?_, fun did => ?_⟩
    · rw [hhome]
      exact h.numbered
    · rw [hremote]
      exact h.routed
    by_cases hconsented : s.Consented net did
    · exact Or.inl (hconsented.of_home hhome hlinks)
    · refine Or.inr (((h.agents did).resolve_left hconsented).sends ?_)
      exact .advertiseCurrentAgentsToRelay hheeds hconsented agentDids
  | @sent ws msg hsilent =>
    have hsends (did : String) : Sends did s (s.send ws msg) := by
      refine .send s ws fun card realm heq => ?_
      rw [heq] at hsilent
      cases hsilent
    exact ⟨h.numbered, h.routed, fun did => kept_sends (h.agents did) (hsends did)⟩
  | @delivered ws msg rest socket accepted remote hchannel hsocket hdid hmessage =>
    refine ⟨h.numbered, h.routed.step ⟨hmessage, by rintro _ ⟨⟩⟩, fun did => (h.agents did).imp
      (fun hconsented => hconsented.of_home rfl rfl) fun hwithdrawn => ?_⟩
    exact hwithdrawn.delivered h.routed hchannel hsocket hdid hmessage
  | @remote event remote hremote hforeign =>
    refine ⟨h.numbered, h.routed.step ⟨hremote, hheeds⟩, fun did => (h.agents did).imp
      (fun hconsented => hconsented.of_home rfl rfl) fun hwithdrawn => ?_⟩
    refine ⟨hwithdrawn.joined, fun route hroute hhome => ?_⟩
    rcases (directory_of_step hremote).2 did route hroute with hbefore | hannounced
    · exact hwithdrawn.listed route hbefore hhome
    · obtain ⟨ws, socket, card, realm, accepted, hevent, hsocket, hdid⟩ := hannounced
      rw [hhome] at hdid
      exact absurd hdid (hforeign ws _ accepted socket hevent hsocket)

/-! ### Runs -/

theorem Heedful.of_starting (hstart : start.Starting) : Heedful net start := by
  refine ⟨fun did ref hentry => ?_, ⟨fun relayDid relay hrelay => ?_, fun did route hroute => ?_⟩,
    fun did => Or.inr ⟨fun ws => ?_, fun route hroute => ?_⟩⟩
  · rw [hstart.home.registry] at hentry
    cases hentry
  · rw [hstart.remote.federatedRelays] at hrelay
    cases hrelay
  · rw [hstart.remote.remoteAgentRoutes] at hroute
    cases hroute
  · rw [hstart.channel]
    trivial
  · rw [hstart.remote.remoteAgentRoutes] at hroute
    cases hroute

theorem Heedful.run (hstart : start.Starting)
    (hrun : Trace (HeedfulStep net) start events s) : Heedful net s := by
  induction hrun with
  | nil => exact .of_starting hstart
  | snoc _ hlast ih => exact ih.step hlast

/-- **Agents are listed with their consent.**  In every heedful run, once all messages are processed,
an agent of the home relay that an answer of the remote relay lists is online, discoverable and
exportable. -/
theorem discovery_consent (hstart : start.Starting)
    (hrun : Trace (HeedfulStep net) start events s) (hprocessed : ∀ ws, s.channel ws = []) :
    ∀ selects requesterRealm did entry,
      s.remote.discovered selects requesterRealm did = some entry →
        entry.homeRelay = net.homeDid → s.Consented net did := by
  intro selects requesterRealm did entry hentry hhome
  refine ((Heedful.run hstart hrun).agents did).resolve_right fun hwithdrawn => ?_
  rw [FederationState.discovered] at hentry
  split at hentry
  · cases hentry
  obtain ⟨hlisted, _⟩ := Option.filter_eq_some_iff.mp hentry
  obtain ⟨route, hroute, hlists⟩ := Option.map_eq_some_iff.mp hlisted
  rw [← hlists] at hhome
  obtain ⟨ws, hleft⟩ := hwithdrawn.listed route hroute hhome
  rw [hprocessed] at hleft
  cases hleft

/-- **A run of the federation manager** of the home relay is a run of both relays. -/
theorem linked_run {events : List (FederationEvent L A)}
    (hrun : Trace (FederationStep net.homeConfig net.checks net.homeDid) s.links events links)
    (hevents : ∀ event ∈ events, event.ofRegistry = false ∧ event ≠ .stopped) :
    ∃ events', Trace (HeedfulStep net) s events' { s with links := links } := by
  induction hrun with
  | nil => exact ⟨[], .nil⟩
  | snoc _ hlast ih =>
    obtain ⟨events', hrun'⟩ := ih fun event hmem => hevents event (List.mem_append_left _ hmem)
    obtain ⟨hregistry, hstopped⟩ := hevents _ (List.mem_append_right _ List.mem_cons_self)
    exact ⟨_, hrun'.snoc ⟨.linked hlast hregistry hstopped, trivial⟩⟩

/-- **A run of the federation manager** of the remote relay is one, too: what it receives about no
agent is sent and processed. -/
theorem remote_run {events : List (FederationEvent L A)}
    (hrun : Trace (UnroutedStep net.remoteConfig net.checks net.remoteDid) s.remote events remote)
    (hprocessed : ∀ ws, s.channel ws = [])
    (hevents : ∀ ws msg accepted, .message ws msg accepted ∈ events → msg.agent = none) :
    ∃ events', Trace (HeedfulStep net) s events' { s with remote := remote } := by
  induction hrun with
  | nil => exact ⟨[], .nil⟩
  | @snoc _ t _ event _ hlast ih =>
    obtain ⟨events', hrun'⟩ := ih fun ws msg accepted hmem =>
      hevents ws msg accepted (List.mem_append_left _ hmem)
    by_cases hhome : ∃ ws msg accepted socket, event = .message ws msg accepted ∧
        t.sockets ws = some socket ∧ socket.relayDid = some net.homeDid
    · obtain ⟨ws, msg, accepted, socket, rfl, hsocket, hdid⟩ := hhome
      have hsilent := hevents ws msg accepted (List.mem_append_right _ List.mem_cons_self)
      have hsent := hrun'.snoc (u := DirectoryState.send { s with remote := t } ws msg)
        ⟨.sent hsilent, trivial⟩
      have hchannel : (DirectoryState.send { s with remote := t } ws msg).channel ws = [msg] := by
        rw [channel_send, hprocessed]
        rfl
      have hdelivered := hsent.snoc ⟨.delivered hchannel hsocket hdid hlast.1, trivial⟩
      have hback : Function.update (Function.update s.channel ws (s.channel ws ++ [msg])) ws []
          = s.channel := by
        rw [Function.update_idem, ← hprocessed ws, Function.update_eq_self]
      change Trace _ _ _ { s with
        remote := _
        channel := Function.update (Function.update s.channel ws (s.channel ws ++ [msg])) ws [] }
        at hdelivered
      rw [hback] at hdelivered
      exact ⟨_, hdelivered⟩
    · refine ⟨_, hrun'.snoc ⟨.remote hlast.1 fun ws msg accepted socket hevent hsocket hdid => ?_,
        hlast.2⟩⟩
      exact hhome ⟨ws, msg, accepted, socket, hevent, hsocket, hdid⟩

end

/-! ### Runs of two relays -/

def homeRelayDid : String := "did:agent:zRelayA"

def homeCard : String × Bool := (homeRelayDid, true)

/-- Two relays that export every agent. -/
def sampleRelays : TwoRelays (String × Bool) where
  homeConfig := DEFAULT_FEDERATION_CONFIG
  remoteConfig := DEFAULT_FEDERATION_CONFIG
  exports := DEFAULT_EXPORT_CONFIG
  metadata _ := ⟨none, none, false, false⟩
  checks := sampleChecks
  homeDid := homeRelayDid
  remoteDid := peerRelayDid

def aloneRelays : DirectoryState Bool Bool (String × Bool) where
  home := idleRelay
  links := aloneRelay
  exportedLocalAgents _ := false
  channel _ := []
  remote := aloneRelay

theorem aloneRelays_starting : aloneRelays.Starting :=
  ⟨idleRelay_starting, aloneRelay_starting, aloneRelay_starting, fun _ => rfl⟩

/-- The remote relay connects to the home relay, and each of them admits the other: what happens at
the home relay, whatever agents it has. -/
theorem home_linked (registry : String → Option (String × Bool)) :
    ∃ events, ∃ links : FederationState Bool (String × Bool),
      Trace (FederationStep DEFAULT_FEDERATION_CONFIG sampleChecks homeRelayDid)
        { aloneRelay with registry := registry } events links ∧
      (∀ event ∈ events, event.ofRegistry = false ∧ event ≠ .stopped) ∧
      links.connectedSocket peerRelayDid = some true ∧ links.registry = registry := by
  have haccepted := Trace.single (@FederationStep.accepted Bool (String × Bool) _
    DEFAULT_FEDERATION_CONFIG sampleChecks homeRelayDid { aloneRelay with registry := registry } true
    peerRelayDid peerCard [] none 0 rfl rfl rfl rfl)
  have hrun {t : FederationState Bool (String × Bool)} {e : List (FederationEvent Bool _)}
      (_ : Trace (FederationStep DEFAULT_FEDERATION_CONFIG sampleChecks homeRelayDid)
        { aloneRelay with registry := registry } e t) :
      Trace (FederationStep DEFAULT_FEDERATION_CONFIG sampleChecks homeRelayDid) t [] t := .nil
  have hbegun := (hrun haccepted).snoc (@FederationStep.admissionBegun _ _ _ _ _ _ _ 0 _ rfl rfl)
  have hanswered := hbegun.snoc (@FederationStep.handled _ _ _ _ _ _ _ peerRelayDid true _
    .healthResponse rfl rfl rfl rfl)
  have hprobed := hanswered.snoc (@FederationStep.cardProbed _ _ _ _ _ _ _ 0 _ rfl rfl)
  have hcard := hprobed.snoc (@FederationStep.handled _ _ _ _ _ _ _ peerRelayDid true _
    (.card peerRelayDid (some peerCard)) rfl rfl rfl rfl)
  have hadmitted := hcard.snoc (@FederationStep.cardAccepted _ _ _ _ _ _ _ 0 _ peerCard rfl rfl rfl
    rfl)
  have hpeer := hadmitted.snoc (@FederationStep.handled _ _ _ _ _ _ _ peerRelayDid true _ .admitted
    rfl rfl rfl rfl)
  have hopen := congrFun (readyState_of_run hpeer (by simp [FederationEvent.admits])) true
  refine ⟨_, _, haccepted.append hpeer, ?_, connectedSocket_eq (by rfl) (by rfl) (by rfl)
    (hopen.trans (by rfl)), rfl⟩
  simp [FederationEvent.ofRegistry]

/-- What happens at the remote relay. -/
theorem remote_linked :
    ∃ events, ∃ remote : FederationState Bool (String × Bool), ∃ socket,
      Trace (UnroutedStep DEFAULT_FEDERATION_CONFIG sampleChecks peerRelayDid) aloneRelay events
        remote ∧
      (∀ ws msg accepted, .message ws msg accepted ∈ events → msg.agent = none) ∧
      remote.sockets true = some socket ∧ socket.handled = true ∧
      socket.relayDid = some homeRelayDid ∧
      (∀ msg, remote.accepts homeRelayDid msg = true) ∧ remote.registry = fun _ => none := by
  have hrun : Trace (UnroutedStep DEFAULT_FEDERATION_CONFIG sampleChecks peerRelayDid) aloneRelay []
    aloneRelay := .nil
  have hconnecting := hrun.snoc ⟨@FederationStep.seedConnecting _ _ _ _ _ _ _ true rfl,
    fun _ => nofun⟩
  have hwelcomed := hconnecting.snoc ⟨@FederationStep.welcomed _ _ _ _ _ _ _ true _ homeRelayDid
    (some homeCard) homeCard [] rfl rfl (by decide) rfl nofun rfl rfl, fun _ _ => nofun⟩
  have hbegun := hwelcomed.snoc ⟨@FederationStep.admissionBegun _ _ _ _ _ _ _ 0 _ rfl rfl,
    fun _ _ => nofun⟩
  have hanswered := hbegun.snoc ⟨@FederationStep.handled _ _ _ _ _ _ _ homeRelayDid true _
    .healthResponse rfl rfl rfl rfl, fun _ => nofun⟩
  have hprobed := hanswered.snoc ⟨@FederationStep.cardProbed _ _ _ _ _ _ _ 0 _ rfl rfl,
    fun _ => nofun⟩
  have hcard := hprobed.snoc ⟨@FederationStep.handled _ _ _ _ _ _ _ homeRelayDid true _
    (.card homeRelayDid (some homeCard)) rfl rfl rfl rfl, fun _ => nofun⟩
  have hadmitted := hcard.snoc ⟨@FederationStep.cardAccepted _ _ _ _ _ _ _ 0 _ homeCard rfl rfl rfl
    rfl, fun _ => nofun⟩
  have hpeer := hadmitted.snoc ⟨@FederationStep.handled _ _ _ _ _ _ _ homeRelayDid true _ .admitted
    rfl rfl rfl rfl, fun _ => nofun⟩
  refine ⟨_, _, _, hpeer, ?_, by rfl, rfl, rfl, fun msg => accepts_of_active (by rfl) (by rfl) msg,
    by rfl⟩
  intro ws msg accepted hmem
  simp at hmem
  rcases hmem with ⟨rfl, rfl, rfl⟩ | ⟨rfl, rfl, rfl⟩ | ⟨rfl, rfl, rfl⟩ <;> rfl

variable {s : DirectoryState Bool Bool (String × Bool)}

/-- Two relays that are connected, with the agents that the home relay has by then. -/
theorem relays_linked (hlinks : s.links = { aloneRelay with registry := s.links.registry })
    (hremote : s.remote = aloneRelay) (hprocessed : ∀ ws, s.channel ws = []) :
    ∃ events links remote socket,
      Trace (HeedfulStep sampleRelays) s events { s with links := links, remote := remote } ∧
      links.connectedSocket peerRelayDid = some true ∧ links.registry = s.links.registry ∧
      remote.sockets true = some socket ∧ socket.handled = true ∧
      socket.relayDid = some homeRelayDid ∧
      (∀ msg, remote.accepts homeRelayDid msg = true) ∧ remote.registry = fun _ => none := by
  obtain ⟨events, links, hrun, hevents, hconnected, hregistry⟩ := home_linked s.links.registry
  obtain ⟨events', remote, socket, hrun', hevents', hsocket, hhandled, hdid, haccepts, hagents⟩ :=
    remote_linked
  rw [← hlinks] at hrun
  rw [← hremote] at hrun'
  obtain ⟨_, hhome⟩ := @linked_run _ _ _ _ _ sampleRelays s links events hrun hevents
  obtain ⟨_, hboth⟩ := @remote_run _ _ _ _ _ sampleRelays { s with links := links } remote events'
    hrun' hprocessed hevents'
  exact ⟨_, links, remote, socket, hhome.append hboth, hconnected, hregistry, hsocket, hhandled, hdid,
    haccepts, hagents⟩

/-- The home relay advertises the one agent that it has, and the remote relay lists it. -/
theorem agent_listed {agent : RegisteredAgent Bool} {card : String × Bool}
    {socket : FederationSocket (String × Bool)}
    (hconnected : s.links.connectedSocket peerRelayDid = some true)
    (hsocket : s.remote.sockets true = some socket) (hhandled : socket.handled = true)
    (hdid : socket.relayDid = some homeRelayDid)
    (haccepts : ∀ msg, s.remote.accepts homeRelayDid msg = true)
    (hagents : s.remote.registry = fun _ => none) (hprocessed : ∀ ws, s.channel ws = [])
    (hget : s.home.get "did:agent:zBob" = some agent) (honline : agent.online = true)
    (hrealm : agent.realm = "public") (hcard : s.links.registry "did:agent:zBob" = some card)
    (honly : ∀ did, did ∈ ["did:agent:zBob"] ↔ (s.home.registry did).isSome = true) :
    ∃ s' s'',
      DirectoryStep sampleRelays s (.advertised true ["did:agent:zBob"]) s' ∧
      DirectoryStep sampleRelays s' (.delivered true (.agentJoined "did:agent:zBob" card "public"))
        s'' ∧
      s''.home = s.home ∧ s''.links = s.links ∧ (∀ ws, s''.channel ws = []) ∧
      s''.remote.discovered (fun _ => true) "public" "did:agent:zBob"
        = some ⟨"did:agent:zBob", card, true, true, "public", homeRelayDid⟩ := by
  have hadvertised : s.advertiseCurrentAgentsToRelay sampleRelays true ["did:agent:zBob"] =
      DirectoryState.send { s with
        exportedLocalAgents := Function.update s.exportedLocalAgents "did:agent:zBob" true
          } true (.agentJoined "did:agent:zBob" card "public") := by
    show s.advertise sampleRelays true "did:agent:zBob" = _
    rw [DirectoryState.advertise, hget, hcard]
    dsimp only
    rw [honline, hrealm]
    rfl
  have hfirst := @DirectoryStep.advertised _ _ _ _ _ sampleRelays s true _ hconnected
    (List.nodup_singleton _) honly
  rw [hadvertised] at hfirst
  have hchannel : (DirectoryState.send { s with
      exportedLocalAgents := Function.update s.exportedLocalAgents "did:agent:zBob" true
        } true (.agentJoined "did:agent:zBob" card "public")).channel true
          = [.agentJoined "did:agent:zBob" card "public"] := by
    rw [channel_send, hprocessed]
    rfl
  have hmessage := @FederationStep.handled _ _ _ DEFAULT_FEDERATION_CONFIG sampleChecks peerRelayDid
    s.remote homeRelayDid true socket (.agentJoined "did:agent:zBob" card "public") hsocket hhandled
    hdid (haccepts _)
  refine ⟨_, _, hfirst, .delivered hchannel hsocket hdid hmessage, rfl, rfl, fun ws => ?_, ?_⟩
  · cases ws with
    | false => exact hprocessed false
    | true => rfl
  · rw [FederationState.discovered]
    have hnone : (s.remote.handleMessage homeRelayDid
        (.agentJoined "did:agent:zBob" card "public")).registry = fun _ => none := hagents
    dsimp only
    rw [hnone]
    rfl

/-- Bob connects, before the relays do. -/
theorem bob_registered :
    ∃ events, ∃ s : DirectoryState Bool Bool (String × Bool),
      Trace (HeedfulStep sampleRelays) aloneRelays events s ∧
      s.links = { aloneRelay with registry := s.links.registry } ∧ s.remote = aloneRelay ∧
      (∀ ws, s.channel ws = []) ∧
      s.home.connections true = ⟨none, some (.registered "did:agent:zBob")⟩ ∧
      s.home.get "did:agent:zBob" = some ⟨"did:agent:zBob", true, "public", true, false, 0⟩ ∧
      s.links.registry "did:agent:zBob" = some bobCard ∧
      ∀ did, did ∈ ["did:agent:zBob"] ↔ (s.home.registry did).isSome = true := by
  have hrun : Trace (HeedfulStep sampleRelays) aloneRelays [] aloneRelays := .nil
  have hreceived := hrun.snoc ⟨.connection (@ConnectionStep.helloReceived _ _ _ true
    "did:agent:zBob" rfl) rfl, fun _ htouched => htouched.elim⟩
  have hregistered := hreceived.snoc ⟨@DirectoryStep.registered _ _ _ _ _ sampleRelays _ true
    "did:agent:zBob" "public" bobCard 0 _ _ rfl (.registered rfl (by decide)) (.registered rfl rfl),
    fun _ _ => ⟨rfl, fun _ => trivial, nofun⟩⟩
  refine ⟨_, _, hregistered, rfl, rfl, fun _ => rfl, rfl, rfl, rfl, fun did => ?_⟩
  show _ ↔ (Function.update (fun _ => none) "did:agent:zBob" (some 0) did).isSome = true
  by_cases hdid : did = "did:agent:zBob"
  · simp [hdid]
  · simp [hdid]

/-- Bob publishes his card, before the relays connect. -/
theorem bob_published :
    ∃ events, ∃ s : DirectoryState Bool Bool (String × Bool),
      Trace (HeedfulStep sampleRelays) aloneRelays events s ∧
      s.links = { aloneRelay with registry := s.links.registry } ∧ s.remote = aloneRelay ∧
      (∀ ws, s.channel ws = []) ∧
      s.home.get "did:agent:zBob" = some ⟨"did:agent:zBob", true, "public", true, true, 0⟩ ∧
      s.links.registry "did:agent:zBob" = some bobCard ∧
      ∀ did, did ∈ ["did:agent:zBob"] ↔ (s.home.registry did).isSome = true := by
  obtain ⟨_, s, hrun, hlinks, hremote, hprocessed, hconnection, hget, hcard, honly⟩ := bob_registered
  have hended := hrun.snoc ⟨.connection (.helloEnded hconnection) rfl,
    fun _ htouched => htouched.elim⟩
  have hpublished := hended.snoc ⟨@DirectoryStep.published _ _ _ _ _ sampleRelays _ true
    "did:agent:zBob" _ none bobCard _ _ (by rfl) hget (.published (by rfl)) (.published hcard)
    (by rfl), fun did agent _ hdid hagent _ => by
      cases hdid
      obtain rfl := Option.some.inj (hget.symm.trans hagent)
      rfl⟩
  -- there is nobody to tell
  have hnone : FederationState.connectedSocket { s.links with
      registry := Function.update s.links.registry "did:agent:zBob" (none <|> some bobCard)
        } peerRelayDid = none := by
    rw [FederationState.connectedSocket]
    dsimp only
    rw [hlinks]
    rfl
  rw [notifyAgentJoined_unconnected rfl hnone] at hpublished
  have hregistry := registry_modify (s.home.setConnection true ⟨some "did:agent:zBob", none⟩)
    "did:agent:zBob" fun agent => { agent with discoverable := true }
  refine ⟨_, _, hpublished, ?_, hremote, hprocessed, ?_, by rfl, fun did => ?_⟩
  · dsimp only
    rw [hlinks]
  · exact get_publish (s := s.home.setConnection true ⟨some "did:agent:zBob", none⟩) hget
  · rw [honly did]
    exact (congrArg (fun ref => ref.isSome = true) (congrFun hregistry did)).symm.to_iff

/-- The home relay has Bob published, and the remote relay lists him. -/
theorem discovery_consent_sample :
    ∃ s : DirectoryState Bool Bool (String × Bool), ∃ entry,
      s.remote.discovered (fun _ => true) "public" "did:agent:zBob" = some entry ∧
      s.Consented sampleRelays "did:agent:zBob" := by
  obtain ⟨_, s, hrun, hlinks, hremote, hprocessed, hget, hcard, honly⟩ := bob_published
  obtain ⟨_, links, remote, socket, hlinked, hconnected, hregistry, hsocket, hhandled, hdid, haccepts,
    hagents⟩ := relays_linked hlinks hremote hprocessed
  obtain ⟨s', s'', hadvertised, hdelivered, _, _, hchannel, hlisted⟩ := @agent_listed
    { s with links := links, remote := remote } _ bobCard socket hconnected hsocket hhandled hdid
    haccepts hagents hprocessed hget rfl rfl (by rw [hregistry]; exact hcard) honly
  have hlast := ((hrun.append hlinked).snoc ⟨hadvertised, fun did agent _ hagent _ _ _ _ => by
      -- Bob is the one agent
      obtain ⟨ref, hentry, _⟩ := Option.map_eq_some_iff.mp hagent
      obtain rfl := List.mem_singleton.mp ((honly did).mpr (by rw [hentry]; rfl))
      obtain rfl := Option.some.inj (hget.symm.trans hagent)
      rfl⟩).snoc ⟨hdelivered, trivial⟩
  exact ⟨s'', _, hlisted, discovery_consent aloneRelays_starting hlast hchannel _ _ _ _ hlisted rfl⟩

/-- **An agent that has only connected.**  Bob has not published his card, and the remote relay lists
him, once it has processed what the home relay advertises. -/
theorem listed_without_consent :
    ∃ events, ∃ s : DirectoryState Bool Bool (String × Bool), ∃ entry,
      Trace (DirectoryStep sampleRelays) aloneRelays events s ∧ (∀ ws, s.channel ws = []) ∧
      s.remote.discovered (fun _ => true) "public" "did:agent:zBob" = some entry ∧
      entry.homeRelay = sampleRelays.homeDid ∧ ¬s.Consented sampleRelays "did:agent:zBob" := by
  obtain ⟨_, s, hrun, hlinks, hremote, hprocessed, _, hget, hcard, honly⟩ := bob_registered
  obtain ⟨_, links, remote, socket, hlinked, hconnected, hregistry, hsocket, hhandled, hdid, haccepts,
    hagents⟩ := relays_linked hlinks hremote hprocessed
  obtain ⟨s', s'', hadvertised, hdelivered, hhome, _, hchannel, hlisted⟩ := @agent_listed
    { s with links := links, remote := remote } _ bobCard socket hconnected hsocket hhandled hdid
    haccepts hagents hprocessed hget rfl rfl (by rw [hregistry]; exact hcard) honly
  have hlast := (((hrun.append hlinked).mono fun hstep => hstep.1).snoc hadvertised).snoc hdelivered
  refine ⟨_, s'', _, hlast, hchannel, hlisted, rfl, ?_⟩
  rintro ⟨realm, card, hstanding, _⟩
  rw [hhome, ConnectionState.standing] at hstanding
  dsimp only at hstanding
  rw [hget] at hstanding
  cases hstanding

end QuadraA.Relay
